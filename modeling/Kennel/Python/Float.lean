import Kennel.Python.Str
import Mathlib.Tactic.Positivity

namespace Kennel
namespace Python

/-!
# Python floats

A Python `float` is an IEEE 754 binary64 value.  Every finite one is a whole number of units
of `2^-1074`, the least subnormal, so a finite double is held here as a sign and that number
of units: no exponent arithmetic is needed, and each double has one representation.  A whole
number of units is a double exactly when it fits in 53 significant bits and stays below
`2^1024`, that is below `2^2098` units.

The conversions are the ones the harness reaches: `int(x)`, `float(n)` for an `int`, reading a
decimal (`float(text)` and the numbers of `json.loads`), and, in `Kennel.Python.FloatRepr`,
`repr(x)` as `json.dumps` writes it.  Reading rounds to nearest, ties to even, as CPython does.

The model has one `nan` for every NaN.  Nothing the SDK does with a float tells two NaNs apart:
`repr` writes each as `nan`, `json.dumps` as `NaN`, `int` raises on each.  So a NaN's sign and
payload are left out, and with them the one way `float(repr(x))` differs from `x`: a negative NaN
reads back positive.
-/

/-- A whole number of units of `2^-1074` that a binary64 value can hold. -/
def Representable (units : Nat) : Prop :=
  units < 2 ^ 2098 ∧ (units < 2 ^ 53 ∨ units % 2 ^ (units.log2 - 52) = 0)

instance (units : Nat) : Decidable (Representable units) :=
  inferInstanceAs (Decidable (_ ∧ _))

/-- A finite binary64 value: `(-1)^negative * units * 2^-1074`. -/
structure Finite64 where
  negative : Bool
  units : Nat
  representable : Representable units
  deriving DecidableEq

/-- A Python `float`; `nan` is any NaN, whatever its sign and payload. -/
inductive PyFloat where
  | finite (x : Finite64)
  | infinity (negative : Bool)
  | nan
  deriving DecidableEq

namespace PyFloat

/-- `0.0`, or `-0.0`. -/
def zero (negative : Bool) : PyFloat :=
  .finite ⟨negative, 0, by positivity, .inl (by positivity)⟩

/-- `bool(x)`: every float but the two zeros is true, `nan` included. -/
def truthy : PyFloat → Bool
  | .finite x => x.units != 0
  | _ => true

/-- `x != x`. -/
def isNaN : PyFloat → Bool
  | .nan => true
  | _ => false

/-- `int(x)`: truncation toward zero; the infinities and `nan` raise. -/
def toInt : PyFloat → Except PyExc Int
  | .finite x =>
      let whole : Int := (x.units / 2 ^ 1074 : Nat)
      .ok (if x.negative then -whole else whole)
  | .infinity _ =>
      .error ⟨text "OverflowError", text "cannot convert float infinity to integer"⟩
  | .nan => .error ⟨text "ValueError", text "cannot convert float NaN to integer"⟩

end PyFloat

/-! ## Rounding a ratio to the nearest double -/

/-- Whether rounding `q + r / d` to a whole number goes up: past the half, or at the half when
`q` is odd. -/
def roundsUp (q r d : Nat) : Bool :=
  d < 2 * r || (2 * r == d && q % 2 == 1)

/-- The number of low bits a 53-bit significand cannot hold, for a value of `whole` units. -/
def shiftOf (whole : Nat) : Nat :=
  if whole < 2 ^ 53 then 0 else whole.log2 - 52

/-- The units of `2^-1074` nearest to `num / den`, ties to even, at 53 significant bits. -/
def roundUnits (num den : Nat) : Nat :=
  let scaled := num * 2 ^ 1074
  let shift := shiftOf (scaled / den)
  let q := scaled / (den * 2 ^ shift)
  let r := scaled % (den * 2 ^ shift)
  (if roundsUp q r (den * 2 ^ shift) then q + 1 else q) * 2 ^ shift

theorem log2_mul_pow {m : Nat} (positive : m ≠ 0) (s : Nat) :
    (m * 2 ^ s).log2 = m.log2 + s := by
  have nonzero : m * 2 ^ s ≠ 0 := Nat.mul_ne_zero positive (by positivity)
  apply Nat.le_antisymm
  · apply Nat.lt_succ_iff.mp
    rw [Nat.log2_lt nonzero, Nat.pow_succ, Nat.pow_add, Nat.mul_comm (2 ^ m.log2),
      Nat.mul_assoc, Nat.mul_comm]
    exact Nat.mul_lt_mul_of_pos_left (by
      have := @Nat.lt_log2_self m
      rw [Nat.pow_succ] at this
      omega) (by positivity)
  · rw [Nat.le_log2 nonzero, Nat.pow_add]
    exact Nat.mul_le_mul_right _ (Nat.log2_self_le positive)

/-- After the shift a value has at most 53 significant bits, and exactly 53 when it was
shifted at all. -/
theorem shiftOf_bounds (whole : Nat) :
    whole / 2 ^ shiftOf whole < 2 ^ 53 ∧
      (0 < shiftOf whole → 2 ^ 52 ≤ whole / 2 ^ shiftOf whole) := by
  unfold shiftOf
  split
  · simp_all
  · rename_i large
    have bits : 53 ≤ whole.log2 := (Nat.le_log2 (by omega)).mpr (by omega)
    have below : whole < 2 ^ (whole.log2 - 52) * 2 ^ 53 := by
      rw [← Nat.pow_add, show whole.log2 - 52 + 53 = whole.log2 + 1 by omega]
      exact Nat.lt_log2_self
    have above : 2 ^ (whole.log2 - 52) * 2 ^ 52 ≤ whole := by
      rw [← Nat.pow_add, show whole.log2 - 52 + 52 = whole.log2 by omega]
      exact Nat.log2_self_le (by omega)
    exact ⟨(Nat.div_lt_iff_lt_mul (by positivity)).mpr (by rwa [Nat.mul_comm]),
      fun _ => (Nat.le_div_iff_mul_le (by positivity)).mpr (by rwa [Nat.mul_comm])⟩

theorem roundsUp_le {q r d : Nat} :
    (if roundsUp q r d then q + 1 else q) ≤ q + 1 := by
  split <;> omega

/-- A significand of at most `2^53`, at least `2^52` when shifted, shifted by `s` bits is a
whole number of units that fits in 53 significant bits. -/
theorem fits_of_significand {R s : Nat} (le : R ≤ 2 ^ 53) (normal : 0 < s → 2 ^ 52 ≤ R) :
    R * 2 ^ s < 2 ^ 53 ∨ (R * 2 ^ s) % 2 ^ ((R * 2 ^ s).log2 - 52) = 0 := by
  rcases Nat.eq_zero_or_pos R with zero | positive
  · simp [zero]
  rw [log2_mul_pow (by omega)]
  by_cases top : R = 2 ^ 53
  · subst top
    right
    rw [Nat.log2_two_pow, show 53 + s - 52 = s + 1 by omega, ← Nat.pow_add,
      show 53 + s = (s + 1) + 52 by omega, Nat.pow_add]
    exact Nat.mul_mod_right _ _
  · rcases Nat.eq_zero_or_pos s with unshifted | shifted
    · left; subst unshifted; simp only [pow_zero, mul_one]; omega
    · right
      have bits : R.log2 = 52 := by
        apply Nat.le_antisymm
        · exact Nat.lt_succ_iff.mp ((Nat.log2_lt (by omega)).mpr (by omega))
        · exact (Nat.le_log2 (by omega)).mpr (normal shifted)
      rw [bits, show 52 + s - 52 = s by omega]
      exact Nat.mul_mod_left _ _

theorem roundUnits_fits (num den : Nat) :
    roundUnits num den < 2 ^ 53 ∨
      roundUnits num den % 2 ^ ((roundUnits num den).log2 - 52) = 0 := by
  unfold roundUnits
  simp only
  obtain ⟨upper, lower⟩ := shiftOf_bounds (num * 2 ^ 1074 / den)
  rw [Nat.div_div_eq_div_mul] at upper lower
  exact fits_of_significand (Nat.le_trans roundsUp_le upper)
    fun shifted => Nat.le_trans (lower shifted) (by split <;> omega)

/-- A ratio worth a whole number of units that fits in 53 bits rounds to exactly those units. -/
theorem roundUnits_exact {num den units : Nat} (positive : 0 < den)
    (exact : num * 2 ^ 1074 = units * den)
    (fits : units < 2 ^ 53 ∨ units % 2 ^ (units.log2 - 52) = 0) :
    roundUnits num den = units := by
  unfold roundUnits
  simp only [exact, Nat.mul_div_cancel _ positive]
  have divides : units % 2 ^ shiftOf units = 0 := by
    unfold shiftOf
    split
    · exact Nat.mod_one _
    · exact fits.resolve_left ‹_›
  have quotient : units * den / (den * 2 ^ shiftOf units) = units / 2 ^ shiftOf units := by
    rw [Nat.mul_comm den, Nat.mul_div_mul_right _ _ positive]
  have remainder : units * den % (den * 2 ^ shiftOf units) = 0 := by
    rw [Nat.mul_comm den, Nat.mul_mod_mul_right, divides, Nat.zero_mul]
  have notUp : roundsUp (units / 2 ^ shiftOf units) 0 (den * 2 ^ shiftOf units) = false := by
    have : 0 < den * 2 ^ shiftOf units := Nat.mul_pos positive (by positivity)
    simp [roundsUp]; omega
  rw [quotient, remainder, notUp]
  exact Nat.div_mul_cancel (Nat.dvd_of_mod_eq_zero divides)

/-- The double nearest to `num / den` with the given sign; past the largest double it is the
infinity of that sign. -/
def ofRatio (negative : Bool) (num den : Nat) : PyFloat :=
  if below : roundUnits num den < 2 ^ 2098 then
    .finite ⟨negative, roundUnits num den, below, roundUnits_fits num den⟩
  else .infinity negative

/-- The double nearest to `(-1)^negative * digits * 10^exponent`: `float` of a decimal text. -/
def ofDecimal (negative : Bool) (digits : Nat) (exponent : Int) : PyFloat :=
  if exponent < 0 then ofRatio negative digits (10 ^ exponent.natAbs)
  else ofRatio negative (digits * 10 ^ exponent.natAbs) 1

/-! ## Rounding depends on the value only -/

theorem roundsUp_mul (q r d : Nat) {k : Nat} (positive : 0 < k) :
    roundsUp q (r * k) (d * k) = roundsUp q r d := by
  have below : decide (d * k < 2 * (r * k)) = decide (d < 2 * r) := by
    rw [← Nat.mul_assoc]; exact decide_eq_decide.mpr (Nat.mul_lt_mul_right positive)
  have same : (2 * (r * k) == d * k) = (2 * r == d) := by
    rw [← Nat.mul_assoc]
    exact Bool.eq_iff_iff.mpr (by simp only [beq_iff_eq]; exact Nat.mul_right_cancel_iff positive)
  simp only [roundsUp, below, same]

/-- Rounding depends on the ratio only. -/
theorem roundUnits_mul (num den : Nat) {k : Nat} (positive : 0 < k) :
    roundUnits (num * k) (den * k) = roundUnits num den := by
  unfold roundUnits
  have scaled : num * k * 2 ^ 1074 = num * 2 ^ 1074 * k := Nat.mul_right_comm _ _ _
  have whole : num * 2 ^ 1074 * k / (den * k) = num * 2 ^ 1074 / den :=
    Nat.mul_div_mul_right _ _ positive
  simp only [scaled, whole]
  generalize shiftOf (num * 2 ^ 1074 / den) = shift
  have divisor : den * k * 2 ^ shift = den * 2 ^ shift * k := Nat.mul_right_comm _ _ _
  rw [divisor, Nat.mul_div_mul_right _ _ positive, Nat.mul_mod_mul_right, roundsUp_mul _ _ _ positive]

theorem ofRatio_mul (negative : Bool) (num den : Nat) {k : Nat} (positive : 0 < k) :
    ofRatio negative (num * k) (den * k) = ofRatio negative num den := by
  simp only [ofRatio, roundUnits_mul num den positive]

/-- A decimal's double depends on its value only. -/
theorem ofDecimal_scale (negative : Bool) (m z : Nat) (e : Int) :
    ofDecimal negative (m * 10 ^ z) e = ofDecimal negative m (e + z) := by
  have positive : ∀ n : Nat, 0 < 10 ^ n := fun n => by positivity
  unfold ofDecimal
  by_cases below : e < 0 <;> by_cases sumBelow : e + z < 0 <;>
    simp only [below, sumBelow, ↓reduceIte]
  · rw [show e.natAbs = (e + z).natAbs + z by omega, pow_add, ofRatio_mul _ _ _ (positive z)]
  · have parts : m * 10 ^ z = m * 10 ^ (e + z).natAbs * 10 ^ e.natAbs := by
      rw [Nat.mul_assoc, ← pow_add, show (e + z).natAbs + e.natAbs = z by omega]
    calc ofRatio negative (m * 10 ^ z) (10 ^ e.natAbs)
        = ofRatio negative (m * 10 ^ (e + z).natAbs * 10 ^ e.natAbs) (1 * 10 ^ e.natAbs) := by
          rw [parts, Nat.one_mul]
      _ = ofRatio negative (m * 10 ^ (e + z).natAbs) 1 := ofRatio_mul _ _ _ (positive _)
  · omega
  · rw [Nat.mul_assoc, ← pow_add, show z + e.natAbs = (e + z).natAbs by omega]

/-- The sign of a double does not change how the magnitude rounds. -/
theorem ofDecimal_sign (negative : Bool) (digits : Nat) (exponent : Int) :
    ofDecimal negative digits exponent =
      match ofDecimal false digits exponent with
      | .finite y => .finite ⟨negative, y.units, y.representable⟩
      | _ => .infinity negative := by
  unfold ofDecimal
  split <;> unfold ofRatio <;> split <;> rfl

/-- `float(n)` for an `int`: rounded to nearest, and `OverflowError` past the largest double. -/
def PyFloat.ofInt (n : Int) : Except PyExc PyFloat :=
  match ofRatio (n < 0) n.natAbs 1 with
  | .finite x => .ok (.finite x)
  | _ => .error ⟨text "OverflowError", text "int too large to convert to float"⟩

/-- An `int` below `2^53` in magnitude converts exactly, without raising. -/
theorem PyFloat.ofInt_of_lt {n : Int} (small : n.natAbs < 2 ^ 53) :
    ∃ x, PyFloat.ofInt n = .ok (.finite x) ∧ x.units = n.natAbs * 2 ^ 1074 := by
  have fits : n.natAbs * 2 ^ 1074 < 2 ^ 53 ∨
      n.natAbs * 2 ^ 1074 % 2 ^ ((n.natAbs * 2 ^ 1074).log2 - 52) = 0 := by
    rcases Nat.eq_zero_or_pos n.natAbs with zero | positive
    · exact .inl (by rw [zero, Nat.zero_mul]; positivity)
    right
    rw [log2_mul_pow (by omega)]
    have : n.natAbs.log2 < 53 := (Nat.log2_lt (by omega)).mpr small
    exact Nat.mod_eq_zero_of_dvd (Dvd.dvd.mul_left (Nat.pow_dvd_pow 2 (by omega)) _)
  have rounded := roundUnits_exact Nat.one_pos (Nat.mul_one _).symm fits
  have below : roundUnits n.natAbs 1 < 2 ^ 2098 := by
    rw [rounded]
    calc n.natAbs * 2 ^ 1074 < 2 ^ 53 * 2 ^ 1074 := Nat.mul_lt_mul_of_pos_right small (by positivity)
      _ ≤ 2 ^ 2098 := by rw [← Nat.pow_add]; exact Nat.pow_le_pow_right (by decide) (by decide)
  refine ⟨⟨decide (n < 0), roundUnits n.natAbs 1, below, roundUnits_fits _ _⟩, ?_, rounded⟩
  unfold PyFloat.ofInt ofRatio
  rw [dif_pos below]

/-! ## `float(text)` -/

/-- The digit part at the head of a text, as `float` reads it: digits, single underscores
between digits.  It gives the value, the number of digits and what follows; `none` when the
text does not start with a digit. -/
def digitPart : PyStr → Option (Nat × Nat × PyStr)
  | [] => none
  | c :: rest => (digitValue c).map fun d => go d 1 rest
where
  /-- Continue a digit part with `acc` read from `count` digits. -/
  go (acc count : Nat) : PyStr → Nat × Nat × PyStr
    | [] => (acc, count, [])
    | [c] =>
        match digitValue c with
        | some d => (acc * 10 + d, count + 1, [])
        | none => (acc, count, [c])
    | c :: c' :: rest =>
        match digitValue c, digitValue c' with
        | some d, _ => go (acc * 10 + d) (count + 1) (c' :: rest)
        | none, some d =>
            if c.val = 0x5F then go (acc * 10 + d) (count + 1) rest
            else (acc, count, c :: c' :: rest)
        | none, none => (acc, count, c :: c' :: rest)

/-- An optional exponent `e`/`E`, sign, digit part, at the end of a `float` text. -/
def exponentPart : PyStr → Option Int
  | [] => some 0
  | e :: rest =>
      if e.val = 0x65 ∨ e.val = 0x45 then
        let (negative, digits) := match rest with
          | c :: more => if c.val = 0x2D then (true, more)
              else if c.val = 0x2B then (false, more) else (false, rest)
          | [] => (false, rest)
        match digitPart digits with
        | some (value, _, []) => some (if negative then -(value : Int) else value)
        | _ => none
      else none

/-- The unsigned body of a `float` text: a decimal number or an infinity or `nan`, in any
letter case. -/
def unsignedFloat (negative : Bool) (body : PyStr) : Option PyFloat :=
  let lower := asciiLower body
  if lower = text "inf" ∨ lower = text "infinity" then some (.infinity negative)
  else if lower = text "nan" then some .nan
  else
    let (whole, wholeDigits, afterWhole) := (digitPart body).getD (0, 0, body)
    let (fraction, fractionDigits, afterFraction) := match afterWhole with
      | c :: rest =>
          if c.val = 0x2E then (digitPart rest).getD (0, 0, rest) else (0, 0, afterWhole)
      | [] => (0, 0, [])
    if wholeDigits + fractionDigits = 0 then none
    else (exponentPart afterFraction).map fun exponent =>
      ofDecimal negative (whole * 10 ^ fractionDigits + fraction) (exponent - fractionDigits)

/-- `float(s)` for a `str`: `none` where CPython raises `ValueError`. -/
def floatOfStr? (s : PyStr) : Option PyFloat :=
  match strip s with
  | c :: rest =>
      if c.val = 0x2D then unsignedFloat true rest
      else if c.val = 0x2B then unsignedFloat false rest
      else unsignedFloat false (c :: rest)
  | [] => none

/-! ## Arithmetic the SDK performs on floats -/

namespace PyFloat

/-- The signed number of units of a finite double. -/
def signedUnits (x : Finite64) : Int :=
  if x.negative then -(x.units : Int) else x.units

/-- `x - y`, rounded to nearest; an exact zero is `+0.0` unless it is `-0.0 - 0.0`. -/
def sub : PyFloat → PyFloat → PyFloat
  | .nan, _ => .nan
  | _, .nan => .nan
  | .infinity a, .infinity b => if a = b then .nan else .infinity a
  | .infinity a, .finite _ => .infinity a
  | .finite _, .infinity b => .infinity (!b)
  | .finite x, .finite y =>
      let d := signedUnits x - signedUnits y
      if d = 0 then zero (x.negative && !y.negative && x.units == 0 && y.units == 0)
      else ofRatio (d < 0) d.natAbs (2 ^ 1074)

/-- `x * n` for a positive whole number `n`, rounded to nearest. -/
def scale (x : PyFloat) (n : Nat) : PyFloat :=
  match x with
  | .finite x => ofRatio x.negative (x.units * n) (2 ^ 1074)
  | other => other

/-- Zero scaled is zero, which `int` reads as `0`. -/
theorem toInt_scale_zero (negative : Bool) (n : Nat) : ((zero negative).scale n).toInt = .ok 0 := by
  have rounded : roundUnits 0 (2 ^ 1074) = 0 :=
    roundUnits_exact (by positivity) rfl (.inl (by positivity))
  have fits : roundUnits 0 (2 ^ 1074) < 2 ^ 2098 := by rw [rounded]; positivity
  rw [zero, scale, Nat.zero_mul, ofRatio, dif_pos fits]
  simp only [toInt, rounded, Nat.zero_div, Nat.cast_zero, neg_zero, ite_self]

end PyFloat

end Python
end Kennel
