import Kennel.Sdk.Config
import Kennel.Json.Scalars

namespace Kennel

/-!
# Numbers stored as text

`get_int` and `get_float` accept a `str` and convert it with `int(value)` and `float(value)`,
falling through to the default on `ValueError`.  The conversions read back what `str` writes:
`int(str(n)) == n` for every `int` of at most 4300 digits, past which `int` raises
(`intOfStr?_intRepr`), and `float(repr(x))` is `x`, sign included, for every float but a NaN, the
infinities included (`floatOfStr?_floatRepr`).  So a configuration that stores a number as its
text gives that number to the accessor (`getInt_intRepr`, `getFloat_floatRepr`).

The proofs follow the parsers: `strip()` leaves text without whitespace alone, a run of decimal
digits reads as its value, and each of the four layouts of `float.__repr__` reads as its
significant digits at their place, as `json.loads` reads them in `Kennel.Json.Scalars`.
-/

namespace Python

open Json

/-! ## Text without whitespace -/

/-- Text without whitespace is its own `strip()`. -/
theorem strip_of_forall {s : PyStr} (solid : ∀ c ∈ s, isSpace c = false) : strip s = s := by
  have front : ∀ t : PyStr, (∀ c ∈ t, isSpace c = false) → t.dropWhile isSpace = t := by
    intro t solid
    cases t with
    | nil => rfl
    | cons c t => simp [List.dropWhile, solid c (.head _)]
  unfold strip List.rdropWhile
  rw [front s solid, front _ fun c member => solid c (List.mem_reverse.mp member),
    List.reverse_reverse]

/-- Printable ASCII other than the space is no whitespace. -/
theorem isSpace_of_graphic {c : CodePoint} (low : 0x21 ≤ c.val) (high : c.val ≤ 0x7E) :
    isSpace c = false := by
  unfold isSpace
  simp only [Bool.or_eq_false_iff, Bool.and_eq_false_iff, decide_eq_false_iff_not,
    beq_eq_false_iff_ne]
  omega

theorem isSpace_digitChar (d : Nat) : isSpace (digitChar d) = false :=
  isSpace_of_graphic (Nat.le_add_right_of_le (by decide)) (by simp only [digitChar]; omega)

theorem solid_of_all {s : PyStr} (checked : s.all (fun c => !isSpace c) = true) :
    ∀ c ∈ s, isSpace c = false := fun c member => by
  simpa using List.all_eq_true.mp checked c member

theorem solid_map (ds : List Nat) : ∀ c ∈ ds.map digitChar, isSpace c = false := fun c member => by
  obtain ⟨d, -, rfl⟩ := List.mem_map.mp member
  exact isSpace_digitChar d

/-- `repr` of a float is digits, a point, an `e` and signs: no whitespace. -/
theorem layoutRepr_solid (digits : List Nat) (point : Int) :
    ∀ c ∈ layoutRepr digits point, isSpace c = false := by
  have zero : ∀ k, ∀ c ∈ zeros k, isSpace c = false := fun k => by
    rw [zeros_eq]; exact solid_map _
  have sign : ∀ p : Prop, [Decidable p] → ∀ c ∈ text (if p then "-" else "+"), isSpace c = false :=
    fun p _ => by
      split
      exacts [solid_of_all (s := text "-") rfl, solid_of_all (s := text "+") rfl]
  unfold layoutRepr
  split_ifs
  · simp only [List.forall_mem_append]
    refine ⟨⟨⟨⟨?_, solid_of_all (s := text "e") rfl⟩, sign _⟩, zero _⟩, solid_map _⟩
    split
    · next d rest _ same =>
        have whole := solid_map digits
        rw [same] at whole
        intro c member
        rcases List.mem_cons.mp member with first | later
        · exact first ▸ whole d (.head _)
        · rcases List.mem_append.mp later with point | digit
          · exact solid_of_all (s := text ".") rfl c point
          · exact whole c (.tail _ digit)
    · exact solid_map digits
  · simp only [List.forall_mem_append]
    exact ⟨⟨solid_of_all (s := text "0.") rfl, zero _⟩, solid_map _⟩
  · simp only [List.forall_mem_append]
    exact ⟨⟨solid_map _, zero _⟩, solid_of_all (s := text ".0") rfl⟩
  · simp only [List.forall_mem_append]
    exact ⟨⟨fun c member => solid_map digits c (List.take_subset _ _ member),
      solid_of_all (s := text ".") rfl⟩,
      fun c member => solid_map digits c (List.drop_subset _ _ member)⟩

theorem reprFinite_solid (x : Finite64) : ∀ c ∈ reprFinite x, isSpace c = false := by
  have sign : ∀ c ∈ (if x.negative then text "-" else []), isSpace c = false := by
    split
    · exact solid_of_all (s := text "-") rfl
    · exact nofun
  unfold reprFinite
  by_cases zero : x.units = 0
  · simp only [zero, ↓reduceIte]
    exact List.forall_mem_append.mpr ⟨sign, solid_of_all (s := text "0.0") rfl⟩
  · simp only [zero, ↓reduceIte]
    exact List.forall_mem_append.mpr ⟨sign, layoutRepr_solid _ _⟩

/-! ## `int(str(n))` -/

/-- A run of decimal digits after a digit already read. -/
theorem digitRun_map (acc : Nat) {ds : List Nat} (small : ∀ d ∈ ds, d < 10) :
    digitRun false acc (ds.map digitChar) = some (acc * 10 ^ ds.length + Nat.ofDigits 10 ds.reverse) := by
  induction ds generalizing acc with
  | nil => simp [digitRun]
  | cons d ds ih =>
    simp only [List.map_cons, digitRun, digitValue_digitChar (small d (.head _)),
      ih _ fun e member => small e (.tail _ member), List.reverse_cons,
      Nat.ofDigits_append, Nat.ofDigits_singleton, List.length_reverse,
      List.length_cons, Option.some.injEq]
    ring

/-- `repr` of a natural number is decimal digits, and `int` reads them back. -/
theorem digitRun_natRepr (m : Nat) :
    ∃ d ds, natRepr m = (d :: ds).map digitChar ∧ d < 10 ∧ digitRun true 0 (natRepr m) = some m := by
  unfold natRepr
  cases same : decimalDigits m with
  | nil =>
    have zero : m = 0 := Nat.digits_eq_nil_iff_eq_zero.mp (List.reverse_eq_nil_iff.mp same)
    exact ⟨0, [], rfl, by decide, by simp [zero, text, digitRun, digitValue]⟩
  | cons d ds =>
    have small := decimalDigits_lt m
    rw [same] at small
    have value : Nat.ofDigits 10 (d :: ds).reverse = m := same ▸ ofDigits_decimalDigits m
    refine ⟨d, ds, rfl, small d (.head _), ?_⟩
    show digitRun true 0 ((d :: ds).map digitChar) = some m
    simp only [List.map_cons, digitRun, digitValue_digitChar (small d (.head _)),
      digitRun_map _ fun e member => small e (.tail _ member), ← value, List.reverse_cons,
      Nat.ofDigits_append, Nat.ofDigits_singleton, List.length_reverse, Option.some.injEq]
    ring

/-- Every digit of a run of decimal digits counts against `maxStrDigits`. -/
theorem digitCount_map {ds : List Nat} (small : ∀ d ∈ ds, d < 10) :
    digitCount (ds.map digitChar) = ds.length := by
  rw [digitCount, List.filter_map, List.length_map, List.filter_eq_self.mpr]
  intro d member
  simp [digitValue_digitChar (small d member)]

/-- `str(n)` has at most `maxStrDigits` digits just when `|n|` is below `10 ^ maxStrDigits`. -/
theorem digitCount_intRepr_le_iff (n : Int) :
    digitCount (intRepr n) ≤ maxStrDigits ↔ n.natAbs < 10 ^ maxStrDigits := by
  have unsigned : digitCount (intRepr n) = digitCount (natRepr n.natAbs) := by
    unfold intRepr
    split <;> rfl
  rw [unsigned, natRepr]
  cases same : decimalDigits n.natAbs with
  | nil =>
    have zero : n.natAbs = 0 := Nat.digits_eq_nil_iff_eq_zero.mp (List.reverse_eq_nil_iff.mp same)
    exact iff_of_true (by decide) (by rw [zero]; positivity)
  | cons d ds =>
    have positive : n.natAbs ≠ 0 := fun zero => by simp [decimalDigits, zero] at same
    have length : (d :: ds).length = Nat.log 10 n.natAbs + 1 := by
      rw [← same, decimalDigits, List.length_reverse, Nat.digits_len 10 _ (by norm_num) positive]
    show digitCount ((d :: ds).map digitChar) ≤ _ ↔ _
    rw [digitCount_map (same ▸ decimalDigits_lt _), length, Nat.lt_pow_iff_log_lt (by norm_num) positive]
    omega

/-- `int(str(n)) == n` for every `n` of at most `maxStrDigits` digits; past them `int` raises. -/
theorem intOfStr?_intRepr (n : Int) :
    intOfStr? (intRepr n) = if n.natAbs < 10 ^ maxStrDigits then some n else none := by
  have within := digitCount_intRepr_le_iff n
  unfold intOfStr?
  by_cases small : n.natAbs < 10 ^ maxStrDigits
  · rw [if_neg (not_lt.mpr (within.mpr small)), if_pos small]
    obtain ⟨d, ds, form, -, reads⟩ := digitRun_natRepr n.natAbs
    have solid : ∀ c ∈ natRepr n.natAbs, isSpace c = false := form ▸ solid_map _
    unfold intRepr
    by_cases negative : n < 0
    · have minus : text "-" = [⟨0x2D, by decide⟩] := rfl
      rw [if_pos negative, minus, List.singleton_append,
        strip_of_forall (List.forall_mem_cons.mpr ⟨by decide, solid⟩)]
      simp [reads, abs_of_neg negative]
    · have first : (digitChar d).val ≠ 0x2D ∧ (digitChar d).val ≠ 0x2B := by
        simp only [digitChar]
        omega
      rw [if_neg negative, List.nil_append, strip_of_forall solid]
      rw [form, List.map_cons] at reads ⊢
      simp [first, reads]
      omega
  · rw [if_pos (not_le.mp (mt within.mp small)), if_neg small]

/-! ## `float(repr(x))` -/

/-- What ends a digit part: a code point that is no digit and no underscore. -/
def EndsDigits (rest : PyStr) : Prop :=
  ∀ c ∈ rest.head?, digitValue c = none ∧ c.val ≠ 0x5F

theorem endsDigits_of_val {c : CodePoint} (other : c.val < 0x30 ∨ (0x39 < c.val ∧ c.val ≠ 0x5F))
    (rest : PyStr) : EndsDigits (c :: rest) := fun e member => by
  cases member
  simp only [digitValue]
  exact ⟨if_neg (by omega), by omega⟩

theorem digitPart_go_stop {rest : PyStr} (ends : EndsDigits rest) (acc count : Nat) :
    digitPart.go acc count rest = (acc, count, rest) := by
  match rest, ends with
  | [], _ => rfl
  | [c], ends => simp [digitPart.go, (ends c rfl).1]
  | c :: c' :: more, ends =>
    obtain ⟨notDigit, notUnderscore⟩ := ends c rfl
    cases digit : digitValue c' <;> simp [digitPart.go, notDigit, digit, notUnderscore]

theorem digitPart_go_digit {d : Nat} (small : d < 10) (acc count : Nat) (tail : PyStr) :
    digitPart.go acc count (digitChar d :: tail) = digitPart.go (acc * 10 + d) (count + 1) tail := by
  match tail with
  | [] => simp [digitPart.go, digitValue_digitChar small]
  | c :: more => simp [digitPart.go, digitValue_digitChar small]

theorem digitPart_go_map (acc count : Nat) {ds : List Nat} (small : ∀ d ∈ ds, d < 10) {rest : PyStr}
    (ends : EndsDigits rest) :
    digitPart.go acc count (ds.map digitChar ++ rest) =
      (acc * 10 ^ ds.length + Nat.ofDigits 10 ds.reverse, count + ds.length, rest) := by
  induction ds generalizing acc count with
  | nil => simp [digitPart_go_stop ends]
  | cons d ds ih =>
    rw [List.map_cons, List.cons_append, digitPart_go_digit (small d (.head _)),
      ih _ _ fun e member => small e (.tail _ member)]
    simp only [List.reverse_cons, Nat.ofDigits_append, Nat.ofDigits_singleton, List.length_reverse,
      List.length_cons, Prod.mk.injEq, and_true]
    constructor
    · ring
    · omega

/-- A nonempty run of decimal digits is a digit part of its value and length. -/
theorem digitPart_map {ds : List Nat} (nonempty : ds ≠ []) (small : ∀ d ∈ ds, d < 10) {rest : PyStr}
    (ends : EndsDigits rest) :
    digitPart (ds.map digitChar ++ rest) = some (Nat.ofDigits 10 ds.reverse, ds.length, rest) := by
  obtain ⟨d, ds, rfl⟩ := List.exists_cons_of_ne_nil nonempty
  simp only [List.map_cons, List.cons_append, digitPart, digitValue_digitChar (small d (.head _)),
    Option.map_some', digitPart_go_map _ _ (fun e member => small e (.tail _ member)) ends,
    ofDigits_cons_reverse, List.length_cons, Option.some.injEq, Prod.mk.injEq, and_true, true_and]
  omega

theorem endsDigits_nil : EndsDigits [] := nofun

theorem endsDigits_point (more : PyStr) : EndsDigits (⟨0x2E, by decide⟩ :: more) :=
  endsDigits_of_val (by decide) more

theorem endsDigits_e (more : PyStr) : EndsDigits (⟨0x65, by decide⟩ :: more) :=
  endsDigits_of_val (by decide) more

/-- The exponent `repr` writes, `e`, a sign and at least two digits, reads back. -/
theorem exponentPart_layout {E : Int} (nonzero : E ≠ 0) :
    exponentPart (⟨0x65, by decide⟩ :: (text (if E < 0 then "-" else "+") ++
        (zeros (2 - (decimalDigits E.natAbs).length) ++ (decimalDigits E.natAbs).map digitChar))) =
      some E := by
  have shownNonempty : decimalDigits E.natAbs ≠ [] := by
    simp only [decimalDigits, ne_eq, List.reverse_eq_nil_iff, Nat.digits_eq_nil_iff_eq_zero]
    omega
  have small : ∀ d ∈ List.replicate (2 - (decimalDigits E.natAbs).length) 0 ++ decimalDigits E.natAbs,
      d < 10 := by
    intro d member
    rcases List.mem_append.mp member with zero | digit
    · rw [List.eq_of_mem_replicate zero]; decide
    · exact decimalDigits_lt _ d digit
  have read := digitPart_map (by simp [shownNonempty]) small endsDigits_nil
  simp only [List.map_append, ← zeros_eq, List.append_nil, List.reverse_append,
    List.reverse_replicate, Nat.ofDigits_append, ofDigits_replicate_zero, Nat.mul_zero,
    Nat.add_zero, ofDigits_decimalDigits] at read
  by_cases negative : E < 0
  · simp only [negative, ↓reduceIte, show text "-" = [⟨0x2D, by decide⟩] from rfl,
      List.singleton_append, exponentPart, read]
    simp [abs_of_neg negative]
  · simp only [negative, ↓reduceIte, show text "+" = [⟨0x2B, by decide⟩] from rfl,
      List.singleton_append, exponentPart, read]
    simp [read, abs_of_nonneg (Int.not_lt.mp negative)]

/-- Text that starts with a digit is no `inf`, `infinity` or `nan`, in any letter case. -/
theorem asciiLower_digitChar (d : Nat) (rest : PyStr) :
    ¬(asciiLower (digitChar d :: rest) = text "inf" ∨
        asciiLower (digitChar d :: rest) = text "infinity") ∧
      asciiLower (digitChar d :: rest) ≠ text "nan" := by
  have kept : asciiLower (digitChar d :: rest) = digitChar d :: asciiLower rest := by
    simp only [asciiLower, List.map_cons, List.cons.injEq, and_true]
    rw [dif_neg (by simp only [digitChar]; omega)]
  have differs : ∀ (c : CodePoint) (more : PyStr), 0x39 < c.val →
      digitChar d :: asciiLower rest ≠ c :: more := fun c more letter same => by
    have heads := congrArg Fin.val (List.head_eq_of_cons_eq same)
    simp only [digitChar] at heads
    omega
  rw [kept, show text "inf" = ⟨0x69, by decide⟩ :: text "nf" from rfl,
    show text "infinity" = ⟨0x69, by decide⟩ :: text "nfinity" from rfl,
    show text "nan" = ⟨0x6E, by decide⟩ :: text "an" from rfl]
  exact ⟨fun words => words.elim (differs _ _ (by decide)) (differs _ _ (by decide)),
    differs _ _ (by decide)⟩

section Layout

variable (negative : Bool) {d : Nat} {ds : List Nat} (small : ∀ e ∈ d :: ds, e < 10)
include small

/-- Exponent notation, `d.ddde+XX`. -/
theorem unsignedFloat_layout_far {point : Int} (far : point ≤ -4 ∨ 16 < point) :
    unsignedFloat negative (layoutRepr (d :: ds) point) =
      some (ofDecimal negative (Nat.ofDigits 10 (d :: ds).reverse) (point - (ds.length + 1))) := by
  have exponent := exponentPart_layout (show point - 1 ≠ 0 by omega)
  unfold layoutRepr
  rw [if_pos far, show text "e" = [⟨0x65, by decide⟩] from rfl]
  simp only [List.append_assoc, List.singleton_append, List.cons_append]
  generalize text (if point - 1 < 0 then "-" else "+") ++
    (zeros (2 - (decimalDigits (point - 1).natAbs).length) ++
      List.map digitChar (decimalDigits (point - 1).natAbs)) = tail at exponent ⊢
  cases ds with
  | nil =>
    have whole := @digitPart_map [d] (by simp) small _ (endsDigits_e tail)
    simp only [List.map_cons, List.map_nil, List.singleton_append] at whole
    simp only [List.map_cons, List.map_nil, List.singleton_append, List.nil_append, unsignedFloat,
      asciiLower_digitChar, if_false, whole, Option.getD_some, Fin.val_mk,
      show ¬((101 : Nat) = 46) by decide, exponent]
    simp
  | cons e ds =>
    have whole := @digitPart_map [d] (by simp) (fun x member => small x (by simp_all)) _
      (endsDigits_point ((e :: ds).map digitChar ++ ⟨0x65, by decide⟩ :: tail))
    have fraction := @digitPart_map (e :: ds) (by simp) (fun x member => small x (.tail _ member)) _
      (endsDigits_e tail)
    simp only [List.map_cons, List.map_nil, List.singleton_append, List.cons_append,
      List.nil_append] at whole fraction
    simp only [List.map_cons, show text "." = [⟨0x2E, by decide⟩] from rfl, List.singleton_append,
      List.cons_append, List.nil_append, unsignedFloat, asciiLower_digitChar, if_false, whole, fraction,
      Option.getD_some, Fin.val_mk, ↓reduceIte, exponent]
    rw [ofDigits_cons_reverse d (e :: ds)]
    simp
    congr 1
    omega

/-- Positional notation below one, `0.000ddd`. -/
theorem unsignedFloat_layout_small {point : Int} (near : ¬(point ≤ -4 ∨ 16 < point))
    (nonpositive : point ≤ 0) :
    unsignedFloat negative (layoutRepr (d :: ds) point) =
      some (ofDecimal negative (Nat.ofDigits 10 (d :: ds).reverse) (point - (ds.length + 1))) := by
  have digitsSmall : ∀ x ∈ List.replicate point.natAbs 0 ++ d :: ds, x < 10 := by
    intro x member
    rcases List.mem_append.mp member with zero | digit
    · rw [List.eq_of_mem_replicate zero]; decide
    · exact small x digit
  have whole := @digitPart_map [0] (by simp) (by simp) _
    (endsDigits_point (zeros point.natAbs ++ (d :: ds).map digitChar))
  have fraction := @digitPart_map _ (by simp) digitsSmall [] endsDigits_nil
  simp only [List.map_append, ← zeros_eq, List.append_nil, List.reverse_append,
    List.reverse_replicate, Nat.ofDigits_append, ofDigits_replicate_zero, Nat.mul_zero,
    Nat.add_zero, List.length_append, List.length_replicate] at fraction
  unfold layoutRepr
  rw [if_neg near, if_pos nonpositive, show text "0." = [digitChar 0, ⟨0x2E, by decide⟩] from rfl]
  simp only [List.map_cons, List.map_nil, List.singleton_append, List.cons_append, List.nil_append,
    List.append_assoc] at whole fraction ⊢
  simp only [unsignedFloat,
    asciiLower_digitChar, if_false, whole, Option.getD_some, Fin.val_mk, ↓reduceIte, fraction,
    show exponentPart [] = some 0 from rfl]
  simp [abs_of_nonpos nonpositive]
  congr 1
  omega

/-- Positional notation of a whole number, `ddd000.0`. -/
theorem unsignedFloat_layout_whole {point : Int} (near : ¬(point ≤ -4 ∨ 16 < point))
    (positive : ¬point ≤ 0) (whole : (d :: ds).length ≤ point.toNat) :
    unsignedFloat negative (layoutRepr (d :: ds) point) =
      some (ofDecimal negative (Nat.ofDigits 10 (d :: ds).reverse) (point - (ds.length + 1))) := by
  have padded : ∀ x ∈ (d :: ds) ++ List.replicate (point.toNat - (d :: ds).length) 0, x < 10 := by
    intro x member
    rcases List.mem_append.mp member with digit | zero
    · exact small x digit
    · rw [List.eq_of_mem_replicate zero]; decide
  have wholeDigits := @digitPart_map _ (by simp) padded _ (endsDigits_point [digitChar 0])
  have fraction := @digitPart_map [0] (by simp) (by simp) [] endsDigits_nil
  simp only [List.map_append, ← zeros_eq, List.reverse_append, List.reverse_replicate,
    Nat.ofDigits_append, ofDigits_replicate_zero, Nat.zero_add, List.length_append,
    List.length_replicate] at wholeDigits
  unfold layoutRepr
  rw [if_neg near, if_neg positive, if_pos whole,
    show text ".0" = [⟨0x2E, by decide⟩, digitChar 0] from rfl]
  simp only [List.map_cons, List.map_nil, List.singleton_append, List.cons_append, List.nil_append,
    List.append_assoc] at wholeDigits fraction ⊢
  simp only [unsignedFloat, asciiLower_digitChar, if_false, wholeDigits, Option.getD_some,
    Fin.val_mk, ↓reduceIte, fraction, show exponentPart [] = some 0 from rfl]
  have value : 10 ^ (point.toNat - (d :: ds).length) * Nat.ofDigits 10 (d :: ds).reverse * 10 ^ [0].length +
      Nat.ofDigits 10 [0].reverse =
      Nat.ofDigits 10 (d :: ds).reverse * 10 ^ (point.toNat - (d :: ds).length + 1) := by
    simp only [List.length_singleton, List.reverse_singleton, Nat.ofDigits_singleton, Nat.add_zero,
      pow_succ]
    ring
  rw [value]
  simp only [List.length_cons, List.length_singleton, Nat.add_eq_zero, Nat.one_ne_zero,
    and_false, ↓reduceIte, Option.map_some', Option.some.injEq]
  rw [ofDecimal_scale]
  have counted : ds.length + 1 ≤ point.toNat := whole
  congr 1
  simp only [List.length_nil]
  omega

/-- Positional notation with a fraction, `dd.ddd`. -/
theorem unsignedFloat_layout_fraction {point : Int} (near : ¬(point ≤ -4 ∨ 16 < point))
    (positive : ¬point ≤ 0) (inside : ¬(d :: ds).length ≤ point.toNat) :
    unsignedFloat negative (layoutRepr (d :: ds) point) =
      some (ofDecimal negative (Nat.ofDigits 10 (d :: ds).reverse) (point - (ds.length + 1))) := by
  obtain ⟨q, shifted⟩ : ∃ q, point.toNat = q + 1 := ⟨point.toNat - 1, by omega⟩
  have within : q < ds.length := by simp only [List.length_cons] at inside; omega
  have front : ∀ e ∈ d :: ds.take q, e < 10 := fun e member => small e (by
    rcases List.mem_cons.mp member with first | later
    · exact first ▸ List.mem_cons_self _ _
    · exact List.mem_cons_of_mem d (List.mem_of_mem_take later))
  have back : ∀ e ∈ ds.drop q, e < 10 := fun e member =>
    small e (List.mem_cons_of_mem d (List.mem_of_mem_drop member))
  have wholeDigits := @digitPart_map (d :: ds.take q) (by simp) front _
    (endsDigits_point ((ds.drop q).map digitChar))
  have fraction := @digitPart_map (ds.drop q) (by simp [within]) back [] endsDigits_nil
  have value : Nat.ofDigits 10 (d :: ds).reverse =
      Nat.ofDigits 10 (d :: ds.take q).reverse * 10 ^ (ds.length - q) +
        Nat.ofDigits 10 (ds.drop q).reverse := by
    have parts : d :: ds = (d :: ds.take q) ++ ds.drop q := by simp
    rw [parts, List.reverse_append, Nat.ofDigits_append, List.length_reverse, List.length_drop,
      Nat.add_comm, Nat.mul_comm]
  unfold layoutRepr
  rw [if_neg near, if_neg positive, if_neg inside, shifted,
    show text "." = [⟨0x2E, by decide⟩] from rfl]
  simp only [List.map_cons, List.take_succ_cons, List.drop_succ_cons, List.map_take, List.map_drop,
    List.append_assoc, List.cons_append, List.singleton_append, List.nil_append,
    List.append_nil] at wholeDigits fraction ⊢
  simp only [unsignedFloat, asciiLower_digitChar, if_false, wholeDigits, Option.getD_some,
    Fin.val_mk, ↓reduceIte, fraction, show exponentPart [] = some 0 from rfl]
  simp only [List.length_drop, List.length_cons, ← value, Nat.add_eq_zero, Nat.add_one_ne_zero,
    false_and, ↓reduceIte, Option.map_some', Option.some.injEq]
  congr 1
  omega

/-- Every layout of `repr` reads back as its significant digits at their place. -/
theorem unsignedFloat_layoutRepr (point : Int) :
    unsignedFloat negative (layoutRepr (d :: ds) point) =
      some (ofDecimal negative (Nat.ofDigits 10 (d :: ds).reverse) (point - (ds.length + 1))) := by
  by_cases far : point ≤ -4 ∨ 16 < point
  · exact unsignedFloat_layout_far negative small far
  by_cases nonpositive : point ≤ 0
  · exact unsignedFloat_layout_small negative small far nonpositive
  by_cases whole : (d :: ds).length ≤ point.toNat
  · exact unsignedFloat_layout_whole negative small far nonpositive whole
  · exact unsignedFloat_layout_fraction negative small far nonpositive whole

end Layout

/-- Every layout of `repr` starts with a digit. -/
theorem layoutRepr_head (d : Nat) (ds : List Nat) (point : Int) :
    ∃ e rest, layoutRepr (d :: ds) point = digitChar e :: rest := by
  unfold layoutRepr
  split_ifs with far nonpositive whole
  · cases ds with
    | nil => exact ⟨d, _, rfl⟩
    | cons e ds => exact ⟨d, _, rfl⟩
  · exact ⟨0, _, rfl⟩
  · exact ⟨d, _, rfl⟩
  · obtain ⟨q, shifted⟩ : ∃ q, point.toNat = q + 1 := ⟨point.toNat - 1, by omega⟩
    exact ⟨d, _, by simp only [shifted]; rfl⟩

/-- `float` of a signed text that starts with a digit after its sign, without whitespace. -/
theorem floatOfStr?_signed (negative : Bool) {e : Nat} {rest : PyStr}
    (solid : ∀ c ∈ (if negative then text "-" else []) ++ digitChar e :: rest, isSpace c = false) :
    floatOfStr? ((if negative then text "-" else []) ++ digitChar e :: rest) =
      unsignedFloat negative (digitChar e :: rest) := by
  unfold floatOfStr?
  rw [strip_of_forall solid]
  cases negative with
  | true => rfl
  | false =>
    have notSign : (digitChar e).val ≠ 0x2D ∧ (digitChar e).val ≠ 0x2B := by
      simp only [digitChar]
      omega
    simp [notSign]

/-- `repr` of zero, `0.0`, reads back as zero. -/
theorem unsignedFloat_zeroRepr (negative : Bool) :
    unsignedFloat negative (text "0.0") = some (ofDecimal negative 0 (-1)) := by
  have whole := @digitPart_map [0] (by simp) (by simp) _ (endsDigits_point [digitChar 0])
  have fraction := @digitPart_map [0] (by simp) (by simp) [] endsDigits_nil
  simp only [List.map_cons, List.map_nil, List.singleton_append, List.cons_append,
    List.nil_append] at whole fraction
  rw [show text "0.0" = [digitChar 0, ⟨0x2E, by decide⟩, digitChar 0] from rfl]
  simp only [unsignedFloat, asciiLower_digitChar, if_false, whole, Option.getD_some, Fin.val_mk,
    ↓reduceIte, fraction, show exponentPart [] = some 0 from rfl]
  rfl

/-- `float(repr(x))` is `x` for a finite float. -/
theorem floatOfStr?_reprFinite (x : Finite64) : floatOfStr? (reprFinite x) = some (.finite x) := by
  have solid := reprFinite_solid x
  unfold reprFinite at solid ⊢
  by_cases zero : x.units = 0
  · simp only [if_pos zero] at solid ⊢
    rw [show text "0.0" = digitChar 0 :: text ".0" from rfl] at solid ⊢
    rw [floatOfStr?_signed x.negative solid, ← show text "0.0" = digitChar 0 :: text ".0" from rfl,
      unsignedFloat_zeroRepr, ofDecimal_eq_finite (readsBackAs_zero_digits.mpr zero)]
  simp only [if_neg zero] at solid ⊢
  rcases found : shortestDecimal x.units with ⟨digits, exponent⟩
  have reads : readsBackAs x.units digits exponent = true := by
    have reads := shortestDecimal_reads x.representable
    rwa [found] at reads
  have positive : digits ≠ 0 := fun none => zero (readsBackAs_zero_digits.mp (none ▸ reads))
  have parts := rdropWhile_zero_append (decimalDigits digits)
  have value := ofDigits_decimalDigits digits
  cases significant : (decimalDigits digits).rdropWhile (· == 0) with
  | nil =>
    rw [significant] at parts
    rw [parts, List.nil_append, List.reverse_replicate, ofDigits_replicate_zero] at value
    exact absurd value.symm positive
  | cons d ds =>
    rw [significant] at parts
    have small : ∀ e ∈ d :: ds, e < 10 := fun e member =>
      decimalDigits_lt digits e (parts ▸ List.mem_append_left _ member)
    rw [parts, List.reverse_append, List.reverse_replicate, Nat.ofDigits_append,
      ofDigits_replicate_zero, Nat.zero_add, List.length_replicate, Nat.mul_comm] at value
    have read := ofDecimal_eq_finite reads
    rw [← value, ofDecimal_scale] at read
    simp only [found, significant] at solid ⊢
    obtain ⟨e, rest, head⟩ := layoutRepr_head d ds
      (↑(d :: ds).length + exponent + (↑(decimalDigits digits).length - ↑(d :: ds).length))
    rw [head] at solid ⊢
    rw [floatOfStr?_signed x.negative solid, ← head, unsignedFloat_layoutRepr x.negative small,
      ← read]
    have longer := congrArg List.length parts
    simp only [List.length_append, List.length_replicate, List.length_cons] at longer ⊢
    congr 2
    omega

/-- `float(repr(x))` is `x` for every float but a NaN: `repr` writes `inf` and `-inf` for the
infinities, which `float` reads back. -/
theorem floatOfStr?_floatRepr {x : PyFloat} (notNaN : x.isNaN = false) :
    floatOfStr? (floatRepr x) = some x := by
  cases x with
  | finite x => exact floatOfStr?_reprFinite x
  | infinity negative => cases negative <;> rfl
  | nan => cases notNaN

end Python

namespace Sdk

open Python

namespace ConfigHelper

/-- The `str` branch of `get_int`'s chain reads an integer's text back, and falls through past
`maxStrDigits` digits. -/
theorem intChain_intRepr (n : Int) :
    intChain (.str (intRepr n)) = .ok (if n.natAbs < 10 ^ maxStrDigits then some (.int n) else none) := by
  rw [intChain, intOfStr?_intRepr]
  split <;> rfl

/-- A configuration that stores an integer as its text `str(n)` gives `n` to `get_int`, whatever
the default, as long as `n` has at most `maxStrDigits` digits; past them `int` raises
`ValueError` and `get_int` returns the default. -/
theorem getInt_intRepr (c : ConfigHelper) {key : PyStr} {n : Int}
    (stored : Entries.lookup c.config key = some (.str (intRepr n))) (default : PyVal) :
    c.getInt key default = .ok (if n.natAbs < 10 ^ maxStrDigits then .int n else default) := by
  simp only [getInt, flatAccessor, stored, intChain_intRepr]
  split <;> rfl

/-- `{"port": "8080"}`. -/
theorem getInt_port_text :
    Entries.lookup [(.lit "port", .lit "8080")] (text "port") = some (.str (intRepr 8080)) ∧
      (8080 : Int).natAbs < 10 ^ maxStrDigits ∧
      (ConfigHelper.mk [(.lit "port", .lit "8080")]).getInt (text "port") = .ok (.int 8080) := by
  have digits : Nat.digits 10 8080 = [0, 8, 0, 8] := by norm_num
  have written : intRepr 8080 = text "8080" := by
    rw [intRepr, if_neg (by norm_num), List.nil_append, show Int.natAbs 8080 = 8080 from rfl,
      natRepr, decimalDigits, digits]
    rfl
  have stored : Entries.lookup [(.lit "port", .lit "8080")] (text "port") =
      some (.str (intRepr 8080)) := by
    rw [written]
    rfl
  have small : (8080 : Int).natAbs < 10 ^ maxStrDigits :=
    calc (8080 : Int).natAbs < 10 ^ 4 := by decide
      _ ≤ 10 ^ maxStrDigits := Nat.pow_le_pow_right (by norm_num) (by decide)
  exact ⟨stored, small, (getInt_intRepr _ stored _).trans (by rw [if_pos small])⟩

/-- The same text at the end of a dotted path gives `n` to `get_nested_int`, within the same
limit. -/
theorem getNestedInt_intRepr (c : ConfigHelper) {path : PyStr} {n : Int}
    (stored : c.getNested path = .str (intRepr n)) (default : PyVal) :
    c.getNestedInt path default = .ok (if n.natAbs < 10 ^ maxStrDigits then .int n else default) := by
  simp only [getNestedInt, nestedAccessor, stored, intChain_intRepr]
  split <;> rfl

/-- The `str` branch of `get_float`'s chain reads the text of a float but a NaN back. -/
theorem floatChain_floatRepr {x : PyFloat} (notNaN : x.isNaN = false) :
    floatChain (.str (floatRepr x)) = .ok (some (.float x)) := by
  simp [floatChain, floatOfStr?_floatRepr notNaN]

/-- A configuration that stores a float other than a NaN as its text `str(x)` gives `x` to
`get_float`, sign included, whatever the default; `inf` and `-inf` included. -/
theorem getFloat_floatRepr (c : ConfigHelper) {key : PyStr} {x : PyFloat} (notNaN : x.isNaN = false)
    (stored : Entries.lookup c.config key = some (.str (floatRepr x))) (default : PyVal) :
    c.getFloat key default = .ok (.float x) := by
  simp [getFloat, flatAccessor, stored, floatChain_floatRepr notNaN, Except.map]

/-- `{"limit": "inf"}`. -/
theorem getFloat_inf_text :
    (PyFloat.infinity false).isNaN = false ∧
      Entries.lookup [(.lit "limit", .lit "inf")] (text "limit") =
        some (.str (floatRepr (.infinity false))) ∧
      (ConfigHelper.mk [(.lit "limit", .lit "inf")]).getFloat (text "limit") =
        .ok (.float (.infinity false)) := by
  have stored : Entries.lookup [(.lit "limit", .lit "inf")] (text "limit") =
      some (.str (floatRepr (.infinity false))) := rfl
  have notNaN : (PyFloat.infinity false).isNaN = false := rfl
  exact ⟨notNaN, stored, getFloat_floatRepr _ notNaN stored _⟩

end ConfigHelper

end Sdk

end Kennel
