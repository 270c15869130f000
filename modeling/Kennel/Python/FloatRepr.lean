import Kennel.Python.Float
import Mathlib.Data.Nat.Digits

namespace Kennel
namespace Python

/-!
# `repr` of a float

`json.dumps` writes a finite float as `float.__repr__` does: the shortest decimal that reads
back as the same double, the nearer one when two of that length do (the even one at a tie),
laid out in positional notation when the decimal point falls between `-4` and `16` places and in
exponent notation otherwise, with `.0` appended to whole numbers.

The search tries 1 to 17 significant digits.  Seventeen always suffice for a double, so the
exact expansion used after the search is never reached by CPython; it keeps the definition
total and reads back as the same double.
-/

/-- The code point of a decimal digit. -/
def digitChar (d : Nat) : CodePoint :=
  ⟨0x30 + d % 10, by omega⟩

/-- The decimal digits of `n`, most significant first; none for zero. -/
def decimalDigits (n : Nat) : List Nat :=
  (Nat.digits 10 n).reverse

/-- Whether `digits * 10^exponent` reads back as the positive double of `units` units. -/
def readsBackAs (units digits : Nat) (exponent : Int) : Bool :=
  match ofDecimal false digits exponent with
  | .finite y => y.units == units
  | _ => false

/-- A decimal of `n` significant digits that reads back as the double of `units` units, whose
exact value is `scaled / 10^1074` with `length` digits: the one below it or the one above, the
nearer if both do. -/
def shortestAt (units scaled length n : Nat) : Option (Nat × Int) :=
  let drop := length - n
  let lo := scaled / 10 ^ drop
  let exponent : Int := (drop : Int) - 1074
  let loOk := readsBackAs units lo exponent
  let hiOk := scaled % 10 ^ drop != 0 && readsBackAs units (lo + 1) exponent
  if loOk && hiOk then
    let below := scaled - lo * 10 ^ drop
    let above := (lo + 1) * 10 ^ drop - scaled
    some (if below < above ∨ (below = above ∧ lo % 2 = 0) then lo else lo + 1, exponent)
  else if loOk then some (lo, exponent)
  else if hiOk then some (lo + 1, exponent)
  else none

/-- The shortest decimal `digits * 10^exponent` that reads back as the positive double of
`units` units. -/
def shortestDecimal (units : Nat) : Nat × Int :=
  let scaled := units * 5 ^ 1074
  let length := (Nat.digits 10 scaled).length
  ((List.range 17).findSome? fun i => shortestAt units scaled length (i + 1)).getD
    (scaled, -1074)

/-- `n` zeros. -/
def zeros (n : Nat) : PyStr :=
  List.replicate n (digitChar 0)

/-- The layout of `float.__repr__` for the significant digits of a positive value whose
decimal point stands `point` places after the first digit's place. -/
def layoutRepr (digits : List Nat) (point : Int) : PyStr :=
  let ds := digits.map digitChar
  if point ≤ -4 ∨ 16 < point then
    let exponent := point - 1
    let mantissa := match ds with
      | d :: rest@(_ :: _) => d :: text "." ++ rest
      | _ => ds
    let shown := decimalDigits exponent.natAbs
    mantissa ++ text "e" ++ text (if exponent < 0 then "-" else "+") ++
      zeros (2 - shown.length) ++ shown.map digitChar
  else if point ≤ 0 then text "0." ++ zeros point.natAbs ++ ds
  else if digits.length ≤ point.toNat then ds ++ zeros (point.toNat - digits.length) ++ text ".0"
  else ds.take point.toNat ++ text "." ++ ds.drop point.toNat

/-- `repr(x)` of a finite float. -/
def reprFinite (x : Finite64) : PyStr :=
  let sign := if x.negative then text "-" else []
  if x.units = 0 then sign ++ text "0.0"
  else
    let (digits, exponent) := shortestDecimal x.units
    let all := decimalDigits digits
    let significant := all.rdropWhile (· == 0)
    sign ++ layoutRepr significant
      (significant.length + exponent + (all.length - significant.length))

/-! ## The decimal reads back -/

theorem ofDecimal_of_readsBackAs {units digits : Nat} {exponent : Int}
    (reads : readsBackAs units digits exponent = true) (negative : Bool) :
    ∃ representable, ofDecimal negative digits exponent = .finite ⟨negative, units, representable⟩ := by
  unfold readsBackAs at reads
  rw [ofDecimal_sign]
  cases read : ofDecimal false digits exponent with
  | finite y =>
      rw [read] at reads
      obtain rfl : y.units = units := beq_iff_eq.mp reads
      exact ⟨y.representable, rfl⟩
  | infinity _ | nan =>
      rw [read] at reads
      cases reads

theorem shortestAt_reads {units scaled length n : Nat} {found : Nat × Int}
    (finds : shortestAt units scaled length n = some found) :
    readsBackAs units found.1 found.2 = true := by
  unfold shortestAt at finds
  simp only at finds
  by_cases both : (readsBackAs units (scaled / 10 ^ (length - n)) ((length - n : Nat) - 1074) &&
      (scaled % 10 ^ (length - n) != 0 &&
        readsBackAs units (scaled / 10 ^ (length - n) + 1) ((length - n : Nat) - 1074))) = true
  · rw [if_pos both] at finds
    simp only [Bool.and_eq_true] at both
    cases finds
    split <;> simp [both]
  · rw [if_neg both] at finds
    by_cases lo : readsBackAs units (scaled / 10 ^ (length - n)) ((length - n : Nat) - 1074) = true
    · rw [if_pos lo] at finds; cases finds; exact lo
    · rw [if_neg lo] at finds
      split at finds
      · next hi => cases finds; simp only [Bool.and_eq_true] at hi; exact hi.2
      · cases finds

/-- Every double's decimal from the search reads back as that double; so does the exact
expansion the search falls back on. -/
theorem shortestDecimal_reads {units : Nat} (representable : Representable units) :
    readsBackAs units (shortestDecimal units).1 (shortestDecimal units).2 = true := by
  unfold shortestDecimal
  simp only
  cases finds : (List.range 17).findSome? fun i =>
      shortestAt units (units * 5 ^ 1074) (Nat.digits 10 (units * 5 ^ 1074)).length (i + 1) with
  | some found =>
      obtain ⟨i, -, at_i⟩ := List.exists_of_findSome?_eq_some finds
      exact shortestAt_reads at_i
  | none =>
      have exact : units * 5 ^ 1074 * 2 ^ 1074 = units * 10 ^ 1074 := by
        rw [Nat.mul_assoc, ← Nat.mul_pow]
      have rounds := roundUnits_exact (pow_pos (by decide) _) exact representable.2
      simp only [Option.getD_none, readsBackAs, ofDecimal, ofRatio,
        show ((-1074 : Int) < 0) from by decide, ↓reduceIte,
        show (-1074 : Int).natAbs = 1074 from rfl, rounds, dif_pos representable.1, beq_self_eq_true]

/-- How `json.dumps` writes a float: `NaN`, `Infinity` and `-Infinity` for the values RFC 8259
has no number for, `repr` otherwise. -/
def floatToJson : PyFloat → PyStr
  | .finite x => reprFinite x
  | .infinity false => text "Infinity"
  | .infinity true => text "-Infinity"
  | .nan => text "NaN"

end Python
end Kennel
