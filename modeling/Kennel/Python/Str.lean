import Mathlib.Data.List.DropRight

namespace Kennel
namespace Python

/-!
# Python text as the harness reads it

A Python `str` is a sequence of code points, and unlike a Lean `String` it may hold
surrogates: `json.loads` turns the escape `\ud800` into one.  Text is therefore modelled as a
list of code points below `0x110000`, surrogates included.  Lean string literals enter through
`text`, which is how the harness's own tags, keys and messages are written.

The operations are the few `str` methods the harness and its configuration helper call:
`strip()` with Python's whitespace set, `startswith`, `split(".")`, the membership test of
`lower()` against four ASCII words, and `int(...)` on text, up to the 4300 digits CPython converts
unless told otherwise.  Digits are the ASCII digits; CPython also accepts the other Unicode
decimal digits in `int(...)`, which no configuration in this model uses.
-/

/-- A Unicode code point; surrogates are allowed, as in a Python `str`. -/
abbrev CodePoint := Fin 0x110000

/-- A Python `str`. -/
abbrev PyStr := List CodePoint

theorem char_toNat_lt (c : Char) : c.toNat < 0x110000 := by
  have valid := c.valid
  simp only [Nat.isValidChar, UInt32.isValidChar] at valid
  simp only [Char.toNat]
  omega

/-- A Lean string literal as a Python `str`. -/
def text (s : String) : PyStr :=
  s.toList.map fun c => ⟨c.toNat, char_toNat_lt c⟩

@[simp] theorem text_append (s t : String) : text (s ++ t) = text s ++ text t := by
  simp [text]

/-- `str.isspace()` on one code point: the characters CPython's `str.strip()` removes. -/
def isSpace (c : CodePoint) : Bool :=
  (0x09 ≤ c.val && c.val ≤ 0x0D) || (0x1C ≤ c.val && c.val ≤ 0x20) || c.val == 0x85 ||
    c.val == 0xA0 || c.val == 0x1680 || (0x2000 ≤ c.val && c.val ≤ 0x200A) ||
    c.val == 0x2028 || c.val == 0x2029 || c.val == 0x202F || c.val == 0x205F ||
    c.val == 0x3000

/-- `str.strip()` with no argument. -/
def strip (s : PyStr) : PyStr :=
  (s.dropWhile isSpace).rdropWhile isSpace

/-- `s.startswith(p)`. -/
def startsWith (s p : PyStr) : Bool :=
  p.isPrefixOf s

/-- The code point `.`. -/
def dot : CodePoint := ⟨0x2E, by decide⟩

/-- `s.split(".")`: every dot separates, empty pieces are kept, and `"".split(".")` is
`[""]`. -/
def splitDot (s : PyStr) : List PyStr :=
  s.splitOn dot

theorem splitDot_of_not_mem {s : PyStr} (noDot : dot ∉ s) : splitDot s = [s] :=
  List.splitOnP_eq_single _ _ fun _ member same => noDot (beq_iff_eq.mp same ▸ member)

/-- The value of an ASCII decimal digit. -/
def digitValue (c : CodePoint) : Option Nat :=
  if 0x30 ≤ c.val ∧ c.val ≤ 0x39 then some (c.val - 0x30) else none

/-- Lower-case ASCII letters, leaving every other code point alone. -/
def asciiLower (s : PyStr) : PyStr :=
  s.map fun c => if h : 0x41 ≤ c.val ∧ c.val ≤ 0x5A then ⟨c.val + 0x20, by omega⟩ else c

/-- `s.lower() in ("true", "yes", "1", "on")`.  No code point outside ASCII lowers to a letter of
these words, so lowering the ASCII letters decides the test. -/
def truthyWord (s : PyStr) : Bool :=
  [text "true", text "yes", text "1", text "on"].contains (asciiLower s)

/-- A run of digits in which single underscores may separate digits, as `int` and `float`
accept it; `needDigit` holds at the start and after an underscore. -/
def digitRun (needDigit : Bool) (acc : Nat) : PyStr → Option Nat
  | [] => if needDigit then none else some acc
  | c :: rest =>
      match digitValue c with
      | some d => digitRun false (acc * 10 + d) rest
      | none => if c.val = 0x5F ∧ !needDigit then digitRun true acc rest else none

/-- `sys.get_int_max_str_digits()` as CPython starts: `int` of a text with more digits raises
`ValueError`. -/
def maxStrDigits : Nat := 4300

/-- The digits of a text, as `int` counts them against `maxStrDigits`: whitespace, the sign and
underscores do not count. -/
def digitCount (s : PyStr) : Nat :=
  (s.filter fun c => (digitValue c).isSome).length

/-- `int(s)` for a `str`: `none` where CPython raises `ValueError`.  Surrounding whitespace and
one sign are allowed, and at most `maxStrDigits` digits. -/
def intOfStr? (s : PyStr) : Option Int :=
  if maxStrDigits < digitCount s then none else
  match strip s with
  | c :: rest =>
      if c.val = 0x2D then (digitRun true 0 rest).map fun n => -(n : Int)
      else if c.val = 0x2B then (digitRun true 0 rest).map fun n => (n : Int)
      else (digitRun true 0 (c :: rest)).map fun n => (n : Int)
  | [] => none

example : intOfStr? (text " -1_000\n") = some (-1000) := by decide
example : intOfStr? (text "1__0") = none := by decide

/-- A raised instance of an `Exception` subclass: its class name and `str(e)`. -/
structure PyExc where
  cls : PyStr
  message : PyStr
  deriving DecidableEq

/-- Outcomes of fallible steps are compared in tests. -/
instance decEqExcept {ε α : Type} [DecidableEq ε] [DecidableEq α] : DecidableEq (Except ε α)
  | .ok a, .ok b => decidable_of_iff (a = b) ⟨congrArg _, fun h => by injection h⟩
  | .error a, .error b => decidable_of_iff (a = b) ⟨congrArg _, fun h => by injection h⟩
  | .ok _, .error _ => isFalse nofun
  | .error _, .ok _ => isFalse nofun

@[simp] theorem except_ok_bind {ε α β : Type} (a : α) (f : α → Except ε β) :
    (Except.ok a >>= f) = f a := rfl

@[simp] theorem except_error_bind {ε α β : Type} (e : ε) (f : α → Except ε β) :
    (Except.error e >>= f) = Except.error e := rfl

theorem except_bind_eq_ok {ε α β : Type} {x : Except ε α} {f : α → Except ε β} {b : β} :
    (x >>= f) = .ok b ↔ ∃ a, x = .ok a ∧ f a = .ok b := by
  cases x <;> simp

/-- The exception CPython raises for `obj.name` on an instance of `owner` without it. -/
def attributeError (owner name : PyStr) : PyExc :=
  ⟨text "AttributeError",
    text "'" ++ owner ++ text "' object has no attribute '" ++ name ++ text "'"⟩

end Python
end Kennel
