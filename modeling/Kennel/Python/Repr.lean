import Kennel.Python.Value
import Kennel.Python.FloatRepr

namespace Kennel
namespace Python

/-!
# `str()` and `repr()` of values

The SDK formats values into text in one place the harness can observe: `BaseModule` puts
`f"...{request.action}"` into the error of its response, and the action may be any JSON value.
`str` of a `str` is itself; of a number, of `None` and of a `bool` it is the usual literal; a
container shows the `repr` of what it holds.

`repr` of a `str` picks single quotes unless the text holds a single quote and no double
quote, and escapes the backslash, the chosen quote, tab, line feed, carriage return and the
code points that are not printable.  Printability is decided here for ASCII, the C1 controls,
the no-break space and the surrogates; CPython's Unicode database also escapes a few other
separators and unassigned code points, which the model prints as they are.  An `object` shows
its class name between angle brackets, where CPython also shows an address.
-/

/-- The decimal digits of a natural number, `0` for zero. -/
def natRepr (n : Nat) : PyStr :=
  match decimalDigits n with
  | [] => text "0"
  | ds => ds.map digitChar

/-- `int.__repr__`. -/
def intRepr (n : Int) : PyStr :=
  (if n < 0 then text "-" else []) ++ natRepr n.natAbs

/-- `repr(x)` of a float, which is also its `str`. -/
def floatRepr : PyFloat → PyStr
  | .finite x => reprFinite x
  | .infinity false => text "inf"
  | .infinity true => text "-inf"
  | .nan => text "nan"

/-- The hexadecimal digits of `n`, `width` of them, lower case. -/
def hexDigits (width n : Nat) : PyStr :=
  (List.range width).reverse.map fun i =>
    let d := n / 16 ^ i % 16
    if d < 10 then ⟨0x30 + d, by omega⟩ else ⟨0x57 + d, by omega⟩

/-- Whether `repr` shows a code point as it is. -/
def printable (c : CodePoint) : Bool :=
  (0x20 ≤ c.val && c.val < 0x7F) ||
    (0xA0 < c.val && !(0xD800 ≤ c.val && c.val ≤ 0xDFFF))

/-- One code point inside the quotes of `repr`, `quote` being the quote chosen. -/
def reprChar (quote : CodePoint) (c : CodePoint) : PyStr :=
  if c.val = 0x5C then text "\\\\"
  else if c = quote then [⟨0x5C, by decide⟩, c]
  else if c.val = 0x09 then text "\\t"
  else if c.val = 0x0A then text "\\n"
  else if c.val = 0x0D then text "\\r"
  else if printable c then [c]
  else if c.val < 0x100 then text "\\x" ++ hexDigits 2 c.val
  else if c.val < 0x10000 then text "\\u" ++ hexDigits 4 c.val
  else text "\\U" ++ hexDigits 8 c.val

/-- `repr(s)` of a `str`. -/
def strRepr (s : PyStr) : PyStr :=
  let single : CodePoint := ⟨0x27, by decide⟩
  let double : CodePoint := ⟨0x22, by decide⟩
  let quote := if s.contains single && !s.contains double then double else single
  quote :: s.flatMap (reprChar quote) ++ [quote]

namespace PyVal

mutual

/-- `repr(v)`. -/
def repr : PyVal → PyStr
  | .none => text "None"
  | .bool true => text "True"
  | .bool false => text "False"
  | .int n => intRepr n
  | .float x => floatRepr x
  | .str s => strRepr s
  | .list items => text "[" ++ reprItems items ++ text "]"
  | .tuple [x] => text "(" ++ repr x ++ text ",)"
  | .tuple items => text "(" ++ reprItems items ++ text ")"
  | .dict entries => text "\x7b" ++ reprEntries entries ++ text "\x7d"
  | .object cls _ => text "<" ++ cls ++ text " object>"

/-- The `repr` of items, separated by `", "`. -/
def reprItems : List PyVal → PyStr
  | [] => []
  | [x] => repr x
  | x :: xs => repr x ++ text ", " ++ reprItems xs

/-- The `repr` of entries, `key: value`, separated by `", "`. -/
def reprEntries : List (PyVal × PyVal) → PyStr
  | [] => []
  | [(k, v)] => repr k ++ text ": " ++ repr v
  | (k, v) :: entries => repr k ++ text ": " ++ repr v ++ text ", " ++ reprEntries entries

end

/-- `str(v)`, what an f-string inserts. -/
def toStr : PyVal → PyStr
  | .str s => s
  | v => v.repr

end PyVal

end Python
end Kennel
