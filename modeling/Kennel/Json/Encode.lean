import Kennel.Python.Repr

namespace Kennel
namespace Json

open Python

/-!
# `json.dumps` with its default arguments

`ensure_ascii=True`: every code point outside the printable ASCII range, and the quote and the
backslash, is written as an escape, so the text is printable ASCII.  `allow_nan=True`: the
non-finite floats are written `NaN`, `Infinity` and `-Infinity`.  The separators are `", "` and
`": "`.  Lists and tuples are both written as arrays.  A dictionary key may be a `str`, a float,
a `bool`, `None` or an `int`, and is written as a string; any other key, and any value of
another class, raises `TypeError` with CPython's message.
-/

/-- The lower-case hexadecimal digit of `d % 16`. -/
def hexChar (d : Nat) : CodePoint :=
  if d % 16 < 10 then ⟨0x30 + d % 16, by omega⟩ else ⟨0x57 + d % 16, by omega⟩

/-- `\uXXXX` for a 16-bit unit. -/
def unitEscape (u : Nat) : PyStr :=
  text "\\u" ++ [hexChar (u / 4096), hexChar (u / 256), hexChar (u / 16), hexChar u]

/-- One code point as `ensure_ascii` writes it inside a string. -/
def escapeChar (c : CodePoint) : PyStr :=
  if c.val = 0x5C then text "\\\\"
  else if c.val = 0x22 then text "\\\""
  else if 0x20 ≤ c.val ∧ c.val ≤ 0x7E then [c]
  else if c.val = 0x08 then text "\\b"
  else if c.val = 0x0C then text "\\f"
  else if c.val = 0x0A then text "\\n"
  else if c.val = 0x0D then text "\\r"
  else if c.val = 0x09 then text "\\t"
  else if c.val < 0x10000 then unitEscape c.val
  else
    unitEscape (0xD800 + (c.val - 0x10000) / 0x400) ++
      unitEscape (0xDC00 + (c.val - 0x10000) % 0x400)

/-- A `str` as a JSON string. -/
def encodeString (s : PyStr) : PyStr :=
  text "\"" ++ s.flatMap escapeChar ++ text "\""

/-- The `TypeError` for a value of a class `json.dumps` does not encode. -/
def notSerializable (cls : PyStr) : PyExc :=
  ⟨text "TypeError", text "Object of type " ++ cls ++ text " is not JSON serializable"⟩

/-- A dictionary key as `json.dumps` turns it into a string. -/
def keyText : PyVal → Except PyExc PyStr
  | .str s => .ok s
  | .float x => .ok (floatToJson x)
  | .bool true => .ok (text "true")
  | .bool false => .ok (text "false")
  | .none => .ok (text "null")
  | .int n => .ok (intRepr n)
  | k => .error ⟨text "TypeError",
      text "keys must be str, int, float, bool or None, not " ++ k.typeName⟩

mutual

/-- `json.dumps(v)`. -/
def encode : PyVal → Except PyExc PyStr
  | .none => .ok (text "null")
  | .bool true => .ok (text "true")
  | .bool false => .ok (text "false")
  | .str s => .ok (encodeString s)
  | .int n => .ok (intRepr n)
  | .float x => .ok (floatToJson x)
  | .list [] => .ok (text "[]")
  | .list (x :: xs) => do
      let first ← encode x
      let rest ← encodeItems xs
      .ok (text "[" ++ first ++ rest ++ text "]")
  | .tuple [] => .ok (text "[]")
  | .tuple (x :: xs) => do
      let first ← encode x
      let rest ← encodeItems xs
      .ok (text "[" ++ first ++ rest ++ text "]")
  | .dict [] => .ok (text "\x7b\x7d")
  | .dict ((k, v) :: entries) => do
      let first ← encodeEntry (k, v)
      let rest ← encodeEntries entries
      .ok (text "\x7b" ++ first ++ rest ++ text "\x7d")
  | .object cls _ => .error (notSerializable cls)

/-- The items after the first, each after `", "`. -/
def encodeItems : List PyVal → Except PyExc PyStr
  | [] => .ok []
  | x :: xs => do
      let first ← encode x
      let rest ← encodeItems xs
      .ok (text ", " ++ first ++ rest)

/-- One entry, `"key": value`. -/
def encodeEntry : PyVal × PyVal → Except PyExc PyStr
  | (k, v) => do
      let key ← keyText k
      let value ← encode v
      .ok (encodeString key ++ text ": " ++ value)

/-- The entries after the first, each after `", "`. -/
def encodeEntries : List (PyVal × PyVal) → Except PyExc PyStr
  | [] => .ok []
  | (k, v) :: entries => do
      let first ← encodeEntry (k, v)
      let rest ← encodeEntries entries
      .ok (text ", " ++ first ++ rest)

end

example : encode (.dict [(.lit "id", .lit "1"), (.lit "success", .bool true)]) =
    .ok (text "\x7b\"id\": \"1\", \"success\": true\x7d") := rfl

end Json
end Kennel
