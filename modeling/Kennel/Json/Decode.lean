import Kennel.Python.Value

namespace Kennel
namespace Json

open Python

/-!
# `json.loads`

The scanner of CPython's `_json` module, over code points: whitespace is space, tab, line feed
and carriage return; a string may not hold a control character and reads `\uXXXX` escapes,
joining a high surrogate with an escaped low surrogate that follows it; a number with a
fraction or an exponent is a float, rounded to nearest, and an `int` otherwise; an object is
built as a `dict`, so a repeated key keeps its first place and its last value.

With `constants` set the scanner also reads `NaN`, `Infinity` and `-Infinity`, as `json.loads`
does.  Without it the accepted texts are those of RFC 8259, and the result is what Python
reads from them; `rfc8259` names that decoder.

Each failure carries CPython's message and the position it reports; `loads` turns it into the
text of `JSONDecodeError`.  The scanner counts its steps with `fuel`: entering a value, opening
its container and reading each item of it take one each.  A value reached at index `p` of a text
of length `n` always has `3 * (n - p) + 1` left, since each level of nesting costs three and
starts with a bracket, and each item after the first costs one and follows at least two code
points; `loads` gives `3 * n + 1`, which no text exhausts.
-/

/-- A decoding failure: CPython's message and the index it points at. -/
structure Failure where
  msg : String
  pos : Nat

/-- What a scanning step leaves: a result, the index after it, and the text after it. -/
abbrev Scan (α : Type) := Except Failure (α × Nat × PyStr)

/-- JSON whitespace. -/
def isWs (c : CodePoint) : Bool :=
  c.val == 0x20 || c.val == 0x09 || c.val == 0x0A || c.val == 0x0D

/-- Skip whitespace, counting the index. -/
def skipWs : Nat → PyStr → Nat × PyStr
  | pos, [] => (pos, [])
  | pos, c :: rest => if isWs c then skipWs (pos + 1) rest else (pos, c :: rest)

/-- The value of a hexadecimal digit, either case. -/
def hexValue (c : CodePoint) : Option Nat :=
  if 0x30 ≤ c.val ∧ c.val ≤ 0x39 then some (c.val - 0x30)
  else if 0x61 ≤ c.val ∧ c.val ≤ 0x66 then some (c.val - 0x57)
  else if 0x41 ≤ c.val ∧ c.val ≤ 0x46 then some (c.val - 0x37)
  else none

/-- Four hexadecimal digits as a 16-bit unit. -/
def hex4 (a b c d : CodePoint) : Option Nat := do
  let a ← hexValue a
  let b ← hexValue b
  let c ← hexValue c
  let d ← hexValue d
  pure (((a * 16 + b) * 16 + c) * 16 + d)

/-- The code point of a 16-bit unit or of a surrogate pair. -/
def unitCode (u : Nat) : CodePoint :=
  if h : u < 0x110000 then ⟨u, h⟩ else ⟨0, by decide⟩

/-- The character a one-letter escape stands for. -/
def simpleEscape (e : CodePoint) : Option CodePoint :=
  if e.val = 0x22 ∨ e.val = 0x5C ∨ e.val = 0x2F then some e
  else if e.val = 0x62 then some (unitCode 0x08)
  else if e.val = 0x66 then some (unitCode 0x0C)
  else if e.val = 0x6E then some (unitCode 0x0A)
  else if e.val = 0x72 then some (unitCode 0x0D)
  else if e.val = 0x74 then some (unitCode 0x09)
  else none

/-- Whether a code point is the character `c`. -/
def isChar (p : CodePoint) (c : Char) : Bool :=
  p.val == c.toNat

/-- Where the string scanner stands between two code points; each escape remembers the index of
its backslash, where CPython points when the escape is bad. -/
inductive StringState where
  /-- Between characters. -/
  | plain
  /-- After a backslash. -/
  | escape (at_ : Nat)
  /-- Reading the `count` hexadecimal digits of `\uXXXX` read so far. -/
  | unit (at_ value count : Nat)
  /-- After an escaped high surrogate, which a following escaped low surrogate joins. -/
  | afterHigh (high : Nat)
  /-- After an escaped high surrogate and a backslash. -/
  | highEscape (high at_ : Nat)
  /-- After an escaped high surrogate, reading the digits of the next `\uXXXX`. -/
  | low (high at_ value count : Nat)

/-- A completed `\uXXXX` unit: a high surrogate waits for its partner. -/
def unitDone (u : Nat) (acc : PyStr) : StringState × PyStr :=
  if 0xD800 ≤ u ∧ u ≤ 0xDBFF then (.afterHigh u, acc) else (.plain, unitCode u :: acc)

/-- The body of a string whose opening quote is at `start`: the scanner's state, the code points
read so far (last first), the index of the next code point and the rest of the text. -/
def scanString (start : Nat) : StringState → PyStr → Nat → PyStr → Scan PyStr
  | _, _, _, [] => .error ⟨"Unterminated string starting at", start⟩
  | .plain, acc, pos, c :: rest =>
      if isChar c '"' then .ok (acc.reverse, pos + 1, rest)
      else if isChar c '\\' then scanString start (.escape pos) acc (pos + 1) rest
      else if c.val < 0x20 then .error ⟨"Invalid control character at", pos⟩
      else scanString start .plain (c :: acc) (pos + 1) rest
  | .escape at_, acc, pos, c :: rest =>
      if isChar c 'u' then scanString start (.unit at_ 0 0) acc (pos + 1) rest
      else match simpleEscape c with
        | some e => scanString start .plain (e :: acc) (pos + 1) rest
        | none => .error ⟨"Invalid \\escape", at_⟩
  | .unit at_ value count, acc, pos, c :: rest =>
      match hexValue c with
      | none => .error ⟨"Invalid \\uXXXX escape", at_⟩
      | some d =>
          if count = 3 then
            let (state, acc) := unitDone (value * 16 + d) acc
            scanString start state acc (pos + 1) rest
          else scanString start (.unit at_ (value * 16 + d) (count + 1)) acc (pos + 1) rest
  | .afterHigh high, acc, pos, c :: rest =>
      if isChar c '\\' then scanString start (.highEscape high pos) acc (pos + 1) rest
      else if isChar c '"' then .ok ((unitCode high :: acc).reverse, pos + 1, rest)
      else if c.val < 0x20 then .error ⟨"Invalid control character at", pos⟩
      else scanString start .plain (c :: unitCode high :: acc) (pos + 1) rest
  | .highEscape high at_, acc, pos, c :: rest =>
      if isChar c 'u' then scanString start (.low high at_ 0 0) acc (pos + 1) rest
      else match simpleEscape c with
        | some e => scanString start .plain (e :: unitCode high :: acc) (pos + 1) rest
        | none => .error ⟨"Invalid \\escape", at_⟩
  | .low high at_ value count, acc, pos, c :: rest =>
      match hexValue c with
      | none => .error ⟨"Invalid \\uXXXX escape", at_⟩
      | some d =>
          if count = 3 then
            let u := value * 16 + d
            if 0xDC00 ≤ u ∧ u ≤ 0xDFFF then
              scanString start .plain
                (unitCode (0x10000 + (high - 0xD800) * 0x400 + (u - 0xDC00)) :: acc) (pos + 1) rest
            else
              let (state, acc) := unitDone u (unitCode high :: acc)
              scanString start state acc (pos + 1) rest
          else scanString start (.low high at_ (value * 16 + d) (count + 1)) acc (pos + 1) rest

/-- A run of ASCII digits: its value, its length and the rest. -/
def digits : PyStr → Nat × Nat × PyStr
  | [] => (0, 0, [])
  | c :: rest =>
      match digitValue c with
      | some d =>
          let (value, count, after) := digits rest
          (d * 10 ^ count + value, count + 1, after)
      | none => (0, 0, c :: rest)

/-- The exponent of a number, `[eE][-+]?\d+`, if one follows: its value, its length and the
rest. -/
def exponentOf : PyStr → Option (Int × Nat × PyStr)
  | e :: rest =>
      if isChar e 'e' || isChar e 'E' then
        let (negative, signLength, afterSign) := match rest with
          | s :: more => if isChar s '-' then (true, 1, more)
              else if isChar s '+' then (false, 1, more) else (false, 0, rest)
          | [] => (false, 0, rest)
        let (value, count, after) := digits afterSign
        if count = 0 then none
        else some (if negative then -(value : Int) else value, 1 + signLength + count, after)
      else none
  | [] => none

/-- The whole part `0|[1-9]\d*` of a number after its first digit `d`: its value, its length
and the rest. -/
def wholePart (d : Nat) (rest : PyStr) : Nat × Nat × PyStr :=
  if d = 0 then (0, 1, rest)
  else let (value, count, after) := digits rest; (d * 10 ^ count + value, count + 1, after)

/-- The fraction `\.\d+` of a number, if one follows: its digits' value, their count and the
rest. -/
def fractionPart : PyStr → Nat × Nat × PyStr
  | p :: more =>
      if isChar p '.' then
        let (value, count, after) := digits more
        if count = 0 then (0, 0, p :: more) else (value, count, after)
      else (0, 0, p :: more)
  | [] => (0, 0, [])

/-- The unsigned part of a number, `(0|[1-9]\d*)(\.\d+)?([eE][-+]?\d+)?`, after an optional
minus sign: the value, its length and the rest; `none` when no digit starts it. -/
def unsignedNumber (negative : Bool) : PyStr → Option (PyVal × Nat × PyStr)
  | [] => none
  | c :: rest =>
      match digitValue c with
      | none => none
      | some d =>
          let (whole, wholeLength, afterWhole) := wholePart d rest
          let (fraction, fractionLength, afterFraction) := fractionPart afterWhole
          let pointLength := if fractionLength = 0 then 0 else 1
          match exponentOf afterFraction with
          | some (exponent, exponentLength, after) =>
              some (.float (ofDecimal negative (whole * 10 ^ fractionLength + fraction)
                  (exponent - fractionLength)),
                wholeLength + pointLength + fractionLength + exponentLength, after)
          | none =>
              if fractionLength = 0 then
                some (.int (if negative then -(whole : Int) else whole), wholeLength, afterWhole)
              else
                some (.float (ofDecimal negative (whole * 10 ^ fractionLength + fraction)
                    (-(fractionLength : Int))),
                  wholeLength + pointLength + fractionLength, afterFraction)

/-- A number at the head of the text, with an optional minus sign. -/
def number : PyStr → Option (PyVal × Nat × PyStr)
  | c :: rest =>
      if isChar c '-' then
        (unsignedNumber true rest).map fun (v, n, after) => (v, n + 1, after)
      else unsignedNumber false (c :: rest)
  | [] => none

/-- Whether the text starts with the literal `word`; what follows it. -/
def literal (word : String) (s : PyStr) : Option PyStr :=
  if (text word).isPrefixOf s then some (s.drop word.length) else none

mutual

/-- `scan_once`: one value at index `pos`. -/
def value (constants : Bool) : Nat → Nat → PyStr → Scan PyVal
  | 0, pos, _ => .error ⟨"Expecting value", pos⟩
  | fuel + 1, pos, s =>
      match s with
      | [] => .error ⟨"Expecting value", pos⟩
      | c :: rest =>
          if isChar c '"' then
            (scanString pos .plain [] (pos + 1) rest).map fun (t, p, r) => (.str t, p, r)
          else if isChar c '{' then objectStart constants fuel (pos + 1) rest
          else if isChar c '[' then arrayStart constants fuel (pos + 1) rest
          else match literal "null" s, literal "true" s, literal "false" s with
            | some r, _, _ => .ok (.none, pos + 4, r)
            | _, some r, _ => .ok (.bool true, pos + 4, r)
            | _, _, some r => .ok (.bool false, pos + 5, r)
            | none, none, none =>
                match number s with
                | some (v, n, r) => .ok (v, pos + n, r)
                | none =>
                    match constants, literal "NaN" s, literal "Infinity" s,
                        literal "-Infinity" s with
                    | true, some r, _, _ => .ok (.float .nan, pos + 3, r)
                    | true, _, some r, _ => .ok (.float (.infinity false), pos + 8, r)
                    | true, _, _, some r => .ok (.float (.infinity true), pos + 9, r)
                    | _, _, _, _ => .error ⟨"Expecting value", pos⟩
termination_by structural fuel => fuel

/-- An array after its `[`. -/
def arrayStart (constants : Bool) : Nat → Nat → PyStr → Scan PyVal
  | 0, pos, _ => .error ⟨"Expecting value", pos⟩
  | fuel + 1, pos, s =>
      let (p, r) := skipWs pos s
      match r with
      | c :: rest =>
          if isChar c ']' then .ok (.list [], p + 1, rest)
          else arrayItems constants fuel [] p r
      | [] => .error ⟨"Expecting value", p⟩
termination_by structural fuel => fuel

/-- The items of an array from one that must follow, `acc` holding those read, last first. -/
def arrayItems (constants : Bool) : Nat → List PyVal → Nat → PyStr → Scan PyVal
  | 0, _, pos, _ => .error ⟨"Expecting value", pos⟩
  | fuel + 1, acc, pos, s =>
      match value constants fuel pos s with
      | .error failure => .error failure
      | .ok (v, p, r) =>
          match skipWs p r with
          | (p, c :: rest) =>
              if isChar c ']' then .ok (.list (v :: acc).reverse, p + 1, rest)
              else if isChar c ',' then
                let (p, r) := skipWs (p + 1) rest
                arrayItems constants fuel (v :: acc) p r
              else .error ⟨"Expecting ',' delimiter", p⟩
          | (p, []) => .error ⟨"Expecting ',' delimiter", p⟩
termination_by structural fuel => fuel

/-- An object after its `{`. -/
def objectStart (constants : Bool) : Nat → Nat → PyStr → Scan PyVal
  | 0, pos, _ => .error ⟨"Expecting value", pos⟩
  | fuel + 1, pos, s =>
      let (p, r) := skipWs pos s
      match r with
      | c :: rest =>
          if isChar c '}' then .ok (.dict [], p + 1, rest)
          else objectMembers constants fuel [] p r
      | [] => .error ⟨"Expecting property name enclosed in double quotes", p⟩
termination_by structural fuel => fuel

/-- The members of an object from one that must follow, `acc` holding the dict built. -/
def objectMembers (constants : Bool) : Nat → Entries → Nat → PyStr → Scan PyVal
  | 0, _, pos, _ => .error ⟨"Expecting value", pos⟩
  | fuel + 1, acc, pos, s =>
      match s with
      | q :: rest =>
          if isChar q '"' then
            match scanString pos .plain [] (pos + 1) rest with
            | .error failure => .error failure
            | .ok (key, p, r) =>
                match skipWs p r with
                | (p, c :: rest) =>
                    if isChar c ':' then
                      let (p, r) := skipWs (p + 1) rest
                      match value constants fuel p r with
                      | .error failure => .error failure
                      | .ok (v, p, r) =>
                          let members := Entries.insert acc key v
                          match skipWs p r with
                          | (p, c :: rest) =>
                              if isChar c '}' then .ok (.dict members, p + 1, rest)
                              else if isChar c ',' then
                                let (p, r) := skipWs (p + 1) rest
                                objectMembers constants fuel members p r
                              else .error ⟨"Expecting ',' delimiter", p⟩
                          | (p, []) => .error ⟨"Expecting ',' delimiter", p⟩
                    else .error ⟨"Expecting ':' delimiter", p⟩
                | (p, []) => .error ⟨"Expecting ':' delimiter", p⟩
          else .error ⟨"Expecting property name enclosed in double quotes", pos⟩
      | [] => .error ⟨"Expecting property name enclosed in double quotes", pos⟩
termination_by structural fuel => fuel

end

/-- The line and column CPython reports for an index into the text. -/
def location (doc : PyStr) (pos : Nat) : Nat × Nat :=
  let before := doc.take pos
  let line := (before.filter (isChar · '\n')).length + 1
  let column := (before.reverse.takeWhile (!isChar · '\n')).length + 1
  (line, column)

/-- The `JSONDecodeError` of a failure. -/
def decodeError (doc : PyStr) (failure : Failure) : PyExc :=
  let (line, column) := location doc failure.pos
  ⟨text "JSONDecodeError", text failure.msg ++ text ": line " ++ text (toString line) ++
    text " column " ++ text (toString column) ++ text " (char " ++
    text (toString failure.pos) ++ text ")"⟩

/-- Decode a whole text: one value between optional whitespace. -/
def decode (constants : Bool) (doc : PyStr) : Except PyExc PyVal :=
  match doc with
  | c :: _ =>
      if c.val = 0xFEFF then
        .error (decodeError doc ⟨"Unexpected UTF-8 BOM (decode using utf-8-sig)", 0⟩)
      else decodeBody
  | [] => decodeBody
where
  /-- The text without a byte order mark. -/
  decodeBody : Except PyExc PyVal :=
    let (p, r) := skipWs 0 doc
    match value constants (3 * doc.length + 1) p r with
    | .error failure => .error (decodeError doc failure)
    | .ok (v, p, r) =>
        match skipWs p r with
        | (_, []) => .ok v
        | (p, _) => .error (decodeError doc ⟨"Extra data", p⟩)

/-- `json.loads(s)`. -/
def loads (s : PyStr) : Except PyExc PyVal :=
  decode true s

/-- The decoder of RFC 8259 texts: `json.loads` without the three non-standard constants. -/
def rfc8259 (s : PyStr) : Except PyExc PyVal :=
  decode false s

end Json
end Kennel
