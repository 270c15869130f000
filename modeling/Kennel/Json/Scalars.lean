import Kennel.Json.Encode
import Kennel.Json.Decode

namespace Kennel
namespace Json

open Python

/-!
# Strings and numbers read back

The scanner of `json.loads` reads each scalar that `json.dumps` writes back as the value it was
written from: a string without a split surrogate pair, an `int` from its `repr`, and a finite
float from its shortest `repr`, in each of the four layouts `float.__repr__` uses.  Each reading
is proved scanner step by scanner step, and needs only that the text after the scalar is what
`json.dumps` may write after a value.
-/

/-! ## Strings -/

/-- Whether a code point is a high surrogate, which an escaped low surrogate after it joins. -/
def isHighSurrogate (c : CodePoint) : Bool :=
  0xD800 ≤ c.val && c.val ≤ 0xDBFF

/-- Whether a code point is a low surrogate. -/
def isLowSurrogate (c : CodePoint) : Bool :=
  0xDC00 ≤ c.val && c.val ≤ 0xDFFF

/-- Whether text holds a high surrogate directly followed by a low one: `json.dumps` escapes the
two apart and `json.loads` joins the escapes into one code point. -/
def splitsPair : PyStr → Bool
  | a :: b :: rest => (isHighSurrogate a && isLowSurrogate b) || splitsPair (b :: rest)
  | _ => false

/-- The string scanner between two characters: in plain text, or after an escaped high surrogate
`h` that the next escape may join. -/
def between : Option Nat → StringState
  | none => .plain
  | some h => .afterHigh h

/-- The characters read so far, last first, with the pending high surrogate. -/
def flush : Option Nat → PyStr → PyStr
  | none, acc => acc
  | some h, acc => unitCode h :: acc

theorem unitCode_val (c : CodePoint) : unitCode c.val = c := by
  simp [unitCode, c.isLt]

theorem hexValue_hexChar (d : Nat) : hexValue (hexChar d) = some (d % 16) := by
  have below := Nat.mod_lt d (show 16 > 0 by omega)
  unfold hexChar hexValue
  split
  · rw [if_pos (by simp only [Fin.val_mk]; omega)]
    exact congrArg some (by simp only [Fin.val_mk]; omega)
  · rw [if_neg (by simp only [Fin.val_mk]; omega), if_pos (by simp only [Fin.val_mk]; omega)]
    exact congrArg some (by simp only [Fin.val_mk]; omega)

/-- Four hexadecimal digits of a 16-bit unit, read most significant first, make the unit. -/
theorem hex4_value {u : Nat} (small : u < 0x10000) :
    (((0 * 16 + u / 4096 % 16) * 16 + u / 256 % 16) * 16 + u / 16 % 16) * 16 + u % 16 = u := by
  omega

theorem scanString_unit (start at_ : Nat) {u : Nat} (small : u < 0x10000) (acc : PyStr)
    (pos : Nat) (more : PyStr) :
    scanString start (.unit at_ 0 0) acc pos
        ([hexChar (u / 4096), hexChar (u / 256), hexChar (u / 16), hexChar u] ++ more) =
      scanString start (unitDone u acc).1 (unitDone u acc).2 (pos + 4) more := by
  simp only [List.cons_append, List.nil_append, scanString, hexValue_hexChar]
  simp only [hex4_value small, show pos + 1 + 1 + 1 + 1 = pos + 4 by omega]
  rfl

theorem scanString_low (start high at_ : Nat) {u : Nat} (small : u < 0x10000) (acc : PyStr)
    (pos : Nat) (more : PyStr) :
    scanString start (.low high at_ 0 0) acc pos
        ([hexChar (u / 4096), hexChar (u / 256), hexChar (u / 16), hexChar u] ++ more) =
      if 0xDC00 ≤ u ∧ u ≤ 0xDFFF then
        scanString start .plain (unitCode (0x10000 + (high - 0xD800) * 0x400 + (u - 0xDC00)) :: acc)
          (pos + 4) more
      else
        scanString start (unitDone u (unitCode high :: acc)).1 (unitDone u (unitCode high :: acc)).2
          (pos + 4) more := by
  simp only [List.cons_append, List.nil_append, scanString, hexValue_hexChar]
  simp only [hex4_value small, show pos + 1 + 1 + 1 + 1 = pos + 4 by omega]
  rfl

/-- The backslash. -/
def backslash : CodePoint := ⟨0x5C, by decide⟩

/-- The double quote. -/
def quote : CodePoint := ⟨0x22, by decide⟩

theorem isChar_backslash : isChar backslash '"' = false ∧ isChar backslash '\\' = true ∧
    isChar backslash 'u' = false := by decide

theorem scanString_simpleEscape (start : Nat) (p : Option Nat) {e c : CodePoint}
    (notU : e.val ≠ 0x75) (escapes : simpleEscape e = some c) (acc : PyStr) (pos : Nat)
    (more : PyStr) :
    scanString start (between p) acc pos (backslash :: e :: more) =
      scanString start .plain (c :: flush p acc) (pos + 2) more := by
  have notU' : isChar e 'u' = false := by simpa [isChar] using notU
  cases p <;>
    simp only [between, flush, scanString, isChar_backslash, notU', escapes, Bool.false_eq_true,
      ↓reduceIte, Nat.add_assoc]

theorem scanString_plainChar (start : Nat) (p : Option Nat) {c : CodePoint}
    (plain : 0x20 ≤ c.val ∧ c.val ≤ 0x7E) (notQuote : c.val ≠ 0x22) (notBackslash : c.val ≠ 0x5C)
    (acc : PyStr) (pos : Nat) (more : PyStr) :
    scanString start (between p) acc pos (c :: more) =
      scanString start .plain (c :: flush p acc) (pos + 1) more := by
  have notQuote' : isChar c '"' = false := by simpa [isChar] using notQuote
  have notBackslash' : isChar c '\\' = false := by simpa [isChar] using notBackslash
  have notControl : ¬c.val < 0x20 := by omega
  cases p <;>
    simp only [between, flush, scanString, notQuote', notBackslash', notControl, Bool.false_eq_true,
      ↓reduceIte]

@[simp] theorem unitEscape_length (u : Nat) : (unitEscape u).length = 6 := rfl

/-- The letter `u` of `\uXXXX`. -/
def letterU : CodePoint := ⟨0x75, by decide⟩

theorem unitEscape_eq' (u : Nat) :
    unitEscape u = backslash :: letterU ::
      [hexChar (u / 4096), hexChar (u / 256), hexChar (u / 16), hexChar u] := rfl

/-- After `\u` the scanner reads four digits, to be joined with a pending high surrogate. -/
theorem scanString_escapeU (start : Nat) (p : Option Nat) (acc : PyStr) (pos : Nat) (rest : PyStr) :
    scanString start (between p) acc pos (backslash :: letterU :: rest) =
      scanString start (match p with | none => .unit pos 0 0 | some h => .low h pos 0 0) acc
        (pos + 2) rest := by
  have isU : isChar letterU 'u' = true := by decide
  cases p <;>
    simp only [between, scanString, isChar_backslash, isU, Bool.false_eq_true, ↓reduceIte,
      Nat.add_assoc]

theorem scanString_unitEscape (start : Nat) (p : Option Nat) {u : Nat} (small : u < 0x10000)
    (unpaired : p.isSome → ¬(0xDC00 ≤ u ∧ u ≤ 0xDFFF)) (acc : PyStr) (pos : Nat) (more : PyStr) :
    scanString start (between p) acc pos (unitEscape u ++ more) =
      scanString start (unitDone u (flush p acc)).1 (unitDone u (flush p acc)).2 (pos + 6) more := by
  rw [unitEscape_eq', List.cons_append, List.cons_append, scanString_escapeU]
  cases p with
  | none => rw [scanString_unit start pos small]; rfl
  | some h => rw [scanString_low start h pos small, if_neg (unpaired rfl)]; rfl

theorem scanString_pairEscape (start : Nat) {hi lo : Nat} (isLow : 0xDC00 ≤ lo ∧ lo ≤ 0xDFFF) (acc : PyStr) (pos : Nat) (more : PyStr) :
    scanString start (.afterHigh hi) acc pos (unitEscape lo ++ more) =
      scanString start .plain (unitCode (0x10000 + (hi - 0xD800) * 0x400 + (lo - 0xDC00)) :: acc)
        (pos + 6) more := by
  rw [unitEscape_eq', List.cons_append, List.cons_append,
    show StringState.afterHigh hi = between (some hi) from rfl, scanString_escapeU]
  rw [scanString_low start hi pos (show lo < 0x10000 by omega), if_pos isLow]

/-- What the scanner has made of a character: the pending high surrogate and the characters
read, which with the surrogate flushed are the character after those before it. -/
def ReadChar (p : Option Nat) (c : CodePoint) (acc : PyStr) (p' : Option Nat) (acc' : PyStr) :
    Prop :=
  (p'.isSome → isHighSurrogate c = true) ∧ flush p' acc' = c :: flush p acc

theorem scanString_simple_step (start : Nat) (p : Option Nat) {e c : CodePoint}
    (notU : e.val ≠ 0x75) (escapes : simpleEscape e = some c) (acc : PyStr) (pos : Nat)
    (more : PyStr) :
    ∃ p' acc', ReadChar p c acc p' acc' ∧
      scanString start (between p) acc pos (backslash :: e :: more) =
        scanString start (between p') acc' (pos + 2) more :=
  ⟨none, c :: flush p acc, ⟨nofun, rfl⟩, scanString_simpleEscape start p notU escapes acc pos more⟩

/-- One character as `ensure_ascii` escapes it is read back as that character, unless it is a
low surrogate after a pending high one. -/
theorem scanString_escapeChar (start : Nat) (p : Option Nat) (c : CodePoint)
    (unpaired : p.isSome → isLowSurrogate c = false) (acc : PyStr) (pos : Nat) (more : PyStr) :
    ∃ p' acc', ReadChar p c acc p' acc' ∧
      scanString start (between p) acc pos (escapeChar c ++ more) =
        scanString start (between p') acc' (pos + (escapeChar c).length) more := by
  have simple := fun (e : CodePoint) (code : Nat) (same : c.val = code) (notU : e.val ≠ 0x75)
      (escapes : simpleEscape e = some (unitCode code)) =>
    (show c = unitCode code from Fin.ext (by simp [unitCode, same, c.isLt.trans_eq' same.symm])) ▸
      scanString_simple_step start p notU escapes acc pos more
  unfold escapeChar
  by_cases isBackslash : c.val = 0x5C
  · rw [if_pos isBackslash]; exact simple backslash 0x5C isBackslash (by decide) (by decide)
  rw [if_neg isBackslash]
  by_cases isQuote : c.val = 0x22
  · rw [if_pos isQuote]; exact simple quote 0x22 isQuote (by decide) (by decide)
  rw [if_neg isQuote]
  by_cases plain : 0x20 ≤ c.val ∧ c.val ≤ 0x7E
  · rw [if_pos plain]
    exact ⟨none, c :: flush p acc, ⟨nofun, rfl⟩,
      scanString_plainChar start p plain isQuote isBackslash acc pos more⟩
  rw [if_neg plain]
  by_cases backspace : c.val = 0x08
  · rw [if_pos backspace]; exact simple ⟨0x62, by decide⟩ 0x08 backspace (by decide) (by decide)
  rw [if_neg backspace]
  by_cases formFeed : c.val = 0x0C
  · rw [if_pos formFeed]; exact simple ⟨0x66, by decide⟩ 0x0C formFeed (by decide) (by decide)
  rw [if_neg formFeed]
  by_cases lineFeed : c.val = 0x0A
  · rw [if_pos lineFeed]; exact simple ⟨0x6E, by decide⟩ 0x0A lineFeed (by decide) (by decide)
  rw [if_neg lineFeed]
  by_cases carriageReturn : c.val = 0x0D
  · rw [if_pos carriageReturn]
    exact simple ⟨0x72, by decide⟩ 0x0D carriageReturn (by decide) (by decide)
  rw [if_neg carriageReturn]
  by_cases tab : c.val = 0x09
  · rw [if_pos tab]; exact simple ⟨0x74, by decide⟩ 0x09 tab (by decide) (by decide)
  rw [if_neg tab]
  by_cases basic : c.val < 0x10000
  · rw [if_pos basic]
    have notLow : p.isSome → ¬(0xDC00 ≤ c.val ∧ c.val ≤ 0xDFFF) := fun pending => by
      simpa [isLowSurrogate] using unpaired pending
    rw [scanString_unitEscape start p basic notLow]
    by_cases high : 0xD800 ≤ c.val ∧ c.val ≤ 0xDBFF
    · refine ⟨some c.val, flush p acc, ⟨fun _ => by simpa [isHighSurrogate] using high, ?_⟩, ?_⟩
      · simp [flush, unitCode_val]
      · simp [unitDone, high, between]
    · refine ⟨none, c :: flush p acc, ⟨nofun, rfl⟩, ?_⟩
      simp [unitDone, high, between, unitCode_val]
  · -- a code point past the basic plane: two escapes, joined back into one
    have joined : unitCode (0x10000 + (0xD800 + (c.val - 0x10000) / 0x400 - 0xD800) * 0x400 +
        (0xDC00 + (c.val - 0x10000) % 0x400 - 0xDC00)) = c := by
      have whole : 0x10000 + (0xD800 + (c.val - 0x10000) / 0x400 - 0xD800) * 0x400 +
          (0xDC00 + (c.val - 0x10000) % 0x400 - 0xDC00) = c.val := by omega
      rw [whole, unitCode_val]
    rw [if_neg basic, List.append_assoc,
      @scanString_unitEscape start p (0xD800 + (c.val - 0x10000) / 0x400) (by omega)
        (fun _ => by omega) acc pos]
    refine ⟨none, c :: flush p acc, ⟨nofun, rfl⟩, ?_⟩
    have high : 0xD800 ≤ 0xD800 + (c.val - 0x10000) / 0x400 ∧
        0xD800 + (c.val - 0x10000) / 0x400 ≤ 0xDBFF := by omega
    simp only [unitDone, high, and_self, ↓reduceIte]
    rw [scanString_pairEscape start (by omega), joined]
    simp only [List.length_append, unitEscape_length]
    rfl

theorem splitsPair_cons {c : CodePoint} {s : PyStr} (noPair : splitsPair (c :: s) = false) :
    splitsPair s = false ∧ (isHighSurrogate c = true → ∀ d ∈ s.head?, isLowSurrogate d = false) := by
  cases s with
  | nil => exact ⟨rfl, nofun⟩
  | cons d s =>
      simp only [splitsPair, Bool.or_eq_false_iff, Bool.and_eq_false_iff] at noPair
      refine ⟨noPair.2, fun high d' member => ?_⟩
      cases member
      simpa [high] using noPair.1

/-- A string as `json.dumps` writes it between its quotes reads back as itself. -/
theorem scanString_encode (start : Nat) :
    ∀ (s : PyStr) (p : Option Nat) (acc : PyStr) (pos : Nat) (rest : PyStr),
      splitsPair s = false → (p.isSome → ∀ c ∈ s.head?, isLowSurrogate c = false) →
      scanString start (between p) acc pos (s.flatMap escapeChar ++ quote :: rest) =
        .ok ((flush p acc).reverse ++ s, pos + (s.flatMap escapeChar).length + 1, rest)
  | [], p, acc, pos, rest, _, _ => by
      have closing : isChar quote '"' = true ∧ isChar quote '\\' = false := by decide
      cases p <;> simp [between, flush, scanString, closing]
  | c :: s, p, acc, pos, rest, noPair, unpaired => by
      obtain ⟨p', acc', ⟨highOnly, flushed⟩, step⟩ := scanString_escapeChar start p c
        (fun pending => unpaired pending c rfl) acc pos (s.flatMap escapeChar ++ quote :: rest)
      obtain ⟨noPair', afterHigh⟩ := splitsPair_cons noPair
      rw [List.flatMap_cons, List.append_assoc, step,
        scanString_encode start s p' acc' _ rest noPair' fun pending => afterHigh (highOnly pending),
        flushed]
      simp only [List.reverse_cons, List.append_assoc, List.singleton_append, List.length_append,
        Nat.add_assoc]

/-! ## Numbers -/

/-- What may follow a value in `json.dumps` output: the end, a comma or a closing bracket. -/
def Follows (rest : PyStr) : Prop :=
  ∀ c ∈ rest.head?, c.val = 0x2C ∨ c.val = 0x5D ∨ c.val = 0x7D

theorem digitValue_digitChar {d : Nat} (small : d < 10) : digitValue (digitChar d) = some d := by
  simp only [digitValue, digitChar, Nat.mod_eq_of_lt small]
  rw [if_pos (by omega)]
  congr 1
  omega

theorem digits_stop {rest : PyStr} (stops : ∀ c ∈ rest.head?, digitValue c = none) :
    digits rest = (0, 0, rest) := by
  cases rest with
  | nil => rfl
  | cons c rest => simp [digits, stops c rfl]

theorem digits_map (ds : List Nat) (small : ∀ d ∈ ds, d < 10) {rest : PyStr}
    (stops : ∀ c ∈ rest.head?, digitValue c = none) :
    digits (ds.map digitChar ++ rest) = (Nat.ofDigits 10 ds.reverse, ds.length, rest) := by
  induction ds with
  | nil => exact digits_stop stops
  | cons d ds more =>
      have tail := more fun e member => small e (List.mem_cons_of_mem d member)
      simp only [List.map_cons, List.cons_append, digits,
        digitValue_digitChar (small d (List.mem_cons_self d ds)), List.append_eq, tail,
        List.reverse_cons, Nat.ofDigits_append, Nat.ofDigits_singleton, List.length_reverse,
        List.length_cons, Prod.mk.injEq, and_true]
      ring

theorem Follows.stops {rest : PyStr} (follows : Follows rest) :
    ∀ c ∈ rest.head?, digitValue c = none := fun c member => by
  have separator := follows c member
  simp only [digitValue]
  rw [if_neg (by omega)]

theorem fractionPart_of_follows {rest : PyStr} (follows : Follows rest) :
    fractionPart rest = (0, 0, rest) := by
  cases rest with
  | nil => rfl
  | cons c rest =>
      have notPoint : isChar c '.' = false := by
        have separator := follows c rfl
        simp only [isChar, beq_eq_false_iff_ne]
        show c.val ≠ 0x2E
        omega
      simp [fractionPart, notPoint]

theorem exponentOf_of_follows {rest : PyStr} (follows : Follows rest) :
    exponentOf rest = none := by
  cases rest with
  | nil => rfl
  | cons c rest =>
      have notE : isChar c 'e' = false ∧ isChar c 'E' = false := by
        have separator := follows c rfl
        simp only [isChar, beq_eq_false_iff_ne]
        exact ⟨show c.val ≠ 0x65 by omega, show c.val ≠ 0x45 by omega⟩
      simp [exponentOf, notE]

theorem decimalDigits_lt (n : Nat) : ∀ d ∈ decimalDigits n, d < 10 := fun _ member =>
  Nat.digits_lt_base (by norm_num) (List.mem_reverse.mp member)

theorem ofDigits_decimalDigits (n : Nat) : Nat.ofDigits 10 (decimalDigits n).reverse = n := by
  simp [decimalDigits, Nat.ofDigits_digits]

/-- The leading digit of a positive number is not zero. -/
theorem decimalDigits_leading {n d : Nat} {ds : List Nat} (same : decimalDigits n = d :: ds) :
    d ≠ 0 := by
  have positive : n ≠ 0 := by rintro rfl; simp [decimalDigits] at same
  have reversed : Nat.digits 10 n = ds.reverse ++ [d] := by
    have flipped : (Nat.digits 10 n).reverse = d :: ds := same
    rw [← List.reverse_reverse (Nat.digits 10 n), flipped]
    simp
  simpa [reversed] using Nat.getLast_digit_ne_zero 10 positive

theorem wholePart_digits {d : Nat} {ds : List Nat} (leading : d ≠ 0)
    (small : ∀ e ∈ d :: ds, e < 10) {rest : PyStr} (stops : ∀ c ∈ rest.head?, digitValue c = none) :
    wholePart d (ds.map digitChar ++ rest) = (Nat.ofDigits 10 (d :: ds).reverse, ds.length + 1, rest) := by
  simp only [wholePart, leading, ↓reduceIte,
    digits_map ds (fun e member => small e (List.mem_cons_of_mem d member)) stops,
    List.reverse_cons, Nat.ofDigits_append, Nat.ofDigits_singleton, List.length_reverse,
    Prod.mk.injEq, and_true]
  ring

theorem unsignedNumber_natRepr (negative : Bool) (m : Nat) {rest : PyStr} (follows : Follows rest) :
    unsignedNumber negative (natRepr m ++ rest) =
      some (.int (if negative then -(m : Int) else m), (natRepr m).length, rest) := by
  unfold natRepr
  cases same : decimalDigits m with
  | nil =>
      have zero : m = 0 := Nat.digits_eq_nil_iff_eq_zero.mp (List.reverse_eq_nil_iff.mp same)
      subst zero
      have zeroDigit : digitValue (digitChar 0) = some 0 := digitValue_digitChar (by decide)
      simp only [show text "0" = [digitChar 0] from rfl, List.cons_append, List.nil_append,
        unsignedNumber, zeroDigit, wholePart, fractionPart_of_follows follows,
        exponentOf_of_follows follows, ↓reduceIte]
      cases negative <;> rfl
  | cons d ds =>
      have small := decimalDigits_lt m
      rw [same] at small
      have value : Nat.ofDigits 10 (d :: ds).reverse = m := same ▸ ofDigits_decimalDigits m
      simp only [List.map_cons, List.cons_append, unsignedNumber,
        digitValue_digitChar (small d (List.mem_cons_self d ds)),
        wholePart_digits (decimalDigits_leading same) small follows.stops,
        fractionPart_of_follows follows, exponentOf_of_follows follows, ↓reduceIte,
        value, List.length_map, List.length_cons]

/-- A number is its unsigned part after the sign `repr` writes. -/
theorem number_signed (negative : Bool) (body : PyStr) {v : PyVal} {n : Nat} {after : PyStr}
    (reads : unsignedNumber negative body = some (v, n, after)) :
    number ((if negative then text "-" else []) ++ body) =
      some (v, (if negative then text "-" else []).length + n, after) := by
  cases negative with
  | true =>
      simp only [↓reduceIte, show text "-" = [⟨0x2D, by decide⟩] from rfl, List.singleton_append,
        number, show isChar ⟨0x2D, by decide⟩ '-' = true by decide, reads, Option.map_some',
        Nat.add_comm, List.length_singleton]
  | false =>
      cases body with
      | nil => cases reads
      | cons c more =>
          cases digit : digitValue c with
          | none => simp [unsignedNumber, digit] at reads
          | some e =>
              have notMinus : isChar c '-' = false := by
                simp only [digitValue] at digit
                split_ifs at digit with range
                simp only [isChar, beq_eq_false_iff_ne]
                show c.val ≠ 0x2D
                omega
              simp only [Bool.false_eq_true, ↓reduceIte, List.nil_append, number, notMinus, reads,
                List.length_nil, Nat.zero_add]

theorem number_intRepr (n : Int) {rest : PyStr} (follows : Follows rest) :
    number (intRepr n ++ rest) = some (.int n, (intRepr n).length, rest) := by
  unfold intRepr
  by_cases negative : n < 0
  · have signed := number_signed true _ (unsignedNumber_natRepr true n.natAbs follows)
    simp only [↓reduceIte, Int.ofNat_natAbs_of_nonpos negative.le, Int.neg_neg] at signed
    rw [if_pos negative, List.append_assoc, signed, List.length_append]
  · have signed := number_signed false _ (unsignedNumber_natRepr false n.natAbs follows)
    simp only [Bool.false_eq_true, ↓reduceIte, Int.natAbs_of_nonneg (Int.not_lt.mp negative)] at signed
    rw [if_neg negative, List.append_assoc, signed, List.length_append]

/-! ## Floats -/

theorem ofDigits_replicate_zero (k : Nat) : Nat.ofDigits 10 (List.replicate k 0) = 0 := by
  induction k with
  | zero => rfl
  | succ k more => simp [List.replicate_succ, Nat.ofDigits_cons, more]

theorem zeros_eq (k : Nat) : zeros k = (List.replicate k 0).map digitChar := by
  simp [zeros, List.map_replicate]

@[simp] theorem zeros_length (k : Nat) : (zeros k).length = k := List.length_replicate _ _

theorem signText_length (p : Prop) [Decidable p] : (text (if p then "-" else "+")).length = 1 := by
  split <;> rfl

/-- The decimal point. -/
def pointChar : CodePoint := ⟨0x2E, by decide⟩

/-- What stops a run of digits: a point, an exponent, or what may follow a value. -/
theorem stops_cons {c : CodePoint} (notDigit : c.val < 0x30 ∨ 0x39 < c.val) (rest : PyStr) :
    ∀ e ∈ (c :: rest).head?, digitValue e = none := fun e member => by
  cases member
  simp only [digitValue]
  rw [if_neg (by omega)]

theorem fractionPart_digits {ds : List Nat} (nonempty : ds ≠ []) (small : ∀ d ∈ ds, d < 10)
    {rest : PyStr} (stops : ∀ c ∈ rest.head?, digitValue c = none) :
    fractionPart (pointChar :: (ds.map digitChar ++ rest)) =
      (Nat.ofDigits 10 ds.reverse, ds.length, rest) := by
  have isPoint : isChar pointChar '.' = true := by decide
  have counted : ds.length ≠ 0 := fun empty => nonempty (List.eq_nil_of_length_eq_zero empty)
  simp only [fractionPart, isPoint, ↓reduceIte, digits_map ds small stops, counted]

/-- The exponent of `repr`'s exponent notation, at least two digits with its sign, reads back. -/
theorem exponentOf_layout {E : Int} (nonzero : E ≠ 0) {rest : PyStr} (follows : Follows rest) :
    exponentOf (text "e" ++ (text (if E < 0 then "-" else "+") ++
        (zeros (2 - (decimalDigits E.natAbs).length) ++
          ((decimalDigits E.natAbs).map digitChar ++ rest)))) =
      some (E, 2 + ((2 - (decimalDigits E.natAbs).length) + (decimalDigits E.natAbs).length), rest) := by
  have shownNonempty : decimalDigits E.natAbs ≠ [] := by
    simp only [decimalDigits, ne_eq, List.reverse_eq_nil_iff, Nat.digits_eq_nil_iff_eq_zero]
    omega
  have small : ∀ d ∈ List.replicate (2 - (decimalDigits E.natAbs).length) 0 ++ decimalDigits E.natAbs,
      d < 10 := by
    intro d member
    rcases List.mem_append.mp member with zero | digit
    · rw [List.eq_of_mem_replicate zero]; decide
    · exact decimalDigits_lt _ d digit
  have read := digits_map _ small follows.stops
  simp only [List.map_append, ← zeros_eq, List.append_assoc, List.reverse_append,
    List.reverse_replicate, Nat.ofDigits_append, ofDigits_replicate_zero, Nat.mul_zero,
    Nat.add_zero, ofDigits_decimalDigits, List.length_append, List.length_replicate] at read
  have counted : (2 - (decimalDigits E.natAbs).length) + (decimalDigits E.natAbs).length ≠ 0 := by
    have := List.length_pos.mpr shownNonempty
    omega
  by_cases negative : E < 0
  · simp only [negative, ↓reduceIte, show text "e" = [⟨0x65, by decide⟩] from rfl,
      show text "-" = [⟨0x2D, by decide⟩] from rfl, List.singleton_append, exponentOf,
      show isChar ⟨0x65, by decide⟩ 'e' = true by decide, Bool.true_or,
      show isChar ⟨0x2D, by decide⟩ '-' = true by decide, read, counted, ↓reduceIte,
      Option.some.injEq, Prod.mk.injEq, and_true]
    omega
  · simp only [negative, ↓reduceIte, show text "e" = [⟨0x65, by decide⟩] from rfl,
      show text "+" = [⟨0x2B, by decide⟩] from rfl, List.singleton_append, exponentOf,
      show isChar ⟨0x65, by decide⟩ 'e' = true by decide, Bool.true_or,
      show isChar ⟨0x2B, by decide⟩ '-' = false by decide,
      show isChar ⟨0x2B, by decide⟩ '+' = true by decide, Bool.false_eq_true, ↓reduceIte, read,
      counted, Option.some.injEq, Prod.mk.injEq, and_true]
    omega

theorem wholePart_single {d : Nat} (leading : d ≠ 0) {rest : PyStr}
    (stops : ∀ c ∈ rest.head?, digitValue c = none) : wholePart d rest = (d, 1, rest) := by
  simp [wholePart, leading, digits_stop stops]

theorem fractionPart_stop {c : CodePoint} (notPoint : c.val ≠ 0x2E) (rest : PyStr) :
    fractionPart (c :: rest) = (0, 0, c :: rest) := by
  have notPoint' : isChar c '.' = false := by simpa [isChar] using notPoint
  simp [fractionPart, notPoint']

theorem ofDigits_cons_reverse (d : Nat) (ds : List Nat) :
    Nat.ofDigits 10 (d :: ds).reverse = d * 10 ^ ds.length + Nat.ofDigits 10 ds.reverse := by
  simp [Nat.ofDigits_append, Nat.ofDigits_singleton, Nat.add_comm, Nat.mul_comm]

section Layout

variable (negative : Bool) {d : Nat} {ds : List Nat} (leading : d ≠ 0)
  (small : ∀ e ∈ d :: ds, e < 10) {rest : PyStr} (follows : Follows rest)
include leading small follows

/-- Exponent notation, `d.ddde+XX`. -/
theorem unsignedNumber_layout_far {point : Int} (far : point ≤ -4 ∨ 16 < point) :
    unsignedNumber negative (layoutRepr (d :: ds) point ++ rest) =
      some (.float (ofDecimal negative (Nat.ofDigits 10 (d :: ds).reverse) (point - (ds.length + 1))),
        (layoutRepr (d :: ds) point).length, rest) := by
  have exponent := exponentOf_layout (show point - 1 ≠ 0 by omega) follows
  have stopsAtE : ∀ more : PyStr, ∀ c ∈ (text "e" ++ more).head?, digitValue c = none :=
    fun more => stops_cons (by decide) _
  have fractionAtE : ∀ more : PyStr, fractionPart (text "e" ++ more) = (0, 0, text "e" ++ more) :=
    fun more => @fractionPart_stop ⟨0x65, by decide⟩ (by decide) more
  have first := digitValue_digitChar (small d (List.mem_cons_self _ _))
  unfold layoutRepr
  rw [if_pos far]
  cases ds with
  | nil =>
      simp only [List.map_cons, List.map_nil, List.append_assoc, List.singleton_append,
        List.cons_append, unsignedNumber, first, wholePart_single leading (stopsAtE _), fractionAtE,
        exponent, List.length_cons, List.length_append, List.reverse_cons, List.reverse_nil,
        List.nil_append, Nat.ofDigits_singleton, zeros_length, signText_length, List.length_map,
        show (text "e").length = 1 from rfl, List.length_nil, pow_zero, Nat.mul_one, Nat.add_zero,
        Nat.cast_zero, Int.sub_zero, zero_add, ite_true, Option.some.injEq, Prod.mk.injEq,
        true_and, and_true]
      omega
  | cons e ds =>
      have stopsAtPoint : ∀ more : PyStr, ∀ c ∈ (pointChar :: more).head?, digitValue c = none :=
        fun more => stops_cons (by decide) _
      have fraction := fun more => @fractionPart_digits (e :: ds) (List.cons_ne_nil e ds)
        (fun x member => small x (List.mem_cons_of_mem d member)) (text "e" ++ more) (stopsAtE more)
      simp only [List.map_cons, List.cons_append] at fraction
      simp only [List.map_cons, List.append_assoc, List.cons_append, unsignedNumber, first,
        wholePart_single leading (stopsAtPoint _), show text "." = [pointChar] from rfl,
        List.singleton_append, List.nil_append, fraction, exponent,
        ofDigits_cons_reverse d (e :: ds), List.length_cons, List.length_append, List.length_map,
        zeros_length, signText_length, show (text "e").length = 1 from rfl, Option.some.injEq,
        Prod.mk.injEq, and_true, Nat.add_one_ne_zero, ↓reduceIte]
      exact ⟨congrArg (fun x => PyVal.float (ofDecimal negative _ x)) (by omega), by omega⟩

omit leading in
/-- Positional notation below one, `0.000ddd`. -/
theorem unsignedNumber_layout_small {point : Int} (near : ¬(point ≤ -4 ∨ 16 < point))
    (nonpositive : point ≤ 0) :
    unsignedNumber negative (layoutRepr (d :: ds) point ++ rest) =
      some (.float (ofDecimal negative (Nat.ofDigits 10 (d :: ds).reverse) (point - (ds.length + 1))),
        (layoutRepr (d :: ds) point).length, rest) := by
  have digitsSmall : ∀ x ∈ List.replicate point.natAbs 0 ++ d :: ds, x < 10 := by
    intro x member
    rcases List.mem_append.mp member with zero | digit
    · rw [List.eq_of_mem_replicate zero]; decide
    · exact small x digit
  have fraction := @fractionPart_digits _ (by simp) digitsSmall rest follows.stops
  have zeroDigit : digitValue (digitChar 0) = some 0 := digitValue_digitChar (by decide)
  simp only [List.map_append, List.map_cons, List.append_assoc, List.cons_append,
    List.reverse_append, List.reverse_replicate, Nat.ofDigits_append, ofDigits_replicate_zero,
    Nat.mul_zero, Nat.add_zero, List.length_append, List.length_replicate, List.length_cons] at fraction
  unfold layoutRepr
  rw [if_neg near, if_pos nonpositive, show text "0." = [digitChar 0, pointChar] from rfl]
  simp only [zeros_eq, List.map_cons, List.append_assoc, List.cons_append, List.nil_append,
    unsignedNumber, zeroDigit, wholePart, ↓reduceIte, fraction, exponentOf_of_follows follows,
    Nat.zero_mul, Nat.zero_add, List.length_cons, List.length_append, List.length_map,
    List.length_replicate, Option.some.injEq, Prod.mk.injEq, and_true]
  simp only [show point.natAbs + (ds.length + 1) ≠ 0 by omega, ↓reduceIte]
  rw [show -((point.natAbs + (ds.length + 1) : Nat) : Int) = point - (ds.length + 1) by omega,
    show 1 + 1 + (point.natAbs + (ds.length + 1)) = point.natAbs + (ds.length + 1) + 1 + 1 by omega]

/-- Positional notation of a whole number, `ddd000.0`. -/
theorem unsignedNumber_layout_whole {point : Int} (near : ¬(point ≤ -4 ∨ 16 < point))
    (positive : ¬point ≤ 0) (whole : (d :: ds).length ≤ point.toNat) :
    unsignedNumber negative (layoutRepr (d :: ds) point ++ rest) =
      some (.float (ofDecimal negative (Nat.ofDigits 10 (d :: ds).reverse) (point - (ds.length + 1))),
        (layoutRepr (d :: ds) point).length, rest) := by
  have padded : ∀ x ∈ d :: (ds ++ List.replicate (point.toNat - (d :: ds).length) 0), x < 10 := by
    intro x member
    rcases List.mem_append.mp (List.cons_append d ds _ ▸ member) with digit | zero
    · exact small x digit
    · rw [List.eq_of_mem_replicate zero]; decide
  have stopsAtPoint : ∀ more : PyStr, ∀ c ∈ (pointChar :: more).head?, digitValue c = none :=
    fun more => stops_cons (by decide) _
  have wholeDigits := wholePart_digits leading padded (stopsAtPoint (digitChar 0 :: rest))
  have fraction := @fractionPart_digits [0] (by simp) (by simp) rest follows.stops
  have first := digitValue_digitChar (small d (List.mem_cons_self _ _))
  simp only [List.map_append, List.append_assoc, ← List.cons_append, List.reverse_append,
    List.reverse_replicate, Nat.ofDigits_append, ofDigits_replicate_zero, Nat.zero_add,
    List.length_replicate, List.length_append] at wholeDigits
  simp only [List.map_cons, List.map_nil, List.cons_append, List.nil_append, List.reverse_cons,
    List.reverse_nil, Nat.ofDigits_singleton, List.length_singleton] at fraction
  unfold layoutRepr
  rw [if_neg near, if_neg positive, if_pos whole, show text ".0" = [pointChar, digitChar 0] from rfl]
  simp only [zeros_eq, List.map_cons, List.append_assoc, List.cons_append, List.nil_append,
    unsignedNumber, first, wholeDigits, fraction, exponentOf_of_follows follows, Nat.one_ne_zero,
    ↓reduceIte, Nat.add_zero]
  rw [Nat.mul_comm (10 ^ _), ofDecimal_scale, ofDecimal_scale]
  simp only [List.length_cons, List.length_append, List.length_map, List.length_replicate,
    List.length_nil, Option.some.injEq, Prod.mk.injEq, and_true]
  have counted : ds.length + 1 ≤ point.toNat := whole
  exact ⟨congrArg (fun x => PyVal.float (ofDecimal negative _ x)) (by omega), by omega⟩

/-- Positional notation with a fraction, `dd.ddd`. -/
theorem unsignedNumber_layout_fraction {point : Int} (near : ¬(point ≤ -4 ∨ 16 < point))
    (positive : ¬point ≤ 0) (inside : ¬(d :: ds).length ≤ point.toNat) :
    unsignedNumber negative (layoutRepr (d :: ds) point ++ rest) =
      some (.float (ofDecimal negative (Nat.ofDigits 10 (d :: ds).reverse) (point - (ds.length + 1))),
        (layoutRepr (d :: ds) point).length, rest) := by
  obtain ⟨q, shifted⟩ : ∃ q, point.toNat = q + 1 := ⟨point.toNat - 1, by omega⟩
  have within : q < ds.length := by simp only [List.length_cons] at inside; omega
  have front : ∀ e ∈ d :: ds.take q, e < 10 := fun e member => small e (by
    rcases List.mem_cons.mp member with first | later
    · exact first ▸ List.mem_cons_self _ _
    · exact List.mem_cons_of_mem d (List.mem_of_mem_take later))
  have back : ∀ e ∈ ds.drop q, e < 10 := fun e member =>
    small e (List.mem_cons_of_mem d (List.mem_of_mem_drop member))
  have stopsAtPoint : ∀ more : PyStr, ∀ c ∈ (pointChar :: more).head?, digitValue c = none :=
    fun more => stops_cons (by decide) _
  have wholeDigits := wholePart_digits leading front (stopsAtPoint ((ds.drop q).map digitChar ++ rest))
  have fraction := fractionPart_digits (by simp [within]) back follows.stops
  have first := digitValue_digitChar (small d (List.mem_cons_self _ _))
  have value : Nat.ofDigits 10 (d :: ds).reverse =
      Nat.ofDigits 10 (d :: ds.take q).reverse * 10 ^ (ds.length - q) +
        Nat.ofDigits 10 (ds.drop q).reverse := by
    have parts : d :: ds = (d :: ds.take q) ++ ds.drop q := by simp
    rw [parts, List.reverse_append, Nat.ofDigits_append, List.length_reverse, List.length_drop,
      Nat.add_comm, Nat.mul_comm]
  simp only [List.map_take, List.map_drop] at wholeDigits fraction
  unfold layoutRepr
  rw [if_neg near, if_neg positive, if_neg inside, shifted, show text "." = [pointChar] from rfl]
  simp only [List.map_cons, List.take_succ_cons, List.drop_succ_cons, List.append_assoc,
    List.cons_append, List.nil_append, unsignedNumber, first, wholeDigits, fraction,
    exponentOf_of_follows follows, List.length_drop, show ds.length - q ≠ 0 by omega, ↓reduceIte,
    ← value, List.length_cons, List.length_append, List.length_take, List.length_map,
    Option.some.injEq, Prod.mk.injEq, and_true]
  exact ⟨congrArg (fun x => PyVal.float (ofDecimal negative _ x)) (by omega), by omega⟩

/-- Every layout of `repr` reads back as its significant digits at their place. -/
theorem unsignedNumber_layoutRepr (point : Int) :
    unsignedNumber negative (layoutRepr (d :: ds) point ++ rest) =
      some (.float (ofDecimal negative (Nat.ofDigits 10 (d :: ds).reverse) (point - (ds.length + 1))),
        (layoutRepr (d :: ds) point).length, rest) := by
  by_cases far : point ≤ -4 ∨ 16 < point
  · exact unsignedNumber_layout_far negative leading small follows far
  by_cases nonpositive : point ≤ 0
  · exact unsignedNumber_layout_small negative small follows far nonpositive
  by_cases whole : (d :: ds).length ≤ point.toNat
  · exact unsignedNumber_layout_whole negative leading small follows far nonpositive whole
  · exact unsignedNumber_layout_fraction negative leading small follows far nonpositive whole

end Layout

/-- Zero digits read back as zero units only, whatever the exponent. -/
theorem readsBackAs_zero_digits {units : Nat} {exponent : Int} :
    readsBackAs units 0 exponent = true ↔ units = 0 := by
  have atZero : ∀ den, 0 < den → ∃ y, ofRatio false 0 den = .finite y ∧ y.units = 0 := by
    intro den positive
    have zero : roundUnits 0 den = 0 := roundUnits_exact positive (by rw [Nat.zero_mul, Nat.zero_mul]) (.inl (by decide))
    exact ⟨_, dif_pos (by rw [zero]; positivity), zero⟩
  obtain ⟨y, read, zero⟩ : ∃ y, ofDecimal false 0 exponent = .finite y ∧ y.units = 0 := by
    unfold ofDecimal
    split
    · exact atZero _ (by positivity)
    · rw [Nat.zero_mul]; exact atZero 1 Nat.one_pos
  unfold readsBackAs
  simp only [read, zero]
  exact ⟨fun same => (beq_iff_eq.mp same).symm, fun same => beq_iff_eq.mpr same.symm⟩

/-- A decimal that reads back as the units of `x` is `x`, with the sign of `x`. -/
theorem ofDecimal_eq_finite {x : Finite64} {digits : Nat} {exponent : Int}
    (reads : readsBackAs x.units digits exponent = true) :
    ofDecimal x.negative digits exponent = .finite x := by
  obtain ⟨representable, same⟩ := ofDecimal_of_readsBackAs reads x.negative
  rw [same]

/-- Dropping the trailing zeros leaves a prefix followed by zeros only. -/
theorem rdropWhile_zero_append (l : List Nat) :
    l = l.rdropWhile (· == 0) ++ List.replicate (l.length - (l.rdropWhile (· == 0)).length) 0 := by
  have parts : l.rdropWhile (· == 0) ++ l.rtakeWhile (· == 0) = l := by
    simp only [List.rdropWhile, List.rtakeWhile, ← List.reverse_append,
      List.takeWhile_append_dropWhile, List.reverse_reverse]
  have zeros : l.rtakeWhile (· == 0) =
      List.replicate (l.length - (l.rdropWhile (· == 0)).length) 0 := by
    rw [List.eq_replicate_iff]
    constructor
    · have counted := congrArg List.length parts
      simp only [List.length_append] at counted
      omega
    · intro b member
      simpa using List.mem_rtakeWhile_imp member
  conv_lhs => rw [← parts, zeros]

/-- `repr` of zero, `0.0`, reads back as zero. -/
theorem unsignedNumber_zeroRepr (negative : Bool) {rest : PyStr} (follows : Follows rest) :
    unsignedNumber negative (text "0.0" ++ rest) =
      some (.float (ofDecimal negative 0 (-1)), (text "0.0").length, rest) := by
  have fraction := @fractionPart_digits [0] (by simp) (by simp) rest follows.stops
  have zeroDigit : digitValue (digitChar 0) = some 0 := digitValue_digitChar (by decide)
  rw [show text "0.0" = [digitChar 0, pointChar, digitChar 0] from rfl]
  simp only [List.map_cons, List.map_nil, List.cons_append, List.nil_append] at fraction
  simp only [List.cons_append, List.nil_append, unsignedNumber, zeroDigit, wholePart, ↓reduceIte,
    fraction, exponentOf_of_follows follows, Nat.one_ne_zero]
  rfl

/-- `repr` of a finite float reads back as the same float. -/
theorem number_reprFinite (x : Finite64) {rest : PyStr} (follows : Follows rest) :
    number (reprFinite x ++ rest) = some (.float (.finite x), (reprFinite x).length, rest) := by
  unfold reprFinite
  by_cases zero : x.units = 0
  · rw [if_pos zero, List.append_assoc,
      number_signed x.negative _ (unsignedNumber_zeroRepr x.negative follows),
      ofDecimal_eq_finite (readsBackAs_zero_digits.mpr zero), List.length_append]
  rw [if_neg zero]
  rcases found : shortestDecimal x.units with ⟨digits, exponent⟩
  have reads : readsBackAs x.units digits exponent = true := by
    have reads := shortestDecimal_reads x.representable
    rwa [found] at reads
  have positive : digits ≠ 0 := fun none => zero (readsBackAs_zero_digits.mp (none ▸ reads))
  have parts := rdropWhile_zero_append (decimalDigits digits)
  have value := ofDigits_decimalDigits digits
  cases significant : (decimalDigits digits).rdropWhile (· == 0) with
  | nil =>
      rw [significant] at parts
      rw [parts, List.nil_append, List.reverse_replicate, ofDigits_replicate_zero] at value
      exact absurd value.symm positive
  | cons d ds =>
      rw [significant] at parts
      have leading : d ≠ 0 := decimalDigits_leading (parts.trans (List.cons_append _ _ _))
      have small : ∀ e ∈ d :: ds, e < 10 := fun e member =>
        decimalDigits_lt digits e (parts ▸ List.mem_append_left _ member)
      rw [parts, List.reverse_append, List.reverse_replicate, Nat.ofDigits_append,
        ofDigits_replicate_zero, Nat.zero_add, List.length_replicate, Nat.mul_comm] at value
      have read := ofDecimal_eq_finite reads
      rw [← value, ofDecimal_scale] at read
      simp only [found, significant]
      rw [List.append_assoc, number_signed x.negative _
        (unsignedNumber_layoutRepr x.negative leading small follows _), List.length_append]
      have longer := congrArg List.length parts
      simp only [List.length_append, List.length_replicate, List.length_cons] at longer read ⊢
      simp only [Option.some.injEq, Prod.mk.injEq, and_true, PyVal.float.injEq]
      rw [← read]
      congr 1
      omega

end Json
end Kennel
