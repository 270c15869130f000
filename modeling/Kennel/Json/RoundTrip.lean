import Kennel.Json.Printable
import Kennel.Json.Scalars

namespace Kennel
namespace Json

open Python

/-!
# What `json.loads` reads back

The text `json.dumps` writes is an RFC 8259 JSON text that reads back as the value it was
written from when the value is plain.  A plain value has only finite floats and no tuples, and
its dictionaries have distinct `str` keys.  No `str` in it holds a high surrogate followed by a
low one, which `json.dumps` writes as two escapes and `json.loads` joins into one code point.

The reading follows the encoder's recursion: a scalar by the lemmas of `Scalars`, an array item
by item and an object member by member, each item read by the scanner at the index where the one
before it ends, with the fuel that `loads` gives.
-/

/-! ## Plain values -/

mutual

/-- Whether a value reads back as itself from its `json.dumps` text. -/
def plain : PyVal → Bool
  | .none | .bool _ | .int _ => true
  | .float (.finite _) => true
  | .float _ => false
  | .str s => !splitsPair s
  | .list items => plainItems items
  | .tuple _ | .object _ _ => false
  | .dict entries => plainEntries [] entries

/-- Whether every item of a list is plain. -/
def plainItems : List PyVal → Bool
  | [] => true
  | x :: xs => plain x && plainItems xs

/-- Whether the entries after `before` have plain values under `str` keys without a split
surrogate pair, each key new. -/
def plainEntries (before : Entries) : Entries → Bool
  | [] => true
  | (.str k, v) :: entries =>
      !splitsPair k && (Entries.lookup before k).isNone && plain v &&
        plainEntries (before ++ [(.str k, v)]) entries
  | _ :: _ => false

end

example : plain (.dict [(.lit "id", .lit "1"), (.lit "data", .list [.int 2, .none])]) = true := by
  decide

/-! ## The scanner at a value -/

/-- The code points that open the `json.dumps` text of a plain value. -/
def opensValue (c : CodePoint) : Bool :=
  isChar c '"' || isChar c '[' || isChar c '\x7b' || isChar c 'n' || isChar c 't' || isChar c 'f' ||
    isChar c '-' || (digitValue c).isSome

theorem opensValue_spaced {c : CodePoint} (opens : opensValue c = true) :
    isWs c = false ∧ isChar c ']' = false := by
  have digit : (digitValue c).isSome = true → 0x30 ≤ c.val ∧ c.val ≤ 0x39 := by
    unfold digitValue; split_ifs with range <;> simp [range]
  simp [opensValue, isChar] at opens
  simp only [isWs, isChar, Bool.or_eq_false_iff, beq_eq_false_iff_ne]
  rcases opens with named | numeral
  · simp; omega
  · have := digit numeral; simp; omega

theorem opensValue_ascii {c : CodePoint} (opens : opensValue c = true) : c.val < 0x80 := by
  have digit : (digitValue c).isSome = true → 0x30 ≤ c.val ∧ c.val ≤ 0x39 := by
    unfold digitValue; split_ifs with range <;> simp [range]
  simp [opensValue, isChar] at opens
  rcases opens with named | numeral
  · omega
  · have := digit numeral; omega

theorem skipWs_stop {c : CodePoint} (notWs : isWs c = false) (pos : Nat) (more : PyStr) :
    skipWs pos (c :: more) = (pos, c :: more) := by
  simp [skipWs, notWs]

/-- The scanner reads `v` back from `body`: at any index, before any text that may follow a
value, with the fuel `loads` gives a text that long; and `body` opens as a value does. -/
structure ReadsBack (constants : Bool) (v : PyVal) (body : PyStr) : Prop where
  opens : ∃ c more, body = c :: more ∧ opensValue c = true
  reads : ∀ fuel pos rest, Follows rest → 3 * body.length < fuel →
    value constants fuel pos (body ++ rest) = .ok (v, pos + body.length, rest)

theorem literal_self (word : String) (rest : PyStr) : literal word (text word ++ rest) = some rest := by
  have counted : (text word).length = word.length := by rw [text, List.length_map]; rfl
  simp only [literal, List.isPrefixOf_iff_prefix.mpr (List.prefix_append _ _), ↓reduceIte,
    ← counted, List.drop_left]

theorem literal_of_ne {word : String} {w : CodePoint} {ws : PyStr} (spelled : text word = w :: ws)
    {c : CodePoint} (differs : w.val ≠ c.val) (more : PyStr) : literal word (c :: more) = none := by
  have unequal : (w == c) = false := beq_false_of_ne fun same => differs (congrArg Fin.val same)
  simp [literal, spelled, List.isPrefixOf, unequal]

/-! ## `scan_once` by the code point it starts at

Each branch of `value` is stated once, unfolding the definition only as far as its branch. -/

section ScanOnce

variable {constants : Bool} {fuel pos : Nat}

theorem value_quote (rest : PyStr) :
    value constants (fuel + 1) pos (quote :: rest) =
      (scanString pos .plain [] (pos + 1) rest).map fun (t, p, r) => (.str t, p, r) :=
  rfl

theorem value_bracket (rest : PyStr) :
    value constants (fuel + 1) pos ((0x5B : CodePoint) :: rest) =
      arrayStart constants fuel (pos + 1) rest :=
  rfl

theorem value_brace (rest : PyStr) :
    value constants (fuel + 1) pos ((0x7B : CodePoint) :: rest) =
      objectStart constants fuel (pos + 1) rest :=
  rfl

/-- The scanner's first three tests fail at a code point that opens no string, object or array. -/
theorem unbracketed_of_val {c : CodePoint} (apart : c.val ≠ 0x22 ∧ c.val ≠ 0x7B ∧ c.val ≠ 0x5B) :
    isChar c '"' = false ∧ isChar c '\x7b' = false ∧ isChar c '[' = false := by
  simp only [isChar, beq_eq_false_iff_ne]
  exact apart

variable {c : CodePoint} {more : PyStr}
  (apart : isChar c '"' = false ∧ isChar c '\x7b' = false ∧ isChar c '[' = false)
include apart

theorem value_null {r : PyStr} (word : literal "null" (c :: more) = some r) :
    value constants (fuel + 1) pos (c :: more) = .ok (.none, pos + 4, r) := by
  show (if isChar c '"' = true then _ else if isChar c '\x7b' = true then _
    else if isChar c '[' = true then _ else _) = _
  simp only [apart, Bool.false_eq_true, ↓reduceIte, word]

theorem value_true {r : PyStr} (notNull : literal "null" (c :: more) = none)
    (word : literal "true" (c :: more) = some r) :
    value constants (fuel + 1) pos (c :: more) = .ok (.bool true, pos + 4, r) := by
  show (if isChar c '"' = true then _ else if isChar c '\x7b' = true then _
    else if isChar c '[' = true then _ else _) = _
  simp only [apart, Bool.false_eq_true, ↓reduceIte, notNull, word]

theorem value_false {r : PyStr} (notNull : literal "null" (c :: more) = none)
    (notTrue : literal "true" (c :: more) = none) (word : literal "false" (c :: more) = some r) :
    value constants (fuel + 1) pos (c :: more) = .ok (.bool false, pos + 5, r) := by
  show (if isChar c '"' = true then _ else if isChar c '\x7b' = true then _
    else if isChar c '[' = true then _ else _) = _
  simp only [apart, Bool.false_eq_true, ↓reduceIte, notNull, notTrue, word]

theorem value_of_number {v : PyVal} {n : Nat} {rest : PyStr}
    (notNull : literal "null" (c :: more) = none) (notTrue : literal "true" (c :: more) = none)
    (notFalse : literal "false" (c :: more) = none) (reads : number (c :: more) = some (v, n, rest)) :
    value constants (fuel + 1) pos (c :: more) = .ok (v, pos + n, rest) := by
  show (if isChar c '"' = true then _ else if isChar c '\x7b' = true then _
    else if isChar c '[' = true then _ else _) = _
  simp only [apart, Bool.false_eq_true, ↓reduceIte, notNull, notTrue, notFalse, reads]

end ScanOnce

theorem readsBack_null (constants : Bool) : ReadsBack constants .none (text "null") where
  opens := ⟨_, _, rfl, by decide⟩
  reads fuel pos rest _ long := by
    obtain ⟨fuel, rfl⟩ : ∃ f, fuel = f + 1 := ⟨fuel - 1, by omega⟩
    have word := literal_self "null" rest
    rw [show text "null" ++ rest = (0x6E : CodePoint) :: (text "ull" ++ rest) from rfl] at word ⊢
    exact value_null (unbracketed_of_val (by decide)) word

theorem readsBack_true (constants : Bool) : ReadsBack constants (.bool true) (text "true") where
  opens := ⟨_, _, rfl, by decide⟩
  reads fuel pos rest _ long := by
    obtain ⟨fuel, rfl⟩ : ∃ f, fuel = f + 1 := ⟨fuel - 1, by omega⟩
    have word := literal_self "true" rest
    rw [show text "true" ++ rest = (0x74 : CodePoint) :: (text "rue" ++ rest) from rfl] at word ⊢
    exact value_true (unbracketed_of_val (by decide)) (@literal_of_ne "null" _ _ rfl _ (by decide) _) word

theorem readsBack_false (constants : Bool) : ReadsBack constants (.bool false) (text "false") where
  opens := ⟨_, _, rfl, by decide⟩
  reads fuel pos rest _ long := by
    obtain ⟨fuel, rfl⟩ : ∃ f, fuel = f + 1 := ⟨fuel - 1, by omega⟩
    have word := literal_self "false" rest
    rw [show text "false" ++ rest = (0x66 : CodePoint) :: (text "alse" ++ rest) from rfl] at word ⊢
    exact value_false (unbracketed_of_val (by decide)) (@literal_of_ne "null" _ _ rfl _ (by decide) _)
      (@literal_of_ne "true" _ _ rfl _ (by decide) _) word

/-- A number starts with a minus sign or a digit. -/
theorem number_head {s : PyStr} {read : PyVal × Nat × PyStr} (reads : number s = some read) :
    ∃ c more, s = c :: more ∧ (isChar c '-' || (digitValue c).isSome) = true := by
  cases s with
  | nil => simp [number] at reads
  | cons c more =>
      refine ⟨c, more, rfl, ?_⟩
      cases minus : isChar c '-'
      · cases digit : digitValue c
        · simp [number, minus, unsignedNumber, digit] at reads
        · rfl
      · rfl

/-- The scanner reads a number as `number` does. -/
theorem value_number (constants : Bool) {s : PyStr} {v : PyVal} {n : Nat} {rest : PyStr}
    (reads : number s = some (v, n, rest)) (fuel pos : Nat) :
    value constants (fuel + 1) pos s = .ok (v, pos + n, rest) := by
  obtain ⟨c, more, rfl, head⟩ := number_head reads
  have range : c.val = 0x2D ∨ 0x30 ≤ c.val ∧ c.val ≤ 0x39 := by
    cases minus : isChar c '-'
    · simp only [minus, Bool.false_or, digitValue] at head
      split_ifs at head with within
      · exact .inr within
      · cases head
    · exact .inl (by simpa [isChar] using minus)
  exact value_of_number (unbracketed_of_val (by omega))
    (@literal_of_ne "null" _ _ rfl _ (by simp; omega) more) (@literal_of_ne "true" _ _ rfl _ (by simp; omega) more)
    (@literal_of_ne "false" _ _ rfl _ (by simp; omega) more) reads

/-- A text that `number` reads back, before any text that may follow a value, is read back by the
scanner. -/
theorem readsBack_number (constants : Bool) {v : PyVal} {body : PyStr}
    (reads : ∀ rest, Follows rest → number (body ++ rest) = some (v, body.length, rest)) :
    ReadsBack constants v body where
  opens := by
    obtain ⟨c, more, same, head⟩ := number_head (reads [] nofun)
    rw [List.append_nil] at same
    refine ⟨c, more, same, ?_⟩
    cases minus : isChar c '-' <;> simp_all [opensValue]
  reads fuel pos rest follows long := by
    obtain ⟨fuel, rfl⟩ : ∃ f, fuel = f + 1 := ⟨fuel - 1, by omega⟩
    exact value_number constants (reads rest follows) fuel pos

theorem readsBack_string (constants : Bool) {s : PyStr} (noPair : splitsPair s = false) :
    ReadsBack constants (.str s) (encodeString s) where
  opens := ⟨quote, _, rfl, by decide⟩
  reads fuel pos rest _ long := by
    obtain ⟨fuel, rfl⟩ : ∃ f, fuel = f + 1 := ⟨fuel - 1, by omega⟩
    have scanned := scanString_encode pos s none [] (pos + 1) rest noPair (by simp)
    simp only [between, flush, List.reverse_nil, List.nil_append] at scanned
    rw [encodeString, show text "\"" = [quote] from rfl]
    simp only [List.singleton_append, List.cons_append, List.append_assoc, value_quote, scanned,
      Except.map, List.length_cons,
      List.length_append, List.length_singleton, List.nil_append, List.length_nil, Except.ok.injEq, Prod.mk.injEq,
      true_and, and_true]
    omega

theorem readsBack_emptyList (constants : Bool) : ReadsBack constants (.list []) (text "[]") where
  opens := ⟨_, _, rfl, by decide⟩
  reads fuel pos rest _ long := by
    obtain ⟨fuel, rfl⟩ : ∃ f, fuel = f + 2 := ⟨fuel - 2, by simp [show (text "[]").length = 2 from rfl] at long; omega⟩
    rw [show text "[]" ++ rest = (0x5B : CodePoint) :: (0x5D : CodePoint) :: rest from rfl]
    simp +decide only [value_bracket, arrayStart, skipWs, ↓reduceIte,
      show (text "[]").length = 2 from rfl, Nat.add_assoc]

theorem readsBack_emptyDict (constants : Bool) : ReadsBack constants (.dict []) (text "\x7b\x7d") where
  opens := ⟨_, _, rfl, by decide⟩
  reads fuel pos rest _ long := by
    obtain ⟨fuel, rfl⟩ : ∃ f, fuel = f + 2 := ⟨fuel - 2, by simp [show (text "\x7b\x7d").length = 2 from rfl] at long; omega⟩
    rw [show text "\x7b\x7d" ++ rest = (0x7B : CodePoint) :: (0x7D : CodePoint) :: rest from rfl]
    simp +decide only [value_brace, objectStart, skipWs, ↓reduceIte,
      show (text "\x7b\x7d").length = 2 from rfl, Nat.add_assoc]

/-! ## Arrays and objects, item by item -/

/-- Two readings that differ only in how their end index is written. -/
theorem ok_at {v : PyVal} {n n' : Nat} {rest : PyStr} (same : n = n') :
    (Except.ok (v, n, rest) : Scan PyVal) = .ok (v, n', rest) :=
  same ▸ rfl

theorem follows_cons {c : CodePoint} (separates : c.val = 0x2C ∨ c.val = 0x5D ∨ c.val = 0x7D)
    (rest : PyStr) : Follows (c :: rest) :=
  fun _ member => by cases member; exact separates

section Items

variable {constants : Bool} {fuel : Nat}

/-- The last item of an array, and its closing bracket. -/
theorem arrayItems_last {x : PyVal} {body : PyStr} (reads : ReadsBack constants x body)
    (long : 3 * body.length < fuel) (acc : List PyVal) (pos : Nat) (rest : PyStr) :
    arrayItems constants (fuel + 1) acc pos (body ++ (0x5D : CodePoint) :: rest) =
      .ok (.list (x :: acc).reverse, pos + body.length + 1, rest) := by
  have read := reads.reads fuel pos _ (@follows_cons (0x5D : CodePoint) (by decide) rest) long
  simp +decide [arrayItems, read, skipWs]

/-- An item followed by another. -/
theorem arrayItems_next {x : PyVal} {body : PyStr} (reads : ReadsBack constants x body)
    (long : 3 * body.length < fuel) {c : CodePoint} (opens : opensValue c = true)
    (acc : List PyVal) (pos : Nat) (more : PyStr) :
    arrayItems constants (fuel + 1) acc pos (body ++ text ", " ++ c :: more) =
      arrayItems constants fuel (x :: acc) (pos + body.length + 2) (c :: more) := by
  have read := reads.reads fuel pos (text ", " ++ c :: more) (@follows_cons (0x2C : CodePoint) (by decide) _) long
  rw [List.append_assoc]
  rw [show text ", " ++ c :: more = (0x2C : CodePoint) :: (0x20 : CodePoint) :: c :: more from rfl]
    at read ⊢
  simp +decide [arrayItems, read, skipWs, (opensValue_spaced opens).1, Nat.add_assoc]

theorem encodeString_cons (k : PyStr) : encodeString k = quote :: (k.flatMap escapeChar ++ [quote]) :=
  rfl

/-- The last member of an object, and its closing brace. -/
theorem objectMembers_last {k : PyStr} (noPair : splitsPair k = false) {v : PyVal} {body : PyStr}
    (reads : ReadsBack constants v body) (long : 3 * body.length < fuel) (acc : Entries) (pos : Nat)
    (rest : PyStr) :
    objectMembers constants (fuel + 1) acc pos (encodeString k ++ text ": " ++ body ++ (0x7D : CodePoint) :: rest) =
      .ok (.dict (Entries.insert acc k v), pos + (encodeString k ++ text ": " ++ body).length + 1, rest) := by
  obtain ⟨c, more, rfl, opens⟩ := reads.opens
  have read := reads.reads fuel (pos + 1 + (k.flatMap escapeChar).length + 1 + 1 + 1) _
    (@follows_cons (0x7D : CodePoint) (by decide) rest) long
  have scanned := scanString_encode pos k none [] (pos + 1)
    (text ": " ++ (c :: more ++ (0x7D : CodePoint) :: rest)) noPair (by simp)
  simp only [between, flush, List.reverse_nil, List.nil_append, show text ": " = [(0x3A : CodePoint), 0x20] from rfl,
    List.cons_append, List.append_assoc] at scanned read
  simp only [encodeString_cons, show text ": " = [(0x3A : CodePoint), 0x20] from rfl, List.cons_append,
    List.append_assoc, List.nil_append]
  simp +decide only [objectMembers, ↓reduceIte, scanned, read, skipWs, (opensValue_spaced opens).1,
    List.length_cons, List.length_append, Except.ok.injEq, Prod.mk.injEq, true_and, and_true]
  omega

/-- A member followed by another. -/
theorem objectMembers_next {k : PyStr} (noPair : splitsPair k = false) {v : PyVal} {body : PyStr}
    (reads : ReadsBack constants v body) (long : 3 * body.length < fuel) (acc : Entries) (pos : Nat)
    (k' more : PyStr) :
    objectMembers constants (fuel + 1) acc pos
        (encodeString k ++ text ": " ++ body ++ text ", " ++ (encodeString k' ++ more)) =
      objectMembers constants fuel (Entries.insert acc k v)
        (pos + (encodeString k ++ text ": " ++ body).length + 2) (encodeString k' ++ more) := by
  obtain ⟨c, rest, rfl, opens⟩ := reads.opens
  have read := reads.reads fuel (pos + 1 + (k.flatMap escapeChar).length + 1 + 1 + 1) _
    (@follows_cons (0x2C : CodePoint) (by decide) (text " " ++ (encodeString k' ++ more))) long
  have scanned := scanString_encode pos k none [] (pos + 1)
    (text ": " ++ (c :: rest ++ text ", " ++ (encodeString k' ++ more))) noPair (by simp)
  simp only [between, flush, List.reverse_nil, List.nil_append, show text ": " = [(0x3A : CodePoint), 0x20] from rfl,
    show text ", " = [(0x2C : CodePoint), 0x20] from rfl, show text " " = [(0x20 : CodePoint)] from rfl,
    encodeString_cons, List.cons_append, List.append_assoc] at scanned read
  simp only [encodeString_cons, show text ": " = [(0x3A : CodePoint), 0x20] from rfl,
    show text ", " = [(0x2C : CodePoint), 0x20] from rfl, List.cons_append, List.append_assoc, List.nil_append]
  simp +decide only [objectMembers, ↓reduceIte, scanned, read, skipWs, (opensValue_spaced opens).1,
    show isWs quote = false by decide, List.length_cons, List.length_append]
  congr 1
  omega

/-- `scan_once` at an array that does not close at once: its items from the first. -/
theorem value_array {c : CodePoint} (opens : opensValue c = true) (pos : Nat) (more : PyStr) :
    value constants (fuel + 2) pos ((0x5B : CodePoint) :: c :: more) =
      arrayItems constants fuel [] (pos + 1) (c :: more) := by
  simp only [value_bracket, arrayStart, skipWs_stop (opensValue_spaced opens).1,
    (opensValue_spaced opens).2, Bool.false_eq_true, ↓reduceIte]

/-- `scan_once` at an object that does not close at once: its members from the first key. -/
theorem value_object (k : PyStr) (pos : Nat) (more : PyStr) :
    value constants (fuel + 2) pos ((0x7B : CodePoint) :: (encodeString k ++ more)) =
      objectMembers constants fuel [] (pos + 1) (encodeString k ++ more) := by
  rw [encodeString_cons, List.cons_append, value_brace]
  simp only [objectStart, skipWs_stop (show isWs quote = false by decide),
    show isChar quote '\x7d' = false by decide, Bool.false_eq_true, ↓reduceIte]

theorem readsBack_list {x : PyVal} {xs : List PyVal} {first others : PyStr}
    (reads : ReadsBack constants x first)
    (items : ∀ fuel pos rest, 3 * (first ++ others).length + 2 ≤ fuel →
      arrayItems constants fuel [] pos (first ++ others ++ (0x5D : CodePoint) :: rest) =
        .ok (.list (x :: xs), pos + (first ++ others).length + 1, rest)) :
    ReadsBack constants (.list (x :: xs)) (text "[" ++ first ++ others ++ text "]") where
  opens := ⟨_, _, rfl, by decide⟩
  reads fuel pos rest _ long := by
    obtain ⟨c, more, rfl, opens⟩ := reads.opens
    simp only [List.length_append, List.length_cons, show (text "[").length = 1 from rfl,
      show (text "]").length = 1 from rfl] at long items ⊢
    obtain ⟨fuel, rfl⟩ : ∃ f, fuel = f + 2 := ⟨fuel - 2, by omega⟩
    rw [show text "[" ++ (c :: more) ++ others ++ text "]" ++ rest =
      (0x5B : CodePoint) :: c :: (more ++ others ++ (0x5D : CodePoint) :: rest) by simp; rfl,
      value_array opens]
    have read := items fuel (pos + 1) rest (by omega)
    simp only [List.cons_append, List.append_assoc] at read ⊢
    rw [read]
    exact ok_at (by omega)

theorem readsBack_dict {k : PyStr} {v : PyVal} {entries : Entries} {body others : PyStr}
    (members : ∀ fuel pos rest, 3 * (encodeString k ++ text ": " ++ body ++ others).length + 2 ≤ fuel →
      objectMembers constants fuel [] pos (encodeString k ++ text ": " ++ body ++ others ++ (0x7D : CodePoint) :: rest) =
        .ok (.dict ((.str k, v) :: entries), pos + (encodeString k ++ text ": " ++ body ++ others).length + 1, rest)) :
    ReadsBack constants (.dict ((.str k, v) :: entries))
      (text "\x7b" ++ (encodeString k ++ text ": " ++ body) ++ others ++ text "\x7d") where
  opens := ⟨_, _, rfl, by decide⟩
  reads fuel pos rest _ long := by
    simp only [List.length_append, show (text "\x7b").length = 1 from rfl,
      show (text "\x7d").length = 1 from rfl] at long members ⊢
    obtain ⟨fuel, rfl⟩ : ∃ f, fuel = f + 2 := ⟨fuel - 2, by omega⟩
    rw [show text "\x7b" ++ (encodeString k ++ text ": " ++ body) ++ others ++ text "\x7d" ++ rest =
      (0x7B : CodePoint) :: (encodeString k ++ (text ": " ++ body ++ others ++ (0x7D : CodePoint) :: rest))
        by simp; rfl,
      value_object]
    have read := members fuel (pos + 1) rest (by omega)
    simp only [List.append_assoc] at read ⊢
    rw [read]
    exact ok_at (by omega)

end Items

theorem insert_fresh {d : Entries} {key : PyStr} (fresh : Entries.lookup d key = none) (value : PyVal) :
    Entries.insert d key value = d ++ [(.str key, value)] := by
  simp [Entries.insert, fresh]

/-! ## The round trip -/

mutual

/-- The `json.dumps` text of a plain value reads back as the value. -/
theorem encode_readsBack (constants : Bool) : ∀ (v : PyVal) {body : PyStr},
    plain v = true → encode v = .ok body → ReadsBack constants v body
  | .none, _, _, encodes => by cases encodes; exact readsBack_null constants
  | .bool true, _, _, encodes => by cases encodes; exact readsBack_true constants
  | .bool false, _, _, encodes => by cases encodes; exact readsBack_false constants
  | .int n, _, _, encodes => by
      cases encodes; exact readsBack_number constants fun _ follows => number_intRepr n follows
  | .float (.finite x), _, _, encodes => by
      cases encodes; exact readsBack_number constants fun _ follows => number_reprFinite x follows
  | .str s, _, isPlain, encodes => by
      cases encodes; exact readsBack_string constants (by simpa [plain] using isPlain)
  | .list [], _, _, encodes => by cases encodes; exact readsBack_emptyList constants
  | .list (x :: xs), _, isPlain, encodes => by
      obtain ⟨first, item, encodes⟩ := except_bind_eq_ok.mp encodes
      obtain ⟨others, items, encodes⟩ := except_bind_eq_ok.mp encodes
      cases encodes
      simp only [plain, plainItems, Bool.and_eq_true] at isPlain
      have reads := encode_readsBack constants x isPlain.1 item
      exact readsBack_list reads fun fuel pos rest long => by
        simpa using arrayItems_encode constants xs reads isPlain.2 items fuel [] pos rest long
  | .dict [], _, _, encodes => by cases encodes; exact readsBack_emptyDict constants
  | .dict ((.str k, v) :: entries), _, isPlain, encodes => by
      obtain ⟨first, entry, encodes⟩ := except_bind_eq_ok.mp encodes
      obtain ⟨others, members, encodes⟩ := except_bind_eq_ok.mp encodes
      cases encodes
      obtain ⟨key, keyed, entry⟩ := except_bind_eq_ok.mp entry
      obtain ⟨body, valued, entry⟩ := except_bind_eq_ok.mp entry
      cases keyed; cases entry
      simp only [plain, plainEntries, Bool.and_eq_true, Bool.not_eq_true', Option.isNone_iff_eq_none,
        List.nil_append] at isPlain
      obtain ⟨⟨⟨noPair, fresh⟩, valuePlain⟩, entriesPlain⟩ := isPlain
      exact readsBack_dict fun fuel pos rest long => by
        simpa using objectMembers_encode constants entries noPair
          (encode_readsBack constants v valuePlain valued) fresh entriesPlain members fuel pos _ long
  | .float (.infinity _), _, isPlain, _ | .float .nan, _, isPlain, _ | .tuple _, _, isPlain, _
  | .object _ _, _, isPlain, _ | .dict ((.none, _) :: _), _, isPlain, _
  | .dict ((.bool _, _) :: _), _, isPlain, _ | .dict ((.int _, _) :: _), _, isPlain, _
  | .dict ((.float _, _) :: _), _, isPlain, _ | .dict ((.list _, _) :: _), _, isPlain, _
  | .dict ((.tuple _, _) :: _), _, isPlain, _ | .dict ((.dict _, _) :: _), _, isPlain, _
  | .dict ((.object _ _, _) :: _), _, isPlain, _ => by simp [plain, plainEntries] at isPlain

/-- The items of an array after the first, as `json.dumps` writes them, read back one by one. -/
theorem arrayItems_encode (constants : Bool) : ∀ (xs : List PyVal) {x : PyVal} {first others : PyStr},
    ReadsBack constants x first → plainItems xs = true → encodeItems xs = .ok others →
    ∀ fuel acc pos rest, 3 * (first ++ others).length + 2 ≤ fuel →
      arrayItems constants fuel acc pos (first ++ others ++ (0x5D : CodePoint) :: rest) =
        .ok (.list (acc.reverse ++ x :: xs), pos + (first ++ others).length + 1, rest)
  | [], _, first, _, reads, _, encodes, fuel, acc, pos, rest, long => by
      cases encodes
      obtain ⟨fuel, rfl⟩ : ∃ f, fuel = f + 1 := ⟨fuel - 1, by omega⟩
      simp only [List.append_nil] at long ⊢
      rw [arrayItems_last reads (by omega)]
      simp
  | y :: ys, x, first, _, reads, isPlain, encodes, fuel, acc, pos, rest, long => by
      obtain ⟨second, item, encodes⟩ := except_bind_eq_ok.mp encodes
      obtain ⟨others, items, encodes⟩ := except_bind_eq_ok.mp encodes
      cases encodes
      simp only [plainItems, Bool.and_eq_true] at isPlain
      have next := encode_readsBack constants y isPlain.1 item
      obtain ⟨c, more, rfl, opens⟩ := next.opens
      obtain ⟨fuel, rfl⟩ : ∃ f, fuel = f + 1 := ⟨fuel - 1, by omega⟩
      simp only [List.length_append, List.length_cons, show (text ", ").length = 2 from rfl] at long
      have later := arrayItems_encode constants ys next isPlain.2 items fuel (x :: acc)
        (pos + first.length + 2) rest (by simp only [List.length_append, List.length_cons]; omega)
      simp only [List.cons_append, List.append_assoc] at later ⊢
      rw [← List.append_assoc first, arrayItems_next reads (by omega) opens, later]
      simp only [List.reverse_cons, List.append_assoc, List.singleton_append, List.length_append,
        List.length_cons, show (text ", ").length = 2 from rfl]
      exact ok_at (by omega)

/-- The members of an object after the first, as `json.dumps` writes them, read back one by
one, each new key appended. -/
theorem objectMembers_encode (constants : Bool) : ∀ (entries : Entries) {before : Entries} {k : PyStr}
    {v : PyVal} {body others : PyStr},
    splitsPair k = false → ReadsBack constants v body → Entries.lookup before k = none →
    plainEntries (before ++ [(.str k, v)]) entries = true → encodeEntries entries = .ok others →
    ∀ fuel pos rest, 3 * (encodeString k ++ text ": " ++ body ++ others).length + 2 ≤ fuel →
      objectMembers constants fuel before pos
          (encodeString k ++ text ": " ++ body ++ others ++ (0x7D : CodePoint) :: rest) =
        .ok (.dict (before ++ (.str k, v) :: entries),
          pos + (encodeString k ++ text ": " ++ body ++ others).length + 1, rest)
  | [], _, _, _, _, _, noPair, reads, fresh, _, encodes, fuel, pos, rest, long => by
      cases encodes
      obtain ⟨fuel, rfl⟩ : ∃ f, fuel = f + 1 := ⟨fuel - 1, by omega⟩
      simp only [List.append_nil, List.length_append] at long ⊢
      rw [objectMembers_last noPair reads (by omega), insert_fresh fresh]
      simp [Nat.add_assoc]
  | (.str k', v') :: entries, before, k, v, body, _, noPair, reads, fresh, isPlain, encodes, fuel, pos,
      rest, long => by
      obtain ⟨first, entry, encodes⟩ := except_bind_eq_ok.mp encodes
      obtain ⟨others, members, encodes⟩ := except_bind_eq_ok.mp encodes
      cases encodes
      obtain ⟨key, keyed, entry⟩ := except_bind_eq_ok.mp entry
      obtain ⟨body', valued, entry⟩ := except_bind_eq_ok.mp entry
      cases keyed; cases entry
      simp only [plainEntries, Bool.and_eq_true, Bool.not_eq_true', Option.isNone_iff_eq_none] at isPlain
      obtain ⟨⟨⟨noPair', fresh'⟩, valuePlain⟩, entriesPlain⟩ := isPlain
      obtain ⟨fuel, rfl⟩ : ∃ f, fuel = f + 1 := ⟨fuel - 1, by omega⟩
      simp only [List.length_append, show (text ", ").length = 2 from rfl] at long
      have step := objectMembers_next noPair reads (show 3 * body.length < fuel by omega) before pos k'
        (text ": " ++ body' ++ others ++ (0x7D : CodePoint) :: rest)
      have later := objectMembers_encode constants entries noPair'
        (encode_readsBack constants v' valuePlain valued) fresh' entriesPlain members fuel
        (pos + (encodeString k ++ text ": " ++ body).length + 2) rest
        (by simp only [List.length_append] at long ⊢; omega)
      simp only [List.append_assoc] at step later ⊢
      rw [step, insert_fresh fresh, later]
      simp only [List.append_assoc, List.singleton_append, List.length_append,
        show (text ", ").length = 2 from rfl]
      exact ok_at (by omega)
  | (.none, _) :: _, _, _, _, _, _, _, _, _, isPlain, _, _, _, _, _
  | (.bool _, _) :: _, _, _, _, _, _, _, _, _, isPlain, _, _, _, _, _
  | (.int _, _) :: _, _, _, _, _, _, _, _, _, isPlain, _, _, _, _, _
  | (.float _, _) :: _, _, _, _, _, _, _, _, _, isPlain, _, _, _, _, _
  | (.list _, _) :: _, _, _, _, _, _, _, _, _, isPlain, _, _, _, _, _
  | (.tuple _, _) :: _, _, _, _, _, _, _, _, _, isPlain, _, _, _, _, _
  | (.dict _, _) :: _, _, _, _, _, _, _, _, _, isPlain, _, _, _, _, _
  | (.object _ _, _) :: _, _, _, _, _, _, _, _, _, isPlain, _, _, _, _, _ => by
      simp [plainEntries] at isPlain

end

/-- `json.loads`, and RFC 8259 decoding, read a plain value back from the text `json.dumps`
writes for it. -/
theorem decode_encode (constants : Bool) {v : PyVal} {body : PyStr} (isPlain : plain v = true)
    (encodes : encode v = .ok body) : decode constants body = .ok v := by
  have reads := encode_readsBack constants v isPlain encodes
  have read := reads.reads (3 * body.length + 1) 0 [] nofun (by omega)
  obtain ⟨c, more, rfl, opens⟩ := reads.opens
  have notBom : c.val ≠ 0xFEFF := by have := opensValue_ascii opens; omega
  rw [List.append_nil, Nat.zero_add] at read
  simp only [decode, decode.decodeBody, notBom, ↓reduceIte, skipWs_stop (opensValue_spaced opens).1,
    read, show ∀ p, skipWs p [] = (p, []) from fun _ => rfl]

end Json
end Kennel
