import Kennel.Json.Encode

namespace Kennel
namespace Json

open Python

/-!
# `json.dumps` writes printable ASCII

With `ensure_ascii`, `json.dumps` writes printable ASCII only, whatever the value: every other
code point, line terminators included, is escaped.  So a frame of the harness is one line.
-/

/-- Whether a code point is printable ASCII, from the space to the tilde. -/
def printableChar (c : CodePoint) : Bool :=
  0x20 ≤ c.val && c.val ≤ 0x7E

/-- Whether text is printable ASCII: it then holds no line terminator. -/
def printableAscii (s : PyStr) : Bool :=
  s.all printableChar

@[simp] theorem printableAscii_nil : printableAscii [] = true := rfl

@[simp] theorem printableAscii_cons (c : CodePoint) (s : PyStr) :
    printableAscii (c :: s) = (printableChar c && printableAscii s) := rfl

@[simp] theorem printableAscii_append (s t : PyStr) :
    printableAscii (s ++ t) = (printableAscii s && printableAscii t) := by
  simp [printableAscii]

theorem printableAscii_of_forall {s : PyStr} (each : ∀ c ∈ s, printableChar c = true) :
    printableAscii s = true :=
  List.all_eq_true.mpr each

theorem printableAscii_flatMap {f : CodePoint → PyStr} (each : ∀ c, printableAscii (f c) = true)
    (s : PyStr) : printableAscii (s.flatMap f) = true := by
  induction s with
  | nil => rfl
  | cons c s more => simp [List.flatMap_cons, each c, more]

theorem printableAscii_map {f : Nat → CodePoint} (each : ∀ n, printableChar (f n) = true)
    (ns : List Nat) : printableAscii (ns.map f) = true :=
  printableAscii_of_forall fun _ member => by
    obtain ⟨n, -, rfl⟩ := List.mem_map.mp member
    exact each n

theorem digitChar_printable (d : Nat) : printableChar (digitChar d) = true := by
  simp only [printableChar, digitChar, Bool.and_eq_true, decide_eq_true_eq]; omega

theorem hexChar_printable (d : Nat) : printableChar (hexChar d) = true := by
  unfold hexChar printableChar
  split <;> simp only [Bool.and_eq_true, decide_eq_true_eq] <;> omega

theorem unitEscape_printable (u : Nat) : printableAscii (unitEscape u) = true := by
  simp only [unitEscape, printableAscii_append, printableAscii_cons, hexChar_printable,
    printableAscii_nil, Bool.and_true]
  rfl

theorem escapeChar_printable (c : CodePoint) : printableAscii (escapeChar c) = true := by
  unfold escapeChar
  by_cases backslash : c.val = 0x5C
  · rw [if_pos backslash]; decide
  rw [if_neg backslash]
  by_cases quote : c.val = 0x22
  · rw [if_pos quote]; decide
  rw [if_neg quote]
  by_cases plain : 0x20 ≤ c.val ∧ c.val ≤ 0x7E
  · rw [if_pos plain]; simpa [printableChar] using plain
  rw [if_neg plain]
  by_cases backspace : c.val = 0x08
  · rw [if_pos backspace]; decide
  rw [if_neg backspace]
  by_cases formFeed : c.val = 0x0C
  · rw [if_pos formFeed]; decide
  rw [if_neg formFeed]
  by_cases lineFeed : c.val = 0x0A
  · rw [if_pos lineFeed]; decide
  rw [if_neg lineFeed]
  by_cases carriageReturn : c.val = 0x0D
  · rw [if_pos carriageReturn]; decide
  rw [if_neg carriageReturn]
  by_cases tab : c.val = 0x09
  · rw [if_pos tab]; decide
  rw [if_neg tab]
  by_cases basic : c.val < 0x10000
  · rw [if_pos basic]; exact unitEscape_printable _
  · rw [if_neg basic]
    simp only [printableAscii_append, unitEscape_printable, Bool.and_self]

theorem encodeString_printable (s : PyStr) : printableAscii (encodeString s) = true := by
  simp only [encodeString, printableAscii_append, printableAscii_flatMap escapeChar_printable]
  rfl

theorem intRepr_printable (n : Int) : printableAscii (intRepr n) = true := by
  unfold intRepr natRepr
  simp only [printableAscii_append, Bool.and_eq_true]
  refine ⟨by split <;> rfl, ?_⟩
  split
  · rfl
  · exact printableAscii_map digitChar_printable _

theorem zeros_printable (n : Nat) : printableAscii (zeros n) = true :=
  printableAscii_of_forall fun c member => by
    rw [List.eq_of_mem_replicate member]
    exact digitChar_printable 0

theorem signText_printable (p : Prop) [Decidable p] :
    printableAscii (text (if p then "-" else "+")) = true := by
  split <;> rfl

theorem layoutRepr_printable (digits : List Nat) (point : Int) :
    printableAscii (layoutRepr digits point) = true := by
  have shown := printableAscii_map digitChar_printable
  unfold layoutRepr
  split_ifs
  · simp only [printableAscii_append, zeros_printable, shown, signText_printable, Bool.and_true,
      show printableAscii (text "e") = true by decide]
    split
    · next d rest _ same =>
        have whole := shown digits
        simp only [same, printableAscii_cons, printableAscii_append] at whole ⊢
        simpa only [show printableAscii (text ".") = true by decide, Bool.and_true] using whole
    · exact shown digits
  · simp only [printableAscii_append, zeros_printable, shown, Bool.and_true]; rfl
  · simp only [printableAscii_append, zeros_printable, shown, Bool.and_true]; rfl
  · have whole := List.all_eq_true.mp (shown digits)
    simp only [printableAscii_append, Bool.and_eq_true]
    exact ⟨⟨printableAscii_of_forall fun c member => whole c (List.take_subset _ _ member), rfl⟩,
      printableAscii_of_forall fun c member => whole c (List.drop_subset _ _ member)⟩

theorem floatToJson_printable (x : PyFloat) : printableAscii (floatToJson x) = true := by
  cases x with
  | finite x =>
      show printableAscii (reprFinite x) = true
      have sign : printableAscii (if x.negative then text "-" else []) = true := by split <;> decide
      unfold reprFinite
      by_cases zero : x.units = 0 <;>
        simp only [zero, ↓reduceIte, printableAscii_append, sign, layoutRepr_printable,
          show printableAscii (text "0.0") = true by decide, Bool.and_self]
  | infinity negative => cases negative <;> rfl
  | nan => rfl

mutual

theorem encode_printable : ∀ (v : PyVal) {body : PyStr}, encode v = .ok body →
    printableAscii body = true
  | .none, _, encodes | .bool true, _, encodes | .bool false, _, encodes
  | .list [], _, encodes | .tuple [], _, encodes | .dict [], _, encodes => by
      cases encodes; decide
  | .str s, _, encodes => by cases encodes; exact encodeString_printable s
  | .int n, _, encodes => by cases encodes; exact intRepr_printable n
  | .float x, _, encodes => by cases encodes; exact floatToJson_printable x
  | .list (x :: xs), _, encodes | .tuple (x :: xs), _, encodes => by
      obtain ⟨first, item, encodes⟩ := except_bind_eq_ok.mp encodes
      obtain ⟨rest, items, encodes⟩ := except_bind_eq_ok.mp encodes
      cases encodes
      simp only [printableAscii_append, encode_printable x item, encodeItems_printable xs items]
      decide
  | .dict ((k, v) :: entries), _, encodes => by
      obtain ⟨first, entry, encodes⟩ := except_bind_eq_ok.mp encodes
      obtain ⟨rest, others, encodes⟩ := except_bind_eq_ok.mp encodes
      cases encodes
      simp only [printableAscii_append, encodeEntry_printable (k, v) entry,
        encodeEntries_printable entries others]
      decide
  | .object _ _, _, encodes => by cases encodes

theorem encodeItems_printable : ∀ (xs : List PyVal) {body : PyStr}, encodeItems xs = .ok body →
    printableAscii body = true
  | [], _, encodes => by cases encodes; rfl
  | x :: xs, _, encodes => by
      obtain ⟨first, item, encodes⟩ := except_bind_eq_ok.mp encodes
      obtain ⟨rest, items, encodes⟩ := except_bind_eq_ok.mp encodes
      cases encodes
      simp only [printableAscii_append, encode_printable x item, encodeItems_printable xs items]
      decide

theorem encodeEntry_printable : ∀ (entry : PyVal × PyVal) {body : PyStr},
    encodeEntry entry = .ok body → printableAscii body = true
  | (k, v), _, encodes => by
      obtain ⟨key, -, encodes⟩ := except_bind_eq_ok.mp encodes
      obtain ⟨value, valued, encodes⟩ := except_bind_eq_ok.mp encodes
      cases encodes
      simp only [printableAscii_append, encodeString_printable, encode_printable v valued]
      decide

theorem encodeEntries_printable : ∀ (entries : List (PyVal × PyVal)) {body : PyStr},
    encodeEntries entries = .ok body → printableAscii body = true
  | [], _, encodes => by cases encodes; rfl
  | (k, v) :: entries, _, encodes => by
      obtain ⟨first, entry, encodes⟩ := except_bind_eq_ok.mp encodes
      obtain ⟨rest, others, encodes⟩ := except_bind_eq_ok.mp encodes
      cases encodes
      simp only [printableAscii_append, encodeEntry_printable (k, v) entry,
        encodeEntries_printable entries others]
      decide

end

end Json
end Kennel
