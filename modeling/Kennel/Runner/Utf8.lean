import Kennel.Runner.Stdin

namespace Kennel
namespace Runner

open Python

/-!
# Runs of the strict UTF-8 decoder

`utf8Run` reads bytes one at a time and carries a state between them: between characters, or
inside a sequence whose lead byte it has read.  The state remembers where that sequence began,
and `utf8Decode` keeps the bytes from there for the next call when the input ends inside it.
The position is only ever used to name bytes: in an error, and in what is kept.

This module proves what a run that succeeds is made of.  It splits at any byte into a run of the
bytes before and a run of the bytes after, from the state in between (`utf8Run_split`,
`utf8Run_append`); it gives the same text and a state of the same kind from any other position
(`utf8Run_shift`); and a run that ends inside a sequence ends in the state that the bytes of that
sequence alone reach from the start (`utf8Run_replay`).  From these, one call of the decoder on
the first part of an input that decodes whole gives the text of that part and keeps exactly the
bytes the next call needs (`utf8Decode_split`).

The specification of the decoder is the encoder `str.encode("utf-8")`, which writes each code
point in the shortest of four forms and refuses surrogates (`utf8Encode`).  Each form is read
back digit by digit (`utf8Run_two`, `utf8Run_three`, `utf8Run_four`), and a run that succeeds
has read one of them (`utf8Run_start_cons_ok`).  So a call with no more input to follow accepts
exactly the UTF-8 of text without surrogates and gives that text back (`utf8Decode_final_iff`).
-/

/-- A run that emits `c` and then runs on: its text starts with `c`. -/
theorem map_emit_eq_ok {ε : Type} {x : Except ε (PyStr × Utf8State)} {c : CodePoint} {t : PyStr}
    {last : Utf8State} :
    x.map (fun r => (c :: r.1, r.2)) = .ok (t, last) ↔ ∃ t', x = .ok (t', last) ∧ t = c :: t' := by
  cases x with
  | error => simp [Except.map]
  | ok r =>
    obtain ⟨t', l'⟩ := r
    simp only [Except.map, Except.ok.injEq, Prod.mk.injEq]
    constructor
    · rintro ⟨rfl, rfl⟩
      exact ⟨t', ⟨rfl, rfl⟩, rfl⟩
    · rintro ⟨_, ⟨rfl, rfl⟩, rfl⟩
      exact ⟨rfl, rfl⟩

/-! ## One step -/

/-- A decoder state without the position of its sequence. -/
def Utf8State.core : Utf8State → Option (Nat × Nat × Nat × Nat)
  | .start => none
  | .inside _ owed bits lo hi => some (owed, bits, lo, hi)

@[simp] theorem Utf8State.core_eq_none {state : Utf8State} : state.core = none ↔ state = .start := by
  cases state <;> simp [core]

/-- What a step does, without positions: the character it emits, or the state it moves to. -/
def Utf8Step.core : Utf8Step → Option (Option CodePoint × Option (Nat × Nat × Nat × Nat))
  | .emit c => some (some c, none)
  | .next state => some (none, state.core)
  | .invalid .. => none

/-- A step depends on the position only through the positions it records. -/
theorem utf8Step_core {state state' : Utf8State} (same : state'.core = state.core) (pos pos' : Nat)
    (b : UInt8) : (utf8Step pos' b state').core = (utf8Step pos b state).core := by
  cases state with
  | start =>
    obtain rfl := Utf8State.core_eq_none.mp same
    by_cases ascii : b.toNat < 0x80
    · simp [utf8Step, ascii]
    · cases lead : leadByte b.toNat <;> simp [utf8Step, ascii, lead, Utf8Step.core, Utf8State.core]
  | inside begun owed bits lo hi =>
    cases state' with
    | start => cases same
    | inside begun' owed' bits' lo' hi' =>
      simp only [Utf8State.core, Option.some.injEq, Prod.mk.injEq] at same
      obtain ⟨rfl, rfl, rfl, rfl⟩ := same
      simp only [utf8Step]
      split_ifs <;> rfl

/-! ## Runs that succeed -/

section Runs

variable {xs ys : List UInt8} {pos : Nat} {state mid last : Utf8State} {d e t : PyStr}

/-- A run without `more` succeeds only where no byte is invalid, so it succeeds alike when more
input may follow. -/
theorem utf8Run_more (runs : utf8Run false pos state xs = .ok (t, last)) (more : Bool) :
    utf8Run more pos state xs = .ok (t, last) := by
  induction xs generalizing pos state t with
  | nil => exact runs
  | cons b xs ih =>
    simp only [utf8Run] at runs ⊢
    cases step : utf8Step pos b state with
    | emit c =>
      rw [step] at runs
      obtain ⟨t', rest, rfl⟩ := map_emit_eq_ok.mp runs
      simp [ih rest, Except.map]
    | next s => rw [step] at runs; exact ih runs
    | invalid => simp [step] at runs

/-- A run splits at any byte: the bytes before run to a state, and the bytes after run on from
it. -/
theorem utf8Run_split (runs : utf8Run false pos state (xs ++ ys) = .ok (t, last)) :
    ∃ d mid e, utf8Run false pos state xs = .ok (d, mid) ∧
      utf8Run false (pos + xs.length) mid ys = .ok (e, last) ∧ t = d ++ e := by
  induction xs generalizing pos state t with
  | nil => exact ⟨[], state, t, rfl, by simpa using runs, rfl⟩
  | cons b xs ih =>
    rw [List.cons_append] at runs
    simp only [utf8Run] at runs ⊢
    have shifted : pos + 1 + xs.length = pos + (xs.length + 1) := by omega
    cases step : utf8Step pos b state with
    | emit c =>
      rw [step] at runs
      obtain ⟨t', rest, rfl⟩ := map_emit_eq_ok.mp runs
      obtain ⟨d, mid, e, first, second, rfl⟩ := ih rest
      exact ⟨c :: d, mid, e, by simp [first, Except.map], by simpa [shifted] using second, rfl⟩
    | next s =>
      rw [step] at runs
      obtain ⟨d, mid, e, first, second, rfl⟩ := ih runs
      exact ⟨d, mid, e, first, by simpa [shifted] using second, rfl⟩
    | invalid => simp [step] at runs

/-- Two runs, the second from where the first ends, make one run. -/
theorem utf8Run_append (first : utf8Run false pos state xs = .ok (d, mid))
    (second : utf8Run false (pos + xs.length) mid ys = .ok (e, last)) :
    utf8Run false pos state (xs ++ ys) = .ok (d ++ e, last) := by
  induction xs generalizing pos state d with
  | nil => cases first; simpa using second
  | cons b xs ih =>
    rw [List.cons_append]
    simp only [utf8Run] at first ⊢
    have shifted : pos + 1 + xs.length = pos + (xs.length + 1) := by omega
    cases step : utf8Step pos b state with
    | emit c =>
      rw [step] at first
      obtain ⟨d', rest, rfl⟩ := map_emit_eq_ok.mp first
      simp [ih rest (by simpa [shifted] using second), Except.map]
    | next s =>
      rw [step] at first
      exact ih first (by simpa [shifted] using second)
    | invalid => simp [step] at first

/-- The same bytes from another position and a state of the same kind give the same text and end
in a state of the same kind. -/
theorem utf8Run_shift (runs : utf8Run false pos state xs = .ok (t, last)) {state' : Utf8State}
    (same : state'.core = state.core) (pos' : Nat) :
    ∃ last', utf8Run false pos' state' xs = .ok (t, last') ∧ last'.core = last.core := by
  induction xs generalizing pos pos' state state' t with
  | nil => cases runs; exact ⟨state', rfl, same⟩
  | cons b xs ih =>
    simp only [utf8Run] at runs ⊢
    have cores := utf8Step_core same pos pos' b
    cases step : utf8Step pos b state with
    | emit c =>
      rw [step] at runs
      obtain ⟨t', rest, rfl⟩ := map_emit_eq_ok.mp runs
      cases step' : utf8Step pos' b state' <;> simp [step, step', Utf8Step.core] at cores
      subst cores
      obtain ⟨last'', rest', core⟩ := ih rest rfl (pos' + 1)
      exact ⟨last'', by simp [rest', Except.map], core⟩
    | next s =>
      rw [step] at runs
      cases step' : utf8Step pos' b state' <;> simp [step, step', Utf8Step.core] at cores
      exact ih runs cores (pos' + 1)
    | invalid => simp [step] at runs

/-- The one byte `b` run from `state`: what a step that moves on leaves. -/
theorem utf8Run_single_next {b : UInt8} {s : Utf8State} (runs : utf8Run false pos state [b] = .ok (t, s))
    (inside : s ≠ .start) : utf8Step pos b state = .next s ∧ t = [] := by
  simp only [utf8Run] at runs
  cases step : utf8Step pos b state with
  | emit c => simp [step, Except.map] at runs; exact absurd runs.2.symm inside
  | next s' => simp [step] at runs; exact ⟨congrArg _ runs.2, runs.1⟩
  | invalid => simp [step] at runs

/-- A lead byte starts a sequence at its own position. -/
theorem utf8Step_start_next {b : UInt8} {s : Utf8State} (step : utf8Step pos b .start = .next s) :
    ∃ owed bits lo hi, s = .inside pos owed bits lo hi := by
  simp only [utf8Step] at step
  split at step
  · cases step
  · split at step
    · cases step; exact ⟨_, _, _, _, rfl⟩
    · cases step

/-- A continuation byte that does not end its sequence keeps where the sequence began. -/
theorem utf8Step_inside_next {b : UInt8} {s : Utf8State} {begun owed bits lo hi : Nat}
    (step : utf8Step pos b (.inside begun owed bits lo hi) = .next s) :
    ∃ owed bits lo hi, s = .inside begun owed bits lo hi := by
  simp only [utf8Step] at step
  split_ifs at step
  cases step
  exact ⟨_, _, _, _, rfl⟩

/-- A run from the start that ends inside a sequence: the bytes from its lead byte on, run alone
from the start, reach that state. -/
theorem utf8Run_replay {begun owed bits lo hi : Nat}
    (runs : utf8Run false 0 .start xs = .ok (t, .inside begun owed bits lo hi)) :
    begun < xs.length ∧
      utf8Run false begun .start (xs.drop begun) = .ok ([], .inside begun owed bits lo hi) := by
  induction xs using List.reverseRecOn generalizing t owed bits lo hi with
  | nil => cases runs
  | append_singleton xs b ih =>
    obtain ⟨d, mid, e, first, second, -⟩ := utf8Run_split runs
    obtain ⟨step, rfl⟩ := utf8Run_single_next second nofun
    cases mid with
    | start =>
      obtain ⟨_, _, _, _, same⟩ := utf8Step_start_next step
      cases same
      refine ⟨by simp, ?_⟩
      rw [Nat.zero_add] at second ⊢
      rw [List.drop_left]
      exact second
    | inside begun' owed' bits' lo' hi' =>
      obtain ⟨_, _, _, _, same⟩ := utf8Step_inside_next step
      cases same
      obtain ⟨before, replays⟩ := ih first
      refine ⟨by simp; omega, ?_⟩
      rw [List.drop_append_of_le_length before.le]
      rw [show 0 + xs.length = begun + (xs.drop begun).length by simp; omega] at second
      simpa using utf8Run_append replays second

end Runs

/-! ## One call of the decoder -/

/-- A call with no more input to follow succeeds where the run ends between characters, and
keeps nothing. -/
theorem utf8Decode_final_ok {bytes : List UInt8} {t : PyStr} {kept : List UInt8} :
    utf8Decode bytes true = .ok (t, kept) ↔
      utf8Run false 0 .start bytes = .ok (t, .start) ∧ kept = [] := by
  unfold utf8Decode
  rw [Bool.not_true]
  cases runs : utf8Run false 0 .start bytes with
  | error e => simp
  | ok r =>
    obtain ⟨d, state⟩ := r
    cases state <;> simp [eq_comm]

/-- One call on the first part of an input that decodes whole, with more input to follow: it
gives the text of that part, and the next call, on the bytes it kept and the rest, gives the
text of the rest. -/
theorem utf8Decode_split {xs ys : List UInt8} {t : PyStr}
    (decodes : utf8Decode (xs ++ ys) true = .ok (t, [])) :
    ∃ d kept e, utf8Decode xs false = .ok (d, kept) ∧ utf8Decode (kept ++ ys) true = .ok (e, []) ∧
      t = d ++ e := by
  have whole := (utf8Decode_final_ok.mp decodes).1
  obtain ⟨d, mid, e, first, second, rfl⟩ := utf8Run_split whole
  have call : utf8Run true 0 .start xs = .ok (d, mid) := utf8Run_more first true
  cases mid with
  | start =>
    obtain ⟨last, rest, core⟩ := utf8Run_shift second rfl 0
    obtain rfl := Utf8State.core_eq_none.mp core
    exact ⟨d, [], e, by simp [utf8Decode, call], by simp [utf8Decode, rest], rfl⟩
  | inside begun owed bits lo hi =>
    obtain ⟨-, replays⟩ := utf8Run_replay first
    obtain ⟨kept, again, sameKept⟩ := utf8Run_shift replays rfl 0
    obtain ⟨last, rest, core⟩ := utf8Run_shift second sameKept (0 + (xs.drop begun).length)
    obtain rfl := Utf8State.core_eq_none.mp core
    refine ⟨d, xs.drop begun, e, by simp [utf8Decode, call], ?_, rfl⟩
    simp [utf8Decode, utf8Run_append again rest]

/-! ## The encoder -/

/-- Whether a code point is a surrogate, which `str.encode("utf-8")` refuses. -/
def isSurrogate (c : CodePoint) : Bool :=
  0xD800 ≤ c.val && c.val ≤ 0xDFFF

/-- The bytes `str.encode("utf-8")` writes for one code point: the shortest of the four forms. -/
def encodeChar (c : CodePoint) : List UInt8 :=
  List.map UInt8.ofNat <|
    if c.val < 0x80 then [c.val]
    else if c.val < 0x800 then [0xC0 + c.val / 64, 0x80 + c.val % 64]
    else if c.val < 0x10000 then [0xE0 + c.val / 4096, 0x80 + c.val / 64 % 64, 0x80 + c.val % 64]
    else [0xF0 + c.val / 262144, 0x80 + c.val / 4096 % 64, 0x80 + c.val / 64 % 64, 0x80 + c.val % 64]

/-- `str.encode("utf-8")` of text without surrogates. -/
def utf8Encode (t : PyStr) : List UInt8 :=
  t.flatMap encodeChar

theorem isSurrogate_eq_false {c : CodePoint} :
    isSurrogate c = false ↔ c.val < 0xD800 ∨ 0xDFFF < c.val := by
  simp only [isSurrogate, Bool.and_eq_false_iff, decide_eq_false_iff_not, Nat.not_le]

@[simp] theorem utf8Encode_cons (c : CodePoint) (t : PyStr) :
    utf8Encode (c :: t) = encodeChar c ++ utf8Encode t := rfl

theorem toNat_ofNat_byte {n : Nat} (small : n < 256) : (UInt8.ofNat n).toNat = n :=
  UInt8.toNat_ofNat_of_lt small

@[simp] theorem ofNat_toNat_byte (b : UInt8) : UInt8.ofNat b.toNat = b :=
  UInt8.toNat.inj (UInt8.toNat_ofNat_of_lt b.val.isLt)

/-! ## Lead bytes -/

section LeadBytes

variable {b : Nat}

theorem leadByte_two (lower : 0xC2 ≤ b) (upper : b ≤ 0xDF) :
    leadByte b = some (1, 0x80, 0xBF, b - 0xC0) := by
  rw [leadByte, if_pos ⟨lower, upper⟩]

theorem leadByte_three (lower : 0xE0 ≤ b) (upper : b ≤ 0xEF) :
    leadByte b =
      some (2, if b = 0xE0 then 0xA0 else 0x80, if b = 0xED then 0x9F else 0xBF, b - 0xE0) := by
  rw [leadByte, if_neg (by omega)]
  by_cases first : b = 0xE0
  · subst first; rfl
  by_cases surrogates : b = 0xED
  · subst surrogates; rfl
  rw [if_neg first, if_neg surrogates, if_pos ⟨by omega, upper⟩, if_neg first, if_neg surrogates]

theorem leadByte_four (lower : 0xF0 ≤ b) (upper : b ≤ 0xF4) :
    leadByte b =
      some (3, if b = 0xF0 then 0x90 else 0x80, if b = 0xF4 then 0x8F else 0xBF, b - 0xF0) := by
  rw [leadByte, if_neg (by omega), if_neg (by omega), if_neg (by omega), if_neg (by omega)]
  by_cases first : b = 0xF0
  · subst first; rfl
  by_cases last : b = 0xF4
  · subst last; rfl
  rw [if_neg first, if_neg last, if_pos ⟨by omega, by omega⟩, if_neg first, if_neg last]

theorem leadByte_of_lt (small : b < 0xC2) : leadByte b = none := by
  rw [leadByte, if_neg (by omega), if_neg (by omega), if_neg (by omega), if_neg (by omega),
    if_neg (by omega), if_neg (by omega), if_neg (by omega)]

theorem leadByte_of_gt (large : 0xF4 < b) : leadByte b = none := by
  rw [leadByte, if_neg (by omega), if_neg (by omega), if_neg (by omega), if_neg (by omega),
    if_neg (by omega), if_neg (by omega), if_neg (by omega)]

end LeadBytes

/-! ## Steps that succeed -/

section Steps

variable {more : Bool} {pos begun owed bits lo hi : Nat} {b : UInt8} {rest : List UInt8}

theorem utf8Run_ascii (ascii : b.toNat < 0x80) :
    utf8Run more pos .start (b :: rest) =
      (utf8Run more (pos + 1) .start rest).map fun r => (⟨b.toNat, by omega⟩ :: r.1, r.2) := by
  simp [utf8Run, utf8Step, ascii]

theorem utf8Run_lead (notAscii : 0x80 ≤ b.toNat) (lead : leadByte b.toNat = some (owed, lo, hi, bits)) :
    utf8Run more pos .start (b :: rest) = utf8Run more (pos + 1) (.inside pos owed bits lo hi) rest := by
  simp [utf8Run, utf8Step, Nat.not_lt.mpr notAscii, lead]

theorem utf8Run_cont (inRange : lo ≤ b.toNat ∧ b.toNat ≤ hi) (owes : owed ≠ 1) :
    utf8Run more pos (.inside begun owed bits lo hi) (b :: rest) =
      utf8Run more (pos + 1) (.inside begun (owed - 1) (bits * 64 + (b.toNat - 0x80)) 0x80 0xBF) rest := by
  simp [utf8Run, utf8Step, inRange, owes]

theorem utf8Run_last (inRange : lo ≤ b.toNat ∧ b.toNat ≤ hi)
    (small : bits * 64 + (b.toNat - 0x80) < 0x110000) :
    utf8Run more pos (.inside begun 1 bits lo hi) (b :: rest) =
      (utf8Run more (pos + 1) .start rest).map
        fun r => (⟨bits * 64 + (b.toNat - 0x80), small⟩ :: r.1, r.2) := by
  simp [utf8Run, utf8Step, inRange, small]

end Steps

theorem map_emit_congr {ε : Type} (x : Except ε (PyStr × Utf8State)) {c c' : CodePoint}
    (same : c.val = c'.val) :
    x.map (fun r => (c :: r.1, r.2)) = x.map (fun r => (c' :: r.1, r.2)) := by
  rw [Fin.ext same]

/-! ## The four forms, digit by digit -/

section Forms

variable {more : Bool} {pos : Nat} {rest : List UInt8} {c : CodePoint} {x y z w : Nat}

theorem encodeChar_one (value : c.val = x) (one : x < 0x80) : encodeChar c = [UInt8.ofNat x] := by
  simp [encodeChar, value, one]

theorem encodeChar_two (value : c.val = x * 64 + y) (first : 2 ≤ x) (hx : x < 32) (hy : y < 64) :
    encodeChar c = [UInt8.ofNat (0xC0 + x), UInt8.ofNat (0x80 + y)] := by
  simp only [encodeChar, value, if_neg (show ¬x * 64 + y < 0x80 by omega),
    if_pos (show x * 64 + y < 0x800 by omega), show (x * 64 + y) / 64 = x by omega,
    show (x * 64 + y) % 64 = y by omega, List.map_cons, List.map_nil]

theorem utf8Run_two (value : c.val = x * 64 + y) (first : 2 ≤ x) (hx : x < 32) (hy : y < 64) :
    utf8Run more pos .start (UInt8.ofNat (0xC0 + x) :: UInt8.ofNat (0x80 + y) :: rest) =
      (utf8Run more (pos + 2) .start rest).map fun r => (c :: r.1, r.2) := by
  have b1 := toNat_ofNat_byte (n := 0xC0 + x) (by omega)
  have b2 := toNat_ofNat_byte (n := 0x80 + y) (by omega)
  rw [utf8Run_lead (by omega) (leadByte_two (by omega) (by omega)), utf8Run_last (by omega) (by omega)]
  exact map_emit_congr _ (by simp only [b1, b2, value]; omega)

theorem encodeChar_three (value : c.val = (x * 64 + y) * 64 + z) (hx : x < 16) (hy : y < 64)
    (hz : z < 64) (shortest : x = 0 → 32 ≤ y) :
    encodeChar c = [UInt8.ofNat (0xE0 + x), UInt8.ofNat (0x80 + y), UInt8.ofNat (0x80 + z)] := by
  simp only [encodeChar, value, if_neg (show ¬(x * 64 + y) * 64 + z < 0x80 by omega),
    if_neg (show ¬(x * 64 + y) * 64 + z < 0x800 by omega),
    if_pos (show (x * 64 + y) * 64 + z < 0x10000 by omega),
    show ((x * 64 + y) * 64 + z) / 4096 = x by omega, show ((x * 64 + y) * 64 + z) / 64 % 64 = y by omega,
    show ((x * 64 + y) * 64 + z) % 64 = z by omega, List.map_cons, List.map_nil]

theorem utf8Run_three (value : c.val = (x * 64 + y) * 64 + z) (hx : x < 16) (hy : y < 64)
    (hz : z < 64) (shortest : x = 0 → 32 ≤ y) (notSurrogate : x = 13 → y < 32) :
    utf8Run more pos .start
        (UInt8.ofNat (0xE0 + x) :: UInt8.ofNat (0x80 + y) :: UInt8.ofNat (0x80 + z) :: rest) =
      (utf8Run more (pos + 3) .start rest).map fun r => (c :: r.1, r.2) := by
  have b1 := toNat_ofNat_byte (n := 0xE0 + x) (by omega)
  have b2 := toNat_ofNat_byte (n := 0x80 + y) (by omega)
  have b3 := toNat_ofNat_byte (n := 0x80 + z) (by omega)
  rw [utf8Run_lead (by omega) (leadByte_three (by omega) (by omega)),
    utf8Run_cont (by rw [b1, b2]; constructor <;> split_ifs <;> omega) (by decide),
    utf8Run_last (by omega) (by omega)]
  exact map_emit_congr _ (by simp only [b1, b2, b3, value]; omega)

theorem encodeChar_four (value : c.val = ((x * 64 + y) * 64 + z) * 64 + w) (hx : x < 5)
    (hy : y < 64) (hz : z < 64) (hw : w < 64) (shortest : x = 0 → 16 ≤ y) :
    encodeChar c =
      [UInt8.ofNat (0xF0 + x), UInt8.ofNat (0x80 + y), UInt8.ofNat (0x80 + z), UInt8.ofNat (0x80 + w)] := by
  simp only [encodeChar, value, if_neg (show ¬((x * 64 + y) * 64 + z) * 64 + w < 0x80 by omega),
    if_neg (show ¬((x * 64 + y) * 64 + z) * 64 + w < 0x800 by omega),
    if_neg (show ¬((x * 64 + y) * 64 + z) * 64 + w < 0x10000 by omega),
    show (((x * 64 + y) * 64 + z) * 64 + w) / 262144 = x by omega,
    show (((x * 64 + y) * 64 + z) * 64 + w) / 4096 % 64 = y by omega,
    show (((x * 64 + y) * 64 + z) * 64 + w) / 64 % 64 = z by omega,
    show (((x * 64 + y) * 64 + z) * 64 + w) % 64 = w by omega, List.map_cons, List.map_nil]

theorem utf8Run_four (value : c.val = ((x * 64 + y) * 64 + z) * 64 + w) (hx : x < 5)
    (hy : y < 64) (hz : z < 64) (hw : w < 64) (shortest : x = 0 → 16 ≤ y) (below : x = 4 → y < 16) :
    utf8Run more pos .start (UInt8.ofNat (0xF0 + x) :: UInt8.ofNat (0x80 + y) ::
        UInt8.ofNat (0x80 + z) :: UInt8.ofNat (0x80 + w) :: rest) =
      (utf8Run more (pos + 4) .start rest).map fun r => (c :: r.1, r.2) := by
  have b1 := toNat_ofNat_byte (n := 0xF0 + x) (by omega)
  have b2 := toNat_ofNat_byte (n := 0x80 + y) (by omega)
  have b3 := toNat_ofNat_byte (n := 0x80 + z) (by omega)
  have b4 := toNat_ofNat_byte (n := 0x80 + w) (by omega)
  rw [utf8Run_lead (by omega) (leadByte_four (by omega) (by omega)),
    utf8Run_cont (by rw [b1, b2]; constructor <;> split_ifs <;> omega) (by decide),
    utf8Run_cont (by omega) (by decide), utf8Run_last (by omega) (by omega)]
  exact map_emit_congr _ (by simp only [b1, b2, b3, b4, value]; omega)

end Forms

/-- The decoder reads the bytes of one code point that is not a surrogate back as that code point,
whatever follows them. -/
theorem utf8Run_encodeChar (c : CodePoint) (notSurrogate : isSurrogate c = false) (more : Bool)
    (pos : Nat) (rest : List UInt8) :
    utf8Run more pos .start (encodeChar c ++ rest) =
      (utf8Run more (pos + (encodeChar c).length) .start rest).map fun r => (c :: r.1, r.2) := by
  have below := c.isLt
  rw [isSurrogate_eq_false] at notSurrogate
  by_cases one : c.val < 0x80
  · rw [encodeChar_one rfl one, List.singleton_append,
      utf8Run_ascii (by rw [toNat_ofNat_byte (by omega)]; exact one)]
    exact map_emit_congr _ (toNat_ofNat_byte (by omega))
  by_cases two : c.val < 0x800
  · obtain ⟨x, y, hx, hy, value⟩ : ∃ x y, x < 32 ∧ y < 64 ∧ c.val = x * 64 + y :=
      ⟨c.val / 64, c.val % 64, by omega, by omega, by omega⟩
    rw [encodeChar_two value (by omega) hx hy, List.cons_append, List.cons_append, List.nil_append,
      utf8Run_two value (by omega) hx hy]
    rfl
  by_cases three : c.val < 0x10000
  · obtain ⟨x, y, z, hx, hy, hz, value⟩ :
        ∃ x y z, x < 16 ∧ y < 64 ∧ z < 64 ∧ c.val = (x * 64 + y) * 64 + z :=
      ⟨c.val / 4096, c.val / 64 % 64, c.val % 64, by omega, by omega, by omega, by omega⟩
    rw [encodeChar_three value hx hy hz (by omega), List.cons_append, List.cons_append,
      List.cons_append, List.nil_append, utf8Run_three value hx hy hz (by omega) (by omega)]
    rfl
  · obtain ⟨x, y, z, w, hx, hy, hz, hw, value⟩ : ∃ x y z w, x < 5 ∧ y < 64 ∧ z < 64 ∧ w < 64 ∧
        c.val = ((x * 64 + y) * 64 + z) * 64 + w :=
      ⟨c.val / 262144, c.val / 4096 % 64, c.val / 64 % 64, c.val % 64, by omega, by omega, by omega,
        by omega, by omega⟩
    rw [encodeChar_four value hx hy hz hw (by omega), List.cons_append, List.cons_append,
      List.cons_append, List.cons_append, List.nil_append,
      utf8Run_four value hx hy hz hw (by omega) (by omega)]
    rfl

/-! ## What the decoder accepts -/

section Inversion

variable {pos begun owed bits lo hi : Nat} {b : UInt8} {rest bytes : List UInt8} {t : PyStr}

/-- A run inside a sequence that ends between characters reads a continuation byte in range. -/
theorem utf8Run_inside_ok
    (runs : utf8Run false pos (.inside begun owed bits lo hi) bytes = .ok (t, .start)) :
    ∃ b more, bytes = b :: more ∧ lo ≤ b.toNat ∧ b.toNat ≤ hi := by
  cases bytes with
  | nil => simp [utf8Run] at runs
  | cons b more =>
    refine ⟨b, more, rfl, ?_⟩
    by_contra out
    simp [utf8Run, utf8Step, out] at runs

/-- A run from the start that succeeds reads an ASCII byte or a lead byte first. -/
theorem utf8Run_start_ok (runs : utf8Run false pos .start (b :: rest) = .ok (t, .start)) :
    b.toNat < 0x80 ∨ 0xC2 ≤ b.toNat ∧ b.toNat ≤ 0xF4 := by
  by_contra neither
  have none : leadByte b.toNat = none := by
    rcases Nat.lt_or_ge b.toNat 0xC2 with small | large
    · exact leadByte_of_lt small
    · exact leadByte_of_gt (by omega)
  simp [utf8Run, utf8Step, show ¬b.toNat < 0x80 by omega, none] at runs

/-- The end of each case below: the bytes of a code point that is not a surrogate, read at the
start of a run that ends between characters. -/
theorem exists_encodeChar_of_read {c : CodePoint} {bytes more : List UInt8}
    (encoded : encodeChar c = bytes) (fine : isSurrogate c = false)
    (runs : (utf8Run false (pos + bytes.length) .start more).map (fun r => (c :: r.1, r.2)) =
      .ok (t, .start)) :
    ∃ c more' t', bytes ++ more = encodeChar c ++ more' ∧ isSurrogate c = false ∧ t = c :: t' ∧
      utf8Run false (pos + (encodeChar c).length) .start more' = .ok (t', .start) := by
  obtain ⟨t', rest', rfl⟩ := map_emit_eq_ok.mp runs
  exact ⟨c, more, t', by rw [encoded], fine, rfl, by rw [encoded]; exact rest'⟩

/-- A run from the start that succeeds and ends between characters begins with the bytes of a
code point that is not a surrogate, and runs on from the bytes after them. -/
theorem utf8Run_start_cons_ok (runs : utf8Run false pos .start (b :: rest) = .ok (t, .start)) :
    ∃ c more t', b :: rest = encodeChar c ++ more ∧ isSurrogate c = false ∧ t = c :: t' ∧
      utf8Run false (pos + (encodeChar c).length) .start more = .ok (t', .start) := by
  have byte := b.val.isLt
  rcases utf8Run_start_ok runs with ascii | ⟨lower, upper⟩
  · rw [utf8Run_ascii ascii] at runs
    have encoded := encodeChar_one (c := ⟨b.toNat, by omega⟩) rfl ascii
    rw [ofNat_toNat_byte] at encoded
    exact exists_encodeChar_of_read encoded (isSurrogate_eq_false.mpr (by simp only; omega)) runs
  by_cases two : b.toNat ≤ 0xDF
  · rw [utf8Run_lead (by omega) (leadByte_two lower two)] at runs
    obtain ⟨b2, rest, rfl, r2⟩ := utf8Run_inside_ok runs
    have small : (b.toNat - 0xC0) * 64 + (b2.toNat - 0x80) < 0x110000 := by omega
    rw [utf8Run_last r2 small] at runs
    have encoded := encodeChar_two (c := ⟨_, small⟩) rfl (by omega) (by omega) (by omega)
    rw [Nat.add_sub_of_le (by omega), Nat.add_sub_of_le (by omega), ofNat_toNat_byte,
      ofNat_toNat_byte] at encoded
    exact exists_encodeChar_of_read encoded (isSurrogate_eq_false.mpr (by simp only; omega)) runs
  by_cases three : b.toNat ≤ 0xEF
  · rw [utf8Run_lead (by omega) (leadByte_three (by omega) three)] at runs
    obtain ⟨b2, rest, rfl, r2⟩ := utf8Run_inside_ok runs
    rw [utf8Run_cont r2 (by decide)] at runs
    obtain ⟨b3, rest, rfl, r3⟩ := utf8Run_inside_ok runs
    have r2' : (b.toNat = 0xE0 → 0xA0 ≤ b2.toNat) ∧ 0x80 ≤ b2.toNat ∧
        (b.toNat = 0xED → b2.toNat ≤ 0x9F) ∧ b2.toNat ≤ 0xBF := by
      split_ifs at r2 <;> omega
    have small : ((b.toNat - 0xE0) * 64 + (b2.toNat - 0x80)) * 64 + (b3.toNat - 0x80) < 0x110000 := by
      omega
    rw [utf8Run_last r3 small] at runs
    have encoded := encodeChar_three (c := ⟨_, small⟩) rfl (by omega) (by omega) (by omega) (by omega)
    rw [Nat.add_sub_of_le (by omega), Nat.add_sub_of_le (by omega), Nat.add_sub_of_le (by omega),
      ofNat_toNat_byte, ofNat_toNat_byte, ofNat_toNat_byte] at encoded
    exact exists_encodeChar_of_read encoded (isSurrogate_eq_false.mpr (by simp only; omega)) runs
  · rw [utf8Run_lead (by omega) (leadByte_four (by omega) upper)] at runs
    obtain ⟨b2, rest, rfl, r2⟩ := utf8Run_inside_ok runs
    rw [utf8Run_cont r2 (by decide)] at runs
    obtain ⟨b3, rest, rfl, r3⟩ := utf8Run_inside_ok runs
    rw [utf8Run_cont r3 (by decide)] at runs
    obtain ⟨b4, rest, rfl, r4⟩ := utf8Run_inside_ok runs
    have r2' : (b.toNat = 0xF0 → 0x90 ≤ b2.toNat) ∧ 0x80 ≤ b2.toNat ∧
        (b.toNat = 0xF4 → b2.toNat ≤ 0x8F) ∧ b2.toNat ≤ 0xBF := by
      split_ifs at r2 <;> omega
    have small : (((b.toNat - 0xF0) * 64 + (b2.toNat - 0x80)) * 64 + (b3.toNat - 0x80)) * 64 +
        (b4.toNat - 0x80) < 0x110000 := by
      omega
    rw [utf8Run_last r4 small] at runs
    have encoded := encodeChar_four (c := ⟨_, small⟩) rfl (by omega) (by omega) (by omega) (by omega)
      (by omega)
    rw [Nat.add_sub_of_le (by omega), Nat.add_sub_of_le (by omega), Nat.add_sub_of_le (by omega),
      Nat.add_sub_of_le (by omega), ofNat_toNat_byte, ofNat_toNat_byte, ofNat_toNat_byte,
      ofNat_toNat_byte] at encoded
    exact exists_encodeChar_of_read encoded (isSurrogate_eq_false.mpr (by simp only; omega)) runs

end Inversion

/-! ## Whole texts -/

/-- The decoder reads the UTF-8 of text without surrogates back, from any position and whether
more input may follow or not. -/
theorem utf8Run_utf8Encode (t : PyStr) (clean : ∀ c ∈ t, isSurrogate c = false) (more : Bool)
    (pos : Nat) : utf8Run more pos .start (utf8Encode t) = .ok (t, .start) := by
  induction t generalizing pos with
  | nil => rfl
  | cons c t ih =>
    rw [utf8Encode_cons, utf8Run_encodeChar c (clean c (.head _)),
      ih (fun c' mem => clean c' (.tail _ mem))]
    rfl

/-- A run from the start that succeeds and ends between characters has read the UTF-8 of its
text, and that text has no surrogates. -/
theorem utf8Run_eq_utf8Encode {bytes : List UInt8} {pos : Nat} {t : PyStr}
    (runs : utf8Run false pos .start bytes = .ok (t, .start)) :
    bytes = utf8Encode t ∧ ∀ c ∈ t, isSurrogate c = false := by
  induction t generalizing bytes pos with
  | nil =>
    cases bytes with
    | nil => exact ⟨rfl, nofun⟩
    | cons b rest =>
      obtain ⟨_, _, _, _, _, never, _⟩ := utf8Run_start_cons_ok runs
      cases never
  | cons c t ih =>
    cases bytes with
    | nil => simp [utf8Run] at runs
    | cons b rest =>
      obtain ⟨c', more, t', split, fine, same, rest'⟩ := utf8Run_start_cons_ok runs
      obtain ⟨rfl, rfl⟩ := List.cons.inj same
      obtain ⟨encoded, clean⟩ := ih rest'
      exact ⟨by rw [split, encoded, utf8Encode_cons], List.forall_mem_cons.mpr ⟨fine, clean⟩⟩

/-- Each call decodes the UTF-8 of text without surrogates whole, with or without more input to
follow. -/
theorem utf8Decode_utf8Encode (t : PyStr) (clean : ∀ c ∈ t, isSurrogate c = false) (final : Bool) :
    utf8Decode (utf8Encode t) final = .ok (t, []) := by
  simp [utf8Decode, utf8Run_utf8Encode t clean]

/-- With no more input to follow, the decoder accepts exactly the UTF-8 of text without surrogates,
gives that text back and keeps nothing. -/
theorem utf8Decode_final_iff {bytes : List UInt8} {t : PyStr} {kept : List UInt8} :
    utf8Decode bytes true = .ok (t, kept) ↔
      bytes = utf8Encode t ∧ kept = [] ∧ ∀ c ∈ t, isSurrogate c = false := by
  constructor
  · intro decodes
    obtain ⟨runs, rfl⟩ := utf8Decode_final_ok.mp decodes
    obtain ⟨encoded, clean⟩ := utf8Run_eq_utf8Encode runs
    exact ⟨encoded, rfl, clean⟩
  · rintro ⟨rfl, rfl, clean⟩
    exact utf8Decode_utf8Encode t clean true

end Runner
end Kennel
