import Kennel.Runner.Utf8

namespace Kennel
namespace Runner

open Python

/-!
# `readline` over any chunking

The bytes of a pipe arrive in whatever pieces `read1` returns.  `readline` decodes each piece
after the bytes the decoder kept from the one before, and cuts the text at line feeds.  This
module proves that the pieces do not matter: on bytes that decode whole, the calls return the
lines of the text as if it had been read at once (`stdinReads_of_decodes`), and so, for the UTF-8
of any text without surrogates cut anywhere, the lines of that text (`stdinReads_utf8Encode`).

The lines are what `splitLines` makes of the text: pieces that each end at their only line feed,
and after them text with none, which together give the text back.  That describes the cut
completely (`splitLines_eq_iff`).
-/

/-- What successive `readline` calls return from text read whole: its lines, each with its line
feed, then the text after the last line feed if there is any. -/
def textReads (t : PyStr) : List ReadResult :=
  match splitLines t with
  | (lines, rest) => lines.map .line ++ if rest.isEmpty then [] else [.line rest]

example : textReads (text "a\n\nb") = [.line (text "a\n"), .line (text "\n"), .line (text "b")] := by
  decide

/-! ## Lines -/

/-- Cutting a concatenation: the lines of the first part, then the lines of what is left of it
followed by the second part. -/
theorem splitLines_append (u v : PyStr) :
    splitLines (u ++ v) =
      ((splitLines u).1 ++ (splitLines ((splitLines u).2 ++ v)).1,
        (splitLines ((splitLines u).2 ++ v)).2) := by
  induction u with
  | nil => rfl
  | cons c u ih =>
    rw [List.cons_append]
    simp only [splitLines]
    rw [ih]
    obtain ⟨lines, rest⟩ := splitLines u
    by_cases feed : c = lineFeed
    · simp [feed]
    · cases lines with
      | cons line more => simp [feed]
      | nil => simp [feed, splitLines]

/-- Text without a line feed is no line yet. -/
theorem splitLines_of_not_mem {s : PyStr} (none : lineFeed ∉ s) : splitLines s = ([], s) := by
  induction s with
  | nil => rfl
  | cons c s ih =>
    have other : c ≠ lineFeed := fun same => none (same ▸ .head _)
    simp [splitLines, ih (fun mem => none (.tail _ mem)), other]

/-- A line feed after text without one ends the first line. -/
theorem splitLines_line {body : PyStr} (none : lineFeed ∉ body) (u : PyStr) :
    splitLines (body ++ lineFeed :: u) =
      ((body ++ [lineFeed]) :: (splitLines u).1, (splitLines u).2) := by
  induction body with
  | nil => simp [splitLines]
  | cons c body ih =>
    have other : c ≠ lineFeed := fun same => none (same ▸ .head _)
    simp [splitLines, ih (fun mem => none (.tail _ mem)), other]

/-- The lines and the rest, joined, give the text; each line ends at its only line feed; the rest
has none. -/
def IsLineSplit (t : PyStr) (lines : List PyStr) (rest : PyStr) : Prop :=
  lines.flatten ++ rest = t ∧ (∀ line ∈ lines, ∃ body, line = body ++ [lineFeed] ∧ lineFeed ∉ body) ∧
    lineFeed ∉ rest

theorem isLineSplit_splitLines (t : PyStr) : IsLineSplit t (splitLines t).1 (splitLines t).2 := by
  induction t with
  | nil => exact ⟨rfl, nofun, nofun⟩
  | cons c t ih =>
    rcases split : splitLines t with ⟨lines, rest⟩
    rw [split] at ih
    obtain ⟨joined, ended, clean⟩ := ih
    by_cases feed : c = lineFeed
    · subst feed
      simp only [splitLines, split, if_true]
      exact ⟨by simp [← joined], List.forall_mem_cons.mpr ⟨⟨[], rfl, nofun⟩, ended⟩, clean⟩
    · have notFeed : ∀ {s : PyStr}, lineFeed ∉ s → lineFeed ∉ c :: s := fun none mem => by
        cases mem with
        | head => exact feed rfl
        | tail _ mem => exact none mem
      cases lines with
      | cons line more =>
        obtain ⟨body, rfl, none⟩ := ended _ (.head _)
        simp only [splitLines, split, if_neg feed]
        exact ⟨by simp [← joined], List.forall_mem_cons.mpr
          ⟨⟨c :: body, rfl, notFeed none⟩, fun l mem => ended l (.tail _ mem)⟩, clean⟩
      | nil =>
        simp only [splitLines, split, if_neg feed]
        exact ⟨by simp [← joined], nofun, notFeed clean⟩

theorem splitLines_of_isLineSplit {t : PyStr} {lines : List PyStr} {rest : PyStr}
    (split : IsLineSplit t lines rest) : splitLines t = (lines, rest) := by
  obtain ⟨joined, ended, clean⟩ := split
  subst joined
  induction lines with
  | nil => exact splitLines_of_not_mem clean
  | cons line more ih =>
    obtain ⟨body, rfl, none⟩ := ended _ (.head _)
    rw [List.flatten_cons, List.append_assoc, List.append_assoc, List.singleton_append,
      splitLines_line none, ih (fun l mem => ended l (.tail _ mem))]

/-- `splitLines` cuts text into lines, each ending at its only line feed, and the text after the
last line feed; no other cut has these properties. -/
theorem splitLines_eq_iff {t : PyStr} {lines : List PyStr} {rest : PyStr} :
    splitLines t = (lines, rest) ↔ IsLineSplit t lines rest := by
  constructor
  · intro split
    have := isLineSplit_splitLines t
    rwa [split] at this
  · exact splitLines_of_isLineSplit

/-! ## Chunks -/

/-- From any state of `readline`, chunks whose bytes, after those the decoder kept, decode whole
give the lines of the text held and the text decoded, however the bytes are cut. -/
theorem stdinReads_of_decodes {chunks : List (List UInt8)} {pending : List UInt8} {buffer t : PyStr}
    (decodes : utf8Decode (pending ++ chunks.flatten) true = .ok (t, [])) :
    stdinReads pending buffer chunks = textReads (buffer ++ t) := by
  induction chunks generalizing pending buffer t with
  | nil =>
    rw [List.flatten_nil, List.append_nil] at decodes
    simp [stdinReads, decodes, textReads]
  | cons chunk chunks ih =>
    rw [List.flatten_cons, ← List.append_assoc] at decodes
    obtain ⟨d, kept, e, first, second, rfl⟩ := utf8Decode_split decodes
    simp only [stdinReads, readChunk, first, except_ok_bind, pure, Except.pure]
    rw [ih second, ← List.append_assoc, textReads, textReads, splitLines_append (buffer ++ d) e]
    simp [List.map_append, List.append_assoc]

/-- Whatever pieces the UTF-8 of text without surrogates arrives in, `readline` returns the lines
of that text. -/
theorem stdinReads_utf8Encode {chunks : List (List UInt8)} {t : PyStr}
    (clean : ∀ c ∈ t, isSurrogate c = false) (bytes : chunks.flatten = utf8Encode t) :
    stdinReads [] [] chunks = textReads t := by
  have decodes : utf8Decode ([] ++ chunks.flatten) true = .ok (t, []) := by
    rw [List.nil_append, bytes]
    exact utf8Decode_utf8Encode t clean true
  exact stdinReads_of_decodes decodes

/-- `aé`, a line feed and `b`, cut between the two bytes of `é`. -/
theorem stdinReads_utf8Encode_cut_in_char :
    (∀ c ∈ text "aé\nb", isSurrogate c = false) ∧
      [[0x61, 0xC3], [0xA9, 0x0A, 0x62]].flatten = utf8Encode (text "aé\nb") ∧
      stdinReads [] [] [[0x61, 0xC3], [0xA9, 0x0A, 0x62]] = textReads (text "aé\nb") := by
  have clean : ∀ c ∈ text "aé\nb", isSurrogate c = false := by
    simp [text, isSurrogate]
    decide
  exact ⟨clean, rfl, stdinReads_utf8Encode clean rfl⟩

end Runner
end Kennel
