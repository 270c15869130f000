import Kennel.Runner.Loop

namespace Kennel
namespace Runner

open Python Sdk

/-!
# Standard input as bytes

`sys.stdin` is a text wrapper over a buffered byte stream.  Under a UTF-8 locale such as
`en_US.UTF-8` it decodes with the strict UTF-8 decoder and, outside Windows, splits lines at the
line feed alone (`newline="\n"`).  Under the C, POSIX and C.UTF-8 locales CPython decodes with
`errors="surrogateescape"` instead, which never raises; that decoding is not modelled here.
`readline` takes the bytes one chunk at a time, whatever one `read1` on the pipe returns, and
decodes each chunk whole with the incremental decoder.  That decoder keeps an unfinished
sequence at the end of a chunk for the next call.  When a chunk does not decode,
`UnicodeDecodeError` leaves `readline`, and the lines of that chunk before the bad bytes are never
returned.

The decoder is CPython's `utf8_decode`, read one byte at a time.  A lead byte fixes how many
continuation bytes follow and the range of the first one; the ranges rule out overlong forms,
surrogates and code points past `U+10FFFF`.  The error names the bytes of the sequence read so
far.

On such a stream, `command_loop` answers the command lines of the chunks that decoded and ends
at the chunk that does not.  Its `except Exception` clause takes the error as it takes a failed
read, and its `finally` clause calls `stop`.
-/

/-! ## The UTF-8 decoder -/

/-- Where the decoder stands between two bytes. -/
inductive Utf8State where
  /-- Between characters. -/
  | start
  /-- Inside a sequence begun at position `begun`: `owed` continuation bytes are still to come,
  the next one between `lo` and `hi`, and `bits` are the code point's bits so far. -/
  | inside (begun owed bits lo hi : Nat)
  deriving DecidableEq, Repr

/-- The sequence a lead byte begins: the continuation bytes it needs, the range of the first
one, and the bits it carries; `none` for a byte that begins no sequence. -/
def leadByte (b : Nat) : Option (Nat × Nat × Nat × Nat) :=
  if 0xC2 ≤ b ∧ b ≤ 0xDF then some (1, 0x80, 0xBF, b - 0xC0)
  else if b = 0xE0 then some (2, 0xA0, 0xBF, 0)
  else if b = 0xED then some (2, 0x80, 0x9F, 0xD)
  else if 0xE1 ≤ b ∧ b ≤ 0xEF then some (2, 0x80, 0xBF, b - 0xE0)
  else if b = 0xF0 then some (3, 0x90, 0xBF, 0)
  else if b = 0xF4 then some (3, 0x80, 0x8F, 4)
  else if 0xF1 ≤ b ∧ b ≤ 0xF3 then some (3, 0x80, 0xBF, b - 0xF0)
  else none

/-- What one byte does to the decoder. -/
inductive Utf8Step where
  | emit (c : CodePoint)
  | next (state : Utf8State)
  /-- The bytes from position `first` to before `stop` cannot be decoded. -/
  | invalid (first stop : Nat) (reason : String)

/-- The byte `b` at position `pos`.  A bad continuation byte makes the sequence read so far
undecodable.  The ranges of the lead bytes keep every code point below `0x110000`, so the
bound is never the reason. -/
def utf8Step (pos : Nat) (b : UInt8) : Utf8State → Utf8Step
  | .start =>
      if h : b.toNat < 0x80 then .emit ⟨b.toNat, by omega⟩
      else match leadByte b.toNat with
        | some (owed, lo, hi, bits) => .next (.inside pos owed bits lo hi)
        | none => .invalid pos (pos + 1) "invalid start byte"
  | .inside begun owed bits lo hi =>
      if lo ≤ b.toNat ∧ b.toNat ≤ hi then
        let bits := bits * 64 + (b.toNat - 0x80)
        if owed = 1 then
          if h : bits < 0x110000 then .emit ⟨bits, h⟩
          else .invalid begun pos "invalid continuation byte"
        else .next (.inside begun (owed - 1) bits 0x80 0xBF)
      else .invalid begun pos "invalid continuation byte"

/-- Whether the decoder has read only the lead byte `0xED` and `b` would go on to a surrogate.
When more input may follow, CPython keeps these two bytes for the next call if they end the
input, instead of rejecting them. -/
def truncatedSurrogate (state : Utf8State) (b : UInt8) : Bool :=
  match state with
  | .inside _ 2 0xD _ _ => 0xA0 ≤ b.toNat && b.toNat ≤ 0xBF
  | _ => false

/-- The decoder run over `bytes` from position `pos` in `state`, `more` saying whether more input
may follow: the characters decoded and the state at the end, or the undecodable bytes. -/
def utf8Run (more : Bool) : Nat → Utf8State → List UInt8 →
    Except (Nat × Nat × String) (PyStr × Utf8State)
  | _, state, [] => .ok ([], state)
  | pos, state, b :: rest =>
      match utf8Step pos b state with
      | .emit c => (utf8Run more (pos + 1) .start rest).map fun (decoded, state) => (c :: decoded, state)
      | .next state => utf8Run more (pos + 1) state rest
      | .invalid first stop reason =>
          if more && rest.isEmpty && truncatedSurrogate state b then .ok ([], state)
          else .error (first, stop, reason)

/-- `UnicodeDecodeError` for the bytes of `input` from `first` to before `stop`, with the text
CPython gives it. -/
def unicodeDecodeError (input : List UInt8) (first stop : Nat) (reason : String) : PyExc :=
  ⟨text "UnicodeDecodeError",
    text "'utf-8' codec can't decode " ++
      (if stop = first + 1 then
        text "byte 0x" ++ hexDigits 2 (input.getD first 0).toNat ++ text " in position " ++
          intRepr first
      else text "bytes in position " ++ intRepr first ++ text "-" ++ intRepr (stop - 1)) ++
      text ": " ++ text reason⟩

/-- One call `decode(input, final)` of the incremental decoder, `input` being the bytes it kept
from the call before followed by the new ones: the text decoded and the bytes it keeps. -/
def utf8Decode (input : List UInt8) (final : Bool) : Except PyExc (PyStr × List UInt8) :=
  match utf8Run (!final) 0 .start input with
  | .error (first, stop, reason) => .error (unicodeDecodeError input first stop reason)
  | .ok (decoded, .start) => .ok (decoded, [])
  | .ok (decoded, .inside begun ..) =>
      if final then .error (unicodeDecodeError input begun input.length "unexpected end of data")
      else .ok (decoded, input.drop begun)

/-- Every error of the decoder is a `UnicodeDecodeError`. -/
theorem utf8Decode_error_cls {input : List UInt8} {final : Bool} {e : PyExc}
    (fails : utf8Decode input final = .error e) : e.cls = text "UnicodeDecodeError" := by
  unfold utf8Decode at fails
  split at fails
  · cases fails; rfl
  · cases fails
  · split at fails
    · cases fails; rfl
    · cases fails

/-! ## `readline` over chunks -/

/-- The line feed. -/
def lineFeed : CodePoint := ⟨0x0A, by decide⟩

/-- Decoded text cut into the lines `readline` returns, each with its line feed, and the text
after the last line feed. -/
def splitLines : PyStr → List PyStr × PyStr
  | [] => ([], [])
  | c :: rest =>
      match splitLines rest with
      | (lines, unfinished) =>
          if c = lineFeed then ([c] :: lines, unfinished)
          else match lines with
            | line :: more => ((c :: line) :: more, unfinished)
            | [] => ([], c :: unfinished)

example : splitLines (text "a\nbc\nd") = ([text "a\n", text "bc\n"], text "d") := by decide

/-- One chunk read by `readline`: decoded after the bytes the decoder kept and appended to the
text not yet returned.  Gives the complete lines, the bytes kept and the text left. -/
def readChunk (pending : List UInt8) (buffer : PyStr) (chunk : List UInt8) :
    Except PyExc (List PyStr × List UInt8 × PyStr) := do
  let (decoded, pending) ← utf8Decode (pending ++ chunk) false
  let (lines, buffer) := splitLines (buffer ++ decoded)
  pure (lines, pending, buffer)

/-- What successive `sys.stdin.readline()` calls return while the bytes arrive in `chunks`.
They return the lines in order and, at the end of the stream, the unfinished last line.  The
first chunk that does not decode gives instead the `UnicodeDecodeError`, and the harness reads
no further; this is the strict decoding of a UTF-8 locale, not `surrogateescape`. -/
def stdinReads (pending : List UInt8) (buffer : PyStr) : List (List UInt8) → List ReadResult
  | [] =>
      match utf8Decode pending true with
      | .error e => [.fail e]
      | .ok (decoded, _) =>
          match splitLines (buffer ++ decoded) with
          | (lines, rest) => lines.map .line ++ if rest.isEmpty then [] else [.line rest]
  | chunk :: chunks =>
      match readChunk pending buffer chunk with
      | .error e => [.fail e]
      | .ok (lines, pending, buffer) => lines.map .line ++ stdinReads pending buffer chunks

/-- The lines `readline` returns from `chunks` that all decode, and the bytes the decoder and the
text the wrapper hold after them. -/
def readChunks (pending : List UInt8) (buffer : PyStr) :
    List (List UInt8) → Except PyExc (List PyStr × List UInt8 × PyStr)
  | [] => .ok ([], pending, buffer)
  | chunk :: chunks => do
      let (lines, pending, buffer) ← readChunk pending buffer chunk
      let (more, pending, buffer) ← readChunks pending buffer chunks
      pure (lines ++ more, pending, buffer)

/-- Chunks that decode give their lines and leave `readline` where they end. -/
theorem stdinReads_append {pending : List UInt8} {buffer : PyStr} {good : List (List UInt8)}
    {lines : List PyStr} {pending' : List UInt8} {buffer' : PyStr}
    (decodes : readChunks pending buffer good = .ok (lines, pending', buffer'))
    (rest : List (List UInt8)) :
    stdinReads pending buffer (good ++ rest) = lines.map .line ++ stdinReads pending' buffer' rest := by
  induction good generalizing pending buffer lines with
  | nil => cases decodes; simp
  | cons chunk good more =>
      simp only [readChunks] at decodes
      cases first : readChunk pending buffer chunk with
      | error e => simp [first] at decodes
      | ok read =>
          obtain ⟨lines₁, pending₁, buffer₁⟩ := read
          cases others : readChunks pending₁ buffer₁ good with
          | error e => simp [first, others] at decodes
          | ok read =>
              obtain ⟨lines₂, pending₂, buffer₂⟩ := read
              simp only [first, others, except_ok_bind] at decodes
              cases decodes
              simp [stdinReads, first, more others]

/-! ## A chunk that does not decode -/

section

variable {σ : Type} (plugin : Plugin σ)

/-- Under a UTF-8 locale such as `en_US.UTF-8`, where `sys.stdin` decodes strictly, and without
signals: when the chunk `bad` does not decode after chunks that did, `readline` raises
`UnicodeDecodeError` there and `command_loop` ends.  The loop answers the command lines of the
earlier chunks as it answers them on a stream without `bad`.  No line of `bad` gets a frame,
neither the lines before its undecodable bytes nor those after, and no later chunk is read.  The
`except` clause takes the error, the `finally` clause calls `stop` once, and the loop returns
normally. -/
theorem commandLoop_ends_at_undecodable_chunk (w : World σ) (good : List (List UInt8))
    (bad : List UInt8) (later : List (List UInt8)) (lines : List PyStr) (pending : List UInt8)
    (buffer : PyStr) (e : PyExc) (earlier : readChunks [] [] good = .ok (lines, pending, buffer))
    (undecodable : utf8Decode (pending ++ bad) false = .error e)
    (reads : w.stdin = stdinReads [] [] (good ++ bad :: later))
    (noStop : stopLine ∉ lines.map strip) (fuel : Nat) (enough : lines.length < fuel) :
    e.cls = text "UnicodeDecodeError" ∧
      ∃ frames calls module,
        CommandRun plugin w.now w.module (commandsBeforeStop lines) frames calls module ∧
          commandLoop plugin (pure ()) fuel w = some (.ok (), { w with
            stdin := [], stdout := w.stdout ++ frames
            module := (plugin.stop w.now module).2
            calls := w.calls ++ calls ++ [.begin .stop, .finish .stop] }) := by
  have failsThere : w.stdin = lines.map .line ++ [.fail e] := by
    rw [reads, stdinReads_append earlier]
    simp [stdinReads, readChunk, undecodable]
  exact ⟨utf8Decode_error_cls undecodable,
    commandLoop_at_failed_read plugin w lines noStop e failsThere fuel enough⟩

end

theorem commandLoop_ends_at_invalid_byte :
    let good := ["KENNEL_COMMAND:\x7b\"type\": \"health_check\"\x7d\n".toUTF8.data.toList]
    let bad := [0xFF, 0x0A] ++ "KENNEL_STOP\n".toUTF8.data.toList
    let w := World.fresh (BaseModule.new (.lit "m") (.lit "m") (.lit "1.0.0") (.lit "") (.zero false))
      (stdinReads [] [] (good ++ [bad])) (.zero false)
    let lines := [text "KENNEL_COMMAND:\x7b\"type\": \"health_check\"\x7d\n"]
    let e := unicodeDecodeError bad 0 1 "invalid start byte"
    readChunks [] [] good = .ok (lines, [], []) ∧ utf8Decode ([] ++ bad) false = .error e ∧
      stopLine ∉ lines.map strip ∧ e.cls = text "UnicodeDecodeError" ∧
      ∃ frames calls module,
        CommandRun BaseModule.plugin w.now w.module (commandsBeforeStop lines) frames calls module ∧
          commandLoop BaseModule.plugin (pure ()) 2 w = some (.ok (), { w with
            stdin := [], stdout := w.stdout ++ frames
            module := (BaseModule.plugin.stop w.now module).2
            calls := w.calls ++ calls ++ [.begin .stop, .finish .stop] }) := by
  intro good bad w lines e
  have earlier : readChunks [] [] good = .ok (lines, [], []) := rfl
  have undecodable : utf8Decode ([] ++ bad) false = .error e := rfl
  have noStop : stopLine ∉ lines.map strip := by decide
  exact ⟨earlier, undecodable, noStop, commandLoop_ends_at_undecodable_chunk BaseModule.plugin w
    good bad [] lines [] [] e earlier undecodable rfl noStop 2 (by decide)⟩

theorem commandLoop_drops_chunk_with_invalid_line :
    let request :=
      "KENNEL_COMMAND:\x7b\"type\": \"request\", \"data\": \x7b\"id\": \"1\"\x7d\x7d\n".toUTF8.data.toList
    let stop := "KENNEL_STOP\n".toUTF8.data.toList
    let run := fun chunks : List (List UInt8) =>
      (commandLoop BaseModule.plugin (pure ()) 4
        (World.fresh (BaseModule.new (.lit "m") (.lit "m") (.lit "1.0.0") (.lit "") (.zero false))
          (stdinReads [] [] chunks) (.zero false))).map fun result =>
        (result.1, result.2.stdout, result.2.calls)
    run [request ++ [0xFF, 0x0A] ++ stop] = some (.ok (), [], [.begin .stop, .finish .stop]) ∧
      run [request ++ stop] = some (.ok (),
        [text ("KENNEL_RESPONSE:\x7b\"id\": \"1\", \"success\": false, \"data\": \x7b\x7d, " ++
          "\"metadata\": \x7b\x7d, \"error\": \x7b\"code\": \"not_implemented\", " ++
          "\"message\": \"\\u672a\\u5b9e\\u73b0\\u7684\\u64cd\\u4f5c: \"\x7d\x7d")],
        [.begin .handleRequest, .finish .handleRequest, .begin .stop, .finish .stop]) :=
  ⟨rfl, rfl⟩

end Runner
end Kennel
