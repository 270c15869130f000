import Kennel.Runner.Command

namespace Kennel
namespace Runner

open Python Sdk

/-!
# `command_loop`

The loop reads a line, strips it, skips it when it is empty, hands a `KENNEL_COMMAND:` line to
`handle_command`, and leaves on `KENNEL_STOP`; its `finally` clause calls `stop`.  Without
signals a command never raises out of `handle_command`, so the loop leaves only through a stop
line or a failing read.  At the end of the stream `readline` returns `""`, which the loop treats
as a blank line: a stream without a stop line keeps the loop turning for ever.

On input that holds a stop line, the loop is `handle_command` run on the command lines before
the first stop line, in order, followed by `stop`: `CommandRun` is that run, one frame per
command, each answering its command as `promisedFrame` says.
-/

section

variable {σ : Type} (plugin : Plugin σ)

theorem commandStep_at_end (w : World σ) (atEnd : w.stdin = []) :
    commandStep plugin (pure ()) w = some (.ok true, w) := by
  simp only [commandStep, readline, Py.pure_bind, Py.bind_apply, Py.read, atEnd]
  rfl

theorem commandStep_line (w : World σ) {s : PyStr} {rest : List ReadResult}
    (reads : w.stdin = .line s :: rest) :
    commandStep plugin (pure ()) w =
      (if (strip s).isEmpty then pure true
        else if startsWith (strip s) commandPrefix then do
          handleCommand plugin (pure ()) ((strip s).drop commandPrefix.length)
          pure true
        else if strip s = stopLine then do
          log (pure ()) "info"
          pure false
        else pure true) { w with stdin := rest } := by
  simp [commandStep, readline, Py.bind_apply, Py.read, Py.modify, reads]

theorem stopModule_run (w : World σ) :
    stopModule plugin (pure ()) w = some (.ok (), { w with
      module := (plugin.stop w.now w.module).2, calls := w.calls ++ [.begin .stop, .finish .stop] }) := by
  simp only [stopModule, log_info, Py.pure_bind, Py.tryExcept, Py.tryCatch, callOp_run]
  cases (plugin.stop w.now w.module).1 <;> simp [Py.throw, Py.bind_apply]

/-! ## Input without a stop line -/

/-- Input on which the loop never meets a stop: every read gives a line, and no line strips to
`KENNEL_STOP`. -/
def NoStop (stdin : List ReadResult) : Prop :=
  ∀ read ∈ stdin, ∃ s, read = .line s ∧ strip s ≠ stopLine

theorem commandStep_of_noStop (w : World σ) (quiet : NoStop w.stdin) :
    ∃ w', commandStep plugin (pure ()) w = some (.ok true, w') ∧ NoStop w'.stdin := by
  cases reads : w.stdin with
  | nil => exact ⟨w, commandStep_at_end plugin w reads, by simp [NoStop, reads]⟩
  | cons read rest =>
      rw [reads] at quiet
      obtain ⟨s, rfl, notStop⟩ := quiet _ (List.mem_cons_self _ _)
      have restQuiet : NoStop rest := fun r member => quiet r (List.mem_cons_of_mem _ member)
      rw [commandStep_line plugin w reads]
      split_ifs
      · exact ⟨_, rfl, restQuiet⟩
      · obtain ⟨frame, module, calls, answering⟩ :=
          handleCommand_answers plugin w.module w.now ((strip s).drop commandPrefix.length)
        exact ⟨_, by rw [Py.bind_apply, answering.runs { w with stdin := rest } rfl rfl]; rfl,
          restQuiet⟩
      · exact ⟨_, rfl, restQuiet⟩

theorem loop_of_noStop (fuel : Nat) (w : World σ) (quiet : NoStop w.stdin) :
    Py.loop (commandStep plugin (pure ())) fuel w = none := by
  induction fuel generalizing w with
  | zero => rfl
  | succ fuel more =>
      obtain ⟨w', step, quiet'⟩ := commandStep_of_noStop plugin w quiet
      simp [Py.loop, Py.bind, step, more w' quiet']

/-- Without signals, on input that never gives a stop line, `command_loop` has no result for
any fuel: past the end of the stream `readline` returns the empty string, which the loop skips
like a blank line, so the loop neither ends nor calls `stop`. -/
theorem commandLoop_never_returns_without_stop (fuel : Nat) (w : World σ) (quiet : NoStop w.stdin) :
    commandLoop plugin (pure ()) fuel w = none := by
  simp [commandLoop, Py.tryFinally, Py.tryCatch, Py.bind_apply, loop_of_noStop plugin fuel w quiet]

end

theorem commandLoop_never_returns_at_end_of_input :
    NoStop [] ∧
      commandLoop BaseModule.plugin (pure ()) 1000
        (World.fresh (BaseModule.new (.lit "m") (.lit "m") (.lit "1.0.0") (.lit "") (.zero false)) []
          (.zero false)) = none :=
  have atEnd : NoStop [] := by simp [NoStop]
  ⟨atEnd, commandLoop_never_returns_without_stop BaseModule.plugin 1000 _ atEnd⟩

section

variable {σ : Type} (plugin : Plugin σ)

/-! ## Input with a stop line -/

/-- The payloads of the command lines before the first line that strips to `KENNEL_STOP`. -/
def commandsBeforeStop : List PyStr → List PyStr
  | [] => []
  | s :: rest =>
      if strip s = stopLine then []
      else if startsWith (strip s) commandPrefix then
        (strip s).drop commandPrefix.length :: commandsBeforeStop rest
      else commandsBeforeStop rest

/-- The lines after the first line that strips to `KENNEL_STOP`. -/
def afterStop : List PyStr → List PyStr
  | [] => []
  | s :: rest => if strip s = stopLine then rest else afterStop rest

/-- `CommandRun plugin now module commands frames calls module'`: the commands, handled one after
another from the module state `module`, write `frames`, one each and in order, each answering
its command at the state it meets; they call `calls` and leave `module'`. -/
inductive CommandRun (plugin : Plugin σ) (now : PyFloat) :
    σ → List PyStr → List PyStr → List Call → σ → Prop
  | nil (module : σ) : CommandRun plugin now module [] [] [] module
  | cons {module module₁ module' : σ} {command frame : PyStr} {commands frames : List PyStr}
      {calls calls' : List Call} :
      Answering (handleCommand plugin (pure ()) command) module now
        (promisedFrame plugin module now command) frame module₁ calls →
      CommandRun plugin now module₁ commands frames calls' module' →
      CommandRun plugin now module (command :: commands) (frame :: frames) (calls ++ calls') module'

/-- Commands and their frames correspond one to one. -/
theorem CommandRun.length_eq {now : PyFloat} {module module' : σ} {commands frames : List PyStr}
    {calls : List Call} (run : CommandRun plugin now module commands frames calls module') :
    frames.length = commands.length := by
  induction run with
  | nil => rfl
  | cons _ _ same => simp [same]

/-- The loop reads `lines` one by one: it answers the command lines before the first stop line
in order and ends at that line; without one it goes on with the reads after `lines`. -/
theorem loop_lines (lines : List PyStr) (tail : List ReadResult) (w : World σ) (fuel : Nat)
    (reads : w.stdin = lines.map .line ++ tail) (enough : lines.length ≤ fuel) :
    ∃ frames calls module, CommandRun plugin w.now w.module (commandsBeforeStop lines) frames calls module ∧
      Py.loop (commandStep plugin (pure ())) fuel w =
        if stopLine ∈ lines.map strip then some (.ok (), { w with
          stdin := (afterStop lines).map .line ++ tail, stdout := w.stdout ++ frames
          module := module, calls := w.calls ++ calls })
        else Py.loop (commandStep plugin (pure ())) (fuel - lines.length) { w with
          stdin := tail, stdout := w.stdout ++ frames, module := module, calls := w.calls ++ calls } := by
  induction lines generalizing w fuel with
  | nil =>
      refine ⟨[], [], w.module, .nil _, ?_⟩
      cases w
      simp_all
  | cons s rest more =>
      obtain ⟨fuel, rfl⟩ : ∃ f, fuel = f + 1 := ⟨fuel - 1, by simp at enough; omega⟩
      have step := commandStep_line plugin w reads
      have restEnough : rest.length ≤ fuel := by simp at enough; omega
      rw [Py.loop_succ, Py.bind_apply, step]
      by_cases isStop : strip s = stopLine
      · have stopNonempty : stopLine ≠ [] := by decide
        have stopNotCommand : startsWith stopLine commandPrefix = false := by decide
        simp only [commandsBeforeStop, afterStop, isStop, if_true]
        refine ⟨[], [], w.module, .nil _, ?_⟩
        rw [if_pos (show stopLine ∈ (s :: rest).map strip by simp [isStop])]
        simp [stopNonempty, stopNotCommand, Py.bind_apply]
      · have notStop : stopLine ≠ strip s := Ne.symm isStop
        have remaining : fuel + 1 - (rest.length + 1) = fuel - rest.length := by omega
        by_cases command : startsWith (strip s) commandPrefix
        · have notEmpty : (strip s).isEmpty = false := by
            cases stripped : strip s with
            | nil => rw [stripped] at command; exact absurd command (by decide)
            | cons => rfl
          obtain ⟨frame, module₁, calls₁, answering⟩ :=
            handleCommand_answers plugin w.module w.now ((strip s).drop commandPrefix.length)
          obtain ⟨frames, calls, module', run, loops⟩ :=
            more { w with
              stdin := rest.map .line ++ tail, stdout := w.stdout ++ [frame], module := module₁
              calls := w.calls ++ calls₁ } fuel rfl restEnough
          simp only [commandsBeforeStop, afterStop, isStop, command, if_false, if_true]
          refine ⟨frame :: frames, calls₁ ++ calls, module', .cons answering run, ?_⟩
          simp [notEmpty, command, Py.bind_apply, notStop, remaining,
            answering.runs { w with stdin := rest.map .line ++ tail } rfl rfl, loops]
        · obtain ⟨frames, calls, module', run, loops⟩ :=
            more { w with stdin := rest.map .line ++ tail } fuel rfl restEnough
          simp only [commandsBeforeStop, afterStop, isStop, command, if_false]
          refine ⟨frames, calls, module', run, ?_⟩
          by_cases empty : (strip s).isEmpty <;>
            simp [empty, command, notStop, remaining, loops]

theorem loop_run (lines : List PyStr) (stops : stopLine ∈ lines.map strip) (w : World σ)
    (fuel : Nat) (reads : w.stdin = lines.map .line) (enough : lines.length ≤ fuel) :
    ∃ frames calls module, CommandRun plugin w.now w.module (commandsBeforeStop lines) frames calls module ∧
      Py.loop (commandStep plugin (pure ())) fuel w = some (.ok (), { w with
        stdin := (afterStop lines).map .line, stdout := w.stdout ++ frames, module := module,
        calls := w.calls ++ calls }) := by
  simpa [stops] using loop_lines plugin lines [] w fuel (by simp [reads]) enough

theorem commandLoop_run (w : World σ) (lines : List PyStr) (stops : stopLine ∈ lines.map strip)
    (reads : w.stdin = lines.map .line) (fuel : Nat) (enough : lines.length ≤ fuel) :
    ∃ frames calls module,
      CommandRun plugin w.now w.module (commandsBeforeStop lines) frames calls module ∧
        commandLoop plugin (pure ()) fuel w = some (.ok (), { w with
          stdin := (afterStop lines).map .line, stdout := w.stdout ++ frames
          module := (plugin.stop w.now module).2
          calls := w.calls ++ calls ++ [.begin .stop, .finish .stop] }) := by
  obtain ⟨frames, calls, module, run, loops⟩ := loop_run plugin lines stops w fuel reads enough
  refine ⟨frames, calls, module, run, ?_⟩
  simp [commandLoop, Py.tryFinally, Py.tryCatch, Py.bind_apply, loops, stopModule_run]

theorem commandStep_fail (w : World σ) {e : PyExc} {rest : List ReadResult}
    (reads : w.stdin = .fail e :: rest) :
    commandStep plugin (pure ()) w = some (.error (.error e), { w with stdin := rest }) := by
  simp [commandStep, readline, Py.bind_apply, Py.read, Py.modify, Py.throw, reads]

/-- A read that raises, after lines without a stop line, ends the loop: the command lines before
it are answered, the `except` clause logs the error, and `stop` is called once. -/
theorem commandLoop_at_failed_read (w : World σ) (lines : List PyStr)
    (noStop : stopLine ∉ lines.map strip) (e : PyExc) (reads : w.stdin = lines.map .line ++ [.fail e])
    (fuel : Nat) (enough : lines.length < fuel) :
    ∃ frames calls module,
      CommandRun plugin w.now w.module (commandsBeforeStop lines) frames calls module ∧
        commandLoop plugin (pure ()) fuel w = some (.ok (), { w with
          stdin := [], stdout := w.stdout ++ frames
          module := (plugin.stop w.now module).2
          calls := w.calls ++ calls ++ [.begin .stop, .finish .stop] }) := by
  obtain ⟨frames, calls, module, run, loops⟩ :=
    loop_lines plugin lines [.fail e] w fuel reads enough.le
  refine ⟨frames, calls, module, run, ?_⟩
  obtain ⟨left, remaining⟩ : ∃ f, fuel - lines.length = f + 1 := ⟨fuel - lines.length - 1, by omega⟩
  rw [if_neg noStop, remaining, Py.loop_succ, Py.bind_apply, commandStep_fail plugin _ rfl] at loops
  simp [commandLoop, loopFailed, Py.tryFinally, Py.tryCatch, Py.bind_apply, loops, stopModule_run]

/-- Without signals, on input lines that hold a stop line, `command_loop` reads the lines up to
the first stop line and no further, answers the command lines before it one to one and in
order, each with the frame `promisedFrame` promises or an error frame, and then calls `stop`
once.  For `BaseModule`, the response to a request carries the `id` of its `data`. -/
theorem commandLoop_answers_each_command (w : World σ) (lines : List PyStr)
    (stops : stopLine ∈ lines.map strip) (reads : w.stdin = lines.map .line) (fuel : Nat)
    (enough : lines.length ≤ fuel) :
    (∃ frames calls module,
      CommandRun plugin w.now w.module (commandsBeforeStop lines) frames calls module ∧
        commandLoop plugin (pure ()) fuel w = some (.ok (), { w with
          stdin := (afterStop lines).map .line, stdout := w.stdout ++ frames
          module := (plugin.stop w.now module).2
          calls := w.calls ++ calls ++ [.begin .stop, .finish .stop] })) ∧
      ∀ (data : Entries) (now : PyFloat) (m : BaseModule),
        (Request.fromDict (.dict data) >>= fun request =>
          (BaseModule.plugin.handleRequest request now m).1).map Response.id =
            .ok (Entries.get data (text "id") (.lit "")) :=
  ⟨commandLoop_run plugin w lines stops reads fuel enough, fun _ _ _ => rfl⟩

end

theorem commandLoop_answers_health_check :
    let lines := [text "KENNEL_COMMAND:\x7b\"type\": \"health_check\"\x7d", text "KENNEL_STOP"]
    let w := World.fresh (BaseModule.new (.lit "m") (.lit "m") (.lit "1.0.0") (.lit "") (.zero false))
      (lines.map .line) (.zero false)
    stopLine ∈ lines.map strip ∧ w.stdin = lines.map .line ∧ lines.length ≤ 2 ∧
      ∃ frames calls module,
        CommandRun BaseModule.plugin w.now w.module (commandsBeforeStop lines) frames calls module ∧
          commandLoop BaseModule.plugin (pure ()) 2 w = some (.ok (), { w with
            stdin := (afterStop lines).map .line, stdout := w.stdout ++ frames
            module := (BaseModule.plugin.stop w.now module).2
            calls := w.calls ++ calls ++ [.begin .stop, .finish .stop] }) := by
  intro lines w
  have stops : stopLine ∈ lines.map strip := by decide
  exact ⟨stops, rfl, by decide,
    (commandLoop_answers_each_command BaseModule.plugin w lines stops rfl 2 (by decide)).1⟩

/-- `BaseModule` with a `check_health` that raises. -/
def failingHealth : Plugin BaseModule :=
  { BaseModule.plugin with
    checkHealth := fun _ m => (.error ⟨text "RuntimeError", text "database unreachable"⟩, m) }

theorem commandLoop_reports_failing_health_check :
    (commandLoop failingHealth (pure ()) 2
        (World.fresh (BaseModule.new (.lit "m") (.lit "m") (.lit "1.0.0") (.lit "") (.zero false))
          [.line (text "KENNEL_COMMAND:\x7b\"type\": \"health_check\"\x7d"),
            .line (text "KENNEL_STOP")] (.zero false))).map (fun run => run.2.stdout) =
      some [text "KENNEL_ERROR:\x7b\"error\": \"database unreachable\"\x7d"] :=
  rfl

end Runner
end Kennel
