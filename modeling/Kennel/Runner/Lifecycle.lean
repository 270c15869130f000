import Kennel.Runner.Loop

namespace Kennel
namespace Runner

open Python Sdk

/-!
# `run` and the module's lifecycle

`run` parses the configuration, calls `init`, `start` and `get_info`, writes the readiness
frame and enters `command_loop`, all inside one `try`.  Its `except Exception` clause reports
any exception raised there as a failed start and exits with status 1, so an exception from
`get_info`, or a readiness announcement that does not encode, ends the process after `start`
returned, without `stop`.  `startup` is this sequence of steps as the spec states it, and
`Phase` the lifecycle automaton the calls follow.
-/

/-- The states of the module's lifecycle: `init → start → get_info → (handlers)* → stop`. -/
inductive Phase where
  | created | initialized | started | serving | stopped
  deriving DecidableEq, Repr

namespace Phase

/-- The automaton's transition on one module operation. -/
def next : Phase → Op → Option Phase
  | .created, .init => some .initialized
  | .initialized, .start => some .started
  | .started, .getInfo => some .serving
  | .serving, .handleRequest => some .serving
  | .serving, .handleEvent => some .serving
  | .serving, .checkHealth => some .serving
  | .serving, .stop => some .stopped
  | _, _ => none

/-- The phase after a sequence of calls in which each operation begins and then finishes;
`none` when the sequence leaves the automaton. -/
def after : Phase → List Call → Option Phase
  | p, [] => some p
  | p, .begin op :: .finish op' :: rest => if op = op' then (p.next op).bind (after · rest) else none
  | _, _ => none

end Phase

section

variable {σ : Type} (plugin : Plugin σ)

example : Phase.created.after [.begin .init, .finish .init, .begin .start, .finish .start,
    .begin .getInfo, .finish .getInfo, .begin .checkHealth, .finish .checkHealth,
    .begin .stop, .finish .stop] = some .stopped := by decide

/-- The startup's three calls lead to `serving`. -/
theorem after_startup (rest : List Call) :
    Phase.created.after ([.begin .init, .finish .init, .begin .start, .finish .start,
      .begin .getInfo, .finish .getInfo] ++ rest) = Phase.serving.after rest := rfl

theorem CommandRun.after_serving {now : PyFloat} {module module' : σ} {commands frames : List PyStr}
    {calls : List Call} (run : CommandRun plugin now module commands frames calls module')
    (rest : List Call) : Phase.serving.after (calls ++ rest) = Phase.serving.after rest := by
  induction run with
  | nil => rfl
  | cons answering _ more =>
      rcases answering.handlers with rfl | ⟨op, handler, rfl⟩
      · simpa using more
      · simp only [List.mem_cons, List.mem_singleton, List.not_mem_nil, or_false] at handler
        rcases handler with rfl | rfl | rfl <;> simp [Phase.after, Phase.next, more]

theorem runFailed_run (pluginId : PyStr) (e : PyExc) (w : World σ) :
    ∃ body, Json.encode (errorInfo pluginId e) = .ok body ∧
      runFailed (pure ()) pluginId e w = some (.error (.systemExit 1), { w with
        stdout := w.stdout ++ [text pluginErrorTag ++ text ":" ++ body] }) := by
  cases encodes : Json.encode (errorInfo pluginId e) with
  | error _ =>
      simp [errorInfo, Json.encode, Json.encodeEntry, Json.encodeEntries, Json.keyText, PyVal.lit] at encodes
  | ok body => exact ⟨body, rfl, by simp [runFailed, emit_run, encodes, Py.bind_apply, Py.throw]⟩
/-- The startup of `run` as the spec describes it: parse the configuration, call `init`, `start`
and `get_info`, each on the state the one before left, and encode the readiness announcement; the
first of these that raises ends it.  It gives the body of the readiness frame and the module
state. -/
def startup (now : PyFloat) (module : σ) (pluginId configJson : PyStr) :
    Except PyExc (PyStr × σ) := do
  let config ← Json.loads configJson
  let (initialized, module) := plugin.init config now module
  initialized
  let (started, module) := plugin.start now module
  started
  let (info, module) := plugin.getInfo now module
  let info ← info
  let body ← Json.encode (readyInfo pluginId info)
  pure (body, module)

/-- Without signals, on input lines that hold a stop line, `run` either starts, when `startup`
succeeds: it writes the readiness frame first and then only the frames of the commands, calls
the operations along the whole lifecycle with one `stop` at the end, and exits with status 0;
or fails, when `startup` raises: it writes the one `KENNEL_PLUGIN_ERROR` frame reporting that
exception, stops the lifecycle before `stop`, and exits with status 1. -/
theorem run_follows_lifecycle (module : σ) (now : PyFloat) (pluginId configJson : PyStr)
    (lines : List PyStr) (stops : stopLine ∈ lines.map strip) (fuel : Nat)
    (enough : lines.length ≤ fuel) :
    ∃ outcome w, run plugin (pure ()) fuel pluginId configJson
        (World.fresh module (lines.map .line) now) = some (outcome, w) ∧
      match startup plugin now module pluginId configJson with
      | .ok (body, started) =>
          exitStatus outcome = 0 ∧ Phase.created.after w.calls = some .stopped ∧
            ∃ frames calls served,
              CommandRun plugin now started (commandsBeforeStop lines) frames calls served ∧
                w.stdout = (text readyTag ++ text ":" ++ body) :: frames
      | .error e =>
          exitStatus outcome = 1 ∧
            (∃ phase, Phase.created.after w.calls = some phase ∧ phase ≠ .stopped) ∧
            ∃ body, Json.encode (errorInfo pluginId e) = .ok body ∧
              w.stdout = [text pluginErrorTag ++ text ":" ++ body] := by
  unfold run startup
  simp only [log_info, Py.pure_bind]
  cases decodes : Json.loads configJson with
  | error e =>
      obtain ⟨body, encodes, fails⟩ := runFailed_run pluginId e (World.fresh module (lines.map .line) now)
      refine ⟨_, _, by simpa using fails, ?_⟩
      simp [exitStatus, encodes, World.fresh, Phase.after]
  | ok config =>
      simp only [Py.lift_ok, Py.pure_bind]
      rw [tryExcept_callOp_bind]
      simp only [World.fresh, except_ok_bind]
      rcases initd : plugin.init config now module with ⟨initialized, module₁⟩
      cases initialized with
      | error e =>
          obtain ⟨body, encodes, fails⟩ := runFailed_run pluginId e
            ⟨module₁, lines.map .line, [], [.begin .init, .finish .init], [], now⟩
          exact ⟨_, _, by simpa using fails, by simp [exitStatus, encodes, Phase.after, Phase.next]⟩
      | ok _ =>
          simp only [except_ok_bind]
          rw [tryExcept_callOp_bind]
          rcases startd : plugin.start now module₁ with ⟨started, module₂⟩
          cases started with
          | error e =>
              obtain ⟨body, encodes, fails⟩ := runFailed_run pluginId e
                ⟨module₂, lines.map .line, [], [.begin .init, .finish .init, .begin .start, .finish .start], [], now⟩
              exact ⟨_, _, by simpa using fails, by simp [exitStatus, encodes, Phase.after, Phase.next]⟩
          | ok _ =>
              simp only [except_ok_bind]
              rw [tryExcept_callOp_bind]
              dsimp only
              rcases infod : plugin.getInfo now module₂ with ⟨info, module₃⟩
              cases info with
              | error e =>
                  obtain ⟨body, encodes, fails⟩ := runFailed_run pluginId e
                    ⟨module₃, lines.map .line, [], [.begin .init, .finish .init, .begin .start,
                      .finish .start, .begin .getInfo, .finish .getInfo], [], now⟩
                  exact ⟨_, _, by simpa using fails, by simp [exitStatus, encodes, Phase.after, Phase.next]⟩
              | ok info =>
                  simp only [except_ok_bind]
                  rw [tryExcept_emit_bind]
                  cases ready : Json.encode (readyInfo pluginId info) with
                  | error e =>
                      obtain ⟨body, encodes, fails⟩ := runFailed_run pluginId e
                        ⟨module₃, lines.map .line, [], [.begin .init, .finish .init, .begin .start,
                          .finish .start, .begin .getInfo, .finish .getInfo], [], now⟩
                      exact ⟨_, _, by simpa using fails,
                        by simp [exitStatus, encodes, Phase.after, Phase.next]⟩
                  | ok body =>
                      obtain ⟨frames, calls, served, run, loops⟩ := commandLoop_run plugin
                        ⟨module₃, lines.map .line, [text readyTag ++ text ":" ++ body],
                          [.begin .init, .finish .init, .begin .start, .finish .start,
                            .begin .getInfo, .finish .getInfo], [], now⟩ lines stops rfl fuel enough
                      refine ⟨_, _, Py.tryExcept_of_ok (by simpa using loops), ?_⟩
                      exact ⟨rfl, (after_startup _).trans ((CommandRun.after_serving plugin run _).trans rfl),
                        frames, calls, served, run, rfl⟩

end

theorem run_starts_and_stops :
    let lines := [text "KENNEL_STOP"]
    let module := BaseModule.new (.lit "m") (.lit "m") (.lit "1.0.0") (.lit "") (.zero false)
    stopLine ∈ lines.map strip ∧ lines.length ≤ 1 ∧
      ∃ outcome w, run BaseModule.plugin (pure ()) 1 (text "m") (text "\x7b\x7d")
          (World.fresh module (lines.map .line) (.zero false)) = some (outcome, w) ∧
        match startup BaseModule.plugin (.zero false) module (text "m") (text "\x7b\x7d") with
        | .ok (body, started) =>
            exitStatus outcome = 0 ∧ Phase.created.after w.calls = some .stopped ∧
              ∃ frames calls served,
                CommandRun BaseModule.plugin (.zero false) started (commandsBeforeStop lines) frames
                  calls served ∧
                  w.stdout = (text readyTag ++ text ":" ++ body) :: frames
        | .error e =>
            exitStatus outcome = 1 ∧
              (∃ phase, Phase.created.after w.calls = some phase ∧ phase ≠ .stopped) ∧
              ∃ body, Json.encode (errorInfo (text "m") e) = .ok body ∧
                w.stdout = [text pluginErrorTag ++ text ":" ++ body] := by
  intro lines module
  have stops : stopLine ∈ lines.map strip := by decide
  exact ⟨stops, le_refl _, run_follows_lifecycle BaseModule.plugin module (.zero false) (text "m")
    (text "\x7b\x7d") lines stops 1 (le_refl _)⟩

/-- `BaseModule` with a `get_info` that raises. -/
def failingInfo : Plugin BaseModule :=
  { BaseModule.plugin with
    getInfo := fun _ m => (.error ⟨text "RuntimeError", text "no info"⟩, m) }

theorem run_skips_stop_after_start_returned :
    (run failingInfo (pure ()) 1 (text "m") (text "\x7b\x7d")
        (World.fresh (BaseModule.new (.lit "m") (.lit "m") (.lit "1.0.0") (.lit "") (.zero false))
          [.line (text "KENNEL_STOP")] (.zero false))).map
        (fun run => (exitStatus run.1, run.2.calls, run.2.stdout)) =
      some (1, [.begin .init, .finish .init, .begin .start, .finish .start, .begin .getInfo,
          .finish .getInfo],
        [text "KENNEL_PLUGIN_ERROR:\x7b\"status\": \"error\", \"plugin_id\": \"m\", \"error\": \"no info\"\x7d"]) :=
  rfl

end Runner
end Kennel
