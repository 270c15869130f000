import Kennel.Runner.Harness

namespace Kennel
namespace Runner

open Python Sdk

/-!
# Signals

`run` installs `_handle_signal` for `SIGINT` and `SIGTERM`.  The handler runs in the main thread
at the point the signal lands, calls `stop`, and leaves through `sys.exit(0)`, which raises
`SystemExit`.  That exception is not an `Exception`: it passes every `except Exception` of the
harness and the `finally` clause of `command_loop`, which calls `stop` once more.

A run with signals polls through `interrupt`: each poll point takes the next entry of the
world's schedule and runs the handler when a signal is due there.  The handler's own poll points
deliver signals too, with one level of nesting less; a depth at least the schedule's length
drops no signal, as every nested handler takes an entry of the schedule.
-/

section

variable {σ : Type} (plugin : Plugin σ)

/-- `_handle_signal(signum, frame)`. -/
def handleSignal (poll : Py σ Unit) : Py σ Unit := do
  log poll "info"
  Py.tryExcept (callOp poll .stop plugin.stop) fun _ => log poll "error"
  poll
  Py.throw (.systemExit 0)

/-- The poll of a run with signals, handlers nested at most `depth` deep. -/
def interrupt : Nat → Py σ Unit
  | 0 => pure ()
  | depth + 1 => do
      let w ← Py.read
      match w.signals with
      | [] => pure ()
      | due :: rest => do
          Py.modify fun w => { w with signals := rest }
          if due then handleSignal plugin (interrupt depth) else pure ()

end

/-- A `BaseModule` process that has read nothing yet, under a signal schedule. -/
def signalled (schedule : List Bool) : World BaseModule :=
  { World.fresh (BaseModule.new (.lit "m") (.lit "m") (.lit "1.0.0") (.lit "") (.zero false)) []
      (.zero false) with signals := schedule }

theorem run_stops_twice_on_signal :
    (run BaseModule.plugin (interrupt BaseModule.plugin 1) 1 (text "m") (text "\x7b\x7d")
        (signalled (List.replicate 10 false ++ [true]))).map (fun run => (run.1, run.2.calls)) =
      some (.error (.systemExit 0), [.begin .init, .finish .init, .begin .start, .finish .start,
        .begin .getInfo, .finish .getInfo, .begin .stop, .finish .stop, .begin .stop, .finish .stop]) ∧
    (run BaseModule.plugin (interrupt BaseModule.plugin 1) 1 (text "m") (text "\x7b\x7d")
        (signalled [false, false, true])).map (fun run => (run.1, run.2.calls)) =
      some (.error (.systemExit 0), [.begin .init, .begin .stop, .finish .stop]) :=
  ⟨rfl, rfl⟩

end Runner
end Kennel
