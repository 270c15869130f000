import Kennel.Json.Encode
import Kennel.Sdk.Types

namespace Kennel
namespace Runner

open Python Sdk

/-!
# The harness as a Python program

The runner's methods are written as computations of `Py`, a state-and-exception monad over the
process's `World`: the plugin instance's own state, what `sys.stdin.readline()` will return,
the lines printed to standard output, the module operations begun and finished, and the signals
still to come.  A computation either has no result within its fuel (`none`, used for the
`while True` loop), or leaves its frame by returning or by raising, with the world as it then
is: Python does not undo side effects when it unwinds.

Three kinds of raise matter: an instance of `Exception`, which `except Exception` catches;
`KeyboardInterrupt`; and `SystemExit`, which `sys.exit` raises and no clause of the harness
catches.  `tryExcept`, `tryCatch` and `tryFinally` are the `try` statement's clauses.

Signals are delivered at the points where a computation calls `poll`.  The runner's code takes
`poll` as a parameter: in a run without signals it does nothing, and `Kennel.Runner.Signal`
gives the poll that runs `_handle_signal` when a signal is due.
-/

/-- How control leaves a Python frame other than by returning. -/
inductive Raised where
  /-- An instance of `Exception`. -/
  | error (e : PyExc)
  | keyboardInterrupt
  /-- `SystemExit(code)`. -/
  | systemExit (code : Int)
  deriving DecidableEq

/-- What one call of `sys.stdin.readline()` gives. -/
inductive ReadResult where
  /-- A line, with its line feed if it has one. -/
  | line (s : PyStr)
  /-- The read raised, as `UnicodeDecodeError` or an I/O error. -/
  | fail (e : PyExc)
  deriving DecidableEq

/-- The module operations the harness calls. -/
inductive Op where
  | init | start | stop | getInfo | handleRequest | handleEvent | checkHealth
  deriving DecidableEq, Repr

/-- A module operation beginning, or finishing by returning or raising. -/
inductive Call where
  | begin (op : Op)
  | finish (op : Op)
  deriving DecidableEq, Repr

/-- The process as the harness sees it; `σ` is the plugin instance's own state. -/
structure World (σ : Type) where
  module : σ
  /-- The results of the coming `readline` calls; past them the stream is at its end. -/
  stdin : List ReadResult
  /-- Lines written to standard output, oldest first, without their line feeds. -/
  stdout : List PyStr
  /-- Module operations begun and finished, oldest first. -/
  calls : List Call
  /-- At each coming poll point, whether a signal is delivered there. -/
  signals : List Bool
  /-- `time.time()`, one reading for the whole run: `check_health` reads the clock twice, and
  `handle_command`, `Event.__init__` and the example's `handle_request` read it again, and each
  is given this same value. -/
  now : PyFloat

/-- The process at its start, with `stdin` to read and no signal to come. -/
def World.fresh {σ : Type} (module : σ) (stdin : List ReadResult) (now : PyFloat) : World σ :=
  ⟨module, stdin, [], [], [], now⟩

/-- A computation of the harness. -/
def Py (σ α : Type) : Type :=
  World σ → Option (Except Raised α × World σ)

namespace Py

variable {σ α β : Type}

/-- Return `a`. -/
protected def pure (a : α) : Py σ α :=
  fun w => some (.ok a, w)

/-- Run `x`, then `f` on its result; a raise or a missing result passes through. -/
protected def bind (x : Py σ α) (f : α → Py σ β) : Py σ β :=
  fun w =>
    match x w with
    | none => none
    | some (.ok a, w') => f a w'
    | some (.error r, w') => some (.error r, w')

instance : Monad (Py σ) where
  pure := Py.pure
  bind := Py.bind

@[simp] theorem pure_apply (a : α) (w : World σ) : (pure a : Py σ α) w = some (.ok a, w) := rfl

@[simp] theorem pure_bind (a : α) (f : α → Py σ β) : (pure a >>= f) = f a := rfl

theorem bind_apply (x : Py σ α) (f : α → Py σ β) (w : World σ) :
    (x >>= f) w =
      match x w with
      | none => none
      | some (.ok a, w') => f a w'
      | some (.error r, w') => some (.error r, w') := rfl

theorem bind_ok {x : Py σ α} {f : α → Py σ β} {w w' : World σ} {a : α}
    (h : x w = some (.ok a, w')) : (x >>= f) w = f a w' := by
  rw [bind_apply, h]

theorem bind_raised {x : Py σ α} {f : α → Py σ β} {w w' : World σ} {r : Raised}
    (h : x w = some (.error r, w')) : (x >>= f) w = some (.error r, w') := by
  rw [bind_apply, h]

theorem bind_none {x : Py σ α} {f : α → Py σ β} {w : World σ} (h : x w = none) :
    (x >>= f) w = none := by
  rw [bind_apply, h]

theorem bind_assoc {γ : Type} (x : Py σ α) (f : α → Py σ β) (g : β → Py σ γ) :
    (x >>= f) >>= g = x >>= fun a => f a >>= g := by
  funext w
  simp only [bind_apply]
  rcases x w with _ | ⟨_ | _, _⟩ <;> rfl

/-- `raise`. -/
def throw (r : Raised) : Py σ α :=
  fun w => some (.error r, w)

/-- A fallible pure step; its exception is raised. -/
def lift : Except PyExc α → Py σ α
  | .ok a => Py.pure a
  | .error e => throw (.error e)

@[simp] theorem lift_ok (a : α) : Py.lift (.ok a : Except PyExc α) = (pure a : Py σ α) := rfl

@[simp] theorem lift_error (e : PyExc) : Py.lift (.error e : Except PyExc α) = (throw (.error e) : Py σ α) :=
  rfl

@[simp] theorem throw_bind (r : Raised) (f : α → Py σ β) : (throw r >>= f) = throw r := rfl

/-- `try: body` with one handler for whatever `body` raises; the handler re-raises what it
does not catch. -/
def tryCatch (body : Py σ α) (handler : Raised → Py σ α) : Py σ α :=
  fun w =>
    match body w with
    | some (.error r, w') => handler r w'
    | other => other

/-- `try: body except Exception as e: handler(e)`. -/
def tryExcept (body : Py σ α) (handler : PyExc → Py σ α) : Py σ α :=
  tryCatch body fun
    | .error e => handler e
    | r => throw r

@[simp] theorem tryExcept_pure (a : α) (handler : PyExc → Py σ α) :
    tryExcept (pure a) handler = pure a := rfl

@[simp] theorem tryExcept_throw (e : PyExc) (handler : PyExc → Py σ α) :
    tryExcept (throw (.error e)) handler = handler e := rfl

theorem tryExcept_of_ok {body : Py σ α} {handler : PyExc → Py σ α} {w w' : World σ} {a : α}
    (returns : body w = some (.ok a, w')) : tryExcept body handler w = some (.ok a, w') := by
  simp [tryExcept, tryCatch, returns]

theorem tryExcept_lift_bind (x : Except PyExc α) (f : α → Py σ β) (handler : PyExc → Py σ β) :
    tryExcept (Py.lift x >>= f) handler =
      match x with
      | .ok a => tryExcept (f a) handler
      | .error e => handler e := by
  cases x <;> rfl

/-- `try: body finally: cleanup`: the cleanup runs however `body` is left, and a raise in the
cleanup replaces the body's outcome. -/
def tryFinally (body : Py σ α) (cleanup : Py σ Unit) : Py σ α :=
  fun w =>
    match body w with
    | none => none
    | some (outcome, w') =>
        match cleanup w' with
        | none => none
        | some (.ok (), w'') => some (outcome, w'')
        | some (.error r, w'') => some (.error r, w'')

/-- `while True:` whose body answers whether to go on; each turn takes one unit of fuel, and
without fuel there is no result. -/
def loop (body : Py σ Bool) : Nat → Py σ Unit
  | 0 => fun _ => none
  | fuel + 1 => Py.bind body fun again => if again then loop body fuel else Py.pure ()

theorem loop_succ (body : Py σ Bool) (fuel : Nat) :
    loop body (fuel + 1) = (body >>= fun again => if again then loop body fuel else pure ()) := rfl

/-- Change the world. -/
def modify (f : World σ → World σ) : Py σ Unit :=
  fun w => some (.ok (), f w)

/-- Read the world. -/
def read : Py σ (World σ) :=
  fun w => some (.ok w, w)

end Py

end Runner
end Kennel
