import Kennel.Python.Str
import Kennel.Python.Logging

namespace Kennel
namespace Sdk

open Python

/-!
# The SDK's `Logger`

The harness logs through a `Logger` from `create_logger`.  Its records go to the standard error
stream, which the protocol does not read, so a logging call has no effect the harness's model
keeps; what it can do is fail before it runs, when the method it names does not exist.  A method
call `logger.m(...)` first looks `m` up on the instance, and `Logger` defines `trace`, `debug`,
`info`, `warn` and `error`, but no `warning`.

What a `Logger` writes is the business of the `logging` module (`Kennel.Python.Logging`).
`self.logger` is the process-wide logger of the name, so every `Logger` built on one name shares
it, and each `Logger.__init__` adds one more handler to it.  `with_fields` builds such a second
`Logger` on its own name, points it at its own logger, and installs a filter there that sets the
fields as attributes of the record, which the format never prints.  So the derived `Logger` is
its parent, field for field, and from then on every record of the shared logger is written once
more (`withFields_repeats_records`).
-/
/-- The levels of `LogLevel`. -/
inductive LogLevel where
  | trace | debug | info | warn | error | off
  deriving DecidableEq, Repr

namespace LogLevel

/-- `LogLevel(...).value`. -/
def value : LogLevel → Nat
  | .trace => 5 | .debug => 10 | .info => 20 | .warn => 30 | .error => 40 | .off => 100

end LogLevel

/-- `create_logger(name, level)`'s reading of the level name: unknown names give `INFO`. -/
def levelOfName (level : PyStr) : LogLevel :=
  let name := asciiLower level
  if name = text "trace" then .trace
  else if name = text "debug" then .debug
  else if name = text "info" then .info
  else if name = text "warn" then .warn
  else if name = text "error" then .error
  else if name = text "off" then .off
  else .info

namespace Logger

/-- The attributes a `Logger` instance has: the two `__init__` sets and the methods of its
class. -/
def attributes : List PyStr :=
  [text "name", text "logger", text "trace", text "debug", text "info", text "warn",
    text "error", text "_log", text "with_fields", text "named", text "get_level",
    text "set_level", text "set_output"]

/-- `logger.name` for an attribute `name`: present, or `AttributeError`. -/
def lookup (name : PyStr) : Except PyExc Unit :=
  if attributes.contains name then .ok () else .error (attributeError (text "Logger") name)

@[simp] theorem lookup_info : lookup (text "info") = .ok () := by decide

@[simp] theorem lookup_error : lookup (text "error") = .ok () := by decide

theorem lookup_warning :
    lookup (text "warning") =
      .error ⟨text "AttributeError", text "'Logger' object has no attribute 'warning'"⟩ := by
  decide

end Logger

/-! ## What a `Logger` writes -/

open Logging

/-- `LogLevel(value)`: `ValueError` for a value that is none of the six. -/
def LogLevel.ofValue (value : Nat) : Except PyExc LogLevel :=
  if value = 5 then .ok .trace
  else if value = 10 then .ok .debug
  else if value = 20 then .ok .info
  else if value = 30 then .ok .warn
  else if value = 40 then .ok .error
  else if value = 100 then .ok .off
  else .error ⟨text "ValueError", natRepr value ++ text " is not a valid LogLevel"⟩

@[simp] theorem LogLevel.ofValue_value (level : LogLevel) : LogLevel.ofValue level.value = .ok level := by
  cases level <;> rfl

/-- A `Logger` of the SDK: its name, and `self.logger`. -/
structure Logger where
  name : PyStr
  logger : LoggerRef

namespace Logger

/-- `Logger.__init__(name, level)`: `logging.getLogger(name)`, its level set, and one more
handler on standard error. -/
def init (name : PyStr) (level : LogLevel) (s : State) : Logger × State :=
  let got := getLogger name s
  (⟨name, got.1⟩, got.2.modify got.1 fun l => { l with level := level.value, handlers := l.handlers + 1 })

/-- `with_fields(**fields)`: a new `Logger` of the same name, which adds a handler to the shared
logger, is pointed at this one's logger, and a `FieldFilter` with the fields is installed
there. -/
def withFields (L : Logger) (fields : List (PyStr × PyVal)) (s : State) :
    Except PyExc (Logger × State) := do
  let level ← LogLevel.ofValue (s.levelOf L.logger)
  let made := init L.name level s
  pure ({ made.1 with logger := L.logger },
    made.2.modify L.logger fun l => { l with filters := l.filters ++ [fields] })

/-- `named(name)`: `Logger(f"{self.name}.{name}", LogLevel(self.logger.level))`. -/
def named (L : Logger) (name : PyStr) (s : State) : Except PyExc (Logger × State) := do
  let level ← LogLevel.ofValue (s.levelOf L.logger)
  pure (init (L.name ++ text "." ++ name) level s)

/-- `get_level()`: `LogLevel(self.logger.level)`. -/
def getLevel (L : Logger) (s : State) : Except PyExc LogLevel :=
  LogLevel.ofValue (s.levelOf L.logger)

/-- `set_level(level)`. -/
def setLevel (L : Logger) (level : LogLevel) (s : State) : State :=
  s.modify L.logger fun l => { l with level := level.value }

/-- The message `_log` passes on: the call's fields appended as `k=repr(v)`, separated by
spaces. -/
def logText (msg : PyStr) (fields : List (PyStr × PyVal)) : PyStr :=
  if fields.isEmpty then msg
  else msg ++ text " " ++ (text " ").intercalate (fields.map fun field => field.1 ++ text "=" ++ field.2.repr)

/-- The lines one `_log(level, msg, fields)` writes at the time `asctime`: none below the
effective level, else those of `self.logger.log(level, msg)`. -/
def records (L : Logger) (level : Nat) (msg : PyStr) (fields : List (PyStr × PyVal))
    (asctime : PyStr) (s : State) : Option (List PyStr) :=
  if s.isEnabledFor L.logger level then s.emit L.logger level (logText msg fields) asctime
  else some []

/-- `_log(level, msg, fields)`: the lines are appended to standard error.  `trace`, `debug`,
`info`, `warn` and `error` are `_log` at their level's value. -/
def log (L : Logger) (level : Nat) (msg : PyStr) (fields : List (PyStr × PyVal)) (asctime : PyStr)
    (s : State) : Option State :=
  (L.records level msg fields asctime s).map fun written => { s with stderr := s.stderr ++ written }

end Logger

/-- `create_logger(name, level)`. -/
def createLogger (name level : PyStr) (s : State) : Logger × State :=
  Logger.init name (levelOfName level) s

/-! ## The states a process reaches -/

/-- The states of `logging` a process reaches through the SDK from its start: `create_logger`,
and `with_fields`, `named`, `set_level` and the logging methods on any `Logger`. -/
inductive Reachable : State → Prop
  | start : Reachable .initial
  | create {s : State} (name level : PyStr) : Reachable s → Reachable (createLogger name level s).2
  | withFields {s s' : State} (L L' : Logger) (fields : List (PyStr × PyVal)) :
      Reachable s → L.withFields fields s = .ok (L', s') → Reachable s'
  | named {s s' : State} (L L' : Logger) (name : PyStr) :
      Reachable s → L.named name s = .ok (L', s') → Reachable s'
  | setLevel {s : State} (L : Logger) (level : LogLevel) : Reachable s → Reachable (L.setLevel level s)
  | log {s s' : State} (L : Logger) (level : Nat) (msg : PyStr) (fields : List (PyStr × PyVal))
      (asctime : PyStr) : Reachable s → L.log level msg fields asctime s = some s' → Reachable s'

namespace Logger

variable {s s' : State}

theorem init_wellFormed (name : PyStr) (level : LogLevel) (wf : s.WellFormed) :
    (init name level s).2.WellFormed :=
  State.modify_wellFormed _ (fun _ => rfl) (State.getLogger_wellFormed name wf)

theorem withFields_wellFormed {L L' : Logger} {fields : List (PyStr × PyVal)}
    (made : L.withFields fields s = .ok (L', s')) (wf : s.WellFormed) : s'.WellFormed := by
  obtain ⟨level, -, made⟩ := except_bind_eq_ok.mp made
  cases made
  exact State.modify_wellFormed _ (fun _ => rfl) (init_wellFormed L.name level wf)

theorem named_wellFormed {L L' : Logger} {name : PyStr} (made : L.named name s = .ok (L', s'))
    (wf : s.WellFormed) : s'.WellFormed := by
  obtain ⟨level, -, made⟩ := except_bind_eq_ok.mp made
  cases made
  exact init_wellFormed _ level wf

theorem log_wellFormed {L : Logger} {level : Nat} {msg asctime : PyStr}
    {fields : List (PyStr × PyVal)} (logged : L.log level msg fields asctime s = some s')
    (wf : s.WellFormed) : s'.WellFormed := by
  obtain ⟨written, -, rfl⟩ := Option.map_eq_some'.mp logged
  exact wf

end Logger

/-- Every state the SDK reaches keeps the manager's shape. -/
theorem Reachable.wellFormed {s : State} (reached : Reachable s) : s.WellFormed := by
  induction reached with
  | start => exact fun _ _ found => nomatch found
  | create name level _ wf => exact Logger.init_wellFormed name _ wf
  | withFields _ _ _ _ made wf => exact Logger.withFields_wellFormed made wf
  | named _ _ _ _ made wf => exact Logger.named_wellFormed made wf
  | setLevel L level _ wf => exact State.modify_wellFormed _ (fun _ => rfl) wf
  | log _ _ _ _ _ _ logged wf => exact Logger.log_wellFormed logged wf

namespace Logger

/-- A `Logger` as the SDK builds it in state `s`: `self.logger` is the logger of its name, and
that logger exists, has a handler, and has a level `LogLevel` accepts. -/
structure Live (L : Logger) (s : State) : Prop where
  refers : L.logger = refOf L.name
  served : ∃ l level, s.logger L.logger = some l ∧ 0 < l.handlers ∧ l.level = LogLevel.value level

/-- Every `Logger` that `Logger.__init__` builds is live. -/
theorem init_live (name : PyStr) (level : LogLevel) (s : State) :
    (init name level s).1.Live (init name level s).2 := by
  obtain ⟨l, found⟩ := getLogger_logger name s
  refine ⟨getLogger_fst name s, { l with level := level.value, handlers := l.handlers + 1 }, level, ?_,
    Nat.succ_pos _, rfl⟩
  simp [init, State.logger_modify, found]

/-! ## `with_fields` writes every record once more -/

/-- `P.with_fields(**fields)`, for fields that name no attribute a record prints or the module
reads, returns a `Logger` equal to `P`: same name, same `logging.Logger`.  From then on every call
through either writes each of its lines once more than a call through `P` wrote before, and the
fields appear in none of them. -/
theorem withFields_repeats_records {s : State} (reached : Reachable s) {P : Logger}
    (live : P.Live s) (fields : List (PyStr × PyVal))
    (unread : ∀ field ∈ fields, field.1 ∉ recordAttributes) :
    ∃ s', P.withFields fields s = .ok (P, s') ∧
      ∀ level msg kwargs asctime, P.records level msg kwargs asctime s' =
        (P.records level msg kwargs asctime s).map fun written => written ++ written.take 1 := by
  obtain ⟨refers, l, level, found, served, leveled⟩ := live
  -- the shared logger gets a handler and the filter, at the level it had
  let added : LoggerState → LoggerState := fun l =>
    { l with level := level.value, handlers := l.handlers + 1, filters := l.filters ++ [fields] }
  have made : P.withFields fields s = .ok (P, s.modify P.logger added) := by
    have again : getLogger P.name s = (P.logger, s) := refers ▸ getLogger_of_logger (refers ▸ found)
    simp [withFields, init, State.levelOf, found, leveled, again, State.modify_modify]
    rfl
  refine ⟨_, made, fun lvl msg kwargs asctime => ?_⟩
  have named : P.logger ≠ some [] := refers ▸ refOf_ne_some_nil P.name
  obtain ⟨rest, before, after⟩ := State.path_modify reached.wellFormed named found (f := added) rfl
  have found' : (s.modify P.logger added).logger P.logger = some (added l) := by
    simp [State.logger_modify, found]
  have sameLevel := @effectiveLevel_cons_of_level (added l) l leveled.symm rest
  simp only [records, State.isEnabledFor, State.emit_of_path found before,
    State.emit_of_path found' after, before, after, sameLevel]
  rw [LogRecord.applyFilters_append]
  simp only [LogRecord.applyFields_of_unread unread, Option.bind_some]
  split_ifs
  · cases LogRecord.applyFilters _ l.filters with
    | none => rfl
    | some record =>
      simp only [Option.map_some', Nat.add_right_comm l.handlers 1]
      rw [handled_succ (by omega)]
  all_goals rfl

/-- `create_logger("plugin").with_fields(user="u")`. -/
theorem withFields_repeats_records_of_plugin :
    ∃ s', (createLogger (text "plugin") (text "info") .initial).1.withFields
        [(text "user", .str (text "u"))] (createLogger (text "plugin") (text "info") .initial).2 =
        .ok ((createLogger (text "plugin") (text "info") .initial).1, s') ∧
      ∀ level msg kwargs asctime,
        (createLogger (text "plugin") (text "info") .initial).1.records level msg kwargs asctime s' =
          ((createLogger (text "plugin") (text "info") .initial).1.records level msg kwargs asctime
            (createLogger (text "plugin") (text "info") .initial).2).map
            fun written => written ++ written.take 1 :=
  withFields_repeats_records (.create _ _ .start) (init_live _ _ _) _ (by decide)

/- The derived logger's `info("started")`: two lines, and no `user='u'`. -/
example :
    (match (createLogger (text "plugin") (text "info") .initial).1.withFields
        [(text "user", .str (text "u"))] (createLogger (text "plugin") (text "info") .initial).2 with
      | .ok (L, s) => L.records 20 (text "started") [] (text "t") s
      | .error _ => none) =
      some [text "t - plugin - INFO - started", text "t - plugin - INFO - started"] := by
  decide

/- A `named` child's record also goes to its parent's handler. -/
example :
    (match (createLogger (text "plugin") (text "info") .initial).1.named (text "x")
        (createLogger (text "plugin") (text "info") .initial).2 with
      | .ok (C, s) => C.records 20 (text "hi") [] (text "t") s
      | .error _ => none) =
      some [text "t - plugin.x - INFO - hi", text "t - plugin.x - INFO - hi"] := by
  decide

end Logger

end Sdk
end Kennel
