import Kennel.Sdk.Logger
import Kennel.Python.Hierarchy

namespace Kennel
namespace Sdk

open Python Logging

/-!
# The `Logger`s the SDK hands out stay live

`get_level`, `named` and `with_fields` read `LogLevel(self.logger.level)`, which raises
`ValueError` for a level that is none of `LogLevel`'s.  No `Logger` the SDK hands out meets one.
`logging.getLogger` keeps the level and the handlers of every logger it does not create: it only
changes parents.  Each `Logger.__init__` and each `set_level` sets a level of `LogLevel`, and no
call of the SDK takes a handler away (`set_output`, which does, is left out of the model).  So
every `Logger` a process holds keeps a logger with a handler and a level of `LogLevel` through
any sequence of calls (`Issued.live`), and those three methods never raise
(`Issued.loggers_never_raise`).
-/

/-! ## What `getLogger` keeps -/

section Keep

variable {d : List (PyStr × Entry)} {name key : PyStr} {l : LoggerState}

@[simp] theorem adopt_level (name : PyStr) (l : LoggerState) : (adopt name l).level = l.level := by
  unfold adopt
  split <;> rfl

@[simp] theorem adopt_handlers (name : PyStr) (l : LoggerState) : (adopt name l).handlers = l.handlers := by
  unfold adopt
  split <;> rfl

/-- The new logger takes its parent; every other logger stays as it was. -/
theorem findEntry_attach_of_ne (other : key ≠ name) (found : findEntry d key = some (.logger l)) :
    findEntry (attach name d) key = some (.logger l) := by
  unfold attach
  dsimp only
  split
  · rw [findEntry_setEntry, if_neg other, findEntry_fixupParents_of_logger found]
  · exact findEntry_fixupParents_of_logger found

/-- `getLogger` keeps the level and the handlers of every logger there before. -/
theorem logger_getLogger {s : State} {ref : LoggerRef} (found : s.logger ref = some l) :
    ∃ l', (getLogger name s).2.logger ref = some l' ∧ l'.level = l.level ∧ l'.handlers = l.handlers := by
  have sameRoot : (getLogger name s).2.root = s.root := by
    unfold getLogger
    split
    · rfl
    · split <;> rfl
  cases ref with
  | none => exact ⟨l, by rw [← found]; exact congrArg some sameRoot, rfl, rfl⟩
  | some key =>
    have found := State.logger_some.mp found
    unfold getLogger
    split
    · exact ⟨l, State.logger_some.mpr found, rfl, rfl⟩
    · split
      · exact ⟨l, State.logger_some.mpr found, rfl, rfl⟩
      · next below placeholder =>
        have other : key ≠ name := by
          rintro rfl
          rw [found] at placeholder
          cases placeholder
        have at' : findEntry (setEntry s.loggerDict name (.logger .fresh)) key = some (.logger l) := by
          rw [findEntry_setEntry, if_neg other, found]
        simp only [State.logger_some]
        by_cases listed : key ∈ below
        · refine ⟨adopt name l, findEntry_attach_of_ne other ?_, adopt_level name l, adopt_handlers name l⟩
          rw [findEntry_fixupChildren, if_pos listed, at']
          rfl
        · refine ⟨l, findEntry_attach_of_ne other ?_, rfl, rfl⟩
          rw [findEntry_fixupChildren, if_neg listed, at']
      · next vacant =>
        have other : key ≠ name := by
          rintro rfl
          rw [found] at vacant
          cases vacant
        exact ⟨l, State.logger_some.mpr (findEntry_attach_of_ne other
          (by rw [findEntry_setEntry, if_neg other, found])), rfl, rfl⟩

end Keep

/-! ## A logger `Logger` can read -/

/-- The logger at `ref` exists, has a handler, and has a level of `LogLevel`: what `Logger.Live`
asks of the logger of a `Logger`. -/
def Served (s : State) (ref : LoggerRef) : Prop :=
  ∃ l level, s.logger ref = some l ∧ 0 < l.handlers ∧ l.level = LogLevel.value level

section Served

variable {s : State} {ref : LoggerRef}

theorem Served.getLogger (name : PyStr) (served : Served s ref) : Served (getLogger name s).2 ref := by
  obtain ⟨l, level, found, handled, leveled⟩ := served
  obtain ⟨l', found', sameLevel, sameHandlers⟩ := @logger_getLogger name _ _ _ found
  exact ⟨l', level, found', sameHandlers ▸ handled, sameLevel ▸ leveled⟩

/-- A change that keeps a handler and sets a level of `LogLevel`, or keeps the level, keeps every
logger served. -/
theorem Served.modify {ref' : LoggerRef} {f : LoggerState → LoggerState}
    (keeps : ∀ l level, 0 < l.handlers → l.level = LogLevel.value level →
      0 < (f l).handlers ∧ ∃ level', (f l).level = LogLevel.value level')
    (served : Served s ref) : Served (s.modify ref' f) ref := by
  obtain ⟨l, level, found, handled, leveled⟩ := served
  rw [Served, State.logger_modify]
  split
  · next same =>
    subst same
    obtain ⟨handled', level', leveled'⟩ := keeps l level handled leveled
    exact ⟨f l, level', by rw [found]; rfl, handled', leveled'⟩
  · exact ⟨l, level, found, handled, leveled⟩

theorem Served.init (name : PyStr) (level : LogLevel) (served : Served s ref) :
    Served (Logger.init name level s).2 ref :=
  (served.getLogger name).modify fun _ _ _ _ => ⟨Nat.succ_pos _, level, rfl⟩

/-- `with_fields` returns the `Logger` it is called on, and keeps every logger served. -/
theorem Served.withFields {L L' : Logger} {fields : List (PyStr × PyVal)} {s' : State}
    (made : L.withFields fields s = .ok (L', s')) (served : Served s ref) : L' = L ∧ Served s' ref := by
  obtain ⟨level, -, made⟩ := except_bind_eq_ok.mp made
  cases made
  exact ⟨rfl, (served.init L.name level).modify fun _ level handled leveled => ⟨handled, level, leveled⟩⟩

/-- `named` returns a live `Logger`, and keeps every logger served. -/
theorem Served.named {L L' : Logger} {name : PyStr} {s' : State}
    (made : L.named name s = .ok (L', s')) (served : Served s ref) : L'.Live s' ∧ Served s' ref := by
  obtain ⟨level, -, made⟩ := except_bind_eq_ok.mp made
  cases made
  exact ⟨Logger.init_live _ level s, served.init _ level⟩

end Served

/-! ## The `Logger`s a process holds -/

/-- A state of `logging` a process reaches through the SDK, with the `Logger`s it has been handed
so far by `create_logger`, `with_fields` and `named`.  Every call is made on a `Logger` it holds. -/
inductive Issued : State → List Logger → Prop
  | start : Issued .initial []
  | create {s : State} {held : List Logger} (name level : PyStr) :
      Issued s held → Issued (createLogger name level s).2 ((createLogger name level s).1 :: held)
  | withFields {s s' : State} {held : List Logger} {L L' : Logger} (fields : List (PyStr × PyVal)) :
      Issued s held → L ∈ held → L.withFields fields s = .ok (L', s') → Issued s' (L' :: held)
  | named {s s' : State} {held : List Logger} {L L' : Logger} (name : PyStr) :
      Issued s held → L ∈ held → L.named name s = .ok (L', s') → Issued s' (L' :: held)
  | setLevel {s : State} {held : List Logger} {L : Logger} (level : LogLevel) :
      Issued s held → L ∈ held → Issued (L.setLevel level s) held
  | log {s s' : State} {held : List Logger} {L : Logger} (level : Nat) (msg : PyStr)
      (fields : List (PyStr × PyVal)) (asctime : PyStr) :
      Issued s held → L ∈ held → L.log level msg fields asctime s = some s' → Issued s' held

namespace Issued

variable {s : State} {held : List Logger}

/-- Every `Logger` a process holds stays live, whatever it calls. -/
theorem live (issued : Issued s held) : ∀ L ∈ held, L.Live s := by
  induction issued with
  | start => nofun
  | create name level _ ih =>
    refine List.forall_mem_cons.mpr ⟨Logger.init_live name _ _, fun L mem => ?_⟩
    exact ⟨(ih L mem).refers, Served.init name _ (ih L mem).served⟩
  | withFields fields _ mem made ih =>
    have keeps := fun M (mem : M ∈ _) => Served.withFields made (ih M mem).served
    obtain rfl := (keeps _ mem).1
    refine List.forall_mem_cons.mpr ⟨⟨(ih _ mem).refers, (keeps _ mem).2⟩, fun M mem => ?_⟩
    exact ⟨(ih M mem).refers, (keeps M mem).2⟩
  | named name _ mem made ih =>
    refine List.forall_mem_cons.mpr ⟨(Served.named made (ih _ mem).served).1, fun M mem => ?_⟩
    exact ⟨(ih M mem).refers, (Served.named made (ih M mem).served).2⟩
  | setLevel level _ _ ih =>
    exact fun M mem => ⟨(ih M mem).refers,
      Served.modify (fun _ _ handled _ => ⟨handled, level, rfl⟩) (ih M mem).served⟩
  | log level msg fields asctime _ _ logged ih =>
    obtain ⟨written, -, rfl⟩ := Option.map_eq_some'.mp logged
    exact fun M mem => ⟨(ih M mem).refers, (ih M mem).served⟩

/-- No `Logger` a process holds raises from `get_level`, `named` or `with_fields`: the level it
reads is always one of `LogLevel`'s. -/
theorem loggers_never_raise (issued : Issued s held) {L : Logger} (mem : L ∈ held) :
    (∃ level, L.getLevel s = .ok level) ∧ (∀ name, ∃ made, L.named name s = .ok made) ∧
      ∀ fields, ∃ made, L.withFields fields s = .ok made := by
  obtain ⟨-, l, level, found, -, leveled⟩ := issued.live L mem
  have read : LogLevel.ofValue (s.levelOf L.logger) = .ok level := by
    simp only [State.levelOf, found, leveled, LogLevel.ofValue_value]
  exact ⟨⟨level, read⟩, fun name => ⟨_, by rw [Logger.named, read]; rfl⟩,
    fun fields => ⟨_, by rw [Logger.withFields, read]; rfl⟩⟩

end Issued

/-- `create_logger("plugin")`, then `.named("db")`, then `set_level(ERROR)` on the first. -/
theorem loggers_never_raise_after_set_level :
    let P := createLogger (text "plugin") (text "info") .initial
    let C := Logger.init (text "plugin.db") .info P.2
    Issued (P.1.setLevel .error C.2) [C.1, P.1] ∧ P.1 ∈ [C.1, P.1] ∧
      ((∃ level, P.1.getLevel (P.1.setLevel .error C.2) = .ok level) ∧
        (∀ name, ∃ made, P.1.named name (P.1.setLevel .error C.2) = .ok made) ∧
        ∀ fields, ∃ made, P.1.withFields fields (P.1.setLevel .error C.2) = .ok made) := by
  intro P C
  have made : P.1.named (text "db") P.2 = .ok C := rfl
  have held : P.1 ∈ [C.1, P.1] := List.mem_cons_of_mem _ (List.mem_singleton_self _)
  have issued : Issued (P.1.setLevel .error C.2) [C.1, P.1] :=
    .setLevel .error (.named (text "db") (.create _ _ .start) (List.mem_singleton_self _) made) held
  exact ⟨issued, held, Issued.loggers_never_raise issued held⟩

end Sdk
end Kennel
