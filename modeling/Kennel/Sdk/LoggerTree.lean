import Kennel.Sdk.Logger
import Kennel.Python.Hierarchy

namespace Kennel
namespace Sdk

open Python Logging

/-!
# The loggers the SDK creates form the dotted tree

Every `Logger` of the SDK asks `logging.getLogger` for the logger of its name, and `named` asks
for a name one dot longer.  Whatever the order in which a plugin creates them, each logger's
parent is the logger at the longest prefix of its name before one of its dots, or the root
(`Reachable.parent_eq_nearest`).  So a record goes to the logger of its name, then to the
logger at every dotted prefix of that name, longest first, and last to the root
(`Reachable.path_eq_prefixes`).  Every `Logger` adds a handler of its own, so a `Logger` made by
`named` writes each of its records once more for its parent (`Reachable.child_records_repeat`).
The one exception comes from `logging` itself: a logger named `r`, `ro` or `roo` does not adopt
the children of the root, whose name is `root`.
-/

section Persist

variable {s : State} {key : PyStr}

theorem isLoggerAt_modify (ref : LoggerRef) (f : LoggerState → LoggerState) :
    isLoggerAt (s.modify ref f).loggerDict key = isLoggerAt s.loggerDict key := by
  cases ref with
  | none => rfl
  | some name =>
    simp only [State.modify]
    split
    · next l found =>
      rw [isLoggerAt_setEntry]
      split
      · next here => subst here; simp [isLoggerAt, found, Entry.isLogger]
      · rfl
    · rfl

/-- A logger, once there, stays. -/
theorem isLoggerAt_getLogger (name : PyStr) (was : isLoggerAt s.loggerDict key = true) :
    isLoggerAt (getLogger name s).2.loggerDict key = true := by
  unfold getLogger
  split
  · exact was
  · split
    · exact was
    · simp only [isLoggerAt_attach, isLoggerAt_fixupChildren, isLoggerAt_setEntry, was]
      split <;> rfl
    · simp only [isLoggerAt_attach, isLoggerAt_setEntry, was]
      split <;> rfl

/-- `getLogger` makes a logger of every name but `""` and `root`. -/
theorem isLoggerAt_getLogger_self {name : PyStr} (nonempty : name ≠ []) (notRoot : name ≠ text "root") :
    isLoggerAt (getLogger name s).2.loggerDict name = true := by
  obtain ⟨l, found⟩ := getLogger_logger name s
  rw [getLogger_fst, refOf, if_neg (by rintro (e | e) <;> contradiction)] at found
  exact isLoggerAt_iff.mpr ⟨l, State.logger_some.mp found⟩

end Persist

/-- No logger is named `r`, `ro` or `roo`. -/
def FreeOfRootPrefixes (s : State) : Prop :=
  ∀ n ∈ rootPrefixes, isLoggerAt s.loggerDict n = false

theorem FreeOfRootPrefixes.modify {s : State} {ref : LoggerRef} {f : LoggerState → LoggerState}
    (free : FreeOfRootPrefixes (s.modify ref f)) : FreeOfRootPrefixes s := fun n mem => by
  rw [← isLoggerAt_modify ref f]
  exact free n mem

namespace Logger

variable {s s' : State}

theorem init_hierarchy (name : PyStr) (level : LogLevel) (avoids : name ∉ rootPrefixes)
    (h : Hierarchy s.loggerDict) : Hierarchy (init name level s).2.loggerDict :=
  State.modify_hierarchy _ (fun _ => rfl) (State.getLogger_hierarchy name avoids h)

/-- A state after `Logger.__init__` without a logger named `r`, `ro` or `roo` had none before,
and the new name is none of them. -/
theorem FreeOfRootPrefixes.of_init {name : PyStr} {level : LogLevel}
    (free : FreeOfRootPrefixes (init name level s).2) : FreeOfRootPrefixes s ∧ name ∉ rootPrefixes := by
  have after : FreeOfRootPrefixes (getLogger name s).2 := free.modify
  refine ⟨fun n mem => ?_, fun mem => ?_⟩
  · cases was : isLoggerAt s.loggerDict n
    · rfl
    · have := after n mem
      rw [isLoggerAt_getLogger name was] at this
      cases this
  · have named : name ≠ [] ∧ name ≠ text "root" := by
      simp only [rootPrefixes, List.mem_cons, List.mem_singleton, List.not_mem_nil, or_false] at mem
      rcases mem with rfl | rfl | rfl <;> decide
    have := after name mem
    rw [isLoggerAt_getLogger_self named.1 named.2] at this
    cases this

end Logger

/-- Every state the SDK reaches keeps the hierarchy, unless it made a logger named `r`, `ro` or
`roo`. -/
theorem Reachable.hierarchy {s : State} (reached : Reachable s) (free : FreeOfRootPrefixes s) :
    Hierarchy s.loggerDict := by
  induction reached with
  | start => exact hierarchy_nil
  | create name level _ ih =>
    obtain ⟨before, avoids⟩ := Logger.FreeOfRootPrefixes.of_init free
    exact Logger.init_hierarchy name _ avoids (ih before)
  | withFields L L' fields _ made ih =>
    obtain ⟨level, -, made⟩ := except_bind_eq_ok.mp made
    cases made
    obtain ⟨before, avoids⟩ := Logger.FreeOfRootPrefixes.of_init free.modify
    exact State.modify_hierarchy _ (fun _ => rfl) (Logger.init_hierarchy L.name level avoids (ih before))
  | named L L' name _ made ih =>
    obtain ⟨level, -, made⟩ := except_bind_eq_ok.mp made
    cases made
    obtain ⟨before, avoids⟩ := Logger.FreeOfRootPrefixes.of_init free
    exact Logger.init_hierarchy _ level avoids (ih before)
  | setLevel L level _ ih => exact State.modify_hierarchy _ (fun _ => rfl) (ih free.modify)
  | log L level msg fields asctime _ logged ih =>
    obtain ⟨written, -, rfl⟩ := Option.map_eq_some'.mp logged
    exact ih free

/-- In every state the SDK reaches, each logger's parent is the logger at the longest prefix of
its name before one of its dots, the root if there is none; unless the process made a logger
named `r`, `ro` or `roo`, which `logging` does not let adopt the children of the root. -/
theorem Reachable.parent_eq_nearest {s : State} (reached : Reachable s) (free : FreeOfRootPrefixes s)
    {name : PyStr} {l : LoggerState} (found : s.logger (some name) = some l) :
    l.parent = nearest s.loggerDict name :=
  (reached.hierarchy free).parents name l (State.logger_some.mp found)

/-- `create_logger("a.b")`, then `create_logger("a")`: the logger made first is adopted. -/
theorem parent_eq_nearest_child_first :
    let s := (createLogger (text "a") (text "INFO") (createLogger (text "a.b") (text "INFO") .initial).2).2
    Reachable s ∧ FreeOfRootPrefixes s ∧ s.logger (some (text "a.b")) = some ⟨20, 1, [], some (text "a")⟩ ∧
      some (text "a") = nearest s.loggerDict (text "a.b") := by
  intro s
  have reached : Reachable s := .create _ _ (.create _ _ .start)
  have free : FreeOfRootPrefixes s := by
    simp only [FreeOfRootPrefixes, rootPrefixes, List.mem_cons, List.mem_singleton, List.not_mem_nil,
      or_false, forall_eq_or_imp, forall_eq]
    decide
  have found : s.logger (some (text "a.b")) = some ⟨20, 1, [], some (text "a")⟩ := rfl
  exact ⟨reached, free, found, Reachable.parent_eq_nearest reached free found⟩

/- With `r` in place of `a` the child keeps the root: `logging` compares the name `root` with
`r` and finds the child already below it. -/
example :
    let s := (createLogger (text "r") (text "INFO") (createLogger (text "r.x") (text "INFO") .initial).2).2
    (s.logger (some (text "r.x"))).map (·.parent) = some none ∧
      nearest s.loggerDict (text "r.x") = some (text "r") := by
  decide

/-- In every state the SDK reaches, unless it made a logger named `r`, `ro` or `roo`, a record
logged on a name with no two dots next to each other goes to the logger of that name, then to
every logger at a prefix of the name before one of its dots, longest first, and last to the
root: placeholders are passed, and no logger is left out or met twice. -/
theorem Reachable.path_eq_prefixes {s : State} (reached : Reachable s) (free : FreeOfRootPrefixes s)
    {name : PyStr} {l : LoggerState} (nonempty : name ≠ []) (spaced : Spaced name)
    (found : s.logger (some name) = some l) :
    s.path (some name) = l :: (dotIndices name).filterMap (fun i => s.logger (some (name.take i))) ++ [s.root] :=
  State.chain_eq_prefixes (reached.hierarchy free) name.length nonempty le_rfl spaced found

/-- `create_logger("a")`, then `create_logger("a.b.c")`: the walk from `a.b.c` passes the
placeholder at `a.b`. -/
theorem path_eq_prefixes_past_placeholder :
    let s := (createLogger (text "a.b.c") (text "INFO") (createLogger (text "a") (text "INFO") .initial).2).2
    Reachable s ∧ FreeOfRootPrefixes s ∧ text "a.b.c" ≠ [] ∧ Spaced (text "a.b.c") ∧
      s.logger (some (text "a.b.c")) = some ⟨20, 1, [], some (text "a")⟩ ∧
      s.path (some (text "a.b.c")) = ⟨20, 1, [], some (text "a")⟩ ::
        (dotIndices (text "a.b.c")).filterMap (fun i => s.logger (some ((text "a.b.c").take i))) ++ [s.root] := by
  intro s
  have reached : Reachable s := .create _ _ (.create _ _ .start)
  have free : FreeOfRootPrefixes s := by
    simp only [FreeOfRootPrefixes, rootPrefixes, List.mem_cons, List.mem_singleton, List.not_mem_nil,
      or_false, forall_eq_or_imp, forall_eq]
    decide
  have spaced : Spaced (text "a.b.c") := by decide
  have found : s.logger (some (text "a.b.c")) = some ⟨20, 1, [], some (text "a")⟩ := rfl
  exact ⟨reached, free, by decide, spaced, found, Reachable.path_eq_prefixes reached free (by decide) spaced found⟩

/-- What `_log` writes, when it writes anything: one and the same line per handler on the walk. -/
theorem Logger.records_replicate {L : Logger} {s : State} {level : Nat} {msg asctime : PyStr}
    {fields : List (PyStr × PyVal)} {written : List PyStr} (served : 0 < s.handlersOnPath L.logger)
    (wrote : L.records level msg fields asctime s = some written) :
    written = [] ∨ ∃ line, written = List.replicate (s.handlersOnPath L.logger) line := by
  simp only [Logger.records, State.emit] at wrote
  split_ifs at wrote
  · split at wrote
    · obtain ⟨record, -, rfl⟩ := Option.map_eq_some'.mp wrote
      exact .inr ⟨_, by rw [handled, if_neg served.ne']⟩
    · exact .inl (Option.some.inj wrote).symm
  all_goals exact .inl (Option.some.inj wrote).symm

/-- Each `Logger.__init__` adds a handler to its logger, and none turns `propagate` off.  So a
`Logger` one dot below another, as `named` makes it, writes each of its records at least twice:
through its own handler, and again through the other's, or through the root's when the other is
the root logger.  This holds in every state the SDK reaches without a logger `r`, `ro` or `roo`,
for a name with no two dots next to each other. -/
theorem Reachable.child_records_repeat {s : State} (reached : Reachable s) (free : FreeOfRootPrefixes s)
    {P L : Logger} (parentLive : P.Live s) (childLive : L.Live s) {child : PyStr}
    (below : L.name = P.name ++ text "." ++ child) (spaced : Spaced L.name)
    {level : Nat} {msg asctime : PyStr} {fields : List (PyStr × PyVal)} {written : List PyStr}
    (wrote : L.records level msg fields asctime s = some written) :
    written = [] ∨ ∃ line n, 2 ≤ n ∧ written = List.replicate n line := by
  obtain ⟨refersP, lP, -, foundP, servedP, -⟩ := parentLive
  obtain ⟨refersL, lL, -, foundL, servedL, -⟩ := childLive
  have cut : L.name = P.name ++ dot :: child := by rw [below, List.append_assoc]; rfl
  have dotted : dot ∈ L.name := cut ▸ List.mem_append_right _ (List.mem_cons_self _ _)
  have childRef : L.logger = some L.name := by
    rw [refersL, refOf, if_neg]
    rintro (empty | root)
    · rw [empty] at dotted
      cases dotted
    · rw [root] at dotted
      revert dotted
      decide
  have walk := State.chain_eq_prefixes (reached.hierarchy free) L.name.length (List.ne_nil_of_mem dotted)
    le_rfl spaced (childRef ▸ foundL)
  -- the parent's logger, or the root, is on the walk after the child's
  have other : ∃ m ∈ (dotIndices L.name).filterMap (fun i => s.logger (some (L.name.take i))) ++ [s.root],
      0 < m.handlers := by
    unfold refOf at refersP
    split at refersP
    · rw [refersP] at foundP
      cases foundP
      exact ⟨s.root, List.mem_append_right _ (List.mem_singleton_self _), servedP⟩
    · next named =>
      have pos : 0 < P.name.length := List.length_pos.mpr fun empty => named (.inl empty)
      have at' : L.name[P.name.length]? = some dot := by
        rw [cut, List.getElem?_append_right le_rfl, Nat.sub_self, List.getElem?_cons_zero]
      have parentAt : s.logger (some (L.name.take P.name.length)) = some lP := by
        rw [cut, List.take_left' rfl, ← refersP, foundP]
      exact ⟨lP, List.mem_append_left _ (List.mem_filterMap.mpr
        ⟨_, mem_dotIndices_of_dot pos at', parentAt⟩), servedP⟩
  have two : 2 ≤ s.handlersOnPath L.logger := by
    obtain ⟨m, mem, served⟩ := other
    have within := List.le_sum_of_mem (List.mem_map_of_mem (·.handlers) mem)
    dsimp only at within
    rw [State.handlersOnPath, State.path, childRef, refName, walk, List.cons_append, List.map_cons,
      List.sum_cons]
    omega
  rcases Logger.records_replicate (by omega) wrote with empty | ⟨line, rfl⟩
  exacts [.inl empty, .inr ⟨line, _, two, rfl⟩]

/-- `create_logger("plugin")`, then `.named("db")`: an `INFO` record of the child. -/
theorem child_records_repeat_of_plugin :
    let P := createLogger (text "plugin") (text "info") .initial
    let C := Logger.init (text "plugin.db") .info P.2
    P.1.named (text "db") P.2 = .ok C ∧ Reachable C.2 ∧ FreeOfRootPrefixes C.2 ∧ P.1.Live C.2 ∧
      C.1.Live C.2 ∧ C.1.name = P.1.name ++ text "." ++ text "db" ∧ Spaced C.1.name ∧
      C.1.records 20 (text "hi") [] (text "t") C.2 =
        some [text "t - plugin.db - INFO - hi", text "t - plugin.db - INFO - hi"] ∧
      ([text "t - plugin.db - INFO - hi", text "t - plugin.db - INFO - hi"] = [] ∨
        ∃ line n, 2 ≤ n ∧
          [text "t - plugin.db - INFO - hi", text "t - plugin.db - INFO - hi"] = List.replicate n line) := by
  intro P C
  have made : P.1.named (text "db") P.2 = .ok C := rfl
  have reached : Reachable C.2 := .named P.1 C.1 (text "db") (.create _ _ .start) made
  have free : FreeOfRootPrefixes C.2 := by
    simp only [FreeOfRootPrefixes, rootPrefixes, List.mem_cons, List.mem_singleton, List.not_mem_nil,
      or_false, forall_eq_or_imp, forall_eq]
    decide
  have parentLive : P.1.Live C.2 := ⟨rfl, _, .info, rfl, by decide, rfl⟩
  have childLive : C.1.Live C.2 := ⟨rfl, _, .info, rfl, by decide, rfl⟩
  have spaced : Spaced C.1.name := by decide
  have wrote : C.1.records 20 (text "hi") [] (text "t") C.2 =
      some [text "t - plugin.db - INFO - hi", text "t - plugin.db - INFO - hi"] := by
    decide
  exact ⟨made, reached, free, parentLive, childLive, rfl, spaced, wrote,
    Reachable.child_records_repeat reached free parentLive childLive rfl spaced wrote⟩

/- The walk itself: `a.b.c`, `a`, the root. -/
example :
    let s := (createLogger (text "a.b.c") (text "INFO") (createLogger (text "a") (text "INFO") .initial).2).2
    (s.path (some (text "a.b.c"))).map (·.parent) = [some (text "a"), none, none] := by
  decide

end Sdk
end Kennel
