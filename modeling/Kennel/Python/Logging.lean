import Kennel.Python.Repr

namespace Kennel
namespace Python
namespace Logging

/-!
# The `logging` module: loggers, their parents, and the records they write

`logging.getLogger(name)` returns the process-wide logger of that name, created on first use and
the same object afterwards.  `Manager.loggerDict` holds the loggers by name, and a placeholder
for each dotted prefix of a logger's name that has no logger yet; when a logger is created,
`_fixupParents` makes the nearest existing prefix its parent (the root if none exists), and
`_fixupChildren` adopts the loggers a placeholder for its name had listed.  A record goes
through the filters of its logger, and then to every handler of the logger and of each parent
up to the root, each handler writing it once.

The model keeps what the SDK's `Logger` reaches: the level, the handlers on standard error and
the filters of each logger, the parent links, and the records written.  A record is reduced to
the three attributes its format prints, `name`, `levelname` and `msg`; a filter that sets one of
the attributes the module reads in another way (the arguments, the level number, the time, the
exception and stack texts) leaves the model, which then has no result.

The main fact is that the parent links always go to strictly shorter names
(`State.WellFormed`, kept by `getLogger_wellFormed`), so that the walk to the root ends and a
change to one logger changes only the first step of its own walk (`path_modify`).
-/

/-! ## Loggers and the manager's dictionary -/

/-- A `logging.Logger`: its level, the number of `StreamHandler`s on standard error added to it,
the fields of each `FieldFilter` on it, in order, and the name of its parent, `none` for the
root. -/
structure LoggerState where
  level : Nat
  handlers : Nat
  filters : List (List (PyStr × PyVal))
  parent : Option PyStr

/-- A logger as `Manager.getLogger` creates it: level `NOTSET`, no handler, no filter, the root
for parent. -/
def LoggerState.fresh : LoggerState := ⟨0, 0, [], none⟩

@[simp] theorem LoggerState.fresh_parent : LoggerState.fresh.parent = none := rfl

/-- An entry of `Manager.loggerDict`: a logger, or a placeholder listing the names of the loggers
created below a name that has none. -/
inductive Entry where
  | logger (state : LoggerState)
  | placeholder (below : List PyStr)

/-- `loggerDict.get(name)`. -/
def findEntry : List (PyStr × Entry) → PyStr → Option Entry
  | [], _ => none
  | entry :: d, name => if entry.1 = name then some entry.2 else findEntry d name

/-- `loggerDict[name] = e`: a present name keeps its place, a new one goes last. -/
def setEntry : List (PyStr × Entry) → PyStr → Entry → List (PyStr × Entry)
  | [], name, e => [(name, e)]
  | entry :: d, name, e => if entry.1 = name then (name, e) :: d else entry :: setEntry d name e

@[simp] theorem findEntry_setEntry (d : List (PyStr × Entry)) (name key : PyStr) (e : Entry) :
    findEntry (setEntry d name e) key = if key = name then some e else findEntry d key := by
  induction d with
  | nil => by_cases same : key = name <;> simp [setEntry, findEntry, same, Ne.symm]
  | cons entry d ih =>
    by_cases here : entry.1 = name
    · by_cases same : key = name <;> simp [setEntry, findEntry, here, same, Ne.symm]
    · by_cases same : entry.1 = key
      · subst same
        simp [setEntry, findEntry, here, Ne.symm here]
      · simp [setEntry, findEntry, here, same, ih]

@[simp] theorem setEntry_setEntry (d : List (PyStr × Entry)) (name : PyStr) (e e' : Entry) :
    setEntry (setEntry d name e) name e' = setEntry d name e' := by
  induction d with
  | nil => simp [setEntry]
  | cons entry d ih => by_cases here : entry.1 = name <;> simp [setEntry, here, ih]

/-- The logging module's state: the root logger, `Manager.loggerDict` in insertion order, and
the lines written to standard error. -/
structure State where
  root : LoggerState
  loggerDict : List (PyStr × Entry)
  stderr : List PyStr

/-- A process before any logger is asked for: the root at `WARNING`, with no handler. -/
def State.initial : State := ⟨⟨30, 0, [], none⟩, [], []⟩

/-- A logger, as a caller holds it: `none` for the root, else its name. -/
abbrev LoggerRef := Option PyStr

/-- `logger.name`: the root's is `root`. -/
def refName : LoggerRef → PyStr
  | none => text "root"
  | some name => name

/-- The logger `logging.getLogger(name)` returns: the root for `""` and `"root"`. -/
def refOf (name : PyStr) : LoggerRef :=
  if name = [] ∨ name = text "root" then none else some name

namespace State

/-- The logger a reference names, if it is one. -/
def logger (s : State) : LoggerRef → Option LoggerState
  | none => some s.root
  | some name =>
      match findEntry s.loggerDict name with
      | some (.logger l) => some l
      | _ => none

/-- Change the logger a reference names. -/
def modify (s : State) (ref : LoggerRef) (f : LoggerState → LoggerState) : State :=
  match ref with
  | none => { s with root := f s.root }
  | some name =>
      match findEntry s.loggerDict name with
      | some (.logger l) => { s with loggerDict := setEntry s.loggerDict name (.logger (f l)) }
      | _ => s

/-- `logger.level`, the level set on the logger itself. -/
def levelOf (s : State) (ref : LoggerRef) : Nat :=
  match s.logger ref with
  | some l => l.level
  | none => 0

theorem logger_some {s : State} {name : PyStr} {l : LoggerState} :
    s.logger (some name) = some l ↔ findEntry s.loggerDict name = some (.logger l) := by
  simp only [logger]
  split <;> simp_all

theorem logger_modify (s : State) (ref key : LoggerRef) (f : LoggerState → LoggerState) :
    (s.modify ref f).logger key = if key = ref then (s.logger ref).map f else s.logger key := by
  cases ref with
  | none => cases key <;> rfl
  | some name =>
    simp only [modify]
    split
    · next l found =>
      cases key with
      | none => simp [logger]
      | some key => by_cases same : key = name <;> simp [logger, same, found]
    · next unfound =>
      have absent : s.logger (some name) = none := by simp only [logger]
      by_cases same : key = some name
      · simp [same, absent]
      · simp [same]

@[simp] theorem stderr_modify (s : State) (ref : LoggerRef) (f : LoggerState → LoggerState) :
    (s.modify ref f).stderr = s.stderr := by
  cases ref <;> simp only [modify]; split <;> rfl

theorem modify_modify (s : State) (ref : LoggerRef) (f g : LoggerState → LoggerState) :
    (s.modify ref f).modify ref g = s.modify ref (g ∘ f) := by
  cases ref with
  | none => rfl
  | some name =>
    rcases found : findEntry s.loggerDict name with _ | _ | _ <;> simp [modify, found]

theorem root_modify_some (s : State) (name : PyStr) (f : LoggerState → LoggerState) :
    (s.modify (some name) f).root = s.root := by
  simp only [modify]
  split <;> rfl

end State

/-! ## `Manager.getLogger` -/

/-- The indices `_fixupParents` tries, right to left: `i = name.rfind(".")`, then
`name.rfind(".", 0, i - 1)`, while `i > 0`.  The second search ends before `i - 1`, so the index
right below a tried one is skipped. -/
def dotStops (name : PyStr) : List Nat :=
  go false name.length
where
  /-- The stops among the indices below `bound`; `skip` when the one right below is skipped. -/
  go : Bool → Nat → List Nat
    | _, 0 => []
    | true, b + 1 => go false b
    | false, b + 1 => if name[b]? = some dot ∧ 0 < b then b :: go true b else go false b

example : dotStops (text "a.b..c.d") = [6, 4, 1] := by decide

theorem dotStops.go_lt (name : PyStr) (skip : Bool) (bound : Nat) :
    ∀ i ∈ dotStops.go name skip bound, i < bound := by
  induction bound generalizing skip with
  | zero => simp [go]
  | succ b ih =>
    cases skip
    · simp only [go]
      split
      · intro i mem
        rcases List.mem_cons.mp mem with rfl | below
        exacts [Nat.lt_succ_self _, Nat.lt_succ_of_lt (ih true i below)]
      · exact fun i below => Nat.lt_succ_of_lt (ih false i below)
    · exact fun i below => Nat.lt_succ_of_lt (ih false i below)

theorem dotStops_lt (name : PyStr) : ∀ i ∈ dotStops name, i < name.length :=
  dotStops.go_lt name false name.length

/-- `_fixupParents` over the stops: a prefix with no entry gets a placeholder listing `name`, a
placeholder lists it, and the first logger found is the parent; `none`, the root, if none is. -/
def fixupParents (name : PyStr) :
    List Nat → List (PyStr × Entry) → Option PyStr × List (PyStr × Entry)
  | [], d => (none, d)
  | i :: stops, d =>
      let above := name.take i
      match findEntry d above with
      | none => fixupParents name stops (setEntry d above (.placeholder [name]))
      | some (.logger _) => (some above, d)
      | some (.placeholder below) =>
          fixupParents name stops
            (setEntry d above (.placeholder (if below.contains name then below else below ++ [name])))

/-- One child in `_fixupChildren`: a logger whose parent's name does not start with `name` gets
`name` for parent.  The root's name is `root`.  The source also sets the new logger's parent to
the child's old one, which `_fixupParents` overwrites right after; the model leaves that out. -/
def reparent (name : PyStr) (d : List (PyStr × Entry)) (child : PyStr) : List (PyStr × Entry) :=
  match findEntry d child with
  | some (.logger l) =>
      if (refName l.parent).take name.length ≠ name then
        setEntry d child (.logger { l with parent := some name })
      else d
  | _ => d

/-- `_fixupChildren(placeholder, logger)` over the loggers the placeholder listed. -/
def fixupChildren (name : PyStr) (d : List (PyStr × Entry)) (below : List PyStr) :
    List (PyStr × Entry) :=
  below.foldl (reparent name) d

/-- The new logger `name`, already in `d`, takes the parent `_fixupParents` finds. -/
def attach (name : PyStr) (d : List (PyStr × Entry)) : List (PyStr × Entry) :=
  let found := fixupParents name (dotStops name) d
  match findEntry found.2 name with
  | some (.logger l) => setEntry found.2 name (.logger { l with parent := found.1 })
  | _ => found.2

/-- `logging.getLogger(name)`: the root for `""` and `"root"`; a logger already there; else a new
one, in place of a placeholder, whose loggers it adopts, or added. -/
def getLogger (name : PyStr) (s : State) : LoggerRef × State :=
  if name = [] ∨ name = text "root" then (none, s)
  else
    match findEntry s.loggerDict name with
    | some (.logger _) => (some name, s)
    | some (.placeholder below) =>
        (some name,
          { s with
            loggerDict :=
              attach name (fixupChildren name (setEntry s.loggerDict name (.logger .fresh)) below) })
    | none => (some name, { s with loggerDict := attach name (setEntry s.loggerDict name (.logger .fresh)) })

theorem refOf_ne_some_nil (name : PyStr) : refOf name ≠ some [] := by
  unfold refOf
  split
  · nofun
  · next nonRoot => exact fun same => nonRoot (.inl (Option.some.inj same))

theorem getLogger_fst (name : PyStr) (s : State) : (getLogger name s).1 = refOf name := by
  simp only [getLogger, refOf]
  split
  · rfl
  · split <;> rfl

/-- Asking again for a logger that exists changes nothing. -/
theorem getLogger_of_logger {name : PyStr} {s : State} {l : LoggerState}
    (found : s.logger (refOf name) = some l) : getLogger name s = (refOf name, s) := by
  unfold getLogger refOf at *
  by_cases root : name = [] ∨ name = text "root"
  · simp only [root, ↓reduceIte]
  · simp only [root, ↓reduceIte, State.logger_some] at found ⊢
    simp only [found]

section Yields

variable {name : PyStr} {d : List (PyStr × Entry)} {l : LoggerState}

theorem findEntry_fixupParents (stops : List Nat) (inside : ∀ i ∈ stops, i < name.length) :
    findEntry (fixupParents name stops d).2 name = findEntry d name := by
  induction stops generalizing d with
  | nil => rfl
  | cons i stops ih =>
    have other : name ≠ name.take i := fun same => by
      have := congrArg List.length same
      simp only [List.length_take] at this
      have := inside i (List.mem_cons_self i stops)
      omega
    have rest : ∀ j ∈ stops, j < name.length := fun j mem => inside j (List.mem_cons_of_mem i mem)
    simp only [fixupParents]
    split
    · rw [ih rest, findEntry_setEntry, if_neg other]
    · rfl
    · rw [ih rest, findEntry_setEntry, if_neg other]

theorem reparent_logger {key child : PyStr} (found : findEntry d key = some (.logger l)) :
    ∃ l', findEntry (reparent name d child) key = some (.logger l') := by
  unfold reparent
  split
  · split
    · by_cases same : key = child
      · exact ⟨_, by rw [findEntry_setEntry, if_pos same]⟩
      · exact ⟨l, by simp [same, found]⟩
    · exact ⟨l, found⟩
  · exact ⟨l, found⟩

theorem fixupChildren_logger {key : PyStr} {below : List PyStr}
    (found : findEntry d key = some (.logger l)) :
    ∃ l', findEntry (fixupChildren name d below) key = some (.logger l') := by
  induction below generalizing d l with
  | nil => exact ⟨l, found⟩
  | cons child below ih =>
    obtain ⟨l', found'⟩ := @reparent_logger name d l key child found
    exact ih found'

theorem attach_logger (found : findEntry d name = some (.logger l)) :
    ∃ l', findEntry (attach name d) name = some (.logger l') := by
  unfold attach
  simp only [findEntry_fixupParents _ (dotStops_lt name), found, findEntry_setEntry, ↓reduceIte]
  exact ⟨_, rfl⟩

/-- `getLogger` returns a logger that is there afterwards. -/
theorem getLogger_logger (name : PyStr) (s : State) :
    ∃ l, (getLogger name s).2.logger (getLogger name s).1 = some l := by
  have fresh : findEntry (setEntry s.loggerDict name (.logger .fresh)) name = some (.logger .fresh) := by
    simp
  unfold getLogger
  split
  · exact ⟨s.root, rfl⟩
  · split
    · next l found => exact ⟨l, State.logger_some.mpr found⟩
    · next below _ =>
      obtain ⟨_, adopted⟩ := @fixupChildren_logger name _ _ name below fresh
      exact (attach_logger adopted).imp fun _ => State.logger_some.mpr
    · exact (attach_logger fresh).imp fun _ => State.logger_some.mpr

end Yields

/-! ## Parents have shorter names -/

/-- An entry fits its name: a logger's parent has a shorter name, the loggers a placeholder
lists have longer ones. -/
def Entry.Fits (name : PyStr) : Entry → Prop
  | .logger l => ∀ p, l.parent = some p → p.length < name.length
  | .placeholder below => ∀ m ∈ below, name.length < m.length

/-- Every entry of the dictionary fits its name. -/
def Fitted (d : List (PyStr × Entry)) : Prop :=
  ∀ name e, findEntry d name = some e → e.Fits name

/-- The shape `logging.Manager` keeps. -/
def State.WellFormed (s : State) : Prop :=
  Fitted s.loggerDict

section Fitted

variable {d : List (PyStr × Entry)} {name : PyStr}

theorem Fitted.setEntry (fitted : Fitted d) {e : Entry} (fits : e.Fits name) :
    Fitted (setEntry d name e) := by
  intro key e' found
  rw [findEntry_setEntry] at found
  split at found
  · cases found
    subst key
    exact fits
  · exact fitted key e' found

theorem fixupParents_fitted (name : PyStr) (stops : List Nat) (fitted : Fitted d)
    (inside : ∀ i ∈ stops, i < name.length) :
    Fitted (fixupParents name stops d).2 ∧
      ∀ p, (fixupParents name stops d).1 = some p → p.length < name.length := by
  induction stops generalizing d with
  | nil => exact ⟨fitted, nofun⟩
  | cons i stops ih =>
    have shorter : (name.take i).length < name.length := by
      simp only [List.length_take]
      have := inside i (List.mem_cons_self i stops)
      omega
    have rest : ∀ j ∈ stops, j < name.length := fun j mem => inside j (List.mem_cons_of_mem i mem)
    simp only [fixupParents]
    split
    · exact ih (fitted.setEntry fun m mem => List.mem_singleton.mp mem ▸ shorter) rest
    · exact ⟨fitted, by rintro p ⟨⟩; exact shorter⟩
    · next below found =>
      refine ih (fitted.setEntry fun m mem => ?_) rest
      have longer := fitted _ _ found
      split at mem
      · exact longer m mem
      · rcases List.mem_append.mp mem with mem | mem
        · exact longer m mem
        · rw [List.mem_singleton.mp mem]
          exact shorter

theorem Fitted.reparent (fitted : Fitted d) {child : PyStr} (longer : name.length < child.length) :
    Fitted (reparent name d child) := by
  unfold Logging.reparent
  split
  · split
    · exact fitted.setEntry (by rintro p ⟨⟩; exact longer)
    · exact fitted
  · exact fitted

theorem Fitted.fixupChildren (fitted : Fitted d) {below : List PyStr}
    (longer : ∀ m ∈ below, name.length < m.length) : Fitted (fixupChildren name d below) := by
  induction below generalizing d with
  | nil => exact fitted
  | cons child below ih =>
    exact ih (fitted.reparent (longer child (List.mem_cons_self _ _)))
      fun m mem => longer m (List.mem_cons_of_mem _ mem)

theorem Fitted.attach (fitted : Fitted d) : Fitted (attach name d) := by
  obtain ⟨fitted', shorter⟩ := fixupParents_fitted name (dotStops name) fitted (dotStops_lt name)
  unfold Logging.attach
  dsimp only
  split
  · exact fitted'.setEntry shorter
  · exact fitted'

end Fitted

namespace State

variable {s : State}

/-- `getLogger` keeps the shape. -/
theorem getLogger_wellFormed (name : PyStr) (wf : s.WellFormed) : (getLogger name s).2.WellFormed := by
  unfold getLogger
  split
  · exact wf
  · have fresh : (Entry.logger .fresh).Fits name := by simp [Entry.Fits]
    split
    · exact wf
    · next below found => exact ((wf.setEntry fresh).fixupChildren (wf _ _ found)).attach
    · exact (wf.setEntry fresh).attach

/-- A change to a logger that keeps its parent keeps the shape. -/
theorem modify_wellFormed (ref : LoggerRef) {f : LoggerState → LoggerState}
    (keeps : ∀ l, (f l).parent = l.parent) (wf : s.WellFormed) : (s.modify ref f).WellFormed := by
  cases ref with
  | none => exact wf
  | some name =>
    simp only [modify]
    split
    · next l found => exact Fitted.setEntry wf fun p parent => wf _ _ found p ((keeps l) ▸ parent)
    · exact wf

theorem WellFormed.parent_shorter (wf : s.WellFormed) {name : PyStr} {l : LoggerState}
    (found : s.logger (some name) = some l) {p : PyStr} (parent : l.parent = some p) :
    p.length < name.length :=
  wf _ _ (logger_some.mp found) p parent

end State

/-! ## Records -/

/-- `logging.getLevelName(level)` once `Logger.__init__` of the SDK has named level 5 `TRACE`. -/
def levelName (level : Nat) : PyStr :=
  if level = 5 then text "TRACE"
  else if level = 10 then text "DEBUG"
  else if level = 20 then text "INFO"
  else if level = 30 then text "WARNING"
  else if level = 40 then text "ERROR"
  else if level = 50 then text "CRITICAL"
  else if level = 0 then text "NOTSET"
  else text "Level " ++ natRepr level

/-- The attributes of a record that the format prints. -/
structure LogRecord where
  name : PyVal
  levelname : PyVal
  msg : PyVal

/-- The attributes the module reads other than the format's three: a filter that sets one leaves
the model. -/
def unfollowedAttributes : List PyStr :=
  [text "args", text "levelno", text "created", text "msecs", text "exc_info", text "exc_text",
    text "stack_info", text "getMessage", text "__dict__", text "__class__"]

/-- The attributes of a record whose value reaches the written line or its handling. -/
def recordAttributes : List PyStr :=
  text "name" :: text "levelname" :: text "msg" :: unfollowedAttributes

namespace LogRecord

/-- `setattr(record, k, v)`: `message` and `asctime` are recomputed by the format, and no other
attribute but the format's three is printed. -/
def set (record : LogRecord) (k : PyStr) (v : PyVal) : Option LogRecord :=
  if k = text "name" then some { record with name := v }
  else if k = text "levelname" then some { record with levelname := v }
  else if k = text "msg" then some { record with msg := v }
  else if unfollowedAttributes.contains k then none
  else some record

/-- `FieldFilter.filter(record)`: each field set in turn. -/
def applyFields (record : LogRecord) (fields : List (PyStr × PyVal)) : Option LogRecord :=
  fields.foldlM (fun record field => record.set field.1 field.2) record

/-- `Filterer.filter(record)` over a logger's filters, in order; each `FieldFilter` passes. -/
def applyFilters (record : LogRecord) : List (List (PyStr × PyVal)) → Option LogRecord
  | [] => some record
  | fields :: filters => (record.applyFields fields).bind fun record => record.applyFilters filters

/-- `'%(asctime)s - %(name)s - %(levelname)s - %(message)s'`, the time already formatted. -/
def format (asctime : PyStr) (record : LogRecord) : PyStr :=
  asctime ++ text " - " ++ record.name.toStr ++ text " - " ++ record.levelname.toStr ++ text " - " ++
    record.msg.toStr

theorem set_of_not_mem {k : PyStr} (unread : k ∉ recordAttributes) (record : LogRecord)
    (v : PyVal) : record.set k v = some record := by
  simp only [recordAttributes, List.mem_cons, not_or] at unread
  obtain ⟨name, levelname, msg, other⟩ := unread
  simp [set, name, levelname, msg, other]

/-- Fields that name none of the record's attributes leave it as it is. -/
theorem applyFields_of_unread {fields : List (PyStr × PyVal)}
    (unread : ∀ field ∈ fields, field.1 ∉ recordAttributes) (record : LogRecord) :
    record.applyFields fields = some record := by
  induction fields with
  | nil => rfl
  | cons field fields ih =>
    simp only [applyFields, List.foldlM_cons] at ih ⊢
    rw [set_of_not_mem (unread field (List.mem_cons_self _ _))]
    exact ih fun f mem => unread f (List.mem_cons_of_mem _ mem)

theorem applyFilters_append (record : LogRecord) (filters : List (List (PyStr × PyVal)))
    (fields : List (PyStr × PyVal)) :
    record.applyFilters (filters ++ [fields]) =
      (record.applyFilters filters).bind fun record => record.applyFields fields := by
  induction filters generalizing record with
  | nil => simp [applyFilters]
  | cons first filters ih => simp [applyFilters, ih, Option.bind_assoc]

end LogRecord

/-! ## Handling a record -/

/-- The lines the handlers write for a record: one per handler on the path, or, with none, the
bare message by the last-resort handler when the level is at least `WARNING`. -/
def handled (handlers level : Nat) (asctime : PyStr) (record : LogRecord) : List PyStr :=
  if handlers = 0 then (if 30 ≤ level then [record.msg.toStr] else [])
  else List.replicate handlers (record.format asctime)

/-- A handler more writes the line once more. -/
theorem handled_succ {handlers : Nat} (some : 0 < handlers) (level : Nat) (asctime : PyStr)
    (record : LogRecord) :
    handled (handlers + 1) level asctime record =
      handled handlers level asctime record ++ (handled handlers level asctime record).take 1 := by
  obtain ⟨n, rfl⟩ : ∃ n, handlers = n + 1 := ⟨handlers - 1, by omega⟩
  have first : (List.replicate (n + 1) (record.format asctime)).take 1 = [record.format asctime] := by
    simp [List.replicate_succ]
  simp only [handled, Nat.add_one_ne_zero, ↓reduceIte, first]
  exact List.replicate_succ' ..

/-- `getEffectiveLevel()` along a path: the first level set, `NOTSET` if none is. -/
def effectiveLevel (path : List LoggerState) : Nat :=
  match path.find? fun l => l.level != 0 with
  | some l => l.level
  | none => 0

/-- Only the level of the first logger of a path counts when it is set. -/
theorem effectiveLevel_cons_of_level {first other : LoggerState} (same : first.level = other.level)
    (rest : List LoggerState) : effectiveLevel (first :: rest) = effectiveLevel (other :: rest) := by
  simp only [effectiveLevel, List.find?_cons, same]
  cases other.level != 0 <;> simp [same]

namespace State

/-- The loggers `callHandlers` visits from `ref`, following parents to the root; `fuel` bounds
the walk. -/
def chain (s : State) : Nat → LoggerRef → List LoggerState
  | _, none => [s.root]
  | 0, some _ => []
  | fuel + 1, some name =>
      match s.logger (some name) with
      | some l => l :: s.chain fuel l.parent
      | none => []

/-- The walk from a logger: parents have shorter names, so the name's length is fuel enough. -/
def path (s : State) (ref : LoggerRef) : List LoggerState :=
  s.chain (refName ref).length ref

/-- `isEnabledFor(level)`: `logging.disable` is never called, so only the effective level
counts. -/
def isEnabledFor (s : State) (ref : LoggerRef) (level : Nat) : Bool :=
  0 < level && effectiveLevel (s.path ref) ≤ level

/-- The handlers `callHandlers` finds along the path. -/
def handlersOnPath (s : State) (ref : LoggerRef) : Nat :=
  ((s.path ref).map (·.handlers)).sum

/-- `logging.Logger.log(level, msg)` on `ref` at the time `asctime`: nothing below the level;
otherwise the record, through the logger's filters, to the handlers.  `none` where a filter sets
an attribute the model does not follow. -/
def emit (s : State) (ref : LoggerRef) (level : Nat) (msg asctime : PyStr) : Option (List PyStr) :=
  if s.isEnabledFor ref level then
    match s.logger ref with
    | some l =>
        (LogRecord.applyFilters ⟨.str (refName ref), .str (levelName level), .str msg⟩ l.filters).map
          (handled (s.handlersOnPath ref) level asctime)
    | none => some []
  else some []

variable {s : State} {name : PyStr} {f : LoggerState → LoggerState}

/-- A change to `name` leaves the walk from any shorter name as it was. -/
theorem chain_modify_of_shorter (wf : s.WellFormed) (fuel : Nat) (ref : LoggerRef)
    (shorter : ∀ p, ref = some p → p.length < name.length) :
    (s.modify (some name) f).chain fuel ref = s.chain fuel ref := by
  induction fuel generalizing ref with
  | zero => cases ref <;> simp [chain, root_modify_some]
  | succ fuel ih =>
    cases ref with
    | none => simp [chain, root_modify_some]
    | some p =>
      have other : some p ≠ some name := by
        rintro ⟨⟩
        exact Nat.lt_irrefl _ (shorter _ rfl)
      simp only [chain, logger_modify, if_neg other]
      split
      · next l found =>
        exact congrArg (l :: ·) (ih l.parent fun q parent =>
          Nat.lt_trans (wf.parent_shorter found parent) (shorter p rfl))
      · rfl

/-- A change to a logger that keeps its parent changes only the first step of its walk. -/
theorem path_modify (wf : s.WellFormed) {ref : LoggerRef} (named : ref ≠ some [])
    {l : LoggerState} (found : s.logger ref = some l) (keeps : (f l).parent = l.parent) :
    ∃ rest, s.path ref = l :: rest ∧ (s.modify ref f).path ref = f l :: rest := by
  cases ref with
  | none =>
    cases found
    exact ⟨[], rfl, rfl⟩
  | some name =>
    obtain ⟨c, cs, rfl⟩ : ∃ c cs, name = c :: cs := by
      cases name with
      | nil => exact absurd rfl named
      | cons c cs => exact ⟨c, cs, rfl⟩
    refine ⟨s.chain cs.length l.parent, ?_, ?_⟩
    · simp [path, refName, chain, found]
    · have changed : (s.modify (some (c :: cs)) f).logger (some (c :: cs)) = some (f l) := by
        simp [logger_modify, found]
      simp only [path, refName, List.length_cons, chain, changed, keeps]
      rw [chain_modify_of_shorter wf cs.length l.parent fun p parent => wf.parent_shorter found parent]

/-- What `emit` reads of the walk from a logger: the levels along it, the handlers on it, and the
logger's own filters. -/
theorem emit_of_path {ref : LoggerRef} {l : LoggerState} {rest : List LoggerState}
    (found : s.logger ref = some l) (onPath : s.path ref = l :: rest) (level : Nat)
    (msg asctime : PyStr) :
    s.emit ref level msg asctime =
      if 0 < level ∧ effectiveLevel (l :: rest) ≤ level then
        (LogRecord.applyFilters ⟨.str (refName ref), .str (levelName level), .str msg⟩ l.filters).map
          (handled (l.handlers + (rest.map (·.handlers)).sum) level asctime)
      else some [] := by
  simp [emit, isEnabledFor, handlersOnPath, found, onPath]

end State

end Logging
end Python
end Kennel
