import Kennel.Python.Logging

namespace Kennel
namespace Python
namespace Logging

/-!
# The logger hierarchy

`Manager.getLogger` keeps the loggers in a tree by their dotted names.  The parent of a logger
is meant to be the logger at the longest prefix of its name that ends before one of its dots,
the root if no such prefix has a logger.  `_fixupParents` gives a new logger that parent and
lists it in a placeholder at every prefix it passes on the way; `_fixupChildren` later hands the
loggers a placeholder listed to the logger created in its place.

This module proves that `getLogger` keeps every parent right (`Hierarchy`, kept by
`getLogger_hierarchy`), as long as the new name is not a prefix of `root`: `_fixupChildren`
compares a child's parent's name with the new one, and the root's name is `root`, so a logger
`r` would not adopt a child of the root.
-/

/-! ## The parent a name should have -/

/-- Whether an entry is a logger rather than a placeholder. -/
def Entry.isLogger : Entry → Bool
  | .logger _ => true
  | .placeholder _ => false

/-- Whether the dictionary holds a logger under `key`. -/
def isLoggerAt (d : List (PyStr × Entry)) (key : PyStr) : Bool :=
  ((findEntry d key).map Entry.isLogger).getD false

/-- The first prefix of `name` at `stops` that holds a logger. -/
def nearestAt (d : List (PyStr × Entry)) (name : PyStr) : List Nat → Option PyStr
  | [] => none
  | i :: stops => if isLoggerAt d (name.take i) then some (name.take i) else nearestAt d name stops

/-- The parent the hierarchy gives `name`: the logger at the longest prefix before one of its
dots, in the order `_fixupParents` tries them; `none`, the root, if there is none. -/
def nearest (d : List (PyStr × Entry)) (name : PyStr) : Option PyStr :=
  nearestAt d name (dotStops name)

/-- The stops of `name` tried before its nearest logger: a placeholder there lists `name`. -/
def pending (d : List (PyStr × Entry)) (name : PyStr) : List Nat :=
  (dotStops name).takeWhile fun i => !isLoggerAt d (name.take i)

theorem isLoggerAt_iff {d : List (PyStr × Entry)} {key : PyStr} :
    isLoggerAt d key = true ↔ ∃ l, findEntry d key = some (.logger l) := by
  unfold isLoggerAt
  rcases findEntry d key with _ | _ | _ <;> simp [Entry.isLogger]

@[simp] theorem isLoggerAt_setEntry (d : List (PyStr × Entry)) (name key : PyStr) (e : Entry) :
    isLoggerAt (setEntry d name e) key = if key = name then e.isLogger else isLoggerAt d key := by
  unfold isLoggerAt
  rw [findEntry_setEntry]
  split <;> rfl

/-! ## The stops of a name -/

theorem dotStops.go_pos (name : PyStr) (skip : Bool) (bound : Nat) :
    ∀ i ∈ dotStops.go name skip bound, 0 < i := by
  induction bound generalizing skip with
  | zero => simp [go]
  | succ b ih =>
    cases skip
    · simp only [go]
      split
      · next stop => exact List.forall_mem_cons.mpr ⟨stop.2, ih true⟩
      · exact ih false
    · exact ih false

theorem dotStops.go_pairwise (name : PyStr) (skip : Bool) (bound : Nat) :
    (dotStops.go name skip bound).Pairwise (· > ·) := by
  induction bound generalizing skip with
  | zero => simp [go]
  | succ b ih =>
    cases skip
    · simp only [go]
      split
      · exact .cons (fun i mem => dotStops.go_lt name true b i mem) (ih true)
      · exact ih false
    · exact ih false

theorem dotStops_pos (name : PyStr) : ∀ i ∈ dotStops name, 0 < i :=
  dotStops.go_pos name false name.length

theorem dotStops_pairwise (name : PyStr) : (dotStops name).Pairwise (· > ·) :=
  dotStops.go_pairwise name false name.length

/-- Different stops cut different prefixes. -/
theorem take_inj_of_stops {name : PyStr} {i k : Nat} (hi : i < name.length) (hk : k < name.length)
    (same : name.take i = name.take k) : i = k := by
  have := congrArg List.length same
  simp only [List.length_take] at this
  omega

/-! ## The nearest logger along the stops -/

section Nearest

variable {d d' : List (PyStr × Entry)} {m name p : PyStr} {stops : List Nat} {k : Nat}

theorem nearestAt_mem (found : nearestAt d m stops = some p) :
    ∃ j ∈ stops, p = m.take j ∧ isLoggerAt d p = true := by
  induction stops with
  | nil => cases found
  | cons i stops ih =>
    simp only [nearestAt] at found
    split at found
    · next here => cases found; exact ⟨i, .head _, rfl, here⟩
    · obtain ⟨j, mem, rfl, logger⟩ := ih found
      exact ⟨j, .tail _ mem, rfl, logger⟩

/-- Where only `name` became a logger, a name whose stops reach a logger before `name` keeps
its nearest logger. -/
theorem nearestAt_of_not_pending
    (added : ∀ key, isLoggerAt d' key = (decide (key = name) || isLoggerAt d key))
    (missed : ∀ i ∈ stops.takeWhile (fun i => !isLoggerAt d (m.take i)), m.take i ≠ name) :
    nearestAt d' m stops = nearestAt d m stops := by
  induction stops with
  | nil => rfl
  | cons i stops ih =>
    by_cases here : isLoggerAt d (m.take i) = true
    · simp [nearestAt, added, here]
    · have pending : (i :: stops).takeWhile (fun i => !isLoggerAt d (m.take i)) =
          i :: stops.takeWhile (fun i => !isLoggerAt d (m.take i)) :=
        List.takeWhile_cons_of_pos (by simpa using here)
      rw [pending] at missed
      have other := missed i (.head _)
      simp only [nearestAt, added, here, other, decide_False, Bool.false_or, if_false]
      exact ih fun j mem => missed j (.tail _ mem)

/-- Where only `name` became a logger, a name whose stops reach `name` before any other logger
now has `name` as its nearest logger. -/
theorem nearestAt_of_pending
    (added : ∀ key, isLoggerAt d' key = (decide (key = name) || isLoggerAt d key))
    (inside : ∀ i ∈ stops, i < m.length)
    (reached : k ∈ stops.takeWhile (fun i => !isLoggerAt d (m.take i))) (cut : m.take k = name) :
    nearestAt d' m stops = some name := by
  induction stops with
  | nil => cases reached
  | cons i stops ih =>
    have short : k < m.length := inside k ((List.takeWhile_sublist _).subset reached)
    by_cases here : isLoggerAt d (m.take i) = true
    · rw [List.takeWhile_cons_of_neg (by simpa using here)] at reached
      cases reached
    · rw [List.takeWhile_cons_of_pos (by simpa using here)] at reached
      by_cases same : i = k
      · subst same
        simp [nearestAt, added, cut]
      · have other : m.take i ≠ name := fun eq =>
          same (take_inj_of_stops (inside i (.head _)) short (eq.trans cut.symm))
        have rest : k ∈ stops.takeWhile (fun i => !isLoggerAt d (m.take i)) := by
          rcases List.mem_cons.mp reached with eq | mem
          · exact absurd eq.symm same
          · exact mem
        simp only [nearestAt, added, here, other, decide_False, Bool.false_or, if_false]
        exact ih (fun j mem => inside j (.tail _ mem)) rest

/-- The nearest logger lies past every stop tried before it. -/
theorem nearestAt_lt_of_pending (sorted : stops.Pairwise (· > ·))
    (reached : k ∈ stops.takeWhile (fun i => !isLoggerAt d (m.take i)))
    (found : nearestAt d m stops = some p) : ∃ j, p = m.take j ∧ j < k := by
  induction stops with
  | nil => cases reached
  | cons i stops ih =>
    obtain ⟨later, sorted⟩ := List.pairwise_cons.mp sorted
    by_cases here : isLoggerAt d (m.take i) = true
    · rw [List.takeWhile_cons_of_neg (by simpa using here)] at reached
      cases reached
    · rw [List.takeWhile_cons_of_pos (by simpa using here)] at reached
      simp only [nearestAt, here, if_false, Bool.false_eq_true] at found
      rcases List.mem_cons.mp reached with rfl | mem
      · obtain ⟨j, mem, rfl, -⟩ := nearestAt_mem found
        exact ⟨j, rfl, later j mem⟩
      · exact ih sorted mem found

/-- A stop passed without reaching it comes after the nearest logger. -/
theorem nearestAt_gt_of_passed (sorted : stops.Pairwise (· > ·)) (stop : k ∈ stops)
    (vacant : isLoggerAt d (m.take k) = false)
    (passed : k ∉ stops.takeWhile (fun i => !isLoggerAt d (m.take i))) :
    ∃ j, nearestAt d m stops = some (m.take j) ∧ k < j := by
  induction stops with
  | nil => cases stop
  | cons i stops ih =>
    obtain ⟨later, sorted⟩ := List.pairwise_cons.mp sorted
    by_cases here : isLoggerAt d (m.take i) = true
    · have other : k ≠ i := by rintro rfl; simp [here] at vacant
      refine ⟨i, by simp [nearestAt, here], later k ?_⟩
      exact (List.mem_cons.mp stop).resolve_left other
    · rw [List.takeWhile_cons_of_pos (by simpa using here)] at passed
      have other : k ≠ i := fun eq => passed (eq ▸ .head _)
      simp only [nearestAt, here, if_false, Bool.false_eq_true]
      exact ih sorted ((List.mem_cons.mp stop).resolve_left other) fun mem => passed (.tail _ mem)

end Nearest

/-! ## `_fixupChildren` -/

/-- What `_fixupChildren` does to one child that is a logger: it takes the new logger for
parent unless its parent's name already starts with the new name. -/
def adopt (name : PyStr) (l : LoggerState) : LoggerState :=
  if (refName l.parent).take name.length ≠ name then { l with parent := some name } else l

/-- `adopt` on an entry: placeholders are left alone. -/
def adoptEntry (name : PyStr) : Entry → Entry
  | .logger l => .logger (adopt name l)
  | e => e

theorem adopt_adopt (name : PyStr) (l : LoggerState) : adopt name (adopt name l) = adopt name l := by
  unfold adopt
  split
  · simp [refName]
  · rfl

theorem findEntry_reparent (name : PyStr) (d : List (PyStr × Entry)) (child key : PyStr) :
    findEntry (reparent name d child) key =
      if key = child then (findEntry d key).map (adoptEntry name) else findEntry d key := by
  unfold reparent
  split
  · next l found =>
    split
    · next moved => by_cases same : key = child <;> simp [same, found, adoptEntry, adopt, moved]
    · next kept =>
      by_cases same : key = child
      · subst same; simp [found, adoptEntry, adopt, kept]
      · simp [same]
  · next other =>
    by_cases same : key = child
    · subst same
      rcases found : findEntry d key with _ | _ | _
      · simp
      · exact absurd found (other _)
      · simp [adoptEntry]
    · simp [same]

theorem findEntry_fixupChildren (name : PyStr) (d : List (PyStr × Entry)) (below : List PyStr)
    (key : PyStr) :
    findEntry (fixupChildren name d below) key =
      if key ∈ below then (findEntry d key).map (adoptEntry name) else findEntry d key := by
  induction below generalizing d with
  | nil => simp [fixupChildren]
  | cons child below ih =>
    simp only [fixupChildren, List.foldl_cons] at ih ⊢
    rw [ih, findEntry_reparent]
    by_cases here : key = child
    · subst here
      rcases findEntry d key with _ | _ | _ <;> simp [adoptEntry, adopt_adopt]
    · by_cases later : key ∈ below <;> simp [here, later]

/-! ## `_fixupParents` -/

section FixupParents

variable {name key m : PyStr} {d : List (PyStr × Entry)} {stops : List Nat}

theorem nearestAt_congr {d' : List (PyStr × Entry)} (same : ∀ key, isLoggerAt d' key = isLoggerAt d key)
    (stops : List Nat) : nearestAt d' m stops = nearestAt d m stops := by
  induction stops with
  | nil => rfl
  | cons i stops ih => simp only [nearestAt, same, ih]

/-- A placeholder set where there is no logger leaves the loggers as they are. -/
theorem isLoggerAt_setEntry_placeholder {k : PyStr} {below : List PyStr}
    (vacant : isLoggerAt d k = false) (key : PyStr) :
    isLoggerAt (setEntry d k (.placeholder below)) key = isLoggerAt d key := by
  rw [isLoggerAt_setEntry]
  split
  · next same => subst same; exact vacant.symm
  · rfl

/-- One stop of `_fixupParents` where there is no logger: a placeholder listing `name`. -/
def passEntry (name : PyStr) : Option Entry → List PyStr
  | some (.placeholder below) => if below.contains name then below else below ++ [name]
  | _ => [name]

theorem fixupParents_cons_of_vacant {i : Nat} (vacant : isLoggerAt d (name.take i) = false) :
    fixupParents name (i :: stops) d =
      fixupParents name stops
        (setEntry d (name.take i) (.placeholder (passEntry name (findEntry d (name.take i))))) := by
  simp only [fixupParents]
  split
  · next found => rw [found]; rfl
  · next found => simp [isLoggerAt, found, Entry.isLogger] at vacant
  · next found => rw [found]; rfl

theorem fixupParents_cons_of_logger {i : Nat} (here : isLoggerAt d (name.take i) = true) :
    fixupParents name (i :: stops) d = (some (name.take i), d) := by
  obtain ⟨l, found⟩ := isLoggerAt_iff.mp here
  simp [fixupParents, found]

theorem mem_passEntry {below : List PyStr} (found : findEntry d key = some (.placeholder below))
    (mem : m ∈ below) : m ∈ passEntry name (findEntry d key) := by
  rw [found, passEntry]
  split
  · exact mem
  · exact List.mem_append_left _ mem

theorem name_mem_passEntry (e : Option Entry) : name ∈ passEntry name e := by
  unfold passEntry
  split
  · split
    · next has => exact List.elem_iff.mp has
    · exact List.mem_append_right _ (.head _)
  · exact .head _

theorem isLoggerAt_fixupParents (key : PyStr) :
    isLoggerAt (fixupParents name stops d).2 key = isLoggerAt d key := by
  induction stops generalizing d with
  | nil => rfl
  | cons i stops ih =>
    by_cases here : isLoggerAt d (name.take i) = true
    · rw [fixupParents_cons_of_logger here]
    · rw [Bool.not_eq_true] at here
      rw [fixupParents_cons_of_vacant here, ih, isLoggerAt_setEntry_placeholder here]

/-- `_fixupParents` gives the nearest logger along the stops. -/
theorem fixupParents_fst : (fixupParents name stops d).1 = nearestAt d name stops := by
  induction stops generalizing d with
  | nil => rfl
  | cons i stops ih =>
    by_cases here : isLoggerAt d (name.take i) = true
    · rw [fixupParents_cons_of_logger here]
      simp [nearestAt, here]
    · rw [Bool.not_eq_true] at here
      rw [fixupParents_cons_of_vacant here, ih, nearestAt_congr (isLoggerAt_setEntry_placeholder here)]
      simp [nearestAt, here]

/-- Loggers are left as they are. -/
theorem findEntry_fixupParents_of_logger {l : LoggerState}
    (found : findEntry d key = some (.logger l)) :
    findEntry (fixupParents name stops d).2 key = some (.logger l) := by
  induction stops generalizing d with
  | nil => exact found
  | cons i stops ih =>
    by_cases here : isLoggerAt d (name.take i) = true
    · rw [fixupParents_cons_of_logger here]; exact found
    · rw [Bool.not_eq_true] at here
      have other : key ≠ name.take i := by
        rintro rfl
        simp [isLoggerAt, found, Entry.isLogger] at here
      rw [fixupParents_cons_of_vacant here]
      exact ih (by rw [findEntry_setEntry, if_neg other]; exact found)

/-- A placeholder keeps the names it lists. -/
theorem placeholder_fixupParents {below : List PyStr}
    (found : findEntry d key = some (.placeholder below)) (mem : m ∈ below) :
    ∃ below', findEntry (fixupParents name stops d).2 key = some (.placeholder below') ∧ m ∈ below' := by
  induction stops generalizing d below with
  | nil => exact ⟨below, found, mem⟩
  | cons i stops ih =>
    by_cases here : isLoggerAt d (name.take i) = true
    · rw [fixupParents_cons_of_logger here]; exact ⟨below, found, mem⟩
    · rw [Bool.not_eq_true] at here
      rw [fixupParents_cons_of_vacant here]
      by_cases same : key = name.take i
      · subst same
        exact ih (by rw [findEntry_setEntry, if_pos rfl]) (mem_passEntry found mem)
      · exact ih (by rw [findEntry_setEntry, if_neg same]; exact found) mem

/-- A name a placeholder lists afterwards was listed there before, or is `name` at one of the
stops. -/
theorem placeholder_fixupParents_inv {below' : List PyStr}
    (found : findEntry (fixupParents name stops d).2 key = some (.placeholder below'))
    (mem : m ∈ below') :
    (∃ below, findEntry d key = some (.placeholder below) ∧ m ∈ below) ∨
      (m = name ∧ ∃ i ∈ stops, name.take i = key) := by
  induction stops generalizing d with
  | nil => exact .inl ⟨below', found, mem⟩
  | cons i stops ih =>
    by_cases here : isLoggerAt d (name.take i) = true
    · rw [fixupParents_cons_of_logger here] at found; exact .inl ⟨below', found, mem⟩
    · rw [Bool.not_eq_true] at here
      rw [fixupParents_cons_of_vacant here] at found
      rcases ih found with ⟨below, before, mem⟩ | ⟨rfl, j, stop, cut⟩
      · by_cases same : key = name.take i
        · subst same
          rw [findEntry_setEntry, if_pos rfl, Option.some.injEq, Entry.placeholder.injEq] at before
          subst before
          unfold passEntry at mem
          split at mem
          · next old =>
            split at mem
            · exact .inl ⟨_, old, mem⟩
            · rcases List.mem_append.mp mem with mem | mem
              · exact .inl ⟨_, old, mem⟩
              · exact .inr ⟨List.mem_singleton.mp mem, i, .head _, rfl⟩
          · exact .inr ⟨List.mem_singleton.mp mem, i, .head _, rfl⟩
        · rw [findEntry_setEntry, if_neg same] at before
          exact .inl ⟨below, before, mem⟩
      · exact .inr ⟨rfl, j, .tail _ stop, cut⟩

/-- Every stop tried lists `name` in its placeholder. -/
theorem fixupParents_lists :
    ∀ i ∈ stops.takeWhile (fun i => !isLoggerAt d (name.take i)),
      ∃ below, findEntry (fixupParents name stops d).2 (name.take i) = some (.placeholder below) ∧
        name ∈ below := by
  induction stops generalizing d with
  | nil => nofun
  | cons i stops ih =>
    by_cases here : isLoggerAt d (name.take i) = true
    · rw [List.takeWhile_cons_of_neg (by simpa using here)]
      nofun
    · rw [Bool.not_eq_true] at here
      rw [List.takeWhile_cons_of_pos (by simpa using here), fixupParents_cons_of_vacant here]
      intro j mem
      rcases List.mem_cons.mp mem with rfl | mem
      · exact placeholder_fixupParents (by rw [findEntry_setEntry, if_pos rfl]) (name_mem_passEntry _)
      · refine ih j ?_
        simpa only [isLoggerAt_setEntry_placeholder here] using mem

end FixupParents

/-! ## The invariant -/

/-- The shape `Manager` keeps the tree in.  Every logger has the parent the hierarchy gives it;
a placeholder lists every logger whose stops reach it before any logger; and a placeholder lists
only names it is a stop of. -/
structure Hierarchy (d : List (PyStr × Entry)) : Prop where
  parents : ∀ m l, findEntry d m = some (.logger l) → l.parent = nearest d m
  listed : ∀ m l, findEntry d m = some (.logger l) →
    ∀ i ∈ pending d m, ∃ below, findEntry d (m.take i) = some (.placeholder below) ∧ m ∈ below
  stops : ∀ key below, findEntry d key = some (.placeholder below) →
    ∀ m ∈ below, ∃ i ∈ dotStops m, m.take i = key

theorem hierarchy_nil : Hierarchy [] where
  parents _ _ found := nomatch found
  listed _ _ found := nomatch found
  stops _ _ found := nomatch found

theorem mem_takeWhile_of_imp {α : Type} {p q : α → Bool} (imp : ∀ x, q x = true → p x = true)
    {l : List α} {x : α} (mem : x ∈ l.takeWhile q) : x ∈ l.takeWhile p := by
  induction l with
  | nil => cases mem
  | cons y l ih =>
    by_cases here : q y = true
    · rw [List.takeWhile_cons_of_pos here] at mem
      rw [List.takeWhile_cons_of_pos (imp y here)]
      rcases List.mem_cons.mp mem with rfl | mem
      · exact .head _
      · exact .tail _ (ih mem)
    · rw [List.takeWhile_cons_of_neg here] at mem
      cases mem

theorem isLoggerAt_fixupChildren (name : PyStr) (d : List (PyStr × Entry)) (below : List PyStr)
    (key : PyStr) : isLoggerAt (fixupChildren name d below) key = isLoggerAt d key := by
  unfold isLoggerAt
  rw [findEntry_fixupChildren]
  split
  · rcases findEntry d key with _ | _ | _ <;> rfl
  · rfl

theorem placeholder_fixupChildren {name key : PyStr} {d : List (PyStr × Entry)} {below b : List PyStr} :
    findEntry (fixupChildren name d below) key = some (.placeholder b) ↔
      findEntry d key = some (.placeholder b) := by
  rw [findEntry_fixupChildren]
  split
  · rcases findEntry d key with _ | _ | _ <;> simp [adoptEntry]
  · rfl

/-- `attach` on a new logger: its parent is the one `_fixupParents` finds. -/
theorem attach_of_logger {name : PyStr} {d : List (PyStr × Entry)} {l : LoggerState}
    (found : findEntry d name = some (.logger l)) :
    attach name d = setEntry (fixupParents name (dotStops name) d).2 name
      (.logger { l with parent := (fixupParents name (dotStops name) d).1 }) := by
  unfold attach
  simp only [findEntry_fixupParents _ (dotStops_lt name), found]

theorem isLoggerAt_attach (name : PyStr) (d : List (PyStr × Entry)) (key : PyStr) :
    isLoggerAt (attach name d) key = isLoggerAt d key := by
  unfold attach
  dsimp only
  split
  · next l found =>
    rw [isLoggerAt_setEntry, isLoggerAt_fixupParents]
    split
    · next here =>
      subst here
      rw [findEntry_fixupParents _ (dotStops_lt key)] at found
      simp [isLoggerAt, found, Entry.isLogger]
    · rfl
  · exact isLoggerAt_fixupParents key

/-- A stop's prefix is shorter than the name. -/
theorem take_ne_of_stop {name : PyStr} {i : Nat} (stop : i ∈ dotStops name) : name.take i ≠ name :=
  fun same => by
    have := congrArg List.length same
    simp only [List.length_take] at this
    have := dotStops_lt name i stop
    omega

section Create

variable {d : List (PyStr × Entry)} {name : PyStr} {below : List PyStr}

/-- `getLogger` creating the logger `name`, whose placeholder listed `below`, keeps the
hierarchy, unless `name` is a prefix of `root`. -/
theorem hierarchy_create (h : Hierarchy d) (avoids : (text "root").take name.length ≠ name)
    (notLogger : isLoggerAt d name = false)
    (listedHere : ∀ m l, findEntry d m = some (.logger l) → ∀ i ∈ pending d m, m.take i = name →
      m ∈ below)
    (belowStops : ∀ m ∈ below, ∃ i ∈ dotStops m, m.take i = name) :
    Hierarchy (attach name (fixupChildren name (setEntry d name (.logger .fresh)) below)) := by
  set d2 := fixupChildren name (setEntry d name (.logger .fresh)) below
  have notBelow : name ∉ below := fun mem => by
    obtain ⟨i, stop, cut⟩ := belowStops name mem
    exact take_ne_of_stop stop cut
  have fresh : findEntry d2 name = some (.logger .fresh) := by
    simp [d2, findEntry_fixupChildren, notBelow]
  set fp := fixupParents name (dotStops name) d2
  rw [attach_of_logger fresh]
  have added2 : ∀ key, isLoggerAt d2 key = (decide (key = name) || isLoggerAt d key) := by
    intro key
    by_cases same : key = name <;> simp [d2, isLoggerAt_fixupChildren, same, Entry.isLogger]
  have added : ∀ key, isLoggerAt (setEntry fp.2 name (.logger { LoggerState.fresh with parent := fp.1 }))
      key = (decide (key = name) || isLoggerAt d key) := by
    intro key
    rw [isLoggerAt_setEntry, isLoggerAt_fixupParents, added2]
    by_cases same : key = name <;> simp [same, Entry.isLogger]
  have selfNearest : ∀ d', (∀ key, isLoggerAt d' key = (decide (key = name) || isLoggerAt d key)) →
      nearest d' name = nearest d name := fun d' added' =>
    nearestAt_of_not_pending added' fun i mem =>
      take_ne_of_stop ((List.takeWhile_sublist _).subset mem)
  have others : ∀ key, key ≠ name →
      findEntry (setEntry fp.2 name (.logger { LoggerState.fresh with parent := fp.1 })) key =
        findEntry fp.2 key := fun key other => by
    rw [findEntry_setEntry, if_neg other]
  have oldLogger : ∀ m l, m ≠ name → findEntry d m = some (.logger l) →
      findEntry fp.2 m = some (.logger (if m ∈ below then adopt name l else l)) := by
    intro m l other found
    apply findEntry_fixupParents_of_logger
    simp only [d2, findEntry_fixupChildren, findEntry_setEntry, if_neg other, found]
    split <;> rfl
  refine ⟨?parentsOk, ?listedOk, ?stopsOk⟩
  case parentsOk =>
    intro m l' found
    by_cases self : m = name
    · subst self
      rw [findEntry_setEntry, if_pos rfl] at found
      cases found
      exact fixupParents_fst.trans ((selfNearest _ added2).trans (selfNearest _ added).symm)
    · rw [others m self] at found
      have logger : isLoggerAt d m = true := by
        have := @isLoggerAt_fixupParents name d2 (dotStops name) m
        rw [isLoggerAt_iff.mpr ⟨l', found⟩, added2] at this
        simpa [self] using this.symm
      obtain ⟨l, old⟩ := isLoggerAt_iff.mp logger
      rw [oldLogger m l self old, Option.some.injEq, Entry.logger.injEq] at found
      subst found
      have parent := h.parents m l old
      by_cases reach : ∃ k ∈ pending d m, m.take k = name
      · obtain ⟨k, pend, cut⟩ := reach
        rw [if_pos (listedHere m l old k pend cut), nearest, nearestAt_of_pending added (dotStops_lt m) pend cut]
        have kIn := dotStops_lt m k ((List.takeWhile_sublist _).subset pend)
        have moves : (refName l.parent).take name.length ≠ name := by
          rw [parent, nearest]
          cases near : nearestAt d m (dotStops m) with
          | none => exact avoids
          | some p =>
            obtain ⟨j, rfl, lt⟩ := nearestAt_lt_of_pending (dotStops_pairwise m) pend near
            rw [← cut, refName, List.length_take_of_le kIn.le, List.take_take, min_eq_right lt.le]
            exact fun same => absurd (take_inj_of_stops (by omega) kIn same) (by omega)
        rw [adopt, if_pos moves]
      · push_neg at reach
        rw [nearest, nearestAt_of_not_pending added reach, ← nearest, ← parent]
        split
        · next listed =>
          obtain ⟨k, stop, cut⟩ := belowStops m listed
          have vacant : isLoggerAt d (m.take k) = false := cut ▸ notLogger
          obtain ⟨j, near, lt⟩ :=
            nearestAt_gt_of_passed (dotStops_pairwise m) stop vacant fun pend => reach k pend cut
          have stays : ¬(refName l.parent).take name.length ≠ name := by
            rw [parent, nearest, near, refName, ← cut, List.length_take_of_le (dotStops_lt m k stop).le,
              List.take_take, min_eq_left lt.le]
            exact not_not_intro rfl
          rw [adopt, if_neg stays]
        · rfl
  case listedOk =>
    intro m l' found i pend
    by_cases self : m = name
    · subst self
      have same : ∀ key, isLoggerAt (setEntry fp.2 m (.logger { LoggerState.fresh with parent := fp.1 }))
          key = isLoggerAt d2 key := fun key => (added key).trans (added2 key).symm
      have pend2 : i ∈ (dotStops m).takeWhile (fun i => !isLoggerAt d2 (m.take i)) := by
        simpa only [pending, same] using pend
      obtain ⟨b, atFp, mem⟩ := fixupParents_lists i pend2
      exact ⟨b, by rw [others _ (take_ne_of_stop ((List.takeWhile_sublist _).subset pend2))]; exact atFp,
        mem⟩
    · rw [others m self] at found
      have logger : isLoggerAt d m = true := by
        have := @isLoggerAt_fixupParents name d2 (dotStops name) m
        rw [isLoggerAt_iff.mpr ⟨l', found⟩, added2] at this
        simpa [self] using this.symm
      obtain ⟨l, old⟩ := isLoggerAt_iff.mp logger
      have pendOld : i ∈ pending d m :=
        mem_takeWhile_of_imp (fun x vacant => by simp_all) pend
      have notName : m.take i ≠ name := fun same => by
        have := List.mem_takeWhile_imp pend
        rw [same, added] at this
        simp at this
      obtain ⟨b, atOld, mem⟩ := h.listed m l old i pendOld
      have at2 : findEntry d2 (m.take i) = some (.placeholder b) := by
        rw [placeholder_fixupChildren, findEntry_setEntry, if_neg notName]
        exact atOld
      obtain ⟨b', atFp, mem'⟩ := placeholder_fixupParents at2 mem
      exact ⟨b', by rw [others _ notName]; exact atFp, mem'⟩
  case stopsOk =>
    intro key b found m mem
    by_cases self : key = name
    · subst self
      rw [findEntry_setEntry, if_pos rfl] at found
      cases found
    · rw [others key self] at found
      rcases placeholder_fixupParents_inv found mem with ⟨b0, at2, mem0⟩ | ⟨rfl, i, stop, cut⟩
      · rw [placeholder_fixupChildren, findEntry_setEntry, if_neg self] at at2
        exact h.stops key b0 at2 m mem0
      · exact ⟨i, stop, cut⟩

end Create

/-- A logger changed in place, its parent kept, keeps the hierarchy. -/
theorem hierarchy_setEntry_logger {d : List (PyStr × Entry)} {name : PyStr} {l l' : LoggerState}
    (h : Hierarchy d) (found : findEntry d name = some (.logger l)) (keeps : l'.parent = l.parent) :
    Hierarchy (setEntry d name (.logger l')) := by
  have same : ∀ key, isLoggerAt (setEntry d name (.logger l')) key = isLoggerAt d key := fun key => by
    rw [isLoggerAt_setEntry]
    split
    · next here => subst here; simp [isLoggerAt, found, Entry.isLogger]
    · rfl
  have nearestSame : ∀ m, nearest (setEntry d name (.logger l')) m = nearest d m :=
    fun m => nearestAt_congr same _
  have pendingSame : ∀ m, pending (setEntry d name (.logger l')) m = pending d m := fun m => by
    simp only [pending, same]
  have placeholders : ∀ key b, findEntry (setEntry d name (.logger l')) key = some (.placeholder b) ↔
      findEntry d key = some (.placeholder b) := fun key b => by
    rw [findEntry_setEntry]
    split
    · next here => subst here; simp [found]
    · rfl
  refine ⟨fun m l'' at' => ?_, fun m l'' at' i pend => ?_, fun key b at' => ?_⟩
  · rw [nearestSame]
    rw [findEntry_setEntry] at at'
    split at at'
    · next here => cases at'; subst here; exact keeps.trans (h.parents _ _ found)
    · exact h.parents m l'' at'
  · rw [pendingSame] at pend
    have old : ∃ l₀, findEntry d m = some (.logger l₀) := by
      rw [findEntry_setEntry] at at'
      split at at'
      · next here => exact ⟨l, here ▸ found⟩
      · exact ⟨l'', at'⟩
    obtain ⟨l₀, old⟩ := old
    obtain ⟨b, atOld, mem⟩ := h.listed m l₀ old i pend
    exact ⟨b, (placeholders _ b).mpr atOld, mem⟩
  · exact h.stops key b ((placeholders key b).mp at')

/-- Three names are prefixes of `root` without being `root`: a logger of one of these names
would not adopt the children of the root. -/
def rootPrefixes : List PyStr :=
  [text "r", text "ro", text "roo"]

theorem take_root_ne {name : PyStr} (nonempty : name ≠ []) (notRoot : name ≠ text "root")
    (avoids : name ∉ rootPrefixes) : (text "root").take name.length ≠ name := by
  intro same
  have short : name.length ≤ 4 := by
    have := congrArg List.length same
    simp only [List.length_take] at this
    rw [← this]
    exact min_le_right _ _
  interval_cases n : name.length <;> subst same <;> revert nonempty notRoot avoids <;> decide

namespace State

/-- `getLogger` keeps the hierarchy for every name but the three prefixes of `root`. -/
theorem getLogger_hierarchy {s : State} (name : PyStr) (avoids : name ∉ rootPrefixes)
    (h : Hierarchy s.loggerDict) : Hierarchy (getLogger name s).2.loggerDict := by
  unfold getLogger
  split
  · exact h
  · next nonRoot =>
    have avoidsRoot := take_root_ne (fun e => nonRoot (.inl e)) (fun e => nonRoot (.inr e)) avoids
    split
    · exact h
    · next below found =>
      have notLogger : isLoggerAt s.loggerDict name = false := by simp [isLoggerAt, found, Entry.isLogger]
      refine hierarchy_create h avoidsRoot notLogger (fun m l old i pend cut => ?_)
        (h.stops name below found)
      obtain ⟨b, at', mem⟩ := h.listed m l old i pend
      rw [cut, found, Option.some.injEq, Entry.placeholder.injEq] at at'
      exact at' ▸ mem
    · next vacant =>
      have notLogger : isLoggerAt s.loggerDict name = false := by simp [isLoggerAt, vacant]
      refine @hierarchy_create _ name [] h avoidsRoot notLogger (fun m l old i pend cut => ?_) nofun
      obtain ⟨b, at', -⟩ := h.listed m l old i pend
      rw [cut, vacant] at at'
      cases at'

/-- A change to a logger that keeps its parent keeps the hierarchy. -/
theorem modify_hierarchy {s : State} (ref : LoggerRef) {f : LoggerState → LoggerState}
    (keeps : ∀ l, (f l).parent = l.parent) (h : Hierarchy s.loggerDict) :
    Hierarchy (s.modify ref f).loggerDict := by
  cases ref with
  | none => exact h
  | some name =>
    simp only [modify]
    split
    · next l found => exact hierarchy_setEntry_logger h found (keeps l)
    · exact h

end State

/-! ## The walk to the root

`callHandlers` walks from a logger to its parent, the parent's parent and so on up to the root.
In a `Hierarchy` the walk from a logger meets every logger at a prefix of the name before one
of its dots, longest first, then the root (`State.chain_eq_prefixes`).  The name must not have
two dots next to each other.  The second search of `_fixupParents` skips the index right below
a dot it tried, so from `a..b` it tries `a.` but never `a`, and a logger named `a..b` reaches
the logger `a` only if `a.` is one too. -/

/-- The indices below `bound` of the dots of `name` after its first character, right to left. -/
def dotsBelow (name : PyStr) : Nat → List Nat
  | 0 => []
  | b + 1 => if name[b]? = some dot ∧ 0 < b then b :: dotsBelow name b else dotsBelow name b

/-- The dots of `name` after its first character, right to left: `name.take i` for each of them
is a prefix of `name` before a dot, and the longest prefix comes first. -/
def dotIndices (name : PyStr) : List Nat :=
  dotsBelow name name.length

/-- No two dots of `name` are next to each other. -/
def Spaced (name : PyStr) : Prop :=
  ∀ i < name.length, name[i]? = some dot → name[i + 1]? ≠ some dot

instance (name : PyStr) : Decidable (Spaced name) :=
  inferInstanceAs (Decidable (∀ i < name.length, name[i]? = some dot → name[i + 1]? ≠ some dot))

example : dotIndices (text "a.b..c.d") = [6, 4, 3, 1] ∧ ¬Spaced (text "a.b..c.d") := by decide

section Walk

variable {name : PyStr}

theorem dotsBelow_bounds (b : Nat) : ∀ i ∈ dotsBelow name b, 0 < i ∧ i < b := by
  induction b with
  | zero => nofun
  | succ b ih =>
    intro i mem
    have below : i ∈ dotsBelow name b → 0 < i ∧ i < b + 1 := fun mem =>
      ⟨(ih i mem).1, Nat.lt_succ_of_lt (ih i mem).2⟩
    simp only [dotsBelow] at mem
    split at mem
    · next stop =>
      rcases List.mem_cons.mp mem with rfl | mem
      exacts [⟨stop.2, Nat.lt_succ_self _⟩, below mem]
    · exact below mem

/-- Every dot after the first character is one of the indices. -/
theorem mem_dotsBelow_of_dot {i b : Nat} (lt : i < b) (pos : 0 < i) (dotted : name[i]? = some dot) :
    i ∈ dotsBelow name b := by
  induction b with
  | zero => exact absurd lt (Nat.not_lt_zero i)
  | succ b ih =>
    rcases Nat.lt_succ_iff_lt_or_eq.mp lt with below | rfl
    · simp only [dotsBelow]
      split
      · exact .tail _ (ih below)
      · exact ih below
    · simp only [dotsBelow, if_pos (And.intro dotted pos)]
      exact .head _

theorem mem_dotIndices_of_dot {i : Nat} (pos : 0 < i) (dotted : name[i]? = some dot) :
    i ∈ dotIndices name :=
  mem_dotsBelow_of_dot (List.getElem?_eq_some_iff.mp dotted).1 pos dotted

theorem dotsBelow_pairwise (b : Nat) : (dotsBelow name b).Pairwise (· > ·) := by
  induction b with
  | zero => exact .nil
  | succ b ih =>
    simp only [dotsBelow]
    split
    · exact .cons (fun i mem => (dotsBelow_bounds b i mem).2) ih
    · exact ih

/-- Below `j`, the prefix `name.take j` has the dots `name` has. -/
theorem dotsBelow_take {j : Nat} : ∀ {b}, b ≤ j → dotsBelow (name.take j) b = dotsBelow name b
  | 0, _ => rfl
  | b + 1, le => by
    simp only [dotsBelow, List.getElem?_take_of_lt (show b < j by omega), dotsBelow_take (by omega : b ≤ j)]

theorem dotsBelow_filter {j : Nat} (b : Nat) (le : j ≤ b) :
    (dotsBelow name b).filter (· < j) = dotsBelow name j := by
  induction b, le using Nat.le_induction with
  | base => exact List.filter_eq_self.mpr fun i mem => decide_eq_true (dotsBelow_bounds j i mem).2
  | succ b le ih =>
    simp only [dotsBelow]
    split
    · rw [List.filter_cons_of_neg (by simpa using le), ih]
    · exact ih

/-- The dots of a prefix are those of the name before its end. -/
theorem dotIndices_take {j : Nat} (le : j ≤ name.length) :
    dotIndices (name.take j) = (dotIndices name).filter (· < j) := by
  rw [dotIndices, dotIndices, List.length_take, min_eq_left le, dotsBelow_take le_rfl, dotsBelow_filter _ le]

theorem Spaced.take (spaced : Spaced name) (j : Nat) : Spaced (name.take j) := fun i bound dotted => by
  rw [List.getElem?_take] at dotted ⊢
  split at dotted
  · split
    · exact spaced i (Nat.lt_of_lt_of_le bound (List.length_take_le' j name)) dotted
    · exact (Option.some_ne_none dot).symm
  · cases dotted

/-- Without two dots next to each other, `_fixupParents` tries every dot after the first
character. -/
theorem dotStops.go_of_spaced (spaced : Spaced name) (b : Nat) :
    dotStops.go name false b = dotsBelow name b := by
  induction b using Nat.strongRecOn with
  | ind b ih =>
    cases b with
    | zero => rfl
    | succ b =>
      simp only [dotStops.go, dotsBelow]
      by_cases stop : name[b]? = some dot ∧ 0 < b
      · obtain ⟨c, rfl⟩ : ∃ c, b = c + 1 := ⟨b - 1, by omega⟩
        have apart : ¬(name[c]? = some dot ∧ 0 < c) := fun dotted =>
          spaced c (List.getElem?_eq_some_iff.mp dotted.1).1 dotted.1 stop.1
        rw [if_pos stop, if_pos stop]
        simp only [dotStops.go, dotsBelow, if_neg apart, ih c (by omega)]
      · rw [if_neg stop, if_neg stop]
        exact ih b (by omega)

theorem dotStops_of_spaced (spaced : Spaced name) : dotStops name = dotIndices name :=
  dotStops.go_of_spaced spaced name.length

end Walk

namespace State

variable {s : State} {name p : PyStr} {stops : List Nat}

theorem isLoggerAt_eq_isSome (s : State) (key : PyStr) :
    isLoggerAt s.loggerDict key = (s.logger (some key)).isSome := by
  simp only [isLoggerAt, logger]
  rcases findEntry s.loggerDict key with _ | _ | _ <;> rfl

/-- Where the stops reach no logger, the loggers at them are none. -/
theorem filterMap_logger_of_nearestAt_none (none : nearestAt s.loggerDict name stops = none) :
    stops.filterMap (fun i => s.logger (some (name.take i))) = [] := by
  induction stops with
  | nil => rfl
  | cons i stops ih =>
    simp only [nearestAt] at none
    split at none
    · cases none
    · next vacant =>
      rw [List.filterMap_cons_none (by simpa [isLoggerAt_eq_isSome] using vacant), ih none]

/-- Where the stops, right to left, reach a logger, it is the first of the loggers at them, and
the others are those at the stops left of it. -/
theorem filterMap_logger_of_nearestAt_some (sorted : stops.Pairwise (· > ·))
    (found : nearestAt s.loggerDict name stops = some p) :
    ∃ j ∈ stops, ∃ l, p = name.take j ∧ s.logger (some p) = some l ∧
      stops.filterMap (fun i => s.logger (some (name.take i))) =
        l :: (stops.filter (· < j)).filterMap (fun i => s.logger (some (name.take i))) := by
  induction stops with
  | nil => cases found
  | cons i stops ih =>
    obtain ⟨later, sorted⟩ := List.pairwise_cons.mp sorted
    simp only [nearestAt] at found
    split at found
    · next here =>
      cases found
      obtain ⟨l, at'⟩ := Option.isSome_iff_exists.mp ((isLoggerAt_eq_isSome s _).symm.trans here)
      refine ⟨i, .head _, l, rfl, at', ?_⟩
      rw [List.filterMap_cons_some (f := fun i => s.logger (some (name.take i))) at',
        List.filter_cons_of_neg (by simp),
        List.filter_eq_self.mpr fun k mem => decide_eq_true (later k mem)]
    · next vacant =>
      obtain ⟨j, mem, l, rfl, at', rest⟩ := ih sorted found
      refine ⟨j, .tail _ mem, l, rfl, at', ?_⟩
      rw [List.filterMap_cons_none (by simpa [isLoggerAt_eq_isSome] using vacant),
        List.filter_cons_of_neg (by simpa using (later j mem).le), rest]

/-- In a `Hierarchy`, the walk from a logger whose name has no two dots next to each other meets
the logger, then every logger at a prefix of the name before one of its dots, longest first,
and last the root: it passes the placeholders and leaves out no logger. -/
theorem chain_eq_prefixes (h : Hierarchy s.loggerDict) (fuel : Nat) {l : LoggerState}
    (nonempty : name ≠ []) (enough : name.length ≤ fuel) (spaced : Spaced name)
    (found : s.logger (some name) = some l) :
    s.chain fuel (some name) =
      l :: (dotIndices name).filterMap (fun i => s.logger (some (name.take i))) ++ [s.root] := by
  induction fuel generalizing name l with
  | zero => exact absurd (List.length_eq_zero.mp (Nat.le_zero.mp enough)) nonempty
  | succ fuel ih =>
    have parent : l.parent = nearestAt s.loggerDict name (dotIndices name) := by
      rw [h.parents name l (logger_some.mp found), nearest, dotStops_of_spaced spaced]
    simp only [chain, found, parent]
    cases near : nearestAt s.loggerDict name (dotIndices name) with
    | none => simp [chain, filterMap_logger_of_nearestAt_none near]
    | some p =>
      have sorted : (dotIndices name).Pairwise (· > ·) := dotsBelow_pairwise _
      obtain ⟨j, stop, lp, rfl, at', unfolded⟩ := filterMap_logger_of_nearestAt_some sorted near
      obtain ⟨pos, short⟩ := dotsBelow_bounds _ j stop
      have prefixNonempty : name.take j ≠ [] := fun empty => by
        rcases List.take_eq_nil_iff.mp empty with zero | nil
        exacts [absurd zero pos.ne', nonempty nil]
      have same : ((dotIndices name).filter (· < j)).filterMap (fun i => s.logger (some ((name.take j).take i))) =
          ((dotIndices name).filter (· < j)).filterMap (fun i => s.logger (some (name.take i))) :=
        List.filterMap_congr fun i mem => by
          rw [List.take_take, min_eq_left (of_decide_eq_true (List.mem_filter.mp mem).2).le]
      rw [ih prefixNonempty (by rw [List.length_take]; omega) (spaced.take j) at', unfolded,
        dotIndices_take short.le, same]
      rfl

end State

end Logging
end Python
end Kennel
