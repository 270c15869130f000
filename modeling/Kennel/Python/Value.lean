import Kennel.Python.Float

namespace Kennel
namespace Python

/-!
# Python values that cross the harness

The values the harness decodes, builds, passes to a plugin and encodes: what `json.loads`
returns, the dictionaries of `to_dict`, and whatever a plugin puts into a `Response`.  A
dictionary is its list of entries in insertion order, as a Python `dict` iterates them.  Any
other object stands as `object`, with the name of its class (what `json.dumps` names when it
refuses it) and its truth value.

Keys are looked up with a `str`, which in Python equals only a `str` with the same code points,
so the lookups below compare only `str` keys.
-/

/-- A Python value. -/
inductive PyVal where
  | none
  | bool (b : Bool)
  | int (n : Int)
  | float (x : PyFloat)
  | str (s : PyStr)
  | list (items : List PyVal)
  | tuple (items : List PyVal)
  | dict (entries : List (PyVal × PyVal))
  | object (cls : PyStr) (truthy : Bool)

namespace PyVal

/-- A `str` value from a Lean literal. -/
def lit (s : String) : PyVal :=
  .str (text s)

/-- `type(v).__name__`. -/
def typeName : PyVal → PyStr
  | .none => text "NoneType"
  | .bool _ => text "bool"
  | .int _ => text "int"
  | .float _ => text "float"
  | .str _ => text "str"
  | .list _ => text "list"
  | .tuple _ => text "tuple"
  | .dict _ => text "dict"
  | .object cls _ => cls

/-- `bool(v)`. -/
def truthy : PyVal → Bool
  | .none => false
  | .bool b => b
  | .int n => n != 0
  | .float x => x.truthy
  | .str s => !s.isEmpty
  | .list items => !items.isEmpty
  | .tuple items => !items.isEmpty
  | .dict entries => !entries.isEmpty
  | .object _ t => t

/-- `v or default`. -/
def orElse (v default : PyVal) : PyVal :=
  if v.truthy then v else default

/-- `v == s` for a `str` `s`. -/
def isStr (s : PyStr) : PyVal → Bool
  | .str t => t == s
  | _ => false

end PyVal

/-- The entries of a Python `dict`, in insertion order. -/
abbrev Entries := List (PyVal × PyVal)

namespace Entries

/-- `d[key]` for a `str` key, when `key in d`. -/
def lookup (d : Entries) (key : PyStr) : Option PyVal :=
  (d.find? fun entry => entry.1.isStr key).map (·.2)

/-- `d.get(key, default)`. -/
def get (d : Entries) (key : PyStr) (default : PyVal) : PyVal :=
  (lookup d key).getD default

/-- `d[key] = value` for a `str` key: a present key keeps its place and takes the new value. -/
def insert (d : Entries) (key : PyStr) (value : PyVal) : Entries :=
  if (lookup d key).isSome then
    d.map fun entry => if entry.1.isStr key then (entry.1, value) else entry
  else d ++ [(.str key, value)]

@[simp] theorem lookup_nil (key : PyStr) : lookup [] key = none := rfl

theorem lookup_cons (k v : PyVal) (d : Entries) (key : PyStr) :
    lookup ((k, v) :: d) key = if k.isStr key then some v else lookup d key := by
  unfold lookup
  cases match_key : k.isStr key <;> simp [List.find?_cons, match_key]

end Entries

namespace PyVal

/-- `v.get(key, default)`: a `dict` looks the key up; anything else has no `get`. -/
def getAttr (v : PyVal) (key : PyStr) (default : PyVal) : Except PyExc PyVal :=
  match v with
  | .dict d => .ok (Entries.get d key default)
  | _ => .error (attributeError v.typeName (text "get"))

@[simp] theorem getAttr_dict (d : Entries) (key : PyStr) (default : PyVal) :
    (PyVal.dict d).getAttr key default = .ok (Entries.get d key default) := rfl

@[simp] theorem isStr_str (s t : PyStr) : (PyVal.str t).isStr s = (t == s) := rfl

/-- A value equals at most one `str`. -/
theorem isStr_eq_false_of_isStr {v : PyVal} {s t : PyStr} (same : v.isStr s) (other : s ≠ t) :
    v.isStr t = false := by
  cases v <;> simp_all [isStr]

end PyVal

end Python
end Kennel
