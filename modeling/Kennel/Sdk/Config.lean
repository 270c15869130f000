import Kennel.Json.Decode

namespace Kennel
namespace Sdk

open Python

/-!
# `ConfigHelper`

The typed accessors of `config.py`.  Each accessor runs one coercion chain on a stored value:
the chain either gives the value to return, falls through to the caller's default, or raises.
The flat accessors run it on `self.config[key]` when `key in self.config`; the nested ones run it
on `get_nested(path)`, whose own default is `None`.  The chains of a flat accessor and of its
nested counterpart are the same lines of Python, so each chain is written once here, and each
accessor is its family's definition applied to its chain.

Only the `str` branches of `get_int` and `get_float` guard their conversion, with
`except ValueError`; `int(x)` of an infinite or `nan` float and `float(n)` of an `int` past the
largest double raise through the accessor.
-/

/-- A coercion chain: what the accessor returns for a stored value, `none` when it falls
through to the default. -/
abbrev Coercion := PyVal → Except PyExc (Option PyVal)

/-- `isinstance(value, str)`. -/
def stringChain : Coercion
  | .str s => .ok (some (.str s))
  | _ => .ok none

/-- `isinstance(value, int)` (a `bool` is one) returns it; a float goes through `int(value)`;
a `str` through `int(value)`, falling through on `ValueError`. -/
def intChain : Coercion
  | .int n => .ok (some (.int n))
  | .bool b => .ok (some (.bool b))
  | .float x => x.toInt.map fun n => some (.int n)
  | .str s => .ok ((intOfStr? s).map .int)
  | _ => .ok none

/-- A float is returned; an `int` (a `bool` is one) goes through `float(value)`; a `str`
through `float(value)`, falling through on `ValueError`. -/
def floatChain : Coercion
  | .float x => .ok (some (.float x))
  | .int n => (PyFloat.ofInt n).map fun x => some (.float x)
  | .bool b => (PyFloat.ofInt (if b then 1 else 0)).map fun x => some (.float x)
  | .str s => .ok ((floatOfStr? s).map .float)
  | _ => .ok none

/-- A `bool` is returned; a `str` is tested against the truthy words; an `int` against zero. -/
def boolChain : Coercion
  | .bool b => .ok (some (.bool b))
  | .str s => .ok (some (.bool (truthyWord s)))
  | .int n => .ok (some (.bool (n != 0)))
  | _ => .ok none

/-- `isinstance(value, list)`. -/
def listChain : Coercion
  | .list items => .ok (some (.list items))
  | _ => .ok none

/-- `isinstance(value, dict)`. -/
def dictChain : Coercion
  | .dict entries => .ok (some (.dict entries))
  | _ => .ok none

/-- `if default_value is None: default_value = empty`. -/
def defaultOr (default empty : PyVal) : PyVal :=
  match default with
  | .none => empty
  | d => d

/-- A `ConfigHelper` over a configuration dictionary. -/
structure ConfigHelper where
  config : Entries

namespace ConfigHelper

/-- The flat accessors: the chain on `self.config[key]` when `key in self.config`. -/
def flatAccessor (chain : Coercion) (c : ConfigHelper) (key : PyStr) (default : PyVal) :
    Except PyExc PyVal :=
  match Entries.lookup c.config key with
  | some value => (chain value).map fun coerced => coerced.getD default
  | none => .ok default

/-- `get_nested(path, default_value)`: follow the dot-separated keys through dictionaries; the
default at the first key that is missing or lies under a value that is not a `dict`. -/
def getNested (c : ConfigHelper) (path : PyStr) (default : PyVal := .none) : PyVal :=
  go (.dict c.config) (splitDot path)
where
  /-- Follow the remaining keys from `current`. -/
  go (current : PyVal) : List PyStr → PyVal
    | [] => current
    | key :: keys =>
        match current with
        | .dict d =>
            match Entries.lookup d key with
            | some value => go value keys
            | none => default
        | _ => default

/-- The nested accessors: the chain on `get_nested(path)`. -/
def nestedAccessor (chain : Coercion) (c : ConfigHelper) (path : PyStr) (default : PyVal) :
    Except PyExc PyVal :=
  (chain (c.getNested path)).map fun coerced => coerced.getD default

/-- `get_string(key, default_value="")`. -/
def getString (c : ConfigHelper) (key : PyStr) (default : PyVal := .lit "") :=
  flatAccessor stringChain c key default

/-- `get_int(key, default_value=0)`. -/
def getInt (c : ConfigHelper) (key : PyStr) (default : PyVal := .int 0) :=
  flatAccessor intChain c key default

/-- `get_float(key, default_value=0.0)`. -/
def getFloat (c : ConfigHelper) (key : PyStr) (default : PyVal := .float (.zero false)) :=
  flatAccessor floatChain c key default

/-- `get_bool(key, default_value=False)`. -/
def getBool (c : ConfigHelper) (key : PyStr) (default : PyVal := .bool false) :=
  flatAccessor boolChain c key default

/-- `get_list(key, default_value=None)`. -/
def getList (c : ConfigHelper) (key : PyStr) (default : PyVal := .none) :=
  flatAccessor listChain c key (defaultOr default (.list []))

/-- `get_dict(key, default_value=None)`. -/
def getDict (c : ConfigHelper) (key : PyStr) (default : PyVal := .none) :=
  flatAccessor dictChain c key (defaultOr default (.dict []))

/-- The items of a list that are `str`s. -/
def strItems : PyVal → List PyVal
  | .list items => items.filter fun
      | .str _ => true
      | _ => false
  | _ => []

/-- `get_string_list(key, default_value=None)`: the `str` items of `get_list(key, [])`, or the
default when there are none and the default is truthy. -/
def getStringList (c : ConfigHelper) (key : PyStr) (default : PyVal := .none) :
    Except PyExc PyVal :=
  (c.getList key (.list [])).map fun valueList =>
    let result := strItems valueList
    let default := defaultOr default (.list [])
    if result.isEmpty && default.truthy then default else .list result

/-- `get_nested_string(path, default_value="")`. -/
def getNestedString (c : ConfigHelper) (path : PyStr) (default : PyVal := .lit "") :=
  nestedAccessor stringChain c path default

/-- `get_nested_int(path, default_value=0)`. -/
def getNestedInt (c : ConfigHelper) (path : PyStr) (default : PyVal := .int 0) :=
  nestedAccessor intChain c path default

/-- `get_nested_bool(path, default_value=False)`. -/
def getNestedBool (c : ConfigHelper) (path : PyStr) (default : PyVal := .bool false) :=
  nestedAccessor boolChain c path default

/-- `get_nested_dict(path, default_value=None)`. -/
def getNestedDict (c : ConfigHelper) (path : PyStr) (default : PyVal := .none) :=
  nestedAccessor dictChain c path (defaultOr default (.dict []))

/-- `get_nested_list(path, default_value=None)`. -/
def getNestedList (c : ConfigHelper) (path : PyStr) (default : PyVal := .none) :=
  nestedAccessor listChain c path (defaultOr default (.list []))

/-! ## The nested accessors on a key without a dot -/

/-- A key without a dot is one step of `get_nested`: the stored value, or `None`. -/
theorem getNested_of_not_mem (c : ConfigHelper) {key : PyStr} (noDot : dot ∉ key) :
    c.getNested key = (Entries.lookup c.config key).getD .none := by
  simp only [getNested, splitDot_of_not_mem noDot, getNested.go]
  cases Entries.lookup c.config key <;> rfl

/-- A chain that passes `None` to the default makes the two families agree on a key without a
dot: a missing key and a stored `None` both give the default. -/
theorem nestedAccessor_of_not_mem {chain : Coercion} (fallsThrough : chain .none = .ok none)
    (c : ConfigHelper) {key : PyStr} (noDot : dot ∉ key) (default : PyVal) :
    nestedAccessor chain c key default = flatAccessor chain c key default := by
  unfold nestedAccessor flatAccessor
  rw [getNested_of_not_mem c noDot]
  cases Entries.lookup c.config key with
  | none => simp [fallsThrough, Except.map]
  | some value => rfl

theorem nested_accessors_agree_with_flat (c : ConfigHelper) (key : PyStr) (noDot : dot ∉ key)
    (default : PyVal) :
    c.getNestedString key default = c.getString key default ∧
      c.getNestedInt key default = c.getInt key default ∧
      c.getNestedBool key default = c.getBool key default ∧
      c.getNestedList key default = c.getList key default ∧
      c.getNestedDict key default = c.getDict key default :=
  ⟨nestedAccessor_of_not_mem rfl c noDot _, nestedAccessor_of_not_mem rfl c noDot _,
    nestedAccessor_of_not_mem rfl c noDot _, nestedAccessor_of_not_mem rfl c noDot _,
    nestedAccessor_of_not_mem rfl c noDot _⟩

theorem nested_accessors_agree_on_port :
    dot ∉ text "port" ∧
      let c : ConfigHelper := ⟨[(.lit "port", .lit "8080")]⟩
      c.getNestedString (text "port") .none = c.getString (text "port") .none ∧
        c.getNestedInt (text "port") .none = c.getInt (text "port") .none ∧
        c.getNestedBool (text "port") .none = c.getBool (text "port") .none ∧
        c.getNestedList (text "port") .none = c.getList (text "port") .none ∧
        c.getNestedDict (text "port") .none = c.getDict (text "port") .none :=
  ⟨by decide, nested_accessors_agree_with_flat _ _ (by decide) _⟩

/-! ## A dot path is iterated single-key lookup -/

/-- One key of a path: the value under `key` when `current` is a `dict` that holds it. -/
def lookupKey (current : PyVal) (key : PyStr) : Option PyVal :=
  match current with
  | .dict d => Entries.lookup d key
  | _ => none

/-- Single-key lookup iterated along `keys`: `none` at the first key that is missing or lies
under a value that is not a `dict`. -/
def resolve (current : PyVal) : List PyStr → Option PyVal
  | [] => some current
  | key :: keys => (lookupKey current key).bind fun value => resolve value keys

theorem resolve_append (current : PyVal) (keys more : List PyStr) :
    resolve current (keys ++ more) = (resolve current keys).bind fun value => resolve value more := by
  induction keys generalizing current with
  | nil => rfl
  | cons key keys rest =>
      show ((lookupKey current key).bind fun value => resolve value (keys ++ more)) =
        ((lookupKey current key).bind fun value => resolve value keys).bind fun value => resolve value more
      cases lookupKey current key with
      | none => rfl
      | some value => exact rest value

/-- `get_nested`'s loop is `resolve`, with the default for `none`. -/
theorem getNested_go_eq (default current : PyVal) (keys : List PyStr) :
    getNested.go default current keys = (resolve current keys).getD default := by
  induction keys generalizing current with
  | nil => rfl
  | cons key keys rest =>
      cases current with
      | dict d =>
          cases found : Entries.lookup d key with
          | none => simp [getNested.go, resolve, lookupKey, found]
          | some value => simp [getNested.go, resolve, lookupKey, found, rest value]
      | _ => rfl

/-- Splitting at every dot distributes over a concatenation at a dot. -/
theorem splitDot_append_dot (p q : PyStr) : splitDot (p ++ text "." ++ q) = splitDot p ++ splitDot q := by
  unfold splitDot List.splitOn
  induction p with
  | nil => simp [show text "." = [dot] from rfl]
  | cons c p rest =>
      simp only [List.cons_append, List.splitOnP_cons, rest]
      split
      · rfl
      · cases parts : List.splitOnP (· == dot) p with
        | nil => exact absurd parts (List.splitOnP_ne_nil _ _)
        | cons first others => rfl

/-- A value that is not a `dict` reaches nothing along a path: `split` gives at least one key. -/
theorem resolve_splitDot_of_not_dict {v : PyVal} (notDict : ∀ d, v ≠ .dict d) (q : PyStr) :
    resolve v (splitDot q) = none := by
  cases keys : splitDot q with
  | nil => exact absurd keys (List.splitOnP_ne_nil _ _)
  | cons key _ =>
      cases v <;> first | exact absurd rfl (notDict _) | rfl

/-- `get_nested` is single-key lookup iterated over `path.split(".")`; so `p.q` is `q` looked
up in the `dict` that `p` reaches, and the default when `p` reaches no `dict`: a key of `p` is
missing, lies under a value that is not a `dict`, or `p` ends at one. -/
theorem getNested_dotted (c : ConfigHelper) (p q : PyStr) (default : PyVal) :
    c.getNested p default = (resolve (.dict c.config) (splitDot p)).getD default ∧
      c.getNested (p ++ text "." ++ q) default =
        match resolve (.dict c.config) (splitDot p) with
        | some (.dict v) => (ConfigHelper.mk v).getNested q default
        | _ => default := by
  refine ⟨getNested_go_eq _ _ _, ?_⟩
  simp only [getNested, splitDot_append_dot, getNested_go_eq, resolve_append]
  rcases resolve (.dict c.config) (splitDot p) with _ | v
  · rfl
  · cases v with
    | dict v => rfl
    | _ => simp [resolve_splitDot_of_not_dict]

example : (ConfigHelper.mk [(.lit "db", .dict [(.lit "port", .int 5432)])]).getNested
    (text "db.port") = .int 5432 := rfl

/-! ## What the accessors raise -/

/-- An accessor raises exactly when its chain raises on the value stored under the key. -/
theorem flatAccessor_eq_error_iff (chain : Coercion) (c : ConfigHelper) (key : PyStr)
    (default : PyVal) (e : PyExc) :
    flatAccessor chain c key default = .error e ↔
      ∃ value, Entries.lookup c.config key = some value ∧ chain value = .error e := by
  unfold flatAccessor
  cases Entries.lookup c.config key with
  | none => simp
  | some value => cases h : chain value <;> simp [Except.map, h]

/-- `get_int`'s chain raises only in `int(x)` of a float, which raises for the infinities and
`nan`. -/
theorem intChain_eq_error_iff (value : PyVal) (e : PyExc) :
    intChain value = .error e ↔ ∃ x, value = .float x ∧ x.toInt = .error e := by
  cases value with
  | float x => cases h : x.toInt <;> simp [intChain, Except.map, h]
  | _ => simp [intChain]

/-- `get_float`'s chain raises only in `float(n)` of an `int` past the largest double; a `bool`
converts to `0.0` or `1.0`. -/
theorem floatChain_eq_error_iff (value : PyVal) (e : PyExc) :
    floatChain value = .error e ↔ ∃ n, value = .int n ∧ PyFloat.ofInt n = .error e := by
  cases value with
  | int n => cases h : PyFloat.ofInt n <;> simp [floatChain, Except.map, h]
  | bool b =>
      obtain ⟨x, converts, -⟩ := PyFloat.ofInt_of_lt (n := if b then 1 else 0)
        (by split <;> decide)
      simp [floatChain, converts, Except.map]
  | _ => simp [floatChain]

/-- The chains of `get_string`, `get_bool`, `get_list` and `get_dict` never raise. -/
theorem chains_never_raise (value : PyVal) (e : PyExc) :
    stringChain value ≠ .error e ∧ boolChain value ≠ .error e ∧ listChain value ≠ .error e ∧
      dictChain value ≠ .error e := by
  cases value <;> simp [stringChain, boolChain, listChain, dictChain]

theorem getInt_raises_on_infinite_config :
    Json.loads (text "\x7b\"timeout\": Infinity\x7d") =
        .ok (.dict [(.lit "timeout", .float (.infinity false))]) ∧
      (ConfigHelper.mk [(.lit "timeout", .float (.infinity false))]).getInt (text "timeout") =
        .error ⟨text "OverflowError", text "cannot convert float infinity to integer"⟩ :=
  ⟨rfl, rfl⟩

end ConfigHelper

end Sdk
end Kennel
