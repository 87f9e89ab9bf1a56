/-
# JSON values as Python holds them

`Json` is the type of everything `json.loads` can return: `None`, `bool`, `int`,
`float`, `str`, `list` and `dict`.  A `dict` is its list of items, with distinct
keys wherever it was built by `ofPairs` (`keys_nodup_ofPairs`).

`checkItems` is the loop with which the source builds a checked `dict` from a decoded
one.  `sortKeys` is what `json.dumps(..., sort_keys=True)` writes: every `dict`, at every
level, with its items ordered by key.  Sorting does not change what `get` returns
(`get_sortByKey`), so a validator cannot tell a value from its sorted form.
-/
import SafeAgent.PyDict
import SafeAgent.PyError

/-- A decoded JSON value.  A `float` is kept as its `repr`. -/
inductive Json where
  | null
  | bool (b : Bool)
  | int (n : ℤ)
  | float (repr : PyStr)
  | str (s : PyStr)
  | arr (items : List Json)
  | obj (fields : List (PyStr × Json))
  deriving Inhabited

/-- The items of a Python `dict` with string keys. -/
abbrev JsonFields := PyItems Json

namespace Json

open PyItems

/-! ## Reading a value -/

/-- `fields.get(key)`; a missing key gives `None`. -/
def get (fields : JsonFields) (key : PyStr) : Json := (fields.lookup key).getD .null

/-- `isinstance(value, str)`, with the string. -/
def asStr : Json → Option PyStr
  | .str s => some s
  | _ => none

/-- `isinstance(value, dict)`, with its items. -/
def asObj : Json → Option JsonFields
  | .obj fields => some fields
  | _ => none

/-- `isinstance(value, list)`, with its items. -/
def asArr : Json → Option (List Json)
  | .arr items => some items
  | _ => none

/-- An `int` that is not a `bool`. -/
def asInt : Json → Option ℤ
  | .int n => some n
  | _ => none

/-- `value == text` for a string of the source. -/
def isStr (value : Json) (text : PyStr) : Bool := value.asStr == some text

@[simp] theorem isStr_iff {value : Json} {text : PyStr} :
    value.isStr text = true ↔ value = .str text := by
  cases value <;> simp [isStr, asStr]

/-- `value in names`, a `frozenset` of strings; a list or a `dict` has no hash. -/
def inNames (value : Json) (names : List PyStr) : PyResult Bool :=
  match value with
  | .arr _ => .error (.of .typeError "unhashable type: 'list'")
  | .obj _ => .error (.of .typeError "unhashable type: 'dict'")
  | .str s => .ok (names.contains s)
  | _ => .ok false

theorem get_perm {fields fields' : JsonFields} (hperm : fields.Perm fields')
    (h : (keys fields).Nodup) (key : PyStr) : get fields key = get fields' key := by
  rw [get, get, lookup_perm hperm h]

/-- A value stored under a key is what `get` returns. -/
theorem get_of_mem {fields : JsonFields} (h : (keys fields).Nodup) {key : PyStr} {value : Json}
    (hmem : (key, value) ∈ fields) : get fields key = value := by
  rw [get, (lookup_eq_some_iff h).mpr hmem, Option.getD_some]

/-- What holds of every value and of `None` holds of what `get` returns. -/
theorem get_of_forall {P : Json → Prop} (hnull : P .null) {fields : JsonFields}
    (h : ∀ kv ∈ fields, P kv.2) (key : PyStr) : P (get fields key) := by
  induction fields with
  | nil => exact hnull
  | cons kv rest ih =>
      obtain ⟨k, v⟩ := kv
      rw [List.forall_mem_cons] at h
      by_cases hk : key = k
      · subst hk
        simpa [get] using h.1
      · have hb : (key == k) = false := by simpa using hk
        simpa only [get, List.lookup_cons, hb] using ih h.2

theorem get_sortByKey {fields : JsonFields} (h : (keys fields).Nodup) (key : PyStr) :
    get (sortByKey fields) key = get fields key :=
  (get_perm (sortByKey_perm fields).symm h key).symm

/-! ## Checking the items of a `dict` -/

/-- `for key, item in value.items(): checked[key] = check(key, item)` -/
def checkItems {β : Type} (check : PyStr → Json → PyResult β) :
    JsonFields → PyDict β → PyResult (PyDict β)
  | [], checked => .ok checked
  | (key, item) :: rest, checked => do
      let value ← check key item
      checkItems check rest (checked.set key value)

/-- Each checked entry is found under its key. -/
theorem get?_of_checkItems {β : Type} {check : PyStr → Json → PyResult β} {fields : JsonFields}
    {checked d : PyDict β} (hnodup : (keys fields).Nodup)
    (h : checkItems check fields checked = .ok d) (key : PyStr) :
    (∀ item, fields.lookup key = some item → ∃ v, check key item = .ok v ∧ d.get? key = some v) ∧
      (fields.lookup key = none → d.get? key = checked.get? key) := by
  induction fields generalizing checked with
  | nil =>
      cases h
      simp
  | cons kv rest ih =>
      obtain ⟨k, item⟩ := kv
      rw [keys, List.map_cons, List.nodup_cons] at hnodup
      simp only [checkItems, bind, Except.bind] at h
      split at h
      · cases h
      · rename_i v hv
        have hrest := ih hnodup.2 h
        by_cases hk : key = k
        · subst hk
          have hnone : rest.lookup key = none := lookup_eq_none_iff.mpr hnodup.1
          refine ⟨?_, ?_⟩
          · intro item' hitem
            rw [List.lookup_cons_self] at hitem
            cases hitem
            exact ⟨v, hv, by rw [hrest.2 hnone, PyDict.get?_set_self]⟩
          · intro hitem
            rw [List.lookup_cons_self] at hitem
            cases hitem
        · have hb : (key == k) = false := by simpa using hk
          rw [List.lookup_cons, hb]
          refine ⟨hrest.1, fun hnone => ?_⟩
          rw [hrest.2 hnone, PyDict.get?_set_of_ne hk]

theorem lookup_map_items {β : Type} (f : β → Json) (items : PyItems β) (key : PyStr) :
    (items.map fun kv => (kv.1, f kv.2)).lookup key = (items.lookup key).map f := by
  induction items with
  | nil => rfl
  | cons kv rest ih =>
      obtain ⟨k, v⟩ := kv
      simp only [List.map_cons, List.lookup_cons]
      split
      · rfl
      · exact ih

theorem keys_map_items {β : Type} (f : β → Json) (items : PyItems β) :
    keys (items.map fun kv => (kv.1, f kv.2)) = keys items := by
  rw [keys, keys, List.map_map]
  rfl

/-- A map that is written and checked again has the same entries, when the check of a
written value gives the value back. -/
theorem get?_of_checkItems_payload {β : Type} {check : PyStr → Json → PyResult β} {f : β → Json}
    (hcheck : ∀ key v v', check key (f v) = .ok v' → v' = v) {d d' : PyDict β}
    (h : checkItems check (d.sorted.items.map fun kv => (kv.1, f kv.2)) .empty = .ok d')
    (key : PyStr) : d'.get? key = d.get? key := by
  have hnodup : (keys (d.sorted.items.map fun kv => (kv.1, f kv.2))).Nodup := by
    rw [keys_map_items]
    exact d.sorted.nodup
  obtain ⟨hsome, hnone⟩ := get?_of_checkItems hnodup h key
  rw [lookup_map_items] at hsome hnone
  have hsorted : d.sorted.items.lookup key = d.get? key := PyDict.get?_sorted d key
  rw [hsorted] at hsome hnone
  cases hget : d.get? key with
  | none =>
      rw [hget] at hnone
      exact hnone rfl
  | some v =>
      rw [hget] at hsome
      obtain ⟨v', hv', hd'⟩ := hsome (f v) rfl
      rw [hd', hcheck key v v' hv']

/-! ## Sorting every `dict` -/

mutual

/-- The value with every `dict` ordered by key, as `sort_keys=True` writes it. -/
def sortKeys : Json → Json
  | .arr items => .arr (sortKeysItems items)
  | .obj fields => .obj (sortByKey (sortKeysFields fields))
  | .null => .null
  | .bool b => .bool b
  | .int n => .int n
  | .float r => .float r
  | .str s => .str s

def sortKeysItems : List Json → List Json
  | [] => []
  | v :: rest => sortKeys v :: sortKeysItems rest

def sortKeysFields : JsonFields → JsonFields
  | [] => []
  | (k, v) :: rest => (k, sortKeys v) :: sortKeysFields rest

end

theorem sortKeysItems_eq_map (items : List Json) : sortKeysItems items = items.map sortKeys := by
  induction items with
  | nil => rfl
  | cons v rest ih => rw [sortKeysItems, ih, List.map_cons]

theorem sortKeysFields_eq_map (fields : JsonFields) :
    sortKeysFields fields = fields.map fun kv => (kv.1, sortKeys kv.2) := by
  induction fields with
  | nil => rfl
  | cons kv rest ih => rw [sortKeysFields, ih, List.map_cons]

theorem keys_sortKeysFields (fields : JsonFields) : keys (sortKeysFields fields) = keys fields := by
  rw [sortKeysFields_eq_map, keys, keys, List.map_map]
  rfl

end Json
