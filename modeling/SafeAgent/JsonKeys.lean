/-
# Keys of JSON objects

What sorting the keys keeps, and which objects the reader can return.

* `sortKeys_idem`, `dumps_sortKeys` : sorting twice is sorting once, and the canonical
  text does not see the order;
* `loads_distinctKeys`              : where the hook refuses a repeated key, no object inside
  the value repeats one.
-/
import SafeAgent.JsonScanner

namespace Json

open PyText PyItems

/-! ## Sorting -/

theorem sortKeysFields_sortByKey (fields : JsonFields) :
    sortKeysFields (sortByKey fields) = sortByKey (sortKeysFields fields) := by
  rw [sortKeysFields_eq_map, sortKeysFields_eq_map, sortByKey, sortByKey]
  exact List.map_insertionSort _ _ _ _ fun _ _ _ _ => Iff.rfl

mutual

/-- Sorting twice is sorting once. -/
theorem sortKeys_idem : ∀ v : Json, sortKeys (sortKeys v) = sortKeys v
  | .null => rfl
  | .bool _ => rfl
  | .int _ => rfl
  | .float _ => rfl
  | .str _ => rfl
  | .arr items => by rw [sortKeys, sortKeys, sortKeysItems_idem items]
  | .obj fields => by
      rw [sortKeys, sortKeys, sortKeysFields_sortByKey, sortKeysFields_idem fields, sortByKey_idem]

theorem sortKeysItems_idem : ∀ items : List Json,
    sortKeysItems (sortKeysItems items) = sortKeysItems items
  | [] => rfl
  | v :: rest => by
      rw [sortKeysItems, sortKeysItems, sortKeys_idem v, sortKeysItems_idem rest]

theorem sortKeysFields_idem : ∀ fields : JsonFields,
    sortKeysFields (sortKeysFields fields) = sortKeysFields fields
  | [] => rfl
  | (k, v) :: rest => by
      rw [sortKeysFields, sortKeysFields, sortKeys_idem v, sortKeysFields_idem rest]

end

mutual

theorem intsFit_sortKeys : ∀ v : Json, intsFit (sortKeys v) = intsFit v
  | .null => rfl
  | .bool _ => rfl
  | .int _ => rfl
  | .float _ => rfl
  | .str _ => rfl
  | .arr items => by rw [sortKeys, intsFit, intsFit, intsFitItems_sortKeys items]
  | .obj fields => by
      rw [sortKeys, intsFit, intsFit, ← intsFitFields_sortKeys fields, Bool.eq_iff_iff,
        intsFitFields_iff, intsFitFields_iff]
      simp only [(sortByKey_perm (sortKeysFields fields)).mem_iff]

theorem intsFitItems_sortKeys : ∀ items : List Json,
    intsFitItems (sortKeysItems items) = intsFitItems items
  | [] => rfl
  | v :: rest => by
      rw [sortKeysItems, intsFitItems, intsFitItems, intsFit_sortKeys v, intsFitItems_sortKeys rest]

theorem intsFitFields_sortKeys : ∀ fields : JsonFields,
    intsFitFields (sortKeysFields fields) = intsFitFields fields
  | [] => rfl
  | (k, v) :: rest => by
      rw [sortKeysFields, intsFitFields, intsFitFields, intsFit_sortKeys v,
        intsFitFields_sortKeys rest]

end

/-- The canonical text does not see the order of keys. -/
theorem dumps_sortKeys (v : Json) : dumps (sortKeys v) = dumps v := by
  rw [dumps, dumps, intsFit_sortKeys, canonical, canonical, sortKeys_idem]

/-- What an object maps a key to, after sorting. -/
theorem get_sorted {fields : JsonFields} (h : (keys fields).Nodup) (key : PyStr) :
    get (sortByKey (sortKeysFields fields)) key = sortKeys (get fields key) := by
  rw [get_sortByKey (by rwa [keys_sortKeysFields]), get, get, sortKeysFields_eq_map,
    lookup_map_items]
  cases fields.lookup key <;> rfl

theorem hasKeys_sorted (fields : JsonFields) (expected : List PyStr) :
    hasKeys (sortByKey (sortKeysFields fields)) expected = hasKeys fields expected := by
  rw [hasKeys_perm (sortByKey_perm _), hasKeys, hasKeys, keys_sortKeysFields]

/-! ## Distinct keys -/

mutual

/-- No object inside the value repeats a key. -/
def DistinctKeys : Json → Prop
  | .arr items => DistinctItems items
  | .obj fields => (keys fields).Nodup ∧ DistinctFields fields
  | .null => True
  | .bool _ => True
  | .int _ => True
  | .float _ => True
  | .str _ => True

def DistinctItems : List Json → Prop
  | [] => True
  | v :: rest => DistinctKeys v ∧ DistinctItems rest

def DistinctFields : JsonFields → Prop
  | [] => True
  | (_, v) :: rest => DistinctKeys v ∧ DistinctFields rest

end

theorem distinctItems_iff {items : List Json} :
    DistinctItems items ↔ ∀ v ∈ items, DistinctKeys v := by
  induction items with
  | nil => simp [DistinctItems]
  | cons v rest ih => simp [DistinctItems, ih]

theorem distinctFields_iff {fields : JsonFields} :
    DistinctFields fields ↔ ∀ kv ∈ fields, DistinctKeys kv.2 := by
  induction fields with
  | nil => simp [DistinctFields]
  | cons kv rest ih =>
      obtain ⟨key, v⟩ := kv
      simp [DistinctFields, ih]

theorem DistinctFields.get {fields : JsonFields} (h : DistinctFields fields) (key : PyStr) :
    DistinctKeys (Json.get fields key) :=
  get_of_forall (P := DistinctKeys) trivial (distinctFields_iff.mp h) key

mutual

theorem distinctKeys_sortKeys : ∀ v : Json, DistinctKeys v → DistinctKeys (sortKeys v)
  | .null, _ => trivial
  | .bool _, _ => trivial
  | .int _, _ => trivial
  | .float _, _ => trivial
  | .str _, _ => trivial
  | .arr items, h => distinctItems_sortKeys items h
  | .obj fields, h => by
      have hfields := distinctFields_iff.mp (distinctFields_sortKeys fields h.2)
      refine ⟨keys_sortByKey_nodup (by rw [keys_sortKeysFields]; exact h.1), ?_⟩
      exact distinctFields_iff.mpr fun kv hkv => hfields kv ((sortByKey_perm _).mem_iff.mp hkv)

theorem distinctItems_sortKeys : ∀ items : List Json, DistinctItems items →
    DistinctItems (sortKeysItems items)
  | [], _ => trivial
  | v :: rest, h => ⟨distinctKeys_sortKeys v h.1, distinctItems_sortKeys rest h.2⟩

theorem distinctFields_sortKeys : ∀ fields : JsonFields, DistinctFields fields →
    DistinctFields (sortKeysFields fields)
  | [], _ => trivial
  | (_, v) :: rest, h => ⟨distinctKeys_sortKeys v h.1, distinctFields_sortKeys rest h.2⟩

end

/-- A hook that keeps distinct keys distinct. -/
def HookDistinct (r : JsonReader) : Prop :=
  ∀ fields, DistinctFields fields → Yields DistinctKeys (r.objectHook fields)

/-- A hook that refuses a repeated key does. -/
theorem hookDistinct_reject {r : JsonReader} {error : PyErr}
    (h : r.objectHook = rejectDuplicateKeys error) : HookDistinct r := by
  intro fields hfields
  rw [h, rejectDuplicateKeys]
  split_ifs with hnodup
  · exact yields_ok ⟨hnodup, hfields⟩
  · exact yields_error error

theorem readable_distinctKeys {r : JsonReader} (hr : HookDistinct r) : Readable r DistinctKeys where
  null := trivial
  bool _ := trivial
  int _ _ := trivial
  float _ := trivial
  str _ := trivial
  arr _ h := distinctItems_iff.mpr h
  obj fields h := hr fields (distinctFields_iff.mpr h)

/-- **No object in a value that was read repeats a key.** -/
theorem loads_distinctKeys {r : JsonReader} (hr : HookDistinct r) {raw : Bytes} {v : Json}
    (h : loads r raw = .ok v) : DistinctKeys v := loads_yields (readable_distinctKeys hr) h

end Json
