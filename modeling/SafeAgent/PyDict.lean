/-
# Python dictionaries

A `dict` with string keys is its list of items.  `PyItems` is that list as a JSON
object holds it; `PyDict` adds the fact that no key occurs twice, which every
operation keeps.

* `setItem`, `ofPairs`    : `fields[key] = value` and `dict(pairs)`;
* `lookup_eq_some_iff`    : with distinct keys, lookup is membership;
* `lookup_perm`           : the order of the items does not matter to lookup;
* `sortByKey`             : `dict(sorted(fields.items()))`;
* `PyDict.get?_set`       : what an assignment changes.
-/
import SafeAgent.PyText

/-- The items of a `dict` with string keys. -/
abbrev PyItems (β : Type) := List (PyStr × β)

namespace PyItems

variable {β : Type}

/-! ## Building -/

/-- The keys of a `dict`, in insertion order. -/
def keys (fields : PyItems β) : List PyStr := fields.map Prod.fst

/-- `fields[key] = value`: an existing key keeps its place. -/
def setItem (key : PyStr) (value : β) : PyItems β → PyItems β
  | [] => [(key, value)]
  | (k, v) :: rest => if k = key then (key, value) :: rest else (k, v) :: setItem key value rest

/-- `dict(pairs)`: a later item replaces an earlier one with its key. -/
def ofPairs (pairs : PyItems β) : PyItems β :=
  pairs.foldl (fun fields kv => setItem kv.1 kv.2 fields) []

/-- `set(fields) == expected` -/
def hasKeys (fields : PyItems β) (expected : List PyStr) : Bool :=
  (keys fields).all (expected.contains ·) && expected.all ((keys fields).contains ·)

theorem keys_setItem_of_mem {key : PyStr} {value : β} {fields : PyItems β}
    (h : key ∈ keys fields) : keys (setItem key value fields) = keys fields := by
  induction fields with
  | nil => simp [keys] at h
  | cons kv rest ih =>
      obtain ⟨k, v⟩ := kv
      by_cases hk : k = key
      · simp [setItem, keys, hk]
      · have hrest : key ∈ keys rest := by
          simpa [keys, Ne.symm hk] using h
        simpa [setItem, keys, hk] using ih hrest

theorem setItem_of_notMem {key : PyStr} {value : β} {fields : PyItems β}
    (h : key ∉ keys fields) : setItem key value fields = fields ++ [(key, value)] := by
  induction fields with
  | nil => rfl
  | cons kv rest ih =>
      obtain ⟨k, v⟩ := kv
      have hk : k ≠ key := by
        rintro rfl
        exact h (by simp [keys])
      have hrest : key ∉ keys rest := fun hmem => h (by simpa [keys] using Or.inr hmem)
      simp [setItem, hk, ih hrest]

theorem keys_nodup_setItem {key : PyStr} {value : β} {fields : PyItems β}
    (h : (keys fields).Nodup) : (keys (setItem key value fields)).Nodup := by
  by_cases hmem : key ∈ keys fields
  · rwa [keys_setItem_of_mem hmem]
  · rw [setItem_of_notMem hmem, keys, List.map_append]
    refine List.Nodup.append h (by simp) ?_
    simpa [keys] using hmem

/-- A `dict` never holds a key twice. -/
theorem keys_nodup_ofPairs (pairs : PyItems β) : (keys (ofPairs pairs)).Nodup := by
  suffices h : ∀ (ps fields : PyItems β), (keys fields).Nodup →
      (keys (ps.foldl (fun fields kv => setItem kv.1 kv.2 fields) fields)).Nodup from
    h pairs [] List.nodup_nil
  intro ps
  induction ps with
  | nil => intro fields h; exact h
  | cons kv rest ih => intro fields h; exact ih _ (keys_nodup_setItem h)

/-- Items with distinct keys already are a `dict`. -/
theorem ofPairs_of_nodup {pairs : PyItems β} (h : (keys pairs).Nodup) :
    ofPairs pairs = pairs := by
  suffices hgen : ∀ (ps fields : PyItems β), (keys (fields ++ ps)).Nodup →
      ps.foldl (fun fields kv => setItem kv.1 kv.2 fields) fields = fields ++ ps by
    simpa [ofPairs] using hgen pairs [] (by simpa using h)
  intro ps
  induction ps with
  | nil => intro fields _; simp
  | cons kv rest ih =>
      intro fields hnodup
      have hnew : kv.1 ∉ keys fields := by
        rw [keys, List.map_append, List.map_cons] at hnodup
        intro hmem
        exact (List.nodup_append.mp hnodup).2.2 kv.1 hmem kv.1 (by simp) rfl
      rw [List.foldl_cons, setItem_of_notMem hnew, ih _ (by simpa using hnodup)]
      simp

/-! ## Lookup -/

/-- With distinct keys, looking a key up is membership. -/
theorem lookup_eq_some_iff {fields : PyItems β} (h : (keys fields).Nodup) {key : PyStr}
    {value : β} : fields.lookup key = some value ↔ (key, value) ∈ fields := by
  induction fields with
  | nil => simp
  | cons kv rest ih =>
      obtain ⟨k, v⟩ := kv
      rw [keys, List.map_cons, List.nodup_cons] at h
      by_cases hk : key = k
      · subst hk
        have hnot : (key, value) ∉ rest := fun hmem =>
          h.1 (List.mem_map.mpr ⟨(key, value), hmem, rfl⟩)
        simp [hnot, eq_comm]
      · have hb : (key == k) = false := by simpa using hk
        simp [List.lookup_cons, hb, ih h.2, hk]

theorem lookup_eq_none_iff {fields : PyItems β} {key : PyStr} :
    fields.lookup key = none ↔ key ∉ keys fields := by
  induction fields with
  | nil => simp [keys]
  | cons kv rest ih =>
      obtain ⟨k, v⟩ := kv
      by_cases hk : key = k
      · simp [keys, hk]
      · have hb : (key == k) = false := by simpa using hk
        simpa [List.lookup_cons, keys, hb, hk] using ih

/-- Reordering a `dict` does not change what it maps a key to. -/
theorem lookup_perm {fields fields' : PyItems β} (hperm : fields.Perm fields')
    (h : (keys fields).Nodup) (key : PyStr) : fields.lookup key = fields'.lookup key := by
  have h' : (keys fields').Nodup := (hperm.map Prod.fst).nodup_iff.mp h
  apply Option.ext
  intro value
  rw [lookup_eq_some_iff h, lookup_eq_some_iff h', hperm.mem_iff]

theorem hasKeys_perm {fields fields' : PyItems β} (hperm : fields.Perm fields')
    (expected : List PyStr) : hasKeys fields expected = hasKeys fields' expected := by
  have hkeys : (keys fields).Perm (keys fields') := hperm.map Prod.fst
  have hmem : ∀ k, (keys fields).contains k = (keys fields').contains k := by
    intro k
    rw [Bool.eq_iff_iff, List.contains_iff_mem, List.contains_iff_mem, hkeys.mem_iff]
  rw [hasKeys, hasKeys, hkeys.all_eq]
  simp only [hmem]

theorem mem_keys_of_hasKeys {fields : PyItems β} {expected : List PyStr}
    (h : hasKeys fields expected = true) {key : PyStr} : key ∈ keys fields ↔ key ∈ expected := by
  simp only [hasKeys, Bool.and_eq_true, List.all_eq_true, List.contains_iff_mem] at h
  exact ⟨h.1 key, h.2 key⟩

/-! ## Sorting by key -/

/-- The order in which `sort_keys` writes two items. -/
def keyLe (a b : PyStr × β) : Prop := a.1 ≤ b.1

instance : DecidableRel (keyLe (β := β)) := fun a b => inferInstanceAs (Decidable (a.1 ≤ b.1))

instance : Std.Total (keyLe (β := β)) := ⟨fun a b => le_total a.1 b.1⟩

instance : IsTrans (PyStr × β) keyLe := ⟨fun _ _ _ hab hbc => le_trans hab hbc⟩

/-- `dict(sorted(fields.items()))` -/
def sortByKey (fields : PyItems β) : PyItems β := fields.insertionSort keyLe

theorem sortByKey_perm (fields : PyItems β) : (sortByKey fields).Perm fields :=
  List.perm_insertionSort keyLe fields

theorem keys_sortByKey_perm (fields : PyItems β) : (keys (sortByKey fields)).Perm (keys fields) :=
  (sortByKey_perm fields).map Prod.fst

theorem keys_sortByKey_nodup {fields : PyItems β} (h : (keys fields).Nodup) :
    (keys (sortByKey fields)).Nodup :=
  (keys_sortByKey_perm fields).nodup_iff.mpr h

theorem sortByKey_sorted (fields : PyItems β) : (sortByKey fields).Pairwise keyLe :=
  List.pairwise_insertionSort keyLe fields

theorem sortByKey_idem (fields : PyItems β) : sortByKey (sortByKey fields) = sortByKey fields :=
  (sortByKey_sorted fields).insertionSort_eq

/-! ## Assignment and filtering -/

theorem lookup_setItem_self (key : PyStr) (value : β) (fields : PyItems β) :
    (setItem key value fields).lookup key = some value := by
  induction fields with
  | nil => simp [setItem]
  | cons kv rest ih =>
      obtain ⟨k, v⟩ := kv
      by_cases hk : k = key
      · simp [setItem, hk]
      · have hb : (key == k) = false := by simpa using Ne.symm hk
        simp [setItem, hk, List.lookup_cons, hb, ih]

theorem lookup_setItem_of_ne {key other : PyStr} (h : other ≠ key) (value : β)
    (fields : PyItems β) : (setItem key value fields).lookup other = fields.lookup other := by
  have hb : (other == key) = false := by simpa using h
  induction fields with
  | nil => simp [setItem, List.lookup_cons, hb]
  | cons kv rest ih =>
      obtain ⟨k, v⟩ := kv
      by_cases hk : k = key
      · subst hk
        simp [setItem, List.lookup_cons, hb]
      · simp only [setItem, if_neg hk, List.lookup_cons, ih]

/-- The items whose value `f` keeps, each with its new value. -/
def filterItems {γ : Type} (f : β → Option γ) : PyItems β → PyItems γ
  | [] => []
  | (k, v) :: rest =>
      match f v with
      | some w => (k, w) :: filterItems f rest
      | none => filterItems f rest

theorem keys_filterItems_sublist {γ : Type} (f : β → Option γ) (fields : PyItems β) :
    (keys (filterItems f fields)).Sublist (keys fields) := by
  induction fields with
  | nil => exact List.Sublist.refl _
  | cons kv rest ih =>
      obtain ⟨k, v⟩ := kv
      cases hf : f v with
      | none => simpa [filterItems, hf, keys] using ih.cons k
      | some w => simpa [filterItems, hf, keys] using ih

theorem lookup_filterItems {γ : Type} (f : β → Option γ) {fields : PyItems β}
    (h : (keys fields).Nodup) (key : PyStr) :
    (filterItems f fields).lookup key = (fields.lookup key).bind f := by
  induction fields with
  | nil => rfl
  | cons kv rest ih =>
      obtain ⟨k, v⟩ := kv
      rw [keys, List.map_cons, List.nodup_cons] at h
      have hrest := ih h.2
      by_cases hk : key = k
      · subst hk
        have hnone : rest.lookup key = none := lookup_eq_none_iff.mpr h.1
        cases hf : f v with
        | none => simp [filterItems, hf, hrest, hnone]
        | some w => simp [filterItems, hf]
      · have hb : (key == k) = false := by simpa using hk
        cases hf : f v with
        | none => simp [filterItems, hf, hrest, List.lookup_cons, hb]
        | some w => simp [filterItems, hf, hrest, List.lookup_cons, hb]

end PyItems

/-- A `dict` with string keys: its items, no key twice. -/
structure PyDict (β : Type) where
  items : PyItems β
  nodup : (PyItems.keys items).Nodup

namespace PyDict

variable {β : Type}

/-- `{}` -/
def empty : PyDict β := ⟨[], List.nodup_nil⟩

instance : Inhabited (PyDict β) := ⟨empty⟩

/-- `d.get(key)` -/
def get? (d : PyDict β) (key : PyStr) : Option β := d.items.lookup key

/-- `d[key] = value` -/
def set (d : PyDict β) (key : PyStr) (value : β) : PyDict β :=
  ⟨PyItems.setItem key value d.items, PyItems.keys_nodup_setItem d.nodup⟩

/-- `dict(sorted(d.items()))` -/
def sorted (d : PyDict β) : PyDict β :=
  ⟨PyItems.sortByKey d.items, PyItems.keys_sortByKey_nodup d.nodup⟩

/-- The dictionary whose value at each key goes through `f`; keys that `f` maps to
nothing are left out. -/
def filterMap {γ : Type} (f : β → Option γ) (d : PyDict β) : PyDict γ :=
  ⟨PyItems.filterItems f d.items, d.nodup.sublist (PyItems.keys_filterItems_sublist f d.items)⟩

@[simp] theorem get?_empty (key : PyStr) : (empty : PyDict β).get? key = none := rfl

@[simp] theorem get?_set_self (d : PyDict β) (key : PyStr) (value : β) :
    (d.set key value).get? key = some value :=
  PyItems.lookup_setItem_self key value d.items

theorem get?_set_of_ne {key other : PyStr} (h : other ≠ key) (d : PyDict β) (value : β) :
    (d.set key value).get? other = d.get? other :=
  PyItems.lookup_setItem_of_ne h value d.items

/-- What an assignment changes. -/
theorem get?_set (d : PyDict β) (key other : PyStr) (value : β) :
    (d.set key value).get? other = if other = key then some value else d.get? other := by
  split_ifs with h
  · rw [h, get?_set_self]
  · exact get?_set_of_ne h d value

@[simp] theorem get?_sorted (d : PyDict β) (key : PyStr) : d.sorted.get? key = d.get? key :=
  (PyItems.lookup_perm (PyItems.sortByKey_perm d.items).symm d.nodup key).symm

@[simp] theorem get?_filterMap {γ : Type} (f : β → Option γ) (d : PyDict β) (key : PyStr) :
    (d.filterMap f).get? key = (d.get? key).bind f :=
  PyItems.lookup_filterItems f d.nodup key

theorem mem_items_iff (d : PyDict β) {key : PyStr} {value : β} :
    (key, value) ∈ d.items ↔ d.get? key = some value :=
  (PyItems.lookup_eq_some_iff d.nodup).symm

end PyDict
