/-
# Reloading the state file

`save` writes whatever the object holds and `load` checks it, so what `load` checks must
be an invariant of the operations.

* `WellFormed`                : the checks of `load`, apart from the number of principals;
* `fromPayload_of_wellFormed` : what is saved is accepted again, with the same entries;
* `storable_of_readStateText` : what comes out of a file can go into one;
* `reload_iff`                : **when a state is read back from the text that is saved**;
* `HistoriesOk.reserve`       : a reservation keeps the histories sorted and at most 1000 long.
-/
import SafeAgent.AuditLog
import SafeAgent.JsonStrings
import SafeAgent.Rules

open PyText

namespace PyDict

variable {β : Type}

theorem length_set_of_mem {d : PyDict β} {key : PyStr} (h : key ∈ PyItems.keys d.items) (value : β) :
    (d.set key value).items.length = d.items.length := by
  have hsame : PyItems.keys (PyItems.setItem key value d.items) = PyItems.keys d.items :=
    PyItems.keys_setItem_of_mem h
  have hkeys := congrArg List.length hsame
  simpa [PyItems.keys, set] using hkeys

/-- An assignment adds at most one key. -/
theorem length_set_le (d : PyDict β) (key : PyStr) (value : β) :
    (d.set key value).items.length ≤ d.items.length + 1 := by
  by_cases h : key ∈ PyItems.keys d.items
  · rw [length_set_of_mem h]
    omega
  · show (PyItems.setItem key value d.items).length ≤ d.items.length + 1
    rw [PyItems.setItem_of_notMem h, List.length_append, List.length_singleton]

theorem mem_keys_iff {d : PyDict β} {key : PyStr} :
    key ∈ PyItems.keys d.items ↔ ∃ value, d.get? key = some value := by
  rw [← Option.isSome_iff_exists, ← Option.ne_none_iff_isSome, get?, ne_eq,
    PyItems.lookup_eq_none_iff, not_not]

/-- Dictionaries with the same entries have the same number of them. -/
theorem length_congr {d d' : PyDict β} (h : ∀ key, d.get? key = d'.get? key) :
    d.items.length = d'.items.length := by
  have hperm : (PyItems.keys d.items).Perm (PyItems.keys d'.items) := by
    rw [List.perm_ext_iff_of_nodup d.nodup d'.nodup]
    intro key
    rw [mem_keys_iff, mem_keys_iff, h key]
  simpa [PyItems.keys] using hperm.length_eq

/-- Assigning the value that is there already changes nothing. -/
theorem set_of_get? {d : PyDict β} {key : PyStr} {value : β} (h : d.get? key = some value) :
    d.set key value = d := by
  have hitems : ∀ items : PyItems β, items.lookup key = some value →
      PyItems.setItem key value items = items := by
    intro items
    induction items with
    | nil => intro h; cases h
    | cons kv rest ih =>
        obtain ⟨k, v⟩ := kv
        intro h
        by_cases hk : k = key
        · subst hk
          rw [List.lookup_cons_self] at h
          cases h
          simp [PyItems.setItem]
        · have hb : (key == k) = false := by simpa using Ne.symm hk
          rw [List.lookup_cons, hb] at h
          rw [PyItems.setItem, if_neg hk, ih h]
  obtain ⟨items, nodup⟩ := d
  simp only [set, mk.injEq]
  exact hitems items h

end PyDict

namespace Json

open PyItems

variable {β : Type} {check : PyStr → Json → PyResult β}

/-- A checked `dict` can be built when every item passes its check. -/
theorem checkItems_ok {fields : JsonFields} (h : ∀ kv ∈ fields, ∃ v, check kv.1 kv.2 = .ok v)
    (checked : PyDict β) : ∃ d, checkItems check fields checked = .ok d := by
  induction fields generalizing checked with
  | nil => exact ⟨checked, rfl⟩
  | cons kv rest ih =>
      obtain ⟨key, item⟩ := kv
      obtain ⟨v, hv⟩ := h (key, item) (by simp)
      obtain ⟨d, hd⟩ := ih (fun kv hkv => h kv (by simp [hkv])) (checked.set key v)
      exact ⟨d, by simp only [checkItems, bind, Except.bind, hv, hd]⟩

/-- What every checked value satisfies, every entry of the checked `dict` does. -/
theorem forall_of_checkItems {P : PyStr → β → Prop} {fields : JsonFields} {checked d : PyDict β}
    (hP : ∀ kv ∈ fields, ∀ v, check kv.1 kv.2 = .ok v → P kv.1 v)
    (hchecked : ∀ key v, checked.get? key = some v → P key v)
    (h : checkItems check fields checked = .ok d) : ∀ key v, d.get? key = some v → P key v := by
  induction fields generalizing checked with
  | nil =>
      cases h
      exact hchecked
  | cons kv rest ih =>
      obtain ⟨key, item⟩ := kv
      unfold checkItems at h
      obtain ⟨v, hv, h⟩ := PyResult.bind_ok h
      refine ih (fun kv hkv => hP kv (by simp [hkv])) ?_ h
      intro other w hw
      rw [PyDict.get?_set] at hw
      split_ifs at hw with hother
      · cases hw
        exact hother ▸ hP (key, item) (by simp) v hv
      · exact hchecked other w hw

/-- A checked `dict` has no more entries than were checked. -/
theorem length_of_checkItems {fields : JsonFields} {checked d : PyDict β}
    (h : checkItems check fields checked = .ok d) :
    d.items.length ≤ checked.items.length + fields.length := by
  induction fields generalizing checked with
  | nil =>
      cases h
      omega
  | cons kv rest ih =>
      obtain ⟨key, item⟩ := kv
      unfold checkItems at h
      obtain ⟨v, -, h⟩ := PyResult.bind_ok h
      have hrest := ih h
      have hset := PyDict.length_set_le checked key v
      rw [List.length_cons]
      omega

end Json

namespace AgentState

open Json PyItems

/-! ## What the loader checks -/

/-- The history of each principal is one that the loader accepts. -/
def HistoriesOk (s : AgentState) : Prop :=
  ∀ did timestamps, s.capabilityRequests.get? did = some timestamps →
    Crypto.isDid did = true ∧ timestamps.length ≤ 1000 ∧ timestamps.Pairwise (· ≤ ·)

/-- The keys of a map of rooms are not empty. -/
def RoomsNamed (d : PyDict ℕ) : Prop := ∀ room n, d.get? room = some n → room ≠ []

/-- What the loader checks, apart from the number of principals. -/
structure WellFormed (s : AgentState) : Prop where
  cursors : RoomsNamed s.cursors
  nonces : RoomsNamed s.nonces
  generations : RoomsNamed s.generations
  histories : s.HistoriesOk

/-- The number of principals with a history. -/
def principalCount (s : AgentState) : ℕ := s.capabilityRequests.items.length

theorem wellFormed_empty : WellFormed {} where
  cursors := nofun
  nonces := nofun
  generations := nofun
  histories := nofun

theorem RoomsNamed.set {d : PyDict ℕ} (h : RoomsNamed d) {room : PyStr} (hroom : room ≠ []) (n : ℕ) :
    RoomsNamed (d.set room n) := by
  intro other m hm
  rw [PyDict.get?_set] at hm
  split_ifs at hm with hother
  · rwa [hother]
  · exact h other m hm

theorem roomsNamed_of_nonnegativeIntMap {value : Json} {label : String} {d : PyDict ℕ}
    (h : nonnegativeIntMap value label = .ok d) : RoomsNamed d := by
  unfold nonnegativeIntMap at h
  split at h
  · cases h
  refine forall_of_checkItems (P := fun room _ => room ≠ []) ?_ (by simp) h
  intro kv _ n hn
  split_ifs at hn with hroom
  exact hroom

theorem checkHistory_accepts {did : PyStr} {item : Json} {timestamps : List ℕ}
    (h : checkHistory did item = .ok timestamps) :
    Crypto.isDid did = true ∧ timestamps.length ≤ 1000 ∧ timestamps.Pairwise (· ≤ ·) := by
  have hlength : ∀ (items : List Json) ts, checkTimestamps items = .ok ts →
      ts.length = items.length := by
    intro items
    induction items with
    | nil =>
        rintro ts ⟨⟩
        rfl
    | cons item rest ih =>
        intro ts hts
        unfold checkTimestamps at hts
        obtain ⟨t, -, hts⟩ := PyResult.bind_ok hts
        obtain ⟨ts', hts', hts⟩ := PyResult.bind_ok hts
        cases hts
        rw [List.length_cons, List.length_cons, ih ts' hts']
  unfold checkHistory Crypto.validateDid at h
  by_cases hdid : Crypto.isDid did = true
  case neg =>
    rw [if_neg hdid] at h
    cases h
  rw [if_pos hdid] at h
  dsimp only at h
  split at h
  · cases h
  split_ifs at h with hlong
  obtain ⟨ts, hts, h⟩ := PyResult.bind_ok h
  split_ifs at h with hsorted
  cases h
  exact ⟨hdid, by rw [hlength _ _ hts]; omega, hsorted⟩

/-- **What the loader accepts is well formed**, and names a bounded number of principals. -/
theorem wellFormed_of_fromPayload {j : Json} {s : AgentState} (h : fromPayload j = .ok s) :
    s.WellFormed ∧ s.principalCount ≤ Capabilities.maxPrincipals := by
  unfold fromPayload at h
  split at h
  · cases h
  split_ifs at h
  obtain ⟨cursors, hcursors, h⟩ := PyResult.bind_ok h
  obtain ⟨nonces, hnonces, h⟩ := PyResult.bind_ok h
  obtain ⟨generations, hgenerations, h⟩ := PyResult.bind_ok h
  obtain ⟨requests, hrequests, h⟩ := PyResult.bind_ok h
  cases h
  unfold capabilityRequestMap at hrequests
  split at hrequests
  · cases hrequests
  split_ifs at hrequests with hmany
  refine ⟨⟨roomsNamed_of_nonnegativeIntMap hcursors, roomsNamed_of_nonnegativeIntMap hnonces,
    roomsNamed_of_nonnegativeIntMap hgenerations, ?_⟩, ?_⟩
  · exact forall_of_checkItems (fun _ _ _ hv => checkHistory_accepts hv) (by simp) hrequests
  · have hlength := length_of_checkItems hrequests
    simp only [PyDict.empty, List.length_nil, Nat.zero_add] at hlength
    show requests.items.length ≤ 128
    omega

/-! ## What it accepts -/

theorem nonnegativeIntMap_payload {d : PyDict ℕ} (h : RoomsNamed d) (label : String) :
    ∃ d', nonnegativeIntMap (natMapPayload d) label = .ok d' := by
  refine checkItems_ok (fun kv hkv => ?_) .empty
  obtain ⟨⟨room, n⟩, hmem, rfl⟩ := List.mem_map.mp hkv
  have hroom : room ≠ [] := h room n (by rw [← PyDict.get?_sorted]; exact (PyDict.mem_items_iff _).mp hmem)
  exact ⟨n, by simp [hroom, requireNonnegativeInt, asInt]⟩

theorem checkTimestamps_payload (timestamps : List ℕ) :
    checkTimestamps (timestamps.map fun (t : ℕ) => Json.int t) = .ok timestamps := by
  induction timestamps with
  | nil => rfl
  | cons t rest ih =>
      simp [checkTimestamps, ih, requireNonnegativeInt, asInt, bind, Except.bind, pure, Except.pure]

theorem capabilityRequestMap_payload {s : AgentState} (h : s.HistoriesOk)
    (hcount : s.principalCount ≤ Capabilities.maxPrincipals) :
    ∃ d, capabilityRequestMap (historyPayload s.capabilityRequests) = .ok d := by
  have hlength : (s.capabilityRequests.sorted.items.map fun kv : PyStr × List ℕ =>
      (kv.1, Json.arr (kv.2.map fun (t : ℕ) => Json.int t))).length ≤ 128 := by
    rw [List.length_map, PyDict.sorted, (sortByKey_perm _).length_eq]
    exact hcount
  simp only [capabilityRequestMap, historyPayload, asObj]
  rw [if_neg (by omega)]
  refine checkItems_ok (fun kv hkv => ?_) .empty
  obtain ⟨⟨did, timestamps⟩, hmem, rfl⟩ := List.mem_map.mp hkv
  obtain ⟨hdid, hlong, hsorted⟩ := h did timestamps (by
    rw [← PyDict.get?_sorted]
    exact (PyDict.mem_items_iff _).mp hmem)
  refine ⟨timestamps, ?_⟩
  simp only [checkHistory, Crypto.validateDid, if_pos hdid, asArr, List.length_map,
    checkTimestamps_payload, bind, Except.bind, if_pos hsorted]
  rw [if_neg (by omega)]

/-- **What is saved is accepted again**, with the same entries. -/
theorem fromPayload_of_wellFormed {s : AgentState} (h : s.WellFormed)
    (hcount : s.principalCount ≤ Capabilities.maxPrincipals) :
    ∃ s', fromPayload s.toPayload = .ok s' ∧ Agrees s s' := by
  obtain ⟨cursors, hcursors⟩ := nonnegativeIntMap_payload h.cursors "cursors"
  obtain ⟨nonces, hnonces⟩ := nonnegativeIntMap_payload h.nonces "nonces"
  have hgenerations : ∃ d, nonnegativeIntMap
      ((s.payloadFields.lookup (py "generations")).getD (.obj [])) "generations" = .ok d := by
    rw [lookup_generations]
    split_ifs
    · exact ⟨_, rfl⟩
    · exact nonnegativeIntMap_payload h.generations _
  have hrequests : ∃ d, capabilityRequestMap
      ((s.payloadFields.lookup (py "capability_requests")).getD (.obj [])) = .ok d := by
    rw [lookup_capabilityRequests]
    split_ifs
    · exact ⟨_, rfl⟩
    · exact capabilityRequestMap_payload h.histories hcount
  obtain ⟨generations, hgenerations⟩ := hgenerations
  obtain ⟨requests, hrequests⟩ := hrequests
  have hschema : get s.payloadFields (py "schema") = .str stateSchema := rfl
  have hcursorsField : get s.payloadFields (py "cursors") = natMapPayload s.cursors := rfl
  have hnoncesField : get s.payloadFields (py "nonces") = natMapPayload s.nonces := rfl
  have hok : fromPayload s.toPayload = .ok ⟨cursors, nonces, generations, requests⟩ := by
    simp only [fromPayload, toPayload, asObj, hschema, hcursorsField, hnoncesField, hcursors,
      hnonces, hgenerations, hrequests, isStr_iff, not_true_eq_false, if_false, bind, Except.bind]
    rfl
  exact ⟨_, hok, fromPayload_toPayload hok⟩

/-! ## Numbers that can be written -/

/-- A number that the interpreter can write in decimal. -/
def NumberFits (n : ℕ) : Prop := (decimal n).length ≤ maxStrDigits

theorem numberFits_of_le {n m : ℕ} (h : n ≤ m) (hm : NumberFits m) : NumberFits n := by
  rw [NumberFits, length_decimal_le_iff (by decide)] at hm ⊢
  omega

/-- Every number of the state can be written. -/
structure NumbersFit (s : AgentState) : Prop where
  cursors : ∀ room n, s.cursors.get? room = some n → NumberFits n
  nonces : ∀ room n, s.nonces.get? room = some n → NumberFits n
  generations : ∀ room n, s.generations.get? room = some n → NumberFits n
  histories : ∀ did timestamps, s.capabilityRequests.get? did = some timestamps →
    ∀ t ∈ timestamps, NumberFits t

theorem numbersFit_empty : NumbersFit {} := ⟨by simp, by simp, by simp, by simp⟩

theorem mem_sorted_iff {β : Type} {d : PyDict β} {key : PyStr} {value : β} :
    (key, value) ∈ d.sorted.items ↔ d.get? key = some value := by
  rw [PyDict.mem_items_iff, PyDict.get?_sorted]

theorem intsFit_natMapPayload {d : PyDict ℕ} :
    intsFit (natMapPayload d) = true ↔ ∀ room n, d.get? room = some n → NumberFits n := by
  rw [natMapPayload, intsFit, intsFitFields_iff]
  constructor
  · intro h room n hn
    have hitem := h (room, .int n) (List.mem_map.mpr ⟨(room, n), mem_sorted_iff.mpr hn, rfl⟩)
    simpa [intsFit, NumberFits] using hitem
  · intro h kv hkv
    obtain ⟨⟨room, n⟩, hmem, rfl⟩ := List.mem_map.mp hkv
    simpa [intsFit, NumberFits] using h room n (mem_sorted_iff.mp hmem)

theorem intsFitItems_timestamps {timestamps : List ℕ} :
    intsFitItems (timestamps.map fun (t : ℕ) => Json.int t) = true ↔ ∀ t ∈ timestamps, NumberFits t := by
  induction timestamps with
  | nil => simp [intsFitItems]
  | cons t rest ih =>
      simp only [List.map_cons, intsFitItems, Bool.and_eq_true, ih, List.forall_mem_cons]
      simp [intsFit, NumberFits]

theorem intsFit_historyPayload {d : PyDict (List ℕ)} :
    intsFit (historyPayload d) = true ↔
      ∀ did timestamps, d.get? did = some timestamps → ∀ t ∈ timestamps, NumberFits t := by
  rw [historyPayload, intsFit, intsFitFields_iff]
  constructor
  · intro h did timestamps hn
    have hitem := h (did, .arr (timestamps.map fun (t : ℕ) => Json.int t))
      (List.mem_map.mpr ⟨(did, timestamps), mem_sorted_iff.mpr hn, rfl⟩)
    exact intsFitItems_timestamps.mp hitem
  · intro h kv hkv
    obtain ⟨⟨did, timestamps⟩, hmem, rfl⟩ := List.mem_map.mp hkv
    exact intsFitItems_timestamps.mpr (h did timestamps (mem_sorted_iff.mp hmem))

theorem intsFitFields_append (fields fields' : JsonFields) :
    intsFitFields (fields ++ fields') = (intsFitFields fields && intsFitFields fields') := by
  induction fields with
  | nil => rfl
  | cons kv rest ih => rw [List.cons_append, intsFitFields, intsFitFields, ih, Bool.and_assoc]

/-- The document can be written when every number can. -/
theorem intsFit_toPayload {s : AgentState} : intsFit s.toPayload = true ↔ s.NumbersFit := by
  have hgenerations : intsFitFields (if s.generations.items.isEmpty then []
      else [(py "generations", natMapPayload s.generations)]) = true ↔
      ∀ room n, s.generations.get? room = some n → NumberFits n := by
    split_ifs with hempty
    · simp [intsFitFields, get?_of_isEmpty hempty]
    · simp [intsFitFields, intsFit_natMapPayload]
  have hrequests : intsFitFields (if s.capabilityRequests.items.isEmpty then []
      else [(py "capability_requests", historyPayload s.capabilityRequests)]) = true ↔
      ∀ did timestamps, s.capabilityRequests.get? did = some timestamps →
        ∀ t ∈ timestamps, NumberFits t := by
    split_ifs with hempty
    · simp [intsFitFields, get?_of_isEmpty hempty]
    · simp [intsFitFields, intsFit_historyPayload]
  simp only [toPayload, intsFit, payloadFields, intsFitFields, intsFitFields_append, hgenerations,
    hrequests, intsFit_natMapPayload, Bool.and_eq_true, true_and]
  exact ⟨fun h => ⟨h.1, h.2.1, h.2.2.1, h.2.2.2⟩,
    fun h => ⟨h.cursors, h.nonces, h.generations, h.histories⟩⟩

/-! ## What comes out of a file -/

theorem intsFit_lookup {fields : JsonFields} (h : intsFitFields fields = true) (key : PyStr)
    {fallback : Json} (hfallback : intsFit fallback = true) :
    intsFit ((fields.lookup key).getD fallback) = true := by
  cases hlookup : fields.lookup key with
  | none => exact hfallback
  | some v =>
      induction fields with
      | nil => cases hlookup
      | cons kv rest ih =>
          obtain ⟨k, w⟩ := kv
          rw [intsFitFields, Bool.and_eq_true] at h
          rw [List.lookup_cons] at hlookup
          split at hlookup
          · cases hlookup
            exact h.1
          · exact ih h.2 hlookup

theorem numberFits_of_requireNonnegativeInt {item : Json} {label : String} {n : ℕ}
    (hfit : intsFit item = true) (h : requireNonnegativeInt item label = .ok n) : NumberFits n := by
  unfold requireNonnegativeInt at h
  cases item with
  | int z =>
      simp only [asInt] at h
      split_ifs at h with hz
      cases h
      have habs : z.natAbs = z.toNat := by omega
      rw [NumberFits, ← habs]
      simpa [intsFit] using hfit
  | _ => cases h

theorem numberFits_of_nonnegativeIntMap {value : Json} {label : String} {d : PyDict ℕ}
    (hfit : intsFit value = true) (h : nonnegativeIntMap value label = .ok d) :
    ∀ room n, d.get? room = some n → NumberFits n := by
  unfold nonnegativeIntMap at h
  split at h
  · cases h
  rename_i fields hfields
  obtain rfl : value = .obj fields := by
    cases value <;> simp_all [asObj]
  rw [intsFit, intsFitFields_iff] at hfit
  refine forall_of_checkItems (P := fun _ n => NumberFits n) ?_ (by simp) h
  intro kv hkv n hn
  split_ifs at hn
  exact numberFits_of_requireNonnegativeInt (hfit kv hkv) hn

theorem numberFits_of_checkTimestamps {items : List Json} {timestamps : List ℕ}
    (hfit : intsFitItems items = true) (h : checkTimestamps items = .ok timestamps) :
    ∀ t ∈ timestamps, NumberFits t := by
  induction items generalizing timestamps with
  | nil =>
      cases h
      simp
  | cons item rest ih =>
      rw [intsFitItems, Bool.and_eq_true] at hfit
      unfold checkTimestamps at h
      obtain ⟨t, ht, h⟩ := PyResult.bind_ok h
      obtain ⟨ts, hts, h⟩ := PyResult.bind_ok h
      cases h
      rw [List.forall_mem_cons]
      exact ⟨numberFits_of_requireNonnegativeInt hfit.1 ht, ih hfit.2 hts⟩

theorem numberFits_of_capabilityRequestMap {value : Json} {d : PyDict (List ℕ)}
    (hfit : intsFit value = true) (h : capabilityRequestMap value = .ok d) :
    ∀ did timestamps, d.get? did = some timestamps → ∀ t ∈ timestamps, NumberFits t := by
  unfold capabilityRequestMap at h
  split at h
  · cases h
  rename_i fields hfields
  obtain rfl : value = .obj fields := by
    cases value <;> simp_all [asObj]
  rw [intsFit, intsFitFields_iff] at hfit
  split_ifs at h
  refine forall_of_checkItems (P := fun _ timestamps => ∀ t ∈ timestamps, NumberFits t) ?_ (by simp) h
  rintro ⟨did, item⟩ hkv timestamps hts
  have hitem := hfit _ hkv
  unfold checkHistory at hts
  split at hts
  · cases hts
  split at hts
  · cases hts
  rename_i items hitems
  obtain rfl : item = .arr items := by
    cases item <;> simp_all [asArr]
  split_ifs at hts
  obtain ⟨ts, hchecked, hts⟩ := PyResult.bind_ok hts
  split_ifs at hts
  cases hts
  exact numberFits_of_checkTimestamps hitem hchecked

/-- A room that keeps its name in the file: not the empty one, and without surrogate pairs, which
JSON text does not tell from the characters that they encode. -/
def RoomFits (room : PyStr) : Prop := room ≠ [] ∧ Unpaired room

instance : DecidablePred RoomFits := fun room => inferInstanceAs (Decidable (room ≠ [] ∧ Unpaired room))

/-- The keys of a map of rooms keep their names. -/
def RoomsFit (d : PyDict ℕ) : Prop := ∀ room n, d.get? room = some n → RoomFits room

theorem RoomsFit.named {d : PyDict ℕ} (h : RoomsFit d) : RoomsNamed d := fun room n hn => (h room n hn).1

theorem RoomsFit.set {d : PyDict ℕ} (h : RoomsFit d) {room : PyStr} (hroom : RoomFits room) (n : ℕ) :
    RoomsFit (d.set room n) := by
  intro other m hm
  rw [PyDict.get?_set] at hm
  split_ifs at hm with hother
  · rwa [hother]
  · exact h other m hm

/-- What the file can hold. -/
structure Storable (s : AgentState) : Prop where
  cursors : RoomsFit s.cursors
  nonces : RoomsFit s.nonces
  generations : RoomsFit s.generations
  numbers : s.NumbersFit
  principals : s.principalCount ≤ Capabilities.maxPrincipals

theorem storable_empty : Storable {} := ⟨nofun, nofun, nofun, numbersFit_empty, Nat.zero_le _⟩

theorem Storable.wellFormed {s : AgentState} (h : s.Storable) (hhistories : s.HistoriesOk) :
    s.WellFormed := ⟨h.cursors.named, h.nonces.named, h.generations.named, hhistories⟩

/-- The same entries can be held. -/
theorem Storable.congr {s s' : AgentState} (h : s'.Storable) (hagrees : Agrees s s') : s.Storable := by
  have hfits {d d' : PyDict ℕ} (hd : RoomsFit d') (hsame : ∀ room, d.get? room = d'.get? room) :
      RoomsFit d := fun room n hn => hd room n (by rw [← hsame, hn])
  have hnumbers : s.NumbersFit := by
    refine ⟨fun room n hn => ?_, fun room n hn => ?_, fun room n hn => ?_, fun did timestamps hts => ?_⟩
    · exact h.numbers.cursors room n (by rw [← hagrees.cursors, hn])
    · exact h.numbers.nonces room n (by rw [← hagrees.nonces, hn])
    · exact h.numbers.generations room n (by rw [← hagrees.generations, hn])
    · exact h.numbers.histories did timestamps (by rw [← hagrees.capabilityRequests, hts])
  refine ⟨hfits h.cursors hagrees.cursors, hfits h.nonces hagrees.nonces,
    hfits h.generations hagrees.generations, hnumbers, ?_⟩
  rw [principalCount, PyDict.length_congr hagrees.capabilityRequests]
  exact h.principals

theorem within_lookup {S F : PyStr → Prop} {fields : JsonFields} (h : WithinFields S F fields)
    (key : PyStr) {fallback : Json} (hfallback : Within S F fallback) :
    Within S F ((fields.lookup key).getD fallback) := by
  induction fields with
  | nil => exact hfallback
  | cons kv rest ih =>
      obtain ⟨k, v⟩ := kv
      rw [List.lookup_cons]
      split
      · exact h.2.1
      · exact ih h.2.2

theorem roomsFit_of_nonnegativeIntMap {value : Json} {label : String} {d : PyDict ℕ}
    (hwithin : WithinText value) (h : nonnegativeIntMap value label = .ok d) : RoomsFit d := by
  unfold nonnegativeIntMap at h
  split at h
  · cases h
  rename_i fields hfields
  obtain rfl : value = .obj fields := by
    cases value <;> simp_all [asObj]
  rw [WithinText, Within] at hwithin
  refine forall_of_checkItems (P := fun room _ => RoomFits room) ?_ (by simp) h
  intro kv hkv n hn
  split_ifs at hn with hroom
  exact ⟨hroom, (withinFields_iff.mp hwithin.2 kv hkv).1⟩

/-- **What is loaded can be stored.** -/
theorem storable_of_fromPayload {j : Json} {s : AgentState} (hfit : intsFit j = true)
    (hwithin : WithinText j) (h : fromPayload j = .ok s) : s.Storable ∧ s.HistoriesOk := by
  obtain ⟨hwell, hcount⟩ := wellFormed_of_fromPayload h
  unfold fromPayload at h
  split at h
  · cases h
  rename_i fields hfields
  obtain rfl : j = .obj fields := by
    cases j <;> simp_all [asObj]
  rw [WithinText, Within] at hwithin
  split_ifs at h
  obtain ⟨cursors, hcursors, h⟩ := PyResult.bind_ok h
  obtain ⟨nonces, hnonces, h⟩ := PyResult.bind_ok h
  obtain ⟨generations, hgenerations, h⟩ := PyResult.bind_ok h
  obtain ⟨requests, hrequests, h⟩ := PyResult.bind_ok h
  cases h
  have hnull : WithinText .null := trivial
  have hempty : WithinText (.obj []) := ⟨List.nodup_nil, trivial⟩
  refine ⟨⟨?_, ?_, ?_, ?_, hcount⟩, hwell.histories⟩
  · exact roomsFit_of_nonnegativeIntMap (within_lookup hwithin.2 _ hnull) hcursors
  · exact roomsFit_of_nonnegativeIntMap (within_lookup hwithin.2 _ hnull) hnonces
  · exact roomsFit_of_nonnegativeIntMap (within_lookup hwithin.2 _ hempty) hgenerations
  · exact ⟨numberFits_of_nonnegativeIntMap (intsFit_lookup hfit _ rfl) hcursors,
      numberFits_of_nonnegativeIntMap (intsFit_lookup hfit _ rfl) hnonces,
      numberFits_of_nonnegativeIntMap (intsFit_lookup hfit _ rfl) hgenerations,
      numberFits_of_capabilityRequestMap (intsFit_lookup hfit _ rfl) hrequests⟩

/-! ## What goes into a file -/

section Payload

variable {S F : PyStr → Prop} {s : AgentState}

theorem within_natMapPayload {d : PyDict ℕ} (hrooms : ∀ room n, d.get? room = some n → S room)
    (hfit : ∀ room n, d.get? room = some n → NumberFits n) : Within S F (natMapPayload d) := by
  rw [natMapPayload, Within, keys_map_items fun n : ℕ => Json.int n]
  refine ⟨d.sorted.nodup, withinFields_iff.mpr fun kv hkv => ?_⟩
  obtain ⟨⟨room, n⟩, hmem, rfl⟩ := List.mem_map.mp hkv
  have hget := mem_sorted_iff.mp hmem
  exact ⟨hrooms room n hget, hfit room n hget⟩

theorem within_timestamps {timestamps : List ℕ} (h : ∀ t ∈ timestamps, NumberFits t) :
    WithinItems S F (timestamps.map fun (t : ℕ) => Json.int t) := by
  induction timestamps with
  | nil => trivial
  | cons t rest ih =>
      rw [List.forall_mem_cons] at h
      exact ⟨h.1, ih h.2⟩

theorem within_historyPayload {d : PyDict (List ℕ)}
    (hdids : ∀ did timestamps, d.get? did = some timestamps → S did)
    (hfit : ∀ did timestamps, d.get? did = some timestamps → ∀ t ∈ timestamps, NumberFits t) :
    Within S F (historyPayload d) := by
  rw [historyPayload, Within,
    keys_map_items fun timestamps : List ℕ => Json.arr (timestamps.map fun (t : ℕ) => Json.int t)]
  refine ⟨d.sorted.nodup, withinFields_iff.mpr fun kv hkv => ?_⟩
  obtain ⟨⟨did, timestamps⟩, hmem, rfl⟩ := List.mem_map.mp hkv
  have hget := mem_sorted_iff.mp hmem
  exact ⟨hdids did timestamps hget, within_timestamps (hfit did timestamps hget)⟩

/-- The object that `save` writes holds the keys of the four maps, and no other strings than ASCII. -/
theorem within_toPayload (hascii : ∀ t, (∀ c ∈ t, isAscii c = true) → S t)
    (hcursors : ∀ room n, s.cursors.get? room = some n → S room)
    (hnonces : ∀ room n, s.nonces.get? room = some n → S room)
    (hgenerations : ∀ room n, s.generations.get? room = some n → S room)
    (hdids : ∀ did timestamps, s.capabilityRequests.get? did = some timestamps → S did)
    (hfit : s.NumbersFit) : Within S F s.toPayload := by
  have hkeys : (keys s.payloadFields).Sublist
      [py "schema", py "cursors", py "nonces", py "generations", py "capability_requests"] := by
    unfold payloadFields
    refine .cons_cons _ (.cons_cons _ (.cons_cons _ ?_))
    split_ifs
    · exact .cons _ (.cons _ .slnil)
    · exact .cons _ (.cons_cons _ .slnil)
    · exact .cons_cons _ (.cons _ .slnil)
    · exact .cons_cons _ (.cons_cons _ .slnil)
  have hnodup : (keys s.payloadFields).Nodup := hkeys.nodup (by decide)
  rw [toPayload, Within]
  refine ⟨hnodup, withinFields_iff.mpr ?_⟩
  unfold payloadFields
  simp only [List.forall_mem_cons, List.forall_mem_append]
  refine ⟨⟨hascii _ (by decide), hascii _ (by decide)⟩,
    ⟨hascii _ (by decide), within_natMapPayload hcursors hfit.cursors⟩,
    ⟨hascii _ (by decide), within_natMapPayload hnonces hfit.nonces⟩, ?_, ?_⟩
  · split_ifs
    · simp
    · simp only [List.forall_mem_singleton]
      exact ⟨hascii _ (by decide), within_natMapPayload hgenerations hfit.generations⟩
  · split_ifs
    · simp
    · simp only [List.forall_mem_singleton]
      exact ⟨hascii _ (by decide), within_historyPayload hdids hfit.histories⟩

theorem depthItems_timestamps (timestamps : List ℕ) :
    depthItems (timestamps.map fun (t : ℕ) => Json.int t) = 0 := by
  induction timestamps with
  | nil => rfl
  | cons t rest ih =>
      rw [List.map_cons, depthItems, ih]
      rfl

theorem depth_toPayload (s : AgentState) : depth s.toPayload ≤ 3 := by
  have hmap (d : PyDict ℕ) : depth (natMapPayload d) ≤ 2 := by
    have hfields : depthFields (d.sorted.items.map fun kv => (kv.1, Json.int kv.2)) ≤ 1 :=
      depthFields_le_iff.mpr fun kv hkv => by
        obtain ⟨entry, -, rfl⟩ := List.mem_map.mp hkv
        exact Nat.zero_le _
    rw [natMapPayload, depth]
    omega
  have hhistory : depth (historyPayload s.capabilityRequests) ≤ 2 := by
    have hfields : depthFields (s.capabilityRequests.sorted.items.map fun kv : PyStr × List ℕ =>
        (kv.1, Json.arr (kv.2.map fun (t : ℕ) => Json.int t))) ≤ 1 :=
      depthFields_le_iff.mpr fun kv hkv => by
        obtain ⟨entry, -, rfl⟩ := List.mem_map.mp hkv
        rw [depth, depthItems_timestamps]
    rw [historyPayload, depth]
    omega
  have hfields : depthFields s.payloadFields ≤ 2 := by
    rw [depthFields_le_iff]
    unfold payloadFields
    simp only [List.forall_mem_cons, List.forall_mem_append]
    refine ⟨Nat.zero_le _, hmap _, hmap _, ?_, ?_⟩
    · split_ifs
      · simp
      · simpa only [List.forall_mem_singleton] using hmap s.generations
    · split_ifs
      · simp
      · simpa only [List.forall_mem_singleton] using hhistory
  rw [toPayload, depth]
  omega

end Payload

/-! ## Reloading -/

/-- The text that `save` writes. -/
def stateText (s : AgentState) : PyResult PyStr :=
  if intsFit s.toPayload then .ok (render s.toPayload ++ [10]) else .error intTooLong

section Text

variable [Platform]

/-- `load` on the text of the file. -/
def readStateText (text : PyStr) : PyResult AgentState :=
  match loadsStr Protocol.jsonReader text with
  | .error e =>
      .error (if e.isa .jsonDecodeError then stateError ("cannot read state file: " ++ e.message) else e)
  | .ok payload => fromPayload payload

/-- `AgentState.load` of the file that `AgentState.save` writes. -/
def reload (s : AgentState) : PyResult AgentState := do
  let text ← s.stateText
  readStateText text

/-- What a text without surrogates is read as. -/
theorem storable_of_readStateText {text : PyStr} {s : AgentState} (htext : Scalars text)
    (h : readStateText text = .ok s) : s.Storable ∧ s.HistoriesOk := by
  unfold readStateText at h
  split at h
  · cases h
  rename_i payload hpayload
  exact storable_of_fromPayload (loadsStr_intsFit (hookKeepsMembers_dict rfl) hpayload)
    (loadsStr_within (hookKeepsMembers_dict rfl) htext hpayload) h

/-- The text of a state is ASCII. -/
theorem scalars_stateText {s : AgentState} {text : PyStr} (h : s.stateText = .ok text) :
    Scalars text := by
  unfold stateText at h
  split_ifs at h with hfit
  cases h
  have hwithin : Within (fun _ => True) (KeepsZero Protocol.jsonReader) s.toPayload :=
    within_toPayload (fun _ _ => trivial) (fun _ _ _ => trivial) (fun _ _ _ => trivial)
      (fun _ _ _ => trivial) (fun _ _ _ => trivial) (intsFit_toPayload.mp hfit)
  refine List.forall_mem_append.mpr ⟨fun c hc => ?_, by decide⟩
  have hprintable := printable_render_within _ hwithin c hc
  exact isScalar_of_isAscii (decide_eq_true (by omega))

/-- What can be stored is read back from its text. -/
theorem loadsStr_stateText {s : AgentState} (h : s.Storable) (hhistories : s.HistoriesOk) :
    loadsStr Protocol.jsonReader (render s.toPayload ++ [10]) = .ok s.toPayload := by
  have hunpaired (t : PyStr) (ht : ∀ c ∈ t, isAscii c = true) : Unpaired t :=
    unpaired_of_scalars fun c hc => isScalar_of_isAscii (ht c hc)
  have hwithin : Within Unpaired (KeepsZero Protocol.jsonReader) s.toPayload :=
    within_toPayload hunpaired (fun room n hn => (h.cursors room n hn).2)
      (fun room n hn => (h.nonces room n hn).2) (fun room n hn => (h.generations room n hn).2)
      (fun did timestamps hts => hunpaired did (Audit.isAscii_of_isDid (hhistories did timestamps hts).1))
      h.numbers
  have hdepth : depth s.toPayload ≤ Platform.recursionLimit :=
    (depth_toPayload s).trans (le_trans (by decide) Platform.four_le_recursionLimit)
  exact loadsStr_render_within spelling_unpaired (hookKeeps_dict rfl) hwithin hdepth
    (numberEnds_cons (by decide)) rfl

/-- **When a state can be reloaded.** -/
theorem reload_iff {s : AgentState} (h : s.HistoriesOk) :
    (∃ s', s.reload = .ok s' ∧ Agrees s s') ↔ s.Storable := by
  constructor
  · rintro ⟨s', hreload, hagrees⟩
    obtain ⟨text, htext, hread⟩ := PyResult.bind_ok hreload
    exact (storable_of_readStateText (scalars_stateText htext) hread).1.congr hagrees
  · intro hs
    have hfit : intsFit s.toPayload = true := intsFit_toPayload.mpr hs.numbers
    have htext : s.stateText = .ok (render s.toPayload ++ [10]) := if_pos hfit
    obtain ⟨s', hread, hagrees⟩ := fromPayload_of_wellFormed (hs.wellFormed h) hs.principals
    refine ⟨s', ?_, hagrees⟩
    rw [reload, htext]
    show readStateText _ = _
    rw [readStateText, loadsStr_stateText hs h]
    exact hread

end Text

/-! ## Reservations -/

theorem inWindow_sorted {now window : ℕ} {timestamps : List ℕ} (h : timestamps.Pairwise (· ≤ ·)) :
    (inWindow now window timestamps).Pairwise (· ≤ ·) := h.filter _

theorem le_effectiveNow {existing : List ℕ} (h : existing.Pairwise (· ≤ ·)) (now : ℕ) :
    ∀ t ∈ existing, t ≤ effectiveNow existing now := by
  intro t ht
  induction existing using List.reverseRecOn with
  | nil => cases ht
  | append_singleton init last _ =>
      rw [effectiveNow, List.getLastD_concat]
      rw [List.mem_append, List.mem_singleton] at ht
      rcases ht with hinit | rfl
      · exact le_trans ((List.pairwise_append.mp h).2.2 t hinit last (by simp)) (le_max_right _ _)
      · exact le_max_right _ _

/-- Pruning does not raise the count.  Where the latest timestamp is pruned, all are. -/
theorem length_inWindow_prune {existing : List ℕ} (h : existing.Pairwise (· ≤ ·)) (now window : ℕ) :
    (inWindow (effectiveNow (inWindow now window existing) now) window
        (inWindow now window existing)).length ≤
      (inWindow (effectiveNow existing now) window existing).length := by
  by_cases hnone : inWindow now window existing = []
  · rw [hnone]
    exact Nat.zero_le _
  induction existing using List.reverseRecOn with
  | nil => exact absurd rfl hnone
  | append_singleton init last _ =>
      have hlast : now < last + window := by
        by_contra hout
        apply hnone
        rw [inWindow, List.filter_eq_nil_iff]
        intro t ht
        have hle : t ≤ last := by
          rw [List.mem_append, List.mem_singleton] at ht
          rcases ht with hinit | rfl
          · exact (List.pairwise_append.mp h).2.2 t hinit last (by simp)
          · exact le_rfl
        simp only [decide_eq_true_eq]
        omega
      have hsplit : inWindow now window (init ++ [last]) = inWindow now window init ++ [last] := by
        simp [inWindow, List.filter_append, hlast]
      have heffective : effectiveNow (inWindow now window (init ++ [last])) now =
          effectiveNow (init ++ [last]) now := by
        rw [hsplit, effectiveNow, effectiveNow, List.getLastD_concat, List.getLastD_concat]
      rw [heffective]
      exact (List.filter_sublist.filter _).length_le

/-- A reservation within a limit keeps the histories. -/
theorem HistoriesOk.reserve {s s' : AgentState} {did : PyStr} {limit now count : ℕ}
    (h : s.HistoriesOk) (hdid : Crypto.isDid did = true) (hlimit : limit ≤ maxRequestsPerHour)
    (hr : Agent.Reserved did limit s s' now count) : s'.HistoriesOk := by
  -- the limiter let the request through: the window has room for one more
  have hself : (s.historyOf did).Pairwise (· ≤ ·) ∧
      (inWindow (effectiveNow (s.historyOf did) now) Capabilities.windowSeconds
        (s.historyOf did)).length < 1000 := by
    have hcount := hr.counted
    unfold capabilityRequestCount at hcount
    rw [if_neg (by decide)] at hcount
    have hbelow := hr.below
    have hmax : maxRequestsPerHour = 1000 := rfl
    cases hcount
    refine ⟨?_, by omega⟩
    rw [historyOf]
    cases hget : s.capabilityRequests.get? did with
    | none => exact List.Pairwise.nil
    | some timestamps => exact (h did timestamps hget).2.2
  -- pruning keeps what is in the window of each history, in its order
  have hpruned : ∀ other timestamps,
      (s.pruneCapabilityRequests now Capabilities.windowSeconds).capabilityRequests.get? other =
        some timestamps →
      Crypto.isDid other = true ∧ timestamps.length ≤ 1000 ∧ timestamps.Pairwise (· ≤ ·) := by
    intro other timestamps hget
    rw [pruneCapabilityRequests, PyDict.get?_filterMap] at hget
    obtain ⟨old, hold, hkept⟩ := Option.bind_eq_some_iff.mp hget
    dsimp only at hkept
    split_ifs at hkept
    cases hkept
    obtain ⟨hother, hlong, hsorted⟩ := h other old hold
    exact ⟨hother, le_trans List.filter_sublist.length_le hlong, inWindow_sorted hsorted⟩
  have hreserved := hr.reserved
  unfold reserveCapabilityRequest at hreserved
  split_ifs at hreserved
  cases hreserved
  intro other timestamps hget
  rw [PyDict.get?_set] at hget
  -- the other histories are only pruned
  by_cases hother : other = did
  case neg =>
    rw [if_neg hother] at hget
    exact hpruned other timestamps hget
  rw [if_pos hother] at hget
  cases hget
  rw [historyOf_prune]
  have hsorted : (inWindow now Capabilities.windowSeconds (s.historyOf did)).Pairwise (· ≤ ·) :=
    inWindow_sorted hself.1
  refine ⟨hother ▸ hdid, ?_, ?_⟩
  · have hlength := length_inWindow_prune hself.1 now Capabilities.windowSeconds
    rw [List.length_append, List.length_singleton]
    omega
  · rw [List.pairwise_append]
    refine ⟨inWindow_sorted hsorted, List.pairwise_singleton _ _, ?_⟩
    intro t ht last hlast
    rw [List.mem_singleton] at hlast
    rw [hlast]
    exact le_effectiveNow hsorted now t (List.mem_of_mem_filter ht)

end AgentState
