/-
# Cursors, nonces and quota history (`state.py`)

`AgentState` is the object in memory; `toPayload` is what `save` writes and
`fromPayload` what `load` checks.

* `nextNonce_ok`            : a chosen nonce exceeds the one recorded for the room;
* `advanceCursor_ok`        : a cursor never moves back;
* `fromPayload_toPayload`   : a state that was saved and is accepted again has the same
  entries in all four maps (`Agrees`);
* `reserve_get?_self` and `prune_get?` : what a reservation does to each principal's history.
-/
import SafeAgent.Crypto

open PyText

/-- `AgentState` -/
structure AgentState where
  cursors : PyDict ℕ := .empty
  nonces : PyDict ℕ := .empty
  generations : PyDict ℕ := .empty
  capabilityRequests : PyDict (List ℕ) := .empty

namespace AgentState

/-- `StateError(message)` -/
def stateError (message : String) : PyErr := .of .stateError message

/-! ## Cursors and generations -/

/-- `cursor_for` -/
def cursorFor (s : AgentState) (room : PyStr) : ℕ := (s.cursors.get? room).getD 0

/-- `advance_cursor` -/
def advanceCursor (s : AgentState) (room : PyStr) (sequence : ℕ) : PyResult AgentState :=
  if sequence < s.cursorFor room then
    .error (stateError "refusing to move a room cursor backwards")
  else .ok { s with cursors := s.cursors.set room sequence }

/-- `generation_for` -/
def generationFor (s : AgentState) (room : PyStr) : Option ℕ := s.generations.get? room

/-- `observe_generation`: whether the generation grew, and the new state. -/
def observeGeneration (s : AgentState) (room : PyStr) (generation : ℕ) :
    PyResult (Bool × AgentState) :=
  let next := { s with generations := s.generations.set room generation }
  match s.generationFor room with
  | none => .ok (false, next)
  | some previous =>
      if generation < previous then
        .error (stateError "refusing to move a room generation backwards")
      else .ok (decide (previous < generation), next)

/-! ## Nonces -/

/-- `nonces.get(room, 0)` -/
def nonceFor (s : AgentState) (room : PyStr) : ℕ := (s.nonces.get? room).getD 0

/-- The largest nonce of 19 digits. -/
def maxNonce : ℕ := 9999999999999999999

/-- `next_nonce` -/
def nextNonce (s : AgentState) (room : PyStr) (clockValue : ℤ) : PyResult (ℕ × AgentState) :=
  if clockValue < 0 then .error (stateError "clock nonce must be a non-negative integer")
  else
    let selected := max clockValue.toNat (s.nonceFor room + 1)
    if maxNonce < selected then
      .error (stateError "nonce exceeds the Technocore 19-digit limit")
    else .ok (selected, { s with nonces := s.nonces.set room selected })

/-- `observe_nonce` -/
def observeNonce (s : AgentState) (room : PyStr) (nonce : ℕ) : AgentState :=
  { s with nonces := s.nonces.set room (max (s.nonceFor room) nonce) }

theorem advanceCursor_ok {s s' : AgentState} {room : PyStr} {sequence : ℕ}
    (h : s.advanceCursor room sequence = .ok s') :
    s.cursorFor room ≤ sequence ∧ s' = { s with cursors := s.cursors.set room sequence } := by
  unfold advanceCursor at h
  split_ifs at h with hlt
  cases h
  exact ⟨Nat.le_of_not_lt hlt, rfl⟩

theorem advanceCursor_of_le {s : AgentState} {room : PyStr} {sequence : ℕ}
    (h : s.cursorFor room ≤ sequence) :
    s.advanceCursor room sequence = .ok { s with cursors := s.cursors.set room sequence } := by
  rw [advanceCursor, if_neg (by omega)]

theorem observeGeneration_ok {s s' : AgentState} {room : PyStr} {generation : ℕ} {grew : Bool}
    (h : s.observeGeneration room generation = .ok (grew, s')) :
    s' = { s with generations := s.generations.set room generation } := by
  unfold observeGeneration at h
  dsimp only at h
  split at h
  · cases h
    rfl
  · split_ifs at h
    cases h
    rfl

/-- A chosen nonce exceeds the recorded one, and fits into 19 digits. -/
theorem nextNonce_ok {s s' : AgentState} {room : PyStr} {clockValue : ℤ} {nonce : ℕ}
    (h : s.nextNonce room clockValue = .ok (nonce, s')) :
    s.nonceFor room < nonce ∧ nonce ≤ maxNonce ∧
      s' = { s with nonces := s.nonces.set room nonce } := by
  unfold nextNonce at h
  dsimp only at h
  split_ifs at h with hneg hbig
  cases h
  exact ⟨by omega, by omega, rfl⟩

@[simp] theorem cursorFor_set_self (s : AgentState) (room : PyStr) (n : ℕ) :
    cursorFor { s with cursors := s.cursors.set room n } room = n := by
  simp [cursorFor]

theorem cursorFor_set_of_ne {room other : PyStr} (h : other ≠ room) (s : AgentState) (n : ℕ) :
    cursorFor { s with cursors := s.cursors.set room n } other = s.cursorFor other := by
  simp [cursorFor, PyDict.get?_set_of_ne h]

@[simp] theorem nonceFor_set_self (s : AgentState) (room : PyStr) (n : ℕ) :
    nonceFor { s with nonces := s.nonces.set room n } room = n := by
  simp [nonceFor]

theorem nonceFor_set_of_ne {room other : PyStr} (h : other ≠ room) (s : AgentState) (n : ℕ) :
    nonceFor { s with nonces := s.nonces.set room n } other = s.nonceFor other := by
  simp [nonceFor, PyDict.get?_set_of_ne h]

/-! ## Quota history -/

/-- The timestamps of the window that ends at `now`. -/
def inWindow (now window : ℕ) (timestamps : List ℕ) : List ℕ :=
  timestamps.filter fun t => now < t + window

/-- `max(now, existing[-1] if existing else now)` -/
def effectiveNow (existing : List ℕ) (now : ℕ) : ℕ := max now (existing.getLastD now)

/-- The history of a principal. -/
def historyOf (s : AgentState) (did : PyStr) : List ℕ := (s.capabilityRequests.get? did).getD []

/-- `capability_request_count` -/
def capabilityRequestCount (s : AgentState) (did : PyStr) (now window : ℕ) : PyResult ℕ :=
  if window = 0 then .error (stateError "capability window must be a positive integer")
  else
    let existing := s.historyOf did
    .ok (inWindow (effectiveNow existing now) window existing).length

/-- `_prune_capability_requests` -/
def pruneCapabilityRequests (s : AgentState) (now window : ℕ) : AgentState :=
  { s with
    capabilityRequests := s.capabilityRequests.filterMap fun timestamps =>
      let current := inWindow now window timestamps
      if current = [] then none else some current }

/-- `reserve_capability_request` -/
def reserveCapabilityRequest (s : AgentState) (did : PyStr) (now window : ℕ) :
    PyResult AgentState :=
  if did = [] then .error (stateError "capability principal must be a non-empty string")
  else if window = 0 then .error (stateError "capability window must be a positive integer")
  else
    let pruned := s.pruneCapabilityRequests now window
    let existing := pruned.historyOf did
    let effective := effectiveNow existing now
    .ok { pruned with
      capabilityRequests :=
        pruned.capabilityRequests.set did (inWindow effective window existing ++ [effective]) }

theorem historyOf_prune (s : AgentState) (now window : ℕ) (did : PyStr) :
    (s.pruneCapabilityRequests now window).historyOf did =
      inWindow now window (s.historyOf did) := by
  simp only [historyOf, pruneCapabilityRequests, PyDict.get?_filterMap]
  cases s.capabilityRequests.get? did with
  | none => rfl
  | some timestamps =>
      simp only [Option.bind_some, Option.getD_some]
      split_ifs with h
      · simp [h]
      · rfl

/-- What is in a later window is in the earlier one. -/
theorem inWindow_inWindow {now later : ℕ} (h : now ≤ later) (window : ℕ) (stamps : List ℕ) :
    inWindow later window (inWindow now window stamps) = inWindow later window stamps := by
  unfold inWindow
  rw [List.filter_filter]
  refine List.filter_congr ?_
  intro t _
  rw [Bool.and_eq_left_iff_imp]
  simp only [decide_eq_true_eq]
  omega

/-- What a reservation does to the history of each principal. -/
theorem historyOf_reserve {s s' : AgentState} {did : PyStr} {now window : ℕ}
    (h : s.reserveCapabilityRequest did now window = .ok s') (other : PyStr) :
    s'.historyOf other =
      if other = did then
        inWindow (effectiveNow (inWindow now window (s.historyOf did)) now) window
          (inWindow now window (s.historyOf did)) ++
            [effectiveNow (inWindow now window (s.historyOf did)) now]
      else inWindow now window (s.historyOf other) := by
  unfold reserveCapabilityRequest at h
  simp only [historyOf_prune] at h
  split_ifs at h with hdid hwindow
  cases h
  split_ifs with hother
  · subst hother
    rw [historyOf, PyDict.get?_set_self, Option.getD_some]
  · rw [historyOf, PyDict.get?_set_of_ne hother, ← historyOf, historyOf_prune]

/-- A reservation touches nothing but the quota history. -/
theorem reserve_frame {s s' : AgentState} {did : PyStr} {now window : ℕ}
    (h : s.reserveCapabilityRequest did now window = .ok s') :
    s'.cursors = s.cursors ∧ s'.nonces = s.nonces ∧ s'.generations = s.generations := by
  unfold reserveCapabilityRequest at h
  split_ifs at h
  cases h
  exact ⟨rfl, rfl, rfl⟩

/-! ## The saved document -/

open Json PyItems

/-- The schema of the state file. -/
def stateSchema : PyStr := py "technocore-safe-agent-state-v1"

/-- `dict(sorted(d.items()))` as JSON. -/
def natMapPayload (d : PyDict ℕ) : Json :=
  .obj (d.sorted.items.map fun kv => (kv.1, .int kv.2))

/-- The quota history as JSON. -/
def historyPayload (d : PyDict (List ℕ)) : Json :=
  .obj (d.sorted.items.map fun kv => (kv.1, .arr (kv.2.map fun (t : ℕ) => Json.int t)))

/-- The items that `save` writes: the last two maps only when they are not empty. -/
def payloadFields (s : AgentState) : JsonFields :=
  (py "schema", .str stateSchema) :: (py "cursors", natMapPayload s.cursors) ::
    (py "nonces", natMapPayload s.nonces) ::
    ((if s.generations.items.isEmpty then []
      else [(py "generations", natMapPayload s.generations)]) ++
    (if s.capabilityRequests.items.isEmpty then []
      else [(py "capability_requests", historyPayload s.capabilityRequests)]))

/-- The object that `save` writes. -/
def toPayload (s : AgentState) : Json := .obj s.payloadFields

/-- `_require_nonnegative_int` -/
def requireNonnegativeInt (value : Json) (label : String) : PyResult ℕ :=
  match value.asInt with
  | some n =>
      if 0 ≤ n then .ok n.toNat
      else .error (stateError (label ++ " must be a non-negative integer"))
  | none => .error (stateError (label ++ " must be a non-negative integer"))

/-- `repr(key)` of a key without quotes or escapes. -/
def reprKey (key : PyStr) : String := "'" ++ String.ofList (key.map Char.ofNat) ++ "'"

/-- `_nonnegative_int_map` -/
def nonnegativeIntMap (value : Json) (label : String) : PyResult (PyDict ℕ) :=
  match value.asObj with
  | none => .error (stateError ("state " ++ label ++ " must be an object"))
  | some fields =>
      checkItems (fun key item =>
        if key = [] then
          .error (stateError ("state " ++ label ++ " contains an invalid room"))
        else requireNonnegativeInt item ("state " ++ label ++ "[" ++ reprKey key ++ "]"))
        fields .empty

/-- `[_require_nonnegative_int(item, …) for item in raw_timestamps]` -/
def checkTimestamps : List Json → PyResult (List ℕ)
  | [] => .ok []
  | item :: rest => do
      let t ← requireNonnegativeInt item "capability request timestamp"
      let ts ← checkTimestamps rest
      return t :: ts

/-- One entry of `_capability_request_map`. -/
def checkHistory (did : PyStr) (rawTimestamps : Json) : PyResult (List ℕ) :=
  match Crypto.validateDid did with
  | .error _ => .error (stateError "state capability_requests contains an invalid principal")
  | .ok _ =>
      match rawTimestamps.asArr with
      | none => .error (stateError "state capability request history is invalid or oversized")
      | some items =>
          if 1000 < items.length then
            .error (stateError "state capability request history is invalid or oversized")
          else do
            let timestamps ← checkTimestamps items
            if timestamps.Pairwise (· ≤ ·) then .ok timestamps
            else .error (stateError "state capability request history is not ordered")

/-- `_capability_request_map` -/
def capabilityRequestMap (value : Json) : PyResult (PyDict (List ℕ)) :=
  match value.asObj with
  | none => .error (stateError "state capability_requests must be a bounded object")
  | some fields =>
      if 128 < fields.length then
        .error (stateError "state capability_requests must be a bounded object")
      else checkItems checkHistory fields .empty

/-- The checks of `load` on a decoded document. -/
def fromPayload (payload : Json) : PyResult AgentState :=
  match payload.asObj with
  | none => .error (stateError "state file has an unsupported schema")
  | some fields =>
      if ¬(get fields (py "schema")).isStr stateSchema then
        .error (stateError "state file has an unsupported schema")
      else do
        let cursors ← nonnegativeIntMap (get fields (py "cursors")) "cursors"
        let nonces ← nonnegativeIntMap (get fields (py "nonces")) "nonces"
        let generations ← nonnegativeIntMap
          ((fields.lookup (py "generations")).getD (.obj [])) "generations"
        let capabilityRequests ← capabilityRequestMap
          ((fields.lookup (py "capability_requests")).getD (.obj []))
        return { cursors, nonces, generations, capabilityRequests }

/-- The same entries in all four maps. -/
structure Agrees (s s' : AgentState) : Prop where
  cursors : ∀ room, s.cursors.get? room = s'.cursors.get? room
  nonces : ∀ room, s.nonces.get? room = s'.nonces.get? room
  generations : ∀ room, s.generations.get? room = s'.generations.get? room
  capabilityRequests : ∀ did, s.capabilityRequests.get? did = s'.capabilityRequests.get? did

theorem Agrees.refl (s : AgentState) : Agrees s s :=
  ⟨fun _ => rfl, fun _ => rfl, fun _ => rfl, fun _ => rfl⟩

theorem Agrees.symm {s s' : AgentState} (h : Agrees s s') : Agrees s' s :=
  ⟨fun r => (h.cursors r).symm, fun r => (h.nonces r).symm, fun r => (h.generations r).symm,
    fun d => (h.capabilityRequests d).symm⟩

theorem Agrees.cursorFor {s s' : AgentState} (h : Agrees s s') (room : PyStr) :
    s.cursorFor room = s'.cursorFor room := by
  rw [AgentState.cursorFor, AgentState.cursorFor, h.cursors room]

theorem Agrees.nonceFor {s s' : AgentState} (h : Agrees s s') (room : PyStr) :
    s.nonceFor room = s'.nonceFor room := by
  rw [AgentState.nonceFor, AgentState.nonceFor, h.nonces room]

/-! ## Saving and loading -/

theorem requireNonnegativeInt_ok {n m : ℕ} {label : String}
    (h : requireNonnegativeInt (.int n) label = .ok m) : m = n := by
  simpa [requireNonnegativeInt, asInt, eq_comm] using h

theorem get?_of_nonnegativeIntMap {d d' : PyDict ℕ} {label : String}
    (h : nonnegativeIntMap (natMapPayload d) label = .ok d') (key : PyStr) :
    d'.get? key = d.get? key := by
  refine get?_of_checkItems_payload (f := fun n : ℕ => Json.int n) ?_ h key
  intro key v v' hv
  split_ifs at hv
  exact requireNonnegativeInt_ok hv

theorem checkTimestamps_ok {ts ts' : List ℕ}
    (h : checkTimestamps (ts.map fun (t : ℕ) => Json.int t) = .ok ts') : ts' = ts := by
  induction ts generalizing ts' with
  | nil =>
      cases h
      rfl
  | cons t ts ih =>
      simp only [List.map_cons, checkTimestamps, bind, Except.bind] at h
      split at h
      · cases h
      · rename_i t' ht
        split at h
        · cases h
        · rename_i ts'' hts
          cases h
          rw [requireNonnegativeInt_ok ht, ih hts]

theorem checkHistory_ok {did : PyStr} {ts ts' : List ℕ}
    (h : checkHistory did (.arr (ts.map fun (t : ℕ) => Json.int t)) = .ok ts') : ts' = ts := by
  unfold checkHistory at h
  split at h
  · cases h
  · simp only [asArr, bind, Except.bind] at h
    split_ifs at h
    split at h
    · cases h
    · rename_i ts'' hts
      split_ifs at h
      cases h
      exact checkTimestamps_ok hts

theorem get?_of_capabilityRequestMap {d d' : PyDict (List ℕ)}
    (h : capabilityRequestMap (historyPayload d) = .ok d') (key : PyStr) :
    d'.get? key = d.get? key := by
  simp only [capabilityRequestMap, historyPayload, asObj] at h
  split_ifs at h
  exact get?_of_checkItems_payload (f := fun ts : List ℕ => Json.arr (ts.map fun (t : ℕ) => .int t))
    (fun _ _ _ hv => checkHistory_ok hv) h key

theorem get?_of_isEmpty {β : Type} {d : PyDict β} (h : d.items.isEmpty = true) (key : PyStr) :
    d.get? key = none := by
  rw [PyDict.get?, List.isEmpty_iff.mp h]
  rfl

theorem lookup_generations (s : AgentState) :
    (s.payloadFields.lookup (py "generations")).getD (.obj []) =
      if s.generations.items.isEmpty then .obj [] else natMapPayload s.generations := by
  unfold payloadFields
  cases s.generations.items.isEmpty <;> cases s.capabilityRequests.items.isEmpty <;> rfl

theorem lookup_capabilityRequests (s : AgentState) :
    (s.payloadFields.lookup (py "capability_requests")).getD (.obj []) =
      if s.capabilityRequests.items.isEmpty then .obj []
      else historyPayload s.capabilityRequests := by
  unfold payloadFields
  cases s.generations.items.isEmpty <;> cases s.capabilityRequests.items.isEmpty <;> rfl

/-- **Saving loses nothing.**  A state that was saved and is accepted again has the same
entries as before. -/
theorem fromPayload_toPayload {s s' : AgentState} (h : fromPayload s.toPayload = .ok s') :
    Agrees s s' := by
  have hschema : get s.payloadFields (py "schema") = .str stateSchema := rfl
  have hcursors : get s.payloadFields (py "cursors") = natMapPayload s.cursors := rfl
  have hnonces : get s.payloadFields (py "nonces") = natMapPayload s.nonces := rfl
  simp only [fromPayload, toPayload, asObj, hschema, hcursors, hnonces, lookup_generations,
    lookup_capabilityRequests, isStr_iff, not_true_eq_false, if_false, bind, Except.bind] at h
  split at h
  · cases h
  · rename_i cursors hcursors
    split at h
    · cases h
    · rename_i nonces hnonces
      split at h
      · cases h
      · rename_i generations hgenerations
        split at h
        · cases h
        · rename_i requests hrequests
          cases h
          refine ⟨fun key => (get?_of_nonnegativeIntMap hcursors key).symm,
            fun key => (get?_of_nonnegativeIntMap hnonces key).symm, fun key => ?_, fun key => ?_⟩
          · split_ifs at hgenerations with hg
            · cases hgenerations
              exact get?_of_isEmpty hg key
            · exact (get?_of_nonnegativeIntMap hgenerations key).symm
          · split_ifs at hrequests with hc
            · cases hrequests
              exact get?_of_isEmpty hc key
            · exact (get?_of_capabilityRequestMap hrequests key).symm

end AgentState
