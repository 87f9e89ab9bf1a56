/-
# Runs of the state's operations

The operations that change an `AgentState`, the decision of the rate limiter among them, and
what holds after any sequence of them.

* `StateOperation.apply`  : one operation; one that raises leaves the state as it was;
* `Acts`, `Fits`          : an operation that changes the state, and one that the file can hold;
* `FitsAlong`             : every operation of a run that changes the state fits;
* `histories_run`         : in every run the histories stay sorted and at most 1000 long;
* `reload_of_run`         : in every run within the bounds the state can be saved and loaded;
* `not_reload_crowdedRun` : a run of 129 principals in one hour, whose state cannot.
-/
import SafeAgent.Sample
import SafeAgent.StateReload

open PyText

namespace AgentState

open Json PyItems Capabilities

/-! ## Operations -/

/-- The state after `CapabilityRateLimiter.allow`: one reservation, where the quota has room. -/
def reserveWithin (s : AgentState) (did : PyStr) (limit now : ℕ) : AgentState :=
  if Crypto.isDid did then
    match s.capabilityRequestCount did now windowSeconds with
    | .error _ => s
    | .ok count =>
        if limit ≤ count then s
        else ((s.reserveCapabilityRequest did now windowSeconds).toOption).getD s
  else s

/-- A reservation of the rate limiter is this function. -/
theorem reserveWithin_of_reserved {s s' : AgentState} {did : PyStr} {limit now count : ℕ}
    (hdid : Crypto.isDid did = true) (h : Agent.Reserved did limit s s' now count) :
    s.reserveWithin did limit now = s' := by
  have hbelow := h.below
  rw [reserveWithin, if_pos hdid, h.counted]
  dsimp only
  rw [if_neg (by omega), h.reserved]
  rfl

/-- What the rate limiter does to the state: nothing, or one reservation. -/
theorem reserveWithin_cases (s : AgentState) (did : PyStr) (limit now : ℕ) :
    s.reserveWithin did limit now = s ∨
      (Crypto.isDid did = true ∧
        ∃ count, Agent.Reserved did limit s (s.reserveWithin did limit now) now count) := by
  by_cases hdid : Crypto.isDid did = true
  case neg => exact Or.inl (by rw [reserveWithin, if_neg hdid])
  cases hcount : s.capabilityRequestCount did now windowSeconds with
  | error e => exact Or.inl (by rw [reserveWithin, if_pos hdid, hcount])
  | ok count =>
      by_cases hfull : limit ≤ count
      · exact Or.inl (by rw [reserveWithin, if_pos hdid, hcount]; exact if_pos hfull)
      cases hreserve : s.reserveCapabilityRequest did now windowSeconds with
      | error e =>
          refine Or.inl ?_
          rw [reserveWithin, if_pos hdid, hcount]
          simp only [if_neg hfull, hreserve]
          rfl
      | ok s' =>
          have hreserved : Agent.Reserved did limit s s' now count := ⟨hcount, by omega, hreserve⟩
          rw [reserveWithin_of_reserved hdid hreserved]
          exact Or.inr ⟨hdid, count, hreserved⟩

end AgentState

/-- An operation on the state.  The policy of `allow` is the one that was loaded for this
decision. -/
inductive StateOperation
  | advanceCursor (room : PyStr) (sequence : ℕ)
  | observeGeneration (room : PyStr) (generation : ℕ)
  | nextNonce (room : PyStr) (clockValue : ℤ)
  | observeNonce (room : PyStr) (nonce : ℕ)
  | allow (policy : CapabilityPolicy) (did : PyStr) (now : ℕ)

namespace StateOperation

open AgentState PyItems Capabilities

/-- The state after an operation; one that raises leaves it as it was. -/
def apply (s : AgentState) : StateOperation → AgentState
  | .advanceCursor room sequence => ((s.advanceCursor room sequence).toOption).getD s
  | .observeGeneration room generation =>
      (((s.observeGeneration room generation).toOption).map Prod.snd).getD s
  | .nextNonce room clockValue => (((s.nextNonce room clockValue).toOption).map Prod.snd).getD s
  | .observeNonce room nonce => s.observeNonce room nonce
  | .allow policy did now =>
      match policy.grantFor did with
      | none => s
      | some grant => s.reserveWithin did grant.limit now

/-- An operation that does not raise, and does not find the quota used up. -/
def Acts (s : AgentState) : StateOperation → Prop
  | .advanceCursor room sequence => s.cursorFor room ≤ sequence
  | .observeGeneration room generation =>
      ∀ previous, s.generationFor room = some previous → previous ≤ generation
  | .nextNonce room clockValue => 0 ≤ clockValue ∧ max clockValue.toNat (s.nonceFor room + 1) ≤ maxNonce
  | .observeNonce _ _ => True
  | .allow policy did now =>
      Crypto.isDid did = true ∧ ∃ grant count, policy.grantFor did = some grant ∧
        s.capabilityRequestCount did now windowSeconds = .ok count ∧ count < grant.limit

/-- What the operation assigns is what the file can hold: its room keeps its name, its number can be
written, and a reservation finds the principal, or fewer than `maxPrincipals` principals, in the
window. -/
def Fits (s : AgentState) : StateOperation → Prop
  | .advanceCursor room sequence => RoomFits room ∧ NumberFits sequence
  | .observeGeneration room generation => RoomFits room ∧ NumberFits generation
  | .nextNonce room _ => RoomFits room
  | .observeNonce room nonce => RoomFits room ∧ NumberFits nonce
  | .allow _ did now =>
      NumberFits now ∧
        (did ∈ keys (s.pruneCapabilityRequests now windowSeconds).capabilityRequests.items ∨
          (s.pruneCapabilityRequests now windowSeconds).principalCount < maxPrincipals)

/-- Every operation of a run that changes the state fits, in the state that it meets. -/
def FitsAlong : AgentState → List StateOperation → Prop
  | _, [] => True
  | s, op :: rest => (op.Acts s → op.Fits s) ∧ FitsAlong (op.apply s) rest

/-- An operation that does not act changes nothing. -/
theorem apply_of_not_acts {s : AgentState} {op : StateOperation} (h : ¬op.Acts s) : op.apply s = s := by
  cases op with
  | advanceCursor room sequence =>
      rw [Acts, not_le] at h
      rw [apply, AgentState.advanceCursor, if_pos h]
      rfl
  | observeGeneration room generation =>
      simp only [Acts, not_forall, not_le] at h
      obtain ⟨previous, hprevious, hlt⟩ := h
      rw [apply, AgentState.observeGeneration, hprevious]
      dsimp only
      rw [if_pos hlt]
      rfl
  | nextNonce room clockValue =>
      rw [Acts, not_and, not_le] at h
      rw [apply, AgentState.nextNonce]
      by_cases hneg : clockValue < 0
      · rw [if_pos hneg]
        rfl
      · rw [if_neg hneg]
        dsimp only
        rw [if_pos (h (not_lt.mp hneg))]
        rfl
  | observeNonce room nonce => exact absurd trivial h
  | allow policy did now =>
      rw [apply]
      cases hgrant : policy.grantFor did with
      | none => rfl
      | some grant =>
          rcases reserveWithin_cases s did grant.limit now with hsame | ⟨hdid, count, hreserved⟩
          · exact hsame
          · exact absurd ⟨hdid, grant, count, hgrant, hreserved.counted, hreserved.below⟩ h

/-- What an operation does: nothing, or its assignment, or one reservation. -/
theorem apply_cases (s : AgentState) (op : StateOperation) :
    op.apply s = s ∨
    (∃ room n, op = .advanceCursor room n ∧
      op.apply s = { s with cursors := s.cursors.set room n }) ∨
    (∃ room n, op = .observeGeneration room n ∧
      op.apply s = { s with generations := s.generations.set room n }) ∨
    (∃ room clock n, op = .nextNonce room clock ∧ n ≤ maxNonce ∧
      op.apply s = { s with nonces := s.nonces.set room n }) ∨
    (∃ room n, op = .observeNonce room n ∧
      op.apply s = { s with nonces := s.nonces.set room (max (s.nonceFor room) n) }) ∨
    (∃ policy did now limit count, op = .allow policy did now ∧ Crypto.isDid did = true ∧
      limit ≤ maxRequestsPerHour ∧ Agent.Reserved did limit s (op.apply s) now count) := by
  cases op with
  | advanceCursor room n =>
      cases h : s.advanceCursor room n with
      | error e => exact Or.inl (by rw [apply, h]; rfl)
      | ok s' =>
          refine Or.inr (Or.inl ⟨room, n, rfl, ?_⟩)
          rw [apply, h]
          exact (advanceCursor_ok h).2
  | observeGeneration room n =>
      cases h : s.observeGeneration room n with
      | error e => exact Or.inl (by rw [apply, h]; rfl)
      | ok p =>
          refine Or.inr (Or.inr (Or.inl ⟨room, n, rfl, ?_⟩))
          rw [apply, h]
          exact observeGeneration_ok h
  | nextNonce room clock =>
      cases h : s.nextNonce room clock with
      | error e => exact Or.inl (by rw [apply, h]; rfl)
      | ok p =>
          obtain ⟨-, hle, hs'⟩ := nextNonce_ok h
          refine Or.inr (Or.inr (Or.inr (Or.inl ⟨room, clock, p.1, rfl, hle, ?_⟩)))
          rw [apply, h]
          exact hs'
  | observeNonce room n => exact Or.inr (Or.inr (Or.inr (Or.inr (Or.inl ⟨room, n, rfl, rfl⟩))))
  | allow policy did now =>
      cases hgrant : policy.grantFor did with
      | none => exact Or.inl (by rw [apply, hgrant])
      | some grant =>
          have happly : apply s (.allow policy did now) = s.reserveWithin did grant.limit now := by
            rw [apply, hgrant]
          rw [happly]
          -- the limiter refused, or it reserved
          rcases reserveWithin_cases s did grant.limit now with hsame | ⟨hdid, count, hreserved⟩
          · exact Or.inl hsame
          · exact Or.inr (Or.inr (Or.inr (Or.inr (Or.inr
              ⟨policy, did, now, grant.limit, count, rfl, hdid, grant.limit_le, hreserved⟩))))

end StateOperation

namespace AgentState

open Json PyItems Capabilities

/-! ## Histories -/

/-- **Every operation keeps the histories.** -/
theorem HistoriesOk.apply {s : AgentState} (h : s.HistoriesOk) (op : StateOperation) :
    (op.apply s).HistoriesOk := by
  rcases op.apply_cases s with hs' | ⟨room, n, -, hs'⟩ | ⟨room, n, -, hs'⟩ | ⟨room, clock, n, -, -, hs'⟩ |
      ⟨room, n, -, hs'⟩ | ⟨policy, did, now, limit, count, -, hdid, hlimit, hreserved⟩
  · rwa [hs']
  · rw [hs']
    exact h
  · rw [hs']
    exact h
  · rw [hs']
    exact h
  · rw [hs']
    exact h
  · exact h.reserve hdid hlimit hreserved

/-- Every run keeps the histories, by induction on its operations. -/
theorem HistoriesOk.run {s : AgentState} (h : s.HistoriesOk) (ops : List StateOperation) :
    (ops.foldl StateOperation.apply s).HistoriesOk := by
  induction ops generalizing s with
  | nil => exact h
  | cons op rest ih => exact ih (h.apply op)

/-! ## Bounds -/

theorem numberFits_maxNonce : NumberFits maxNonce := by
  rw [NumberFits]
  decide +kernel

theorem numberFits_max {n m : ℕ} (hn : NumberFits n) (hm : NumberFits m) : NumberFits (max n m) := by
  rcases max_cases n m with ⟨hmax, -⟩ | ⟨hmax, -⟩
  · rwa [hmax]
  · rwa [hmax]

/-- A number that fits can be assigned. -/
theorem numbersFit_set {d : PyDict ℕ} (h : ∀ room n, d.get? room = some n → NumberFits n)
    (room : PyStr) {n : ℕ} (hn : NumberFits n) :
    ∀ other m, (d.set room n).get? other = some m → NumberFits m := by
  intro other m hm
  rw [PyDict.get?_set] at hm
  split_ifs at hm
  · cases hm
    exact hn
  · exact h other m hm

theorem numberFits_nonceFor {s : AgentState} (h : s.NumbersFit) (room : PyStr) :
    NumberFits (s.nonceFor room) := by
  rw [nonceFor]
  cases hget : s.nonces.get? room with
  | none => exact numberFits_of_le (Nat.zero_le _) numberFits_maxNonce
  | some n => exact h.nonces room n hget

theorem length_filterItems_le {β γ : Type} (f : β → Option γ) (items : PyItems β) :
    (filterItems f items).length ≤ items.length := by
  have hsub := (keys_filterItems_sublist f items).length_le
  simpa [keys] using hsub

/-- What is in the window fits where the whole history does. -/
theorem numberFits_prune {s : AgentState} (h : s.NumbersFit) (now window : ℕ) (did : PyStr)
    (timestamps : List ℕ)
    (hget : (s.pruneCapabilityRequests now window).capabilityRequests.get? did = some timestamps) :
    ∀ t ∈ timestamps, NumberFits t := by
  rw [pruneCapabilityRequests, PyDict.get?_filterMap] at hget
  obtain ⟨old, hold, hkept⟩ := Option.bind_eq_some_iff.mp hget
  dsimp only at hkept
  split_ifs at hkept
  cases hkept
  exact fun t ht => h.histories did old hold t (List.mem_of_mem_filter ht)

theorem numberFits_effectiveNow {existing : List ℕ} (h : ∀ t ∈ existing, NumberFits t) {now : ℕ}
    (hnow : NumberFits now) : NumberFits (effectiveNow existing now) := by
  rw [effectiveNow]
  refine numberFits_max hnow ?_
  cases hlast : existing.getLast? with
  | none =>
      rw [List.getLast?_eq_none_iff.mp hlast]
      exact hnow
  | some last =>
      rw [List.getLastD_eq_getLast?, hlast]
      exact h last (List.mem_of_getLast? hlast)

/-- A reservation keeps the bounds, where the principal is in the window already, or there is
room for one more. -/
theorem Storable.reserve {s s' : AgentState} {did : PyStr} {limit now count : ℕ} (h : s.Storable)
    (hfits : (StateOperation.allow ⟨.empty⟩ did now).Fits s)
    (hr : Agent.Reserved did limit s s' now count) : s'.Storable := by
  obtain ⟨hnow, hroom⟩ := hfits
  have hreserved := hr.reserved
  unfold reserveCapabilityRequest at hreserved
  split_ifs at hreserved
  cases hreserved
  have hexisting : ∀ t ∈ (s.pruneCapabilityRequests now windowSeconds).historyOf did, NumberFits t := by
    rw [historyOf]
    cases hget : (s.pruneCapabilityRequests now windowSeconds).capabilityRequests.get? did with
    | none => simp
    | some timestamps => exact numberFits_prune h.numbers now windowSeconds did timestamps hget
  refine ⟨h.cursors, h.nonces, h.generations, ⟨h.numbers.cursors, h.numbers.nonces,
    h.numbers.generations, ?_⟩, ?_⟩
  · intro other timestamps hget t ht
    rw [PyDict.get?_set] at hget
    split_ifs at hget
    · cases hget
      rw [List.mem_append, List.mem_singleton] at ht
      rcases ht with hold | rfl
      · exact hexisting t (List.mem_of_mem_filter hold)
      · exact numberFits_effectiveNow hexisting hnow
    · exact numberFits_prune h.numbers now windowSeconds other timestamps hget t ht
  · have hpruned : (s.pruneCapabilityRequests now windowSeconds).principalCount ≤ maxPrincipals :=
      le_trans (length_filterItems_le _ _) h.principals
    rcases hroom with hmem | hless
    · rw [principalCount, PyDict.length_set_of_mem hmem]
      exact hpruned
    · refine le_trans (PyDict.length_set_le _ _ _) ?_
      exact hless

/-- **Every operation within the bounds keeps them.** -/
theorem Storable.apply {s : AgentState} (h : s.Storable) {op : StateOperation}
    (hfits : op.Acts s → op.Fits s) : (op.apply s).Storable := by
  by_cases hacts : op.Acts s
  case neg => rwa [op.apply_of_not_acts hacts]
  have hfits := hfits hacts
  rcases op.apply_cases s with hs' | ⟨room, n, rfl, hs'⟩ | ⟨room, n, rfl, hs'⟩ |
      ⟨room, clock, n, rfl, hle, hs'⟩ | ⟨room, n, rfl, hs'⟩ |
      ⟨policy, did, now, limit, count, rfl, -, -, hreserved⟩
  · rwa [hs']
  · rw [hs']
    exact ⟨h.cursors.set hfits.1 n, h.nonces, h.generations,
      ⟨numbersFit_set h.numbers.cursors room hfits.2, h.numbers.nonces, h.numbers.generations,
        h.numbers.histories⟩, h.principals⟩
  · rw [hs']
    exact ⟨h.cursors, h.nonces, h.generations.set hfits.1 n,
      ⟨h.numbers.cursors, h.numbers.nonces, numbersFit_set h.numbers.generations room hfits.2,
        h.numbers.histories⟩, h.principals⟩
  · have hn : NumberFits n := numberFits_of_le hle numberFits_maxNonce
    rw [hs']
    exact ⟨h.cursors, h.nonces.set hfits n, h.generations,
      ⟨h.numbers.cursors, numbersFit_set h.numbers.nonces room hn, h.numbers.generations,
        h.numbers.histories⟩, h.principals⟩
  · have hn := numberFits_max (numberFits_nonceFor h.numbers room) hfits.2
    rw [hs']
    exact ⟨h.cursors, h.nonces.set hfits.1 _, h.generations,
      ⟨h.numbers.cursors, numbersFit_set h.numbers.nonces room hn, h.numbers.generations,
        h.numbers.histories⟩, h.principals⟩
  · exact h.reserve hfits hreserved

theorem Storable.run {s : AgentState} (h : s.Storable) {ops : List StateOperation}
    (hfits : StateOperation.FitsAlong s ops) : (ops.foldl StateOperation.apply s).Storable := by
  induction ops generalizing s with
  | nil => exact h
  | cons op rest ih => exact ih (h.apply hfits.1) hfits.2

/-! ## Where a run starts -/

/-- A new state, or one that was loaded from the text of a file.  UTF-8 decodes to a text without
surrogates. -/
def Started [Platform] (s : AgentState) : Prop :=
  s = {} ∨ ∃ text, Scalars text ∧ readStateText text = .ok s

/-- A run starts with what the file can hold. -/
theorem Started.storable [Platform] {s : AgentState} (h : s.Started) : s.Storable ∧ s.HistoriesOk := by
  rcases h with rfl | ⟨text, htext, hload⟩
  · exact ⟨storable_empty, nofun⟩
  · exact storable_of_readStateText htext hload

/-! ## Reloading after a run -/

/-- In every run the histories stay sorted and at most 1000 long. -/
theorem histories_run [Platform] {s : AgentState} (h : s.Started) (ops : List StateOperation) (did : PyStr) :
    ((ops.foldl StateOperation.apply s).historyOf did).Pairwise (· ≤ ·) ∧
      ((ops.foldl StateOperation.apply s).historyOf did).length ≤ 1000 := by
  have hok := h.storable.2.run ops
  rw [historyOf]
  cases hget : (ops.foldl StateOperation.apply s).capabilityRequests.get? did with
  | none => simp
  | some timestamps => exact ⟨(hok did timestamps hget).2.2, (hok did timestamps hget).2.1⟩

/-- **The agent can reload the state it saved.**  In every run whose operations keep within
the bounds, the state that is saved loads again and is the same; the histories are sorted and
at most 1000 long, and there are no more principals than the loader accepts. -/
theorem reload_of_run [Platform] {s : AgentState} {ops : List StateOperation} (hstart : s.Started)
    (hfits : StateOperation.FitsAlong s ops) :
    (∃ s', (ops.foldl StateOperation.apply s).reload = .ok s' ∧
      Agrees (ops.foldl StateOperation.apply s) s') ∧
    (∀ did, ((ops.foldl StateOperation.apply s).historyOf did).Pairwise (· ≤ ·) ∧
      ((ops.foldl StateOperation.apply s).historyOf did).length ≤ 1000) ∧
    (ops.foldl StateOperation.apply s).principalCount ≤ maxPrincipals := by
  obtain ⟨hstorable, hhistories⟩ := hstart.storable
  have hrun := hstorable.run hfits
  exact ⟨(reload_iff (hhistories.run ops)).mpr hrun, histories_run hstart ops, hrun.principals⟩

/-! ## A policy that is replaced between decisions -/

/-- The character of a base-58 digit. -/
def base58Char (d : ℕ) : ℕ := Crypto.base58btcAlphabet.getD d 49

/-- The `i`-th of many principals. -/
def crowdDid (i : ℕ) : PyStr :=
  py "did:key:z6Mk" ++ base58Char (i / 58) :: base58Char (i % 58) :: List.replicate 42 49

/-- A policy that lists one principal, which may ask for help. -/
def soloPolicy (did : PyStr) : CapabilityPolicy where
  principals := PyDict.empty.set did
    { enabled := true, commands := [.help], repositories := [], limit := 1
      limit_pos := le_rfl, limit_le := by decide }

/-- One request of a principal, under the policy that lists it. -/
def soloRequest (i : ℕ) : StateOperation := .allow (soloPolicy (crowdDid i)) (crowdDid i) 1772368205

/-- One request of each of `n` principals, at one time. -/
def crowdedRun (n : ℕ) : List StateOperation := (List.range n).map soloRequest

theorem isBase58_base58Char (d : ℕ) : Crypto.isBase58 (base58Char d) = true := by
  rw [Crypto.isBase58, List.contains_iff_mem, base58Char]
  by_cases hd : d < Crypto.base58btcAlphabet.length
  · rw [List.getD, List.getElem?_eq_getElem hd]
    exact List.getElem_mem hd
  · rw [List.getD, List.getElem?_eq_none (by omega)]
    decide

theorem isDid_crowdDid (i : ℕ) : Crypto.isDid (crowdDid i) = true := by
  have hchars : (base58Char (i / 58) :: base58Char (i % 58) :: List.replicate 42 49).all
      Crypto.isBase58 = true := by
    simp only [List.all_cons, isBase58_base58Char, Bool.true_and]
    decide
  have hdrop : (crowdDid i).drop 12 =
      base58Char (i / 58) :: base58Char (i % 58) :: List.replicate 42 49 := rfl
  simp only [Crypto.isDid, hdrop, hchars, Bool.and_true]
  rfl

theorem base58Char_injOn : ∀ d < 58, ∀ d' < 58, base58Char d = base58Char d' → d = d' := by
  decide +kernel

/-- Different principals have different DIDs. -/
theorem crowdDid_injOn {i j : ℕ} (hi : i < 58 * 58) (hj : j < 58 * 58)
    (h : crowdDid i = crowdDid j) : i = j := by
  have hdigits := List.append_cancel_left h
  simp only [List.cons.injEq] at hdigits
  have hhigh := base58Char_injOn _ (by omega) _ (by omega) hdigits.1
  have hlow := base58Char_injOn _ (by omega) _ (by omega) hdigits.2.1
  omega

/-- Every history consists of one request, at the time of the run. -/
def AllAtOnce (s : AgentState) : Prop :=
  ∀ did timestamps, s.capabilityRequests.get? did = some timestamps → timestamps = [1772368205]

/-- Nothing is pruned at the time of the run. -/
theorem AllAtOnce.prune {s : AgentState} (h : s.AllAtOnce) :
    s.pruneCapabilityRequests 1772368205 windowSeconds = s := by
  have hitems : ∀ items : PyItems (List ℕ), (∀ kv ∈ items, kv.2 = [1772368205]) →
      filterItems (fun timestamps =>
        let current := inWindow 1772368205 windowSeconds timestamps
        if current = [] then none else some current) items = items := by
    intro items hall
    induction items with
    | nil => rfl
    | cons kv rest ih =>
        obtain ⟨did, timestamps⟩ := kv
        rw [List.forall_mem_cons] at hall
        obtain rfl : timestamps = [1772368205] := hall.1
        have hkept : inWindow 1772368205 windowSeconds [1772368205] = [1772368205] := by decide
        simp [filterItems, hkept, ih hall.2]
  obtain ⟨cursors, nonces, generations, ⟨items, nodup⟩⟩ := s
  simp only [pruneCapabilityRequests, PyDict.filterMap, mk.injEq, PyDict.mk.injEq, true_and]
  refine hitems items fun kv hkv => ?_
  exact h kv.1 kv.2 ((lookup_eq_some_iff nodup).mpr hkv)

/-- A request of a new principal. -/
theorem apply_soloRequest {s : AgentState} (h : s.AllAtOnce) {i : ℕ}
    (hnew : crowdDid i ∉ keys s.capabilityRequests.items) :
    (soloRequest i).apply s =
      { s with capabilityRequests := s.capabilityRequests.set (crowdDid i) [1772368205] } := by
  have hnone : s.capabilityRequests.get? (crowdDid i) = none := lookup_eq_none_iff.mpr hnew
  have hhistory : s.historyOf (crowdDid i) = [] := by rw [historyOf, hnone]; rfl
  have hcount : s.capabilityRequestCount (crowdDid i) 1772368205 windowSeconds = .ok 0 := by
    simp [capabilityRequestCount, hhistory, inWindow, windowSeconds]
  have hreserve : s.reserveCapabilityRequest (crowdDid i) 1772368205 windowSeconds =
      .ok { s with capabilityRequests := s.capabilityRequests.set (crowdDid i) [1772368205] } := by
    rw [reserveCapabilityRequest, if_neg (by simp [crowdDid, py]), if_neg (by decide), h.prune]
    simp [hhistory, inWindow, effectiveNow]
  have hgrant : (soloPolicy (crowdDid i)).grantFor (crowdDid i) =
      some { enabled := true, commands := [.help], repositories := [], limit := 1
             limit_pos := le_rfl, limit_le := by decide } := PyDict.get?_set_self _ _ _
  simp only [soloRequest, StateOperation.apply, hgrant, reserveWithin, isDid_crowdDid, if_true, hcount,
    hreserve]
  rfl

/-- After requests of `n` principals there are `n` histories, by induction on `n`. -/
theorem crowdedRun_keys {n : ℕ} (hn : n ≤ 58 * 58) :
    AllAtOnce ((crowdedRun n).foldl StateOperation.apply {}) ∧
      keys ((crowdedRun n).foldl StateOperation.apply {}).capabilityRequests.items =
        (List.range n).map crowdDid := by
  induction n with
  | zero => exact ⟨nofun, rfl⟩
  | succ n ih =>
      obtain ⟨hall, hkeys⟩ := ih (by omega)
      have hnew : crowdDid n ∉
          keys ((crowdedRun n).foldl StateOperation.apply {}).capabilityRequests.items := by
        rw [hkeys]
        intro hmem
        obtain ⟨j, hj, heq⟩ := List.mem_map.mp hmem
        rw [List.mem_range] at hj
        have := crowdDid_injOn (by omega) (by omega) heq
        omega
      have hrun : crowdedRun (n + 1) = crowdedRun n ++ [soloRequest n] := by
        rw [crowdedRun, List.range_succ, List.map_append]
        rfl
      rw [hrun, List.foldl_append, List.foldl_cons, List.foldl_nil, apply_soloRequest hall hnew]
      refine ⟨?_, ?_⟩
      · intro did timestamps hget
        rw [PyDict.get?_set] at hget
        split_ifs at hget
        · cases hget
          rfl
        · exact hall did timestamps hget
      · show keys (setItem _ _ _) = _
        rw [setItem_of_notMem hnew, keys, List.map_append, ← keys, hkeys, List.range_succ,
          List.map_append]
        rfl

open scoped Sample in
/-- The theorem at a run of one operation of each kind. -/
theorem reload_of_run_sample :
    ∃ s', ([StateOperation.advanceCursor (py "general") 5, .observeGeneration (py "general") 1,
        .nextNonce (py "general") 1772368205000000000, .observeNonce (py "other") 7,
        soloRequest 0].foldl StateOperation.apply {}).reload = .ok s' ∧
      Agrees ([StateOperation.advanceCursor (py "general") 5, .observeGeneration (py "general") 1,
        .nextNonce (py "general") 1772368205000000000, .observeNonce (py "other") 7,
        soloRequest 0].foldl StateOperation.apply {}) s' := by
  have hfits : ∀ n, n ≤ 1772368205 → NumberFits n := fun n hn =>
    numberFits_of_le (le_trans hn (by decide)) numberFits_maxNonce
  refine (reload_of_run (Or.inl rfl) ?_).1
  have hroom : RoomFits (py "general") := by decide
  exact ⟨fun _ => ⟨hroom, hfits _ (by decide)⟩, fun _ => ⟨hroom, hfits _ (by decide)⟩, fun _ => hroom,
    fun _ => ⟨by decide, hfits _ (by decide)⟩, fun _ => ⟨hfits _ le_rfl, Or.inr (by decide)⟩, trivial⟩

open scoped Sample in
/-- **A policy file that is replaced between decisions** lets 129 principals into the history
within one hour, and the state that was saved then is refused. -/
theorem not_reload_crowdedRun :
    (∀ op ∈ crowdedRun 129, ∃ policy did now, op = .allow policy did now ∧
      policy.principals.items.length ≤ maxPrincipals) ∧
    ¬∃ s', ((crowdedRun 129).foldl StateOperation.apply {}).reload = .ok s' ∧
      Agrees ((crowdedRun 129).foldl StateOperation.apply {}) s' := by
  refine ⟨?_, ?_⟩
  · intro op hop
    obtain ⟨i, -, rfl⟩ := List.mem_map.mp hop
    exact ⟨_, _, _, rfl, show 1 ≤ 128 by norm_num⟩
  · have hstart : Started {} := Or.inl rfl
    rw [reload_iff (hstart.storable.2.run _)]
    intro hstorable
    have hcount := congrArg List.length (crowdedRun_keys (n := 129) (by norm_num)).2
    rw [keys, List.length_map, List.length_map, List.length_range] at hcount
    have hle := hstorable.principals
    rw [principalCount, hcount] at hle
    exact absurd hle (by decide)

end AgentState
