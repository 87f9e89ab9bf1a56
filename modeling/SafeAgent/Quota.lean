/-
# The rolling quota under any clock

* `AtTime`, `Allows`    : one call of `allow` by a live process while the clock shows a time;
* `Fails`               : a call that raises, and whether the state file holds what it leaves;
* `Grant`, `made`       : the reservations of a run, one for each call that made one;
* `LimiterRun`          : calls of any principals, with restarts from the state file in between;
* `Remembers`           : what a call needs of the state, that other principals' calls can undo;
* `quota_of_run`        : a run whose reserving calls all find that keeps the quota;
* `pruned_of_forgotten` : where it is missing first, another principal's clock was ahead.
-/
import SafeAgent.DryRuns
import SafeAgent.StateRuns

open PyText Proc

/-! ## One call -/

namespace Limiter

open AgentState

variable [Platform]

/-- One operation while the clock shows a time. -/
abbrev AtTime (now : ℕ) : World → (o : Op) → Except PyErr o.Val → World → Prop :=
  AtReading (.ok (some now))

/-- A call of `allow` by a live process while the clock shows a time: its answer, and the state
that it leaves. -/
def Allows (did : PyStr) (limit now : ℕ) (s : AgentState) (allowed : Bool) (s' : AgentState) :
    Prop :=
  ∃ w w', EffTree.Returns (AtTime now) (Capabilities.allow true did limit s) w (.ok allowed, s') w'

/-- A call that raises, the memory that it leaves, and whether the state file holds it. -/
def Fails (did : PyStr) (limit now : ℕ) (s s' : AgentState) (saved : Bool) : Prop :=
  ∃ e w w', EffTree.Returns (AtTime now) (Capabilities.allow true did limit s) w (.error e, s') w' ∧
    w'.stateDoc = bif saved then some (.ok s'.toPayload) else w.stateDoc

/-- A call that is denied changes nothing; a call that is allowed makes one reservation, at the
time that the clock shows; a call that raises does one of the two. -/
theorem wp_allow_atTime {did : PyStr} {limit now : ℕ} {s : AgentState} {w : World} :
    Wp (AtTime now) Anywhere (Capabilities.allow true did limit)
      (fun allowed s' _ => (allowed = false → s' = s) ∧
        (allowed = true → ∃ count, Agent.Reserved did limit s s' now count))
      (fun _ s' _ => s' = s ∨ ∃ count, Agent.Reserved did limit s s' now count) s w := by
  refine Agent.wp_allow (clocked_atReading _) trivial (fun _ _ => trivial) ⟨fun _ => rfl, nofun⟩
    nofun ?_ (fun _ _ => Or.inl rfl) ?_
  · intro _ now' count s' hshown hreserved _
    obtain rfl : now = now' := Option.some.inj (Except.ok.inj hshown)
    exact ⟨nofun, fun _ => ⟨count, hreserved⟩⟩
  · intro e now' count s' w' _ hshown hreserved _ _
    obtain rfl : now = now' := Option.some.inj (Except.ok.inj hshown)
    exact Or.inr ⟨count, hreserved⟩

theorem eq_of_denied {did : PyStr} {limit now : ℕ} {s s' : AgentState}
    (h : Allows did limit now s false s') : s' = s := by
  obtain ⟨w, w', hret⟩ := h
  exact (wp_allow_atTime.post hret).1 rfl

theorem reserved_of_allowed {did : PyStr} {limit now : ℕ} {s s' : AgentState}
    (h : Allows did limit now s true s') : ∃ count, Agent.Reserved did limit s s' now count := by
  obtain ⟨w, w', hret⟩ := h
  exact (wp_allow_atTime.post hret).2 rfl

theorem reserved_of_failed {did : PyStr} {limit now : ℕ} {s s' : AgentState} {saved : Bool}
    (h : Fails did limit now s s' saved) (hne : s' ≠ s) :
    ∃ count, Agent.Reserved did limit s s' now count := by
  obtain ⟨e, w, w', hret, -⟩ := h
  exact (wp_allow_atTime.post_error hret).resolve_left hne

/-! ## Runs -/

/-- A call that reserved: whose, with which limit, when by the clock, and its time stamp. -/
structure Grant where
  did : PyStr
  limit : ℕ
  now : ℕ
  stamp : ℕ

omit [Platform] in
/-- All the reservations ever made for a principal: those of the start, and one for each grant. -/
def made (start : AgentState) (grants : List Grant) (did : PyStr) : List ℕ :=
  start.historyOf did ++ (grants.filter fun g => g.did == did).map Grant.stamp

/-- The runs whose reserving calls all meet a condition on the state and the reservations before
them.  The last two places hold the reservations that the state file shows, and the state in it:
a restart begins there, and what a call that raised had reserved in memory only is gone. -/
inductive LimiterRun (P : List Grant → AgentState → PyStr → ℕ → Prop) (start : AgentState) :
    List Grant → AgentState → List Grant → AgentState → Prop
  | start : LimiterRun P start [] start [] start
  | denied {grants saved : List Grant} {s s' disk : AgentState} {did : PyStr} {limit now : ℕ} :
      LimiterRun P start grants s saved disk → Allows did limit now s false s' →
      LimiterRun P start grants s' saved disk
  | granted {grants saved : List Grant} {s s' disk : AgentState} {did : PyStr} {limit now : ℕ} :
      LimiterRun P start grants s saved disk → Allows did limit now s true s' →
      P grants s did now →
      LimiterRun P start (grants ++ [⟨did, limit, now, (s'.historyOf did).getLastD 0⟩]) s'
        (grants ++ [⟨did, limit, now, (s'.historyOf did).getLastD 0⟩]) s'
  /-- The call raised before it reserved. -/
  | raised {grants saved : List Grant} {s disk : AgentState} {did : PyStr} {limit now : ℕ} :
      LimiterRun P start grants s saved disk → Fails did limit now s s false →
      LimiterRun P start grants s saved disk
  /-- The call raised after it reserved, and the state file is as it was. -/
  | unsaved {grants saved : List Grant} {s s' disk : AgentState} {did : PyStr} {limit now : ℕ} :
      LimiterRun P start grants s saved disk → Fails did limit now s s' false → s' ≠ s →
      P grants s did now →
      LimiterRun P start (grants ++ [⟨did, limit, now, (s'.historyOf did).getLastD 0⟩]) s' saved disk
  /-- The call raised after the state file was replaced. -/
  | uncertain {grants saved : List Grant} {s s' disk : AgentState} {did : PyStr} {limit now : ℕ} :
      LimiterRun P start grants s saved disk → Fails did limit now s s' true → s' ≠ s →
      P grants s did now →
      LimiterRun P start (grants ++ [⟨did, limit, now, (s'.historyOf did).getLastD 0⟩]) s'
        (grants ++ [⟨did, limit, now, (s'.historyOf did).getLastD 0⟩]) s'
  | restart {grants saved : List Grant} {s s' disk : AgentState} :
      LimiterRun P start grants s saved disk → fromPayload disk.toPayload = .ok s' →
      LimiterRun P start saved s' saved disk

/-- The state remembers the reservations of a principal that a call has to count: those that it
has lost lie outside of the window that ends at the call's effective time. -/
def Remembers (start : AgentState) (grants : List Grant) (s : AgentState) (did : PyStr) (now : ℕ) :
    Prop :=
  ∀ lost, made start grants did = lost ++ s.historyOf did →
    ∀ t ∈ lost, t + Capabilities.windowSeconds ≤ effectiveNow (made start grants did) now

/-- The quota: the reservations of a principal are in order, and each grant was given while
fewer than its limit lay in the window that ended at the effective time of its call. -/
structure Quota (start : AgentState) (grants : List Grant) : Prop where
  ordered : ∀ did, (made start grants did).Pairwise (· ≤ ·)
  below : ∀ before g after, grants = before ++ g :: after →
    (inWindow (effectiveNow (made start before g.did) g.now) Capabilities.windowSeconds
      (made start before g.did)).length < g.limit

section Histories

omit [Platform]

variable {start s s' : AgentState} {grants : List Grant} {did : PyStr} {limit now window : ℕ}
  {stamps : List ℕ}

theorem made_append (start : AgentState) (grants : List Grant) (g : Grant) (did : PyStr) :
    made start (grants ++ [g]) did =
      if g.did = did then made start grants did ++ [g.stamp] else made start grants did := by
  unfold made
  rw [List.filter_append, List.map_append, ← List.append_assoc]
  split_ifs with hdid
  · simp [hdid]
  · simp [hdid]

/-- What is in the window of a sorted history is its end. -/
theorem inWindow_suffix (hsorted : stamps.Pairwise (· ≤ ·)) (now window : ℕ) :
    inWindow now window stamps <:+ stamps := by
  induction stamps with
  | nil => exact List.suffix_rfl
  | cons t rest ih =>
      rw [List.pairwise_cons] at hsorted
      by_cases ht : now < t + window
      · have hall : inWindow now window (t :: rest) = t :: rest := by
          refine List.filter_eq_self.mpr ?_
          intro u hu
          rcases List.mem_cons.mp hu with rfl | hu
          · exact decide_eq_true ht
          · have hle := hsorted.1 u hu
            exact decide_eq_true (by omega)
        rw [hall]
      · have hrest : inWindow now window (t :: rest) = inWindow now window rest :=
          List.filter_cons_of_neg (by simpa using ht)
        rw [hrest]
        exact (ih hsorted.2).trans (List.suffix_cons t rest)

theorem le_getLastD (hsorted : stamps.Pairwise (· ≤ ·)) (default : ℕ) :
    ∀ t ∈ stamps, t ≤ stamps.getLastD default := by
  induction stamps using List.reverseRecOn with
  | nil => exact fun _ h => absurd h List.not_mem_nil
  | append_singleton front last _ =>
      intro t ht
      rw [List.getLastD_eq_getLast?, List.getLast?_concat, Option.getD_some]
      rw [List.pairwise_append] at hsorted
      rcases List.mem_append.mp ht with hfront | hlast
      · exact hsorted.2.2 t hfront last (List.mem_singleton_self last)
      · rw [List.mem_singleton.mp hlast]

/-- A reservation is at the clock's time or at the latest that is left, whichever is later: every
time stamp that was in the state is at most that. -/
theorem le_stamp (hsorted : (s.historyOf did).Pairwise (· ≤ ·)) :
    ∀ t ∈ s.historyOf did,
      t ≤ effectiveNow (inWindow now window (s.historyOf did)) now := by
  intro t ht
  unfold effectiveNow
  by_cases hin : now < t + window
  · have hkept : t ∈ inWindow now window (s.historyOf did) :=
      List.mem_filter.mpr ⟨ht, decide_eq_true hin⟩
    have hle := le_getLastD (hsorted.sublist List.filter_sublist) now t hkept
    exact hle.trans (le_max_right _ _)
  · omega

/-- What the state holds of a principal is the end of all that was reserved, in order. -/
structure Tail (start : AgentState) (grants : List Grant) (s : AgentState) : Prop where
  ordered : ∀ did, (made start grants did).Pairwise (· ≤ ·)
  suffix : ∀ did, s.historyOf did <:+ made start grants did

theorem Tail.sorted (h : Tail start grants s) (did : PyStr) :
    (s.historyOf did).Pairwise (· ≤ ·) := (h.ordered did).sublist (h.suffix did).sublist

/-- A call that remembers what it needs reserves no earlier than any reservation before. -/
theorem Tail.le_stamp (h : Tail start grants s) (hremembers : Remembers start grants s did now) :
    ∀ t ∈ made start grants did,
      t ≤ effectiveNow (inWindow now Capabilities.windowSeconds (s.historyOf did)) now := by
  intro t ht
  obtain ⟨lost, hlost⟩ := h.suffix did
  have hlast := le_getLastD (h.ordered did) now t ht
  refine hlast.trans ?_
  cases hhistory : s.historyOf did with
  | nil =>
      -- everything is lost, the latest reservation too
      rw [hhistory, List.append_nil] at hlost
      have hmem : (made start grants did).getLastD now ∈ lost := by
        rw [hlost]
        rw [List.getLastD_eq_getLast?, List.getLast?_eq_some_getLast (List.ne_nil_of_mem ht)]
        exact List.getLast_mem _
      have hout := hremembers lost (by rw [hhistory, List.append_nil, hlost]) _ hmem
      unfold effectiveNow at hout ⊢
      have hwindow : 0 < Capabilities.windowSeconds := by decide
      show _ ≤ max now now
      omega
  | cons first rest =>
      have hlatest : (made start grants did).getLastD now ∈ s.historyOf did := by
        rw [← hlost, hhistory, List.getLastD_eq_getLast?,
          List.getLast?_append_of_ne_nil _ (List.cons_ne_nil _ _),
          List.getLast?_eq_some_getLast (List.cons_ne_nil _ _)]
        exact List.getLast_mem _
      rw [← hhistory]
      exact Limiter.le_stamp (h.sorted did) _ hlatest

/-- A grant keeps the order and the tail. -/
theorem Tail.grant {count : ℕ} (h : Tail start grants s)
    (hremembers : Remembers start grants s did now)
    (hreserved : Agent.Reserved did limit s s' now count) :
    Tail start (grants ++ [⟨did, limit, now, (s'.historyOf did).getLastD 0⟩]) s' := by
  have hhistory := historyOf_reserve hreserved.reserved
  have hstamp : (s'.historyOf did).getLastD 0 =
      effectiveNow (inWindow now Capabilities.windowSeconds (s.historyOf did)) now := by
    rw [hhistory, if_pos rfl, List.getLastD_eq_getLast?, List.getLast?_concat, Option.getD_some]
  have hpruned : ∀ other,
      inWindow now Capabilities.windowSeconds (s.historyOf other) <:+ made start grants other :=
    fun other => (inWindow_suffix (h.sorted other) _ _).trans (h.suffix other)
  rw [hstamp]
  constructor
  · intro other
    rw [made_append]
    split_ifs with hother
    · subst hother
      rw [List.pairwise_append]
      refine ⟨h.ordered did, List.pairwise_singleton _ _, ?_⟩
      intro t ht u hu
      rw [List.mem_singleton.mp hu]
      exact h.le_stamp hremembers t ht
    · exact h.ordered other
  · intro other
    rw [made_append, hhistory]
    by_cases hother : other = did
    · subst hother
      rw [if_pos rfl, if_pos rfl]
      have hsorted :
          (inWindow now Capabilities.windowSeconds (s.historyOf other)).Pairwise (· ≤ ·) :=
        (h.sorted other).sublist List.filter_sublist
      obtain ⟨before, hbefore⟩ := (inWindow_suffix hsorted _ _).trans (hpruned other)
      exact ⟨before, by rw [← List.append_assoc, hbefore]⟩
    · rw [if_neg hother, if_neg (Ne.symm hother)]
      exact hpruned other

/-- A call that remembers what it needs counts what there is to count. -/
theorem Tail.counted {count : ℕ} (h : Tail start grants s)
    (hremembers : Remembers start grants s did now)
    (hreserved : Agent.Reserved did limit s s' now count) :
    (inWindow (effectiveNow (made start grants did) now) Capabilities.windowSeconds
      (made start grants did)).length < limit := by
  have hbelow := hreserved.below
  obtain ⟨lost, hlost⟩ := h.suffix did
  have hnone : inWindow (effectiveNow (made start grants did) now) Capabilities.windowSeconds
      lost = [] := by
    refine List.filter_eq_nil_iff.mpr ?_
    intro t ht
    have hout := hremembers lost hlost.symm t ht
    simpa using hout
  have hsplit : inWindow (effectiveNow (made start grants did) now) Capabilities.windowSeconds
      (made start grants did) =
      inWindow (effectiveNow (made start grants did) now) Capabilities.windowSeconds
        (s.historyOf did) := by
    generalize effectiveNow (made start grants did) now = effective at hnone
    rw [← hlost, inWindow, List.filter_append, ← inWindow, ← inWindow, hnone, List.nil_append]
  rw [hsplit]
  cases hhistory : s.historyOf did with
  | nil => exact lt_of_le_of_lt (Nat.zero_le count) hbelow
  | cons first rest =>
      have hlast : effectiveNow (made start grants did) now =
          effectiveNow (s.historyOf did) now := by
        unfold effectiveNow
        rw [← hlost, hhistory, List.getLastD_eq_getLast?, List.getLastD_eq_getLast?,
          List.getLast?_append_of_ne_nil _ (List.cons_ne_nil _ _)]
      have hcounted := hreserved.counted
      unfold capabilityRequestCount at hcounted
      rw [if_neg (by decide)] at hcounted
      rw [← hhistory, hlast, Except.ok.inj hcounted]
      exact hbelow

/-- What a window leaves out of a history. -/
theorem le_of_lost {lost : List ℕ} (h : stamps = lost ++ inWindow now window stamps) :
    ∀ t ∈ lost, t + window ≤ now := by
  intro t ht
  by_contra hin
  have hcount := congrArg (List.filter fun t => decide (now < t + window)) h
  rw [List.filter_append, inWindow, List.filter_filter] at hcount
  simp only [Bool.and_self] at hcount
  have hnone := List.append_left_eq_self.mp hcount.symm
  have hmem : t ∈ lost.filter fun t => decide (now < t + window) :=
    List.mem_filter.mpr ⟨ht, decide_eq_true (by omega)⟩
  rw [hnone] at hmem
  exact absurd hmem List.not_mem_nil

/-- Each reservation that is gone from the state was pruned by a call that reserved: one of the same
principal, whose time stamp is out of its window, or one of another, by its clock. -/
def Pruned (start : AgentState) (grants : List Grant) (s : AgentState) : Prop :=
  ∀ did lost, made start grants did = lost ++ s.historyOf did → ∀ t ∈ lost, ∃ g ∈ grants,
    (g.did = did ∧ t + Capabilities.windowSeconds ≤ g.stamp) ∨
      (g.did ≠ did ∧ t + Capabilities.windowSeconds ≤ g.now)

theorem Pruned.grant {count : ℕ} (h : Pruned start grants s) (htail : Tail start grants s)
    (hreserved : Agent.Reserved did limit s s' now count) :
    Pruned start (grants ++ [⟨did, limit, now, (s'.historyOf did).getLastD 0⟩]) s' := by
  intro other lost' hlost' t ht
  have hhistory := historyOf_reserve hreserved.reserved other
  obtain ⟨lost, hlost⟩ := htail.suffix other
  -- what the call has pruned, by its effective time or by its clock
  have hsplit : ∀ later, made start grants other =
      lost' ++ inWindow later Capabilities.windowSeconds (s.historyOf other) →
      t ∈ lost ∨ t + Capabilities.windowSeconds ≤ later := by
    intro later hmade
    obtain ⟨pruned, hpruned⟩ := inWindow_suffix (htail.sorted other) later Capabilities.windowSeconds
    have hsame : lost ++ pruned ++ inWindow later Capabilities.windowSeconds (s.historyOf other) =
        lost' ++ inWindow later Capabilities.windowSeconds (s.historyOf other) := by
      rw [List.append_assoc, hpruned, hlost, hmade]
    rw [← List.append_cancel_right hsame] at ht
    rcases List.mem_append.mp ht with hold | hnew
    · exact Or.inl hold
    · exact Or.inr (le_of_lost hpruned.symm t hnew)
  have hold : t ∈ lost → ∃ g ∈ grants ++ [⟨did, limit, now, (s'.historyOf did).getLastD 0⟩],
      (g.did = other ∧ t + Capabilities.windowSeconds ≤ g.stamp) ∨
        (g.did ≠ other ∧ t + Capabilities.windowSeconds ≤ g.now) := by
    intro hmem
    obtain ⟨g, hg, hpruned⟩ := h other lost hlost.symm t hmem
    exact ⟨g, List.mem_append_left _ hg, hpruned⟩
  have hlast : ∀ g, g ∈ grants ++ [g] := fun g => List.mem_append_right _ (List.mem_singleton_self g)
  rw [made_append] at hlost'
  by_cases hother : other = did
  · subst hother
    rw [if_pos rfl] at hlost' hhistory
    have hlater : now ≤ effectiveNow (inWindow now Capabilities.windowSeconds (s.historyOf other)) now :=
      le_max_left _ _
    rw [inWindow_inWindow hlater] at hhistory
    rw [hhistory, ← List.append_assoc] at hlost'
    have hstamp : (s'.historyOf other).getLastD 0 =
        effectiveNow (inWindow now Capabilities.windowSeconds (s.historyOf other)) now := by
      rw [hhistory, List.getLastD_eq_getLast?, List.getLast?_concat, Option.getD_some]
    obtain ⟨hmade, -⟩ := List.append_inj' hlost' rfl
    rcases hsplit _ hmade with hmem | hout
    · exact hold hmem
    · refine ⟨_, hlast _, Or.inl ⟨rfl, ?_⟩⟩
      rw [hstamp]
      exact hout
  · rw [if_neg hother] at hhistory
    rw [if_neg (Ne.symm hother), hhistory] at hlost'
    rcases hsplit _ hlost' with hmem | hout
    · exact hold hmem
    · exact ⟨_, hlast _, Or.inr ⟨Ne.symm hother, hout⟩⟩

end Histories

omit [Platform] in
/-- What a run keeps: of each history the end, the quota, and what has pruned the rest. -/
structure Accounted (start : AgentState) (grants : List Grant) (s : AgentState) : Prop where
  tail : Tail start grants s
  quota : Quota start grants
  pruned : Pruned start grants s

omit [Platform] in
/-- One reservation. -/
theorem Accounted.reserve {start s s' : AgentState} {grants : List Grant} {did : PyStr}
    {limit now count : ℕ} (h : Accounted start grants s)
    (hremembers : Remembers start grants s did now)
    (hreserved : Agent.Reserved did limit s s' now count) :
    Accounted start (grants ++ [⟨did, limit, now, (s'.historyOf did).getLastD 0⟩]) s' := by
  have htail := h.tail.grant hremembers hreserved
  refine ⟨htail, ⟨htail.ordered, ?_⟩, h.pruned.grant h.tail hreserved⟩
  intro before g after heq
  rcases List.eq_nil_or_concat after with rfl | ⟨front, last, rfl⟩
  · obtain ⟨rfl, hg⟩ := List.append_inj' heq rfl
    cases hg
    exact h.tail.counted hremembers hreserved
  · rw [List.concat_eq_append, ← List.cons_append, ← List.append_assoc] at heq
    obtain ⟨hgrants, -⟩ := List.append_inj' heq rfl
    exact h.quota.below before g front hgrants

omit [Platform] in
/-- A restart reads the same histories back. -/
theorem Accounted.restart {start s s' : AgentState} {grants : List Grant}
    (h : Accounted start grants s) (hload : fromPayload s.toPayload = .ok s') :
    Accounted start grants s' := by
  have hhistory : ∀ did, s'.historyOf did = s.historyOf did := by
    intro did
    rw [historyOf, historyOf, (fromPayload_toPayload hload).capabilityRequests did]
  refine ⟨⟨h.tail.ordered, fun did => hhistory did ▸ h.tail.suffix did⟩, h.quota, ?_⟩
  intro did lost hlost
  rw [hhistory] at hlost
  exact h.pruned did lost hlost

/-- A run whose reserving calls all remember what they need, in memory and in the state file. -/
theorem LimiterRun.accounted {start s disk : AgentState} {grants saved : List Grant}
    (hsorted : ∀ did, (start.historyOf did).Pairwise (· ≤ ·))
    (hrun : LimiterRun (Remembers start) start grants s saved disk) :
    Accounted start grants s ∧ Accounted start saved disk := by
  have hmade : ∀ did, made start [] did = start.historyOf did := fun did => List.append_nil _
  induction hrun with
  | start =>
      have hordered : ∀ did, (made start [] did).Pairwise (· ≤ ·) :=
        fun did => hmade did ▸ hsorted did
      have hquota : Quota start [] := ⟨hordered, fun _ _ _ heq => absurd heq.symm (by simp)⟩
      have hpruned : Pruned start [] start := by
        intro did lost hlost t ht
        rw [hmade] at hlost
        rw [List.append_left_eq_self.mp hlost.symm] at ht
        exact absurd ht List.not_mem_nil
      have haccounted : Accounted start [] start :=
        ⟨⟨hordered, fun did => hmade did ▸ List.suffix_rfl⟩, hquota, hpruned⟩
      exact ⟨haccounted, haccounted⟩
  | denied _ hdenied ih =>
      rw [eq_of_denied hdenied]
      exact ih
  | granted _ hallowed hremembers ih =>
      obtain ⟨count, hreserved⟩ := reserved_of_allowed hallowed
      have haccounted := ih.1.reserve hremembers hreserved
      exact ⟨haccounted, haccounted⟩
  | raised _ _ ih => exact ih
  | unsaved _ hfailed hne hremembers ih =>
      obtain ⟨count, hreserved⟩ := reserved_of_failed hfailed hne
      exact ⟨ih.1.reserve hremembers hreserved, ih.2⟩
  | uncertain _ hfailed hne hremembers ih =>
      obtain ⟨count, hreserved⟩ := reserved_of_failed hfailed hne
      have haccounted := ih.1.reserve hremembers hreserved
      exact ⟨haccounted, haccounted⟩
  | restart _ hload ih => exact ⟨ih.2.restart hload, ih.2⟩

/-- **The rolling quota.**  In a run of calls of any principals, under any clock, with exceptions and
restarts in between, the reservations of each principal are in order, and each call that reserved
found fewer than its limit of all the reservations of its principal in the window, if each such
call found that the reservations which are gone from the state lie outside of it. -/
theorem quota_of_run {start s disk : AgentState} {grants saved : List Grant}
    (hsorted : ∀ did, (start.historyOf did).Pairwise (· ≤ ·))
    (hrun : LimiterRun (Remembers start) start grants s saved disk) : Quota start grants :=
  (hrun.accounted hsorted).1.quota

/-- Where the condition of `quota_of_run` fails first, a call of another principal has pruned a
reservation by a clock that was at least a window ahead of it, and the clock has gone back since. -/
theorem pruned_of_forgotten {start s disk : AgentState} {grants saved : List Grant} {did : PyStr}
    {now : ℕ} (hsorted : ∀ did, (start.historyOf did).Pairwise (· ≤ ·))
    (hrun : LimiterRun (Remembers start) start grants s saved disk)
    (hforgotten : ¬Remembers start grants s did now) :
    ∃ g ∈ grants, g.did ≠ did ∧ now < g.now ∧ ∃ t ∈ made start grants did,
      t + Capabilities.windowSeconds ≤ g.now ∧
        effectiveNow (made start grants did) now < t + Capabilities.windowSeconds := by
  have haccounted := (hrun.accounted hsorted).1
  obtain ⟨lost, hlost, t, ht, hin⟩ : ∃ lost, made start grants did = lost ++ s.historyOf did ∧
      ∃ t ∈ lost, effectiveNow (made start grants did) now < t + Capabilities.windowSeconds := by
    simpa [Remembers] using hforgotten
  have hnow : now ≤ effectiveNow (made start grants did) now := le_max_left _ _
  have hmem : t ∈ made start grants did := by
    rw [hlost]
    exact List.mem_append_left _ ht
  obtain ⟨g, hg, ⟨hown, hstamp⟩ | ⟨hother, hclock⟩⟩ := haccounted.pruned did lost hlost t ht
  · -- its own call left a time stamp that the effective time does not go behind
    exfalso
    have hmade : g.stamp ∈ made start grants did :=
      List.mem_append_right _ (List.mem_map.mpr ⟨g, List.mem_filter.mpr ⟨hg, by simp [hown]⟩, rfl⟩)
    have hlast := le_getLastD (haccounted.tail.ordered did) now _ hmade
    have heffective : (made start grants did).getLastD now ≤
        effectiveNow (made start grants did) now := le_max_right _ _
    omega
  · exact ⟨g, hg, hother, by omega, t, hmem, hclock, hin⟩

end Limiter

/-! ## Two principals and a clock that goes back -/

namespace Sample

open Limiter

/-- The answer of a call, and the state that it leaves. -/
def called (s : AgentState) (did : PyStr) (limit now : ℕ) : Option Bool × AgentState :=
  let final := (EffTree.run (answerAt now) (Capabilities.allow true did limit s) world).1
  (final.1.toOption, final.2)

theorem allows_called {s : AgentState} {did : PyStr} {limit now : ℕ} {allowed : Bool}
    (h : (called s did limit now).1 = some allowed) :
    Allows did limit now s allowed (called s did limit now).2 := by
  have hret := EffTree.returns_run (atReading_answerAt now) (Capabilities.allow true did limit s) world
  unfold called at h ⊢
  generalize EffTree.run (answerAt now) (Capabilities.allow true did limit s) world = final
    at h hret ⊢
  obtain ⟨⟨result, s'⟩, w'⟩ := final
  cases result with
  | error e => cases h
  | ok b =>
      cases h
      exact ⟨world, w', hret⟩

/-- The first principal's request, and another's ten thousand seconds later. -/
def firstCall : AgentState := (called {} did 1 10000).2
def secondCall : AgentState := (called firstCall otherDid 1 20000).2

/-- After a restart from the state file. -/
def restarted : AgentState := (AgentState.fromPayload secondCall.toPayload).toOption.getD {}

/-- The first principal again. -/
def thirdCall : AgentState := (called restarted did 1 20001).2

/-- The calls are granted. -/
theorem calls_granted : (called {} did 1 10000).1 = some true ∧
    (called firstCall otherDid 1 20000).1 = some true ∧
      (called secondCall did 1 9999).1 = some true ∧
        (called restarted did 1 20001).1 = some true := by
  decide +kernel

/-- The reservations of the first two calls. -/
def firstGrants : List Grant :=
  [⟨did, 1, 10000, (firstCall.historyOf did).getLastD 0⟩,
    ⟨otherDid, 1, 20000, (secondCall.historyOf otherDid).getLastD 0⟩]

theorem run_firstGrants {P : List Grant → AgentState → PyStr → ℕ → Prop}
    (hfirst : P [] {} did 10000)
    (hsecond : P [⟨did, 1, 10000, (firstCall.historyOf did).getLastD 0⟩] firstCall otherDid 20000) :
    LimiterRun P {} firstGrants secondCall firstGrants secondCall := by
  obtain ⟨h₁, h₂, -, -⟩ := calls_granted
  have hrun := LimiterRun.granted (P := P) LimiterRun.start (allows_called h₁) hfirst
  exact hrun.granted (allows_called h₂) hsecond

/-- What was made for the first principal is no longer in the state. -/
theorem made_firstGrants : made {} firstGrants did = [10000] ∧ restarted.historyOf did = [] := by
  decide +kernel

/-- The third call is granted, although the limit is one and the first reservation lies a second
after the clock. -/
theorem not_quota_rollback : ∃ grants s,
    LimiterRun (fun _ _ _ _ => True) {} grants s grants s ∧ ¬Quota {} grants := by
  have hfirst : LimiterRun (fun _ _ _ _ => True) {} firstGrants secondCall firstGrants secondCall :=
    run_firstGrants trivial trivial
  refine ⟨_, _, hfirst.granted (allows_called calls_granted.2.2.1) trivial, ?_⟩
  intro hquota
  have hbelow := hquota.below firstGrants _ [] rfl
  dsimp only at hbelow
  rw [made_firstGrants.1] at hbelow
  exact absurd hbelow (by decide)

theorem fromPayload_secondCall : AgentState.fromPayload secondCall.toPayload = .ok restarted := by
  obtain ⟨s, hs⟩ : ∃ s, AgentState.fromPayload secondCall.toPayload = .ok s :=
    PyResult.ok_of_isOk (by decide +kernel)
  unfold restarted
  rw [hs]
  rfl

/-- With a restart in between, and by a clock that has not gone back, the first principal is granted
another request: the reservation that was pruned is out of its window. -/
theorem quota_thirdCall : Quota {} (firstGrants ++
    [⟨did, 1, 20001, (thirdCall.historyOf did).getLastD 0⟩]) := by
  have hnothing : ∀ {lost history : List ℕ}, [] = lost ++ history → lost = [] :=
    fun h => (List.append_eq_nil_iff.mp h.symm).1
  have hfirst : Remembers {} [] {} did 10000 := by
    intro lost hlost t ht
    rw [hnothing hlost] at ht
    exact absurd ht List.not_mem_nil
  have hsecond : Remembers {} [⟨did, 1, 10000, (firstCall.historyOf did).getLastD 0⟩] firstCall
      otherDid 20000 := by
    intro lost hlost t ht
    have hmade : made {} [⟨did, 1, 10000, (firstCall.historyOf did).getLastD 0⟩] otherDid = [] := by
      decide +kernel
    rw [hmade] at hlost
    rw [hnothing hlost] at ht
    exact absurd ht List.not_mem_nil
  have hthird : Remembers {} firstGrants restarted did 20001 := by
    intro lost hlost t ht
    rw [made_firstGrants.1, made_firstGrants.2, List.append_nil] at hlost
    rw [← hlost, List.mem_singleton] at ht
    rw [ht, made_firstGrants.1]
    decide
  have hrun := (run_firstGrants hfirst hsecond).restart fromPayload_secondCall
  exact quota_of_run (fun _ => List.Pairwise.nil)
    (hrun.granted (allows_called calls_granted.2.2.2) hthird)

end Sample
