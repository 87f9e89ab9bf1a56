/-
# A snapshot is processed once

`process_snapshot` handles each new message once and in order, moves the cursor forward only,
and leaves the state file in step with memory.

* `World.Holds`              : the state file loads to the state in memory;
* `wp_processSnapshot_stale` : a snapshot with nothing new handles nothing and sends nothing;
* `wp_processSnapshot_old`   : one that ends before the cursor changes nothing at all;
* `processed_once`           : a live call, whether it returns or raises.
-/
import SafeAgent.SkippedMessages

open PyText

/-! ## The state file and memory -/

/-- A state that agrees with a well-formed one is well formed. -/
theorem AgentState.Agrees.wellFormed {s s' : AgentState} (h : s.Agrees s') (hs : s.WellFormed) :
    s'.WellFormed where
  cursors room n hn := hs.cursors room n ((h.cursors room).trans hn)
  nonces room n hn := hs.nonces room n ((h.nonces room).trans hn)
  generations room n hn := hs.generations room n ((h.generations room).trans hn)
  histories did timestamps ht := hs.histories did timestamps ((h.capabilityRequests did).trans ht)

namespace World

/-- What a process would load from the state file is the state. -/
def Holds (w : World) (s : AgentState) : Prop :=
  (w.stateDoc = none ∧ AgentState.Agrees {} s) ∨
    ∃ j s₀, w.stateDoc = some (.ok j) ∧ AgentState.fromPayload j = .ok s₀ ∧ AgentState.Agrees s₀ s

variable {w : World} {s : AgentState}

theorem Holds.wellFormed (h : w.Holds s) : s.WellFormed := by
  rcases h with ⟨-, hagrees⟩ | ⟨j, s₀, -, hload, hagrees⟩
  · exact hagrees.wellFormed AgentState.wellFormed_empty
  · exact hagrees.wellFormed (AgentState.wellFormed_of_fromPayload hload).1

/-- A well-formed state that was saved is loaded again, if the loader accepts the number of its
principals. -/
theorem holds_of_saved (hdoc : w.stateDoc = some (.ok s.toPayload)) (hs : s.WellFormed)
    (hcount : s.principalCount ≤ Capabilities.maxPrincipals) : w.Holds s := by
  obtain ⟨s₀, hload, hagrees⟩ := AgentState.fromPayload_of_wellFormed hs hcount
  exact Or.inr ⟨_, s₀, hdoc, hload, hagrees.symm⟩

end World

namespace SafeResponder

open Agent Proc

variable [Platform] {r : SafeResponder} {s : AgentState} {w : World} {snapshot : RoomSnapshot}
  {I : World → Prop}

/-! ## Snapshots with nothing new -/

/-- The loop passes over messages that are not past the cursor. -/
theorem processMessages_of_stale {messages : List RoomMessage} {cursor : ℕ} {any : Bool}
    (h : due cursor messages = []) :
    processMessages r messages cursor any = pure ([], cursor, any) := by
  induction messages with
  | nil => rfl
  | cons message rest ih =>
      by_cases hseen : message.seq ≤ cursor
      · rw [due_of_le hseen] at h
        rw [processMessages, if_pos hseen, ih h]
      · have hmem : message ∈ due cursor (message :: rest) :=
          mem_due.mpr ⟨List.mem_cons_self, Nat.lt_of_not_le hseen⟩
        rw [h] at hmem
        cases hmem

section Saving

-- an invariant that saving keeps
variable (hsaved : ∀ (w : World) (s : AgentState), I w → I (w.saved s))

include hsaved

/-- Moving the cursor over a tail that cannot be read handles nothing. -/
theorem wp_skipUnavailable_saves {cursor lastSeq : ℕ} (hI : I w) :
    Wp World.step I (skipUnavailable r cursor lastSeq false)
      (fun skipped _ _ => handledEvents skipped = []) (fun _ _ _ => True) s w := by
  unfold skipUnavailable
  by_cases hskip : ¬false = true ∧ cursor < lastSeq
  case neg =>
    rw [if_neg hskip]
    exact ⟨hI, rfl⟩
  rw [if_pos hskip, wp_bind]
  unfold advanceCursor
  rw [wp_bind, wp_get]
  refine ⟨hI, ?_⟩
  rw [wp_bind, wp_ofExcept]
  refine ⟨hI, ?_⟩
  cases s.advanceCursor r.room lastSeq with
  | error e => trivial
  | ok s₁ =>
      dsimp only
      rw [wp_set]
      refine ⟨hI, ?_⟩
      by_cases hsend : r.send = true
      · rw [if_pos hsend, wp_bind]
        exact wp_saveState hI (hsaved w s₁ hI) ⟨hsaved w s₁ hI, rfl⟩ (fun _ _ => trivial)
          fun _ _ => trivial
      · rw [if_neg hsend]
        exact ⟨hI, rfl⟩

/-- **A snapshot with nothing new.**  Nothing is handled and nothing is sent: an invariant that
saving the state keeps is kept. -/
theorem wp_processSnapshot_stale (hdue : due (s.cursorFor r.room) snapshot.messages = [])
    (hI : I w) :
    Wp World.step I (processSnapshot r snapshot) (fun events _ _ => handledEvents events = [])
      (fun _ _ _ => True) s w := by
  unfold processSnapshot
  split_ifs
  · exact ⟨hI, trivial⟩
  rw [wp_bind, wp_get]
  refine ⟨hI, ?_⟩
  unfold observeSnapshotGeneration
  rw [wp_bind, wp_bind, wp_get]
  refine ⟨hI, ?_⟩
  cases hgeneration : s.observeGeneration r.room snapshot.generation with
  | error e => exact ⟨hI, trivial⟩
  | ok p =>
      obtain ⟨grew, s₁⟩ := p
      obtain rfl : s₁ = observed s r.room snapshot.generation :=
        AgentState.observeGeneration_ok hgeneration
      dsimp only
      rw [wp_bind, wp_set]
      refine ⟨hI, hI, ?_⟩
      dsimp only
      rw [wp_bind, wp_get]
      refine ⟨hI, ?_⟩
      have hstale : due ((observed s r.room snapshot.generation).cursorFor r.room)
          snapshot.messages = [] := hdue
      rw [processMessages_of_stale hstale, wp_bind]
      refine ⟨hI, ?_⟩
      dsimp only
      rw [wp_bind]
      refine (wp_skipUnavailable_saves hsaved hI).mono ?_ fun _ _ _ _ _ => trivial
      intro skipped s₂ w₂ hI₂ hskipped
      -- the events of a generation, of a gap and of a skip are about no message
      have hnone : handledEvents ((((if grew = true then
          [Event.roomGenerationChanged r.room (s.generationFor r.room) snapshot.generation] else []) ++
          if 0 < snapshot.firstSeq ∧
              (observed s r.room snapshot.generation).cursorFor r.room + 1 < snapshot.firstSeq then
            [Event.retentionGap r.room ((observed s r.room snapshot.generation).cursorFor r.room)
              snapshot.firstSeq] else []) ++ []) ++ skipped) = [] := by
        unfold handledEvents at hskipped ⊢
        rw [List.filterMap_append, hskipped]
        split_ifs <;> rfl
      by_cases hsave : (r.send && ((s.generationFor r.room).isNone || grew) &&
          !(r.send && (false || !skipped.isEmpty))) = true
      · rw [if_pos hsave, wp_bind]
        exact wp_saveState hI₂ (hsaved w₂ s₂ hI₂) ⟨hsaved w₂ s₂ hI₂, hnone⟩ (fun _ _ => trivial)
          fun _ _ => trivial
      · rw [if_neg hsave]
        exact ⟨hI₂, hnone⟩

end Saving

omit [Platform] in
theorem due_of_lastSeq_le {cursor : ℕ} (h : snapshot.lastSeq ≤ cursor) :
    due cursor snapshot.messages = [] := by
  refine List.eq_nil_iff_forall_not_mem.mpr fun m hm => ?_
  obtain ⟨hmem, hlt⟩ := mem_due.mp hm
  have hle := (snapshot.inRange m hmem).2
  omega

/-- **A snapshot that ends before the cursor**, of the generation on record, changes neither memory
nor files, and only a snapshot of another room is refused. -/
theorem wp_processSnapshot_old (hgeneration : s.generationFor r.room = some snapshot.generation)
    (hend : snapshot.lastSeq ≤ s.cursorFor r.room) :
    Wp World.step (fun w' => w' = w) (processSnapshot r snapshot)
      (fun events s' _ => handledEvents events = [] ∧ s' = s)
      (fun _ s' _ => s' = s ∧ snapshot.room ≠ r.room) s w := by
  -- the generation is known already, and nothing of the page is new
  have hobserved : s.observeGeneration r.room snapshot.generation = .ok (false, s) := by
    have hsame := observed_of_generationFor hgeneration
    rw [observed] at hsame
    simp only [AgentState.observeGeneration, hgeneration, lt_self_iff_false, if_false, decide_false,
      hsame]
  unfold processSnapshot
  by_cases hroom : snapshot.room ≠ r.room
  · rw [if_pos hroom]
    exact ⟨rfl, rfl, hroom⟩
  rw [if_neg hroom, wp_bind, wp_get]
  refine ⟨rfl, ?_⟩
  unfold observeSnapshotGeneration
  rw [wp_bind, wp_bind, wp_get]
  refine ⟨rfl, ?_⟩
  rw [hobserved]
  dsimp only
  rw [wp_bind, wp_set]
  refine ⟨rfl, rfl, ?_⟩
  dsimp only
  rw [wp_bind, wp_get]
  refine ⟨rfl, ?_⟩
  rw [processMessages_of_stale (due_of_lastSeq_le hend), wp_bind]
  refine ⟨rfl, ?_⟩
  dsimp only
  rw [skipUnavailable, if_neg (fun h => absurd h.2 (Nat.not_lt.mpr hend)), wp_bind, wp_pure]
  refine ⟨rfl, ?_⟩
  have hsave : (r.send && ((s.generationFor r.room).isNone || false) &&
      !(r.send && (false || !([] : List Event).isEmpty))) = false := by
    rw [hgeneration]
    simp
  rw [if_neg (ne_true_of_eq_false hsave)]
  refine ⟨rfl, ?_, rfl⟩
  unfold handledEvents
  rw [List.append_nil, List.append_nil]
  split_ifs <;> rfl

/-! ## A live call -/

/-- What a live `process_snapshot` has done where it returns. -/
structure ProcessedOnce (r : SafeResponder) (snapshot : RoomSnapshot) (s : AgentState) (w : World)
    (events : List Event) (s' : AgentState) (w' : World) : Prop where
  /-- The messages that were handled are those past the cursor, each once. -/
  seqs : (handledEvents events).map MessageEvent.seq =
    (due (s.cursorFor r.room) snapshot.messages).map RoomMessage.seq
  increasing : ((handledEvents events).map MessageEvent.seq).Pairwise (· < ·)
  history : w'.handled = w.handled ++ handledEvents events
  cursor : s'.cursorFor r.room = cursorAfter (s.cursorFor r.room) snapshot
  forward : s.cursorFor r.room ≤ s'.cursorFor r.room
  generation : s'.generationFor r.room = some snapshot.generation
  cursors : ∀ other, other ≠ r.room → s'.cursors.get? other = s.cursors.get? other
  nonces : ∀ other, other ≠ r.room → s'.nonces.get? other = s.nonces.get? other
  generations : ∀ other, other ≠ r.room → s'.generations.get? other = s.generations.get? other
  /-- The state file loads to the memory. -/
  holds : s'.principalCount ≤ Capabilities.maxPrincipals → w'.Holds s'
  /-- The same snapshot again handles nothing and sends nothing. -/
  again : ∀ w₁ : World, Wp World.step (fun w₂ => w₂.handled = w₁.handled ∧ w₂.sent = w₁.sent)
    (processSnapshot r snapshot) (fun events' _ _ => handledEvents events' = [])
    (fun _ _ _ => True) s' w₁

omit [Platform] in
theorem le_cursorAfter (cursor : ℕ) (snapshot : RoomSnapshot) :
    cursor ≤ cursorAfter cursor snapshot := by
  unfold cursorAfter
  split_ifs
  · exact le_max_left cursor snapshot.lastSeq
  · exact le_reached_due cursor snapshot.messages

omit [Platform] in
/-- Nothing of a snapshot is past the cursor that it leaves. -/
theorem due_cursorAfter (cursor : ℕ) (snapshot : RoomSnapshot) :
    due (cursorAfter cursor snapshot) snapshot.messages = [] := by
  refine List.eq_nil_iff_forall_not_mem.mpr fun m hm => ?_
  obtain ⟨hmem, hlt⟩ := mem_due.mp hm
  have hdue : m ∈ due cursor snapshot.messages :=
    mem_due.mpr ⟨hmem, (le_cursorAfter cursor snapshot).trans_lt hlt⟩
  have hle := seq_le_reached snapshot.ordered hdue
  rw [cursorAfter, if_neg (List.ne_nil_of_mem hdue)] at hlt
  omega

omit [Platform] in
theorem wellFormed_observed {room : PyStr} (h : s.WellFormed) (hroom : room ≠ [])
    (generation : ℕ) : (observed s room generation).WellFormed :=
  ⟨h.cursors, h.nonces, h.generations.set hroom generation, h.histories⟩

theorem Finished.processedOnce {events changed : List Event} {handled : List MessageEvent}
    {s' : AgentState} {w' : World} (hsend : r.send = true) (hroom : r.room ≠ []) (hholds : w.Holds s)
    (h : Finished r snapshot s w events s' w' changed handled) :
    ProcessedOnce r snapshot s w events s' w' where
  seqs := h.handledEvents_eq ▸ h.seqs
  increasing := by
    rw [h.handledEvents_eq, h.seqs]
    exact due_ordered _ snapshot.ordered
  history := h.handledEvents_eq ▸ h.history
  cursor := h.kept.cursor
  forward := h.kept.cursor ▸ le_cursorAfter _ snapshot
  generation := h.kept.generation.trans (PyDict.get?_set_self _ _ _)
  cursors := h.kept.cursors
  nonces := h.kept.nonces
  generations other hother :=
    (h.kept.generations other hother).trans (PyDict.get?_set_of_ne hother _ _)
  holds hcount := by
    rcases h.durable hsend with hsaved | ⟨rfl, rfl⟩
    · refine World.holds_of_saved hsaved (h.kept.wellFormed hroom ?_) hcount
      exact wellFormed_observed hholds.wellFormed hroom snapshot.generation
    · exact hholds
  again w₁ := by
    refine wp_processSnapshot_stale (fun _ _ h => h) ?_ ⟨rfl, rfl⟩
    rw [h.kept.cursor]
    exact due_cursorAfter _ snapshot

/-- Where the call raises, the state file still loads, to what it held before or to a state that
was saved on the way. -/
theorem Broken.holds {s' : AgentState} {w' : World} (hsend : r.send = true) (hroom : r.room ≠ [])
    (hholds : w.Holds s) (h : Broken r snapshot s w s' w') :
    w'.Holds s ∨ ∃ s₁, w'.stateDoc = some (.ok s₁.toPayload) ∧
      (s₁.principalCount ≤ Capabilities.maxPrincipals → w'.Holds s₁) := by
  have hwell := wellFormed_observed hholds.wellFormed hroom snapshot.generation
  have hold : w'.stateDoc = w.stateDoc → w'.Holds s := by
    intro hsame
    unfold World.Holds at hholds ⊢
    rwa [hsame]
  rcases h with ⟨-, rfl⟩ | ⟨done, handled, h⟩ | ⟨-, -, -, rfl, hsame | hsaved⟩
  · exact Or.inl hholds
  · obtain ⟨base, -, ⟨-, hsame⟩ | ⟨s₁, hdoc, hkept⟩⟩ := h.disk hsend
    · exact Or.inl (hold hsame)
    · exact Or.inr ⟨s₁, hdoc, World.holds_of_saved hdoc (hkept.wellFormed hroom hwell)⟩
  · exact Or.inl (hold hsame)
  · have hkept := Kept.atCursor (observed s r.room snapshot.generation) r.room snapshot.lastSeq
    exact Or.inr ⟨_, hsaved, World.holds_of_saved hsaved (hkept.wellFormed hroom hwell)⟩

/-- **A live call of `process_snapshot`** on a state that the file holds.  Where it returns, the
messages past the cursor were handled, each once and in order, the cursor moved forward to
the last of them or to the end of the snapshot, other rooms are untouched, and the file loads
to the memory again.  Where it raises, memory and file stand at the boundary of a message.
A snapshot of the generation on record that ends before the cursor changes nothing. -/
theorem processed_once (hsend : r.send = true) (hroom : r.room ≠ []) (hholds : w.Holds s) :
    Wp World.step Anywhere (processSnapshot r snapshot) (ProcessedOnce r snapshot s w)
        (fun _ s' w' => Broken r snapshot s w s' w' ∧ (w'.Holds s ∨
          ∃ s₁, w'.stateDoc = some (.ok s₁.toPayload) ∧
            (s₁.principalCount ≤ Capabilities.maxPrincipals → w'.Holds s₁))) s w ∧
      ∀ (old : RoomSnapshot) (s₁ : AgentState) (w₁ : World), old.room = r.room →
        s₁.generationFor r.room = some old.generation → old.lastSeq ≤ s₁.cursorFor r.room →
        Wp World.step (fun w' => w' = w₁) (processSnapshot r old)
          (fun events s' _ => handledEvents events = [] ∧ s' = s₁) (fun _ _ _ => False) s₁ w₁ := by
  refine ⟨wp_processSnapshot_any.mono ?_ ?_, ?_⟩
  · rintro events s' w' - ⟨changed, handled, h⟩
    exact h.processedOnce hsend hroom hholds
  · exact fun _ _ _ _ h => ⟨h, h.holds hsend hroom hholds⟩
  · intro old s₁ w₁ hold hgeneration hend
    exact (wp_processSnapshot_old hgeneration hend).mono (fun _ _ _ _ h => h)
      fun _ _ _ _ h => h.2 hold

end SafeResponder

/-! ## A call -/

namespace Sample

/-- The responder of a live process without journal and audit log. -/
def speaker : SafeResponder := { listener with send := true }

/-- It starts without a state file, and handles the two messages of the page. -/
theorem processed_once_gapped : ∃ events s' w',
    EffTree.Returns World.step (speaker.processSnapshot gappedSnapshot {}) world (.ok events, s') w' ∧
      SafeResponder.ProcessedOnce speaker gappedSnapshot {} world events s' w' := by
  obtain ⟨events, s', w', hreturns⟩ := returns_of_isOk (m := speaker.processSnapshot gappedSnapshot)
    (s := {}) (w := world) (by decide +kernel)
  have hholds : world.Holds {} := Or.inl ⟨rfl, AgentState.Agrees.refl {}⟩
  have hroom : speaker.room ≠ [] := by decide
  exact ⟨events, s', w', hreturns,
    (SafeResponder.processed_once rfl hroom hholds).1.post hreturns⟩

end Sample
