/-
# Skipped sequence numbers

Which sequence numbers a call may pass over without a word.

* `HandledUpTo`  : every number that a cursor moved over belongs to a handled message;
* `Surfaced`     : the same, or an event reports that messages were skipped;
* `Gapless`      : a page has every number from the cursor to each of its messages;
* `surfaced_iff` : a call that returns surfaces every skip exactly where the page is gapless, or
  says itself that it starts further on.
-/
import SafeAgent.Sample
import SafeAgent.Snapshots

open PyText

/-- The event reports that messages were skipped. -/
def Event.reportsSkip : Event → Bool
  | .retentionGap .. => true
  | .cursorAdvanced .. => true
  | _ => false

/-- Every number from one cursor to another belongs to a handled message. -/
def HandledUpTo (cursor cursor' : ℕ) (handled : List MessageEvent) : Prop :=
  ∀ n, cursor < n → n ≤ cursor' → ∃ event ∈ handled, event.seq = n

/-- Every number that the cursor moved over was handled, or an event reports the skip. -/
def Surfaced (cursor cursor' : ℕ) (events : List Event) : Prop :=
  HandledUpTo cursor cursor' (handledEvents events) ∨ ∃ event ∈ events, event.reportsSkip = true

/-- The page has every number from the cursor to each of its messages. -/
def Gapless (cursor : ℕ) (messages : List RoomMessage) : Prop :=
  ∀ m ∈ messages, ∀ n, cursor < n → n ≤ m.seq → ∃ m' ∈ messages, m'.seq = n

namespace SafeResponder

open Agent Proc

variable [Platform] {r : SafeResponder} {s : AgentState} {w : World} {snapshot : RoomSnapshot}

omit [Platform] in
/-- A part of a gapless page, handled in order, covers every number up to each of its messages. -/
theorem handledUpTo_of_part {cursor : ℕ} {messages done base : List RoomMessage}
    {handled : List MessageEvent} (hordered : (messages.map RoomMessage.seq).Pairwise (· < ·))
    (hgapless : Gapless cursor messages) (hdone : done <+: due cursor messages)
    (hseqs : handled.map MessageEvent.seq = done.map RoomMessage.seq) (hbase : base ⊆ done) :
    HandledUpTo cursor (reached cursor base) handled := by
  intro n hn hle
  by_cases hnil : base = []
  · rw [hnil] at hle
    exact absurd hle (Nat.not_le.mpr hn)
  obtain ⟨m, hm, hreached⟩ := reached_mem cursor hnil
  rw [hreached] at hle
  have hmdone : m ∈ done := hbase hm
  obtain ⟨m', hm', rfl⟩ := hgapless m (mem_due.mp (hdone.subset hmdone)).1 n hn hle
  -- a message that is not past the last one done was done too
  have hmem : m' ∈ done := by
    obtain ⟨rest, hrest⟩ := hdone
    have hdue : m' ∈ done ++ rest := hrest ▸ mem_due.mpr ⟨hm', hn⟩
    rcases List.mem_append.mp hdue with hmem | hlater
    · exact hmem
    · have hpairwise := hrest ▸ due_ordered cursor hordered
      rw [List.map_append, List.pairwise_append] at hpairwise
      have hlt := hpairwise.2.2 _ (List.mem_map_of_mem hmdone) _ (List.mem_map_of_mem hlater)
      omega
  have hseq : m'.seq ∈ handled.map MessageEvent.seq := hseqs ▸ List.mem_map_of_mem hmem
  exact List.mem_map.mp hseq

/-- **A call that returns** surfaces every skip where the page is gapless past the cursor, or
says itself that it starts further on, and nowhere else. -/
theorem Finished.surfaced_iff_gapless {events changed : List Event} {handled : List MessageEvent}
    {s' : AgentState} {w' : World} (h : Finished r snapshot s w events s' w' changed handled) :
    Surfaced (s.cursorFor r.room) (s'.cursorFor r.room) events ↔
      Gapless (s.cursorFor r.room) snapshot.messages ∨
        (0 < snapshot.firstSeq ∧ s.cursorFor r.room + 1 < snapshot.firstSeq) := by
  have hcursor := h.kept.cursor
  rw [Surfaced, h.handledEvents_eq, hcursor]
  constructor
  · rintro (hupTo | ⟨event, hevent, hreports⟩)
    -- every number up to the new cursor was handled, so each is on the page
    · refine Or.inl fun m hm n hn hle => ?_
      have hdue : m ∈ due (s.cursorFor r.room) snapshot.messages := mem_due.mpr ⟨hm, hn.trans_le hle⟩
      have hreached := seq_le_reached snapshot.ordered hdue
      rw [cursorAfter, if_neg (List.ne_nil_of_mem hdue)] at hupTo
      obtain ⟨event, hevent, rfl⟩ := hupTo n hn (hle.trans hreached)
      have hseq := h.seqs ▸ List.mem_map_of_mem hevent
      obtain ⟨m', hm', heq⟩ := List.mem_map.mp hseq
      exact ⟨m', (mem_due.mp hm').1, heq⟩
    · rw [h.events_eq, List.mem_append, List.mem_append, List.mem_append] at hevent
      -- only two of the events report a gap
      rcases hevent with ((hchanged | hgap) | hhandled) | hskip
      · obtain ⟨_, rfl⟩ := h.quiet event hchanged
        cases hreports
      · unfold gapEvents at hgap
        split_ifs at hgap with hcond
        · exact Or.inr hcond
        · cases hgap
      · obtain ⟨_, -, rfl⟩ := List.mem_map.mp hhandled
        cases hreports
      · unfold skipEvents at hskip
        split_ifs at hskip with hcond
        · refine Or.inl fun m hm n hn hle => ?_
          have hdue : m ∈ due (s.cursorFor r.room) snapshot.messages :=
            mem_due.mpr ⟨hm, hn.trans_le hle⟩
          rw [hcond.1] at hdue
          cases hdue
        · cases hskip
  · rintro (hgapless | hgap)
    · -- a page without new records: the cursor moves only with an event that says so
      by_cases hnil : due (s.cursorFor r.room) snapshot.messages = []
      · rw [cursorAfter, if_pos hnil]
        by_cases hlt : s.cursorFor r.room < snapshot.lastSeq
        · refine Or.inr ⟨.cursorAdvanced r.room (s.cursorFor r.room) snapshot.lastSeq, ?_, rfl⟩
          rw [h.events_eq, skipEvents, if_pos ⟨hnil, hlt⟩]
          exact List.mem_append_right _ (List.mem_singleton_self _)
        · refine Or.inl fun n hn hle => ?_
          rw [max_eq_left (Nat.le_of_not_lt hlt)] at hle
          omega
      · rw [cursorAfter, if_neg hnil]
        exact Or.inl (handledUpTo_of_part snapshot.ordered hgapless (List.prefix_refl _) h.seqs
          fun _ hm => hm)
    · refine Or.inr ⟨.retentionGap r.room (s.cursorFor r.room) snapshot.firstSeq, ?_, rfl⟩
      rw [h.events_eq, gapEvents, if_pos hgap]
      simp

/-- **A call that raises** has no events; where the page is gapless past the cursor and its tail
is not skipped, every number that the cursor moved over was handled, in memory and on disk. -/
theorem Broken.handledUpTo {s' : AgentState} {w' : World} (h : Broken r snapshot s w s' w')
    (hgapless : Gapless (s.cursorFor r.room) snapshot.messages)
    (htail : s.cursorFor r.room < snapshot.lastSeq →
      ∃ m ∈ snapshot.messages, s.cursorFor r.room < m.seq) :
    ∃ handled, w'.handled = w.handled ++ handled ∧
      HandledUpTo (s.cursorFor r.room) (s'.cursorFor r.room) handled ∧
      (r.send = true → w'.stateDoc = w.stateDoc ∨
        HandledUpTo (s.cursorFor r.room) (w'.durableCursor r.room) handled) := by
  rcases h with ⟨rfl, rfl⟩ | ⟨done, handled, h⟩ | ⟨hnil, hlt, -⟩
  · exact ⟨[], (List.append_nil _).symm, fun n hn hle => absurd hle (Nat.not_le.mpr hn),
      fun _ => Or.inl rfl⟩
  · have hpart : ∀ base, Boundary done base → base ⊆ done := by
      rintro base (rfl | rfl)
      · exact List.Subset.refl _
      · exact List.dropLast_subset _
    refine ⟨handled, h.history, ?_, fun hsend => ?_⟩
    · obtain ⟨base, hbase, hkept⟩ := h.memory
      rw [hkept.cursor]
      exact handledUpTo_of_part snapshot.ordered hgapless h.isPrefix h.seqs (hpart base hbase)
    · obtain ⟨base, hbase, ⟨-, hsame⟩ | ⟨s₁, hdoc, hkept⟩⟩ := h.disk hsend
      · exact Or.inl hsame
      · refine Or.inr ?_
        rw [World.durableCursor, hdoc, docEntry_cursors, hkept.cursor]
        exact handledUpTo_of_part snapshot.ordered hgapless h.isPrefix h.seqs (hpart base hbase)
  · obtain ⟨m, hm, hpast⟩ := htail hlt
    have hdue := mem_due.mpr ⟨hm, hpast⟩
    rw [hnil] at hdue
    cases hdue

/-- **Skipped sequence numbers.**  A call that returns surfaces every skip exactly where the page
is gapless past the cursor or says itself that it starts further on; a call that raises has
handled every number that the cursor moved over where the page is gapless and its tail is
not skipped. -/
theorem surfaced_iff :
    Wp World.step Anywhere (processSnapshot r snapshot)
      (fun events s' _ => Surfaced (s.cursorFor r.room) (s'.cursorFor r.room) events ↔
        Gapless (s.cursorFor r.room) snapshot.messages ∨
          (0 < snapshot.firstSeq ∧ s.cursorFor r.room + 1 < snapshot.firstSeq))
      (fun _ s' w' => Gapless (s.cursorFor r.room) snapshot.messages →
        (s.cursorFor r.room < snapshot.lastSeq →
          ∃ m ∈ snapshot.messages, s.cursorFor r.room < m.seq) →
        ∃ handled, w'.handled = w.handled ++ handled ∧
          HandledUpTo (s.cursorFor r.room) (s'.cursorFor r.room) handled ∧
          (r.send = true → w'.stateDoc = w.stateDoc ∨
            HandledUpTo (s.cursorFor r.room) (w'.durableCursor r.room) handled)) s w := by
  refine wp_processSnapshot_any.mono ?_ fun _ _ _ _ h => h.handledUpTo
  rintro events s' w' - ⟨changed, handled, h⟩
  exact h.surfaced_iff_gapless

end SafeResponder

/-! ## A page with a hole -/

namespace Sample

/-- The unsigned message after the `n`-th. -/
def chatter (n : ℕ) : RoomMessage where
  seq := n + 1
  sender := py "somebody"
  text := py "hello"
  nonce := none
  seq_pos := Nat.succ_pos n

/-- A response of the server without `first_seq`, in which number 2 is missing. -/
def gappedPayload : JsonFields :=
  [(py "room", .str room), (py "last_seq", .int 3),
    (py "messages", .arr [messagePayload (chatter 0), messagePayload (chatter 2)])]

/-- What `_parse_snapshot` makes of it. -/
def gappedSnapshot : RoomSnapshot where
  room := room
  firstSeq := 1
  lastSeq := 3
  messages := [chatter 0, chatter 2]
  generation := 0
  ordered := by decide
  inRange := by decide

/-- A responder of `run` without `--send`. -/
def listener : SafeResponder where
  room := room
  did := did
  privateKey := key
  client := client
  policy := { ownDid := did, mode := .legacy [] true }
  receiptService := false
  deliveryJournal := false
  auditLog := false
  send := false

/-- A process that ends normally in the sample environment. -/
theorem returns_of_isOk {α : Type} {m : Agent α} {s : AgentState} {w : World}
    (h : (EffTree.run answer (m s) w).1.1.isOk = true) :
    ∃ a s' w', EffTree.Returns World.step (m s) w (.ok a, s') w' := by
  have hreturns := EffTree.returns_run step_answer (m s) w
  generalize EffTree.run answer (m s) w = result at h hreturns
  obtain ⟨⟨a | a, s'⟩, w'⟩ := result
  · cases h
  · exact ⟨a, s', w', hreturns⟩

theorem parseSnapshot_gapped : Protocol.parseSnapshot gappedPayload room = .ok gappedSnapshot := by
  rfl

/-- **A hole inside a page** is passed over without a word: the cursor moves from 0 to 3, nobody
handled number 2, and no event says so. -/
theorem not_surfaced_gapped :
    Protocol.parseSnapshot gappedPayload room = .ok gappedSnapshot ∧
      ∃ events s' w', EffTree.Returns World.step (listener.processSnapshot gappedSnapshot {}) world
          (.ok events, s') w' ∧
        s'.cursorFor room = 3 ∧ ¬Surfaced (AgentState.cursorFor {} room) (s'.cursorFor room) events := by
  refine ⟨parseSnapshot_gapped, ?_⟩
  obtain ⟨events, s', w', hreturns⟩ := returns_of_isOk (m := listener.processSnapshot gappedSnapshot)
    (s := {}) (w := world) (by decide +kernel)
  obtain ⟨changed, handled, h⟩ := SafeResponder.wp_processSnapshot_any.post hreturns
  refine ⟨events, s', w', hreturns, h.kept.cursor, fun hsurfaced => ?_⟩
  rcases h.surfaced_iff_gapless.mp hsurfaced with hgapless | ⟨-, hlt⟩
  · obtain ⟨m, hm, hseq⟩ := hgapless (chatter 2) (by simp [gappedSnapshot]) 2 (by decide) (by decide)
    have hnot : ∀ m ∈ gappedSnapshot.messages, m.seq ≠ 2 := by decide
    exact hnot m hm hseq
  · exact absurd hlt (by decide)

end Sample
