/-
# The invariant of live runs

What holds wherever a live process is cut: in the files, in the room, and in the list of
envelopes that were handed to the transport.

* `RunInv`           : the invariant, for the rooms that the processes work in;
* `RunInv.saved`, `RunInv.prepared`, `RunInv.acknowledged`, `RunInv.cleared`, `RunInv.posted`,
  `RunInv.others`, `RunInv.audit`, `RunInv.handling`, `RunInv.started` : one lemma for each way in
  which the world changes;
* `Live`          : how the memory of a process stands to its files.

The rooms share one journal file, which names its room by a digest; the digests of the
rooms are assumed to differ, which says nothing where there is only one room.
-/
import SafeAgent.Rules

open PyText

/-! ## Journal records -/

namespace DeliveryRecord

/-- A record is determined by what is written. -/
theorem toPayload_injective : Function.Injective toPayload := by
  intro r r' h
  obtain ⟨status, room, input, did, nonce, text, textSha, signature, reply, _, _, _⟩ := r
  obtain ⟨status', room', input', did', nonce', text', textSha', signature', reply', _, _, _⟩ := r'
  have hstatus : statusToken status = statusToken status' → status = status' := by
    cases status <;> cases status' <;> first | (intro _; rfl) | (intro h; exact absurd h (by decide))
  have hreply : replyPayload reply = replyPayload reply' → reply = reply' := by
    cases reply <;> cases reply' <;> simp [replyPayload]
  simp only [toPayload, payloadFields, Json.obj.injEq, List.cons.injEq, Prod.mk.injEq, true_and,
    Json.str.injEq, Json.int.injEq, Nat.cast_inj, and_true] at h
  obtain ⟨h1, rfl, rfl, rfl, rfl, rfl, rfl, rfl, h2⟩ := h
  obtain rfl := hstatus h1
  obtain rfl := hreply h2
  rfl

end DeliveryRecord

namespace World

/-- A message that shows an envelope. -/
def Shows (m : RoomMessage) (envelope : Envelope) : Prop :=
  m.sender = envelope.did ∧ m.nonce = some (decimal envelope.nonce) ∧ m.text = envelope.text

/-- Nothing in the room is the agent's reply to an input. -/
def Unanswered (w : World) (room : PyStr) (input : ℕ) : Prop :=
  ∀ e ∈ w.rooms room, ∀ envelope, e.reply ≠ some (envelope, input)

/-- What loads from the state file is what the document shows. -/
def Readable (w : World) : Prop :=
  ∀ j s, w.stateDoc = some (.ok j) → AgentState.fromPayload j = .ok s → ∀ room,
    s.cursorFor room = w.durableCursor room ∧ s.nonceFor room = w.durableNonce room

/-- A reply in the room comes after its input, shows its envelope, agrees with the
journal, and is behind the cursor or in the journal. -/
structure Covers (w : World) (room : PyStr) (e : LogEntry) (envelope : Envelope) (input : ℕ) :
    Prop where
  after : input < e.message.seq
  shown : Shows e.message envelope
  exact : ∀ record, w.Journaled room record → record.inputSequence = input →
    record.envelope = envelope
  held : input ≤ w.durableCursor room ∨
    ∃ record, w.Journaled room record ∧ record.inputSequence = input

theorem Journaled.envelope_eq {w : World} {rooms : Set PyStr}
    (hrooms : rooms.InjOn DeliveryRecord.sha256) {room room' : PyStr}
    {record record' : DeliveryRecord} (hroom : room ∈ rooms) (hroom' : room' ∈ rooms)
    (h : w.Journaled room record) (h' : w.Journaled room' record') :
    room = room' ∧ record = record' := by
  have hpayload := h.1.symm.trans h'.1
  simp only [Option.some.injEq, Except.ok.injEq] at hpayload
  obtain rfl := DeliveryRecord.toPayload_injective hpayload
  exact ⟨hrooms hroom hroom' (h.2.trans h'.2.symm), rfl⟩

/-! ## What a saved state shows -/

@[simp] theorem durableCursor_saved (w : World) (s : AgentState) (room : PyStr) :
    (w.saved s).durableCursor room = s.cursorFor room := docEntry_cursors s room

@[simp] theorem durableNonce_saved (w : World) (s : AgentState) (room : PyStr) :
    (w.saved s).durableNonce room = s.nonceFor room := docEntry_nonces s room

theorem readable_saved (w : World) (s : AgentState) : (w.saved s).Readable := by
  intro j s' hj hs' room
  obtain rfl : s.toPayload = j := by simpa [saved] using hj
  have hagrees := AgentState.fromPayload_toPayload hs'
  rw [durableCursor_saved, durableNonce_saved]
  exact ⟨(hagrees.cursorFor room).symm, (hagrees.nonceFor room).symm⟩

/-! ## What a request to post changes -/

theorem sentTo_append (w : World) (room room' : PyStr) (envelope : Envelope) :
    { w with sent := w.sent ++ [(room, envelope)] }.sentTo room' =
      if room' = room then w.sentTo room' ++ [envelope] else w.sentTo room' := by
  simp only [sentTo, List.filter_append, List.map_append]
  split_ifs with h
  · simp [h]
  · simp [Ne.symm h]

/-- The envelope that is handed over comes last. -/
theorem Posts.sent {w w' : World} {room : PyStr} {envelope : Envelope} {input : ℕ}
    (hw : w.Posts w' room envelope input) : w'.sent = w.sent ++ [(room, envelope)] := by
  obtain ⟨w₁, hothers, hw'⟩ := hw
  have hsent : w₁.sent = w.sent := by rw [hothers.1]
  rcases hw' with rfl | rfl <;> rw [← hsent]

theorem Posts.sentTo {w w' : World} {room : PyStr} {envelope : Envelope} {input : ℕ}
    (hw : w.Posts w' room envelope input) (other : PyStr) :
    w'.sentTo other = if other = room then w.sentTo other ++ [envelope] else w.sentTo other := by
  rw [← sentTo_append, World.sentTo, hw.sent]
  rfl

theorem accept_rooms (w : World) (room room' : PyStr) (envelope : Envelope) (input : ℕ) :
    (w.accept room envelope input).rooms room' =
      if room' = room then w.rooms room' ++ [accepted (w.rooms room') envelope input]
      else w.rooms room' := by
  unfold accept
  split_ifs with h
  · subst h
    exact Function.update_self ..
  · exact Function.update_of_ne h ..

theorem repliesTo_of_unanswered {w : World} {room : PyStr} {input : ℕ}
    (h : w.Unanswered room input) : w.repliesTo room input = [] := by
  rw [repliesTo, List.filter_eq_nil_iff]
  intro e he hreply
  cases hr : e.reply with
  | none => simp [hr] at hreply
  | some p =>
      obtain ⟨envelope, i⟩ := p
      obtain rfl : i = input := by simpa [hr] using hreply
      exact h e he envelope hr

end World

/-! ## The invariant -/

/-- What holds wherever a live process is cut.  `V` says what the audit log must show of
an event. -/
structure RunInv (rooms : Set PyStr) (V : Bytes → MessageEvent → Prop) (w : World) : Prop where
  readable : w.Readable
  numbered : ∀ room ∈ rooms,
    (w.rooms room).map (fun e => e.message.seq) = List.range' 1 (w.rooms room).length
  journaled : ∀ j, w.journalDoc = some j → ∃ room ∈ rooms, ∃ record,
    w.Journaled room record ∧ record.inputSequence ≤ (w.rooms room).length
  covered : ∀ room ∈ rooms, ∀ e ∈ w.rooms room, ∀ envelope input,
    e.reply = some (envelope, input) → w.Covers room e envelope input
  once : ∀ room ∈ rooms, ∀ input, (w.repliesTo room input).length ≤ 1
  increasing : ∀ room ∈ rooms, (w.sentTo room).Pairwise fun a b => a = b ∨ a.nonce < b.nonce
  spent : ∀ room ∈ rooms, ∀ envelope ∈ w.sentTo room,
    envelope.nonce ≤ w.durableNonce room ∨
      ∃ record, w.Journaled room record ∧ record.envelope = envelope
  latest : ∀ room ∈ rooms, ∀ record, w.Journaled room record →
    ∀ envelope ∈ w.sentTo room, envelope = record.envelope ∨ envelope.nonce < record.nonce
  audited : ∀ event ∈ w.handled, event.seq ≤ w.durableCursor event.room →
    V (w.auditFile.getD []) event

/-- What the audit log must show of an event: a growing log keeps it, and a record that
was appended for the event gives it. -/
structure Evidence [Platform] (V : Bytes → MessageEvent → Prop) : Prop where
  grows : ∀ raw more event, V raw event → V (raw ++ more) event
  append : ∀ key did issuer (message : RoomMessage) event fingerprint now raw rendered hash,
    Audit.appendIssuer key did = .ok issuer →
    Audit.appendRecord key issuer (SafeResponder.auditArgs message event fingerprint now) raw =
      .ok (rendered, hash) →
    event.seq = message.seq → V (raw ++ rendered) event

section Preservation

variable {rooms : Set PyStr} {V : Bytes → MessageEvent → Prop} {w w' : World}

namespace RunInv

/-- Saving an object whose progress is not behind the file. -/
theorem saved {s : AgentState} (h : RunInv rooms V w)
    (hcursor : ∀ room, w.durableCursor room ≤ s.cursorFor room)
    (hnonce : ∀ room, w.durableNonce room ≤ s.nonceFor room)
    (haudit : ∀ event ∈ w.handled, event.seq ≤ s.cursorFor event.room →
      V (w.auditFile.getD []) event) : RunInv rooms V (w.saved s) where
  readable := World.readable_saved w s
  numbered := h.numbered
  journaled := h.journaled
  covered room hroom e he envelope input hreply := by
    have hc := h.covered room hroom e he envelope input hreply
    refine ⟨hc.after, hc.shown, hc.exact, hc.held.imp_left fun hle => ?_⟩
    rw [World.durableCursor_saved]
    exact le_trans hle (hcursor room)
  once := h.once
  increasing := h.increasing
  spent room hroom envelope henvelope := by
    refine (h.spent room hroom envelope henvelope).imp_left fun hle => ?_
    rw [World.durableNonce_saved]
    exact le_trans hle (hnonce room)
  latest := h.latest
  audited event hevent hseq := haudit event hevent (by simpa using hseq)

/-- A new record in an empty journal, for an input without a reply, with a new nonce. -/
theorem prepared {room : PyStr} {record : DeliveryRecord} (h : RunInv rooms V w)
    (hrooms : rooms.InjOn DeliveryRecord.sha256) (hroom : room ∈ rooms)
    (hnone : w.journalDoc = none) (hsha : DeliveryRecord.sha256 room = .ok record.roomSha256)
    (hinput : record.inputSequence ≤ (w.rooms room).length)
    (hunanswered : w.Unanswered room record.inputSequence)
    (hfresh : ∀ envelope ∈ w.sentTo room, envelope.nonce < record.nonce) :
    RunInv rooms V (w.withJournal (some record)) := by
  have hheld : (w.withJournal (some record)).Journaled room record := ⟨rfl, hsha⟩
  have hold : ∀ room' record', ¬w.Journaled room' record' := by
    rintro room' record' ⟨hdoc, -⟩
    rw [hnone] at hdoc
    cases hdoc
  have hunique : ∀ room' ∈ rooms, ∀ record',
      (w.withJournal (some record)).Journaled room' record' → room' = room ∧ record' = record :=
    fun room' hroom' record' h' => World.Journaled.envelope_eq hrooms hroom' hroom h' hheld
  refine
    { readable := h.readable
      numbered := h.numbered
      journaled := fun j _ => ⟨room, hroom, record, hheld, hinput⟩
      covered := fun room' hroom' e he envelope input hreply => ?_
      once := h.once
      increasing := h.increasing
      spent := fun room' hroom' envelope henvelope => ?_
      latest := fun room' hroom' record' hrecord' envelope henvelope => ?_
      audited := h.audited }
  · have hc := h.covered room' hroom' e he envelope input hreply
    refine ⟨hc.after, hc.shown, fun record' hrecord' heq => ?_, Or.inl ?_⟩
    · obtain ⟨rfl, rfl⟩ := hunique room' hroom' record' hrecord'
      exact absurd (heq ▸ hreply) (hunanswered e he envelope)
    · rcases hc.held with hle | ⟨record', hrecord', -⟩
      · exact hle
      · exact absurd hrecord' (hold _ _)
  · rcases h.spent room' hroom' envelope henvelope with hle | ⟨record', hrecord', -⟩
    · exact Or.inl hle
    · exact absurd hrecord' (hold _ _)
  · obtain ⟨rfl, rfl⟩ := hunique room' hroom' record' hrecord'
    exact Or.inr (hfresh envelope henvelope)

/-- The journal's record in another status. -/
theorem acknowledged {room : PyStr} {record acked : DeliveryRecord} (h : RunInv rooms V w)
    (hrooms : rooms.InjOn DeliveryRecord.sha256) (hroom : room ∈ rooms)
    (hrecord : w.Journaled room record) (hsha : acked.roomSha256 = record.roomSha256)
    (hinput : acked.inputSequence = record.inputSequence)
    (henvelope : acked.envelope = record.envelope) :
    RunInv rooms V (w.withJournal (some acked)) := by
  have hheld : (w.withJournal (some acked)).Journaled room acked := ⟨rfl, hsha ▸ hrecord.2⟩
  -- the journal holds one record, of one room, before and after
  have hunique : ∀ room' ∈ rooms, ∀ record',
      (w.withJournal (some acked)).Journaled room' record' → room' = room ∧ record' = acked :=
    fun room' hroom' record' h' => World.Journaled.envelope_eq hrooms hroom' hroom h' hheld
  have hold : ∀ room' ∈ rooms, ∀ record', w.Journaled room' record' →
      room' = room ∧ record' = record :=
    fun room' hroom' record' h' => World.Journaled.envelope_eq hrooms hroom' hroom h' hrecord
  have hnonce : acked.nonce = record.nonce := congrArg Envelope.nonce henvelope
  refine
    { readable := h.readable
      numbered := h.numbered
      journaled := fun j _ => ⟨room, hroom, acked, hheld, ?_⟩
      covered := fun room' hroom' e he envelope input hreply => ?_
      once := h.once
      increasing := h.increasing
      spent := fun room' hroom' envelope henv => ?_
      latest := fun room' hroom' record' hrecord' envelope henv => ?_
      audited := h.audited }
  · obtain ⟨room₁, hroom₁, record₁, hrecord₁, hle⟩ := h.journaled _ hrecord.1
    obtain ⟨rfl, rfl⟩ := hold room₁ hroom₁ record₁ hrecord₁
    rw [hinput]
    exact hle
  · have hc := h.covered room' hroom' e he envelope input hreply
    refine ⟨hc.after, hc.shown, fun record' hrecord' heq => ?_, hc.held.imp_right ?_⟩
    · obtain ⟨rfl, rfl⟩ := hunique room' hroom' record' hrecord'
      rw [henvelope]
      exact hc.exact record hrecord (hinput ▸ heq)
    · rintro ⟨record', hrecord', heq⟩
      obtain ⟨rfl, rfl⟩ := hold room' hroom' record' hrecord'
      exact ⟨acked, hheld, hinput.trans heq⟩
  · refine (h.spent room' hroom' envelope henv).imp_right ?_
    rintro ⟨record', hrecord', heq⟩
    obtain ⟨rfl, rfl⟩ := hold room' hroom' record' hrecord'
    exact ⟨acked, hheld, henvelope.trans heq⟩
  · obtain ⟨rfl, rfl⟩ := hunique room' hroom' record' hrecord'
    rw [henvelope, hnonce]
    exact h.latest room' hroom record hrecord envelope henv

/-- The journal is cleared when cursor and nonce have passed its record. -/
theorem cleared (h : RunInv rooms V w)
    (hpassed : ∀ room ∈ rooms, ∀ record, w.Journaled room record →
      record.inputSequence ≤ w.durableCursor room ∧ record.nonce ≤ w.durableNonce room) :
    RunInv rooms V (w.withJournal none) := by
  have hnone : ∀ room record, ¬(w.withJournal none).Journaled room record := by
    rintro room record ⟨hdoc, -⟩
    cases hdoc
  refine
    { readable := h.readable
      numbered := h.numbered
      journaled := by rintro j ⟨⟩
      covered := fun room hroom e he envelope input hreply => ?_
      once := h.once
      increasing := h.increasing
      spent := fun room hroom envelope henvelope => Or.inl ?_
      latest := fun room hroom record hrecord => absurd hrecord (hnone _ _)
      audited := h.audited }
  · have hc := h.covered room hroom e he envelope input hreply
    refine ⟨hc.after, hc.shown, fun record hrecord => absurd hrecord (hnone _ _), Or.inl ?_⟩
    rcases hc.held with hle | ⟨record, hrecord, rfl⟩
    · exact hle
    · exact (hpassed room hroom record hrecord).1
  · rcases h.spent room hroom envelope henvelope with hle | ⟨record, hrecord, rfl⟩
    · exact hle
    · exact (hpassed room hroom record hrecord).2

/-- Others have posted. -/
theorem others (h : RunInv rooms V w) (hw : w.Others w') : RunInv rooms V w' := by
  obtain ⟨heq, hgrow⟩ := hw
  have hold : ∀ room e envelope input, e ∈ w'.rooms room → e.reply = some (envelope, input) →
      e ∈ w.rooms room := by
    intro room e envelope input he hreply
    obtain ⟨more, hmore, hnone, -⟩ := hgrow room
    rw [hmore, List.mem_append] at he
    refine he.resolve_right fun hin => ?_
    rw [hnone e hin] at hreply
    cases hreply
  -- others append to rooms, and touch nothing of ours
  have hstate : w'.stateDoc = w.stateDoc := by rw [heq]
  have hjournal : w'.journalDoc = w.journalDoc := by rw [heq]
  have hsent : w'.sent = w.sent := by rw [heq]
  have hhandled : w'.handled = w.handled := by rw [heq]
  have haudit : w'.auditFile = w.auditFile := by rw [heq]
  refine
    { readable := fun j s hj => ?_
      numbered := fun room hroom => ?_
      journaled := fun j hj => ?_
      covered := fun room hroom e he envelope input hreply => ?_
      once := fun room hroom input => ?_
      increasing := fun room hroom => ?_
      spent := fun room hroom envelope henvelope => ?_
      latest := fun room hroom record hrecord envelope henvelope => ?_
      audited := fun event hevent hseq => ?_ }
  · have := h.readable j s (hstate ▸ hj)
    simpa only [World.durableCursor, World.durableNonce, hstate] using this
  · obtain ⟨more, hmore, -, hseqs⟩ := hgrow room
    rw [hmore, List.map_append, h.numbered room hroom, hseqs, List.length_append,
      Nat.add_comm (w.rooms room).length 1, List.range'_append_1]
  · obtain ⟨room, hroom, record, hrecord, hle⟩ := h.journaled j (hjournal ▸ hj)
    obtain ⟨more, hmore, -, -⟩ := hgrow room
    refine ⟨room, hroom, record, ⟨hjournal ▸ hrecord.1, hrecord.2⟩, ?_⟩
    rw [hmore, List.length_append]
    omega
  · have hc := h.covered room hroom e (hold room e envelope input he hreply) envelope input hreply
    refine ⟨hc.after, hc.shown, fun record hrecord => ?_, hc.held.imp (fun hle => ?_) ?_⟩
    · exact hc.exact record ⟨hjournal ▸ hrecord.1, hrecord.2⟩
    · simpa only [World.durableCursor, hstate] using hle
    · rintro ⟨record, hrecord, hinput⟩
      exact ⟨record, ⟨hjournal ▸ hrecord.1, hrecord.2⟩, hinput⟩
  · obtain ⟨more, hmore, hnone, -⟩ := hgrow room
    -- what others append are no replies of ours
    have hempty : (more.filter fun e => e.reply.any fun p => p.2 = input) = [] := by
      rw [List.filter_eq_nil_iff]
      intro e he
      simp [hnone e he]
    rw [World.repliesTo, hmore, List.filter_append, hempty, List.append_nil]
    exact h.once room hroom input
  · simpa only [World.sentTo, hsent] using h.increasing room hroom
  · simp only [World.sentTo, hsent] at henvelope
    refine (h.spent room hroom envelope henvelope).imp (fun hle => ?_) ?_
    · simpa only [World.durableNonce, hstate] using hle
    · rintro ⟨record, hrecord, hsame⟩
      exact ⟨record, ⟨hjournal ▸ hrecord.1, hrecord.2⟩, hsame⟩
  · simp only [World.sentTo, hsent] at henvelope
    exact h.latest room hroom record ⟨hjournal ▸ hrecord.1, hrecord.2⟩ envelope henvelope
  · rw [hhandled] at hevent
    rw [haudit]
    exact h.audited event hevent (by simpa only [World.durableCursor, hstate] using hseq)

/-- The journal's envelope is handed to the transport. -/
theorem sent {room : PyStr} {record : DeliveryRecord} (h : RunInv rooms V w)
    (hrooms : rooms.InjOn DeliveryRecord.sha256) (hroom : room ∈ rooms)
    (hrecord : w.Journaled room record) :
    RunInv rooms V { w with sent := w.sent ++ [(room, record.envelope)] } := by
  refine
    { readable := h.readable
      numbered := h.numbered
      journaled := h.journaled
      covered := fun room' hroom' e he envelope input hreply => ?_
      once := h.once
      increasing := fun room' hroom' => ?_
      spent := fun room' hroom' envelope henvelope => ?_
      latest := fun room' hroom' record' hrecord' envelope henvelope => ?_
      audited := h.audited }
  · have hc := h.covered room' hroom' e he envelope input hreply
    exact ⟨hc.after, hc.shown, hc.exact, hc.held⟩
  · rw [World.sentTo_append]
    split_ifs with hsame
    · subst hsame
      rw [List.pairwise_append]
      refine ⟨h.increasing room' hroom', List.pairwise_singleton .., ?_⟩
      intro a ha b hb
      rw [List.mem_singleton] at hb
      subst hb
      exact h.latest room' hroom record hrecord a ha
    · exact h.increasing room' hroom'
  · rw [World.sentTo_append] at henvelope
    split_ifs at henvelope with hsame
    · subst hsame
      rcases List.mem_append.mp henvelope with hold | hnew
      · exact h.spent room' hroom' envelope hold
      · exact Or.inr ⟨record, hrecord, (List.mem_singleton.mp hnew).symm⟩
    · exact h.spent room' hroom' envelope henvelope
  · obtain ⟨rfl, rfl⟩ := World.Journaled.envelope_eq hrooms hroom' hroom hrecord' hrecord
    rw [World.sentTo_append, if_pos rfl] at henvelope
    rcases List.mem_append.mp henvelope with hold | hnew
    · exact h.latest room' hroom' record' hrecord' envelope hold
    · exact Or.inl (List.mem_singleton.mp hnew)

/-- The server accepts the journal's envelope as the reply to an input without one. -/
theorem accepted {room : PyStr} {record : DeliveryRecord} (h : RunInv rooms V w)
    (hrooms : rooms.InjOn DeliveryRecord.sha256) (hroom : room ∈ rooms)
    (hrecord : w.Journaled room record) (hunanswered : w.Unanswered room record.inputSequence) :
    RunInv rooms V (w.accept room record.envelope record.inputSequence) := by
  have hle : record.inputSequence ≤ (w.rooms room).length := by
    obtain ⟨room₁, hroom₁, record₁, hrecord₁, hle⟩ := h.journaled _ hrecord.1
    obtain ⟨rfl, rfl⟩ := World.Journaled.envelope_eq hrooms hroom₁ hroom hrecord₁ hrecord
    exact hle
  refine
    { readable := h.readable
      numbered := fun room' hroom' => ?_
      journaled := fun j hj => ?_
      covered := fun room' hroom' e he envelope input hreply => ?_
      once := fun room' hroom' input => ?_
      increasing := h.increasing
      spent := h.spent
      latest := h.latest
      audited := h.audited }
  -- the new record has the next number
  · rw [World.accept_rooms]
    split_ifs
    · rw [List.map_append, h.numbered room' hroom', List.length_append, List.length_singleton,
        ← List.range'_append_1, Nat.add_comm]
      rfl
    · exact h.numbered room' hroom'
  · obtain ⟨room₁, hroom₁, record₁, hrecord₁, hle₁⟩ := h.journaled j hj
    refine ⟨room₁, hroom₁, record₁, hrecord₁, ?_⟩
    rw [World.accept_rooms]
    split_ifs
    · rw [List.length_append]
      omega
    · exact hle₁
  -- an old reply is covered as before, and the new one by the journal
  · rw [World.accept_rooms] at he
    have hcovers : e ∈ w.rooms room' →
        (w.accept room record.envelope record.inputSequence).Covers room' e envelope input := by
      intro hold
      have hc := h.covered room' hroom' e hold envelope input hreply
      exact ⟨hc.after, hc.shown, hc.exact, hc.held⟩
    split_ifs at he with hsame
    · subst hsame
      rcases List.mem_append.mp he with hold | hnew
      · exact hcovers hold
      · obtain rfl := List.mem_singleton.mp hnew
        obtain ⟨rfl, rfl⟩ : record.envelope = envelope ∧ record.inputSequence = input := by
          simpa [World.accepted] using hreply
        refine ⟨Nat.lt_succ_of_le hle, ⟨rfl, rfl, rfl⟩, fun record' hrecord' _ => ?_,
          Or.inr ⟨record, hrecord, rfl⟩⟩
        obtain ⟨-, rfl⟩ := World.Journaled.envelope_eq hrooms hroom' hroom' hrecord' hrecord
        rfl
    · exact hcovers he
  -- the input had no reply yet, and no other input has gained one
  · rw [World.repliesTo, World.accept_rooms]
    split_ifs with hsame
    · subst hsame
      rw [List.filter_append, List.length_append]
      by_cases hinput : input = record.inputSequence
      · have hnil := World.repliesTo_of_unanswered hunanswered
        rw [World.repliesTo] at hnil
        rw [hinput, hnil, List.length_nil, Nat.zero_add]
        exact List.length_filter_le ..
      · have hnew : [World.accepted (w.rooms room') record.envelope record.inputSequence].filter
            (fun e => e.reply.any fun p => p.2 = input) = [] := by
          simp [World.accepted, Ne.symm hinput]
        rw [hnew, List.length_nil, Nat.add_zero]
        exact h.once room' hroom' input
    · exact h.once room' hroom' input

theorem unanswered_of_others {room : PyStr} {input : ℕ} (h : w.Unanswered room input)
    (hw : w.Others w') : w'.Unanswered room input := by
  intro e he envelope hreply
  obtain ⟨more, hmore, hnone, -⟩ := hw.2 room
  rw [hmore, List.mem_append] at he
  rcases he with hold | hnew
  · exact h e hold envelope hreply
  · rw [hnone e hnew] at hreply
    cases hreply

/-- **A request to post.**  The envelope is the journal's, and its input has no reply. -/
theorem posted {room : PyStr} {record : DeliveryRecord} (h : RunInv rooms V w)
    (hrooms : rooms.InjOn DeliveryRecord.sha256) (hroom : room ∈ rooms)
    (hrecord : w.Journaled room record) (hunanswered : w.Unanswered room record.inputSequence)
    (hw : w.Posts w' room record.envelope record.inputSequence) : RunInv rooms V w' := by
  obtain ⟨w₁, hothers, hw'⟩ := hw
  have h₁ := h.others hothers
  have hrecord₁ : w₁.Journaled room record := by
    rw [hothers.1]
    exact hrecord
  rcases hw' with rfl | rfl
  · exact h₁.sent hrooms hroom hrecord₁
  · exact (h₁.accepted hrooms hroom hrecord₁ (unanswered_of_others hunanswered hothers)).sent
      hrooms hroom hrecord₁

/-- The audit log has grown. -/
theorem audit (h : RunInv rooms V w) (hV : ∀ raw more event, V raw event → V (raw ++ more) event)
    (hw : w.AuditGrows w') : RunInv rooms V w' := by
  obtain ⟨heq, more, hmore⟩ := hw
  have hlogged : ∀ event ∈ w.handled, event.seq ≤ w.durableCursor event.room →
      V (w'.auditFile.getD []) event := by
    intro event hevent hseq
    rw [hmore]
    exact hV _ _ _ (h.audited event hevent hseq)
  rw [heq]
  refine
    { readable := h.readable
      numbered := h.numbered
      journaled := h.journaled
      covered := fun room hroom e he envelope input hreply => ?_
      once := h.once
      increasing := h.increasing
      spent := h.spent
      latest := h.latest
      audited := hlogged }
  have hc := h.covered room hroom e he envelope input hreply
  exact ⟨hc.after, hc.shown, hc.exact, hc.held⟩

/-- The history of handled messages may change where the durable cursor has not been. -/
theorem history {handled : List MessageEvent} (h : RunInv rooms V w)
    (hhandled : ∀ event ∈ handled, event ∈ w.handled ∨ w.durableCursor event.room < event.seq) :
    RunInv rooms V { w with handled } where
  readable := h.readable
  numbered := h.numbered
  journaled := h.journaled
  covered room hroom e he envelope input hreply := by
    have hc := h.covered room hroom e he envelope input hreply
    exact ⟨hc.after, hc.shown, hc.exact, hc.held⟩
  once := h.once
  increasing := h.increasing
  spent := h.spent
  latest := h.latest
  audited event hevent hseq := by
    rcases hhandled event hevent with hold | hnew
    · exact h.audited event hold hseq
    · exact absurd hseq (Nat.not_le_of_lt hnew)

end RunInv

end Preservation
