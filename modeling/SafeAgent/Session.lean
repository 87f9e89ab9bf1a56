/-
# The responder keeps the invariant

One rule for each procedure of the responder: started where `RunInv` holds, it holds at
every cut.  In between, `Live` says that the memory is not behind the state file and that
every handled event is in the audit log.

* `wp_sendText`                 : journal, send, acknowledge;
* `wp_eventForMessage`          : what is done about one message;
* `wp_persistProcessedMessage`  : audit record, cursor, journal;
* `wp_processSnapshot`          : the whole snapshot.
-/
import SafeAgent.Invariants

open PyText

/-- How the memory of a process stands to its files: it is not behind them, and every
handled event is in the audit log. -/
structure Live (V : Bytes → MessageEvent → Prop) (s : AgentState) (w : World) : Prop where
  cursor : ∀ room, w.durableCursor room ≤ s.cursorFor room
  nonce : ∀ room, w.durableNonce room ≤ s.nonceFor room
  logged : ∀ event ∈ w.handled, V (w.auditFile.getD []) event

/-- The journal holds the record of the reply to an input, with a nonce of the memory. -/
def Pending (room : PyStr) (input : ℕ) (s : AgentState) (w : World) : Prop :=
  ∃ record, w.Journaled room record ∧ record.inputSequence = input ∧
    record.nonce ≤ s.nonceFor room

namespace World

/-- No room has shrunk. -/
def Grows (w w' : World) : Prop := ∀ room, (w.rooms room).length ≤ (w'.rooms room).length

theorem Grows.refl (w : World) : w.Grows w := fun _ => le_rfl

theorem Grows.trans {w w₁ w₂ : World} (h : w.Grows w₁) (h' : w₁.Grows w₂) : w.Grows w₂ :=
  fun room => le_trans (h room) (h' room)

theorem Others.grows {w w' : World} (h : w.Others w') : w.Grows w' := by
  intro room
  obtain ⟨more, hmore, -, -⟩ := h.2 room
  rw [hmore, List.length_append]
  omega

theorem Posts.grows {w w' : World} {room : PyStr} {envelope : Envelope} {input : ℕ}
    (h : w.Posts w' room envelope input) : w.Grows w' := by
  obtain ⟨w₁, hothers, rfl | rfl⟩ := h
  · exact hothers.grows
  · refine hothers.grows.trans fun room' => ?_
    show _ ≤ ((w₁.accept room envelope input).rooms room').length
    rw [accept_rooms]
    split_ifs
    · rw [List.length_append]
      omega
    · exact le_rfl

/-- The state file, the audit log and the history are the same. -/
def SameProgress (w w' : World) : Prop :=
  w'.stateDoc = w.stateDoc ∧ w'.auditFile = w.auditFile ∧ w'.handled = w.handled

theorem Others.sameProgress {w w' : World} (h : w.Others w') : w.SameProgress w' := by
  rw [h.1]
  exact ⟨rfl, rfl, rfl⟩

theorem Posts.sameProgress {w w' : World} {room : PyStr} {envelope : Envelope} {input : ℕ}
    (h : w.Posts w' room envelope input) : w.SameProgress w' := by
  obtain ⟨w₁, hothers, rfl | rfl⟩ := h <;> exact hothers.sameProgress

theorem Posts.journalDoc {w w' : World} {room : PyStr} {envelope : Envelope} {input : ℕ}
    (h : w.Posts w' room envelope input) : w'.journalDoc = w.journalDoc := by
  obtain ⟨w₁, hothers, hw'⟩ := h
  have hsame : w₁.journalDoc = w.journalDoc := by rw [hothers.1]
  rcases hw' with rfl | rfl <;> exact hsame

end World

namespace Live

variable {V : Bytes → MessageEvent → Prop} {s s' : AgentState} {w w' : World}

/-- The files did not change, and the memory did not fall behind. -/
theorem congr (h : Live V s w) (hw : w.SameProgress w')
    (hcursor : ∀ room, s.cursorFor room ≤ s'.cursorFor room)
    (hnonce : ∀ room, s.nonceFor room ≤ s'.nonceFor room) : Live V s' w' where
  cursor room := by
    rw [World.durableCursor, hw.1]
    exact le_trans (h.cursor room) (hcursor room)
  nonce room := by
    rw [World.durableNonce, hw.1]
    exact le_trans (h.nonce room) (hnonce room)
  logged event hevent := by
    rw [hw.2.1]
    exact h.logged event (hw.2.2 ▸ hevent)

theorem of_sameProgress (h : Live V s w) (hw : w.SameProgress w') : Live V s w' :=
  h.congr hw (fun _ => le_rfl) fun _ => le_rfl

/-- After a save the file shows the memory. -/
theorem saved (h : Live V s w) : Live V s (w.saved s) where
  cursor room := le_of_eq (World.durableCursor_saved w s room)
  nonce room := le_of_eq (World.durableNonce_saved w s room)
  logged := h.logged

/-- The one event that was missing from the audit log has been recorded. -/
theorem audited {event : MessageEvent} (h : Live (fun raw e => e = event ∨ V raw e) s w)
    (hV : ∀ raw more e, V raw e → V (raw ++ more) e) (hw : w.AuditGrows w')
    (hevent : V (w'.auditFile.getD []) event) : Live V s w' := by
  obtain ⟨heq, more, hmore⟩ := hw
  have hlogged : ∀ e ∈ w.handled, V (w'.auditFile.getD []) e := by
    intro e he
    rcases h.logged e he with rfl | hold
    · exact hevent
    · rw [hmore]
      exact hV _ _ _ hold
  rw [heq]
  exact ⟨h.cursor, h.nonce, hlogged⟩

end Live

theorem RunInv.saved_of_live {rooms : Set PyStr} {V : Bytes → MessageEvent → Prop}
    {s : AgentState} {w : World} (h : RunInv rooms V w) (hlive : Live V s w) :
    RunInv rooms V (w.saved s) :=
  h.saved hlive.cursor hlive.nonce fun event hevent _ => hlive.logged event hevent

namespace AgentState

theorem cursorFor_congr {s s' : AgentState} (h : s'.cursors = s.cursors) (room : PyStr) :
    s'.cursorFor room = s.cursorFor room := by
  rw [cursorFor, cursorFor, h]

theorem nonceFor_congr {s s' : AgentState} (h : s'.nonces = s.nonces) (room : PyStr) :
    s'.nonceFor room = s.nonceFor room := by
  rw [nonceFor, nonceFor, h]

/-- A nonce that was raised for one room is lower for none. -/
theorem nonceFor_le_set {s : AgentState} {room : PyStr} {n : ℕ} (h : s.nonceFor room ≤ n)
    (other : PyStr) : s.nonceFor other ≤ nonceFor { s with nonces := s.nonces.set room n } other := by
  by_cases hroom : other = room
  · subst hroom
    rw [nonceFor_set_self]
    exact h
  · rw [nonceFor_set_of_ne hroom]

theorem cursorFor_le_set {s : AgentState} {room : PyStr} {n : ℕ} (h : s.cursorFor room ≤ n)
    (other : PyStr) :
    s.cursorFor other ≤ cursorFor { s with cursors := s.cursors.set room n } other := by
  by_cases hroom : other = room
  · subst hroom
    rw [cursorFor_set_self]
    exact h
  · rw [cursorFor_set_of_ne hroom]

end AgentState

/-- Where the journal is empty, an input past the cursor has no reply. -/
theorem RunInv.unanswered {rooms : Set PyStr} {V : Bytes → MessageEvent → Prop} {s : AgentState}
    {w : World} {room : PyStr} {input : ℕ} (h : RunInv rooms V w) (hroom : room ∈ rooms)
    (hlive : Live V s w) (hnone : w.journalDoc = none) (hinput : s.cursorFor room < input) :
    w.Unanswered room input := by
  intro e he envelope hreply
  rcases (h.covered room hroom e he envelope input hreply).held with hle | ⟨record, hrecord, -⟩
  · have := hlive.cursor room
    omega
  · rw [World.Journaled, hnone] at hrecord
    cases hrecord.1

namespace SafeResponder

open Agent Proc

variable [Platform] {rooms : Set PyStr} {V : Bytes → MessageEvent → Prop} {r : SafeResponder}
  {s : AgentState} {w : World}

/-! ## Sending -/

/-- What a send leaves: memory and files as before but for a raised nonce, and the
record of the reply in the journal. -/
structure Sent (V : Bytes → MessageEvent → Prop) (room : PyStr) (input : ℕ)
    (s : AgentState) (w : World) (s' : AgentState) (w' : World) : Prop where
  live : Live V s' w'
  cursors : s'.cursors = s.cursors
  grows : w.Grows w'
  pending : Pending room input s' w'

/-- The request and the acknowledgement, once the journal holds the record. -/
theorem wp_postAndAcknowledge (hrooms : rooms.InjOn DeliveryRecord.sha256)
    (hroom : r.room ∈ rooms) (hjournal : r.deliveryJournal = true) {record : DeliveryRecord}
    (h : RunInv rooms V w) (hlive : Live V s w) (hrecord : w.Journaled r.room record)
    (hunanswered : w.Unanswered r.room record.inputSequence)
    (hnonce : record.nonce ≤ s.nonceFor r.room) :
    Wp World.step (RunInv rooms V)
      (do
        let posted ← postEnvelope r record.envelope record.inputSequence
        acknowledgeDelivery r posted
        return posted)
      (fun _ s' w' => Sent V r.room record.inputSequence s w s' w')
      (fun e _ _ => Native e) s w := by
  rw [wp_bind]
  unfold postEnvelope
  rw [wp_tryCatch]
  -- whatever the transport raises leaves as an uncertain write, or as it is
  have hhandler : ∀ (e : PyErr) {s' : AgentState} {w' : World}, RunInv rooms V w' →
      Wp World.step (RunInv rooms V)
        (if e.isa .transportError || e.isa .responseError then
          throw (uncertainWrite
            "signed write did not return a verifiable acknowledgement; inspect the room before restarting so the command is not answered twice")
        else throw e : Agent RoomMessage)
        (fun posted s' w' => Wp World.step (RunInv rooms V)
          (do acknowledgeDelivery r posted; return posted)
          (fun _ s' w' => Sent V r.room record.inputSequence s w s' w')
          (fun e _ _ => Native e) s' w')
        (fun e _ _ => Native e) s' w' := by
    intro e s' w' hI
    split_ifs with he
    · exact ⟨hI, by simp⟩
    · refine ⟨hI, ?_⟩
      intro hcls
      simp [PyErr.isa, hcls] at he
  refine wp_sendSignedMessage h (fun w' hw' => h.posted hrooms hroom hrecord hunanswered hw')
    (fun posted w' hw' => ?_) (fun e => hhandler e h)
    fun e w' hw' => hhandler e (h.posted hrooms hroom hrecord hunanswered hw')
  -- the room has the message now, and the journal still holds its record
  have h' := h.posted hrooms hroom hrecord hunanswered hw'
  have hlive' := hlive.of_sameProgress hw'.sameProgress
  have hrecord' : w'.Journaled r.room record := ⟨hw'.journalDoc ▸ hrecord.1, hrecord.2⟩
  rw [wp_bind]
  unfold acknowledgeDelivery
  rw [if_pos hjournal, wp_tryCatch, wp_bind]
  have hraise : ∀ {w' : World}, RunInv rooms V w' → ∀ e, Native e →
      Wp World.step (RunInv rooms V)
        (if e.isa .deliveryError then
          throw (uncertainWrite
            "reply was acknowledged but its delivery evidence could not be persisted; run recover-delivery before restarting")
        else throw e : Agent Unit)
        (fun _ s' w' => Wp World.step (RunInv rooms V) (return posted)
          (fun _ s' w' => Sent V r.room record.inputSequence s w s' w')
          (fun e _ _ => Native e) s' w')
        (fun e _ _ => Native e) s w' := by
    intro w' hI e he
    split_ifs
    · exact ⟨hI, by simp⟩
    · exact ⟨hI, he⟩
  refine wp_journal_acknowledge h' (fun loaded acked hloads hacked _ => ?_) (hraise h')
  -- what is acknowledged is the record that was journaled
  obtain ⟨j, hj, hloaded⟩ := hloads
  obtain rfl : record.toPayload = j := by
    rw [hrecord'.1] at hj
    simpa using hj
  obtain rfl := DeliveryRecord.fromPayload_toPayload hloaded
  obtain ⟨hsha, hinput, henvelope, -, -⟩ := DeliveryRecord.acknowledge_ok hacked
  have hI := h'.acknowledged hrooms hroom hrecord' hsha hinput henvelope
  have hsent : Sent V r.room loaded.inputSequence s w s (w'.withJournal (some acked)) :=
    { live := hlive'.of_sameProgress ⟨rfl, rfl, rfl⟩
      cursors := rfl
      grows := hw'.grows
      pending := ⟨acked, ⟨rfl, hsha ▸ hrecord.2⟩, hinput, by
        rw [show acked.nonce = loaded.nonce from congrArg Envelope.nonce henvelope]
        exact hnonce⟩ }
  exact ⟨hI, ⟨hI, hI, hsent⟩, hraise hI⟩

/-- **Sending.**  The reply to an input that the cursor has not reached. -/
theorem wp_sendText (hrooms : rooms.InjOn DeliveryRecord.sha256) (hroom : r.room ∈ rooms)
    (hjournal : r.deliveryJournal = true) {text : PyStr} {input : ℕ} (h : RunInv rooms V w)
    (hlive : Live V s w) (hinput : s.cursorFor r.room < input)
    (hle : input ≤ (w.rooms r.room).length) :
    Wp World.step (RunInv rooms V) (sendText r text input)
      (fun _ s' w' => Sent V r.room input s w s' w') (fun e _ _ => Native e) s w := by
  unfold sendText
  rw [if_pos hjournal, wp_bind]
  refine wp_journal_requireEmpty h (fun hnone => ?_) fun _ he => he
  rw [wp_bind]
  refine wp_inert (fun _ _ hw => hw) h (fun clock => ?_) fun _ he => he
  rw [wp_bind, wp_get]
  refine ⟨h, ?_⟩
  rw [wp_bind]
  refine wp_pureResult (native_nextNonce _ _ _) h (fun p hp => ?_) fun _ he => he
  obtain ⟨nonce, s₁⟩ := p
  obtain ⟨hfresh, -, hs₁⟩ := AgentState.nextNonce_ok hp
  have hnonces : ∀ room, s.nonceFor room ≤ s₁.nonceFor room :=
    hs₁ ▸ AgentState.nonceFor_le_set (le_of_lt hfresh)
  have hcursors : s₁.cursors = s.cursors := by rw [hs₁]
  have hself : s₁.nonceFor r.room = nonce := by rw [hs₁, AgentState.nonceFor_set_self]
  have hlive₁ : Live V s₁ w := hlive.congr ⟨rfl, rfl, rfl⟩
    (fun room => le_of_eq (AgentState.cursorFor_congr hcursors room).symm) hnonces
  dsimp only
  rw [wp_bind, wp_set]
  refine ⟨h, ?_⟩
  rw [wp_bind]
  refine wp_pureResult (native_signRoomMessage _ _ _ _) h (fun p _ => ?_) fun _ he => he
  obtain ⟨swept, signature⟩ := p
  dsimp only
  rw [wp_bind]
  unfold prepareDelivery
  rw [if_pos hjournal, wp_bind]
  refine wp_pureResult (native_create _ _ _) h (fun record hrecord => ?_) fun _ he => he
  obtain ⟨henvelope, hin, -, hsha⟩ := DeliveryRecord.create_ok hrecord
  have hnonce : record.nonce = nonce := congrArg Envelope.nonce henvelope
  -- the cursor has not reached the input and nothing is journaled, so no reply is in the room
  have hunanswered : w.Unanswered r.room record.inputSequence :=
    hin ▸ h.unanswered hroom hlive hnone hinput
  -- the nonce is new: all that was sent is covered by the state, as the journal is empty
  have hprepared : RunInv rooms V (w.withJournal (some record)) := by
    refine h.prepared hrooms hroom hnone hsha (hin ▸ hle) hunanswered fun envelope hsent => ?_
    rw [hnonce]
    rcases h.spent r.room hroom envelope hsent with hold | ⟨record', hrecord', -⟩
    · have := hlive.nonce r.room
      omega
    · rw [World.Journaled, hnone] at hrecord'
      cases hrecord'.1
  refine wp_journal_prepare h (fun _ => hprepared) (fun _ => ?_) (fun _ he => he) fun _ _ he => he
  have hlive₂ : Live V s₁ (w.withJournal (some record)) :=
    hlive₁.of_sameProgress ⟨rfl, rfl, rfl⟩
  have hpost := wp_postAndAcknowledge (r := r) hrooms hroom hjournal hprepared hlive₂ ⟨rfl, hsha⟩
    hunanswered (le_of_eq (hnonce.trans hself.symm))
  rw [henvelope, hin] at hpost
  refine hpost.mono (fun _ s' w' _ hsent => ?_) fun _ _ _ _ he => he
  exact ⟨hsent.live, hsent.cursors.trans hcursors, hsent.grows, hsent.pending⟩

/-! ## Handling a message -/

/-- What handling a message leaves: memory and files as before but for nonces and quota,
and, if a reply was sent, its record in the journal. -/
structure Handled (V : Bytes → MessageEvent → Prop) (room : PyStr) (seq : ℕ) (s : AgentState)
    (w : World) (event : MessageEvent) (s' : AgentState) (w' : World) : Prop where
  live : Live V s' w'
  cursors : s'.cursors = s.cursors
  grows : w.Grows w'
  eventRoom : event.room = room
  eventSeq : event.seq = seq
  pending : event.outcome.isSent = true → Pending room seq s' w'

theorem wp_issueReceipt {pullRequest : PyStr} {Q : Except PyErr PyStr → AgentState → World → Prop}
    {I : World → Prop} {E : PyErr → AgentState → World → Prop} (hI : I w)
    (hQ : ∀ issued, Q issued s w) (hE : ∀ e, Native e → E e s w) :
    Wp World.step I (issueReceipt pullRequest) Q E s w := by
  unfold issueReceipt
  rw [wp_tryCatch, wp_bind]
  refine wp_inert (fun _ _ hw => hw) hI (fun receipt => ⟨hI, hQ _⟩) fun e he => ?_
  split_ifs
  · exact ⟨hI, hQ _⟩
  · exact ⟨hI, hE e he⟩

theorem wp_eventForMessage (hrooms : rooms.InjOn DeliveryRecord.sha256) (hroom : r.room ∈ rooms)
    (hjournal : r.deliveryJournal = true) (hsend : r.send = true) {message : RoomMessage}
    (h : RunInv rooms V w) (hlive : Live V s w) (hinput : s.cursorFor r.room < message.seq)
    (hle : message.seq ≤ (w.rooms r.room).length) :
    Wp World.step (RunInv rooms V) (eventForMessage r message)
      (fun event s' w' => Handled V r.room message.seq s w event s' w')
      (fun e _ _ => Native e) s w := by
  unfold eventForMessage
  rw [wp_bind]
  have hsame : ∀ {s' : AgentState}, Agent.SameProgress s s' → Live V s' w := fun {s'} hs' =>
    hlive.congr ⟨rfl, rfl, rfl⟩
      (fun room => le_of_eq (AgentState.cursorFor_congr hs'.cursors room).symm)
      fun room => le_of_eq (AgentState.nonceFor_congr hs'.nonces room).symm
  -- what follows a decision, in any memory and world that it may leave
  have hanswer : ∀ (d : Decision) (s₁ : AgentState) (w₁ : World), RunInv rooms V w₁ → Live V s₁ w₁ →
      s₁.cursors = s.cursors → w.Grows w₁ →
      Wp World.step (RunInv rooms V)
        (answerDecision r message d)
        (fun event s' w' => Handled V r.room message.seq s w event s' w')
        (fun e _ _ => Native e) s₁ w₁ := by
    intro d s₁ w₁ h₁ hlive₁ hcursors hgrows
    have hquiet : ∀ {event : MessageEvent}, event.room = r.room → event.seq = message.seq →
        event.outcome.isSent = false → Handled V r.room message.seq s w event s₁ w₁ :=
      fun hr hs ho => ⟨hlive₁, hcursors, hgrows, hr, hs, by simp [ho]⟩
    have hsent : ∀ text, Wp World.step (RunInv rooms V) (sendText r text message.seq)
        (fun _ s' w' => ∀ event : MessageEvent, event.room = r.room → event.seq = message.seq →
          Handled V r.room message.seq s w event s' w')
        (fun e _ _ => Native e) s₁ w₁ := fun text => by
      have hcursor := AgentState.cursorFor_congr hcursors r.room
      refine (wp_sendText hrooms hroom hjournal h₁ hlive₁ (hcursor ▸ hinput)
        (le_trans hle (hgrows r.room))).mono (fun _ s' w' _ hs event hr hseq => ?_)
        fun _ _ _ _ he => he
      exact ⟨hs.live, hs.cursors.trans hcursors, hgrows.trans hs.grows, hr, hseq,
        fun _ => hs.pending⟩
    unfold answerDecision
    split
    · unfold replyEvent
      rw [if_neg (by simp [hsend]), wp_bind]
      exact (hsent _).mono (fun posted s' w' hI hs => ⟨hI, hs _ rfl rfl⟩) fun _ _ _ _ he => he
    · unfold receiptEvent
      rw [if_neg (by simp [hsend])]
      by_cases hservice : r.receiptService = true
      case neg =>
        rw [if_pos (by simpa using hservice)]
        exact ⟨h₁, by simp⟩
      rw [if_neg (by simp [hservice]), wp_bind]
      refine wp_issueReceipt h₁ (fun issued => ?_) fun _ he => he
      cases issued with
      | error e => exact ⟨h₁, hquiet rfl rfl rfl⟩
      | ok receipt =>
          dsimp only
          rw [wp_bind]
          refine (hsent _).mono (fun posted s' w' hI hs => ?_) fun _ _ _ _ he => he
          rw [wp_bind]
          exact wp_pureResult (native_sha256 _) hI (fun digest _ => ⟨hI, hs _ rfl rfl⟩)
            fun _ he => he
    · refine ⟨h₁, hquiet rfl rfl ?_⟩
      cases hd : d.action <;> simp [baseEvent, hd, DecisionAction.outcome, Outcome.isSent]
  refine wp_decide h (fun s' hs' => h.saved_of_live (hsame hs')) (fun d _ _ => ?_)
    (fun d s' _ _ _ _ _ _ _ _ _ hgranted _ => ?_) fun _ _ _ he _ => he
  · exact hanswer d s w h hlive rfl (World.Grows.refl w)
  · have hs' := hgranted.reserved.sameProgress
    exact hanswer d s' _ (h.saved_of_live (hsame hs')) (hsame hs').saved hs'.cursors
      (World.Grows.refl w)

/-! ## Persisting -/

theorem wp_appendAuditRecord (hV : Evidence V) {message : RoomMessage} {event : MessageEvent}
    (h : RunInv rooms V w) (hlive : Live (fun raw e => e = event ∨ V raw e) s w)
    (hseq : event.seq = message.seq) :
    Wp World.step (RunInv rooms V) (appendAuditRecord r message event)
      (fun _ s' w' => s' = s ∧ Live V s w' ∧ w.AuditGrows w') (fun e _ _ => Native e) s w := by
  unfold appendAuditRecord
  rw [wp_bind]
  refine wp_pureResult (native_senderFingerprint message) h (fun fingerprint _ => ?_)
    fun _ he => he
  rw [wp_bind]
  refine wp_inert (fun _ _ hw => hw) h (fun now => ?_) fun _ he => he
  rw [wp_bind]
  refine wp_audit_append (fun w' hw' => h.audit hV.grows hw'.grows)
    (fun w' issuer raw rendered hash hw' hissuer hrecord _ hfile => ?_) fun _ _ he _ => he
  refine ⟨h.audit hV.grows hw'.grows, rfl, hlive.audited hV.grows hw'.grows ?_, hw'.grows⟩
  rw [hfile, Option.getD_some]
  exact hV.append _ _ _ _ _ _ _ _ _ _ hissuer hrecord hseq

/-- **Persisting.**  Audit record, cursor, journal, in this order. -/
theorem wp_persistProcessedMessage (hrooms : rooms.InjOn DeliveryRecord.sha256)
    (hroom : r.room ∈ rooms) (hV : Evidence V) (hsend : r.send = true) (haudit : r.auditLog = true)
    {message : RoomMessage} {event : MessageEvent} (h : RunInv rooms V w)
    (hlive : Live (fun raw e => e = event ∨ V raw e) s w) (hseq : event.seq = message.seq)
    (hpending : event.outcome.isSent = true → Pending r.room message.seq s w) :
    Wp World.step (RunInv rooms V) (persistProcessedMessage r message event)
      (fun _ s' w' => Live V s' w' ∧ s'.cursorFor r.room = message.seq ∧ w.Grows w')
      (fun e _ _ => Native e) s w := by
  unfold persistProcessedMessage
  rw [if_pos (by simp [hsend, haudit]), wp_bind]
  refine (wp_appendAuditRecord hV h hlive hseq).mono ?_ fun _ _ _ _ he => he
  rintro - s₁ w₁ h₁ ⟨rfl, hlive₁, hgrows⟩
  have hsame : w₁.rooms = w.rooms ∧ w₁.journalDoc = w.journalDoc := by
    rw [hgrows.1]
    exact ⟨rfl, rfl⟩
  unfold advanceCursor
  rw [wp_bind, wp_bind, wp_get]
  refine ⟨h₁, ?_⟩
  rw [wp_bind]
  refine wp_pureResult (native_advanceCursor _ _ _) h₁ (fun s₂ hs₂ => ?_) fun _ he => he
  -- from here on the audit log has the event, and the cursor passes the message
  obtain ⟨hle, hs₂⟩ := AgentState.advanceCursor_ok hs₂
  rw [wp_set]
  refine ⟨h₁, ?_⟩
  have hcursor : s₂.cursorFor r.room = message.seq := by rw [hs₂, AgentState.cursorFor_set_self]
  have hnonces : s₂.nonces = s₁.nonces := by rw [hs₂]
  have hlive₂ : Live V s₂ w₁ := hlive₁.congr ⟨rfl, rfl, rfl⟩
    (fun room => hs₂ ▸ AgentState.cursorFor_le_set hle room)
    fun room => le_of_eq (AgentState.nonceFor_congr hnonces room).symm
  have h₂ := h₁.saved_of_live hlive₂
  have hdone : ∀ w', w'.rooms = w.rooms → Live V s₂ w' →
      Live V s₂ w' ∧ s₂.cursorFor r.room = message.seq ∧ w.Grows w' :=
    fun w' hw' hlive' => ⟨hlive', hcursor, fun room => by rw [hw']⟩
  rw [if_neg (by simp [hsend]), wp_bind]
  unfold saveProcessed
  rw [wp_tryCatch]
  -- what a failing save raises changes nothing
  have hraise : ∀ {w' : World}, RunInv rooms V w' → ∀ (wrap : PyErr) (c : Bool), Native wrap →
      ∀ {Q : Unit → AgentState → World → Prop} (e : PyErr), Native e →
      Wp World.step (RunInv rooms V) (if c then throw wrap else throw e : Agent Unit) Q
        (fun e _ _ => Native e) s₂ w' := by
    intro w' hI wrap c hwrap Q e he
    split_ifs
    · exact ⟨hI, hwrap⟩
    · exact ⟨hI, he⟩
  refine wp_saveState h₁ h₂ ?_ (fun e he => hraise h₁ _ _ (by simp) e he)
    fun e he => hraise h₂ _ _ (by simp) e he
  unfold clearDelivery
  split_ifs with hclear
  · rw [wp_tryCatch]
    -- a reply was sent: its record goes only now that the saved state covers it
    have hsent : event.outcome.isSent = true := by
      rw [Bool.and_eq_true] at hclear
      exact hclear.1
    obtain ⟨record, hrecord, hinput, hnonce⟩ := hpending hsent
    have hrecord₂ : (w₁.saved s₂).Journaled r.room record := ⟨hsame.2 ▸ hrecord.1, hrecord.2⟩
    have h₃ : RunInv rooms V ((w₁.saved s₂).withJournal none) := by
      refine h₂.cleared fun room' hroom' record' hrecord' => ?_
      obtain ⟨rfl, rfl⟩ := World.Journaled.envelope_eq hrooms hroom' hroom hrecord' hrecord₂
      rw [World.durableCursor_saved, World.durableNonce_saved, hcursor, hinput,
        AgentState.nonceFor_congr hnonces]
      exact ⟨le_rfl, hnonce⟩
    exact wp_journal_clear h₂ h₃ (hdone _ hsame.1 hlive₂.saved)
      (hdone _ hsame.1 (hlive₂.saved.of_sameProgress ⟨rfl, rfl, rfl⟩))
      (fun e he => hraise h₂ _ _ (by simp) e he) fun e he => hraise h₃ _ _ (by simp) e he
  · exact ⟨h₂, hdone _ hsame.1 hlive₂.saved⟩

/-! ## A snapshot -/

/-- What the handling of messages leaves: memory in step with the files, at a cursor. -/
structure Reached (V : Bytes → MessageEvent → Prop) (room : PyStr) (cursor : ℕ) (w : World)
    (s' : AgentState) (w' : World) : Prop where
  live : Live V s' w'
  cursor : s'.cursorFor room = cursor
  grows : w.Grows w'

/-- One message past the cursor, from the decision to the cleared journal. -/
theorem wp_processMessage (hrooms : rooms.InjOn DeliveryRecord.sha256) (hroom : r.room ∈ rooms)
    (hV : Evidence V) (hjournal : r.deliveryJournal = true) (hsend : r.send = true)
    (haudit : r.auditLog = true) {message : RoomMessage} (h : RunInv rooms V w)
    (hlive : Live V s w) (hinput : s.cursorFor r.room < message.seq)
    (hle : message.seq ≤ (w.rooms r.room).length) {α : Type} {k : MessageEvent → Agent α}
    {Q : α → AgentState → World → Prop}
    (hk : ∀ event s' w', RunInv rooms V w' → Reached V r.room message.seq w s' w' →
      Wp World.step (RunInv rooms V) (k event) Q (fun e _ _ => Native e) s' w') :
    Wp World.step (RunInv rooms V)
      (do
        let event ← eventForMessage r message
        perform (.handling event)
        persistProcessedMessage r message event
        k event) Q (fun e _ _ => Native e) s w := by
  rw [wp_bind]
  refine (wp_eventForMessage hrooms hroom hjournal hsend h hlive hinput hle).mono
    (fun event s₁ w₁ h₁ hhandled => ?_) fun _ _ _ _ he => he
  rw [wp_bind, wp_call]
  refine ⟨h₁, fun result w₂ hstep => ?_⟩
  obtain ⟨rfl, rfl⟩ := hstep.1
  -- the durable cursor has not reached the message
  have hahead : w₁.durableCursor event.room < event.seq := by
    rw [hhandled.eventRoom, hhandled.eventSeq]
    refine lt_of_le_of_lt (hhandled.live.cursor r.room) ?_
    rw [AgentState.cursorFor_congr hhandled.cursors]
    exact hinput
  have h₂ : RunInv rooms V { w₁ with handled := w₁.handled ++ [event] } := by
    refine h₁.history fun e he => ?_
    rcases List.mem_append.mp he with hold | hnew
    · exact Or.inl hold
    · rw [List.mem_singleton.mp hnew]
      exact Or.inr hahead
  have hlive₂ : Live (fun raw e => e = event ∨ V raw e) s₁
      { w₁ with handled := w₁.handled ++ [event] } := by
    refine ⟨hhandled.live.cursor, hhandled.live.nonce, fun e he => ?_⟩
    rcases List.mem_append.mp he with hold | hnew
    · exact Or.inr (hhandled.live.logged e hold)
    · exact Or.inl (List.mem_singleton.mp hnew)
  refine ⟨h₂, ?_⟩
  dsimp only
  rw [wp_bind]
  refine (wp_persistProcessedMessage hrooms hroom hV hsend haudit h₂ hlive₂ hhandled.eventSeq
    hhandled.pending).mono ?_ fun _ _ _ _ he => he
  rintro - s₃ w₃ h₃ ⟨hlive₃, hcursor₃, hgrows₃⟩
  exact hk event s₃ w₃ h₃ ⟨hlive₃, hcursor₃, hhandled.grows.trans hgrows₃⟩

/-- The loop over the messages, by induction on what is left of them. -/
theorem wp_processMessages (hrooms : rooms.InjOn DeliveryRecord.sha256) (hroom : r.room ∈ rooms)
    (hV : Evidence V) (hjournal : r.deliveryJournal = true) (hsend : r.send = true)
    (haudit : r.auditLog = true) (messages : List RoomMessage) {cursor : ℕ} {handled : Bool}
    (h : RunInv rooms V w) (hlive : Live V s w) (hcursor : s.cursorFor r.room = cursor)
    (hmessages : ∀ m ∈ messages, m.seq ≤ (w.rooms r.room).length) :
    Wp World.step (RunInv rooms V) (processMessages r messages cursor handled)
      (fun result s' w' => Reached V r.room result.2.1 w s' w') (fun e _ _ => Native e) s w := by
  induction messages generalizing cursor handled s w with
  | nil => exact ⟨h, hlive, hcursor, World.Grows.refl w⟩
  | cons message rest ih =>
      rw [processMessages]
      split_ifs with hseen
      · exact ih h hlive hcursor fun m hm => hmessages m (List.mem_cons_of_mem _ hm)
      refine wp_processMessage hrooms hroom hV hjournal hsend haudit h hlive (by omega)
        (hmessages message List.mem_cons_self) fun event s' w' h' hreached => ?_
      rw [wp_bind]
      have hlater : ∀ m ∈ rest, m.seq ≤ (w'.rooms r.room).length := fun m hm =>
        le_trans (hmessages m (List.mem_cons_of_mem _ hm)) (hreached.grows r.room)
      refine (ih h' hreached.live hreached.cursor hlater).mono ?_ fun _ _ _ _ he => he
      rintro ⟨events, reached, any⟩ s₂ w₂ h₂ hrest
      exact ⟨h₂, hrest.live, hrest.cursor, hreached.grows.trans hrest.grows⟩

/-- Memory after its cursor was moved on. -/
theorem wp_advanceCursor {room : PyStr} {sequence : ℕ} {Q : Unit → AgentState → World → Prop}
    {I : World → Prop} {E : PyErr → AgentState → World → Prop} (hI : I w)
    (hQ : ∀ s', Live V s w → Live V s' w → s'.cursorFor room = sequence → Q () s' w)
    (hlive : Live V s w) (hE : ∀ e, Native e → E e s w) :
    Wp World.step I (advanceCursor room sequence) Q E s w := by
  unfold advanceCursor
  rw [wp_bind, wp_get]
  refine ⟨hI, ?_⟩
  rw [wp_bind]
  refine wp_pureResult (native_advanceCursor _ _ _) hI (fun s' hs' => ?_) hE
  obtain ⟨hle, hs'⟩ := AgentState.advanceCursor_ok hs'
  rw [wp_set]
  refine ⟨hI, hQ s' hlive (hlive.congr ⟨rfl, rfl, rfl⟩ (fun other => ?_) fun other => ?_) ?_⟩
  · rw [hs']
    exact AgentState.cursorFor_le_set hle other
  · rw [hs']
    exact le_rfl
  · rw [hs', AgentState.cursorFor_set_self]

/-- Saving a memory that is in step with the files. -/
theorem wp_saveLive {Q : Unit → AgentState → World → Prop} (h : RunInv rooms V w)
    (hlive : Live V s w) (hQ : Live V s (w.saved s) → Q () s (w.saved s)) :
    Wp World.step (RunInv rooms V) saveState Q (fun e _ _ => Native e) s w :=
  wp_saveState h (h.saved_of_live hlive) (hQ hlive.saved) (fun _ he => he) fun _ he => he

theorem wp_skipUnavailable (hsend : r.send = true) {cursor lastSeq : ℕ} {handled : Bool}
    (h : RunInv rooms V w) (hlive : Live V s w) :
    Wp World.step (RunInv rooms V) (skipUnavailable r cursor lastSeq handled)
      (fun _ s' w' => Live V s' w') (fun e _ _ => Native e) s w := by
  unfold skipUnavailable
  split_ifs
  · rw [wp_bind]
    refine wp_advanceCursor h (fun s' _ hlive' _ => ?_) hlive fun _ he => he
    rw [wp_bind]
    exact wp_saveLive h hlive' fun hsaved => ⟨h.saved_of_live hlive', hsaved⟩
  · exact ⟨h, hlive⟩

omit [Platform] in
/-- The messages of a faithful snapshot are in the room. -/
theorem seq_le_of_faithful {room : PyStr} {since limit : ℕ} {snapshot : RoomSnapshot}
    (hnumbered : (w.rooms room).map (fun e => e.message.seq) =
      List.range' 1 (w.rooms room).length)
    (hfaithful : Faithful (w.rooms room) since limit snapshot) :
    ∀ m ∈ snapshot.messages, m.seq ≤ (w.rooms room).length := by
  intro m hm
  rw [hfaithful.messages] at hm
  obtain ⟨e, he, rfl⟩ := List.mem_map.mp hm
  have hin : e ∈ w.rooms room := List.mem_of_mem_filter (List.mem_of_mem_drop he)
  have hseq : e.message.seq ∈ (w.rooms room).map fun e => e.message.seq :=
    List.mem_map.mpr ⟨e, hin, rfl⟩
  rw [hnumbered, List.mem_range'_1] at hseq
  omega

/-- **A snapshot.** -/
theorem wp_processSnapshot (hrooms : rooms.InjOn DeliveryRecord.sha256) (hroom : r.room ∈ rooms)
    (hV : Evidence V) (hjournal : r.deliveryJournal = true) (hsend : r.send = true)
    (haudit : r.auditLog = true) {snapshot : RoomSnapshot} (h : RunInv rooms V w)
    (hlive : Live V s w) (hmessages : ∀ m ∈ snapshot.messages, m.seq ≤ (w.rooms r.room).length) :
    Wp World.step (RunInv rooms V) (processSnapshot r snapshot)
      (fun _ s' w' => Live V s' w') (fun e _ _ => Native e) s w := by
  unfold processSnapshot
  split_ifs
  · exact ⟨h, by simp⟩
  rw [wp_bind, wp_get]
  refine ⟨h, ?_⟩
  unfold observeSnapshotGeneration
  rw [wp_bind, wp_bind, wp_get]
  refine ⟨h, ?_⟩
  cases hgeneration : s.observeGeneration r.room snapshot.generation with
  | error e => exact ⟨h, by simp⟩
  | ok p =>
      obtain ⟨grew, s₁⟩ := p
      have hs₁ := AgentState.observeGeneration_ok hgeneration
      have hlive₁ : Live V s₁ w := hlive.congr ⟨rfl, rfl, rfl⟩ (fun _ => hs₁ ▸ le_rfl)
        fun _ => hs₁ ▸ le_rfl
      dsimp only
      rw [wp_bind, wp_set]
      refine ⟨h, h, ?_⟩
      dsimp only
      rw [wp_bind, wp_get]
      refine ⟨h, ?_⟩
      rw [wp_bind]
      refine (wp_processMessages hrooms hroom hV hjournal hsend haudit _ h hlive₁ rfl
        hmessages).mono ?_ fun _ _ _ _ he => he
      rintro ⟨events, reached, handled⟩ s₂ w₂ h₂ hreached
      dsimp only
      rw [wp_bind]
      refine (wp_skipUnavailable hsend h₂ hreached.live).mono (fun skipped s₃ w₃ h₃ hlive₃ => ?_)
        fun _ _ _ _ he => he
      -- at the end the state is saved, or it was with the last message
      have hsave : ∀ events : List Event, Wp World.step (RunInv rooms V)
          (do saveState; return events) (fun _ s' w' => Live V s' w') (fun e _ _ => Native e)
          s₃ w₃ := fun events => by
        rw [wp_bind]
        exact wp_saveLive h₃ hlive₃ fun hsaved => ⟨h₃.saved_of_live hlive₃, hsaved⟩
      have hkeep : ∀ events : List Event, Wp World.step (RunInv rooms V) (return events)
          (fun _ s' w' => Live V s' w') (fun e _ _ => Native e) s₃ w₃ :=
        fun events => ⟨h₃, hlive₃⟩
      by_cases hpersist : (r.send && ((s.generationFor r.room).isNone || grew) &&
          !(r.send && (handled || !skipped.isEmpty))) = true
      · rw [if_pos hpersist]
        exact hsave _
      · rw [if_neg hpersist]
        exact hkeep _

end SafeResponder
