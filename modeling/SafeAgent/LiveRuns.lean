/-
# Live processes keep the invariant

The poll loop, the recovery, and the two live commands; from these, every run.

* `wp_poll`, `wp_runLive`                        : `run --send`;
* `page_eq_of_complete`, `unanswered_of_notFound`: what a complete history proves;
* `wp_recoverDelivery`, `wp_recoverLive`         : `recover-delivery`;
* `runInv_of_run`                                : every world of every run.
-/
import SafeAgent.Session

open PyText

/-! ## The poll loop -/

namespace Cli

open Agent Proc SafeResponder

variable [Platform] {rooms : Set PyStr} {V : Bytes → MessageEvent → Prop} {r : SafeResponder}
  {args : RunArgs} {s : AgentState} {w : World}

/-- A responder of `run --send` in one of the rooms. -/
structure IsLive (rooms : Set PyStr) (r : SafeResponder) : Prop where
  room : r.room ∈ rooms
  journal : r.deliveryJournal = true
  audit : r.auditLog = true
  send : r.send = true

theorem wp_printEvents {I : World → Prop} {Q : Unit → AgentState → World → Prop}
    {E : PyErr → AgentState → World → Prop} (events : List Event) (hI : I w) (hQ : Q () s w)
    (hE : ∀ e, Native e → E e s w) :
    Wp World.step I (printEvents events) Q E s w := by
  induction events with
  | nil => exact ⟨hI, hQ⟩
  | cons event rest ih =>
      rw [printEvents, wp_bind]
      exact wp_inert (fun _ _ hw => hw) hI (fun _ => ih) hE

/-- **One poll.**  A failed read leaves the process as it was. -/
theorem wp_pollOnce (hrooms : rooms.InjOn DeliveryRecord.sha256) (hV : Evidence V)
    (hr : IsLive rooms r) (hargs : args.room = r.room) {cacheBuster : ℕ} (h : RunInv rooms V w)
    (hlive : Live V s w) :
    Wp World.step (RunInv rooms V) (pollOnce r args cacheBuster)
      (fun _ s' w' => Live V s' w') (fun _ _ _ => True) s w := by
  unfold pollOnce
  rw [wp_tryCatch, wp_bind, wp_get]
  refine ⟨h, ?_⟩
  rw [wp_bind]
  -- a read may raise anything; what follows it never raises a `TransportError`
  have hnative : ∀ (e : PyErr) {s' : AgentState} {w' : World}, RunInv rooms V w' → Native e →
      Wp World.step (RunInv rooms V)
        (if e.isa .transportError && !args.once then
          perform (.printEvent (.readRetry args.room e.retryAfter e.status))
        else throw e) (fun _ s' w' => Live V s' w') (fun _ _ _ => True) s' w' := by
    intro e s' w' hI he
    rw [if_neg (by simp [he.not_isa])]
    exact ⟨hI, trivial⟩
  refine wp_readRoom (fun w' hw' => h.others hw') (fun snapshot w' hw' hfaithful _ _ => ?_)
    fun e w' hw' => ?_
  · have h' := h.others hw'
    have hlive' := hlive.of_sameProgress hw'.sameProgress
    split_ifs
    · exact ⟨h', hnative _ h' (by simp)⟩
    rw [wp_bind]
    refine (wp_processSnapshot hrooms hr.room hV hr.journal hr.send hr.audit h' hlive'
      (hargs ▸ seq_le_of_faithful (h'.numbered _ (hargs ▸ hr.room)) hfaithful)).mono
      (fun events s₁ w₁ h₁ hlive₁ => ?_) fun e _ _ hI he => hnative e hI he
    exact wp_printEvents events h₁ hlive₁ fun e he => hnative e h₁ he
  · have h' := h.others hw'
    have hlive' := hlive.of_sameProgress hw'.sameProgress
    split_ifs
    · exact wp_inert (fun _ _ hw => hw) h' (fun _ => hlive') fun _ _ => trivial
    · exact ⟨h', trivial⟩

/-- **Any number of polls**, by induction on that number. -/
theorem wp_poll (hrooms : rooms.InjOn DeliveryRecord.sha256) (hV : Evidence V)
    (hr : IsLive rooms r) (hargs : args.room = r.room) (passes : ℕ) {cacheBuster : ℕ}
    (h : RunInv rooms V w) (hlive : Live V s w) :
    Wp World.step (RunInv rooms V) (poll r args passes cacheBuster)
      (fun _ _ _ => True) (fun _ _ _ => True) s w := by
  induction passes generalizing cacheBuster s w with
  | zero => exact ⟨h, trivial⟩
  | succ passes ih =>
      rw [poll, wp_bind]
      refine (wp_pollOnce hrooms hV hr hargs h hlive).mono (fun _ s' w' h' hlive' => ?_)
        fun _ _ _ _ _ => trivial
      split_ifs
      · exact ⟨h', trivial⟩
      · exact ih h' hlive'

/-! ## The live commands -/

theorem wp_bootstrapLatest (hr : IsLive rooms r) (h : RunInv rooms V w) (hlive : Live V s w) :
    Wp World.step (RunInv rooms V) (bootstrapLatest r) (fun _ s' w' => Live V s' w')
      (fun _ _ _ => True) s w := by
  unfold bootstrapLatest
  rw [wp_bind]
  refine wp_readRoom (fun w' hw' => h.others hw') (fun snapshot w' hw' _ _ _ => ?_)
    fun _ _ _ => trivial
  have h' := h.others hw'
  have hlive' := hlive.of_sameProgress hw'.sameProgress
  rw [wp_bind, wp_get]
  refine ⟨h', ?_⟩
  rw [wp_bind, wp_ofExcept]
  refine ⟨h', ?_⟩
  cases hgeneration : s.observeGeneration r.room snapshot.generation with
  | error e => exact trivial
  | ok p =>
      obtain ⟨grew, s₁⟩ := p
      have hs₁ := AgentState.observeGeneration_ok hgeneration
      have hlive₁ : Live V s₁ w' := hlive'.congr ⟨rfl, rfl, rfl⟩ (fun _ => hs₁ ▸ le_rfl)
        fun _ => hs₁ ▸ le_rfl
      dsimp only
      rw [wp_bind, wp_set]
      refine ⟨h', ?_⟩
      rw [wp_bind]
      refine wp_advanceCursor h' (fun s₂ _ hlive₂ _ => ?_) hlive₁ fun _ _ => trivial
      rw [if_pos hr.send, wp_bind]
      refine (wp_saveLive h' hlive₂ fun hsaved => ?_).mono (fun _ _ _ _ hq => hq)
        fun _ _ _ _ _ => trivial
      exact ⟨h'.saved_of_live hlive₂, hsaved⟩

theorem wp_initializeCursor (hr : IsLive rooms r) (h : RunInv rooms V w) (hlive : Live V s w) :
    Wp World.step (RunInv rooms V) (initializeCursor r args) (fun _ s' w' => Live V s' w')
      (fun _ _ _ => True) s w := by
  unfold initializeCursor
  rw [wp_bind, wp_get]
  refine ⟨h, ?_⟩
  split
  · exact ⟨h, hlive⟩
  · exact ⟨h, trivial⟩
  · rw [wp_bind]
    refine (wp_bootstrapLatest hr h hlive).mono (fun event s' w' h' hlive' => ?_)
      fun _ _ _ _ _ => trivial
    rw [wp_bind]
    exact wp_inert (fun _ _ hw => hw) h' (fun _ => ⟨h', hlive'⟩) fun _ _ => trivial
  · exact ⟨h, hlive⟩

theorem wp_commandPolicy {ownDid : PyStr} {flags : SenderFlags} (h : RunInv rooms V w)
    (hlive : Live V s w) :
    Wp World.step (RunInv rooms V) (commandPolicy ownDid flags)
      (fun _ s' w' => RunInv rooms V w' ∧ Live V s' w') (fun _ _ _ => True) s w := by
  cases flags with
  | capabilityPolicy =>
      rw [commandPolicy, wp_bind]
      exact wp_loadPolicy h (fun _ _ => ⟨h, h, hlive⟩) fun _ _ => trivial
  | legacy allowDid allowAnySigned =>
      rw [commandPolicy, wp_bind, wp_ofExcept]
      refine ⟨h, ?_⟩
      cases validateDids allowDid with
      | error e => exact trivial
      | ok allowed =>
          dsimp only
          split_ifs
          · exact ⟨h, trivial⟩
          · exact ⟨h, h, hlive⟩

theorem wp_liveArtifacts {did : PyStr} (h : RunInv rooms V w) (hlive : Live V s w) :
    Wp World.step (RunInv rooms V) (liveArtifacts did)
      (fun _ s' w' => RunInv rooms V w' ∧ Live V s' w') (fun _ _ _ => True) s w := by
  unfold liveArtifacts
  rw [wp_bind]
  refine wp_journal_requireEmpty h (fun _ => ?_) fun _ _ => trivial
  rw [wp_bind]
  refine wp_read (fun _ _ hw => hw.1) h (fun present _ => ?_) fun _ _ => trivial
  split_ifs
  · rw [wp_bind]
    refine wp_audit_verify h (fun summary => ?_) fun _ _ => trivial
    split_ifs
    · exact ⟨h, trivial⟩
    · exact ⟨h, h, hlive⟩
  · exact ⟨h, h, hlive⟩

/-- Starting a process drops what an earlier one left unfinished; what is loaded is not
behind the file. -/
theorem wp_startAndLoad (h : RunInv rooms V w) {α : Type} {k : AgentState → Agent α}
    {Q : α → AgentState → World → Prop}
    (hk : ∀ loaded w', RunInv rooms V w' → Live V loaded w' →
      Wp World.step (RunInv rooms V) (k loaded) Q (fun _ _ _ => True) s w') :
    Wp World.step (RunInv rooms V)
      (do
        perform .startProcess
        let loaded ← loadState
        k loaded) Q (fun _ _ _ => True) s w := by
  rw [wp_bind, wp_call]
  refine ⟨h, fun result w' hstep => ?_⟩
  obtain ⟨rfl, rfl⟩ := hstep.1
  have h' : RunInv rooms V
      { w with handled := w.handled.filter fun e => e.seq ≤ w.durableCursor e.room } :=
    h.history fun event hevent => Or.inl (List.mem_of_mem_filter hevent)
  have hlogged : ∀ event ∈ w.handled.filter fun e => e.seq ≤ w.durableCursor e.room,
      V (w.auditFile.getD []) event := by
    intro event hevent
    rw [List.mem_filter, decide_eq_true_eq] at hevent
    exact h.audited event hevent.1 hevent.2
  refine ⟨h', ?_⟩
  dsimp only
  rw [wp_bind]
  refine wp_loadState h' (fun hnone => hk _ _ h' ⟨fun room => ?_, fun room => ?_, hlogged⟩)
    (fun j loaded hj hloaded => hk _ _ h' ⟨fun room => ?_, fun room => ?_, hlogged⟩)
    fun _ => trivial
  · rw [World.durableCursor, hnone]
    exact Nat.zero_le _
  · rw [World.durableNonce, hnone]
    exact Nat.zero_le _
  · exact le_of_eq (h'.readable j loaded hj hloaded room).1.symm
  · exact le_of_eq (h'.readable j loaded hj hloaded room).2.symm

/-- **`run --send` keeps the invariant.** -/
theorem wp_runLive (hrooms : rooms.InjOn DeliveryRecord.sha256) (hV : Evidence V)
    (identity : Identity) (hargs : args.room ∈ rooms) (polls : ℕ) (h : RunInv rooms V w) :
    Wp World.step (RunInv rooms V) (runLive identity args polls) (fun _ _ _ => True)
      (fun _ _ _ => True) s w := by
  unfold runLive
  refine wp_startAndLoad h fun loaded w' h' hlive' => ?_
  rw [wp_bind, wp_set]
  refine ⟨h', ?_⟩
  rw [wp_bind]
  refine (wp_commandPolicy h' hlive').mono (fun policy s₁ w₁ _ ⟨h₁, hlive₁⟩ => ?_)
    fun _ _ _ _ _ => trivial
  rw [wp_bind]
  refine (wp_liveArtifacts h₁ hlive₁).mono (fun _ s₂ w₂ _ ⟨h₂, hlive₂⟩ => ?_)
    fun _ _ _ _ _ => trivial
  have hr : IsLive rooms (liveResponder identity args policy) := ⟨hargs, rfl, rfl, rfl⟩
  rw [wp_bind]
  refine (wp_initializeCursor hr h₂ hlive₂).mono (fun done s₃ w₃ h₃ hlive₃ => ?_)
    fun _ _ _ _ _ => trivial
  split_ifs
  · exact ⟨h₃, trivial⟩
  · exact wp_poll hrooms hV hr rfl polls h₃ hlive₃

end Cli

/-! ## Recovery -/

namespace Recovery

open Agent Proc

variable [Platform] {rooms : Set PyStr} {V : Bytes → MessageEvent → Prop} {room : PyStr}
  {record : DeliveryRecord} {s : AgentState} {w : World}

/-- A rule for a handler that raises whatever happens. -/
theorem wp_rethrowAny {α : Type} {I : World → Prop} {m : Agent α} {c : PyErr → Bool}
    {wrap : PyErr} {Q : α → AgentState → World → Prop}
    (hm : Wp World.step I m Q (fun _ _ _ => True) s w) :
    Wp World.step I (tryCatch m fun e => if c e then throw wrap else throw e) Q
      (fun _ _ _ => True) s w := by
  rw [wp_tryCatch]
  refine hm.mono (fun _ _ _ _ hq => hq) fun e _ _ hI _ => ?_
  split_ifs <;> exact ⟨hI, trivial⟩

/-- Cursor and nonce are moved past the record, and saved. -/
theorem wp_persistRecoveredState (h : RunInv rooms V w) (hlive : Live V s w)
    {Q : Unit → AgentState → World → Prop}
    (hQ : ∀ s', RunInv rooms V (w.saved s') → record.inputSequence ≤ s'.cursorFor room →
      record.nonce ≤ s'.nonceFor room → Q () s' (w.saved s')) :
    Wp World.step (RunInv rooms V) (persistRecoveredState room record) Q
      (fun _ _ _ => True) s w := by
  unfold persistRecoveredState
  rw [wp_bind, wp_modify]
  refine ⟨h, ?_⟩
  have hle : s.nonceFor room ≤ max (s.nonceFor room) record.nonce := le_max_left _ _
  have hlive₁ : Live V (s.observeNonce room record.nonce) w :=
    hlive.congr ⟨rfl, rfl, rfl⟩ (fun _ => le_rfl) (AgentState.nonceFor_le_set hle)
  have hnonce : record.nonce ≤ (s.observeNonce room record.nonce).nonceFor room := by
    rw [AgentState.observeNonce, AgentState.nonceFor_set_self]
    exact le_max_right _ _
  rw [wp_bind, wp_get]
  refine ⟨h, ?_⟩
  unfold SafeResponder.advanceCursor
  rw [wp_bind, wp_bind, wp_get]
  refine ⟨h, ?_⟩
  rw [wp_bind]
  refine wp_pureResult (native_advanceCursor _ _ _) h (fun s₂ hs₂ => ?_) fun _ _ => trivial
  obtain ⟨hcursor, hs₂⟩ := AgentState.advanceCursor_ok hs₂
  rw [wp_set]
  refine ⟨h, ?_⟩
  have hlive₂ : Live V s₂ w := hlive₁.congr ⟨rfl, rfl, rfl⟩
    (fun other => hs₂ ▸ AgentState.cursorFor_le_set hcursor other) fun other => hs₂ ▸ le_rfl
  have h₂ := h.saved_of_live hlive₂
  refine wp_saveState h h₂ (hQ s₂ h₂ ?_ ?_) (fun _ _ => trivial) fun _ _ => trivial
  · rw [hs₂, AgentState.cursorFor_set_self]
    exact le_max_right _ _
  · rw [hs₂]
    exact hnonce

/-- **Finishing a recovery.**  Acknowledge, save, clear, in this order. -/
theorem wp_finalizeRecovery (hrooms : rooms.InjOn DeliveryRecord.sha256) (hroom : room ∈ rooms)
    {n : ℕ} {message : String} (h : RunInv rooms V w) (hlive : Live V s w)
    (hrecord : w.Journaled room record) :
    Wp World.step (RunInv rooms V) (finalizeRecovery room record n message)
      (fun _ _ _ => True) (fun _ _ _ => True) s w := by
  refine wp_rethrowAny ?_
  rw [wp_bind]
  refine wp_journal_acknowledge h (fun loaded acked hloads hacked _ => ?_) fun _ _ => trivial
  obtain ⟨j, hj, hloaded⟩ := hloads
  obtain rfl : record.toPayload = j := by
    rw [hrecord.1] at hj
    simpa using hj
  obtain rfl := DeliveryRecord.fromPayload_toPayload hloaded
  obtain ⟨hsha, hinput, henvelope, -, -⟩ := DeliveryRecord.acknowledge_ok hacked
  have h₁ := h.acknowledged hrooms hroom hrecord hsha hinput henvelope
  refine ⟨h₁, ?_, fun _ _ => trivial⟩
  rw [wp_bind]
  refine wp_persistRecoveredState h₁ (hlive.of_sameProgress ⟨rfl, rfl, rfl⟩)
    fun s' h₂ hcursor hnonce => ?_
  have hacked₂ : ((w.withJournal (some acked)).saved s').Journaled room acked :=
    ⟨rfl, hsha ▸ hrecord.2⟩
  have h₃ : RunInv rooms V (((w.withJournal (some acked)).saved s').withJournal none) := by
    refine h₂.cleared fun room' hroom' record' hrecord' => ?_
    obtain ⟨rfl, rfl⟩ := World.Journaled.envelope_eq hrooms hroom' hroom hrecord' hacked₂
    rw [World.durableCursor_saved, World.durableNonce_saved, hinput,
      show record'.nonce = loaded.nonce from congrArg Envelope.nonce henvelope]
    exact ⟨hcursor, hnonce⟩
  exact wp_journal_clear h₂ h₃ trivial trivial (fun _ _ => trivial) fun _ _ => trivial

omit [Platform] in
/-- A complete history has no record that the page leaves out. -/
theorem page_eq_of_complete {log : List LogEntry} {input limit : ℕ} {snapshot : RoomSnapshot}
    (hnumbered : log.map (fun e => e.message.seq) = List.range' 1 log.length)
    (hlimit : 1 ≤ limit) (hfaithful : Faithful log input limit snapshot)
    (hcomplete : isCompleteHistory snapshot input = true) :
    World.page log input limit = log.filter fun e => input < e.message.seq := by
  set after := log.filter fun e => input < e.message.seq with hafter
  have hpage : World.page log input limit = after.drop (after.length - limit) := rfl
  have hsorted : (after.map fun e => e.message.seq).Pairwise (· < ·) := by
    refine List.Pairwise.sublist (List.Sublist.map _ List.filter_sublist) ?_
    rw [hnumbered]
    exact List.pairwise_lt_range'
  have hmessages := hfaithful.messages
  rw [hpage] at hmessages ⊢
  have hsplit := List.take_append_drop (after.length - limit) after
  -- the page is the end of what is after the input, so nothing may stand before it
  suffices hnil : after.take (after.length - limit) = [] by
    rw [hnil, List.nil_append] at hsplit
    exact hsplit
  unfold isCompleteHistory at hcomplete
  split_ifs at hcomplete with hempty hincomplete
  · have hdrop : after.drop (after.length - limit) = [] := by
      rw [hempty.2, eq_comm, List.map_eq_nil_iff] at hmessages
      exact hmessages
    have hlength := congrArg List.length hdrop
    rw [List.length_drop, List.length_nil] at hlength
    have hzero : after.length - limit = 0 := by omega
    rw [hzero, List.take_zero]
  · rw [decide_eq_true_eq] at hcomplete
    push Not at hincomplete
    cases hdrop : after.drop (after.length - limit) with
    | nil =>
        rw [hdrop, List.map_nil] at hmessages
        exact absurd hmessages hincomplete.1
    | cons first rest =>
        -- the page begins right after the input
        have hfirst : first.message.seq = input + 1 := by
          have hseqs := hcomplete.2
          rw [hmessages, hdrop] at hseqs
          cases hn : snapshot.lastSeq - input with
          | zero => simp [hn] at hseqs
          | succ n =>
              rw [hn, List.range'_succ] at hseqs
              simpa using (List.cons.inj hseqs).1
        rw [List.eq_nil_iff_forall_not_mem]
        intro e he
        rw [← hsplit, hdrop, List.map_append, List.pairwise_append] at hsorted
        have hlt := hsorted.2.2 e.message.seq (List.mem_map.mpr ⟨e, he, rfl⟩)
          first.message.seq (by simp)
        have hin : e ∈ after := List.mem_of_mem_take he
        rw [hafter, List.mem_filter, decide_eq_true_eq] at hin
        omega

omit [Platform] in
/-- **Absence is proved.**  Where the history is complete and no record of it matches, the
input of the journal's record has no reply. -/
theorem unanswered_of_notFound (h : RunInv rooms V w) (hroom : room ∈ rooms)
    (hrecord : w.Journaled room record) {limit : ℕ} {snapshot : RoomSnapshot} (hlimit : 1 ≤ limit)
    (hfaithful : Faithful (w.rooms room) record.inputSequence limit snapshot)
    (hcomplete : isCompleteHistory snapshot record.inputSequence = true)
    (hfound : snapshot.messages.filter record.matchesMessage = []) :
    w.Unanswered room record.inputSequence := by
  intro e he envelope hreply
  have hc := h.covered room hroom e he envelope record.inputSequence hreply
  obtain rfl := hc.exact record hrecord rfl
  have hin : e.message ∈ snapshot.messages := by
    rw [hfaithful.messages,
      page_eq_of_complete (h.numbered room hroom) hlimit hfaithful hcomplete]
    exact List.mem_map.mpr ⟨e, List.mem_filter.mpr ⟨he, by simpa using hc.after⟩, rfl⟩
  have hmatch : record.matchesMessage e.message = true := by
    rw [DeliveryRecord.matchesMessage, decide_eq_true_eq]
    exact hc.shown
  exact List.filter_eq_nil_iff.mp hfound e.message hin hmatch

variable {client : TechnocoreClient}

theorem wp_recoverPending (hrooms : rooms.InjOn DeliveryRecord.sha256) (hroom : room ∈ rooms)
    (h : RunInv rooms V w) (hlive : Live V s w) (hrecord : w.Journaled room record)
    {snapshot : RoomSnapshot} {limit : ℕ} (hlimit : 1 ≤ limit)
    (hfaithful : Faithful (w.rooms room) record.inputSequence limit snapshot)
    {apply confirmRetry : Bool} :
    Wp World.step (RunInv rooms V)
      (recoverPending room record snapshot client apply confirmRetry)
      (fun _ _ _ => True) (fun _ _ _ => True) s w := by
  have hfinish : ∀ {n : ℕ} {message : String} {report : RecoveryReport} {s' : AgentState}
      {w' : World}, RunInv rooms V w' → Live V s' w' → w'.Journaled room record →
      Wp World.step (RunInv rooms V)
        (do finalizeRecovery room record n message; return report)
        (fun _ _ _ => True) (fun _ _ _ => True) s' w' := by
    intro n message report s' w' h' hlive' hrecord'
    rw [wp_bind]
    exact (wp_finalizeRecovery hrooms hroom h' hlive' hrecord').mono
      (fun _ _ _ hI _ => ⟨hI, trivial⟩) fun _ _ _ _ _ => trivial
  unfold recoverPending
  dsimp only
  by_cases hcomplete : isCompleteHistory snapshot record.inputSequence = true
  case neg =>
    rw [if_pos hcomplete]
    exact ⟨h, trivial⟩
  rw [if_neg (not_not.mpr hcomplete)]
  split
  · rename_i hfound
    -- a complete history without the reply: the room has none, and posting it makes one
    have hunanswered := unanswered_of_notFound h hroom hrecord hlimit hfaithful hcomplete hfound
    by_cases hflags : (apply && confirmRetry) = true
    case neg =>
      rw [if_pos hflags]
      exact ⟨h, trivial⟩
    rw [if_neg (not_not.mpr hflags), wp_bind]
    refine wp_rethrowAny (c := fun e => e.isa .transportError || e.isa .responseError) ?_
    refine wp_sendSignedMessage h (fun w' hw' => h.posted hrooms hroom hrecord hunanswered hw')
      (fun posted w' hw' => ?_) (fun _ => trivial) fun _ _ _ => trivial
    exact hfinish (h.posted hrooms hroom hrecord hunanswered hw')
      (hlive.of_sameProgress hw'.sameProgress) ⟨hw'.journalDoc ▸ hrecord.1, hrecord.2⟩
  · -- the reply was found: it is only recorded
    by_cases happly : apply = true
    case neg =>
      rw [if_pos happly]
      exact ⟨h, trivial⟩
    rw [if_neg (not_not.mpr happly)]
    exact hfinish h hlive hrecord
  · exact ⟨h, trivial⟩

/-- **`recover_delivery`.** -/
theorem wp_recoverDelivery (hrooms : rooms.InjOn DeliveryRecord.sha256) (hroom : room ∈ rooms)
    {did : PyStr} {apply confirmRetry : Bool} (h : RunInv rooms V w) (hlive : Live V s w) :
    Wp World.step (RunInv rooms V) (recoverDelivery room did client apply confirmRetry)
      (fun _ _ _ => True) (fun _ _ _ => True) s w := by
  unfold recoverDelivery
  rw [wp_bind]
  refine wp_pureResult (native_validateRoom room) h (fun validRoom hvalid => ?_)
    fun _ _ => trivial
  obtain rfl := TechnocoreClient.validateRoom_ok hvalid
  rw [wp_bind]
  refine wp_pureResult (native_validateDid did) h (fun validDid _ => ?_) fun _ _ => trivial
  split_ifs
  · exact ⟨h, trivial⟩
  rw [wp_bind]
  refine wp_journal_load h (fun _ => ⟨h, trivial⟩) (fun record hloads => ?_) fun _ _ => trivial
  dsimp only
  rw [wp_bind]
  refine wp_pureResult (native_verifyForRoom record validRoom) h (fun _ hverified => ?_)
    fun _ _ => trivial
  -- the record that loads is the one that was written for this room
  obtain ⟨j, hj, hloaded⟩ := hloads
  obtain ⟨room₁, hroom₁, written, hwritten, -⟩ := h.journaled _ hj
  obtain rfl : written.toPayload = j := by
    rw [hwritten.1] at hj
    simpa using hj
  obtain rfl := DeliveryRecord.fromPayload_toPayload hloaded
  have hrecord : w.Journaled validRoom record :=
    ⟨hwritten.1, DeliveryRecord.sha256_of_verifyForRoom hverified⟩
  split_ifs
  · exact ⟨h, trivial⟩
  · unfold recoverAcknowledged
    by_cases happly : apply = true
    case neg =>
      rw [if_pos happly]
      exact ⟨h, trivial⟩
    rw [if_neg (not_not.mpr happly), wp_bind]
    exact (wp_finalizeRecovery hrooms hroom h hlive hrecord).mono
      (fun _ _ _ hI _ => ⟨hI, trivial⟩) fun _ _ _ _ _ => trivial
  · rw [wp_bind]
    refine wp_readRoom (fun w' hw' => h.others hw')
      (fun snapshot w' hw' hfaithful _ hlimit => ?_) fun _ _ _ => trivial
    have hrecord' : w'.Journaled validRoom record := by
      rw [hw'.1]
      exact hrecord
    exact wp_recoverPending hrooms hroom (h.others hw') (hlive.of_sameProgress hw'.sameProgress)
      hrecord' hlimit hfaithful

end Recovery

/-! ## Whole runs -/

section Runs

open Agent Proc

variable [Platform] {rooms : Set PyStr} {V : Bytes → MessageEvent → Prop}

/-- **`recover-delivery` keeps the invariant.** -/
theorem Cli.wp_recoverLive (hrooms : rooms.InjOn DeliveryRecord.sha256) {did : PyStr}
    {args : RecoverArgs} (hargs : args.room ∈ rooms) {s : AgentState} {w : World}
    (h : RunInv rooms V w) :
    Wp World.step (RunInv rooms V) (recoverLive did args) (fun _ _ _ => True)
      (fun _ _ _ => True) s w := by
  unfold recoverLive
  refine wp_startAndLoad h fun loaded w' h' hlive' => ?_
  rw [wp_bind, wp_set]
  exact ⟨h', Recovery.wp_recoverDelivery hrooms hargs h' hlive'⟩

/-- The processes that are started: `run --send` and `recover-delivery` in these rooms. -/
inductive LiveLaunch (rooms : Set PyStr) : Launch Op Op.Val PyErr → Prop
  | run (identity : Identity) (args : RunArgs) (polls : ℕ) (hroom : args.room ∈ rooms) :
      LiveLaunch rooms
        { Memory := AgentState, memory := {}, program := Cli.runLive identity args polls }
  | recover (did : PyStr) (args : RecoverArgs) (hroom : args.room ∈ rooms) :
      LiveLaunch rooms
        { Memory := AgentState, memory := {},
          program := do let _ ← Cli.recoverLive did args; return () }

/-- The worlds that live processes can lead to. -/
abbrev LiveRun (rooms : Set PyStr) (start w : World) : Prop :=
  Run World.step (LiveLaunch rooms) World.Others start w

/-- A world before the agent has written anything to the rooms. -/
structure World.Fresh (rooms : Set PyStr) (w : World) : Prop where
  readable : w.Readable
  journal : w.journalDoc = none
  numbered : ∀ room ∈ rooms,
    (w.rooms room).map (fun e => e.message.seq) = List.range' 1 (w.rooms room).length
  replies : ∀ room ∈ rooms, ∀ e ∈ w.rooms room, e.reply = none
  sent : w.sent = []
  handled : w.handled = []

omit [Platform] in
theorem World.Fresh.runInv {w : World} (h : w.Fresh rooms) : RunInv rooms V w where
  readable := h.readable
  numbered := h.numbered
  journaled j hj := by
    rw [h.journal] at hj
    cases hj
  covered room hroom e he envelope input hreply := by
    rw [h.replies room hroom e he] at hreply
    cases hreply
  once room hroom input := by
    rw [World.repliesTo_of_unanswered]
    · exact Nat.zero_le _
    · intro e he envelope hreply
      rw [h.replies room hroom e he] at hreply
      cases hreply
  increasing room _ := by
    rw [World.sentTo, h.sent]
    exact List.Pairwise.nil
  spent room _ envelope henvelope := by
    rw [World.sentTo, h.sent] at henvelope
    cases henvelope
  latest room _ record _ envelope henvelope := by
    rw [World.sentTo, h.sent] at henvelope
    cases henvelope
  audited event hevent := by
    rw [h.handled] at hevent
    cases hevent

/-- **The invariant holds in every world of every run**: with processes cut anywhere,
restarted any number of times, and with others posting at any time. -/
theorem runInv_of_run (hrooms : rooms.InjOn DeliveryRecord.sha256) (hV : Evidence V)
    {start w : World} (hstart : start.Fresh rooms) (hrun : LiveRun rooms start w) :
    RunInv rooms V w := by
  refine hrun.invariant hstart.runInv (fun p hp w' h => ?_) fun w₁ w₂ hw h => h.others hw
  cases hp with
  | run identity args polls hroom => exact Cli.wp_runLive hrooms hV identity hroom polls h
  | recover did args hroom =>
      show Wp World.step (RunInv rooms V) (do let _ ← Cli.recoverLive did args; return ()) _ _ _ _
      rw [wp_bind]
      exact (Cli.wp_recoverLive hrooms hroom h).mono (fun _ _ _ hI _ => ⟨hI, trivial⟩)
        fun _ _ _ _ _ => trivial

end Runs
