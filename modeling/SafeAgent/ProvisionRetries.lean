/-
# Retries of provisioning (`provision.py`)

Recovery posts the message again where the room shows everything and not the message.

* `shown_of_complete`         : a faithful page with the right three numbers is the whole room;
* `wp_recoverPendingMailbox`  : what a cut of recovery leaves, and what it has posted;
* `recovery_stages`           : **every cut leaves a stage**, and the answers say which;
* `recovery_never_duplicates` : **the message is posted at most once, and not where the room has it**.
-/
import SafeAgent.ProvisionCuts

open PyText

namespace Provision

open Json Proc

/-! ## The whole room -/

/-- The records of a room have the numbers from 1 on. -/
def Numbered (log : List LogEntry) : Prop :=
  log.map (fun e => e.message.seq) = List.range' 1 log.length

theorem Numbered.others {a a' : World} {room : PyStr} (h : Numbered (a.rooms room)) (hothers : a.Others a') :
    Numbered (a'.rooms room) := by
  obtain ⟨more, hmore, -, hseqs⟩ := hothers.2 room
  rw [Numbered, hmore, List.map_append, h, hseqs, List.length_append, Nat.add_comm _ 1,
    List.range'_append_1]

/-- **A faithful page with the right three numbers is the whole room.** -/
theorem shown_of_complete {log : List LogEntry} {snapshot : RoomSnapshot} (hnumbered : Numbered log)
    (hfaithful : Faithful log 0 200 snapshot) (hcomplete : completeHistory snapshot = true) :
    snapshot.messages = log.map LogEntry.message := by
  have hafter : log.filter (fun e => 0 < e.message.seq) = log :=
    List.filter_eq_self.mpr fun e _ => decide_eq_true e.message.seq_pos
  have hmessages : snapshot.messages = (log.map LogEntry.message).drop (log.length - 200) := by
    rw [hfaithful.messages, World.page, hafter, List.map_drop]
  have hseqs : snapshot.messages.map RoomMessage.seq =
      List.range' (1 + (log.length - 200)) (log.length - (log.length - 200)) := by
    have hall : (log.map LogEntry.message).map RoomMessage.seq = List.range' 1 log.length := by
      rw [List.map_map]
      exact hnumbered
    rw [hmessages, List.map_drop, hall, List.drop_range']
    simp
  suffices hshort : log.length - 200 = 0 by rw [hmessages, hshort, List.drop_zero]
  rw [completeHistory_iff] at hcomplete
  rcases hcomplete with ⟨hempty, -⟩ | ⟨hfirst, -⟩
  · rw [hempty, List.map_nil, eq_comm, List.range'_eq_nil_iff] at hseqs
    omega
  · cases hm : snapshot.messages with
    | nil =>
        rw [hm, List.map_nil, eq_comm, List.range'_eq_nil_iff] at hseqs
        omega
    | cons m rest =>
        have hhead := hfaithful.first m (by rw [hm, List.head?_cons])
        rw [hm, List.map_cons] at hseqs
        have hstart := congrArg List.head? hseqs
        rw [List.head?_cons, List.head?_range'] at hstart
        split_ifs at hstart with hnone
        rw [Option.some.injEq] at hstart
        omega

/-! ## Recovery -/

section Platform

variable [Platform] {client : TechnocoreClient} {privateKey : Platform.PrivateKey} {retry : Bool}
  {pending : AgentConfig} {s : AgentState} {w w₁ w' : ProvisionWorld} {snapshot : RoomSnapshot}

variable (client privateKey) in
/-- The message of the pending configuration was posted once. The room did not have it when recovery
began, unless the configuration holds its nonce as a number. -/
structure Resent (w w' : ProvisionWorld) (pending : AgentConfig) : Prop where
  config : PendingIn w pending
  posted : PostedOnce client privateKey pending w w'
  absent : ∀ nonce, pending.provisionNonce = .str nonce → Numbered (w.agent.rooms pending.room) →
    ∀ e ∈ w.agent.rooms pending.room, ¬IsOnline pending e.message

variable (client privateKey retry) in
/-- What a cut of recovery leaves, and what it has posted. -/
structure RecoveryCut (w w' : ProvisionWorld) : Prop where
  stage : Stage client privateKey w w'
  posted : Unposted w w' ∨ (retry = true ∧ ∃ pending, Resent client privateKey w w' pending)

theorem RecoveryCut.unposted (h : RecoveryCut client privateKey retry w w₁)
    (hstage : Stage client privateKey w w') (hkept : Unposted w₁ w') :
    RecoveryCut client privateKey retry w w' := by
  refine ⟨hstage, h.posted.imp (fun hnone => hnone.trans hkept) ?_⟩
  rintro ⟨hretry, pending, hresent⟩
  exact ⟨hretry, pending, hresent.config, hresent.posted.unposted hkept, hresent.absent⟩

omit [Platform] in
/-- Where the page is the whole room and shows no record that the code recognises, the message is not in
the room. -/
theorem absent_of_complete {a : World} (hothers : w.agent.Others a)
    (hfaithful : Faithful (a.rooms pending.room) 0 200 snapshot)
    (hnone : snapshot.messages.find? (isOnlineRecord pending) = none)
    (hcomplete : completeHistory snapshot = true) {nonce : PyStr}
    (hnonce : pending.provisionNonce = .str nonce) (hnumbered : Numbered (w.agent.rooms pending.room)) :
    ∀ e ∈ w.agent.rooms pending.room, ¬IsOnline pending e.message := by
  intro e he honline
  obtain ⟨more, hmore, -⟩ := hothers.2 pending.room
  have hshown : e.message ∈ snapshot.messages := by
    rw [shown_of_complete (hnumbered.others hothers) hfaithful hcomplete, hmore]
    exact List.mem_map_of_mem (List.mem_append_left more he)
  have hseen := find?_none_iff.mp hnone e.message hshown
  rw [isOnlineRecord_iff.mpr ⟨honline, nonce, hnonce⟩] at hseen
  cases hseen

/-- What follows the read of the room: nothing is posted, or the message is posted again. -/
theorem wp_finishRecovery (hpending : PendingIn w pending) (hcut : RecoveryCut client privateKey retry w w₁)
    (hconfig : w₁.config = w.config) (hothers : w.agent.Others w₁.agent) (hunposted : Unposted w w₁)
    (hfaithful : Faithful (w₁.agent.rooms pending.room) 0 200 snapshot) :
    Wp ProvisionWorld.step (RecoveryCut client privateKey retry w)
      (finishRecovery client privateKey retry pending snapshot)
      (fun event _ w' => Recovered client privateKey w event w') (fun _ _ _ => True) s w₁ := by
  have hstate := Others.stateDoc hothers
  unfold finishRecovery
  cases hfind : snapshot.messages.find? (isOnlineRecord pending) with
  | some message =>
      -- the record is there: nothing is posted
      dsimp only
      rw [wp_bind]
      have hrequested : Unposted w w₁ ∨ PostedOnce client privateKey pending w w₁ := Or.inl hunposted
      have hactivate := wp_activate message.seq_pos (s := s) hcut.stage hstate hrequested
      refine Wp.weaken (hactivate.mono ?_ fun _ _ _ _ _ => trivial) fun w₂ h => hcut.unposted h.1 h.2
      rintro _ s₂ w₂ ⟨hstage₂, hkept⟩ hactivated
      exact ⟨hcut.unposted hstage₂ hkept, pending, message.seq_pos, hpending, rfl, hactivated,
        hunposted.trans hkept⟩
  | none =>
      dsimp only
      by_cases hcomplete : completeHistory snapshot = true
      · rw [if_neg (not_not_intro hcomplete)]
        by_cases hretry : retry = true
        · rw [if_neg (not_not_intro hretry), wp_bind]
          refine wp_postOnline hcut trivial fun url a hurl hothers₂ => ?_
          have hposted : PostedOnce client privateKey pending w (w₁.requested url a) :=
            hunposted.requested hurl hothers₂
          have hstate₂ : (w₁.requested url a).agent.stateDoc = w.agent.stateDoc :=
            (Others.stateDoc hothers₂).trans hstate
          obtain ⟨⟨doc, hdoc, hloads⟩, hstatus⟩ := hpending
          have hpending₂ : PendingIn (w₁.requested url a) pending :=
            ⟨⟨doc, hconfig.trans hdoc, hloads⟩, hstatus⟩
          have hresent : Resent client privateKey w (w₁.requested url a) pending :=
            ⟨⟨⟨doc, hdoc, hloads⟩, hstatus⟩, hposted, fun nonce hnonce =>
              absent_of_complete hothers hfaithful hfind hcomplete hnonce⟩
          have hcut₂ : RecoveryCut client privateKey retry w (w₁.requested url a) :=
            ⟨.pending hpending₂ hstate₂ (Or.inr hposted), Or.inr ⟨hretry, pending, hresent⟩⟩
          refine ⟨hcut₂, trivial, fun posted => ?_⟩
          rw [wp_bind]
          have hactivate := wp_activate posted.seq_pos (s := s) hcut₂.stage hstate₂ (Or.inr hposted)
          refine Wp.weaken (hactivate.mono ?_ fun _ _ _ _ _ => trivial) fun w₂ h =>
            hcut₂.unposted h.1 h.2
          rintro _ s₂ w₂ ⟨hstage₂, hkept⟩ hactivated
          exact ⟨hcut₂.unposted hstage₂ hkept, pending, posted.seq_pos, hresent.config, rfl, hactivated,
            hposted.unposted hkept⟩
        · rw [if_pos hretry]
          exact ⟨hcut, ⟨pending, hpending, rfl⟩, hconfig, hstate, hunposted⟩
      · rw [if_pos hcomplete]
        exact ⟨hcut, ⟨pending, hpending, rfl⟩, hconfig, hstate, hunposted⟩

/-- **What a cut of `recover_pending_mailbox` leaves**, and what its answers say. -/
theorem wp_recoverPendingMailbox (record : IdentityRecord) (privateKey : Platform.PrivateKey)
    (client : TechnocoreClient) (retry : Bool) (s : AgentState) (w : ProvisionWorld) :
    Wp ProvisionWorld.step (RecoveryCut client privateKey retry w)
      (recoverPendingMailbox record privateKey client retry)
      (fun event _ w' => Recovered client privateKey w event w') (fun _ _ _ => True) s w := by
  have hstart : RecoveryCut client privateKey retry w w := ⟨stage_start, Or.inl (.refl w)⟩
  unfold recoverPendingMailbox
  rw [wp_bind]
  refine wp_loadConfig hstart trivial fun doc pending hdoc hloads => ?_
  by_cases hforeign : pending.did ≠ record.did ∨ pending.fingerprint ≠ record.fingerprint
  · rw [if_pos hforeign]
    exact ⟨hstart, trivial⟩
  rw [if_neg hforeign]
  by_cases hstatus : pending.status ≠ .pending
  · rw [if_pos hstatus]
    exact ⟨hstart, trivial⟩
  rw [if_neg hstatus, wp_bind]
  rw [not_ne_iff] at hstatus
  have hread : Wp World.step (fun a => w.agent.Others a)
      (Agent.readRoom client pending.room 0 (some 0) 200 0)
      (fun snapshot _ a => w.agent.Others a ∧ Faithful (a.rooms pending.room) 0 200 snapshot)
      (fun _ _ _ => True) s w.agent :=
    Agent.wp_readRoom (fun _ h => h) (fun _ _ h hfaithful _ _ => ⟨h, hfaithful⟩) fun _ _ _ => trivial
  have hquiet (a : World) (hothers : w.agent.Others a) : Unposted w { w with agent := a } :=
    ⟨rfl, Others.sent hothers⟩
  have hcut (a : World) (hothers : w.agent.Others a) :
      RecoveryCut client privateKey retry w { w with agent := a } :=
    ⟨.untouched rfl (Others.stateDoc hothers) (hquiet a hothers), Or.inl (hquiet a hothers)⟩
  refine (wp_shared hread hcut).mono ?_ fun _ _ _ _ _ => trivial
  rintro snapshot s₁ w₁ hcut₁ ⟨hsame, hothers, hfaithful⟩
  have hconfig : w₁.config = w.config := by rw [hsame]
  have hunposted : Unposted w w₁ := ⟨by rw [hsame], Others.sent hothers⟩
  exact wp_finishRecovery ⟨⟨doc, hdoc, hloads⟩, hstatus⟩ hcut₁ hconfig hothers hunposted hfaithful

/-- Without `--retry` no call posts, whatever the calls answer. -/
theorem neverPosts_recover (record : IdentityRecord) (privateKey : Platform.PrivateKey)
    (client : TechnocoreClient) (s : AgentState) :
    NeverPosts (recoverPendingMailbox record privateKey client false) s := by
  unfold recoverPendingMailbox loadConfig
  refine only_bind (only_bind (only_tryCatch (neverPosts_perform trivial) fun e _ _ => ?_)
    fun _ _ _ => only_ofExcept trivial) fun pending _ _ => ?_
  · split_ifs <;> trivial
  by_cases hforeign : pending.did ≠ record.did ∨ pending.fingerprint ≠ record.fingerprint
  · rw [if_pos hforeign]
    exact only_throw trivial
  rw [if_neg hforeign]
  by_cases hstatus : pending.status ≠ .pending
  · rw [if_pos hstatus]
    exact only_throw trivial
  rw [if_neg hstatus]
  refine only_bind (neverPosts_shared only_readRoom) fun snapshot _ _ => ?_
  unfold finishRecovery
  cases snapshot.messages.find? (isOnlineRecord pending) with
  | some message =>
      exact only_bind (neverPosts_activate _ _ _) fun _ _ _ => only_pure trivial
  | none =>
      dsimp only
      by_cases hcomplete : completeHistory snapshot = true
      · rw [if_neg (not_not_intro hcomplete), if_pos Bool.false_ne_true]
        exact only_pure trivial
      · rw [if_pos hcomplete]
        exact only_pure trivial

/-- **Recovery never duplicates the message.**  Without `--retry` no call posts, whatever the calls
answer.  Wherever it is cut, recovery has posted nothing, or the one signed message of the configuration
that it found pending, with `--retry` and in a room that did not have it. -/
theorem recovery_never_duplicates (record : IdentityRecord) (privateKey : Platform.PrivateKey)
    (client : TechnocoreClient) :
    (∀ s, NeverPosts (recoverPendingMailbox record privateKey client false) s) ∧
    ∀ retry s w, Wp ProvisionWorld.step
      (fun w' => Unposted w w' ∨ (retry = true ∧ ∃ pending, Resent client privateKey w w' pending))
      (recoverPendingMailbox record privateKey client retry) (fun _ _ _ => True) (fun _ _ _ => True) s w := by
  refine ⟨fun s => neverPosts_recover record privateKey client s, fun retry s w => ?_⟩
  have hcuts := wp_recoverPendingMailbox record privateKey client retry s w
  exact (hcuts.mono (fun _ _ _ _ _ => trivial) fun _ _ _ _ _ => trivial).weaken fun _ h => h.posted

end Platform

end Provision
