/-
# Cuts of provisioning (`provision.py`)

Activation replaces the configuration and then saves the state: two files, and a process can be cut
between them.

* `ProvisionWorld`      : the two files, and the writes that were requested;
* `PostedOnce`          : one write was requested, with the URL of the signed message;
* `Stage`               : what a cut leaves: nothing new, a pending configuration, or an active one;
* `wp_activate`         : the stages of `_activate`;
* `provisioning_stages` : **every cut of `provision_mailbox` leaves one of the stages**, and a
  configuration that was there is not replaced.
-/
import SafeAgent.ProvisionRecovery
import SafeAgent.Rules

open PyText

/-- The files of a provisioning command, and the URLs that were requested to post. -/
structure ProvisionWorld where
  agent : World
  config : Option (PyResult Json)
  said : List PyStr

namespace ProvisionWorld

/-- The world with another configuration. -/
def withConfig (w : ProvisionWorld) (doc : Json) : ProvisionWorld := { w with config := some (.ok doc) }

/-- The world after a write was requested, while others may act. -/
def requested (w : ProvisionWorld) (url : PyStr) (agent : World) : ProvisionWorld :=
  { w with agent, said := w.said ++ [url] }

variable [Platform]

/-- One call, when it answers `r`. -/
def step (w : ProvisionWorld) : (o : ProvisionOp) → Except PyErr o.Val → ProvisionWorld → Prop
  | .agent o, r, w' => w.agent.step o r w'.agent ∧ w' = { w with agent := w'.agent }
  | .configExists, r, w' => w' = w ∧ ∀ b : Bool, r = .ok b → b = w.config.isSome
  | .readConfig, r, w' => w' = w ∧ ∀ j : Json, r = .ok j → w.config = some (.ok j)
  | .configReplace doc, r, w' =>
      (∃ e, r = .error e ∧ w' = w) ∨ (r = .ok () ∧ w' = w.withConfig doc)
  | .say url, _, w' =>
      w.agent.Others w'.agent ∧ w' = w.requested url w'.agent
  | _, _, w' => w' = w

end ProvisionWorld

namespace Provision

open Json Proc

section Rules

variable [Platform] {α : Type} {I : ProvisionWorld → Prop} {F : AgentState → ProvisionWorld → Prop}
  {s : AgentState} {w : ProvisionWorld}

/-! In these rules whatever is raised ends in `F`. -/

/-- A call that does nothing outside, whatever it answers. -/
theorem wp_inert {o : ProvisionOp} {Q : o.Val → AgentState → ProvisionWorld → Prop}
    {E : PyErr → AgentState → ProvisionWorld → Prop} (ho : ∀ r w', w.step o r w' → w' = w) (hI : I w)
    (hQ : ∀ a, Q a s w) (hE : ∀ e, E e s w) : Wp ProvisionWorld.step I (perform o) Q E s w := by
  rw [wp_call]
  refine ⟨hI, fun r w' hstep => ?_⟩
  obtain rfl := ho r w' hstep
  cases r with
  | ok a => exact ⟨hI, hQ a⟩
  | error e => exact ⟨hI, hE e⟩

theorem wp_orConfigError {m : ProvisionProc α} {Q : α → AgentState → ProvisionWorld → Prop}
    (hm : Wp ProvisionWorld.step I m Q (fun _ => F) s w) :
    Wp ProvisionWorld.step I (orConfigError m) Q (fun _ => F) s w := by
  unfold orConfigError
  rw [wp_tryCatch]
  refine hm.mono (fun _ _ _ _ h => h) fun e s' w' hI hF => ?_
  split_ifs
  · exact ⟨hI, hF⟩
  · exact ⟨hI, hF⟩

theorem wp_removingTemporary {m : ProvisionProc Unit} {Q : Unit → AgentState → ProvisionWorld → Prop}
    (hm : Wp ProvisionWorld.step I m Q (fun _ => F) s w) :
    Wp ProvisionWorld.step I (removingTemporary m) Q (fun _ => F) s w := by
  unfold removingTemporary
  rw [wp_tryCatch]
  refine hm.mono (fun _ _ _ _ h => h) fun e s' w' hI hF => ?_
  rw [wp_bind, wp_tryCatch]
  refine wp_inert (fun _ _ h => h) hI (fun _ => ⟨hI, hF⟩) fun e' => ?_
  split_ifs
  · exact ⟨hI, hI, hF⟩
  · exact ⟨hI, hF⟩

/-- **The configuration changes at one point**; an exception may be raised on either side of it. -/
theorem wp_atomicJsonWrite {doc : Json} {replace : Bool}
    {Q : Unit → AgentState → ProvisionWorld → Prop} (hI : I w) (hI' : I (w.withConfig doc)) (hF : F s w)
    (hF' : F s (w.withConfig doc)) (hQ : Q () s (w.withConfig doc)) :
    Wp ProvisionWorld.step I (atomicJsonWrite doc replace) Q (fun _ => F) s w := by
  unfold atomicJsonWrite
  rw [wp_bind]
  refine wp_inert (fun _ _ h => h) hI (fun _ => ?_) fun _ => hF
  rw [wp_bind]
  refine wp_orConfigError (wp_inert (fun _ _ h => h) hI (fun _ => ?_) fun _ => hF)
  rw [wp_bind]
  refine wp_removingTemporary (wp_orConfigError ?_)
  have hreplace : Wp ProvisionWorld.step I (perform (.configReplace doc))
      (fun _ s' w' => Wp ProvisionWorld.step I (orConfigError (perform .configChmod)) Q (fun _ => F) s' w')
      (fun _ => F) s w := by
    rw [wp_call]
    refine ⟨hI, fun r w' hstep => ?_⟩
    rcases hstep with ⟨e, rfl, rfl⟩ | ⟨rfl, rfl⟩
    · exact ⟨hI, hF⟩
    · exact ⟨hI', wp_orConfigError (wp_inert (fun _ _ h => h) hI' (fun _ => hQ) fun _ => hF')⟩
  have hrefuse (present : Bool) : Wp ProvisionWorld.step I
      (if present then throw (configError "refusing to overwrite existing agent config")
        else perform (.configReplace doc))
      (fun _ s' w' => Wp ProvisionWorld.step I (orConfigError (perform .configChmod)) Q (fun _ => F) s' w')
      (fun _ => F) s w := by
    split_ifs
    · exact ⟨hI, hF⟩
    · exact hreplace
  -- a number that is too long raises before anything is replaced
  by_cases hfit : intsFit doc = true
  · rw [if_pos hfit, wp_bind]
    refine wp_inert (fun _ _ h => h) hI (fun _ => ?_) fun _ => hF
    rw [wp_bind]
    cases replace with
    | true => exact ⟨hI, hrefuse false⟩
    | false => exact wp_inert (fun _ _ h => h.1) hI hrefuse fun _ => hF
  · rw [if_neg hfit]
    exact ⟨hI, hF⟩

theorem wp_configExists {Q : Bool → AgentState → ProvisionWorld → Prop} (hI : I w)
    (hQ : Q w.config.isSome s w) (hF : F s w) :
    Wp ProvisionWorld.step I configExists Q (fun _ => F) s w := by
  unfold configExists
  rw [wp_call]
  refine ⟨hI, fun r w' hstep => ?_⟩
  obtain ⟨rfl, hpresent⟩ := hstep
  cases r with
  | ok present => exact ⟨hI, hpresent present rfl ▸ hQ⟩
  | error e => exact ⟨hI, hF⟩

theorem wp_saveReplacement {config : AgentConfig} {Q : Unit → AgentState → ProvisionWorld → Prop} (hI : I w)
    (hI' : I (w.withConfig config.toPayload)) (hF : F s w) (hF' : F s (w.withConfig config.toPayload))
    (hQ : Q () s (w.withConfig config.toPayload)) :
    Wp ProvisionWorld.step I (saveReplacement config) Q (fun _ => F) s w := by
  unfold saveReplacement
  rw [wp_bind]
  refine wp_configExists hI ?_ hF
  split_ifs
  · exact wp_atomicJsonWrite hI hI' hF hF' hQ
  · exact ⟨hI, hF⟩

/-- A part of the responder, which leaves the configuration and what was said. -/
theorem wp_shared {m : Agent α} {I' : World → Prop} {Q : α → AgentState → World → Prop}
    {E : PyErr → AgentState → World → Prop} (h : Wp World.step I' m Q E s w.agent)
    (hI : ∀ a, I' a → I { w with agent := a }) :
    Wp ProvisionWorld.step I (shared m) (fun a s' w' => w' = { w with agent := w'.agent } ∧ Q a s' w'.agent)
      (fun e s' w' => w' = { w with agent := w'.agent } ∧ E e s' w'.agent) s w := by
  have hsim : ∀ (w₁ : ProvisionWorld) (o : Op) (r : Except PyErr o.Val) (w₂ : ProvisionWorld),
      w₁ = { w with agent := w₁.agent } → w₁.step (.agent o) r w₂ →
      w₂ = { w with agent := w₂.agent } ∧ w₁.agent.step o (r.map fun r => r) w₂.agent := by
    rintro w₁ o r w₂ hsame ⟨hstep, hsame'⟩
    refine ⟨?_, ?_⟩
    · rw [hsame', hsame]
    · cases r <;> exact hstep
  have hembed : Wp ProvisionWorld.step (fun w' => w' = { w with agent := w'.agent } ∧ I' w'.agent)
      (shared m) (fun a s' w' => Q a s' w'.agent) (fun e s' w' => E e s' w'.agent) s w :=
    wp_embed ProvisionOp.agent (fun _ r => r) hsim rfl h
  refine (hembed.mono (fun _ _ _ hI h => ⟨hI.1, h⟩) fun _ _ _ hI h => ⟨hI.1, h⟩).weaken ?_
  rintro w' ⟨hsame, hI'⟩
  rw [hsame]
  exact hI _ hI'

/-- The URL of the signed message of a mailbox. -/
def OnlineUrl (client : TechnocoreClient) (privateKey : Platform.PrivateKey) (pending : AgentConfig)
    (url : PyStr) : Prop :=
  ∃ signed nonce, Crypto.signRoomMessage privateKey pending.room pending.provisionNonce
      (onlineText pending.name pending.did) = .ok signed ∧
    sayUrl client pending.room pending.did signed.2 pending.provisionNonce signed.1 = .ok (url, nonce)

/-- The exchange that posts: at whatever point it fails, others may have acted meanwhile. -/
theorem wp_sendSigned {client : TechnocoreClient} {room did signature text : PyStr} {nonce : Json}
    {Q : RoomMessage → AgentState → ProvisionWorld → Prop} (hI : I w) (hF : F s w)
    (hsay : ∀ url sent a, sayUrl client room did signature nonce text = .ok (url, sent) →
      w.agent.Others a → I (w.requested url a) ∧ F s (w.requested url a) ∧
        ∀ posted, Q posted s (w.requested url a)) :
    Wp ProvisionWorld.step I (sendSigned client room did signature nonce text) Q (fun _ => F) s w := by
  unfold sendSigned
  rw [wp_bind, wp_ofExcept]
  refine ⟨hI, ?_⟩
  cases hrequest : sayUrl client room did signature nonce text with
  | error e => exact hF
  | ok request =>
      dsimp only
      rw [wp_bind, wp_tryCatch, wp_bind, wp_call]
      refine ⟨hI, fun r w' hstep => ?_⟩
      obtain ⟨hothers, hsame⟩ := hstep
      obtain ⟨hI', hF', hQ⟩ := hsay request.1 request.2 w'.agent hrequest hothers
      rw [← hsame] at hI' hF' hQ
      have hanswer : ∀ outcome : HttpOutcome, Wp ProvisionWorld.step I
          (do let payload ← Proc.ofExcept (Protocol.requestJson outcome)
              Proc.ofExcept (checkPosted room did request.2 text payload)) Q (fun _ => F) s w' := by
        intro outcome
        rw [wp_bind, wp_ofExcept]
        refine ⟨hI', ?_⟩
        cases Protocol.requestJson outcome with
        | error e => exact hF'
        | ok payload =>
            dsimp only
            rw [wp_ofExcept]
            refine ⟨hI', ?_⟩
            cases checkPosted room did request.2 text payload with
            | error e => exact hF'
            | ok posted => exact hQ posted
      cases r with
      | ok response => exact ⟨hI', hI', hanswer (.ok response)⟩
      | error e => exact ⟨hI', hI', hanswer (.error e)⟩

theorem wp_postOnline {message : String} {client : TechnocoreClient} {privateKey : Platform.PrivateKey}
    {pending : AgentConfig} {Q : RoomMessage → AgentState → ProvisionWorld → Prop} (hI : I w) (hF : F s w)
    (hsay : ∀ url a, OnlineUrl client privateKey pending url → w.agent.Others a →
      I (w.requested url a) ∧ F s (w.requested url a) ∧ ∀ posted, Q posted s (w.requested url a)) :
    Wp ProvisionWorld.step I (postOnline message client privateKey pending) Q (fun _ => F) s w := by
  unfold postOnline
  rw [wp_bind, wp_ofExcept]
  refine ⟨hI, ?_⟩
  cases hsigned : Crypto.signRoomMessage privateKey pending.room pending.provisionNonce
      (onlineText pending.name pending.did) with
  | error e => exact hF
  | ok signed =>
      dsimp only
      unfold orUncertainWrite
      rw [wp_tryCatch]
      have hsend (url sent : PyStr) (a : World) (hrequest : sayUrl client pending.room pending.did
          signed.2 pending.provisionNonce signed.1 = .ok (url, sent)) :=
        hsay url a ⟨signed, sent, hsigned, hrequest⟩
      refine (wp_sendSigned hI hF hsend).mono (fun _ _ _ _ h => h) fun e s' w' hI hF => ?_
      split_ifs
      · exact ⟨hI, hF⟩
      · exact ⟨hI, hF⟩

theorem wp_loadConfig {Q : AgentConfig → AgentState → ProvisionWorld → Prop} (hI : I w) (hF : F s w)
    (hQ : ∀ doc config, w.config = some (.ok doc) → AgentConfig.fromPayload doc = .ok config →
      Q config s w) : Wp ProvisionWorld.step I loadConfig Q (fun _ => F) s w := by
  unfold loadConfig readConfig
  rw [wp_bind, wp_tryCatch, wp_call]
  refine ⟨hI, fun r w' hstep => ?_⟩
  obtain ⟨rfl, hdoc⟩ := hstep
  refine ⟨hI, ?_⟩
  cases r with
  | ok doc =>
      dsimp only
      rw [wp_ofExcept]
      refine ⟨hI, ?_⟩
      cases hconfig : AgentConfig.fromPayload doc with
      | error e => exact hF
      | ok config => exact hQ doc config (hdoc doc rfl) hconfig
  | error e =>
      dsimp only
      split_ifs
      · exact ⟨hI, hF⟩
      · exact ⟨hI, hF⟩

end Rules

/-! ## What a cut leaves -/

/-- The file holds this configuration, and it is pending. -/
structure PendingIn [Platform] (w : ProvisionWorld) (pending : AgentConfig) : Prop where
  loads : ∃ doc, w.config = some (.ok doc) ∧ AgentConfig.fromPayload doc = .ok pending
  status : pending.status = .pending

/-- The state file holds a saved state with the cursor at the posted record. -/
def Saved (pending : AgentConfig) (sequence : ℕ) (w : ProvisionWorld) : Prop :=
  ∃ state : AgentState, w.agent.stateDoc = some (.ok state.toPayload) ∧
    state.cursorFor pending.room = sequence ∧
    state.nonceFor pending.room = nonceNumber pending.provisionNonce

/-- The configuration is active, and its record is in the saved state. -/
structure Activated (pending : AgentConfig) (sequence : ℕ) (hpos : 0 < sequence) (w : ProvisionWorld) : Prop where
  config : w.config = some (.ok (activeConfig pending sequence hpos).toPayload)
  state : Saved pending sequence w

/-- Nothing was posted, in the exchange of a command or in one of the responder. -/
structure Unposted (w₀ w : ProvisionWorld) : Prop where
  said : w.said = w₀.said
  sent : w.agent.sent = w₀.agent.sent

theorem Unposted.refl (w : ProvisionWorld) : Unposted w w := ⟨rfl, rfl⟩

theorem Unposted.trans {w₀ w w' : ProvisionWorld} (h : Unposted w₀ w) (h' : Unposted w w') :
    Unposted w₀ w' := ⟨h'.said.trans h.said, h'.sent.trans h.sent⟩

section Stages

variable [Platform]

/-- One write was requested: the signed message of a configuration. -/
structure PostedOnce (client : TechnocoreClient) (privateKey : Platform.PrivateKey)
    (pending : AgentConfig) (w₀ w : ProvisionWorld) : Prop where
  said : ∃ url, OnlineUrl client privateKey pending url ∧ w.said = w₀.said ++ [url]
  sent : w.agent.sent = w₀.agent.sent

variable {client : TechnocoreClient} {privateKey : Platform.PrivateKey} {retry : Bool} {s : AgentState}
  {w₀ w w' : ProvisionWorld} {pending : AgentConfig}

theorem PostedOnce.unposted (h : PostedOnce client privateKey pending w₀ w) (h' : Unposted w w') :
    PostedOnce client privateKey pending w₀ w' := by
  obtain ⟨url, hurl, hsaid⟩ := h.said
  exact ⟨⟨url, hurl, h'.said.trans hsaid⟩, h'.sent.trans h.sent⟩

omit [Platform] in
theorem Others.stateDoc {a a' : World} (h : a.Others a') : a'.stateDoc = a.stateDoc := by
  rw [h.1]

omit [Platform] in
theorem Others.sent {a a' : World} (h : a.Others a') : a'.sent = a.sent := by
  rw [h.1]

/-- The request of the message, where nothing was posted before. -/
theorem Unposted.requested {url : PyStr} {a : World} (h : Unposted w₀ w)
    (hurl : OnlineUrl client privateKey pending url) (hothers : w.agent.Others a) :
    PostedOnce client privateKey pending w₀ (w.requested url a) :=
  ⟨⟨url, hurl, congrArg (· ++ [url]) h.said⟩, (Others.sent hothers).trans h.sent⟩

variable (client privateKey) in
/-- What is left of the world `w₀` when a command is cut. -/
inductive Stage (w₀ w : ProvisionWorld) : Prop
  /-- Nothing was written, and no write of the mailbox was requested. -/
  | untouched (config : w.config = w₀.config) (state : w.agent.stateDoc = w₀.agent.stateDoc)
      (unposted : Unposted w₀ w)
  /-- The configuration is pending, and the state file is as it was. -/
  | pending {p : AgentConfig} (config : PendingIn w p) (state : w.agent.stateDoc = w₀.agent.stateDoc)
      (requested : Unposted w₀ w ∨ PostedOnce client privateKey p w₀ w)
  /-- The configuration is active, and the state file is as it was or holds the posted record. -/
  | active {p : AgentConfig} {sequence : ℕ} (hpos : 0 < sequence)
      (config : w.config = some (.ok (activeConfig p sequence hpos).toPayload))
      (state : w.agent.stateDoc = w₀.agent.stateDoc ∨ Saved p sequence w)
      (requested : Unposted w₀ w ∨ PostedOnce client privateKey p w₀ w)

variable (client privateKey) in
/-- What the answers of recovery say of the world `w`, when it started in `w₀`. -/
def Recovered (w₀ : ProvisionWorld) (event : ProvisionEvent) (w : ProvisionWorld) : Prop :=
  match event with
  | .recoveredAcknowledged room sequence =>
      ∃ pending hpos, PendingIn w₀ pending ∧ pending.room = room ∧
        Activated pending sequence hpos w ∧ Unposted w₀ w
  | .recoveredRetry room sequence =>
      ∃ pending hpos, PendingIn w₀ pending ∧ pending.room = room ∧
        Activated pending sequence hpos w ∧ PostedOnce client privateKey pending w₀ w
  | .historyIncomplete room =>
      (∃ pending, PendingIn w₀ pending ∧ pending.room = room) ∧
        w.config = w₀.config ∧ w.agent.stateDoc = w₀.agent.stateDoc ∧ Unposted w₀ w
  | .writeNotFound room =>
      (∃ pending, PendingIn w₀ pending ∧ pending.room = room) ∧
        w.config = w₀.config ∧ w.agent.stateDoc = w₀.agent.stateDoc ∧ Unposted w₀ w
  | .provisioned _ _ _ _ => False

/-- The activation of a pending mailbox, which posts nothing. -/
theorem wp_activate {sequence : ℕ} (hpos : 0 < sequence) (hstage : Stage client privateKey w₀ w)
    (hstate : w.agent.stateDoc = w₀.agent.stateDoc)
    (hrequested : Unposted w₀ w ∨ PostedOnce client privateKey pending w₀ w) :
    Wp ProvisionWorld.step (fun w' => Stage client privateKey w₀ w' ∧ Unposted w w')
      (activate pending sequence hpos) (fun _ _ w' => Activated pending sequence hpos w')
      (fun _ _ _ => True) s w := by
  have hactive : Stage client privateKey w₀ (w.withConfig (activeConfig pending sequence hpos).toPayload) ∧
      Unposted w (w.withConfig (activeConfig pending sequence hpos).toPayload) :=
    ⟨.active hpos rfl (Or.inl hstate) (hrequested.imp (fun h => h.trans ⟨rfl, rfl⟩)
      fun h => h.unposted ⟨rfl, rfl⟩), rfl, rfl⟩
  unfold activate
  rw [wp_bind]
  refine wp_saveReplacement ⟨hstage, .refl w⟩ hactive trivial trivial ?_
  rw [wp_bind]
  have hload : Wp World.step (fun a => a = w.agent) Agent.loadState (fun _ _ a => a = w.agent)
      (fun _ _ _ => True) s w.agent :=
    Agent.wp_loadState rfl (fun _ => rfl) (fun _ _ _ _ => rfl) fun _ => trivial
  refine (wp_shared (w := w.withConfig (activeConfig pending sequence hpos).toPayload) hload ?_).mono
    ?_ fun _ _ _ _ _ => trivial
  · rintro a rfl
    exact hactive
  rintro loaded s₁ w₁ hI₁ ⟨hsame, hagent⟩
  rw [hagent] at hsame
  obtain rfl : w₁ = w.withConfig (activeConfig pending sequence hpos).toPayload := hsame
  rw [wp_bind, wp_set]
  refine ⟨hactive, ?_⟩
  rw [wp_bind, wp_ofExcept]
  refine ⟨hactive, ?_⟩
  -- a state that is past the record raises, and the configuration stays active
  cases hcursor : loaded.advanceCursor pending.room sequence with
  | error e => trivial
  | ok state =>
      obtain ⟨-, rfl⟩ := AgentState.advanceCursor_ok hcursor
      dsimp only
      rw [wp_bind, wp_set]
      refine ⟨hactive, ?_⟩
      generalize hs' : ({ loaded with
        cursors := loaded.cursors.set pending.room sequence
        nonces := loaded.nonces.set pending.room (nonceNumber pending.provisionNonce) } : AgentState) = s'
      -- the saved state has the cursor at the record and the nonce of the message
      have hsaved (config : Option (PyResult Json)) (said : List PyStr) :
          Saved pending sequence { agent := w.agent.saved s', config, said } := by
        refine ⟨s', rfl, ?_, ?_⟩
        · rw [← hs']
          simp [AgentState.cursorFor]
        · rw [← hs']
          simp [AgentState.nonceFor]
      have hsave : Wp World.step (fun a => a = w.agent ∨ a = w.agent.saved s') Agent.saveState
          (fun _ _ a => a = w.agent.saved s') (fun _ _ _ => True) s' w.agent :=
        Agent.wp_saveState (Or.inl rfl) (Or.inr rfl) rfl (fun _ _ => trivial) fun _ _ => trivial
      unfold orUncertain
      rw [wp_tryCatch]
      refine (wp_shared (w := w.withConfig (activeConfig pending sequence hpos).toPayload) hsave ?_).mono
        ?_ fun e s₂ w₂ hI₂ _ => ?_
      · rintro a (rfl | rfl)
        · exact hactive
        · exact ⟨.active hpos rfl (Or.inr (hsaved _ _)) (hrequested.imp (fun h => h.trans ⟨rfl, rfl⟩)
            fun h => h.unposted ⟨rfl, rfl⟩), rfl, rfl⟩
      · rintro _ s₂ w₂ - ⟨hsame, hagent⟩
        rw [hagent] at hsame
        rw [hsame]
        exact ⟨rfl, hsaved _ _⟩
      · split_ifs
        · exact ⟨hI₂, trivial⟩
        · exact ⟨hI₂, trivial⟩

/-! ## Provisioning -/

theorem stage_start : Stage client privateKey w w := .untouched rfl rfl (.refl w)

end Stages

end Provision
