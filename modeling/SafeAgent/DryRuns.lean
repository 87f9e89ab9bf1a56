/-
# Dry runs

`run` without `--send` decides as `run --send` does, and answers nobody.

* `inMode`           : the same agent, live or not; only a live limiter reserves;
* `Policy.plan`      : the decision on a message where no limit is reached;
* `Steady`           : an environment in which nobody edits the capability file;
* `Follows`          : an event that shows the planned decision, or that a limit was reached;
* `Passive`          : the operations that a dry run is left with;
* `dryRun_predicts`  : a dry run and a live run over the same snapshots.
-/
import SafeAgent.Escapes
import SafeAgent.SnapshotOnce

open PyText Proc

/-! ## The decision where no limit is reached -/

namespace Policy

variable [Platform]

/-- `_grant_for`, where the capability file is this one. -/
def grantIn (policy : CommandPolicy) (file : FileMeta × Bytes) (did : PyStr) :
    PyResult (Option CapabilityGrant) :=
  match policy.mode with
  | .legacy _ _ => .ok none
  | .capability _ => do
      let loaded ← Capabilities.policyOfFile file.1 file.2
      return loaded.grantFor did

omit [Platform] in
/-- What `_authorize_sender` makes of the grant of a signed sender. -/
def judge (policy : CommandPolicy) (message : RoomMessage) (grant : Option CapabilityGrant) :
    Option Decision × Option CapabilityGrant :=
  match policy.mode, grant with
  | .legacy allowedDids allowAnySigned, _ =>
      if ¬allowAnySigned ∧ ¬allowedDids.contains message.sender then
        (some (ignore .senderNotAllowlisted), none)
      else (none, grant)
  | .capability _, none => (some (ignore .principalNotGranted), none)
  | .capability _, some g =>
      if ¬g.enabled then (some (ignore .principalRevoked), none) else (none, some g)

/-- `_authorize_sender`, where the capability file is this one. -/
def authorization (policy : CommandPolicy) (file : FileMeta × Bytes) (message : RoomMessage) :
    PyResult (Option Decision × Option CapabilityGrant) :=
  if message.sender = policy.ownDid then .ok (some (ignore .ownMessage), none)
  else if ¬message.isSigned then .ok (some (ignore .unsignedSender), none)
  else do
    let grant ← grantIn policy file message.sender
    return judge policy message grant

/-- `_decide_authorized_command`, where the limiter allows every request. -/
def requestedDecision (message : RoomMessage) (grant : Option CapabilityGrant) : PyResult Decision :=
  match commandName message.text with
  | none => .ok (ignore .unsupportedCommand)
  | some name =>
      if grant.any fun g => !g.commands.contains name then .ok (ignore .commandNotGranted)
      else do
        let parsed ← parseCommand name message.text
        if parsed.decision.action = .ignore then return parsed.decision
        else if Policy.repositoryRefused grant parsed.repository then return ignore .repositoryNotGranted
        else return parsed.decision

/-- The decision on a message, where the capability file is this one and no limit is reached. -/
def plan (policy : CommandPolicy) (file : FileMeta × Bytes) (message : RoomMessage) :
    PyResult Decision := do
  let found ← authorization policy file message
  match found.1 with
  | some denial => return denial
  | none => requestedDecision message found.2

end Policy

/-- The policy of a live run or of a dry one: `CapabilityRateLimiter(consume=args.send)`. -/
def CommandPolicy.inMode (policy : CommandPolicy) (send : Bool) : CommandPolicy :=
  match policy.mode with
  | .legacy _ _ => policy
  | .capability _ => { policy with mode := .capability send }

/-- The policy reserves requests. -/
def CommandPolicy.Consumes (policy : CommandPolicy) : Prop := policy.mode = .capability true

/-- The policy has a rate limiter. -/
def CommandPolicy.Limited (policy : CommandPolicy) : Prop :=
  ∃ consume, policy.mode = .capability consume

theorem CommandPolicy.inMode_limited (policy : CommandPolicy) (send : Bool) :
    (policy.inMode send).Limited ↔ policy.Limited := by
  unfold CommandPolicy.inMode CommandPolicy.Limited
  cases hmode : policy.mode with
  | legacy dids any => simp [hmode]
  | capability consume => simp

theorem CommandPolicy.not_consumes_dry (policy : CommandPolicy) : ¬(policy.inMode false).Consumes := by
  unfold CommandPolicy.inMode CommandPolicy.Consumes
  cases hmode : policy.mode with
  | legacy dids any => simp [hmode]
  | capability consume => simp

/-- The plan does not depend on who reserves. -/
theorem Policy.plan_inMode [Platform] (policy : CommandPolicy) (send : Bool)
    (file : FileMeta × Bytes) (message : RoomMessage) :
    Policy.plan (policy.inMode send) file message = Policy.plan policy file message := by
  unfold CommandPolicy.inMode
  cases hmode : policy.mode with
  | legacy dids any => rfl
  | capability consume =>
      have hgrant : ∀ did, Policy.grantIn { policy with mode := .capability send } file did =
          Policy.grantIn policy file did := by
        intro did
        unfold Policy.grantIn
        rw [hmode]
      have hjudge : ∀ grant, Policy.judge { policy with mode := .capability send } message grant =
          Policy.judge policy message grant := by
        intro grant
        cases grant <;> simp [Policy.judge, hmode]
      unfold Policy.plan Policy.authorization
      simp only [hgrant, hjudge]

/-! ## An environment that leaves the capability file alone -/

/-- The reads of the capability file and of the clock come back with an answer. -/
def Op.Answers : (o : Op) → Except PyErr o.Val → Prop
  | .policyOpen, r => ∃ info, r = .ok info
  | .policyRead, r => ∃ raw, r = .ok raw
  | .rateClock, r => ∃ now : ℕ, r = .ok (some now)
  | _, _ => True

/-- The capability file of a world. -/
def OnFile (file : FileMeta × Bytes) (w : World) : Prop := w.policyFile = file

section Steps

variable [Platform]

/-- One operation while nobody edits the capability file; in a quiet environment it can be
read, and the clock shows a time. -/
def Steady (quiet : Prop) (w : World) (o : Op) (r : Except PyErr o.Val) (w' : World) : Prop :=
  w.step o r w' ∧ w'.policyFile = w.policyFile ∧ (quiet → o.Answers r)

variable {quiet : Prop} {file : FileMeta × Bytes} {s : AgentState} {w : World} {α : Type}

theorem onFile_steady (w : World) (o : Op) (r : Except PyErr o.Val) (w' : World)
    (hw : OnFile file w) (hstep : Steady quiet w o r w') : OnFile file w' :=
  hstep.2.1.trans hw

/-- What holds in every environment holds in a steady one. -/
theorem wp_steady {m : Agent α} {Q : α → AgentState → World → Prop}
    {E : PyErr → AgentState → World → Prop} (h : Wp World.step Anywhere m Q E s w)
    (hw : OnFile file w) : Wp (Steady quiet) (OnFile file) m Q E s w :=
  h.restrict (fun _ _ _ _ hstep => hstep.1) onFile_steady hw

/-- Whatever is done, the capability file stays. -/
theorem wp_anything (m : Agent α) (hw : OnFile file w) :
    Wp (Steady quiet) (OnFile file) m (fun _ _ _ => True) (fun _ _ _ => True) s w :=
  Wp.keeps m onFile_steady s hw

/-- A pure function, and what it may raise. -/
theorem wp_function {r : PyResult α} {Q : α → AgentState → World → Prop}
    {E : PyErr → AgentState → World → Prop} (hw : OnFile file w) (hQ : ∀ a, r = .ok a → Q a s w)
    (hE : ∀ e, r = .error e → E e s w) :
    Wp (Steady quiet) (OnFile file) (Proc.ofExcept r : Agent α) Q E s w := by
  rw [wp_ofExcept]
  refine ⟨hw, ?_⟩
  cases r with
  | ok a => exact hQ a rfl
  | error e => exact hE e rfl

/-! ## Deciding -/

/-- A file whose metadata is refused is refused whatever it holds. -/
theorem policyOfFile_refused {info : FileMeta}
    (h : (info.regular && info.mode % 64 == 0 && info.owned) = false) (raw raw' : Bytes) :
    Capabilities.policyOfFile info raw = Capabilities.policyOfFile info raw' := by
  unfold Capabilities.policyOfFile
  by_cases hregular : info.regular = true
  · by_cases hmode : info.mode % 64 = 0
    · have howned : info.owned = false := by simpa [hregular, hmode] using h
      simp [hregular, hmode, howned]
    · simp [hregular, hmode]
  · simp [hregular]

theorem wp_loadPolicy_plan (hw : OnFile file w) :
    Wp (Steady quiet) (OnFile file) Capabilities.loadPolicy
      (fun loaded _ _ => Capabilities.policyOfFile file.1 file.2 = .ok loaded)
      (fun e _ _ => quiet → Capabilities.policyOfFile file.1 file.2 = .error e) s w := by
  unfold Capabilities.loadPolicy Agent.exceptOSError
  rw [wp_bind, wp_tryCatch, wp_bind, wp_call]
  refine ⟨hw, ?_⟩
  intro r w₁ hopen
  have hw₁ := onFile_steady _ _ _ _ hw hopen
  refine ⟨hw₁, ?_⟩
  cases r with
  | error e =>
      -- a quiet file system does not raise
      have hno : ¬quiet := by
        intro hquiet
        obtain ⟨_, h⟩ := hopen.2.2 hquiet
        cases h
      dsimp only
      split_ifs <;> exact ⟨hw₁, fun hquiet => absurd hquiet hno⟩
  | ok info =>
      have hinfo : file.1 = info := by
        rw [← hw]
        exact hopen.1.1.2 info rfl
      dsimp only
      split_ifs with hmeta
      · rw [wp_bind, wp_call]
        refine ⟨hw₁, ?_⟩
        intro r w₂ hread
        have hw₂ := onFile_steady _ _ _ _ hw₁ hread
        refine ⟨hw₂, ?_⟩
        cases r with
        | error e =>
            have hno : ¬quiet := by
              intro hquiet
              obtain ⟨_, h⟩ := hread.2.2 hquiet
              cases h
            dsimp only
            split_ifs <;> exact ⟨hw₂, fun hquiet => absurd hquiet hno⟩
        | ok raw =>
            have hraw : file.2 = raw := by
              rw [← hw₁]
              exact hread.1.1.2 raw rfl
            refine ⟨hw₂, ?_⟩
            rw [hinfo, hraw]
            exact wp_function hw₂ (fun _ h => h) fun _ h _ => h
      · refine ⟨hw₁, ?_⟩
        rw [hinfo, policyOfFile_refused (Bool.eq_false_of_not_eq_true hmeta) file.2 []]
        exact wp_function hw₁ (fun _ h => h) fun _ h _ => h

theorem wp_grantFor_plan {policy : CommandPolicy} {did : PyStr} (hw : OnFile file w) :
    Wp (Steady quiet) (OnFile file) (Policy.grantFor policy did)
      (fun grant _ _ => Policy.grantIn policy file did = .ok grant)
      (fun e _ _ => quiet → Policy.grantIn policy file did = .error e) s w := by
  unfold Policy.grantFor Policy.grantIn
  cases policy.mode with
  | legacy dids any => exact ⟨hw, rfl⟩
  | capability consume =>
      dsimp only
      rw [wp_bind]
      refine (wp_loadPolicy_plan hw).mono ?_ ?_
      · intro loaded s' w' hw' hloaded
        refine ⟨hw', ?_⟩
        rw [hloaded]
        rfl
      · intro e s' w' _ h hquiet
        rw [h hquiet]
        rfl

theorem wp_authorizeSender_plan {policy : CommandPolicy} {message : RoomMessage}
    (hw : OnFile file w) :
    Wp (Steady quiet) (OnFile file) (Policy.authorizeSender policy message)
      (fun found _ _ => Policy.authorization policy file message = .ok found)
      (fun e _ _ => quiet → Policy.authorization policy file message = .error e) s w := by
  unfold Policy.authorizeSender Policy.authorization
  by_cases hown : message.sender = policy.ownDid
  · rw [if_pos hown, if_pos hown]
    exact ⟨hw, rfl⟩
  by_cases hsigned : ¬message.isSigned
  · rw [if_neg hown, if_neg hown, if_pos hsigned, if_pos hsigned]
    exact ⟨hw, rfl⟩
  rw [if_neg hown, if_neg hown, if_neg hsigned, if_neg hsigned, wp_bind]
  refine (wp_grantFor_plan hw).mono ?_ ?_
  · intro grant s' w' hw' hgrant
    rw [hgrant]
    unfold Policy.judge
    cases policy.mode with
    | legacy dids any =>
        dsimp only
        split_ifs with hdenied
        · exact ⟨hw', by simp [pure, bind, Except.pure, Except.bind]⟩
        · exact ⟨hw', by simp [pure, bind, Except.pure, Except.bind]⟩
    | capability consume =>
        cases grant with
        | none => exact ⟨hw', rfl⟩
        | some g =>
            dsimp only
            split_ifs with henabled
            · exact ⟨hw', by simp [henabled, pure, bind, Except.pure, Except.bind]⟩
            · exact ⟨hw', by simp [henabled, pure, bind, Except.pure, Except.bind]⟩
  · intro e s' w' _ h hquiet
    rw [h hquiet]
    rfl

/-- The limiter raises only where the clock shows no time, or where it saves. -/
theorem wp_allow_plan {consume : Bool} {did : PyStr} {grant : CapabilityGrant}
    (hdid : Crypto.isDid did = true) (hw : OnFile file w) :
    Wp (Steady quiet) (OnFile file) (Capabilities.allow consume did grant.limit)
      (fun _ _ _ => True) (fun _ _ _ => quiet → consume = true) s w := by
  have hvalid : Crypto.validateDid did = .ok did := by rw [Crypto.validateDid, if_pos hdid]
  -- a grant was parsed, so its limit is within the bounds of the limiter
  have hlimit : ¬(grant.limit < 1 ∨ maxRequestsPerHour < grant.limit) := by
    have hpos := grant.limit_pos
    have hle := grant.limit_le
    omega
  unfold Capabilities.allow
  rw [hvalid]
  dsimp only
  rw [if_neg hlimit, wp_bind, wp_call]
  refine ⟨hw, ?_⟩
  intro r w₁ hclock
  have hw₁ := onFile_steady _ _ _ _ hw hclock
  refine ⟨hw₁, ?_⟩
  cases r with
  | error e =>
      intro hquiet
      obtain ⟨_, h⟩ := hclock.2.2 hquiet
      cases h
  | ok reading =>
      cases reading with
      | none =>
          refine ⟨hw₁, ?_⟩
          intro hquiet
          obtain ⟨_, h⟩ := hclock.2.2 hquiet
          cases h
      | some now =>
          dsimp only
          rw [wp_bind, wp_get]
          refine ⟨hw₁, ?_⟩
          rw [wp_bind]
          refine wp_function hw₁ ?_ ?_
          · intro count _
            by_cases hfull : grant.limit ≤ count
            · rw [if_pos hfull]
              exact ⟨hw₁, trivial⟩
            rw [if_neg hfull]
            cases consume with
            | false => exact ⟨hw₁, trivial⟩
            -- only a save can raise now
            | true => exact (wp_anything _ hw₁).mono (fun _ _ _ _ h => h) fun _ _ _ _ _ _ => rfl
          · intro e he
            unfold AgentState.capabilityRequestCount at he
            rw [if_neg (by decide)] at he
            cases he

/-- A grant that authorises a sender comes with a valid DID, and from a capability policy. -/
theorem signed_of_authorization {policy : CommandPolicy} {message : RoomMessage}
    {grant : Option CapabilityGrant}
    (h : Policy.authorization policy file message = .ok (none, grant)) :
    Crypto.isDid message.sender = true ∧ (grant.isSome = true → policy.Limited) := by
  unfold Policy.authorization at h
  by_cases hown : message.sender = policy.ownDid
  · rw [if_pos hown] at h
    cases h
  by_cases hsigned : ¬message.isSigned
  · rw [if_neg hown, if_pos hsigned] at h
    cases h
  rw [if_neg hown, if_neg hsigned] at h
  refine ⟨(RoomMessage.isSigned_iff.mp (not_not.mp hsigned)).2, ?_⟩
  intro hsome
  obtain ⟨found, hfound, h⟩ := PyResult.bind_eq_ok.mp h
  unfold Policy.grantIn at hfound
  unfold CommandPolicy.Limited
  cases hmode : policy.mode with
  | legacy dids any =>
      rw [hmode] at hfound
      cases hfound
      simp only [Policy.judge, hmode, pure, Except.pure] at h
      split_ifs at h
      · cases h
      · cases h
        cases hsome
  | capability consume => exact ⟨consume, rfl⟩

/-- **A decision** is the planned one, or a limit was reached; only the plan raises in a quiet
environment, the saving of a reservation aside. -/
theorem wp_decide_plan {policy : CommandPolicy} {message : RoomMessage} (hw : OnFile file w) :
    Wp (Steady quiet) (OnFile file) (Policy.decide policy message)
      (fun d _ _ => ∃ planned, Policy.plan policy file message = .ok planned ∧
        (d = planned ∨ (d = Policy.ignore .rateLimited ∧ policy.Limited)))
      (fun e _ _ => quiet → ¬policy.Consumes → Policy.plan policy file message = .error e) s w := by
  unfold Policy.decide Policy.plan
  rw [wp_bind]
  refine (wp_authorizeSender_plan hw).mono ?_ ?_
  -- what the sender may do is the same, or cannot be read
  rotate_left
  · intro e s' w' _ h hquiet _
    rw [h hquiet]
    rfl
  rintro ⟨denial, grant⟩ s₁ w₁ hw₁ hfound
  rw [hfound]
  cases denial with
  | some denial => exact ⟨hw₁, denial, rfl, Or.inl rfl⟩
  | none =>
      obtain ⟨hdid, hlimited⟩ := signed_of_authorization hfound
      show Wp _ _ (Policy.decideAuthorizedCommand policy message grant)
        (fun d _ _ => ∃ planned, Policy.requestedDecision message grant = .ok planned ∧ _)
        (fun e _ _ => quiet → _ → Policy.requestedDecision message grant = .error e) _ _
      unfold Policy.decideAuthorizedCommand Policy.requestedDecision
      cases Policy.commandName message.text with
      | none => exact ⟨hw₁, _, rfl, Or.inl rfl⟩
      | some name =>
          dsimp only
          by_cases hlisted : (grant.any fun g => !g.commands.contains name) = true
          · rw [if_pos hlisted, if_pos hlisted]
            exact ⟨hw₁, _, rfl, Or.inl rfl⟩
          rw [if_neg hlisted, if_neg hlisted, wp_bind]
          refine wp_function hw₁ ?_ ?_
          · intro parsed hparsed
            rw [hparsed]
            show Wp _ _ _ (fun d _ _ => ∃ planned, (if parsed.decision.action = .ignore then
              (Except.ok parsed.decision : PyResult Decision) else
                if Policy.repositoryRefused grant parsed.repository then
                  .ok (Policy.ignore .repositoryNotGranted) else .ok parsed.decision) =
                .ok planned ∧ _) _ _ _
            by_cases hignore : parsed.decision.action = .ignore
            · rw [if_pos hignore, if_pos hignore]
              exact ⟨hw₁, _, rfl, Or.inl rfl⟩
            by_cases hrefused : Policy.repositoryRefused grant parsed.repository = true
            · rw [if_neg hignore, if_neg hignore, if_pos hrefused, if_pos hrefused]
              exact ⟨hw₁, _, rfl, Or.inl rfl⟩
            rw [if_neg hignore, if_neg hignore, if_neg hrefused, if_neg hrefused]
            cases grant with
            | none => exact ⟨hw₁, _, rfl, Or.inl rfl⟩
            | some g =>
                obtain ⟨consume, hmode⟩ := hlimited rfl
                dsimp only
                rw [wp_bind, Policy.allowRequest, hmode]
                -- only the limiter decides otherwise than the plan
                refine (wp_allow_plan hdid hw₁).mono ?_ ?_
                · intro allowed s₂ w₂ hw₂ _
                  cases allowed with
                  | true => exact ⟨hw₂, _, rfl, Or.inl rfl⟩
                  | false => exact ⟨hw₂, _, rfl, Or.inr ⟨rfl, consume, hmode⟩⟩
                · intro e s₂ w₂ _ hconsume hquiet hno
                  refine absurd ?_ hno
                  rw [CommandPolicy.Consumes, hmode, hconsume hquiet]
          · intro e he hquiet _
            rw [he]
            rfl

end Steps

/-! ## Events that follow the plan -/

/-- The event with nothing but what was decided. -/
def MessageEvent.plain (event : MessageEvent) : MessageEvent :=
  { outcome := event.decision.outcome, decision := event.decision, room := event.room,
    seq := event.seq, sender := event.sender, reason := event.reason }

namespace SafeResponder

variable [Platform]

/-- The same agent, with or without `--send`. -/
def inMode (r : SafeResponder) (send : Bool) : SafeResponder :=
  { r with policy := r.policy.inMode send, send }

/-- The agent neither sends nor reserves. -/
def Dry (r : SafeResponder) : Prop := r.send = false ∧ ¬r.policy.Consumes

/-- The event shows the planned decision on the message, or that a limit was reached. -/
def Follows (r : SafeResponder) (file : FileMeta × Bytes) (message : RoomMessage)
    (event : MessageEvent) : Prop :=
  ∃ planned, Policy.plan r.policy file message = .ok planned ∧
    (event.plain = baseEvent r message planned ∨ (event.reason = .rateLimited ∧ r.policy.Limited))

theorem follows_inMode {r : SafeResponder} {send : Bool} {file : FileMeta × Bytes}
    {message : RoomMessage} {event : MessageEvent} :
    Follows (r.inMode send) file message event ↔ Follows r file message event := by
  unfold Follows inMode
  simp only [Policy.plan_inMode, CommandPolicy.inMode_limited]
  rfl

variable {quiet : Prop} {file : FileMeta × Bytes} {r : SafeResponder} {s : AgentState} {w : World}

/-- What is done with a decision does not change it; only a live agent can fail. -/
theorem wp_answerDecision_plain {message : RoomMessage} {d : Decision} (hw : OnFile file w) :
    Wp (Steady quiet) (OnFile file) (answerDecision r message d)
      (fun event _ _ => event.plain = baseEvent r message d) (fun _ _ _ => r.send = true) s w := by
  unfold answerDecision
  split
  · unfold replyEvent
    by_cases hsend : r.send = true
    · rw [if_neg (not_not.mpr hsend), wp_bind]
      exact (wp_anything _ hw).mono (fun _ _ _ hw' _ => ⟨hw', rfl⟩) fun _ _ _ _ _ => hsend
    · rw [if_pos hsend]
      exact ⟨hw, rfl⟩
  · unfold receiptEvent
    by_cases hsend : r.send = true
    · rw [if_neg (not_not.mpr hsend)]
      by_cases hservice : ¬r.receiptService
      · rw [if_pos hservice]
        exact ⟨hw, hsend⟩
      rw [if_neg hservice, wp_bind]
      refine (wp_anything _ hw).mono ?_ fun _ _ _ _ _ => hsend
      intro issued s₁ w₁ hw₁ _
      cases issued with
      | error e => exact ⟨hw₁, rfl⟩
      | ok receipt =>
          dsimp only
          rw [wp_bind]
          refine (wp_anything _ hw₁).mono ?_ fun _ _ _ _ _ => hsend
          intro posted s₂ w₂ hw₂ _
          rw [wp_bind]
          exact wp_function hw₂ (fun _ _ => ⟨hw₂, rfl⟩) fun _ _ => hsend
    · rw [if_pos hsend]
      exact ⟨hw, rfl⟩
  · exact ⟨hw, rfl⟩

theorem wp_eventForMessage_follows {message : RoomMessage} (hw : OnFile file w) :
    Wp (Steady quiet) (OnFile file) (eventForMessage r message)
      (fun event _ _ => Follows r file message event)
      (fun e _ _ => quiet → r.Dry → Policy.plan r.policy file message = .error e) s w := by
  unfold eventForMessage
  rw [wp_bind]
  refine (wp_decide_plan hw).mono ?_ ?_
  · rintro d s₁ w₁ hw₁ ⟨planned, hplan, hd⟩
    refine (wp_answerDecision_plain hw₁).mono ?_ ?_
    · intro event s₂ w₂ _ hplain
      refine ⟨planned, hplan, ?_⟩
      rcases hd with rfl | ⟨rfl, hlimited⟩
      · exact Or.inl hplain
      · exact Or.inr ⟨congrArg MessageEvent.reason hplain, hlimited⟩
    · intro e s₂ w₂ _ hsend _ hdry
      rw [hdry.1] at hsend
      cases hsend
  · intro e s₁ w₁ _ h hquiet hdry
    exact h hquiet hdry.2

/-- A dry agent only moves the cursor. -/
theorem wp_persistProcessedMessage_dry {message : RoomMessage} {event : MessageEvent}
    (hw : OnFile file w) (hcursor : s.cursorFor r.room ≤ message.seq) :
    Wp (Steady quiet) (OnFile file) (persistProcessedMessage r message event)
      (fun _ _ _ => True) (fun _ _ _ => r.send = true) s w := by
  by_cases hsend : r.send = true
  · exact (wp_anything _ hw).mono (fun _ _ _ _ h => h) fun _ _ _ _ _ => hsend
  have hdry : r.send = false := eq_false_of_ne_true hsend
  unfold persistProcessedMessage
  rw [hdry]
  show Wp _ _ (pure () >>= fun _ => advanceCursor r.room message.seq >>= fun _ => pure ()) _ _ s w
  rw [wp_bind]
  refine ⟨hw, ?_⟩
  dsimp only
  rw [wp_bind]
  exact wp_advanceCursor_any hw hcursor ⟨hw, trivial⟩

/-- The events that a run has handled, against what was due: the planned decisions, in order. -/
def PlannedRun (r : SafeResponder) (file : FileMeta × Bytes) (w w' : World)
    (messages : List RoomMessage) (events : List MessageEvent) : Prop :=
  w'.handled = w.handled ++ events ∧ List.Forall₂ (Follows r file) messages events

theorem PlannedRun.nil {w' : World} (h : w'.handled = w.handled) : PlannedRun r file w w' [] [] :=
  ⟨by rw [h, List.append_nil], .nil⟩

theorem PlannedRun.append {w₁ w₂ : World} {messages messages' : List RoomMessage}
    {events events' : List MessageEvent} (h : PlannedRun r file w w₁ messages events)
    (h' : PlannedRun r file w₁ w₂ messages' events') :
    PlannedRun r file w w₂ (messages ++ messages') (events ++ events') :=
  ⟨by rw [h'.1, h.1, List.append_assoc], List.rel_append h.2 h'.2⟩

/-- The loop over the messages, by induction on what is left of them. -/
theorem wp_processMessages_follows (messages : List RoomMessage) {cursor : ℕ} {before : Bool}
    (hordered : (messages.map RoomMessage.seq).Pairwise (· < ·))
    (hcursor : s.cursorFor r.room = cursor) (hw : OnFile file w) :
    Wp (Steady quiet) (OnFile file) (processMessages r messages cursor before)
      (fun result _ w' => ∃ events, result.1 = events.map Event.handled ∧
        PlannedRun r file w w' (due cursor messages) events)
      (fun _ _ w' => ∃ done events, done <+: due cursor messages ∧ PlannedRun r file w w' done events ∧
        (quiet → r.Dry → ∃ m ∈ due cursor messages, ∃ e, Policy.plan r.policy file m = .error e))
      s w := by
  induction messages generalizing cursor before s w with
  | nil => exact ⟨hw, [], rfl, PlannedRun.nil rfl⟩
  | cons message rest ih =>
      have hrest : (rest.map RoomMessage.seq).Pairwise (· < ·) := by
        rw [List.map_cons, List.pairwise_cons] at hordered
        exact hordered.2
      rw [processMessages]
      by_cases hseen : message.seq ≤ cursor
      · rw [if_pos hseen, due_of_le hseen]
        exact ih hrest hcursor hw
      have hlt : cursor < message.seq := by omega
      rw [if_neg hseen, due_of_lt hlt hordered, wp_bind]
      refine ((wp_steady wp_eventForMessage_any hw).and (wp_eventForMessage_follows hw)).mono ?_ ?_
      rotate_left
      · rintro e s₁ w₁ - ⟨hhandling, hplan⟩
        exact ⟨[], [], List.nil_prefix, PlannedRun.nil hhandling.handled, fun hquiet hdry =>
          ⟨message, List.mem_cons_self, e, hplan hquiet hdry⟩⟩
      rintro event s₁ w₁ hw₁ ⟨⟨hhandling, -, -⟩, hfollows⟩
      rw [wp_bind, wp_call]
      refine ⟨hw₁, ?_⟩
      intro result w₂ hstep
      have hw₂ := onFile_steady _ _ _ _ hw₁ hstep
      obtain ⟨⟨⟨rfl, rfl⟩, -⟩, -⟩ := hstep
      refine ⟨hw₂, ?_⟩
      -- the event is in the history from here on
      have hevent : PlannedRun r file w { w₁ with handled := w₁.handled ++ [event] } [message] [event] :=
        ⟨by rw [← hhandling.handled], .cons hfollows .nil⟩
      have hcursor₁ : s₁.cursorFor r.room ≤ message.seq := by
        rw [hhandling.kept.cursor, hcursor]
        omega
      dsimp only
      rw [wp_bind]
      refine ((wp_steady (wp_persistProcessedMessage_any hcursor₁) hw₂).and
        (wp_persistProcessedMessage_dry hw₂ hcursor₁)).mono ?_ ?_
      rotate_left
      · rintro e s₂ w₂ - ⟨hpersisting, hsend⟩
        refine ⟨[message], [event], ⟨_, rfl⟩, ?_, ?_⟩
        · exact ⟨hpersisting.1.trans hevent.1, hevent.2⟩
        · intro _ hdry
          rw [hdry.1] at hsend
          cases hsend
      rintro - s₂ w₂ hw₃ ⟨⟨rfl, hhistory, -⟩, -⟩
      have hkept := hhandling.kept.trans (Kept.atCursor s₁ r.room message.seq)
      have hdone : PlannedRun r file w w₂ [message] [event] := ⟨hhistory.trans hevent.1, hevent.2⟩
      rw [wp_bind]
      refine (ih hrest hkept.cursor hw₃).mono ?_ ?_
      · rintro ⟨rendered, reached, any⟩ s₃ w₄ hw₄ ⟨events, hrendered, hevents⟩
        refine ⟨hw₄, event :: events, ?_, hdone.append hevents⟩
        rw [List.map_cons, ← hrendered]
      · rintro e s₃ w₄ - ⟨done, events, hprefix, hevents, hplan⟩
        refine ⟨message :: done, event :: events, ?_, hdone.append hevents, ?_⟩
        · exact List.prefix_cons_iff.mpr (Or.inr ⟨done, rfl, hprefix⟩)
        · intro hquiet hdry
          obtain ⟨m, hm, e, he⟩ := hplan hquiet hdry
          exact ⟨m, List.mem_cons_of_mem _ hm, e, he⟩

/-! ## A snapshot -/

omit [Platform] in
theorem handledEvents_append (events events' : List Event) :
    handledEvents (events ++ events') = handledEvents events ++ handledEvents events' :=
  List.filterMap_append

omit [Platform] in
theorem handledEvents_map (events : List MessageEvent) :
    handledEvents (events.map Event.handled) = events := by
  rw [handledEvents, List.filterMap_map]
  exact List.filterMap_some

theorem wp_saveState_steady (hw : OnFile file w) :
    Wp (Steady quiet) (OnFile file) Agent.saveState (fun _ _ w' => w'.handled = w.handled)
      (fun _ _ w' => w'.handled = w.handled) s w :=
  wp_steady (Agent.wp_saveState trivial trivial rfl (fun _ _ => rfl) fun _ _ => rfl) hw

/-- After the loop no message is handled, and only a live agent can fail. -/
theorem wp_afterMessages_follows {lastSeq cursor : ℕ} {needed any : Bool} {before events : List Event}
    (hcursor : any = false → s.cursorFor r.room = cursor) (hw : OnFile file w) :
    Wp (Steady quiet) (OnFile file) (afterMessages r lastSeq needed before events cursor any)
      (fun result _ w' => handledEvents result = handledEvents (before ++ events) ∧
        w'.handled = w.handled)
      (fun _ _ w' => w'.handled = w.handled ∧ r.send = true) s w := by
  -- the cursor moves to the end of a page that had nothing new
  have hskip : Wp (Steady quiet) (OnFile file) (skipUnavailable r cursor lastSeq any)
      (fun skipped _ w' => handledEvents skipped = [] ∧ w'.handled = w.handled)
      (fun _ _ w' => w'.handled = w.handled ∧ r.send = true) s w := by
    unfold skipUnavailable
    by_cases hbehind : ¬any ∧ cursor < lastSeq
    · rw [if_pos hbehind, wp_bind]
      have hle : s.cursorFor r.room ≤ lastSeq := by
        rw [hcursor (by simpa using hbehind.1)]
        omega
      refine wp_advanceCursor_any hw hle ?_
      by_cases hsend : r.send = true
      · rw [if_pos hsend, wp_bind]
        exact (wp_saveState_steady hw).mono (fun _ _ _ hw' h => ⟨hw', rfl, h⟩)
          fun _ _ _ _ h => ⟨h, hsend⟩
      · rw [if_neg hsend]
        exact ⟨hw, rfl, rfl⟩
    · rw [if_neg hbehind]
      exact ⟨hw, rfl, rfl⟩
  unfold afterMessages
  rw [wp_bind]
  refine hskip.mono ?_ fun _ _ _ _ h => h
  rintro skipped s₁ w₁ hw₁ ⟨hskipped, hhistory⟩
  have hresult : handledEvents (before ++ events ++ skipped) = handledEvents (before ++ events) := by
    rw [handledEvents_append, hskipped, List.append_nil]
  dsimp only
  by_cases hsave : (r.send && needed && !(r.send && (any || !skipped.isEmpty))) = true
  · rw [if_pos hsave, wp_bind]
    have hsend : r.send = true := by
      simp only [Bool.and_eq_true] at hsave
      exact hsave.1.1
    exact (wp_saveState_steady hw₁).mono (fun _ _ _ hw' h => ⟨hw', hresult, h.trans hhistory⟩)
      fun _ _ _ _ h => ⟨h.trans hhistory, hsend⟩
  · rw [if_neg hsave]
    exact ⟨hw₁, hresult, hhistory⟩

/-- The snapshot is of the agent's room, its generation does not go back, and every message
that is due has a planned decision. -/
structure Acceptable (r : SafeResponder) (file : FileMeta × Bytes) (cursor : ℕ)
    (generation : Option ℕ) (snapshot : RoomSnapshot) : Prop where
  room : snapshot.room = r.room
  forward : ∀ previous, generation = some previous → previous ≤ snapshot.generation
  planned : ∀ m ∈ due cursor snapshot.messages, ∃ d, Policy.plan r.policy file m = .ok d

theorem wp_processSnapshot_follows {snapshot : RoomSnapshot} (hw : OnFile file w) :
    Wp (Steady quiet) (OnFile file) (processSnapshot r snapshot)
      (fun events _ w' =>
        PlannedRun r file w w' (due (s.cursorFor r.room) snapshot.messages) (handledEvents events))
      (fun _ _ w' => ∃ done events, done <+: due (s.cursorFor r.room) snapshot.messages ∧
        PlannedRun r file w w' done events ∧
        (quiet → r.Dry → ¬Acceptable r file (s.cursorFor r.room) (s.generationFor r.room) snapshot))
      s w := by
  unfold processSnapshot
  by_cases hroom : snapshot.room ≠ r.room
  · rw [if_pos hroom]
    exact ⟨hw, [], [], List.nil_prefix, PlannedRun.nil rfl, fun _ _ h => hroom h.room⟩
  rw [if_neg hroom, wp_bind, wp_get]
  refine ⟨hw, ?_⟩
  unfold observeSnapshotGeneration
  rw [wp_bind, wp_bind, wp_get]
  refine ⟨hw, ?_⟩
  cases hgeneration : s.observeGeneration r.room snapshot.generation with
  | error e =>
      -- the generation went back: this snapshot would not be acceptable
      refine ⟨hw, [], [], List.nil_prefix, PlannedRun.nil rfl, ?_⟩
      intro _ _ h
      unfold AgentState.observeGeneration at hgeneration
      cases hprevious : s.generationFor r.room with
      | none => simp [hprevious] at hgeneration
      | some previous =>
          have hle := h.forward previous hprevious
          simp only [hprevious] at hgeneration
          rw [if_neg (by omega)] at hgeneration
          cases hgeneration
  | ok p =>
      obtain ⟨grew, s₁⟩ := p
      obtain rfl : s₁ = observed s r.room snapshot.generation :=
        AgentState.observeGeneration_ok hgeneration
      dsimp only
      rw [wp_bind, wp_set]
      refine ⟨hw, hw, ?_⟩
      dsimp only
      rw [wp_bind, wp_get]
      refine ⟨hw, ?_⟩
      rw [wp_bind]
      have hsame : (observed s r.room snapshot.generation).cursorFor r.room =
          s.cursorFor r.room := rfl
      refine ((wp_steady (wp_processMessages_any snapshot.messages snapshot.ordered rfl) hw).and
        (wp_processMessages_follows snapshot.messages snapshot.ordered rfl hw)).mono ?_ ?_
      rotate_left
      -- a message raised: quiet and dry, the plan of one of them would have to raise
      · rintro e s₂ w₂ - ⟨-, done, events, hprefix, hevents, hplan⟩
        refine ⟨done, events, hprefix, hevents, ?_⟩
        intro hquiet hdry h
        obtain ⟨m, hm, e, he⟩ := hplan hquiet hdry
        obtain ⟨d, hd⟩ := h.planned m hm
        rw [hd] at he
        cases he
      rintro ⟨rendered, position, any⟩ s₂ w₂ hw₂ ⟨⟨handled, hcompleted, hresult⟩, events, hevents, hrun⟩
      simp only [Prod.mk.injEq] at hresult
      obtain ⟨-, rfl, rfl⟩ := hresult
      dsimp only at hevents
      have hidle : (false || !(due (s.cursorFor r.room) snapshot.messages).isEmpty) = false →
          s₂.cursorFor r.room =
            reached (s.cursorFor r.room) (due (s.cursorFor r.room) snapshot.messages) := by
        intro _
        rw [← hsame]
        exact hcompleted.kept.cursor
      dsimp only
      refine (wp_afterMessages_follows hidle hw₂).mono ?_ ?_
      · rintro all s₃ w₃ - ⟨hall, hhistory⟩
        -- the events of the generation and of the history are about no message
        have hchanged : ∀ {c : Prop} [Decidable c] (event : Event), (∀ e, event ≠ .handled e) →
            handledEvents (if c then [event] else []) = [] := by
          intro c _ event hne
          split_ifs
          · cases event <;> first | rfl | exact absurd rfl (hne _)
          · rfl
        rw [hall, hevents, handledEvents_append, handledEvents_append, hchanged _ (by simp),
          hchanged _ (by simp), handledEvents_map]
        exact ⟨hhistory.trans hrun.1, hrun.2⟩
      · rintro e s₃ w₃ - ⟨hhistory, hsend⟩
        refine ⟨_, events, List.prefix_rfl, ⟨hhistory.trans hrun.1, hrun.2⟩, ?_⟩
        intro _ hdry
        rw [hdry.1] at hsend
        cases hsend

/-! ## Runs over snapshots -/

/-- The snapshots of a run, processed one after another. -/
def processSnapshots (r : SafeResponder) : List RoomSnapshot → Agent (List Event)
  | [] => pure []
  | snapshot :: rest => do
      let events ← processSnapshot r snapshot
      let others ← processSnapshots r rest
      return events ++ others

/-- The messages that a run handles. -/
def dueRun : ℕ → List RoomSnapshot → List RoomMessage
  | _, [] => []
  | cursor, snapshot :: rest =>
      due cursor snapshot.messages ++ dueRun (cursorAfter cursor snapshot) rest

/-- The cursor after a run. -/
def cursorRun (cursor : ℕ) (snapshots : List RoomSnapshot) : ℕ := snapshots.foldl cursorAfter cursor

/-- The generation after a run. -/
def generationRun (generation : Option ℕ) (snapshots : List RoomSnapshot) : Option ℕ :=
  snapshots.foldl (fun _ snapshot => some snapshot.generation) generation

/-- Every snapshot of a run is acceptable where it comes. -/
def AcceptableRun (r : SafeResponder) (file : FileMeta × Bytes) :
    ℕ → Option ℕ → List RoomSnapshot → Prop
  | _, _, [] => True
  | cursor, generation, snapshot :: rest =>
      Acceptable r file cursor generation snapshot ∧
        AcceptableRun r file (cursorAfter cursor snapshot) (some snapshot.generation) rest

theorem acceptable_inMode {send : Bool} {cursor : ℕ} {generation : Option ℕ}
    {snapshot : RoomSnapshot} : Acceptable (r.inMode send) file cursor generation snapshot ↔
      Acceptable r file cursor generation snapshot := by
  constructor
  · rintro ⟨hroom, hforward, hplanned⟩
    exact ⟨hroom, hforward, by simpa only [inMode, Policy.plan_inMode] using hplanned⟩
  · rintro ⟨hroom, hforward, hplanned⟩
    exact ⟨hroom, hforward, by simpa only [inMode, Policy.plan_inMode] using hplanned⟩

theorem acceptableRun_inMode {send : Bool} (snapshots : List RoomSnapshot) (cursor : ℕ)
    (generation : Option ℕ) : AcceptableRun (r.inMode send) file cursor generation snapshots ↔
      AcceptableRun r file cursor generation snapshots := by
  induction snapshots generalizing cursor generation with
  | nil => exact Iff.rfl
  | cons snapshot rest ih => exact and_congr acceptable_inMode (ih _ _)

theorem exists_follows {messages : List RoomMessage} {events : List MessageEvent}
    (h : List.Forall₂ (Follows r file) messages events) {m : RoomMessage} (hm : m ∈ messages) :
    ∃ event, Follows r file m event := by
  induction h with
  | nil => exact absurd hm List.not_mem_nil
  | cons hhead _ ih =>
      rcases List.mem_cons.mp hm with rfl | hm
      · exact ⟨_, hhead⟩
      · exact ih hm

/-- A snapshot that was processed was acceptable. -/
theorem acceptable_of_finished {snapshot : RoomSnapshot} {events changed : List Event}
    {handled : List MessageEvent} {s' : AgentState} {w' : World}
    (h : Finished r snapshot s w events s' w' changed handled)
    (hrun : PlannedRun r file w w' (due (s.cursorFor r.room) snapshot.messages)
      (handledEvents events)) :
    Acceptable r file (s.cursorFor r.room) (s.generationFor r.room) snapshot where
  room := h.sameRoom
  forward := by
    intro previous hprevious
    obtain ⟨grew, hgrew⟩ := h.forward
    unfold AgentState.observeGeneration at hgrew
    simp only [hprevious] at hgrew
    by_contra hback
    rw [if_pos (by omega)] at hgrew
    cases hgrew
  planned := by
    intro m hm
    obtain ⟨event, d, hd, -⟩ := exists_follows hrun.2 hm
    exact ⟨d, hd⟩

theorem wp_processSnapshots_follows (snapshots : List RoomSnapshot) (hw : OnFile file w) :
    Wp (Steady quiet) (OnFile file) (processSnapshots r snapshots)
      (fun events s' w' =>
        PlannedRun r file w w' (dueRun (s.cursorFor r.room) snapshots) (handledEvents events) ∧
        s'.cursorFor r.room = cursorRun (s.cursorFor r.room) snapshots ∧
        s'.generationFor r.room = generationRun (s.generationFor r.room) snapshots ∧
        AcceptableRun r file (s.cursorFor r.room) (s.generationFor r.room) snapshots)
      (fun _ _ w' => ∃ done events, done <+: dueRun (s.cursorFor r.room) snapshots ∧
        PlannedRun r file w w' done events ∧ (quiet → r.Dry →
          ¬AcceptableRun r file (s.cursorFor r.room) (s.generationFor r.room) snapshots))
      s w := by
  induction snapshots generalizing s w with
  | nil => exact ⟨hw, PlannedRun.nil rfl, rfl, rfl, trivial⟩
  | cons snapshot rest ih =>
      rw [processSnapshots, wp_bind]
      refine ((wp_steady wp_processSnapshot_any hw).and (wp_processSnapshot_follows hw)).mono ?_ ?_
      -- the first snapshot raised
      rotate_left
      · rintro e s₁ w₁ - ⟨-, done, events, hprefix, hrun, hdry⟩
        refine ⟨done, events, hprefix.trans (List.prefix_append _ _), hrun, ?_⟩
        intro hquiet hr h
        exact hdry hquiet hr h.1
      rintro events s₁ w₁ hw₁ ⟨⟨changed, handled, hfinished⟩, hrun⟩
      have hcursor := hfinished.kept.cursor
      have hgeneration : s₁.generationFor r.room = some snapshot.generation := by
        rw [hfinished.kept.generation, AgentState.generationFor, observed, PyDict.get?_set_self]
      have haccepted := acceptable_of_finished hfinished hrun
      rw [wp_bind]
      -- the rest of the run begins where the first snapshot ends
      refine (ih hw₁).mono ?_ ?_
      · rintro others s₂ w₂ hw₂ ⟨hothers, hcursor₂, hgeneration₂, hacceptable⟩
        rw [hcursor] at hothers hcursor₂ hacceptable
        rw [hgeneration] at hgeneration₂ hacceptable
        refine ⟨hw₂, ?_, hcursor₂, hgeneration₂, haccepted, hacceptable⟩
        rw [handledEvents_append]
        exact hrun.append hothers
      · rintro e s₂ w₂ - ⟨done, others, hprefix, hothers, hdry⟩
        rw [hcursor] at hprefix hdry
        rw [hgeneration] at hdry
        refine ⟨_, _, ?_, hrun.append hothers, ?_⟩
        · exact (List.prefix_append_right_inj _).mpr hprefix
        · intro hquiet hr h
          exact hdry hquiet hr h.2

end SafeResponder

/-! ## What a dry run is left with -/

/-- Reading the capability file. -/
def Op.ReadsPolicy : Op → Prop
  | .policyOpen => True
  | .policyRead => True
  | _ => False

/-- Reading the capability file and the clock, and the history of the model. -/
def Op.Passive : Op → Prop
  | .policyOpen => True
  | .policyRead => True
  | .rateClock => True
  | .handling _ => True
  | _ => False

theorem Op.ReadsPolicy.passive {o : Op} (h : o.ReadsPolicy) : o.Passive := by
  cases o with
  | policyOpen => trivial
  | policyRead => trivial
  | _ => exact h.elim

/-- The nonces and the quota history of a state are those of another. -/
structure AgentState.Untouched (s s' : AgentState) : Prop where
  nonces : s'.nonces = s.nonces
  capabilityRequests : s'.capabilityRequests = s.capabilityRequests

section Touching

variable [Platform] {start s : AgentState}

theorem only_loadPolicy (hs : start.Untouched s) :
    Only Op.ReadsPolicy start.Untouched Capabilities.loadPolicy s := by
  unfold Capabilities.loadPolicy Agent.exceptOSError
  refine only_bind (only_tryCatch (only_bind (only_call trivial hs) ?_) ?_) ?_
  · intro info s₁ hs₁
    split_ifs
    · exact only_bind (only_call trivial hs₁) fun _ _ hs₂ => only_pure hs₂
    · exact only_pure hs₁
  · intro e s₁ hs₁
    split_ifs
    · exact only_throw hs₁
    · exact only_throw hs₁
  · rintro ⟨info, raw⟩ s₁ hs₁
    exact only_ofExcept hs₁

theorem only_authorizeSender {policy : CommandPolicy} {message : RoomMessage}
    (hs : start.Untouched s) :
    Only Op.ReadsPolicy start.Untouched (Policy.authorizeSender policy message) s := by
  have hgrant : Only Op.ReadsPolicy start.Untouched (Policy.grantFor policy message.sender) s := by
    unfold Policy.grantFor
    cases policy.mode with
    | legacy dids any => exact only_pure hs
    | capability consume => exact only_bind (only_loadPolicy hs) fun _ _ hs₁ => only_pure hs₁
  unfold Policy.authorizeSender
  by_cases hown : message.sender = policy.ownDid
  · rw [if_pos hown]
    exact only_pure hs
  by_cases hsigned : ¬message.isSigned
  · rw [if_neg hown, if_pos hsigned]
    exact only_pure hs
  rw [if_neg hown, if_neg hsigned]
  refine only_bind hgrant ?_
  intro grant s₁ hs₁
  cases policy.mode with
  | legacy dids any =>
      dsimp only
      split_ifs <;> exact only_pure hs₁
  | capability consume =>
      cases grant with
      | none => exact only_pure hs₁
      | some g =>
          dsimp only
          split_ifs <;> exact only_pure hs₁

omit [Platform] in
/-- A limiter that does not consume. -/
theorem only_allow {did : PyStr} {limit : ℕ} (hs : start.Untouched s) :
    Only Op.Passive start.Untouched (Capabilities.allow false did limit) s := by
  unfold Capabilities.allow
  cases Crypto.validateDid did with
  | error e => exact only_throw hs
  | ok validDid =>
      dsimp only
      by_cases hlimit : limit < 1 ∨ maxRequestsPerHour < limit
      · rw [if_pos hlimit]
        exact only_throw hs
      rw [if_neg hlimit]
      refine only_bind (only_call trivial hs) ?_
      intro reading s₁ hs₁
      cases reading with
      | none => exact only_throw hs₁
      | some now =>
          refine only_get_bind ?_
          refine only_bind (only_ofExcept hs₁) ?_
          intro count s₂ hs₂
          by_cases hfull : limit ≤ count
          · rw [if_pos hfull]
            exact only_pure hs₂
          · rw [if_neg hfull]
            exact only_pure hs₂

theorem only_decide {policy : CommandPolicy} {message : RoomMessage} (hpolicy : ¬policy.Consumes)
    (hs : start.Untouched s) : Only Op.Passive start.Untouched (Policy.decide policy message) s := by
  unfold Policy.decide
  refine only_bind ((only_authorizeSender hs).imp fun _ ho => ho.passive) ?_
  rintro ⟨denial, grant⟩ s₁ hs₁
  cases denial with
  | some denial => exact only_pure hs₁
  | none =>
      dsimp only
      unfold Policy.decideAuthorizedCommand
      cases Policy.commandName message.text with
      | none => exact only_pure hs₁
      | some name =>
          dsimp only
          by_cases hlisted : (grant.any fun g => !g.commands.contains name) = true
          · rw [if_pos hlisted]
            exact only_pure hs₁
          rw [if_neg hlisted]
          refine only_bind (only_ofExcept hs₁) ?_
          intro parsed s₂ hs₂
          split_ifs
          · exact only_pure hs₂
          · exact only_pure hs₂
          cases grant with
          | none => exact only_pure hs₂
          | some g =>
              have hallow : Only Op.Passive start.Untouched
                  (Policy.allowRequest policy message.sender g.limit) s₂ := by
                unfold Policy.allowRequest
                cases hmode : policy.mode with
                | legacy dids any => exact only_throw hs₂
                | capability consume =>
                    cases consume with
                    | true => exact absurd hmode hpolicy
                    | false => exact only_allow hs₂
              refine only_bind hallow ?_
              intro allowed s₃ hs₃
              split_ifs
              · exact only_pure hs₃
              · exact only_pure hs₃

namespace SafeResponder

variable {r : SafeResponder}

omit [Platform] in
theorem only_advanceCursor {room : PyStr} {n : ℕ} (hs : start.Untouched s) :
    Only Op.Passive start.Untouched (advanceCursor room n) s := by
  unfold advanceCursor
  refine only_get_bind ?_
  cases h : s.advanceCursor room n with
  | error e => exact only_throw hs
  | ok s' =>
      have hs' : start.Untouched s' := by
        unfold AgentState.advanceCursor at h
        split_ifs at h
        cases h
        exact ⟨hs.nonces, hs.capabilityRequests⟩
      exact only_set hs'

theorem only_processMessages (hr : r.Dry) (messages : List RoomMessage) {cursor : ℕ} {before : Bool}
    (hs : start.Untouched s) :
    Only Op.Passive start.Untouched (processMessages r messages cursor before) s := by
  induction messages generalizing cursor before s with
  | nil => exact only_pure hs
  | cons message rest ih =>
      rw [processMessages]
      by_cases hseen : message.seq ≤ cursor
      · rw [if_pos hseen]
        exact ih hs
      rw [if_neg hseen]
      have hevent : Only Op.Passive start.Untouched (eventForMessage r message) s := by
        refine only_bind (only_decide hr.2 hs) ?_
        intro d s₁ hs₁
        unfold answerDecision
        split
        · rw [replyEvent, hr.1]
          exact only_pure hs₁
        · rw [receiptEvent, hr.1]
          exact only_pure hs₁
        · exact only_pure hs₁
      refine only_bind hevent ?_
      intro event s₁ hs₁
      refine only_bind (only_call trivial hs₁) ?_
      intro _ s₂ hs₂
      -- dry, a processed message moves the cursor in memory, and no file is written
      have hpersist : Only Op.Passive start.Untouched (persistProcessedMessage r message event) s₂ := by
        unfold persistProcessedMessage
        rw [hr.1]
        show Only _ _ (pure () >>= fun _ => advanceCursor r.room message.seq >>= fun _ => pure ()) _
        refine only_bind (only_pure hs₂) ?_
        intro _ s₃ hs₃
        exact only_bind (only_advanceCursor hs₃) fun _ _ hs₄ => only_pure hs₄
      refine only_bind hpersist ?_
      intro _ s₃ hs₃
      refine only_bind (ih hs₃) ?_
      rintro ⟨events, position, any⟩ s₄ hs₄
      exact only_pure hs₄

theorem only_processSnapshot (hr : r.Dry) {snapshot : RoomSnapshot} (hs : start.Untouched s) :
    Only Op.Passive start.Untouched (processSnapshot r snapshot) s := by
  have hobserve : Only Op.Passive start.Untouched (observeSnapshotGeneration r snapshot) s := by
    unfold observeSnapshotGeneration
    refine only_get_bind ?_
    cases h : s.observeGeneration r.room snapshot.generation with
    | error e => exact only_throw hs
    | ok p =>
        obtain ⟨grew, s'⟩ := p
        obtain rfl := AgentState.observeGeneration_ok h
        exact only_bind (only_set (by exact ⟨hs.nonces, hs.capabilityRequests⟩)) fun _ _ hs₁ =>
          only_pure hs₁
  unfold processSnapshot
  by_cases hroom : snapshot.room ≠ r.room
  · rw [if_pos hroom]
    exact only_throw hs
  rw [if_neg hroom]
  refine only_get_bind ?_
  refine only_bind hobserve ?_
  intro grew s₁ hs₁
  refine only_get_bind ?_
  refine only_bind (only_processMessages hr snapshot.messages hs₁) ?_
  rintro ⟨events, position, any⟩ s₂ hs₂
  have hskip : Only Op.Passive start.Untouched
      (skipUnavailable r position snapshot.lastSeq any) s₂ := by
    unfold skipUnavailable
    split_ifs with hbehind hsend
    · rw [hr.1] at hsend
      cases hsend
    · exact only_bind (only_advanceCursor hs₂) fun _ _ hs₃ => only_pure hs₃
    · exact only_pure hs₂
  refine only_bind hskip ?_
  intro skipped s₃ hs₃
  rw [hr.1]
  exact only_pure hs₃

/-- **A dry run** reads the capability file and the clock, and moves cursors in memory. -/
theorem only_processSnapshots (hr : r.Dry) (snapshots : List RoomSnapshot)
    (hs : start.Untouched s) :
    Only Op.Passive start.Untouched (processSnapshots r snapshots) s := by
  induction snapshots generalizing s with
  | nil => exact only_pure hs
  | cons snapshot rest ih =>
      refine only_bind (only_processSnapshot hr hs) ?_
      intro events s₁ hs₁
      exact only_bind (ih hs₁) fun _ _ hs₂ => only_pure hs₂

end SafeResponder

end Touching

/-! ## The two runs together -/

namespace SafeResponder

section Prediction

variable [Platform]

/-- No limit of the policy was reached. -/
def Unlimited (r : SafeResponder) (events : List MessageEvent) : Prop :=
  r.policy.Limited → ∀ event ∈ events, event.reason ≠ .rateLimited

/-- What a message is answered with, as far as it was planned. -/
def plannedEvent (r : SafeResponder) (file : FileMeta × Bytes) (message : RoomMessage) :
    Option MessageEvent :=
  (Policy.plan r.policy file message).toOption.map (baseEvent r message)

theorem map_plain_of_follows {r : SafeResponder} {file : FileMeta × Bytes}
    {messages : List RoomMessage} {events : List MessageEvent}
    (h : List.Forall₂ (Follows r file) messages events) (hlimit : Unlimited r events) :
    events.map (fun event => some event.plain) = messages.map (plannedEvent r file) := by
  induction h with
  | nil => rfl
  | @cons message event messages events hhead _ ih =>
      have hrest : Unlimited r events := fun hlimited e he =>
        hlimit hlimited e (List.mem_cons_of_mem _ he)
      obtain ⟨planned, hplan, hplain | ⟨hreason, hlimited⟩⟩ := hhead
      · rw [List.map_cons, List.map_cons, ih hrest, hplain, plannedEvent, hplan]
        rfl
      · exact absurd hreason (hlimit hlimited event List.mem_cons_self)

omit [Platform] in
/-- Plain events that agree under `some` agree. -/
theorem plain_of_some {events events' : List MessageEvent}
    (h : events.map (fun event => some event.plain) = events'.map fun event => some event.plain) :
    events.map MessageEvent.plain = events'.map MessageEvent.plain := by
  have hmap : ∀ l : List MessageEvent,
      l.map (fun event => some event.plain) = (l.map MessageEvent.plain).map some := by
    intro l
    rw [List.map_map]
    rfl
  rw [hmap, hmap] at h
  exact List.map_injective_iff.mpr (Option.some_injective _) h

/-- How a run ends, and what it has handled by then. -/
theorem run_follows {quiet : Prop} {file : FileMeta × Bytes} {r : SafeResponder} {s s' : AgentState}
    {w w' : World} {snapshots : List RoomSnapshot} {result : PyResult (List Event)}
    (hw : w.policyFile = file)
    (hret : EffTree.Returns (Steady quiet) (processSnapshots r snapshots s) w (result, s') w') :
    ∃ done events, done <+: dueRun (s.cursorFor r.room) snapshots ∧
      PlannedRun r file w w' done events ∧
      (∀ returned, result = .ok returned → handledEvents returned = events ∧
        done = dueRun (s.cursorFor r.room) snapshots ∧
        s'.cursorFor r.room = cursorRun (s.cursorFor r.room) snapshots ∧
        s'.generationFor r.room = generationRun (s.generationFor r.room) snapshots ∧
        AcceptableRun r file (s.cursorFor r.room) (s.generationFor r.room) snapshots) ∧
      (quiet → r.Dry → AcceptableRun r file (s.cursorFor r.room) (s.generationFor r.room) snapshots →
        ∃ returned, result = .ok returned) := by
  have hrun : Wp (Steady quiet) (OnFile file) (processSnapshots r snapshots) _ _ s w :=
    wp_processSnapshots_follows snapshots hw
  cases result with
  | ok returned =>
      obtain ⟨hplanned, hcursor, hgeneration, hacceptable⟩ := hrun.post hret
      refine ⟨_, _, List.prefix_rfl, hplanned, ?_, fun _ _ _ => ⟨returned, rfl⟩⟩
      rintro _ ⟨⟩
      exact ⟨rfl, rfl, hcursor, hgeneration, hacceptable⟩
  | error e =>
      obtain ⟨done, events, hprefix, hplanned, hdry⟩ := hrun.post_error hret
      refine ⟨done, events, hprefix, hplanned, ?_, ?_⟩
      · rintro _ ⟨⟩
      · intro hquiet hr hacceptable
        exact absurd hacceptable (hdry hquiet hr)

/-- **A dry run predicts the live run, and touches nothing.**  Its operations read the capability
file and the clock, and it leaves nonces and quotas as they are.  Over the same snapshots, from
the same state and under the same capability file, the live run handles messages as the dry run
does, as far as it comes; where it returns, so does the dry run, with the same events up to what
was sent, and the same cursor and generation. -/
theorem dryRun_predicts (r : SafeResponder) (file : FileMeta × Bytes) (s : AgentState)
    (snapshots : List RoomSnapshot) :
    Only Op.Passive s.Untouched (processSnapshots (r.inMode false) snapshots) s ∧
    (∀ v v' : World, EffTree.Reaches World.step (processSnapshots (r.inMode false) snapshots s) v v' →
      v' = { v with handled := v'.handled }) ∧
    ∀ (v v' w w' : World) (dry live : PyResult (List Event)) (sDry sLive : AgentState),
      v.policyFile = file → w.policyFile = file →
      EffTree.Returns (Steady True) (processSnapshots (r.inMode false) snapshots s) v (dry, sDry) v' →
      EffTree.Returns (Steady False) (processSnapshots (r.inMode true) snapshots s) w
        (live, sLive) w' →
      ∃ dryEvents liveEvents, v'.handled = v.handled ++ dryEvents ∧
        w'.handled = w.handled ++ liveEvents ∧
        (Unlimited r dryEvents → Unlimited r liveEvents →
          (∀ events, dry = .ok events →
            liveEvents.map MessageEvent.plain <+: dryEvents.map MessageEvent.plain) ∧
          ∀ events, live = .ok events → handledEvents events = liveEvents ∧
            (∃ events', dry = .ok events' ∧ handledEvents events' = dryEvents) ∧
            dryEvents.map MessageEvent.plain = liveEvents.map MessageEvent.plain ∧
            sDry.cursorFor r.room = sLive.cursorFor r.room ∧
            sDry.generationFor r.room = sLive.generationFor r.room) := by
  have hdryMode : (r.inMode false).Dry := ⟨rfl, r.policy.not_consumes_dry⟩
  have honly : Only Op.Passive s.Untouched (processSnapshots (r.inMode false) snapshots) s :=
    only_processSnapshots hdryMode snapshots ⟨rfl, rfl⟩
  refine ⟨honly, ?_, ?_⟩
  · intro v v' hreach
    -- a passive call changes nothing but the trace of what was handled
    have hstep : ∀ (w : World) (o : Op) (answer : Except PyErr o.Val) (w' : World), o.Passive →
        w = { v with handled := w.handled } → w.step o answer w' →
        w' = { v with handled := w'.handled } := by
      intro w o answer w' hpassive hw ho
      cases o <;> first | exact absurd hpassive not_false | skip
      · rw [ho.1.1]
        exact hw
      · rw [ho.1.1]
        exact hw
      · rw [show w' = w from ho.1]
        exact hw
      · rw [ho.1.2, hw]
    exact (EffTree.Every.safe honly hstep rfl).invariant hreach
  intro v v' w w' dry live sDry sLive hv hw hdry hlive
  -- each run follows its plan over a prefix of what is due
  obtain ⟨dryDone, dryEvents, hdryPrefix, hdryRun, hdryEnd, hdryReturns⟩ := run_follows hv hdry
  obtain ⟨liveDone, liveEvents, hlivePrefix, hliveRun, hliveEnd, -⟩ := run_follows hw hlive
  refine ⟨dryEvents, liveEvents, hdryRun.1, hliveRun.1, ?_⟩
  intro hdryLimit hliveLimit
  have hdryPlain := map_plain_of_follows (hdryRun.2.imp fun _ _ => follows_inMode.mp) hdryLimit
  have hlivePlain := map_plain_of_follows (hliveRun.2.imp fun _ _ => follows_inMode.mp) hliveLimit
  constructor
  · intro events hevents
    -- the dry run got through, so the live run handled a prefix of it
    obtain ⟨-, rfl, -⟩ := hdryEnd events hevents
    have hprefix : liveEvents.map (fun event => some event.plain) <+:
        dryEvents.map fun event => some event.plain := by
      rw [hlivePlain, hdryPlain]
      exact hlivePrefix.map _
    obtain ⟨rest, hrest⟩ := hprefix
    obtain ⟨before, after, hsplit, hbefore, -⟩ := List.map_eq_append_iff.mp hrest.symm
    rw [hsplit, List.map_append, plain_of_some hbefore]
    exact List.prefix_append _ _
  · intro events hevents
    obtain ⟨hliveHandled, rfl, hliveCursor, hliveGeneration, hacceptable⟩ := hliveEnd events hevents
    -- what the live run accepted is acceptable dry, so the dry run gets through
    have hdryAcceptable : AcceptableRun (r.inMode false) file (s.cursorFor r.room)
        (s.generationFor r.room) snapshots :=
      (acceptableRun_inMode snapshots _ _).mpr ((acceptableRun_inMode snapshots _ _).mp hacceptable)
    obtain ⟨events', hevents'⟩ := hdryReturns trivial hdryMode hdryAcceptable
    obtain ⟨hdryHandled, rfl, hdryCursor, hdryGeneration, -⟩ := hdryEnd events' hevents'
    refine ⟨hliveHandled, ⟨events', hevents', hdryHandled⟩, plain_of_some ?_, ?_, ?_⟩
    · rw [hdryPlain, hlivePlain]
      rfl
    · exact hdryCursor.trans hliveCursor.symm
    · exact hdryGeneration.trans hliveGeneration.symm

end Prediction

end SafeResponder

namespace Sample

/-- A page with the command. -/
def askedSnapshot : RoomSnapshot where
  room := room
  firstSeq := 1
  lastSeq := 1
  messages := [command.message]
  generation := 0
  ordered := by decide
  inRange := by decide

/-- The sample environment leaves the capability file alone, and always answers. -/
theorem steady_answer (quiet : Prop) (w : World) (o : Op) :
    Steady quiet w o (answer w o).1 (answer w o).2 := by
  have hfile : (answer w o).2.policyFile = w.policyFile := by
    cases o with
    | readDoc f =>
        simp only [answer]
        split <;> rfl
    | replaceDoc f doc => cases f <;> rfl
    | unlinkDoc f => cases f <;> rfl
    | auditOpen write =>
        simp only [answer]
        split_ifs <;> rfl
    | auditRead =>
        simp only [answer]
        split <;> rfl
    | http request => cases request <;> rfl
    | _ => rfl
  refine ⟨step_answer w o, hfile, ?_⟩
  intro _
  cases o with
  | policyOpen => exact ⟨_, rfl⟩
  | policyRead => exact ⟨_, rfl⟩
  | rateClock => exact ⟨_, rfl⟩
  | _ => trivial

/-- An agent that answers the command shows it in a dry run first. -/
theorem dryRun_predicts_ping : ∃ (dry live : PyResult (List Event)) (sDry sLive : AgentState)
      (v' w' : World),
    EffTree.Returns (Steady True) (SafeResponder.processSnapshots (speaker.inMode false)
      [askedSnapshot] {}) askedWorld (dry, sDry) v' ∧
    EffTree.Returns (Steady False) (SafeResponder.processSnapshots (speaker.inMode true)
      [askedSnapshot] {}) askedWorld (live, sLive) w' ∧
    live.isOk = true ∧ w'.handled.map MessageEvent.plain = v'.handled.map MessageEvent.plain ∧
    sDry.cursorFor room = sLive.cursorFor room := by
  have hdry := EffTree.returns_run (steady_answer True)
    (SafeResponder.processSnapshots (speaker.inMode false) [askedSnapshot] {}) askedWorld
  have hlive := EffTree.returns_run (steady_answer False)
    (SafeResponder.processSnapshots (speaker.inMode true) [askedSnapshot] {}) askedWorld
  have hok : (EffTree.run answer (SafeResponder.processSnapshots (speaker.inMode true)
      [askedSnapshot] {}) askedWorld).1.1.isOk = true := by decide +kernel
  generalize EffTree.run answer (SafeResponder.processSnapshots (speaker.inMode false)
    [askedSnapshot] {}) askedWorld = dryEnd at hdry
  generalize EffTree.run answer (SafeResponder.processSnapshots (speaker.inMode true)
    [askedSnapshot] {}) askedWorld = liveEnd at hlive hok
  obtain ⟨⟨dry, sDry⟩, v'⟩ := dryEnd
  obtain ⟨⟨live, sLive⟩, w'⟩ := liveEnd
  have hlegacy : ∀ events, SafeResponder.Unlimited speaker events := by
    rintro events ⟨consume, ⟨⟩⟩
  obtain ⟨dryEvents, liveEvents, hv', hw', hpredicts⟩ :=
    (SafeResponder.dryRun_predicts speaker askedWorld.policyFile {} [askedSnapshot]).2.2
      askedWorld v' askedWorld w' dry live sDry sLive rfl rfl hdry hlive
  obtain ⟨events, hevents⟩ := PyResult.ok_of_isOk hok
  obtain ⟨-, -, hplain, hcursor, -⟩ :=
    (hpredicts (hlegacy _) (hlegacy _)).2 events hevents
  refine ⟨dry, live, sDry, sLive, v', w', hdry, hlive, hok, ?_, hcursor⟩
  rw [hv', hw']
  exact hplain.symm

end Sample
