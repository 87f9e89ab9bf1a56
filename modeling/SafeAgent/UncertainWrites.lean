/-
# Writes of unknown outcome

A signed write that may have reached the room must not look like any other failure: `_request_json`
makes a `TransportError` or a `ResponseError` of it, and `_send_text` an `UncertainWriteError`, with
the journal in place.  The clauses do not name everything that an exchange can raise.

* `Protocol.Answered`            : the outcomes of an exchange that the clauses name;
* `Protocol.raises_requestJson`  : these become a JSON object or an ambiguous failure;
* `SafeResponder.Classified`     : what `_send_text` leaves, before and after the transport is called;
* `Cli.ReadFailed`               : what a poll does after a failed read;
* `writes_classified`            : **every write whose outcome the clauses name is classified**, and
  a read that failed in transport is repeated, unless `--once` was given.
-/
import SafeAgent.Acknowledgements
import SafeAgent.AuditLog
import SafeAgent.JsonScanner
import SafeAgent.Session

open PyText

/-- What `_send_text` takes for an uncertain write. -/
def Ambiguous (e : PyErr) : Prop := e.cls = .transportError ∨ e.cls = .responseError

@[simp] theorem ambiguous_responseError (message : String) :
    Ambiguous (Protocol.responseError message) := .inr rfl

/-! ## The exchange -/

namespace Protocol

open Json

variable [Platform]

/-- The outcomes of an exchange that the clauses of `_request_json` name: an `OSError`, an error
status whose body is read, or not for an `OSError` or an `HTTPException`, and a body that is too
large, or that `json.loads` reads or refuses as text or as JSON. -/
def Answered : HttpOutcome → Prop
  | .error e => e.isa .osError = true
  | .ok (.httpError _ _ (.ok _)) => True
  | .ok (.httpError _ _ (.error e)) => (e.isa .osError || e.isa .httpException) = true
  | .ok (.success raw) => raw.length ≤ maxResponseBytes → ∀ e, loads jsonReader raw = .error e →
      (e.isa .unicodeDecodeError || e.isa .jsonDecodeError) = true

theorem ambiguous_httpStatusError (code : ℕ) (retryAfter : Option String) (body : Except PyErr Bytes) :
    Ambiguous (httpStatusError code retryAfter body) := by
  cases body <;> exact .inl rfl

/-- **An outcome that the clauses name is a JSON object or an ambiguous failure.** -/
theorem raises_requestJson {outcome : HttpOutcome} (h : Answered outcome) :
    Raises Ambiguous (requestJson outcome) := by
  cases outcome with
  | error e =>
      have hos : e.isa .osError = true := h
      rw [requestJson, if_pos hos, raises_error]
      exact .inl rfl
  | ok response =>
      cases response with
      | httpError code retryAfter body =>
          cases body with
          | ok raw => exact (raises_error _).mpr (ambiguous_httpStatusError _ _ _)
          | error e =>
              have hread : (e.isa .osError || e.isa .httpException) = true := h
              rw [requestJson, if_pos hread, raises_error]
              exact ambiguous_httpStatusError _ _ _
      | success raw =>
          by_cases hlong : maxResponseBytes < raw.length
          · rw [requestJson, if_pos hlong, raises_error]
            exact ambiguous_responseError _
          · rw [requestJson, if_neg hlong]
            cases hloads : loads jsonReader raw with
            | error e =>
                dsimp only
                rw [if_pos (h (not_lt.mp hlong) e hloads), raises_error]
                exact ambiguous_responseError _
            | ok payload =>
                dsimp only
                cases payload.asObj with
                | none => exact (raises_error _).mpr (ambiguous_responseError _)
                | some fields => exact raises_ok _

/-- The integers of an answer can be written. -/
theorem intsFit_requestJson {outcome : HttpOutcome} {payload : JsonFields}
    (h : requestJson outcome = .ok payload) : intsFit (.obj payload) = true := by
  unfold requestJson at h
  repeat' split at h
  all_goals first
    | cases h
      done
    | skip
  rename_i _ value hloads _ _ hobj
  cases h
  rw [← Audit.eq_obj_of_asObj hobj]
  exact loads_intsFit (hookKeepsMembers_dict rfl) hloads

omit [Platform] in
/-- A nonce that can be written is refused as a `ProtocolValueError`. -/
theorem validateNonce_refused {nonce : Json} (hfit : intsFit nonce = true) {e : PyErr}
    (h : Crypto.validateNonce nonce = .error e) : e.isa .protocolValueError = true := by
  unfold Crypto.validateNonce at h
  cases nonce with
  | int n =>
      rw [intsFit, decide_eq_true_eq] at hfit
      dsimp only at h
      rw [if_pos hfit] at h
      split_ifs at h
      cases h
      rfl
  | str s =>
      dsimp only at h
      split_ifs at h
      cases h
      rfl
  | _ =>
      cases h
      rfl

omit [Platform] in
theorem raises_parseMessage {item : Json} (hfit : intsFit item = true) :
    Raises Ambiguous (parseMessage item) := by
  unfold parseMessage
  cases hitem : item.asObj with
  | none => exact (raises_error _).mpr (ambiguous_responseError _)
  | some fields =>
      obtain rfl := Audit.eq_obj_of_asObj hitem
      have hnonce := intsFit_get hfit (py "nonce")
      intro e he
      dsimp only at he
      repeat' split at he
      all_goals first
        | cases he
          done
        | cases he
          exact ambiguous_responseError _
        | skip
      · -- an exception of `validate_nonce` that the clause does not name
        rename_i hrefused hother
        exact absurd (validateNonce_refused hnonce hrefused) hother

omit [Platform] in
theorem raises_parseMessages {items : List Json} (hfit : ∀ item ∈ items, intsFit item = true) :
    Raises Ambiguous (parseMessages items) := by
  induction items with
  | nil => exact raises_ok _
  | cons item rest ih =>
      rw [List.forall_mem_cons] at hfit
      exact raises_bind (raises_parseMessage hfit.1) fun _ _ =>
        raises_bind (ih hfit.2) fun _ _ => raises_pure _

omit [Platform] in
theorem raises_parseSnapshot {payload : JsonFields} {room : PyStr}
    (hfit : intsFit (.obj payload) = true) : Raises Ambiguous (parseSnapshot payload room) := by
  have hitems : ∀ items, (get payload (py "messages")).asArr = some items →
      ∀ item ∈ items, intsFit item = true := by
    intro items hitems
    have hmessages := intsFit_get hfit (py "messages")
    cases hvalue : get payload (py "messages") with
    | arr values =>
        rw [hvalue, intsFit] at hmessages
        rw [hvalue] at hitems
        cases hitems
        exact intsFitItems_iff.mp hmessages
    | _ =>
        rw [hvalue] at hitems
        cases hitems
  unfold parseSnapshot
  intro e he
  repeat' split at he
  all_goals first
    | cases he
      done
    | cases he
      exact ambiguous_responseError _
    | skip
  -- a message is refused
  cases he
  exact raises_parseMessages (hitems _ (by assumption)) _ (by assumption)

omit [Platform] in
/-- The checks of the answer refuse it with a `ResponseError`. -/
theorem raises_checkPosted (room : PyStr) (envelope : Envelope) {payload : JsonFields}
    (hfit : intsFit (.obj payload) = true) :
    Raises Ambiguous (TechnocoreClient.checkPosted room envelope payload) :=
  raises_bind (raises_parseSnapshot hfit) fun _ _ =>
    raises_bind (raises_parseMessage (intsFit_get hfit _)) fun _ _ =>
      raises_ite ((raises_error _).mpr (ambiguous_responseError _)) (raises_ok _)

end Protocol

/-! ## Sending -/

section Platform

variable [Platform]

/-- Nothing but an exchange is restricted. -/
def Op.Named : (o : Op) → Except PyErr o.Val → Prop
  | .http _, r => Protocol.Answered r
  | _, _ => True

/-- One operation, where an exchange ends in an outcome that the clauses name. -/
def AnsweredStep (w : World) (o : Op) (r : Except PyErr o.Val) (w' : World) : Prop :=
  w.step o r w' ∧ o.Named r

namespace SafeResponder

open Agent Proc

variable {r : SafeResponder} {record : DeliveryRecord} {s : AgentState} {w w' : World}

/-- The acknowledgement of a verified reply raised an exception other than a `DeliveryError`. -/
def Unrecorded (r : SafeResponder) (record : DeliveryRecord) (e : PyErr) (w' : World) : Prop :=
  e.isa .deliveryError = false ∧ ∃ posted s₁ w₁ s₂, TechnocoreClient.Carries posted record.envelope ∧
    w₁.Journaled r.room record ∧
    EffTree.Returns World.step (DeliveryJournal.acknowledge posted.seq s₁) w₁ (.error e, s₂) w'

/-- What `_send_text` leaves once the transport was called. -/
structure Settled (r : SafeResponder) (record : DeliveryRecord) (result : PyResult RoomMessage)
    (w' : World) : Prop where
  journaled : ∃ kept, w'.Journaled r.room kept ∧ kept.envelope = record.envelope
  posted : ∀ m, result = .ok m → TechnocoreClient.Carries m record.envelope
  uncertain : ∀ e, result = .error e → e.cls = .uncertainWriteError ∨ Unrecorded r record e w'

/-- What a call of `_send_text` leaves: it raised before anything was sent, or the journal held the
envelope when the transport was called, and the write is settled. -/
def Classified (r : SafeResponder) (input : ℕ) (w : World) (result : PyResult RoomMessage)
    (w' : World) : Prop :=
  (w'.sent = w.sent ∧ ∃ e, result = .error e) ∨
    ∃ record : DeliveryRecord, record.inputSequence = input ∧
      w'.sent = w.sent ++ [(r.room, record.envelope)] ∧ Settled r record result w'

/-- The acknowledgement leaves the journal in place, whatever it raises. -/
theorem wp_acknowledge_kept {posted : RoomMessage} (hrecord : w.Journaled r.room record) :
    Wp World.step (fun _ => True) (DeliveryJournal.acknowledge posted.seq)
      (fun _ _ w' => w'.sent = w.sent ∧ ∃ kept, w'.Journaled r.room kept ∧
        kept.envelope = record.envelope)
      (fun _ _ w' => w'.sent = w.sent ∧ ∃ kept, w'.Journaled r.room kept ∧
        kept.envelope = record.envelope) s w := by
  refine wp_journal_acknowledge trivial (fun loaded acked hloads hacked _ => ?_)
    fun _ _ => ⟨rfl, record, hrecord, rfl⟩
  obtain ⟨j, hj, hloaded⟩ := hloads
  obtain rfl : record.toPayload = j := by
    rw [hrecord.1] at hj
    simpa using hj
  obtain rfl := DeliveryRecord.fromPayload_toPayload hloaded
  obtain ⟨hsha, -, henvelope, -, -⟩ := DeliveryRecord.acknowledge_ok hacked
  have hkept : (w.withJournal (some acked)).Journaled r.room acked := ⟨rfl, hsha ▸ hrecord.2⟩
  exact ⟨trivial, ⟨rfl, acked, hkept, henvelope⟩, fun _ _ => ⟨rfl, acked, hkept, henvelope⟩⟩

/-- The acknowledgement of a verified reply settles the write. -/
theorem wp_acknowledgeDelivery_settled (hjournal : r.deliveryJournal = true) {posted : RoomMessage}
    (hrecord : w.Journaled r.room record)
    (hcarries : TechnocoreClient.Carries posted record.envelope) :
    Wp World.step (fun _ => True) (acknowledgeDelivery r posted)
      (fun _ _ w' => w'.sent = w.sent ∧ Settled r record (.ok posted) w')
      (fun e _ w' => w'.sent = w.sent ∧ Settled r record (.error e) w') s w := by
  unfold acknowledgeDelivery
  rw [if_pos hjournal, wp_tryCatch, wp_bind]
  refine ((wp_acknowledge_kept hrecord).and (wp_returns _ s w)).mono ?_ ?_
  · rintro acked s' w' - ⟨⟨hsent, hkept⟩, -⟩
    exact ⟨trivial, hsent, hkept, by rintro m ⟨⟩; exact hcarries, by rintro e ⟨⟩⟩
  · rintro e s' w' - ⟨⟨hsent, hkept⟩, hraised⟩
    split_ifs with hdelivery
    · exact ⟨trivial, hsent, hkept, by rintro m ⟨⟩, by rintro e ⟨⟩; exact .inl rfl⟩
    · refine ⟨trivial, hsent, hkept, by rintro m ⟨⟩, ?_⟩
      rintro e ⟨⟩
      exact .inr ⟨by simpa using hdelivery, posted, s, w, s', hcarries, hrecord, hraised⟩

end SafeResponder

namespace SafeResponder

open Agent Proc

variable {r : SafeResponder} {s : AgentState} {w w' : World}

/-- One exchange, where its outcome is one that the clauses name. -/
theorem wp_requestJson_answered {request : HttpRequest} {Q : JsonFields → AgentState → World → Prop}
    {E : PyErr → AgentState → World → Prop}
    (hQ : ∀ answer w' payload, w.effect (.http request) answer w' →
      Protocol.requestJson answer = .ok payload → Q payload s w')
    (hE : ∀ answer w' e, w.effect (.http request) answer w' → Ambiguous e → E e s w') :
    Wp AnsweredStep (fun _ => True) (requestJson request) Q E s w := by
  unfold requestJson
  rw [wp_bind, wp_tryCatch, wp_bind, wp_call]
  refine ⟨trivial, fun answer w' hstep => ⟨trivial, ?_⟩⟩
  obtain ⟨⟨heffect, -⟩, hanswered⟩ := hstep
  have hend : Wp AnsweredStep (fun _ => True) (Proc.ofExcept (Protocol.requestJson answer)) Q E s w' := by
    rw [wp_ofExcept]
    refine ⟨trivial, ?_⟩
    cases hanswer : Protocol.requestJson answer with
    | ok payload => exact hQ answer w' payload heffect hanswer
    | error e => exact hE answer w' e heffect (Protocol.raises_requestJson hanswered e hanswer)
  cases answer with
  | ok response => exact ⟨trivial, hend⟩
  | error e => exact ⟨trivial, hend⟩

/-- The request of `_send_text` returns what the envelope says, or is uncertain. -/
theorem wp_postEnvelope_settled {record : DeliveryRecord} {input : ℕ} (hrecord : w.Journaled r.room record) :
    Wp AnsweredStep (fun _ => True) (postEnvelope r record.envelope input)
      (fun posted _ w' => w'.sent = w.sent ++ [(r.room, record.envelope)] ∧
        w'.Journaled r.room record ∧ TechnocoreClient.Carries posted record.envelope)
      (fun e _ w' => w'.sent = w.sent ∨ w'.sent = w.sent ++ [(r.room, record.envelope)] ∧
        Settled r record (.error e) w') s w := by
  unfold postEnvelope sendSignedMessage
  rw [wp_tryCatch, wp_bind, wp_ofExcept]
  refine ⟨trivial, ?_⟩
  cases hrequest : r.client.sayRequest r.room record.envelope input with
  | error e =>
      -- a local check fails: nothing is sent
      dsimp only
      split_ifs
      · exact ⟨trivial, .inl rfl⟩
      · exact ⟨trivial, .inl rfl⟩
  | ok request =>
      obtain ⟨url, rfl⟩ := TechnocoreClient.sayRequest_ok hrequest
      -- an ambiguous failure of the exchange or of the checks of its answer
      have huncertain : ∀ {e : PyErr} {w' : World}, w.Posts w' r.room record.envelope input →
          Ambiguous e → Wp AnsweredStep (fun _ => True)
            (if e.isa .transportError || e.isa .responseError then
              throw (uncertainWrite
                "signed write did not return a verifiable acknowledgement; inspect the room before restarting so the command is not answered twice")
            else throw e : Agent RoomMessage)
            (fun posted _ w' => w'.sent = w.sent ++ [(r.room, record.envelope)] ∧
              w'.Journaled r.room record ∧ TechnocoreClient.Carries posted record.envelope)
            (fun e _ w' => w'.sent = w.sent ∨ w'.sent = w.sent ++ [(r.room, record.envelope)] ∧
              Settled r record (.error e) w') s w' := by
        intro e w' hw' he
        have hclause : (e.isa .transportError || e.isa .responseError) = true := by
          rcases he with he | he <;> simp [PyErr.isa, he, ErrClass.isa]
        rw [if_pos hclause]
        have hkept : w'.Journaled r.room record := ⟨hw'.journalDoc ▸ hrecord.1, hrecord.2⟩
        exact ⟨trivial, .inr ⟨hw'.sent, ⟨record, hkept, rfl⟩, by rintro m ⟨⟩,
          by rintro e ⟨⟩; exact .inl rfl⟩⟩
      dsimp only
      rw [wp_bind]
      refine wp_requestJson_answered (fun answer w' payload hw' hpayload => ?_)
        fun answer w' e hw' he => huncertain hw' he
      rw [wp_ofExcept]
      refine ⟨trivial, ?_⟩
      have hraises := Protocol.raises_checkPosted r.room record.envelope
        (Protocol.intsFit_requestJson hpayload)
      cases hposted : TechnocoreClient.checkPosted r.room record.envelope payload with
      | error e => exact huncertain hw' (hraises e hposted)
      | ok posted =>
          have hw' : w.Posts w' r.room record.envelope input := hw'
          obtain ⟨-, -, -, hcarries, -⟩ := TechnocoreClient.checkPosted_iff.mp hposted
          exact ⟨hw'.sent, ⟨hw'.journalDoc ▸ hrecord.1, hrecord.2⟩, hcarries⟩

/-- **Every call of `_send_text` is classified**, where its exchange ends in an outcome that the
clauses name. -/
theorem wp_sendText_classified (hjournal : r.deliveryJournal = true) (text : PyStr) (input : ℕ)
    (s : AgentState) (w : World) :
    Wp AnsweredStep (fun _ => True) (sendText r text input)
      (fun posted _ w' => Classified r input w (.ok posted) w')
      (fun e _ w' => Classified r input w (.error e) w') s w := by
  have hall : ∀ w o (answer : Except PyErr o.Val) w', AnsweredStep w o answer w' →
      World.step w o answer w' := fun _ _ _ _ h => h.1
  have hbefore : ∀ {e : PyErr} {w' : World}, w'.sent = w.sent → Classified r input w (.error e) w' :=
    fun hsent => .inl ⟨hsent, _, rfl⟩
  unfold sendText
  rw [if_pos hjournal, wp_bind]
  refine Wp.handler_mono (wp_journal_requireEmpty (I := fun _ => True) trivial (fun _ => ?_)
    fun _ _ => hbefore rfl) hall
  rw [wp_bind]
  refine Wp.handler_mono (wp_inert (fun _ _ hw => hw) trivial (fun clock => ?_)
    fun _ _ => hbefore rfl) hall
  rw [wp_bind, wp_get]
  refine ⟨trivial, ?_⟩
  rw [wp_bind, wp_ofExcept]
  refine ⟨trivial, ?_⟩
  cases s.nextNonce r.room clock with
  | error e => exact hbefore rfl
  | ok chosen =>
      obtain ⟨nonce, s₁⟩ := chosen
      dsimp only
      rw [wp_bind, wp_set]
      refine ⟨trivial, ?_⟩
      rw [wp_bind, wp_ofExcept]
      refine ⟨trivial, ?_⟩
      cases Crypto.signRoomMessage r.privateKey r.room (.int nonce) text with
      | error e => exact hbefore rfl
      | ok signed =>
          obtain ⟨swept, signature⟩ := signed
          dsimp only
          rw [wp_bind]
          unfold prepareDelivery
          rw [if_pos hjournal, wp_bind, wp_ofExcept]
          refine ⟨trivial, ?_⟩
          cases hrecord : DeliveryRecord.create r.room input
              { did := r.did, nonce, text := swept, signature } with
          | error e => exact hbefore rfl
          | ok record =>
              obtain ⟨henvelope, hinput, -, hsha⟩ := DeliveryRecord.create_ok hrecord
              refine Wp.handler_mono (wp_journal_prepare trivial (fun _ => trivial) (fun _ => ?_)
                (fun _ _ => hbefore rfl) fun _ _ _ => hbefore rfl) hall
              have hprepared : (w.withJournal (some record)).Journaled r.room record := ⟨rfl, hsha⟩
              rw [wp_bind, ← henvelope]
              refine (wp_postEnvelope_settled hprepared).mono ?_ ?_
              · rintro posted s' w' - ⟨hsent, hkept, hcarries⟩
                rw [wp_bind]
                refine Wp.handler_mono ((wp_acknowledgeDelivery_settled hjournal hkept hcarries).mono
                  ?_ ?_) hall
                · rintro _ s'' w'' - ⟨hsame, hsettled⟩
                  exact ⟨trivial, .inr ⟨record, hinput, hsame.trans hsent, hsettled⟩⟩
                · rintro e s'' w'' - ⟨hsame, hsettled⟩
                  exact .inr ⟨record, hinput, hsame.trans hsent, hsettled⟩
              · rintro e s' w' - (hsent | ⟨hsent, hsettled⟩)
                · exact hbefore hsent
                · exact .inr ⟨record, hinput, hsent, hsettled⟩

end SafeResponder

/-! ## Reading -/

namespace Cli

open Agent

/-- The read of one pass of `_poll`. -/
def pollRead (r : SafeResponder) (args : RunArgs) (cacheBuster : ℕ) : Agent RoomSnapshot := do
  let s ← get
  readRoom r.client args.room (s.cursorFor args.room) (if args.once then some 0 else args.wait)
    args.limit cacheBuster

/-- What follows a read that failed with `e`: in transport it is printed and the loop goes on, unless
`--once` was given; every other exception ends the poll. -/
structure ReadFailed {W : Type} (H : W → (o : Op) → Except PyErr o.Val → W → Prop)
    (r : SafeResponder) (args : RunArgs) (passes cacheBuster : ℕ) (s : AgentState) (w : W)
    (e : PyErr) (s₁ : AgentState) (w₁ : W) : Prop where
  retried : e.isa .transportError = true → args.once = false → ∀ w₂ last w₃,
    H w₁ (.printEvent (.readRetry args.room e.retryAfter e.status)) (.ok ()) w₂ →
    EffTree.Returns H (poll r args passes (cacheBuster + 1) s₁) w₂ last w₃ →
    EffTree.Returns H (poll r args (passes + 1) cacheBuster s) w last w₃
  stopped : e.isa .transportError = false ∨ args.once = true →
    EffTree.Returns H (poll r args (passes + 1) cacheBuster s) w (.error e, s₁) w₁

theorem readFailed {W : Type} {H : W → (o : Op) → Except PyErr o.Val → W → Prop}
    {r : SafeResponder} {args : RunArgs} {passes cacheBuster : ℕ} {s s₁ : AgentState} {w w₁ : W}
    {e : PyErr} (h : EffTree.Returns H (pollRead r args cacheBuster s) w (.error e, s₁) w₁) :
    ReadFailed H r args passes cacheBuster s w e s₁ w₁ := by
  -- the rest of the pass is skipped
  have hpass : ∀ last w₂, EffTree.Returns H
      ((if e.isa .transportError && !args.once then
        perform (.printEvent (.readRetry args.room e.retryAfter e.status))
      else throw e : Agent Unit) s₁) w₁ last w₂ →
      EffTree.Returns H (pollOnce r args cacheBuster s) w last w₂ := by
    intro last w₂ hhandler
    refine EffTree.returns_bind.mpr ⟨(.error e, s₁), w₁, ?_, hhandler⟩
    refine EffTree.returns_bind.mpr ⟨(.ok s, s), w, ⟨rfl, rfl⟩, ?_⟩
    exact EffTree.returns_bind.mpr ⟨(.error e, s₁), w₁, h, rfl, rfl⟩
  constructor
  · intro htransport honce w₂ last w₃ hprint hrest
    refine EffTree.returns_bind.mpr ⟨(.ok (), s₁), w₂, hpass _ _ ?_, ?_⟩
    · rw [htransport, honce]
      exact ⟨.ok (), w₂, hprint, rfl, rfl⟩
    · rw [honce]
      exact hrest
  · intro hother
    have hclause : (e.isa .transportError && !args.once) = false := by
      rcases hother with hother | hother <;> simp [hother]
    refine EffTree.returns_bind.mpr ⟨(.error e, s₁), w₁, hpass _ _ ?_, rfl, rfl⟩
    rw [hclause]
    exact ⟨rfl, rfl⟩

end Cli

/-- **Writes of unknown outcome are classified.**  An outcome of an exchange that the clauses of
`_request_json` name is a JSON object, a `TransportError` or a `ResponseError`; so `_send_text`, once
it has called the transport, returns the record that was posted or raises an `UncertainWriteError`,
and leaves the journal in place; a failed read is repeated where it failed in transport, unless
`--once` was given. -/
theorem writes_classified :
    (∀ outcome, Protocol.Answered outcome → Raises Ambiguous (Protocol.requestJson outcome)) ∧
    (∀ (r : SafeResponder) text input s w result s' w', r.deliveryJournal = true →
      EffTree.Returns AnsweredStep (r.sendText text input s) w (result, s') w' →
      SafeResponder.Classified r input w result w') ∧
    ∀ (r : SafeResponder) args passes cacheBuster s w e s₁ w₁,
      EffTree.Returns AnsweredStep (Cli.pollRead r args cacheBuster s) w (.error e, s₁) w₁ →
      Cli.ReadFailed AnsweredStep r args passes cacheBuster s w e s₁ w₁ := by
  refine ⟨fun outcome h => Protocol.raises_requestJson h, ?_, fun _ _ _ _ _ _ _ _ _ h =>
    Cli.readFailed h⟩
  intro r text input s w result s' w' hjournal hret
  have hwp := SafeResponder.wp_sendText_classified hjournal text input s w
  cases result with
  | ok posted => exact hwp.post hret
  | error e => exact hwp.post_error hret

end Platform

/-! ## A write that times out, and a read that is refused -/

namespace Sample

/-- `run --send --allow-any-signed` -/
def pollArgs : RunArgs := { runArgs with once := false }

/-- Its responder. -/
def responder : SafeResponder :=
  Cli.liveResponder identity pollArgs { ownDid := did, mode := .legacy [] true }

/-- The connection times out, after a signed write has left. -/
def timedOut (w : World) (o : Op) : Except PyErr o.Val × World :=
  match o with
  | .http (.saySigned _ room envelope _) =>
      (.error (.of .timeoutError "timed out"), { w with sent := w.sent ++ [(room, envelope)] })
  | .http (.read _ _ _ _ _ _) => (.error (.of .timeoutError "timed out"), w)
  | o => answer w o

theorem answeredStep_timedOut (w : World) (o : Op) :
    AnsweredStep w o (timedOut w o).1 (timedOut w o).2 := by
  cases o with
  | http request =>
      cases request with
      | read url room since wait limit cacheBuster =>
          refine ⟨⟨⟨World.Others.refl, ?_⟩, by rintro _ ⟨⟩; decide⟩, rfl⟩
          rintro payload snapshot ⟨⟩
      | saySigned url room envelope input =>
          exact ⟨⟨⟨w, World.Others.refl, .inl rfl⟩, by rintro _ ⟨⟩; decide⟩, rfl⟩
  | _ => exact ⟨step_answer w _, trivial⟩

/-- The class of the exception that a process raised. -/
def raisedClass {α : Type} : PyResult α → Option ErrClass
  | .ok _ => none
  | .error e => some e.cls

theorem eq_error_of_raisedClass {α : Type} {result : PyResult α} {cls : ErrClass}
    (h : raisedClass result = some cls) : ∃ e, result = .error e ∧ e.cls = cls := by
  cases result with
  | ok a => cases h
  | error e => exact ⟨e, rfl, Option.some.inj h⟩

/-- A process in an environment that answers every operation. -/
theorem returns_raisedClass {W α : Type} {H : W → (o : Op) → Except PyErr o.Val → W → Prop}
    {answers : W → (o : Op) → Except PyErr o.Val × W}
    (hstep : ∀ w o, H w o (answers w o).1 (answers w o).2) (m : Agent α) (s : AgentState) (w : W)
    (cls : ErrClass) (h : raisedClass (EffTree.run answers (m s) w).1.1 = some cls) :
    ∃ e s₁ w₁, e.cls = cls ∧ EffTree.Returns H (m s) w (.error e, s₁) w₁ := by
  have hreturns := EffTree.returns_run hstep (m s) w
  obtain ⟨e, herror, hcls⟩ := eq_error_of_raisedClass h
  refine ⟨e, (EffTree.run answers (m s) w).1.2, (EffTree.run answers (m s) w).2, hcls, ?_⟩
  rwa [← herror]

/-- **A failed read that is not repeated.**  An empty body fails with a `ResponseError`, which ends
the poll; a `TransportError` ends it where `--once` was given. -/
theorem failedRead_stops :
    (∃ e s₁ w₁, e.cls = .responseError ∧
      EffTree.Returns (exchangeStep (.ok (.success []))) (Cli.pollRead responder pollArgs 1 {}) ()
        (.error e, s₁) w₁ ∧
      EffTree.Returns (exchangeStep (.ok (.success []))) (Cli.poll responder pollArgs 2 1 {}) ()
        (.error e, s₁) w₁) ∧
    ∃ e s₁ w₁, e.cls = .transportError ∧
      EffTree.Returns (exchangeStep (.error (.of .timeoutError "timed out")))
        (Cli.pollRead responder runArgs 1 {}) () (.error e, s₁) w₁ ∧
      EffTree.Returns (exchangeStep (.error (.of .timeoutError "timed out")))
        (Cli.poll responder runArgs 2 1 {}) () (.error e, s₁) w₁ := by
  have hstep : ∀ outcome w o, exchangeStep outcome w o (exchange outcome w o).1
      (exchange outcome w o).2 := fun _ _ _ => rfl
  constructor
  · obtain ⟨e, s₁, w₁, hcls, hread⟩ := returns_raisedClass (hstep (.ok (.success [])))
      (Cli.pollRead responder pollArgs 1) {} () .responseError (by decide +kernel)
    have hother : e.isa .transportError = false := by simp [PyErr.isa, hcls, ErrClass.isa]
    exact ⟨e, s₁, w₁, hcls, hread, (Cli.readFailed hread).stopped (.inl hother)⟩
  · obtain ⟨e, s₁, w₁, hcls, hread⟩ := returns_raisedClass
      (hstep (.error (.of .timeoutError "timed out")))
      (Cli.pollRead responder runArgs 1) {} () .transportError (by decide +kernel)
    exact ⟨e, s₁, w₁, hcls, hread, (Cli.readFailed hread).stopped (.inr rfl)⟩

/-- The theorem where everything times out: the write is uncertain, and the read is repeated. -/
theorem writes_classified_timedOut :
    Raises Ambiguous (Protocol.requestJson (.error (.of .timeoutError "timed out"))) ∧
    (∃ e s' w', e.cls = .uncertainWriteError ∧
      EffTree.Returns AnsweredStep (responder.sendText (py "pong") 1 {}) world (.error e, s') w' ∧
      SafeResponder.Classified responder 1 world (.error e) w') ∧
    ∃ e s₁ w₁, e.cls = .transportError ∧
      Cli.ReadFailed AnsweredStep responder pollArgs 1 1 {} world e s₁ w₁ := by
  obtain ⟨e, s', w', hcls, hsend⟩ := returns_raisedClass answeredStep_timedOut
    (responder.sendText (py "pong") 1) {} world .uncertainWriteError (by decide +kernel)
  obtain ⟨e₁, s₁, w₁, hcls₁, hread⟩ := returns_raisedClass answeredStep_timedOut
    (Cli.pollRead responder pollArgs 1) {} world .transportError (by decide +kernel)
  exact ⟨writes_classified.1 _ rfl,
    ⟨e, s', w', hcls, hsend, writes_classified.2.1 _ _ _ _ _ _ _ _ rfl hsend⟩,
    e₁, s₁, w₁, hcls₁, writes_classified.2.2 _ _ _ _ _ _ _ _ _ hread⟩

end Sample
