/-
# What an acknowledgement shows

`send_signed_message` ties the posted record of an answer to the room of the same answer by its
sequence number alone: the message that the room shows there may be another one.

* `sendAnswer`       : the result of a call as a function of how its exchange ended;
* `Misattributed`    : the answers whose room shows another message at the posted number;
* `acknowledged_iff` : **a call acknowledges what the room shows exactly when its answer is not
  misattributed**.
-/
import SafeAgent.Sample

open PyText

namespace Agent

/-- `send_signed_message` where the exchange ends in `outcome`. -/
def sendAnswer [Platform] (client : TechnocoreClient) (room : PyStr) (envelope : Envelope)
    (inReplyTo : ℕ) (outcome : HttpOutcome) : PyResult RoomMessage := do
  let _ ← client.sayRequest room envelope inReplyTo
  let payload ← Protocol.requestJson outcome
  TechnocoreClient.checkPosted room envelope payload

variable [Platform]

/-- The call returns what its one exchange decides. -/
theorem returns_sendSignedMessage {W : Type} {H : W → (o : Op) → Except PyErr o.Val → W → Prop}
    {client : TechnocoreClient} {room : PyStr} {envelope : Envelope} {inReplyTo : ℕ}
    {outcome : HttpOutcome} {s s' : AgentState} {w w' : W} {result : PyResult RoomMessage}
    (hanswer : ∀ request r w₁, H w (.http request) r w₁ → r = outcome)
    (h : EffTree.Returns H (sendSignedMessage client room envelope inReplyTo s) w
      (result, s') w') : result = sendAnswer client room envelope inReplyTo outcome := by
  unfold sendAnswer
  unfold sendSignedMessage at h
  cases hsay : client.sayRequest room envelope inReplyTo with
  | error e =>
      rw [hsay] at h
      have hend : (result, s') = (Except.error e, s) ∧ w' = w := h
      exact (Prod.mk.inj hend.1).1
  | ok request =>
      rw [hsay] at h
      -- the one operation of the call
      obtain ⟨answer, w₂, hstep, h⟩ := h
      obtain rfl := hanswer request answer w₂ hstep
      have hrest : ∀ outcome : HttpOutcome, EffTree.Returns H
          ((Proc.ofExcept (Protocol.requestJson outcome) >>= fun payload =>
            Proc.ofExcept (TechnocoreClient.checkPosted room envelope payload) :
              Agent RoomMessage) s) w₂ (result, s') w' →
          result = Protocol.requestJson outcome >>= TechnocoreClient.checkPosted room envelope := by
        intro outcome hret
        cases hjson : Protocol.requestJson outcome with
        | error e =>
            rw [hjson] at hret
            have hend : (result, s') = (Except.error e, s) ∧ w' = w₂ := hret
            exact (Prod.mk.inj hend.1).1
        | ok payload =>
            rw [hjson] at hret
            have hend : (result, s') =
              (TechnocoreClient.checkPosted room envelope payload, s) ∧ w' = w₂ := hret
            exact (Prod.mk.inj hend.1).1
      cases answer with
      | error e => exact hrest (.error e) h
      | ok response => exact hrest (.ok response) h

end Agent

theorem Protocol.hookKeeps_jsonReader [Platform] : Json.HookKeeps Protocol.jsonReader :=
  Json.hookKeeps_dict rfl

namespace TechnocoreClient

open Protocol Json

/-- The message carries the DID, the nonce and the text of the envelope. -/
def Carries (m : RoomMessage) (envelope : Envelope) : Prop :=
  m.sender = envelope.did ∧ m.text = envelope.text ∧ m.nonce = some (decimal envelope.nonce)

/-- The room of the answer shows the envelope under the sequence number of `posted`. -/
def Shows (room : PyStr) (envelope : Envelope) (payload : JsonFields) (posted : RoomMessage) :
    Prop :=
  ∃ snapshot, parseSnapshot payload room = .ok snapshot ∧
    ∃ m ∈ snapshot.messages, m.seq = posted.seq ∧ Carries m envelope

/-- The answer repeats the envelope as its posted record, with the sequence number of a message
that does not carry it. -/
def Misattributed (room : PyStr) (envelope : Envelope) (payload : JsonFields) : Prop :=
  ∃ snapshot posted m, parseSnapshot payload room = .ok snapshot ∧
    parseMessage (get payload (py "posted")) = .ok posted ∧ Carries posted envelope ∧
    m ∈ snapshot.messages ∧ m.seq = posted.seq ∧ ¬Carries m envelope

/-- What `checkPosted` accepts. -/
theorem checkPosted_iff {room : PyStr} {envelope : Envelope} {payload : JsonFields}
    {posted : RoomMessage} :
    checkPosted room envelope payload = .ok posted ↔
      ∃ snapshot, parseSnapshot payload room = .ok snapshot ∧
        parseMessage (get payload (py "posted")) = .ok posted ∧ Carries posted envelope ∧
        ∃ m ∈ snapshot.messages, m.seq = posted.seq := by
  constructor
  · intro h
    obtain ⟨snapshot, hsnapshot, h⟩ := PyResult.bind_ok h
    obtain ⟨found, hposted, h⟩ := PyResult.bind_ok h
    split_ifs at h with hne
    cases h
    push Not at hne
    obtain ⟨hsender, htext, hnonce, hseq⟩ := hne
    exact ⟨snapshot, hsnapshot, hposted, ⟨hsender, htext, hnonce⟩, List.mem_map.mp hseq⟩
  · rintro ⟨snapshot, hsnapshot, hposted, ⟨hsender, htext, hnonce⟩, hseq⟩
    have hmem : posted.seq ∈ snapshot.messages.map RoomMessage.seq := List.mem_map.mpr hseq
    rw [checkPosted, hsnapshot]
    show (parseMessage (get payload (py "posted")) >>= _) = _
    rw [hposted]
    show (if _ then _ else _) = _
    rw [if_neg]
    push Not
    exact ⟨hsender, htext, hnonce, hmem⟩

/-- A posted record that is refused is refused with `ResponseError`. -/
theorem checkPosted_refused {room : PyStr} {envelope : Envelope} {payload : JsonFields}
    {snapshot : RoomSnapshot} {posted : RoomMessage}
    (hsnapshot : parseSnapshot payload room = .ok snapshot)
    (hposted : parseMessage (get payload (py "posted")) = .ok posted)
    (hnot : ¬Carries posted envelope) :
    ∃ e, checkPosted room envelope payload = .error e ∧ e.cls = .responseError := by
  refine ⟨responseError "Technocore posted record does not match the signed request", ?_, rfl⟩
  rw [checkPosted, hsnapshot]
  show (parseMessage (get payload (py "posted")) >>= _) = _
  rw [hposted]
  show (if _ then _ else _) = _
  rw [if_pos]
  by_contra hall
  push Not at hall
  exact hnot ⟨hall.1, hall.2.1, hall.2.2.1⟩

/-- What is promised of a call: its room shows what it acknowledges, and an answer whose room
shows another message there is rejected. -/
structure Honest (room : PyStr) (envelope : Envelope) (payload : JsonFields)
    (result : PyResult RoomMessage) : Prop where
  shows : ∀ posted, result = .ok posted → Shows room envelope payload posted
  rejects : ∀ snapshot posted m, parseSnapshot payload room = .ok snapshot →
    parseMessage (get payload (py "posted")) = .ok posted → m ∈ snapshot.messages →
    m.seq = posted.seq → ¬Carries m envelope →
    ∃ e, result = .error e ∧ e.cls = .responseError

theorem honest_checkPosted_iff {room : PyStr} {envelope : Envelope} {payload : JsonFields} :
    Honest room envelope payload (checkPosted room envelope payload) ↔
      ¬Misattributed room envelope payload := by
  constructor
  · rintro hhonest ⟨snapshot, posted, m, hsnapshot, hposted, hcarries, hm, hseq, hnot⟩
    have haccepted : checkPosted room envelope payload = .ok posted :=
      checkPosted_iff.mpr ⟨snapshot, hsnapshot, hposted, hcarries, m, hm, hseq⟩
    obtain ⟨e, herror, -⟩ := hhonest.rejects snapshot posted m hsnapshot hposted hm hseq hnot
    rw [haccepted] at herror
    cases herror
  · intro hnot
    constructor
    · intro posted haccepted
      obtain ⟨snapshot, hsnapshot, hposted, hcarries, m, hm, hseq⟩ := checkPosted_iff.mp haccepted
      refine ⟨snapshot, hsnapshot, m, hm, hseq, ?_⟩
      by_contra hother
      exact hnot ⟨snapshot, posted, m, hsnapshot, hposted, hcarries, hm, hseq, hother⟩
    · intro snapshot posted m hsnapshot hposted hm hseq hother
      refine checkPosted_refused hsnapshot hposted fun hcarries => ?_
      exact hnot ⟨snapshot, posted, m, hsnapshot, hposted, hcarries, hm, hseq, hother⟩

variable [Platform]

/-- **An acknowledgement means that the room shows the message**, unless the answer is
misattributed. -/
theorem acknowledged_iff {W : Type} {H : W → (o : Op) → Except PyErr o.Val → W → Prop}
    {client : TechnocoreClient} {room : PyStr} {envelope : Envelope} {inReplyTo : ℕ}
    {outcome : HttpOutcome} {request : HttpRequest} {payload : JsonFields} {s s' : AgentState}
    {w w' : W} {result : PyResult RoomMessage}
    (hanswer : ∀ request r w₁, H w (.http request) r w₁ → r = outcome)
    (hreturns : EffTree.Returns H (Agent.sendSignedMessage client room envelope inReplyTo s) w
      (result, s') w')
    (hrequest : client.sayRequest room envelope inReplyTo = .ok request)
    (hpayload : Protocol.requestJson outcome = .ok payload) :
    Honest room envelope payload result ↔ ¬Misattributed room envelope payload := by
  have hresult : result = checkPosted room envelope payload := by
    rw [Agent.returns_sendSignedMessage hanswer hreturns, Agent.sendAnswer, hrequest, hpayload]
    rfl
  rw [hresult, honest_checkPosted_iff]

end TechnocoreClient

/-! ## A misattributed answer -/

namespace Sample

open TechnocoreClient

/-- A signed request to post `pong`. -/
def pong : Envelope where
  did := did
  nonce := 5
  text := py "pong"
  signature := List.replicate 86 65

/-- The record of a text under sequence number 2. -/
def recordOf (text : PyStr) : Json :=
  .obj [(py "seq", .int 2), (py "from", .str did), (py "text", .str text), (py "nonce", .str (py "5"))]

/-- An answer that posts one text and shows another. -/
def answerShowing (shown : PyStr) : JsonFields :=
  [(py "room", .str room), (py "first_seq", .int 1), (py "last_seq", .int 2),
    (py "messages", .arr [recordOf shown]), (py "posted", recordOf (py "pong"))]

/-- What the client decodes of it. -/
def shownPayload (shown : PyStr) : JsonFields :=
  let record (text : PyStr) : Json :=
    .obj [(py "from", .str did), (py "nonce", .str (py "5")), (py "seq", .int 2),
      (py "text", .str text)]
  [(py "first_seq", .int 1), (py "last_seq", .int 2), (py "messages", .arr [record shown]),
    (py "posted", record (py "pong")), (py "room", .str room)]

/-- Every exchange ends in `outcome`. -/
def exchange (outcome : HttpOutcome) (w : Unit) : (o : Op) → Except PyErr o.Val × Unit
  | .http _ => (outcome, w)
  | _ => (.error (.of .osError "nothing else is asked for"), w)

/-- The steps of `exchange`. -/
def exchangeStep (outcome : HttpOutcome) (w : Unit) (o : Op) (r : Except PyErr o.Val) (w' : Unit) :
    Prop :=
  exchange outcome w o = (r, w')

theorem exchangeStep_http (outcome : HttpOutcome) (w : Unit) (request : HttpRequest)
    (r : Except PyErr (Op.http request).Val) (w' : Unit)
    (h : exchangeStep outcome w (.http request) r w') : r = outcome :=
  (Prod.mk.inj h).1.symm

/-- Every call ends. -/
theorem returns_exchange {α : Type} (outcome : HttpOutcome) (m : Agent α) (s : AgentState) :
    ∃ result s' w', EffTree.Returns (exchangeStep outcome) (m s) () (result, s') w' := by
  have hstep : ∀ w o, exchangeStep outcome w o (exchange outcome w o).1 (exchange outcome w o).2 :=
    fun _ _ => rfl
  have hreturns := EffTree.returns_run hstep (m s) ()
  generalize EffTree.run (exchange outcome) (m s) () = last at hreturns
  obtain ⟨⟨result, s'⟩, w'⟩ := last
  exact ⟨result, s', w', hreturns⟩

theorem sayRequest_pong : ∃ request, client.sayRequest room pong 1 = .ok request :=
  PyResult.ok_of_isOk (by decide +kernel)

theorem sortKeys_answerShowing (shown : PyStr) :
    Json.sortKeys (.obj (answerShowing shown)) = .obj (shownPayload shown) := rfl

theorem requestJson_answerShowing {shown : PyStr} (hplain : Json.Plain (.obj (answerShowing shown)))
    (hdepth : Json.depth (.obj (answerShowing shown)) ≤ 900)
    (hsize : (Json.canonical (.obj (answerShowing shown))).length ≤ Protocol.maxResponseBytes) :
    Protocol.requestJson (respond (.obj (answerShowing shown))) = .ok (shownPayload shown) := by
  have hloads := Json.loads_canonical Protocol.hookKeeps_jsonReader hplain hdepth
  have hlength : ¬Protocol.maxResponseBytes <
      (toAscii (Json.canonical (.obj (answerShowing shown)))).length := by
    rw [toAscii, List.length_map]
    exact not_lt.mpr hsize
  rw [sortKeys_answerShowing] at hloads
  rw [respond, Protocol.requestJson, if_neg hlength, hloads]
  rfl

/-- The posted record of the answer, and what the room shows. -/
theorem parse_shownPayload (shown : PyStr) :
    ∃ snapshot posted m, Protocol.parseSnapshot (shownPayload shown) room = .ok snapshot ∧
      Protocol.parseMessage (Json.get (shownPayload shown) (py "posted")) = .ok posted ∧
      Carries posted pong ∧ m ∈ snapshot.messages ∧ m.seq = posted.seq ∧ m.text = shown := by
  refine ⟨_, _, { seq := 2, sender := did, text := shown, nonce := some (py "5"), seq_pos := ?_ },
    rfl, rfl, ⟨rfl, rfl, rfl⟩, List.mem_singleton.mpr rfl, rfl, rfl⟩
  decide

theorem misattributed_shownPayload {shown : PyStr} (h : shown ≠ py "pong") :
    Misattributed room pong (shownPayload shown) := by
  obtain ⟨snapshot, posted, m, hsnapshot, hposted, hcarries, hm, hseq, rfl⟩ := parse_shownPayload shown
  exact ⟨snapshot, posted, m, hsnapshot, hposted, hcarries, hm, hseq, fun hsame => h hsame.2.1⟩

attribute [irreducible] pong

/-- The result of the call. -/
theorem exchange_result {outcome : HttpOutcome} {payload : JsonFields}
    (hjson : Protocol.requestJson outcome = .ok payload) : ∃ s' w',
      EffTree.Returns (exchangeStep outcome) (Agent.sendSignedMessage client room pong 1 {}) ()
        (checkPosted room pong payload, s') w' := by
  obtain ⟨request, hrequest⟩ := sayRequest_pong
  obtain ⟨result, s', w', hreturns⟩ := returns_exchange outcome
    (Agent.sendSignedMessage client room pong 1) {}
  have hresult := Agent.returns_sendSignedMessage (exchangeStep_http outcome ()) hreturns
  rw [Agent.sendAnswer, hrequest, hjson] at hresult
  have hposted : result = checkPosted room pong payload := hresult
  rw [hposted] at hreturns
  exact ⟨s', w', hreturns⟩

theorem requestJson_ping : Protocol.requestJson (respond (.obj (answerShowing (py "ping")))) =
    .ok (shownPayload (py "ping")) :=
  requestJson_answerShowing (by decide +kernel) (by decide +kernel) (by decide +kernel)

/-- **The room shows `ping` where `pong` is acknowledged.** -/
theorem acknowledged_elsewhere : ∃ outcome payload result s' w',
    EffTree.Returns (exchangeStep outcome) (Agent.sendSignedMessage client room pong 1 {}) ()
        (result, s') w' ∧
      Protocol.requestJson outcome = .ok payload ∧ ¬Honest room pong payload result := by
  obtain ⟨s', w', hreturns⟩ := exchange_result requestJson_ping
  refine ⟨_, _, _, s', w', hreturns, requestJson_ping, fun hhonest => ?_⟩
  exact honest_checkPosted_iff.mp hhonest (misattributed_shownPayload (by decide))

theorem acknowledged_iff_ping : ∃ outcome payload result,
    Protocol.requestJson outcome = .ok payload ∧
      (Honest room pong payload result ↔ ¬Misattributed room pong payload) := by
  obtain ⟨request, hrequest⟩ := sayRequest_pong
  obtain ⟨s', w', hreturns⟩ := exchange_result requestJson_ping
  exact ⟨_, _, _, requestJson_ping,
    acknowledged_iff (exchangeStep_http _ ()) hreturns hrequest requestJson_ping⟩

end Sample
