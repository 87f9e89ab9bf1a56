/-
# The responder (`agent.py`)

`processSnapshot` handles the new messages of one snapshot: it decides, sends, audits,
and moves the cursor, in that order.

* `sendText`               : journal, send, acknowledge;
* `eventForMessage`        : what is done about one message;
* `persistProcessedMessage`: audit record, cursor, journal;
* `processSnapshot`        : the whole snapshot.
-/
import SafeAgent.Audit
import SafeAgent.Delivery
import SafeAgent.Policy

open PyText

variable [Platform]

/-- `SafeResponder`, without the state, which is the memory of the process. -/
structure SafeResponder where
  room : PyStr
  did : PyStr
  privateKey : Platform.PrivateKey
  client : TechnocoreClient
  policy : CommandPolicy
  receiptService : Bool
  deliveryJournal : Bool
  auditLog : Bool
  send : Bool

/-- `UncertainWriteError(message)` -/
def uncertainWrite (message : String) : PyErr := .of .uncertainWriteError message

namespace SafeResponder

open Agent

/-- `self.state.advance_cursor(room, sequence)` -/
def advanceCursor (room : PyStr) (sequence : ℕ) : Agent Unit := do
  let s ← get
  let s' ← Proc.ofExcept (s.advanceCursor room sequence)
  set s'

/-- `bootstrap_latest` -/
def bootstrapLatest (r : SafeResponder) : Agent Event := do
  let snapshot ← readRoom r.client r.room 0 (some 0) 1 0
  let s ← get
  let (_, s') ← Proc.ofExcept (s.observeGeneration r.room snapshot.generation)
  set s'
  advanceCursor r.room snapshot.lastSeq
  if r.send then saveState else pure ()
  return .bootstrapped r.room snapshot.lastSeq r.send

/-! ## Sending -/

/-- The journal's part of `_send_text` before the request. -/
def prepareDelivery (r : SafeResponder) (inputSequence : ℕ) (envelope : Envelope) : Agent Unit :=
  if r.deliveryJournal then do
    let record ← Proc.ofExcept (DeliveryRecord.create r.room inputSequence envelope)
    DeliveryJournal.prepare record
  else pure ()

/-- The journal's part of `_send_text` after the request. -/
def acknowledgeDelivery (r : SafeResponder) (posted : RoomMessage) : Agent Unit :=
  if r.deliveryJournal then
    tryCatch (do let _ ← DeliveryJournal.acknowledge posted.seq; pure ()) fun e =>
      if e.isa .deliveryError then
        throw (uncertainWrite
          "reply was acknowledged but its delivery evidence could not be persisted; run recover-delivery before restarting")
      else throw e
  else pure ()

/-- The request of `_send_text`. -/
def postEnvelope (r : SafeResponder) (envelope : Envelope) (inputSequence : ℕ) :
    Agent RoomMessage :=
  tryCatch (sendSignedMessage r.client r.room envelope inputSequence) fun e =>
    if e.isa .transportError || e.isa .responseError then
      throw (uncertainWrite
        "signed write did not return a verifiable acknowledgement; inspect the room before restarting so the command is not answered twice")
    else throw e

/-- `_send_text` -/
def sendText (r : SafeResponder) (text : PyStr) (inputSequence : ℕ) : Agent RoomMessage := do
  if r.deliveryJournal then DeliveryJournal.requireEmpty else pure ()
  let clock : ℤ ← perform .timeNs
  let s ← get
  let (nonce, s') ← Proc.ofExcept (s.nextNonce r.room clock)
  set s'
  let (swept, signature) ← Proc.ofExcept
    (Crypto.signRoomMessage r.privateKey r.room (.int nonce) text)
  let envelope : Envelope := { did := r.did, nonce, text := swept, signature }
  prepareDelivery r inputSequence envelope
  let posted ← postEnvelope r envelope inputSequence
  acknowledgeDelivery r posted
  return posted

/-! ## Handling a message -/

/-- `_reply_event` -/
def replyEvent (r : SafeResponder) (event : MessageEvent) (command reply : PyStr) :
    Agent MessageEvent :=
  if ¬r.send then
    return { event with outcome := .wouldReply, replyCommand := some command, reply := some reply }
  else do
    let posted ← sendText r reply event.seq
    return { event with
      outcome := .sent, replySeq := some posted.seq, replyCommand := some command }

/-- The event of a receipt that could not be issued. -/
def receiptFailedEvent (event : MessageEvent) (pullRequest : PyStr) (e : PyErr) : MessageEvent :=
  { event with
    outcome := .receiptFailed, pullRequest := some pullRequest, errorCode := some e.code,
    httpStatus := e.status, retryAfter := e.retryAfter }

omit [Platform] in
/-- `self.receipt_service.issue(pull_request)`, with a `GitHubReceiptError` as a value. -/
def issueReceipt (pullRequest : PyStr) : Agent (Except PyErr PyStr) :=
  tryCatch (do let receipt : PyStr ← perform (.issueReceipt pullRequest); pure (.ok receipt))
    fun e => if e.isa .gitHubReceiptError then pure (.error e) else throw e

/-- `_receipt_event` -/
def receiptEvent (r : SafeResponder) (event : MessageEvent) (pullRequest : PyStr) :
    Agent MessageEvent :=
  if ¬r.send then
    return { event with outcome := .wouldIssueReceipt, pullRequest := some pullRequest }
  else if ¬r.receiptService then
    throw (Protocol.responseError "receipt command reached an agent without a receipt service")
  else do
    match ← issueReceipt pullRequest with
    | .error e => return receiptFailedEvent event pullRequest e
    | .ok receipt =>
        let posted ← sendText r receipt event.seq
        let digest ← Proc.ofExcept (DeliveryRecord.sha256 receipt)
        return { event with
          outcome := .sentReceipt, replySeq := some posted.seq, pullRequest := some pullRequest,
          receiptSha256 := some digest }

/-- The event that `_event_for_message` starts from. -/
def baseEvent (r : SafeResponder) (message : RoomMessage) (decision : Decision) : MessageEvent :=
  { outcome := decision.action.outcome, decision := decision.action, room := r.room,
    seq := message.seq, sender := message.sender, reason := decision.reason }

/-- What `_event_for_message` does with a decision. -/
def answerDecision (r : SafeResponder) (message : RoomMessage) (decision : Decision) :
    Agent MessageEvent :=
  let event := baseEvent r message decision
  match decision.action, decision.reply, decision.target with
  | .reply, some reply, _ => replyEvent r event message.text reply
  | .receipt, _, some target => receiptEvent r event target
  | _, _, _ => return event

/-- `_event_for_message` -/
def eventForMessage (r : SafeResponder) (message : RoomMessage) : Agent MessageEvent := do
  let decision ← Policy.decide r.policy message
  answerDecision r message decision

/-! ## Persisting -/

/-- An optional text as JSON. -/
def optStr : Option PyStr → Json
  | none => .null
  | some s => .str s

/-- An optional number as JSON. -/
def optNat : Option ℕ → Json
  | none => .null
  | some n => .int n

/-- The audit arguments for an event. -/
def auditArgs (message : RoomMessage) (event : MessageEvent) (fingerprint : Option PyStr)
    (observedAt : UtcTime) : AuditArgs :=
  { observedAt := .utc observedAt, inputSequence := .int message.seq,
    senderFingerprint := optStr fingerprint, senderAuthenticated := .bool message.isSigned,
    policyDecision := .str event.decision.token, policyReason := .str event.reason.token,
    outcome := .str event.outcome.token, receiptSha256 := optStr event.receiptSha256,
    responseSequence := optNat event.replySeq }

/-- The `sender_fingerprint` of an audit record. -/
def senderFingerprint (message : RoomMessage) : PyResult (Option PyStr) :=
  if message.isSigned then some <$> Crypto.fingerprintOfDid message.sender else .ok none

/-- `_append_audit_record` -/
def appendAuditRecord (r : SafeResponder) (message : RoomMessage) (event : MessageEvent) :
    Agent Unit := do
  let fingerprint ← Proc.ofExcept (senderFingerprint message)
  let now : { t : UtcTime // 1000 ≤ t.year } ← perform .utcNow
  let _ ← Audit.append r.privateKey r.did (auditArgs message event fingerprint now)
  return ()

/-- The `state.save` of `_persist_processed_message`. -/
def saveProcessed (event : MessageEvent) : Agent Unit :=
  tryCatch saveState fun e =>
    if e.isa .stateError && event.outcome.isSent then
      throw (uncertainWrite
        "reply was acknowledged but its cursor could not be persisted; inspect the room and repair the state file before restarting")
    else throw e

/-- The `delivery_journal.clear` of `_persist_processed_message`. -/
def clearDelivery (r : SafeResponder) (event : MessageEvent) : Agent Unit :=
  if event.outcome.isSent && r.deliveryJournal then
    tryCatch DeliveryJournal.clear fun e =>
      if e.isa .deliveryError then
        throw (uncertainWrite
          "reply and cursor were persisted but the delivery journal could not be cleared; run recover-delivery before restarting")
      else throw e
  else pure ()

/-- `_persist_processed_message` -/
def persistProcessedMessage (r : SafeResponder) (message : RoomMessage) (event : MessageEvent) :
    Agent Unit := do
  if r.send && r.auditLog then appendAuditRecord r message event else pure ()
  advanceCursor r.room message.seq
  if ¬r.send then pure ()
  else do
    saveProcessed event
    clearDelivery r event

/-! ## A snapshot -/

/-- The loop of `process_snapshot`: the events, the cursor reached, and whether any
message was handled. -/
def processMessages (r : SafeResponder) :
    List RoomMessage → ℕ → Bool → Agent (List Event × ℕ × Bool)
  | [], cursor, handled => pure ([], cursor, handled)
  | message :: rest, cursor, handled =>
      if message.seq ≤ cursor then processMessages r rest cursor handled
      else do
        let event ← eventForMessage r message
        perform (.handling event)
        persistProcessedMessage r message event
        let (events, reached, any) ← processMessages r rest message.seq true
        return (.handled event :: events, reached, any)

/-- `self.state.observe_generation(...)` of `process_snapshot`. -/
def observeSnapshotGeneration (r : SafeResponder) (snapshot : RoomSnapshot) : Agent Bool := do
  let s ← get
  match s.observeGeneration r.room snapshot.generation with
  | .ok (grew, s') => do
      set s'
      return grew
  | .error _ => throw (Protocol.responseError "Technocore room generation moved backwards")

/-- The step of `process_snapshot` over a tail that cannot be read. -/
def skipUnavailable (r : SafeResponder) (cursor lastSeq : ℕ) (handled : Bool) :
    Agent (List Event) :=
  if ¬handled ∧ cursor < lastSeq then do
    advanceCursor r.room lastSeq
    if r.send then saveState else pure ()
    return [.cursorAdvanced r.room cursor lastSeq]
  else return []

/-- `process_snapshot` -/
def processSnapshot (r : SafeResponder) (snapshot : RoomSnapshot) : Agent (List Event) := do
  if snapshot.room ≠ r.room then
    throw (Protocol.responseError "agent received a snapshot for a different room")
  else do
    let before ← get
    let previousGeneration := before.generationFor r.room
    let generationChanged ← observeSnapshotGeneration r snapshot
    let needsPersist := previousGeneration.isNone || generationChanged
    let changed : List Event :=
      if generationChanged then
        [.roomGenerationChanged r.room previousGeneration snapshot.generation]
      else []
    let s ← get
    let cursor := s.cursorFor r.room
    let gap : List Event :=
      if 0 < snapshot.firstSeq ∧ cursor + 1 < snapshot.firstSeq then
        [.retentionGap r.room cursor snapshot.firstSeq]
      else []
    let (events, reached, handled) ← processMessages r snapshot.messages cursor false
    let skipped ← skipUnavailable r reached snapshot.lastSeq handled
    let persisted := r.send && (handled || !skipped.isEmpty)
    if r.send && needsPersist && !persisted then saveState else pure ()
    return changed ++ gap ++ events ++ skipped

end SafeResponder
