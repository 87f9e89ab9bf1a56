/-
# Recovery of an interrupted delivery (`delivery_recovery.py`)

`recoverDelivery` inspects first; it changes files or sends again only behind `--apply`
and `--confirm-retry`.
-/
import SafeAgent.Responder

open PyText

/-- What `recover_delivery` reports. -/
inductive RecoveryReport
  | noPendingDelivery (room : PyStr)
  | deliveryAcknowledged (room : PyStr) (inputSeq : ℕ) (replySeq : Option ℕ)
  | deliveryRecovered (room : PyStr) (inputSeq : ℕ) (replySeq : Option ℕ) (evidence : String)
  | historyIncomplete (room : PyStr) (inputSeq matchesObserved : ℕ)
  | duplicateRecords (room : PyStr) (inputSeq : ℕ) (replySequences : List ℕ)
  | deliveryFound (room : PyStr) (inputSeq replySeq : ℕ)
  | deliveryNotFound (room : PyStr) (inputSeq : ℕ)
  | deliveryRetried (room : PyStr) (inputSeq replySeq : ℕ)
  deriving DecidableEq

namespace Recovery

open Agent

/-- `_is_complete_history` -/
def isCompleteHistory (snapshot : RoomSnapshot) (inputSequence : ℕ) : Bool :=
  if snapshot.lastSeq = inputSequence ∧ snapshot.messages = [] then true
  else if snapshot.messages = [] ∨ snapshot.lastSeq < inputSequence then false
  else
    decide (snapshot.firstSeq = inputSequence + 1 ∧
      snapshot.messages.map RoomMessage.seq =
        List.range' (inputSequence + 1) (snapshot.lastSeq - inputSequence))

/-- `_persist_recovered_state` -/
def persistRecoveredState (room : PyStr) (record : DeliveryRecord) : Agent Unit := do
  modify fun s => s.observeNonce room record.nonce
  let s ← get
  SafeResponder.advanceCursor room (max (s.cursorFor room) record.inputSequence)
  saveState

variable [Platform]

/-- `_finalize_recovery` -/
def finalizeRecovery (room : PyStr) (record : DeliveryRecord) (replySequence : ℕ)
    (failureMessage : String) : Agent Unit :=
  tryCatch (do
    let _ ← DeliveryJournal.acknowledge replySequence
    persistRecoveredState room record
    DeliveryJournal.clear) fun e =>
      if e.isa .deliveryError || e.isa .stateError then
        throw (uncertainWrite (failureMessage ++ "; run recover-delivery again without retrying"))
      else throw e

/-- `_retry_exact_envelope` -/
def retryExactEnvelope (client : TechnocoreClient) (room : PyStr) (record : DeliveryRecord) :
    Agent RoomMessage :=
  tryCatch (sendSignedMessage client room record.envelope record.inputSequence) fun e =>
    if e.isa .transportError || e.isa .responseError then
      throw (uncertainWrite
        "delivery retry did not return a verifiable acknowledgement; do not retry again before inspecting the room")
    else throw e

/-- `_recover_acknowledged`, with the recorded reply sequence. -/
def recoverAcknowledged (room : PyStr) (record : DeliveryRecord) (apply : Bool) :
    Agent RecoveryReport :=
  if ¬apply then
    return .deliveryAcknowledged room record.inputSequence record.replySequence
  else do
    finalizeRecovery room record (record.replySequence.getD 0)
      "acknowledged delivery state could not be finalized"
    return .deliveryRecovered room record.inputSequence record.replySequence
      "verified_acknowledgement"

/-- `_recover_pending` -/
def recoverPending (room : PyStr) (record : DeliveryRecord) (snapshot : RoomSnapshot)
    (client : TechnocoreClient) (apply confirmRetry : Bool) : Agent RecoveryReport :=
  let found := snapshot.messages.filter record.matchesMessage
  if ¬isCompleteHistory snapshot record.inputSequence then
    return .historyIncomplete room record.inputSequence found.length
  else
    match found with
    | [] =>
        if ¬(apply && confirmRetry) then return .deliveryNotFound room record.inputSequence
        else do
          let posted ← retryExactEnvelope client room record
          finalizeRecovery room record posted.seq "retried delivery state could not be finalized"
          return .deliveryRetried room record.inputSequence posted.seq
    | [found] =>
        if ¬apply then return .deliveryFound room record.inputSequence found.seq
        else do
          finalizeRecovery room record found.seq "found delivery state could not be finalized"
          return .deliveryRecovered room record.inputSequence (some found.seq) "room_history"
    | _ => return .duplicateRecords room record.inputSequence (found.map RoomMessage.seq)

/-- `recover_delivery` -/
def recoverDelivery (room did : PyStr) (client : TechnocoreClient) (apply confirmRetry : Bool) :
    Agent RecoveryReport := do
  let validRoom ← Proc.ofExcept (Crypto.validateRoom room)
  let validDid ← Proc.ofExcept (Crypto.validateDid did)
  if confirmRetry && !apply then throw (deliveryError "--confirm-retry requires --apply")
  else
    match ← DeliveryJournal.load with
    | none => return .noPendingDelivery validRoom
    | some record => do
        Proc.ofExcept (record.verifyForRoom validRoom)
        if record.did ≠ validDid then
          throw (deliveryError "delivery journal belongs to a different identity")
        else if record.status = .acknowledged then
          recoverAcknowledged validRoom record apply
        else do
          let snapshot ← readRoom client validRoom record.inputSequence (some 0) 200 0
          recoverPending validRoom record snapshot client apply confirmRetry

end Recovery
