/-
# The delivery journal (`delivery.py`)

One signed envelope is written down before its request starts, so that an interrupted
send can be resolved later.

* `DeliveryRecord` carries what `create`, `from_payload` and `acknowledge` establish:
  a positive input, a reply exactly when acknowledged, and a reply after the input;
* `fromPayload_toPayload` : a record that was written and is accepted again is the same;
* `DeliveryJournal.load`, `prepare`, `acknowledge`, `clear` : the journal on disk.
-/
import SafeAgent.Operations

open PyText

/-- `DeliveryRecord.status` -/
inductive DeliveryStatus
  | pending
  | acknowledged
  deriving DecidableEq, Repr

/-- `DeliveryRecord` -/
structure DeliveryRecord where
  status : DeliveryStatus
  roomSha256 : PyStr
  inputSequence : ℕ
  did : PyStr
  nonce : ℕ
  text : PyStr
  textSha256 : PyStr
  signature : PyStr
  replySequence : Option ℕ
  input_pos : 0 < inputSequence
  pending_iff : status = .pending ↔ replySequence = none
  reply_after : ∀ r, replySequence = some r → inputSequence < r

/-- `DeliveryError(message)` -/
def deliveryError (message : String) : PyErr := .of .deliveryError message

namespace DeliveryRecord

open Json PyItems

/-- `DELIVERY_SCHEMA` -/
def deliverySchema : PyStr := py "technocore-safe-agent-delivery-v1"

/-- `SHA256_PATTERN` -/
def isSha256 (s : PyStr) : Bool := s.length == 64 && s.all isHexLower

/-- `_sha256` -/
def sha256 (value : PyStr) : PyResult PyStr :=
  match encodeUtf8 value with
  | some octets => .ok (Sha256.sha256Hex octets)
  | none => .error (.of .unicodeEncodeError "surrogates not allowed")

/-- The envelope that the record keeps. -/
def envelope (r : DeliveryRecord) : Envelope :=
  { did := r.did, nonce := r.nonce, text := r.text, signature := r.signature }

/-- `DeliveryRecord.matches` -/
def matchesMessage (r : DeliveryRecord) (m : RoomMessage) : Bool :=
  decide (m.sender = r.did ∧ m.nonce = some (decimal r.nonce) ∧ m.text = r.text)

/-- `DeliveryRecord.acknowledge` -/
def acknowledge (r : DeliveryRecord) (replySequence : ℕ) : PyResult DeliveryRecord :=
  if replySequence = 0 then
    .error (deliveryError "delivery reply_sequence must be a positive integer")
  else if hle : replySequence ≤ r.inputSequence then
    .error (deliveryError "reply sequence must follow the triggering input")
  else if r.status = .acknowledged then
    if r.replySequence = some replySequence then .ok r
    else .error (deliveryError "delivery already has a different acknowledgement")
  else
    .ok { r with
      status := .acknowledged, replySequence := some replySequence
      pending_iff := by simp
      reply_after := by
        rintro n ⟨⟩
        omega }

/-- An acknowledgement keeps everything but the status and the reply. -/
theorem acknowledge_ok {r r' : DeliveryRecord} {n : ℕ} (h : r.acknowledge n = .ok r') :
    r'.roomSha256 = r.roomSha256 ∧ r'.inputSequence = r.inputSequence ∧
      r'.envelope = r.envelope ∧ r'.status = .acknowledged ∧ r'.replySequence = some n := by
  unfold acknowledge at h
  split_ifs at h with hzero hle hack hsame
  · cases h
    exact ⟨rfl, rfl, rfl, hack, hsame⟩
  · cases h
    exact ⟨rfl, rfl, rfl, rfl, rfl⟩

/-! ## Checks of the fields -/

/-- `_positive_int` -/
def positiveInt (value : Json) (label : String) : PyResult ℕ :=
  match value.asInt with
  | some n =>
      if 0 < n then .ok n.toNat
      else .error (deliveryError ("delivery " ++ label ++ " must be a positive integer"))
  | none => .error (deliveryError ("delivery " ++ label ++ " must be a positive integer"))

/-- `_did` -/
def checkDid (value : Json) : PyResult PyStr :=
  match Crypto.validateDidValue value with
  | .ok did => .ok did
  | .error _ => .error (deliveryError "delivery DID is invalid")

/-- `_nonce_as_int` -/
def nonceAsInt (value : Json) : PyResult ℕ :=
  match value.asInt with
  | none => .error (deliveryError "delivery nonce must be a non-negative integer")
  | some n =>
      match Crypto.validateNonce (.int n) with
      | .ok _ => .ok n.toNat
      | .error e =>
          if e.isa .protocolValueError then .error (deliveryError "delivery nonce is invalid")
          else .error e

/-- `_exact_swept_text` -/
def exactSweptText [Platform] (value : Json) : PyResult PyStr :=
  match value.asStr with
  | none => .error (deliveryError "delivery text is invalid")
  | some text =>
      match Crypto.sweepText text with
      | .error _ => .error (deliveryError "delivery text is invalid")
      | .ok swept =>
          if swept = text then .ok swept
          else .error (deliveryError "delivery text is not in canonical swept form")

/-- `_signature` -/
def checkSignature (value : Json) : PyResult PyStr :=
  match value.asStr with
  | some s =>
      if Crypto.isSignature s then .ok s
      else .error (deliveryError "delivery signature is invalid")
  | none => .error (deliveryError "delivery signature is invalid")

/-- The digest checks of `from_payload`. -/
def checkDigest (value : Json) (label : String) : PyResult PyStr :=
  match value.asStr with
  | some s =>
      if isSha256 s then .ok s
      else .error (deliveryError ("delivery " ++ label ++ " digest is invalid"))
  | none => .error (deliveryError ("delivery " ++ label ++ " digest is invalid"))

/-- `status not in {"pending", "acknowledged"}`; a list or a `dict` cannot be looked up
in a set. -/
def checkStatus (value : Json) : PyResult DeliveryStatus :=
  match value with
  | .arr _ => .error (.of .typeError "unhashable type: 'list'")
  | .obj _ => .error (.of .typeError "unhashable type: 'dict'")
  | _ =>
      if value.isStr (py "pending") then .ok .pending
      else if value.isStr (py "acknowledged") then .ok .acknowledged
      else .error (deliveryError "delivery status must be pending or acknowledged")

/-- The reply sequence that goes with a status. -/
def checkReply (status : DeliveryStatus) (value : Json) : PyResult (Option ℕ) :=
  match status with
  | .pending =>
      match value with
      | .null => .ok none
      | _ => .error (deliveryError "pending delivery must not have a reply sequence")
  | .acknowledged => some <$> positiveInt value "reply_sequence"

/-! ## Building a record -/

/-- The record with its checked fields, if the reply follows the input. -/
def assemble (status : DeliveryStatus) (roomSha256 : PyStr) (inputSequence : ℕ) (did : PyStr)
    (nonce : ℕ) (text textSha256 signature : PyStr) (replySequence : Option ℕ) :
    PyResult DeliveryRecord :=
  if hpos : 0 < inputSequence then
    if hiff : status = .pending ↔ replySequence = none then
      if hafter : ∀ r, replySequence = some r → inputSequence < r then
        .ok { status, roomSha256, inputSequence, did, nonce, text, textSha256, signature,
              replySequence, input_pos := hpos, pending_iff := hiff, reply_after := hafter }
      else .error (deliveryError "reply sequence must follow the triggering input")
    else .error (deliveryError "pending delivery must not have a reply sequence")
  else .error (deliveryError "delivery input_sequence must be a positive integer")

variable [Platform]

/-- `DeliveryRecord.verify_for_room` -/
def verifyForRoom (r : DeliveryRecord) (room : PyStr) : PyResult Unit := do
  let validRoom ← Crypto.validateRoom room
  let digest ← sha256 validRoom
  if digest ≠ r.roomSha256 then
    .error (deliveryError "delivery journal belongs to a different room")
  else do
    let canonical ← Crypto.roomMessageOctets validRoom (decimal r.nonce) r.text
    if Crypto.verifyDetachedSignature r.did canonical r.signature then .ok ()
    else .error (deliveryError "delivery signature is invalid for this room")

/-- A record that is verified for a room names it. -/
theorem sha256_of_verifyForRoom {r : DeliveryRecord} {room : PyStr}
    (h : r.verifyForRoom room = .ok ()) : sha256 room = .ok r.roomSha256 := by
  simp only [verifyForRoom, bind, Except.bind] at h
  split at h <;> [cases h; rename_i validRoom hroom]
  obtain rfl := TechnocoreClient.validateRoom_ok hroom
  split at h <;> [cases h; rename_i digest hdigest]
  split_ifs at h with hne
  rw [not_not] at hne
  rw [hdigest, hne]

/-- `DeliveryRecord.create` -/
def create (room : PyStr) (inputSequence : ℕ) (envelope : Envelope) : PyResult DeliveryRecord := do
  let validRoom ← Crypto.validateRoom room
  let roomSha256 ← sha256 validRoom
  let input ← positiveInt (.int inputSequence) "input_sequence"
  let did ← Crypto.validateDid envelope.did
  let nonce ← nonceAsInt (.int envelope.nonce)
  let text ← exactSweptText (.str envelope.text)
  let textSha256 ← sha256 envelope.text
  let signature ← checkSignature (.str envelope.signature)
  let record ← assemble .pending roomSha256 input did nonce text textSha256 signature none
  record.verifyForRoom validRoom
  return record

/-- The keys that `from_payload` expects. -/
def payloadKeys : List PyStr :=
  [py "schema", py "status", py "room_sha256", py "input_sequence", py "did", py "nonce",
    py "text", py "text_sha256", py "signature", py "reply_sequence"]

/-- `DeliveryRecord.from_payload` -/
def fromPayload (payload : Json) : PyResult DeliveryRecord :=
  match payload.asObj with
  | none => .error (deliveryError "delivery journal has an unsupported schema")
  | some fields =>
      if ¬(get fields (py "schema")).isStr deliverySchema then
        .error (deliveryError "delivery journal has an unsupported schema")
      else if ¬hasKeys fields payloadKeys then
        .error (deliveryError "delivery journal contains unexpected fields")
      else do
        let status ← checkStatus (get fields (py "status"))
        let roomSha256 ← checkDigest (get fields (py "room_sha256")) "room"
        let textSha256 ← checkDigest (get fields (py "text_sha256")) "text"
        let text ← exactSweptText (get fields (py "text"))
        let digest ← sha256 text
        if digest ≠ textSha256 then
          .error (deliveryError "delivery text digest does not match its payload")
        else do
          let replySequence ← checkReply status (get fields (py "reply_sequence"))
          let input ← positiveInt (get fields (py "input_sequence")) "input_sequence"
          let did ← checkDid (get fields (py "did"))
          let nonce ← nonceAsInt (get fields (py "nonce"))
          let signature ← checkSignature (get fields (py "signature"))
          assemble status roomSha256 input did nonce text textSha256 signature replySequence

omit [Platform] in
/-- The text of a status. -/
def statusToken : DeliveryStatus → PyStr
  | .pending => py "pending"
  | .acknowledged => py "acknowledged"

omit [Platform] in
/-- `reply_sequence` as JSON. -/
def replyPayload : Option ℕ → Json
  | none => .null
  | some n => .int n

omit [Platform] in
/-- The items of `DeliveryRecord.to_payload`. -/
def payloadFields (r : DeliveryRecord) : JsonFields :=
  [(py "schema", .str deliverySchema), (py "status", .str (statusToken r.status)),
    (py "room_sha256", .str r.roomSha256), (py "input_sequence", .int r.inputSequence),
    (py "did", .str r.did), (py "nonce", .int r.nonce), (py "text", .str r.text),
    (py "text_sha256", .str r.textSha256), (py "signature", .str r.signature),
    (py "reply_sequence", replyPayload r.replySequence)]

omit [Platform] in
/-- `DeliveryRecord.to_payload` -/
def toPayload (r : DeliveryRecord) : Json := .obj r.payloadFields

/-! ## Writing and reading -/

omit [Platform] in
theorem checkStatus_token {status status' : DeliveryStatus}
    (h : checkStatus (.str (statusToken status)) = .ok status') : status' = status := by
  cases status <;> cases status' <;> first | rfl | exact absurd h (by decide)

omit [Platform] in
theorem checkDigest_ok {s s' : PyStr} {label : String}
    (h : checkDigest (.str s) label = .ok s') : s' = s := by
  simp only [checkDigest, asStr] at h
  split_ifs at h
  exact (Except.ok.inj h).symm

theorem exactSweptText_ok {s s' : PyStr} (h : exactSweptText (.str s) = .ok s') : s' = s := by
  simp only [exactSweptText, asStr] at h
  split at h
  · cases h
  · split_ifs at h with heq
    cases h
    exact heq

omit [Platform] in
theorem positiveInt_ok {n m : ℕ} {label : String} (h : positiveInt (.int n) label = .ok m) :
    m = n := by
  simp only [positiveInt, asInt] at h
  split_ifs at h
  cases h
  rfl

omit [Platform] in
theorem checkDid_ok {s s' : PyStr} (h : checkDid (.str s) = .ok s') : s' = s := by
  simp only [checkDid, Crypto.validateDidValue, asStr, Crypto.validateDid] at h
  split_ifs at h with hdid
  exact (Except.ok.inj h).symm

omit [Platform] in
theorem nonceAsInt_ok {n m : ℕ} (h : nonceAsInt (.int n) = .ok m) : m = n := by
  simp only [nonceAsInt, asInt] at h
  split at h
  · cases h
    rfl
  · split_ifs at h

omit [Platform] in
theorem checkSignature_ok {s s' : PyStr} (h : checkSignature (.str s) = .ok s') : s' = s := by
  simp only [checkSignature, asStr] at h
  split_ifs at h
  exact (Except.ok.inj h).symm

omit [Platform] in
theorem checkReply_ok {r : DeliveryRecord} {reply : Option ℕ}
    (h : checkReply r.status (replyPayload r.replySequence) = .ok reply) :
    reply = r.replySequence := by
  cases hs : r.status with
  | pending =>
      have hnone := r.pending_iff.mp hs
      rw [hs, hnone] at h
      rw [hnone]
      exact (Except.ok.inj h).symm
  | acknowledged =>
      cases hr : r.replySequence with
      | none => simp [r.pending_iff.mpr hr] at hs
      | some n =>
          rw [hs, hr] at h
          cases hn : positiveInt (.int n) "reply_sequence" with
          | error e => simp [checkReply, replyPayload, hn, Functor.map, Except.map] at h
          | ok m =>
              simp only [checkReply, replyPayload, hn, Functor.map, Except.map] at h
              rw [← Except.ok.inj h, positiveInt_ok hn]

/-- **A written record is read back unchanged.** -/
theorem fromPayload_toPayload {r r' : DeliveryRecord} (h : fromPayload r.toPayload = .ok r') :
    r' = r := by
  have hstatus : get r.payloadFields (py "status") = .str (statusToken r.status) := rfl
  have hroom : get r.payloadFields (py "room_sha256") = .str r.roomSha256 := rfl
  have htextSha : get r.payloadFields (py "text_sha256") = .str r.textSha256 := rfl
  have htext : get r.payloadFields (py "text") = .str r.text := rfl
  have hreply : get r.payloadFields (py "reply_sequence") = replyPayload r.replySequence := rfl
  have hinput : get r.payloadFields (py "input_sequence") = .int r.inputSequence := rfl
  have hdid : get r.payloadFields (py "did") = .str r.did := rfl
  have hnonce : get r.payloadFields (py "nonce") = .int r.nonce := rfl
  have hsignature : get r.payloadFields (py "signature") = .str r.signature := rfl
  -- every check of the reader returned, so each field is the one that was written
  simp only [fromPayload, toPayload, asObj, hstatus, hroom, htextSha, htext, hreply, hinput, hdid,
    hnonce, hsignature, bind, Except.bind] at h
  split_ifs at h
  split at h <;> [cases h; rename_i status h1]
  split at h <;> [cases h; rename_i room h2]
  split at h <;> [cases h; rename_i textSha h3]
  split at h <;> [cases h; rename_i text h4]
  split at h <;> [cases h; rename_i digest h5]
  split_ifs at h
  split at h <;> [cases h; rename_i reply h6]
  split at h <;> [cases h; rename_i input h7]
  split at h <;> [cases h; rename_i did h8]
  split at h <;> [cases h; rename_i nonce h9]
  split at h <;> [cases h; rename_i signature h10]
  obtain rfl := checkStatus_token h1
  obtain rfl := checkDigest_ok h2
  obtain rfl := checkDigest_ok h3
  obtain rfl := exactSweptText_ok h4
  obtain rfl := checkReply_ok h6
  obtain rfl := positiveInt_ok h7
  obtain rfl := checkDid_ok h8
  obtain rfl := nonceAsInt_ok h9
  obtain rfl := checkSignature_ok h10
  unfold assemble at h
  split_ifs at h
  exact (Except.ok.inj h).symm

/-- What a new record holds: the envelope it was created for, pending, for its room. -/
theorem create_ok {room : PyStr} {input : ℕ} {envelope : Envelope} {r : DeliveryRecord}
    (h : create room input envelope = .ok r) :
    r.envelope = envelope ∧ r.inputSequence = input ∧ r.status = .pending ∧
      sha256 room = .ok r.roomSha256 := by
  simp only [create, bind, Except.bind] at h
  split at h <;> [cases h; rename_i validRoom h1]
  split at h <;> [cases h; rename_i roomSha h2]
  split at h <;> [cases h; rename_i input' h3]
  split at h <;> [cases h; rename_i did h4]
  split at h <;> [cases h; rename_i nonce h5]
  split at h <;> [cases h; rename_i text h6]
  split at h <;> [cases h; rename_i textSha h7]
  split at h <;> [cases h; rename_i signature h8]
  split at h <;> [cases h; rename_i record h9]
  split at h <;> [cases h; skip]
  cases h
  have hroom : validRoom = room := by
    simp only [Crypto.validateRoom] at h1
    split_ifs at h1
    exact (Except.ok.inj h1).symm
  have hdid : did = envelope.did := by
    simp only [Crypto.validateDid] at h4
    split_ifs at h4
    exact (Except.ok.inj h4).symm
  subst hroom hdid
  obtain rfl := positiveInt_ok h3
  obtain rfl := nonceAsInt_ok h5
  obtain rfl := exactSweptText_ok h6
  obtain rfl := checkSignature_ok h8
  unfold assemble at h9
  split_ifs at h9
  cases h9
  exact ⟨rfl, rfl, rfl, h2⟩

end DeliveryRecord

/-! ## The journal on disk -/

namespace DeliveryJournal

open Agent DeliveryRecord

/-- `mode & 0o077` -/
def groupOrOther (mode : ℕ) : Bool := mode % 64 != 0

variable [Platform]

/-- `DeliveryJournal.load` -/
def load : Agent (Option DeliveryRecord) := do
  let present : Bool ← perform (.docExists .journal)
  if present then
    let payload : Json ← exceptReadError
      (fun e => deliveryError ("cannot read delivery journal: " ++ e.message)) do
        let mode : ℕ ← perform (.docMode .journal)
        if groupOrOther mode then
          throw (deliveryError
            "delivery journal permissions must not allow group or other access")
        else perform (.readDoc .journal)
    let record ← Proc.ofExcept (fromPayload payload)
    return some record
  else return none

/-- `DeliveryJournal.require_empty` -/
def requireEmpty : Agent Unit := do
  let record ← load
  if record.isSome then
    throw (deliveryError "a pending delivery requires recover-delivery before live sending")
  else pure ()

omit [Platform] in
/-- `DeliveryJournal._write` -/
def write (record : DeliveryRecord) : Agent Unit :=
  writeDoc .journal record.toPayload
    (fun e => deliveryError ("cannot write delivery journal: " ++ e.message)) do
      perform (.chmodDoc .journal)
      exceptOSError (fun e => deliveryError ("cannot sync delivery directory: " ++ e.message))
        (perform (.syncDir .journal))

omit [Platform] in
/-- `DeliveryJournal.prepare` -/
def prepare (record : DeliveryRecord) : Agent Unit := do
  let present : Bool ← perform (.docExists .journal)
  if present then
    throw (deliveryError "a pending delivery already exists; run recover-delivery first")
  else write record

/-- `DeliveryJournal.acknowledge` -/
def acknowledge (replySequence : ℕ) : Agent DeliveryRecord := do
  match ← load with
  | none => throw (deliveryError "cannot acknowledge a missing delivery journal")
  | some record =>
      let acknowledged ← Proc.ofExcept (record.acknowledge replySequence)
      write acknowledged
      return acknowledged

omit [Platform] in
/-- `DeliveryJournal.clear` -/
def clear : Agent Unit := do
  let removed : Bool ← tryCatch (do perform (.unlinkDoc .journal); pure true) fun e =>
    if e.isa .fileNotFoundError then pure false
    else if e.isa .osError then
      throw (deliveryError ("cannot clear delivery journal: " ++ e.message))
    else throw e
  if removed then
    exceptOSError (fun e => deliveryError ("cannot sync delivery directory: " ++ e.message))
      (perform (.syncDir .journal))
  else pure ()

end DeliveryJournal
