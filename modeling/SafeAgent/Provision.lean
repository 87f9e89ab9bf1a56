/-
# Provisioning (`provision.py`, the writes of `config.py`)

A mailbox is created once: a pending configuration is written, a signed message is posted, and
the configuration becomes active.  What is left of an attempt that was cut is finished later.

* `ProvisionOp`           : the calls, those of the state file and of reading a room included;
* `saveNew`, `saveReplacement` : the two writes of the configuration;
* `activate`              : `_activate`, the second configuration and then the state;
* `provisionMailbox`      : `provision_mailbox`;
* `recoverPendingMailbox` : `recover_pending_mailbox`, which ends in `finishRecovery`.
-/
import SafeAgent.AgentConfig
import SafeAgent.Embedding
import SafeAgent.Responder

open PyText

/-- A call of the provisioning commands. -/
inductive ProvisionOp
  /-- A call on the state file, a read of the room, or `time.time_ns()`. -/
  | agent (o : Op)
  /-- `secrets.token_hex(12)` -/
  | tokenHex
  /-- `datetime.now(UTC).isoformat()` -/
  | isoNow
  /-- `resolved.exists()` of the configuration. -/
  | configExists
  /-- `json.loads(resolved.read_text(encoding="utf-8"))` -/
  | readConfig
  /-- `path.parent.mkdir(parents=True, exist_ok=True)` -/
  | configMkdir
  /-- `tempfile.mkstemp(...)` beside the configuration. -/
  | configTemporary
  /-- `os.fchmod`, the write, `flush` and `os.fsync` of the temporary file. -/
  | configWrite (doc : Json)
  /-- `os.replace(temporary_name, path)`, with the document just written. -/
  | configReplace (doc : Json)
  /-- `os.chmod(path, 0o600)` -/
  | configChmod
  /-- `os.unlink(temporary_name)` -/
  | configUnlink
  /-- The HTTP exchange of `send_signed_message`. -/
  | say (url : PyStr)

/-- What a call returns. -/
@[reducible] def ProvisionOp.Val : ProvisionOp → Type
  | .agent o => o.Val
  | .tokenHex => PyStr
  | .isoNow => PyStr
  | .configExists => Bool
  | .readConfig => Json
  | .configMkdir => Unit
  | .configTemporary => Unit
  | .configWrite _ => Unit
  | .configReplace _ => Unit
  | .configChmod => Unit
  | .configUnlink => Unit
  | .say _ => HttpResponse

/-- A process that provisions; its memory is the `AgentState` object. -/
abbrev ProvisionProc (α : Type) := Proc ProvisionOp ProvisionOp.Val PyErr AgentState α

/-- What the commands return, without the constant entries and the paths. -/
inductive ProvisionEvent
  /-- `mailbox_provisioned` -/
  | provisioned (name did room : PyStr) (sequence : ℕ)
  /-- `mailbox_recovered_from_acknowledged_write` -/
  | recoveredAcknowledged (room : PyStr) (sequence : ℕ)
  /-- `mailbox_history_incomplete` -/
  | historyIncomplete (room : PyStr)
  /-- `mailbox_write_not_found` -/
  | writeNotFound (room : PyStr)
  /-- `mailbox_recovered_after_manual_retry` -/
  | recoveredRetry (room : PyStr) (sequence : ℕ)
  deriving DecidableEq

namespace Provision

open Json

/-- Perform a call. -/
abbrev perform (o : ProvisionOp) : ProvisionProc o.Val := Proc.call o

/-- A part that the responder has too. -/
def shared {α : Type} (m : Agent α) : ProvisionProc α := Proc.embed ProvisionOp.agent (fun _ r => r) m

def configExists : ProvisionProc Bool := perform .configExists

def readConfig : ProvisionProc Json := perform .readConfig

/-! ## Writing the configuration -/

/-- `except OSError as error` of `_atomic_json_write`. -/
def orConfigError {α : Type} (body : ProvisionProc α) : ProvisionProc α :=
  tryCatch body fun e =>
    if e.isa .osError then throw (configError ("cannot write agent config: " ++ e.message)) else throw e

/-- The `finally` clause that removes a temporary file which is still there. -/
def removingTemporary (body : ProvisionProc Unit) : ProvisionProc Unit :=
  tryCatch body fun e => do
    tryCatch (perform .configUnlink) fun e' =>
      if e'.isa .fileNotFoundError then pure () else throw e'
    throw e

/-- `not replace and path.exists()` -/
def inTheWay (replace : Bool) : ProvisionProc Bool := if replace then pure false else configExists

/-- `_atomic_json_write` -/
def atomicJsonWrite (doc : Json) (replace : Bool) : ProvisionProc Unit := do
  perform .configMkdir
  orConfigError (perform .configTemporary)
  removingTemporary (orConfigError (
    if Json.intsFit doc then do
      perform (.configWrite doc)
      let present ← inTheWay replace
      if present then throw (configError "refusing to overwrite existing agent config")
      else perform (.configReplace doc)
    else throw Json.intTooLong))
  orConfigError (perform .configChmod)

/-- `save_replacement` -/
def saveReplacement (config : AgentConfig) : ProvisionProc Unit := do
  let present ← configExists
  if present then atomicJsonWrite config.toPayload true
  else throw (configError "cannot activate missing agent config")

/-! ## Activation -/

/-- `replace(pending, status="active", provisioned_seq=sequence)` -/
def activeConfig (pending : AgentConfig) (sequence : ℕ) (hpos : 0 < sequence) : AgentConfig :=
  { pending with
    status := .active
    provisionedSeq := some sequence
    seq_pos := fun _ h => Option.some.inj h ▸ hpos
    active_seq := fun _ => rfl }

/-- `int(nonce)` of a nonce that was validated. -/
def nonceNumber : Json → ℕ
  | .str s => ofDecimal s
  | .int n => n.toNat
  | .null => 0
  | .bool _ => 0
  | .float _ => 0
  | .arr _ => 0
  | .obj _ => 0

/-- `except StateError as error` around `state.save`. -/
def orUncertain (body : ProvisionProc Unit) : ProvisionProc Unit :=
  tryCatch body fun e =>
    if e.isa .stateError then
      throw (uncertainWrite "mailbox is active but its cursor state could not be persisted")
    else throw e

/-- `_activate` -/
def activate (pending : AgentConfig) (sequence : ℕ) (hpos : 0 < sequence) : ProvisionProc Unit := do
  saveReplacement (activeConfig pending sequence hpos)
  let loaded ← shared Agent.loadState
  set loaded
  let state ← Proc.ofExcept (loaded.advanceCursor pending.room sequence)
  set { state with nonces := state.nonces.set pending.room (nonceNumber pending.provisionNonce) }
  orUncertain (shared Agent.saveState)

/-! ## The message -/

/-- `_online_text` -/
def onlineText (name did : PyStr) : PyStr :=
  py "safe-responder-online-v1 agent:" ++ name ++ py " did:" ++ did ++
    py " commands:/ping,/status,/about,/help policy:signed-commands-only no-tools"

section Platform

variable [Platform]

/-- The URL of `send_signed_message`, and the nonce as it is sent. -/
def sayUrl (client : TechnocoreClient) (room did signature : PyStr) (nonce : Json) (text : PyStr) :
    PyResult (PyStr × PyStr) := do
  let validRoom ← Crypto.validateRoom room
  let validDid ← Crypto.validateDid did
  let validNonce ← Crypto.validateNonce nonce
  if ¬Crypto.isCanonicalSignature signature then
    .error (Protocol.protocolValueError "signature must use canonical unpadded base64url encoding")
  else do
    let quotedRoom ← TechnocoreClient.quote validRoom
    let quotedDid ← TechnocoreClient.quote validDid
    let quotedSignature ← TechnocoreClient.quote signature
    let quotedNonce ← TechnocoreClient.quote validNonce
    let quotedText ← TechnocoreClient.quote text
    let url := client.baseUrl ++ py "/r/" ++ quotedRoom ++ py "/say-signed/" ++ quotedDid ++
      47 :: quotedSignature ++ 47 :: quotedNonce ++ 47 :: quotedText ++ py "?format=json"
    match encodeUtf8 url with
    | none => .error (.of .unicodeEncodeError "surrogates not allowed")
    | some octets =>
        if 8000 < octets.length then
          .error (Protocol.protocolValueError "signed GET URL exceeds the agent's 8000-byte safety limit")
        else .ok (url, validNonce)

/-- What `send_signed_message` checks in the answer. -/
def checkPosted (room did nonce text : PyStr) (payload : JsonFields) : PyResult RoomMessage := do
  let snapshot ← Protocol.parseSnapshot payload room
  let posted ← Protocol.parseMessage (get payload (py "posted"))
  if posted.sender ≠ did ∨ posted.text ≠ text ∨ posted.nonce ≠ some nonce ∨
      posted.seq ∉ snapshot.messages.map RoomMessage.seq then
    .error (Protocol.responseError "Technocore posted record does not match the signed request")
  else .ok posted

/-- `send_signed_message` -/
def sendSigned (client : TechnocoreClient) (room did signature : PyStr) (nonce : Json) (text : PyStr) :
    ProvisionProc RoomMessage := do
  let request ← Proc.ofExcept (sayUrl client room did signature nonce text)
  let outcome : HttpOutcome ←
    tryCatch (do let response : HttpResponse ← perform (.say request.1); pure (.ok response))
      fun e => pure (.error e)
  let payload ← Proc.ofExcept (Protocol.requestJson outcome)
  Proc.ofExcept (checkPosted room did request.2 text payload)

/-- `except (TransportError, ResponseError)` around `send_signed_message`. -/
def orUncertainWrite (message : String) (body : ProvisionProc RoomMessage) : ProvisionProc RoomMessage :=
  tryCatch body fun e =>
    if e.isa .transportError || e.isa .responseError then throw (uncertainWrite (message ++ e.message))
    else throw e

/-- Sign the message of a mailbox and post it. -/
def postOnline (message : String) (client : TechnocoreClient) (privateKey : Platform.PrivateKey)
    (pending : AgentConfig) : ProvisionProc RoomMessage := do
  let signed ← Proc.ofExcept (Crypto.signRoomMessage privateKey pending.room pending.provisionNonce
    (onlineText pending.name pending.did))
  orUncertainWrite message
    (sendSigned client pending.room pending.did signed.2 pending.provisionNonce signed.1)

/-! ## The two commands -/

/-- The record that the pending configuration asks for. -/
def isOnlineRecord (pending : AgentConfig) (message : RoomMessage) : Bool :=
  message.sender == pending.did && message.nonce.any (fun nonce => pending.provisionNonce.isStr nonce) &&
    message.text == onlineText pending.name pending.did

/-- `complete_history` -/
def completeHistory (snapshot : RoomSnapshot) : Bool :=
  snapshot.lastSeq == 0 ||
    match snapshot.messages.getLast? with
    | none => false
    | some last => snapshot.firstSeq == 1 && last.seq == snapshot.lastSeq

/-- `recover_pending_mailbox`, once the room was read. -/
def finishRecovery (client : TechnocoreClient) (privateKey : Platform.PrivateKey) (retry : Bool)
    (pending : AgentConfig) (snapshot : RoomSnapshot) : ProvisionProc ProvisionEvent := do
  match snapshot.messages.find? (isOnlineRecord pending) with
  | some message => do
      activate pending message.seq message.seq_pos
      return .recoveredAcknowledged pending.room message.seq
  | none =>
      if ¬completeHistory snapshot then return .historyIncomplete pending.room
      else if ¬retry then return .writeNotFound pending.room
      else do
        let posted ← postOnline "manual mailbox retry has an uncertain result; cause: " client
          privateKey pending
        activate pending posted.seq posted.seq_pos
        return .recoveredRetry pending.room posted.seq

/-- `except (OSError, json.JSONDecodeError)` of `AgentConfig.load`. -/
def loadConfig : ProvisionProc AgentConfig := do
  let payload ← tryCatch readConfig fun e =>
    if e.isa .osError || e.isa .jsonDecodeError then
      throw (configError ("cannot read agent config: " ++ e.message))
    else throw e
  Proc.ofExcept (AgentConfig.fromPayload payload)

/-- `recover_pending_mailbox` -/
def recoverPendingMailbox (record : IdentityRecord) (privateKey : Platform.PrivateKey)
    (client : TechnocoreClient) (retry : Bool) : ProvisionProc ProvisionEvent := do
  let pending ← loadConfig
  if pending.did ≠ record.did ∨ pending.fingerprint ≠ record.fingerprint then
    throw (configError "pending config does not belong to the selected identity")
  else if pending.status ≠ .pending then throw (configError "agent config is not pending")
  else do
    let snapshot ← shared (Agent.readRoom client pending.room 0 (some 0) 200 0)
    finishRecovery client privateKey retry pending snapshot

end Platform

end Provision
