/-
# The configuration of a mailbox (`config.py`)

* `AgentConfig`       : the fields, with what `validate` checks of them;
* `fromPayload`       : `load` once the text is decoded, `validate` included;
* `toPayload`         : `asdict`, as it is written;
* `fromPayload_toPayload` : a configuration that was accepted is accepted again, unchanged.
-/
import SafeAgent.BaseUrls
import SafeAgent.Escapes
import SafeAgent.ControllerIdentity

open PyText

/-- The status of a mailbox. -/
inductive ConfigStatus
  | pending
  | active
  deriving DecidableEq, Repr

/-- `[A-Za-z0-9][A-Za-z0-9_-]{0,47}` -/
def isAgentName (s : PyStr) : Bool :=
  match s with
  | [] => false
  | c :: rest =>
      isAlnum c && rest.length ≤ 47 && rest.all fun c => isAlnum c || c == 95 || c == 45

/-- `ConfigError(message)` -/
def configError (message : String) : PyErr := .of .configError message

/-- `AgentConfig` as `validate` leaves it; `provision_nonce` is a string or a number. -/
structure AgentConfig where
  name : PyStr
  did : PyStr
  fingerprint : PyStr
  room : PyStr
  baseUrl : PyStr
  status : ConfigStatus
  createdAt : PyStr
  provisionNonce : Json
  provisionedSeq : Option ℕ
  name_ok : isAgentName name = true
  did_ok : Crypto.isDid did = true
  room_ok : Crypto.isRoom room = true
  created_ne : createdAt ≠ []
  nonce_ok : (Crypto.validateNonce provisionNonce).isOk = true
  seq_pos : ∀ n, provisionedSeq = some n → 0 < n
  active_seq : status = .active → provisionedSeq.isSome = true

namespace AgentConfig

open Json PyItems

/-- The schema of the configuration. -/
def configSchema : PyStr := py "technocore-safe-agent-config-v1"

/-- The fields without a default. -/
def requiredKeys : List PyStr :=
  [py "schema", py "name", py "did", py "fingerprint", py "room", py "base_url", py "status",
    py "created_at", py "provision_nonce"]

/-- Whether `cls(**payload)` takes the keyword arguments. -/
def takesFields (fields : JsonFields) : Bool :=
  requiredKeys.all (fun key => (keys fields).contains key) &&
    (keys fields).all fun key => (requiredKeys ++ [py "provisioned_seq"]).contains key

/-- `self.status not in {"pending", "active"}`; a list or a `dict` has no hash. -/
def checkStatus (value : Json) : PyResult ConfigStatus :=
  match value with
  | .arr _ => .error (.of .typeError "unhashable type: 'list'")
  | .obj _ => .error (.of .typeError "unhashable type: 'dict'")
  | _ =>
      if value.isStr (py "pending") then .ok .pending
      else if value.isStr (py "active") then .ok .active
      else .error (configError "agent config has an invalid status")

/-- The name. -/
def checkName (value : Json) : PyResult { name : PyStr // isAgentName name = true } :=
  match value.asStr with
  | some name =>
      if h : isAgentName name = true then .ok ⟨name, h⟩
      else .error (configError "agent config has an invalid name")
  | none => .error (configError "agent config has an invalid name")

/-- `validate_did` on whatever JSON holds. -/
def checkDid (value : Json) : PyResult { did : PyStr // Crypto.isDid did = true } :=
  match value.asStr with
  | some did =>
      if h : Crypto.isDid did = true then .ok ⟨did, h⟩
      else .error (.of .protocolValueError "DID must be a canonical Ed25519 did:key")
  | none => .error (.of .protocolValueError "DID must be a canonical Ed25519 did:key")

/-- `validate_room` on whatever JSON holds. -/
def checkRoom (value : Json) : PyResult { room : PyStr // Crypto.isRoom room = true } :=
  match value.asStr with
  | some room =>
      if h : Crypto.isRoom room = true then .ok ⟨room, h⟩
      else .error (.of .protocolValueError "room must match ^[a-z0-9][a-z0-9_-]{0,47}$")
  | none => .error (.of .protocolValueError "room must match ^[a-z0-9][a-z0-9_-]{0,47}$")

/-- `created_at` -/
def checkCreated (value : Json) : PyResult { createdAt : PyStr // createdAt ≠ [] } :=
  match value.asStr with
  | some createdAt =>
      if h : createdAt ≠ [] then .ok ⟨createdAt, h⟩
      else .error (configError "agent config is missing created_at")
  | none => .error (configError "agent config is missing created_at")

/-- `validate_nonce`, with its `ValueError` as a `ConfigError`. -/
def checkNonce (value : Json) :
    PyResult { nonce : Json // (Crypto.validateNonce nonce).isOk = true } :=
  if h : (Crypto.validateNonce value).isOk = true then .ok ⟨value, h⟩
  else .error (configError "agent config has an invalid provision nonce")

/-- The checks of `provisioned_seq`. -/
def checkSequence (value : Json) : PyResult { seq : Option ℕ // ∀ n, seq = some n → 0 < n } :=
  match value with
  | .null => .ok ⟨none, nofun⟩
  | .int (.ofNat (n + 1)) =>
      .ok ⟨some (n + 1), fun _ heq => Option.some.inj heq ▸ Nat.succ_pos n⟩
  | _ => .error (configError "agent config has an invalid provisioned sequence")

/-- The text of a status. -/
def statusToken : ConfigStatus → PyStr
  | .pending => py "pending"
  | .active => py "active"

/-- `provisioned_seq` as JSON. -/
def sequencePayload : Option ℕ → Json
  | none => .null
  | some n => .int n

/-- The items of `asdict`. -/
def payloadFields (c : AgentConfig) : JsonFields :=
  [(py "schema", .str configSchema), (py "name", .str c.name), (py "did", .str c.did),
    (py "fingerprint", .str c.fingerprint), (py "room", .str c.room),
    (py "base_url", .str c.baseUrl), (py "status", .str (statusToken c.status)),
    (py "created_at", .str c.createdAt), (py "provision_nonce", c.provisionNonce),
    (py "provisioned_seq", sequencePayload c.provisionedSeq)]

/-- `asdict(self)` -/
def toPayload (c : AgentConfig) : Json := .obj c.payloadFields

variable [Platform]

/-- `validate_base_url` on whatever JSON holds. -/
def checkBaseUrl (value : Json) : PyResult PyStr :=
  match value.asStr with
  | some baseUrl => do
      let _ ← TechnocoreClient.validateBaseUrl baseUrl
      return baseUrl
  | none =>
      .error (.of .protocolValueError "base URL must not contain surrounding whitespace")

/-- `validate` -/
def validate (fields : JsonFields) : PyResult AgentConfig :=
  if ¬(get fields (py "schema")).isStr configSchema then
    .error (configError "agent config has an unsupported schema")
  else do
    let name ← checkName (get fields (py "name"))
    let did ← checkDid (get fields (py "did"))
    let room ← checkRoom (get fields (py "room"))
    let baseUrl ← checkBaseUrl (get fields (py "base_url"))
    let status ← checkStatus (get fields (py "status"))
    let fingerprint ← Crypto.fingerprintOfDid did.1
    if ¬(get fields (py "fingerprint")).isStr fingerprint then
      .error (configError "agent config fingerprint does not match its DID")
    else
      let createdAt ← checkCreated (get fields (py "created_at"))
      let nonce ← checkNonce (get fields (py "provision_nonce"))
      let seq ← checkSequence (get fields (py "provisioned_seq"))
      if hactive : status = .active → seq.1.isSome = true then
        .ok { name := name.1, did := did.1, fingerprint, room := room.1, baseUrl, status,
              createdAt := createdAt.1, provisionNonce := nonce.1, provisionedSeq := seq.1,
              name_ok := name.2, did_ok := did.2, room_ok := room.2, created_ne := createdAt.2,
              nonce_ok := nonce.2, seq_pos := seq.2, active_seq := hactive }
      else .error (configError "active agent config is missing the provisioned sequence")

/-- `AgentConfig.load` once the text is decoded. -/
def fromPayload (payload : Json) : PyResult AgentConfig :=
  match payload.asObj with
  | none => .error (configError "agent config must contain a JSON object")
  | some fields =>
      if ¬takesFields fields then
        .error (configError "agent config fields do not match the supported schema")
      else validate fields

/-! ## Loading what was written -/

/-- What of a configuration its own fields do not carry: the fingerprint is that of the DID, and
the base URL is accepted. -/
structure Valid (c : AgentConfig) : Prop where
  fingerprint : Crypto.fingerprintOfDid c.did = .ok c.fingerprint
  baseUrl : (TechnocoreClient.validateBaseUrl c.baseUrl).isOk = true

/-- What `validate` accepts is valid. -/
theorem valid_of_validate {fields : JsonFields} {c : AgentConfig} (h : validate fields = .ok c) :
    c.Valid := by
  unfold validate at h
  split_ifs at h
  obtain ⟨name, -, h⟩ := PyResult.bind_eq_ok.mp h
  obtain ⟨did, -, h⟩ := PyResult.bind_eq_ok.mp h
  obtain ⟨room, -, h⟩ := PyResult.bind_eq_ok.mp h
  obtain ⟨baseUrl, hbase, h⟩ := PyResult.bind_eq_ok.mp h
  obtain ⟨status, -, h⟩ := PyResult.bind_eq_ok.mp h
  obtain ⟨fingerprint, hfingerprint, h⟩ := PyResult.bind_eq_ok.mp h
  split_ifs at h
  obtain ⟨createdAt, -, h⟩ := PyResult.bind_eq_ok.mp h
  obtain ⟨nonce, -, h⟩ := PyResult.bind_eq_ok.mp h
  obtain ⟨seq, -, h⟩ := PyResult.bind_eq_ok.mp h
  split_ifs at h
  cases h
  refine ⟨hfingerprint, ?_⟩
  unfold checkBaseUrl at hbase
  split at hbase
  · obtain ⟨accepted, haccepted, hsame⟩ := PyResult.bind_eq_ok.mp hbase
    cases hsame
    rw [haccepted]
    rfl
  · cases hbase

/-- What is accepted is valid. -/
theorem valid_of_fromPayload {payload : Json} {c : AgentConfig} (h : fromPayload payload = .ok c) :
    c.Valid := by
  unfold fromPayload at h
  split at h
  · cases h
  · split_ifs at h
    exact valid_of_validate h

omit [Platform] in
theorem checkSequence_payload {seq : Option ℕ} (h : ∀ n, seq = some n → 0 < n) :
    checkSequence (sequencePayload seq) = .ok ⟨seq, h⟩ := by
  cases seq with
  | none => rfl
  | some n =>
      obtain ⟨m, rfl⟩ := Nat.exists_eq_succ_of_ne_zero (h n rfl).ne'
      rfl

/-- **A valid configuration that was written is loaded unchanged.** -/
theorem fromPayload_toPayload {c : AgentConfig} (h : c.Valid) :
    fromPayload c.toPayload = .ok c := by
  have hname : checkName (.str c.name) = .ok ⟨c.name, c.name_ok⟩ := dif_pos c.name_ok
  have hdid : checkDid (.str c.did) = .ok ⟨c.did, c.did_ok⟩ := dif_pos c.did_ok
  have hroom : checkRoom (.str c.room) = .ok ⟨c.room, c.room_ok⟩ := dif_pos c.room_ok
  have hbase : checkBaseUrl (.str c.baseUrl) = .ok c.baseUrl := by
    obtain ⟨accepted, haccepted⟩ := PyResult.ok_of_isOk h.baseUrl
    exact PyResult.bind_eq_ok.mpr ⟨accepted, haccepted, rfl⟩
  have hstatus : checkStatus (.str (statusToken c.status)) = .ok c.status := by
    cases c.status <;> decide
  have hcreated : checkCreated (.str c.createdAt) = .ok ⟨c.createdAt, c.created_ne⟩ :=
    dif_pos c.created_ne
  have hnonce : checkNonce c.provisionNonce = .ok ⟨c.provisionNonce, c.nonce_ok⟩ :=
    dif_pos c.nonce_ok
  have hseq := checkSequence_payload c.seq_pos
  have hschema : (get c.payloadFields (py "schema")).isStr configSchema = true := isStr_iff.mpr rfl
  have hfingerprint : (get c.payloadFields (py "fingerprint")).isStr c.fingerprint = true :=
    isStr_iff.mpr rfl
  have hkeys : takesFields c.payloadFields = true := rfl
  unfold fromPayload toPayload
  show (if ¬takesFields c.payloadFields then _ else validate c.payloadFields) = _
  rw [if_neg (not_not_intro hkeys)]
  unfold validate
  rw [if_neg (not_not_intro hschema)]
  refine PyResult.bind_eq_ok.mpr ⟨_, hname, ?_⟩
  refine PyResult.bind_eq_ok.mpr ⟨_, hdid, ?_⟩
  refine PyResult.bind_eq_ok.mpr ⟨_, hroom, ?_⟩
  refine PyResult.bind_eq_ok.mpr ⟨_, hbase, ?_⟩
  refine PyResult.bind_eq_ok.mpr ⟨_, hstatus, ?_⟩
  refine PyResult.bind_eq_ok.mpr ⟨_, h.fingerprint, ?_⟩
  rw [if_neg (not_not_intro hfingerprint)]
  refine PyResult.bind_eq_ok.mpr ⟨_, hcreated, ?_⟩
  refine PyResult.bind_eq_ok.mpr ⟨_, hnonce, ?_⟩
  refine PyResult.bind_eq_ok.mpr ⟨_, hseq, ?_⟩
  exact dif_pos c.active_seq

end AgentConfig
