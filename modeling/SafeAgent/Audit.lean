/-
# The audit log (`audit.py`)

A bounded file of signed records, one JSON object a line, each naming the hash of the
one before.

* `validatePayload`, `verifyLine`, `verifyBytes` : what a verifier accepts;
* `appendRecord`    : the line that `append` writes after an accepted file;
* `append`, `verify`: the same against the file on disk, write by write.
-/
import SafeAgent.JsonRoundTrip
import SafeAgent.Operations

open PyText

/-- `AuditError(message)` -/
def auditError (message : String) : PyErr := .of .auditError message

/-- `AuditSummary` -/
structure AuditSummary where
  entries : ℕ
  issuer : Option PyStr
  headSha256 : PyStr
  deriving DecidableEq

/-- The `observed_at` argument of `append`: without a timezone, without a UTC
counterpart in the years of `datetime`, or a moment in UTC. -/
inductive ObservedAt
  | naive
  | outOfRange
  | utc (t : UtcTime)

/-- The arguments of `append` that go into the payload.  Python does not check their
types before the payload is validated, so each may be any JSON value. -/
structure AuditArgs where
  observedAt : ObservedAt
  inputSequence : Json
  senderFingerprint : Json
  senderAuthenticated : Json
  policyDecision : Json
  policyReason : Json
  outcome : Json
  receiptSha256 : Json
  responseSequence : Json

namespace Audit

open Json PyItems

/-- `AUDIT_SCHEMA` -/
def auditSchema : PyStr := py "technocore-safe-agent-audit-v1"

/-- `GENESIS_HASH` -/
def genesisHash : PyStr := List.replicate 64 48

/-- `MAX_AUDIT_BYTES` -/
def maxAuditBytes : ℕ := 16 * 1024 * 1024

/-- `MAX_AUDIT_LINE_BYTES` -/
def maxAuditLineBytes : ℕ := 16 * 1024

/-- `SHA256_PATTERN` -/
def isSha256 (s : PyStr) : Bool := s.length == 64 && s.all isHexLower

/-- `FINGERPRINT_PATTERN` -/
def isFingerprint (s : PyStr) : Bool := s.length == 16 && s.all isHexLower

/-- `[a-z0-9_]` -/
def isTokenChar (c : ℕ) : Bool := isLower c || isDigit c || c == 95

/-- `TOKEN_PATTERN` -/
def isToken (s : PyStr) : Bool :=
  match s with
  | [] => false
  | c :: rest => isLower c && rest.length ≤ 63 && rest.all isTokenChar

/-- `PAYLOAD_KEYS` -/
def payloadKeys : List PyStr :=
  [py "schema", py "audit_sequence", py "issuer", py "observed_at", py "input_sequence",
    py "sender_fingerprint", py "sender_authenticated", py "policy_decision", py "policy_reason",
    py "outcome", py "receipt_sha256", py "response_sequence", py "previous_entry_sha256"]

/-- `WRAPPER_KEYS` -/
def wrapperKeys : List PyStr := [py "payload", py "payload_sha256", py "signature"]

/-! ## Timestamps -/

/-- Two characters that `\d` matches, and their value. -/
def twoDigits [Platform] (a b : ℕ) : Option ℕ :=
  match Platform.decimalValue a, Platform.decimalValue b with
  | some x, some y => some (10 * x + y)
  | _, _ => none

/-- `TIMESTAMP_PATTERN` and `datetime.strptime(value, "%Y-%m-%dT%H:%M:%SZ")`.  The
pattern accepts any decimal digit; `strptime` insists on ASCII where it looks at the
digit itself. -/
def isTimestamp [Platform] (s : PyStr) : Bool :=
  match s with
  | [y1, y2, y3, y4, 45, m1, m2, 45, d1, d2, 84, h1, h2, 58, n1, n2, 58, s1, s2, 90] =>
      match twoDigits y1 y2, twoDigits y3 y4, twoDigits m1 m2, twoDigits d1 d2, twoDigits h1 h2,
        twoDigits n1 n2, twoDigits s1 s2 with
      | some century, some year2, some month, some day, some hour, some minute, some second =>
          let year := 100 * century + year2
          decide (1 ≤ year) &&
            (isDigit m1 && isDigit m2 && decide (1 ≤ month ∧ month ≤ 12)) &&
            (isDigit d1 && (d1 == 49 || d1 == 50 || isDigit d2) &&
              decide (1 ≤ day ∧ day ≤ daysInMonth year month)) &&
            (isDigit h1 && (h1 == 48 || h1 == 49 || isDigit h2) && decide (hour < 24)) &&
            (isDigit n1 && decide (minute < 60)) && (isDigit s1 && decide (second < 60))
      | _, _, _, _, _, _, _ => false
  | _ => false

/-- A number in two digits. -/
def pad2 (n : ℕ) : PyStr := [48 + n / 10 % 10, 48 + n % 10]

/-- `strftime("%Y")` -/
def formatYear [Platform] (year : ℕ) : PyStr :=
  if 1000 ≤ year ∨ Platform.strftimePadsYear then
    [48 + year / 1000 % 10, 48 + year / 100 % 10, 48 + year / 10 % 10, 48 + year % 10]
  else decimal year

/-- `_format_timestamp` -/
def formatTimestamp [Platform] (value : ObservedAt) : PyResult PyStr :=
  match value with
  | .naive => .error (auditError "audit clock must return a timezone-aware datetime")
  | .outOfRange => .error (.of .overflowError "date value out of range")
  | .utc t =>
      .ok (formatYear t.year ++ 45 :: pad2 t.month ++ 45 :: pad2 t.day ++ 84 :: pad2 t.hour ++
        58 :: pad2 t.minute ++ 58 :: pad2 t.second ++ [90])

/-! ## Validating a payload -/

/-- `_positive_int` -/
def positiveInt (value : Json) (label : String) : PyResult ℤ :=
  match value.asInt with
  | some n =>
      if 0 < n then .ok n else .error (auditError (label ++ " must be a positive integer"))
  | none => .error (auditError (label ++ " must be a positive integer"))

/-- `_sha256` -/
def checkSha256 (value : Json) (label : String) : PyResult PyStr :=
  match value.asStr with
  | some s => if isSha256 s then .ok s else .error (auditError (label ++ " is invalid"))
  | none => .error (auditError (label ++ " is invalid"))

/-- `_did` -/
def checkDid (value : Json) : PyResult PyStr :=
  match Crypto.validateDidValue value with
  | .ok did => .ok did
  | .error _ => .error (auditError "audit issuer DID is invalid")

/-- `_timestamp` -/
def checkTimestamp [Platform] (value : Json) : PyResult PyStr :=
  match value.asStr with
  | some s => if isTimestamp s then .ok s else .error (auditError "audit timestamp is invalid")
  | none => .error (auditError "audit timestamp is invalid")

/-- `_validate_sender` -/
def validateSender (payload : JsonFields) : PyResult Unit :=
  match get payload (py "sender_authenticated") with
  | .bool authenticated =>
      let fingerprint := get payload (py "sender_fingerprint")
      if authenticated then
        if fingerprint.asStr.any isFingerprint then .ok ()
        else .error (auditError "authenticated sender fingerprint is invalid")
      else
        match fingerprint with
        | .null => .ok ()
        | _ => .error (auditError "unauthenticated sender must not have a DID fingerprint")
  | _ => .error (auditError "sender_authenticated must be boolean")

/-- `POLICY_DECISIONS` -/
def policyDecisions : List PyStr := [py "ignore", py "reply", py "receipt"]

/-- `OUTCOMES` -/
def outcomes : List PyStr := [py "ignore", py "sent", py "receipt_failed", py "sent_receipt"]

/-- `value is None` -/
def isNone : Json → Bool
  | .null => true
  | _ => false

/-- `_validate_outcome` -/
def validOutcome (decision outcome receiptHash responseSequence : Json) : Bool :=
  (decision.isStr (py "ignore") && outcome.isStr (py "ignore") && isNone receiptHash &&
      isNone responseSequence) ||
    (decision.isStr (py "reply") && outcome.isStr (py "sent") && isNone receiptHash &&
      !isNone responseSequence) ||
    (decision.isStr (py "receipt") && outcome.isStr (py "receipt_failed") && isNone receiptHash &&
      isNone responseSequence) ||
    (decision.isStr (py "receipt") && outcome.isStr (py "sent_receipt") && !isNone receiptHash &&
      !isNone responseSequence)

/-- The check of an optional value. -/
def unlessNone {α : Type} (value : Json) (check : PyResult α) : PyResult Unit :=
  if isNone value then .ok ()
  else
    match check with
    | .ok _ => .ok ()
    | .error e => .error e

/-- `_validate_decision` -/
def validateDecision (payload : JsonFields) : PyResult Unit := do
  let decision := get payload (py "policy_decision")
  let reason := get payload (py "policy_reason")
  let outcome := get payload (py "outcome")
  let known ← inNames decision policyDecisions
  if ¬known then .error (auditError "audit policy decision is invalid")
  else if ¬reason.asStr.any isToken then .error (auditError "audit policy reason is invalid")
  else do
    let knownOutcome ← inNames outcome outcomes
    if ¬knownOutcome then .error (auditError "audit outcome is invalid")
    else do
      let receiptHash := get payload (py "receipt_sha256")
      let responseSequence := get payload (py "response_sequence")
      unlessNone receiptHash (checkSha256 receiptHash "receipt hash")
      unlessNone responseSequence (positiveInt responseSequence "response sequence")
      if validOutcome decision outcome receiptHash responseSequence then .ok ()
      else .error (auditError "audit decision and outcome fields are inconsistent")

/-- `_validate_payload` -/
def validatePayload [Platform] (payload : JsonFields) : PyResult Unit :=
  if ¬hasKeys payload payloadKeys ∨ ¬(get payload (py "schema")).isStr auditSchema then
    .error (auditError "audit payload has unexpected fields or schema")
  else do
    let _ ← positiveInt (get payload (py "audit_sequence")) "audit sequence"
    let _ ← positiveInt (get payload (py "input_sequence")) "input sequence"
    let _ ← checkDid (get payload (py "issuer"))
    let _ ← checkTimestamp (get payload (py "observed_at"))
    let _ ← checkSha256 (get payload (py "previous_entry_sha256")) "previous-entry hash"
    validateSender payload
    validateDecision payload

/-! ## Verifying a log -/

/-- `_canonical_json` -/
def canonicalJson (v : Json) : PyResult Bytes := do
  let text ← dumps v
  match encodeUtf8 text with
  | some octets => .ok octets
  | none => .error (.of .unicodeEncodeError "surrogates not allowed")

/-- `_entry_hash` -/
def entryHash (wrapper : Json) : PyResult PyStr := do
  let octets ← canonicalJson wrapper
  return Sha256.sha256Hex octets

variable [Platform]

/-- `json.loads` with the hook of `_decode_json`. -/
def reader : JsonReader where
  depthLimit := Platform.recursionLimit
  floatRepr := Platform.floatRepr
  objectHook := rejectDuplicateKeys (auditError "audit record contains a duplicate JSON key")

/-- `_decode_json` -/
def decodeJson (raw : Bytes) : PyResult Json :=
  match loads reader raw with
  | .ok value => .ok value
  | .error e =>
      if e.isa .valueError then .error (auditError "audit record is not valid JSON") else .error e

/-- `_verify_wrapper_signature` -/
def verifyWrapperSignature (wrapper payload : JsonFields) : PyResult Unit := do
  let canonicalPayload ← canonicalJson (.obj payload)
  if ¬(get wrapper (py "payload_sha256")).isStr (Sha256.sha256Hex canonicalPayload) then
    .error (auditError "audit payload hash does not match")
  else
    match (get wrapper (py "signature")).asStr with
    | none => .error (auditError "audit signature is not canonical base64url")
    | some signature =>
        if ¬Crypto.isCanonicalSignature signature then
          .error (auditError "audit signature is not canonical base64url")
        else
          match (get payload (py "issuer")).asStr with
          | none => .error (auditError "audit signature does not match its issuer")
          | some issuer =>
              if Crypto.verifyDetachedSignature issuer canonicalPayload signature then .ok ()
              else .error (auditError "audit signature does not match its issuer")

/-- The checks of `_verify_line` on a decoded record: the issuer and the entry hash. -/
def verifyRecord (record : Json) (expectedSequence : ℕ) (expectedPreviousHash : PyStr)
    (expectedIssuer : Option PyStr) : PyResult (PyStr × PyStr) :=
  match record.asObj with
  | none => .error (auditError "audit record wrapper has unexpected fields")
  | some wrapper =>
      if ¬hasKeys wrapper wrapperKeys then
        .error (auditError "audit record wrapper has unexpected fields")
      else
        match (get wrapper (py "payload")).asObj with
        | none => .error (auditError "audit record payload must be an object")
        | some payload => do
            validatePayload payload
            if (get payload (py "audit_sequence")).asInt ≠ some (expectedSequence : ℤ) then
              .error (auditError "audit sequence is not contiguous")
            else if ¬(get payload (py "previous_entry_sha256")).isStr expectedPreviousHash then
              .error (auditError "audit previous-entry hash does not match")
            else do
              let issuer ← checkDid (get payload (py "issuer"))
              if expectedIssuer.any (· != issuer) then
                .error (auditError "audit issuer changes inside one log")
              else do
                verifyWrapperSignature wrapper payload
                let hash ← entryHash record
                return (issuer, hash)

/-- `_verify_line` -/
def verifyLine (line : Bytes) (expectedSequence : ℕ) (expectedPreviousHash : PyStr)
    (expectedIssuer : Option PyStr) : PyResult (PyStr × PyStr) :=
  if line = [] ∨ maxAuditLineBytes < line.length then
    .error (auditError "audit log contains an empty or oversized record")
  else do
    let record ← decodeJson line
    verifyRecord record expectedSequence expectedPreviousHash expectedIssuer

omit [Platform] in
/-- `bytes.splitlines()`, with the current line in reverse. -/
def splitlines : Bytes → Bytes → List Bytes
  | line, [] => if line = [] then [] else [line.reverse]
  | line, 13 :: 10 :: rest => line.reverse :: splitlines [] rest
  | line, b :: rest =>
      if b = 10 ∨ b = 13 then line.reverse :: splitlines [] rest else splitlines (b :: line) rest

/-- The loop of `_verify_bytes` over the lines that are left. -/
def verifyLines : List Bytes → AuditSummary → PyResult AuditSummary
  | [], summary => .ok summary
  | line :: rest, summary => do
      let (issuer, hash) ←
        verifyLine line (summary.entries + 1) summary.headSha256 summary.issuer
      verifyLines rest
        { entries := summary.entries + 1, issuer := some issuer, headSha256 := hash }

omit [Platform] in
/-- The summary of an empty log. -/
def emptySummary : AuditSummary := { entries := 0, issuer := none, headSha256 := genesisHash }

/-- `_verify_bytes` -/
def verifyBytes (raw : Bytes) : PyResult AuditSummary :=
  if raw = [] then .ok emptySummary
  else if raw.getLast? ≠ some 10 then
    .error (auditError "audit log ends with a partial JSONL record")
  else verifyLines (splitlines [] raw) emptySummary

/-! ## Appending -/

/-- The payload of the next record. -/
def nextPayload (summary : AuditSummary) (issuer observedAt : PyStr) (args : AuditArgs) :
    JsonFields :=
  [(py "schema", .str auditSchema), (py "audit_sequence", .int (summary.entries + 1 : ℕ)),
    (py "issuer", .str issuer), (py "observed_at", .str observedAt),
    (py "input_sequence", args.inputSequence),
    (py "sender_fingerprint", args.senderFingerprint),
    (py "sender_authenticated", args.senderAuthenticated),
    (py "policy_decision", args.policyDecision), (py "policy_reason", args.policyReason),
    (py "outcome", args.outcome), (py "receipt_sha256", args.receiptSha256),
    (py "response_sequence", args.responseSequence),
    (py "previous_entry_sha256", .str summary.headSha256)]

/-- The signed record around a payload. -/
def wrapperOf (payload : JsonFields) (payloadSha256 signature : PyStr) : JsonFields :=
  [(py "payload", .obj payload), (py "payload_sha256", .str payloadSha256),
    (py "signature", .str signature)]

/-- The body of `append` between the read and the write: the octets to write and the
entry hash to return. -/
def appendRecord (privateKey : Platform.PrivateKey) (issuer : PyStr) (args : AuditArgs)
    (raw : Bytes) : PyResult (Bytes × PyStr) := do
  let summary ← verifyBytes raw
  if summary.issuer.any (· != issuer) then
    .error (auditError "audit log already belongs to a different issuer")
  else do
    let observedAt ← formatTimestamp args.observedAt
    let payload := nextPayload summary issuer observedAt args
    validatePayload payload
    let canonicalPayload ← canonicalJson (.obj payload)
    let signature ← Crypto.signDetached privateKey canonicalPayload
    let wrapper := wrapperOf payload (Sha256.sha256Hex canonicalPayload) signature
    let line ← canonicalJson (.obj wrapper)
    let rendered := line ++ [10]
    if maxAuditLineBytes < rendered.length then
      .error (auditError "audit entry exceeds the 16 KiB line limit")
    else if maxAuditBytes < raw.length + rendered.length then
      .error (auditError "audit log exceeds the 16 MiB safety limit")
    else do
      let hash ← entryHash (.obj wrapper)
      return (rendered, hash)

/-- The checks of `append` before it touches the disk. -/
def appendIssuer (privateKey : Platform.PrivateKey) (issuerDid : PyStr) : PyResult PyStr := do
  let validIssuer ← checkDid (.str issuerDid)
  let keyDid ← Crypto.didFromPrivateKey privateKey
  if keyDid ≠ validIssuer then
    .error (auditError "audit signing key does not match its issuer DID")
  else .ok validIssuer

/-! ## The file -/

open Agent

omit [Platform] in
/-- The checks of `_locked_descriptor` on what `fstat` shows. -/
def checkAccess (info : FileMeta) : PyResult Unit :=
  if ¬info.regular then .error (auditError "audit path must be a regular file")
  else if info.mode % 64 ≠ 0 then
    .error (auditError "audit log permissions must not allow group or other access")
  else .ok ()

omit [Platform] in
/-- `_locked_descriptor`: the file is opened, checked and locked around `body`. -/
def lockedDescriptor {α : Type} (write : Bool) (body : Agent α) : Agent α := do
  let access : PyErr → PyErr := fun e => auditError ("cannot access audit log: " ++ e.message)
  let info : FileMeta ← exceptOSError access (perform (.auditOpen write))
  let result : Except PyErr α ←
    tryCatch (do
      let a ← exceptOSError access do
        Proc.ofExcept (checkAccess info)
        perform (.auditLock write)
        body
      pure (.ok a)) fun e => pure (.error e)
  perform .auditClose
  Proc.ofExcept result

omit [Platform] in
/-- `_read_bounded` -/
def readBounded : Agent Bytes := do
  let raw : Bytes ←
    exceptOSError (fun e => auditError ("cannot read audit log: " ++ e.message))
      (perform .auditRead)
  if maxAuditBytes < raw.length then
    throw (auditError "audit log exceeds the 16 MiB safety limit")
  else return raw

omit [Platform] in
/-- `_write_all`; the fuel is the number of octets left, and every write takes one. -/
def writeAll : ℕ → Bytes → Agent Unit
  | 0, _ => pure ()
  | fuel + 1, remaining =>
      if remaining = [] then pure ()
      else do
        let written : ℕ ←
          exceptOSError (fun e => auditError ("cannot append audit record: " ++ e.message))
            (perform (.auditWrite remaining))
        if written = 0 then throw (auditError "audit append made no progress")
        else writeAll fuel (remaining.drop written)

/-- `SignedAuditLog.append` -/
def append (privateKey : Platform.PrivateKey) (issuerDid : PyStr) (args : AuditArgs) :
    Agent PyStr := do
  let issuer ← Proc.ofExcept (appendIssuer privateKey issuerDid)
  exceptOSError (fun e => auditError ("cannot create audit directory: " ++ e.message))
    (perform .auditMkdir)
  let hash ← lockedDescriptor true do
    let raw ← readBounded
    let (rendered, hash) ← Proc.ofExcept (appendRecord privateKey issuer args raw)
    writeAll rendered.length rendered
    perform .auditSync
    pure hash
  exceptOSError (fun e => auditError ("cannot sync audit directory: " ++ e.message))
    (perform .auditSyncDir)
  return hash

/-- `SignedAuditLog.verify` without an expected head. -/
def verify : Agent AuditSummary := do
  let present : Bool ← perform .auditExists
  if ¬present then throw (auditError "audit log does not exist")
  else
    lockedDescriptor false do
      let raw ← readBounded
      Proc.ofExcept (verifyBytes raw)

end Audit
