/-
# Work receipts (`work_receipt_verifier.py`)

A work receipt is the signed claim of one execution, with the countersignatures of those who
repeated it.  Verifying needs no checkout and runs no command.

* `validateWorkPayload`, `validateCountersignaturePayload` : the two payloads, check by check;
* `verifySignedWrapper`                                    : hash and signature of a payload;
* `checkCountersignatures`                                 : the loop over the countersignatures;
* `verifyAndDecode`                                        : what is accepted, and its envelope.
-/
import SafeAgent.SignedReceipt

open PyText

namespace WorkReceipt

open Json PyItems Receipt

/-! ## Constants -/

/-- `WORK_RECEIPT_SCHEMA` -/
def workReceiptSchema : PyStr := py "work-receipt-v1"

/-- `WORK_RECEIPT_ENVELOPE_SCHEMA` -/
def workReceiptEnvelopeSchema : PyStr := py "work-receipt-envelope-v1"

/-- `WORK_COUNTERSIGNATURE_SCHEMA` -/
def workCountersignatureSchema : PyStr := py "work-receipt-countersignature-v1"

/-- `MAX_COMMAND_ARGUMENTS` -/
def maxCommandArguments : ℕ := 64

/-- `MAX_COMMAND_ARGUMENT_BYTES` -/
def maxCommandArgumentBytes : ℕ := 4096

/-- `MAX_COMMAND_BYTES` -/
def maxCommandBytes : ℕ := 16 * 1024

/-- `MAX_OUTPUT_BYTES` -/
def maxOutputBytes : ℕ := 16 * 1024 * 1024

/-- `MAX_RECEIPT_BYTES` -/
def maxReceiptBytes : ℕ := 128 * 1024

/-- `MAX_COUNTERSIGNATURES` -/
def maxCountersignatures : ℕ := 16

/-- `WORK_PAYLOAD_KEYS` -/
def workPayloadKeys : List PyStr :=
  [py "schema", py "issuer", py "repository", py "commit", py "command", py "timeout_ms",
    py "result", py "exit_code", py "stdout_sha256", py "stdout_bytes", py "stderr_sha256",
    py "stderr_bytes", py "started_at", py "completed_at", py "duration_ms"]

/-- `EXECUTION_KEYS` -/
def executionKeys : List PyStr :=
  [py "repository", py "commit", py "command", py "timeout_ms", py "result", py "exit_code",
    py "stdout_sha256", py "stdout_bytes", py "stderr_sha256", py "stderr_bytes"]

/-- `COUNTERSIGNATURE_PAYLOAD_KEYS` -/
def countersignaturePayloadKeys : List PyStr :=
  [py "schema", py "verifier", py "receipt_payload_sha256", py "execution_sha256",
    py "observed_at"]

/-- `SIGNED_WRAPPER_KEYS` -/
def signedWrapperKeys : List PyStr := [py "payload", py "payload_sha256", py "signature"]

/-- `ENVELOPE_KEYS` -/
def envelopeKeys : List PyStr := [py "schema", py "receipt", py "countersignatures"]

/-- `WorkReceiptError(message)` -/
def workReceiptError (message : String) : PyErr := .of .workReceiptError message

/-- `WorkReceiptSummary` -/
structure WorkReceiptSummary where
  payload : JsonFields
  countersignatures : ℕ
  matchingCountersignatures : ℕ

/-! ## Checks of single values -/

/-- `_canonical_json` -/
def canonicalJson (value : JsonFields) : PyResult Bytes := Receipt.canonicalJson value

/-- `_parse_timestamp` -/
def parseTimestamp (value : Json) (label : String) : PyResult UtcTime :=
  match value.asStr.bind UtcTime.parseIso with
  | some t => .ok t
  | none => .error (workReceiptError ("work receipt contains an invalid " ++ label))

/-- `SHA256_PATTERN` -/
def isSha256 (s : PyStr) : Bool := s.length == 64 && s.all isHexLower

/-- `_require_sha256` -/
def requireSha256 (value : Json) (label : String) : PyResult PyStr :=
  match value.asStr.filter isSha256 with
  | some s => .ok s
  | none => .error (workReceiptError ("work receipt contains an invalid " ++ label))

/-- `_require_nonnegative_int` -/
def requireNonnegativeInt (value : Json) (label : String) (maximum : ℕ) : PyResult ℕ :=
  match (Protocol.asNat value).filter fun n => n ≤ maximum with
  | some n => .ok n
  | none => .error (workReceiptError ("work receipt contains an invalid " ++ label))

/-- `_validate_repository` -/
def validateRepository (value : Json) : PyResult PyStr :=
  match value.asStr.filter fun s => s.count 47 == 1 with
  | none => .error (workReceiptError "work receipt contains an invalid repository")
  | some s =>
      if isOwner (cut 47 s).1 && validRepository ((cut 47 s).2.getD []) then .ok s
      else .error (workReceiptError "work receipt contains an invalid repository")

/-- One argument of a command, and its size in octets. -/
def validateArgument (first : Bool) (argument : Json) : PyResult (PyStr × ℕ) :=
  match argument.asStr.filter fun s => !s.contains 0 with
  | none => .error (workReceiptError "command arguments must be safe strings")
  | some s =>
      match encodeUtf8 s with
      | none => .error (workReceiptError "command arguments must be valid UTF-8")
      | some octets =>
          if maxCommandArgumentBytes < octets.length ∨ (first ∧ octets.length = 0) then
            .error (workReceiptError "command contains an invalid argument")
          else .ok (s, octets.length)

/-- The arguments of a command, and their size in octets. -/
def validateArguments : Bool → List Json → PyResult (List PyStr × ℕ)
  | _, [] => .ok ([], 0)
  | first, argument :: rest => do
      let (s, size) ← validateArgument first argument
      let (arguments, total) ← validateArguments false rest
      return (s :: arguments, size + total)

/-- `_validate_command` -/
def validateCommand (command : Json) : PyResult (List PyStr) :=
  match command.asArr with
  | none => .error (workReceiptError "command must be an argv sequence")
  | some normalized =>
      if normalized.isEmpty ∨ maxCommandArguments < normalized.length then
        .error (workReceiptError "command must contain 1-64 arguments")
      else do
        let (arguments, total) ← validateArguments true normalized
        if maxCommandBytes < total then
          .error (workReceiptError "command exceeds the work receipt size limit")
        else .ok arguments

/-- `_execution_claim` -/
def executionClaim (payload : JsonFields) : JsonFields :=
  executionKeys.map fun key => (key, get payload key)

/-- `_execution_sha256` -/
def executionSha256 (payload : JsonFields) : PyResult PyStr :=
  Sha256.sha256Hex <$> canonicalJson (executionClaim payload)

/-! ## The two payloads -/

/-- `value == 0`; the two zeros of `float` and `False` are equal to it. -/
def equalsZero : Json → Bool
  | .int n => n == 0
  | .bool b => !b
  | .float r => r == py "0.0" || r == py "-0.0"
  | _ => false

/-- The checks of `result` and `exit_code`. -/
def validateResult (result exitCode : Json) : PyResult Unit :=
  if result.isStr (py "passed") then
    if equalsZero exitCode then .ok ()
    else .error (workReceiptError "passed work receipt must have exit code zero")
  else if result.isStr (py "failed") then
    match exitCode.asInt.filter fun n => n != 0 with
    | none => .error (workReceiptError "failed work receipt must have a nonzero exit code")
    | some n =>
        if -255 ≤ n ∧ n ≤ 255 then .ok ()
        else .error (workReceiptError "failed work receipt exit code is outside bounds")
  else if result.isStr (py "timed_out") then
    if Audit.isNone exitCode then .ok ()
    else .error (workReceiptError "timed-out work receipt must not claim an exit code")
  else .error (workReceiptError "work receipt contains an invalid result")

/-- `validate_did(value)`, where the error is a `WorkReceiptError`. -/
def checkDid (value : Json) (message : String) : PyResult PyStr :=
  match Crypto.validateDidValue value with
  | .ok did => .ok did
  | .error _ => .error (workReceiptError message)

/-- The checks of `started_at` and `completed_at`. -/
def validateTimes (startedAt completedAt : Json) : PyResult Unit := do
  let started ← parseTimestamp startedAt "start timestamp"
  let completed ← parseTimestamp completedAt "completion timestamp"
  if completed.stamp < started.stamp then
    .error (workReceiptError "work receipt completes before it starts")
  else .ok ()

/-- `_validate_work_payload` -/
def validateWorkPayload (payload : JsonFields) : PyResult Unit :=
  if ¬hasKeys payload workPayloadKeys ∨ ¬(get payload (py "schema")).isStr workReceiptSchema then
    .error (workReceiptError "work receipt payload uses an unsupported schema")
  else do
    let _ ← checkDid (get payload (py "issuer")) "work receipt contains an invalid issuer DID"
    let _ ← validateRepository (get payload (py "repository"))
    if (get payload (py "commit")).asStr.any isSha = false then
      .error (workReceiptError "work receipt contains an invalid commit SHA")
    else do
      let _ ← validateCommand (get payload (py "command"))
      let timeoutMs ← requireNonnegativeInt (get payload (py "timeout_ms")) "timeout" 3600000
      if timeoutMs = 0 then .error (workReceiptError "work receipt timeout must be positive")
      else do
        validateResult (get payload (py "result")) (get payload (py "exit_code"))
        let _ ← requireSha256 (get payload (py "stdout_sha256")) "stdout hash"
        let _ ← requireSha256 (get payload (py "stderr_sha256")) "stderr hash"
        let _ ← requireNonnegativeInt (get payload (py "stdout_bytes")) "stdout byte count"
          maxOutputBytes
        let _ ← requireNonnegativeInt (get payload (py "stderr_bytes")) "stderr byte count"
          maxOutputBytes
        validateTimes (get payload (py "started_at")) (get payload (py "completed_at"))
        let _ ← requireNonnegativeInt (get payload (py "duration_ms")) "duration" 3700000
        return ()

/-- `_validate_countersignature_payload` -/
def validateCountersignaturePayload (payload : JsonFields) : PyResult Unit :=
  if ¬hasKeys payload countersignaturePayloadKeys ∨
      ¬(get payload (py "schema")).isStr workCountersignatureSchema then
    .error (workReceiptError "countersignature payload uses an unsupported schema")
  else do
    let _ ← checkDid (get payload (py "verifier")) "countersignature contains an invalid verifier DID"
    let _ ← requireSha256 (get payload (py "receipt_payload_sha256")) "receipt reference"
    let _ ← requireSha256 (get payload (py "execution_sha256")) "execution reference"
    let _ ← parseTimestamp (get payload (py "observed_at")) "countersignature timestamp"
    return ()

/-! ## Wrappers and envelopes -/

section Platform

variable [Platform]

/-- `_verify_signed_wrapper` -/
def verifySignedWrapper (value : Json) (signerKey : PyStr) : PyResult JsonFields :=
  match value.asObj.filter fun fields => hasKeys fields signedWrapperKeys with
  | none => .error (workReceiptError "signed work receipt wrapper has unexpected fields")
  | some wrapper =>
      match (get wrapper (py "payload")).asObj with
      | none => .error (workReceiptError "signed work receipt payload must be an object")
      | some payload => do
          let canonical ← canonicalJson payload
          if ¬(get wrapper (py "payload_sha256")).isStr (Sha256.sha256Hex canonical) then
            .error (workReceiptError "work receipt payload hash does not match")
          else do
            let _ ← checkDid (get payload signerKey)
              "signed work receipt contains an invalid DID"
            if ¬signatureMatches (get payload signerKey) canonical
                (get wrapper (py "signature")) then
              .error (workReceiptError "work receipt signature does not match its signer")
            else .ok payload

/-- The fields of a signed wrapper. -/
def wrapperFields (value : Json) : JsonFields := value.asObj.getD []

/-- The text of a value that was checked to be a string. -/
def textOf (value : Json) : PyStr := value.asStr.getD []

/-- One countersignature of the loop of `_verify_and_decode`; the verifiers before it are
`seen`. -/
def checkCountersignature (issuer receiptHash executionHash : PyStr) (completedAt : UtcTime)
    (seen : List PyStr) (signedCounter : Json) : PyResult PyStr := do
  let payload ← verifySignedWrapper signedCounter (py "verifier")
  validateCountersignaturePayload payload
  let verifier := textOf (get payload (py "verifier"))
  if verifier = issuer then
    .error (workReceiptError "worker cannot countersign its own receipt")
  else if seen.contains verifier then
    .error (workReceiptError "work receipt contains a duplicate countersigner")
  else if ¬(get payload (py "receipt_payload_sha256")).isStr receiptHash then
    .error (workReceiptError "countersignature refers to a different receipt")
  else if ¬(get payload (py "execution_sha256")).isStr executionHash then
    .error (workReceiptError "countersignature refers to different execution evidence")
  else do
    let observedAt ← parseTimestamp (get payload (py "observed_at")) "countersignature timestamp"
    if observedAt.stamp < completedAt.stamp then
      .error (workReceiptError "countersignature predates the primary execution")
    else .ok verifier

/-- The loop of `_verify_and_decode` over the countersignatures. -/
def checkCountersignatures (issuer receiptHash executionHash : PyStr) (completedAt : UtcTime) :
    List PyStr → List Json → PyResult (List PyStr)
  | _, [] => .ok []
  | seen, signedCounter :: rest => do
      let verifier ← checkCountersignature issuer receiptHash executionHash completedAt seen
        signedCounter
      let verifiers ← checkCountersignatures issuer receiptHash executionHash completedAt
        (verifier :: seen) rest
      return verifier :: verifiers

/-- `_decode` -/
def decode (receipt : ReceiptInput) : PyResult JsonFields := do
  let decoded ←
    match receipt with
    | .value j => .ok j
    | .text s =>
        match encodeUtf8 s with
        | none => .error (.of .unicodeEncodeError "surrogates not allowed")
        | some octets =>
            if maxReceiptBytes < octets.length then
              .error (workReceiptError "work receipt exceeds the artifact size limit")
            else
              match loadsStr Protocol.jsonReader s with
              | .ok j => .ok j
              | .error e =>
                  if e.isa .valueError then
                    .error (workReceiptError "work receipt is not valid JSON")
                  else .error e
  match decoded.asObj with
  | some fields => .ok fields
  | none => .error (workReceiptError "work receipt must contain a JSON object")

/-- `_verify_and_decode` -/
def verifyAndDecode (receipt : ReceiptInput) : PyResult (WorkReceiptSummary × JsonFields) := do
  let envelope ← decode receipt
  if ¬hasKeys envelope envelopeKeys ∨
      ¬(get envelope (py "schema")).isStr workReceiptEnvelopeSchema then
    .error (workReceiptError "work receipt envelope uses an unsupported schema")
  else do
    let payload ← verifySignedWrapper (get envelope (py "receipt")) (py "issuer")
    validateWorkPayload payload
    match (get envelope (py "countersignatures")).asArr.filter fun items =>
        items.length ≤ maxCountersignatures with
    | none => .error (workReceiptError "work receipt contains invalid countersignatures")
    | some countersignatures => do
        let receiptHash :=
          textOf (get (wrapperFields (get envelope (py "receipt"))) (py "payload_sha256"))
        let executionHash ← executionSha256 payload
        let completedAt ← parseTimestamp (get payload (py "completed_at")) "completion timestamp"
        let _ ← checkCountersignatures (textOf (get payload (py "issuer"))) receiptHash
          executionHash completedAt [] countersignatures
        return ({ payload, countersignatures := countersignatures.length,
                  matchingCountersignatures := countersignatures.length }, envelope)

/-- `verify_work_receipt` -/
def verifyWorkReceipt (receipt : ReceiptInput) : PyResult WorkReceiptSummary := do
  let (summary, _) ← verifyAndDecode receipt
  return summary

/-- `render_work_receipt` -/
def renderWorkReceipt (receipt : ReceiptInput) : PyResult PyStr := do
  let (_, envelope) ← verifyAndDecode receipt
  let rendered ← dumps (.obj envelope)
  if maxReceiptBytes < rendered.length then
    .error (workReceiptError "work receipt exceeds the artifact size limit")
  else .ok rendered

end Platform

end WorkReceipt
