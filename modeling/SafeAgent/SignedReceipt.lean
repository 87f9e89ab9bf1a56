/-
# Signed receipts (`receipt.py`)

A receipt is the evidence of one inspection as a JSON object, with its hash and a
detached signature.  Issuing and verifying run the same checks on the object.

* `validateReceiptPayload`: the checks of `_validate_receipt_payload`, in its order;
* `buildSignedReceipt`    : what the key signs;
* `verifySignedReceipt`   : what is accepted, as a text or as a decoded value.
-/
import SafeAgent.Audit
import SafeAgent.GitHubEvidence

open PyText

namespace Receipt

open Json PyItems

/-- `RECEIPT_SCHEMA` -/
def receiptSchema : PyStr := py "technocore-github-pr-receipt-v1"

/-- `RECEIPT_SOURCE` -/
def receiptSource : PyStr := py "github-public-rest"

/-- `GITHUB_API_VERSION` -/
def gitHubApiVersion : PyStr := py "2026-03-10"

/-- `CI_STATES` -/
def ciStates : List PyStr :=
  [py "failure", py "no_signals", py "partial", py "pending", py "success"]

/-- `RECEIPT_PAYLOAD_KEYS` -/
def receiptPayloadKeys : List PyStr :=
  [py "schema", py "issuer", py "source", py "api_version", py "repository", py "pull_number",
    py "url", py "author", py "state", py "merged", py "draft", py "head_sha", py "base_sha",
    py "merge_commit_sha", py "ci", py "ci_data_complete", py "checks_observed", py "checks_total",
    py "statuses_observed", py "statuses_total", py "source_updated_at", py "observed_at"]

/-- The keys of a receipt. -/
def receiptKeys : List PyStr := [py "payload", py "payload_sha256", py "signature"]

/-- `GitHubReceiptError(message, code="invalid_receipt")` -/
def invalidReceipt (message : String) : PyErr := receiptError "invalid_receipt" message

/-! ## The checks of a payload -/

/-- `_validate_receipt_header` -/
def validateReceiptHeader (payload : JsonFields) : PyResult Unit :=
  if ¬(get payload (py "schema")).isStr receiptSchema ∨
      ¬(get payload (py "source")).isStr receiptSource ∨
      ¬(get payload (py "api_version")).isStr gitHubApiVersion then
    .error (invalidReceipt "receipt payload uses an unsupported schema or source")
  else
    match Crypto.validateDidValue (get payload (py "issuer")) with
    | .ok _ => .ok ()
    | .error _ => .error (invalidReceipt "receipt contains an invalid issuer DID")

/-- `_validate_receipt_commits` -/
def validateReceiptCommits (payload : JsonFields) : PyResult Unit := do
  let _ ← requireSha (get payload (py "head_sha")) "receipt head SHA"
  let _ ← requireSha (get payload (py "base_sha")) "receipt base SHA"
  match asBool (get payload (py "merged")), get payload (py "merge_commit_sha") with
  | _, .null => .ok ()
  | some true, raw => do
      let _ ← requireSha raw "receipt merge commit SHA"
      return ()
  | _, _ => .error (invalidReceipt "unmerged receipt must not claim a merge commit")

/-- `_validate_receipt_ci_counts`: how many signals there are, and whether all were seen. -/
def validateReceiptCiCounts (payload : JsonFields) : PyResult (ℕ × Bool) := do
  let checksObserved ← requireCount (get payload (py "checks_observed")) "receipt checks_observed"
  let checksTotal ← requireCount (get payload (py "checks_total")) "receipt checks_total"
  let statusesObserved ← requireCount (get payload (py "statuses_observed"))
    "receipt statuses_observed"
  let statusesTotal ← requireCount (get payload (py "statuses_total")) "receipt statuses_total"
  if checksTotal < checksObserved ∨ statusesTotal < statusesObserved then
    .error (invalidReceipt "receipt contains inconsistent CI counts")
  else
    let complete := decide (checksObserved = checksTotal ∧ statusesObserved = statusesTotal)
    if asBool (get payload (py "ci_data_complete")) ≠ some complete then
      .error (invalidReceipt "receipt CI completeness does not match its counts")
    else .ok (checksTotal + statusesTotal, complete)

/-- `_validate_receipt_ci` -/
def validateReceiptCi (payload : JsonFields) : PyResult Unit := do
  let ci := get payload (py "ci")
  let known ← inNames ci ciStates
  if ¬known ∨ (asBool (get payload (py "ci_data_complete"))).isNone then
    .error (invalidReceipt "receipt contains an invalid CI summary")
  else
    let (signals, complete) ← validateReceiptCiCounts payload
    if ci.isStr (py "no_signals") ∧ signals ≠ 0 then
      .error (invalidReceipt "no-signals receipt contains CI records")
    else if ¬ci.isStr (py "no_signals") ∧ signals = 0 then
      .error (invalidReceipt "receipt claims a CI state without CI records")
    else if ci.isStr (py "partial") ∧ complete then
      .error (invalidReceipt "partial CI cannot claim complete data")
    else if (ci.isStr (py "pending") ∨ ci.isStr (py "success")) ∧ ¬complete then
      .error (invalidReceipt "incomplete CI cannot be reported as pending or successful")
    else .ok ()

section Platform

variable [Platform]

/-- `_validate_receipt_subject` -/
def validateReceiptSubject (payload : JsonFields) : PyResult Unit := do
  let repository ← parseRepository (get payload (py "repository"))
  let number ← requireCount (get payload (py "pull_number")) "receipt pull number"
  if number = 0 then .error (invalidReceipt "receipt pull number must be positive")
  else
    let reference ← parseUrlValue (get payload (py "url"))
    if reference.fullName ≠ repository ∨ reference.number ≠ number then
      .error (invalidReceipt "receipt URL does not match its repository and number")
    else if (get payload (py "author")).asStr.any isAuthor = false then
      .error (invalidReceipt "receipt contains an invalid author")
    else
      let known ← inNames (get payload (py "state")) [py "open", py "closed"]
      if ¬known then .error (invalidReceipt "receipt contains an invalid pull request state")
      else if (asBool (get payload (py "merged"))).isNone ∨
          (asBool (get payload (py "draft"))).isNone then
        .error (invalidReceipt "receipt contains invalid pull request flags")
      else .ok ()

/-- `_validate_receipt_payload` -/
def validateReceiptPayload (payload : JsonFields) : PyResult Unit :=
  if ¬hasKeys payload receiptPayloadKeys then
    .error (invalidReceipt "receipt payload has unexpected fields")
  else do
    validateReceiptHeader payload
    validateReceiptSubject payload
    validateReceiptCommits payload
    validateReceiptCi payload
    let _ ← requireTimestamp (get payload (py "source_updated_at")) "receipt source timestamp"
    let _ ← requireTimestamp (get payload (py "observed_at")) "receipt observation timestamp"
    return ()

/-! ## Issuing -/

/-- `_format_timestamp` -/
def formatTimestamp (value : ObservedAt) : PyResult PyStr :=
  match value with
  | .naive =>
      .error (receiptError "invalid_receipt_clock"
        "receipt clock must return a timezone-aware datetime")
  | _ => Audit.formatTimestamp value

/-- An optional text as JSON. -/
def optText : Option PyStr → Json
  | some s => .str s
  | none => .null

/-- The payload of `build_signed_receipt`. -/
def receiptPayload (evidence : PullRequestEvidence) (issuerDid observedAt : PyStr) : JsonFields :=
  [(py "schema", .str receiptSchema), (py "issuer", .str issuerDid),
    (py "source", .str receiptSource), (py "api_version", .str gitHubApiVersion),
    (py "repository", .str evidence.repository), (py "pull_number", .int evidence.number),
    (py "url", .str evidence.url), (py "author", .str evidence.author),
    (py "state", .str evidence.state), (py "merged", .bool evidence.merged),
    (py "draft", .bool evidence.draft), (py "head_sha", .str evidence.headSha),
    (py "base_sha", .str evidence.baseSha),
    (py "merge_commit_sha", optText evidence.mergeCommitSha), (py "ci", .str evidence.ci),
    (py "ci_data_complete", .bool evidence.ciDataComplete),
    (py "checks_observed", .int evidence.checksObserved),
    (py "checks_total", .int evidence.checksTotal),
    (py "statuses_observed", .int evidence.statusesObserved),
    (py "statuses_total", .int evidence.statusesTotal),
    (py "source_updated_at", .str evidence.sourceUpdatedAt), (py "observed_at", .str observedAt)]

/-- `_canonical_json` -/
def canonicalJson (payload : JsonFields) : PyResult Bytes := toAscii <$> dumps (.obj payload)

/-- What `build_signed_receipt` signs: the payload, once it is valid, and its octets. -/
def receiptOctets (evidence : PullRequestEvidence) (issuerDid : PyStr) (observedAt : ObservedAt) :
    PyResult (JsonFields × Bytes) := do
  let timestamp ← formatTimestamp observedAt
  let payload := receiptPayload evidence issuerDid timestamp
  validateReceiptPayload payload
  let canonical ← canonicalJson payload
  return (payload, canonical)

/-- `build_signed_receipt` -/
def buildSignedReceipt (evidence : PullRequestEvidence) (issuerDid : PyStr)
    (privateKey : Platform.PrivateKey) (observedAt : ObservedAt) : PyResult JsonFields := do
  let _ ← Crypto.validateDid issuerDid
  let keyDid ← Crypto.didFromPrivateKey privateKey
  if keyDid ≠ issuerDid then
    .error (receiptError "receipt_issuer_mismatch"
      "receipt signing key does not match its issuer DID")
  else
    let (payload, canonical) ← receiptOctets evidence issuerDid observedAt
    let signature ← Crypto.signDetached privateKey canonical
    return [(py "payload", .obj payload), (py "payload_sha256", .str (Sha256.sha256Hex canonical)),
      (py "signature", .str signature)]

/-! ## Verifying -/

/-- A receipt as it is given to `verify_signed_receipt`. -/
inductive ReceiptInput
  | text (s : PyStr)
  | value (j : Json)

/-- `json.loads(receipt)` of a text, or the value itself. -/
def decodeReceipt : ReceiptInput → PyResult Json
  | .value j => .ok j
  | .text s =>
      match loadsStr Protocol.jsonReader s with
      | .ok j => .ok j
      | .error e =>
          if e.isa .valueError then .error (invalidReceipt "receipt is not valid JSON") else .error e

/-- `verify_detached_signature` on decoded values. -/
def signatureMatches (signer : Json) (canonical : Bytes) (signature : Json) : Bool :=
  match signer.asStr, signature.asStr with
  | some did, some s => Crypto.verifyDetachedSignature did canonical s
  | _, _ => false

/-- `verify_signed_receipt` -/
def verifySignedReceipt (receipt : ReceiptInput) : PyResult JsonFields := do
  let decoded ← decodeReceipt receipt
  match decoded.asObj.filter fun fields => hasKeys fields receiptKeys with
  | none => .error (invalidReceipt "receipt wrapper has unexpected fields")
  | some wrapper =>
      match (get wrapper (py "payload")).asObj with
      | none => .error (invalidReceipt "receipt payload must be a JSON object")
      | some payload => do
          validateReceiptPayload payload
          let canonical ← canonicalJson payload
          if ¬(get wrapper (py "payload_sha256")).isStr (Sha256.sha256Hex canonical) then
            .error (invalidReceipt "receipt payload hash does not match")
          else if ¬signatureMatches (get payload (py "issuer")) canonical
              (get wrapper (py "signature")) then
            .error (invalidReceipt "receipt signature does not match its issuer")
          else .ok payload

end Platform

end Receipt
