/-
# The receipt service (`receipt.py`)

What a `/pr` command leads to: one inspection, one signed receipt, and its text.
-/
import SafeAgent.SignedReceipt

open PyText

namespace Receipt

open Json PyItems

/-- The number of characters that a rendered receipt may have. -/
def maxReceiptLength : ℕ := 4096

variable [Platform]

/-- `render_signed_receipt` -/
def renderSignedReceipt (receipt : JsonFields) : PyResult PyStr := do
  let _ ← verifySignedReceipt (.value (.obj receipt))
  let rendered ← dumps (.obj receipt)
  if maxReceiptLength < rendered.length then
    .error (receiptError "receipt_too_large" "signed receipt exceeds the Technocore message limit")
  else .ok rendered

/-- `ContributionReceiptService`; `transport` is that of its client. -/
structure ContributionReceiptService where
  issuerDid : PyStr
  privateKey : Platform.PrivateKey
  transport : GitHubTransport

/-- `issue`, where `cooldown` is the `retry_after` of an attempt that comes too early, and
`observedAt` the answer of the clock. -/
def ContributionReceiptService.issue (service : ContributionReceiptService)
    (cooldown : Option String) (observedAt : ObservedAt) (url : PyStr) : PyResult PyStr := do
  let reference ← parseGithubPullRequestUrl url
  match cooldown with
  | some retryAfter =>
      .error { receiptError "local_receipt_rate_limited" "GitHub receipt cooldown is active" with
        retryAfter := some retryAfter }
  | none => do
      let evidence ← inspect service.transport reference
      let receipt ← buildSignedReceipt evidence service.issuerDid service.privateKey observedAt
      renderSignedReceipt receipt

end Receipt
