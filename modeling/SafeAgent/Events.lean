/-
# Decisions and events

What the policy decides about a message (`policy.py`) and what the agent reports about
it (`agent.py`).  The strings of the source are inductive types here; `token` gives the
text that a record or a printed line holds.
-/
import SafeAgent.Protocol

open PyText

/-- `Decision.action` -/
inductive DecisionAction
  | ignore
  | reply
  | receipt
  deriving DecidableEq, Repr

/-- `Decision.reason` -/
inductive Reason
  | ownMessage
  | unsignedSender
  | senderNotAllowlisted
  | principalNotGranted
  | principalRevoked
  | unsupportedCommand
  | commandNotGranted
  | repositoryNotGranted
  | rateLimited
  | allowedCommand
  | allowedPublicPullRequest
  | invalidPullRequestUrl
  deriving DecidableEq, Repr

/-- `event["event"]` of a handled message. -/
inductive Outcome
  | ignore
  | reply
  | receipt
  | wouldReply
  | wouldIssueReceipt
  | sent
  | receiptFailed
  | sentReceipt
  deriving DecidableEq, Repr

namespace DecisionAction

/-- The text of an action. -/
def token : DecisionAction → PyStr
  | .ignore => py "ignore"
  | .reply => py "reply"
  | .receipt => py "receipt"

/-- `{"event": decision.action}` -/
def outcome : DecisionAction → Outcome
  | .ignore => .ignore
  | .reply => .reply
  | .receipt => .receipt

end DecisionAction

namespace Reason

/-- The text of a reason. -/
def token : Reason → PyStr
  | .ownMessage => py "own_message"
  | .unsignedSender => py "unsigned_sender"
  | .senderNotAllowlisted => py "sender_not_allowlisted"
  | .principalNotGranted => py "principal_not_granted"
  | .principalRevoked => py "principal_revoked"
  | .unsupportedCommand => py "unsupported_command"
  | .commandNotGranted => py "command_not_granted"
  | .repositoryNotGranted => py "repository_not_granted"
  | .rateLimited => py "rate_limited"
  | .allowedCommand => py "allowed_command"
  | .allowedPublicPullRequest => py "allowed_public_pull_request"
  | .invalidPullRequestUrl => py "invalid_pull_request_url"

end Reason

namespace Outcome

/-- The text of an outcome. -/
def token : Outcome → PyStr
  | .ignore => py "ignore"
  | .reply => py "reply"
  | .receipt => py "receipt"
  | .wouldReply => py "would_reply"
  | .wouldIssueReceipt => py "would_issue_receipt"
  | .sent => py "sent"
  | .receiptFailed => py "receipt_failed"
  | .sentReceipt => py "sent_receipt"

/-- `event["event"] in {"sent", "sent_receipt"}` -/
def isSent : Outcome → Bool
  | .sent => true
  | .sentReceipt => true
  | _ => false

end Outcome

/-- `Decision` -/
structure Decision where
  action : DecisionAction
  reason : Reason
  reply : Option PyStr := none
  target : Option PyStr := none
  deriving DecidableEq

/-- A decision to answer says with what, and a decision to issue a receipt for what. -/
structure Decision.Complete (d : Decision) : Prop where
  reply : d.action = .reply → d.reply.isSome = true
  receipt : d.action = .receipt → d.target.isSome = true

/-- The event of one handled message; a missing key is `none`. -/
structure MessageEvent where
  outcome : Outcome
  decision : DecisionAction
  room : PyStr
  seq : ℕ
  sender : PyStr
  reason : Reason
  replyCommand : Option PyStr := none
  reply : Option PyStr := none
  replySeq : Option ℕ := none
  pullRequest : Option PyStr := none
  receiptSha256 : Option PyStr := none
  errorCode : Option String := none
  httpStatus : Option ℕ := none
  retryAfter : Option String := none

/-- What the agent prints. -/
inductive Event
  | bootstrapped (room : PyStr) (cursor : ℕ) (send : Bool)
  | roomGenerationChanged (room : PyStr) (previous : Option ℕ) (generation : ℕ)
  | retentionGap (room : PyStr) (cursor firstAvailable : ℕ)
  | handled (event : MessageEvent)
  | cursorAdvanced (room : PyStr) (start stop : ℕ)
  | readRetry (room : PyStr) (retryAfter : Option String) (httpStatus : Option ℕ)
