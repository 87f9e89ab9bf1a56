/-
# The command policy (`policy.py`)

`decide` answers one untrusted room message.  `PolicyMode` is what `__post_init__`
allows: the legacy sender flags, or a capability file with its rate limiter.

* `authorizeSender`          : who may ask;
* `decideAuthorizedCommand`  : what may be asked, and the quota;
* `parseCommand`             : the pure part that reads the text.
-/
import SafeAgent.Capabilities

open PyText

/-- How senders are authorised. -/
inductive PolicyMode
  | legacy (allowedDids : List PyStr) (allowAnySigned : Bool)
  | capability (consume : Bool)

/-- `CommandPolicy` -/
structure CommandPolicy where
  ownDid : PyStr
  mode : PolicyMode

/-- `ParsedCommand` without its name. -/
structure ParsedCommand where
  decision : Decision
  repository : Option PyStr := none

namespace Policy

/-- `REPLIES` -/
def replies : Command → Option PyStr
  | .ping => some (py "pong")
  | .help => some (py "Commands: /ping, /status, /about, /help, /pr <public GitHub PR URL>")
  | .status => some (py "Technocore Safe Agent is online. It reads public GitHub PR metadata only and executes no room-supplied tools.")
  | .about => some (py "Keychain-backed Technocore responder. Signed commands only; fixed GitHub PR reads only; no shell, file, general URL, or arbitrary prompt execution.")
  | .pr => none

/-- `Decision("ignore", reason)` -/
def ignore (reason : Reason) : Decision := { action := .ignore, reason }

/-- `_command_name` -/
def commandName (text : PyStr) : Option Command :=
  if text = py "/ping" then some .ping
  else if text = py "/help" then some .help
  else if text = py "/status" then some .status
  else if text = py "/about" then some .about
  else if text = py "/pr" ∨ startsWith (py "/pr ") text then some .pr
  else none

variable [Platform]

/-- `_parse_command` -/
def parseCommand (name : Command) (text : PyStr) : PyResult ParsedCommand :=
  match replies name with
  | some reply =>
      .ok { decision := { action := .reply, reason := .allowedCommand, reply := some reply } }
  | none =>
      match Receipt.parseGithubPullRequestUrl (removePrefix (py "/pr ") text) with
      | .ok reference =>
          .ok { decision := { action := .receipt, reason := .allowedPublicPullRequest,
                              target := some reference.url }
                repository := some reference.fullName }
      | .error e =>
          if e.isa .gitHubReceiptError then
            .ok { decision := ignore .invalidPullRequestUrl }
          else .error e

omit [Platform] in
theorem complete_ignore (reason : Reason) : (ignore reason).Complete := ⟨nofun, nofun⟩

theorem complete_of_parseCommand {name : Command} {text : PyStr} {parsed : ParsedCommand}
    (h : parseCommand name text = .ok parsed) : parsed.decision.Complete := by
  unfold parseCommand at h
  split at h
  · cases h
    exact ⟨fun _ => rfl, nofun⟩
  · split at h
    · cases h
      exact ⟨nofun, fun _ => rfl⟩
    · split_ifs at h
      cases h
      exact complete_ignore _

/-- `_grant_for` -/
def grantFor (policy : CommandPolicy) (did : PyStr) : Agent (Option CapabilityGrant) :=
  match policy.mode with
  | .legacy _ _ => pure none
  | .capability _ => do
      let loaded ← Capabilities.loadPolicy
      return loaded.grantFor did

/-- `_authorize_sender`: a denial, or the grant that authorises the sender. -/
def authorizeSender (policy : CommandPolicy) (message : RoomMessage) :
    Agent (Option Decision × Option CapabilityGrant) := do
  if message.sender = policy.ownDid then return (some (ignore .ownMessage), none)
  else if ¬message.isSigned then return (some (ignore .unsignedSender), none)
  else
    let grant ← grantFor policy message.sender
    match policy.mode, grant with
    | .legacy allowedDids allowAnySigned, _ =>
        if ¬allowAnySigned ∧ ¬allowedDids.contains message.sender then
          return (some (ignore .senderNotAllowlisted), none)
        else return (none, grant)
    | .capability _, none => return (some (ignore .principalNotGranted), none)
    | .capability _, some g =>
        if ¬g.enabled then return (some (ignore .principalRevoked), none)
        else return (none, some g)

/-- `limiter.allow(...)`, where the limiter must be configured. -/
def allowRequest (policy : CommandPolicy) (did : PyStr) (limit : ℕ) : Agent Bool :=
  match policy.mode with
  | .legacy _ _ => throw (capabilityError "capability rate limiter is not configured")
  | .capability consume => Capabilities.allow consume did limit

/-- Whether the grant does not cover the repository of the command. -/
def repositoryRefused (grant : Option CapabilityGrant) (repository : Option PyStr) : Bool :=
  match grant, repository with
  | some g, some fullName => !g.allowsRepository fullName
  | _, _ => false

/-- `_decide_authorized_command` -/
def decideAuthorizedCommand (policy : CommandPolicy) (message : RoomMessage)
    (grant : Option CapabilityGrant) : Agent Decision := do
  match commandName message.text with
  | none => return ignore .unsupportedCommand
  | some name =>
      if grant.any fun g => !g.commands.contains name then return ignore .commandNotGranted
      else
        let parsed ← Proc.ofExcept (parseCommand name message.text)
        if parsed.decision.action = .ignore then return parsed.decision
        else if repositoryRefused grant parsed.repository then
          return ignore .repositoryNotGranted
        else
          match grant with
          | none => return parsed.decision
          | some g =>
              let allowed ← allowRequest policy message.sender g.limit
              if allowed then return parsed.decision else return ignore .rateLimited

/-- `CommandPolicy.decide` -/
def decide (policy : CommandPolicy) (message : RoomMessage) : Agent Decision := do
  let (denial, grant) ← authorizeSender policy message
  match denial with
  | some d => return d
  | none => decideAuthorizedCommand policy message grant

end Policy
