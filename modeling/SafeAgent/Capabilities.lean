/-
# Capabilities (`capabilities.py`)

The policy file and the rate limiter.

* `CapabilityGrant` carries what `_parse_grant` checks of its limit;
* `parsePolicy` is `_parse_policy`, `loadPolicy` reads the file afresh;
* `allowsRepository_iff` : which repositories a grant covers;
* `allow`               : `CapabilityRateLimiter.allow`, which reserves and saves.
-/
import SafeAgent.Operations
import SafeAgent.PullRequestUrl

open PyText

/-- A supported command. -/
inductive Command
  | ping
  | status
  | about
  | help
  | pr
  deriving DecidableEq, Repr

namespace Command

/-- The text of a command. -/
def token : Command → PyStr
  | .ping => py "/ping"
  | .status => py "/status"
  | .about => py "/about"
  | .help => py "/help"
  | .pr => py "/pr"

/-- `SUPPORTED_COMMANDS` -/
def supported : List Command := [.ping, .status, .about, .help, .pr]

/-- The supported command with a text. -/
def ofToken (s : PyStr) : Option Command := supported.find? fun c => c.token == s

end Command

/-- `MAX_REQUESTS_PER_HOUR` -/
def maxRequestsPerHour : ℕ := 1000

/-- `CapabilityGrant` -/
structure CapabilityGrant where
  enabled : Bool
  commands : List Command
  repositories : List PyStr
  limit : ℕ
  limit_pos : 1 ≤ limit
  limit_le : limit ≤ maxRequestsPerHour

/-- `CapabilityError(message)` -/
def capabilityError (message : String) : PyErr := .of .capabilityError message

namespace CapabilityGrant

/-- Whether one scope covers a case-folded full name. -/
def scopeAllows (candidate scope : PyStr) : Bool :=
  if endsWith (py "/*") scope then
    startsWith scope.dropLast candidate && candidate.count 47 == 1
  else candidate == scope

/-- `allows_repository` -/
def allowsRepository (g : CapabilityGrant) (fullName : PyStr) : Bool :=
  g.repositories.any (scopeAllows (casefold fullName))

end CapabilityGrant

/-- `CapabilityPolicy` -/
structure CapabilityPolicy where
  principals : PyDict CapabilityGrant

namespace CapabilityPolicy

/-- `grant_for` -/
def grantFor (p : CapabilityPolicy) (did : PyStr) : Option CapabilityGrant := p.principals.get? did

end CapabilityPolicy

namespace Capabilities

open Json PyItems

/-- `CAPABILITY_SCHEMA` -/
def capabilitySchema : PyStr := py "technocore-safe-agent-capabilities-v1"

/-- `MAX_POLICY_BYTES` -/
def maxPolicyBytes : ℕ := 64 * 1024

/-- `MAX_PRINCIPALS` -/
def maxPrincipals : ℕ := 128

/-- `WINDOW_SECONDS` -/
def windowSeconds : ℕ := 3600

/-! ## Parsing the policy -/

/-- `_commands`, with the commands checked so far. -/
def checkCommands : List Json → List Command → PyResult (List Command)
  | [], checked => .ok checked
  | item :: rest, checked =>
      match item.asStr.bind Command.ofToken with
      | none => .error (capabilityError "capability grant contains an unsupported command")
      | some command =>
          if command ∈ checked then
            .error (capabilityError "capability grant contains a duplicate command")
          else checkCommands rest (checked ++ [command])

/-- `_commands` -/
def commands (value : Json) : PyResult (List Command) :=
  match value.asArr with
  | none => .error (capabilityError "capability commands must be an array")
  | some items => checkCommands items []

/-- `_repository_scope` -/
def repositoryScope (value : Json) : PyResult PyStr :=
  match value.asStr with
  | none => .error (capabilityError "capability repository scope is invalid")
  | some s =>
      if s ≠ strip s ∨ s.count 47 ≠ 1 then
        .error (capabilityError "capability repository scope is invalid")
      else
        let owner := (cut 47 s).1
        let repository := (cut 47 s).2.getD []
        if ¬isOwner owner then
          .error (capabilityError "capability repository owner is invalid")
        else if repository ≠ py "*" ∧ ¬validRepository repository then
          .error (capabilityError "capability repository name is invalid")
        else .ok (casefold (owner ++ 47 :: repository))

/-- `_repository_scopes`, with the scopes checked so far. -/
def checkScopes : List Json → List PyStr → PyResult (List PyStr)
  | [], checked => .ok checked
  | item :: rest, checked => do
      let scope ← repositoryScope item
      if scope ∈ checked then
        .error (capabilityError "capability grant contains a duplicate repository")
      else checkScopes rest (checked ++ [scope])

/-- `_repository_scopes` -/
def repositoryScopes (value : Json) : PyResult (List PyStr) :=
  match value.asArr with
  | none => .error (capabilityError "capability repositories must be an array")
  | some items => checkScopes items []

/-- The keys of a grant. -/
def grantKeys : List PyStr :=
  [py "enabled", py "commands", py "repositories", py "max_requests_per_hour"]

/-- `_parse_grant` -/
def parseGrant (payload : Json) : PyResult CapabilityGrant :=
  match payload.asObj with
  | none => .error (capabilityError "capability grant has unexpected fields")
  | some fields =>
      if ¬hasKeys fields grantKeys then
        .error (capabilityError "capability grant has unexpected fields")
      else
        match get fields (py "enabled") with
        | .bool enabled => do
            let checkedCommands ← commands (get fields (py "commands"))
            let repositories ← repositoryScopes (get fields (py "repositories"))
            if enabled ∧ checkedCommands = [] then
              .error (capabilityError "enabled capability grant must contain a command")
            else if .pr ∈ checkedCommands ∧ enabled ∧ repositories = [] then
              .error (capabilityError "an enabled /pr grant requires a repository scope")
            else if .pr ∉ checkedCommands ∧ repositories ≠ [] then
              .error (capabilityError "repository scopes require the /pr command")
            else
              match Protocol.asNat (get fields (py "max_requests_per_hour")) with
              | none =>
                  .error (capabilityError "max_requests_per_hour must be between 1 and 1000")
              | some limit =>
                  if hlimit : 1 ≤ limit ∧ limit ≤ maxRequestsPerHour then
                    .ok { enabled, commands := checkedCommands, repositories, limit
                          limit_pos := hlimit.1, limit_le := hlimit.2 }
                  else
                    .error (capabilityError "max_requests_per_hour must be between 1 and 1000")
        | _ => .error (capabilityError "capability grant enabled flag must be boolean")

/-- One entry of `principals`. -/
def checkPrincipal (did : PyStr) (grant : Json) : PyResult CapabilityGrant :=
  match Crypto.validateDid did with
  | .error _ => .error (capabilityError "capability policy contains an invalid DID")
  | .ok _ => parseGrant grant

/-- `_parse_policy` -/
def parsePolicy (payload : Json) : PyResult CapabilityPolicy :=
  match payload.asObj with
  | none => .error (capabilityError "capability policy has unexpected top-level fields")
  | some fields =>
      if ¬hasKeys fields [py "schema", py "principals"] then
        .error (capabilityError "capability policy has unexpected top-level fields")
      else if ¬(get fields (py "schema")).isStr capabilitySchema then
        .error (capabilityError "capability policy has an unsupported schema")
      else
        match (get fields (py "principals")).asObj with
        | none => .error (capabilityError "capability policy principals must be an object")
        | some principals =>
            if maxPrincipals < principals.length then
              .error (capabilityError "capability policy contains too many principals")
            else do
              let checked ← checkItems checkPrincipal principals .empty
              return { principals := checked }

section Loading

variable [Platform]

/-- `json.loads` with the hook of `_decode_json`. -/
def reader : JsonReader where
  depthLimit := Platform.recursionLimit
  floatRepr := Platform.floatRepr
  objectHook :=
    rejectDuplicateKeys (capabilityError "capability policy contains a duplicate JSON key")

/-- `_decode_json` -/
def decodeJson (raw : Bytes) : PyResult Json :=
  match loads reader raw with
  | .ok payload => .ok payload
  | .error e =>
      if e.isa .unicodeDecodeError || e.isa .jsonDecodeError then
        .error (capabilityError "capability policy is not valid JSON")
      else .error e

/-- The checks of `CapabilityPolicyFile.load` on what it opened and read. -/
def policyOfFile (info : FileMeta) (raw : Bytes) : PyResult CapabilityPolicy :=
  if ¬info.regular then
    .error (capabilityError "capability policy must be a regular file")
  else if info.mode % 64 ≠ 0 then
    .error (capabilityError "capability policy permissions must not allow group or other access")
  else if ¬info.owned then
    .error (capabilityError "capability policy must be owned by the current user")
  else if maxPolicyBytes < raw.length then
    .error (capabilityError "capability policy exceeds the 64 KiB limit")
  else do
    let payload ← decodeJson raw
    parsePolicy payload

/-- `CapabilityPolicyFile.load` -/
def loadPolicy : Agent CapabilityPolicy := do
  let (info, raw) ← Agent.exceptOSError
    (fun e => capabilityError ("cannot access capability policy: " ++ e.message)) do
      let info : FileMeta ← Agent.perform .policyOpen
      -- the file is not read when its metadata is refused
      if info.regular && info.mode % 64 == 0 && info.owned then
        let raw : Bytes ← Agent.perform .policyRead
        pure (info, raw)
      else pure (info, [])
  Proc.ofExcept (policyOfFile info raw)

end Loading

/-! ## The rate limiter -/

/-- `CapabilityRateLimiter.allow`; `consume` is set by a live process. -/
def allow (consume : Bool) (did : PyStr) (limit : ℕ) : Agent Bool := do
  match Crypto.validateDid did with
  | .error _ => throw (capabilityError "rate-limit principal DID is invalid")
  | .ok validDid =>
      if limit < 1 ∨ maxRequestsPerHour < limit then
        throw (capabilityError "rate limit is outside the supported range")
      else
        let reading : Option ℕ ← Agent.perform .rateClock
        match reading with
        | none => throw (capabilityError "rate-limit clock returned an invalid timestamp")
        | some now =>
            let s ← get
            let count ← Proc.ofExcept (s.capabilityRequestCount validDid now windowSeconds)
            if limit ≤ count then return false
            else if consume then
              let reserved ← Proc.ofExcept (s.reserveCapabilityRequest validDid now windowSeconds)
              set reserved
              Agent.saveState
              return true
            else return true

end Capabilities
