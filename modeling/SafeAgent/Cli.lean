/-
# The live commands (`cli.py`)

`run --send` and `recover-delivery`, from loading the state on.  Both hold the process
lock, so they are started one after another.

The poll loop takes the number of polls it makes: an endless loop that is cut somewhere
is a loop of some length that is cut there.
-/
import SafeAgent.Recovery

open PyText

/-- `--start-at` -/
inductive StartAt
  | latest
  | zero
  | saved
  deriving DecidableEq

/-- The sender flags of `run`. -/
inductive SenderFlags
  | legacy (allowDid : List PyStr) (allowAnySigned : Bool)
  | capabilityPolicy

variable [Platform]

/-- The identity that both commands load. -/
structure Identity where
  did : PyStr
  privateKey : Platform.PrivateKey

omit [Platform] in
/-- The arguments of `run --send`. -/
structure RunArgs where
  room : PyStr
  client : TechnocoreClient
  senders : SenderFlags
  startAt : StartAt
  once : Bool
  wait : Option ℚ
  limit : ℕ

omit [Platform] in
/-- The arguments of `recover-delivery`. -/
structure RecoverArgs where
  room : PyStr
  client : TechnocoreClient
  apply : Bool
  confirmRetry : Bool

namespace Cli

open Agent SafeResponder

omit [Platform] in
/-- `frozenset(validate_did(did) for did in args.allow_did)` -/
def validateDids : List PyStr → PyResult (List PyStr)
  | [] => .ok []
  | did :: rest => do
      let valid ← Crypto.validateDid did
      let others ← validateDids rest
      return valid :: others

/-- `_command_policy` of a live process. -/
def commandPolicy (ownDid : PyStr) (flags : SenderFlags) : Agent CommandPolicy :=
  match flags with
  | .capabilityPolicy => do
      let _ ← Capabilities.loadPolicy
      return { ownDid, mode := .capability true }
  | .legacy allowDid allowAnySigned => do
      let allowed ← Proc.ofExcept (validateDids allowDid)
      if allowed = [] ∧ ¬allowAnySigned then
        throw (Protocol.protocolValueError
          "--send requires --capability-policy, at least one --allow-did, or the explicit --allow-any-signed flag")
      else return { ownDid, mode := .legacy allowed allowAnySigned }

/-- `_live_artifacts` -/
def liveArtifacts (did : PyStr) : Agent Unit := do
  DeliveryJournal.requireEmpty
  let present : Bool ← perform .auditExists
  if present then
    let summary ← Audit.verify
    if summary.issuer.any (· != did) then
      throw (auditError "audit log belongs to a different agent DID")
    else pure ()
  else pure ()

/-- `_initialize_cursor`: whether the process is done. -/
def initializeCursor (r : SafeResponder) (args : RunArgs) : Agent Bool := do
  let s ← get
  match s.cursors.get? args.room, args.startAt with
  | some _, _ => return false
  | none, .saved =>
      throw (AgentState.stateError
        "no saved cursor exists for this room; choose --start-at latest or --start-at zero")
  | none, .latest => do
      let event ← bootstrapLatest r
      perform (.printEvent event)
      return args.once
  | none, .zero => return false

omit [Platform] in
/-- `for event in ...: _print_event(event)` -/
def printEvents : List Event → Agent Unit
  | [] => pure ()
  | event :: rest => do
      perform (.printEvent event)
      printEvents rest

/-- One pass of the loop of `_poll`. -/
def pollOnce (r : SafeResponder) (args : RunArgs) (cacheBuster : ℕ) : Agent Unit :=
  tryCatch (do
    let s ← get
    let requested := s.cursorFor args.room
    let snapshot ← readRoom r.client args.room requested (if args.once then some 0 else args.wait)
      args.limit cacheBuster
    if snapshot.lastSeq < requested then
      throw (Protocol.responseError
        "room checkpoint is behind the saved cursor; refusing automatic rewind; inspect the deployment and saved state before resuming")
    else do
      let events ← processSnapshot r snapshot
      printEvents events) fun e =>
    if e.isa .transportError && !args.once then
      perform (.printEvent (.readRetry args.room e.retryAfter e.status))
    else throw e

/-- `_poll`, for a number of passes. -/
def poll (r : SafeResponder) (args : RunArgs) : ℕ → ℕ → Agent Unit
  | 0, _ => pure ()
  | passes + 1, cacheBuster => do
      pollOnce r args cacheBuster
      if args.once then pure () else poll r args passes (cacheBuster + 1)

/-- The responder of a live process. -/
def liveResponder (identity : Identity) (args : RunArgs) (policy : CommandPolicy) : SafeResponder :=
  { room := args.room, did := identity.did, privateKey := identity.privateKey,
    client := args.client, policy, receiptService := true, deliveryJournal := true,
    auditLog := true, send := true }

/-- `run --send`, for a number of polls. -/
def runLive (identity : Identity) (args : RunArgs) (polls : ℕ) : Agent Unit := do
  perform .startProcess
  let loaded ← loadState
  set loaded
  let policy ← commandPolicy identity.did args.senders
  liveArtifacts identity.did
  let r := liveResponder identity args policy
  let done ← initializeCursor r args
  if done then pure () else poll r args polls 1

/-- `recover-delivery` -/
def recoverLive (did : PyStr) (args : RecoverArgs) : Agent RecoveryReport := do
  perform .startProcess
  let loaded ← loadState
  set loaded
  Recovery.recoverDelivery args.room did args.client args.apply args.confirmRetry

end Cli
