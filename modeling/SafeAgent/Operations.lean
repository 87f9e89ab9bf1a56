/-
# Operations of a process

Everything a live process does outside its own memory, one constructor for each call
that can fail or be cut on its own.  A JSON file is held as the document its text
decodes to; a write goes to a temporary file first and one rename puts it in place.

`startProcess` and `handling` do nothing outside the model: they keep the history that
statements about handled messages speak of.

* `writeDoc`, `loadState`, `saveState` : the atomic write, and the state file;
* `readRoom`, `sendSignedMessage`      : the two requests;
* `OnlyFiles`                          : the parts that touch the two files only.
-/
import SafeAgent.AgentState
import SafeAgent.Events
import SafeAgent.Process

open PyText

/-- The two JSON files that live processes share. -/
inductive DocFile
  | state
  | journal
  deriving DecidableEq, Repr

/-- What `fstat` shows of a file. -/
structure FileMeta where
  regular : Bool
  mode : ℕ
  owned : Bool

/-- The number of days of a month. -/
def daysInMonth (year month : ℕ) : ℕ :=
  if month = 2 then
    if year % 4 = 0 ∧ (year % 100 ≠ 0 ∨ year % 400 = 0) then 29 else 28
  else if month = 4 ∨ month = 6 ∨ month = 9 ∨ month = 11 then 30
  else 31

/-- A `datetime` in UTC, to the second. -/
structure UtcTime where
  year : ℕ
  month : ℕ
  day : ℕ
  hour : ℕ
  minute : ℕ
  second : ℕ
  year_ok : 1 ≤ year ∧ year ≤ 9999
  month_ok : 1 ≤ month ∧ month ≤ 12
  day_ok : 1 ≤ day ∧ day ≤ daysInMonth year month
  time_ok : hour < 24 ∧ minute < 60 ∧ second < 60

/-- An operation. -/
inductive Op
  /-- `path.parent.mkdir(parents=True, exist_ok=True)` -/
  | mkdirParent (f : DocFile)
  /-- `path.exists()` -/
  | docExists (f : DocFile)
  /-- `path.stat().st_mode` -/
  | docMode (f : DocFile)
  /-- `json.loads(path.read_text(encoding="utf-8"))` -/
  | readDoc (f : DocFile)
  /-- `tempfile.mkstemp(...)` beside the file. -/
  | makeTemporary (f : DocFile)
  /-- `os.fchmod`, the write, `flush` and `os.fsync` of the temporary file. -/
  | writeTemporary (f : DocFile) (doc : Json)
  /-- `os.replace(temporary_name, path)`, with the document just written. -/
  | replaceDoc (f : DocFile) (doc : Json)
  /-- `os.chmod(path, 0o600)` -/
  | chmodDoc (f : DocFile)
  /-- `os.fsync` of the directory. -/
  | syncDir (f : DocFile)
  /-- `os.unlink(temporary_name)` -/
  | unlinkTemporary (f : DocFile)
  /-- `path.unlink()` -/
  | unlinkDoc (f : DocFile)
  /-- `self.path.parent.mkdir(...)` of the audit log. -/
  | auditMkdir
  /-- `self.path.exists()` of the audit log. -/
  | auditExists
  /-- `os.open` and `os.fstat`; opening for writing creates the file. -/
  | auditOpen (write : Bool)
  /-- `fcntl.flock` -/
  | auditLock (write : Bool)
  /-- The reads of `_read_bounded`. -/
  | auditRead
  /-- One `os.write`; the answer is how many octets were written. -/
  | auditWrite (data : Bytes)
  /-- `os.fsync(descriptor)` -/
  | auditSync
  /-- `fcntl.flock(descriptor, fcntl.LOCK_UN)` and `os.close(descriptor)` -/
  | auditClose
  /-- `os.fsync` of the audit directory. -/
  | auditSyncDir
  /-- `os.open` and `os.fstat` of the capability file. -/
  | policyOpen
  /-- The reads of the capability file's `_read_bounded`. -/
  | policyRead
  /-- One HTTP exchange. -/
  | http (request : HttpRequest)
  /-- `ReceiptIssuer.issue(pull_request)` -/
  | issueReceipt (url : PyStr)
  /-- `time.time_ns()` -/
  | timeNs
  /-- `int(self.clock())`, or nothing where the reading is not a finite number `>= 0`. -/
  | rateClock
  /-- `datetime.now(UTC)`, by a clock that shows a year of four digits. -/
  | utcNow
  /-- `print` -/
  | printEvent (event : Event)
  /-- History: a process starts. -/
  | startProcess
  /-- History: `_event_for_message` has returned this event. -/
  | handling (event : MessageEvent)

namespace Op

/-- The answer of an operation that does not raise. -/
@[reducible] def Val : Op → Type
  | .docExists _ => Bool
  | .docMode _ => ℕ
  | .readDoc _ => Json
  | .auditExists => Bool
  | .auditOpen _ => FileMeta
  | .auditRead => Bytes
  | .auditWrite _ => ℕ
  | .policyOpen => FileMeta
  | .policyRead => Bytes
  | .http _ => HttpResponse
  | .issueReceipt _ => PyStr
  | .timeNs => ℤ
  | .rateClock => Option ℕ
  | .utcNow => { t : UtcTime // 1000 ≤ t.year }
  | _ => Unit

end Op

/-- A process of the agent: its memory is the `AgentState` object. -/
abbrev Agent (α : Type) := Proc Op Op.Val PyErr AgentState α

namespace Agent

/-- Perform an operation. -/
abbrev perform (o : Op) : Agent o.Val := Proc.call o

/-- `except OSError as error: raise wrap(error) from error` -/
def exceptOSError {α : Type} (wrap : PyErr → PyErr) (body : Agent α) : Agent α :=
  tryCatch body fun e => if e.isa .osError then throw (wrap e) else throw e

/-- `except (OSError, json.JSONDecodeError) as error: raise wrap(error) from error` -/
def exceptReadError {α : Type} (wrap : PyErr → PyErr) (body : Agent α) : Agent α :=
  tryCatch body fun e =>
    if e.isa .osError || e.isa .jsonDecodeError then throw (wrap e) else throw e

/-- The `finally` clause that removes a temporary file which is still there. -/
def removingTemporary (f : DocFile) (body : Agent Unit) : Agent Unit :=
  tryCatch body fun e => do
    tryCatch (perform (.unlinkTemporary f)) fun e' =>
      if e'.isa .fileNotFoundError then pure () else throw e'
    throw e

/-- The atomic write of `AgentState.save` and `DeliveryJournal._write`: a temporary file
is written and synced, then renamed; `settle` is what follows the rename. -/
def writeDoc (f : DocFile) (doc : Json) (wrap : PyErr → PyErr) (settle : Agent Unit) :
    Agent Unit := do
  perform (.mkdirParent f)
  exceptOSError wrap (perform (.makeTemporary f))
  removingTemporary f (exceptOSError wrap
    (if Json.intsFit doc then do
      perform (.writeTemporary f doc)
      perform (.replaceDoc f doc)
    else throw Json.intTooLong))
  exceptOSError wrap settle

/-! ## The state file -/

/-- `AgentState.load` -/
def loadState : Agent AgentState := do
  let present : Bool ← perform (.docExists .state)
  if present then
    let payload : Json ← exceptReadError
      (fun e => AgentState.stateError ("cannot read state file: " ++ e.message))
      (perform (.readDoc .state))
    Proc.ofExcept (AgentState.fromPayload payload)
  else pure {}

/-- `AgentState.save` of the object in memory. -/
def saveState : Agent Unit := do
  let s ← get
  writeDoc .state s.toPayload
    (fun e => AgentState.stateError ("cannot write state file: " ++ e.message))
    (perform (.chmodDoc .state))

/-! ## HTTP -/

variable [Platform]

/-- `_request_json` -/
def requestJson (request : HttpRequest) : Agent JsonFields := do
  let outcome : HttpOutcome ←
    tryCatch (do let response : HttpResponse ← perform (.http request); pure (.ok response))
      fun e => pure (.error e)
  Proc.ofExcept (Protocol.requestJson outcome)

/-- `TechnocoreClient.read_room` -/
def readRoom (client : TechnocoreClient) (room : PyStr) (since : ℕ) (wait : Option ℚ)
    (limit cacheBuster : ℕ) : Agent RoomSnapshot := do
  let request ← Proc.ofExcept (client.readRequest room since wait limit cacheBuster)
  let payload ← requestJson request
  Proc.ofExcept (Protocol.parseSnapshot payload room)

/-- `TechnocoreClient.send_signed_message` -/
def sendSignedMessage (client : TechnocoreClient) (room : PyStr) (envelope : Envelope)
    (inReplyTo : ℕ) : Agent RoomMessage := do
  let request ← Proc.ofExcept (client.sayRequest room envelope inReplyTo)
  let payload ← requestJson request
  Proc.ofExcept (TechnocoreClient.checkPosted room envelope payload)

end Agent

/-! ## What a part can perform -/

/-- An operation on one of the two files. -/
def Op.OnFiles : Op → Prop
  | .mkdirParent _ => True
  | .docExists _ => True
  | .docMode _ => True
  | .readDoc _ => True
  | .makeTemporary _ => True
  | .writeTemporary _ _ => True
  | .replaceDoc _ _ => True
  | .chmodDoc _ => True
  | .syncDir _ => True
  | .unlinkTemporary _ => True
  | .unlinkDoc _ => True
  | _ => False

/-- A request to post. -/
def Op.Posts : Op → Prop
  | .http (.saySigned _ _ _ _) => True
  | _ => False

theorem Op.OnFiles.not_posts {o : Op} (h : o.OnFiles) : ¬o.Posts := by
  cases o with
  | http request => exact h.elim
  | _ => exact fun hposts => hposts

section OnFiles

open Agent Proc

/-- Only the two files are touched; the memory may change. -/
abbrev OnlyFiles {α : Type} (m : Agent α) (s : AgentState) : Prop :=
  Only Op.OnFiles (fun _ => True) m s

variable {s : AgentState}

theorem only_exceptOSError {α : Type} {wrap : PyErr → PyErr} {m : Agent α}
    (hm : OnlyFiles m s) : OnlyFiles (exceptOSError wrap m) s := by
  refine only_tryCatch hm ?_
  intro e s' hs'
  split_ifs
  · exact only_throw hs'
  · exact only_throw hs'

theorem only_exceptReadError {α : Type} {wrap : PyErr → PyErr} {m : Agent α}
    (hm : OnlyFiles m s) : OnlyFiles (exceptReadError wrap m) s := by
  refine only_tryCatch hm ?_
  intro e s' hs'
  split_ifs
  · exact only_throw hs'
  · exact only_throw hs'

theorem only_writeDoc {f : DocFile} {doc : Json} {wrap : PyErr → PyErr} {settle : Agent Unit}
    (hsettle : ∀ s, OnlyFiles settle s) : OnlyFiles (writeDoc f doc wrap settle) s := by
  unfold writeDoc removingTemporary
  refine only_bind (only_call trivial trivial) ?_
  intro _ s₁ _
  refine only_bind (only_exceptOSError (only_call trivial trivial)) ?_
  intro _ s₂ _
  refine only_bind (only_tryCatch (only_exceptOSError ?_) ?_) ?_
  · split_ifs
    · exact only_bind (only_call trivial trivial) fun _ _ _ => only_call trivial trivial
    · exact only_throw trivial
  · intro e s₃ _
    refine only_bind (only_tryCatch (only_call trivial trivial) ?_) fun _ _ _ => only_throw trivial
    intro e' s₄ _
    split_ifs
    · exact only_pure trivial
    · exact only_throw trivial
  · exact fun _ s₃ _ => only_exceptOSError (hsettle s₃)

theorem only_saveState : OnlyFiles saveState s :=
  only_get_bind (only_writeDoc fun _ => only_call trivial trivial)

theorem only_loadState : OnlyFiles loadState s := by
  unfold loadState
  refine only_bind (only_call trivial trivial) ?_
  intro present s₁ _
  cases present with
  | true =>
      exact only_bind (only_exceptReadError (only_call trivial trivial)) fun _ _ _ =>
        only_ofExcept trivial
  | false => exact only_pure trivial

/-- A room is read without posting to it. -/
theorem only_readRoom [Platform] {client : TechnocoreClient} {room : PyStr} {since : ℕ} {wait : Option ℚ}
    {limit cacheBuster : ℕ} :
    Only (fun o => ¬o.Posts) (fun _ => True) (readRoom client room since wait limit cacheBuster) s := by
  unfold readRoom
  cases hrequest : client.readRequest room since wait limit cacheBuster with
  | error e => trivial
  | ok request =>
      show Only _ _ (requestJson request >>= fun payload =>
        Proc.ofExcept (Protocol.parseSnapshot payload room)) s
      obtain ⟨selectedWait, -, rfl⟩ := TechnocoreClient.readRequest_ok hrequest
      refine only_bind (only_bind (only_tryCatch ?_ fun _ _ _ => only_pure trivial)
        fun _ _ _ => only_ofExcept trivial) fun _ _ _ => only_ofExcept trivial
      exact only_bind (only_call (fun hposts => hposts) trivial) fun _ _ _ => only_pure trivial

end OnFiles
