/-
# Producing work receipts (`work_receipt.py`, `work_output.py`)

`create_work_receipt` runs a command in a clean checkout and signs what it observed;
`countersign_work_receipt` runs it again elsewhere and signs that the observation was the
same.  Git, the command, the clocks and the file system answer as they like.

* `WorkOp`                  : every call that leaves the process;
* `inspectCheckout`         : the checkout is clean and has a canonical origin;
* `execute`                 : one run of the command, with its output hashed;
* `createWorkReceipt`       : a new envelope, optionally with its output kept;
* `rerun`                   : the command once more, for a receipt that was checked;
* `countersignWorkReceipt`  : an envelope with one countersignature more.
-/
import Mathlib.Data.Int.Log
import SafeAgent.WorkReceipt
import SafeAgent.Process

open PyText

/-- The two outputs of a command. -/
inductive OutputStream
  | stdout
  | stderr
  deriving DecidableEq, Repr

/-- What `stat` shows of the parent of an output directory. -/
structure DirectoryMeta where
  mode : ℕ
  owned : Bool

/-- An operation of `work_receipt.py` or `work_output.py`. -/
inductive WorkOp
  /-- `path.expanduser()` -/
  | expandUser (path : PyStr)
  /-- `path.resolve()` -/
  | resolve (path : PyStr)
  /-- `subprocess.run(["git", "-C", str(root), *arguments], check=True, ...).stdout` -/
  | git (root : PyStr) (arguments : List PyStr)
  /-- `clock()` -/
  | clock
  /-- `started = monotonic()` -/
  | startTimer
  /-- `round((monotonic() - started) * 1000)` -/
  | elapsedMs
  /-- Two times `tempfile.TemporaryFile()`. -/
  | openOutputs
  /-- The end of the `with` block of the two files. -/
  | closeOutputs
  /-- `subprocess.Popen(argv, cwd=cwd, ...)`, with its process id. -/
  | popen (argv : List PyStr) (cwd : PyStr)
  /-- `process.wait(timeout=timeout_ms / 1000)`, or without a timeout. -/
  | wait (pid : ℕ) (timeoutMs : Option ℕ)
  /-- `os.killpg(process.pid, signal.SIGKILL)` -/
  | killpg (pid : ℕ)
  /-- Seeking to the start of an output and reading it to its end. -/
  | readOutput (stream : OutputStream)
  /-- `os.name == "posix"` -/
  | isPosix
  /-- `path.parent.resolve(strict=True)` -/
  | strictParent (path : PyStr)
  /-- `parent.stat()` -/
  | statParent (parent : PyStr)
  /-- `path.mkdir(mode=0o700)` -/
  | mkdir (path : PyStr)
  /-- `path.chmod(0o700)` -/
  | chmod (path : PyStr)
  /-- `path.rmdir()` -/
  | rmdir (path : PyStr)
  /-- `shutil.rmtree(path)` -/
  | rmtree (path : PyStr)
  /-- `os.open(path, os.O_WRONLY | os.O_CREAT | os.O_EXCL, 0o600)` -/
  | createFile (path : PyStr)
  /-- `os.fchmod(fd, 0o600)` and `os.fdopen(fd, "wb")` -/
  | secureFile (path : PyStr)
  /-- `target.write(data)` -/
  | writeFile (path : PyStr) (data : Bytes)
  /-- `target.flush()` and `os.fsync(target.fileno())` -/
  | syncFile (path : PyStr)
  /-- Closing the file. -/
  | closeFile (path : PyStr)
  /-- Opening a kept output and reading it to its end. -/
  | readFile (path : PyStr)
  /-- `_sync_directory` -/
  | syncDirectory (path : PyStr)
  /-- `os.link(source, target)` -/
  | link (source target : PyStr)
  /-- `path.unlink()` -/
  | unlink (path : PyStr)

namespace WorkOp

/-- The answer of an operation that does not raise. -/
@[reducible] def Val : WorkOp → Type
  | .expandUser _ => PyStr
  | .resolve _ => PyStr
  | .git _ _ => PyStr
  | .clock => ObservedAt
  | .elapsedMs => ℤ
  | .popen _ _ => ℕ
  | .wait _ _ => ℤ
  | .readOutput _ => Bytes
  | .isPosix => Bool
  | .strictParent _ => PyStr
  | .statParent _ => DirectoryMeta
  | .readFile _ => Bytes
  | _ => Unit

end WorkOp

/-- A process of the work receipt commands: its memory is the `complete` of its
`OutputBundle`. -/
abbrev WorkProc (α : Type) := Proc WorkOp WorkOp.Val PyErr Bool α

namespace WorkReceipt

open Json PyItems Receipt

/-- Perform an operation. -/
abbrev perform (o : WorkOp) : WorkProc o.Val := Proc.call o

/-- `except cls as error: raise wrap(error) from error` -/
def exceptClass {α : Type} (cls : ErrClass) (wrap : PyErr → PyErr) (body : WorkProc α) :
    WorkProc α :=
  tryCatch body fun e => if e.isa cls then throw (wrap e) else throw e

/-- `with` a resource that `close` releases, however `body` ends. -/
def closing {α : Type} (close : WorkProc Unit) (body : WorkProc α) : WorkProc α := do
  let a ← tryCatch body fun e => do
    close
    throw e
  close
  return a

/-! ## The checkout -/

/-- `_Checkout` -/
structure Checkout where
  root : PyStr
  repository : PyStr
  commit : PyStr

/-- `_git` -/
def git (root : PyStr) (arguments : List PyStr) : WorkProc PyStr := do
  let stdout : PyStr ← tryCatch (perform (.git root arguments)) fun e =>
    if e.isa .fileNotFoundError then
      throw (workReceiptError "git is required to inspect the checkout")
    else if e.isa .timeoutExpired then
      throw (workReceiptError "git checkout inspection timed out")
    else if e.isa .calledProcessError then
      -- the message of the exception stands for its `stderr`
      let detail := strip (py e.message)
      throw (workReceiptError ("cannot inspect Git checkout: " ++
        if detail = [] then "git command failed" else String.ofList (detail.map Char.ofNat)))
    else throw e
  return strip stdout

/-- The path of a remote, where its form is one of the three known ones. -/
def remotePath [Platform] (value : PyStr) : PyResult PyStr :=
  if startsWith (py "git@github.com:") value then
    .ok (removePrefix (py "git@github.com:") value)
  else if startsWith (py "ssh://git@github.com/") value then
    .ok (removePrefix (py "ssh://git@github.com/") value)
  else do
    let parsed ← Url.urlsplit value
    if parsed.scheme ≠ py "https" ∨ parsed.netloc ≠ py "github.com" ∨ parsed.query ≠ [] ∨
        parsed.fragment ≠ [] then
      .error (workReceiptError "origin must be a canonical github.com repository URL")
    else .ok (removePrefix (py "/") parsed.path)

/-- `_repository_from_remote` -/
def repositoryFromRemote [Platform] (remote : PyStr) : PyResult PyStr := do
  let path ← remotePath (strip remote)
  let path := if endsWith (py ".git") path then path.take (path.length - 4) else path
  if path.count 47 ≠ 1 ∨ endsWith (py "/") path then
    .error (workReceiptError "origin must identify exactly one GitHub repository")
  else validateRepository (.str path)

/-- `_inspect_checkout` -/
def inspectCheckout [Platform] (repository : PyStr) (expectedCommit : Option PyStr) :
    WorkProc Checkout := do
  let expanded : PyStr ← perform (.expandUser repository)
  let selected : PyStr ← perform (.resolve expanded)
  let rootText ← git selected [py "rev-parse", py "--show-toplevel"]
  let root : PyStr ← perform (.resolve rootText)
  let status ← git root [py "status", py "--porcelain", py "--untracked-files=all"]
  if status ≠ [] then throw (workReceiptError "work receipts require a clean checkout")
  else
    let commit ← git root [py "rev-parse", py "--verify", py "HEAD^\x7bcommit\x7d"]
    if ¬isSha commit then throw (workReceiptError "git returned an invalid commit SHA")
    else if expectedCommit.any (· ≠ commit) then
      throw (workReceiptError "checkout is at a different commit than the receipt")
    else
      let remote ← git root [py "remote", py "get-url", py "origin"]
      let name ← Proc.ofExcept (repositoryFromRemote remote)
      return { root, repository := name, commit }

/-! ## Timeouts -/

/-- `round(x)`: to the nearest integer, and to the even one of two. -/
def roundHalfEven (q : ℚ) : ℤ :=
  let rest := q - ⌊q⌋
  if rest < 1 / 2 then ⌊q⌋
  else if 1 / 2 < rest then ⌊q⌋ + 1
  else if ⌊q⌋ % 2 = 0 then ⌊q⌋ else ⌊q⌋ + 1

/-- The `float` nearest to a positive number, in the range where none is subnormal. -/
def nearestFloat (q : ℚ) : ℚ :=
  let unit : ℚ := 2 ^ (Int.log 2 q - 52)
  roundHalfEven (q / unit) * unit

/-- The `float` that `0.001` stands for. -/
def oneMillisecond : ℚ := 1152921504606847 / 1152921504606846976

/-- `_timeout_milliseconds` of a number; nothing stands for a `bool`, for what is no number,
and for a number that is not finite. -/
def timeoutMilliseconds (timeout : Option ℚ) : PyResult ℕ :=
  match timeout.filter fun seconds => oneMillisecond ≤ seconds ∧ seconds ≤ 3600 with
  | none => .error (workReceiptError "timeout must be between 0.001 and 3600 seconds")
  | some seconds => .ok (max 1 (roundHalfEven (nearestFloat (seconds * 1000))).toNat)

/-! ## One execution -/

/-- `_Execution` -/
structure Execution where
  result : PyStr
  exitCode : Option ℤ
  stdoutSha256 : PyStr
  stdoutBytes : ℕ
  stderrSha256 : PyStr
  stderrBytes : ℕ
  startedAt : PyStr
  completedAt : PyStr
  durationMs : ℕ

/-- `_format_timestamp` -/
def formatTimestamp [Platform] (value : ObservedAt) : PyResult PyStr :=
  match value with
  | .naive => .error (workReceiptError "work receipt clock must be timezone-aware")
  | _ => Audit.formatTimestamp value

/-- `_hash_file` of a file with this content. -/
def hashFile (content : Bytes) (label : String) : PyResult (PyStr × ℕ) :=
  if maxOutputBytes < content.length then
    .error (workReceiptError (label ++ " exceeds the work receipt output limit"))
  else .ok (Sha256.sha256Hex content, content.length)

/-- The group of the command is killed, unless it has gone. -/
def killGroup (pid : ℕ) : WorkProc Unit :=
  tryCatch (perform (.killpg pid)) fun e =>
    if e.isa .processLookupError then pure () else throw e

/-- The command, up to its return code; nothing when it was killed after its timeout. -/
def runCommand (argv : List PyStr) (cwd : PyStr) (timeoutMs : ℕ) : WorkProc (Option ℤ) := do
  let pid : ℕ ← exceptClass .osError
    (fun e => workReceiptError ("cannot start work command: " ++ e.message))
    (perform (.popen argv cwd))
  let finished : WorkProc (Option ℤ) := do
    let code : ℤ ← perform (.wait pid (some timeoutMs))
    return some code
  tryCatch finished fun e => do
    killGroup pid
    let _ : ℤ ← perform (.wait pid none)
    if e.isa .timeoutExpired then pure none else throw e

/-- `_execute` -/
def execute [Platform] (checkout : Checkout) (command : Json) (timeoutMs : ℕ)
    (capture : Option (WorkProc Unit)) : WorkProc Execution := do
  let argv ← Proc.ofExcept (validateCommand command)
  let startClock : ObservedAt ← perform .clock
  let startedAt ← Proc.ofExcept (formatTimestamp startClock)
  perform .startTimer
  perform .openOutputs
  closing (perform .closeOutputs) do
    let returned ← runCommand argv checkout.root timeoutMs
    let elapsed : ℤ ← perform .elapsedMs
    let endClock : ObservedAt ← perform .clock
    let completedAt ← Proc.ofExcept (formatTimestamp endClock)
    let stdout : Bytes ← perform (.readOutput .stdout)
    let hashedOut ← Proc.ofExcept (hashFile stdout "stdout")
    let stderr : Bytes ← perform (.readOutput .stderr)
    let hashedErr ← Proc.ofExcept (hashFile stderr "stderr")
    capture.getD (pure ())
    return {
      result := match returned with
        | none => py "timed_out"
        | some code => if code = 0 then py "passed" else py "failed"
      exitCode := returned
      stdoutSha256 := hashedOut.1
      stdoutBytes := hashedOut.2
      stderrSha256 := hashedErr.1
      stderrBytes := hashedErr.2
      startedAt, completedAt
      durationMs := elapsed.toNat }

/-! ## Kept output -/

/-- The last component of a path. -/
def pathName (path : PyStr) : PyStr :=
  let name := (path.reverse.takeWhile (· ≠ 47)).reverse
  if name = py "." then [] else name

/-- `parent / name` -/
def pathJoin (parent name : PyStr) : PyStr :=
  if endsWith (py "/") parent then parent ++ name else parent ++ 47 :: name

/-- `path.is_relative_to(base)` -/
def isRelativeTo (path base : PyStr) : Bool :=
  path == base || startsWith (pathJoin base []) path

/-- `OutputBundle.__init__`, with the path of the bundle. -/
def openBundle (destination checkout : PyStr) : WorkProc PyStr := do
  let posix : Bool ← perform .isPosix
  if ¬posix then throw (workReceiptError "private output bundles require POSIX permissions")
  else
    let selected : PyStr ← perform (.expandUser destination)
    let inaccessible (_ : PyErr) : PyErr :=
      workReceiptError "output parent must be an existing accessible directory"
    let parent : PyStr ← exceptClass .osError inaccessible (perform (.strictParent selected))
    let info : DirectoryMeta ← exceptClass .osError inaccessible (perform (.statParent parent))
    let path := pathJoin parent (pathName selected)
    if pathName selected = [] ∨ isRelativeTo path checkout then
      throw (workReceiptError "output directory must be outside the checkout")
    else if ¬info.owned ∨ info.mode &&& 0o022 ≠ 0 then
      throw (workReceiptError "output parent must be owned by you and not writable by others")
    else
      set false
      return path

/-- `OutputBundle.__enter__` -/
def enterBundle (path : PyStr) : WorkProc Unit := do
  exceptClass .osError (fun _ => workReceiptError "output directory must be new and writable")
    (perform (.mkdir path))
  tryCatch (perform (.chmod path)) fun e =>
    if e.isa .osError then do
      perform (.rmdir path)
      throw (workReceiptError "cannot secure output directory permissions")
    else throw e

/-- `OutputBundle.__exit__` -/
def exitBundle (path : PyStr) : WorkProc Unit := do
  let complete ← get
  if complete then pure ()
  else
    exceptClass .osError
      (fun _ => workReceiptError
        "incomplete output bundle remains; inspect the chosen directory manually")
      (perform (.rmtree path))

/-- `_open_new` with the `with` block around `body`. -/
def withNewFile (path : PyStr) (body : WorkProc Unit) : WorkProc Unit := do
  perform (.createFile path)
  tryCatch (perform (.secureFile path)) fun e => do
    perform (.closeFile path)
    throw e
  closing (perform (.closeFile path)) body

/-- The loop of `capture` over the chunks of one output, of which `size` octets came before. -/
def copyChunks (path : PyStr) : ℕ → List Bytes → WorkProc Unit
  | _, [] => pure ()
  | size, chunk :: rest =>
      if maxOutputBytes < size + chunk.length then
        throw (workReceiptError "captured output exceeds the receipt limit")
      else do
        perform (.writeFile path chunk)
        copyChunks path (size + chunk.length) rest

/-- The file of a bundle that keeps an output. -/
def outputFile (path : PyStr) : OutputStream → PyStr
  | .stdout => pathJoin path (py "stdout.bin")
  | .stderr => pathJoin path (py "stderr.bin")

/-- One round of `OutputBundle.capture`. -/
def captureStream (path : PyStr) (stream : OutputStream) : WorkProc Unit := do
  let content : Bytes ← perform (.readOutput stream)
  withNewFile (outputFile path stream) do
    copyChunks (outputFile path stream) 0 (content.toChunks (64 * 1024))
    perform (.syncFile (outputFile path stream))

/-- `OutputBundle.capture` -/
def capture (path : PyStr) : WorkProc Unit :=
  exceptClass .osError (fun _ => workReceiptError "cannot preserve work output") do
    captureStream path .stdout
    captureStream path .stderr

/-- The check of `OutputBundle.finish` on one kept output. -/
def checkKept (path : PyStr) (payload : JsonFields) (stream : OutputStream)
    (label : String) (hashKey sizeKey : PyStr) : WorkProc Unit := do
  let content : Bytes ← perform (.readFile (outputFile path stream))
  let hashed ← Proc.ofExcept (hashFile content label)
  if ¬(get payload hashKey).isStr hashed.1 ∨ (get payload sizeKey).asInt ≠ some (hashed.2 : ℤ) then
    throw (workReceiptError "preserved output does not match the same execution")
  else pure ()

/-- `OutputBundle.finish` -/
def finish [Platform] (path : PyStr) (payload envelope : JsonFields) : WorkProc Unit :=
  exceptClass .osError (fun _ => workReceiptError "cannot complete work output bundle") do
    checkKept path payload .stdout "stdout" (py "stdout_sha256") (py "stdout_bytes")
    checkKept path payload .stderr "stderr" (py "stderr_sha256") (py "stderr_bytes")
    let pending := pathJoin path (py "receipt.pending")
    withNewFile pending do
      let rendered ← Proc.ofExcept (renderWorkReceipt (.value (.obj envelope)))
      perform (.writeFile pending (toAscii (rendered ++ [10])))
      perform (.syncFile pending)
    perform (.syncDirectory path)
    perform (.link pending (pathJoin path (py "receipt.json")))
    perform (.unlink pending)
    perform (.syncDirectory path)
    set true

/-! ## Creating and countersigning -/

/-- An exit code as JSON. -/
def exitCodeJson : Option ℤ → Json
  | none => .null
  | some code => .int code

/-- `_signed_wrapper` -/
def signedWrapper [Platform] (payload : JsonFields) (privateKey : Platform.PrivateKey) :
    PyResult JsonFields := do
  let canonical ← canonicalJson payload
  let signature ← Crypto.signDetached privateKey canonical
  return [(py "payload", .obj payload), (py "payload_sha256", .str (Sha256.sha256Hex canonical)),
    (py "signature", .str signature)]

/-- The checks of a caller: its DID is valid, and it is the DID of its key. -/
def checkCaller [Platform] (did : PyStr) (privateKey : Platform.PrivateKey)
    (invalid mismatch : String) : PyResult Unit := do
  let _ ← checkDid (.str did) invalid
  let keyDid ← Crypto.didFromPrivateKey privateKey
  if keyDid ≠ did then .error (workReceiptError mismatch) else .ok ()

/-- The payload of `create_work_receipt`. -/
def workPayload (issuerDid : PyStr) (checkout : Checkout) (argv : List PyStr) (timeoutMs : ℕ)
    (execution : Execution) : JsonFields :=
  [(py "schema", .str workReceiptSchema), (py "issuer", .str issuerDid),
    (py "repository", .str checkout.repository), (py "commit", .str checkout.commit),
    (py "command", .arr (argv.map .str)), (py "timeout_ms", .int timeoutMs),
    (py "result", .str execution.result), (py "exit_code", exitCodeJson execution.exitCode),
    (py "stdout_sha256", .str execution.stdoutSha256),
    (py "stdout_bytes", .int execution.stdoutBytes),
    (py "stderr_sha256", .str execution.stderrSha256),
    (py "stderr_bytes", .int execution.stderrBytes),
    (py "started_at", .str execution.startedAt), (py "completed_at", .str execution.completedAt),
    (py "duration_ms", .int execution.durationMs)]

/-- The envelope of a payload, once both were checked. -/
def newEnvelope [Platform] (payload : JsonFields) (privateKey : Platform.PrivateKey) :
    PyResult JsonFields := do
  validateWorkPayload payload
  let receipt ← signedWrapper payload privateKey
  let envelope : JsonFields :=
    [(py "schema", .str workReceiptEnvelopeSchema), (py "receipt", .obj receipt),
      (py "countersignatures", .arr [])]
  let _ ← verifyWorkReceipt (.value (.obj envelope))
  return envelope

/-- The command has run: the checkout is still the same. -/
def inspectAfter [Platform] (checkout : Checkout) : WorkProc Unit := do
  let after ← inspectCheckout checkout.root (some checkout.commit)
  if after.repository ≠ checkout.repository then
    throw (workReceiptError "checkout origin changed while the command was running")
  else pure ()

/-- The `with` block of `create_work_receipt`; `bundle` is where the output is kept. -/
def recordExecution [Platform] (checkout : Checkout) (command : Json) (issuerDid : PyStr)
    (privateKey : Platform.PrivateKey) (timeoutMs : ℕ) (bundle : Option PyStr) :
    WorkProc JsonFields := do
  let execution ← execute checkout command timeoutMs (bundle.map capture)
  inspectAfter checkout
  let argv ← Proc.ofExcept (validateCommand command)
  let payload := workPayload issuerDid checkout argv timeoutMs execution
  let envelope ← Proc.ofExcept (newEnvelope payload privateKey)
  match bundle with
  | none => pure envelope
  | some path => do
      finish path payload envelope
      return envelope

/-- `create_work_receipt` -/
def createWorkReceipt [Platform] (repository : PyStr) (command : Json) (issuerDid : PyStr)
    (privateKey : Platform.PrivateKey) (timeout : Option ℚ) (outputDirectory : Option PyStr) :
    WorkProc JsonFields := do
  Proc.ofExcept (checkCaller issuerDid privateKey "worker DID is invalid"
    "work receipt signing key does not match its issuer DID")
  let checkout ← inspectCheckout repository none
  let timeoutMs ← Proc.ofExcept (timeoutMilliseconds timeout)
  match outputDirectory with
  | none => recordExecution checkout command issuerDid privateKey timeoutMs none
  | some directory => do
      let path ← openBundle directory checkout.root
      enterBundle path
      closing (exitBundle path)
        (recordExecution checkout command issuerDid privateKey timeoutMs (some path))

/-- `execution.exit_code == exit_code`; the one `float` of a verified payload is a zero. -/
def sameExitCode (code : Option ℤ) (exitCode : Json) : Bool :=
  match exitCode with
  | .null => code == none
  | .int n => code == some n
  | .bool b => code == some (if b then 1 else 0)
  | .float _ => code == some 0 && equalsZero exitCode
  | _ => false

/-- `observed == _execution_claim(payload)`, where `observedClaim` differs from the claim at
most in what the execution observed. -/
def sameExecution (execution : Execution) (payload : JsonFields) : Bool :=
  (get payload (py "result")).isStr execution.result &&
    sameExitCode execution.exitCode (get payload (py "exit_code")) &&
    (get payload (py "stdout_sha256")).isStr execution.stdoutSha256 &&
    (get payload (py "stdout_bytes")).asInt == some (execution.stdoutBytes : ℤ) &&
    (get payload (py "stderr_sha256")).isStr execution.stderrSha256 &&
    (get payload (py "stderr_bytes")).asInt == some (execution.stderrBytes : ℤ)

/-- `item["payload"]["verifier"]` -/
def verifierOf (item : Json) : PyStr :=
  textOf (get (wrapperFields (get (wrapperFields item) (py "payload"))) (py "verifier"))

/-- The countersignatures of an envelope that was verified. -/
def countersignaturesOf (envelope : JsonFields) : List Json :=
  (get envelope (py "countersignatures")).asArr.getD []

/-- The envelope with one countersignature more, once it was checked. -/
def appendCountersignature [Platform] (summary : WorkReceiptSummary) (envelope : JsonFields)
    (verifierDid : PyStr) (privateKey : Platform.PrivateKey) (observedAt : ObservedAt) :
    PyResult JsonFields := do
  let executionHash ← executionSha256 summary.payload
  let timestamp ← formatTimestamp observedAt
  let counterPayload : JsonFields :=
    [(py "schema", .str workCountersignatureSchema), (py "verifier", .str verifierDid),
      (py "receipt_payload_sha256",
        get (wrapperFields (get envelope (py "receipt"))) (py "payload_sha256")),
      (py "execution_sha256", .str executionHash), (py "observed_at", .str timestamp)]
  let wrapper ← signedWrapper counterPayload privateKey
  let updated : JsonFields :=
    [(py "schema", .str workReceiptEnvelopeSchema), (py "receipt", get envelope (py "receipt")),
      (py "countersignatures", .arr (countersignaturesOf envelope ++ [.obj wrapper]))]
  let _ ← verifyWorkReceipt (.value (.obj updated))
  return updated

/-- A `timeout` that was given has to be the one of the receipt. -/
def checkTimeout (timeout : Option (Option ℚ)) (expectedTimeoutMs : ℕ) : PyResult Unit :=
  match timeout with
  | none => .ok ()
  | some seconds => do
      let timeoutMs ← timeoutMilliseconds seconds
      if timeoutMs ≠ expectedTimeoutMs then
        .error (workReceiptError "countersign timeout must match the original receipt")
      else .ok ()

/-- `observed`: the claim of a receipt, with what an execution observed in its place. -/
def observedClaim (execution : Execution) (payload : JsonFields) : JsonFields :=
  [(py "repository", get payload (py "repository")), (py "commit", get payload (py "commit")),
    (py "command", get payload (py "command")), (py "timeout_ms", get payload (py "timeout_ms")),
    (py "result", .str execution.result), (py "exit_code", exitCodeJson execution.exitCode),
    (py "stdout_sha256", .str execution.stdoutSha256),
    (py "stdout_bytes", .int execution.stdoutBytes),
    (py "stderr_sha256", .str execution.stderrSha256),
    (py "stderr_bytes", .int execution.stderrBytes)]

/-- What `countersign_work_receipt` does before it compares: the receipt and the caller are
checked, and the command runs again. -/
def rerun [Platform] (receipt : ReceiptInput) (repository verifierDid : PyStr)
    (privateKey : Platform.PrivateKey) (timeout : Option (Option ℚ)) :
    WorkProc (WorkReceiptSummary × JsonFields × Execution) := do
  let verified ← Proc.ofExcept (verifyAndDecode receipt)
  let summary := verified.1
  let envelope := verified.2
  Proc.ofExcept (checkCaller verifierDid privateKey "verifier DID is invalid"
    "work receipt signing key does not match its verifier DID")
  if (get summary.payload (py "issuer")).isStr verifierDid then
    throw (workReceiptError "countersignature requires a different identity")
  else if ((countersignaturesOf envelope).map verifierOf).contains verifierDid then
    throw (workReceiptError "this verifier already countersigned the receipt")
  else
    let expectedTimeoutMs := (Protocol.asNat (get summary.payload (py "timeout_ms"))).getD 0
    Proc.ofExcept (checkTimeout timeout expectedTimeoutMs)
    let checkout ← inspectCheckout repository (some (textOf (get summary.payload (py "commit"))))
    if ¬(get summary.payload (py "repository")).isStr checkout.repository then
      throw (workReceiptError "checkout repository does not match the receipt")
    else
      let execution ← execute checkout (get summary.payload (py "command")) expectedTimeoutMs none
      inspectAfter checkout
      return (summary, envelope, execution)

/-- `countersign_work_receipt`; `none` is a call without `timeout`, and `some none` one with
a `timeout` that is no finite number. -/
def countersignWorkReceipt [Platform] (receipt : ReceiptInput) (repository verifierDid : PyStr)
    (privateKey : Platform.PrivateKey) (timeout : Option (Option ℚ)) : WorkProc JsonFields := do
  let observed ← rerun receipt repository verifierDid privateKey timeout
  if ¬sameExecution observed.2.2 observed.1.payload then
    throw (workReceiptError "independent execution does not match the work receipt")
  else
    let observedAt : ObservedAt ← perform .clock
    Proc.ofExcept
      (appendCountersignature observed.1 observed.2.1 verifierDid privateKey observedAt)

end WorkReceipt
