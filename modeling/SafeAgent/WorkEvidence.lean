/-
# Work evidence (`work_evidence.py`)

`inspect_work_evidence` compares a receipt and two outputs with what an operator expects of them.
It reads the files that it is given, and nothing that they name.

* `readBounded`         : `_read_bounded`, with every call that it makes;
* `expectationOf`       : `_expectation`, once the file is read;
* `Expectation`         : the accepted expectation, with what was checked of it;
* `inspectWorkEvidence` : the report.
-/
import SafeAgent.WorkRuns
import SafeAgent.Utf8

open PyText

/-- What `lstat` and `fstat` show of a file. -/
structure FileStat where
  regular : Bool
  device : ℕ
  inode : ℕ
  size : ℕ
  modified : ℕ
  changed : ℕ
  deriving DecidableEq

/-- A call of the inspector; the calls on a descriptor name the file it was opened at. -/
inductive EvidenceOp
  /-- `path.lstat()` -/
  | lstat (path : PyStr)
  /-- `os.open(path, flags)` -/
  | openFile (path : PyStr)
  /-- `os.fstat(fd)` -/
  | fstat (path : PyStr)
  /-- `handle.read(count)` -/
  | read (path : PyStr) (count : ℕ)
  /-- `os.close(fd)`, and the end of `with os.fdopen(fd, "rb")`. -/
  | close (path : PyStr)

/-- What a call returns. -/
def EvidenceOp.Val : EvidenceOp → Type
  | .lstat _ => FileStat
  | .openFile _ => Unit
  | .fstat _ => FileStat
  | .read _ _ => Bytes
  | .close _ => Unit

/-- A program that inspects evidence. -/
abbrev EvidenceProc (α : Type) := Proc EvidenceOp EvidenceOp.Val PyErr Unit α

namespace WorkEvidence

open Json PyItems Receipt WorkReceipt

/-- Perform a call. -/
abbrev inspect (o : EvidenceOp) : EvidenceProc o.Val := Proc.call o

def lstat (path : PyStr) : EvidenceProc FileStat := inspect (.lstat path)

def openFile (path : PyStr) : EvidenceProc Unit := inspect (.openFile path)

def fstat (path : PyStr) : EvidenceProc FileStat := inspect (.fstat path)

def readFile (path : PyStr) (count : ℕ) : EvidenceProc Bytes := inspect (.read path count)

def closeFile (path : PyStr) : EvidenceProc Unit := inspect (.close path)

/-- `EvidenceInputError(code)` -/
def inputError (code : String) : PyErr := .of .evidenceInputError code

/-! ## Reading a file -/

/-- `except (OSError, ValueError) as error` of `_read_bounded`. -/
def orUnreadable {α : Type} (body : EvidenceProc α) : EvidenceProc α :=
  tryCatch body fun e =>
    if e.isa .evidenceInputError then throw e
    else if e.isa .osError || e.isa .valueError then throw (inputError "file_unreadable")
    else throw e

/-- `body`, with the file closed when it raises. -/
def closingOnError {α : Type} (path : PyStr) (body : EvidenceProc α) : EvidenceProc α :=
  tryCatch body fun e => do
    closeFile path
    throw e

/-- The checks of `_read_bounded` between `os.open` and `os.fdopen`. -/
def checkOpened (before opened : FileStat) (maximum : ℕ) : PyResult Unit :=
  if ¬opened.regular ∨ (before.device, before.inode) ≠ (opened.device, opened.inode) then
    .error (inputError "file_changed")
  else if maximum < opened.size then .error (inputError "file_too_large")
  else .ok ()

/-- The checks of `_read_bounded` after the file was closed. -/
def checkRead (opened after : FileStat) (data : Bytes) (maximum : ℕ) : PyResult Bytes :=
  if maximum < data.length then .error (inputError "file_too_large")
  else if (opened.size, opened.modified, opened.changed) ≠ (after.size, after.modified, after.changed) ∨
      data.length ≠ after.size then
    .error (inputError "file_changed")
  else .ok data

/-- `_read_bounded` -/
def readBounded (path : PyStr) (maximum : ℕ) : EvidenceProc Bytes := do
  let before ← orUnreadable (do
    let before ← lstat path
    if ¬before.regular then throw (inputError "regular_file_required")
    else do
      openFile path
      return before)
  let opened ← closingOnError path (orUnreadable (do
    let opened ← fstat path
    Proc.ofExcept (checkOpened before opened maximum)
    return opened))
  orUnreadable (do
    let found ← closingOnError path (do
      let data ← readFile path (maximum + 1)
      let after ← fstat path
      return (data, after))
    closeFile path
    Proc.ofExcept (checkRead opened found.2 found.1 maximum))

/-! ## JSON -/

/-- `raw.decode("utf-8")` -/
def decodeStrict (raw : Bytes) : Option PyStr := (decodeUtf8 raw).filter fun s => s.all isScalar

/-- The reader of `_strict_json`. -/
def strictReader [Platform] : JsonReader where
  depthLimit := Platform.recursionLimit
  floatRepr := Platform.floatRepr
  objectHook := rejectDuplicateKeys (.of .valueError "duplicate_key")

mutual

/-- Whether a value holds a `float` that was not written as a number. -/
def holdsConstant : Json → Bool
  | .float repr => repr ≠ []
  | .arr items => itemsHoldConstant items
  | .obj fields => fieldsHoldConstant fields
  | .null => false
  | .bool _ => false
  | .int _ => false
  | .str _ => false

def itemsHoldConstant : List Json → Bool
  | [] => false
  | v :: rest => holdsConstant v || itemsHoldConstant rest

def fieldsHoldConstant : JsonFields → Bool
  | [] => false
  | (_, v) :: rest => holdsConstant v || fieldsHoldConstant rest

end

/-- Whether `parse_constant` is called: the text is read again, with every number of `float`
written out as nothing, and `NaN` or `Infinity` is still there. -/
def callsParseConstant [Platform] (s : PyStr) : Bool :=
  match loadsStr { strictReader with floatRepr := fun _ => [] } s with
  | .ok v => holdsConstant v
  | .error _ => false

/-- `_strict_json` -/
def strictJson [Platform] (raw : Bytes) : PyResult JsonFields :=
  match decodeStrict raw with
  | none => .error (inputError "invalid_json")
  | some s =>
      if callsParseConstant s then .error (inputError "invalid_json")
      else
        match loadsStr strictReader s with
        | .error e =>
            if e.isa .valueError || e.isa .recursionError then .error (inputError "invalid_json")
            else .error e
        | .ok (.obj fields) => .ok fields
        | .ok _ => .error (inputError "object_required")

/-! ## The expectation -/

/-- The largest expectation file. -/
def maxExpectationBytes : ℕ := 32 * 1024

/-- `EXPECTATION_SCHEMA` -/
def expectationSchema : PyStr := py "work-evidence-expectation-v1"

/-- `COMPARISON_FIELDS` -/
def comparisonFields : List PyStr :=
  [py "repository", py "commit", py "command", py "timeout_ms", py "issuer"]

/-- The keys of an expectation. -/
def expectationKeys : List PyStr := py "schema" :: comparisonFields ++ [py "required_verifiers"]

def checkRepository (value : Json) : PyResult PyStr :=
  match value.asStr with
  | none => .error (inputError "invalid_repository")
  | some s =>
      match s.splitOn 47 with
      | [owner, name] =>
          if isOwner owner && validRepository name then .ok s
          else .error (inputError "invalid_repository")
      | _ => .error (inputError "invalid_repository")

def checkCommit (value : Json) : PyResult PyStr :=
  match value.asStr.filter isSha with
  | some s => .ok s
  | none => .error (inputError "invalid_commit")

def checkTimeoutMs (value : Json) : PyResult ℕ :=
  match value.asInt with
  | some n => if 1 ≤ n ∧ n ≤ 3600000 then .ok n.toNat else .error (inputError "invalid_timeout")
  | none => .error (inputError "invalid_timeout")

/-- The loop over the command: its arguments, and their size in octets. -/
def checkArguments : Bool → List Json → PyResult (List PyStr × ℕ)
  | _, [] => .ok ([], 0)
  | first, argument :: rest =>
      match argument.asStr.filter fun s => !s.contains 0 with
      | none => .error (inputError "invalid_command")
      | some s =>
          match encodeUtf8 s with
          | none => .error (inputError "invalid_command")
          | some octets =>
              if maxCommandArgumentBytes < octets.length ∨ (first ∧ octets.length = 0) then
                .error (inputError "invalid_command")
              else do
                let (arguments, total) ← checkArguments false rest
                return (s :: arguments, octets.length + total)

def checkCommand (value : Json) : PyResult (List PyStr) :=
  match value.asArr.filter fun items => 1 ≤ items.length && items.length ≤ maxCommandArguments with
  | none => .error (inputError "invalid_command")
  | some items => do
      let (arguments, total) ← checkArguments true items
      if maxCommandBytes < total then .error (inputError "invalid_command") else .ok arguments

/-- `validate_did`, on whatever JSON holds in its place. -/
def didOf (value : Json) : Option PyStr := value.asStr.filter Crypto.isDid

/-- The issuer and the verifiers. -/
def checkIdentities (issuer verifiers : Json) : PyResult (PyStr × List PyStr) :=
  match verifiers.asArr.filter fun items => items.length ≤ maxCountersignatures with
  | none => .error (inputError "invalid_verifiers")
  | some items =>
      match didOf issuer, items.mapM didOf with
      | some did, some dids =>
          if ¬dids.Nodup ∨ dids.contains did then .error (inputError "invalid_verifiers")
          else .ok (did, dids)
      | _, _ => .error (inputError "invalid_identity")

/-- An accepted expectation; its fields passed their checks. -/
structure Expectation where
  repository : PyStr
  commit : PyStr
  command : List PyStr
  timeoutMs : ℕ
  issuer : PyStr
  requiredVerifiers : List PyStr
  repository_ok : checkRepository (.str repository) = .ok repository
  commit_ok : isSha commit = true
  command_ok : checkCommand (.arr (command.map .str)) = .ok command
  timeout_ok : 1 ≤ timeoutMs ∧ timeoutMs ≤ 3600000
  issuer_ok : Crypto.isDid issuer = true
  verifiers_ok : ∀ did ∈ requiredVerifiers, Crypto.isDid did = true
  distinct : requiredVerifiers.Nodup
  independent : issuer ∉ requiredVerifiers
  bounded : requiredVerifiers.length ≤ maxCountersignatures

section Inversion

theorem checkRepository_ok {value : Json} {s : PyStr} (h : checkRepository value = .ok s) :
    value = .str s := by
  unfold checkRepository at h
  cases value with
  | str t =>
      simp only [asStr] at h
      split at h
      · split_ifs at h
        cases h
        rfl
      · cases h
  | _ => cases h

theorem checkCommit_ok {value : Json} {s : PyStr} (h : checkCommit value = .ok s) :
    value = .str s ∧ isSha s = true := by
  unfold checkCommit at h
  cases value with
  | str t =>
      by_cases ht : isSha t = true
      · simp only [asStr, Option.filter_some, if_pos ht] at h
        cases h
        exact ⟨rfl, ht⟩
      · simp only [asStr, Option.filter_some, if_neg ht] at h
        cases h
  | _ => cases h

theorem checkTimeoutMs_ok {value : Json} {n : ℕ} (h : checkTimeoutMs value = .ok n) :
    value = .int n ∧ 1 ≤ n ∧ n ≤ 3600000 := by
  unfold checkTimeoutMs at h
  cases value with
  | int z =>
      simp only [asInt] at h
      split_ifs at h with hz
      cases h
      have hcast : ((z.toNat : ℕ) : ℤ) = z := Int.toNat_of_nonneg (by omega)
      exact ⟨by rw [hcast], by omega, by omega⟩
  | _ => cases h

/-- Accepted arguments are strings. -/
theorem checkArguments_ok {first : Bool} {items : List Json} {argv : List PyStr} {total : ℕ}
    (h : checkArguments first items = .ok (argv, total)) : items = argv.map .str := by
  induction items generalizing first argv total with
  | nil =>
      cases h
      rfl
  | cons argument items ih =>
      rw [checkArguments] at h
      split at h
      · cases h
      rename_i s hs
      split at h
      · cases h
      split_ifs at h
      obtain ⟨⟨rest, size⟩, hrest, h⟩ := PyResult.bind_ok h
      cases h
      have hstr : argument = .str s := by
        cases argument with
        | str t =>
            simp only [asStr, Option.filter_eq_some_iff, Option.some.injEq] at hs
            rw [hs.1]
        | _ => cases hs
      rw [List.map_cons, ← ih hrest, hstr]

theorem checkCommand_ok {value : Json} {argv : List PyStr} (h : checkCommand value = .ok argv) :
    value = .arr (argv.map .str) := by
  unfold checkCommand at h
  cases value with
  | arr items =>
      split at h
      · cases h
      rename_i items' hitems
      simp only [asArr, Option.filter_eq_some_iff, Option.some.injEq] at hitems
      obtain ⟨⟨arguments, total⟩, harguments, h⟩ := PyResult.bind_ok h
      dsimp only at h
      split_ifs at h
      cases h
      rw [hitems.1, checkArguments_ok harguments]
  | _ => cases h

theorem didOf_eq_some {value : Json} {did : PyStr} :
    didOf value = some did ↔ value = .str did ∧ Crypto.isDid did = true := by
  cases value with
  | str s =>
      simp only [didOf, asStr, Option.filter_eq_some_iff, Option.some.injEq, Json.str.injEq]
  | _ => exact iff_of_false (by rintro ⟨⟩) (by rintro ⟨⟨⟩, -⟩)

theorem mapM_didOf_eq_some {items : List Json} {dids : List PyStr}
    (h : items.mapM didOf = some dids) :
    items = dids.map .str ∧ ∀ did ∈ dids, Crypto.isDid did = true := by
  induction items generalizing dids with
  | nil =>
      cases h
      exact ⟨rfl, fun _ hmem => absurd hmem List.not_mem_nil⟩
  | cons item items ih =>
      rw [List.mapM_cons] at h
      simp only [Option.bind_eq_bind, Option.bind_eq_some_iff, Option.pure_def, Option.some.injEq] at h
      obtain ⟨did, hdid, rest, hrest, rfl⟩ := h
      obtain ⟨rfl, hvalid⟩ := didOf_eq_some.mp hdid
      obtain ⟨hitems, hall⟩ := ih hrest
      rw [List.map_cons, ← hitems, List.forall_mem_cons]
      exact ⟨rfl, hvalid, hall⟩

theorem checkIdentities_ok {issuer verifiers : Json} {did : PyStr} {dids : List PyStr}
    (h : checkIdentities issuer verifiers = .ok (did, dids)) :
    issuer = .str did ∧ verifiers = .arr (dids.map .str) ∧ Crypto.isDid did = true ∧
      (∀ d ∈ dids, Crypto.isDid d = true) ∧ dids.Nodup ∧ did ∉ dids ∧
        dids.length ≤ maxCountersignatures := by
  unfold checkIdentities at h
  split at h
  · cases h
  rename_i items hitems
  split at h
  · rename_i did' dids' hdid hdids
    split_ifs at h with hbad
    cases h
    simp only [not_or, not_not, List.contains_iff_mem] at hbad
    obtain ⟨rfl, hvalid⟩ := didOf_eq_some.mp hdid
    obtain ⟨rfl, hall⟩ := mapM_didOf_eq_some hdids
    simp only [Option.filter_eq_some_iff, decide_eq_true_eq, List.length_map] at hitems
    have harr : verifiers = .arr (dids.map .str) := by
      cases verifiers with
      | arr found =>
          rw [asArr, Option.some.injEq] at hitems
          rw [hitems.1]
      | _ => cases hitems.1
    exact ⟨rfl, harr, hvalid, hall, hbad.1, hbad.2, hitems.2⟩
  · cases h

end Inversion

/-- `_expectation` on the content of the file. -/
def expectationOf [Platform] (raw : Bytes) : PyResult Expectation := do
  let value ← strictJson raw
  if ¬hasKeys value expectationKeys ∨ ¬(get value (py "schema")).isStr expectationSchema then
    .error (inputError "invalid_expectation_schema")
  else
    match hrepository : checkRepository (get value (py "repository")) with
    | .error e => .error e
    | .ok repository =>
    match hcommit : checkCommit (get value (py "commit")) with
    | .error e => .error e
    | .ok commit =>
    match htimeout : checkTimeoutMs (get value (py "timeout_ms")) with
    | .error e => .error e
    | .ok timeoutMs =>
    match hcommand : checkCommand (get value (py "command")) with
    | .error e => .error e
    | .ok command =>
    match hidentities : checkIdentities (get value (py "issuer")) (get value (py "required_verifiers"))
    with
    | .error e => .error e
    | .ok (issuer, requiredVerifiers) =>
        .ok { repository, commit, command, timeoutMs, issuer, requiredVerifiers
              repository_ok := checkRepository_ok hrepository ▸ hrepository
              commit_ok := (checkCommit_ok hcommit).2
              command_ok := checkCommand_ok hcommand ▸ hcommand
              timeout_ok := (checkTimeoutMs_ok htimeout).2
              issuer_ok := (checkIdentities_ok hidentities).2.2.1
              verifiers_ok := (checkIdentities_ok hidentities).2.2.2.1
              distinct := (checkIdentities_ok hidentities).2.2.2.2.1
              independent := (checkIdentities_ok hidentities).2.2.2.2.2.1
              bounded := (checkIdentities_ok hidentities).2.2.2.2.2.2 }

/-- `_expectation` -/
def expectation [Platform] (path : PyStr) : EvidenceProc Expectation := do
  let raw ← readBounded path maxExpectationBytes
  Proc.ofExcept (expectationOf raw)

/-! ## The report -/

/-- The tokens of a report, in the order of `CHECK_NAMES`. -/
structure EvidenceChecks where
  receipt : PyStr
  repository : PyStr
  commit : PyStr
  command : PyStr
  timeoutMs : PyStr
  issuer : PyStr
  requiredVerifiers : PyStr
  execution : PyStr
  stdout : PyStr
  stderr : PyStr
  deriving DecidableEq

/-- `checks.values()` -/
def EvidenceChecks.values (checks : EvidenceChecks) : List PyStr :=
  [checks.receipt, checks.repository, checks.commit, checks.command, checks.timeoutMs, checks.issuer,
    checks.requiredVerifiers, checks.execution, checks.stdout, checks.stderr]

/-- `dict.fromkeys(CHECK_NAMES, "not_checked")` -/
def notChecked : EvidenceChecks where
  receipt := py "not_checked"
  repository := py "not_checked"
  commit := py "not_checked"
  command := py "not_checked"
  timeoutMs := py "not_checked"
  issuer := py "not_checked"
  requiredVerifiers := py "not_checked"
  execution := py "not_checked"
  stdout := py "not_checked"
  stderr := py "not_checked"

/-- The fields of a report that are not constant. -/
structure EvidenceReport where
  status : PyStr
  checks : EvidenceChecks
  deriving DecidableEq

/-- `"matched" if same else "mismatch"` -/
def matchToken (same : Bool) : PyStr := if same then py "matched" else py "mismatch"

/-- `verify_work_receipt(_strict_json(raw))`, with the envelope. -/
def receiptOf [Platform] (raw : Bytes) : PyResult (WorkReceiptSummary × JsonFields) := do
  let envelope ← strictJson raw
  let summary ← verifyWorkReceipt (.value (.obj envelope))
  return (summary, envelope)

/-- The `except` clause around `verify_work_receipt`. -/
def isInvalid (e : PyErr) : Bool :=
  e.isa .evidenceInputError || e.isa .workReceiptError || e.isa .valueError || e.isa .recursionError

/-- The strings of a list; nothing when it holds something else. -/
def stringsOf (value : Json) : Option (List PyStr) := value.asArr.bind fun items => items.mapM asStr

/-- Whether `set(expected["required_verifiers"])` is a subset of the countersigners. -/
def countersigned (expected : Expectation) (envelope : JsonFields) : Bool :=
  expected.requiredVerifiers.all fun did =>
    ((countersignaturesOf envelope).map verifierOf).contains did

/-- The checks of a valid receipt, before its outputs are read. -/
def receiptChecks (expected : Expectation) (payload envelope : JsonFields) : EvidenceChecks :=
  { notChecked with
    receipt := py "valid"
    repository := matchToken ((get payload (py "repository")).isStr expected.repository)
    commit := matchToken ((get payload (py "commit")).isStr expected.commit)
    command := matchToken (stringsOf (get payload (py "command")) == some expected.command)
    timeoutMs := matchToken ((get payload (py "timeout_ms")).asInt == some (expected.timeoutMs : ℤ))
    issuer := matchToken ((get payload (py "issuer")).isStr expected.issuer)
    requiredVerifiers :=
      if expected.requiredVerifiers = [] then py "not_requested"
      else if countersigned expected envelope then py "matched"
      else py "missing"
    execution := textOf (get payload (py "result")) }

/-- Whether `data` has the size and the hash that the receipt records. -/
def sameOutput (payload : JsonFields) (sizeKey hashKey : PyStr) (data : Bytes) : Bool :=
  (get payload sizeKey).asInt == some (data.length : ℤ) &&
    (get payload hashKey).isStr (Sha256.sha256Hex data)

/-- The check of one output. -/
def outputToken (payload : JsonFields) (sizeKey hashKey : PyStr) (path : Option PyStr) :
    EvidenceProc PyStr :=
  match path with
  | none => pure (py "not_provided")
  | some path => do
      let data ← readBounded path maxOutputBytes
      return matchToken (sameOutput payload sizeKey hashKey data)

/-- The status of the checks of a valid receipt. -/
def statusOf (checks : EvidenceChecks) : PyStr :=
  if checks.values.contains (py "mismatch") ∨ checks.execution ≠ py "passed" then
    py "does_not_match"
  else if checks.values.contains (py "missing") ∨ checks.values.contains (py "not_provided") then
    py "incomplete"
  else py "matches_local_expectations"

/-- `inspect_work_evidence` -/
def inspectWorkEvidence [Platform] (expectationPath : PyStr)
    (receiptPath stdoutPath stderrPath : Option PyStr) : EvidenceProc EvidenceReport := do
  let expected ← expectation expectationPath
  match receiptPath with
  | none =>
      return { status := py "incomplete", checks := { notChecked with receipt := py "not_provided" } }
  | some path => do
      let raw ← readBounded path maxReceiptBytes
      match receiptOf raw with
      | .error e =>
          if isInvalid e then
            return { status := py "invalid_receipt",
                     checks := { notChecked with receipt := py "invalid" } }
          else throw e
      | .ok (summary, envelope) => do
          let stdout ← outputToken summary.payload (py "stdout_bytes") (py "stdout_sha256")
            stdoutPath
          let stderr ← outputToken summary.payload (py "stderr_bytes") (py "stderr_sha256")
            stderrPath
          let checks :=
            { receiptChecks expected summary.payload envelope with stdout := stdout, stderr := stderr }
          return { status := statusOf checks, checks := checks }

/-- `CHECK_NAMES` -/
def checkNames : List PyStr :=
  py "receipt" :: comparisonFields ++
    [py "required_verifiers", py "execution", py "stdout", py "stderr"]

/-- `render_evidence_markdown` -/
def renderEvidenceMarkdown (report : EvidenceReport) : PyStr :=
  let rows := (checkNames.zip report.checks.values).map fun row =>
    py "| " ++ row.1 ++ py " | `" ++ row.2 ++ py "` |"
  [10].intercalate
    ([py "# Local Work Evidence", [], py "Status: `" ++ report.status ++ py "`", [],
      py "| Check | Result |", py "| --- | --- |"] ++ rows ++
    [[], py "Agreement: `not_assessed`. Payment: `not_assessed`.",
      py "Independent execution: `not_established`.", [],
      py "Local expectations are operator supplied, not an authenticated agreement.",
      py "This check does not execute work, establish its quality, or verify payment."]) ++ [10]

end WorkEvidence
