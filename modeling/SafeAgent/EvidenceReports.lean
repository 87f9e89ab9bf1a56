/-
# The reports of the inspector (`work_evidence.py`)

What the inspector reports where its files do not change while it looks at them.

* `inspected`            : the report, and the files that were opened for it;
* `inspected_eq`         : the report is a function of what the given files hold;
* `Matches`, `Differs`   : agreement, and disagreement, with what is expected;
* `inspected_classifies` : **each status says which of them there is**.
-/
import SafeAgent.EvidenceFiles
import SafeAgent.EvidenceGrammar
import SafeAgent.WorkReceiptErrors

open PyText

namespace WorkEvidence

open Json PyItems Receipt WorkReceipt

/-! ## The classification -/

/-- What was given on the command line for one input: nothing, or a file that can be read. -/
def Given (files : PyStr → Option EvidenceFile) (path : Option PyStr) (maximum : ℕ)
    (data : Option Bytes) : Prop :=
  match path, data with
  | none, none => True
  | some path, some data => fileBytes files path maximum = .ok data
  | some _, none => False
  | none, some _ => False

/-- An accepted receipt, and its envelope. -/
def ValidReceipt [Platform] (receipt : Option Bytes) (payload envelope : JsonFields) : Prop :=
  ∃ raw ∈ receipt, ∃ summary, receiptOf raw = .ok (summary, envelope) ∧ summary.payload = payload

/-- What was given of the outputs. They are opened for a valid receipt only. -/
def GivenOutputs [Platform] (files : PyStr → Option EvidenceFile) (stdoutPath stderrPath : Option PyStr)
    (receipt stdout stderr : Option Bytes) : Prop :=
  (∃ payload envelope, ValidReceipt receipt payload envelope) →
    Given files stdoutPath maxOutputBytes stdout ∧ Given files stderrPath maxOutputBytes stderr

/-- An output that has the size and the hash of a receipt. -/
def Recorded (payload : JsonFields) (sizeKey hashKey : PyStr) (data : Bytes) : Prop :=
  get payload sizeKey = .int data.length ∧ get payload hashKey = .str (Sha256.sha256Hex data)

theorem sameOutput_iff {payload : JsonFields} {sizeKey hashKey : PyStr} {data : Bytes} :
    sameOutput payload sizeKey hashKey data = true ↔ Recorded payload sizeKey hashKey data := by
  rw [sameOutput, Recorded, Bool.and_eq_true, isStr_iff, beq_iff_eq]
  refine and_congr_left fun _ => ?_
  cases get payload sizeKey <;> simp [asInt]

theorem stringsOf_eq_some {value : Json} {argv : List PyStr} :
    stringsOf value = some argv ↔ value = .arr (argv.map .str) := by
  cases value with
  | arr items =>
      simp only [stringsOf, asArr, Option.bind_some, Json.arr.injEq]
      induction items generalizing argv with
      | nil => cases argv <;> simp
      | cons item items ih =>
          rw [List.mapM_cons]
          cases argv with
          | nil => cases item <;> simp [asStr, Option.bind_eq_some_iff]
          | cons a argv =>
              cases item with
              | str s =>
                  simp only [asStr, Option.bind_eq_bind, Option.bind_some, Option.bind_eq_some_iff,
                    Option.pure_def, Option.some.injEq, List.cons.injEq, List.map_cons, Json.str.injEq]
                  constructor
                  · rintro ⟨rest, hrest, rfl, rfl⟩
                    exact ⟨rfl, ih.mp hrest⟩
                  · rintro ⟨rfl, hrest⟩
                    exact ⟨argv, ih.mpr hrest, rfl, rfl⟩
              | _ => simp [asStr]
  | _ => exact iff_of_false (by rintro ⟨⟩) (by rintro ⟨⟩)

@[simp] theorem matchToken_eq_mismatch {same : Bool} : matchToken same = py "mismatch" ↔ same = false := by
  cases same <;> decide

theorem matchToken_ne (same : Bool) {token : PyStr}
    (h : token = py "missing" ∨ token = py "not_provided") :
    matchToken same ≠ token := by
  rcases h with rfl | rfl <;> cases same <;> decide

/-! ## The report -/

/-- The token of an output. -/
def outputCheck (payload : JsonFields) (sizeKey hashKey : PyStr) : Option Bytes → PyStr
  | none => py "not_provided"
  | some data => matchToken (sameOutput payload sizeKey hashKey data)

/-- The checks of a valid receipt and of what was given of its outputs. -/
def checksOf (expected : Expectation) (payload envelope : JsonFields) (stdout stderr : Option Bytes) :
    EvidenceChecks :=
  { receiptChecks expected payload envelope with
    stdout := outputCheck payload (py "stdout_bytes") (py "stdout_sha256") stdout
    stderr := outputCheck payload (py "stderr_bytes") (py "stderr_sha256") stderr }

/-- The report on what was given. -/
def reportOf [Platform] (expected : Expectation) (stdout stderr : Option Bytes) :
    Option Bytes → EvidenceReport
  | none => { status := py "incomplete", checks := { notChecked with receipt := py "not_provided" } }
  | some raw =>
      match receiptOf raw with
      | .error _ =>
          { status := py "invalid_receipt", checks := { notChecked with receipt := py "invalid" } }
      | .ok (summary, envelope) =>
          { status := statusOf (checksOf expected summary.payload envelope stdout stderr)
            checks := checksOf expected summary.payload envelope stdout stderr }

/-- The files that are opened for the report. -/
def opens [Platform] (expectationPath : PyStr) (receiptPath stdoutPath stderrPath : Option PyStr)
    (receipt : Option Bytes) : List PyStr :=
  match receipt with
  | none => [expectationPath]
  | some raw =>
      expectationPath :: receiptPath.toList ++
        if (receiptOf raw).isOk then stdoutPath.toList ++ stderrPath.toList else []

/-- How the inspector ends where the files stay as they are, and what it opened. -/
def inspected [Platform] (files : PyStr → Option EvidenceFile) (expectationPath : PyStr)
    (receiptPath stdoutPath stderrPath : Option PyStr) : PyResult EvidenceReport × List PyStr :=
  let run := Proc.outcome (look files)
    (inspectWorkEvidence expectationPath receiptPath stdoutPath stderrPath) () []
  (run.1.1, run.2)

section Inspecting

open Proc

variable {files : PyStr → Option EvidenceFile} {w : List PyStr}

theorem outcome_outputToken {payload : JsonFields} {sizeKey hashKey : PyStr} {path : Option PyStr}
    {data : Option Bytes} (h : Given files path maxOutputBytes data) :
    outcome (look files) (outputToken payload sizeKey hashKey path) () w =
      ((.ok (outputCheck payload sizeKey hashKey data), ()), w ++ path.toList) := by
  cases path with
  | none =>
      cases data with
      | none => rw [Option.toList_none, List.append_nil]; rfl
      | some _ => exact h.elim
  | some path =>
      cases data with
      | none => exact h.elim
      | some data =>
          refine (outcome_bind_ok (outcome_readBounded h)).trans ?_
          rfl

variable [Platform] {expectationPath : PyStr} {receiptPath stdoutPath stderrPath : Option PyStr}
  {expected : Expectation}
  (hexpected : (fileBytes files expectationPath maxExpectationBytes).bind expectationOf = .ok expected)

include hexpected

theorem outcome_expectation :
    outcome (look files) (expectation expectationPath) () w =
      ((.ok expected, ()), w ++ [expectationPath]) := by
  obtain ⟨raw, hraw, hof⟩ := PyResult.bind_ok hexpected
  rw [expectation, outcome_bind_ok (outcome_readBounded hraw), hof]
  rfl

/-- **The report is a function of what the given files hold.** -/
theorem inspected_eq {receipt stdout stderr : Option Bytes}
    (hreceipt : Given files receiptPath maxReceiptBytes receipt)
    (houtputs : GivenOutputs files stdoutPath stderrPath receipt stdout stderr) :
    inspected files expectationPath receiptPath stdoutPath stderrPath =
      (.ok (reportOf expected stdout stderr receipt),
        opens expectationPath receiptPath stdoutPath stderrPath receipt) := by
  suffices hrun : outcome (look files)
      (inspectWorkEvidence expectationPath receiptPath stdoutPath stderrPath) () [] =
      ((.ok (reportOf expected stdout stderr receipt), ()),
        opens expectationPath receiptPath stdoutPath stderrPath receipt) by
    rw [inspected, hrun]
  rw [inspectWorkEvidence, outcome_bind_ok (outcome_expectation hexpected)]
  cases receiptPath with
  | none =>
      cases receipt with
      | none => rfl
      | some _ => exact hreceipt.elim
  | some path =>
      cases receipt with
      | none => exact hreceipt.elim
      | some raw =>
          refine (outcome_bind_ok (outcome_readBounded hreceipt)).trans ?_
          rw [reportOf, opens]
          cases hr : receiptOf raw with
          | error e =>
              dsimp only
              -- whatever the verifier raises is caught, and no output is opened
              have hinvalid : isInvalid e = true := raises_receiptOf raw e hr
              rw [if_pos hinvalid]
              rfl
          | ok found =>
              obtain ⟨summary, envelope⟩ := found
              obtain ⟨hstdout, hstderr⟩ := houtputs ⟨_, envelope, raw, rfl, summary, hr, rfl⟩
              dsimp only
              rw [outcome_bind_ok (outcome_outputToken hstdout),
                outcome_bind_ok (outcome_outputToken hstderr)]
              have hopens (a b : List PyStr) : [] ++ [expectationPath] ++ [path] ++ a ++ b =
                  expectationPath :: (some path).toList ++ (a ++ b) := by
                simp only [List.nil_append, Option.toList_some, List.cons_append]
              rw [hopens]
              rfl

/-- **A receipt that cannot be read, or is too large, is an input error.** -/
theorem inspected_refused {path : PyStr} {e : PyErr} (hpath : receiptPath = some path)
    (hrefused : fileBytes files path maxReceiptBytes = .error e) :
    (inspected files expectationPath receiptPath stdoutPath stderrPath).1 = .error e := by
  subst hpath
  obtain ⟨w', hread⟩ := outcome_readBounded_error (w := [expectationPath]) hrefused
  have hrun : outcome (look files)
      (inspectWorkEvidence expectationPath (some path) stdoutPath stderrPath) () [] =
      ((.error e, ()), w') := by
    refine (outcome_bind_ok (outcome_expectation hexpected)).trans ?_
    exact outcome_bind_error hread
  rw [inspected, hrun]

end Inspecting

/-! ## What the tokens say -/

/-- Everything that is compared is there, and is as expected. -/
structure Matches (expected : Expectation) (payload envelope : JsonFields) (stdout stderr : Option Bytes) :
    Prop where
  fields : SameFields expected payload
  verifiers : ∀ did ∈ expected.requiredVerifiers, did ∈ (countersignaturesOf envelope).map verifierOf
  passed : get payload (py "result") = .str (py "passed")
  stdout : ∃ data ∈ stdout, Recorded payload (py "stdout_bytes") (py "stdout_sha256") data
  stderr : ∃ data ∈ stderr, Recorded payload (py "stderr_bytes") (py "stderr_sha256") data

/-- Something that was given differs, or the work did not pass. -/
inductive Differs (expected : Expectation) (payload : JsonFields) (stdout stderr : Option Bytes) : Prop
  | field (h : ¬SameFields expected payload)
  | stdout {data : Bytes} (given : data ∈ stdout)
      (h : ¬Recorded payload (py "stdout_bytes") (py "stdout_sha256") data)
  | stderr {data : Bytes} (given : data ∈ stderr)
      (h : ¬Recorded payload (py "stderr_bytes") (py "stderr_sha256") data)
  | result (h : get payload (py "result") ≠ .str (py "passed"))

theorem sameFields_iff {expected : Expectation} {payload : JsonFields} :
    SameFields expected payload ↔
      (get payload (py "repository")).isStr expected.repository = true ∧
      (get payload (py "commit")).isStr expected.commit = true ∧
      (stringsOf (get payload (py "command")) == some expected.command) = true ∧
      ((get payload (py "timeout_ms")).asInt == some (expected.timeoutMs : ℤ)) = true ∧
      (get payload (py "issuer")).isStr expected.issuer = true := by
  have hint : (get payload (py "timeout_ms")).asInt = some (expected.timeoutMs : ℤ) ↔
      get payload (py "timeout_ms") = .int expected.timeoutMs := by
    cases get payload (py "timeout_ms") <;> simp [asInt]
  simp only [isStr_iff, beq_iff_eq, stringsOf_eq_some, hint]
  constructor
  · intro h
    exact ⟨h.repository, h.commit, h.command, h.timeoutMs, h.issuer⟩
  · rintro ⟨hrepository, hcommit, hcommand, htimeout, hissuer⟩
    exact ⟨hrepository, hcommit, hcommand, htimeout, hissuer⟩

theorem textOf_eq_passed {value : Json} : textOf value = py "passed" ↔ value = .str (py "passed") := by
  cases value <;> simp [textOf, asStr, py]

theorem outputCheck_eq_mismatch {payload : JsonFields} {sizeKey hashKey : PyStr} {data : Option Bytes} :
    outputCheck payload sizeKey hashKey data = py "mismatch" ↔
      ∃ d ∈ data, ¬Recorded payload sizeKey hashKey d := by
  cases data with
  | none =>
      have hne : py "not_provided" ≠ py "mismatch" := by decide
      exact iff_of_false hne (by rintro ⟨_, ⟨⟩, _⟩)
  | some d =>
      rw [outputCheck, matchToken_eq_mismatch, ← Bool.not_eq_true, sameOutput_iff]
      simp only [Option.mem_def, Option.some.injEq, exists_eq_left']

theorem outputCheck_eq_notProvided {payload : JsonFields} {sizeKey hashKey : PyStr}
    {data : Option Bytes} : outputCheck payload sizeKey hashKey data = py "not_provided" ↔ data = none := by
  cases data with
  | none => exact iff_of_true rfl rfl
  | some d => exact iff_of_false (matchToken_ne _ (Or.inr rfl)) (by rintro ⟨⟩)

section Statuses

variable {expected : Expectation} {payload envelope : JsonFields} {stdout stderr : Option Bytes}

theorem requiredVerifiers_ne_mismatch (expected : Expectation) (payload envelope : JsonFields) :
    (receiptChecks expected payload envelope).requiredVerifiers ≠ py "mismatch" := by
  unfold receiptChecks
  dsimp only
  split_ifs <;> decide

/-- What shows a mismatch. -/
theorem mismatch_mem : py "mismatch" ∈ (checksOf expected payload envelope stdout stderr).values ↔
    ¬SameFields expected payload ∨ textOf (get payload (py "result")) = py "mismatch" ∨
      (∃ data ∈ stdout, ¬Recorded payload (py "stdout_bytes") (py "stdout_sha256") data) ∨
        ∃ data ∈ stderr, ¬Recorded payload (py "stderr_bytes") (py "stderr_sha256") data := by
  have hvalid : py "valid" ≠ py "mismatch" := by decide
  have hrequired := requiredVerifiers_ne_mismatch expected payload envelope
  rw [← outputCheck_eq_mismatch, ← outputCheck_eq_mismatch, sameFields_iff]
  simp only [EvidenceChecks.values, checksOf, List.mem_cons, List.not_mem_nil, or_false,
    eq_comm (a := py "mismatch"), hrequired, false_or]
  simp only [receiptChecks, matchToken_eq_mismatch, hvalid, false_or, not_and_or, Bool.not_eq_true,
    or_assoc]

/-- The checks show a difference exactly where there is one. -/
theorem differs_iff :
    ((checksOf expected payload envelope stdout stderr).values.contains (py "mismatch") = true ∨
      (checksOf expected payload envelope stdout stderr).execution ≠ py "passed") ↔
      Differs expected payload stdout stderr := by
  rw [List.contains_iff_mem, mismatch_mem]
  show _ ∨ ¬textOf (get payload (py "result")) = py "passed" ↔ _
  have hresult : textOf (get payload (py "result")) = py "mismatch" →
      get payload (py "result") ≠ .str (py "passed") := by
    intro hmismatch hpassed
    rw [hpassed] at hmismatch
    revert hmismatch
    decide
  rw [textOf_eq_passed]
  constructor
  · rintro ((h | h | ⟨data, hdata, h⟩ | ⟨data, hdata, h⟩) | h)
    · exact .field h
    · exact .result (hresult h)
    · exact .stdout hdata h
    · exact .stderr hdata h
    · exact .result h
  · rintro (h | ⟨hdata, h⟩ | ⟨hdata, h⟩ | h)
    · exact Or.inl (Or.inl h)
    · exact Or.inl (Or.inr (Or.inr (Or.inl ⟨_, hdata, h⟩)))
    · exact Or.inl (Or.inr (Or.inr (Or.inr ⟨_, hdata, h⟩)))
    · exact Or.inr h

theorem countersigned_iff : countersigned expected envelope = true ↔
    ∀ did ∈ expected.requiredVerifiers, did ∈ (countersignaturesOf envelope).map verifierOf := by
  simp only [countersigned, List.all_eq_true, List.contains_iff_mem]

theorem requiredVerifiers_eq_missing :
    (receiptChecks expected payload envelope).requiredVerifiers = py "missing" ↔
      ¬∀ did ∈ expected.requiredVerifiers, did ∈ (countersignaturesOf envelope).map verifierOf := by
  rw [← countersigned_iff]
  unfold receiptChecks
  dsimp only
  by_cases hnil : expected.requiredVerifiers = []
  · rw [if_pos hnil]
    refine iff_of_false (by decide) (not_not.mpr ?_)
    rw [countersigned, hnil, List.all_nil]
  rw [if_neg hnil]
  by_cases hall : countersigned expected envelope = true
  · rw [if_pos hall]
    exact iff_of_false (by decide) (not_not.mpr hall)
  · rw [if_neg hall]
    exact iff_of_true rfl hall

theorem requiredVerifiers_ne_notProvided (expected : Expectation) (payload envelope : JsonFields) :
    (receiptChecks expected payload envelope).requiredVerifiers ≠ py "not_provided" := by
  unfold receiptChecks
  dsimp only
  split_ifs <;> decide

/-- What is missing of a receipt whose work passed. -/
theorem missing_iff (hpassed : get payload (py "result") = .str (py "passed")) :
    ((checksOf expected payload envelope stdout stderr).values.contains (py "missing") = true ∨
      (checksOf expected payload envelope stdout stderr).values.contains (py "not_provided") = true) ↔
      (¬∀ did ∈ expected.requiredVerifiers, did ∈ (countersignaturesOf envelope).map verifierOf) ∨
        stdout = none ∨ stderr = none := by
  have hoff (same : Bool) := And.intro (matchToken_ne same (Or.inl rfl)) (matchToken_ne same (Or.inr rfl))
  have hvalid : py "valid" ≠ py "missing" ∧ py "valid" ≠ py "not_provided" := by decide
  have hresult : textOf (get payload (py "result")) ≠ py "missing" ∧
      textOf (get payload (py "result")) ≠ py "not_provided" := by
    rw [hpassed]
    decide
  have hmissing (data : Option Bytes) {sizeKey hashKey : PyStr} :
      outputCheck payload sizeKey hashKey data ≠ py "missing" := by
    cases data with
    | none => exact show py "not_provided" ≠ py "missing" by decide
    | some data => exact matchToken_ne _ (Or.inl rfl)
  have hrequired := requiredVerifiers_ne_notProvided expected payload envelope
  simp only [List.contains_iff_mem, EvidenceChecks.values, checksOf, List.mem_cons, List.not_mem_nil,
    or_false, eq_comm (a := py "missing"), eq_comm (a := py "not_provided"), hmissing,
    outputCheck_eq_notProvided, requiredVerifiers_eq_missing, hrequired, false_or]
  simp only [receiptChecks, (hoff _).1, (hoff _).2, hvalid.1, hvalid.2, hresult.1, hresult.2, false_or,
    or_false]

/-- **The status of a valid receipt.** -/
theorem statusOf_checksOf (expected : Expectation) (payload envelope : JsonFields)
    (stdout stderr : Option Bytes) :
    (statusOf (checksOf expected payload envelope stdout stderr) = py "does_not_match" ∧
      Differs expected payload stdout stderr ∧ ¬Matches expected payload envelope stdout stderr) ∨
    (statusOf (checksOf expected payload envelope stdout stderr) = py "incomplete" ∧
      ¬Differs expected payload stdout stderr ∧ ¬Matches expected payload envelope stdout stderr) ∨
    (statusOf (checksOf expected payload envelope stdout stderr) = py "matches_local_expectations" ∧
      ¬Differs expected payload stdout stderr ∧ Matches expected payload envelope stdout stderr) := by
  unfold statusOf
  by_cases hdiffers : Differs expected payload stdout stderr
  · refine Or.inl ⟨if_pos (differs_iff.mpr hdiffers), hdiffers, fun h => ?_⟩
    obtain ⟨out, hout, hsame⟩ := h.stdout
    obtain ⟨err, herr, hsame'⟩ := h.stderr
    cases hdiffers with
    | field hne => exact hne h.fields
    | stdout given hne => exact hne (Option.mem_unique given hout ▸ hsame)
    | stderr given hne => exact hne (Option.mem_unique given herr ▸ hsame')
    | result hne => exact hne h.passed
  rw [if_neg (mt differs_iff.mp hdiffers)]
  have hfields : SameFields expected payload := not_not.mp fun h => hdiffers (.field h)
  have hpassed : get payload (py "result") = .str (py "passed") :=
    not_not.mp fun h => hdiffers (.result h)
  -- nothing differs, so the receipt matches unless something is missing
  by_cases hmissing : (¬∀ did ∈ expected.requiredVerifiers,
      did ∈ (countersignaturesOf envelope).map verifierOf) ∨ stdout = none ∨ stderr = none
  · refine Or.inr (Or.inl ⟨if_pos ((missing_iff hpassed).mpr hmissing), hdiffers, fun h => ?_⟩)
    rcases hmissing with hverifiers | rfl | rfl
    · exact hverifiers h.verifiers
    · obtain ⟨_, ⟨⟩, _⟩ := h.stdout
    · obtain ⟨_, ⟨⟩, _⟩ := h.stderr
  · refine Or.inr (Or.inr ⟨if_neg (mt (missing_iff hpassed).mp hmissing), hdiffers, ?_⟩)
    simp only [not_or, not_not] at hmissing
    obtain ⟨hverifiers, hout, herr⟩ := hmissing
    obtain ⟨out, rfl⟩ := Option.ne_none_iff_exists'.mp hout
    obtain ⟨err, rfl⟩ := Option.ne_none_iff_exists'.mp herr
    refine ⟨hfields, hverifiers, hpassed, ⟨out, rfl, ?_⟩, ⟨err, rfl, ?_⟩⟩
    · exact not_not.mp fun h => hdiffers (.stdout rfl h)
    · exact not_not.mp fun h => hdiffers (.stderr rfl h)

end Statuses

section Classification

variable [Platform] {expected : Expectation} {receipt stdout stderr : Option Bytes}

/-- A valid receipt is one receipt. -/
theorem ValidReceipt.unique {payload envelope payload' envelope' : JsonFields}
    (h : ValidReceipt receipt payload envelope) (h' : ValidReceipt receipt payload' envelope') :
    payload = payload' ∧ envelope = envelope' := by
  obtain ⟨raw, hraw, summary, hok, rfl⟩ := h
  obtain ⟨raw', hraw', summary', hok', rfl⟩ := h'
  cases Option.mem_unique hraw hraw'
  rw [hok] at hok'
  cases hok'
  exact ⟨rfl, rfl⟩

/-- A receipt that is refused has no payload. -/
theorem not_validReceipt (h : ∃ raw ∈ receipt, (receiptOf raw).isOk = false) (payload envelope : JsonFields) :
    ¬ValidReceipt receipt payload envelope := by
  rintro ⟨raw', hraw', summary, hok, -⟩
  obtain ⟨raw, hraw, hinvalid⟩ := h
  cases Option.mem_unique hraw hraw'
  rw [hok] at hinvalid
  cases hinvalid

/-- The status of a report, by what its receipt is. -/
theorem status_cases (expected : Expectation) (stdout stderr receipt : Option Bytes) :
    ((reportOf expected stdout stderr receipt).status = py "incomplete" ∧ receipt = none) ∨
    ((reportOf expected stdout stderr receipt).status = py "invalid_receipt" ∧
      ∃ raw ∈ receipt, (receiptOf raw).isOk = false) ∨
    ∃ payload envelope, ValidReceipt receipt payload envelope ∧
      (reportOf expected stdout stderr receipt).status =
        statusOf (checksOf expected payload envelope stdout stderr) := by
  cases receipt with
  | none => exact Or.inl ⟨rfl, rfl⟩
  | some raw =>
      rw [reportOf]
      cases hr : receiptOf raw with
      | error e =>
          refine Or.inr (Or.inl ⟨rfl, raw, rfl, ?_⟩)
          rw [hr]
          rfl
      | ok found => exact Or.inr (Or.inr ⟨_, _, ⟨raw, rfl, found.1, hr, rfl⟩, rfl⟩)

/-- The three statuses that say something of the receipt. -/
theorem status_iff (expected : Expectation) (stdout stderr receipt : Option Bytes) :
    ((reportOf expected stdout stderr receipt).status = py "matches_local_expectations" ↔
      ∃ payload envelope, ValidReceipt receipt payload envelope ∧
        Matches expected payload envelope stdout stderr) ∧
    ((reportOf expected stdout stderr receipt).status = py "invalid_receipt" ↔
      ∃ raw ∈ receipt, (receiptOf raw).isOk = false) ∧
    ((reportOf expected stdout stderr receipt).status = py "does_not_match" ↔
      ∃ payload envelope, ValidReceipt receipt payload envelope ∧
        Differs expected payload stdout stderr) := by
  obtain ⟨h1, h2, h3, h4, h5, h6⟩ : py "incomplete" ≠ py "matches_local_expectations" ∧
      py "incomplete" ≠ py "invalid_receipt" ∧ py "incomplete" ≠ py "does_not_match" ∧
      py "invalid_receipt" ≠ py "matches_local_expectations" ∧
      py "invalid_receipt" ≠ py "does_not_match" ∧
      py "matches_local_expectations" ≠ py "does_not_match" := by decide
  obtain ⟨hstatus, rfl⟩ | ⟨hstatus, hinvalid⟩ | ⟨payload, envelope, hvalid, hstatus⟩ :=
    status_cases expected stdout stderr receipt
  · rw [hstatus]
    exact ⟨iff_of_false h1 (by rintro ⟨_, _, ⟨_, ⟨⟩, _⟩, _⟩), iff_of_false h2 (by rintro ⟨_, ⟨⟩, _⟩),
      iff_of_false h3 (by rintro ⟨_, _, ⟨_, ⟨⟩, _⟩, _⟩)⟩
  · rw [hstatus]
    have hnone (P : JsonFields → JsonFields → Prop) :
        ¬∃ payload envelope, ValidReceipt receipt payload envelope ∧ P payload envelope :=
      fun h => h.elim fun payload h => h.elim fun envelope h =>
        not_validReceipt hinvalid payload envelope h.1
    exact ⟨iff_of_false h4 (hnone _), iff_of_true rfl hinvalid, iff_of_false h5 (hnone _)⟩
  · rw [hstatus]
    -- the receipt is valid, and there is one payload and one envelope
    have hone (P : JsonFields → JsonFields → Prop) :
        (∃ payload envelope, ValidReceipt receipt payload envelope ∧ P payload envelope) ↔
          P payload envelope := by
      refine ⟨?_, fun h => ⟨payload, envelope, hvalid, h⟩⟩
      rintro ⟨payload', envelope', hvalid', h⟩
      obtain ⟨rfl, rfl⟩ := hvalid.unique hvalid'
      exact h
    have hok : ¬∃ raw ∈ receipt, (receiptOf raw).isOk = false := fun h =>
      not_validReceipt h payload envelope hvalid
    rw [hone, hone fun payload _ => Differs expected payload stdout stderr]
    obtain ⟨hs, hd, hm⟩ | ⟨hs, hd, hm⟩ | ⟨hs, hd, hm⟩ :=
      statusOf_checksOf expected payload envelope stdout stderr
    · rw [hs]
      exact ⟨iff_of_false h6.symm hm, iff_of_false h5.symm hok, iff_of_true rfl hd⟩
    · rw [hs]
      exact ⟨iff_of_false h1 hm, iff_of_false h2 hok, iff_of_false h3 hd⟩
    · rw [hs]
      exact ⟨iff_of_true rfl hm, iff_of_false h4.symm hok, iff_of_false h6 hd⟩

/-- The fourth status is what remains. -/
theorem status_incomplete_iff (expected : Expectation) (stdout stderr receipt : Option Bytes) :
    (reportOf expected stdout stderr receipt).status = py "incomplete" ↔
      (reportOf expected stdout stderr receipt).status ≠ py "matches_local_expectations" ∧
      (reportOf expected stdout stderr receipt).status ≠ py "invalid_receipt" ∧
      (reportOf expected stdout stderr receipt).status ≠ py "does_not_match" := by
  constructor
  · intro h
    rw [h]
    decide
  · rintro ⟨hmatches, hinvalid, hdiffers⟩
    obtain ⟨hstatus, -⟩ | ⟨hstatus, -⟩ | ⟨payload, envelope, -, hstatus⟩ :=
      status_cases expected stdout stderr receipt
    · exact hstatus
    · exact absurd hstatus hinvalid
    · rw [hstatus] at hmatches hdiffers ⊢
      obtain ⟨hs, -⟩ | ⟨hs, -⟩ | ⟨hs, -⟩ := statusOf_checksOf expected payload envelope stdout stderr
      · exact absurd hs hdiffers
      · exact hs
      · exact absurd hs hmatches

end Classification

/-! ## The classification -/

/-- An input that was given and cannot be read, or is too large. -/
def Refused (files : PyStr → Option EvidenceFile) (path : Option PyStr) (maximum : ℕ) : Prop :=
  ∃ p ∈ path, ∃ e, fileBytes files p maximum = .error e

/-- An input was given and can be read, or was not given, or is refused. -/
theorem given_or_refused (files : PyStr → Option EvidenceFile) (path : Option PyStr) (maximum : ℕ) :
    (∃ data, Given files path maximum data) ∨ Refused files path maximum := by
  cases path with
  | none => exact Or.inl ⟨none, trivial⟩
  | some p =>
      cases h : fileBytes files p maximum with
      | ok data => exact Or.inl ⟨some data, h⟩
      | error e => exact Or.inr ⟨p, rfl, e, h⟩

theorem not_refused_of_given {files : PyStr → Option EvidenceFile} {path : Option PyStr} {maximum : ℕ}
    {data : Option Bytes} (h : Given files path maximum data) : ¬Refused files path maximum := by
  rintro ⟨p, hp, e, he⟩
  cases hp
  cases data with
  | none => exact h
  | some data =>
      rw [Given, he] at h
      cases h

section Main

open Proc

variable {files : PyStr → Option EvidenceFile}

theorem outcome_outputToken_refused {payload : JsonFields} {sizeKey hashKey : PyStr}
    {path : Option PyStr} (h : Refused files path maxOutputBytes) (w : List PyStr) :
    ∃ e w', outcome (look files) (outputToken payload sizeKey hashKey path) () w =
      ((.error e, ()), w') := by
  obtain ⟨p, hp, e, he⟩ := h
  cases hp
  obtain ⟨w', hread⟩ := outcome_readBounded_error (w := w) he
  exact ⟨e, w', outcome_bind_error hread⟩

variable [Platform] {expectationPath : PyStr} {receiptPath stdoutPath stderrPath : Option PyStr}
  {expected : Expectation}

/-- **An output that is refused leaves a valid receipt without a report.** -/
theorem inspected_output_refused
    (hexpected : (fileBytes files expectationPath maxExpectationBytes).bind expectationOf = .ok expected)
    {receipt : Option Bytes} (hreceipt : Given files receiptPath maxReceiptBytes receipt)
    {payload envelope : JsonFields} (hvalid : ValidReceipt receipt payload envelope)
    (hrefused : Refused files stdoutPath maxOutputBytes ∨ Refused files stderrPath maxOutputBytes) :
    ∃ e, (inspected files expectationPath receiptPath stdoutPath stderrPath).1 = .error e := by
  obtain ⟨raw, hraw, summary, hok, rfl⟩ := hvalid
  cases hraw
  cases receiptPath with
  | none => exact hreceipt.elim
  | some path =>
      suffices hrun : ∃ e w', outcome (look files)
          (inspectWorkEvidence expectationPath (some path) stdoutPath stderrPath) () [] =
          ((.error e, ()), w') by
        obtain ⟨e, w', hrun⟩ := hrun
        exact ⟨e, by rw [inspected, hrun]⟩
      rw [inspectWorkEvidence, outcome_bind_ok (outcome_expectation hexpected)]
      dsimp only
      rw [outcome_bind_ok (outcome_readBounded hreceipt), hok]
      dsimp only
      obtain ⟨out, hout⟩ | hout := given_or_refused files stdoutPath maxOutputBytes
      · rw [outcome_bind_ok (outcome_outputToken hout)]
        obtain ⟨err, herr⟩ | herr := given_or_refused files stderrPath maxOutputBytes
        · exact absurd hrefused (by
            rintro (h | h)
            · exact not_refused_of_given hout h
            · exact not_refused_of_given herr h)
        · obtain ⟨e, w', h⟩ := outcome_outputToken_refused herr _
          exact ⟨e, w', outcome_bind_error h⟩
      · obtain ⟨e, w', h⟩ := outcome_outputToken_refused hout _
        exact ⟨e, w', outcome_bind_error h⟩

/-- **The classification is sound and complete**, for receipts and outputs within the limits; beyond
them there is no report. -/
theorem inspected_classifies (receiptPath stdoutPath stderrPath : Option PyStr)
    (hexpected : (fileBytes files expectationPath maxExpectationBytes).bind expectationOf = .ok expected) :
    (∀ receipt stdout stderr, Given files receiptPath maxReceiptBytes receipt →
      GivenOutputs files stdoutPath stderrPath receipt stdout stderr →
      ∃ report opened,
        inspected files expectationPath receiptPath stdoutPath stderrPath = (.ok report, opened) ∧
        (report.status = py "matches_local_expectations" ↔
          ∃ payload envelope, ValidReceipt receipt payload envelope ∧
            Matches expected payload envelope stdout stderr) ∧
        (report.status = py "invalid_receipt" ↔ ∃ raw ∈ receipt, (receiptOf raw).isOk = false) ∧
        (report.status = py "invalid_receipt" → opened = expectationPath :: receiptPath.toList) ∧
        (report.status = py "does_not_match" ↔
          ∃ payload envelope, ValidReceipt receipt payload envelope ∧
            Differs expected payload stdout stderr) ∧
        (report.status = py "incomplete" ↔
          ¬(∃ payload envelope, ValidReceipt receipt payload envelope ∧
            Matches expected payload envelope stdout stderr) ∧
          ¬(∃ raw ∈ receipt, (receiptOf raw).isOk = false) ∧
          ¬∃ payload envelope, ValidReceipt receipt payload envelope ∧
            Differs expected payload stdout stderr)) ∧
    (Refused files receiptPath maxReceiptBytes →
      ∃ e, (inspected files expectationPath receiptPath stdoutPath stderrPath).1 = .error e) ∧
    ∀ receipt payload envelope, Given files receiptPath maxReceiptBytes receipt →
      ValidReceipt receipt payload envelope →
      Refused files stdoutPath maxOutputBytes ∨ Refused files stderrPath maxOutputBytes →
      ∃ e, (inspected files expectationPath receiptPath stdoutPath stderrPath).1 = .error e := by
  refine ⟨?_, ?_, ?_⟩
  · intro receipt stdout stderr hreceipt houtputs
    refine ⟨_, _, inspected_eq hexpected hreceipt houtputs, ?_⟩
    obtain ⟨hmatches, hinvalid, hdiffers⟩ := status_iff expected stdout stderr receipt
    refine ⟨hmatches, hinvalid, fun h => ?_, hdiffers, ?_⟩
    · obtain ⟨raw, hraw, hfalse⟩ := hinvalid.mp h
      cases hraw
      rw [opens, hfalse]
      exact List.append_nil _
    · rw [← hmatches, ← hinvalid, ← hdiffers]
      exact status_incomplete_iff expected stdout stderr receipt
  · rintro ⟨path, hpath, e, he⟩
    exact ⟨e, inspected_refused hexpected hpath he⟩
  · exact fun _ _ _ hreceipt hvalid hrefused =>
      inspected_output_refused hexpected hreceipt hvalid hrefused

end Main

end WorkEvidence

namespace Sample

open WorkEvidence WorkReceipt Json

/-- A regular file. -/
def fileOf (content : Bytes) : EvidenceFile where
  stat := { regular := true, device := 1, inode := 1, size := content.length, modified := 0, changed := 0 }
  content := content
  size_eq := rfl

/-- What expects a receipt for `true`, of no verifier. -/
def expectationBytes : Bytes := shortestExpectation (evidencePayload [py "true"])

/-- One octet more than a receipt may have. -/
def oversizedReceipt : Bytes := 0xFF :: List.replicate maxReceiptBytes 0

/-- What the command printed. -/
def outputBytes : Bytes := toAscii (py "done\n")

/-- The files of an inspection, with what is at the path of the receipt. -/
def evidenceFiles (receipt : Bytes) (path : PyStr) : Option EvidenceFile :=
  if path = py "expected" then some (fileOf expectationBytes)
  else if path = py "receipt" then some (fileOf receipt)
  else if path = py "output" then some (fileOf outputBytes)
  else none

theorem fileBytes_fileOf {files : PyStr → Option EvidenceFile} {path : PyStr} {content : Bytes}
    (hfile : files path = some (fileOf content)) (maximum : ℕ) : fileBytes files path maximum =
      if maximum < content.length then .error (inputError "file_too_large") else .ok content := by
  rw [fileBytes, hfile]
  exact if_neg (not_not.mpr rfl)

theorem evidenceFiles_receipt (receipt : Bytes) :
    evidenceFiles receipt (py "receipt") = some (fileOf receipt) := by
  have hne : py "receipt" ≠ py "expected" := by decide
  exact (if_neg hne).trans (if_pos rfl)

theorem evidenceFiles_output (receipt : Bytes) :
    evidenceFiles receipt (py "output") = some (fileOf outputBytes) := by
  obtain ⟨hne, hne'⟩ : py "output" ≠ py "expected" ∧ py "output" ≠ py "receipt" := by decide
  exact (if_neg hne).trans ((if_neg hne').trans (if_pos rfl))

theorem fileBytes_expected (receipt : Bytes) :
    (fileBytes (evidenceFiles receipt) (py "expected") maxExpectationBytes).bind expectationOf =
      expectationOf expectationBytes := by
  have hfile : evidenceFiles receipt (py "expected") = some (fileOf expectationBytes) := if_pos rfl
  have hlength : ¬maxExpectationBytes < expectationBytes.length := by decide +kernel
  have hbind (raw : Bytes) : Except.bind (.ok raw) expectationOf = expectationOf raw := rfl
  rw [fileBytes_fileOf hfile, if_neg hlength, hbind]

theorem fileBytes_oversizedReceipt :
    fileBytes (evidenceFiles oversizedReceipt) (py "receipt") maxReceiptBytes =
      .error (inputError "file_too_large") := by
  have hlength : maxReceiptBytes < oversizedReceipt.length := by
    rw [oversizedReceipt, List.length_cons, List.length_replicate]
    exact Nat.lt_succ_self _
  rw [fileBytes_fileOf (evidenceFiles_receipt _), if_pos hlength]

theorem decodeUtf8_invalid (rest : Bytes) : decodeUtf8 (0xFF :: rest) = none := by
  rcases rest with _ | ⟨b1, _ | ⟨b2, _ | ⟨b3, rest⟩⟩⟩ <;> simp [decodeUtf8]

/-- **A receipt that is too large is not reported as invalid.** -/
theorem oversized_receipt_unreported :
    (∃ expected, (fileBytes (evidenceFiles oversizedReceipt) (py "expected") maxExpectationBytes).bind
      expectationOf = .ok expected) ∧
    (receiptOf oversizedReceipt).isOk = false ∧
    ∀ report, (inspected (evidenceFiles oversizedReceipt) (py "expected") (some (py "receipt"))
      none none).1 ≠ .ok report := by
  have hpayload : validateWorkPayload (evidencePayload [py "true"]) = .ok () := by decide +kernel
  obtain ⟨expected, hok, -⟩ := expectationOf_document hpayload
  have hexpected := (fileBytes_expected oversizedReceipt).trans hok
  refine ⟨⟨expected, hexpected⟩, ?_, fun report h => ?_⟩
  · have hdecode : decodeStrict oversizedReceipt = none := by
      rw [decodeStrict, oversizedReceipt, decodeUtf8_invalid]
      rfl
    rw [receiptOf, strictJson, hdecode]
    rfl
  · rw [inspected_refused hexpected rfl fileBytes_oversizedReceipt] at h
    cases h

/-- The payload of a receipt for `true`, which printed the same twice. -/
def passedPayload : JsonFields :=
  [(py "schema", .str (py "work-receipt-v1")), (py "issuer", .str did),
    (py "repository", .str (py "owner/repo")), (py "commit", .str (List.replicate 40 97)),
    (py "command", .arr [.str (py "true")]), (py "timeout_ms", .int 1000),
    (py "result", .str (py "passed")), (py "exit_code", .int 0),
    (py "stdout_sha256", .str (Sha256.sha256Hex outputBytes)), (py "stdout_bytes", .int 5),
    (py "stderr_sha256", .str (Sha256.sha256Hex outputBytes)), (py "stderr_bytes", .int 5),
    (py "started_at", .str (py "2026-01-01T00:00:00Z")),
    (py "completed_at", .str (py "2026-01-01T00:00:01Z")), (py "duration_ms", .int 12)]

/-- The text of the signed receipt. -/
def passedReceipt : Bytes :=
  toAscii (canonical (.obj [(py "schema", .str workReceiptEnvelopeSchema),
    (py "receipt", .obj ((signedWrapper passedPayload key).toOption.getD [])),
    (py "countersignatures", .arr [])]))

/-- Everything that is compared agrees with both outputs. -/
def agrees (expected : Expectation) (payload : JsonFields) : Bool :=
  (get payload (py "repository")).isStr expected.repository &&
    (get payload (py "commit")).isStr expected.commit &&
    (stringsOf (get payload (py "command")) == some expected.command) &&
    ((get payload (py "timeout_ms")).asInt == some (expected.timeoutMs : ℤ)) &&
    (get payload (py "issuer")).isStr expected.issuer && expected.requiredVerifiers.isEmpty &&
    (get payload (py "result")).isStr (py "passed") &&
    sameOutput payload (py "stdout_bytes") (py "stdout_sha256") outputBytes &&
    sameOutput payload (py "stderr_bytes") (py "stderr_sha256") outputBytes

/-- The expectation and the receipt can both be read, and agree. -/
def agreesRead : PyResult Expectation → PyResult (WorkReceiptSummary × JsonFields) → Bool
  | .ok expected, .ok found => agrees expected found.1.payload
  | _, _ => false

theorem matches_of_agrees {expected : Expectation} {payload envelope : JsonFields}
    (h : agrees expected payload = true) :
    Matches expected payload envelope (some outputBytes) (some outputBytes) := by
  simp only [agrees, Bool.and_eq_true, List.isEmpty_iff, sameOutput_iff] at h
  obtain ⟨⟨⟨⟨hfields, hverifiers⟩, hpassed⟩, hstdout⟩, hstderr⟩ := h
  refine ⟨sameFields_iff.mpr ?_, ?_, isStr_iff.mp hpassed, ⟨_, rfl, hstdout⟩, ⟨_, rfl, hstderr⟩⟩
  · simpa only [and_assoc] using hfields
  · rw [hverifiers]
    exact fun _ h => nomatch h

theorem passedReceipt_valid : ∃ expected summary envelope,
    expectationOf expectationBytes = .ok expected ∧
    receiptOf passedReceipt = .ok (summary, envelope) ∧ agrees expected summary.payload = true ∧
    ¬maxReceiptBytes < passedReceipt.length := by
  have hall : agreesRead (expectationOf expectationBytes) (receiptOf passedReceipt) = true ∧
      ¬maxReceiptBytes < passedReceipt.length := by decide +kernel
  obtain ⟨hagrees, hlength⟩ := hall
  generalize expectationOf expectationBytes = expected at hagrees ⊢
  generalize receiptOf passedReceipt = found at hagrees ⊢
  cases expected with
  | error e => cases hagrees
  | ok expected =>
      cases found with
      | error e => cases hagrees
      | ok found => exact ⟨expected, found.1, found.2, rfl, rfl, hagrees, hlength⟩

/-- A signed receipt and both of its outputs match what is expected. -/
theorem inspected_classifies_passed : ∃ report opened,
    inspected (evidenceFiles passedReceipt) (py "expected") (some (py "receipt")) (some (py "output"))
        (some (py "output")) = (.ok report, opened) ∧
      report.status = py "matches_local_expectations" := by
  obtain ⟨expected, summary, envelope, hok, hreceipt, hagrees, hlength⟩ := passedReceipt_valid
  have hgiven : Given (evidenceFiles passedReceipt) (some (py "receipt")) maxReceiptBytes
      (some passedReceipt) :=
    (fileBytes_fileOf (evidenceFiles_receipt _) _).trans (if_neg hlength)
  have hshort : ¬maxOutputBytes < outputBytes.length := by decide
  have houtput : Given (evidenceFiles passedReceipt) (some (py "output")) maxOutputBytes
      (some outputBytes) :=
    (fileBytes_fileOf (evidenceFiles_output _) _).trans (if_neg hshort)
  obtain ⟨report, opened, hrun, hmatches, -⟩ :=
    (inspected_classifies (some (py "receipt")) (some (py "output")) (some (py "output"))
      ((fileBytes_expected passedReceipt).trans hok)).1 _ _ _ hgiven fun _ => ⟨houtput, houtput⟩
  exact ⟨report, opened, hrun, hmatches.mpr
    ⟨_, envelope, ⟨_, rfl, summary, hreceipt, rfl⟩, matches_of_agrees hagrees⟩⟩

end Sample
