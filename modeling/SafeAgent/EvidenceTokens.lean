/-
# What the inspector asks and says (`work_evidence.py`)

Nothing here assumes that the files stay as they are while they are read.

* `Confined`      : a call on a file that was given, for no more octets than its limit and one;
* `only_inspect`  : **the inspector makes no other call**;
* `Listed`        : a report in the fixed vocabulary, and what its status promises;
* `ends_inspect`  : **every report is one of these**, so that nothing of a file is repeated.
-/
import SafeAgent.EvidenceReports

open PyText

/-- The file of a call. -/
def EvidenceOp.path : EvidenceOp → PyStr
  | .lstat path => path
  | .openFile path => path
  | .fstat path => path
  | .read path _ => path
  | .close path => path

namespace WorkEvidence

open Json PyItems WorkReceipt

/-! ## The calls -/

/-- The calls on the files that were given, each with its limit: a read asks for one octet more than
the limit, so that a longer file is noticed. -/
def Confined (given : List (PyStr × ℕ)) (o : EvidenceOp) : Prop :=
  ∃ maximum, (o.path, maximum) ∈ given ∧ ∀ path count, o = .read path count → count = maximum + 1

/-- The files that were given, with their limits. -/
def inputs (expectationPath : PyStr) (receiptPath stdoutPath stderrPath : Option PyStr) :
    List (PyStr × ℕ) :=
  (expectationPath, maxExpectationBytes) :: (receiptPath.toList.map fun path => (path, maxReceiptBytes)) ++
    (stdoutPath.toList ++ stderrPath.toList).map fun path => (path, maxOutputBytes)

section Calls

variable {α : Type} {given : List (PyStr × ℕ)} {path : PyStr} {maximum : ℕ} {s : Unit}

/-- Whatever is answered, the process makes only these calls. -/
abbrev OnlyConfined (given : List (PyStr × ℕ)) (m : EvidenceProc α) (s : Unit) : Prop :=
  Proc.Only (Confined given) (fun _ => True) m s

theorem onlyConfined_inspect {o : EvidenceOp} (hgiven : (o.path, maximum) ∈ given)
    (ho : ∀ path count, o = .read path count → count = maximum + 1) : OnlyConfined given (inspect o) s :=
  Proc.only_call ⟨maximum, hgiven, ho⟩ trivial

theorem onlyConfined_orUnreadable {m : EvidenceProc α} (h : OnlyConfined given m s) :
    OnlyConfined given (orUnreadable m) s := by
  refine Proc.only_tryCatch h fun e s' _ => ?_
  split_ifs <;> trivial

theorem onlyConfined_closingOnError {m : EvidenceProc α} (hgiven : (path, maximum) ∈ given)
    (h : OnlyConfined given m s) : OnlyConfined given (closingOnError path m) s := by
  refine Proc.only_tryCatch h fun e s' _ => ?_
  refine Proc.only_bind (onlyConfined_inspect (o := .close path) hgiven nofun) fun _ _ _ => ?_
  exact Proc.only_throw trivial

/-- Reading a file that was given. -/
theorem onlyConfined_readBounded (hgiven : (path, maximum) ∈ given) :
    OnlyConfined given (readBounded path maximum) s := by
  have hcall {o : EvidenceOp} (hpath : o.path = path) (ho : ∀ p n, o ≠ .read p n) (s' : Unit) :
      OnlyConfined given (inspect o) s' :=
    onlyConfined_inspect (hpath ▸ hgiven) fun p n h => absurd h (ho p n)
  unfold readBounded
  refine Proc.only_bind (onlyConfined_orUnreadable ?_) fun before s₁ _ => ?_
  · refine Proc.only_bind (hcall (o := .lstat path) rfl (fun _ _ => nofun) s) fun before s' _ => ?_
    split_ifs
    · refine Proc.only_bind (hcall (o := .openFile path) rfl (fun _ _ => nofun) s') fun _ _ _ => ?_
      exact Proc.only_pure trivial
    · exact Proc.only_throw trivial
  refine Proc.only_bind (onlyConfined_closingOnError hgiven (onlyConfined_orUnreadable ?_))
    fun opened s₂ _ => onlyConfined_orUnreadable ?_
  · refine Proc.only_bind (hcall (o := .fstat path) rfl (fun _ _ => nofun) s₁) fun opened _ _ => ?_
    exact Proc.only_bind (Proc.only_ofExcept trivial) fun _ _ _ => Proc.only_pure trivial
  · refine Proc.only_bind (onlyConfined_closingOnError hgiven ?_) fun found s' _ => ?_
    · refine Proc.only_bind (onlyConfined_inspect (o := .read path (maximum + 1)) hgiven ?_) fun data s' _ => ?_
      · rintro _ _ ⟨⟩
        rfl
      · refine Proc.only_bind (hcall (o := .fstat path) rfl (fun _ _ => nofun) s') fun _ _ _ => ?_
        exact Proc.only_pure trivial
    · refine Proc.only_bind (hcall (o := .close path) rfl (fun _ _ => nofun) s') fun _ _ _ => ?_
      exact Proc.only_ofExcept trivial

/-- Reading an output that was given. -/
theorem onlyConfined_outputToken {payload : JsonFields} {sizeKey hashKey : PyStr} {output : Option PyStr}
    (hgiven : ∀ p ∈ output, (p, maxOutputBytes) ∈ given) :
    OnlyConfined given (outputToken payload sizeKey hashKey output) s := by
  cases output with
  | none => exact Proc.only_pure trivial
  | some path =>
      exact Proc.only_bind (onlyConfined_readBounded (hgiven path rfl)) fun _ _ _ => Proc.only_pure trivial

end Calls

section Platform

variable [Platform]

/-- **The inspector asks only for the files that it was given**, whatever they hold or name. -/
theorem only_inspect (expectationPath : PyStr) (receiptPath stdoutPath stderrPath : Option PyStr) (s : Unit) :
    Proc.Only (Confined (inputs expectationPath receiptPath stdoutPath stderrPath)) (fun _ => True)
      (inspectWorkEvidence expectationPath receiptPath stdoutPath stderrPath) s := by
  have hexpectation : (expectationPath, maxExpectationBytes) ∈
      inputs expectationPath receiptPath stdoutPath stderrPath := by simp [inputs]
  have hstdout : ∀ p ∈ stdoutPath, (p, maxOutputBytes) ∈
      inputs expectationPath receiptPath stdoutPath stderrPath := by
    rintro p ⟨⟩
    simp [inputs]
  have hstderr : ∀ p ∈ stderrPath, (p, maxOutputBytes) ∈
      inputs expectationPath receiptPath stdoutPath stderrPath := by
    rintro p ⟨⟩
    simp [inputs]
  unfold inspectWorkEvidence
  refine Proc.only_bind (Proc.only_bind (onlyConfined_readBounded hexpectation) fun _ _ _ =>
    Proc.only_ofExcept trivial) fun expected s₁ _ => ?_
  cases receiptPath with
  | none => exact Proc.only_pure trivial
  | some path =>
      have hpath : (path, maxReceiptBytes) ∈ inputs expectationPath (some path) stdoutPath stderrPath := by
        simp [inputs]
      refine Proc.only_bind (onlyConfined_readBounded hpath) fun raw s₂ _ => ?_
      cases receiptOf raw with
      | error e =>
          dsimp only
          split_ifs
          · exact Proc.only_pure trivial
          · exact Proc.only_throw trivial
      | ok found =>
          refine Proc.only_bind (onlyConfined_outputToken hstdout) fun _ s₃ _ => ?_
          exact Proc.only_bind (onlyConfined_outputToken hstderr) fun _ _ _ => Proc.only_pure trivial

end Platform

/-! ## The report -/

/-- The tokens of the checks. -/
def checkTokens : List PyStr :=
  [py "not_checked", py "not_provided", py "not_requested", py "valid", py "invalid", py "matched",
    py "mismatch", py "missing", py "passed", py "failed", py "timed_out"]

/-- The statuses. -/
def statusTokens : List PyStr :=
  [py "incomplete", py "invalid_receipt", py "does_not_match", py "matches_local_expectations"]

/-- The tokens of the checks where a receipt is as expected. -/
def agreeingTokens : List PyStr := [py "not_requested", py "valid", py "matched", py "passed"]

/-- A report in the fixed vocabulary, whose status promises that every check agrees. -/
structure Listed (report : EvidenceReport) : Prop where
  status : report.status ∈ statusTokens
  checks : ∀ token ∈ report.checks.values, token ∈ checkTokens
  agrees : report.status = py "matches_local_expectations" →
    ∀ token ∈ report.checks.values, token ∈ agreeingTokens

theorem matchToken_mem (same : Bool) : matchToken same = py "matched" ∨ matchToken same = py "mismatch" := by
  cases same
  · exact Or.inr rfl
  · exact Or.inl rfl

theorem requiredVerifiers_token (expected : Expectation) (payload envelope : JsonFields) :
    (receiptChecks expected payload envelope).requiredVerifiers = py "not_requested" ∨
      (receiptChecks expected payload envelope).requiredVerifiers = py "matched" ∨
      (receiptChecks expected payload envelope).requiredVerifiers = py "missing" := by
  unfold receiptChecks
  dsimp only
  split_ifs
  · exact Or.inl rfl
  · exact Or.inr (Or.inl rfl)
  · exact Or.inr (Or.inr rfl)

theorem ends_outputToken (payload : JsonFields) (sizeKey hashKey : PyStr) (path : Option PyStr) :
    Proc.Ends (outputToken payload sizeKey hashKey path) fun token =>
      token = py "not_provided" ∨ token = py "matched" ∨ token = py "mismatch" := by
  cases path with
  | none => exact Proc.ends_pure (Or.inl rfl)
  | some path =>
      refine Proc.ends_bind (Proc.ends_trivial _) fun data _ => Proc.ends_pure (Or.inr ?_)
      exact matchToken_mem _

/-- The checks of a valid receipt, whatever the outputs show. -/
structure Weighed (checks : EvidenceChecks) : Prop where
  receipt : checks.receipt = py "valid"
  repository : checks.repository = py "matched" ∨ checks.repository = py "mismatch"
  commit : checks.commit = py "matched" ∨ checks.commit = py "mismatch"
  command : checks.command = py "matched" ∨ checks.command = py "mismatch"
  timeoutMs : checks.timeoutMs = py "matched" ∨ checks.timeoutMs = py "mismatch"
  issuer : checks.issuer = py "matched" ∨ checks.issuer = py "mismatch"
  requiredVerifiers : checks.requiredVerifiers = py "not_requested" ∨
    checks.requiredVerifiers = py "matched" ∨ checks.requiredVerifiers = py "missing"
  execution : checks.execution = py "passed" ∨ checks.execution = py "failed" ∨
    checks.execution = py "timed_out"
  stdout : checks.stdout = py "not_provided" ∨ checks.stdout = py "matched" ∨ checks.stdout = py "mismatch"
  stderr : checks.stderr = py "not_provided" ∨ checks.stderr = py "matched" ∨ checks.stderr = py "mismatch"

/-- The tokens that keep a receipt from matching. -/
def reasonTokens : List PyStr := [py "mismatch", py "missing", py "not_provided"]

/-- A listed token that agrees, or is a reason against the receipt. -/
def Accounted (checks : EvidenceChecks) (token : PyStr) : Prop :=
  token ∈ checkTokens ∧ (token ∈ agreeingTokens ∨ token ∈ reasonTokens ∨
    (token = checks.execution ∧ token ≠ py "passed"))

section Accounts

variable {checks : EvidenceChecks} {token : PyStr}

theorem accounted_agreeing (h : token ∈ agreeingTokens) : Accounted checks token := by
  have hlisted : ∀ t ∈ agreeingTokens, t ∈ checkTokens := by decide
  exact ⟨hlisted token h, Or.inl h⟩

theorem accounted_reason (h : token ∈ reasonTokens) : Accounted checks token := by
  have hlisted : ∀ t ∈ reasonTokens, t ∈ checkTokens := by decide
  exact ⟨hlisted token h, Or.inr (Or.inl h)⟩

theorem accounted_match (h : token = py "matched" ∨ token = py "mismatch") : Accounted checks token := by
  rcases h with rfl | rfl
  · exact accounted_agreeing (by decide)
  · exact accounted_reason (by decide)

theorem accounted_output (h : token = py "not_provided" ∨ token = py "matched" ∨ token = py "mismatch") :
    Accounted checks token := by
  rcases h with rfl | h
  · exact accounted_reason (by decide)
  · exact accounted_match h

theorem accounted_execution (htoken : token = checks.execution)
    (h : token = py "passed" ∨ token = py "failed" ∨ token = py "timed_out") : Accounted checks token := by
  rcases h with rfl | rfl | rfl
  · exact accounted_agreeing (by decide)
  · exact ⟨by decide, Or.inr (Or.inr ⟨htoken, by decide⟩)⟩
  · exact ⟨by decide, Or.inr (Or.inr ⟨htoken, by decide⟩)⟩

/-- Every token of a valid receipt's checks. -/
theorem Weighed.accounted (h : Weighed checks) (htoken : token ∈ checks.values) : Accounted checks token := by
  simp only [EvidenceChecks.values, List.mem_cons, List.not_mem_nil, or_false] at htoken
  rcases htoken with rfl | rfl | rfl | rfl | rfl | rfl | rfl | rfl | rfl | rfl
  · rw [h.receipt]
    exact accounted_agreeing (by decide)
  · exact accounted_match h.repository
  · exact accounted_match h.commit
  · exact accounted_match h.command
  · exact accounted_match h.timeoutMs
  · exact accounted_match h.issuer
  · rcases h.requiredVerifiers with h | h | h
    · rw [h]
      exact accounted_agreeing (by decide)
    · rw [h]
      exact accounted_agreeing (by decide)
    · rw [h]
      exact accounted_reason (by decide)
  · exact accounted_execution rfl h.execution
  · exact accounted_output h.stdout
  · exact accounted_output h.stderr

end Accounts

/-- The report of a valid receipt. -/
theorem Weighed.listed {checks : EvidenceChecks} (h : Weighed checks) :
    Listed { status := statusOf checks, checks := checks } := by
  refine ⟨?_, fun token htoken => (h.accounted htoken).1, fun hstatus token htoken => ?_⟩
  · show statusOf checks ∈ statusTokens
    unfold statusOf
    split_ifs <;> decide
  have hmatches : statusOf checks = py "matches_local_expectations" := hstatus
  unfold statusOf at hmatches
  split_ifs at hmatches with hdiffers hmissing
  · exact absurd hmatches (by decide)
  · exact absurd hmatches (by decide)
  rw [not_or, not_not, List.contains_iff_mem] at hdiffers
  rw [not_or, List.contains_iff_mem, List.contains_iff_mem] at hmissing
  obtain hagrees | hreason | ⟨rfl, hfailed⟩ := (h.accounted htoken).2
  · exact hagrees
  · -- a reason shows in the status
    simp only [reasonTokens, List.mem_cons, List.not_mem_nil, or_false] at hreason
    rcases hreason with rfl | rfl | rfl
    · exact absurd htoken hdiffers.1
    · exact absurd htoken hmissing.1
    · exact absurd htoken hmissing.2
  · exact absurd hdiffers.2 hfailed

section Platform

variable [Platform]

/-- The result of a receipt that was accepted. -/
theorem execution_of_receiptOf {raw : Bytes} {summary : WorkReceiptSummary} {envelope : JsonFields}
    (h : receiptOf raw = .ok (summary, envelope)) :
    textOf (get summary.payload (py "result")) = py "passed" ∨
      textOf (get summary.payload (py "result")) = py "failed" ∨
      textOf (get summary.payload (py "result")) = py "timed_out" := by
  unfold receiptOf at h
  obtain ⟨envelope', -, h⟩ := PyResult.bind_ok h
  obtain ⟨summary', hverify, h⟩ := PyResult.bind_ok h
  cases h
  have hverified := claim_of_verified (verifyWorkReceipt_value hverify)
  obtain ⟨hresult, -⟩ | ⟨hresult, -⟩ | ⟨hresult, -⟩ := validateResult_ok hverified.1
  · exact Or.inl (by rw [hresult]; rfl)
  · exact Or.inr (Or.inl (by rw [hresult]; rfl))
  · exact Or.inr (Or.inr (by rw [hresult]; rfl))

/-- **Every report is in the fixed vocabulary**, whatever the files are and however they change while
they are read; and where it says that the receipt matches, every check agrees. -/
theorem ends_inspect (expectationPath : PyStr) (receiptPath stdoutPath stderrPath : Option PyStr) :
    Proc.Ends (inspectWorkEvidence expectationPath receiptPath stdoutPath stderrPath) Listed := by
  have hrefused {status receipt : PyStr} (hstatus : status ∈ [py "incomplete", py "invalid_receipt"])
      (hreceipt : receipt ∈ [py "not_provided", py "invalid"]) :
      Listed { status, checks := { notChecked with receipt } } := by
    have hne : status ≠ py "matches_local_expectations" := by
      rintro rfl
      exact absurd hstatus (by decide)
    refine ⟨?_, fun token htoken => ?_, fun h => absurd h hne⟩
    · have hlisted : ∀ t ∈ [py "incomplete", py "invalid_receipt"], t ∈ statusTokens := by decide
      exact hlisted status hstatus
    · simp only [EvidenceChecks.values, notChecked, List.mem_cons, List.not_mem_nil, or_false] at htoken hreceipt
      rcases hreceipt with rfl | rfl
      · rcases htoken with rfl | rfl | rfl | rfl | rfl | rfl | rfl | rfl | rfl | rfl <;> decide
      · rcases htoken with rfl | rfl | rfl | rfl | rfl | rfl | rfl | rfl | rfl | rfl <;> decide
  unfold inspectWorkEvidence
  refine Proc.ends_bind (Proc.ends_trivial _) fun expected _ => ?_
  cases receiptPath with
  | none => exact Proc.ends_pure (hrefused (by decide) (by decide))
  | some path =>
      refine Proc.ends_bind (Proc.ends_trivial _) fun raw _ => ?_
      cases hreceipt : receiptOf raw with
      | error e =>
          dsimp only
          split_ifs
          · exact Proc.ends_pure (hrefused (by decide) (by decide))
          · exact Proc.ends_throw _
      | ok found =>
          obtain ⟨summary, envelope⟩ := found
          refine Proc.ends_bind (ends_outputToken _ _ _ _) fun stdout hstdout => ?_
          refine Proc.ends_bind (ends_outputToken _ _ _ _) fun stderr hstderr => ?_
          refine Proc.ends_pure (Weighed.listed ?_)
          exact ⟨rfl, matchToken_mem _, matchToken_mem _, matchToken_mem _, matchToken_mem _,
            matchToken_mem _, requiredVerifiers_token expected summary.payload envelope,
            execution_of_receiptOf hreceipt, hstdout, hstderr⟩

end Platform

end WorkEvidence
