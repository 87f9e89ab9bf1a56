/-
# From an observation to a receipt

The observer and the checks of a receipt each have rules for the CI state, the counts, the
merge commit and the identity of a pull request.  They agree but for one case: the observer
reports the failure of a combined status that counts nothing, and the checks want a record
for every CI state but `no_signals`.

* `Observed`              : what holds of evidence that `inspect` returns;
* `validate_observed_iff` : **when the checks accept it**;
* `observed_receipts_iff` : when it can be signed, swept and read back;
* `no_receipt_emptyFailure` : a failing combined status without statuses.
-/
import SafeAgent.ReceiptTexts

open PyText

namespace Receipt

open Json PyItems

/-! ## Evidence that was observed -/

/-- How many records were seen, how many there are, and whether these are all of them. -/
structure Counted (observed total : ℕ) (complete : Bool) : Prop where
  le : observed ≤ total
  complete_iff : complete = decide (observed = total)
  fits : AgentState.NumberFits total

/-- What holds of evidence that `inspect` returns, with the two summaries behind it. -/
structure Observed (evidence : PullRequestEvidence) (checks : CheckSummary)
    (statuses : StatusSummary) : Prop where
  reference : ∃ reference : PullRequestRef, evidence.repository = reference.fullName ∧
    evidence.number = reference.number ∧ evidence.url = reference.url
  repository_ok : parseRepository (.str evidence.repository) = .ok evidence.repository
  author_ok : isAuthor evidence.author = true
  state_ok : evidence.state ∈ [py "open", py "closed"]
  headSha_ok : isSha evidence.headSha = true
  baseSha_ok : isSha evidence.baseSha = true
  merge_ok : ∀ sha, evidence.mergeCommitSha = some sha → evidence.merged = true ∧ isSha sha = true
  ci_eq : evidence.ci = ciState checks statuses
  complete_eq : evidence.ciDataComplete = (checks.complete && statuses.complete)
  checksObserved_eq : evidence.checksObserved = checks.observed
  checksTotal_eq : evidence.checksTotal = checks.total
  statusesObserved_eq : evidence.statusesObserved = statuses.observed
  statusesTotal_eq : evidence.statusesTotal = statuses.total
  checks_ok : Counted checks.observed checks.total checks.complete
  statuses_ok : Counted statuses.observed statuses.total statuses.complete
  failure_counted : checks.hasFailure = true → 0 < checks.total
  updated_ok : (UtcTime.parseIso evidence.sourceUpdatedAt).isSome = true

/-- A number of an object that was read can be written. -/
theorem numberFits_of_asNat {fields : JsonFields} (h : intsFit (.obj fields) = true) {key : PyStr}
    {n : ℕ} (hn : Protocol.asNat (get fields key) = some n) : AgentState.NumberFits n := by
  have hfit := intsFit_get h key
  rw [Protocol.eq_int_of_asNat hn, intsFit, decide_eq_true_eq, Int.natAbs_natCast] at hfit
  exact hfit

theorem counted_of_parseChecks {payload : JsonFields} (hfit : intsFit (.obj payload) = true)
    {sha : PyStr} {summary : CheckSummary} (h : parseChecks payload sha = .ok summary) :
    Counted summary.observed summary.total summary.complete ∧
      (summary.hasFailure = true → 0 < summary.total) := by
  obtain ⟨htotal, -, hfailure, -⟩ := parseChecks_ok h
  unfold parseChecks at h
  obtain ⟨total, hcount, h⟩ := PyResult.bind_ok h
  obtain ⟨runs, hruns, h⟩ := PyResult.bind_ok h
  rw [PyResult.check_eq_ok, not_or, not_lt] at h
  obtain ⟨⟨hle, -⟩, h⟩ := h
  obtain ⟨⟨failed, pending⟩, -, h⟩ := PyResult.bind_ok h
  cases h
  refine ⟨⟨hle, rfl, numberFits_of_asNat hfit (requireCount_ok hcount)⟩, fun hfailed => ?_⟩
  -- a failed run is one of those that were counted
  have hrunsOf : (runsOf payload).length = runs.length := by
    rw [runsOf, requireList_ok hruns, Option.getD_some, List.length_map]
  have hany : (runsOf payload).any runFailed = true := hfailure.symm.trans hfailed
  obtain ⟨run, hmem, -⟩ := List.any_eq_true.mp hany
  have hpos : 0 < (runsOf payload).length := List.length_pos_of_mem hmem
  dsimp only
  omega

theorem counted_of_parseStatuses {payload : JsonFields} (hfit : intsFit (.obj payload) = true)
    {sha : PyStr} {summary : StatusSummary} (h : parseStatuses payload sha = .ok summary) :
    Counted summary.observed summary.total summary.complete := by
  unfold parseStatuses at h
  obtain ⟨statusSha, -, h⟩ := PyResult.bind_ok h
  rw [PyResult.check_eq_ok] at h
  obtain ⟨known, -, h⟩ := PyResult.bind_ok h.2
  split at h
  · obtain ⟨total, hcount, h⟩ := PyResult.bind_ok h
    obtain ⟨statuses, -, h⟩ := PyResult.bind_ok h
    rw [PyResult.check_eq_ok, not_or, not_lt] at h
    obtain ⟨⟨hle, -⟩, h⟩ := h
    cases h
    exact ⟨hle, rfl, numberFits_of_asNat hfit (requireCount_ok hcount)⟩
  · cases h

section Platform

variable [Platform]

/-- **What `inspect` has read** when it returns. -/
theorem inspect_ok {transport : GitHubTransport} {reference : PullRequestRef}
    {evidence : PullRequestEvidence} (h : inspect transport reference = .ok evidence) :
    ∃ pull details checks c statuses t, Answers transport (pullPath reference) pull ∧
      AcceptedPull pull reference details ∧
      Answers transport (checksPath reference details.headSha) checks ∧
      parseChecks checks details.headSha = .ok c ∧
      Answers transport (statusPath reference details.headSha) statuses ∧
      parseStatuses statuses details.headSha = .ok t ∧
      evidence.headSha = details.headSha ∧ Observed evidence c t := by
  unfold inspect at h
  obtain ⟨pull, hpull, h⟩ := PyResult.bind_ok h
  obtain ⟨details, hdetails, h⟩ := PyResult.bind_ok h
  rw [requestObject_eq_ok (safePath_pull reference)] at hpull
  rw [parsePull_eq_ok] at hdetails
  -- the head of the pull request is in the paths of the two other reads
  have hsha := hdetails.headSha_ok
  obtain ⟨checks, hchecks, h⟩ := PyResult.bind_ok h
  obtain ⟨c, hc, h⟩ := PyResult.bind_ok h
  obtain ⟨statuses, hstatuses, h⟩ := PyResult.bind_ok h
  obtain ⟨t, ht, h⟩ := PyResult.bind_ok h
  rw [requestObject_eq_ok (safePath_checks reference hsha)] at hchecks
  rw [requestObject_eq_ok (safePath_status reference hsha)] at hstatuses
  have hfit : ∀ {path fields}, Answers transport path fields → intsFit (.obj fields) = true := by
    rintro path fields ⟨response, -, -, hloads⟩
    exact loads_intsFit (hookKeepsMembers_dict rfl) hloads
  obtain ⟨hcounted, hfailure⟩ := counted_of_parseChecks (hfit hchecks) hc
  obtain ⟨base, hreached, -⟩ := hdetails.base
  obtain ⟨repo, -, -, hrepository⟩ := hreached.repo
  obtain ⟨canonical, hname, hnumber, hurl⟩ :=
    exists_ref hrepository reference.number_pos reference.number_le
  obtain ⟨user, -, hauthor⟩ := hreached.author
  rw [Option.filter_eq_some_iff] at hauthor
  cases h
  refine ⟨pull, details, checks, c, statuses, t, hpull, hdetails, hchecks, hc, hstatuses, ht, rfl,
    ⟨⟨canonical, hname.symm, ?_, ?_⟩, ?_, hauthor.2, hdetails.state_ok, hsha, hdetails.baseSha_ok, ?_, rfl,
      rfl, rfl, rfl, rfl, rfl, hcounted, counted_of_parseStatuses (hfit hstatuses) ht, hfailure,
      hdetails.updated_ok⟩⟩
  · rw [hnumber]
    exact hdetails.number
  · rw [hurl, ← hdetails.number]
    exact hdetails.url
  · rw [parseRepository_ok hrepository] at hrepository
    exact hrepository
  · intro sha hmerge
    dsimp only at hmerge
    -- a merge commit is there for a merged pull request only
    rcases hdetails.merge with ⟨hnone, -⟩ | ⟨hmerged, sha', hsome, hsha', -⟩
    · rw [hnone] at hmerge
      cases hmerge
    · rw [hsome] at hmerge
      cases hmerge
      exact ⟨hmerged, hsha'⟩

end Platform

/-! ## The clock -/

theorem digitPair_pad (n : ℕ) :
    UtcTime.digitPair (48 + n / 10 % 10) (48 + n % 10) = n % 100 := by
  rw [UtcTime.digitPair]
  omega

section Clock

variable [Platform]

/-- A moment of a year of four digits is written as `_require_timestamp` wants it. -/
theorem parseIso_formatTimestamp {t : UtcTime} (hyear : 1000 ≤ t.year) {stamp : PyStr}
    (h : formatTimestamp (.utc t) = .ok stamp) : (UtcTime.parseIso stamp).isSome = true := by
  have hdigit : ∀ n, isDigit (48 + n % 10) = true := by
    intro n
    have hlt := Nat.mod_lt n (show 10 > 0 by decide)
    simp only [isDigit, Bool.and_eq_true, decide_eq_true_eq]
    omega
  obtain ⟨hmin, hmax⟩ := t.year_ok
  obtain ⟨hmonth, hmonth'⟩ := t.month_ok
  obtain ⟨hday, hday'⟩ := t.day_ok
  obtain ⟨hhour, hminute, hsecond⟩ := t.time_ok
  have hcentury : UtcTime.digitPair (48 + t.year / 1000 % 10) (48 + t.year / 100 % 10) =
      t.year / 100 := by
    rw [UtcTime.digitPair]
    omega
  have hdays : daysInMonth t.year t.month ≤ 31 := by
    unfold daysInMonth
    split_ifs <;> omega
  cases h
  simp only [Audit.formatYear, if_pos (Or.inl hyear), Audit.pad2, List.cons_append, List.nil_append,
    UtcTime.parseIso, hcentury, digitPair_pad, hdigit, List.all_cons, List.all_nil, Bool.and_true,
    if_true]
  rw [Nat.div_add_mod, Nat.mod_eq_of_lt (by omega : t.month < 100),
    Nat.mod_eq_of_lt (by omega : t.day < 100), Nat.mod_eq_of_lt (by omega : t.hour < 100),
    Nat.mod_eq_of_lt (by omega : t.minute < 100), Nat.mod_eq_of_lt (by omega : t.second < 100),
    UtcTime.ofParts, dif_pos ⟨t.year_ok, t.month_ok, t.day_ok, t.time_ok⟩]
  rfl

end Clock

/-! ## The checks -/

section Checks

variable [Platform] {evidence : PullRequestEvidence} {checks : CheckSummary}
  {statuses : StatusSummary} {issuer stamp : PyStr}

omit [Platform] in
theorem requireCount_nat (n : ℕ) (label : String) : requireCount (.int n) label = .ok n :=
  requireCount_eq_ok.mpr (by simp [Protocol.asNat, asInt])

omit [Platform] in
theorem validateReceiptHeader_payload (hissuer : Crypto.isDid issuer = true) :
    validateReceiptHeader (receiptPayload evidence issuer stamp) = .ok () := by
  have hvalue : get (receiptPayload evidence issuer stamp) (py "issuer") = .str issuer := rfl
  unfold validateReceiptHeader
  rw [hvalue, if_neg (by simp; exact ⟨rfl, rfl, rfl⟩), Crypto.validateDidValue]
  simp only [asStr, Crypto.validateDid, if_pos hissuer]

omit [Platform] in
theorem validateReceiptCommits_payload (h : Observed evidence checks statuses) :
    validateReceiptCommits (receiptPayload evidence issuer stamp) = .ok () := by
  have hhead : get (receiptPayload evidence issuer stamp) (py "head_sha") = .str evidence.headSha := rfl
  have hbase : get (receiptPayload evidence issuer stamp) (py "base_sha") = .str evidence.baseSha := rfl
  have hmerged : get (receiptPayload evidence issuer stamp) (py "merged") = .bool evidence.merged := rfl
  have hmerge : get (receiptPayload evidence issuer stamp) (py "merge_commit_sha") =
      optText evidence.mergeCommitSha := rfl
  unfold validateReceiptCommits
  rw [hhead, hbase, hmerged, hmerge, requireSha_eq_ok.mpr ⟨rfl, h.headSha_ok⟩,
    requireSha_eq_ok.mpr ⟨rfl, h.baseSha_ok⟩]
  cases hsha : evidence.mergeCommitSha with
  | none => rfl
  | some sha =>
      obtain ⟨htrue, hok⟩ := h.merge_ok sha hsha
      simp only [bind, Except.bind, htrue, asBool, optText, requireSha_eq_ok.mpr ⟨rfl, hok⟩]
      rfl

theorem validateReceiptSubject_payload (h : Observed evidence checks statuses) :
    validateReceiptSubject (receiptPayload evidence issuer stamp) = .ok () := by
  obtain ⟨reference, hrepository, hnumber, hurl⟩ := h.reference
  have hvalues : get (receiptPayload evidence issuer stamp) (py "repository") = .str reference.fullName ∧
      get (receiptPayload evidence issuer stamp) (py "pull_number") = .int reference.number ∧
      get (receiptPayload evidence issuer stamp) (py "url") = .str reference.url := by
    rw [← hrepository, ← hnumber, ← hurl]
    exact ⟨rfl, rfl, rfl⟩
  have hauthor : get (receiptPayload evidence issuer stamp) (py "author") = .str evidence.author := rfl
  have hstate : inNames (get (receiptPayload evidence issuer stamp) (py "state"))
      [py "open", py "closed"] = .ok true := inNames_eq_true.mpr ⟨_, h.state_ok, rfl⟩
  have hmerged : get (receiptPayload evidence issuer stamp) (py "merged") = .bool evidence.merged := rfl
  have hdraft : get (receiptPayload evidence issuer stamp) (py "draft") = .bool evidence.draft := rfl
  have hname : parseRepository (.str reference.fullName) = .ok reference.fullName := by
    rw [← hrepository]
    exact h.repository_ok
  have hparse : parseUrlValue (.str reference.url) = .ok reference := parse_url reference
  unfold validateReceiptSubject
  rw [hvalues.1, hvalues.2.1, hvalues.2.2, hauthor, hstate, hmerged, hdraft, hname, requireCount_nat,
    hparse]
  simp [bind, Except.bind, reference.number_pos.ne', asStr, h.author_ok, asBool]

omit [Platform] in
/-- The counts are consistent, and complete when both summaries are. -/
theorem validateReceiptCiCounts_payload (h : Observed evidence checks statuses) :
    validateReceiptCiCounts (receiptPayload evidence issuer stamp) =
      .ok (checks.total + statuses.total, checks.complete && statuses.complete) := by
  have hchecks : get (receiptPayload evidence issuer stamp) (py "checks_observed") =
        .int checks.observed ∧
      get (receiptPayload evidence issuer stamp) (py "checks_total") = .int checks.total := by
    rw [← h.checksObserved_eq, ← h.checksTotal_eq]
    exact ⟨rfl, rfl⟩
  have hstatuses : get (receiptPayload evidence issuer stamp) (py "statuses_observed") =
        .int statuses.observed ∧
      get (receiptPayload evidence issuer stamp) (py "statuses_total") = .int statuses.total := by
    rw [← h.statusesObserved_eq, ← h.statusesTotal_eq]
    exact ⟨rfl, rfl⟩
  have hcomplete : get (receiptPayload evidence issuer stamp) (py "ci_data_complete") =
      .bool evidence.ciDataComplete := rfl
  have hboth : (checks.complete && statuses.complete) =
      decide (checks.observed = checks.total ∧ statuses.observed = statuses.total) := by
    rw [h.checks_ok.complete_iff, h.statuses_ok.complete_iff, Bool.decide_and]
  unfold validateReceiptCiCounts
  rw [hchecks.1, hchecks.2, hstatuses.1, hstatuses.2, hcomplete, h.complete_eq, hboth]
  simp only [requireCount_nat, bind, Except.bind, asBool, ne_eq, not_true_eq_false, if_false]
  rw [if_neg]
  rw [not_or, not_lt, not_lt]
  exact ⟨h.checks_ok.le, h.statuses_ok.le⟩

/-- A failing combined status that counts nothing, and no check runs. -/
def FailsWithoutRecords (checks : CheckSummary) (statuses : StatusSummary) : Prop :=
  checks.total + statuses.total = 0 ∧
    (statuses.state = py "error" ∨ statuses.state = py "failure")

omit [Platform] in
/-- What the checks want of a known CI state. -/
theorem validateReceiptCi_eq_ok {payload : JsonFields} {ci : PyStr} {flag complete : Bool}
    {signals : ℕ} (hci : get payload (py "ci") = .str ci) (hmem : ci ∈ ciStates)
    (hflag : get payload (py "ci_data_complete") = .bool flag)
    (hcounts : validateReceiptCiCounts payload = .ok (signals, complete)) :
    validateReceiptCi payload = .ok () ↔
      (ci = py "no_signals" ↔ signals = 0) ∧ ¬(ci = py "partial" ∧ complete = true) ∧
        ¬((ci = py "pending" ∨ ci = py "success") ∧ complete = false) := by
  have hknown : inNames (get payload (py "ci")) ciStates = .ok true :=
    inNames_eq_true.mpr ⟨ci, hmem, hci⟩
  unfold validateReceiptCi
  dsimp only
  rw [hknown, hflag, hcounts]
  simp only [bind, Except.bind, asBool, Option.isNone_some, not_true_eq_false, Bool.false_eq_true,
    or_self, if_false, PyResult.check_eq_ok, hci, isStr_iff, Json.str.injEq, and_true,
    Bool.not_eq_true]
  constructor
  · rintro ⟨hnone, hsome, hpartial, hsettled⟩
    refine ⟨⟨fun h => ?_, fun h => ?_⟩, hpartial, hsettled⟩
    · by_contra hne
      exact hnone ⟨h, hne⟩
    · by_contra hne
      exact hsome ⟨hne, h⟩
  · rintro ⟨hiff, hpartial, hsettled⟩
    exact ⟨fun h => h.2 (hiff.mp h.1), fun h => h.1 (hiff.mpr h.2), hpartial, hsettled⟩

omit [Platform] in
theorem ciState_mem : ciState checks statuses ∈ ciStates := by
  unfold ciState
  split_ifs <;> decide

omit [Platform] in
/-- The branches of `inspect` against the checks of the CI state, branch by branch. -/
theorem validateReceiptCi_payload_iff (h : Observed evidence checks statuses) :
    validateReceiptCi (receiptPayload evidence issuer stamp) = .ok () ↔
      ¬FailsWithoutRecords checks statuses := by
  have hci : get (receiptPayload evidence issuer stamp) (py "ci") = .str (ciState checks statuses) := by
    rw [← h.ci_eq]
    rfl
  have hfailure := h.failure_counted
  rw [validateReceiptCi_eq_ok hci ciState_mem rfl (validateReceiptCiCounts_payload h)]
  unfold ciState FailsWithoutRecords
  by_cases hfailed : checks.hasFailure = true ∨ statuses.state = py "error" ∨
      statuses.state = py "failure"
  · rw [if_pos hfailed]
    -- a failed run is counted, so it is the combined status that counts nothing
    have hcombined : checks.total + statuses.total = 0 →
        statuses.state = py "error" ∨ statuses.state = py "failure" := by
      intro hzero
      rcases hfailed with hrun | hcombined
      · have hpos := hfailure hrun
        omega
      · exact hcombined
    simp only [show ¬py "failure" = py "no_signals" by decide, show ¬py "failure" = py "partial" by decide,
      show ¬py "failure" = py "pending" by decide, show ¬py "failure" = py "success" by decide,
      false_iff, false_and, or_self, not_false_eq_true, and_true]
    exact ⟨fun hne hzero => hne hzero.1, fun hne hzero => hne ⟨hzero, hcombined hzero⟩⟩
  have hnot : ¬(checks.total + statuses.total = 0 ∧
      (statuses.state = py "error" ∨ statuses.state = py "failure")) := fun hzero =>
    hfailed (Or.inr hzero.2)
  rw [if_neg hfailed, iff_true_right hnot]
  by_cases hcomplete : (checks.complete && statuses.complete) = true
  · rw [if_neg (not_not.mpr hcomplete), hcomplete]
    by_cases hzero : checks.total + statuses.total = 0
    · rw [if_pos hzero]
      simp [hzero, show ¬py "no_signals" = py "partial" by decide]
    · rw [if_neg hzero]
      by_cases hpending : checks.hasPending = true ∨ statuses.state = py "pending"
      · rw [if_pos hpending]
        simp [-Nat.add_eq_zero_iff, hzero, show ¬py "pending" = py "no_signals" by decide,
          show ¬py "pending" = py "partial" by decide]
      · rw [if_neg hpending]
        simp [-Nat.add_eq_zero_iff, hzero, show ¬py "success" = py "no_signals" by decide,
          show ¬py "success" = py "partial" by decide]
  · -- where records are missing there are some
    have hsome : checks.total + statuses.total ≠ 0 := by
      intro hzero
      have hle := h.checks_ok.le
      have hle' := h.statuses_ok.le
      rw [h.checks_ok.complete_iff, h.statuses_ok.complete_iff, ← Bool.decide_and,
        decide_eq_true_eq] at hcomplete
      omega
    rw [if_pos hcomplete]
    rw [Bool.not_eq_true] at hcomplete
    simp [-Nat.add_eq_zero_iff, hcomplete, hsome, show ¬py "partial" = py "no_signals" by decide,
      show ¬py "partial" = py "pending" by decide, show ¬py "partial" = py "success" by decide]

/-- **When the checks accept what was observed.** -/
theorem validate_observed_iff (h : Observed evidence checks statuses)
    (hissuer : Crypto.isDid issuer = true) (hstamp : (UtcTime.parseIso stamp).isSome = true) :
    validateReceiptPayload (receiptPayload evidence issuer stamp) = .ok () ↔
      ¬FailsWithoutRecords checks statuses := by
  have hkeys : hasKeys (receiptPayload evidence issuer stamp) receiptPayloadKeys = true := rfl
  have hupdated : requireTimestamp (get (receiptPayload evidence issuer stamp)
      (py "source_updated_at")) "receipt source timestamp" = .ok evidence.sourceUpdatedAt :=
    requireTimestamp_eq_ok.mpr ⟨rfl, h.updated_ok⟩
  have hobserved : requireTimestamp (get (receiptPayload evidence issuer stamp) (py "observed_at"))
      "receipt observation timestamp" = .ok stamp := requireTimestamp_eq_ok.mpr ⟨rfl, hstamp⟩
  have hci : validateReceiptCi (receiptPayload evidence issuer stamp) = .ok () ↔
      ¬FailsWithoutRecords checks statuses := validateReceiptCi_payload_iff h
  rw [← hci]
  unfold validateReceiptPayload
  rw [if_neg (not_not.mpr hkeys), validateReceiptHeader_payload hissuer,
    validateReceiptSubject_payload h, validateReceiptCommits_payload h, hupdated, hobserved]
  cases validateReceiptCi (receiptPayload evidence issuer stamp) with
  | ok _ => exact Iff.rfl
  | error e => exact iff_of_false (by rintro ⟨⟩) (by rintro ⟨⟩)

/-! ## What is signed -/

omit [Platform] in
theorem isAscii_of_isAuthor {s : PyStr} (h : isAuthor s = true) : ∀ c ∈ s, isAscii c = true := by
  have hlogin : ∀ {login : PyStr}, (login.all fun c => isAlnum c || c == 45) = true →
      ∀ c ∈ login, isAscii c = true := by
    intro login hall c hc
    have hchar := List.all_eq_true.mp hall c hc
    rw [Bool.or_eq_true, beq_iff_eq] at hchar
    rcases hchar with halnum | rfl
    · exact isAscii_of_isAlnum halnum
    · rfl
  unfold isAuthor at h
  simp only [Bool.and_eq_true] at h
  by_cases hbot : endsWith (py "[bot]") s = true
  · rw [if_pos hbot] at h
    obtain ⟨login, rfl⟩ := List.isSuffixOf_iff_suffix.mp hbot
    have htake : (login ++ py "[bot]").take ((login ++ py "[bot]").length - 5) = login := by
      rw [List.length_append]
      exact List.take_left
    rw [htake] at h
    intro c hc
    rcases List.mem_append.mp hc with hc | hc
    · exact hlogin h.1.2 c hc
    · have hsuffix : ∀ c ∈ py "[bot]", isAscii c = true := by decide
      exact hsuffix c hc
  · rw [if_neg hbot] at h
    exact hlogin h.1.2

omit [Platform] in
theorem isAscii_url (reference : PullRequestRef) : ∀ c ∈ reference.url, isAscii c = true := by
  intro c hc
  have hchar := isUrlChar_url reference c hc
  simp only [isUrlChar, isRepositoryChar, Bool.or_eq_true, beq_iff_eq] at hchar
  rcases hchar with ((((halnum | rfl) | rfl) | rfl) | rfl) | rfl
  · exact isAscii_of_isAlnum halnum
  all_goals rfl

omit [Platform] in
theorem isAscii_fullName (reference : PullRequestRef) :
    ∀ c ∈ reference.fullName, isAscii c = true := by
  intro c hc
  refine isAscii_url reference c ?_
  have hurl : reference.url = py "https://github.com/" ++ reference.fullName ++ py "/pull/" ++
      decimal reference.number := by
    simp [PullRequestRef.url, pullRequestUrl, PullRequestRef.fullName]
  rw [hurl]
  simp [hc]

omit [Platform] in
theorem isAscii_of_isSha {s : PyStr} (h : isSha s = true) : ∀ c ∈ s, isAscii c = true := by
  rw [isSha, Bool.and_eq_true, List.all_eq_true] at h
  exact fun c hc => isAscii_of_isHexLower (h.2 c hc)

omit [Platform] in
theorem scalar_int {n : ℕ} (h : AgentState.NumberFits n) :
    Audit.Scalar (.int n) ∧ intsFit (.int n) = true := by
  refine ⟨trivial, ?_⟩
  rw [intsFit, decide_eq_true_eq, Int.natAbs_natCast]
  exact h

omit [Platform] in
theorem scalar_str {s : PyStr} (h : ∀ c ∈ s, isAscii c = true) :
    Audit.Scalar (.str s) ∧ intsFit (.str s) = true := ⟨Audit.scalar_ascii h, rfl⟩

omit [Platform] in
/-- Every value of the payload is a scalar that its text determines. -/
theorem scalar_receiptPayload (h : Observed evidence checks statuses)
    (hissuer : Crypto.isDid issuer = true) (hstamp : (UtcTime.parseIso stamp).isSome = true) :
    ∀ kv ∈ receiptPayload evidence issuer stamp, Audit.Scalar kv.2 ∧ intsFit kv.2 = true := by
  have hconst : ∀ s ∈ [receiptSchema, receiptSource, gitHubApiVersion], ∀ c ∈ s,
      isAscii c = true := by decide
  have hstates : ∀ s ∈ [py "open", py "closed"], ∀ c ∈ s, isAscii c = true := by decide
  have hcis : ∀ s ∈ ciStates, ∀ c ∈ s, isAscii c = true := by decide
  have htime : ∀ {s}, (UtcTime.parseIso s).isSome = true → ∀ c ∈ s, isAscii c = true := by
    intro s hs
    obtain ⟨t, ht⟩ := Option.isSome_iff_exists.mp hs
    exact UtcTime.isAscii_of_parseIso ht
  obtain ⟨reference, hrepository, hnumber, hurl⟩ := h.reference
  have hname : ∀ c ∈ evidence.repository, isAscii c = true := hrepository ▸ isAscii_fullName reference
  have hlink : ∀ c ∈ evidence.url, isAscii c = true := hurl ▸ isAscii_url reference
  have hpull : AgentState.NumberFits evidence.number := by
    rw [hnumber, AgentState.NumberFits, length_decimal_le_iff (by decide)]
    calc reference.number ≤ maxPullRequestNumber := reference.number_le
      _ < 10 ^ 10 := by decide
      _ ≤ 10 ^ maxStrDigits := Nat.pow_le_pow_right (by decide) (by decide)
  have hmerge : Audit.Scalar (optText evidence.mergeCommitSha) ∧
      intsFit (optText evidence.mergeCommitSha) = true := by
    cases hsha : evidence.mergeCommitSha with
    | none => exact ⟨trivial, rfl⟩
    | some sha => exact scalar_str (isAscii_of_isSha (h.merge_ok sha hsha).2)
  have hci : ∀ c ∈ evidence.ci, isAscii c = true := h.ci_eq ▸ hcis _ ciState_mem
  have htotals : AgentState.NumberFits evidence.checksTotal ∧
      AgentState.NumberFits evidence.statusesTotal := by
    rw [h.checksTotal_eq, h.statusesTotal_eq]
    exact ⟨h.checks_ok.fits, h.statuses_ok.fits⟩
  have hobserved : AgentState.NumberFits evidence.checksObserved ∧
      AgentState.NumberFits evidence.statusesObserved := by
    rw [h.checksObserved_eq, h.statusesObserved_eq]
    exact ⟨AgentState.numberFits_of_le h.checks_ok.le h.checks_ok.fits,
      AgentState.numberFits_of_le h.statuses_ok.le h.statuses_ok.fits⟩
  -- each field of the payload by the check that its value has passed
  simp only [receiptPayload, List.forall_mem_cons, List.not_mem_nil, false_implies, implies_true,
    and_true]
  exact ⟨scalar_str (hconst _ (by simp)), scalar_str (Audit.isAscii_of_isDid hissuer),
    scalar_str (hconst _ (by simp)), scalar_str (hconst _ (by simp)), scalar_str hname,
    scalar_int hpull, scalar_str hlink, scalar_str (isAscii_of_isAuthor h.author_ok),
    scalar_str (hstates _ h.state_ok), ⟨trivial, rfl⟩, ⟨trivial, rfl⟩,
    scalar_str (isAscii_of_isSha h.headSha_ok), scalar_str (isAscii_of_isSha h.baseSha_ok), hmerge,
    scalar_str hci, ⟨trivial, rfl⟩, scalar_int hobserved.1, scalar_int htotals.1,
    scalar_int hobserved.2, scalar_int htotals.2, scalar_str (htime h.updated_ok),
    scalar_str (htime hstamp)⟩

omit [Platform] in
/-- The payload is plain. -/
theorem plain_receiptPayload (h : Observed evidence checks statuses)
    (hissuer : Crypto.isDid issuer = true) (hstamp : (UtcTime.parseIso stamp).isSome = true) :
    Plain (.obj (receiptPayload evidence issuer stamp)) := by
  have hkeys : (keys (receiptPayload evidence issuer stamp)).Nodup :=
    show receiptPayloadKeys.Nodup by decide
  have hascii : ∀ key ∈ keys (receiptPayload evidence issuer stamp), ∀ c ∈ key, isAscii c = true :=
    show ∀ key ∈ receiptPayloadKeys, ∀ c ∈ key, isAscii c = true by decide
  refine ⟨hkeys, plainFields_iff.mpr fun kv hkv => ⟨fun c hc => ?_, ?_⟩⟩
  · exact isScalar_of_isAscii (hascii kv.1 (List.mem_map.mpr ⟨kv, hkv, rfl⟩) c hc)
  · obtain ⟨hscalar, hfit⟩ := scalar_receiptPayload h hissuer hstamp kv hkv
    exact hscalar.plain hfit

omit [Platform] in
theorem intsFit_receiptPayload (h : Observed evidence checks statuses)
    (hissuer : Crypto.isDid issuer = true) (hstamp : (UtcTime.parseIso stamp).isSome = true) :
    intsFit (.obj (receiptPayload evidence issuer stamp)) = true := by
  rw [intsFit, intsFitFields_iff]
  exact fun kv hkv => (scalar_receiptPayload h hissuer hstamp kv hkv).2

omit [Platform] in
/-- The wrapper around a plain payload is plain. -/
theorem plain_receiptFields {payload : JsonFields} (hplain : Plain (.obj payload)) (canonical : Bytes)
    {signature : PyStr} (hsignature : Crypto.isSignature signature = true) :
    Plain (.obj (receiptFields payload canonical signature)) := by
  have hhex : ∀ c ∈ Sha256.sha256Hex canonical, isAscii c = true := fun c hc =>
    isAscii_of_isHexLower (Sha256.isHexLower_of_mem_sha256Hex hc)
  have hbase := Audit.isAscii_of_isSignature hsignature
  have hkeys : (keys (receiptFields payload canonical signature)).Nodup :=
    show receiptKeys.Nodup by decide
  have hascii : ∀ key ∈ receiptKeys, ∀ c ∈ key, isScalar c = true := by decide
  exact ⟨hkeys, hascii _ (by simp [receiptKeys]), hplain, hascii _ (by simp [receiptKeys]),
    Audit.scalar_ascii hhex, hascii _ (by simp [receiptKeys]), Audit.scalar_ascii hbase, trivial⟩

section Signing

variable {key : Platform.PrivateKey} {t : UtcTime}

/-- Observed evidence can be signed when the checks accept it. -/
theorem buildSignedReceipt_observed_iff (h : Observed evidence checks statuses)
    (hkey : Crypto.didFromPrivateKey key = .ok issuer) (hyear : 1000 ≤ t.year) :
    (∃ receipt, buildSignedReceipt evidence issuer key (.utc t) = .ok receipt) ↔
      ¬FailsWithoutRecords checks statuses := by
  have hissuer := Crypto.isDid_of_didFromPrivateKey hkey
  obtain ⟨stamp, hformat⟩ : ∃ stamp, formatTimestamp (.utc t) = .ok stamp := ⟨_, rfl⟩
  have hstamp := parseIso_formatTimestamp hyear hformat
  rw [← validate_observed_iff h hissuer hstamp]
  constructor
  · rintro ⟨receipt, hbuild⟩
    obtain ⟨-, timestamp, canonical, signature, htime, hvalid, -⟩ := buildSignedReceipt_ok hbuild
    rw [hformat] at htime
    cases htime
    exact hvalid
  · intro hvalid
    have hdid : Crypto.validateDid issuer = .ok issuer := if_pos hissuer
    have hcanonical : ∃ canonical, canonicalJson (receiptPayload evidence issuer stamp) =
        .ok canonical := by
      refine ⟨toAscii (canonical (.obj (receiptPayload evidence issuer stamp))), ?_⟩
      rw [canonicalJson, dumps, if_pos (intsFit_receiptPayload h hissuer hstamp)]
      rfl
    obtain ⟨canonical, hcanonical⟩ := hcanonical
    obtain ⟨hsigned, -⟩ := Crypto.signDetached_eq key canonical
    simp [buildSignedReceipt, receiptOctets, bind, Except.bind, pure, Except.pure, hdid, hkey, hformat,
      hvalid, hcanonical, hsigned]

theorem renderSignedReceipt_eq_ok {receipt payload : JsonFields} {rendered : PyStr}
    (hvalue : verifySignedReceipt (.value (.obj receipt)) = .ok payload)
    (hdumps : dumps (.obj receipt) = .ok rendered) (hlength : rendered.length ≤ maxReceiptLength) :
    renderSignedReceipt receipt = .ok rendered := by
  unfold renderSignedReceipt
  rw [hvalue]
  show (dumps _ >>= _) = _
  rw [hdumps]
  exact if_neg (not_lt.mpr hlength)

/-- **What becomes of a receipt that was built**: its text is swept and read back unchanged,
if it is short enough. -/
theorem render_observed (hverify : ∀ octets, Platform.verify (Platform.publicBytes key)
      (Platform.sign key octets) octets = true)
    (h : Observed evidence checks statuses) (hkey : Crypto.didFromPrivateKey key = .ok issuer)
    (hyear : 1000 ≤ t.year) {receipt : JsonFields}
    (hbuild : buildSignedReceipt evidence issuer key (.utc t) = .ok receipt) :
    ∃ rendered, dumps (.obj receipt) = .ok rendered ∧ (rendered.length ≤ maxReceiptLength →
      renderSignedReceipt receipt = .ok rendered ∧ Crypto.sweepText rendered = .ok rendered ∧
      ∃ read, verifySignedReceipt (.text rendered) = .ok read ∧
        SameValue (.obj read) (get receipt (py "payload"))) := by
  have hissuer := Crypto.isDid_of_didFromPrivateKey hkey
  obtain ⟨stamp, -, hvalue⟩ := verify_buildSignedReceipt hverify hbuild
  obtain ⟨-, timestamp, canonical, signature, htime, hvalid, hcanonical, hsigned, rfl⟩ :=
    buildSignedReceipt_ok hbuild
  have hstamp := parseIso_formatTimestamp hyear htime
  have hplain := plain_receiptPayload h hissuer hstamp
  obtain ⟨hok, hform⟩ := Crypto.signDetached_eq key canonical
  have hmatch := Crypto.verifyDetached_sign hkey hverify hsigned
  rw [hok] at hsigned
  cases hsigned
  rw [Crypto.isCanonicalSignature, Bool.and_eq_true] at hform
  have hwrapper := plain_receiptFields hplain canonical hform.1
  have hfit : intsFit (.obj (receiptFields (receiptPayload evidence issuer timestamp) canonical
      (Crypto.base64UrlEncode (Platform.sign key canonical)))) = true := by
    have hpayload := intsFit_receiptPayload h hissuer hstamp
    simp only [receiptFields, intsFit, intsFitFields, Bool.and_true] at hpayload ⊢
    exact hpayload
  have hdumps : dumps (.obj (receiptFields (receiptPayload evidence issuer timestamp) canonical
      (Crypto.base64UrlEncode (Platform.sign key canonical)))) =
        .ok (Json.canonical (.obj (receiptFields (receiptPayload evidence issuer timestamp) canonical
          (Crypto.base64UrlEncode (Platform.sign key canonical))))) := by
    rw [dumps, if_pos hfit]
  refine ⟨_, hdumps, fun hlength => ⟨?_, ?_, ?_⟩⟩
  · exact renderSignedReceipt_eq_ok hvalue hdumps hlength
  · exact sweepText_render (plain_sortKeys _ hwrapper) hlength
  · exact verify_renderedText hwrapper
      (fun kv hkv => (scalar_receiptPayload h hissuer hstamp kv hkv).1) hvalid hcanonical rfl hmatch

end Signing

end Checks

/-! ## The responses -/

section Responses

variable [Platform]

/-- Responses to the three reads with a failing combined status that counts nothing, and with no
check runs. -/
def EmptyFailure (transport : GitHubTransport) (reference : PullRequestRef) : Prop :=
  ∃ pull head sha checks statuses, Answers transport (pullPath reference) pull ∧
    (get pull (py "head")).asObj = some head ∧ get head (py "sha") = .str sha ∧
    Answers transport (checksPath reference sha) checks ∧
    Answers transport (statusPath reference sha) statuses ∧
    totalOf checks + totalOf statuses = 0 ∧
    (get statuses (py "state") = .str (py "error") ∨ get statuses (py "state") = .str (py "failure"))

/-- A path is answered with one object. -/
theorem answers_unique {transport : GitHubTransport} {path : PyStr} {a b : JsonFields}
    (ha : Answers transport path a) (hb : Answers transport path b) : a = b := by
  obtain ⟨response, hresponse, -, hloads⟩ := ha
  obtain ⟨response', hresponse', -, hloads'⟩ := hb
  rw [hresponse] at hresponse'
  cases hresponse'
  rw [hloads] at hloads'
  cases hloads'
  rfl

/-- The summaries of an inspection, in terms of the responses. -/
theorem failsWithoutRecords_iff {transport : GitHubTransport} {reference : PullRequestRef}
    {pull checks statuses : JsonFields} {details : PullDetails} {c : CheckSummary} {t : StatusSummary}
    (hpull : Answers transport (pullPath reference) pull) (hdetails : AcceptedPull pull reference details)
    (hchecks : Answers transport (checksPath reference details.headSha) checks)
    (hc : parseChecks checks details.headSha = .ok c)
    (hstatuses : Answers transport (statusPath reference details.headSha) statuses)
    (ht : parseStatuses statuses details.headSha = .ok t) :
    FailsWithoutRecords c t ↔ EmptyFailure transport reference := by
  obtain ⟨hctotal, -⟩ := parseChecks_ok hc
  obtain ⟨httotal, -, -, hstate, -⟩ := parseStatuses_ok ht
  obtain ⟨head, hhead, hsha⟩ := hdetails.head
  constructor
  · rintro ⟨hzero, hfails⟩
    rw [hctotal, httotal] at hzero
    refine ⟨pull, head, details.headSha, checks, statuses, hpull, hhead, hsha, hchecks, hstatuses,
      hzero, ?_⟩
    rw [hstate, Json.str.injEq, Json.str.injEq]
    exact hfails
  · rintro ⟨pull', head', sha, checks', statuses', hpull', hhead', hsha', hchecks', hstatuses', hzero,
      hfails⟩
    cases answers_unique hpull hpull'
    rw [hhead] at hhead'
    cases hhead'
    rw [hsha, Json.str.injEq] at hsha'
    subst hsha'
    cases answers_unique hchecks hchecks'
    cases answers_unique hstatuses hstatuses'
    rw [hstate, Json.str.injEq, Json.str.injEq] at hfails
    exact ⟨by rw [hctotal, httotal]; exact hzero, hfails⟩

/-- **When what is observed can be signed and carried.**  For every inspection that returns
evidence, every key and every moment of a year of four digits: a receipt is built, and its text,
if it is short enough, is swept and read back unchanged, exactly when the responses do not hold a
failing combined status that counts nothing beside no check runs. -/
theorem observed_receipts_iff {transport : GitHubTransport} {reference : PullRequestRef}
    {evidence : PullRequestEvidence} (hinspect : inspect transport reference = .ok evidence)
    {key : Platform.PrivateKey} {issuer : PyStr} (hkey : Crypto.didFromPrivateKey key = .ok issuer)
    (hverify : ∀ octets, Platform.verify (Platform.publicBytes key) (Platform.sign key octets)
      octets = true)
    {t : UtcTime} (hyear : 1000 ≤ t.year) :
    (∃ receipt rendered, buildSignedReceipt evidence issuer key (.utc t) = .ok receipt ∧
      dumps (.obj receipt) = .ok rendered ∧ (rendered.length ≤ maxReceiptLength →
        renderSignedReceipt receipt = .ok rendered ∧ Crypto.sweepText rendered = .ok rendered ∧
        ∃ read, verifySignedReceipt (.text rendered) = .ok read ∧
          SameValue (.obj read) (get receipt (py "payload")))) ↔
      ¬EmptyFailure transport reference := by
  obtain ⟨pull, details, checks, c, statuses, s, hpull, hdetails, hchecks, hc, hstatuses, hs, -,
    hobserved⟩ := inspect_ok hinspect
  rw [← failsWithoutRecords_iff hpull hdetails hchecks hc hstatuses hs,
    ← buildSignedReceipt_observed_iff hobserved hkey hyear]
  constructor
  · rintro ⟨receipt, -, hbuild, -⟩
    exact ⟨receipt, hbuild⟩
  · rintro ⟨receipt, hbuild⟩
    obtain ⟨rendered, hdumps, hrest⟩ := render_observed hverify hobserved hkey hyear hbuild
    exact ⟨receipt, rendered, hbuild, hdumps, hrest⟩

end Responses

/-! ## A failing combined status without statuses -/

section Samples

open Sample

/-- No check runs. -/
def noChecks : JsonFields := [(py "total_count", .int 0), (py "check_runs", .arr [])]

/-- No statuses, with the state `failure`. -/
def failureStatuses : JsonFields :=
  [(py "sha", .str sampleSha), (py "state", .str (py "failure")), (py "total_count", .int 0),
    (py "statuses", .arr [])]

/-- The three responses. -/
def emptyFailureTransport : GitHubTransport := fun path =>
  if path = pullPath sampleReference then .ok (sampleResponse samplePull)
  else if path = checksPath sampleReference sampleSha then .ok (sampleResponse noChecks)
  else .ok (sampleResponse failureStatuses)

theorem requestObject_emptyFailure :
    requestObject emptyFailureTransport (pullPath sampleReference) = .ok samplePull ∧
      requestObject emptyFailureTransport (checksPath sampleReference sampleSha) = .ok noChecks ∧
      requestObject emptyFailureTransport (statusPath sampleReference sampleSha) =
        .ok failureStatuses :=
  ⟨requestObject_sampleResponse (by decide +kernel) (by decide +kernel) rfl (by decide +kernel)
      (by decide +kernel) (by decide +kernel),
    requestObject_sampleResponse (by decide +kernel) (by decide +kernel) rfl (by decide +kernel)
      (by decide +kernel) (by decide +kernel),
    requestObject_sampleResponse (by decide +kernel) (by decide +kernel) rfl (by decide +kernel)
      (by decide +kernel) (by decide +kernel)⟩

theorem inspect_emptyFailure :
    ∃ evidence, inspect emptyFailureTransport sampleReference = .ok evidence := by
  obtain ⟨details, hdetails, hsha⟩ := parsePull_sample
  obtain ⟨hpull, hchecks, hstatuses⟩ := requestObject_emptyFailure
  have hc : ∃ c, parseChecks noChecks sampleSha = .ok c := ⟨_, rfl⟩
  have ht : ∃ t, parseStatuses failureStatuses sampleSha = .ok t := ⟨_, rfl⟩
  obtain ⟨c, hc⟩ := hc
  obtain ⟨t, ht⟩ := ht
  simp only [inspect, hpull, hdetails, hsha, hchecks, hc, hstatuses, ht, bind, Except.bind, pure,
    Except.pure]
  exact ⟨_, rfl⟩

theorem emptyFailure_sample : EmptyFailure emptyFailureTransport sampleReference := by
  obtain ⟨hpull, hchecks, hstatuses⟩ := requestObject_emptyFailure
  have hsha : isSha sampleSha = true := by decide
  rw [requestObject_eq_ok (safePath_pull _)] at hpull
  rw [requestObject_eq_ok (safePath_checks _ hsha)] at hchecks
  rw [requestObject_eq_ok (safePath_status _ hsha)] at hstatuses
  exact ⟨samplePull, [(py "sha", .str sampleSha)], sampleSha, noChecks, failureStatuses, hpull, rfl, rfl,
    hchecks, hstatuses, rfl, Or.inr rfl⟩

/-- The theorem at the sample inspection. -/
theorem observed_receipts_sample : ∃ evidence,
    inspect emptyFailureTransport sampleReference = .ok evidence ∧
    ((∃ receipt rendered, buildSignedReceipt evidence did key (.utc time) = .ok receipt ∧
      dumps (.obj receipt) = .ok rendered ∧ (rendered.length ≤ maxReceiptLength →
        renderSignedReceipt receipt = .ok rendered ∧ Crypto.sweepText rendered = .ok rendered ∧
        ∃ read, verifySignedReceipt (.text rendered) = .ok read ∧
          SameValue (.obj read) (get receipt (py "payload")))) ↔
      ¬EmptyFailure emptyFailureTransport sampleReference) := by
  obtain ⟨evidence, hinspect⟩ := inspect_emptyFailure
  exact ⟨evidence, hinspect, observed_receipts_iff hinspect did_eq (verify_sign key) (by decide)⟩

/-- **A failing combined status without statuses**, on a commit without check runs, gives
evidence for which no receipt can be built. -/
theorem no_receipt_emptyFailure : ∃ evidence,
    inspect emptyFailureTransport sampleReference = .ok evidence ∧
      Crypto.didFromPrivateKey key = .ok did ∧
      ∀ receipt, buildSignedReceipt evidence did key (.utc time) ≠ .ok receipt := by
  obtain ⟨evidence, hinspect⟩ := inspect_emptyFailure
  refine ⟨evidence, hinspect, did_eq, fun receipt hbuild => ?_⟩
  obtain ⟨pull, details, checks, c, statuses, t, hpull, hdetails, hchecks, hc, hstatuses, ht, -,
    hobserved⟩ := inspect_ok hinspect
  refine (buildSignedReceipt_observed_iff hobserved did_eq (by decide)).mp ⟨receipt, hbuild⟩ ?_
  exact (failsWithoutRecords_iff hpull hdetails hchecks hc hstatuses ht).mpr emptyFailure_sample

end Samples

end Receipt
