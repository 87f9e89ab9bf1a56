/-
# The CI state of a receipt

The table of the threat model says which CI state a pair of responses shows; a combined
status carries a meaning only when it counts at least one status.

* `documentedCi`           : the table, on the observations themselves;
* `parseChecks_ok`, `parseStatuses_ok` : what the two summaries say of the responses;
* `ci_eq_documented_iff`   : **when `inspect` follows the table**, for every pair of responses;
* `ci_pending_without_statuses` : a commit without statuses that is reported as pending.
-/
import SafeAgent.GitHubEvidence
import SafeAgent.Sample

open PyText

namespace Receipt

open Json

/-! ## The table -/

/-- The check runs that a response shows. -/
def runsOf (checks : JsonFields) : List JsonFields :=
  ((get checks (py "check_runs")).asArr.getD []).map fun run => run.asObj.getD []

/-- The statuses that a response shows. -/
def statusesOf (statuses : JsonFields) : List Json :=
  (get statuses (py "statuses")).asArr.getD []

/-- How many records a response says there are. -/
def totalOf (payload : JsonFields) : ℕ :=
  (Protocol.asNat (get payload (py "total_count"))).getD 0

/-- A completed check run. -/
def runCompleted (run : JsonFields) : Bool := (get run (py "status")).isStr (py "completed")

/-- A completed check run with a failing conclusion. -/
def runFailed (run : JsonFields) : Bool :=
  runCompleted run && checkFailures.any fun conclusion => (get run (py "conclusion")).isStr conclusion

/-- A combined status that counts something and has one of these states. -/
def combinedIs (statuses : JsonFields) (states : List PyStr) : Bool :=
  0 < totalOf statuses && states.any fun state => (get statuses (py "state")).isStr state

/-- More records exist than a response shows. -/
def incomplete (checks statuses : JsonFields) : Bool :=
  decide ((runsOf checks).length ≠ totalOf checks ∨ (statusesOf statuses).length ≠ totalOf statuses)

/-- **The CI state table.** -/
def documentedCi (checks statuses : JsonFields) : PyStr :=
  if (runsOf checks).any runFailed || combinedIs statuses [py "error", py "failure"] then py "failure"
  else if incomplete checks statuses then py "partial"
  else if totalOf checks + totalOf statuses = 0 then py "no_signals"
  else if (runsOf checks).any (fun run => !runCompleted run) || combinedIs statuses [py "pending"] then
    py "pending"
  else py "success"

/-- The combined state may be read although it counts nothing: it is `success`, or a
failed run decides, or it is `pending` and something else keeps the result from being a
success. -/
def StateIsHarmless (checks statuses : JsonFields) : Prop :=
  0 < totalOf statuses ∨ (runsOf checks).any runFailed = true ∨
    get statuses (py "state") = .str (py "success") ∨
    (get statuses (py "state") = .str (py "pending") ∧
      (incomplete checks statuses = true ∨ totalOf checks = 0 ∨
        (runsOf checks).any (fun run => !runCompleted run) = true))

/-! ## What the summaries say -/

theorem isStr_of_inNames {value : Json} {names : List PyStr} {known : Bool}
    (h : inNames value names = .ok known) : known = names.any fun name => value.isStr name := by
  cases value with
  | arr items => cases h
  | obj fields => cases h
  | str s =>
      cases h
      rw [Bool.eq_iff_iff, List.contains_iff_mem, List.any_eq_true]
      constructor
      · intro hmem
        exact ⟨s, hmem, by simp⟩
      · rintro ⟨name, hmem, hname⟩
        rw [isStr_iff, Json.str.injEq] at hname
        rwa [hname]
  | null => cases h; simp [isStr, asStr]
  | bool b => cases h; simp [isStr, asStr]
  | int n => cases h; simp [isStr, asStr]
  | float r => cases h; simp [isStr, asStr]

theorem requireMapping_ok {value : Json} {label : String} {fields : JsonFields}
    (h : requireMapping value label = .ok fields) : value.asObj = some fields := by
  unfold requireMapping at h
  split at h
  · rename_i fields' hfields
    cases h
    exact hfields
  · cases h

theorem requireList_ok {value : Json} {label : String} {items : List Json}
    (h : requireList value label = .ok items) : value.asArr = some items := by
  unfold requireList at h
  split at h
  · rename_i items' hitems
    cases h
    exact hitems
  · cases h

theorem requireCount_ok {value : Json} {label : String} {n : ℕ}
    (h : requireCount value label = .ok n) : Protocol.asNat value = some n := by
  unfold requireCount at h
  split at h
  · rename_i n' hn
    cases h
    exact hn
  · cases h

/-- One run: it failed, or is going on, as its own fields say. -/
theorem parseRun_ok {rawRun : Json} {sha : PyStr} {failed pending : Bool}
    (h : parseRun rawRun sha = .ok (failed, pending)) :
    failed = runFailed (rawRun.asObj.getD []) ∧ pending = !runCompleted (rawRun.asObj.getD []) := by
  unfold parseRun at h
  obtain ⟨run, hrun, h⟩ := PyResult.bind_ok h
  obtain ⟨runSha, -, h⟩ := PyResult.bind_ok h
  rw [requireMapping_ok hrun, Option.getD_some]
  by_cases hsha : runSha ≠ sha
  · rw [if_pos hsha] at h
    cases h
  rw [if_neg hsha] at h
  obtain ⟨known, -, h⟩ := PyResult.bind_ok h
  by_cases hknown : ¬known = true
  · rw [if_pos hknown] at h
    cases h
  rw [if_neg hknown] at h
  by_cases hdone : (get run (py "status")).isStr (py "completed") = true
  case neg =>
    rw [if_pos hdone] at h
    cases h
    simp [runFailed, runCompleted, hdone]
  rw [if_neg (not_not.mpr hdone)] at h
  obtain ⟨isFailure, hfailure, h⟩ := PyResult.bind_ok h
  have hfailed : runFailed run = isFailure := by
    rw [runFailed, runCompleted, hdone, isStr_of_inNames hfailure, Bool.true_and]
  rw [hfailed, runCompleted, hdone]
  cases isFailure with
  | true =>
      cases h
      exact ⟨rfl, rfl⟩
  | false =>
      rw [if_neg Bool.false_ne_true] at h
      obtain ⟨passed, -, h⟩ := PyResult.bind_ok h
      split_ifs at h
      cases h
      exact ⟨rfl, rfl⟩

/-- The loop over the runs, by induction on those that are left. -/
theorem parseRuns_ok {sha : PyStr} {runs : List Json} {hasFailure hasPending failed pending : Bool}
    (h : parseRuns sha runs hasFailure hasPending = .ok (failed, pending)) :
    failed = (hasFailure || (runs.map fun run => run.asObj.getD []).any runFailed) ∧
      pending = (hasPending ||
        (runs.map fun run => run.asObj.getD []).any fun run => !runCompleted run) := by
  induction runs generalizing hasFailure hasPending with
  | nil =>
      cases h
      simp
  | cons run rest ih =>
      rw [parseRuns] at h
      obtain ⟨⟨runFails, runPends⟩, hrun, h⟩ := PyResult.bind_ok h
      obtain ⟨hfails, hpends⟩ := parseRun_ok hrun
      obtain ⟨hfailed, hpending⟩ := ih h
      rw [hfailed, hpending, hfails, hpends]
      simp only [List.map_cons, List.any_cons, Bool.or_assoc, and_self]

/-- What `_parse_checks` accepts, in terms of the response. -/
theorem parseChecks_ok {payload : JsonFields} {sha : PyStr} {summary : CheckSummary}
    (h : parseChecks payload sha = .ok summary) :
    summary.total = totalOf payload ∧
      summary.complete = decide ((runsOf payload).length = totalOf payload) ∧
      summary.hasFailure = (runsOf payload).any runFailed ∧
      summary.hasPending = (runsOf payload).any (fun run => !runCompleted run) := by
  unfold parseChecks at h
  obtain ⟨total, htotal, h⟩ := PyResult.bind_ok h
  obtain ⟨runs, hruns, h⟩ := PyResult.bind_ok h
  split_ifs at h
  obtain ⟨⟨failed, pending⟩, hloop, h⟩ := PyResult.bind_ok h
  have htotalOf : totalOf payload = total := by rw [totalOf, requireCount_ok htotal, Option.getD_some]
  have hrunsOf : runsOf payload = runs.map fun run => run.asObj.getD [] := by
    rw [runsOf, requireList_ok hruns, Option.getD_some]
  obtain ⟨hfailed, hpending⟩ := parseRuns_ok hloop
  cases h
  rw [htotalOf, hrunsOf, List.length_map]
  exact ⟨rfl, rfl, by simpa using hfailed, by simpa using hpending⟩

/-- What `_parse_statuses` accepts, in terms of the response. -/
theorem parseStatuses_ok {payload : JsonFields} {sha : PyStr} {summary : StatusSummary}
    (h : parseStatuses payload sha = .ok summary) :
    summary.total = totalOf payload ∧
      summary.complete = decide ((statusesOf payload).length = totalOf payload) ∧
      (statusesOf payload).length ≤ totalOf payload ∧
      get payload (py "state") = .str summary.state ∧ summary.state ∈ combinedStatusStates := by
  unfold parseStatuses at h
  obtain ⟨statusSha, -, h⟩ := PyResult.bind_ok h
  split_ifs at h
  obtain ⟨known, hknown, h⟩ := PyResult.bind_ok h
  split at h
  · rename_i state hstate
    obtain ⟨total, htotal, h⟩ := PyResult.bind_ok h
    obtain ⟨statuses, hstatuses, h⟩ := PyResult.bind_ok h
    split_ifs at h with hcounts
    have htotalOf : totalOf payload = total := by
      rw [totalOf, requireCount_ok htotal, Option.getD_some]
    have hstatusesOf : statusesOf payload = statuses := by
      rw [statusesOf, requireList_ok hstatuses, Option.getD_some]
    have hvalue : get payload (py "state") = .str state := by
      cases hget : get payload (py "state") with
      | str s =>
          rw [hget, asStr, Option.some.injEq] at hstate
          rw [hstate]
      | _ =>
          rw [hget] at hstate
          cases hstate
    cases h
    rw [htotalOf, hstatusesOf]
    refine ⟨rfl, rfl, by omega, hvalue, ?_⟩
    rw [hvalue] at hknown
    simpa [inNames] using hknown
  · cases h

/-! ## The table and the code -/

/-- The combined state, read as the table wants it. -/
theorem combinedIs_eq {statuses : JsonFields} {state : PyStr}
    (h : get statuses (py "state") = .str state) (states : List PyStr) :
    combinedIs statuses states = (decide (0 < totalOf statuses) && states.contains state) := by
  rw [combinedIs, h]
  congr 1
  rw [Bool.eq_iff_iff, List.any_eq_true, List.contains_iff_mem]
  constructor
  · rintro ⟨name, hmem, hname⟩
    rw [isStr_iff, Json.str.injEq] at hname
    rwa [hname]
  · intro hmem
    exact ⟨state, hmem, by simp⟩

/-- The branches of `inspect` and the table, case by case in the combined state. -/
theorem ciState_eq_documented_iff {checks statuses : JsonFields} {sha : PyStr} {c : CheckSummary}
    {t : StatusSummary} (hchecks : parseChecks checks sha = .ok c)
    (hstatuses : parseStatuses statuses sha = .ok t) :
    ciState c t = documentedCi checks statuses ↔ StateIsHarmless checks statuses := by
  obtain ⟨hctotal, hccomplete, hcfailure, hcpending⟩ := parseChecks_ok hchecks
  obtain ⟨httotal, htcomplete, -, hstate, hmem⟩ := parseStatuses_ok hstatuses
  have hcomplete : (c.complete && t.complete) = !incomplete checks statuses := by
    rw [hccomplete, htcomplete, incomplete]
    simp [Bool.not_or]
  -- without statuses there is nothing that their response could leave out
  unfold ciState documentedCi StateIsHarmless
  rw [combinedIs_eq hstate, combinedIs_eq hstate, hcomplete, hctotal, httotal, hcfailure, hcpending,
    hstate]
  simp only [Json.str.injEq]
  simp only [combinedStatusStates, List.mem_cons, List.not_mem_nil, or_false] at hmem
  by_cases hpos : 0 < totalOf statuses
  · simp only [hpos, decide_true, Bool.true_and, true_or, iff_true]
    rcases hmem with h | h | h | h <;> rw [h] <;> simp [py]
  · have hzero : totalOf statuses = 0 := by omega
    simp only [hzero, lt_irrefl, decide_false, Bool.false_and, Bool.or_false, Nat.add_zero, false_or]
    cases (runsOf checks).any runFailed <;> cases incomplete checks statuses <;>
      cases (runsOf checks).any (fun run => !runCompleted run) <;>
      by_cases hnone : totalOf checks = 0 <;>
      rcases hmem with h | h | h | h <;> rw [h] <;> simp [py, hnone]

section Inspection

variable [Platform]

/-- **When a receipt's CI state is what the observations show.**  For every pull request
and every pair of responses that the parsers accept, `inspect` returns evidence, and its
CI state is that of the table exactly when no empty combined status is taken for a signal. -/
theorem ci_eq_documented_iff {transport : GitHubTransport} {reference : PullRequestRef}
    {pull checks statuses : JsonFields} {details : PullDetails} {c : CheckSummary} {t : StatusSummary}
    (hpull : requestObject transport (pullPath reference) = .ok pull)
    (hdetails : parsePull pull reference = .ok details)
    (hchecks : requestObject transport (checksPath reference details.headSha) = .ok checks)
    (hc : parseChecks checks details.headSha = .ok c)
    (hstatuses : requestObject transport (statusPath reference details.headSha) = .ok statuses)
    (ht : parseStatuses statuses details.headSha = .ok t) :
    ∃ evidence, inspect transport reference = .ok evidence ∧
      (evidence.ci = documentedCi checks statuses ↔ StateIsHarmless checks statuses) := by
  simp only [inspect, hpull, hdetails, hchecks, hc, hstatuses, ht, bind, Except.bind, pure,
    Except.pure, Except.ok.injEq, exists_eq_left']
  exact ciState_eq_documented_iff hc ht

end Inspection

/-! ## A commit without statuses -/

open Sample

/-- The pull request of the sample. -/
def sampleReference : PullRequestRef where
  owner := py "example"
  repository := py "project"
  number := 42
  owner_ok := by decide
  repository_ok := by decide
  number_pos := by decide
  number_le := by decide

/-- Its head commit. -/
def sampleSha : PyStr := List.replicate 40 97

/-- What GitHub says about the pull request. -/
def samplePull : JsonFields :=
  [(py "number", .int 42), (py "html_url", .str sampleReference.url), (py "state", .str (py "open")),
    (py "merged", .bool false), (py "draft", .bool false), (py "merge_commit_sha", .null),
    (py "updated_at", .str (py "2026-03-01T12:00:00Z")),
    (py "user", .obj [(py "login", .str (py "octocat"))]),
    (py "head", .obj [(py "sha", .str sampleSha)]),
    (py "base", .obj [(py "sha", .str sampleSha),
      (py "repo", .obj [(py "private", .bool false), (py "full_name", .str (py "example/project"))])])]

/-- One completed check run, which succeeded. -/
def sampleChecks : JsonFields :=
  [(py "total_count", .int 1), (py "check_runs", .arr [.obj [(py "head_sha", .str sampleSha),
    (py "status", .str (py "completed")), (py "conclusion", .str (py "success"))]])]

/-- No statuses, for which GitHub reports the state `pending`. -/
def sampleStatuses : JsonFields :=
  [(py "sha", .str sampleSha), (py "state", .str (py "pending")), (py "total_count", .int 0),
    (py "statuses", .arr [])]

/-- A response with status 200. -/
def sampleResponse (payload : JsonFields) : RawGitHubResponse where
  status := 200
  headers := []
  retryAfter := none
  body := toAscii (render (.obj payload))

/-- The three responses. -/
def sampleTransport : GitHubTransport := fun path =>
  if path = pullPath sampleReference then .ok (sampleResponse samplePull)
  else if path = checksPath sampleReference sampleSha then .ok (sampleResponse sampleChecks)
  else .ok (sampleResponse sampleStatuses)

/-- A response that renders a plain object is read back. -/
theorem requestObject_sampleResponse {transport : GitHubTransport} {path : PyStr}
    {payload : JsonFields} (hpath : startsWith (py "/repos/") path = true)
    (hslash : hasDoubleSlash path = false)
    (hanswer : transport path = .ok (sampleResponse payload))
    (hsize : (render (.obj payload)).length ≤ maxGitHubResponseBytes)
    (hplain : Plain (.obj payload)) (hdepth : depth (.obj payload) ≤ 900) :
    requestObject transport path = .ok payload := by
  have hloads : loads Protocol.jsonReader (sampleResponse payload).body = .ok (.obj payload) :=
    loads_render (hookKeeps_dict rfl) hplain hdepth
  have hsize' : ¬maxGitHubResponseBytes < (sampleResponse payload).body.length := by
    rw [sampleResponse, toAscii, List.length_map]
    omega
  have hstatus : (sampleResponse payload).status = 200 := rfl
  simp only [requestObject, hpath, hslash, hanswer, bind, Except.bind, hloads, hstatus,
    if_neg hsize']
  rfl

theorem requestObject_samplePull :
    requestObject sampleTransport (pullPath sampleReference) = .ok samplePull :=
  requestObject_sampleResponse (by decide +kernel) (by decide +kernel) rfl (by decide +kernel)
    (by decide +kernel) (by decide +kernel)

theorem requestObject_sampleChecks :
    requestObject sampleTransport (checksPath sampleReference sampleSha) = .ok sampleChecks :=
  requestObject_sampleResponse (by decide +kernel) (by decide +kernel) rfl (by decide +kernel)
    (by decide +kernel) (by decide +kernel)

theorem requestObject_sampleStatuses :
    requestObject sampleTransport (statusPath sampleReference sampleSha) = .ok sampleStatuses :=
  requestObject_sampleResponse (by decide +kernel) (by decide +kernel) rfl (by decide +kernel)
    (by decide +kernel) (by decide +kernel)

theorem parsePull_sample :
    ∃ details, parsePull samplePull sampleReference = .ok details ∧ details.headSha = sampleSha :=
  ⟨_, rfl, rfl⟩

theorem parseChecks_sample : parseChecks sampleChecks sampleSha =
    .ok { observed := 1, total := 1, complete := true, hasFailure := false, hasPending := false } :=
  rfl

theorem parseStatuses_sample : parseStatuses sampleStatuses sampleSha =
    .ok { observed := 0, total := 0, complete := true, state := py "pending" } :=
  rfl

/-- The theorem at a commit without statuses, where the table is not followed. -/
theorem ci_eq_documented_iff_sample : ∃ evidence, inspect sampleTransport sampleReference = .ok evidence ∧
    (evidence.ci = documentedCi sampleChecks sampleStatuses ↔
      StateIsHarmless sampleChecks sampleStatuses) := by
  obtain ⟨details, hdetails, hsha⟩ := parsePull_sample
  exact ci_eq_documented_iff requestObject_samplePull hdetails
    (by rw [hsha]; exact requestObject_sampleChecks) (by rw [hsha]; exact parseChecks_sample)
    (by rw [hsha]; exact requestObject_sampleStatuses) (by rw [hsha]; exact parseStatuses_sample)

/-- **A commit without statuses** and with one completed, successful check run is reported
as pending, where the table says success. -/
theorem ci_pending_without_statuses : ∃ evidence,
    inspect sampleTransport sampleReference = .ok evidence ∧ evidence.ci = py "pending" ∧
      documentedCi sampleChecks sampleStatuses = py "success" := by
  obtain ⟨details, hdetails, hsha⟩ := parsePull_sample
  simp only [inspect, requestObject_samplePull, hdetails, hsha, requestObject_sampleChecks,
    parseChecks_sample, requestObject_sampleStatuses, parseStatuses_sample, bind, Except.bind, pure,
    Except.pure, Except.ok.injEq, exists_eq_left']
  decide

end Receipt
