/-
# Malformed answers from GitHub

`_receipt_event` records a `GitHubReceiptError` and lets every other exception through, and
`inspect` raises a few of those: for a list or a `dict` where it expects the name of a
state, for a URL that `urlsplit` rejects, and for a body on which `json.loads` raises
something else than a `JSONDecodeError`.

* `CrashingAnswer`           : the answers with such a value in a field that is reached;
* `recorded_unless_crashing` : **these, and no others, are not recorded**;
* `inspect_listState`        : a pull request whose `state` is a list.
-/
import SafeAgent.CanonicalUrls
import SafeAgent.Escapes
import SafeAgent.ReceiptService
import SafeAgent.Snapshots

open PyText

namespace Receipt

open Json

/-- What `except GitHubReceiptError` catches. -/
def Recorded (e : PyErr) : Prop := e.isa .gitHubReceiptError = true

theorem recorded_iff {e : PyErr} : Recorded e ↔ e.cls = .gitHubReceiptError := by
  unfold Recorded PyErr.isa
  cases e.cls <;> simp [ErrClass.isa]

@[simp] theorem recorded_receiptError (code message : String) :
    Recorded (receiptError code message) := rfl

@[simp] theorem recorded_invalidResponse (message : String) : Recorded (invalidResponse message) :=
  rfl

@[simp] theorem recorded_invalidUrl (message : String) : Recorded (invalidUrl message) := rfl

theorem not_recorded_typeError (message : String) : ¬Recorded (.of .typeError message) :=
  Bool.false_ne_true

theorem not_recorded_valueError {e : PyErr} (h : e.cls = .valueError) : ¬Recorded e := by
  rw [recorded_iff, h]
  decide

/-! ## Single values -/

section Values

variable {value : Json} {label : String}

theorem raises_requireMapping : Raises Recorded (requireMapping value label) := by
  unfold requireMapping
  split <;> simp

theorem raises_requireList : Raises Recorded (requireList value label) := by
  unfold requireList
  split <;> simp

theorem raises_requireCount : Raises Recorded (requireCount value label) := by
  unfold requireCount
  split <;> simp

theorem raises_requireSha : Raises Recorded (requireSha value label) := by
  unfold requireSha
  split
  · exact raises_ite (raises_ok _) (by simp)
  · simp

theorem raises_requireTimestamp : Raises Recorded (requireTimestamp value label) := by
  unfold requireTimestamp
  split
  · exact raises_ite (raises_ok _) (by simp)
  · simp

theorem raises_parseRepository : Raises Recorded (parseRepository value) := by
  unfold parseRepository
  split
  · simp
  · exact raises_ite (by simp) (raises_ite (raises_ok _) (by simp))

theorem requireMapping_eq_ok {fields : JsonFields} :
    requireMapping value label = .ok fields ↔ value.asObj = some fields := by
  refine ⟨requireMapping_ok, fun h => ?_⟩
  rw [requireMapping, h]

theorem requireList_eq_ok {items : List Json} :
    requireList value label = .ok items ↔ value.asArr = some items := by
  refine ⟨requireList_ok, fun h => ?_⟩
  rw [requireList, h]

theorem requireCount_eq_ok {n : ℕ} :
    requireCount value label = .ok n ↔ Protocol.asNat value = some n := by
  refine ⟨requireCount_ok, fun h => ?_⟩
  rw [requireCount, h]

theorem requireSha_eq_ok {s : PyStr} :
    requireSha value label = .ok s ↔ value = .str s ∧ isSha s = true := by
  unfold requireSha
  cases value with
  | str t =>
      simp only [asStr, Json.str.injEq]
      by_cases ht : isSha t = true
      · rw [if_pos ht, Except.ok.injEq]
        constructor
        · rintro rfl
          exact ⟨rfl, ht⟩
        · exact And.left
      · rw [if_neg ht]
        refine iff_of_false (by rintro ⟨⟩) ?_
        rintro ⟨rfl, hs⟩
        exact ht hs
  | _ => exact iff_of_false (by rintro ⟨⟩) (by rintro ⟨⟨⟩, -⟩)

theorem requireTimestamp_eq_ok {s : PyStr} :
    requireTimestamp value label = .ok s ↔
      value = .str s ∧ (UtcTime.parseIso s).isSome = true := by
  unfold requireTimestamp
  cases value with
  | str t =>
      simp only [asStr, Json.str.injEq]
      by_cases ht : (UtcTime.parseIso t).isSome = true
      · rw [if_pos ht, Except.ok.injEq]
        constructor
        · rintro rfl
          exact ⟨rfl, ht⟩
        · exact And.left
      · rw [if_neg ht]
        refine iff_of_false (by rintro ⟨⟩) ?_
        rintro ⟨rfl, hs⟩
        exact ht hs
  | _ => exact iff_of_false (by rintro ⟨⟩) (by rintro ⟨⟨⟩, -⟩)

end Values

/-! ## Check runs and statuses -/

/-- A check run that the loop of `_parse_checks` gets past. -/
def AcceptedRun (sha : PyStr) (rawRun : Json) : Prop :=
  ∃ run, rawRun.asObj = some run ∧ get run (py "head_sha") = .str sha ∧
    ∃ status ∈ checkStatuses, get run (py "status") = .str status ∧
      (status = py "completed" → ∃ conclusion ∈ checkFailures ++ checkNonFailures,
        get run (py "conclusion") = .str conclusion)

/-- A check run whose status, or whose conclusion when it is read, has no hash. -/
def CrashingRun (sha : PyStr) (rawRun : Json) : Prop :=
  ∃ run, rawRun.asObj = some run ∧ get run (py "head_sha") = .str sha ∧
    ((get run (py "status")).unhashable = true ∨
      (get run (py "status") = .str (py "completed") ∧
        (get run (py "conclusion")).unhashable = true))

theorem escapes_parseRun {sha : PyStr} {rawRun : Json} (hsha : isSha sha = true) :
    Escapes Recorded (parseRun rawRun sha) ↔ CrashingRun sha rawRun := by
  unfold parseRun CrashingRun
  simp only [escapes_bind_of_raises raises_requireMapping, requireMapping_eq_ok,
    escapes_bind_of_raises raises_requireSha, requireSha_eq_ok,
    escapes_check (recorded_invalidResponse _)]
  refine exists_congr fun run => and_congr_right fun _ => ?_
  constructor
  · rintro ⟨runSha, ⟨hrunSha, -⟩, hsame, h⟩
    rw [not_ne_iff] at hsame
    subst hsame
    refine ⟨hrunSha, ?_⟩
    rw [escapes_bind, escapes_inNames not_recorded_typeError] at h
    -- each set lookup raises on an unhashable value; what follows it raises only its own error
    rcases h with h | ⟨known, -, h⟩
    · exact Or.inl h
    rw [escapes_check (recorded_invalidResponse _), escapes_ite] at h
    replace h := h.2
    rcases h with ⟨-, h⟩ | ⟨hdone, h⟩
    · exact absurd h (escapes_ok _)
    rw [not_not, isStr_iff] at hdone
    refine Or.inr ⟨hdone, ?_⟩
    rw [escapes_bind, escapes_inNames not_recorded_typeError] at h
    rcases h with h | ⟨failed, -, h⟩
    · exact h
    rw [escapes_ite] at h
    rcases h with ⟨-, h⟩ | ⟨-, h⟩
    · exact absurd h (escapes_ok _)
    rw [escapes_bind, escapes_inNames not_recorded_typeError] at h
    rcases h with h | ⟨passed, -, h⟩
    · exact h
    rw [escapes_ite] at h
    rcases h with ⟨-, h⟩ | ⟨-, h⟩
    · exact absurd h (escapes_ok _)
    · exact absurd h (by simp)
  · rintro ⟨hrunSha, h⟩
    refine ⟨sha, ⟨hrunSha, hsha⟩, not_ne_iff.mpr rfl, ?_⟩
    rw [escapes_bind, escapes_inNames not_recorded_typeError]
    rcases h with h | ⟨hdone, h⟩
    · exact Or.inl h
    refine Or.inr ⟨true, by rw [hdone]; decide, ?_⟩
    rw [escapes_check (recorded_invalidResponse _), hdone, if_neg (by decide), escapes_bind,
      escapes_inNames not_recorded_typeError]
    exact ⟨by simp, Or.inl h⟩

/-- A run without unhashable values is got past, or raises a `GitHubReceiptError`. -/
theorem parseRun_eq_ok {sha : PyStr} {rawRun : Json} (hsha : isSha sha = true) :
    (∃ signs, parseRun rawRun sha = .ok signs) ↔ AcceptedRun sha rawRun := by
  unfold parseRun AcceptedRun
  simp only [PyResult.bind_eq_ok, requireMapping_eq_ok, requireSha_eq_ok, PyResult.check_eq_ok]
  constructor
  · rintro ⟨signs, run, hrun, runSha, ⟨hrunSha, -⟩, hsame, known, hknown, hin, h⟩
    rw [not_ne_iff] at hsame
    subst hsame
    rw [not_not] at hin
    subst hin
    obtain ⟨status, hmem, hstatus⟩ := inNames_eq_true.mp hknown
    refine ⟨run, hrun, hrunSha, status, hmem, hstatus, ?_⟩
    intro hdone
    -- a completed run is one of the failures, or one of the conclusions that are none
    rw [if_neg (by rw [hstatus, hdone]; decide), PyResult.bind_eq_ok] at h
    obtain ⟨failed, hfailed, h⟩ := h
    cases failed with
    | true =>
        obtain ⟨conclusion, hmem, hconclusion⟩ := inNames_eq_true.mp hfailed
        exact ⟨conclusion, List.mem_append_left _ hmem, hconclusion⟩
    | false =>
        rw [if_neg Bool.false_ne_true, PyResult.bind_eq_ok] at h
        obtain ⟨passed, hpassed, h⟩ := h
        cases passed with
        | true =>
            obtain ⟨conclusion, hmem, hconclusion⟩ := inNames_eq_true.mp hpassed
            exact ⟨conclusion, List.mem_append_right _ hmem, hconclusion⟩
        | false => cases h
  · rintro ⟨run, hrun, hrunSha, status, hmem, hstatus, hdone⟩
    have hknown : inNames (get run (py "status")) checkStatuses = .ok true :=
      inNames_eq_true.mpr ⟨status, hmem, hstatus⟩
    by_cases hcompleted : status = py "completed"
    · obtain ⟨conclusion, hconclusions, hconclusion⟩ := hdone hcompleted
      have hread : ¬¬(get run (py "status")).isStr (py "completed") = true := by
        rw [hstatus, hcompleted]
        decide
      rcases Bool.eq_false_or_eq_true (checkFailures.contains conclusion) with hfail | hfail
      · refine ⟨(true, false), run, hrun, sha, ⟨hrunSha, hsha⟩, not_ne_iff.mpr rfl, true, hknown,
          by simp, ?_⟩
        rw [if_neg hread, hconclusion, PyResult.bind_eq_ok]
        exact ⟨true, by rw [inNames, hfail], rfl⟩
      · have hpass : checkNonFailures.contains conclusion = true := by
          rcases List.mem_append.mp hconclusions with hmem | hmem
          · rw [List.contains_iff_mem.mpr hmem] at hfail
            cases hfail
          · exact List.contains_iff_mem.mpr hmem
        refine ⟨(false, false), run, hrun, sha, ⟨hrunSha, hsha⟩, not_ne_iff.mpr rfl, true, hknown,
          by simp, ?_⟩
        rw [if_neg hread, hconclusion, PyResult.bind_eq_ok]
        refine ⟨false, by rw [inNames, hfail], ?_⟩
        rw [if_neg Bool.false_ne_true, PyResult.bind_eq_ok]
        exact ⟨true, by rw [inNames, hpass], rfl⟩
    · -- it is not completed, so its conclusion is not read
      refine ⟨(false, true), run, hrun, sha, ⟨hrunSha, hsha⟩, not_ne_iff.mpr rfl, true, hknown,
        by simp, ?_⟩
      rw [if_pos]
      rw [isStr_iff, hstatus, Json.str.injEq]
      exact hcompleted

/-- The loop of `_parse_checks` ends where every run is accepted. -/
theorem parseRuns_eq_ok {sha : PyStr} (hsha : isSha sha = true) {runs : List Json}
    {hasFailure hasPending : Bool} :
    (∃ signs, parseRuns sha runs hasFailure hasPending = .ok signs) ↔
      ∀ rawRun ∈ runs, AcceptedRun sha rawRun := by
  induction runs generalizing hasFailure hasPending with
  | nil => simp [parseRuns]
  | cons rawRun rest ih =>
      rw [List.forall_mem_cons, ← parseRun_eq_ok hsha]
      simp only [parseRuns, PyResult.bind_eq_ok]
      constructor
      · rintro ⟨signs, run, hrun, hrest⟩
        exact ⟨⟨run, hrun⟩, ih.mp ⟨signs, hrest⟩⟩
      · rintro ⟨⟨run, hrun⟩, hrest⟩
        obtain ⟨signs, hrest⟩ := ih.mpr hrest
        exact ⟨signs, run, hrun, hrest⟩

/-- The loop of `_parse_checks` lets an exception through at the first run that is not
accepted, when that run has an unhashable value. -/
theorem escapes_parseRuns {sha : PyStr} (hsha : isSha sha = true) {runs : List Json}
    {hasFailure hasPending : Bool} :
    Escapes Recorded (parseRuns sha runs hasFailure hasPending) ↔
      ∃ before rawRun after, runs = before ++ rawRun :: after ∧
        (∀ run ∈ before, AcceptedRun sha run) ∧ CrashingRun sha rawRun := by
  induction runs generalizing hasFailure hasPending with
  | nil => simp [parseRuns]
  | cons rawRun rest ih =>
      rw [parseRuns, escapes_bind, escapes_parseRun hsha]
      constructor
      · rintro (h | ⟨signs, hrun, h⟩)
        · exact ⟨[], rawRun, rest, rfl, by simp, h⟩
        · obtain ⟨before, crashing, after, rfl, hbefore, hcrash⟩ := ih.mp h
          refine ⟨rawRun :: before, crashing, after, rfl, ?_, hcrash⟩
          exact List.forall_mem_cons.mpr ⟨(parseRun_eq_ok hsha).mp ⟨signs, hrun⟩, hbefore⟩
      · rintro ⟨before, crashing, after, hruns, hbefore, hcrash⟩
        cases before with
        | nil =>
            obtain ⟨rfl, rfl⟩ := List.cons.inj hruns
            exact Or.inl hcrash
        | cons first before =>
            obtain ⟨rfl, rfl⟩ := List.cons.inj hruns
            rw [List.forall_mem_cons, ← parseRun_eq_ok hsha] at hbefore
            obtain ⟨⟨signs, hrun⟩, hbefore⟩ := hbefore
            exact Or.inr ⟨signs, hrun, ih.mpr ⟨before, crashing, after, rfl, hbefore, hcrash⟩⟩

/-- The runs of a response whose counts agree. -/
def CountedRuns (payload : JsonFields) (runs : List Json) : Prop :=
  ∃ total, Protocol.asNat (get payload (py "total_count")) = some total ∧
    (get payload (py "check_runs")).asArr = some runs ∧ runs.length ≤ total ∧ runs.length ≤ 100

theorem parseChecks_eq_ok {payload : JsonFields} {sha : PyStr} (hsha : isSha sha = true) :
    (∃ summary, parseChecks payload sha = .ok summary) ↔
      ∃ runs, CountedRuns payload runs ∧ ∀ rawRun ∈ runs, AcceptedRun sha rawRun := by
  unfold parseChecks CountedRuns
  simp only [PyResult.bind_eq_ok, requireCount_eq_ok, requireList_eq_ok, PyResult.check_eq_ok,
    not_or, not_lt]
  constructor
  · rintro ⟨summary, total, htotal, runs, hruns, ⟨hle, hpage⟩, signs, hloop, -⟩
    exact ⟨runs, ⟨total, htotal, hruns, hle, hpage⟩, (parseRuns_eq_ok hsha).mp ⟨signs, hloop⟩⟩
  · rintro ⟨runs, ⟨total, htotal, hruns, hle, hpage⟩, haccepted⟩
    have hends : ∃ signs, parseRuns sha runs false false = .ok signs :=
      (parseRuns_eq_ok hsha).mpr haccepted
    obtain ⟨signs, hloop⟩ := hends
    exact ⟨_, total, htotal, runs, hruns, ⟨hle, hpage⟩, signs, hloop, rfl⟩

/-- A response with an unhashable value in a run that is reached. -/
def CrashingChecks (payload : JsonFields) (sha : PyStr) : Prop :=
  ∃ before rawRun after, CountedRuns payload (before ++ rawRun :: after) ∧
    (∀ run ∈ before, AcceptedRun sha run) ∧ CrashingRun sha rawRun

theorem escapes_parseChecks {payload : JsonFields} {sha : PyStr} (hsha : isSha sha = true) :
    Escapes Recorded (parseChecks payload sha) ↔ CrashingChecks payload sha := by
  unfold parseChecks CrashingChecks CountedRuns
  simp only [escapes_bind_of_raises raises_requireCount, requireCount_eq_ok,
    escapes_bind_of_raises raises_requireList, requireList_eq_ok,
    escapes_check (recorded_invalidResponse _), not_or, not_lt, escapes_bind, escapes_pure,
    and_false, exists_false, or_false, escapes_parseRuns hsha]
  constructor
  · rintro ⟨total, htotal, _, hruns, ⟨hle, hpage⟩, before, rawRun, after, rfl, hbefore, hcrash⟩
    exact ⟨before, rawRun, after, ⟨total, htotal, hruns, hle, hpage⟩, hbefore, hcrash⟩
  · rintro ⟨before, rawRun, after, ⟨total, htotal, hruns, hle, hpage⟩, hbefore, hcrash⟩
    exact ⟨total, htotal, _, hruns, ⟨hle, hpage⟩, before, rawRun, after, rfl, hbefore, hcrash⟩

/-- A combined status of the commit whose state has no hash. -/
def CrashingStatuses (payload : JsonFields) (sha : PyStr) : Prop :=
  get payload (py "sha") = .str sha ∧ (get payload (py "state")).unhashable = true

theorem escapes_parseStatuses {payload : JsonFields} {sha : PyStr} (hsha : isSha sha = true) :
    Escapes Recorded (parseStatuses payload sha) ↔ CrashingStatuses payload sha := by
  unfold parseStatuses CrashingStatuses
  simp only [escapes_bind_of_raises raises_requireSha, requireSha_eq_ok,
    escapes_check (recorded_invalidResponse _)]
  constructor
  · rintro ⟨statusSha, ⟨hstatusSha, -⟩, hsame, h⟩
    rw [not_ne_iff] at hsame
    subst hsame
    refine ⟨hstatusSha, ?_⟩
    rw [escapes_bind, escapes_inNames not_recorded_typeError] at h
    rcases h with h | ⟨known, -, h⟩
    · exact h
    split at h
    · rw [escapes_bind_of_raises raises_requireCount] at h
      obtain ⟨total, -, h⟩ := h
      rw [escapes_bind_of_raises raises_requireList] at h
      obtain ⟨statuses, -, h⟩ := h
      rw [escapes_check (recorded_invalidResponse _)] at h
      exact absurd h.2 (escapes_pure _)
    · exact absurd (recorded_invalidResponse _) ((escapes_error _).mp h)
  · rintro ⟨hstatusSha, hstate⟩
    refine ⟨sha, ⟨hstatusSha, hsha⟩, not_ne_iff.mpr rfl, ?_⟩
    rw [escapes_bind, escapes_inNames not_recorded_typeError]
    exact Or.inl hstate

/-! ## The pull request -/

/-- A valid repository name is that of a reference to each of its pull requests. -/
theorem exists_ref {value : Json} {repository : PyStr} (h : parseRepository value = .ok repository)
    {number : ℕ} (hpos : 0 < number) (hle : number ≤ maxPullRequestNumber) :
    ∃ ref : PullRequestRef, ref.fullName = repository ∧ ref.number = number ∧
      ref.url = py "https://github.com/" ++ repository ++ py "/pull/" ++ decimal number := by
  have hvalue := parseRepository_ok h
  subst hvalue
  unfold parseRepository at h
  simp only [asStr] at h
  split_ifs at h with hcount hvalid
  rw [Bool.and_eq_true] at hvalid
  have hmem : 47 ∈ repository := by
    rw [← List.count_pos_iff]
    omega
  have hsplit : repository = (cut 47 repository).1 ++ 47 :: (cut 47 repository).2.getD [] := by
    have htake := List.takeWhile_append_dropWhile (p := (· != 47)) (l := repository)
    unfold cut
    split
    · rename_i hnil
      have hall := List.dropWhile_eq_nil_iff.mp hnil 47 hmem
      simp at hall
    · rename_i c rest hdrop
      have hc := List.head_dropWhile_not (l := repository) (· != 47) (by simp [hdrop])
      simp only [hdrop, List.head_cons, bne_eq_false_iff_eq] at hc
      rw [hdrop, hc] at htake
      exact htake.symm
  refine ⟨⟨(cut 47 repository).1, (cut 47 repository).2.getD [], number, hvalid.1, hvalid.2, hpos,
    hle⟩, hsplit.symm, rfl, ?_⟩
  conv_rhs => rw [hsplit]
  simp [PullRequestRef.url, pullRequestUrl]

section Pull

variable [Platform]

/-- What `_parse_pull` has checked when it reads `html_url`. -/
structure UrlReached (payload : JsonFields) (reference : PullRequestRef) (base : JsonFields)
    (repository : PyStr) : Prop where
  number : Protocol.asNat (get payload (py "number")) = some reference.number
  base_ok : (get payload (py "base")).asObj = some base
  repo : ∃ repo, (get base (py "repo")).asObj = some repo ∧
    asBool (get repo (py "private")) = some false ∧
    parseRepository (get repo (py "full_name")) = .ok repository
  same : casefold repository = casefold reference.fullName

/-- What `_parse_pull` has checked when it reads `state`. -/
structure StateReached (payload : JsonFields) (reference : PullRequestRef) (base : JsonFields)
    (repository author : PyStr) : Prop extends UrlReached payload reference base repository where
  html : ∃ html, parseUrlValue (get payload (py "html_url")) = .ok html ∧
    casefold html.fullName = casefold repository ∧ html.number = reference.number
  author : ∃ user, (get payload (py "user")).asObj = some user ∧
    (get user (py "login")).asStr.filter isAuthor = some author

/-- The pull request that `_parse_pull` returns, field by field. -/
structure AcceptedPull (payload : JsonFields) (reference : PullRequestRef)
    (details : PullDetails) : Prop where
  base : ∃ base, StateReached payload reference base details.repository details.author ∧
    get base (py "sha") = .str details.baseSha
  number : details.number = reference.number
  url : details.url = py "https://github.com/" ++ details.repository ++ py "/pull/" ++
    decimal details.number
  state : get payload (py "state") = .str details.state
  state_ok : details.state ∈ [py "open", py "closed"]
  merged : asBool (get payload (py "merged")) = some details.merged
  draft : asBool (get payload (py "draft")) = some details.draft
  head : ∃ head, (get payload (py "head")).asObj = some head ∧
    get head (py "sha") = .str details.headSha
  headSha_ok : isSha details.headSha = true
  baseSha_ok : isSha details.baseSha = true
  merge : details.mergeCommitSha = none ∧
        (details.merged = false ∨ get payload (py "merge_commit_sha") = .null) ∨
      details.merged = true ∧ ∃ sha, details.mergeCommitSha = some sha ∧ isSha sha = true ∧
        get payload (py "merge_commit_sha") = .str sha
  updated : get payload (py "updated_at") = .str details.sourceUpdatedAt
  updated_ok : (UtcTime.parseIso details.sourceUpdatedAt).isSome = true

/-- A pull request with a URL that cannot be split, or with an unhashable state. -/
def CrashingPull (payload : JsonFields) (reference : PullRequestRef) : Prop :=
  (∃ base repository, UrlReached payload reference base repository ∧
      ∃ url, get payload (py "html_url") = .str url ∧ UnsplittableUrl url) ∨
    ∃ base repository author, StateReached payload reference base repository author ∧
      (get payload (py "state")).unhashable = true

/-- The URL that `_parse_pull` builds from the repository and the number is accepted. -/
theorem parse_canonical {value : Json} {repository : PyStr} (reference : PullRequestRef)
    (h : parseRepository value = .ok repository) :
    ∃ canonical : PullRequestRef, canonical.fullName = repository ∧
      canonical.url = py "https://github.com/" ++ repository ++ py "/pull/" ++
        decimal reference.number ∧
      parseGithubPullRequestUrl (py "https://github.com/" ++ repository ++ py "/pull/" ++
        decimal reference.number) = .ok canonical := by
  obtain ⟨canonical, hname, -, hurl⟩ := exists_ref h reference.number_pos reference.number_le
  refine ⟨canonical, hname, hurl, ?_⟩
  rw [← hurl]
  exact parse_url canonical

theorem escapes_parsePull {payload : JsonFields} {reference : PullRequestRef} :
    Escapes Recorded (parsePull payload reference) ↔ CrashingPull payload reference := by
  unfold parsePull
  simp only [escapes_bind_of_raises raises_requireCount, requireCount_eq_ok,
    escapes_bind_of_raises raises_requireMapping, requireMapping_eq_ok,
    escapes_bind_of_raises raises_parseRepository, not_or, not_not,
    escapes_check (recorded_invalidResponse _), escapes_check (recorded_receiptError _ _)]
  constructor
  · rintro ⟨number, hnumber, ⟨rfl, -⟩, base, hbase, repo, hrepo, hprivate, repository, hrepository,
      hsame, h⟩
    have hreached : UrlReached payload reference base repository :=
      ⟨hnumber, hbase, ⟨repo, hrepo, hprivate, hrepository⟩, hsame⟩
    obtain ⟨canonical, hname, -, hcanonical⟩ := parse_canonical reference hrepository
    rw [hcanonical, escapes_ok_bind, escapes_bind,
      escapes_parseUrlValue recorded_invalidUrl fun e => not_recorded_valueError] at h
    rcases h with hurl | ⟨html, hhtml, h⟩
    · exact Or.inl ⟨base, repository, hreached, hurl⟩
    rw [escapes_check (recorded_invalidResponse _), not_or, not_not, not_not, hname,
      escapes_bind_of_raises raises_requireMapping] at h
    obtain ⟨hsameUrl, user, huser, h⟩ := h
    split at h
    · exact absurd (recorded_invalidResponse _) ((escapes_error _).mp h)
    rename_i author hauthor
    rw [escapes_bind, escapes_inNames not_recorded_typeError] at h
    rcases h with hstate | ⟨known, -, h⟩
    · exact Or.inr ⟨base, repository, author,
        ⟨hreached, ⟨html, hhtml, hsameUrl⟩, user, requireMapping_ok huser, hauthor⟩, hstate⟩
    -- the fields after the state are checked by their own helpers
    refine absurd h (Raises.not_escapes ?_)
    split
    · split
      · refine raises_bind raises_requireMapping fun head _ => raises_bind raises_requireSha
          fun headSha _ => raises_bind raises_requireSha fun baseSha _ => ?_
        split
        · exact raises_bind (raises_ok _) fun _ _ =>
            raises_bind raises_requireTimestamp fun _ _ => raises_ok _
        · exact raises_bind (raises_ok _) fun _ _ =>
            raises_bind raises_requireTimestamp fun _ _ => raises_ok _
        · exact raises_bind (raises_map raises_requireSha) fun _ _ =>
            raises_bind raises_requireTimestamp fun _ _ => raises_ok _
      · exact (raises_error _).mpr (recorded_invalidResponse _)
    · exact (raises_error _).mpr (recorded_invalidResponse _)
  · rintro (⟨base, repository, hreached, hurl⟩ | ⟨base, repository, author, hreached, hstate⟩)
    · obtain ⟨repo, hrepo, hprivate, hrepository⟩ := hreached.repo
      obtain ⟨canonical, hname, -, hcanonical⟩ := parse_canonical reference hrepository
      refine ⟨reference.number, hreached.number, ⟨rfl, reference.number_pos.ne'⟩, base,
        hreached.base_ok, repo, hrepo, hprivate, repository, hrepository, hreached.same, ?_⟩
      rw [hcanonical, escapes_ok_bind, escapes_bind,
        escapes_parseUrlValue recorded_invalidUrl fun e => not_recorded_valueError]
      exact Or.inl hurl
    · obtain ⟨repo, hrepo, hprivate, hrepository⟩ := hreached.repo
      obtain ⟨canonical, hname, -, hcanonical⟩ := parse_canonical reference hrepository
      obtain ⟨html, hhtml, hsameUrl⟩ := hreached.html
      obtain ⟨user, huser, hauthor⟩ := hreached.author
      refine ⟨reference.number, hreached.number, ⟨rfl, reference.number_pos.ne'⟩, base,
        hreached.base_ok, repo, hrepo, hprivate, repository, hrepository, hreached.same, ?_⟩
      rw [hcanonical, escapes_ok_bind, escapes_bind]
      refine Or.inr ⟨html, hhtml, ?_⟩
      rw [escapes_check (recorded_invalidResponse _), not_or, not_not, not_not, hname,
        escapes_bind_of_raises raises_requireMapping]
      refine ⟨hsameUrl, user, requireMapping_eq_ok.mpr huser, ?_⟩
      rw [hauthor]
      exact escapes_bind.mpr (Or.inl ((escapes_inNames not_recorded_typeError).mpr hstate))

/-- **What `_parse_pull` returns.** -/
theorem parsePull_eq_ok {payload : JsonFields} {reference : PullRequestRef} {details : PullDetails} :
    parsePull payload reference = .ok details ↔ AcceptedPull payload reference details := by
  unfold parsePull
  simp only [PyResult.bind_eq_ok, requireCount_eq_ok, requireMapping_eq_ok, not_or, not_not,
    PyResult.check_eq_ok]
  constructor
  · rintro ⟨number, hnumber, ⟨rfl, -⟩, base, hbase, repo, hrepo, hprivate, repository, hrepository,
      hsame, canonical, hcanonical, html, hhtml, hsameUrl, user, huser, h⟩
    -- the reference was parsed from a canonical URL, so both parses agree
    obtain ⟨canonical', hname, hurl, hcanonical'⟩ := parse_canonical reference hrepository
    rw [hcanonical] at hcanonical'
    cases hcanonical'
    rw [hname] at hsameUrl
    split at h
    · cases h
    rename_i author hauthor
    obtain ⟨known, hknown, h⟩ := PyResult.bind_ok h
    split at h
    case h_2 => cases h
    rename_i state hstate
    split at h
    case h_2 => cases h
    rename_i merged draft hmerged hdraft
    simp only [PyResult.bind_eq_ok, requireMapping_eq_ok, requireSha_eq_ok] at h
    obtain ⟨head, hhead, headSha, ⟨hheadSha, hheadSha_ok⟩, baseSha, ⟨hbaseSha, hbaseSha_ok⟩, h⟩ := h
    obtain ⟨name, hname_mem, hname_eq⟩ := inNames_eq_true.mp hknown
    rw [hname_eq, asStr, Option.some.injEq] at hstate
    subst hstate
    have hreached : StateReached payload reference base repository author :=
      ⟨⟨hnumber, hbase, ⟨repo, hrepo, hprivate, hrepository⟩, hsame⟩, ⟨html, hhtml, hsameUrl⟩, user,
        huser, hauthor⟩
    -- the merge commit is looked at only where the pull request is merged
    obtain ⟨merge, updated, hmerge, hupdated, rfl⟩ : ∃ merge updated,
        (merge = none ∧ (merged = false ∨ get payload (py "merge_commit_sha") = .null) ∨
          merged = true ∧ ∃ sha, merge = some sha ∧ isSha sha = true ∧
            get payload (py "merge_commit_sha") = .str sha) ∧
        requireTimestamp (get payload (py "updated_at")) "pull request updated_at" = .ok updated ∧
        details =
          { repository, number := reference.number, url := canonical.url, author, state := name,
            merged, draft, headSha, baseSha, mergeCommitSha := merge, sourceUpdatedAt := updated } := by
      split at h
      · obtain ⟨_, ⟨⟩, h⟩ := PyResult.bind_ok h
        obtain ⟨updated, hupdated, ⟨⟩⟩ := PyResult.bind_ok h
        exact ⟨none, updated, Or.inl ⟨rfl, Or.inl rfl⟩, hupdated, rfl⟩
      · rename_i hnull
        obtain ⟨_, ⟨⟩, h⟩ := PyResult.bind_ok h
        obtain ⟨updated, hupdated, ⟨⟩⟩ := PyResult.bind_ok h
        exact ⟨none, updated, Or.inl ⟨rfl, Or.inr hnull⟩, hupdated, rfl⟩
      · obtain ⟨merge, hmerge, h⟩ := PyResult.bind_ok h
        obtain ⟨updated, hupdated, ⟨⟩⟩ := PyResult.bind_ok h
        obtain ⟨sha, hsha, ⟨⟩⟩ := PyResult.map_ok hmerge
        obtain ⟨hvalue, hvalid⟩ := requireSha_eq_ok.mp hsha
        exact ⟨some sha, updated, Or.inr ⟨rfl, sha, rfl, hvalid, hvalue⟩, hupdated, rfl⟩
    obtain ⟨hupdated, hupdated_ok⟩ := requireTimestamp_eq_ok.mp hupdated
    exact ⟨⟨base, hreached, hbaseSha⟩, rfl, hurl, hname_eq, hname_mem, hmerged, hdraft,
      ⟨head, hhead, hheadSha⟩, hheadSha_ok, hbaseSha_ok, hmerge, hupdated, hupdated_ok⟩
  · intro h
    obtain ⟨base, hreached, hbaseSha⟩ := h.base
    obtain ⟨repo, hrepo, hprivate, hrepository⟩ := hreached.repo
    obtain ⟨canonical, hname, hurl, hcanonical⟩ := parse_canonical reference hrepository
    obtain ⟨html, hhtml, hsameUrl⟩ := hreached.html
    obtain ⟨user, huser, hauthor⟩ := hreached.author
    obtain ⟨head, hhead, hheadSha⟩ := h.head
    refine ⟨reference.number, hreached.number, ⟨rfl, reference.number_pos.ne'⟩, base,
      hreached.base_ok, repo, hrepo, hprivate, _, hrepository, hreached.same, canonical, hcanonical,
      html, hhtml, by rw [hname]; exact hsameUrl, user, huser, ?_⟩
    have hknown : inNames (get payload (py "state")) [py "open", py "closed"] = .ok true :=
      inNames_eq_true.mpr ⟨_, h.state_ok, h.state⟩
    rw [hauthor]
    refine PyResult.bind_eq_ok.mpr ⟨true, hknown, ?_⟩
    rw [h.state, h.merged, h.draft]
    refine PyResult.bind_eq_ok.mpr ⟨head, requireMapping_eq_ok.mpr hhead, ?_⟩
    refine PyResult.bind_eq_ok.mpr ⟨_, requireSha_eq_ok.mpr ⟨hheadSha, h.headSha_ok⟩, ?_⟩
    refine PyResult.bind_eq_ok.mpr ⟨_, requireSha_eq_ok.mpr ⟨hbaseSha, h.baseSha_ok⟩, ?_⟩
    have hupdated : requireTimestamp (get payload (py "updated_at")) "pull request updated_at" =
        .ok details.sourceUpdatedAt := requireTimestamp_eq_ok.mpr ⟨h.updated, h.updated_ok⟩
    have hresult : (⟨details.repository, reference.number, canonical.url, details.author,
        details.state, details.merged, details.draft, details.headSha, details.baseSha,
        details.mergeCommitSha, details.sourceUpdatedAt⟩ : PullDetails) = details := by
      rw [hurl, ← h.number, ← h.url]
    -- backwards: the three ways in which the merge commit is read
    rcases h.merge with ⟨hmerge, hnone⟩ | ⟨hmerged, sha, hmerge, hsha, hvalue⟩
    · rw [hmerge] at hresult
      split
      · refine PyResult.bind_eq_ok.mpr ⟨none, rfl, ?_⟩
        exact PyResult.bind_eq_ok.mpr ⟨_, hupdated, congrArg Except.ok hresult⟩
      · refine PyResult.bind_eq_ok.mpr ⟨none, rfl, ?_⟩
        exact PyResult.bind_eq_ok.mpr ⟨_, hupdated, congrArg Except.ok hresult⟩
      · rename_i hmerged hnull
        rcases hnone with hfalse | hnone
        · rw [hmerged] at hfalse
          cases hfalse
        · exact absurd hnone hnull
    · rw [hmerge] at hresult
      rw [hmerged, hvalue]
      refine PyResult.bind_eq_ok.mpr ⟨some sha, ?_, ?_⟩
      · rw [requireSha_eq_ok.mpr ⟨rfl, hsha⟩]
        rfl
      · rw [hmerged] at hresult
        exact PyResult.bind_eq_ok.mpr ⟨_, hupdated, congrArg Except.ok hresult⟩

end Pull

/-! ## The reads -/

/-- The path of a segment and what follows it. -/
theorem hasDoubleSlash_segment {segment rest : PyStr} (hne : segment ≠ []) (h : 47 ∉ segment) :
    hasDoubleSlash (47 :: segment ++ rest) = hasDoubleSlash rest := by
  have hdrop : ∀ s : PyStr, 47 ∉ s → hasDoubleSlash (s ++ rest) = hasDoubleSlash rest := by
    intro s
    induction s with
    | nil => exact fun _ => rfl
    | cons c s ih =>
        intro hs
        rw [List.mem_cons, not_or] at hs
        rw [List.cons_append, hasDoubleSlash, ih hs.2]
        rintro tail rfl -
        exact hs.1 rfl
  cases segment with
  | nil => exact absurd rfl hne
  | cons c segment =>
      rw [List.mem_cons, not_or] at h
      have hstep : hasDoubleSlash (47 :: c :: (segment ++ rest)) =
          hasDoubleSlash (c :: (segment ++ rest)) := by
        rw [hasDoubleSlash]
        rintro tail - ⟨⟩
        exact h.1 rfl
      exact hstep.trans (hdrop (c :: segment) (by simp [h.1, h.2]))

/-- A path that `_request_object` does not refuse. -/
def SafePath (path : PyStr) : Prop :=
  startsWith (py "/repos/") path = true ∧ hasDoubleSlash path = false

theorem safePath_append {reference : PullRequestRef} {rest : PyStr}
    (h : hasDoubleSlash rest = false) : SafePath (basePath reference ++ rest) := by
  have howner : reference.owner ≠ [] := by
    intro hnil
    have hok := reference.owner_ok
    rw [hnil] at hok
    exact absurd hok (by decide)
  have hrepository : reference.repository ≠ [] := by
    intro hnil
    have hok := reference.repository_ok
    rw [hnil] at hok
    exact absurd hok (by decide)
  have hpath : basePath reference ++ rest =
      47 :: py "repos" ++ (47 :: reference.owner ++ (47 :: reference.repository ++ rest)) := by
    simp [basePath, py]
  constructor
  · rw [startsWith_iff, basePath, List.append_assoc, List.append_assoc]
    exact List.prefix_append _ _
  · rw [hpath, hasDoubleSlash_segment (by decide) (by decide),
      hasDoubleSlash_segment howner (slash_notMem_owner reference),
      hasDoubleSlash_segment hrepository (slash_notMem_repository reference), h]

theorem safePath_pull (reference : PullRequestRef) : SafePath (pullPath reference) := by
  have hdigits : 47 ∉ decimal reference.number := fun hmem =>
    absurd (isDigit_of_mem_decimal hmem) (by decide)
  have hrest : py "/pulls/" ++ decimal reference.number =
      47 :: py "pulls" ++ (47 :: decimal reference.number ++ []) := by
    simp [py]
  rw [pullPath, List.append_assoc]
  refine safePath_append ?_
  rw [hrest, hasDoubleSlash_segment (by decide) (by decide),
    hasDoubleSlash_segment (decimal_ne_nil _) hdigits]
  rfl

/-- The two paths under a commit. -/
theorem safePath_commit (reference : PullRequestRef) {sha query : PyStr} (hsha : isSha sha = true)
    (hne : query ≠ []) (hquery : 47 ∉ query) :
    SafePath (basePath reference ++ py "/commits/" ++ sha ++ 47 :: query) := by
  rw [isSha, Bool.and_eq_true, beq_iff_eq] at hsha
  have hslash : 47 ∉ sha := fun hmem => absurd (List.all_eq_true.mp hsha.2 47 hmem) (by decide)
  have hsha_ne : sha ≠ [] := by
    rintro rfl
    exact absurd hsha.1 (by decide)
  have hrest : py "/commits/" ++ (sha ++ 47 :: query) =
      47 :: py "commits" ++ (47 :: sha ++ (47 :: query ++ [])) := by
    simp [py]
  rw [List.append_assoc, List.append_assoc]
  refine safePath_append ?_
  rw [hrest, hasDoubleSlash_segment (by decide) (by decide), hasDoubleSlash_segment hsha_ne hslash,
    hasDoubleSlash_segment hne hquery]
  rfl

theorem safePath_checks (reference : PullRequestRef) {sha : PyStr} (hsha : isSha sha = true) :
    SafePath (checksPath reference sha) :=
  have hquery : 47 ∉ py "check-runs?per_page=100&filter=latest" := by decide
  safePath_commit reference hsha (by decide) hquery

theorem safePath_status (reference : PullRequestRef) {sha : PyStr} (hsha : isSha sha = true) :
    SafePath (statusPath reference sha) :=
  have hquery : 47 ∉ py "status?per_page=100" := by decide
  safePath_commit reference hsha (by decide) hquery

section Inspection

variable [Platform]

/-- A response whose body is read: it is not too large, and its status is 200. -/
def ReadsBody (response : RawGitHubResponse) : Prop :=
  response.body.length ≤ maxGitHubResponseBytes ∧ response.status = 200

/-- A read that returns an object. -/
def Answers (transport : GitHubTransport) (path : PyStr) (fields : JsonFields) : Prop :=
  ∃ response, transport path = .ok response ∧ ReadsBody response ∧
    loads Protocol.jsonReader response.body = .ok (.obj fields)

/-- A read whose body holds a number too long for `int`, or is nested too deep. -/
def CrashingBody (transport : GitHubTransport) (path : PyStr) : Prop :=
  ∃ response, transport path = .ok response ∧ ReadsBody response ∧
    (loads Protocol.jsonReader response.body = .error intTooLong ∨
      loads Protocol.jsonReader response.body = .error nestedTooDeep)

/-- The exceptions of `json.loads` that the two `except` clauses of the source name, and the
other two. -/
theorem loads_error_cases {raw : Bytes} {e : PyErr} (h : loads Protocol.jsonReader raw = .error e) :
    (e.isa .unicodeDecodeError || e.isa .jsonDecodeError) = true ∨ e = intTooLong ∨
      e = nestedTooDeep := by
  have hscanner : ScannerErrors fun e =>
      (e.isa .unicodeDecodeError || e.isa .jsonDecodeError) = true ∨ e = intTooLong ∨
        e = nestedTooDeep :=
    { decode := fun message => Or.inl rfl
      tooLong := Or.inr (Or.inl rfl)
      tooDeep := Or.inr (Or.inr rfl)
      utf8 := Or.inl rfl }
  exact loads_raises hscanner (fun fields => raises_ok _) raw e h

theorem requestObject_eq_ok {transport : GitHubTransport} {path : PyStr} (hpath : SafePath path)
    {fields : JsonFields} :
    requestObject transport path = .ok fields ↔ Answers transport path fields := by
  unfold requestObject Answers ReadsBody
  rw [if_neg (by simp [hpath.1, hpath.2]), PyResult.bind_eq_ok]
  refine exists_congr fun response => and_congr_right fun _ => ?_
  rw [PyResult.check_eq_ok, PyResult.check_eq_ok, not_lt, not_ne_iff, and_assoc]
  refine and_congr_right fun _ => and_congr_right fun _ => ?_
  split
  · rename_i e he
    rw [he]
    refine iff_of_false ?_ (by rintro ⟨⟩)
    split_ifs
    · rintro ⟨⟩
    · rintro ⟨⟩
  · rename_i payload hpayload
    rw [hpayload]
    cases payload <;> simp [asObj]

theorem escapes_requestObject {transport : GitHubTransport} {path : PyStr} (hpath : SafePath path)
    (htransport : Raises Recorded (transport path)) :
    Escapes Recorded (requestObject transport path) ↔ CrashingBody transport path := by
  unfold requestObject CrashingBody ReadsBody
  rw [if_neg (by simp [hpath.1, hpath.2]), escapes_bind_of_raises htransport]
  refine exists_congr fun response => and_congr_right fun _ => ?_
  rw [escapes_check (recorded_receiptError _ _), escapes_check (by exact rfl), not_lt, not_ne_iff,
    and_assoc]
  refine and_congr_right fun _ => and_congr_right fun _ => ?_
  split
  · rename_i e he
    rw [he, escapes_ite, escapes_error, escapes_error]
    constructor
    · rintro (⟨-, h⟩ | ⟨hother, -⟩)
      · exact absurd (recorded_invalidResponse _) h
      · rcases loads_error_cases he with h | rfl | rfl
        · exact absurd h hother
        · exact Or.inl rfl
        · exact Or.inr rfl
    · rintro (⟨⟨⟩⟩ | ⟨⟨⟩⟩)
      · exact Or.inr ⟨by decide, Bool.false_ne_true⟩
      · exact Or.inr ⟨by decide, Bool.false_ne_true⟩
  · rename_i payload hpayload
    rw [hpayload]
    refine iff_of_false ?_ (by rintro (⟨⟨⟩⟩ | ⟨⟨⟩⟩))
    split
    · exact escapes_ok _
    · exact fun h => (escapes_error _).mp h (recorded_invalidResponse _)

/-! ## An inspection -/

/-- **The answers that are not recorded**: in the order of the reads, a body that `json.loads`
does not turn into a `JSONDecodeError`, or an object with a value in a field that is reached
which has no hash or is no URL. -/
def CrashingAnswer (transport : GitHubTransport) (reference : PullRequestRef) : Prop :=
  CrashingBody transport (pullPath reference) ∨
    ∃ pull, Answers transport (pullPath reference) pull ∧ (CrashingPull pull reference ∨
      ∃ details, AcceptedPull pull reference details ∧
        (CrashingBody transport (checksPath reference details.headSha) ∨
          ∃ checks, Answers transport (checksPath reference details.headSha) checks ∧
            (CrashingChecks checks details.headSha ∨
              (∃ runs, CountedRuns checks runs ∧
                ∀ rawRun ∈ runs, AcceptedRun details.headSha rawRun) ∧
              (CrashingBody transport (statusPath reference details.headSha) ∨
                ∃ statuses, Answers transport (statusPath reference details.headSha) statuses ∧
                  CrashingStatuses statuses details.headSha))))

theorem escapes_inspect {transport : GitHubTransport} {reference : PullRequestRef}
    (htransport : ∀ path, Raises Recorded (transport path)) :
    Escapes Recorded (inspect transport reference) ↔ CrashingAnswer transport reference := by
  have hpull := safePath_pull reference
  unfold inspect CrashingAnswer
  rw [escapes_bind, escapes_requestObject hpull (htransport _)]
  refine or_congr_right (exists_congr fun pull => ?_)
  rw [requestObject_eq_ok hpull, escapes_bind, escapes_parsePull]
  refine and_congr_right fun _ => or_congr_right (exists_congr fun details => ?_)
  rw [parsePull_eq_ok]
  refine and_congr_right fun haccepted => ?_
  have hsha := haccepted.headSha_ok
  have hchecks := safePath_checks reference hsha
  have hstatus := safePath_status reference hsha
  rw [escapes_bind, escapes_requestObject hchecks (htransport _)]
  refine or_congr_right (exists_congr fun checks => ?_)
  rw [requestObject_eq_ok hchecks, escapes_bind, escapes_parseChecks hsha, ← parseChecks_eq_ok hsha,
    ← exists_and_right]
  refine and_congr_right fun _ => or_congr_right (exists_congr fun summary => ?_)
  refine and_congr_right fun _ => ?_
  rw [escapes_bind, escapes_requestObject hstatus (htransport _)]
  refine or_congr_right (exists_congr fun statuses => ?_)
  rw [requestObject_eq_ok hstatus, escapes_bind, escapes_parseStatuses hsha]
  refine and_congr_right fun _ => or_iff_left ?_
  rintro ⟨t, -, h⟩
  exact escapes_pure _ h

/-- What the agent makes of an exception of `issue`: a `receipt_failed` event, after which
the cursor of the room, in memory and in the state file, is that of the message. -/
def BecomesEvent (e : PyErr) : Prop :=
  ∀ (r : SafeResponder) (message : RoomMessage) (event : MessageEvent) (pullRequest : PyStr)
    (s : AgentState) (w : World), r.send = true → r.receiptService = true →
    s.cursorFor r.room ≤ message.seq →
    ∃ k, r.receiptEvent event pullRequest s = .perform (.issueReceipt pullRequest) k ∧
      k (.error e) = .ret (.ok (SafeResponder.receiptFailedEvent event pullRequest e), s) ∧
      Proc.Wp World.step (fun _ => True)
        (r.persistProcessedMessage message (SafeResponder.receiptFailedEvent event pullRequest e))
        (fun _ s' w' => s'.cursorFor r.room = message.seq ∧
          w'.durableCursor r.room = message.seq)
        (fun _ _ _ => True) s w

theorem becomesEvent_of_recorded {e : PyErr} (h : Recorded e) : BecomesEvent e := by
  intro r message event pullRequest s w hsend hservice hcursor
  unfold Recorded at h
  unfold SafeResponder.receiptEvent
  rw [if_neg (by simp [hsend]), if_neg (by simp [hservice])]
  refine ⟨_, rfl, ?_, ?_⟩
  · simp only [EffTree.ret_bind, h, if_true]
    rfl
  · refine (SafeResponder.wp_persistProcessedMessage_any hcursor).mono ?_ fun _ _ _ _ _ => trivial
    rintro - s' w' - ⟨hs', -, hdoc⟩
    have hreached : s'.cursorFor r.room = message.seq := by
      rw [hs']
      exact (Kept.atCursor s r.room message.seq).cursor
    refine ⟨hreached, ?_⟩
    rw [World.durableCursor, hdoc hsend, docEntry_cursors, hreached]

/-- **When a malformed answer is a recorded failure.**  For every reference and every
transport, `issue` raises what `inspect` raises, and this is a `GitHubReceiptError`, which
becomes an event, exactly unless the answers hold one of the values listed. -/
theorem recorded_unless_crashing (transport : GitHubTransport) (reference : PullRequestRef)
    (htransport : ∀ path, Raises Recorded (transport path)) :
    (∀ e, inspect transport reference = .error e → Recorded e ∧ BecomesEvent e ∧
        ∀ (service : ContributionReceiptService) (observedAt : ObservedAt) (url : PyStr),
          service.transport = transport → parseGithubPullRequestUrl url = .ok reference →
          service.issue none observedAt url = .error e) ↔
      ¬CrashingAnswer transport reference := by
  rw [← escapes_inspect htransport, ← raises_iff_not_escapes]
  constructor
  · intro h e he
    exact (h e he).1
  · intro h e he
    refine ⟨h e he, becomesEvent_of_recorded (h e he), ?_⟩
    rintro service observedAt url rfl hurl
    simp only [ContributionReceiptService.issue, hurl, he, bind, Except.bind]

end Inspection

/-! ## A number that is a text, and a state that is a list -/

open Sample

/-- The pull request of the sample, with a list for its state. -/
def listStatePull : JsonFields :=
  samplePull.map fun field => if field.1 = py "state" then (field.1, .arr []) else field

/-- GitHub answers with it. -/
def listStateTransport : GitHubTransport := fun _ => .ok (sampleResponse listStatePull)

/-- The pull request of the sample, with its number as a text. -/
def textNumberPull : JsonFields :=
  samplePull.map fun field => if field.1 = py "number" then (field.1, .str (py "42")) else field

/-- GitHub answers with it. -/
def textNumberTransport : GitHubTransport := fun _ => .ok (sampleResponse textNumberPull)

/-- What a transport answers that knows one answer. -/
theorem answers_iff {transport : GitHubTransport} {path : PyStr} {payload fields : JsonFields}
    (hanswer : transport path = .ok (sampleResponse payload)) (hplain : Plain (.obj payload))
    (hsize : (render (.obj payload)).length ≤ maxGitHubResponseBytes)
    (hdepth : depth (.obj payload) ≤ 900) : Answers transport path fields ↔ fields = payload := by
  have hloads : loads Protocol.jsonReader (sampleResponse payload).body = .ok (.obj payload) :=
    loads_render (hookKeeps_dict rfl) hplain hdepth
  constructor
  · rintro ⟨response, hresponse, -, hread⟩
    rw [hanswer] at hresponse
    cases hresponse
    rw [hloads] at hread
    cases hread
    rfl
  · rintro rfl
    refine ⟨_, hanswer, ⟨?_, rfl⟩, hloads⟩
    rw [sampleResponse, toAscii, List.length_map]
    exact hsize

theorem crashingPull_listState : CrashingPull listStatePull sampleReference := by
  refine Or.inr ⟨_, py "example/project", py "octocat", ⟨⟨rfl, rfl, ⟨_, rfl, rfl, rfl⟩, rfl⟩,
    ⟨sampleReference, ?_, rfl, rfl⟩, _, rfl, rfl⟩, rfl⟩
  exact parse_url sampleReference

/-- **A pull request whose number is a text** is malformed, and its failure is recorded. -/
theorem recorded_textNumber : ∃ e, inspect textNumberTransport sampleReference = .error e ∧
    Recorded e ∧ BecomesEvent e := by
  have hanswers (path : PyStr) (fields : JsonFields) :
      Answers textNumberTransport path fields ↔ fields = textNumberPull :=
    answers_iff rfl (by decide +kernel) (by decide +kernel) (by decide +kernel)
  have hnumber : Protocol.asNat (get textNumberPull (py "number")) ≠ some sampleReference.number := nofun
  have hunreached (base : JsonFields) (repository : PyStr) :
      ¬UrlReached textNumberPull sampleReference base repository := fun h => hnumber h.number
  have hunaccepted (details : PullDetails) : ¬AcceptedPull textNumberPull sampleReference details := by
    rintro ⟨⟨base, hreached, -⟩, -⟩
    exact hunreached _ _ hreached.toUrlReached
  have hsound : ¬CrashingAnswer textNumberTransport sampleReference := by
    rintro (⟨response, hresponse, -, hread⟩ | ⟨pull, hpull, hcrash⟩)
    · obtain ⟨response', hresponse', -, hread'⟩ := (hanswers (pullPath sampleReference) _).mpr rfl
      rw [hresponse] at hresponse'
      cases hresponse'
      rw [hread'] at hread
      rcases hread with hread | hread <;> cases hread
    · rw [hanswers] at hpull
      subst hpull
      rcases hcrash with (⟨base, repository, hreached, -⟩ | ⟨base, repository, author, hreached, -⟩) |
        ⟨details, haccepted, -⟩
      · exact hunreached base repository hreached
      · exact hunreached base repository hreached.toUrlReached
      · exact hunaccepted details haccepted
  have hrecorded := (recorded_unless_crashing textNumberTransport sampleReference fun _ => raises_ok _).mpr
    hsound
  cases hrun : inspect textNumberTransport sampleReference with
  | error e => exact ⟨e, rfl, (hrecorded e hrun).1, (hrecorded e hrun).2.1⟩
  | ok found =>
      obtain ⟨pull, hpull, hrun⟩ := PyResult.bind_ok hrun
      obtain ⟨details, hdetails, -⟩ := PyResult.bind_ok hrun
      rw [requestObject_eq_ok (safePath_pull sampleReference), hanswers] at hpull
      subst hpull
      exact (hunaccepted details (parsePull_eq_ok.mp hdetails)).elim

/-- **A pull request whose state is a list** raises a `TypeError`, which is not recorded. -/
theorem inspect_listState :
    ∃ e, inspect listStateTransport sampleReference = .error e ∧ ¬Recorded e := by
  have hanswers : Answers listStateTransport (pullPath sampleReference) listStatePull :=
    (answers_iff rfl (by decide +kernel) (by decide +kernel) (by decide +kernel)).mpr rfl
  exact (escapes_inspect fun _ => raises_ok _).mpr
    (Or.inr ⟨listStatePull, hanswers, Or.inl crashingPull_listState⟩)

end Receipt
