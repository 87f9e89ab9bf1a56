/-
# Evidence from GitHub (`receipt.py`)

`inspect` makes three reads of the public REST interface, through a transport that is a
parameter, and folds what they show into one `PullRequestEvidence`.

* `requestObject`                : one read, and what counts as an answer;
* `parsePull`                    : the pull request that was asked for;
* `parseChecks`, `parseStatuses` : the two sources of CI signals;
* `ciState`                      : the precedence among them.
-/
import SafeAgent.PullRequestUrl
import SafeAgent.Timestamps

open PyText

/-- `RawGitHubResponse`, with its `retry-after` header as `_retry_after` reads it. -/
structure RawGitHubResponse where
  status : ℕ
  headers : PyItems PyStr
  retryAfter : Option String
  body : Bytes

/-- `GitHubTransport.request` on a path; the three paths of one inspection differ. -/
abbrev GitHubTransport := PyStr → PyResult RawGitHubResponse

/-- `_PullDetails` -/
structure PullDetails where
  repository : PyStr
  number : ℕ
  url : PyStr
  author : PyStr
  state : PyStr
  merged : Bool
  draft : Bool
  headSha : PyStr
  baseSha : PyStr
  mergeCommitSha : Option PyStr
  sourceUpdatedAt : PyStr

/-- `_CheckSummary` -/
structure CheckSummary where
  observed : ℕ
  total : ℕ
  complete : Bool
  hasFailure : Bool
  hasPending : Bool

/-- `_StatusSummary` -/
structure StatusSummary where
  observed : ℕ
  total : ℕ
  complete : Bool
  state : PyStr

/-- `PullRequestEvidence` -/
structure PullRequestEvidence where
  repository : PyStr
  number : ℕ
  url : PyStr
  author : PyStr
  state : PyStr
  merged : Bool
  draft : Bool
  headSha : PyStr
  baseSha : PyStr
  mergeCommitSha : Option PyStr
  ci : PyStr
  ciDataComplete : Bool
  checksObserved : ℕ
  checksTotal : ℕ
  statusesObserved : ℕ
  statusesTotal : ℕ
  sourceUpdatedAt : PyStr

namespace Receipt

open Json

/-! ## Checks of single values -/

/-- `GitHubReceiptError(message, code=code)` -/
def receiptError (code message : String) : PyErr := { cls := .gitHubReceiptError, message, code }

/-- `GitHubReceiptError(message, code="invalid_github_response")` -/
def invalidResponse (message : String) : PyErr := receiptError "invalid_github_response" message

/-- `AUTHOR_PATTERN` -/
def isAuthor (s : PyStr) : Bool :=
  let login := if endsWith (py "[bot]") s then s.take (s.length - 5) else s
  login.length ≤ 100 && login.all (fun c => isAlnum c || c == 45) &&
    (match login.head?, login.getLast? with
      | some a, some b => isAlnum a && isAlnum b
      | _, _ => false)

/-- `SHA_PATTERN` -/
def isSha (s : PyStr) : Bool := s.length == 40 && s.all isHexLower

/-- `_parse_repository` -/
def parseRepository (value : Json) : PyResult PyStr :=
  match value.asStr with
  | none => .error (invalidResponse "GitHub returned an invalid repository name")
  | some s =>
      if s.count 47 ≠ 1 then
        .error (invalidResponse "GitHub returned an invalid repository name")
      else if isOwner (cut 47 s).1 && validRepository ((cut 47 s).2.getD []) then .ok s
      else .error (invalidResponse "GitHub returned an unsafe repository name")

/-- `_require_sha` -/
def requireSha (value : Json) (label : String) : PyResult PyStr :=
  match value.asStr with
  | some s => if isSha s then .ok s else .error (invalidResponse ("GitHub returned an invalid " ++ label))
  | none => .error (invalidResponse ("GitHub returned an invalid " ++ label))

/-- `_require_count` -/
def requireCount (value : Json) (label : String) : PyResult ℕ :=
  match Protocol.asNat value with
  | some n => .ok n
  | none => .error (invalidResponse ("GitHub returned an invalid " ++ label))

/-- `_require_timestamp` -/
def requireTimestamp (value : Json) (label : String) : PyResult PyStr :=
  match value.asStr with
  | some s =>
      if (UtcTime.parseIso s).isSome then .ok s
      else .error (invalidResponse ("GitHub returned an invalid " ++ label))
  | none => .error (invalidResponse ("GitHub returned an invalid " ++ label))

/-- `_mapping` -/
def requireMapping (value : Json) (label : String) : PyResult JsonFields :=
  match value.asObj with
  | some fields => .ok fields
  | none => .error (invalidResponse ("GitHub returned an invalid " ++ label))

/-- `_list` -/
def requireList (value : Json) (label : String) : PyResult (List Json) :=
  match value.asArr with
  | some items => .ok items
  | none => .error (invalidResponse ("GitHub returned an invalid " ++ label))

/-- `isinstance(value, bool)`, with the value. -/
def asBool : Json → Option Bool
  | .bool b => some b
  | _ => none

/-! ## CI signals -/

/-- `CHECK_STATUSES` -/
def checkStatuses : List PyStr :=
  [py "queued", py "in_progress", py "requested", py "waiting", py "pending", py "completed"]

/-- `CHECK_FAILURES` -/
def checkFailures : List PyStr :=
  [py "action_required", py "cancelled", py "failure", py "stale", py "startup_failure",
    py "timed_out"]

/-- `CHECK_NON_FAILURES` -/
def checkNonFailures : List PyStr := [py "neutral", py "skipped", py "success"]

/-- `COMBINED_STATUS_STATES` -/
def combinedStatusStates : List PyStr := [py "error", py "failure", py "pending", py "success"]

/-- One pass of the loop of `_parse_checks`: whether the run failed, and whether it is
still going on. -/
def parseRun (rawRun : Json) (expectedSha : PyStr) : PyResult (Bool × Bool) := do
  let run ← requireMapping rawRun "check-run"
  let sha ← requireSha (get run (py "head_sha")) "check-run head SHA"
  if sha ≠ expectedSha then
    .error (invalidResponse "GitHub returned a check-run for a different commit")
  else
    let known ← inNames (get run (py "status")) checkStatuses
    if ¬known then .error (invalidResponse "GitHub returned an unknown check-run status")
    else if ¬(get run (py "status")).isStr (py "completed") then .ok (false, true)
    else
      let failed ← inNames (get run (py "conclusion")) checkFailures
      if failed then .ok (true, false)
      else
        let passed ← inNames (get run (py "conclusion")) checkNonFailures
        if passed then .ok (false, false)
        else .error (invalidResponse "GitHub returned an unknown check-run conclusion")

/-- The loop of `_parse_checks`: whether any run failed, and whether any is going on. -/
def parseRuns (expectedSha : PyStr) : List Json → Bool → Bool → PyResult (Bool × Bool)
  | [], hasFailure, hasPending => .ok (hasFailure, hasPending)
  | rawRun :: rest, hasFailure, hasPending => do
      let (failed, pending) ← parseRun rawRun expectedSha
      parseRuns expectedSha rest (hasFailure || failed) (hasPending || pending)

/-- `_parse_checks` -/
def parseChecks (payload : JsonFields) (expectedSha : PyStr) : PyResult CheckSummary := do
  let total ← requireCount (get payload (py "total_count")) "check-run count"
  let runs ← requireList (get payload (py "check_runs")) "check-runs"
  if total < runs.length ∨ 100 < runs.length then
    .error (invalidResponse "GitHub returned inconsistent check-run counts")
  else
    let (hasFailure, hasPending) ← parseRuns expectedSha runs false false
    return { observed := runs.length, total, complete := runs.length = total, hasFailure, hasPending }

/-- `_parse_statuses` -/
def parseStatuses (payload : JsonFields) (expectedSha : PyStr) : PyResult StatusSummary := do
  let sha ← requireSha (get payload (py "sha")) "combined-status SHA"
  if sha ≠ expectedSha then
    .error (invalidResponse "GitHub returned statuses for a different commit")
  else
    let known ← inNames (get payload (py "state")) combinedStatusStates
    match known, (get payload (py "state")).asStr with
    | true, some state =>
        let total ← requireCount (get payload (py "total_count")) "status count"
        let statuses ← requireList (get payload (py "statuses")) "statuses"
        if total < statuses.length ∨ 100 < statuses.length then
          .error (invalidResponse "GitHub returned inconsistent status counts")
        else return { observed := statuses.length, total, complete := statuses.length = total, state }
    | _, _ => .error (invalidResponse "GitHub returned an unknown combined-status state")

/-- The branches of `inspect` that choose `ci`. -/
def ciState (checks : CheckSummary) (statuses : StatusSummary) : PyStr :=
  if checks.hasFailure ∨ statuses.state = py "error" ∨ statuses.state = py "failure" then
    py "failure"
  else if ¬(checks.complete && statuses.complete) then py "partial"
  else if checks.total + statuses.total = 0 then py "no_signals"
  else if checks.hasPending ∨ statuses.state = py "pending" then py "pending"
  else py "success"

/-! ## The pull request -/

variable [Platform]

/-- `parse_github_pull_request_url` on a decoded JSON value. -/
def parseUrlValue (value : Json) : PyResult PullRequestRef :=
  match value.asStr with
  | some url => parseGithubPullRequestUrl url
  | none => .error (invalidUrl "pull request URL must not contain surrounding whitespace")

/-- `_parse_pull` -/
def parsePull (payload : JsonFields) (reference : PullRequestRef) : PyResult PullDetails := do
  let number ← requireCount (get payload (py "number")) "pull request number"
  if number ≠ reference.number ∨ number = 0 then
    .error (invalidResponse "GitHub returned a different pull request number")
  else
    let base ← requireMapping (get payload (py "base")) "pull request base"
    let baseRepo ← requireMapping (get base (py "repo")) "base repository"
    if asBool (get baseRepo (py "private")) ≠ some false then
      .error (receiptError "private_repository_rejected"
        "only public base repositories can receive receipts")
    else
      let repository ← parseRepository (get baseRepo (py "full_name"))
      if casefold repository ≠ casefold reference.fullName then
        .error (invalidResponse "GitHub returned a different base repository")
      else
        let canonical ← parseGithubPullRequestUrl
          (py "https://github.com/" ++ repository ++ py "/pull/" ++ decimal number)
        let html ← parseUrlValue (get payload (py "html_url"))
        if casefold html.fullName ≠ casefold canonical.fullName ∨ html.number ≠ number then
          .error (invalidResponse "GitHub returned an inconsistent pull request URL")
        else
          let user ← requireMapping (get payload (py "user")) "pull request author"
          match (get user (py "login")).asStr.filter isAuthor with
          | none => .error (invalidResponse "GitHub returned an unsafe author login")
          | some author =>
              let known ← inNames (get payload (py "state")) [py "open", py "closed"]
              match known, (get payload (py "state")).asStr with
              | true, some state =>
                  match asBool (get payload (py "merged")), asBool (get payload (py "draft")) with
                  | some merged, some draft =>
                      let head ← requireMapping (get payload (py "head")) "pull request head"
                      let headSha ← requireSha (get head (py "sha")) "head SHA"
                      let baseSha ← requireSha (get base (py "sha")) "base SHA"
                      let mergeCommitSha ←
                        match merged, get payload (py "merge_commit_sha") with
                        | false, _ => .ok none
                        | true, .null => .ok none
                        | true, raw => some <$> requireSha raw "merge commit SHA"
                      let sourceUpdatedAt ← requireTimestamp (get payload (py "updated_at"))
                        "pull request updated_at"
                      return { repository, number, url := canonical.url, author, state, merged, draft,
                               headSha, baseSha, mergeCommitSha, sourceUpdatedAt }
                  | _, _ => .error (invalidResponse "GitHub returned invalid pull request flags")
              | _, _ => .error (invalidResponse "GitHub returned an invalid pull request state")

/-! ## The client -/

/-- `MAX_GITHUB_RESPONSE_BYTES` -/
def maxGitHubResponseBytes : ℕ := 2 * 1024 * 1024

/-- Whether `"//" in path`. -/
def hasDoubleSlash : PyStr → Bool
  | 47 :: 47 :: _ => true
  | _ :: rest => hasDoubleSlash rest
  | [] => false

/-- The `GitHubReceiptError` for a status other than 200. -/
def httpStatusError (response : RawGitHubResponse) : PyErr :=
  let rateLimited := response.status = 429 ∨
    (response.status = 403 ∧ response.headers.lookup (py "x-ratelimit-remaining") = some (py "0"))
  { cls := .gitHubReceiptError, message := s!"GitHub returned HTTP {response.status}",
    code := if rateLimited then "github_rate_limited" else s!"github_http_{response.status}",
    status := some response.status, retryAfter := response.retryAfter }

/-- `_request_object` -/
def requestObject (transport : GitHubTransport) (path : PyStr) : PyResult JsonFields :=
  if ¬startsWith (py "/repos/") path ∨ hasDoubleSlash path then
    .error (receiptError "unsafe_github_path" "refusing an unsafe GitHub API path")
  else do
    let response ← transport path
    if maxGitHubResponseBytes < response.body.length then
      .error (receiptError "github_response_too_large"
        "GitHub response exceeded the 2 MiB safety limit")
    else if response.status ≠ 200 then .error (httpStatusError response)
    else
      match Json.loads Protocol.jsonReader response.body with
      | .error e =>
          if e.isa .unicodeDecodeError || e.isa .jsonDecodeError then
            .error (invalidResponse "GitHub returned invalid JSON")
          else .error e
      | .ok payload =>
          match payload.asObj with
          | some fields => .ok fields
          | none => .error (invalidResponse "GitHub response must be a JSON object")

/-- `f"/repos/{reference.owner}/{reference.repository}"` -/
def basePath (reference : PullRequestRef) : PyStr :=
  py "/repos/" ++ reference.owner ++ 47 :: reference.repository

/-- The path of the pull request. -/
def pullPath (reference : PullRequestRef) : PyStr :=
  basePath reference ++ py "/pulls/" ++ decimal reference.number

/-- The path of the check runs of a commit. -/
def checksPath (reference : PullRequestRef) (headSha : PyStr) : PyStr :=
  basePath reference ++ py "/commits/" ++ headSha ++ py "/check-runs?per_page=100&filter=latest"

/-- The path of the combined status of a commit. -/
def statusPath (reference : PullRequestRef) (headSha : PyStr) : PyStr :=
  basePath reference ++ py "/commits/" ++ headSha ++ py "/status?per_page=100"

/-- `GitHubPublicClient.inspect` -/
def inspect (transport : GitHubTransport) (reference : PullRequestRef) :
    PyResult PullRequestEvidence := do
  let pull ← requestObject transport (pullPath reference)
  let details ← parsePull pull reference
  let checksPayload ← requestObject transport (checksPath reference details.headSha)
  let checks ← parseChecks checksPayload details.headSha
  let statusPayload ← requestObject transport (statusPath reference details.headSha)
  let statuses ← parseStatuses statusPayload details.headSha
  return {
    repository := details.repository, number := details.number, url := details.url,
    author := details.author, state := details.state, merged := details.merged,
    draft := details.draft, headSha := details.headSha, baseSha := details.baseSha,
    mergeCommitSha := details.mergeCommitSha, ci := ciState checks statuses,
    ciDataComplete := checks.complete && statuses.complete,
    checksObserved := checks.observed, checksTotal := checks.total,
    statusesObserved := statuses.observed, statusesTotal := statuses.total,
    sourceUpdatedAt := details.sourceUpdatedAt }

end Receipt
