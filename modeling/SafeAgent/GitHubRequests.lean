/-
# What is asked of GitHub (`receipt.py`)

A room participant chooses a URL, and the answers of GitHub choose a commit.  Both end up in
the paths that `GitHubPublicClient` asks its transport for.

* `RequestOp`           : every call of `ContributionReceiptService.issue`;
* `fetch`, `inspect`, `issue` : the attempt, one request after another;
* `run_inspect`         : with a transport that is a function this is `Receipt.inspect`;
* `target_of_decide`    : what the agent hands to its receipt service;
* `requests_confined`   : **the requests**, for every text and every answer.
-/
import SafeAgent.MalformedAnswers
import SafeAgent.Policy
import SafeAgent.Sample

open PyText

namespace GitHubRequests

open Json Receipt

/-! ## One attempt -/

/-- A call of `ContributionReceiptService.issue` that leaves the process. -/
inductive RequestOp
  /-- `self.monotonic()` -/
  | monotonic
  /-- `self.transport.request(path, ...)` -/
  | request (path : PyStr)
  /-- `self.clock()` -/
  | clock

/-- The answer of a call that does not raise. -/
@[reducible] def RequestOp.Val : RequestOp → Type
  | .monotonic => ℚ
  | .request _ => RawGitHubResponse
  | .clock => ObservedAt

/-- A process of the receipt service; its memory is `_last_attempt_at`. -/
abbrev RequestProc (α : Type) := Proc RequestOp RequestOp.Val PyErr (Option ℚ) α

/-- Make a call. -/
abbrev perform (o : RequestOp) : RequestProc o.Val := Proc.call o

section Attempt

variable [Platform]

/-- `_request_object` once the transport has answered. -/
def readResponse (response : RawGitHubResponse) : PyResult JsonFields :=
  if maxGitHubResponseBytes < response.body.length then
    .error (receiptError "github_response_too_large"
      "GitHub response exceeded the 2 MiB safety limit")
  else if response.status ≠ 200 then .error (httpStatusError response)
  else
    match Json.loads Protocol.jsonReader response.body with
    | .error e =>
        if e.isa .unicodeDecodeError || e.isa .jsonDecodeError then
          .error (invalidResponse "GitHub returned invalid JSON")
        else .error e
    | .ok payload =>
        match payload.asObj with
        | some fields => .ok fields
        | none => .error (invalidResponse "GitHub response must be a JSON object")

/-- `_request_object` -/
def fetch (path : PyStr) : RequestProc JsonFields :=
  if ¬startsWith (py "/repos/") path ∨ hasDoubleSlash path then
    throw (receiptError "unsafe_github_path" "refusing an unsafe GitHub API path")
  else do
    let response : RawGitHubResponse ← perform (.request path)
    Proc.ofExcept (readResponse response)

/-- `GitHubPublicClient.inspect` -/
def inspect (reference : PullRequestRef) : RequestProc PullRequestEvidence := do
  let pull ← fetch (pullPath reference)
  let details ← Proc.ofExcept (parsePull pull reference)
  let checksPayload ← fetch (checksPath reference details.headSha)
  let checks ← Proc.ofExcept (parseChecks checksPayload details.headSha)
  let statusPayload ← fetch (statusPath reference details.headSha)
  let statuses ← Proc.ofExcept (parseStatuses statusPayload details.headSha)
  return {
    repository := details.repository, number := details.number, url := details.url,
    author := details.author, state := details.state, merged := details.merged,
    draft := details.draft, headSha := details.headSha, baseSha := details.baseSha,
    mergeCommitSha := details.mergeCommitSha, ci := ciState checks statuses,
    ciDataComplete := checks.complete && statuses.complete,
    checksObserved := checks.observed, checksTotal := checks.total,
    statusesObserved := statuses.observed, statusesTotal := statuses.total,
    sourceUpdatedAt := details.sourceUpdatedAt }

/-- `ContributionReceiptService`, what does not change of it. -/
structure ReceiptService where
  issuerDid : PyStr
  privateKey : Platform.PrivateKey
  minIntervalSeconds : ℚ

/-- The wait that is left of a cooldown. -/
def ReceiptService.cooldown (service : ReceiptService) (last : Option ℚ) (now : ℚ) : Option ℚ :=
  match last with
  | none => none
  | some last =>
      if now - last < service.minIntervalSeconds then
        some (service.minIntervalSeconds - max (now - last) 0)
      else none

/-- `ContributionReceiptService.issue` -/
def issue (service : ReceiptService) (url : PyStr) : RequestProc PyStr := do
  let reference ← Proc.ofExcept (parseGithubPullRequestUrl url)
  let now : ℚ ← perform .monotonic
  let last ← get
  match service.cooldown last now with
  | some retryAfter =>
      throw { receiptError "local_receipt_rate_limited" "GitHub receipt cooldown is active" with
        retryAfter := some (toString retryAfter) }
  | none => do
      set (some now)
      let evidence ← inspect reference
      let observedAt : ObservedAt ← perform .clock
      let receipt ←
        Proc.ofExcept (buildSignedReceipt evidence service.issuerDid service.privateKey observedAt)
      Proc.ofExcept (renderSignedReceipt receipt)

/-- The target of the decision that `_parse_command` makes of a text. -/
def targetOf (text : PyStr) : PyResult (Option PyStr) :=
  match Policy.commandName text with
  | none => .ok none
  | some name => do
      let parsed ← Policy.parseCommand name text
      return parsed.decision.target

/-- What a text leads to, where the sender may ask. -/
def attempt (service : ReceiptService) (text : PyStr) : RequestProc (Option PyStr) := do
  let target ← Proc.ofExcept (targetOf text)
  match target with
  | none => return none
  | some url => do
      let receipt ← issue service url
      return some receipt

end Attempt

/-! ## The requests of an attempt -/

/-- The world is the list of the paths that were asked for; any call may answer anything. -/
def Requested (w : List PyStr) : (o : RequestOp) → Except PyErr o.Val → List PyStr → Prop
  | .request path, _, w' => w' = w ++ [path]
  | _, _, w' => w' = w

/-- A character that stands for itself in the path of a URL. -/
def Plainly (c : ℕ) : Prop :=
  c ≠ 47 ∧ c ≠ 63 ∧ c ≠ 35 ∧ c ≠ 37 ∧ isSpace c = false ∧ 32 < c ∧ c < 127

/-- A name of a repository, with its owner. -/
structure RepositoryName (owner repository : PyStr) : Prop where
  owner_ok : isOwner owner = true
  repository_ok : isRepository repository = true
  plainly : ∀ c ∈ owner ++ repository, Plainly c
  ne_dot : repository ≠ py "."
  ne_dots : repository ≠ py ".."

/-- A decimal number without leading zeros, in the range of pull requests. -/
structure PullNumber (digits : PyStr) : Prop where
  digits_ok : digits ≠ [] ∧ digits.all isDigit = true
  no_leading_zero : digits.head? ≠ some 48
  in_range : 0 < ofDecimal digits ∧ ofDecimal digits ≤ 2147483647

/-- The three paths of an attempt, in their order. -/
def receiptPaths (owner repository digits sha : PyStr) : List PyStr :=
  let base := py "/repos/" ++ owner ++ py "/" ++ repository
  [base ++ py "/pulls/" ++ digits,
    base ++ py "/commits/" ++ sha ++ py "/check-runs?per_page=100&filter=latest",
    base ++ py "/commits/" ++ sha ++ py "/status?per_page=100"]

/-- The requests are the first of the three paths of one pull request and one commit. -/
def Confined (w : List PyStr) : Prop :=
  w = [] ∨ ∃ owner repository digits sha, RepositoryName owner repository ∧ PullNumber digits ∧
    isSha sha = true ∧ w <+: receiptPaths owner repository digits sha

theorem plainly_of_isRepositoryChar {c : ℕ} (h : isRepositoryChar c = true) : Plainly c := by
  simp only [isRepositoryChar, isAlnum, isAlpha, isUpper, isLower, isDigit, Bool.or_eq_true,
    Bool.and_eq_true, decide_eq_true_eq, beq_iff_eq] at h
  have hrange : 45 ≤ c ∧ c ≤ 122 ∧ c ≠ 47 ∧ c ≠ 63 := by omega
  refine ⟨by omega, by omega, by omega, by omega, ?_, by omega, by omega⟩
  simp only [isSpace, Bool.or_eq_false_iff, Bool.and_eq_false_iff, decide_eq_false_iff_not,
    beq_eq_false_iff_ne]
  omega

theorem repositoryName (reference : PullRequestRef) :
    RepositoryName reference.owner reference.repository where
  owner_ok := reference.owner_ok
  repository_ok := by
    have hok := reference.repository_ok
    simp only [validRepository, Bool.and_eq_true] at hok
    exact hok.1.1
  plainly := by
    intro c hc
    apply plainly_of_isRepositoryChar
    rcases List.mem_append.mp hc with hc | hc
    · exact isRepositoryChar_owner reference c hc
    · exact isRepositoryChar_repository reference c hc
  ne_dot := by
    intro hdot
    have hok := reference.repository_ok
    rw [hdot] at hok
    exact absurd hok (by decide)
  ne_dots := by
    intro hdots
    have hok := reference.repository_ok
    rw [hdots] at hok
    exact absurd hok (by decide)

theorem pullNumber (reference : PullRequestRef) : PullNumber (decimal reference.number) where
  digits_ok := ⟨decimal_ne_nil _, List.all_eq_true.mpr fun _ hc => isDigit_of_mem_decimal hc⟩
  no_leading_zero := decimal_head_ne_zero reference.number_pos
  in_range := by
    rw [ofDecimal_decimal]
    exact ⟨reference.number_pos, reference.number_le⟩

/-- The paths of the client are the three paths. -/
theorem receiptPaths_eq (reference : PullRequestRef) (sha : PyStr) :
    receiptPaths reference.owner reference.repository (decimal reference.number) sha =
      [pullPath reference, checksPath reference sha, statusPath reference sha] := by
  have hbase : py "/repos/" ++ reference.owner ++ py "/" ++ reference.repository =
      basePath reference := by
    rw [basePath, List.append_assoc]
    rfl
  simp only [receiptPaths, hbase]
  rfl

theorem confined_of_prefix {reference : PullRequestRef} {sha : PyStr} {w : List PyStr}
    (hsha : isSha sha = true)
    (h : w <+: [pullPath reference, checksPath reference sha, statusPath reference sha]) :
    Confined w :=
  Or.inr ⟨_, _, _, sha, repositoryName reference, pullNumber reference, hsha,
    (receiptPaths_eq reference sha).symm ▸ h⟩

section Rules

open Proc

variable [Platform] {s : Option ℚ} {w : List PyStr}

/-- Nothing is said about what is raised. -/
abbrev Anyhow : PyErr → Option ℚ → List PyStr → Prop := fun _ _ _ => True

/-- A request is one path more. -/
theorem wp_fetch {path : PyStr} {Q : JsonFields → Option ℚ → List PyStr → Prop} (hw : Confined w)
    (hnext : Confined (w ++ [path])) (hQ : ∀ fields, Q fields s (w ++ [path])) :
    Wp Requested Confined (fetch path) Q Anyhow s w := by
  unfold fetch
  split_ifs
  · exact (wp_throw _).mpr ⟨hw, trivial⟩
  rw [wp_bind, wp_call]
  refine ⟨hw, ?_⟩
  rintro r w' rfl
  cases r with
  | error e => exact ⟨hnext, trivial⟩
  | ok response =>
      refine ⟨hnext, (wp_ofExcept _).mpr ⟨hnext, ?_⟩⟩
      cases readResponse response with
      | ok fields => exact hQ fields
      | error e => trivial

omit [Platform] in
theorem wp_result {α : Type} {r : PyResult α} {Q : α → Option ℚ → List PyStr → Prop}
    (hw : Confined w) (hQ : ∀ a, r = .ok a → Q a s w) :
    Wp Requested Confined (Proc.ofExcept r) Q Anyhow s w := by
  rw [wp_ofExcept]
  refine ⟨hw, ?_⟩
  cases r with
  | ok a => exact hQ a rfl
  | error e => trivial

omit [Platform] in
theorem wp_quiet {o : RequestOp} {Q : o.Val → Option ℚ → List PyStr → Prop}
    (ho : ∀ r w', Requested w o r w' → w' = w) (hw : Confined w) (hQ : ∀ a, Q a s w) :
    Wp Requested Confined (perform o) Q Anyhow s w := by
  rw [wp_call]
  refine ⟨hw, fun r w' hstep => ?_⟩
  obtain rfl := ho r w' hstep
  cases r with
  | ok a => exact ⟨hw, hQ a⟩
  | error e => exact ⟨hw, trivial⟩

/-- **The requests of an inspection.**  The commit of the last two is the one that the answer to
the first names, which is a hash. -/
theorem wp_inspect (reference : PullRequestRef) :
    Wp Requested Confined (inspect reference) (fun _ _ _ => True) Anyhow s [] := by
  have hnone : Confined [] := Or.inl rfl
  have hzeros : isSha (List.replicate 40 48) = true := by decide
  have hone : Confined [pullPath reference] := confined_of_prefix hzeros ⟨_, rfl⟩
  unfold inspect
  rw [wp_bind]
  refine wp_fetch hnone hone fun pull => ?_
  rw [wp_bind]
  refine wp_result hone fun details hdetails => ?_
  have hsha : isSha details.headSha = true := (parsePull_eq_ok.mp hdetails).headSha_ok
  have htwo : Confined [pullPath reference, checksPath reference details.headSha] :=
    confined_of_prefix hsha ⟨_, rfl⟩
  have hthree : Confined [pullPath reference, checksPath reference details.headSha,
      statusPath reference details.headSha] := confined_of_prefix hsha ⟨[], rfl⟩
  rw [wp_bind]
  refine wp_fetch hone htwo fun checksPayload => ?_
  rw [wp_bind]
  refine wp_result htwo fun checks _ => ?_
  rw [wp_bind]
  refine wp_fetch htwo hthree fun statusPayload => ?_
  rw [wp_bind]
  refine wp_result hthree fun statuses _ => ?_
  exact (wp_pure _).mpr ⟨hthree, trivial⟩

theorem wp_issue (service : ReceiptService) (url : PyStr) :
    Wp Requested Confined (issue service url) (fun _ _ _ => True) Anyhow s [] := by
  have hnone : Confined [] := Or.inl rfl
  unfold issue
  rw [wp_bind]
  refine wp_result hnone fun reference _ => ?_
  rw [wp_bind]
  refine wp_quiet (o := .monotonic) (fun _ _ h => h) hnone fun now => ?_
  rw [wp_bind, wp_get]
  refine ⟨hnone, ?_⟩
  cases service.cooldown s now with
  | some retryAfter => exact (wp_throw _).mpr ⟨hnone, trivial⟩
  | none =>
      dsimp only
      rw [wp_bind, wp_set]
      refine ⟨hnone, ?_⟩
      rw [wp_bind]
      refine (wp_inspect reference).mono (fun evidence s' w' hw _ => ?_) fun _ _ _ _ h => h
      rw [wp_bind]
      refine wp_quiet (o := .clock) (fun _ _ h => h) hw fun observedAt => ?_
      rw [wp_bind]
      refine wp_result hw fun receipt _ => ?_
      exact wp_result hw fun _ _ => trivial

theorem wp_attempt (service : ReceiptService) (text : PyStr) :
    Wp Requested Confined (attempt service text) (fun _ _ _ => True) Anyhow s [] := by
  have hnone : Confined [] := Or.inl rfl
  unfold attempt
  rw [wp_bind]
  refine wp_result hnone fun target _ => ?_
  cases target with
  | none => exact (wp_pure _).mpr ⟨hnone, trivial⟩
  | some url =>
      dsimp only
      rw [wp_bind]
      refine (wp_issue service url).mono (fun receipt s' w' hw _ => ?_) fun _ _ _ _ h => h
      exact (wp_pure _).mpr ⟨hw, trivial⟩

end Rules

/-! ## The agent -/

section Agent

variable [Platform]

/-- **What is handed to the receipt service** is the target of the text, whoever sent it. -/
theorem target_of_decide (policy : CommandPolicy) (message : RoomMessage) :
    Proc.Ends (Policy.decide policy message) fun decision =>
      ∀ url, decision.target = some url → targetOf message.text = .ok (some url) := by
  have hdenial : Proc.Ends (Policy.authorizeSender policy message) fun found =>
      ∀ denial, found.1 = some denial → denial.target = none := by
    have hnone : ∀ {grant : Option CapabilityGrant} (denial : Decision),
        ((none, grant) : Option Decision × Option CapabilityGrant).1 = some denial →
          denial.target = none := by
      rintro grant denial ⟨⟩
    have hsome : ∀ {reason : Reason} (denial : Decision),
        ((some (Policy.ignore reason), none) : Option Decision × Option CapabilityGrant).1 =
          some denial → denial.target = none := by
      rintro reason denial ⟨⟩
      rfl
    -- a refusal of the sender names no target
    unfold Policy.authorizeSender
    by_cases hown : message.sender = policy.ownDid
    · rw [if_pos hown]
      exact Proc.ends_pure fun denial h => hsome denial h
    by_cases hsigned : ¬message.isSigned
    · rw [if_neg hown, if_pos hsigned]
      exact Proc.ends_pure fun denial h => hsome denial h
    rw [if_neg hown, if_neg hsigned]
    refine Proc.ends_bind (Proc.ends_trivial _) fun grant _ => ?_
    split
    · split_ifs
      · exact Proc.ends_pure fun denial h => hsome denial h
      · exact Proc.ends_pure fun denial h => hnone denial h
    · exact Proc.ends_pure fun denial h => hsome denial h
    · split_ifs
      · exact Proc.ends_pure fun denial h => hnone denial h
      · exact Proc.ends_pure fun denial h => hsome denial h
  have hignore : ∀ {reason : Reason} (url : PyStr), (Policy.ignore reason).target = some url →
      targetOf message.text = .ok (some url) := by
    rintro reason url ⟨⟩
  unfold Policy.decide
  refine Proc.ends_bind hdenial ?_
  rintro ⟨denial, grant⟩ hnone
  cases denial with
  | some denial =>
      refine Proc.ends_pure fun url hurl => ?_
      rw [hnone denial rfl] at hurl
      cases hurl
  | none =>
      dsimp only
      unfold Policy.decideAuthorizedCommand
      cases hname : Policy.commandName message.text with
      | none => exact Proc.ends_pure hignore
      | some name =>
          dsimp only
          split_ifs
          · exact Proc.ends_pure hignore
          refine Proc.ends_bind (R := fun parsed => Policy.parseCommand name message.text = .ok parsed)
            (Proc.ends_ofExcept fun parsed hparsed => hparsed) fun parsed hparsed => ?_
          -- the target of the command is what `targetOf` reads from the same text
          have htarget : ∀ url, parsed.decision.target = some url →
              targetOf message.text = .ok (some url) := by
            intro url hurl
            unfold targetOf
            rw [hname]
            dsimp only
            rw [hparsed, ← hurl]
            rfl
          split_ifs
          · exact Proc.ends_pure htarget
          · exact Proc.ends_pure hignore
          · cases grant with
            | none => exact Proc.ends_pure htarget
            | some g =>
                refine Proc.ends_bind (Proc.ends_trivial _) fun allowed _ => ?_
                split_ifs
                · exact Proc.ends_pure htarget
                · exact Proc.ends_pure hignore

/-! ## The attempt as a function of the answers -/

/-- One answer for each path, and one for each clock. -/
def answersOf (transport : GitHubTransport) (now : ℚ) (observedAt : ObservedAt) :
    (o : RequestOp) → Except PyErr o.Val
  | .monotonic => .ok now
  | .request path => transport path
  | .clock => .ok observedAt

section Result

variable {transport : GitHubTransport} {now : ℚ} {observedAt : ObservedAt} {s : Option ℚ}

theorem result_fetch (path : PyStr) :
    Proc.result (answersOf transport now observedAt) (fetch path) s =
      (requestObject transport path, s) := by
  unfold fetch requestObject
  by_cases hpath : ¬startsWith (py "/repos/") path ∨ hasDoubleSlash path
  · rw [if_pos hpath, if_pos hpath]
    rfl
  · rw [if_neg hpath, if_neg hpath]
    exact Proc.result_bind (Proc.result_call _) fun response => Proc.result_ofExcept _

/-- **The inspection is the one of the model of the answers.** -/
theorem result_inspect (reference : PullRequestRef) :
    Proc.result (answersOf transport now observedAt) (inspect reference) s =
      (Receipt.inspect transport reference, s) := by
  unfold inspect Receipt.inspect
  refine Proc.result_bind (result_fetch _) fun pull => ?_
  refine Proc.result_bind (Proc.result_ofExcept _) fun details => ?_
  refine Proc.result_bind (result_fetch _) fun checksPayload => ?_
  refine Proc.result_bind (Proc.result_ofExcept _) fun checks => ?_
  refine Proc.result_bind (result_fetch _) fun statusPayload => ?_
  exact Proc.result_bind (Proc.result_ofExcept _) fun statuses => rfl

/-- The same of a whole attempt that is not too early. -/
theorem result_issue (service : ReceiptService) (url : PyStr) (h : service.cooldown s now = none) :
    (Proc.result (answersOf transport now observedAt) (issue service url) s).1 =
      ContributionReceiptService.issue
        { issuerDid := service.issuerDid, privateKey := service.privateKey, transport } none
        observedAt url := by
  unfold issue ContributionReceiptService.issue
  cases hurl : parseGithubPullRequestUrl url with
  | error e => rfl
  | ok reference =>
      have hget : Proc.result (answersOf transport now observedAt) (get : RequestProc (Option ℚ)) s =
          (.ok s, s) := rfl
      have hset : Proc.result (answersOf transport now observedAt)
          (set (some now) : RequestProc PUnit) s = (.ok ⟨⟩, some now) := rfl
      rw [Proc.result_bind_ok (Proc.result_ofExcept _), Proc.result_bind_ok (Proc.result_call _),
        Proc.result_bind_ok hget, h]
      dsimp only
      rw [Proc.result_bind_ok hset]
      refine congrArg Prod.fst (Proc.result_bind (result_inspect reference) fun evidence => ?_)
      rw [Proc.result_bind_ok (Proc.result_call _)]
      exact Proc.result_bind (Proc.result_ofExcept _) fun receipt => Proc.result_ofExcept _

end Result

/-! ## The requests -/

/-- **A room participant cannot shape the request.**

Wherever an attempt is cut, for every text and whatever is answered, the requests so far are the
first of three paths: those of the pull request, the check runs and the status, in which owner
and repository match their patterns, the number is in range and without leading zeros, and the
commit is a hash. -/
theorem requests_confined (service : ReceiptService) (text : PyStr) (s : Option ℚ) :
    ∀ w, EffTree.Reaches Requested (attempt service text s) [] w → Confined w :=
  fun _ hreach => (wp_attempt service text).invariant hreach

end Agent

/-- The paths that were asked for, with one more where a call is a request. -/
def recordRequest (w : List PyStr) : RequestOp → List PyStr
  | .request path => w ++ [path]
  | _ => w

section Example

open Sample

/-- A transport that loses the connection at its third request. -/
def lostTransport : GitHubTransport := fun path =>
  if path = statusPath sampleReference sampleSha then
    .error (receiptError "github_transport_error" "GitHub request failed: timed out")
  else sampleTransport path

/-- The requests of an attempt at one pull request. -/
def sampleRequests : List PyStr :=
  (EffTree.run (fun w o => (answersOf lostTransport 0 (.utc time) o, recordRequest w o))
    (attempt { issuerDid := did, privateKey := key, minIntervalSeconds := 60 }
      (py "/pr https://github.com/example/project/pull/42") none) []).2

theorem requests_confined_sample : Confined sampleRequests ∧ sampleRequests.length = 3 := by
  refine ⟨requests_confined _ _ none _ (EffTree.returns_run ?_ _ []).reaches, by decide +kernel⟩
  intro w o
  cases o <;> rfl

end Example

end GitHubRequests
