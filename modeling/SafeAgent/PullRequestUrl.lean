/-
# Pull-request URLs (`receipt.py`)

`urlsplit` is the standard library's URL splitter, and `parseGithubPullRequestUrl` the
check that the source makes on its result.

* `PullRequestRef` carries the checks on its owner, repository and number, so `url` is a
  canonical pull-request URL;
* `parse_cases` : every way the parser can end, among them the two exceptions that are
  not a `GitHubReceiptError`: that of `urlsplit`, and that of `int` on a long number.
-/
import SafeAgent.Protocol

open PyText

/-! ## `urllib.parse.urlsplit` -/

/-- `SplitResult` -/
structure SplitResult where
  scheme : PyStr
  netloc : PyStr
  path : PyStr
  query : PyStr
  fragment : PyStr
  deriving DecidableEq

namespace Url

/-- `_WHATWG_C0_CONTROL_OR_SPACE` -/
def isC0OrSpace (c : ℕ) : Bool := c ≤ 32

/-- `_UNSAFE_URL_BYTES_TO_REMOVE` -/
def isUnsafe (c : ℕ) : Bool := c == 9 || c == 10 || c == 13

/-- `scheme_chars` -/
def isSchemeChar (c : ℕ) : Bool := isAlnum c || c == 43 || c == 45 || c == 46

/-- The URL without leading control characters, and without tabs and line breaks. -/
def clean (url : PyStr) : PyStr := (lstripBy isC0OrSpace url).filter fun c => !isUnsafe c

/-- The scheme, in lower case, and the rest. -/
def splitScheme (url : PyStr) : PyStr × PyStr :=
  match cut 58 url with
  | (scheme, some rest) =>
      match scheme with
      | [] => ([], url)
      | c :: _ =>
          if isAlpha c && scheme.all isSchemeChar then (scheme.map asciiLower, rest) else ([], url)
  | (_, none) => ([], url)

/-- A character that ends the netloc. -/
def endsNetloc (c : ℕ) : Bool := c == 47 || c == 63 || c == 35

/-- `_splitnetloc`, on a URL that starts with two slashes. -/
def splitNetloc (url : PyStr) : PyStr × PyStr :=
  if startsWith (py "//") url then
    ((url.drop 2).takeWhile fun c => !endsNetloc c, (url.drop 2).dropWhile fun c => !endsNetloc c)
  else ([], url)

/-- The text before and after the first `c`; nothing after when there is none. -/
def cutOr (c : ℕ) (s : PyStr) : PyStr × PyStr := ((cut c s).1, (cut c s).2.getD [])

variable [Platform]

/-- `_checknetloc`: whether normalisation would create a delimiter. -/
def netlocOk (netloc : PyStr) : Bool :=
  if netloc.all isAscii then true
  else
    let n := netloc.filter fun c => !(c == 64 || c == 58 || c == 35 || c == 63)
    let normalised := Platform.nfkc n
    n == normalised ||
      !normalised.any fun c => c == 47 || c == 63 || c == 35 || c == 64 || c == 58

/-- The check of square brackets in the netloc. -/
def bracketsOk (netloc : PyStr) : Bool :=
  let opened := netloc.contains 91
  let closed := netloc.contains 93
  if opened != closed then false
  else if opened then Platform.bracketedNetlocOk netloc
  else true

/-- `urlsplit(url)` -/
def urlsplit (url : PyStr) : PyResult SplitResult :=
  let (scheme, rest) := splitScheme (clean url)
  let (netloc, rest) := splitNetloc rest
  if ¬bracketsOk netloc then .error (.of .valueError "Invalid IPv6 URL")
  else
    let (rest, fragment) := cutOr 35 rest
    let (path, query) := cutOr 63 rest
    if ¬netlocOk netloc then
      .error (.of .valueError "netloc contains invalid characters under NFKC normalization")
    else .ok { scheme, netloc, path, query, fragment }

/-- Whatever `urlsplit` raises is a `ValueError`. -/
theorem urlsplit_error {url : PyStr} {e : PyErr} (h : urlsplit url = .error e) :
    e.cls = .valueError := by
  unfold urlsplit at h
  dsimp only at h
  split_ifs at h
  · cases h
    rfl
  · cases h
    rfl

end Url

/-! ## Repositories -/

/-- `OWNER_PATTERN` -/
def isOwner (s : PyStr) : Bool :=
  s.length ≤ 39 && s.all (fun c => isAlnum c || c == 45) &&
    (match s.head?, s.getLast? with
      | some a, some b => isAlnum a && isAlnum b
      | _, _ => false)

/-- `[A-Za-z0-9_.-]` -/
def isRepositoryChar (c : ℕ) : Bool := isAlnum c || c == 95 || c == 46 || c == 45

/-- `REPOSITORY_PATTERN` -/
def isRepository (s : PyStr) : Bool :=
  1 ≤ s.length && s.length ≤ 100 && s.all isRepositoryChar

/-- `_valid_repository` -/
def validRepository (s : PyStr) : Bool :=
  isRepository s && !(s == py "." || s == py "..") && !endsWith (py ".git") s

/-- The largest pull-request number. -/
def maxPullRequestNumber : ℕ := 2147483647

/-- `GitHubPullRequestRef`, with what the parser checks. -/
structure PullRequestRef where
  owner : PyStr
  repository : PyStr
  number : ℕ
  owner_ok : isOwner owner = true
  repository_ok : validRepository repository = true
  number_pos : 0 < number
  number_le : number ≤ maxPullRequestNumber

/-- `https://github.com/OWNER/REPO/pull/NUMBER` -/
def pullRequestUrl (owner repository digits : PyStr) : PyStr :=
  py "https://github.com/" ++ owner ++ 47 :: repository ++ py "/pull/" ++ digits

namespace PullRequestRef

/-- `full_name` -/
def fullName (r : PullRequestRef) : PyStr := r.owner ++ 47 :: r.repository

/-- `url` -/
def url (r : PullRequestRef) : PyStr := pullRequestUrl r.owner r.repository (decimal r.number)

end PullRequestRef

/-! ## The parser -/

namespace Receipt

/-- `GitHubReceiptError(message, code="invalid_pull_request_url")` -/
def invalidUrl (message : String) : PyErr :=
  { cls := .gitHubReceiptError, message, code := "invalid_pull_request_url" }

/-- The groups of `/([^/]+)/([^/]+)/pull/([1-9][0-9]*)` on the whole path. -/
def matchPath (path : PyStr) : Option (PyStr × PyStr × PyStr) :=
  match path.splitOn 47 with
  | [[], owner, repository, pull, digits] =>
      if owner ≠ [] ∧ repository ≠ [] ∧ pull = py "pull" ∧ digits ≠ [] ∧ digits.head? ≠ some 48 ∧
          digits.all isDigit then some (owner, repository, digits)
      else none
  | _ => none

/-- What the parser looks for in a split URL: GitHub's host over HTTPS, no query, no
fragment, and the path of a pull request with a valid owner and repository. -/
def pullRequestParts (parts : SplitResult) : Option (PyStr × PyStr × PyStr) :=
  if parts.scheme = py "https" ∧ parts.netloc = py "github.com" ∧ parts.query = [] ∧
      parts.fragment = [] then
    match matchPath parts.path with
    | some (owner, repository, digits) =>
        if isOwner owner && validRepository repository then some (owner, repository, digits)
        else none
    | none => none
  else none

theorem matchPath_digits {path owner repository digits : PyStr}
    (h : matchPath path = some (owner, repository, digits)) :
    digits ≠ [] ∧ digits.head? ≠ some 48 ∧ digits.all isDigit = true := by
  unfold matchPath at h
  split at h
  · split_ifs at h with hc
    cases h
    exact ⟨hc.2.2.2.1, hc.2.2.2.2.1, hc.2.2.2.2.2⟩
  · cases h

/-- A numeral without a leading zero is positive. -/
theorem ofDecimal_pos {digits : PyStr} (hne : digits ≠ []) (hhead : digits.head? ≠ some 48)
    (hdigits : digits.all isDigit = true) : 0 < ofDecimal digits := by
  have hmono : ∀ (s : PyStr) (acc : ℕ), acc ≤ s.foldl (fun acc c => 10 * acc + (c - 48)) acc := by
    intro s
    induction s with
    | nil => intro acc; exact le_rfl
    | cons c s ih =>
        intro acc
        refine le_trans ?_ (ih _)
        show acc ≤ 10 * acc + (c - 48)
        omega
  cases digits with
  | nil => exact absurd rfl hne
  | cons c s =>
      have hc : isDigit c = true := List.all_eq_true.mp hdigits c (by simp)
      have hc0 : c ≠ 48 := by simpa using hhead
      simp only [isDigit, Bool.and_eq_true, decide_eq_true_eq] at hc
      have hfold := hmono s (10 * 0 + (c - 48))
      simp only [ofDecimal, List.foldl_cons]
      omega

variable [Platform]

/-- `parse_github_pull_request_url` -/
def parseGithubPullRequestUrl (url : PyStr) : PyResult PullRequestRef :=
  if url ≠ strip url then
    .error (invalidUrl "pull request URL must not contain surrounding whitespace")
  else
    match Url.urlsplit url with
    | .error e => .error e
    | .ok parts =>
        if parts.scheme ≠ py "https" ∨ parts.netloc ≠ py "github.com" ∨ parts.query ≠ [] ∨
            parts.fragment ≠ [] then
          .error (invalidUrl
            "only canonical https://github.com/OWNER/REPO/pull/NUMBER URLs are allowed")
        else
          match hmatch : matchPath parts.path with
          | none => .error (invalidUrl "pull request URL must end exactly with /pull/NUMBER")
          | some (owner, repository, digits) =>
              if hnames : isOwner owner = true ∧ validRepository repository = true then
                if Json.maxStrDigits < digits.length then .error Json.intTooLong
                else if hnumber : ofDecimal digits ≤ maxPullRequestNumber then
                  .ok { owner, repository, number := ofDecimal digits
                        owner_ok := hnames.1, repository_ok := hnames.2
                        number_pos := by
                          obtain ⟨hne, hhead, hall⟩ := matchPath_digits hmatch
                          exact ofDecimal_pos hne hhead hall
                        number_le := hnumber }
                else
                  .error (invalidUrl "pull request number is outside the supported range")
              else
                .error (invalidUrl "pull request URL contains an invalid owner or repository")

/-- **Every way the parser can end.** -/
theorem parse_cases (url : PyStr) :
    (url ≠ strip url ∧ ∃ message, parseGithubPullRequestUrl url = .error (invalidUrl message)) ∨
    (url = strip url ∧ ∃ e, Url.urlsplit url = .error e ∧
      parseGithubPullRequestUrl url = .error e) ∨
    (url = strip url ∧ ∃ parts, Url.urlsplit url = .ok parts ∧ pullRequestParts parts = none ∧
      ∃ message, parseGithubPullRequestUrl url = .error (invalidUrl message)) ∨
    (url = strip url ∧ ∃ parts owner repository digits, Url.urlsplit url = .ok parts ∧
      pullRequestParts parts = some (owner, repository, digits) ∧
      ((Json.maxStrDigits < digits.length ∧
          parseGithubPullRequestUrl url = .error Json.intTooLong) ∨
        (digits.length ≤ Json.maxStrDigits ∧ maxPullRequestNumber < ofDecimal digits ∧
          ∃ message, parseGithubPullRequestUrl url = .error (invalidUrl message)) ∨
        (digits.length ≤ Json.maxStrDigits ∧ ofDecimal digits ≤ maxPullRequestNumber ∧
          ∃ ref, parseGithubPullRequestUrl url = .ok ref ∧ ref.owner = owner ∧
            ref.repository = repository ∧ ref.number = ofDecimal digits))) := by
  obtain ⟨result, hresult⟩ : ∃ result, parseGithubPullRequestUrl url = result := ⟨_, rfl⟩
  rw [hresult]
  unfold parseGithubPullRequestUrl at hresult
  -- the checks of the source one after another: spaces, the split, host, path, names, number
  split_ifs at hresult with hstrip
  · exact Or.inl ⟨hstrip, _, hresult.symm⟩
  rw [not_not] at hstrip
  refine Or.inr ?_
  split at hresult
  · rename_i e hsplit
    exact Or.inl ⟨hstrip, e, hsplit, hresult.symm⟩
  · rename_i parts hsplit
    refine Or.inr ?_
    split_ifs at hresult with hhost
    · refine Or.inl ⟨hstrip, parts, hsplit, ?_, _, hresult.symm⟩
      rw [pullRequestParts, if_neg (by tauto)]
    · have hhost' : parts.scheme = py "https" ∧ parts.netloc = py "github.com" ∧
          parts.query = [] ∧ parts.fragment = [] := by tauto
      split at hresult
      · rename_i hmatch
        refine Or.inl ⟨hstrip, parts, hsplit, ?_, _, hresult.symm⟩
        rw [pullRequestParts, if_pos hhost', hmatch]
      · rename_i owner repository digits hmatch
        by_cases hnames : isOwner owner = true ∧ validRepository repository = true
        · rw [dif_pos hnames] at hresult
          have hparts : pullRequestParts parts = some (owner, repository, digits) := by
            simp [pullRequestParts, hhost', hmatch, hnames]
          refine Or.inr ⟨hstrip, parts, owner, repository, digits, hsplit, hparts, ?_⟩
          split_ifs at hresult with hlong hnumber
          · exact Or.inl ⟨hlong, hresult.symm⟩
          · exact Or.inr (Or.inr ⟨by omega, hnumber, _, hresult.symm, rfl, rfl, rfl⟩)
          · exact Or.inr (Or.inl ⟨by omega, by omega, _, hresult.symm⟩)
        · rw [dif_neg hnames] at hresult
          refine Or.inl ⟨hstrip, parts, hsplit, ?_, _, hresult.symm⟩
          rw [pullRequestParts, if_pos hhost', hmatch]
          simpa [Bool.and_eq_true] using hnames

end Receipt
