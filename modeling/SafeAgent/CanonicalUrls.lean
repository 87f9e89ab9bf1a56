/-
# Canonical pull-request URLs

`parse_github_pull_request_url` checks what `urlsplit` returns, and `urlsplit` normalises:
it drops leading control characters, tabs and line breaks, lowers the scheme, and forgets
an empty query or fragment.

* `WrittenOut` : the URLs with which `urlsplit` does none of this;
* `parse_url` : the canonical URLs are accepted;
* `parsed_eq_url_iff` : an accepted URL is the canonical one exactly when it is written out;
* `exact_url_iff` : the same for the `/pr` command and for a verified receipt.
-/
import SafeAgent.CiState
import SafeAgent.SignedReceipt

open PyText

/-! ## Numerals without a leading zero -/

namespace PyText

/-- The last digit of a numeral. -/
theorem decimal_of_ten_le {n : ℕ} (h : 10 ≤ n) :
    decimal n = decimal (n / 10) ++ [(Nat.digitChar (n % 10)).toNat] := by
  rw [decimal, Nat.toDigits_of_base_le (by norm_num) h, List.map_append]
  rfl

theorem ofDecimal_append_singleton (s : PyStr) (c : ℕ) :
    ofDecimal (s ++ [c]) = 10 * ofDecimal s + (c - 48) := by
  rw [ofDecimal, List.foldl_append]
  rfl

/-- Reading and writing a numeral without a leading zero, by induction from its last digit. -/
theorem decimal_ofDecimal {digits : PyStr} (hne : digits ≠ []) (hhead : digits.head? ≠ some 48)
    (hdigits : digits.all isDigit = true) : decimal (ofDecimal digits) = digits := by
  induction digits using List.reverseRecOn with
  | nil => exact absurd rfl hne
  | append_singleton s c ih =>
      have hc : isDigit c = true := List.all_eq_true.mp hdigits c (by simp)
      simp only [isDigit, Bool.and_eq_true, decide_eq_true_eq] at hc
      by_cases hs : s = []
      · subst hs
        have hdigit : ofDecimal ([] ++ [c]) = c - 48 := by
          rw [ofDecimal_append_singleton]
          simp [ofDecimal]
        rw [hdigit, decimal, Nat.toDigits_of_lt_base (by omega), List.map_singleton,
          Nat.toNat_digitChar_of_lt_ten (by omega), show 48 + (c - 48) = c from by omega]
        rfl
      · have hhead' : s.head? ≠ some 48 := by
          rwa [List.head?_append_of_ne_nil _ hs] at hhead
        have hdigits' : s.all isDigit = true := by
          rw [List.all_append, Bool.and_eq_true] at hdigits
          exact hdigits.1
        have hpos := Receipt.ofDecimal_pos hs hhead' hdigits'
        rw [ofDecimal_append_singleton, decimal_of_ten_le (by omega),
          show (10 * ofDecimal s + (c - 48)) / 10 = ofDecimal s from by omega,
          show (10 * ofDecimal s + (c - 48)) % 10 = c - 48 from by omega,
          Nat.toNat_digitChar_of_lt_ten (by omega), show 48 + (c - 48) = c from by omega, ih hs hhead' hdigits']

/-- Text without white space is stripped already. -/
theorem strip_eq_self {s : PyStr} (h : ∀ c ∈ s, isSpace c = false) : strip s = s := by
  have hdrop : ∀ t : PyStr, (∀ c ∈ t, isSpace c = false) → t.dropWhile isSpace = t := by
    intro t ht
    cases t with
    | nil => rfl
    | cons c t => rw [List.dropWhile_cons_of_neg (by simp [ht c (by simp)])]
  rw [strip, hdrop s h, hdrop s.reverse (fun c hc => h c (List.mem_reverse.mp hc)), List.reverse_reverse]
end PyText

/-! ## What `urlsplit` leaves as it is -/

namespace Url

/-- A URL that `urlsplit` takes apart without changing it: it starts with the scheme in
lower case, and holds no tab, no line break, and no `?` or `#`. -/
structure WrittenOut (url : PyStr) : Prop where
  scheme : startsWith (py "https:") url = true
  clean : ∀ c ∈ url, isUnsafe c = false
  no_query : 63 ∉ url
  no_fragment : 35 ∉ url

/-- A URL that is written out is clean. -/
theorem WrittenOut.clean_eq {url : PyStr} (h : WrittenOut url) : Url.clean url = url := by
  obtain ⟨rest, rfl⟩ := startsWith_iff.mp h.scheme
  have hstrip : lstripBy isC0OrSpace (py "https:" ++ rest) = py "https:" ++ rest := by
    simp [lstripBy, py, isC0OrSpace]
  rw [Url.clean, hstrip, List.filter_eq_self]
  intro c hc
  rw [h.clean c hc]
  rfl

/-- The scheme of a URL that is written out. -/
theorem splitScheme_https (rest : PyStr) :
    splitScheme (py "https:" ++ rest) = (py "https", rest) := by
  have hcut : cut 58 (py "https:" ++ rest) = (py "https", some rest) :=
    cut_append (s := py "https") (t := rest) (by decide)
  rw [splitScheme, hcut]
  rfl

/-- Splitting off the netloc loses nothing but the two slashes. -/
theorem eq_of_splitNetloc {url netloc path : PyStr} (h : splitNetloc url = (netloc, path))
    (hne : netloc ≠ []) : url = py "//" ++ netloc ++ path := by
  unfold splitNetloc at h
  split_ifs at h with hslashes
  · obtain ⟨rest, rfl⟩ := startsWith_iff.mp hslashes
    cases h
    rw [List.append_assoc]
    congr 1
    exact List.takeWhile_append_dropWhile.symm
  · cases h
    exact absurd rfl hne

theorem cutOr_of_notMem {c : ℕ} {s : PyStr} (h : c ∉ s) : cutOr c s = (s, []) := by
  simp [cutOr, cut_of_notMem h]

section Split

variable [Platform]

/-- A split URL that was written out, put together again. -/
theorem eq_of_urlsplit {url : PyStr} {parts : SplitResult} (h : WrittenOut url)
    (hsplit : urlsplit url = .ok parts) (hne : parts.netloc ≠ []) :
    url = py "https://" ++ parts.netloc ++ parts.path := by
  have hclean := h.clean_eq
  obtain ⟨rest, rfl⟩ := startsWith_iff.mp h.scheme
  obtain ⟨⟨netloc, path⟩, hnetloc⟩ : ∃ split, splitNetloc rest = split := ⟨_, rfl⟩
  unfold urlsplit at hsplit
  rw [hclean, splitScheme_https] at hsplit
  simp only [hnetloc] at hsplit
  split_ifs at hsplit
  cases hsplit
  have hrest : rest = py "//" ++ netloc ++ path := eq_of_splitNetloc hnetloc hne
  have hfragment : 35 ∉ path := by
    intro hmem
    exact h.no_fragment (by rw [hrest]; simp [hmem])
  have hquery : 63 ∉ path := by
    intro hmem
    exact h.no_query (by rw [hrest]; simp [hmem])
  simp only [cutOr_of_notMem hfragment, cutOr_of_notMem hquery]
  rw [hrest]
  rfl

end Split

end Url

/-! ## Accepted URLs -/

namespace Receipt

/-- The path that the pattern matches. -/
theorem eq_of_matchPath {path owner repository digits : PyStr}
    (h : matchPath path = some (owner, repository, digits)) :
    path = 47 :: owner ++ 47 :: repository ++ py "/pull/" ++ digits := by
  unfold matchPath at h
  split at h
  · rename_i owner' repository' pull digits' hsplit
    split_ifs at h with hparts
    cases h
    have hpull : pull = py "pull" := hparts.2.2.1
    have hjoin : [47].intercalate (path.splitOn 47) = path := List.intercalate_splitOn 47
    rw [hsplit, hpull] at hjoin
    rw [← hjoin]
    simp [List.intercalate, List.intersperse, py]
  · cases h

theorem eq_of_pullRequestParts {parts : SplitResult} {owner repository digits : PyStr}
    (h : pullRequestParts parts = some (owner, repository, digits)) :
    parts.netloc = py "github.com" ∧ matchPath parts.path = some (owner, repository, digits) := by
  unfold pullRequestParts at h
  split_ifs at h with hhost
  refine ⟨hhost.2.1, ?_⟩
  split at h
  · rename_i hmatch
    split_ifs at h
    cases h
    exact hmatch
  · cases h

/-- The characters of a name. -/
theorem isRepositoryChar_owner (ref : PullRequestRef) : ∀ c ∈ ref.owner, isRepositoryChar c = true := by
  intro c hc
  have hall := ref.owner_ok
  simp only [isOwner, Bool.and_eq_true] at hall
  have hchar := List.all_eq_true.mp hall.1.2 c hc
  rw [Bool.or_eq_true] at hchar
  rcases hchar with halnum | hdash
  · simp [isRepositoryChar, halnum]
  · simp only [beq_iff_eq] at hdash
    rw [hdash]
    rfl

theorem isRepositoryChar_repository (ref : PullRequestRef) :
    ∀ c ∈ ref.repository, isRepositoryChar c = true := by
  intro c hc
  have hall := ref.repository_ok
  simp only [validRepository, isRepository, Bool.and_eq_true] at hall
  exact List.all_eq_true.mp hall.1.1.2 c hc

/-- The characters of a canonical URL. -/
def isUrlChar (c : ℕ) : Bool := isRepositoryChar c || c == 47 || c == 58

theorem isUrlChar_url (ref : PullRequestRef) : ∀ c ∈ ref.url, isUrlChar c = true := by
  have hname : ∀ {c}, isRepositoryChar c = true → isUrlChar c = true := fun h => by
    simp [isUrlChar, h]
  have hnumber : ∀ c ∈ decimal ref.number, isUrlChar c = true := by
    intro c hc
    simp [isUrlChar, isRepositoryChar, isAlnum, isDigit_of_mem_decimal hc]
  have hhost : ∀ c ∈ py "https://github.com/", isUrlChar c = true := by decide
  have hpull : ∀ c ∈ py "/pull/", isUrlChar c = true := by decide
  intro c hc
  simp only [PullRequestRef.url, pullRequestUrl, List.mem_append, List.mem_cons] at hc
  rcases hc with ((((hc | hc) | hc | hc) | hc) | hc)
  · exact hhost c hc
  · exact hname (isRepositoryChar_owner ref c hc)
  · rw [hc]
    rfl
  · exact hname (isRepositoryChar_repository ref c hc)
  · exact hpull c hc
  · exact hnumber c hc

/-- A canonical URL is written out. -/
theorem writtenOut_url (ref : PullRequestRef) : Url.WrittenOut ref.url where
  scheme := startsWith_iff.mpr ⟨_, by
    simp only [PullRequestRef.url, pullRequestUrl, List.append_assoc]
    rfl⟩
  clean := by
    intro c hc
    by_contra hunsafe
    have hchar := isUrlChar_url ref c hc
    simp only [Url.isUnsafe, Bool.not_eq_false, Bool.or_eq_true, beq_iff_eq] at hunsafe
    rcases hunsafe with (rfl | rfl) | rfl <;> exact absurd hchar (by decide)
  no_query := fun hmem => absurd (isUrlChar_url ref 63 hmem) (by decide)
  no_fragment := fun hmem => absurd (isUrlChar_url ref 35 hmem) (by decide)

/-- The path of a canonical URL. -/
def canonicalPath (ref : PullRequestRef) : PyStr :=
  47 :: ref.owner ++ 47 :: ref.repository ++ py "/pull/" ++ decimal ref.number

theorem slash_notMem_owner (ref : PullRequestRef) : 47 ∉ ref.owner := fun hmem =>
  absurd (isRepositoryChar_owner ref 47 hmem) (by decide)

theorem slash_notMem_repository (ref : PullRequestRef) : 47 ∉ ref.repository := fun hmem =>
  absurd (isRepositoryChar_repository ref 47 hmem) (by decide)

theorem matchPath_canonicalPath (ref : PullRequestRef) :
    matchPath (canonicalPath ref) = some (ref.owner, ref.repository, decimal ref.number) := by
  have hdigits : 47 ∉ decimal ref.number := fun hmem =>
    absurd (isDigit_of_mem_decimal hmem) (by decide)
  have hjoin : canonicalPath ref =
      [47].intercalate [[], ref.owner, ref.repository, py "pull", decimal ref.number] := by
    simp [canonicalPath, List.intercalate, List.intersperse, py]
  have howner : ref.owner ≠ [] := by
    intro hnil
    have hok := ref.owner_ok
    rw [hnil] at hok
    exact absurd hok (by decide)
  have hrepository : ref.repository ≠ [] := by
    intro hnil
    have hok := ref.repository_ok
    rw [hnil] at hok
    exact absurd hok (by decide)
  have hsplit : (canonicalPath ref).splitOn 47 =
      [[], ref.owner, ref.repository, py "pull", decimal ref.number] := by
    rw [hjoin]
    refine List.splitOn_intercalate _ ?_ (by simp)
    intro part hpart
    simp only [List.mem_cons, List.not_mem_nil, or_false] at hpart
    rcases hpart with rfl | rfl | rfl | rfl | rfl
    · exact List.not_mem_nil
    · exact slash_notMem_owner ref
    · exact slash_notMem_repository ref
    · decide
    · exact hdigits
  have hall : (decimal ref.number).all isDigit = true :=
    List.all_eq_true.mpr fun c hc => isDigit_of_mem_decimal hc
  rw [matchPath, hsplit]
  simp [howner, hrepository, decimal_ne_nil, decimal_head_ne_zero ref.number_pos, hall]

variable [Platform]

theorem urlsplit_url (ref : PullRequestRef) : Url.urlsplit ref.url = .ok
    { scheme := py "https", netloc := py "github.com", path := canonicalPath ref, query := [],
      fragment := [] } := by
  have hwritten := writtenOut_url ref
  have hurl : ref.url = py "https:" ++ (py "//github.com" ++ canonicalPath ref) := by
    simp [PullRequestRef.url, pullRequestUrl, canonicalPath, py]
  have hnetloc : Url.splitNetloc (py "//github.com" ++ canonicalPath ref) =
      (py "github.com", canonicalPath ref) := rfl
  have hfragment : 35 ∉ canonicalPath ref := fun hmem =>
    hwritten.no_fragment (by rw [hurl]; simp [hmem])
  have hquery : 63 ∉ canonicalPath ref := fun hmem =>
    hwritten.no_query (by rw [hurl]; simp [hmem])
  have hbrackets : Url.bracketsOk (py "github.com") = true := rfl
  have hplain : Url.netlocOk (py "github.com") = true := rfl
  unfold Url.urlsplit
  rw [hwritten.clean_eq, hurl, Url.splitScheme_https]
  simp only [hnetloc, hbrackets, hplain, Url.cutOr_of_notMem hfragment, Url.cutOr_of_notMem hquery,
    not_true_eq_false, if_false]

/-- **The parser accepts every canonical URL.** -/
theorem parse_url (ref : PullRequestRef) : parseGithubPullRequestUrl ref.url = .ok ref := by
  -- no character of a canonical URL is a space
  have hstrip : ref.url = strip ref.url := by
    refine (strip_eq_self fun c hc => ?_).symm
    have hchar := isUrlChar_url ref c hc
    rw [← Bool.not_eq_true]
    intro hspace
    simp only [isUrlChar, isRepositoryChar, isAlnum, isAlpha, isUpper, isLower, isDigit, isSpace,
      Bool.or_eq_true, Bool.and_eq_true, decide_eq_true_eq, beq_iff_eq] at hchar hspace
    omega
  have hparts : pullRequestParts
      { scheme := py "https", netloc := py "github.com", path := canonicalPath ref, query := [],
        fragment := [] } = some (ref.owner, ref.repository, decimal ref.number) := by
    simp [pullRequestParts, matchPath_canonicalPath, ref.owner_ok, ref.repository_ok]
  have hlength : (decimal ref.number).length ≤ Json.maxStrDigits := by
    rw [length_decimal_le_iff (by decide)]
    calc ref.number ≤ maxPullRequestNumber := ref.number_le
      _ < 10 ^ 10 := by decide
      _ ≤ 10 ^ Json.maxStrDigits := Nat.pow_le_pow_right (by decide) (by decide)
  have hnumber : ofDecimal (decimal ref.number) = ref.number := ofDecimal_decimal ref.number
  -- of the ways in which the parser ends, only the last is left
  rcases parse_cases ref.url with ⟨hne, -⟩ | ⟨-, e, hsplit, -⟩ | ⟨-, parts, hsplit, hnone, -⟩ |
      ⟨-, parts, owner, repository, digits, hsplit, hsome, hend⟩
  · exact absurd hstrip hne
  · rw [urlsplit_url] at hsplit
    cases hsplit
  · rw [urlsplit_url] at hsplit
    cases hsplit
    rw [hparts] at hnone
    cases hnone
  · rw [urlsplit_url] at hsplit
    cases hsplit
    rw [hparts] at hsome
    cases hsome
    have hle := ref.number_le
    rcases hend with ⟨hlong, -⟩ | ⟨-, hbig, -⟩ | ⟨-, -, ref', hok, howner, hrepository, hnumber'⟩
    · omega
    · omega
    · rw [hok]
      cases ref'
      cases ref
      simp only at howner hrepository hnumber' hnumber
      subst howner hrepository
      simp [hnumber', hnumber]
/-- **When an accepted URL is the canonical one**: exactly when it is written out. -/
theorem parsed_eq_url_iff {url : PyStr} {ref : PullRequestRef}
    (h : parseGithubPullRequestUrl url = .ok ref) : url = ref.url ↔ Url.WrittenOut url := by
  constructor
  · intro heq
    rw [heq]
    exact writtenOut_url ref
  intro hwritten
  rcases parse_cases url with ⟨-, message, herr⟩ | ⟨-, e, -, herr⟩ | ⟨-, parts, -, -, message, herr⟩ |
      ⟨-, parts, owner, repository, digits, hsplit, hparts, hend⟩
  · rw [herr] at h
    cases h
  · rw [herr] at h
    cases h
  · rw [herr] at h
    cases h
  rcases hend with ⟨-, herr⟩ | ⟨-, -, message, herr⟩ | ⟨-, -, ref', hok, howner, hrepository, hnumber⟩
  · rw [herr] at h
    cases h
  · rw [herr] at h
    cases h
  rw [hok] at h
  cases h
  obtain ⟨hnetloc, hmatch⟩ := eq_of_pullRequestParts hparts
  obtain ⟨hne, hhead, hdigits⟩ := matchPath_digits hmatch
  have hnetloc_ne : parts.netloc ≠ [] := by
    rw [hnetloc]
    decide
  calc url = py "https://" ++ parts.netloc ++ parts.path :=
        Url.eq_of_urlsplit hwritten hsplit hnetloc_ne
    _ = py "https://" ++ py "github.com" ++ (47 :: owner ++ 47 :: repository ++ py "/pull/" ++ digits) := by
        rw [hnetloc, eq_of_matchPath hmatch]
    _ = pullRequestUrl owner repository digits := by
        simp [pullRequestUrl, py]
    _ = ref.url := by
        rw [PullRequestRef.url, howner, hrepository, hnumber, decimal_ofDecimal hne hhead hdigits]

/-! ## Commands and receipts -/

open Json PyItems

omit [Platform] in
theorem parseRepository_ok {value : Json} {repository : PyStr}
    (h : parseRepository value = .ok repository) : value = .str repository := by
  unfold parseRepository at h
  cases value with
  | str s =>
      simp only [asStr] at h
      split_ifs at h
      cases h
      rfl
  | _ => cases h

theorem parseUrlValue_ok {value : Json} {ref : PullRequestRef} (h : parseUrlValue value = .ok ref) :
    ∃ url, value = .str url ∧ parseGithubPullRequestUrl url = .ok ref := by
  unfold parseUrlValue at h
  cases value with
  | str s => exact ⟨s, rfl, h⟩
  | _ => cases h

/-- What an accepted subject is about. -/
theorem validateReceiptSubject_ok {payload : JsonFields}
    (h : validateReceiptSubject payload = .ok ()) :
    ∃ url ref, get payload (py "url") = .str url ∧ parseGithubPullRequestUrl url = .ok ref ∧
      get payload (py "repository") = .str ref.fullName ∧
      get payload (py "pull_number") = .int ref.number := by
  unfold validateReceiptSubject at h
  obtain ⟨repository, hrepository, h⟩ := PyResult.bind_ok h
  obtain ⟨number, hnumber, h⟩ := PyResult.bind_ok h
  by_cases hzero : number = 0
  · rw [if_pos hzero] at h
    cases h
  rw [if_neg hzero] at h
  obtain ⟨ref, hurl, h⟩ := PyResult.bind_ok h
  by_cases hdiffers : ref.fullName ≠ repository ∨ ref.number ≠ number
  · rw [if_pos hdiffers] at h
    cases h
  simp only [not_or, not_not] at hdiffers
  obtain ⟨url, hvalue, hparse⟩ := parseUrlValue_ok hurl
  refine ⟨url, ref, hvalue, hparse, ?_, ?_⟩
  · rw [parseRepository_ok hrepository, hdiffers.1]
  · rw [Protocol.eq_int_of_asNat (requireCount_ok hnumber), hdiffers.2]

/-- The payload of a verified receipt passed its checks. -/
theorem validate_of_verify {receipt : ReceiptInput} {payload : JsonFields}
    (h : verifySignedReceipt receipt = .ok payload) : validateReceiptPayload payload = .ok () := by
  unfold verifySignedReceipt at h
  obtain ⟨decoded, -, h⟩ := PyResult.bind_ok h
  split at h
  · cases h
  split at h
  · cases h
  obtain ⟨⟨⟩, hvalid, h⟩ := PyResult.bind_ok h
  obtain ⟨canonical, -, h⟩ := PyResult.bind_ok h
  split_ifs at h
  cases h
  exact hvalid

theorem subject_of_validate {payload : JsonFields} (h : validateReceiptPayload payload = .ok ()) :
    validateReceiptSubject payload = .ok () := by
  unfold validateReceiptPayload at h
  split_ifs at h
  obtain ⟨⟨⟩, -, h⟩ := PyResult.bind_ok h
  obtain ⟨⟨⟩, hsubject, -⟩ := PyResult.bind_ok h
  exact hsubject

omit [Platform] in
theorem text_of_commandName_pr {text : PyStr} (h : Policy.commandName text = some .pr) :
    text = py "/pr" ∨ startsWith (py "/pr ") text = true := by
  unfold Policy.commandName at h
  split_ifs at h
  · cases h
  · cases h
  · cases h
  · cases h
  · assumption

/-- A `/pr` command that is not ignored as invalid. -/
theorem parseCommand_pr {text : PyStr} {parsed : ParsedCommand}
    (h : Policy.parseCommand .pr text = .ok parsed)
    (hvalid : parsed.decision.reason ≠ .invalidPullRequestUrl) :
    ∃ ref, parseGithubPullRequestUrl (removePrefix (py "/pr ") text) = .ok ref ∧
      parsed.decision.target = some ref.url := by
  unfold Policy.parseCommand at h
  simp only [Policy.replies] at h
  split at h
  · rename_i ref href
    cases h
    exact ⟨ref, href, rfl⟩
  · split_ifs at h
    cases h
    exact absurd rfl hvalid

/-- What `build_signed_receipt` returns: a wrapper around a payload that passed the checks. -/
theorem buildSignedReceipt_ok {evidence : PullRequestEvidence} {issuer : PyStr}
    {privateKey : Platform.PrivateKey} {observedAt : ObservedAt} {receipt : JsonFields}
    (h : buildSignedReceipt evidence issuer privateKey observedAt = .ok receipt) :
    Crypto.didFromPrivateKey privateKey = .ok issuer ∧
      ∃ timestamp canonical signature, formatTimestamp observedAt = .ok timestamp ∧
        validateReceiptPayload (receiptPayload evidence issuer timestamp) = .ok () ∧
        canonicalJson (receiptPayload evidence issuer timestamp) = .ok canonical ∧
        Crypto.signDetached privateKey canonical = .ok signature ∧
        receipt = [(py "payload", .obj (receiptPayload evidence issuer timestamp)),
          (py "payload_sha256", .str (Sha256.sha256Hex canonical)), (py "signature", .str signature)] := by
  unfold buildSignedReceipt at h
  obtain ⟨did, -, h⟩ := PyResult.bind_ok h
  obtain ⟨keyDid, hkey, h⟩ := PyResult.bind_ok h
  by_cases hdiffers : keyDid ≠ issuer
  · rw [if_pos hdiffers] at h
    cases h
  rw [if_neg hdiffers] at h
  rw [not_not] at hdiffers
  obtain ⟨⟨payload, canonical⟩, hoctets, h⟩ := PyResult.bind_ok h
  obtain ⟨signature, hsignature, h⟩ := PyResult.bind_ok h
  unfold receiptOctets at hoctets
  obtain ⟨timestamp, htime, hoctets⟩ := PyResult.bind_ok hoctets
  obtain ⟨⟨⟩, hvalid, hoctets⟩ := PyResult.bind_ok hoctets
  obtain ⟨canonical', hcanonical, hoctets⟩ := PyResult.bind_ok hoctets
  cases hoctets
  cases h
  exact ⟨by rw [hkey, hdiffers], timestamp, canonical, signature, htime, hvalid, hcanonical,
    hsignature, rfl⟩

/-- What `verify_signed_receipt` accepts. -/
theorem verifySignedReceipt_value {wrapper payload : JsonFields} {canonical : Bytes}
    {issuer signature : PyStr} (hkeys : hasKeys wrapper receiptKeys = true)
    (hpayload : get wrapper (py "payload") = .obj payload)
    (hvalid : validateReceiptPayload payload = .ok ())
    (hcanonical : canonicalJson payload = .ok canonical)
    (hsha : get wrapper (py "payload_sha256") = .str (Sha256.sha256Hex canonical))
    (hissuer : get payload (py "issuer") = .str issuer)
    (hsigned : get wrapper (py "signature") = .str signature)
    (hmatch : Crypto.verifyDetachedSignature issuer canonical signature = true) :
    verifySignedReceipt (.value (.obj wrapper)) = .ok payload := by
  have hwrapper : (asObj (.obj wrapper)).filter (fun fields => hasKeys fields receiptKeys) =
      some wrapper := by
    simp [asObj, Option.filter, hkeys]
  have hobject : asObj (.obj payload) = some payload := rfl
  have hmatches : signatureMatches (.str issuer) canonical (.str signature) = true := hmatch
  simp only [verifySignedReceipt, decodeReceipt, bind, Except.bind, hwrapper, hpayload, hobject,
    hvalid, hcanonical, hsha, hissuer, hsigned, hmatches, isStr, asStr, beq_self_eq_true,
    not_true_eq_false, if_false]

/-- **An issued receipt verifies**, if what the key signs verifies under its DID. -/
theorem verify_buildSignedReceipt {evidence : PullRequestEvidence} {issuer : PyStr}
    {privateKey : Platform.PrivateKey} {observedAt : ObservedAt} {receipt : JsonFields}
    (hverify : ∀ octets, Platform.verify (Platform.publicBytes privateKey)
      (Platform.sign privateKey octets) octets = true)
    (h : buildSignedReceipt evidence issuer privateKey observedAt = .ok receipt) :
    ∃ timestamp, formatTimestamp observedAt = .ok timestamp ∧
      verifySignedReceipt (.value (.obj receipt)) = .ok (receiptPayload evidence issuer timestamp) := by
  obtain ⟨hkey, timestamp, canonical, signature, htime, hvalid, hcanonical, hsignature, rfl⟩ :=
    buildSignedReceipt_ok h
  refine ⟨timestamp, htime, ?_⟩
  exact verifySignedReceipt_value rfl rfl hvalid hcanonical rfl rfl rfl
    (Crypto.verifyDetached_sign hkey hverify hsignature)

/-- **When only the exact canonical URL is accepted.**  An accepted URL is the canonical URL of
its reference exactly when it is written out; and so for the text of a `/pr` command that is not
ignored as invalid, and for the URL in the payload of a verified receipt. -/
theorem exact_url_iff :
    (∀ url ref, parseGithubPullRequestUrl url = .ok ref → (url = ref.url ↔ Url.WrittenOut url)) ∧
    (∀ text parsed, Policy.commandName text = some .pr → Policy.parseCommand .pr text = .ok parsed →
      parsed.decision.reason ≠ .invalidPullRequestUrl →
        ∃ ref : PullRequestRef, parsed.decision.target = some ref.url ∧
          (text = py "/pr " ++ ref.url ↔ Url.WrittenOut (removePrefix (py "/pr ") text))) ∧
    (∀ receipt payload, verifySignedReceipt receipt = .ok payload →
      ∃ url repository number, get payload (py "url") = .str url ∧
        get payload (py "repository") = .str repository ∧
        get payload (py "pull_number") = .int (Nat.cast number) ∧
        (url = py "https://github.com/" ++ repository ++ py "/pull/" ++ decimal number ↔
          Url.WrittenOut url)) := by
  refine ⟨fun url ref h => parsed_eq_url_iff h, ?_, ?_⟩
  · intro text parsed hname hparsed hvalid
    obtain ⟨ref, href, htarget⟩ := parseCommand_pr hparsed hvalid
    refine ⟨ref, htarget, ?_⟩
    rw [← parsed_eq_url_iff href]
    constructor
    · intro htext
      rw [htext, removePrefix_append]
    · intro heq
      rcases text_of_commandName_pr hname with rfl | hprefix
      · have hscheme := (writtenOut_url ref).scheme
        rw [← heq] at hscheme
        exact absurd hscheme (by decide)
      · obtain ⟨rest, rfl⟩ := startsWith_iff.mp hprefix
        rw [removePrefix_append] at heq
        rw [heq]
  · intro receipt payload h
    obtain ⟨url, ref, hurl, hparse, hrepository, hnumber⟩ :=
      validateReceiptSubject_ok (subject_of_validate (validate_of_verify h))
    refine ⟨url, ref.fullName, ref.number, hurl, hrepository, hnumber, ?_⟩
    rw [← parsed_eq_url_iff hparse]
    simp [PullRequestRef.url, pullRequestUrl, PullRequestRef.fullName]

end Receipt

/-! ## A URL with an empty query -/

namespace Receipt

open Json PyItems Sample

/-- A URL that ends with a bare `?`. -/
def emptyQueryUrl : PyStr := py "https://github.com/example/project/pull/42?"

theorem parse_emptyQueryUrl : parseGithubPullRequestUrl emptyQueryUrl = .ok sampleReference := rfl

/-- The command that asks for it. -/
def emptyQueryText : PyStr := py "/pr https://github.com/example/project/pull/42?"

theorem parseCommand_emptyQueryText : ∃ parsed,
    Policy.parseCommand .pr emptyQueryText = .ok parsed ∧
      parsed.decision.reason ≠ .invalidPullRequestUrl ∧
      parsed.decision.target = some sampleReference.url :=
  ⟨_, rfl, by decide, rfl⟩

/-- Evidence that carries the URL. -/
def emptyQueryEvidence : PullRequestEvidence where
  repository := py "example/project"
  number := 42
  url := emptyQueryUrl
  author := py "octocat"
  state := py "open"
  merged := false
  draft := false
  headSha := sampleSha
  baseSha := sampleSha
  mergeCommitSha := none
  ci := py "success"
  ciDataComplete := true
  checksObserved := 1
  checksTotal := 1
  statusesObserved := 0
  statusesTotal := 0
  sourceUpdatedAt := py "2026-03-01T12:00:00Z"

/-- When it was observed. -/
def sampleStamp : PyStr := py "2026-03-01T12:30:05Z"

theorem build_emptyQueryEvidence :
    ∃ receipt, buildSignedReceipt emptyQueryEvidence did key (.utc time) = .ok receipt := by
  have hdid : Crypto.validateDid did = .ok did := by decide +kernel
  have htime : formatTimestamp (.utc time) = .ok sampleStamp := by decide +kernel
  have hvalid : validateReceiptPayload (receiptPayload emptyQueryEvidence did sampleStamp) = .ok () := by
    decide +kernel
  have hcanonical : ∃ canonical,
      canonicalJson (receiptPayload emptyQueryEvidence did sampleStamp) = .ok canonical := ⟨_, rfl⟩
  obtain ⟨canonical, hcanonical⟩ := hcanonical
  obtain ⟨hsigned, -⟩ := Crypto.signDetached_eq key canonical
  simp [buildSignedReceipt, receiptOctets, bind, Except.bind, pure, Except.pure, hdid, did_eq, htime,
    hvalid, hcanonical, hsigned]

/-- An issued receipt with the URL. -/
theorem verify_emptyQueryEvidence : ∃ receipt, verifySignedReceipt receipt =
    .ok (receiptPayload emptyQueryEvidence did sampleStamp) := by
  obtain ⟨receipt, hbuild⟩ := build_emptyQueryEvidence
  obtain ⟨timestamp, htime, hverify⟩ := verify_buildSignedReceipt (verify_sign key) hbuild
  have hstamp : formatTimestamp (.utc time) = .ok sampleStamp := by decide +kernel
  rw [hstamp] at htime
  cases htime
  exact ⟨_, hverify⟩

/-- The theorem at the URL with an empty query. -/
theorem exact_url_iff_emptyQuery :
    (emptyQueryUrl = sampleReference.url ↔ Url.WrittenOut emptyQueryUrl) ∧
    (∃ ref : PullRequestRef, emptyQueryText = py "/pr " ++ ref.url ↔
      Url.WrittenOut (removePrefix (py "/pr ") emptyQueryText)) ∧
    (∃ url repository number,
      get (receiptPayload emptyQueryEvidence did sampleStamp) (py "url") = .str url ∧
        get (receiptPayload emptyQueryEvidence did sampleStamp) (py "repository") = .str repository ∧
        get (receiptPayload emptyQueryEvidence did sampleStamp) (py "pull_number") =
          .int (Nat.cast number) ∧
        (url = py "https://github.com/" ++ repository ++ py "/pull/" ++ decimal number ↔
          Url.WrittenOut url)) := by
  obtain ⟨parsed, hparsed, hvalid, -⟩ := parseCommand_emptyQueryText
  obtain ⟨receipt, hreceipt⟩ := verify_emptyQueryEvidence
  obtain ⟨ref, -, href⟩ := exact_url_iff.2.1 _ _ (by decide +kernel) hparsed hvalid
  exact ⟨exact_url_iff.1 _ _ parse_emptyQueryUrl, ⟨ref, href⟩, exact_url_iff.2.2 _ _ hreceipt⟩

/-- **An empty query is accepted**, in the URL of a command and in that of a receipt. -/
theorem accepts_emptyQueryUrl :
    parseGithubPullRequestUrl emptyQueryUrl = .ok sampleReference ∧
    emptyQueryUrl ≠ sampleReference.url ∧
    (∃ parsed, Policy.parseCommand .pr emptyQueryText = .ok parsed ∧
      parsed.decision.reason ≠ .invalidPullRequestUrl ∧
      emptyQueryText ≠ py "/pr " ++ sampleReference.url) ∧
    ∃ receipt payload, verifySignedReceipt receipt = .ok payload ∧
      get payload (py "url") = .str emptyQueryUrl ∧
      get payload (py "repository") = .str (py "example/project") ∧
      get payload (py "pull_number") = .int 42 ∧
      emptyQueryUrl ≠ py "https://github.com/example/project/pull/42" := by
  obtain ⟨parsed, hparsed, hvalid, -⟩ := parseCommand_emptyQueryText
  obtain ⟨receipt, hreceipt⟩ := verify_emptyQueryEvidence
  exact ⟨parse_emptyQueryUrl, by decide +kernel, ⟨parsed, hparsed, hvalid, by decide +kernel⟩,
    receipt, _, hreceipt, rfl, rfl, rfl, by decide +kernel⟩

end Receipt
