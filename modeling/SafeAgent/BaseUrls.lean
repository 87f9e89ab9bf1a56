/-
# The base URL (`protocol.py`)

`validate_base_url` decides on the parts that `urlsplit` returns, and keeps the text it was
given; every request then continues that text with `/r/` and the room.

* `validateBaseUrl`, `readUrl` : the check, and the URL of a read;
* `OnlySchemeAndHost` : what the result is meant to be, requests included;
* `Bare` : the URLs with a host and nothing behind it;
* `onlySchemeAndHost_iff` : the two agree on every accepted URL.
-/
import SafeAgent.CanonicalUrls
import SafeAgent.Escapes
import SafeAgent.Sample

open PyText

/-! ## Cutting a text, and putting it together again -/

namespace PyText

theorem eq_of_cut {c : ℕ} {s before rest : PyStr} (h : cut c s = (before, some rest)) :
    s = before ++ c :: rest := by
  have hjoin : s.takeWhile (· != c) ++ s.dropWhile (· != c) = s := List.takeWhile_append_dropWhile
  unfold cut at h
  split at h
  · cases h
  · rename_i d tail hdrop
    cases h
    have hd : d = c := by
      have hhead := List.head_dropWhile_not (p := (· != c)) (l := s) (by simp [hdrop])
      simpa [hdrop] using hhead
    rw [hd] at hdrop
    rw [← hdrop, hjoin]

/-- `s.rstrip("/")` -/
def rstripSlashes (s : PyStr) : PyStr := (s.reverse.dropWhile (· == 47)).reverse

/-- What `rstrip` cuts off. -/
theorem rstripSlashes_append (s : PyStr) : ∃ n, s = rstripSlashes s ++ List.replicate n 47 := by
  have hjoin : s.reverse.takeWhile (· == 47) ++ s.reverse.dropWhile (· == 47) = s.reverse :=
    List.takeWhile_append_dropWhile
  have hslashes : s.reverse.takeWhile (· == 47) =
      List.replicate (s.reverse.takeWhile (· == 47)).length 47 := by
    rw [List.eq_replicate_iff]
    refine ⟨rfl, ?_⟩
    intro c hc
    simpa using List.mem_takeWhile_imp hc
  refine ⟨(s.reverse.takeWhile (· == 47)).length, ?_⟩
  rw [rstripSlashes, ← List.reverse_replicate, ← hslashes, ← List.reverse_append, hjoin,
    List.reverse_reverse]

/-- `rstrip` cuts off nothing but the slashes at the end. -/
theorem rstripSlashes_of {s t : PyStr} (hs : 47 ∉ s.getLast?) (ht : ∀ c ∈ t, c = 47) :
    rstripSlashes (s ++ t) = s := by
  have hdrop : s.reverse.dropWhile (· == 47) = s.reverse := by
    rw [List.dropWhile_eq_self_iff]
    intro hpos hhead
    apply hs
    have hlast : s.reverse.head? = some 47 := by
      rw [List.head?_eq_getElem?, List.getElem?_eq_getElem hpos]
      simpa using hhead
    rw [List.head?_reverse] at hlast
    exact hlast
  rw [rstripSlashes, List.reverse_append, List.dropWhile_append_of_pos, hdrop, List.reverse_reverse]
  intro c hc
  simpa using ht c (List.mem_reverse.mp hc)

end PyText

/-! ## The check -/

namespace Url

/-- `netloc.rpartition("@")`: the user information, when there is any, and the host. -/
def splitUser (netloc : PyStr) : Option PyStr × PyStr :=
  ((cut 64 netloc.reverse).2.map List.reverse, (cut 64 netloc.reverse).1.reverse)

/-- Whether `username` or `password` is true: the text before or after the first colon of the
user information is not empty. -/
def hasUser (netloc : PyStr) : Bool :=
  match (splitUser netloc).1 with
  | none => false
  | some user => (cutOr 58 user).1 != [] || (cutOr 58 user).2 != []

/-- The first component of `_hostinfo`. -/
def hostText (netloc : PyStr) : PyStr :=
  match cut 91 (splitUser netloc).2 with
  | (_, some bracketed) => (cut 93 bracketed).1
  | (_, none) => (cut 58 (splitUser netloc).2).1

/-- `hostname`; the zone behind a `%` keeps its case.  The result is compared with ASCII names
only, and of the letters of `localhost` no other character is the capital. -/
def hostname (netloc : PyStr) : Option PyStr :=
  if hostText netloc = [] then none
  else
    match cut 37 (hostText netloc) with
    | (host, none) => some (host.map asciiLower)
    | (host, some zone) => some (host.map asciiLower ++ 37 :: zone)

end Url

namespace TechnocoreClient

/-- `parsed.hostname in {"127.0.0.1", "localhost", "::1"}` -/
def isLoopback (netloc : PyStr) : Bool :=
  match Url.hostname netloc with
  | none => false
  | some host => [py "127.0.0.1", py "localhost", py "::1"].contains host

/-- HTTPS, or HTTP to a loopback host. -/
def secure (scheme netloc : PyStr) : Bool :=
  scheme == py "https" || (scheme == py "http" && isLoopback netloc)

/-- The URL of `read_room`; `wait` is the text of the number of seconds. -/
def readUrl (base room : PyStr) (since : ℕ) (wait : PyStr) (limit cacheBuster : ℕ) : PyStr :=
  base ++ py "/r/" ++ room ++ py "?format=json&since=" ++ decimal since ++ py "&wait=" ++ wait ++
    py "&limit=" ++ decimal limit ++ py "&n=" ++ decimal cacheBuster

section Check

variable [Platform]

/-- `validate_base_url` -/
def validateBaseUrl (baseUrl : PyStr) : PyResult PyStr :=
  if baseUrl ≠ strip baseUrl then
    .error (.of .protocolValueError "base URL must not contain surrounding whitespace")
  else
    match Url.urlsplit baseUrl with
    | .error e => .error e
    | .ok parsed =>
        if ¬secure parsed.scheme parsed.netloc then
          .error (.of .protocolValueError
            "base URL must use HTTPS, except for an explicit loopback host")
        else if parsed.netloc = [] ∨ Url.hasUser parsed.netloc ∨ parsed.query ≠ [] ∨
            parsed.fragment ≠ [] then
          .error (.of .protocolValueError "base URL must contain only scheme and host")
        else .ok (rstripSlashes baseUrl)

/-- What an accepted base URL passed, and what is returned for it. -/
theorem validateBaseUrl_eq_ok {baseUrl base : PyStr} : validateBaseUrl baseUrl = .ok base ↔
    strip baseUrl = baseUrl ∧ base = rstripSlashes baseUrl ∧ ∃ parsed,
      Url.urlsplit baseUrl = .ok parsed ∧ secure parsed.scheme parsed.netloc = true ∧
      parsed.netloc ≠ [] ∧ Url.hasUser parsed.netloc = false ∧ parsed.query = [] ∧
      parsed.fragment = [] := by
  constructor
  · intro h
    unfold validateBaseUrl at h
    split_ifs at h with hstrip
    split at h
    · cases h
    · rename_i parsed hsplit
      split_ifs at h with hsecure hparts
      cases h
      simp only [not_or, not_not, Bool.not_eq_true] at hsecure hparts
      exact ⟨(not_not.mp hstrip).symm, rfl, parsed, hsplit, by simpa using hsecure, hparts.1,
        hparts.2.1, hparts.2.2.1, hparts.2.2.2⟩
  · rintro ⟨hstrip, rfl, parsed, hsplit, hsecure, hnetloc, huser, hquery, hfragment⟩
    unfold validateBaseUrl
    rw [if_neg (not_not.mpr hstrip.symm), hsplit]
    simp [hsecure, hnetloc, huser, hquery, hfragment]

end Check

end TechnocoreClient

/-! ## Hosts -/

/-- A character of a host: no white space, no control character, no delimiter. -/
def isHostChar (c : ℕ) : Bool := 32 < c && c != 127 && !isSpace c && !(py "/?#@:[]").contains c

/-- A character of a host, or one of `:`, `[` and `]`. -/
def isAuthorityChar (c : ℕ) : Bool := isHostChar c || c == 58 || c == 91 || c == 93

/-- Nothing, or a colon and digits. -/
def isPort (s : PyStr) : Bool :=
  match s with
  | [] => true
  | c :: digits => c == 58 && digits.all isDigit

/-- A host name, or an address in square brackets. -/
def isHost (s : PyStr) : Prop :=
  s ≠ [] ∧ s.all isHostChar = true ∨
    ∃ address, s = 91 :: address ++ [93] ∧ address ≠ [] ∧
      address.all (fun c => isHostChar c || c == 58) = true

/-- A host with an optional port, and nothing else. -/
def HostPort (authority : PyStr) : Prop :=
  ∃ host port, authority = host ++ port ∧ isHost host ∧ isPort port = true

theorem isHostChar_of_isDigit {c : ℕ} (h : isDigit c = true) : isHostChar c = true := by
  simp only [isDigit, Bool.and_eq_true, decide_eq_true_eq] at h
  obtain ⟨hlow, hhigh⟩ := h
  interval_cases c <;> rfl

theorem HostPort.char {authority : PyStr} (h : HostPort authority) :
    ∀ c ∈ authority, isAuthorityChar c = true := by
  obtain ⟨host, port, rfl, hhost, hport⟩ := h
  intro c hc
  rw [List.mem_append] at hc
  rcases hc with hc | hc
  · rcases hhost with ⟨-, hall⟩ | ⟨address, rfl, -, hall⟩
    · simp [isAuthorityChar, List.all_eq_true.mp hall c hc]
    · simp only [List.cons_append, List.mem_cons, List.mem_append, List.not_mem_nil, or_false] at hc
      rcases hc with rfl | hc | rfl
      · rfl
      · have hchar := List.all_eq_true.mp hall c hc
        rw [Bool.or_eq_true] at hchar
        rcases hchar with hchar | hchar <;> simp [isAuthorityChar, hchar]
      · rfl
  · cases port with
    | nil => exact absurd hc List.not_mem_nil
    | cons d digits =>
        simp only [isPort, Bool.and_eq_true, beq_iff_eq] at hport
        rw [List.mem_cons] at hc
        rcases hc with rfl | hc
        · simp [isAuthorityChar, hport.1]
        · have hdigit := List.all_eq_true.mp hport.2 c hc
          simp [isAuthorityChar, isHostChar_of_isDigit hdigit]

theorem HostPort.ne_nil {authority : PyStr} (h : HostPort authority) : authority ≠ [] := by
  obtain ⟨host, port, rfl, hhost, -⟩ := h
  rcases hhost with ⟨hne, -⟩ | ⟨address, rfl, -, -⟩
  · simp [hne]
  · simp

theorem isAuthorityChar_spec {c : ℕ} (h : isAuthorityChar c = true) :
    32 < c ∧ isSpace c = false ∧ c ≠ 47 ∧ c ≠ 63 ∧ c ≠ 35 ∧ c ≠ 64 := by
  simp only [isAuthorityChar, Bool.or_eq_true, beq_iff_eq] at h
  rcases h with ((h | rfl) | rfl) | rfl
  · simp only [isHostChar, Bool.and_eq_true, decide_eq_true_eq, Bool.not_eq_true'] at h
    obtain ⟨⟨⟨hc, -⟩, hspace⟩, hdelimiter⟩ := h
    refine ⟨hc, hspace, ?_, ?_, ?_, ?_⟩ <;>
      · rintro rfl
        exact absurd hdelimiter (by decide)
  all_goals decide

/-! ## A URL put together from its parts -/

namespace Url

/-- A scheme as it is written: letters, digits, `+`, `-` and `.`, starting with a letter. -/
def isScheme (scheme : PyStr) : Bool :=
  match scheme with
  | [] => false
  | c :: _ => isAlpha c && scheme.all isSchemeChar

theorem splitScheme_append {scheme : PyStr} (h : isScheme scheme = true) (rest : PyStr) :
    splitScheme (scheme ++ 58 :: rest) = (scheme.map asciiLower, rest) := by
  cases scheme with
  | nil => cases h
  | cons c tail =>
      have hcolon : 58 ∉ c :: tail := by
        intro hmem
        rw [isScheme, Bool.and_eq_true] at h
        exact absurd (List.all_eq_true.mp h.2 58 hmem) (by decide)
      rw [splitScheme, cut_append hcolon]
      exact if_pos h

/-- A URL that has a scheme starts with it. -/
theorem eq_of_splitScheme {url lowered rest : PyStr} (h : splitScheme url = (lowered, rest))
    (hne : lowered ≠ []) :
    ∃ scheme, url = scheme ++ 58 :: rest ∧ lowered = scheme.map asciiLower ∧
      isScheme scheme = true := by
  unfold splitScheme at h
  split at h
  · rename_i before after hcut
    split at h
    · cases h
      exact absurd rfl hne
    · rename_i c tail
      split_ifs at h with hscheme
      · cases h
        exact ⟨c :: tail, eq_of_cut hcut, rfl, hscheme⟩
      · cases h
        exact absurd rfl hne
  · cases h
    exact absurd rfl hne

theorem splitNetloc_append {netloc rest : PyStr} (hnetloc : ∀ c ∈ netloc, endsNetloc c = false)
    (hrest : ∀ c ∈ rest.head?, endsNetloc c = true) :
    splitNetloc (py "//" ++ netloc ++ rest) = (netloc, rest) := by
  have hstart : startsWith (py "//") (py "//" ++ netloc ++ rest) = true :=
    startsWith_iff.mpr ⟨_, (List.append_assoc _ _ _).symm⟩
  have hdrop : (py "//" ++ netloc ++ rest).drop 2 = netloc ++ rest := rfl
  have hkept : ∀ c ∈ netloc, (!endsNetloc c) = true := by
    intro c hc
    rw [hnetloc c hc]
    rfl
  have hend : rest.takeWhile (fun c => !endsNetloc c) = [] ∧
      rest.dropWhile (fun c => !endsNetloc c) = rest := by
    cases rest with
    | nil => exact ⟨rfl, rfl⟩
    | cons c tail =>
        have hc : endsNetloc c = true := hrest c rfl
        exact ⟨List.takeWhile_cons_of_neg (by simp [hc]), List.dropWhile_cons_of_neg (by simp [hc])⟩
  rw [splitNetloc, if_pos hstart, hdrop, List.takeWhile_append_of_pos hkept,
    List.dropWhile_append_of_pos hkept, hend.1, hend.2, List.append_nil]

theorem clean_eq_self {url : PyStr} (h : ∀ c ∈ url, 32 < c) : clean url = url := by
  have hstrip : lstripBy isC0OrSpace url = url := by
    cases url with
    | nil => rfl
    | cons c rest =>
        have hc := h c (by simp)
        exact List.dropWhile_cons_of_neg (by simp [isC0OrSpace]; omega)
  rw [clean, hstrip, List.filter_eq_self]
  intro c hc
  have hlarge := h c hc
  simp [isUnsafe]
  omega

theorem cutOr_append {c : ℕ} {s t : PyStr} (h : c ∉ s) : cutOr c (s ++ c :: t) = (s, t) := by
  rw [cutOr, cut_append h]
  rfl

variable [Platform]

/-- What `urlsplit` returns, in terms of the scheme and the netloc it finds. -/
theorem urlsplit_of {url scheme rest netloc tail : PyStr} (hclean : clean url = url)
    (hscheme : splitScheme url = (scheme, rest)) (hnetloc : splitNetloc rest = (netloc, tail))
    {parts : SplitResult} : urlsplit url = .ok parts ↔
      bracketsOk netloc = true ∧ netlocOk netloc = true ∧
      parts = { scheme, netloc, path := (cutOr 63 (cutOr 35 tail).1).1,
                query := (cutOr 63 (cutOr 35 tail).1).2, fragment := (cutOr 35 tail).2 } := by
  unfold urlsplit
  rw [hclean, hscheme]
  dsimp only
  rw [hnetloc]
  dsimp only
  by_cases hbrackets : bracketsOk netloc = true
  · by_cases hplain : netlocOk netloc = true
    · simp [hbrackets, hplain, eq_comm]
    · simp [hbrackets, hplain]
  · simp [hbrackets]

end Url

theorem lt_of_isSchemeChar {c : ℕ} (h : Url.isSchemeChar c = true) : 32 < c := by
  simp only [Url.isSchemeChar, isAlnum, isAlpha, isUpper, isLower, isDigit, Bool.or_eq_true,
    Bool.and_eq_true, decide_eq_true_eq, beq_iff_eq] at h
  omega

theorem isSchemeChar_of_isScheme {scheme : PyStr} (h : Url.isScheme scheme = true) :
    ∀ c ∈ scheme, Url.isSchemeChar c = true := by
  cases scheme with
  | nil => cases h
  | cons c tail =>
      rw [Url.isScheme, Bool.and_eq_true] at h
      exact List.all_eq_true.mp h.2

/-- A URL written as a scheme, a host with a port, and a tail. -/
def written (scheme authority tail : PyStr) : PyStr := scheme ++ 58 :: (py "//" ++ authority ++ tail)

/-- A written URL is clean. -/
theorem clean_written {scheme authority tail : PyStr} (hscheme : Url.isScheme scheme = true)
    (hauthority : HostPort authority) (htail : ∀ c ∈ tail, 32 < c) :
    Url.clean (written scheme authority tail) = written scheme authority tail := by
  apply Url.clean_eq_self
  intro c hc
  have hslashes : ∀ c ∈ py "//", 32 < c := by decide
  simp only [written, List.mem_append, List.mem_cons] at hc
  rcases hc with hc | rfl | (hc | hc) | hc
  · exact lt_of_isSchemeChar (isSchemeChar_of_isScheme hscheme c hc)
  · decide
  · exact hslashes c hc
  · exact (isAuthorityChar_spec (hauthority.char c hc)).1
  · exact htail c hc

theorem splitNetloc_written {authority tail : PyStr} (hauthority : HostPort authority)
    (hhead : ∀ c ∈ tail.head?, Url.endsNetloc c = true) :
    Url.splitNetloc (py "//" ++ authority ++ tail) = (authority, tail) := by
  apply Url.splitNetloc_append ?_ hhead
  intro c hc
  obtain ⟨-, -, h47, h63, h35, -⟩ := isAuthorityChar_spec (hauthority.char c hc)
  simp [Url.endsNetloc, h47, h63, h35]

/-- A written URL without a tail does not end with a slash. -/
theorem getLast?_written (scheme : PyStr) {authority : PyStr} (h : HostPort authority) :
    47 ∉ (written scheme authority []).getLast? := by
  have hlast : (written scheme authority []).getLast? = authority.getLast? := by
    have hc := List.getLast?_eq_some_getLast h.ne_nil
    have hslashes : (58 :: (py "//" ++ authority)).getLast? = some (authority.getLast h.ne_nil) := by
      rw [List.getLast?_cons, List.getLast?_append, hc]
      rfl
    rw [written, List.append_nil, List.getLast?_append, hslashes, hc]
    rfl
  intro hmem
  rw [hlast] at hmem
  exact (isAuthorityChar_spec (h.char 47 (List.mem_of_getLast? hmem))).2.2.1 rfl

section Written

variable [Platform]

/-- **How `urlsplit` takes a written URL apart.** -/
theorem urlsplit_written {scheme authority tail : PyStr} {parts : SplitResult}
    (hscheme : Url.isScheme scheme = true) (hauthority : HostPort authority)
    (htail : ∀ c ∈ tail, 32 < c) (hhead : ∀ c ∈ tail.head?, Url.endsNetloc c = true) :
    Url.urlsplit (written scheme authority tail) = .ok parts ↔
      Url.bracketsOk authority = true ∧ Url.netlocOk authority = true ∧
      parts = { scheme := scheme.map asciiLower, netloc := authority,
                path := (Url.cutOr 63 (Url.cutOr 35 tail).1).1,
                query := (Url.cutOr 63 (Url.cutOr 35 tail).1).2,
                fragment := (Url.cutOr 35 tail).2 } :=
  Url.urlsplit_of (clean_written hscheme hauthority htail) (Url.splitScheme_append hscheme _)
    (splitNetloc_written hauthority hhead)

end Written

/-! ## The URLs of the requests -/

namespace TechnocoreClient

/-- A character of the part of a request's URL behind the host, its `?` aside. -/
def isRequestChar (c : ℕ) : Bool := isUnreserved c || c == 37 || c == 38 || c == 47 || c == 61

theorem isRequestChar_spec {c : ℕ} (h : isRequestChar c = true) : 32 < c ∧ c ≠ 63 ∧ c ≠ 35 := by
  simp only [isRequestChar, isUnreserved, isAlnum, isAlpha, isUpper, isLower, isDigit,
    Bool.or_eq_true, Bool.and_eq_true, decide_eq_true_eq, beq_iff_eq] at h
  omega

theorem isUnreserved_upperHex {d : ℕ} (h : d < 16) : isUnreserved (upperHex d) = true := by
  interval_cases d <;> rfl

theorem isRequestChar_of_isUnreserved {c : ℕ} (h : isUnreserved c = true) : isRequestChar c = true := by
  simp [isRequestChar, h]

/-- Quoting leaves no delimiter. -/
theorem isRequestChar_quote {value quoted : PyStr} (h : quote value = .ok quoted) :
    ∀ c ∈ quoted, isRequestChar c = true := by
  unfold quote at h
  split at h
  · cases h
    intro c hc
    rw [quoteOctets, List.mem_flatMap] at hc
    obtain ⟨b, -, hc⟩ := hc
    split_ifs at hc with hb
    · rw [List.mem_singleton] at hc
      rw [hc]
      exact isRequestChar_of_isUnreserved hb
    · have hlt : b.toNat < 256 := b.toNat_lt
      simp only [List.mem_cons, List.not_mem_nil, or_false] at hc
      rcases hc with rfl | rfl | rfl
      · rfl
      · exact isRequestChar_of_isUnreserved (isUnreserved_upperHex (by omega))
      · exact isRequestChar_of_isUnreserved (isUnreserved_upperHex (by omega))
  · cases h

theorem isAscii_of_isUnreserved {c : ℕ} (h : isUnreserved c = true) : isAscii c = true := by
  simp only [isUnreserved, isAlnum, isAlpha, isUpper, isLower, isDigit, Bool.or_eq_true,
    Bool.and_eq_true, decide_eq_true_eq, beq_iff_eq] at h
  simp only [isAscii, decide_eq_true_eq]
  omega

/-- Quoting keeps a text that needs no quotes. -/
theorem quote_eq_self {value : PyStr} (h : ∀ c ∈ value, isUnreserved c = true) :
    quote value = .ok value := by
  have hascii : ∀ c ∈ value, isAscii c = true := fun c hc => isAscii_of_isUnreserved (h c hc)
  have hoctets : quoteOctets (toAscii value) = value := by
    rw [quoteOctets, toAscii, List.flatMap_map]
    conv_rhs => rw [← List.flatMap_singleton' value]
    apply List.flatMap_congr
    intro c hc
    have hlt : c < 128 := by simpa [isAscii] using hascii c hc
    have hnat : (UInt8.ofNat c).toNat = c := by
      rw [UInt8.toNat_ofNat']
      omega
    rw [hnat, if_pos (h c hc)]
  rw [quote, encodeUtf8_ascii hascii]
  exact congrArg Except.ok hoctets

theorem isUnreserved_of_isRoom {room : PyStr} (h : Crypto.isRoom room = true) :
    ∀ c ∈ room, isUnreserved c = true := by
  have hchar : ∀ {c}, Crypto.isRoomChar c = true → isUnreserved c = true := by
    intro c hc
    simp only [Crypto.isRoomChar, Crypto.isRoomStart, Bool.or_eq_true, beq_iff_eq] at hc
    rcases hc with ((hc | hc) | hc) | hc <;> simp [isUnreserved, isAlnum, isAlpha, hc]
  cases room with
  | nil => cases h
  | cons d rest =>
      rw [Crypto.isRoom, Bool.and_eq_true, Bool.and_eq_true] at h
      intro c hc
      rw [List.mem_cons] at hc
      rcases hc with rfl | hc
      · apply hchar
        simp [Crypto.isRoomChar, h.1.1]
      · exact hchar (List.all_eq_true.mp h.2 c hc)

/-- The URL of a signed write: the base, the room, and a quoted rest. -/
theorem sayRequest_url {client : TechnocoreClient} {room url : PyStr} {envelope : Envelope}
    {inReplyTo : ℕ}
    (h : client.sayRequest room envelope inReplyTo = .ok (.saySigned url room envelope inReplyTo)) :
    Crypto.isRoom room = true ∧ ∃ rest,
      url = client.baseUrl ++ py "/r/" ++ room ++ py "/say-signed/" ++ rest ++ py "?format=json" ∧
      ∀ c ∈ rest, isRequestChar c = true := by
  unfold sayRequest at h
  obtain ⟨validRoom, hroom, h⟩ := PyResult.bind_eq_ok.mp h
  obtain ⟨validDid, hdid, h⟩ := PyResult.bind_eq_ok.mp h
  obtain ⟨validNonce, hnonce, h⟩ := PyResult.bind_eq_ok.mp h
  have hvalid : validRoom = room ∧ Crypto.isRoom room = true := by
    unfold Crypto.validateRoom at hroom
    split_ifs at hroom with hok
    cases hroom
    exact ⟨rfl, hok⟩
  obtain ⟨rfl, hok⟩ := hvalid
  split_ifs at h
  obtain ⟨quotedRoom, hquotedRoom, h⟩ := PyResult.bind_eq_ok.mp h
  obtain ⟨quotedDid, hquotedDid, h⟩ := PyResult.bind_eq_ok.mp h
  obtain ⟨quotedSignature, hquotedSignature, h⟩ := PyResult.bind_eq_ok.mp h
  obtain ⟨quotedNonce, hquotedNonce, h⟩ := PyResult.bind_eq_ok.mp h
  obtain ⟨quotedText, hquotedText, h⟩ := PyResult.bind_eq_ok.mp h
  -- a room is quoted as it is
  rw [quote_eq_self (isUnreserved_of_isRoom hok)] at hquotedRoom
  cases hquotedRoom
  dsimp only at h
  split at h
  · cases h
  · split_ifs at h
    cases h
    refine ⟨hok, quotedDid ++ 47 :: quotedSignature ++ 47 :: quotedNonce ++ 47 :: quotedText,
      by simp [List.append_assoc], ?_⟩
    intro c hc
    simp only [List.mem_append, List.mem_cons] at hc
    rcases hc with ((hc | rfl | hc) | rfl | hc) | rfl | hc
    · exact isRequestChar_quote hquotedDid c hc
    · rfl
    · exact isRequestChar_quote hquotedSignature c hc
    · rfl
    · exact isRequestChar_quote hquotedNonce c hc
    · rfl
    · exact isRequestChar_quote hquotedText c hc

/-- What follows the `?` in the URL of a read. -/
theorem isRequestChar_readQuery (since limit cacheBuster : ℕ) {wait : PyStr}
    (hwait : wait.all isUnreserved = true) :
    ∀ c ∈ py "format=json&since=" ++ decimal since ++ py "&wait=" ++ wait ++ py "&limit=" ++
      decimal limit ++ py "&n=" ++ decimal cacheBuster, isRequestChar c = true := by
  have hnumber : ∀ n : ℕ, ∀ c ∈ decimal n, isRequestChar c = true := by
    intro n c hc
    simp [isRequestChar, isUnreserved, isAlnum, isDigit_of_mem_decimal hc]
  have hsince : ∀ c ∈ py "format=json&since=", isRequestChar c = true := by decide
  have hwaitKey : ∀ c ∈ py "&wait=", isRequestChar c = true := by decide
  have hlimit : ∀ c ∈ py "&limit=", isRequestChar c = true := by decide
  have hn : ∀ c ∈ py "&n=", isRequestChar c = true := by decide
  intro c hc
  simp only [List.mem_append] at hc
  rcases hc with ((((((hc | hc) | hc) | hc) | hc) | hc) | hc) | hc
  · exact hsince c hc
  · exact hnumber since c hc
  · exact hwaitKey c hc
  · exact isRequestChar_of_isUnreserved (List.all_eq_true.mp hwait c hc)
  · exact hlimit c hc
  · exact hnumber limit c hc
  · exact hn c hc
  · exact hnumber cacheBuster c hc

end TechnocoreClient

/-! ## Scheme and host, and nothing else -/

namespace TechnocoreClient

section Property

variable [Platform]

/-- A base URL made of a scheme and an authority: it is written so, the authority is a host
with an optional port, HTTPS is used unless the host is loopback, the URLs of both kinds of
request lead to that authority with a path that starts with `/r/` and the room, and checking
it again returns it. -/
structure SchemeAndHost (base scheme authority : PyStr) : Prop where
  text : base = scheme ++ py "://" ++ authority
  authority_ok : HostPort authority
  secure_ok : secure (scheme.map asciiLower) authority = true
  read : ∀ (room : PyStr) (since : ℕ) (wait : PyStr) (limit cacheBuster : ℕ),
    Crypto.isRoom room = true → wait.all isUnreserved = true →
      ∃ parts, Url.urlsplit (readUrl base room since wait limit cacheBuster) = .ok parts ∧
        parts.scheme = scheme.map asciiLower ∧ parts.netloc = authority ∧
        parts.path = py "/r/" ++ room
  say : ∀ (client : TechnocoreClient) (room url : PyStr) (envelope : Envelope) (inReplyTo : ℕ),
    client.baseUrl = base →
    client.sayRequest room envelope inReplyTo = .ok (.saySigned url room envelope inReplyTo) →
      ∃ parts rest, Url.urlsplit url = .ok parts ∧ parts.scheme = scheme.map asciiLower ∧
        parts.netloc = authority ∧ parts.path = py "/r/" ++ room ++ 47 :: rest
  again : validateBaseUrl base = .ok base

/-- A base URL that consists of a scheme and a host with an optional port. -/
def OnlySchemeAndHost (base : PyStr) : Prop := ∃ scheme authority, SchemeAndHost base scheme authority

end Property

/-- A URL that `urlsplit` takes as it is, with a host and an optional port behind the scheme,
and nothing but slashes behind them. -/
structure Bare (url : PyStr) : Prop where
  clean : Url.clean url = url
  authority : HostPort (Url.splitNetloc (Url.splitScheme url).2).1
  tail : ∀ c ∈ (Url.splitNetloc (Url.splitScheme url).2).2, c = 47

/-- A secure scheme is written with letters only. -/
theorem isScheme_of_secure {scheme netloc : PyStr}
    (h : secure (scheme.map asciiLower) netloc = true) : Url.isScheme scheme = true := by
  have hletter : ∀ c ∈ scheme, isAlpha c = true := by
    have hlower : ∀ c ∈ scheme.map asciiLower, isLower c = true := by
      simp only [secure, Bool.or_eq_true, Bool.and_eq_true, beq_iff_eq] at h
      rcases h with h | ⟨h, -⟩
      · rw [h]
        decide
      · rw [h]
        decide
    intro c hc
    have hc' := hlower _ (List.mem_map_of_mem hc)
    unfold asciiLower at hc'
    split_ifs at hc' with hupper
    · simp [isAlpha, hupper]
    · simp [isAlpha, hc']
  cases scheme with
  | nil =>
      simp only [secure, List.map_nil, Bool.or_eq_true, Bool.and_eq_true, beq_iff_eq] at h
      rcases h with h | ⟨h, -⟩ <;> exact absurd h (by decide)
  | cons c tail =>
      rw [Url.isScheme, Bool.and_eq_true, List.all_eq_true]
      refine ⟨hletter c (by simp), ?_⟩
      intro d hd
      simp [Url.isSchemeChar, isAlnum, hletter d hd]

/-- A URL made of a scheme and a host is bare, and so it is with slashes behind it. -/
theorem bare_append {scheme authority : PyStr} (hauthority : HostPort authority)
    (hscheme : Url.isScheme scheme = true) {slashes : PyStr} (hslashes : ∀ c ∈ slashes, c = 47) :
    Bare (written scheme authority slashes) := by
  have hlarge : ∀ c ∈ slashes, 32 < c := by
    intro c hc
    rw [hslashes c hc]
    decide
  have hhead : ∀ c ∈ slashes.head?, Url.endsNetloc c = true := by
    intro c hc
    rw [hslashes c (List.mem_of_head? hc)]
    rfl
  have hsplit : Url.splitScheme (written scheme authority slashes) = _ :=
    Url.splitScheme_append hscheme _
  have hnetloc := splitNetloc_written hauthority hhead
  refine ⟨clean_written hscheme hauthority hlarge, ?_, ?_⟩
  · rw [hsplit]
    dsimp only
    rw [hnetloc]
    exact hauthority
  · rw [hsplit]
    dsimp only
    rw [hnetloc]
    exact hslashes

section Accepted

variable [Platform] {scheme authority : PyStr}

/-- A request behind a bare base: its `?` separates the path from the query. -/
theorem urlsplit_request (hscheme : Url.isScheme scheme = true) (hauthority : HostPort authority)
    (hbrackets : Url.bracketsOk authority = true) (hplain : Url.netlocOk authority = true)
    {path query : PyStr} (hpath : ∀ c ∈ path, isRequestChar c = true)
    (hquery : ∀ c ∈ query, isRequestChar c = true) :
    Url.urlsplit (written scheme authority (47 :: path ++ 63 :: query)) =
      .ok { scheme := scheme.map asciiLower, netloc := authority, path := 47 :: path, query,
            fragment := [] } := by
  have hmem : ∀ c ∈ 47 :: path ++ 63 :: query, 32 < c ∧ c ≠ 35 := by
    intro c hc
    simp only [List.cons_append, List.mem_cons, List.mem_append] at hc
    rcases hc with rfl | hc | rfl | hc
    · decide
    · exact ⟨(isRequestChar_spec (hpath c hc)).1, (isRequestChar_spec (hpath c hc)).2.2⟩
    · decide
    · exact ⟨(isRequestChar_spec (hquery c hc)).1, (isRequestChar_spec (hquery c hc)).2.2⟩
  have hfragment : 35 ∉ 47 :: path ++ 63 :: query := fun hc => (hmem 35 hc).2 rfl
  have hmark : 63 ∉ 47 :: path := by
    intro hc
    rw [List.mem_cons] at hc
    rcases hc with hc | hc
    · omega
    · exact (isRequestChar_spec (hpath 63 hc)).2.1 rfl
  have hhead : ∀ c ∈ (47 :: path ++ 63 :: query).head?, Url.endsNetloc c = true := by
    intro c hc
    cases hc
    rfl
  rw [urlsplit_written hscheme hauthority (fun c hc => (hmem c hc).1) hhead,
    Url.cutOr_of_notMem hfragment, Url.cutOr_append hmark]
  exact ⟨hbrackets, hplain, rfl⟩

omit [Platform] in
theorem readUrl_written (scheme authority room : PyStr) (since : ℕ) (wait : PyStr)
    (limit cacheBuster : ℕ) :
    readUrl (scheme ++ py "://" ++ authority) room since wait limit cacheBuster =
      written scheme authority (47 :: (py "r/" ++ room) ++ 63 :: (py "format=json&since=" ++
        decimal since ++ py "&wait=" ++ wait ++ py "&limit=" ++ decimal limit ++ py "&n=" ++
        decimal cacheBuster)) := by
  simp [readUrl, written, py, List.append_assoc]

/-- A bare base is its own check's result. -/
theorem validateBaseUrl_bare (hscheme : Url.isScheme scheme = true)
    (hauthority : HostPort authority) (hbrackets : Url.bracketsOk authority = true)
    (hplain : Url.netlocOk authority = true)
    (hsecure : secure (scheme.map asciiLower) authority = true) :
    validateBaseUrl (written scheme authority []) = .ok (written scheme authority []) := by
  have hspace : ∀ c ∈ written scheme authority [], isSpace c = false := by
    intro c hc
    have hslashes : ∀ c ∈ py "//", isSpace c = false := by decide
    simp only [written, List.mem_append, List.mem_cons, List.not_mem_nil, or_false] at hc
    rcases hc with hc | rfl | hc | hc
    · have hchar := isSchemeChar_of_isScheme hscheme c hc
      rw [← Bool.not_eq_true]
      intro hs
      simp only [Url.isSchemeChar, isAlnum, isAlpha, isUpper, isLower, isDigit, isSpace,
        Bool.or_eq_true, Bool.and_eq_true, decide_eq_true_eq, beq_iff_eq] at hchar hs
      omega
    · rfl
    · exact hslashes c hc
    · exact (isAuthorityChar_spec (hauthority.char c hc)).2.1
  have huser : Url.hasUser authority = false := by
    have hat : 64 ∉ authority.reverse := by
      intro hmem
      exact (isAuthorityChar_spec (hauthority.char 64 (List.mem_reverse.mp hmem))).2.2.2.2.2 rfl
    rw [Url.hasUser, Url.splitUser, cut_of_notMem hat]
    rfl
  have hstripped : rstripSlashes (written scheme authority []) = written scheme authority [] := by
    have hrstrip := rstripSlashes_of (t := []) (getLast?_written scheme hauthority) (by simp)
    rwa [List.append_nil] at hrstrip
  refine validateBaseUrl_eq_ok.mpr ⟨strip_eq_self hspace, hstripped.symm, _,
    (urlsplit_written hscheme hauthority (by simp) (by simp)).mpr ⟨hbrackets, hplain, rfl⟩, hsecure,
    hauthority.ne_nil, huser, rfl, rfl⟩

theorem schemeAndHost_written (hscheme : Url.isScheme scheme = true)
    (hauthority : HostPort authority) (hbrackets : Url.bracketsOk authority = true)
    (hplain : Url.netlocOk authority = true)
    (hsecure : secure (scheme.map asciiLower) authority = true) :
    SchemeAndHost (written scheme authority []) scheme authority := by
  have htext : written scheme authority [] = scheme ++ py "://" ++ authority := by
    simp [written, py]
  have hslash : ∀ c ∈ py "r/", isRequestChar c = true := by decide
  refine ⟨htext, hauthority, hsecure, ?_, ?_,
    validateBaseUrl_bare hscheme hauthority hbrackets hplain hsecure⟩
  -- the URL of a read
  · intro room since wait limit cacheBuster hroom hwait
    have hpath : ∀ c ∈ py "r/" ++ room, isRequestChar c = true := by
      intro c hc
      rw [List.mem_append] at hc
      rcases hc with hc | hc
      · exact hslash c hc
      · exact isRequestChar_of_isUnreserved (isUnreserved_of_isRoom hroom c hc)
    rw [htext, readUrl_written]
    exact ⟨_, urlsplit_request hscheme hauthority hbrackets hplain hpath
      (isRequestChar_readQuery since limit cacheBuster hwait), rfl, rfl, rfl⟩
  -- the URL of a write
  · intro client room url envelope inReplyTo hbase hrequest
    obtain ⟨hroom, rest, rfl, hrest⟩ := sayRequest_url hrequest
    have hpath : ∀ c ∈ py "r/" ++ room ++ py "/say-signed/" ++ rest, isRequestChar c = true := by
      have hsay : ∀ c ∈ py "/say-signed/", isRequestChar c = true := by decide
      intro c hc
      simp only [List.mem_append] at hc
      rcases hc with ((hc | hc) | hc) | hc
      · exact hslash c hc
      · exact isRequestChar_of_isUnreserved (isUnreserved_of_isRoom hroom c hc)
      · exact hsay c hc
      · exact hrest c hc
    have hurl : client.baseUrl ++ py "/r/" ++ room ++ py "/say-signed/" ++ rest ++
        py "?format=json" = written scheme authority
          (47 :: (py "r/" ++ room ++ py "/say-signed/" ++ rest) ++ 63 :: py "format=json") := by
      rw [hbase, htext]
      simp [written, py]
    rw [hurl]
    refine ⟨_, py "say-signed/" ++ rest, urlsplit_request hscheme hauthority hbrackets hplain hpath
      (by decide), rfl, rfl, ?_⟩
    simp [py]

end Accepted

section Main

variable [Platform]

/-- **An accepted base URL comes back as a scheme and a host exactly when it is bare.** -/
theorem onlySchemeAndHost_iff {url base : PyStr} (h : validateBaseUrl url = .ok base) :
    OnlySchemeAndHost base ↔ Bare url := by
  obtain ⟨-, hbase, parsed, hsplit, hsecure, -⟩ := validateBaseUrl_eq_ok.mp h
  constructor
  · rintro ⟨scheme, authority, hparts⟩
    obtain ⟨n, hurl⟩ := rstripSlashes_append url
    have hscheme := isScheme_of_secure hparts.secure_ok
    have hwritten : url = written scheme authority (List.replicate n 47) := by
      rw [hurl, ← hbase, hparts.text]
      simp [written, py]
    rw [hwritten]
    exact bare_append hparts.authority_ok hscheme fun c hc => List.eq_of_mem_replicate hc
  · intro hbare
    obtain ⟨⟨lowered, rest⟩, hlowered⟩ : ∃ split, Url.splitScheme url = split := ⟨_, rfl⟩
    obtain ⟨⟨authority, tail⟩, hnetloc⟩ : ∃ split, Url.splitNetloc rest = split := ⟨_, rfl⟩
    obtain ⟨hclean, hauthority, htail⟩ := hbare
    rw [hlowered] at hauthority htail
    dsimp only at hauthority htail
    rw [hnetloc] at hauthority htail
    dsimp only at hauthority htail
    obtain ⟨hbrackets, hplain, rfl⟩ := (Url.urlsplit_of hclean hlowered hnetloc).mp hsplit
    dsimp only at hsecure
    have hne : lowered ≠ [] := by
      rintro rfl
      exact absurd (@isScheme_of_secure [] _ hsecure) (by decide)
    obtain ⟨scheme, rfl, rfl, hscheme⟩ := Url.eq_of_splitScheme hlowered hne
    have hrest := Url.eq_of_splitNetloc hnetloc hauthority.ne_nil
    -- The slashes behind the host are what `rstrip` cuts off.
    have hstripped : base = written scheme authority [] := by
      have hlast : rstripSlashes (written scheme authority [] ++ tail) = written scheme authority [] :=
        rstripSlashes_of (getLast?_written scheme hauthority) htail
      rw [hbase, hrest, ← hlast]
      simp [written]
    rw [hstripped]
    exact ⟨scheme, authority, schemeAndHost_written hscheme hauthority hbrackets hplain hsecure⟩


end Main

open Sample

/-- The base URL of the service, given with a slash behind it. -/
theorem onlySchemeAndHost_service : OnlySchemeAndHost (py "https://technocore.chat") :=
  (@onlySchemeAndHost_iff _ (py "https://technocore.chat/") _ (by decide +kernel)).mpr
    { clean := by decide
      authority := ⟨py "technocore.chat", [], by decide, Or.inl (by decide), rfl⟩
      tail := by decide }

/-- A base URL with a bare `?`: the room of every request lands in the query. -/
theorem onlySchemeAndHost_query : ¬∀ url base : PyStr, validateBaseUrl url = .ok base →
    OnlySchemeAndHost base := by
  intro h
  obtain ⟨scheme, authority, hparts⟩ :=
    h (py "https://technocore.chat?") (py "https://technocore.chat?") (by decide +kernel)
  have hmem : 63 ∈ scheme ++ py "://" ++ authority := by
    rw [← hparts.text]
    decide
  have hscheme := isSchemeChar_of_isScheme (isScheme_of_secure hparts.secure_ok)
  simp only [List.mem_append] at hmem
  rcases hmem with (hmem | hmem) | hmem
  · exact absurd (hscheme 63 hmem) (by decide)
  · exact absurd hmem (by decide)
  · exact (isAuthorityChar_spec (hparts.authority_ok.char 63 hmem)).2.2.2.1 rfl

end TechnocoreClient
