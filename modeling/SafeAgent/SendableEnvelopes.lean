/-
# Envelopes that can be sent

`send_signed_message` puts the quoted text into a URL of at most 8000 octets, and quoting makes three
characters of one: a text of 4096 characters could be too long.  A receipt is not, since nearly all
of its characters stay as they are.

* `reserved`           : how many characters of a text are quoted;
* `length_quote`       : how long the quoted text is;
* `reserved_receipt`   : the quoted characters of a receipt, counted key by key;
* `light_of_issue`     : a receipt is short, ASCII, and has few quoted characters;
* `envelope_sendable`  : **every envelope of the responder passes** the checks before the network.
-/
import SafeAgent.BaseUrls
import SafeAgent.CompactJson
import SafeAgent.JournalRoundTrip
import SafeAgent.ObservedReceipts
import SafeAgent.ProvisionRecovery
import SafeAgent.Utf8

open PyText

/-! ## Quoted characters -/

namespace TechnocoreClient

open Json

/-- The number of characters that `quote` replaces. -/
def reserved : PyStr → ℕ := weight fun c => if isUnreserved c then 0 else 1

theorem reserved_append (s t : PyStr) : reserved (s ++ t) = reserved s + reserved t := weight_append _ s t

theorem reserved_cons (c : ℕ) (s : PyStr) :
    reserved (c :: s) = (if isUnreserved c then 0 else 1) + reserved s := weight_cons _ c s

theorem reserved_eq_zero {s : PyStr} (h : ∀ c ∈ s, isUnreserved c = true) : reserved s = 0 := by
  induction s with
  | nil => rfl
  | cons c s ih =>
      rw [List.forall_mem_cons] at h
      rw [reserved_cons, if_pos h.1, ih h.2]

theorem isUnreserved_of_isAlnum {c : ℕ} (h : isAlnum c = true) : isUnreserved c = true := by
  simp [isUnreserved, h]

theorem isUnreserved_of_mem_decimal {n c : ℕ} (h : c ∈ decimal n) : isUnreserved c = true := by
  simp [isUnreserved, isAlnum, isDigit_of_mem_decimal h]

theorem isUnreserved_of_isBase64Url {c : ℕ} (h : Crypto.isBase64Url c = true) :
    isUnreserved c = true := by
  simp only [Crypto.isBase64Url, Bool.or_eq_true, beq_iff_eq] at h
  rcases h with (halnum | rfl) | rfl
  · exact isUnreserved_of_isAlnum halnum
  all_goals rfl

theorem isAscii_quote {value quoted : PyStr} (h : quote value = .ok quoted) :
    ∀ c ∈ quoted, isAscii c = true := by
  intro c hc
  have hchar := isRequestChar_quote h c hc
  simp only [isRequestChar, Bool.or_eq_true, beq_iff_eq] at hchar
  rcases hchar with (((hchar | rfl) | rfl) | rfl) | rfl
  · exact isAscii_of_isUnreserved hchar
  all_goals rfl

theorem reserved_le_length (s : PyStr) : reserved s ≤ s.length := by
  induction s with
  | nil => exact Nat.le_refl 0
  | cons c s ih =>
      rw [reserved_cons, List.length_cons]
      split_ifs <;> omega

/-- **How long a quoted text is**: two characters more for each that is replaced. -/
theorem length_quote {s : PyStr} (h : ∀ c ∈ s, isAscii c = true) :
    ∃ quoted, quote s = .ok quoted ∧ quoted.length = s.length + 2 * reserved s := by
  refine ⟨quoteOctets (toAscii s), by rw [quote, encodeUtf8_ascii h], ?_⟩
  induction s with
  | nil => rfl
  | cons c s ih =>
      rw [List.forall_mem_cons] at h
      have hlt : c < 128 := by simpa [isAscii] using h.1
      have hc : (UInt8.ofNat c).toNat = c := by
        rw [UInt8.toNat_ofNat']
        omega
      have hrest := ih h.2
      rw [quoteOctets, toAscii] at hrest ⊢
      rw [List.map_cons, List.flatMap_cons, List.length_append, hrest, hc, reserved_cons,
        List.length_cons]
      split_ifs
      · rw [List.length_singleton]
        omega
      · simp only [List.length_cons, List.length_nil]
        omega

end TechnocoreClient

/-! ## Quoted characters of a value -/

namespace Json

open TechnocoreClient

theorem reserved_escapeUnit (u : ℕ) : reserved (escapeUnit u) = 1 := by
  have hdigit : ∀ n, isUnreserved (hexDigit (n % 16)) = true := by
    intro n
    have hlt := Nat.mod_lt n (show 0 < 16 by norm_num)
    unfold hexDigit
    simp only [isUnreserved, isAlnum, isAlpha, isUpper, isLower, isDigit, Bool.or_eq_true,
      Bool.and_eq_true, decide_eq_true_eq, beq_iff_eq]
    split_ifs <;> omega
  have hslash : isUnreserved 92 = false := rfl
  have hu : isUnreserved 117 = true := rfl
  simp [escapeUnit, hdigit, hslash, hu, reserved]

/-- An escape has at most two quoted characters, and only where the character is quoted itself. -/
theorem reserved_escapeChar_le (c : ℕ) : reserved (escapeChar c) ≤ 2 * reserved [c] := by
  have hother : ¬(32 ≤ c ∧ c < 127) → reserved [c] = 1 := by
    intro hc
    have hreserved : isUnreserved c = false := by
      rw [Bool.eq_false_iff]
      simp only [isUnreserved, isAlnum, isAlpha, isUpper, isLower, isDigit, ne_eq, Bool.or_eq_true,
        Bool.and_eq_true, decide_eq_true_eq, beq_iff_eq]
      omega
    rw [reserved_cons, hreserved]
    rfl
  unfold escapeChar
  split_ifs with h₁ h₂ h₃ h₄ h₅ h₆ h₇ hprintable
  · rw [h₁]; decide
  · rw [h₂]; decide
  · rw [h₃]; decide
  · rw [h₄]; decide
  · rw [h₅]; decide
  · rw [h₆]; decide
  · rw [h₇]; decide
  · omega
  · rw [reserved_escapeUnit, hother hprintable]
    norm_num
  · rw [reserved_append, reserved_escapeUnit, reserved_escapeUnit, hother hprintable]

theorem reserved_renderStr_le (s : PyStr) : reserved (renderStr s) ≤ 2 + 2 * reserved s := by
  have hchars : reserved (s.flatMap escapeChar) ≤ 2 * reserved s := by
    induction s with
    | nil => exact Nat.le_refl 0
    | cons c s ih =>
        have hc := reserved_escapeChar_le c
        have hcons : reserved (c :: s) = reserved [c] + reserved s := reserved_append [c] s
        rw [List.flatMap_cons, reserved_append, hcons]
        omega
  have hquote : reserved [34] = 1 := rfl
  rw [renderStr, List.cons_append, reserved_cons, reserved_append, hquote]
  have hopen : (if isUnreserved 34 then 0 else 1) = 1 := rfl
  omega

/-- A string, by its quoted characters. -/
theorem reserved_str {s : PyStr} {n : ℕ} (h : reserved s ≤ n) :
    reserved (canonical (.str s)) ≤ 2 + 2 * n := by
  have hs := reserved_renderStr_le s
  rw [canonical, sortKeys, render]
  omega

theorem reserved_int (n : ℕ) : reserved (canonical (.int n)) = 0 := by
  rw [canonical, sortKeys, render, decimalInt, if_neg (by omega), Int.natAbs_natCast]
  exact reserved_eq_zero fun c hc => isUnreserved_of_mem_decimal hc

theorem reserved_bool (b : Bool) : reserved (canonical (.bool b)) = 0 := by
  cases b <;> rfl

end Json

/-! ## The text of a receipt -/

namespace Receipt

open Json PyItems TechnocoreClient

theorem reserved_did {did : PyStr} (h : Crypto.isDid did = true) : reserved did = 2 := by
  simp only [Crypto.isDid, Bool.and_eq_true, List.all_eq_true, beq_iff_eq] at h
  obtain ⟨⟨hfront, -⟩, hrest⟩ := h
  obtain ⟨rest, rfl⟩ := startsWith_iff.mp hfront
  have hdrop : (py "did:key:z6Mk" ++ rest).drop 12 = rest := rfl
  have hbase : ∀ c ∈ Crypto.base58btcAlphabet, isUnreserved c = true := by decide
  have hzero : reserved rest = 0 := reserved_eq_zero fun c hc =>
    hbase c (by simpa [Crypto.isBase58] using hrest c (hdrop ▸ hc))
  rw [reserved_append, hzero]
  rfl

theorem reserved_owner {s : PyStr} (h : isOwner s = true) : reserved s = 0 := by
  simp only [isOwner, Bool.and_eq_true, List.all_eq_true, Bool.or_eq_true, beq_iff_eq] at h
  refine reserved_eq_zero fun c hc => ?_
  rcases h.1.2 c hc with halnum | rfl
  · exact isUnreserved_of_isAlnum halnum
  · rfl

theorem reserved_repositoryName {s : PyStr} (h : validRepository s = true) : reserved s = 0 := by
  simp only [validRepository, isRepository, Bool.and_eq_true, List.all_eq_true] at h
  refine reserved_eq_zero fun c hc => ?_
  have hchar := h.1.1.2 c hc
  simp only [isRepositoryChar, Bool.or_eq_true, beq_iff_eq] at hchar
  rcases hchar with ((halnum | rfl) | rfl) | rfl
  · exact isUnreserved_of_isAlnum halnum
  all_goals rfl

theorem reserved_fullName (reference : PullRequestRef) : reserved reference.fullName = 1 := by
  rw [PullRequestRef.fullName, reserved_append, reserved_cons, reserved_owner reference.owner_ok,
    reserved_repositoryName reference.repository_ok]
  rfl

theorem reserved_url (reference : PullRequestRef) : reserved reference.url = 7 := by
  have hdigits : reserved (decimal reference.number) = 0 :=
    reserved_eq_zero fun c hc => isUnreserved_of_mem_decimal hc
  rw [PullRequestRef.url, pullRequestUrl, reserved_append, reserved_append, reserved_append,
    reserved_append, reserved_cons, reserved_owner reference.owner_ok,
    reserved_repositoryName reference.repository_ok, hdigits]
  rfl

theorem reserved_author_le {s : PyStr} (h : isAuthor s = true) : reserved s ≤ 5 := by
  have hlogin : ∀ {login : PyStr}, (login.all fun c => isAlnum c || c == 45) = true →
      reserved login = 0 := by
    intro login hall
    refine reserved_eq_zero fun c hc => ?_
    have hchar := List.all_eq_true.mp hall c hc
    rw [Bool.or_eq_true, beq_iff_eq] at hchar
    rcases hchar with halnum | rfl
    · exact isUnreserved_of_isAlnum halnum
    · rfl
  unfold isAuthor at h
  simp only [Bool.and_eq_true] at h
  by_cases hbot : endsWith (py "[bot]") s = true
  · rw [if_pos hbot] at h
    obtain ⟨login, rfl⟩ := List.isSuffixOf_iff_suffix.mp hbot
    have htake : (login ++ py "[bot]").take ((login ++ py "[bot]").length - 5) = login := by
      rw [List.length_append]
      exact List.take_left
    rw [htake] at h
    rw [reserved_append, hlogin h.1.2, Nat.zero_add]
    exact reserved_le_length (py "[bot]")
  · rw [if_neg hbot] at h
    rw [hlogin h.1.2]
    exact Nat.zero_le 5

theorem reserved_hex {s : PyStr} (h : ∀ c ∈ s, isHexLower c = true) : reserved s = 0 := by
  refine reserved_eq_zero fun c hc => ?_
  have hchar := h c hc
  simp only [isHexLower, isDigit, Bool.or_eq_true, Bool.and_eq_true, decide_eq_true_eq] at hchar
  simp only [isUnreserved, isAlnum, isAlpha, isUpper, isLower, isDigit, Bool.or_eq_true,
    Bool.and_eq_true, decide_eq_true_eq, beq_iff_eq]
  omega

theorem reserved_isSha {s : PyStr} (h : isSha s = true) : reserved s = 0 := by
  rw [isSha, Bool.and_eq_true, List.all_eq_true] at h
  exact reserved_hex h.2

theorem reserved_stamp_le {s : PyStr} (h : (UtcTime.parseIso s).isSome = true) : reserved s ≤ 20 := by
  refine (reserved_le_length s).trans ?_
  unfold UtcTime.parseIso at h
  split at h
  · exact Nat.le_refl 20
  · cases h

/-- How many characters of each value of a payload are quoted, at most. -/
def payloadReserved : List (PyStr × ℕ) :=
  receiptPayloadKeys.zip [2, 6, 2, 2, 4, 0, 16, 12, 2, 0, 0, 2, 2, 2, 2, 0, 0, 0, 0, 0, 42, 42]

section Receipts

variable {evidence : PullRequestEvidence} {checks : CheckSummary} {statuses : StatusSummary}
  {issuer stamp : PyStr}

/-- **The quoted characters of a payload**, key by key. -/
theorem reserved_payload (h : Observed evidence checks statuses)
    (hissuer : Crypto.isDid issuer = true) (hstamp : (UtcTime.parseIso stamp).isSome = true) :
    reserved (canonical (.obj (receiptPayload evidence issuer stamp))) ≤ 228 := by
  have hconst : ∀ s ∈ [receiptSchema, receiptSource, gitHubApiVersion], reserved s ≤ 0 := by decide
  have hstates : ∀ s ∈ [py "open", py "closed"], reserved s ≤ 0 := by decide
  have hcis : ∀ s ∈ ciStates, reserved s ≤ 0 := by decide
  obtain ⟨reference, hrepository, -, hurl⟩ := h.reference
  have hname : reserved evidence.repository ≤ 1 := hrepository ▸ (reserved_fullName reference).le
  have hlink : reserved evidence.url ≤ 7 := hurl ▸ (reserved_url reference).le
  have hci : reserved evidence.ci ≤ 0 := h.ci_eq ▸ hcis _ ciState_mem
  have hmerge : reserved (canonical (optText evidence.mergeCommitSha)) ≤ 2 := by
    cases hsha : evidence.mergeCommitSha with
    | none => decide
    | some sha => exact reserved_str (reserved_isSha (h.merge_ok sha hsha).2).le
  have hnodup : (keys (receiptPayload evidence issuer stamp)).Nodup :=
    show receiptPayloadKeys.Nodup by decide
  refine (weight_canonical_obj_le payloadReserved hnodup (by decide) rfl ?_).trans
    (by decide +kernel)
  simp only [payloadReserved, receiptPayloadKeys, List.zip_cons_cons, List.zip_nil_left,
    List.forall_mem_cons, List.not_mem_nil, false_implies, implies_true, and_true]
  exact ⟨reserved_str (hconst _ (by simp)), reserved_str (reserved_did hissuer).le,
    reserved_str (hconst _ (by simp)), reserved_str (hconst _ (by simp)), reserved_str hname,
    (reserved_int _).le, reserved_str hlink, reserved_str (reserved_author_le h.author_ok),
    reserved_str (hstates _ h.state_ok), (reserved_bool _).le, (reserved_bool _).le,
    reserved_str (reserved_isSha h.headSha_ok).le, reserved_str (reserved_isSha h.baseSha_ok).le,
    hmerge, reserved_str hci, (reserved_bool _).le, (reserved_int _).le, (reserved_int _).le,
    (reserved_int _).le, (reserved_int _).le, reserved_str (reserved_stamp_le h.updated_ok),
    reserved_str (reserved_stamp_le hstamp)⟩

/-- The quoted characters of the whole receipt. -/
theorem reserved_receipt {payload : JsonFields} (hpayload : reserved (canonical (.obj payload)) ≤ 228)
    (octets : Bytes) {signature : PyStr} (hsignature : Crypto.isSignature signature = true) :
    reserved (canonical (.obj (receiptFields payload octets signature))) ≤ 246 := by
  have hdigest : reserved (Sha256.sha256Hex octets) ≤ 0 :=
    (reserved_hex fun c hc => Sha256.isHexLower_of_mem_sha256Hex hc).le
  have hsigned : reserved signature ≤ 0 := by
    simp only [Crypto.isSignature, Bool.and_eq_true, List.all_eq_true] at hsignature
    exact (reserved_eq_zero fun c hc => isUnreserved_of_isBase64Url (hsignature.2 c hc)).le
  have hnodup : (keys (receiptFields payload octets signature)).Nodup :=
    show receiptKeys.Nodup by decide
  refine (weight_canonical_obj_le (receiptKeys.zip [228, 2, 2]) hnodup (by decide) rfl
    ?_).trans (by decide +kernel)
  simp only [receiptKeys, List.zip_cons_cons, List.zip_nil_left, List.forall_mem_cons,
    List.not_mem_nil, false_implies, implies_true, and_true]
  exact ⟨hpayload, reserved_str hdigest, reserved_str hsigned⟩

end Receipts

end Receipt

/-! ## The texts of the responder -/

/-- What the checks before the network need of a text. -/
structure Light [Platform] (text : PyStr) : Prop where
  ascii : ∀ c ∈ text, isAscii c = true
  swept : Crypto.sweepText text = .ok text
  short : text.length ≤ 4096
  reserved_le : TechnocoreClient.reserved text ≤ 246

/-- A text that the responder sends: a built-in reply, or one that the receipt service returns. -/
def SentText [Platform] (text : PyStr) : Prop :=
  (∃ command, Policy.replies command = some text) ∨
    ∃ (service : Receipt.ContributionReceiptService) (cooldown : Option String)
      (observedAt : ObservedAt) (url : PyStr), service.issue cooldown observedAt url = .ok text

section Texts

variable [Platform] {text : PyStr}

/-- A short printable text without blanks at its ends. -/
theorem light_of_printable (htext : (∀ c ∈ text, 32 ≤ c ∧ c < 127) ∧ 2 ≤ text.length ∧
    text.length ≤ 246 ∧ isSpace (text.headD 32) = false ∧ isSpace (text.getLastD 32) = false) :
    Light text := by
  obtain ⟨hprintable, htwo, hlength, hfirst, hlast⟩ := htext
  have hswept : Crypto.sweepText text = .ok text := by
    obtain _ | ⟨a, rest⟩ := text
    · cases htwo
    obtain rfl | ⟨inner, b, rfl⟩ := rest.eq_nil_or_concat
    · exact absurd htwo (by norm_num)
    rw [List.headD_cons] at hfirst
    rw [List.concat_eq_append, ← List.cons_append] at hprintable hlast hlength ⊢
    rw [List.getLastD_concat] at hlast
    exact Crypto.sweepText_of_printable hprintable hfirst hlast (hlength.trans (by norm_num))
  refine ⟨fun c hc => ?_, hswept, hlength.trans (by norm_num),
    (TechnocoreClient.reserved_le_length text).trans hlength⟩
  have hc := hprintable c hc
  rw [isAscii, decide_eq_true_eq]
  omega

/-- The built-in replies are short and printable. -/
theorem light_of_reply {command : Command} (h : Policy.replies command = some text) :
    Light text := by
  cases command with
  | pr => cases h
  | ping | help | status | about =>
      obtain rfl := Option.some.inj h
      exact light_of_printable (by decide +kernel)

/-- The stamp of a payload that was checked. -/
theorem stamp_of_validate {payload : JsonFields}
    (h : Receipt.validateReceiptPayload payload = .ok ()) {stamp : PyStr}
    (hstamp : Json.get payload (py "observed_at") = .str stamp) :
    (UtcTime.parseIso stamp).isSome = true := by
  unfold Receipt.validateReceiptPayload at h
  split_ifs at h
  obtain ⟨⟨⟩, -, h⟩ := PyResult.bind_ok h
  obtain ⟨⟨⟩, -, h⟩ := PyResult.bind_ok h
  obtain ⟨⟨⟩, -, h⟩ := PyResult.bind_ok h
  obtain ⟨⟨⟩, -, h⟩ := PyResult.bind_ok h
  obtain ⟨-, -, h⟩ := PyResult.bind_ok h
  obtain ⟨checked, hchecked, -⟩ := PyResult.bind_ok h
  rw [Receipt.requireTimestamp_eq_ok, hstamp, Json.str.injEq] at hchecked
  obtain ⟨rfl, hvalid⟩ := hchecked
  exact hvalid

/-- **The text of a receipt is light**, whatever GitHub has answered. -/
theorem light_of_issue {service : Receipt.ContributionReceiptService} {cooldown : Option String}
    {observedAt : ObservedAt} {url : PyStr} (h : service.issue cooldown observedAt url = .ok text) :
    Light text := by
  unfold Receipt.ContributionReceiptService.issue at h
  obtain ⟨reference, -, h⟩ := PyResult.bind_ok h
  cases cooldown with
  | some retryAfter => cases h
  | none =>
      obtain ⟨evidence, hinspect, h⟩ := PyResult.bind_ok h
      obtain ⟨receipt, hbuild, hrender⟩ := PyResult.bind_ok h
      obtain ⟨-, -, -, checks, -, statuses, -, -, -, -, -, -, -, hobserved⟩ :=
        Receipt.inspect_ok hinspect
      obtain ⟨hkey, stamp, octets, signature, -, hvalid, -, hsigned, rfl⟩ :=
        Receipt.buildSignedReceipt_ok hbuild
      have hissuer := Crypto.isDid_of_didFromPrivateKey hkey
      have hstamp := stamp_of_validate hvalid rfl
      obtain ⟨hok, hform⟩ := Crypto.signDetached_eq service.privateKey octets
      rw [hok] at hsigned
      cases hsigned
      rw [Crypto.isCanonicalSignature, Bool.and_eq_true] at hform
      have hplain := Receipt.plain_receiptFields
        (Receipt.plain_receiptPayload hobserved hissuer hstamp) octets hform.1
      have hreserved := Receipt.reserved_receipt (Receipt.reserved_payload hobserved hissuer hstamp)
        octets hform.1
      -- what is rendered is the canonical text, where it is short enough
      unfold Receipt.renderSignedReceipt at hrender
      obtain ⟨-, -, hrender⟩ := PyResult.bind_ok hrender
      obtain ⟨rendered, hdumps, hrender⟩ := PyResult.bind_ok hrender
      split_ifs at hrender with hlong
      cases hrender
      unfold Json.dumps at hdumps
      split_ifs at hdumps
      cases hdumps
      have hlength := not_lt.mp hlong
      exact ⟨Json.isAscii_render (Json.plain_sortKeys _ hplain),
        Receipt.sweepText_render (Json.plain_sortKeys _ hplain) hlength, hlength, hreserved⟩

theorem SentText.light (h : SentText text) : Light text := by
  rcases h with ⟨command, hreply⟩ | ⟨service, cooldown, observedAt, url, hissue⟩
  · exact light_of_reply hreply
  · exact light_of_issue hissue

end Texts

/-! ## The request -/

section Requests

variable [Platform] {key : Platform.PrivateKey} {did room text : PyStr} {nonce : ℕ}

variable (key) in
/-- A light text is signed as it is. -/
theorem signRoomMessage_light (hroom : Crypto.isRoom room = true) (hnonce : nonce ≤ AgentState.maxNonce)
    (htext : Light text) : ∃ signature,
      Crypto.signRoomMessage key room (.int nonce) text = .ok (text, signature) ∧
        Crypto.isCanonicalSignature signature = true := by
  have hdigits : ∀ c ∈ decimal nonce, isAscii c = true := fun c hc =>
    isAscii_of_isDigit (isDigit_of_mem_decimal hc)
  have hascii : ∀ c ∈ room ++ 124 :: decimal nonce ++ 124 :: text, isAscii c = true := by
    simp only [List.forall_mem_append, List.forall_mem_cons]
    exact ⟨⟨(fun c hc => TechnocoreClient.isAscii_of_isUnreserved
      (TechnocoreClient.isUnreserved_of_isRoom hroom c hc)), rfl, hdigits⟩, rfl, htext.ascii⟩
  have hoctets : Crypto.roomMessageOctets room (decimal nonce) text =
      .ok (toAscii (room ++ 124 :: decimal nonce ++ 124 :: text)) := by
    rw [Crypto.roomMessageOctets, encodeUtf8_ascii hascii]
  obtain ⟨hsigned, hform⟩ := Crypto.signDetached_eq key
    (toAscii (room ++ 124 :: decimal nonce ++ 124 :: text))
  refine ⟨_, ?_, hform⟩
  simp only [Crypto.signRoomMessage, bind, Except.bind, Crypto.validateRoom, if_pos hroom,
    Crypto.validateNonce_of_le hnonce, htext.swept, hoctets, hsigned]
  rfl

end Requests

namespace TechnocoreClient

/-- What follows the base URL in the URL of a signed write. -/
def signedPath (room quotedDid signature : PyStr) (nonce : ℕ) (quotedText : PyStr) : PyStr :=
  py "/r/" ++ room ++ py "/say-signed/" ++ quotedDid ++ 47 :: signature ++ 47 :: decimal nonce ++
    47 :: quotedText ++ py "?format=json"

section Path

variable {room did quotedDid signature text quotedText : PyStr} {nonce : ℕ}

theorem quote_signature (h : Crypto.isCanonicalSignature signature = true) :
    (∀ c ∈ signature, isUnreserved c = true) ∧ signature.length = 86 := by
  simp only [Crypto.isCanonicalSignature, Crypto.isSignature, Bool.and_eq_true, beq_iff_eq,
    List.all_eq_true] at h
  exact ⟨fun c hc => isUnreserved_of_isBase64Url (h.1.2 c hc), h.1.1⟩

variable (nonce) in
theorem isAscii_signedPath (hroom : Crypto.isRoom room = true) (hdid : quote did = .ok quotedDid)
    (hsignature : Crypto.isCanonicalSignature signature = true)
    (htext : quote text = .ok quotedText) :
    ∀ c ∈ signedPath room quotedDid signature nonce quotedText, isAscii c = true := by
  have hliterals : ∀ t ∈ [py "/r/", py "/say-signed/", py "?format=json"], ∀ c ∈ t,
      isAscii c = true := by decide
  simp only [signedPath, List.forall_mem_append, List.forall_mem_cons]
  refine ⟨⟨⟨⟨⟨⟨⟨hliterals _ (by simp), fun c hc => ?_⟩, hliterals _ (by simp)⟩,
    isAscii_quote hdid⟩, rfl, fun c hc => ?_⟩, rfl, fun c hc => ?_⟩, rfl, isAscii_quote htext⟩,
    hliterals _ (by simp)⟩
  · exact isAscii_of_isUnreserved (isUnreserved_of_isRoom hroom c hc)
  · exact isAscii_of_isUnreserved ((quote_signature hsignature).1 c hc)
  · exact isAscii_of_isUnreserved (isUnreserved_of_mem_decimal hc)

/-- A room of 48 characters, a DID of 56, a nonce of 19 digits, and a text of which at most 246
characters are quoted. -/
theorem length_signedPath_le (hroom : Crypto.isRoom room = true) (hdid : quotedDid.length = 60)
    (hsignature : signature.length = 86) (hnonce : nonce ≤ AgentState.maxNonce)
    (htext : quotedText.length ≤ 4588) :
    (signedPath room quotedDid signature nonce quotedText).length ≤ 5952 := by
  have hdigits : (decimal nonce).length ≤ 19 := by
    rw [length_decimal_le_iff (by norm_num)]
    rw [AgentState.maxNonce] at hnonce
    omega
  have hname : room.length ≤ 48 := by
    cases room with
    | nil => cases hroom
    | cons c rest =>
        simp only [Crypto.isRoom, Bool.and_eq_true, decide_eq_true_eq] at hroom
        rw [List.length_cons]
        omega
  have hliterals : (py "/r/").length = 3 ∧ (py "/say-signed/").length = 12 ∧
      (py "?format=json").length = 12 := by decide
  simp only [signedPath, List.length_append, List.length_cons]
  omega

/-- The request passes, where the URL is short enough. -/
theorem sayRequest_eq_ok {client : TechnocoreClient} (signed : Envelope) {octets : Bytes} (input : ℕ)
    (hroom : Crypto.isRoom room = true) (hdid : Crypto.isDid signed.did = true)
    (hnonce : signed.nonce ≤ AgentState.maxNonce)
    (hsignature : Crypto.isCanonicalSignature signed.signature = true)
    (hquotedDid : quote signed.did = .ok quotedDid) (hquotedText : quote signed.text = .ok quotedText)
    (hoctets : encodeUtf8 (client.baseUrl ++
      signedPath room quotedDid signed.signature signed.nonce quotedText) = some octets)
    (hlength : octets.length ≤ 8000) :
    client.sayRequest room signed input = .ok (.saySigned (client.baseUrl ++
      signedPath room quotedDid signed.signature signed.nonce quotedText) room signed input) := by
  have hquotedSignature := quote_eq_self (quote_signature hsignature).1
  have hquotedNonce : quote (decimal signed.nonce) = .ok (decimal signed.nonce) :=
    quote_eq_self fun _ => isUnreserved_of_mem_decimal
  have hquotedRoom := quote_eq_self (isUnreserved_of_isRoom hroom)
  have hurl : client.baseUrl ++ py "/r/" ++ room ++ py "/say-signed/" ++ quotedDid ++
      47 :: signed.signature ++ 47 :: decimal signed.nonce ++ 47 :: quotedText ++ py "?format=json" =
      client.baseUrl ++ signedPath room quotedDid signed.signature signed.nonce quotedText := by
    simp only [signedPath, List.append_assoc]
  simp only [sayRequest, bind, Except.bind, Crypto.validateRoom, if_pos hroom, Crypto.validateDid,
    if_pos hdid, Crypto.validateNonce_of_le hnonce, hsignature, not_true_eq_false, if_false,
    hquotedRoom, hquotedDid, hquotedSignature, hquotedNonce, hquotedText, hurl, hoctets,
    if_neg (not_lt.mpr hlength)]

end Path

end TechnocoreClient

/-- **A journaled envelope is always sendable.**  Whatever text the responder sends, with any key,
in any room, with a nonce of `next_nonce` and a base URL of at most 2048 octets: the text is signed as
it is, and every check before the network passes, so what follows is the exchange. -/
theorem envelope_sendable [Platform] {key : Platform.PrivateKey} {did room text : PyStr}
    {s s' : AgentState} {clock : ℤ} {nonce : ℕ} (client : TechnocoreClient) {base : Bytes}
    (hkey : Crypto.didFromPrivateKey key = .ok did) (hroom : Crypto.isRoom room = true)
    (hnonce : s.nextNonce room clock = .ok (nonce, s')) (hbase : encodeUtf8 client.baseUrl = some base)
    (hlength : base.length ≤ 2048) (htext : SentText text) (input : ℕ) :
    ∃ signature url octets,
      Crypto.signRoomMessage key room (.int nonce) text = .ok (text, signature) ∧
      client.sayRequest room { did, nonce, text, signature } input =
        .ok (.saySigned url room { did, nonce, text, signature } input) ∧
      encodeUtf8 url = some octets ∧ octets.length ≤ 8000 ∧
      Agent.sendSignedMessage client room { did, nonce, text, signature } input =
        (Agent.requestJson (.saySigned url room { did, nonce, text, signature } input) >>= fun payload =>
          Proc.ofExcept (TechnocoreClient.checkPosted room { did, nonce, text, signature } payload)) := by
  have hlight := htext.light
  have hissuer := Crypto.isDid_of_didFromPrivateKey hkey
  obtain ⟨-, hmax, -⟩ := AgentState.nextNonce_ok hnonce
  obtain ⟨signature, hsigned, hform⟩ := signRoomMessage_light key hroom hmax hlight
  obtain ⟨quotedDid, hquotedDid, hdidLength⟩ :=
    TechnocoreClient.length_quote (Audit.isAscii_of_isDid hissuer)
  obtain ⟨quotedText, hquotedText, htextLength⟩ := TechnocoreClient.length_quote hlight.ascii
  rw [(Provision.printable_of_isDid hissuer).1, Receipt.reserved_did hissuer] at hdidLength
  have hpath := TechnocoreClient.length_signedPath_le hroom hdidLength
    (TechnocoreClient.quote_signature hform).2 hmax
    (htextLength.le.trans (by have := hlight.short; have := hlight.reserved_le; omega))
  have hoctets := Json.encodeUtf8_append_ascii hbase (TechnocoreClient.isAscii_signedPath nonce
    hroom hquotedDid hform hquotedText)
  have hshort : (base ++ toAscii (TechnocoreClient.signedPath room quotedDid signature nonce
      quotedText)).length ≤ 8000 := by
    rw [List.length_append, toAscii, List.length_map]
    omega
  have hrequest := TechnocoreClient.sayRequest_eq_ok { did, nonce, text, signature } input
    hroom hissuer hmax hform hquotedDid hquotedText hoctets hshort
  refine ⟨signature, _, _, hsigned, hrequest, hoctets, hshort, ?_⟩
  rw [Agent.sendSignedMessage, hrequest]
  rfl

section Samples

open Sample Receipt

/-- The service of the agent. -/
def receiptService : ContributionReceiptService where
  issuerDid := did
  privateKey := key
  transport := sampleTransport

/-- It issues a receipt. -/
theorem issued_sample :
    ∃ text, receiptService.issue none (.utc time) sampleReference.url = .ok text := by
  have hissued : (receiptService.issue none (.utc time) sampleReference.url).toOption.isSome = true := by
    decide +kernel
  cases htext : receiptService.issue none (.utc time) sampleReference.url with
  | error e =>
      rw [htext] at hissued
      cases hissued
  | ok text => exact ⟨text, rfl⟩

/-- The theorem at that receipt. -/
theorem envelope_sendable_receipt : ∃ text signature url octets,
    receiptService.issue none (.utc time) sampleReference.url = .ok text ∧
      Crypto.signRoomMessage key room (.int 5) text = .ok (text, signature) ∧
      client.sayRequest room { did := did, nonce := 5, text, signature } 1 =
        .ok (.saySigned url room { did := did, nonce := 5, text, signature } 1) ∧
      encodeUtf8 url = some octets ∧ octets.length ≤ 8000 := by
  obtain ⟨text, htext⟩ := issued_sample
  have hnonce : AgentState.nextNonce {} room 5 =
      .ok (5, { ({} : AgentState) with nonces := ({} : AgentState).nonces.set room 5 }) := rfl
  obtain ⟨signature, url, octets, hsigned, hrequest, hoctets, hlength, -⟩ :=
    envelope_sendable client did_eq (by decide) hnonce (encodeUtf8_ascii (by decide))
      (by decide) (.inr ⟨receiptService, none, .utc time, sampleReference.url, htext⟩) 1
  exact ⟨text, signature, url, octets, htext, hsigned, hrequest, hoctets, hlength⟩

end Samples
