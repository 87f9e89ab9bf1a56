/-
# How many texts a signature has

64 octets are 86 base64 characters of which the last carries two bits.  The decoder drops its
other four bits without a look, so a signature has 16 texts, and one of them is what
`sign_detached` writes.

* `encode_decode_iff` : a text is the encoding of what it decodes to exactly when its last
  character is one of `A`, `Q`, `g` and `w`;
* `resent_iff`        : a delivery record whose signature is another text is never resent;
* `canonical_iff`     : **accepted signatures are canonical exactly when they end so**.
-/
import SafeAgent.Acknowledgements
import SafeAgent.Raises

open PyText

namespace Crypto

/-! ## Base64, backwards -/

theorem base64Value_lt (c : ℕ) : base64Value c < 64 := by
  simp only [base64Value, isUpper, isLower, isDigit, Bool.and_eq_true, decide_eq_true_eq]
  split_ifs <;> omega

theorem base64Char_base64Value {c : ℕ} (h : isBase64Url c = true) :
    base64Char (base64Value c) = c := by
  simp only [isBase64Url, isAlnum, isAlpha, isUpper, isLower, isDigit, Bool.or_eq_true,
    Bool.and_eq_true, decide_eq_true_eq, beq_iff_eq] at h
  simp only [base64Value, base64Char, isUpper, isLower, isDigit, Bool.and_eq_true,
    decide_eq_true_eq]
  split_ifs <;> omega

/-- Whole groups of four characters are the encoding of their three octets. -/
theorem encode_decode_group {c0 c1 c2 c3 : ℕ} (h0 : isBase64Url c0 = true)
    (h1 : isBase64Url c1 = true) (h2 : isBase64Url c2 = true) (h3 : isBase64Url c3 = true)
    (rest : PyStr) :
    base64UrlEncode (base64UrlDecode (c0 :: c1 :: c2 :: c3 :: rest)) =
      c0 :: c1 :: c2 :: c3 :: base64UrlEncode (base64UrlDecode rest) := by
  have hv0 := base64Value_lt c0
  have hv1 := base64Value_lt c1
  have hv2 := base64Value_lt c2
  have hv3 := base64Value_lt c3
  have hnat : ∀ {n : ℕ}, n < 256 → (UInt8.ofNat n).toNat = n := fun hn =>
    UInt8.toNat_ofNat_of_lt' hn
  rw [base64UrlDecode, base64UrlEncode, hnat (by omega), hnat (by omega), hnat (by omega)]
  have hc0 : (base64Value c0 * 4 + base64Value c1 / 16) / 4 = base64Value c0 := by omega
  have hc1 : (base64Value c0 * 4 + base64Value c1 / 16) % 4 * 16 +
      (base64Value c1 % 16 * 16 + base64Value c2 / 4) / 16 = base64Value c1 := by omega
  have hc2 : (base64Value c1 % 16 * 16 + base64Value c2 / 4) % 16 * 4 +
      (base64Value c2 % 4 * 64 + base64Value c3) / 64 = base64Value c2 := by omega
  have hc3 : (base64Value c2 % 4 * 64 + base64Value c3) % 64 = base64Value c3 := by omega
  rw [hc0, hc1, hc2, hc3, base64Char_base64Value h0, base64Char_base64Value h1,
    base64Char_base64Value h2, base64Char_base64Value h3]

/-- The two last characters are the encoding of their octet when no bit is dropped. -/
theorem encode_decode_pair_iff {c0 c1 : ℕ} (h0 : isBase64Url c0 = true)
    (h1 : isBase64Url c1 = true) :
    base64UrlEncode (base64UrlDecode [c0, c1]) = [c0, c1] ↔ base64Value c1 % 16 = 0 := by
  have hv0 := base64Value_lt c0
  have hv1 := base64Value_lt c1
  have hnat : (UInt8.ofNat (base64Value c0 * 4 + base64Value c1 / 16)).toNat =
      base64Value c0 * 4 + base64Value c1 / 16 := UInt8.toNat_ofNat_of_lt' (by
    show base64Value c0 * 4 + base64Value c1 / 16 < 256
    omega)
  have hfirst : (base64Value c0 * 4 + base64Value c1 / 16) / 4 = base64Value c0 := by omega
  have hsecond : (base64Value c0 * 4 + base64Value c1 / 16) % 4 * 16 =
      base64Value c1 / 16 * 16 := by omega
  rw [base64UrlDecode, base64UrlEncode, hnat, hfirst, hsecond, base64Char_base64Value h0]
  constructor
  · intro h
    have hlast : base64Char (base64Value c1 / 16 * 16) = c1 := by simpa using h
    have hvalue := congrArg base64Value hlast
    rw [base64Value_base64Char (by omega)] at hvalue
    omega
  · intro h
    have hwhole : base64Value c1 / 16 * 16 = base64Value c1 := by omega
    rw [hwhole, base64Char_base64Value h1]

/-- The characters with four bits clear. -/
theorem base64Value_mod_iff {c : ℕ} (h : isBase64Url c = true) :
    base64Value c % 16 = 0 ↔ (py "AQgw").contains c = true := by
  have hlt := base64Value_lt c
  constructor
  · intro hmod
    have hchar := base64Char_base64Value h
    have hcases : base64Value c = 0 ∨ base64Value c = 16 ∨ base64Value c = 32 ∨
        base64Value c = 48 := by omega
    rw [← hchar]
    rcases hcases with hv | hv | hv | hv
    · rw [hv]
      decide
    · rw [hv]
      decide
    · rw [hv]
      decide
    · rw [hv]
      decide
  · intro hmem
    have hcases : c = 65 ∨ c = 81 ∨ c = 103 ∨ c = 119 := by
      simpa [py] using List.contains_iff_mem.mp hmem
    rcases hcases with rfl | rfl | rfl | rfl <;> decide

theorem length_le_one {s : PyStr}
    (h4 : ∀ (c0 c1 c2 c3 : ℕ) (rest : List ℕ), s = c0 :: c1 :: c2 :: c3 :: rest → False)
    (h3 : ∀ c0 c1 c2 : ℕ, s = [c0, c1, c2] → False) (h2 : ∀ c0 c1 : ℕ, s = [c0, c1] → False) :
    s.length ≤ 1 := by
  rcases s with _ | ⟨c0, _ | ⟨c1, _ | ⟨c2, _ | ⟨c3, rest⟩⟩⟩⟩
  · exact Nat.zero_le 1
  · exact le_rfl
  · exact (h2 _ _ rfl).elim
  · exact (h3 _ _ _ rfl).elim
  · exact (h4 _ _ _ _ _ rfl).elim

theorem encode_decode_iff {s : PyStr} (hs : ∀ c ∈ s, isBase64Url c = true)
    (hlen : s.length % 4 = 2) :
    base64UrlEncode (base64UrlDecode s) = s ↔ (py "AQgw").contains (s.getLastD 0) = true := by
  induction s using base64UrlDecode.induct with
  | case1 c0 c1 c2 c3 rest ih =>
      have hrest : rest.length % 4 = 2 := by
        simp only [List.length_cons] at hlen
        omega
      obtain ⟨c, t, rfl⟩ : ∃ c t, rest = c :: t := List.exists_cons_of_ne_nil (by
        rintro rfl
        simp at hrest)
      have hmem : ∀ c', c' ∈ c :: t → isBase64Url c' = true := fun c' hc' => hs c' (by simp_all)
      rw [encode_decode_group (hs c0 (by simp)) (hs c1 (by simp)) (hs c2 (by simp))
        (hs c3 (by simp))]
      have hlast : (c0 :: c1 :: c2 :: c3 :: c :: t).getLastD 0 = (c :: t).getLastD 0 := by simp
      rw [hlast, ← ih hmem hrest]
      simp
  | case2 c0 c1 c2 => simp at hlen
  | case3 c0 c1 =>
      rw [encode_decode_pair_iff (hs c0 (by simp)) (hs c1 (by simp)),
        base64Value_mod_iff (hs c1 (by simp))]
      rfl
  | case4 s h4 h3 h2 =>
      have hshort := length_le_one h4 h3 h2
      omega

theorem length_base64UrlDecode {s : PyStr} (hlen : s.length % 4 = 2) :
    (base64UrlDecode s).length = (3 * s.length - 2) / 4 := by
  induction s using base64UrlDecode.induct with
  | case1 c0 c1 c2 c3 rest ih =>
      have hrest : rest.length % 4 = 2 := by
        simp only [List.length_cons] at hlen
        omega
      simp only [base64UrlDecode, List.length_cons, ih hrest]
      omega
  | case2 c0 c1 c2 => simp at hlen
  | case3 c0 c1 => simp [base64UrlDecode]
  | case4 s h4 h3 h2 =>
      have hshort := length_le_one h4 h3 h2
      omega

/-! ## Accepted signatures -/

theorem isSignature_iff {s : PyStr} :
    isSignature s = true ↔ s.length = 86 ∧ ∀ c ∈ s, isBase64Url c = true := by
  simp [isSignature]

/-- **A signature text is the encoding of the 64 octets it decodes to** exactly when it is
canonical. -/
theorem encoding_iff {s : PyStr} (h : isSignature s = true) :
    (base64UrlEncode (base64UrlDecode s) = s ∧ (base64UrlDecode s).length = 64) ↔
      isCanonicalSignature s = true := by
  obtain ⟨hlen, hs⟩ := isSignature_iff.mp h
  have hmod : s.length % 4 = 2 := by omega
  have hoctets : (base64UrlDecode s).length = 64 := by
    rw [length_base64UrlDecode hmod, hlen]
  rw [isCanonicalSignature, h, Bool.true_and, ← encode_decode_iff hs hmod]
  exact ⟨fun hboth => hboth.1, fun hencode => ⟨hencode, hoctets⟩⟩

variable [Platform]

theorem isSignature_of_verify {did s : PyStr} {payload : Bytes}
    (h : verifyDetachedSignature did payload s = true) : isSignature s = true := by
  unfold verifyDetachedSignature at h
  split_ifs at h with hsignature
  exact hsignature

theorem isDid_of_verify {did s : PyStr} {payload : Bytes}
    (h : verifyDetachedSignature did payload s = true) : isDid did = true := by
  unfold verifyDetachedSignature at h
  rw [if_pos (isSignature_of_verify h)] at h
  by_contra hdid
  have hkey : publicKeyFromDid did =
      .error (.of .protocolValueError "DID must be a canonical Ed25519 did:key") := by
    rw [publicKeyFromDid, validateDid, if_neg hdid]
    rfl
  rw [hkey] at h
  cases h

end Crypto

/-! ## Delivery records -/

namespace DeliveryRecord

open Json PyItems

/-- The error of a signature that is not canonical. -/
def notCanonical : PyErr :=
  Protocol.protocolValueError "signature must use canonical unpadded base64url encoding"

theorem nonceAsInt_valid {value : Json} {n : ℕ} (h : nonceAsInt value = .ok n) :
    ∃ valid, Crypto.validateNonce (.int n) = .ok valid := by
  unfold nonceAsInt at h
  cases hint : value.asInt with
  | none =>
      rw [hint] at h
      cases h
  | some z =>
      rw [hint] at h
      simp only at h
      cases hvalid : Crypto.validateNonce (.int z) with
      | error e =>
          rw [hvalid] at h
          simp only at h
          split_ifs at h
      | ok valid =>
          rw [hvalid] at h
          cases h
          -- a nonce of digits has no sign
          have hnonneg : 0 ≤ z := by
            unfold Crypto.validateNonce at hvalid
            simp only at hvalid
            split_ifs at hvalid with hfits hnonce
            by_contra hneg
            have hsign : (45 : ℕ) ∈ decimalInt z := by
              rw [decimalInt, if_pos (not_le.mp hneg)]
              exact List.mem_cons_self
            simp only [Crypto.isNonce, Bool.and_eq_true, List.all_eq_true] at hnonce
            exact absurd (hnonce.2 45 hsign) (by decide)
          rw [Int.toNat_of_nonneg hnonneg]
          exact ⟨valid, hvalid⟩

theorem assemble_ok {status : DeliveryStatus} {roomSha256 did text textSha256 signature : PyStr}
    {input nonce : ℕ} {reply : Option ℕ} {record : DeliveryRecord}
    (h : assemble status roomSha256 input did nonce text textSha256 signature reply = .ok record) :
    record.nonce = nonce ∧ record.signature = signature := by
  unfold assemble at h
  split_ifs at h
  cases h
  exact ⟨rfl, rfl⟩

variable [Platform]

/-- A record that was loaded has a nonce that can be sent. -/
theorem validNonce_of_fromPayload {payload : Json} {record : DeliveryRecord}
    (h : fromPayload payload = .ok record) :
    ∃ valid, Crypto.validateNonce (.int record.nonce) = .ok valid := by
  cases payload with
  | obj fields =>
      simp only [fromPayload, asObj] at h
      split_ifs at h with hschema hkeys
      obtain ⟨status, -, h⟩ := PyResult.bind_ok h
      obtain ⟨roomSha256, -, h⟩ := PyResult.bind_ok h
      obtain ⟨textSha256, -, h⟩ := PyResult.bind_ok h
      obtain ⟨text, -, h⟩ := PyResult.bind_ok h
      obtain ⟨digest, -, h⟩ := PyResult.bind_ok h
      split_ifs at h with hdigest
      obtain ⟨reply, -, h⟩ := PyResult.bind_ok h
      obtain ⟨input, -, h⟩ := PyResult.bind_ok h
      obtain ⟨did, -, h⟩ := PyResult.bind_ok h
      obtain ⟨nonce, hnonce, h⟩ := PyResult.bind_ok h
      obtain ⟨signature, -, h⟩ := PyResult.bind_ok h
      rw [(assemble_ok h).1]
      exact nonceAsInt_valid hnonce
  | _ => cases h

theorem verify_of_verifyForRoom {record : DeliveryRecord} {room : PyStr}
    (h : record.verifyForRoom room = .ok ()) :
    Crypto.validateRoom room = .ok room ∧
      ∃ canonical, Crypto.verifyDetachedSignature record.did canonical record.signature = true := by
  obtain ⟨valid, hroom, hrest⟩ := PyResult.bind_ok h
  have hvalid := TechnocoreClient.validateRoom_ok hroom
  obtain ⟨digest, -, hrest⟩ := PyResult.bind_ok hrest
  split_ifs at hrest with hdigest
  obtain ⟨canonical, -, hrest⟩ := PyResult.bind_ok hrest
  split_ifs at hrest with hverify
  exact ⟨hvalid ▸ hroom, canonical, hverify⟩

omit [Platform] in
/-- Nothing after the signature check objects to the signature. -/
theorem sayRequest_raises {client : TechnocoreClient} {room : PyStr} {envelope : Envelope}
    {inReplyTo : ℕ} (hcanonical : Crypto.isCanonicalSignature envelope.signature = true) :
    Raises (· ≠ notCanonical) (client.sayRequest room envelope inReplyTo) := by
  have hquote : ∀ value, Raises (· ≠ notCanonical) (TechnocoreClient.quote value) := by
    intro value
    unfold TechnocoreClient.quote
    split
    · exact raises_ok _
    · rw [raises_error]
      decide
  have hroom : Raises (· ≠ notCanonical) (Crypto.validateRoom room) := by
    refine raises_ite (raises_ok _) ?_
    rw [raises_error]
    decide
  have hdid : Raises (· ≠ notCanonical) (Crypto.validateDid envelope.did) := by
    refine raises_ite (raises_ok _) ?_
    rw [raises_error]
    decide
  have hnonce : Raises (· ≠ notCanonical) (Crypto.validateNonce (.int envelope.nonce)) := by
    refine raises_ite (raises_ite (raises_ok _) ?_) ?_
    · rw [raises_error]
      decide
    · rw [raises_error]
      decide
  refine raises_bind hroom fun _ _ => raises_bind hdid fun _ _ => raises_bind hnonce fun _ _ => ?_
  rw [if_neg (not_not.mpr hcanonical)]
  refine raises_bind (hquote _) fun _ _ => raises_bind (hquote _) fun _ _ =>
    raises_bind (hquote _) fun _ _ => raises_bind (hquote _) fun _ _ =>
    raises_bind (hquote _) fun _ _ => ?_
  dsimp only
  split
  · rw [raises_error]
    decide
  · refine raises_ite ?_ (raises_ok _)
    rw [raises_error]
    decide

/-- **A record is resent** without an objection to its signature exactly when that is
canonical. -/
theorem resent_iff {payload : Json} {record : DeliveryRecord} {room : PyStr}
    {client : TechnocoreClient} {inReplyTo : ℕ} (hload : fromPayload payload = .ok record)
    (hverify : record.verifyForRoom room = .ok ()) :
    client.sayRequest room record.envelope inReplyTo ≠ .error notCanonical ↔
      Crypto.isCanonicalSignature record.signature = true := by
  obtain ⟨valid, hnonce⟩ := validNonce_of_fromPayload hload
  obtain ⟨hroom, canonical, hsignature⟩ := verify_of_verifyForRoom hverify
  have hdid : Crypto.validateDid record.did = .ok record.did := by
    rw [Crypto.validateDid, if_pos (Crypto.isDid_of_verify hsignature)]
  constructor
  · intro hne
    by_contra hnot
    refine hne ?_
    rw [TechnocoreClient.sayRequest, hroom]
    show (Crypto.validateDid record.did >>= _) = _
    rw [hdid]
    show (Crypto.validateNonce (.int record.nonce) >>= _) = _
    rw [hnonce]
    exact if_pos hnot
  · intro hcanonical herror
    exact sayRequest_raises hcanonical notCanonical herror rfl

end DeliveryRecord

namespace Crypto

variable [Platform]

/-- **An accepted signature text is canonical exactly when its last character carries no dropped
bits**: then it is the encoding of its 64 octets and the only such text for them, and a delivery
record with it can be resent. -/
theorem canonical_iff :
    (∀ {did s : PyStr} {payload : Bytes}, verifyDetachedSignature did payload s = true →
      ((base64UrlEncode (base64UrlDecode s) = s ∧ (base64UrlDecode s).length = 64) ↔
        isCanonicalSignature s = true)) ∧
    (∀ {did s s' : PyStr} {payload : Bytes}, verifyDetachedSignature did payload s = true →
      verifyDetachedSignature did payload s' = true → isCanonicalSignature s = true →
      isCanonicalSignature s' = true → base64UrlDecode s = base64UrlDecode s' → s = s') ∧
    (∀ {payload : Json} {record : DeliveryRecord} {room : PyStr} {client : TechnocoreClient}
      {inReplyTo : ℕ}, DeliveryRecord.fromPayload payload = .ok record →
      record.verifyForRoom room = .ok () →
      (client.sayRequest room record.envelope inReplyTo ≠ .error DeliveryRecord.notCanonical ↔
        isCanonicalSignature record.signature = true)) := by
  refine ⟨fun h => encoding_iff (isSignature_of_verify h), ?_, DeliveryRecord.resent_iff⟩
  intro did s s' payload h h' hcanonical hcanonical' hsame
  calc s = base64UrlEncode (base64UrlDecode s) :=
        ((encoding_iff (isSignature_of_verify h)).mpr hcanonical).1.symm
    _ = base64UrlEncode (base64UrlDecode s') := by rw [hsame]
    _ = s' := ((encoding_iff (isSignature_of_verify h')).mpr hcanonical').1

end Crypto

/-! ## A second text of one signature -/

namespace Sample

/-- The payload that is signed. -/
def signedOctets : Bytes := toAscii (py "payload")

/-- The signature as `sign_detached` writes it. -/
def signatureText : PyStr := Crypto.base64UrlEncode (Platform.sign key signedOctets)

/-- The same signature with another last character. -/
def looseText : PyStr := signatureText.dropLast ++ [signatureText.getLastD 0 + 1]

/-- **Both texts are accepted**, and one of them is not what its octets encode to. -/
theorem loose_accepted : Crypto.verifyDetachedSignature did signedOctets signatureText = true ∧
    Crypto.verifyDetachedSignature did signedOctets looseText = true ∧
    Crypto.base64UrlDecode looseText = Crypto.base64UrlDecode signatureText ∧
    Crypto.base64UrlEncode (Crypto.base64UrlDecode looseText) ≠ looseText := by
  decide +kernel

theorem canonical_iff_signatureText :
    (Crypto.base64UrlEncode (Crypto.base64UrlDecode signatureText) = signatureText ∧
        (Crypto.base64UrlDecode signatureText).length = 64) ↔
      Crypto.isCanonicalSignature signatureText = true := by
  have haccepted : Crypto.verifyDetachedSignature did signedOctets signatureText = true := by
    decide +kernel
  exact Crypto.canonical_iff.1 haccepted

end Sample
