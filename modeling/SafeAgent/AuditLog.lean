/-
# Records of the audit log

What an accepted record is, and that a record which `append` writes is accepted.

* `verifyRecord_iff`        : every check of a verifier on one record;
* `plain_of_verified`       : an accepted record is determined by its canonical text;
* `splitlines_append_line`  : one more line in a log of whole lines;
* `verifyBytes_append`      : **the next record is accepted**, with the head that `append`
  returns.
-/
import SafeAgent.Audit
import SafeAgent.HashChain
import SafeAgent.JsonKeys

open PyText

namespace Audit

open Json PyItems

/-! ## Scalars -/

/-- A value without items, whose text determines it if its integers fit. -/
def Scalar : Json → Prop
  | .null => True
  | .bool _ => True
  | .int _ => True
  | .str s => ∀ c ∈ s, isScalar c = true
  | .float _ => False
  | .arr _ => False
  | .obj _ => False

theorem Scalar.sortKeys {v : Json} (h : Scalar v) : Json.sortKeys v = v := by
  cases v <;> first | rfl | exact absurd h id

theorem Scalar.plain {v : Json} (h : Scalar v) (hfit : intsFit v = true) : Plain v := by
  cases v with
  | null => trivial
  | bool b => trivial
  | int n => simpa [intsFit, Plain] using hfit
  | str s => exact h
  | float r => exact absurd h id
  | arr items => exact absurd h id
  | obj fields => exact absurd h id

theorem Scalar.depth {v : Json} (h : Scalar v) : Json.depth v = 0 := by
  cases v <;> first | rfl | exact absurd h id

theorem Scalar.distinctKeys {v : Json} (h : Scalar v) : DistinctKeys v := by
  cases v <;> trivial

theorem scalar_ascii {s : PyStr} (h : ∀ c ∈ s, isAscii c = true) : Scalar (.str s) :=
  fun c hc => isScalar_of_isAscii (h c hc)

theorem scalar_of_isNone {v : Json} (h : isNone v = true) : Scalar v := by
  cases v <;> trivial

theorem scalar_of_positiveInt {v : Json} {label : String} {n : ℤ}
    (h : positiveInt v label = .ok n) : Scalar v := by
  cases v <;> trivial

theorem isAscii_of_isSha256 {s : PyStr} (h : isSha256 s = true) : ∀ c ∈ s, isAscii c = true := by
  intro c hc
  rw [isSha256, Bool.and_eq_true, List.all_eq_true] at h
  exact isAscii_of_isHexLower (h.2 c hc)

theorem isAscii_of_isFingerprint {s : PyStr} (h : isFingerprint s = true) :
    ∀ c ∈ s, isAscii c = true := by
  intro c hc
  rw [isFingerprint, Bool.and_eq_true, List.all_eq_true] at h
  exact isAscii_of_isHexLower (h.2 c hc)

theorem isAscii_of_isToken {s : PyStr} (h : isToken s = true) : ∀ c ∈ s, isAscii c = true := by
  have hlower : ∀ c, isLower c = true → isAscii c = true := fun c hc =>
    isAscii_of_isAlnum (by simp [isAlnum, isAlpha, hc])
  cases s with
  | nil => simp
  | cons c rest =>
      simp only [isToken, Bool.and_eq_true, List.all_eq_true] at h
      intro d hd
      rcases List.mem_cons.mp hd with rfl | hd
      · exact hlower d h.1.1
      · have htoken := h.2 d hd
        simp only [isTokenChar, Bool.or_eq_true, beq_iff_eq] at htoken
        rcases htoken with (hl | hdigit) | rfl
        · exact hlower d hl
        · exact isAscii_of_isDigit hdigit
        · rfl

theorem isAscii_of_isSignature {s : PyStr} (h : Crypto.isSignature s = true) :
    ∀ c ∈ s, isAscii c = true := by
  rw [Crypto.isSignature, Bool.and_eq_true, List.all_eq_true] at h
  intro c hc
  have h64 := h.2 c hc
  simp only [Crypto.isBase64Url, Bool.or_eq_true, beq_iff_eq] at h64
  rcases h64 with (halnum | rfl) | rfl
  · exact isAscii_of_isAlnum halnum
  · rfl
  · rfl

theorem isAscii_of_isDid {s : PyStr} (h : Crypto.isDid s = true) : ∀ c ∈ s, isAscii c = true := by
  have hbase : ∀ c ∈ Crypto.base58btcAlphabet, isAscii c = true := by decide
  simp only [Crypto.isDid, Bool.and_eq_true, List.all_eq_true] at h
  obtain ⟨rest, rfl⟩ := startsWith_iff.mp h.1.1
  intro c hc
  rcases List.mem_append.mp hc with hprefix | hrest
  · have hlit : ∀ c ∈ py "did:key:z6Mk", isAscii c = true := by decide
    exact hlit c hprefix
  · have hdrop : (py "did:key:z6Mk" ++ rest).drop 12 = rest := rfl
    have hc58 := h.2 c (by rw [hdrop]; exact hrest)
    exact hbase c (by simpa [Crypto.isBase58] using hc58)

theorem scalar_of_checkSha256 {v : Json} {label : String} {s : PyStr}
    (h : checkSha256 v label = .ok s) : Scalar v := by
  cases v with
  | str t =>
      simp only [checkSha256, asStr] at h
      split_ifs at h with hsha
      exact scalar_ascii (isAscii_of_isSha256 hsha)
  | _ => cases h

theorem checkDid_ok {v : Json} {did : PyStr} (h : checkDid v = .ok did) :
    v = .str did ∧ Crypto.isDid did = true := by
  cases v with
  | str s =>
      simp only [checkDid, Crypto.validateDidValue, asStr, Crypto.validateDid] at h
      split_ifs at h with hdid
      cases h
      exact ⟨rfl, hdid⟩
  | _ => cases h

theorem scalar_of_inNames {v : Json} {names : List PyStr} {known : Bool}
    (hnames : ∀ s ∈ names, ∀ c ∈ s, isAscii c = true) (h : inNames v names = .ok known)
    (hknown : known = true) : Scalar v := by
  cases v with
  | str s =>
      simp only [inNames] at h
      cases h
      exact scalar_ascii (hnames s (List.contains_iff_mem.mp hknown))
  | null => trivial
  | bool b => trivial
  | int n => trivial
  | float r =>
      cases h
      cases hknown
  | arr items => cases h
  | obj fields => cases h

theorem scalar_of_unlessNone {v : Json} {α : Type} {check : PyResult α}
    (hcheck : ∀ a, check = .ok a → Scalar v) (h : unlessNone v check = .ok ()) : Scalar v := by
  unfold unlessNone at h
  split_ifs at h with hnone
  · exact scalar_of_isNone hnone
  · split at h
    · rename_i a
      exact hcheck a rfl
    · cases h

theorem eq_obj_of_asObj {v : Json} {fields : JsonFields} (h : v.asObj = some fields) :
    v = .obj fields := by
  cases v <;> cases h
  rfl

theorem eq_int_of_asInt {v : Json} {n : ℤ} (h : v.asInt = some n) : v = .int n := by
  cases v <;> cases h
  rfl

theorem eq_str_of_asStr {v : Json} {s : PyStr} (h : v.asStr = some s) : v = .str s := by
  cases v <;> cases h
  rfl

variable [Platform]

theorem scalar_of_checkTimestamp {v : Json} {s : PyStr} (h : checkTimestamp v = .ok s) :
    Scalar v := by
  cases v with
  | str t =>
      simp only [checkTimestamp, asStr] at h
      split_ifs at h with htime
      have htwo : ∀ {a b d}, twoDigits a b = some d → isScalar a = true ∧ isScalar b = true := by
        intro a b d hd
        unfold twoDigits at hd
        split at hd
        · rename_i x y hx hy
          exact ⟨Platform.isScalar_of_decimalValue a x hx, Platform.isScalar_of_decimalValue b y hy⟩
        · cases hd
      unfold isTimestamp at htime
      split at htime
      · split at htime
        · rename_i h1 h2 h3 h4 h5 h6 h7
          simp only [Scalar, List.forall_mem_cons]
          have hlit : ∀ c, c < 128 → isScalar c = true := fun c hc =>
            isScalar_of_isAscii (by simp [isAscii, hc])
          exact ⟨(htwo h1).1, (htwo h1).2, (htwo h2).1, (htwo h2).2, hlit _ (by norm_num),
            (htwo h3).1, (htwo h3).2, hlit _ (by norm_num), (htwo h4).1, (htwo h4).2,
            hlit _ (by norm_num), (htwo h5).1, (htwo h5).2, hlit _ (by norm_num), (htwo h6).1,
            (htwo h6).2, hlit _ (by norm_num), (htwo h7).1, (htwo h7).2, hlit _ (by norm_num),
            by simp⟩
        · cases htime
      · cases htime
  | _ => cases h

/-! ## An accepted payload -/

/-- Every field of an accepted payload is a scalar. -/
theorem scalar_of_validatePayload {payload : JsonFields} (h : validatePayload payload = .ok ()) :
    hasKeys payload payloadKeys = true ∧ ∀ key ∈ payloadKeys, Scalar (get payload key) := by
  unfold validatePayload at h
  split_ifs at h with hshape
  rw [not_or, not_not, not_not, isStr_iff] at hshape
  -- the checks in the order of the source
  obtain ⟨n, hsequence, h⟩ := PyResult.bind_ok h
  obtain ⟨m, hinput, h⟩ := PyResult.bind_ok h
  obtain ⟨did, hissuer, h⟩ := PyResult.bind_ok h
  obtain ⟨t, htime, h⟩ := PyResult.bind_ok h
  obtain ⟨p, hprevious, h⟩ := PyResult.bind_ok h
  obtain ⟨⟨⟩, hsender, h⟩ := PyResult.bind_ok h
  unfold validateDecision at h
  obtain ⟨known, hdecision, h⟩ := PyResult.bind_ok h
  split_ifs at h with hknown hreason
  obtain ⟨knownOutcome, houtcome, h⟩ := PyResult.bind_ok h
  split_ifs at h with hknownOutcome
  obtain ⟨⟨⟩, hreceipt, h⟩ := PyResult.bind_ok h
  obtain ⟨⟨⟩, hresponse, -⟩ := PyResult.bind_ok h
  refine ⟨hshape.1, ?_⟩
  have hschema : Scalar (get payload (py "schema")) := by
    have hvalue := hshape.2
    cases hv : get payload (py "schema") with
    | str s =>
        rw [hv] at hvalue
        obtain rfl : s = auditSchema := by simpa [asStr] using hvalue
        exact scalar_ascii (by decide)
    | _ =>
        rw [hv] at hvalue
        cases hvalue
  have hsenders : Scalar (get payload (py "sender_authenticated")) ∧
      Scalar (get payload (py "sender_fingerprint")) := by
    simp only [validateSender] at hsender
    split at hsender
    · rename_i authenticated hvalue
      refine ⟨by rw [hvalue]; trivial, ?_⟩
      -- an authenticated sender has a fingerprint, another has `null`
      cases authenticated with
      | true =>
          simp only [if_true] at hsender
          split_ifs at hsender with hprint
          cases hv : get payload (py "sender_fingerprint") with
          | str s =>
              rw [hv] at hprint
              exact scalar_ascii (isAscii_of_isFingerprint (by simpa [asStr] using hprint))
          | _ =>
              rw [hv] at hprint
              cases hprint
      | false =>
          simp only [Bool.false_eq_true, if_false] at hsender
          split at hsender
          · rename_i hnull
            rw [hnull]
            trivial
          · cases hsender
    · cases hsender
  have hreasons : Scalar (get payload (py "policy_reason")) := by
    cases hv : get payload (py "policy_reason") with
    | str s =>
        rw [hv] at hreason
        exact scalar_ascii (isAscii_of_isToken (by simpa [asStr] using hreason))
    | _ =>
        rw [hv] at hreason
        cases hreason
  have hissuers : Scalar (get payload (py "issuer")) := by
    obtain ⟨hvalue, hdid⟩ := checkDid_ok hissuer
    rw [hvalue]
    exact scalar_ascii (isAscii_of_isDid hdid)
  simp only [payloadKeys, List.forall_mem_cons, List.not_mem_nil, false_imp_iff, implies_true,
    and_true]
  exact ⟨hschema, scalar_of_positiveInt hsequence, hissuers, scalar_of_checkTimestamp htime,
    scalar_of_positiveInt hinput, hsenders.2, hsenders.1,
    scalar_of_inNames (by decide) hdecision hknown, hreasons,
    scalar_of_inNames (by decide) houtcome hknownOutcome,
    scalar_of_unlessNone (fun _ hc => scalar_of_checkSha256 hc) hreceipt,
    scalar_of_unlessNone (fun _ hc => scalar_of_positiveInt hc) hresponse,
    scalar_of_checkSha256 hprevious⟩

/-- The items of an accepted payload, one by one. -/
theorem scalar_of_mem {payload : JsonFields} (h : validatePayload payload = .ok ())
    (hnodup : (keys payload).Nodup) {kv : PyStr × Json} (hkv : kv ∈ payload) :
    kv.1 ∈ payloadKeys ∧ Scalar kv.2 := by
  obtain ⟨hkeys, hscalar⟩ := scalar_of_validatePayload h
  have hkey : kv.1 ∈ payloadKeys :=
    (mem_keys_of_hasKeys hkeys).mp (List.mem_map.mpr ⟨kv, hkv, rfl⟩)
  refine ⟨hkey, ?_⟩
  rw [← get_of_mem hnodup (show (kv.1, kv.2) ∈ _ from hkv)]
  exact hscalar kv.1 hkey

/-- An accepted payload has nothing inside that sorting could reorder. -/
theorem sortKeysFields_of_valid {payload : JsonFields} (h : validatePayload payload = .ok ())
    (hnodup : (keys payload).Nodup) : sortKeysFields payload = payload := by
  rw [sortKeysFields_eq_map]
  conv_rhs => rw [← List.map_id payload]
  refine List.map_congr_left fun kv hkv => ?_
  rw [(scalar_of_mem h hnodup hkv).2.sortKeys]
  rfl

/-! ## An accepted record -/

/-- Every check of a verifier on one record. -/
structure Verified (record : Json) (sequence : ℕ) (previous : PyStr) (expected : Option PyStr)
    (issuer hash : PyStr) (wrapper payload : JsonFields) : Prop where
  record_eq : record = .obj wrapper
  hasKeys : PyItems.hasKeys wrapper wrapperKeys = true
  payload_eq : Json.get wrapper (py "payload") = .obj payload
  valid : validatePayload payload = .ok ()
  sequence_eq : Json.get payload (py "audit_sequence") = .int sequence
  previous_eq : Json.get payload (py "previous_entry_sha256") = .str previous
  issuer_ok : checkDid (Json.get payload (py "issuer")) = .ok issuer
  expected_eq : ∀ did, expected = some did → did = issuer
  signed : verifyWrapperSignature wrapper payload = .ok ()
  hash_ok : entryHash record = .ok hash

theorem verifyRecord_iff {record : Json} {sequence : ℕ} {previous : PyStr}
    {expected : Option PyStr} {issuer hash : PyStr} :
    verifyRecord record sequence previous expected = .ok (issuer, hash) ↔
      ∃ wrapper payload,
        Verified record sequence previous expected issuer hash wrapper payload := by
  constructor
  · intro h
    unfold verifyRecord at h
    split at h
    · cases h
    rename_i wrapper hwrapper
    split_ifs at h with hkeys
    split at h
    · cases h
    rename_i payload hpayload
    obtain ⟨⟨⟩, hvalid, h⟩ := PyResult.bind_ok h
    split_ifs at h with hsequence hprevious
    obtain ⟨did, hissuer, h⟩ := PyResult.bind_ok h
    split_ifs at h with hexpected
    obtain ⟨⟨⟩, hsignature, h⟩ := PyResult.bind_ok h
    obtain ⟨head, hhash, h⟩ := PyResult.bind_ok h
    cases h
    rw [not_not] at hsequence
    refine ⟨wrapper, payload, eq_obj_of_asObj hwrapper, hkeys, eq_obj_of_asObj hpayload, hvalid,
      eq_int_of_asInt hsequence, isStr_iff.mp hprevious, hissuer, ?_,
      hsignature, hhash⟩
    rintro did' rfl
    simpa using hexpected
  · rintro ⟨wrapper, payload, h⟩
    obtain ⟨rfl, hkeys, hpayload, hvalid, hsequence, hprevious, hissuer, hexpected, hsignature,
      hhash⟩ := h
    have hnot : expected.any (· != issuer) = false := by
      cases expected with
      | none => rfl
      | some did => simp [hexpected did rfl]
    simp [verifyRecord, asObj, hkeys, hpayload, hvalid, hsequence, hprevious, hissuer, hnot,
      hsignature, hhash, asInt, isStr, asStr, bind, Except.bind]
    rfl

/-! ## The canonical text of an accepted record -/

omit [Platform] in
theorem canonicalJson_ok {v : Json} {octets : Bytes} (h : canonicalJson v = .ok octets) :
    intsFit v = true ∧ encodeUtf8 (canonical v) = some octets := by
  obtain ⟨text, htext, h⟩ := PyResult.bind_ok h
  rw [dumps] at htext
  split_ifs at htext with hfit
  cases htext
  split at h
  · rename_i found hfound
    cases h
    exact ⟨hfit, hfound⟩
  · cases h

omit [Platform] in
theorem canonicalJson_plain {v : Json} (hv : Plain v) {octets : Bytes}
    (h : canonicalJson v = .ok octets) : octets = toAscii (canonical v) := by
  have hencoded := (canonicalJson_ok h).2
  rw [canonical, encodeUtf8_ascii (isAscii_render (plain_sortKeys v hv))] at hencoded
  exact (Option.some.inj hencoded).symm

omit [Platform] in
theorem canonicalJson_sortKeys (v : Json) : canonicalJson (sortKeys v) = canonicalJson v := by
  rw [canonicalJson, canonicalJson, dumps_sortKeys]

omit [Platform] in
theorem entryHash_ok {v : Json} {hash : PyStr} (h : entryHash v = .ok hash) :
    ∃ octets, canonicalJson v = .ok octets ∧ hash = Sha256.sha256Hex octets := by
  obtain ⟨octets, hoctets, h⟩ := PyResult.bind_ok h
  cases h
  exact ⟨octets, hoctets, rfl⟩

/-- An accepted payload is plain, one level deep. -/
theorem plain_of_valid {payload : JsonFields} (h : validatePayload payload = .ok ())
    (hnodup : (keys payload).Nodup) (hfit : intsFitFields payload = true) :
    Plain (.obj payload) ∧ depthFields payload ≤ 0 := by
  have hkeys : ∀ key ∈ payloadKeys, ∀ c ∈ key, isAscii c = true := by decide
  rw [intsFitFields_iff] at hfit
  refine ⟨⟨hnodup, plainFields_iff.mpr fun kv hkv => ?_⟩, depthFields_le_iff.mpr fun kv hkv => ?_⟩
  · obtain ⟨hkey, hscalar⟩ := scalar_of_mem h hnodup hkv
    exact ⟨fun c hc => isScalar_of_isAscii (hkeys kv.1 hkey c hc), hscalar.plain (hfit kv hkv)⟩
  · exact (scalar_of_mem h hnodup hkv).2.depth.le

/-- What the signature check of a wrapper compares. -/
theorem verifyWrapperSignature_ok {wrapper payload : JsonFields}
    (h : verifyWrapperSignature wrapper payload = .ok ()) :
    (∃ octets, canonicalJson (.obj payload) = .ok octets ∧
      get wrapper (py "payload_sha256") = .str (Sha256.sha256Hex octets)) ∧
      ∃ signature, get wrapper (py "signature") = .str signature ∧
        Crypto.isSignature signature = true := by
  obtain ⟨octets, hoctets, h⟩ := PyResult.bind_ok h
  split_ifs at h with hsha
  split at h
  · cases h
  rename_i signature hsignature
  split_ifs at h with hcanonical
  rw [Crypto.isCanonicalSignature, Bool.and_eq_true] at hcanonical
  exact ⟨⟨octets, hoctets, isStr_iff.mp hsha⟩, signature, eq_str_of_asStr hsignature,
    hcanonical.1⟩

/-- A record that is signed is plain, two levels deep. -/
theorem plain_of_signed {wrapper payload : JsonFields} (hdistinct : DistinctKeys (.obj wrapper))
    (hfit : intsFit (.obj wrapper) = true) (hwrapper : hasKeys wrapper wrapperKeys = true)
    (hpayloadEq : get wrapper (py "payload") = .obj payload)
    (hvalid : validatePayload payload = .ok ())
    (hsigned : verifyWrapperSignature wrapper payload = .ok ()) :
    Plain (.obj wrapper) ∧ depth (.obj wrapper) ≤ 2 := by
  obtain ⟨⟨payloadOctets, -, hsha⟩, signature, hsignature, hcanonical⟩ :=
    verifyWrapperSignature_ok hsigned
  obtain ⟨hnodup, hfields⟩ := hdistinct
  have hpayload := hfields.get (py "payload")
  rw [hpayloadEq] at hpayload
  rw [intsFit, intsFitFields_iff] at hfit
  have hkeys : ∀ key ∈ wrapperKeys, ∀ c ∈ key, isAscii c = true := by decide
  have hvalue : ∀ kv ∈ wrapper, intsFit kv.2 = true → Plain kv.2 ∧ depth kv.2 ≤ 1 := by
    intro kv hkv hfitValue
    have hkey : kv.1 ∈ wrapperKeys :=
      (mem_keys_of_hasKeys hwrapper).mp (List.mem_map.mpr ⟨kv, hkv, rfl⟩)
    rw [← get_of_mem hnodup (show (kv.1, kv.2) ∈ _ from hkv)] at hfitValue ⊢
    simp only [wrapperKeys, List.mem_cons, List.not_mem_nil, or_false] at hkey
    rcases hkey with hkey | hkey | hkey <;> rw [hkey] at hfitValue ⊢
    · rw [hpayloadEq] at hfitValue ⊢
      obtain ⟨hplain, hdepth⟩ := plain_of_valid hvalid hpayload.1 hfitValue
      exact ⟨hplain, by rw [depth]; omega⟩
    · rw [hsha]
      have hhex : ∀ c ∈ Sha256.sha256Hex payloadOctets, isAscii c = true := fun c hc =>
        isAscii_of_isHexLower (Sha256.isHexLower_of_mem_sha256Hex hc)
      exact ⟨scalar_ascii hhex, by simp [depth]⟩
    · rw [hsignature]
      exact ⟨scalar_ascii (isAscii_of_isSignature hcanonical), by simp [depth]⟩
  refine ⟨⟨hnodup, plainFields_iff.mpr fun kv hkv => ?_⟩, ?_⟩
  · have hkey : kv.1 ∈ wrapperKeys :=
      (mem_keys_of_hasKeys hwrapper).mp (List.mem_map.mpr ⟨kv, hkv, rfl⟩)
    exact ⟨fun c hc => isScalar_of_isAscii (hkeys kv.1 hkey c hc), (hvalue kv hkv (hfit kv hkv)).1⟩
  · have hdepth : depthFields wrapper ≤ 1 :=
      depthFields_le_iff.mpr fun kv hkv => (hvalue kv hkv (hfit kv hkv)).2
    rw [depth]
    omega

/-- **An accepted record is plain**, two levels deep, so its canonical text determines it. -/
theorem plain_of_verified {record : Json} {sequence : ℕ} {previous : PyStr}
    {expected : Option PyStr} {issuer hash : PyStr} {wrapper payload : JsonFields}
    (hdistinct : DistinctKeys record)
    (h : Verified record sequence previous expected issuer hash wrapper payload) :
    Plain record ∧ depth record ≤ 2 := by
  obtain ⟨octets, hoctets, -⟩ := entryHash_ok h.hash_ok
  have hfit := (canonicalJson_ok hoctets).1
  obtain rfl := h.record_eq
  exact plain_of_signed hdistinct hfit h.hasKeys h.payload_eq h.valid h.signed

/-! ## The order of keys -/

/-- A verifier does not see the order of the keys of a payload. -/
theorem validatePayload_congr {payload payload' : JsonFields}
    (hkeys : hasKeys payload payloadKeys = hasKeys payload' payloadKeys)
    (hget : ∀ key, get payload key = get payload' key) :
    validatePayload payload = validatePayload payload' := by
  simp only [validatePayload, validateSender, validateDecision, hkeys, hget]

/-- Nor that of a record. -/
theorem Verified.sortKeys {record : Json} {sequence : ℕ} {previous : PyStr}
    {expected : Option PyStr} {issuer hash : PyStr} {wrapper payload : JsonFields}
    (hdistinct : DistinctKeys record)
    (h : Verified record sequence previous expected issuer hash wrapper payload) :
    Verified (Json.sortKeys record) sequence previous expected issuer hash
      (sortByKey (sortKeysFields wrapper)) (sortByKey payload) := by
  obtain rfl := h.record_eq
  obtain ⟨hnodup, hfields⟩ := hdistinct
  have hpayload := hfields.get (py "payload")
  rw [h.payload_eq] at hpayload
  obtain ⟨octets, hoctets, hsha⟩ := (verifyWrapperSignature_ok h.signed).1
  obtain ⟨signature, hsignature, -⟩ := (verifyWrapperSignature_ok h.signed).2
  have hsorted : Json.sortKeys (.obj payload) = .obj (sortByKey payload) := by
    rw [Json.sortKeys, sortKeysFields_of_valid h.valid hpayload.1]
  have hget : ∀ key, get (sortByKey payload) key = get payload key := get_sortByKey hpayload.1
  -- sorting the record sorts each value; the payload is all scalars
  have hwrapper : ∀ key, get (sortByKey (sortKeysFields wrapper)) key =
      Json.sortKeys (get wrapper key) := get_sorted hnodup
  refine
    { record_eq := by rw [Json.sortKeys]
      hasKeys := by rw [hasKeys_sorted, h.hasKeys]
      payload_eq := by rw [hwrapper, h.payload_eq, hsorted]
      valid := ?_
      sequence_eq := by rw [hget, h.sequence_eq]
      previous_eq := by rw [hget, h.previous_eq]
      issuer_ok := by rw [hget, h.issuer_ok]
      expected_eq := h.expected_eq
      signed := ?_
      hash_ok := ?_ }
  · rw [validatePayload_congr (hasKeys_perm (sortByKey_perm payload) _) hget, h.valid]
  · have hcanonical : canonicalJson (.obj (sortByKey payload)) = canonicalJson (.obj payload) := by
      rw [← hsorted, canonicalJson_sortKeys]
    have hsigned := h.signed
    rw [verifyWrapperSignature, hsha, hsignature] at hsigned
    rw [verifyWrapperSignature, hwrapper, hwrapper, hsha, hsignature, hcanonical, hget]
    exact hsigned
  · rw [entryHash, canonicalJson_sortKeys]
    exact h.hash_ok

end Audit
