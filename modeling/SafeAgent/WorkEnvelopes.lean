/-
# Accepted work receipts

What `verify_work_receipt` has checked of an envelope that it accepts.

* `ValidWork`    : what the checks of a work payload establish;
* `SignedBy`     : a wrapper holds a payload, its hash, and a signature of the payload's signer;
* `Countersigns` : a wrapper countersigns the receipt with these hashes, in time;
* `Accepted`     : the receipt of an envelope, with its countersigners one after another.

`verifyAndDecode_ok` is the inversion of the verifier: every accepted envelope is `Accepted`.
-/
import SafeAgent.WorkReceipt

open PyText

namespace WorkReceipt

open Json PyItems Receipt

/-! ## Inversion of the single checks -/

theorem checkDid_ok {value : Json} {message : String} {did : PyStr}
    (h : checkDid value message = .ok did) : value = .str did ∧ Crypto.isDid did = true := by
  unfold checkDid Crypto.validateDidValue Crypto.validateDid at h
  cases value with
  | str s =>
      simp only [asStr] at h
      by_cases hdid : Crypto.isDid s = true
      · rw [if_pos hdid] at h
        cases h
        exact ⟨rfl, hdid⟩
      · rw [if_neg hdid] at h
        cases h
  | _ => cases h

theorem parseTimestamp_ok {value : Json} {label : String} {t : UtcTime}
    (h : parseTimestamp value label = .ok t) :
    ∃ s, value = .str s ∧ UtcTime.parseIso s = some t := by
  unfold parseTimestamp at h
  cases value with
  | str s =>
      simp only [asStr, Option.bind_some] at h
      cases hparse : UtcTime.parseIso s with
      | none =>
          rw [hparse] at h
          cases h
      | some t' =>
          rw [hparse] at h
          cases h
          exact ⟨s, rfl, hparse⟩
  | _ => cases h

theorem canonicalJson_ok {payload : JsonFields} {octets : Bytes}
    (h : canonicalJson payload = .ok octets) :
    intsFit (.obj payload) = true ∧ octets = toAscii (canonical (.obj payload)) := by
  unfold canonicalJson Receipt.canonicalJson dumps at h
  split_ifs at h with hfit
  · cases h
    exact ⟨hfit, rfl⟩
  · cases h

theorem requireSha256_ok {value : Json} {label : String} {hash : PyStr}
    (h : requireSha256 value label = .ok hash) : value = .str hash ∧ isSha256 hash = true := by
  unfold requireSha256 at h
  cases value with
  | str s =>
      simp only [asStr] at h
      by_cases hs : isSha256 s = true
      · rw [Option.filter_some, if_pos hs] at h
        cases h
        exact ⟨rfl, hs⟩
      · rw [Option.filter_some, if_neg hs] at h
        cases h
  | _ => cases h

theorem requireNonnegativeInt_ok {value : Json} {label : String} {maximum n : ℕ}
    (h : requireNonnegativeInt value label maximum = .ok n) :
    value = .int n ∧ n ≤ maximum := by
  unfold requireNonnegativeInt at h
  cases hfilter : (Protocol.asNat value).filter fun n => n ≤ maximum with
  | none =>
      rw [hfilter] at h
      cases h
  | some m =>
      rw [hfilter] at h
      cases h
      obtain ⟨hvalue, hle⟩ := Option.filter_eq_some_iff.mp hfilter
      exact ⟨Protocol.eq_int_of_asNat hvalue, of_decide_eq_true hle⟩

theorem validateRepository_ok {value : Json} {repository : PyStr}
    (h : validateRepository value = .ok repository) : value = .str repository := by
  unfold validateRepository at h
  cases value with
  | str s =>
      simp only [asStr] at h
      by_cases hcount : (s.count 47 == 1) = true
      · rw [Option.filter_some, if_pos hcount] at h
        simp only at h
        split_ifs at h
        cases h
        rfl
      · rw [Option.filter_some, if_neg hcount] at h
        cases h
  | _ => cases h

/-- What a payload that was checked is known to hold. -/
structure ValidWork (payload : JsonFields) : Prop where
  keys_eq : hasKeys payload workPayloadKeys = true
  schema : get payload (py "schema") = .str workReceiptSchema
  issuer : ∃ did, get payload (py "issuer") = .str did ∧ Crypto.isDid did = true
  repository : ∃ s, get payload (py "repository") = .str s ∧ validateRepository (.str s) = .ok s
  commit : ∃ s, get payload (py "commit") = .str s ∧ isSha s = true
  command : ∃ argv, validateCommand (get payload (py "command")) = .ok argv
  timeoutMs : ∃ n : ℕ, get payload (py "timeout_ms") = .int n ∧ 0 < n ∧ n ≤ 3600000
  result : validateResult (get payload (py "result")) (get payload (py "exit_code")) = .ok ()
  stdoutSha256 : ∃ s, get payload (py "stdout_sha256") = .str s ∧ isSha256 s = true
  stderrSha256 : ∃ s, get payload (py "stderr_sha256") = .str s ∧ isSha256 s = true
  stdoutBytes : ∃ n : ℕ, get payload (py "stdout_bytes") = .int n ∧ n ≤ maxOutputBytes
  stderrBytes : ∃ n : ℕ, get payload (py "stderr_bytes") = .int n ∧ n ≤ maxOutputBytes
  startedAt : ∃ s t, get payload (py "started_at") = .str s ∧ UtcTime.parseIso s = some t
  completedAt : ∃ s t, get payload (py "completed_at") = .str s ∧ UtcTime.parseIso s = some t
  durationMs : ∃ n : ℕ, get payload (py "duration_ms") = .int n ∧ n ≤ 3700000

theorem validateWorkPayload_ok {payload : JsonFields} (h : validateWorkPayload payload = .ok ()) :
    ValidWork payload := by
  unfold validateWorkPayload at h
  by_cases hkeys : hasKeys payload workPayloadKeys = true ∧
      (get payload (py "schema")).isStr workReceiptSchema = true
  case neg =>
    rw [not_and_or] at hkeys
    rw [if_pos hkeys] at h
    cases h
  have hnot : ¬(¬hasKeys payload workPayloadKeys = true ∨
      ¬(get payload (py "schema")).isStr workReceiptSchema = true) := by
    rw [not_or, not_not, not_not]
    exact hkeys
  rw [if_neg hnot] at h
  -- the checks in the order of the source; each leaves what the field holds
  obtain ⟨did, hdid, h⟩ := PyResult.bind_ok h
  obtain ⟨repository, hrepository, h⟩ := PyResult.bind_ok h
  by_cases hcommit : (get payload (py "commit")).asStr.any isSha = false
  case pos =>
    rw [if_pos hcommit] at h
    cases h
  rw [if_neg hcommit] at h
  obtain ⟨argv, hargv, h⟩ := PyResult.bind_ok h
  obtain ⟨timeoutMs, htimeout, h⟩ := PyResult.bind_ok h
  by_cases hzero : timeoutMs = 0
  case pos =>
    rw [if_pos hzero] at h
    cases h
  rw [if_neg hzero] at h
  obtain ⟨⟨⟩, hresult, h⟩ := PyResult.bind_ok h
  obtain ⟨stdoutHash, hstdoutHash, h⟩ := PyResult.bind_ok h
  obtain ⟨stderrHash, hstderrHash, h⟩ := PyResult.bind_ok h
  obtain ⟨stdoutBytes, hstdoutBytes, h⟩ := PyResult.bind_ok h
  obtain ⟨stderrBytes, hstderrBytes, h⟩ := PyResult.bind_ok h
  obtain ⟨⟨⟩, htimes, h⟩ := PyResult.bind_ok h
  obtain ⟨durationMs, hduration, -⟩ := PyResult.bind_ok h
  obtain ⟨started, hstarted, htimes⟩ := PyResult.bind_ok htimes
  obtain ⟨completed, hcompleted, -⟩ := PyResult.bind_ok htimes
  have hrepository' := validateRepository_ok hrepository
  have hsha : ∃ s, get payload (py "commit") = .str s ∧ isSha s = true := by
    cases hget : get payload (py "commit") with
    | str s =>
        rw [hget] at hcommit
        exact ⟨s, rfl, by simpa [asStr] using hcommit⟩
    | _ =>
        rw [hget] at hcommit
        exact absurd rfl hcommit
  obtain ⟨startText, hstart, hstartParse⟩ := parseTimestamp_ok hstarted
  obtain ⟨endText, hend, hendParse⟩ := parseTimestamp_ok hcompleted
  have htimeout' := requireNonnegativeInt_ok htimeout
  exact
    { keys_eq := hkeys.1
      schema := isStr_iff.mp hkeys.2
      issuer := ⟨did, checkDid_ok hdid⟩
      repository := ⟨repository, hrepository', hrepository' ▸ hrepository⟩
      commit := hsha
      command := ⟨argv, hargv⟩
      timeoutMs := ⟨timeoutMs, htimeout'.1, Nat.pos_of_ne_zero hzero, htimeout'.2⟩
      result := hresult
      stdoutSha256 := ⟨stdoutHash, requireSha256_ok hstdoutHash⟩
      stderrSha256 := ⟨stderrHash, requireSha256_ok hstderrHash⟩
      stdoutBytes := ⟨stdoutBytes, requireNonnegativeInt_ok hstdoutBytes⟩
      stderrBytes := ⟨stderrBytes, requireNonnegativeInt_ok hstderrBytes⟩
      startedAt := ⟨startText, started, hstart, hstartParse⟩
      completedAt := ⟨endText, completed, hend, hendParse⟩
      durationMs := ⟨durationMs, requireNonnegativeInt_ok hduration⟩ }

section Platform

variable [Platform]

/-- `signatureMatches` speaks of two strings. -/
theorem signatureMatches_iff {signer signature : Json} {canonical : Bytes} :
    signatureMatches signer canonical signature = true ↔
      ∃ did s, signer = .str did ∧ signature = .str s ∧
        Crypto.verifyDetachedSignature did canonical s = true := by
  unfold signatureMatches
  constructor
  · intro h
    cases signer with
    | str did =>
        cases signature with
        | str s => exact ⟨did, s, rfl, rfl, h⟩
        | _ => cases h
    | _ => cases h
  · rintro ⟨did, s, rfl, rfl, h⟩
    exact h

/-! ## Signed wrappers -/

/-- The wrapper `value` holds `payload` with its hash, and the signature of the DID that
`payload` names under `signerKey`. -/
structure SignedBy (value : Json) (signerKey : PyStr) (payload : JsonFields) (did hash : PyStr) :
    Prop where
  payload_eq : get (wrapperFields value) (py "payload") = .obj payload
  hash_eq : get (wrapperFields value) (py "payload_sha256") = .str hash
  signer_eq : get payload signerKey = .str did
  signed : ∃ canonical signature, canonicalJson payload = .ok canonical ∧
    hash = Sha256.sha256Hex canonical ∧
    get (wrapperFields value) (py "signature") = .str signature ∧
    Crypto.verifyDetachedSignature did canonical signature = true

/-- What makes up a wrapper that the verifier takes. -/
theorem verifySignedWrapper_eq_ok {value : Json} {signerKey : PyStr} {payload : JsonFields} :
    verifySignedWrapper value signerKey = .ok payload ↔
      ∃ wrapper canonical did signature, value = .obj wrapper ∧
        hasKeys wrapper signedWrapperKeys = true ∧ get wrapper (py "payload") = .obj payload ∧
        canonicalJson payload = .ok canonical ∧
        get wrapper (py "payload_sha256") = .str (Sha256.sha256Hex canonical) ∧
        get payload signerKey = .str did ∧ Crypto.isDid did = true ∧
        get wrapper (py "signature") = .str signature ∧
        Crypto.verifyDetachedSignature did canonical signature = true := by
  constructor
  · intro h
    cases value with
    | obj wrapper =>
        unfold verifySignedWrapper at h
        simp only [asObj] at h
        by_cases hkeys : hasKeys wrapper signedWrapperKeys = true
        · rw [Option.filter_some, if_pos hkeys] at h
          simp only at h
          cases hpayload : get wrapper (py "payload") with
          | obj fields =>
              simp only [hpayload] at h
              obtain ⟨canonical, hcanonical, h⟩ := PyResult.bind_ok h
              by_cases hhash : (get wrapper (py "payload_sha256")).isStr (Sha256.sha256Hex canonical)
              · rw [if_neg (not_not.mpr hhash)] at h
                obtain ⟨did, hdid, h⟩ := PyResult.bind_ok h
                split_ifs at h with hmatch
                cases h
                -- the signer that was checked is the one that the signature is under
                obtain ⟨did', signature, hsigner, hsignature, hverify⟩ :=
                  signatureMatches_iff.mp hmatch
                have hvalid := checkDid_ok hdid
                rw [hsigner, Json.str.injEq] at hvalid
                exact ⟨wrapper, canonical, did', signature, rfl, hkeys, hpayload, hcanonical,
                  isStr_iff.mp hhash, hsigner, hvalid.1 ▸ hvalid.2, hsignature, hverify⟩
              · rw [if_pos hhash] at h
                cases h
          | _ =>
              rw [hpayload] at h
              cases h
        · rw [Option.filter_some, if_neg hkeys] at h
          cases h
    | _ => cases h
  · rintro ⟨wrapper, canonical, did, signature, rfl, hkeys, hpayload, hcanonical, hhash, hsigner,
      hdid, hsignature, hverify⟩
    -- backwards, every check of the source passes
    have hcheck : checkDid (.str did) "signed work receipt contains an invalid DID" = .ok did := by
      simp only [checkDid, Crypto.validateDidValue, asStr, Crypto.validateDid, if_pos hdid]
    have hmatch : signatureMatches (.str did) canonical (.str signature) = true := hverify
    have hsame : (Json.str (Sha256.sha256Hex canonical)).isStr (Sha256.sha256Hex canonical) = true :=
      isStr_iff.mpr rfl
    unfold verifySignedWrapper
    simp only [asObj, Option.filter_some, if_pos hkeys, hpayload, hcanonical, hhash, hsigner,
      hsignature, bind, Except.bind, hsame, hcheck, hmatch, not_true_eq_false, if_false]

theorem verifySignedWrapper_ok {value : Json} {signerKey : PyStr} {payload : JsonFields}
    (h : verifySignedWrapper value signerKey = .ok payload) :
    ∃ did hash, SignedBy value signerKey payload did hash := by
  obtain ⟨wrapper, canonical, did, signature, rfl, -, hpayload, hcanonical, hhash, hsigner, -,
    hsignature, hverify⟩ := verifySignedWrapper_eq_ok.mp h
  exact ⟨did, _, hpayload, hhash, hsigner, canonical, signature, hcanonical, rfl, hsignature, hverify⟩

/-! ## Countersignatures -/

/-- The wrapper `item` is `verifier`'s countersignature of the execution `executionHash` in
the receipt `receiptHash`, dated no earlier than `completedAt`. -/
structure Countersigns (receiptHash executionHash : PyStr) (completedAt : UtcTime) (item : Json)
    (verifier : PyStr) : Prop where
  bound : ∃ payload hash, SignedBy item (py "verifier") payload verifier hash ∧
    get payload (py "schema") = .str workCountersignatureSchema ∧
    get payload (py "receipt_payload_sha256") = .str receiptHash ∧
    get payload (py "execution_sha256") = .str executionHash ∧
    ∃ text t, get payload (py "observed_at") = .str text ∧ UtcTime.parseIso text = some t ∧
      completedAt.stamp ≤ t.stamp

variable {issuer receiptHash executionHash : PyStr} {completedAt : UtcTime}

omit [Platform] in
theorem validateCountersignaturePayload_ok {payload : JsonFields}
    (h : validateCountersignaturePayload payload = .ok ()) :
    get payload (py "schema") = .str workCountersignatureSchema := by
  unfold validateCountersignaturePayload at h
  split_ifs at h with hschema
  simp only [not_or, not_not, isStr_iff] at hschema
  exact hschema.2

theorem checkCountersignature_ok {seen : List PyStr} {item : Json} {verifier : PyStr}
    (h : checkCountersignature issuer receiptHash executionHash completedAt seen item
      = .ok verifier) :
    Countersigns receiptHash executionHash completedAt item verifier ∧ verifier ≠ issuer ∧
      verifier ∉ seen := by
  unfold checkCountersignature at h
  obtain ⟨payload, hwrapper, h⟩ := PyResult.bind_ok h
  obtain ⟨⟨⟩, hvalid, h⟩ := PyResult.bind_ok h
  obtain ⟨did, hash, hsigned⟩ := verifySignedWrapper_ok hwrapper
  have hdid : textOf (get payload (py "verifier")) = did := by
    rw [hsigned.signer_eq]
    rfl
  simp only [hdid] at h
  split_ifs at h with hissuer hseen hreceipt hexecution
  rw [isStr_iff] at hreceipt hexecution
  obtain ⟨observed, hobserved, h⟩ := PyResult.bind_ok h
  split_ifs at h with hearly
  cases h
  obtain ⟨text, htext, hparse⟩ := parseTimestamp_ok hobserved
  have hbound : Countersigns receiptHash executionHash completedAt item verifier :=
    ⟨payload, hash, hsigned, validateCountersignaturePayload_ok hvalid, hreceipt, hexecution, text,
      observed, htext, hparse, not_lt.mp hearly⟩
  refine ⟨hbound, hissuer, ?_⟩
  intro hmem
  exact hseen (List.contains_iff_mem.mpr hmem)

/-- The loop: every countersignature is bound to the receipt, and no verifier comes twice. -/
theorem checkCountersignatures_ok {seen : List PyStr} {items : List Json} {verifiers : List PyStr}
    (h : checkCountersignatures issuer receiptHash executionHash completedAt seen items
      = .ok verifiers) :
    List.Forall₂ (Countersigns receiptHash executionHash completedAt) items verifiers ∧
      verifiers.Nodup ∧ issuer ∉ verifiers ∧ ∀ verifier ∈ verifiers, verifier ∉ seen := by
  induction items generalizing seen verifiers with
  | nil =>
      cases h
      exact ⟨.nil, List.nodup_nil, List.not_mem_nil, fun _ hv => absurd hv List.not_mem_nil⟩
  | cons item rest ih =>
      unfold checkCountersignatures at h
      obtain ⟨verifier, hfirst, h⟩ := PyResult.bind_ok h
      obtain ⟨later, hrest, h⟩ := PyResult.bind_ok h
      cases h
      obtain ⟨hcounter, hissuer, hseen⟩ := checkCountersignature_ok hfirst
      obtain ⟨hforall, hnodup, hno, hfresh⟩ := ih hrest
      -- what the loop has seen by then includes this verifier
      have hnew : verifier ∉ later := by
        intro hmem
        exact hfresh verifier hmem List.mem_cons_self
      refine ⟨.cons hcounter hforall, List.nodup_cons.mpr ⟨hnew, hnodup⟩, ?_, ?_⟩
      · rw [List.mem_cons, not_or]
        exact ⟨Ne.symm hissuer, hno⟩
      · intro v hv hold
        rcases List.mem_cons.mp hv with rfl | hv
        · exact hseen hold
        · exact hfresh v hv (List.mem_cons_of_mem _ hold)

/-! ## Envelopes -/

/-- An accepted envelope: `issuer` signed the receipt of an execution, and `verifiers`
countersigned it in this order. -/
structure Accepted (envelope payload : JsonFields) (issuer : PyStr) (verifiers : List PyStr) :
    Prop where
  schema : get envelope (py "schema") = .str workReceiptEnvelopeSchema
  valid : validateWorkPayload payload = .ok ()
  counters : ∃ receiptHash executionHash text completedAt items,
    SignedBy (get envelope (py "receipt")) (py "issuer") payload issuer receiptHash ∧
    executionSha256 payload = .ok executionHash ∧
    get payload (py "completed_at") = .str text ∧ UtcTime.parseIso text = some completedAt ∧
    get envelope (py "countersignatures") = .arr items ∧
    List.Forall₂ (Countersigns receiptHash executionHash completedAt) items verifiers
  distinct : verifiers.Nodup
  independent : issuer ∉ verifiers
  bounded : verifiers.length ≤ maxCountersignatures

/-- The steps of the verifier that all succeeded. -/
theorem verifyAndDecode_eq_ok {receipt : ReceiptInput} {summary : WorkReceiptSummary}
    {envelope : JsonFields} : verifyAndDecode receipt = .ok (summary, envelope) ↔
      decode receipt = .ok envelope ∧ hasKeys envelope envelopeKeys = true ∧
        get envelope (py "schema") = .str workReceiptEnvelopeSchema ∧
        verifySignedWrapper (get envelope (py "receipt")) (py "issuer") = .ok summary.payload ∧
        validateWorkPayload summary.payload = .ok () ∧
        ∃ items executionHash completedAt verifiers,
          get envelope (py "countersignatures") = .arr items ∧ items.length ≤ maxCountersignatures ∧
          executionSha256 summary.payload = .ok executionHash ∧
          parseTimestamp (get summary.payload (py "completed_at")) "completion timestamp"
            = .ok completedAt ∧
          checkCountersignatures (textOf (get summary.payload (py "issuer")))
            (textOf (get (wrapperFields (get envelope (py "receipt"))) (py "payload_sha256")))
            executionHash completedAt [] items = .ok verifiers ∧
          summary.countersignatures = items.length ∧
          summary.matchingCountersignatures = items.length := by
  constructor
  · intro h
    unfold verifyAndDecode at h
    obtain ⟨decoded, hdecode, h⟩ := PyResult.bind_ok h
    split_ifs at h with hkeys
    simp only [not_or, not_not, isStr_iff] at hkeys
    obtain ⟨payload, hwrapper, h⟩ := PyResult.bind_ok h
    obtain ⟨⟨⟩, hvalid, h⟩ := PyResult.bind_ok h
    -- the countersignatures are a list, of at most as many as are allowed
    cases hitems : get decoded (py "countersignatures") with
    | arr items =>
        simp only [hitems, asArr] at h
        by_cases hmany : items.length ≤ maxCountersignatures
        · rw [Option.filter_some, if_pos (decide_eq_true hmany)] at h
          simp only at h
          obtain ⟨executionHash, hexecution, h⟩ := PyResult.bind_ok h
          obtain ⟨completedAt, hcompleted, h⟩ := PyResult.bind_ok h
          obtain ⟨verifiers, hloop, h⟩ := PyResult.bind_ok h
          cases h
          exact ⟨hdecode, hkeys.1, hkeys.2, hwrapper, hvalid, items, executionHash, completedAt,
            verifiers, hitems, hmany, hexecution, hcompleted, hloop, rfl, rfl⟩
        · rw [Option.filter_some, if_neg (by simpa using hmany)] at h
          cases h
    | _ =>
        simp only [hitems, asArr] at h
        cases h
  · rintro ⟨hdecode, hkeys, hschema, hwrapper, hvalid, items, executionHash, completedAt, verifiers,
      hitems, hmany, hexecution, hcompleted, hloop, hcount, hmatching⟩
    obtain ⟨payload, countersignatures, matching⟩ := summary
    dsimp only at hwrapper hvalid hexecution hcompleted hloop hcount hmatching
    subst hcount hmatching
    have hnot : ¬(¬hasKeys envelope envelopeKeys = true ∨
        ¬(get envelope (py "schema")).isStr workReceiptEnvelopeSchema = true) := by
      rw [not_or, not_not, not_not]
      exact ⟨hkeys, isStr_iff.mpr hschema⟩
    have hfilter : (Json.arr items).asArr.filter (fun items => decide (items.length ≤ maxCountersignatures))
        = some items := by
      rw [asArr, Option.filter_some, if_pos (decide_eq_true hmany)]
    unfold verifyAndDecode
    rw [hdecode]
    simp only [bind, Except.bind]
    rw [if_neg hnot, hwrapper]
    simp only [hvalid, hitems, hfilter, hexecution, hcompleted, hloop]
    rfl

/-- **What the verifier accepts.** -/
theorem verifyAndDecode_ok {receipt : ReceiptInput} {summary : WorkReceiptSummary}
    {envelope : JsonFields} (h : verifyAndDecode receipt = .ok (summary, envelope)) :
    decode receipt = .ok envelope ∧ hasKeys envelope envelopeKeys = true ∧
      ∃ issuer verifiers, Accepted envelope summary.payload issuer verifiers ∧
        summary.countersignatures = verifiers.length ∧
        summary.matchingCountersignatures = verifiers.length := by
  obtain ⟨hdecode, hkeys, hschema, hwrapper, hvalid, items, executionHash, completedAt, verifiers,
    hitems, hmany, hexecution, hcompleted, hloop, hcount, hmatching⟩ := verifyAndDecode_eq_ok.mp h
  obtain ⟨issuer, receiptHash, hsigned⟩ := verifySignedWrapper_ok hwrapper
  obtain ⟨text, htext, hparse⟩ := parseTimestamp_ok hcompleted
  have hhash : textOf (get (wrapperFields (get envelope (py "receipt"))) (py "payload_sha256")) =
      receiptHash := by
    rw [hsigned.hash_eq]
    rfl
  have hissuer : textOf (get summary.payload (py "issuer")) = issuer := by
    rw [hsigned.signer_eq]
    rfl
  rw [hhash, hissuer] at hloop
  obtain ⟨hforall, hnodup, hother, -⟩ := checkCountersignatures_ok hloop
  have hlength : items.length = verifiers.length := hforall.length_eq
  have haccepted : Accepted envelope summary.payload issuer verifiers :=
    { schema := hschema
      valid := hvalid
      counters := ⟨receiptHash, executionHash, text, completedAt, items, hsigned, hexecution,
        htext, hparse, hitems, hforall⟩
      distinct := hnodup
      independent := hother
      bounded := hlength ▸ hmany }
  exact ⟨hdecode, hkeys, issuer, verifiers, haccepted, hcount.trans hlength, hmatching.trans hlength⟩

end Platform

end WorkReceipt
