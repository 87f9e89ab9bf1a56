/-
# Chains of countersignatures

A receipt is created once and then handed from one verifier to the next.  Whatever Git, the
command and the clocks answer, every envelope of such a chain is accepted, its receipt is the
one that was created, and its countersigners are the callers in their order.

* `newEnvelope_ok`, `appendCountersignature_ok` : what the two producers return;
* `HandedOver`, `Chain`                         : an envelope goes from call to call;
* `chain_step`                                  : one more call keeps the invariant `Kept`;
* `chain_wellFormed`                            : **the run theorem**.
-/
import SafeAgent.AuditHead
import SafeAgent.CompactJson
import SafeAgent.WorkEnvelopes
import SafeAgent.WorkRuns

open PyText

namespace WorkReceipt

open Json PyItems Receipt

/-! ## Reading an envelope -/

theorem get_wrapperFields (value : Json) (key : PyStr) :
    get (wrapperFields value) key = Audit.field value key := by
  cases value <;> rfl

/-- The issuer that a signed receipt names. -/
def issuerOf (receipt : Json) : PyStr :=
  textOf (get (wrapperFields (get (wrapperFields receipt) (py "payload"))) (py "issuer"))

theorem textOf_sameValue {v w : Json} (h : SameValue v w) : textOf v = textOf w := by
  cases v with
  | str s => rw [Audit.eq_of_sameValue_str rfl h]
  | _ =>
      cases w with
      | str s =>
          have hsym := Audit.eq_of_sameValue_str rfl h.symm
          cases hsym
      | _ => rfl

theorem distinctKeys_field {v : Json} (h : DistinctKeys v) (key : PyStr) :
    DistinctKeys (Audit.field v key) := by
  cases v with
  | obj fields => exact h.2.get key
  | _ => trivial

/-- The text at a path of two keys. -/
theorem textOf_path {v w : Json} (hv : DistinctKeys v) (hw : DistinctKeys w) (h : SameValue v w)
    (first second : PyStr) :
    textOf (get (wrapperFields (get (wrapperFields v) first)) second) =
      textOf (get (wrapperFields (get (wrapperFields w) first)) second) := by
  simp only [get_wrapperFields]
  exact textOf_sameValue (Audit.field_sameValue (distinctKeys_field hv first)
    (distinctKeys_field hw first) (Audit.field_sameValue hv hw h first) second)

/-- Lists of equal values name the same verifiers. -/
theorem map_verifierOf {items items' : List Json} (hv : DistinctItems items)
    (hw : DistinctItems items') (h : SameValue (.arr items) (.arr items')) :
    items.map verifierOf = items'.map verifierOf := by
  have hmap : items.map sortKeys = items'.map sortKeys := by
    simpa only [SameValue, sortKeys, Json.arr.injEq, sortKeysItems_eq_map] using h
  rw [distinctItems_iff] at hv hw
  clear h
  induction items generalizing items' with
  | nil =>
      cases items' with
      | nil => rfl
      | cons w ws => cases hmap
  | cons v vs ih =>
      cases items' with
      | nil => cases hmap
      | cons w ws =>
          rw [List.map_cons, List.map_cons, List.cons.injEq] at hmap
          have hhead : verifierOf v = verifierOf w :=
            textOf_path (hv v List.mem_cons_self) (hw w List.mem_cons_self) hmap.1 _ _
          have htail := ih (fun x hx => hv x (List.mem_cons_of_mem _ hx))
            (fun x hx => hw x (List.mem_cons_of_mem _ hx)) hmap.2
          rw [List.map_cons, List.map_cons, hhead, htail]

section Platform

variable [Platform]

/-! ## The signers of an accepted envelope -/

theorem SignedBy.signer_of {value : Json} {signerKey : PyStr} {payload : JsonFields}
    {did hash : PyStr} (h : SignedBy value signerKey payload did hash) :
    textOf (get (wrapperFields (get (wrapperFields value) (py "payload"))) signerKey) = did := by
  rw [h.payload_eq, wrapperFields, asObj, Option.getD_some, h.signer_eq]
  rfl

theorem Countersigns.verifier_of {receiptHash executionHash : PyStr} {completedAt : UtcTime}
    {item : Json} {verifier : PyStr}
    (h : Countersigns receiptHash executionHash completedAt item verifier) :
    verifierOf item = verifier := by
  obtain ⟨payload, hash, hsigned, -⟩ := h.bound
  exact hsigned.signer_of

section Accepted

variable {envelope payload : JsonFields} {issuer : PyStr} {verifiers : List PyStr}

/-- The envelope alone determines its issuer. -/
theorem Accepted.issuer_eq (h : Accepted envelope payload issuer verifiers) :
    issuerOf (get envelope (py "receipt")) = issuer := by
  obtain ⟨_, _, _, _, _, hsigned, -⟩ := h.counters
  exact hsigned.signer_of

/-- The envelope alone determines its verifiers. -/
theorem Accepted.verifiers_eq (h : Accepted envelope payload issuer verifiers) :
    (countersignaturesOf envelope).map verifierOf = verifiers := by
  obtain ⟨_, _, _, _, items, -, -, -, -, hitems, hforall⟩ := h.counters
  rw [countersignaturesOf, hitems]
  show items.map verifierOf = verifiers
  clear hitems h
  induction hforall with
  | nil => rfl
  | cons hhead _ ih => rw [List.map_cons, hhead.verifier_of, ih]

theorem Accepted.countersignatures_eq (h : Accepted envelope payload issuer verifiers) :
    get envelope (py "countersignatures") = .arr (countersignaturesOf envelope) := by
  obtain ⟨_, _, _, _, items, -, -, -, -, hitems, -⟩ := h.counters
  rw [countersignaturesOf, hitems]
  rfl

end Accepted

/-! ## What the producers return -/

/-- The wrapper of a payload under its key. -/
theorem signedWrapper_ok {payload wrapper : JsonFields} {key : Platform.PrivateKey}
    (h : signedWrapper payload key = .ok wrapper) :
    ∃ canonical signature, canonicalJson payload = .ok canonical ∧
      Crypto.signDetached key canonical = .ok signature ∧
      wrapper = [(py "payload", .obj payload),
        (py "payload_sha256", .str (Sha256.sha256Hex canonical)),
        (py "signature", .str signature)] := by
  obtain ⟨canonical, hcanonical, h⟩ := PyResult.bind_ok h
  obtain ⟨signature, hsignature, h⟩ := PyResult.bind_ok h
  cases h
  exact ⟨canonical, signature, hcanonical, hsignature, rfl⟩

theorem distinctKeys_signedWrapper {payload wrapper : JsonFields} {key : Platform.PrivateKey}
    (h : signedWrapper payload key = .ok wrapper) (hpayload : DistinctKeys (.obj payload)) :
    DistinctKeys (.obj wrapper) := by
  obtain ⟨canonical, signature, -, -, rfl⟩ := signedWrapper_ok h
  refine ⟨?_, hpayload, trivial, trivial, trivial⟩
  show [py "payload", py "payload_sha256", py "signature"].Nodup
  decide

theorem verifyWorkReceipt_value {envelope : JsonFields} {summary : WorkReceiptSummary}
    (h : verifyWorkReceipt (.value (.obj envelope)) = .ok summary) :
    verifyAndDecode (.value (.obj envelope)) = .ok (summary, envelope) := by
  obtain ⟨⟨found, decoded⟩, hverify, h⟩ := PyResult.bind_ok h
  cases h
  have hdecode : decode (.value (.obj envelope)) = .ok decoded := (verifyAndDecode_ok hverify).1
  cases hdecode
  exact hverify

theorem newEnvelope_ok {payload envelope : JsonFields} {key : Platform.PrivateKey}
    (h : newEnvelope payload key = .ok envelope) :
    ∃ wrapper summary, signedWrapper payload key = .ok wrapper ∧
      envelope = [(py "schema", .str workReceiptEnvelopeSchema), (py "receipt", .obj wrapper),
        (py "countersignatures", .arr [])] ∧
      verifyAndDecode (.value (.obj envelope)) = .ok (summary, envelope) := by
  obtain ⟨⟨⟩, -, h⟩ := PyResult.bind_ok h
  obtain ⟨wrapper, hwrapper, h⟩ := PyResult.bind_ok h
  obtain ⟨summary, hverify, h⟩ := PyResult.bind_ok h
  cases h
  exact ⟨wrapper, summary, hwrapper, rfl, verifyWorkReceipt_value hverify⟩

/-- The payload of a countersignature. -/
def counterPayload (receipt : Json) (executionHash verifierDid timestamp : PyStr) : JsonFields :=
  [(py "schema", .str workCountersignatureSchema), (py "verifier", .str verifierDid),
    (py "receipt_payload_sha256", get (wrapperFields receipt) (py "payload_sha256")),
    (py "execution_sha256", .str executionHash), (py "observed_at", .str timestamp)]

theorem appendCountersignature_ok {summary : WorkReceiptSummary} {envelope updated : JsonFields}
    {did : PyStr} {key : Platform.PrivateKey} {observedAt : ObservedAt}
    (h : appendCountersignature summary envelope did key observedAt = .ok updated) :
    ∃ executionHash timestamp wrapper summary', executionSha256 summary.payload = .ok executionHash ∧
      signedWrapper (counterPayload (get envelope (py "receipt")) executionHash did timestamp) key
        = .ok wrapper ∧
      updated = [(py "schema", .str workReceiptEnvelopeSchema),
        (py "receipt", get envelope (py "receipt")),
        (py "countersignatures", .arr (countersignaturesOf envelope ++ [.obj wrapper]))] ∧
      verifyAndDecode (.value (.obj updated)) = .ok (summary', updated) := by
  obtain ⟨executionHash, hexecution, h⟩ := PyResult.bind_ok h
  obtain ⟨timestamp, -, h⟩ := PyResult.bind_ok h
  obtain ⟨wrapper, hwrapper, h⟩ := PyResult.bind_ok h
  obtain ⟨summary', hverify, h⟩ := PyResult.bind_ok h
  cases h
  exact ⟨executionHash, timestamp, wrapper, summary', hexecution, hwrapper, rfl,
    verifyWorkReceipt_value hverify⟩

/-- What `create_work_receipt` returns, whatever its operations answer. -/
theorem ends_createWorkReceipt (repository : PyStr) (command : Json) (issuerDid : PyStr)
    (key : Platform.PrivateKey) (timeout : Option ℚ) (outputDirectory : Option PyStr) :
    Proc.Ends (createWorkReceipt repository command issuerDid key timeout outputDirectory)
      fun envelope => ∃ checkout argv timeoutMs execution,
        newEnvelope (workPayload issuerDid checkout argv timeoutMs execution) key
          = .ok envelope := by
  have hrecord : ∀ checkout timeoutMs bundle,
      Proc.Ends (recordExecution checkout command issuerDid key timeoutMs bundle) fun envelope =>
        ∃ checkout argv timeoutMs execution,
          newEnvelope (workPayload issuerDid checkout argv timeoutMs execution) key
            = .ok envelope := by
    intro checkout timeoutMs bundle
    refine Proc.ends_bind (Proc.ends_trivial _) fun execution _ => ?_
    refine Proc.ends_bind (Proc.ends_trivial _) fun _ _ => ?_
    refine Proc.ends_bind (Proc.ends_trivial _) fun argv _ => ?_
    refine Proc.ends_bind (Proc.ends_ofExcept fun envelope henvelope => henvelope) ?_
    intro envelope henvelope
    have hend := (⟨checkout, argv, timeoutMs, execution, henvelope⟩ :
      ∃ checkout argv timeoutMs execution,
        newEnvelope (workPayload issuerDid checkout argv timeoutMs execution) key = .ok envelope)
    cases bundle with
    | none => exact Proc.ends_pure hend
    | some path => exact Proc.ends_bind (Proc.ends_trivial _) fun _ _ => Proc.ends_pure hend
  refine Proc.ends_bind (Proc.ends_trivial _) fun _ _ => ?_
  refine Proc.ends_bind (Proc.ends_trivial _) fun checkout _ => ?_
  refine Proc.ends_bind (Proc.ends_trivial _) fun timeoutMs _ => ?_
  cases outputDirectory with
  | none => exact hrecord checkout timeoutMs none
  | some directory =>
      refine Proc.ends_bind (Proc.ends_trivial _) fun path _ => ?_
      refine Proc.ends_bind (Proc.ends_trivial _) fun _ _ => ?_
      refine Proc.ends_bind (Proc.ends_tryCatch (hrecord checkout timeoutMs (some path)) ?_) ?_
      · intro e
        exact Proc.ends_bind (Proc.ends_trivial _) fun _ _ => Proc.ends_throw e
      · intro envelope henvelope
        exact Proc.ends_bind (Proc.ends_trivial _) fun _ _ => Proc.ends_pure henvelope

theorem ends_rerun (receipt : ReceiptInput) (repository did : PyStr) (key : Platform.PrivateKey)
    (timeout : Option (Option ℚ)) :
    Proc.Ends (rerun receipt repository did key timeout) fun observed =>
      verifyAndDecode receipt = .ok (observed.1, observed.2.1) := by
  refine Proc.ends_bind (Proc.ends_ofExcept fun _ hverified => hverified) ?_
  rintro ⟨summary, envelope⟩ hverified
  refine Proc.ends_bind (Proc.ends_trivial _) fun _ _ => ?_
  split_ifs
  · exact Proc.ends_throw _
  · exact Proc.ends_throw _
  · refine Proc.ends_bind (Proc.ends_trivial _) fun _ _ => ?_
    refine Proc.ends_bind (Proc.ends_trivial _) fun checkout _ => ?_
    split_ifs
    · refine Proc.ends_bind (Proc.ends_trivial _) fun execution _ => ?_
      exact Proc.ends_bind (Proc.ends_trivial _) fun _ _ => Proc.ends_pure hverified
    · exact Proc.ends_throw _

/-- What `countersign_work_receipt` returns, whatever its operations answer. -/
theorem ends_countersignWorkReceipt (receipt : ReceiptInput) (repository did : PyStr)
    (key : Platform.PrivateKey) (timeout : Option (Option ℚ)) :
    Proc.Ends (countersignWorkReceipt receipt repository did key timeout) fun updated =>
      ∃ summary envelope observedAt, verifyAndDecode receipt = .ok (summary, envelope) ∧
        appendCountersignature summary envelope did key observedAt = .ok updated := by
  refine Proc.ends_bind (ends_rerun receipt repository did key timeout) ?_
  rintro ⟨summary, envelope, execution⟩ hverified
  split_ifs
  · refine Proc.ends_bind (Proc.ends_trivial _) fun observedAt _ => ?_
    exact Proc.ends_ofExcept fun updated hupdated =>
      ⟨summary, envelope, observedAt, hverified, hupdated⟩
  · exact Proc.ends_throw _

/-! ## Chains -/

/-- A receipt that the next caller is given: it is decoded to an envelope with the same
value, as the mapping itself is, and a text that holds it. -/
structure HandedOver (input : ReceiptInput) (envelope decoded : JsonFields) : Prop where
  decode_eq : decode input = .ok decoded
  distinct : DistinctKeys (.obj decoded)
  same : SameValue (.obj decoded) (.obj envelope)

/-- `envelope` holds the `receipt` that `issuer` created, after the calls of `verifiers` one
after another.  Each call answers to operations of its own. -/
inductive Chain : PyStr → Json → List PyStr → JsonFields → Prop
  | created {W : Type} {H : W → (o : WorkOp) → Except PyErr o.Val → W → Prop} {s s' : Bool}
      {w w' : W} {repository issuer : PyStr} {command : Json} {key : Platform.PrivateKey}
      {timeout : Option ℚ} {outputDirectory : Option PyStr} {envelope : JsonFields} :
      EffTree.Returns H (createWorkReceipt repository command issuer key timeout outputDirectory s)
        w (.ok envelope, s') w' →
      Chain issuer (get envelope (py "receipt")) [] envelope
  | countersigned {W : Type} {H : W → (o : WorkOp) → Except PyErr o.Val → W → Prop} {s s' : Bool}
      {w w' : W} {issuer repository did : PyStr} {receipt : Json} {verifiers : List PyStr}
      {envelope decoded updated : JsonFields} {input : ReceiptInput} {key : Platform.PrivateKey}
      {timeout : Option (Option ℚ)} :
      Chain issuer receipt verifiers envelope → HandedOver input envelope decoded →
      EffTree.Returns H (countersignWorkReceipt input repository did key timeout s)
        w (.ok updated, s') w' →
      Chain issuer receipt (verifiers ++ [did]) updated

/-- The invariant of a chain. -/
structure Kept (issuer : PyStr) (receipt : Json) (verifiers : List PyStr)
    (envelope : JsonFields) : Prop where
  distinct : DistinctKeys (.obj envelope)
  receipt_same : SameValue (get envelope (py "receipt")) receipt
  accepted : ∃ summary, verifyAndDecode (.value (.obj envelope)) = .ok (summary, envelope) ∧
    Accepted envelope summary.payload issuer verifiers

theorem kept_created {payload envelope : JsonFields} {issuer : PyStr} {key : Platform.PrivateKey}
    (hpayload : DistinctKeys (.obj payload)) (hissuer : get payload (py "issuer") = .str issuer)
    (h : newEnvelope payload key = .ok envelope) :
    Kept issuer (get envelope (py "receipt")) [] envelope := by
  obtain ⟨wrapper, summary, hwrapper, henvelope, hverify⟩ := newEnvelope_ok h
  obtain ⟨-, -, issuer', verifiers, haccepted, -⟩ := verifyAndDecode_ok hverify
  have hreceipt : get envelope (py "receipt") = .obj wrapper := by
    rw [henvelope]
    rfl
  have hnames : issuer' = issuer := by
    obtain ⟨canonical, signature, -, -, rfl⟩ := signedWrapper_ok hwrapper
    rw [← haccepted.issuer_eq, hreceipt]
    show textOf (get payload (py "issuer")) = issuer
    rw [hissuer]
    rfl
  have hnone : verifiers = [] := by
    rw [← haccepted.verifiers_eq, henvelope]
    rfl
  refine ⟨?_, rfl, summary, hverify, hnames ▸ hnone ▸ haccepted⟩
  rw [henvelope]
  refine ⟨?_, trivial, distinctKeys_signedWrapper hwrapper hpayload, trivial, trivial⟩
  show [py "schema", py "receipt", py "countersignatures"].Nodup
  decide

omit [Platform] in
theorem distinctKeys_workPayload (issuerDid : PyStr) (checkout : Checkout) (argv : List PyStr)
    (timeoutMs : ℕ) (execution : Execution) :
    DistinctKeys (.obj (workPayload issuerDid checkout argv timeoutMs execution)) := by
  have hargv : DistinctItems (argv.map Json.str) := by
    rw [distinctItems_iff]
    intro v hv
    obtain ⟨s, -, rfl⟩ := List.mem_map.mp hv
    trivial
  have hcode : DistinctKeys (exitCodeJson execution.exitCode) := by
    cases execution.exitCode <;> trivial
  refine ⟨?_, trivial, trivial, trivial, trivial, hargv, trivial, trivial, hcode, trivial, trivial,
    trivial, trivial, trivial, trivial, trivial, trivial⟩
  show workPayloadKeys.Nodup
  decide

/-- What one more call appends. -/
structure Appends (decoded updated : JsonFields) (did : PyStr) (key : Platform.PrivateKey) :
    Prop where
  receipt_eq : get updated (py "receipt") = get decoded (py "receipt")
  countersignatures_eq : ∃ items wrapper payload,
    get decoded (py "countersignatures") = .arr items ∧
    get updated (py "countersignatures") = .arr (items ++ [.obj wrapper]) ∧
    signedWrapper payload key = .ok wrapper ∧ get payload (py "verifier") = .str did

/-- **A successful call** starts from an accepted envelope, appends one countersignature that
the caller signed, and returns an accepted envelope. -/
theorem appends_of_append {summary : WorkReceiptSummary} {receipt : ReceiptInput}
    {decoded updated : JsonFields} {did : PyStr} {key : Platform.PrivateKey}
    {observedAt : ObservedAt} (hverify : verifyAndDecode receipt = .ok (summary, decoded))
    (h : appendCountersignature summary decoded did key observedAt = .ok updated) :
    Appends decoded updated did key := by
  obtain ⟨-, -, issuer, verifiers, haccepted, -⟩ := verifyAndDecode_ok hverify
  obtain ⟨executionHash, timestamp, wrapper, summary', -, hwrapper, rfl, -⟩ :=
    appendCountersignature_ok h
  exact ⟨rfl, countersignaturesOf decoded, wrapper, _, haccepted.countersignatures_eq, rfl, hwrapper,
    rfl⟩

/-- The envelope that a call returns is accepted, with its caller as the last verifier. -/
theorem accepted_of_append {summary : WorkReceiptSummary} {receipt : ReceiptInput}
    {decoded updated : JsonFields} {did : PyStr} {key : Platform.PrivateKey}
    {observedAt : ObservedAt} (hverify : verifyAndDecode receipt = .ok (summary, decoded))
    (h : appendCountersignature summary decoded did key observedAt = .ok updated) :
    ∃ issuer verifiers summary', Accepted decoded summary.payload issuer verifiers ∧
      verifyAndDecode (.value (.obj updated)) = .ok (summary', updated) ∧
      Accepted updated summary'.payload issuer (verifiers ++ [did]) := by
  obtain ⟨-, -, issuer, verifiers, haccepted, -⟩ := verifyAndDecode_ok hverify
  obtain ⟨executionHash, timestamp, wrapper, summary', -, hwrapper, hupdated, hverified⟩ :=
    appendCountersignature_ok h
  obtain ⟨-, -, issuer', verifiers', haccepted', -⟩ := verifyAndDecode_ok hverified
  have hissuer : issuer' = issuer := by
    rw [← haccepted'.issuer_eq, ← haccepted.issuer_eq, hupdated]
    rfl
  have hverifiers : verifiers' = verifiers ++ [did] := by
    have hlast : verifierOf (.obj wrapper) = did := by
      obtain ⟨canonical, signature, -, -, rfl⟩ := signedWrapper_ok hwrapper
      rfl
    rw [← haccepted'.verifiers_eq, ← haccepted.verifiers_eq, hupdated]
    show (countersignaturesOf decoded ++ [Json.obj wrapper]).map verifierOf = _
    rw [List.map_append, List.map_singleton, hlast]
  exact ⟨issuer, verifiers, summary', haccepted, hverified, hissuer ▸ hverifiers ▸ haccepted'⟩

theorem distinctKeys_appended {decoded wrapper : JsonFields} {receipt : Json} {executionHash
    did timestamp : PyStr} {key : Platform.PrivateKey} (hdecoded : DistinctKeys (.obj decoded))
    (hreceipt : receipt = get decoded (py "receipt"))
    (hwrapper : signedWrapper (counterPayload receipt executionHash did timestamp) key
      = .ok wrapper) :
    DistinctKeys (.obj [(py "schema", .str workReceiptEnvelopeSchema), (py "receipt", receipt),
      (py "countersignatures", .arr (countersignaturesOf decoded ++ [.obj wrapper]))]) := by
  have hold : DistinctItems (countersignaturesOf decoded) := by
    have hcounters := hdecoded.2.get (py "countersignatures")
    unfold countersignaturesOf
    cases hget : get decoded (py "countersignatures") with
    | arr items =>
        rw [hget] at hcounters
        exact hcounters
    | _ => trivial
  have hwhole : DistinctKeys receipt := hreceipt ▸ hdecoded.2.get (py "receipt")
  have hpayload : DistinctKeys (.obj (counterPayload receipt executionHash did timestamp)) := by
    have hhash : DistinctKeys (get (wrapperFields receipt) (py "payload_sha256")) := by
      rw [get_wrapperFields]
      exact distinctKeys_field hwhole _
    refine ⟨?_, trivial, trivial, hhash, trivial, trivial, trivial⟩
    show countersignaturePayloadKeys.Nodup
    decide
  have hall : DistinctItems (countersignaturesOf decoded ++ [.obj wrapper]) := by
    rw [distinctItems_iff] at hold ⊢
    intro v hv
    rcases List.mem_append.mp hv with hv | hv
    · exact hold v hv
    · rw [List.mem_singleton.mp hv]
      exact distinctKeys_signedWrapper hwrapper hpayload
  refine ⟨?_, trivial, hwhole, hall, trivial⟩
  show [py "schema", py "receipt", py "countersignatures"].Nodup
  decide

/-- **One more call keeps the invariant.** -/
theorem chain_step {issuer did : PyStr} {receipt : Json} {verifiers : List PyStr}
    {envelope decoded updated : JsonFields} {input : ReceiptInput} {key : Platform.PrivateKey}
    {summary : WorkReceiptSummary} {observedAt : ObservedAt}
    (hkept : Kept issuer receipt verifiers envelope) (hover : HandedOver input envelope decoded)
    (hverify : verifyAndDecode input = .ok (summary, decoded))
    (h : appendCountersignature summary decoded did key observedAt = .ok updated) :
    Kept issuer receipt (verifiers ++ [did]) updated := by
  obtain ⟨summary₀, -, haccepted₀⟩ := hkept.accepted
  obtain ⟨issuer', verifiers', summary', haccepted, hverified, haccepted'⟩ :=
    accepted_of_append hverify h
  -- what the caller decoded has the receipt and the countersigners of the envelope
  have hfield := Audit.field_sameValue hover.distinct hkept.distinct hover.same
  have hreceipt : SameValue (get decoded (py "receipt")) (get envelope (py "receipt")) :=
    hfield (py "receipt")
  have hdistinct : ∀ {fields : JsonFields}, DistinctKeys (.obj fields) →
      DistinctKeys (get fields (py "receipt")) := fun hd => hd.2.get _
  have hissuer : issuer' = issuer := by
    rw [← haccepted.issuer_eq, ← haccepted₀.issuer_eq]
    exact textOf_path (hdistinct hover.distinct) (hdistinct hkept.distinct) hreceipt _ _
  have hverifiers : verifiers' = verifiers := by
    have hcounters := hfield (py "countersignatures")
    rw [Audit.field_obj, Audit.field_obj, haccepted.countersignatures_eq,
      haccepted₀.countersignatures_eq] at hcounters
    have hitems : ∀ {fields : JsonFields}, DistinctKeys (.obj fields) →
        get fields (py "countersignatures") = .arr (countersignaturesOf fields) →
        DistinctItems (countersignaturesOf fields) := by
      intro fields hd heq
      have hget := hd.2.get (py "countersignatures")
      rwa [heq] at hget
    rw [← haccepted.verifiers_eq, ← haccepted₀.verifiers_eq]
    exact map_verifierOf (hitems hover.distinct haccepted.countersignatures_eq)
      (hitems hkept.distinct haccepted₀.countersignatures_eq) hcounters
  obtain ⟨executionHash, timestamp, wrapper, -, -, hwrapper, hupdated, -⟩ :=
    appendCountersignature_ok h
  refine ⟨?_, ?_, summary', hverified, hissuer ▸ hverifiers ▸ haccepted'⟩
  · rw [hupdated]
    exact distinctKeys_appended hover.distinct rfl hwrapper
  · have hsame : get updated (py "receipt") = get decoded (py "receipt") := by
      rw [hupdated]
      rfl
    rw [hsame]
    exact hreceipt.trans hkept.receipt_same

theorem kept_of_chain {issuer : PyStr} {receipt : Json} {verifiers : List PyStr}
    {envelope : JsonFields} (h : Chain issuer receipt verifiers envelope) :
    Kept issuer receipt verifiers envelope := by
  induction h with
  | created hreturns =>
      obtain ⟨checkout, argv, timeoutMs, execution, henvelope⟩ :=
        Proc.Ends.of_returns (ends_createWorkReceipt _ _ _ _ _ _) hreturns
      exact kept_created (distinctKeys_workPayload ..) rfl henvelope
  | countersigned _ hover hreturns ih =>
      obtain ⟨summary, decoded, observedAt, hverify, hupdated⟩ :=
        Proc.Ends.of_returns (ends_countersignWorkReceipt _ _ _ _ _) hreturns
      have hdecode := (verifyAndDecode_ok hverify).1
      rw [hover.decode_eq] at hdecode
      cases hdecode
      exact chain_step ih hover hverify hupdated

theorem verifyWorkReceipt_of {receipt : ReceiptInput} {summary : WorkReceiptSummary}
    {envelope : JsonFields} (h : verifyAndDecode receipt = .ok (summary, envelope)) :
    verifyWorkReceipt receipt = .ok summary := by
  rw [verifyWorkReceipt, h]
  rfl

theorem countersigned_ok {W : Type} {H : W → (o : WorkOp) → Except PyErr o.Val → W → Prop}
    {s s' : Bool} {w w' : W} {input : ReceiptInput} {repository did : PyStr}
    {key : Platform.PrivateKey} {timeout : Option (Option ℚ)} {updated : JsonFields}
    (h : EffTree.Returns H (countersignWorkReceipt input repository did key timeout s)
      w (.ok updated, s') w') :
    ∃ summary decoded issuer verifiers summary',
      verifyAndDecode input = .ok (summary, decoded) ∧
      Accepted decoded summary.payload issuer verifiers ∧ Appends decoded updated did key ∧
      verifyWorkReceipt (.value (.obj updated)) = .ok summary' ∧
      Accepted updated summary'.payload issuer (verifiers ++ [did]) := by
  obtain ⟨summary, decoded, observedAt, hverify, hupdated⟩ :=
    Proc.Ends.of_returns (ends_countersignWorkReceipt _ _ _ _ _) h
  obtain ⟨issuer, verifiers, summary', haccepted, hverified, haccepted'⟩ :=
    accepted_of_append hverify hupdated
  exact ⟨summary, decoded, issuer, verifiers, summary', hverify, haccepted,
    appends_of_append hverify hupdated, verifyWorkReceipt_of hverified, haccepted'⟩

/-- **Countersignature chains are well formed.**  Every accepted envelope is `Accepted`.  Every
envelope of a chain is accepted, with the receipt that was created, and is countersigned by the
callers in their order.  Every successful call starts from an accepted envelope and appends one
countersignature of its caller; every other call raises. -/
theorem chain_wellFormed :
    (∀ {receipt : ReceiptInput} {summary : WorkReceiptSummary} {envelope : JsonFields},
      verifyAndDecode receipt = .ok (summary, envelope) →
      ∃ issuer verifiers, Accepted envelope summary.payload issuer verifiers) ∧
    (∀ {issuer : PyStr} {receipt : Json} {verifiers : List PyStr} {envelope : JsonFields},
      Chain issuer receipt verifiers envelope →
      ∃ summary, verifyWorkReceipt (.value (.obj envelope)) = .ok summary ∧
        SameValue (get envelope (py "receipt")) receipt ∧
        Accepted envelope summary.payload issuer verifiers) ∧
    (∀ {W : Type} {H : W → (o : WorkOp) → Except PyErr o.Val → W → Prop} {s s' : Bool} {w w' : W}
      {input : ReceiptInput} {repository did : PyStr} {key : Platform.PrivateKey}
      {timeout : Option (Option ℚ)} {updated : JsonFields},
      EffTree.Returns H (countersignWorkReceipt input repository did key timeout s)
        w (.ok updated, s') w' →
      ∃ summary decoded issuer verifiers summary',
        verifyAndDecode input = .ok (summary, decoded) ∧
        Accepted decoded summary.payload issuer verifiers ∧ Appends decoded updated did key ∧
        verifyWorkReceipt (.value (.obj updated)) = .ok summary' ∧
        Accepted updated summary'.payload issuer (verifiers ++ [did])) ∧
    (∀ {W : Type} {H : W → (o : WorkOp) → Except PyErr o.Val → W → Prop} {s s' : Bool} {w w' : W}
      {input : ReceiptInput} {repository did : PyStr} {key : Platform.PrivateKey}
      {timeout : Option (Option ℚ)} {r : Except PyErr JsonFields},
      EffTree.Returns H (countersignWorkReceipt input repository did key timeout s)
        w (r, s') w' →
      (¬∃ summary decoded issuer verifiers, verifyAndDecode input = .ok (summary, decoded) ∧
        Accepted decoded summary.payload issuer verifiers ∧ did ≠ issuer ∧ did ∉ verifiers ∧
        verifiers.length < maxCountersignatures) →
      ∃ e, r = .error e) := by
  refine ⟨?_, ?_, countersigned_ok, ?_⟩
  · intro receipt summary envelope hverify
    obtain ⟨-, -, issuer, verifiers, haccepted, -⟩ := verifyAndDecode_ok hverify
    exact ⟨issuer, verifiers, haccepted⟩
  · intro issuer receipt verifiers envelope hchain
    have hkept := kept_of_chain hchain
    obtain ⟨summary, hverify, haccepted⟩ := hkept.accepted
    exact ⟨summary, verifyWorkReceipt_of hverify, hkept.receipt_same, haccepted⟩
  · intro W H s s' w w' input repository did key timeout r hreturns hrefused
    cases r with
    | error e => exact ⟨e, rfl⟩
    | ok updated =>
        -- a call that returns appends a verifier that is new, independent and within the limit
        obtain ⟨summary, decoded, issuer, verifiers, summary', hverify, haccepted, -, -, haccepted'⟩ :=
          countersigned_ok hreturns
        refine absurd ⟨summary, decoded, issuer, verifiers, hverify, haccepted, ?_, ?_, ?_⟩ hrefused
        · rintro rfl
          exact haccepted'.independent (List.mem_append_right _ List.mem_cons_self)
        · intro hmem
          exact (List.disjoint_of_nodup_append haccepted'.distinct) hmem List.mem_cons_self
        · have hlength := haccepted'.bounded
          rw [List.length_append, List.length_singleton] at hlength
          exact hlength

end Platform

end WorkReceipt

/-! ## A chain of two calls -/

namespace Sample

open WorkReceipt

/-- The key of a second identity. -/
def verifierKey : Platform.PrivateKey := ⟨List.replicate 32 9, rfl⟩

/-- Its DID. -/
def verifierDid : PyStr := py "did:key:z6Mkf4XhsxSXfEAWNK6GcFu7TyVs21AfUTRjiguqMhNQeDgk"

/-- What Git prints in a clean checkout. -/
def gitAnswer (arguments : List PyStr) : PyStr :=
  if arguments.contains (py "--show-toplevel") then py "/work\n"
  else if arguments.contains (py "--verify") then List.replicate 40 97
  else if arguments.contains (py "remote") then py "https://github.com/owner/repo.git\n"
  else []

/-- The directory of a path. -/
def parentOf (path : PyStr) : PyStr :=
  let front := (path.reverse.dropWhile (· != 47)).tail.reverse
  if front = [] then py "/" else front

/-- A command that passes and prints a line, where nothing fails. -/
def workAnswer (w : Unit) : (o : WorkOp) → Except PyErr o.Val × Unit
  | .expandUser path => (.ok path, w)
  | .resolve path => (.ok path, w)
  | .git _ arguments => (.ok (gitAnswer arguments), w)
  | .clock => (.ok (.utc time), w)
  | .startTimer => (.ok (), w)
  | .elapsedMs => (.ok (12 : ℤ), w)
  | .openOutputs => (.ok (), w)
  | .closeOutputs => (.ok (), w)
  | .popen _ _ => (.ok (4 : ℕ), w)
  | .wait _ _ => (.ok (0 : ℤ), w)
  | .killpg _ => (.ok (), w)
  | .readOutput _ => (.ok (toAscii (py "done\n")), w)
  | .isPosix => (.ok true, w)
  | .strictParent path => (.ok (parentOf path), w)
  | .statParent _ => (.ok ⟨0o700, true⟩, w)
  | .mkdir _ => (.ok (), w)
  | .chmod _ => (.ok (), w)
  | .rmdir _ => (.ok (), w)
  | .rmtree _ => (.ok (), w)
  | .createFile _ => (.ok (), w)
  | .secureFile _ => (.ok (), w)
  | .writeFile _ _ => (.ok (), w)
  | .syncFile _ => (.ok (), w)
  | .closeFile _ => (.ok (), w)
  | .readFile _ => (.ok [], w)
  | .syncDirectory _ => (.ok (), w)
  | .link _ _ => (.ok (), w)
  | .unlink _ => (.ok (), w)

/-- The steps of `workAnswer`. -/
def workStep (w : Unit) (o : WorkOp) (r : Except PyErr o.Val) (w' : Unit) : Prop :=
  workAnswer w o = (r, w')

/-- A process that ends normally where nothing fails. -/
theorem workReturns_of_isOk {α : Type} {m : WorkProc α} {s : Bool}
    (h : (EffTree.run workAnswer (m s) ()).1.1.isOk = true) :
    ∃ a s' w', EffTree.Returns workStep (m s) () (.ok a, s') w' := by
  have hstep : ∀ w o, workStep w o (workAnswer w o).1 (workAnswer w o).2 := fun _ _ => rfl
  have hreturns := EffTree.returns_run hstep (m s) ()
  generalize EffTree.run workAnswer (m s) () = result at h hreturns
  obtain ⟨⟨a | a, s'⟩, w'⟩ := result
  · cases h
  · exact ⟨a, s', w', hreturns⟩

/-- A receipt is created and then countersigned by another identity. -/
def createAndCountersign : WorkProc JsonFields := do
  let envelope ← createWorkReceipt (py "/work") (.arr [.str (py "true")]) did key (some 300) none
  countersignWorkReceipt (.value (.obj envelope)) (py "/work") verifierDid verifierKey none

/-- The chain of both calls. -/
theorem chain_of_two : ∃ receipt envelope, Chain did receipt [verifierDid] envelope := by
  obtain ⟨updated, s', w', hreturns⟩ := workReturns_of_isOk (m := createAndCountersign) (s := false)
    (by decide +kernel)
  obtain ⟨envelope, s₁, w₁, hcreate, hcountersign⟩ := Proc.returns_bind hreturns
  have hcreated := Chain.created hcreate
  have hover : HandedOver (.value (.obj envelope)) envelope envelope :=
    ⟨rfl, (kept_of_chain hcreated).distinct, rfl⟩
  exact ⟨_, updated, hcreated.countersigned hover hcountersign⟩

theorem chain_wellFormed_two : ∃ receipt envelope, Chain did receipt [verifierDid] envelope ∧
    ∃ summary, verifyWorkReceipt (.value (.obj envelope)) = .ok summary ∧
      Json.SameValue (Json.get envelope (py "receipt")) receipt ∧
      Accepted envelope summary.payload did [verifierDid] := by
  obtain ⟨receipt, envelope, hchain⟩ := chain_of_two
  exact ⟨receipt, envelope, hchain, chain_wellFormed.2.1 hchain⟩

end Sample
