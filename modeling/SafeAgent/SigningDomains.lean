/-
# Signing domains (`crypto.py`, `audit.py`, `receipt.py`, `work_receipt.py`)

One key signs room messages, audit entries, pull-request receipts, work receipts and
countersignatures.  Which of them was signed, and every field of it, can be read off the octets.

* `Signed`            : what the program signs, and the octets that it passes to the key;
* `SealedPayload.ext` : a payload of known keys is determined by its canonical text;
* `signed_injective`  : **equal octets are of one artifact**.
-/
import SafeAgent.Utf8
import SafeAgent.WorkReceiptTexts
import SafeAgent.ObservedReceipts

open PyText PyItems

namespace Json

/-! ## Payloads with known keys -/

/-- Two lists of fields with the same keys, and the same value for each. -/
theorem fields_ext {p q : JsonFields} (hkeys : keys p = keys q) (hnodup : (keys p).Nodup)
    (hget : ∀ key ∈ keys p, get p key = get q key) : p = q := by
  induction p generalizing q with
  | nil => exact (List.map_eq_nil_iff.mp hkeys.symm).symm
  | cons kv p ih =>
      obtain ⟨key, value⟩ := kv
      cases q with
      | nil => cases hkeys
      | cons kv' q =>
          obtain ⟨key', value'⟩ := kv'
          obtain ⟨rfl, hrest⟩ := List.cons.inj hkeys
          rw [keys, List.map_cons, List.nodup_cons] at hnodup
          have hhead := hget key List.mem_cons_self
          simp only [get, List.lookup_cons, beq_self_eq_true, Option.getD_some] at hhead
          have htail : p = q := by
            refine ih hrest hnodup.2 fun k hk => ?_
            have hne : (k == key) = false := by
              rw [beq_eq_false_iff_ne]
              rintro rfl
              exact hnodup.1 hk
            have hgot := hget k (List.mem_cons_of_mem _ hk)
            simpa only [get, List.lookup_cons, hne] using hgot
          subst htail
          rw [show value = value' from hhead]

/-- `octets` is the canonical text of a payload of one schema, with the keys that it has. -/
structure SealedPayload (schema : PyStr) (names : List PyStr) (payload : JsonFields)
    (octets : Bytes) : Prop where
  keys_eq : keys payload = names
  schema_eq : get payload (py "schema") = .str schema
  plain : Plain (.obj payload)
  sorted : ∀ key, sortKeys (get payload key) = get payload key
  octets_eq : octets = toAscii (canonical (.obj payload))

namespace SealedPayload

variable {schema schema' : PyStr} {names names' : List PyStr} {p q : JsonFields} {octets : Bytes}

theorem sameValue (hp : SealedPayload schema names p octets)
    (hq : SealedPayload schema' names' q octets) : SameValue (.obj p) (.obj q) := by
  refine canonical_injOn hp.plain hq.plain ?_
  have hascii := congrArg ofAscii (hp.octets_eq.symm.trans hq.octets_eq)
  rwa [canonical, canonical, ofAscii_toAscii (isAscii_render (plain_sortKeys _ hp.plain)),
    ofAscii_toAscii (isAscii_render (plain_sortKeys _ hq.plain))] at hascii

/-- Payloads with one text have one value for each key. -/
theorem get_eq (hp : SealedPayload schema names p octets)
    (hq : SealedPayload schema' names' q octets) (key : PyStr) : get p key = get q key := by
  have hsame : sortByKey (sortKeysFields p) = sortByKey (sortKeysFields q) := by
    have h := hp.sameValue hq
    rw [SameValue, sortKeys, sortKeys] at h
    exact Json.obj.inj h
  calc get p key = sortKeys (get p key) := (hp.sorted key).symm
    _ = get (sortByKey (sortKeysFields p)) key := (get_sorted hp.plain.1 key).symm
    _ = get (sortByKey (sortKeysFields q)) key := by rw [hsame]
    _ = sortKeys (get q key) := get_sorted hq.plain.1 key
    _ = get q key := hq.sorted key

theorem schema_inj (hp : SealedPayload schema names p octets)
    (hq : SealedPayload schema' names' q octets) : schema = schema' := by
  have h := hp.get_eq hq (py "schema")
  rw [hp.schema_eq, hq.schema_eq] at h
  exact Json.str.inj h

/-- **A payload of known keys is determined by its canonical text.** -/
theorem ext (hp : SealedPayload schema names p octets) (hq : SealedPayload schema' names q octets) :
    p = q :=
  fields_ext (hp.keys_eq.trans hq.keys_eq.symm) hp.plain.1 fun key _ => hp.get_eq hq key

/-- Values that sorting leaves alone, under keys of which none is written twice. -/
theorem of_fields (hkeys : keys p = names) (hnodup : names.Nodup)
    (hnames : ∀ key ∈ names, ∀ c ∈ key, isScalar c = true)
    (hschema : get p (py "schema") = .str schema)
    (hvalues : ∀ key ∈ names, Plain (get p key) ∧ sortKeys (get p key) = get p key)
    (hoctets : octets = toAscii (canonical (.obj p))) : SealedPayload schema names p octets where
  keys_eq := hkeys
  schema_eq := hschema
  plain := by
    subst hkeys
    refine ⟨hnodup, plainFields_iff.mpr fun kv hkv => ?_⟩
    have hkey : kv.1 ∈ keys p := List.mem_map.mpr ⟨kv, hkv, rfl⟩
    refine ⟨hnames kv.1 hkey, ?_⟩
    rw [← get_of_mem hnodup (show (kv.1, kv.2) ∈ p from hkv)]
    exact (hvalues kv.1 hkey).1
  sorted := by
    intro key
    by_cases hkey : key ∈ names
    · exact (hvalues key hkey).2
    · have hnone : get p key = .null := by
        rw [get, List.lookup_eq_none_iff.mpr, Option.getD_none]
        rintro ⟨k, v⟩ hkv
        rw [bne_iff_ne]
        rintro rfl
        exact hkey (hkeys ▸ List.mem_map.mpr ⟨(key, v), hkv, rfl⟩)
      rw [hnone]
      rfl
  octets_eq := hoctets

end SealedPayload

end Json

/-! ## The characters of a URL -/

namespace Url

theorem mem_cutOr {c x : ℕ} {s : PyStr} (hx : x ∈ s) :
    x ∈ (cutOr c s).1 ∨ x = c ∨ x ∈ (cutOr c s).2 := by
  by_cases hmem : c ∈ s
  · obtain ⟨front, rest, rfl, hfront⟩ := List.eq_append_cons_of_mem hmem
    rw [cutOr, cut_append hfront]
    rcases List.mem_append.mp hx with hx | hx
    · exact Or.inl hx
    · rcases List.mem_cons.mp hx with rfl | hx
      · exact Or.inr (Or.inl rfl)
      · exact Or.inr (Or.inr hx)
  · rw [cutOr_of_notMem hmem]
    exact Or.inl hx

/-- What is cleaned away is ASCII. -/
theorem isAscii_of_clean {url : PyStr} (h : ∀ c ∈ clean url, isAscii c = true) :
    ∀ c ∈ url, isAscii c = true := by
  intro c hc
  rw [← List.takeWhile_append_dropWhile (p := isC0OrSpace) (l := url)] at hc
  rcases List.mem_append.mp hc with hc | hc
  · have hspace := List.mem_takeWhile_imp hc
    rw [isC0OrSpace, decide_eq_true_eq] at hspace
    rw [isAscii, decide_eq_true_eq]
    omega
  · by_cases hremoved : isUnsafe c = true
    · simp only [isUnsafe, Bool.or_eq_true, beq_iff_eq] at hremoved
      rcases hremoved with (rfl | rfl) | rfl
      all_goals rfl
    · exact h c (List.mem_filter.mpr ⟨hc, by simp [hremoved]⟩)

theorem isAscii_of_splitScheme {url : PyStr} (h : ∀ c ∈ (splitScheme url).2, isAscii c = true) :
    ∀ c ∈ url, isAscii c = true := by
  by_cases hmem : 58 ∈ url
  case neg =>
    rwa [splitScheme, cut_of_notMem hmem] at h
  obtain ⟨scheme, rest, rfl, hscheme⟩ := List.eq_append_cons_of_mem hmem
  rw [splitScheme, cut_append hscheme] at h
  cases scheme with
  | nil => exact h
  | cons a scheme =>
      dsimp only at h
      split_ifs at h with hall
      · rw [Bool.and_eq_true, List.all_eq_true] at hall
        intro c hc
        rcases List.mem_append.mp hc with hc | hc
        · have hchar := hall.2 c hc
          simp only [isSchemeChar, Bool.or_eq_true, beq_iff_eq] at hchar
          rcases hchar with ((halnum | rfl) | rfl) | rfl
          · exact isAscii_of_isAlnum halnum
          all_goals rfl
        · rcases List.mem_cons.mp hc with rfl | hc
          · rfl
          · exact h c hc
      · exact h

theorem isAscii_of_splitNetloc {url : PyStr} (hnetloc : ∀ c ∈ (splitNetloc url).1, isAscii c = true)
    (hrest : ∀ c ∈ (splitNetloc url).2, isAscii c = true) : ∀ c ∈ url, isAscii c = true := by
  unfold splitNetloc at hnetloc hrest
  split_ifs at hnetloc hrest with hslashes
  · obtain ⟨rest, rfl⟩ := startsWith_iff.mp hslashes
    intro c hc
    rcases List.mem_append.mp hc with hc | hc
    · exact (show ∀ c ∈ py "//", isAscii c = true by decide) c hc
    · rw [← List.takeWhile_append_dropWhile (p := fun c => !endsNetloc c) (l := rest)] at hc
      rcases List.mem_append.mp hc with hc | hc
      · exact hnetloc c hc
      · exact hrest c hc
  · exact hrest

/-- A URL is ASCII when its parts are. -/
theorem isAscii_of_urlsplit [Platform] {url : PyStr} {parts : SplitResult}
    (h : urlsplit url = .ok parts) (hnetloc : ∀ c ∈ parts.netloc, isAscii c = true)
    (hpath : ∀ c ∈ parts.path, isAscii c = true) (hquery : ∀ c ∈ parts.query, isAscii c = true)
    (hfragment : ∀ c ∈ parts.fragment, isAscii c = true) : ∀ c ∈ url, isAscii c = true := by
  unfold urlsplit at h
  dsimp only at h
  split_ifs at h
  cases h
  refine isAscii_of_clean (isAscii_of_splitScheme (isAscii_of_splitNetloc hnetloc fun c hc => ?_))
  rcases mem_cutOr (c := 35) hc with hc | rfl | hc
  · rcases mem_cutOr (c := 63) hc with hc | rfl | hc
    · exact hpath c hc
    · rfl
    · exact hquery c hc
  · rfl
  · exact hfragment c hc

end Url

namespace Receipt

/-- An accepted pull-request URL is ASCII. -/
theorem isAscii_of_parse [Platform] {url : PyStr} {ref : PullRequestRef}
    (h : parseGithubPullRequestUrl url = .ok ref) : ∀ c ∈ url, isAscii c = true := by
  rcases parse_cases url with ⟨-, message, herr⟩ | ⟨-, e, -, herr⟩ | ⟨-, parts, -, -, message, herr⟩ |
      ⟨-, parts, owner, repository, digits, hsplit, hparts, hend⟩
  · rw [herr] at h
    cases h
  · rw [herr] at h
    cases h
  · rw [herr] at h
    cases h
  rcases hend with ⟨-, herr⟩ | ⟨-, -, message, herr⟩ | ⟨-, -, ref', hok, rfl, rfl, -⟩
  · rw [herr] at h
    cases h
  · rw [herr] at h
    cases h
  obtain ⟨hnetloc, hmatch⟩ := eq_of_pullRequestParts hparts
  obtain ⟨-, -, hdigits⟩ := matchPath_digits hmatch
  have hhost : parts.query = [] ∧ parts.fragment = [] := by
    unfold pullRequestParts at hparts
    split_ifs at hparts with hhost
    exact hhost.2.2
  have hname : ∀ c ∈ ref'.fullName, isAscii c = true := isAscii_fullName ref'
  refine Url.isAscii_of_urlsplit hsplit ?_ ?_ ?_ ?_
  · rw [hnetloc]
    exact show ∀ c ∈ py "github.com", isAscii c = true by decide
  · have hpath : parts.path = 47 :: (ref'.fullName ++ py "/pull/" ++ digits) := by
      rw [eq_of_matchPath hmatch, PullRequestRef.fullName]
      simp only [List.cons_append, List.append_assoc]
    rw [hpath, List.forall_mem_cons, List.forall_mem_append, List.forall_mem_append]
    exact ⟨rfl, ⟨hname, by decide⟩, fun c hc => isAscii_of_isDigit (List.all_eq_true.mp hdigits c hc)⟩
  · rw [hhost.1]
    exact fun c hc => absurd hc List.not_mem_nil
  · rw [hhost.2]
    exact fun c hc => absurd hc List.not_mem_nil

end Receipt

/-! ## What the program signs -/

/-- Something that a key of the program signs: a message with its room, the text of its nonce and
its swept text, or a payload. -/
inductive Artifact
  | message (room nonce text : PyStr)
  | auditEntry (payload : JsonFields)
  | pullRequestReceipt (payload : JsonFields)
  | workReceipt (payload : JsonFields)
  | countersignature (payload : JsonFields)

/-- What an artifact is. -/
inductive ArtifactKind
  | message
  | auditEntry
  | pullRequestReceipt
  | workReceipt
  | countersignature
  deriving DecidableEq

/-- The kind of an artifact. -/
def Artifact.kind : Artifact → ArtifactKind
  | .message _ _ _ => .message
  | .auditEntry _ => .auditEntry
  | .pullRequestReceipt _ => .pullRequestReceipt
  | .workReceipt _ => .workReceipt
  | .countersignature _ => .countersignature

section Signing

variable [Platform]

namespace Crypto

/-- What `sign_room_message` signs: the text of the nonce, the swept text and the octets. -/
def messageOctets (room : PyStr) (nonce : Json) (text : PyStr) : PyResult (PyStr × PyStr × Bytes) := do
  let validRoom ← validateRoom room
  let validNonce ← validateNonce nonce
  let swept ← sweepText text
  let canonical ← roomMessageOctets validRoom validNonce swept
  return (validNonce, swept, canonical)

/-- `sign_room_message` passes nothing else to the key. -/
theorem signRoomMessage_eq (key : Platform.PrivateKey) (room : PyStr) (nonce : Json) (text : PyStr) :
    signRoomMessage key room nonce text = (do
      let message ← messageOctets room nonce text
      let signature ← signDetached key message.2.2
      return (message.2.1, signature)) := by
  simp only [signRoomMessage, messageOctets, bind_assoc, pure_bind]

end Crypto

namespace Audit

/-- What `append` signs: the payload of the next entry, once it is valid, and its octets. -/
def entryOctets (issuer : PyStr) (args : AuditArgs) (raw : Bytes) : PyResult (JsonFields × Bytes) := do
  let summary ← verifyBytes raw
  if summary.issuer.any (· != issuer) then
    .error (auditError "audit log already belongs to a different issuer")
  else do
    let observedAt ← formatTimestamp args.observedAt
    let payload := nextPayload summary issuer observedAt args
    validatePayload payload
    let canonicalPayload ← canonicalJson (.obj payload)
    return (payload, canonicalPayload)

/-- `append` passes nothing else to the key. -/
theorem appendRecord_eq (issuer : PyStr) (args : AuditArgs) (raw : Bytes) :
    ∃ rest : JsonFields × Bytes → PyStr → PyResult (Bytes × PyStr), ∀ key,
      appendRecord key issuer args raw = (do
        let entry ← entryOctets issuer args raw
        let signature ← Crypto.signDetached key entry.2
        rest entry signature) := by
  refine ⟨fun entry signature => do
    let wrapper := wrapperOf entry.1 (Sha256.sha256Hex entry.2) signature
    let line ← canonicalJson (.obj wrapper)
    if maxAuditLineBytes < (line ++ [10]).length then
      .error (auditError "audit entry exceeds the 16 KiB line limit")
    else if maxAuditBytes < raw.length + (line ++ [10]).length then
      .error (auditError "audit log exceeds the 16 MiB safety limit")
    else do
      let hash ← entryHash (.obj wrapper)
      return (line ++ [10], hash), fun key => ?_⟩
  simp only [appendRecord, entryOctets, bind_assoc]
  congr 1
  funext summary
  by_cases howner : summary.issuer.any (· != issuer) = true
  · rw [if_pos howner, if_pos howner]
    rfl
  · rw [if_neg howner, if_neg howner]
    simp only [bind_assoc, pure_bind]

end Audit

namespace Receipt

/-- `build_signed_receipt` checks the DID of the key, and passes nothing else to it. -/
theorem buildSignedReceipt_eq (evidence : PullRequestEvidence) (issuerDid : PyStr)
    (observedAt : ObservedAt) :
    ∃ (check : PyResult PyStr → PyResult Unit)
      (rest : JsonFields × Bytes → PyStr → PyResult JsonFields),
      ∀ key, buildSignedReceipt evidence issuerDid key observedAt = (do
        check (Crypto.didFromPrivateKey key)
        let receipt ← receiptOctets evidence issuerDid observedAt
        let signature ← Crypto.signDetached key receipt.2
        rest receipt signature) := by
  refine ⟨fun did => do
    let _ ← Crypto.validateDid issuerDid
    let keyDid ← did
    if keyDid ≠ issuerDid then
      .error (receiptError "receipt_issuer_mismatch"
        "receipt signing key does not match its issuer DID")
    else .ok (), fun receipt signature => .ok (receiptFields receipt.1 receipt.2 signature),
    fun key => ?_⟩
  simp only [buildSignedReceipt, bind_assoc]
  congr 1
  funext _
  congr 1
  funext keyDid
  by_cases hother : keyDid ≠ issuerDid
  · rw [if_pos hother, if_pos hother]
    rfl
  · rw [if_neg hother, if_neg hother]
    rfl

end Receipt

namespace WorkReceipt

open Json

/-- What `create_work_receipt` signs. -/
def receiptOctets (payload : JsonFields) : PyResult Bytes := do
  validateWorkPayload payload
  canonicalJson payload

/-- `create_work_receipt` passes nothing else to the key. -/
theorem newEnvelope_eq (payload : JsonFields) :
    ∃ rest : Bytes → PyStr → PyResult JsonFields, ∀ key, newEnvelope payload key = (do
      let octets ← receiptOctets payload
      let signature ← Crypto.signDetached key octets
      rest octets signature) := by
  refine ⟨fun octets signature => do
    let envelope : JsonFields :=
      [(py "schema", .str workReceiptEnvelopeSchema),
        (py "receipt", .obj [(py "payload", .obj payload),
          (py "payload_sha256", .str (Sha256.sha256Hex octets)), (py "signature", .str signature)]),
        (py "countersignatures", .arr [])]
    let _ ← verifyWorkReceipt (.value (.obj envelope))
    return envelope, fun key => ?_⟩
  simp only [newEnvelope, receiptOctets, signedWrapper, bind_assoc, pure_bind]

/-- What `countersign_work_receipt` signs. -/
def counterOctets (summary : WorkReceiptSummary) (envelope : JsonFields) (verifierDid : PyStr)
    (observedAt : ObservedAt) : PyResult (JsonFields × Bytes) := do
  let executionHash ← executionSha256 summary.payload
  let timestamp ← formatTimestamp observedAt
  let payload := counterPayload (get envelope (py "receipt")) executionHash verifierDid timestamp
  let octets ← canonicalJson payload
  return (payload, octets)

/-- `countersign_work_receipt` passes nothing else to the key. -/
theorem appendCountersignature_eq (summary : WorkReceiptSummary) (envelope : JsonFields)
    (verifierDid : PyStr) (observedAt : ObservedAt) :
    ∃ rest : JsonFields × Bytes → PyStr → PyResult JsonFields, ∀ key,
      appendCountersignature summary envelope verifierDid key observedAt = (do
        let counter ← counterOctets summary envelope verifierDid observedAt
        let signature ← Crypto.signDetached key counter.2
        rest counter signature) := by
  refine ⟨fun counter signature => do
    let updated : JsonFields :=
      [(py "schema", .str workReceiptEnvelopeSchema), (py "receipt", get envelope (py "receipt")),
        (py "countersignatures", .arr (countersignaturesOf envelope ++
          [.obj [(py "payload", .obj counter.1),
            (py "payload_sha256", .str (Sha256.sha256Hex counter.2)),
            (py "signature", .str signature)]]))]
    let _ ← verifyWorkReceipt (.value (.obj updated))
    return updated, fun key => ?_⟩
  simp only [appendCountersignature, counterOctets, counterPayload, signedWrapper, bind_assoc,
    pure_bind]

end WorkReceipt

/-- The octets that the program passes to a key, and what they are of. -/
inductive Signed : Artifact → Bytes → Prop
  | message {room : PyStr} {nonce : Json} {text rendered swept : PyStr} {octets : Bytes}
      (h : Crypto.messageOctets room nonce text = .ok (rendered, swept, octets)) :
      Signed (.message room rendered swept) octets
  | auditEntry {issuer : PyStr} {args : AuditArgs} {raw : Bytes} {payload : JsonFields}
      {octets : Bytes} (h : Audit.entryOctets issuer args raw = .ok (payload, octets)) :
      Signed (.auditEntry payload) octets
  | pullRequestReceipt {evidence : PullRequestEvidence} {issuer : PyStr} {observedAt : ObservedAt}
      {payload : JsonFields} {octets : Bytes}
      (h : Receipt.receiptOctets evidence issuer observedAt = .ok (payload, octets)) :
      Signed (.pullRequestReceipt payload) octets
  | workReceipt {issuer : PyStr} {checkout : WorkReceipt.Checkout} {argv : List PyStr}
      {timeoutMs : ℕ} {execution : WorkReceipt.Execution} {octets : Bytes}
      (h : WorkReceipt.receiptOctets
        (WorkReceipt.workPayload issuer checkout argv timeoutMs execution) = .ok octets) :
      Signed (.workReceipt (WorkReceipt.workPayload issuer checkout argv timeoutMs execution)) octets
  | countersignature {receipt : Receipt.ReceiptInput} {summary : WorkReceipt.WorkReceiptSummary}
      {envelope : JsonFields} {verifier : PyStr} {observedAt : ObservedAt} {payload : JsonFields}
      {octets : Bytes} (hreceipt : WorkReceipt.verifyAndDecode receipt = .ok (summary, envelope))
      (hverifier : Crypto.isDid verifier = true)
      (h : WorkReceipt.counterOctets summary envelope verifier observedAt = .ok (payload, octets)) :
      Signed (.countersignature payload) octets

/-! ## The payloads -/

open Json

theorem sealed_auditEntry {issuer : PyStr} {args : AuditArgs} {raw octets : Bytes}
    {payload : JsonFields} (h : Audit.entryOctets issuer args raw = .ok (payload, octets)) :
    SealedPayload Audit.auditSchema Audit.payloadKeys payload octets := by
  unfold Audit.entryOctets at h
  obtain ⟨summary, -, h⟩ := PyResult.bind_ok h
  split_ifs at h with howner
  obtain ⟨observedAt, -, h⟩ := PyResult.bind_ok h
  obtain ⟨⟨⟩, hvalid, h⟩ := PyResult.bind_ok h
  obtain ⟨octets', hoctets, h⟩ := PyResult.bind_ok h
  cases h
  have hnodup : (keys (Audit.nextPayload summary issuer observedAt args)).Nodup :=
    show Audit.payloadKeys.Nodup by decide
  have hfit := (Audit.canonicalJson_ok hoctets).1
  rw [intsFit] at hfit
  have hplain := (Audit.plain_of_valid hvalid hnodup hfit).1
  refine ⟨rfl, rfl, hplain, fun key => ?_, Audit.canonicalJson_plain hplain hoctets⟩
  exact (get_of_forall (P := Audit.Scalar) trivial
    (fun kv hkv => (Audit.scalar_of_mem hvalid hnodup hkv).2) key).sortKeys

omit [Platform] in
theorem isAscii_pad2 (n : ℕ) : ∀ c ∈ Audit.pad2 n, isAscii c = true := by
  intro c hc
  simp only [Audit.pad2, List.mem_cons, List.not_mem_nil, or_false] at hc
  rw [isAscii, decide_eq_true_eq]
  omega

theorem isAscii_formatYear (n : ℕ) : ∀ c ∈ Audit.formatYear n, isAscii c = true := by
  intro c hc
  unfold Audit.formatYear at hc
  split_ifs at hc with hpads
  · simp only [List.mem_cons, List.not_mem_nil, or_false] at hc
    rw [isAscii, decide_eq_true_eq]
    omega
  · exact isAscii_of_isDigit (isDigit_of_mem_decimal hc)

/-- A timestamp is written in ASCII. -/
theorem isAscii_formatTimestamp {value : ObservedAt} {stamp : PyStr}
    (h : WorkReceipt.formatTimestamp value = .ok stamp) : ∀ c ∈ stamp, isAscii c = true := by
  cases value with
  | naive => cases h
  | outOfRange => cases h
  | utc t =>
      cases h
      have hpad := isAscii_pad2
      simp only [List.forall_mem_append, List.forall_mem_cons, List.not_mem_nil, false_implies,
        implies_true, and_true]
      exact ⟨⟨⟨⟨⟨⟨isAscii_formatYear t.year, rfl, hpad _⟩, rfl, hpad _⟩, rfl, hpad _⟩, rfl, hpad _⟩,
        rfl, hpad _⟩, rfl⟩

omit [Platform] in
theorem plainItems_str {F : PyStr → Prop} {argv : List PyStr}
    (h : Within Scalars F (.arr (argv.map .str))) : Plain (.arr (argv.map .str)) := by
  rw [Within] at h
  rw [Plain]
  induction argv with
  | nil => trivial
  | cons s argv ih => exact ⟨h.1, ih h.2⟩

theorem sealed_workReceipt {issuer : PyStr} {checkout : WorkReceipt.Checkout} {argv : List PyStr}
    {timeoutMs : ℕ} {execution : WorkReceipt.Execution} {octets : Bytes}
    (h : WorkReceipt.receiptOctets
      (WorkReceipt.workPayload issuer checkout argv timeoutMs execution) = .ok octets) :
    SealedPayload WorkReceipt.workReceiptSchema WorkReceipt.workPayloadKeys
      (WorkReceipt.workPayload issuer checkout argv timeoutMs execution) octets := by
  unfold WorkReceipt.receiptOctets at h
  obtain ⟨⟨⟩, hvalid, h⟩ := PyResult.bind_ok h
  have hleaves := (WorkReceipt.validateWorkPayload_ok hvalid).leaves
  simp only [WorkReceipt.workSizes, List.forall_mem_cons, List.not_mem_nil, false_implies,
    implies_true, and_true] at hleaves
  obtain ⟨hschema, hissuer, hrepository, hcommit, hcommand, htimeout, hresult, hexit, hout, houtSize,
    herr, herrSize, hstarted, hcompleted, hduration⟩ := hleaves
  have hcode : Plain (WorkReceipt.exitCodeJson execution.exitCode) := by
    have hplain := hexit.compact.plain
    cases hexecution : execution.exitCode with
    | none => trivial
    | some code =>
        rw [show get _ (py "exit_code") = WorkReceipt.exitCodeJson execution.exitCode from rfl,
          hexecution] at hplain
        exact hplain
  refine SealedPayload.of_fields rfl (by decide) (by decide) rfl ?_ (WorkReceipt.canonicalJson_ok h).2
  simp only [WorkReceipt.workPayloadKeys, List.forall_mem_cons, List.not_mem_nil, false_implies,
    implies_true, and_true]
  exact ⟨⟨hschema.compact.plain, hschema.sorted⟩, ⟨hissuer.compact.plain, hissuer.sorted⟩,
    ⟨hrepository.compact.plain, hrepository.sorted⟩, ⟨hcommit.compact.plain, hcommit.sorted⟩,
    ⟨plainItems_str hcommand.compact.plain, hcommand.sorted⟩,
    ⟨htimeout.compact.plain, htimeout.sorted⟩, ⟨hresult.compact.plain, hresult.sorted⟩,
    ⟨hcode, hexit.sorted⟩, ⟨hout.compact.plain, hout.sorted⟩,
    ⟨houtSize.compact.plain, houtSize.sorted⟩, ⟨herr.compact.plain, herr.sorted⟩,
    ⟨herrSize.compact.plain, herrSize.sorted⟩, ⟨hstarted.compact.plain, hstarted.sorted⟩,
    ⟨hcompleted.compact.plain, hcompleted.sorted⟩, ⟨hduration.compact.plain, hduration.sorted⟩⟩

theorem sealed_countersignature {receipt : Receipt.ReceiptInput}
    {summary : WorkReceipt.WorkReceiptSummary} {envelope payload : JsonFields} {verifier : PyStr}
    {observedAt : ObservedAt} {octets : Bytes}
    (hreceipt : WorkReceipt.verifyAndDecode receipt = .ok (summary, envelope))
    (hverifier : Crypto.isDid verifier = true)
    (h : WorkReceipt.counterOctets summary envelope verifier observedAt = .ok (payload, octets)) :
    SealedPayload WorkReceipt.workCountersignatureSchema WorkReceipt.countersignaturePayloadKeys
      payload octets := by
  unfold WorkReceipt.counterOctets at h
  obtain ⟨execution, hexecution, h⟩ := PyResult.bind_ok h
  obtain ⟨stamp, hstamp, h⟩ := PyResult.bind_ok h
  obtain ⟨octets', hoctets, h⟩ := PyResult.bind_ok h
  cases h
  have hascii : ∀ {s : PyStr}, (∀ c ∈ s, isAscii c = true) →
      Plain (.str s) ∧ sortKeys (.str s) = .str s := fun hs =>
    ⟨fun c hc => isScalar_of_isAscii (hs c hc), rfl⟩
  have hhex : ∀ b, ∀ c ∈ Sha256.sha256Hex b, isAscii c = true := fun b c hc =>
    isAscii_of_isHexLower (Sha256.isHexLower_of_mem_sha256Hex hc)
  -- the receipt that is countersigned was verified, so its hash is one
  obtain ⟨-, -, issuer, verifiers, haccepted⟩ := WorkReceipt.verifyAndDecode_ok hreceipt
  obtain ⟨receiptHash, _, _, _, _, hsigned, -⟩ := haccepted.1.counters
  obtain ⟨canonical, _, -, rfl, -⟩ := hsigned.signed
  have hreference : get (WorkReceipt.counterPayload (get envelope (py "receipt")) execution verifier
      stamp) (py "receipt_payload_sha256") = .str (Sha256.sha256Hex canonical) := hsigned.hash_eq
  have hexecuted : ∀ c ∈ execution, isAscii c = true := by
    unfold WorkReceipt.executionSha256 at hexecution
    obtain ⟨b, -, hb⟩ := PyResult.bind_ok (f := fun b => .ok (Sha256.sha256Hex b)) hexecution
    cases hb
    exact hhex b
  refine SealedPayload.of_fields rfl (by decide) (by decide) rfl ?_
    (WorkReceipt.canonicalJson_ok hoctets).2
  simp only [WorkReceipt.countersignaturePayloadKeys, List.forall_mem_cons, List.not_mem_nil,
    false_implies, implies_true, and_true, hreference]
  exact ⟨hascii (show ∀ c ∈ WorkReceipt.workCountersignatureSchema, isAscii c = true by decide),
    hascii (Audit.isAscii_of_isDid hverifier), hascii (hhex canonical), hascii hexecuted,
    hascii (isAscii_formatTimestamp hstamp)⟩

section Receipts

open Receipt Audit

omit [Platform] in
theorem scalar_of_requireSha {value : Json} {label : String} {sha : PyStr}
    (h : requireSha value label = .ok sha) : Scalar value := by
  obtain ⟨rfl, hsha⟩ := requireSha_eq_ok.mp h
  exact scalar_ascii (isAscii_of_isSha hsha)

omit [Platform] in
theorem scalar_of_requireCount {value : Json} {label : String} {n : ℕ}
    (h : requireCount value label = .ok n) : Scalar value := by
  rw [Protocol.eq_int_of_asNat (requireCount_ok h)]
  trivial

omit [Platform] in
theorem scalar_of_requireTimestamp {value : Json} {label stamp}
    (h : requireTimestamp value label = .ok stamp) : Scalar value := by
  obtain ⟨rfl, hstamp⟩ := requireTimestamp_eq_ok.mp h
  obtain ⟨t, ht⟩ := Option.isSome_iff_exists.mp hstamp
  exact scalar_ascii (UtcTime.isAscii_of_parseIso ht)

omit [Platform] in
theorem scalar_of_asBool {value : Json} {b : Bool} (h : asBool value = some b) : Scalar value := by
  cases value with
  | bool _ => trivial
  | _ => cases h

variable {payload : JsonFields}

omit [Platform] in
theorem scalar_header (h : validateReceiptHeader payload = .ok ()) :
    ∀ key ∈ [py "schema", py "source", py "api_version", py "issuer"], Scalar (get payload key) := by
  unfold validateReceiptHeader at h
  split_ifs at h with hconst
  simp only [not_or, not_not, isStr_iff] at hconst
  obtain ⟨hschema, hsource, hversion⟩ := hconst
  have hissuer : Scalar (get payload (py "issuer")) := by
    cases hdid : Crypto.validateDidValue (get payload (py "issuer")) with
    | error e =>
        rw [hdid] at h
        cases h
    | ok did =>
        have hcheck : Audit.checkDid (get payload (py "issuer")) = .ok did := by
          rw [Audit.checkDid, hdid]
        obtain ⟨hvalue, hvalid⟩ := Audit.checkDid_ok hcheck
        rw [hvalue]
        exact scalar_ascii (Audit.isAscii_of_isDid hvalid)
  simp only [List.forall_mem_cons, List.not_mem_nil, false_implies, implies_true, and_true, hschema,
    hsource, hversion]
  have hascii : ∀ s ∈ [receiptSchema, receiptSource, gitHubApiVersion], ∀ c ∈ s,
      isAscii c = true := by decide
  exact ⟨scalar_ascii (hascii _ (by simp)), scalar_ascii (hascii _ (by simp)),
    scalar_ascii (hascii _ (by simp)), hissuer⟩

theorem scalar_subject (h : validateReceiptSubject payload = .ok ()) :
    ∀ key ∈ [py "repository", py "pull_number", py "url", py "author", py "state", py "merged",
      py "draft"], Scalar (get payload key) := by
  obtain ⟨url, ref, hurl, hparse, hrepository, hnumber⟩ := validateReceiptSubject_ok h
  unfold validateReceiptSubject at h
  obtain ⟨repository, -, h⟩ := PyResult.bind_ok h
  obtain ⟨number, -, h⟩ := PyResult.bind_ok h
  by_cases hzero : number = 0
  · rw [if_pos hzero] at h
    cases h
  rw [if_neg hzero] at h
  obtain ⟨ref', -, h⟩ := PyResult.bind_ok h
  by_cases hdiffers : ref'.fullName ≠ repository ∨ ref'.number ≠ number
  · rw [if_pos hdiffers] at h
    cases h
  rw [if_neg hdiffers] at h
  by_cases hauthor : (get payload (py "author")).asStr.any isAuthor = false
  · rw [if_pos hauthor] at h
    cases h
  rw [if_neg hauthor] at h
  obtain ⟨known, hknown, h⟩ := PyResult.bind_ok h
  split_ifs at h with hstate hflags
  simp only [not_or, Option.isNone_iff_eq_none, ← Option.isSome_iff_ne_none] at hflags
  obtain ⟨merged, hmerged⟩ := Option.isSome_iff_exists.mp hflags.1
  obtain ⟨draft, hdraft⟩ := Option.isSome_iff_exists.mp hflags.2
  -- the author is matched by a pattern of ASCII characters
  have hlogin : Scalar (get payload (py "author")) := by
    cases hvalue : get payload (py "author") with
    | str s =>
        rw [hvalue] at hauthor
        simp only [asStr, Option.any_some, Bool.not_eq_false] at hauthor
        exact scalar_ascii (isAscii_of_isAuthor hauthor)
    | _ =>
        rw [hvalue] at hauthor
        exact absurd rfl hauthor
  have hstateScalar := scalar_of_inNames (by decide) hknown hstate
  simp only [List.forall_mem_cons, List.not_mem_nil, false_implies, implies_true, and_true,
    hrepository, hnumber, hurl]
  exact ⟨scalar_ascii (isAscii_fullName ref), trivial, scalar_ascii (isAscii_of_parse hparse), hlogin,
    hstateScalar, scalar_of_asBool hmerged, scalar_of_asBool hdraft⟩

omit [Platform] in
theorem scalar_commits (h : validateReceiptCommits payload = .ok ()) :
    ∀ key ∈ [py "head_sha", py "base_sha", py "merge_commit_sha"], Scalar (get payload key) := by
  unfold validateReceiptCommits at h
  obtain ⟨head, hhead, h⟩ := PyResult.bind_ok h
  obtain ⟨base, hbase, h⟩ := PyResult.bind_ok h
  have hmerge : Scalar (get payload (py "merge_commit_sha")) := by
    split at h
    · rename_i hnull
      rw [hnull]
      trivial
    · obtain ⟨sha, hsha, -⟩ := PyResult.bind_ok h
      exact scalar_of_requireSha hsha
    · cases h
  simp only [List.forall_mem_cons, List.not_mem_nil, false_implies, implies_true, and_true]
  exact ⟨scalar_of_requireSha hhead, scalar_of_requireSha hbase, hmerge⟩

omit [Platform] in
theorem scalar_ci (h : validateReceiptCi payload = .ok ()) :
    ∀ key ∈ [py "ci", py "ci_data_complete", py "checks_observed", py "checks_total",
      py "statuses_observed", py "statuses_total"], Scalar (get payload key) := by
  unfold validateReceiptCi at h
  obtain ⟨known, hknown, h⟩ := PyResult.bind_ok h
  by_cases hci : ¬known = true ∨ (asBool (get payload (py "ci_data_complete"))).isNone = true
  · rw [if_pos hci] at h
    cases h
  rw [if_neg hci] at h
  rw [not_or, not_not] at hci
  obtain ⟨⟨signals, complete⟩, hcounts, -⟩ := PyResult.bind_ok h
  unfold validateReceiptCiCounts at hcounts
  obtain ⟨checksObserved, hchecksObserved, hcounts⟩ := PyResult.bind_ok hcounts
  obtain ⟨checksTotal, hchecksTotal, hcounts⟩ := PyResult.bind_ok hcounts
  obtain ⟨statusesObserved, hstatusesObserved, hcounts⟩ := PyResult.bind_ok hcounts
  obtain ⟨statusesTotal, hstatusesTotal, hcounts⟩ := PyResult.bind_ok hcounts
  have hflag : ∃ b, asBool (get payload (py "ci_data_complete")) = some b := by
    cases hvalue : asBool (get payload (py "ci_data_complete")) with
    | none => exact absurd (by rw [hvalue]; rfl) hci.2
    | some b => exact ⟨b, rfl⟩
  obtain ⟨b, hb⟩ := hflag
  simp only [List.forall_mem_cons, List.not_mem_nil, false_implies, implies_true, and_true]
  exact ⟨scalar_of_inNames (by decide) hknown hci.1, scalar_of_asBool hb,
    scalar_of_requireCount hchecksObserved, scalar_of_requireCount hchecksTotal,
    scalar_of_requireCount hstatusesObserved, scalar_of_requireCount hstatusesTotal⟩

/-- An accepted payload holds nothing but scalars. -/
theorem scalar_receipt (h : validateReceiptPayload payload = .ok ()) :
    ∀ key ∈ receiptPayloadKeys, Scalar (get payload key) := by
  unfold validateReceiptPayload at h
  split_ifs at h with hkeys
  obtain ⟨⟨⟩, hheader, h⟩ := PyResult.bind_ok h
  obtain ⟨⟨⟩, hsubject, h⟩ := PyResult.bind_ok h
  obtain ⟨⟨⟩, hcommits, h⟩ := PyResult.bind_ok h
  obtain ⟨⟨⟩, hci, h⟩ := PyResult.bind_ok h
  obtain ⟨updated, hupdated, h⟩ := PyResult.bind_ok h
  obtain ⟨observed, hobserved, -⟩ := PyResult.bind_ok h
  have hheader := scalar_header hheader
  have hsubject := scalar_subject hsubject
  have hcommits := scalar_commits hcommits
  have hci := scalar_ci hci
  simp only [receiptPayloadKeys, List.forall_mem_cons, List.not_mem_nil, false_implies, implies_true,
    and_true] at hheader hsubject hcommits hci ⊢
  obtain ⟨hschema, hsource, hversion, hissuer⟩ := hheader
  obtain ⟨hrepository, hnumber, hurl, hauthor, hstate, hmerged, hdraft⟩ := hsubject
  obtain ⟨hhead, hbase, hmerge⟩ := hcommits
  obtain ⟨hsummary, hcomplete, hchecks, hchecksTotal, hstatuses, hstatusesTotal⟩ := hci
  exact ⟨hschema, hissuer, hsource, hversion, hrepository, hnumber, hurl, hauthor, hstate, hmerged,
    hdraft, hhead, hbase, hmerge, hsummary, hcomplete, hchecks, hchecksTotal, hstatuses,
    hstatusesTotal, scalar_of_requireTimestamp hupdated, scalar_of_requireTimestamp hobserved⟩

theorem sealed_pullRequestReceipt {evidence : PullRequestEvidence} {issuer : PyStr}
    {observedAt : ObservedAt} {octets : Bytes}
    (h : receiptOctets evidence issuer observedAt = .ok (payload, octets)) :
    SealedPayload receiptSchema receiptPayloadKeys payload octets := by
  unfold receiptOctets at h
  obtain ⟨stamp, -, h⟩ := PyResult.bind_ok h
  obtain ⟨⟨⟩, hvalid, h⟩ := PyResult.bind_ok h
  obtain ⟨octets', hoctets, h⟩ := PyResult.bind_ok h
  cases h
  obtain ⟨hfit, hcanonical⟩ := WorkReceipt.canonicalJson_ok hoctets
  rw [intsFit, intsFitFields_iff] at hfit
  refine SealedPayload.of_fields rfl (by decide) (by decide) rfl (fun key hkey => ?_) hcanonical
  have hscalar := scalar_receipt hvalid key hkey
  exact ⟨hscalar.plain (get_of_forall (P := fun v => intsFit v = true) rfl hfit key), hscalar.sortKeys⟩

end Receipts

/-! ## Room messages -/

omit [Platform] in
/-- The text before the first bar, and the text after it. -/
theorem bar_inj {a b s t : PyStr} (ha : 124 ∉ a) (hb : 124 ∉ b) (h : a ++ 124 :: s = b ++ 124 :: t) :
    a = b ∧ s = t := by
  have hcut := congrArg (cut 124) h
  rw [cut_append ha, cut_append hb, Prod.mk.injEq, Option.some.injEq] at hcut
  exact hcut

omit [Platform] in
theorem bar_notMem_room {room : PyStr} (h : Crypto.isRoom room = true) : 124 ∉ room := by
  intro hmem
  cases room with
  | nil => cases h
  | cons c room =>
      simp only [Crypto.isRoom, Bool.and_eq_true, List.all_eq_true] at h
      rcases List.mem_cons.mp hmem with rfl | hmem
      · exact absurd h.1.1 (by decide)
      · exact absurd (h.2 124 hmem) (by decide)

omit [Platform] in
theorem bar_notMem_nonce {nonce : Json} {rendered : PyStr}
    (h : Crypto.validateNonce nonce = .ok rendered) :
    124 ∉ rendered := by
  have hnonce : Crypto.isNonce rendered = true := by
    unfold Crypto.validateNonce at h
    split at h
    · split_ifs at h with hvalid
      cases h
      exact hvalid
    · split_ifs at h with hfit hvalid
      cases h
      exact hvalid
    · cases h
  intro hmem
  simp only [Crypto.isNonce, Bool.and_eq_true, List.all_eq_true] at hnonce
  exact absurd (hnonce.2 124 hmem) (by decide)

/-- What makes up the octets of a message. -/
theorem messageOctets_ok {room text rendered swept : PyStr} {nonce : Json} {octets : Bytes}
    (h : Crypto.messageOctets room nonce text = .ok (rendered, swept, octets)) :
    Crypto.isRoom room = true ∧ 124 ∉ rendered ∧
      encodeUtf8 (room ++ 124 :: (rendered ++ 124 :: swept)) = some octets := by
  unfold Crypto.messageOctets at h
  obtain ⟨valid, hroom, h⟩ := PyResult.bind_ok h
  obtain ⟨rendered', hnonce, h⟩ := PyResult.bind_ok h
  obtain ⟨swept', -, h⟩ := PyResult.bind_ok h
  obtain ⟨octets', hoctets, h⟩ := PyResult.bind_ok h
  cases h
  unfold Crypto.validateRoom at hroom
  split_ifs at hroom with hvalid
  cases hroom
  refine ⟨hvalid, bar_notMem_nonce hnonce, ?_⟩
  unfold Crypto.roomMessageOctets at hoctets
  rw [List.append_assoc, List.cons_append] at hoctets
  split at hoctets
  · rename_i found hfound
    cases hoctets
    exact hfound
  · cases hoctets

/-- **A message is determined by its octets**: the room and the nonce end at a bar. -/
theorem message_injective {room room' text text' rendered rendered' swept swept' : PyStr}
    {nonce nonce' : Json} {octets : Bytes}
    (h : Crypto.messageOctets room nonce text = .ok (rendered, swept, octets))
    (h' : Crypto.messageOctets room' nonce' text' = .ok (rendered', swept', octets)) :
    room = room' ∧ rendered = rendered' ∧ swept = swept' := by
  obtain ⟨hroom, hbar, hoctets⟩ := messageOctets_ok h
  obtain ⟨hroom', hbar', hoctets'⟩ := messageOctets_ok h'
  have htext := encodeUtf8_injOn hoctets hoctets'
  obtain ⟨hroomEq, hrest⟩ := bar_inj (bar_notMem_room hroom) (bar_notMem_room hroom') htext
  exact ⟨hroomEq, bar_inj hbar hbar' hrest⟩

/-- A message starts with a lower-case letter or a digit, and a payload with a brace. -/
theorem message_ne_sealed {room text rendered swept : PyStr} {nonce : Json} {octets : Bytes}
    {schema : PyStr} {names : List PyStr} {payload : JsonFields}
    (h : Crypto.messageOctets room nonce text = .ok (rendered, swept, octets))
    (hsealed : SealedPayload schema names payload octets) : False := by
  obtain ⟨hroom, -, hoctets⟩ := messageOctets_ok h
  have hread := decodeUtf8_encodeUtf8 hoctets
  rw [hsealed.octets_eq, decodeUtf8_toAscii] at hread
  · cases room with
    | nil => cases hroom
    | cons c room =>
        obtain ⟨inner, hinner⟩ := Receipt.render_braces (sortByKey (sortKeysFields payload))
        rw [canonical, sortKeys, hinner, Option.some.injEq, List.cons_append, List.cons_append,
          List.cons.injEq] at hread
        simp only [Crypto.isRoom, Bool.and_eq_true] at hroom
        rw [← hread.1] at hroom
        exact absurd hroom.1.1 (by decide)
  · intro c hc
    have hascii := isAscii_render (plain_sortKeys _ hsealed.plain) c hc
    rwa [isAscii, decide_eq_true_eq] at hascii

/-! ## Separation -/

/-- The schema, the keys and the payload of an artifact that is no message. -/
inductive Sealed : Artifact → PyStr → List PyStr → JsonFields → Prop
  | auditEntry (payload : JsonFields) :
      Sealed (.auditEntry payload) Audit.auditSchema Audit.payloadKeys payload
  | pullRequestReceipt (payload : JsonFields) :
      Sealed (.pullRequestReceipt payload) Receipt.receiptSchema Receipt.receiptPayloadKeys payload
  | workReceipt (payload : JsonFields) :
      Sealed (.workReceipt payload) WorkReceipt.workReceiptSchema WorkReceipt.workPayloadKeys payload
  | countersignature (payload : JsonFields) :
      Sealed (.countersignature payload) WorkReceipt.workCountersignatureSchema
        WorkReceipt.countersignaturePayloadKeys payload

omit [Platform] in
/-- The schemas differ from kind to kind. -/
theorem Sealed.of_schema {a b : Artifact} {schema schema' : PyStr} {names names' : List PyStr}
    {p q : JsonFields} (ha : Sealed a schema names p) (hb : Sealed b schema' names' q)
    (h : schema = schema') : names = names' ∧ (p = q → a = b) := by
  cases ha <;> cases hb
  case auditEntry.auditEntry => exact ⟨rfl, congrArg _⟩
  case pullRequestReceipt.pullRequestReceipt => exact ⟨rfl, congrArg _⟩
  case workReceipt.workReceipt => exact ⟨rfl, congrArg _⟩
  case countersignature.countersignature => exact ⟨rfl, congrArg _⟩
  all_goals exact absurd h (by decide)

/-- What was signed is a message, or a payload under its schema. -/
theorem Signed.cases_message {a : Artifact} {octets : Bytes} (h : Signed a octets) :
    (∃ room nonce text rendered swept, a = .message room rendered swept ∧
      Crypto.messageOctets room nonce text = .ok (rendered, swept, octets)) ∨
    ∃ schema names payload, Sealed a schema names payload ∧
      SealedPayload schema names payload octets := by
  cases h with
  | message h => exact Or.inl ⟨_, _, _, _, _, rfl, h⟩
  | auditEntry h => exact Or.inr ⟨_, _, _, .auditEntry _, sealed_auditEntry h⟩
  | pullRequestReceipt h => exact Or.inr ⟨_, _, _, .pullRequestReceipt _, sealed_pullRequestReceipt h⟩
  | workReceipt h => exact Or.inr ⟨_, _, _, .workReceipt _, sealed_workReceipt h⟩
  | countersignature hreceipt hverifier h =>
      exact Or.inr ⟨_, _, _, .countersignature _, sealed_countersignature hreceipt hverifier h⟩

/-- **Equal octets are of one artifact**: of one kind, and with equal fields. -/
theorem signed_injective {a b : Artifact} {octets : Bytes} (ha : Signed a octets)
    (hb : Signed b octets) : a = b := by
  rcases ha.cases_message with ⟨room, nonce, text, rendered, swept, rfl, hmessage⟩ |
      ⟨schema, names, p, hkind, hsealed⟩
  · rcases hb.cases_message with ⟨_, _, _, _, _, rfl, hmessage'⟩ | ⟨_, _, _, -, hsealed'⟩
    · obtain ⟨rfl, rfl, rfl⟩ := message_injective hmessage hmessage'
      rfl
    · exact (message_ne_sealed hmessage hsealed').elim
  · rcases hb.cases_message with ⟨_, _, _, _, _, rfl, hmessage'⟩ |
        ⟨schema', names', q, hkind', hsealed'⟩
    · exact (message_ne_sealed hmessage' hsealed).elim
    · obtain ⟨rfl, heq⟩ := hkind.of_schema hkind' (hsealed.schema_inj hsealed')
      exact heq (hsealed.ext hsealed')

end Signing

/-! ## What a key is used for -/

section Keys

variable [Platform]

/-- A function that uses a key for two things: it may check the DID of the key, and it signs the
octets of one artifact of this kind. -/
def SignsOnly {α : Type} (kind : ArtifactKind) (f : Platform.PrivateKey → PyResult α) : Prop :=
  ∃ (check : PyResult PyStr → PyResult Unit) (artifact : PyResult (Artifact × Bytes))
    (rest : Artifact × Bytes → PyStr → PyResult α),
    (∀ key, f key = (do
      check (Crypto.didFromPrivateKey key)
      let signed ← artifact
      let signature ← Crypto.signDetached key signed.2
      rest signed signature)) ∧
    ∀ signed, artifact = .ok signed → signed.1.kind = kind ∧ Signed signed.1 signed.2

/-- A function that checks a key, prepares an artifact, signs its octets and goes on from there. -/
theorem SignsOnly.of_eq {α β : Type} {kind : ArtifactKind} {f : Platform.PrivateKey → PyResult α}
    {m : PyResult β} (view : β → Artifact × Bytes) (check : PyResult PyStr → PyResult Unit)
    {rest : β → PyStr → PyResult α} (hkind : ∀ b, (view b).1.kind = kind)
    (hsigned : ∀ b, m = .ok b → Signed (view b).1 (view b).2)
    (h : ∀ key, f key = (do
      check (Crypto.didFromPrivateKey key)
      let b ← m
      let signature ← Crypto.signDetached key (view b).2
      rest b signature)) : SignsOnly kind f := by
  cases m with
  | error e =>
      refine ⟨check, .error e, fun _ _ => .error e, fun key => ?_, by rintro _ ⟨⟩⟩
      rw [h key]
      rfl
  | ok b =>
      refine ⟨check, .ok (view b), fun _ => rest b, fun key => ?_, ?_⟩
      · rw [h key]
        rfl
      · rintro _ ⟨⟩
        exact ⟨hkind b, hsigned b rfl⟩

/-- What a countersignature is added to was verified, and its verifier is a DID. -/
theorem ends_rerun_caller (receipt : Receipt.ReceiptInput) (repository did : PyStr)
    (key : Platform.PrivateKey) (timeout : Option (Option ℚ)) :
    Proc.Ends (WorkReceipt.rerun receipt repository did key timeout) fun observed =>
      WorkReceipt.verifyAndDecode receipt = .ok (observed.1, observed.2.1) ∧
        Crypto.isDid did = true := by
  refine Proc.ends_bind (Proc.ends_ofExcept fun _ hverified => hverified) ?_
  rintro ⟨summary, envelope⟩ hverified
  have hcaller : ∀ u, WorkReceipt.checkCaller did key "verifier DID is invalid"
      "work receipt signing key does not match its verifier DID" = .ok u →
        Crypto.isDid did = true := by
    intro u h
    unfold WorkReceipt.checkCaller at h
    obtain ⟨did', hdid, -⟩ := PyResult.bind_ok h
    obtain ⟨heq, hvalid⟩ := WorkReceipt.checkDid_ok hdid
    rw [Json.str.injEq] at heq
    exact heq ▸ hvalid
  refine Proc.ends_bind (Proc.ends_ofExcept hcaller) fun _ hdid => ?_
  split_ifs
  · exact Proc.ends_throw _
  · exact Proc.ends_throw _
  · refine Proc.ends_bind (Proc.ends_trivial _) fun _ _ => ?_
    refine Proc.ends_bind (Proc.ends_trivial _) fun checkout _ => ?_
    split_ifs
    · refine Proc.ends_bind (Proc.ends_trivial _) fun execution _ => ?_
      exact Proc.ends_bind (Proc.ends_trivial _) fun _ _ => Proc.ends_pure ⟨hverified, hdid⟩
    · exact Proc.ends_throw _

/-- **A key signs nothing but artifacts**: every function that is given one uses it for its DID, and
to sign the octets of one artifact of its own kind. -/
theorem keys_sign_artifacts :
    (∀ room nonce text, SignsOnly .message fun key => Crypto.signRoomMessage key room nonce text) ∧
    (∀ issuer args raw, SignsOnly .auditEntry fun key => Audit.appendRecord key issuer args raw) ∧
    (∀ evidence issuer observedAt,
      SignsOnly .pullRequestReceipt fun key =>
        Receipt.buildSignedReceipt evidence issuer key observedAt) ∧
    (∀ issuer checkout argv timeoutMs execution, SignsOnly .workReceipt fun key =>
      WorkReceipt.newEnvelope (WorkReceipt.workPayload issuer checkout argv timeoutMs execution) key) ∧
    ∀ receipt repository verifier key timeout,
      Proc.Ends (WorkReceipt.rerun receipt repository verifier key timeout) fun observed =>
        ∀ observedAt, SignsOnly .countersignature fun key =>
          WorkReceipt.appendCountersignature observed.1 observed.2.1 verifier key observedAt := by
  refine ⟨fun room nonce text => ?_, fun issuer args raw => ?_, fun evidence issuer observedAt => ?_,
    fun issuer checkout argv timeoutMs execution => ?_,
    fun receipt repository verifier key timeout => ?_⟩
  · exact SignsOnly.of_eq (m := Crypto.messageOctets room nonce text)
      (fun message => (.message room message.1 message.2.1, message.2.2)) (fun _ => .ok ())
      (fun _ => rfl) (fun _ h => .message h) fun key => Crypto.signRoomMessage_eq key room nonce text
  · obtain ⟨rest, hrest⟩ := Audit.appendRecord_eq issuer args raw
    exact SignsOnly.of_eq (m := Audit.entryOctets issuer args raw)
      (fun entry => (.auditEntry entry.1, entry.2)) (fun _ => .ok ()) (fun _ => rfl)
      (fun _ h => .auditEntry h) hrest
  · obtain ⟨check, rest, hrest⟩ := Receipt.buildSignedReceipt_eq evidence issuer observedAt
    exact SignsOnly.of_eq (m := Receipt.receiptOctets evidence issuer observedAt)
      (fun receipt => (.pullRequestReceipt receipt.1, receipt.2)) check
      (fun _ => rfl) (fun _ h => .pullRequestReceipt h) hrest
  · obtain ⟨rest, hrest⟩ := WorkReceipt.newEnvelope_eq
      (WorkReceipt.workPayload issuer checkout argv timeoutMs execution)
    exact SignsOnly.of_eq
      (m := WorkReceipt.receiptOctets
        (WorkReceipt.workPayload issuer checkout argv timeoutMs execution))
      (fun octets => (.workReceipt _, octets)) (fun _ => .ok ()) (fun _ => rfl)
      (fun _ h => .workReceipt h) hrest
  · refine (ends_rerun_caller receipt repository verifier key timeout).mono ?_
    rintro ⟨summary, envelope, execution⟩ ⟨hreceipt, hverifier⟩ observedAt
    obtain ⟨rest, hrest⟩ := WorkReceipt.appendCountersignature_eq summary envelope verifier observedAt
    exact SignsOnly.of_eq (m := WorkReceipt.counterOctets summary envelope verifier observedAt)
      (fun counter => (.countersignature counter.1, counter.2)) (fun _ => .ok ())
      (fun _ => rfl) (fun _ h => .countersignature hreceipt hverifier h) hrest

end Keys

namespace Sample

/-- The octets of one message, however its nonce and the spaces around its text are given. -/
def helloOctets : Bytes := toAscii (room ++ py "|7|hello")

theorem messageOctets_int : Crypto.messageOctets room (.int 7) (py " hello\n") =
    .ok (py "7", py "hello", helloOctets) := by decide +kernel

theorem messageOctets_str : Crypto.messageOctets room (.str (py "7")) (py "hello") =
    .ok (py "7", py "hello", helloOctets) := by decide +kernel

theorem signed_injective_hello : Artifact.message room (py "7") (py "hello") =
    Artifact.message room (py "7") (py "hello") :=
  signed_injective (.message messageOctets_int) (.message messageOctets_str)

end Sample
