/-
# The text of a work receipt

The verifier bounds each field of an envelope, so it bounds the text of the whole: 16384 octets
of command and 16 countersignatures stay below the artifact limit.  Reading the text back sorts
the keys, which the verifier does not see.

* `Accepted.compact`           : how long an accepted envelope can be;
* `verifyAndDecode_sorted`     : an envelope is accepted in whatever order its keys are;
* `render_verify`              : **an accepted envelope is written and read back**;
* `chain_renders`              : so is whatever a chain of countersignatures returns.
-/
import SafeAgent.ReceiptTexts
import SafeAgent.WorkObservations

open PyText

namespace WorkReceipt

open Json PyItems Receipt

/-! ## Wrappers -/

section Platform

variable [Platform]

omit [Platform] in
/-- A field that holds a string is not seen to be sorted. -/
theorem get_sorted_str {fields : JsonFields} (hnodup : (keys fields).Nodup) {key s : PyStr}
    (h : get fields key = .str s) : get (sortByKey (sortKeysFields fields)) key = .str s := by
  rw [get_sorted hnodup, h]
  rfl

/-- **A wrapper is taken in whatever order its keys are.** -/
theorem verifySignedWrapper_sorted {value : Json} (hdistinct : DistinctKeys value) {signerKey : PyStr}
    {payload : JsonFields} (h : verifySignedWrapper value signerKey = .ok payload) :
    verifySignedWrapper (sortKeys value) signerKey = .ok (sortByKey (sortKeysFields payload)) := by
  rw [verifySignedWrapper_eq_ok] at h ⊢
  obtain ⟨wrapper, canonical, did, signature, rfl, hkeys, hpayload, hcanonical, hhash, hsigner, hdid,
    hsignature, hverify⟩ := h
  have hinner : DistinctKeys (.obj payload) := hpayload ▸ hdistinct.2.get (py "payload")
  refine ⟨sortByKey (sortKeysFields wrapper), canonical, did, signature, rfl, ?_, ?_, ?_, ?_, ?_, hdid,
    ?_, hverify⟩
  · rwa [hasKeys_sorted]
  · rw [get_sorted hdistinct.1, hpayload, sortKeys]
  · rw [canonicalJson, canonicalJson_sorted]
    exact hcanonical
  · exact get_sorted_str hdistinct.1 hhash
  · exact get_sorted_str hinner.1 hsigner
  · exact get_sorted_str hdistinct.1 hsignature

/-- The payload of a wrapper without repeated keys has none. -/
theorem nodup_payload {value : Json} (hdistinct : DistinctKeys value) {signerKey : PyStr}
    {payload : JsonFields} (h : verifySignedWrapper value signerKey = .ok payload) :
    (keys payload).Nodup := by
  obtain ⟨wrapper, -, -, -, rfl, -, hpayload, -⟩ := verifySignedWrapper_eq_ok.mp h
  have hinner : DistinctKeys (.obj payload) := hpayload ▸ hdistinct.2.get (py "payload")
  exact hinner.1

/-! ## Fields of the payloads -/

omit [Platform] in
/-- The checks see a payload through its keys and the values they map to. -/
theorem validateWorkPayload_congr {p q : JsonFields}
    (hkeys : hasKeys p workPayloadKeys = hasKeys q workPayloadKeys)
    (hget : ∀ key ∈ workPayloadKeys, get p key = get q key) :
    validateWorkPayload p = validateWorkPayload q := by
  simp only [workPayloadKeys, List.forall_mem_cons, List.not_mem_nil, false_implies, implies_true,
    and_true] at hget
  obtain ⟨h1, h2, h3, h4, h5, h6, h7, h8, h9, h10, h11, h12, h13, h14, h15⟩ := hget
  simp only [validateWorkPayload, hkeys, h1, h2, h3, h4, h5, h6, h7, h8, h9, h10, h11, h12, h13, h14,
    h15]

omit [Platform] in
theorem validateCountersignaturePayload_congr {p q : JsonFields}
    (hkeys : hasKeys p countersignaturePayloadKeys = hasKeys q countersignaturePayloadKeys)
    (hget : ∀ key ∈ countersignaturePayloadKeys, get p key = get q key) :
    validateCountersignaturePayload p = validateCountersignaturePayload q := by
  simp only [countersignaturePayloadKeys, List.forall_mem_cons, List.not_mem_nil, false_implies,
    implies_true, and_true] at hget
  obtain ⟨h1, h2, h3, h4, h5⟩ := hget
  simp only [validateCountersignaturePayload, hkeys, h1, h2, h3, h4, h5]

omit [Platform] in
theorem executionClaim_congr {p q : JsonFields}
    (hget : ∀ key ∈ workPayloadKeys, get p key = get q key) : executionClaim p = executionClaim q := by
  have hsub : ∀ key ∈ executionKeys, key ∈ workPayloadKeys := by decide
  exact List.map_congr_left fun key hkey => by rw [hget key (hsub key hkey)]

/-- A value of a checked field: sorting its keys does not change it, and it is compact. -/
structure Leaf (v : Json) (size nesting : ℕ) : Prop where
  sorted : sortKeys v = v
  compact : Compact Protocol.jsonReader v size nesting

namespace Leaf

theorem ascii {s : PyStr} {n nesting : ℕ} (h : ∀ c ∈ s, isAscii c = true) (hlength : s.length ≤ n) :
    Leaf (.str s) (6 * n + 2) nesting :=
  ⟨rfl, (Compact.ascii h hlength).mono le_rfl (Nat.zero_le nesting)⟩

theorem hex {s : PyStr} {n nesting : ℕ} (h : ∀ c ∈ s, isHexLower c = true) (hlength : s.length = n) :
    Leaf (.str s) (n + 2) nesting :=
  ⟨rfl, (Compact.hex h hlength).mono le_rfl (Nat.zero_le nesting)⟩

theorem sha256 {s : PyStr} {nesting : ℕ} (h : isSha256 s = true) : Leaf (.str s) 66 nesting := by
  rw [isSha256, Bool.and_eq_true, beq_iff_eq, List.all_eq_true] at h
  exact hex h.2 h.1

theorem int {z : ℤ} {nesting : ℕ} (digits : ℕ) (hpos : 0 < digits) (hdigits : digits ≤ maxStrDigits)
    (h : z.natAbs < 10 ^ digits) : Leaf (.int z) (digits + 1) nesting :=
  ⟨rfl, (Compact.int digits hpos hdigits h).mono le_rfl (Nat.zero_le nesting)⟩

theorem did {s : PyStr} {nesting : ℕ} (h : Crypto.isDid s = true) : Leaf (.str s) 338 nesting := by
  have hlength : s.length = 56 := by
    have hdid := h
    simp only [Crypto.isDid, Bool.and_eq_true, beq_iff_eq] at hdid
    have hdrop := hdid.1.2
    rw [List.length_drop] at hdrop
    omega
  exact ascii (Audit.isAscii_of_isDid h) hlength.le

theorem time {s : PyStr} {t : UtcTime} {nesting : ℕ} (h : UtcTime.parseIso s = some t) :
    Leaf (.str s) 122 nesting := by
  have hlength : s.length = 20 := by
    unfold UtcTime.parseIso at h
    split at h
    · rfl
    · cases h
  exact ascii (UtcTime.isAscii_of_parseIso h) hlength.le

theorem mono {v : Json} {size size' nesting : ℕ} (h : Leaf v size nesting) (hsize : size ≤ size') :
    Leaf v size' nesting :=
  ⟨h.sorted, h.compact.mono hsize le_rfl⟩

/-- A checked repository is an owner of at most 39 characters and a name of at most 100. -/
theorem repository {s : PyStr} {nesting : ℕ} (h : validateRepository (.str s) = .ok s) :
    Leaf (.str s) 842 nesting := by
  have hother : ∀ c, c = 95 ∨ c = 46 ∨ c = 45 ∨ c = 47 → isAscii c = true := by
    rintro c (rfl | rfl | rfl | rfl) <;> rfl
  unfold validateRepository at h
  simp only [asStr] at h
  by_cases hcount : (s.count 47 == 1) = true
  case neg =>
    rw [Option.filter_some, if_neg hcount] at h
    cases h
  rw [Option.filter_some, if_pos hcount] at h
  simp only at h
  split_ifs at h with hvalid
  rw [Bool.and_eq_true] at hvalid
  obtain ⟨howner, hname⟩ := hvalid
  have hslash : 47 ∈ s := by
    rw [beq_iff_eq] at hcount
    exact List.count_pos_iff.mp (by omega)
  -- the owner stands before the slash, and the name after it
  obtain ⟨front, name, rfl, hfront⟩ := List.eq_append_cons_of_mem hslash
  rw [cut_append hfront] at howner hname
  rw [Option.getD_some] at hname
  simp only [isOwner, Bool.and_eq_true, decide_eq_true_eq, List.all_eq_true] at howner
  simp only [validRepository, isRepository, Bool.and_eq_true, decide_eq_true_eq, List.all_eq_true]
    at hname
  -- 39 characters, a slash and 100 characters, all of them ASCII
  refine ascii (n := 140) ?_ ?_
  · intro c hc
    rcases List.mem_append.mp hc with hc | hc
    · have hchar := howner.1.2 c hc
      rw [Bool.or_eq_true, beq_iff_eq] at hchar
      rcases hchar with hchar | hchar
      · exact isAscii_of_isAlnum hchar
      · exact hother c (by omega)
    · rcases List.mem_cons.mp hc with rfl | hc
      · rfl
      · have hchar := hname.1.1.2 c hc
        simp only [isRepositoryChar, Bool.or_eq_true, beq_iff_eq] at hchar
        rcases hchar with ((hchar | hchar) | hchar) | hchar
        · exact isAscii_of_isAlnum hchar
        · exact hother c (by omega)
        · exact hother c (by omega)
        · exact hother c (by omega)
  · rw [List.length_append, List.length_cons]
    omega

/-- The exit code of a checked result; a `passed` result may come with `False` or a zero of
`float`. -/
theorem exitCode {result code : Json} {nesting : ℕ} (h : validateResult result code = .ok ()) :
    Leaf code 5 nesting := by
  obtain ⟨-, hzero⟩ | ⟨-, n, rfl, -, hbound⟩ | ⟨-, rfl⟩ := validateResult_ok h
  · cases code with
    | int n =>
        rw [equalsZero, beq_iff_eq] at hzero
        subst hzero
        exact (int 1 (by decide) (by decide) (by decide)).mono (by decide)
    | bool b => exact ⟨rfl, trivial, rfl, Nat.zero_le _, by cases b <;> decide⟩
    | float x =>
        rw [equalsZero, Bool.or_eq_true, beq_iff_eq, beq_iff_eq] at hzero
        have hkept : KeepsZero Protocol.jsonReader x := ⟨hzero, Platform.floatRepr_zero x hzero⟩
        refine ⟨rfl, hkept, rfl, Nat.zero_le _, ?_⟩
        rcases hzero with rfl | rfl <;> decide
    | _ => cases hzero
  · exact (int 3 (by decide) (by decide) (by omega)).mono (by decide)
  · exact ⟨rfl, trivial, rfl, Nat.zero_le _, by decide⟩

end Leaf

/-- The arguments of a checked command, by their octets. -/
theorem validateArguments_leaf {first : Bool} {items : List Json} {argv : List PyStr} {total : ℕ}
    (h : validateArguments first items = .ok (argv, total)) :
    sortKeysItems items = items ∧ ∃ sizes : List ℕ,
      List.Forall₂ (fun v size => Compact Protocol.jsonReader v size 0) items sizes ∧
        (sizes.map fun size => size + 1).sum = 6 * total + 3 * items.length := by
  induction items generalizing first argv total with
  | nil =>
      cases h
      exact ⟨rfl, [], .nil, rfl⟩
  | cons item rest ih =>
      unfold validateArguments at h
      obtain ⟨⟨s, size⟩, hitem, h⟩ := PyResult.bind_ok h
      obtain ⟨⟨later, sum⟩, hrest, h⟩ := PyResult.bind_ok h
      cases h
      obtain ⟨hsorted, sizes, hsizes, hsum⟩ := ih hrest
      -- an argument is a text, and its size is that of its octets
      obtain ⟨octets, rfl, hoctets, rfl⟩ : ∃ octets, item = .str s ∧ encodeUtf8 s = some octets ∧
          size = octets.length := by
        unfold validateArgument at hitem
        cases item with
        | str t =>
            simp only [asStr] at hitem
            split at hitem
            · cases hitem
            · rename_i u hu
              rw [Option.filter_eq_some_iff] at hu
              obtain ⟨hu, -⟩ := hu
              cases hu
              split at hitem
              · cases hitem
              · rename_i octets hoctets
                split_ifs at hitem
                cases hitem
                exact ⟨octets, rfl, hoctets, rfl⟩
        | _ => cases hitem
      refine ⟨?_, _, .cons (Compact.str hoctets) hsizes, ?_⟩
      · rw [sortKeysItems, hsorted]
        rfl
      · rw [List.map_cons, List.sum_cons, hsum, List.length_cons]
        omega

/-- A checked command: six characters for each of its octets, and three for each argument. -/
theorem Leaf.command {command : Json} {argv : List PyStr} (h : validateCommand command = .ok argv) :
    Leaf command 98498 1 := by
  unfold validateCommand at h
  cases command with
  | arr items =>
      simp only [asArr] at h
      split_ifs at h with hcount
      obtain ⟨⟨arguments, total⟩, harguments, h⟩ := PyResult.bind_ok h
      split_ifs at h with hlong
      obtain ⟨hsorted, sizes, hsizes, hsum⟩ := validateArguments_leaf harguments
      have harr := Compact.arr hsizes
      rw [hsum] at harr
      refine ⟨by rw [sortKeys, hsorted], harr.mono ?_ le_rfl⟩
      simp only [not_or, not_lt, maxCommandArguments, maxCommandBytes] at hcount hlong
      omega
  | _ => cases h

/-! ## Payloads -/

omit [Platform] in
/-- How long the fields of a checked payload can be. -/
def workSizes : List (PyStr × ℕ) :=
  [(py "schema", 92), (py "issuer", 338), (py "repository", 842), (py "commit", 42),
    (py "command", 98498), (py "timeout_ms", 8), (py "result", 56), (py "exit_code", 5),
    (py "stdout_sha256", 66), (py "stdout_bytes", 9), (py "stderr_sha256", 66),
    (py "stderr_bytes", 9), (py "started_at", 122), (py "completed_at", 122),
    (py "duration_ms", 8)]

omit [Platform] in
/-- How long the fields of a checked countersignature can be. -/
def counterSizes : List (PyStr × ℕ) :=
  [(py "schema", 194), (py "verifier", 338), (py "receipt_payload_sha256", 66),
    (py "execution_sha256", 66), (py "observed_at", 122)]

/-- The fields of a checked payload are leaves. -/
theorem ValidWork.leaves {payload : JsonFields} (h : ValidWork payload) :
    ∀ entry ∈ workSizes, Leaf (get payload entry.1) entry.2 1 := by
  have hnat : ∀ (digits : ℕ) {key : PyStr} {bound : ℕ}, 0 < digits → digits ≤ maxStrDigits →
      bound < 10 ^ digits → (∃ n : ℕ, get payload key = .int n ∧ n ≤ bound) →
      Leaf (get payload key) (digits + 1) 1 := by
    rintro digits key bound hpos hdigits hbound ⟨n, hn, hle⟩
    rw [hn]
    exact Leaf.int digits hpos hdigits (by rw [Int.natAbs_natCast]; omega)
  have hsha : ∀ {key : PyStr}, (∃ s, get payload key = .str s ∧ isSha256 s = true) →
      Leaf (get payload key) 66 1 := by
    rintro key ⟨s, hs, hhash⟩
    rw [hs]
    exact Leaf.sha256 hhash
  have htime : ∀ {key : PyStr}, (∃ s t, get payload key = .str s ∧ UtcTime.parseIso s = some t) →
      Leaf (get payload key) 122 1 := by
    rintro key ⟨s, t, hs, hparse⟩
    rw [hs]
    exact Leaf.time hparse
  have hschema : Leaf (get payload (py "schema")) 92 1 := by
    rw [h.schema]
    exact Leaf.ascii (n := 15) (by decide) (by decide)
  have hissuer : Leaf (get payload (py "issuer")) 338 1 := by
    obtain ⟨did, hdid, hvalid⟩ := h.issuer
    rw [hdid]
    exact Leaf.did hvalid
  have hrepository : Leaf (get payload (py "repository")) 842 1 := by
    obtain ⟨s, hs, hvalid⟩ := h.repository
    rw [hs]
    exact Leaf.repository hvalid
  have hcommit : Leaf (get payload (py "commit")) 42 1 := by
    obtain ⟨s, hs, hvalid⟩ := h.commit
    rw [isSha, Bool.and_eq_true, beq_iff_eq, List.all_eq_true] at hvalid
    rw [hs]
    exact Leaf.hex hvalid.2 hvalid.1
  have hcommand : Leaf (get payload (py "command")) 98498 1 := by
    obtain ⟨argv, hargv⟩ := h.command
    exact Leaf.command hargv
  have htimeout : ∃ n : ℕ, get payload (py "timeout_ms") = .int n ∧ n ≤ 3600000 := by
    obtain ⟨n, hn, -, hle⟩ := h.timeoutMs
    exact ⟨n, hn, hle⟩
  have hresult : Leaf (get payload (py "result")) 56 1 := by
    obtain ⟨hr, -⟩ | ⟨hr, -⟩ | ⟨hr, -⟩ := validateResult_ok h.result
    all_goals
      rw [hr]
      exact Leaf.ascii (n := 9) (by decide) (by decide)
  -- each field of the schema by the rule it has passed
  simp only [workSizes, List.forall_mem_cons, List.not_mem_nil, false_implies, implies_true, and_true]
  exact ⟨hschema, hissuer, hrepository, hcommit, hcommand,
    hnat 7 (by decide) (by decide) (by decide) htimeout, hresult,
    Leaf.exitCode h.result, hsha h.stdoutSha256,
    hnat 8 (by decide) (by decide) (by decide) h.stdoutBytes, hsha h.stderrSha256,
    hnat 8 (by decide) (by decide) (by decide) h.stderrBytes, htime h.startedAt,
    htime h.completedAt, hnat 7 (by decide) (by decide) (by decide) h.durationMs⟩

/-- The fields of a checked countersignature are leaves. -/
theorem counter_leaves {payload : JsonFields} (h : validateCountersignaturePayload payload = .ok ()) :
    hasKeys payload countersignaturePayloadKeys = true ∧
      ∀ entry ∈ counterSizes, Leaf (get payload entry.1) entry.2 0 := by
  unfold validateCountersignaturePayload at h
  split_ifs at h with hschema
  simp only [not_or, not_not, isStr_iff] at hschema
  obtain ⟨did, hdid, h⟩ := PyResult.bind_ok h
  obtain ⟨reference, hreference, h⟩ := PyResult.bind_ok h
  obtain ⟨execution, hexecution, h⟩ := PyResult.bind_ok h
  obtain ⟨observed, hobserved, -⟩ := PyResult.bind_ok h
  obtain ⟨hdid, hvalid⟩ := checkDid_ok hdid
  obtain ⟨hreference, hreferenceSha⟩ := requireSha256_ok hreference
  obtain ⟨hexecution, hexecutionSha⟩ := requireSha256_ok hexecution
  obtain ⟨text, htext, hparse⟩ := parseTimestamp_ok hobserved
  refine ⟨hschema.1, ?_⟩
  simp only [counterSizes, List.forall_mem_cons, List.not_mem_nil, false_implies, implies_true,
    and_true, hschema.2, hdid, hreference, hexecution, htext]
  exact ⟨Leaf.ascii (n := 32) (by decide) (by decide), Leaf.did hvalid, Leaf.sha256 hreferenceSha,
    Leaf.sha256 hexecutionSha, Leaf.time hparse⟩

/-- A field of leaves is not seen to be sorted. -/
theorem get_sorted_leaf {fields : JsonFields} {sizes : List (PyStr × ℕ)} {nesting : ℕ}
    (hnodup : (keys fields).Nodup) (h : ∀ entry ∈ sizes, Leaf (get fields entry.1) entry.2 nesting) :
    ∀ key ∈ sizes.map Prod.fst, get (sortByKey (sortKeysFields fields)) key = get fields key := by
  intro key hkey
  obtain ⟨entry, hentry, rfl⟩ := List.mem_map.mp hkey
  rw [get_sorted hnodup, (h entry hentry).sorted]

/-! ## How long an envelope can be -/

/-- An object of leaves is compact. -/
theorem compact_leaves {fields : JsonFields} (sizes : List (PyStr × ℕ)) {nesting : ℕ}
    (hnodup : (keys fields).Nodup) (hexpected : (sizes.map Prod.fst).Nodup)
    (hnames : ∀ entry ∈ sizes, ∀ c ∈ entry.1, isScalar c = true)
    (hkeys : hasKeys fields (sizes.map Prod.fst) = true)
    (h : ∀ entry ∈ sizes, Leaf (get fields entry.1) entry.2 nesting) :
    Compact Protocol.jsonReader (.obj fields)
      (2 + (sizes.map fun entry => (renderStr entry.1).length + entry.2 + 2).sum) (nesting + 1) :=
  Compact.obj sizes hnodup hexpected hnames hkeys fun entry hentry => (h entry hentry).compact

theorem ValidWork.compact {payload : JsonFields} (hnodup : (keys payload).Nodup)
    (h : ValidWork payload) : Compact Protocol.jsonReader (.obj payload) 100600 2 :=
  (compact_leaves workSizes hnodup (by decide) (by decide) h.keys_eq h.leaves).mono (by decide) le_rfl

theorem compact_counter {payload : JsonFields} (hnodup : (keys payload).Nodup)
    (h : validateCountersignaturePayload payload = .ok ()) :
    Compact Protocol.jsonReader (.obj payload) 900 1 :=
  (compact_leaves counterSizes hnodup (by decide) (by decide) (counter_leaves h).1 (counter_leaves h).2).mono
    (by decide) le_rfl

/-- A wrapper adds the hash, the signature and its keys. -/
theorem compact_wrapper {value : Json} {signerKey : PyStr} {payload : JsonFields} {size nesting : ℕ}
    (hdistinct : DistinctKeys value) (h : verifySignedWrapper value signerKey = .ok payload)
    (hpayload : Compact Protocol.jsonReader (.obj payload) size nesting) :
    Compact Protocol.jsonReader value (size + 640) (nesting + 1) := by
  obtain ⟨wrapper, canonical, did, signature, rfl, hkeys, hfield, -, hhash, -, -, hsignature, hverify⟩ :=
    verifySignedWrapper_eq_ok.mp h
  have hform : Crypto.isSignature signature = true := by
    unfold Crypto.verifyDetachedSignature at hverify
    split_ifs at hverify with hform
    exact hform
  have hlength : signature.length = 86 := by
    have hsplit := hform
    rw [Crypto.isSignature, Bool.and_eq_true, beq_iff_eq] at hsplit
    exact hsplit.1
  have hsize : 2 + (([(py "payload", size), (py "payload_sha256", 66), (py "signature", 518)] :
      List (PyStr × ℕ)).map fun entry => (renderStr entry.1).length + entry.2 + 2).sum =
        size + 628 := by
    have hkeys : (renderStr (py "payload")).length = 9 ∧ (renderStr (py "payload_sha256")).length = 16 ∧
        (renderStr (py "signature")).length = 11 := by decide
    simp only [List.map_cons, List.map_nil, List.sum_cons, List.sum_nil, hkeys.1, hkeys.2.1, hkeys.2.2]
    omega
  refine (Compact.obj [(py "payload", size), (py "payload_sha256", 66), (py "signature", 518)]
    hdistinct.1 ?_ ?_ hkeys ?_).mono ?_ le_rfl
  · show signedWrapperKeys.Nodup
    decide
  · intro entry hentry
    have hnames : ∀ key ∈ signedWrapperKeys, ∀ c ∈ key, isScalar c = true := by decide
    exact hnames entry.1 (List.mem_map_of_mem (f := Prod.fst) hentry)
  · simp only [List.forall_mem_cons, List.not_mem_nil, false_implies, implies_true, and_true, hfield,
      hhash, hsignature]
    refine ⟨hpayload, ?_, ?_⟩
    · exact (Compact.hex (fun c hc => Sha256.isHexLower_of_mem_sha256Hex hc)
        (Sha256.length_sha256Hex canonical)).mono le_rfl (Nat.zero_le nesting)
    · exact (Compact.ascii (n := 86) (Audit.isAscii_of_isSignature hform) hlength.le).mono le_rfl
        (Nat.zero_le nesting)
  · rw [hsize]
    omega

section Loop

variable {issuer receiptHash executionHash : PyStr} {completedAt : UtcTime}

/-- What the loop has checked of one countersignature. -/
theorem checkCountersignature_payload {seen : List PyStr} {item : Json} {verifier : PyStr}
    (h : checkCountersignature issuer receiptHash executionHash completedAt seen item
      = .ok verifier) : ∃ payload, verifySignedWrapper item (py "verifier") = .ok payload ∧
        validateCountersignaturePayload payload = .ok () := by
  unfold checkCountersignature at h
  obtain ⟨payload, hwrapper, h⟩ := PyResult.bind_ok h
  obtain ⟨⟨⟩, hvalid, -⟩ := PyResult.bind_ok h
  exact ⟨payload, hwrapper, hvalid⟩

theorem compact_countersignatures {seen : List PyStr} {items : List Json} {verifiers : List PyStr}
    (hdistinct : ∀ item ∈ items, DistinctKeys item)
    (h : checkCountersignatures issuer receiptHash executionHash completedAt seen items
      = .ok verifiers) : ∀ item ∈ items, Compact Protocol.jsonReader item 1540 2 := by
  induction items generalizing seen verifiers with
  | nil => exact fun _ hitem => absurd hitem List.not_mem_nil
  | cons item rest ih =>
      rw [List.forall_mem_cons] at hdistinct ⊢
      unfold checkCountersignatures at h
      obtain ⟨verifier, hfirst, h⟩ := PyResult.bind_ok h
      obtain ⟨later, hrest, -⟩ := PyResult.bind_ok h
      obtain ⟨payload, hwrapper, hvalid⟩ := checkCountersignature_payload hfirst
      exact ⟨compact_wrapper hdistinct.1 hwrapper
        (compact_counter (nodup_payload hdistinct.1 hwrapper) hvalid), ih hdistinct.2 hrest⟩

end Loop

/-- **How long an accepted envelope can be.** -/
theorem compact_envelope {envelope : JsonFields} {receipt : ReceiptInput}
    {summary : WorkReceiptSummary} (hdistinct : DistinctKeys (.obj envelope))
    (h : verifyAndDecode receipt = .ok (summary, envelope)) :
    Compact Protocol.jsonReader (.obj envelope) maxReceiptBytes 4 := by
  obtain ⟨-, hkeys, hschema, hwrapper, hvalid, items, executionHash, completedAt, verifiers, hitems,
    hmany, -, -, hloop, -, -⟩ := verifyAndDecode_eq_ok.mp h
  have hreceipt : DistinctKeys (get envelope (py "receipt")) := hdistinct.2.get (py "receipt")
  have hall : ∀ item ∈ items, DistinctKeys item := by
    have hlist : DistinctKeys (.arr items) := hitems ▸ hdistinct.2.get (py "countersignatures")
    exact distinctItems_iff.mp hlist
  have hnodup := nodup_payload hreceipt hwrapper
  have hfirst := compact_wrapper hreceipt hwrapper
    (ValidWork.compact hnodup (validateWorkPayload_ok hvalid))
  have hlist : Compact Protocol.jsonReader (.arr items) 24658 3 := by
    refine (Compact.arr_all (compact_countersignatures hall hloop)).mono ?_ le_rfl
    rw [maxCountersignatures] at hmany
    omega
  refine (Compact.obj [(py "schema", 146), (py "receipt", 101240), (py "countersignatures", 24658)]
    hdistinct.1 ?_ ?_ hkeys ?_).mono (by decide) le_rfl
  · show envelopeKeys.Nodup
    decide
  · intro entry hentry
    have hnames : ∀ key ∈ envelopeKeys, ∀ c ∈ key, isScalar c = true := by decide
    exact hnames entry.1 (List.mem_map_of_mem (f := Prod.fst) hentry)
  · simp only [List.forall_mem_cons, List.not_mem_nil, false_implies, implies_true, and_true, hschema,
      hitems]
    exact ⟨(Compact.ascii (n := 24) (by decide) (by decide)).mono le_rfl (by decide), hfirst, hlist⟩

/-! ## The order of the keys -/

section Loop

variable {issuer receiptHash executionHash : PyStr} {completedAt : UtcTime}

theorem checkCountersignature_sorted {seen : List PyStr} {item : Json} {verifier : PyStr}
    (hdistinct : DistinctKeys item)
    (h : checkCountersignature issuer receiptHash executionHash completedAt seen item
      = .ok verifier) :
    checkCountersignature issuer receiptHash executionHash completedAt seen (sortKeys item)
      = .ok verifier := by
  obtain ⟨payload, hwrapper, hvalid⟩ := checkCountersignature_payload h
  have hnodup := nodup_payload hdistinct hwrapper
  obtain ⟨hkeys, hleaves⟩ := counter_leaves hvalid
  have hget := get_sorted_leaf hnodup hleaves
  have hsame : validateCountersignaturePayload (sortByKey (sortKeysFields payload)) =
      validateCountersignaturePayload payload :=
    validateCountersignaturePayload_congr (hasKeys_sorted payload _) hget
  have hnames : ∀ key ∈ [py "verifier", py "receipt_payload_sha256", py "execution_sha256",
      py "observed_at"], get (sortByKey (sortKeysFields payload)) key = get payload key := by
    have hsub : ∀ key ∈ [py "verifier", py "receipt_payload_sha256", py "execution_sha256",
      py "observed_at"], key ∈ counterSizes.map Prod.fst := by decide
    exact fun key hkey => hget key (hsub key hkey)
  simp only [List.forall_mem_cons, List.not_mem_nil, false_implies, implies_true, and_true] at hnames
  obtain ⟨h1, h2, h3, h4⟩ := hnames
  unfold checkCountersignature at h ⊢
  rw [hwrapper] at h
  rw [verifySignedWrapper_sorted hdistinct hwrapper]
  simp only [bind, Except.bind] at h ⊢
  rw [hsame]
  simp only [h1, h2, h3, h4]
  exact h

theorem checkCountersignatures_sorted {seen : List PyStr} {items : List Json} {verifiers : List PyStr}
    (hdistinct : ∀ item ∈ items, DistinctKeys item)
    (h : checkCountersignatures issuer receiptHash executionHash completedAt seen items
      = .ok verifiers) :
    checkCountersignatures issuer receiptHash executionHash completedAt seen (items.map sortKeys)
      = .ok verifiers := by
  induction items generalizing seen verifiers with
  | nil => exact h
  | cons item rest ih =>
      rw [List.forall_mem_cons] at hdistinct
      unfold checkCountersignatures at h
      obtain ⟨verifier, hfirst, h⟩ := PyResult.bind_ok h
      obtain ⟨later, hrest, h⟩ := PyResult.bind_ok h
      cases h
      simp only [List.map_cons, checkCountersignatures, bind, Except.bind,
        checkCountersignature_sorted hdistinct.1 hfirst, ih hdistinct.2 hrest]
      rfl

end Loop

/-- **An envelope is accepted in whatever order its keys are**, with the same payload. -/
theorem verifyAndDecode_sorted {receipt receipt' : ReceiptInput} {envelope : JsonFields}
    {summary : WorkReceiptSummary} (hdistinct : DistinctKeys (.obj envelope))
    (h : verifyAndDecode receipt = .ok (summary, envelope))
    (hdecode : decode receipt' = .ok (sortByKey (sortKeysFields envelope))) :
    verifyAndDecode receipt' =
      .ok ({ summary with payload := sortByKey (sortKeysFields summary.payload) },
        sortByKey (sortKeysFields envelope)) := by
  obtain ⟨-, hkeys, hschema, hwrapper, hvalid, items, executionHash, completedAt, verifiers, hitems,
    hmany, hexecution, hcompleted, hloop, hcount, hmatching⟩ := verifyAndDecode_eq_ok.mp h
  have hreceipt : DistinctKeys (get envelope (py "receipt")) := hdistinct.2.get (py "receipt")
  have hall : ∀ item ∈ items, DistinctKeys item := by
    have hlist : DistinctKeys (.arr items) := hitems ▸ hdistinct.2.get (py "countersignatures")
    exact distinctItems_iff.mp hlist
  have hnodup := nodup_payload hreceipt hwrapper
  have hget := get_sorted_leaf hnodup (validateWorkPayload_ok hvalid).leaves
  -- the validator and the claim read the payload by key
  have hsame : validateWorkPayload (sortByKey (sortKeysFields summary.payload)) =
      validateWorkPayload summary.payload :=
    validateWorkPayload_congr (hasKeys_sorted summary.payload _) hget
  have hclaim : executionSha256 (sortByKey (sortKeysFields summary.payload)) =
      executionSha256 summary.payload := by
    rw [executionSha256, executionSha256, executionClaim_congr hget]
  have hfields : get (sortByKey (sortKeysFields summary.payload)) (py "completed_at") =
        get summary.payload (py "completed_at") ∧
      get (sortByKey (sortKeysFields summary.payload)) (py "issuer") =
        get summary.payload (py "issuer") :=
    ⟨hget _ (by decide), hget _ (by decide)⟩
  -- the hash of the receipt is a text, which sorting leaves as it is
  have hhash : get (wrapperFields (sortKeys (get envelope (py "receipt")))) (py "payload_sha256") =
      get (wrapperFields (get envelope (py "receipt"))) (py "payload_sha256") := by
    obtain ⟨wrapper, canonical, -, -, heq, -, -, -, hsha, -⟩ := verifySignedWrapper_eq_ok.mp hwrapper
    rw [heq] at hreceipt ⊢
    exact (get_sorted_str hreceipt.1 hsha).trans hsha.symm
  refine verifyAndDecode_eq_ok.mpr ⟨hdecode, ?_, ?_, ?_, hsame.trans hvalid, items.map sortKeys,
    executionHash, completedAt, verifiers, ?_, ?_, hclaim.trans hexecution, ?_, ?_, ?_, ?_⟩
  · rwa [hasKeys_sorted]
  · exact get_sorted_str hdistinct.1 hschema
  · rw [get_sorted hdistinct.1]
    exact verifySignedWrapper_sorted hreceipt hwrapper
  · rw [get_sorted hdistinct.1, hitems, sortKeys, sortKeysItems_eq_map]
  · rwa [List.length_map]
  · rw [hfields.1]
    exact hcompleted
  · rw [hfields.2, get_sorted hdistinct.1, hhash]
    exact checkCountersignatures_sorted hall hloop
  · rw [List.length_map]
    exact hcount
  · rw [List.length_map]
    exact hmatching

/-! ## Writing and reading back -/

/-- The text of an accepted envelope is short enough, and is read back with its keys sorted. -/
theorem canonical_of_accepted {envelope : JsonFields} {summary : WorkReceiptSummary}
    (hdistinct : DistinctKeys (.obj envelope))
    (h : verifyAndDecode (.value (.obj envelope)) = .ok (summary, envelope)) :
    dumps (.obj envelope) = .ok (canonical (.obj envelope)) ∧
      encodeUtf8 (canonical (.obj envelope)) = some (toAscii (canonical (.obj envelope))) ∧
      (toAscii (canonical (.obj envelope))).length ≤ maxReceiptBytes ∧
      renderWorkReceipt (.value (.obj envelope)) = .ok (canonical (.obj envelope)) ∧
      decode (.text (canonical (.obj envelope))) = .ok (sortByKey (sortKeysFields envelope)) := by
  have hcompact := compact_envelope hdistinct h
  obtain ⟨hdumps, hoctets, hload⟩ :=
    hcompact.loads (hookKeeps_dict rfl) Platform.four_le_recursionLimit
  have hlength : (toAscii (canonical (.obj envelope))).length ≤ maxReceiptBytes := by
    rw [toAscii, List.length_map]
    exact hcompact.short
  refine ⟨hdumps, hoctets, hlength, ?_, ?_⟩
  · unfold renderWorkReceipt
    rw [h]
    simp only [bind, Except.bind, hdumps, if_neg (not_lt.mpr hcompact.short)]
  · unfold decode
    simp only [bind, Except.bind, hoctets, if_neg (not_lt.mpr hlength), hload]
    rfl

/-- **A receipt that is accepted fits, and survives rendering.**  The text of an accepted mapping is
within the limit of an artifact; `render_work_receipt` returns it, and reading it back gives the
same payload with as many countersignatures. -/
theorem render_verify {envelope : JsonFields} {summary : WorkReceiptSummary}
    (hdistinct : DistinctKeys (.obj envelope))
    (h : verifyWorkReceipt (.value (.obj envelope)) = .ok summary) :
    ∃ text octets, dumps (.obj envelope) = .ok text ∧ encodeUtf8 text = some octets ∧
      octets.length ≤ maxReceiptBytes ∧ renderWorkReceipt (.value (.obj envelope)) = .ok text ∧
        ∃ read, verifyWorkReceipt (.text text) = .ok read ∧
          SameValue (.obj read.payload) (.obj summary.payload) ∧
          read.countersignatures = summary.countersignatures ∧
          read.matchingCountersignatures = summary.matchingCountersignatures := by
  have hverify := verifyWorkReceipt_value h
  obtain ⟨hdumps, hoctets, hlength, hrender, hdecode⟩ := canonical_of_accepted hdistinct hverify
  have hread := verifyAndDecode_sorted hdistinct hverify hdecode
  refine ⟨_, _, hdumps, hoctets, hlength, hrender, _, verifyWorkReceipt_of hread, ?_, rfl, rfl⟩
  exact sortKeys_idem (.obj summary.payload)

/-- What a chain of countersignatures returns can be written and handed over as a text. -/
theorem chain_renders {issuer : PyStr} {receipt : Json} {verifiers : List PyStr}
    {envelope : JsonFields} (h : Chain issuer receipt verifiers envelope) :
    ∃ text decoded, renderWorkReceipt (.value (.obj envelope)) = .ok text ∧
      HandedOver (.text text) envelope decoded := by
  have hkept := kept_of_chain h
  obtain ⟨summary, hverify, -⟩ := hkept.accepted
  obtain ⟨-, -, -, hrender, hdecode⟩ := canonical_of_accepted hkept.distinct hverify
  have hsame : SameValue (.obj (sortByKey (sortKeysFields envelope))) (.obj envelope) :=
    sortKeys_idem (.obj envelope)
  exact ⟨_, _, hrender, hdecode, distinctKeys_sortKeys _ hkept.distinct, hsame⟩

end Platform

end WorkReceipt

namespace Sample

open WorkReceipt

/-- A chain of two signatures is written, and handed over as a text. -/
theorem chain_renders_two : ∃ envelope text decoded,
    renderWorkReceipt (.value (.obj envelope)) = .ok text ∧ HandedOver (.text text) envelope decoded := by
  obtain ⟨receipt, envelope, hchain⟩ := chain_of_two
  obtain ⟨text, decoded, hrender, hhanded⟩ := chain_renders hchain
  exact ⟨envelope, text, decoded, hrender, hhanded⟩

/-- A receipt with one countersignature is written and read back. -/
theorem render_verify_two : ∃ envelope summary,
    verifyWorkReceipt (.value (.obj envelope)) = .ok summary ∧ ∃ text read,
      renderWorkReceipt (.value (.obj envelope)) = .ok text ∧
      verifyWorkReceipt (.text text) = .ok read ∧ read.countersignatures = 1 := by
  obtain ⟨receipt, envelope, hchain⟩ := chain_of_two
  have hkept := kept_of_chain hchain
  obtain ⟨summary, hverify, haccepted⟩ := hkept.accepted
  obtain ⟨text, octets, -, -, -, hrender, read, hread, -, hcount, -⟩ :=
    render_verify hkept.distinct (verifyWorkReceipt_of hverify)
  refine ⟨envelope, summary, verifyWorkReceipt_of hverify, text, read, hrender, hread, hcount.trans ?_⟩
  obtain ⟨-, -, issuer, verifiers, haccepted', hlength, -⟩ := verifyAndDecode_ok hverify
  rw [hlength, ← haccepted'.verifiers_eq, haccepted.verifiers_eq]
  rfl

end Sample
