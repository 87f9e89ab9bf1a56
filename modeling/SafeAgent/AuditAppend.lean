/-
# Appending to the audit log

The line that `append` writes after an accepted log is accepted after it.

* `splitlines_append`  : a log of whole lines, and what follows it, split separately;
* `verifyLines_append` : the loop over two logs in a row;
* `verifyBytes_append` : **the next record is accepted**, with the head that `append`
  returns;
* `verifyBytes_torn`   : a part of the next line is refused.
-/
import SafeAgent.AuditLog

open PyText

namespace Audit

open Json PyItems

/-! ## Lines -/

/-- Octets that `bytes.splitlines` keeps in one line. -/
def OneLine (line : Bytes) : Prop := ∀ b ∈ line, b ≠ 10 ∧ b ≠ 13

/-- An empty log, or one that ends with a line feed. -/
def WholeLines (raw : Bytes) : Prop := raw = [] ∨ raw.getLast? = some 10

theorem wholeLines_append {raw rest : Bytes} (hrest : rest.getLast? = some 10) :
    WholeLines (raw ++ rest) := by
  refine .inr ?_
  rw [List.getLast?_append, hrest, Option.some_or]

/-- A log does not end inside a line. -/
theorem not_wholeLines {raw part : Bytes} (hpart : part ≠ []) (hline : OneLine part) :
    ¬WholeLines (raw ++ part) := by
  rintro (h | h)
  · exact hpart (List.append_eq_nil_iff.mp h).2
  · rw [List.getLast?_append_of_ne_nil _ hpart] at h
    exact (hline 10 (List.mem_of_getLast? h)).1 rfl

theorem splitlines_line {line : Bytes} (h : OneLine line) (start : Bytes) :
    splitlines start (line ++ [10]) = [start.reverse ++ line] := by
  induction line generalizing start with
  | nil => simp [splitlines]
  | cons b line ih =>
      obtain ⟨hlf, hcr⟩ := h b (by simp)
      have hrest : OneLine line := fun c hc => h c (by simp [hc])
      rw [List.cons_append, splitlines, if_neg (by tauto), ih hrest]
      · simp
      · rintro rest rfl
        exact absurd rfl hcr

/-- Lines that end with a line feed are split without what follows; `start` is the current
line when the scan reaches `raw`. -/
theorem splitlines_append {raw : Bytes} (rest start : Bytes) (hraw : raw.getLast? = some 10) :
    splitlines start (raw ++ rest) = splitlines start raw ++ splitlines [] rest := by
  induction start, raw using splitlines.induct with
  | case1 => cases hraw
  | case2 => cases hraw
  | case3 start raw ih =>
      rw [List.cons_append, List.cons_append, splitlines, splitlines]
      cases raw with
      | nil => simp [splitlines]
      | cons b raw => rw [ih (by simpa using hraw), List.cons_append]
  | case4 start b raw hne hb ih =>
      have hstep : ∀ rest', (∀ t, b = 13 → rest' = 10 :: t → False) →
          splitlines start (b :: rest') = start.reverse :: splitlines [] rest' := fun rest' h => by
        rw [splitlines, if_pos hb]
        exact h
      cases raw with
      | nil =>
          have hlf : b = 10 := by simpa using hraw
          rw [List.cons_append, hstep _ (by simp [hlf]), hstep _ (by simp)]
          simp [splitlines]
      | cons c raw =>
          rw [List.cons_append, hstep _ ?_, hstep _ hne, ih (by simpa using hraw),
            List.cons_append]
          intro t hcr ht
          obtain ⟨rfl, rfl⟩ := List.cons.inj ht
          exact hne raw hcr rfl
  | case5 start b raw hne hb ih =>
      have hnot : b ≠ 10 ∧ b ≠ 13 := by tauto
      have hstep : ∀ rest', splitlines start (b :: rest') = splitlines (b :: start) rest' :=
        fun rest' => by
          rw [splitlines, if_neg hb]
          exact fun t hcr _ => hnot.2 hcr
      cases raw with
      | nil => exact absurd (by simpa using hraw) hnot.1
      | cons c raw => rw [List.cons_append, hstep, hstep, ih (by simpa using hraw)]

/-- One more line. -/
theorem splitlines_append_line {raw line : Bytes} (hraw : WholeLines raw) (hline : OneLine line) :
    splitlines [] (raw ++ (line ++ [10])) = splitlines [] raw ++ [line] := by
  rcases hraw with rfl | hraw
  · rw [List.nil_append, splitlines_line hline]
    rfl
  · rw [splitlines_append _ _ hraw, splitlines_line hline]
    rfl

variable [Platform]

/-! ## The loop of the verifier -/

theorem verifyLines_append (before after : List Bytes) (summary : AuditSummary) :
    verifyLines (before ++ after) summary = verifyLines before summary >>= verifyLines after := by
  induction before generalizing summary with
  | nil => rfl
  | cons line before ih =>
      rw [List.cons_append, verifyLines, verifyLines]
      cases hline : verifyLine line (summary.entries + 1) summary.headSha256 summary.issuer with
      | error e => rfl
      | ok found =>
          obtain ⟨issuer, hash⟩ := found
          exact ih _

/-- An accepted log consists of whole lines. -/
theorem wholeLines_of_verifyBytes {raw : Bytes} {summary : AuditSummary}
    (h : verifyBytes raw = .ok summary) : WholeLines raw := by
  unfold verifyBytes at h
  split_ifs at h with hempty hpartial
  · exact .inl hempty
  · exact .inr (not_not.mp hpartial)

theorem verifyLines_of_verifyBytes {raw : Bytes} {summary : AuditSummary}
    (h : verifyBytes raw = .ok summary) :
    verifyLines (splitlines [] raw) emptySummary = .ok summary := by
  unfold verifyBytes at h
  split_ifs at h with hempty hpartial
  · subst hempty
    exact h
  · exact h

theorem verifyBytes_of_verifyLines {raw : Bytes} {summary : AuditSummary} (hraw : WholeLines raw)
    (h : verifyLines (splitlines [] raw) emptySummary = .ok summary) :
    verifyBytes raw = .ok summary := by
  unfold verifyBytes
  split_ifs with hempty hpartial
  · subst hempty
    exact h
  · rcases hraw with hraw | hraw
    · exact absurd hraw hempty
    · exact absurd hraw hpartial
  · exact h

/-- A log that an accepted line follows. -/
theorem verifyBytes_line {raw line : Bytes} {summary : AuditSummary} {issuer hash : PyStr}
    (hraw : verifyBytes raw = .ok summary) (hline : OneLine line)
    (h : verifyLine line (summary.entries + 1) summary.headSha256 summary.issuer =
      .ok (issuer, hash)) :
    verifyBytes (raw ++ (line ++ [10])) =
      .ok { entries := summary.entries + 1, issuer := some issuer, headSha256 := hash } := by
  refine verifyBytes_of_verifyLines (wholeLines_append (by simp)) ?_
  rw [splitlines_append_line (wholeLines_of_verifyBytes hraw) hline, verifyLines_append,
    verifyLines_of_verifyBytes hraw]
  change verifyLines [line] summary = _
  rw [verifyLines, h]
  rfl

/-- **A torn line is refused.** -/
theorem verifyBytes_torn {raw part : Bytes} (hpart : part ≠ []) (hline : OneLine part) :
    verifyBytes (raw ++ part) = .error (auditError "audit log ends with a partial JSONL record") := by
  have hnot : ¬WholeLines (raw ++ part) := not_wholeLines hpart hline
  rw [WholeLines, not_or] at hnot
  rw [verifyBytes, if_neg hnot.1, if_pos hnot.2]

/-! ## The next record -/

/-- Everything that an append which writes has computed. -/
structure Appended (privateKey : Platform.PrivateKey) (issuer : PyStr) (args : AuditArgs)
    (summary : AuditSummary) (line : Bytes) (hash : PyStr) (payload wrapper : JsonFields) :
    Prop where
  owner : ∀ did, summary.issuer = some did → did = issuer
  payload_eq : ∃ observedAt, payload = nextPayload summary issuer observedAt args
  valid : validatePayload payload = .ok ()
  wrapper_eq : ∃ octets signature, canonicalJson (.obj payload) = .ok octets ∧
    Crypto.signDetached privateKey octets = .ok signature ∧
    wrapper = wrapperOf payload (Sha256.sha256Hex octets) signature
  line_eq : canonicalJson (.obj wrapper) = .ok line
  short : (line ++ [10]).length ≤ maxAuditLineBytes
  hash_eq : hash = Sha256.sha256Hex line

theorem appendRecord_ok {privateKey : Platform.PrivateKey} {issuer : PyStr} {args : AuditArgs}
    {raw rendered : Bytes} {hash : PyStr}
    (h : appendRecord privateKey issuer args raw = .ok (rendered, hash)) :
    ∃ summary line payload wrapper, verifyBytes raw = .ok summary ∧ rendered = line ++ [10] ∧
      raw.length + rendered.length ≤ maxAuditBytes ∧
      Appended privateKey issuer args summary line hash payload wrapper := by
  obtain ⟨summary, hsummary, h⟩ := PyResult.bind_ok h
  split_ifs at h with howner
  obtain ⟨observedAt, -, h⟩ := PyResult.bind_ok h
  obtain ⟨⟨⟩, hvalid, h⟩ := PyResult.bind_ok h
  obtain ⟨octets, hoctets, h⟩ := PyResult.bind_ok h
  obtain ⟨signature, hsignature, h⟩ := PyResult.bind_ok h
  obtain ⟨line, hline, h⟩ := PyResult.bind_ok h
  dsimp only at h
  split_ifs at h with hshort hsmall
  obtain ⟨head, hhead, h⟩ := PyResult.bind_ok h
  cases h
  obtain ⟨octets', hoctets', rfl⟩ := entryHash_ok hhead
  rw [hline] at hoctets'
  cases hoctets'
  refine ⟨summary, line, _, _, hsummary, rfl, not_lt.mp hsmall, ?_, ⟨observedAt, rfl⟩, hvalid,
    ⟨octets, signature, hoctets, hsignature, rfl⟩, hline, not_lt.mp hshort, rfl⟩
  rintro did hdid
  simpa [hdid] using howner

namespace Appended

variable {privateKey : Platform.PrivateKey} {issuer : PyStr} {args : AuditArgs}
  {summary : AuditSummary} {line : Bytes} {hash : PyStr} {payload wrapper : JsonFields}

theorem keys_payload (h : Appended privateKey issuer args summary line hash payload wrapper) :
    keys payload = payloadKeys := by
  obtain ⟨observedAt, rfl⟩ := h.payload_eq
  rfl

theorem nodup_payload (h : Appended privateKey issuer args summary line hash payload wrapper) :
    (keys payload).Nodup := by
  rw [h.keys_payload]
  decide

theorem keys_wrapper (h : Appended privateKey issuer args summary line hash payload wrapper) :
    keys wrapper = wrapperKeys := by
  obtain ⟨octets, signature, -, -, rfl⟩ := h.wrapper_eq
  rfl

theorem nodup_wrapper (h : Appended privateKey issuer args summary line hash payload wrapper) :
    (keys wrapper).Nodup := by
  rw [h.keys_wrapper]
  decide

theorem distinctKeys (h : Appended privateKey issuer args summary line hash payload wrapper) :
    DistinctKeys (.obj wrapper) := by
  refine ⟨h.nodup_wrapper, ?_⟩
  have hnodup := h.nodup_payload
  have hscalars : DistinctFields payload := by
    have hall : ∀ kv ∈ payload, DistinctKeys kv.2 := fun kv hkv =>
      (scalar_of_mem h.valid hnodup hkv).2.distinctKeys
    clear h hnodup
    induction payload with
    | nil => trivial
    | cons kv rest ih => exact ⟨hall kv (by simp), ih fun kv' hkv' => hall kv' (by simp [hkv'])⟩
  obtain ⟨octets, signature, -, -, rfl⟩ := h.wrapper_eq
  exact ⟨⟨hnodup, hscalars⟩, trivial, trivial, trivial⟩

/-- **The writer's record passes every check of the verifier.** -/
theorem verified (h : Appended privateKey issuer args summary line hash payload wrapper)
    (hkey : Crypto.didFromPrivateKey privateKey = .ok issuer)
    (hverify : ∀ octets, Platform.verify (Platform.publicBytes privateKey)
      (Platform.sign privateKey octets) octets = true) :
    Verified (.obj wrapper) (summary.entries + 1) summary.headSha256 summary.issuer issuer hash
      wrapper payload := by
  have hissuer : get payload (py "issuer") = .str issuer ∧
      get payload (py "audit_sequence") = .int (summary.entries + 1 : ℕ) ∧
      get payload (py "previous_entry_sha256") = .str summary.headSha256 := by
    obtain ⟨observedAt, rfl⟩ := h.payload_eq
    exact ⟨rfl, rfl, rfl⟩
  have hdid : Crypto.isDid issuer = true := by
    have h' := hkey
    rw [Crypto.didFromPrivateKey] at h'
    split_ifs at h' with hdid
    cases h'
    exact hdid
  refine
    { record_eq := rfl
      hasKeys := ?_
      payload_eq := ?_
      valid := h.valid
      sequence_eq := hissuer.2.1
      previous_eq := hissuer.2.2
      issuer_ok := ?_
      expected_eq := h.owner
      signed := ?_
      hash_ok := ?_ }
  · rw [PyItems.hasKeys, h.keys_wrapper]
    decide
  · obtain ⟨octets, signature, -, -, rfl⟩ := h.wrapper_eq
    rfl
  · rw [hissuer.1]
    simp [checkDid, Crypto.validateDidValue, asStr, Crypto.validateDid, hdid]
  · obtain ⟨octets, signature, hoctets, hsignature, rfl⟩ := h.wrapper_eq
    -- what was signed is what is verified: the canonical octets under the key of the issuer
    obtain ⟨hsigned, hcanonical⟩ := Crypto.signDetached_eq privateKey octets
    have hmatch := Crypto.verifyDetached_sign hkey hverify hsignature
    rw [hsigned] at hsignature
    cases hsignature
    have hsha : get (wrapperOf payload (Sha256.sha256Hex octets)
        (Crypto.base64UrlEncode (Platform.sign privateKey octets))) (py "payload_sha256") =
        .str (Sha256.sha256Hex octets) := rfl
    have hsig : get (wrapperOf payload (Sha256.sha256Hex octets)
        (Crypto.base64UrlEncode (Platform.sign privateKey octets))) (py "signature") =
        .str (Crypto.base64UrlEncode (Platform.sign privateKey octets)) := rfl
    simp [verifyWrapperSignature, bind, Except.bind, hoctets, hsha, hsig, hissuer.1, asStr,
      hcanonical, hmatch]
  · rw [entryHash, h.line_eq, h.hash_eq]
    rfl

/-- What the verifier decodes from the line. -/
theorem decode (h : Appended privateKey issuer args summary line hash payload wrapper)
    (hkey : Crypto.didFromPrivateKey privateKey = .ok issuer)
    (hverify : ∀ octets, Platform.verify (Platform.publicBytes privateKey)
      (Platform.sign privateKey octets) octets = true) :
    line ≠ [] ∧ OneLine line ∧ decodeJson line = .ok (Json.sortKeys (.obj wrapper)) := by
  obtain ⟨hplain, hdepth⟩ := plain_of_verified h.distinctKeys (h.verified hkey hverify)
  have hline : line = toAscii (canonical (.obj wrapper)) := canonicalJson_plain hplain h.line_eq
  have hsorted := plain_sortKeys _ hplain
  have hhook : HookKeeps reader := fun fields hfields => if_pos hfields
  refine ⟨?_, ?_, ?_⟩
  · obtain ⟨c, t, hhead, -⟩ := render_head (r := reader) hsorted.upTo
    rw [hline, canonical, hhead]
    simp [toAscii]
  · intro b hb
    rw [hline, toAscii, List.mem_map] at hb
    obtain ⟨c, hc, rfl⟩ := hb
    have hprint := printable_render _ hsorted c hc
    constructor
    · exact ofNat_ne_of_ascii (by omega) (by change 10 ≠ c; omega)
    · exact ofNat_ne_of_ascii (by omega) (by change 13 ≠ c; omega)
  · rw [decodeJson, hline,
      loads_canonical hhook hplain (hdepth.trans Platform.two_le_recursionLimit)]

/-- **The line is accepted as the next one.** -/
theorem verifyLine_eq (h : Appended privateKey issuer args summary line hash payload wrapper)
    (hkey : Crypto.didFromPrivateKey privateKey = .ok issuer)
    (hverify : ∀ octets, Platform.verify (Platform.publicBytes privateKey)
      (Platform.sign privateKey octets) octets = true) :
    verifyLine line (summary.entries + 1) summary.headSha256 summary.issuer =
      .ok (issuer, hash) := by
  obtain ⟨hne, -, hdecode⟩ := h.decode hkey hverify
  have hshort : ¬maxAuditLineBytes < line.length := by
    have hrendered := h.short
    rw [List.length_append] at hrendered
    omega
  rw [verifyLine, if_neg (by tauto), hdecode]
  exact verifyRecord_iff.mpr ⟨_, _, (h.verified hkey hverify).sortKeys h.distinctKeys⟩

end Appended

theorem appendIssuer_ok {privateKey : Platform.PrivateKey} {issuerDid issuer : PyStr}
    (h : appendIssuer privateKey issuerDid = .ok issuer) :
    Crypto.didFromPrivateKey privateKey = .ok issuer := by
  obtain ⟨validIssuer, -, h⟩ := PyResult.bind_ok h
  obtain ⟨keyDid, hkey, h⟩ := PyResult.bind_ok h
  split_ifs at h with hsame
  cases h
  rw [hkey, not_not.mp hsame]

/-- **The next record is accepted.**  What `append` writes after an accepted log makes an
accepted log with one more entry, whose head is the hash that `append` returns. -/
theorem verifyBytes_append {privateKey : Platform.PrivateKey} {issuer : PyStr}
    {args : AuditArgs} {raw rendered : Bytes} {hash : PyStr}
    (hkey : Crypto.didFromPrivateKey privateKey = .ok issuer)
    (hverify : ∀ octets, Platform.verify (Platform.publicBytes privateKey)
      (Platform.sign privateKey octets) octets = true)
    (h : appendRecord privateKey issuer args raw = .ok (rendered, hash)) :
    ∃ summary, verifyBytes raw = .ok summary ∧
      verifyBytes (raw ++ rendered) =
        .ok { entries := summary.entries + 1, issuer := some issuer, headSha256 := hash } := by
  obtain ⟨summary, line, payload, wrapper, hsummary, rfl, -, happended⟩ := appendRecord_ok h
  obtain ⟨-, hline, -⟩ := happended.decode hkey hverify
  exact ⟨summary, hsummary, verifyBytes_line hsummary hline (happended.verifyLine_eq hkey hverify)⟩

end Audit
