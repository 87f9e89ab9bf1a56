/-
# What the head of an audit log commits to

Two accepted logs with one head have the same records.

* `chain_of_verifyLines`   : an accepted log is a hash chain from the head before it to its
  own;
* `sameRecord_of_sameHash` : two records with one entry hash are the same and name the same
  record before them;
* `sameRecords_of_head`    : **the head determines the log**, record by record.
-/
import SafeAgent.AuditAppend
import SafeAgent.Sample

open PyText

namespace Audit

open Json PyItems

/-! ## Records -/

/-- A field of a decoded record. -/
def field (record : Json) (key : PyStr) : Json :=
  match record.asObj with
  | some fields => get fields key
  | none => .null

@[simp] theorem field_obj (fields : JsonFields) (key : PyStr) :
    field (.obj fields) key = get fields key := rfl

/-- The issuer that a record names. -/
def recordIssuer (record : Json) : Option PyStr :=
  (field (field record (py "payload")) (py "issuer")).asStr

/-- The same payload, payload hash and signature. -/
structure SameRecord (a b : Json) : Prop where
  payload : SameValue (field a (py "payload")) (field b (py "payload"))
  payloadSha256 : field a (py "payload_sha256") = field b (py "payload_sha256")
  signature : field a (py "signature") = field b (py "signature")

/-- Equal values have equal fields. -/
theorem field_sameValue {a b : Json} (ha : DistinctKeys a) (hb : DistinctKeys b)
    (h : SameValue a b) (key : PyStr) : SameValue (field a key) (field b key) := by
  have hfield : ∀ {v : Json}, DistinctKeys v →
      Json.sortKeys (field v key) = field (Json.sortKeys v) key := by
    intro v hv
    cases v with
    | obj fields => exact (get_sorted hv.1 key).symm
    | _ => rfl
  rw [SameValue, hfield ha, hfield hb, h]

/-- Equal values of which one is a string are one string. -/
theorem eq_of_sameValue_str {v w : Json} {s : PyStr} (hv : v = .str s) (h : SameValue v w) :
    w = .str s := by
  subst hv
  cases w <;> simp_all [SameValue, Json.sortKeys]

theorem canonicalJson_injOn {v w : Json} {octets : Bytes} (hv : Plain v) (hw : Plain w)
    (hov : canonicalJson v = .ok octets) (how : canonicalJson w = .ok octets) :
    SameValue v w := by
  have htext : toAscii (canonical v) = toAscii (canonical w) := by
    rw [← canonicalJson_plain hv hov, ← canonicalJson_plain hw how]
  refine canonical_injOn hv hw ?_
  have hascii := congrArg ofAscii htext
  rwa [canonical, canonical, ofAscii_toAscii (isAscii_render (plain_sortKeys v hv)),
    ofAscii_toAscii (isAscii_render (plain_sortKeys w hw))] at hascii

section Verifier

variable [Platform]

/-- The decoded records of a log. -/
def records (raw : Bytes) : PyResult (List Json) := (splitlines [] raw).mapM decodeJson

/-- The canonical encodings whose hashes link a log. -/
def encodings (raw : Bytes) : Set Bytes :=
  {octets | ∃ log, records raw = .ok log ∧ ∃ record ∈ log, canonicalJson record = .ok octets}

/-! ## One step of the chain -/

/-- An accepted record that names the head `previous` and has the head `hash`. -/
def Links (previous : PyStr) (record : Json) (hash : PyStr) : Prop :=
  DistinctKeys record ∧ ∃ sequence expected issuer wrapper payload,
    Verified record sequence previous expected issuer hash wrapper payload

theorem Links.encoded {previous hash : PyStr} {record : Json} (h : Links previous record hash) :
    Plain record ∧ ∃ octets, canonicalJson record = .ok octets ∧
      hash = Sha256.sha256Hex octets := by
  obtain ⟨hdistinct, _, _, _, _, _, hverified⟩ := h
  exact ⟨(plain_of_verified hdistinct hverified).1, entryHash_ok hverified.hash_ok⟩

/-- What a link names as the head before it. -/
theorem Links.previous_eq {previous hash : PyStr} {record : Json}
    (h : Links previous record hash) :
    field (field record (py "payload")) (py "previous_entry_sha256") = .str previous := by
  obtain ⟨_, _, _, _, wrapper, payload, hverified⟩ := h
  rw [hverified.record_eq, field_obj, hverified.payload_eq, field_obj, hverified.previous_eq]

/-- Linked records that are equal values are the same, have one issuer, and name one head. -/
theorem Links.sameRecord {previous previous' hash hash' : PyStr} {a b : Json}
    (ha : Links previous a hash) (hb : Links previous' b hash') (h : SameValue a b) :
    (SameRecord a b ∧ recordIssuer a = recordIssuer b) ∧ previous = previous' := by
  have hfield := field_sameValue ha.1 hb.1 h
  have hnested : ∀ {v : Json}, DistinctKeys v → DistinctKeys (field v (py "payload")) := by
    intro v hv
    cases v with
    | obj fields => exact DistinctFields.get hv.2 _
    | _ => trivial
  have hpayload := field_sameValue (hnested ha.1) (hnested hb.1) (hfield (py "payload"))
  have hprevious := eq_of_sameValue_str ha.previous_eq (hpayload (py "previous_entry_sha256"))
  rw [hb.previous_eq] at hprevious
  obtain ⟨_, _, _, issuer, wrapper, payload, hverified⟩ := ha
  obtain ⟨⟨octets, -, hsha⟩, signature, hsignature, -⟩ :=
    verifyWrapperSignature_ok hverified.signed
  have hstr : ∀ {key s : PyStr}, get wrapper key = .str s → field a key = field b key := by
    intro key s hs
    have hvalue : field a key = .str s := by
      rw [hverified.record_eq]
      exact hs
    rw [eq_of_sameValue_str hvalue (hfield key), hvalue]
  have hissuer : field (field a (py "payload")) (py "issuer") = .str issuer := by
    rw [hverified.record_eq, field_obj, hverified.payload_eq, field_obj,
      (checkDid_ok hverified.issuer_ok).1]
  refine ⟨⟨⟨hfield _, hstr hsha, hstr hsignature⟩, ?_⟩, (Json.str.inj hprevious).symm⟩
  rw [recordIssuer, recordIssuer, hissuer, eq_of_sameValue_str hissuer (hpayload (py "issuer"))]

/-- Two records with one entry hash. -/
theorem sameRecord_of_sameHash {previous previous' hash : PyStr} {a b : Json}
    {encoded : Set Bytes} (hinj : encoded.InjOn Sha256.sha256Hex)
    (hain : ∀ octets, canonicalJson a = .ok octets → octets ∈ encoded)
    (hbin : ∀ octets, canonicalJson b = .ok octets → octets ∈ encoded)
    (ha : Links previous a hash) (hb : Links previous' b hash) :
    (SameRecord a b ∧ recordIssuer a = recordIssuer b) ∧ previous = previous' := by
  obtain ⟨haplain, octets, haoctets, hahash⟩ := ha.encoded
  obtain ⟨hbplain, octets', hboctets, hbhash⟩ := hb.encoded
  obtain rfl : octets = octets' :=
    hinj (hain _ haoctets) (hbin _ hboctets) (hahash.symm.trans hbhash)
  exact ha.sameRecord hb (canonicalJson_injOn haplain hbplain haoctets hboctets)

/-! ## The chain of a log -/

theorem hookDistinct_reader : HookDistinct reader := hookDistinct_reject rfl

theorem distinctKeys_of_decodeJson {line : Bytes} {record : Json}
    (h : decodeJson line = .ok record) : DistinctKeys record := by
  unfold decodeJson at h
  split at h
  · rename_i value hload
    cases h
    exact loads_distinctKeys hookDistinct_reader hload
  · split_ifs at h

theorem links_of_verifyLine {line : Bytes} {sequence : ℕ} {previous issuer hash : PyStr}
    {expected : Option PyStr} (h : verifyLine line sequence previous expected = .ok (issuer, hash)) :
    ∃ record, decodeJson line = .ok record ∧ Links previous record hash ∧
      recordIssuer record = some issuer := by
  unfold verifyLine at h
  split_ifs at h with hsize
  obtain ⟨record, hdecode, h⟩ := PyResult.bind_ok h
  obtain ⟨wrapper, payload, hverified⟩ := verifyRecord_iff.mp h
  refine ⟨record, hdecode, ⟨distinctKeys_of_decodeJson hdecode, _, _, _, _, _, hverified⟩, ?_⟩
  rw [recordIssuer, hverified.record_eq, field_obj, hverified.payload_eq, field_obj,
    (checkDid_ok hverified.issuer_ok).1, asStr]

/-- An accepted log is a chain from the head before it to its own, with as many records as
the summary counts, and with the issuer of its last record. -/
theorem chain_of_verifyLines {lines : List Bytes} {before after : AuditSummary}
    (h : verifyLines lines before = .ok after) :
    ∃ log, lines.mapM decodeJson = .ok log ∧ after.entries = before.entries + log.length ∧
      Linked Links before.headSha256 log after.headSha256 ∧
      after.issuer = (log.getLast?.map recordIssuer).getD before.issuer := by
  induction lines generalizing before with
  | nil =>
      cases h
      exact ⟨[], rfl, rfl, .nil _, rfl⟩
  | cons line lines ih =>
      obtain ⟨⟨issuer, hash⟩, hline, h⟩ := PyResult.bind_ok h
      obtain ⟨record, hdecode, hlinks, hissuer⟩ := links_of_verifyLine hline
      obtain ⟨log, hlog, hentries, hlinked, hlast⟩ := ih h
      refine ⟨record :: log, ?_, ?_, .cons hlinks hlinked, ?_⟩
      · rw [List.mapM_cons, hdecode, hlog]
        rfl
      · rw [hentries, List.length_cons]
        dsimp only
        omega
      · rw [hlast]
        cases log with
        | nil => simp [hissuer]
        | cons record' log => rw [List.getLast?_cons_cons, List.getLast?_cons]; rfl

theorem chain_of_verifyBytes {raw : Bytes} {summary : AuditSummary}
    (h : verifyBytes raw = .ok summary) :
    ∃ log, records raw = .ok log ∧ summary.entries = log.length ∧
      Linked Links genesisHash log summary.headSha256 ∧
      summary.issuer = (log.getLast?.map recordIssuer).getD none := by
  obtain ⟨log, hlog, hentries, hlinked, hissuer⟩ :=
    chain_of_verifyLines (verifyLines_of_verifyBytes h)
  exact ⟨log, hlog, by simpa [emptySummary] using hentries, hlinked, hissuer⟩

/-! ## The head -/

/-- **The head commits to the log.**  Where SHA-256 is injective on the encodings of the two
logs and never gives the genesis value, accepted logs with one head have equally many
records, with the same payloads, payload hashes and signatures, and one issuer. -/
theorem sameRecords_of_head {raw raw' : Bytes} {summary summary' : AuditSummary}
    (hinj : (encodings raw ∪ encodings raw').InjOn Sha256.sha256Hex)
    (hgenesis : ∀ octets ∈ encodings raw ∪ encodings raw',
      Sha256.sha256Hex octets ≠ genesisHash)
    (h : verifyBytes raw = .ok summary) (h' : verifyBytes raw' = .ok summary')
    (hhead : summary.headSha256 = summary'.headSha256) :
    ∃ log log', records raw = .ok log ∧ records raw' = .ok log' ∧
      summary.entries = log.length ∧ summary'.entries = log'.length ∧
      log.length = log'.length ∧ List.Forall₂ SameRecord log log' ∧
      summary.issuer = summary'.issuer := by
  obtain ⟨log, hlog, hentries, hlinked, hissuer⟩ := chain_of_verifyBytes h
  obtain ⟨log', hlog', hentries', hlinked', hissuer'⟩ := chain_of_verifyBytes h'
  rw [← hhead] at hlinked'
  have hin : ∀ record ∈ log, ∀ octets, canonicalJson record = .ok octets →
      octets ∈ encodings raw ∪ encodings raw' :=
    fun record hrecord octets hoctets => .inl ⟨log, hlog, record, hrecord, hoctets⟩
  have hin' : ∀ record ∈ log', ∀ octets, canonicalJson record = .ok octets →
      octets ∈ encodings raw ∪ encodings raw' :=
    fun record hrecord octets hoctets => .inr ⟨log', hlog', record, hrecord, hoctets⟩
  -- Nothing leads to the genesis value, so neither chain can be longer than the other.
  have hstart : ∀ record, record ∈ log ∨ record ∈ log' → ∀ previous,
      ¬Links previous record genesisHash := by
    intro record hrecord previous hlinks
    obtain ⟨-, octets, hoctets, hhash⟩ := hlinks.encoded
    refine hgenesis octets ?_ hhash.symm
    rcases hrecord with hrecord | hrecord
    · exact hin record hrecord octets hoctets
    · exact hin' record hrecord octets hoctets
  have hsame : List.Forall₂ (fun a b => SameRecord a b ∧ recordIssuer a = recordIssuer b)
      log log' := by
    refine Linked.unique ?_ hstart hlinked hlinked'
    intro a ha b hb _ _ _ hastep hbstep
    exact sameRecord_of_sameHash hinj (hin a ha) (hin' b hb) hastep hbstep
  have hissuers : log.map recordIssuer = log'.map recordIssuer := by
    rw [← List.forall₂_eq_eq_eq, List.forall₂_map_left_iff, List.forall₂_map_right_iff]
    exact hsame.imp fun _ _ hab => hab.2
  refine ⟨log, log', hlog, hlog', hentries, hentries', hsame.length_eq,
    hsame.imp fun _ _ hab => hab.1, ?_⟩
  rw [hissuer, hissuer', ← List.getLast?_map, ← List.getLast?_map, hissuers]

end Verifier

/-! ## A log with one record -/

open Sample

/-- The line, without the line feed, and the hash of a record to be written. -/
def lineAndHash : PyResult (Bytes × PyStr) → Bytes × PyStr
  | .ok (rendered, hash) => (rendered.dropLast, hash)
  | .error _ => ([], [])

theorem lineAndHash_eq {result : PyResult (Bytes × PyStr)} {raw : Bytes}
    (happend : appendRecord key did auditArgs raw = result) (hok : result.isOk = true) :
    appendRecord key did auditArgs raw =
      .ok ((lineAndHash result).1 ++ [10], (lineAndHash result).2) := by
  cases result with
  | error e => cases hok
  | ok found =>
      obtain ⟨rendered, hash⟩ := found
      obtain ⟨_, line, _, _, -, rfl, -, -⟩ := appendRecord_ok happend
      rw [happend, lineAndHash, List.dropLast_concat]

/-- What the first append writes, and what it returns. -/
@[irreducible] def sampleAppend : Bytes × PyStr := lineAndHash (appendRecord key did auditArgs [])

theorem sampleAppend_eq :
    appendRecord key did auditArgs [] = .ok (sampleAppend.1 ++ [10], sampleAppend.2) := by
  have hok : (appendRecord key did auditArgs []).isOk = true := by decide +kernel
  unfold sampleAppend
  exact lineAndHash_eq rfl hok

/-- The summary of the log with that record. -/
def sampleSummary : AuditSummary where
  entries := 1
  issuer := some did
  headSha256 := sampleAppend.2

theorem verifyBytes_sample : verifyBytes (sampleAppend.1 ++ [10]) = .ok sampleSummary := by
  obtain ⟨summary, hempty, h⟩ := verifyBytes_append did_eq (verify_sign key) sampleAppend_eq
  rw [verifyBytes, if_pos rfl] at hempty
  cases hempty
  rwa [List.nil_append] at h

/-- The same line, ended the other way. -/
theorem splitlines_crlf :
    splitlines [] (sampleAppend.1 ++ [13, 10]) = splitlines [] (sampleAppend.1 ++ [10]) := by
  obtain ⟨_, line, _, _, -, hline, -, happended⟩ := appendRecord_ok sampleAppend_eq
  obtain ⟨-, hone, -⟩ := happended.decode did_eq (verify_sign key)
  obtain rfl := List.append_cancel_right hline
  have hcrlf : ∀ start line, OneLine line →
      splitlines start (line ++ [13, 10]) = [start.reverse ++ line] := by
    intro start line hone
    induction line generalizing start with
    | nil => simp [splitlines]
    | cons b line ih =>
        obtain ⟨hlf, hcr⟩ := hone b (by simp)
        have hrest : OneLine line := fun c hc => hone c (by simp [hc])
        rw [List.cons_append, splitlines, if_neg (by tauto), ih _ hrest]
        · simp
        · rintro rest rfl
          exact absurd rfl hcr
  rw [hcrlf _ _ hone, splitlines_line hone]

theorem verifyBytes_crlf : verifyBytes (sampleAppend.1 ++ [13, 10]) = .ok sampleSummary := by
  refine verifyBytes_of_verifyLines (wholeLines_append (by rfl)) ?_
  rw [splitlines_crlf]
  exact verifyLines_of_verifyBytes verifyBytes_sample

/-- The two logs have one encoding, whose hash is the head. -/
theorem encodings_sample {octets : Bytes}
    (h : octets ∈ encodings (sampleAppend.1 ++ [10]) ∪ encodings (sampleAppend.1 ++ [13, 10])) :
    Sha256.sha256Hex octets = sampleAppend.2 ∧ octets = sampleAppend.1 := by
  have hrecords : records (sampleAppend.1 ++ [13, 10]) = records (sampleAppend.1 ++ [10]) := by
    rw [records, records, splitlines_crlf]
  rw [encodings, encodings, hrecords, Set.union_self] at h
  obtain ⟨log, hlog, record, hrecord, hoctets⟩ := h
  obtain ⟨_, line, _, wrapper, -, hline, -, happended⟩ := appendRecord_ok sampleAppend_eq
  obtain ⟨-, hone, hdecode⟩ := happended.decode did_eq (verify_sign key)
  obtain rfl := List.append_cancel_right hline
  rw [records, splitlines_line hone, List.reverse_nil, List.nil_append, List.mapM_cons, hdecode]
    at hlog
  cases hlog
  obtain rfl := List.mem_singleton.mp hrecord
  rw [canonicalJson_sortKeys, happended.line_eq] at hoctets
  cases hoctets
  exact ⟨happended.hash_eq.symm, rfl⟩

theorem sameRecords_of_head_crlf :
    ∃ log log', records (sampleAppend.1 ++ [10]) = .ok log ∧
      records (sampleAppend.1 ++ [13, 10]) = .ok log' ∧
      sampleSummary.entries = log.length ∧ sampleSummary.entries = log'.length ∧
      log.length = log'.length ∧ List.Forall₂ SameRecord log log' ∧
      sampleSummary.issuer = sampleSummary.issuer :=
  sameRecords_of_head
    (fun _ h _ h' _ => (encodings_sample h).2.trans (encodings_sample h').2.symm)
    (fun _ h heq => absurd ((encodings_sample h).1.symm.trans heq) (by decide +kernel))
    verifyBytes_sample verifyBytes_crlf rfl

end Audit
