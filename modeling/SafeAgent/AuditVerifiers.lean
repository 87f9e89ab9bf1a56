/-
# The audit verifier on arbitrary files

`_verify_bytes` runs its checks on every line before it looks at the line's signature, and
two of them look a value up in a set of names.

* `CrashingLine`        : the lines that make the checks raise something else than an
  `AuditError`;
* `AcceptedLines`       : the lines that are verified one after another;
* `escapes_verifyBytes` : **when an exception escapes**, for every file.
-/
import SafeAgent.AuditHead
import SafeAgent.Escapes

open PyText

namespace Audit

open Json PyItems

/-- A handler for `AuditError`: it catches these, and neither a `TypeError` nor a
`RecursionError`. -/
structure Handles (P : PyErr → Prop) : Prop where
  audit : ∀ message, P (auditError message)
  not_type : ∀ message, ¬P (.of .typeError message)
  not_deep : ¬P nestedTooDeep

variable {P : PyErr → Prop}

/-! ## Single values -/

section Values

variable {value : Json} {label : String}

theorem raises_positiveInt (hP : Handles P) : Raises P (positiveInt value label) := by
  unfold positiveInt
  split
  · exact raises_ite (raises_ok _) ((raises_error _).mpr (hP.audit _))
  · exact (raises_error _).mpr (hP.audit _)

theorem raises_checkSha256 (hP : Handles P) : Raises P (checkSha256 value label) := by
  unfold checkSha256
  split
  · exact raises_ite (raises_ok _) ((raises_error _).mpr (hP.audit _))
  · exact (raises_error _).mpr (hP.audit _)

theorem raises_checkDid (hP : Handles P) : Raises P (checkDid value) := by
  unfold checkDid
  split
  · exact raises_ok _
  · exact (raises_error _).mpr (hP.audit _)

theorem raises_checkTimestamp [Platform] (hP : Handles P) : Raises P (checkTimestamp value) := by
  unfold checkTimestamp
  split
  · exact raises_ite (raises_ok _) ((raises_error _).mpr (hP.audit _))
  · exact (raises_error _).mpr (hP.audit _)

theorem raises_unlessNone {α : Type} {check : PyResult α} (h : Raises P check) :
    Raises P (unlessNone value check) := by
  unfold unlessNone
  refine raises_ite (raises_ok _) ?_
  split
  · exact raises_ok _
  · rename_i e
    exact (raises_error _).mpr (h e rfl)

theorem raises_validateSender (hP : Handles P) {payload : JsonFields} :
    Raises P (validateSender payload) := by
  unfold validateSender
  split
  · refine raises_ite (raises_ite (raises_ok _) ((raises_error _).mpr (hP.audit _))) ?_
    split
    · exact raises_ok _
    · exact (raises_error _).mpr (hP.audit _)
  · exact (raises_error _).mpr (hP.audit _)

end Values

/-! ## The payload -/

/-- A decision, or an outcome when it is reached, that has no hash. -/
def CrashingDecision (payload : JsonFields) : Prop :=
  (get payload (py "policy_decision")).unhashable = true ∨
    (∃ decision ∈ policyDecisions, get payload (py "policy_decision") = .str decision) ∧
      (get payload (py "policy_reason")).asStr.any isToken = true ∧
      (get payload (py "outcome")).unhashable = true

theorem escapes_validateDecision (hP : Handles P) {payload : JsonFields} :
    Escapes P (validateDecision payload) ↔ CrashingDecision payload := by
  unfold validateDecision CrashingDecision
  rw [escapes_bind, escapes_inNames hP.not_type]
  refine or_congr_right ?_
  constructor
  · rintro ⟨known, hknown, h⟩
    rw [escapes_check (hP.audit _), escapes_check (hP.audit _), escapes_bind,
      escapes_inNames hP.not_type, not_not, not_not] at h
    obtain ⟨rfl, hreason, houtcome | ⟨knownOutcome, -, h⟩⟩ := h
    · exact ⟨inNames_eq_true.mp hknown, hreason, houtcome⟩
    · refine absurd h (Raises.not_escapes ?_)
      refine raises_ite ((raises_error _).mpr (hP.audit _)) ?_
      refine raises_bind (raises_unlessNone (raises_checkSha256 hP)) fun _ _ => ?_
      refine raises_bind (raises_unlessNone (raises_positiveInt hP)) fun _ _ => ?_
      exact raises_ite (raises_ok _) ((raises_error _).mpr (hP.audit _))
  · rintro ⟨hdecision, hreason, houtcome⟩
    refine ⟨true, inNames_eq_true.mpr hdecision, ?_⟩
    rw [escapes_check (hP.audit _), escapes_check (hP.audit _), escapes_bind,
      escapes_inNames hP.not_type, not_not, not_not]
    exact ⟨rfl, hreason, Or.inl houtcome⟩

section Platform

variable [Platform]

/-- What the checks have found when they read the decision. -/
structure DecisionReached (payload : JsonFields) : Prop where
  keys : hasKeys payload payloadKeys = true
  schema : get payload (py "schema") = .str auditSchema
  sequence : ∃ n, positiveInt (get payload (py "audit_sequence")) "audit sequence" = .ok n
  input : ∃ n, positiveInt (get payload (py "input_sequence")) "input sequence" = .ok n
  issuer : ∃ did, checkDid (get payload (py "issuer")) = .ok did
  observed : ∃ t, checkTimestamp (get payload (py "observed_at")) = .ok t
  previous : ∃ s, checkSha256 (get payload (py "previous_entry_sha256")) "previous-entry hash" = .ok s
  sender : validateSender payload = .ok ()

theorem escapes_validatePayload (hP : Handles P) {payload : JsonFields} :
    Escapes P (validatePayload payload) ↔ DecisionReached payload ∧ CrashingDecision payload := by
  unfold validatePayload
  rw [escapes_check (hP.audit _), not_or, not_not, not_not, isStr_iff,
    escapes_bind_of_raises (raises_positiveInt hP)]
  constructor
  · rintro ⟨⟨hkeys, hschema⟩, n, hsequence, h⟩
    obtain ⟨m, hinput, h⟩ := (escapes_bind_of_raises (raises_positiveInt hP)).mp h
    obtain ⟨did, hissuer, h⟩ := (escapes_bind_of_raises (raises_checkDid hP)).mp h
    obtain ⟨t, htime, h⟩ := (escapes_bind_of_raises (raises_checkTimestamp hP)).mp h
    obtain ⟨p, hprevious, h⟩ := (escapes_bind_of_raises (raises_checkSha256 hP)).mp h
    obtain ⟨⟨⟩, hsender, h⟩ := (escapes_bind_of_raises (raises_validateSender hP)).mp h
    exact ⟨⟨hkeys, hschema, ⟨n, hsequence⟩, ⟨m, hinput⟩, ⟨did, hissuer⟩, ⟨t, htime⟩, ⟨p, hprevious⟩,
      hsender⟩, (escapes_validateDecision hP).mp h⟩
  · rintro ⟨⟨hkeys, hschema, ⟨n, hsequence⟩, ⟨m, hinput⟩, ⟨did, hissuer⟩, ⟨t, htime⟩, ⟨p, hprevious⟩,
      hsender⟩, h⟩
    refine ⟨⟨hkeys, hschema⟩, n, hsequence, escapes_bind.mpr (Or.inr ⟨m, hinput, ?_⟩)⟩
    refine escapes_bind.mpr (Or.inr ⟨did, hissuer, escapes_bind.mpr (Or.inr ⟨t, htime, ?_⟩)⟩)
    refine escapes_bind.mpr (Or.inr ⟨p, hprevious, escapes_bind.mpr (Or.inr ⟨(), hsender, ?_⟩)⟩)
    exact (escapes_validateDecision hP).mpr h

/-! ## A line -/

/-- A line that is nested too deep, or whose payload makes the checks raise. -/
def CrashingLine (line : Bytes) : Prop :=
  line ≠ [] ∧ line.length ≤ maxAuditLineBytes ∧
    (loads reader line = .error nestedTooDeep ∨
      ∃ wrapper payload, loads reader line = .ok (.obj wrapper) ∧
        hasKeys wrapper wrapperKeys = true ∧ get wrapper (py "payload") = .obj payload ∧
        DecisionReached payload ∧ CrashingDecision payload)

theorem escapes_decodeJson (hP : Handles P) {line : Bytes} :
    Escapes P (decodeJson line) ↔ loads reader line = .error nestedTooDeep := by
  have hscanner : ScannerErrors fun e =>
      e.isa .valueError = true ∨ e = nestedTooDeep ∨ ∃ message, e = auditError message :=
    { decode := fun message => Or.inl rfl
      tooLong := Or.inl rfl
      tooDeep := Or.inr (Or.inl rfl)
      utf8 := Or.inl rfl }
  have hraises := loads_raises hscanner (r := reader)
    (fun _ => raises_ite (raises_ok _) ((raises_error _).mpr (Or.inr (Or.inr ⟨_, rfl⟩)))) line
  unfold decodeJson
  cases hloads : loads reader line with
  | ok j => exact iff_of_false (escapes_ok j) (by rintro ⟨⟩)
  | error e =>
      dsimp only
      rw [escapes_ite, escapes_error, escapes_error, Except.error.injEq]
      constructor
      · rintro (⟨-, h⟩ | ⟨hother, h⟩)
        · exact absurd (hP.audit _) h
        · rcases hraises e hloads with hvalue | hdeep | ⟨message, rfl⟩
          · exact absurd hvalue hother
          · exact hdeep
          · exact absurd (hP.audit _) h
      · rintro rfl
        exact Or.inr ⟨by decide, hP.not_deep⟩

theorem decodeJson_eq_ok {line : Bytes} {j : Json} :
    decodeJson line = .ok j ↔ loads reader line = .ok j := by
  unfold decodeJson
  cases loads reader line with
  | ok j' => exact Iff.rfl
  | error e =>
      refine iff_of_false ?_ (by rintro ⟨⟩)
      dsimp only
      split_ifs
      · rintro ⟨⟩
      · rintro ⟨⟩

omit [Platform] in
theorem canonicalJson_of_plain {v : Json} (hv : Plain v) (hfit : intsFit v = true) :
    ∃ octets, canonicalJson v = .ok octets := by
  refine ⟨toAscii (canonical v), ?_⟩
  have hencoded : encodeUtf8 (canonical v) = some (toAscii (canonical v)) :=
    encodeUtf8_ascii (isAscii_render (plain_sortKeys v hv))
  simp only [canonicalJson, dumps, if_pos hfit, bind, Except.bind, hencoded]

/-- After its payload was checked, a record that was read raises nothing but an `AuditError`. -/
theorem raises_afterPayload (hP : Handles P) {wrapper payload : JsonFields}
    (hdistinct : DistinctKeys (.obj wrapper)) (hfit : intsFit (.obj wrapper) = true)
    (hkeys : hasKeys wrapper wrapperKeys = true) (hpayload : get wrapper (py "payload") = .obj payload)
    (hvalid : validatePayload payload = .ok ()) :
    Raises P (verifyWrapperSignature wrapper payload) ∧
      (verifyWrapperSignature wrapper payload = .ok () →
        ∃ hash, entryHash (.obj wrapper) = .ok hash) := by
  have hpayloadDistinct := hdistinct.2.get (py "payload")
  have hpayloadFit := intsFit_get hfit (py "payload")
  rw [hpayload] at hpayloadDistinct hpayloadFit
  have hplain : Plain (.obj payload) := (plain_of_valid hvalid hpayloadDistinct.1 hpayloadFit).1
  obtain ⟨octets, hoctets⟩ := canonicalJson_of_plain hplain hpayloadFit
  constructor
  · unfold verifyWrapperSignature
    rw [hoctets]
    refine raises_ite ((raises_error _).mpr (hP.audit _)) ?_
    split
    · exact (raises_error _).mpr (hP.audit _)
    refine raises_ite ((raises_error _).mpr (hP.audit _)) ?_
    split
    · exact (raises_error _).mpr (hP.audit _)
    · exact raises_ite (raises_ok _) ((raises_error _).mpr (hP.audit _))
  · intro hsigned
    have hrecord := (plain_of_signed hdistinct hfit hkeys hpayload hvalid hsigned).1
    obtain ⟨octets', hoctets'⟩ := canonicalJson_of_plain hrecord hfit
    exact ⟨Sha256.sha256Hex octets', by rw [entryHash, hoctets']; rfl⟩

theorem escapes_verifyLine (hP : Handles P) {line : Bytes} {sequence : ℕ} {previous : PyStr}
    {issuer : Option PyStr} :
    Escapes P (verifyLine line sequence previous issuer) ↔ CrashingLine line := by
  unfold verifyLine CrashingLine
  rw [escapes_check (hP.audit _), not_or, not_lt, and_assoc, escapes_bind, escapes_decodeJson hP]
  refine and_congr_right fun _ => and_congr_right fun _ => or_congr_right ?_
  constructor
  · rintro ⟨record, hrecord, h⟩
    rw [decodeJson_eq_ok] at hrecord
    have hfit := loads_intsFit (hookKeepsMembers_reject rfl) hrecord
    have hdistinct := loads_distinctKeys hookDistinct_reader hrecord
    unfold verifyRecord at h
    split at h
    · exact absurd (hP.audit _) ((escapes_error _).mp h)
    rename_i wrapper hwrapper
    obtain rfl := eq_obj_of_asObj hwrapper
    rw [escapes_check (hP.audit _), not_not] at h
    obtain ⟨hkeys, h⟩ := h
    split at h
    · exact absurd (hP.audit _) ((escapes_error _).mp h)
    rename_i payload hpayload
    rw [escapes_bind, escapes_validatePayload hP] at h
    rcases h with h | ⟨⟨⟩, hvalid, h⟩
    · exact ⟨wrapper, payload, hrecord, hkeys, eq_obj_of_asObj hpayload, h⟩
    -- the payload is valid: what the other checks raise is caught
    obtain ⟨hsignature, hhash⟩ :=
      raises_afterPayload hP hdistinct hfit hkeys (eq_obj_of_asObj hpayload) hvalid
    refine absurd h (Raises.not_escapes ?_)
    refine raises_ite ((raises_error _).mpr (hP.audit _)) ?_
    refine raises_ite ((raises_error _).mpr (hP.audit _)) ?_
    refine raises_bind (raises_checkDid hP) fun did _ => ?_
    refine raises_ite ((raises_error _).mpr (hP.audit _)) ?_
    refine raises_bind hsignature ?_
    rintro ⟨⟩ hsigned
    obtain ⟨hash, hhash⟩ := hhash hsigned
    rw [hhash]
    exact raises_ok _
  · rintro ⟨wrapper, payload, hrecord, hkeys, hpayload, h⟩
    refine ⟨.obj wrapper, decodeJson_eq_ok.mpr hrecord, ?_⟩
    simp only [verifyRecord, asObj, hkeys, hpayload, not_true_eq_false, if_false]
    exact escapes_bind.mpr (Or.inl ((escapes_validatePayload hP).mpr h))

/-! ## The log -/

/-- Lines that are verified one after another, from one summary to the next. -/
inductive AcceptedLines : AuditSummary → List Bytes → AuditSummary → Prop
  | nil (summary : AuditSummary) : AcceptedLines summary [] summary
  | cons {summary after : AuditSummary} {line : Bytes} {rest : List Bytes} {record : Json}
      {issuer hash : PyStr} {wrapper payload : JsonFields} :
      line ≠ [] → line.length ≤ maxAuditLineBytes → loads reader line = .ok record →
      Verified record (summary.entries + 1) summary.headSha256 summary.issuer issuer hash wrapper
        payload →
      AcceptedLines
        { entries := summary.entries + 1, issuer := some issuer, headSha256 := hash } rest after →
      AcceptedLines summary (line :: rest) after

theorem verifyLine_eq_ok {line : Bytes} {sequence : ℕ} {previous issuer hash : PyStr}
    {expected : Option PyStr} :
    verifyLine line sequence previous expected = .ok (issuer, hash) ↔
      line ≠ [] ∧ line.length ≤ maxAuditLineBytes ∧ ∃ record wrapper payload,
        loads reader line = .ok record ∧
        Verified record sequence previous expected issuer hash wrapper payload := by
  unfold verifyLine
  rw [PyResult.check_eq_ok, not_or, not_lt, and_assoc, PyResult.bind_eq_ok]
  refine and_congr_right fun _ => and_congr_right fun _ => exists_congr fun record => ?_
  rw [decodeJson_eq_ok, verifyRecord_iff]
  simp only [exists_and_left]

/-- The loop lets an exception through at the first line that is not accepted, when that
line makes the checks raise. -/
theorem escapes_verifyLines (hP : Handles P) {lines : List Bytes} {summary : AuditSummary} :
    Escapes P (verifyLines lines summary) ↔
      ∃ before line rest reached, lines = before ++ line :: rest ∧
        AcceptedLines summary before reached ∧ CrashingLine line := by
  induction lines generalizing summary with
  | nil => simp [verifyLines]
  | cons first rest ih =>
      rw [verifyLines, escapes_bind, escapes_verifyLine hP]
      constructor
      · rintro (h | ⟨⟨issuer, hash⟩, hline, h⟩)
        · exact ⟨[], first, rest, summary, rfl, .nil summary, h⟩
        · obtain ⟨hne, hle, record, wrapper, payload, hrecord, hverified⟩ :=
            verifyLine_eq_ok.mp hline
          obtain ⟨before, line, after, reached, rfl, hbefore, hcrash⟩ := ih.mp h
          exact ⟨first :: before, line, after, reached, rfl, .cons hne hle hrecord hverified hbefore,
            hcrash⟩
      · rintro ⟨before, line, after, reached, hlines, hbefore, hcrash⟩
        cases hbefore with
        | nil =>
            obtain ⟨rfl, rfl⟩ := List.cons.inj hlines
            exact Or.inl hcrash
        | cons hne hle hrecord hverified hbefore =>
            obtain ⟨rfl, rfl⟩ := List.cons.inj hlines
            refine Or.inr ⟨_, verifyLine_eq_ok.mpr ⟨hne, hle, _, _, _, hrecord, hverified⟩, ?_⟩
            exact ih.mpr ⟨_, line, after, reached, rfl, hbefore, hcrash⟩

/-- A log with a line that makes the checks raise, after lines that are accepted. -/
def CrashingLog (raw : Bytes) : Prop :=
  raw ≠ [] ∧ raw.getLast? = some 10 ∧
    ∃ before line rest reached, splitlines [] raw = before ++ line :: rest ∧
      AcceptedLines emptySummary before reached ∧ CrashingLine line

/-- **When an exception escapes from `_verify_bytes`.** -/
theorem escapes_verifyBytes (hP : Handles P) {raw : Bytes} :
    Escapes P (verifyBytes raw) ↔ CrashingLog raw := by
  unfold verifyBytes CrashingLog
  rw [escapes_ite, escapes_check (hP.audit _), not_ne_iff, escapes_verifyLines hP]
  constructor
  · rintro (⟨-, h⟩ | h)
    · exact absurd h (escapes_ok _)
    · exact h
  · exact Or.inr

end Platform

end Audit
