/-
# The offline verifiers (`mcp_server.py`)

`verify_receipt_content` verifies one bounded text, and `verify_audit_path` one file.  Each
turns its own exception into a result.

* `wp_verifyExpecting`    : what verifying a private regular file comes to;
* `verifiers_total_iff`   : **when the two verifiers return**, for every text and every file;
* `verify_listState`      : a receipt whose `state` is a list.
-/
import SafeAgent.AuditVerifiers
import SafeAgent.ReceiptVerifiers

open PyText

/-! ## The tools -/

/-- `MAX_RECEIPT_INPUT_BYTES` -/
def maxReceiptInputBytes : ℕ := 4096

/-- `ReceiptVerification`; `None` is `.null`. -/
structure ReceiptVerification where
  valid : Bool
  errorCode : Option String
  receiptSchema : Json
  issuer : Json
  repository : Json
  pullNumber : Json
  payloadSha256 : Json

/-- `_invalid_receipt` -/
def invalidVerification (errorCode : String) : ReceiptVerification where
  valid := false
  errorCode := some errorCode
  receiptSchema := .null
  issuer := .null
  repository := .null
  pullNumber := .null
  payloadSha256 := .null

/-- `AuditVerification` -/
structure AuditVerification where
  valid : Bool
  errorCode : Option String
  entries : Option ℕ
  issuer : Option PyStr
  headSha256 : Option PyStr
  expectedHeadMatched : Bool

/-- The result for a log that cannot be verified. -/
def invalidAudit : AuditVerification where
  valid := false
  errorCode := some "audit_verification_failed"
  entries := none
  issuer := none
  headSha256 := none
  expectedHeadMatched := false

section Tools

variable [Platform]

/-- `verify_receipt_content` -/
def verifyReceiptContent (receiptJson : PyStr) : PyResult ReceiptVerification :=
  match encodeUtf8 receiptJson with
  | none => .ok (invalidVerification "invalid_receipt")
  | some encoded =>
      if maxReceiptInputBytes < encoded.length then
        .ok (invalidVerification "receipt_too_large")
      else
        match Receipt.verifySignedReceipt (.text receiptJson) with
        | .error e =>
            if e.isa .gitHubReceiptError then .ok (invalidVerification e.code) else .error e
        | .ok payload => do
            let wrapper ← Json.loadsStr Protocol.jsonReader receiptJson
            return {
              valid := true, errorCode := none
              receiptSchema := Json.get payload (py "schema")
              issuer := Json.get payload (py "issuer")
              repository := Json.get payload (py "repository")
              pullNumber := Json.get payload (py "pull_number")
              payloadSha256 := Json.get (wrapper.asObj.getD []) (py "payload_sha256") }

namespace Audit

open Agent

/-- The comparison of `SignedAuditLog.verify` with `expected_head`. -/
def checkHead (expectedHead : Option PyStr) (summary : AuditSummary) : PyResult AuditSummary :=
  match expectedHead with
  | none => .ok summary
  | some head => do
      let _ ← checkSha256 (.str head) "expected audit head"
      if summary.headSha256 ≠ head then
        .error (auditError "audit head does not match the expected checkpoint")
      else .ok summary

/-- `SignedAuditLog.verify` -/
def verifyExpecting (expectedHead : Option PyStr) : Agent AuditSummary := do
  let summary ← verify
  Proc.ofExcept (checkHead expectedHead summary)

/-- `verify_audit_path` -/
def verifyAuditPath (expectedHead : Option PyStr) : Agent AuditVerification :=
  tryCatch (do
    let summary ← verifyExpecting expectedHead
    return {
      valid := true, errorCode := none, entries := some summary.entries
      issuer := summary.issuer, headSha256 := some summary.headSha256
      expectedHeadMatched := expectedHead.isSome })
    fun e => if e.isa .auditError then pure invalidAudit else throw e

/-! ## A private regular file -/

/-- A private regular file with this content, which nobody holds a lock on. -/
def PrivateFile (raw : Bytes) (_ : Unit) : (o : Op) → Except PyErr o.Val → Unit → Prop
  | .auditExists, r, _ => r = .ok true
  | .auditOpen _, r, _ => ∃ info : FileMeta, r = .ok info ∧ info.regular = true ∧ info.mode % 64 = 0
  | .auditLock _, r, _ => r = .ok ()
  | .auditRead, r, _ => r = .ok raw
  | .auditClose, r, _ => r = .ok ()
  | _, _, _ => True

/-- What `_read_bounded` and `_verify_bytes` make of its content. -/
def readContent (raw : Bytes) : PyResult AuditSummary :=
  if maxAuditBytes < raw.length then .error (auditError "audit log exceeds the 16 MiB safety limit")
  else verifyBytes raw

/-- What verifying its content comes to. -/
def verifyContent (expectedHead : Option PyStr) (raw : Bytes) : PyResult AuditSummary := do
  let summary ← readContent raw
  checkHead expectedHead summary

/-- What `except AuditError` catches. -/
def Caught (e : PyErr) : Prop := e.isa .auditError = true

omit [Platform] in
theorem handles_caught : Handles Caught where
  audit _ := rfl
  not_type _ := Bool.false_ne_true
  not_deep := Bool.false_ne_true

/-- Verifying raises no `OSError`, which the descriptor's own handler would take for one of
the file. -/
theorem not_osError_verifyBytes {raw : Bytes} {e : PyErr} (h : verifyBytes raw = .error e) :
    e.isa .osError = false := by
  have handles : Handles fun e => Caught e ∨ e.isa .osError = true :=
    { audit := fun _ => Or.inl rfl
      not_type := fun _ => by simp [Caught, PyErr.of, PyErr.isa, ErrClass.isa]
      not_deep := by simp [Caught, Json.nestedTooDeep, PyErr.of, PyErr.isa, ErrClass.isa] }
  by_cases hcaught : Caught e
  · unfold Caught PyErr.isa at hcaught
    unfold PyErr.isa
    revert hcaught
    cases e.cls <;> simp [ErrClass.isa]
  · obtain ⟨e', he', hnot⟩ := (escapes_verifyBytes handles).mpr
      ((escapes_verifyBytes handles_caught).mp ⟨e, h, hcaught⟩)
    rw [h] at he'
    cases he'
    rw [not_or, Bool.not_eq_true] at hnot
    exact hnot.2

section File

variable {raw : Bytes} {s : AgentState}

omit [Platform] in
/-- An operation with one answer. -/
theorem wp_known {o : Op} (a : o.Val) {Q : o.Val → AgentState → Unit → Prop}
    {E : PyErr → AgentState → Unit → Prop} (ho : ∀ r w', PrivateFile raw () o r w' → r = .ok a)
    (hQ : Q a s ()) : Proc.Wp (PrivateFile raw) (fun _ => True) (perform o) Q E s () := by
  rw [Proc.wp_call]
  refine ⟨trivial, fun r w' h => ⟨trivial, ?_⟩⟩
  rw [ho r w' h]
  exact hQ

/-- **Verifying a private regular file** comes to what its content comes to. -/
theorem wp_verifyExpecting (expectedHead : Option PyStr) :
    Proc.Wp (PrivateFile raw) (fun _ => True) (verifyExpecting expectedHead)
      (fun summary _ _ => verifyContent expectedHead raw = .ok summary)
      (fun e _ _ => verifyContent expectedHead raw = .error e) s () := by
  -- what is left once the file is closed
  have hclose : ∀ result : Except PyErr AuditSummary, result = readContent raw →
      Proc.Wp (PrivateFile raw) (fun _ => True) (do perform .auditClose; Proc.ofExcept result)
        (fun summary s' w' => Proc.Wp (PrivateFile raw) (fun _ => True)
          (Proc.ofExcept (checkHead expectedHead summary))
          (fun summary _ _ => verifyContent expectedHead raw = .ok summary)
          (fun e _ _ => verifyContent expectedHead raw = .error e) s' w')
        (fun e _ _ => verifyContent expectedHead raw = .error e) s () := by
    intro result hresult
    rw [Proc.wp_bind]
    refine wp_known () (by intro r w' h; exact h) ?_
    rw [Proc.wp_ofExcept]
    refine ⟨trivial, ?_⟩
    have hcontent : verifyContent expectedHead raw = result >>= checkHead expectedHead := by
      rw [hresult]
      rfl
    cases result with
    | error e => exact hcontent
    | ok summary =>
        dsimp only
        rw [Proc.wp_ofExcept]
        refine ⟨trivial, ?_⟩
        have hhead : verifyContent expectedHead raw = checkHead expectedHead summary := hcontent
        rw [hhead]
        cases checkHead expectedHead summary with
        | ok _ => rfl
        | error _ => rfl
  unfold verifyExpecting
  rw [Proc.wp_bind]
  unfold verify
  rw [Proc.wp_bind]
  refine wp_known true (by intro r w' h; exact h) ?_
  rw [if_neg (by simp)]
  unfold lockedDescriptor
  rw [Proc.wp_bind]
  unfold exceptOSError
  rw [Proc.wp_tryCatch, Proc.wp_call]
  refine ⟨trivial, fun r w' h => ⟨trivial, ?_⟩⟩
  obtain ⟨info, rfl, hregular, hmode⟩ := h
  have haccess : checkAccess info = .ok () := by
    rw [checkAccess, if_neg (by simp [hregular]), if_neg (by simp [hmode])]
  dsimp only
  rw [Proc.wp_bind, Proc.wp_tryCatch, Proc.wp_bind, Proc.wp_tryCatch, Proc.wp_bind, haccess,
    Proc.wp_ofExcept]
  refine ⟨trivial, ?_⟩
  rw [Proc.wp_bind]
  refine wp_known () (by intro r w' h; exact h) ?_
  rw [Proc.wp_bind]
  unfold readBounded
  rw [Proc.wp_bind]
  unfold exceptOSError
  rw [Proc.wp_tryCatch]
  refine wp_known raw (by intro r w' h; exact h) ?_
  by_cases hlarge : maxAuditBytes < raw.length
  · rw [if_pos hlarge, Proc.wp_throw]
    refine ⟨trivial, ?_⟩
    rw [if_neg (by decide), Proc.wp_throw]
    refine ⟨trivial, trivial, hclose _ ?_⟩
    rw [readContent, if_pos hlarge]
  · rw [if_neg hlarge, Proc.wp_pure, Proc.wp_ofExcept]
    refine ⟨trivial, trivial, ?_⟩
    cases hverify : verifyBytes raw with
    | ok summary =>
        refine ⟨trivial, hclose _ ?_⟩
        rw [readContent, if_neg hlarge, hverify]
    | error e =>
        dsimp only
        rw [if_neg (by rw [not_osError_verifyBytes hverify]; exact Bool.false_ne_true), Proc.wp_throw]
        refine ⟨trivial, trivial, hclose _ ?_⟩
        rw [readContent, if_neg hlarge, hverify]

omit [Platform] in
/-- A private regular file answers every operation. -/
theorem privateFile_answers (w : Unit) (o : Op) : ∃ r w', PrivateFile raw w o r w' := by
  cases o with
  | auditExists => exact ⟨.ok true, (), rfl⟩
  | auditOpen write =>
      exact ⟨.ok { regular := true, mode := 0, owned := true }, (), _, rfl, rfl, rfl⟩
  | auditLock write => exact ⟨.ok (), (), rfl⟩
  | auditRead => exact ⟨.ok raw, (), rfl⟩
  | auditClose => exact ⟨.ok (), (), rfl⟩
  | _ => exact ⟨.error (.of .osError ""), (), trivial⟩

/-- An exception that escapes comes from the content, whatever head is expected. -/
theorem escapes_verifyContent (expectedHead : Option PyStr) :
    Escapes Caught (verifyContent expectedHead raw) ↔
      raw.length ≤ maxAuditBytes ∧ CrashingLog raw := by
  have hhead : ∀ summary, Raises Caught (checkHead expectedHead summary) := by
    intro summary
    unfold checkHead
    split
    · exact raises_ok _
    · refine raises_bind (raises_checkSha256 handles_caught) fun _ _ => ?_
      exact raises_ite ((raises_error _).mpr (handles_caught.audit _)) (raises_ok _)
  unfold verifyContent readContent
  rw [escapes_bind, escapes_check (handles_caught.audit _), escapes_verifyBytes handles_caught,
    not_lt]
  refine or_iff_left ?_
  rintro ⟨summary, -, h⟩
  exact (hhead summary).not_escapes h

/-- A private regular file is verified, or an `AuditError` is raised, when no exception
escapes from its content. -/
theorem verifyExpecting_total_iff (expectedHead : Option PyStr) (raw : Bytes) (s : AgentState) :
    (∀ r s' w', EffTree.Returns (PrivateFile raw) (verifyExpecting expectedHead s) () (r, s') w' →
        Raises Caught r) ↔ ¬(raw.length ≤ maxAuditBytes ∧ CrashingLog raw) := by
  have hwp : Proc.Wp (PrivateFile raw) (fun _ => True) (verifyExpecting expectedHead)
      (fun summary _ _ => verifyContent expectedHead raw = .ok summary)
      (fun e _ _ => verifyContent expectedHead raw = .error e) s () := wp_verifyExpecting expectedHead
  have hresult : ∀ {r s' w'},
      EffTree.Returns (PrivateFile raw) (verifyExpecting expectedHead s) () (r, s') w' →
        r = verifyContent expectedHead raw := by
    intro r s' w' hreturns
    cases r with
    | ok summary => exact (hwp.post hreturns).symm
    | error e => exact (hwp.post_error hreturns).symm
  rw [← escapes_verifyContent expectedHead, ← raises_iff_not_escapes]
  constructor
  · intro h
    obtain ⟨⟨r, s'⟩, w', hreturns⟩ :=
      EffTree.exists_returns privateFile_answers (verifyExpecting expectedHead s) ()
    rw [← hresult hreturns]
    exact h r s' w' hreturns
  · intro h r s' w' hreturns
    rw [hresult hreturns]
    exact h

/-- `verify_audit_path` returns, unless an exception escapes from the content. -/
theorem wp_verifyAuditPath (expectedHead : Option PyStr) :
    Proc.Wp (PrivateFile raw) (fun _ => True) (verifyAuditPath expectedHead)
      (fun _ _ _ => Raises Caught (verifyContent expectedHead raw))
      (fun _ _ _ => Escapes Caught (verifyContent expectedHead raw)) s () := by
  unfold verifyAuditPath
  rw [Proc.wp_tryCatch, Proc.wp_bind]
  refine (wp_verifyExpecting expectedHead).mono ?_ ?_
  · intro summary s' w' _ hsummary
    rw [Proc.wp_pure, hsummary]
    exact ⟨trivial, raises_ok _⟩
  · intro e s' w' _ he
    rw [he]
    by_cases hcaught : e.isa .auditError = true
    · rw [if_pos hcaught, Proc.wp_pure]
      exact ⟨trivial, (raises_error e).mpr hcaught⟩
    · rw [if_neg hcaught, Proc.wp_throw]
      exact ⟨trivial, (escapes_error e).mpr hcaught⟩

theorem verifyAuditPath_total_iff (expectedHead : Option PyStr) (raw : Bytes) (s : AgentState) :
    (∀ r s' w', EffTree.Returns (PrivateFile raw) (verifyAuditPath expectedHead s) () (r, s') w' →
        ∃ result, r = .ok result) ↔ ¬(raw.length ≤ maxAuditBytes ∧ CrashingLog raw) := by
  have hwp : Proc.Wp (PrivateFile raw) (fun _ => True) (verifyAuditPath expectedHead)
      (fun _ _ _ => Raises Caught (verifyContent expectedHead raw))
      (fun _ _ _ => Escapes Caught (verifyContent expectedHead raw)) s () :=
    wp_verifyAuditPath expectedHead
  rw [← escapes_verifyContent expectedHead]
  constructor
  · intro h
    obtain ⟨⟨r, s'⟩, w', hreturns⟩ :=
      EffTree.exists_returns privateFile_answers (verifyAuditPath expectedHead s) ()
    obtain ⟨result, rfl⟩ := h r s' w' hreturns
    exact (hwp.post hreturns).not_escapes
  · intro h r s' w' hreturns
    cases r with
    | ok result => exact ⟨result, rfl⟩
    | error e => exact absurd (hwp.post_error hreturns) h

end File

end Audit

/-! ## When the verifiers return -/

theorem verifyReceiptContent_returns_iff {text : PyStr} {octets : Bytes}
    (hoctets : encodeUtf8 text = some octets) (hsmall : octets.length ≤ maxReceiptInputBytes) :
    (∃ result, verifyReceiptContent text = .ok result) ↔ ¬Receipt.CrashingText text := by
  rw [← Receipt.escapes_verifySigned]
  simp only [verifyReceiptContent, hoctets]
  rw [if_neg (not_lt.mpr hsmall)]
  cases hverify : Receipt.verifySignedReceipt (.text text) with
  | error e =>
      rw [escapes_error, not_not]
      dsimp only
      by_cases hrecorded : e.isa .gitHubReceiptError = true
      · rw [if_pos hrecorded]
        exact iff_of_true ⟨_, rfl⟩ hrecorded
      · rw [if_neg hrecorded]
        exact iff_of_false (by rintro ⟨_, ⟨⟩⟩) hrecorded
  | ok payload =>
      -- the text was decoded once, so it is decoded again
      obtain ⟨wrapper, hdecoded, -⟩ := PyResult.bind_ok hverify
      rw [Receipt.decodeReceipt_eq_ok] at hdecoded
      rw [hdecoded]
      exact iff_of_true ⟨_, rfl⟩ (escapes_ok payload)

/-- **When the offline verifiers are total.**  On a text of the bounded size, both receipt
verifiers answer as they should exactly when the text does not make the checks raise; and on a
private regular file, both audit verifiers do exactly when the log, if it is read at all, does
not. -/
theorem verifiers_total_iff (expectedHead : Option PyStr) :
    (∀ text octets, encodeUtf8 text = some octets → octets.length ≤ maxReceiptInputBytes →
      (((∃ result, verifyReceiptContent text = .ok result) ∧
        Raises Receipt.Recorded (Receipt.verifySignedReceipt (.text text))) ↔
          ¬Receipt.CrashingText text)) ∧
    (∀ raw s,
      ((∀ r s' w', EffTree.Returns (Audit.PrivateFile raw) (Audit.verifyExpecting expectedHead s) ()
          (r, s') w' → Raises Audit.Caught r) ∧
        (∀ r s' w', EffTree.Returns (Audit.PrivateFile raw) (Audit.verifyAuditPath expectedHead s) ()
          (r, s') w' → ∃ result, r = .ok result)) ↔
        ¬(raw.length ≤ Audit.maxAuditBytes ∧ Audit.CrashingLog raw)) := by
  constructor
  · intro text octets hoctets hsmall
    rw [verifyReceiptContent_returns_iff hoctets hsmall, raises_iff_not_escapes,
      Receipt.escapes_verifySigned]
    exact and_self_iff
  · intro raw s
    rw [Audit.verifyExpecting_total_iff, Audit.verifyAuditPath_total_iff]
    exact and_self_iff

end Tools

/-! ## A receipt whose state is a list -/

section Samples

open Json PyItems Receipt Sample

/-- A payload that would be accepted, with a list for its state. -/
def listStatePayload : JsonFields :=
  (receiptPayload emptyQueryEvidence did sampleStamp).map fun field =>
    if field.1 = py "state" then (field.1, .arr []) else field

/-- Its receipt, which nobody has signed. -/
def listStateReceipt : JsonFields :=
  [(py "payload", .obj listStatePayload), (py "payload_sha256", .null), (py "signature", .null)]

/-- The receipt as a text. -/
def listStateText : PyStr := render (.obj listStateReceipt)

theorem crashingReceipt_listState : CrashingReceipt listStatePayload := by
  have hheader : validateReceiptHeader listStatePayload = .ok () := by decide +kernel
  refine Or.inr (Or.inl ⟨py "example/project", 42, ?_, rfl⟩)
  exact ⟨⟨rfl, hheader, rfl, rfl, by decide⟩, ⟨sampleReference, parse_emptyQueryUrl, rfl, rfl⟩, rfl⟩

theorem crashingText_listState : CrashingText listStateText := by
  have hplain : Plain (.obj listStateReceipt) := by decide +kernel
  have hloads : loadsStr Protocol.jsonReader listStateText = .ok (.obj listStateReceipt) :=
    loadsStr_render (hookKeeps_dict rfl) hplain (by decide +kernel)
  exact Or.inr ⟨listStateReceipt, listStatePayload, hloads, rfl, rfl, crashingReceipt_listState⟩

theorem encodeUtf8_listState :
    encodeUtf8 listStateText = some (toAscii listStateText) ∧
      (toAscii listStateText).length ≤ maxReceiptInputBytes := by
  have hplain : Plain (.obj listStateReceipt) := by decide +kernel
  refine ⟨encodeUtf8_ascii (isAscii_render hplain), ?_⟩
  decide +kernel

/-- The same receipt, with a text that is no state. -/
def goneStateText : PyStr :=
  let payload := (receiptPayload emptyQueryEvidence did sampleStamp).map fun field =>
    if field.1 = py "state" then (field.1, .str (py "gone")) else field
  render (.obj [(py "payload", .obj payload), (py "payload_sha256", .null), (py "signature", .null)])

theorem crashingText_goneState : ¬CrashingText goneStateText := by
  have hrecorded : (match verifySignedReceipt (.text goneStateText) with
      | .error e => e.isa .gitHubReceiptError
      | .ok _ => true) = true := by decide +kernel
  rw [← escapes_verifySigned]
  generalize verifySignedReceipt (.text goneStateText) = result at hrecorded ⊢
  cases result with
  | error e =>
      rw [escapes_error, not_not]
      exact hrecorded
  | ok payload => exact escapes_ok payload

/-- A malformed receipt, and a log with a record: every verifier answers as it should. -/
theorem verifiers_total_sample :
    ((∃ result, verifyReceiptContent goneStateText = .ok result) ∧
        Raises Recorded (verifySignedReceipt (.text goneStateText))) ∧
    (∀ r s' w', EffTree.Returns (Audit.PrivateFile (Audit.sampleAppend.1 ++ [10]))
        (Audit.verifyExpecting none {}) () (r, s') w' → Raises Audit.Caught r) ∧
    (∀ r s' w', EffTree.Returns (Audit.PrivateFile (Audit.sampleAppend.1 ++ [10]))
        (Audit.verifyAuditPath none {}) () (r, s') w' → ∃ result, r = .ok result) := by
  have htext : encodeUtf8 goneStateText = some (toAscii goneStateText) ∧
      (toAscii goneStateText).length ≤ maxReceiptInputBytes := by decide +kernel
  refine ⟨((verifiers_total_iff none).1 _ _ htext.1 htext.2).mpr crashingText_goneState, ?_⟩
  refine ((verifiers_total_iff none).2 _ {}).mpr fun hcrash => ?_
  rw [← Audit.escapes_verifyBytes Audit.handles_caught, Audit.verifyBytes_sample] at hcrash
  exact escapes_ok _ hcrash.2

/-- **A receipt whose state is a list** is a text of the bounded size on which
`verify_receipt_content` returns nothing. -/
theorem verify_listState :
    ¬∀ text octets, encodeUtf8 text = some octets → octets.length ≤ maxReceiptInputBytes →
      ∃ result, verifyReceiptContent text = .ok result := by
  intro h
  obtain ⟨hencoded, hsmall⟩ := encodeUtf8_listState
  have hreturns := h listStateText _ hencoded hsmall
  exact (verifyReceiptContent_returns_iff hencoded hsmall).mp hreturns crashingText_listState

end Samples
