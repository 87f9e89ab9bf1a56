/-
# What a countersignature attests

A rerun is compared with a receipt by Python's equality, and the receipt is hashed as text.
`False == 0 == 0.0`, but the three are three texts: a receipt whose `passed` comes with
`False` or `0.0` is accepted, and its countersignature covers a text that the rerun does not
produce.

* `Loose`             : the exit codes for which the two comparisons differ;
* `validateResult_ok` : which exit codes a receipt may hold;
* `attested_iff`      : **result and claim are as documented exactly when the exit code is not
  loose**.
-/
import SafeAgent.WorkChains

open PyText

namespace WorkReceipt

open Json PyItems Receipt

/-- A boolean or a `float`, which may be equal to an integer. -/
def Loose : Json → Prop
  | .bool _ => True
  | .float _ => True
  | _ => False

/-- The documented pairs: `passed` and the integer 0, `failed` and another integer,
`timed_out` and `null`. -/
def Typed (result exitCode : Json) : Prop :=
  (result = .str (py "passed") → exitCode = .int 0) ∧
    (result = .str (py "failed") → ∃ n : ℤ, exitCode = .int n ∧ n ≠ 0) ∧
    (result = .str (py "timed_out") → exitCode = .null)

theorem eq_zero_of_equalsZero {exitCode : Json} (h : equalsZero exitCode = true) :
    exitCode = .int 0 ∨ Loose exitCode := by
  cases exitCode with
  | int n =>
      left
      rw [equalsZero, beq_iff_eq] at h
      rw [h]
  | bool b => exact Or.inr trivial
  | float r => exact Or.inr trivial
  | _ => cases h

/-- The exit codes of an accepted receipt. -/
theorem validateResult_ok {result exitCode : Json} (h : validateResult result exitCode = .ok ()) :
    (result = .str (py "passed") ∧ equalsZero exitCode = true) ∨
      (result = .str (py "failed") ∧ ∃ n : ℤ, exitCode = .int n ∧ n ≠ 0 ∧ n.natAbs ≤ 255) ∨
      (result = .str (py "timed_out") ∧ exitCode = .null) := by
  unfold validateResult at h
  by_cases hpassed : result.isStr (py "passed") = true
  · rw [if_pos hpassed] at h
    split_ifs at h with hzero
    exact Or.inl ⟨isStr_iff.mp hpassed, hzero⟩
  rw [if_neg hpassed] at h
  by_cases hfailed : result.isStr (py "failed") = true
  · rw [if_pos hfailed] at h
    cases hfilter : exitCode.asInt.filter fun n => n != 0 with
    | none =>
        rw [hfilter] at h
        cases h
    | some n =>
        obtain ⟨hint, hne⟩ := Option.filter_eq_some_iff.mp hfilter
        rw [hfilter] at h
        simp only at h
        split_ifs at h with hbounds
        cases exitCode with
        | int z =>
            cases hint
            exact Or.inr (Or.inl ⟨isStr_iff.mp hfailed, n, rfl, by simpa using hne, by omega⟩)
        | _ => cases hint
  rw [if_neg hfailed] at h
  by_cases htimed : result.isStr (py "timed_out") = true
  · rw [if_pos htimed] at h
    split_ifs at h with hnone
    cases exitCode with
    | null => exact Or.inr (Or.inr ⟨isStr_iff.mp htimed, rfl⟩)
    | _ => cases hnone
  · rw [if_neg htimed] at h
    cases h

/-- **The documented pairs** are those whose exit code is not loose. -/
theorem typed_iff {result exitCode : Json} (h : validateResult result exitCode = .ok ()) :
    Typed result exitCode ↔ ¬Loose exitCode := by
  obtain ⟨rfl, hzero⟩ | ⟨rfl, n, rfl, hne, -⟩ | ⟨rfl, rfl⟩ := validateResult_ok h
  · constructor
    · rintro ⟨hpassed, -, -⟩ hloose
      rw [hpassed rfl] at hloose
      exact hloose
    · intro hloose
      have hint := (eq_zero_of_equalsZero hzero).resolve_right hloose
      refine ⟨fun _ => hint, fun hname => ?_, fun hname => ?_⟩
      · exact absurd (Json.str.inj hname) (by decide)
      · exact absurd (Json.str.inj hname) (by decide)
  · refine ⟨fun _ hloose => hloose, fun _ => ⟨fun hname => ?_, fun _ => ⟨n, rfl, hne⟩, fun hname => ?_⟩⟩
    · exact absurd (Json.str.inj hname) (by decide)
    · exact absurd (Json.str.inj hname) (by decide)
  · refine ⟨fun _ hloose => hloose, fun _ => ⟨fun hname => ?_, fun hname => ?_, fun _ => rfl⟩⟩
    · exact absurd (Json.str.inj hname) (by decide)
    · exact absurd (Json.str.inj hname) (by decide)

/-! ## The text of a claim -/

/-- The claim of a payload with another exit code. -/
def claimWith (payload : JsonFields) (exitCode : Json) : JsonFields :=
  [(py "repository", get payload (py "repository")), (py "commit", get payload (py "commit")),
    (py "command", get payload (py "command")), (py "timeout_ms", get payload (py "timeout_ms")),
    (py "result", get payload (py "result")), (py "exit_code", exitCode),
    (py "stdout_sha256", get payload (py "stdout_sha256")),
    (py "stdout_bytes", get payload (py "stdout_bytes")),
    (py "stderr_sha256", get payload (py "stderr_sha256")),
    (py "stderr_bytes", get payload (py "stderr_bytes"))]

theorem executionClaim_eq (payload : JsonFields) :
    executionClaim payload = claimWith payload (get payload (py "exit_code")) := rfl

/-- The text of a claim around the text of its exit code. -/
theorem canonical_claimWith (payload : JsonFields) :
    ∃ before after, ∀ exitCode,
      canonical (.obj (claimWith payload exitCode)) = before ++ (canonical exitCode ++ after) := by
  refine ⟨123 :: (renderStr (py "command") ++ 58 :: (canonical (get payload (py "command")) ++
    44 :: (renderStr (py "commit") ++ 58 :: (canonical (get payload (py "commit")) ++
    44 :: (renderStr (py "exit_code") ++ [58]))))), renderFields
    [(py "repository", sortKeys (get payload (py "repository"))),
      (py "result", sortKeys (get payload (py "result"))),
      (py "stderr_bytes", sortKeys (get payload (py "stderr_bytes"))),
      (py "stderr_sha256", sortKeys (get payload (py "stderr_sha256"))),
      (py "stdout_bytes", sortKeys (get payload (py "stdout_bytes"))),
      (py "stdout_sha256", sortKeys (get payload (py "stdout_sha256"))),
      (py "timeout_ms", sortKeys (get payload (py "timeout_ms")))], ?_⟩
  intro exitCode
  have hsorted : sortKeys (.obj (claimWith payload exitCode)) =
      .obj [(py "command", sortKeys (get payload (py "command"))),
        (py "commit", sortKeys (get payload (py "commit"))), (py "exit_code", sortKeys exitCode),
        (py "repository", sortKeys (get payload (py "repository"))),
        (py "result", sortKeys (get payload (py "result"))),
        (py "stderr_bytes", sortKeys (get payload (py "stderr_bytes"))),
        (py "stderr_sha256", sortKeys (get payload (py "stderr_sha256"))),
        (py "stdout_bytes", sortKeys (get payload (py "stdout_bytes"))),
        (py "stdout_sha256", sortKeys (get payload (py "stdout_sha256"))),
        (py "timeout_ms", sortKeys (get payload (py "timeout_ms")))] := rfl
  rw [canonical, hsorted]
  simp [render, renderFields, canonical, List.append_assoc]

/-- Claims with exit codes of two lengths have two texts. -/
theorem canonicalJson_claimWith_ne {payload : JsonFields} {exitCode exitCode' : Json}
    {octets : Bytes} (h : canonicalJson (claimWith payload exitCode) = .ok octets)
    (hlength : (canonical exitCode').length ≠ (canonical exitCode).length) :
    canonicalJson (claimWith payload exitCode') ≠ canonicalJson (claimWith payload exitCode) := by
  intro heq
  obtain ⟨before, after, htext⟩ := canonical_claimWith payload
  have hsize : ∀ {code : Json}, canonicalJson (claimWith payload code) = .ok octets →
      octets.length = before.length + ((canonical code).length + after.length) := by
    intro code hcode
    rw [(canonicalJson_ok hcode).2, toAscii, List.length_map, htext, List.length_append,
      List.length_append]
  have hleft := hsize (heq.trans h)
  have hright := hsize h
  omega

/-! ## The rerun and the claim -/

/-- A rerun that is equal to the claim differs from it at most in the exit code. -/
theorem observedClaim_eq {execution : Execution} {payload : JsonFields}
    (h : sameExecution execution payload = true) :
    observedClaim execution payload = claimWith payload (exitCodeJson execution.exitCode) ∧
      sameExitCode execution.exitCode (get payload (py "exit_code")) = true := by
  simp only [sameExecution, Bool.and_eq_true, isStr_iff, beq_iff_eq] at h
  obtain ⟨⟨⟨⟨⟨hresult, hcode⟩, hstdout⟩, hstdoutBytes⟩, hstderr⟩, hstderrBytes⟩ := h
  have hint : ∀ {v : Json} {n : ℕ}, v.asInt = some (n : ℤ) → v = .int n := by
    intro v n hv
    cases v with
    | int z =>
        cases hv
        rfl
    | _ => cases hv
  refine ⟨?_, hcode⟩
  rw [observedClaim, claimWith, hresult, hstdout, hint hstdoutBytes, hstderr, hint hstderrBytes]

/-- **The texts of rerun and claim** are the same exactly when the exit code is not loose. -/
theorem sameText_iff {execution : Execution} {payload : JsonFields} {octets : Bytes}
    (hresult : validateResult (get payload (py "result")) (get payload (py "exit_code")) = .ok ())
    (hoctets : canonicalJson (executionClaim payload) = .ok octets)
    (hsame : sameExecution execution payload = true) :
    canonicalJson (observedClaim execution payload) = canonicalJson (executionClaim payload) ↔
      ¬Loose (get payload (py "exit_code")) := by
  obtain ⟨hobserved, hcode⟩ := observedClaim_eq hsame
  rw [hobserved, executionClaim_eq]
  rw [executionClaim_eq] at hoctets
  -- a loose exit code comes with `passed`, so the rerun exited with 0
  have hloose : ∀ {exitCode : Json}, get payload (py "exit_code") = exitCode → Loose exitCode →
      equalsZero exitCode = true := by
    rintro exitCode rfl hl
    obtain ⟨-, hzero⟩ | ⟨-, n, hn, -⟩ | ⟨-, hnull⟩ := validateResult_ok hresult
    · exact hzero
    · rw [hn] at hl
      exact hl.elim
    · rw [hnull] at hl
      exact hl.elim
  cases hexit : get payload (py "exit_code") with
  | null =>
      rw [hexit, sameExitCode, beq_iff_eq] at hcode
      rw [hcode]
      exact ⟨fun _ hl => hl, fun _ => rfl⟩
  | int n =>
      rw [hexit, sameExitCode, beq_iff_eq] at hcode
      rw [hcode]
      exact ⟨fun _ hl => hl, fun _ => rfl⟩
  | bool b =>
      have hzero := hloose hexit trivial
      rw [equalsZero, Bool.not_eq_true'] at hzero
      subst hzero
      rw [hexit] at hcode hoctets
      have hzero : execution.exitCode = some 0 := by simpa [sameExitCode] using hcode
      rw [hzero]
      exact ⟨fun heq => absurd heq (canonicalJson_claimWith_ne hoctets (by decide)),
        fun hnot => absurd trivial hnot⟩
  | float r =>
      have hzero := hloose hexit trivial
      rw [hexit] at hcode hoctets
      rw [sameExitCode, Bool.and_eq_true, beq_iff_eq] at hcode
      rw [hcode.1]
      have hlength : (canonical (exitCodeJson (some 0))).length ≠
          (canonical (.float r)).length := by
        rw [equalsZero, Bool.or_eq_true, beq_iff_eq, beq_iff_eq] at hzero
        rcases hzero with rfl | rfl <;> decide
      exact ⟨fun heq => absurd heq (canonicalJson_claimWith_ne hoctets hlength),
        fun hnot => absurd trivial hnot⟩
  | str s =>
      rw [hexit] at hcode
      cases hcode
  | arr items =>
      rw [hexit] at hcode
      cases hcode
  | obj fields =>
      rw [hexit] at hcode
      cases hcode

section Platform

variable [Platform]

/-- What an accepted receipt says of its result, and its claim as a text. -/
theorem claim_of_verified {receipt : ReceiptInput} {summary : WorkReceiptSummary}
    {envelope : JsonFields} (h : verifyAndDecode receipt = .ok (summary, envelope)) :
    validateResult (get summary.payload (py "result")) (get summary.payload (py "exit_code"))
        = .ok () ∧
      ∃ octets, canonicalJson (executionClaim summary.payload) = .ok octets := by
  obtain ⟨-, -, issuer, verifiers, haccepted, -⟩ := verifyAndDecode_ok h
  refine ⟨(validateWorkPayload_ok haccepted.valid).result, ?_⟩
  obtain ⟨_, executionHash, _, _, _, -, hhash, -⟩ := haccepted.counters
  unfold executionSha256 at hhash
  cases hclaim : canonicalJson (executionClaim summary.payload) with
  | error e =>
      rw [hclaim] at hhash
      cases hhash
  | ok octets => exact ⟨octets, rfl⟩

/-- What a successful call has compared, and what it has signed. -/
theorem countersigned_text {W : Type} {H : W → (o : WorkOp) → Except PyErr o.Val → W → Prop}
    {s s' : Bool} {w w' : W} {input : ReceiptInput} {repository did : PyStr}
    {key : Platform.PrivateKey} {timeout : Option (Option ℚ)} {updated : JsonFields}
    (h : EffTree.Returns H (countersignWorkReceipt input repository did key timeout s)
      w (.ok updated, s') w') :
    ∃ summary decoded execution s₁ w₁ hash, EffTree.Returns H
        (rerun input repository did key timeout s) w (.ok (summary, decoded, execution), s₁) w₁ ∧
      verifyAndDecode input = .ok (summary, decoded) ∧
      executionSha256 summary.payload = .ok hash ∧
      (∃ items wrapper payload,
        get updated (py "countersignatures") = .arr (items ++ [.obj wrapper]) ∧
        signedWrapper payload key = .ok wrapper ∧
        get payload (py "execution_sha256") = .str hash) ∧
      (canonicalJson (observedClaim execution summary.payload) =
          canonicalJson (executionClaim summary.payload) ↔
        ¬Loose (get summary.payload (py "exit_code"))) := by
  obtain ⟨⟨summary, decoded, execution⟩, s₁, w₁, hrerun, hrest⟩ := Proc.returns_bind h
  have hverify := Proc.Ends.of_returns (ends_rerun _ _ _ _ _) hrerun
  obtain ⟨hresult, octets, hoctets⟩ := claim_of_verified hverify
  have hends : Proc.Ends (do
      let observedAt : ObservedAt ← perform .clock
      Proc.ofExcept (appendCountersignature summary decoded did key observedAt)) fun updated =>
        ∃ observedAt, appendCountersignature summary decoded did key observedAt = .ok updated :=
    Proc.ends_bind (Proc.ends_trivial _) fun observedAt _ =>
      Proc.ends_ofExcept fun updated hupdated => ⟨observedAt, hupdated⟩
  by_cases hsame : sameExecution execution summary.payload = true
  · rw [if_neg (not_not.mpr hsame)] at hrest
    obtain ⟨observedAt, hupdated⟩ := hends.of_returns hrest
    obtain ⟨hash, timestamp, wrapper, -, hhash, hwrapper, rfl, -⟩ := appendCountersignature_ok hupdated
    exact ⟨summary, decoded, execution, s₁, w₁, hash, hrerun, hverify, hhash,
      ⟨_, wrapper, _, rfl, hwrapper, rfl⟩, sameText_iff hresult hoctets hsame⟩
  · rw [if_pos hsame] at hrest
    cases hrest.1

/-- The payload that was signed is the one that is verified. -/
theorem verified_of_newEnvelope {payload envelope : JsonFields} {key : Platform.PrivateKey}
    (h : newEnvelope payload key = .ok envelope) :
    ∃ summary, verifyAndDecode (.value (.obj envelope)) = .ok (summary, envelope) ∧
      summary.payload = payload := by
  obtain ⟨wrapper, summary, hwrapper, hliteral, hverify⟩ := newEnvelope_ok h
  obtain ⟨-, -, issuer, verifiers, haccepted, -⟩ := verifyAndDecode_ok hverify
  obtain ⟨_, _, _, _, _, hsigned, -⟩ := haccepted.counters
  obtain ⟨canonical, signature, -, -, rfl⟩ := signedWrapper_ok hwrapper
  have hfields := hsigned.payload_eq
  rw [hliteral] at hfields
  exact ⟨summary, hverify, (Json.obj.inj hfields).symm⟩

/-- **A countersignature attests what was observed, unless the exit code is loose.** -/
theorem attested_iff :
    (∀ {receipt : ReceiptInput} {summary : WorkReceiptSummary} {envelope : JsonFields},
      verifyAndDecode receipt = .ok (summary, envelope) →
      (Typed (get summary.payload (py "result")) (get summary.payload (py "exit_code")) ↔
        ¬Loose (get summary.payload (py "exit_code")))) ∧
    (∀ {W : Type} {H : W → (o : WorkOp) → Except PyErr o.Val → W → Prop} {s s' : Bool} {w w' : W}
      {input : ReceiptInput} {repository did : PyStr} {key : Platform.PrivateKey}
      {timeout : Option (Option ℚ)} {updated : JsonFields},
      EffTree.Returns H (countersignWorkReceipt input repository did key timeout s)
        w (.ok updated, s') w' →
      ∃ summary decoded execution s₁ w₁ hash, EffTree.Returns H
          (rerun input repository did key timeout s) w (.ok (summary, decoded, execution), s₁) w₁ ∧
        verifyAndDecode input = .ok (summary, decoded) ∧
        executionSha256 summary.payload = .ok hash ∧
        (∃ items wrapper payload,
          get updated (py "countersignatures") = .arr (items ++ [.obj wrapper]) ∧
          signedWrapper payload key = .ok wrapper ∧
          get payload (py "execution_sha256") = .str hash) ∧
        (canonicalJson (observedClaim execution summary.payload) =
            canonicalJson (executionClaim summary.payload) ↔
          ¬Loose (get summary.payload (py "exit_code")))) :=
  ⟨fun h => typed_iff (claim_of_verified h).1, countersigned_text⟩

end Platform

end WorkReceipt

/-! ## A loose receipt -/

namespace Sample

open WorkReceipt

/-- One run of `true` in the sample checkout. -/
def quietRun : Execution where
  result := py "passed"
  exitCode := some 0
  stdoutSha256 := py "d117fa006ba9208500b2930ce69cbde436c647afa917cb7396a9bc9111a46dd2"
  stdoutBytes := 5
  stderrSha256 := py "d117fa006ba9208500b2930ce69cbde436c647afa917cb7396a9bc9111a46dd2"
  stderrBytes := 5
  startedAt := py "2026-03-01T12:30:05Z"
  completedAt := py "2026-03-01T12:30:05Z"
  durationMs := 12

/-- The checkout that `gitAnswer` describes. -/
def workCheckout : Checkout where
  root := py "/work"
  repository := py "owner/repo"
  commit := List.replicate 40 97

/-- A payload whose `passed` comes with `False`. -/
def loosePayload : JsonFields :=
  PyItems.setItem (py "exit_code") (.bool false)
    (workPayload did workCheckout [py "true"] 300000 quietRun)

/-- A payload is signed, and then countersigned by another identity. -/
def countersignNew (payload : JsonFields) : WorkProc JsonFields := do
  let envelope ← Proc.ofExcept (newEnvelope payload key)
  countersignWorkReceipt (.value (.obj envelope)) (py "/work") verifierDid verifierKey none

theorem countersigned_of_isOk {payload : JsonFields}
    (h : (EffTree.run workAnswer (countersignNew payload false) ()).1.1.isOk = true) :
    ∃ envelope summary updated s w,
      verifyAndDecode (.value (.obj envelope)) = .ok (summary, envelope) ∧
      summary.payload = payload ∧
      EffTree.Returns workStep (countersignWorkReceipt (.value (.obj envelope)) (py "/work")
        verifierDid verifierKey none false) () (.ok updated, s) w := by
  obtain ⟨updated, s', w', hreturns⟩ := workReturns_of_isOk h
  obtain ⟨envelope, s₁, w₁, hcreate, hcountersign⟩ := Proc.returns_bind hreturns
  obtain ⟨summary, hverify, hpayload⟩ := verified_of_newEnvelope (Proc.returns_ofExcept hcreate)
  obtain ⟨-, rfl⟩ := Prod.mk.inj hcreate.1
  exact ⟨envelope, summary, updated, s', w', hverify, hpayload, hcountersign⟩

/-- **`False` is countersigned as 0**: the receipt is accepted, and its countersignature covers a
claim that the rerun does not produce. -/
theorem loose_countersigned : ∃ envelope summary updated s w s₁ w₁ decoded execution,
    verifyAndDecode (.value (.obj envelope)) = .ok (summary, envelope) ∧
      ¬Typed (Json.get summary.payload (py "result")) (Json.get summary.payload (py "exit_code")) ∧
      EffTree.Returns workStep (countersignWorkReceipt (.value (.obj envelope)) (py "/work")
        verifierDid verifierKey none false) () (.ok updated, s) w ∧
      EffTree.Returns workStep (rerun (.value (.obj envelope)) (py "/work") verifierDid
        verifierKey none false) () (.ok (summary, decoded, execution), s₁) w₁ ∧
      canonicalJson (observedClaim execution summary.payload) ≠
        canonicalJson (executionClaim summary.payload) := by
  have hok : (EffTree.run workAnswer (countersignNew loosePayload false) ()).1.1.isOk = true := by
    decide +kernel
  obtain ⟨envelope, summary, updated, s, w, hverify, hpayload, hcountersign⟩ :=
    countersigned_of_isOk hok
  have hloose : Loose (Json.get summary.payload (py "exit_code")) := by
    rw [hpayload]
    trivial
  obtain ⟨summary', decoded, execution, s₁, w₁, hash, hrerun, hverify', -, -, htext⟩ :=
    countersigned_text hcountersign
  rw [hverify] at hverify'
  obtain ⟨rfl, -⟩ := Prod.mk.inj (Except.ok.inj hverify')
  refine ⟨envelope, summary, updated, s, w, s₁, w₁, decoded, execution, hverify, ?_, hcountersign,
    hrerun, fun heq => htext.mp heq hloose⟩
  intro htyped
  exact (typed_iff (claim_of_verified hverify).1).mp htyped hloose

/-- A receipt that is created and then countersigned: what it says of the execution is attested. -/
theorem attested_iff_two : ∃ envelope summary updated s w s₁ w₁ s₂ w₂ decoded execution,
    verifyAndDecode (.value (.obj envelope)) = .ok (summary, decoded) ∧
      (Typed (Json.get summary.payload (py "result")) (Json.get summary.payload (py "exit_code")) ↔
        ¬Loose (Json.get summary.payload (py "exit_code"))) ∧
      EffTree.Returns workStep (countersignWorkReceipt (.value (.obj envelope)) (py "/work")
        verifierDid verifierKey none s) w (.ok updated, s₁) w₁ ∧
      EffTree.Returns workStep (rerun (.value (.obj envelope)) (py "/work") verifierDid
        verifierKey none s) w (.ok (summary, decoded, execution), s₂) w₂ ∧
      (canonicalJson (observedClaim execution summary.payload) =
          canonicalJson (executionClaim summary.payload) ↔
        ¬Loose (Json.get summary.payload (py "exit_code"))) := by
  obtain ⟨updated, s₁, w₁, hreturns⟩ := workReturns_of_isOk (m := createAndCountersign) (s := false)
    (by decide +kernel)
  obtain ⟨envelope, s, w, -, hcountersign⟩ := Proc.returns_bind hreturns
  obtain ⟨summary, decoded, execution, s₂, w₂, hash, hrerun, hverify, -, -, hattested⟩ :=
    attested_iff.2 hcountersign
  exact ⟨envelope, summary, updated, s, w, s₁, w₁, s₂, w₂, decoded, execution, hverify,
    attested_iff.1 hverify, hcountersign, hrerun, hattested⟩

end Sample
