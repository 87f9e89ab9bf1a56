/-
# Expectations and receipts (`work_evidence.py`, `work_receipt_verifier.py`)

The inspector and the verifier of receipts each have their own checks of a repository, a commit,
a command, a timeout and a key; they accept the same values.

* `FieldRules`             : the rules of the verifier for these five fields;
* `expectationOf_ok_iff`   : an expectation is accepted exactly when its fields keep these rules;
* `exists_expectation_iff` : **what a valid payload says can be expected, exactly where the shortest
  file that says it is within the limit**;
* `fieldRules_of_accepted` : **what is expected could be said by a receipt**.
-/
import SafeAgent.BaseUrls
import SafeAgent.JsonLengths
import SafeAgent.JsonStrings
import SafeAgent.Utf8
import SafeAgent.WorkEvidence
import SafeAgent.WorkReceiptTexts

open PyText

namespace WorkEvidence

open Json PyItems Receipt WorkReceipt

/-! ## One grammar, written twice -/

/-- The fields of a receipt are the expected ones. -/
structure SameFields (expected : Expectation) (payload : JsonFields) : Prop where
  repository : get payload (py "repository") = .str expected.repository
  commit : get payload (py "commit") = .str expected.commit
  command : get payload (py "command") = .arr (expected.command.map .str)
  timeoutMs : get payload (py "timeout_ms") = .int expected.timeoutMs
  issuer : get payload (py "issuer") = .str expected.issuer

theorem slash_notMem_of_isOwner {s : PyStr} (h : isOwner s = true) : 47 ∉ s := by
  intro hmem
  simp only [isOwner, Bool.and_eq_true] at h
  exact absurd (List.all_eq_true.mp h.1.2 47 hmem) (by decide)

theorem slash_notMem_of_validRepository {s : PyStr} (h : validRepository s = true) : 47 ∉ s := by
  intro hmem
  simp only [validRepository, isRepository, Bool.and_eq_true] at h
  exact absurd (List.all_eq_true.mp h.1.1.2 47 hmem) (by decide)

/-- A name of a repository with one slash. -/
def RepositoryText (s : PyStr) : Prop :=
  ∃ owner name, s = owner ++ 47 :: name ∧ isOwner owner = true ∧ validRepository name = true

theorem checkRepository_str {s : PyStr} :
    checkRepository (.str s) = .ok s ↔ RepositoryText s := by
  constructor
  · intro h
    simp only [checkRepository, asStr] at h
    split at h
    · rename_i owner name hsplit
      split_ifs at h with hparts
      rw [Bool.and_eq_true] at hparts
      have hjoin : [47].intercalate (s.splitOn 47) = s := List.intercalate_splitOn 47
      rw [hsplit] at hjoin
      refine ⟨owner, name, ?_, hparts⟩
      rw [← hjoin]
      simp [List.intercalate, List.intersperse]
    · cases h
  · rintro ⟨owner, name, rfl, howner, hname⟩
    have hsplit : (owner ++ 47 :: name).splitOn 47 = [owner, name] := by
      have hjoin : owner ++ 47 :: name = [47].intercalate [owner, name] := by
        simp [List.intercalate, List.intersperse]
      rw [hjoin]
      refine List.splitOn_intercalate _ ?_ (by simp)
      simp only [List.forall_mem_cons, List.not_mem_nil, false_implies, implies_true, and_true]
      exact ⟨slash_notMem_of_isOwner howner, slash_notMem_of_validRepository hname⟩
    simp only [checkRepository, asStr, hsplit, howner, hname, Bool.and_self, if_true]

theorem validateRepository_str {s : PyStr} :
    validateRepository (.str s) = .ok s ↔ RepositoryText s := by
  constructor
  · intro h
    simp only [validateRepository, asStr] at h
    by_cases hcount : (s.count 47 == 1) = true
    · rw [Option.filter_some, if_pos hcount] at h
      dsimp only at h
      split_ifs at h with hparts
      rw [Bool.and_eq_true] at hparts
      cases hcut : cut 47 s with
      | mk owner rest =>
          rw [hcut] at hparts
          cases rest with
          | none =>
              have hempty : validRepository [] = false := by decide
              exact absurd hparts.2 (by rw [Option.getD_none, hempty]; exact Bool.false_ne_true)
          | some name => exact ⟨owner, name, eq_of_cut hcut, hparts⟩
    · rw [Option.filter_some, if_neg hcount] at h
      cases h
  · rintro ⟨owner, name, rfl, howner, hname⟩
    have hslash := slash_notMem_of_isOwner howner
    have hcount : ((owner ++ 47 :: name).count 47 == 1) = true := by
      rw [List.count_append, List.count_cons_self, List.count_eq_zero.mpr hslash,
        List.count_eq_zero.mpr (slash_notMem_of_validRepository hname)]
      rfl
    simp only [validateRepository, asStr, Option.filter_some, hcount, if_true, cut_append hslash,
      Option.getD_some, howner, hname, Bool.and_self]

/-- The two checks of a repository. -/
theorem checkRepository_iff {value : Json} {s : PyStr} :
    checkRepository value = .ok s ↔ validateRepository value = .ok s := by
  constructor
  · intro h
    obtain rfl := checkRepository_ok h
    exact validateRepository_str.mpr (checkRepository_str.mp h)
  · intro h
    obtain rfl := validateRepository_ok h
    exact checkRepository_str.mpr (validateRepository_str.mp h)

/-- The two checks of the arguments, by induction on them. -/
theorem checkArguments_iff {first : Bool} {items : List Json} {found : List PyStr × ℕ} :
    checkArguments first items = .ok found ↔ validateArguments first items = .ok found := by
  induction items generalizing first found with
  | nil => rfl
  | cons argument items ih =>
      rw [checkArguments, validateArguments, validateArgument]
      cases argument.asStr.filter fun s => !s.contains 0 with
      | none => exact iff_of_false (by rintro ⟨⟩) (by rintro ⟨⟩)
      | some s =>
          dsimp only
          cases encodeUtf8 s with
          | none => exact iff_of_false (by rintro ⟨⟩) (by rintro ⟨⟩)
          | some octets =>
              dsimp only
              split_ifs
              · exact iff_of_false (by rintro ⟨⟩) (by rintro ⟨⟩)
              · constructor
                · intro h
                  obtain ⟨rest, hrest, h⟩ := PyResult.bind_ok h
                  exact PyResult.bind_eq_ok.mpr ⟨_, rfl, PyResult.bind_eq_ok.mpr ⟨_, ih.mp hrest, h⟩⟩
                · intro h
                  obtain ⟨_, ⟨⟩, h⟩ := PyResult.bind_ok h
                  obtain ⟨rest, hrest, h⟩ := PyResult.bind_ok h
                  exact PyResult.bind_eq_ok.mpr ⟨_, ih.mpr hrest, h⟩

/-- The two checks of a command. -/
theorem checkCommand_iff {value : Json} {argv : List PyStr} :
    checkCommand value = .ok argv ↔ validateCommand value = .ok argv := by
  cases value with
  | arr items =>
      simp only [checkCommand, validateCommand, asArr]
      by_cases hcount : 1 ≤ items.length ∧ items.length ≤ maxCommandArguments
      · have hnone : ¬(items.isEmpty = true ∨ maxCommandArguments < items.length) := by
          rw [List.isEmpty_iff_length_eq_zero]
          omega
        rw [Option.filter_some, if_pos (by simp [hcount]), if_neg hnone]
        dsimp only
        rw [PyResult.bind_eq_ok, PyResult.bind_eq_ok]
        refine exists_congr fun found => and_congr checkArguments_iff ?_
        split_ifs
        · exact iff_of_false (by rintro ⟨⟩) (by rintro ⟨⟩)
        · rfl
      · have hsome : items.isEmpty = true ∨ maxCommandArguments < items.length := by
          rw [List.isEmpty_iff_length_eq_zero]
          omega
        rw [Option.filter_some, if_neg (by simpa using hcount), if_pos hsome]
        exact iff_of_false (by rintro ⟨⟩) (by rintro ⟨⟩)
  | _ => exact iff_of_false (by rintro ⟨⟩) (by rintro ⟨⟩)

/-- The two checks of a timeout. -/
theorem checkTimeoutMs_iff {value : Json} {n : ℕ} :
    checkTimeoutMs value = .ok n ↔ requireNonnegativeInt value "timeout" 3600000 = .ok n ∧ n ≠ 0 := by
  constructor
  · intro h
    obtain ⟨rfl, hpos, hle⟩ := checkTimeoutMs_ok h
    have hcast : (0 : ℤ) ≤ (n : ℤ) := Int.natCast_nonneg n
    refine ⟨?_, Nat.pos_iff_ne_zero.mp hpos⟩
    simp only [requireNonnegativeInt, Protocol.asNat, asInt, if_pos hcast, Int.toNat_natCast]
    rw [Option.filter_some, if_pos (decide_eq_true hle)]
  · rintro ⟨h, hne⟩
    obtain ⟨rfl, hle⟩ := WorkReceipt.requireNonnegativeInt_ok h
    have hrange : 1 ≤ (n : ℤ) ∧ (n : ℤ) ≤ 3600000 := by omega
    simp only [checkTimeoutMs, asInt, if_pos hrange, Int.toNat_natCast]

/-- The two checks of a key. -/
theorem didOf_iff {value : Json} {did : PyStr} {message : String} :
    didOf value = some did ↔ WorkReceipt.checkDid value message = .ok did := by
  constructor
  · intro h
    obtain ⟨rfl, hdid⟩ := didOf_eq_some.mp h
    simp [WorkReceipt.checkDid, Crypto.validateDidValue, asStr, Crypto.validateDid, hdid]
  · intro h
    exact didOf_eq_some.mpr (checkDid_ok h)

theorem checkCommit_iff {value : Json} :
    (∃ s, checkCommit value = .ok s) ↔ value.asStr.any isSha = true := by
  cases value with
  | str s =>
      by_cases hs : isSha s = true
      · refine iff_of_true ⟨s, ?_⟩ hs
        rw [checkCommit, asStr, Option.filter_some, if_pos hs]
      · refine iff_of_false ?_ hs
        rw [checkCommit, asStr, Option.filter_some, if_neg hs]
        rintro ⟨_, ⟨⟩⟩
  | _ => exact iff_of_false (by rintro ⟨_, ⟨⟩⟩) (by rintro ⟨⟩)

/-- The rules of the verifier of receipts for the fields that are compared. -/
structure FieldRules (fields : JsonFields) : Prop where
  repository : ∃ s, validateRepository (get fields (py "repository")) = .ok s
  commit : (get fields (py "commit")).asStr.any isSha = true
  timeoutMs : ∃ n, requireNonnegativeInt (get fields (py "timeout_ms")) "timeout" 3600000 = .ok n ∧ n ≠ 0
  command : ∃ argv, validateCommand (get fields (py "command")) = .ok argv
  issuer : ∃ did, WorkReceipt.checkDid (get fields (py "issuer"))
    "work receipt contains an invalid issuer DID" = .ok did

/-- An accepted payload keeps them. -/
theorem fieldRules_of_validateWorkPayload {payload : JsonFields}
    (h : validateWorkPayload payload = .ok ()) : FieldRules payload := by
  have hvalid := validateWorkPayload_ok h
  obtain ⟨did, hdid, hdidOk⟩ := hvalid.issuer
  obtain ⟨repository, hrepository, hrepositoryOk⟩ := hvalid.repository
  obtain ⟨commit, hcommit, hcommitOk⟩ := hvalid.commit
  obtain ⟨n, hn, hpos, hle⟩ := hvalid.timeoutMs
  refine ⟨⟨repository, ?_⟩, ?_, ⟨n, ?_⟩, hvalid.command, ⟨did, ?_⟩⟩
  · rw [hrepository, hrepositoryOk]
  · rw [hcommit]
    exact hcommitOk
  · have hcast : 1 ≤ (n : ℤ) ∧ (n : ℤ) ≤ 3600000 := by omega
    refine checkTimeoutMs_iff.mp ?_
    rw [hn]
    simp only [checkTimeoutMs, asInt, if_pos hcast, Int.toNat_natCast]
  · exact didOf_iff.mp (didOf_eq_some.mpr ⟨hdid, hdidOk⟩)

/-! An accepted expectation passes its checks again. -/

theorem checkCommit_of (expected : Expectation) :
    checkCommit (.str expected.commit) = .ok expected.commit := by
  rw [checkCommit, asStr, Option.filter_some, if_pos expected.commit_ok]

theorem checkTimeoutMs_of (expected : Expectation) :
    checkTimeoutMs (.int expected.timeoutMs) = .ok expected.timeoutMs := by
  have hrange : 1 ≤ (expected.timeoutMs : ℤ) ∧ (expected.timeoutMs : ℤ) ≤ 3600000 := by
    have hok := expected.timeout_ok
    omega
  simp only [checkTimeoutMs, asInt, if_pos hrange, Int.toNat_natCast]

/-- Distinct keys, none of them the issuer, pass their check. -/
theorem checkIdentities_of (expected : Expectation) :
    checkIdentities (.str expected.issuer) (.arr (expected.requiredVerifiers.map .str)) =
      .ok (expected.issuer, expected.requiredVerifiers) := by
  have hdids {dids : List PyStr} (h : ∀ did ∈ dids, Crypto.isDid did = true) :
      (dids.map Json.str).mapM didOf = some dids := by
    induction dids with
    | nil => rfl
    | cons did dids ih =>
        rw [List.forall_mem_cons] at h
        rw [List.map_cons, List.mapM_cons, ih h.2, didOf_eq_some.mpr ⟨rfl, h.1⟩]
        rfl
  have hbad : ¬(¬expected.requiredVerifiers.Nodup ∨
      expected.requiredVerifiers.contains expected.issuer = true) := by
    rw [not_or, not_not, List.contains_iff_mem]
    exact ⟨expected.distinct, expected.independent⟩
  have hcount : decide ((expected.requiredVerifiers.map Json.str).length ≤ maxCountersignatures) = true := by
    rw [decide_eq_true_eq, List.length_map]
    exact expected.bounded
  rw [checkIdentities, asArr, Option.filter_some, if_pos hcount]
  dsimp only
  rw [didOf_eq_some.mpr ⟨rfl, expected.issuer_ok⟩, hdids expected.verifiers_ok]
  exact if_neg hbad

section Accepting

variable [Platform] {raw : Bytes} {fields : JsonFields}

/-- **An expectation is accepted exactly when its fields keep the rules of a receipt**, and its
verifiers are distinct, well formed and not the issuer. -/
theorem expectationOf_ok_iff {expected : Expectation} (hread : strictJson raw = .ok fields) :
    expectationOf raw = .ok expected ↔
      hasKeys fields expectationKeys = true ∧ get fields (py "schema") = .str expectationSchema ∧
      SameFields expected fields ∧
      get fields (py "required_verifiers") = .arr (expected.requiredVerifiers.map .str) := by
  rw [expectationOf, PyResult.bind_eq_ok]
  constructor
  · rintro ⟨value, hvalue, h⟩
    rw [hread] at hvalue
    cases hvalue
    split_ifs at h with hshape
    simp only [not_or, not_not, isStr_iff] at hshape
    split at h
    · cases h
    rename_i hrepository
    split at h
    · cases h
    rename_i hcommit
    split at h
    · cases h
    rename_i htimeout
    split at h
    · cases h
    rename_i hcommand
    split at h
    · cases h
    rename_i hidentities
    cases h
    have hids := checkIdentities_ok hidentities
    exact ⟨hshape.1, hshape.2,
      ⟨checkRepository_ok hrepository, (checkCommit_ok hcommit).1, checkCommand_ok hcommand,
        (checkTimeoutMs_ok htimeout).1, hids.1⟩, hids.2.1⟩
  · rintro ⟨hkeys, hschema, hsame, hverifiers⟩
    refine ⟨fields, hread, ?_⟩
    rw [if_neg (by rw [hschema, isStr_iff]; simp [hkeys])]
    -- each check of the file is the one that the field of `expected` has passed
    have hrepository := expected.repository_ok
    have hcommit := checkCommit_of expected
    have htimeout := checkTimeoutMs_of expected
    have hcommand := expected.command_ok
    have hidentities := checkIdentities_of expected
    rw [← hsame.repository] at hrepository
    rw [← hsame.commit] at hcommit
    rw [← hsame.timeoutMs] at htimeout
    rw [← hsame.command] at hcommand
    rw [← hsame.issuer, ← hverifiers] at hidentities
    split
    · rename_i h
      rw [hrepository] at h
      cases h
    rename_i h₁
    split
    · rename_i h
      rw [hcommit] at h
      cases h
    rename_i h₂
    split
    · rename_i h
      rw [htimeout] at h
      cases h
    rename_i h₃
    split
    · rename_i h
      rw [hcommand] at h
      cases h
    rename_i h₄
    split
    · rename_i h
      rw [hidentities] at h
      cases h
    rename_i h₅
    -- all five checks returned, each what `expected` holds
    congr 1
    cases expected
    simp only [hrepository, hcommit, htimeout, hcommand, hidentities, Except.ok.injEq,
      Prod.mk.injEq] at h₁ h₂ h₃ h₄ h₅
    simp only [h₁, h₂, h₃, h₄, h₅]

omit [Platform] in
/-- What keeps the rules can be expected, of verifiers that pass their check. -/
theorem exists_sameFields (h : FieldRules fields) {verifiers : Json} {ids : PyStr × List PyStr}
    (hids : checkIdentities (get fields (py "issuer")) verifiers = .ok ids) :
    ∃ expected : Expectation, SameFields expected fields ∧
      verifiers = .arr (expected.requiredVerifiers.map .str) := by
  obtain ⟨repository, hrepository⟩ := h.repository
  obtain ⟨commit, hcommit⟩ := checkCommit_iff.mpr h.commit
  obtain ⟨timeoutMs, htimeout⟩ := h.timeoutMs
  obtain ⟨command, hcommand⟩ := h.command
  rw [← checkRepository_iff] at hrepository
  rw [← checkTimeoutMs_iff] at htimeout
  rw [← checkCommand_iff] at hcommand
  obtain ⟨issuer, requiredVerifiers⟩ := ids
  obtain ⟨hissuer, hverifiers, hdid, hdids, hdistinct, hindependent, hbounded⟩ := checkIdentities_ok hids
  exact ⟨
    { repository, commit, command, timeoutMs, issuer, requiredVerifiers
      repository_ok := checkRepository_ok hrepository ▸ hrepository
      commit_ok := (checkCommit_ok hcommit).2
      command_ok := checkCommand_ok hcommand ▸ hcommand
      timeout_ok := (checkTimeoutMs_ok htimeout).2
      issuer_ok := hdid
      verifiers_ok := hdids
      distinct := hdistinct
      independent := hindependent
      bounded := hbounded },
    ⟨checkRepository_ok hrepository, (checkCommit_ok hcommit).1, checkCommand_ok hcommand,
      (checkTimeoutMs_ok htimeout).1, hissuer⟩, hverifiers⟩

omit [Platform] in
/-- Nobody has to countersign. -/
theorem checkIdentities_nil (h : FieldRules fields) :
    ∃ ids, checkIdentities (get fields (py "issuer")) (.arr []) = .ok ids := by
  obtain ⟨did, hissuer⟩ := h.issuer
  refine ⟨(did, []), ?_⟩
  have hcount : decide (([] : List Json).length ≤ maxCountersignatures) = true := rfl
  rw [checkIdentities, asArr, Option.filter_some, if_pos hcount]
  dsimp only
  rw [didOf_iff.mpr hissuer]
  exact if_neg (by simp)

omit [Platform] in
/-- The rules see the five fields only. -/
theorem FieldRules.congr {payload : JsonFields} (h : FieldRules payload)
    (hsame : ∀ key ∈ comparisonFields, get fields key = get payload key) : FieldRules fields := by
  simp only [comparisonFields, List.forall_mem_cons, List.not_mem_nil, false_implies, implies_true,
    and_true] at hsame
  obtain ⟨hrepository, hcommit, hcommand, htimeout, hissuer⟩ := hsame
  exact ⟨hrepository ▸ h.repository, hcommit ▸ h.commit, htimeout ▸ h.timeoutMs,
    hcommand ▸ h.command, hissuer ▸ h.issuer⟩

omit [Platform] in
theorem SameFields.congr {expected : Expectation} {payload : JsonFields} (h : SameFields expected fields)
    (hsame : ∀ key ∈ comparisonFields, get fields key = get payload key) :
    SameFields expected payload := by
  simp only [comparisonFields, List.forall_mem_cons, List.not_mem_nil, false_implies, implies_true,
    and_true] at hsame
  obtain ⟨hrepository, hcommit, hcommand, htimeout, hissuer⟩ := hsame
  exact ⟨hrepository ▸ h.repository, hcommit ▸ h.commit, hcommand ▸ h.command,
    htimeout ▸ h.timeoutMs, hissuer ▸ h.issuer⟩

/-- **Of a file that says what a payload says, only its shape and its verifiers are checked.** -/
theorem accepted_iff {payload : JsonFields} (hrules : FieldRules payload)
    (hread : strictJson raw = .ok fields)
    (hsame : ∀ key ∈ comparisonFields, get fields key = get payload key) :
    (∃ expected, expectationOf raw = .ok expected ∧ SameFields expected payload) ↔
      hasKeys fields expectationKeys = true ∧ get fields (py "schema") = .str expectationSchema ∧
        ∃ ids, checkIdentities (get fields (py "issuer")) (get fields (py "required_verifiers")) =
          .ok ids := by
  constructor
  · rintro ⟨expected, hok, -⟩
    obtain ⟨hkeys, hschema, hfields, hverifiers⟩ := (expectationOf_ok_iff hread).mp hok
    refine ⟨hkeys, hschema, (expected.issuer, expected.requiredVerifiers), ?_⟩
    rw [hfields.issuer, hverifiers]
    exact checkIdentities_of expected
  · rintro ⟨hkeys, hschema, ids, hids⟩
    obtain ⟨expected, hfields, hverifiers⟩ := exists_sameFields (hrules.congr hsame) hids
    exact ⟨expected, (expectationOf_ok_iff hread).mpr ⟨hkeys, hschema, hfields, hverifiers⟩,
      hfields.congr hsame⟩

/-- **What is expected could be said by a receipt.** -/
theorem fieldRules_of_accepted {expected : Expectation} (h : expectationOf raw = .ok expected) :
    ∃ fields, strictJson raw = .ok fields ∧ SameFields expected fields ∧ FieldRules fields := by
  obtain ⟨fields, hread, -⟩ := PyResult.bind_ok h
  obtain ⟨-, -, hsame, -⟩ := (expectationOf_ok_iff hread).mp h
  refine ⟨fields, hread, hsame, ?_⟩
  refine ⟨⟨expected.repository, ?_⟩, checkCommit_iff.mp ⟨expected.commit, ?_⟩,
    ⟨expected.timeoutMs, checkTimeoutMs_iff.mp ?_⟩, ⟨expected.command, ?_⟩,
    ⟨expected.issuer, didOf_iff.mp (didOf_eq_some.mpr ⟨hsame.issuer, expected.issuer_ok⟩)⟩⟩
  · rw [hsame.repository]
    exact checkRepository_iff.mp expected.repository_ok
  · rw [hsame.commit]
    exact checkCommit_of expected
  · rw [hsame.timeoutMs]
    exact checkTimeoutMs_of expected
  · rw [hsame.command]
    exact checkCommand_iff.mp expected.command_ok

end Accepting

/-! ## The text of an expectation -/

mutual

/-- A plain value holds no `float` at all. -/
theorem holdsConstant_of_plain : ∀ v : Json, Plain v → holdsConstant v = false
  | .null, _ => rfl
  | .bool _, _ => rfl
  | .int _, _ => rfl
  | .float _, h => h.elim
  | .str _, _ => rfl
  | .arr items, h => itemsHoldConstant_of_plain items h
  | .obj fields, h => fieldsHoldConstant_of_plain fields h.2

theorem itemsHoldConstant_of_plain : ∀ items : List Json, PlainItems items →
    itemsHoldConstant items = false
  | [], _ => rfl
  | v :: rest, h => by
      rw [itemsHoldConstant, holdsConstant_of_plain v h.1, itemsHoldConstant_of_plain rest h.2]
      rfl

theorem fieldsHoldConstant_of_plain : ∀ fields : JsonFields, PlainFields fields →
    fieldsHoldConstant fields = false
  | [], _ => rfl
  | (_, v) :: rest, h => by
      rw [fieldsHoldConstant, holdsConstant_of_plain v h.2.1, fieldsHoldConstant_of_plain rest h.2.2]
      rfl

end

section Texts

variable [Platform] {payload : JsonFields}

theorem hookKeeps_strictReader : HookKeeps strictReader := by
  intro fields hnodup
  exact if_pos hnodup

/-- **The strict reader reads back what was written**, in whatever escapes. -/
theorem strictJson_renderWith {esc : ℕ → PyStr} {S : PyStr → Prop} (hesc : Spelling esc S)
    (hS : ∀ s, Scalars s → S s) {fields : JsonFields} (hplain : Plain (.obj fields))
    (hdepth : depth (.obj fields) ≤ Platform.recursionLimit) {raw : Bytes}
    (hraw : encodeUtf8 (renderWith esc (.obj fields)) = some raw) : strictJson raw = .ok fields := by
  have hdecode : decodeStrict raw = some (renderWith esc (.obj fields)) := by
    have hall : (renderWith esc (.obj fields)).all isScalar = true := by
      unfold encodeUtf8 at hraw
      split_ifs at hraw with hall
      exact hall
    rw [decodeStrict, decodeUtf8_encodeUtf8 hraw, Option.filter_some, if_pos hall]
  have hloads (r : JsonReader) (hr : HookKeeps r) (hlimit : r.depthLimit = Platform.recursionLimit) :
      loadsStr r (renderWith esc (.obj fields)) = .ok (.obj fields) := by
    have hread := loadsStr_renderWith hesc hr (hplain.within hS) (hdepth.trans hlimit.ge)
      numberEnds_nil rfl
    rwa [List.append_nil] at hread
  have hcalls : callsParseConstant (renderWith esc (.obj fields)) = false := by
    rw [callsParseConstant, hloads { strictReader with floatRepr := fun _ => [] }
      (fun fields hnodup => hookKeeps_strictReader fields hnodup) rfl]
    exact holdsConstant_of_plain _ hplain
  rw [strictJson, hdecode]
  dsimp only
  rw [hcalls, hloads strictReader hookKeeps_strictReader rfl]
  rfl

/-- The document that expects what a payload says, of no verifier. -/
def expectationDocument (payload : JsonFields) : JsonFields :=
  (py "schema", .str expectationSchema) ::
    comparisonFields.map (fun key => (key, get payload key)) ++ [(py "required_verifiers", .arr [])]

omit [Platform] in
theorem keys_expectationDocument (payload : JsonFields) :
    keys (expectationDocument payload) = expectationKeys := by
  simp [expectationDocument, expectationKeys, keys, List.map_map, Function.comp_def]

omit [Platform] in
theorem hasKeys_expectationDocument (payload : JsonFields) :
    hasKeys (expectationDocument payload) expectationKeys = true := by
  rw [hasKeys, keys_expectationDocument]
  decide

omit [Platform] in
theorem plainItems_strings {F : PyStr → Prop} {argv : List PyStr}
    (h : WithinItems Scalars F (argv.map .str)) : PlainItems (argv.map .str) := by
  induction argv with
  | nil => trivial
  | cons s argv ih => exact ⟨h.1, ih h.2⟩

/-- The fields of the document of an accepted payload. -/
theorem plain_comparisonField (h : validateWorkPayload payload = .ok ()) :
    ∀ key ∈ comparisonFields, Plain (get payload key) ∧ depth (get payload key) ≤ 1 := by
  have hvalid := validateWorkPayload_ok h
  have hleaf {key : PyStr} (hmem : key ∈ workSizes.map Prod.fst) :
      Within Scalars (KeepsZero Protocol.jsonReader) (get payload key) ∧ depth (get payload key) ≤ 1 := by
    obtain ⟨entry, hentry, rfl⟩ := List.mem_map.mp hmem
    have hcompact := (hvalid.leaves entry hentry).compact
    exact ⟨hcompact.plain, hcompact.shallow⟩
  have hstr {key : PyStr} (hmem : key ∈ workSizes.map Prod.fst)
      (hget : ∃ s, get payload key = .str s) : Plain (get payload key) ∧ depth (get payload key) ≤ 1 := by
    obtain ⟨s, hget⟩ := hget
    have h := hleaf hmem
    rw [hget] at h ⊢
    exact h
  have hcommand : Plain (get payload (py "command")) ∧ depth (get payload (py "command")) ≤ 1 := by
    obtain ⟨argv, hargv⟩ := hvalid.command
    have h := hleaf (show py "command" ∈ _ by decide)
    rw [checkCommand_ok (checkCommand_iff.mpr hargv)] at h ⊢
    exact ⟨plainItems_strings h.1, h.2⟩
  have htimeout : Plain (get payload (py "timeout_ms")) ∧ depth (get payload (py "timeout_ms")) ≤ 1 := by
    obtain ⟨n, hn, -⟩ := hvalid.timeoutMs
    have h := hleaf (show py "timeout_ms" ∈ _ by decide)
    rw [hn] at h ⊢
    exact h
  simp only [comparisonFields, List.forall_mem_cons, List.not_mem_nil, false_implies, implies_true,
    and_true]
  refine ⟨hstr (by decide) ?_, hstr (by decide) ?_, hcommand, htimeout, hstr (by decide) ?_⟩
  · exact hvalid.repository.imp fun _ h => h.1
  · exact hvalid.commit.imp fun _ h => h.1
  · exact hvalid.issuer.imp fun _ h => h.1

/-- The document of an accepted payload can be written, and read again. -/
theorem plain_expectationDocument (h : validateWorkPayload payload = .ok ()) :
    Plain (.obj (expectationDocument payload)) ∧ depth (.obj (expectationDocument payload)) ≤ 2 := by
  have hkeys : (keys (expectationDocument payload)).Nodup := by
    rw [keys_expectationDocument]
    decide
  have hnames : ∀ key ∈ expectationKeys, ∀ c ∈ key, isScalar c = true := by decide
  have hfields : ∀ kv ∈ expectationDocument payload, Plain kv.2 ∧ depth kv.2 ≤ 1 := by
    intro kv hkv
    simp only [expectationDocument, List.mem_append, List.mem_cons, List.mem_map, List.not_mem_nil,
      or_false] at hkv
    rcases hkv with (rfl | ⟨key, hkey, rfl⟩) | rfl
    · exact ⟨show ∀ c ∈ expectationSchema, isScalar c = true by decide, Nat.zero_le 1⟩
    · exact plain_comparisonField h key hkey
    · exact ⟨trivial, le_rfl⟩
  refine ⟨⟨hkeys, plainFields_iff.mpr fun kv hkv => ⟨?_, (hfields kv hkv).1⟩⟩, ?_⟩
  · refine hnames kv.1 ?_
    rw [← keys_expectationDocument payload]
    exact List.mem_map.mpr ⟨kv, hkv, rfl⟩
  · have hdepth := depthFields_le_iff.mpr fun kv hkv => (hfields kv hkv).2
    rw [depth]
    omega

/-- The shortest text of the document that expects what a payload says, in UTF-8. -/
def shortestExpectation (payload : JsonFields) : Bytes :=
  (renderWith shortEscape (.obj (expectationDocument payload))).flatMap utf8Char

/-- The document of an accepted payload is accepted. -/
theorem expectationOf_document (h : validateWorkPayload payload = .ok ()) :
    ∃ expected, expectationOf (shortestExpectation payload) = .ok expected ∧
      SameFields expected payload := by
  obtain ⟨hplain, hdepth⟩ := plain_expectationDocument h
  have hrules := fieldRules_of_validateWorkPayload h
  have hraw : encodeUtf8 (renderWith shortEscape (.obj (expectationDocument payload))) =
      some (shortestExpectation payload) :=
    if_pos (List.all_eq_true.mpr (scalars_render _ hplain.upTo))
  have hread := strictJson_renderWith spelling_shortEscape (fun _ _ => trivial) hplain
    (hdepth.trans Platform.two_le_recursionLimit) hraw
  have hsame : ∀ key ∈ comparisonFields, get (expectationDocument payload) key = get payload key := by
    simp only [comparisonFields, List.forall_mem_cons, List.not_mem_nil, false_implies, implies_true,
      and_true]
    exact ⟨rfl, rfl, rfl, rfl, rfl⟩
  exact (accepted_iff hrules hread hsame).mpr
    ⟨hasKeys_expectationDocument payload, rfl, checkIdentities_nil (hrules.congr hsame)⟩

/-- What the strict reader read. -/
theorem strictJson_ok {raw : Bytes} {fields : JsonFields} (h : strictJson raw = .ok fields) :
    ∃ s, decodeStrict raw = some s ∧ loadsStr strictReader s = .ok (.obj fields) := by
  unfold strictJson at h
  split at h
  · cases h
  rename_i s hs
  refine ⟨s, hs, ?_⟩
  split_ifs at h
  split at h
  · split_ifs at h
  · rename_i fields' hread
    cases h
    exact hread
  · cases h

omit [Platform] in
/-- What the members of an object with known keys cost, key by key. -/
theorem costFields_eq_of_hasKeys {fields : JsonFields} {expected : List PyStr}
    (hnodup : (keys fields).Nodup) (hexpected : expected.Nodup)
    (hkeys : hasKeys fields expected = true) :
    costFields fields = (expected.map fun key => textCost key + 3 + cost (get fields key) + 1).sum := by
  have hitems : (fields.map fun kv => textCost kv.1 + 3 + cost kv.2 + 1) =
      (keys fields).map fun key => textCost key + 3 + cost (get fields key) + 1 := by
    rw [keys, List.map_map]
    refine List.map_congr_left fun kv hkv => ?_
    rw [Function.comp_apply, get_of_mem hnodup hkv]
  rw [costFields_eq, hitems, ((keys_perm_of_hasKeys hnodup hexpected hkeys).map _).sum_eq]

/-- How long the shortest file is. -/
theorem length_shortestExpectation (h : validateWorkPayload payload = .ok ()) :
    (shortestExpectation payload).length = cost (.obj (expectationDocument payload)) :=
  octets_render _ (plain_expectationDocument h).1.upTo

/-- **Every file that expects what a payload says is as long as the shortest one**, since it holds
the same seven keys, five of them with the same values. -/
theorem shortestExpectation_le (h : validateWorkPayload payload = .ok ()) {raw : Bytes}
    {expected : Expectation} (hok : expectationOf raw = .ok expected)
    (hsame : SameFields expected payload) : (shortestExpectation payload).length ≤ raw.length := by
  obtain ⟨fields, hread, -⟩ := PyResult.bind_ok hok
  obtain ⟨hkeys, hschema, hfields, hverifiers⟩ := (expectationOf_ok_iff hread).mp hok
  obtain ⟨s, hs, hloads⟩ := strictJson_ok hread
  rw [decodeStrict, Option.filter_eq_some_iff] at hs
  have hscalars : Scalars s := List.all_eq_true.mp hs.2
  have hwithin := loadsStr_within (hookKeepsMembers_reject rfl) hscalars hloads
  rw [WithinText, Within] at hwithin
  have hcost : cost (.obj fields) ≤ octets s := loadsStr_cost (hookSpends_reject rfl) hloads
  have hnodup : expectationKeys.Nodup := by decide
  have hdocument : (keys (expectationDocument payload)).Nodup := by
    rw [keys_expectationDocument]
    exact hnodup
  have hnone : cost (.arr []) ≤ cost (.arr (expected.requiredVerifiers.map .str)) := by
    rw [cost, cost, costItems]
    omega
  -- field by field: the document holds the same, and no verifiers
  have hvalues : ∀ key ∈ expectationKeys,
      cost (get (expectationDocument payload) key) ≤ cost (get fields key) := by
    simp only [expectationKeys, comparisonFields, List.cons_append, List.nil_append,
      List.forall_mem_cons, List.not_mem_nil, false_implies, implies_true, and_true]
    rw [hschema, hverifiers, hfields.repository, hfields.commit, hfields.command, hfields.timeoutMs,
      hfields.issuer, ← hsame.repository, ← hsame.commit, ← hsame.command, ← hsame.timeoutMs,
      ← hsame.issuer]
    exact ⟨le_rfl, le_rfl, le_rfl, le_rfl, le_rfl, le_rfl, hnone⟩
  have hle : costFields (expectationDocument payload) ≤ costFields fields := by
    rw [costFields_eq_of_hasKeys hwithin.1 hnodup hkeys,
      costFields_eq_of_hasKeys hdocument hnodup (hasKeys_expectationDocument payload)]
    refine List.sum_le_sum fun key hkey => ?_
    have hvalue : cost (get (expectationDocument payload) key) ≤ cost (get fields key) :=
      hvalues key hkey
    omega
  rw [length_shortestExpectation h]
  refine le_trans ?_ (hcost.trans (octets_decodeUtf8 hs.1))
  rw [cost, cost]
  omega

/-- **An accepted payload can be expected exactly where the shortest file fits.** -/
theorem exists_expectation_iff (h : validateWorkPayload payload = .ok ()) :
    (∃ raw : Bytes, raw.length ≤ maxExpectationBytes ∧
      ∃ expected, expectationOf raw = .ok expected ∧ SameFields expected payload) ↔
      (shortestExpectation payload).length ≤ maxExpectationBytes := by
  constructor
  · rintro ⟨raw, hlength, expected, hok, hsame⟩
    exact (shortestExpectation_le h hok hsame).trans hlength
  · intro hfits
    exact ⟨_, hfits, expectationOf_document h⟩

/-- **Expectations and receipts speak the same language, as far as a file is long enough.** -/
theorem same_language :
    (∀ payload, validateWorkPayload payload = .ok () →
      (∀ raw fields, strictJson raw = .ok fields →
        (∀ key ∈ comparisonFields, get fields key = get payload key) →
          ((∃ expected, expectationOf raw = .ok expected ∧ SameFields expected payload) ↔
            hasKeys fields expectationKeys = true ∧
              get fields (py "schema") = .str expectationSchema ∧
              ∃ ids, checkIdentities (get fields (py "issuer"))
                (get fields (py "required_verifiers")) = .ok ids)) ∧
      ((∃ raw : Bytes, raw.length ≤ maxExpectationBytes ∧
          ∃ expected, expectationOf raw = .ok expected ∧ SameFields expected payload) ↔
        (shortestExpectation payload).length ≤ maxExpectationBytes)) ∧
    ∀ raw expected, expectationOf raw = .ok expected →
      ∃ fields, strictJson raw = .ok fields ∧ SameFields expected fields ∧ FieldRules fields :=
  ⟨fun _ h => ⟨fun _ _ => accepted_iff (fieldRules_of_validateWorkPayload h), exists_expectation_iff h⟩,
    fun _ _ => fieldRules_of_accepted⟩

end Texts

end WorkEvidence

namespace Sample

open WorkEvidence WorkReceipt Json PyItems

/-- The payload of a receipt for a command. -/
def evidencePayload (command : List PyStr) : JsonFields :=
  [(py "schema", .str (py "work-receipt-v1")), (py "issuer", .str did),
    (py "repository", .str (py "owner/repo")), (py "commit", .str (List.replicate 40 97)),
    (py "command", .arr (command.map .str)), (py "timeout_ms", .int 1000),
    (py "result", .str (py "passed")), (py "exit_code", .int 0),
    (py "stdout_sha256", .str (List.replicate 64 97)), (py "stdout_bytes", .int 0),
    (py "stderr_sha256", .str (List.replicate 64 97)), (py "stderr_bytes", .int 0),
    (py "started_at", .str (py "2026-01-01T00:00:00Z")),
    (py "completed_at", .str (py "2026-01-01T00:00:01Z")), (py "duration_ms", .int 12)]

/-- Whether the payload is accepted depends on its command. -/
theorem validateWorkPayload_evidencePayload {command argv : List PyStr}
    (h : validateCommand (.arr (command.map .str)) = .ok argv) :
    validateWorkPayload (evidencePayload command) = .ok () := by
  have hshort : validateWorkPayload (evidencePayload [py "true"]) = .ok () := by decide +kernel
  have hcommand : validateCommand (get (evidencePayload [py "true"]) (py "command")) =
      .ok [py "true"] := by decide +kernel
  have hget : get (evidencePayload command) (py "command") = .arr (command.map .str) := rfl
  unfold validateWorkPayload at hshort ⊢
  rw [hcommand] at hshort
  rw [hget, h]
  exact hshort

/-- Two arguments of control characters. -/
def controlCommand : List PyStr := [List.replicate 4096 1, List.replicate 4096 1]

theorem validateArgument_control (first : Bool) {n : ℕ} (hpos : 0 < n) (hle : n ≤ maxCommandArgumentBytes) :
    validateArgument first (.str (List.replicate n 1)) = .ok (List.replicate n 1, n) := by
  have hascii : ∀ c ∈ List.replicate n 1, isAscii c = true := by
    intro c hc
    rw [List.eq_of_mem_replicate hc]
    rfl
  have hzero : (!(List.replicate n 1).contains 0) = true := by
    rw [Bool.not_eq_true', ← Bool.not_eq_true, List.contains_iff_mem]
    intro hmem
    exact absurd (List.eq_of_mem_replicate hmem) (by decide)
  have hlength : (toAscii (List.replicate n 1)).length = n := by
    rw [toAscii, List.length_map, List.length_replicate]
  unfold validateArgument
  rw [asStr, Option.filter_some, if_pos hzero]
  dsimp only
  rw [encodeUtf8_ascii hascii]
  dsimp only
  rw [hlength, if_neg (by omega)]

theorem validateCommand_controlCommand :
    validateCommand (.arr (controlCommand.map .str)) = .ok controlCommand := by
  have hargument (first : Bool) := validateArgument_control first (n := 4096) (by decide) le_rfl
  have hcount (a b : Json) :
      ¬(([a, b] : List Json).isEmpty = true ∨ maxCommandArguments < ([a, b] : List Json).length) := by
    simp [maxCommandArguments]
  rw [validateCommand, asArr, controlCommand, List.map_cons, List.map_cons, List.map_nil]
  dsimp only
  rw [if_neg (hcount _ _), validateArguments, validateArguments, validateArguments, hargument, hargument]
  rfl

theorem textCost_replicate (n c : ℕ) :
    textCost (List.replicate n c) = n * octets (shortEscape c) := by
  induction n with
  | zero => rw [List.replicate_zero, textCost_nil, Nat.zero_mul]
  | succ n ih => rw [List.replicate_succ, textCost_cons, ih, Nat.succ_mul, Nat.add_comm]

/-- The text of a control character takes six octets. -/
theorem cost_controlCommand : cost (.arr (controlCommand.map .str)) = 49159 := by
  rw [cost, controlCommand, List.map_cons, List.map_cons, List.map_nil, costItems, costItems, costItems,
    cost, textCost_replicate]
  rfl

/-- **A receipt for this command is valid, and no file can expect it.** -/
theorem no_expectation_controlCommand :
    validateWorkPayload (evidencePayload controlCommand) = .ok () ∧
      ¬∃ raw : Bytes, raw.length ≤ maxExpectationBytes ∧
        ∃ expected, expectationOf raw = .ok expected ∧
          SameFields expected (evidencePayload controlCommand) := by
  have hvalid := validateWorkPayload_evidencePayload validateCommand_controlCommand
  refine ⟨hvalid, ?_⟩
  rw [exists_expectation_iff hvalid, length_shortestExpectation hvalid, cost]
  have hmember : (py "command", Json.arr (controlCommand.map .str)) ∈
      expectationDocument (evidencePayload controlCommand) :=
    .tail _ (.tail _ (.tail _ (.head _)))
  have hle := cost_member_le hmember
  rw [cost_controlCommand] at hle
  rw [maxExpectationBytes]
  omega

end Sample
