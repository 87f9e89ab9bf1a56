/-
# What a receipt raises (`work_evidence.py`, `work_receipt_verifier.py`)

The inspector catches four classes of errors around the verifier of receipts; the verifier raises
no other.

* `Invalid`          : an error that the inspector takes for an invalid receipt;
* `raises_receiptOf` : **whatever a receipt raises makes it invalid**.
-/
import SafeAgent.WorkEvidence
import SafeAgent.MalformedAnswers

open PyText

namespace WorkEvidence

open Json PyItems Receipt WorkReceipt

/-- An error that the inspector takes for an invalid receipt. -/
def Invalid (e : PyErr) : Prop := isInvalid e = true

theorem raises_canonicalJson (payload : JsonFields) : Raises Invalid (WorkReceipt.canonicalJson payload) := by
  unfold WorkReceipt.canonicalJson Receipt.canonicalJson dumps
  split_ifs
  · exact raises_ok _
  · exact (raises_error intTooLong).mpr rfl

theorem raises_checkDid (value : Json) (message : String) :
    Raises Invalid (WorkReceipt.checkDid value message) := by
  unfold WorkReceipt.checkDid
  split
  · exact raises_ok _
  · exact (raises_error _).mpr rfl

theorem raises_requireSha256 (value : Json) (label : String) :
    Raises Invalid (requireSha256 value label) := by
  unfold requireSha256
  split
  · exact raises_ok _
  · exact (raises_error _).mpr rfl

theorem raises_requireNonnegativeInt (value : Json) (label : String) (maximum : ℕ) :
    Raises Invalid (requireNonnegativeInt value label maximum) := by
  unfold requireNonnegativeInt
  split
  · exact raises_ok _
  · exact (raises_error _).mpr rfl

theorem raises_parseTimestamp (value : Json) (label : String) :
    Raises Invalid (parseTimestamp value label) := by
  unfold parseTimestamp
  split
  · exact raises_ok _
  · exact (raises_error _).mpr rfl

theorem raises_validateRepository (value : Json) : Raises Invalid (validateRepository value) := by
  unfold validateRepository
  split
  · exact (raises_error _).mpr rfl
  · exact raises_ite (raises_ok _) ((raises_error _).mpr rfl)

theorem raises_validateArguments (first : Bool) (items : List Json) :
    Raises Invalid (validateArguments first items) := by
  induction items generalizing first with
  | nil => exact raises_ok _
  | cons argument items ih =>
      unfold validateArguments
      refine raises_bind ?_ fun _ _ => raises_bind (ih false) fun _ _ => raises_ok _
      unfold validateArgument
      split
      · exact (raises_error _).mpr rfl
      · split
        · exact (raises_error _).mpr rfl
        · exact raises_ite ((raises_error _).mpr rfl) (raises_ok _)

theorem raises_validateCommand (command : Json) : Raises Invalid (validateCommand command) := by
  unfold validateCommand
  split
  · exact (raises_error _).mpr rfl
  · refine raises_ite ((raises_error _).mpr rfl) (raises_bind (raises_validateArguments _ _) ?_)
    exact fun _ _ => raises_ite ((raises_error _).mpr rfl) (raises_ok _)

theorem raises_validateResult (result exitCode : Json) :
    Raises Invalid (validateResult result exitCode) := by
  unfold validateResult
  refine raises_ite (raises_ite (raises_ok _) ((raises_error _).mpr rfl)) (raises_ite ?_
    (raises_ite (raises_ite (raises_ok _) ((raises_error _).mpr rfl)) ((raises_error _).mpr rfl)))
  split
  · exact (raises_error _).mpr rfl
  · exact raises_ite (raises_ok _) ((raises_error _).mpr rfl)

theorem raises_validateWorkPayload (payload : JsonFields) :
    Raises Invalid (validateWorkPayload payload) := by
  unfold validateWorkPayload
  refine raises_ite ((raises_error _).mpr rfl) ?_
  refine raises_bind (raises_checkDid _ _) fun _ _ => ?_
  refine raises_bind (raises_validateRepository _) fun _ _ => ?_
  refine raises_ite ((raises_error _).mpr rfl) ?_
  refine raises_bind (raises_validateCommand _) fun _ _ => ?_
  refine raises_bind (raises_requireNonnegativeInt _ _ _) fun _ _ => ?_
  refine raises_ite ((raises_error _).mpr rfl) ?_
  refine raises_bind (raises_validateResult _ _) fun _ _ => ?_
  refine raises_bind (raises_requireSha256 _ _) fun _ _ => ?_
  refine raises_bind (raises_requireSha256 _ _) fun _ _ => ?_
  refine raises_bind (raises_requireNonnegativeInt _ _ _) fun _ _ => ?_
  refine raises_bind (raises_requireNonnegativeInt _ _ _) fun _ _ => ?_
  refine raises_bind ?_ fun _ _ =>
    raises_bind (raises_requireNonnegativeInt _ _ _) fun _ _ => raises_ok _
  unfold validateTimes
  refine raises_bind (raises_parseTimestamp _ _) fun _ _ => ?_
  refine raises_bind (raises_parseTimestamp _ _) fun _ _ => ?_
  exact raises_ite ((raises_error _).mpr rfl) (raises_ok _)

section Receipts

variable [Platform]

theorem raises_verifySignedWrapper (value : Json) (signerKey : PyStr) :
    Raises Invalid (verifySignedWrapper value signerKey) := by
  unfold verifySignedWrapper
  split
  · exact (raises_error _).mpr rfl
  split
  · exact (raises_error _).mpr rfl
  refine raises_bind (raises_canonicalJson _) fun _ _ => ?_
  refine raises_ite ((raises_error _).mpr rfl) (raises_bind (raises_checkDid _ _) fun _ _ => ?_)
  exact raises_ite ((raises_error _).mpr rfl) (raises_ok _)

theorem raises_checkCountersignatures (issuer receiptHash executionHash : PyStr)
    (completedAt : UtcTime) (seen : List PyStr) (items : List Json) : Raises Invalid
      (checkCountersignatures issuer receiptHash executionHash completedAt seen items) := by
  induction items generalizing seen with
  | nil => exact raises_ok _
  | cons item items ih =>
      unfold checkCountersignatures
      refine raises_bind ?_ fun _ _ => raises_bind (ih _) fun _ _ => raises_ok _
      unfold checkCountersignature
      refine raises_bind (raises_verifySignedWrapper _ _) fun payload _ => raises_bind ?_ fun _ _ => ?_
      · unfold validateCountersignaturePayload
        refine raises_ite ((raises_error _).mpr rfl) ?_
        refine raises_bind (raises_checkDid _ _) fun _ _ => ?_
        refine raises_bind (raises_requireSha256 _ _) fun _ _ => ?_
        refine raises_bind (raises_requireSha256 _ _) fun _ _ => ?_
        exact raises_bind (raises_parseTimestamp _ _) fun _ _ => raises_ok _
      · refine raises_ite ((raises_error _).mpr rfl) (raises_ite ((raises_error _).mpr rfl) ?_)
        refine raises_ite ((raises_error _).mpr rfl) (raises_ite ((raises_error _).mpr rfl) ?_)
        refine raises_bind (raises_parseTimestamp _ _) fun _ _ => ?_
        exact raises_ite ((raises_error _).mpr rfl) (raises_ok _)

theorem raises_verifyAndDecode (value : Json) : Raises Invalid (verifyAndDecode (.value value)) := by
  unfold verifyAndDecode
  refine raises_bind ?_ fun envelope _ => ?_
  · unfold decode
    refine raises_bind (raises_ok _) fun _ _ => ?_
    dsimp only
    split
    · exact raises_ok _
    · exact (raises_error _).mpr rfl
  refine raises_ite ((raises_error _).mpr rfl) (raises_bind (raises_verifySignedWrapper _ _) ?_)
  refine fun payload _ => raises_bind (raises_validateWorkPayload _) fun _ _ => ?_
  split
  · exact (raises_error _).mpr rfl
  refine raises_bind ?_ fun _ _ => raises_bind (raises_parseTimestamp _ _) fun _ _ =>
    raises_bind (raises_checkCountersignatures _ _ _ _ _ _) fun _ _ => raises_ok _
  unfold executionSha256
  exact raises_bind (f := fun b => .ok (Sha256.sha256Hex b)) (raises_canonicalJson _) fun _ _ => raises_ok _

omit [Platform] in
theorem scannerErrors_invalid : ScannerErrors Invalid where
  decode _ := rfl
  tooLong := rfl
  tooDeep := rfl
  utf8 := rfl

theorem raises_strictJson (raw : Bytes) : Raises Invalid (strictJson raw) := by
  unfold strictJson
  split
  · exact (raises_error _).mpr rfl
  refine raises_ite ((raises_error _).mpr rfl) ?_
  split
  · rename_i e he
    have hhook (fields : JsonFields) : Raises Invalid (strictReader.objectHook fields) := by
      show Raises Invalid (rejectDuplicateKeys _ fields)
      unfold rejectDuplicateKeys
      exact raises_ite (raises_ok _) ((raises_error _).mpr rfl)
    have hraises := loadsStr_raises scannerErrors_invalid hhook
    exact raises_ite ((raises_error _).mpr rfl) ((raises_error _).mpr (hraises _ e he))
  · exact raises_ok _
  · exact (raises_error _).mpr rfl

/-- **Whatever a receipt raises makes it invalid.** -/
theorem raises_receiptOf (raw : Bytes) : Raises Invalid (receiptOf raw) := by
  unfold receiptOf verifyWorkReceipt
  refine raises_bind (raises_strictJson raw) fun envelope _ => ?_
  refine raises_bind (raises_bind (raises_verifyAndDecode _) fun _ _ => raises_ok _) fun _ _ => raises_ok _

end Receipts

end WorkEvidence
