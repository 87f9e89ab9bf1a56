/-
# The text of a receipt

`render_signed_receipt` writes a receipt as one line of printable ASCII, and
`verify_signed_receipt` reads it back with its keys in another order.

* `validateReceiptPayload_congr` : the checks see keys and values, not their order;
* `sweepText_render`             : the sweep of a room changes nothing in the text;
* `verify_renderedText`          : **the text verifies**, and returns the payload.
-/
import SafeAgent.ReceiptVerifiers

open PyText

namespace Receipt

open Json PyItems

/-! ## The order of the keys -/

/-- A value that was sorted is read as before. -/
theorem get_sortKeys_scalar {fields : JsonFields} (hnodup : (keys fields).Nodup)
    (hscalar : ∀ kv ∈ fields, Audit.Scalar kv.2) (key : PyStr) :
    get (sortByKey (sortKeysFields fields)) key = get fields key := by
  have hvalue : Audit.Scalar (get fields key) := get_of_forall trivial hscalar key
  rw [get_sorted hnodup, hvalue.sortKeys]

section Platform

variable [Platform]

/-- The checks see a payload through its keys and the values they map to. -/
theorem validateReceiptPayload_congr {p q : JsonFields}
    (hkeys : hasKeys p receiptPayloadKeys = hasKeys q receiptPayloadKeys)
    (hget : ∀ key, get p key = get q key) : validateReceiptPayload p = validateReceiptPayload q := by
  simp only [validateReceiptPayload, validateReceiptHeader, validateReceiptSubject,
    validateReceiptCommits, validateReceiptCi, validateReceiptCiCounts, hkeys, hget]

omit [Platform] in
theorem canonicalJson_sorted (fields : JsonFields) :
    canonicalJson (sortByKey (sortKeysFields fields)) = canonicalJson fields := by
  have hdumps := dumps_sortKeys (.obj fields)
  rw [sortKeys] at hdumps
  rw [canonicalJson, canonicalJson, hdumps]

/-! ## The sweep -/

omit [Platform] in
/-- The later items of an object end with its brace. -/
theorem renderFields_end (fields : JsonFields) : ∃ inner, renderFields fields = inner ++ [125] := by
  induction fields with
  | nil => exact ⟨[], rfl⟩
  | cons kv rest ih =>
      obtain ⟨key, value⟩ := kv
      obtain ⟨inner, hinner⟩ := ih
      refine ⟨44 :: (renderStr key ++ 58 :: (render value ++ inner)), ?_⟩
      rw [renderFields, hinner]
      simp only [List.cons_append, List.append_assoc]

omit [Platform] in
/-- The text of an object stands between two braces. -/
theorem render_braces (fields : JsonFields) :
    ∃ inner, render (.obj fields) = 123 :: inner ++ [125] := by
  cases fields with
  | nil => exact ⟨[], rfl⟩
  | cons kv rest =>
      obtain ⟨key, value⟩ := kv
      obtain ⟨inner, hinner⟩ := renderFields_end rest
      refine ⟨renderStr key ++ 58 :: (render value ++ inner), ?_⟩
      rw [render, hinner]
      simp only [List.cons_append, List.append_assoc]

/-- **The sweep of a room changes nothing** in the text of a plain object. -/
theorem sweepText_render {fields : JsonFields} (hplain : Plain (.obj fields))
    (hlength : (render (.obj fields)).length ≤ 4096) :
    Crypto.sweepText (render (.obj fields)) = .ok (render (.obj fields)) := by
  obtain ⟨inner, hinner⟩ := render_braces fields
  have hprintable := printable_render _ hplain
  rw [hinner] at hprintable hlength ⊢
  exact Crypto.sweepText_of_printable hprintable (by decide) (by decide) hlength

/-! ## Reading the text -/

/-- A text that decodes to a value is verified as that value. -/
theorem verifySignedReceipt_text {text : PyStr} {j : Json}
    (h : loadsStr Protocol.jsonReader text = .ok j) :
    verifySignedReceipt (.text text) = verifySignedReceipt (.value j) := by
  have hdecode : decodeReceipt (.text text) = decodeReceipt (.value j) := by
    rw [decodeReceipt_eq_ok.mpr h]
    rfl
  rw [verifySignedReceipt, verifySignedReceipt, hdecode]

/-- What makes up the wrapper of a receipt. -/
def receiptFields (payload : JsonFields) (canonical : Bytes) (signature : PyStr) : JsonFields :=
  [(py "payload", .obj payload), (py "payload_sha256", .str (Sha256.sha256Hex canonical)),
    (py "signature", .str signature)]

/-- **The text of a receipt verifies**, and returns the payload: a wrapper around a plain
payload is read back with its keys sorted, and verifies as before. -/
theorem verify_renderedText {payload : JsonFields} {canonical : Bytes} {issuer signature : PyStr}
    (hplain : Plain (.obj (receiptFields payload canonical signature)))
    (hscalar : ∀ kv ∈ payload, Audit.Scalar kv.2) (hvalid : validateReceiptPayload payload = .ok ())
    (hcanonical : canonicalJson payload = .ok canonical)
    (hissuer : get payload (py "issuer") = .str issuer)
    (hmatch : Crypto.verifyDetachedSignature issuer canonical signature = true) :
    ∃ read, verifySignedReceipt
        (.text (Json.canonical (.obj (receiptFields payload canonical signature)))) = .ok read ∧
      SameValue (.obj read) (.obj payload) := by
  have hwrapperKeys : (keys (receiptFields payload canonical signature)).Nodup := hplain.1
  have hpayloadKeys : (keys payload).Nodup := (plainFields_iff.mp hplain.2 (py "payload", .obj payload)
    List.mem_cons_self).2.1
  have hdepth : depth (.obj (receiptFields payload canonical signature)) ≤
      Protocol.jsonReader.depthLimit := by
    have hpayload : depthFields payload ≤ 0 := depthFields_le_iff.mpr fun kv hkv =>
      (hscalar kv hkv).depth.le
    refine le_trans ?_ Platform.two_le_recursionLimit
    simp only [receiptFields, depth, depthFields]
    omega
  -- what is read has its keys sorted, which no check sees
  have hloads : loadsStr Protocol.jsonReader
      (Json.canonical (.obj (receiptFields payload canonical signature))) =
        .ok (sortKeys (.obj (receiptFields payload canonical signature))) :=
    loadsStr_render (hookKeeps_dict rfl) (plain_sortKeys _ hplain) ((depth_sortKeys _).trans hdepth)
  have hget : ∀ key, get (sortByKey (sortKeysFields payload)) key = get payload key :=
    get_sortKeys_scalar hpayloadKeys hscalar
  refine ⟨sortByKey (sortKeysFields payload), ?_, sortKeys_idem (.obj payload)⟩
  rw [verifySignedReceipt_text hloads, sortKeys]
  refine verifySignedReceipt_value ?_ ?_ ?_ ?_ ?_ ?_ ?_ hmatch
  · rw [hasKeys_sorted]
    rfl
  · rw [get_sorted hwrapperKeys]
    rfl
  · rw [← hvalid]
    exact validateReceiptPayload_congr (hasKeys_sorted payload _) hget
  · rw [canonicalJson_sorted, hcanonical]
  · rw [get_sorted hwrapperKeys]
    rfl
  · rw [hget, hissuer]
  · rw [get_sorted hwrapperKeys]
    rfl

end Platform

end Receipt
