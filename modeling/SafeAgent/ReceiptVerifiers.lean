/-
# The offline receipt verifier

`verify_receipt_content` turns a `GitHubReceiptError` into a result and lets every other
exception through; `verify_signed_receipt` raises a few of those before it has looked at
any signature.

* `CrashingReceipt`        : the payloads that make the checks raise something else;
* `escapes_verifySigned`   : **when an exception escapes**, for every text.
-/
import SafeAgent.AuditLog
import SafeAgent.MalformedAnswers

open PyText

namespace Receipt

open Json PyItems

@[simp] theorem recorded_invalidReceipt (message : String) : Recorded (invalidReceipt message) := rfl

/-! ## The payload -/

theorem raises_validateReceiptHeader {payload : JsonFields} :
    Raises Recorded (validateReceiptHeader payload) := by
  unfold validateReceiptHeader
  refine raises_ite (by simp) ?_
  split <;> simp

theorem raises_validateReceiptCommits {payload : JsonFields} :
    Raises Recorded (validateReceiptCommits payload) := by
  unfold validateReceiptCommits
  refine raises_bind raises_requireSha fun _ _ => raises_bind raises_requireSha fun _ _ => ?_
  split
  · simp
  · exact raises_bind raises_requireSha fun _ _ => raises_ok _
  · simp

theorem raises_validateReceiptCiCounts {payload : JsonFields} :
    Raises Recorded (validateReceiptCiCounts payload) :=
  raises_bind raises_requireCount fun _ _ => raises_bind raises_requireCount fun _ _ =>
    raises_bind raises_requireCount fun _ _ => raises_bind raises_requireCount fun _ _ =>
      raises_ite (by simp) (raises_ite (by simp) (raises_ok _))

theorem escapes_validateReceiptCi {payload : JsonFields} :
    Escapes Recorded (validateReceiptCi payload) ↔ (get payload (py "ci")).unhashable = true := by
  unfold validateReceiptCi
  rw [escapes_bind, escapes_inNames not_recorded_typeError]
  refine or_iff_left ?_
  rintro ⟨known, -, h⟩
  refine absurd h (Raises.not_escapes ?_)
  refine raises_ite (by simp) (raises_bind raises_validateReceiptCiCounts fun counts _ => ?_)
  exact raises_ite (by simp) (raises_ite (by simp) (raises_ite (by simp) (raises_ite (by simp)
    (raises_ok _))))

section Payload

variable [Platform]

/-- What the checks have found when they read `url`. -/
structure SubjectReached (payload : JsonFields) (repository : PyStr) (number : ℕ) : Prop where
  keys : hasKeys payload receiptPayloadKeys = true
  header : validateReceiptHeader payload = .ok ()
  repository_ok : parseRepository (get payload (py "repository")) = .ok repository
  number_ok : Protocol.asNat (get payload (py "pull_number")) = some number
  number_ne : number ≠ 0

/-- What the checks have found when they read `state`. -/
structure SubjectMatches (payload : JsonFields) (repository : PyStr) (number : ℕ) : Prop
    extends SubjectReached payload repository number where
  url : ∃ reference, parseUrlValue (get payload (py "url")) = .ok reference ∧
    reference.fullName = repository ∧ reference.number = number
  author : (get payload (py "author")).asStr.any isAuthor = true

/-- What the checks have found when they read `ci`. -/
structure CiReached (payload : JsonFields) : Prop where
  keys : hasKeys payload receiptPayloadKeys = true
  header : validateReceiptHeader payload = .ok ()
  subject : validateReceiptSubject payload = .ok ()
  commits : validateReceiptCommits payload = .ok ()

/-- A payload with a URL that cannot be split, or with an unhashable state or CI state. -/
def CrashingReceipt (payload : JsonFields) : Prop :=
  (∃ repository number, SubjectReached payload repository number ∧
      ∃ url, get payload (py "url") = .str url ∧ UnsplittableUrl url) ∨
    (∃ repository number, SubjectMatches payload repository number ∧
      (get payload (py "state")).unhashable = true) ∨
    (CiReached payload ∧ (get payload (py "ci")).unhashable = true)

theorem escapes_validateReceiptSubject {payload : JsonFields} :
    Escapes Recorded (validateReceiptSubject payload) ↔
      ∃ repository number, parseRepository (get payload (py "repository")) = .ok repository ∧
        Protocol.asNat (get payload (py "pull_number")) = some number ∧ number ≠ 0 ∧
        ((∃ url, get payload (py "url") = .str url ∧ UnsplittableUrl url) ∨
          (∃ reference, parseUrlValue (get payload (py "url")) = .ok reference ∧
            reference.fullName = repository ∧ reference.number = number) ∧
          (get payload (py "author")).asStr.any isAuthor = true ∧
          (get payload (py "state")).unhashable = true) := by
  unfold validateReceiptSubject
  rw [escapes_bind_of_raises raises_parseRepository]
  refine exists_congr fun repository => ?_
  rw [escapes_bind_of_raises raises_requireCount, ← exists_and_left]
  refine exists_congr fun number => ?_
  rw [requireCount_eq_ok, escapes_check (recorded_invalidReceipt _), escapes_bind,
    escapes_parseUrlValue recorded_invalidUrl fun e => not_recorded_valueError]
  refine and_congr_right fun _ => and_congr_right fun _ => and_congr_right fun _ =>
    or_congr_right ?_
  constructor
  · rintro ⟨reference, hurl, h⟩
    rw [escapes_check (recorded_invalidReceipt _), escapes_check (recorded_invalidReceipt _),
      escapes_bind, escapes_inNames not_recorded_typeError, not_or, not_not, not_not,
      Bool.not_eq_false] at h
    obtain ⟨hsame, hauthor, hstate | ⟨known, -, h⟩⟩ := h
    · exact ⟨⟨reference, hurl, hsame⟩, hauthor, hstate⟩
    · refine absurd h (Raises.not_escapes ?_)
      exact raises_ite (by simp) (raises_ite (by simp) (raises_ok _))
  · rintro ⟨⟨reference, hurl, hsame⟩, hauthor, hstate⟩
    refine ⟨reference, hurl, ?_⟩
    rw [escapes_check (recorded_invalidReceipt _), escapes_check (recorded_invalidReceipt _),
      escapes_bind, escapes_inNames not_recorded_typeError, not_or, not_not, not_not,
      Bool.not_eq_false]
    exact ⟨hsame, hauthor, Or.inl hstate⟩

theorem escapes_validateReceiptPayload {payload : JsonFields} :
    Escapes Recorded (validateReceiptPayload payload) ↔ CrashingReceipt payload := by
  unfold validateReceiptPayload
  rw [escapes_check (recorded_invalidReceipt _), not_not,
    escapes_bind_of_raises raises_validateReceiptHeader]
  have htimes : ∀ {a b : Json}, Raises Recorded (do
      let _ ← requireTimestamp a "receipt source timestamp"
      let _ ← requireTimestamp b "receipt observation timestamp"
      return ()) := by
    intro a b
    exact raises_bind raises_requireTimestamp fun _ _ =>
      raises_bind raises_requireTimestamp fun _ _ => raises_ok _
  constructor
  · rintro ⟨hkeys, ⟨⟩, hheader, h⟩
    rw [escapes_bind, escapes_validateReceiptSubject] at h
    rcases h with ⟨repository, number, hrepository, hnumber, hne, h⟩ | ⟨⟨⟩, hsubject, h⟩
    · have hreached : SubjectReached payload repository number :=
        ⟨hkeys, hheader, hrepository, hnumber, hne⟩
      rcases h with hurl | ⟨hurl, hauthor, hstate⟩
      · exact Or.inl ⟨repository, number, hreached, hurl⟩
      · exact Or.inr (Or.inl ⟨repository, number, ⟨hreached, hurl, hauthor⟩, hstate⟩)
    rw [escapes_bind_of_raises raises_validateReceiptCommits] at h
    obtain ⟨⟨⟩, hcommits, h⟩ := h
    rw [escapes_bind, escapes_validateReceiptCi] at h
    rcases h with hci | ⟨⟨⟩, -, h⟩
    · exact Or.inr (Or.inr ⟨⟨hkeys, hheader, hsubject, hcommits⟩, hci⟩)
    · exact absurd h htimes.not_escapes
  · rintro (⟨repository, number, hreached, hurl⟩ | ⟨repository, number, hmatches, hstate⟩ |
      ⟨hreached, hci⟩)
    · refine ⟨hreached.keys, (), hreached.header, escapes_bind.mpr (Or.inl ?_)⟩
      exact escapes_validateReceiptSubject.mpr ⟨repository, number, hreached.repository_ok,
        hreached.number_ok, hreached.number_ne, Or.inl hurl⟩
    · refine ⟨hmatches.keys, (), hmatches.header, escapes_bind.mpr (Or.inl ?_)⟩
      exact escapes_validateReceiptSubject.mpr ⟨repository, number, hmatches.repository_ok,
        hmatches.number_ok, hmatches.number_ne, Or.inr ⟨hmatches.url, hmatches.author, hstate⟩⟩
    · refine ⟨hreached.keys, (), hreached.header, escapes_bind.mpr (Or.inr ⟨(), hreached.subject, ?_⟩)⟩
      refine escapes_bind.mpr (Or.inr ⟨(), hreached.commits, escapes_bind.mpr (Or.inl ?_)⟩)
      exact escapes_validateReceiptCi.mpr hci

/-! ## The text -/

/-- A text that is nested too deep, or that carries such a payload. -/
def CrashingText (text : PyStr) : Prop :=
  loadsStr Protocol.jsonReader text = .error nestedTooDeep ∨
    ∃ wrapper payload, loadsStr Protocol.jsonReader text = .ok (.obj wrapper) ∧
      hasKeys wrapper receiptKeys = true ∧ get wrapper (py "payload") = .obj payload ∧
      CrashingReceipt payload

theorem escapes_decodeReceipt {text : PyStr} :
    Escapes Recorded (decodeReceipt (.text text)) ↔
      loadsStr Protocol.jsonReader text = .error nestedTooDeep := by
  have hscanner : ScannerErrors fun e => e.isa .valueError = true ∨ e = nestedTooDeep :=
    { decode := fun message => Or.inl rfl
      tooLong := Or.inl rfl
      tooDeep := Or.inr rfl
      utf8 := Or.inl rfl }
  have hraises := loadsStr_raises hscanner (r := Protocol.jsonReader) (fun _ => raises_ok _) text
  simp only [decodeReceipt]
  cases hloads : loadsStr Protocol.jsonReader text with
  | ok j => exact iff_of_false (escapes_ok j) (by rintro ⟨⟩)
  | error e =>
      rw [escapes_ite, escapes_error, escapes_error, Except.error.injEq]
      constructor
      · rintro (⟨-, h⟩ | ⟨hother, -⟩)
        · exact absurd (recorded_invalidReceipt _) h
        · exact (hraises e hloads).resolve_left hother
      · rintro rfl
        exact Or.inr ⟨by decide, Bool.false_ne_true⟩

theorem decodeReceipt_eq_ok {text : PyStr} {j : Json} :
    decodeReceipt (.text text) = .ok j ↔ loadsStr Protocol.jsonReader text = .ok j := by
  simp only [decodeReceipt]
  cases loadsStr Protocol.jsonReader text with
  | ok j' => exact Iff.rfl
  | error e =>
      refine iff_of_false ?_ (by rintro ⟨⟩)
      dsimp only
      split_ifs
      · rintro ⟨⟩
      · rintro ⟨⟩

/-- The integers of a decoded text can be written, so its canonical form exists. -/
theorem canonicalJson_of_loads {text : PyStr} {wrapper payload : JsonFields}
    (h : loadsStr Protocol.jsonReader text = .ok (.obj wrapper))
    (hpayload : get wrapper (py "payload") = .obj payload) :
    ∃ octets, canonicalJson payload = .ok octets := by
  have hfit := intsFit_get (loadsStr_intsFit (hookKeepsMembers_dict rfl) h) (py "payload")
  rw [hpayload] at hfit
  exact ⟨toAscii (canonical (.obj payload)), by rw [canonicalJson, dumps, if_pos hfit]; rfl⟩

/-- **When an exception escapes from `verify_signed_receipt`.** -/
theorem escapes_verifySigned {text : PyStr} :
    Escapes Recorded (verifySignedReceipt (.text text)) ↔ CrashingText text := by
  unfold verifySignedReceipt CrashingText
  rw [escapes_bind, escapes_decodeReceipt]
  refine or_congr_right ?_
  constructor
  · rintro ⟨decoded, hdecoded, h⟩
    rw [decodeReceipt_eq_ok] at hdecoded
    split at h
    · exact absurd (recorded_invalidReceipt _) ((escapes_error _).mp h)
    rename_i wrapper hwrapper
    rw [Option.filter_eq_some_iff] at hwrapper
    obtain rfl := Audit.eq_obj_of_asObj hwrapper.1
    split at h
    · exact absurd (recorded_invalidReceipt _) ((escapes_error _).mp h)
    rename_i payload hpayload
    refine ⟨wrapper, payload, hdecoded, hwrapper.2, Audit.eq_obj_of_asObj hpayload, ?_⟩
    rw [escapes_bind, escapes_validateReceiptPayload] at h
    rcases h with h | ⟨⟨⟩, -, h⟩
    · exact h
    obtain ⟨octets, hoctets⟩ := canonicalJson_of_loads hdecoded (Audit.eq_obj_of_asObj hpayload)
    rw [hoctets, escapes_ok_bind, escapes_check (recorded_invalidReceipt _),
      escapes_check (recorded_invalidReceipt _)] at h
    exact absurd h.2.2 (escapes_ok _)
  · rintro ⟨wrapper, payload, hdecoded, hkeys, hpayload, hcrash⟩
    refine ⟨.obj wrapper, decodeReceipt_eq_ok.mpr hdecoded, ?_⟩
    simp only [asObj, Option.filter_some, hkeys, if_true, hpayload]
    exact escapes_bind.mpr (Or.inl (escapes_validateReceiptPayload.mpr hcrash))

end Payload

end Receipt
