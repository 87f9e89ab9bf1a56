/-
# Reloading a configuration (`config.py`)

A configuration is written as one line of ASCII, and read back.

* `configText`, `readConfigText` : the text of the file, and `load` of a text;
* `Storable`                     : what the text can hold;
* `reload_iff`                   : **when a configuration is read back from the text that is written**;
* `config_reloads`               : what was loaded is loaded again, pending or activated.
-/
import SafeAgent.ProvisionRecovery
import SafeAgent.StateReload

open PyText

namespace AgentConfig

open Json PyItems

/-- What the text can hold: the base URL and the time are without surrogate pairs, which JSON text does
not tell from the characters that they encode, and the sequence number can be written. -/
structure Storable (c : AgentConfig) : Prop where
  baseUrl : Unpaired c.baseUrl
  createdAt : Unpaired c.createdAt
  sequence : ∀ n, c.provisionedSeq = some n → AgentState.NumberFits n

/-- The text that `_atomic_json_write` writes. -/
def configText (c : AgentConfig) : PyResult PyStr :=
  if intsFit c.toPayload then .ok (render c.toPayload ++ [10]) else .error intTooLong

/-! ## What goes into the file -/

theorem isAscii_of_printable {s : PyStr} (h : ∀ c ∈ s, 32 ≤ c ∧ c < 127) : ∀ c ∈ s, isAscii c = true := by
  intro c hc
  have hrange := h c hc
  exact decide_eq_true (by omega)

theorem isAscii_of_isRoom {s : PyStr} (h : Crypto.isRoom s = true) : ∀ c ∈ s, isAscii c = true := by
  unfold Crypto.isRoom at h
  split at h
  · cases h
  rename_i c rest
  simp only [Bool.and_eq_true, decide_eq_true_eq, List.all_eq_true] at h
  have hstart (d : ℕ) (hd : Crypto.isRoomStart d = true) : isAscii d = true := by
    simp only [Crypto.isRoomStart, isLower, isDigit, Bool.or_eq_true, Bool.and_eq_true,
      decide_eq_true_eq] at hd
    exact decide_eq_true (by omega)
  refine List.forall_mem_cons.mpr ⟨hstart c h.1.1, fun d hd => ?_⟩
  have hchar := h.2 d hd
  simp only [Crypto.isRoomChar, Bool.or_eq_true, beq_iff_eq] at hchar
  rcases hchar with (hchar | rfl) | rfl
  · exact hstart d hchar
  · decide
  · decide

section Payload

variable {S F : PyStr → Prop} {c : AgentConfig}

/-- A nonce is a text of digits, or a number that can be written. -/
theorem within_provisionNonce (hascii : ∀ t, (∀ d ∈ t, isAscii d = true) → S t) (c : AgentConfig) :
    Within S F c.provisionNonce := by
  have hok := c.nonce_ok
  unfold Crypto.validateNonce at hok
  split at hok
  · rename_i nonce hnonce
    rw [hnonce]
    split_ifs at hok with hdigits
    · simp only [Crypto.isNonce, Bool.and_eq_true, List.all_eq_true] at hdigits
      exact hascii nonce fun d hd => isAscii_of_isDigit (hdigits.2 d hd)
    · cases hok
  · rename_i n hint
    rw [hint]
    split_ifs at hok with hfits hdigits
    · exact hfits
    · cases hok
    · cases hok
  · cases hok

/-- The object that is written holds the base URL and the time, and no other strings than ASCII. -/
theorem within_toPayload (hascii : ∀ t, (∀ d ∈ t, isAscii d = true) → S t)
    (hfingerprint : Crypto.fingerprintOfDid c.did = .ok c.fingerprint) (hbaseUrl : S c.baseUrl)
    (hcreatedAt : S c.createdAt)
    (hsequence : ∀ n, c.provisionedSeq = some n → AgentState.NumberFits n) : Within S F c.toPayload := by
  have hfingerprintAscii : ∀ d ∈ c.fingerprint, isAscii d = true := by
    obtain ⟨did, -, hfingerprint⟩ := PyResult.bind_ok hfingerprint
    split at hfingerprint
    · rw [← Except.ok.inj hfingerprint]
      exact fun d hd => isAscii_of_isHexLower (Sha256.isHexLower_of_mem_sha256Hex (List.mem_of_mem_take hd))
    · cases hfingerprint
  have hstatus : ∀ d ∈ statusToken c.status, isAscii d = true := by cases c.status <;> decide
  have hseq : Within S F (sequencePayload c.provisionedSeq) := by
    cases hprovisioned : c.provisionedSeq with
    | none => trivial
    | some n => exact hsequence n hprovisioned
  rw [toPayload, Within]
  refine ⟨?_, withinFields_iff.mpr ?_⟩
  · show (requiredKeys ++ [py "provisioned_seq"]).Nodup
    decide
  · simp only [payloadFields, List.forall_mem_cons, List.not_mem_nil, false_implies, implies_true, and_true]
    exact ⟨⟨hascii _ (by decide), hascii _ (by decide)⟩,
      ⟨hascii _ (by decide), hascii _ (isAscii_of_printable (Provision.printable_of_isAgentName c.name_ok).2)⟩,
      ⟨hascii _ (by decide), hascii _ (Audit.isAscii_of_isDid c.did_ok)⟩,
      ⟨hascii _ (by decide), hascii _ hfingerprintAscii⟩,
      ⟨hascii _ (by decide), hascii _ (isAscii_of_isRoom c.room_ok)⟩,
      ⟨hascii _ (by decide), hbaseUrl⟩, ⟨hascii _ (by decide), hascii _ hstatus⟩,
      ⟨hascii _ (by decide), hcreatedAt⟩, ⟨hascii _ (by decide), within_provisionNonce hascii c⟩,
      hascii _ (by decide), hseq⟩

/-- The object can be written when its sequence number can. -/
theorem intsFit_toPayload : intsFit c.toPayload = true ↔
    ∀ n, c.provisionedSeq = some n → AgentState.NumberFits n := by
  have hnonce : intsFit c.provisionNonce = true := by
    have hwithin : Within (fun _ => True) (fun _ => True) c.provisionNonce :=
      within_provisionNonce (fun _ _ => trivial) c
    obtain ⟨nonce, h⟩ | ⟨n, h⟩ := Provision.nonce_cases c
    · rw [h, intsFit]
    · rw [h, Within] at hwithin
      rw [h, intsFit]
      exact decide_eq_true hwithin
  have hseq : intsFit (sequencePayload c.provisionedSeq) = true ↔
      ∀ n, c.provisionedSeq = some n → AgentState.NumberFits n := by
    cases c.provisionedSeq with
    | none => exact iff_of_true rfl fun _ h => absurd h (by simp)
    | some n => simp [sequencePayload, intsFit, AgentState.NumberFits]
  simp only [toPayload, intsFit, payloadFields, intsFitFields, hnonce, Bool.true_and, Bool.and_true, hseq]

theorem depth_toPayload (c : AgentConfig) : depth c.toPayload ≤ 1 := by
  have hnonce : depth c.provisionNonce = 0 := by
    obtain ⟨nonce, h⟩ | ⟨n, h⟩ := Provision.nonce_cases c
    · rw [h, depth]
    · rw [h, depth]
  have hseq : depth (sequencePayload c.provisionedSeq) = 0 := by cases c.provisionedSeq <;> rfl
  have hfields : depthFields c.payloadFields ≤ 0 := by
    rw [depthFields_le_iff]
    simp only [payloadFields, List.forall_mem_cons, List.not_mem_nil, false_implies, implies_true, and_true,
      depth, hnonce, hseq, le_refl]
  rw [toPayload, depth]
  omega

end Payload

/-! ## What comes out of a file -/

theorem within_get {S F : PyStr → Prop} {fields : JsonFields} (h : WithinFields S F fields) (key : PyStr) :
    Within S F (get fields key) := AgentState.within_lookup h key trivial

theorem numberFits_of_checkSequence {value : Json} {found : { seq : Option ℕ // ∀ n, seq = some n → 0 < n }}
    (hfit : intsFit value = true) (h : checkSequence value = .ok found) :
    ∀ n, found.1 = some n → AgentState.NumberFits n := by
  unfold checkSequence at h
  split at h
  · cases h
    exact nofun
  · cases h
    rintro n ⟨⟩
    rw [intsFit, decide_eq_true_eq] at hfit
    exact hfit
  · cases h

theorem eq_str_of_asStr {value : Json} {s : PyStr} (h : value.asStr = some s) : value = .str s := by
  cases value <;> simp_all [asStr]

theorem checkCreated_ok {value : Json} {found : { createdAt : PyStr // createdAt ≠ [] }}
    (h : checkCreated value = .ok found) : value = .str found.1 := by
  unfold checkCreated at h
  split at h
  · rename_i createdAt hstr
    split_ifs at h
    cases h
    exact eq_str_of_asStr hstr
  · cases h

section Text

variable [Platform]

theorem checkBaseUrl_ok {value : Json} {baseUrl : PyStr} (h : checkBaseUrl value = .ok baseUrl) :
    value = .str baseUrl := by
  unfold checkBaseUrl at h
  split at h
  · rename_i text hstr
    obtain ⟨_, -, h⟩ := PyResult.bind_ok h
    cases h
    exact eq_str_of_asStr hstr
  · cases h

/-- **What is loaded can be stored.** -/
theorem storable_of_fromPayload {j : Json} {c : AgentConfig} (hfit : intsFit j = true)
    (hwithin : WithinText j) (h : fromPayload j = .ok c) : c.Storable := by
  unfold fromPayload at h
  split at h
  · cases h
  rename_i fields hfields
  obtain rfl : j = .obj fields := by
    cases j <;> simp_all [asObj]
  rw [WithinText, Within] at hwithin
  split_ifs at h
  unfold validate at h
  split_ifs at h
  obtain ⟨name, -, h⟩ := PyResult.bind_eq_ok.mp h
  obtain ⟨did, -, h⟩ := PyResult.bind_eq_ok.mp h
  obtain ⟨room, -, h⟩ := PyResult.bind_eq_ok.mp h
  obtain ⟨baseUrl, hbaseUrl, h⟩ := PyResult.bind_eq_ok.mp h
  obtain ⟨status, -, h⟩ := PyResult.bind_eq_ok.mp h
  obtain ⟨fingerprint, -, h⟩ := PyResult.bind_eq_ok.mp h
  split_ifs at h
  obtain ⟨createdAt, hcreatedAt, h⟩ := PyResult.bind_eq_ok.mp h
  obtain ⟨nonce, -, h⟩ := PyResult.bind_eq_ok.mp h
  obtain ⟨seq, hseq, h⟩ := PyResult.bind_eq_ok.mp h
  split_ifs at h
  cases h
  have hbaseUrlText := within_get hwithin.2 (py "base_url")
  rw [checkBaseUrl_ok hbaseUrl] at hbaseUrlText
  have hcreatedText := within_get hwithin.2 (py "created_at")
  rw [checkCreated_ok hcreatedAt] at hcreatedText
  have hseqFits : intsFit (get fields (py "provisioned_seq")) = true := AgentState.intsFit_lookup hfit _ rfl
  exact ⟨hbaseUrlText, hcreatedText, numberFits_of_checkSequence hseqFits hseq⟩

/-! ## Reloading -/

/-- `load` on the text of the file. -/
def readConfigText (text : PyStr) : PyResult AgentConfig :=
  match loadsStr Protocol.jsonReader text with
  | .error e =>
      .error (if e.isa .jsonDecodeError then configError ("cannot read agent config: " ++ e.message) else e)
  | .ok payload => fromPayload payload

/-- `AgentConfig.load` of the file that was written. -/
def reload (c : AgentConfig) : PyResult AgentConfig := do
  let text ← c.configText
  readConfigText text

/-- What a text without surrogates is read as. -/
theorem storable_of_readConfigText {text : PyStr} {c : AgentConfig} (htext : Scalars text)
    (h : readConfigText text = .ok c) : c.Storable ∧ c.Valid := by
  unfold readConfigText at h
  split at h
  · cases h
  rename_i payload hpayload
  refine ⟨storable_of_fromPayload (loadsStr_intsFit (hookKeepsMembers_dict rfl) hpayload)
    (loadsStr_within (hookKeepsMembers_dict rfl) htext hpayload) h, valid_of_fromPayload h⟩

/-- The text of a configuration is ASCII. -/
theorem scalars_configText {c : AgentConfig} (hvalid : c.Valid) {text : PyStr}
    (h : c.configText = .ok text) : Scalars text := by
  unfold configText at h
  split_ifs at h with hfit
  cases h
  have hwithin : Within (fun _ => True) (KeepsZero Protocol.jsonReader) c.toPayload :=
    within_toPayload (fun _ _ => trivial) hvalid.fingerprint trivial trivial (intsFit_toPayload.mp hfit)
  refine List.forall_mem_append.mpr ⟨fun d hd => ?_, by decide⟩
  have hprintable := printable_render_within _ hwithin d hd
  exact isScalar_of_isAscii (decide_eq_true (by omega))

/-- **When a configuration can be reloaded.** -/
theorem reload_iff {c : AgentConfig} (hvalid : c.Valid) : c.reload = .ok c ↔ c.Storable := by
  constructor
  · intro hreload
    obtain ⟨text, htext, hread⟩ := PyResult.bind_ok hreload
    exact (storable_of_readConfigText (scalars_configText hvalid htext) hread).1
  · intro hs
    have hunpaired (t : PyStr) (ht : ∀ d ∈ t, isAscii d = true) : Unpaired t :=
      unpaired_of_scalars fun d hd => isScalar_of_isAscii (ht d hd)
    have hwithin : Within Unpaired (KeepsZero Protocol.jsonReader) c.toPayload :=
      within_toPayload hunpaired hvalid.fingerprint hs.baseUrl hs.createdAt hs.sequence
    have hdepth : depth c.toPayload ≤ Platform.recursionLimit :=
      (depth_toPayload c).trans (le_trans (by decide) Platform.two_le_recursionLimit)
    have hload : loadsStr Protocol.jsonReader (render c.toPayload ++ [10]) = .ok c.toPayload :=
      loadsStr_render_within spelling_unpaired (hookKeeps_dict rfl) hwithin hdepth
        (numberEnds_cons (by decide)) rfl
    have hfit : intsFit c.toPayload = true := intsFit_toPayload.mpr hs.sequence
    rw [reload, configText, if_pos hfit]
    show readConfigText _ = _
    rw [readConfigText, hload]
    exact fromPayload_toPayload hvalid

/-- **What was loaded is loaded again** once it is written; and so is what activation makes of it, exactly
where the sequence number can be written. -/
theorem config_reloads {text : PyStr} {config : AgentConfig} (htext : Scalars text)
    (h : readConfigText text = .ok config) : config.reload = .ok config ∧ ∀ sequence hpos,
      (Provision.activeConfig config sequence hpos).reload =
          .ok (Provision.activeConfig config sequence hpos) ↔ AgentState.NumberFits sequence := by
  obtain ⟨hstorable, hvalid⟩ := storable_of_readConfigText htext h
  refine ⟨(reload_iff hvalid).mpr hstorable, fun sequence hpos => ?_⟩
  have hactive : (Provision.activeConfig config sequence hpos).Valid := ⟨hvalid.fingerprint, hvalid.baseUrl⟩
  rw [reload_iff hactive]
  constructor
  · exact fun hs => hs.sequence sequence rfl
  · exact fun hfits => ⟨hstorable.baseUrl, hstorable.createdAt, fun n hn => Option.some.inj hn ▸ hfits⟩

end Text

end AgentConfig

namespace Sample

theorem fingerprint_did : Crypto.fingerprintOfDid did = .ok (py "90ecf6764eee6594") := by decide +kernel

theorem isOk_baseUrl : (TechnocoreClient.validateBaseUrl client.baseUrl).isOk = true := by decide +kernel

/-- A pending configuration that was written is activated at the seventh record. -/
theorem config_reloads_pending :
    (Provision.activeConfig pendingConfig 7 (Nat.succ_pos 6)).reload =
      .ok (Provision.activeConfig pendingConfig 7 (Nat.succ_pos 6)) := by
  have hvalid : pendingConfig.Valid := ⟨fingerprint_did, isOk_baseUrl⟩
  have hstorable : pendingConfig.Storable := ⟨by decide +kernel, by decide +kernel, nofun⟩
  obtain ⟨text, htext, hread⟩ := PyResult.bind_ok ((AgentConfig.reload_iff hvalid).mpr hstorable)
  have hscalars := AgentConfig.scalars_configText hvalid htext
  have hfits : (decimal 7).length ≤ Json.maxStrDigits := by decide
  exact ((AgentConfig.config_reloads hscalars hread).2 7 (Nat.succ_pos 6)).mpr hfits

end Sample
