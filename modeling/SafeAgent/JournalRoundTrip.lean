/-
# The journal and what is signed (`delivery.py`)

Signing, creating a record, writing it and reading it back each check the text, the nonce
and the digests again.  They agree on every text that can be signed.

* `sweepText_idem`       : a swept text is swept already;
* `create_of_sign`       : a record can be created for whatever was signed;
* `fromPayload_accepted` : its payload is accepted, and is that record;
* `journal_round_trip`   : **a signed envelope can be written, read back and acknowledged**.
-/
import SafeAgent.AuditLog
import SafeAgent.Sample
import SafeAgent.StateReload

open PyText

/-! ## The sweep -/

namespace PyText

/-- Stripping twice is stripping once. -/
theorem strip_strip (s : PyStr) : strip (strip s) = strip s := by
  have hdrop : ∀ t : PyStr, (t.dropWhile isSpace).dropWhile isSpace = t.dropWhile isSpace := by
    intro t
    induction t with
    | nil => rfl
    | cons c t ih =>
        by_cases hc : isSpace c = true
        · rw [List.dropWhile_cons_of_pos hc, ih]
        · rw [List.dropWhile_cons_of_neg hc, List.dropWhile_cons_of_neg hc]
  -- what is left after both ends starts with the first character that is no space
  have hfront : (strip s).dropWhile isSpace = strip s := by
    obtain ⟨back, hback⟩ := List.dropWhile_suffix isSpace (l := (s.dropWhile isSpace).reverse)
    have hsplit : s.dropWhile isSpace = strip s ++ back.reverse := by
      rw [strip, ← List.reverse_append, hback, List.reverse_reverse]
    cases hstrip : strip s with
    | nil => rfl
    | cons c t =>
        have hkept := hdrop s
        rw [hsplit, hstrip, List.cons_append] at hkept
        by_cases hc : isSpace c = true
        · rw [List.dropWhile_cons_of_pos hc] at hkept
          have hlength := congrArg List.length hkept
          have hle := (List.dropWhile_suffix isSpace (l := t ++ back.reverse)).length_le
          rw [List.length_cons] at hlength
          omega
        · exact List.dropWhile_cons_of_neg hc
  rw [strip, hfront]
  conv_lhs => rw [strip, List.reverse_reverse, hdrop]
  rfl

end PyText

namespace Crypto

variable [Platform]

/-- **A swept text is swept already.** -/
theorem sweepText_idem {text swept : PyStr} (h : sweepText text = .ok swept) :
    sweepText swept = .ok swept := by
  unfold sweepText at h
  dsimp only at h
  split_ifs at h with hempty hlong
  cases h
  have hvisible : ∀ c ∈ strip (text.map fun c => if Platform.invisible c then 32 else c),
      Platform.invisible c = false := by
    intro c hc
    have hmem : c ∈ text.map fun c => if Platform.invisible c then 32 else c := by
      unfold strip at hc
      exact (List.dropWhile_suffix isSpace).subset (List.mem_reverse.mp
        ((List.dropWhile_suffix isSpace).subset (List.mem_reverse.mp hc)))
    obtain ⟨d, -, rfl⟩ := List.mem_map.mp hmem
    by_cases hd : Platform.invisible d = true
    · rw [if_pos hd]
      exact Platform.visible_of_printable 32 (by decide)
    · rw [if_neg hd]
      simpa using hd
  have hmap : (strip (text.map fun c => if Platform.invisible c then 32 else c)).map
      (fun c => if Platform.invisible c then 32 else c) =
        strip (text.map fun c => if Platform.invisible c then 32 else c) := by
    conv_rhs => rw [← List.map_id (strip (text.map fun c => if Platform.invisible c then 32 else c))]
    refine List.map_congr_left fun c hc => ?_
    rw [hvisible c hc]
    rfl
  unfold sweepText
  dsimp only
  rw [hmap, strip_strip, if_neg hempty, if_neg hlong]

end Crypto

namespace Crypto

/-- A nonce of at most 19 digits is sent as its digits. -/
theorem validateNonce_of_le {n : ℕ} (h : n ≤ AgentState.maxNonce) :
    validateNonce (.int n) = .ok (decimal n) := by
  have hlength : (decimal n).length ≤ 19 := by
    rw [length_decimal_le_iff (by decide)]
    exact lt_of_le_of_lt h (by decide)
  have hfits : (decimal (Int.natAbs n)).length ≤ Json.maxStrDigits := by
    rw [Int.natAbs_natCast]
    exact hlength.trans (by decide)
  have hdecimal : decimalInt n = decimal n := by
    rw [decimalInt, if_neg (by omega), Int.natAbs_natCast]
  have hnonce : isNonce (decimal n) = true := by
    have hpos : 1 ≤ (decimal n).length := List.length_pos_iff.mpr (decimal_ne_nil n)
    simp only [isNonce, Bool.and_eq_true, decide_eq_true_eq, List.all_eq_true]
    exact ⟨⟨hpos, hlength⟩, fun c hc => isDigit_of_mem_decimal hc⟩
  simp only [validateNonce, hdecimal, if_pos hfits, if_pos hnonce]

end Crypto

/-! ## Records -/

namespace DeliveryRecord

open Json PyItems

/-- What the checks of a journal want of a record's fields. -/
structure Accepted [Platform] (r : DeliveryRecord) : Prop where
  room_ok : isSha256 r.roomSha256 = true
  did_ok : Crypto.isDid r.did = true
  nonce_ok : r.nonce ≤ AgentState.maxNonce
  text_ok : Crypto.sweepText r.text = .ok r.text
  digest_ok : sha256 r.text = .ok r.textSha256
  signature_ok : Crypto.isSignature r.signature = true

theorem isSha256_of_sha256 {value digest : PyStr} (h : sha256 value = .ok digest) :
    isSha256 digest = true := by
  unfold sha256 at h
  split at h
  · cases h
    rw [isSha256, Sha256.length_sha256Hex, Bool.and_eq_true, List.all_eq_true]
    exact ⟨rfl, fun c hc => Sha256.isHexLower_of_mem_sha256Hex hc⟩
  · cases h

theorem nonceAsInt_of_le {n : ℕ} (h : n ≤ AgentState.maxNonce) : nonceAsInt (.int n) = .ok n := by
  simp only [nonceAsInt, asInt, Crypto.validateNonce_of_le h, Int.toNat_natCast]

theorem encodeUtf8_isSome {value : PyStr} : (encodeUtf8 value).isSome = true ↔
    ∀ c ∈ value, isScalar c = true := by
  unfold encodeUtf8
  by_cases hall : value.all isScalar = true
  · rw [if_pos hall]
    exact iff_of_true rfl (List.all_eq_true.mp hall)
  · rw [if_neg hall]
    exact iff_of_false Bool.false_ne_true fun h => hall (List.all_eq_true.mpr h)

theorem sha256_of_scalar {value : PyStr} (h : ∀ c ∈ value, isScalar c = true) :
    ∃ digest, sha256 value = .ok digest := by
  obtain ⟨octets, hoctets⟩ := Option.isSome_iff_exists.mp (encodeUtf8_isSome.mpr h)
  exact ⟨_, by rw [sha256, hoctets]⟩

section Records

variable [Platform] {r : DeliveryRecord}

theorem exactSweptText_of_sweep {text : PyStr} (h : Crypto.sweepText text = .ok text) :
    exactSweptText (.str text) = .ok text := by
  simp only [exactSweptText, asStr, h, if_true]

omit [Platform] in
theorem checkReply_self (r : DeliveryRecord) :
    checkReply r.status (replyPayload r.replySequence) = .ok r.replySequence := by
  cases hs : r.status with
  | pending =>
      rw [r.pending_iff.mp hs]
      rfl
  | acknowledged =>
      cases hr : r.replySequence with
      | none => simp [r.pending_iff.mpr hr] at hs
      | some n =>
          have hpos : (0 : ℤ) < n := by
            have hafter := r.reply_after n hr
            omega
          simp only [checkReply, replyPayload, positiveInt, asInt, if_pos hpos, Int.toNat_natCast]
          rfl

omit [Platform] in
theorem assemble_self (r : DeliveryRecord) : assemble r.status r.roomSha256 r.inputSequence r.did
    r.nonce r.text r.textSha256 r.signature r.replySequence = .ok r := by
  rw [assemble, dif_pos r.input_pos, dif_pos r.pending_iff, dif_pos r.reply_after]

/-- **The payload of an accepted record is accepted**, and is that record. -/
theorem fromPayload_accepted (h : Accepted r) : fromPayload r.toPayload = .ok r := by
  have hstatus : checkStatus (.str (statusToken r.status)) = .ok r.status := by
    cases r.status <;> rfl
  have hinput : positiveInt (.int r.inputSequence) "input_sequence" = .ok r.inputSequence := by
    have hpos : (0 : ℤ) < r.inputSequence := by
      have hinput := r.input_pos
      omega
    simp only [positiveInt, asInt, if_pos hpos, Int.toNat_natCast]
  have hroom : checkDigest (.str r.roomSha256) "room" = .ok r.roomSha256 := if_pos h.room_ok
  have htextSha : checkDigest (.str r.textSha256) "text" = .ok r.textSha256 :=
    if_pos (isSha256_of_sha256 h.digest_ok)
  have hdid : checkDid (.str r.did) = .ok r.did := by
    simp only [checkDid, Crypto.validateDidValue, asStr, Crypto.validateDid, if_pos h.did_ok]
  have hsignature : checkSignature (.str r.signature) = .ok r.signature := if_pos h.signature_ok
  have hget : get r.payloadFields (py "status") = .str (statusToken r.status) ∧
      get r.payloadFields (py "room_sha256") = .str r.roomSha256 ∧
      get r.payloadFields (py "text_sha256") = .str r.textSha256 ∧
      get r.payloadFields (py "text") = .str r.text ∧
      get r.payloadFields (py "reply_sequence") = replyPayload r.replySequence ∧
      get r.payloadFields (py "input_sequence") = .int r.inputSequence ∧
      get r.payloadFields (py "did") = .str r.did ∧ get r.payloadFields (py "nonce") = .int r.nonce ∧
      get r.payloadFields (py "signature") = .str r.signature :=
    ⟨rfl, rfl, rfl, rfl, rfl, rfl, rfl, rfl, rfl⟩
  obtain ⟨h1, h2, h3, h4, h5, h6, h7, h8, h9⟩ := hget
  have hschema : (get r.payloadFields (py "schema")).isStr deliverySchema = true := rfl
  have hkeys : hasKeys r.payloadFields payloadKeys = true := rfl
  simp only [fromPayload, toPayload, asObj, hschema, hkeys, not_true_eq_false, if_false, h1, h2, h3,
    h4, h5, h6, h7, h8, h9, hstatus, hroom, htextSha, exactSweptText_of_sweep h.text_ok, bind,
    Except.bind, h.digest_ok, ne_eq, checkReply_self, hinput, hdid, nonceAsInt_of_le h.nonce_ok,
    hsignature, assemble_self]

/-! ## Creating a record -/

/-- What signing a message has checked. -/
theorem signRoomMessage_ok {key : Platform.PrivateKey} {room text swept signature : PyStr} {nonce : ℕ}
    (hnonce : nonce ≤ AgentState.maxNonce)
    (h : Crypto.signRoomMessage key room (.int nonce) text = .ok (swept, signature)) :
    Crypto.validateRoom room = .ok room ∧ Crypto.sweepText text = .ok swept ∧
      ∃ octets, Crypto.roomMessageOctets room (decimal nonce) swept = .ok octets ∧
        Crypto.signDetached key octets = .ok signature := by
  unfold Crypto.signRoomMessage at h
  obtain ⟨valid, hroom, h⟩ := PyResult.bind_ok h
  obtain ⟨sent, hsent, h⟩ := PyResult.bind_ok h
  obtain ⟨swept', hswept, h⟩ := PyResult.bind_ok h
  obtain ⟨octets, hoctets, h⟩ := PyResult.bind_ok h
  obtain ⟨signature', hsignature, h⟩ := PyResult.bind_ok h
  cases h
  obtain rfl := TechnocoreClient.validateRoom_ok hroom
  rw [Crypto.validateNonce_of_le hnonce] at hsent
  cases hsent
  exact ⟨hroom, hswept, octets, hoctets, hsignature⟩

omit [Platform] in
theorem scalar_of_roomMessageOctets {room nonce text : PyStr} {octets : Bytes}
    (h : Crypto.roomMessageOctets room nonce text = .ok octets) :
    (∀ c ∈ room, isScalar c = true) ∧ ∀ c ∈ text, isScalar c = true := by
  unfold Crypto.roomMessageOctets at h
  split at h
  · rename_i found hfound
    have hall := encodeUtf8_isSome.mp (by rw [hfound]; rfl)
    exact ⟨fun c hc => hall c (by simp [hc]), fun c hc => hall c (by simp [hc])⟩
  · cases h

/-- **A record can be created for whatever was signed.** -/
theorem create_of_sign {key : Platform.PrivateKey} {did room text swept signature : PyStr}
    {nonce input : ℕ} (hkey : Crypto.didFromPrivateKey key = .ok did)
    (hverify : ∀ octets, Platform.verify (Platform.publicBytes key) (Platform.sign key octets)
      octets = true)
    (hnonce : nonce ≤ AgentState.maxNonce) (hinput : 0 < input)
    (hsign : Crypto.signRoomMessage key room (.int nonce) text = .ok (swept, signature)) :
    ∃ r, create room input { did, nonce, text := swept, signature } = .ok r ∧ Accepted r ∧
      r.verifyForRoom room = .ok () ∧ r.inputSequence = input ∧ r.status = .pending ∧
      ∀ c ∈ r.text, isScalar c = true := by
  obtain ⟨hroom, hswept, octets, hoctets, hsigned⟩ := signRoomMessage_ok hnonce hsign
  obtain ⟨hroomScalar, htextScalar⟩ := scalar_of_roomMessageOctets hoctets
  obtain ⟨roomSha, hroomSha⟩ := sha256_of_scalar hroomScalar
  obtain ⟨textSha, htextSha⟩ := sha256_of_scalar htextScalar
  have hdid := Crypto.isDid_of_didFromPrivateKey hkey
  have hmatch := Crypto.verifyDetached_sign hkey hverify hsigned
  have hform : Crypto.isSignature signature = true := by
    unfold Crypto.signDetached at hsigned
    dsimp only at hsigned
    split_ifs at hsigned with hform
    cases hsigned
    exact hform
  have hpos : (0 : ℤ) < input := by omega
  have hpositive : positiveInt (.int input) "input_sequence" = .ok input := by
    simp only [positiveInt, asInt, if_pos hpos, Int.toNat_natCast]
  have hvalidDid : Crypto.validateDid did = .ok did := if_pos hdid
  have hsignature : checkSignature (.str signature) = .ok signature := if_pos hform
  -- the record that the checks let through
  obtain ⟨r, hr, hfields⟩ : ∃ r : DeliveryRecord, assemble .pending roomSha input did nonce swept
      textSha signature none = .ok r ∧ r.roomSha256 = roomSha ∧ r.inputSequence = input ∧
        r.did = did ∧ r.nonce = nonce ∧ r.text = swept ∧ r.textSha256 = textSha ∧
        r.signature = signature ∧ r.status = .pending := by
    rw [assemble, dif_pos hinput, dif_pos (by simp), dif_pos (by simp)]
    exact ⟨_, rfl, rfl, rfl, rfl, rfl, rfl, rfl, rfl, rfl⟩
  obtain ⟨rfl, rfl, rfl, rfl, rfl, rfl, rfl, hpending⟩ := hfields
  have hroomOk : r.verifyForRoom room = .ok () := by
    simp only [verifyForRoom, hroom, hroomSha, bind, Except.bind, ne_eq, not_true_eq_false, if_false,
      hoctets, hmatch, if_true]
  refine ⟨r, ?_, ⟨isSha256_of_sha256 hroomSha, hdid, hnonce, Crypto.sweepText_idem hswept, htextSha,
    hform⟩, hroomOk, rfl, hpending, htextScalar⟩
  simp only [create, hroom, hroomSha, hpositive, hvalidDid, nonceAsInt_of_le hnonce,
    exactSweptText_of_sweep (Crypto.sweepText_idem hswept), htextSha, hsignature, hr, hroomOk, bind,
    Except.bind]
  rfl

/-! ## The text of a journal -/

/-- What `_write` puts into the file. -/
def journalText (r : DeliveryRecord) : PyResult PyStr :=
  if intsFit r.toPayload then .ok (render r.toPayload ++ [10]) else .error intTooLong

/-- `from_payload(json.loads(...))` on the text of a journal. -/
def readJournalText (text : PyStr) : PyResult DeliveryRecord := do
  let payload ← loadsStr Protocol.jsonReader text
  fromPayload payload

/-- The numbers of a record can be written: so can all numbers that come out of `json.loads`. -/
structure NumbersFit (r : DeliveryRecord) : Prop where
  input : AgentState.NumberFits r.inputSequence
  reply : ∀ n, r.replySequence = some n → AgentState.NumberFits n

/-- **The text of an accepted record is read back** as that record. -/
theorem readJournalText_journalText (h : Accepted r) (hfit : NumbersFit r)
    (hscalar : ∀ c ∈ r.text, isScalar c = true) :
    ∃ text, journalText r = .ok text ∧ readJournalText text = .ok r := by
  -- a nonce is below 10 ^ 19, so it can always be written
  have hnonce : AgentState.NumberFits r.nonce := by
    rw [AgentState.NumberFits, length_decimal_le_iff (by decide)]
    calc r.nonce ≤ AgentState.maxNonce := h.nonce_ok
      _ < 10 ^ 19 := by decide
      _ ≤ 10 ^ maxStrDigits := Nat.pow_le_pow_right (by decide) (by decide)
  have hint : ∀ {n : ℕ}, AgentState.NumberFits n →
      Audit.Scalar (.int n) ∧ intsFit (.int n) = true := by
    intro n hn
    refine ⟨trivial, ?_⟩
    rw [intsFit, decide_eq_true_eq, Int.natAbs_natCast]
    exact hn
  have hascii : ∀ {value : PyStr}, (∀ c ∈ value, isAscii c = true) →
      Audit.Scalar (.str value) ∧ intsFit (.str value) = true := fun hvalue =>
    ⟨Audit.scalar_ascii hvalue, rfl⟩
  have hdigest : ∀ {digest : PyStr}, isSha256 digest = true → ∀ c ∈ digest, isAscii c = true := by
    intro digest hdigest
    rw [isSha256, Bool.and_eq_true, List.all_eq_true] at hdigest
    exact fun c hc => isAscii_of_isHexLower (hdigest.2 c hc)
  have hstatus : ∀ c ∈ statusToken r.status, isAscii c = true := by
    cases r.status <;> decide
  have hreply : Audit.Scalar (replyPayload r.replySequence) ∧
      intsFit (replyPayload r.replySequence) = true := by
    cases hr : r.replySequence with
    | none => exact ⟨trivial, rfl⟩
    | some n => exact hint (hfit.reply n hr)
  have hvalues : ∀ kv ∈ r.payloadFields, Audit.Scalar kv.2 ∧ intsFit kv.2 = true := by
    have hschema : ∀ c ∈ deliverySchema, isAscii c = true := by decide
    simp only [payloadFields, List.forall_mem_cons, List.not_mem_nil, false_implies, implies_true,
      and_true]
    exact ⟨hascii hschema, hascii hstatus, hascii (hdigest h.room_ok), hint hfit.input,
      hascii (Audit.isAscii_of_isDid h.did_ok), hint hnonce, ⟨hscalar, rfl⟩,
      hascii (hdigest (isSha256_of_sha256 h.digest_ok)), hascii (Audit.isAscii_of_isSignature h.signature_ok), hreply⟩
  have hfits : intsFit r.toPayload = true := by
    rw [toPayload, intsFit, intsFitFields_iff]
    exact fun kv hkv => (hvalues kv hkv).2
  have hplain : Plain r.toPayload := by
    have hkeys : (keys r.payloadFields).Nodup := show payloadKeys.Nodup by decide
    have hnames : ∀ key ∈ payloadKeys, ∀ c ∈ key, isScalar c = true := by decide
    refine ⟨hkeys, plainFields_iff.mpr fun kv hkv => ⟨?_, ?_⟩⟩
    · exact hnames kv.1 (show kv.1 ∈ keys r.payloadFields from List.mem_map.mpr ⟨kv, hkv, rfl⟩)
    · exact (hvalues kv hkv).1.plain (hvalues kv hkv).2
  -- all fields are scalars: the object is one level deep
  have hdepth : depth r.toPayload ≤ Protocol.jsonReader.depthLimit := by
    have hscalars : depthFields r.payloadFields ≤ 0 := depthFields_le_iff.mpr fun kv hkv =>
      (hvalues kv hkv).1.depth.le
    refine le_trans ?_ Platform.two_le_recursionLimit
    rw [toPayload, depth]
    omega
  refine ⟨render r.toPayload ++ [10], if_pos hfits, ?_⟩
  rw [readJournalText, loadsStr_render_append (hookKeeps_dict rfl) hplain hdepth
    (numberEnds_cons (by decide)) rfl]
  exact fromPayload_accepted h

/-! ## Acknowledging -/

/-- Acknowledging keeps what the checks look at. -/
theorem Accepted.acknowledge (h : Accepted r) {acked : DeliveryRecord} {n : ℕ}
    (hack : r.acknowledge n = .ok acked) : Accepted acked := by
  unfold DeliveryRecord.acknowledge at hack
  split_ifs at hack with hzero hle hstatus hsame
  · cases hack
    exact h
  · cases hack
    exact ⟨h.room_ok, h.did_ok, h.nonce_ok, h.text_ok, h.digest_ok, h.signature_ok⟩

/-- A room that a record is verified for stays so. -/
theorem verifyForRoom_acknowledge {room : PyStr} {acked : DeliveryRecord} {n : ℕ}
    (hack : r.acknowledge n = .ok acked) : acked.verifyForRoom room = r.verifyForRoom room := by
  unfold DeliveryRecord.acknowledge at hack
  split_ifs at hack with hzero hle hstatus hsame
  all_goals
    cases hack
    rfl

omit [Platform] in
/-- A pending record takes any reply after its input. -/
theorem acknowledge_pending (hpending : r.status = .pending) {n : ℕ} (h : r.inputSequence < n) :
    ∃ acked, r.acknowledge n = .ok acked := by
  have hstatus : r.status ≠ .acknowledged := by simp [hpending]
  rw [acknowledge, if_neg (by omega), dif_neg (by omega), if_neg hstatus]
  exact ⟨_, rfl⟩

omit [Platform] in
/-- An acknowledged record takes the same reply again, **and no other**. -/
theorem acknowledge_again {acked : DeliveryRecord} {n : ℕ} (hack : r.acknowledge n = .ok acked) :
    acked.acknowledge n = .ok acked ∧
      ∀ m, m ≠ n → ∃ message, acked.acknowledge m = .error (deliveryError message) := by
  obtain ⟨-, hinput, -, hstatus, hreply⟩ := acknowledge_ok hack
  have hafter := acked.reply_after n hreply
  constructor
  · rw [acknowledge, if_neg (by omega), dif_neg (by omega), if_pos hstatus, if_pos hreply]
  · intro m hne
    have hother : acked.replySequence ≠ some m := by
      rw [hreply, ne_eq, Option.some_inj]
      exact fun h => hne h.symm
    rw [acknowledge]
    split_ifs with hzero hle
    · exact ⟨_, rfl⟩
    · exact ⟨_, rfl⟩
    · exact ⟨_, rfl⟩

/-- What becomes of a record: its text is read back, and of the given rooms it names one. -/
structure Durable (rooms : Set PyStr) (room : PyStr) (r : DeliveryRecord) : Prop where
  payload : fromPayload r.toPayload = .ok r
  read_back : NumbersFit r → ∃ text, journalText r = .ok text ∧ readJournalText text = .ok r
  own_room : r.verifyForRoom room = .ok ()
  no_other : ∀ other ∈ rooms, r.verifyForRoom other = .ok () → other = room

theorem Accepted.durable (h : Accepted r) (hscalar : ∀ c ∈ r.text, isScalar c = true)
    {rooms : Set PyStr} (hinjective : rooms.InjOn sha256) {room : PyStr} (hroom : room ∈ rooms)
    (hown : r.verifyForRoom room = .ok ()) : Durable rooms room r where
  payload := fromPayload_accepted h
  read_back := fun hfit => readJournalText_journalText h hfit hscalar
  own_room := hown
  no_other := by
    intro other hother hverified
    refine hinjective hother hroom ?_
    rw [sha256_of_verifyForRoom hverified, sha256_of_verifyForRoom hown]

/-- **The journal takes everything that is signed.**  Whatever `sign_room_message` returns for a
nonce of `next_nonce` is swept, makes a record, and the record and each of its acknowledgements
can be written and read back and belong to the room alone.  `rooms` are the rooms whose digests
differ. -/
theorem journal_round_trip {rooms : Set PyStr} (hinjective : rooms.InjOn sha256) {room : PyStr}
    (hroom : room ∈ rooms) {key : Platform.PrivateKey} {did : PyStr}
    (hkey : Crypto.didFromPrivateKey key = .ok did)
    (hverify : ∀ octets, Platform.verify (Platform.publicBytes key) (Platform.sign key octets)
      octets = true)
    {s s' : AgentState} {clockValue : ℤ} {nonce : ℕ}
    (hnonce : s.nextNonce room clockValue = .ok (nonce, s')) {input : ℕ} (hinput : 0 < input)
    {text swept signature : PyStr}
    (hsign : Crypto.signRoomMessage key room (.int nonce) text = .ok (swept, signature)) :
    Crypto.sweepText swept = .ok swept ∧
      ∃ r, create room input { did, nonce, text := swept, signature } = .ok r ∧
        r.inputSequence = input ∧ r.status = .pending ∧ Durable rooms room r ∧
          ∀ n, input < n → ∃ acked, r.acknowledge n = .ok acked ∧ acked.status = .acknowledged ∧
            acked.replySequence = some n ∧ Durable rooms room acked ∧
              acked.acknowledge n = .ok acked ∧
                ∀ m, m ≠ n → ∃ message, acked.acknowledge m = .error (deliveryError message) := by
  obtain ⟨-, hbound, -⟩ := AgentState.nextNonce_ok hnonce
  obtain ⟨-, hswept, -⟩ := signRoomMessage_ok hbound hsign
  obtain ⟨r, hr, haccepted, hown, hsequence, hpending, hscalar⟩ :=
    create_of_sign hkey hverify hbound hinput hsign
  refine ⟨Crypto.sweepText_idem hswept, r, hr, hsequence, hpending,
    haccepted.durable hscalar hinjective hroom hown, fun n hn => ?_⟩
  obtain ⟨acked, hack⟩ := acknowledge_pending hpending (hsequence.symm ▸ hn)
  obtain ⟨-, -, henvelope, hstatus, hreply⟩ := acknowledge_ok hack
  obtain ⟨hagain, hother⟩ := acknowledge_again hack
  have htext : acked.text = r.text := congrArg Envelope.text henvelope
  have hstill : acked.verifyForRoom room = .ok () := (verifyForRoom_acknowledge hack).trans hown
  have hdurable : Durable rooms room acked := (haccepted.acknowledge hack).durable
    (by rw [htext]; exact hscalar) hinjective hroom hstill
  exact ⟨acked, hack, hstatus, hreply, hdurable, hagain, hother⟩

end Records

section Samples

open Sample

/-- A text with white space and an invisible character around it is signed, recorded and read
back. -/
theorem journal_round_trip_sample : ∃ swept signature r,
    Crypto.signRoomMessage key room (.int 5) (py " pong" ++ [0x200B]) = .ok (swept, signature) ∧
      create room 1 { did := Sample.did, nonce := 5, text := swept, signature } = .ok r ∧
        Durable {room, py "den"} room r := by
  have hsome : (sha256 room).isOk = true ∧ sha256 room ≠ sha256 (py "den") := by decide +kernel
  have hinjective : ({room, py "den"} : Set PyStr).InjOn sha256 := by
    intro a ha b hb heq
    rcases ha with rfl | rfl <;> rcases hb with rfl | rfl
    · rfl
    · exact absurd heq hsome.2
    · exact absurd heq.symm hsome.2
    · rfl
  obtain ⟨⟨swept, signature⟩, hsign⟩ :=
    PyResult.ok_of_isOk (r := Crypto.signRoomMessage key room (.int 5) (py " pong" ++ [0x200B]))
      (by decide +kernel)
  have hnonce : ({} : AgentState).nextNonce room 5 = .ok (5, (({} : AgentState).observeNonce room 5)) :=
    rfl
  obtain ⟨-, r, hr, -, -, hdurable, -⟩ := journal_round_trip hinjective (Or.inl rfl) did_eq
    (verify_sign key) (s := {}) hnonce one_pos hsign
  exact ⟨swept, signature, r, hsign, hr, hdurable⟩

end Samples

end DeliveryRecord
