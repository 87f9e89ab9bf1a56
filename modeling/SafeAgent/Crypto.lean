/-
# Identity and canonical messages (`crypto.py`)

DIDs, rooms, nonces, the text sweep and detached Ed25519 signatures.

* `base58btcDecode_encode`   : decoding inverts encoding on data with a nonzero first octet;
* `publicKeyFromDid_did`     : the DID of a key decodes to its public octets;
* `signDetached_eq`          : signing never fails, and its result is canonical base64url;
* `verifyDetached_sign`      : what the key signs verifies under its DID, given that the
  signature scheme is correct.
-/
import SafeAgent.JsonText
import SafeAgent.Platform
import SafeAgent.Sha256

namespace Crypto

open PyText Sha256

/-! ## Base58 -/

/-- The digits of a number in a base, most significant first.  The fuel bounds the
number of divisions; the number itself is always enough. -/
def toBase (base : ℕ) : ℕ → ℕ → List ℕ
  | 0, _ => []
  | fuel + 1, n => if n = 0 then [] else toBase base fuel (n / base) ++ [n % base]

/-- The number that digits stand for. -/
def fromBase (base : ℕ) (digits : List ℕ) : ℕ := digits.foldl (fun n d => n * base + d) 0

/-- `BASE58BTC_ALPHABET` -/
def base58btcAlphabet : PyStr := py "123456789ABCDEFGHJKLMNPQRSTUVWXYZabcdefghijkmnopqrstuvwxyz"

/-- `[1-9A-HJ-NP-Za-km-z]` -/
def isBase58 (c : ℕ) : Bool := base58btcAlphabet.contains c

/-- `_base58btc_encode` -/
def base58btcEncode (data : Bytes) : PyStr :=
  let leadingZeroes := (data.takeWhile (· == 0)).length
  let number := fromBase 256 (data.map UInt8.toNat)
  List.replicate leadingZeroes 49 ++
    (toBase 58 number number).map fun d => base58btcAlphabet.getD d 0

/-- `BASE58BTC_ALPHABET.index` on every character; `none` if one is not in the alphabet. -/
def base58Digits : PyStr → Option (List ℕ)
  | [] => some []
  | c :: rest =>
      match base58btcAlphabet.idxOf? c, base58Digits rest with
      | some d, some ds => some (d :: ds)
      | _, _ => none

/-- `_base58btc_decode` -/
def base58btcDecode (value : PyStr) : PyResult Bytes :=
  if value = [] then .error (.of .protocolValueError "base58btc value must not be empty")
  else
    match base58Digits value with
    | none =>
        .error (.of .protocolValueError "base58btc value contains an invalid character")
    | some digits =>
        let number := fromBase 58 digits
        let decoded := (toBase 256 number number).map UInt8.ofNat
        let leadingZeroes := (value.takeWhile (· == 49)).length
        .ok (List.replicate leadingZeroes 0 ++ decoded)

theorem fromBase_append (base : ℕ) (ds : List ℕ) (d : ℕ) :
    fromBase base (ds ++ [d]) = fromBase base ds * base + d := by
  simp [fromBase]

/-- The digits of a number stand for the number. -/
theorem fromBase_toBase {base : ℕ} (hbase : 2 ≤ base) {fuel n : ℕ} (hfuel : n ≤ fuel) :
    fromBase base (toBase base fuel n) = n := by
  induction fuel generalizing n with
  | zero =>
      obtain rfl : n = 0 := by omega
      rfl
  | succ fuel ih =>
      rw [toBase]
      split_ifs with hn
      · simp [fromBase, hn]
      · have hdiv : n / base < n := Nat.div_lt_self (by omega) hbase
        rw [fromBase_append, ih (by omega)]
        exact Nat.div_add_mod' n base

/-- A positive number does not start with the digit zero. -/
theorem toBase_head {base : ℕ} (hbase : 2 ≤ base) {fuel n : ℕ} (hfuel : n ≤ fuel) (hn : 0 < n) :
    ∃ d ds, toBase base fuel n = d :: ds ∧ d ≠ 0 := by
  induction fuel generalizing n with
  | zero => omega
  | succ fuel ih =>
      have hdiv : n / base < n := Nat.div_lt_self hn hbase
      rw [toBase, if_neg (by omega)]
      by_cases hzero : n / base = 0
      · have hlt : n < base := by
          rcases Nat.div_eq_zero_iff.mp hzero with h | h
          · omega
          · exact h
        refine ⟨n, [], ?_, by omega⟩
        rw [hzero, Nat.mod_eq_of_lt hlt]
        cases fuel <;> rfl
      · obtain ⟨d, ds, hds, hd⟩ := ih (n := n / base) (by omega) (Nat.pos_of_ne_zero hzero)
        exact ⟨d, ds ++ [n % base], by rw [hds]; rfl, hd⟩

theorem lt_of_mem_toBase {base : ℕ} (hbase : 2 ≤ base) {fuel n d : ℕ}
    (h : d ∈ toBase base fuel n) : d < base := by
  induction fuel generalizing n with
  | zero => simp [toBase] at h
  | succ fuel ih =>
      rw [toBase] at h
      split_ifs at h with hn
      · simp at h
      · rcases List.mem_append.mp h with h | h
        · exact ih h
        · rw [List.mem_singleton] at h
          subst h
          exact Nat.mod_lt n (by omega)

theorem fromBase_pos {base : ℕ} (hbase : 2 ≤ base) {d : ℕ} (hd : d ≠ 0) (ds : List ℕ) :
    0 < fromBase base (d :: ds) := by
  induction ds using List.reverseRecOn with
  | nil =>
      simp only [fromBase, List.foldl_cons, List.foldl_nil]
      omega
  | append_singleton ds e ih =>
      rw [← List.cons_append, fromBase_append]
      have hmul : 0 < fromBase base (d :: ds) * base := Nat.mul_pos ih (by omega)
      omega

/-- Digits without a leading zero are the digits of the number they stand for. -/
theorem toBase_fromBase {base : ℕ} (hbase : 2 ≤ base) {d : ℕ} {ds : List ℕ} (hd : d ≠ 0)
    (hlt : ∀ e ∈ d :: ds, e < base) {fuel : ℕ} (hfuel : fromBase base (d :: ds) ≤ fuel) :
    toBase base fuel (fromBase base (d :: ds)) = d :: ds := by
  induction ds using List.reverseRecOn generalizing fuel with
  | nil =>
      have hdlt : d < base := hlt d (by simp)
      simp only [fromBase, List.foldl_cons, List.foldl_nil] at hfuel ⊢
      rw [Nat.zero_mul, Nat.zero_add] at hfuel ⊢
      obtain ⟨k, rfl⟩ : ∃ k, fuel = k + 1 := ⟨fuel - 1, by omega⟩
      rw [toBase, if_neg hd, Nat.div_eq_of_lt hdlt, Nat.mod_eq_of_lt hdlt]
      cases k <;> rfl
  | append_singleton ds e ih =>
      have he : e < base := hlt e (by simp)
      have hpos := fromBase_pos hbase hd ds
      rw [← List.cons_append, fromBase_append] at hfuel ⊢
      have hdiv : (fromBase base (d :: ds) * base + e) / base = fromBase base (d :: ds) := by
        rw [Nat.mul_comm, Nat.mul_add_div (by omega), Nat.div_eq_of_lt he, Nat.add_zero]
      have hmod : (fromBase base (d :: ds) * base + e) % base = e := by
        rw [Nat.mul_comm, Nat.mul_add_mod, Nat.mod_eq_of_lt he]
      have hgrow : fromBase base (d :: ds) * 2 ≤ fromBase base (d :: ds) * base :=
        Nat.mul_le_mul_left _ hbase
      obtain ⟨k, rfl⟩ : ∃ k, fuel = k + 1 := ⟨fuel - 1, by omega⟩
      rw [toBase, if_neg (by omega), hdiv, hmod,
        ih (fun x hx => hlt x (by simp only [List.mem_cons, List.mem_append] at hx ⊢; tauto))
          (by omega)]

theorem idxOf_base58btcAlphabet {d : ℕ} (h : d < 58) :
    base58btcAlphabet.idxOf? (base58btcAlphabet.getD d 0) = some d ∧
      (base58btcAlphabet.getD d 0 = 49 → d = 0) := by
  interval_cases d <;> decide

theorem base58Digits_map {ds : List ℕ} (h : ∀ d ∈ ds, d < 58) :
    base58Digits (ds.map fun d => base58btcAlphabet.getD d 0) = some ds := by
  induction ds with
  | nil => rfl
  | cons d ds ih =>
      have hd := (idxOf_base58btcAlphabet (h d (by simp))).1
      rw [List.map_cons, base58Digits, hd, ih fun e he => h e (by simp [he])]

/-- **Base58 round trip** on data whose first octet is not zero. -/
theorem base58btcDecode_encode {b : UInt8} {data : Bytes} (hb : b ≠ 0) :
    base58btcDecode (base58btcEncode (b :: data)) = .ok (b :: data) := by
  have hb' : b.toNat ≠ 0 := fun h => hb (UInt8.toNat_inj.mp h)
  have hpos := fromBase_pos (by norm_num : 2 ≤ 256) hb' (data.map UInt8.toNat)
  have hbytes : ∀ e ∈ b.toNat :: data.map UInt8.toNat, e < 256 := by
    intro e he
    rw [← List.map_cons (f := UInt8.toNat)] at he
    obtain ⟨x, -, rfl⟩ := List.mem_map.mp he
    exact x.toNat_lt
  have hback := toBase_fromBase (by norm_num : 2 ≤ 256) hb' hbytes (le_refl _)
  have hzeros : ((b :: data).takeWhile (· == 0)).length = 0 := by simp [hb]
  rw [base58btcEncode, hzeros]
  simp only [List.replicate_zero, List.nil_append, List.map_cons]
  generalize fromBase 256 (b.toNat :: data.map UInt8.toNat) = number at hpos hback
  obtain ⟨d, ds, hds, hd⟩ := toBase_head (by norm_num : 2 ≤ 58) (le_refl number) hpos
  have hlt : ∀ e ∈ toBase 58 number number, e < 58 := fun e he =>
    lt_of_mem_toBase (by norm_num) he
  have hdigits := base58Digits_map hlt
  have hfrom : fromBase 58 (toBase 58 number number) = number :=
    fromBase_toBase (by norm_num) (le_refl number)
  have hfirst : base58btcAlphabet.getD d 0 ≠ 49 := fun h =>
    hd ((idxOf_base58btcAlphabet (hlt d (by simp [hds]))).2 h)
  have hones : (((toBase 58 number number).map
      fun d => base58btcAlphabet.getD d 0).takeWhile (· == 49)).length = 0 := by
    rw [hds, List.map_cons, List.takeWhile_cons_of_neg (by simpa using hfirst), List.length_nil]
  have hne : (toBase 58 number number).map (fun d => base58btcAlphabet.getD d 0) ≠ [] := by
    rw [hds]
    simp
  rw [base58btcDecode, if_neg hne, hdigits]
  simp only [hfrom, hones, hback, List.replicate_zero, List.nil_append]
  simp [Function.comp_def]

/-! ## Patterns -/

/-- `MULTICODEC_ED25519` -/
def multicodecEd25519 : Bytes := [0xed, 0x01]

/-- `DID_PATTERN` -/
def isDid (s : PyStr) : Bool :=
  startsWith (py "did:key:z6Mk") s && (s.drop 12).length == 44 && (s.drop 12).all isBase58

/-- `NONCE_PATTERN` -/
def isNonce (s : PyStr) : Bool := 1 ≤ s.length && s.length ≤ 19 && s.all isDigit

/-- `[a-z0-9]` -/
def isRoomStart (c : ℕ) : Bool := isLower c || isDigit c

/-- `[a-z0-9_-]` -/
def isRoomChar (c : ℕ) : Bool := isRoomStart c || c == 95 || c == 45

/-- `ROOM_PATTERN` -/
def isRoom (s : PyStr) : Bool :=
  match s with
  | [] => false
  | c :: rest => isRoomStart c && rest.length ≤ 47 && rest.all isRoomChar

/-- `[A-Za-z0-9_-]` -/
def isBase64Url (c : ℕ) : Bool := isAlnum c || c == 95 || c == 45

/-- `[A-Za-z0-9_-]{86}` -/
def isSignature (s : PyStr) : Bool := s.length == 86 && s.all isBase64Url

/-- `[A-Za-z0-9_-]{85}[AQgw]` -/
def isCanonicalSignature (s : PyStr) : Bool :=
  isSignature s && (py "AQgw").contains (s.getLastD 0)

/-- `validate_did` on a string. -/
def validateDid (did : PyStr) : PyResult PyStr :=
  if isDid did then .ok did
  else .error (.of .protocolValueError "DID must be a canonical Ed25519 did:key")

/-- `validate_did` on a decoded JSON value. -/
def validateDidValue (value : Json) : PyResult PyStr :=
  match value.asStr with
  | some did => validateDid did
  | none => .error (.of .protocolValueError "DID must be a canonical Ed25519 did:key")

/-- `validate_room` -/
def validateRoom (room : PyStr) : PyResult PyStr :=
  if isRoom room then .ok room
  else .error (.of .protocolValueError "room must match ^[a-z0-9][a-z0-9_-]{0,47}$")

/-- What `validate_nonce` raises. -/
def nonceError : PyErr := .of .protocolValueError "nonce must contain 1-19 ASCII digits"

/-- `validate_nonce` on an `int` or `str`, or on whatever JSON holds in its place.  The
text of anything but a string or an integer never consists of digits. -/
def validateNonce (nonce : Json) : PyResult PyStr :=
  match nonce with
  | .str s => if isNonce s then .ok s else .error nonceError
  | .int n =>
      if (decimal n.natAbs).length ≤ Json.maxStrDigits then
        if isNonce (decimalInt n) then .ok (decimalInt n) else .error nonceError
      else .error Json.intTooLong
  | _ => .error nonceError

/-! ## Keys and fingerprints -/

variable [Platform]

open Platform

/-- `did_from_private_key` -/
def didFromPrivateKey (privateKey : PrivateKey) : PyResult PyStr :=
  let did := py "did:key:z" ++ base58btcEncode (multicodecEd25519 ++ publicBytes privateKey)
  if isDid did then .ok did
  else .error (.of .identityError "derived an invalid Ed25519 did:key")

/-- `public_key_from_did`, as the raw octets of the key. -/
def publicKeyFromDid (did : PyStr) : PyResult Bytes := do
  let validDid ← validateDid did
  let decoded ← base58btcDecode (removePrefix (py "did:key:z") validDid)
  if decoded.length ≠ 34 ∨ ¬multicodecEd25519 <+: decoded then
    .error (.of .protocolValueError "DID does not contain a canonical Ed25519 public key")
  else .ok (decoded.drop 2)

omit [Platform] in
/-- `fingerprint_of_did` -/
def fingerprintOfDid (did : PyStr) : PyResult PyStr := do
  let _ ← validateDid did
  match encodeUtf8 did with
  | some octets => .ok ((sha256Hex octets).take 16)
  | none => .error (.of .unicodeEncodeError "surrogates not allowed")

/-! ## Text -/

/-- `sweep_text` with its default limit. -/
def sweepText (text : PyStr) : PyResult PyStr :=
  let swept := strip (text.map fun c => if invisible c then 32 else c)
  if swept = [] then
    .error (.of .protocolValueError "message has no visible text after the protocol sweep")
  else if 4096 < swept.length then
    .error (.of .protocolValueError "message exceeds the 4096-character limit")
  else .ok swept

/-- The sweep changes nothing in a printable text without spaces at its ends. -/
theorem sweepText_of_printable {a b : ℕ} {s : PyStr} (h : ∀ c ∈ a :: s ++ [b], 32 ≤ c ∧ c < 127)
    (ha : isSpace a = false) (hb : isSpace b = false) (hlength : (a :: s ++ [b]).length ≤ 4096) :
    sweepText (a :: s ++ [b]) = .ok (a :: s ++ [b]) := by
  have hvisible : (a :: s ++ [b]).map (fun c => if invisible c then 32 else c) = a :: s ++ [b] := by
    conv_rhs => rw [← List.map_id (a :: s ++ [b])]
    refine List.map_congr_left fun c hc => ?_
    rw [visible_of_printable c (h c hc)]
    rfl
  have hne : a :: s ++ [b] ≠ [] := by simp
  rw [sweepText, hvisible, strip_of_ends ha hb, if_neg hne, if_neg (not_lt.mpr hlength)]

/-! ## Signatures -/

/-- A character of the URL-safe base64 alphabet. -/
def base64Char (v : ℕ) : ℕ :=
  if v < 26 then 65 + v
  else if v < 52 then 71 + v
  else if v < 62 then v - 4
  else if v = 62 then 45
  else 95

/-- The value of a character of the URL-safe base64 alphabet. -/
def base64Value (c : ℕ) : ℕ :=
  if isUpper c then c - 65
  else if isLower c then c - 71
  else if isDigit c then c + 4
  else if c = 45 then 62
  else 63

/-- `base64.urlsafe_b64encode(data).decode("ascii").rstrip("=")` -/
def base64UrlEncode : Bytes → PyStr
  | b0 :: b1 :: b2 :: rest =>
      base64Char (b0.toNat / 4) :: base64Char (b0.toNat % 4 * 16 + b1.toNat / 16) ::
        base64Char (b1.toNat % 16 * 4 + b2.toNat / 64) :: base64Char (b2.toNat % 64) ::
        base64UrlEncode rest
  | [b0, b1] =>
      [base64Char (b0.toNat / 4), base64Char (b0.toNat % 4 * 16 + b1.toNat / 16),
        base64Char (b1.toNat % 16 * 4)]
  | [b0] => [base64Char (b0.toNat / 4), base64Char (b0.toNat % 4 * 16)]
  | [] => []

/-- `base64.urlsafe_b64decode(text + "==")`; the unused bits of the last character are
dropped without a check. -/
def base64UrlDecode : PyStr → Bytes
  | c0 :: c1 :: c2 :: c3 :: rest =>
      UInt8.ofNat (base64Value c0 * 4 + base64Value c1 / 16) ::
        UInt8.ofNat (base64Value c1 % 16 * 16 + base64Value c2 / 4) ::
        UInt8.ofNat (base64Value c2 % 4 * 64 + base64Value c3) :: base64UrlDecode rest
  | [c0, c1, c2] =>
      [UInt8.ofNat (base64Value c0 * 4 + base64Value c1 / 16),
        UInt8.ofNat (base64Value c1 % 16 * 16 + base64Value c2 / 4)]
  | [c0, c1] => [UInt8.ofNat (base64Value c0 * 4 + base64Value c1 / 16)]
  | _ => []

/-- `sign_detached` -/
def signDetached (privateKey : PrivateKey) (payload : Bytes) : PyResult PyStr :=
  let signature := base64UrlEncode (sign privateKey payload)
  if isSignature signature then .ok signature
  else .error (.of .identityError "generated an invalid Ed25519 signature")

/-- `verify_detached_signature` -/
def verifyDetachedSignature (did : PyStr) (payload : Bytes) (signature : PyStr) : Bool :=
  if isSignature signature then
    match publicKeyFromDid did with
    | .ok key => verify key (base64UrlDecode signature) payload
    | .error _ => false
  else false

/-- `f"{room}|{nonce}|{text}".encode("utf-8")` -/
def roomMessageOctets (room nonce text : PyStr) : PyResult Bytes :=
  match encodeUtf8 (room ++ 124 :: nonce ++ 124 :: text) with
  | some octets => .ok octets
  | none => .error (.of .unicodeEncodeError "surrogates not allowed")

/-- `sign_room_message`: the swept text and its signature. -/
def signRoomMessage (privateKey : PrivateKey) (room : PyStr) (nonce : Json) (text : PyStr) :
    PyResult (PyStr × PyStr) := do
  let validRoom ← validateRoom room
  let validNonce ← validateNonce nonce
  let swept ← sweepText text
  let canonical ← roomMessageOctets validRoom validNonce swept
  let signature ← signDetached privateKey canonical
  return (swept, signature)

/-! ## What signing produces -/

omit [Platform] in
theorem base64Value_base64Char {v : ℕ} (h : v < 64) : base64Value (base64Char v) = v := by
  interval_cases v <;> rfl

omit [Platform] in
theorem isBase64Url_base64Char {v : ℕ} (h : v < 64) : isBase64Url (base64Char v) = true := by
  interval_cases v <;> rfl

omit [Platform] in
/-- **Base64 round trip.** -/
theorem base64UrlDecode_encode (data : Bytes) : base64UrlDecode (base64UrlEncode data) = data := by
  have hval : ∀ {v}, v < 64 → base64Value (base64Char v) = v := base64Value_base64Char
  have hoctet : ∀ (b : UInt8) (n : ℕ), n = b.toNat → UInt8.ofNat n = b := by
    rintro b n rfl
    exact UInt8.ofNat_toNat
  induction data using base64UrlEncode.induct with
  | case1 b0 b1 b2 rest ih =>
      have h0 := b0.toNat_lt
      have h1 := b1.toNat_lt
      have h2 := b2.toNat_lt
      rw [base64UrlEncode, base64UrlDecode, hval (by omega), hval (by omega), hval (by omega),
        hval (by omega), ih, hoctet b0 _ (by omega), hoctet b1 _ (by omega), hoctet b2 _ (by omega)]
  | case2 b0 b1 =>
      have h0 := b0.toNat_lt
      have h1 := b1.toNat_lt
      rw [base64UrlEncode, base64UrlDecode, hval (by omega), hval (by omega), hval (by omega),
        hoctet b0 _ (by omega), hoctet b1 _ (by omega)]
  | case3 b0 =>
      have h0 := b0.toNat_lt
      rw [base64UrlEncode, base64UrlDecode, hval (by omega), hval (by omega),
        hoctet b0 _ (by omega)]
  | case4 => rfl

omit [Platform] in
theorem length_base64UrlEncode (data : Bytes) :
    (base64UrlEncode data).length = (4 * data.length + 2) / 3 := by
  induction data using base64UrlEncode.induct with
  | case1 b0 b1 b2 rest ih =>
      simp only [base64UrlEncode, List.length_cons, ih]
      omega
  | case2 b0 b1 => simp [base64UrlEncode]
  | case3 b0 => simp [base64UrlEncode]
  | case4 => rfl

omit [Platform] in
theorem isBase64Url_of_mem_encode {data : Bytes} {c : ℕ} (h : c ∈ base64UrlEncode data) :
    isBase64Url c = true := by
  have hchar : ∀ v, v < 64 → isBase64Url (base64Char v) = true := fun v hv =>
    isBase64Url_base64Char hv
  induction data using base64UrlEncode.induct with
  | case1 b0 b1 b2 rest ih =>
      have h0 := b0.toNat_lt
      have h1 := b1.toNat_lt
      have h2 := b2.toNat_lt
      simp only [base64UrlEncode, List.mem_cons] at h
      rcases h with rfl | rfl | rfl | rfl | h
      · exact hchar _ (by omega)
      · exact hchar _ (by omega)
      · exact hchar _ (by omega)
      · exact hchar _ (by omega)
      · exact ih h
  | case2 b0 b1 =>
      have h0 := b0.toNat_lt
      have h1 := b1.toNat_lt
      simp only [base64UrlEncode, List.mem_cons, List.not_mem_nil, or_false] at h
      rcases h with rfl | rfl | rfl
      · exact hchar _ (by omega)
      · exact hchar _ (by omega)
      · exact hchar _ (by omega)
  | case3 b0 =>
      have h0 := b0.toNat_lt
      simp only [base64UrlEncode, List.mem_cons, List.not_mem_nil, or_false] at h
      rcases h with rfl | rfl
      · exact hchar _ (by omega)
      · exact hchar _ (by omega)
  | case4 => simp [base64UrlEncode] at h

omit [Platform] in
/-- The last character of one octet more than whole groups carries two bits. -/
theorem getLastD_base64UrlEncode {data : Bytes} (h : data.length % 3 = 1) :
    (py "AQgw").contains ((base64UrlEncode data).getLastD 0) = true := by
  induction data using base64UrlEncode.induct with
  | case1 b0 b1 b2 rest ih =>
      have hrest : rest.length % 3 = 1 := by
        simp only [List.length_cons] at h
        omega
      have hne : base64UrlEncode rest ≠ [] := by
        intro hnil
        have hlen := length_base64UrlEncode rest
        rw [hnil, List.length_nil] at hlen
        omega
      obtain ⟨c, t, hct⟩ := List.exists_cons_of_ne_nil hne
      have hlast := ih hrest
      rw [hct] at hlast
      rw [base64UrlEncode, hct]
      simpa using hlast
  | case2 b0 b1 => simp at h
  | case3 b0 =>
      have hlt : b0.toNat % 4 < 4 := Nat.mod_lt _ (by norm_num)
      simp only [base64UrlEncode]
      generalize b0.toNat % 4 = v at hlt
      show (py "AQgw").contains (base64Char (v * 16)) = true
      interval_cases v <;> decide
  | case4 => simp at h

/-- **Signing never fails**, and the signature string is canonical. -/
theorem signDetached_eq (privateKey : PrivateKey) (payload : Bytes) :
    signDetached privateKey payload = .ok (base64UrlEncode (sign privateKey payload)) ∧
      isCanonicalSignature (base64UrlEncode (sign privateKey payload)) = true := by
  have hlen : (sign privateKey payload).length = 64 := length_sign privateKey payload
  have hsig : isSignature (base64UrlEncode (sign privateKey payload)) = true := by
    rw [isSignature, length_base64UrlEncode, hlen]
    simp only [Bool.and_eq_true, beq_iff_eq, List.all_eq_true]
    exact ⟨by norm_num, fun c hc => isBase64Url_of_mem_encode hc⟩
  have hlast := getLastD_base64UrlEncode (show (sign privateKey payload).length % 3 = 1 by rw [hlen])
  exact ⟨by simp [signDetached, hsig], by rw [isCanonicalSignature, hsig, hlast]; rfl⟩

theorem isDid_of_didFromPrivateKey {privateKey : PrivateKey} {did : PyStr}
    (h : didFromPrivateKey privateKey = .ok did) : isDid did = true := by
  simp only [didFromPrivateKey] at h
  split_ifs at h with hdid
  cases h
  exact hdid

/-- The DID of a key decodes to its public octets. -/
theorem publicKeyFromDid_did {privateKey : PrivateKey} {did : PyStr}
    (h : didFromPrivateKey privateKey = .ok did) :
    publicKeyFromDid did = .ok (publicBytes privateKey) := by
  simp only [didFromPrivateKey] at h
  split_ifs at h with hdid
  obtain rfl := Except.ok.inj h
  have hlen : (publicBytes privateKey).length = 32 := length_publicBytes privateKey
  have hdecode : base58btcDecode (base58btcEncode (multicodecEd25519 ++ publicBytes privateKey)) =
      .ok (multicodecEd25519 ++ publicBytes privateKey) :=
    base58btcDecode_encode (by decide)
  simp only [publicKeyFromDid, validateDid, hdid, if_true, bind, Except.bind, removePrefix_append,
    hdecode]
  rw [if_neg]
  · rfl
  · simp [multicodecEd25519, hlen]

/-- **What a key signs verifies under its DID**, if the signature scheme is correct. -/
theorem verifyDetached_sign {privateKey : PrivateKey} {did : PyStr}
    (hdid : didFromPrivateKey privateKey = .ok did)
    (hverify : ∀ payload, verify (publicBytes privateKey) (sign privateKey payload) payload = true)
    {payload : Bytes} {signature : PyStr} (hsign : signDetached privateKey payload = .ok signature) :
    verifyDetachedSignature did payload signature = true := by
  obtain ⟨hok, hcanon⟩ := signDetached_eq privateKey payload
  rw [hok] at hsign
  obtain rfl := Except.ok.inj hsign
  rw [isCanonicalSignature, Bool.and_eq_true] at hcanon
  rw [verifyDetachedSignature, if_pos hcanon.1, publicKeyFromDid_did hdid]
  simp only [base64UrlDecode_encode, hverify]

end Crypto
