/-
# DIDs and base58 (`crypto.py`)

Base58 keeps the leading zero octets of its input as leading `1`s, and writes the rest as one
number.  The number of a key with its prefix lies in a range whose members all have 47
digits, of which the first three are `6Mk`.

* `base58btcDecode_ok_encode`, `base58btcEncode_decode` : the two round trips;
* `isDid_encode`  : the DID of 32 octets matches the pattern;
* `did_bijection` : **keys and accepted DIDs correspond one to one**.
-/
import SafeAgent.Sample

open PyText

namespace Crypto

/-! ## Numbers and their digits -/

section Digits

variable {base : ℕ}

theorem fromBase_append_list (base : ℕ) (xs ys : List ℕ) :
    fromBase base (xs ++ ys) = fromBase base xs * base ^ ys.length + fromBase base ys := by
  induction ys using List.reverseRecOn with
  | nil => simp [fromBase]
  | append_singleton ys y ih =>
      rw [← List.append_assoc, fromBase_append, fromBase_append, ih, List.length_append,
        List.length_singleton, pow_succ]
      ring

/-- Leading zeros stand for nothing. -/
theorem fromBase_replicate_zero (base k : ℕ) (ds : List ℕ) :
    fromBase base (List.replicate k 0 ++ ds) = fromBase base ds := by
  have hzero : fromBase base (List.replicate k 0) = 0 := by
    induction k with
    | zero => rfl
    | succ k ih => rw [List.replicate_succ', fromBase_append, ih, Nat.zero_mul]
  rw [fromBase_append_list, hzero, Nat.zero_mul, Nat.zero_add]

/-- A number below a power of the base has that many digits, with leading zeros. -/
theorem exists_digits (hbase : 2 ≤ base) (k : ℕ) {n : ℕ} (hn : n < base ^ k) :
    ∃ ds : List ℕ, ds.length = k ∧ (∀ d ∈ ds, d < base) ∧ fromBase base ds = n := by
  induction k generalizing n with
  | zero =>
      refine ⟨[], rfl, by simp, ?_⟩
      rw [pow_zero] at hn
      show 0 = n
      omega
  | succ k ih =>
      have hdiv : n / base < base ^ k := by
        rw [Nat.div_lt_iff_lt_mul (by omega)]
        rwa [pow_succ] at hn
      obtain ⟨ds, hlength, hlt, hvalue⟩ := ih hdiv
      refine ⟨ds ++ [n % base], by simp [hlength], ?_, ?_⟩
      · intro d hd
        rcases List.mem_append.mp hd with hd | hd
        · exact hlt d hd
        · rw [List.mem_singleton] at hd
          rw [hd]
          exact Nat.mod_lt n (by omega)
      · rw [fromBase_append, hvalue, Nat.div_add_mod']

end Digits

/-- Digits that do not start with a zero are those of the number they stand for. -/
theorem toBase_of_head {base : ℕ} (hbase : 2 ≤ base) {ds : List ℕ} (hhead : ds.head? ≠ some 0)
    (hlt : ∀ d ∈ ds, d < base) : toBase base (fromBase base ds) (fromBase base ds) = ds := by
  cases ds with
  | nil => rfl
  | cons d ds =>
      have hd : d ≠ 0 := by simpa using hhead
      exact toBase_fromBase hbase hd hlt (le_refl _)

/-- The digits of a number do not start with a zero. -/
theorem head_toBase {base : ℕ} (hbase : 2 ≤ base) (n : ℕ) : (toBase base n n).head? ≠ some 0 := by
  rcases Nat.eq_zero_or_pos n with rfl | hn
  · simp [toBase]
  · obtain ⟨d, ds, hds, hd⟩ := toBase_head hbase (le_refl n) hn
    rw [hds]
    simpa using hd

/-! ## Leading characters -/

section Leading

variable {α : Type} [DecidableEq α]

/-- A list is a number of leading copies of a value, and the rest. -/
theorem exists_leading (a : α) (l : List α) :
    ∃ k rest, l = List.replicate k a ++ rest ∧ rest.head? ≠ some a := by
  induction l with
  | nil => exact ⟨0, [], rfl, by simp⟩
  | cons b l ih =>
      by_cases hb : b = a
      · obtain ⟨k, rest, hl, hrest⟩ := ih
        exact ⟨k + 1, rest, by rw [hb, hl]; rfl, hrest⟩
      · exact ⟨0, b :: l, rfl, by simpa using hb⟩

theorem length_takeWhile_leading {a : α} {k : ℕ} {rest : List α} (h : rest.head? ≠ some a) :
    ((List.replicate k a ++ rest).takeWhile (· == a)).length = k := by
  induction k with
  | zero =>
      cases rest with
      | nil => rfl
      | cons b rest =>
          have hb : b ≠ a := by simpa using h
          simp [hb]
  | succ k ih => simpa [List.replicate_succ] using ih

end Leading

/-! ## Base58, both ways -/

/-- The characters of digits. -/
def base58Text (ds : List ℕ) : PyStr := ds.map fun d => base58btcAlphabet.getD d 0

theorem base58btcEncode_leading {k : ℕ} {rest : Bytes} (h : rest.head? ≠ some 0) :
    base58btcEncode (List.replicate k 0 ++ rest) = List.replicate k 49 ++
      base58Text (toBase 58 (fromBase 256 (rest.map UInt8.toNat)) (fromBase 256 (rest.map UInt8.toNat))) := by
  have hzeros : (List.replicate k (0 : UInt8) ++ rest).map UInt8.toNat =
      List.replicate k 0 ++ rest.map UInt8.toNat := by
    rw [List.map_append, List.map_replicate]
    rfl
  rw [base58btcEncode, length_takeWhile_leading h, hzeros, fromBase_replicate_zero]
  rfl

theorem base58Digits_append_ones (k : ℕ) {t : PyStr} {ds : List ℕ} (h : base58Digits t = some ds) :
    base58Digits (List.replicate k 49 ++ t) = some (List.replicate k 0 ++ ds) := by
  have hone : base58btcAlphabet.idxOf? 49 = some 0 := by decide
  induction k with
  | zero => exact h
  | succ k ih =>
      rw [List.replicate_succ, List.cons_append, base58Digits, hone, ih]
      rfl

theorem base58btcDecode_leading {k : ℕ} {t : PyStr} {ds : List ℕ} (h : t.head? ≠ some 49)
    (hdigits : base58Digits t = some ds) (hne : List.replicate k 49 ++ t ≠ []) :
    base58btcDecode (List.replicate k 49 ++ t) = .ok (List.replicate k 0 ++
      (toBase 256 (fromBase 58 ds) (fromBase 58 ds)).map UInt8.ofNat) := by
  rw [base58btcDecode, if_neg hne, base58Digits_append_ones k hdigits]
  dsimp only
  rw [length_takeWhile_leading h, fromBase_replicate_zero]

/-- The digits of characters, and back. -/
theorem base58Text_digits {t : PyStr} {ds : List ℕ} (h : base58Digits t = some ds) :
    base58Text ds = t ∧ ∀ d ∈ ds, d < 58 := by
  have hchar : ∀ c ∈ base58btcAlphabet, ∀ d, base58btcAlphabet.idxOf? c = some d →
      base58btcAlphabet.getD d 0 = c ∧ d < 58 := by decide
  induction t generalizing ds with
  | nil =>
      cases h
      exact ⟨rfl, by simp⟩
  | cons c t ih =>
      rw [base58Digits] at h
      split at h
      · rename_i d ds' hd hds'
        cases h
        have hmem : c ∈ base58btcAlphabet := by
          by_contra hnot
          rw [List.idxOf?_eq_none_iff.mpr hnot] at hd
          cases hd
        obtain ⟨htext, hlt⟩ := ih hds'
        obtain ⟨hc, hdlt⟩ := hchar c hmem d hd
        refine ⟨?_, ?_⟩
        · rw [base58Text, List.map_cons, hc, ← base58Text, htext]
        · intro e he
          rcases List.mem_cons.mp he with rfl | he
          · exact hdlt
          · exact hlt e he
      · cases h

/-- Characters of the alphabet have digits. -/
theorem exists_base58Digits {t : PyStr} (h : t.all isBase58 = true) : ∃ ds, base58Digits t = some ds := by
  induction t with
  | nil => exact ⟨[], rfl⟩
  | cons c t ih =>
      rw [List.all_cons, Bool.and_eq_true] at h
      obtain ⟨ds, hds⟩ := ih h.2
      have hmem : c ∈ base58btcAlphabet := by simpa [isBase58] using h.1
      obtain ⟨d, hd⟩ : ∃ d, base58btcAlphabet.idxOf? c = some d := by
        rw [← Option.isSome_iff_exists, List.isSome_idxOf?]
        exact hmem
      exact ⟨d :: ds, by rw [base58Digits, hd, hds]⟩

/-- **Decoding inverts encoding** on every text of octets that is not empty. -/
theorem base58btcDecode_ok_encode {data : Bytes} (hne : data ≠ []) :
    base58btcDecode (base58btcEncode data) = .ok data := by
  -- the leading zeros are written one by one, the rest as a number
  obtain ⟨k, rest, rfl, hrest⟩ := exists_leading (0 : UInt8) data
  rw [base58btcEncode_leading hrest]
  have hhead : (rest.map UInt8.toNat).head? ≠ some 0 := by
    cases rest with
    | nil => simp
    | cons b rest =>
        intro h
        have hb : b.toNat = 0 := by simpa using h
        obtain rfl : b = 0 := UInt8.toNat_inj.mp hb
        exact hrest rfl
  have hbytes : ∀ d ∈ rest.map UInt8.toNat, d < 256 := by
    intro d hd
    obtain ⟨b, -, rfl⟩ := List.mem_map.mp hd
    exact b.toNat_lt
  have hback := toBase_of_head (by norm_num : 2 ≤ 256) hhead hbytes
  generalize hnumber : fromBase 256 (rest.map UInt8.toNat) = number at hback
  have hlt : ∀ d ∈ toBase 58 number number, d < 58 := fun d hd => lt_of_mem_toBase (by norm_num) hd
  have hfirst : (base58Text (toBase 58 number number)).head? ≠ some 49 := by
    have hdigit := head_toBase (by norm_num : 2 ≤ 58) number
    cases hds : toBase 58 number number with
    | nil => simp [base58Text]
    | cons d ds =>
        rw [hds] at hdigit hlt
        intro h
        have hchar : base58btcAlphabet.getD d 0 = 49 := by simpa [base58Text] using h
        exact hdigit (by rw [(idxOf_base58btcAlphabet (hlt d List.mem_cons_self)).2 hchar]; rfl)
  -- the text is not empty, as the number of no octets is 0 and has no zeros before it
  have hsome : List.replicate k 49 ++ base58Text (toBase 58 number number) ≠ [] := by
    intro hnil
    obtain ⟨hk, htext⟩ := List.append_eq_nil_iff.mp hnil
    obtain rfl : k = 0 := by simpa using hk
    have hzero : number = 0 := by
      rw [← fromBase_toBase (by norm_num : 2 ≤ 58) (le_refl number), List.map_eq_nil_iff.mp htext]
      rfl
    rw [hzero] at hback
    have hnone : rest = [] := List.map_eq_nil_iff.mp hback.symm
    exact hne (by rw [hnone]; rfl)
  rw [base58btcDecode_leading hfirst (base58Digits_map hlt) hsome,
    fromBase_toBase (by norm_num) (le_refl number), hback, List.map_map]
  congr 2
  exact List.map_id'' (fun b => UInt8.ofNat_toNat) rest

/-- **Encoding inverts decoding** on every base58 string that is not empty. -/
theorem base58btcEncode_decode {s : PyStr} (hne : s ≠ []) (hs : s.all isBase58 = true) :
    ∃ data, base58btcDecode s = .ok data ∧ base58btcEncode data = s := by
  obtain ⟨k, t, rfl, ht⟩ := exists_leading (49 : ℕ) s
  rw [List.all_append, Bool.and_eq_true] at hs
  obtain ⟨ds, hdigits⟩ := exists_base58Digits hs.2
  obtain ⟨htext, hlt⟩ := base58Text_digits hdigits
  refine ⟨_, base58btcDecode_leading ht hdigits hne, ?_⟩
  have hhead : ds.head? ≠ some 0 := by
    cases ds with
    | nil => simp
    | cons d ds =>
        intro h
        obtain rfl : d = 0 := by simpa using h
        exact ht (by rw [← htext]; rfl)
  generalize hnumber : fromBase 58 ds = number
  have hoctets : ((toBase 256 number number).map UInt8.ofNat).map UInt8.toNat =
      toBase 256 number number := by
    rw [List.map_map]
    conv_rhs => rw [← List.map_id (toBase 256 number number)]
    refine List.map_congr_left fun d hd => ?_
    exact UInt8.toNat_ofNat_of_lt' (lt_of_mem_toBase (by norm_num) hd)
  have hfirst : ((toBase 256 number number).map UInt8.ofNat).head? ≠ some 0 := by
    have hdigit := head_toBase (by norm_num : 2 ≤ 256) number
    cases hds : toBase 256 number number with
    | nil => simp
    | cons d rest =>
        rw [hds] at hdigit hoctets
        intro h
        have hzero : UInt8.ofNat d = 0 := by simpa using h
        have hd : (UInt8.ofNat d).toNat = d := (List.cons.inj hoctets).1
        rw [hzero] at hd
        exact hdigit (by rw [← hd]; rfl)
  rw [base58btcEncode_leading hfirst, hoctets, fromBase_toBase (by norm_num) (le_refl number),
    ← hnumber, toBase_of_head (by norm_num) hhead hlt, htext]

/-! ## Keys -/

section Keys

/-- The number of a key with its prefix. -/
def keyNumber (key : Bytes) : ℕ := fromBase 256 ((multicodecEd25519 ++ key).map UInt8.toNat)

/-- The number of octets is below the power of their count. -/
theorem fromBase_lt {base : ℕ} {ds : List ℕ} (h : ∀ d ∈ ds, d < base) :
    fromBase base ds < base ^ ds.length := by
  induction ds using List.reverseRecOn with
  | nil => simp [fromBase]
  | append_singleton ds d ih =>
      have hd : d < base := h d (by simp)
      have hds := ih fun e he => h e (by simp [he])
      rw [fromBase_append, List.length_append, List.length_singleton, pow_succ]
      calc fromBase base ds * base + d < fromBase base ds * base + base := by omega
        _ = (fromBase base ds + 1) * base := by ring
        _ ≤ base ^ ds.length * base := Nat.mul_le_mul_right base hds

/-- The three digits `6Mk`. -/
def keyHead : List ℕ := [5, 20, 43]

/-- **Every key's number has 47 digits, of which the first three are `6Mk`**: the numbers with
this prefix lie between two multiples of the same power of 58. -/
theorem toBase_keyNumber {key : Bytes} (hlength : key.length = 32) :
    ∃ ds : List ℕ, ds.length = 44 ∧ (∀ d ∈ ds, d < 58) ∧
      toBase 58 (keyNumber key) (keyNumber key) = keyHead ++ ds := by
  have hoctets : ∀ d ∈ key.map UInt8.toNat, d < 256 := by
    intro d hd
    obtain ⟨b, -, rfl⟩ := List.mem_map.mp hd
    exact b.toNat_lt
  have hlt := fromBase_lt hoctets
  rw [List.length_map, hlength] at hlt
  have hnumber : keyNumber key = 0xed01 * 256 ^ 32 + fromBase 256 (key.map UInt8.toNat) := by
    rw [keyNumber, List.map_append, fromBase_append_list, List.length_map, hlength]
    rfl
  have hdiv : keyNumber key / 58 ^ 44 = fromBase 58 keyHead := by
    show _ = 18023
    rw [hnumber, Nat.div_eq_iff (by norm_num)]
    constructor
    · norm_num at hlt ⊢
      omega
    · norm_num at hlt ⊢
      omega
  obtain ⟨ds, hdigits, hds, hrest⟩ := exists_digits (by norm_num : 2 ≤ 58) 44
    (Nat.mod_lt (keyNumber key) (by norm_num : 0 < 58 ^ 44))
  have hvalue : fromBase 58 (keyHead ++ ds) = keyNumber key := by
    rw [fromBase_append_list, hdigits, hrest, ← hdiv, Nat.div_add_mod']
  refine ⟨ds, hdigits, hds, ?_⟩
  rw [← hvalue]
  refine toBase_of_head (by norm_num) (by simp [keyHead]) ?_
  intro d hd
  rcases List.mem_append.mp hd with hd | hd
  · have hhead : ∀ d ∈ keyHead, d < 58 := by decide
    exact hhead d hd
  · exact hds d hd

theorem isBase58_of_digit {d : ℕ} (h : d < 58) : isBase58 (base58btcAlphabet.getD d 0) = true := by
  interval_cases d <;> decide

theorem encode_key {key : Bytes} (hlength : key.length = 32) :
    ∃ ds : List ℕ, ds.length = 44 ∧ (∀ d ∈ ds, d < 58) ∧
      base58btcEncode (multicodecEd25519 ++ key) = py "6Mk" ++ base58Text ds := by
  obtain ⟨ds, hdigits, hds, hbase⟩ := toBase_keyNumber hlength
  refine ⟨ds, hdigits, hds, ?_⟩
  have hhead : (multicodecEd25519 ++ key).head? ≠ some 0 := by simp [multicodecEd25519]
  have hencode := base58btcEncode_leading (k := 0) hhead
  simp only [List.replicate_zero, List.nil_append] at hencode
  rw [← keyNumber, hbase] at hencode
  rw [hencode, base58Text, List.map_append]
  rfl

/-- The DID of 32 octets matches the pattern. -/
theorem isDid_encode {key : Bytes} (hlength : key.length = 32) :
    isDid (py "did:key:z" ++ base58btcEncode (multicodecEd25519 ++ key)) = true := by
  obtain ⟨ds, hdigits, hds, hencode⟩ := encode_key hlength
  have hsplit : py "did:key:z" ++ (py "6Mk" ++ base58Text ds) = py "did:key:z6Mk" ++ base58Text ds := by
    rw [← List.append_assoc]
    rfl
  have hdrop : (py "did:key:z6Mk" ++ base58Text ds).drop 12 = base58Text ds := List.drop_left' rfl
  rw [isDid, hencode, hsplit, hdrop]
  simp only [Bool.and_eq_true, beq_iff_eq, List.all_eq_true]
  refine ⟨⟨startsWith_iff.mpr (List.prefix_append _ _), by rw [base58Text, List.length_map, hdigits]⟩, ?_⟩
  intro c hc
  obtain ⟨d, hd, rfl⟩ := List.mem_map.mp hc
  exact isBase58_of_digit (hds d hd)

/-- What an accepted DID is made of. -/
theorem publicKeyFromDid_eq_ok {did : PyStr} {key : Bytes} (h : publicKeyFromDid did = .ok key) :
    key.length = 32 ∧ did = py "did:key:z" ++ base58btcEncode (multicodecEd25519 ++ key) := by
  unfold publicKeyFromDid validateDid at h
  by_cases hdid : isDid did = true
  swap
  · rw [if_neg hdid] at h
    cases h
  rw [if_pos hdid] at h
  change (base58btcDecode (removePrefix (py "did:key:z") did) >>= _) = _ at h
  obtain ⟨decoded, hdecoded, h⟩ := PyResult.bind_ok h
  split_ifs at h with hform
  cases h
  rw [not_or, not_not, not_not] at hform
  obtain ⟨hlength, key, rfl⟩ := hform
  rw [isDid, Bool.and_eq_true, Bool.and_eq_true, beq_iff_eq] at hdid
  obtain ⟨⟨hstart, -⟩, hall⟩ := hdid
  obtain ⟨tail, rfl⟩ := startsWith_iff.mp hstart
  have hsplit : py "did:key:z6Mk" ++ tail = py "did:key:z" ++ (py "6Mk" ++ tail) := by
    rw [← List.append_assoc]
    rfl
  have hdrop : (py "did:key:z6Mk" ++ tail).drop 12 = tail := List.drop_left' rfl
  rw [hdrop] at hall
  rw [hsplit, removePrefix_append] at hdecoded
  have hbase58 : (py "6Mk" ++ tail).all isBase58 = true := by
    rw [List.all_append, hall, Bool.and_true]
    decide
  obtain ⟨data, hdata, hencode⟩ := base58btcEncode_decode (by simp [py]) hbase58
  rw [hdecoded] at hdata
  cases hdata
  have hkey : (multicodecEd25519 ++ key).drop 2 = key := List.drop_left' rfl
  rw [hkey, hencode, hsplit]
  refine ⟨?_, rfl⟩
  rw [List.length_append] at hlength
  have htwo : multicodecEd25519.length = 2 := rfl
  omega

theorem publicKeyFromDid_encode {key : Bytes} (hlength : key.length = 32) :
    publicKeyFromDid (py "did:key:z" ++ base58btcEncode (multicodecEd25519 ++ key)) = .ok key := by
  have hne : multicodecEd25519 ++ key ≠ [] := by simp [multicodecEd25519]
  have hdecode := base58btcDecode_ok_encode hne
  have hprefix : (multicodecEd25519 ++ key).drop 2 = key := List.drop_left' rfl
  simp only [publicKeyFromDid, validateDid, isDid_encode hlength, if_true, bind, Except.bind,
    removePrefix_append, hdecode]
  rw [if_neg, hprefix]
  simp [multicodecEd25519, hlength]

variable [Platform]

/-- **DIDs and keys correspond one to one.**  The DID of a key matches the pattern and decodes
to the octets of the key; an accepted DID is the DID of the octets it decodes to, so no two of
them denote one key; and the two base58 functions are inverse to each other, leading zeros
included. -/
theorem did_bijection :
    (∀ key : Bytes, key.length = 32 →
      isDid (py "did:key:z" ++ base58btcEncode (multicodecEd25519 ++ key)) = true ∧
        publicKeyFromDid (py "did:key:z" ++ base58btcEncode (multicodecEd25519 ++ key)) = .ok key) ∧
    (∀ privateKey : Platform.PrivateKey, ∃ did, didFromPrivateKey privateKey = .ok did ∧
      did = py "did:key:z" ++ base58btcEncode (multicodecEd25519 ++ Platform.publicBytes privateKey) ∧
      publicKeyFromDid did = .ok (Platform.publicBytes privateKey)) ∧
    (∀ did key, publicKeyFromDid did = .ok key →
      did = py "did:key:z" ++ base58btcEncode (multicodecEd25519 ++ key)) ∧
    (∀ did did' key, publicKeyFromDid did = .ok key → publicKeyFromDid did' = .ok key → did = did') ∧
    (∀ data : Bytes, data ≠ [] → base58btcDecode (base58btcEncode data) = .ok data) ∧
    (∀ s : PyStr, s ≠ [] → s.all isBase58 = true →
      ∃ data, base58btcDecode s = .ok data ∧ base58btcEncode data = s) := by
  refine ⟨?_, ?_, ?_, ?_, fun data => base58btcDecode_ok_encode, fun s => base58btcEncode_decode⟩
  · intro key hlength
    exact ⟨isDid_encode hlength, publicKeyFromDid_encode hlength⟩
  · intro privateKey
    have hlength := Platform.length_publicBytes privateKey
    exact ⟨_, by rw [didFromPrivateKey, if_pos (isDid_encode hlength)], rfl,
      publicKeyFromDid_encode hlength⟩
  · intro did key h
    exact (publicKeyFromDid_eq_ok h).2
  · intro did did' key h h'
    rw [(publicKeyFromDid_eq_ok h).2, (publicKeyFromDid_eq_ok h').2]

end Keys

section Samples

open Sample

/-- 32 octets of a key. -/
def sampleOctets : Bytes := List.replicate 32 7

/-- The DID of the sample key, written out, is the one that the key encodes to; and leading zeros are
kept. -/
theorem did_bijection_sample :
    publicKeyFromDid (py "did:key:z" ++ base58btcEncode (multicodecEd25519 ++ sampleOctets)) =
        .ok sampleOctets ∧
      did = py "did:key:z" ++ base58btcEncode (multicodecEd25519 ++ Platform.publicBytes key) ∧
      base58btcDecode (base58btcEncode [0, 0, 7]) = .ok [0, 0, 7] ∧
      ∃ data, base58btcDecode (py "118") = .ok data ∧ base58btcEncode data = py "118" := by
  obtain ⟨encoded, hencoded, -, hdecoded⟩ := did_bijection.2.1 key
  rw [did_eq] at hencoded
  cases hencoded
  refine ⟨(did_bijection.1 sampleOctets rfl).2, ?_, did_bijection.2.2.2.2.1 [0, 0, 7] (by decide),
    did_bijection.2.2.2.2.2 (py "118") (by decide) (by decide)⟩
  exact did_bijection.2.2.2.1 _ _ _ hdecoded
    (publicKeyFromDid_encode (Platform.length_publicBytes key))

end Samples

end Crypto
