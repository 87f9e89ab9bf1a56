/-
# UTF-8

`encode` writes every scalar value as one to four octets, and `decode` reads them back: a text is
determined by its octets.

* `decodeUtf8_utf8Char` : the octets of one scalar value;
* `encodeUtf8_injOn`    : **two texts with the same octets are the same**.
-/
import SafeAgent.JsonRoundTrip

open PyText

namespace Json

theorem toNat_ofNat_octet {n : ℕ} (h : n < 256) : (UInt8.ofNat n).toNat = n := by
  rw [UInt8.toNat_ofNat']
  omega

theorem ofNat_le_ofNat {m n : ℕ} (hm : m < 256) (hn : n < 256) :
    UInt8.ofNat m ≤ UInt8.ofNat n ↔ m ≤ n := by
  rw [UInt8.le_iff_toNat_le, toNat_ofNat_octet hm, toNat_ofNat_octet hn]

theorem isCont_ofNat {n : ℕ} (h : n < 64) : isCont (UInt8.ofNat (0x80 + n)) = true := by
  have hlow : UInt8.ofNat 0x80 ≤ UInt8.ofNat (0x80 + n) :=
    (ofNat_le_ofNat (by omega) (by omega)).mpr (by omega)
  have hhigh : UInt8.ofNat (0x80 + n) ≤ UInt8.ofNat 0xBF :=
    (ofNat_le_ofNat (by omega) (by omega)).mpr (by omega)
  rw [isCont, Bool.and_eq_true, decide_eq_true_eq, decide_eq_true_eq]
  exact ⟨hlow, hhigh⟩

theorem not_lt_0x80 {n : ℕ} (hn : n < 256) (h : 0x80 ≤ n) : ¬UInt8.ofNat n < 0x80 := by
  rw [UInt8.lt_iff_toNat_lt, toNat_ofNat_octet hn]
  exact not_lt.mpr h

section Octets

variable {c : ℕ} (rest : Bytes)

theorem decodeUtf8_two (hlow : 0x80 ≤ c) (hhigh : c < 0x800) :
    decodeUtf8 (utf8Char c ++ rest) = (c :: ·) <$> decodeUtf8 rest := by
  have hb0 : 0xC0 + c / 64 < 256 := by omega
  have hfirst : (0xC2 : UInt8) ≤ UInt8.ofNat (0xC0 + c / 64) :=
    (ofNat_le_ofNat (m := 0xC2) (by omega) hb0).mpr (by omega)
  have hlast : UInt8.ofNat (0xC0 + c / 64) ≤ (0xDF : UInt8) :=
    (ofNat_le_ofNat (n := 0xDF) hb0 (by omega)).mpr (by omega)
  have hcont := isCont_ofNat (Nat.mod_lt c (by decide : 0 < 64))
  have hvalue : (UInt8.ofNat (0xC0 + c / 64)).toNat - 0xC0 = c / 64 := by
    rw [toNat_ofNat_octet hb0]
    omega
  have hvalue1 : (UInt8.ofNat (0x80 + c % 64)).toNat - 0x80 = c % 64 := by
    rw [toNat_ofNat_octet (by omega)]
    omega
  have hsum : c / 64 * 64 + c % 64 = c := by omega
  rw [utf8Char, if_neg (by omega), if_pos hhigh, List.cons_append, List.cons_append,
    List.nil_append, decodeUtf8.eq_def]
  dsimp only
  rw [if_neg (not_lt_0x80 hb0 (by omega)), if_pos, hvalue, hvalue1, hsum]
  rw [hcont, decide_eq_true hfirst, decide_eq_true hlast]
  rfl

theorem ofNat_ne_of_lt {m n : ℕ} (hm : m < 256) (hn : n < 256) (h : m < n) :
    UInt8.ofNat n ≠ UInt8.ofNat m := by
  intro heq
  have hnat := congrArg UInt8.toNat heq
  rw [toNat_ofNat_octet hm, toNat_ofNat_octet hn] at hnat
  omega

theorem decodeUtf8_three (hlow : 0x800 ≤ c) (hhigh : c < 0x10000) :
    decodeUtf8 (utf8Char c ++ rest) = (c :: ·) <$> decodeUtf8 rest := by
  have hb0 : 0xE0 + c / 4096 < 256 := by omega
  have hb1 : 0x80 + c / 64 % 64 < 256 := by omega
  have hfirst : (0xE0 : UInt8) ≤ UInt8.ofNat (0xE0 + c / 4096) :=
    (ofNat_le_ofNat (m := 0xE0) (by omega) hb0).mpr (by omega)
  have hlast : UInt8.ofNat (0xE0 + c / 4096) ≤ (0xEF : UInt8) :=
    (ofNat_le_ofNat (n := 0xEF) hb0 (by omega)).mpr (by omega)
  have hlong : ¬UInt8.ofNat (0xE0 + c / 4096) ≤ (0xDF : UInt8) := fun h =>
    absurd ((ofNat_le_ofNat (n := 0xDF) hb0 (by omega)).mp h) (by omega)
  have hcont1 := isCont_ofNat (Nat.mod_lt (c / 64) (by decide : 0 < 64))
  have hcont2 := isCont_ofNat (Nat.mod_lt c (by decide : 0 < 64))
  -- an overlong form would start with `E0` and a small second octet
  have hshortest : (UInt8.ofNat (0xE0 + c / 4096) != 0xE0 ||
      decide (0xA0 ≤ UInt8.ofNat (0x80 + c / 64 % 64))) = true := by
    rw [Bool.or_eq_true, bne_iff_ne, decide_eq_true_eq]
    by_cases h : c < 0x1000
    · exact Or.inr ((ofNat_le_ofNat (m := 0xA0) (by omega) hb1).mpr (by omega))
    · exact Or.inl (ofNat_ne_of_lt (m := 0xE0) (by omega) hb0 (by omega))
  have hvalue : (UInt8.ofNat (0xE0 + c / 4096)).toNat - 0xE0 = c / 4096 := by
    rw [toNat_ofNat_octet hb0]
    omega
  have hvalue1 : (UInt8.ofNat (0x80 + c / 64 % 64)).toNat - 0x80 = c / 64 % 64 := by
    rw [toNat_ofNat_octet hb1]
    omega
  have hvalue2 : (UInt8.ofNat (0x80 + c % 64)).toNat - 0x80 = c % 64 := by
    rw [toNat_ofNat_octet (by omega)]
    omega
  have hsum : c / 4096 * 4096 + c / 64 % 64 * 64 + c % 64 = c := by omega
  rw [utf8Char, if_neg (by omega), if_neg (by omega), if_pos hhigh, List.cons_append,
    List.cons_append, List.cons_append, List.nil_append, decodeUtf8.eq_def]
  dsimp only
  rw [if_neg (not_lt_0x80 hb0 (by omega)), if_neg, if_pos, hvalue, hvalue1, hvalue2, hsum]
  · rw [hshortest, hcont1, hcont2, decide_eq_true hfirst, decide_eq_true hlast]
    rfl
  · rw [decide_eq_false hlong, Bool.and_false, Bool.false_and]
    exact Bool.false_ne_true

theorem decodeUtf8_four (hlow : 0x10000 ≤ c) (hhigh : c < 0x110000) :
    decodeUtf8 (utf8Char c ++ rest) = (c :: ·) <$> decodeUtf8 rest := by
  have hb0 : 0xF0 + c / 262144 < 256 := by omega
  have hb1 : 0x80 + c / 4096 % 64 < 256 := by omega
  have hfirst : (0xF0 : UInt8) ≤ UInt8.ofNat (0xF0 + c / 262144) :=
    (ofNat_le_ofNat (m := 0xF0) (by omega) hb0).mpr (by omega)
  have hlast : UInt8.ofNat (0xF0 + c / 262144) ≤ (0xF4 : UInt8) :=
    (ofNat_le_ofNat (n := 0xF4) hb0 (by omega)).mpr (by omega)
  have hlong : ¬UInt8.ofNat (0xF0 + c / 262144) ≤ (0xDF : UInt8) := fun h =>
    absurd ((ofNat_le_ofNat (n := 0xDF) hb0 (by omega)).mp h) (by omega)
  have hlonger : ¬UInt8.ofNat (0xF0 + c / 262144) ≤ (0xEF : UInt8) := fun h =>
    absurd ((ofNat_le_ofNat (n := 0xEF) hb0 (by omega)).mp h) (by omega)
  have hcont1 := isCont_ofNat (Nat.mod_lt (c / 4096) (by decide : 0 < 64))
  have hcont2 := isCont_ofNat (Nat.mod_lt (c / 64) (by decide : 0 < 64))
  have hcont3 := isCont_ofNat (Nat.mod_lt c (by decide : 0 < 64))
  have hshortest : (UInt8.ofNat (0xF0 + c / 262144) != 0xF0 ||
      decide (0x90 ≤ UInt8.ofNat (0x80 + c / 4096 % 64))) = true := by
    rw [Bool.or_eq_true, bne_iff_ne, decide_eq_true_eq]
    by_cases h : c < 0x40000
    · exact Or.inr ((ofNat_le_ofNat (m := 0x90) (by omega) hb1).mpr (by omega))
    · exact Or.inl (ofNat_ne_of_lt (m := 0xF0) (by omega) hb0 (by omega))
  -- nothing above `10FFFF`
  have hlargest : (UInt8.ofNat (0xF0 + c / 262144) != 0xF4 ||
      decide (UInt8.ofNat (0x80 + c / 4096 % 64) ≤ 0x8F)) = true := by
    rw [Bool.or_eq_true, bne_iff_ne, decide_eq_true_eq]
    by_cases h : c < 0x100000
    · exact Or.inl (ofNat_ne_of_lt (n := 0xF4) hb0 (by omega) (by omega)).symm
    · exact Or.inr ((ofNat_le_ofNat (n := 0x8F) hb1 (by omega)).mpr (by omega))
  have hvalue : (UInt8.ofNat (0xF0 + c / 262144)).toNat - 0xF0 = c / 262144 := by
    rw [toNat_ofNat_octet hb0]
    omega
  have hvalue1 : (UInt8.ofNat (0x80 + c / 4096 % 64)).toNat - 0x80 = c / 4096 % 64 := by
    rw [toNat_ofNat_octet hb1]
    omega
  have hvalue2 : (UInt8.ofNat (0x80 + c / 64 % 64)).toNat - 0x80 = c / 64 % 64 := by
    rw [toNat_ofNat_octet (by omega)]
    omega
  have hvalue3 : (UInt8.ofNat (0x80 + c % 64)).toNat - 0x80 = c % 64 := by
    rw [toNat_ofNat_octet (by omega)]
    omega
  have hsum : c / 262144 * 262144 + c / 4096 % 64 * 4096 + c / 64 % 64 * 64 + c % 64 = c := by omega
  rw [utf8Char, if_neg (by omega), if_neg (by omega), if_neg (by omega), List.cons_append,
    List.cons_append, List.cons_append, List.cons_append, List.nil_append, decodeUtf8.eq_def]
  dsimp only
  rw [if_neg (not_lt_0x80 hb0 (by omega)), if_neg, if_neg, if_pos, hvalue, hvalue1, hvalue2, hvalue3,
    hsum]
  · rw [hshortest, hlargest, hcont1, hcont2, hcont3, decide_eq_true hfirst, decide_eq_true hlast]
    rfl
  · rw [decide_eq_false hlonger, Bool.and_false, Bool.false_and]
    exact Bool.false_ne_true
  · rw [decide_eq_false hlong, Bool.and_false, Bool.false_and]
    exact Bool.false_ne_true

/-- The octets of one scalar value are read back. -/
theorem decodeUtf8_utf8Char (h : isScalar c = true) :
    decodeUtf8 (utf8Char c ++ rest) = (c :: ·) <$> decodeUtf8 rest := by
  have hbound : c < 0x110000 := by
    rw [isScalar, Bool.and_eq_true, decide_eq_true_eq] at h
    exact h.2
  by_cases hone : c < 0x80
  · have hlt : UInt8.ofNat c < 0x80 := by
      rw [UInt8.lt_iff_toNat_lt, toNat_ofNat_ascii hone]
      exact hone
    rw [utf8Char, if_pos hone, List.cons_append, List.nil_append, decodeUtf8.eq_def]
    dsimp only
    rw [if_pos hlt, toNat_ofNat_ascii hone]
  by_cases htwo : c < 0x800
  · exact decodeUtf8_two rest (by omega) htwo
  by_cases hthree : c < 0x10000
  · exact decodeUtf8_three rest (by omega) hthree
  · exact decodeUtf8_four rest (by omega) hbound

end Octets

/-- What was encoded is decoded. -/
theorem decodeUtf8_encodeUtf8 {s : PyStr} {octets : Bytes} (h : encodeUtf8 s = some octets) :
    decodeUtf8 octets = some s := by
  unfold encodeUtf8 at h
  split_ifs at h with hall
  cases h
  rw [List.all_eq_true] at hall
  induction s with
  | nil => rfl
  | cons c s ih =>
      rw [List.flatMap_cons, decodeUtf8_utf8Char _ (hall c (List.mem_cons_self)),
        ih fun d hd => hall d (List.mem_cons_of_mem c hd)]
      rfl

/-- **Two texts with the same octets are the same.** -/
theorem encodeUtf8_injOn {s t : PyStr} {octets : Bytes} (hs : encodeUtf8 s = some octets)
    (ht : encodeUtf8 t = some octets) : s = t := by
  have hread := decodeUtf8_encodeUtf8 hs
  rw [decodeUtf8_encodeUtf8 ht] at hread
  exact (Option.some.inj hread).symm

/-- ASCII text adds one octet for each character. -/
theorem encodeUtf8_append_ascii {s t : PyStr} {octets : Bytes} (hs : encodeUtf8 s = some octets)
    (ht : ∀ c ∈ t, isAscii c = true) : encodeUtf8 (s ++ t) = some (octets ++ toAscii t) := by
  have hall : t.all isScalar = true :=
    List.all_eq_true.mpr fun c hc => isScalar_of_isAscii (ht c hc)
  have htext := encodeUtf8_ascii ht
  unfold encodeUtf8 at hs htext ⊢
  split_ifs at hs with hscalar
  cases hs
  rw [if_pos hall, Option.some.injEq] at htext
  rw [List.all_append, hscalar, hall, Bool.and_self, if_pos rfl, List.flatMap_append, htext]

end Json
