/-
# Python text and bytes

The interpreter's `str` and `bytes`, as far as the modelled code uses them.

* `PyStr` is a list of code points.  Python strings may hold lone surrogates
  (`json.loads` produces them), so Lean's `Char` would be too small.
* `Bytes` is a list of octets.
* `decimal` / `ofDecimal` are `str(n)` and `int(s)` on naturals, with the round
  trip `ofDecimal_decimal` and the length bound `length_decimal_le_iff`.
-/
import Mathlib.Data.List.AList
import Mathlib.Data.List.Sort
import Mathlib.Data.List.TakeWhile
import Mathlib.Tactic

/-- A Python `str`: its code points, lone surrogates included. -/
abbrev PyStr := List ℕ

/-- A Python `bytes` object. -/
abbrev Bytes := List UInt8

/-- A literal of the source, as the code points Python sees. -/
def py (s : String) : PyStr := s.toList.map Char.toNat

namespace PyText

/-! ## Character classes of the source's patterns -/

/-- `[0-9]` -/
def isDigit (c : ℕ) : Bool := 48 ≤ c && c ≤ 57

/-- `[A-Z]` -/
def isUpper (c : ℕ) : Bool := 65 ≤ c && c ≤ 90

/-- `[a-z]` -/
def isLower (c : ℕ) : Bool := 97 ≤ c && c ≤ 122

/-- `[A-Za-z]` -/
def isAlpha (c : ℕ) : Bool := isUpper c || isLower c

/-- `[A-Za-z0-9]` -/
def isAlnum (c : ℕ) : Bool := isAlpha c || isDigit c

/-- `[0-9a-f]` -/
def isHexLower (c : ℕ) : Bool := isDigit c || (97 ≤ c && c ≤ 102)

/-- `str.isascii` on one character. -/
def isAscii (c : ℕ) : Bool := c < 128

/-- A surrogate code point (general category `Cs`). -/
def isSurrogate (c : ℕ) : Bool := 0xD800 ≤ c && c ≤ 0xDFFF

/-- A Unicode scalar value: a code point that UTF-8 can carry. -/
def isScalar (c : ℕ) : Bool := !isSurrogate c && c < 0x110000

theorem isScalar_of_isAscii {c : ℕ} (h : isAscii c = true) : isScalar c = true := by
  simp only [isAscii, decide_eq_true_eq] at h
  simp only [isScalar, isSurrogate, Bool.and_eq_true, Bool.not_eq_true', Bool.and_eq_false_iff,
    decide_eq_false_iff_not, decide_eq_true_eq]
  omega

theorem isAscii_of_isDigit {c : ℕ} (h : isDigit c = true) : isAscii c = true := by
  simp only [isDigit, Bool.and_eq_true, decide_eq_true_eq] at h
  simp only [isAscii, decide_eq_true_eq]
  omega

theorem isAscii_of_isAlnum {c : ℕ} (h : isAlnum c = true) : isAscii c = true := by
  simp only [isAlnum, isAlpha, isUpper, isLower, isDigit, Bool.or_eq_true, Bool.and_eq_true,
    decide_eq_true_eq] at h
  simp only [isAscii, decide_eq_true_eq]
  omega

theorem isAscii_of_isHexLower {c : ℕ} (h : isHexLower c = true) : isAscii c = true := by
  simp only [isHexLower, isDigit, Bool.or_eq_true, Bool.and_eq_true, decide_eq_true_eq] at h
  simp only [isAscii, decide_eq_true_eq]
  omega

/-- The whitespace that `str.strip` and `str.isspace` recognise. -/
def isSpace (c : ℕ) : Bool :=
  (9 ≤ c && c ≤ 13) || (28 ≤ c && c ≤ 32) || c == 0x85 || c == 0xA0 || c == 0x1680 ||
    (0x2000 ≤ c && c ≤ 0x200A) || c == 0x2028 || c == 0x2029 || c == 0x202F || c == 0x205F ||
    c == 0x3000

/-! ## String methods -/

/-- `s.startswith(p)` -/
def startsWith (p s : PyStr) : Bool := p.isPrefixOf s

/-- `s.endswith(p)` -/
def endsWith (p s : PyStr) : Bool := p.isSuffixOf s

/-- `s.removeprefix(p)` -/
def removePrefix (p s : PyStr) : PyStr := if startsWith p s then s.drop p.length else s

/-- `s.lstrip(chars)`, the characters given by a predicate. -/
def lstripBy (f : ℕ → Bool) (s : PyStr) : PyStr := s.dropWhile f

/-- `s.strip()` -/
def strip (s : PyStr) : PyStr := ((s.dropWhile isSpace).reverse.dropWhile isSpace).reverse

/-- `s.partition(c)` without the separator: the text before the first `c`, and,
when there is one, the text after it. -/
def cut (c : ℕ) (s : PyStr) : PyStr × Option PyStr :=
  match s.dropWhile (· != c) with
  | [] => (s.takeWhile (· != c), none)
  | _ :: rest => (s.takeWhile (· != c), some rest)

/-- `str.lower` on an ASCII letter; other characters are kept. -/
def asciiLower (c : ℕ) : ℕ := if isUpper c then c + 32 else c

/-- `s.lower()` and `s.casefold()` on ASCII text, the only text the source folds. -/
def casefold (s : PyStr) : PyStr := s.map asciiLower

theorem strip_of_ends {a b : ℕ} {s : PyStr} (ha : isSpace a = false) (hb : isSpace b = false) :
    strip (a :: s ++ [b]) = a :: s ++ [b] := by
  have hfront : (a :: s ++ [b]).dropWhile isSpace = a :: s ++ [b] := by
    rw [List.cons_append, List.dropWhile_cons_of_neg (by simp [ha])]
  have hback : (a :: s ++ [b]).reverse = b :: (a :: s).reverse := by
    rw [List.reverse_append, List.reverse_singleton, List.singleton_append]
  rw [strip, hfront, hback, List.dropWhile_cons_of_neg (by simp [hb]), ← hback,
    List.reverse_reverse]

/-- `startsWith` is the list-prefix relation. -/
theorem startsWith_iff {p s : PyStr} : startsWith p s = true ↔ p <+: s := by
  simp [startsWith]

theorem removePrefix_append (p s : PyStr) : removePrefix p (p ++ s) = s := by
  have h : startsWith p (p ++ s) = true := startsWith_iff.mpr (List.prefix_append p s)
  simp [removePrefix, h]

/-- Cutting at a character that does not occur leaves the string whole. -/
theorem cut_of_notMem {c : ℕ} {s : PyStr} (h : c ∉ s) : cut c s = (s, none) := by
  have hall : ∀ x ∈ s, (x != c) = true := by
    intro x hx
    simp only [bne_iff_ne, ne_eq]
    rintro rfl
    exact h hx
  rw [cut, List.dropWhile_eq_nil_iff.mpr hall, List.takeWhile_eq_self_iff.mpr hall]

/-- Cutting at the first separator. -/
theorem cut_append {c : ℕ} {s t : PyStr} (h : c ∉ s) : cut c (s ++ c :: t) = (s, some t) := by
  have hall : ∀ x ∈ s, (x != c) = true := by
    intro x hx
    simp only [bne_iff_ne, ne_eq]
    rintro rfl
    exact h hx
  rw [cut, List.dropWhile_append_of_pos hall, List.takeWhile_append_of_pos hall]
  simp

/-! ## Decimal numerals -/

/-- `str(n)` for a natural number. -/
def decimal (n : ℕ) : PyStr := (Nat.toDigits 10 n).map Char.toNat

/-- `int(s)` for a string of ASCII digits. -/
def ofDecimal (s : PyStr) : ℕ := s.foldl (fun acc c => 10 * acc + (c - 48)) 0

theorem ofDecimal_decimal (n : ℕ) : ofDecimal (decimal n) = n := by
  have h : ofDecimal (decimal n) = Nat.ofDigitChars 10 (Nat.toDigits 10 n) 0 := by
    rw [Nat.ofDigitChars_eq_foldl, ofDecimal, decimal, List.foldl_map]
    rfl
  rw [h, Nat.ofDigitChars_ten_toDigits]

theorem decimal_ne_nil (n : ℕ) : decimal n ≠ [] := by
  simp [decimal, Nat.toDigits_ne_nil]

theorem isDigit_of_mem_decimal {n c : ℕ} (h : c ∈ decimal n) : isDigit c = true := by
  obtain ⟨d, hd, rfl⟩ := List.mem_map.mp h
  have hdigit := Nat.isDigit_of_mem_toDigits (by norm_num) (by norm_num) hd
  simp only [Char.isDigit, Bool.and_eq_true, decide_eq_true_eq, ge_iff_le,
    UInt32.le_iff_toNat_le] at hdigit
  have h0 : '0'.val.toNat = 48 := rfl
  have h9 : '9'.val.toNat = 57 := rfl
  rw [h0, h9] at hdigit
  simp only [isDigit, Bool.and_eq_true, decide_eq_true_eq]
  exact hdigit

/-- `str(n)` has at most `k` characters exactly when `n < 10 ^ k`. -/
theorem length_decimal_le_iff {n k : ℕ} (hk : 0 < k) : (decimal n).length ≤ k ↔ n < 10 ^ k := by
  rw [decimal, List.length_map, Nat.length_toDigits_le_iff (by norm_num) hk]

/-- A numeral is `0` or does not start with the digit `0`. -/
theorem decimal_head_ne_zero {n : ℕ} (hn : 0 < n) : (decimal n).head? ≠ some 48 := by
  induction n using Nat.strong_induction_on with
  | _ n ih =>
      by_cases hlt : n < 10
      · rw [decimal, Nat.toDigits_of_lt_base hlt]
        interval_cases n <;> decide
      · have hdiv : 0 < n / 10 := Nat.div_pos (by omega) (by norm_num)
        have hstep : decimal n = decimal (n / 10) ++ [(Nat.digitChar (n % 10)).toNat] := by
          rw [decimal, Nat.toDigits_of_base_le (by norm_num) (by omega), List.map_append]
          rfl
        rw [hstep, List.head?_append_of_ne_nil _ (decimal_ne_nil _)]
        exact ih (n / 10) (by omega) hdiv

/-- `str(z)` for an integer. -/
def decimalInt (z : ℤ) : PyStr :=
  if z < 0 then 45 :: decimal z.natAbs else decimal z.natAbs

/-! ## Bytes -/

/-- The octets of ASCII text. -/
def toAscii (s : PyStr) : Bytes := s.map UInt8.ofNat

/-- The code points of ASCII octets. -/
def ofAscii (b : Bytes) : PyStr := b.map UInt8.toNat

theorem ofAscii_toAscii {s : PyStr} (h : ∀ c ∈ s, isAscii c = true) : ofAscii (toAscii s) = s := by
  rw [ofAscii, toAscii, List.map_map]
  conv_rhs => rw [← List.map_id s]
  apply List.map_congr_left
  intro c hc
  have hlt : c < 128 := by simpa [isAscii] using h c hc
  simp only [Function.comp, id, UInt8.toNat_ofNat']
  omega

/-- `s.encode("utf-8")` on one scalar value. -/
def utf8Char (c : ℕ) : Bytes :=
  if c < 0x80 then [UInt8.ofNat c]
  else if c < 0x800 then [UInt8.ofNat (0xC0 + c / 64), UInt8.ofNat (0x80 + c % 64)]
  else if c < 0x10000 then
    [UInt8.ofNat (0xE0 + c / 4096), UInt8.ofNat (0x80 + c / 64 % 64), UInt8.ofNat (0x80 + c % 64)]
  else
    [UInt8.ofNat (0xF0 + c / 262144), UInt8.ofNat (0x80 + c / 4096 % 64),
      UInt8.ofNat (0x80 + c / 64 % 64), UInt8.ofNat (0x80 + c % 64)]

/-- `s.encode("utf-8")`; `none` stands for the `UnicodeEncodeError` on a surrogate. -/
def encodeUtf8 (s : PyStr) : Option Bytes :=
  if s.all isScalar then some (s.flatMap utf8Char) else none

theorem encodeUtf8_ascii {s : PyStr} (h : ∀ c ∈ s, isAscii c = true) :
    encodeUtf8 s = some (toAscii s) := by
  have hall : s.all isScalar = true :=
    List.all_eq_true.mpr fun c hc => isScalar_of_isAscii (h c hc)
  rw [encodeUtf8, if_pos hall, toAscii, ← List.flatMap_pure_eq_map]
  congr 1
  apply List.flatMap_congr
  intro c hc
  have hlt : c < 128 := by simpa [isAscii] using h c hc
  simp [utf8Char, hlt]

end PyText
