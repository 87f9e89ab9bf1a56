/-
# How long a JSON text is

The shortest text of a value has no white space, writes in UTF-8 what may stand for itself, and
escapes the rest in the shortest way.  Every other text of the value is at least as long.

* `shortEscape`   : the shortest way to write a code point in a string;
* `cost`          : the octets of the shortest text of a value, its floats aside;
* `loadsStr_cost` : **a text that is read takes at least what its value costs**;
* `octets_render` : **and the shortest text takes just that**.
-/
import SafeAgent.JsonScanner

namespace Json

open PyText PyItems

/-! ## Octets -/

/-- The octets of a text in UTF-8. -/
def octets (s : PyStr) : ℕ := (s.flatMap utf8Char).length

@[simp] theorem octets_nil : octets [] = 0 := rfl

theorem octets_append (s t : PyStr) : octets (s ++ t) = octets s + octets t := by
  rw [octets, List.flatMap_append, List.length_append]
  rfl

theorem octets_cons (c : ℕ) (s : PyStr) : octets (c :: s) = (utf8Char c).length + octets s := by
  rw [octets, List.flatMap_cons, List.length_append]
  rfl

theorem length_utf8Char (c : ℕ) : 1 ≤ (utf8Char c).length ∧ (utf8Char c).length ≤ 4 := by
  unfold utf8Char
  split_ifs <;> simp

theorem length_utf8Char_two {c : ℕ} (h : c < 0x800) : (utf8Char c).length ≤ 2 := by
  rw [utf8Char]
  split_ifs <;> simp

theorem length_utf8Char_three {c : ℕ} (h : c < 0x10000) : (utf8Char c).length ≤ 3 := by
  rw [utf8Char]
  split_ifs <;> simp

theorem length_utf8Char_ascii {c : ℕ} (h : c < 128) : (utf8Char c).length = 1 := by
  rw [utf8Char, if_pos h]
  rfl

/-- Every code point takes an octet at least. -/
theorem length_le_octets (s : PyStr) : s.length ≤ octets s := by
  induction s with
  | nil => exact le_rfl
  | cons c s ih =>
      have hc := (length_utf8Char c).1
      rw [octets_cons, List.length_cons]
      omega

theorem octets_ascii {s : PyStr} (h : ∀ c ∈ s, c < 128) : octets s = s.length := by
  induction s with
  | nil => rfl
  | cons c s ih =>
      rw [List.forall_mem_cons] at h
      rw [octets_cons, length_utf8Char_ascii h.1, ih h.2, List.length_cons, Nat.add_comm]

theorem octets_le_of_suffix {s t : PyStr} (h : s <:+ t) : octets s ≤ octets t := by
  obtain ⟨front, rfl⟩ := h
  rw [octets_append]
  exact Nat.le_add_left _ _

theorem octets_lt_of_suffix {s t : PyStr} (h : s <:+ t) (hlt : s.length < t.length) :
    octets s + 1 ≤ octets t := by
  obtain ⟨front, rfl⟩ := h
  have hle := length_le_octets front
  rw [List.length_append] at hlt
  rw [octets_append]
  omega

/-- A token and the space before it are gone. -/
theorem octets_of_skipWs {s rest : PyStr} {c : ℕ} (h : skipWs s = c :: rest) :
    octets rest + 1 ≤ octets s := by
  have hle := octets_le_of_suffix (suffix_of_skipWs h)
  have hc := (length_utf8Char c).1
  rw [octets_cons] at hle
  omega

theorem octets_cons_map_le {head width bound : ℕ} {tail : Option PyStr} {s : PyStr}
    (hwidth : (utf8Char head).length ≤ width) (ih : ∀ t, tail = some t → octets t ≤ bound)
    (hs : (head :: ·) <$> tail = some s) : octets s ≤ bound + width := by
  obtain ⟨t, ht, rfl⟩ := Option.map_eq_some_iff.mp hs
  have hle := ih t ht
  rw [octets_cons]
  omega

/-- A text takes no more octets than it was decoded from. -/
theorem octets_decodeUtf8 {raw : Bytes} {s : PyStr} (h : decodeUtf8 raw = some s) :
    octets s ≤ raw.length := by
  fun_induction decodeUtf8 raw generalizing s with
  | case1 =>
      cases h
      exact le_rfl
  | case2 b0 rest hb ih =>
      have hlow : b0.toNat < 128 := UInt8.lt_iff_toNat_lt.mp hb
      exact octets_cons_map_le (length_utf8Char_ascii hlow).le (fun _ => ih) h
  | case3 b0 hb b1 rest htwo ih =>
      simp only [Bool.and_eq_true, decide_eq_true_eq, isCont, UInt8.le_iff_toNat_le] at htwo
      obtain ⟨⟨-, hb0⟩, -, hb1⟩ := htwo
      have hb0 : b0.toNat ≤ 0xDF := hb0
      have hb1 : b1.toNat ≤ 0xBF := hb1
      have hhead : (b0.toNat - 0xC0) * 64 + (b1.toNat - 0x80) < 0x800 := by omega
      exact (octets_cons_map_le (length_utf8Char_two hhead) (fun _ => ih) h).trans le_rfl
  | case4 b0 hb b1 htwo b2 rest hthree ih =>
      simp only [Bool.and_eq_true, decide_eq_true_eq, isCont, UInt8.le_iff_toNat_le] at hthree
      obtain ⟨⟨⟨⟨-, hb0⟩, -, hb1⟩, -, hb2⟩, -⟩ := hthree
      have hb0 : b0.toNat ≤ 0xEF := hb0
      have hb1 : b1.toNat ≤ 0xBF := hb1
      have hb2 : b2.toNat ≤ 0xBF := hb2
      have hhead : (b0.toNat - 0xE0) * 4096 + (b1.toNat - 0x80) * 64 + (b2.toNat - 0x80) < 0x10000 := by
        omega
      exact (octets_cons_map_le (length_utf8Char_three hhead) (fun _ => ih) h).trans le_rfl
  | case5 b0 hb b1 htwo b2 hthree b3 rest hfour ih =>
      exact (octets_cons_map_le (length_utf8Char _).2 (fun _ => ih) h).trans le_rfl
  | case6 => cases h
  | case7 => cases h
  | case8 => cases h
  | case9 => cases h

/-! ## The cost of a value -/

/-- The shortest way to write a code point in a string. -/
def shortEscape (c : ℕ) : PyStr :=
  if c = 34 then [92, 34]
  else if c = 92 then [92, 92]
  else if c = 10 then [92, 110]
  else if c = 13 then [92, 114]
  else if c = 9 then [92, 116]
  else if c = 12 then [92, 102]
  else if c = 8 then [92, 98]
  else if c < 32 then escapeUnit c
  else [c]

theorem scanChar_shortEscape (c : ℕ) (rest : PyStr) :
    scanChar (shortEscape c ++ rest) = .ok (some c, rest) := by
  unfold shortEscape
  split_ifs with h34 h92 h10 h13 h9 h12 h8 hcontrol
  · subst h34; rfl
  · subst h92; rfl
  · subst h10; rfl
  · subst h13; rfl
  · subst h9; rfl
  · subst h12; rfl
  · subst h8; rfl
  · exact scanChar_escapeUnit (by omega) (by omega) rest
  · simp [scanChar, h34, h92, hcontrol]

/-- Short escapes spell every string. -/
theorem spelling_shortEscape : Spelling shortEscape fun _ => True where
  pos c := by
    unfold shortEscape escapeUnit
    split_ifs <;> simp
  scan _ _ rest := scanString_of_chars (fun c _ rest => scanChar_shortEscape c rest) rest

/-- The octets of the shortest text of a string, without its quotes. -/
def textCost (s : PyStr) : ℕ := octets (s.flatMap shortEscape)

@[simp] theorem textCost_nil : textCost [] = 0 := rfl

@[simp] theorem textCost_cons (c : ℕ) (s : PyStr) :
    textCost (c :: s) = octets (shortEscape c) + textCost s := by
  rw [textCost, List.flatMap_cons, octets_append]
  rfl

mutual

/-- The octets of the shortest text of a value.  A `float` can be written in many ways, and is not
counted. -/
def cost : Json → ℕ
  | .null => 4
  | .bool true => 4
  | .bool false => 5
  | .int n => (decimalInt n).length
  | .float _ => 0
  | .str s => textCost s + 2
  | .arr items => 1 + max 1 (costItems items)
  | .obj fields => 1 + max 1 (costFields fields)

/-- Every item has a comma or the closing bracket after it. -/
def costItems : List Json → ℕ
  | [] => 0
  | v :: rest => cost v + 1 + costItems rest

def costFields : JsonFields → ℕ
  | [] => 0
  | (k, v) :: rest => textCost k + 3 + cost v + 1 + costFields rest

end

/-- A member costs no more than its object. -/
theorem cost_member_le {fields : JsonFields} {kv : PyStr × Json} (h : kv ∈ fields) :
    cost kv.2 ≤ costFields fields := by
  induction fields with
  | nil => exact absurd h List.not_mem_nil
  | cons first fields ih =>
      rw [costFields]
      rcases List.mem_cons.mp h with rfl | hmem
      · omega
      · exact (ih hmem).trans (Nat.le_add_left _ _)

/-- An object costs what its members cost, in whatever order. -/
theorem costFields_eq (fields : JsonFields) :
    costFields fields = (fields.map fun kv => textCost kv.1 + 3 + cost kv.2 + 1).sum := by
  induction fields with
  | nil => rfl
  | cons kv rest ih => rw [costFields, ih, List.map_cons, List.sum_cons]

/-! ## What the scanner reads -/

/-- What was read costs no more than the text that is gone. -/
def Spends {α : Type} (price : α → ℕ) (s : PyStr) (p : α × PyStr) : Prop :=
  price p.1 + octets p.2 ≤ octets s

theorem octets_of_scanUnit {s rest : PyStr} {u : ℕ} (h : scanUnit s = some (u, rest)) :
    4 + octets rest ≤ octets s := by
  obtain ⟨digits, hfour, rfl⟩ := scanUnit_some h
  have hle := length_le_octets digits
  rw [octets_append]
  omega

theorem octets_shortEscape_le (c : ℕ) : octets (shortEscape c) ≤ 6 := by
  have hunit (u : ℕ) : octets (escapeUnit u) = 6 := by
    rw [octets_ascii]
    · rfl
    · intro d hd
      have hprintable := printable_escapeUnit hd
      omega
  unfold shortEscape
  split_ifs
  any_goals decide
  · exact (hunit c).le
  · have hle := (length_utf8Char c).2
    rw [octets_cons, octets_nil]
    omega

/-- A letter after a backslash stands for a character that two suffice for. -/
theorem octets_simpleEscape {e c : ℕ} (h : simpleEscape e = some c) : octets (shortEscape c) ≤ 2 := by
  unfold simpleEscape at h
  split_ifs at h <;> cases h <;> decide

/-- One character of a string, by the way in which it is written. -/
theorem scanChar_spends (s : PyStr) :
    Yields (fun p => ∀ c, p.1 = some c → octets (shortEscape c) + octets p.2 ≤ octets s)
      (scanChar s) := by
  intro p hp d hd
  have hslash := (length_utf8Char 92).1
  cases scanChar_cases s p hp with
  | quote => cases hd
  | plain hquote hslash hcontrol =>
      cases hd
      -- no quote, no backslash and no control character: it stands for itself
      have hself : octets (shortEscape d) ≤ (utf8Char d).length := by
        unfold shortEscape
        split_ifs
        any_goals omega
        rw [octets_cons, octets_nil, Nat.add_zero]
      rw [octets_cons]
      exact Nat.add_le_add_right hself _
  | @simple e _ rest hescape =>
      cases hd
      have hle := octets_simpleEscape hescape
      have he := (length_utf8Char e).1
      rw [octets_cons, octets_cons]
      dsimp only
      omega
  | unit hunit =>
      have hle := octets_shortEscape_le d
      have hfour := octets_of_scanUnit hunit
      have hletter := (length_utf8Char 117).1
      rw [octets_cons, octets_cons]
      dsimp only
      omega
  | pair hunit hnext =>
      have hle := octets_shortEscape_le d
      have hfour := octets_of_scanUnit hunit
      have hfour' := octets_of_scanUnit hnext
      have hletter := (length_utf8Char 117).1
      rw [octets_cons, octets_cons] at hfour ⊢
      dsimp only
      omega

theorem scanString_spends (fuel : ℕ) (s : PyStr) :
    Yields (Spends (fun t => textCost t + 1) s) (scanString fuel s) := by
  induction fuel generalizing s with
  | zero => exact yields_error _
  | succ fuel ih =>
      have hchar := scanChar_spends s
      have hsuffix := scanChar_suffix s
      have hshorter := scanChar_shorter s
      rw [scanString]
      split
      · exact yields_error _
      · rename_i rest h
        have hquote : octets rest + 1 ≤ octets s := octets_lt_of_suffix (hsuffix _ h) (hshorter _ h)
        exact yields_ok (by simp only [Spends, textCost_nil]; omega)
      · rename_i c rest h
        have hle := hchar _ h c rfl
        split
        · exact yields_error _
        · rename_i cs rest' htail
          have hrest : textCost cs + 1 + octets rest' ≤ octets rest := ih rest _ htail
          dsimp only at hle
          exact yields_ok (by simp only [Spends, textCost_cons]; omega)

/-- The hook makes nothing up. -/
def HookSpends (r : JsonReader) : Prop :=
  ∀ fields, Yields (fun v => cost v ≤ cost (.obj fields)) (r.objectHook fields)

theorem hookSpends_reject {r : JsonReader} {error : PyErr}
    (h : r.objectHook = rejectDuplicateKeys error) : HookSpends r := by
  intro fields
  rw [h, rejectDuplicateKeys]
  split_ifs
  · exact yields_ok le_rfl
  · exact yields_error _

/-- A literal takes its letters. -/
theorem octets_drop_of_startsWith {word s : PyStr} (h : startsWith word s = true) :
    word.length + octets (s.drop word.length) ≤ octets s := by
  obtain ⟨t, rfl⟩ := List.isPrefixOf_iff_prefix.mp h
  have hle := length_le_octets word
  rw [List.drop_left, octets_append]
  omega

theorem scanLiteral_spends {s : PyStr} {found : Json × PyStr} (h : scanLiteral s = some found) :
    Spends cost s found := by
  have hfloat (n : ℕ) : octets (s.drop n) ≤ octets s := octets_le_of_suffix (List.drop_suffix n s)
  unfold scanLiteral at h
  split_ifs at h with hnull htrue hfalse <;> cases h
  · exact octets_drop_of_startsWith hnull
  · exact octets_drop_of_startsWith htrue
  · exact octets_drop_of_startsWith hfalse
  · simpa only [Spends, cost, Nat.zero_add] using hfloat 3
  · simpa only [Spends, cost, Nat.zero_add] using hfloat 8
  · simpa only [Spends, cost, Nat.zero_add] using hfloat 9

/-- A literal of an integer is no shorter than `str` of it. -/
theorem length_decimalInt_le {digits : PyStr} (h : digits.all isDigit = true)
    (hpos : 0 < digits.length) (neg : Bool) :
    (decimalInt (if neg then -(ofDecimal digits : ℤ) else ofDecimal digits)).length ≤
      (if neg then [45] else [] : PyStr).length + digits.length := by
  have hle := length_decimal_ofDecimal h hpos le_rfl
  cases neg
  · have hnot : ¬(ofDecimal digits : ℤ) < 0 := not_lt.mpr (Int.natCast_nonneg _)
    rw [if_neg Bool.false_ne_true, if_neg Bool.false_ne_true, decimalInt, if_neg hnot,
      Int.natAbs_natCast, List.length_nil, Nat.zero_add]
    exact hle
  · rw [if_pos rfl, if_pos rfl, decimalInt]
    split_ifs
    · rw [List.length_cons, List.length_singleton, Int.natAbs_neg, Int.natAbs_natCast]
      omega
    · rw [List.length_singleton, Int.natAbs_neg, Int.natAbs_natCast]
      omega

theorem scanNumber_spends (r : JsonReader) (s : PyStr) : Yields (Spends cost s) (scanNumber r s) := by
  unfold scanNumber
  split
  · exact yields_error _
  rename_i neg digits rest hint
  obtain ⟨-, hdigits, hpos⟩ := scanIntPart_some hint
  have hlength := length_decimalInt_le hdigits hpos neg
  have hexp := octets_le_of_suffix ((suffix_scanExp (scanFrac rest).2).trans (suffix_scanFrac rest))
  have hs : (if neg then [45] else [] : PyStr).length + digits.length + octets rest ≤ octets s := by
    have hsign := length_le_octets (if neg then [45] else [])
    have hdigit := length_le_octets digits
    rw [scanIntPart_eq hint, octets_append, octets_append]
    omega
  split
  · rename_i h₂
    rw [h₂] at hexp
    dsimp only at hexp
    by_cases hfit : digits.length ≤ maxStrDigits
    · rw [if_pos hfit]
      refine yields_ok ?_
      simp only [Spends, cost]
      omega
    · rw [if_neg hfit]
      exact yields_error _
  · rename_i h₂
    rw [h₂] at hexp
    dsimp only at hexp
    refine yields_ok ?_
    simp only [Spends, cost]
    omega

/-- **What a call of the scanner returns costs no more than what it read.** -/
theorem scans_spends {r : JsonReader} (hr : HookSpends r) :
    Scans r (Spends fun t => textCost t + 1) (Spends cost) (Spends fun items => max 1 (costItems items))
      (Spends fun fields => max 1 (costFields fields)) where
  string body := scanString_spends _ _
  text h := by
    have hquote := (length_utf8Char 34).1
    simp only [Spends, cost, octets_cons] at h ⊢
    omega
  emptyObject hclose := by
    intro v hv
    have hle := hr [] v hv
    have hlt := octets_of_skipWs hclose
    have hbrace := (length_utf8Char 123).1
    simp only [Spends, cost, costFields, octets_cons] at hle ⊢
    omega
  object {body pairs rest} h := by
    intro v hv
    have hle := hr pairs v hv
    have hskip := octets_le_of_suffix (suffix_skipWs body)
    have hbrace := (length_utf8Char 123).1
    simp only [Spends, cost, octets_cons] at h hle ⊢
    omega
  emptyList hclose := by
    have hlt := octets_of_skipWs hclose
    have hbracket := (length_utf8Char 91).1
    simp only [Spends, cost, costItems, octets_cons]
    omega
  list {body items rest} h := by
    have hskip := octets_le_of_suffix (suffix_skipWs body)
    have hbracket := (length_utf8Char 91).1
    simp only [Spends, cost, octets_cons] at h ⊢
    omega
  literal hfound := scanLiteral_spends hfound
  number s := scanNumber_spends r s
  lastItem h hclose := by
    have hlt := octets_of_skipWs hclose
    simp only [Spends, costItems] at h ⊢
    omega
  item {s v t u items rest} h hcomma hitems := by
    have hlt := octets_of_skipWs hcomma
    have hskip := octets_le_of_suffix (suffix_skipWs u)
    simp only [Spends, costItems] at h hitems ⊢
    omega
  lastMember {body key t u v t' rest} hkey hcolon h hclose := by
    have hquote := (length_utf8Char 34).1
    have hlt := octets_of_skipWs hcolon
    have hlt' := octets_of_skipWs hclose
    have hskip := octets_le_of_suffix (suffix_skipWs u)
    simp only [Spends, costFields, octets_cons] at hkey h ⊢
    omega
  member {body key t u v t' u' pairs rest} hkey hcolon h hcomma hmembers := by
    have hquote := (length_utf8Char 34).1
    have hlt := octets_of_skipWs hcolon
    have hlt' := octets_of_skipWs hcomma
    have hskip := octets_le_of_suffix (suffix_skipWs u)
    have hskip' := octets_le_of_suffix (suffix_skipWs u')
    simp only [Spends, costFields, octets_cons] at hkey h hmembers ⊢
    omega

/-- **A text that is read takes at least what its value costs.** -/
theorem loadsStr_cost {r : JsonReader} (hr : HookSpends r) {s : PyStr} {v : Json}
    (h : loadsStr r s = .ok v) : cost v ≤ octets s := by
  obtain ⟨rest, hv⟩ := (scans_spends hr).loadsStr h
  have hle : cost v + octets rest ≤ octets (skipWs s) := hv
  have hskip := octets_le_of_suffix (suffix_skipWs s)
  omega

/-! ## The shortest text -/

theorem octets_renderStrWith (s : PyStr) : octets (renderStrWith shortEscape s) = textCost s + 2 := by
  rw [renderStrWith, octets_append, octets_cons, textCost]
  show 1 + octets (s.flatMap shortEscape) + 1 = _
  omega

theorem octets_decimalInt (z : ℤ) : octets (decimalInt z) = (decimalInt z).length := by
  refine octets_ascii fun c hc => ?_
  have hprintable := printable_decimalInt hc
  omega

mutual

/-- **The shortest text takes what the value costs**, where no float has a text of its own. -/
theorem octets_render {S : PyStr → Prop} :
    ∀ v : Json, Within S (fun _ => False) v → octets (renderWith shortEscape v) = cost v
  | .null, _ => rfl
  | .bool true, _ => rfl
  | .bool false, _ => rfl
  | .int z, _ => octets_decimalInt z
  | .float _, hv => hv.elim
  | .str s, _ => octets_renderStrWith s
  | .arr [], _ => rfl
  | .arr (v :: rest), hv => by
      simp only [Within, WithinItems] at hv
      rw [renderWith, octets_cons, octets_append, octets_render v hv.1, octets_renderItems rest hv.2,
        cost, costItems]
      show 1 + _ = _
      omega
  | .obj [], _ => rfl
  | .obj ((k, v) :: rest), hv => by
      simp only [Within, WithinFields] at hv
      rw [renderWith, octets_cons, octets_append, octets_cons, octets_append, octets_renderStrWith,
        octets_render v hv.2.2.1, octets_renderFields rest hv.2.2.2, cost, costFields]
      show 1 + (textCost k + 2 + (1 + _)) = _
      omega

theorem octets_renderItems {S : PyStr → Prop} :
    ∀ items : List Json, WithinItems S (fun _ => False) items →
      octets (renderItemsWith shortEscape items) = 1 + costItems items
  | [], _ => rfl
  | v :: rest, hv => by
      simp only [WithinItems] at hv
      rw [renderItemsWith, octets_cons, octets_append, octets_render v hv.1,
        octets_renderItems rest hv.2, costItems]
      show 1 + _ = _
      omega

theorem octets_renderFields {S : PyStr → Prop} :
    ∀ fields : JsonFields, WithinFields S (fun _ => False) fields →
      octets (renderFieldsWith shortEscape fields) = 1 + costFields fields
  | [], _ => rfl
  | (k, v) :: rest, hv => by
      simp only [WithinFields] at hv
      rw [renderFieldsWith, octets_cons, octets_append, octets_cons, octets_append,
        octets_renderStrWith, octets_render v hv.2.1, octets_renderFields rest hv.2.2, costFields]
      show 1 + (textCost k + 2 + (1 + _)) = _
      omega

end

theorem scalars_append {s t : PyStr} (hs : Scalars s) (ht : Scalars t) : Scalars (s ++ t) :=
  List.forall_mem_append.mpr ⟨hs, ht⟩

theorem scalars_cons {c : ℕ} {s : PyStr} (hc : isScalar c = true) (hs : Scalars s) : Scalars (c :: s) :=
  List.forall_mem_cons.mpr ⟨hc, hs⟩

theorem scalars_shortEscape {c : ℕ} (h : isScalar c = true) : Scalars (shortEscape c) := by
  unfold shortEscape
  split_ifs
  any_goals decide
  · intro d hd
    have hprintable := printable_escapeUnit hd
    exact isScalar_of_isAscii (decide_eq_true (by omega))
  · exact scalars_cons h (by decide)

theorem scalars_renderStrWith {s : PyStr} (h : Scalars s) : Scalars (renderStrWith shortEscape s) := by
  refine scalars_append (scalars_cons rfl fun d hd => ?_) (by decide)
  obtain ⟨c, hc, hd⟩ := List.mem_flatMap.mp hd
  exact scalars_shortEscape (h c hc) d hd

theorem scalars_decimalInt (z : ℤ) : Scalars (decimalInt z) := by
  intro c hc
  have hprintable := printable_decimalInt hc
  exact isScalar_of_isAscii (decide_eq_true (by omega))

mutual

/-- The shortest text of a value without surrogates is without them, so UTF-8 can carry it. -/
theorem scalars_render : ∀ v : Json, Within Scalars (fun _ => False) v →
    Scalars (renderWith shortEscape v)
  | .null, _ => (by decide : Scalars (py "null"))
  | .bool true, _ => (by decide : Scalars (py "true"))
  | .bool false, _ => (by decide : Scalars (py "false"))
  | .int z, _ => scalars_decimalInt z
  | .float _, hv => hv.elim
  | .str _, hv => scalars_renderStrWith hv
  | .arr [], _ => (by decide : Scalars (py "[]"))
  | .arr (v :: rest), hv => by
      simp only [Within, WithinItems] at hv
      rw [renderWith]
      exact scalars_cons rfl (scalars_append (scalars_render v hv.1) (scalars_renderItems rest hv.2))
  | .obj [], _ => (by decide : Scalars (py "{}"))
  | .obj ((k, v) :: rest), hv => by
      simp only [Within, WithinFields] at hv
      rw [renderWith]
      exact scalars_cons rfl (scalars_append (scalars_renderStrWith hv.2.1) (scalars_cons rfl
        (scalars_append (scalars_render v hv.2.2.1) (scalars_renderFields rest hv.2.2.2))))

theorem scalars_renderItems : ∀ items : List Json, WithinItems Scalars (fun _ => False) items →
    Scalars (renderItemsWith shortEscape items)
  | [], _ => (by decide : Scalars [93])
  | v :: rest, hv => by
      simp only [WithinItems] at hv
      rw [renderItemsWith]
      exact scalars_cons rfl (scalars_append (scalars_render v hv.1) (scalars_renderItems rest hv.2))

theorem scalars_renderFields : ∀ fields : JsonFields, WithinFields Scalars (fun _ => False) fields →
    Scalars (renderFieldsWith shortEscape fields)
  | [], _ => (by decide : Scalars [125])
  | (k, v) :: rest, hv => by
      simp only [WithinFields] at hv
      rw [renderFieldsWith]
      exact scalars_cons rfl (scalars_append (scalars_renderStrWith hv.1) (scalars_cons rfl
        (scalars_append (scalars_render v hv.2.1) (scalars_renderFields rest hv.2.2))))

end

end Json
