/-
# The strings that JSON text carries

`ensure_ascii` writes a code point beyond the basic plane as two surrogates, and a lone surrogate as
itself.  So a high surrogate in front of a low one is read back as one character, and every other
string as it was.

* `Unpaired`            : a string in which no two neighbours form a surrogate pair;
* `spelling_unpaired`   : **the escapes of `json.dumps` spell such strings**;
* `loadsStr_within`     : **what is read from a text without surrogates holds no other strings**.
-/
import SafeAgent.JsonScanner

namespace Json

open PyText PyItems

/-! ## Surrogate pairs -/

/-- The first half of a surrogate pair. -/
def isHigh (c : ℕ) : Bool := 0xD800 ≤ c && c ≤ 0xDBFF

/-- The second half of a surrogate pair. -/
def isLow (c : ℕ) : Bool := 0xDC00 ≤ c && c ≤ 0xDFFF

/-- Code points of which no two neighbours form a surrogate pair.  Lone surrogates may occur. -/
def Unpaired (s : PyStr) : Prop :=
  (∀ c ∈ s, c < 0x110000) ∧ s.IsChain fun c d => ¬(isHigh c = true ∧ isLow d = true)

instance : DecidablePred Unpaired := fun s =>
  inferInstanceAs (Decidable ((∀ c ∈ s, c < 0x110000) ∧
    s.IsChain fun c d => ¬(isHigh c = true ∧ isLow d = true)))

theorem isScalar_iff {c : ℕ} : isScalar c = true ↔ c < 0x110000 ∧ isHigh c = false ∧ isLow c = false := by
  simp only [isScalar, isSurrogate, isHigh, isLow, Bool.and_eq_true, Bool.not_eq_true',
    Bool.and_eq_false_iff, decide_eq_false_iff_not, decide_eq_true_eq]
  omega

theorem unpaired_nil : Unpaired [] := ⟨fun _ h => absurd h List.not_mem_nil, .nil⟩

theorem unpaired_cons {c : ℕ} {s : PyStr} (hc : c < 0x110000) (hs : Unpaired s)
    (hpair : isHigh c = true → ∀ d ∈ s.head?, isLow d = false) : Unpaired (c :: s) := by
  refine ⟨List.forall_mem_cons.mpr ⟨hc, hs.1⟩, List.isChain_cons.mpr ⟨?_, hs.2⟩⟩
  rintro d hd ⟨hhigh, hlow⟩
  rw [hpair hhigh d hd] at hlow
  exact absurd hlow Bool.false_ne_true

/-- A text without surrogates holds no pair. -/
theorem unpaired_of_scalars {s : PyStr} (h : Scalars s) : Unpaired s := by
  induction s with
  | nil => exact unpaired_nil
  | cons c s ih =>
      rw [Scalars, List.forall_mem_cons] at h
      obtain ⟨hrange, hhigh, -⟩ := isScalar_iff.mp h.1
      refine unpaired_cons hrange (ih h.2) fun hc => ?_
      rw [hhigh] at hc
      exact absurd hc Bool.false_ne_true

/-! ## Writing -/

/-- An escaped unit after which no low surrogate is escaped is one character. -/
theorem scanChar_escapeUnit_high {u : ℕ} (h : u < 0x10000) {tail : PyStr}
    (htail : ∀ t, tail = 92 :: 117 :: t → ∃ v rest, scanUnit t = some (v, rest) ∧ isLow v = false) :
    scanChar (escapeUnit u ++ tail) = .ok (some u, tail) := by
  simp only [escapeUnit, List.cons_append, List.nil_append, scanChar, scanUnit_hexDigits h,
    Nat.reduceEqDiff, if_false, if_true]
  split_ifs with hpair
  · obtain ⟨t, ht⟩ := hpair.2.2
    obtain ⟨v, rest, hunit, hlow⟩ := htail t ht.symm
    have hnot : ¬(0xDC00 ≤ v ∧ v ≤ 0xDFFF) := by
      simp only [isLow, Bool.and_eq_false_iff, decide_eq_false_iff_not] at hlow
      omega
    rw [← ht, List.cons_append, List.cons_append, List.nil_append, List.drop_succ_cons,
      List.drop_succ_cons, List.drop_zero, hunit]
    dsimp only
    rw [if_neg hnot]
  · rfl

/-- A written character other than a low surrogate starts no escape of one. -/
theorem escapeChar_ne_low {d : ℕ} (h : isLow d = false) (hd : d < 0x110000) (rest : PyStr) :
    ∀ t, escapeChar d ++ rest = 92 :: 117 :: t →
      ∃ v rest', scanUnit t = some (v, rest') ∧ isLow v = false := by
  intro t ht
  unfold escapeChar at ht
  split_ifs at ht with h34 h92 h10 h13 h9 h12 h8 hprint hbmp
  -- the short escapes name another letter, and a character that stands for itself is no backslash
  any_goals cases ht
  · exact absurd rfl h92
  · exact ⟨d, rest, scanUnit_hexDigits hbmp rest, h⟩
  · refine ⟨_, _, scanUnit_hexDigits (by omega) _, ?_⟩
    simp only [isLow, Bool.and_eq_false_iff, decide_eq_false_iff_not]
    omega

theorem scanChar_unpaired {c : ℕ} {s : PyStr} (h : Unpaired (c :: s)) (rest : PyStr) :
    scanChar (escapeChar c ++ (s.flatMap escapeChar ++ 34 :: rest)) =
      .ok (some c, s.flatMap escapeChar ++ 34 :: rest) := by
  obtain ⟨hrange, hchain⟩ := h
  rw [List.forall_mem_cons] at hrange
  by_cases hscalar : isScalar c = true
  · exact scanChar_escapeChar hscalar _
  -- a surrogate stands in the text as its own unit
  have hsurrogate : 0xD800 ≤ c ∧ c ≤ 0xDFFF := by
    simp only [isScalar, isSurrogate, Bool.and_eq_true, Bool.not_eq_true', Bool.and_eq_false_iff,
      decide_eq_false_iff_not, decide_eq_true_eq] at hscalar
    omega
  have hunit : escapeChar c = escapeUnit c := by
    unfold escapeChar
    split_ifs <;> first | rfl | omega
  rw [hunit]
  by_cases hhigh : isHigh c = true
  · refine scanChar_escapeUnit_high (by omega) fun t ht => ?_
    rcases s with _ | ⟨d, s⟩
    · cases ht
    · have hlow : isLow d = false := by
        rw [List.isChain_cons_cons] at hchain
        rw [← Bool.not_eq_true]
        exact fun hd => hchain.1 ⟨hhigh, hd⟩
      rw [List.flatMap_cons, List.append_assoc] at ht
      exact escapeChar_ne_low hlow (hrange.2 d (by simp)) _ t ht
  · refine scanChar_escapeUnit (by omega) ?_ _
    simpa [isHigh] using hhigh

/-- **The escapes of `json.dumps` spell the strings without surrogate pairs.** -/
theorem spelling_unpaired : Spelling escapeChar Unpaired where
  pos := length_escapeChar_pos
  scan s hs rest := by
    induction s with
    | nil =>
        intro fuel hfuel
        obtain ⟨n, rfl⟩ : ∃ n, fuel = n + 1 := ⟨fuel - 1, by simp at hfuel; omega⟩
        simp [scanString, scanChar]
    | cons c s ih =>
        intro fuel hfuel
        rw [List.length_cons] at hfuel
        obtain ⟨n, rfl⟩ : ∃ n, fuel = n + 1 := ⟨fuel - 1, by omega⟩
        have htail : Unpaired s := ⟨fun d hd => hs.1 d (by simp [hd]), hs.2.tail⟩
        rw [List.flatMap_cons, List.append_assoc, scanString, scanChar_unpaired hs]
        simp only [ih htail n (by omega)]

/-! ## Reading -/

theorem hexValue_lt {c d : ℕ} (h : hexValue c = some d) : d < 16 := by
  unfold hexValue at h
  split_ifs at h with hdigit hlower hupper
  · cases h
    simp only [isDigit, Bool.and_eq_true, decide_eq_true_eq] at hdigit
    omega
  · cases h
    omega
  · cases h
    omega

theorem scanUnit_lt {s rest : PyStr} {u : ℕ} (h : scanUnit s = some (u, rest)) : u < 0x10000 := by
  unfold scanUnit at h
  split at h
  · split at h
    · rename_i ha hb hc hd
      have ha := hexValue_lt ha
      have hb := hexValue_lt hb
      have hc := hexValue_lt hc
      have hd := hexValue_lt hd
      cases h
      omega
    · cases h
  · cases h

theorem simpleEscape_lt {e c : ℕ} (h : simpleEscape e = some c) : c < 128 := by
  unfold simpleEscape at h
  split_ifs at h <;> cases h <;> decide

/-- What was read of a text without surrogates: a low surrogate only from an escape, and a high one
only where no escape of a low one follows. -/
structure ReadChar (s : PyStr) (c : ℕ) (rest : PyStr) : Prop where
  range : c < 0x110000
  low : isLow c = true → ∃ t rest', s = 92 :: 117 :: t ∧ scanUnit t = some (c, rest')
  high : isHigh c = true → ∀ t v rest', rest = 92 :: 117 :: t → scanUnit t = some (v, rest') →
    isLow v = false

theorem readChar_of_scalar {s rest : PyStr} {c : ℕ} (h : isScalar c = true) : ReadChar s c rest := by
  obtain ⟨hrange, hhigh, hlow⟩ := isScalar_iff.mp h
  refine ⟨hrange, fun hc => ?_, fun hc => ?_⟩
  · rw [hlow] at hc
    exact absurd hc Bool.false_ne_true
  · rw [hhigh] at hc
    exact absurd hc Bool.false_ne_true

theorem scanChar_read {s : PyStr} (hs : Scalars s) :
    Yields (fun p => ∀ c, p.1 = some c → ReadChar s c p.2) (scanChar s) := by
  intro p hp d hd
  cases scanChar_cases s p hp with
  | quote => cases hd
  | plain =>
      cases hd
      exact readChar_of_scalar (hs d (List.mem_cons_self))
  | simple hescape =>
      cases hd
      exact readChar_of_scalar (isScalar_of_isAscii (decide_eq_true (simpleEscape_lt hescape)))
  | @unit t rest _ hunit hlone =>
      cases hd
      have hu := scanUnit_lt hunit
      refine ⟨by omega, fun _ => ⟨t, rest, rfl, hunit⟩, fun hhigh t' v rest' ht hv => ?_⟩
      simp only [isHigh, Bool.and_eq_true, decide_eq_true_eq] at hhigh
      have hnot := hlone hhigh.1 hhigh.2 t' v rest' ht hv
      simp only [isLow, Bool.and_eq_false_iff, decide_eq_false_iff_not]
      omega
  | @pair _ _ _ u v _ _ hlow hhigh hlow' hhigh' =>
      have hsum : 0x10000 + (u - 0xD800) * 1024 + (v - 0xDC00) = d := Option.some.inj hd
      refine readChar_of_scalar ?_
      simp only [isScalar, isSurrogate, Bool.and_eq_true, Bool.not_eq_true', Bool.and_eq_false_iff,
        decide_eq_false_iff_not, decide_eq_true_eq]
      omega

theorem scalars_of_suffix {s t : PyStr} (h : Scalars s) (ht : t <:+ s) : Scalars t :=
  fun c hc => h c (ht.subset hc)

/-- The characters of a string body, and the first of them. -/
theorem scanString_read (fuel : ℕ) {s : PyStr} (hs : Scalars s) :
    Yields (fun p => Unpaired p.1 ∧ ∀ d ∈ p.1.head?, isLow d = true →
      ∃ t rest', s = 92 :: 117 :: t ∧ scanUnit t = some (d, rest')) (scanString fuel s) := by
  induction fuel generalizing s with
  | zero => exact yields_error _
  | succ fuel ih =>
      have hchar := scanChar_read hs
      have hsuffix := scanChar_suffix s
      rw [scanString]
      split
      · exact yields_error _
      · exact yields_ok ⟨unpaired_nil, fun d hd => absurd hd (by simp)⟩
      · rename_i c rest h
        have hc : ReadChar s c rest := hchar _ h c rfl
        split
        · exact yields_error _
        · rename_i cs rest' htail
          obtain ⟨hcs, hhead⟩ := ih (scalars_of_suffix hs (hsuffix _ h)) _ htail
          refine yields_ok ⟨unpaired_cons hc.range hcs fun hhigh d hd => ?_, ?_⟩
          · by_contra hlow
            rw [Bool.not_eq_false] at hlow
            obtain ⟨t, rest'', hrest, hunit⟩ := hhead d hd hlow
            rw [hc.high hhigh t d rest'' hrest hunit] at hlow
            exact absurd hlow Bool.false_ne_true
          · rintro d ⟨⟩
            exact hc.low

/-- What is read has distinct keys, short integers and unpaired strings. -/
abbrev WithinText : Json → Prop := Within Unpaired fun _ => True

/-- The hook keeps its members, each key once. -/
theorem hookKeepsMembers_within {r : JsonReader} (hr : HookKeepsMembers r) {fields : JsonFields}
    (h : ∀ kv ∈ fields, Unpaired kv.1 ∧ WithinText kv.2) : Yields WithinText (r.objectHook fields) := by
  intro v hv
  obtain ⟨kept, rfl, hnodup, hkept⟩ := hr fields v hv
  rw [WithinText, Within]
  exact ⟨hnodup, withinFields_iff.mpr fun kv hkv => h kv (hkept kv hkv)⟩

theorem withinItems_iff {S F : PyStr → Prop} {items : List Json} :
    WithinItems S F items ↔ ∀ v ∈ items, Within S F v := by
  induction items with
  | nil => simp [WithinItems]
  | cons v rest ih => simp only [WithinItems, ih, List.forall_mem_cons]

theorem scanLiteral_within {s : PyStr} {found : Json × PyStr} (h : scanLiteral s = some found) :
    WithinText found.1 := by
  unfold scanLiteral at h
  split_ifs at h <;> cases h <;> exact trivial

theorem scanNumber_within (r : JsonReader) (s : PyStr) :
    Yields (fun p => WithinText p.1) (scanNumber r s) := by
  unfold scanNumber
  split
  · exact yields_error _
  rename_i neg digits rest hint
  have hdigits := (scanIntPart_some hint).2.1
  split
  · by_cases hfit : digits.length ≤ maxStrDigits
    · rw [if_pos hfit]
      have hlength := length_decimal_ofDecimal hdigits (by decide) hfit
      refine yields_ok ?_
      rw [WithinText, Within]
      cases neg <;> simpa using hlength
    · rw [if_neg hfit]
      exact yields_error _
  · exact yields_ok trivial

theorem scalars_skipWs {s : PyStr} (h : Scalars s) : Scalars (skipWs s) :=
  scalars_of_suffix h (suffix_skipWs s)

theorem scalars_of_skipWs {s rest : PyStr} {c : ℕ} (hs : Scalars s) (h : skipWs s = c :: rest) :
    Scalars rest :=
  scalars_of_suffix hs ((List.suffix_cons c rest).trans (suffix_of_skipWs h))

theorem scalars_tail {s : PyStr} {c : ℕ} (h : Scalars (c :: s)) : Scalars s :=
  scalars_of_suffix h (List.suffix_cons c s)

/-- **A call of the scanner on a text without surrogates** returns such a value, and leaves such a
text. -/
theorem scans_within {r : JsonReader} (hr : HookKeepsMembers r) :
    Scans r (fun s p => Scalars s → Unpaired p.1 ∧ Scalars p.2)
      (fun s p => Scalars s → WithinText p.1 ∧ Scalars p.2)
      (fun s p => Scalars s → (∀ v ∈ p.1, WithinText v) ∧ Scalars p.2)
      (fun s p => Scalars s → (∀ kv ∈ p.1, Unpaired kv.1 ∧ WithinText kv.2) ∧ Scalars p.2) where
  string body := fun p hp hs =>
    ⟨(scanString_read _ hs p hp).1, scalars_of_suffix hs (scanString_suffix _ _ _ hp)⟩
  text h hs := h (scalars_tail hs)
  emptyObject hclose := fun v hv hs =>
    ⟨hookKeepsMembers_within hr (fun _ h => absurd h List.not_mem_nil) v hv,
      scalars_of_skipWs (scalars_tail hs) hclose⟩
  object h := by
    intro v hv hs
    obtain ⟨hpairs, hrest⟩ := h (scalars_skipWs (scalars_tail hs))
    exact ⟨hookKeepsMembers_within hr hpairs v hv, hrest⟩
  emptyList hclose hs := ⟨trivial, scalars_of_skipWs (scalars_tail hs) hclose⟩
  list h hs := by
    obtain ⟨hitems, hrest⟩ := h (scalars_skipWs (scalars_tail hs))
    refine ⟨?_, hrest⟩
    rw [WithinText, Within]
    exact withinItems_iff.mpr hitems
  literal hfound hs := ⟨scanLiteral_within hfound, scalars_of_suffix hs (scanLiteral_suffix hfound)⟩
  number s := fun p hp hs =>
    ⟨scanNumber_within r s p hp, scalars_of_suffix hs (scanNumber_suffix r s p hp)⟩
  lastItem h hclose hs := by
    obtain ⟨hv, ht⟩ := h hs
    exact ⟨List.forall_mem_singleton.mpr hv, scalars_of_skipWs ht hclose⟩
  item h hcomma hitems hs := by
    obtain ⟨hv, ht⟩ := h hs
    obtain ⟨hrest, hafter⟩ := hitems (scalars_skipWs (scalars_of_skipWs ht hcomma))
    exact ⟨List.forall_mem_cons.mpr ⟨hv, hrest⟩, hafter⟩
  lastMember hkey hcolon h hclose hs := by
    obtain ⟨hname, ht⟩ := hkey (scalars_tail hs)
    obtain ⟨hv, ht'⟩ := h (scalars_skipWs (scalars_of_skipWs ht hcolon))
    exact ⟨List.forall_mem_singleton.mpr ⟨hname, hv⟩, scalars_of_skipWs ht' hclose⟩
  member hkey hcolon h hcomma hmembers hs := by
    obtain ⟨hname, ht⟩ := hkey (scalars_tail hs)
    obtain ⟨hv, ht'⟩ := h (scalars_skipWs (scalars_of_skipWs ht hcolon))
    obtain ⟨hrest, hafter⟩ := hmembers (scalars_skipWs (scalars_of_skipWs ht' hcomma))
    exact ⟨List.forall_mem_cons.mpr ⟨⟨hname, hv⟩, hrest⟩, hafter⟩

/-- **What is read from a text without surrogates has unpaired strings.** -/
theorem loadsStr_within {r : JsonReader} (hr : HookKeepsMembers r) {s : PyStr} (hs : Scalars s)
    {v : Json} (h : loadsStr r s = .ok v) : WithinText v := by
  obtain ⟨_, hv⟩ := (scans_within hr).loadsStr h
  exact (hv (scalars_skipWs hs)).1

end Json
