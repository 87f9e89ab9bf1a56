/-
# The scanner of `json.loads`

What holds of everything the scanner returns.

* `Scans`         : the grammar, one case for each way in which a value is written, and the one
  induction on the fuel that the properties of the scanner share;
* `parse_shorter` : every value takes at least one character;
* `parse_fuel`    : so the fuel that `loadsStr` passes never runs out, and a
  `RecursionError` means that the text is nested too deep;
* `loads_yields`  : a property that the hook keeps holds of every value that is read;
* `loads_intsFit` : the integers of a value that was read can be written again.
-/
import SafeAgent.JsonRoundTrip

namespace Json

open PyText PyItems

/-- Whatever the function returns satisfies `P`. -/
def Yields {α : Type} (P : α → Prop) (r : PyResult α) : Prop := ∀ a, r = .ok a → P a

section Yields

variable {α β : Type} {P : α → Prop} {Q : β → Prop}

theorem yields_ok {a : α} (h : P a) : Yields P (.ok a) := by
  rintro _ ⟨⟩
  exact h

theorem yields_error (e : PyErr) : Yields P (.error e) := by
  rintro _ ⟨⟩

theorem yields_true (x : PyResult α) : Yields (fun _ => True) x := fun _ _ => trivial

theorem yields_bind {x : PyResult β} {f : β → PyResult α} (hx : Yields Q x)
    (hf : ∀ b, Q b → Yields P (f b)) : Yields P (x >>= f) := by
  cases x with
  | error e => exact yields_error e
  | ok b => exact hf b (hx b rfl)

end Yields

/-! ## Progress -/

/-- What is left is shorter than `s`. -/
def Shorter {α : Type} (s : PyStr) (p : α × PyStr) : Prop := p.2.length < s.length

theorem suffix_skipWs (s : PyStr) : skipWs s <:+ s := List.dropWhile_suffix _

theorem length_skipWs (s : PyStr) : (skipWs s).length ≤ s.length := (suffix_skipWs s).length_le

theorem suffix_of_skipWs {s rest : PyStr} {c : ℕ} (h : skipWs s = c :: rest) : c :: rest <:+ s := by
  rw [← h]
  exact suffix_skipWs s

theorem length_of_skipWs {s rest : PyStr} {c : ℕ} (h : skipWs s = c :: rest) :
    rest.length < s.length := by
  have hle := length_skipWs s
  rw [h, List.length_cons] at hle
  omega

/-- Four digits are read. -/
theorem scanUnit_some {s rest : PyStr} {u : ℕ} (h : scanUnit s = some (u, rest)) :
    ∃ digits : PyStr, digits.length = 4 ∧ s = digits ++ rest := by
  unfold scanUnit at h
  split at h
  · rename_i a b c d rest'
    split at h
    · cases h
      exact ⟨[a, b, c, d], rfl, rfl⟩
    · cases h
  · cases h

theorem length_of_scanUnit {s rest : PyStr} {u : ℕ} (h : scanUnit s = some (u, rest)) :
    rest.length < s.length := by
  obtain ⟨digits, hfour, rfl⟩ := scanUnit_some h
  rw [List.length_append]
  omega

theorem suffix_of_scanUnit {s rest : PyStr} {u : ℕ} (h : scanUnit s = some (u, rest)) : rest <:+ s := by
  obtain ⟨digits, -, rfl⟩ := scanUnit_some h
  exact List.suffix_append digits rest

/-- One character of a string: the closing quote, one that stands for itself, an escape of one letter,
an escaped unit that does not begin a pair, or a surrogate pair. -/
inductive CharRead : PyStr → Option ℕ × PyStr → Prop
  | quote {rest : PyStr} : CharRead (34 :: rest) (none, rest)
  | plain {c : ℕ} {rest : PyStr} : c ≠ 34 → c ≠ 92 → 32 ≤ c → CharRead (c :: rest) (some c, rest)
  | simple {e c : ℕ} {rest : PyStr} : simpleEscape e = some c →
      CharRead (92 :: e :: rest) (some c, rest)
  | unit {t rest : PyStr} {u : ℕ} : scanUnit t = some (u, rest) →
      (0xD800 ≤ u → u ≤ 0xDBFF → ∀ t' v rest', rest = 92 :: 117 :: t' →
        scanUnit t' = some (v, rest') → ¬(0xDC00 ≤ v ∧ v ≤ 0xDFFF)) →
      CharRead (92 :: 117 :: t) (some u, rest)
  | pair {t t' rest : PyStr} {u v : ℕ} : scanUnit t = some (u, 92 :: 117 :: t') →
      scanUnit t' = some (v, rest) → 0xD800 ≤ u → u ≤ 0xDBFF → 0xDC00 ≤ v → v ≤ 0xDFFF →
      CharRead (92 :: 117 :: t) (some (0x10000 + (u - 0xD800) * 1024 + (v - 0xDC00)), rest)

theorem scanChar_cases (s : PyStr) : Yields (CharRead s) (scanChar s) := by
  unfold scanChar
  split
  · exact yields_error _
  rename_i c rest
  split_ifs with hquote hslash hcontrol
  · subst hquote
    exact yields_ok .quote
  · subst hslash
    split
    · exact yields_error _
    rename_i e rest1
    split_ifs with hunicode
    · subst hunicode
      split
      · exact yields_error _
      rename_i u rest2 hunit
      split_ifs with hpair
      · obtain ⟨hlow, hhigh, t', rfl⟩ := hpair
        split
        · exact yields_error _
        rename_i v rest3 hnext
        split_ifs with hv
        · exact yields_ok (.pair hunit hnext hlow hhigh hv.1 hv.2)
        · refine yields_ok (.unit hunit fun _ _ t₁ v₁ rest₁ ht hv₁ => ?_)
          -- the unit that follows is the one that was looked at
          cases ht
          have hsame : some (v, rest3) = some (v₁, rest₁) := hnext.symm.trans hv₁
          cases hsame
          exact hv
      · refine yields_ok (.unit hunit fun hlow hhigh t' v rest' ht _ => ?_)
        exact absurd ⟨hlow, hhigh, t', ht.symm⟩ hpair
    · split
      · rename_i d hescape
        exact yields_ok (.simple hescape)
      · exact yields_error _
  · exact yields_error _
  · exact yields_ok (.plain hquote hslash (not_lt.mp hcontrol))

theorem scanChar_shorter (s : PyStr) : Yields (Shorter s) (scanChar s) := by
  intro p hp
  cases scanChar_cases s p hp with
  | quote => exact Nat.lt_succ_self _
  | plain => exact Nat.lt_succ_self _
  | simple =>
      simp only [Shorter, List.length_cons]
      omega
  | unit hunit =>
      have hlt := length_of_scanUnit hunit
      simp only [Shorter, List.length_cons]
      omega
  | pair hunit hnext =>
      have hlt := length_of_scanUnit hunit
      have hlt' := length_of_scanUnit hnext
      simp only [Shorter, List.length_cons] at hlt ⊢
      omega

/-- A character leaves a suffix of the text. -/
theorem scanChar_suffix (s : PyStr) : Yields (fun p => p.2 <:+ s) (scanChar s) := by
  intro p hp
  have htwo (c d : ℕ) (t : PyStr) : t <:+ c :: d :: t :=
    (List.suffix_cons d t).trans (List.suffix_cons c (d :: t))
  cases scanChar_cases s p hp with
  | quote => exact List.suffix_cons _ _
  | plain => exact List.suffix_cons _ _
  | simple => exact htwo _ _ _
  | unit hunit => exact (suffix_of_scanUnit hunit).trans (htwo _ _ _)
  | pair hunit hnext =>
      exact ((suffix_of_scanUnit hnext).trans (htwo _ _ _)).trans
        ((suffix_of_scanUnit hunit).trans (htwo _ _ _))

theorem scanString_suffix (fuel : ℕ) (s : PyStr) : Yields (fun p => p.2 <:+ s) (scanString fuel s) := by
  induction fuel generalizing s with
  | zero => exact yields_error _
  | succ fuel ih =>
      have hchar := scanChar_suffix s
      rw [scanString]
      split
      · exact yields_error _
      · rename_i rest h
        exact yields_ok (hchar _ h)
      · rename_i c rest h
        split
        · exact yields_error _
        · rename_i cs rest' htail
          exact yields_ok ((ih rest _ htail).trans (hchar _ h))

theorem scanString_shorter (fuel : ℕ) (s : PyStr) : Yields (Shorter s) (scanString fuel s) := by
  induction fuel generalizing s with
  | zero => exact yields_error _
  | succ fuel ih =>
      have hchar := scanChar_shorter s
      rw [scanString]
      split
      · exact yields_error _
      · rename_i rest h
        exact yields_ok (hchar _ h)
      · rename_i c rest h
        have hrest : rest.length < s.length := hchar _ h
        split
        · exact yields_error _
        · rename_i cs rest' htail
          have hrest' : rest'.length < rest.length := ih rest _ htail
          exact yields_ok (by simp only [Shorter]; omega)

theorem scanLiteral_shorter {s : PyStr} {found : Json × PyStr} (h : scanLiteral s = some found)
    (hs : s ≠ []) : Shorter s found := by
  have hpos := List.length_pos_iff.mpr hs
  unfold scanLiteral at h
  split_ifs at h <;> cases h <;> simp only [Shorter, List.length_drop] <;> omega

theorem scanLiteral_suffix {s : PyStr} {found : Json × PyStr} (h : scanLiteral s = some found) :
    found.2 <:+ s := by
  unfold scanLiteral at h
  split_ifs at h <;> cases h <;> exact List.drop_suffix _ _

theorem suffix_spanDigits (s : PyStr) : (spanDigits s).2 <:+ s := List.dropWhile_suffix _

theorem length_spanDigits (s : PyStr) : (spanDigits s).1.length + (spanDigits s).2.length = s.length := by
  rw [spanDigits, ← List.length_append, List.takeWhile_append_dropWhile]

theorem isDigit_spanDigits (s : PyStr) : (spanDigits s).1.all isDigit = true := by
  rw [List.all_eq_true]
  intro c hc
  exact List.mem_takeWhile_imp hc

theorem spanDigits_pos {c : ℕ} {s : PyStr} (h : isDigit c = true) : 0 < (spanDigits (c :: s)).1.length := by
  rw [spanDigits, List.takeWhile_cons_of_pos h]
  simp

/-- The digits of an integer literal, and what follows them. -/
theorem scanIntPart_some {s digits rest : PyStr} {neg : Bool}
    (h : scanIntPart s = some (neg, digits, rest)) :
    rest.length < s.length ∧ digits.all isDigit = true ∧ 0 < digits.length := by
  unfold scanIntPart at h
  dsimp only at h
  split at h
  case h_2 => cases h
  rename_i c tail hbody
  have hle : (c :: tail).length ≤ s.length := by
    rw [← hbody]
    split
    · simp
    · exact le_rfl
  rw [List.length_cons] at hle
  split_ifs at h with hzero hdigit
  · cases h
    exact ⟨by omega, rfl, Nat.one_pos⟩
  · rw [hbody, Option.some.injEq, Prod.mk.injEq, Prod.mk.injEq] at h
    obtain ⟨-, rfl, rfl⟩ := h
    have hlength := length_spanDigits (c :: tail)
    have hpos := spanDigits_pos (s := tail) hdigit
    rw [List.length_cons] at hlength
    exact ⟨by omega, isDigit_spanDigits _, hpos⟩

/-- A text is its minus, if it has one, and what comes after. -/
theorem eq_of_sign (s : PyStr) (p : Bool × PyStr) (hp : (match s with
    | 45 :: rest => (true, rest)
    | _ => (false, s)) = p) : s = (if p.1 then [45] else []) ++ p.2 := by
  split at hp
  · subst hp
    rfl
  · subst hp
    rfl

/-- A minus and the digits are what an integer literal takes. -/
theorem scanIntPart_eq {s digits rest : PyStr} {neg : Bool}
    (h : scanIntPart s = some (neg, digits, rest)) :
    s = (if neg then [45] else []) ++ digits ++ rest := by
  have hspan (t : PyStr) : (spanDigits t).1 ++ (spanDigits t).2 = t := List.takeWhile_append_dropWhile
  unfold scanIntPart at h
  dsimp only at h
  split at h
  case h_2 => cases h
  rename_i c tail hbody
  have hs := eq_of_sign s (_, c :: tail) (Prod.ext rfl hbody)
  split_ifs at h with hzero hdigit
  · simp only [Option.some.injEq, Prod.mk.injEq] at h
    obtain ⟨rfl, rfl, rfl⟩ := h
    rw [hzero] at hs
    rw [List.append_assoc]
    exact hs
  · rw [hbody, Option.some.injEq, Prod.mk.injEq, Prod.mk.injEq] at h
    obtain ⟨rfl, rfl, rfl⟩ := h
    rw [List.append_assoc, hspan]
    exact hs

theorem suffix_scanFrac (s : PyStr) : (scanFrac s).2 <:+ s := by
  unfold scanFrac
  split
  · rename_i rest
    have hspan := suffix_spanDigits rest
    split
    · exact List.suffix_rfl
    · rename_i ds rest' hne heq
      rw [heq] at hspan
      exact hspan.trans (List.suffix_cons _ _)
  · exact List.suffix_rfl

theorem length_scanFrac (s : PyStr) : (scanFrac s).2.length ≤ s.length := (suffix_scanFrac s).length_le

theorem suffix_scanExp (s : PyStr) : (scanExp s).2 <:+ s := by
  unfold scanExp
  split
  case h_2 => exact List.suffix_rfl
  rename_i c rest
  split_ifs
  case neg => exact List.suffix_rfl
  dsimp only
  split
  · exact List.suffix_rfl
  · rename_i ds rest' hne heq
    have hspan := congrArg (fun p : PyStr × PyStr => p.2) heq
    dsimp only at hspan ⊢
    rw [← hspan]
    refine (suffix_spanDigits _).trans (List.IsSuffix.trans ?_ (List.suffix_cons c rest))
    split
    · exact List.suffix_cons _ _
    · exact List.suffix_cons _ _
    · exact List.suffix_rfl

theorem length_scanExp (s : PyStr) : (scanExp s).2.length ≤ s.length := (suffix_scanExp s).length_le

theorem scanNumber_suffix (r : JsonReader) (s : PyStr) :
    Yields (fun p => p.2 <:+ s) (scanNumber r s) := by
  unfold scanNumber
  split
  · exact yields_error _
  rename_i neg digits rest hint
  have hrest : rest <:+ s := by
    rw [scanIntPart_eq hint]
    exact List.suffix_append _ _
  have hexp := ((suffix_scanExp _).trans (suffix_scanFrac rest)).trans hrest
  split
  · rename_i h₂
    rw [h₂] at hexp
    split_ifs
    all_goals first
      | exact yields_error _
      | exact yields_ok hexp
  · rename_i h₂
    rw [h₂] at hexp
    exact yields_ok hexp

theorem scanNumber_shorter (r : JsonReader) (s : PyStr) : Yields (Shorter s) (scanNumber r s) := by
  unfold scanNumber
  split
  · exact yields_error _
  rename_i neg digits rest hint
  have hlt := (scanIntPart_some hint).1
  have hfrac := length_scanFrac rest
  have hexp := length_scanExp (scanFrac rest).2
  split
  · rename_i frac rest' h₁ h₂
    rw [h₂] at hexp
    split_ifs with hneg hfit
    all_goals first
      | exact yields_error _
      | exact yields_ok (by simp only [Shorter] at hexp ⊢; omega)
  · rename_i frac rest₁ exp rest' hne h₁ h₂
    rw [h₂] at hexp
    exact yields_ok (by simp only [Shorter] at hexp ⊢; omega)

/-! ## The grammar -/

/-- What the scanners return of a string, a value, the items of a list and the members of an object,
from which text and with which text after it: one case for each way in which they are written. -/
structure Scans (r : JsonReader) (K : PyStr → PyStr × PyStr → Prop) (V : PyStr → Json × PyStr → Prop)
    (L : PyStr → List Json × PyStr → Prop) (M : PyStr → JsonFields × PyStr → Prop) : Prop where
  string : ∀ body, Yields (K body) (scanString body.length body)
  text : ∀ {body text rest}, K body (text, rest) → V (34 :: body) (.str text, rest)
  emptyObject : ∀ {body rest}, skipWs body = 125 :: rest →
    Yields (fun v => V (123 :: body) (v, rest)) (r.objectHook [])
  object : ∀ {body pairs rest}, M (skipWs body) (pairs, rest) →
    Yields (fun v => V (123 :: body) (v, rest)) (r.objectHook pairs)
  emptyList : ∀ {body rest}, skipWs body = 93 :: rest → V (91 :: body) (.arr [], rest)
  list : ∀ {body items rest}, L (skipWs body) (items, rest) → V (91 :: body) (.arr items, rest)
  literal : ∀ {c rest found}, scanLiteral (c :: rest) = some found → V (c :: rest) found
  number : ∀ s, Yields (V s) (scanNumber r s)
  lastItem : ∀ {s v t rest}, V s (v, t) → skipWs t = 93 :: rest → L s ([v], rest)
  item : ∀ {s v t u items rest}, V s (v, t) → skipWs t = 44 :: u → L (skipWs u) (items, rest) →
    L s (v :: items, rest)
  lastMember : ∀ {body key t u v t' rest}, K body (key, t) → skipWs t = 58 :: u →
    V (skipWs u) (v, t') → skipWs t' = 125 :: rest → M (34 :: body) ([(key, v)], rest)
  member : ∀ {body key t u v t' u' pairs rest}, K body (key, t) → skipWs t = 58 :: u →
    V (skipWs u) (v, t') → skipWs t' = 44 :: u' → M (skipWs u') (pairs, rest) →
    M (34 :: body) ((key, v) :: pairs, rest)

section Grammar

variable {r : JsonReader} {K : PyStr → PyStr × PyStr → Prop} {V : PyStr → Json × PyStr → Prop}
  {L : PyStr → List Json × PyStr → Prop} {M : PyStr → JsonFields × PyStr → Prop} {fuel : ℕ}

theorem Scans.value (h : Scans r K V L M)
    (hitems : ∀ depth s, Yields (L s) (parseItems r fuel depth s))
    (hmembers : ∀ depth s, Yields (M s) (parseMembers r fuel depth s)) (depth : ℕ) (s : PyStr) :
    Yields (V s) (parseValue r (fuel + 1) depth s) := by
  unfold parseValue
  split
  · exact yields_error _
  rename_i c body
  split_ifs with hquote hbrace hbracket
  · subst hquote
    exact yields_bind (h.string body) fun _ hp => yields_ok (h.text hp)
  · subst hbrace
    split
    · exact yields_error _
    split
    · rename_i rest hclose
      exact yields_bind (h.emptyObject hclose) fun _ hv => yields_ok hv
    · exact yields_bind (hmembers _ _) fun _ hpairs =>
        yields_bind (h.object hpairs) fun _ hv => yields_ok hv
  · subst hbracket
    split
    · exact yields_error _
    split
    · rename_i rest hclose
      exact yields_ok (h.emptyList hclose)
    · exact yields_bind (hitems _ _) fun _ hfound => yields_ok (h.list hfound)
  · split
    · rename_i found hfound
      exact yields_ok (h.literal hfound)
    · exact h.number _

theorem Scans.items (h : Scans r K V L M)
    (hvalue : ∀ depth s, Yields (V s) (parseValue r fuel depth s))
    (hitems : ∀ depth s, Yields (L s) (parseItems r fuel depth s)) (depth : ℕ) (s : PyStr) :
    Yields (L s) (parseItems r (fuel + 1) depth s) := by
  unfold parseItems
  refine yields_bind (hvalue _ _) ?_
  rintro ⟨v, t⟩ hv
  dsimp only
  split
  · rename_i rest hclose
    exact yields_ok (h.lastItem hv hclose)
  · rename_i u hcomma
    exact yields_bind (hitems _ _) fun _ hfound => yields_ok (h.item hv hcomma hfound)
  · exact yields_error _

theorem Scans.members (h : Scans r K V L M)
    (hvalue : ∀ depth s, Yields (V s) (parseValue r fuel depth s))
    (hmembers : ∀ depth s, Yields (M s) (parseMembers r fuel depth s)) (depth : ℕ) (s : PyStr) :
    Yields (M s) (parseMembers r (fuel + 1) depth s) := by
  unfold parseMembers
  split
  · rename_i body
    refine yields_bind (h.string body) ?_
    rintro ⟨key, t⟩ hkey
    dsimp only
    split
    · rename_i u hcolon
      refine yields_bind (hvalue _ _) ?_
      rintro ⟨v, t'⟩ hv
      dsimp only
      split
      · rename_i rest hclose
        exact yields_ok (h.lastMember hkey hcolon hv hclose)
      · rename_i u' hcomma
        exact yields_bind (hmembers _ _) fun _ hfound =>
          yields_ok (h.member hkey hcolon hv hcomma hfound)
      · exact yields_error _
    · exact yields_error _
  · exact yields_error _

/-- **What the scanners return**, by induction on the fuel. -/
theorem Scans.parse (h : Scans r K V L M) (fuel : ℕ) :
    (∀ depth s, Yields (V s) (parseValue r fuel depth s)) ∧
      (∀ depth s, Yields (L s) (parseItems r fuel depth s)) ∧
      ∀ depth s, Yields (M s) (parseMembers r fuel depth s) := by
  induction fuel with
  | zero =>
      simp only [parseValue, parseItems, parseMembers]
      exact ⟨fun _ _ => yields_error _, fun _ _ => yields_error _, fun _ _ => yields_error _⟩
  | succ fuel ih =>
      obtain ⟨hvalue, hitems, hmembers⟩ := ih
      exact ⟨h.value hitems hmembers, h.items hvalue hitems, h.members hvalue hmembers⟩

/-- What a text is read as is what the scanner returns of it. -/
theorem Scans.loadsStr (h : Scans r K V L M) {s : PyStr} {v : Json} (hloads : loadsStr r s = .ok v) :
    ∃ rest, V (skipWs s) (v, rest) := by
  unfold Json.loadsStr at hloads
  split at hloads
  · cases hloads
  · split at hloads
    · cases hloads
    · rename_i value rest hparse
      split_ifs at hloads
      cases hloads
      exact ⟨rest, (h.parse _).1 _ _ _ hparse⟩

end Grammar

theorem scans_shorter (r : JsonReader) : Scans r Shorter Shorter Shorter Shorter where
  string body := scanString_shorter _ _
  text h := by
    simp only [Shorter, List.length_cons] at h ⊢
    omega
  emptyObject hclose := fun v _ => by
    have hlt := length_of_skipWs hclose
    simp only [Shorter, List.length_cons]
    omega
  object {body pairs rest} h := fun v _ => by
    have hskip := length_skipWs body
    simp only [Shorter, List.length_cons] at h ⊢
    omega
  emptyList hclose := by
    have hlt := length_of_skipWs hclose
    simp only [Shorter, List.length_cons]
    omega
  list {body items rest} h := by
    have hskip := length_skipWs body
    simp only [Shorter, List.length_cons] at h ⊢
    omega
  literal hfound := scanLiteral_shorter hfound (List.cons_ne_nil _ _)
  number s := scanNumber_shorter r s
  lastItem h hclose := by
    have hlt := length_of_skipWs hclose
    simp only [Shorter] at h ⊢
    omega
  item {s v t u items rest} h hcomma hitems := by
    have hlt := length_of_skipWs hcomma
    have hskip := length_skipWs u
    simp only [Shorter] at h hitems ⊢
    omega
  lastMember {body key t u v t' rest} hkey hcolon h hclose := by
    have hlt := length_of_skipWs hcolon
    have hlt' := length_of_skipWs hclose
    have hskip := length_skipWs u
    simp only [Shorter, List.length_cons] at hkey h ⊢
    omega
  member {body key t u v t' u' pairs rest} hkey hcolon h hcomma hmembers := by
    have hlt := length_of_skipWs hcolon
    have hlt' := length_of_skipWs hcomma
    have hskip := length_skipWs u
    have hskip' := length_skipWs u'
    simp only [Shorter, List.length_cons] at hkey h hmembers ⊢
    omega

/-- **Every value that is read takes at least one character.** -/
theorem parse_shorter (r : JsonReader) (fuel depth : ℕ) (s : PyStr) :
    Yields (Shorter s) (parseValue r fuel depth s) :=
  ((scans_shorter r).parse fuel).1 depth s

/-! ## The fuel -/

/-- The rest of a computation need only agree where the first part ends. -/
theorem bind_congr_of_yields {α β : Type} {P : β → Prop} {x y : PyResult β}
    {f g : β → PyResult α} (hxy : x = y) (hx : Yields P x) (hfg : ∀ b, P b → f b = g b) :
    x >>= f = y >>= g := by
  subst hxy
  cases x with
  | error e => rfl
  | ok b => exact hfg b (hx b rfl)

/-- **The fuel of the scanner**: two units for each character that is left are enough, since
a list passes its first item on whole. -/
theorem parse_fuel (r : JsonReader) (fuel : ℕ) :
    (∀ depth s, 2 * s.length + 1 ≤ fuel → parseValue r (fuel + 1) depth s = parseValue r fuel depth s) ∧
      (∀ depth s, 2 * s.length + 2 ≤ fuel →
        parseItems r (fuel + 1) depth s = parseItems r fuel depth s) ∧
      ∀ depth s, 2 * s.length + 1 ≤ fuel →
        parseMembers r (fuel + 1) depth s = parseMembers r fuel depth s := by
  induction fuel with
  | zero => exact ⟨fun _ _ h => by omega, fun _ _ h => by omega, fun _ _ h => by omega⟩
  | succ fuel ih =>
      obtain ⟨hvalue, hitems, hmembers⟩ := ih
      -- a character pays for two calls: of the value, and of the list or object that it is in
      refine ⟨fun depth s hs => ?_, fun depth s hs => ?_, fun depth s hs => ?_⟩
      · unfold parseValue
        split
        · rfl
        · rename_i c rest
          have hskip := length_skipWs rest
          rw [List.length_cons] at hs
          split_ifs
          · rfl
          · split
            · rfl
            · split
              · rfl
              · rw [hmembers _ _ (by omega)]
          · split
            · rfl
            · split
              · rfl
              · rw [hitems _ _ (by omega)]
          · rfl
      · unfold parseItems
        refine bind_congr_of_yields (hvalue _ _ (by omega)) (parse_shorter r _ _ _) ?_
        rintro ⟨v, rest⟩ hlt
        dsimp only [Shorter] at hlt ⊢
        split
        · rfl
        · rename_i rest' hcomma
          have hlt' := length_of_skipWs hcomma
          have hskip := length_skipWs rest'
          rw [hitems _ _ (by omega)]
        · rfl
      · unfold parseMembers
        split
        · rename_i body
          rw [List.length_cons] at hs
          refine bind_congr_of_yields rfl (scanString_shorter _ _) ?_
          rintro ⟨key, rest⟩ hlt
          dsimp only [Shorter] at hlt ⊢
          split
          · rename_i rest1 hcolon
            have hlt₁ := length_of_skipWs hcolon
            have hskip₁ := length_skipWs rest1
            refine bind_congr_of_yields (hvalue _ _ (by omega)) (parse_shorter r _ _ _) ?_
            rintro ⟨v, rest2⟩ hlt₂
            dsimp only [Shorter] at hlt₂ ⊢
            split
            · rfl
            · rename_i rest3 hcomma
              have hlt₃ := length_of_skipWs hcomma
              have hskip₃ := length_skipWs rest3
              rw [hmembers _ _ (by omega)]
            · rfl
          · rfl
        · rfl

/-- More fuel than `loadsStr` passes changes nothing. -/
theorem parseValue_fuel (r : JsonReader) (depth : ℕ) {s : PyStr} {fuel : ℕ}
    (h : 2 * s.length + 1 ≤ fuel) :
    parseValue r fuel depth s = parseValue r (2 * s.length + 1) depth s := by
  induction fuel, h using Nat.le_induction with
  | base => rfl
  | succ fuel hle ih => rw [(parse_fuel r fuel).1 depth s hle, ih]

/-! ## What is read -/

/-- A property of values that everything the scanner builds has. -/
structure Readable (r : JsonReader) (P : Json → Prop) : Prop where
  null : P .null
  bool : ∀ b, P (.bool b)
  int : ∀ n : ℤ, (decimal n.natAbs).length ≤ maxStrDigits → P (.int n)
  float : ∀ repr, P (.float repr)
  str : ∀ s, P (.str s)
  arr : ∀ items, (∀ v ∈ items, P v) → P (.arr items)
  obj : ∀ fields : JsonFields, (∀ kv ∈ fields, P kv.2) → Yields P (r.objectHook fields)

section Readable

variable {r : JsonReader} {P : Json → Prop}

theorem ofDecimal_lt {s : PyStr} (h : s.all isDigit = true) : ofDecimal s < 10 ^ s.length := by
  induction s using List.reverseRecOn with
  | nil => decide
  | append_singleton s c ih =>
      rw [List.all_append, Bool.and_eq_true, List.all_cons, Bool.and_eq_true] at h
      have hs := ih h.1
      have hc := h.2.1
      simp only [isDigit, Bool.and_eq_true, decide_eq_true_eq] at hc
      rw [ofDecimal, List.foldl_append, List.length_append, List.length_singleton, pow_succ]
      rw [ofDecimal] at hs
      simp only [List.foldl_cons, List.foldl_nil]
      omega

theorem length_decimal_ofDecimal {digits : PyStr} (h : digits.all isDigit = true) {k : ℕ} (hk : 0 < k)
    (hle : digits.length ≤ k) : (decimal (ofDecimal digits)).length ≤ k := by
  rw [length_decimal_le_iff hk]
  exact (ofDecimal_lt h).trans_le (Nat.pow_le_pow_right (by decide) hle)

theorem scanLiteral_readable (hP : Readable r P) {s : PyStr} {found : Json × PyStr}
    (h : scanLiteral s = some found) : P found.1 := by
  unfold scanLiteral at h
  split_ifs at h <;> cases h
  · exact hP.null
  · exact hP.bool _
  · exact hP.bool _
  · exact hP.float _
  · exact hP.float _
  · exact hP.float _

theorem scanNumber_readable (hP : Readable r P) (s : PyStr) :
    Yields (fun p => P p.1) (scanNumber r s) := by
  unfold scanNumber
  split
  · exact yields_error _
  rename_i neg digits rest hint
  have hdigits := (scanIntPart_some hint).2.1
  split
  · by_cases hfit : digits.length ≤ maxStrDigits
    · rw [if_pos hfit]
      have hlength := length_decimal_ofDecimal hdigits (by decide) hfit
      refine yields_ok (hP.int _ ?_)
      cases neg <;> simpa using hlength
    · rw [if_neg hfit]
      exact yields_error _
  · exact yields_ok (hP.float _)

theorem scans_readable (hP : Readable r P) : Scans r (fun _ _ => True) (fun _ p => P p.1)
    (fun _ p => ∀ v ∈ p.1, P v) (fun _ p => ∀ kv ∈ p.1, P kv.2) where
  string _ := yields_true _
  text _ := hP.str _
  emptyObject _ := hP.obj [] fun _ h => absurd h List.not_mem_nil
  object h := hP.obj _ h
  emptyList _ := hP.arr [] fun _ h => absurd h List.not_mem_nil
  list h := hP.arr _ h
  literal hfound := scanLiteral_readable hP hfound
  number s := scanNumber_readable hP s
  lastItem h _ := List.forall_mem_singleton.mpr h
  item h _ hitems := List.forall_mem_cons.mpr ⟨h, hitems⟩
  lastMember _ _ h _ := List.forall_mem_singleton.mpr h
  member _ _ h _ hmembers := List.forall_mem_cons.mpr ⟨h, hmembers⟩

/-- **Everything that is read has the property.** -/
theorem loadsStr_yields (hP : Readable r P) {s : PyStr} {v : Json} (h : loadsStr r s = .ok v) :
    P v := by
  obtain ⟨_, hv⟩ := (scans_readable hP).loadsStr h
  exact hv

theorem loads_yields (hP : Readable r P) {raw : Bytes} {v : Json} (h : loads r raw = .ok v) :
    P v := by
  unfold loads at h
  split at h
  · cases h
  · exact loadsStr_yields hP h

end Readable

theorem intsFitItems_iff {items : List Json} :
    intsFitItems items = true ↔ ∀ v ∈ items, intsFit v = true := by
  induction items with
  | nil => simp [intsFitItems]
  | cons v rest ih => simp only [intsFitItems, Bool.and_eq_true, ih, List.forall_mem_cons]

/-- A hook that puts together the members it is given, each key once, and no others. -/
def HookKeepsMembers (r : JsonReader) : Prop :=
  ∀ fields, Yields (fun v => ∃ kept, v = .obj kept ∧ (keys kept).Nodup ∧ ∀ kv ∈ kept, kv ∈ fields)
    (r.objectHook fields)

theorem hookKeepsMembers_reject {r : JsonReader} {error : PyErr}
    (h : r.objectHook = rejectDuplicateKeys error) : HookKeepsMembers r := by
  intro fields
  rw [h, rejectDuplicateKeys]
  split_ifs
  · exact yields_ok ⟨fields, rfl, ‹_›, fun _ hkv => hkv⟩
  · exact yields_error error

theorem mem_ofPairs {fields : JsonFields} {kv : PyStr × Json} (h : kv ∈ ofPairs fields) :
    kv ∈ fields := by
  have hset : ∀ (key : PyStr) (value : Json) (base : JsonFields),
      kv ∈ setItem key value base → kv = (key, value) ∨ kv ∈ base := by
    intro key value base
    induction base with
    | nil => simp [setItem]
    | cons first rest ih =>
        intro hmem
        rw [setItem] at hmem
        split_ifs at hmem
        · rcases List.mem_cons.mp hmem with hkv | hkv
          · exact Or.inl hkv
          · exact Or.inr (List.mem_cons_of_mem _ hkv)
        · rcases List.mem_cons.mp hmem with hkv | hkv
          · exact Or.inr (List.mem_cons.mpr (Or.inl hkv))
          · exact (ih hkv).imp_right (List.mem_cons_of_mem _)
  have hfold : ∀ (pairs base : JsonFields),
      kv ∈ pairs.foldl (fun fields kv => setItem kv.1 kv.2 fields) base → kv ∈ pairs ∨ kv ∈ base := by
    intro pairs
    induction pairs with
    | nil => exact fun base hmem => Or.inr hmem
    | cons first rest ih =>
        intro base hmem
        rcases ih _ hmem with hkv | hkv
        · exact Or.inl (List.mem_cons_of_mem _ hkv)
        · rcases hset _ _ _ hkv with hkv | hkv
          · exact Or.inl (List.mem_cons.mpr (Or.inl hkv))
          · exact Or.inr hkv
  rcases hfold fields [] h with hkv | hkv
  · exact hkv
  · cases hkv

/-- The plain `dict` of `json.loads`. -/
theorem hookKeepsMembers_dict {r : JsonReader}
    (h : r.objectHook = fun fields => .ok (.obj (ofPairs fields))) : HookKeepsMembers r := by
  intro fields
  rw [h]
  exact yields_ok ⟨ofPairs fields, rfl, keys_nodup_ofPairs fields, fun _ => mem_ofPairs⟩

theorem readable_intsFit {r : JsonReader} (hr : HookKeepsMembers r) :
    Readable r fun v => intsFit v = true where
  null := rfl
  bool _ := rfl
  int n h := by simpa [intsFit] using h
  float _ := rfl
  str _ := rfl
  arr items h := by
    rw [intsFit]
    exact intsFitItems_iff.mpr h
  obj fields h := by
    intro v hv
    obtain ⟨kept, rfl, -, hkept⟩ := hr fields v hv
    rw [intsFit, intsFitFields_iff]
    exact fun kv hkv => h kv (hkept kv hkv)

/-- **The integers of a value that was read can be written again.** -/
theorem loads_intsFit {r : JsonReader} (hr : HookKeepsMembers r) {raw : Bytes} {v : Json}
    (h : loads r raw = .ok v) : intsFit v = true := loads_yields (readable_intsFit hr) h

theorem loadsStr_intsFit {r : JsonReader} (hr : HookKeepsMembers r) {s : PyStr} {v : Json}
    (h : loadsStr r s = .ok v) : intsFit v = true := loadsStr_yields (readable_intsFit hr) h

theorem intsFit_get {fields : JsonFields} (h : intsFit (.obj fields) = true) (key : PyStr) :
    intsFit (get fields key) = true := by
  rw [intsFit, intsFitFields_iff] at h
  exact get_of_forall (P := fun v => intsFit v = true) rfl h key

end Json
