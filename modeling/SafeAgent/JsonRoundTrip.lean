/-
# Reading back what was written

The scanner inverts the writer on *plain* values: no floats, no surrogates, distinct
keys, integers short enough to write (`Plain`).  `Within` says the same with a choice of the strings
and of the floats: which strings are read back depends on how their characters are spelled
(`Spelling`), and the zeros of `float` are where the reader keeps their `repr`.

* `parseValue_renderWith` : the scanner reads one written value and stops after it;
* `loadsStr_renderWith`   : `json.loads` inverts every writer that spells its strings well;
* `loadsStr_render`       : `json.loads(json.dumps(v)) == v` on text, up to surrounding whitespace;
* `loads_render`          : the same on the ASCII octets of the text;
* `canonical_injOn`       : two plain values with one canonical text are equal up to key order.

Surrogates are excluded for a reason: two lone surrogates that happen to form a pair
are written like the one character they encode, so `ensure_ascii` text does not
determine a string that holds them.
-/
import SafeAgent.JsonText

namespace Json

open PyText PyItems

/-! ## Plain values -/

mutual

/-- A value that its JSON text determines. -/
def Plain : Json → Prop
  | .null => True
  | .bool _ => True
  | .int n => (decimal n.natAbs).length ≤ maxStrDigits
  | .float _ => False
  | .str s => ∀ c ∈ s, isScalar c = true
  | .arr items => PlainItems items
  | .obj fields => (keys fields).Nodup ∧ PlainFields fields

def PlainItems : List Json → Prop
  | [] => True
  | v :: rest => Plain v ∧ PlainItems rest

def PlainFields : JsonFields → Prop
  | [] => True
  | (k, v) :: rest => (∀ c ∈ k, isScalar c = true) ∧ Plain v ∧ PlainFields rest

end

mutual

/-- Whether a value is plain can be computed. -/
def decidePlain : (v : Json) → Decidable (Plain v)
  | .null => isTrue trivial
  | .bool _ => isTrue trivial
  | .int n => inferInstanceAs (Decidable ((decimal n.natAbs).length ≤ maxStrDigits))
  | .float _ => isFalse id
  | .str s => inferInstanceAs (Decidable (∀ c ∈ s, isScalar c = true))
  | .arr items => decidePlainItems items
  | .obj fields =>
      have := decidePlainFields fields
      inferInstanceAs (Decidable ((keys fields).Nodup ∧ PlainFields fields))

def decidePlainItems : (items : List Json) → Decidable (PlainItems items)
  | [] => isTrue trivial
  | v :: rest =>
      have := decidePlain v
      have := decidePlainItems rest
      inferInstanceAs (Decidable (Plain v ∧ PlainItems rest))

def decidePlainFields : (fields : JsonFields) → Decidable (PlainFields fields)
  | [] => isTrue trivial
  | (k, v) :: rest =>
      have := decidePlain v
      have := decidePlainFields rest
      inferInstanceAs (Decidable ((∀ c ∈ k, isScalar c = true) ∧ Plain v ∧ PlainFields rest))

end

instance : DecidablePred Plain := decidePlain

mutual

/-- A value that its text determines where the strings of `S` and the floats of `F` are: distinct
keys, integers short enough to write. -/
def Within (S F : PyStr → Prop) : Json → Prop
  | .null => True
  | .bool _ => True
  | .int n => (decimal n.natAbs).length ≤ maxStrDigits
  | .float x => F x
  | .str s => S s
  | .arr items => WithinItems S F items
  | .obj fields => (keys fields).Nodup ∧ WithinFields S F fields

def WithinItems (S F : PyStr → Prop) : List Json → Prop
  | [] => True
  | v :: rest => Within S F v ∧ WithinItems S F rest

def WithinFields (S F : PyStr → Prop) : JsonFields → Prop
  | [] => True
  | (k, v) :: rest => S k ∧ Within S F v ∧ WithinFields S F rest

end

/-- A text without surrogates. -/
abbrev Scalars (s : PyStr) : Prop := ∀ c ∈ s, isScalar c = true

mutual

/-- A plain value is one without floats. -/
theorem plain_iff : ∀ v : Json, Plain v ↔ Within Scalars (fun _ => False) v
  | .null => Iff.rfl
  | .bool _ => Iff.rfl
  | .int _ => Iff.rfl
  | .float _ => Iff.rfl
  | .str _ => Iff.rfl
  | .arr items => by
      simp only [Plain, Within]
      exact plainItems_iff items
  | .obj fields => by
      simp only [Plain, Within]
      exact and_congr_right fun _ => plainFields_iff_upTo fields

theorem plainItems_iff : ∀ items : List Json,
    PlainItems items ↔ WithinItems Scalars (fun _ => False) items
  | [] => Iff.rfl
  | v :: rest => and_congr (plain_iff v) (plainItems_iff rest)

theorem plainFields_iff_upTo : ∀ fields : JsonFields,
    PlainFields fields ↔ WithinFields Scalars (fun _ => False) fields
  | [] => Iff.rfl
  | (_, v) :: rest =>
      and_congr_right fun _ => and_congr (plain_iff v) (plainFields_iff_upTo rest)

end

mutual

theorem Within.mono {S T F G : PyStr → Prop} (hST : ∀ s, S s → T s) (hFG : ∀ x, F x → G x) :
    ∀ v : Json, Within S F v → Within T G v
  | .null, _ => trivial
  | .bool _, _ => trivial
  | .int _, hv => hv
  | .float x, hv => hFG x hv
  | .str s, hv => hST s hv
  | .arr items, hv => by
      simp only [Within] at hv ⊢
      exact WithinItems.mono hST hFG items hv
  | .obj fields, hv => by
      simp only [Within] at hv ⊢
      exact ⟨hv.1, WithinFields.mono hST hFG fields hv.2⟩

theorem WithinItems.mono {S T F G : PyStr → Prop} (hST : ∀ s, S s → T s) (hFG : ∀ x, F x → G x) :
    ∀ items : List Json, WithinItems S F items → WithinItems T G items
  | [], _ => trivial
  | v :: rest, hv => ⟨Within.mono hST hFG v hv.1, WithinItems.mono hST hFG rest hv.2⟩

theorem WithinFields.mono {S T F G : PyStr → Prop} (hST : ∀ s, S s → T s) (hFG : ∀ x, F x → G x) :
    ∀ fields : JsonFields, WithinFields S F fields → WithinFields T G fields
  | [], _ => trivial
  | (k, v) :: rest, hv =>
      ⟨hST k hv.1, Within.mono hST hFG v hv.2.1, WithinFields.mono hST hFG rest hv.2.2⟩

end

/-- A plain value holds no float and no surrogate. -/
theorem Plain.within {S F : PyStr → Prop} (hS : ∀ s, Scalars s → S s) {v : Json} (h : Plain v) :
    Within S F v :=
  ((plain_iff v).mp h).mono hS fun _ hx => hx.elim

/-- A plain value is plain up to whatever floats. -/
theorem Plain.upTo {F : PyStr → Prop} {v : Json} (h : Plain v) : Within Scalars F v :=
  h.within fun _ hs => hs

mutual

/-- How deeply containers are nested in the value. -/
def depth : Json → ℕ
  | .arr items => 1 + depthItems items
  | .obj fields => 1 + depthFields fields
  | .null => 0
  | .bool _ => 0
  | .int _ => 0
  | .float _ => 0
  | .str _ => 0

def depthItems : List Json → ℕ
  | [] => 0
  | v :: rest => max (depth v) (depthItems rest)

def depthFields : JsonFields → ℕ
  | [] => 0
  | (_, v) :: rest => max (depth v) (depthFields rest)

end

mutual

/-- The fuel that reading the value back takes. -/
def fuelFor : Json → ℕ
  | .arr items => 1 + fuelForItems items
  | .obj fields => 1 + fuelForFields fields
  | .null => 1
  | .bool _ => 1
  | .int _ => 1
  | .float _ => 1
  | .str _ => 1

def fuelForItems : List Json → ℕ
  | [] => 0
  | v :: rest => 1 + fuelFor v + fuelForItems rest

def fuelForFields : JsonFields → ℕ
  | [] => 0
  | (_, v) :: rest => 1 + fuelFor v + fuelForFields rest

end

theorem plainFields_iff {fields : JsonFields} :
    PlainFields fields ↔ ∀ kv ∈ fields, (∀ c ∈ kv.1, isScalar c = true) ∧ Plain kv.2 := by
  induction fields with
  | nil => simp [PlainFields]
  | cons kv rest ih =>
      obtain ⟨k, v⟩ := kv
      simp only [PlainFields, ih, List.forall_mem_cons]
      tauto

theorem withinFields_iff {S F : PyStr → Prop} {fields : JsonFields} :
    WithinFields S F fields ↔ ∀ kv ∈ fields, S kv.1 ∧ Within S F kv.2 := by
  induction fields with
  | nil => simp [WithinFields]
  | cons kv rest ih =>
      obtain ⟨k, v⟩ := kv
      simp only [WithinFields, ih, List.forall_mem_cons]
      tauto

theorem depthFields_le_iff {fields : JsonFields} {n : ℕ} :
    depthFields fields ≤ n ↔ ∀ kv ∈ fields, depth kv.2 ≤ n := by
  induction fields with
  | nil => simp [depthFields]
  | cons kv rest ih =>
      obtain ⟨k, v⟩ := kv
      simp only [depthFields, max_le_iff, ih, List.forall_mem_cons]

theorem intsFitFields_iff {fields : JsonFields} :
    intsFitFields fields = true ↔ ∀ kv ∈ fields, intsFit kv.2 = true := by
  induction fields with
  | nil => simp [intsFitFields]
  | cons kv rest ih =>
      obtain ⟨k, v⟩ := kv
      simp only [intsFitFields, Bool.and_eq_true, ih, List.forall_mem_cons]

/-! ## Strings -/

theorem hexValue_hexDigit {d : ℕ} (h : d < 16) : hexValue (hexDigit d) = some d := by
  interval_cases d <;> decide

/-- The four digits of a unit are read back. -/
theorem scanUnit_hexDigits {u : ℕ} (h : u < 0x10000) (rest : PyStr) :
    scanUnit (hexDigit (u / 4096 % 16) :: hexDigit (u / 256 % 16) :: hexDigit (u / 16 % 16) ::
      hexDigit (u % 16) :: rest) = some (u, rest) := by
  rw [scanUnit, hexValue_hexDigit (Nat.mod_lt _ (by norm_num)),
    hexValue_hexDigit (Nat.mod_lt _ (by norm_num)), hexValue_hexDigit (Nat.mod_lt _ (by norm_num)),
    hexValue_hexDigit (Nat.mod_lt _ (by norm_num))]
  simp only [Option.some.injEq, Prod.mk.injEq, and_true]
  omega

/-- An escaped unit that is not a high surrogate is one character. -/
theorem scanChar_escapeUnit {u : ℕ} (h : u < 0x10000) (hs : ¬(0xD800 ≤ u ∧ u ≤ 0xDBFF))
    (rest : PyStr) : scanChar (escapeUnit u ++ rest) = .ok (some u, rest) := by
  have hnot : ¬(0xD800 ≤ u ∧ u ≤ 0xDBFF ∧ [92, 117] <+: rest) := fun hc => hs ⟨hc.1, hc.2.1⟩
  simp only [escapeUnit, List.cons_append, List.nil_append, scanChar, scanUnit_hexDigits h]
  simp [hnot]

/-- A high unit followed by an escaped low unit is one character beyond the basic plane. -/
theorem scanChar_escapePair {c : ℕ} (hlo : 0x10000 ≤ c) (hhi : c < 0x110000) (rest : PyStr) :
    scanChar (escapeUnit (0xD800 + (c - 0x10000) / 1024) ++
      escapeUnit (0xDC00 + (c - 0x10000) % 1024) ++ rest) = .ok (some c, rest) := by
  have hu : 0xD800 + (c - 0x10000) / 1024 < 0x10000 := by omega
  have hv : 0xDC00 + (c - 0x10000) % 1024 < 0x10000 := by omega
  have hhigh : 0xD800 ≤ 0xD800 + (c - 0x10000) / 1024 ∧
      0xD800 + (c - 0x10000) / 1024 ≤ 0xDBFF := by omega
  have hlow : 0xDC00 ≤ 0xDC00 + (c - 0x10000) % 1024 ∧
      0xDC00 + (c - 0x10000) % 1024 ≤ 0xDFFF := by omega
  have hsum : 0x10000 + (0xD800 + (c - 0x10000) / 1024 - 0xD800) * 1024 +
      (0xDC00 + (c - 0x10000) % 1024 - 0xDC00) = c := by omega
  generalize 0xD800 + (c - 0x10000) / 1024 = u at *
  generalize 0xDC00 + (c - 0x10000) % 1024 = v at *
  simp only [escapeUnit, List.cons_append, List.nil_append, scanChar, scanUnit_hexDigits hu]
  simp only [List.drop_succ_cons, List.drop_zero, scanUnit_hexDigits hv]
  simp [hhigh, hlow, hsum]

/-- The scanner reads one written character. -/
theorem scanChar_escapeChar {c : ℕ} (h : isScalar c = true) (rest : PyStr) :
    scanChar (escapeChar c ++ rest) = .ok (some c, rest) := by
  simp only [isScalar, isSurrogate, Bool.and_eq_true, Bool.not_eq_true', Bool.and_eq_false_iff,
    decide_eq_false_iff_not, decide_eq_true_eq] at h
  unfold escapeChar
  split_ifs with h34 h92 h10 h13 h9 h12 h8 hprint hbmp
  · subst h34; rfl
  · subst h92; rfl
  · subst h10; rfl
  · subst h13; rfl
  · subst h9; rfl
  · subst h12; rfl
  · subst h8; rfl
  · have hge : ¬ c < 32 := by omega
    simp [scanChar, h34, h92, hge]
  · exact scanChar_escapeUnit hbmp (by omega) rest
  · exact scanChar_escapePair (by omega) h.2 rest

theorem length_escapeChar_pos (c : ℕ) : 0 < (escapeChar c).length := by
  unfold escapeChar escapeUnit
  split_ifs <;> simp

/-- A way to write characters from which the scanner reads the strings of `S` back. -/
structure Spelling (esc : ℕ → PyStr) (S : PyStr → Prop) : Prop where
  pos : ∀ c, 0 < (esc c).length
  scan : ∀ s, S s → ∀ rest fuel, s.length < fuel →
    scanString fuel (s.flatMap esc ++ 34 :: rest) = .ok (s, rest)

/-- The scanner reads a written string body and its closing quote, where it reads one character
after the other. -/
theorem scanString_of_chars {esc : ℕ → PyStr} {s : PyStr}
    (hs : ∀ c ∈ s, ∀ rest, scanChar (esc c ++ rest) = .ok (some c, rest)) (rest : PyStr) :
    ∀ fuel, s.length < fuel → scanString fuel (s.flatMap esc ++ 34 :: rest) = .ok (s, rest) := by
  induction s with
  | nil =>
      intro fuel hfuel
      obtain ⟨n, rfl⟩ : ∃ n, fuel = n + 1 := ⟨fuel - 1, by simp at hfuel; omega⟩
      simp [scanString, scanChar]
  | cons c s ih =>
      intro fuel hfuel
      rw [List.length_cons] at hfuel
      obtain ⟨n, rfl⟩ : ∃ n, fuel = n + 1 := ⟨fuel - 1, by omega⟩
      have htail : ∀ d ∈ s, ∀ rest, scanChar (esc d ++ rest) = .ok (some d, rest) := fun d hd =>
        hs d (by simp [hd])
      rw [List.flatMap_cons, List.append_assoc, scanString, hs c (by simp)]
      simp only [ih htail n (by omega)]

/-- The escapes of `json.dumps` spell every text without surrogates. -/
theorem spelling_escapeChar : Spelling escapeChar Scalars where
  pos := length_escapeChar_pos
  scan _ hs rest := scanString_of_chars (fun c hc rest => scanChar_escapeChar (hs c hc) rest) rest

theorem length_le_flatMap {esc : ℕ → PyStr} (hpos : ∀ c, 0 < (esc c).length) (s : PyStr) :
    s.length ≤ (s.flatMap esc).length := by
  induction s with
  | nil => simp
  | cons c s ih =>
      have hc := hpos c
      simp only [List.length_cons, List.flatMap_cons, List.length_append]
      omega

/-- A quoted string is read back by the fuel the scanner gives it. -/
theorem Spelling.scanString {esc : ℕ → PyStr} {S : PyStr → Prop} (hesc : Spelling esc S) {s : PyStr}
    (hs : S s) (rest : PyStr) :
    scanString (s.flatMap esc ++ 34 :: rest).length (s.flatMap esc ++ 34 :: rest) = .ok (s, rest) := by
  apply hesc.scan s hs
  have h := length_le_flatMap hesc.pos s
  simp only [List.length_append, List.length_cons]
  omega

/-! ## Numbers -/

/-- The text after a number does not continue it. -/
def NumberEnds (rest : PyStr) : Prop :=
  ∀ c t, rest = c :: t → isDigit c = false ∧ c ≠ 46 ∧ c ≠ 69 ∧ c ≠ 101

theorem numberEnds_nil : NumberEnds [] := by
  intro c t h
  cases h

theorem numberEnds_cons {c : ℕ} {t : PyStr}
    (h : isDigit c = false ∧ c ≠ 46 ∧ c ≠ 69 ∧ c ≠ 101) : NumberEnds (c :: t) := by
  intro c' t' heq
  cases heq
  exact h

theorem spanDigits_append {ds rest : PyStr} (hds : ∀ c ∈ ds, isDigit c = true)
    (hrest : NumberEnds rest) : spanDigits (ds ++ rest) = (ds, rest) := by
  rw [spanDigits, List.takeWhile_append_of_pos hds, List.dropWhile_append_of_pos hds]
  cases rest with
  | nil => simp
  | cons c t =>
      have hc := (hrest c t rfl).1
      simp [hc]

theorem scanFrac_of_numberEnds {rest : PyStr} (h : NumberEnds rest) : scanFrac rest = ([], rest) := by
  cases rest with
  | nil => rfl
  | cons c t =>
      have hc := (h c t rfl).2.1
      unfold scanFrac
      split
      · rename_i heq
        cases heq
        exact absurd rfl hc
      · rfl

theorem scanExp_of_numberEnds {rest : PyStr} (h : NumberEnds rest) : scanExp rest = ([], rest) := by
  cases rest with
  | nil => rfl
  | cons c t =>
      obtain ⟨-, -, h69, h101⟩ := h c t rfl
      simp [scanExp, h69, h101]

/-- The integer part of a written natural number. -/
theorem scanDigits_decimal (neg : Bool) (n : ℕ) {rest : PyStr} (hrest : NumberEnds rest) :
    (match decimal n ++ rest with
      | c :: tail =>
          if c = 48 then some (neg, ([48] : PyStr), tail)
          else if isDigit c then some (neg, spanDigits (decimal n ++ rest))
          else none
      | [] => none) = some (neg, decimal n, rest) := by
  rcases Nat.eq_zero_or_pos n with rfl | hn
  · rfl
  · have hdigits : ∀ c ∈ decimal n, isDigit c = true := fun c hc => isDigit_of_mem_decimal hc
    have hspan := spanDigits_append hdigits hrest
    obtain ⟨d, ds, hds⟩ := List.exists_cons_of_ne_nil (decimal_ne_nil n)
    have hzero := decimal_head_ne_zero hn
    have hdig : isDigit d = true := hdigits d (by simp [hds])
    rw [hds] at hzero hspan ⊢
    have hd : d ≠ 48 := by simpa using hzero
    simp only [List.cons_append] at hspan ⊢
    rw [if_neg hd, if_pos hdig, hspan]

theorem scanIntPart_decimalInt (z : ℤ) {rest : PyStr} (hrest : NumberEnds rest) :
    scanIntPart (decimalInt z ++ rest) = some (decide (z < 0), decimal z.natAbs, rest) := by
  by_cases hz : z < 0
  · simp only [decimalInt, hz, if_true, List.cons_append, scanIntPart, decide_true]
    exact scanDigits_decimal true z.natAbs hrest
  · simp only [decimalInt, hz, if_false, decide_false]
    have hne := decimal_ne_nil z.natAbs
    obtain ⟨d, ds, hds⟩ := List.exists_cons_of_ne_nil hne
    have hd : isDigit d = true := isDigit_of_mem_decimal (n := z.natAbs) (by simp [hds])
    have h45 : d ≠ 45 := by
      rintro rfl
      exact absurd hd (by decide)
    have hkey := scanDigits_decimal false z.natAbs hrest
    rw [hds, List.cons_append] at hkey ⊢
    unfold scanIntPart
    split
    · rename_i heq
      split at heq
      · rename_i heq'
        cases heq'
        exact absurd rfl h45
      · simp only [Prod.mk.injEq] at heq
        obtain ⟨rfl, rfl⟩ := heq
        exact hkey

/-- A written integer is read back. -/
theorem scanNumber_decimalInt (r : JsonReader) {z : ℤ}
    (hz : (decimal z.natAbs).length ≤ maxStrDigits) {rest : PyStr} (hrest : NumberEnds rest) :
    scanNumber r (decimalInt z ++ rest) = .ok (.int z, rest) := by
  rw [scanNumber, scanIntPart_decimalInt z hrest]
  simp only [scanFrac_of_numberEnds hrest, scanExp_of_numberEnds hrest, hz, if_true,
    ofDecimal_decimal, decide_eq_true_eq]
  congr 3
  split_ifs with h <;> omega

/-- The zeros of `float`, where the reader keeps their `repr`. -/
def KeepsZero (r : JsonReader) (x : PyStr) : Prop :=
  (x = py "0.0" ∨ x = py "-0.0") ∧ r.floatRepr x = x

/-- A written zero is read back. -/
theorem scanNumber_zero {r : JsonReader} {x : PyStr} (hx : KeepsZero r x) {rest : PyStr}
    (hrest : NumberEnds rest) : scanNumber r (x ++ rest) = .ok (.float x, rest) := by
  have hzero : ∀ c ∈ ([48] : PyStr), isDigit c = true := by decide
  have hfrac : scanFrac (46 :: 48 :: rest) = ([46, 48], rest) := by
    have hspan := spanDigits_append hzero hrest
    simp only [List.cons_append, List.nil_append] at hspan
    simp only [scanFrac, hspan]
  have hexp := scanExp_of_numberEnds hrest
  obtain ⟨hzeros, hrepr⟩ := hx
  rcases hzeros with rfl | rfl
  · have hint : scanIntPart (py "0.0" ++ rest) = some (false, [48], 46 :: 48 :: rest) := rfl
    rw [scanNumber, hint]
    simp only [hfrac, hexp]
    exact congrArg (fun x => Except.ok (Json.float x, rest)) hrepr
  · have hint : scanIntPart (py "-0.0" ++ rest) = some (true, [48], 46 :: 48 :: rest) := rfl
    rw [scanNumber, hint]
    simp only [hfrac, hexp]
    exact congrArg (fun x => Except.ok (Json.float x, rest)) hrepr

/-! ## Values -/

/-- The characters a written value can start with. -/
def valueStart (c : ℕ) : Bool :=
  isDigit c || c == 34 || c == 45 || c == 91 || c == 123 || c == 110 || c == 116 || c == 102

theorem skipWs_of_valueStart {c : ℕ} (h : valueStart c = true) (t : PyStr) :
    skipWs (c :: t) = c :: t := by
  have hws : (c == 32 || c == 9 || c == 10 || c == 13) = false := by
    simp only [valueStart, isDigit, Bool.or_eq_true, Bool.and_eq_true, decide_eq_true_eq,
      beq_iff_eq] at h
    simp only [Bool.or_eq_false_iff, beq_eq_false_iff_ne]
    omega
  rw [skipWs, List.dropWhile_cons_of_neg (by simp [hws])]

theorem decimalInt_head (z : ℤ) : ∃ c t, decimalInt z = c :: t ∧ (isDigit c = true ∨ c = 45) := by
  by_cases hz : z < 0
  · exact ⟨45, decimal z.natAbs, by simp [decimalInt, hz], Or.inr rfl⟩
  · obtain ⟨d, ds, hds⟩ := List.exists_cons_of_ne_nil (decimal_ne_nil z.natAbs)
    refine ⟨d, ds, by simp [decimalInt, hz, hds], Or.inl ?_⟩
    exact isDigit_of_mem_decimal (n := z.natAbs) (by simp [hds])

/-! The text of a value, for a choice of the escapes. -/

/-- A quoted string. -/
def renderStrWith (esc : ℕ → PyStr) (s : PyStr) : PyStr := 34 :: s.flatMap esc ++ [34]

mutual

/-- The text without white space in which `esc` spells the strings. -/
def renderWith (esc : ℕ → PyStr) : Json → PyStr
  | .null => py "null"
  | .bool true => py "true"
  | .bool false => py "false"
  | .int n => decimalInt n
  | .float r => r
  | .str s => renderStrWith esc s
  | .arr [] => py "[]"
  | .arr (v :: rest) => 91 :: (renderWith esc v ++ renderItemsWith esc rest)
  | .obj [] => py "{}"
  | .obj ((k, v) :: rest) =>
      123 :: (renderStrWith esc k ++ 58 :: (renderWith esc v ++ renderFieldsWith esc rest))

def renderItemsWith (esc : ℕ → PyStr) : List Json → PyStr
  | [] => [93]
  | v :: rest => 44 :: (renderWith esc v ++ renderItemsWith esc rest)

def renderFieldsWith (esc : ℕ → PyStr) : JsonFields → PyStr
  | [] => [125]
  | (k, v) :: rest =>
      44 :: (renderStrWith esc k ++ 58 :: (renderWith esc v ++ renderFieldsWith esc rest))

end

mutual

/-- `json.dumps` is the writer with its own escapes. -/
theorem render_eq : ∀ v : Json, render v = renderWith escapeChar v
  | .null => rfl
  | .bool true => rfl
  | .bool false => rfl
  | .int _ => rfl
  | .float _ => rfl
  | .str _ => rfl
  | .arr [] => rfl
  | .arr (v :: rest) => by rw [render, renderWith, render_eq v, renderItems_eq rest]
  | .obj [] => rfl
  | .obj ((k, v) :: rest) => by
      rw [render, renderWith, render_eq v, renderFields_eq rest]
      rfl

theorem renderItems_eq : ∀ items : List Json, renderItems items = renderItemsWith escapeChar items
  | [] => rfl
  | v :: rest => by rw [renderItems, renderItemsWith, render_eq v, renderItems_eq rest]

theorem renderFields_eq : ∀ fields : JsonFields, renderFields fields = renderFieldsWith escapeChar fields
  | [] => rfl
  | (k, v) :: rest => by
      rw [renderFields, renderFieldsWith, render_eq v, renderFields_eq rest]
      rfl

end

section Heads

variable (esc : ℕ → PyStr) {S : PyStr → Prop} {r : JsonReader}

/-- A written value starts with one of the value characters. -/
theorem renderWith_head {v : Json} (hv : Within S (KeepsZero r) v) :
    ∃ c t, renderWith esc v = c :: t ∧ valueStart c = true := by
  cases v with
  | null => exact ⟨110, py "ull", rfl, rfl⟩
  | bool b => cases b
              · exact ⟨102, py "alse", rfl, rfl⟩
              · exact ⟨116, py "rue", rfl, rfl⟩
  | int n =>
      obtain ⟨c, t, hct, hc⟩ := decimalInt_head n
      refine ⟨c, t, by rw [renderWith, hct], ?_⟩
      rcases hc with hc | rfl
      · simp [valueStart, hc]
      · rfl
  | float x =>
      simp only [Within, KeepsZero] at hv
      rcases hv.1 with rfl | rfl
      · exact ⟨48, [46, 48], rfl, rfl⟩
      · exact ⟨45, [48, 46, 48], rfl, rfl⟩
  | str s => exact ⟨34, s.flatMap esc ++ [34], rfl, rfl⟩
  | arr items => cases items with
      | nil => exact ⟨91, [93], rfl, rfl⟩
      | cons w rest => exact ⟨91, renderWith esc w ++ renderItemsWith esc rest, by rw [renderWith], rfl⟩
  | obj fields => cases fields with
      | nil => exact ⟨123, [125], rfl, rfl⟩
      | cons kv rest =>
          obtain ⟨k, w⟩ := kv
          exact ⟨123, renderStrWith esc k ++ 58 :: (renderWith esc w ++ renderFieldsWith esc rest),
            by rw [renderWith], rfl⟩

theorem render_head {v : Json} (hv : Within S (KeepsZero r) v) :
    ∃ c t, render v = c :: t ∧ valueStart c = true := by
  rw [render_eq]
  exact renderWith_head escapeChar hv

theorem skipWs_renderWith {v : Json} (hv : Within S (KeepsZero r) v) (rest : PyStr) :
    skipWs (renderWith esc v ++ rest) = renderWith esc v ++ rest := by
  obtain ⟨c, t, hct, hc⟩ := renderWith_head esc hv
  rw [hct, List.cons_append, skipWs_of_valueStart hc]

end Heads

theorem scanLiteral_decimalInt (z : ℤ) (rest : PyStr) :
    scanLiteral (decimalInt z ++ rest) = none := by
  have hlit : py "null" = [110, 117, 108, 108] ∧ py "true" = [116, 114, 117, 101] ∧
      py "false" = [102, 97, 108, 115, 101] ∧ py "NaN" = [78, 97, 78] ∧
      py "Infinity" = [73, 110, 102, 105, 110, 105, 116, 121] ∧
      py "-Infinity" = [45, 73, 110, 102, 105, 110, 105, 116, 121] := by decide
  obtain ⟨h1, h2, h3, h4, h5, h6⟩ := hlit
  have hdigit : ∀ c, isDigit c = true → 48 ≤ c ∧ c ≤ 57 := by
    intro c hc
    simpa [isDigit] using hc
  obtain ⟨d, ds, hds⟩ := List.exists_cons_of_ne_nil (decimal_ne_nil z.natAbs)
  have hd := hdigit d (isDigit_of_mem_decimal (n := z.natAbs) (by simp [hds]))
  have hne : ∀ k, 57 < k → (k == d) = false := by
    intro k hk
    simp only [beq_eq_false_iff_ne]
    omega
  by_cases hz : z < 0
  · simp [decimalInt, hz, hds, scanLiteral, startsWith, h1, h2, h3, h4, h5, h6,
      List.isPrefixOf_cons_cons, hne 73 (by norm_num)]
  · have h45 : (45 == d) = false := by
      simp only [beq_eq_false_iff_ne]
      omega
    simp [decimalInt, hz, hds, scanLiteral, startsWith, h1, h2, h3, h4, h5, h6,
      List.isPrefixOf_cons_cons, hne 73 (by norm_num), hne 78 (by norm_num), hne 102 (by norm_num),
      hne 110 (by norm_num), hne 116 (by norm_num), h45]

/-- A written list from its first item on. -/
def renderSeq (esc : ℕ → PyStr) : List Json → PyStr
  | [] => [93]
  | v :: rest => renderWith esc v ++ renderItemsWith esc rest

/-- A written object from its first key on. -/
def renderPairs (esc : ℕ → PyStr) : JsonFields → PyStr
  | [] => [125]
  | (k, v) :: rest => renderStrWith esc k ++ 58 :: (renderWith esc v ++ renderFieldsWith esc rest)

section Writers

variable {esc : ℕ → PyStr} {S : PyStr → Prop} {r : JsonReader}

theorem numberEnds_renderItems (items : List Json) (rest : PyStr) :
    NumberEnds (renderItemsWith esc items ++ rest) := by
  cases items with
  | nil => exact numberEnds_cons (by decide)
  | cons v items => rw [renderItemsWith]; exact numberEnds_cons (by decide)

theorem numberEnds_renderFields (fields : JsonFields) (rest : PyStr) :
    NumberEnds (renderFieldsWith esc fields ++ rest) := by
  cases fields with
  | nil => exact numberEnds_cons (by decide)
  | cons kv fields =>
      obtain ⟨k, v⟩ := kv
      rw [renderFieldsWith]
      exact numberEnds_cons (by decide)

/-- The hook keeps an object whose keys are distinct, as `dict` does. -/
def HookKeeps (r : JsonReader) : Prop :=
  ∀ fields, (keys fields).Nodup → r.objectHook fields = .ok (.obj fields)

/-- The plain `dict` of `json.loads` keeps it. -/
theorem hookKeeps_dict {r : JsonReader}
    (h : r.objectHook = fun fields => .ok (.obj (ofPairs fields))) : HookKeeps r := by
  intro fields hnodup
  rw [h]
  dsimp only
  rw [ofPairs_of_nodup hnodup]

/-- Every value takes some fuel. -/
theorem succ_of_fuelFor {v : Json} {fuel : ℕ} (h : fuelFor v ≤ fuel) : ∃ n, fuel = n + 1 := by
  have hpos : 0 < fuelFor v := by cases v <;> simp [fuelFor]
  exact ⟨fuel - 1, by omega⟩

mutual

/-- **The scanner inverts the writer.**  With enough fuel and depth, reading a plain
value followed by text that does not continue it returns the value and that text. -/
theorem parseValue_renderWith (hesc : Spelling esc S) (hr : HookKeeps r) :
    ∀ (v : Json) (fuel limit : ℕ) (rest : PyStr), Within S (KeepsZero r) v → fuelFor v ≤ fuel →
      depth v ≤ limit → NumberEnds rest →
      parseValue r fuel limit (renderWith esc v ++ rest) = .ok (v, rest)
  | .null, fuel, limit, rest, _, hfuel, _, _ => by
      obtain ⟨n, rfl⟩ := succ_of_fuelFor hfuel
      rfl
  | .bool true, fuel, limit, rest, _, hfuel, _, _ => by
      obtain ⟨n, rfl⟩ := succ_of_fuelFor hfuel
      rfl
  | .bool false, fuel, limit, rest, _, hfuel, _, _ => by
      obtain ⟨n, rfl⟩ := succ_of_fuelFor hfuel
      rfl
  | .int z, fuel, limit, rest, hv, hfuel, _, hrest => by
      obtain ⟨n, rfl⟩ := succ_of_fuelFor hfuel
      obtain ⟨c, t, hct, hc⟩ := decimalInt_head z
      -- a digit or a minus begins no string, object or list
      have hc' : c ≠ 34 ∧ c ≠ 123 ∧ c ≠ 91 := by
        rcases hc with hc | rfl
        · simp only [isDigit, Bool.and_eq_true, decide_eq_true_eq] at hc
          omega
        · decide
      have hlit := scanLiteral_decimalInt z rest
      have hnum := scanNumber_decimalInt r (by simpa [Within] using hv) hrest
      rw [renderWith]
      rw [hct, List.cons_append] at hlit hnum ⊢
      simp only [parseValue, hc'.1, hc'.2.1, hc'.2.2, if_false, hlit, hnum]
  | .float x, fuel, limit, rest, hv, hfuel, _, hrest => by
      obtain ⟨n, rfl⟩ := succ_of_fuelFor hfuel
      simp only [Within] at hv
      have hnum := scanNumber_zero hv hrest
      rcases hv.1 with rfl | rfl
      · exact hnum
      · exact hnum
  | .str s, fuel, limit, rest, hv, hfuel, _, _ => by
      obtain ⟨n, rfl⟩ := succ_of_fuelFor hfuel
      have hscan := hesc.scanString (by simpa [Within] using hv) rest
      simp only [renderWith, renderStrWith, List.cons_append, List.append_assoc, List.nil_append,
        parseValue, if_true]
      rw [hscan]
      rfl
  | .arr [], fuel, limit, rest, _, hfuel, hdepth, _ => by
      obtain ⟨n, rfl⟩ := succ_of_fuelFor hfuel
      obtain ⟨d, rfl⟩ : ∃ d, limit = d + 1 := ⟨limit - 1, by simp [depth] at hdepth; omega⟩
      rfl
  | .arr (w :: items), fuel, limit, rest, hv, hfuel, hdepth, _ => by
      simp only [fuelFor, depth] at hfuel hdepth
      obtain ⟨n, rfl⟩ : ∃ n, fuel = n + 1 := ⟨fuel - 1, by omega⟩
      obtain ⟨d, rfl⟩ : ∃ d, limit = d + 1 := ⟨limit - 1, by omega⟩
      have hitems := parseItems_renderWith hesc hr (w :: items) n d rest (by simp)
        (by simpa [Within] using hv) (by omega) (by omega)
      simp only [Within, WithinItems] at hv
      obtain ⟨c, t, hct, hc⟩ := renderWith_head esc hv.1
      -- a list that has an item is not read as the empty one
      have h93 : c ≠ 93 := by
        rintro rfl
        exact absurd hc (by decide)
      rw [renderSeq, List.append_assoc, hct, List.cons_append] at hitems
      simp only [renderWith, List.cons_append, List.append_assoc, hct, parseValue, Nat.reduceEqDiff,
        if_false, if_true, skipWs_of_valueStart hc]
      split
      · rename_i heq
        cases heq
        exact absurd rfl h93
      · rw [hitems]
        rfl
  | .obj [], fuel, limit, rest, _, hfuel, hdepth, _ => by
      obtain ⟨n, rfl⟩ := succ_of_fuelFor hfuel
      obtain ⟨d, rfl⟩ : ∃ d, limit = d + 1 := ⟨limit - 1, by simp [depth] at hdepth; omega⟩
      have hhook := hr [] List.nodup_nil
      simp only [renderWith, parseValue]
      show (do let v ← r.objectHook []; return (v, rest)) = _
      rw [hhook]
      rfl
  | .obj ((k, w) :: fields), fuel, limit, rest, hv, hfuel, hdepth, _ => by
      simp only [fuelFor, depth] at hfuel hdepth
      obtain ⟨n, rfl⟩ : ∃ n, fuel = n + 1 := ⟨fuel - 1, by omega⟩
      obtain ⟨d, rfl⟩ : ∃ d, limit = d + 1 := ⟨limit - 1, by omega⟩
      simp only [Within] at hv
      have hpairs := parseMembers_renderWith hesc hr ((k, w) :: fields) n d rest (by simp)
        hv.2 (by omega) (by omega)
      have hhook := hr _ hv.1
      simp only [renderPairs, renderStrWith, List.cons_append] at hpairs
      simp only [renderWith, renderStrWith, List.cons_append, parseValue, Nat.reduceEqDiff, if_false,
        if_true, skipWs_of_valueStart (show valueStart 34 = true by decide)]
      rw [hpairs]
      simp only [bind, Except.bind, hhook]
      rfl

theorem parseItems_renderWith (hesc : Spelling esc S) (hr : HookKeeps r) :
    ∀ (items : List Json) (fuel limit : ℕ) (rest : PyStr), items ≠ [] →
      WithinItems S (KeepsZero r) items → fuelForItems items ≤ fuel → depthItems items ≤ limit →
      parseItems r fuel limit (renderSeq esc items ++ rest) = .ok (items, rest)
  | [], _, _, _, hne, _, _, _ => absurd rfl hne
  | [v], fuel, limit, rest, _, hv, hfuel, hdepth => by
      simp only [fuelForItems, depthItems, WithinItems] at hfuel hdepth hv
      obtain ⟨n, rfl⟩ : ∃ n, fuel = n + 1 := ⟨fuel - 1, by omega⟩
      have hval := parseValue_renderWith hesc hr v n limit (93 :: rest) hv.1 (by omega) (by omega)
        (numberEnds_cons (by decide))
      simp only [renderSeq, renderItemsWith, List.append_assoc, List.cons_append, List.nil_append,
        parseItems]
      rw [hval]
      rfl
  | v :: w :: items, fuel, limit, rest, _, hv, hfuel, hdepth => by
      simp only [fuelForItems, depthItems, WithinItems] at hfuel hdepth hv
      obtain ⟨n, rfl⟩ : ∃ n, fuel = n + 1 := ⟨fuel - 1, by omega⟩
      have hval := parseValue_renderWith hesc hr v n limit (renderItemsWith esc (w :: items) ++ rest)
        hv.1 (by omega) (by omega) (numberEnds_renderItems _ _)
      have htail := parseItems_renderWith hesc hr (w :: items) n limit rest (by simp)
        (by simpa [WithinItems] using hv.2) (by simp only [fuelForItems]; omega)
        (by simp only [depthItems]; omega)
      simp only [renderSeq, List.append_assoc, parseItems]
      rw [hval]
      simp only [bind, Except.bind, renderItemsWith, List.cons_append, List.append_assoc]
      have hcomma : skipWs (44 :: (renderWith esc w ++ (renderItemsWith esc items ++ rest))) =
          44 :: (renderWith esc w ++ (renderItemsWith esc items ++ rest)) := rfl
      rw [hcomma]
      simp only [skipWs_renderWith esc hv.2.1]
      rw [renderSeq, List.append_assoc] at htail
      rw [htail]
      rfl

theorem parseMembers_renderWith (hesc : Spelling esc S) (hr : HookKeeps r) :
    ∀ (fields : JsonFields) (fuel limit : ℕ) (rest : PyStr), fields ≠ [] →
      WithinFields S (KeepsZero r) fields → fuelForFields fields ≤ fuel → depthFields fields ≤ limit →
      parseMembers r fuel limit (renderPairs esc fields ++ rest) = .ok (fields, rest)
  | [], _, _, _, hne, _, _, _ => absurd rfl hne
  | [(k, v)], fuel, limit, rest, _, hv, hfuel, hdepth => by
      simp only [fuelForFields, depthFields, WithinFields] at hfuel hdepth hv
      obtain ⟨n, rfl⟩ : ∃ n, fuel = n + 1 := ⟨fuel - 1, by omega⟩
      have hval := parseValue_renderWith hesc hr v n limit (125 :: rest) hv.2.1 (by omega) (by omega)
        (numberEnds_cons (by decide))
      have hkey := hesc.scanString hv.1 (58 :: (renderWith esc v ++ 125 :: rest))
      simp only [renderPairs, renderStrWith, renderFieldsWith, List.append_assoc, List.cons_append,
        List.nil_append, parseMembers]
      rw [hkey]
      simp only [bind, Except.bind]
      -- there is no white space in what is written
      have hcolon : skipWs (58 :: (renderWith esc v ++ 125 :: rest)) =
          58 :: (renderWith esc v ++ 125 :: rest) := rfl
      rw [hcolon]
      simp only [skipWs_renderWith esc hv.2.1]
      rw [hval]
      rfl
  | (k, v) :: (k', w) :: fields, fuel, limit, rest, _, hv, hfuel, hdepth => by
      simp only [fuelForFields, depthFields, WithinFields] at hfuel hdepth hv
      obtain ⟨n, rfl⟩ : ∃ n, fuel = n + 1 := ⟨fuel - 1, by omega⟩
      have hval := parseValue_renderWith hesc hr v n limit
        (renderFieldsWith esc ((k', w) :: fields) ++ rest) hv.2.1 (by omega) (by omega)
        (numberEnds_renderFields _ _)
      have htail := parseMembers_renderWith hesc hr ((k', w) :: fields) n limit rest (by simp)
        (by simpa [WithinFields] using hv.2.2) (by simp only [fuelForFields]; omega)
        (by simp only [depthFields]; omega)
      have hkey := hesc.scanString hv.1
        (58 :: (renderWith esc v ++ (renderFieldsWith esc ((k', w) :: fields) ++ rest)))
      simp only [renderPairs, renderStrWith, List.append_assoc, List.cons_append, List.nil_append,
        parseMembers]
      rw [hkey]
      simp only [bind, Except.bind]
      have hcolon :
          skipWs (58 :: (renderWith esc v ++ (renderFieldsWith esc ((k', w) :: fields) ++ rest))) =
          58 :: (renderWith esc v ++ (renderFieldsWith esc ((k', w) :: fields) ++ rest)) := rfl
      rw [hcolon]
      simp only [skipWs_renderWith esc hv.2.1]
      rw [hval]
      simp only [renderFieldsWith, renderStrWith, List.cons_append, List.append_assoc]
      have hcomma : ∀ t, skipWs (44 :: t) = 44 :: t := fun t => rfl
      simp only [hcomma, skipWs_of_valueStart (show valueStart 34 = true by decide)]
      simp only [renderPairs, renderStrWith, List.cons_append, List.nil_append, List.append_assoc]
        at htail
      simp only [List.nil_append]
      rw [htail]
      rfl

end

/-! ## Whole texts -/

mutual

/-- A written value is long enough to supply the fuel for reading it. -/
theorem fuelFor_le_length (esc : ℕ → PyStr) :
    ∀ v : Json, Within S (KeepsZero r) v → fuelFor v ≤ (renderWith esc v).length
  | .null, _ => (by decide : 1 ≤ 4)
  | .bool true, _ => (by decide : 1 ≤ 4)
  | .bool false, _ => (by decide : 1 ≤ 5)
  | .int z, _ => by
      obtain ⟨c, t, hct, -⟩ := decimalInt_head z
      simp [fuelFor, renderWith, hct]
  | .float x, hv => by
      simp only [Within] at hv
      rcases hv.1 with rfl | rfl
      · exact (by decide : 1 ≤ 3)
      · exact (by decide : 1 ≤ 4)
  | .str s, _ => by simp [fuelFor, renderWith, renderStrWith]
  | .arr [], _ => (by decide : 1 ≤ 2)
  | .arr (v :: rest), hv => by
      simp only [Within, WithinItems] at hv
      have hhead := fuelFor_le_length esc v hv.1
      have htail := fuelForItems_lt_length esc rest hv.2
      simp only [fuelFor, fuelForItems, renderWith, List.length_cons, List.length_append]
      omega
  | .obj [], _ => (by decide : 1 ≤ 2)
  | .obj ((k, v) :: rest), hv => by
      simp only [Within, WithinFields] at hv
      have hhead := fuelFor_le_length esc v hv.2.2.1
      have htail := fuelForFields_lt_length esc rest hv.2.2.2
      simp only [fuelFor, fuelForFields, renderWith, List.length_cons, List.length_append]
      omega

theorem fuelForItems_lt_length (esc : ℕ → PyStr) :
    ∀ items : List Json, WithinItems S (KeepsZero r) items →
      fuelForItems items < (renderItemsWith esc items).length
  | [], _ => Nat.one_pos
  | v :: rest, hv => by
      simp only [WithinItems] at hv
      have hhead := fuelFor_le_length esc v hv.1
      have htail := fuelForItems_lt_length esc rest hv.2
      simp only [fuelForItems, renderItemsWith, List.length_cons, List.length_append]
      omega

theorem fuelForFields_lt_length (esc : ℕ → PyStr) :
    ∀ fields : JsonFields, WithinFields S (KeepsZero r) fields →
      fuelForFields fields < (renderFieldsWith esc fields).length
  | [], _ => Nat.one_pos
  | (k, v) :: rest, hv => by
      simp only [WithinFields] at hv
      have hhead := fuelFor_le_length esc v hv.2.1
      have htail := fuelForFields_lt_length esc rest hv.2.2
      simp only [fuelForFields, renderFieldsWith, List.length_cons, List.length_append]
      omega

end

/-- `json.loads` on a written value with white space after it. -/
theorem loadsStr_renderWith (hesc : Spelling esc S) (hr : HookKeeps r) {v : Json}
    (hv : Within S (KeepsZero r) v) (hdepth : depth v ≤ r.depthLimit) {space : PyStr}
    (hends : NumberEnds space) (hspace : skipWs space = []) :
    loadsStr r (renderWith esc v ++ space) = .ok v := by
  have hfuel := fuelFor_le_length esc v hv
  have hlength : (renderWith esc v ++ space).length = (renderWith esc v).length + space.length :=
    List.length_append
  have hparse := parseValue_renderWith hesc hr v (2 * (renderWith esc v ++ space).length + 1)
    r.depthLimit space hv (by omega) hdepth hends
  have hws := skipWs_renderWith esc hv space
  obtain ⟨c, t, hct, hc⟩ := renderWith_head esc hv
  unfold loadsStr
  split
  · rename_i heq
    rw [hct] at heq
    cases heq
    exact absurd hc (by decide)
  · simp only [hws, hparse, hspace]
    rfl

end Writers

/-- `json.loads` on the text of `json.dumps`, for the strings from which it is read back. -/
theorem loadsStr_render_within {S : PyStr → Prop} {r : JsonReader} (hS : Spelling escapeChar S)
    (hr : HookKeeps r) {v : Json} (hv : Within S (KeepsZero r) v) (hdepth : depth v ≤ r.depthLimit)
    {space : PyStr} (hends : NumberEnds space) (hspace : skipWs space = []) :
    loadsStr r (render v ++ space) = .ok v := by
  rw [render_eq]
  exact loadsStr_renderWith hS hr hv hdepth hends hspace

/-- `json.loads` on the text of a plain value with white space after it. -/
theorem loadsStr_render_append {r : JsonReader} (hr : HookKeeps r) {v : Json} (hv : Plain v)
    (hdepth : depth v ≤ r.depthLimit) {space : PyStr} (hends : NumberEnds space)
    (hspace : skipWs space = []) : loadsStr r (render v ++ space) = .ok v :=
  loadsStr_render_within spelling_escapeChar hr hv.upTo hdepth hends hspace

/-- **Text round trip.**  `json.loads` on the text of a plain value returns the value. -/
theorem loadsStr_render {r : JsonReader} (hr : HookKeeps r) {v : Json} (hv : Plain v)
    (hdepth : depth v ≤ r.depthLimit) : loadsStr r (render v) = .ok v := by
  have hload := loadsStr_render_append hr hv hdepth numberEnds_nil rfl
  rwa [List.append_nil] at hload

theorem printable_hexDigit {d : ℕ} (h : d < 16) : 32 ≤ hexDigit d ∧ hexDigit d < 127 := by
  unfold hexDigit
  split_ifs <;> omega

theorem printable_escapeUnit {u c : ℕ} (h : c ∈ escapeUnit u) : 32 ≤ c ∧ c < 127 := by
  have hdigit : ∀ n, 32 ≤ hexDigit (n % 16) ∧ hexDigit (n % 16) < 127 := fun n =>
    printable_hexDigit (Nat.mod_lt n (by norm_num))
  simp only [escapeUnit, List.mem_cons, List.not_mem_nil, or_false] at h
  rcases h with rfl | rfl | rfl | rfl | rfl | rfl
  · decide
  · decide
  all_goals exact hdigit _

theorem printable_escapeChar {c d : ℕ} (h : d ∈ escapeChar c) : 32 ≤ d ∧ d < 127 := by
  have hpair : ∀ e, 32 ≤ e → e < 127 → d ∈ ([92, e] : PyStr) → 32 ≤ d ∧ d < 127 := by
    intro e hlo hhi hd
    simp only [List.mem_cons, List.not_mem_nil, or_false] at hd
    omega
  unfold escapeChar at h
  split_ifs at h with h34 h92 h10 h13 h9 h12 h8 hprint hbmp
  · exact hpair 34 (by norm_num) (by norm_num) h
  · exact hpair 92 (by norm_num) (by norm_num) h
  · exact hpair 110 (by norm_num) (by norm_num) h
  · exact hpair 114 (by norm_num) (by norm_num) h
  · exact hpair 116 (by norm_num) (by norm_num) h
  · exact hpair 102 (by norm_num) (by norm_num) h
  · exact hpair 98 (by norm_num) (by norm_num) h
  · rw [List.mem_singleton] at h
    subst h
    exact hprint
  · exact printable_escapeUnit h
  · rcases List.mem_append.mp h with h | h
    · exact printable_escapeUnit h
    · exact printable_escapeUnit h

theorem printable_renderStr {s : PyStr} {c : ℕ} (h : c ∈ renderStr s) : 32 ≤ c ∧ c < 127 := by
  simp only [renderStr, List.cons_append, List.mem_cons, List.mem_append, List.mem_flatMap,
    List.not_mem_nil, or_false] at h
  rcases h with rfl | ⟨d, -, hd⟩ | rfl
  · decide
  · exact printable_escapeChar hd
  · decide

theorem printable_decimalInt {z : ℤ} {c : ℕ} (h : c ∈ decimalInt z) : 32 ≤ c ∧ c < 127 := by
  have hdigit : ∀ c ∈ decimal z.natAbs, 32 ≤ c ∧ c < 127 := by
    intro c hc
    have hc' := isDigit_of_mem_decimal hc
    simp only [isDigit, Bool.and_eq_true, decide_eq_true_eq] at hc'
    omega
  unfold decimalInt at h
  split_ifs at h with hz
  · rcases List.mem_cons.mp h with rfl | h
    · decide
    · exact hdigit c h
  · exact hdigit c h

mutual

/-- Every character that is written is printable ASCII: `ensure_ascii` leaves no line
break and no control character in the text. -/
theorem printable_render_within {S : PyStr → Prop} {r : JsonReader} :
    ∀ v : Json, Within S (KeepsZero r) v → ∀ c ∈ render v, 32 ≤ c ∧ c < 127
  | .null, _, c, h => by
      have hlit : ∀ d ∈ render .null, 32 ≤ d ∧ d < 127 := by decide
      exact hlit c h
  | .bool true, _, c, h => by
      have hlit : ∀ d ∈ render (.bool true), 32 ≤ d ∧ d < 127 := by decide
      exact hlit c h
  | .bool false, _, c, h => by
      have hlit : ∀ d ∈ render (.bool false), 32 ≤ d ∧ d < 127 := by decide
      exact hlit c h
  | .int z, _, c, h => printable_decimalInt (by simpa [render] using h)
  | .float x, hv, c, h => by
      simp only [Within] at hv
      have hzeros : (∀ d ∈ py "0.0", 32 ≤ d ∧ d < 127) ∧ ∀ d ∈ py "-0.0", 32 ≤ d ∧ d < 127 := by
        decide
      rcases hv.1 with rfl | rfl
      · exact hzeros.1 c h
      · exact hzeros.2 c h
  | .str s, _, c, h => printable_renderStr (by simpa [render] using h)
  | .arr [], _, c, h => by
      have hlit : ∀ d ∈ render (.arr []), 32 ≤ d ∧ d < 127 := by decide
      exact hlit c h
  | .arr (v :: rest), hv, c, h => by
      simp only [Within, WithinItems] at hv
      simp only [render, List.mem_cons, List.mem_append] at h
      rcases h with rfl | h | h
      · decide
      · exact printable_render_within v hv.1 c h
      · exact printable_renderItems rest hv.2 c h
  | .obj [], _, c, h => by
      have hlit : ∀ d ∈ render (.obj []), 32 ≤ d ∧ d < 127 := by decide
      exact hlit c h
  | .obj ((k, v) :: rest), hv, c, h => by
      simp only [Within, WithinFields] at hv
      simp only [render, List.mem_cons, List.mem_append] at h
      rcases h with rfl | h | rfl | h | h
      · decide
      · exact printable_renderStr h
      · decide
      · exact printable_render_within v hv.2.2.1 c h
      · exact printable_renderFields rest hv.2.2.2 c h

theorem printable_renderItems {S : PyStr → Prop} {r : JsonReader} :
    ∀ items : List Json, WithinItems S (KeepsZero r) items → ∀ c ∈ renderItems items, 32 ≤ c ∧ c < 127
  | [], _, c, h => by
      rw [renderItems, List.mem_singleton] at h
      omega
  | v :: rest, hv, c, h => by
      simp only [WithinItems] at hv
      simp only [renderItems, List.mem_cons, List.mem_append] at h
      rcases h with rfl | h | h
      · decide
      · exact printable_render_within v hv.1 c h
      · exact printable_renderItems rest hv.2 c h

theorem printable_renderFields {S : PyStr → Prop} {r : JsonReader} :
    ∀ fields : JsonFields, WithinFields S (KeepsZero r) fields →
      ∀ c ∈ renderFields fields, 32 ≤ c ∧ c < 127
  | [], _, c, h => by
      rw [renderFields, List.mem_singleton] at h
      omega
  | (k, v) :: rest, hv, c, h => by
      simp only [WithinFields] at hv
      simp only [renderFields, List.mem_cons, List.mem_append] at h
      rcases h with rfl | h | rfl | h | h
      · decide
      · exact printable_renderStr h
      · decide
      · exact printable_render_within v hv.2.1 c h
      · exact printable_renderFields rest hv.2.2 c h

end

/-- A reader that nests `n` deep and keeps `dict` semantics. -/
def readerFor (n : ℕ) : JsonReader where
  depthLimit := n
  floatRepr := id
  objectHook fields := .ok (.obj (ofPairs fields))

theorem hookKeeps_readerFor (n : ℕ) : HookKeeps (readerFor n) := hookKeeps_dict rfl

/-- The same of a plain value. -/
theorem printable_render (v : Json) (hv : Plain v) : ∀ c ∈ render v, 32 ≤ c ∧ c < 127 :=
  printable_render_within (r := readerFor 0) v hv.upTo

theorem isAscii_render {v : Json} (hv : Plain v) : ∀ c ∈ render v, isAscii c = true := by
  intro c hc
  have h := printable_render v hv c hc
  simp only [isAscii, decide_eq_true_eq]
  omega

/-! ## Octets -/

theorem toNat_ofNat_ascii {c : ℕ} (h : c < 128) : (UInt8.ofNat c).toNat = c := by
  rw [UInt8.toNat_ofNat']
  omega

theorem decodeUtf8_toAscii {s : PyStr} (hs : ∀ c ∈ s, c < 128) :
    decodeUtf8 (toAscii s) = some s := by
  induction s with
  | nil => rfl
  | cons c s ih =>
      have hc : c < 128 := hs c (by simp)
      have hlt : UInt8.ofNat c < 0x80 := by
        rw [UInt8.lt_iff_toNat_lt, toNat_ofNat_ascii hc]
        exact hc
      have hrest := ih fun d hd => hs d (by simp [hd])
      rw [toAscii] at hrest
      rw [toAscii, List.map_cons]
      unfold decodeUtf8
      rw [if_pos hlt, hrest, toNat_ofNat_ascii hc]
      rfl

theorem ofNat_ne_of_ascii {c : ℕ} {b : UInt8} (h : c < 128) (hb : b.toNat ≠ c) :
    UInt8.ofNat c ≠ b := by
  rintro rfl
  exact hb (toNat_ofNat_ascii h)

/-- ASCII text without a NUL is taken for UTF-8. -/
theorem detectEncoding_toAscii {s : PyStr} (hs : ∀ c ∈ s, 0 < c ∧ c < 128) :
    detectEncoding (toAscii s) = .utf8 := by
  have hlow : ∀ c ∈ s, UInt8.ofNat c ≠ 0 ∧ UInt8.ofNat c ≠ 0xFE ∧ UInt8.ofNat c ≠ 0xFF ∧
      UInt8.ofNat c ≠ 0xEF := by
    intro c hc
    have h := hs c hc
    have hne : ∀ b : UInt8, b.toNat ≠ c → UInt8.ofNat c ≠ b := fun b hb =>
      ofNat_ne_of_ascii h.2 hb
    refine ⟨hne 0 ?_, hne 0xFE ?_, hne 0xFF ?_, hne 0xEF ?_⟩
    · show 0 ≠ c
      omega
    · show 254 ≠ c
      omega
    · show 255 ≠ c
      omega
    · show 239 ≠ c
      omega
  cases s with
  | nil => rfl
  | cons a s =>
      have ha := hlow a (by simp)
      -- no byte order mark begins with an ASCII octet
      have hhead : ∀ b t, b ≠ UInt8.ofNat a → ¬(b :: t) <+: toAscii (a :: s) := by
        intro b t hb hprefix
        rw [toAscii, List.map_cons, List.cons_prefix_cons] at hprefix
        exact hb hprefix.1
      unfold detectEncoding
      rw [if_neg, if_neg, if_neg]
      · rcases s with _ | ⟨b, _ | ⟨c, _ | ⟨d, rest⟩⟩⟩
        · rfl
        · have hb := hlow b (by simp)
          simp [toAscii, ha.1, hb.1]
        · rfl
        · have hb := hlow b (by simp)
          simp [toAscii, ha.1, hb.1]
      · exact hhead _ _ (Ne.symm ha.2.2.2)
      · rintro (h | h)
        · exact hhead _ _ (Ne.symm ha.2.1) h
        · exact hhead _ _ (Ne.symm ha.2.2.1) h
      · rintro (h | h)
        · exact hhead _ _ (Ne.symm ha.1) h
        · exact hhead _ _ (Ne.symm ha.2.2.1) h

theorem decodeBytes_toAscii {s : PyStr} (hs : ∀ c ∈ s, 0 < c ∧ c < 128) :
    decodeBytes (toAscii s) = some s := by
  rw [decodeBytes, detectEncoding_toAscii hs]
  exact decodeUtf8_toAscii fun c hc => (hs c hc).2

/-- **Byte round trip.**  `json.loads` on the octets of a plain value's text. -/
theorem loads_render {r : JsonReader} (hr : HookKeeps r) {v : Json} (hv : Plain v)
    (hdepth : depth v ≤ r.depthLimit) : loads r (toAscii (render v)) = .ok v := by
  have hprint : ∀ c ∈ render v, 0 < c ∧ c < 128 := by
    intro c hc
    have h := printable_render v hv c hc
    omega
  rw [loads, decodeBytes_toAscii hprint]
  exact loadsStr_render hr hv hdepth

/-! ## Injectivity -/

/-- Plain values with one text are one value. -/
theorem render_injOn {v w : Json} (hv : Plain v) (hw : Plain w) (h : render v = render w) :
    v = w := by
  have hv' := loadsStr_render (hookKeeps_readerFor (max (depth v) (depth w))) hv (le_max_left _ _)
  have hw' := loadsStr_render (hookKeeps_readerFor (max (depth v) (depth w))) hw (le_max_right _ _)
  rw [h, hw'] at hv'
  exact (Except.ok.inj hv').symm

mutual

theorem within_sortKeys {S F : PyStr → Prop} :
    ∀ v : Json, Within S F v → Within S F (sortKeys v)
  | .null, _ => trivial
  | .bool _, _ => trivial
  | .int _, hv => hv
  | .float _, hv => hv
  | .str _, hv => hv
  | .arr items, hv => by
      simp only [Within] at hv
      simpa only [sortKeys, Within] using withinItems_sortKeys items hv
  | .obj fields, hv => by
      simp only [Within] at hv
      have hfields := withinFields_sortKeys fields hv.2
      simp only [sortKeys, Within]
      refine ⟨keys_sortByKey_nodup (by rw [keys_sortKeysFields]; exact hv.1), ?_⟩
      rw [withinFields_iff] at hfields ⊢
      intro kv hkv
      exact hfields kv ((sortByKey_perm _).mem_iff.mp hkv)

theorem withinItems_sortKeys {S F : PyStr → Prop} :
    ∀ items : List Json, WithinItems S F items → WithinItems S F (sortKeysItems items)
  | [], _ => trivial
  | v :: rest, hv => ⟨within_sortKeys v hv.1, withinItems_sortKeys rest hv.2⟩

theorem withinFields_sortKeys {S F : PyStr → Prop} :
    ∀ fields : JsonFields, WithinFields S F fields → WithinFields S F (sortKeysFields fields)
  | [], _ => trivial
  | (_, v) :: rest, hv => ⟨hv.1, within_sortKeys v hv.2.1, withinFields_sortKeys rest hv.2.2⟩

end

theorem plain_sortKeys (v : Json) (hv : Plain v) : Plain (sortKeys v) :=
  (plain_iff _).mpr (within_sortKeys v ((plain_iff v).mp hv))

mutual

theorem depth_sortKeys : ∀ v : Json, depth (sortKeys v) ≤ depth v
  | .null => le_rfl
  | .bool _ => le_rfl
  | .int _ => le_rfl
  | .float _ => le_rfl
  | .str _ => le_rfl
  | .arr items => by
      have h := depthItems_sortKeys items
      simp only [sortKeys, depth]
      omega
  | .obj fields => by
      have h := depthFields_sortKeys fields
      simp only [sortKeys, depth]
      have hsorted : depthFields (sortByKey (sortKeysFields fields)) ≤ depthFields fields := by
        rw [depthFields_le_iff] at h ⊢
        intro kv hkv
        exact h kv ((sortByKey_perm _).mem_iff.mp hkv)
      omega

theorem depthItems_sortKeys : ∀ items : List Json, depthItems (sortKeysItems items) ≤ depthItems items
  | [] => le_rfl
  | v :: rest => max_le_max (depth_sortKeys v) (depthItems_sortKeys rest)

theorem depthFields_sortKeys :
    ∀ fields : JsonFields, depthFields (sortKeysFields fields) ≤ depthFields fields
  | [] => le_rfl
  | (_, v) :: rest => max_le_max (depth_sortKeys v) (depthFields_sortKeys rest)

end

/-- The same value up to the order of keys, at every level. -/
def SameValue (v w : Json) : Prop := sortKeys v = sortKeys w

/-- **The canonical text determines the value** up to the order of keys. -/
theorem canonical_injOn {v w : Json} (hv : Plain v) (hw : Plain w) (h : canonical v = canonical w) :
    SameValue v w :=
  render_injOn (plain_sortKeys v hv) (plain_sortKeys w hw) h

/-- What `json.loads` returns for a canonical text. -/
theorem loads_canonical {r : JsonReader} (hr : HookKeeps r) {v : Json} (hv : Plain v)
    (hdepth : depth v ≤ r.depthLimit) : loads r (toAscii (canonical v)) = .ok (sortKeys v) :=
  loads_render hr (plain_sortKeys v hv) ((depth_sortKeys v).trans hdepth)

end Json
