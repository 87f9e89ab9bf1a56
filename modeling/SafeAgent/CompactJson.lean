/-
# How long a written value is

Bounds on the text, the depth and the integers of a value, put together from those of its
fields (`Compact`).

* `length_renderStr_le`      : a string takes at most six characters for each of its octets;
* `weight_canonical_obj_le`  : an object with known keys, for any weight of its characters;
* `Compact.obj`              : an object with known keys, from a bound for each of them;
* `Compact.arr`              : a list, from a bound for each of its items;
* `Compact.loads`            : **a compact value is written, and read back with its keys sorted**.
-/
import SafeAgent.JsonKeys

namespace Json

open PyText PyItems

/-! ## Strings -/

/-- `ensure_ascii` takes at most six characters for one octet. -/
theorem length_escapeChar_le (c : ℕ) : (escapeChar c).length ≤ 6 * (utf8Char c).length := by
  have hunit : ∀ u, (escapeUnit u).length = 6 := fun u => rfl
  unfold escapeChar utf8Char
  split_ifs <;> simp only [List.length_append, List.length_cons, List.length_nil, hunit] <;> omega

theorem length_renderStr_le {s : PyStr} {octets : Bytes} (h : encodeUtf8 s = some octets) :
    (renderStr s).length ≤ 6 * octets.length + 2 := by
  have hlength : ∀ t : PyStr, (t.flatMap escapeChar).length ≤ 6 * (t.flatMap utf8Char).length := by
    intro t
    induction t with
    | nil => simp
    | cons c t ih =>
        have hc := length_escapeChar_le c
        simp only [List.flatMap_cons, List.length_append]
        omega
  unfold encodeUtf8 at h
  split_ifs at h
  cases h
  have hs := hlength s
  simp only [renderStr, List.cons_append, List.length_cons, List.length_append, List.length_nil]
  omega

/-- A hexadecimal string needs no escapes. -/
theorem length_renderStr_hex {s : PyStr} (h : ∀ c ∈ s, isHexLower c = true) :
    (renderStr s).length = s.length + 2 := by
  have hone : s.flatMap escapeChar = s := by
    induction s with
    | nil => rfl
    | cons c s ih =>
        have hc : escapeChar c = [c] := by
          have hhex := h c List.mem_cons_self
          simp only [isHexLower, isDigit, Bool.or_eq_true, Bool.and_eq_true, decide_eq_true_eq] at hhex
          unfold escapeChar
          split_ifs <;> first | rfl | omega
        rw [List.flatMap_cons, hc, ih fun d hd => h d (List.mem_cons_of_mem c hd)]
        rfl
  rw [renderStr, hone]
  simp

/-! ## Containers -/

theorem length_renderItems (items : List Json) :
    (renderItems items).length = 1 + (items.map fun v => (render v).length + 1).sum := by
  induction items with
  | nil => rfl
  | cons v rest ih =>
      simp only [renderItems, List.length_cons, List.length_append, ih, List.map_cons, List.sum_cons]
      omega

theorem length_render_arr_le (items : List Json) :
    (render (.arr items)).length ≤ 2 + (items.map fun v => (render v).length + 1).sum := by
  cases items with
  | nil => decide
  | cons v rest =>
      simp only [render, List.length_cons, List.length_append, length_renderItems, List.map_cons,
        List.sum_cons]
      omega

/-! ## The weight of a text -/

/-- The weight of a text, from that of each character. -/
def weight (w : ℕ → ℕ) (s : PyStr) : ℕ := (s.map w).sum

section Weight

variable (w : ℕ → ℕ)

@[simp] theorem weight_nil : weight w [] = 0 := rfl

@[simp] theorem weight_cons (c : ℕ) (s : PyStr) : weight w (c :: s) = w c + weight w s := by
  rw [weight, List.map_cons, List.sum_cons, weight]

@[simp] theorem weight_append (s t : PyStr) : weight w (s ++ t) = weight w s + weight w t := by
  rw [weight, List.map_append, List.sum_append, weight, weight]

theorem weight_one (s : PyStr) : weight (fun _ => 1) s = s.length := by
  simp [weight]

theorem weight_renderFields (fields : JsonFields) : weight w (renderFields fields) =
    w 125 + (fields.map fun kv => weight w (renderStr kv.1) + weight w (render kv.2) +
      (w 58 + w 44)).sum := by
  induction fields with
  | nil => simp [renderFields]
  | cons kv rest ih =>
      obtain ⟨key, v⟩ := kv
      simp only [renderFields, weight_cons, weight_append, ih, List.map_cons, List.sum_cons]
      omega

theorem weight_render_obj_le (fields : JsonFields) : weight w (render (.obj fields)) ≤
    w 123 + w 125 + (fields.map fun kv => weight w (renderStr kv.1) + weight w (render kv.2) +
      (w 58 + w 44)).sum := by
  cases fields with
  | nil => simp [render, py, weight]
  | cons kv rest =>
      obtain ⟨key, v⟩ := kv
      simp only [render, weight_cons, weight_append, weight_renderFields, List.map_cons, List.sum_cons]
      omega

end Weight

/-! ## Objects with known keys -/

section Keys

variable {fields : JsonFields} {sizes : List (PyStr × ℕ)}

theorem keys_perm_of_hasKeys {expected : List PyStr} (hnodup : (keys fields).Nodup)
    (hexpected : expected.Nodup) (hkeys : hasKeys fields expected = true) :
    (keys fields).Perm expected := by
  rw [List.perm_ext_iff_of_nodup hnodup hexpected]
  simp only [hasKeys, Bool.and_eq_true, List.all_eq_true, List.contains_iff_mem] at hkeys
  exact fun key => ⟨hkeys.1 key, hkeys.2 key⟩

/-- What holds of each expected key holds of each item. -/
theorem forall_items {P : PyStr → Json → Prop} (hnodup : (keys fields).Nodup)
    {expected : List PyStr} (hkeys : hasKeys fields expected = true)
    (h : ∀ key ∈ expected, P key (get fields key)) : ∀ kv ∈ fields, P kv.1 kv.2 := by
  intro kv hkv
  have hmem : kv.1 ∈ expected := by
    simp only [hasKeys, Bool.and_eq_true, List.all_eq_true, List.contains_iff_mem] at hkeys
    exact hkeys.1 kv.1 (List.mem_map.mpr ⟨kv, hkv, rfl⟩)
  have hkey := h kv.1 hmem
  rwa [get_of_mem hnodup hkv] at hkey

variable (sizes) in
/-- How much the canonical text of an object can weigh, given a bound for each of its keys. -/
theorem weight_canonical_obj_le {w : ℕ → ℕ} (hnodup : (keys fields).Nodup)
    (hexpected : (sizes.map Prod.fst).Nodup) (hkeys : hasKeys fields (sizes.map Prod.fst) = true)
    (h : ∀ entry ∈ sizes, weight w (canonical (get fields entry.1)) ≤ entry.2) :
    weight w (canonical (.obj fields)) ≤ w 123 + w 125 +
      (sizes.map fun entry => weight w (renderStr entry.1) + entry.2 + (w 58 + w 44)).sum := by
  have hperm : (keys fields).Perm (sizes.map Prod.fst) :=
    keys_perm_of_hasKeys hnodup hexpected hkeys
  have hitems : (fields.map fun kv => weight w (renderStr kv.1) + weight w (canonical kv.2) +
      (w 58 + w 44)) = (keys fields).map fun key => weight w (renderStr key) +
        weight w (canonical (get fields key)) + (w 58 + w 44) := by
    rw [keys, List.map_map]
    refine List.map_congr_left fun kv hkv => ?_
    rw [Function.comp_apply, get_of_mem hnodup hkv]
  have hsorted : weight w (render (.obj (sortByKey (sortKeysFields fields)))) ≤ w 123 + w 125 +
      (fields.map fun kv => weight w (renderStr kv.1) + weight w (canonical kv.2) +
        (w 58 + w 44)).sum := by
    refine (weight_render_obj_le w _).trans (le_of_eq ?_)
    rw [((sortByKey_perm (sortKeysFields fields)).map _).sum_eq, sortKeysFields_eq_map, List.map_map]
    rfl
  calc weight w (canonical (.obj fields))
      ≤ w 123 + w 125 + (fields.map fun kv => weight w (renderStr kv.1) + weight w (canonical kv.2) +
          (w 58 + w 44)).sum := hsorted
    _ = w 123 + w 125 + (sizes.map fun entry => weight w (renderStr entry.1) +
          weight w (canonical (get fields entry.1)) + (w 58 + w 44)).sum := by
        rw [hitems, (hperm.map _).sum_eq, List.map_map]
        rfl
    _ ≤ w 123 + w 125 + (sizes.map fun entry => weight w (renderStr entry.1) + entry.2 +
          (w 58 + w 44)).sum := by
        refine Nat.add_le_add_left (List.sum_le_sum fun entry hentry => ?_) _
        have hentry := h entry hentry
        omega

/-- How long it can be: the weight where each character counts once. -/
theorem length_canonical_obj_le (hnodup : (keys fields).Nodup)
    (hexpected : (sizes.map Prod.fst).Nodup) (hkeys : hasKeys fields (sizes.map Prod.fst) = true)
    (h : ∀ entry ∈ sizes, (canonical (get fields entry.1)).length ≤ entry.2) :
    (canonical (.obj fields)).length ≤
      2 + (sizes.map fun entry => (renderStr entry.1).length + entry.2 + 2).sum := by
  have hweight := weight_canonical_obj_le sizes (w := fun _ => 1) hnodup hexpected hkeys
    (by simpa only [weight_one] using h)
  simpa only [weight_one] using hweight

end Keys

/-! ## Compact values -/

/-- A value that can be written in `size` characters and nests at most `nesting` deep, and that
the reader reads back. -/
structure Compact (r : JsonReader) (v : Json) (size nesting : ℕ) : Prop where
  plain : Within Scalars (KeepsZero r) v
  fit : intsFit v = true
  shallow : depth v ≤ nesting
  short : (canonical v).length ≤ size

namespace Compact

variable {r : JsonReader}

theorem mono {v : Json} {size size' nesting nesting' : ℕ} (h : Compact r v size nesting)
    (hsize : size ≤ size') (hnesting : nesting ≤ nesting') : Compact r v size' nesting' where
  plain := h.plain
  fit := h.fit
  shallow := h.shallow.trans hnesting
  short := h.short.trans hsize

/-- A string, by the octets of its text. -/
theorem str {s : PyStr} {octets : Bytes} (h : encodeUtf8 s = some octets) :
    Compact r (.str s) (6 * octets.length + 2) 0 where
  plain := by
    unfold encodeUtf8 at h
    split_ifs at h with hall
    exact List.all_eq_true.mp hall
  fit := rfl
  shallow := le_rfl
  short := length_renderStr_le h

/-- An ASCII string. -/
theorem ascii {s : PyStr} {n : ℕ} (h : ∀ c ∈ s, isAscii c = true) (hlength : s.length ≤ n) :
    Compact r (.str s) (6 * n + 2) 0 := by
  have hstr := str (r := r) (encodeUtf8_ascii h)
  rw [toAscii, List.length_map] at hstr
  exact hstr.mono (by omega) le_rfl

/-- A hexadecimal string. -/
theorem hex {s : PyStr} {n : ℕ} (h : ∀ c ∈ s, isHexLower c = true) (hlength : s.length = n) :
    Compact r (.str s) (n + 2) 0 where
  plain := fun c hc => isScalar_of_isAscii (isAscii_of_isHexLower (h c hc))
  fit := rfl
  shallow := le_rfl
  short := le_of_eq ((length_renderStr_hex h).trans (by rw [hlength]))

/-- An integer between two powers of ten, and its sign. -/
theorem int {z : ℤ} (digits : ℕ) (hpos : 0 < digits) (hdigits : digits ≤ maxStrDigits)
    (h : z.natAbs < 10 ^ digits) : Compact r (.int z) (digits + 1) 0 := by
  have hlength : (decimal z.natAbs).length ≤ digits := (length_decimal_le_iff hpos).mpr h
  refine ⟨?_, ?_, le_rfl, ?_⟩
  · rw [Within]
    exact hlength.trans hdigits
  · rw [intsFit, decide_eq_true_eq]
    exact hlength.trans hdigits
  · rw [canonical, sortKeys, render, decimalInt]
    split_ifs
    · exact Nat.add_le_add_right hlength 1
    · exact hlength.trans (Nat.le_succ digits)

/-- A list, from a bound for each of its items. -/
theorem arr {items : List Json} {sizes : List ℕ} {nesting : ℕ}
    (h : List.Forall₂ (fun v size => Compact r v size nesting) items sizes) :
    Compact r (.arr items) (2 + (sizes.map fun size => size + 1).sum) (nesting + 1) where
  plain := by
    rw [Within]
    induction h with
    | nil => trivial
    | cons hv _ ih => exact ⟨hv.plain, ih⟩
  fit := by
    rw [intsFit]
    induction h with
    | nil => rfl
    | cons hv _ ih =>
        rw [intsFitItems, hv.fit, ih]
        rfl
  shallow := by
    have hitems : depthItems items ≤ nesting := by
      induction h with
      | nil => exact Nat.zero_le nesting
      | cons hv _ ih => exact max_le hv.shallow ih
    rw [depth]
    omega
  short := by
    refine (length_render_arr_le _).trans (Nat.add_le_add_left ?_ 2)
    rw [sortKeysItems_eq_map, List.map_map]
    induction h with
    | nil => exact le_rfl
    | cons hv _ ih =>
        rw [List.map_cons, List.map_cons, List.sum_cons, List.sum_cons]
        exact Nat.add_le_add (Nat.add_le_add_right hv.short 1) ih

/-- A list whose items have one bound. -/
theorem arr_all {items : List Json} {size nesting : ℕ} (h : ∀ v ∈ items, Compact r v size nesting) :
    Compact r (.arr items) (2 + items.length * (size + 1)) (nesting + 1) := by
  have hall : List.Forall₂ (fun v size => Compact r v size nesting) items
      (List.replicate items.length size) := by
    induction items with
    | nil => exact .nil
    | cons v rest ih =>
        rw [List.forall_mem_cons] at h
        exact .cons h.1 (ih h.2)
  have harr := arr hall
  rwa [List.map_replicate, List.sum_replicate, smul_eq_mul] at harr

/-- An object whose keys are known, each with a bound for its value. -/
theorem obj {fields : JsonFields} (sizes : List (PyStr × ℕ)) {nesting : ℕ}
    (hnodup : (keys fields).Nodup) (hexpected : (sizes.map Prod.fst).Nodup)
    (hnames : ∀ entry ∈ sizes, ∀ c ∈ entry.1, isScalar c = true)
    (hkeys : hasKeys fields (sizes.map Prod.fst) = true)
    (h : ∀ entry ∈ sizes, Compact r (get fields entry.1) entry.2 nesting) :
    Compact r (.obj fields)
      (2 + (sizes.map fun entry => (renderStr entry.1).length + entry.2 + 2).sum) (nesting + 1) := by
  have hitems : ∀ kv ∈ fields, (∀ c ∈ kv.1, isScalar c = true) ∧ ∃ size, Compact r kv.2 size nesting := by
    refine forall_items (P := fun key v => (∀ c ∈ key, isScalar c = true) ∧
      ∃ size, Compact r v size nesting) hnodup hkeys fun key hkey => ?_
    obtain ⟨entry, hentry, rfl⟩ := List.mem_map.mp hkey
    exact ⟨hnames entry hentry, entry.2, h entry hentry⟩
  refine ⟨?_, ?_, ?_, ?_⟩
  · rw [Within]
    refine ⟨hnodup, withinFields_iff.mpr fun kv hkv => ?_⟩
    obtain ⟨hname, size, hvalue⟩ := hitems kv hkv
    exact ⟨hname, hvalue.plain⟩
  · rw [intsFit, intsFitFields_iff]
    intro kv hkv
    obtain ⟨-, size, hvalue⟩ := hitems kv hkv
    exact hvalue.fit
  · have hdepth : depthFields fields ≤ nesting := depthFields_le_iff.mpr fun kv hkv => by
      obtain ⟨-, size, hvalue⟩ := hitems kv hkv
      exact hvalue.shallow
    rw [depth]
    omega
  · exact length_canonical_obj_le hnodup hexpected hkeys fun entry hentry => (h entry hentry).short

/-- **A compact value is written, and read back with its keys sorted.** -/
theorem loads {v : Json} {size nesting : ℕ} (h : Compact r v size nesting) (hr : HookKeeps r)
    (hlimit : nesting ≤ r.depthLimit) : dumps v = .ok (canonical v) ∧
      encodeUtf8 (canonical v) = some (toAscii (canonical v)) ∧
      loadsStr r (canonical v) = .ok (sortKeys v) := by
  have hsorted := within_sortKeys v h.plain
  have hascii : ∀ c ∈ canonical v, isAscii c = true := by
    intro c hc
    have hprintable := printable_render_within _ hsorted c hc
    simp only [isAscii, decide_eq_true_eq]
    omega
  have hload := loadsStr_render_within spelling_escapeChar hr hsorted
    ((depth_sortKeys v).trans (h.shallow.trans hlimit)) numberEnds_nil rfl
  rw [List.append_nil] at hload
  exact ⟨if_pos h.fit, encodeUtf8_ascii hascii, hload⟩

end Compact

end Json
