/-
# Timestamps of receipts

The texts `YYYY-MM-DDTHH:MM:SSZ` that receipts and work receipts carry.

* `UtcTime.parseIso` : the pattern together with `datetime.fromisoformat`;
* `UtcTime.stamp`    : the order of the moments that they stand for.
-/
import SafeAgent.Operations

open PyText

namespace UtcTime

/-- The moment as a number that grows with it, as comparing two `datetime` values does. -/
def stamp (t : UtcTime) : ℕ :=
  ((((t.year * 13 + t.month) * 32 + t.day) * 24 + t.hour) * 60 + t.minute) * 60 + t.second

/-- The value of two decimal digits. -/
def digitPair (a b : ℕ) : ℕ := 10 * (a - 48) + (b - 48)

/-- `datetime(year, month, day, hour, minute, second, tzinfo=UTC)`, where that exists. -/
def ofParts (year month day hour minute second : ℕ) : Option UtcTime :=
  if h : (1 ≤ year ∧ year ≤ 9999) ∧ (1 ≤ month ∧ month ≤ 12) ∧
      (1 ≤ day ∧ day ≤ daysInMonth year month) ∧ hour < 24 ∧ minute < 60 ∧ second < 60 then
    some { year, month, day, hour, minute, second
           year_ok := h.1, month_ok := h.2.1, day_ok := h.2.2.1, time_ok := h.2.2.2 }
  else none

/-- `\d{4}-\d{2}-\d{2}T\d{2}:\d{2}:\d{2}Z`, then
`datetime.fromisoformat(value.removesuffix("Z") + "+00:00")`, which reads ASCII digits only. -/
def parseIso (s : PyStr) : Option UtcTime :=
  match s with
  | [y1, y2, y3, y4, 45, m1, m2, 45, d1, d2, 84, h1, h2, 58, n1, n2, 58, s1, s2, 90] =>
      if [y1, y2, y3, y4, m1, m2, d1, d2, h1, h2, n1, n2, s1, s2].all isDigit then
        ofParts (100 * digitPair y1 y2 + digitPair y3 y4) (digitPair m1 m2) (digitPair d1 d2)
          (digitPair h1 h2) (digitPair n1 n2) (digitPair s1 s2)
      else none
  | _ => none

/-- A timestamp is ASCII text. -/
theorem isAscii_of_parseIso {s : PyStr} {t : UtcTime} (h : parseIso s = some t) :
    ∀ c ∈ s, isAscii c = true := by
  have hsep : ∀ c, c = 45 ∨ c = 84 ∨ c = 58 ∨ c = 90 → isAscii c = true := by
    rintro c (rfl | rfl | rfl | rfl) <;> rfl
  unfold parseIso at h
  split at h
  · split_ifs at h with hdigits
    simp only [List.all_cons, List.all_nil, Bool.and_true, Bool.and_eq_true] at hdigits
    obtain ⟨hy1, hy2, hy3, hy4, hm1, hm2, hd1, hd2, hh1, hh2, hn1, hn2, hs1, hs2⟩ := hdigits
    have hdigit : ∀ {c}, isDigit c = true → isAscii c = true := isAscii_of_isDigit
    simp only [List.forall_mem_cons, List.not_mem_nil, false_implies, implies_true, and_true]
    exact ⟨hdigit hy1, hdigit hy2, hdigit hy3, hdigit hy4, hsep _ (by simp), hdigit hm1, hdigit hm2,
      hsep _ (by simp), hdigit hd1, hdigit hd2, hsep _ (by simp), hdigit hh1, hdigit hh2,
      hsep _ (by simp), hdigit hn1, hdigit hn2, hsep _ (by simp), hdigit hs1, hdigit hs2,
      hsep _ (by simp)⟩
  · cases h

end UtcTime
