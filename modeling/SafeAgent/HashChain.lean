/-
# Hash chains

A chain leads from one head to another over a list of records; `step h r h'` says that the
record `r` names the head `h` and has the head `h'`.

* `linked_concat`  : a chain is extended at its end;
* `Linked.unique`  : two chains from the same start to the same head have the same records,
  where a head determines the record and the head before it.
-/
import Mathlib.Data.List.Forall2
import Mathlib.Tactic

/-- The records lead from one head to another. -/
inductive Linked {H R : Type*} (step : H → R → H → Prop) : H → List R → H → Prop
  | nil (h : H) : Linked step h [] h
  | cons {h h₁ h₂ : H} {r : R} {rs : List R} :
      step h r h₁ → Linked step h₁ rs h₂ → Linked step h (r :: rs) h₂

namespace Linked

variable {H R : Type*} {step : H → R → H → Prop} {h h₁ h₂ : H}

theorem append {as bs : List R} (has : Linked step h as h₁) (hbs : Linked step h₁ bs h₂) :
    Linked step h (as ++ bs) h₂ := by
  induction has with
  | nil _ => exact hbs
  | cons hstep _ ih => exact cons hstep (ih hbs)

theorem singleton {a : R} (hstep : step h a h₁) : Linked step h [a] h₁ := cons hstep (nil h₁)

/-- A chain is a shorter chain and one more step. -/
theorem concat {as : List R} {a : R} :
    Linked step h (as ++ [a]) h₂ ↔ ∃ h₁, Linked step h as h₁ ∧ step h₁ a h₂ := by
  refine ⟨fun hlinked => ?_, fun ⟨h₁, has, hstep⟩ => has.append (singleton hstep)⟩
  induction as generalizing h with
  | nil =>
      cases hlinked with
      | cons hstep hrest =>
          cases hrest
          exact ⟨h, nil h, hstep⟩
  | cons b as ih =>
      cases hlinked with
      | cons hstep hrest =>
          obtain ⟨h', has, hlast⟩ := ih hrest
          exact ⟨h', cons hstep has, hlast⟩

/-- **A head commits to its chain.**  Where a head other than the start determines the
record that leads to it and the head before, two chains to one head have the same records;
by induction from their common end backwards. -/
theorem unique {Same : R → R → Prop} {start : H} {as bs : List R}
    (hback : ∀ a ∈ as, ∀ b ∈ bs, ∀ h₁ h₂ h, step h₁ a h → step h₂ b h → Same a b ∧ h₁ = h₂)
    (hstart : ∀ r, r ∈ as ∨ r ∈ bs → ∀ h, ¬step h r start)
    (has : Linked step start as h) (hbs : Linked step start bs h) :
    List.Forall₂ Same as bs := by
  induction as using List.reverseRecOn generalizing bs h with
  | nil =>
      cases has
      rcases List.eq_nil_or_concat bs with rfl | ⟨bs, b, rfl⟩
      · exact List.Forall₂.nil
      · rw [List.concat_eq_append] at hbs
        obtain ⟨h₁, -, hstep⟩ := concat.mp hbs
        exact absurd hstep (hstart b (by simp) h₁)
  | append_singleton as a ih =>
      obtain ⟨h₁, has₁, ha⟩ := concat.mp has
      rcases List.eq_nil_or_concat bs with rfl | ⟨bs, b, rfl⟩
      · cases hbs
        exact absurd ha (hstart a (by simp) h₁)
      · rw [List.concat_eq_append] at hbs hback hstart ⊢
        obtain ⟨h₂, hbs₂, hb⟩ := concat.mp hbs
        obtain ⟨hsame, rfl⟩ := hback a (by simp) b (by simp) h₁ h₂ h ha hb
        refine List.rel_append (ih ?_ ?_ has₁ hbs₂) (List.Forall₂.cons hsame List.Forall₂.nil)
        · exact fun a' ha' b' hb' => hback a' (by simp [ha']) b' (by simp [hb'])
        · exact fun r hr => hstart r (by simp only [List.mem_append]; tauto)

end Linked
