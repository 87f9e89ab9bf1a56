/-
# Programs with effects

A program is a tree: it returns a value, or it performs an operation and continues
with the answer.  What an operation does is a relation on worlds, so one program can
be run against many environments, and an answer may be anything the relation allows.

* `Reaches`        : the worlds a program can be cut in, before and after each operation;
* `Returns`        : the big-step meaning of a program that runs to its end;
* `Safe`           : an invariant holds wherever the program is cut, and the
  postcondition holds when it returns;
* `safe_bind`      : sequential composition, as an equivalence;
* `Safe.invariant` and `Safe.post` : `Safe` says what it should about the two meanings;
* `exists_returns` : where every operation has an answer, every program has a result;
* `run`            : the result, where the answers are given by a function;
* `Every`          : what a program can perform and return, whatever it is answered;
* `Once`           : an operation is performed at most once, so one answer settles it.
-/
import SafeAgent.PyText

/-- A program that performs operations of `Op`, answered in `Ret`, and returns an `α`. -/
inductive EffTree (Op : Type) (Ret : Op → Type) (α : Type) : Type where
  | ret (a : α)
  | perform (o : Op) (k : Ret o → EffTree Op Ret α)

namespace EffTree

variable {Op : Type} {Ret : Op → Type} {α β : Type} {W : Type}

/-- Run `f` on the value that `p` returns. -/
def bind (p : EffTree Op Ret α) (f : α → EffTree Op Ret β) : EffTree Op Ret β :=
  match p with
  | .ret a => f a
  | .perform o k => .perform o fun r => (k r).bind f

@[simp] theorem ret_bind (a : α) (f : α → EffTree Op Ret β) : (ret a).bind f = f a := rfl

@[simp] theorem perform_bind (o : Op) (k : Ret o → EffTree Op Ret α)
    (f : α → EffTree Op Ret β) : (perform o k).bind f = perform o fun r => (k r).bind f := rfl

section Meaning

-- `H w o r w'`: in world `w` the operation `o` may answer `r` and leave world `w'`
variable (H : W → (o : Op) → Ret o → W → Prop)

/-- `p` started in `w` can be cut in `w'`. -/
def Reaches : EffTree Op Ret α → W → W → Prop
  | .ret _, w, w' => w' = w
  | .perform o k, w, w' => w' = w ∨ ∃ r w₁, H w o r w₁ ∧ Reaches (k r) w₁ w'

/-- `p` started in `w` can return `a` and leave `w'`. -/
def Returns : EffTree Op Ret α → W → α → W → Prop
  | .ret b, w, a, w' => a = b ∧ w' = w
  | .perform o k, w, a, w' => ∃ r w₁, H w o r w₁ ∧ Returns (k r) w₁ a w'

/-- `p` keeps `I` in every world it can be cut in, and ends in `Q`. -/
def Safe (I : W → Prop) : EffTree Op Ret α → (α → W → Prop) → W → Prop
  | .ret a, Q, w => I w ∧ Q a w
  | .perform o k, Q, w => I w ∧ ∀ r w', H w o r w' → Safe I (k r) Q w'

end Meaning

variable {H : W → (o : Op) → Ret o → W → Prop} {I : W → Prop}

/-- A safe program starts inside the invariant. -/
theorem Safe.start {p : EffTree Op Ret α} {Q : α → W → Prop} {w : W} (h : Safe H I p Q w) : I w := by
  cases p with
  | ret a => exact h.1
  | perform o k => exact h.1

/-- Consequence: a weaker postcondition, which may use the invariant. -/
theorem Safe.mono {p : EffTree Op Ret α} {Q Q' : α → W → Prop} {w : W} (h : Safe H I p Q w)
    (hQ : ∀ a w', I w' → Q a w' → Q' a w') : Safe H I p Q' w := by
  induction p generalizing w with
  | ret a => exact ⟨h.1, hQ a w h.1 h.2⟩
  | perform o k ih => exact ⟨h.1, fun r w' hstep => ih r (h.2 r w' hstep)⟩

/-- Two postconditions together. -/
theorem Safe.and {p : EffTree Op Ret α} {Q Q' : α → W → Prop} {w : W} (h : Safe H I p Q w)
    (h' : Safe H I p Q' w) : Safe H I p (fun a w' => Q a w' ∧ Q' a w') w := by
  induction p generalizing w with
  | ret a => exact ⟨h.1, h.2, h'.2⟩
  | perform o k ih => exact ⟨h.1, fun r w' hstep => ih r (h.2 r w' hstep) (h'.2 r w' hstep)⟩

/-- **Sequential composition.** -/
theorem safe_bind {p : EffTree Op Ret α} {f : α → EffTree Op Ret β} {Q : β → W → Prop} {w : W} :
    Safe H I (p.bind f) Q w ↔ Safe H I p (fun a w' => Safe H I (f a) Q w') w := by
  induction p generalizing w with
  | ret a => exact ⟨fun h => ⟨h.start, h⟩, fun h => h.2⟩
  | perform o k ih =>
      simp only [perform_bind, Safe]
      constructor
      · rintro ⟨hI, h⟩
        exact ⟨hI, fun r w' hstep => (ih r).mp (h r w' hstep)⟩
      · rintro ⟨hI, h⟩
        exact ⟨hI, fun r w' hstep => (ih r).mpr (h r w' hstep)⟩

/-- The invariant holds wherever a safe program is cut. -/
theorem Safe.invariant {p : EffTree Op Ret α} {Q : α → W → Prop} {w w' : W}
    (h : Safe H I p Q w) (hreach : Reaches H p w w') : I w' := by
  induction p generalizing w with
  | ret a =>
      rw [Reaches] at hreach
      exact hreach ▸ h.1
  | perform o k ih =>
      rcases hreach with rfl | ⟨r, w₁, hstep, hrest⟩
      · exact h.1
      · exact ih r (h.2 r w₁ hstep) hrest

/-- The postcondition holds of what a safe program returns. -/
theorem Safe.post {p : EffTree Op Ret α} {Q : α → W → Prop} {w w' : W} {a : α}
    (h : Safe H I p Q w) (hret : Returns H p w a w') : Q a w' := by
  induction p generalizing w with
  | ret b =>
      obtain ⟨rfl, rfl⟩ := hret
      exact h.2
  | perform o k ih =>
      obtain ⟨r, w₁, hstep, hrest⟩ := hret
      exact ih r (h.2 r w₁ hstep) hrest

/-- The strongest postcondition: what a program returns is what it can return. -/
theorem safe_returns (p : EffTree Op Ret α) (w : W) :
    Safe H (fun _ => True) p (Returns H p w) w := by
  induction p generalizing w with
  | ret a => exact ⟨trivial, rfl, rfl⟩
  | perform o k ih =>
      refine ⟨trivial, fun r w' hstep => ?_⟩
      exact (ih r w').mono fun a w'' _ hrest => ⟨r, w', hstep, hrest⟩

theorem returns_bind {p : EffTree Op Ret α} {f : α → EffTree Op Ret β} {w w' : W} {b : β} :
    Returns H (p.bind f) w b w' ↔ ∃ a w₁, Returns H p w a w₁ ∧ Returns H (f a) w₁ b w' := by
  induction p generalizing w with
  | ret a =>
      constructor
      · intro h
        exact ⟨a, w, ⟨rfl, rfl⟩, h⟩
      · rintro ⟨_, _, ⟨rfl, rfl⟩, h⟩
        exact h
  | perform o k ih =>
      constructor
      · rintro ⟨r, w₁, hstep, h⟩
        obtain ⟨a, w₂, hk, hf⟩ := (ih r).mp h
        exact ⟨a, w₂, ⟨r, w₁, hstep, hk⟩, hf⟩
      · rintro ⟨a, w₂, ⟨r, w₁, hstep, hk⟩, hf⟩
        exact ⟨r, w₁, hstep, (ih r).mpr ⟨a, w₂, hk, hf⟩⟩

/-- A world in which a program returns is one in which it can be cut. -/
theorem Returns.reaches {p : EffTree Op Ret α} {w w' : W} {a : α} (h : Returns H p w a w') :
    Reaches H p w w' := by
  induction p generalizing w with
  | ret b => exact h.2
  | perform o k ih =>
      obtain ⟨r, w₁, hstep, hrest⟩ := h
      exact Or.inr ⟨r, w₁, hstep, ih r hrest⟩

/-- Where every operation has an answer, every program has a result. -/
theorem exists_returns (hH : ∀ w o, ∃ r w', H w o r w') (p : EffTree Op Ret α) (w : W) :
    ∃ a w', Returns H p w a w' := by
  induction p generalizing w with
  | ret a => exact ⟨a, w, rfl, rfl⟩
  | perform o k ih =>
      obtain ⟨r, w₁, hstep⟩ := hH w o
      obtain ⟨a, w', hret⟩ := ih r w₁
      exact ⟨a, w', r, w₁, hstep, hret⟩

/-- The result of a program whose operations are answered by a function. -/
def run (answer : W → (o : Op) → Ret o × W) : EffTree Op Ret α → W → α × W
  | .ret a, w => (a, w)
  | .perform o k, w => run answer (k (answer w o).1) (answer w o).2

theorem run_bind (answer : W → (o : Op) → Ret o × W) (p : EffTree Op Ret α)
    (f : α → EffTree Op Ret β) (w : W) :
    run answer (p.bind f) w = run answer (f (run answer p w).1) (run answer p w).2 := by
  induction p generalizing w with
  | ret a => rfl
  | perform o k ih => exact ih _ _

/-- Whether every operation of that run passes a test. -/
def runAll (answer : W → (o : Op) → Ret o × W) (test : W → Op → Bool) :
    EffTree Op Ret α → W → Bool
  | .ret _, _ => true
  | .perform o k, w => test w o && runAll answer test (k (answer w o).1) (answer w o).2

/-- A run whose operations pass a test is a run under a handler that allows what passes. -/
theorem returns_runAll {answer : W → (o : Op) → Ret o × W} {test : W → Op → Bool}
    (hanswer : ∀ w o, test w o = true → H w o (answer w o).1 (answer w o).2)
    {p : EffTree Op Ret α} {w : W} (h : runAll answer test p w = true) :
    Returns H p w (run answer p w).1 (run answer p w).2 := by
  induction p generalizing w with
  | ret a => exact ⟨rfl, rfl⟩
  | perform o k ih =>
      rw [runAll, Bool.and_eq_true] at h
      exact ⟨_, _, hanswer w o h.1, ih _ h.2⟩

/-- The same where the handler allows every answer. -/
theorem returns_run {answer : W → (o : Op) → Ret o × W}
    (hanswer : ∀ w o, H w o (answer w o).1 (answer w o).2) (p : EffTree Op Ret α) (w : W) :
    Returns H p w (run answer p w).1 (run answer p w).2 := by
  induction p generalizing w with
  | ret a => exact ⟨rfl, rfl⟩
  | perform o k ih => exact ⟨_, _, hanswer w o, ih _ _⟩

/-- Two handlers that agree on the operations from the worlds at hand. -/
theorem Safe.handler_mono {H' : W → (o : Op) → Ret o → W → Prop} {p : EffTree Op Ret α}
    {Q : α → W → Prop} {w : W} (h : Safe H I p Q w) (hH : ∀ w o r w', H' w o r w' → H w o r w') :
    Safe H' I p Q w := by
  induction p generalizing w with
  | ret a => exact h
  | perform o k ih => exact ⟨h.1, fun r w' hstep => ih r (h.2 r w' (hH w o r w' hstep))⟩

/-- A handler that allows less, and an invariant of it. -/
theorem Safe.restrict {H' : W → (o : Op) → Ret o → W → Prop} {I' : W → Prop} {p : EffTree Op Ret α}
    {Q : α → W → Prop} {w : W} (h : Safe H I p Q w) (hH : ∀ w o r w', H' w o r w' → H w o r w')
    (hstep : ∀ w o r w', I' w → H' w o r w' → I' w') (hI : I' w) : Safe H' I' p Q w := by
  induction p generalizing w with
  | ret a => exact ⟨hI, h.2⟩
  | perform o k ih =>
      refine ⟨hI, ?_⟩
      intro r w' ho
      exact ih r (h.2 r w' (hH w o r w' ho)) (hstep w o r w' hI ho)

/-! ## Whatever is answered -/

/-- Every operation of the program is in `P`, and every value it returns in `R`. -/
def Every (P : Op → Prop) (R : α → Prop) : EffTree Op Ret α → Prop
  | .ret a => R a
  | .perform o k => P o ∧ ∀ r, Every P R (k r)

theorem every_bind {P : Op → Prop} {R : β → Prop} {p : EffTree Op Ret α} {f : α → EffTree Op Ret β} :
    Every P R (p.bind f) ↔ Every P (fun a => Every P R (f a)) p := by
  induction p with
  | ret a => exact Iff.rfl
  | perform o k ih => exact and_congr_right fun _ => forall_congr' ih

theorem Every.mono {P : Op → Prop} {R R' : α → Prop} {p : EffTree Op Ret α} (h : Every P R p)
    (hR : ∀ a, R a → R' a) : Every P R' p := by
  induction p with
  | ret a => exact hR a h
  | perform o k ih => exact ⟨h.1, fun r => ih r (h.2 r)⟩

/-- More operations. -/
theorem Every.imp {P P' : Op → Prop} {R : α → Prop} {p : EffTree Op Ret α} (h : Every P R p)
    (hP : ∀ o, P o → P' o) : Every P' R p := by
  induction p with
  | ret a => exact h
  | perform o k ih => exact ⟨hP o h.1, fun r => ih r (h.2 r)⟩

/-- A program that performs only operations in `P` returns the same where these answer the same. -/
theorem Every.returns {H' : W → (o : Op) → Ret o → W → Prop} {P : Op → Prop} {R : α → Prop}
    {p : EffTree Op Ret α} (h : Every P R p) (hH : ∀ w o r w', P o → H w o r w' → H' w o r w')
    {w w' : W} {a : α} (hret : Returns H p w a w') : Returns H' p w a w' := by
  induction p generalizing w with
  | ret b => exact hret
  | perform o k ih =>
      obtain ⟨r, w₁, hstep, hrest⟩ := hret
      exact ⟨r, w₁, hH w o r w₁ h.1 hstep, ih r (h.2 r) hrest⟩

/-- An invariant of the operations in `P` holds wherever such a program is cut. -/
theorem Every.safe {P : Op → Prop} {R : α → Prop} {p : EffTree Op Ret α} (h : Every P R p)
    (hstep : ∀ w o r w', P o → I w → H w o r w' → I w') {w : W} (hI : I w) :
    Safe H I p (fun a _ => R a) w := by
  induction p generalizing w with
  | ret a => exact ⟨hI, h⟩
  | perform o k ih => exact ⟨hI, fun r w' ho => ih r (h.2 r) (hstep w o r w' h.1 hI ho)⟩

/-- A program that performs only operations in `P` is safe under a handler that allows no more of
these. -/
theorem Every.handler_mono {H' : W → (o : Op) → Ret o → W → Prop} {P : Op → Prop} {R : α → Prop}
    {p : EffTree Op Ret α} {Q : α → W → Prop} {w : W} (h : Every P R p) (hsafe : Safe H I p Q w)
    (hH : ∀ w o r w', P o → H' w o r w' → H w o r w') : Safe H' I p Q w := by
  induction p generalizing w with
  | ret a => exact hsafe
  | perform o k ih =>
      exact ⟨hsafe.1, fun r w' ho => ih r (h.2 r) (hsafe.2 r w' (hH w o r w' h.1 ho))⟩

/-- Operations of `P` are performed at most once. -/
def Once (P : Op → Prop) : EffTree Op Ret α → Prop
  | .ret _ => True
  | .perform o k => ∀ r, Once P (k r) ∧ (P o → Every (fun o' => ¬P o') (fun _ => True) (k r))

theorem once_bind {P : Op → Prop} {p : EffTree Op Ret α} {f : α → EffTree Op Ret β}
    (h : Every (fun o => ¬P o) (fun a => Once P (f a)) p) : Once P (p.bind f) := by
  induction p with
  | ret a => exact h
  | perform o k ih =>
      intro r
      exact ⟨ih r (h.2 r), fun ho => absurd ho h.1⟩

theorem Every.once {P : Op → Prop} {R : α → Prop} {p : EffTree Op Ret α}
    (h : Every (fun o => ¬P o) R p) : Once P p := by
  induction p with
  | ret a => trivial
  | perform o k ih =>
      intro r
      exact ⟨ih r (h.2 r), fun ho => absurd ho h.1⟩

theorem Once.bind {P : Op → Prop} {p : EffTree Op Ret α} {f : α → EffTree Op Ret β} (h : Once P p)
    (hf : ∀ a, Every (fun o => ¬P o) (fun _ => True) (f a)) : Once P (p.bind f) := by
  induction p with
  | ret a => exact (hf a).once
  | perform o k ih =>
      intro r
      exact ⟨ih r (h r).1, fun ho => every_bind.mpr (((h r).2 ho).mono fun a _ => hf a)⟩

/-- **One answer for all.**  Where an operation is performed at most once, its answer can be fixed
beforehand: the handlers `H' x` differ in it only. -/
theorem Once.returns {X : Type} {H' : X → W → (o : Op) → Ret o → W → Prop} {P : Op → Prop}
    (hother : ∀ x w o r w', ¬P o → H w o r w' → H' x w o r w')
    (hanswer : ∀ w o r w', P o → H w o r w' → ∃ x, H' x w o r w') (x₀ : X)
    {p : EffTree Op Ret α} (h : Once P p) {w w' : W} {a : α} (hret : Returns H p w a w') :
    ∃ x, Returns (H' x) p w a w' := by
  induction p generalizing w with
  | ret b => exact ⟨x₀, hret⟩
  | perform o k ih =>
      obtain ⟨r, w₁, hstep, hrest⟩ := hret
      by_cases ho : P o
      · obtain ⟨x, hx⟩ := hanswer w o r w₁ ho hstep
        exact ⟨x, r, w₁, hx, ((h r).2 ho).returns (hother x) hrest⟩
      · obtain ⟨x, hx⟩ := ih r (h r).1 hrest
        exact ⟨x, r, w₁, hother x w o r w₁ ho hstep, hx⟩

end EffTree
