/-
# Processes

A process is a program that also has memory and may raise.  Memory survives an
exception, as Python objects do, and is lost when the process ends or is cut; what
the operations have done to the world stays.

* `Proc`         : the monad, with `throw`, `tryCatch`, `get` and `modify`;
* `Wp`           : the invariant holds at every cut, `Q` at a normal end, `E` at an exception;
* `wp_bind`, `wp_tryCatch`, `wp_call`, … : one rule for each construct, all equivalences;
* `Ends`         : what a process can return, whatever the operations answer;
* `Only`         : which operations a process can perform, and which memory it can leave;
* `Once`         : operations that it performs at most once;
* `result`       : what it returns where each operation has one answer;
* `Run`          : processes started one after another, each to its end or cut anywhere;
* `Run.invariant`: what every process keeps holds in every world of every run.
-/
import SafeAgent.EffectTree

/-- A process with memory `σ` and exceptions `ε`; an operation answers or raises. -/
def Proc (Op : Type) (Val : Op → Type) (ε σ α : Type) : Type :=
  σ → EffTree Op (fun o => Except ε (Val o)) (Except ε α × σ)

namespace Proc

variable {Op : Type} {Val : Op → Type} {ε σ α β : Type} {W : Type}

/-- Sequential composition; an exception skips the rest. -/
protected def bind (m : Proc Op Val ε σ α) (f : α → Proc Op Val ε σ β) : Proc Op Val ε σ β :=
  fun s => (m s).bind fun
    | (.ok a, s') => f a s'
    | (.error e, s') => .ret (.error e, s')

instance : Monad (Proc Op Val ε σ) where
  pure a := fun s => .ret (.ok a, s)
  bind := Proc.bind

/-- `raise error` -/
protected def throw (e : ε) : Proc Op Val ε σ α := fun s => .ret (.error e, s)

/-- `try: m` with a handler for every exception. -/
protected def tryCatch (m : Proc Op Val ε σ α) (handler : ε → Proc Op Val ε σ α) :
    Proc Op Val ε σ α :=
  fun s => (m s).bind fun
    | (.ok a, s') => .ret (.ok a, s')
    | (.error e, s') => handler e s'

instance : MonadExceptOf ε (Proc Op Val ε σ) where
  throw := Proc.throw
  tryCatch := Proc.tryCatch

instance : MonadStateOf σ (Proc Op Val ε σ) where
  get := fun s => .ret (.ok s, s)
  set s' := fun _ => .ret (.ok (), s')
  modifyGet f := fun s => .ret (.ok (f s).1, (f s).2)

/-- Perform an operation; its exception is raised here. -/
def call (o : Op) : Proc Op Val ε σ (Val o) :=
  fun s => .perform o fun r => .ret (r, s)

/-- The result of a pure function that may raise. -/
def ofExcept (r : Except ε α) : Proc Op Val ε σ α := fun s => .ret (r, s)

/-! ## The rules -/

section Rules

variable (H : W → (o : Op) → Except ε (Val o) → W → Prop) (I : W → Prop)

/-- Started with memory `s` in world `w`, the process keeps `I` wherever it is cut,
ends normally in `Q`, or raises in `E`. -/
def Wp (m : Proc Op Val ε σ α) (Q : α → σ → W → Prop) (E : ε → σ → W → Prop) (s : σ) (w : W) :
    Prop :=
  EffTree.Safe H I (m s) (fun r w' =>
    match r with
    | (.ok a, s') => Q a s' w'
    | (.error e, s') => E e s' w') w

variable {H I} {Q : α → σ → W → Prop} {E : ε → σ → W → Prop} {s : σ} {w : W}

@[simp] theorem wp_pure (a : α) :
    Wp H I (pure a : Proc Op Val ε σ α) Q E s w ↔ I w ∧ Q a s w := Iff.rfl

@[simp] theorem wp_throw (e : ε) :
    Wp H I (throw e : Proc Op Val ε σ α) Q E s w ↔ I w ∧ E e s w := Iff.rfl

@[simp] theorem wp_get {Q : σ → σ → W → Prop} :
    Wp H I (get : Proc Op Val ε σ σ) Q E s w ↔ I w ∧ Q s s w := Iff.rfl

@[simp] theorem wp_set {Q : PUnit → σ → W → Prop} (s' : σ) :
    Wp H I (set s' : Proc Op Val ε σ PUnit) Q E s w ↔ I w ∧ Q ⟨⟩ s' w := Iff.rfl

@[simp] theorem wp_modify {Q : PUnit → σ → W → Prop} (f : σ → σ) :
    Wp H I (modify f : Proc Op Val ε σ PUnit) Q E s w ↔ I w ∧ Q ⟨⟩ (f s) w := Iff.rfl

theorem wp_call (o : Op) {Q : Val o → σ → W → Prop} :
    Wp H I (call o : Proc Op Val ε σ (Val o)) Q E s w ↔
      I w ∧ ∀ r w', H w o r w' → I w' ∧
        (match r with
          | .ok a => Q a s w'
          | .error e => E e s w') := by
  simp only [Wp, call, EffTree.Safe]
  refine and_congr_right fun _ => forall₃_congr fun r w' _ => ?_
  cases r <;> rfl

@[simp] theorem wp_ofExcept (r : Except ε α) :
    Wp H I (ofExcept r : Proc Op Val ε σ α) Q E s w ↔
      I w ∧ (match r with
        | .ok a => Q a s w
        | .error e => E e s w) := by
  cases r <;> rfl

/-- **Sequential composition.** -/
@[simp] theorem wp_bind (m : Proc Op Val ε σ β) (f : β → Proc Op Val ε σ α) :
    Wp H I (m >>= f) Q E s w ↔ Wp H I m (fun b s' w' => Wp H I (f b) Q E s' w') E s w := by
  show EffTree.Safe H I ((m s).bind _) _ w ↔ _
  rw [EffTree.safe_bind, Wp]
  constructor
  · intro h
    refine h.mono ?_
    rintro ⟨r, s'⟩ w' - hrest
    cases r with
    | ok b => exact hrest
    | error e => exact hrest.2
  · intro h
    refine h.mono ?_
    rintro ⟨r, s'⟩ w' hI hrest
    cases r with
    | ok b => exact hrest
    | error e => exact ⟨hI, hrest⟩

/-- **Exception handling.** -/
@[simp] theorem wp_tryCatch (m : Proc Op Val ε σ α) (handler : ε → Proc Op Val ε σ α) :
    Wp H I (tryCatch m handler) Q E s w ↔
      Wp H I m Q (fun e s' w' => Wp H I (handler e) Q E s' w') s w := by
  show EffTree.Safe H I ((m s).bind _) _ w ↔ _
  rw [EffTree.safe_bind, Wp]
  constructor
  · intro h
    refine h.mono ?_
    rintro ⟨r, s'⟩ w' - hrest
    cases r with
    | ok a => exact hrest.2
    | error e => exact hrest
  · intro h
    refine h.mono ?_
    rintro ⟨r, s'⟩ w' hI hrest
    cases r with
    | ok a => exact ⟨hI, hrest⟩
    | error e => exact hrest

theorem Wp.start {m : Proc Op Val ε σ α} (h : Wp H I m Q E s w) : I w := EffTree.Safe.start h

/-- Consequence, at both ends. -/
theorem Wp.mono {m : Proc Op Val ε σ α} {Q' : α → σ → W → Prop} {E' : ε → σ → W → Prop}
    (h : Wp H I m Q E s w) (hQ : ∀ a s' w', I w' → Q a s' w' → Q' a s' w')
    (hE : ∀ e s' w', I w' → E e s' w' → E' e s' w') : Wp H I m Q' E' s w := by
  refine EffTree.Safe.mono h ?_
  rintro ⟨r, s'⟩ w' hI hpost
  cases r with
  | ok a => exact hQ a s' w' hI hpost
  | error e => exact hE e s' w' hI hpost

/-- Two postconditions together. -/
theorem Wp.and {m : Proc Op Val ε σ α} {Q' : α → σ → W → Prop} {E' : ε → σ → W → Prop}
    (h : Wp H I m Q E s w) (h' : Wp H I m Q' E' s w) :
    Wp H I m (fun a s' w' => Q a s' w' ∧ Q' a s' w') (fun e s' w' => E e s' w' ∧ E' e s' w') s w := by
  refine (EffTree.Safe.and h h').mono ?_
  rintro ⟨r, s'⟩ w' - hpost
  cases r with
  | ok a => exact hpost
  | error e => exact hpost

/-- A handler that allows less, and an invariant of it. -/
theorem Wp.restrict {H' : W → (o : Op) → Except ε (Val o) → W → Prop} {I' : W → Prop}
    {m : Proc Op Val ε σ α} (h : Wp H I m Q E s w) (hH : ∀ w o r w', H' w o r w' → H w o r w')
    (hstep : ∀ w o r w', I' w → H' w o r w' → I' w') (hI : I' w) : Wp H' I' m Q E s w :=
  EffTree.Safe.restrict h hH hstep hI

/-- A handler that allows less. -/
theorem Wp.handler_mono {H' : W → (o : Op) → Except ε (Val o) → W → Prop} {m : Proc Op Val ε σ α}
    (h : Wp H I m Q E s w) (hH : ∀ w o r w', H' w o r w' → H w o r w') : Wp H' I m Q E s w :=
  EffTree.Safe.handler_mono h hH

/-- An invariant of every operation. -/
theorem Wp.keeps (m : Proc Op Val ε σ α) (hstep : ∀ w o r w', I w → H w o r w' → I w') (s : σ)
    {w : W} (hI : I w) : Wp H I m (fun _ _ _ => True) (fun _ _ _ => True) s w := by
  have hsafe : ∀ (p : EffTree Op (fun o => Except ε (Val o)) (Except ε α × σ)) w, I w →
      EffTree.Safe H I p (fun _ _ => True) w := by
    intro p
    induction p with
    | ret a => exact fun _ hI => ⟨hI, True.intro⟩
    | perform o k ih => exact fun w hI => ⟨hI, fun r w' ho => ih r w' (hstep w o r w' hI ho)⟩
  refine (hsafe (m s) w hI).mono ?_
  rintro ⟨r, s'⟩ w' - -
  cases r <;> exact True.intro

/-- Nothing is always true. -/
theorem Wp.trivial (m : Proc Op Val ε σ α) (s : σ) (w : W) :
    Wp H (fun _ => True) m (fun _ _ _ => True) (fun _ _ _ => True) s w :=
  Wp.keeps m (fun _ _ _ _ _ _ => True.intro) s True.intro

/-- The strongest postcondition. -/
theorem wp_returns (m : Proc Op Val ε σ α) (s : σ) (w : W) :
    Wp H (fun _ => True) m (fun a s' w' => EffTree.Returns H (m s) w (.ok a, s') w')
      (fun e s' w' => EffTree.Returns H (m s) w (.error e, s') w') s w := by
  refine (EffTree.safe_returns (m s) w).mono ?_
  rintro ⟨r, s'⟩ w' - hret
  cases r <;> exact hret

/-- What a process returns meets its postcondition. -/
theorem Wp.post {m : Proc Op Val ε σ α} (h : Wp H I m Q E s w) {a : α} {s' : σ} {w' : W}
    (hret : EffTree.Returns H (m s) w (.ok a, s') w') : Q a s' w' := by
  rw [Wp] at h
  exact h.post hret

/-- What a process raises meets its exceptional postcondition. -/
theorem Wp.post_error {m : Proc Op Val ε σ α} (h : Wp H I m Q E s w) {e : ε} {s' : σ} {w' : W}
    (hret : EffTree.Returns H (m s) w (.error e, s') w') : E e s' w' := by
  rw [Wp] at h
  exact h.post hret

/-- A sequence that returns has returned from its first part. -/
theorem returns_bind {m : Proc Op Val ε σ β} {f : β → Proc Op Val ε σ α} {a : α} {s' : σ} {w' : W}
    (h : EffTree.Returns H ((m >>= f) s) w (.ok a, s') w') :
    ∃ b s₁ w₁, EffTree.Returns H (m s) w (.ok b, s₁) w₁ ∧
      EffTree.Returns H (f b s₁) w₁ (.ok a, s') w' := by
  obtain ⟨⟨r, s₁⟩, w₁, hm, hf⟩ := EffTree.returns_bind.mp h
  cases r with
  | ok b => exact ⟨b, s₁, w₁, hm, hf⟩
  | error e => cases hf.1

theorem returns_ofExcept {r : Except ε α} {a : α} {s' : σ} {w' : W}
    (h : EffTree.Returns H ((ofExcept r : Proc Op Val ε σ α) s) w (.ok a, s') w') : r = .ok a :=
  (Prod.mk.inj h.1).1.symm

end Rules

/-! ## What a process can return -/

/-- Whatever the operations answer, the value of a normal end is in `P`. -/
def Ends (m : Proc Op Val ε σ α) (P : α → Prop) : Prop :=
  ∀ (W : Type) (H : W → (o : Op) → Except ε (Val o) → W → Prop) (s : σ) (w : W),
    Wp H (fun _ => True) m (fun a _ _ => P a) (fun _ _ _ => True) s w

section Ends

variable {m : Proc Op Val ε σ α} {P : α → Prop} {R : β → Prop}

theorem Ends.of_returns (h : Ends m P) {H : W → (o : Op) → Except ε (Val o) → W → Prop} {s s' : σ}
    {w w' : W} {a : α} (hret : EffTree.Returns H (m s) w (.ok a, s') w') : P a :=
  (h W H s w).post hret

theorem Ends.mono {P' : α → Prop} (h : Ends m P) (hP : ∀ a, P a → P' a) : Ends m P' := by
  intro W H s w
  exact (h W H s w).mono (fun a _ _ _ ha => hP a ha) fun _ _ _ _ he => he

theorem ends_trivial (m : Proc Op Val ε σ α) : Ends m fun _ => True := fun _ _ s w =>
  Wp.trivial m s w

theorem ends_pure {a : α} (h : P a) : Ends (pure a : Proc Op Val ε σ α) P := fun _ _ _ _ =>
  (wp_pure a).mpr ⟨trivial, h⟩

theorem ends_throw (e : ε) : Ends (throw e : Proc Op Val ε σ α) P := fun _ _ _ _ =>
  (wp_throw e).mpr ⟨trivial, trivial⟩

theorem ends_ofExcept {r : Except ε α} (h : ∀ a, r = .ok a → P a) :
    Ends (ofExcept r : Proc Op Val ε σ α) P := by
  intro W H s w
  rw [wp_ofExcept]
  refine ⟨trivial, ?_⟩
  cases r with
  | ok a => exact h a rfl
  | error e => trivial

theorem ends_bind {n : Proc Op Val ε σ β} {f : β → Proc Op Val ε σ α} (hn : Ends n R)
    (hf : ∀ b, R b → Ends (f b) P) : Ends (n >>= f) P := by
  intro W H s w
  rw [wp_bind]
  exact (hn W H s w).mono (fun b s' w' _ hb => hf b hb W H s' w') fun _ _ _ _ he => he

theorem ends_tryCatch {handler : ε → Proc Op Val ε σ α} (hm : Ends m P)
    (hhandler : ∀ e, Ends (handler e) P) : Ends (tryCatch m handler) P := by
  intro W H s w
  rw [wp_tryCatch]
  exact (hm W H s w).mono (fun _ _ _ _ ha => ha) fun e s' w' _ _ => hhandler e W H s' w'

end Ends

/-! ## What a process can perform -/

/-- Whatever the operations answer, each of them is in `P`, and the memory at the end in `R`. -/
def Only (P : Op → Prop) (R : σ → Prop) (m : Proc Op Val ε σ α) (s : σ) : Prop :=
  EffTree.Every P (fun result : Except ε α × σ => R result.2) (m s)

section Only

variable {P : Op → Prop} {R : σ → Prop} {m : Proc Op Val ε σ β} {f : β → Proc Op Val ε σ α} {s : σ}

theorem only_pure {a : α} (h : R s) : Only P R (pure a : Proc Op Val ε σ α) s := h

theorem only_throw {e : ε} (h : R s) : Only P R (throw e : Proc Op Val ε σ α) s := h

theorem only_set {s' : σ} (h : R s') : Only P R (set s' : Proc Op Val ε σ PUnit) s := h

theorem only_ofExcept {r : Except ε α} (h : R s) : Only P R (ofExcept r : Proc Op Val ε σ α) s := h

theorem only_call {o : Op} (ho : P o) (h : R s) : Only P R (call o : Proc Op Val ε σ (Val o)) s :=
  ⟨ho, fun _ => h⟩

theorem only_bind (hm : Only P R m s) (hf : ∀ b s', R s' → Only P R (f b) s') :
    Only P R (m >>= f) s := by
  show EffTree.Every P _ ((m s).bind _)
  rw [EffTree.every_bind]
  refine EffTree.Every.mono hm ?_
  rintro ⟨r, s'⟩ hs'
  cases r with
  | ok b => exact hf b s' hs'
  | error e => exact hs'

/-- Reading the memory first. -/
theorem only_get_bind {f : σ → Proc Op Val ε σ α} (h : Only P R (f s) s) :
    Only P R (get >>= f) s := h

theorem only_tryCatch {m : Proc Op Val ε σ α} {handler : ε → Proc Op Val ε σ α} (hm : Only P R m s)
    (hhandler : ∀ e s', R s' → Only P R (handler e) s') : Only P R (tryCatch m handler) s := by
  show EffTree.Every P _ ((m s).bind _)
  rw [EffTree.every_bind]
  refine EffTree.Every.mono hm ?_
  rintro ⟨r, s'⟩ hs'
  cases r with
  | ok a => exact hs'
  | error e => exact hhandler e s' hs'

/-- More operations. -/
theorem Only.imp {P' : Op → Prop} (h : Only P R m s) (hP : ∀ o, P o → P' o) : Only P' R m s :=
  EffTree.Every.imp h hP

/-- An invariant of the operations in `P`. -/
theorem Only.keeps {H : W → (o : Op) → Except ε (Val o) → W → Prop} {I : W → Prop}
    {m : Proc Op Val ε σ α} (h : Only P R m s) (hstep : ∀ w o r w', P o → I w → H w o r w' → I w')
    {w : W} (hI : I w) : Wp H I m (fun _ _ _ => True) (fun _ _ _ => True) s w := by
  refine (EffTree.Every.safe h hstep hI).mono ?_
  rintro ⟨r, s'⟩ w' - -
  cases r <;> trivial

/-- A handler that allows no more of the operations in `P`. -/
theorem Only.handler_mono {H H' : W → (o : Op) → Except ε (Val o) → W → Prop} {I : W → Prop}
    {m : Proc Op Val ε σ α} {Q : α → σ → W → Prop} {E : ε → σ → W → Prop} {w : W} (h : Only P R m s)
    (hm : Wp H I m Q E s w) (hH : ∀ w o r w', P o → H' w o r w' → H w o r w') : Wp H' I m Q E s w :=
  EffTree.Every.handler_mono h hm hH

end Only

/-- Whatever the operations answer, those of `P` are performed at most once. -/
def Once (P : Op → Prop) (m : Proc Op Val ε σ α) (s : σ) : Prop := EffTree.Once P (m s)

section Once

variable {P : Op → Prop} {R : σ → Prop} {m : Proc Op Val ε σ β} {f : β → Proc Op Val ε σ α} {s : σ}

theorem Only.once {m : Proc Op Val ε σ α} (h : Only (fun o => ¬P o) R m s) : Once P m s :=
  EffTree.Every.once h

theorem once_bind (hm : Only (fun o => ¬P o) R m s) (hf : ∀ b s', R s' → Once P (f b) s') :
    Once P (m >>= f) s := by
  refine EffTree.once_bind (EffTree.Every.mono hm ?_)
  rintro ⟨r, s'⟩ hs'
  cases r with
  | ok b => exact hf b s' hs'
  | error e => trivial

/-- What follows does not perform them. -/
theorem Once.bind (hm : Once P m s) (hf : ∀ b s', Only (fun o => ¬P o) (fun _ => True) (f b) s') :
    Once P (m >>= f) s := by
  refine EffTree.Once.bind hm ?_
  rintro ⟨r, s'⟩
  cases r with
  | ok b => exact hf b s'
  | error e => trivial

/-- The one operation, and what follows. -/
theorem once_call_bind {o : Op} {f : Val o → Proc Op Val ε σ α}
    (hf : ∀ b, Only (fun o => ¬P o) R (f b) s) : Once P (call o >>= f) s := by
  intro r
  cases r with
  | ok b => exact ⟨(hf b).once, fun _ => EffTree.Every.mono (hf b) fun _ _ => trivial⟩
  | error e => exact ⟨trivial, fun _ => trivial⟩

end Once

/-! ## Answers that are given once and for all -/

section Result

variable {answer : (o : Op) → Except ε (Val o)} {m : Proc Op Val ε σ β} {f : β → Proc Op Val ε σ α}
  {s s' : σ}

/-- What a process ends with, where each operation has one answer. -/
def result (answer : (o : Op) → Except ε (Val o)) (m : Proc Op Val ε σ α) (s : σ) :
    Except ε α × σ :=
  (EffTree.run (fun (_ : Unit) o => (answer o, ())) (m s) ()).1

theorem result_ofExcept (r : Except ε α) :
    result answer (ofExcept r : Proc Op Val ε σ α) s = (r, s) := rfl

theorem result_call (o : Op) : result answer (call o : Proc Op Val ε σ (Val o)) s = (answer o, s) :=
  rfl

theorem result_bind_ok {b : β} (h : result answer m s = (.ok b, s')) :
    result answer (m >>= f) s = result answer (f b) s' := by
  show (EffTree.run _ ((m s).bind _) ()).1 = _
  rw [EffTree.run_bind]
  rw [result] at h
  rw [h]
  rfl

theorem result_bind_error {e : ε} (h : result answer m s = (.error e, s')) :
    result answer (m >>= f) s = (.error e, s') := by
  show (EffTree.run _ ((m s).bind _) ()).1 = _
  rw [EffTree.run_bind]
  rw [result] at h
  rw [h]
  rfl

/-- A process and a pure function, each followed by another of the same result. -/
theorem result_bind {r : Except ε β} {g : β → Except ε α} (hm : result answer m s = (r, s))
    (hf : ∀ b, result answer (f b) s = (g b, s)) : result answer (m >>= f) s = (r >>= g, s) := by
  cases r with
  | ok b => rw [result_bind_ok hm, hf b]; rfl
  | error e => exact result_bind_error hm

end Result

end Proc

/-! ## Runs of processes -/

section Runs

variable {Op : Type} {Val : Op → Type} {ε W : Type}

/-- A process that can be started: its memory and its program. -/
structure Launch (Op : Type) (Val : Op → Type) (ε : Type) where
  Memory : Type
  memory : Memory
  program : Proc Op Val ε Memory Unit

/-- The worlds that processes started one after another can lead to.  Each process runs
to its end or is cut between two operations; between processes the environment acts. -/
inductive Run (H : W → (o : Op) → Except ε (Val o) → W → Prop)
    (launches : Launch Op Val ε → Prop) (environment : W → W → Prop) (start : W) : W → Prop
  | refl : Run H launches environment start start
  | process {w w' : W} (p : Launch Op Val ε) :
      Run H launches environment start w → launches p →
      EffTree.Reaches H (p.program p.memory) w w' → Run H launches environment start w'
  | environment {w w' : W} :
      Run H launches environment start w → environment w w' →
      Run H launches environment start w'

/-- The world after a process that runs to its end, where the answers are given by a
function. -/
def Launch.finish (p : Launch Op Val ε) (answer : W → (o : Op) → Except ε (Val o) × W)
    (start : W) : W :=
  (EffTree.run answer (p.program p.memory) start).2

/-- One more process that runs to its end. -/
theorem Run.andFinish {H : W → (o : Op) → Except ε (Val o) → W → Prop}
    {launches : Launch Op Val ε → Prop} {environment : W → W → Prop} {start w : W}
    {answer : W → (o : Op) → Except ε (Val o) × W}
    (hrun : Run H launches environment start w)
    (hanswer : ∀ w o, H w o (answer w o).1 (answer w o).2) {p : Launch Op Val ε}
    (hp : launches p) : Run H launches environment start (p.finish answer w) :=
  .process p hrun hp (EffTree.returns_run hanswer _ _).reaches

/-- One process that runs to its end. -/
theorem Run.finish {H : W → (o : Op) → Except ε (Val o) → W → Prop}
    {launches : Launch Op Val ε → Prop} {environment : W → W → Prop} {start : W}
    {answer : W → (o : Op) → Except ε (Val o) × W}
    (hanswer : ∀ w o, H w o (answer w o).1 (answer w o).2) {p : Launch Op Val ε}
    (hp : launches p) : Run H launches environment start (p.finish answer start) :=
  Run.refl.andFinish hanswer hp

/-- **Run induction.**  An invariant that every process keeps at every cut, and that the
environment keeps, holds in every world of the run. -/
theorem Run.invariant {H : W → (o : Op) → Except ε (Val o) → W → Prop}
    {launches : Launch Op Val ε → Prop} {environment : W → W → Prop} {start w : W} {I : W → Prop}
    (hrun : Run H launches environment start w) (hstart : I start)
    (hprocess : ∀ p, launches p → ∀ w, I w →
      Proc.Wp H I p.program (fun _ _ _ => True) (fun _ _ _ => True) p.memory w)
    (henv : ∀ w w', environment w w' → I w → I w') : I w := by
  induction hrun with
  | refl => exact hstart
  | process p _ hp hreach ih => exact EffTree.Safe.invariant (hprocess p hp _ ih) hreach
  | environment _ hstep ih => exact henv _ _ hstep ih

end Runs
