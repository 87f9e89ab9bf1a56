/-
# At most one reply

What the invariant of live processes says about a room: **an input is answered at most
once**, across crashes, restarts and recovery (`at_most_one_reply`), and **a nonce is not
spent on two envelopes** of the responder (`nonces_increase`).
-/
import SafeAgent.LiveRuns
import SafeAgent.Sample

open PyText

section Replies

variable [Platform] {rooms : Set PyStr} {start w : World}

/-- An invariant without evidence in the audit log. -/
theorem evidence_true : Evidence fun _ _ => True where
  grows _ _ _ _ := trivial
  append _ _ _ _ _ _ _ _ _ _ _ _ _ := trivial

/-- **At most one reply for an input.**  In every world of every run, a room holds at most one
reply of the agent to an input; and if it holds one, the durable cursor has reached the input
or the journal holds exactly the envelope of that reply. -/
theorem at_most_one_reply (hrooms : rooms.InjOn DeliveryRecord.sha256)
    (hstart : start.Fresh rooms) (hrun : LiveRun rooms start w) {room : PyStr}
    (hroom : room ∈ rooms) (input : ℕ) :
    (w.repliesTo room input).length ≤ 1 ∧
      ∀ e ∈ w.repliesTo room input, input ≤ w.durableCursor room ∨
        ∃ record envelope, w.Journaled room record ∧ record.inputSequence = input ∧
          e.reply = some (envelope, input) ∧ record.envelope = envelope := by
  have hinv := runInv_of_run hrooms evidence_true hstart hrun
  refine ⟨hinv.once room hroom input, fun e he => ?_⟩
  obtain ⟨hmem, hreply⟩ := List.mem_filter.mp he
  cases hr : e.reply with
  | none => simp [hr] at hreply
  | some p =>
      obtain ⟨envelope, i⟩ := p
      obtain rfl : i = input := by simpa [hr] using hreply
      have hcovers := hinv.covered room hroom e hmem envelope i hr
      rcases hcovers.held with hcursor | ⟨record, hjournaled, hinput⟩
      · exact .inl hcursor
      · exact .inr ⟨record, envelope, hjournaled, hinput, rfl,
          hcovers.exact record hjournaled hinput⟩

end Replies

/-! ## A run -/

namespace Sample

/-- The first world has no reply in it. -/
theorem fresh_askedWorld : askedWorld.Fresh {room} where
  readable := by
    rintro j s hj
    cases hj
  journal := rfl
  numbered := by
    rintro _ rfl
    simp [askedWorld, command]
  replies := by
    rintro _ rfl e he
    obtain rfl : e = command := by simpa [askedWorld] using he
    rfl
  sent := rfl
  handled := rfl

/-- One process that runs to its end. -/
theorem run_answeredWorld : LiveRun {room} askedWorld answeredWorld := by
  have hlaunch : LiveLaunch {room} launch := .run identity runArgs 1 rfl
  unfold answeredWorld
  exact Run.finish step_answer hlaunch

theorem at_most_one_reply_answered : (answeredWorld.repliesTo room 1).length = 1 ∧
    ∀ e ∈ answeredWorld.repliesTo room 1, 1 ≤ answeredWorld.durableCursor room ∨
      ∃ record envelope, answeredWorld.Journaled room record ∧ record.inputSequence = 1 ∧
        e.reply = some (envelope, 1) ∧ record.envelope = envelope :=
  ⟨answeredWorld_eq.1,
    (at_most_one_reply (Set.injOn_singleton _ _) fresh_askedWorld run_answeredWorld rfl 1).2⟩

end Sample
