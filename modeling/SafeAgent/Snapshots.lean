/-
# What one snapshot does

The effect of `process_snapshot` on memory and files, for every environment and from any state.

* `due`, `reached`          : the messages past a cursor, and the cursor after some of them;
* `Kept`                    : other rooms are untouched, and this one stands at a cursor;
* `Handling`                : what handling one message may change;
* `Stopped`                 : what was done where an exception ends the call;
* `wp_processMessages_any`  : the loop, by induction on the messages;
* `wp_processSnapshot_any`  : the whole call, whether it returns or raises.
-/
import SafeAgent.Session
import SafeAgent.StateReload

open PyText

/-- The messages past a cursor. -/
def due (cursor : ℕ) (messages : List RoomMessage) : List RoomMessage :=
  messages.filter fun m => cursor < m.seq

/-- The cursor after some messages. -/
def reached (cursor : ℕ) (done : List RoomMessage) : ℕ :=
  (done.getLast?.map RoomMessage.seq).getD cursor

theorem reached_cons (cursor : ℕ) (m : RoomMessage) (done : List RoomMessage) :
    reached cursor (m :: done) = reached m.seq done := by
  cases done with
  | nil => rfl
  | cons m' rest =>
      rw [reached, List.getLast?_cons_cons]
      cases hlast : (m' :: rest).getLast? with
      | none => simp at hlast
      | some last => simp [reached, hlast]

theorem due_of_le {cursor : ℕ} {m : RoomMessage} (h : m.seq ≤ cursor) (rest : List RoomMessage) :
    due cursor (m :: rest) = due cursor rest := by
  rw [due, List.filter_cons, if_neg (by simpa using h), due]

/-- In an ordered page, what is past the cursor after a message is what is past the message. -/
theorem due_of_lt {cursor : ℕ} {m : RoomMessage} {rest : List RoomMessage} (h : cursor < m.seq)
    (hordered : ((m :: rest).map RoomMessage.seq).Pairwise (· < ·)) :
    due cursor (m :: rest) = m :: due m.seq rest := by
  have hlater : ∀ m' ∈ rest, m.seq < m'.seq := by
    intro m' hm'
    rw [List.map_cons, List.pairwise_cons] at hordered
    exact hordered.1 m'.seq (List.mem_map_of_mem hm')
  rw [due, List.filter_cons, if_pos (by simpa using h), due]
  congr 1
  rw [List.filter_eq_self.mpr, List.filter_eq_self.mpr]
  · intro m' hm'
    simpa using hlater m' hm'
  · intro m' hm'
    simpa using h.trans (hlater m' hm')

theorem reached_mem (cursor : ℕ) {done : List RoomMessage} (h : done ≠ []) :
    ∃ m ∈ done, reached cursor done = m.seq := by
  refine ⟨done.getLast h, List.getLast_mem h, ?_⟩
  rw [reached, List.getLast?_eq_some_getLast h]
  rfl

theorem mem_due {cursor : ℕ} {messages : List RoomMessage} {m : RoomMessage} :
    m ∈ due cursor messages ↔ m ∈ messages ∧ cursor < m.seq := by
  rw [due, List.mem_filter, decide_eq_true_eq]

theorem due_ordered (cursor : ℕ) {messages : List RoomMessage}
    (hordered : (messages.map RoomMessage.seq).Pairwise (· < ·)) :
    ((due cursor messages).map RoomMessage.seq).Pairwise (· < ·) :=
  hordered.sublist (List.filter_sublist.map _)

/-- A cursor does not move back. -/
theorem le_reached {cursor : ℕ} {done : List RoomMessage} (h : ∀ m ∈ done, cursor ≤ m.seq) :
    cursor ≤ reached cursor done := by
  by_cases hnil : done = []
  · rw [hnil]
    exact le_rfl
  · obtain ⟨m, hm, heq⟩ := reached_mem cursor hnil
    rw [heq]
    exact h m hm

theorem le_reached_due (cursor : ℕ) (messages : List RoomMessage) :
    cursor ≤ reached cursor (due cursor messages) :=
  le_reached fun _ hm => (mem_due.mp hm).2.le

/-- The last of the messages past a cursor is the furthest. -/
theorem seq_le_reached {cursor : ℕ} {messages : List RoomMessage} {m : RoomMessage}
    (hordered : (messages.map RoomMessage.seq).Pairwise (· < ·)) (hm : m ∈ due cursor messages) :
    m.seq ≤ reached cursor (due cursor messages) := by
  induction messages generalizing cursor with
  | nil => cases hm
  | cons first rest ih =>
      have hrest : (rest.map RoomMessage.seq).Pairwise (· < ·) := by
        rw [List.map_cons, List.pairwise_cons] at hordered
        exact hordered.2
      by_cases hseen : first.seq ≤ cursor
      · rw [due_of_le hseen] at hm ⊢
        exact ih hrest hm
      · rw [due_of_lt (by omega) hordered] at hm ⊢
        rw [reached_cons]
        rcases List.mem_cons.mp hm with rfl | hm
        · exact le_reached_due _ rest
        · exact ih hrest hm

/-- The events of the messages that were handled. -/
def handledEvents (events : List Event) : List MessageEvent :=
  events.filterMap fun
    | .handled event => some event
    | _ => none

theorem mem_handledEvents {events : List Event} {event : MessageEvent} :
    event ∈ handledEvents events ↔ Event.handled event ∈ events := by
  rw [handledEvents, List.mem_filterMap]
  constructor
  · rintro ⟨e, he, heq⟩
    cases e <;> cases heq
    exact he
  · exact fun h => ⟨_, h, rfl⟩

/-! ## What is kept -/

/-- The maps of other rooms are untouched, the room's generation is the same, and its cursor is
this one. -/
structure Kept (room : PyStr) (cursor : ℕ) (s s' : AgentState) : Prop where
  cursor : s'.cursorFor room = cursor
  generation : s'.generationFor room = s.generationFor room
  cursors : ∀ other, other ≠ room → s'.cursors.get? other = s.cursors.get? other
  nonces : ∀ other, other ≠ room → s'.nonces.get? other = s.nonces.get? other
  generations : ∀ other, other ≠ room → s'.generations.get? other = s.generations.get? other
  wellFormed : room ≠ [] → s.WellFormed → s'.WellFormed

/-- The state with the cursor of a room moved. -/
def AgentState.atCursor (s : AgentState) (room : PyStr) (n : ℕ) : AgentState :=
  { s with cursors := s.cursors.set room n }

namespace Kept

variable {room : PyStr} {cursor cursor' : ℕ} {s s₁ s₂ : AgentState}

theorem refl (s : AgentState) (room : PyStr) : Kept room (s.cursorFor room) s s :=
  ⟨rfl, rfl, fun _ _ => rfl, fun _ _ => rfl, fun _ _ => rfl, fun _ h => h⟩

theorem trans (h : Kept room cursor s s₁) (h' : Kept room cursor' s₁ s₂) :
    Kept room cursor' s s₂ where
  cursor := h'.cursor
  generation := h'.generation.trans h.generation
  cursors other hother := (h'.cursors other hother).trans (h.cursors other hother)
  nonces other hother := (h'.nonces other hother).trans (h.nonces other hother)
  generations other hother := (h'.generations other hother).trans (h.generations other hother)
  wellFormed hroom hs := h'.wellFormed hroom (h.wellFormed hroom hs)

/-- The cursor was moved. -/
theorem atCursor (s : AgentState) (room : PyStr) (n : ℕ) : Kept room n s (s.atCursor room n) where
  cursor := AgentState.cursorFor_set_self s room n
  generation := rfl
  cursors _ hother := PyDict.get?_set_of_ne hother _ _
  nonces _ _ := rfl
  generations _ _ := rfl
  wellFormed hroom hs := ⟨hs.cursors.set hroom n, hs.nonces, hs.generations, hs.histories⟩

/-- A nonce was used. -/
theorem setNonce (s : AgentState) (room : PyStr) (n : ℕ) :
    Kept room (s.cursorFor room) s { s with nonces := s.nonces.set room n } where
  cursor := rfl
  generation := rfl
  cursors _ _ := rfl
  nonces _ hother := PyDict.get?_set_of_ne hother _ _
  generations _ _ := rfl
  wellFormed hroom hs := ⟨hs.cursors, hs.nonces.set hroom n, hs.generations, hs.histories⟩

/-- A request was reserved. -/
theorem reserves (h : Agent.Reserves s s₁) (room : PyStr) : Kept room (s.cursorFor room) s s₁ := by
  obtain ⟨did, limit, now, count, hdid, hlimit, hreserved⟩ := h
  have hsame := hreserved.sameProgress
  exact
    { cursor := AgentState.cursorFor_congr hsame.cursors room
      generation := by rw [AgentState.generationFor, hsame.generations]; rfl
      cursors := fun _ _ => by rw [hsame.cursors]
      nonces := fun _ _ => by rw [hsame.nonces]
      generations := fun _ _ => by rw [hsame.generations]
      wellFormed := fun _ hs =>
        ⟨hsame.cursors ▸ hs.cursors, hsame.nonces ▸ hs.nonces, hsame.generations ▸ hs.generations,
          hs.histories.reserve hdid hlimit hreserved⟩ }

end Kept

/-- Neither the state file nor the history changed. -/
def World.Quiet (w w' : World) : Prop := w'.stateDoc = w.stateDoc ∧ w'.handled = w.handled

theorem World.Quiet.trans {w w₁ w₂ : World} (h : w.Quiet w₁) (h' : w₁.Quiet w₂) : w.Quiet w₂ :=
  ⟨h'.1.trans h.1, h'.2.trans h.2⟩

/-- What handling a message may change: a nonce of the room and the quota history, which may
have been saved; no message is recorded as handled. -/
structure Handling (room : PyStr) (s : AgentState) (w : World) (s' : AgentState) (w' : World) :
    Prop where
  kept : Kept room (s.cursorFor room) s s'
  handled : w'.handled = w.handled
  stateDoc : w'.stateDoc = w.stateDoc ∨
    ∃ s₁, w'.stateDoc = some (.ok s₁.toPayload) ∧ Kept room (s.cursorFor room) s s₁

namespace Handling

variable {room : PyStr} {s s₁ s₂ : AgentState} {w w₁ w₂ : World}

theorem refl (room : PyStr) (s : AgentState) (w : World) : Handling room s w s w :=
  ⟨Kept.refl s room, rfl, Or.inl rfl⟩

theorem trans (h : Handling room s w s₁ w₁) (h' : Handling room s₁ w₁ s₂ w₂) :
    Handling room s w s₂ w₂ where
  kept := by
    have hcursor := h.kept.cursor
    exact hcursor ▸ h.kept.trans h'.kept
  handled := h'.handled.trans h.handled
  stateDoc := by
    have hcursor := h.kept.cursor
    rcases h'.stateDoc with hsame | ⟨s₃, hdoc, hkept⟩
    · rw [hsame]
      exact h.stateDoc
    · exact Or.inr ⟨s₃, hdoc, hcursor ▸ h.kept.trans hkept⟩

/-- Neither the state file nor the history changed. -/
theorem of_quiet (hkept : Kept room (s.cursorFor room) s s₁) (h : w.Quiet w₁) :
    Handling room s w s₁ w₁ :=
  ⟨hkept, h.2, Or.inl h.1⟩

theorem of_undecided (h : Agent.Undecided s w s₁ w₁) : Handling room s w s₁ w₁ := by
  rcases h with ⟨rfl, rfl⟩ | ⟨hreserves, rfl | rfl⟩
  · exact refl room s₁ w₁
  · exact ⟨Kept.reserves hreserves room, rfl, Or.inl rfl⟩
  · exact ⟨Kept.reserves hreserves room, rfl, Or.inr ⟨s₁, rfl, Kept.reserves hreserves room⟩⟩

end Handling

/-- Every world. -/
def Anywhere (_ : World) : Prop := True

namespace Agent

open Proc

variable [Platform] {α : Type} {Q : α → AgentState → World → Prop}
  {E : PyErr → AgentState → World → Prop} {s : AgentState} {w : World}

/-- A pure function, with what its result says. -/
theorem wp_result {r : PyResult α} (hQ : ∀ a, r = .ok a → Q a s w)
    (hE : ∀ e, r = .error e → E e s w) : Wp World.step Anywhere (Proc.ofExcept r) Q E s w := by
  rw [wp_ofExcept]
  refine ⟨trivial, ?_⟩
  cases r with
  | ok a => exact hQ a rfl
  | error e => exact hE e rfl

/-- A handler that raises, whatever it raises, where nothing depends on the exception. -/
theorem wp_handler {m : Agent α} {handler : PyErr → Agent α} {R : AgentState → World → Prop}
    (hm : Wp World.step Anywhere m Q (fun _ => R) s w)
    (hhandler : ∀ e s' w', R s' w' → Wp World.step Anywhere (handler e) Q (fun _ => R) s' w') :
    Wp World.step Anywhere (tryCatch m handler) Q (fun _ => R) s w := by
  rw [wp_tryCatch]
  exact hm.mono (fun _ _ _ _ h => h) fun e s' w' _ h => hhandler e s' w' h

/-- A step that may be left out, and that changes nothing. -/
theorem wp_optional {c : Prop} [Decidable c] {m : Agent Unit} {k : Unit → Agent α}
    (hm : Wp World.step Anywhere m (fun _ s' w' => s' = s ∧ w' = w) E s w)
    (hk : Wp World.step Anywhere (k ()) Q E s w) :
    Wp World.step Anywhere (if c then m >>= k else k ()) Q E s w := by
  split_ifs
  · rw [wp_bind]
    refine hm.mono ?_ fun _ _ _ _ h => h
    rintro - s' w' - ⟨rfl, rfl⟩
    exact hk
  · exact hk

end Agent

namespace SafeResponder

open Agent Proc

variable [Platform] {r : SafeResponder} {s : AgentState} {w : World}

/-! ## Handling a message -/

/-- An exception that is raised again under one of two names. -/
theorem wp_eitherThrow {α : Type} {c : Bool} {e e' : PyErr} {Q : α → AgentState → World → Prop}
    {R : AgentState → World → Prop} (h : R s w) :
    Wp World.step Anywhere (if c then throw e else throw e' : Agent α) Q (fun _ => R) s w := by
  split_ifs
  · exact ⟨trivial, h⟩
  · exact ⟨trivial, h⟩

/-- The journal's part before the request. -/
theorem wp_prepareDelivery_any {input : ℕ} {envelope : Envelope} :
    Wp World.step Anywhere (prepareDelivery r input envelope) (fun _ s' w' => s' = s ∧ w.Quiet w')
      (fun _ s' w' => s' = s ∧ w.Quiet w') s w := by
  have hsame : s = s ∧ w.Quiet w := ⟨rfl, rfl, rfl⟩
  unfold prepareDelivery
  split_ifs
  · rw [wp_bind]
    refine wp_result (fun record _ => ?_) fun _ _ => hsame
    exact wp_journal_prepare trivial (fun _ => trivial) (fun _ => ⟨rfl, rfl, rfl⟩) (fun _ _ => hsame)
      fun _ _ _ => ⟨rfl, rfl, rfl⟩
  · exact ⟨trivial, hsame⟩

/-- The request. -/
theorem wp_postEnvelope_any {input : ℕ} {envelope : Envelope} :
    Wp World.step Anywhere (postEnvelope r envelope input) (fun _ s' w' => s' = s ∧ w.Quiet w')
      (fun _ s' w' => s' = s ∧ w.Quiet w') s w := by
  have hposts : ∀ w', w.Posts w' r.room envelope input → s = s ∧ w.Quiet w' := fun w' h =>
    ⟨rfl, h.sameProgress.1, h.sameProgress.2.2⟩
  unfold postEnvelope
  refine wp_handler ?_ fun e s' w' h => wp_eitherThrow h
  exact wp_sendSignedMessage trivial (fun _ _ => trivial) (fun _ w' h => hposts w' h)
    (fun _ => ⟨rfl, rfl, rfl⟩) fun _ w' h => hposts w' h

/-- The journal's part after the request. -/
theorem wp_acknowledgeDelivery_any {posted : RoomMessage} :
    Wp World.step Anywhere (acknowledgeDelivery r posted) (fun _ s' w' => s' = s ∧ w.Quiet w')
      (fun _ s' w' => s' = s ∧ w.Quiet w') s w := by
  have hsame : s = s ∧ w.Quiet w := ⟨rfl, rfl, rfl⟩
  unfold acknowledgeDelivery
  split_ifs
  · refine wp_handler ?_ fun e s' w' h => wp_eitherThrow h
    rw [wp_bind]
    exact wp_journal_acknowledge trivial
      (fun _ _ _ _ _ => ⟨trivial, ⟨trivial, rfl, rfl, rfl⟩, fun _ _ => ⟨rfl, rfl, rfl⟩⟩)
      fun _ _ => hsame
  · exact ⟨trivial, hsame⟩

/-- Preparing, posting and acknowledging, one after another. -/
theorem wp_deliver_any {input : ℕ} {envelope : Envelope} :
    Wp World.step Anywhere
      (do
        prepareDelivery r input envelope
        let posted ← postEnvelope r envelope input
        acknowledgeDelivery r posted
        return posted)
      (fun _ s' w' => s' = s ∧ w.Quiet w') (fun _ s' w' => s' = s ∧ w.Quiet w') s w := by
  rw [wp_bind]
  refine wp_prepareDelivery_any.mono ?_ fun _ _ _ _ h => h
  rintro - s₁ w₁ - ⟨rfl, hw₁⟩
  rw [wp_bind]
  refine wp_postEnvelope_any.mono ?_ fun _ s' w' _ h => ⟨h.1, hw₁.trans h.2⟩
  rintro posted s₂ w₂ - ⟨rfl, hw₂⟩
  rw [wp_bind]
  refine wp_acknowledgeDelivery_any.mono ?_ fun _ s' w' _ h => ⟨h.1, (hw₁.trans hw₂).trans h.2⟩
  rintro - s₃ w₃ - ⟨rfl, hw₃⟩
  exact ⟨trivial, rfl, (hw₁.trans hw₂).trans hw₃⟩

/-- Sending changes the room's nonce and the journal, and hands the envelope to the transport. -/
theorem wp_sendText_any {text : PyStr} {input : ℕ} :
    Wp World.step Anywhere (sendText r text input) (fun _ s' w' => Handling r.room s w s' w')
      (fun _ s' w' => Handling r.room s w s' w') s w := by
  have hrefl := Handling.refl r.room s w
  have hempty : Wp World.step Anywhere DeliveryJournal.requireEmpty (fun _ s' w' => s' = s ∧ w' = w)
      (fun _ s' w' => Handling r.room s w s' w') s w :=
    wp_journal_requireEmpty trivial (fun _ => ⟨rfl, rfl⟩) fun _ _ => hrefl
  unfold sendText
  refine wp_optional hempty ?_
  rw [wp_bind]
  refine wp_inert (fun _ _ hw => hw) trivial (fun clock => ?_) fun _ _ => hrefl
  rw [wp_bind, wp_get]
  refine ⟨trivial, ?_⟩
  rw [wp_bind]
  refine wp_result (fun p hp => ?_) fun _ _ => hrefl
  obtain ⟨nonce, s₁⟩ := p
  obtain ⟨-, -, hs₁⟩ := AgentState.nextNonce_ok hp
  have hkept : Kept r.room (s.cursorFor r.room) s s₁ := hs₁ ▸ Kept.setNonce s r.room nonce
  dsimp only
  rw [wp_bind, wp_set]
  refine ⟨trivial, ?_⟩
  rw [wp_bind]
  refine wp_result (fun p _ => ?_) fun _ _ => Handling.of_quiet hkept ⟨rfl, rfl⟩
  obtain ⟨swept, signature⟩ := p
  refine wp_deliver_any.mono ?_ ?_
  · rintro - s₂ w₂ - ⟨rfl, hw₂⟩
    exact Handling.of_quiet hkept hw₂
  · rintro - s₂ w₂ - ⟨rfl, hw₂⟩
    exact Handling.of_quiet hkept hw₂

/-- What is done about a message: its event is about it. -/
theorem wp_eventForMessage_any {message : RoomMessage} :
    Wp World.step Anywhere (eventForMessage r message)
      (fun event s' w' => Handling r.room s w s' w' ∧ event.seq = message.seq ∧ event.room = r.room)
      (fun _ s' w' => Handling r.room s w s' w') s w := by
  -- what follows a decision, in any memory and world that it may leave
  have hanswer : ∀ (d : Decision) {s₁ : AgentState} {w₁ : World}, Handling r.room s w s₁ w₁ →
      Wp World.step Anywhere (answerDecision r message d)
        (fun event s' w' => Handling r.room s w s' w' ∧ event.seq = message.seq ∧
          event.room = r.room)
        (fun _ s' w' => Handling r.room s w s' w') s₁ w₁ := by
    intro d s₁ w₁ h₁
    have hsent : ∀ text, Wp World.step Anywhere (sendText r text message.seq)
        (fun _ s' w' => Handling r.room s w s' w') (fun _ s' w' => Handling r.room s w s' w') s₁ w₁ :=
      fun text => wp_sendText_any.mono (fun _ _ _ _ h => h₁.trans h) fun _ _ _ _ h => h₁.trans h
    unfold answerDecision
    split
    · unfold replyEvent
      split_ifs
      · rw [wp_bind]
        exact (hsent _).mono (fun _ _ _ _ h => ⟨trivial, h, rfl, rfl⟩) fun _ _ _ _ h => h
      · exact ⟨trivial, h₁, rfl, rfl⟩
    · unfold receiptEvent
      split_ifs
      · rw [wp_bind]
        refine wp_issueReceipt trivial (fun issued => ?_) fun _ _ => h₁
        cases issued with
        | error e => exact ⟨trivial, h₁, rfl, rfl⟩
        | ok receipt =>
            dsimp only
            rw [wp_bind]
            refine (hsent _).mono (fun posted s' w' _ h => ?_) fun _ _ _ _ h => h
            rw [wp_bind]
            exact wp_result (fun digest _ => ⟨trivial, h, rfl, rfl⟩) fun _ _ => h
      · exact ⟨trivial, h₁⟩
      · exact ⟨trivial, h₁, rfl, rfl⟩
    · exact ⟨trivial, h₁, rfl, rfl⟩
  unfold eventForMessage
  rw [wp_bind]
  refine wp_decide trivial (fun _ _ => trivial) (fun d _ _ => hanswer d (Handling.refl _ s w))
    (fun d s' _ _ _ _ _ _ _ _ _ _ hreserves =>
      hanswer d (Handling.of_undecided (Or.inr ⟨hreserves, Or.inr rfl⟩)))
    fun _ _ _ _ h => Handling.of_undecided h

/-! ## Persisting -/

theorem wp_appendAuditRecord_any {message : RoomMessage} {event : MessageEvent} :
    Wp World.step Anywhere (appendAuditRecord r message event) (fun _ s' w' => s' = s ∧ w.Quiet w')
      (fun _ s' w' => s' = s ∧ w.Quiet w') s w := by
  have hsame : s = s ∧ w.Quiet w := ⟨rfl, rfl, rfl⟩
  have happending : ∀ {args : AuditArgs} w', w.Appending w' r.privateKey r.did args →
      s = s ∧ w.Quiet w' := by
    intro args w' h
    rw [h.1]
    exact ⟨rfl, rfl, rfl⟩
  unfold appendAuditRecord
  rw [wp_bind]
  refine wp_result (fun fingerprint _ => ?_) fun _ _ => hsame
  rw [wp_bind]
  refine wp_inert (fun _ _ hw => hw) trivial (fun now => ?_) fun _ _ => hsame
  rw [wp_bind]
  exact wp_audit_append (fun _ _ => trivial)
    (fun w' _ _ _ _ h _ _ _ _ => ⟨trivial, happending w' h⟩) fun _ w' _ h => happending w' h

omit [Platform] in
/-- The cursor is moved in memory. -/
theorem wp_advanceCursor_any {H : World → (o : Op) → Except PyErr o.Val → World → Prop}
    {I : World → Prop} {room : PyStr} {n : ℕ} {Q : Unit → AgentState → World → Prop}
    {E : PyErr → AgentState → World → Prop} (hI : I w) (h : s.cursorFor room ≤ n)
    (hQ : Q () (s.atCursor room n) w) : Wp H I (advanceCursor room n) Q E s w := by
  unfold advanceCursor
  rw [wp_bind, wp_get]
  refine ⟨hI, ?_⟩
  rw [AgentState.advanceCursor_of_le h, wp_bind]
  exact ⟨hI, hI, hQ⟩

/-- Clearing the journal leaves the state file and the history. -/
theorem wp_clearDelivery_any {event : MessageEvent} :
    Wp World.step Anywhere (clearDelivery r event) (fun _ s' w' => s' = s ∧ w.Quiet w')
      (fun _ s' w' => s' = s ∧ w.Quiet w') s w := by
  have hsame : s = s ∧ w.Quiet w := ⟨rfl, rfl, rfl⟩
  unfold clearDelivery
  split_ifs
  · refine wp_handler ?_ fun e s' w' h => wp_eitherThrow h
    exact wp_journal_clear trivial trivial hsame ⟨rfl, rfl, rfl⟩ (fun _ _ => hsame)
      fun _ _ => ⟨rfl, rfl, rfl⟩
  · exact ⟨trivial, hsame⟩

/-- Where persisting a message may stop: memory and the state file are as they were, or show its
cursor. -/
def Persisting (r : SafeResponder) (seq : ℕ) (s : AgentState) (w : World) (s' : AgentState)
    (w' : World) : Prop :=
  w'.handled = w.handled ∧ (s' = s ∨ s' = s.atCursor r.room seq) ∧
    (w'.stateDoc = w.stateDoc ∨ w'.stateDoc = some (.ok (s.atCursor r.room seq).toPayload))

/-- Audit record, cursor, save, journal, in this order. -/
theorem wp_persistProcessedMessage_any {message : RoomMessage} {event : MessageEvent}
    (hcursor : s.cursorFor r.room ≤ message.seq) :
    Wp World.step Anywhere (persistProcessedMessage r message event)
      (fun _ s' w' => s' = s.atCursor r.room message.seq ∧ w'.handled = w.handled ∧
        (r.send = true → w'.stateDoc = some (.ok s'.toPayload)))
      (fun _ s' w' => Persisting r message.seq s w s' w') s w := by
  have hquiet : ∀ {s₁ : AgentState} {w₁ : World}, (s₁ = s ∨ s₁ = s.atCursor r.room message.seq) →
      w.Quiet w₁ → Persisting r message.seq s w s₁ w₁ :=
    fun hs₁ h => ⟨h.2, hs₁, Or.inl h.1⟩
  -- what follows the audit record
  have hrest : ∀ {w₁ : World}, w.Quiet w₁ → Wp World.step Anywhere
      (do
        advanceCursor r.room message.seq
        if ¬r.send then pure ()
        else do
          saveProcessed event
          clearDelivery r event)
      (fun _ s' w' => s' = s.atCursor r.room message.seq ∧ w'.handled = w.handled ∧
        (r.send = true → w'.stateDoc = some (.ok s'.toPayload)))
      (fun _ s' w' => Persisting r message.seq s w s' w') s w₁ := by
    intro w₁ hw₁
    rw [wp_bind]
    refine wp_advanceCursor_any trivial hcursor ?_
    by_cases hsend : r.send = true
    case neg =>
      rw [if_pos hsend]
      exact ⟨trivial, rfl, hw₁.2, fun h => absurd h hsend⟩
    rw [if_neg (not_not.mpr hsend), wp_bind]
    have hsaved : ∀ {w₂ : World}, (w₁.saved (s.atCursor r.room message.seq)).Quiet w₂ →
        w₂.handled = w.handled ∧
          w₂.stateDoc = some (.ok (s.atCursor r.room message.seq).toPayload) :=
      fun h => ⟨h.2.trans hw₁.2, h.1⟩
    have hsave : Wp World.step Anywhere (saveProcessed event)
        (fun _ s' w' => s' = s.atCursor r.room message.seq ∧
          (w₁.saved (s.atCursor r.room message.seq)).Quiet w')
        (fun _ s' w' => Persisting r message.seq s w s' w') (s.atCursor r.room message.seq) w₁ := by
      unfold saveProcessed
      refine wp_handler ?_ fun e s' w' h => wp_eitherThrow h
      exact wp_saveState trivial trivial ⟨rfl, rfl, rfl⟩ (fun _ _ => hquiet (Or.inr rfl) hw₁)
        fun _ _ => ⟨hw₁.2, Or.inr rfl, Or.inr rfl⟩
    refine hsave.mono ?_ fun _ _ _ _ h => h
    rintro - s₂ w₂ - ⟨rfl, hw₂⟩
    refine wp_clearDelivery_any.mono ?_ ?_
    · rintro - s₃ w₃ - ⟨rfl, hw₃⟩
      obtain ⟨hhandled, hdoc⟩ := hsaved (hw₂.trans hw₃)
      exact ⟨rfl, hhandled, fun _ => hdoc⟩
    · rintro - s₃ w₃ - ⟨rfl, hw₃⟩
      obtain ⟨hhandled, hdoc⟩ := hsaved (hw₂.trans hw₃)
      exact ⟨hhandled, Or.inr rfl, Or.inr hdoc⟩
  unfold persistProcessedMessage
  by_cases haudit : (r.send && r.auditLog) = true
  · rw [if_pos haudit, wp_bind]
    refine wp_appendAuditRecord_any.mono ?_ fun _ _ _ _ h => hquiet (Or.inl h.1) h.2
    rintro - s₁ w₁ - ⟨rfl, hw₁⟩
    exact hrest hw₁
  · rw [if_neg haudit]
    exact hrest ⟨rfl, rfl⟩

/-! ## The loop -/

/-- The state file stands at a message boundary: it is as it was, or it shows the cursor after
some messages, and the other rooms as they were. -/
def AtBoundary (r : SafeResponder) (cursor : ℕ) (base : List RoomMessage) (s : AgentState)
    (w w' : World) : Prop :=
  (base = [] ∧ w'.stateDoc = w.stateDoc) ∨
    ∃ s₁, w'.stateDoc = some (.ok s₁.toPayload) ∧ Kept r.room (reached cursor base) s s₁

/-- The messages that were done, without the last one or with it. -/
def Boundary (done base : List RoomMessage) : Prop := base = done ∨ base = done.dropLast

/-- What was done where an exception ends the loop: some of the messages were handled, in
order, and memory and the state file stand after them, or before the last of them. -/
structure Stopped (r : SafeResponder) (cursor : ℕ) (messages : List RoomMessage) (s : AgentState)
    (w : World) (s' : AgentState) (w' : World) (done : List RoomMessage)
    (handled : List MessageEvent) : Prop where
  isPrefix : done <+: due cursor messages
  history : w'.handled = w.handled ++ handled
  seqs : handled.map MessageEvent.seq = done.map RoomMessage.seq
  room : ∀ event ∈ handled, event.room = r.room
  memory : ∃ base, Boundary done base ∧ Kept r.room (reached cursor base) s s'
  disk : r.send = true → ∃ base, Boundary done base ∧ AtBoundary r cursor base s w w'

/-- What the loop does where it ends: every message past the cursor was handled, once and in
order, and in a live agent the state file shows the memory. -/
structure Completed (r : SafeResponder) (cursor : ℕ) (messages : List RoomMessage) (s : AgentState)
    (w : World) (handled : List MessageEvent) (s' : AgentState) (w' : World) : Prop where
  history : w'.handled = w.handled ++ handled
  seqs : handled.map MessageEvent.seq = (due cursor messages).map RoomMessage.seq
  room : ∀ event ∈ handled, event.room = r.room
  kept : Kept r.room (reached cursor (due cursor messages)) s s'
  saved : r.send = true → due cursor messages ≠ [] → w'.stateDoc = some (.ok s'.toPayload)
  idle : due cursor messages = [] → s' = s ∧ w' = w

/-- Nothing was due. -/
theorem Completed.of_nil {cursor : ℕ} (hcursor : s.cursorFor r.room = cursor) :
    Completed r cursor [] s w [] s w where
  history := (List.append_nil _).symm
  seqs := rfl
  room := by simp
  kept := by
    have hreached : reached cursor (due cursor []) = s.cursorFor r.room := hcursor.symm
    rw [hreached]
    exact Kept.refl s r.room
  saved _ h := absurd rfl h
  idle _ := ⟨rfl, rfl⟩

omit [Platform] in
theorem Boundary.cons {message : RoomMessage} {done base : List RoomMessage} (h : Boundary done base)
    (hne : done = [] → base = []) : Boundary (message :: done) (message :: base) := by
  by_cases hnil : done = []
  · exact Or.inl (by rw [hne hnil, hnil])
  · rcases h with rfl | rfl
    · exact Or.inl rfl
    · exact Or.inr (List.dropLast_cons_of_ne_nil hnil).symm

omit [Platform] in
theorem Boundary.of_nil {base : List RoomMessage} (h : Boundary [] base) : base = [] := by
  rcases h with rfl | rfl <;> rfl

/-- An exception before the first message was handled. -/
theorem Stopped.of_handling {cursor : ℕ} {messages : List RoomMessage} {s' : AgentState} {w' : World}
    (hcursor : s.cursorFor r.room = cursor) (h : Handling r.room s w s' w') :
    Stopped r cursor messages s w s' w' [] [] where
  isPrefix := List.nil_prefix
  history := by rw [h.handled, List.append_nil]
  seqs := rfl
  room := by simp
  memory := ⟨[], Or.inl rfl, hcursor ▸ h.kept⟩
  disk _ := by
    rcases h.stateDoc with hsame | ⟨s₁, hdoc, hkept⟩
    · exact ⟨[], Or.inl rfl, Or.inl ⟨rfl, hsame⟩⟩
    · exact ⟨[], Or.inl rfl, Or.inr ⟨s₁, hdoc, hcursor ▸ hkept⟩⟩

/-- An exception while the first message is persisted. -/
theorem Stopped.of_persisting {cursor : ℕ} {message : RoomMessage} {rest : List RoomMessage}
    {event : MessageEvent} {s₁ s' : AgentState} {w₁ w' : World}
    (hcursor : s.cursorFor r.room = cursor) (hlt : cursor < message.seq)
    (hordered : ((message :: rest).map RoomMessage.seq).Pairwise (· < ·))
    (h : Handling r.room s w s₁ w₁) (hseq : event.seq = message.seq) (hroom : event.room = r.room)
    (hp : Persisting r message.seq s₁ { w₁ with handled := w₁.handled ++ [event] } s' w') :
    Stopped r cursor (message :: rest) s w s' w' [message] [event] where
  isPrefix := by
    rw [due_of_lt hlt hordered]
    exact List.prefix_append [message] _
  history := by rw [hp.1, ← h.handled]
  seqs := by simp [hseq]
  room := by simp [hroom]
  memory := by
    rcases hp.2.1 with rfl | rfl
    · exact ⟨[], Or.inr rfl, hcursor ▸ h.kept⟩
    · exact ⟨[message], Or.inl rfl, h.kept.trans (Kept.atCursor s₁ r.room message.seq)⟩
  disk _ := by
    rcases hp.2.2 with hsame | hsaved
    · have hdoc : w'.stateDoc = w₁.stateDoc := hsame
      refine ⟨[], Or.inr rfl, ?_⟩
      rcases h.stateDoc with hold | ⟨s₂, hdoc₂, hkept⟩
      · exact Or.inl ⟨rfl, hdoc.trans hold⟩
      · exact Or.inr ⟨s₂, hdoc.trans hdoc₂, hcursor ▸ hkept⟩
    · refine ⟨[message], Or.inl rfl, Or.inr ⟨_, hsaved, ?_⟩⟩
      exact h.kept.trans (Kept.atCursor s₁ r.room message.seq)

/-- The first message was handled and persisted, and an exception ended the rest. -/
theorem Stopped.cons {cursor : ℕ} {message : RoomMessage} {rest done : List RoomMessage}
    {event : MessageEvent} {handled : List MessageEvent} {s₁ s' : AgentState} {w₁ w' : World}
    (hlt : cursor < message.seq)
    (hordered : ((message :: rest).map RoomMessage.seq).Pairwise (· < ·))
    (hkept : Kept r.room message.seq s s₁) (hhistory : w₁.handled = w.handled ++ [event])
    (hseq : event.seq = message.seq) (hroom : event.room = r.room)
    (hsaved : r.send = true → w₁.stateDoc = some (.ok s₁.toPayload))
    (h : Stopped r message.seq rest s₁ w₁ s' w' done handled) :
    Stopped r cursor (message :: rest) s w s' w' (message :: done) (event :: handled) where
  isPrefix := by
    rw [due_of_lt hlt hordered]
    exact List.cons_prefix_cons.mpr ⟨rfl, h.isPrefix⟩
  history := by
    rw [h.history, hhistory, List.append_assoc]
    rfl
  seqs := by rw [List.map_cons, List.map_cons, hseq, h.seqs]
  room := by
    rw [List.forall_mem_cons]
    exact ⟨hroom, h.room⟩
  memory := by
    obtain ⟨base, hbase, hkept'⟩ := h.memory
    refine ⟨message :: base, hbase.cons fun hnil => (hnil ▸ hbase).of_nil, ?_⟩
    rw [reached_cons]
    exact hkept.trans hkept'
  disk hsend := by
    obtain ⟨base, hbase, hdisk⟩ := h.disk hsend
    refine ⟨message :: base, hbase.cons fun hnil => (hnil ▸ hbase).of_nil, ?_⟩
    rcases hdisk with ⟨rfl, hsame⟩ | ⟨s₂, hdoc, hkept₂⟩
    · exact Or.inr ⟨s₁, hsame.trans (hsaved hsend), hkept⟩
    · refine Or.inr ⟨s₂, hdoc, ?_⟩
      rw [reached_cons]
      exact hkept.trans hkept₂

/-- The first message was handled and persisted, and then the rest. -/
theorem Completed.cons {cursor : ℕ} {message : RoomMessage} {rest : List RoomMessage}
    {event : MessageEvent} {handled : List MessageEvent} {s₁ s' : AgentState} {w₁ w' : World}
    (hlt : cursor < message.seq)
    (hordered : ((message :: rest).map RoomMessage.seq).Pairwise (· < ·))
    (hkept : Kept r.room message.seq s s₁) (hhistory : w₁.handled = w.handled ++ [event])
    (hseq : event.seq = message.seq) (hroom : event.room = r.room)
    (hsaved : r.send = true → w₁.stateDoc = some (.ok s₁.toPayload))
    (h : Completed r message.seq rest s₁ w₁ handled s' w') :
    Completed r cursor (message :: rest) s w (event :: handled) s' w' where
  history := by
    rw [h.history, hhistory, List.append_assoc]
    rfl
  seqs := by
    rw [due_of_lt hlt hordered, List.map_cons, List.map_cons, hseq, h.seqs]
  room := by
    rw [List.forall_mem_cons]
    exact ⟨hroom, h.room⟩
  kept := by
    rw [due_of_lt hlt hordered, reached_cons]
    exact hkept.trans h.kept
  saved hsend _ := by
    by_cases hnil : due message.seq rest = []
    · obtain ⟨rfl, rfl⟩ := h.idle hnil
      exact hsaved hsend
    · exact h.saved hsend hnil
  idle hnil := by
    rw [due_of_lt hlt hordered] at hnil
    cases hnil

/-- Where the loop was stopped, the cursor is not behind. -/
theorem Stopped.le_cursor {cursor : ℕ} {messages done : List RoomMessage} {handled : List MessageEvent}
    {s' : AgentState} {w' : World} (h : Stopped r cursor messages s w s' w' done handled) :
    cursor ≤ s'.cursorFor r.room := by
  obtain ⟨base, hbase, hkept⟩ := h.memory
  rw [hkept.cursor]
  refine le_reached fun m hm => ?_
  have hdone : m ∈ done := by
    rcases hbase with rfl | rfl
    · exact hm
    · exact List.mem_of_mem_dropLast hm
  exact (mem_due.mp (h.isPrefix.subset hdone)).2.le

/-- The loop over the messages, by induction on what is left of them. -/
theorem wp_processMessages_any (messages : List RoomMessage) {cursor : ℕ} {before : Bool}
    (hordered : (messages.map RoomMessage.seq).Pairwise (· < ·))
    (hcursor : s.cursorFor r.room = cursor) :
    Wp World.step Anywhere (processMessages r messages cursor before)
      (fun result s' w' => ∃ handled, Completed r cursor messages s w handled s' w' ∧
        result = (handled.map Event.handled, reached cursor (due cursor messages),
          before || !(due cursor messages).isEmpty))
      (fun _ s' w' => ∃ done handled, Stopped r cursor messages s w s' w' done handled) s w := by
  induction messages generalizing cursor before s w with
  | nil =>
      refine ⟨trivial, [], Completed.of_nil hcursor, ?_⟩
      simp [due, reached]
  | cons message rest ih =>
      have hrest : (rest.map RoomMessage.seq).Pairwise (· < ·) := by
        rw [List.map_cons, List.pairwise_cons] at hordered
        exact hordered.2
      rw [processMessages]
      -- a message that the cursor has reached is passed over
      by_cases hseen : message.seq ≤ cursor
      · rw [if_pos hseen]
        refine (ih hrest hcursor).mono ?_ ?_
        · rintro result s' w' - ⟨handled, hcompleted, rfl⟩
          rw [due_of_le hseen]
          refine ⟨handled, ?_, rfl⟩
          have hdue := due_of_le hseen rest
          exact ⟨hcompleted.history, hdue ▸ hcompleted.seqs, hcompleted.room, hdue ▸ hcompleted.kept,
            hdue ▸ hcompleted.saved, hdue ▸ hcompleted.idle⟩
        · rintro e s' w' - ⟨done, handled, h⟩
          have hdone := due_of_le hseen rest ▸ h.isPrefix
          exact ⟨done, handled, hdone, h.history, h.seqs, h.room, h.memory, h.disk⟩
      rw [if_neg hseen]
      have hlt : cursor < message.seq := by omega
      rw [wp_bind]
      -- the loop stops in the handling of the message, in the saving after it, or in the rest
      refine wp_eventForMessage_any.mono ?_ fun _ _ _ _ h => ⟨_, _, Stopped.of_handling hcursor h⟩
      rintro event s₁ w₁ - ⟨hhandling, hseq, hroom⟩
      rw [wp_bind, wp_call]
      refine ⟨trivial, fun result w₂ hstep => ?_⟩
      obtain ⟨rfl, rfl⟩ := hstep.1
      refine ⟨trivial, ?_⟩
      dsimp only
      rw [wp_bind]
      have hcursor₁ : s₁.cursorFor r.room ≤ message.seq := by
        rw [hhandling.kept.cursor, hcursor]
        omega
      refine (wp_persistProcessedMessage_any hcursor₁).mono ?_
        fun _ _ _ _ h => ⟨_, _, Stopped.of_persisting hcursor hlt hordered hhandling hseq hroom h⟩
      rintro - s₂ w₂ - ⟨rfl, hhistory, hsaved⟩
      have hkept := hhandling.kept.trans (Kept.atCursor s₁ r.room message.seq)
      have hhistory' : w₂.handled = w.handled ++ [event] := by rw [hhistory, ← hhandling.handled]
      rw [wp_bind]
      refine (ih hrest hkept.cursor).mono ?_ ?_
      · rintro result s' w' - ⟨handled, hcompleted, rfl⟩
        refine ⟨trivial, event :: handled,
          hcompleted.cons hlt hordered hkept hhistory' hseq hroom hsaved, ?_⟩
        rw [due_of_lt hlt hordered, reached_cons]
        simp
      · rintro e s' w' - ⟨done, handled, h⟩
        exact ⟨_, _, h.cons hlt hordered hkept hhistory' hseq hroom hsaved⟩

/-! ## The whole call -/

omit [Platform] in
/-- The state with the generation of a room observed. -/
def observed (s : AgentState) (room : PyStr) (generation : ℕ) : AgentState :=
  { s with generations := s.generations.set room generation }

/-- The cursor after a snapshot: the last message that was due, or, where none was, the end of
the snapshot if that is further on. -/
def cursorAfter (cursor : ℕ) (snapshot : RoomSnapshot) : ℕ :=
  if due cursor snapshot.messages = [] then max cursor snapshot.lastSeq
  else reached cursor (due cursor snapshot.messages)

/-- The event of a gap before the page. -/
def gapEvents (r : SafeResponder) (cursor : ℕ) (snapshot : RoomSnapshot) : List Event :=
  if 0 < snapshot.firstSeq ∧ cursor + 1 < snapshot.firstSeq then
    [.retentionGap r.room cursor snapshot.firstSeq]
  else []

/-- The event of a tail that cannot be read. -/
def skipEvents (r : SafeResponder) (cursor : ℕ) (snapshot : RoomSnapshot) : List Event :=
  if due cursor snapshot.messages = [] ∧ cursor < snapshot.lastSeq then
    [.cursorAdvanced r.room cursor snapshot.lastSeq]
  else []

/-- What `process_snapshot` does where it returns. -/
structure Finished (r : SafeResponder) (snapshot : RoomSnapshot) (s : AgentState) (w : World)
    (events : List Event) (s' : AgentState) (w' : World) (changed : List Event)
    (handled : List MessageEvent) : Prop where
  sameRoom : snapshot.room = r.room
  forward : ∃ grew, s.observeGeneration r.room snapshot.generation =
    .ok (grew, observed s r.room snapshot.generation)
  quiet : ∀ event ∈ changed, ∃ previous,
    event = .roomGenerationChanged r.room previous snapshot.generation
  events_eq : events = changed ++ gapEvents r (s.cursorFor r.room) snapshot ++
    handled.map Event.handled ++ skipEvents r (s.cursorFor r.room) snapshot
  history : w'.handled = w.handled ++ handled
  seqs : handled.map MessageEvent.seq =
    (due (s.cursorFor r.room) snapshot.messages).map RoomMessage.seq
  room : ∀ event ∈ handled, event.room = r.room
  kept : Kept r.room (cursorAfter (s.cursorFor r.room) snapshot)
    (observed s r.room snapshot.generation) s'
  durable : r.send = true → w'.stateDoc = some (.ok s'.toPayload) ∨ (s' = s ∧ w' = w)

/-- What was done where an exception ends `process_snapshot`: nothing, or the loop was stopped,
or the cursor was being moved over a tail that cannot be read. -/
def Broken (r : SafeResponder) (snapshot : RoomSnapshot) (s : AgentState) (w : World)
    (s' : AgentState) (w' : World) : Prop :=
  (s' = s ∧ w' = w) ∨
    (∃ done handled, Stopped r (s.cursorFor r.room) snapshot.messages
      (observed s r.room snapshot.generation) w s' w' done handled) ∨
    (due (s.cursorFor r.room) snapshot.messages = [] ∧ s.cursorFor r.room < snapshot.lastSeq ∧
      w'.handled = w.handled ∧
      s' = (observed s r.room snapshot.generation).atCursor r.room snapshot.lastSeq ∧
      (w'.stateDoc = w.stateDoc ∨ w'.stateDoc = some (.ok s'.toPayload)))

/-- Its events show what was handled. -/
theorem Finished.handledEvents_eq {snapshot : RoomSnapshot} {events changed : List Event}
    {handled : List MessageEvent} {s' : AgentState} {w' : World}
    (h : Finished r snapshot s w events s' w' changed handled) : handledEvents events = handled := by
  have hchanged : handledEvents changed = [] := by
    refine List.eq_nil_iff_forall_not_mem.mpr fun event hevent => ?_
    obtain ⟨_, heq⟩ := h.quiet _ (mem_handledEvents.mp hevent)
    cases heq
  have hgap : handledEvents (gapEvents r (s.cursorFor r.room) snapshot) = [] := by
    unfold gapEvents
    split_ifs <;> rfl
  have hskip : handledEvents (skipEvents r (s.cursorFor r.room) snapshot) = [] := by
    unfold skipEvents
    split_ifs <;> rfl
  have hhandled : handledEvents (handled.map Event.handled) = handled := by
    rw [handledEvents, List.filterMap_map]
    exact List.filterMap_some
  unfold handledEvents at hchanged hgap hskip hhandled ⊢
  rw [h.events_eq, List.filterMap_append, List.filterMap_append, List.filterMap_append, hchanged,
    hgap, hskip, hhandled, List.nil_append, List.nil_append, List.append_nil]

omit [Platform] in
theorem observed_of_generationFor {room : PyStr} {generation : ℕ}
    (h : s.generationFor room = some generation) : observed s room generation = s := by
  rw [observed, PyDict.set_of_get? h]

omit [Platform] in
/-- A generation that neither grew nor is new is the one on record. -/
theorem generationFor_of_not_grew {room : PyStr} {generation : ℕ} {s₁ : AgentState}
    (h : s.observeGeneration room generation = .ok (false, s₁))
    (hsome : (s.generationFor room).isNone = false) : s.generationFor room = some generation := by
  unfold AgentState.observeGeneration at h
  cases hprevious : s.generationFor room with
  | none => simp [hprevious] at hsome
  | some previous =>
      simp only [hprevious] at h
      split_ifs at h with hback
      simp only [Except.ok.injEq, Prod.mk.injEq, decide_eq_false_iff_not] at h
      congr 1
      omega

/-- Moving the cursor over a tail that cannot be read. -/
theorem wp_skipUnavailable_any {cursor lastSeq : ℕ} {any : Bool}
    (hcursor : any = false → s.cursorFor r.room = cursor) :
    Wp World.step Anywhere (skipUnavailable r cursor lastSeq any)
      (fun skipped s' w' =>
        (any = false ∧ cursor < lastSeq ∧ skipped = [.cursorAdvanced r.room cursor lastSeq] ∧
          s' = s.atCursor r.room lastSeq ∧ w'.handled = w.handled ∧
          (r.send = true → w'.stateDoc = some (.ok s'.toPayload))) ∨
        (¬(any = false ∧ cursor < lastSeq) ∧ skipped = [] ∧ s' = s ∧ w' = w))
      (fun _ s' w' => any = false ∧ cursor < lastSeq ∧ w'.handled = w.handled ∧
        s' = s.atCursor r.room lastSeq ∧
        (w'.stateDoc = w.stateDoc ∨ w'.stateDoc = some (.ok s'.toPayload))) s w := by
  unfold skipUnavailable
  by_cases hskip : ¬any = true ∧ cursor < lastSeq
  case neg =>
    rw [if_neg hskip]
    exact ⟨trivial, Or.inr ⟨by simpa using hskip, rfl, rfl, rfl⟩⟩
  rw [if_pos hskip]
  have hany : any = false := by simpa using hskip.1
  rw [wp_bind]
  refine wp_advanceCursor_any trivial (by rw [hcursor hany]; omega) ?_
  by_cases hsend : r.send = true
  · rw [if_pos hsend, wp_bind]
    exact wp_saveState trivial trivial
      ⟨trivial, Or.inl ⟨hany, hskip.2, rfl, rfl, rfl, fun _ => rfl⟩⟩
      (fun _ _ => ⟨hany, hskip.2, rfl, rfl, Or.inl rfl⟩)
      fun _ _ => ⟨hany, hskip.2, rfl, rfl, Or.inr rfl⟩
  · rw [if_neg hsend]
    exact ⟨trivial, Or.inl ⟨hany, hskip.2, rfl, rfl, rfl, fun h => absurd h hsend⟩⟩

/-- The last step of the call: a generation that was observed alone is saved. -/
theorem wp_persistGeneration_any {needed : Bool} {events : List Event} :
    Wp World.step Anywhere (if needed then do saveState; return events else return events)
      (fun result s' w' => result = events ∧ s' = s ∧ w'.handled = w.handled ∧
        ((needed = false ∧ w' = w) ∨ (needed = true ∧ w'.stateDoc = some (.ok s.toPayload))))
      (fun _ s' w' => needed = true ∧ w'.handled = w.handled ∧ s' = s ∧
        (w'.stateDoc = w.stateDoc ∨ w'.stateDoc = some (.ok s.toPayload))) s w := by
  cases needed with
  | false => exact ⟨trivial, rfl, rfl, rfl, Or.inl ⟨rfl, rfl⟩⟩
  | true =>
      rw [if_pos rfl, wp_bind]
      exact wp_saveState trivial trivial ⟨trivial, rfl, rfl, rfl, Or.inr ⟨rfl, rfl⟩⟩
        (fun _ _ => ⟨rfl, rfl, rfl, Or.inl rfl⟩) fun _ _ => ⟨rfl, rfl, rfl, Or.inr rfl⟩

/-- What the call does after the loop. -/
def afterMessages (r : SafeResponder) (lastSeq : ℕ) (needed : Bool) (before events : List Event)
    (cursor : ℕ) (any : Bool) : Agent (List Event) := do
  let skipped ← skipUnavailable r cursor lastSeq any
  let persisted := r.send && (any || !skipped.isEmpty)
  if r.send && needed && !persisted then saveState else pure ()
  return before ++ events ++ skipped

/-- After the last message there is nothing left to save. -/
theorem wp_afterMessages_handled {lastSeq cursor : ℕ} {needed : Bool} {before events : List Event} :
    Wp World.step Anywhere (afterMessages r lastSeq needed before events cursor true)
      (fun result s' w' => result = before ++ events ∧ s' = s ∧ w' = w) (fun _ _ _ => False) s w := by
  have hneeded : ∀ skipped : List Event,
      (r.send && needed && !(r.send && (true || !skipped.isEmpty))) = false := by
    intro skipped
    cases r.send <;> cases needed <;> rfl
  unfold afterMessages
  rw [wp_bind]
  refine (wp_skipUnavailable_any (fun h => by cases h)).mono ?_ fun _ _ _ _ h => by cases h.1
  rintro skipped s₁ w₁ - (⟨hfalse, -⟩ | ⟨-, rfl, rfl, rfl⟩)
  · cases hfalse
  dsimp only
  rw [if_neg (by rw [hneeded]; simp)]
  exact ⟨trivial, by rw [List.append_nil], rfl, rfl⟩

/-- Where no message was due, the tail is skipped or the generation alone is saved. -/
theorem wp_afterMessages_idle {lastSeq cursor : ℕ} {needed : Bool} {before : List Event}
    (hcursor : s.cursorFor r.room = cursor) :
    Wp World.step Anywhere (afterMessages r lastSeq needed before [] cursor false)
      (fun result s' w' => w'.handled = w.handled ∧
        ((cursor < lastSeq ∧ result = before ++ [.cursorAdvanced r.room cursor lastSeq] ∧
            s' = s.atCursor r.room lastSeq ∧ (r.send = true → w'.stateDoc = some (.ok s'.toPayload))) ∨
          (lastSeq ≤ cursor ∧ result = before ∧ s' = s ∧
            ((¬(r.send = true ∧ needed = true) ∧ w' = w) ∨ w'.stateDoc = some (.ok s.toPayload)))))
      (fun _ s' w' => w'.handled = w.handled ∧
        (w'.stateDoc = w.stateDoc ∨ w'.stateDoc = some (.ok s'.toPayload)) ∧
        (s' = s ∨ (cursor < lastSeq ∧ s' = s.atCursor r.room lastSeq))) s w := by
  unfold afterMessages
  rw [wp_bind]
  refine (wp_skipUnavailable_any (fun _ => hcursor)).mono ?_ ?_
  · rintro skipped s₁ w₁ - (⟨-, hlt, rfl, rfl, hhandled, hsaved⟩ | ⟨hle, rfl, rfl, rfl⟩)
    · -- the cursor was moved over the tail, and that was saved
      dsimp only
      rw [if_neg (by cases r.send <;> simp)]
      exact ⟨trivial, hhandled, Or.inl ⟨hlt, by rw [List.append_nil], rfl, hsaved⟩⟩
    · have hle : lastSeq ≤ cursor := by
        by_contra h
        exact hle ⟨rfl, by omega⟩
      have hcond : (r.send && needed && !(r.send && (false || !([] : List Event).isEmpty))) =
          (r.send && needed) := by
        simp
      dsimp only
      rw [hcond]
      refine wp_persistGeneration_any.mono ?_ ?_
      · rintro result s₂ w₂ - ⟨rfl, rfl, hhandled, ⟨hno, rfl⟩ | ⟨-, hsaved⟩⟩
        · refine ⟨rfl, Or.inr ⟨hle, by simp, rfl, Or.inl ⟨fun h => ?_, rfl⟩⟩⟩
          rw [h.1, h.2] at hno
          cases hno
        · exact ⟨hhandled, Or.inr ⟨hle, by simp, rfl, Or.inr hsaved⟩⟩
      · rintro e s₂ w₂ - ⟨-, hhandled, rfl, hdoc⟩
        exact ⟨hhandled, hdoc, Or.inl rfl⟩
  · rintro e s₁ w₁ - ⟨-, hlt, hhandled, rfl, hdoc⟩
    exact ⟨hhandled, hdoc, Or.inr ⟨hlt, rfl⟩⟩

/-- **A snapshot**, from any state and in every environment. -/
theorem wp_processSnapshot_any {snapshot : RoomSnapshot} :
    Wp World.step Anywhere (processSnapshot r snapshot)
      (fun events s' w' => ∃ changed handled, Finished r snapshot s w events s' w' changed handled)
      (fun _ s' w' => Broken r snapshot s w s' w') s w := by
  unfold processSnapshot
  by_cases hroom : snapshot.room ≠ r.room
  · rw [if_pos hroom]
    exact ⟨trivial, Or.inl ⟨rfl, rfl⟩⟩
  rw [if_neg hroom, wp_bind, wp_get]
  refine ⟨trivial, ?_⟩
  unfold observeSnapshotGeneration
  rw [wp_bind, wp_bind, wp_get]
  refine ⟨trivial, ?_⟩
  cases hgeneration : s.observeGeneration r.room snapshot.generation with
  | error e => exact ⟨trivial, Or.inl ⟨rfl, rfl⟩⟩
  | ok p =>
      obtain ⟨grew, s₁⟩ := p
      obtain rfl : s₁ = observed s r.room snapshot.generation :=
        AgentState.observeGeneration_ok hgeneration
      dsimp only
      rw [wp_bind, wp_set]
      refine ⟨trivial, trivial, ?_⟩
      dsimp only
      rw [wp_bind, wp_get]
      refine ⟨trivial, ?_⟩
      rw [wp_bind]
      refine (wp_processMessages_any snapshot.messages snapshot.ordered rfl).mono ?_
        fun _ _ _ _ h => Or.inr (Or.inl h)
      rintro result s₂ w₂ - ⟨handled, hcompleted, rfl⟩
      have hsame : (observed s r.room snapshot.generation).cursorFor r.room =
          s.cursorFor r.room := rfl
      dsimp only
      simp only [hsame] at hcompleted ⊢
      generalize hchanged : (if grew = true then
        [Event.roomGenerationChanged r.room (s.generationFor r.room) snapshot.generation] else []) =
          changed
      have hquiet : ∀ event ∈ changed, ∃ previous,
          event = .roomGenerationChanged r.room previous snapshot.generation := by
        rw [← hchanged]
        intro event hevent
        split_ifs at hevent
        · exact ⟨_, List.mem_singleton.mp hevent⟩
        · cases hevent
      have hforward := (⟨grew, hgeneration⟩ : ∃ grew, s.observeGeneration r.room snapshot.generation =
        .ok (grew, observed s r.room snapshot.generation))
      by_cases hnil : due (s.cursorFor r.room) snapshot.messages = []
      · -- no message was due: the tail may be skipped, or the generation alone be saved
        obtain ⟨rfl, rfl⟩ := hcompleted.idle hnil
        obtain rfl : handled = [] := by simpa [hnil] using hcompleted.seqs
        have hreached : reached (s.cursorFor r.room) (due (s.cursorFor r.room) snapshot.messages) =
            s.cursorFor r.room := by rw [hnil]; rfl
        have hany : (false || !(due (s.cursorFor r.room) snapshot.messages).isEmpty) = false := by
          simp [hnil]
        have hskipped (hlt : s.cursorFor r.room < snapshot.lastSeq) :
            skipEvents r (s.cursorFor r.room) snapshot =
              [.cursorAdvanced r.room (s.cursorFor r.room) snapshot.lastSeq] := by
          rw [skipEvents, if_pos ⟨hnil, hlt⟩]
        have hnotSkipped (hle : snapshot.lastSeq ≤ s.cursorFor r.room) :
            skipEvents r (s.cursorFor r.room) snapshot = [] := by
          rw [skipEvents, if_neg (fun h => absurd h.2 (Nat.not_lt.mpr hle))]
        -- a generation that need not be saved is the one on record
        have hnotNeeded (hsend : r.send = true)
            (hno : ¬(r.send = true ∧ ((s.generationFor r.room).isNone || grew) = true)) :
            observed s r.room snapshot.generation = s := by
          have hneeded : ((s.generationFor r.room).isNone || grew) = false :=
            eq_false_of_ne_true fun h => hno ⟨hsend, h⟩
          obtain ⟨hsome, rfl⟩ := Bool.or_eq_false_iff.mp hneeded
          exact observed_of_generationFor (generationFor_of_not_grew hgeneration hsome)
        rw [hreached, hany, List.map_nil]
        refine (wp_afterMessages_idle hsame).mono ?_ ?_
        · rintro events s₃ w₃ - ⟨hhandled, hcase⟩
          refine ⟨changed, [], ?_⟩
          rcases hcase with ⟨hlt, rfl, rfl, hsaved⟩ | ⟨hle, rfl, rfl, hdurable⟩
          · exact
              { sameRoom := not_not.mp hroom
                forward := hforward
                quiet := hquiet
                events_eq := by rw [hskipped hlt, gapEvents, List.map_nil, List.append_nil]
                history := by rw [hhandled, List.append_nil]
                seqs := by rw [hnil]; rfl
                room := by simp
                kept := by
                  rw [cursorAfter, if_pos hnil, max_eq_right hlt.le]
                  exact Kept.atCursor _ r.room snapshot.lastSeq
                durable := fun hsend => Or.inl (hsaved hsend) }
          · exact
              { sameRoom := not_not.mp hroom
                forward := hforward
                quiet := hquiet
                events_eq := by
                  rw [hnotSkipped hle, gapEvents, List.map_nil, List.append_nil, List.append_nil]
                history := by rw [hhandled, List.append_nil]
                seqs := by rw [hnil]; rfl
                room := by simp
                kept := by
                  rw [cursorAfter, if_pos hnil, max_eq_left hle]
                  exact hsame ▸ Kept.refl _ r.room
                durable := fun hsend => by
                  rcases hdurable with ⟨hno, rfl⟩ | hsaved
                  · exact Or.inr ⟨hnotNeeded hsend hno, rfl⟩
                  · exact Or.inl hsaved }
        · rintro e s₃ w₃ - ⟨hhandled, hdoc, rfl | ⟨hlt, rfl⟩⟩
          · have hhandling : Handling r.room (observed s r.room snapshot.generation) w₂
                (observed s r.room snapshot.generation) w₃ :=
              ⟨Kept.refl _ r.room, hhandled, hdoc.imp_right fun h => ⟨_, h, Kept.refl _ r.room⟩⟩
            exact Or.inr (Or.inl ⟨[], [], Stopped.of_handling hsame hhandling⟩)
          · exact Or.inr (Or.inr ⟨hnil, hlt, hhandled, rfl, hdoc⟩)
      · -- the last message that was due left its cursor in the file
        have hany : (false || !(due (s.cursorFor r.room) snapshot.messages).isEmpty) = true := by
          simp [hnil]
        have hskipped : skipEvents r (s.cursorFor r.room) snapshot = [] := by
          rw [skipEvents, if_neg (fun h => hnil h.1)]
        rw [hany]
        refine wp_afterMessages_handled.mono ?_ fun _ _ _ _ h => h.elim
        rintro events s₃ w₃ - ⟨rfl, rfl, rfl⟩
        refine ⟨changed, handled, ?_⟩
        exact
          { sameRoom := not_not.mp hroom
            forward := hforward
            quiet := hquiet
            events_eq := by rw [hskipped, List.append_nil, gapEvents]
            history := hcompleted.history
            seqs := hcompleted.seqs
            room := hcompleted.room
            kept := by
              rw [cursorAfter, if_neg hnil]
              exact hcompleted.kept
            durable := fun hsend => Or.inl (hcompleted.saved hsend hnil) }

end SafeResponder
