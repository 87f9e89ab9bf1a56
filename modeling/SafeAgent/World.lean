/-
# The world of the agent

The files that live processes share, the rooms of the server, and what each operation
may do to them.  An operation may raise at any time without an effect; a request may be
accepted although its answer is lost.

* `World.step`     : the effect of each operation;
* `Faithful`       : what an accepted read says about the room;
* `durableCursor`, `durableNonce` : what the state file holds, whether or not it loads;
* `durable_saved`  : after a save they are the entries of the saved object;
* `AtReading`      : the steps of a world whose clock gives one reading.

The server appends accepted messages with consecutive sequence numbers and keeps them;
a request is accepted during its call or never.  Its answer to a post is not trusted.
While a request is under way others may post and the operator may edit the capability file.
-/
import SafeAgent.Cli

open PyText

/-- A record of a room, and, for one that the agent posted, its envelope and the input
it replies to. -/
structure LogEntry where
  message : RoomMessage
  reply : Option (Envelope × ℕ)

/-- The files of the agent, the rooms of the server, and the history of the run. -/
structure World where
  stateDoc : Option (PyResult Json)
  journalDoc : Option (PyResult Json)
  auditFile : Option Bytes
  policyFile : FileMeta × Bytes
  rooms : PyStr → List LogEntry
  /-- The envelopes handed to the transport, each with its room. -/
  sent : List (PyStr × Envelope)
  /-- The events of handled messages, without those that an earlier process left unfinished. -/
  handled : List MessageEvent

/-! ## Reading the state file -/

/-- The number stored for a room in one map of a state document; 0 if there is none. -/
def docEntry (doc : Option (PyResult Json)) (field room : PyStr) : ℕ :=
  match doc with
  | some (.ok (.obj fields)) =>
      match fields.lookup field with
      | some (.obj entries) =>
          match entries.lookup room with
          | some (.int n) => n.toNat
          | _ => 0
      | _ => 0
  | _ => 0

theorem lookup_natMapPayload (d : PyDict ℕ) (room : PyStr) :
    (match (AgentState.natMapPayload d) with
      | .obj entries => entries.lookup room
      | _ => none) = (d.get? room).map fun n : ℕ => Json.int n := by
  simp only [AgentState.natMapPayload]
  rw [Json.lookup_map_items (fun n : ℕ => Json.int n)]
  congr 1
  exact PyDict.get?_sorted d room

/-- A saved document shows the cursors of the object. -/
theorem docEntry_cursors (s : AgentState) (room : PyStr) :
    docEntry (some (.ok s.toPayload)) (py "cursors") room = s.cursorFor room := by
  have hlookup : s.payloadFields.lookup (py "cursors") =
      some (AgentState.natMapPayload s.cursors) := rfl
  have hentry := lookup_natMapPayload s.cursors room
  simp only [AgentState.natMapPayload] at hlookup hentry
  simp only [docEntry, AgentState.toPayload, hlookup, hentry, AgentState.cursorFor]
  cases s.cursors.get? room <;> rfl

/-- A saved document shows the nonces of the object. -/
theorem docEntry_nonces (s : AgentState) (room : PyStr) :
    docEntry (some (.ok s.toPayload)) (py "nonces") room = s.nonceFor room := by
  have hlookup : s.payloadFields.lookup (py "nonces") =
      some (AgentState.natMapPayload s.nonces) := rfl
  have hentry := lookup_natMapPayload s.nonces room
  simp only [AgentState.natMapPayload] at hlookup hentry
  simp only [docEntry, AgentState.toPayload, hlookup, hentry, AgentState.nonceFor]
  cases s.nonces.get? room <;> rfl

namespace World

/-- The cursor of a room in the state file. -/
def durableCursor (w : World) (room : PyStr) : ℕ := docEntry w.stateDoc (py "cursors") room

/-- The nonce of a room in the state file. -/
def durableNonce (w : World) (room : PyStr) : ℕ := docEntry w.stateDoc (py "nonces") room

/-- A file of the world. -/
def doc (w : World) : DocFile → Option (PyResult Json)
  | .state => w.stateDoc
  | .journal => w.journalDoc

/-- The world with one file replaced. -/
def setDoc (w : World) (f : DocFile) (content : Option (PyResult Json)) : World :=
  match f with
  | .state => { w with stateDoc := content }
  | .journal => { w with journalDoc := content }

/-- The journal holds this record, for this room. -/
def Journaled (w : World) (room : PyStr) (record : DeliveryRecord) : Prop :=
  w.journalDoc = some (.ok record.toPayload) ∧ DeliveryRecord.sha256 room = .ok record.roomSha256

/-- The envelopes handed to the transport for a room. -/
def sentTo (w : World) (room : PyStr) : List Envelope :=
  (w.sent.filter fun p => p.1 = room).map Prod.snd

/-- The agent's replies to an input in a room. -/
def repliesTo (w : World) (room : PyStr) (input : ℕ) : List LogEntry :=
  (w.rooms room).filter fun e => e.reply.any fun p => p.2 = input

/-! ## The server -/

/-- Others may have acted: every room may have grown by records that are not replies of
the agent, numbered on, and the operator may have edited the capability file. -/
def Others (w w' : World) : Prop :=
  w' = { w with rooms := w'.rooms, policyFile := w'.policyFile } ∧
    ∀ room, ∃ more : List LogEntry, w'.rooms room = w.rooms room ++ more ∧
      (∀ e ∈ more, e.reply = none) ∧
      more.map (fun e => e.message.seq) = List.range' ((w.rooms room).length + 1) more.length

/-- The record that the server appends when it accepts an envelope. -/
def accepted (log : List LogEntry) (envelope : Envelope) (input : ℕ) : LogEntry where
  message :=
    { seq := log.length + 1, sender := envelope.did, text := envelope.text,
      nonce := some (decimal envelope.nonce), seq_pos := Nat.succ_pos _ }
  reply := some (envelope, input)

/-- The world after the server accepted an envelope. -/
def accept (w : World) (room : PyStr) (envelope : Envelope) (input : ℕ) : World :=
  { w with
    rooms := Function.update w.rooms room
      (w.rooms room ++ [accepted (w.rooms room) envelope input]) }

/-- The records that a read returns: the newest `limit` after `since`. -/
def page (log : List LogEntry) (since limit : ℕ) : List LogEntry :=
  let after := log.filter fun e => since < e.message.seq
  after.drop (after.length - limit)

end World

/-- A snapshot says what a read of the log returns: its records, the number of the first,
and the number of the last, or `since` when there is none. -/
structure Faithful (log : List LogEntry) (since limit : ℕ) (snapshot : RoomSnapshot) : Prop where
  messages : snapshot.messages = (World.page log since limit).map LogEntry.message
  first : ∀ m, snapshot.messages.head? = some m → snapshot.firstSeq = m.seq
  last : snapshot.lastSeq = (snapshot.messages.getLast?.map RoomMessage.seq).getD since

namespace World

variable [Platform]

/-- The effect of an operation, when it answers `r`. -/
def effect (w : World) : (o : Op) → Except PyErr o.Val → World → Prop
  | .docExists f, r, w' => w' = w ∧ ∀ b : Bool, r = .ok b → b = (w.doc f).isSome
  | .readDoc f, r, w' => w' = w ∧ ∀ j : Json, r = .ok j → w.doc f = some (.ok j)
  | .replaceDoc f content, r, w' =>
      (∃ e, r = .error e ∧ w' = w) ∨ (r = .ok () ∧ w' = w.setDoc f (some (.ok content)))
  | .unlinkDoc f, r, w' => (∃ e, r = .error e ∧ w' = w) ∨ (r = .ok () ∧ w' = w.setDoc f none)
  | .auditExists, r, w' => w' = w ∧ ∀ b : Bool, r = .ok b → b = w.auditFile.isSome
  | .auditOpen write, r, w' =>
      w' = { w with auditFile := w'.auditFile } ∧
        (w'.auditFile = w.auditFile ∨
          (write = true ∧ w.auditFile = none ∧ w'.auditFile = some [])) ∧
        ((∃ info, r = .ok info) → w'.auditFile.isSome)
  | .auditRead, r, w' => w' = w ∧ ∀ raw : Bytes, r = .ok raw → w.auditFile = some raw
  | .auditWrite data, r, w' =>
      (∃ e, r = .error e ∧ w' = w) ∨
        ∃ n : ℕ, r = .ok n ∧ n ≤ data.length ∧
          w' = { w with auditFile := some (w.auditFile.getD [] ++ data.take n) }
  | .policyOpen, r, w' => w' = w ∧ ∀ info : FileMeta, r = .ok info → w.policyFile.1 = info
  | .policyRead, r, w' => w' = w ∧ ∀ raw : Bytes, r = .ok raw → w.policyFile.2 = raw
  | .http (.read _ room since _ limit _), r, w' =>
      w.Others w' ∧ ∀ payload snapshot, Protocol.requestJson r = .ok payload →
        Protocol.parseSnapshot payload room = .ok snapshot →
        Faithful (w'.rooms room) since limit snapshot
  | .http (.saySigned _ room envelope input), _, w' =>
      ∃ w₁, w.Others w₁ ∧
        (w' = { w₁ with sent := w₁.sent ++ [(room, envelope)] } ∨
          w' = { w₁.accept room envelope input with sent := w₁.sent ++ [(room, envelope)] })
  | .startProcess, r, w' =>
      r = .ok () ∧
        w' = { w with handled := w.handled.filter fun e => e.seq ≤ w.durableCursor e.room }
  | .handling event, r, w' => r = .ok () ∧ w' = { w with handled := w.handled ++ [event] }
  | _, _, w' => w' = w

/-- **One operation.**  Whatever it raises comes from the interpreter or the system, never
a `TransportError`. -/
def step (w : World) (o : Op) (r : Except PyErr o.Val) (w' : World) : Prop :=
  w.effect o r w' ∧ ∀ e, r = .error e → e.cls ≠ .transportError

end World

/-! ## One reading of the clock -/

/-- The clock, where it is asked, gives this reading. -/
def Op.Reads (reading : Except PyErr (Option ℕ)) : (o : Op) → Except PyErr o.Val → Prop
  | .rateClock, r => r = reading
  | _, _ => True

/-- One operation while the clock gives one reading. -/
def AtReading [Platform] (reading : Except PyErr (Option ℕ)) (w : World) (o : Op)
    (r : Except PyErr o.Val) (w' : World) : Prop :=
  w.step o r w' ∧ o.Reads reading r
