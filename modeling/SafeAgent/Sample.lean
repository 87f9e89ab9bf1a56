/-
# A sample platform and a sample environment

Concrete packages, settings and answers, on which the theorems about every platform and every
environment can be run.

* `platform` : the octets of a key are its public octets, and a signature is a checksum of
  the key and the payload, so that what a key signs verifies under it;
* `key`, `did`, `time` : a key, its DID, and a moment;
* `answer` : an environment in which nothing fails, with a server that renders its rooms.
-/
import SafeAgent.World

open PyText

namespace Sample

/-- 64 octets that depend on the key and on the payload. -/
def mac (key payload : Bytes) : Bytes :=
  let sum := payload.foldl (fun sum b => 31 * sum + b) 7
  (List.range 64).map fun i => key.getD (i % 32) 0 + sum * UInt8.ofNat i

/-- Characters of the categories `Cc`, `Cf`, `Cs`, `Co`, `Zl` and `Zp` in the basic plane that
text is most likely to hold. -/
def invisible (c : ℕ) : Bool :=
  isSurrogate c || decide (c < 32) || decide (127 ≤ c ∧ c < 160) || c == 0xAD ||
    decide (0x200B ≤ c ∧ c ≤ 0x200F) || decide (0x2028 ≤ c ∧ c ≤ 0x202E) ||
    decide (0x2060 ≤ c ∧ c ≤ 0x2064) || decide (0xE000 ≤ c ∧ c ≤ 0xF8FF) || c == 0xFEFF

/-- The ASCII digits. -/
def decimalValue (c : ℕ) : Option ℕ := if isDigit c then some (c - 48) else none

/-- How many containers the interpreter of the samples can nest. -/
def recursionLimit : ℕ := 900

theorem four_le_recursionLimit : 4 ≤ recursionLimit := by decide

theorem length_publicBytes (key : { key : Bytes // key.length = 32 }) : key.1.length = 32 := key.2

theorem length_sign (key : { key : Bytes // key.length = 32 }) (payload : Bytes) :
    (mac key.1 payload).length = 64 := by
  rw [mac, List.length_map, List.length_range]

theorem invisible_of_isSurrogate (c : ℕ) (h : isSurrogate c = true) : invisible c = true := by
  simp [invisible, h]

theorem visible_of_printable (c : ℕ) (h : 0x20 ≤ c ∧ c < 0x7F) : invisible c = false := by
  simp only [invisible, isSurrogate, Bool.or_eq_false_iff, Bool.and_eq_false_iff,
    decide_eq_false_iff_not, beq_eq_false_iff_ne]
  omega

theorem decimalValue_of_isDigit (c : ℕ) (h : isDigit c = true) : decimalValue c = some (c - 48) := by
  simp [decimalValue, h]

theorem isScalar_of_decimalValue (c d : ℕ) (h : decimalValue c = some d) : isScalar c = true := by
  unfold decimalValue at h
  split_ifs at h with hdigit
  exact isScalar_of_isAscii (isAscii_of_isDigit hdigit)

theorem floatRepr_zero (x : PyStr) (_ : x = py "0.0" ∨ x = py "-0.0") : id x = x := rfl

scoped instance platform : Platform where
  PrivateKey := { key : Bytes // key.length = 32 }
  publicBytes key := key.1
  sign key payload := mac key.1 payload
  verify key signature payload := signature == mac key payload
  length_publicBytes := length_publicBytes
  length_sign := length_sign
  invisible := invisible
  invisible_of_isSurrogate := invisible_of_isSurrogate
  visible_of_printable := visible_of_printable
  decimalValue := decimalValue
  decimalValue_of_isDigit := decimalValue_of_isDigit
  isScalar_of_decimalValue := isScalar_of_decimalValue
  isPrintable c := !invisible c
  nfkc := id
  bracketedNetlocOk _ := true
  recursionLimit := recursionLimit
  four_le_recursionLimit := four_le_recursionLimit
  floatRepr := id
  floatRepr_zero := floatRepr_zero
  strftimePadsYear := true

/-- A key. -/
def key : Platform.PrivateKey := ⟨List.replicate 32 7, rfl⟩

/-- What a key signs verifies under its public octets. -/
theorem verify_sign (key : Platform.PrivateKey) (payload : Bytes) :
    Platform.verify (Platform.publicBytes key) (Platform.sign key payload) payload = true :=
  beq_self_eq_true (mac key.1 payload)

/-- Its DID. -/
def did : PyStr := py "did:key:z6Mkevh7bMWWUda468bFjfFGtDxLXgkG8L46bsaXEwHD9Z3L"

theorem did_eq : Crypto.didFromPrivateKey key = .ok did := by decide +kernel

/-- A moment. -/
def time : UtcTime where
  year := 2026
  month := 3
  day := 1
  hour := 12
  minute := 30
  second := 5
  year_ok := by decide
  month_ok := by decide
  day_ok := by decide
  time_ok := by decide

/-- The arguments of an append after a reply. -/
def auditArgs : AuditArgs where
  observedAt := .utc time
  inputSequence := .int 7
  senderFingerprint := .str (py "0123456789abcdef")
  senderAuthenticated := .bool true
  policyDecision := .str (py "reply")
  policyReason := .str (py "help")
  outcome := .str (py "sent")
  receiptSha256 := .null
  responseSequence := .int 8

/-! ## The environment -/

open World

/-- The JSON object of a room record. -/
def messagePayload (m : RoomMessage) : Json :=
  .obj [(py "seq", .int m.seq), (py "from", .str m.sender), (py "text", .str m.text),
    (py "nonce", (m.nonce.map Json.str).getD .null)]

/-- The answer to a read: the records of the page. -/
def readPayload (log : List LogEntry) (room : PyStr) (since limit : ℕ) : Json :=
  let messages := (page log since limit).map LogEntry.message
  let last := (messages.getLast?.map RoomMessage.seq).getD since
  let first := (messages.head?.map RoomMessage.seq).getD 0
  .obj [(py "room", .str room), (py "first_seq", .int first), (py "last_seq", .int last),
    (py "messages", .arr (messages.map messagePayload))]

/-- A JSON object as an answer of the server. -/
def respond (payload : Json) : HttpOutcome := .ok (.success (toAscii (Json.canonical payload)))

/-- The records that the snapshot of a response shows are those of the page. -/
def showsPage (log : List LogEntry) (since limit : ℕ) (snapshot : RoomSnapshot) : Bool :=
  decide (snapshot.messages = (page log since limit).map LogEntry.message) &&
    snapshot.messages.head?.all (fun m => decide (snapshot.firstSeq = m.seq)) &&
    decide (snapshot.lastSeq = (snapshot.messages.getLast?.map RoomMessage.seq).getD since)

theorem faithful_of_showsPage {log : List LogEntry} {since limit : ℕ} {snapshot : RoomSnapshot}
    (h : showsPage log since limit snapshot = true) : Faithful log since limit snapshot := by
  simp only [showsPage, Bool.and_eq_true, decide_eq_true_eq] at h
  refine ⟨h.1.1, fun m hm => ?_, h.2⟩
  simpa [hm] using h.1.2

/-- The connection is lost. -/
def lost : HttpOutcome := .error (.of .urlError "connection reset")

/-- The response to a read; a response that would be misread is lost. -/
def readOutcome (log : List LogEntry) (room : PyStr) (since limit : ℕ) : HttpOutcome :=
  let response := respond (readPayload log room since limit)
  match Protocol.requestJson response >>= fun fields => Protocol.parseSnapshot fields room with
  | .ok snapshot => if showsPage log since limit snapshot then response else lost
  | .error _ => lost

/-- The response to a post: the posted record, alone. -/
def postOutcome (room : PyStr) (entry : LogEntry) : HttpOutcome :=
  respond (.obj [(py "room", .str room), (py "first_seq", .int entry.message.seq),
    (py "last_seq", .int entry.message.seq), (py "messages", .arr [messagePayload entry.message]),
    (py "posted", messagePayload entry.message)])

/-- An environment in which nothing fails. -/
def answer (w : World) : (o : Op) → Except PyErr o.Val × World
  | .mkdirParent _ => (.ok (), w)
  | .docExists f => (.ok (w.doc f).isSome, w)
  | .docMode _ => (.ok 0o600, w)
  | .readDoc f =>
      match w.doc f with
      | some (.ok doc) => (.ok doc, w)
      | _ => (.error (.of .fileNotFoundError "no such file"), w)
  | .makeTemporary _ => (.ok (), w)
  | .writeTemporary _ _ => (.ok (), w)
  | .replaceDoc f doc => (.ok (), w.setDoc f (some (.ok doc)))
  | .chmodDoc _ => (.ok (), w)
  | .syncDir _ => (.ok (), w)
  | .unlinkTemporary _ => (.ok (), w)
  | .unlinkDoc f => (.ok (), w.setDoc f none)
  | .auditMkdir => (.ok (), w)
  | .auditExists => (.ok w.auditFile.isSome, w)
  | .auditOpen write =>
      let info : FileMeta := { regular := true, mode := 0o600, owned := true }
      if write then (.ok info, { w with auditFile := some (w.auditFile.getD []) })
      else if w.auditFile.isSome then (.ok info, w)
      else (.error (.of .fileNotFoundError "no such file"), w)
  | .auditLock _ => (.ok (), w)
  | .auditRead =>
      match w.auditFile with
      | some raw => (.ok raw, w)
      | none => (.error (.of .osError "bad file descriptor"), w)
  | .auditWrite data =>
      (.ok data.length, { w with auditFile := some (w.auditFile.getD [] ++ data) })
  | .auditSync => (.ok (), w)
  | .auditClose => (.ok (), w)
  | .auditSyncDir => (.ok (), w)
  | .policyOpen => (.ok w.policyFile.1, w)
  | .policyRead => (.ok w.policyFile.2, w)
  | .http (.read _ room since _ limit _) => (readOutcome (w.rooms room) room since limit, w)
  | .http (.saySigned _ room envelope input) =>
      (postOutcome room (accepted (w.rooms room) envelope input),
        { w.accept room envelope input with sent := w.sent ++ [(room, envelope)] })
  | .issueReceipt url => (.ok (py "receipt for " ++ url), w)
  | .timeNs => (.ok 1772368205000000000, w)
  | .rateClock => (.ok (some 1772368205), w)
  | .utcNow => (.ok ⟨time, by decide⟩, w)
  | .printEvent _ => (.ok (), w)
  | .startProcess =>
      (.ok (), { w with handled := w.handled.filter fun e => e.seq ≤ w.durableCursor e.room })
  | .handling event => (.ok (), { w with handled := w.handled ++ [event] })

theorem readOutcome_cls {log : List LogEntry} {room : PyStr} {since limit : ℕ} {e : PyErr}
    (h : readOutcome log room since limit = .error e) : e.cls ≠ .transportError := by
  have hlost : ∀ e, lost = .error e → e.cls ≠ .transportError := by
    rintro e ⟨⟩
    decide
  unfold readOutcome at h
  dsimp only at h
  split at h
  · split_ifs at h
    · cases h
    · exact hlost e h
  · exact hlost e h

theorem faithful_of_readOutcome {log : List LogEntry} {room : PyStr} {since limit : ℕ}
    {fields : JsonFields} {snapshot : RoomSnapshot}
    (hfields : Protocol.requestJson (readOutcome log room since limit) = .ok fields)
    (hsnapshot : Protocol.parseSnapshot fields room = .ok snapshot) :
    Faithful log since limit snapshot := by
  have hlost : Protocol.requestJson lost ≠ .ok fields := by
    intro h
    cases h
  unfold readOutcome at hfields
  dsimp only at hfields
  split at hfields
  · rename_i found hfound
    split_ifs at hfields with hshows
    · obtain ⟨fields', hfields', hfound⟩ := PyResult.bind_ok hfound
      rw [hfields] at hfields'
      cases hfields'
      rw [hsnapshot] at hfound
      cases hfound
      exact faithful_of_showsPage hshows
    · exact absurd hfields hlost
  · exact absurd hfields hlost

/-- The environment stays inside what the world allows. -/
theorem step_answer (w : World) (o : Op) : w.step o (answer w o).1 (answer w o).2 := by
  cases o with
  | docExists f => exact ⟨⟨rfl, by rintro _ ⟨⟩; rfl⟩, by rintro _ ⟨⟩⟩
  | readDoc f =>
      simp only [answer]
      split
      · rename_i doc hdoc
        exact ⟨⟨rfl, by rintro _ ⟨⟩; exact hdoc⟩, by rintro _ ⟨⟩⟩
      · exact ⟨⟨rfl, by rintro _ ⟨⟩⟩, by rintro _ ⟨⟩; decide⟩
  | replaceDoc f doc => exact ⟨.inr ⟨rfl, rfl⟩, by rintro _ ⟨⟩⟩
  | unlinkDoc f => exact ⟨.inr ⟨rfl, rfl⟩, by rintro _ ⟨⟩⟩
  | auditExists => exact ⟨⟨rfl, by rintro _ ⟨⟩; rfl⟩, by rintro _ ⟨⟩⟩
  | auditOpen write =>
      simp only [answer]
      split_ifs with hwrite hsome
      · refine ⟨⟨rfl, ?_, fun _ => rfl⟩, by rintro _ ⟨⟩⟩
        cases hfile : w.auditFile with
        | none => exact .inr ⟨hwrite, rfl, rfl⟩
        | some raw => exact .inl rfl
      · exact ⟨⟨rfl, .inl rfl, fun _ => hsome⟩, by rintro _ ⟨⟩⟩
      · exact ⟨⟨rfl, .inl rfl, by rintro ⟨_, ⟨⟩⟩⟩, by rintro _ ⟨⟩; decide⟩
  | auditRead =>
      simp only [answer]
      split
      · rename_i raw hraw
        exact ⟨⟨rfl, by rintro _ ⟨⟩; exact hraw⟩, by rintro _ ⟨⟩⟩
      · exact ⟨⟨rfl, by rintro _ ⟨⟩⟩, by rintro _ ⟨⟩; decide⟩
  | auditWrite data =>
      refine ⟨.inr ⟨data.length, rfl, le_rfl, ?_⟩, by rintro _ ⟨⟩⟩
      rw [List.take_length]
      rfl
  | policyOpen => exact ⟨⟨rfl, by rintro _ ⟨⟩; rfl⟩, by rintro _ ⟨⟩⟩
  | policyRead => exact ⟨⟨rfl, by rintro _ ⟨⟩; rfl⟩, by rintro _ ⟨⟩⟩
  | http request =>
      cases request with
      | read url room since wait limit cacheBuster =>
          refine ⟨⟨⟨rfl, fun _ => ⟨[], by simp [answer], by simp, by simp⟩⟩, ?_⟩,
            fun e he => readOutcome_cls he⟩
          exact fun _ _ => faithful_of_readOutcome
      | saySigned url room envelope input =>
          refine ⟨⟨w, ⟨rfl, fun _ => ⟨[], by simp, by simp, by simp⟩⟩, .inr rfl⟩, ?_⟩
          rintro _ ⟨⟩
  | startProcess => exact ⟨⟨rfl, rfl⟩, by rintro _ ⟨⟩⟩
  | handling event => exact ⟨⟨rfl, rfl⟩, by rintro _ ⟨⟩⟩
  -- the other calls change nothing
  | _ => exact ⟨rfl, by rintro _ ⟨⟩⟩

/-- The environment in which nothing fails, with this time on the clock. -/
def answerAt (now : ℕ) (w : World) (o : Op) : Except PyErr o.Val × World :=
  match o with
  | .rateClock => (.ok (some now), w)
  | o => answer w o

theorem atReading_answerAt (now : ℕ) (w : World) (o : Op) :
    AtReading (.ok (some now)) w o (answerAt now w o).1 (answerAt now w o).2 := by
  cases o with
  | rateClock => exact ⟨⟨rfl, nofun⟩, rfl⟩
  | _ => exact ⟨step_answer w _, trivial⟩

/-- Files that do not exist yet, and empty rooms. -/
def world : World where
  stateDoc := none
  journalDoc := none
  auditFile := none
  policyFile := ({ regular := true, mode := 0o600, owned := true }, [])
  rooms _ := []
  sent := []
  handled := []

/-! ## A live process -/

/-- A room. -/
def room : PyStr := py "lobby"

/-- The DID of somebody else. -/
def otherDid : PyStr := py "did:key:z6Mkf4XhsxSXfEAWNK6GcFu7TyVs21AfUTRjiguqMhNQeDgk"

/-- A signed command of somebody else. -/
def command : LogEntry where
  message := { seq := 1, sender := otherDid, text := py "/ping", nonce := some (py "5"),
               seq_pos := by decide }
  reply := none

/-- The world in which the room holds that command. -/
def askedWorld : World := { world with rooms := fun r => if r = room then [command] else [] }

/-- The client. -/
def client : TechnocoreClient where
  baseUrl := py "http://127.0.0.1:8080"
  timeout := 20

/-- The agent. -/
def identity : Identity where
  did := did
  privateKey := key

/-- `run --send --allow-any-signed --start-at zero --once` -/
def runArgs : RunArgs where
  room := room
  client := client
  senders := .legacy [] true
  startAt := .zero
  once := true
  wait := some 0
  limit := 50

/-- The process. -/
def launch : Launch Op Op.Val PyErr where
  Memory := AgentState
  memory := {}
  program := Cli.runLive identity runArgs 1

/-- The world after the process. -/
@[irreducible] def answeredWorld : World := launch.finish answer askedWorld

/-- The process has answered the command. -/
theorem answeredWorld_eq : (answeredWorld.repliesTo room 1).length = 1 ∧
    answeredWorld.durableCursor room = 1 ∧ answeredWorld.handled.length = 1 ∧
    answeredWorld.sent.length = 1 := by
  decide +kernel

end Sample
