/-
# The room protocol (`protocol.py`)

Requests, the classification of HTTP outcomes, and the validation of room snapshots.

* `RoomMessage` and `RoomSnapshot` carry what `_parse_message` and `_parse_snapshot`
  check, so a snapshot that exists is ordered and inside its advertised range;
* `requestJson` is `_request_json` after the exchange: it maps an outcome to a JSON
  object or an exception;
* `TechnocoreClient.readRequest`, `sayRequest`, `checkPosted` are the two calls of the
  client, before and after the exchange.
-/
import SafeAgent.Crypto

open PyText

/-- A room record.  Its sequence number is positive. -/
structure RoomMessage where
  seq : ℕ
  sender : PyStr
  text : PyStr
  nonce : Option PyStr
  seq_pos : 0 < seq
  deriving DecidableEq

/-- A snapshot that `_parse_snapshot` accepts: strictly increasing sequence numbers
inside the advertised range. -/
structure RoomSnapshot where
  room : PyStr
  firstSeq : ℕ
  lastSeq : ℕ
  messages : List RoomMessage
  generation : ℕ
  ordered : (messages.map RoomMessage.seq).Pairwise (· < ·)
  inRange : ∀ m ∈ messages, firstSeq ≤ m.seq ∧ m.seq ≤ lastSeq

/-- The signed envelope of one room message. -/
structure Envelope where
  did : PyStr
  nonce : ℕ
  text : PyStr
  signature : PyStr
  deriving DecidableEq

/-- A GET request of the client.  `inReplyTo` is not sent: it records for which input
the envelope is posted, so that statements about the room can speak of it. -/
inductive HttpRequest
  | read (baseUrl room : PyStr) (since : ℕ) (wait : ℚ) (limit cacheBuster : ℕ)
  | saySigned (url room : PyStr) (envelope : Envelope) (inReplyTo : ℕ)

/-- What `urlopen` and `read` come back with when they do not raise, or the `HTTPError`
that `urlopen` raises: its code, its `Retry-After` as `_retry_after` reads it, and its
body or the exception that reading the body raises. -/
inductive HttpResponse
  | success (raw : Bytes)
  | httpError (code : ℕ) (retryAfter : Option String) (body : Except PyErr Bytes)

/-- An exchange ends with a response or with an exception of `urlopen` or `read`. -/
abbrev HttpOutcome := Except PyErr HttpResponse

namespace RoomMessage

/-- `RoomMessage.is_signed` -/
def isSigned (m : RoomMessage) : Bool :=
  match m.nonce with
  | none => false
  | some _ =>
      match Crypto.validateDid m.sender with
      | .ok _ => true
      | .error _ => false

theorem isSigned_iff {m : RoomMessage} :
    m.isSigned = true ↔ m.nonce.isSome = true ∧ Crypto.isDid m.sender = true := by
  unfold isSigned Crypto.validateDid
  cases m.nonce with
  | none => simp
  | some n => by_cases h : Crypto.isDid m.sender <;> simp [h]

end RoomMessage

namespace Protocol

/-- `ResponseError(message)` -/
def responseError (message : String) : PyErr := .of .responseError message

/-- `ProtocolValueError(message)` -/
def protocolValueError (message : String) : PyErr := .of .protocolValueError message

/-! ## Classifying an exchange -/

/-- `MAX_RESPONSE_BYTES` -/
def maxResponseBytes : ℕ := 5 * 1024 * 1024

/-- `MAX_ERROR_BYTES` -/
def maxErrorBytes : ℕ := 16 * 1024

/-- One character of `raw.decode("utf-8", errors="replace")`, and how many octets it
takes.  A malformed sequence gives U+FFFD for its longest well-formed start. -/
def decodeReplaceStep : Bytes → ℕ × ℕ
  | [] => (0xFFFD, 1)
  | b0 :: rest =>
      let lo := if b0 = 0xE0 then 0xA0 else if b0 = 0xF0 then 0x90 else 0x80
      let hi := if b0 = 0xED then 0x9F else if b0 = 0xF4 then 0x8F else 0xBF
      if b0 < 0x80 then (b0.toNat, 1)
      else if b0 < 0xC2 ∨ 0xF4 < b0 then (0xFFFD, 1)
      else
        match rest with
        | [] => (0xFFFD, 1)
        | b1 :: rest1 =>
            if b1 < lo ∨ hi < b1 then (0xFFFD, 1)
            else if b0 < 0xE0 then ((b0.toNat - 0xC0) * 64 + (b1.toNat - 0x80), 2)
            else
              match rest1 with
              | [] => (0xFFFD, 2)
              | b2 :: rest2 =>
                  if ¬Json.isCont b2 then (0xFFFD, 2)
                  else if b0 < 0xF0 then
                    ((b0.toNat - 0xE0) * 4096 + (b1.toNat - 0x80) * 64 + (b2.toNat - 0x80), 3)
                  else
                    match rest2 with
                    | [] => (0xFFFD, 3)
                    | b3 :: _ =>
                        if ¬Json.isCont b3 then (0xFFFD, 3)
                        else
                          ((b0.toNat - 0xF0) * 262144 + (b1.toNat - 0x80) * 4096 +
                            (b2.toNat - 0x80) * 64 + (b3.toNat - 0x80), 4)

/-- `raw.decode("utf-8", errors="replace")`; every step takes at least one octet. -/
def decodeReplace : ℕ → Bytes → PyStr
  | 0, _ => []
  | _, [] => []
  | fuel + 1, raw =>
      (decodeReplaceStep raw).1 :: decodeReplace fuel (raw.drop (decodeReplaceStep raw).2)

section Exchange

variable [Platform]

/-- `_safe_error_detail` -/
def safeErrorDetail (raw : Bytes) : PyStr :=
  strip ((decodeReplace raw.length raw).map fun c => if Platform.isPrintable c then c else 32)

/-- `json.loads(raw)` with Python's own `dict`. -/
def jsonReader : Json.JsonReader where
  depthLimit := Platform.recursionLimit
  floatRepr := Platform.floatRepr
  objectHook fields := .ok (.obj (PyItems.ofPairs fields))

/-- The `TransportError` for an HTTP error status. -/
def httpStatusError (code : ℕ) (retryAfter : Option String) (body : Except PyErr Bytes) : PyErr :=
  match body with
  | .ok raw =>
      let detail := safeErrorDetail (raw.take maxErrorBytes)
      let suffix := if detail = [] then "" else ": " ++ String.ofList (detail.map Char.ofNat)
      { cls := .transportError, message := s!"Technocore returned HTTP {code}" ++ suffix,
        status := some code, retryAfter }
  | .error _ =>
      { cls := .transportError,
        message := s!"Technocore returned HTTP {code}; error response body could not be read",
        status := some code, retryAfter }

/-- `_request_json`, given how the exchange ended. -/
def requestJson (outcome : HttpOutcome) : PyResult JsonFields :=
  match outcome with
  | .error e =>
      -- `except (URLError, TimeoutError, OSError)`; an `HTTPException` is none of these
      if e.isa .osError then
        .error (.of .transportError ("Technocore request failed: " ++ e.message))
      else .error e
  | .ok (.httpError code retryAfter body) =>
      match body with
      | .ok _ => .error (httpStatusError code retryAfter body)
      | .error e =>
          if e.isa .osError || e.isa .httpException then
            .error (httpStatusError code retryAfter body)
          else .error e
  | .ok (.success raw) =>
      if maxResponseBytes < raw.length then
        .error (responseError "Technocore response exceeded the 5 MiB safety limit")
      else
        match Json.loads jsonReader raw with
        | .error e =>
            -- `except (UnicodeDecodeError, json.JSONDecodeError)`
            if e.isa .unicodeDecodeError || e.isa .jsonDecodeError then
              .error (responseError "Technocore returned invalid JSON")
            else .error e
        | .ok payload =>
            match payload.asObj with
            | some fields => .ok fields
            | none => .error (responseError "Technocore response must be a JSON object")

end Exchange

/-! ## Messages and snapshots -/

open Json

/-- `isinstance(value, int) and not isinstance(value, bool) and value >= 0` -/
def asNat (value : Json) : Option ℕ :=
  match value.asInt with
  | some n => if 0 ≤ n then some n.toNat else none
  | none => none

theorem eq_int_of_asNat {value : Json} {n : ℕ} (h : asNat value = some n) : value = .int n := by
  unfold asNat at h
  cases value with
  | int z =>
      simp only [asInt] at h
      split_ifs at h with hz
      cases h
      rw [Int.toNat_of_nonneg hz]
  | _ => cases h

/-- `_parse_message` -/
def parseMessage (item : Json) : PyResult RoomMessage :=
  match item.asObj with
  | none => .error (responseError "Technocore messages must be JSON objects")
  | some fields =>
      match asNat (get fields (py "seq")) with
      | none => .error (responseError "Technocore message has an invalid sequence")
      | some seq =>
          if hpos : 0 < seq then
            match (get fields (py "from")).asStr, (get fields (py "text")).asStr with
            | some sender, some text =>
                match get fields (py "nonce") with
                | .null => .ok { seq, sender, text, nonce := none, seq_pos := hpos }
                | nonce =>
                    match Crypto.validateNonce nonce with
                    | .ok valid => .ok { seq, sender, text, nonce := some valid, seq_pos := hpos }
                    | .error e =>
                        if e.isa .protocolValueError then
                          .error (responseError "Technocore message has an invalid nonce")
                        else .error e
            | _, _ => .error (responseError "Technocore message has invalid sender or text")
          else .error (responseError "Technocore message has an invalid sequence")

/-- `tuple(_parse_message(item) for item in raw_messages)` -/
def parseMessages : List Json → PyResult (List RoomMessage)
  | [] => .ok []
  | item :: rest => do
      let message ← parseMessage item
      let messages ← parseMessages rest
      return message :: messages

/-- `payload.get("first_seq", 0 if not raw_messages else 1)`, where `None` stands for 0
when there are no messages. -/
def firstSeqOf (fields : JsonFields) (rawMessages : List Json) : Option ℕ :=
  match fields.lookup (py "first_seq") with
  | none => some (if rawMessages.isEmpty then 0 else 1)
  | some .null => if rawMessages.isEmpty then some 0 else none
  | some value => asNat value

/-- `payload.get("generation", 0)` -/
def generationOf (fields : JsonFields) : Option ℕ :=
  match fields.lookup (py "generation") with
  | none => some 0
  | some value => asNat value

/-- `_parse_snapshot` -/
def parseSnapshot (fields : JsonFields) (expectedRoom : PyStr) : PyResult RoomSnapshot :=
  if ¬(get fields (py "room")).isStr expectedRoom then
    .error (responseError "Technocore returned a different room")
  else
    match asNat (get fields (py "last_seq")) with
    | none => .error (responseError "Technocore returned an invalid last_seq")
    | some lastSeq =>
        match (get fields (py "messages")).asArr with
        | none => .error (responseError "Technocore returned an invalid messages list")
        | some rawMessages =>
            match firstSeqOf fields rawMessages with
            | none => .error (responseError "Technocore returned an invalid first_seq")
            | some firstSeq =>
                match generationOf fields with
                | none => .error (responseError "Technocore returned an invalid generation")
                | some generation =>
                    match parseMessages rawMessages with
                    | .error e => .error e
                    | .ok messages =>
                        if hord : (messages.map RoomMessage.seq).Pairwise (· < ·) then
                          if hrange : ∀ m ∈ messages, firstSeq ≤ m.seq ∧ m.seq ≤ lastSeq then
                            .ok { room := expectedRoom, firstSeq, lastSeq, messages, generation,
                                  ordered := hord, inRange := hrange }
                          else
                            .error (responseError
                              "Technocore message sequences are outside the advertised range")
                        else .error (responseError "Technocore messages are not strictly ordered")

theorem parseSnapshot_room {fields : JsonFields} {room : PyStr} {snapshot : RoomSnapshot}
    (h : parseSnapshot fields room = .ok snapshot) : snapshot.room = room := by
  unfold parseSnapshot at h
  split at h
  · cases h
  · repeat' split at h
    all_goals first
      | cases h
        done
      | cases h
        rfl

end Protocol

/-! ## The client -/

/-- `TechnocoreClient`, with its validated settings. -/
structure TechnocoreClient where
  baseUrl : PyStr
  timeout : ℚ

namespace TechnocoreClient

open Protocol

/-- `_bounded_float`; `none` is a value that is not finite. -/
def boundedFloat (value : Option ℚ) (label range : String) (minimum maximum : ℚ) : PyResult ℚ :=
  match value with
  | none => .error (protocolValueError (label ++ " must be a finite number"))
  | some rendered =>
      if minimum ≤ rendered ∧ rendered ≤ maximum then .ok rendered
      else .error (protocolValueError (label ++ " must be between " ++ range))

/-- The checks of `read_room` before the exchange, and the request. -/
def readRequest (client : TechnocoreClient) (room : PyStr) (since : ℕ) (wait : Option ℚ)
    (limit cacheBuster : ℕ) : PyResult HttpRequest := do
  let validRoom ← Crypto.validateRoom room
  let selectedWait ← boundedFloat wait "wait" "0 and 10" 0 10
  if client.timeout ≤ selectedWait then
    .error (protocolValueError "timeout must be greater than the long-poll wait")
  else if limit < 1 ∨ 200 < limit then
    .error (protocolValueError "limit must be between 1 and 200")
  else .ok (.read client.baseUrl validRoom since selectedWait limit cacheBuster)

/-- A character that `quote(value, safe="")` keeps. -/
def isUnreserved (c : ℕ) : Bool := isAlnum c || c == 95 || c == 46 || c == 45 || c == 126

/-- An upper-case hexadecimal digit. -/
def upperHex (d : ℕ) : ℕ := if d < 10 then 48 + d else 55 + d

/-- `quote(value, safe="")` on the octets of the value. -/
def quoteOctets (octets : Bytes) : PyStr :=
  octets.flatMap fun b =>
    if isUnreserved b.toNat then [b.toNat]
    else [37, upperHex (b.toNat / 16), upperHex (b.toNat % 16)]

/-- `quote(value, safe="")` -/
def quote (value : PyStr) : PyResult PyStr :=
  match encodeUtf8 value with
  | some octets => .ok (quoteOctets octets)
  | none => .error (.of .unicodeEncodeError "surrogates not allowed")

/-- The checks of `send_signed_message` before the exchange, and the request. -/
def sayRequest (client : TechnocoreClient) (room : PyStr) (envelope : Envelope) (inReplyTo : ℕ) :
    PyResult HttpRequest := do
  let validRoom ← Crypto.validateRoom room
  let validDid ← Crypto.validateDid envelope.did
  let validNonce ← Crypto.validateNonce (.int envelope.nonce)
  if ¬Crypto.isCanonicalSignature envelope.signature then
    .error (protocolValueError "signature must use canonical unpadded base64url encoding")
  else do
    let quotedRoom ← quote validRoom
    let quotedDid ← quote validDid
    let quotedSignature ← quote envelope.signature
    let quotedNonce ← quote validNonce
    let quotedText ← quote envelope.text
    let url := client.baseUrl ++ py "/r/" ++ quotedRoom ++ py "/say-signed/" ++ quotedDid ++
      47 :: quotedSignature ++ 47 :: quotedNonce ++ 47 :: quotedText ++ py "?format=json"
    match encodeUtf8 url with
    | none => .error (.of .unicodeEncodeError "surrogates not allowed")
    | some octets =>
        if 8000 < octets.length then
          .error (protocolValueError "signed GET URL exceeds the agent's 8000-byte safety limit")
        else .ok (.saySigned url validRoom envelope inReplyTo)

/-- What `send_signed_message` checks in the answer: the posted record is the one that
was signed, and the room of the same answer shows its sequence number. -/
def checkPosted (room : PyStr) (envelope : Envelope) (payload : JsonFields) :
    PyResult RoomMessage := do
  let snapshot ← parseSnapshot payload room
  let posted ← parseMessage (Json.get payload (py "posted"))
  if posted.sender ≠ envelope.did ∨ posted.text ≠ envelope.text ∨
      posted.nonce ≠ some (decimal envelope.nonce) ∨
      posted.seq ∉ snapshot.messages.map RoomMessage.seq then
    .error (responseError "Technocore posted record does not match the signed request")
  else .ok posted

theorem validateRoom_ok {room valid : PyStr} (h : Crypto.validateRoom room = .ok valid) :
    valid = room := by
  unfold Crypto.validateRoom at h
  split_ifs at h
  exact (Except.ok.inj h).symm

/-- A read request names the room, and asks for at least one record. -/
theorem readRequest_ok {client : TechnocoreClient} {room : PyStr} {since limit cacheBuster : ℕ}
    {wait : Option ℚ} {request : HttpRequest}
    (h : client.readRequest room since wait limit cacheBuster = .ok request) :
    ∃ selectedWait, 1 ≤ limit ∧
      request = .read client.baseUrl room since selectedWait limit cacheBuster := by
  simp only [readRequest, bind, Except.bind] at h
  split at h <;> [cases h; rename_i validRoom hroom]
  split at h <;> [cases h; rename_i selectedWait hwait]
  split_ifs at h with htimeout hlimit
  cases h
  exact ⟨selectedWait, by omega, by rw [validateRoom_ok hroom]⟩

/-- A request to post names the room and carries the envelope. -/
theorem sayRequest_ok {client : TechnocoreClient} {room : PyStr} {envelope : Envelope}
    {inReplyTo : ℕ} {request : HttpRequest}
    (h : client.sayRequest room envelope inReplyTo = .ok request) :
    ∃ url, request = .saySigned url room envelope inReplyTo := by
  simp only [sayRequest, bind, Except.bind] at h
  split at h <;> [cases h; rename_i validRoom hroom]
  split at h <;> [cases h; skip]
  split at h <;> [cases h; skip]
  obtain rfl := validateRoom_ok hroom
  repeat' split at h
  all_goals first
    | cases h
      done
    | cases h
      exact ⟨_, rfl⟩

end TechnocoreClient
