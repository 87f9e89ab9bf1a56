/-
# Which exceptions the pure functions raise

`Raises P r` says that whatever `r` raises satisfies `P`.

* `loads_raises`     : `json.loads` raises its four own exceptions and those of its hook;
* `native_create`, `native_parseCommand`, `native_appendRecord`, … : the functions that
  handle a message never raise a `TransportError`, which the poll loop would take for a
  failed read.
-/
import SafeAgent.Responder

open PyText

/-- Whatever the function raises satisfies `P`. -/
def Raises {α : Type} (P : PyErr → Prop) (r : PyResult α) : Prop := ∀ e, r = .error e → P e

section Raises

variable {α β : Type} {P : PyErr → Prop}

@[simp] theorem raises_ok (a : α) : Raises P (.ok a : PyResult α) := by
  rintro e ⟨⟩

@[simp] theorem raises_pure (a : α) : Raises P (pure a : PyResult α) := raises_ok a

@[simp] theorem raises_error (e : PyErr) : Raises P (.error e : PyResult α) ↔ P e :=
  ⟨fun h => h e rfl, by rintro h _ ⟨⟩; exact h⟩

theorem raises_bind {x : PyResult β} {f : β → PyResult α} (hx : Raises P x)
    (hf : ∀ b, x = .ok b → Raises P (f b)) : Raises P (x >>= f) := by
  cases x with
  | error e => exact (raises_error e).mpr (hx e rfl)
  | ok b => exact hf b rfl

theorem raises_map {x : PyResult β} {f : β → α} (hx : Raises P x) : Raises P (f <$> x) := by
  cases x with
  | error e => exact (raises_error e).mpr (hx e rfl)
  | ok b => exact raises_ok (f b)

theorem raises_ite {c : Prop} [Decidable c] {a b : PyResult α} (ha : Raises P a)
    (hb : Raises P b) : Raises P (if c then a else b) := by
  split_ifs
  · exact ha
  · exact hb

end Raises

/-! ## `json.loads` -/

namespace Json

variable {P : PyErr → Prop}

/-- The exceptions that the scanner raises on its own. -/
structure ScannerErrors (P : PyErr → Prop) : Prop where
  decode : ∀ message, P (decodeError message)
  tooLong : P intTooLong
  tooDeep : P nestedTooDeep
  utf8 : P (.of .unicodeDecodeError "codec can't decode bytes")

theorem scanString_raises (hP : ScannerErrors P) (fuel : ℕ) (s : PyStr) :
    Raises P (scanString fuel s) := by
  have hchar : ∀ s, Raises P (scanChar s) := by
    intro s e he
    unfold scanChar at he
    repeat' split at he
    all_goals first
      | cases he
        done
      | cases he
        exact hP.decode _
  induction fuel generalizing s with
  | zero => exact (raises_error _).mpr (hP.decode _)
  | succ fuel ih =>
      intro e he
      rw [scanString] at he
      split at he
      · rename_i e' h
        cases he
        exact hchar s _ h
      · cases he
      · rename_i c rest _
        split at he
        · rename_i e' h
          cases he
          exact ih rest _ h
        · cases he

theorem scanNumber_raises (hP : ScannerErrors P) (r : JsonReader) (s : PyStr) :
    Raises P (scanNumber r s) := by
  intro e he
  unfold scanNumber at he
  -- no number there, or one with too many digits
  repeat' split at he
  all_goals cases he
  · exact hP.decode _
  · exact hP.tooLong

/-- The three mutually recursive scanners, by induction on the fuel. -/
theorem parse_raises (hP : ScannerErrors P) {r : JsonReader}
    (hook : ∀ fields, Raises P (r.objectHook fields)) (fuel : ℕ) :
    (∀ depth s, Raises P (parseValue r fuel depth s)) ∧
      (∀ depth s, Raises P (parseItems r fuel depth s)) ∧
      ∀ depth s, Raises P (parseMembers r fuel depth s) := by
  induction fuel with
  | zero =>
      simp only [parseValue, parseItems, parseMembers, raises_error]
      exact ⟨fun _ _ => hP.tooDeep, fun _ _ => hP.tooDeep, fun _ _ => hP.tooDeep⟩
  | succ fuel ih =>
      obtain ⟨hvalue, hitems, hmembers⟩ := ih
      refine ⟨fun depth s => ?_, fun depth s => ?_, fun depth s => ?_⟩
      · unfold parseValue
        split
        · exact (raises_error _).mpr (hP.decode _)
        · rename_i c rest
          split_ifs
          · exact raises_bind (scanString_raises hP _ _) fun _ _ => raises_ok _
          · split
            · exact (raises_error _).mpr hP.tooDeep
            · split
              · exact raises_bind (hook _) fun _ _ => raises_ok _
              · exact raises_bind (hmembers _ _) fun _ _ =>
                  raises_bind (hook _) fun _ _ => raises_ok _
          · split
            · exact (raises_error _).mpr hP.tooDeep
            · split
              · exact raises_ok _
              · exact raises_bind (hitems _ _) fun _ _ => raises_ok _
          · split
            · exact raises_ok _
            · exact scanNumber_raises hP r _
      · unfold parseItems
        refine raises_bind (hvalue _ _) ?_
        rintro ⟨v, rest⟩ -
        dsimp only
        split
        · exact raises_ok _
        · exact raises_bind (hitems _ _) fun _ _ => raises_ok _
        · exact (raises_error _).mpr (hP.decode _)
      · unfold parseMembers
        split
        · refine raises_bind (scanString_raises hP _ _) ?_
          rintro ⟨key, rest⟩ -
          dsimp only
          split
          · refine raises_bind (hvalue _ _) ?_
            rintro ⟨v, rest2⟩ -
            dsimp only
            split
            · exact raises_ok _
            · exact raises_bind (hmembers _ _) fun _ _ => raises_ok _
            · exact (raises_error _).mpr (hP.decode _)
          · exact (raises_error _).mpr (hP.decode _)
        · exact (raises_error _).mpr (hP.decode _)

/-- **What `json.loads` raises**: its own exceptions, or those of its hook. -/
theorem loadsStr_raises (hP : ScannerErrors P) {r : JsonReader}
    (hook : ∀ fields, Raises P (r.objectHook fields)) (text : PyStr) :
    Raises P (loadsStr r text) := by
  intro e he
  unfold loadsStr at he
  split at he
  · cases he
    exact hP.decode _
  · split at he
    · rename_i h
      cases he
      exact (parse_raises hP hook _).1 _ _ _ h
    · split_ifs at he
      cases he
      exact hP.decode _

theorem loads_raises (hP : ScannerErrors P) {r : JsonReader}
    (hook : ∀ fields, Raises P (r.objectHook fields)) (raw : Bytes) : Raises P (loads r raw) := by
  unfold loads
  split
  · exact (raises_error _).mpr hP.utf8
  · exact loadsStr_raises hP hook _

end Json

/-! ## The functions of a live process -/

/-- An exception that is not the client's own `TransportError`. -/
def Native (e : PyErr) : Prop := e.cls ≠ .transportError

instance (e : PyErr) : Decidable (Native e) := inferInstanceAs (Decidable (e.cls ≠ _))

theorem Native.not_isa {e : PyErr} (h : Native e) : e.isa .transportError = false := by
  unfold Native at h
  unfold PyErr.isa
  revert h
  cases e.cls <;> simp [ErrClass.isa]

@[simp] theorem native_of {cls : ErrClass} {message : String} :
    Native (.of cls message) ↔ cls ≠ .transportError := Iff.rfl

theorem native_scanner : Json.ScannerErrors Native where
  decode _ := by simp [Json.decodeError]
  tooLong := by decide
  tooDeep := by decide
  utf8 := by decide

theorem native_rejectDuplicateKeys {error : PyErr} (h : Native error) (fields : JsonFields) :
    Raises Native (Json.rejectDuplicateKeys error fields) :=
  raises_ite (raises_ok _) ((raises_error _).mpr h)

section Errors

variable {message : String}

@[simp] theorem native_stateError : Native (AgentState.stateError message) := by
  simp [AgentState.stateError]

@[simp] theorem native_deliveryError : Native (deliveryError message) := by simp [deliveryError]

@[simp] theorem native_auditError : Native (auditError message) := by simp [auditError]

@[simp] theorem native_capabilityError : Native (capabilityError message) := by
  simp [capabilityError]

@[simp] theorem native_responseError : Native (Protocol.responseError message) := by
  simp [Protocol.responseError]

@[simp] theorem native_uncertainWrite : Native (uncertainWrite message) := by simp [uncertainWrite]

@[simp] theorem native_intTooLong : Native Json.intTooLong := by decide

@[simp] theorem native_nonceError : Native Crypto.nonceError := by decide

end Errors

/-! ### Identifiers and text -/

theorem native_validateDid (did : PyStr) : Raises Native (Crypto.validateDid did) :=
  raises_ite (raises_ok _) (by simp)

theorem native_validateRoom (room : PyStr) : Raises Native (Crypto.validateRoom room) :=
  raises_ite (raises_ok _) (by simp)

theorem native_validateNonce (nonce : Json) : Raises Native (Crypto.validateNonce nonce) := by
  unfold Crypto.validateNonce
  split
  · exact raises_ite (raises_ok _) (by simp)
  · exact raises_ite (raises_ite (raises_ok _) (by simp)) (by simp)
  · simp

theorem native_fingerprintOfDid (did : PyStr) : Raises Native (Crypto.fingerprintOfDid did) := by
  refine raises_bind (native_validateDid did) fun _ _ => ?_
  split <;> simp

theorem native_sha256 (value : PyStr) : Raises Native (DeliveryRecord.sha256 value) := by
  unfold DeliveryRecord.sha256
  split <;> simp

theorem native_roomMessageOctets (room nonce text : PyStr) :
    Raises Native (Crypto.roomMessageOctets room nonce text) := by
  unfold Crypto.roomMessageOctets
  split <;> simp

theorem native_canonicalJson (v : Json) : Raises Native (Audit.canonicalJson v) := by
  refine raises_bind (raises_ite (raises_ok _) (by simp)) fun _ _ => ?_
  split <;> simp

theorem native_entryHash (wrapper : Json) : Raises Native (Audit.entryHash wrapper) :=
  raises_bind (native_canonicalJson wrapper) fun _ _ => raises_ok _

/-! ### The state -/

theorem native_advanceCursor (s : AgentState) (room : PyStr) (sequence : ℕ) :
    Raises Native (s.advanceCursor room sequence) :=
  raises_ite (by simp) (raises_ok _)

theorem native_nextNonce (s : AgentState) (room : PyStr) (clockValue : ℤ) :
    Raises Native (s.nextNonce room clockValue) :=
  raises_ite (by simp) (raises_ite (by simp) (raises_ok _))

theorem native_capabilityRequestCount (s : AgentState) (did : PyStr) (now window : ℕ) :
    Raises Native (s.capabilityRequestCount did now window) :=
  raises_ite (by simp) (raises_ok _)

theorem native_reserveCapabilityRequest (s : AgentState) (did : PyStr) (now window : ℕ) :
    Raises Native (s.reserveCapabilityRequest did now window) :=
  raises_ite (by simp) (raises_ite (by simp) (raises_ok _))

section Signing

variable [Platform]

theorem native_sweepText (text : PyStr) : Raises Native (Crypto.sweepText text) :=
  raises_ite (by simp) (raises_ite (by simp) (raises_ok _))

theorem native_signDetached (key : Platform.PrivateKey) (payload : Bytes) :
    Raises Native (Crypto.signDetached key payload) :=
  raises_ite (raises_ok _) (by simp)

theorem native_didFromPrivateKey (key : Platform.PrivateKey) :
    Raises Native (Crypto.didFromPrivateKey key) :=
  raises_ite (raises_ok _) (by simp)

theorem native_signRoomMessage (key : Platform.PrivateKey) (room : PyStr) (nonce : Json)
    (text : PyStr) : Raises Native (Crypto.signRoomMessage key room nonce text) :=
  raises_bind (native_validateRoom _) fun _ _ =>
    raises_bind (native_validateNonce _) fun _ _ =>
      raises_bind (native_sweepText _) fun _ _ =>
        raises_bind (native_roomMessageOctets _ _ _) fun _ _ =>
          raises_bind (native_signDetached _ _) fun _ _ => raises_ok _

end Signing

/-! ### The journal record -/

section Record

open DeliveryRecord

theorem native_positiveInt (value : Json) (label : String) :
    Raises Native (positiveInt value label) := by
  unfold positiveInt
  split
  · exact raises_ite (raises_ok _) (by simp)
  · simp

theorem native_checkDigest (value : Json) (label : String) :
    Raises Native (checkDigest value label) := by
  unfold checkDigest
  split
  · exact raises_ite (raises_ok _) (by simp)
  · simp

theorem native_checkSignature (value : Json) : Raises Native (checkSignature value) := by
  unfold checkSignature
  split
  · exact raises_ite (raises_ok _) (by simp)
  · simp

theorem native_checkDid (value : Json) : Raises Native (checkDid value) := by
  unfold checkDid
  split <;> simp

theorem native_nonceAsInt (value : Json) : Raises Native (nonceAsInt value) := by
  unfold nonceAsInt
  split
  · simp
  · split
    · simp
    · rename_i e h
      exact raises_ite (by simp) ((raises_error _).mpr (native_validateNonce _ e h))

theorem native_checkStatus (value : Json) : Raises Native (checkStatus value) := by
  unfold checkStatus
  split
  · simp
  · simp
  · exact raises_ite (raises_ok _) (raises_ite (raises_ok _) (by simp))

theorem native_checkReply (status : DeliveryStatus) (value : Json) :
    Raises Native (checkReply status value) := by
  unfold checkReply
  split
  · split <;> simp
  · exact raises_map (native_positiveInt _ _)

theorem native_assemble (status : DeliveryStatus) (roomSha256 : PyStr) (input : ℕ) (did : PyStr)
    (nonce : ℕ) (text textSha256 signature : PyStr) (reply : Option ℕ) :
    Raises Native (assemble status roomSha256 input did nonce text textSha256 signature reply) := by
  unfold assemble
  split_ifs <;> simp

theorem native_acknowledge (r : DeliveryRecord) (n : ℕ) : Raises Native (r.acknowledge n) := by
  unfold DeliveryRecord.acknowledge
  split_ifs <;> simp

variable [Platform]

theorem native_exactSweptText (value : Json) : Raises Native (exactSweptText value) := by
  unfold exactSweptText
  split
  · simp
  · split
    · simp
    · exact raises_ite (raises_ok _) (by simp)

theorem native_verifyForRoom (r : DeliveryRecord) (room : PyStr) :
    Raises Native (r.verifyForRoom room) :=
  raises_bind (native_validateRoom _) fun _ _ =>
    raises_bind (native_sha256 _) fun _ _ =>
      raises_ite (by simp) (raises_bind (native_roomMessageOctets _ _ _) fun _ _ =>
        raises_ite (raises_ok _) (by simp))

theorem native_create (room : PyStr) (input : ℕ) (envelope : Envelope) :
    Raises Native (create room input envelope) :=
  raises_bind (native_validateRoom _) fun _ _ =>
    raises_bind (native_sha256 _) fun _ _ =>
      raises_bind (native_positiveInt _ _) fun _ _ =>
        raises_bind (native_validateDid _) fun _ _ =>
          raises_bind (native_nonceAsInt _) fun _ _ =>
            raises_bind (native_exactSweptText _) fun _ _ =>
              raises_bind (native_sha256 _) fun _ _ =>
                raises_bind (native_checkSignature _) fun _ _ =>
                  raises_bind (native_assemble _ _ _ _ _ _ _ _ _) fun _ _ =>
                    raises_bind (native_verifyForRoom _ _) fun _ _ => raises_ok _

theorem native_deliveryFromPayload (payload : Json) : Raises Native (fromPayload payload) := by
  unfold fromPayload
  split
  · simp
  · refine raises_ite (by simp) (raises_ite (by simp) ?_)
    exact raises_bind (native_checkStatus _) fun _ _ =>
      raises_bind (native_checkDigest _ _) fun _ _ =>
        raises_bind (native_checkDigest _ _) fun _ _ =>
          raises_bind (native_exactSweptText _) fun _ _ =>
            raises_bind (native_sha256 _) fun _ _ =>
              raises_ite (by simp) (raises_bind (native_checkReply _ _) fun _ _ =>
                raises_bind (native_positiveInt _ _) fun _ _ =>
                  raises_bind (native_checkDid _) fun _ _ =>
                    raises_bind (native_nonceAsInt _) fun _ _ =>
                      raises_bind (native_checkSignature _) fun _ _ =>
                        native_assemble _ _ _ _ _ _ _ _ _)

end Record

/-! ### The policy -/

section Policy

open Capabilities

theorem native_checkCommands (items : List Json) (checked : List Command) :
    Raises Native (checkCommands items checked) := by
  induction items generalizing checked with
  | nil => exact raises_ok _
  | cons item rest ih =>
      rw [checkCommands]
      split
      · simp
      · exact raises_ite (by simp) (ih _)

theorem native_repositoryScope (value : Json) : Raises Native (repositoryScope value) := by
  unfold repositoryScope
  split
  · simp
  · exact raises_ite (by simp)
      (raises_ite (by simp) (raises_ite (by simp) (raises_ok _)))

theorem native_checkScopes (items : List Json) (checked : List PyStr) :
    Raises Native (checkScopes items checked) := by
  induction items generalizing checked with
  | nil => exact raises_ok _
  | cons item rest ih =>
      exact raises_bind (native_repositoryScope item) fun _ _ => raises_ite (by simp) (ih _)

theorem native_parseGrant (payload : Json) : Raises Native (parseGrant payload) := by
  have hcommands : ∀ value, Raises Native (commands value) := fun value => by
    unfold commands
    split
    · simp
    · exact native_checkCommands _ _
  have hscopes : ∀ value, Raises Native (repositoryScopes value) := fun value => by
    unfold repositoryScopes
    split
    · simp
    · exact native_checkScopes _ _
  unfold parseGrant
  split
  · simp
  · refine raises_ite (by simp) ?_
    split
    · refine raises_bind (hcommands _) fun _ _ => raises_bind (hscopes _) fun _ _ => ?_
      refine raises_ite (by simp) (raises_ite (by simp) (raises_ite (by simp) ?_))
      split
      · simp
      · split_ifs <;> simp
    · simp

theorem native_checkItems {β : Type} {check : PyStr → Json → PyResult β}
    (h : ∀ key item, Raises Native (check key item)) (fields : JsonFields) (d : PyDict β) :
    Raises Native (Json.checkItems check fields d) := by
  induction fields generalizing d with
  | nil => exact raises_ok _
  | cons field rest ih => exact raises_bind (h _ _) fun _ _ => ih _

theorem native_parsePolicy (payload : Json) : Raises Native (parsePolicy payload) := by
  have hprincipal : ∀ did grant, Raises Native (checkPrincipal did grant) := fun did grant => by
    unfold checkPrincipal
    split
    · simp
    · exact native_parseGrant _
  unfold parsePolicy
  split
  · simp
  · refine raises_ite (by simp) (raises_ite (by simp) ?_)
    split
    · simp
    · exact raises_ite (by simp)
        (raises_bind (native_checkItems hprincipal _ _) fun _ _ => raises_ok _)

variable [Platform]

theorem native_policyOfFile (info : FileMeta) (raw : Bytes) :
    Raises Native (policyOfFile info raw) := by
  refine raises_ite (by simp) (raises_ite (by simp) (raises_ite (by simp) (raises_ite (by simp) ?_)))
  refine raises_bind ?_ fun _ _ => native_parsePolicy _
  unfold decodeJson
  split
  · simp
  · rename_i e h
    refine raises_ite (by simp) ((raises_error _).mpr ?_)
    exact Json.loads_raises native_scanner (native_rejectDuplicateKeys (by simp)) raw e h

theorem native_parseCommand (name : Command) (text : PyStr) :
    Raises Native (Policy.parseCommand name text) := by
  unfold Policy.parseCommand
  split
  · simp
  · split
    · simp
    · rename_i e h
      refine raises_ite (raises_ok _) ((raises_error _).mpr ?_)
      rcases Receipt.parse_cases (removePrefix (py "/pr ") text) with
        ⟨-, m, hp⟩ | ⟨-, e', hsplit, hp⟩ | ⟨-, _, -, -, m, hp⟩ |
          ⟨-, _, _, _, _, -, -, ⟨-, hp⟩ | ⟨-, -, m, hp⟩ | ⟨-, -, ref, hp, -⟩⟩
      · rw [hp] at h
        cases h
        simp [Native, Receipt.invalidUrl]
      · rw [hp] at h
        cases h
        simp [Native, Url.urlsplit_error hsplit]
      · rw [hp] at h
        cases h
        simp [Native, Receipt.invalidUrl]
      · rw [hp] at h
        cases h
        simp
      · rw [hp] at h
        cases h
        simp [Native, Receipt.invalidUrl]
      · rw [hp] at h
        cases h

end Policy

/-! ### The audit log -/

section Audit

open Audit

theorem native_auditPositiveInt (value : Json) (label : String) :
    Raises Native (Audit.positiveInt value label) := by
  unfold Audit.positiveInt
  split
  · exact raises_ite (raises_ok _) (by simp)
  · simp

theorem native_checkSha256 (value : Json) (label : String) :
    Raises Native (checkSha256 value label) := by
  unfold checkSha256
  split
  · exact raises_ite (raises_ok _) (by simp)
  · simp

theorem native_auditCheckDid (value : Json) : Raises Native (Audit.checkDid value) := by
  unfold Audit.checkDid
  split <;> simp

theorem native_inNames (value : Json) (names : List PyStr) :
    Raises Native (Json.inNames value names) := by
  unfold Json.inNames
  split <;> simp

theorem native_unlessNone {α : Type} {value : Json} {check : PyResult α}
    (h : Raises Native check) : Raises Native (unlessNone value check) := by
  refine raises_ite (raises_ok _) ?_
  split
  · simp
  · exact (raises_error _).mpr (h _ rfl)

theorem native_validateDecision (payload : JsonFields) :
    Raises Native (validateDecision payload) :=
  raises_bind (native_inNames _ _) fun _ _ =>
    raises_ite (by simp) (raises_ite (by simp) (raises_bind (native_inNames _ _) fun _ _ =>
      raises_ite (by simp) (raises_bind (native_unlessNone (native_checkSha256 _ _)) fun _ _ =>
        raises_bind (native_unlessNone (native_auditPositiveInt _ _)) fun _ _ =>
          raises_ite (raises_ok _) (by simp))))

theorem native_checkAccess (info : FileMeta) : Raises Native (checkAccess info) :=
  raises_ite (by simp) (raises_ite (by simp) (raises_ok _))

theorem native_senderFingerprint (message : RoomMessage) :
    Raises Native (SafeResponder.senderFingerprint message) :=
  raises_ite (raises_map (native_fingerprintOfDid _)) (raises_ok _)

theorem native_validateSender (payload : JsonFields) : Raises Native (validateSender payload) := by
  unfold validateSender
  split
  · refine raises_ite (raises_ite (raises_ok _) (by simp)) ?_
    split <;> simp
  · simp

variable [Platform]

theorem native_validatePayload (payload : JsonFields) :
    Raises Native (validatePayload payload) := by
  have htime : ∀ value, Raises Native (checkTimestamp value) := fun value => by
    unfold checkTimestamp
    split
    · exact raises_ite (raises_ok _) (by simp)
    · simp
  exact raises_ite (by simp) (raises_bind (native_auditPositiveInt _ _) fun _ _ =>
    raises_bind (native_auditPositiveInt _ _) fun _ _ =>
      raises_bind (native_auditCheckDid _) fun _ _ =>
        raises_bind (htime _) fun _ _ =>
          raises_bind (native_checkSha256 _ _) fun _ _ =>
            raises_bind (native_validateSender _) fun _ _ => native_validateDecision _)

theorem native_verifyWrapperSignature (wrapper payload : JsonFields) :
    Raises Native (verifyWrapperSignature wrapper payload) := by
  refine raises_bind (native_canonicalJson _) fun _ _ => raises_ite (by simp) ?_
  split
  · simp
  · refine raises_ite (by simp) ?_
    split
    · simp
    · exact raises_ite (raises_ok _) (by simp)

theorem native_verifyRecord (record : Json) (n : ℕ) (previous : PyStr) (issuer : Option PyStr) :
    Raises Native (verifyRecord record n previous issuer) := by
  unfold verifyRecord
  split
  · simp
  · refine raises_ite (by simp) ?_
    split
    · simp
    · refine raises_bind (native_validatePayload _) fun _ _ => ?_
      refine raises_ite (by simp) (raises_ite (by simp) ?_)
      refine raises_bind (native_auditCheckDid _) fun _ _ => raises_ite (by simp) ?_
      exact raises_bind (native_verifyWrapperSignature _ _) fun _ _ =>
        raises_bind (native_entryHash _) fun _ _ => raises_ok _

theorem native_verifyBytes (raw : Bytes) : Raises Native (verifyBytes raw) := by
  have hdecode : ∀ raw, Raises Native (Audit.decodeJson raw) := fun raw => by
    unfold Audit.decodeJson
    split
    · simp
    · rename_i e h
      refine raises_ite (by simp) ((raises_error _).mpr ?_)
      exact Json.loads_raises native_scanner (native_rejectDuplicateKeys (by simp)) raw e h
  have hlines : ∀ lines summary, Raises Native (verifyLines lines summary) := by
    intro lines
    induction lines with
    | nil => exact fun _ => raises_ok _
    | cons line rest ih =>
        refine fun summary => raises_bind ?_ fun _ _ => ih _
        exact raises_ite (by simp) (raises_bind (hdecode _) fun _ _ => native_verifyRecord _ _ _ _)
  exact raises_ite (raises_ok _) (raises_ite (by simp) (hlines _ _))

theorem native_appendRecord (key : Platform.PrivateKey) (issuer : PyStr) (args : AuditArgs)
    (raw : Bytes) : Raises Native (appendRecord key issuer args raw) := by
  have htime : Raises Native (formatTimestamp args.observedAt) := by
    unfold formatTimestamp
    split <;> simp
  exact raises_bind (native_verifyBytes _) fun _ _ =>
    raises_ite (by simp) (raises_bind htime fun _ _ =>
      raises_bind (native_validatePayload _) fun _ _ =>
        raises_bind (native_canonicalJson _) fun _ _ =>
          raises_bind (native_signDetached _ _) fun _ _ =>
            raises_bind (native_canonicalJson _) fun _ _ =>
              raises_ite (by simp) (raises_ite (by simp)
                (raises_bind (native_entryHash _) fun _ _ => raises_ok _)))

theorem native_appendIssuer (key : Platform.PrivateKey) (issuer : PyStr) :
    Raises Native (appendIssuer key issuer) :=
  raises_bind (native_auditCheckDid _) fun _ _ =>
    raises_bind (native_didFromPrivateKey _) fun _ _ => raises_ite (by simp) (raises_ok _)

end Audit
