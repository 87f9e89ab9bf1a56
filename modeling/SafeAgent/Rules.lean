/-
# Rules for the shared procedures

One rule for each procedure that results meet more than once, in the style of a weakest
precondition: what must hold at the worlds it can be cut in, at its end, and where it
raises.  Each is proved for an arbitrary invariant `I`, so every development over the
world uses the same ones.

* `wp_saveState`, `wp_loadState`               : the state file;
* `wp_journal_load`, `_prepare`, `_acknowledge`, `_clear` : the delivery journal;
* `wp_readRoom`, `wp_sendSignedMessage`        : the two requests;
* `Clocked`                                    : an environment whose clock shows certain times;
* `wp_allow`, `wp_decide`                      : the policy, which may reserve and save;
* `wp_audit_append`                            : the audit log, which only grows.
-/
import SafeAgent.Raises
import SafeAgent.World

open PyText

namespace World

/-- The world after the object was saved. -/
def saved (w : World) (s : AgentState) : World := { w with stateDoc := some (.ok s.toPayload) }

/-- The world whose journal holds a record, or nothing. -/
def withJournal (w : World) (record : Option DeliveryRecord) : World :=
  { w with journalDoc := record.map fun r => .ok r.toPayload }

/-- A request to post: others may have posted, the envelope was handed to the transport,
and the server accepted it or did not. -/
def Posts (w w' : World) (room : PyStr) (envelope : Envelope) (input : ℕ) : Prop :=
  ∃ w₁, w.Others w₁ ∧
    (w' = { w₁ with sent := w₁.sent ++ [(room, envelope)] } ∨
      w' = { w₁.accept room envelope input with sent := w₁.sent ++ [(room, envelope)] })

/-- The audit file has grown; nothing else changed. -/
def AuditGrows (w w' : World) : Prop :=
  w' = { w with auditFile := w'.auditFile } ∧
    ∃ more, w'.auditFile.getD [] = w.auditFile.getD [] ++ more

/-- An `append` is under way or over: what it has written is a part of the next record. -/
def Appending [Platform] (w w' : World) (key : Platform.PrivateKey) (issuerDid : PyStr)
    (args : AuditArgs) : Prop :=
  w' = { w with auditFile := w'.auditFile } ∧
    ∃ part, w'.auditFile.getD [] = w.auditFile.getD [] ++ part ∧
      (part = [] ∨ ∃ issuer rendered hash, Audit.appendIssuer key issuerDid = .ok issuer ∧
        Audit.appendRecord key issuer args (w.auditFile.getD []) = .ok (rendered, hash) ∧
        part <+: rendered)

/-- The journal file holds a record that loads. -/
def Loads [Platform] (w : World) (record : DeliveryRecord) : Prop :=
  ∃ j, w.journalDoc = some (.ok j) ∧ DeliveryRecord.fromPayload j = .ok record

theorem Others.refl {w : World} : w.Others w :=
  ⟨rfl, fun room => ⟨[], by simp, by simp, by simp⟩⟩

/-- The world after the audit file was opened: opening for writing may have created it. -/
def Opened (w w' : World) (write : Bool) : Prop :=
  w' = { w with auditFile := w'.auditFile } ∧
    (w'.auditFile = w.auditFile ∨ (write = true ∧ w.auditFile = none ∧ w'.auditFile = some []))

theorem Appending.grows [Platform] {w w' : World} {key : Platform.PrivateKey} {issuerDid : PyStr}
    {args : AuditArgs} (h : w.Appending w' key issuerDid args) : w.AuditGrows w' :=
  ⟨h.1, h.2.imp fun _ hpart => hpart.1⟩

theorem Opened.appending [Platform] {w w' : World} {write : Bool} (h : w.Opened w' write)
    (key : Platform.PrivateKey) (issuerDid : PyStr) (args : AuditArgs) :
    w.Appending w' key issuerDid args := by
  refine ⟨h.1, [], ?_, .inl rfl⟩
  rcases h.2 with hsame | ⟨-, hnone, hempty⟩
  · simp [hsame]
  · simp [hnone, hempty]

theorem Opened.eq {w w' : World} (h : w.Opened w' false) : w' = w := by
  rcases h.2 with hsame | ⟨hwrite, -⟩
  · rw [h.1, hsame]
  · cases hwrite

end World

section Clocked

variable [Platform]

/-- An environment that allows no more than `World.step`, and in which the clock shows only times
of `Shown`. -/
structure Clocked (H : World → (o : Op) → Except PyErr o.Val → World → Prop) (Shown : ℕ → Prop) :
    Prop where
  step : ∀ w o r w', H w o r w' → w.step o r w'
  shown : ∀ w now w', H w .rateClock (.ok (some now)) w' → Shown now

theorem clocked_step : Clocked World.step fun _ => True :=
  ⟨fun _ _ _ _ h => h, fun _ _ _ _ => trivial⟩

theorem clocked_atReading (reading : Except PyErr (Option ℕ)) :
    Clocked (AtReading reading) fun now => reading = .ok (some now) :=
  ⟨fun _ _ _ _ h => h.1, fun _ _ _ h => h.2.symm⟩

end Clocked

namespace Agent

open Proc

variable [Platform] {I : World → Prop} {s : AgentState} {w : World}

section Basic

variable {α : Type} {Q : α → AgentState → World → Prop} {E : PyErr → AgentState → World → Prop}

/-- An operation that leaves the world as it is. -/
theorem wp_read {o : Op} {Q : o.Val → AgentState → World → Prop}
    (ho : ∀ r w', w.effect o r w' → w' = w) (hI : I w)
    (hQ : ∀ a, w.effect o (.ok a) w → Q a s w) (hE : ∀ e, Native e → E e s w) :
    Wp World.step I (perform o) Q E s w := by
  rw [wp_call]
  refine ⟨hI, fun r w' hstep => ?_⟩
  obtain rfl := ho r w' hstep.1
  cases r with
  | ok a => exact ⟨hI, hQ a hstep.1⟩
  | error e => exact ⟨hI, hE e (hstep.2 e rfl)⟩

/-- An operation that leaves the world as it is, and whose answer does not matter. -/
theorem wp_inert {o : Op} {Q : o.Val → AgentState → World → Prop}
    (ho : ∀ r w', w.effect o r w' → w' = w) (hI : I w) (hQ : ∀ a, Q a s w)
    (hE : ∀ e, Native e → E e s w) : Wp World.step I (perform o) Q E s w :=
  wp_read ho hI (fun a _ => hQ a) hE

/-- A pure function that raises only native exceptions. -/
theorem wp_pureResult {r : PyResult α} (hr : Raises Native r) (hI : I w)
    (hQ : ∀ a, r = .ok a → Q a s w) (hE : ∀ e, Native e → E e s w) :
    Wp World.step I (Proc.ofExcept r) Q E s w := by
  rw [wp_ofExcept]
  refine ⟨hI, ?_⟩
  cases r with
  | ok a => exact hQ a rfl
  | error e => exact hE e (hr e rfl)

/-- A handler that turns every native exception into a native exception. -/
theorem wp_rethrow {m : Agent α} {f : PyErr → PyErr}
    (hm : Wp World.step I m Q (fun e s' w' => E (f e) s' w') s w) :
    Wp World.step I (tryCatch m fun e => throw (f e)) Q E s w := by
  rw [wp_tryCatch]
  refine hm.mono (fun _ _ _ _ h => h) fun e s' w' hI h => ?_
  rw [wp_throw]
  exact ⟨hI, h⟩

omit [Platform] in
theorem exceptReadError_eq (wrap : PyErr → PyErr) (m : Agent α) :
    exceptReadError wrap m =
      tryCatch m fun e =>
        throw (if e.isa .osError || e.isa .jsonDecodeError then wrap e else e) := by
  unfold exceptReadError
  congr 1
  funext e
  split_ifs <;> rfl

omit [Platform] in
theorem exceptOSError_eq (wrap : PyErr → PyErr) (m : Agent α) :
    exceptOSError wrap m =
      tryCatch m fun e => throw (if e.isa .osError then wrap e else e) := by
  unfold exceptOSError
  congr 1
  funext e
  split_ifs <;> rfl

/-- `except OSError`, where the replacement is native. -/
theorem wp_exceptOSError {wrap : PyErr → PyErr} {m : Agent α} (hwrap : ∀ e, Native (wrap e))
    (hm : Wp World.step I m Q (fun e s' w' => ∀ e', (Native e → Native e') → E e' s' w') s w) :
    Wp World.step I (exceptOSError wrap m) Q E s w := by
  rw [exceptOSError_eq]
  refine wp_rethrow (hm.mono (fun _ _ _ _ h => h) fun e s' w' _ h => h _ fun he => ?_)
  split_ifs
  · exact hwrap e
  · exact he

/-- `except (OSError, json.JSONDecodeError)`, where the replacement is native. -/
theorem wp_exceptReadError {wrap : PyErr → PyErr} {m : Agent α} (hwrap : ∀ e, Native (wrap e))
    (hm : Wp World.step I m Q (fun e s' w' => ∀ e', (Native e → Native e') → E e' s' w') s w) :
    Wp World.step I (exceptReadError wrap m) Q E s w := by
  rw [exceptReadError_eq]
  refine wp_rethrow (hm.mono (fun _ _ _ _ h => h) fun e s' w' _ h => h _ fun he => ?_)
  split_ifs
  · exact hwrap e
  · exact he

end Basic

/-! ## The atomic write -/

section WriteDoc

variable {f : DocFile} {content : Json} {wrap : PyErr → PyErr} {settle : Agent Unit}
  {Q : Unit → AgentState → World → Prop} {E : PyErr → AgentState → World → Prop}

/-- The temporary file is removed, and the exception raised again. -/
theorem wp_removingTemporary {m : Agent Unit}
    (hm : Wp World.step I m Q
      (fun e s' w' => Native e ∧ ∀ e', Native e' → E e' s' w') s w) :
    Wp World.step I (removingTemporary f m) Q E s w := by
  unfold removingTemporary
  rw [wp_tryCatch]
  refine hm.mono (fun _ _ _ _ h => h) ?_
  rintro e s' w' hI ⟨he, hE⟩
  rw [wp_bind, wp_tryCatch]
  refine wp_inert (fun _ _ h => h) hI (fun _ => ?_) fun e' he' => ?_
  · rw [wp_throw]
    exact ⟨hI, hE e he⟩
  · split_ifs
    · rw [wp_pure, wp_throw]
      exact ⟨hI, hI, hE e he⟩
    · rw [wp_throw]
      exact ⟨hI, hE e' he'⟩

/-- **The atomic write.**  The file changes at one point, from its old content to the new
one; an exception may be raised on either side of it. -/
theorem wp_writeDoc (hwrap : ∀ e, Native (wrap e)) (hI : I w)
    (hI' : Json.intsFit content = true → I (w.setDoc f (some (.ok content))))
    (hE : ∀ e, Native e → E e s w)
    (hsettle : Json.intsFit content = true → Wp World.step I settle Q
      (fun e s' w' => ∀ e', (Native e → Native e') → E e' s' w')
      s (w.setDoc f (some (.ok content)))) :
    Wp World.step I (writeDoc f content wrap settle) Q E s w := by
  unfold writeDoc
  rw [wp_bind]
  refine wp_inert (fun _ _ h => h) hI (fun _ => ?_) hE
  rw [wp_bind]
  refine wp_exceptOSError hwrap (wp_inert (fun _ _ h => h) hI (fun _ => ?_)
    fun e he e' he' => hE e' (he' he))
  rw [wp_bind]
  refine wp_removingTemporary (wp_exceptOSError hwrap ?_)
  have hraise : ∀ e, Native e → ∀ e', (Native e → Native e') →
      Native e' ∧ ∀ e'', Native e'' → E e'' s w := fun e he e' he' => ⟨he' he, hE⟩
  have hreplace (hfit : Json.intsFit content = true) : Wp World.step I (perform (.replaceDoc f content))
      (fun _ s' w' => Wp World.step I (exceptOSError wrap settle) Q E s' w')
      (fun e s' w' => ∀ e', (Native e → Native e') →
        Native e' ∧ ∀ e'', Native e'' → E e'' s' w') s w := by
    rw [wp_call]
    refine ⟨hI, fun r w' hstep => ?_⟩
    rcases hstep.1 with ⟨e, rfl, rfl⟩ | ⟨rfl, rfl⟩
    · exact ⟨hI, hraise e (hstep.2 e rfl)⟩
    · exact ⟨hI' hfit, wp_exceptOSError hwrap (hsettle hfit)⟩
  split_ifs with hfit
  · rw [wp_bind]
    exact wp_inert (fun _ _ h => h) hI (fun _ => hreplace hfit) hraise
  · rw [wp_throw]
    exact ⟨hI, hraise _ (by decide)⟩

end WriteDoc

/-! ## The state file -/

section StateFile

variable {E : PyErr → AgentState → World → Prop}

/-- Saving puts the object in memory into the file, or leaves the file as it is. -/
theorem wp_saveState {Q : Unit → AgentState → World → Prop} (hI : I w) (hI' : I (w.saved s))
    (hQ : Q () s (w.saved s)) (hE : ∀ e, Native e → E e s w)
    (hE' : ∀ e, Native e → E e s (w.saved s)) : Wp World.step I saveState Q E s w := by
  unfold saveState
  rw [wp_bind, wp_get]
  refine ⟨hI, wp_writeDoc (fun e => by simp) hI (fun _ => hI') hE fun _ => ?_⟩
  exact wp_inert (fun _ _ h => h) hI' (fun _ => hQ) fun e he e' he' => hE' e' (he' he)

/-- Loading gives a new object, or one that the file's document decodes to. -/
theorem wp_loadState {Q : AgentState → AgentState → World → Prop} (hI : I w)
    (hnone : w.stateDoc = none → Q {} s w)
    (hsome : ∀ j s', w.stateDoc = some (.ok j) → AgentState.fromPayload j = .ok s' → Q s' s w)
    (hE : ∀ e, E e s w) : Wp World.step I loadState Q E s w := by
  unfold loadState
  rw [wp_bind]
  refine wp_read (fun _ _ h => h.1) hI (fun present hpresent => ?_) fun e _ => hE e
  have hdoc := hpresent.2 present rfl
  split_ifs with hif
  · rw [wp_bind]
    refine wp_exceptReadError (fun e => by simp) ?_
    refine wp_read (fun _ _ h => h.1) hI (fun j hj => ?_) fun e _ e' _ => hE e'
    rw [wp_ofExcept]
    refine ⟨hI, ?_⟩
    cases hs : AgentState.fromPayload j with
    | ok s' => exact hsome j s' (hj.2 j rfl) hs
    | error e => exact hE e
  · rw [wp_pure]
    refine ⟨hI, hnone ?_⟩
    simpa [hif, World.doc] using hdoc

end StateFile

/-! ## The journal -/

section Journal

open DeliveryJournal

variable {E : PyErr → AgentState → World → Prop}

theorem wp_journal_load {Q : Option DeliveryRecord → AgentState → World → Prop} (hI : I w)
    (hnone : w.journalDoc = none → Q none s w)
    (hsome : ∀ record, w.Loads record → Q (some record) s w)
    (hE : ∀ e, Native e → E e s w) : Wp World.step I load Q E s w := by
  unfold load
  rw [wp_bind]
  refine wp_read (fun _ _ h => h.1) hI (fun present hpresent => ?_) hE
  have hdoc := hpresent.2 present rfl
  split_ifs with hif
  · rw [wp_bind]
    refine wp_exceptReadError (fun e => by simp) ?_
    rw [wp_bind]
    refine wp_inert (fun _ _ h => h) hI (fun mode => ?_) fun e he e' he' => hE e' (he' he)
    split_ifs
    · rw [wp_throw]
      exact ⟨hI, fun e' he' => hE e' (he' (by simp))⟩
    · refine wp_read (fun _ _ h => h.1) hI (fun j hj => ?_) fun e he e' he' => hE e' (he' he)
      rw [wp_bind]
      refine wp_pureResult (native_deliveryFromPayload j) hI (fun record hrecord => ?_) hE
      exact ⟨hI, hsome record ⟨j, hj.2 j rfl, hrecord⟩⟩
  · rw [wp_pure]
    refine ⟨hI, hnone ?_⟩
    simpa [hif, World.doc] using hdoc

theorem wp_journal_requireEmpty {Q : Unit → AgentState → World → Prop} (hI : I w)
    (hQ : w.journalDoc = none → Q () s w) (hE : ∀ e, Native e → E e s w) :
    Wp World.step I requireEmpty Q E s w := by
  unfold requireEmpty
  rw [wp_bind]
  refine wp_journal_load hI (fun hnone => ?_) (fun record _ => ?_) hE
  · exact ⟨hI, hQ hnone⟩
  · exact ⟨hI, hE _ (by simp)⟩

theorem wp_journal_write {record : DeliveryRecord} {Q : Unit → AgentState → World → Prop}
    (hI : I w) (hE : ∀ e, Native e → E e s w)
    (hwritten : Json.intsFit record.toPayload = true → I (w.withJournal (some record)) ∧
      Q () s (w.withJournal (some record)) ∧
        ∀ e, Native e → E e s (w.withJournal (some record))) :
    Wp World.step I (write record) Q E s w := by
  refine wp_writeDoc (fun e => by simp) hI (fun hfit => (hwritten hfit).1) hE fun hfit => ?_
  obtain ⟨hI', hQ, hE'⟩ := hwritten hfit
  rw [wp_bind]
  refine wp_inert (fun _ _ h => h) hI' (fun _ => ?_) fun e he e' he' => hE' e' (he' he)
  refine wp_exceptOSError (fun e => by simp) ?_
  exact wp_inert (fun _ _ h => h) hI' (fun _ => hQ)
    fun e he e' he' e'' he'' => hE' e'' (he'' (he' he))

/-- A record is prepared only where there is none. -/
theorem wp_journal_prepare {record : DeliveryRecord} {Q : Unit → AgentState → World → Prop}
    (hI : I w) (hI' : w.journalDoc = none → I (w.withJournal (some record)))
    (hQ : w.journalDoc = none → Q () s (w.withJournal (some record)))
    (hE : ∀ e, Native e → E e s w)
    (hE' : w.journalDoc = none → ∀ e, Native e → E e s (w.withJournal (some record))) :
    Wp World.step I (prepare record) Q E s w := by
  unfold prepare
  rw [wp_bind]
  refine wp_read (fun _ _ h => h.1) hI (fun present hpresent => ?_) hE
  have hdoc := hpresent.2 present rfl
  split_ifs with hif
  · exact ⟨hI, hE _ (by simp)⟩
  · have hnone : w.journalDoc = none := by simpa [hif, World.doc] using hdoc
    exact wp_journal_write hI hE fun _ => ⟨hI' hnone, hQ hnone, hE' hnone⟩

/-- The record in the journal is acknowledged. -/
theorem wp_journal_acknowledge {n : ℕ} {Q : DeliveryRecord → AgentState → World → Prop}
    (hI : I w)
    (hI' : ∀ record acked, w.Loads record → record.acknowledge n = .ok acked →
      Json.intsFit acked.toPayload = true →
      I (w.withJournal (some acked)) ∧ Q acked s (w.withJournal (some acked)) ∧
        ∀ e, Native e → E e s (w.withJournal (some acked)))
    (hE : ∀ e, Native e → E e s w) : Wp World.step I (acknowledge n) Q E s w := by
  unfold acknowledge
  rw [wp_bind]
  refine wp_journal_load hI (fun _ => ⟨hI, hE _ (by simp)⟩) (fun record hrecord => ?_) hE
  rw [wp_bind]
  refine wp_pureResult (native_acknowledge record n) hI (fun acked hacked => ?_) hE
  rw [wp_bind]
  refine wp_journal_write hI hE fun hfit => ?_
  obtain ⟨hIa, hQa, hEa⟩ := hI' record acked hrecord hacked hfit
  exact ⟨hIa, ⟨hIa, hQa⟩, hEa⟩

/-- The journal is removed, or, where it is not found, left as it is. -/
theorem wp_journal_clear {Q : Unit → AgentState → World → Prop} (hI : I w)
    (hI' : I (w.withJournal none)) (hQ : Q () s w) (hQ' : Q () s (w.withJournal none))
    (hE : ∀ e, Native e → E e s w) (hE' : ∀ e, Native e → E e s (w.withJournal none)) :
    Wp World.step I clear Q E s w := by
  unfold clear
  rw [wp_bind, wp_tryCatch, wp_bind, wp_call]
  refine ⟨hI, fun r w' hstep => ?_⟩
  rcases hstep.1 with ⟨e, rfl, rfl⟩ | ⟨rfl, rfl⟩
  · have he := hstep.2 e rfl
    refine ⟨hI, ?_⟩
    dsimp only
    split_ifs
    · exact ⟨hI, hI, hQ⟩
    · exact ⟨hI, hE _ (by simp)⟩
    · exact ⟨hI, hE e he⟩
  · refine ⟨hI', hI', wp_exceptOSError (fun e => by simp) ?_⟩
    exact wp_inert (fun _ _ h => h) hI' (fun _ => hQ') fun e he e' he' => hE' e' (he' he)

end Journal

/-! ## Requests -/

section Requests

variable {client : TechnocoreClient} {room : PyStr} {E : PyErr → AgentState → World → Prop}

/-- One exchange, and what `_request_json` makes of it. -/
theorem wp_requestJson {request : HttpRequest} {Q : JsonFields → AgentState → World → Prop}
    (hI : I w) (hI' : ∀ r w', w.effect (.http request) r w' → I w')
    (hQ : ∀ r w' payload, w.effect (.http request) r w' →
      Protocol.requestJson r = .ok payload → Q payload s w')
    (hE : ∀ r w' e, w.effect (.http request) r w' →
      Protocol.requestJson r = .error e → E e s w') :
    Wp World.step I (requestJson request) Q E s w := by
  unfold requestJson
  rw [wp_bind, wp_tryCatch, wp_bind, wp_call]
  refine ⟨hI, fun r w' hstep => ⟨hI' r w' hstep.1, ?_⟩⟩
  have hend : Wp World.step I (Proc.ofExcept (Protocol.requestJson r)) Q E s w' := by
    rw [wp_ofExcept]
    refine ⟨hI' r w' hstep.1, ?_⟩
    cases hr : Protocol.requestJson r with
    | ok payload => exact hQ r w' payload hstep.1 hr
    | error e => exact hE r w' e hstep.1 hr
  cases r with
  | ok response => exact ⟨hI' _ w' hstep.1, hend⟩
  | error e => exact ⟨hI' _ w' hstep.1, hend⟩

/-- A read: others may have posted, and an accepted answer shows what the room holds. -/
theorem wp_readRoom {since limit cacheBuster : ℕ} {wait : Option ℚ}
    {Q : RoomSnapshot → AgentState → World → Prop} (hI : ∀ w', w.Others w' → I w')
    (hQ : ∀ snapshot w', w.Others w' → Faithful (w'.rooms room) since limit snapshot →
      snapshot.room = room → 1 ≤ limit → Q snapshot s w')
    (hE : ∀ e w', w.Others w' → E e s w') :
    Wp World.step I (readRoom client room since wait limit cacheBuster) Q E s w := by
  have hrefl : w.Others w := World.Others.refl
  unfold readRoom
  rw [wp_bind, wp_ofExcept]
  refine ⟨hI w hrefl, ?_⟩
  cases hrequest : client.readRequest room since wait limit cacheBuster with
  | error e => exact hE e w hrefl
  | ok request =>
      obtain ⟨selectedWait, hlimit, rfl⟩ := TechnocoreClient.readRequest_ok hrequest
      dsimp only
      rw [wp_bind]
      refine wp_requestJson (hI w hrefl) (fun r w' h => hI w' h.1) (fun r w' payload h hr => ?_)
        fun r w' e h _ => hE e w' h.1
      rw [wp_ofExcept]
      refine ⟨hI w' h.1, ?_⟩
      cases hsnapshot : Protocol.parseSnapshot payload room with
      | error e => exact hE e w' h.1
      | ok snapshot =>
          exact hQ snapshot w' h.1 (h.2 payload snapshot hr hsnapshot)
            (Protocol.parseSnapshot_room hsnapshot) hlimit

/-- A request to post: nothing was sent, or the envelope was handed to the transport. -/
theorem wp_sendSignedMessage {envelope : Envelope} {input : ℕ}
    {Q : RoomMessage → AgentState → World → Prop} (hI : I w)
    (hI' : ∀ w', w.Posts w' room envelope input → I w')
    (hQ : ∀ posted w', w.Posts w' room envelope input → Q posted s w')
    (hE : ∀ e, E e s w) (hE' : ∀ e w', w.Posts w' room envelope input → E e s w') :
    Wp World.step I (sendSignedMessage client room envelope input) Q E s w := by
  unfold sendSignedMessage
  rw [wp_bind, wp_ofExcept]
  refine ⟨hI, ?_⟩
  cases hrequest : client.sayRequest room envelope input with
  | error e => exact hE e
  | ok request =>
      obtain ⟨url, rfl⟩ := TechnocoreClient.sayRequest_ok hrequest
      dsimp only
      rw [wp_bind]
      refine wp_requestJson hI (fun r w' h => hI' w' h) (fun r w' payload h hr => ?_)
        fun r w' e h _ => hE' e w' h
      rw [wp_ofExcept]
      refine ⟨hI' w' h, ?_⟩
      cases TechnocoreClient.checkPosted room envelope payload with
      | error e => exact hE' e w' h
      | ok posted => exact hQ posted w' h

end Requests

/-! ## The policy -/

section Policy

variable {E : PyErr → AgentState → World → Prop}

/-- A memory that differs in the quota history at most. -/
structure SameProgress (s s' : AgentState) : Prop where
  cursors : s'.cursors = s.cursors
  nonces : s'.nonces = s.nonces
  generations : s'.generations = s.generations

omit [Platform] in
theorem SameProgress.refl : SameProgress s s := ⟨rfl, rfl, rfl⟩

theorem wp_loadPolicy {Q : CapabilityPolicy → AgentState → World → Prop} (hI : I w)
    (hQ : ∀ policy, Capabilities.policyOfFile w.policyFile.1 w.policyFile.2 = .ok policy →
      Q policy s w)
    (hE : ∀ e, Native e → E e s w) : Wp World.step I Capabilities.loadPolicy Q E s w := by
  unfold Capabilities.loadPolicy
  rw [wp_bind]
  refine wp_exceptOSError (fun e => by simp) ?_
  rw [wp_bind]
  refine wp_read (fun _ _ h => h.1) hI (fun info hinfo => ?_) fun e he e' he' => hE e' (he' he)
  have hfile := hinfo.2 info rfl
  split_ifs with hmeta
  · rw [wp_bind]
    refine wp_read (fun _ _ h => h.1) hI (fun raw hraw => ?_) fun e he e' he' => hE e' (he' he)
    refine ⟨hI, wp_pureResult (native_policyOfFile info raw) hI (fun policy h => hQ policy ?_) hE⟩
    rwa [hfile, hraw.2 raw rfl]
  · refine ⟨hI, wp_pureResult (native_policyOfFile info []) hI (fun policy h => ?_) hE⟩
    unfold Capabilities.policyOfFile at h
    split_ifs at h
    simp_all

/-- The sender may ask: it is not the agent itself, its message is signed, and, where a
capability file is in use, the file names it with an enabled grant. -/
structure Authorized (policy : CommandPolicy) (message : RoomMessage) (w : World)
    (grant : Option CapabilityGrant) : Prop where
  notOwn : message.sender ≠ policy.ownDid
  signed : message.isSigned = true
  legacy : ∀ dids any, policy.mode = .legacy dids any → grant = none
  capability : ∀ consume, policy.mode = .capability consume →
    ∃ capabilities g, grant = some g ∧
      Capabilities.policyOfFile w.policyFile.1 w.policyFile.2 = .ok capabilities ∧
      capabilities.grantFor message.sender = some g ∧ g.enabled = true

theorem wp_authorizeSender {policy : CommandPolicy} {message : RoomMessage}
    {Q : Option Decision × Option CapabilityGrant → AgentState → World → Prop} (hI : I w)
    (hdenied : ∀ reason, Q (some (Policy.ignore reason), none) s w)
    (hgranted : ∀ grant, Authorized policy message w grant → Q (none, grant) s w)
    (hE : ∀ e, Native e → E e s w) :
    Wp World.step I (Policy.authorizeSender policy message) Q E s w := by
  unfold Policy.authorizeSender
  split_ifs with hown hsigned
  · exact ⟨hI, hdenied _⟩
  rotate_left
  · exact ⟨hI, hdenied _⟩
  rw [wp_bind]
  unfold Policy.grantFor
  cases hmode : policy.mode with
  | legacy dids any =>
      refine ⟨hI, ?_⟩
      dsimp only
      split_ifs
      · exact ⟨hI, hdenied _⟩
      · refine ⟨hI, hgranted none ⟨hown, hsigned, fun _ _ _ => rfl, ?_⟩⟩
        intro consume h
        rw [hmode] at h
        cases h
  | capability consume =>
      dsimp only
      rw [wp_bind]
      refine wp_loadPolicy hI (fun capabilities hfile => ⟨hI, ?_⟩) hE
      cases hgrant : capabilities.grantFor message.sender with
      | none => exact ⟨hI, hdenied _⟩
      | some g =>
          dsimp only
          split_ifs with henabled
          · refine ⟨hI, hgranted (some g) ⟨hown, hsigned, ?_, ?_⟩⟩
            · intro dids any h
              rw [hmode] at h
              cases h
            · exact fun _ _ => ⟨capabilities, g, rfl, hfile, hgrant, henabled⟩
          · exact ⟨hI, hdenied _⟩

/-- One reservation: the quota had room, and the new history is in memory. -/
structure Reserved (did : PyStr) (limit : ℕ) (s s' : AgentState) (now count : ℕ) : Prop where
  counted : s.capabilityRequestCount did now Capabilities.windowSeconds = .ok count
  below : count < limit
  reserved : s.reserveCapabilityRequest did now Capabilities.windowSeconds = .ok s'

omit [Platform] in
theorem Reserved.sameProgress {did : PyStr} {limit now count : ℕ} {s' : AgentState}
    (h : Reserved did limit s s' now count) : SameProgress s s' := by
  obtain ⟨hc, hn, hg⟩ := AgentState.reserve_frame h.reserved
  exact ⟨hc, hn, hg⟩

/-- One reservation of a valid principal, within the largest limit. -/
def Reserves (s s' : AgentState) : Prop :=
  ∃ did limit now count, Crypto.isDid did = true ∧ limit ≤ maxRequestsPerHour ∧
    Reserved did limit s s' now count

/-- What a decision that raises has done: nothing, or one reservation, which may have been saved. -/
def Undecided (s : AgentState) (w : World) (s' : AgentState) (w' : World) : Prop :=
  (s' = s ∧ w' = w) ∨ (Reserves s s' ∧ (w' = w ∨ w' = w.saved s'))

theorem wp_allow {H : World → (o : Op) → Except PyErr o.Val → World → Prop} {Shown : ℕ → Prop}
    (hH : Clocked H Shown) {consume : Bool} {did : PyStr} {limit : ℕ}
    {Q : Bool → AgentState → World → Prop} (hI : I w)
    (hI' : ∀ s', SameProgress s s' → I (w.saved s')) (hfalse : Q false s w)
    (hdry : consume = false → Q true s w)
    (htrue : consume = true → ∀ now count s', Shown now → Reserved did limit s s' now count →
      Reserves s s' → Q true s' (w.saved s'))
    (hbefore : ∀ e, Native e → E e s w)
    (hE : ∀ e now count s' w', Native e → Shown now → Reserved did limit s s' now count →
      Reserves s s' → (w' = w ∨ w' = w.saved s') → E e s' w') :
    Wp H I (Capabilities.allow consume did limit) Q E s w := by
  unfold Capabilities.allow
  cases hdid : Crypto.validateDid did with
  | error e => exact ⟨hI, hbefore _ (by simp)⟩
  | ok validDid =>
      have hvalid : did = validDid ∧ Crypto.isDid did = true := by
        unfold Crypto.validateDid at hdid
        split_ifs at hdid with hpattern
        exact ⟨Except.ok.inj hdid, hpattern⟩
      obtain ⟨rfl, hpattern⟩ := hvalid
      dsimp only
      -- up to the reservation, what is raised leaves everything as it is
      by_cases hlimit : limit < 1 ∨ maxRequestsPerHour < limit
      · rw [if_pos hlimit]
        exact ⟨hI, hbefore _ (by simp)⟩
      rw [if_neg hlimit, wp_bind, wp_call]
      refine ⟨hI, fun r w₁ hclock => ?_⟩
      have hstep := hH.step w _ r w₁ hclock
      obtain rfl : w₁ = w := hstep.1
      refine ⟨hI, ?_⟩
      cases r with
      | error e => exact hbefore e (hstep.2 e rfl)
      | ok reading =>
        cases reading with
        | none => exact ⟨hI, hbefore _ (by simp)⟩
        | some now =>
            have hshown := hH.shown w₁ now w₁ hclock
            dsimp only
            rw [wp_bind, wp_get]
            refine ⟨hI, ?_⟩
            rw [wp_bind]
            refine (wp_pureResult (native_capabilityRequestCount _ _ _ _) hI
              (fun count hcount => ?_) hbefore).handler_mono hH.step
            split_ifs with hfull hconsume
            · exact ⟨hI, hfalse⟩
            · rw [wp_bind]
              refine (wp_pureResult (native_reserveCapabilityRequest _ _ _ _) hI
                (fun s' hs' => ?_) hbefore).handler_mono hH.step
              -- the reservation is in memory first, and then in the file
              have hreserved : Reserved did limit s s' now count := ⟨hcount, by omega, hs'⟩
              have hreserves : Reserves s s' :=
                ⟨did, limit, now, count, hpattern, by omega, hreserved⟩
              have hsaved := hI' s' hreserved.sameProgress
              rw [wp_bind, wp_set]
              refine ⟨hI, ?_⟩
              rw [wp_bind]
              exact (wp_saveState hI hsaved
                ⟨hsaved, htrue hconsume now count s' hshown hreserved hreserves⟩
                (fun e he => hE e now count s' _ he hshown hreserved hreserves (Or.inl rfl))
                fun e he => hE e now count s' _ he hshown hreserved hreserves
                  (Or.inr rfl)).handler_mono hH.step
            · exact ⟨hI, hdry (by simpa using hconsume)⟩

/-- What lies behind a live decision to answer: the grant of the file as it was read, the
command it lists, the repository it covers, and one reservation. -/
structure Granted (policy : CommandPolicy) (message : RoomMessage) (s : AgentState) (w : World)
    (decision : Decision) (s' : AgentState) (capabilities : CapabilityPolicy)
    (grant : CapabilityGrant) (command : Command) (parsed : ParsedCommand) (now count : ℕ) :
    Prop where
  notOwn : message.sender ≠ policy.ownDid
  signed : message.isSigned = true
  file : Capabilities.policyOfFile w.policyFile.1 w.policyFile.2 = .ok capabilities
  listsSender : capabilities.grantFor message.sender = some grant
  enabled : grant.enabled = true
  named : Policy.commandName message.text = some command
  listsCommand : command ∈ grant.commands
  parse : Policy.parseCommand command message.text = .ok parsed
  decision : parsed.decision = decision
  repository : ∀ fullName, parsed.repository = some fullName →
    grant.allowsRepository fullName = true
  reserved : Reserved message.sender grant.limit s s' now count

/-- **What a decision does.**  It leaves memory and file as they are, or, where a live
capability policy grants the command, it reserves one request, at a time that the clock shows,
and saves it. -/
theorem wp_decide_clocked {H : World → (o : Op) → Except PyErr o.Val → World → Prop}
    {Shown : ℕ → Prop} (hH : Clocked H Shown) {policy : CommandPolicy} {message : RoomMessage}
    {Q : Decision → AgentState → World → Prop} (hI : I w)
    (hI' : ∀ s', SameProgress s s' → I (w.saved s'))
    (hQ : ∀ d, d.Complete → (d.action = .ignore ∨ policy.mode ≠ .capability true) → Q d s w)
    (hQ' : ∀ d s' capabilities grant command parsed now count, d.Complete → d.action ≠ .ignore →
      policy.mode = .capability true → Shown now →
      Granted policy message s w d s' capabilities grant command parsed now count →
      Reserves s s' → Q d s' (w.saved s'))
    (hE : ∀ e s' w', Native e → Undecided s w s' w' → E e s' w') :
    Wp H I (Policy.decide policy message) Q E s w := by
  have hbefore : ∀ e, Native e → E e s w := fun e he => hE e s w he (Or.inl ⟨rfl, rfl⟩)
  unfold Policy.decide
  rw [wp_bind]
  have hcomplete : ∀ reason, (Policy.ignore reason).Complete := Policy.complete_ignore
  refine (wp_authorizeSender hI (fun reason => ⟨hI, hQ _ (hcomplete _) (Or.inl rfl)⟩)
    (fun grant hauth => ?_) hbefore).handler_mono hH.step
  dsimp only
  unfold Policy.decideAuthorizedCommand
  cases hname : Policy.commandName message.text with
  | none => exact ⟨hI, hQ _ (hcomplete _) (Or.inl rfl)⟩
  | some command =>
      dsimp only
      split_ifs with hlisted
      · exact ⟨hI, hQ _ (hcomplete _) (Or.inl rfl)⟩
      rw [wp_bind]
      refine (wp_pureResult (native_parseCommand _ _) hI (fun parsed hparsed => ?_)
        hbefore).handler_mono hH.step
      have hparsedComplete := Policy.complete_of_parseCommand hparsed
      split_ifs with hignore hrefused
      · exact ⟨hI, hQ _ hparsedComplete (Or.inl hignore)⟩
      · exact ⟨hI, hQ _ (hcomplete _) (Or.inl rfl)⟩
      -- a legacy policy has no limiter; the grant of a capability policy has
      cases hmode : policy.mode with
      | legacy dids any =>
          obtain rfl := hauth.legacy dids any hmode
          exact ⟨hI, hQ _ hparsedComplete (Or.inr (by simp [hmode]))⟩
      | capability consume =>
          obtain ⟨capabilities, g, rfl, hfile, hgrant, henabled⟩ := hauth.capability consume hmode
          dsimp only
          rw [wp_bind, Policy.allowRequest, hmode]
          refine wp_allow hH hI hI' ⟨hI, hQ _ (hcomplete _) (Or.inl rfl)⟩
            (fun hdry => ⟨hI, hQ _ hparsedComplete (Or.inr ?_)⟩)
            (fun hconsume now count s' hshown hreserved hreserves =>
              ⟨hI' s' hreserved.sameProgress, ?_⟩) hbefore
            fun e now count s' w' he _ _ hreserves hw' => hE e s' w' he (Or.inr ⟨hreserves, hw'⟩)
          · simp [hmode, hdry]
          · refine hQ' _ s' capabilities g command parsed now count hparsedComplete hignore
              (by rw [hmode, hconsume]) hshown
              ⟨hauth.notOwn, hauth.signed, hfile, hgrant, henabled, hname, by simpa using hlisted,
                hparsed, rfl, fun fullName h => ?_, hreserved⟩ hreserves
            simpa [Policy.repositoryRefused, h] using hrefused

/-- The same, whatever the clock shows. -/
theorem wp_decide {policy : CommandPolicy} {message : RoomMessage}
    {Q : Decision → AgentState → World → Prop} (hI : I w)
    (hI' : ∀ s', SameProgress s s' → I (w.saved s'))
    (hQ : ∀ d, d.Complete → (d.action = .ignore ∨ policy.mode ≠ .capability true) → Q d s w)
    (hQ' : ∀ d s' capabilities grant command parsed now count, d.Complete → d.action ≠ .ignore →
      policy.mode = .capability true →
      Granted policy message s w d s' capabilities grant command parsed now count →
      Reserves s s' → Q d s' (w.saved s'))
    (hE : ∀ e s' w', Native e → Undecided s w s' w' → E e s' w') :
    Wp World.step I (Policy.decide policy message) Q E s w :=
  wp_decide_clocked clocked_step hI hI' hQ
    (fun d s' capabilities grant command parsed now count hd hanswer hmode _ =>
      hQ' d s' capabilities grant command parsed now count hd hanswer hmode) hE

end Policy

/-! ## The audit log -/

section AuditLog

variable {E : PyErr → AgentState → World → Prop}

/-- A body between opening, locking and closing the audit file. -/
theorem wp_lockedDescriptor {α : Type} {write : Bool} {body : Agent α}
    {Q : α → AgentState → World → Prop} (hI : ∀ w', w.Opened w' write → I w')
    (hE : ∀ e w', Native e → w.Opened w' write → E e s w')
    (hbody : ∀ w', w.Opened w' write → w'.auditFile.isSome = true →
      Wp World.step I body (fun a s' w₂ => Q a s' w₂ ∧ ∀ e, Native e → E e s' w₂)
        (fun e s' w₂ => Native e ∧ ∀ e', Native e' → E e' s' w₂) s w') :
    Wp World.step I (Audit.lockedDescriptor write body) Q E s w := by
  have hsame : w.Opened w write := ⟨rfl, Or.inl rfl⟩
  unfold Audit.lockedDescriptor
  rw [wp_bind]
  refine wp_exceptOSError (fun e => by simp) ?_
  rw [wp_call]
  refine ⟨hI w hsame, fun r w' hstep => ?_⟩
  have hopened : w.Opened w' write := ⟨hstep.1.1, hstep.1.2.1⟩
  have hI' := hI w' hopened
  refine ⟨hI', ?_⟩
  cases r with
  | error e => exact fun e' he' => hE e' w' (he' (hstep.2 e rfl)) hopened
  | ok info =>
      have hsome := hstep.1.2.2 ⟨info, rfl⟩
      -- closing the file may raise, whatever became of the body
      have hclose : ∀ (result : Except PyErr α) s' w₂, I w₂ →
          (∀ a, result = .ok a → Q a s' w₂) → (∀ e, result = .error e → E e s' w₂) →
          (∀ e, Native e → E e s' w₂) →
          Wp World.step I (do perform .auditClose; Proc.ofExcept result) Q E s' w₂ := by
        intro result s' w₂ hI₂ hok herror hE₂
        rw [wp_bind]
        refine wp_inert (fun _ _ h => h) hI₂ (fun _ => ?_) hE₂
        rw [wp_ofExcept]
        refine ⟨hI₂, ?_⟩
        cases result with
        | ok a => exact hok a rfl
        | error e => exact herror e rfl
      have hinner : Wp World.step I
          (exceptOSError (fun e => auditError ("cannot access audit log: " ++ e.message)) do
            Proc.ofExcept (Audit.checkAccess info)
            perform (.auditLock write)
            body)
          (fun a s' w₂ => Q a s' w₂ ∧ ∀ e, Native e → E e s' w₂)
          (fun e s' w₂ => Native e ∧ ∀ e', Native e' → E e' s' w₂) s w' := by
        have hraise : ∀ e, Native e → ∀ e', (Native e → Native e') →
            Native e' ∧ ∀ e'', Native e'' → E e'' s w' :=
          fun e he e' he' => ⟨he' he, fun e'' he'' => hE e'' w' he'' hopened⟩
        refine wp_exceptOSError (fun e => by simp) ?_
        rw [wp_bind]
        refine wp_pureResult (native_checkAccess info) hI' (fun _ _ => ?_) hraise
        rw [wp_bind]
        refine wp_inert (fun _ _ h => h) hI' (fun _ => ?_) hraise
        exact (hbody w' hopened hsome).mono (fun _ _ _ _ h => h)
          fun e s' w₂ _ h e' he' => ⟨he' h.1, h.2⟩
      dsimp only
      rw [wp_bind, wp_tryCatch, wp_bind]
      refine hinner.mono (fun a s' w₂ hI₂ h => ⟨hI₂, ?_⟩) fun e s' w₂ hI₂ h => ⟨hI₂, ?_⟩
      · exact hclose (.ok a) s' w₂ hI₂ (by rintro _ ⟨⟩; exact h.1) (by rintro _ ⟨⟩) h.2
      · exact hclose (.error e) s' w₂ hI₂ (by rintro _ ⟨⟩) (by rintro _ ⟨⟩; exact h.2 e h.1) h.2

/-- Every octet is written, or some of them before an exception. -/
theorem wp_writeAll {Q : Unit → AgentState → World → Prop} {fuel : ℕ} {raw remaining : Bytes}
    (hfuel : remaining.length ≤ fuel) (hraw : w.auditFile = some raw)
    (hI : ∀ part, part <+: remaining → I { w with auditFile := some (raw ++ part) })
    (hQ : Q () s { w with auditFile := some (raw ++ remaining) })
    (hE : ∀ e part, Native e → part <+: remaining →
      E e s { w with auditFile := some (raw ++ part) }) :
    Wp World.step I (Audit.writeAll fuel remaining) Q E s w := by
  have hw : ∀ {w : World} {raw}, w.auditFile = some raw →
      { w with auditFile := some (raw ++ []) } = w := by
    intro w raw h
    rw [List.append_nil, ← h]
  have hIw : I w := hw hraw ▸ hI [] List.nil_prefix
  induction fuel generalizing w raw remaining with
  | zero =>
      obtain rfl : remaining = [] := List.length_eq_zero_iff.mp (by omega)
      exact ⟨hIw, hw hraw ▸ hQ⟩
  | succ fuel ih =>
      rw [Audit.writeAll]
      split_ifs with hdone
      · subst hdone
        exact ⟨hIw, hw hraw ▸ hQ⟩
      rw [wp_bind]
      refine wp_exceptOSError (fun e => by simp) ?_
      rw [wp_call]
      refine ⟨hIw, fun r w' hstep => ?_⟩
      -- a write raises, or writes some of the octets; the loop goes on with the rest
      rcases hstep.1 with ⟨e, rfl, rfl⟩ | ⟨n, rfl, hn, rfl⟩
      · refine ⟨hIw, fun e' he' => ?_⟩
        have := hE e' [] (he' (hstep.2 e rfl)) List.nil_prefix
        rwa [hw hraw] at this
      · rw [hraw, Option.getD_some]
        have htake : remaining.take n <+: remaining := List.take_prefix n remaining
        have hpart : ∀ part, part <+: remaining.drop n → remaining.take n ++ part <+: remaining := by
          rintro part ⟨rest, hrest⟩
          exact ⟨rest, by rw [List.append_assoc, hrest, List.take_append_drop]⟩
        refine ⟨hI _ htake, ?_⟩
        dsimp only
        -- a write of nothing raises
        split_ifs with hzero
        · exact ⟨hI _ htake, hE _ _ (by simp) htake⟩
        · refine ih ?_ rfl (fun part h => ?_) ?_ (fun e part he h => ?_) (hI _ htake)
          · rw [List.length_drop]
            omega
          · rw [List.append_assoc]
            exact hI _ (hpart part h)
          · rw [List.append_assoc, List.take_append_drop]
            exact hQ
          · rw [List.append_assoc]
            exact hE e _ he (hpart part h)

theorem wp_readBounded {Q : Bytes → AgentState → World → Prop} (hI : I w)
    (hQ : ∀ raw, w.auditFile = some raw → Q raw s w) (hE : ∀ e, Native e → E e s w) :
    Wp World.step I Audit.readBounded Q E s w := by
  unfold Audit.readBounded
  rw [wp_bind]
  refine wp_exceptOSError (fun e => by simp) ?_
  refine wp_read (fun _ _ h => h.1) hI (fun raw hraw => ?_) fun e he e' he' => hE e' (he' he)
  split_ifs
  · exact ⟨hI, hE _ (by simp)⟩
  · exact ⟨hI, hQ raw (hraw.2 raw rfl)⟩

/-- **Appending to the audit log.**  The file only grows, by a part of the next record; at
the end the whole record stands after what was there. -/
theorem wp_audit_append {key : Platform.PrivateKey} {issuerDid : PyStr} {args : AuditArgs}
    {Q : PyStr → AgentState → World → Prop}
    (hI : ∀ w', w.Appending w' key issuerDid args → I w')
    (hQ : ∀ w' issuer raw rendered hash, w.Appending w' key issuerDid args →
      Audit.appendIssuer key issuerDid = .ok issuer →
      Audit.appendRecord key issuer args raw = .ok (rendered, hash) →
      raw = w.auditFile.getD [] → w'.auditFile = some (raw ++ rendered) → Q hash s w')
    (hE : ∀ e w', Native e → w.Appending w' key issuerDid args → E e s w') :
    Wp World.step I (Audit.append key issuerDid args) Q E s w := by
  have hrefl : w.Appending w key issuerDid args := ⟨rfl, [], by simp, .inl rfl⟩
  unfold Audit.append
  rw [wp_bind]
  refine wp_pureResult (native_appendIssuer key issuerDid) (hI w hrefl) (fun issuer hissuer => ?_)
    fun e he => hE e w he hrefl
  rw [wp_bind]
  refine wp_exceptOSError (fun e => by simp) (wp_inert (fun _ _ h => h) (hI w hrefl) (fun _ => ?_)
    fun e he e' he' => hE e' w (he' he) hrefl)
  rw [wp_bind]
  refine wp_lockedDescriptor (fun w' h => hI w' (h.appending _ _ _))
    (fun e w' he h => hE e w' he (h.appending _ _ _)) fun w' hopened hsome => ?_
  have happending := hopened.appending key issuerDid args
  have hI' := hI w' happending
  have hraise : ∀ e, Native e → Native e ∧ ∀ e', Native e' → E e' s w' :=
    fun e he => ⟨he, fun e' he' => hE e' w' he' happending⟩
  obtain ⟨raw, hraw⟩ := Option.isSome_iff_exists.mp hsome
  -- a file that was not there is read as empty
  have hsame : raw = w.auditFile.getD [] := by
    rcases hopened.2 with h | ⟨-, hnone, hempty⟩
    · rw [← h, hraw, Option.getD_some]
    · rw [hempty] at hraw
      rw [hnone, ← Option.some.inj hraw, Option.getD_none]
  rw [wp_bind]
  refine wp_readBounded hI' (fun read hread => ?_) hraise
  obtain rfl : read = raw := Option.some.inj (hread.symm.trans hraw)
  rw [wp_bind]
  refine wp_pureResult (native_appendRecord key issuer args read) hI' (fun p hp => ?_) hraise
  obtain ⟨rendered, hash⟩ := p
  -- a write that is cut leaves a part of the record behind what was there
  have hmore : ∀ part, part <+: rendered →
      w.Appending { w' with auditFile := some (read ++ part) } key issuerDid args := by
    intro part hpart
    refine ⟨by rw [hopened.1], part, by rw [Option.getD_some, hsame], .inr ?_⟩
    exact ⟨issuer, rendered, hash, hissuer, hsame ▸ hp, hpart⟩
  dsimp only
  rw [wp_bind]
  refine wp_writeAll le_rfl hraw (fun part h => hI _ (hmore part h)) ?_ fun e part he h =>
    ⟨he, fun e' he' => hE e' _ he' (hmore part h)⟩
  have hfinal := hmore rendered (List.prefix_refl _)
  have hIf := hI _ hfinal
  have hEf : ∀ e, Native e → E e s { w' with auditFile := some (read ++ rendered) } :=
    fun e he => hE e _ he hfinal
  rw [wp_bind]
  refine wp_inert (fun _ _ h => h) hIf (fun _ => ?_) fun e he => ⟨he, hEf⟩
  refine ⟨hIf, ?_, hEf⟩
  rw [wp_bind]
  refine wp_exceptOSError (fun e => by simp) (wp_inert (fun _ _ h => h) hIf (fun _ => ?_)
    fun e he e' he' => hEf e' (he' he))
  exact ⟨hIf, hQ _ issuer read rendered hash hfinal hissuer hp hsame rfl⟩

/-- Verifying reads the file and changes nothing. -/
theorem wp_audit_verify {Q : AuditSummary → AgentState → World → Prop} (hI : I w)
    (hQ : ∀ summary, Q summary s w) (hE : ∀ e, Native e → E e s w) :
    Wp World.step I Audit.verify Q E s w := by
  unfold Audit.verify
  rw [wp_bind]
  refine wp_read (fun _ _ h => h.1) hI (fun present _ => ?_) hE
  split_ifs
  · refine wp_lockedDescriptor (fun w' h => h.eq ▸ hI) (fun e w' he h => h.eq ▸ hE e he)
      fun w' hopened _ => ?_
    obtain rfl := hopened.eq
    have hraise : ∀ e, Native e → Native e ∧ ∀ e', Native e' → E e' s w' := fun e he => ⟨he, hE⟩
    rw [wp_bind]
    refine wp_readBounded hI (fun raw _ => ?_) hraise
    exact wp_pureResult (native_verifyBytes raw) hI (fun summary _ => ⟨hQ summary, hE⟩) hraise
  · exact ⟨hI, hE _ (by simp)⟩

end AuditLog

end Agent
