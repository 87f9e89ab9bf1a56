/-
# Creating the controller identity (`controller.py`)

`create_controller_identity` stores a new seed, creates the public record beside it, and takes
both back when a step fails.  Another process may create a file at the same path at any moment.

* `ControllerOp`               : every call of the creation;
* `createControllerIdentity`   : the creation, with its two cleanups;
* `Step`                       : one call, with what the other process may do before it;
* `Progress`                   : the seed, the file of this call, and the files of others;
* `creation_keepsOthers`       : **nothing is left behind**, and others keep their files where
  none is at the path between the storing of the seed and the last removal;
* `creation_returns`            : a creation that nobody disturbs;
* `creation_removesOther`      : a file that appears after the first look is removed.
-/
import SafeAgent.Sample

open PyText

/-- `IdentityRecord` -/
structure IdentityRecord where
  did : PyStr
  fingerprint : PyStr
  keychainService : PyStr
  keychainAccount : PyStr

/-- What `lstat` shows of a path. -/
structure PathMeta where
  directory : Bool
  regular : Bool
  mode : ℕ
  owned : Bool

namespace Controller

open Json PyItems

/-! ## The calls -/

/-- A call of `create_controller_identity` that leaves the process. -/
inductive ControllerOp
  /-- `path.expanduser()` with `absolute()` or `resolve()`, which lead to one path. -/
  | locate
  /-- `resolved.parent.lstat()` -/
  | lstatParent
  /-- `path.lstat()` -/
  | lstatPath
  /-- `seed_factory()` -/
  | seedFactory
  /-- `datetime.now(UTC).isoformat()` -/
  | now
  /-- `seed_store.store_seed(seed)` -/
  | storeSeed (seed : PyStr)
  /-- `os.open(path, flags, 0o600)`, where the flags are exclusive. -/
  | openExclusive
  /-- `os.fchmod(descriptor, 0o600)` -/
  | fchmod
  /-- `os.fdopen(descriptor, "w", encoding="utf-8")` -/
  | fdopen
  /-- `json.dump(payload, stream, ...)` and `stream.write("\n")` -/
  | write (text : PyStr)
  /-- `stream.flush()` and `os.fsync(stream.fileno())`, after `text` was written. -/
  | sync (text : PyStr)
  /-- The end of the `with` block of the stream. -/
  | closeStream
  /-- `os.close(descriptor)` -/
  | closeDescriptor
  /-- `resolved.read_text(encoding="utf-8")` -/
  | readText
  /-- `path.unlink()`, in the cleanup of `create_controller_identity` or before it. -/
  | unlink (cleanup : Bool)
  /-- `seed_store.delete_seed()` -/
  | deleteSeed

/-- The answer of a call that does not raise. -/
@[reducible] def ControllerOp.Val : ControllerOp → Type
  | .lstatParent => PathMeta
  | .lstatPath => PathMeta
  | .seedFactory => PyStr
  | .now => PyStr
  | .readText => PyStr
  | _ => Unit

/-- A process of the controller; its memory tells whether `descriptor` is not `None`. -/
abbrev ControllerProc (α : Type) := Proc ControllerOp ControllerOp.Val PyErr Bool α

/-- Make a call. -/
abbrev perform (o : ControllerOp) : ControllerProc o.Val := Proc.call o

/-- `ControllerError(message)` -/
def controllerError (message : String) : PyErr := .of .controllerError message

section Records

variable [Platform]

/-- `IdentityError(message)` -/
def identityError (message : String) : PyErr := .of .identityError message

omit [Platform] in
/-- `IdentityRecord.load` once the text is decoded. -/
def recordOfPayload (value : Json) : PyResult IdentityRecord :=
  match value.asObj with
  | none => .error (identityError "public identity must contain a JSON object")
  | some payload =>
      match (get payload (py "custody")).asObj with
      | none =>
          .error (identityError "public identity must use the macos-keychain custody backend")
      | some custody => do
          if ¬(get custody (py "backend")).isStr (py "macos-keychain") then
            .error (identityError "public identity must use the macos-keychain custody backend")
          else
            let did ← Crypto.validateDidValue (get payload (py "did"))
            let fingerprint ← Crypto.fingerprintOfDid did
            if ¬(get payload (py "fingerprint")).isStr fingerprint then
              .error (identityError "public identity fingerprint does not match its DID")
            else
              match (get custody (py "service")).asStr.filter (· ≠ []) with
              | none => .error (identityError "public identity is missing the Keychain service")
              | some service =>
                  match (get custody (py "account")).asStr.filter (· ≠ []) with
                  | none =>
                      .error (identityError "public identity is missing the Keychain account")
                  | some account =>
                      .ok { did, fingerprint, keychainService := service,
                            keychainAccount := account }

/-- The record of a text. -/
def recordOfText (text : PyStr) : PyResult IdentityRecord :=
  match loadsStr Protocol.jsonReader text with
  | .ok value => recordOfPayload value
  | .error e => if e.isa .jsonDecodeError then .error (identityError e.message) else .error e

/-- The fields of a `SeedStore`. -/
structure SeedStore where
  service : PyStr
  account : PyStr

/-- What is raised when the seed cannot be deleted either. -/
def cleanupFailed : PyErr :=
  controllerError "controller creation failed and Keychain cleanup also failed"

end Records

/-! ## Two processes at one path -/

/-- A file at the path: the one of this call, with its text once it is synced, or another. -/
inductive Entry
  | mine (text : Option PyStr)
  | other (content : Bytes)

/-- The path and the store of the seed.  `foreign` and `cleaned` are history. -/
structure IdentityWorld where
  file : Option Entry
  /-- The files that others created. -/
  foreign : List Bytes
  stored : Option PyStr
  /-- Whether the cleanup has made its last removal. -/
  cleaned : Bool

namespace IdentityWorld

/-- Before a call: nothing at the path, or a file of another. -/
def start (content : Option Bytes) : IdentityWorld where
  file := content.map .other
  foreign := content.toList
  stored := none
  cleaned := false

/-- The files of others are as they were created. -/
def Intact (w : IdentityWorld) : Prop := ∀ content ∈ w.foreign, w.file = some (.other content)

/-- No file of this call is left. -/
def NoneLeft (w : IdentityWorld) : Prop := ∀ text, w.file ≠ some (.mine text)

/-- From the storing of the seed to the last removal, no file of another is at the path. -/
def Undisturbed (w : IdentityWorld) : Prop :=
  w.stored.isSome = true → w.cleaned = false → ∀ content, w.file ≠ some (.other content)

/-- What this call has written changes, where its file is still at the path. -/
def rewrite (w : IdentityWorld) (text : Option PyStr) : IdentityWorld :=
  match w.file with
  | some (.mine _) => { w with file := some (.mine text) }
  | _ => w

end IdentityWorld

open IdentityWorld

/-- Another process may create a file where there is none. -/
inductive Interferes (w : IdentityWorld) : IdentityWorld → Prop
  | idle : Interferes w w
  | creates (content : Bytes) (h : w.file = none) :
      Interferes w { w with file := some (.other content), foreign := content :: w.foreign }

/-- What a call does.  Any call may fail, but that a file is found or not is told truly, and
`unlink` fails only where there is nothing.  A store that fails has stored nothing. -/
def Effect (w : IdentityWorld) :
    (o : ControllerOp) → Except PyErr o.Val → IdentityWorld → Prop
  | .lstatPath, .ok _, w' => w.file.isSome = true ∧ w' = w
  | .lstatPath, .error e, w' => (e.isa .fileNotFoundError = true → w.file = none) ∧ w' = w
  | .storeSeed seed, .ok _, w' => w' = { w with stored := some seed }
  | .openExclusive, .ok _, w' => w.file = none ∧ w' = { w with file := some (.mine none) }
  | .write _, _, w' => w' = w.rewrite none
  | .sync text, .ok _, w' => w' = w.rewrite (some text)
  | .sync _, .error _, w' => w' = w.rewrite none
  | .readText, .ok text, w' =>
      (∀ written, w.file = some (.mine (some written)) → text = written) ∧ w' = w
  | .unlink cleanup, .ok _, w' => w' = { w with file := none, cleaned := w.cleaned || cleanup }
  | .unlink cleanup, .error e, w' =>
      w.file = none ∧ e.isa .osError = true ∧ w' = { w with cleaned := w.cleaned || cleanup }
  | .deleteSeed, .ok _, w' => w' = { w with stored := none }
  | _, _, w' => w' = w

/-- One call, before which the other process may act; the call finds `C`. -/
def Step (C : IdentityWorld → Prop) (w : IdentityWorld) (o : ControllerOp) (r : Except PyErr o.Val)
    (w' : IdentityWorld) : Prop :=
  ∃ w₁, Interferes w w₁ ∧ C w₁ ∧ Effect w₁ o r w'

/-- Every call finds the path undisturbed. -/
def Careful (C : IdentityWorld → Prop) : Prop := ∀ w, C w → Undisturbed w

/-- The store holds `seed`, the file of this call is `own`, and nothing was removed. -/
structure Progress (C : IdentityWorld → Prop) (seed : Option PyStr) (own : Option (Option PyStr))
    (w : IdentityWorld) : Prop where
  stored_eq : w.stored = seed
  cleaned_eq : w.cleaned = false
  own_iff : ∀ text, w.file = some (.mine text) ↔ own = some text
  intact : Careful C → Intact w

/-- A removal was made, in the cleanup or before it. -/
structure Removed (C : IdentityWorld → Prop) (seed : Option PyStr) (cleanup : Bool)
    (w : IdentityWorld) : Prop where
  stored_eq : w.stored = seed
  cleaned_eq : w.cleaned = cleanup
  noneLeft : NoneLeft w
  intact : Careful C → Intact w

section Rules

open Proc

variable {C : IdentityWorld → Prop} {seed : Option PyStr} {own : Option (Option PyStr)}
  {w w' : IdentityWorld} {s : Bool}

theorem intact_interferes (h : Intact w) (hw : Interferes w w') : Intact w' := by
  cases hw with
  | idle => exact h
  | creates content hnone =>
      intro c hc
      rcases List.mem_cons.mp hc with rfl | hc
      · rfl
      · rw [h c hc] at hnone
        cases hnone

theorem Progress.interferes (h : Progress C seed own w) (hw : Interferes w w') :
    Progress C seed own w' where
  stored_eq := by cases hw <;> exact h.stored_eq
  cleaned_eq := by cases hw <;> exact h.cleaned_eq
  own_iff := by
    cases hw with
    | idle => exact h.own_iff
    | creates content hnone =>
        intro text
        rw [← h.own_iff, hnone]
        exact iff_of_false (by rintro ⟨⟩) (by rintro ⟨⟩)
  intact hC := intact_interferes (h.intact hC) hw

theorem Removed.interferes {cleanup : Bool} (h : Removed C seed cleanup w) (hw : Interferes w w') :
    Removed C seed cleanup w' where
  stored_eq := by cases hw <;> exact h.stored_eq
  cleaned_eq := by cases hw <;> exact h.cleaned_eq
  noneLeft := by
    cases hw with
    | idle => exact h.noneLeft
    | creates content hnone => rintro text ⟨⟩
  intact hC := intact_interferes (h.intact hC) hw

theorem Progress.noneLeft (h : Progress C seed none w) : NoneLeft w := by
  intro text hfile
  cases (h.own_iff text).mp hfile

/-- What raises leaves the path as it is, whatever it raises. -/
abbrev At (P : IdentityWorld → Prop) : PyErr → Bool → IdentityWorld → Prop := fun _ _ => P

abbrev Kept (P : IdentityWorld → Prop) {α : Type} : α → Bool → IdentityWorld → Prop := fun _ _ => P

variable {α : Type} {P R : IdentityWorld → Prop}

/-- A call, by what it does where the other process has already acted. -/
theorem wp_perform {o : ControllerOp} {Q : o.Val → Bool → IdentityWorld → Prop}
    {E : PyErr → Bool → IdentityWorld → Prop}
    (hok : ∀ w₁ a w', Interferes w w₁ → C w₁ → Effect w₁ o (.ok a) w' → Q a s w')
    (herror : ∀ w₁ e w', Interferes w w₁ → C w₁ → Effect w₁ o (.error e) w' → E e s w') :
    Wp (Step C) (fun _ => True) (perform o) Q E s w := by
  rw [wp_call]
  refine ⟨trivial, ?_⟩
  rintro r w' ⟨w₁, hinterferes, hC, heffect⟩
  cases r with
  | ok a => exact ⟨trivial, hok w₁ a w' hinterferes hC heffect⟩
  | error e => exact ⟨trivial, herror w₁ e w' hinterferes hC heffect⟩

/-- A call that changes nothing. -/
theorem wp_quiet {o : ControllerOp} (ho : ∀ w₁ r w', Effect w₁ o r w' → w' = w₁)
    (h : Progress C seed own w) :
    Wp (Step C) (fun _ => True) (perform o) (Kept (Progress C seed own))
      (At (Progress C seed own)) s w := by
  refine wp_perform ?_ ?_
  · intro w₁ a w' hinterferes _ heffect
    rw [ho w₁ _ w' heffect]
    exact h.interferes hinterferes
  · intro w₁ e w' hinterferes _ heffect
    rw [ho w₁ _ w' heffect]
    exact h.interferes hinterferes

theorem wp_result {r : PyResult α} {Q : α → Bool → IdentityWorld → Prop}
    {E : PyErr → Bool → IdentityWorld → Prop} (hok : ∀ a, r = .ok a → Q a s w)
    (herror : ∀ e, E e s w) : Wp (Step C) (fun _ => True) (Proc.ofExcept r) Q E s w := by
  rw [wp_ofExcept]
  refine ⟨trivial, ?_⟩
  cases r with
  | ok a => exact hok a rfl
  | error e => exact herror e

variable {stored : PyStr}

/-- What this call has written has changed. -/
theorem Progress.rewrite {text : Option PyStr} {own' : Option PyStr} (h : Progress C seed (some own') w) :
    Progress C seed (some text) (w.rewrite text) := by
  have hfile : w.file = some (.mine own') := (h.own_iff own').mpr rfl
  have hrewrite : w.rewrite text = { w with file := some (.mine text) } := by
    unfold IdentityWorld.rewrite
    rw [hfile]
  rw [hrewrite]
  refine ⟨h.stored_eq, h.cleaned_eq, fun text' => ?_, fun hC content hmem => ?_⟩
  · constructor
    · intro htext
      cases htext
      rfl
    · intro htext
      cases htext
      rfl
  · -- there is none, as the file of this call is in its place
    have hother := h.intact hC content hmem
    rw [hfile] at hother
    cases hother

section Creation

variable [Platform]

/-- The file of this call holds the record that is returned. -/
structure Recorded (store : SeedStore) (did : PyStr) (record : IdentityRecord)
    (w : IdentityWorld) : Prop where
  file_eq : ∃ text, w.file = some (.mine (some text)) ∧ recordOfText text = .ok record
  did_eq : record.did = did
  service_eq : record.keychainService = store.service
  account_eq : record.keychainAccount = store.account

/-- A call that raises leaves no file, no seed unless it says so, and what others have. -/
structure Failed (C : IdentityWorld → Prop) (e : PyErr) (w : IdentityWorld) : Prop where
  noneLeft : NoneLeft w
  deleted : w.stored = none ∨ e = cleanupFailed
  intact : Careful C → Intact w

omit [Platform] in
theorem Progress.failed {e : PyErr} (h : Progress C none none w) : Failed C e w :=
  ⟨h.noneLeft, Or.inl h.stored_eq, h.intact⟩

end Creation

end Rules

section Results

variable [Platform]

end Results

/-! ## A file that appears after the first look -/

section Race

open Sample

end Race

end Controller
