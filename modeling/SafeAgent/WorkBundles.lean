/-
# Output bundles are all-or-nothing (`work_output.py`)

`create_work_receipt` with an output directory reserves it, copies the two outputs of the
command into it, and publishes `receipt.json` last.  The file system may fail at any call.

* `BundleWorld`          : the files that existed before, and the directory that was made;
* `Effect`               : what each call does to them, whether it fails or not;
* `Published`, `Good`    : a receipt that is there has both outputs beside it;
* `wp_enterBundle`, `wp_capture`, `wp_finish`, `wp_exitBundle` : the four methods;
* `bundle_allOrNothing`  : **all or nothing**, and where it is neither;
* `bundle_stranded`      : a directory that can neither be secured nor removed;
* `bundle_complete`      : a directory that is kept, with what was beside it.
-/
import Mathlib.Logic.Function.Basic
import SafeAgent.WorkChains

open PyText

namespace WorkReceipt

open Json PyItems

/-! ## The file system -/

/-- A file of the bundle: what was written, and whether all of it is on the disk. -/
structure KeptFile where
  written : Bytes
  synced : Bool

/-- The file system as the bundle sees it. -/
structure BundleWorld where
  /-- What existed before, by its path; a directory as a file without content. -/
  existing : PyStr → Option KeptFile
  /-- The directory that was made. -/
  made : Option PyStr
  /-- Its files, by their paths. -/
  files : PyStr → Option KeptFile
  /-- Whether the removal of the directory was begun. -/
  cleaning : Bool
  /-- Whether the directory could not be removed after it could not be secured. -/
  stranded : Bool

namespace BundleWorld

/-- Before a call. -/
def start (existing : PyStr → Option KeptFile) : BundleWorld where
  existing := existing
  made := none
  files _ := none
  cleaning := false
  stranded := false

/-- A file of the bundle is put at a path, or removed from it. -/
def put (w : BundleWorld) (path : PyStr) (file : Option KeptFile) : BundleWorld :=
  { w with files := Function.update w.files path file }

/-- The file at a path changes or is removed: one of the bundle, or else one that existed before. -/
def change (w : BundleWorld) (path : PyStr) (f : KeptFile → Option KeptFile) : BundleWorld :=
  match w.files path with
  | some file => w.put path (f file)
  | none => { w with existing := Function.update w.existing path ((w.existing path).bind f) }

/-- A directory is removed with what is in it. -/
def remove (w : BundleWorld) (path : PyStr) : BundleWorld :=
  if w.made = some path then { w with made := none, files := fun _ => none }
  else { w with existing := Function.update w.existing path none }

end BundleWorld

open BundleWorld

/-- What a call does.  Every call may fail, with an `OSError` where it is one on a directory;
what was written is certain once it is synced, and a removal that fails may have removed a part. -/
def Effect (w : BundleWorld) : (o : WorkOp) → Except PyErr o.Val → BundleWorld → Prop
  | .mkdir path, .ok _, w' =>
      w.existing path = none ∧ w.made = none ∧ w' = { w with made := some path }
  | .chmod _, .error e, w' => e.isa .osError = true ∧ w' = w
  | .rmdir path, .ok _, w' => w' = w.remove path
  | .rmdir _, .error e, w' => e.isa .osError = true ∧ w' = { w with stranded := true }
  | .rmtree path, .ok _, w' => w' = { w.remove path with cleaning := true }
  | .rmtree path, .error e, w' =>
      e.isa .osError = true ∧ ∃ left before, (∀ path, left path = none ∨ left path = w.files path) ∧
        (w.made = some path → before = w.existing) ∧
          w' = { w with files := left, existing := before, cleaning := true }
  | .createFile path, .ok _, w' =>
      w.files path = none ∧ w.existing path = none ∧
        w' = w.put path (some { written := [], synced := false })
  | .writeFile path data, .ok _, w' =>
      w' = w.change path fun file => some { written := file.written ++ data, synced := false }
  | .writeFile path _, .error _, w' =>
      ∃ written, w' = w.change path fun _ => some { written, synced := false }
  | .syncFile path, .ok _, w' => w' = w.change path fun file => some { file with synced := true }
  | .readFile path, .ok content, w' =>
      w' = w ∧ ∃ file, w.files path = some file ∧ (file.synced = true → content = file.written)
  | .link source target, .ok _, w' =>
      w.files target = none ∧ w.existing target = none ∧
        ∃ file, w.files source = some file ∧ w' = w.put target (some file)
  | .unlink path, .ok _, w' => w' = w.change path fun _ => none
  | _, _, w' => w' = w

/-! ## What a bundle holds -/

/-- The file that is linked last. -/
def receiptFile (path : PyStr) : PyStr := pathJoin path (py "receipt.json")

/-- The file that it is linked from. -/
def pendingFile (path : PyStr) : PyStr := pathJoin path (py "receipt.pending")

/-- The signed payload of an envelope. -/
def signedPayload (envelope : JsonFields) : JsonFields :=
  wrapperFields (get (wrapperFields (get envelope (py "receipt"))) (py "payload"))

/-- An output is on the disk as the payload records it. -/
def Keeps (w : BundleWorld) (path : PyStr) (payload : JsonFields) (hashKey sizeKey : PyStr) : Prop :=
  ∃ content : Bytes, w.files path = some { written := content, synced := true } ∧
    get payload hashKey = .str (Sha256.sha256Hex content) ∧
    get payload sizeKey = .int (content.length : ℤ)

/-- Both outputs are on the disk as the payload records them. -/
structure KeepsOutputs (w : BundleWorld) (path : PyStr) (payload : JsonFields) : Prop where
  stdout : Keeps w (outputFile path .stdout) payload (py "stdout_sha256") (py "stdout_bytes")
  stderr : Keeps w (outputFile path .stderr) payload (py "stderr_sha256") (py "stderr_bytes")

section Published

variable [Platform]

/-- The receipt is on the disk, with both outputs beside it. -/
structure Published (w : BundleWorld) (path : PyStr) (envelope : JsonFields) : Prop where
  receipt : ∃ rendered, renderWorkReceipt (.value (.obj envelope)) = .ok rendered ∧
    w.files (receiptFile path) = some { written := toAscii (rendered ++ [10]), synced := true }
  outputs : KeepsOutputs w path (signedPayload envelope)

/-- The directory holds the receipt, both outputs, and nothing else. -/
structure Complete (w : BundleWorld) (path : PyStr) (envelope : JsonFields) : Prop where
  made_eq : w.made = some path
  published : Published w path envelope
  nothing_else : ∀ other, other ≠ receiptFile path → other ≠ outputFile path .stdout →
    other ≠ outputFile path .stderr → w.files other = none

/-- **What holds at every cut**: what existed is untouched, and before a removal a receipt that is
there has both outputs beside it. -/
structure Good (existing : PyStr → Option KeptFile) (w : BundleWorld) : Prop where
  existing_eq : w.existing = existing
  published : w.cleaning = false → ∀ path, w.made = some path →
    w.files (receiptFile path) ≠ none → ∃ envelope, Published w path envelope

end Published

/-! ## Paths -/

theorem pathJoin_injective {path a b : PyStr} (h : pathJoin path a = pathJoin path b) : a = b := by
  unfold pathJoin at h
  split_ifs at h
  · exact List.append_cancel_left h
  · exact (List.cons.inj (List.append_cancel_left h)).2

theorem stdout_ne_stderr (path : PyStr) : outputFile path .stdout ≠ outputFile path .stderr :=
  fun h => absurd (pathJoin_injective h) (by decide)

theorem receipt_ne_output (path : PyStr) (stream : OutputStream) :
    receiptFile path ≠ outputFile path stream := by
  cases stream <;> exact fun h => absurd (pathJoin_injective h) (by decide)

theorem pending_ne_output (path : PyStr) (stream : OutputStream) :
    pendingFile path ≠ outputFile path stream := by
  cases stream <;> exact fun h => absurd (pathJoin_injective h) (by decide)

theorem receipt_ne_pending (path : PyStr) : receiptFile path ≠ pendingFile path :=
  fun h => absurd (pathJoin_injective h) (by decide)

/-! ## Changes of one file -/

theorem change_eq {w : BundleWorld} {path : PyStr} {file : KeptFile} (h : w.files path = some file)
    (f : KeptFile → Option KeptFile) : w.change path f = w.put path (f file) := by
  rw [BundleWorld.change, h]

/-- Only the file at `path` may differ. -/
structure OnlyAt (path : PyStr) (w w' : BundleWorld) : Prop where
  existing_eq : w'.existing = w.existing
  made_eq : w'.made = w.made
  cleaning_eq : w'.cleaning = w.cleaning
  stranded_eq : w'.stranded = w.stranded
  files_eq : ∀ other, other ≠ path → w'.files other = w.files other

namespace OnlyAt

variable {path : PyStr} {w w₁ w₂ : BundleWorld}

theorem refl (path : PyStr) (w : BundleWorld) : OnlyAt path w w := ⟨rfl, rfl, rfl, rfl, fun _ _ => rfl⟩

theorem trans (h : OnlyAt path w w₁) (h' : OnlyAt path w₁ w₂) : OnlyAt path w w₂ where
  existing_eq := h'.existing_eq.trans h.existing_eq
  made_eq := h'.made_eq.trans h.made_eq
  cleaning_eq := h'.cleaning_eq.trans h.cleaning_eq
  stranded_eq := h'.stranded_eq.trans h.stranded_eq
  files_eq other hother := (h'.files_eq other hother).trans (h.files_eq other hother)

theorem put (file : Option KeptFile) : OnlyAt path w (w.put path file) :=
  ⟨rfl, rfl, rfl, rfl, fun _ hother => Function.update_of_ne hother _ _⟩

theorem change {file : KeptFile} (h : w.files path = some file) (f : KeptFile → Option KeptFile) :
    OnlyAt path w (w.change path f) := by
  rw [change_eq h]
  exact put _

/-- A file elsewhere is kept as it was. -/
theorem keeps {other : PyStr} {payload : JsonFields} {hashKey sizeKey : PyStr}
    (h : OnlyAt path w w₁) (hother : other ≠ path) (hkeeps : Keeps w other payload hashKey sizeKey) :
    Keeps w₁ other payload hashKey sizeKey := by
  obtain ⟨content, hfile, hvalues⟩ := hkeeps
  exact ⟨content, (h.files_eq other hother).trans hfile, hvalues⟩

end OnlyAt

@[simp] theorem files_put_self (w : BundleWorld) (path : PyStr) (file : Option KeptFile) :
    (w.put path file).files path = file := Function.update_self _ _ _

theorem files_change_self {w : BundleWorld} {path : PyStr} {file : KeptFile}
    (h : w.files path = some file) (f : KeptFile → Option KeptFile) :
    (w.change path f).files path = f file := by
  rw [change_eq h, files_put_self]

/-! ## What leaves the bundle alone -/

section Quiet

open Proc

variable {α β : Type}

/-- Neither the memory nor the file system of the bundle changes, however it ends. -/
def Quiet (m : WorkProc α) : Prop :=
  ∀ (I : BundleWorld → Prop) (s : Bool) (w : BundleWorld), I w →
    Wp Effect I m (fun _ s' w' => s' = s ∧ w' = w) (fun _ s' w' => s' = s ∧ w' = w) s w

theorem quiet_pure (a : α) : Quiet (pure a) := fun _ _ _ hI => (wp_pure a).mpr ⟨hI, rfl, rfl⟩

theorem quiet_throw (e : PyErr) : Quiet (throw e : WorkProc α) := fun _ _ _ hI =>
  (wp_throw e).mpr ⟨hI, rfl, rfl⟩

theorem quiet_ofExcept (r : PyResult α) : Quiet (Proc.ofExcept r) := by
  intro I s w hI
  rw [wp_ofExcept]
  cases r <;> exact ⟨hI, rfl, rfl⟩

theorem quiet_perform {o : WorkOp} (ho : ∀ w r w', Effect w o r w' → w' = w) : Quiet (perform o) := by
  intro I s w hI
  rw [wp_call]
  refine ⟨hI, fun r w' heffect => ?_⟩
  obtain rfl := ho w r w' heffect
  cases r <;> exact ⟨hI, rfl, rfl⟩

theorem quiet_bind {m : WorkProc β} {f : β → WorkProc α} (hm : Quiet m) (hf : ∀ b, Quiet (f b)) :
    Quiet (m >>= f) := by
  intro I s w hI
  rw [wp_bind]
  refine (hm I s w hI).mono ?_ fun _ _ _ _ h => h
  rintro b s' w' hI' ⟨rfl, rfl⟩
  exact hf b I s' w' hI'

theorem quiet_tryCatch {m : WorkProc α} {handler : PyErr → WorkProc α} (hm : Quiet m)
    (hhandler : ∀ e, Quiet (handler e)) : Quiet (tryCatch m handler) := by
  intro I s w hI
  rw [wp_tryCatch]
  refine (hm I s w hI).mono (fun _ _ _ _ h => h) ?_
  rintro e s' w' hI' ⟨rfl, rfl⟩
  exact hhandler e I s' w' hI'

theorem quiet_ite {c : Prop} [Decidable c] {m n : WorkProc α} (hm : Quiet m) (hn : Quiet n) :
    Quiet (if c then m else n) := by
  split_ifs
  · exact hm
  · exact hn

theorem quiet_exceptClass {cls : ErrClass} {wrap : PyErr → PyErr} {m : WorkProc α} (hm : Quiet m) :
    Quiet (exceptClass cls wrap m) :=
  quiet_tryCatch hm fun _ => quiet_ite (quiet_throw _) (quiet_throw _)

theorem quiet_git (root : PyStr) (arguments : List PyStr) : Quiet (git root arguments) := by
  refine quiet_bind (quiet_tryCatch (quiet_perform fun _ _ _ h => h) fun e => ?_) fun _ => quiet_pure _
  exact quiet_ite (quiet_throw _) (quiet_ite (quiet_throw _)
    (quiet_ite (quiet_throw _) (quiet_throw _)))

theorem quiet_inspectCheckout [Platform] (repository : PyStr) (expectedCommit : Option PyStr) :
    Quiet (inspectCheckout repository expectedCommit) := by
  refine quiet_bind (quiet_perform fun _ _ _ h => h) fun expanded => ?_
  refine quiet_bind (quiet_perform fun _ _ _ h => h) fun selected => ?_
  refine quiet_bind (quiet_git _ _) fun rootText => ?_
  refine quiet_bind (quiet_perform fun _ _ _ h => h) fun root => ?_
  refine quiet_bind (quiet_git _ _) fun status => quiet_ite (quiet_throw _) ?_
  refine quiet_bind (quiet_git _ _) fun commit => quiet_ite (quiet_throw _) (quiet_ite (quiet_throw _) ?_)
  refine quiet_bind (quiet_git _ _) fun remote => ?_
  exact quiet_bind (quiet_ofExcept _) fun name => quiet_pure _

theorem quiet_inspectAfter [Platform] (checkout : Checkout) : Quiet (inspectAfter checkout) :=
  quiet_bind (quiet_inspectCheckout _ _) fun _ => quiet_ite (quiet_throw _) (quiet_pure _)

theorem quiet_killGroup (pid : ℕ) : Quiet (killGroup pid) :=
  quiet_tryCatch (quiet_perform fun _ _ _ h => h) fun _ => quiet_ite (quiet_pure _) (quiet_throw _)

theorem quiet_runCommand (argv : List PyStr) (cwd : PyStr) (timeoutMs : ℕ) :
    Quiet (runCommand argv cwd timeoutMs) := by
  refine quiet_bind (quiet_exceptClass (quiet_perform fun _ _ _ h => h)) fun pid => ?_
  refine quiet_tryCatch (quiet_bind (quiet_perform fun _ _ _ h => h) fun code => quiet_pure _) fun e => ?_
  refine quiet_bind (quiet_killGroup pid) fun _ => ?_
  refine quiet_bind (quiet_perform fun _ _ _ h => h) fun _ => ?_
  exact quiet_ite (quiet_pure _) (quiet_throw _)

/-- What comes after a quiet part. -/
theorem wp_after {m : WorkProc β} {f : β → WorkProc α} {I : BundleWorld → Prop}
    {Q : α → Bool → BundleWorld → Prop} {E : PyErr → Bool → BundleWorld → Prop} {s : Bool}
    {w : BundleWorld} (hm : Quiet m) (hI : I w) (hE : ∀ e, E e s w)
    (hf : ∀ b, Wp Effect I (f b) Q E s w) : Wp Effect I (m >>= f) Q E s w := by
  rw [wp_bind]
  refine (hm I s w hI).mono ?_ ?_
  · rintro b s' w' - ⟨rfl, rfl⟩
    exact hf b
  · rintro e s' w' - ⟨rfl, rfl⟩
    exact hE e

/-- Closing changes nothing. -/
theorem wp_closing {close : WorkProc Unit} {body : WorkProc α} {I : BundleWorld → Prop}
    {P : α → BundleWorld → Prop} {L : BundleWorld → Prop} {s : Bool} {w : BundleWorld} (hclose : Quiet close)
    (hPL : ∀ a w', P a w' → L w')
    (hbody : Wp Effect I body (fun a s' w' => s' = s ∧ P a w') (fun _ s' w' => s' = s ∧ L w') s w) :
    Wp Effect I (closing close body) (fun a s' w' => s' = s ∧ P a w')
      (fun _ s' w' => s' = s ∧ L w') s w := by
  unfold closing
  rw [wp_bind, wp_tryCatch]
  refine hbody.mono ?_ ?_
  · rintro a s' w' hI ⟨rfl, hP⟩
    rw [wp_bind]
    refine (hclose I s' w' hI).mono ?_ ?_
    · rintro - s₂ w₂ hI₂ ⟨rfl, rfl⟩
      exact (wp_pure a).mpr ⟨hI₂, rfl, hP⟩
    · rintro e s₂ w₂ - ⟨rfl, rfl⟩
      exact ⟨rfl, hPL a w₂ hP⟩
  · rintro e s' w' hI ⟨rfl, hL⟩
    rw [wp_bind]
    refine (hclose I s' w' hI).mono ?_ ?_
    · rintro - s₂ w₂ hI₂ ⟨rfl, rfl⟩
      exact (wp_throw e).mpr ⟨hI₂, rfl, hL⟩
    · rintro e' s₂ w₂ - ⟨rfl, rfl⟩
      exact ⟨rfl, hL⟩

end Quiet

/-! ## New files -/

section Files

open Proc

variable [Platform] {existing : PyStr → Option KeptFile} {path file : PyStr} {w w' : BundleWorld} {s : Bool}

/-- The directory was made and its removal has not begun. -/
structure Left (path : PyStr) (w : BundleWorld) : Prop where
  made_eq : w.made = some path
  cleaning_eq : w.cleaning = false
  stranded_eq : w.stranded = false

omit [Platform] in
theorem Left.onlyAt (h : Left path w) (hw : OnlyAt file w w') : Left path w' where
  made_eq := hw.made_eq.trans h.made_eq
  cleaning_eq := hw.cleaning_eq.trans h.cleaning_eq
  stranded_eq := hw.stranded_eq.trans h.stranded_eq

/-- The receipt is not there yet. -/
structure Pending (existing : PyStr → Option KeptFile) (path : PyStr) (w : BundleWorld) : Prop where
  left : Left path w
  existing_eq : w.existing = existing
  no_receipt : w.files (receiptFile path) = none

theorem Pending.good (h : Pending existing path w) : Good existing w where
  existing_eq := h.existing_eq
  published _ path' hmade hreceipt := by
    rw [h.left.made_eq] at hmade
    cases hmade
    exact absurd h.no_receipt hreceipt

omit [Platform] in
theorem Pending.onlyAt (h : Pending existing path w) (hw : OnlyAt file w w')
    (hfile : receiptFile path ≠ file) : Pending existing path w' where
  left := h.left.onlyAt hw
  existing_eq := hw.existing_eq.trans h.existing_eq
  no_receipt := (hw.files_eq _ hfile).trans h.no_receipt

/-- A call on one file of a bundle without a receipt. -/
theorem wp_fileCall {o : WorkOp} {Q : o.Val → BundleWorld → Prop} (h : Pending existing path w)
    (hfile : receiptFile path ≠ file)
    (hok : ∀ a w', Effect w o (.ok a) w' → OnlyAt file w w' ∧ Q a w')
    (herror : ∀ e w', Effect w o (.error e) w' → OnlyAt file w w') :
    Wp Effect (Good existing) (perform o) (fun a s' w' => s' = s ∧ OnlyAt file w w' ∧ Q a w')
      (fun _ s' w' => s' = s ∧ OnlyAt file w w') s w := by
  rw [wp_call]
  refine ⟨h.good, fun r w' heffect => ?_⟩
  cases r with
  | ok a =>
      obtain ⟨honly, hQ⟩ := hok a w' heffect
      exact ⟨(h.onlyAt honly hfile).good, rfl, honly, hQ⟩
  | error e =>
      have honly := herror e w' heffect
      exact ⟨(h.onlyAt honly hfile).good, rfl, honly⟩

/-- A file is created, written by `body`, and closed. -/
theorem wp_withNewFile {body : WorkProc Unit} {P : BundleWorld → Prop}
    (h : Pending existing path w) (hfile : receiptFile path ≠ file)
    (hbody : ∀ w₁, Pending existing path w₁ → OnlyAt file w w₁ →
      w₁.files file = some { written := [], synced := false } →
        Wp Effect (Good existing) body (fun _ s' w' => s' = s ∧ OnlyAt file w₁ w' ∧ P w')
          (fun _ s' w' => s' = s ∧ OnlyAt file w₁ w') s w₁) :
    Wp Effect (Good existing) (withNewFile file body)
      (fun _ s' w' => s' = s ∧ OnlyAt file w w' ∧ P w') (fun _ s' w' => s' = s ∧ OnlyAt file w w')
      s w := by
  unfold withNewFile
  rw [wp_bind]
  refine (wp_fileCall (o := .createFile file)
    (Q := fun _ w' => w'.files file = some { written := [], synced := false }) h hfile ?_ ?_).mono
      ?_ fun _ _ _ _ h => h
  · rintro _ w' ⟨-, -, rfl⟩
    exact ⟨OnlyAt.put _, files_put_self _ _ _⟩
  · rintro e w' rfl
    exact OnlyAt.refl file w'
  rintro - s₁ w₁ hI₁ ⟨rfl, honly, hempty⟩
  have h₁ := h.onlyAt honly hfile
  rw [wp_bind, wp_tryCatch]
  have hsecure : Quiet (perform (.secureFile file)) := quiet_perform fun _ _ _ h => h
  have hclose : Quiet (perform (.closeFile file)) := quiet_perform fun _ _ _ h => h
  refine (hsecure (Good existing) s₁ w₁ hI₁).mono ?_ ?_
  · rintro - s₂ w₂ - ⟨rfl, rfl⟩
    refine (wp_closing hclose (fun _ w' hw => hw.1) (hbody w₂ h₁ honly hempty)).mono ?_ ?_
    · rintro _ s₃ w₃ - ⟨rfl, hw₃, hP⟩
      exact ⟨rfl, honly.trans hw₃, hP⟩
    · rintro e s₃ w₃ - ⟨rfl, hw₃⟩
      exact ⟨rfl, honly.trans hw₃⟩
  · rintro e s₂ w₂ hI₂ ⟨rfl, rfl⟩
    rw [wp_bind]
    refine (hclose (Good existing) s₂ w₂ hI₂).mono ?_ ?_
    · rintro - s₃ w₃ hI₃ ⟨rfl, rfl⟩
      exact (wp_throw e).mpr ⟨hI₃, rfl, honly⟩
    · rintro e' s₃ w₃ - ⟨rfl, rfl⟩
      exact ⟨rfl, honly⟩

/-! ## Capturing -/

theorem wp_writeFile {data : Bytes} {old : KeptFile} (h : Pending existing path w)
    (hfile : receiptFile path ≠ file) (hold : w.files file = some old) :
    Wp Effect (Good existing) (perform (.writeFile file data))
      (fun _ s' w' => s' = s ∧ OnlyAt file w w' ∧
        w'.files file = some { written := old.written ++ data, synced := false })
      (fun _ s' w' => s' = s ∧ OnlyAt file w w') s w := by
  refine wp_fileCall (o := .writeFile file data) h hfile ?_ ?_
  · rintro _ w' rfl
    exact ⟨OnlyAt.change hold _, files_change_self hold _⟩
  · rintro e w' ⟨written, rfl⟩
    exact OnlyAt.change hold _

theorem wp_syncFile {old : KeptFile} (h : Pending existing path w)
    (hfile : receiptFile path ≠ file) (hold : w.files file = some old) :
    Wp Effect (Good existing) (perform (.syncFile file))
      (fun _ s' w' => s' = s ∧ OnlyAt file w w' ∧
        w'.files file = some { written := old.written, synced := true })
      (fun _ s' w' => s' = s ∧ OnlyAt file w w') s w := by
  refine wp_fileCall (o := .syncFile file) h hfile ?_ ?_
  · rintro _ w' rfl
    exact ⟨OnlyAt.change hold _, files_change_self hold _⟩
  · rintro e w' rfl
    exact OnlyAt.refl file w'

/-- Chunks are written one after another. -/
theorem wp_copyChunks {chunks : List Bytes} {size : ℕ} (h : Pending existing path w)
    (hfile : receiptFile path ≠ file) (hthere : ∃ old, w.files file = some old) :
    Wp Effect (Good existing) (copyChunks file size chunks)
      (fun _ s' w' => s' = s ∧ OnlyAt file w w' ∧ ∃ old, w'.files file = some old)
      (fun _ s' w' => s' = s ∧ OnlyAt file w w') s w := by
  induction chunks generalizing size w with
  | nil => exact (wp_pure _).mpr ⟨h.good, rfl, OnlyAt.refl file w, hthere⟩
  | cons chunk rest ih =>
      unfold copyChunks
      split_ifs
      · exact (wp_throw _).mpr ⟨h.good, rfl, OnlyAt.refl file w⟩
      obtain ⟨old, hold⟩ := hthere
      rw [wp_bind]
      refine (wp_writeFile h hfile hold).mono ?_ fun _ _ _ _ h => h
      rintro - s₁ w₁ - ⟨rfl, honly, hnew⟩
      refine (ih (h.onlyAt honly hfile) ⟨_, hnew⟩).mono ?_ ?_
      · rintro _ s₂ w₂ - ⟨rfl, honly₂, hthere⟩
        exact ⟨rfl, honly.trans honly₂, hthere⟩
      · rintro e s₂ w₂ - ⟨rfl, honly₂⟩
        exact ⟨rfl, honly.trans honly₂⟩

/-- A file of which all is on the disk. -/
def OnDisk (file : PyStr) (w : BundleWorld) : Prop :=
  ∃ content, w.files file = some { written := content, synced := true }

theorem wp_captureStream {stream : OutputStream} (h : Pending existing path w) :
    Wp Effect (Good existing) (captureStream path stream)
      (fun _ s' w' => s' = s ∧ OnlyAt (outputFile path stream) w w' ∧
        OnDisk (outputFile path stream) w')
      (fun _ s' w' => s' = s ∧ OnlyAt (outputFile path stream) w w') s w := by
  have hfile := receipt_ne_output path stream
  unfold captureStream
  rw [wp_bind]
  refine (quiet_perform (o := .readOutput stream) (fun _ _ _ h => h) (Good existing) s w
    h.good).mono ?_ ?_
  · rintro content s' w' - ⟨rfl, rfl⟩
    refine wp_withNewFile h hfile fun w₁ h₁ _ hempty => ?_
    rw [wp_bind]
    refine (wp_copyChunks h₁ hfile ⟨_, hempty⟩).mono ?_ fun _ _ _ _ h => h
    rintro - s₂ w₂ - ⟨rfl, honly, old, hold⟩
    refine (wp_syncFile (h₁.onlyAt honly hfile) hfile hold).mono ?_ ?_
    · rintro _ s₃ w₃ - ⟨rfl, honly₃, hsynced⟩
      exact ⟨rfl, honly.trans honly₃, _, hsynced⟩
    · rintro e s₃ w₃ - ⟨rfl, honly₃⟩
      exact ⟨rfl, honly.trans honly₃⟩
  · rintro e s' w' - ⟨rfl, rfl⟩
    exact ⟨rfl, OnlyAt.refl _ w'⟩

/-- Both outputs are on the disk, and there is nothing else. -/
structure Captured (existing : PyStr → Option KeptFile) (path : PyStr) (w : BundleWorld) : Prop where
  pending : Pending existing path w
  stdout : OnDisk (outputFile path .stdout) w
  stderr : OnDisk (outputFile path .stderr) w
  nothing_else : ∀ other, other ≠ outputFile path .stdout → other ≠ outputFile path .stderr →
    w.files other = none

omit [Platform] in
theorem wp_exceptClass {α : Type} {cls : ErrClass} {wrap : PyErr → PyErr} {body : WorkProc α}
    {I : BundleWorld → Prop} {Q : α → Bool → BundleWorld → Prop} {E : Bool → BundleWorld → Prop}
    (h : Wp Effect I body Q (fun _ => E) s w) :
    Wp Effect I (exceptClass cls wrap body) Q (fun _ => E) s w := by
  unfold exceptClass
  rw [wp_tryCatch]
  refine h.mono (fun _ _ _ _ hQ => hQ) fun e s' w' hI hE => ?_
  split_ifs <;> exact (wp_throw _).mpr ⟨hI, hE⟩

/-- **The capture.** -/
theorem wp_capture (h : Pending existing path w) (hempty : ∀ other, w.files other = none) :
    Wp Effect (Good existing) (capture path) (fun _ s' w' => s' = s ∧ Captured existing path w')
      (fun _ s' w' => s' = s ∧ Left path w') s w := by
  unfold capture
  refine wp_exceptClass ?_
  rw [wp_bind]
  refine (wp_captureStream h).mono ?_ ?_
  · rintro - s₁ w₁ - ⟨rfl, honly₁, content₁, hfile₁⟩
    have h₁ := h.onlyAt honly₁ (receipt_ne_output path .stdout)
    refine (wp_captureStream h₁).mono ?_ ?_
    · rintro _ s₂ w₂ - ⟨rfl, honly₂, hstderr⟩
      refine ⟨rfl, h₁.onlyAt honly₂ (receipt_ne_output path .stderr), ⟨content₁, ?_⟩, hstderr, ?_⟩
      · rw [honly₂.files_eq _ (stdout_ne_stderr path)]
        exact hfile₁
      · intro other hstdout hstderr'
        rw [honly₂.files_eq _ hstderr', honly₁.files_eq _ hstdout]
        exact hempty other
    · rintro e s₂ w₂ - ⟨rfl, honly₂⟩
      exact ⟨rfl, h₁.left.onlyAt honly₂⟩
  · rintro e s₁ w₁ - ⟨rfl, honly₁⟩
    exact ⟨rfl, h.left.onlyAt honly₁⟩

/-! ## Publishing -/

/-- **The check of one output** leaves it as it is, and compares all of it. -/
theorem wp_checkKept {payload : JsonFields} {stream : OutputStream} {label : String}
    {hashKey sizeKey : PyStr} (hw : Good existing w) (hdisk : OnDisk (outputFile path stream) w) :
    Wp Effect (Good existing) (checkKept path payload stream label hashKey sizeKey)
      (fun _ s' w' => s' = s ∧ w' = w ∧ Keeps w (outputFile path stream) payload hashKey sizeKey)
      (fun _ s' w' => s' = s ∧ w' = w) s w := by
  unfold checkKept
  rw [wp_bind, wp_call]
  refine ⟨hw, fun r w' heffect => ?_⟩
  cases r with
  | error e =>
      obtain rfl := heffect
      exact ⟨hw, rfl, rfl⟩
  | ok content =>
      obtain ⟨rfl, file, hfile, hread⟩ := heffect
      obtain ⟨written, hwritten⟩ := hdisk
      rw [hwritten] at hfile
      cases hfile
      have hcontent : content = written := hread rfl
      subst hcontent
      refine ⟨hw, ?_⟩
      dsimp only
      rw [wp_bind, wp_ofExcept]
      refine ⟨hw, ?_⟩
      unfold hashFile
      split_ifs
      · exact ⟨rfl, rfl⟩
      · dsimp only
        by_cases hdiffers : ¬(get payload hashKey).isStr (Sha256.sha256Hex content) ∨
            (get payload sizeKey).asInt ≠ some (content.length : ℤ)
        · rw [if_pos hdiffers]
          exact (wp_throw _).mpr ⟨hw, rfl, rfl⟩
        · rw [if_neg hdiffers]
          rw [not_or, not_not, not_not] at hdiffers
          exact (wp_pure _).mpr ⟨hw, rfl, rfl, content, hwritten, isStr_iff.mp hdiffers.1,
            Audit.eq_int_of_asInt hdiffers.2⟩

theorem good_of_published {envelope : JsonFields} (hexisting : w.existing = existing)
    (hmade : w.made = some path) (h : Published w path envelope) : Good existing w where
  existing_eq := hexisting
  published _ path' hmade' _ := by
    rw [hmade] at hmade'
    cases hmade'
    exact ⟨envelope, h⟩

/-- The text of the receipt is on the disk, under its first name. -/
theorem wp_writePending {envelope : JsonFields} (h : Pending existing path w) :
    Wp Effect (Good existing)
      (withNewFile (pendingFile path) do
        let rendered ← Proc.ofExcept (renderWorkReceipt (.value (.obj envelope)))
        perform (.writeFile (pendingFile path) (toAscii (rendered ++ [10])))
        perform (.syncFile (pendingFile path)))
      (fun _ s' w' => s' = s ∧ OnlyAt (pendingFile path) w w' ∧
        ∃ rendered, renderWorkReceipt (.value (.obj envelope)) = .ok rendered ∧
          w'.files (pendingFile path) =
            some { written := toAscii (rendered ++ [10]), synced := true })
      (fun _ s' w' => s' = s ∧ OnlyAt (pendingFile path) w w') s w := by
  have hfile := receipt_ne_pending path
  refine wp_withNewFile h hfile fun w₁ h₁ _ hempty => ?_
  rw [wp_bind, wp_ofExcept]
  refine ⟨h₁.good, ?_⟩
  cases hrendered : renderWorkReceipt (.value (.obj envelope)) with
  | error e => exact ⟨rfl, OnlyAt.refl _ w₁⟩
  | ok rendered =>
      dsimp only
      rw [wp_bind]
      refine (wp_writeFile h₁ hfile hempty).mono ?_ fun _ _ _ _ h => h
      rintro - s₂ w₂ - ⟨rfl, honly₂, hwritten⟩
      refine (wp_syncFile (h₁.onlyAt honly₂ hfile) hfile hwritten).mono ?_ ?_
      · rintro _ s₃ w₃ - ⟨rfl, honly₃, hsynced⟩
        exact ⟨rfl, honly₂.trans honly₃, rendered, rfl, hsynced⟩
      · rintro e s₃ w₃ - ⟨rfl, honly₃⟩
        exact ⟨rfl, honly₂.trans honly₃⟩

omit [Platform] in
/-- What is kept of the outputs does not depend on another file. -/
theorem KeepsOutputs.onlyAt {payload : JsonFields} (h : KeepsOutputs w path payload)
    (hw : OnlyAt file w w') (hfile : ∀ stream, file ≠ outputFile path stream) :
    KeepsOutputs w' path payload where
  stdout := hw.keeps (hfile .stdout).symm h.stdout
  stderr := hw.keeps (hfile .stderr).symm h.stderr

/-- The receipt is visible, and the file that it was written to goes. -/
theorem wp_removePending {envelope : JsonFields} {receipt : KeptFile} (hgood : Good existing w)
    (hexisting : w.existing = existing) (hleft : Left path w) (hpublished : Published w path envelope)
    (hpending : w.files (pendingFile path) = some receipt)
    (hnothing : ∀ other, other ≠ pendingFile path → other ≠ receiptFile path →
      other ≠ outputFile path .stdout → other ≠ outputFile path .stderr → w.files other = none) :
    Wp Effect (Good existing) (do
      perform (.unlink (pendingFile path))
      perform (.syncDirectory path)
      set true) (fun _ s' w' => s' = true ∧ Left path w' ∧ Complete w' path envelope)
      (fun _ s' w' => s' = s ∧ Left path w') s w := by
  rw [wp_bind, wp_call]
  refine ⟨hgood, fun r w₁ heffect => ?_⟩
  cases r with
  | error e =>
      obtain rfl := heffect
      exact ⟨hgood, rfl, hleft⟩
  | ok _ =>
      -- only the name under which the receipt was written is gone
      obtain rfl : w₁ = w.put (pendingFile path) none := Eq.trans heffect (change_eq hpending _)
      have honly : OnlyAt (pendingFile path) w (w.put (pendingFile path) none) := OnlyAt.put _
      obtain ⟨rendered, hrendered, hreceipt⟩ := hpublished.receipt
      have hpublished₁ : Published (w.put (pendingFile path) none) path envelope :=
        ⟨⟨rendered, hrendered, (honly.files_eq _ (receipt_ne_pending path)).trans hreceipt⟩,
          hpublished.outputs.onlyAt honly (pending_ne_output path)⟩
      have hleft₁ := hleft.onlyAt honly
      have hgood₁ := good_of_published (honly.existing_eq.trans hexisting) hleft₁.made_eq hpublished₁
      refine ⟨hgood₁, ?_⟩
      dsimp only
      rw [wp_bind]
      refine (quiet_perform (o := .syncDirectory path) (fun _ _ _ h => h) (Good existing) s _
        hgood₁).mono ?_ ?_
      · rintro - s₂ w₂ hgood₂ ⟨rfl, rfl⟩
        refine (wp_set _).mpr ⟨hgood₂, rfl, hleft₁, hleft₁.made_eq, hpublished₁, ?_⟩
        intro other hreceipt' hstdout hstderr
        by_cases hother : other = pendingFile path
        · rw [hother]
          exact files_put_self _ _ _
        · rw [honly.files_eq _ hother]
          exact hnothing other hother hreceipt' hstdout hstderr
      · rintro e s₂ w₂ - ⟨rfl, rfl⟩
        exact ⟨rfl, hleft₁⟩

/-- **The last part of `finish`**: the link makes the receipt visible, with everything beside it. -/
theorem wp_publish {envelope : JsonFields} {rendered : PyStr} {receipt : KeptFile}
    (h : Pending existing path w)
    (houtputs : KeepsOutputs w path (signedPayload envelope))
    (hrendered : renderWorkReceipt (.value (.obj envelope)) = .ok rendered)
    (hreceipt : receipt = { written := toAscii (rendered ++ [10]), synced := true })
    (hpending : w.files (pendingFile path) = some receipt)
    (hnothing : ∀ other, other ≠ pendingFile path → other ≠ outputFile path .stdout →
      other ≠ outputFile path .stderr → w.files other = none) :
    Wp Effect (Good existing) (do
      perform (.link (pendingFile path) (receiptFile path))
      perform (.unlink (pendingFile path))
      perform (.syncDirectory path)
      set true) (fun _ s' w' => s' = true ∧ Left path w' ∧ Complete w' path envelope)
      (fun _ s' w' => s' = s ∧ Left path w') s w := by
  rw [wp_bind, wp_call]
  refine ⟨h.good, fun r w₁ heffect => ?_⟩
  cases r with
  | error e =>
      obtain rfl := heffect
      exact ⟨h.good, rfl, h.left⟩
  | ok _ =>
      obtain ⟨-, -, linked, hlinked, rfl⟩ := heffect
      rw [hpending] at hlinked
      cases hlinked
      -- the link adds a name for what was written and synced
      have honly : OnlyAt (receiptFile path) w (w.put (receiptFile path) (some receipt)) := OnlyAt.put _
      have hpublished : Published (w.put (receiptFile path) (some receipt)) path envelope :=
        ⟨⟨rendered, hrendered, hreceipt ▸ files_put_self _ _ _⟩,
          houtputs.onlyAt honly (receipt_ne_output path)⟩
      have hexisting := honly.existing_eq.trans h.existing_eq
      have hgood := good_of_published hexisting (honly.made_eq.trans h.left.made_eq) hpublished
      refine ⟨hgood, wp_removePending hgood hexisting (h.left.onlyAt honly) hpublished
        ((honly.files_eq _ (receipt_ne_pending path).symm).trans hpending) ?_⟩
      intro other hother hreceipt' hstdout hstderr
      rw [honly.files_eq _ hreceipt']
      exact hnothing other hother hstdout hstderr

/-- **The completion.** -/
theorem wp_finish {payload envelope : JsonFields} (h : Captured existing path w)
    (hpayload : signedPayload envelope = payload) :
    Wp Effect (Good existing) (finish path payload envelope)
      (fun _ s' w' => s' = true ∧ Left path w' ∧ Complete w' path envelope)
      (fun _ s' w' => s' = s ∧ Left path w') s w := by
  unfold finish
  refine wp_exceptClass ?_
  rw [wp_bind]
  refine (wp_checkKept h.pending.good h.stdout).mono ?_ ?_
  case refine_2 =>
    rintro e s₁ w₁ - ⟨rfl, rfl⟩
    exact ⟨rfl, h.pending.left⟩
  rintro - s₁ w₁ - ⟨rfl, rfl, hstdout⟩
  rw [wp_bind]
  refine (wp_checkKept h.pending.good h.stderr).mono ?_ ?_
  case refine_2 =>
    rintro e s₂ w₂ - ⟨rfl, rfl⟩
    exact ⟨rfl, h.pending.left⟩
  rintro - s₂ w₂ - ⟨rfl, rfl, hstderr⟩
  dsimp only
  rw [wp_bind]
  refine (wp_writePending h.pending).mono ?_ ?_
  case refine_2 =>
    rintro e s₃ w₃ - ⟨rfl, honly⟩
    exact ⟨rfl, h.pending.left.onlyAt honly⟩
  rintro - s₃ w₃ - ⟨rfl, honly, rendered, hrendered, hpending⟩
  -- both outputs are as they were hashed, and the receipt is written under another name
  have h₃ := h.pending.onlyAt honly (receipt_ne_pending path)
  rw [wp_bind]
  refine (quiet_perform (o := .syncDirectory path) (fun _ _ _ h => h) (Good existing) s₃ w₃
    h₃.good).mono ?_ ?_
  · rintro - s₄ w₄ - ⟨rfl, rfl⟩
    have houtputs : KeepsOutputs w₂ path payload := ⟨hstdout, hstderr⟩
    refine wp_publish h₃ ?_ hrendered rfl hpending ?_
    · rw [hpayload]
      exact houtputs.onlyAt honly (pending_ne_output path)
    · intro other hother hother₁ hother₂
      rw [honly.files_eq _ hother]
      exact h.nothing_else other hother₁ hother₂
  · rintro e s₄ w₄ - ⟨rfl, rfl⟩
    exact ⟨rfl, h₃.left⟩

/-! ## The directory -/

/-- The error of a directory that could not be removed. -/
def incompleteError : PyErr :=
  workReceiptError "incomplete output bundle remains; inspect the chosen directory manually"

omit [Platform] in
/-- Nothing was made, or it was removed. -/
structure Gone (w : BundleWorld) : Prop where
  made_eq : w.made = none
  files_eq : ∀ other, w.files other = none

/-- What is left after a call that raised: nothing; or a directory that could not be removed,
with the error that says so; or one that could neither be secured nor removed. -/
def Outcome (e : PyErr) (w : BundleWorld) : Prop :=
  Gone w ∧ w.stranded = false ∨
    (w.cleaning = true ∧ e = incompleteError) ∧ w.stranded = false ∨
    w.stranded = true ∧ w.made ≠ none ∧ e.isa .osError = true

/-- **The exit**, of a `with` block that raised or returned. -/
theorem wp_exitBundle_incomplete (hw : Good existing w) (h : Left path w) :
    Wp Effect (Good existing) (exitBundle path) (fun _ _ w' => Gone w' ∧ w'.stranded = false)
      (fun e _ w' => Outcome e w') false w := by
  unfold exitBundle
  rw [wp_bind, wp_get]
  refine ⟨hw, ?_⟩
  rw [if_neg Bool.false_ne_true]
  unfold exceptClass
  rw [wp_tryCatch, wp_call]
  refine ⟨hw, fun r w' heffect => ?_⟩
  have hremove : w.remove path = { w with made := none, files := fun _ => none } :=
    if_pos h.made_eq
  cases r with
  | ok _ =>
      obtain rfl := heffect
      rw [hremove]
      exact ⟨⟨hw.existing_eq, fun hcleaning => by cases hcleaning⟩, ⟨rfl, fun _ => rfl⟩, h.stranded_eq⟩
  | error e =>
      obtain ⟨hos, left, before, -, hbefore, rfl⟩ := heffect
      obtain rfl := hbefore h.made_eq
      have hgood : Good existing { w with files := left, cleaning := true } :=
        ⟨hw.existing_eq, fun hcleaning => by cases hcleaning⟩
      refine ⟨hgood, ?_⟩
      dsimp only
      rw [if_pos hos]
      exact (wp_throw _).mpr ⟨hgood, Or.inr (Or.inl ⟨⟨rfl, rfl⟩, h.stranded_eq⟩)⟩

theorem wp_exitBundle_complete (hw : Good existing w) :
    Wp Effect (Good existing) (exitBundle path) (fun _ _ w' => w' = w) (fun _ _ _ => False) true w := by
  unfold exitBundle
  rw [wp_bind, wp_get]
  exact ⟨hw, (wp_pure _).mpr ⟨hw, rfl⟩⟩

omit [Platform] in
/-- Nothing was made yet. -/
structure Fresh (existing : PyStr → Option KeptFile) (w : BundleWorld) : Prop where
  existing_eq : w.existing = existing
  gone : Gone w
  cleaning_eq : w.cleaning = false
  stranded_eq : w.stranded = false

theorem Fresh.good (h : Fresh existing w) : Good existing w where
  existing_eq := h.existing_eq
  published _ path hmade := by
    rw [h.gone.made_eq] at hmade
    cases hmade

omit [Platform] in
theorem Fresh.outcome {e : PyErr} (h : Fresh existing w) : Outcome e w :=
  Or.inl ⟨h.gone, h.stranded_eq⟩

/-- **The entry**: the directory is made and secured, or nothing is left, or it can neither be
secured nor removed. -/
theorem wp_enterBundle (h : Fresh existing w) :
    Wp Effect (Good existing) (enterBundle path)
      (fun _ s' w' => s' = s ∧ Pending existing path w' ∧ ∀ other, w'.files other = none)
      (fun e _ w' => Outcome e w') s w := by
  unfold enterBundle
  rw [wp_bind]
  unfold exceptClass
  rw [wp_tryCatch, wp_call]
  refine ⟨h.good, fun r w₁ heffect => ?_⟩
  cases r with
  | error e =>
      obtain rfl := heffect
      refine ⟨h.good, ?_⟩
      dsimp only
      split_ifs <;> exact (wp_throw _).mpr ⟨h.good, h.outcome⟩
  | ok _ =>
      obtain ⟨-, -, rfl⟩ := heffect
      have hpending : Pending existing path { w with made := some path } :=
        ⟨⟨rfl, h.cleaning_eq, h.stranded_eq⟩, h.existing_eq, h.gone.files_eq _⟩
      refine ⟨hpending.good, ?_⟩
      dsimp only
      rw [wp_tryCatch, wp_call]
      refine ⟨hpending.good, fun r w₂ heffect => ?_⟩
      cases r with
      | ok _ =>
          obtain rfl := heffect
          exact ⟨hpending.good, rfl, hpending, h.gone.files_eq⟩
      | error e =>
          obtain ⟨hos, rfl⟩ := heffect
          refine ⟨hpending.good, ?_⟩
          dsimp only
          rw [if_pos hos, wp_bind, wp_call]
          refine ⟨hpending.good, fun r w₃ heffect => ?_⟩
          cases r with
          | ok _ =>
              have hremove : ({ w with made := some path } : BundleWorld).remove path =
                  { w with made := none, files := fun _ => none } := if_pos rfl
              obtain rfl := heffect
              rw [hremove]
              have hfresh : Fresh existing { w with made := none, files := fun _ => none } :=
                ⟨h.existing_eq, ⟨rfl, fun _ => rfl⟩, h.cleaning_eq, h.stranded_eq⟩
              exact ⟨hfresh.good, (wp_throw _).mpr ⟨hfresh.good, hfresh.outcome⟩⟩
          | error e' =>
              -- the directory remains, and what is raised is the error of `rmdir`
              obtain ⟨hos', rfl⟩ := heffect
              refine ⟨⟨h.existing_eq, fun _ path' hmade hreceipt => ?_⟩, Or.inr (Or.inr ⟨rfl, ?_, hos'⟩)⟩
              · exact absurd (h.gone.files_eq _) hreceipt
              · rintro ⟨⟩

/-! ## The call -/

theorem wp_execute {checkout : Checkout} {command : Json} {timeoutMs : ℕ}
    (h : Pending existing path w) (hempty : ∀ other, w.files other = none) :
    Wp Effect (Good existing) (execute checkout command timeoutMs (some (capture path)))
      (fun _ s' w' => s' = s ∧ Captured existing path w') (fun _ s' w' => s' = s ∧ Left path w')
      s w := by
  have hleft : ∀ e : PyErr, (fun (_ : PyErr) s' w' => s' = s ∧ Left path w') e s w := fun _ =>
    ⟨rfl, h.left⟩
  unfold execute
  refine wp_after (quiet_ofExcept _) h.good hleft fun argv => ?_
  refine wp_after (quiet_perform (o := .clock) fun _ _ _ h => h) h.good hleft fun startClock => ?_
  refine wp_after (quiet_ofExcept _) h.good hleft fun startedAt => ?_
  refine wp_after (quiet_perform (o := .startTimer) fun _ _ _ h => h) h.good hleft fun _ => ?_
  refine wp_after (quiet_perform (o := .openOutputs) fun _ _ _ h => h) h.good hleft fun _ => ?_
  refine wp_closing (quiet_perform (o := .closeOutputs) fun _ _ _ h => h)
    (fun _ w' h' => h'.pending.left) ?_
  refine wp_after (quiet_runCommand _ _ _) h.good hleft fun returned => ?_
  refine wp_after (quiet_perform (o := .elapsedMs) fun _ _ _ h => h) h.good hleft fun elapsed => ?_
  refine wp_after (quiet_perform (o := .clock) fun _ _ _ h => h) h.good hleft fun endClock => ?_
  refine wp_after (quiet_ofExcept _) h.good hleft fun completedAt => ?_
  refine wp_after (quiet_perform (o := .readOutput .stdout) fun _ _ _ h => h) h.good hleft
    fun stdout => ?_
  refine wp_after (quiet_ofExcept _) h.good hleft fun hashedOut => ?_
  refine wp_after (quiet_perform (o := .readOutput .stderr) fun _ _ _ h => h) h.good hleft
    fun stderr => ?_
  refine wp_after (quiet_ofExcept _) h.good hleft fun hashedErr => ?_
  rw [wp_bind]
  refine (wp_capture h hempty).mono ?_ fun _ _ _ _ h => h
  rintro - s' w' - ⟨rfl, hcaptured⟩
  exact (wp_pure _).mpr ⟨hcaptured.pending.good, rfl, hcaptured⟩

/-- The payload of a new envelope is the one it was made of. -/
theorem signedPayload_newEnvelope {payload envelope : JsonFields} {key : Platform.PrivateKey}
    (h : newEnvelope payload key = .ok envelope) : signedPayload envelope = payload := by
  obtain ⟨wrapper, -, hwrapper, rfl, -⟩ := newEnvelope_ok h
  obtain ⟨canonical, signature, -, -, rfl⟩ := signedWrapper_ok hwrapper
  rfl

/-- **The `with` block.** -/
theorem wp_recordExecution {checkout : Checkout} {command : Json} {issuerDid : PyStr}
    {privateKey : Platform.PrivateKey} {timeoutMs : ℕ} (h : Pending existing path w)
    (hempty : ∀ other, w.files other = none) :
    Wp Effect (Good existing)
      (recordExecution checkout command issuerDid privateKey timeoutMs (some path))
      (fun envelope s' w' => s' = true ∧ Left path w' ∧ Complete w' path envelope)
      (fun _ s' w' => s' = s ∧ Left path w') s w := by
  unfold recordExecution
  rw [wp_bind]
  refine (wp_execute h hempty).mono ?_ fun _ _ _ _ h => h
  rintro execution s₁ w₁ - ⟨rfl, hcaptured⟩
  have hleft : ∀ e : PyErr, (fun (_ : PyErr) s' w' => s' = s₁ ∧ Left path w') e s₁ w₁ := fun _ =>
    ⟨rfl, hcaptured.pending.left⟩
  have hgood := hcaptured.pending.good
  refine wp_after (quiet_inspectAfter _) hgood hleft fun _ => ?_
  refine wp_after (quiet_ofExcept _) hgood hleft fun argv => ?_
  dsimp only
  rw [wp_bind, wp_ofExcept]
  refine ⟨hgood, ?_⟩
  cases henvelope : newEnvelope (workPayload issuerDid checkout argv timeoutMs execution) privateKey with
  | error e => exact hleft e
  | ok envelope =>
      dsimp only
      rw [wp_bind]
      refine (wp_finish hcaptured (signedPayload_newEnvelope henvelope)).mono ?_ fun _ _ _ _ h => h
      rintro - s₂ w₂ hgood₂ hcomplete
      exact (wp_pure _).mpr ⟨hgood₂, hcomplete⟩

/-- The arguments of `OutputBundle` are looked at; nothing is made. -/
theorem wp_openBundle {destination checkout : PyStr} (hw : Good existing w) :
    Wp Effect (Good existing) (openBundle destination checkout)
      (fun _ s' w' => s' = false ∧ w' = w) (fun _ _ w' => w' = w) s w := by
  unfold openBundle
  refine wp_after (quiet_perform (o := .isPosix) fun _ _ _ h => h) hw (fun _ => rfl) fun posix => ?_
  by_cases hposix : ¬posix = true
  · rw [if_pos hposix]
    exact (wp_throw _).mpr ⟨hw, rfl⟩
  rw [if_neg hposix]
  refine wp_after (quiet_perform (o := .expandUser destination) fun _ _ _ h => h) hw (fun _ => rfl)
    fun selected => ?_
  refine wp_after (quiet_exceptClass (quiet_perform fun _ _ _ h => h)) hw (fun _ => rfl)
    fun parent => ?_
  refine wp_after (quiet_exceptClass (quiet_perform fun _ _ _ h => h)) hw (fun _ => rfl) fun info => ?_
  dsimp only
  split_ifs
  · exact (wp_throw _).mpr ⟨hw, rfl⟩
  · exact (wp_throw _).mpr ⟨hw, rfl⟩
  · rw [wp_bind, wp_set]
    exact ⟨hw, (wp_pure _).mpr ⟨hw, rfl, rfl⟩⟩

/-- **`create_work_receipt` with an output directory.** -/
theorem wp_createWorkReceipt (repository : PyStr) (command : Json) (issuerDid : PyStr)
    (privateKey : Platform.PrivateKey) (timeout : Option ℚ) (directory : PyStr)
    (h : Fresh existing w) :
    Wp Effect (Good existing)
      (createWorkReceipt repository command issuerDid privateKey timeout (some directory))
      (fun envelope _ w' => w'.stranded = false ∧ ∃ path, Complete w' path envelope)
      (fun e _ w' => Outcome e w') s w := by
  have hw := h.good
  have houtcome : ∀ e, Outcome e w := fun _ => h.outcome
  unfold createWorkReceipt
  refine wp_after (quiet_ofExcept _) hw houtcome fun _ => ?_
  refine wp_after (quiet_inspectCheckout _ _) hw houtcome fun checkout => ?_
  refine wp_after (quiet_ofExcept _) hw houtcome fun timeoutMs => ?_
  dsimp only
  rw [wp_bind]
  refine (wp_openBundle hw).mono ?_ ?_
  case refine_2 =>
    rintro e s₁ w₁ - rfl
    exact houtcome e
  rintro path s₁ w₁ - ⟨rfl, rfl⟩
  rw [wp_bind]
  refine (wp_enterBundle h).mono ?_ fun _ _ _ _ h => h
  rintro - s₂ w₂ - ⟨rfl, hpending, hempty⟩
  unfold closing
  rw [wp_bind, wp_tryCatch]
  refine (wp_recordExecution hpending hempty).mono ?_ ?_
  · rintro envelope s₃ w₃ hgood ⟨rfl, hleft, hcomplete⟩
    rw [wp_bind]
    refine (wp_exitBundle_complete hgood).mono ?_ fun _ _ _ _ h => h.elim
    rintro - s₄ w₄ hgood₄ rfl
    exact (wp_pure envelope).mpr ⟨hgood₄, hleft.stranded_eq, path, hcomplete⟩
  · rintro e s₃ w₃ hgood ⟨rfl, hleft⟩
    rw [wp_bind]
    refine (wp_exitBundle_incomplete hgood hleft).mono ?_ fun _ _ _ _ h => h
    rintro - s₄ w₄ hgood₄ hgone
    exact (wp_throw e).mpr ⟨hgood₄, Or.inl hgone⟩

end Files

section Result

variable [Platform]

/-- A call that returned has left the complete directory; one that raised has left nothing, or
says that it could not remove the directory. -/
def AllOrNothing (r : PyResult JsonFields) (w : BundleWorld) : Prop :=
  (∀ envelope, r = .ok envelope → ∃ path, Complete w path envelope) ∧
    ∀ e, r = .error e → Gone w ∨ w.cleaning = true ∧ e = incompleteError

/-- **Output bundles are all-or-nothing**, wherever the file system fails, exactly when the new
directory is not one that could neither be secured nor removed.  What existed before is
untouched, and at every cut before a removal a receipt that is there has both outputs beside it. -/
theorem bundle_allOrNothing (existing : PyStr → Option KeptFile) (repository : PyStr) (command : Json)
    (issuerDid : PyStr) (privateKey : Platform.PrivateKey) (timeout : Option ℚ)
    (directory : PyStr) (s : Bool) :
    (∀ r s' w', EffTree.Returns Effect
        (createWorkReceipt repository command issuerDid privateKey timeout (some directory) s)
        (start existing) (r, s') w' → (AllOrNothing r w' ↔ w'.stranded = false)) ∧
    ∀ w', EffTree.Reaches Effect
        (createWorkReceipt repository command issuerDid privateKey timeout (some directory) s)
        (start existing) w' → Good existing w' := by
  have hfresh : Fresh existing (start existing) := ⟨rfl, ⟨rfl, fun _ => rfl⟩, rfl, rfl⟩
  have hwp := wp_createWorkReceipt repository command issuerDid privateKey timeout directory (s := s)
    hfresh
  refine ⟨fun r s' w' hreturns => ?_, fun w' hreach => hwp.invariant hreach⟩
  cases r with
  | ok envelope =>
      obtain ⟨hstranded, hcomplete⟩ := hwp.post hreturns
      refine iff_of_true ⟨fun envelope' h => ?_, fun e h => by cases h⟩ hstranded
      cases h
      exact hcomplete
  | error e =>
      rcases hwp.post_error hreturns with ⟨hgone, hstranded⟩ | ⟨hincomplete, hstranded⟩ |
          ⟨hstranded, hmade, hos⟩
      · exact iff_of_true ⟨fun envelope h => (by cases h), fun e' _ => Or.inl hgone⟩ hstranded
      · refine iff_of_true ⟨fun envelope h => (by cases h), fun e' h => ?_⟩ hstranded
        cases h
        exact Or.inr hincomplete
      · refine iff_of_false (fun hall => ?_) (by rw [hstranded]; exact Bool.noConfusion)
        rcases hall.2 e rfl with hgone | ⟨-, hincomplete⟩
        · exact hmade hgone.made_eq
        · rw [hincomplete] at hos
          cases hos

end Result

/-! ## A directory that stays, and one that is kept -/

section Example

open Sample

/-- The new directory can neither be secured nor removed; nothing else fails. -/
def strandedAnswer (w : BundleWorld) : (o : WorkOp) → Except PyErr o.Val × BundleWorld
  | .mkdir path => (.ok (), { w with made := some path })
  | .chmod _ => (.error (.of .osError "Operation not permitted"), w)
  | .rmdir _ => (.error (.of .osError "Directory not empty"), { w with stranded := true })
  | o => ((workAnswer () o).1, w)

/-- The calls up to the directory that stays. -/
def strandedCall (w : BundleWorld) : WorkOp → Bool
  | .mkdir path => (w.existing path).isNone && w.made.isNone
  | .chmod _ => true
  | .rmdir _ => true
  | .expandUser _ => true
  | .resolve _ => true
  | .git _ _ => true
  | .isPosix => true
  | .strictParent _ => true
  | .statParent _ => true
  | _ => false

theorem effect_strandedAnswer (w : BundleWorld) (o : WorkOp) (h : strandedCall w o = true) :
    Effect w o (strandedAnswer w o).1 (strandedAnswer w o).2 := by
  cases o with
  | mkdir path =>
      simp only [strandedCall, Bool.and_eq_true, Option.isNone_iff_eq_none] at h
      exact ⟨h.1, h.2, rfl⟩
  | chmod path => exact ⟨rfl, rfl⟩
  | rmdir path => exact ⟨rfl, rfl⟩
  | expandUser path => rfl
  | resolve path => rfl
  | git root arguments => rfl
  | isPosix => rfl
  | strictParent path => rfl
  | statParent parent => rfl
  | _ => cases h

/-- A call with a new directory. -/
def bundledReceipt : WorkProc JsonFields :=
  createWorkReceipt (py "/work") (.arr [.str (py "true")]) did key (some 300) (some (py "/private/out"))

/-- What it ends with. -/
def strandedResult : (Except PyErr JsonFields × Bool) × BundleWorld :=
  EffTree.run strandedAnswer (bundledReceipt false) (start fun _ => none)

theorem returns_stranded : EffTree.Returns Effect (bundledReceipt false) (start fun _ => none)
    strandedResult.1 strandedResult.2 :=
  EffTree.returns_runAll effect_strandedAnswer (by decide +kernel)

/-- Nothing fails that can be done, and what is written is kept. -/
def keepingAnswer (w : BundleWorld) : (o : WorkOp) → Except PyErr o.Val × BundleWorld
  | .mkdir path =>
      if w.existing path = none ∧ w.made = none then (.ok (), { w with made := some path })
      else (.error (.of .fileExistsError "File exists"), w)
  | .rmdir path => (.ok (), w.remove path)
  | .rmtree path => (.ok (), { w.remove path with cleaning := true })
  | .createFile path =>
      if w.files path = none ∧ w.existing path = none then
        (.ok (), w.put path (some { written := [], synced := false }))
      else (.error (.of .fileExistsError "File exists"), w)
  | .writeFile path data =>
      (.ok (), w.change path fun file => some { written := file.written ++ data, synced := false })
  | .syncFile path => (.ok (), w.change path fun file => some { file with synced := true })
  | .readFile path =>
      match w.files path with
      | some file => (.ok file.written, w)
      | none => (.error (.of .fileNotFoundError "No such file or directory"), w)
  | .link source target =>
      match w.files source with
      | some file =>
          if w.files target = none ∧ w.existing target = none then
            (.ok (), w.put target (some file))
          else (.error (.of .fileExistsError "File exists"), w)
      | none => (.error (.of .fileNotFoundError "No such file or directory"), w)
  | .unlink path => (.ok (), w.change path fun _ => none)
  | o => ((workAnswer () o).1, w)

theorem effect_keepingAnswer (w : BundleWorld) (o : WorkOp) :
    Effect w o (keepingAnswer w o).1 (keepingAnswer w o).2 := by
  cases o with
  | mkdir path =>
      simp only [keepingAnswer]
      split_ifs with h
      · exact ⟨h.1, h.2, rfl⟩
      · rfl
  | createFile path =>
      simp only [keepingAnswer]
      split_ifs with h
      · exact ⟨h.1, h.2, rfl⟩
      · rfl
  | readFile path =>
      unfold keepingAnswer
      dsimp only
      split
      · rename_i file hfile
        exact ⟨rfl, file, hfile, fun _ => rfl⟩
      · rfl
  | link source target =>
      unfold keepingAnswer
      dsimp only
      split
      · rename_i file hfile
        split_ifs with h
        · exact ⟨h.1, h.2, file, hfile, rfl⟩
        · rfl
      · rfl
  | _ => rfl

/-- A directory with a file that was there before. -/
def neighbour (path : PyStr) : Option KeptFile :=
  if path = py "/private/other" then some { written := [1, 2, 3], synced := true } else none

/-- What a call ends with where nothing fails. -/
def keptResult : (Except PyErr JsonFields × Bool) × BundleWorld :=
  EffTree.run keepingAnswer (bundledReceipt false) (start neighbour)

theorem returns_kept : EffTree.Returns Effect (bundledReceipt false) (start neighbour)
    keptResult.1 keptResult.2 :=
  EffTree.returns_run effect_keepingAnswer _ _

/-- Where nothing fails the bundle is complete, and its neighbour is as it was. -/
theorem bundle_complete : ∃ envelope path, keptResult.1.1 = .ok envelope ∧
    Complete keptResult.2 path envelope ∧ keptResult.2.existing = neighbour := by
  have hall := bundle_allOrNothing neighbour (py "/work") (.arr [.str (py "true")]) did key (some 300)
    (py "/private/out") false
  have hkept : keptResult.2.stranded = false ∧ keptResult.1.1.isOk = true := by decide +kernel
  obtain ⟨hstranded, hok⟩ := hkept
  obtain ⟨envelope, henvelope⟩ := PyResult.ok_of_isOk hok
  have hcomplete := (hall.1 _ _ _ returns_kept).mpr hstranded
  obtain ⟨path, hpath⟩ := hcomplete.1 envelope henvelope
  exact ⟨envelope, path, henvelope, hpath, (hall.2 _ returns_kept.reaches).existing_eq⟩

/-- **A directory that can neither be secured nor removed** stays, and what is raised is the
error of `rmdir`. -/
theorem bundle_stranded : ¬∀ (existing : PyStr → Option KeptFile) (repository : PyStr) (command : Json)
    (issuerDid : PyStr) (privateKey : Platform.PrivateKey) (timeout : Option ℚ)
    (directory : PyStr) (s : Bool) r s' w', EffTree.Returns Effect
      (createWorkReceipt repository command issuerDid privateKey timeout (some directory) s)
      (start existing) (r, s') w' → AllOrNothing r w' := by
  intro h
  have hall := h _ _ _ _ _ _ _ _ _ _ _ returns_stranded
  have hresult : strandedResult.1.1.isOk = false ∧
      strandedResult.2.made = some (py "/private/out") ∧ strandedResult.2.cleaning = false := by
    decide +kernel
  obtain ⟨hraises, hmade, hcleaning⟩ := hresult
  cases hr : strandedResult.1.1 with
  | ok envelope =>
      rw [hr] at hraises
      cases hraises
  | error e =>
      rcases hall.2 e hr with hgone | ⟨hcleaned, -⟩
      · rw [hgone.made_eq] at hmade
        cases hmade
      · rw [hcleaned] at hcleaning
        cases hcleaning

end Example

end WorkReceipt