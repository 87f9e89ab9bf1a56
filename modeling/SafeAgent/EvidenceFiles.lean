/-
# The files of the inspector (`work_evidence.py`)

What the calls of `_read_bounded` show of files that do not change.

* `Proc.outcome`         : how a process ends where a function of the world answers its calls;
* `answerFiles`          : what the calls show of the files;
* `fileBytes`            : what `_read_bounded` makes of a file;
* `outcome_readBounded`  : a small regular file is read, and
  `outcome_readBounded_error` : every other is refused.
-/
import SafeAgent.WorkEvidence
import SafeAgent.MalformedAnswers

open PyText

/-! ## Answers given by a function of the world -/

namespace Proc

variable {Op : Type} {Val : Op → Type} {ε σ α β W : Type}
  (answer : W → (o : Op) → Except ε (Val o) × W)

/-- How a process ends, and the world that it leaves, where a function of the world answers. -/
def outcome (m : Proc Op Val ε σ α) (s : σ) (w : W) : (Except ε α × σ) × W :=
  EffTree.run answer (m s) w

@[simp] theorem outcome_pure (a : α) (s : σ) (w : W) :
    outcome answer (pure a : Proc Op Val ε σ α) s w = ((.ok a, s), w) := rfl

@[simp] theorem outcome_throw (e : ε) (s : σ) (w : W) :
    outcome answer (throw e : Proc Op Val ε σ α) s w = ((.error e, s), w) := rfl

@[simp] theorem outcome_ofExcept (r : Except ε α) (s : σ) (w : W) :
    outcome answer (ofExcept r : Proc Op Val ε σ α) s w = ((r, s), w) := rfl

@[simp] theorem outcome_call (o : Op) (s : σ) (w : W) :
    outcome answer (call o : Proc Op Val ε σ (Val o)) s w = (((answer w o).1, s), (answer w o).2) := rfl

variable {answer} {m : Proc Op Val ε σ β} {s s' : σ} {w w' : W}

/-- A sequence whose first part returns. -/
theorem outcome_bind_ok {b : β} {f : β → Proc Op Val ε σ α}
    (h : outcome answer m s w = ((.ok b, s'), w')) :
    outcome answer (m >>= f) s w = outcome answer (f b) s' w' := by
  show EffTree.run answer ((m s).bind _) w = _
  rw [outcome] at h
  rw [EffTree.run_bind, h]
  rfl

/-- A sequence whose first part raises. -/
theorem outcome_bind_error {e : ε} {f : β → Proc Op Val ε σ α}
    (h : outcome answer m s w = ((.error e, s'), w')) :
    outcome answer (m >>= f) s w = ((.error e, s'), w') := by
  show EffTree.run answer ((m s).bind _) w = _
  rw [outcome] at h
  rw [EffTree.run_bind, h]
  rfl

theorem outcome_tryCatch_ok {b : β} {handler : ε → Proc Op Val ε σ β}
    (h : outcome answer m s w = ((.ok b, s'), w')) :
    outcome answer (tryCatch m handler) s w = ((.ok b, s'), w') := by
  show EffTree.run answer ((m s).bind _) w = _
  rw [outcome] at h
  rw [EffTree.run_bind, h]
  rfl

theorem outcome_tryCatch_error {e : ε} {handler : ε → Proc Op Val ε σ β}
    (h : outcome answer m s w = ((.error e, s'), w')) :
    outcome answer (tryCatch m handler) s w = outcome answer (handler e) s' w' := by
  show EffTree.run answer ((m s).bind _) w = _
  rw [outcome] at h
  rw [EffTree.run_bind, h]
  rfl

end Proc

namespace WorkEvidence

open Json PyItems Receipt WorkReceipt

/-! ## Files -/

/-- A file that stays as it is. -/
structure EvidenceFile where
  stat : FileStat
  content : Bytes
  size_eq : stat.size = content.length

/-- What the calls show of the files. -/
def answerFiles (files : PyStr → Option EvidenceFile) : (o : EvidenceOp) → Except PyErr o.Val
  | .lstat path =>
      match files path with
      | some file => .ok file.stat
      | none => .error (.of .fileNotFoundError "No such file or directory")
  | .openFile path =>
      match files path with
      | some _ => .ok ()
      | none => .error (.of .fileNotFoundError "No such file or directory")
  | .fstat path =>
      match files path with
      | some file => .ok file.stat
      | none => .error (.of .osError "Bad file descriptor")
  | .read path count =>
      match files path with
      | some file => .ok (file.content.take count)
      | none => .error (.of .osError "Bad file descriptor")
  | .close _ => .ok ()

/-- The files that were opened, after a call. -/
def noted (w : List PyStr) : EvidenceOp → List PyStr
  | .openFile path => w ++ [path]
  | .lstat _ => w
  | .fstat _ => w
  | .read _ _ => w
  | .close _ => w

/-- One call: the files answer it, and what it opens is noted. -/
def look (files : PyStr → Option EvidenceFile) (w : List PyStr) (o : EvidenceOp) :
    Except PyErr o.Val × List PyStr :=
  (answerFiles files o, noted w o)

/-- What `_read_bounded` returns of a file. -/
def fileBytes (files : PyStr → Option EvidenceFile) (path : PyStr) (maximum : ℕ) : PyResult Bytes :=
  match files path with
  | none => .error (inputError "file_unreadable")
  | some file =>
      if ¬file.stat.regular then .error (inputError "regular_file_required")
      else if maximum < file.content.length then .error (inputError "file_too_large")
      else .ok file.content

section Reading

open Proc

variable {files : PyStr → Option EvidenceFile} {path : PyStr} {maximum : ℕ} {w : List PyStr}

theorem outcome_lstat {r : PyResult FileStat} (h : answerFiles files (.lstat path) = r) :
    outcome (look files) (lstat path) () w = ((r, ()), w) := by
  rw [← h]
  rfl

theorem outcome_openFile {r : PyResult Unit} (h : answerFiles files (.openFile path) = r) :
    outcome (look files) (openFile path) () w = ((r, ()), w ++ [path]) := by
  rw [← h]
  rfl

theorem outcome_fstat {r : PyResult FileStat} (h : answerFiles files (.fstat path) = r) :
    outcome (look files) (fstat path) () w = ((r, ()), w) := by
  rw [← h]
  rfl

theorem outcome_readFile {count : ℕ} {r : PyResult Bytes}
    (h : answerFiles files (.read path count) = r) :
    outcome (look files) (readFile path count) () w = ((r, ()), w) := by
  rw [← h]
  rfl

theorem outcome_closeFile : outcome (look files) (closeFile path) () w = ((.ok (), ()), w) := rfl

/-- An error of the inspector passes through; any other is one. -/
theorem outcome_orUnreadable_error {α : Type} {body : EvidenceProc α} {e e' : PyErr} {w' : List PyStr}
    (h : outcome (look files) body () w = ((.error e, ()), w'))
    (he : e.isa .evidenceInputError = true ∧ e' = e ∨
      e.isa .evidenceInputError = false ∧ e.isa .osError = true ∧ e' = inputError "file_unreadable") :
    outcome (look files) (orUnreadable body) () w = ((.error e', ()), w') := by
  rw [orUnreadable, outcome_tryCatch_error h]
  rcases he with ⟨hinput, rfl⟩ | ⟨hinput, hos, rfl⟩
  · rw [if_pos hinput]
    rfl
  · rw [if_neg (by rw [hinput]; exact Bool.false_ne_true), if_pos (by rw [hos]; rfl)]
    rfl

section File

variable {file : EvidenceFile} (hfile : files path = some file)

include hfile

/-- The calls before the descriptor is looked at. -/
theorem outcome_before (hregular : file.stat.regular = true) :
    outcome (look files) (orUnreadable (do
      let before ← lstat path
      if ¬before.regular then throw (inputError "regular_file_required")
      else do
        openFile path
        return before)) () w = ((.ok file.stat, ()), w ++ [path]) := by
  have hlstat : answerFiles files (.lstat path) = .ok file.stat := by rw [answerFiles, hfile]
  have hopen : answerFiles files (.openFile path) = .ok () := by rw [answerFiles, hfile]
  refine outcome_tryCatch_ok ?_
  rw [outcome_bind_ok (outcome_lstat hlstat), if_neg (not_not.mpr hregular),
    outcome_bind_ok (outcome_openFile hopen)]
  rfl

/-- The descriptor is looked at. -/
theorem outcome_opened {r : PyResult Unit} (hchecked : checkOpened file.stat file.stat maximum = r) :
    outcome (look files) (do
      let opened ← fstat path
      Proc.ofExcept (checkOpened file.stat opened maximum)
      return opened) () w = (((fun _ => file.stat) <$> r, ()), w) := by
  have hfstat : answerFiles files (.fstat path) = .ok file.stat := by rw [answerFiles, hfile]
  rw [outcome_bind_ok (outcome_fstat hfstat), hchecked]
  cases r <;> rfl

end File

/-- **A file that is there, regular and small enough is read.** -/
theorem outcome_readBounded {data : Bytes} (h : fileBytes files path maximum = .ok data) :
    outcome (look files) (readBounded path maximum) () w = ((.ok data, ()), w ++ [path]) := by
  unfold fileBytes at h
  cases hfile : files path with
  | none =>
      rw [hfile] at h
      cases h
  | some file =>
      rw [hfile] at h
      dsimp only at h
      split_ifs at h with hregular hlarge
      cases h
      rw [not_lt] at hlarge
      have hfstat : answerFiles files (.fstat path) = .ok file.stat := by rw [answerFiles, hfile]
      have hread : answerFiles files (.read path (maximum + 1)) = .ok file.content := by
        rw [answerFiles, hfile]
        exact congrArg Except.ok (List.take_of_length_le (by omega))
      have hchecked : checkOpened file.stat file.stat maximum = .ok () := by
        rw [checkOpened, if_neg (by simp [hregular]), if_neg (by rw [file.size_eq]; omega)]
      have hcontent : checkRead file.stat file.stat file.content maximum = .ok file.content := by
        rw [checkRead, if_neg (by omega), if_neg (by simp [file.size_eq])]
      rw [readBounded, outcome_bind_ok (outcome_before hfile hregular)]
      have hopened := outcome_opened (w := w ++ [path]) hfile hchecked
      refine (outcome_bind_ok (b := file.stat) (outcome_tryCatch_ok (outcome_tryCatch_ok hopened))).trans
        (outcome_tryCatch_ok ?_)
      have hfound : outcome (look files) (do
          let data ← readFile path (maximum + 1)
          let after ← fstat path
          return (data, after)) () (w ++ [path]) = ((.ok (file.content, file.stat), ()), w ++ [path]) := by
        rw [outcome_bind_ok (outcome_readFile hread), outcome_bind_ok (outcome_fstat hfstat)]
        rfl
      refine (outcome_bind_ok (outcome_tryCatch_ok hfound)).trans ?_
      rw [outcome_bind_ok outcome_closeFile, hcontent]
      rfl

/-- **A file that is not there, not regular or too large is refused.** -/
theorem outcome_readBounded_error {e : PyErr} (h : fileBytes files path maximum = .error e) :
    ∃ w', outcome (look files) (readBounded path maximum) () w = ((.error e, ()), w') := by
  unfold fileBytes at h
  cases hfile : files path with
  | none =>
      rw [hfile] at h
      cases h
      have hlstat : answerFiles files (.lstat path) =
          .error (.of .fileNotFoundError "No such file or directory") := by rw [answerFiles, hfile]
      refine ⟨w, outcome_bind_error (outcome_orUnreadable_error
        (outcome_bind_error (outcome_lstat hlstat)) (Or.inr ⟨rfl, rfl, rfl⟩))⟩
  | some file =>
      rw [hfile] at h
      dsimp only at h
      have hlstat : answerFiles files (.lstat path) = .ok file.stat := by rw [answerFiles, hfile]
      split_ifs at h with hregular hlarge
      · cases h
        refine ⟨w ++ [path], ?_⟩
        have hchecked : checkOpened file.stat file.stat maximum = .error (inputError "file_too_large") := by
          rw [checkOpened, if_neg (by simp [hregular]), if_pos (by rw [file.size_eq]; exact hlarge)]
        have hopened := outcome_orUnreadable_error (w := w ++ [path]) (outcome_opened hfile hchecked)
          (Or.inl ⟨rfl, rfl⟩)
        rw [readBounded, outcome_bind_ok (outcome_before hfile hregular)]
        refine outcome_bind_error ?_
        rw [closingOnError, outcome_tryCatch_error hopened,
          outcome_bind_ok outcome_closeFile]
        rfl
      · cases h
        refine ⟨w, outcome_bind_error (outcome_orUnreadable_error ?_ (Or.inl ⟨rfl, rfl⟩))⟩
        rw [outcome_bind_ok (outcome_lstat hlstat), if_pos hregular]
        rfl

end Reading

end WorkEvidence
