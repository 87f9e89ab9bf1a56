/-
# Answering the Keychain prompts (`controller.py`)

`security` asks twice for the password of a new item, on a terminal of its own.
`_KeychainPromptSession` reads what it prints in whatever pieces it arrives, looks for the
prompt it expects next in the last 512 octets, and answers with the seed.

* `PromptOp`                : every call of a session;
* `step`, `loop`, `run`     : the session;
* `Listener`                : who may write what, told from the calls alone;
* `tracks_step`             : one step keeps the session and the listener together;
* `prompts_answered`        : **the answers**, for every run however the output is cut into pieces;
* `answers_dependOnChunks`  : what is read together with a prompt is dropped with it.
-/
import SafeAgent.Process
import SafeAgent.PyError

open PyText

namespace KeychainPrompt

/-! ## The calls of a session -/

/-- The local flags of a terminal. -/
structure LocalFlags where
  echo : Bool
  echoNl : Bool
  rest : ℕ

/-- A call of `_KeychainPromptSession`. -/
inductive PromptOp
  /-- `time.monotonic()` -/
  | monotonic
  /-- `select.select([master_fd], [], [], timeout)`, and whether the terminal is readable -/
  | select (timeout : ℚ)
  /-- `os.read(master_fd, 1_024)` -/
  | read
  /-- `termios.tcgetattr(master_fd)[3]` -/
  | getFlags
  /-- `termios.tcsetattr(master_fd, termios.TCSANOW, attributes)` -/
  | setFlags (flags : LocalFlags)
  /-- `os.write(master_fd, remaining)` -/
  | write (remaining : Bytes)
  /-- `os.waitpid(child_pid, os.WNOHANG)` -/
  | waitpid (childPid : ℕ)

/-- The answer of a call that does not raise; `none` is the `OSError` of `os.read` whose
`errno` is `EIO`. -/
@[reducible] def PromptOp.Val : PromptOp → Type
  | .monotonic => ℚ
  | .select _ => Bool
  | .read => Option Bytes
  | .getFlags => LocalFlags
  | .setFlags _ => Unit
  | .write _ => ℕ
  | .waitpid _ => ℕ × ℕ

/-- `_KeychainPromptSession`, what changes of it. -/
structure PromptSession where
  promptIndex : ℕ := 0
  waitStatus : Option ℕ := none
  promptBuffer : Bytes := []

/-- `_KeychainPromptSession`, what does not change. -/
structure PromptChild where
  childPid : ℕ
  secret : Bytes
  deadline : ℚ

/-- `bytearray(secret, "ascii")` with a line feed after it. -/
def PromptChild.secretLine (child : PromptChild) : Bytes := child.secret ++ [10]

abbrev PromptProc (α : Type) := Proc PromptOp PromptOp.Val PyErr PromptSession α

/-- `KEYCHAIN_PASSWORD_PROMPTS` -/
def keychainPasswordPrompts : List Bytes :=
  [toAscii (py "password data for new item:"), toAscii (py "retype password for new item:")]

/-- `KEYCHAIN_PROMPT_BUFFER_BYTES` -/
def keychainPromptBufferBytes : ℕ := 512

/-- `ControllerError(message)` -/
def controllerError (message : String) : PyErr := .of .controllerError message

/-! ## The session -/

/-- Make a call. -/
abbrev perform (o : PromptOp) : PromptProc o.Val := Proc.call o

/-- `except cls as error: raise ControllerError(message) from error` -/
def exceptClass {α : Type} (cls : ErrClass) (message : String) (body : PromptProc α) :
    PromptProc α :=
  tryCatch body fun e => if e.isa cls then throw (controllerError message) else throw e

/-- `_keychain_prompt_ready` -/
def keychainPromptReady (remaining : ℚ) : PromptProc Bool :=
  exceptClass .osError "controller Keychain prompt failed" (perform (.select (min (1 / 10) remaining)))

/-- `_poll_child` -/
def pollChild (childPid : ℕ) : PromptProc (ℕ × ℕ) :=
  exceptClass .osError "cannot monitor the Keychain prompt" (perform (.waitpid childPid))

/-- `_read_keychain_prompt` -/
def readKeychainPrompt : PromptProc Bytes := do
  let chunk : Option Bytes ← exceptClass .osError "cannot read the Keychain prompt" (perform .read)
  return chunk.getD []

/-- `_disable_terminal_echo` -/
def disableTerminalEcho : PromptProc Unit :=
  exceptClass .termiosError "cannot disable Keychain prompt echo" do
    let flags : LocalFlags ← perform .getFlags
    perform (.setFlags { flags with echo := false, echoNl := false })

/-- The loop of `_write_all`, which takes at most one round for each octet. -/
def writeLoop : ℕ → Bytes → PromptProc Unit
  | 0, _ => pure ()
  | fuel + 1, remaining =>
      if remaining = [] then pure ()
      else do
        let written : ℕ ← perform (.write remaining)
        if written = 0 then throw (controllerError "cannot answer the Keychain prompt")
        else writeLoop fuel (remaining.drop written)

/-- `_write_all` -/
def writeAll (payload : Bytes) : PromptProc Unit :=
  exceptClass .osError "cannot answer the Keychain prompt" (writeLoop payload.length payload)

/-- The last octets of the buffer that it keeps. -/
def trimmed (buffer : Bytes) : Bytes := buffer.drop (buffer.length - keychainPromptBufferBytes)

/-- What `_respond_to_prompt` does once the buffer is extended and trimmed. -/
def answerPrompt (secretLine : Bytes) (s : PromptSession) : PromptProc Unit :=
  match keychainPasswordPrompts[s.promptIndex]? with
  | none => pure ()
  | some prompt =>
      if ¬prompt <:+: s.promptBuffer then pure ()
      else do
        disableTerminalEcho
        writeAll secretLine
        set { s with promptIndex := s.promptIndex + 1, promptBuffer := [] }

/-- `_respond_to_prompt` -/
def respondToPrompt (secretLine chunk : Bytes) : PromptProc Unit :=
  if chunk = [] then pure ()
  else do
    let s ← get
    let s' := { s with promptBuffer := trimmed (s.promptBuffer ++ chunk) }
    set s'
    answerPrompt secretLine s'

/-- The part of `_step` that looks at the terminal. -/
def listenOnce (child : PromptChild) (remaining : ℚ) : PromptProc Unit := do
  let ready ← keychainPromptReady remaining
  if ready then do
    let chunk ← readKeychainPrompt
    respondToPrompt child.secretLine chunk
  else pure ()

/-- `_step` -/
def step (child : PromptChild) : PromptProc Unit := do
  let now : ℚ ← perform .monotonic
  let remaining := child.deadline - now
  if remaining ≤ 0 then throw (controllerError "controller Keychain prompt timed out")
  else do
    listenOnce child remaining
    let (waitedPid, candidate) ← pollChild child.childPid
    if waitedPid = child.childPid then modify fun s => { s with waitStatus := some candidate }
    else pure ()

/-- The loop of `run`, for at most `rounds` steps. -/
def loop (child : PromptChild) : ℕ → PromptProc Unit
  | 0 => pure ()
  | rounds + 1 => do
      let s ← get
      if s.waitStatus.isSome then pure ()
      else do
        step child
        loop child rounds

/-- `os.waitstatus_to_exitcode` -/
def waitstatusToExitcode (status : ℕ) : PyResult ℤ :=
  if status % 128 = 0 then .ok (status / 256 % 256 : ℕ)
  else if status % 256 = 127 then .error (.of .valueError "process is stopped")
  else .ok (-(status % 128 : ℕ))

/-- `run`, of which `rounds` bounds the steps; it is still going on where it returns `False`. -/
def run (child : PromptChild) (rounds : ℕ) : PromptProc Bool := do
  loop child rounds
  let s ← get
  match s.waitStatus with
  | none => return false
  | some status => do
      let exitcode ← Proc.ofExcept (waitstatusToExitcode status)
      if exitcode ≠ 0 ∨ s.promptIndex ≠ keychainPasswordPrompts.length then
        throw (controllerError "cannot create the controller Keychain item")
      else return true

/-! ## What may be written -/

/-- A call and what it answered. -/
abbrev PromptEvent : Type := (o : PromptOp) × Except PyErr o.Val

/-- `os.read` returns at most 1024 octets; everything else is up to the terminal and the child. -/
def Possible : (o : PromptOp) → Except PyErr o.Val → Prop
  | .read, .ok (some chunk) => chunk.length ≤ 1024
  | _, _ => True

/-- A call is possible, and is noted down. -/
def Noted (w : List PromptEvent) (o : PromptOp) (r : Except PyErr o.Val) (w' : List PromptEvent) :
    Prop := Possible o r ∧ w' = w ++ [⟨o, r⟩]

/-- Somebody who follows the calls: how many prompts were answered, what was received since the
last answer, whether the terminal was silenced after that, and what is still to be written of
an answer that was begun. -/
structure Listener where
  answers : ℕ := 0
  since : Bytes := []
  silent : Bool := false
  owed : Option Bytes := none

namespace Listener

/-- The next prompt has occurred since the last answer. -/
def Due (l : Listener) : Prop :=
  ∃ prompt, keychainPasswordPrompts[l.answers]? = some prompt ∧ prompt <:+: l.since

instance (l : Listener) : Decidable l.Due :=
  match h : keychainPasswordPrompts[l.answers]? with
  | none => isFalse fun ⟨_, hprompt, _⟩ => by rw [h] at hprompt; cases hprompt
  | some prompt =>
      decidable_of_iff (prompt <:+: l.since)
        ⟨fun hin => ⟨prompt, h, hin⟩, fun ⟨_, hprompt, hin⟩ => by
          rw [h] at hprompt
          cases hprompt
          exact hin⟩

/-- The octets may be written: the next prompt is due, the terminal is silent, and they are what
is left of the line. -/
def MayWrite (line : Bytes) (l : Listener) (octets : Bytes) : Prop :=
  l.Due ∧ l.silent = true ∧ octets = l.owed.getD line

instance (line : Bytes) (l : Listener) (octets : Bytes) : Decidable (l.MayWrite line octets) :=
  inferInstanceAs (Decidable (_ ∧ _ ∧ _))

/-- After `written` octets were taken: an answer is complete when nothing of it is left. -/
def wrote (l : Listener) (octets : Bytes) (written : ℕ) : Listener :=
  if octets.drop written = [] then { l with answers := l.answers + 1, since := [], owed := none }
  else { l with owed := some (octets.drop written) }

/-- The listener after one more call; `none` where something was written that must not be. -/
def next (line : Bytes) (l : Listener) : PromptEvent → Option Listener
  | ⟨.read, .ok (some chunk)⟩ => some { l with since := l.since ++ chunk, silent := false }
  | ⟨.setFlags flags, .ok ()⟩ => some { l with silent := !flags.echo && !flags.echoNl }
  | ⟨.write octets, .ok written⟩ =>
      if l.MayWrite line octets then some (l.wrote octets written) else none
  | ⟨.write octets, .error _⟩ => if l.MayWrite line octets then some l else none
  | _ => some l

end Listener

/-- The listener after the calls. -/
def listen (line : Bytes) (w : List PromptEvent) : Option Listener :=
  w.foldl (fun l event => l.bind fun l => l.next line event) (some {})

theorem listen_append (line : Bytes) (w : List PromptEvent) (event : PromptEvent) :
    listen line (w ++ [event]) = (listen line w).bind fun l => l.next line event := by
  rw [listen, List.foldl_append]
  rfl

/-- Nobody answers more often than there are prompts. -/
theorem answers_le {line : Bytes} {w : List PromptEvent} {l : Listener} (h : listen line w = some l) :
    l.answers ≤ keychainPasswordPrompts.length := by
  induction w using List.reverseRecOn generalizing l with
  | nil =>
      cases h
      exact Nat.zero_le _
  | append_singleton w event ih =>
      rw [listen_append, Option.bind_eq_some_iff] at h
      obtain ⟨before, hbefore, h⟩ := h
      have hle := ih hbefore
      have hdue : before.Due → before.answers < keychainPasswordPrompts.length := by
        rintro ⟨prompt, hprompt, -⟩
        exact (List.getElem?_eq_some_iff.mp hprompt).1
      unfold Listener.next at h
      split at h
      · cases h
        exact hle
      · cases h
        exact hle
      · split_ifs at h with hmay
        cases h
        unfold Listener.wrote
        split_ifs
        · exact hdue hmay.1
        · exact hle
      · split_ifs at h with hmay
        cases h
        exact hle
      · cases h
        exact hle

theorem prompt_ne_nil : ∀ prompt ∈ keychainPasswordPrompts, prompt ≠ [] := by decide +kernel

/-! ## The session and its listener -/

theorem trimmed_suffix (buffer : Bytes) : trimmed buffer <:+ buffer := List.drop_suffix _ _

theorem length_trimmed_le (buffer : Bytes) : (trimmed buffer).length ≤ keychainPromptBufferBytes := by
  rw [trimmed, List.length_drop]
  omega

theorem trimmed_of_le {buffer : Bytes} (h : buffer.length ≤ keychainPromptBufferBytes) :
    trimmed buffer = buffer := by
  rw [trimmed, Nat.sub_eq_zero_of_le h, List.drop_zero]

/-- Trimming before more is received changes nothing. -/
theorem trimmed_append (buffer chunk : Bytes) : trimmed (trimmed buffer ++ chunk) =
    trimmed (buffer ++ chunk) := by
  have hdrop : trimmed buffer ++ chunk =
      (buffer ++ chunk).drop (buffer.length - keychainPromptBufferBytes) := by
    rw [trimmed, List.drop_append_of_le_length (Nat.sub_le _ _)]
  have hlength : buffer.length - keychainPromptBufferBytes +
      (buffer.length + chunk.length - (buffer.length - keychainPromptBufferBytes) -
        keychainPromptBufferBytes) = buffer.length + chunk.length - keychainPromptBufferBytes := by
    omega
  rw [hdrop]
  unfold trimmed
  rw [List.length_drop, List.drop_drop, List.length_append, hlength]

attribute [irreducible] trimmed

/-- Between two steps: the session has counted the answers, holds the last octets received since
the last of them, and owes none.  As long as these are few enough, the next prompt is not due. -/
structure Tracks (s : PromptSession) (l : Listener) : Prop where
  answers_eq : s.promptIndex = l.answers
  buffer_eq : s.promptBuffer = trimmed l.since
  owed_eq : l.owed = none
  quiet : l.since.length ≤ keychainPromptBufferBytes → ¬l.Due

theorem Tracks.bounded {s : PromptSession} {l : Listener} (h : Tracks s l) :
    s.promptBuffer.length ≤ keychainPromptBufferBytes := by
  rw [h.buffer_eq]
  exact length_trimmed_le l.since

/-- Nothing was written so far that must not be. -/
def Approved (line : Bytes) (w : List PromptEvent) : Prop := ∃ l, listen line w = some l

/-- The listener is in `P`, together with the session. -/
def Heard (line : Bytes) (P : PromptSession → Listener → Prop) (s : PromptSession)
    (w : List PromptEvent) : Prop := ∃ l, listen line w = some l ∧ P s l

/-- Where the session raises, its buffer is short. -/
def Bounded (_ : PyErr) (s : PromptSession) (_ : List PromptEvent) : Prop :=
  s.promptBuffer.length ≤ keychainPromptBufferBytes

section Rules

open Proc

variable {line : Bytes} {s : PromptSession} {w : List PromptEvent} {l : Listener}

/-- A call, by what the listener makes of its answers. -/
theorem wp_perform {o : PromptOp} {Q : o.Val → PromptSession → List PromptEvent → Prop}
    (hl : listen line w = some l) (hs : s.promptBuffer.length ≤ keychainPromptBufferBytes)
    (hok : ∀ a, Possible o (.ok a) → ∃ l', l.next line ⟨o, .ok a⟩ = some l' ∧
      ∀ w', listen line w' = some l' → Q a s w')
    (herror : ∀ e, ∃ l', l.next line ⟨o, .error e⟩ = some l') :
    Wp Noted (Approved line) (perform o) Q Bounded s w := by
  rw [wp_call]
  refine ⟨⟨l, hl⟩, ?_⟩
  rintro r w' ⟨hpossible, rfl⟩
  have hnext : ∀ l', l.next line ⟨o, r⟩ = some l' → listen line (w ++ [⟨o, r⟩]) = some l' := by
    intro l' h
    rw [listen_append, hl, Option.bind_some, h]
  cases r with
  | ok a =>
      obtain ⟨l', hl', hQ⟩ := hok a hpossible
      exact ⟨⟨l', hnext l' hl'⟩, hQ _ (hnext l' hl')⟩
  | error e =>
      obtain ⟨l', hl'⟩ := herror e
      exact ⟨⟨l', hnext l' hl'⟩, hs⟩

theorem wp_exceptClass {α : Type} {cls : ErrClass} {message : String} {body : PromptProc α}
    {Q : α → PromptSession → List PromptEvent → Prop}
    (h : Wp Noted (Approved line) body Q Bounded s w) :
    Wp Noted (Approved line) (exceptClass cls message body) Q Bounded s w := by
  unfold exceptClass
  rw [wp_tryCatch]
  refine h.mono (fun _ _ _ _ hQ => hQ) fun e s' w' hI hE => ?_
  split_ifs <;> exact (wp_throw _).mpr ⟨hI, hE⟩

/-- The line is written as the listener allows it, and completes the answer. -/
theorem wp_writeLoop {fuel : ℕ} {remaining : Bytes} (hl : listen line w = some l)
    (hs : s.promptBuffer.length ≤ keychainPromptBufferBytes) (hfuel : remaining.length ≤ fuel)
    (hdue : l.Due) (hsilent : l.silent = true) (howed : l.owed.getD line = remaining)
    (hne : remaining ≠ []) :
    Wp Noted (Approved line) (writeLoop fuel remaining)
      (fun _ s' w' => s' = s ∧ listen line w' =
        some { l with answers := l.answers + 1, since := [], owed := none }) Bounded s w := by
  induction fuel generalizing remaining w l with
  | zero => exact absurd (List.length_eq_zero_iff.mp (Nat.le_zero.mp hfuel)) hne
  | succ fuel ih =>
      have hmay : l.MayWrite line remaining := ⟨hdue, hsilent, howed.symm⟩
      unfold writeLoop
      rw [if_neg hne, wp_bind]
      refine wp_perform hl hs (fun (written : ℕ) _ => ⟨l.wrote remaining written, if_pos hmay, ?_⟩)
        fun e => ⟨l, if_pos hmay⟩
      intro w' hl'
      by_cases hzero : written = 0
      · rw [if_pos hzero]
        exact (wp_throw _).mpr ⟨⟨_, hl'⟩, hs⟩
      rw [if_neg hzero]
      by_cases hrest : remaining.drop written = []
      · rw [Listener.wrote, if_pos hrest] at hl'
        have hdone : writeLoop fuel (remaining.drop written) = pure () := by
          rw [hrest]
          cases fuel <;> rfl
        rw [hdone]
        exact (wp_pure _).mpr ⟨⟨_, hl'⟩, rfl, hl'⟩
      · rw [Listener.wrote, if_neg hrest] at hl'
        have hshorter : (remaining.drop written).length ≤ fuel := by
          rw [List.length_drop]
          omega
        have hwhole := ih hl' hshorter hdue hsilent rfl hrest
        exact hwhole

/-- **An answer is given exactly when the next prompt is in the buffer.** -/
theorem wp_answerPrompt (hl : listen line w = some l) (hline : line ≠ [])
    (hanswers : s.promptIndex = l.answers) (hbuffer : s.promptBuffer = trimmed l.since)
    (howed : l.owed = none) :
    Wp Noted (Approved line) (answerPrompt line s) (fun _ => Heard line Tracks) Bounded s w := by
  have hs : s.promptBuffer.length ≤ keychainPromptBufferBytes := by
    rw [hbuffer]
    exact length_trimmed_le l.since
  unfold answerPrompt
  cases hprompt : keychainPasswordPrompts[s.promptIndex]? with
  | none =>
      refine (wp_pure _).mpr ⟨⟨l, hl⟩, l, hl, hanswers, hbuffer, howed, ?_⟩
      rintro - ⟨prompt, hsome, -⟩
      rw [← hanswers, hprompt] at hsome
      cases hsome
  | some prompt =>
      dsimp only
      by_cases hin : prompt <:+: s.promptBuffer
      case neg =>
        rw [if_pos hin]
        refine (wp_pure _).mpr ⟨⟨l, hl⟩, l, hl, hanswers, hbuffer, howed, ?_⟩
        rintro hshort ⟨prompt', hsome, hin'⟩
        rw [← hanswers, hprompt] at hsome
        cases hsome
        rw [hbuffer, trimmed_of_le hshort] at hin
        exact hin hin'
      rw [if_neg (not_not.mpr hin)]
      have hdue : l.Due := by
        refine ⟨prompt, hanswers ▸ hprompt, ?_⟩
        rw [hbuffer] at hin
        exact hin.trans (trimmed_suffix l.since).isInfix
      unfold disableTerminalEcho writeAll
      rw [wp_bind]
      refine wp_exceptClass ?_
      rw [wp_bind]
      refine wp_perform hl hs (fun flags _ => ⟨l, rfl, ?_⟩) fun e => ⟨l, rfl⟩
      intro w₁ hl₁
      refine wp_perform hl₁ hs (fun _ _ => ⟨{ l with silent := true }, rfl, ?_⟩) fun e => ⟨l, rfl⟩
      intro w₂ hl₂
      rw [wp_bind]
      refine wp_exceptClass ((wp_writeLoop hl₂ hs le_rfl hdue rfl (by rw [howed]; rfl) hline).mono ?_
        fun _ _ _ _ hE => hE)
      rintro - s' w₃ - ⟨rfl, hl₃⟩
      refine (wp_set _).mpr ⟨⟨_, hl₃⟩, _, hl₃, congrArg (· + 1) hanswers,
        (trimmed_of_le (Nat.zero_le _)).symm, rfl, ?_⟩
      -- nothing has been received since this answer
      rintro - ⟨prompt', hsome, hin'⟩
      exact prompt_ne_nil prompt' (List.mem_of_getElem? hsome) (List.infix_nil.mp hin')

/-- **One step keeps the session and its listener together.** -/
theorem wp_step {child : PromptChild} (hl : listen child.secretLine w = some l) (h : Tracks s l) :
    Wp Noted (Approved child.secretLine) (step child) (fun _ => Heard child.secretLine Tracks)
      Bounded s w := by
  have hline : child.secretLine ≠ [] := by simp [PromptChild.secretLine]
  -- the end of the step does not touch what the listener looks at
  have hpoll : ∀ {s w l}, listen child.secretLine w = some l → Tracks s l →
      Wp Noted (Approved child.secretLine) (do
        let (waitedPid, candidate) ← pollChild child.childPid
        if waitedPid = child.childPid then modify fun s => { s with waitStatus := some candidate }
        else pure ()) (fun _ => Heard child.secretLine Tracks) Bounded s w := by
    intro s w l hl h
    rw [wp_bind]
    refine wp_exceptClass (wp_perform hl h.bounded (fun a _ => ⟨l, rfl, ?_⟩) fun e => ⟨l, rfl⟩)
    intro w' hl'
    obtain ⟨waitedPid, candidate⟩ := a
    dsimp only
    split_ifs
    · exact (wp_modify _).mpr ⟨⟨l, hl'⟩, l, hl', h.answers_eq, h.buffer_eq, h.owed_eq, h.quiet⟩
    · exact (wp_pure _).mpr ⟨⟨l, hl'⟩, l, hl', h⟩
  unfold step
  rw [wp_bind]
  refine wp_perform hl h.bounded (fun now _ => ⟨l, rfl, ?_⟩) fun e => ⟨l, rfl⟩
  intro w₁ hl₁
  dsimp only
  by_cases hlate : child.deadline - now ≤ 0
  · rw [if_pos hlate]
    exact (wp_throw _).mpr ⟨⟨l, hl₁⟩, h.bounded⟩
  rw [if_neg hlate, wp_bind]
  unfold listenOnce
  rw [wp_bind]
  refine wp_exceptClass (wp_perform hl₁ h.bounded (fun ready _ => ⟨l, rfl, ?_⟩) fun e => ⟨l, rfl⟩)
  intro w₂ hl₂
  by_cases hready : ready = true
  case neg =>
    rw [if_neg hready]
    exact (wp_pure _).mpr ⟨⟨l, hl₂⟩, hpoll hl₂ h⟩
  rw [if_pos hready, wp_bind]
  unfold readKeychainPrompt
  rw [wp_bind]
  refine wp_exceptClass (wp_perform hl₂ h.bounded ?_ fun e => ⟨l, rfl⟩)
  intro a _
  cases a with
  | none =>
      refine ⟨l, rfl, fun w₃ hl₃ => ?_⟩
      refine (wp_pure _).mpr ⟨⟨l, hl₃⟩, ?_⟩
      exact (wp_pure _).mpr ⟨⟨l, hl₃⟩, hpoll hl₃ h⟩
  | some chunk =>
      refine ⟨{ l with since := l.since ++ chunk, silent := false }, rfl, fun w₃ hl₃ => ?_⟩
      refine (wp_pure _).mpr ⟨⟨_, hl₃⟩, ?_⟩
      rw [Option.getD_some]
      unfold respondToPrompt
      by_cases hchunk : chunk = []
      · rw [if_pos hchunk]
        subst hchunk
        rw [List.append_nil] at hl₃
        exact (wp_pure _).mpr ⟨⟨_, hl₃⟩, hpoll hl₃ ⟨h.answers_eq, h.buffer_eq, h.owed_eq, h.quiet⟩⟩
      · rw [if_neg hchunk, wp_bind, wp_get]
        refine ⟨⟨_, hl₃⟩, ?_⟩
        dsimp only
        rw [wp_bind, wp_set]
        refine ⟨⟨_, hl₃⟩, ?_⟩
        have hbuffer : trimmed (s.promptBuffer ++ chunk) = trimmed (l.since ++ chunk) := by
          rw [h.buffer_eq, trimmed_append]
        refine (wp_answerPrompt (s := { s with promptBuffer := trimmed (s.promptBuffer ++ chunk) }) hl₃
          hline h.answers_eq hbuffer h.owed_eq).mono ?_ fun _ _ _ _ hE => hE
        rintro - s' w' - ⟨l', hl', h'⟩
        exact hpoll hl' h'

theorem wp_loop {child : PromptChild} (rounds : ℕ) (h : Heard child.secretLine Tracks s w) :
    Wp Noted (Approved child.secretLine) (loop child rounds) (fun _ => Heard child.secretLine Tracks)
      Bounded s w := by
  induction rounds generalizing s w with
  | zero =>
      obtain ⟨l, hl, htracks⟩ := h
      exact (wp_pure _).mpr ⟨⟨l, hl⟩, l, hl, htracks⟩
  | succ rounds ih =>
      obtain ⟨l, hl, htracks⟩ := h
      unfold loop
      rw [wp_bind, wp_get]
      refine ⟨⟨l, hl⟩, ?_⟩
      by_cases hover : s.waitStatus.isSome = true
      · rw [if_pos hover]
        exact (wp_pure _).mpr ⟨⟨l, hl⟩, l, hl, htracks⟩
      · rw [if_neg hover, wp_bind]
        exact (wp_step hl htracks).mono (fun _ s' w' _ h' => ih h') fun _ _ _ _ hE => hE

/-- A run that ends with success has given both answers, and the child has exited with 0. -/
theorem wp_run {child : PromptChild} (rounds : ℕ) (h : Heard child.secretLine Tracks s w) :
    Wp Noted (Approved child.secretLine) (run child rounds)
      (fun ended s' w' => ended = true →
        (∃ l, listen child.secretLine w' = some l ∧ l.answers = keychainPasswordPrompts.length) ∧
          ∃ status, s'.waitStatus = some status ∧ waitstatusToExitcode status = .ok 0)
      Bounded s w := by
  unfold run
  rw [wp_bind]
  refine (wp_loop rounds h).mono ?_ fun _ _ _ _ hE => hE
  rintro - s' w' - ⟨l, hl, htracks⟩
  rw [wp_bind, wp_get]
  refine ⟨⟨l, hl⟩, ?_⟩
  cases hstatus : s'.waitStatus with
  | none => exact (wp_pure _).mpr ⟨⟨l, hl⟩, fun hended => absurd hended Bool.false_ne_true⟩
  | some status =>
      dsimp only
      rw [wp_bind, wp_ofExcept]
      refine ⟨⟨l, hl⟩, ?_⟩
      cases hcode : waitstatusToExitcode status with
      | error e => exact htracks.bounded
      | ok exitcode =>
          dsimp only
          by_cases hfailed : exitcode ≠ 0 ∨ s'.promptIndex ≠ keychainPasswordPrompts.length
          · rw [if_pos hfailed]
            exact (wp_throw _).mpr ⟨⟨l, hl⟩, htracks.bounded⟩
          · rw [if_neg hfailed]
            rw [not_or, not_not, not_not] at hfailed
            refine (wp_pure _).mpr ⟨⟨l, hl⟩, fun _ => ⟨⟨l, hl, ?_⟩, status, hstatus, ?_⟩⟩
            · rw [← htracks.answers_eq]
              exact hfailed.2
            · rw [hcode, hfailed.1]

theorem heard_start (line : Bytes) : Heard line Tracks {} [] := by
  refine ⟨{}, rfl, rfl, (trimmed_of_le (Nat.zero_le _)).symm, rfl, ?_⟩
  rintro - ⟨prompt, hprompt, hin⟩
  exact prompt_ne_nil prompt (List.mem_of_getElem? hprompt) (List.infix_nil.mp hin)

end Rules

/-- **The prompts are answered once each**, however the output is cut into pieces.

Wherever a session is cut, the octets written so far are those the listener allows: the line,
after the next prompt has occurred in what was received since the previous answer and with the
echo disabled, and at most twice.  Between two steps the buffer holds at most 512 octets; and as
long as at most 512 octets were received since the previous answer, the next prompt is not among
them, as it is answered in the step that reads its last octet.  A session that succeeds has
answered both prompts, and its child has exited with 0. -/
theorem prompts_answered (child : PromptChild) (rounds : ℕ) :
    (∀ w, EffTree.Reaches Noted (run child rounds {}) [] w →
      ∃ l, listen child.secretLine w = some l ∧ l.answers ≤ keychainPasswordPrompts.length) ∧
    (∀ r s w, EffTree.Returns Noted (loop child rounds {}) [] (r, s) w →
      s.promptBuffer.length ≤ keychainPromptBufferBytes ∧
        (r = .ok () → ∃ l, listen child.secretLine w = some l ∧ s.promptIndex = l.answers ∧
          l.owed = none ∧ (l.since.length ≤ keychainPromptBufferBytes → ¬l.Due))) ∧
    (∀ s w, EffTree.Returns Noted (run child rounds {}) [] (.ok true, s) w →
      (∃ l, listen child.secretLine w = some l ∧ l.answers = keychainPasswordPrompts.length) ∧
        ∃ status, s.waitStatus = some status ∧ waitstatusToExitcode status = .ok 0) := by
  have hstart := heard_start child.secretLine
  refine ⟨?_, ?_, ?_⟩
  · intro w hreach
    obtain ⟨l, hl⟩ := (wp_run rounds hstart).invariant hreach
    exact ⟨l, hl, answers_le hl⟩
  · intro r s w hreturns
    cases r with
    | error e => exact ⟨(wp_loop rounds hstart).post_error hreturns, fun h => by cases h⟩
    | ok a =>
        obtain ⟨l, hl, htracks⟩ := (wp_loop rounds hstart).post hreturns
        exact ⟨htracks.bounded, fun _ => ⟨l, hl, htracks.answers_eq, htracks.owed_eq, htracks.quiet⟩⟩
  · intro s w hreturns
    exact (wp_run rounds hstart).post hreturns rfl

/-! ## Two prompts in one piece -/

/-- A child that prints the pieces and then waits. -/
def scripted : List Bytes → (o : PromptOp) → Except PyErr o.Val × List Bytes
  | w, .monotonic => (.ok 0, w)
  | w, .select _ => (.ok (!w.isEmpty), w)
  | [], .read => (.ok none, [])
  | chunk :: rest, .read => (.ok (some chunk), rest)
  | w, .getFlags => (.ok { echo := true, echoNl := false, rest := 0 }, w)
  | w, .setFlags _ => (.ok (), w)
  | w, .write octets => (.ok octets.length, w)
  | w, .waitpid _ => (.ok (0, 0), w)

/-- A session of one second. -/
def shortChild : PromptChild where
  childPid := 7
  secret := [48, 49]
  deadline := 1

/-- How many prompts were answered once every piece was read. -/
def answersOf (chunks : List Bytes) : ℕ :=
  (EffTree.run scripted (loop shortChild chunks.length {}) chunks).1.2.promptIndex

/-- **What is read together with a prompt is dropped with it**: the second prompt is answered
where it is read on its own, and is missed where both come in one piece. -/
theorem answers_dependOnChunks : ¬∀ chunks chunks' : List Bytes,
    (∀ chunk ∈ chunks, chunk.length ≤ 1024) → (∀ chunk ∈ chunks', chunk.length ≤ 1024) →
      chunks.flatten = chunks'.flatten → chunks.flatten.length ≤ keychainPromptBufferBytes →
        answersOf chunks = answersOf chunks' := by
  intro h
  have hone := h [keychainPasswordPrompts.flatten] keychainPasswordPrompts (by decide +kernel)
    (by decide +kernel) (by decide +kernel) (by decide +kernel)
  have hcounts : answersOf [keychainPasswordPrompts.flatten] = 1 ∧
      answersOf keychainPasswordPrompts = 2 := by decide +kernel
  rw [hcounts.1, hcounts.2] at hone
  exact absurd hone (by decide)

end KeychainPrompt
