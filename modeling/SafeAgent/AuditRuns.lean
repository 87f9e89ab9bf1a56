/-
# Append and verify

Every log that `append` has written verifies, at every length and cut at every octet.

* `Written.verifyBytes`  : a log of appended records, and its summary;
* `Written.prefix`       : a prefix of whole lines is the log of the first appends;
* `Written.torn`         : **a torn append is never accepted** as anything but the old log or
  the new one;
* `append_verify_agree`  : the same for every sequence of calls of `append`.
-/
import SafeAgent.AuditAppend
import SafeAgent.Rules
import SafeAgent.Sample

open PyText

namespace Audit

section Writer

variable [Platform]

/-! ## Logs that were appended -/

/-- A log that appends with one key have written, with what they returned. -/
inductive Written (key : Platform.PrivateKey) (issuer : PyStr) : List PyStr → Bytes → Prop
  | empty : Written key issuer [] []
  | append {heads : List PyStr} {raw rendered : Bytes} {hash : PyStr} {args : AuditArgs} :
      Written key issuer heads raw →
      appendRecord key issuer args raw = .ok (rendered, hash) →
      Written key issuer (heads ++ [hash]) (raw ++ rendered)

omit [Platform] in
/-- What verifying should give after appends that returned these heads. -/
def summaryOf (issuer : PyStr) (heads : List PyStr) : AuditSummary where
  entries := heads.length
  issuer := if heads = [] then none else some issuer
  headSha256 := heads.getLast?.getD genesisHash

omit [Platform] in
theorem summaryOf_append (issuer : PyStr) (heads : List PyStr) (hash : PyStr) :
    summaryOf issuer (heads ++ [hash]) =
      { entries := heads.length + 1, issuer := some issuer, headSha256 := hash } := by
  simp [summaryOf]

variable {key : Platform.PrivateKey} {issuer : PyStr} {heads : List PyStr} {raw : Bytes}
  (hkey : Crypto.didFromPrivateKey key = .ok issuer)
  (hverify : ∀ octets, Platform.verify (Platform.publicBytes key) (Platform.sign key octets)
    octets = true)

include hkey hverify

/-- One append after a log that verifies. -/
theorem verifyBytes_of_append {rendered : Bytes} {hash : PyStr} {args : AuditArgs}
    (h : Audit.verifyBytes raw = .ok (summaryOf issuer heads))
    (happend : appendRecord key issuer args raw = .ok (rendered, hash)) :
    Audit.verifyBytes (raw ++ rendered) = .ok (summaryOf issuer (heads ++ [hash])) := by
  obtain ⟨summary, hsummary, hnew⟩ := verifyBytes_append hkey hverify happend
  rw [h] at hsummary
  cases hsummary
  rw [hnew, summaryOf_append]
  rfl

theorem Written.verifyBytes (h : Written key issuer heads raw) :
    Audit.verifyBytes raw = .ok (summaryOf issuer heads) := by
  induction h with
  | empty => rfl
  | append _ happend ih => exact verifyBytes_of_append hkey hverify ih happend

/-- A part of the next record is the record, nothing, or octets of its line. -/
theorem parts_of_append {rendered part : Bytes} {hash : PyStr} {args : AuditArgs}
    (happend : appendRecord key issuer args raw = .ok (rendered, hash))
    (hpart : part <+: rendered) :
    part = rendered ∨ part = [] ∨ part ≠ [] ∧ OneLine part := by
  obtain ⟨_, line, _, _, -, rfl, -, happended⟩ := appendRecord_ok happend
  obtain ⟨-, hline, -⟩ := happended.decode hkey hverify
  rcases List.prefix_concat_iff.mp hpart with hwhole | hshort
  · exact .inl hwhole
  · rcases eq_or_ne part [] with hempty | hne
    · exact .inr (.inl hempty)
    · exact .inr (.inr ⟨hne, fun b hb => hline b (hshort.subset hb)⟩)

omit hkey hverify in
/-- A log stays inside the limit. -/
theorem Written.size (h : Written key issuer heads raw) : raw.length ≤ maxAuditBytes := by
  cases h with
  | empty => exact Nat.zero_le _
  | append _ happend =>
      obtain ⟨_, _, _, _, -, -, hsize, -⟩ := appendRecord_ok happend
      rwa [List.length_append]

/-- There is a line for each append. -/
theorem Written.lines (h : Written key issuer heads raw) :
    (splitlines [] raw).length = heads.length := by
  induction h with
  | empty => rfl
  | append _ happend ih =>
      obtain ⟨_, line, _, _, hsummary, rfl, -, happended⟩ := appendRecord_ok happend
      obtain ⟨-, hline, -⟩ := happended.decode hkey hverify
      rw [splitlines_append_line (wholeLines_of_verifyBytes hsummary) hline, List.length_append,
        List.length_append, ih]
      rfl

/-- **A prefix of whole lines is a shorter log**, by induction on the appends: the prefix
ends before the last record, or with it. -/
theorem Written.prefix (h : Written key issuer heads raw) {p : Bytes} (hp : p <+: raw)
    (hwhole : WholeLines p) : ∃ k ≤ heads.length, Written key issuer (heads.take k) p := by
  induction h generalizing p with
  | empty =>
      obtain rfl := List.prefix_nil.mp hp
      exact ⟨0, le_rfl, .empty⟩
  | @append heads raw rendered hash args hraw happend ih =>
      have hold : p <+: raw →
          ∃ k ≤ (heads ++ [hash]).length, Written key issuer ((heads ++ [hash]).take k) p := by
        intro hshort
        obtain ⟨k, hk, hwritten⟩ := ih hshort hwhole
        refine ⟨k, by rw [List.length_append]; omega, ?_⟩
        rwa [List.take_append_of_le_length hk]
      rcases List.prefix_or_prefix_of_prefix hp (List.prefix_append raw rendered) with h | h
      · exact hold h
      · obtain ⟨part, rfl⟩ := h
        have hpart := (List.prefix_append_right_inj raw).mp hp
        rcases parts_of_append hkey hverify happend hpart with rfl | rfl | ⟨hne, hline⟩
        · refine ⟨(heads ++ [hash]).length, le_rfl, ?_⟩
          rw [List.take_length]
          exact .append hraw happend
        · exact hold (by rw [List.append_nil])
        · exact absurd hwhole (not_wholeLines hne hline)

/-- **A torn append is never accepted.**  With a part of the next record, the log is the old
one, or the new one, or refused. -/
theorem Written.torn (h : Written key issuer heads raw) {rendered part : Bytes} {hash : PyStr}
    {args : AuditArgs} (happend : appendRecord key issuer args raw = .ok (rendered, hash))
    (hpart : part <+: rendered) :
    Audit.verifyBytes (raw ++ part) = .ok (summaryOf issuer heads) ∨
      Audit.verifyBytes (raw ++ part) = .ok (summaryOf issuer (heads ++ [hash])) ∨
      ∃ e, Audit.verifyBytes (raw ++ part) = .error e ∧ e.cls = .auditError := by
  have hverified := h.verifyBytes hkey hverify
  rcases parts_of_append hkey hverify happend hpart with rfl | rfl | ⟨hne, hline⟩
  · exact .inr (.inl (verifyBytes_of_append hkey hverify hverified happend))
  · exact .inl (by rw [List.append_nil, hverified])
  · exact .inr (.inr ⟨_, verifyBytes_torn hne hline, rfl⟩)

end Writer

/-! ## Calls of `append` -/

section Calls

variable [Platform]

open Proc Agent

omit [Platform] in
/-- A write of some octets writes some. -/
def Progress : (o : Op) → Except PyErr o.Val → Prop
  | .auditWrite data, r => data ≠ [] → r ≠ .ok (0 : ℕ)
  | _, _ => True

/-- No operation fails. -/
def Quiet (w : World) (o : Op) (r : Except PyErr o.Val) (w' : World) : Prop :=
  w.step o r w' ∧ (∃ a, r = .ok a) ∧ Progress o r

/-- Calls of `append` with one key, one after another, without an I/O error, and what those
that returned have returned. -/
inductive Appends (key : Platform.PrivateKey) (start : World) : List PyStr → World → Prop
  | refl : Appends key start [] start
  | returned {heads : List PyStr} {w w' : World} {issuerDid hash : PyStr} {args : AuditArgs}
      {s s' : AgentState} :
      Appends key start heads w →
      EffTree.Returns Quiet (Audit.append key issuerDid args s) w (.ok hash, s') w' →
      Appends key start (heads ++ [hash]) w'
  | raised {heads : List PyStr} {w w' : World} {issuerDid : PyStr} {args : AuditArgs} {e : PyErr}
      {s s' : AgentState} :
      Appends key start heads w →
      EffTree.Returns Quiet (Audit.append key issuerDid args s) w (.error e, s') w' →
      Appends key start heads w'

variable {s : AgentState} {w : World}

section Rules

-- a handler under which nothing fails
variable {H : World → (o : Op) → Except PyErr o.Val → World → Prop}
  (hH : ∀ w o r w', H w o r w' → Quiet w o r w')

include hH

theorem wp_quiet {o : Op} {Q : o.Val → AgentState → World → Prop}
    {E : PyErr → AgentState → World → Prop} (h : ∀ a w', H w o (.ok a) w' → Q a s w') :
    Wp H (fun _ => True) (perform o) Q E s w := by
  rw [wp_call]
  refine ⟨trivial, fun r w' hstep => ⟨trivial, ?_⟩⟩
  obtain ⟨a, rfl⟩ := (hH _ _ _ _ hstep).2.1
  exact h a w' hstep

omit [Platform] hH in
/-- A handler that raises again, where what is raised does not matter. -/
theorem wp_exceptOSError_quiet {α : Type} {m : Agent α} {Q : α → AgentState → World → Prop}
    {E : AgentState → World → Prop} {wrap : PyErr → PyErr}
    (h : Wp H (fun _ => True) m Q (fun _ => E) s w) :
    Wp H (fun _ => True) (exceptOSError wrap m) Q (fun _ => E) s w := by
  rw [exceptOSError_eq, wp_tryCatch]
  refine h.mono (fun _ _ _ _ h => h) fun e s' w' _ h => ?_
  rw [wp_throw]
  exact ⟨trivial, h⟩

omit [Platform] hH in
theorem wp_ofExcept_quiet {α : Type} {r : PyResult α} {Q : α → AgentState → World → Prop}
    {E : AgentState → World → Prop} (hQ : ∀ a, r = .ok a → Q a s w)
    (hE : ∀ e, r = .error e → E s w) :
    Wp H (fun _ => True) (Proc.ofExcept r : Agent α) Q (fun _ => E) s w := by
  rw [wp_ofExcept]
  cases r with
  | ok a => exact ⟨trivial, hQ a rfl⟩
  | error e => exact ⟨trivial, hE e rfl⟩

/-- Where nothing fails, everything is written. -/
theorem wp_writeAll_quiet {Q : Unit → AgentState → World → Prop} {E : AgentState → World → Prop}
    {fuel : ℕ} {remaining : Bytes} (hQ : ∀ w', Q () s w') :
    Wp H (fun _ => True) (Audit.writeAll fuel remaining) Q (fun _ => E) s w := by
  induction fuel generalizing w remaining with
  | zero => exact ⟨trivial, hQ w⟩
  | succ fuel ih =>
      rw [Audit.writeAll]
      split_ifs with hdone
      · exact ⟨trivial, hQ w⟩
      rw [wp_bind]
      refine wp_exceptOSError_quiet (wp_quiet hH fun n w' hstep => ?_)
      have hpositive : n ≠ 0 := fun hzero =>
        (hH _ _ _ _ hstep).2.2 hdone (congrArg Except.ok hzero)
      rw [if_neg hpositive]
      exact ih

theorem wp_readBounded_quiet {Q : Bytes → AgentState → World → Prop}
    {E : AgentState → World → Prop}
    (hE : ∀ raw, w.auditFile = some raw → maxAuditBytes < raw.length → E s w)
    (hQ : ∀ raw, w.auditFile = some raw → Q raw s w) :
    Wp H (fun _ => True) Audit.readBounded Q (fun _ => E) s w := by
  unfold Audit.readBounded
  rw [wp_bind]
  refine wp_exceptOSError_quiet (wp_quiet hH fun raw w' hread => ?_)
  obtain ⟨rfl, hraw⟩ := (hH _ _ _ _ hread).1.1
  split_ifs with hlong
  · exact ⟨trivial, hE raw (hraw raw rfl) hlong⟩
  · exact ⟨trivial, hQ raw (hraw raw rfl)⟩

/-- A body between opening and closing the file, which may be refused before it starts. -/
theorem wp_lockedDescriptor_quiet {α : Type} {write : Bool} {body : Agent α}
    {Q : α → AgentState → World → Prop} {E : AgentState → World → Prop}
    (hE : ∀ info e w', H w (.auditOpen write) (.ok info) w' → checkAccess info = .error e → E s w')
    (hbody : ∀ w', w.Opened w' write → Wp H (fun _ => True) body Q (fun _ => E) s w') :
    Wp H (fun _ => True) (Audit.lockedDescriptor write body) Q (fun _ => E) s w := by
  unfold Audit.lockedDescriptor
  rw [wp_bind]
  refine wp_exceptOSError_quiet (wp_quiet hH fun info w₁ hopen => ?_)
  have hstep := (hH _ _ _ _ hopen).1.1
  have hclose : ∀ (result : PyResult α) s' w', (∀ a, result = .ok a → Q a s' w') →
      (∀ e, result = .error e → E s' w') →
      Wp H (fun _ => True) (do perform .auditClose; Proc.ofExcept result) Q (fun _ => E) s' w' := by
    intro result s' w' hok herror
    rw [wp_bind]
    refine wp_quiet hH fun _ w₂ hstep => ?_
    obtain rfl : w₂ = w' := (hH _ _ _ _ hstep).1.1
    exact wp_ofExcept_quiet hok herror
  have hinner : Wp H (fun _ => True)
      (exceptOSError (fun e => auditError ("cannot access audit log: " ++ e.message)) do
        Proc.ofExcept (Audit.checkAccess info)
        perform (.auditLock write)
        body) Q (fun _ => E) s w₁ := by
    refine wp_exceptOSError_quiet ?_
    rw [wp_bind]
    refine wp_ofExcept_quiet (fun _ _ => ?_) fun e he => hE info e w₁ hopen he
    rw [wp_bind]
    refine wp_quiet hH fun _ w₂ hlock => ?_
    obtain rfl : w₂ = w₁ := (hH _ _ _ _ hlock).1.1
    exact hbody w₂ ⟨hstep.1, hstep.2.1⟩
  rw [wp_bind, wp_tryCatch, wp_bind]
  refine hinner.mono (fun a s' w' _ h => ⟨trivial, ?_⟩) fun e s' w' _ h => ⟨trivial, ?_⟩
  · exact hclose (.ok a) s' w' (by rintro _ ⟨⟩; exact h) (by rintro _ ⟨⟩)
  · exact hclose (.error e) s' w' (by rintro _ ⟨⟩) fun _ _ => h

/-- **An append that raises has not written.** -/
theorem wp_append_quiet {key : Platform.PrivateKey} {issuerDid : PyStr} {args : AuditArgs} :
    Wp H (fun _ => True) (Audit.append key issuerDid args) (fun _ _ _ => True)
      (fun _ _ w' => w'.auditFile.getD [] = w.auditFile.getD []) s w := by
  have hsame : ∀ {w'}, w.Opened w' true → w'.auditFile.getD [] = w.auditFile.getD [] := by
    rintro w' ⟨-, h | ⟨-, hnone, hempty⟩⟩
    · rw [h]
    · rw [hnone, hempty]
      rfl
  unfold Audit.append
  rw [wp_bind]
  refine wp_ofExcept_quiet (fun issuer _ => ?_) fun _ _ => rfl
  rw [wp_bind]
  refine wp_exceptOSError_quiet (wp_quiet hH fun _ w₁ hmkdir => ?_)
  obtain rfl : w₁ = w := (hH _ _ _ _ hmkdir).1.1
  rw [wp_bind]
  refine wp_lockedDescriptor_quiet hH (fun _ _ _ hopen _ => ?_) fun w₂ hopened => ?_
  · have hstep := (hH _ _ _ _ hopen).1.1
    exact hsame ⟨hstep.1, hstep.2.1⟩
  rw [wp_bind]
  refine wp_readBounded_quiet hH (fun _ _ _ => hsame hopened) fun raw _ => ?_
  rw [wp_bind]
  refine wp_ofExcept_quiet (fun p _ => ?_) fun _ _ => hsame hopened
  obtain ⟨rendered, hash⟩ := p
  dsimp only
  rw [wp_bind]
  refine wp_writeAll_quiet hH fun w₃ => ?_
  rw [wp_bind]
  refine wp_quiet hH fun _ w₄ _ => ⟨trivial, ?_⟩
  dsimp only
  rw [wp_bind]
  exact wp_exceptOSError_quiet (wp_quiet hH fun _ _ _ => ⟨trivial, trivial⟩)

/-- Verifying a log that verifies. -/
theorem wp_verify_quiet {raw : Bytes} {summary : AuditSummary} (hraw : w.auditFile = some raw)
    (hsize : raw.length ≤ maxAuditBytes) (hsummary : Audit.verifyBytes raw = .ok summary)
    (haccess : ∀ info w', H w (.auditOpen false) (.ok info) w' → checkAccess info = .ok ()) :
    Wp H (fun _ => True) Audit.verify (fun found _ _ => found = summary) (fun _ _ _ => False)
      s w := by
  unfold Audit.verify
  rw [wp_bind]
  refine wp_quiet hH fun present w₁ hexists => ?_
  obtain ⟨rfl, hpresent⟩ := (hH _ _ _ _ hexists).1.1
  have htrue : present = true := by rw [hpresent present rfl, hraw]; rfl
  rw [if_neg (by simp [htrue])]
  refine wp_lockedDescriptor_quiet hH (fun info e w' hopen hrefused => ?_) fun w₂ hopened => ?_
  · rw [haccess info w' hopen] at hrefused
    cases hrefused
  · obtain rfl := hopened.eq
    rw [wp_bind]
    refine wp_readBounded_quiet hH (fun raw' hraw' hlong => ?_) fun raw' hraw' => ?_
    · rw [hraw] at hraw'
      cases hraw'
      omega
    · rw [hraw] at hraw'
      cases hraw'
      refine wp_ofExcept_quiet (fun found hfound => ?_) fun e he => ?_
      · rw [hsummary] at hfound
        exact (Except.ok.inj hfound).symm
      · rw [hsummary] at he
        cases he

end Rules

/-- Nothing fails, and the log is a regular file that only its owner can open. -/
def Accessible (w : World) (o : Op) (r : Except PyErr o.Val) (w' : World) : Prop :=
  Quiet w o r w' ∧
    match o, r with
    | .auditOpen _, .ok info => checkAccess info = .ok ()
    | _, _ => True

variable {key : Platform.PrivateKey} {did : PyStr} {start : World} {heads : List PyStr}

/-- **Calls write a log of appends**: one record for each call that returned. -/
theorem Appends.written (hkey : Crypto.didFromPrivateKey key = .ok did)
    (hstart : start.auditFile = none ∨ start.auditFile = some [])
    (h : Appends key start heads w) : Written key did heads (w.auditFile.getD []) := by
  induction h with
  | refl =>
      rcases hstart with hstart | hstart <;> rw [hstart]
      · exact .empty
      · exact .empty
  | @returned heads w w' issuerDid hash args s s' _ hreturns ih =>
      have hwp : Wp World.step (fun _ => True) (Audit.append key issuerDid args)
          (fun hash _ w' => ∃ rendered, w'.auditFile = some (w.auditFile.getD [] ++ rendered) ∧
            appendRecord key did args (w.auditFile.getD []) = .ok (rendered, hash))
          (fun _ _ _ => True) s w := by
        refine wp_audit_append (fun _ _ => trivial) ?_ fun _ _ _ _ => trivial
        rintro w' issuer raw rendered hash - hissuer hrecord rfl hfile
        have hsame := appendIssuer_ok hissuer
        rw [hkey] at hsame
        cases hsame
        exact ⟨rendered, hfile, hrecord⟩
      obtain ⟨rendered, hfile, hrecord⟩ :=
        (hwp.handler_mono fun _ _ _ _ hstep => hstep.1).post hreturns
      rw [hfile, Option.getD_some]
      exact .append ih hrecord
  | @raised heads w w' issuerDid args e s s' _ hreturns ih =>
      rw [(wp_append_quiet fun _ _ _ _ h => h).post_error hreturns]
      exact ih

/-- **Append and verify agree.**  After any calls of `append` with one key, none of which met
an I/O error, the log verifies with an entry for each call that returned, the key's DID, and
the head that the last of them returned; so does `verify` itself.  A call that raises has left
the octets as they were, a prefix of whole lines verifies as the shorter log, and wherever the
next call is cut the log is the old one, the new one, or refused. -/
theorem append_verify_agree (hkey : Crypto.didFromPrivateKey key = .ok did)
    (hverify : ∀ octets, Platform.verify (Platform.publicBytes key) (Platform.sign key octets)
      octets = true)
    (hstart : start.auditFile = none ∨ start.auditFile = some [])
    (h : Appends key start heads w) :
    verifyBytes (w.auditFile.getD []) = .ok (summaryOf did heads) ∧
      (∀ s r s' w', w.auditFile.isSome = true →
        EffTree.Returns Accessible (Audit.verify s) w (r, s') w' →
          r = .ok (summaryOf did heads)) ∧
      (∀ issuerDid args s e s' w',
        EffTree.Returns Quiet (Audit.append key issuerDid args s) w (.error e, s') w' →
          w'.auditFile.getD [] = w.auditFile.getD []) ∧
      (∀ p, p <+: w.auditFile.getD [] → WholeLines p →
        verifyBytes p = .ok (summaryOf did (heads.take (splitlines [] p).length))) ∧
      ∀ issuerDid args s w',
        EffTree.Reaches World.step (Audit.append key issuerDid args s) w w' →
          verifyBytes (w'.auditFile.getD []) = .ok (summaryOf did heads) ∨
            (∃ e, verifyBytes (w'.auditFile.getD []) = .error e ∧ e.cls = .auditError) ∨
            ∃ rendered hash,
              appendRecord key did args (w.auditFile.getD []) = .ok (rendered, hash) ∧
                verifyBytes (w'.auditFile.getD []) = .ok (summaryOf did (heads ++ [hash])) := by
  have hwritten := h.written hkey hstart
  have hverified := hwritten.verifyBytes hkey hverify
  refine ⟨hverified, ?_, ?_, ?_, ?_⟩
  · intro s r s' w' hsome hreturns
    obtain ⟨raw, hraw⟩ := Option.isSome_iff_exists.mp hsome
    rw [hraw, Option.getD_some] at hverified hwritten
    have hwp := @wp_verify_quiet _ s w Accessible (fun _ _ _ _ hstep => hstep.1) _ _ hraw
      hwritten.size hverified fun info w' hopen => hopen.2
    cases r with
    | ok found => rw [hwp.post hreturns]
    | error e => exact (hwp.post_error hreturns).elim
  · exact fun issuerDid args s e s' w' hreturns =>
      (wp_append_quiet fun _ _ _ _ h => h).post_error hreturns
  · intro p hp hwhole
    -- a prefix of whole lines is the log of the first appends
    obtain ⟨k, hk, hshort⟩ := hwritten.prefix hkey hverify hp hwhole
    rw [hshort.lines hkey hverify, List.length_take, min_eq_left hk]
    exact hshort.verifyBytes hkey hverify
  · intro issuerDid args s w' hreaches
    have hwp : Wp World.step (fun w' => w.Appending w' key issuerDid args)
        (Audit.append key issuerDid args) (fun _ _ _ => True) (fun _ _ _ => True) s w :=
      wp_audit_append (fun _ h => h) (fun _ _ _ _ _ _ _ _ _ _ => trivial) fun _ _ _ _ => trivial
    obtain ⟨-, part, hfile, hpart⟩ := EffTree.Safe.invariant hwp hreaches
    rw [hfile]
    -- cut before the write, or with a part of the record written
    rcases hpart with rfl | ⟨issuer, rendered, hash, hissuer, hrecord, hprefix⟩
    · exact .inl (by rw [List.append_nil, hverified])
    · have hsame := appendIssuer_ok hissuer
      rw [hkey] at hsame
      cases hsame
      rcases hwritten.torn hkey hverify hrecord hprefix with hold | hnew | hrefused
      · exact .inl hold
      · exact .inr (.inr ⟨rendered, hash, hrecord, hnew⟩)
      · exact .inr (.inl hrefused)

end Calls

/-! ## A call -/

open Sample

/-- The first append. -/
def sampleProgram : EffTree Op (fun o => Except PyErr o.Val) (Except PyErr PyStr × AgentState) :=
  Audit.append key did auditArgs {}

/-- Its result where nothing fails. -/
@[irreducible] def sampleCall : (Except PyErr PyStr × AgentState) × World :=
  EffTree.run answer sampleProgram world

theorem sampleCall_ok : (EffTree.runAll answer (fun w o => (answer w o).1.isOk) sampleProgram world &&
    sampleCall.1.1.isOk) = true := by
  decide +kernel

/-- The text that a result holds. -/
def resultText : Except PyErr PyStr → PyStr
  | .ok text => text
  | .error _ => []

theorem eq_ok_of_isOk {result : Except PyErr PyStr} (h : result.isOk = true) :
    result = .ok (resultText result) := by
  cases result with
  | ok text => rfl
  | error e => cases h

/-- What it returned. -/
def sampleHash : PyStr := resultText sampleCall.1.1

theorem appends_sampleCall : Appends key world [sampleHash] sampleCall.2 := by
  have hok := sampleCall_ok
  rw [Bool.and_eq_true] at hok
  have hquiet : ∀ w o, (answer w o).1.isOk = true → Quiet w o (answer w o).1 (answer w o).2 := by
    intro w o h
    refine ⟨step_answer w o, ?_, ?_⟩
    · cases hanswer : (answer w o).1 with
      | ok a => exact ⟨a, rfl⟩
      | error e =>
          rw [hanswer] at h
          cases h
    · cases o with
      | auditWrite data =>
          intro hdata hzero
          exact hdata (List.length_eq_zero_iff.mp (Except.ok.inj hzero))
      | _ => trivial
  have hreturns : EffTree.Returns Quiet sampleProgram world sampleCall.1 sampleCall.2 := by
    unfold sampleCall
    exact EffTree.returns_runAll hquiet hok.1
  have hresult : sampleCall.1.1 = .ok sampleHash := eq_ok_of_isOk hok.2
  rw [← Prod.eta sampleCall.1, hresult] at hreturns
  exact .returned .refl hreturns

theorem append_verify_agree_once :
    verifyBytes (sampleCall.2.auditFile.getD []) = .ok (summaryOf did [sampleHash]) :=
  (append_verify_agree did_eq (verify_sign key) (.inl rfl) appends_sampleCall).1

end Audit
