/-
# Recovering a pending mailbox (`provision.py`)

Recovery posts the message again where the room shows that it never arrived.  It tells so from
three numbers: the first and the last that the room advertises, and that of the last record.

* `IsOnline`       : the record that provisioning posts;
* `AbsenceProven`  : every record that there ever was is shown, and none is the message;
* `RecoveryRight`  : recovery reports the message missing, or posts, only then;
* `Misjudged`      : where the three numbers are right and absence is not proven;
* `recovery_right_iff` : **recovery is right exactly where it does not misjudge**.
-/
import SafeAgent.Provision
import SafeAgent.SkippedMessages

open PyText

namespace Provision

open Json Proc

/-! ## What recovery does not do -/

/-- The call does not post: neither in the exchange of a provisioning command nor in one of the
responder. -/
def NoPost : ProvisionOp → Prop
  | .say _ => False
  | .agent o => ¬o.Posts
  | _ => True

/-- Whatever the calls answer, the process does not post. -/
abbrev NeverPosts {α : Type} (m : ProvisionProc α) (s : AgentState) : Prop :=
  Only NoPost (fun _ => True) m s

section Posting

variable {α : Type} {s : AgentState}

theorem neverPosts_shared {m : Agent α} (h : Only (fun o => ¬o.Posts) (fun _ => True) m s) :
    NeverPosts (shared m) s := by
  refine EffTree.every_embed ?_ h
  exact fun _ ho => ho

theorem neverPosts_orConfigError {m : ProvisionProc α} (h : NeverPosts m s) :
    NeverPosts (orConfigError m) s := by
  refine only_tryCatch h fun e s' _ => ?_
  split_ifs <;> trivial

theorem neverPosts_perform {o : ProvisionOp} (ho : NoPost o) : NeverPosts (perform o) s :=
  only_call ho trivial

theorem neverPosts_atomicJsonWrite (doc : Json) (replace : Bool) :
    NeverPosts (atomicJsonWrite doc replace) s := by
  unfold atomicJsonWrite
  refine only_bind (neverPosts_perform trivial) fun _ _ _ => ?_
  refine only_bind (neverPosts_orConfigError (neverPosts_perform trivial)) fun _ _ _ => ?_
  refine only_bind (only_tryCatch (neverPosts_orConfigError ?_) fun e s' _ => ?_)
    fun _ _ _ => neverPosts_orConfigError (neverPosts_perform trivial)
  · by_cases hfit : intsFit doc = true
    · rw [if_pos hfit]
      refine only_bind (neverPosts_perform trivial) fun _ _ _ => only_bind ?_ fun present _ _ => ?_
      · cases replace
        · exact neverPosts_perform trivial
        · trivial
      · cases present
        · exact neverPosts_perform trivial
        · trivial
    · rw [if_neg hfit]
      trivial
  · refine only_bind (only_tryCatch (neverPosts_perform trivial) fun e' s'' _ => ?_)
      fun _ _ _ => trivial
    split_ifs <;> trivial

theorem neverPosts_activate (pending : AgentConfig) (sequence : ℕ) (hpos : 0 < sequence) :
    NeverPosts (activate pending sequence hpos) s := by
  have hfiles : ∀ o : Op, o.OnFiles → ¬o.Posts := fun _ h => h.not_posts
  unfold activate saveReplacement
  refine only_bind (only_bind (neverPosts_perform trivial) fun present _ _ => ?_) fun _ _ _ => ?_
  · cases present
    · trivial
    · exact neverPosts_atomicJsonWrite _ true
  refine only_bind (neverPosts_shared (only_loadState.imp hfiles)) fun loaded _ _ => ?_
  refine only_bind (only_set trivial) fun _ _ _ => ?_
  refine only_bind (only_ofExcept trivial) fun state _ _ => ?_
  refine only_bind (only_set trivial) fun _ _ _ => ?_
  refine only_tryCatch (neverPosts_shared (only_saveState.imp hfiles)) fun e _ _ => ?_
  split_ifs <;> trivial

end Posting

/-! ## When recovery is right -/

/-- The record that provisioning posts. A nonce is sent as a text, also where the configuration holds
a number. -/
structure IsOnline (pending : AgentConfig) (m : RoomMessage) : Prop where
  sender : m.sender = pending.did
  nonce : ∃ nonce, Crypto.validateNonce pending.provisionNonce = .ok nonce ∧ m.nonce = some nonce
  text : m.text = onlineText pending.name pending.did

/-- The octets of a name. -/
theorem printable_of_isAgentName {s : PyStr} (h : isAgentName s = true) :
    s.length ≤ 48 ∧ ∀ c ∈ s, 32 ≤ c ∧ c < 127 := by
  unfold isAgentName at h
  split at h
  · cases h
  rename_i c rest
  simp only [Bool.and_eq_true, decide_eq_true_eq, List.all_eq_true] at h
  obtain ⟨⟨hfirst, hlength⟩, hrest⟩ := h
  have halnum (d : ℕ) (hd : isAlnum d = true) : 32 ≤ d ∧ d < 127 := by
    simp only [isAlnum, isAlpha, isUpper, isLower, isDigit, Bool.or_eq_true, Bool.and_eq_true,
      decide_eq_true_eq] at hd
    omega
  refine ⟨by rw [List.length_cons]; omega, List.forall_mem_cons.mpr ⟨halnum c hfirst, fun d hd => ?_⟩⟩
  have hchar := hrest d hd
  simp only [Bool.or_eq_true, beq_iff_eq] at hchar
  rcases hchar with (hchar | rfl) | rfl
  · exact halnum d hchar
  · decide
  · decide

theorem printable_of_isDid {s : PyStr} (h : Crypto.isDid s = true) :
    s.length = 56 ∧ ∀ c ∈ s, 32 ≤ c ∧ c < 127 := by
  simp only [Crypto.isDid, Bool.and_eq_true, List.all_eq_true, beq_iff_eq] at h
  obtain ⟨⟨hfront, hlength⟩, hrest⟩ := h
  obtain ⟨rest, rfl⟩ := startsWith_iff.mp hfront
  have hdrop : (py "did:key:z6Mk" ++ rest).drop 12 = rest := rfl
  rw [hdrop] at hlength hrest
  have hliteral : ∀ c ∈ py "did:key:z6Mk", 32 ≤ c ∧ c < 127 := by decide
  have hbase : ∀ c ∈ Crypto.base58btcAlphabet, 32 ≤ c ∧ c < 127 := by decide
  refine ⟨by rw [List.length_append, hlength]; rfl, List.forall_mem_append.mpr ⟨hliteral, fun c hc => ?_⟩⟩
  exact hbase c (by simpa [Crypto.isBase58] using hrest c hc)

/-- **The sweep of the room leaves the message as it is.** -/
theorem sweepText_onlineText [Platform] (pending : AgentConfig) :
    Crypto.sweepText (onlineText pending.name pending.did) =
      .ok (onlineText pending.name pending.did) := by
  obtain ⟨hname, hnameOk⟩ := printable_of_isAgentName pending.name_ok
  obtain ⟨hdid, hdidOk⟩ := printable_of_isDid pending.did_ok
  have htext : onlineText pending.name pending.did =
      115 :: (py "afe-responder-online-v1 agent:" ++ pending.name ++ py " did:" ++ pending.did ++
        py " commands:/ping,/status,/about,/help policy:signed-commands-only no-tool") ++ [115] := by
    have hlast : py " commands:/ping,/status,/about,/help policy:signed-commands-only no-tools" =
        py " commands:/ping,/status,/about,/help policy:signed-commands-only no-tool" ++ [115] := rfl
    rw [onlineText, hlast]
    simp only [List.append_assoc, List.cons_append]
    rfl
  have hlit : ∀ t ∈ [py "afe-responder-online-v1 agent:", py " did:",
      py " commands:/ping,/status,/about,/help policy:signed-commands-only no-tool"],
      ∀ c ∈ t, 32 ≤ c ∧ c < 127 := by decide
  rw [htext]
  refine Crypto.sweepText_of_printable ?_ (by decide) (by decide) ?_
  · simp only [List.forall_mem_cons, List.forall_mem_append, List.mem_singleton, forall_eq] at hlit ⊢
    exact ⟨⟨by decide, ⟨⟨⟨⟨hlit.1, hnameOk⟩, hlit.2.1⟩, hdidOk⟩, hlit.2.2⟩⟩, by decide⟩
  · simp only [List.length_cons, List.length_append, List.length_nil, hdid]
    have hfixed : (py "afe-responder-online-v1 agent:").length + (py " did:").length +
        (py " commands:/ping,/status,/about,/help policy:signed-commands-only no-tool").length = 107 := rfl
    omega

/-- The nonce is sent as the text that `validate_nonce` makes of it. -/
theorem validateNonce_of_sayUrl [Platform] {client : TechnocoreClient} {room did signature text : PyStr}
    {nonce : Json} {request : PyStr × PyStr}
    (h : sayUrl client room did signature nonce text = .ok request) :
    Crypto.validateNonce nonce = .ok request.2 := by
  obtain ⟨_, -, h⟩ := PyResult.bind_ok h
  obtain ⟨_, -, h⟩ := PyResult.bind_ok h
  obtain ⟨validNonce, hnonce, h⟩ := PyResult.bind_ok h
  split_ifs at h
  obtain ⟨_, -, h⟩ := PyResult.bind_ok h
  obtain ⟨_, -, h⟩ := PyResult.bind_ok h
  obtain ⟨_, -, h⟩ := PyResult.bind_ok h
  obtain ⟨_, -, h⟩ := PyResult.bind_ok h
  obtain ⟨_, -, h⟩ := PyResult.bind_ok h
  dsimp only at h
  split at h
  · cases h
  · split_ifs at h
    cases h
    exact hnonce

/-- What `send_signed_message` takes for the posted record is the message. -/
theorem isOnline_of_checkPosted [Platform] {pending : AgentConfig} {client : TechnocoreClient}
    {privateKey : Platform.PrivateKey} {signed request : PyStr × PyStr} {payload : JsonFields}
    {posted : RoomMessage}
    (hsign : Crypto.signRoomMessage privateKey pending.room pending.provisionNonce
      (onlineText pending.name pending.did) = .ok signed)
    (hsay : sayUrl client pending.room pending.did signed.2 pending.provisionNonce signed.1 = .ok request)
    (h : checkPosted pending.room pending.did request.2 signed.1 payload = .ok posted) :
    IsOnline pending posted := by
  obtain ⟨_, -, hsign⟩ := PyResult.bind_ok hsign
  obtain ⟨_, -, hsign⟩ := PyResult.bind_ok hsign
  obtain ⟨swept, hswept, hsign⟩ := PyResult.bind_ok hsign
  obtain ⟨_, -, hsign⟩ := PyResult.bind_ok hsign
  obtain ⟨_, -, hsign⟩ := PyResult.bind_ok hsign
  cases hsign
  rw [sweepText_onlineText] at hswept
  cases hswept
  obtain ⟨snapshot, -, h⟩ := PyResult.bind_ok h
  obtain ⟨message, -, h⟩ := PyResult.bind_ok h
  split_ifs at h with hdiffers
  cases h
  push Not at hdiffers
  exact ⟨hdiffers.1, ⟨request.2, validateNonce_of_sayUrl hsay, hdiffers.2.2.1⟩, hdiffers.2.1⟩

/-- Recovery compares the number itself with the nonces that the room shows, which are texts. -/
theorem isOnlineRecord_iff {pending : AgentConfig} {m : RoomMessage} : isOnlineRecord pending m = true ↔
    IsOnline pending m ∧ ∃ nonce, pending.provisionNonce = .str nonce := by
  have hvalid (nonce : PyStr) (h : pending.provisionNonce = .str nonce) :
      Crypto.validateNonce pending.provisionNonce = .ok nonce := by
    have hok := pending.nonce_ok
    rw [h, Crypto.validateNonce] at hok ⊢
    split_ifs at hok ⊢ with hnonce
    · rfl
    · cases hok
  simp only [isOnlineRecord, Bool.and_eq_true, beq_iff_eq, Option.any_eq_true, isStr_iff]
  constructor
  · rintro ⟨⟨hsender, nonce, hmem, hstr⟩, htext⟩
    exact ⟨⟨hsender, ⟨nonce, hvalid nonce hstr, hmem⟩, htext⟩, nonce, hstr⟩
  · rintro ⟨⟨hsender, ⟨nonce, hok, hmem⟩, htext⟩, nonce', hstr⟩
    obtain rfl := Except.ok.inj ((hvalid nonce' hstr).symm.trans hok)
    exact ⟨⟨hsender, nonce', hmem, hstr⟩, htext⟩

/-- A nonce is a text or a number. -/
theorem nonce_cases (pending : AgentConfig) : (∃ nonce, pending.provisionNonce = .str nonce) ∨
    ∃ n, pending.provisionNonce = .int n := by
  have hok := pending.nonce_ok
  cases hnonce : pending.provisionNonce with
  | str nonce => exact Or.inl ⟨nonce, rfl⟩
  | int n => exact Or.inr ⟨n, rfl⟩
  | _ =>
      rw [hnonce] at hok
      cases hok

/-- The records of the room are all there, and the message is none of them. -/
structure AbsenceProven (pending : AgentConfig) (snapshot : RoomSnapshot) (everHad : ℕ) : Prop where
  complete : snapshot.messages.map RoomMessage.seq = List.range' 1 snapshot.lastSeq
  neverHad : snapshot.messages = [] → everHad = 0
  absent : ∀ m ∈ snapshot.messages, ¬IsOnline pending m

/-- The last record has the last number of the room, and the first number is 1. -/
def EndsRight (snapshot : RoomSnapshot) : Prop :=
  snapshot.firstSeq = 1 ∧ ∃ last, snapshot.messages.getLast? = some last ∧ last.seq = snapshot.lastSeq

/-- Where the three numbers are right, and absence is not proven all the same. -/
inductive Misjudged (pending : AgentConfig) (snapshot : RoomSnapshot) (everHad : ℕ) : Prop
  /-- The room had records, and they are gone. -/
  | expired (empty : snapshot.messages = []) (last : snapshot.lastSeq = 0) (had : 0 < everHad)
  /-- A record inside the page is missing. -/
  | hole (absent : ∀ m ∈ snapshot.messages, ¬IsOnline pending m) (ends : EndsRight snapshot) {n : ℕ}
      (first : 1 ≤ n) (last : n ≤ snapshot.lastSeq) (missing : n ∉ snapshot.messages.map RoomMessage.seq)
  /-- The message is there, and its nonce is a number in the configuration. -/
  | unrecognised (ends : EndsRight snapshot) {n : ℤ} (nonce : pending.provisionNonce = .int n)
      {m : RoomMessage} (shown : m ∈ snapshot.messages) (online : IsOnline pending m)

/-- A page that shows each number up to the last is the whole room. -/
theorem seqs_eq_range {snapshot : RoomSnapshot}
    (h : ∀ n, 1 ≤ n → n ≤ snapshot.lastSeq → n ∈ snapshot.messages.map RoomMessage.seq) :
    snapshot.messages.map RoomMessage.seq = List.range' 1 snapshot.lastSeq := by
  have hpos : ∀ n ∈ snapshot.messages.map RoomMessage.seq, 1 ≤ n ∧ n ≤ snapshot.lastSeq := by
    intro n hn
    obtain ⟨m, hm, rfl⟩ := List.mem_map.mp hn
    exact ⟨m.seq_pos, (snapshot.inRange m hm).2⟩
  have hrange : (List.range' 1 snapshot.lastSeq).Pairwise (· < ·) := List.pairwise_lt_range'
  have hperm : (snapshot.messages.map RoomMessage.seq).Perm (List.range' 1 snapshot.lastSeq) := by
    refine (List.perm_ext_iff_of_nodup ?_ ?_).mpr fun n => ?_
    · exact snapshot.ordered.imp fun hlt => hlt.ne
    · exact hrange.imp fun hlt => hlt.ne
    · rw [List.mem_range'_1]
      constructor
      · intro hn
        have hle := hpos n hn
        omega
      · rintro ⟨hlo, hhi⟩
        exact h n hlo (by omega)
  exact hperm.eq_of_pairwise (fun a b _ _ hab hba => absurd hab (lt_asymm hba)) snapshot.ordered hrange

theorem completeHistory_iff {snapshot : RoomSnapshot} : completeHistory snapshot = true ↔
    (snapshot.messages = [] ∧ snapshot.lastSeq = 0) ∨ EndsRight snapshot := by
  have hempty : snapshot.lastSeq = 0 → snapshot.messages = [] := by
    intro hzero
    refine List.eq_nil_iff_forall_not_mem.mpr fun m hm => ?_
    have hpos := m.seq_pos
    have hle := (snapshot.inRange m hm).2
    omega
  rw [completeHistory, Bool.or_eq_true, beq_iff_eq, EndsRight]
  refine or_congr ⟨fun hzero => ⟨hempty hzero, hzero⟩, fun h => h.2⟩ ?_
  cases hlast : snapshot.messages.getLast? with
  | none => exact iff_of_false Bool.false_ne_true (by rintro ⟨-, _, ⟨⟩, -⟩)
  | some last =>
      dsimp only
      rw [Bool.and_eq_true, beq_iff_eq, beq_iff_eq]
      simp only [Option.some.injEq, exists_eq_left']

/-- **Where the code does not recognise the message and takes the page for the whole room**, absence is
proven unless it misjudges. -/
theorem absenceProven_iff {pending : AgentConfig} {snapshot : RoomSnapshot} {everHad : ℕ}
    (hunseen : ∀ m ∈ snapshot.messages, isOnlineRecord pending m = false)
    (hcomplete : completeHistory snapshot = true) :
    AbsenceProven pending snapshot everHad ↔ ¬Misjudged pending snapshot everHad := by
  constructor
  · rintro hproven (⟨hempty, -, hhad⟩ | ⟨-, -, hfirst, hlast, hmissing⟩ | ⟨-, -, hshown, honline⟩)
    · have hnever := hproven.neverHad hempty
      omega
    · rw [hproven.complete, List.mem_range'_1] at hmissing
      omega
    · exact hproven.absent _ hshown honline
  · intro hjudged
    rw [completeHistory_iff] at hcomplete
    have habsent : ∀ m ∈ snapshot.messages, ¬IsOnline pending m := by
      intro m hm honline
      obtain hstr | ⟨n, hint⟩ := nonce_cases pending
      · have hseen := isOnlineRecord_iff.mpr ⟨honline, hstr⟩
        rw [hunseen m hm] at hseen
        cases hseen
      · rcases hcomplete with ⟨hempty, -⟩ | hends
        · rw [hempty] at hm
          cases hm
        · exact hjudged (.unrecognised hends hint hm honline)
    refine ⟨seqs_eq_range fun n hlo hhi => ?_, fun hnil => ?_, habsent⟩
    · by_contra hmissing
      rcases hcomplete with ⟨-, hzero⟩ | hends
      · omega
      · exact hjudged (.hole habsent hends hlo hhi hmissing)
    · by_contra hhad
      rcases hcomplete with ⟨-, hzero⟩ | ⟨-, last, hlast, -⟩
      · exact hjudged (.expired hnil hzero (Nat.pos_of_ne_zero hhad))
      · rw [hnil] at hlast
        cases hlast

section Platform

variable [Platform] {client : TechnocoreClient} {privateKey : Platform.PrivateKey} {retry : Bool}
  {pending : AgentConfig} {snapshot : RoomSnapshot} {everHad : ℕ}

/-- Recovery of a mailbox reports the message missing, or posts it again, only where its absence is
proven; elsewhere, and where the message is not shown, it says so and does nothing. -/
def RecoveryRight (client : TechnocoreClient) (privateKey : Platform.PrivateKey) (pending : AgentConfig)
    (snapshot : RoomSnapshot) (everHad : ℕ) : Prop :=
  ∀ retry,
    ((finishRecovery client privateKey retry pending snapshot = pure (.writeNotFound pending.room) ∨
        ¬∀ s, NeverPosts (finishRecovery client privateKey retry pending snapshot) s) →
      AbsenceProven pending snapshot everHad) ∧
    ((∀ m ∈ snapshot.messages, ¬IsOnline pending m) →
      ¬AbsenceProven pending snapshot everHad →
      finishRecovery client privateKey retry pending snapshot = pure (.historyIncomplete pending.room))

/-- Where the message is shown, nothing is posted, and the first call is made. -/
theorem finishRecovery_shown (client : TechnocoreClient) (privateKey : Platform.PrivateKey) (retry : Bool)
    {message : RoomMessage} (h : snapshot.messages.find? (isOnlineRecord pending) = some message) (s : AgentState) :
    NeverPosts (finishRecovery client privateKey retry pending snapshot) s ∧
      finishRecovery client privateKey retry pending snapshot ≠ pure (.writeNotFound pending.room) := by
  unfold finishRecovery
  rw [h]
  refine ⟨only_bind (neverPosts_activate _ _ _) fun _ _ _ => trivial, fun heq => ?_⟩
  have hcalls := congrFun heq s
  cases hcalls

/-- Where it is not shown, and the numbers are not right, nothing is done. -/
theorem finishRecovery_incomplete (h : snapshot.messages.find? (isOnlineRecord pending) = none)
    (hcomplete : completeHistory snapshot = false) :
    finishRecovery client privateKey retry pending snapshot = pure (.historyIncomplete pending.room) := by
  unfold finishRecovery
  rw [h]
  dsimp only
  rw [hcomplete]
  rfl

theorem finishRecovery_notFound (h : snapshot.messages.find? (isOnlineRecord pending) = none)
    (hcomplete : completeHistory snapshot = true) :
    finishRecovery client privateKey false pending snapshot = pure (.writeNotFound pending.room) := by
  unfold finishRecovery
  rw [h]
  dsimp only
  rw [hcomplete]
  rfl

omit [Platform] in
theorem find?_none_iff : snapshot.messages.find? (isOnlineRecord pending) = none ↔
    ∀ m ∈ snapshot.messages, isOnlineRecord pending m = false := by
  rw [List.find?_eq_none]
  simp only [Bool.not_eq_true]

omit [Platform] in
/-- Where recovery misjudges, it recognises no record, and its three numbers are right. -/
theorem complete_of_misjudged (h : Misjudged pending snapshot everHad) :
    completeHistory snapshot = true ∧ ∀ m ∈ snapshot.messages, isOnlineRecord pending m = false := by
  rw [completeHistory_iff]
  obtain ⟨hempty, hzero, -⟩ | ⟨habsent, hends, -⟩ | ⟨hends, hint, -⟩ := h
  · refine ⟨Or.inl ⟨hempty, hzero⟩, fun m hm => ?_⟩
    rw [hempty] at hm
    cases hm
  · refine ⟨Or.inr hends, fun m hm => ?_⟩
    rw [← Bool.not_eq_true, isOnlineRecord_iff]
    exact fun hseen => habsent m hm hseen.1
  · refine ⟨Or.inr hends, fun m _ => ?_⟩
    rw [← Bool.not_eq_true, isOnlineRecord_iff, hint]
    rintro ⟨-, _, ⟨⟩⟩

/-- **Recovery is right exactly where it does not misjudge.** -/
theorem recovery_right_iff :
    RecoveryRight client privateKey pending snapshot everHad ↔ ¬Misjudged pending snapshot everHad := by
  constructor
  · intro hright hmisjudged
    obtain ⟨hcomplete, hunseen⟩ := complete_of_misjudged hmisjudged
    have hnone := find?_none_iff.mpr hunseen
    have hproven := (hright false).1 (Or.inl (finishRecovery_notFound hnone hcomplete))
    exact (absenceProven_iff hunseen hcomplete).mp hproven hmisjudged
  · intro hjudged retry
    cases hfind : snapshot.messages.find? (isOnlineRecord pending) with
    | some message =>
        have hshown := finishRecovery_shown client privateKey retry hfind
        have honline := isOnlineRecord_iff.mp (List.find?_some hfind)
        refine ⟨?_, fun habsent => absurd honline.1 (habsent _ (List.mem_of_find?_eq_some hfind))⟩
        rintro (hreport | hposts)
        · exact absurd hreport (hshown {}).2
        · exact absurd (fun s => (hshown s).1) hposts
    | none =>
        by_cases hcomplete : completeHistory snapshot = true
        · have hproven := (absenceProven_iff (find?_none_iff.mp hfind) hcomplete).mpr hjudged
          exact ⟨fun _ => hproven, fun _ hunproven => absurd hproven hunproven⟩
        · rw [Bool.not_eq_true] at hcomplete
          rw [finishRecovery_incomplete hfind hcomplete]
          refine ⟨?_, fun _ _ => rfl⟩
          rintro (hreport | hposts)
          · have hsame := congrFun hreport {}
            cases hsame
          · exact absurd (fun s => only_pure trivial) hposts

end Platform

end Provision

namespace Sample

open Provision

theorem isAgentName_pending : isAgentName (py "SafeAgent") = true := by decide

theorem isDid_did : Crypto.isDid did = true := by decide +kernel

theorem isRoom_room : Crypto.isRoom room = true := by decide

theorem created_ne : py "2026-01-01T00:00:00+00:00" ≠ [] := by decide

theorem isOk_nonce : (Crypto.validateNonce (.str (py "5"))).isOk = true := by decide

theorem no_sequence (n : ℕ) (h : none = some n) : 0 < n := nomatch h

theorem pending_ne_active (h : ConfigStatus.pending = .active) : (none : Option ℕ).isSome = true := nomatch h

/-- A configuration that was written before the message was posted. -/
def pendingConfig : AgentConfig where
  name := py "SafeAgent"
  did := did
  fingerprint := py "90ecf6764eee6594"
  room := room
  baseUrl := client.baseUrl
  status := .pending
  createdAt := py "2026-01-01T00:00:00+00:00"
  provisionNonce := .str (py "5")
  provisionedSeq := none
  name_ok := isAgentName_pending
  did_ok := isDid_did
  room_ok := isRoom_room
  created_ne := created_ne
  nonce_ok := isOk_nonce
  seq_pos := no_sequence
  active_seq := pending_ne_active

/-- **A hole inside a page** passes for a whole room: of the records 1 to 3 the second is not shown,
and recovery reports that the message was never written. -/
theorem recovery_wrong_gapped :
    Protocol.parseSnapshot gappedPayload room = .ok gappedSnapshot ∧
      ¬RecoveryRight client key pendingConfig gappedSnapshot 3 := by
  refine ⟨parseSnapshot_gapped, fun hright => ?_⟩
  have habsent : gappedSnapshot.messages.find? (isOnlineRecord pendingConfig) = none := by decide +kernel
  have hproven := (hright false).1 (Or.inl (finishRecovery_notFound habsent (by decide +kernel)))
  have hseqs := hproven.complete
  revert hseqs
  decide

end Sample
