/-
# Recovery against a history with holes

A server numbers the records of a room and may drop any of them later; an empty read repeats
the number it was asked from.  `recover_delivery` concludes from one page that an envelope was
never accepted.

* `RoomHistory`         : the records that were appended, and those that are left;
* `RoomHistory.read`    : what a read returns;
* `DroppedTail`         : the histories whose end is gone, and whose beginning fits a page;
* `Denies`              : some answers lead to `delivery_not_found` or to a resend;
* `absence_proven_iff`  : the conclusion is right exactly where no tail was dropped.
-/
import SafeAgent.Recovery
import SafeAgent.JournalRoundTrip

open PyText

/-! ## A room whose server drops records -/

/-- The records of a room in the order they were appended, and those that are left. -/
structure RoomHistory where
  log : List RoomMessage
  retained : List RoomMessage
  numbered : log.map RoomMessage.seq = List.range' 1 log.length
  kept : retained.Sublist log

namespace RoomHistory

variable {h : RoomHistory} {since limit : ℕ}

/-- The records after a number that are left. -/
def after (h : RoomHistory) (since : ℕ) : List RoomMessage :=
  h.retained.filter fun m => since < m.seq

/-- The newest of them. -/
def page (h : RoomHistory) (since limit : ℕ) : List RoomMessage :=
  (h.after since).drop ((h.after since).length - limit)

theorem ordered_log (h : RoomHistory) : (h.log.map RoomMessage.seq).Pairwise (· < ·) := by
  rw [h.numbered]
  exact List.pairwise_lt_range'

theorem ordered_after (h : RoomHistory) (since : ℕ) :
    ((h.after since).map RoomMessage.seq).Pairwise (· < ·) :=
  h.ordered_log.sublist ((List.filter_sublist.trans h.kept).map RoomMessage.seq)

theorem ordered_page (h : RoomHistory) (since limit : ℕ) :
    ((h.page since limit).map RoomMessage.seq).Pairwise (· < ·) :=
  (h.ordered_after since).sublist ((List.drop_sublist _ _).map RoomMessage.seq)

/-- The first number of a page, and its last, or the number that was asked from. -/
def firstSeq (messages : List RoomMessage) : ℕ := (messages.head?.map RoomMessage.seq).getD 0

def lastSeq (messages : List RoomMessage) (since : ℕ) : ℕ :=
  (messages.getLast?.map RoomMessage.seq).getD since

theorem inRange_of_ordered (messages : List RoomMessage) (since : ℕ)
    (hordered : (messages.map RoomMessage.seq).Pairwise (· < ·)) :
    ∀ m ∈ messages, firstSeq messages ≤ m.seq ∧ m.seq ≤ lastSeq messages since := by
  intro m hm
  constructor
  · cases messages with
    | nil => exact absurd hm List.not_mem_nil
    | cons first rest =>
        show first.seq ≤ m.seq
        rw [List.map_cons, List.pairwise_cons] at hordered
        rcases List.mem_cons.mp hm with rfl | hm
        · exact le_rfl
        · exact (hordered.1 m.seq (List.mem_map_of_mem hm)).le
  · induction messages using List.reverseRecOn with
    | nil => exact absurd hm List.not_mem_nil
    | append_singleton front last _ =>
        have hlast : lastSeq (front ++ [last]) since = last.seq := by simp [lastSeq]
        rw [hlast]
        rw [List.map_append, List.map_singleton, List.pairwise_append] at hordered
        rcases List.mem_append.mp hm with hm | hm
        · exact (hordered.2.2 m.seq (List.mem_map_of_mem hm) last.seq (by simp)).le
        · rw [List.mem_singleton.mp hm]

/-- What a read of the room returns: a page, with the number of its first record and of its
last; without a record, the last number is the one that was asked from. -/
def read (h : RoomHistory) (room : PyStr) (generation since limit : ℕ) : RoomSnapshot where
  room := room
  firstSeq := firstSeq (h.page since limit)
  lastSeq := lastSeq (h.page since limit) since
  messages := h.page since limit
  generation := generation
  ordered := h.ordered_page since limit
  inRange := inRange_of_ordered _ since (h.ordered_page since limit)

theorem messages_read {room : PyStr} {generation : ℕ} :
    (h.read room generation since limit).messages = h.page since limit := rfl

/-- What is left after a number is an unbroken beginning of at most `limit` records, and more
records were appended behind it. -/
def DroppedTail (h : RoomHistory) (since limit : ℕ) : Prop :=
  ∃ k, k ≤ limit ∧ since + k < h.log.length ∧
    (h.after since).map RoomMessage.seq = List.range' (since + 1) k

/-! ## A complete history -/

theorem page_eq_after (hlength : (h.after since).length ≤ limit) :
    h.page since limit = h.after since := by
  rw [page, Nat.sub_eq_zero_of_le hlength, List.drop_zero]

theorem lastSeq_of_range {messages : List RoomMessage} {k : ℕ}
    (hseqs : messages.map RoomMessage.seq = List.range' (since + 1) k) :
    lastSeq messages since = since + k := by
  rw [lastSeq, ← List.getLast?_map, hseqs]
  cases k with
  | zero => rfl
  | succ k =>
      rw [List.getLast?_range']
      simp
      omega

theorem firstSeq_of_range {messages : List RoomMessage} {k : ℕ}
    (hseqs : messages.map RoomMessage.seq = List.range' (since + 1) (k + 1)) :
    firstSeq messages = since + 1 := by
  rw [firstSeq, ← List.head?_map, hseqs]
  rfl

/-- A page is taken for complete when it is an unbroken beginning. -/
theorem isCompleteHistory_iff {room : PyStr} {generation : ℕ} :
    Recovery.isCompleteHistory (h.read room generation since limit) since = true ↔
      ∃ k, (h.page since limit).map RoomMessage.seq = List.range' (since + 1) k := by
  constructor
  · intro hcomplete
    unfold Recovery.isCompleteHistory at hcomplete
    split_ifs at hcomplete with hempty
    · refine ⟨0, ?_⟩
      have hnil : h.page since limit = [] := hempty.2
      rw [hnil]
      rfl
    · exact ⟨_, (of_decide_eq_true hcomplete).2⟩
  · rintro ⟨k, hseqs⟩
    have hlast : (h.read room generation since limit).lastSeq = since + k := lastSeq_of_range hseqs
    unfold Recovery.isCompleteHistory
    rw [hlast, messages_read]
    cases k with
    | zero =>
        have hnil : h.page since limit = [] := List.map_eq_nil_iff.mp hseqs
        rw [if_pos ⟨rfl, hnil⟩]
    | succ k =>
        have hne : h.page since limit ≠ [] := by
          intro hnil
          rw [hnil] at hseqs
          cases hseqs
        have hfirst : (h.read room generation since limit).firstSeq = since + 1 :=
          firstSeq_of_range hseqs
        have hlater : ¬(h.page since limit = [] ∨ since + (k + 1) < since) := by
          rintro (hnil | hlt)
          · exact hne hnil
          · omega
        rw [if_neg (fun hboth => hne hboth.2), if_neg hlater, decide_eq_true_eq, hfirst, hseqs]
        refine ⟨rfl, ?_⟩
        congr 1
        omega

/-- An unbroken beginning is all that is left: a record before the page would have a number
between two successive ones. -/
theorem page_eq_after_of_range (hlimit : 0 < limit) {k : ℕ}
    (hseqs : (h.page since limit).map RoomMessage.seq = List.range' (since + 1) k) :
    h.page since limit = h.after since := by
  by_cases hlength : (h.after since).length ≤ limit
  · exact page_eq_after hlength
  exfalso
  have hsplit : (h.after since).take ((h.after since).length - limit) ++ h.page since limit =
      h.after since := List.take_append_drop _ _
  have hordered := h.ordered_after since
  rw [← hsplit, List.map_append, List.pairwise_append] at hordered
  obtain ⟨old, hold⟩ : ∃ old,
      old ∈ (h.after since).take ((h.after since).length - limit) := by
    refine List.exists_mem_of_length_pos ?_
    rw [List.length_take]
    omega
  have hafter : since < old.seq := by
    have hmem := List.mem_of_mem_take hold
    rw [after, List.mem_filter] at hmem
    exact of_decide_eq_true hmem.2
  have hfirst : since + 1 ∈ (h.page since limit).map RoomMessage.seq := by
    have hk : (h.page since limit).length = k := by
      rw [← List.length_map RoomMessage.seq, hseqs, List.length_range']
    rw [page, List.length_drop] at hk
    rw [hseqs, List.mem_range'_1]
    omega
  have hlt := hordered.2.2 old.seq (List.mem_map_of_mem hold) (since + 1) hfirst
  omega

theorem seq_le_of_mem_log {m : RoomMessage} (hm : m ∈ h.log) : m.seq ≤ h.log.length := by
  have hseq := List.mem_map_of_mem (f := RoomMessage.seq) hm
  rw [h.numbered, List.mem_range'_1] at hseq
  omega

theorem mem_log_of_mem_after {m : RoomMessage} (hm : m ∈ h.after since) : m ∈ h.log :=
  h.kept.subset (List.mem_of_mem_filter hm)

/-- A number of the log belongs to one record. -/
theorem eq_of_seq_eq {m m' : RoomMessage} (hm : m ∈ h.log) (hm' : m' ∈ h.log)
    (heq : m.seq = m'.seq) : m = m' :=
  List.inj_on_of_nodup_map (h.ordered_log.imp fun hlt => hlt.ne) hm hm' heq

/-- Every record that was appended after a number is on the page. -/
def Complete (h : RoomHistory) (since limit : ℕ) : Prop :=
  ∀ m ∈ h.log, since < m.seq → m ∈ h.page since limit

/-- An unbroken beginning with nothing behind it is complete. -/
theorem complete_of_not_dropped (hlimit : 0 < limit) {k : ℕ}
    (hseqs : (h.page since limit).map RoomMessage.seq = List.range' (since + 1) k)
    (hdropped : ¬h.DroppedTail since limit) : h.Complete since limit := by
  have hpage := page_eq_after_of_range hlimit hseqs
  have hk : k ≤ limit := by
    have hlength := congrArg List.length hseqs
    rw [List.length_map, List.length_range', page, List.length_drop] at hlength
    omega
  have hend : h.log.length ≤ since + k := by
    by_contra hlt
    exact hdropped ⟨k, hk, by omega, hpage ▸ hseqs⟩
  intro m hm hsince
  have hseq : m.seq ∈ (h.page since limit).map RoomMessage.seq := by
    have hle := seq_le_of_mem_log hm
    rw [hseqs, List.mem_range'_1]
    omega
  obtain ⟨m', hm', heq⟩ := List.mem_map.mp hseq
  have hlog : m' ∈ h.log := mem_log_of_mem_after (hpage ▸ hm')
  exact eq_of_seq_eq hm hlog heq.symm ▸ hm'

/-- A history whose tail was dropped is taken for complete, and is not. -/
theorem DroppedTail.page_eq (hdropped : h.DroppedTail since limit) :
    (∃ k, (h.page since limit).map RoomMessage.seq = List.range' (since + 1) k) ∧
      ¬h.Complete since limit := by
  obtain ⟨k, hk, hlt, hseqs⟩ := hdropped
  have hlength : (h.after since).length = k := by
    rw [← List.length_map RoomMessage.seq, hseqs, List.length_range']
  have hpage : h.page since limit = h.after since := page_eq_after (hlength.trans_le hk)
  refine ⟨⟨k, hpage ▸ hseqs⟩, ?_⟩
  intro hcomplete
  have hnext : since + k + 1 ∈ h.log.map RoomMessage.seq := by
    rw [h.numbered, List.mem_range'_1]
    omega
  obtain ⟨m, hm, hseq⟩ := List.mem_map.mp hnext
  have hmem := List.mem_map_of_mem (f := RoomMessage.seq) (hcomplete m hm (by omega))
  rw [hpage, hseqs, List.mem_range'_1] at hmem
  omega

/-- The server never accepted the envelope of the record after the input. -/
def NeverAccepted (h : RoomHistory) (record : DeliveryRecord) : Prop :=
  ∀ m ∈ h.log, record.inputSequence < m.seq → record.matchesMessage m = false

/-- The envelope was accepted after the input, and every record of it is gone from the page. -/
def Lost (h : RoomHistory) (record : DeliveryRecord) (limit : ℕ) : Prop :=
  ¬h.NeverAccepted record ∧
    ∀ m ∈ h.page record.inputSequence limit, record.matchesMessage m = false

end RoomHistory

/-! ## What recovery concludes -/

section OnFiles

open Agent Proc

variable {s : AgentState}

variable [Platform]

theorem only_journal_load : OnlyFiles DeliveryJournal.load s := by
  unfold DeliveryJournal.load
  refine only_bind (only_call trivial trivial) ?_
  intro present s₁ _
  split_ifs
  · refine only_bind (only_exceptReadError (only_bind (only_call trivial trivial) ?_)) ?_
    · intro mode s₂ _
      split_ifs
      · exact only_throw trivial
      · exact only_call trivial trivial
    · exact fun _ _ _ => only_bind (only_ofExcept trivial) fun _ _ _ => only_pure trivial
  · exact only_pure trivial

omit [Platform] in
theorem only_journal_write {record : DeliveryRecord} : OnlyFiles (DeliveryJournal.write record) s :=
  only_writeDoc fun _ => only_bind (only_call trivial trivial) fun _ _ _ =>
    only_exceptOSError (only_call trivial trivial)

theorem only_journal_acknowledge {n : ℕ} : OnlyFiles (DeliveryJournal.acknowledge n) s := by
  unfold DeliveryJournal.acknowledge
  refine only_bind only_journal_load ?_
  intro found s₁ _
  cases found with
  | none => exact only_throw trivial
  | some record =>
      refine only_bind (only_ofExcept trivial) ?_
      exact fun _ _ _ => only_bind only_journal_write fun _ _ _ => only_pure trivial

omit [Platform] in
theorem only_journal_clear : OnlyFiles DeliveryJournal.clear s := by
  unfold DeliveryJournal.clear
  refine only_bind (only_tryCatch (only_bind (only_call trivial trivial) fun _ _ _ =>
    only_pure trivial) ?_) ?_
  · intro e s₁ _
    split_ifs
    · exact only_pure trivial
    · exact only_throw trivial
    · exact only_throw trivial
  · intro removed s₁ _
    split_ifs
    · exact only_exceptOSError (only_call trivial trivial)
    · exact only_pure trivial

omit [Platform] in
theorem only_persistRecoveredState {room : PyStr} {record : DeliveryRecord} :
    OnlyFiles (Recovery.persistRecoveredState room record) s := by
  unfold Recovery.persistRecoveredState SafeResponder.advanceCursor
  refine only_bind (m := modify _) trivial ?_
  intro _ s₁ _
  refine only_get_bind (only_bind (only_get_bind (only_bind (only_ofExcept trivial) ?_)) ?_)
  · exact fun _ _ _ => only_set trivial
  · exact fun _ _ _ => only_saveState

theorem only_finalizeRecovery {room : PyStr} {record : DeliveryRecord} {n : ℕ} {text : String} :
    OnlyFiles (Recovery.finalizeRecovery room record n text) s := by
  unfold Recovery.finalizeRecovery
  refine only_tryCatch (only_bind only_journal_acknowledge fun _ _ _ =>
    only_bind only_persistRecoveredState fun _ _ _ => only_journal_clear) ?_
  intro e s₁ _
  split_ifs
  · exact only_throw trivial
  · exact only_throw trivial

end OnFiles

namespace Recovery

open RoomHistory Proc

variable [Platform] {h : RoomHistory} {room : PyStr} {generation : ℕ} {record : DeliveryRecord}
  {client : TechnocoreClient} {apply confirm : Bool} {s : AgentState}

/-- Some answers make the process report that the delivery was not found, or send something. -/
def Denies (m : Agent RecoveryReport) (s : AgentState) : Prop :=
  ¬EffTree.Every Op.OnFiles
    (fun result => ∀ room n, result.1 ≠ .ok (.deliveryNotFound room n)) (m s)

omit [Platform] in
/-- Touching the files and reporting something else denies nothing. -/
theorem not_denies_of_onlyFiles {m : Agent Unit} {report : RecoveryReport} (hm : OnlyFiles m s)
    (hreport : ∀ room n, report ≠ .deliveryNotFound room n) :
    ¬Denies (m >>= fun _ => pure report) s := by
  apply not_not_intro
  show EffTree.Every _ _ ((m s).bind _)
  rw [EffTree.every_bind]
  refine EffTree.Every.mono hm ?_
  rintro ⟨r, s'⟩ -
  cases r with
  | ok _ => exact fun room n heq => hreport room n (Except.ok.inj heq)
  | error e => exact fun room n heq => nomatch heq

/-- Only a page that is taken for complete and holds no record of the envelope lets recovery
deny the delivery. -/
theorem denies_recoverPending {snapshot : RoomSnapshot}
    (hdenies : Denies (recoverPending room record snapshot client apply confirm) s) :
    isCompleteHistory snapshot record.inputSequence = true ∧
      ∀ m ∈ snapshot.messages, record.matchesMessage m = false := by
  unfold recoverPending at hdenies
  by_cases hcomplete : isCompleteHistory snapshot record.inputSequence = true
  · refine ⟨hcomplete, ?_⟩
    dsimp only at hdenies
    rw [if_neg (not_not_intro hcomplete)] at hdenies
    intro m hm
    by_contra hmatches
    rw [Bool.not_eq_false] at hmatches
    have hfound : m ∈ snapshot.messages.filter record.matchesMessage :=
      List.mem_filter.mpr ⟨hm, hmatches⟩
    revert hdenies
    generalize snapshot.messages.filter record.matchesMessage = found at hfound
    apply not_not_intro
    rcases found with - | ⟨first, - | ⟨second, rest⟩⟩
    · exact absurd hfound List.not_mem_nil
    · dsimp only
      by_cases happly : ¬apply
      · rw [if_pos happly]
        exact fun room n heq => nomatch heq
      · rw [if_neg happly]
        exact not_not.mp (not_denies_of_onlyFiles only_finalizeRecovery fun _ _ heq => nomatch heq)
    · exact fun room n heq => nomatch heq
  · dsimp only at hdenies
    rw [if_pos hcomplete] at hdenies
    exact absurd (fun _ _ heq => nomatch heq) hdenies

/-- Without `--apply` such a page is reported as not found. -/
theorem denies_of_absent {snapshot : RoomSnapshot}
    (hcomplete : isCompleteHistory snapshot record.inputSequence = true)
    (habsent : ∀ m ∈ snapshot.messages, record.matchesMessage m = false) :
    Denies (recoverPending room record snapshot client false false) s := by
  have hfound : snapshot.messages.filter record.matchesMessage = [] := by
    rw [List.filter_eq_nil_iff]
    intro m hm hmatches
    rw [habsent m hm] at hmatches
    cases hmatches
  intro hevery
  unfold recoverPending at hevery
  rw [if_neg (not_not_intro hcomplete), hfound] at hevery
  exact hevery room record.inputSequence rfl

/-- **Absence is proven where no tail was dropped.**  A page of at most 200 records is accepted
as complete only when it holds every record appended after the input, if and only if the server
has not dropped the tail of a history that otherwise fits the page.  And recovery denies only
deliveries that the server never accepted, unless such a tail held the accepted envelope. -/
theorem absence_proven_iff (h : RoomHistory) (room : PyStr) (generation : ℕ)
    (record : DeliveryRecord) (s : AgentState) :
    ((isCompleteHistory (h.read room generation record.inputSequence 200) record.inputSequence =
          true → h.Complete record.inputSequence 200) ↔
        ¬h.DroppedTail record.inputSequence 200) ∧
      ((∀ client apply confirm,
          Denies (recoverPending room record (h.read room generation record.inputSequence 200)
            client apply confirm) s → h.NeverAccepted record) ↔
        ¬(h.DroppedTail record.inputSequence 200 ∧ h.Lost record 200)) := by
  have hlimit : 0 < 200 := Nat.zero_lt_succ 199
  generalize 200 = limit at hlimit ⊢
  constructor
  · constructor
    · intro hproven hdropped
      obtain ⟨hrange, hincomplete⟩ := hdropped.page_eq
      exact hincomplete (hproven (isCompleteHistory_iff.mpr hrange))
    · intro hdropped hcomplete
      obtain ⟨k, hseqs⟩ := isCompleteHistory_iff.mp hcomplete
      exact complete_of_not_dropped hlimit hseqs hdropped
  · constructor
    · rintro hproven ⟨hdropped, haccepted, habsent⟩
      have hcomplete : isCompleteHistory
          (h.read room generation record.inputSequence limit) record.inputSequence = true :=
        isCompleteHistory_iff.mpr hdropped.page_eq.1
      exact haccepted (hproven ⟨py "", 0⟩ false false (denies_of_absent hcomplete habsent))
    · intro hlost client apply confirm hdenies
      obtain ⟨hcomplete, habsent⟩ := denies_recoverPending hdenies
      obtain ⟨k, hseqs⟩ := isCompleteHistory_iff.mp hcomplete
      by_contra haccepted
      have hdropped : ¬h.DroppedTail record.inputSequence limit := fun hdropped =>
        hlost ⟨hdropped, haccepted, habsent⟩
      refine haccepted ?_
      intro m hm hsince
      exact habsent m (complete_of_not_dropped hlimit hseqs hdropped m hm hsince)

end Recovery

namespace Sample

/-- Five records of somebody else, and the accepted reply behind them; all of them expired. -/
def expired (record : DeliveryRecord) : RoomHistory where
  log := (List.range 5).map (fun i =>
      { seq := i + 1, sender := py "nick", text := py "hello", nonce := none,
        seq_pos := by omega }) ++
    [{ seq := 6, sender := record.did, text := record.text, nonce := some (decimal record.nonce),
       seq_pos := by decide }]
  retained := []
  numbered := rfl
  kept := List.nil_sublist _

/-- The reply to record 5 was accepted as record 6 and has expired: it is reported as not found. -/
theorem denied_expired : ∃ text signature record,
    DeliveryRecord.create room 5 { did, nonce := 7, text, signature } = .ok record ∧
      Recovery.recoverPending room record ((expired record).read room 0 5 200) client false false
          {} = .ret (.ok (.deliveryNotFound room 5), {}) ∧
        ∃ m ∈ (expired record).log, 5 < m.seq ∧ record.matchesMessage m = true := by
  obtain ⟨⟨text, signature⟩, hsign⟩ :=
    PyResult.ok_of_isOk (r := Crypto.signRoomMessage key room (.int 7) (py "pong"))
      (by decide +kernel)
  obtain ⟨record, hcreate, -, -, hinput, -, -⟩ :=
    DeliveryRecord.create_of_sign did_eq (verify_sign key) (by decide) (Nat.succ_pos 4) hsign
  refine ⟨text, signature, record, hcreate, ?_, ?_⟩
  · have hpage : (expired record).page 5 200 = [] := List.drop_nil
    have hcomplete : Recovery.isCompleteHistory ((expired record).read room 0 5 200) 5 = true := by
      rw [RoomHistory.isCompleteHistory_iff, hpage]
      exact ⟨0, rfl⟩
    have hfound : ((expired record).read room 0 5 200).messages.filter record.matchesMessage =
        [] := by
      rw [RoomHistory.messages_read, hpage, List.filter_nil]
    unfold Recovery.recoverPending
    rw [hinput, if_neg (not_not_intro hcomplete), hfound]
    rfl
  · refine ⟨_, List.mem_append_right _ (List.mem_singleton_self _), (by decide : 5 < 6), ?_⟩
    rw [DeliveryRecord.matchesMessage, decide_eq_true_eq]
    exact ⟨rfl, rfl, rfl⟩

end Sample
