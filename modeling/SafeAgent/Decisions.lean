/-
# What stands behind a decision, and when there is none

* `RepositoryScope`       : a scope of a grant, an owner with one repository or with all;
* `scopeAllows_iff`       : the string comparison of `allows_repository` is `Covers`;
* `Justified`             : what a live decision to answer rests on, and what it leaves behind;
* `decide_authorized`     : every decision of the capability policy;
* `Unparsable`            : the URLs on which the parser raises what `_parse_command` lets through;
* `decide_unless_crashing`: a decision is returned exactly where such a URL is not reached;
* `cursor_past_unless_crashing`: only there does the cursor stay before a message.
-/
import SafeAgent.DryRuns
import SafeAgent.StateRuns

open PyText Proc

/-! ## Scopes -/

/-- A scope of a grant: an owner, and one of its repositories or (`*`) all of them. -/
structure RepositoryScope where
  owner : PyStr
  repository : Option PyStr
  owner_ok : isOwner owner = true
  repository_ok : ∀ name, repository = some name → validRepository name = true

namespace RepositoryScope

/-- The scope as `_repository_scope` keeps it. -/
def text (scope : RepositoryScope) : PyStr :=
  casefold (scope.owner ++ 47 :: scope.repository.getD (py "*"))

/-- The scope covers a repository, whatever the case of the letters. -/
def Covers (scope : RepositoryScope) (reference : PullRequestRef) : Prop :=
  casefold scope.owner = casefold reference.owner ∧
    ∀ name, scope.repository = some name → casefold name = casefold reference.repository

end RepositoryScope

namespace PyText

theorem notMem_casefold {c : ℕ} {s : PyStr} (hletter : isLower c = false) (h : c ∉ s) :
    c ∉ casefold s := by
  intro hmem
  obtain ⟨a, ha, heq⟩ := List.mem_map.mp hmem
  unfold asciiLower at heq
  split_ifs at heq with hupper
  · simp only [isUpper, isLower, Bool.and_eq_true, Bool.and_eq_false_iff, decide_eq_true_eq,
      decide_eq_false_iff_not] at hupper hletter
    omega
  · exact h (heq ▸ ha)

theorem casefold_append (s t : PyStr) : casefold (s ++ t) = casefold s ++ casefold t :=
  List.map_append

/-- Two texts with one separator agree when both parts do. -/
theorem append_sep_inj {c : ℕ} {s s' t t' : PyStr} (hs : c ∉ s) (hs' : c ∉ s') :
    s ++ c :: t = s' ++ c :: t' ↔ s = s' ∧ t = t' := by
  constructor
  · intro heq
    have hcut := congrArg (cut c) heq
    rw [cut_append hs, cut_append hs'] at hcut
    cases hcut
    exact ⟨rfl, rfl⟩
  · rintro ⟨rfl, rfl⟩
    rfl

end PyText

theorem notMem_of_isOwner {owner : PyStr} (h : isOwner owner = true) {c : ℕ}
    (hc : isAlnum c = false) (hhyphen : c ≠ 45) : c ∉ owner := by
  intro hmem
  simp only [isOwner, Bool.and_eq_true, List.all_eq_true, Bool.or_eq_true, beq_iff_eq] at h
  rcases h.1.2 c hmem with halnum | heq
  · rw [hc] at halnum
    cases halnum
  · exact hhyphen heq

theorem validRepository_chars {name : PyStr} (h : validRepository name = true) :
    name ≠ [] ∧ ∀ c ∈ name, isRepositoryChar c = true := by
  simp only [validRepository, isRepository, Bool.and_eq_true, decide_eq_true_eq,
    List.all_eq_true] at h
  refine ⟨?_, h.1.1.2⟩
  rintro rfl
  exact absurd h.1.1.1.1 (by decide)

theorem notMem_of_validRepository {name : PyStr} (h : validRepository name = true) {c : ℕ}
    (hc : isRepositoryChar c = false) : c ∉ name := by
  intro hmem
  rw [(validRepository_chars h).2 c hmem] at hc
  cases hc

namespace RepositoryScope

variable {scope : RepositoryScope} {reference : PullRequestRef}

theorem slash_notMem_owner {owner : PyStr} (h : isOwner owner = true) : 47 ∉ casefold owner :=
  notMem_casefold (by decide) (notMem_of_isOwner h (by decide) (by decide))

theorem text_eq (scope : RepositoryScope) :
    scope.text = casefold scope.owner ++ 47 :: casefold (scope.repository.getD (py "*")) :=
  casefold_append scope.owner _

theorem folded_fullName (reference : PullRequestRef) :
    casefold reference.fullName = casefold reference.owner ++ 47 :: casefold reference.repository :=
  casefold_append reference.owner _

theorem count_fullName (reference : PullRequestRef) :
    (casefold reference.fullName).count 47 = 1 := by
  have howner := List.count_eq_zero_of_not_mem (slash_notMem_owner reference.owner_ok)
  have hrepository : (casefold reference.repository).count 47 = 0 :=
    List.count_eq_zero_of_not_mem
      (notMem_casefold (by decide) (notMem_of_validRepository reference.repository_ok (by decide)))
  rw [folded_fullName, List.count_append, List.count_cons_self, howner, hrepository]

/-- A scope ends like a wildcard when it is one. -/
theorem endsWith_text : endsWith (py "/*") scope.text = true ↔ scope.repository = none := by
  rw [text_eq, endsWith, List.isSuffixOf_iff_suffix]
  constructor
  · intro hsuffix
    cases hrepository : scope.repository with
    | none => rfl
    | some name =>
        exfalso
        -- the last character of a name is not a star
        have hvalid := scope.repository_ok name hrepository
        have hstar : 42 ∉ casefold name :=
          notMem_casefold (by decide) (notMem_of_validRepository hvalid (by decide))
        have hne : casefold name ≠ [] := fun hnil =>
          (validRepository_chars hvalid).1 (List.map_eq_nil_iff.mp hnil)
        rw [hrepository, Option.getD_some] at hsuffix
        obtain ⟨front, hfront⟩ := hsuffix
        have hlast := congrArg List.getLast? hfront
        rw [List.getLast?_append_of_ne_nil _ (by decide : py "/*" ≠ []),
          List.getLast?_append_of_ne_nil _ (List.cons_ne_nil _ _),
          List.getLast?_cons_of_ne_nil hne] at hlast
        exact hstar (List.mem_of_getLast? hlast.symm)
  · intro hrepository
    rw [hrepository]
    exact List.suffix_append _ _

/-- **The comparison of `allows_repository`** is the covering of a repository by a scope. -/
theorem scopeAllows_iff :
    CapabilityGrant.scopeAllows (casefold reference.fullName) scope.text = true ↔
      scope.Covers reference := by
  unfold CapabilityGrant.scopeAllows Covers
  cases hrepository : scope.repository with
  | none =>
      -- `owner/*` without the star is the owner and a slash, which no owner contains
      have hdrop : scope.text.dropLast = casefold scope.owner ++ [47] := by
        rw [text_eq, hrepository]
        show (casefold scope.owner ++ [47, 42]).dropLast = _
        rw [List.dropLast_append_of_ne_nil (by simp)]
        rfl
      rw [if_pos (endsWith_text.mpr hrepository), count_fullName, hdrop, folded_fullName,
        Bool.and_eq_true, startsWith_iff]
      constructor
      · rintro ⟨⟨rest, hrest⟩, -⟩
        rw [List.append_assoc] at hrest
        have hsplit := (append_sep_inj (slash_notMem_owner scope.owner_ok)
          (slash_notMem_owner reference.owner_ok)).mp hrest
        exact ⟨hsplit.1, nofun⟩
      · rintro ⟨howner, -⟩
        refine ⟨⟨casefold reference.repository, ?_⟩, rfl⟩
        rw [howner, List.append_assoc]
        rfl
  | some name =>
      have hends : ¬endsWith (py "/*") scope.text = true := by
        rw [endsWith_text, hrepository]
        exact nofun
      rw [if_neg hends, beq_iff_eq, text_eq, hrepository, folded_fullName, Option.getD_some,
        append_sep_inj (slash_notMem_owner reference.owner_ok)
          (slash_notMem_owner scope.owner_ok)]
      constructor
      · rintro ⟨howner, hname⟩
        refine ⟨howner.symm, ?_⟩
        rintro _ ⟨⟩
        exact hname.symm
      · rintro ⟨howner, hname⟩
        exact ⟨howner.symm, (hname name rfl).symm⟩

end RepositoryScope

/-! ## The scopes of an accepted file -/

namespace Capabilities

open Json PyItems

theorem scope_of_repositoryScope {value : Json} {text : PyStr}
    (h : repositoryScope value = .ok text) : ∃ scope : RepositoryScope, scope.text = text := by
  unfold repositoryScope at h
  cases hvalue : value.asStr with
  | none =>
      rw [hvalue] at h
      cases h
  | some s =>
      rw [hvalue] at h
      dsimp only at h
      split_ifs at h with hshape howner hrepository
      cases h
      by_cases hstar : (cut 47 s).2.getD [] = py "*"
      · refine ⟨⟨(cut 47 s).1, none, howner, nofun⟩, ?_⟩
        rw [hstar]
        rfl
      · have hvalid : validRepository ((cut 47 s).2.getD []) = true := by
          by_contra hinvalid
          exact hrepository ⟨hstar, hinvalid⟩
        refine ⟨⟨(cut 47 s).1, some ((cut 47 s).2.getD []), howner, ?_⟩, rfl⟩
        rintro _ ⟨⟩
        exact hvalid

/-- Every text of a list is a scope. -/
def AllScopes (texts : List PyStr) : Prop :=
  ∀ text ∈ texts, ∃ scope : RepositoryScope, scope.text = text

theorem allScopes_of_checkScopes {items : List Json} {checked texts : List PyStr}
    (hchecked : AllScopes checked) (h : checkScopes items checked = .ok texts) :
    AllScopes texts := by
  induction items generalizing checked with
  | nil =>
      cases h
      exact hchecked
  | cons item rest ih =>
      rw [checkScopes] at h
      obtain ⟨scope, hscope, h⟩ := PyResult.bind_eq_ok.mp h
      split_ifs at h
      refine ih ?_ h
      intro text htext
      rcases List.mem_append.mp htext with hold | hnew
      · exact hchecked text hold
      · rw [List.mem_singleton.mp hnew]
        exact scope_of_repositoryScope hscope

theorem allScopes_of_parseGrant {payload : Json} {grant : CapabilityGrant}
    (h : parseGrant payload = .ok grant) : AllScopes grant.repositories := by
  unfold parseGrant at h
  split at h
  · cases h
  · split_ifs at h
    split at h
    · obtain ⟨checked, -, h⟩ := PyResult.bind_eq_ok.mp h
      obtain ⟨texts, htexts, h⟩ := PyResult.bind_eq_ok.mp h
      split_ifs at h
      split at h
      · cases h
      · split_ifs at h
        cases h
        unfold repositoryScopes at htexts
        split at htexts
        · cases htexts
        · exact allScopes_of_checkScopes (fun _ hmem => absurd hmem List.not_mem_nil) htexts
    · cases h

/-- The grants of a decoded file list scopes. -/
theorem allScopes_of_checkItems {items : JsonFields} {checked found : PyDict CapabilityGrant}
    (hchecked : ∀ did grant, checked.get? did = some grant → AllScopes grant.repositories)
    (h : checkItems checkPrincipal items checked = .ok found) :
    ∀ did grant, found.get? did = some grant → AllScopes grant.repositories := by
  induction items generalizing checked with
  | nil =>
      cases h
      exact hchecked
  | cons item rest ih =>
      obtain ⟨key, payload⟩ := item
      rw [checkItems] at h
      obtain ⟨value, hvalue, h⟩ := PyResult.bind_eq_ok.mp h
      refine ih ?_ h
      intro did grant hget
      rw [PyDict.get?_set] at hget
      split_ifs at hget
      · cases hget
        unfold checkPrincipal at hvalue
        split at hvalue
        · cases hvalue
        · exact allScopes_of_parseGrant hvalue
      · exact hchecked did grant hget

theorem allScopes_of_policyOfFile [Platform] {info : FileMeta} {raw : Bytes}
    {policy : CapabilityPolicy} (h : policyOfFile info raw = .ok policy) {did : PyStr}
    {grant : CapabilityGrant} (hgrant : policy.grantFor did = some grant) :
    AllScopes grant.repositories := by
  unfold policyOfFile at h
  split_ifs at h
  obtain ⟨payload, -, h⟩ := PyResult.bind_eq_ok.mp h
  unfold parsePolicy at h
  split at h
  · cases h
  · split_ifs at h
    split at h
    · cases h
    · split_ifs at h
      obtain ⟨checked, hchecked, h⟩ := PyResult.bind_eq_ok.mp h
      cases h
      refine allScopes_of_checkItems ?_ hchecked did grant hgrant
      intro other found hget
      rw [PyDict.get?_empty] at hget
      cases hget

end Capabilities

/-! ## What a decision to answer rests on -/

section Justified

variable [Platform]

/-- What a live decision to answer rests on, in terms of the message, the capability file, the
state before it and the clock. -/
structure Justified (policy : CommandPolicy) (message : RoomMessage) (s : AgentState)
    (file : FileMeta × Bytes) (now : ℕ) : Prop where
  /-- Somebody else signed the message. -/
  sender : message.sender ≠ policy.ownDid ∧ message.nonce.isSome = true ∧
    Crypto.isDid message.sender = true
  /-- The file grants the command to exactly this sender, and has room for the request. -/
  granted : ∃ capabilities grant command,
    Capabilities.policyOfFile file.1 file.2 = .ok capabilities ∧
    capabilities.grantFor message.sender = some grant ∧ grant.enabled = true ∧
    Policy.commandName message.text = some command ∧ command ∈ grant.commands ∧
    (command = .pr → ∃ reference scope,
      Receipt.parseGithubPullRequestUrl (removePrefix (py "/pr ") message.text) = .ok reference ∧
        RepositoryScope.text scope ∈ grant.repositories ∧ scope.Covers reference) ∧
    (AgentState.inWindow (AgentState.effectiveNow (s.historyOf message.sender) now)
      Capabilities.windowSeconds (s.historyOf message.sender)).length < grant.limit

/-- The time stamp that is reserved: the later of the clock and the latest that is in the window. -/
def reservedStamp (now : ℕ) (stamps : List ℕ) : ℕ :=
  AgentState.effectiveNow (AgentState.inWindow now Capabilities.windowSeconds stamps) now

/-- The sender's history has one more time stamp, and keeps every other that is in the window which
ends there; the other histories keep what is in the window that ends at the clock's time, and
nothing else has changed. -/
structure ReservedFor (did : PyStr) (now : ℕ) (s s' : AgentState) : Prop where
  sender : s'.historyOf did =
    AgentState.inWindow (reservedStamp now (s.historyOf did)) Capabilities.windowSeconds
      (s.historyOf did) ++ [reservedStamp now (s.historyOf did)]
  others : ∀ other ≠ did,
    s'.historyOf other = AgentState.inWindow now Capabilities.windowSeconds (s.historyOf other)
  frame : s'.cursors = s.cursors ∧ s'.nonces = s.nonces ∧ s'.generations = s.generations

omit [Platform] in
theorem reservedFor_of_reserve {did : PyStr} {now : ℕ} {s s' : AgentState}
    (h : s.reserveCapabilityRequest did now Capabilities.windowSeconds = .ok s') :
    ReservedFor did now s s' := by
  refine ⟨?_, ?_, AgentState.reserve_frame h⟩
  · have hlater : now ≤ reservedStamp now (s.historyOf did) := le_max_left _ _
    rw [← AgentState.inWindow_inWindow hlater]
    exact (AgentState.historyOf_reserve h did).trans (if_pos rfl)
  · intro other hother
    exact (AgentState.historyOf_reserve h other).trans (if_neg hother)

theorem covers_of_granted {grant : CapabilityGrant} {message : RoomMessage} {parsed : ParsedCommand}
    {reference : PullRequestRef} (hscopes : Capabilities.AllScopes grant.repositories)
    (hparse : Policy.parseCommand .pr message.text = .ok parsed)
    (hreference :
      Receipt.parseGithubPullRequestUrl (removePrefix (py "/pr ") message.text) = .ok reference)
    (hallows : ∀ fullName, parsed.repository = some fullName →
      grant.allowsRepository fullName = true) :
    ∃ scope, RepositoryScope.text scope ∈ grant.repositories ∧ scope.Covers reference := by
  have hfull : parsed.repository = some reference.fullName := by
    unfold Policy.parseCommand at hparse
    rw [show Policy.replies .pr = none from rfl, hreference] at hparse
    cases hparse
    rfl
  obtain ⟨text, hmem, hallow⟩ := List.any_eq_true.mp (hallows _ hfull)
  obtain ⟨scope, rfl⟩ := hscopes text hmem
  exact ⟨scope, hmem, RepositoryScope.scopeAllows_iff.mp hallow⟩

omit [Platform] in
theorem once_allow {consume : Bool} {did : PyStr} {limit : ℕ} {s : AgentState} :
    Proc.Once (· = .rateClock) (Capabilities.allow consume did limit) s := by
  have hfiles : ∀ o : Op, o.OnFiles → o ≠ .rateClock := by
    rintro _ ho rfl
    exact ho
  unfold Capabilities.allow
  cases Crypto.validateDid did with
  | error e => trivial
  | ok validDid =>
      dsimp only
      by_cases hlimit : limit < 1 ∨ maxRequestsPerHour < limit
      · rw [if_pos hlimit]
        trivial
      rw [if_neg hlimit]
      refine Proc.once_call_bind (R := fun _ => True) fun reading => ?_
      -- the one reading
      cases reading with
      | none => exact only_throw trivial
      | some now =>
          refine only_get_bind (only_bind (only_ofExcept trivial) fun count s₁ _ => ?_)
          by_cases hfull : limit ≤ count
          · rw [if_pos hfull]
            exact only_pure trivial
          rw [if_neg hfull]
          cases consume with
          | false => exact only_pure trivial
          | true =>
              refine only_bind (only_ofExcept trivial) fun reserved s₂ _ => ?_
              refine only_bind (only_set trivial) fun _ s₃ _ => ?_
              exact only_bind (only_saveState.imp hfiles) fun _ _ _ => only_pure trivial

/-- The clock is asked by the limiter only, and once. -/
theorem once_decide {policy : CommandPolicy} {message : RoomMessage} {s : AgentState} :
    Proc.Once (· = .rateClock) (Policy.decide policy message) s := by
  have hreads : ∀ o : Op, o.ReadsPolicy → o ≠ .rateClock := by
    rintro _ ho rfl
    exact ho
  unfold Policy.decide
  refine Proc.once_bind ((only_authorizeSender ⟨rfl, rfl⟩).imp hreads) ?_
  rintro ⟨denial, grant⟩ s₁ -
  cases denial with
  | some denial => trivial
  | none =>
      dsimp only
      unfold Policy.decideAuthorizedCommand
      cases Policy.commandName message.text with
      | none => trivial
      | some name =>
          dsimp only
          split_ifs
          · trivial
          refine Proc.once_bind (R := fun _ => True) (only_ofExcept trivial) fun parsed s₂ _ => ?_
          split_ifs
          · trivial
          · trivial
          -- only the limiter of a grant asks the clock
          cases grant with
          | none => trivial
          | some g =>
              have hallow : Proc.Once (· = .rateClock)
                  (Policy.allowRequest policy message.sender g.limit) s₂ := by
                unfold Policy.allowRequest
                cases policy.mode with
                | legacy dids any => trivial
                | capability consume => exact once_allow
              refine Proc.Once.bind hallow fun allowed s₃ => ?_
              split_ifs
              · exact only_pure trivial
              · exact only_pure trivial

/-- Where the clock is asked at most once, what is returned is returned at one reading. -/
theorem exists_atReading {α : Type} {m : Agent α} {s s' : AgentState} {w w' : World}
    {r : Except PyErr α} (h : Proc.Once (· = .rateClock) m s)
    (hret : EffTree.Returns World.step (m s) w (r, s') w') :
    ∃ reading, EffTree.Returns (AtReading reading) (m s) w (r, s') w' := by
  refine EffTree.Once.returns ?_ ?_ (.ok none) h hret
  · intro reading w o r w' ho hstep
    refine ⟨hstep, ?_⟩
    cases o with
    | rateClock => exact absurd rfl ho
    | _ => trivial
  · rintro w _ r w' rfl hstep
    exact ⟨r, hstep, rfl⟩

/-- **Authorization.**  Whatever the clock reads, a live decision to answer rests on a grant, a scope
and room in the quota at that time, and exactly one reservation has been saved; a message that is
ignored changes nothing.  Every decision is one at some reading of the clock. -/
theorem decide_authorized {policy : CommandPolicy} {message : RoomMessage} {s s' : AgentState}
    {w w' : World} {d : Decision} (hmode : policy.mode = .capability true) :
    (∀ reading, EffTree.Returns (AtReading reading) (Policy.decide policy message s) w (.ok d, s') w' →
      (d.action ≠ .ignore → ∃ now, reading = .ok (some now) ∧
        Justified policy message s w.policyFile now ∧
          ReservedFor message.sender now s s' ∧ w' = w.saved s') ∧
      (d.action = .ignore → s' = s ∧ w' = w)) ∧
    (EffTree.Returns World.step (Policy.decide policy message s) w (.ok d, s') w' →
      ∃ reading, EffTree.Returns (AtReading reading) (Policy.decide policy message s) w (.ok d, s') w') := by
  refine ⟨fun reading hret => ?_, fun hret => exists_atReading once_decide hret⟩
  refine (Agent.wp_decide_clocked (clocked_atReading reading) (I := fun _ => True)
    (Q := fun d s' w' => (d.action ≠ .ignore → ∃ now, reading = .ok (some now) ∧
      Justified policy message s w.policyFile now ∧
        ReservedFor message.sender now s s' ∧ w' = w.saved s') ∧
      (d.action = .ignore → s' = s ∧ w' = w)) (E := fun _ _ _ => True)
    trivial (fun _ _ => trivial) ?_ ?_ (fun _ _ _ _ _ => trivial)).post hret
  · rintro d - (hignore | hlive)
    · exact ⟨fun hanswer => absurd hignore hanswer, fun _ => ⟨rfl, rfl⟩⟩
    · exact absurd hmode hlive
  · rintro d s₁ capabilities grant command parsed now count - hanswer - hshown hgranted -
    refine ⟨fun _ => ⟨now, hshown, ⟨?_, ?_⟩, ?_, rfl⟩, fun hignore => absurd hignore hanswer⟩
    · exact ⟨hgranted.notOwn, RoomMessage.isSigned_iff.mp hgranted.signed⟩
    · refine ⟨capabilities, grant, command, hgranted.file, hgranted.listsSender, hgranted.enabled,
        hgranted.named, hgranted.listsCommand, ?_, ?_⟩
      · rintro rfl
        have hparse := hgranted.parse
        -- a URL that does not parse is ignored, so an answer has a reference
        cases hreference : Receipt.parseGithubPullRequestUrl
            (removePrefix (py "/pr ") message.text) with
        | ok reference =>
            obtain ⟨scope, hscope⟩ := covers_of_granted
              (Capabilities.allScopes_of_policyOfFile hgranted.file hgranted.listsSender) hparse
              hreference hgranted.repository
            exact ⟨reference, scope, rfl, hscope⟩
        | error e =>
            exfalso
            unfold Policy.parseCommand at hparse
            rw [show Policy.replies .pr = none from rfl, hreference] at hparse
            dsimp only at hparse
            split_ifs at hparse
            cases hparse
            exact hanswer (hgranted.decision.symm ▸ rfl)
      · have hcounted := hgranted.reserved.counted
        unfold AgentState.capabilityRequestCount at hcounted
        rw [if_neg (by decide)] at hcounted
        rw [Except.ok.inj hcounted]
        exact hgranted.reserved.below
    · exact reservedFor_of_reserve hgranted.reserved.reserved

end Justified

/-! ## When there is no decision -/

namespace Receipt

variable [Platform]

/-- A URL on which the parser raises something else than its own error: it does not split, or its
number has more digits than `int()` takes. -/
def Unparsable (url : PyStr) : Prop :=
  url = strip url ∧ ((∃ e, Url.urlsplit url = .error e) ∨
    ∃ parts owner repository digits, Url.urlsplit url = .ok parts ∧
      pullRequestParts parts = some (owner, repository, digits) ∧
      Json.maxStrDigits < digits.length)

theorem isa_of_urlsplit {url : PyStr} {e : PyErr} (h : Url.urlsplit url = .error e) :
    e.isa .gitHubReceiptError = false := by
  rw [PyErr.isa, Url.urlsplit_error h]
  rfl

/-- The parser's own error is raised on the URLs that are neither canonical nor unparsable. -/
theorem unparsable_iff {url : PyStr} :
    Unparsable url ↔ ∃ e, parseGithubPullRequestUrl url = .error e ∧
      e.isa .gitHubReceiptError = false := by
  rcases parse_cases url with ⟨hstrip, message, hparse⟩ | ⟨hstrip, e, hsplit, hparse⟩ |
    ⟨hstrip, parts, hsplit, hparts, message, hparse⟩ |
    ⟨hstrip, parts, owner, repository, digits, hsplit, hparts, hnumber⟩
  · rw [hparse]
    exact ⟨fun h => absurd h.1 hstrip, by rintro ⟨e, ⟨⟩, ⟨⟩⟩⟩
  · rw [hparse]
    exact ⟨fun _ => ⟨e, rfl, isa_of_urlsplit hsplit⟩, fun _ => ⟨hstrip, Or.inl ⟨e, hsplit⟩⟩⟩
  · rw [hparse]
    constructor
    · rintro ⟨-, ⟨e, herror⟩ | ⟨parts', owner, repository, digits, hsplit', hparts', -⟩⟩
      · rw [hsplit] at herror
        cases herror
      · rw [hsplit] at hsplit'
        cases hsplit'
        rw [hparts] at hparts'
        cases hparts'
    · rintro ⟨e, ⟨⟩, ⟨⟩⟩
  · have hlong : Unparsable url ↔ Json.maxStrDigits < digits.length := by
      constructor
      · rintro ⟨-, ⟨e, herror⟩ | ⟨parts', owner', repository', digits', hsplit', hparts', hlong⟩⟩
        · rw [hsplit] at herror
          cases herror
        · rw [hsplit] at hsplit'
          cases hsplit'
          rw [hparts] at hparts'
          cases hparts'
          exact hlong
      · intro hlong
        exact ⟨hstrip, Or.inr ⟨parts, owner, repository, digits, hsplit, hparts, hlong⟩⟩
    rw [hlong]
    rcases hnumber with ⟨hdigits, hparse⟩ | ⟨hdigits, -, message, hparse⟩ |
      ⟨hdigits, -, ref, hparse, -⟩
    · rw [hparse]
      exact ⟨fun _ => ⟨_, rfl, rfl⟩, fun _ => hdigits⟩
    · rw [hparse]
      exact ⟨fun h => by omega, by rintro ⟨e, ⟨⟩, ⟨⟩⟩⟩
    · rw [hparse]
      exact ⟨fun h => by omega, by rintro ⟨e, ⟨⟩, -⟩⟩

end Receipt

namespace Policy

variable [Platform]

/-- The message asks for a pull request, by a sender who may. -/
def AsksForReceipt (policy : CommandPolicy) (file : FileMeta × Bytes) (message : RoomMessage) :
    Prop :=
  ∃ grant, authorization policy file message = .ok (none, grant) ∧
    commandName message.text = some .pr ∧ ∀ g, grant = some g → .pr ∈ g.commands

/-- The URL that a message asks for. -/
def askedUrl (message : RoomMessage) : PyStr := removePrefix (py "/pr ") message.text

/-- The message asks, by a sender who may, for a URL that does not parse. -/
def Crashes (policy : CommandPolicy) (file : FileMeta × Bytes) (message : RoomMessage) : Prop :=
  AsksForReceipt policy file message ∧ Receipt.Unparsable (askedUrl message)

omit [Platform] in
theorem parseCommand_reply [Platform] {name : Command} (hname : name ≠ .pr) (text : PyStr) :
    ∃ parsed, parseCommand name text = .ok parsed := by
  cases name with
  | pr => exact absurd rfl hname
  | _ => exact ⟨_, rfl⟩

theorem parseCommand_pr (text : PyStr) :
    parseCommand .pr text =
      match Receipt.parseGithubPullRequestUrl (removePrefix (py "/pr ") text) with
      | .ok reference =>
          .ok { decision := { action := .receipt, reason := .allowedPublicPullRequest,
                              target := some reference.url }
                repository := some reference.fullName }
      | .error e =>
          if e.isa .gitHubReceiptError then .ok { decision := ignore .invalidPullRequestUrl }
          else .error e := rfl

/-- A URL that is not canonical is answered with a decision to ignore it. -/
theorem parsed_of_notCanonical {text : PyStr} {parsed : ParsedCommand}
    (h : parseCommand .pr text = .ok parsed)
    (hurl : ∀ reference,
      Receipt.parseGithubPullRequestUrl (removePrefix (py "/pr ") text) ≠ .ok reference) :
    parsed.decision = ignore .invalidPullRequestUrl := by
  rw [parseCommand_pr] at h
  cases hparse : Receipt.parseGithubPullRequestUrl (removePrefix (py "/pr ") text) with
  | ok reference => exact absurd hparse (hurl reference)
  | error e =>
      rw [hparse] at h
      dsimp only at h
      split_ifs at h
      cases h
      rfl

/-- A URL that does not parse is not read. -/
theorem parseCommand_of_unparsable {text : PyStr} {parsed : ParsedCommand}
    (h : Receipt.Unparsable (removePrefix (py "/pr ") text)) :
    parseCommand .pr text ≠ .ok parsed := by
  obtain ⟨e, hparse, hisa⟩ := Receipt.unparsable_iff.mp h
  rw [parseCommand_pr, hparse]
  dsimp only
  rw [if_neg (by rw [hisa]; decide)]
  exact nofun

/-- A command is read, or its URL does not parse. -/
theorem parseCommand_cases (name : Command) (text : PyStr) :
    (∃ parsed, parseCommand name text = .ok parsed) ∨
      (name = .pr ∧ ∃ e, parseCommand name text = .error e ∧
        Receipt.Unparsable (removePrefix (py "/pr ") text)) := by
  by_cases hname : name = .pr
  · subst hname
    rw [parseCommand_pr]
    cases hparse : Receipt.parseGithubPullRequestUrl (removePrefix (py "/pr ") text) with
    | ok reference => exact Or.inl ⟨_, rfl⟩
    | error e =>
        dsimp only
        by_cases hisa : e.isa .gitHubReceiptError = true
        · rw [if_pos hisa]
          exact Or.inl ⟨_, rfl⟩
        · rw [if_neg hisa]
          refine Or.inr ⟨rfl, e, rfl, Receipt.unparsable_iff.mpr ⟨e, hparse, ?_⟩⟩
          exact Bool.eq_false_of_not_eq_true hisa
  · exact Or.inl (parseCommand_reply hname text)

end Policy

/-! ## An environment whose files can be read and written -/

/-- The state file can be written, and the clock shows the time in a number that `str()` takes. -/
def Op.Writes : (o : Op) → Except PyErr o.Val → Prop
  | .mkdirParent _, r => ∃ a, r = .ok a
  | .makeTemporary _, r => ∃ a, r = .ok a
  | .writeTemporary _ _, r => ∃ a, r = .ok a
  | .replaceDoc _ _, r => ∃ a, r = .ok a
  | .chmodDoc _, r => ∃ a, r = .ok a
  | .rateClock, r => ∀ now : ℕ, r = .ok (some now) → AgentState.NumberFits now
  | _, _ => True

section Serving

variable [Platform]

/-- One operation where the capability file can be read and the state file written. -/
def Serves (w : World) (o : Op) (r : Except PyErr o.Val) (w' : World) : Prop :=
  Steady True w o r w' ∧ o.Writes r

variable {file : FileMeta × Bytes} {s : AgentState} {w : World} {α : Type}

theorem onFile_serves (w : World) (o : Op) (r : Except PyErr o.Val) (w' : World)
    (hw : OnFile file w) (hstep : Serves w o r w') : OnFile file w' :=
  hstep.1.2.1.trans hw

/-- What holds in a steady environment holds here. -/
theorem wp_serves {m : Agent α} {Q : α → AgentState → World → Prop}
    {E : PyErr → AgentState → World → Prop} (h : Wp (Steady True) (OnFile file) m Q E s w)
    (hw : OnFile file w) : Wp Serves (OnFile file) m Q E s w :=
  h.restrict (fun _ _ _ _ hstep => hstep.1) onFile_serves hw

/-- A handler is not reached where nothing is raised. -/
theorem wp_tryCatch_of_never {m : Agent α} {handler : PyErr → Agent α}
    {Q : α → AgentState → World → Prop} {E : PyErr → AgentState → World → Prop}
    (hm : Wp Serves (OnFile file) m Q (fun _ _ _ => False) s w) :
    Wp Serves (OnFile file) (tryCatch m handler) Q E s w := by
  rw [wp_tryCatch]
  exact hm.mono (fun _ _ _ _ h => h) fun _ _ _ _ h => h.elim

/-- A step of the atomic write. -/
theorem wp_write_step {o : Op} {Q : o.Val → AgentState → World → Prop}
    {E : PyErr → AgentState → World → Prop}
    (ho : ∀ r, o.Writes r → ∃ a, r = .ok a) (hw : OnFile file w)
    (hQ : ∀ a w', OnFile file w' → Q a s w') :
    Wp Serves (OnFile file) (Agent.perform o) Q E s w := by
  rw [wp_call]
  refine ⟨hw, ?_⟩
  intro r w' hstep
  have hw' := onFile_serves _ _ _ _ hw hstep
  obtain ⟨a, rfl⟩ := ho r hstep.2
  exact ⟨hw', hQ a w' hw'⟩

/-- A state whose numbers fit is saved. -/
theorem wp_saveState_serves (hs : s.NumbersFit) (hw : OnFile file w)
    {Q : Unit → AgentState → World → Prop} {E : PyErr → AgentState → World → Prop}
    (hQ : ∀ w', OnFile file w' → Q () s w') : Wp Serves (OnFile file) Agent.saveState Q E s w := by
  unfold Agent.saveState Agent.writeDoc Agent.exceptOSError Agent.removingTemporary
  rw [wp_bind, wp_get]
  refine ⟨hw, ?_⟩
  rw [if_pos (AgentState.intsFit_toPayload.mpr hs), wp_bind]
  refine wp_write_step (fun _ h => h) hw ?_
  intro _ w₁ hw₁
  rw [wp_bind]
  refine wp_tryCatch_of_never (wp_write_step (fun _ h => h) hw₁ ?_)
  intro _ w₂ hw₂
  rw [wp_bind]
  refine wp_tryCatch_of_never (wp_tryCatch_of_never ?_)
  rw [wp_bind]
  refine wp_write_step (fun _ h => h) hw₂ ?_
  intro _ w₃ hw₃
  refine wp_write_step (fun _ h => h) hw₃ ?_
  intro _ w₄ hw₄
  refine wp_tryCatch_of_never (wp_write_step (fun _ h => h) hw₄ ?_)
  intro _ w₅ hw₅
  exact hQ w₅ hw₅

omit [Platform] in
/-- A reservation keeps the numbers short. -/
theorem numbersFit_reserve {s' : AgentState} {did : PyStr} {now : ℕ} (hs : s.NumbersFit)
    (hnow : AgentState.NumberFits now)
    (h : s.reserveCapabilityRequest did now Capabilities.windowSeconds = .ok s') :
    s'.NumbersFit := by
  unfold AgentState.reserveCapabilityRequest at h
  split_ifs at h
  cases h
  have hpruned := AgentState.numberFits_prune hs now Capabilities.windowSeconds
  have hexisting : ∀ t ∈ (s.pruneCapabilityRequests now Capabilities.windowSeconds).historyOf did,
      AgentState.NumberFits t := by
    rw [AgentState.historyOf]
    cases hget : (s.pruneCapabilityRequests now
        Capabilities.windowSeconds).capabilityRequests.get? did with
    | none => simp
    | some timestamps => exact hpruned did timestamps hget
  refine ⟨hs.cursors, hs.nonces, hs.generations, ?_⟩
  intro other timestamps hget t ht
  rw [PyDict.get?_set] at hget
  split_ifs at hget
  · cases hget
    rw [List.mem_append, List.mem_singleton] at ht
    rcases ht with hold | rfl
    · exact hexisting t (List.mem_of_mem_filter hold)
    · exact AgentState.numberFits_effectiveNow hexisting hnow
  · exact hpruned other timestamps hget t ht

theorem wp_allow_serves {consume : Bool} {did : PyStr} {grant : CapabilityGrant}
    (hdid : Crypto.isDid did = true) (hs : s.NumbersFit) (hw : OnFile file w) :
    Wp Serves (OnFile file) (Capabilities.allow consume did grant.limit)
      (fun _ _ _ => True) (fun _ _ _ => False) s w := by
  have hvalid : Crypto.validateDid did = .ok did := by rw [Crypto.validateDid, if_pos hdid]
  have hlimit : ¬(grant.limit < 1 ∨ maxRequestsPerHour < grant.limit) := by
    have hpos := grant.limit_pos
    have hle := grant.limit_le
    omega
  have hcount : ∀ now, s.capabilityRequestCount did now Capabilities.windowSeconds =
      .ok (AgentState.inWindow (AgentState.effectiveNow (s.historyOf did) now)
        Capabilities.windowSeconds (s.historyOf did)).length := fun _ => rfl
  unfold Capabilities.allow
  rw [hvalid]
  dsimp only
  rw [if_neg hlimit, wp_bind, wp_call]
  refine ⟨hw, ?_⟩
  intro r w₁ hclock
  have hw₁ := onFile_serves _ _ _ _ hw hclock
  refine ⟨hw₁, ?_⟩
  -- the clock answers, with a number that can be written
  obtain ⟨now, rfl⟩ := hclock.1.2.2 trivial
  have hnow : AgentState.NumberFits now := hclock.2 now rfl
  dsimp only
  rw [wp_bind, wp_get]
  refine ⟨hw₁, ?_⟩
  rw [hcount, wp_bind, wp_ofExcept]
  refine ⟨hw₁, ?_⟩
  dsimp only
  split_ifs with hfull hconsume
  · exact ⟨hw₁, trivial⟩
  · rw [wp_bind, wp_ofExcept]
    refine ⟨hw₁, ?_⟩
    cases hreserve : s.reserveCapabilityRequest did now Capabilities.windowSeconds with
    | error e =>
        unfold AgentState.reserveCapabilityRequest at hreserve
        rw [if_neg (by rintro rfl; exact absurd hdid (by decide)), if_neg (by decide)] at hreserve
        cases hreserve
    | ok reserved =>
        dsimp only
        rw [wp_bind, wp_set]
        refine ⟨hw₁, ?_⟩
        rw [wp_bind]
        -- and so can the state with the reservation
        refine wp_saveState_serves (numbersFit_reserve hs hnow hreserve) hw₁ ?_
        exact fun w₂ hw₂ => ⟨hw₂, trivial⟩
  · exact ⟨hw₁, trivial⟩

/-- With an accepted file, who may ask is found out. -/
theorem authorization_ok {policy : CommandPolicy} {message : RoomMessage}
    (hpolicy : policy.Limited → ∃ capabilities,
      Capabilities.policyOfFile file.1 file.2 = .ok capabilities) :
    ∃ found, Policy.authorization policy file message = .ok found := by
  unfold Policy.authorization
  by_cases hown : message.sender = policy.ownDid
  · exact ⟨_, if_pos hown⟩
  by_cases hsigned : ¬message.isSigned
  · rw [if_neg hown, if_pos hsigned]
    exact ⟨_, rfl⟩
  rw [if_neg hown, if_neg hsigned]
  unfold Policy.grantIn
  cases hmode : policy.mode with
  | legacy dids any => exact ⟨_, rfl⟩
  | capability consume =>
      obtain ⟨capabilities, hfile⟩ := hpolicy ⟨consume, hmode⟩
      rw [hfile]
      exact ⟨_, rfl⟩

/-- Finding out who may ask leaves the state alone. -/
theorem wp_authorizeSender_serves {policy : CommandPolicy} {message : RoomMessage}
    (hpolicy : policy.Limited → ∃ capabilities,
      Capabilities.policyOfFile file.1 file.2 = .ok capabilities) (hw : OnFile file w) :
    Wp Serves (OnFile file) (Policy.authorizeSender policy message)
      (fun found s' _ => Policy.authorization policy file message = .ok found ∧ s' = s)
      (fun _ _ _ => False) s w := by
  have hsame : Wp World.step Anywhere (Policy.authorizeSender policy message)
      (fun _ s' _ => s' = s) (fun _ _ _ => True) s w :=
    Agent.wp_authorizeSender trivial (fun _ => rfl) (fun _ _ => rfl) fun _ _ => trivial
  refine (wp_serves ((wp_authorizeSender_plan hw).and (wp_steady hsame hw)) hw).mono ?_ ?_
  · exact fun _ _ _ _ h => h
  · rintro e s' w' - ⟨herror, -⟩
    obtain ⟨found, hfound⟩ : ∃ found, Policy.authorization policy file message = .ok found :=
      authorization_ok hpolicy
    rw [herror trivial] at hfound
    cases hfound

/-- A decision is returned, unless the message crashes the policy. -/
theorem wp_decide_serves {policy : CommandPolicy} {message : RoomMessage} (hs : s.NumbersFit)
    (hpolicy : policy.Limited → ∃ capabilities,
      Capabilities.policyOfFile file.1 file.2 = .ok capabilities) (hw : OnFile file w) :
    Wp Serves (OnFile file) (Policy.decide policy message)
      (fun d _ _ => ¬Policy.Crashes policy file message ∧
        (Policy.AsksForReceipt policy file message →
          (∀ reference, Receipt.parseGithubPullRequestUrl (Policy.askedUrl message) ≠
            .ok reference) → d = Policy.ignore .invalidPullRequestUrl))
      (fun _ _ _ => Policy.Crashes policy file message) s w := by
  unfold Policy.decide
  rw [wp_bind]
  refine (wp_authorizeSender_serves hpolicy hw).mono ?_ fun _ _ _ _ h => h.elim
  rintro ⟨denial, grant⟩ _ w₁ hw₁ ⟨hfound, rfl⟩
  cases denial with
  | some denial =>
      have hnot : ¬Policy.AsksForReceipt policy file message := by
        rintro ⟨grant', hgrant, -⟩
        rw [hfound] at hgrant
        cases hgrant
      exact ⟨hw₁, fun hcrashes => hnot hcrashes.1, fun hasks => absurd hasks hnot⟩
  | none =>
      obtain ⟨hdid, hlimited⟩ := signed_of_authorization hfound
      -- the grant is the only one, so what it does not list is not asked for
      have hasks : Policy.AsksForReceipt policy file message →
          Policy.commandName message.text = some .pr ∧ ∀ g, grant = some g → .pr ∈ g.commands := by
        rintro ⟨grant', hgrant, hrest⟩
        rw [hfound] at hgrant
        cases hgrant
        exact hrest
      unfold Policy.decideAuthorizedCommand
      cases hname : Policy.commandName message.text with
      | none =>
          have hnot : ¬Policy.AsksForReceipt policy file message := by
            intro h
            have hpr := (hasks h).1
            rw [hname] at hpr
            cases hpr
          exact ⟨hw₁, fun hcrashes => hnot hcrashes.1, fun h => absurd h hnot⟩
      | some name =>
          dsimp only
          by_cases hlisted : (grant.any fun g => !g.commands.contains name) = true
          · rw [if_pos hlisted]
            have hnot : ¬Policy.AsksForReceipt policy file message := by
              intro h
              obtain ⟨hpr, hgrant⟩ := hasks h
              rw [hname] at hpr
              cases hpr
              cases grant with
              | none => cases hlisted
              | some g =>
                  have hmem := hgrant g rfl
                  simp [hmem] at hlisted
            exact ⟨hw₁, fun hcrashes => hnot hcrashes.1, fun h => absurd h hnot⟩
          rw [if_neg hlisted, wp_bind, wp_ofExcept]
          refine ⟨hw₁, ?_⟩
          have hgrant : ∀ g, grant = some g → name ∈ g.commands := by
            rintro g rfl
            simpa using hlisted
          cases hparse : Policy.parseCommand name message.text with
          | error e =>
              rcases Policy.parseCommand_cases name message.text with ⟨parsed, hok⟩ |
                ⟨rfl, e', -, hurl⟩
              · rw [hparse] at hok
                cases hok
              · exact ⟨⟨grant, hfound, hname, hgrant⟩, hurl⟩
          | ok parsed =>
              have hnot : ¬Policy.Crashes policy file message := by
                rintro ⟨h, hurl⟩
                obtain rfl : name = .pr := Option.some.inj (hname.symm.trans (hasks h).1)
                exact Policy.parseCommand_of_unparsable hurl hparse
              have hinvalid : Policy.AsksForReceipt policy file message →
                  (∀ reference, Receipt.parseGithubPullRequestUrl (Policy.askedUrl message) ≠
                    .ok reference) → parsed.decision = Policy.ignore .invalidPullRequestUrl := by
                intro h hurl
                obtain rfl : name = .pr := Option.some.inj (hname.symm.trans (hasks h).1)
                exact Policy.parsed_of_notCanonical hparse hurl
              dsimp only
              by_cases hignore : parsed.decision.action = .ignore
              · rw [if_pos hignore]
                exact ⟨hw₁, hnot, hinvalid⟩
              have hcanonical : Policy.AsksForReceipt policy file message →
                  (∀ reference, Receipt.parseGithubPullRequestUrl (Policy.askedUrl message) ≠
                    .ok reference) → ∀ d : Decision, d = Policy.ignore .invalidPullRequestUrl := by
                intro h hurl
                exact absurd (congrArg Decision.action (hinvalid h hurl)) hignore
              by_cases hrefused : Policy.repositoryRefused grant parsed.repository = true
              · rw [if_neg hignore, if_pos hrefused]
                exact ⟨hw₁, hnot, fun h hurl => hcanonical h hurl _⟩
              rw [if_neg hignore, if_neg hrefused]
              cases grant with
              | none => exact ⟨hw₁, hnot, fun h hurl => hcanonical h hurl _⟩
              | some g =>
                  obtain ⟨consume, hmode⟩ := hlimited rfl
                  dsimp only
                  rw [wp_bind, Policy.allowRequest, hmode]
                  refine (wp_allow_serves hdid hs hw₁).mono ?_ fun _ _ _ _ h => h.elim
                  intro allowed s₂ w₂ hw₂ _
                  cases allowed with
                  | true => exact ⟨hw₂, hnot, fun h hurl => hcanonical h hurl _⟩
                  | false => exact ⟨hw₂, hnot, fun h hurl => hcanonical h hurl _⟩

/-- **A decision, unless the URL does not parse.**  Where the capability file is accepted, the
clock shows a time and the state can be saved, `decide` returns a decision exactly where the
message does not ask, by a sender who may, for a URL on which `urlsplit` or `int` raises; and
what is asked for that is not canonical is ignored as an invalid URL. -/
theorem decide_unless_crashing {policy : CommandPolicy} {message : RoomMessage}
    {result : Except PyErr Decision × AgentState} {w' : World} (hs : s.NumbersFit)
    (hpolicy : policy.Limited → ∃ capabilities,
      Capabilities.policyOfFile w.policyFile.1 w.policyFile.2 = .ok capabilities)
    (hret : EffTree.Returns Serves (Policy.decide policy message s) w result w') :
    ((∃ d, result.1 = .ok d) ↔ ¬Policy.Crashes policy w.policyFile message) ∧
      (Policy.AsksForReceipt policy w.policyFile message →
        ¬Receipt.Unparsable (Policy.askedUrl message) →
        (∀ reference, Receipt.parseGithubPullRequestUrl (Policy.askedUrl message) ≠
          .ok reference) → result.1 = .ok (Policy.ignore .invalidPullRequestUrl)) := by
  obtain ⟨r, s'⟩ := result
  cases r with
  | ok d =>
      obtain ⟨hnot, hinvalid⟩ := (wp_decide_serves hs hpolicy rfl).post hret
      exact ⟨⟨fun _ => hnot, fun _ => ⟨d, rfl⟩⟩, fun h _ hurl => congrArg _ (hinvalid h hurl)⟩
  | error e =>
      have hcrashes := (wp_decide_serves hs hpolicy rfl).post_error hret
      refine ⟨⟨?_, fun hnot => absurd hcrashes hnot⟩, ?_⟩
      rotate_left
      · exact fun _ hparsable => absurd hcrashes.2 hparsable
      rintro ⟨d, ⟨⟩⟩

/-! ## The cursor -/

/-- A message that may ask for a pull request, by a URL that is not one, is decided without a
change, or crashes the policy. -/
theorem wp_eventForMessage_invalid {r : SafeResponder} {message : RoomMessage} (hs : s.NumbersFit)
    (hpolicy : r.policy.Limited → ∃ capabilities,
      Capabilities.policyOfFile file.1 file.2 = .ok capabilities)
    (hasks : Policy.AsksForReceipt r.policy file message)
    (hurl : ∀ reference, Receipt.parseGithubPullRequestUrl (Policy.askedUrl message) ≠
      .ok reference) (hw : OnFile file w) :
    Wp Serves (OnFile file) (SafeResponder.eventForMessage r message)
      (fun event s' _ => ¬Policy.Crashes r.policy file message ∧ s' = s ∧
        event = SafeResponder.baseEvent r message (Policy.ignore .invalidPullRequestUrl))
      (fun _ s' _ => Policy.Crashes r.policy file message ∧
        s'.cursorFor r.room = s.cursorFor r.room) s w := by
  unfold SafeResponder.eventForMessage
  rw [wp_bind]
  have hsame : Wp World.step Anywhere (Policy.decide r.policy message)
      (fun d s' _ => d.action = .ignore → s' = s)
      (fun _ s' _ => s'.cursorFor r.room = s.cursorFor r.room) s w := by
    refine Agent.wp_decide trivial (fun _ _ => trivial) (fun _ _ _ _ => rfl) ?_ ?_
    · exact fun d s' _ _ _ _ _ _ _ hanswer _ _ _ hignore => absurd hignore hanswer
    · exact fun _ _ _ _ h => (Handling.of_undecided h).kept.cursor
  refine ((wp_decide_serves hs hpolicy hw).and (wp_serves (wp_steady hsame hw) hw)).mono ?_ ?_
  · rintro d s' w' hw' ⟨⟨hnot, hinvalid⟩, hunchanged⟩
    obtain rfl := hinvalid hasks hurl
    exact ⟨hw', hnot, hunchanged rfl, rfl⟩
  · exact fun _ _ _ _ h => h

/-- The rest of a page does not take the cursor back. -/
theorem wp_processMessages_onward {r : SafeResponder} {rest : List RoomMessage} {before : Bool}
    {cursor : ℕ} (hordered : (rest.map RoomMessage.seq).Pairwise (· < ·))
    (hcursor : s.cursorFor r.room = cursor) (hw : OnFile file w) :
    Wp Serves (OnFile file) (SafeResponder.processMessages r rest cursor before)
      (fun _ s' _ => cursor ≤ s'.cursorFor r.room) (fun _ s' _ => cursor ≤ s'.cursorFor r.room) s w := by
  have hany : Wp World.step Anywhere (SafeResponder.processMessages r rest cursor before) _ _ s w :=
    SafeResponder.wp_processMessages_any rest hordered hcursor
  refine (wp_serves (wp_steady hany hw) hw).mono ?_ ?_
  · rintro found s' w' - ⟨handled, hcompleted, -⟩
    rw [hcompleted.kept.cursor]
    exact le_reached_due _ _
  · rintro e s' w' - ⟨done, handled, hstopped⟩
    exact hstopped.le_cursor

/-- **The cursor moves past a message unless it crashes the policy.**  A message that may ask for a
pull request, by a URL that is not one, is passed wherever the loop over the page ends; a message
that crashes the policy ends the loop, and the cursor stays before it. -/
theorem cursor_past_unless_crashing {r : SafeResponder} {message : RoomMessage}
    {rest : List RoomMessage} {before : Bool}
    {result : Except PyErr (List Event × ℕ × Bool) × AgentState} {w' : World} (hs : s.NumbersFit)
    (hseq : AgentState.NumberFits message.seq) (haudit : (r.send && r.auditLog) = false)
    (hpolicy : r.policy.Limited → ∃ capabilities,
      Capabilities.policyOfFile w.policyFile.1 w.policyFile.2 = .ok capabilities)
    (hasks : Policy.AsksForReceipt r.policy w.policyFile message)
    (hurl : ∀ reference, Receipt.parseGithubPullRequestUrl (Policy.askedUrl message) ≠
      .ok reference) (hnew : s.cursorFor r.room < message.seq)
    (hordered : ((message :: rest).map RoomMessage.seq).Pairwise (· < ·))
    (hret : EffTree.Returns Serves (SafeResponder.processMessages r (message :: rest)
      (s.cursorFor r.room) before s) w result w') :
    message.seq ≤ result.2.cursorFor r.room ↔ ¬Policy.Crashes r.policy w.policyFile message := by
  have hloop : Wp Serves (OnFile w.policyFile) (SafeResponder.processMessages r (message :: rest)
      (s.cursorFor r.room) before)
      (fun _ s' _ => message.seq ≤ s'.cursorFor r.room ↔
        ¬Policy.Crashes r.policy w.policyFile message)
      (fun _ s' _ => message.seq ≤ s'.cursorFor r.room ↔
        ¬Policy.Crashes r.policy w.policyFile message) s w := by
    rw [SafeResponder.processMessages, if_neg (by omega), wp_bind]
    refine (wp_eventForMessage_invalid hs hpolicy hasks hurl rfl).mono ?_ ?_
    rotate_left
    · rintro e s' w' - ⟨hcrashes, hcursor⟩
      exact ⟨fun hle => by omega, fun hnot => absurd hcrashes hnot⟩
    rintro event s₁ w₁ hw₁ ⟨hnot, rfl, rfl⟩
    rw [wp_bind, wp_call]
    refine ⟨hw₁, ?_⟩
    intro answer w₂ hstep
    have hw₂ := onFile_serves _ _ _ _ hw₁ hstep
    obtain ⟨rfl, -⟩ := hstep.1.1.1
    refine ⟨hw₂, ?_⟩
    dsimp only
    -- the message is passed, and the rest does not take the cursor back
    have hrest : ∀ w₃, OnFile w.policyFile w₃ → Wp Serves (OnFile w.policyFile)
        (do let found ← SafeResponder.processMessages r rest message.seq true
            return (.handled (SafeResponder.baseEvent r message
              (Policy.ignore .invalidPullRequestUrl)) :: found.1, found.2))
        (fun _ s' _ => message.seq ≤ s'.cursorFor r.room ↔
          ¬Policy.Crashes r.policy w.policyFile message)
        (fun _ s' _ => message.seq ≤ s'.cursorFor r.room ↔
          ¬Policy.Crashes r.policy w.policyFile message)
        (s₁.atCursor r.room message.seq) w₃ := by
      intro w₃ hw₃
      have hcursor : (s₁.atCursor r.room message.seq).cursorFor r.room = message.seq := by
        simp [AgentState.cursorFor, AgentState.atCursor]
      rw [List.map_cons, List.pairwise_cons] at hordered
      rw [wp_bind]
      refine (wp_processMessages_onward hordered.2 hcursor hw₃).mono ?_ ?_
      · exact fun _ _ _ hw₄ hle => ⟨hw₄, fun _ => hnot, fun _ => hle⟩
      · exact fun _ _ _ _ hle => ⟨fun _ => hnot, fun _ => hle⟩
    unfold SafeResponder.persistProcessedMessage
    rw [haudit]
    dsimp only
    rw [if_neg Bool.false_ne_true, wp_bind, wp_bind]
    refine SafeResponder.wp_advanceCursor_any hw₂ (by omega) ?_
    by_cases hsend : r.send = true
    · rw [if_neg (not_not_intro hsend), wp_bind]
      have hfits : (s₁.atCursor r.room message.seq).NumbersFit :=
        ⟨AgentState.numbersFit_set hs.cursors r.room hseq, hs.nonces, hs.generations, hs.histories⟩
      refine wp_tryCatch_of_never (wp_saveState_serves hfits hw₂ fun w₃ hw₃ => ?_)
      exact ⟨hw₃, hrest w₃ hw₃⟩
    · rw [if_pos hsend]
      exact ⟨hw₂, hrest w₂ hw₂⟩
  obtain ⟨r', s'⟩ := result
  cases r' with
  | ok a => exact hloop.post hret
  | error e => exact hloop.post_error hret

end Serving

/-! ## A granted command, and a crash -/

namespace Sample

open Policy

/-- A capability file that grants `/pr` on all repositories of one owner, twice in an hour. -/
def grantingFile : FileMeta × Bytes :=
  ({ regular := true, mode := 0o600, owned := true },
    (py "\x7b\"schema\":\"technocore-safe-agent-capabilities-v1\",\"principals\":\x7b\"" ++
      otherDid ++
      py ("\":\x7b\"enabled\":true,\"commands\":[\"/pr\"],\"repositories\":[\"Rust-Lang/*\"]," ++
        "\"max_requests_per_hour\":2\x7d\x7d\x7d")).map UInt8.ofNat)

/-- The policy of a live run with that file. -/
def granting : CommandPolicy where
  ownDid := did
  mode := .capability true

/-- A message of the sender that the file names. -/
def asking (text : PyStr) : RoomMessage where
  seq := 1
  sender := otherDid
  text := text
  nonce := some (py "5")
  seq_pos := Nat.one_pos

/-- The world with that file. -/
def grantingWorld : World := { world with policyFile := grantingFile }

/-- A canonical URL, in other letters than the scope's. -/
def canonicalRequest : RoomMessage := asking (py "/pr https://github.com/rust-lang/Rust/pull/7")

/-- A URL with half of a bracketed host. -/
def bracketRequest : RoomMessage := asking (py "/pr https://[")

theorem serves_answer (w : World) (o : Op) : Serves w o (answer w o).1 (answer w o).2 := by
  refine ⟨steady_answer True w o, ?_⟩
  cases o with
  | mkdirParent f => exact ⟨_, rfl⟩
  | makeTemporary f => exact ⟨_, rfl⟩
  | writeTemporary f doc => exact ⟨_, rfl⟩
  | replaceDoc f doc => exact ⟨_, rfl⟩
  | chmodDoc f => exact ⟨_, rfl⟩
  | rateClock =>
      rintro now ⟨⟩
      rw [AgentState.NumberFits]
      decide +kernel
  | _ => exact trivial

/-- The sender has asked before: long ago, and a while ago. -/
def askedBefore : AgentState where
  capabilityRequests := PyDict.empty.set otherDid [5000, 9000]

/-- A granted request is answered, and has been reserved: the time stamp in the window is kept. -/
theorem authorized_canonical : ∃ (d : Decision) (s' : AgentState) (w' : World),
    d.action = .receipt ∧
    Justified granting canonicalRequest askedBefore grantingFile 10000 ∧
    ReservedFor otherDid 10000 askedBefore s' ∧ s'.historyOf otherDid = [9000, 10000] ∧
    w' = grantingWorld.saved s' := by
  have hret := EffTree.returns_run (atReading_answerAt 10000)
    (decide granting canonicalRequest askedBefore) grantingWorld
  have haction : (EffTree.run (answerAt 10000) (decide granting canonicalRequest askedBefore)
      grantingWorld).1.1.toOption.map Decision.action = some .receipt := by decide +kernel
  generalize EffTree.run (answerAt 10000) (decide granting canonicalRequest askedBefore)
    grantingWorld = final at hret haction
  obtain ⟨⟨result, s'⟩, w'⟩ := final
  cases result with
  | error e => cases haction
  | ok d =>
      have hreceipt : d.action = .receipt := Option.some.inj haction
      have hanswer : d.action ≠ .ignore := by
        rw [hreceipt]
        decide
      obtain ⟨now, hnow, hjustified, hreserved, hsaved⟩ :=
        ((decide_authorized rfl).1 _ hret).1 hanswer
      obtain rfl : 10000 = now := Option.some.inj (Except.ok.inj hnow)
      refine ⟨d, s', w', hreceipt, hjustified, hreserved, ?_, hsaved⟩
      have hbefore : askedBefore.historyOf canonicalRequest.sender = [5000, 9000] := by
        decide +kernel
      have hsender := hreserved.sender
      rw [hbefore] at hsender
      exact hsender

theorem policyOfFile_grantingFile :
    ∃ capabilities, Capabilities.policyOfFile grantingFile.1 grantingFile.2 = .ok capabilities :=
  PyResult.ok_of_isOk (by decide +kernel)

/-- The same request gets a decision. -/
theorem decided_canonical : ∃ d, (EffTree.run answer
    (decide granting canonicalRequest {}) grantingWorld).1.1 = .ok d := by
  have hret := EffTree.returns_run serves_answer (decide granting canonicalRequest {}) grantingWorld
  have hpolicy : granting.Limited → ∃ capabilities, Capabilities.policyOfFile
      grantingWorld.policyFile.1 grantingWorld.policyFile.2 = .ok capabilities :=
    fun _ => policyOfFile_grantingFile
  refine (decide_unless_crashing AgentState.numbersFit_empty hpolicy hret).1.mpr ?_
  rintro ⟨-, hurl⟩
  obtain ⟨e, hparse, -⟩ := Receipt.unparsable_iff.mp hurl
  have hok : (Receipt.parseGithubPullRequestUrl (askedUrl canonicalRequest)).isOk = true := by
    decide +kernel
  rw [hparse] at hok
  cases hok

/-- On a URL with an open bracket there is no decision, although the sender is granted `/pr`:
`urlsplit` raises. -/
theorem crashed_bracket : ∃ e s' w',
    EffTree.Returns Serves (decide granting bracketRequest {}) grantingWorld (.error e, s') w' := by
  have hret := EffTree.returns_run serves_answer (decide granting bracketRequest {}) grantingWorld
  have hfailed : (EffTree.run answer (decide granting bracketRequest {})
      grantingWorld).1.1.isOk = false := by decide +kernel
  generalize EffTree.run answer (decide granting bracketRequest {}) grantingWorld = final
    at hret hfailed
  obtain ⟨⟨result, s'⟩, w'⟩ := final
  cases result with
  | ok d => cases hfailed
  | error e => exact ⟨e, s', w', hret⟩

end Sample
