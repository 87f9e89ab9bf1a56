/-
# Exceptions that escape

`Escapes P r` says that `r` raises something outside `P`: the exception that a handler
for `P` lets through.  Each rule is an equivalence, so the inputs on which a checker lets
an exception through can be computed from its text.

* `escapes_bind`, `escapes_ite`, … : one rule for each construct;
* `escapes_inNames` : a list or a `dict` has no hash;
* `escapes_parseUrl` : the two exceptions of `urlsplit` and of `int`.
-/
import SafeAgent.GitHubEvidence
import SafeAgent.Raises

open PyText

/-- The function raises something that is not in `P`. -/
def Escapes {α : Type} (P : PyErr → Prop) (r : PyResult α) : Prop := ∃ e, r = .error e ∧ ¬P e

section Escapes

variable {α β : Type} {P : PyErr → Prop}

theorem raises_iff_not_escapes {r : PyResult α} : Raises P r ↔ ¬Escapes P r := by
  constructor
  · rintro h ⟨e, he, hP⟩
    exact hP (h e he)
  · intro h e he
    by_contra hP
    exact h ⟨e, he, hP⟩

theorem Raises.not_escapes {r : PyResult α} (h : Raises P r) : ¬Escapes P r :=
  raises_iff_not_escapes.mp h

@[simp] theorem escapes_ok (a : α) : ¬Escapes P (.ok a : PyResult α) := by
  rintro ⟨e, ⟨⟩, -⟩

@[simp] theorem escapes_pure (a : α) : ¬Escapes P (pure a : PyResult α) := escapes_ok a

@[simp] theorem escapes_error (e : PyErr) : Escapes P (.error e : PyResult α) ↔ ¬P e := by
  constructor
  · rintro ⟨_, ⟨⟩, h⟩
    exact h
  · intro h
    exact ⟨e, rfl, h⟩

/-- **Sequential composition**: the first part lets it through, or returns and the rest does. -/
theorem escapes_bind {x : PyResult β} {f : β → PyResult α} :
    Escapes P (x >>= f) ↔ Escapes P x ∨ ∃ b, x = .ok b ∧ Escapes P (f b) := by
  cases x with
  | error e =>
      rw [escapes_error]
      constructor
      · intro h
        exact Or.inl ((escapes_error e).mp h)
      · rintro (h | ⟨b, ⟨⟩, -⟩)
        exact (escapes_error e).mpr h
  | ok b =>
      constructor
      · intro h
        exact Or.inr ⟨b, rfl, h⟩
      · rintro (h | ⟨_, ⟨⟩, h⟩)
        · exact absurd h (escapes_ok b)
        · exact h

@[simp] theorem escapes_ok_bind (b : β) (f : β → PyResult α) :
    Escapes P ((.ok b : PyResult β) >>= f) ↔ Escapes P (f b) := Iff.rfl

theorem escapes_ite {c : Prop} [Decidable c] {a b : PyResult α} :
    Escapes P (if c then a else b) ↔ (c ∧ Escapes P a) ∨ (¬c ∧ Escapes P b) := by
  by_cases hc : c
  · simp [hc]
  · simp [hc]

/-- A check that fails with an exception of `P` lets nothing through. -/
theorem escapes_check {c : Prop} [Decidable c] {e : PyErr} (he : P e) {r : PyResult α} :
    Escapes P (if c then .error e else r) ↔ ¬c ∧ Escapes P r := by
  simp [escapes_ite, he]

/-- After a part that lets nothing through, the rest decides. -/
theorem escapes_bind_of_raises {x : PyResult β} {f : β → PyResult α} (hx : Raises P x) :
    Escapes P (x >>= f) ↔ ∃ b, x = .ok b ∧ Escapes P (f b) := by
  rw [escapes_bind]
  exact or_iff_right hx.not_escapes

end Escapes

namespace PyResult

variable {α β : Type}

theorem bind_eq_ok {x : PyResult α} {f : α → PyResult β} {b : β} :
    x >>= f = .ok b ↔ ∃ a, x = .ok a ∧ f a = .ok b := by
  constructor
  · exact bind_ok
  · rintro ⟨a, rfl, h⟩
    exact h

theorem map_ok {x : PyResult α} {f : α → β} {b : β} (h : f <$> x = .ok b) :
    ∃ a, x = .ok a ∧ f a = b := by
  cases x with
  | error e => cases h
  | ok a => exact ⟨a, rfl, Except.ok.inj h⟩

theorem check_eq_ok {c : Prop} [Decidable c] {e : PyErr} {r : PyResult α} {a : α} :
    (if c then .error e else r) = .ok a ↔ ¬c ∧ r = .ok a := by
  by_cases hc : c
  · simp [hc]
  · simp [hc]

end PyResult

/-! ## Hashing and URLs -/

namespace Json

variable {P : PyErr → Prop}

/-- A value without a hash. -/
def unhashable : Json → Bool
  | .arr _ => true
  | .obj _ => true
  | _ => false

theorem escapes_inNames (hP : ∀ message, ¬P (.of .typeError message)) {value : Json}
    {names : List PyStr} : Escapes P (inNames value names) ↔ value.unhashable = true := by
  cases value <;> simp [inNames, unhashable, hP]

/-- A name that is in the set, and that can be looked up in it. -/
theorem inNames_eq_true {value : Json} {names : List PyStr} :
    inNames value names = .ok true ↔ ∃ name ∈ names, value = .str name := by
  cases value <;> simp [inNames]

end Json

namespace Receipt

variable [Platform] {P : PyErr → Prop}

/-- A URL on which the parser raises something else than a `GitHubReceiptError`: `urlsplit`
rejects it, or the number of the pull request is too long for `int`. -/
def UnsplittableUrl (url : PyStr) : Prop :=
  url = strip url ∧
    ((∃ e, Url.urlsplit url = .error e) ∨
      ∃ parts owner repository digits, Url.urlsplit url = .ok parts ∧
        pullRequestParts parts = some (owner, repository, digits) ∧
        Json.maxStrDigits < digits.length)

theorem escapes_parseUrl (hP : ∀ message, P (invalidUrl message))
    (hvalue : ∀ e : PyErr, e.cls = .valueError → ¬P e) {url : PyStr} :
    Escapes P (parseGithubPullRequestUrl url) ↔ UnsplittableUrl url := by
  rcases parse_cases url with ⟨hstrip, message, herr⟩ | ⟨hstrip, e, hsplit, herr⟩ |
      ⟨hstrip, parts, hsplit, hparts, message, herr⟩ |
      ⟨hstrip, parts, owner, repository, digits, hsplit, hparts, hend⟩
  · rw [herr, escapes_error]
    exact iff_of_false (not_not.mpr (hP message)) fun h => hstrip h.1
  · rw [herr, escapes_error]
    exact iff_of_true (hvalue e (Url.urlsplit_error hsplit)) ⟨hstrip, Or.inl ⟨e, hsplit⟩⟩
  · rw [herr, escapes_error]
    refine iff_of_false (not_not.mpr (hP message)) ?_
    rintro ⟨-, ⟨e, he⟩ | ⟨parts', owner, repository, digits, hsplit', hparts', -⟩⟩
    · rw [hsplit] at he
      cases he
    · rw [hsplit] at hsplit'
      cases hsplit'
      rw [hparts] at hparts'
      cases hparts'
  · have hlong : UnsplittableUrl url ↔ Json.maxStrDigits < digits.length := by
      constructor
      · rintro ⟨-, ⟨e, he⟩ | ⟨parts', owner', repository', digits', hsplit', hparts', hlen⟩⟩
        · rw [hsplit] at he
          cases he
        · rw [hsplit] at hsplit'
          cases hsplit'
          rw [hparts] at hparts'
          cases hparts'
          exact hlen
      · intro hlen
        exact ⟨hstrip, Or.inr ⟨parts, owner, repository, digits, hsplit, hparts, hlen⟩⟩
    rw [hlong]
    rcases hend with ⟨hlen, herr⟩ | ⟨hlen, -, message, herr⟩ | ⟨hlen, -, ref, hok, -⟩
    · rw [herr, escapes_error]
      exact iff_of_true (hvalue _ rfl) hlen
    · rw [herr, escapes_error]
      exact iff_of_false (not_not.mpr (hP message)) (by omega)
    · rw [hok]
      exact iff_of_false (escapes_ok ref) (by omega)

/-- The same for a decoded JSON value. -/
theorem escapes_parseUrlValue (hP : ∀ message, P (invalidUrl message))
    (hvalue : ∀ e : PyErr, e.cls = .valueError → ¬P e) {value : Json} :
    Escapes P (parseUrlValue value) ↔ ∃ url, value = .str url ∧ UnsplittableUrl url := by
  cases value with
  | str url =>
      refine (escapes_parseUrl hP hvalue).trans ⟨fun h => ⟨url, rfl, h⟩, ?_⟩
      rintro ⟨_, ⟨⟩, h⟩
      exact h
  | _ =>
      refine iff_of_false ?_ (by rintro ⟨url, ⟨⟩, -⟩)
      exact fun h => (escapes_error _).mp h (hP _)

end Receipt
