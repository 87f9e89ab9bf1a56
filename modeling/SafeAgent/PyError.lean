/-
# Exceptions

The exception classes that the modelled code raises or catches, with the part of
Python's class hierarchy that its `except` clauses look at (`ErrClass.isa`).
-/
import SafeAgent.PyText

/-- Exception classes: the source's own, then those of the standard library. -/
inductive ErrClass
  | protocolValueError
  | identityError
  | stateError
  | deliveryError
  | uncertainWriteError
  | transportError
  | responseError
  | auditError
  | capabilityError
  | gitHubReceiptError
  | workReceiptError
  | evidenceInputError
  | configError
  | controllerError
  | healthError
  | valueError
  | jsonDecodeError
  | unicodeDecodeError
  | unicodeEncodeError
  | typeError
  | keyError
  | recursionError
  | overflowError
  | osError
  | urlError
  | timeoutError
  | fileNotFoundError
  | fileExistsError
  | processLookupError
  | termiosError
  | timeoutExpired
  | calledProcessError
  | httpException
  | incompleteRead
  | badStatusLine
  | remoteDisconnected
  deriving DecidableEq, Repr

namespace ErrClass

/-- `isinstance(error, cls)`.  `RemoteDisconnected` has two bases. -/
def isa : ErrClass → ErrClass → Bool
  | .protocolValueError, .valueError => true
  | .identityError, .valueError => true
  | .evidenceInputError, .valueError => true
  | .jsonDecodeError, .valueError => true
  | .unicodeDecodeError, .valueError => true
  | .unicodeEncodeError, .valueError => true
  | .urlError, .osError => true
  | .timeoutError, .osError => true
  | .fileNotFoundError, .osError => true
  | .fileExistsError, .osError => true
  | .processLookupError, .osError => true
  | .incompleteRead, .httpException => true
  | .badStatusLine, .httpException => true
  | .remoteDisconnected, .badStatusLine => true
  | .remoteDisconnected, .httpException => true
  | .remoteDisconnected, .osError => true
  | raised, caught => raised == caught

@[simp] theorem isa_self (c : ErrClass) : c.isa c = true := by cases c <;> rfl

end ErrClass

/-- A raised exception: its class, its message, and the attributes that
`TransportError` and `GitHubReceiptError` carry. -/
structure PyErr where
  cls : ErrClass
  message : String
  code : String := ""
  status : Option ℕ := none
  retryAfter : Option String := none
  deriving DecidableEq, Repr

namespace PyErr

/-- An exception of class `cls` with the given message. -/
def of (cls : ErrClass) (message : String) : PyErr := { cls, message }

/-- `isinstance(error, cls)` -/
def isa (e : PyErr) (cls : ErrClass) : Bool := e.cls.isa cls

@[simp] theorem isa_of (raised caught : ErrClass) (message : String) :
    (of raised message).isa caught = raised.isa caught := rfl

@[simp] theorem cls_of (cls : ErrClass) (message : String) : (of cls message).cls = cls := rfl

end PyErr

/-- The result of a pure Python function that may raise. -/
abbrev PyResult (α : Type) := Except PyErr α

theorem PyResult.ok_of_isOk {α : Type} {r : PyResult α} (h : r.isOk = true) : ∃ a, r = .ok a := by
  cases r with
  | ok a => exact ⟨a, rfl⟩
  | error e => cases h

/-- Peeling one step off a computation that succeeded. -/
theorem PyResult.bind_ok {α β : Type} {x : PyResult α} {f : α → PyResult β} {b : β}
    (h : x >>= f = .ok b) : ∃ a, x = .ok a ∧ f a = .ok b := by
  cases x with
  | error e => cases h
  | ok a => exact ⟨a, rfl, h⟩
