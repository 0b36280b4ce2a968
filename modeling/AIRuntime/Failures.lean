import AIRuntime.PythonText
import Mathlib.Data.Int.Notation
import Mathlib.Data.Nat.Notation

set_option autoImplicit false

/-! The exceptions of the source, and the checks a `__post_init__` makes. -/
namespace AIRuntime.Failures

open PythonText

inductive ProviderErrorClass where
  | provider
  | openAI
  | anthropic
  | gemini
deriving DecidableEq

structure ProviderError where
  kind : ProviderErrorClass
  message : String
  retryable : Bool
  status_code : Option ℕ
deriving DecidableEq

def retryableHttpStatusCodes : List ℕ := [429, 500, 502, 503, 504]

def isRetryableHttpStatus (status_code : ℕ) : Bool := retryableHttpStatusCodes.contains status_code

namespace ProviderError

def permanent (kind : ProviderErrorClass) (message : String) : ProviderError :=
  ⟨kind, message, false, none⟩

def fromHttpStatus (kind : ProviderErrorClass) (message : String) (status_code : ℕ) : ProviderError :=
  ⟨kind, message, isRetryableHttpStatus status_code, some status_code⟩

def transient (kind : ProviderErrorClass) (message : String) : ProviderError := ⟨kind, message, true, none⟩

end ProviderError

/-- `database` is what SQLAlchemy raises; `other` is any `Exception` the source has no class for. -/
inductive Exn where
  | domainValidation (message : String)
  | unsupportedModel (model : String)
  | modelNotAvailable (model : String)
  | providerNotRegistered (provider : String)
  | provider (err : ProviderError)
  | quotaExceeded (retry_after_seconds : ℤ)
  | rateLimitExceeded (retry_after_seconds : ℤ)
  | idempotencyConflict
  | jsonDecode
  | database (message : String)
  | other (name : String)
deriving DecidableEq

def integrityError : Exn := .database "IntegrityError"

/-- `_require_non_blank`: the text of the error it raises. -/
def requireNonBlank (value field_name : String) : Option String :=
  if isBlank value then some (field_name ++ " must not be empty or blank") else none

/-- Build a value of a type that carries its invariant, or raise what `__post_init__` raises. -/
def validated {α : Type} (problem : Option String) (mk : problem = none → α) : Except Exn α :=
  match problem, mk with
  | none, mk => .ok (mk rfl)
  | some message, _ => .error (.domainValidation message)

theorem validated_ok {α : Type} {problem : Option String} {mk : problem = none → α} (h : problem = none) :
    validated problem mk = .ok (mk h) := by
  subst h
  rfl

theorem validated_error {α : Type} {problem : Option String} {mk : problem = none → α} {message : String}
    (h : problem = some message) : validated problem mk = .error (.domainValidation message) := by
  subst h
  rfl

theorem of_validated {α : Type} {problem : Option String} {mk : problem = none → α} {a : α}
    (h : validated problem mk = .ok a) : ∃ hp : problem = none, a = mk hp := by
  cases problem with
  | none =>
    cases h
    exact ⟨rfl, rfl⟩
  | some message => cases h

theorem of_validated_error {α : Type} {problem : Option String} {mk : problem = none → α} {err : Exn}
    (h : validated problem mk = .error err) : ∃ message, err = .domainValidation message := by
  cases problem with
  | none => cases h
  | some message =>
    cases h
    exact ⟨message, rfl⟩

/-- A sequence that succeeds: its first part does, and the rest of what that gives. -/
theorem of_bind_ok {ε α β : Type} {x : Except ε α} {f : α → Except ε β} {b : β} (h : (x >>= f) = .ok b) :
    ∃ a, x = .ok a ∧ f a = .ok b := by
  cases x with
  | error err => cases h
  | ok a => exact ⟨a, rfl, h⟩

theorem requireNonBlank_none {value field_name : String} :
    requireNonBlank value field_name = none ↔ isBlank value = false := by
  unfold requireNonBlank
  cases isBlank value <;> simp

end AIRuntime.Failures
