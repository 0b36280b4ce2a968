import AIRuntime.Failures
import AIRuntime.JsonText

set_option autoImplicit false

/-! What `json.loads` and `json.dumps` raise, with the limit of Python for the digits of an integer. -/
namespace AIRuntime.PythonJson

open Failures JsonText

section Limits

def maxStrDigits : ℕ := 4300

/-- An integer that `int` reads and `str` writes. -/
def shortInt (n : ℤ) : Bool := n.natAbs.repr.length ≤ maxStrDigits

mutual

def shortInts : Json → Bool
  | .int n => shortInt n
  | .arr items => shortItems items
  | .obj members => shortMembers members
  | _ => true

def shortItems : List Json → Bool
  | [] => true
  | x :: xs => shortInts x && shortItems xs

def shortMembers : List (String × Json) → Bool
  | [] => true
  | (_, v) :: ms => shortInts v && shortMembers ms

end

theorem shortInt_iff (n : ℤ) : shortInt n = true ↔ n.natAbs < Nat.pow 10 maxStrDigits := by
  unfold shortInt
  rw [decide_eq_true_eq, Nat.length_repr_le_iff (by decide), Nat.pow_eq]

end Limits

section Writing

/-- `float.__repr__` of a finite float. -/
def finiteText (text : String) : Bool := text ≠ "NaN" && text ≠ "Infinity" && text ≠ "-Infinity"

mutual

/-- What `json.dumps` writes with `allow_nan=False` and room on the stack for so many levels. -/
def dumpable (levels : ℕ) : Json → Bool
  | .int n => shortInt n
  | .float text => finiteText text
  | .arr items => 0 < levels && dumpableItems (levels - 1) items
  | .obj members => 0 < levels && dumpableMembers (levels - 1) members
  | _ => true

def dumpableItems (levels : ℕ) : List Json → Bool
  | [] => true
  | x :: xs => dumpable levels x && dumpableItems levels xs

def dumpableMembers (levels : ℕ) : List (String × Json) → Bool
  | [] => true
  | (_, v) :: ms => dumpable levels v && dumpableMembers levels ms

end

variable {levels : ℕ}

theorem dumpable_str (text : String) : dumpable levels (.str text) = true := by
  unfold dumpable
  rfl

theorem dumpable_arr {α : Type} {f : α → Json} {xs : List α} (hlevels : 0 < levels)
    (h : ∀ x ∈ xs, dumpable (levels - 1) (f x) = true) : dumpable levels (.arr (xs.map f)) = true := by
  have hitems : dumpableItems (levels - 1) (xs.map f) = true := by
    induction xs with
    | nil => simp [dumpableItems]
    | cons x xs ih =>
      rw [List.forall_mem_cons] at h
      simp [dumpableItems, h.1, ih h.2]
  simp [dumpable, hlevels, hitems]

theorem dumpable_obj {members : List (String × Json)} (hlevels : 0 < levels)
    (h : ∀ m ∈ members, dumpable (levels - 1) m.2 = true) : dumpable levels (.obj members) = true := by
  have hmembers : dumpableMembers (levels - 1) members = true := by
    induction members with
    | nil => simp [dumpableMembers]
    | cons m members ih =>
      rw [List.forall_mem_cons] at h
      simp [dumpableMembers, h.1, ih h.2]
  simp [dumpable, hlevels, hmembers]

end Writing

/-- `JSONDecodeError`, the `ValueError` for an integer literal over the digit limit, or `RecursionError`. -/
inductive JsonFailure where
  | decodeError
  | valueError
  | recursionError
deriving DecidableEq

/-- The exception as it leaves a caller that does not catch it. -/
def JsonFailure.exn : JsonFailure → Exn
  | .decodeError => .jsonDecode
  | .valueError => .other "ValueError"
  | .recursionError => .other "RecursionError"

/-- `json.loads`. How deep a text may nest depends on the stack, so it is any function. -/
abbrev JsonLoads := String → Except JsonFailure Json

/-- `json.loads` reads neither a value of the text nor a mistake in it. -/
def GivesUp (json_loads : JsonLoads) (text : String) : Prop :=
  json_loads text = .error .valueError ∨ json_loads text = .error .recursionError

/-- `json.loads` on a stack that is never exhausted. -/
def textLoads : JsonLoads := fun text =>
  match loads text with
  | none => .error .decodeError
  | some j => if shortInts j then .ok j else .error .valueError

/-- `json.dumps(value, separators=(",", ":"), ensure_ascii=True)`. -/
def jsonDumps (value : Json) : Except Exn String :=
  if shortInts value then .ok (dumps value) else .error (.other "ValueError")

theorem jsonDumps_ok {value : Json} (h : shortInts value = true) : jsonDumps value = .ok (dumps value) := if_pos h

end AIRuntime.PythonJson
