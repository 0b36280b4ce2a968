import AIRuntime.JsonText
import AIRuntime.Traversals
import Mathlib.Logic.Basic

set_option autoImplicit false

/-!
Data models read from decoded JSON: an object's members become declared fields, each with the type it
was declared with and perhaps a default. `none` stands for a `ValidationError`.
-/
namespace AIRuntime.ModelValidation

open Traversals JsonText

variable {α β : Type}

/-- What a validator makes of a value that is not of the declared type; it need not refuse it. -/
structure Lax (F : Type) where
  int : Json → Option ℤ
  bool : Json → Option Bool
  float : Json → Option F

def Lax.readInt {F : Type} (lax : Lax F) : Json → Option ℤ
  | .int n => some n
  | j => lax.int j

def Lax.readBool {F : Type} (lax : Lax F) : Json → Option Bool
  | .bool b => some b
  | j => lax.bool j

/-- `float_of` makes a number of the text of a float. -/
def Lax.readFloat {F : Type} (lax : Lax F) (float_of : String → Option F) : Json → Option F
  | .float text => float_of text
  | j => lax.float j

/-- `T | None`. -/
def nullable (read : Json → Option α) : Json → Option (Option α)
  | .null => some none
  | j => (read j).map some

def listOf (read : Json → Option α) : Json → Option (List α)
  | .arr items => items.mapM read
  | _ => none

def dictOf (read : Json → Option α) : Json → Option (List (String × α))
  | .obj members => members.mapM fun p => (read p.2).map fun a => (p.1, a)
  | _ => none

def required (key : String) (read : Json → Option α) (data : Json) : Option α := (data.get? key).bind read

def defaulted (key : String) (default : α) (read : Json → Option α) (data : Json) : Option α :=
  match data.get? key with
  | none => some default
  | some value => read value

/-- `extra="forbid"`. -/
def onlyKeys (keys : List String) : Json → Bool
  | .obj members => members.all fun p => p.1 ∈ keys
  | _ => false

/-- `if value is not None: payload[key] = value`. -/
def optionMember (key : String) (toJson : α → Json) (value : Option α) : List (String × Json) :=
  (value.map fun a => (key, toJson a)).toList

/-- `if condition: payload[key] = value`. -/
def memberIf (key : String) (condition : Bool) (value : Json) : List (String × Json) :=
  if condition then [(key, value)] else []

theorem forall_optionMember {P : Json → Prop} {key : String} {write : α → Json} {value : Option α}
    (h : ∀ a ∈ value, P (write a)) : ∀ m ∈ optionMember key write value, P m.2 := by
  intro m hm
  cases value with
  | none => cases hm
  | some a =>
    rw [List.mem_singleton.mp hm]
    exact h a rfl

theorem forall_memberIf {P : Json → Prop} {key : String} {condition : Bool} {value : Json} (h : P value) :
    ∀ m ∈ memberIf key condition value, P m.2 := by
  intro m hm
  cases condition with
  | false => cases hm
  | true =>
    rw [List.mem_singleton.mp hm]
    exact h

section Reading

@[simp] theorem get?_obj (key : String) (members : List (String × Json)) :
    (Json.obj members).get? key = members.lookup key := rfl

@[simp] theorem lookup_member (key key' : String) (value : Json) (members : List (String × Json)) :
    List.lookup key ((key', value) :: members) = if key = key' then some value else members.lookup key := by
  by_cases h : key = key'
  · simp [h]
  · have hkey : (key == key') = false := beq_eq_false_iff_ne.mpr h
    simp [List.lookup_cons, hkey, h]

@[simp] theorem lookup_optionMember (key key' : String) (toJson : α → Json) (value : Option α) :
    (optionMember key' toJson value).lookup key = if key = key' then value.map toJson else none := by
  cases value with
  | none => simp [optionMember]
  | some a => simp [optionMember]

@[simp] theorem lookup_memberIf (key key' : String) (condition : Bool) (value : Json) :
    (memberIf key' condition value).lookup key = if key = key' ∧ condition = true then some value else none := by
  cases condition with
  | false => simp [memberIf]
  | true => simp [memberIf]

def Within (keys : List String) (members : List (String × Json)) : Prop := ∀ p ∈ members, p.1 ∈ keys

theorem onlyKeys_obj {keys : List String} {members : List (String × Json)} :
    onlyKeys keys (.obj members) = true ↔ Within keys members := by
  simp [onlyKeys, Within]

@[simp] theorem within_nil (keys : List String) : Within keys [] := nofun

@[simp] theorem within_cons (keys : List String) (p : String × Json) (members : List (String × Json)) :
    Within keys (p :: members) ↔ p.1 ∈ keys ∧ Within keys members := List.forall_mem_cons

@[simp] theorem within_append (keys : List String) (a b : List (String × Json)) :
    Within keys (a ++ b) ↔ Within keys a ∧ Within keys b := List.forall_mem_append

@[simp] theorem within_optionMember (keys : List String) (key : String) (toJson : α → Json) (value : Option α)
    (h : key ∈ keys) : Within keys (optionMember key toJson value) := by
  cases value with
  | none => exact within_nil keys
  | some a => simpa [optionMember] using h

@[simp] theorem within_memberIf (keys : List String) (key : String) (condition : Bool) (value : Json)
    (h : key ∈ keys) : Within keys (memberIf key condition value) := by
  cases condition with
  | false => exact within_nil keys
  | true => simpa [memberIf] using h

@[simp] theorem Lax.readInt_int {F : Type} (lax : Lax F) (n : ℤ) : lax.readInt (.int n) = some n := rfl

@[simp] theorem Lax.readBool_bool {F : Type} (lax : Lax F) (b : Bool) : lax.readBool (.bool b) = some b := rfl

@[simp] theorem Lax.readFloat_float {F : Type} (lax : Lax F) (float_of : String → Option F) (text : String) :
    lax.readFloat float_of (.float text) = float_of text := rfl

@[simp] theorem str?_str (text : String) : (Json.str text).str? = some text := rfl

theorem listOf_map {read : Json → Option α} {toJson : β → Json} {back : β → α} {l : List β}
    (h : ∀ b ∈ l, read (toJson b) = some (back b)) : listOf read (.arr (l.map toJson)) = some (l.map back) := by
  unfold listOf
  simp only
  rw [List.mapM_map]
  exact mapM_of_pure h

theorem defaulted_nullable {data : Json} {key : String} {read : Json → Option α} (toJson : α → Json)
    {value : Option α} (hget : data.get? key = value.map toJson)
    (hread : ∀ a, nullable read (toJson a) = some (some a)) :
    defaulted key none (nullable read) data = some value := by
  unfold defaulted
  rw [hget]
  cases value with
  | none => rfl
  | some a => exact hread a

end Reading

end AIRuntime.ModelValidation
