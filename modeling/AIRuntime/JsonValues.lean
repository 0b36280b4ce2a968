import AIRuntime.JsonRoundTrip
import Mathlib.Data.List.Sort

set_option autoImplicit false

/-!
What a JSON text stands for: an object is the function from its keys to their values, so that two
texts of one object in two orders mean the same. Sorting the keys at every depth is canonical for it.
-/
namespace AIRuntime.JsonValues

open JsonText

inductive Value : Type where
  | null
  | bool (b : Bool)
  | int (n : ℤ)
  | float (text : String)
  | str (s : String)
  | arr (items : List Value)
  | obj (members : String → Option Value)

mutual

def meaning : Json → Value
  | .null => .null
  | .bool b => .bool b
  | .int n => .int n
  | .float text => .float text
  | .str s => .str s
  | .arr items => .arr (meanings items)
  | .obj members => .obj (memberMeanings members)

def meanings : List Json → List Value
  | [] => []
  | x :: xs => meaning x :: meanings xs

def memberMeanings : List (String × Json) → String → Option Value
  | [], _ => none
  | (k, v) :: ms, key => if key = k then some (meaning v) else memberMeanings ms key

end

theorem validItems_map {α : Type} {f : α → Json} {xs : List α} (h : ∀ x ∈ xs, (f x).Valid) :
    Json.ValidItems (xs.map f) := by
  induction xs with
  | nil => trivial
  | cons x xs ih =>
    rw [List.forall_mem_cons] at h
    exact ⟨h.1, ih h.2⟩

section Members

variable {key : String}

theorem memberMeanings_none {ms : List (String × Json)} (h : key ∉ ms.map Prod.fst) :
    memberMeanings ms key = none := by
  induction ms with
  | nil => rfl
  | cons m ms ih =>
    simp only [List.map_cons, List.mem_cons, not_or] at h
    simp only [memberMeanings, h.1, ↓reduceIte]
    exact ih h.2

theorem memberMeanings_of_mem {ms : List (String × Json)} {v : Json} (hkeys : (ms.map Prod.fst).Nodup)
    (h : (key, v) ∈ ms) : memberMeanings ms key = some (meaning v) := by
  induction ms with
  | nil => cases h
  | cons m ms ih =>
    simp only [List.map_cons, List.nodup_cons] at hkeys
    rcases List.mem_cons.mp h with rfl | htail
    · simp only [memberMeanings, ↓reduceIte]
    · have hne : key ≠ m.1 := fun heq => hkeys.1 (heq ▸ List.mem_map_of_mem (f := Prod.fst) htail)
      simp only [memberMeanings, hne, ↓reduceIte]
      exact ih hkeys.2 htail

theorem mem_of_memberMeanings {ms : List (String × Json)} {value : Value}
    (h : memberMeanings ms key = some value) : ∃ v, (key, v) ∈ ms ∧ meaning v = value := by
  induction ms with
  | nil => cases h
  | cons m ms ih =>
    simp only [memberMeanings] at h
    split_ifs at h with hkey
    · subst hkey
      exact ⟨m.2, List.mem_cons_self, Option.some.inj h⟩
    · obtain ⟨v, hmem, hv⟩ := ih h
      exact ⟨v, List.mem_cons_of_mem m hmem, hv⟩

theorem validMembers_iff {ms : List (String × Json)} : Json.ValidMembers ms ↔ ∀ m ∈ ms, m.2.Valid := by
  induction ms with
  | nil => simp only [Json.ValidMembers, List.not_mem_nil, false_implies, implies_true]
  | cons m ms ih => simp only [Json.ValidMembers, ih, List.forall_mem_cons]

/-- Members in one order or another stand for one function when the same keys hold the same. -/
theorem memberMeanings_ext {ms ns : List (String × Json)} (hms : (ms.map Prod.fst).Nodup)
    (hns : (ns.map Prod.fst).Nodup)
    (hmn : ∀ m ∈ ms, ∃ v, (m.1, v) ∈ ns ∧ meaning v = meaning m.2)
    (hnm : ∀ n ∈ ns, n.1 ∈ ms.map Prod.fst) : memberMeanings ms = memberMeanings ns := by
  funext key
  by_cases hkey : key ∈ ms.map Prod.fst
  · obtain ⟨m, hm, rfl⟩ := List.mem_map.mp hkey
    obtain ⟨v, hv, hmeans⟩ := hmn m hm
    rw [memberMeanings_of_mem hms hm, memberMeanings_of_mem hns hv, hmeans]
  · have hother : key ∉ ns.map Prod.fst := by
      intro hmem
      obtain ⟨n, hn, rfl⟩ := List.mem_map.mp hmem
      exact hkey (hnm n hn)
    rw [memberMeanings_none hkey, memberMeanings_none hother]

end Members

end AIRuntime.JsonValues
