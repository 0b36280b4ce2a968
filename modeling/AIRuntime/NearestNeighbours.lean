import Mathlib.Data.List.Sort
import Mathlib.Order.Defs.LinearOrder

set_option autoImplicit false

/-!
The first `k` items of a list under a key, as a query with `ORDER BY` and `LIMIT` returns them: items with
equal keys come in any order.
-/
namespace AIRuntime.NearestNeighbours

variable {α D : Type} [LinearOrder D] {key : α → D} {k : ℕ} {l l' found found' : List α}

structure Nearest (key : α → D) (k : ℕ) (l found : List α) : Prop where
  splits : ∃ rest, (found ++ rest).Perm l ∧ ∀ a ∈ found, ∀ b ∈ rest, key a ≤ key b
  ordered : found.Pairwise fun a b => key a ≤ key b
  length : found.length = min k l.length

def within (key : α → D) (l : List α) (d : D) : ℕ := l.countP fun a => key a ≤ d

def nearest (key : α → D) (k : ℕ) (l : List α) : List α := (l.insertionSort fun a b => key a ≤ key b).take k

theorem nearest_spec (key : α → D) (k : ℕ) (l : List α) : Nearest key k l (nearest key k l) := by
  have : IsTrans α fun a b => key a ≤ key b := ⟨fun _ _ _ => le_trans⟩
  have : Std.Total fun a b : α => key a ≤ key b := ⟨fun a b => le_total (key a) (key b)⟩
  have hsorted := List.pairwise_insertionSort (fun a b => key a ≤ key b) l
  have hsplit := List.take_append_drop k (l.insertionSort fun a b => key a ≤ key b)
  rw [← hsplit] at hsorted
  obtain ⟨hordered, -, hapart⟩ := List.pairwise_append.mp hsorted
  refine ⟨⟨_, ?_, hapart⟩, hordered, ?_⟩
  · unfold nearest
    rw [hsplit]
    exact List.perm_insertionSort _ l
  · unfold nearest
    rw [List.length_take, List.length_insertionSort]

namespace Nearest

theorem within_found (h : Nearest key k l found) (d : D) : within key found d ≤ within key l d := by
  obtain ⟨rest, hperm, -⟩ := h.splits
  unfold within
  rw [← hperm.countP_eq, List.countP_append]
  omega

theorem rank_lt_within (h : Nearest key k l found) {i : ℕ} (hi : i < found.length) :
    i < within key l (key found[i]) := by
  have hfirst : (found.take (i + 1)).countP (fun a => key a ≤ key found[i]) = i + 1 := by
    rw [List.countP_eq_length.mpr, List.length_take_of_le hi]
    intro a ha
    rw [decide_eq_true_eq]
    obtain ⟨j, hj, rfl⟩ := List.mem_take_iff_getElem.mp ha
    rcases Nat.lt_or_eq_of_le (Nat.le_of_lt_succ (lt_of_lt_of_le hj (min_le_left _ _))) with hlt | rfl
    · exact List.pairwise_iff_getElem.mp h.ordered j i _ hi hlt
    · exact le_rfl
  have hsub := (List.take_sublist (i + 1) found).countP_le (p := fun a => decide (key a ≤ key found[i]))
  have hle := h.within_found (key found[i])
  unfold within at hle ⊢
  omega

theorem le_of_rank_lt_within (h : Nearest key k l found) {i : ℕ} (hi : i < found.length) {d : D}
    (hd : i < within key l d) : key found[i] ≤ d := by
  by_contra hlt
  rw [not_le] at hlt
  obtain ⟨rest, hperm, hapart⟩ := h.splits
  have hrest : rest.countP (fun a => key a ≤ d) = 0 := by
    rw [List.countP_eq_zero]
    intro b hb
    have hle := hapart _ (List.getElem_mem hi) b hb
    simpa using lt_of_lt_of_le hlt hle
  have hlater : (found.drop i).countP (fun a => key a ≤ d) = 0 := by
    rw [List.countP_eq_zero]
    intro b hb
    obtain ⟨j, hj, rfl⟩ := List.mem_drop_iff_getElem.mp hb
    have hle : key found[i] ≤ key found[i + j] := by
      cases j with
      | zero => exact le_rfl
      | succ j => exact List.pairwise_iff_getElem.mp h.ordered i (i + (j + 1)) hi _ (by omega)
    simpa using lt_of_lt_of_le hlt hle
  have hearlier : (found.take i).countP (fun a => key a ≤ d) ≤ i :=
    List.countP_le_length.trans (List.length_take_le i found)
  have hsplit : found.countP (fun a => key a ≤ d) =
      (found.take i).countP (fun a => key a ≤ d) + (found.drop i).countP fun a => key a ≤ d := by
    rw [← List.countP_append, List.take_append_drop]
  unfold within at hd
  rw [← hperm.countP_eq, List.countP_append] at hd
  omega

/-- Among more items there is, at every rank, one that is as near. -/
theorem nearer_among_more (h : Nearest key k l found) (h' : Nearest key k l' found') (hmore : l.Sublist l') :
    ∀ i, (hi : i < found.length) → ∃ hi' : i < found'.length, key found'[i] ≤ key found[i] := by
  intro i hi
  have hlength := h.length
  have hlength' := h'.length
  have hle := hmore.length_le
  have hi' : i < found'.length := by omega
  exact ⟨hi', h'.le_of_rank_lt_within hi' (lt_of_lt_of_le (h.rank_lt_within hi) hmore.countP_le)⟩

end Nearest

end AIRuntime.NearestNeighbours
