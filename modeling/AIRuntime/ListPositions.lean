import Mathlib.Algebra.BigOperators.Group.List.Basic
import Mathlib.Data.List.Perm.Basic
import Mathlib.Algebra.Ring.Int.Defs

set_option autoImplicit false

/-! Lists with some of their positions dropped, what positions cost, and lists around a separator. -/
namespace AIRuntime.ListPositions

variable {α : Type}

def without (dropped : List ℕ) (l : List α) : List α := (l.zipIdx.filter fun p => p.2 ∉ dropped).map Prod.fst

def costAt (costs : List ℤ) (positions : List ℕ) : ℤ := (positions.map fun i => costs.getD i 0).sum

theorem costAt_append (costs : List ℤ) (a b : List ℕ) : costAt costs (a ++ b) = costAt costs a + costAt costs b := by
  unfold costAt
  rw [List.map_append, List.sum_append]

theorem without_nil (l : List α) : without [] l = l := by
  unfold without
  have hall : (l.zipIdx.filter fun p => p.2 ∉ ([] : List ℕ)) = l.zipIdx := by
    apply List.filter_eq_self.mpr
    intro p _
    simp
  rw [hall, List.zipIdx_map_fst]

theorem mem_without {dropped : List ℕ} {l : List α} {a : α} :
    a ∈ without dropped l ↔ ∃ i, l[i]? = some a ∧ i ∉ dropped := by
  unfold without
  simp only [List.mem_map, List.mem_filter, decide_eq_true_eq]
  constructor
  · intro h
    obtain ⟨⟨b, i⟩, ⟨hmem, hnot⟩, rfl⟩ := h
    exact ⟨i, List.mem_zipIdx_iff_getElem?.mp hmem, hnot⟩
  · intro h
    obtain ⟨i, hget, hnot⟩ := h
    exact ⟨(a, i), ⟨List.mem_zipIdx_iff_getElem?.mpr hget, hnot⟩, rfl⟩

theorem dropped_perm {dropped : List ℕ} {l : List α} (hnodup : dropped.Nodup) (hin : ∀ i ∈ dropped, i < l.length) :
    ((l.zipIdx.filter fun p => p.2 ∈ dropped).map Prod.snd).Perm dropped := by
  have hindices : (l.zipIdx.map Prod.snd).Nodup := by
    rw [List.zipIdx_map_snd]
    exact List.nodup_range'
  apply (List.perm_ext_iff_of_nodup (hindices.sublist (List.filter_sublist.map _)) hnodup).mpr
  intro i
  simp only [List.mem_map, List.mem_filter, decide_eq_true_eq]
  constructor
  · intro h
    obtain ⟨p, ⟨_, hp⟩, rfl⟩ := h
    exact hp
  · intro hi
    have hlt := hin i hi
    exact ⟨(l[i], i), ⟨List.mem_zipIdx_iff_getElem?.mpr (List.getElem?_eq_getElem hlt), hi⟩, rfl⟩

theorem without_sum (f : α → ℤ) {dropped : List ℕ} {l : List α} (hnodup : dropped.Nodup)
    (hin : ∀ i ∈ dropped, i < l.length) :
    ((without dropped l).map f).sum = (l.map f).sum - costAt (l.map f) dropped := by
  have hsplit : ((l.zipIdx.filter fun p => p.2 ∈ dropped).map fun p => f p.1).sum +
      ((without dropped l).map f).sum = (l.map f).sum := by
    have hperm := (List.filter_append_perm (fun p : α × ℕ => decide (p.2 ∈ dropped)) l.zipIdx).map fun p => f p.1
    have hsum := hperm.sum_eq
    rw [List.map_append, List.sum_append] at hsum
    have hall : l.zipIdx.map (fun p => f p.1) = l.map f := by
      calc l.zipIdx.map (fun p => f p.1)
        _ = (l.zipIdx.map Prod.fst).map f := by rw [List.map_map]; rfl
        _ = l.map f := by rw [List.zipIdx_map_fst]
    rw [hall] at hsum
    unfold without
    rw [List.map_map]
    simpa [Function.comp_def] using hsum
  have hcost : ((l.zipIdx.filter fun p => p.2 ∈ dropped).map fun p => f p.1).sum = costAt (l.map f) dropped := by
    unfold costAt
    rw [← ((dropped_perm hnodup hin).map fun i => (l.map f).getD i 0).sum_eq, List.map_map]
    apply congrArg List.sum
    apply List.map_congr_left
    intro p hp
    have hget := List.mem_zipIdx_iff_getElem?.mp (List.mem_filter.mp hp).1
    simp [hget]
  omega

/-- An item of two lists one after the other stands in the first or in the second. -/
theorem append_eq_middle {xs ys before after : List α} {d : α} (h : xs ++ ys = before ++ d :: after) :
    (∃ more, xs = before ++ d :: more) ∨ ∃ more, before = xs ++ more ∧ ys = more ++ d :: after := by
  rcases List.append_eq_append_iff.mp h with ⟨more, hbefore, hys⟩ | ⟨more, hxs, hafter⟩
  · exact .inr ⟨more, hbefore, hys⟩
  · cases more with
    | nil => exact .inr ⟨[], by rw [hxs, List.append_nil, List.append_nil], hafter.symm⟩
    | cons c more =>
      injection hafter with hc _
      exact .inl ⟨more, by rw [hxs, hc]⟩

/-- Two texts around a separator are equal in parts, or one of the first parts goes on past it. -/
theorem append_cons_cases {xs ys xs' ys' : List α} {d : α} (h : xs ++ d :: ys = xs' ++ d :: ys') :
    xs = xs' ∧ ys = ys' ∨ (∃ more, xs' = xs ++ d :: more) ∨ ∃ more, xs = xs' ++ d :: more := by
  rcases List.append_eq_append_iff.mp h with ⟨more, hxs, hys⟩ | ⟨more, hxs, hys⟩
  · cases more with
    | nil =>
      injection hys with _ hys
      exact .inl ⟨(hxs.trans (List.append_nil xs)).symm, hys⟩
    | cons c more =>
      injection hys with hc _
      exact .inr (.inl ⟨more, by rw [hxs, hc]⟩)
  · cases more with
    | nil =>
      injection hys with _ hys
      exact .inl ⟨hxs.trans (List.append_nil xs'), hys.symm⟩
    | cons c more =>
      injection hys with hc _
      exact .inr (.inr ⟨more, by rw [hxs, hc]⟩)

end AIRuntime.ListPositions
