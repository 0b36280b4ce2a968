import Mathlib.Data.List.Forall2

set_option autoImplicit false

/-! Lists that a fallible function is mapped over: what comes out, and which item is to blame. -/
namespace AIRuntime.Traversals

section Monads

variable {m : Type → Type} [Monad m] [LawfulMonad m] {α β : Type}

theorem mapM_of_pure {f : α → m β} {g : α → β} {l : List α} (h : ∀ a ∈ l, f a = pure (g a)) :
    l.mapM f = pure (l.map g) := by
  induction l with
  | nil => rfl
  | cons a rest ih =>
    obtain ⟨ha, hrest⟩ := List.forall_mem_cons.mp h
    rw [List.mapM_cons, ha, ih hrest]
    simp

theorem mapM_written {read : α → m β} {write : β → α} (h : ∀ b, read (write b) = pure b) (l : List β) :
    (l.map write).mapM read = pure l := by
  induction l with
  | nil => rfl
  | cons b rest ih =>
    rw [List.map_cons, List.mapM_cons, h, ih]
    simp

end Monads

section Relations

variable {α β : Type} {R : α → β → Prop}

theorem forall₂_of_exists {l : List α} (h : ∀ a ∈ l, ∃ b, R a b) : ∃ bs, List.Forall₂ R l bs := by
  induction l with
  | nil => exact ⟨[], .nil⟩
  | cons a rest ih =>
    obtain ⟨⟨b, hb⟩, hrest⟩ := List.forall_mem_cons.mp h
    obtain ⟨bs, hbs⟩ := ih hrest
    exact ⟨b :: bs, .cons hb hbs⟩

theorem exists_left {l : List α} {bs : List β} (h : List.Forall₂ R l bs) {b : β} (hb : b ∈ bs) :
    ∃ a ∈ l, R a b := by
  induction h with
  | nil => cases hb
  | cons hab _ ih =>
    rcases List.mem_cons.mp hb with rfl | hb
    · exact ⟨_, List.mem_cons_self, hab⟩
    · obtain ⟨a, ha, hR⟩ := ih hb
      exact ⟨a, List.mem_cons_of_mem _ ha, hR⟩

end Relations

section Failures

variable {ε α β : Type} {f : α → Except ε β}

theorem mapM_ok_iff {l : List α} {bs : List β} : l.mapM f = .ok bs ↔ List.Forall₂ (fun a b => f a = .ok b) l bs := by
  induction l generalizing bs with
  | nil =>
    rw [List.mapM_nil, List.forall₂_nil_left_iff]
    constructor
    · intro h
      cases h
      rfl
    · intro h
      rw [h]
      rfl
  | cons a l ih =>
    rw [List.mapM_cons]
    constructor
    · intro h
      cases hb : f a with
      | error err =>
        rw [hb] at h
        cases h
      | ok b =>
        cases hrest : l.mapM f with
        | error err =>
          rw [hb, hrest] at h
          cases h
        | ok rest =>
          rw [hb, hrest] at h
          cases h
          exact .cons hb (ih.mp hrest)
    · intro h
      cases h with
      | cons hb hrest =>
        rw [hb, ih.mpr hrest]
        rfl

theorem mapM_isOk_iff {l : List α} : (∃ bs, l.mapM f = .ok bs) ↔ ∀ a ∈ l, ∃ b, f a = .ok b := by
  constructor
  · rintro ⟨bs, h⟩
    rw [mapM_ok_iff] at h
    induction h with
    | nil => exact List.forall_mem_nil _
    | cons hab _ ih => exact List.forall_mem_cons.mpr ⟨⟨_, hab⟩, ih⟩
  · intro h
    obtain ⟨bs, hbs⟩ := forall₂_of_exists h
    exact ⟨bs, mapM_ok_iff.mpr hbs⟩

theorem mapM_error_iff {l : List α} {err : ε} : l.mapM f = .error err ↔
    ∃ before a after, l = before ++ a :: after ∧ (∀ b ∈ before, ∃ c, f b = .ok c) ∧ f a = .error err := by
  induction l with
  | nil =>
    constructor
    · intro h
      cases h
    · intro h
      obtain ⟨before, a, after, hl, -⟩ := h
      cases before <;> cases hl
  | cons x l ih =>
    rw [List.mapM_cons]
    cases hx : f x with
    | error err' =>
      constructor
      · intro h
        cases h
        exact ⟨[], x, l, rfl, List.forall_mem_nil _, hx⟩
      · intro h
        obtain ⟨before, a, after, hl, hbefore, ha⟩ := h
        cases before with
        | nil =>
          cases hl
          cases hx.symm.trans ha
          rfl
        | cons b before =>
          cases hl
          obtain ⟨c, hc⟩ := hbefore x List.mem_cons_self
          cases hx.symm.trans hc
    | ok y =>
      constructor
      · intro h
        cases hl : l.mapM f with
        | ok ys =>
          rw [hl] at h
          cases h
        | error err' =>
          rw [hl] at h
          cases h
          obtain ⟨before, a, after, rfl, hbefore, ha⟩ := ih.mp hl
          exact ⟨x :: before, a, after, rfl, List.forall_mem_cons.mpr ⟨⟨y, hx⟩, hbefore⟩, ha⟩
      · intro h
        obtain ⟨before, a, after, hl, hbefore, ha⟩ := h
        cases before with
        | nil =>
          cases hl
          cases hx.symm.trans ha
        | cons b before =>
          cases hl
          have hrest := ih.mpr ⟨before, a, after, rfl, (List.forall_mem_cons.mp hbefore).2, ha⟩
          rw [hrest]
          rfl

def outcome {α : Type} (result : Except ε α) : Except ε Unit := result.map fun _ => ()

theorem outcome_map {α β : Type} (g : α → β) (result : Except ε α) : outcome (result.map g) = outcome result := by
  cases result <;> rfl

theorem outcome_error {α : Type} {result : Except ε α} {err : ε} :
    outcome result = .error err ↔ result = .error err := by
  cases result <;> simp [outcome, Except.map]

theorem outcome_mapM {γ : Type} {g : γ → Except ε Unit} {parts : α → List γ} {l : List α}
    (h : ∀ a ∈ l, outcome (f a) = (parts a).forM g) : outcome (l.mapM f) = (l.flatMap parts).forM g := by
  induction l with
  | nil => rfl
  | cons a rest ih =>
    obtain ⟨ha, hrest⟩ := List.forall_mem_cons.mp h
    have hsplit : (parts a ++ rest.flatMap parts).forM g = outcome (f a) >>= fun _ => outcome (rest.mapM f) := by
      rw [ha, ih hrest]
      exact List.forM_append
    rw [List.mapM_cons, List.flatMap_cons, hsplit]
    cases f a with
    | error err => rfl
    | ok b => cases rest.mapM f <;> rfl

end Failures

end AIRuntime.Traversals
