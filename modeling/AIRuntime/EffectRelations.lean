import Mathlib.Data.List.Forall2
import AIRuntime.EffectTriples

set_option autoImplicit false

/-!
Two programs side by side. A likeness says which commands, answers and exceptions of two runs are
alike; two programs are alike if they ask alike commands as long as they are answered alike. What
they hand to their consumers is not compared.
-/
namespace AIRuntime.EffectPrograms

structure Likeness (C : Type) (R : C → Type) (X : Type) where
  commands : C → C → Prop
  answers : (c d : C) → R c → R d → Prop
  errors : X → X → Prop

def EndsAlike {X α β : Type} (P : X → X → Prop) (Q : α → β → Prop) : Except X α → Except X β → Prop
  | .ok a, .ok b => Q a b
  | .error x, .error y => P x y
  | _, _ => False

abbrev Step (C : Type) (R : C → Type) : Type := (c : C) × R c

namespace Obs

variable {C : Type} {R : C → Type} {E : Type}

def step? : Obs C R E → Option (Step C R)
  | .asked c r => some ⟨c, r⟩
  | .yielded _ => none

def steps (t : List (Obs C R E)) : List (Step C R) := t.filterMap step?

@[simp] theorem steps_nil : steps ([] : List (Obs C R E)) = [] := rfl

@[simp] theorem steps_asked (c : C) (r : R c) (t : List (Obs C R E)) :
    steps (.asked c r :: t) = ⟨c, r⟩ :: steps t := rfl

@[simp] theorem steps_yielded (e : E) (t : List (Obs C R E)) : steps (.yielded e :: t) = steps t := rfl

theorem steps_append_asked (t : List (Obs C R E)) (c : C) (r : R c) :
    steps (t ++ [.asked c r]) = steps t ++ [⟨c, r⟩] := List.filterMap_append

theorem steps_append_yielded (t : List (Obs C R E)) (e : E) : steps (t ++ [.yielded e]) = steps t := by
  unfold steps
  rw [List.filterMap_append]
  exact List.append_nil _

end Obs

namespace Likeness

variable {C : Type} {R : C → Type} {X : Type} (L : Likeness C R X)

def Steps (s s' : Step C R) : Prop := L.commands s.1 s'.1 ∧ L.answers s.1 s'.1 s.2 s'.2

/-- As far as two runs ask alike commands in turn, they are answered alike. -/
def SameAnswers : List (Step C R) → List (Step C R) → Prop
  | s :: ss, s' :: ss' => L.commands s.1 s'.1 → L.answers s.1 s'.1 s.2 s'.2 ∧ SameAnswers ss ss'
  | _, _ => True

/-- Two tables of answers that are alike on alike commands answer two runs alike. -/
theorem sameAnswers_of_tables {f g : (c : C) → R c} (h : ∀ c d, L.commands c d → L.answers c d (f c) (g d))
    {ss ss' : List (Step C R)} (hf : ∀ s ∈ ss, s.2 = f s.1) (hg : ∀ s ∈ ss', s.2 = g s.1) :
    L.SameAnswers ss ss' := by
  induction ss generalizing ss' with
  | nil => trivial
  | cons s ss ih =>
    cases ss' with
    | nil => trivial
    | cons s' ss' =>
      intro hc
      rw [hf s List.mem_cons_self, hg s' List.mem_cons_self]
      exact ⟨h _ _ hc, ih (fun a ha => hf a (List.mem_cons_of_mem _ ha)) fun a ha =>
        hg a (List.mem_cons_of_mem _ ha)⟩

end Likeness

namespace Prog

variable {C : Type} {R : C → Type} {E E' X α β γ δ S : Type} {L : Likeness C R X}

/-- Two programs that keep asking alike commands while they are answered alike, and end alike. -/
inductive Alike (L : Likeness C R X) (Q : α → β → Prop) : Prog C R E X α → Prog C R E' X β → Prop where
  | done {a : α} {b : β} (h : Q a b) : Alike L Q (.done a) (.done b)
  | raise {x y : X} (h : L.errors x y) : Alike L Q (.raise x) (.raise y)
  | call {c d : C} {k : R c → Prog C R E X α} {k' : R d → Prog C R E' X β} (h : L.commands c d)
      (hk : ∀ r r', L.answers c d r r' → Alike L Q (k r) (k' r')) : Alike L Q (.call c k) (.call d k')
  | left {e : E} {k : Prog C R E X α} {q : Prog C R E' X β} (h : Alike L Q k q) : Alike L Q (.yield e k) q
  | right {e : E'} {p : Prog C R E X α} {k : Prog C R E' X β} (h : Alike L Q p k) : Alike L Q p (.yield e k)

namespace Alike

variable {Q Q' : α → β → Prop} {P : γ → δ → Prop} {p : Prog C R E X α} {q : Prog C R E' X β}

theorem mono (h : Alike L Q p q) (hQ : ∀ a b, Q a b → Q' a b) : Alike L Q' p q := by
  induction h with
  | done h => exact .done (hQ _ _ h)
  | raise h => exact .raise h
  | call h _ ih => exact .call h fun r r' hr => ih r r' hr
  | left _ ih => exact .left ih
  | right _ ih => exact .right ih

theorem bind (h : Alike L Q p q) {f : α → Prog C R E X γ} {g : β → Prog C R E' X δ}
    (hf : ∀ a b, Q a b → Alike L P (f a) (g b)) : Alike L P (p.bind f) (q.bind g) := by
  induction h with
  | done h => exact hf _ _ h
  | raise h => exact .raise h
  | call h _ ih => exact .call h fun r r' hr => ih r r' hr
  | left _ ih => exact .left ih
  | right _ ih => exact .right ih

theorem catching (h : Alike L Q p q) {f : X → Prog C R E X α} {g : X → Prog C R E' X β}
    (hf : ∀ x y, L.errors x y → Alike L Q (f x) (g y)) : Alike L Q (p.catching f) (q.catching g) := by
  induction h with
  | done h => exact .done h
  | raise h => exact hf _ _ h
  | call h _ ih => exact .call h fun r r' hr => ih r r' hr
  | left _ ih => exact .left ih
  | right _ ih => exact .right ih

theorem attempt (h : Alike L Q p q) :
    Alike L (EndsAlike L.errors Q) (p.attempt : Prog C R E X _) (q.attempt : Prog C R E' X _) := by
  induction h with
  | done h => exact .done h
  | raise h => exact .done h
  | call h _ ih => exact .call h fun r r' hr => ih r r' hr
  | left _ ih => exact .left ih
  | right _ ih => exact .right ih

theorem ofExcept {o : Except X α} {o' : Except X β} (h : EndsAlike L.errors Q o o') :
    Alike L Q (Prog.ofExcept o : Prog C R E X α) (Prog.ofExcept o' : Prog C R E' X β) := by
  cases o with
  | ok a =>
    cases o' with
    | ok b => exact .done h
    | error y => exact h.elim
  | error x =>
    cases o' with
    | ok b => exact h.elim
    | error y => exact .raise h

/-- A program is alike to itself if alike answers to what it asks are equal. -/
theorem same {p : Prog C R E X α} (herrors : ∀ x, L.errors x x)
    (hp : p.Asks fun c => L.commands c c ∧ ∀ r r', L.answers c c r r' → r = r') : Alike L Eq p p := by
  induction p with
  | done a => exact .done rfl
  | raise x => exact .raise (herrors x)
  | call c k ih =>
    obtain ⟨⟨hc, hanswers⟩, hk⟩ := hp
    apply Alike.call hc
    intro r r' hr
    rw [← hanswers r r' hr]
    exact ih r (hk r)
  | yield e k ih => exact .left (.right (ih hp))

theorem ask {c d : C} (h : L.commands c d) :
    Alike L (L.answers c d) (Prog.ask c : Prog C R E X (R c)) (Prog.ask d : Prog C R E' X (R d)) :=
  .call h fun _ _ hr => .done hr

theorem lift {p : Prog C R Empty X α} {q : Prog C R Empty X β} (h : Alike L Q p q) :
    Alike L Q (p.lift : Prog C R E X α) (q.lift : Prog C R E' X β) := by
  induction h with
  | done h => exact .done h
  | raise h => exact .raise h
  | call h _ ih => exact .call h fun r r' hr => ih r r' hr
  | @left e _ _ _ _ => exact e.elim
  | @right e _ _ _ _ => exact e.elim

/-- Runs of alike programs that are answered alike take alike steps and end alike. -/
theorem traces {t : List (Obs C R E)} {t' : List (Obs C R E')} {o : Except X α} {o' : Except X β}
    (h : Alike L Q p q) (hp : Exec p t o) (hq : Exec q t' o')
    (hsame : L.SameAnswers (Obs.steps t) (Obs.steps t')) :
    List.Forall₂ L.Steps (Obs.steps t) (Obs.steps t') ∧ EndsAlike L.errors Q o o' := by
  induction h generalizing t t' with
  | done h =>
    obtain ⟨ht, ho⟩ := exec_done.mp hp
    obtain ⟨ht', ho'⟩ := exec_done.mp hq
    rw [ht, ht', ho, ho']
    exact ⟨.nil, h⟩
  | raise h =>
    obtain ⟨ht, ho⟩ := exec_raise.mp hp
    obtain ⟨ht', ho'⟩ := exec_raise.mp hq
    rw [ht, ht', ho, ho']
    exact ⟨.nil, h⟩
  | call h _ ih =>
    obtain ⟨r, t₁, ht, hp₁⟩ := exec_call.mp hp
    obtain ⟨r', t₁', ht', hq₁⟩ := exec_call.mp hq
    rw [ht, ht', Obs.steps_asked, Obs.steps_asked] at hsame ⊢
    obtain ⟨hanswers, hrest⟩ := hsame h
    obtain ⟨hsteps, hends⟩ := ih r r' hanswers hp₁ hq₁ hrest
    exact ⟨.cons ⟨h, hanswers⟩ hsteps, hends⟩
  | left _ ih =>
    obtain ⟨t₁, ht, hp₁⟩ := exec_yield.mp hp
    rw [ht, Obs.steps_yielded] at hsame ⊢
    exact ih hp₁ hq hsame
  | right _ ih =>
    obtain ⟨t₁', ht', hq₁⟩ := exec_yield.mp hq
    rw [ht', Obs.steps_yielded] at hsame ⊢
    exact ih hp hq₁ hsame

end Alike

end Prog

section Tables

variable {C : Type} {R : C → Type} {E X α : Type}

def Handler.table (f : (c : C) → R c) : Handler C R E Unit where
  answer := fun _ c => (f c, ())
  emit := fun _ _ => ()

theorem Prog.table_answers (f : (c : C) → R c) (p : Prog C R E X α) :
    ∀ s ∈ Obs.steps (p.run (Handler.table f).recording ((), [])).2.2, s.2 = f s.1 := by
  apply Prog.run_invariant (fun st : Unit × List (Obs C R E) => ∀ s ∈ Obs.steps st.2, s.2 = f s.1) _ _ (Prog.Asks.any p)
  · intro s hs
    cases hs
  · intro st c _ h s hs
    have happend : s ∈ Obs.steps st.2 ++ [⟨c, f c⟩] := by
      rw [← Obs.steps_append_asked]
      exact hs
    rcases List.mem_append.mp happend with hs | hs
    · exact h s hs
    · rw [List.mem_singleton.mp hs]
  · intro st e h s hs
    have happend : s ∈ Obs.steps st.2 := by
      rw [← Obs.steps_append_yielded st.2 e]
      exact hs
    exact h s happend

end Tables

end AIRuntime.EffectPrograms
