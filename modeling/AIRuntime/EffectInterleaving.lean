import AIRuntime.EffectTriples
import Mathlib.Logic.Function.Basic
import Mathlib.Logic.Relation

set_option autoImplicit false

/-!
Programs that take turns on one shared state. Each keeps a note of what it was answered. A discipline
says by its note what a program may ask; an invariant then ties the notes of all to the shared state.
-/
namespace AIRuntime.EffectPrograms

variable {ι C : Type} {R : C → Type} {E X α S G : Type}

/-- Programs in progress: the shared state, what each has still to do, and the note of each. -/
structure Pool (ι C : Type) (R : C → Type) (E X α S G : Type) where
  shared : S
  rest : ι → Prog C R E X α
  note : ι → G

/-- How the shared state answers a program, and how it may change while nobody asks. -/
structure Arbiter (ι C : Type) (R : C → Type) (S : Type) where
  reply : ι → S → (c : C) → R c → S → Prop
  drift : S → S → Prop

/-- What a program may ask by its note, which an answer changes; other programs do not. -/
def locally (may : G → C → Prop) (observe : G → (c : C) → R c → G) : Environment C R G where
  may := may
  reply := fun g c r g' => g' = observe g c r

namespace Pool

variable [DecidableEq ι]

section Steps

variable (arbiter : Arbiter ι C R S) (observe : G → (c : C) → R c → G) (guard : S → (ι → G) → ι → C → Prop)

/-- One program is answered, or none is. `guard` restricts the runs that are considered. -/
inductive Step : Pool ι C R E X α S G → Pool ι C R E X α S G → Prop where
  | answered {pool : Pool ι C R E X α S G} {i : ι} {c : C} {k : R c → Prog C R E X α} {r : R c} {s' : S}
      (hrest : pool.rest i = .call c k) (hguard : guard pool.shared pool.note i c)
      (hreply : arbiter.reply i pool.shared c r s') :
      Step pool ⟨s', Function.update pool.rest i (k r), Function.update pool.note i (observe (pool.note i) c r)⟩
  | yielded {pool : Pool ι C R E X α S G} {i : ι} {e : E} {k : Prog C R E X α} (hrest : pool.rest i = .yield e k) :
      Step pool { pool with rest := Function.update pool.rest i k }
  | drifted {pool : Pool ι C R E X α S G} {s' : S} (hdrift : arbiter.drift pool.shared s') :
      Step pool { pool with shared := s' }

def Reaches : Pool ι C R E X α S G → Pool ι C R E X α S G → Prop :=
  Relation.ReflTransGen (Step arbiter observe guard)

def Obeys (env : Environment C R G) (post : Except X α → G → Prop) (pool : Pool ι C R E X α S G) : Prop :=
  ∀ i, (pool.rest i).wp env (fun g _ => g) post (pool.note i)

def Disciplined (may : G → C → Prop) (pool : Pool ι C R E X α S G) : Prop :=
  ∀ i, (pool.rest i).wp (locally may observe) (fun g _ => g) (fun _ _ => True) (pool.note i)

end Steps

section Rules

variable {arbiter : Arbiter ι C R S} {observe : G → (c : C) → R c → G} {guard : S → (ι → G) → ι → C → Prop}
  {may : G → C → Prop} {pool pool' : Pool ι C R E X α S G}

omit [DecidableEq ι] in
theorem Obeys.asks {env : Environment C R G} {post : Except X α → G → Prop} (h : Obeys env post pool) {i : ι} {c : C}
    {k : R c → Prog C R E X α} (hrest : pool.rest i = .call c k) : env.may (pool.note i) c := by
  have hi := h i
  rw [hrest] at hi
  exact hi.1

omit [DecidableEq ι] in
theorem Disciplined.asks (h : Disciplined observe may pool) {i : ι} {c : C} {k : R c → Prog C R E X α}
    (hrest : pool.rest i = .call c k) : may (pool.note i) c := by
  have hobeys : Obeys (locally may observe) (fun _ _ => True) pool := h
  exact hobeys.asks hrest

theorem Obeys.step {env : Environment C R G} {post : Except X α → G → Prop} {I : S → (ι → G) → Prop}
    (hlocal : ∀ s g i c r s', I s g → env.may (g i) c → guard s g i c → arbiter.reply i s c r s' →
      env.reply (g i) c r (observe (g i) c r))
    (h : Obeys env post pool) (hI : I pool.shared pool.note) (hstep : Step arbiter observe guard pool pool') :
    Obeys env post pool' := by
  cases hstep with
  | @answered i c k r s' hrest hguard hreply =>
    intro j
    have hi := h i
    rw [hrest] at hi
    by_cases hj : j = i
    · subst hj
      simp only [Function.update_self]
      exact hi.2 r _ (hlocal _ _ _ _ _ _ hI hi.1 hguard hreply)
    · simp only [Function.update_of_ne hj]
      exact h j
  | @yielded i e k hrest =>
    intro j
    have hi := h i
    rw [hrest] at hi
    by_cases hj : j = i
    · subst hj
      simp only [Function.update_self]
      exact hi
    · simp only [Function.update_of_ne hj]
      exact h j
  | drifted hdrift => exact h

/-- An answer that the guard admits and the discipline allows leaves `I`, and so does a drift. -/
structure Keeps (arbiter : Arbiter ι C R S) (observe : G → (c : C) → R c → G) (guard : S → (ι → G) → ι → C → Prop)
    (may : G → C → Prop) (I : S → (ι → G) → Prop) : Prop where
  answered : ∀ s g i c r s', I s g → may (g i) c → guard s g i c → arbiter.reply i s c r s' →
    I s' (Function.update g i (observe (g i) c r))
  drifted : ∀ s g s', I s g → arbiter.drift s s' → I s' g

theorem Keeps.step {env : Environment C R G} {post : Except X α → G → Prop} {I : S → (ι → G) → Prop}
    (hkeeps : Keeps arbiter observe guard env.may I) (h : Obeys env post pool) (hI : I pool.shared pool.note)
    (hstep : Step arbiter observe guard pool pool') : I pool'.shared pool'.note := by
  cases hstep with
  | answered hrest hguard hreply => exact hkeeps.answered _ _ _ _ _ _ hI (h.asks hrest) hguard hreply
  | yielded hrest => exact hI
  | drifted hdrift => exact hkeeps.drifted _ _ _ hI hdrift

/-- What obedient programs keep holds of every state they reach, if the answers they get there are expected. -/
theorem Reaches.obeys {env : Environment C R G} {post : Except X α → G → Prop} {I : S → (ι → G) → Prop}
    (hlocal : ∀ s g i c r s', I s g → env.may (g i) c → guard s g i c → arbiter.reply i s c r s' →
      env.reply (g i) c r (observe (g i) c r))
    (hkeeps : Keeps arbiter observe guard env.may I) (hreach : Reaches arbiter observe guard pool pool')
    (h : Obeys env post pool) (hI : I pool.shared pool.note) : Obeys env post pool' ∧ I pool'.shared pool'.note := by
  induction hreach with
  | refl => exact ⟨h, hI⟩
  | tail _ hstep ih => exact ⟨ih.1.step hlocal ih.2 hstep, hkeeps.step ih.1 ih.2 hstep⟩

/-- What disciplined programs keep holds of every state they reach. -/
theorem Reaches.keeps {I : S → (ι → G) → Prop} (hkeeps : Keeps arbiter observe guard may I)
    (hreach : Reaches arbiter observe guard pool pool') (h : Disciplined observe may pool)
    (hI : I pool.shared pool.note) : Disciplined observe may pool' ∧ I pool'.shared pool'.note := by
  have hobeys : Obeys (locally may observe) (fun _ _ => True) pool := h
  exact hreach.obeys (fun _ _ _ _ _ _ _ _ _ _ => rfl) hkeeps hobeys hI

end Rules

section Schedules

variable (answer : ι → S → (c : C) → Option (R c × S)) (observe : G → (c : C) → R c → G)

def turn (i : ι) (pool : Pool ι C R E X α S G) : Pool ι C R E X α S G :=
  match pool.rest i with
  | .call c k =>
    match answer i pool.shared c with
    | some (r, s') =>
      ⟨s', Function.update pool.rest i (k r), Function.update pool.note i (observe (pool.note i) c r)⟩
    | none => pool
  | .yield _ k => { pool with rest := Function.update pool.rest i k }
  | _ => pool

def turns : List ι → Pool ι C R E X α S G → Pool ι C R E X α S G
  | [], pool => pool
  | i :: rest, pool => turns rest (turn answer observe i pool)

variable {answer observe} {arbiter : Arbiter ι C R S} {guard : S → (ι → G) → ι → C → Prop}

theorem turn_answered {pool : Pool ι C R E X α S G} {i : ι} {c : C} {k : R c → Prog C R E X α} {r : R c} {s' : S}
    (hrest : pool.rest i = .call c k) (hanswer : answer i pool.shared c = some (r, s')) :
    turn answer observe i pool =
      ⟨s', Function.update pool.rest i (k r), Function.update pool.note i (observe (pool.note i) c r)⟩ := by
  unfold turn
  rw [hrest]
  simp only [hanswer]

/-- A scheduled run is a run, if the answers are answers of the shared state and meet the guard. -/
theorem turns_reach (hanswer : ∀ i s c r s', answer i s c = some (r, s') → arbiter.reply i s c r s')
    (hguard : ∀ i s g c r s', answer i s c = some (r, s') → guard s g i c) (schedule : List ι)
    (pool : Pool ι C R E X α S G) :
    Reaches arbiter observe guard pool (turns answer observe schedule pool) := by
  induction schedule generalizing pool with
  | nil => exact .refl
  | cons i rest ih =>
    have hturn : Reaches arbiter observe guard pool (turn answer observe i pool) := by
      unfold turn
      split
      · rename_i c k hrest
        split
        · rename_i r s' hsome
          exact .single (.answered hrest (hguard i pool.shared pool.note c r s' hsome)
            (hanswer i pool.shared c r s' hsome))
        · exact .refl
      · rename_i e k hrest
        exact .single (.yielded hrest)
      · exact .refl
    exact hturn.trans (ih _)

end Schedules

end Pool

end AIRuntime.EffectPrograms
