import AIRuntime.EffectRelations
import AIRuntime.EffectRuns

set_option autoImplicit false

/-!
Systems of several parts, each with commands of its own. A program of one part runs as a program of the
system; what it is observed to do there is what it does alone.
-/
namespace AIRuntime.EffectPrograms

variable {ι : Type} {C : ι → Type} {R : (i : ι) → C i → Type} {E E' X Y α β : Type}

namespace Prog

variable {C : Type} {R : C → Type}

theorem exec_ofExcept {t : List (Obs C R E)} {o o' : Except X α} : Exec (ofExcept o') t o ↔ t = [] ∧ o = o' := by
  cases o' with
  | ok a => exact exec_done
  | error x => exact exec_raise

theorem Asks.attempt {P : C → Prop} {p : Prog C R E X α} (hp : p.Asks P) :
    (p.attempt : Prog C R E Y (Except X α)).Asks P := by
  induction p with
  | done a => trivial
  | raise x => trivial
  | call c k ih => exact ⟨hp.1, fun r => ih r (hp.2 r)⟩
  | yield e k ih => exact ih hp

theorem exec_bind_ok {p : Prog C R E X α} {f : α → Prog C R E X β} {t : List (Obs C R E)} {b : β}
    (h : Exec (p.bind f) t (.ok b)) : ∃ a t₁ t₂, t = t₁ ++ t₂ ∧ Exec p t₁ (.ok a) ∧ Exec (f a) t₂ (.ok b) := by
  rcases exec_bind.mp h with ⟨x, hx, -⟩ | hparts
  · cases hx
  · exact hparts

/-- What follows a program need only be right for what the program can return. -/
theorem Asks.bind_ok {P : C → Prop} {p : Prog C R E X α} {f : α → Prog C R E X β} (hp : p.Asks P)
    (hf : ∀ t a, Exec p t (.ok a) → (f a).Asks P) : (p.bind f).Asks P := by
  induction p with
  | done a => exact hf [] a (.done a)
  | raise x => trivial
  | call c k ih => exact ⟨hp.1, fun r => ih r (hp.2 r) fun t a h => hf _ a (.call r h)⟩
  | yield e k ih => exact ih hp fun t a h => hf _ a (.yield h)

/-- A loop that passes on what it is given, and must be given something: if it has yielded nothing, it raises. -/
theorem exec_once_silent {p : Prog C R E X Unit} {f : E → E'} {x : X} {fin : Except X Unit → Prog C R E' X β}
    {t : List (Obs C R E')} {o : Except X β}
    (h : Exec (p.forEach false (fun _ e => .yield (f e) (.done true)) (onceStarted (.raise x) fin)) t o)
    (hsilent : t.filterMap Obs.event? = []) : ∃ y, o = .error y := by
  induction p generalizing t with
  | done a => exact ⟨x, (exec_raise.mp h).2⟩
  | raise y => exact ⟨y, (exec_raise.mp h).2⟩
  | call c k ih =>
    obtain ⟨r, t', ht, htail⟩ := exec_call.mp h
    rw [ht] at hsilent
    exact ih r htail hsilent
  | yield e k ih =>
    obtain ⟨t', ht, -⟩ := exec_yield.mp h
    rw [ht] at hsilent
    cases hsilent

end Prog

abbrev Joint (C : ι → Type) : Type := (i : ι) × C i

@[reducible]
def JointResponse (R : (i : ι) → C i → Type) (c : Joint C) : Type := R c.1 c.2

/-- A program of part `i` within the system, where its exceptions are among those of the system. -/
def Prog.within (i : ι) (f : X → Y) : Prog (C i) (R i) E X α → Prog (Joint C) (JointResponse R) E Y α
  | .done a => .done a
  | .raise x => .raise (f x)
  | .call c k => .call ⟨i, c⟩ fun r => (k r).within i f
  | .yield e k => .yield e (k.within i f)

def Environment.part {S : Type} (env : Environment (Joint C) (JointResponse R) S) (i : ι) :
    Environment (C i) (R i) S where
  may := fun s c => env.may s ⟨i, c⟩
  reply := fun s c r s' => env.reply s ⟨i, c⟩ r s'

def Obs.within (i : ι) : Obs (C i) (R i) E → Obs (Joint C) (JointResponse R) E
  | .asked c r => .asked ⟨i, c⟩ r
  | .yielded e => .yielded e

namespace Prog

variable {i : ι} {f : X → Y}

@[simp] theorem within_done (a : α) :
    (done a : Prog (C i) (R i) E X α).within i f = (done a : Prog (Joint C) (JointResponse R) E Y α) := rfl

@[simp] theorem within_raise (x : X) :
    (raise x : Prog (C i) (R i) E X α).within i f = (raise (f x) : Prog (Joint C) (JointResponse R) E Y α) := rfl

theorem Asks.within {P : C i → Prop} {Q : Joint C → Prop} {p : Prog (C i) (R i) E X α} (hp : p.Asks P)
    (h : ∀ c, P c → Q ⟨i, c⟩) : (p.within i f : Prog (Joint C) (JointResponse R) E Y α).Asks Q := by
  induction p with
  | done a => trivial
  | raise x => trivial
  | call c k ih => exact ⟨h c hp.1, fun r => ih r (hp.2 r)⟩
  | yield e k ih => exact ih hp

theorem exec_within {p : Prog (C i) (R i) E X α} {t : List (Obs (Joint C) (JointResponse R) E)} {o : Except Y α} :
    Exec (p.within i f) t o ↔ ∃ t' o', t = t'.map (Obs.within i) ∧ o = o'.mapError f ∧ Exec p t' o' := by
  induction p generalizing t with
  | done a =>
    rw [within_done, exec_done]
    constructor
    · rintro ⟨rfl, rfl⟩
      exact ⟨[], .ok a, rfl, rfl, .done a⟩
    · rintro ⟨t', o', rfl, rfl, h⟩
      obtain ⟨rfl, rfl⟩ := exec_done.mp h
      exact ⟨rfl, rfl⟩
  | raise x =>
    rw [within_raise, exec_raise]
    constructor
    · rintro ⟨rfl, rfl⟩
      exact ⟨[], .error x, rfl, rfl, .raise x⟩
    · rintro ⟨t', o', rfl, rfl, h⟩
      obtain ⟨rfl, rfl⟩ := exec_raise.mp h
      exact ⟨rfl, rfl⟩
  | call c k ih =>
    rw [Prog.within, exec_call]
    constructor
    · rintro ⟨r, t₁, rfl, htail⟩
      obtain ⟨t', o', rfl, rfl, halone⟩ := (ih r).mp htail
      exact ⟨.asked c r :: t', o', rfl, rfl, .call (c := c) (k := k) r halone⟩
    · rintro ⟨t', o', rfl, rfl, hcall⟩
      obtain ⟨r, t₁, rfl, htail⟩ := exec_call.mp hcall
      exact ⟨r, t₁.map (Obs.within i), rfl, (ih r).mpr ⟨t₁, o', rfl, rfl, htail⟩⟩
  | yield e k ih =>
    rw [Prog.within, exec_yield]
    constructor
    · rintro ⟨t₁, rfl, htail⟩
      obtain ⟨t', o', rfl, rfl, halone⟩ := ih.mp htail
      exact ⟨.yielded e :: t', o', rfl, rfl, .yield halone⟩
    · rintro ⟨t', o', rfl, rfl, hyield⟩
      obtain ⟨t₁, rfl, htail⟩ := exec_yield.mp hyield
      exact ⟨t₁.map (Obs.within i), rfl, ih.mpr ⟨t₁, o', rfl, rfl, htail⟩⟩

theorem exec_within_ok {p : Prog (C i) (R i) E X α} {t : List (Obs (Joint C) (JointResponse R) E)} {a : α}
    (h : Exec (p.within i f) t (.ok a : Except Y α)) : ∃ t', t = t'.map (Obs.within i) ∧ Exec p t' (.ok a) := by
  obtain ⟨t', o', ht, ho, h⟩ := exec_within.mp h
  cases o' with
  | ok b =>
    cases ho
    exact ⟨t', ht, h⟩
  | error x => cases ho

theorem events_within (t : List (Obs (C i) (R i) E)) :
    (t.map (Obs.within i)).filterMap Obs.event? = t.filterMap Obs.event? := by
  rw [List.filterMap_map]
  refine List.filterMap_congr fun o _ => ?_
  cases o <;> rfl

theorem wp_within {S : Type} {env : Environment (Joint C) (JointResponse R) S} {emit : S → E → S}
    {p : Prog (C i) (R i) E X α} {Q : Except Y α → S → Prop} {s : S}
    (h : p.wp (env.part i) emit (fun o s => Q (o.mapError f) s) s) : (p.within i f).wp env emit Q s := by
  induction p generalizing s with
  | done a => exact h
  | raise x => exact h
  | call c k ih => exact ⟨h.1, fun r s' hr => ih r (h.2 r s' hr)⟩
  | yield e k ih => exact ih h

end Prog

end AIRuntime.EffectPrograms
