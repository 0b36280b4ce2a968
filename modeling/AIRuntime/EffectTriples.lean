import AIRuntime.EffectRuns

set_option autoImplicit false

/-!
Weakest preconditions of programs against an environment that keeps a state. An environment may
answer in many ways and may forbid a command; a handler is one that answers in one way.
-/
namespace AIRuntime.EffectPrograms

/-- Which commands a state permits, and which answers with which next states a command may get. -/
structure Environment (C : Type) (R : C → Type) (S : Type) where
  may : S → C → Prop
  reply : S → (c : C) → R c → S → Prop

def Environment.Keeps {C : Type} {R : C → Type} {S : Type} (env : Environment C R S) (I : S → Prop)
    (c : C) : Prop :=
  ∀ s, I s → env.may s c ∧ ∀ r s', env.reply s c r s' → I s'

def Handler.environment {C : Type} {R : C → Type} {E S : Type} (h : Handler C R E S) : Environment C R S where
  may := fun _ _ => True
  reply := fun s c r s' => h.answer s c = (r, s')

namespace Prog

variable {C : Type} {R : C → Type} {E E' X α β S T : Type}

/-- From `s` the program asks only what is permitted, and however it ends, `Q` holds. -/
def wp (env : Environment C R S) (emit : S → E → S) :
    Prog C R E X α → (Except X α → S → Prop) → S → Prop
  | .done a, Q, s => Q (.ok a) s
  | .raise x, Q, s => Q (.error x) s
  | .call c k, Q, s => env.may s c ∧ ∀ r s', env.reply s c r s' → (k r).wp env emit Q s'
  | .yield e k, Q, s => k.wp env emit Q (emit s e)

def ends (ok : α → S → Prop) (err : X → S → Prop) : Except X α → S → Prop
  | .ok a => ok a
  | .error x => err x

@[simp] theorem ends_ok (ok : α → S → Prop) (err : X → S → Prop) (a : α) : ends ok err (.ok a) = ok a := rfl

@[simp] theorem ends_error (ok : α → S → Prop) (err : X → S → Prop) (x : X) :
    ends ok err (.error x) = err x := rfl

theorem ends_mono {ok ok' : α → S → Prop} {err err' : X → S → Prop} (hok : ∀ a s, ok a s → ok' a s)
    (herr : ∀ x s, err x s → err' x s) (o : Except X α) (s : S) (h : ends ok err o s) :
    ends ok' err' o s := by
  cases o with
  | ok a => exact hok a s h
  | error x => exact herr x s h

section Rules

variable {env : Environment C R S} {emit : S → E → S}

@[simp] theorem wp_done {a : α} {Q : Except X α → S → Prop} {s : S} :
    (done a : Prog C R E X α).wp env emit Q s = Q (.ok a) s := rfl

@[simp] theorem wp_raise {x : X} {Q : Except X α → S → Prop} {s : S} :
    (raise x : Prog C R E X α).wp env emit Q s = Q (.error x) s := rfl

@[simp] theorem wp_call {c : C} {k : R c → Prog C R E X α} {Q : Except X α → S → Prop} {s : S} :
    (call c k).wp env emit Q s =
      (env.may s c ∧ ∀ r s', env.reply s c r s' → (k r).wp env emit Q s') := rfl

@[simp] theorem wp_yield {e : E} {k : Prog C R E X α} {Q : Except X α → S → Prop} {s : S} :
    (yield e k).wp env emit Q s = k.wp env emit Q (emit s e) := rfl

theorem wp_ask {c : C} {f : R c → Prog C R E X α} {Q : Except X α → S → Prop} {s : S} (hmay : env.may s c)
    (h : ∀ r s', env.reply s c r s' → (f r).wp env emit Q s') : ((ask c).bind f).wp env emit Q s :=
  ⟨hmay, h⟩

theorem wp_ofExcept {o : Except X α} {Q : Except X α → S → Prop} {s : S} (h : Q o s) :
    (ofExcept o : Prog C R E X α).wp env emit Q s := by
  cases o <;> exact h

theorem wp_mono {p : Prog C R E X α} {Q Q' : Except X α → S → Prop} (hQ : ∀ o s, Q o s → Q' o s) {s : S}
    (h : p.wp env emit Q s) : p.wp env emit Q' s := by
  induction p generalizing s with
  | done a => exact hQ _ _ h
  | raise x => exact hQ _ _ h
  | call c k ih => exact ⟨h.1, fun r s' hr => ih r (h.2 r s' hr)⟩
  | yield e k ih => exact ih h

theorem wp_and {p : Prog C R E X α} {Q Q' : Except X α → S → Prop} {s : S} (h : p.wp env emit Q s)
    (h' : p.wp env emit Q' s) : p.wp env emit (fun o s => Q o s ∧ Q' o s) s := by
  induction p generalizing s with
  | done a => exact ⟨h, h'⟩
  | raise x => exact ⟨h, h'⟩
  | call c k ih => exact ⟨h.1, fun r s' hr => ih r (h.2 r s' hr) (h'.2 r s' hr)⟩
  | yield e k ih => exact ih h h'

theorem wp_bind {p : Prog C R E X α} {f : α → Prog C R E X β} {Q : Except X β → S → Prop} {s : S}
    (h : p.wp env emit (ends (fun a => (f a).wp env emit Q) fun x => Q (.error x)) s) :
    (p.bind f).wp env emit Q s := by
  induction p generalizing s with
  | done a => exact h
  | raise x => exact h
  | call c k ih => exact ⟨h.1, fun r s' hr => ih r (h.2 r s' hr)⟩
  | yield e k ih => exact ih h

theorem wp_catching {p : Prog C R E X α} {f : X → Prog C R E X α} {Q : Except X α → S → Prop} {s : S}
    (h : p.wp env emit (ends (fun a => Q (.ok a)) fun x => (f x).wp env emit Q) s) :
    (p.catching f).wp env emit Q s := by
  induction p generalizing s with
  | done a => exact h
  | raise x => exact h
  | call c k ih => exact ⟨h.1, fun r s' hr => ih r (h.2 r s' hr)⟩
  | yield e k ih => exact ih h

theorem wp_attempt {Y : Type} {p : Prog C R E X α} {Q : Except Y (Except X α) → S → Prop} {s : S}
    (h : p.wp env emit (fun o => Q (.ok o)) s) : (p.attempt : Prog C R E Y (Except X α)).wp env emit Q s := by
  induction p generalizing s with
  | done a => exact h
  | raise x => exact h
  | call c k ih => exact ⟨h.1, fun r s' hr => ih r (h.2 r s' hr)⟩
  | yield e k ih => exact ih h

theorem wp_lift {emit' : S → Empty → S} {p : Prog C R Empty X α} {Q : Except X α → S → Prop} {s : S}
    (h : p.wp env emit' Q s) : (p.lift : Prog C R E X α).wp env emit Q s := by
  induction p generalizing s with
  | done a => exact h
  | raise x => exact h
  | call c k ih => exact ⟨h.1, fun r s' hr => ih r (h.2 r s' hr)⟩
  | yield e _ _ => exact e.elim

theorem wp_seq {p : Prog C R E X α} {f : α → Prog C R E X β} {Q : Except X β → S → Prop}
    {M : α → S → Prop} {N : X → S → Prop} {s : S} (hp : p.wp env emit (ends M N) s)
    (hf : ∀ a s, M a s → (f a).wp env emit Q s) (he : ∀ x s, N x s → Q (.error x) s) :
    (p.bind f).wp env emit Q s :=
  wp_bind (wp_mono (ends_mono hf he) hp)

/-- A program that asks only commands which keep `I`, and are permitted under it, keeps `I`. -/
theorem wp_of_asks {P : C → Prop} {I : S → Prop} {p : Prog C R E X α} (hp : p.Asks P)
    (hk : ∀ c, P c → env.Keeps I c) (he : ∀ s e, I s → I (emit s e)) {s : S} (hs : I s) :
    p.wp env emit (fun _ => I) s := by
  induction p generalizing s with
  | done a => exact hs
  | raise x => exact hs
  | call c k ih =>
    obtain ⟨hmay, hreply⟩ := hk c hp.1 s hs
    exact ⟨hmay, fun r s' hr => ih r (hp.2 r) (hreply r s' hr)⟩
  | yield e k ih => exact ih hp (he s e hs)

/-- The loop rule for a list of events: `I` is the invariant, indexed by what is still to come. -/
theorem wp_forEach_ofEvents {V : Type} {emit : S → E' → S} {body : V → E → Prog C R E' X V}
    {fin : V → Except X Unit → Prog C R E' X β} {Q : Except X β → S → Prop} {ending : Except X Unit}
    (I : List E → V → S → Prop)
    (hbody : ∀ e es v s, I (e :: es) v s →
      (body v e).wp env emit (ends (I es) fun x => Q (.error x)) s)
    (hfin : ∀ v s, I [] v s → (fin v ending).wp env emit Q s) {es : List E} {v : V} {s : S}
    (hs : I es v s) : ((ofEvents es ending : Prog C R E X Unit).forEach v body fin).wp env emit Q s := by
  induction es generalizing v s with
  | nil =>
    cases ending with
    | ok u => exact hfin v s hs
    | error x => exact hfin v s hs
  | cons e es ih =>
    refine wp_bind (wp_mono (ends_mono ?_ fun _ _ h => h) (hbody e es v s hs))
    intro v' s' hs'
    exact ih hs'

end Rules

/-- Against a handler the weakest precondition speaks of the one run there is. -/
theorem wp_run {h : Handler C R E S} {p : Prog C R E X α} {Q : Except X α → S → Prop} {s : S} :
    p.wp h.environment h.emit Q s ↔ Q (p.run h s).1 (p.run h s).2 := by
  induction p generalizing s with
  | done a => exact Iff.rfl
  | raise x => exact Iff.rfl
  | call c k ih =>
    simp only [wp_call, run_call, Handler.environment, true_and]
    refine ⟨?_, ?_⟩
    · intro hw
      exact (ih _).mp (hw _ _ rfl)
    · intro hq r s' hr
      rw [hr] at hq
      exact (ih r).mpr hq
  | yield e k ih => exact ih

theorem wp_answered {h : Handler C R E S} {c : C} {k : R c → Prog C R E X α} {Q : Except X α → S → Prop} {s : S}
    (hk : (k (h.answer s c).1).wp h.environment h.emit Q (h.answer s c).2) :
    (call c k).wp h.environment h.emit Q s := by
  refine ⟨trivial, fun r s' hr => ?_⟩
  have hr' : h.answer s c = (r, s') := hr
  rw [hr'] at hk
  exact hk

/-- Where everything is permitted, every program comes to some end. -/
theorem wp_free {env : Environment C R S} {emit : S → E → S} (hmay : ∀ s c, env.may s c) {p : Prog C R E X α} {s : S} :
    p.wp env emit (ends (fun _ _ => True) fun _ _ => True) s := by
  induction p generalizing s with
  | done a => trivial
  | raise x => trivial
  | call c k ih => exact ⟨hmay s c, fun r s' _ => ih r⟩
  | yield e k ih => exact ih

theorem wp_any {h : Handler C R E S} {p : Prog C R E X α} {s : S} :
    p.wp h.environment h.emit (ends (fun _ _ => True) fun _ _ => True) s :=
  wp_free fun _ _ => trivial

theorem keeps_handler {h : Handler C R E S} {I : S → Prop} {c : C} (hc : ∀ s, I s → I (h.answer s c).2) :
    h.environment.Keeps I c := by
  intro s hs
  refine ⟨trivial, ?_⟩
  intro r s' hr
  have hstep := hc s hs
  have hr' : h.answer s c = (r, s') := hr
  rw [hr'] at hstep
  exact hstep

section Frames

variable {h : Handler C R Empty S} {P : C → Prop} {K : S → S → Prop}

theorem reply_frame {c : C} (hk : ∀ s, K s (h.answer s c).2) {r : R c} {s s' : S}
    (hr : h.environment.reply s c r s') : K s s' := by
  have hstep := hk s
  have hr' : h.answer s c = (r, s') := hr
  rw [hr'] at hstep
  exact hstep

/-- The frame rule: commands that change a state only within `K` keep what `K` keeps. -/
theorem wp_frame (hk : ∀ c, P c → ∀ s, K s (h.answer s c).2) {p : Prog C R Empty X α} (hp : p.Asks P) {I : S → Prop}
    (hI : ∀ s s', K s s' → I s → I s') {s : S} (hs : I s) :
    p.wp h.environment h.emit (ends (fun _ => I) fun _ => I) s := by
  refine wp_mono ?_ (wp_of_asks hp (fun c hc => keeps_handler fun s hs => hI s _ (hk c hc s) hs) (fun _ e _ => e.elim) hs)
  intro o s' hs'
  cases o <;> exact hs'

end Frames

end Prog

section Finishing

variable {C : Type} {R : C → Type} {E X α S : Type} {env : Environment C R S} {emit : S → E → S}

/-- From the first state the program may end so in the second, by some answers of the environment. -/
inductive Prog.Finishes (env : Environment C R S) (emit : S → E → S) :
    Prog C R E X α → S → Except X α → S → Prop where
  | done (a : α) (s : S) : Finishes env emit (.done a) s (.ok a) s
  | raise (x : X) (s : S) : Finishes env emit (.raise x) s (.error x) s
  | call {c : C} {k : R c → Prog C R E X α} {r : R c} {s s' s'' : S} {o : Except X α}
      (hreply : env.reply s c r s') (htail : Finishes env emit (k r) s' o s'') :
      Finishes env emit (.call c k) s o s''
  | yield {e : E} {k : Prog C R E X α} {s s' : S} {o : Except X α} (htail : Finishes env emit k (emit s e) o s') :
      Finishes env emit (.yield e k) s o s'

theorem Prog.Finishes.post {p : Prog C R E X α} {s s' : S} {o : Except X α} (h : p.Finishes env emit s o s')
    {Q : Except X α → S → Prop} (hwp : p.wp env emit Q s) : Q o s' := by
  induction h with
  | done a s => exact hwp
  | raise x s => exact hwp
  | call hreply htail ih => exact ih (hwp.2 _ _ hreply)
  | yield htail ih => exact ih hwp

/-- A handler whose answers the environment may give runs a program to one of its ends. -/
theorem Prog.finishes_run {h : Handler C R E S}
    (hanswer : ∀ s c, env.reply s c (h.answer s c).1 (h.answer s c).2) (p : Prog C R E X α) (s : S) :
    p.Finishes env h.emit s (p.run h s).1 (p.run h s).2 := by
  induction p generalizing s with
  | done a => exact .done a s
  | raise x => exact .raise x s
  | call c k ih => exact .call (hanswer s c) (ih _ _)
  | yield e k ih => exact .yield (ih _)

end Finishing

section Tracing

variable {C : Type} {R : C → Type} {E X α : Type}

def tracing : Environment C R (List (Obs C R E)) where
  may := fun _ _ => True
  reply := fun t c r t' => t' = t ++ [.asked c r]

theorem Prog.Exec.post {p : Prog C R E X α} {t : List (Obs C R E)} {o : Except X α} (h : Prog.Exec p t o)
    {Q : Except X α → List (Obs C R E) → Prop} {before : List (Obs C R E)}
    (hwp : p.wp tracing (fun t e => t ++ [.yielded e]) Q before) : Q o (before ++ t) := by
  induction h generalizing before with
  | done a =>
    rw [List.append_nil]
    exact hwp
  | raise x =>
    rw [List.append_nil]
    exact hwp
  | @call c k r t o tail ih =>
    have hnext : Q o (before ++ [Obs.asked c r] ++ t) := ih (hwp.2 r _ rfl)
    rw [List.append_assoc] at hnext
    exact hnext
  | @yield e k t o tail ih =>
    have hnext : Q o (before ++ [Obs.yielded e] ++ t) := ih hwp
    rw [List.append_assoc] at hnext
    exact hnext

def Handler.recording {S : Type} (h : Handler C R E S) : Handler C R E (S × List (Obs C R E)) where
  answer := fun s c => ((h.answer s.1 c).1, (h.answer s.1 c).2, s.2 ++ [.asked c (h.answer s.1 c).1])
  emit := fun s e => (h.emit s.1 e, s.2 ++ [.yielded e])

theorem Prog.exec_recording {S : Type} (h : Handler C R E S) (p : Prog C R E X α) (s : S)
    (before : List (Obs C R E)) : ∃ t, (p.run h.recording (s, before)).2.2 = before ++ t ∧
      Prog.Exec p t (p.run h.recording (s, before)).1 := by
  induction p generalizing s before with
  | done a => exact ⟨[], (List.append_nil _).symm, .done a⟩
  | raise x => exact ⟨[], (List.append_nil _).symm, .raise x⟩
  | call c k ih =>
    obtain ⟨t, ht, hexec⟩ := ih (h.answer s c).1 (h.answer s c).2 (before ++ [.asked c (h.answer s c).1])
    refine ⟨.asked c (h.answer s c).1 :: t, ?_, .call _ hexec⟩
    rw [List.append_assoc] at ht
    exact ht
  | yield e k ih =>
    obtain ⟨t, ht, hexec⟩ := ih (h.emit s e) (before ++ [.yielded e])
    refine ⟨.yielded e :: t, ?_, .yield hexec⟩
    rw [List.append_assoc] at ht
    exact ht

theorem Prog.exec_recorded {S : Type} (h : Handler C R E S) (p : Prog C R E X α) (s : S) :
    Prog.Exec p (p.run h.recording (s, [])).2.2 (p.run h.recording (s, [])).1 := by
  obtain ⟨t, ht, hexec⟩ := Prog.exec_recording h p s []
  rw [ht]
  exact hexec

end Tracing

section Monitors

variable {C : Type} {R : C → Type} {E S G X α : Type}

/-- A handler watched by a monitor, which sees each command, its answer and the states around it. -/
def Handler.watched (h : Handler C R E S) (step : S → (c : C) → R c → S → G → G) : Handler C R E (S × G) where
  answer := fun s c => ((h.answer s.1 c).1, (h.answer s.1 c).2, step s.1 c (h.answer s.1 c).1 (h.answer s.1 c).2 s.2)
  emit := fun s e => (h.emit s.1 e, s.2)

theorem Prog.run_watched (h : Handler C R E S) (step : S → (c : C) → R c → S → G → G) (p : Prog C R E X α)
    (s : S) (g : G) :
    (p.run (h.watched step) (s, g)).1 = (p.run h s).1 ∧ (p.run (h.watched step) (s, g)).2.1 = (p.run h s).2 := by
  induction p generalizing s g with
  | done a => exact ⟨rfl, rfl⟩
  | raise x => exact ⟨rfl, rfl⟩
  | call c k ih => exact ih _ _ _
  | yield e k ih => exact ih _ _

end Monitors

end AIRuntime.EffectPrograms
