import AIRuntime.EffectPrograms

set_option autoImplicit false

/-!
Two semantics of programs. `run` answers every command with a handler that carries a state;
`Exec` relates a program to every list of observations that some answers give it.
-/
namespace AIRuntime.EffectPrograms

/-- Collaborators whose answers depend on a state they keep, and a consumer of the events. -/
structure Handler (C : Type) (R : C → Type) (E S : Type) where
  answer : S → (c : C) → R c × S
  emit : S → E → S

/-- What an observer of a program sees. -/
inductive Obs (C : Type) (R : C → Type) (E : Type) : Type where
  | asked (c : C) (r : R c)
  | yielded (e : E)

namespace Obs

variable {C : Type} {R : C → Type} {E : Type}

def event? : Obs C R E → Option E
  | .asked _ _ => none
  | .yielded e => some e

def relabel : Obs C R Empty → Obs C R E
  | .asked c r => .asked c r
  | .yielded e => e.elim

@[simp] theorem relabel_asked (c : C) (r : R c) : relabel (asked c r) = (asked c r : Obs C R E) := rfl

theorem event?_relabel (o : Obs C R Empty) : (relabel o : Obs C R E).event? = none := by
  cases o with
  | asked c r => rfl
  | yielded e => exact e.elim

@[simp] theorem event?_asked (c : C) (r : R c) : (asked c r : Obs C R E).event? = none := rfl

@[simp] theorem event?_yielded (e : E) : (yielded e : Obs C R E).event? = some e := rfl

end Obs

namespace Prog

variable {C : Type} {R : C → Type} {E E' X α β γ δ S T : Type}

def run (h : Handler C R E S) : Prog C R E X α → S → Except X α × S
  | .done a, s => (.ok a, s)
  | .raise x, s => (.error x, s)
  | .call c k, s => (k (h.answer s c).1).run h (h.answer s c).2
  | .yield e k, s => k.run h (h.emit s e)

@[simp] theorem run_done (h : Handler C R E S) (a : α) (s : S) :
    (done a : Prog C R E X α).run h s = (.ok a, s) := rfl

@[simp] theorem run_raise (h : Handler C R E S) (x : X) (s : S) :
    (raise x : Prog C R E X α).run h s = (.error x, s) := rfl

@[simp] theorem run_call (h : Handler C R E S) (c : C) (k : R c → Prog C R E X α) (s : S) :
    (call c k).run h s = (k (h.answer s c).1).run h (h.answer s c).2 := rfl

@[simp] theorem run_yield (h : Handler C R E S) (e : E) (k : Prog C R E X α) (s : S) :
    (yield e k).run h s = k.run h (h.emit s e) := rfl

@[simp] theorem run_ofExcept (h : Handler C R E S) (o : Except X α) (s : S) :
    (ofExcept o : Prog C R E X α).run h s = (o, s) := by
  cases o <;> rfl

theorem run_bind (h : Handler C R E S) (p : Prog C R E X α) (f : α → Prog C R E X β) (s : S) :
    (p.bind f).run h s =
      match p.run h s with
      | (.ok a, s') => (f a).run h s'
      | (.error x, s') => (.error x, s') := by
  induction p generalizing s with
  | done a => rfl
  | raise x => rfl
  | call c k ih => exact ih _ _
  | yield e k ih => exact ih _

theorem run_bind_ok {h : Handler C R E S} {p : Prog C R E X α} {f : α → Prog C R E X β}
    {s s' : S} {a : α} (hp : p.run h s = (.ok a, s')) : (p.bind f).run h s = (f a).run h s' := by
  rw [run_bind, hp]

theorem run_bind_error {h : Handler C R E S} {p : Prog C R E X α} {f : α → Prog C R E X β}
    {s s' : S} {x : X} (hp : p.run h s = (.error x, s')) :
    (p.bind f).run h s = (.error x, s') := by
  rw [run_bind, hp]

theorem run_catching (h : Handler C R E S) (p : Prog C R E X α) (f : X → Prog C R E X α) (s : S) :
    (p.catching f).run h s =
      match p.run h s with
      | (.ok a, s') => (.ok a, s')
      | (.error x, s') => (f x).run h s' := by
  induction p generalizing s with
  | done a => rfl
  | raise x => rfl
  | call c k ih => exact ih _ _
  | yield e k ih => exact ih _

/-- Every command the program may ever ask satisfies `P`, whatever it is answered. -/
def Asks (P : C → Prop) : Prog C R E X α → Prop
  | .done _ => True
  | .raise _ => True
  | .call c k => P c ∧ ∀ r, (k r).Asks P
  | .yield _ k => k.Asks P

theorem Asks.bind {P : C → Prop} {p : Prog C R E X α} {f : α → Prog C R E X β}
    (hp : p.Asks P) (hf : ∀ a, (f a).Asks P) : (p.bind f).Asks P := by
  induction p with
  | done a => exact hf a
  | raise x => trivial
  | call c k ih => exact ⟨hp.1, fun r => ih r (hp.2 r)⟩
  | yield e k ih => exact ih hp

theorem Asks.catching {P : C → Prop} {p : Prog C R E X α} {h : X → Prog C R E X α}
    (hp : p.Asks P) (hh : ∀ x, (h x).Asks P) : (p.catching h).Asks P := by
  induction p with
  | done a => trivial
  | raise x => exact hh x
  | call c k ih => exact ⟨hp.1, fun r => ih r (hp.2 r)⟩
  | yield e k ih => exact ih hp

theorem Asks.mono {P Q : C → Prop} {p : Prog C R E X α} (hp : p.Asks P)
    (hPQ : ∀ c, P c → Q c) : p.Asks Q := by
  induction p with
  | done a => trivial
  | raise x => trivial
  | call c k ih => exact ⟨hPQ c hp.1, fun r => ih r (hp.2 r)⟩
  | yield e k ih => exact ih hp

theorem Asks.any (p : Prog C R E X α) : p.Asks fun _ => True := by
  induction p with
  | done a => trivial
  | raise x => trivial
  | call c k ih => exact ⟨trivial, ih⟩
  | yield e k ih => exact ih

theorem Asks.ofExcept {P : C → Prop} (o : Except X α) :
    (Prog.ofExcept o : Prog C R E X α).Asks P := by
  cases o <;> trivial

theorem Asks.lift {P : C → Prop} {p : Prog C R Empty X α} (hp : p.Asks P) :
    (p.lift : Prog C R E X α).Asks P := by
  induction p with
  | done a => trivial
  | raise x => trivial
  | call c k ih => exact ⟨hp.1, fun r => ih r (hp.2 r)⟩
  | yield e _ _ => exact e.elim

theorem Asks.ofEvents {P : C → Prop} (es : List E) (o : Except X Unit) :
    (Prog.ofEvents es o : Prog C R E X Unit).Asks P := by
  induction es with
  | nil => exact Asks.ofExcept o
  | cons e es ih => exact ih

theorem Asks.forEach {P : C → Prop} {p : Prog C R E X Unit} {s : S}
    {body : S → E → Prog C R E' X S} {fin : S → Except X Unit → Prog C R E' X β}
    (hp : p.Asks P) (hb : ∀ s e, (body s e).Asks P) (hf : ∀ s o, (fin s o).Asks P) :
    (p.forEach s body fin).Asks P := by
  induction p generalizing s with
  | done a => exact hf s _
  | raise x => exact hf s _
  | call c k ih => exact ⟨hp.1, fun r => ih r (hp.2 r)⟩
  | yield e k ih => exact (hb s e).bind fun s' => ih hp

/-- Whatever it is answered, what the program yields satisfies `P` and what it returns `Q`. -/
def Emits (P : E → Prop) (Q : α → Prop) : Prog C R E X α → Prop
  | .done a => Q a
  | .raise _ => True
  | .call _ k => ∀ r, (k r).Emits P Q
  | .yield e k => P e ∧ k.Emits P Q

theorem Emits.bind {P : E → Prop} {Q : α → Prop} {Q' : β → Prop} {p : Prog C R E X α} {f : α → Prog C R E X β}
    (hp : p.Emits P Q) (hf : ∀ a, Q a → (f a).Emits P Q') : (p.bind f).Emits P Q' := by
  induction p with
  | done a => exact hf a hp
  | raise x => trivial
  | call c k ih => exact fun r => ih r (hp r)
  | yield e k ih => exact ⟨hp.1, ih hp.2⟩

theorem Emits.any (p : Prog C R E X α) : p.Emits (fun _ => True) fun _ => True := by
  induction p with
  | done a => trivial
  | raise x => trivial
  | call c k ih => exact ih
  | yield e k ih => exact ⟨trivial, ih⟩

theorem Emits.ofExcept {P : E → Prop} {Q : α → Prop} {o : Except X α} (h : ∀ a, o = .ok a → Q a) :
    (Prog.ofExcept o : Prog C R E X α).Emits P Q := by
  cases o with
  | ok a => exact h a rfl
  | error x => trivial

theorem Emits.lift {P : E → Prop} {Q : α → Prop} {p : Prog C R Empty X α} (hp : p.Emits (fun _ => True) Q) :
    (p.lift : Prog C R E X α).Emits P Q := by
  induction p with
  | done a => exact hp
  | raise x => trivial
  | call c k ih => exact fun r => ih r (hp r)
  | yield e _ _ => exact e.elim

theorem Emits.forEach {P : E → Prop} {Q : Unit → Prop} {P' : E' → Prop} {Q' : β → Prop} {p : Prog C R E X Unit}
    {s : S} {body : S → E → Prog C R E' X S} {fin : S → Except X Unit → Prog C R E' X β} (hp : p.Emits P Q)
    (hb : ∀ s e, P e → (body s e).Emits P' fun _ => True) (hf : ∀ s o, (fin s o).Emits P' Q') :
    (p.forEach s body fin).Emits P' Q' := by
  induction p generalizing s with
  | done a => exact hf s _
  | raise x => exact hf s _
  | call c k ih => exact fun r => ih r (hp r)
  | yield e k ih => exact (hb s e hp.1).bind fun s' _ => ih hp.2

theorem forEach_congr {P : E → Prop} {Q : Unit → Prop} {p : Prog C R E X Unit} (hp : p.Emits P Q)
    {body body' : S → E → Prog C R E' X S} (h : ∀ s e, P e → body s e = body' s e) (s : S)
    (fin : S → Except X Unit → Prog C R E' X β) : p.forEach s body fin = p.forEach s body' fin := by
  induction p generalizing s with
  | done a => rfl
  | raise x => rfl
  | call c k ih => exact congrArg (Prog.call c) (funext fun r => ih r (hp r) s)
  | yield e k ih =>
    change (body s e).bind _ = (body' s e).bind _
    rw [h s e hp.1]
    exact bind_congr fun s' => ih hp.2 s'

/-- An invariant that every answer to a command of the program keeps holds when it ends. -/
theorem run_invariant {h : Handler C R E S} {P : C → Prop} (I : S → Prop)
    (ha : ∀ s c, P c → I s → I (h.answer s c).2) (he : ∀ s e, I s → I (h.emit s e))
    {p : Prog C R E X α} (hp : p.Asks P) {s : S} (hs : I s) : I (p.run h s).2 := by
  induction p generalizing s with
  | done a => exact hs
  | raise x => exact hs
  | call c k ih => exact ih _ (hp.2 _) (ha s c hp.1 hs)
  | yield e k ih => exact ih hp (he s e hs)

/-- Two handlers that answer the program's commands alike, and keep their states related, give
it the same outcome, unless the first run comes to a bad state, which it then never leaves. -/
theorem run_related {h : Handler C R E S} {h' : Handler C R E T} {P : C → Prop} (Bad : S → Prop)
    (Rel : S → T → Prop) (hbad : ∀ s c, Bad s → Bad (h.answer s c).2) (hbad' : ∀ s e, Bad s → Bad (h.emit s e))
    (ha : ∀ s t c, P c → Rel s t → Bad (h.answer s c).2 ∨
      (h.answer s c).1 = (h'.answer t c).1 ∧ Rel (h.answer s c).2 (h'.answer t c).2)
    (he : ∀ s t e, Rel s t → Rel (h.emit s e) (h'.emit t e))
    {p : Prog C R E X α} (hp : p.Asks P) {s : S} {t : T} (hst : Bad s ∨ Rel s t) :
    Bad (p.run h s).2 ∨ (p.run h s).1 = (p.run h' t).1 ∧ Rel (p.run h s).2 (p.run h' t).2 := by
  have stuck : ∀ (q : Prog C R E X α) (s : S), Bad s → Bad (q.run h s).2 := by
    intro q
    induction q with
    | done a => exact fun _ hs => hs
    | raise x => exact fun _ hs => hs
    | call c k ih => exact fun s hs => ih _ _ (hbad s c hs)
    | yield e k ih => exact fun s hs => ih _ (hbad' s e hs)
  rcases hst with hs | hst
  · exact .inl (stuck p s hs)
  · induction p generalizing s t with
    | done a => exact .inr ⟨rfl, hst⟩
    | raise x => exact .inr ⟨rfl, hst⟩
    | call c k ih =>
      rcases ha s t c hp.1 hst with hs | ⟨hr, hst'⟩
      · exact .inl (stuck (k (h.answer s c).1) (h.answer s c).2 hs)
      · simp only [run_call]
        rw [hr]
        exact ih _ (hp.2 _) hst'
    | yield e k ih => exact ih hp (he s t e hst)

/-- A lifted program runs alike under two handlers that differ in what they do with events. -/
theorem run_lift (h : Handler C R E S) (h' : Handler C R Empty S)
    (ha : ∀ s c, h.answer s c = h'.answer s c) (p : Prog C R Empty X α) (s : S) :
    (p.lift : Prog C R E X α).run h s = p.run h' s := by
  induction p generalizing s with
  | done a => rfl
  | raise x => rfl
  | call c k ih =>
    simp only [lift_call, run_call]
    rw [ha, ih]
  | yield e _ _ => exact e.elim

/-- Two programs that end alike under one handler: equal states and equal exceptions, and results
that `Q` relates. -/
def RunsAlike (h : Handler C R E S) (Q : α → β → Prop) (p : Prog C R E X α) (q : Prog C R E X β) : Prop :=
  ∀ s, (p.run h s).2 = (q.run h s).2 ∧
    match (p.run h s).1, (q.run h s).1 with
    | .ok a, .ok b => Q a b
    | .error x, .error y => x = y
    | _, _ => False

theorem RunsAlike.refl (h : Handler C R E S) (p : Prog C R E X α) : RunsAlike h Eq p p := by
  intro s
  refine ⟨rfl, ?_⟩
  cases (p.run h s).1 <;> rfl

theorem RunsAlike.done {h : Handler C R E S} {Q : α → β → Prop} {a : α} {b : β} (hab : Q a b) :
    RunsAlike h Q (.done a : Prog C R E X α) (.done b) :=
  fun _ => ⟨rfl, hab⟩

theorem RunsAlike.raise {h : Handler C R E S} {Q : α → β → Prop} (x : X) :
    RunsAlike h Q (.raise x : Prog C R E X α) (.raise x) :=
  fun _ => ⟨rfl, rfl⟩

theorem RunsAlike.bind {h : Handler C R E S} {Q : α → β → Prop} {Q' : γ → δ → Prop}
    {p : Prog C R E X α} {q : Prog C R E X β} {f : α → Prog C R E X γ} {g : β → Prog C R E X δ}
    (hp : RunsAlike h Q p q) (hf : ∀ a b, Q a b → RunsAlike h Q' (f a) (g b)) :
    RunsAlike h Q' (p.bind f) (q.bind g) := by
  intro s
  obtain ⟨hs, hr⟩ := hp s
  rw [run_bind, run_bind]
  cases hpr : p.run h s with
  | mk o s₁ =>
    cases hqr : q.run h s with
    | mk o' s₂ =>
      rw [hpr, hqr] at hs hr
      cases hs
      cases o with
      | ok a =>
        cases o' with
        | ok b => exact hf a b hr s₁
        | error y => exact hr.elim
      | error x =>
        cases o' with
        | ok b => exact hr.elim
        | error y =>
          cases hr
          exact ⟨rfl, rfl⟩

theorem RunsAlike.catching {h : Handler C R E S} {Q : α → β → Prop} {p : Prog C R E X α}
    {q : Prog C R E X β} {f : X → Prog C R E X α} {g : X → Prog C R E X β} (hp : RunsAlike h Q p q)
    (hf : ∀ x, RunsAlike h Q (f x) (g x)) : RunsAlike h Q (p.catching f) (q.catching g) := by
  intro s
  obtain ⟨hs, hr⟩ := hp s
  rw [run_catching, run_catching]
  cases hpr : p.run h s with
  | mk o s₁ =>
    cases hqr : q.run h s with
    | mk o' s₂ =>
      rw [hpr, hqr] at hs hr
      cases hs
      cases o with
      | ok a =>
        cases o' with
        | ok b => exact ⟨rfl, hr⟩
        | error y => exact hr.elim
      | error x =>
        cases o' with
        | ok b => exact hr.elim
        | error y =>
          cases hr
          exact hf x s₁

/-- `Exec p t o`: with some answers `p` is observed to do `t` and then ends as `o` says. -/
inductive Exec : Prog C R E X α → List (Obs C R E) → Except X α → Prop where
  | done (a : α) : Exec (.done a) [] (.ok a)
  | raise (x : X) : Exec (.raise x) [] (.error x)
  | call {c : C} {k : R c → Prog C R E X α} (r : R c) {t : List (Obs C R E)} {o : Except X α}
      (tail : Exec (k r) t o) : Exec (.call c k) (.asked c r :: t) o
  | yield {e : E} {k : Prog C R E X α} {t : List (Obs C R E)} {o : Except X α}
      (tail : Exec k t o) : Exec (.yield e k) (.yielded e :: t) o

theorem exec_done {a : α} {t : List (Obs C R E)} {o : Except X α} :
    Exec (.done a) t o ↔ t = [] ∧ o = .ok a := by
  constructor
  · rintro ⟨⟩
    exact ⟨rfl, rfl⟩
  · rintro ⟨rfl, rfl⟩
    exact .done a

theorem exec_raise {x : X} {t : List (Obs C R E)} {o : Except X α} :
    Exec (.raise x) t o ↔ t = [] ∧ o = .error x := by
  constructor
  · rintro ⟨⟩
    exact ⟨rfl, rfl⟩
  · rintro ⟨rfl, rfl⟩
    exact .raise x

theorem exec_call {c : C} {k : R c → Prog C R E X α} {t : List (Obs C R E)} {o : Except X α} :
    Exec (.call c k) t o ↔ ∃ r t', t = .asked c r :: t' ∧ Exec (k r) t' o := by
  constructor
  · rintro (_ | _ | ⟨r, tail⟩)
    exact ⟨r, _, rfl, tail⟩
  · rintro ⟨r, t', rfl, tail⟩
    exact .call r tail

theorem exec_yield {e : E} {k : Prog C R E X α} {t : List (Obs C R E)} {o : Except X α} :
    Exec (.yield e k) t o ↔ ∃ t', t = .yielded e :: t' ∧ Exec k t' o := by
  constructor
  · rintro (_ | _ | _ | tail)
    exact ⟨_, rfl, tail⟩
  · rintro ⟨t', rfl, tail⟩
    exact .yield tail

/-- Sequential composition: the first part raises, or both parts are observed in turn. -/
theorem exec_bind {p : Prog C R E X α} {f : α → Prog C R E X β} {t : List (Obs C R E)}
    {o : Except X β} : Exec (p.bind f) t o ↔
      (∃ x, o = .error x ∧ Exec p t (.error x)) ∨
      ∃ a t₁ t₂, t = t₁ ++ t₂ ∧ Exec p t₁ (.ok a) ∧ Exec (f a) t₂ o := by
  induction p generalizing t with
  | done a =>
    simp only [done_bind, exec_done]
    constructor
    · intro h
      exact .inr ⟨a, [], t, rfl, ⟨rfl, rfl⟩, h⟩
    · rintro (⟨x, _, _, h⟩ | ⟨b, t₁, t₂, rfl, ⟨rfl, h⟩, hf⟩)
      · cases h
      · cases h
        exact hf
  | raise x =>
    simp only [raise_bind, exec_raise]
    constructor
    · rintro ⟨rfl, rfl⟩
      exact .inl ⟨x, rfl, rfl, rfl⟩
    · rintro (⟨y, rfl, rfl, h⟩ | ⟨b, t₁, t₂, _, ⟨_, h⟩, _⟩)
      · cases h
        exact ⟨rfl, rfl⟩
      · cases h
  | call c k ih =>
    simp only [call_bind, exec_call, ih]
    constructor
    · rintro ⟨r, t', rfl, ⟨x, rfl, h⟩ | ⟨a, t₁, t₂, rfl, h, hf⟩⟩
      · exact .inl ⟨x, rfl, r, t', rfl, h⟩
      · exact .inr ⟨a, .asked c r :: t₁, t₂, rfl, ⟨r, t₁, rfl, h⟩, hf⟩
    · rintro (⟨x, rfl, r, t', rfl, h⟩ | ⟨a, _, t₂, rfl, ⟨r, t₁, rfl, h⟩, hf⟩)
      · exact ⟨r, t', rfl, .inl ⟨x, rfl, h⟩⟩
      · exact ⟨r, t₁ ++ t₂, rfl, .inr ⟨a, t₁, t₂, rfl, h, hf⟩⟩
  | yield e k ih =>
    simp only [yield_bind, exec_yield, ih]
    constructor
    · rintro ⟨t', rfl, ⟨x, rfl, h⟩ | ⟨a, t₁, t₂, rfl, h, hf⟩⟩
      · exact .inl ⟨x, rfl, t', rfl, h⟩
      · exact .inr ⟨a, .yielded e :: t₁, t₂, rfl, ⟨t₁, rfl, h⟩, hf⟩
    · rintro (⟨x, rfl, t', rfl, h⟩ | ⟨a, _, t₂, rfl, ⟨t₁, rfl, h⟩, hf⟩)
      · exact ⟨t', rfl, .inl ⟨x, rfl, h⟩⟩
      · exact ⟨t₁ ++ t₂, rfl, .inr ⟨a, t₁, t₂, rfl, h, hf⟩⟩

theorem exec_catching {p : Prog C R E X α} {h : X → Prog C R E X α} {t : List (Obs C R E)}
    {o : Except X α} : Exec (p.catching h) t o ↔
      (∃ a, o = .ok a ∧ Exec p t (.ok a)) ∨
      ∃ x t₁ t₂, t = t₁ ++ t₂ ∧ Exec p t₁ (.error x) ∧ Exec (h x) t₂ o := by
  induction p generalizing t with
  | done a =>
    simp only [done_catching, exec_done]
    constructor
    · rintro ⟨rfl, rfl⟩
      exact .inl ⟨a, rfl, rfl, rfl⟩
    · rintro (⟨b, rfl, rfl, h⟩ | ⟨x, t₁, t₂, _, ⟨_, h⟩, _⟩)
      · cases h
        exact ⟨rfl, rfl⟩
      · cases h
  | raise x =>
    simp only [raise_catching, exec_raise]
    constructor
    · intro h
      exact .inr ⟨x, [], t, rfl, ⟨rfl, rfl⟩, h⟩
    · rintro (⟨a, _, _, h⟩ | ⟨y, t₁, t₂, rfl, ⟨rfl, h⟩, hf⟩)
      · cases h
      · cases h
        exact hf
  | call c k ih =>
    simp only [call_catching, exec_call, ih]
    constructor
    · rintro ⟨r, t', rfl, ⟨a, rfl, h⟩ | ⟨x, t₁, t₂, rfl, h, hf⟩⟩
      · exact .inl ⟨a, rfl, r, t', rfl, h⟩
      · exact .inr ⟨x, .asked c r :: t₁, t₂, rfl, ⟨r, t₁, rfl, h⟩, hf⟩
    · rintro (⟨a, rfl, r, t', rfl, h⟩ | ⟨x, _, t₂, rfl, ⟨r, t₁, rfl, h⟩, hf⟩)
      · exact ⟨r, t', rfl, .inl ⟨a, rfl, h⟩⟩
      · exact ⟨r, t₁ ++ t₂, rfl, .inr ⟨x, t₁, t₂, rfl, h, hf⟩⟩
  | yield e k ih =>
    simp only [yield_catching, exec_yield, ih]
    constructor
    · rintro ⟨t', rfl, ⟨a, rfl, h⟩ | ⟨x, t₁, t₂, rfl, h, hf⟩⟩
      · exact .inl ⟨a, rfl, t', rfl, h⟩
      · exact .inr ⟨x, .yielded e :: t₁, t₂, rfl, ⟨t₁, rfl, h⟩, hf⟩
    · rintro (⟨a, rfl, t', rfl, h⟩ | ⟨x, _, t₂, rfl, ⟨t₁, rfl, h⟩, hf⟩)
      · exact ⟨t', rfl, .inl ⟨a, rfl, h⟩⟩
      · exact ⟨t₁ ++ t₂, rfl, .inr ⟨x, t₁, t₂, rfl, h, hf⟩⟩

theorem exec_attempt {Y : Type} {p : Prog C R E X α} {t : List (Obs C R E)} {o : Except Y (Except X α)} :
    Exec (p.attempt : Prog C R E Y (Except X α)) t o ↔ ∃ o', o = .ok o' ∧ Exec p t o' := by
  induction p generalizing t with
  | done a =>
    refine ⟨?_, ?_⟩
    · intro h
      obtain ⟨ht, ho⟩ := exec_done.mp h
      exact ⟨_, ho, exec_done.mpr ⟨ht, rfl⟩⟩
    · intro h
      obtain ⟨o', ho, h⟩ := h
      obtain ⟨ht, ho'⟩ := exec_done.mp h
      rw [ho, ho']
      exact exec_done.mpr ⟨ht, rfl⟩
  | raise x =>
    refine ⟨?_, ?_⟩
    · intro h
      obtain ⟨ht, ho⟩ := exec_done.mp h
      exact ⟨_, ho, exec_raise.mpr ⟨ht, rfl⟩⟩
    · intro h
      obtain ⟨o', ho, h⟩ := h
      obtain ⟨ht, ho'⟩ := exec_raise.mp h
      rw [ho, ho']
      exact exec_done.mpr ⟨ht, rfl⟩
  | call c k ih =>
    simp only [attempt, exec_call, ih]
    refine ⟨?_, ?_⟩
    · intro h
      obtain ⟨r, t', ht, o', ho, he⟩ := h
      exact ⟨o', ho, r, t', ht, he⟩
    · intro h
      obtain ⟨o', ho, r, t', ht, he⟩ := h
      exact ⟨r, t', ht, o', ho, he⟩
  | yield e k ih =>
    simp only [attempt, exec_yield, ih]
    refine ⟨?_, ?_⟩
    · intro h
      obtain ⟨t', ht, o', ho, he⟩ := h
      exact ⟨o', ho, t', ht, he⟩
    · intro h
      obtain ⟨o', ho, t', ht, he⟩ := h
      exact ⟨t', ht, o', ho, he⟩

theorem exec_lift {p : Prog C R Empty X α} {t : List (Obs C R E)} {o : Except X α} :
    Exec (p.lift : Prog C R E X α) t o ↔ ∃ t', t = t'.map Obs.relabel ∧ Exec p t' o := by
  induction p generalizing t with
  | done a =>
    simp only [lift_done, exec_done]
    refine ⟨fun h => ⟨[], h.1, rfl, h.2⟩, ?_⟩
    intro h
    obtain ⟨t', ht, ht', ho⟩ := h
    rw [ht, ht']
    exact ⟨rfl, ho⟩
  | raise x =>
    simp only [lift_raise, exec_raise]
    refine ⟨fun h => ⟨[], h.1, rfl, h.2⟩, ?_⟩
    intro h
    obtain ⟨t', ht, ht', ho⟩ := h
    rw [ht, ht']
    exact ⟨rfl, ho⟩
  | call c k ih =>
    simp only [lift_call, exec_call, ih]
    refine ⟨?_, ?_⟩
    · intro h
      obtain ⟨r, t₁, ht, t', ht', he⟩ := h
      exact ⟨.asked c r :: t', by rw [ht, ht']; rfl, r, t', rfl, he⟩
    · intro h
      obtain ⟨t', ht, r, t₁, ht', he⟩ := h
      exact ⟨r, t₁.map Obs.relabel, by rw [ht, ht']; rfl, t₁, rfl, he⟩
  | yield e _ _ => exact e.elim

/-- A loop over a generator that first acts: the action raises and ends the generator, or the loop goes on. -/
theorem exec_forEach_lift_bind {p : Prog C R Empty X α} {g : α → Prog C R E X Unit} {s : S}
    {body : S → E → Prog C R E' X S} {fin : S → Except X Unit → Prog C R E' X β} {t : List (Obs C R E')}
    {o : Except X β} (h : Exec (((p.lift : Prog C R E X α).bind g).forEach s body fin) t o) :
    (∃ x t₁ t₂, t = t₁.map Obs.relabel ++ t₂ ∧ Exec p t₁ (.error x) ∧ Exec (fin s (.error x)) t₂ o) ∨
      ∃ a t₁ t₂, t = t₁.map Obs.relabel ++ t₂ ∧ Exec p t₁ (.ok a) ∧ Exec ((g a).forEach s body fin) t₂ o := by
  rw [forEach_lift_bind] at h
  rcases exec_bind.mp h with ⟨x, -, h⟩ | ⟨outcome, t₁, t₂, ht, hp, h⟩
  · obtain ⟨t', -, h⟩ := exec_lift.mp h
    obtain ⟨o', ho', -⟩ := exec_attempt.mp h
    cases ho'
  · obtain ⟨t', ht₁, hp⟩ := exec_lift.mp hp
    obtain ⟨o', ho', hp⟩ := exec_attempt.mp hp
    cases ho'
    rw [ht, ht₁]
    cases outcome with
    | ok a => exact .inr ⟨a, t', t₂, rfl, hp, h⟩
    | error x => exact .inl ⟨x, t', t₂, rfl, hp, h⟩

theorem filterMap_relabel (t : List (Obs C R Empty)) :
    (t.map (Obs.relabel : Obs C R Empty → Obs C R E)).filterMap Obs.event? = [] := by
  rw [List.filterMap_map, List.filterMap_eq_nil_iff]
  exact fun o _ => Obs.event?_relabel o

theorem exec_asks {P : C → Prop} {p : Prog C R E X α} (hp : p.Asks P) {t : List (Obs C R E)}
    {o : Except X α} (h : Exec p t o) : ∀ c r, .asked c r ∈ t → P c := by
  induction h with
  | done a => exact fun c r hm => absurd hm List.not_mem_nil
  | raise x => exact fun c r hm => absurd hm List.not_mem_nil
  | call r tail ih =>
    intro c r' hm
    rcases List.mem_cons.mp hm with heq | hm
    · cases heq
      exact hp.1
    · exact ih (hp.2 r) c r' hm
  | yield tail ih =>
    intro c r' hm
    rcases List.mem_cons.mp hm with heq | hm
    · cases heq
    · exact ih hp c r' hm

/-- A program's trace settles how it goes: none of its traces continues another. -/
theorem exec_prefix_unique {p : Prog C R E X α} {t t' s s' : List (Obs C R E)} {o o' : Except X α}
    (h : Exec p t o) (h' : Exec p t' o') (heq : t ++ s = t' ++ s') : t = t' ∧ o = o' ∧ s = s' := by
  induction h generalizing t' with
  | done a =>
    obtain ⟨rfl, rfl⟩ := exec_done.mp h'
    exact ⟨rfl, rfl, heq⟩
  | raise x =>
    obtain ⟨rfl, rfl⟩ := exec_raise.mp h'
    exact ⟨rfl, rfl, heq⟩
  | call r tail ih =>
    obtain ⟨r', t'', rfl, tail'⟩ := exec_call.mp h'
    simp only [List.cons_append, List.cons.injEq, Obs.asked.injEq, true_and] at heq
    obtain ⟨hr, hrest⟩ := heq
    obtain rfl := eq_of_heq hr
    obtain ⟨rfl, ho, hs⟩ := ih tail' hrest
    exact ⟨rfl, ho, hs⟩
  | yield tail ih =>
    obtain ⟨t'', rfl, tail'⟩ := exec_yield.mp h'
    simp only [List.cons_append, List.cons.injEq, true_and] at heq
    obtain ⟨rfl, ho, hs⟩ := ih tail' heq
    exact ⟨rfl, ho, hs⟩

def Returns : Prog C R E X α → Prop
  | .done _ => True
  | .raise _ => False
  | .call _ k => ∀ r, (k r).Returns
  | .yield _ k => k.Returns

theorem Returns.bind {p : Prog C R E X α} {f : α → Prog C R E X β} (hp : p.Returns) (hf : ∀ a, (f a).Returns) :
    (p.bind f).Returns := by
  induction p with
  | done a => exact hf a
  | raise x => exact hp.elim
  | call c k ih => exact fun r => ih r (hp r)
  | yield e k ih => exact ih hp

theorem exec_returns {p : Prog C R E X α} (hp : p.Returns) {t : List (Obs C R E)} {o : Except X α}
    (h : Exec p t o) : ∃ a, o = .ok a := by
  induction h with
  | done a => exact ⟨a, rfl⟩
  | raise x => exact hp.elim
  | call r tail ih => exact ih (hp r)
  | yield tail ih => exact ih hp

theorem exec_ofEvents {es : List E} {o o' : Except X Unit} {t : List (Obs C R E)} :
    Exec (ofEvents es o) t o' ↔ t = es.map .yielded ∧ o' = o := by
  induction es generalizing t with
  | nil => cases o <;> simp [ofEvents, exec_done, exec_raise]
  | cons e es ih =>
    simp only [ofEvents, exec_yield, ih, List.map_cons]
    constructor
    · rintro ⟨_, rfl, rfl, rfl⟩
      exact ⟨rfl, rfl⟩
    · rintro ⟨rfl, rfl⟩
      exact ⟨_, rfl, rfl, rfl⟩

end Prog

end AIRuntime.EffectPrograms
