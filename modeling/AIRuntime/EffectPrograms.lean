import Mathlib.Logic.Basic

set_option autoImplicit false

/-!
Programs over collaborators. A program is the tree of what it does next: it ends, raises, asks
a collaborator and goes on with the answer, or (as a generator) hands an event to its consumer.
Nothing here says what a collaborator answers; the semantics are in the modules after this one.
-/
namespace AIRuntime.EffectPrograms

/-- `C` are the commands, `R c` the answers to `c`, `E` the events a generator yields, `X` the
exceptions. A program that is no generator has `E = Empty`. -/
inductive Prog (C : Type) (R : C → Type) (E X α : Type) : Type where
  | done (a : α)
  | raise (x : X)
  | call (c : C) (k : R c → Prog C R E X α)
  | yield (e : E) (k : Prog C R E X α)

namespace Prog

variable {C : Type} {R : C → Type} {E E' X α β γ S : Type}

def bind : Prog C R E X α → (α → Prog C R E X β) → Prog C R E X β
  | .done a, f => f a
  | .raise x, _ => .raise x
  | .call c k, f => .call c fun r => (k r).bind f
  | .yield e k, f => .yield e (k.bind f)

/-- `try: p except: h`. The handler sees every exception of `p` and re-raises what is not its own. -/
def catching : Prog C R E X α → (X → Prog C R E X α) → Prog C R E X α
  | .done a, _ => .done a
  | .raise x, h => h x
  | .call c k, h => .call c fun r => (k r).catching h
  | .yield e k, h => .yield e (k.catching h)

instance : Monad (Prog C R E X) where
  pure := .done
  bind := bind

def ask (c : C) : Prog C R E X (R c) := .call c .done

def ofExcept : Except X α → Prog C R E X α
  | .ok a => .done a
  | .error x => .raise x

def lift : Prog C R Empty X α → Prog C R E X α
  | .done a => .done a
  | .raise x => .raise x
  | .call c k => .call c fun r => (k r).lift
  | .yield e _ => e.elim

/-- `async for e in g: body`, with the loop's local variables in `s`; `fin` is what stands after
the loop, told how the generator ended and what the variables hold then. -/
def forEach : Prog C R E X Unit → S → (S → E → Prog C R E' X S) →
    (S → Except X Unit → Prog C R E' X β) → Prog C R E' X β
  | .done (), s, _, fin => fin s (.ok ())
  | .raise x, s, _, fin => fin s (.error x)
  | .call c k, s, body, fin => .call c fun r => (k r).forEach s body fin
  | .yield e k, s, body, fin => (body s e).bind fun s' => k.forEach s' body fin

/-- `await anext(g)`: the first event with the rest of the generator, `none` when it stops. -/
def anext : Prog C R E X Unit → Prog C R E' X (Option (E × Prog C R E X Unit))
  | .done () => .done none
  | .raise x => .raise x
  | .call c k => .call c fun r => (k r).anext
  | .yield e k => .done (some (e, k))

/-- What stands after a loop whose first turn was awaited before it: what ends the generator then is not the loop's. -/
def onceStarted (empty : Prog C R E X β) (fin : Except X Unit → Prog C R E X β) :
    Bool → Except X Unit → Prog C R E X β
  | true, ended => fin ended
  | false, .ok () => empty
  | false, .error x => .raise x

def attempt {Y : Type} : Prog C R E X α → Prog C R E Y (Except X α)
  | .done a => .done (.ok a)
  | .raise x => .done (.error x)
  | .call c k => .call c fun r => (k r).attempt
  | .yield e k => .yield e k.attempt

/-- The generator that yields a list of events and then ends as `o` says. -/
def ofEvents : List E → Except X Unit → Prog C R E X Unit
  | [], o => ofExcept o
  | e :: es, o => .yield e (ofEvents es o)

@[simp] theorem pure_eq (a : α) : (pure a : Prog C R E X α) = .done a := rfl

@[simp] theorem bind_eq (p : Prog C R E X α) (f : α → Prog C R E X β) : (p >>= f) = p.bind f := rfl

@[simp] theorem done_bind (a : α) (f : α → Prog C R E X β) : (done a).bind f = f a := rfl

@[simp] theorem raise_bind (x : X) (f : α → Prog C R E X β) : (raise x).bind f = raise x := rfl

@[simp] theorem call_bind (c : C) (k : R c → Prog C R E X α) (f : α → Prog C R E X β) :
    (call c k).bind f = call c fun r => (k r).bind f := rfl

@[simp] theorem yield_bind (e : E) (k : Prog C R E X α) (f : α → Prog C R E X β) :
    (yield e k).bind f = yield e (k.bind f) := rfl

@[simp] theorem done_catching (a : α) (h : X → Prog C R E X α) : (done a).catching h = done a := rfl

@[simp] theorem raise_catching (x : X) (h : X → Prog C R E X α) : (raise x).catching h = h x := rfl

@[simp] theorem call_catching (c : C) (k : R c → Prog C R E X α) (h : X → Prog C R E X α) :
    (call c k).catching h = call c fun r => (k r).catching h := rfl

@[simp] theorem yield_catching (e : E) (k : Prog C R E X α) (h : X → Prog C R E X α) :
    (yield e k).catching h = yield e (k.catching h) := rfl

@[simp] theorem ask_bind (c : C) (f : R c → Prog C R E X β) : (ask c).bind f = call c f := rfl

@[simp] theorem ofExcept_ok (a : α) : (ofExcept (.ok a) : Prog C R E X α) = .done a := rfl

@[simp] theorem ofExcept_error (x : X) : (ofExcept (.error x) : Prog C R E X α) = .raise x := rfl

@[simp] theorem bind_done (p : Prog C R E X α) : p.bind done = p := by
  induction p with
  | done a => rfl
  | raise x => rfl
  | call c k ih => simp only [call_bind, ih]
  | yield e k ih => simp only [yield_bind, ih]

theorem bind_assoc (p : Prog C R E X α) (f : α → Prog C R E X β) (g : β → Prog C R E X γ) :
    (p.bind f).bind g = p.bind fun a => (f a).bind g := by
  induction p with
  | done a => rfl
  | raise x => rfl
  | call c k ih => simp only [call_bind, ih]
  | yield e k ih => simp only [yield_bind, ih]

instance : LawfulMonad (Prog C R E X) :=
  LawfulMonad.mk' _ bind_done (fun _ _ => rfl) bind_assoc

@[simp] theorem lift_done (a : α) : (lift (done a) : Prog C R E X α) = done a := rfl

@[simp] theorem lift_raise (x : X) : (lift (raise x) : Prog C R E X α) = raise x := rfl

@[simp] theorem lift_call (c : C) (k : R c → Prog C R Empty X α) :
    (lift (call c k) : Prog C R E X α) = call c fun r => (k r).lift := rfl

theorem lift_bind (p : Prog C R Empty X α) (f : α → Prog C R Empty X β) :
    (lift (p.bind f) : Prog C R E X β) = p.lift.bind fun a => (f a).lift := by
  induction p with
  | done a => rfl
  | raise x => rfl
  | call c k ih => simp only [call_bind, lift_call, ih]
  | yield e _ _ => exact e.elim

theorem bind_congr {p : Prog C R E X α} {f g : α → Prog C R E X β} (h : ∀ a, f a = g a) :
    p.bind f = p.bind g :=
  congrArg p.bind (funext h)

theorem attempt_bind {p : Prog C R E X α} {f : α → Prog C R E X β} :
    ((p.bind f).attempt : Prog C R E X (Except X β)) =
      p.attempt.bind fun o =>
        match o with
        | .ok a => (f a).attempt
        | .error x => .done (.error x) := by
  induction p with
  | done a => rfl
  | raise x => rfl
  | call c k ih => exact congrArg (call c) (funext ih)
  | yield e k ih => exact congrArg (yield e) ih

theorem catching_eq_attempt (p : Prog C R E X α) (h : X → Prog C R E X α) :
    p.catching h = p.attempt.bind fun o =>
      match o with
      | .ok a => .done a
      | .error x => h x := by
  induction p with
  | done a => rfl
  | raise x => rfl
  | call c k ih => exact congrArg (call c) (funext ih)
  | yield e k ih => exact congrArg (yield e) ih

theorem forEach_lift_bind (p : Prog C R Empty X α) (g : α → Prog C R E X Unit) (s : S)
    (body : S → E → Prog C R E' X S) (fin : S → Except X Unit → Prog C R E' X β) :
    ((p.lift : Prog C R E X α).bind g).forEach s body fin =
      (p.attempt : Prog C R Empty X (Except X α)).lift.bind fun o =>
        match o with
        | .ok a => (g a).forEach s body fin
        | .error x => fin s (.error x) := by
  induction p with
  | done a => rfl
  | raise x => rfl
  | call c k ih => exact congrArg (call c) (funext ih)
  | yield e _ _ => exact e.elim

/-- Looping over a list of events and passing each one on; the flag tells whether there was any. -/
theorem forEach_ofEvents (f : E → E') (es : List E) (o : Except X Unit) (started : Bool)
    (fin : Bool → Except X Unit → Prog C R E' X β) :
    (ofEvents es o : Prog C R E X Unit).forEach started (fun _ e => .yield (f e) (.done true)) fin =
      es.foldr (fun e k => .yield (f e) k) (fin (started || !es.isEmpty) o) := by
  induction es generalizing started with
  | nil => cases o <;> simp [ofEvents, forEach]
  | cons e es ih =>
    change yield (f e) ((ofEvents es o).forEach true _ fin) = _
    rw [ih true]
    simp

theorem forEach_started (p : Prog C R E X Unit) (body : E → Prog C R E' X Unit)
    (fin : Bool → Except X Unit → Prog C R E' X β) :
    p.forEach true (fun _ e => (body e).bind fun _ => .done true) fin =
      p.forEach () (fun _ e => body e) fun _ ended => fin true ended := by
  induction p with
  | done a => rfl
  | raise x => rfl
  | call c k ih => exact congrArg (call c) (funext ih)
  | yield e k ih =>
    change ((body e).bind fun _ => done true).bind _ = (body e).bind _
    rw [bind_assoc]
    exact bind_congr fun _ => ih

theorem anext_bind_forEach (p : Prog C R E X Unit) (body : E → Prog C R E' X Unit) (empty : Prog C R E' X β)
    (fin : Except X Unit → Prog C R E' X β) :
    (p.anext.bind fun got =>
      match got with
      | none => empty
      | some (e, rest) => (body e).bind fun _ => rest.forEach () (fun _ e => body e) fun _ ended => fin ended) =
    p.forEach false (fun _ e => (body e).bind fun _ => .done true) (onceStarted empty fin) := by
  induction p with
  | done a => rfl
  | raise x => rfl
  | call c k ih => exact congrArg (call c) (funext ih)
  | yield e k ih =>
    change (body e).bind _ = ((body e).bind fun _ => done true).bind _
    rw [bind_assoc]
    exact bind_congr fun _ => (forEach_started k body (onceStarted empty fin)).symm

theorem ofEvents_eq_foldr (es : List E) (o : Except X Unit) :
    (ofEvents es o : Prog C R E X Unit) = es.foldr (fun e k => .yield e k) (ofExcept o) := by
  induction es with
  | nil => rfl
  | cons e es ih => exact congrArg (yield e) ih

end Prog

end AIRuntime.EffectPrograms
