import AIRuntime.StreamTraces

set_option autoImplicit false

/-! `execute` and `stream` make the same routing decisions on one script of attempts. -/
namespace AIRuntime.RoutingAgreement

open EffectPrograms Failures GenerationContracts ModelRouting Collaborators ProviderExecution RouteSearch
  ExecutorSemantics StreamTraces

inductive Decision where
  | hookCall (route : ModelRoute)
  | resolution (model : String)
  | attempt (provider : String) (request : GenerationRequest)
  | backOff (seconds : ℚ)

/-- A provider attempt: it fails before its first event, or it succeeds with at least one event. -/
inductive Attempt where
  | fails (err : Exn)
  | succeeds (first : GenerationStreamEvent) (rest : List GenerationStreamEvent)
      (response : GenerationResponse)

def Attempt.generated : Attempt → Except Exn GenerationResponse
  | .fails err => .error err
  | .succeeds _ _ response => .ok response

def Attempt.streamed : Attempt → StreamScript
  | .fails err => ⟨[], .error err⟩
  | .succeeds first rest _ => ⟨first :: rest, .ok ()⟩

/-- Outcomes of hooks and attempts, given all decisions made before; `other` answers what neither
method asks. -/
structure Script where
  hook : List Decision → ModelRoute → Except Exn Unit
  attempt : List Decision → String → GenerationRequest → Attempt
  other : (c : Command) → Response c

structure Transcript where
  decisions : List Decision
  events : List ProviderStreamEvent

def Script.answer (script : Script) (s : Transcript) : (c : Command) → Response c × Transcript
  | .hook route => (script.hook s.decisions route, { s with decisions := s.decisions ++ [.hookCall route] })
  | .resolve model => ((), { s with decisions := s.decisions ++ [.resolution model] })
  | .generate provider request => ((script.attempt s.decisions provider request).generated,
      { s with decisions := s.decisions ++ [.attempt provider request] })
  | .stream provider request => ((script.attempt s.decisions provider request).streamed,
      { s with decisions := s.decisions ++ [.attempt provider request] })
  | .sleep seconds => ((), { s with decisions := s.decisions ++ [.backOff seconds] })
  | c => (script.other c, s)

def Script.forAction (script : Script) : Handler Command Response Empty Transcript where
  answer := script.answer
  emit _ e := e.elim

def Script.forStream (script : Script) : Handler Command Response ProviderStreamEvent Transcript where
  answer := script.answer
  emit s e := { s with events := s.events ++ [e] }

section Agreement

variable {self : ProviderExecutor} {script : Script}

def Succeeded (opened : Opened) : Prop := opened.events ≠ [] ∧ opened.ending = .ok ()

theorem once_alike (provider : String) (request : GenerationRequest) :
    Prog.RunsAlike script.forAction (fun _ opened => Succeeded opened)
      (generateOnce provider request) (openOnce provider request) := by
  intro s
  have hg : (generateOnce provider request).run script.forAction s =
      ((script.attempt s.decisions provider request).generated,
        { s with decisions := s.decisions ++ [.attempt provider request] }) :=
    Prog.run_ofExcept _ _ _
  have ho : (openOnce provider request).run script.forAction s =
      (Opened.ofScript (script.attempt s.decisions provider request).streamed,
        { s with decisions := s.decisions ++ [.attempt provider request] }) :=
    Prog.run_ofExcept _ _ _
  rw [hg, ho]
  cases script.attempt s.decisions provider request with
  | fails err => exact ⟨rfl, rfl⟩
  | succeeds first rest response => exact ⟨rfl, by simp [Opened.events], rfl⟩

theorem persist_alike {α β : Type} {Q : α → β → Prop} {p : Action α} {q : Action β}
    (h : Prog.RunsAlike script.forAction Q p q) (more made : ℕ) :
    Prog.RunsAlike script.forAction Q (persist self p more made) (persist self q more made) := by
  induction more generalizing made with
  | zero => exact h
  | succ more ih =>
    refine h.catching fun err => ?_
    cases err with
    | provider e =>
      cases hr : e.retryable with
      | false => simpa [hr] using Prog.RunsAlike.raise (Exn.provider e)
      | true =>
        simp only [hr, ↓reduceIte]
        exact (Prog.RunsAlike.refl _ _).bind fun _ _ _ => ih (made + 1)
    | _ => exact Prog.RunsAlike.raise _

def SameOutcome {α : Type} : (α ⊕ GenerationResponse × ModelRoute) → (α ⊕ Opened × ModelRoute) → Prop
  | .inl a, .inl b => a = b
  | .inr (_, route), .inr (opened, route') => route = route' ∧ Succeeded opened
  | _, _ => False

/-- Caught provider errors that are equal, or results that `Q` relates. -/
def SameCaught {α β : Type} (Q : α → β → Prop) : Except ProviderError α → Except ProviderError β → Prop
  | .ok a, .ok b => Q a b
  | .error e, .error e' => e = e'
  | _, _ => False

theorem catchProviderError_alike {α β : Type} {Q : α → β → Prop} {p : Action α} {q : Action β}
    (h : Prog.RunsAlike script.forAction Q p q) :
    Prog.RunsAlike script.forAction (SameCaught Q) (catchProviderError p) (catchProviderError q) := by
  have hb : Prog.RunsAlike script.forAction (SameCaught Q) (p.bind fun a => .done (.ok a))
      (q.bind fun b => .done (.ok b)) :=
    h.bind fun a b hab => Prog.RunsAlike.done hab
  refine hb.catching fun err => ?_
  cases err with
  | provider e => exact Prog.RunsAlike.done rfl
  | _ => exact Prog.RunsAlike.raise _

theorem visit_alike (before_route : Option RouteHook) (request : GenerationRequest) (route : ModelRoute) :
    Prog.RunsAlike script.forAction SameOutcome (visit self before_route request generateOnce route)
      (visit self before_route request openOnce route) := by
  unfold visit
  refine (Prog.RunsAlike.refl _ _).bind fun admitted admitted' ha => ?_
  cases ha
  cases admitted with
  | false => exact Prog.RunsAlike.done rfl
  | true =>
    refine (Prog.RunsAlike.refl _ _).bind fun _ _ _ => ?_
    cases hp : self.model_router.providers route.provider with
    | false => simpa [hp] using Prog.RunsAlike.done (by rfl)
    | true =>
      simp only [↓reduceIte]
      refine (catchProviderError_alike (persist_alike (once_alike _ _) _ _)).bind fun a b hab => ?_
      cases a with
      | error e =>
        cases b with
        | error e' =>
          cases hab
          exact Prog.RunsAlike.done rfl
        | ok opened => exact hab.elim
      | ok response =>
        cases b with
        | error e' => exact hab.elim
        | ok opened => exact Prog.RunsAlike.done ⟨rfl, hab⟩

theorem explore_alike (before_route : Option RouteHook) (request : GenerationRequest)
    (routes : List ModelRoute) :
    Prog.RunsAlike script.forAction SameOutcome (explore self before_route request generateOnce routes)
      (explore self before_route request openOnce routes) := by
  induction routes with
  | nil => exact Prog.RunsAlike.done rfl
  | cons route rest ih =>
    refine (visit_alike before_route request route).bind fun a b hab => ?_
    cases a with
    | inr served =>
      cases b with
      | inr served' => exact Prog.RunsAlike.done hab
      | inl v => exact hab.elim
    | inl v =>
      cases b with
      | inr served' => exact hab.elim
      | inl v' =>
        cases hab
        refine ih.bind fun later later' hlater => ?_
        cases later with
        | inl vs =>
          cases later' with
          | inl vs' =>
            cases hlater
            exact Prog.RunsAlike.done rfl
          | inr served' => exact hlater.elim
        | inr served =>
          cases later' with
          | inl vs' => exact hlater.elim
          | inr served' => exact Prog.RunsAlike.done hlater

theorem search_alike (self : ProviderExecutor) (script : Script) (requested_model : String) (request : GenerationRequest)
    (before_route : Option RouteHook) (routes : Except Exn (List ModelRoute)) :
    Prog.RunsAlike script.forAction (fun a b => a.2 = b.2 ∧ Succeeded b.1)
      (search self requested_model request before_route generateOnce routes)
      (search self requested_model request before_route openOnce routes) := by
  unfold search
  refine (Prog.RunsAlike.refl _ _).bind fun rs rs' hrs => ?_
  cases hrs
  refine (explore_alike before_route request rs).bind fun a b hab => ?_
  cases a with
  | inl vs =>
    cases b with
    | inl vs' =>
      cases hab
      exact Prog.RunsAlike.raise _
    | inr served' => exact hab.elim
  | inr served =>
    cases b with
    | inl vs' => exact hab.elim
    | inr served' => exact Prog.RunsAlike.done hab

theorem run_ofEvents (events : List ProviderStreamEvent) (o : Except Exn Unit) (s : Transcript) :
    (Prog.ofEvents events o : Gen ProviderStreamEvent Unit).run script.forStream s =
      (o, { s with events := s.events ++ events }) := by
  induction events generalizing s with
  | nil => cases o <;> simp [Prog.ofEvents]
  | cons e es ih =>
    change Prog.run script.forStream (Prog.ofEvents es o) { s with events := s.events ++ [e] } = _
    rw [ih]
    simp

theorem answer_events (s : Transcript) (c : Command) : (script.answer s c).2.events = s.events := by
  cases c <;> rfl

theorem run_events (script : Script) {α : Type} (p : Action α) (s : Transcript) :
    (p.run script.forAction s).2.events = s.events := by
  have hall : p.Asks fun _ => True := by
    induction p with
    | done a => trivial
    | raise x => trivial
    | call c k ih => exact ⟨trivial, ih⟩
    | yield e _ _ => exact e.elim
  refine Prog.run_invariant (fun s' : Transcript => s'.events = s.events) ?_ ?_ hall rfl
  · intro s' c _ h
    exact (answer_events s' c).trans h
  · intro _ e
    exact e.elim

end Agreement

/-- Equal decisions; the same serving route, which labels every event of the stream, or the same error
and a stream without events. -/
def SameStory (executed : Except Exn ProviderExecutionResult × Transcript)
    (streamed : Except Exn Unit × Transcript) : Prop :=
  executed.2.decisions = streamed.2.decisions ∧
    match executed.1, streamed.1 with
    | .ok result, .ok () => streamed.2.events ≠ [] ∧ ∀ event ∈ streamed.2.events, event.route = result.route
    | .error err, .error err' => err = err' ∧ streamed.2.events = []
    | _, _ => False

/-- On one script of hooks and attempts both methods make the same decisions and tell the same story. -/
theorem same_routing_decisions (self : ProviderExecutor) (script : Script) (requested_model : String)
    (request : GenerationRequest) (hooked : Bool) :
    SameStory
      ((self.execute requested_model request (if hooked then some observedHook else none)).run
        script.forAction ⟨[], []⟩)
      ((self.stream requested_model request (if hooked then some observedHook else none)).run
        script.forStream ⟨[], []⟩) := by
  generalize (if hooked then some observedHook else none) = before_route
  obtain ⟨hstate, hresult⟩ := search_alike self script requested_model request
    before_route (self.routesFor requested_model) ⟨[], []⟩
  have hevents := run_events script
    (search self requested_model request before_route openOnce (self.routesFor requested_model)) ⟨[], []⟩
  rw [execute_eq, stream_eq, Prog.run_bind, Prog.run_bind,
    Prog.run_lift script.forStream script.forAction (fun _ _ => rfl)]
  cases ha : Prog.run script.forAction
      (search self requested_model request before_route generateOnce (self.routesFor requested_model))
      ⟨[], []⟩ with
  | mk oa sa =>
    cases hb : Prog.run script.forAction
        (search self requested_model request before_route openOnce (self.routesFor requested_model))
        ⟨[], []⟩ with
    | mk ob sb =>
      rw [ha, hb] at hstate hresult
      rw [hb] at hevents
      cases oa with
      | error err =>
        cases ob with
        | error err' => exact ⟨congrArg _ hstate, hresult, hevents⟩
        | ok served => exact hresult.elim
      | ok result =>
        cases ob with
        | error err' => exact hresult.elim
        | ok served =>
          obtain ⟨hroute, hne, hend⟩ := hresult
          change sb.events = [] at hevents
          simp only [play, run_ofEvents, hend]
          have hdecisions : sa.decisions = sb.decisions := congrArg Transcript.decisions hstate
          refine ⟨hdecisions, ?_, ?_⟩
          · simpa [hevents] using hne
          · intro event hmem
            rw [hevents, List.nil_append] at hmem
            obtain ⟨e, -, he⟩ := List.mem_map.mp hmem
            rw [← he]
            exact hroute.symm

end AIRuntime.RoutingAgreement
