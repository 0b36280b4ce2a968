import AIRuntime.ExecutorSemantics
import AIRuntime.SearchRules

set_option autoImplicit false

/-! What an observer sees of `ProviderExecutor.stream`: quiet attempts, then the events of one. -/
namespace AIRuntime.StreamTraces

open EffectPrograms Failures GenerationContracts ModelRouting Collaborators ProviderExecution RouteSearch
  SearchRules ExecutorSemantics

/-- A hook whose outcome its caller decides. -/
def observedHook : RouteHook := fun route => (Command.hook route).ask.bind Prog.ofExcept

def OpensNone (c : Command) : Prop := ∀ provider request, c ≠ .stream provider request

def Quiet {E : Type} (t : List (Observation E)) : Prop :=
  ∀ provider request script, .asked (.stream provider request) script ∈ t → script.events = []

/-- The trace is quiet up to its last step, which opens `script` on `route`. -/
def Opens {E : Type} (t : List (Observation E)) (route : ModelRoute) (request : GenerationRequest)
    (script : StreamScript) : Prop :=
  ∃ pre, t = pre ++ [.asked (.stream route.provider (request.withModel route.model route.model_ok)) script] ∧
    Quiet pre

section Quiet

variable {E : Type}

theorem Quiet.nil : Quiet ([] : List (Observation E)) :=
  fun _ _ _ h => absurd h List.not_mem_nil

theorem Quiet.append {t₁ t₂ : List (Observation E)} (h₁ : Quiet t₁) (h₂ : Quiet t₂) : Quiet (t₁ ++ t₂) := by
  intro provider request script h
  rcases List.mem_append.mp h with h | h
  · exact h₁ provider request script h
  · exact h₂ provider request script h

theorem quiet_of_asks {α : Type} {p : Action α} (hp : p.Asks OpensNone) {t : List (Observation Empty)}
    {o : Except Exn α} (h : Prog.Exec p t o) : Quiet t := by
  intro provider request script hm
  exact absurd rfl (Prog.exec_asks hp h _ _ hm provider request)

theorem Quiet.relabel {t : List (Observation Empty)} (h : Quiet t) :
    Quiet (t.map Obs.relabel : List (Observation E)) := by
  intro provider request script hm
  obtain ⟨obs, hobs, heq⟩ := List.mem_map.mp hm
  cases obs with
  | asked c r =>
    cases heq
    exact h provider request script hobs
  | yielded e => exact e.elim

theorem Opens.prepend {t₁ t₂ : List (Observation E)} {route : ModelRoute} {request : GenerationRequest}
    {script : StreamScript} (h₁ : Quiet t₁) (h₂ : Opens t₂ route request script) :
    Opens (t₁ ++ t₂) route request script := by
  obtain ⟨pre, ht, hpre⟩ := h₂
  exact ⟨t₁ ++ pre, by rw [ht, List.append_assoc], h₁.append hpre⟩

end Quiet

section Attempts

variable {self : ProviderExecutor} {before_route : Option RouteHook}

def Attempted (provider : String) (request : GenerationRequest) (t : List (Observation Empty)) :
    Except Exn Opened → Prop
  | .error _ => Quiet t
  | .ok opened => ∃ pre script, t = pre ++ [.asked (.stream provider request) script] ∧ Quiet pre ∧
      Opened.ofScript script = .ok opened

theorem ofScript_error {script : StreamScript} {err : Exn} (h : Opened.ofScript script = .error err) :
    script.events = [] := by
  obtain ⟨events, ending⟩ := script
  cases events with
  | nil => rfl
  | cons e es => cases h

theorem ofScript_ok {script : StreamScript} {opened : Opened} (h : Opened.ofScript script = .ok opened) :
    script.events = opened.events ∧ script.ending = opened.ending := by
  obtain ⟨events, ending⟩ := script
  cases events with
  | nil =>
    cases ending with
    | ok u => cases h; exact ⟨rfl, rfl⟩
    | error err => cases h
  | cons e es => cases h; exact ⟨rfl, rfl⟩

theorem openOnce_attempted {provider : String} {request : GenerationRequest}
    {t : List (Observation Empty)} {o : Except Exn Opened} (h : Prog.Exec (openOnce provider request) t o) :
    Attempted provider request t o := by
  obtain ⟨script, t', ht, h⟩ := Prog.exec_call.mp h
  change Prog.Exec (Prog.ofExcept (Opened.ofScript script)) t' o at h
  cases hs : Opened.ofScript script with
  | ok opened =>
    rw [hs] at h
    obtain ⟨ht', ho⟩ := Prog.exec_done.mp h
    rw [ho, ht, ht']
    exact ⟨[], script, rfl, Quiet.nil, hs⟩
  | error err =>
    rw [hs] at h
    obtain ⟨ht', ho⟩ := Prog.exec_raise.mp h
    rw [ho, ht, ht']
    intro p r s hm
    cases List.mem_singleton.mp hm
    exact ofScript_error hs

theorem sleep_opensNone (d : ℚ) : OpensNone (.sleep d) := by
  intro provider request h
  cases h

theorem Attempted.prepend {provider : String} {request : GenerationRequest}
    {t₁ t₂ : List (Observation Empty)} {o : Except Exn Opened} (h₁ : Quiet t₁)
    (h₂ : Attempted provider request t₂ o) : Attempted provider request (t₁ ++ t₂) o := by
  cases o with
  | error err => exact h₁.append h₂
  | ok opened =>
    obtain ⟨pre, script, ht, hpre, hs⟩ := h₂
    exact ⟨t₁ ++ pre, script, by rw [ht, List.append_assoc], h₁.append hpre, hs⟩

theorem persist_attempted {provider : String} {request : GenerationRequest} {more made : ℕ}
    {t : List (Observation Empty)} {o : Except Exn Opened}
    (h : Prog.Exec (persist self (openOnce provider request) more made) t o) :
    Attempted provider request t o := by
  induction more generalizing made t o with
  | zero => exact openOnce_attempted h
  | succ more ih =>
    rcases Prog.exec_catching.mp h with ⟨opened, ho, h⟩ | ⟨err, t₁, t₂, ht, h, hrest⟩
    · rw [ho]
      exact openOnce_attempted h
    · have hquiet : Quiet t₁ := openOnce_attempted h
      rw [ht]
      refine Attempted.prepend hquiet ?_
      have hraise : ∀ x : Exn, Prog.Exec (.raise x : Action Opened) t₂ o → Attempted provider request t₂ o := by
        intro x hx
        obtain ⟨ht₂, ho⟩ := Prog.exec_raise.mp hx
        rw [ht₂, ho]
        exact Quiet.nil
      cases err with
      | provider e =>
        cases hr : e.retryable with
        | false => exact hraise (.provider e) (by simpa [hr] using hrest)
        | true =>
          simp only [hr, ↓reduceIte] at hrest
          rcases Prog.exec_bind.mp hrest with ⟨x, ho, hb⟩ | ⟨u, t₃, t₄, ht₂, hb, hp⟩
          · rw [ho]
            exact quiet_of_asks (backOff_asks sleep_opensNone (made + 1)) hb
          · rw [ht₂]
            exact Attempted.prepend (quiet_of_asks (backOff_asks sleep_opensNone (made + 1)) hb) (ih hp)
      | _ => exact hraise _ hrest

def Visited {α : Type} (request : GenerationRequest) (t : List (Observation Empty)) :
    Except Exn (α ⊕ Opened × ModelRoute) → Prop
  | .ok (.inr (opened, route)) => ∃ script, Opens t route request script ∧ Opened.ofScript script = .ok opened
  | _ => Quiet t

theorem Visited.prepend {α : Type} {request : GenerationRequest} {t₁ t₂ : List (Observation Empty)}
    {o : Except Exn (α ⊕ Opened × ModelRoute)} (h₁ : Quiet t₁) (h₂ : Visited request t₂ o) :
    Visited request (t₁ ++ t₂) o := by
  cases o with
  | error err => exact h₁.append h₂
  | ok outcome =>
    cases outcome with
    | inl a => exact h₁.append h₂
    | inr served =>
      obtain ⟨script, hopens, hs⟩ := h₂
      exact ⟨script, hopens.prepend h₁, hs⟩

theorem visit_visited (hq : ∀ hook ∈ before_route, ∀ route, (hook route).Asks OpensNone)
    {request : GenerationRequest} {route : ModelRoute} {t : List (Observation Empty)}
    {o : Except Exn (Visit ⊕ Opened × ModelRoute)}
    (h : Prog.Exec (visit self before_route request openOnce route) t o) : Visited request t o := by
  have hadmits := admits_asks hq route
  rcases Prog.exec_bind.mp h with ⟨x, ho, h⟩ | ⟨admitted, t₁, t₂, ht, ha, h⟩
  · rw [ho]
    exact quiet_of_asks hadmits h
  · rw [ht]
    refine Visited.prepend (quiet_of_asks hadmits ha) ?_
    cases admitted with
    | false =>
      obtain ⟨ht₂, ho⟩ := Prog.exec_done.mp h
      rw [ht₂, ho]
      exact Quiet.nil
    | true =>
      obtain ⟨u, t₃, ht₂, h⟩ := Prog.exec_call.mp h
      have hres : Quiet [(.asked (.resolve route.model) u : Observation Empty)] := by
        intro p r s hm
        cases List.mem_singleton.mp hm
      rw [ht₂]
      refine Visited.prepend hres ?_
      cases hp : self.model_router.providers route.provider with
      | false =>
        simp only [hp, Bool.false_eq_true, ↓reduceIte] at h
        obtain ⟨ht₃, ho⟩ := Prog.exec_done.mp h
        rw [ht₃, ho]
        exact Quiet.nil
      | true =>
        simp only [hp, ↓reduceIte, Prog.done_bind, catchProviderError_eq, Prog.bind_assoc] at h
        rcases Prog.exec_bind.mp h with ⟨x, ho, h⟩ | ⟨result, t₄, t₅, ht₃, hp, h⟩
        · obtain ⟨o', ho', h⟩ := Prog.exec_attempt.mp h
          cases ho'
        · obtain ⟨o', ho', hp⟩ := Prog.exec_attempt.mp hp
          cases ho'
          have hatt := persist_attempted hp
          rw [ht₃]
          cases result with
          | error err =>
            have hquiet : Quiet t₄ := hatt
            refine Visited.prepend hquiet ?_
            cases err with
            | provider e =>
              obtain ⟨ht₅, ho⟩ := Prog.exec_done.mp h
              rw [ht₅, ho]
              exact Quiet.nil
            | _ =>
              obtain ⟨ht₅, ho⟩ := Prog.exec_raise.mp h
              rw [ht₅, ho]
              exact Quiet.nil
          | ok opened =>
            obtain ⟨ht₅, ho⟩ := Prog.exec_done.mp h
            obtain ⟨pre, script, ht₄, hpre, hs⟩ := hatt
            rw [ht₅, ho, List.append_nil]
            exact ⟨script, ⟨pre, ht₄, hpre⟩, hs⟩

theorem explore_visited (hq : ∀ hook ∈ before_route, ∀ route, (hook route).Asks OpensNone)
    {request : GenerationRequest} {routes : List ModelRoute} {t : List (Observation Empty)}
    {o : Except Exn (List Visit ⊕ Opened × ModelRoute)}
    (h : Prog.Exec (explore self before_route request openOnce routes) t o) : Visited request t o := by
  induction routes generalizing t o with
  | nil =>
    obtain ⟨ht, ho⟩ := Prog.exec_done.mp h
    rw [ht, ho]
    exact Quiet.nil
  | cons route rest ih =>
    rcases Prog.exec_bind.mp h with ⟨x, ho, h⟩ | ⟨outcome, t₁, t₂, ht, hv, h⟩
    · have hvisited := visit_visited hq h
      rw [ho]
      exact hvisited
    · have hvisited := visit_visited hq hv
      cases outcome with
      | inr served =>
        obtain ⟨ht₂, ho⟩ := Prog.exec_done.mp h
        rw [ht, ht₂, ho, List.append_nil]
        exact hvisited
      | inl v =>
        have hquiet : Quiet t₁ := hvisited
        rw [ht]
        refine Visited.prepend hquiet ?_
        rcases Prog.exec_bind.mp h with ⟨x, ho, h⟩ | ⟨later, t₃, t₄, ht₂, hl, h⟩
        · have hlater := ih h
          rw [ho]
          exact hlater
        · have hlater := ih hl
          obtain ⟨ht₄, ho⟩ := Prog.exec_done.mp h
          rw [ht₂, ht₄, ho, List.append_nil]
          cases later with
          | inl vs => exact hlater
          | inr served => exact hlater

def Searched (request : GenerationRequest) (t : List (Observation Empty)) :
    Except Exn (Opened × ModelRoute) → Prop
  | .ok (opened, route) => ∃ script, Opens t route request script ∧ Opened.ofScript script = .ok opened
  | .error _ => Quiet t

theorem search_searched (hq : ∀ hook ∈ before_route, ∀ route, (hook route).Asks OpensNone)
    {requested_model : String} {request : GenerationRequest} {routes : Except Exn (List ModelRoute)}
    {t : List (Observation Empty)} {o : Except Exn (Opened × ModelRoute)}
    (h : Prog.Exec (search self requested_model request before_route openOnce routes) t o) :
    Searched request t o := by
  cases routes with
  | error err =>
    obtain ⟨ht, ho⟩ := Prog.exec_raise.mp h
    rw [ht, ho]
    exact Quiet.nil
  | ok routes =>
    have h' : Prog.Exec ((explore self before_route request openOnce routes).bind
      (conclude requested_model [])) t o := h
    rcases Prog.exec_bind.mp h' with ⟨x, ho, h⟩ | ⟨outcome, t₁, t₂, ht, he, h⟩
    · have hvisited := explore_visited hq h
      rw [ho]
      exact hvisited
    · have hvisited := explore_visited hq he
      cases outcome with
      | inl visits =>
        obtain ⟨ht₂, ho⟩ := Prog.exec_raise.mp h
        rw [ht, ht₂, ho, List.append_nil]
        exact hvisited
      | inr served =>
        obtain ⟨ht₂, ho⟩ := Prog.exec_done.mp h
        rw [ht, ht₂, ho, List.append_nil]
        exact hvisited

end Attempts

section Stream

variable {self : ProviderExecutor} {before_route : Option RouteHook}

/-- A stream that yields nothing: its attempts were all without an event. -/
def Silent (t : List (Observation ProviderStreamEvent)) : Prop :=
  t.filterMap Obs.event? = [] ∧ Quiet t

/-- A stream that yields: after a silent prefix one attempt is opened and its events are passed on,
each with the attempt's route, and nothing else is done. -/
def Sticks (request : GenerationRequest) (t : List (Observation ProviderStreamEvent))
    (o : Except Exn Unit) : Prop :=
  ∃ pre route script, t = pre ++ .asked
      (.stream route.provider (request.withModel route.model route.model_ok)) script ::
        script.events.map (fun event => .yielded ⟨event, route⟩) ∧
    Silent pre ∧ script.events ≠ [] ∧ o = script.ending

theorem stream_silent_or_sticks (hq : ∀ hook ∈ before_route, ∀ route, (hook route).Asks OpensNone)
    {requested_model : String} {request : GenerationRequest}
    {t : List (Observation ProviderStreamEvent)} {o : Except Exn Unit}
    (h : Prog.Exec (self.stream requested_model request before_route) t o) :
    Silent t ∨ Sticks request t o := by
  rw [stream_eq] at h
  rcases Prog.exec_bind.mp h with ⟨x, ho, h⟩ | ⟨served, t₁, t₂, ht, hs, h⟩
  · obtain ⟨t', ht, h⟩ := Prog.exec_lift.mp h
    have hquiet : Quiet t' := search_searched hq h
    rw [ht]
    exact .inl ⟨Prog.filterMap_relabel t', hquiet.relabel⟩
  · obtain ⟨t', ht₁, hs⟩ := Prog.exec_lift.mp hs
    obtain ⟨opened, route⟩ := served
    obtain ⟨script, ⟨pre, ht', hpre⟩, hscript⟩ := search_searched hq hs
    obtain ⟨hevents, hending⟩ := ofScript_ok hscript
    obtain ⟨ht₂, ho⟩ := Prog.exec_ofEvents.mp h
    have hsilent : Silent (pre.map Obs.relabel : List (Observation ProviderStreamEvent)) :=
      ⟨Prog.filterMap_relabel pre, hpre.relabel⟩
    rw [← hevents, List.map_map] at ht₂
    rw [ht', List.map_append] at ht₁
    by_cases he : script.events = []
    · left
      have hlast : Quiet ([.asked (.stream route.provider (request.withModel route.model route.model_ok))
          script] : List (Observation ProviderStreamEvent)) := by
        intro p r s hm
        cases List.mem_singleton.mp hm
        exact he
      rw [he, List.map_nil] at ht₂
      rw [ht, ht₁, ht₂]
      refine ⟨?_, (hsilent.2.append hlast).append Quiet.nil⟩
      rw [List.append_nil, List.filterMap_append, hsilent.1]
      rfl
    · right
      refine ⟨pre.map Obs.relabel, route, script, ?_, hsilent, he, by rw [ho, hending]⟩
      rw [ht, ht₁, ht₂, List.append_assoc]
      rfl

theorem observedHook_asks (route : ModelRoute) : (observedHook route).Asks OpensNone := by
  refine ⟨?_, fun outcome => Prog.Asks.ofExcept outcome⟩
  intro provider request h
  cases h

/-- Whatever hooks and providers do, the events yielded are those of one attempt on one route, every
attempt before it was without an event, and nothing is asked after its first event. -/
theorem stream_sticks_to_one_attempt (self : ProviderExecutor) (requested_model : String)
    (request : GenerationRequest) (hooked : Bool) (t : List (Observation ProviderStreamEvent))
    (o : Except Exn Unit)
    (h : Prog.Exec (self.stream requested_model request (if hooked then some observedHook else none)) t o) :
    Silent t ∨ Sticks request t o := by
  refine stream_silent_or_sticks ?_ h
  intro hook hmem route
  cases hooked with
  | false => cases hmem
  | true =>
    cases hmem
    exact observedHook_asks route

def helloDelta : GenerationStreamEvent := .delta ⟨"r1", "gpt-4o", "Hi", by decide⟩

def cutOff : Exn := .provider (.transient .openAI "OpenAI HTTP request failed")

def cutOffTrace : List (Observation ProviderStreamEvent) :=
  [.asked (.resolve "gpt-4o") (),
    .asked (.stream "openai" (askFor "gpt-4o" gpt4o_nonBlank)) ⟨[helloDelta], .error cutOff⟩,
    .yielded ⟨helloDelta, ⟨"gpt-4o", "openai", gpt4o_nonBlank, openai_nonBlank⟩⟩]

theorem cutOffTrace_exec :
    Prog.Exec (defaultExecutor.stream "gpt-4o" (askFor "gpt-4o" (by decide)) none) cutOffTrace
      (.error cutOff) := by
  refine Prog.Exec.call (R := Response) (c := Command.resolve "gpt-4o") () ?_
  refine Prog.Exec.call (R := Response) (c := Command.stream "openai" (askFor "gpt-4o" (by decide)))
    ⟨[helloDelta], .error cutOff⟩ ?_
  refine Prog.Exec.yield ?_
  exact Prog.Exec.raise _

theorem stream_sticks_when_cut_off :
    Prog.Exec (defaultExecutor.stream "gpt-4o" (askFor "gpt-4o" (by decide)) none) cutOffTrace
        (.error cutOff) ∧
      (Silent cutOffTrace ∨ Sticks (askFor "gpt-4o" (by decide)) cutOffTrace (.error cutOff)) :=
  ⟨cutOffTrace_exec,
    stream_sticks_to_one_attempt defaultExecutor "gpt-4o" (askFor "gpt-4o" (by decide)) false cutOffTrace
      (.error cutOff) cutOffTrace_exec⟩

end Stream

end AIRuntime.StreamTraces
