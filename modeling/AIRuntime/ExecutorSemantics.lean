import AIRuntime.RouteSearch

set_option autoImplicit false

/-! The loops of the executor are the reference search. -/
namespace AIRuntime.ExecutorSemantics

open EffectPrograms PythonText Failures GenerationContracts ModelRouting Collaborators ProviderExecution
  RouteSearch

variable {β : Type} {self : ProviderExecutor}

theorem lookUp_eq {route : ModelRoute}
    (h : self.model_router.catalog route.model = some route.provider) :
    self.lookUp route = (Command.resolve route.model).ask.bind fun _ =>
      .done (if self.model_router.providers route.provider then .ok ⟨route, route.provider⟩
        else .error route.provider) := by
  unfold ProviderExecutor.lookUp ModelRouter.resolve
  rw [resolveModelRoute_route h]
  by_cases hp : self.model_router.providers route.provider
  · simp [hp]
  · simp [hp]

theorem routeRequest_eq (route : ModelRoute) (request : GenerationRequest) :
    routeRequest route request = request.withModel route.model route.model_ok := by
  unfold routeRequest
  split_ifs with h
  · cases request
    simp only [GenerationRequest.withModel]
    congr
    exact h.symm
  · rfl

theorem generateWithRetries_eq (provider : String) (request : GenerationRequest) (left attempt : ℕ) :
    self.generateWithRetries provider request left attempt =
      persist self (generateOnce provider request) left attempt := by
  induction left generalizing attempt with
  | zero => rfl
  | succ left ih =>
    unfold ProviderExecutor.generateWithRetries persist
    simp only [ih]
    congr 1
    funext err
    cases err with
    | provider e => cases hr : e.retryable <;> simp [hr]
    | _ => rfl

/-- A retry loop over streams opens an attempt and then passes its events on. -/
theorem streamWithRetries_eq (provider : String) (request : GenerationRequest) (left attempt : ℕ) :
    self.streamWithRetries provider request left attempt =
      (persist self (openOnce provider request) left attempt).lift.bind fun opened =>
        Prog.ofEvents opened.events opened.ending := by
  induction left generalizing attempt with
  | zero =>
    unfold ProviderExecutor.streamWithRetries providerStream persist openOnce
    refine congrArg (Prog.call _) (funext fun script => ?_)
    obtain ⟨events, ending⟩ := script
    change (Prog.ofEvents events ending : Gen GenerationStreamEvent Unit).forEach false _ _ = _
    refine (Prog.forEach_ofEvents id events ending false _).trans ?_
    cases events with
    | nil => cases ending <;> rfl
    | cons e es =>
      change _ = Prog.ofEvents (e :: es) ending
      rw [Prog.ofEvents_eq_foldr]
      cases ending <;> rfl
  | succ left ih =>
    unfold ProviderExecutor.streamWithRetries providerStream persist openOnce
    refine congrArg (Prog.call _) (funext fun script => ?_)
    obtain ⟨events, ending⟩ := script
    change (Prog.ofEvents events ending : Gen GenerationStreamEvent Unit).forEach false _ _ = _
    refine (Prog.forEach_ofEvents id events ending false _).trans ?_
    cases events with
    | nil =>
      cases ending with
      | ok u => rfl
      | error err =>
        cases err with
        | provider e =>
          change (if (false || !e.retryable) = true then _ else _) =
            ((if e.retryable then _ else _ : Action Opened).lift.bind _)
          cases hr : e.retryable with
          | false => rfl
          | true =>
            simp only [Bool.not_true, Bool.or_self, Bool.false_eq_true, ↓reduceIte]
            rw [Prog.lift_bind, Prog.bind_assoc]
            exact Prog.bind_congr fun _ => ih (attempt + 1)
        | _ => rfl
    | cons e es =>
      change _ = Prog.ofEvents (e :: es) ending
      rw [Prog.ofEvents_eq_foldr]
      cases ending with
      | ok u => rfl
      | error err => cases err <;> rfl

theorem explore_conclude (before_route : Option RouteHook) (request : GenerationRequest)
    (call : String → GenerationRequest → Action β) (route : ModelRoute) (rest : List ModelRoute)
    (requested_model : String) (visits : List Visit) :
    (explore self before_route request call (route :: rest)).bind (conclude requested_model visits) =
      (visit self before_route request call route).bind fun outcome =>
        match outcome with
        | .inr served => .done served
        | .inl v => (explore self before_route request call rest).bind
            (conclude requested_model (visits ++ [v])) := by
  rw [explore, Prog.bind_assoc]
  refine Prog.bind_congr fun outcome => ?_
  cases outcome with
  | inr served => rfl
  | inl v =>
    change ((explore self before_route request call rest).bind _).bind _ = _
    rw [Prog.bind_assoc]
    refine Prog.bind_congr fun later => ?_
    cases later with
    | inr served => rfl
    | inl more =>
      change Prog.raise (verdict requested_model (visits ++ v :: more)) =
        Prog.raise (verdict requested_model (visits ++ [v] ++ more))
      rw [List.append_assoc]
      rfl

theorem executeRoutes_eq {requested_model : String} {request : GenerationRequest}
    {before_route : Option RouteHook} {routes rest : List ModelRoute} {s : RouteLoop} {visits : List Visit}
    (hne : routes ≠ []) (hagrees : AgreesWith self.model_router.catalog rest) (hs : Remembers s visits)
    (hlen : visits.length + rest.length = routes.length) :
    self.executeRoutes requested_model request before_route routes rest s =
      ((explore self before_route request generateOnce rest).bind (conclude requested_model visits)).bind
        fun served => .done ⟨served.1, served.2⟩ := by
  induction rest generalizing s visits with
  | nil =>
    change Prog.raise (afterRoutes requested_model routes s) =
      Prog.raise (verdict requested_model (visits ++ []))
    rw [afterRoutes_eq hs (by simpa using hlen) hne, List.append_nil]
  | cons route rest ih =>
    have hroute := hagrees route (by simp)
    have hrest : AgreesWith self.model_router.catalog rest := fun r h => hagrees r (List.mem_cons_of_mem _ h)
    have hlen' : ∀ v : Visit, (visits ++ [v]).length + rest.length = routes.length := by
      intro v
      simp only [List.length_append, List.length_cons, List.length_nil] at hlen ⊢
      omega
    rw [explore_conclude]
    unfold ProviderExecutor.executeRoutes visit
    simp only [Prog.bind_eq, Prog.bind_assoc, lookUp_eq hroute, generateWithRetries_eq, routeRequest_eq,
      Prog.ask_bind, Prog.call_bind, Prog.done_bind]
    refine Prog.bind_congr fun admitted => ?_
    cases admitted with
    | false => exact ih hrest (hs.denied route.model) (hlen' _)
    | true =>
      refine congrArg (Prog.call _) (funext fun _ => ?_)
      cases self.model_router.providers route.provider with
      | false => exact ih hrest (hs.missing route.provider) (hlen' _)
      | true =>
        simp only [↓reduceIte, Prog.bind_assoc]
        refine Prog.bind_congr fun result => ?_
        cases result with
        | error e => exact ih hrest (hs.failed e) (hlen' _)
        | ok response => rfl

theorem execute_eq (self : ProviderExecutor) (requested_model : String) (request : GenerationRequest)
    (before_route : Option RouteHook) :
    self.execute requested_model request before_route =
      (search self requested_model request before_route generateOnce (self.routesFor requested_model)).bind
        fun served => .done ⟨served.1, served.2⟩ := by
  unfold ProviderExecutor.execute search
  cases hr : self.routesFor requested_model with
  | error err => rfl
  | ok routes =>
    obtain ⟨hagrees, hne⟩ := routesFor_ok hr
    exact executeRoutes_eq hne hagrees Remembers.start (by simp)

/-- What the route loop of `stream` makes of an attempt that ended or was opened. -/
theorem forEach_streamWithRetries {γ : Type} (provider : String) (request : GenerationRequest)
    (route : ModelRoute) (left attempt : ℕ)
    (fin : Bool → Except Exn Unit → Gen ProviderStreamEvent γ) :
    (self.streamWithRetries provider request left attempt).forEach false
        (fun _ event => .yield ⟨event, route⟩ (.done true)) fin =
      ((persist self (openOnce provider request) left attempt).attempt : Action _).lift.bind fun o =>
        match o with
        | .ok opened => opened.events.foldr (fun event k => .yield ⟨event, route⟩ k)
            (fin (!opened.events.isEmpty) opened.ending)
        | .error err => fin false (.error err) := by
  rw [streamWithRetries_eq, Prog.forEach_lift_bind]
  refine Prog.bind_congr fun o => ?_
  cases o with
  | ok opened =>
    exact Prog.forEach_ofEvents (fun event => (⟨event, route⟩ : ProviderStreamEvent)) opened.events
      opened.ending false fin
  | error err => rfl

theorem catchProviderError_eq {α : Type} (p : Action α) :
    catchProviderError p = p.attempt.bind fun o =>
      match o with
      | .ok a => .done (.ok a)
      | .error (.provider e) => .done (.error e)
      | .error err => .raise err := by
  unfold catchProviderError
  rw [Prog.catching_eq_attempt, Prog.attempt_bind, Prog.bind_assoc]
  refine Prog.bind_congr fun o => ?_
  cases o with
  | ok a => rfl
  | error err => cases err <;> rfl

theorem streamRoutes_eq {requested_model : String} {request : GenerationRequest}
    {before_route : Option RouteHook} {routes rest : List ModelRoute} {s : RouteLoop} {visits : List Visit}
    (hne : routes ≠ []) (hagrees : AgreesWith self.model_router.catalog rest) (hs : Remembers s visits)
    (hlen : visits.length + rest.length = routes.length) :
    self.streamRoutes requested_model request before_route routes rest s =
      ((explore self before_route request openOnce rest).bind (conclude requested_model visits)).lift.bind
        play := by
  induction rest generalizing s visits with
  | nil =>
    change Prog.raise (afterRoutes requested_model routes s) =
      Prog.raise (verdict requested_model (visits ++ []))
    rw [afterRoutes_eq hs (by simpa using hlen) hne, List.append_nil]
  | cons route rest ih =>
    have hroute := hagrees route (by simp)
    have hrest : AgreesWith self.model_router.catalog rest := fun r h => hagrees r (List.mem_cons_of_mem _ h)
    have hlen' : ∀ v : Visit, (visits ++ [v]).length + rest.length = routes.length := by
      intro v
      simp only [List.length_append, List.length_cons, List.length_nil] at hlen ⊢
      omega
    rw [explore_conclude]
    unfold ProviderExecutor.streamRoutes visit
    simp only [Prog.bind_eq, Prog.bind_assoc, lookUp_eq hroute, forEach_streamWithRetries, routeRequest_eq,
      Prog.ask_bind, Prog.call_bind, Prog.lift_bind, Prog.lift_call]
    refine Prog.bind_congr fun admitted => ?_
    cases admitted with
    | false => exact ih hrest (hs.denied route.model) (hlen' _)
    | true =>
      refine congrArg (Prog.call _) (funext fun _ => ?_)
      cases self.model_router.providers route.provider with
      | false => exact ih hrest (hs.missing route.provider) (hlen' _)
      | true =>
        simp only [↓reduceIte, catchProviderError_eq, Prog.lift_bind, Prog.bind_assoc, Prog.lift_done,
          Prog.done_bind]
        refine Prog.bind_congr fun o => ?_
        cases o with
        | ok opened =>
          change _ = play (opened, route)
          unfold play
          rw [Prog.ofEvents_eq_foldr, List.foldr_map]
          cases opened with
          | empty => rfl
          | started first more ending =>
            cases ending with
            | ok u => rfl
            | error err => cases err <;> rfl
        | error err =>
          cases err with
          | provider e => exact ih hrest (hs.failed e) (hlen' _)
          | _ => rfl

theorem stream_eq (self : ProviderExecutor) (requested_model : String) (request : GenerationRequest)
    (before_route : Option RouteHook) :
    self.stream requested_model request before_route =
      (search self requested_model request before_route openOnce (self.routesFor requested_model)).lift.bind
        play := by
  unfold ProviderExecutor.stream search
  cases hr : self.routesFor requested_model with
  | error err => rfl
  | ok routes =>
    obtain ⟨hagrees, hne⟩ := routesFor_ok hr
    exact streamRoutes_eq hne hagrees Remembers.start (by simp)

/-- How the precedence of errors reads: the last provider error if a route was attempted; otherwise
the denial exactly when every route was denied, and else the first missing adapter. -/
structure Precedence (requested_model : String) (visits : List Visit) : Prop where
  attempted : ∀ err, (visits.filterMap Visit.error?).getLast? = some err →
    verdict requested_model visits = .provider err
  all_denied : visits.filterMap Visit.error? = [] →
    (verdict requested_model visits = .modelNotAvailable requested_model ↔ ∀ v ∈ visits, v = .denied)
  missing : visits.filterMap Visit.error? = [] → ¬ (∀ v ∈ visits, v = .denied) →
    ∃ provider, (visits.filterMap Visit.provider?).head? = some provider ∧
      verdict requested_model visits = .providerNotRegistered provider

theorem precedence (requested_model : String) (visits : List Visit) :
    Precedence requested_model visits := by
  refine ⟨?_, ?_, ?_⟩
  · intro err h
    unfold verdict
    rw [h]
  · intro he
    unfold verdict
    rw [he]
    cases hp : visits.filterMap Visit.provider? with
    | nil => exact ⟨fun _ => all_denied he hp, fun _ => rfl⟩
    | cons p ps =>
      refine ⟨?_, ?_⟩
      · intro h
        cases h
      · intro h
        rw [provider?_of_denied h] at hp
        cases hp
  · intro he hnot
    unfold verdict
    rw [he]
    cases hp : visits.filterMap Visit.provider? with
    | nil => exact absurd (all_denied he hp) hnot
    | cons p ps => exact ⟨p, rfl, rfl⟩

/-- `execute` is the reference search with `provider.generate`, and its errors follow the precedence
of the visits made. -/
theorem execute_is_reference_search (self : ProviderExecutor) (hn : NonBlankNames self)
    (requested_model : String) (request : GenerationRequest) (before_route : Option RouteHook) :
    self.execute requested_model request before_route =
        (referenceSearch self requested_model request before_route generateOnce).bind
          (fun served => .done ⟨served.1, served.2⟩) ∧
      ∀ visits, Precedence requested_model visits := by
  refine ⟨?_, precedence requested_model⟩
  rw [execute_eq, routesFor_eq hn]
  rfl

def defaultExecutor : ProviderExecutor where
  model_router := ⟨fun _ => true, defaultModelCatalog⟩
  max_retries := 2
  retry_base_delay_seconds := 1 / 4
  failover_enabled := true
  failover_catalog := defaultFailoverCatalog

theorem lookup_mem {α : Type} {l : List (String × α)} {key : String} {a : α}
    (h : l.lookup key = some a) : a ∈ l.map Prod.snd := by
  obtain ⟨l₁, l₂, hl, -⟩ := List.lookup_eq_some_iff.mp h
  rw [hl]
  simp

theorem defaultExecutor_nonBlank : NonBlankNames defaultExecutor := by
  refine ⟨?_, ?_⟩
  · intro model provider h
    have hall : ∀ p ∈ ["openai", "openai", "anthropic", "gemini"], isBlank p = false := by decide
    exact hall provider (lookup_mem h)
  · intro model fallback h
    have hall : ∀ ms ∈ [["claude-3-5-sonnet-20241022", "gemini-2.5-flash"],
        ["claude-3-5-sonnet-20241022", "gemini-2.5-flash"], ["gpt-4o", "gemini-2.5-flash"],
        ["gpt-4o-mini"]], ∀ m ∈ ms, isBlank m = false := by
      decide
    change fallback ∈ (List.lookup model _).getD [] at h
    cases hl : List.lookup model _ with
    | none =>
      rw [hl] at h
      cases h
    | some ms =>
      rw [hl] at h
      exact hall ms (lookup_mem hl) fallback h

theorem gpt4o_nonBlank : requireNonBlank "gpt-4o" "model" = none := by decide

theorem claude_nonBlank : requireNonBlank "claude-3-5-sonnet-20241022" "model" = none := by decide

theorem openai_nonBlank : requireNonBlank "openai" "provider" = none := by decide

def askFor (model : String) (h : requireNonBlank model "model" = none) : GenerationRequest where
  model := model
  messages := [⟨.user, "Hello", none, none, [], hello_ok⟩]
  temperature := none
  max_output_tokens := none
  stream := false
  tools := []
  cache := false
  ok := by
    unfold GenerationRequest.problem
    rw [h]
    decide

theorem execute_is_reference_search_default :
    NonBlankNames defaultExecutor ∧
      defaultExecutor.execute "gpt-4o" (askFor "gpt-4o" (by decide)) none =
        (referenceSearch defaultExecutor "gpt-4o" (askFor "gpt-4o" (by decide)) none generateOnce).bind
          (fun served => .done ⟨served.1, served.2⟩) :=
  ⟨defaultExecutor_nonBlank,
    (execute_is_reference_search defaultExecutor defaultExecutor_nonBlank "gpt-4o"
      (askFor "gpt-4o" (by decide)) none).1⟩

end AIRuntime.ExecutorSemantics
