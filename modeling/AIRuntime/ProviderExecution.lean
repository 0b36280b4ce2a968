import AIRuntime.Collaborators

set_option autoImplicit false

/-! `application/resilience/provider_executor.py`. -/
namespace AIRuntime.ProviderExecution

open EffectPrograms Failures GenerationContracts ModelRouting Collaborators

abbrev RouteHook := ModelRoute → Action Unit

structure ProviderExecutionResult where
  response : GenerationResponse
  route : ModelRoute

def ProviderExecutionResult.providerName (r : ProviderExecutionResult) : String := r.route.provider

structure ProviderStreamEvent where
  payload : GenerationStreamEvent
  route : ModelRoute

def ProviderStreamEvent.providerName (e : ProviderStreamEvent) : String := e.route.provider

structure ProviderExecutor where
  model_router : ModelRouter
  max_retries : ℕ
  retry_base_delay_seconds : ℚ
  failover_enabled : Bool
  failover_catalog : FailoverCatalog

/-- The locals of the route loop. -/
structure RouteLoop where
  last_error : Option ProviderError
  skipped_unavailable : List String
  skipped_unregistered : List String

/-- `request if route.model == request.model else replace(request, model=route.model)`. -/
def routeRequest (route : ModelRoute) (request : GenerationRequest) : GenerationRequest :=
  if route.model = request.model then request else request.withModel route.model route.model_ok

def providerStream (provider : String) (request : GenerationRequest) : Gen GenerationStreamEvent Unit :=
  (Command.stream provider request).ask.bind fun script => Prog.ofEvents script.events script.ending

/-- `await before_route(route)`, false when it raises `ModelNotAvailableError`. -/
def admits (before_route : Option RouteHook) (route : ModelRoute) : Action Bool :=
  match before_route with
  | none => .done true
  | some hook => ((hook route).bind fun _ => .done true).catching fun err =>
    match err with
    | .modelNotAvailable _ => .done false
    | _ => .raise err

/-- `try: p except ProviderError as err`. -/
def catchProviderError {α : Type} (p : Action α) : Action (Except ProviderError α) :=
  (p.bind fun a => .done (.ok a)).catching fun err =>
    match err with
    | .provider e => .done (.error e)
    | _ => .raise err

def afterRoutes (requested_model : String) (routes : List ModelRoute) (s : RouteLoop) : Exn :=
  match s.last_error with
  | some err => .provider err
  | none =>
    if s.skipped_unavailable ≠ [] ∧ s.skipped_unavailable.length = routes.length then
      .modelNotAvailable requested_model
    else
      match s.skipped_unregistered, routes with
      | provider :: _, _ => .providerNotRegistered provider
      | [], route :: _ => .providerNotRegistered route.provider
      | [], [] => .other "IndexError"

namespace ProviderExecutor

variable (self : ProviderExecutor)

def routesFor (requested_model : String) : Except Exn (List ModelRoute) :=
  if !self.failover_enabled then
    (resolveModelRoute requested_model self.model_router.catalog).map fun route => [route]
  else resolveRouteChain requested_model self.model_router.catalog self.failover_catalog

/-- `if self._retry_base_delay_seconds > 0: await asyncio.sleep(.. * attempt)`. -/
def backOff (attempt : ℕ) : Action Unit :=
  if 0 < self.retry_base_delay_seconds then (Command.sleep (self.retry_base_delay_seconds * attempt)).ask
  else .done ()

/-- The retry loop with its local `attempt`; `left` is `max_retries - attempt`, so that it is zero
exactly when `attempt >= self._max_retries`. -/
def generateWithRetries (provider : String) (request : GenerationRequest) :
    (left attempt : ℕ) → Action GenerationResponse
  | 0, _ => (Command.generate provider request).ask.bind Prog.ofExcept
  | left + 1, attempt =>
    ((Command.generate provider request).ask.bind Prog.ofExcept).catching fun err =>
      match err with
      | .provider e =>
        if !e.retryable then .raise err
        else (self.backOff (attempt + 1)).bind fun _ => generateWithRetries provider request left (attempt + 1)
      | _ => .raise err

/-- The same loop over a stream; the loop variable is `started`. -/
def streamWithRetries (provider : String) (request : GenerationRequest) :
    (left attempt : ℕ) → Gen GenerationStreamEvent Unit
  | 0, _ =>
    (providerStream provider request).forEach false (fun _ event => .yield event (.done true)) fun _ ended =>
      match ended with
      | .ok () => .done ()
      | .error err => .raise err
  | left + 1, attempt =>
    (providerStream provider request).forEach false (fun _ event => .yield event (.done true))
      fun started ended =>
        match ended with
        | .ok () => .done ()
        | .error (.provider e) =>
          if started || !e.retryable then .raise (.provider e)
          else (self.backOff (attempt + 1)).lift.bind fun _ =>
            streamWithRetries provider request left (attempt + 1)
        | .error err => .raise err

/-- `self._model_router.resolve(route.model)`, an unregistered provider as its name. -/
def lookUp (route : ModelRoute) : Action (Except String ResolvedRoute) :=
  (((Command.resolve route.model).ask.bind fun _ =>
    Prog.ofExcept (self.model_router.resolve route.model)).bind fun resolved => .done (.ok resolved)).catching
    fun err =>
      match err with
      | .providerNotRegistered provider => .done (.error provider)
      | _ => .raise err

def executeRoutes (requested_model : String) (request : GenerationRequest)
    (before_route : Option RouteHook) (routes : List ModelRoute) :
    List ModelRoute → RouteLoop → Action ProviderExecutionResult
  | [], s => .raise (afterRoutes requested_model routes s)
  | route :: rest, s => do
    if !(← admits before_route route) then
      executeRoutes requested_model request before_route routes rest
        { s with skipped_unavailable := s.skipped_unavailable ++ [route.model] }
    else
      match ← self.lookUp route with
      | .error provider =>
        executeRoutes requested_model request before_route routes rest
          { s with skipped_unregistered := s.skipped_unregistered ++ [provider] }
      | .ok resolved =>
        match ← catchProviderError (self.generateWithRetries resolved.provider (routeRequest route request)
          self.max_retries 0) with
        | .error err =>
          executeRoutes requested_model request before_route routes rest { s with last_error := some err }
        | .ok response => .done ⟨response, resolved.route⟩

def execute (requested_model : String) (request : GenerationRequest)
    (before_route : Option RouteHook) : Action ProviderExecutionResult := do
  let routes ← Prog.ofExcept (self.routesFor requested_model)
  self.executeRoutes requested_model request before_route routes routes ⟨none, [], []⟩

def streamRoutes (requested_model : String) (request : GenerationRequest)
    (before_route : Option RouteHook) (routes : List ModelRoute) :
    List ModelRoute → RouteLoop → Gen ProviderStreamEvent Unit
  | [], s => .raise (afterRoutes requested_model routes s)
  | route :: rest, s => do
    if !(← (admits before_route route).lift) then
      streamRoutes requested_model request before_route routes rest
        { s with skipped_unavailable := s.skipped_unavailable ++ [route.model] }
    else
      match ← (self.lookUp route).lift with
      | .error provider =>
        streamRoutes requested_model request before_route routes rest
          { s with skipped_unregistered := s.skipped_unregistered ++ [provider] }
      | .ok resolved =>
        (self.streamWithRetries resolved.provider (routeRequest route request) self.max_retries 0).forEach false
          (fun _ event => .yield ⟨event, resolved.route⟩ (.done true)) fun started ended =>
            match ended with
            | .ok () => .done ()
            | .error (.provider err) =>
              if started then .raise (.provider err)
              else
                streamRoutes requested_model request before_route routes rest
                  { s with last_error := some err }
            | .error err => .raise err

def stream (requested_model : String) (request : GenerationRequest)
    (before_route : Option RouteHook) : Gen ProviderStreamEvent Unit := do
  let routes ← Prog.ofExcept (self.routesFor requested_model)
  self.streamRoutes requested_model request before_route routes routes ⟨none, [], []⟩

end ProviderExecutor

end AIRuntime.ProviderExecution
