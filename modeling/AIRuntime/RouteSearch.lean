import AIRuntime.ProviderExecution

set_option autoImplicit false

/-!
The reference semantics of the provider executor: visit the routes in order, keep what each visit
came to, and judge the whole list when none served. The loops of `execute` and `stream` are this
search with two different provider calls.
-/
namespace AIRuntime.RouteSearch

open EffectPrograms PythonText Failures GenerationContracts ModelRouting Collaborators ProviderExecution

/-- How the visit of a route ended that did not serve the request. -/
inductive Visit where
  | denied
  | unregistered (provider : String)
  | failed (err : ProviderError)
deriving DecidableEq

namespace Visit

def error? : Visit → Option ProviderError
  | .failed err => some err
  | _ => none

def provider? : Visit → Option String
  | .unregistered provider => some provider
  | _ => none

end Visit

/-- The error of a search in which no route served: the last provider error, else the first missing
adapter, else the denial. -/
def verdict (requested_model : String) (visits : List Visit) : Exn :=
  match (visits.filterMap Visit.error?).getLast? with
  | some err => .provider err
  | none =>
    match (visits.filterMap Visit.provider?).head? with
    | some provider => .providerNotRegistered provider
    | none => .modelNotAvailable requested_model

def routeOf (catalog : Catalog) (model : String) : Option ModelRoute :=
  (resolveModelRoute model catalog).toOption

section Reference

variable {β : Type} (self : ProviderExecutor)

/-- The requested model and then its fallbacks, those the catalog knows, each once. -/
def referenceRoutes (requested_model : String) : Except Exn (List ModelRoute) :=
  let models := requested_model ::
    if self.failover_enabled then self.failover_catalog requested_model else []
  (resolveModelRoute requested_model self.model_router.catalog).map fun _ =>
    (models.filter fun m => (self.model_router.catalog m).isSome).eraseDups.filterMap
      (routeOf self.model_router.catalog)

/-- Repeat a call until it succeeds, fails for good or was made `1 + more` times. -/
def persist (call : Action β) : (more made : ℕ) → Action β
  | 0, _ => call
  | more + 1, made => call.catching fun err =>
    match err with
    | .provider e =>
      if e.retryable then (self.backOff (made + 1)).bind fun _ => persist call more (made + 1)
      else .raise err
    | _ => .raise err

def visit (before_route : Option RouteHook) (request : GenerationRequest)
    (call : String → GenerationRequest → Action β) (route : ModelRoute) : Action (Visit ⊕ β × ModelRoute) :=
  (admits before_route route).bind fun admitted =>
    if admitted then
      (Command.resolve route.model).ask.bind fun _ =>
        if self.model_router.providers route.provider then
          (catchProviderError (persist self
            (call route.provider (request.withModel route.model route.model_ok)) self.max_retries 0)).bind
            fun result =>
              match result with
              | .error e => .done (.inl (.failed e))
              | .ok served => .done (.inr (served, route))
        else .done (.inl (.unregistered route.provider))
    else .done (.inl .denied)

/-- Visit routes until one serves; the visits of those before it otherwise. -/
def explore (before_route : Option RouteHook) (request : GenerationRequest)
    (call : String → GenerationRequest → Action β) :
    List ModelRoute → Action (List Visit ⊕ β × ModelRoute)
  | [] => .done (.inl [])
  | route :: rest => (visit self before_route request call route).bind fun outcome =>
    match outcome with
    | .inr served => .done (.inr served)
    | .inl v => (explore before_route request call rest).bind fun later =>
      .done (later.map (List.cons v) id)

def conclude (requested_model : String) (visits : List Visit) :
    List Visit ⊕ β × ModelRoute → Action (β × ModelRoute)
  | .inr served => .done served
  | .inl more => .raise (verdict requested_model (visits ++ more))

def search (requested_model : String) (request : GenerationRequest) (before_route : Option RouteHook)
    (call : String → GenerationRequest → Action β) (routes : Except Exn (List ModelRoute)) :
    Action (β × ModelRoute) :=
  (Prog.ofExcept routes).bind fun routes =>
    (explore self before_route request call routes).bind (conclude requested_model [])

def referenceSearch (requested_model : String) (request : GenerationRequest)
    (before_route : Option RouteHook) (call : String → GenerationRequest → Action β) :
    Action (β × ModelRoute) :=
  search self requested_model request before_route call (referenceRoutes self requested_model)

end Reference

def generateOnce (provider : String) (request : GenerationRequest) : Action GenerationResponse :=
  (Command.generate provider request).ask.bind Prog.ofExcept

/-- A stream attempt that did not fail before its first event. -/
inductive Opened where
  | empty
  | started (first : GenerationStreamEvent) (rest : List GenerationStreamEvent) (ending : Except Exn Unit)

namespace Opened

def events : Opened → List GenerationStreamEvent
  | .empty => []
  | .started first rest _ => first :: rest

def ending : Opened → Except Exn Unit
  | .empty => .ok ()
  | .started _ _ ending => ending

def ofScript (script : StreamScript) : Except Exn Opened :=
  match script.events, script.ending with
  | first :: rest, ending => .ok (.started first rest ending)
  | [], .ok () => .ok .empty
  | [], .error err => .error err

end Opened

def openOnce (provider : String) (request : GenerationRequest) : Action Opened :=
  (Command.stream provider request).ask.bind fun script => Prog.ofExcept (Opened.ofScript script)

/-- Pass on the events of the attempt that was opened, labelled with its route. -/
def play (served : Opened × ModelRoute) : Gen ProviderStreamEvent Unit :=
  Prog.ofEvents (served.1.events.map fun event => ⟨event, served.2⟩) served.1.ending

section Routes

structure NonBlankNames (executor : ProviderExecutor) : Prop where
  providers : ∀ model provider, executor.model_router.catalog model = some provider →
    isBlank provider = false
  fallbacks : ∀ model, ∀ fallback ∈ executor.failover_catalog model, isBlank fallback = false

theorem extendChain_eq {catalog : Catalog} (hc : ∀ m p, catalog m = some p → isBlank p = false)
    {rest : List String} (hr : ∀ m ∈ rest, isBlank m = false) (chain : List ModelRoute)
    (seen : List String) :
    extendChain catalog chain seen rest =
      .ok (chain ++ (rest.filter fun m => (catalog m).isSome && !decide (m ∈ seen)).eraseDups.filterMap
        (routeOf catalog)) := by
  induction rest generalizing chain seen with
  | nil => simp [extendChain]
  | cons m rest ih =>
    have hm := hr m (by simp)
    have hrest := fun m' h => hr m' (List.mem_cons_of_mem m h)
    rw [extendChain]
    by_cases hs : m ∈ seen
    · rw [if_pos hs, ih hrest, List.filter_cons_of_neg (by simp [hs])]
    · rw [if_neg hs]
      cases hp : catalog m with
      | none =>
        rw [resolveModelRoute_unknown hm hp, List.filter_cons_of_neg (by simp [hp])]
        exact ih hrest chain seen
      | some provider =>
        have hroute := resolveModelRoute_known hm (hc m provider hp) hp
        have hof : routeOf catalog m = some _ := congrArg Except.toOption hroute
        rw [hroute, List.filter_cons_of_pos (by simp [hp, hs]), List.eraseDups_cons,
          List.filterMap_cons_some hof, List.filter_filter]
        change extendChain catalog (chain ++ [_]) (m :: seen) rest = _
        rw [ih hrest, List.append_assoc]
        have hfilter : ∀ m', ((catalog m').isSome && !decide (m' ∈ m :: seen)) =
            (!(m' == m) && ((catalog m').isSome && !decide (m' ∈ seen))) := by
          intro m'
          by_cases h1 : m' = m
          · simp [h1]
          · simp [h1]
        simp only [hfilter]
        rfl

theorem routesFor_eq {self : ProviderExecutor} (hn : NonBlankNames self) (requested_model : String) :
    self.routesFor requested_model = referenceRoutes self requested_model := by
  unfold ProviderExecutor.routesFor referenceRoutes resolveRouteChain
  cases hr : resolveModelRoute requested_model self.model_router.catalog with
  | error err => cases self.failover_enabled <;> rfl
  | ok primary =>
    obtain ⟨hm, hc⟩ := resolveModelRoute_ok hr
    have hof : routeOf self.model_router.catalog requested_model = some primary :=
      congrArg Except.toOption hr
    cases hf : self.failover_enabled with
    | false =>
      simp [hc, hof, List.eraseDups_cons, Except.map]
    | true =>
      simp only [Bool.not_true, Bool.false_eq_true, ↓reduceIte, Except.map]
      rw [extendChain_eq hn.providers (hn.fallbacks requested_model),
        List.filter_cons_of_pos (by simp [hc]), List.eraseDups_cons, List.filterMap_cons_some hof,
        List.filter_filter]
      have hfilter : ∀ m', ((self.model_router.catalog m').isSome && !decide (m' ∈ [primary.model])) =
          (!(m' == requested_model) && (self.model_router.catalog m').isSome) := by
        intro m'
        rw [hm]
        by_cases h1 : m' = requested_model
        · simp [h1]
        · simp [h1]
      simp only [hfilter]
      rfl

theorem routesFor_ok {self : ProviderExecutor} {requested_model : String} {routes : List ModelRoute}
    (h : self.routesFor requested_model = .ok routes) :
    AgreesWith self.model_router.catalog routes ∧ routes ≠ [] := by
  unfold ProviderExecutor.routesFor at h
  split_ifs at h with hf
  · cases hr : resolveModelRoute requested_model self.model_router.catalog with
    | error err => rw [hr] at h; cases h
    | ok primary =>
      rw [hr] at h
      cases h
      obtain ⟨hm, hc⟩ := resolveModelRoute_ok hr
      refine ⟨?_, by simp⟩
      intro r hmem
      rw [List.mem_singleton.mp hmem, hm, hc]
  · obtain ⟨hagrees, primary, more, hroutes, -⟩ := resolveRouteChain_ok h
    exact ⟨hagrees, by rw [hroutes]; simp⟩

end Routes

section Verdict

structure Remembers (s : RouteLoop) (visits : List Visit) : Prop where
  last : s.last_error = (visits.filterMap Visit.error?).getLast?
  unavailable : s.skipped_unavailable.length = visits.count .denied
  unregistered : s.skipped_unregistered = visits.filterMap Visit.provider?

theorem Remembers.start : Remembers ⟨none, [], []⟩ [] := ⟨rfl, rfl, rfl⟩

theorem Remembers.denied {s : RouteLoop} {visits : List Visit} (h : Remembers s visits) (model : String) :
    Remembers { s with skipped_unavailable := s.skipped_unavailable ++ [model] } (visits ++ [.denied]) := by
  refine ⟨?_, ?_, ?_⟩
  · simpa [Visit.error?] using h.last
  · simpa using h.unavailable
  · rw [List.filterMap_append]
    exact h.unregistered.trans (List.append_nil _).symm

theorem Remembers.missing {s : RouteLoop} {visits : List Visit} (h : Remembers s visits) (provider : String) :
    Remembers { s with skipped_unregistered := s.skipped_unregistered ++ [provider] }
      (visits ++ [.unregistered provider]) := by
  refine ⟨?_, ?_, ?_⟩
  · simpa [Visit.error?] using h.last
  · simpa using h.unavailable
  · simpa [Visit.provider?] using h.unregistered

theorem Remembers.failed {s : RouteLoop} {visits : List Visit} (h : Remembers s visits) (err : ProviderError) :
    Remembers { s with last_error := some err } (visits ++ [.failed err]) := by
  refine ⟨?_, ?_, ?_⟩
  · simp [Visit.error?]
  · simpa using h.unavailable
  · rw [List.filterMap_append]
    exact h.unregistered.trans (List.append_nil _).symm

/-- Without a provider error and without a missing adapter, every visit was denied. -/
theorem all_denied {visits : List Visit} (he : visits.filterMap Visit.error? = [])
    (hp : visits.filterMap Visit.provider? = []) : ∀ v ∈ visits, v = .denied := by
  intro v hv
  cases v with
  | denied => rfl
  | unregistered p => exact absurd (List.filterMap_eq_nil_iff.mp hp _ hv) (by simp [Visit.provider?])
  | failed e => exact absurd (List.filterMap_eq_nil_iff.mp he _ hv) (by simp [Visit.error?])

theorem provider?_of_denied {visits : List Visit} (h : ∀ v ∈ visits, v = .denied) :
    visits.filterMap Visit.provider? = [] := by
  refine List.filterMap_eq_nil_iff.mpr fun v hv => ?_
  rw [h v hv]
  rfl

/-- After the loop the source raises the verdict; its last `raise` is never reached. -/
theorem afterRoutes_eq {s : RouteLoop} {visits : List Visit} (h : Remembers s visits)
    {routes : List ModelRoute} (hlen : visits.length = routes.length) (hne : routes ≠ [])
    (requested_model : String) : afterRoutes requested_model routes s = verdict requested_model visits := by
  unfold afterRoutes verdict
  rw [h.last, h.unavailable, h.unregistered]
  cases hl : (visits.filterMap Visit.error?).getLast? with
  | some err => rfl
  | none =>
    have he := List.getLast?_eq_none_iff.mp hl
    cases hp : visits.filterMap Visit.provider? with
    | nil =>
      have hall := all_denied he hp
      have hcount : visits.count .denied = routes.length := by
        rw [← hlen]
        exact List.count_eq_length.mpr fun v hv => (hall v hv).symm
      have hlen' : s.skipped_unavailable ≠ [] := by
        intro h0
        have hzero := h.unavailable
        rw [h0, hcount] at hzero
        exact hne (List.length_eq_zero_iff.mp hzero.symm)
      simp only [hlen', hcount, ne_eq, not_false_eq_true, and_self, ↓reduceIte, List.head?_nil]
    | cons p ps =>
      have hnot : ¬ visits.count .denied = routes.length := by
        intro hcount
        rw [← hlen] at hcount
        have hall := List.count_eq_length.mp hcount
        rw [provider?_of_denied fun v hv => (hall v hv).symm] at hp
        cases hp
      simp only [hnot, and_false, ↓reduceIte, List.head?_cons]

end Verdict

end AIRuntime.RouteSearch
