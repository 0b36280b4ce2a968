import AIRuntime.RouteSearch
import AIRuntime.EffectTriples

set_option autoImplicit false

/-! Rules for the route search: what it may ask, and what it keeps until a route serves. -/
namespace AIRuntime.SearchRules

open EffectPrograms Failures GenerationContracts ModelRouting Collaborators ProviderExecution RouteSearch

section Asks

variable {β : Type} {self : ProviderExecutor} {before_route : Option RouteHook} {P : Command → Prop}

theorem backOff_asks (hsleep : ∀ d, P (.sleep d)) (attempt : ℕ) : (self.backOff attempt).Asks P := by
  unfold ProviderExecutor.backOff
  split_ifs
  · exact ⟨hsleep _, fun _ => trivial⟩
  · trivial

theorem admits_asks (hq : ∀ hook ∈ before_route, ∀ route, (hook route).Asks P) (route : ModelRoute) :
    (admits before_route route).Asks P := by
  unfold admits
  cases before_route with
  | none => trivial
  | some hook =>
    refine Prog.Asks.catching (Prog.Asks.bind (hq hook rfl route) fun _ => trivial) fun err => ?_
    cases err <;> trivial

theorem persist_asks {call : Action β} (hcall : call.Asks P) (hsleep : ∀ d, P (.sleep d)) (more made : ℕ) :
    (persist self call more made).Asks P := by
  induction more generalizing made with
  | zero => exact hcall
  | succ more ih =>
    refine Prog.Asks.catching hcall fun err => ?_
    cases err with
    | provider e =>
      by_cases hr : e.retryable = true
      · simp only [hr, ↓reduceIte]
        exact Prog.Asks.bind (backOff_asks hsleep _) fun _ => ih _
      · simp only [hr, Bool.false_eq_true, ↓reduceIte]
        trivial
    | _ => trivial

theorem catchProviderError_asks {p : Action β} (hp : p.Asks P) : (catchProviderError p).Asks P := by
  refine Prog.Asks.catching (Prog.Asks.bind hp fun _ => trivial) fun err => ?_
  cases err <;> trivial

theorem explore_asks {request : GenerationRequest} {call : String → GenerationRequest → Action β}
    (hq : ∀ hook ∈ before_route, ∀ route, (hook route).Asks P) (hresolve : ∀ model, P (.resolve model))
    (hsleep : ∀ d, P (.sleep d))
    (hcall : ∀ provider (route : ModelRoute), (call provider (request.withModel route.model route.model_ok)).Asks P)
    (routes : List ModelRoute) : (explore self before_route request call routes).Asks P := by
  induction routes with
  | nil => trivial
  | cons route rest ih =>
    refine Prog.Asks.bind (Prog.Asks.bind (admits_asks hq route) fun admitted => ?_) fun outcome => ?_
    · cases admitted with
      | false => trivial
      | true =>
        refine ⟨hresolve route.model, fun _ => ?_⟩
        simp only [Prog.done_bind]
        cases self.model_router.providers route.provider with
        | false => trivial
        | true =>
          simp only [↓reduceIte]
          refine Prog.Asks.bind (catchProviderError_asks (persist_asks (hcall _ _) hsleep _ _)) ?_
          intro result
          cases result <;> trivial
    · cases outcome with
      | inr served => trivial
      | inl v => exact Prog.Asks.bind ih fun _ => trivial

theorem search_asks {requested_model : String} {request : GenerationRequest}
    {call : String → GenerationRequest → Action β} {routes : Except Exn (List ModelRoute)}
    (hq : ∀ hook ∈ before_route, ∀ route, (hook route).Asks P) (hresolve : ∀ model, P (.resolve model))
    (hsleep : ∀ d, P (.sleep d))
    (hcall : ∀ provider (route : ModelRoute), (call provider (request.withModel route.model route.model_ok)).Asks P) :
    (search self requested_model request before_route call routes).Asks P := by
  refine Prog.Asks.bind (Prog.Asks.ofExcept routes) fun routes =>
    Prog.Asks.bind (explore_asks hq hresolve hsleep hcall routes) fun outcome => ?_
  cases outcome <;> trivial

end Asks

section Triples

variable {β S : Type} {self : ProviderExecutor} {before_route : Option RouteHook}
  {env : Environment Command Response S} {emit : S → Empty → S}

theorem persist_wp {call : Action β} {J : S → Prop} {Q : β → S → Prop}
    (hcall : ∀ s, J s → call.wp env emit (Prog.ends Q fun _ => J) s) (hsleep : ∀ d, env.Keeps J (.sleep d))
    {more made : ℕ} {s : S} (hs : J s) :
    (persist self call more made).wp env emit (Prog.ends Q fun _ => J) s := by
  induction more generalizing made s with
  | zero => exact hcall s hs
  | succ more ih =>
    refine Prog.wp_catching (Prog.wp_mono (Prog.ends_mono (fun _ _ h => h) ?_) (hcall s hs))
    intro err s' hs'
    cases err with
    | provider e =>
      by_cases hr : e.retryable = true
      · simp only [hr, ↓reduceIte]
        have hback : (self.backOff (made + 1)).wp env emit (fun _ => J) s' :=
          Prog.wp_of_asks (backOff_asks (P := fun c => ∃ d, c = .sleep d) (fun d => ⟨d, rfl⟩) _)
            (fun c hc => by obtain ⟨d, rfl⟩ := hc; exact hsleep d) (fun _ e _ => e.elim) hs'
        refine Prog.wp_bind (Prog.wp_mono ?_ hback)
        intro o s'' hs''
        cases o with
        | ok u => exact ih hs''
        | error x => exact hs''
      · simp only [hr, Bool.false_eq_true, ↓reduceIte]
        exact hs'
    | _ => exact hs'

theorem catchProviderError_wp {p : Action β} {J : S → Prop} {Q : β → S → Prop} {s : S}
    (hp : p.wp env emit (Prog.ends Q fun _ => J) s) :
    (catchProviderError p).wp env emit
      (Prog.ends (fun o s => match o with | .ok b => Q b s | .error _ => J s) fun _ => J) s := by
  refine Prog.wp_catching (Prog.wp_bind (Prog.wp_mono (Prog.ends_mono (fun _ _ h => h) ?_) hp))
  intro err s' hs'
  cases err <;> exact hs'

variable {request : GenerationRequest} {call : String → GenerationRequest → Action β} {I : S → Prop}
  {J : ModelRoute → S → Prop} {Q : β → ModelRoute → S → Prop}

/-- What a search keeps: `I` between visits, `J route` from the hook's consent on, `Q` once served. -/
structure Outline (before_route : Option RouteHook) (request : GenerationRequest)
    (call : String → GenerationRequest → Action β) (env : Environment Command Response S)
    (emit : S → Empty → S) (I : S → Prop) (J : ModelRoute → S → Prop) (Q : β → ModelRoute → S → Prop) :
    Prop where
  hook : ∀ route s, I s → (admits before_route route).wp env emit
    (Prog.ends (fun admitted s => if admitted then J route s else I s) fun _ => I) s
  back : ∀ route s, J route s → I s
  resolve : ∀ route, env.Keeps (J route) (.resolve route.model)
  sleep : ∀ route d, env.Keeps (J route) (.sleep d)
  call : ∀ route s, J route s → (call route.provider (request.withModel route.model route.model_ok)).wp env emit
    (Prog.ends (fun b => Q b route) fun _ => J route) s

theorem visit_wp (ol : Outline before_route request call env emit I J Q) {route : ModelRoute} {s : S}
    (hs : I s) : (visit self before_route request call route).wp env emit
      (Prog.ends (fun o s => match o with | .inl _ => I s | .inr served => Q served.1 served.2 s) fun _ => I) s := by
  refine Prog.wp_bind (Prog.wp_mono (Prog.ends_mono ?_ fun _ _ h => h) (ol.hook route s hs))
  intro admitted s₁ hs₁
  cases admitted with
  | false => exact hs₁
  | true =>
    obtain ⟨hmay, hreply⟩ := ol.resolve route s₁ hs₁
    refine ⟨hmay, fun u s₂ hr => ?_⟩
    have hs₂ := hreply u s₂ hr
    simp only [Prog.done_bind]
    cases hp : self.model_router.providers route.provider with
    | false => simpa [hp] using ol.back route s₂ hs₂
    | true =>
      simp only [↓reduceIte]
      have htry := catchProviderError_wp
        (@persist_wp β S self env emit _ (J route) (fun b => Q b route) (ol.call route) (ol.sleep route)
          self.max_retries 0 s₂ hs₂)
      refine Prog.wp_bind (Prog.wp_mono (Prog.ends_mono ?_ fun _ s h => ol.back route s h) htry)
      intro result s₃ hs₃
      cases result with
      | error e => exact ol.back route s₃ hs₃
      | ok b => exact hs₃

theorem explore_wp (ol : Outline before_route request call env emit I J Q) {routes : List ModelRoute}
    {s : S} (hs : I s) : (explore self before_route request call routes).wp env emit
      (Prog.ends (fun o s => match o with | .inl _ => I s | .inr served => Q served.1 served.2 s) fun _ => I) s := by
  induction routes generalizing s with
  | nil => exact hs
  | cons route rest ih =>
    refine Prog.wp_bind (Prog.wp_mono (Prog.ends_mono ?_ fun _ _ h => h) (visit_wp ol hs))
    intro outcome s₁ hs₁
    cases outcome with
    | inr served => exact hs₁
    | inl v =>
      refine Prog.wp_bind (Prog.wp_mono (Prog.ends_mono ?_ fun _ _ h => h) (ih hs₁))
      intro later s₂ hs₂
      cases later <;> exact hs₂

/-- A search that serves ends in `Q` of the route that served, any other in `I`. -/
theorem search_wp (ol : Outline before_route request call env emit I J Q) {requested_model : String}
    {routes : Except Exn (List ModelRoute)} {s : S} (hs : I s) :
    (search self requested_model request before_route call routes).wp env emit
      (Prog.ends (fun served => Q served.1 served.2) fun _ => I) s := by
  refine Prog.wp_bind (Prog.wp_ofExcept ?_)
  cases routes with
  | error err => exact hs
  | ok routes =>
    refine Prog.wp_bind (Prog.wp_mono (Prog.ends_mono ?_ fun _ _ h => h) (explore_wp ol hs))
    intro outcome s₁ hs₁
    cases outcome <;> exact hs₁

end Triples

end AIRuntime.SearchRules
