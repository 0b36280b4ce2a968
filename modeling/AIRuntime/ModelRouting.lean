import AIRuntime.GenerationContracts

set_option autoImplicit false

/-! `domain/routing.py` and `application/routing/model_router.py`. -/
namespace AIRuntime.ModelRouting

open PythonText Failures

structure ModelRoute where
  model : String
  provider : String
  model_ok : requireNonBlank model "model" = none
  provider_ok : requireNonBlank provider "provider" = none
deriving DecidableEq

def ModelRoute.new (model provider : String) : Except Exn ModelRoute :=
  validated ((requireNonBlank model "model").or (requireNonBlank provider "provider")) fun h =>
    ⟨model, provider, (Option.or_eq_none_iff.mp h).1, (Option.or_eq_none_iff.mp h).2⟩

/-- `Mapping[str, str]`: the provider that serves a model. -/
abbrev Catalog := String → Option String

/-- `Mapping[str, tuple[str, ...]]` with `.get(model, ())`. -/
abbrev FailoverCatalog := String → List String

def defaultModelCatalog : Catalog := fun model =>
  [("gpt-4o-mini", "openai"), ("gpt-4o", "openai"), ("claude-3-5-sonnet-20241022", "anthropic"),
    ("gemini-2.5-flash", "gemini")].lookup model

def defaultFailoverCatalog : FailoverCatalog := fun model =>
  ([("gpt-4o", ["claude-3-5-sonnet-20241022", "gemini-2.5-flash"]),
    ("gpt-4o-mini", ["claude-3-5-sonnet-20241022", "gemini-2.5-flash"]),
    ("claude-3-5-sonnet-20241022", ["gpt-4o", "gemini-2.5-flash"]),
    ("gemini-2.5-flash", ["gpt-4o-mini"])].lookup model).getD []

def resolveModelRoute (requested_model : String) (catalog : Catalog) : Except Exn ModelRoute :=
  match requireNonBlank requested_model "requested_model" with
  | some message => .error (.domainValidation message)
  | none =>
    match catalog requested_model with
    | none => .error (.unsupportedModel requested_model)
    | some provider => ModelRoute.new requested_model provider

/-- The loop of `resolve_route_chain` with its locals `chain` and `seen_models`. -/
def extendChain (catalog : Catalog) (chain : List ModelRoute) (seen_models : List String) :
    List String → Except Exn (List ModelRoute)
  | [] => .ok chain
  | fallback_model :: rest =>
    if fallback_model ∈ seen_models then extendChain catalog chain seen_models rest
    else
      match resolveModelRoute fallback_model catalog with
      | .ok route => extendChain catalog (chain ++ [route]) (fallback_model :: seen_models) rest
      | .error (.unsupportedModel _) => extendChain catalog chain seen_models rest
      | .error err => .error err

def resolveRouteChain (requested_model : String) (catalog : Catalog)
    (failover_catalog : FailoverCatalog) : Except Exn (List ModelRoute) :=
  match resolveModelRoute requested_model catalog with
  | .error err => .error err
  | .ok primary => extendChain catalog [primary] [primary.model] (failover_catalog requested_model)

/-- `providers` tells the names an adapter is registered under; an adapter goes by that name. -/
structure ModelRouter where
  providers : String → Bool
  catalog : Catalog

structure ResolvedRoute where
  route : ModelRoute
  provider : String
deriving DecidableEq

def ModelRouter.resolve (self : ModelRouter) (requested_model : String) : Except Exn ResolvedRoute :=
  match resolveModelRoute requested_model self.catalog with
  | .error err => .error err
  | .ok route =>
    if self.providers route.provider then .ok ⟨route, route.provider⟩
    else .error (.providerNotRegistered route.provider)

section Resolution

theorem ModelRoute.new_eq_ok {model provider : String} {route : ModelRoute}
    (h : ModelRoute.new model provider = .ok route) : route.model = model ∧ route.provider = provider := by
  obtain ⟨hp, hr⟩ := of_validated h
  rw [hr]
  exact ⟨rfl, rfl⟩

theorem resolveModelRoute_ok {model : String} {catalog : Catalog} {route : ModelRoute}
    (h : resolveModelRoute model catalog = .ok route) :
    route.model = model ∧ catalog model = some route.provider := by
  unfold resolveModelRoute at h
  cases hb : requireNonBlank model "requested_model" with
  | some message => rw [hb] at h; cases h
  | none =>
    cases hc : catalog model with
    | none => rw [hb, hc] at h; cases h
    | some provider =>
      rw [hb, hc] at h
      obtain ⟨hm, hp⟩ := ModelRoute.new_eq_ok h
      rw [hp]
      exact ⟨hm, rfl⟩

theorem requireNonBlank_field {value field field' : String} (h : requireNonBlank value field = none) :
    requireNonBlank value field' = none :=
  requireNonBlank_none.mpr (requireNonBlank_none.mp h)

/-- A route that agrees with the catalog is what its model resolves to. -/
theorem resolveModelRoute_route {catalog : Catalog} {route : ModelRoute}
    (h : catalog route.model = some route.provider) : resolveModelRoute route.model catalog = .ok route := by
  unfold resolveModelRoute ModelRoute.new
  rw [requireNonBlank_field route.model_ok, h]
  exact validated_ok (Option.or_eq_none_iff.mpr ⟨route.model_ok, route.provider_ok⟩)

theorem resolveModelRoute_unknown {catalog : Catalog} {model : String} (hm : isBlank model = false)
    (h : catalog model = none) : resolveModelRoute model catalog = .error (.unsupportedModel model) := by
  unfold resolveModelRoute
  rw [requireNonBlank_none.mpr hm, h]

theorem resolveModelRoute_known {catalog : Catalog} {model provider : String} (hm : isBlank model = false)
    (hp : isBlank provider = false) (h : catalog model = some provider) :
    resolveModelRoute model catalog =
      .ok ⟨model, provider, requireNonBlank_none.mpr hm, requireNonBlank_none.mpr hp⟩ :=
  @resolveModelRoute_route catalog ⟨model, provider, _, _⟩ h

end Resolution

section Chain

def AgreesWith (catalog : Catalog) (routes : List ModelRoute) : Prop :=
  ∀ route ∈ routes, catalog route.model = some route.provider

theorem extendChain_agrees {catalog : Catalog} {chain routes : List ModelRoute} {seen rest : List String}
    (hchain : AgreesWith catalog chain) (h : extendChain catalog chain seen rest = .ok routes) :
    AgreesWith catalog routes ∧ ∃ more, routes = chain ++ more := by
  induction rest generalizing chain seen with
  | nil =>
    cases h
    exact ⟨hchain, [], (List.append_nil _).symm⟩
  | cons m rest ih =>
    rw [extendChain] at h
    split_ifs at h with hs
    · exact ih hchain h
    · cases hr : resolveModelRoute m catalog with
      | ok route =>
        rw [hr] at h
        obtain ⟨hm, hc⟩ := resolveModelRoute_ok hr
        have hnext : AgreesWith catalog (chain ++ [route]) := by
          intro r hmem
          rcases List.mem_append.mp hmem with hmem | hmem
          · exact hchain r hmem
          · rw [List.mem_singleton.mp hmem, hm, hc]
        obtain ⟨hroutes, more, hmore⟩ := ih hnext h
        exact ⟨hroutes, route :: more, by rw [hmore, List.append_assoc]; rfl⟩
      | error err =>
        rw [hr] at h
        cases err with
        | unsupportedModel _ => exact ih hchain h
        | _ => cases h

/-- The chain starts with the requested model's own route, and every route in it is the catalog's. -/
theorem resolveRouteChain_ok {model : String} {catalog : Catalog} {fallbacks : FailoverCatalog}
    {routes : List ModelRoute} (h : resolveRouteChain model catalog fallbacks = .ok routes) :
    AgreesWith catalog routes ∧ ∃ primary more, routes = primary :: more ∧ primary.model = model := by
  unfold resolveRouteChain at h
  cases hr : resolveModelRoute model catalog with
  | error err => rw [hr] at h; cases h
  | ok primary =>
    rw [hr] at h
    obtain ⟨hm, hc⟩ := resolveModelRoute_ok hr
    have hone : AgreesWith catalog [primary] := by
      intro r hmem
      rw [List.mem_singleton.mp hmem, hm, hc]
    obtain ⟨hroutes, more, hmore⟩ := extendChain_agrees hone h
    exact ⟨hroutes, primary, more, hmore, hm⟩

end Chain

end AIRuntime.ModelRouting
