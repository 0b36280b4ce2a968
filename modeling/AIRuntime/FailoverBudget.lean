import AIRuntime.ContextBudget
import AIRuntime.ExecutorSemantics

set_option autoImplicit false

/-! The context budget against the routes the executor may try. -/
namespace AIRuntime.FailoverBudget

open Failures GenerationContracts ModelRouting ProviderExecution ExecutorSemantics ListPositions ContextBudget

section Routes

/-- A chain is made of what it started with and of the models that may follow. -/
theorem extendChain_models {catalog : Catalog} {chain routes : List ModelRoute} {seen rest : List String}
    (h : extendChain catalog chain seen rest = .ok routes) :
    ∀ route ∈ routes, route ∈ chain ∨ route.model ∈ rest := by
  induction rest generalizing chain seen with
  | nil =>
    cases h
    exact fun route hmem => .inl hmem
  | cons m rest ih =>
    rw [extendChain] at h
    have hlater : ∀ {chain' seen'}, extendChain catalog chain' seen' rest = .ok routes →
        (∀ route ∈ chain', route ∈ chain ∨ route.model = m) →
        ∀ route ∈ routes, route ∈ chain ∨ route.model ∈ m :: rest := by
      intro chain' seen' h' hchain route hmem
      rcases ih h' route hmem with hin | hin
      · exact (hchain route hin).imp id fun heq => by
          rw [heq]
          exact List.mem_cons_self
      · exact .inr (List.mem_cons_of_mem m hin)
    split_ifs at h with hseen
    · exact hlater h fun route hmem => .inl hmem
    · cases hr : resolveModelRoute m catalog with
      | ok route =>
        rw [hr] at h
        apply hlater h
        intro r hmem
        rcases List.mem_append.mp hmem with hin | hin
        · exact .inl hin
        · rw [List.mem_singleton.mp hin]
          exact .inr (resolveModelRoute_ok hr).1
      | error err =>
        rw [hr] at h
        cases err with
        | unsupportedModel _ => exact hlater h fun route hmem => .inl hmem
        | _ => cases h

/-- The routes an executor may try are the catalog's, for the models a budget looks at. -/
theorem routesFor_candidates {executor : ProviderExecutor} {builder : BuildContext}
    (hflag : builder.failover_enabled = executor.failover_enabled)
    (hfallbacks : builder.failover_catalog = executor.failover_catalog) {model : String} {routes : List ModelRoute}
    (h : executor.routesFor model = .ok routes) :
    ∀ route ∈ routes, route.model ∈ builder.candidates model ∧
      executor.model_router.catalog route.model = some route.provider := by
  unfold ProviderExecutor.routesFor at h
  unfold BuildContext.candidates
  rw [hflag, hfallbacks]
  cases henabled : executor.failover_enabled with
  | false =>
    rw [henabled] at h
    cases hr : resolveModelRoute model executor.model_router.catalog with
    | error err =>
      rw [hr] at h
      cases h
    | ok primary =>
      rw [hr] at h
      cases h
      intro route hmem
      rw [List.mem_singleton.mp hmem]
      obtain ⟨hmodel, hprovider⟩ := resolveModelRoute_ok hr
      rw [hmodel]
      exact ⟨List.mem_cons_self, hprovider⟩
  | true =>
    rw [henabled] at h
    change resolveRouteChain model executor.model_router.catalog executor.failover_catalog = .ok routes at h
    intro route hmem
    refine ⟨?_, (resolveRouteChain_ok h).1 route hmem⟩
    unfold resolveRouteChain at h
    cases hr : resolveModelRoute model executor.model_router.catalog with
    | error err =>
      rw [hr] at h
      cases h
    | ok primary =>
      rw [hr] at h
      rcases extendChain_models h route hmem with hin | hin
      · rw [List.mem_singleton.mp hin, (resolveModelRoute_ok hr).1]
        exact List.mem_cons_self
      · exact List.mem_cons_of_mem model hin

end Routes

section Budget

variable {self : BuildContext} {model : String} {max_output_tokens : Option ℤ} {policy : ContextPolicy}

theorem budget_isSome {window : ℤ} (h : self.context_windows model = some window) :
    ∃ budget, self.budget model max_output_tokens policy = some budget := by
  have hwindows : (self.candidates model).filterMap self.context_windows ≠ [] := by
    unfold BuildContext.candidates
    simp [h]
  obtain ⟨smallest, hsmallest⟩ := Option.isSome_iff_exists.mp (List.isSome_min?_of_ne_nil hwindows)
  unfold BuildContext.budget
  simp only [hsmallest, Option.map_some, Option.toList_some, List.singleton_append, List.min?_cons]
  exact ⟨_, rfl⟩

/-- What costs something and fits the budget fits, with the output, the window of every candidate. -/
theorem budget_covers {budget total window : ℤ} {candidate : String}
    (h : self.budget model max_output_tokens policy = some budget) (hin : candidate ∈ self.candidates model)
    (hwindow : self.context_windows candidate = some window) (hpositive : 0 < total) (hfits : total ≤ budget) :
    total + max_output_tokens.getD 0 ≤ window := by
  unfold BuildContext.budget at h
  have hmem : window ∈ (self.candidates model).filterMap self.context_windows :=
    List.mem_filterMap.mpr ⟨candidate, hin, hwindow⟩
  obtain ⟨smallest, hsmallest⟩ := Option.isSome_iff_exists.mp (List.isSome_min?_of_ne_nil (List.ne_nil_of_mem hmem))
  have hleast := (List.min?_eq_some_iff.mp hsmallest).2 window hmem
  simp only [hsmallest, Option.map_some, Option.toList_some] at h
  obtain ⟨limit, hlimit, hbudget⟩ := Option.map_eq_some_iff.mp h
  have hless := (List.min?_eq_some_iff.mp hlimit).2 _ (List.mem_append_left _ (List.mem_singleton.mpr rfl))
  omega

/-- A message of the last unit, or any message when there are none but system messages, is never dropped. -/
theorem something_kept {messages : List Message} (hne : messages ≠ []) (j : ℕ) :
    without ((groupUnits messages).dropLast.take j).flatten messages ≠ [] := by
  obtain ⟨hflatten, hempty⟩ := groupUnits_partition messages
  have hnodup := positions_nodup messages
  by_cases hunits : groupUnits messages = []
  · rw [hunits]
    simp only [List.dropLast_nil, List.take_nil, List.flatten_nil, without_nil]
    exact hne
  · have hlast : (groupUnits messages).getLast hunits ≠ [] := fun h => hempty (h ▸ List.getLast_mem hunits)
    obtain ⟨i, rest, hi⟩ := List.exists_cons_of_ne_nil hlast
    have hmem : i ∈ (groupUnits messages).getLast hunits := by
      rw [hi]
      exact List.mem_cons_self
    rw [← hflatten, ← List.dropLast_concat_getLast hunits, List.flatten_concat] at hnodup
    have hkept : i ∉ ((groupUnits messages).dropLast.take j).flatten := fun hdropped =>
      (List.nodup_append.mp hnodup).2.2 i ((List.take_sublist j _).flatten.subset hdropped) i hmem rfl
    have hin : i ∈ positions messages := by
      rw [← hflatten]
      exact List.mem_flatten.mpr ⟨_, List.getLast_mem hunits, hmem⟩
    obtain ⟨m, hget, _⟩ := mem_positions.mp hin
    exact List.ne_nil_of_mem (mem_without.mpr ⟨i, hget, hkept⟩)

theorem execute_fits (hcharges : Charges self.counter) {messages kept : List Message} {tools : List ToolDefinition}
    (hne : messages ≠ []) {budget : ℤ} (hbudget : self.budget model max_output_tokens policy = some budget)
    (h : self.execute model messages tools max_output_tokens policy = .ok kept) :
    (kept.map self.counter.countMessage).sum + self.counter.countTools tools ≤ budget ∧
      0 < (kept.map self.counter.countMessage).sum + self.counter.countTools tools := by
  have hpositive : ∀ {l : List Message}, l ≠ [] →
      0 < (l.map self.counter.countMessage).sum + self.counter.countTools tools := by
    intro l hl
    have hcost := hcharges.pos tools hl
    omega
  unfold BuildContext.execute at h
  simp only [hbudget] at h
  split_ifs at h with hfits htruncate hover
  · cases h
    refine ⟨?_, hpositive hne⟩
    omega
  · cases h
    obtain ⟨j, _, heq, _, _⟩ := dropUnits_eq (messages.map self.counter.countMessage) budget
      (groupUnits messages).dropLast [] (self.counter.countTools tools + (messages.map self.counter.countMessage).sum)
    obtain ⟨hnodup, hin⟩ := prefix_droppable messages j
    rw [heq, List.nil_append] at hover ⊢
    refine ⟨?_, hpositive (something_kept hne j)⟩
    rw [without_sum self.counter.countMessage hnodup hin]
    omega

end Budget

/-- What a context builder returns fits, with the tools and the output asked for, the window of every route
that an executor with the same catalogs may try. -/
theorem context_fits_every_route (builder : BuildContext) (executor : ProviderExecutor)
    (hcounter : builder.counter = heuristicTokenCounter)
    (hflag : builder.failover_enabled = executor.failover_enabled)
    (hfallbacks : builder.failover_catalog = executor.failover_catalog)
    (hcovers : ∀ model, (executor.model_router.catalog model).isSome → (builder.context_windows model).isSome)
    (model : String) (hknown : (executor.model_router.catalog model).isSome) (messages kept : List Message)
    (hne : messages ≠ []) (tools : List ToolDefinition) (max_output_tokens : Option ℤ) (policy : ContextPolicy)
    (hkept : builder.execute model messages tools max_output_tokens policy = .ok kept) (routes : List ModelRoute)
    (hroutes : executor.routesFor model = .ok routes) :
    ∀ route ∈ routes, ∃ window, builder.context_windows route.model = some window ∧
      (kept.map heuristicTokenCounter.countMessage).sum + heuristicTokenCounter.countTools tools +
        max_output_tokens.getD 0 ≤ window := by
  intro route hroute
  obtain ⟨hcandidate, hcatalog⟩ := routesFor_candidates hflag hfallbacks hroutes route hroute
  obtain ⟨window, hwindow⟩ := Option.isSome_iff_exists.mp (hcovers route.model (by rw [hcatalog]; rfl))
  obtain ⟨own, hown⟩ := Option.isSome_iff_exists.mp (hcovers model hknown)
  obtain ⟨budget, hbudget⟩ := @budget_isSome builder model max_output_tokens policy own hown
  have hcharges : Charges builder.counter := by
    rw [hcounter]
    exact heuristic_charges
  obtain ⟨hfits, hpositive⟩ := execute_fits hcharges hne hbudget hkept
  rw [hcounter] at hfits hpositive
  exact ⟨window, hwindow, budget_covers hbudget hcandidate hwindow hpositive hfits⟩

section Samples

def defaultContextWindows : String → Option ℤ := fun model =>
  [("gpt-4o-mini", 128000), ("gpt-4o", 128000), ("claude-3-5-sonnet-20241022", 200000),
    ("gemini-2.5-flash", 1048576)].lookup model

def defaultBuilder : BuildContext := ⟨heuristicTokenCounter, true, defaultContextWindows, defaultFailoverCatalog⟩

def hello : Message := ⟨.user, "Hello there", none, none, [], by decide⟩

theorem defaultContextWindows_cover (model : String) (h : (defaultModelCatalog model).isSome) :
    (defaultContextWindows model).isSome := by
  revert h
  unfold defaultModelCatalog defaultContextWindows
  simp only [List.lookup_cons, List.lookup_nil]
  split
  · exact fun _ => rfl
  · split
    · exact fun _ => rfl
    · split
      · exact fun _ => rfl
      · split
        · exact fun _ => rfl
        · exact fun h => h

/-- Five of the windows' tokens are left for the input, which takes eight. -/
example : defaultBuilder.execute "gpt-4o" [hello] [] (some 127995) ⟨none, true, rfl⟩ =
    .error .contextLimitExceeded := by
  decide +kernel

def helloRoutes : List ModelRoute :=
  [⟨"gpt-4o", "openai", by decide, by decide⟩, ⟨"claude-3-5-sonnet-20241022", "anthropic", by decide, by decide⟩,
    ⟨"gemini-2.5-flash", "gemini", by decide, by decide⟩]

theorem hello_fits_last_route :
    ∃ window, defaultContextWindows "gemini-2.5-flash" = some window ∧
      ([hello].map heuristicTokenCounter.countMessage).sum + heuristicTokenCounter.countTools [] + 1000 ≤ window :=
  context_fits_every_route defaultBuilder defaultExecutor rfl rfl rfl defaultContextWindows_cover "gpt-4o" rfl [hello]
    [hello] (List.cons_ne_nil _ _) [] (some 1000) ⟨none, false, rfl⟩ (by decide +kernel) helloRoutes
    (by decide +kernel) ⟨"gemini-2.5-flash", "gemini", by decide, by decide⟩ (by decide +kernel)

end Samples

end AIRuntime.FailoverBudget
