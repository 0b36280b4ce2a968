import AIRuntime.CallEntry
import AIRuntime.UsageConservation
import Mathlib.Data.List.Forall2

set_option autoImplicit false

/-! At which price a usage row is charged: that of the route which served, or of the model the provider reports. -/
namespace AIRuntime.CostAttribution

open EffectPrograms PythonText Failures GenerationContracts ModelRouting AccountingRecords Collaborators
  PolicyEnforcement ProviderExecution RouteSearch SearchRules ExecutorSemantics ServiceRuns ResponseCreation
  ResponseScopes CallEntry DecimalArithmetic DecimalCosts UsageAccounting UsageConservation

section Prices

def Priced (provider model : String) (a b : ℤ) : Prop :=
  (provider, model, a, b) ∈ [("openai", "gpt-4o-mini", 15, 60), ("openai", "gpt-4o", 250, 1000),
    ("anthropic", "claude-3-5-sonnet-20241022", 300, 1500), ("gemini", "gemini-2.5-flash", 30, 250)]

theorem priceOf_priced {provider model : String} {pricing : ModelPricing} (h : priceOf provider model = some pricing) :
    ∃ a b, Priced (lower (strip provider)) (strip model) a b ∧ pricing.input_usd_per_1m_tokens.value = (a : ℚ) / 100 ∧
      pricing.output_usd_per_1m_tokens.value = (b : ℚ) / 100 := by
  obtain ⟨prices, hprovider, hmodel⟩ := Option.bind_eq_some_iff.mp h
  have hentry := mem_of_lookup hprovider
  have hprice := mem_of_lookup hmodel
  have hcents : ∀ input output : ℕ, (listPrice input output).input_usd_per_1m_tokens.value = ((input : ℤ) : ℚ) / 100 ∧
      (listPrice input output).output_usd_per_1m_tokens.value = ((output : ℤ) : ℚ) / 100 :=
    fun input output => ⟨dollars_value input, dollars_value output⟩
  generalize lower (strip provider) = p at hentry ⊢
  generalize strip model = m at hprice ⊢
  simp only [providerPricing, List.mem_cons, Prod.mk.injEq, List.not_mem_nil, or_false] at hentry
  rcases hentry with ⟨rfl, rfl⟩ | ⟨rfl, rfl⟩ | ⟨rfl, rfl⟩ <;>
    simp only [List.mem_cons, Prod.mk.injEq, List.not_mem_nil, or_false] at hprice
  · rcases hprice with ⟨rfl, rfl⟩ | ⟨rfl, rfl⟩
    · exact ⟨_, _, by simp [Priced], hcents 15 60⟩
    · exact ⟨_, _, by simp [Priced], hcents 250 1000⟩
  · obtain ⟨rfl, rfl⟩ := hprice
    exact ⟨_, _, by simp [Priced], hcents 300 1500⟩
  · obtain ⟨rfl, rfl⟩ := hprice
    exact ⟨_, _, by simp [Priced], hcents 30 250⟩

/-- Two priced models of one provider cost the same only if they are one, or for no tokens. -/
theorem exactCost_eq_iff {provider model reported : String} {pricing other : ModelPricing}
    (h : priceOf provider model = some pricing) (h' : priceOf provider reported = some other) (usage : TokenUsage) :
    exactCost usage other = exactCost usage pricing ↔
      strip reported = strip model ∨ (usage.input_tokens = 0 ∧ usage.output_tokens = 0) := by
  obtain ⟨a, b, hentry, ha, hb⟩ := priceOf_priced h
  obtain ⟨a', b', hentry', ha', hb'⟩ := priceOf_priced h'
  obtain ⟨hin, hout⟩ := usage.nonneg
  have hcents : ∀ {pricing : ModelPricing} {a b : ℤ}, pricing.input_usd_per_1m_tokens.value = (a : ℚ) / 100 →
      pricing.output_usd_per_1m_tokens.value = (b : ℚ) / 100 →
        exactCost usage pricing = ((usage.input_tokens * a + usage.output_tokens * b : ℤ) : ℚ) / 100000000 := by
    intro pricing a b ha hb
    rw [exactCost, ha, hb]
    push_cast
    ring
  have hcost : exactCost usage other = exactCost usage pricing ↔
      usage.input_tokens * a' + usage.output_tokens * b' = usage.input_tokens * a + usage.output_tokens * b := by
    rw [hcents ha hb, hcents ha' hb', div_left_inj' (by norm_num), Int.cast_inj]
  rw [hcost]
  generalize lower (strip provider) = p at hentry hentry'
  generalize strip model = m at hentry ⊢
  generalize strip reported = m' at hentry' ⊢
  simp only [Priced, List.mem_cons, Prod.mk.injEq, List.not_mem_nil, or_false] at hentry hentry'
  rcases hentry with ⟨rfl, rfl, rfl, rfl⟩ | ⟨rfl, rfl, rfl, rfl⟩ | ⟨rfl, rfl, rfl, rfl⟩ | ⟨rfl, rfl, rfl, rfl⟩ <;>
    rcases hentry' with ⟨hp, rfl, rfl, rfl⟩ | ⟨hp, rfl, rfl, rfl⟩ | ⟨hp, rfl, rfl, rfl⟩ | ⟨hp, rfl, rfl, rfl⟩ <;>
    simp at hp ⊢ <;> omega

/-- What is charged for a reported model is the estimate at the route's price only if the two are one, or for no
tokens. -/
theorem charge_eq_iff {provider model reported : String} {pricing other : ModelPricing}
    (h : priceOf provider model = some pricing) (h' : priceOf provider reported = some other) {usage : TokenUsage}
    {charged : Decimal} (hcharged : estimateCostUsd usage other = .ok charged) :
    (∃ cost, estimateCostUsd usage pricing = .ok cost ∧ charged.value = cost.value) ↔
      strip reported = strip model ∨ (usage.input_tokens = 0 ∧ usage.output_tokens = 0) := by
  rw [← exactCost_eq_iff h h', ← listed_value (priceOf_listed h') hcharged]
  constructor
  · rintro ⟨cost, hcost, heq⟩
    rw [heq, listed_value (priceOf_listed h) hcost]
  · intro heq
    have hbelow := (listed_returns_iff (priceOf_listed h')).mp ⟨charged, hcharged⟩
    rw [← listed_value (priceOf_listed h') hcharged, heq] at hbelow
    obtain ⟨cost, hcost⟩ := (listed_returns_iff (priceOf_listed h)).mpr hbelow
    exact ⟨cost, hcost, by rw [heq, listed_value (priceOf_listed h) hcost]⟩

end Prices

section Traces

variable {E : Type}

structure Served where
  provider : String
  model : String
  response : GenerationResponse

def servedBy : Observation E → List Served
  | .asked (.generate provider request) (.ok response) => [⟨provider, request.model, response⟩]
  | .asked (.stream provider request) script =>
    (script.events.filterMap GenerationStreamEvent.response?).map fun response => ⟨provider, request.model, response⟩
  | _ => []

def servings (t : List (Observation E)) : List Served := t.flatMap servedBy

def writtenBy : Observation E → Option UsageRecord
  | .asked (.addUsage record) (.ok ()) => some record
  | _ => none

def written (t : List (Observation E)) : List UsageRecord := t.filterMap writtenBy

/-- The row's cost is that of its tokens at the route's price, and missing only with the usage or the price. -/
def CostsAsRouted (served : Served) (row : UsageRecord) : Prop :=
  (∀ pricing, priceOf served.provider served.model = some pricing → ∀ usage, served.response.usage = some usage →
    ∃ cost, estimateCostUsd usage pricing = .ok cost ∧ row.estimated_cost_usd = some cost.value) ∧
  (row.estimated_cost_usd = none → served.response.usage = none ∨ priceOf served.provider served.model = none)

/-- The provider reports the route's model by its own name, or nothing depends on what it reports. -/
def ReportsRoute (served : Served) : Prop :=
  priceOf served.provider served.model = none ∨ served.response.usage = none ∨
    strip served.response.model = strip served.model ∨
    ((priceOf served.provider served.response.model).isSome ∧
      ∀ usage ∈ served.response.usage, usage.input_tokens = 0 ∧ usage.output_tokens = 0)

structure RowFor (served : Served) (row : UsageRecord) : Prop where
  provider : row.provider = served.provider
  model : row.model = served.response.model
  cost : ∃ cost, StaticCostEstimator.estimate served.provider served.response.model served.response.usage = .ok cost ∧
    row.estimated_cost_usd = cost.map Decimal.value

theorem RowFor.routed_iff {served : Served} {row : UsageRecord} (h : RowFor served row) :
    CostsAsRouted served row ↔ ReportsRoute served := by
  obtain ⟨charged, hcharged, hcost⟩ := h.cost
  unfold CostsAsRouted ReportsRoute
  rw [hcost]
  cases hprice : priceOf served.provider served.model with
  | none => simp
  | some pricing =>
    cases husage : served.response.usage with
    | none => simp
    | some usage =>
      rw [husage, StaticCostEstimator.estimate_eq] at hcharged
      cases hreported : priceOf served.provider served.response.model with
      | none =>
        have hother : strip served.response.model ≠ strip served.model := by
          intro heq
          unfold priceOf at hreported hprice
          rw [heq, hprice] at hreported
          cases hreported
        rw [hreported] at hcharged
        cases hcharged
        simp [hother]
      | some other =>
        rw [hreported] at hcharged
        simp only at hcharged
        cases hestimate : estimateCostUsd usage other with
        | error signal =>
          rw [hestimate] at hcharged
          cases hcharged
        | ok cost =>
          rw [hestimate] at hcharged
          cases hcharged
          simp [charge_eq_iff hprice hreported hestimate]

def Books (served : List Served) (rows : List UsageRecord) (t : List (Observation E)) : Prop :=
  servings t = served ∧ written t = rows

theorem unspent_keeps {served : List Served} {rows : List UsageRecord} {c : Command} (hc : Unspent c) :
    (tracing : Environment Command Response (List (Observation E))).Keeps (Books served rows) c := by
  intro t ht
  refine ⟨trivial, ?_⟩
  rintro r t' rfl
  have hserved : servedBy (Obs.asked c r : Observation E) = [] := by
    cases c <;> first | rfl | exact hc.elim
  have hwritten : writtenBy (Obs.asked c r : Observation E) = none := by
    cases c <;> first | rfl | exact hc.elim
  constructor
  · simpa [servings, hserved] using ht.1
  · simpa [written, hwritten] using ht.2

theorem unspent_traced {α : Type} {p : Action α} (hp : p.Asks Unspent) {served : List Served}
    {rows : List UsageRecord} {emit : List (Observation E) → Empty → List (Observation E)}
    {t : List (Observation E)} (ht : Books served rows t) :
    p.wp tracing emit (Prog.ends (fun _ => Books served rows) fun _ => Books served rows) t := by
  refine Prog.wp_mono ?_ (Prog.wp_of_asks hp (fun c hc => unspent_keeps hc) (fun _ e _ => e.elim) ht)
  intro o t' ht'
  cases o <;> exact ht'

end Traces

section Parts

variable {E : Type} {service : CreateResponse} {command : CreateResponseCommand} {served : List Served}
  {rows : List UsageRecord} {emit : List (Observation E) → Empty → List (Observation E)} {t : List (Observation E)}

theorem recordUsage_traced (hstatic : service.cost_estimator = staticCostEstimator) (provider model : String)
    (response : GenerationResponse) (ht : Books served rows t) :
    (service.recordUsage command provider response).wp tracing emit
      (Prog.ends (fun _ t' => ∃ row, RowFor ⟨provider, model, response⟩ row ∧ Books served (rows ++ [row]) t')
        fun _ _ => True) t := by
  unfold CreateResponse.recordUsage
  rw [hstatic, staticCostEstimator]
  cases hcost : StaticCostEstimator.estimate provider response.model response.usage with
  | error signal => trivial
  | ok cost =>
    simp only [Prog.bind_eq, Prog.ofExcept_ok, Prog.done_bind, Prog.ask_bind]
    refine ⟨trivial, fun id t₁ ht₁ => ⟨trivial, fun now t₂ ht₂ => ?_⟩⟩
    have hbooks : Books served rows t₂ :=
      (unspent_keeps (c := .utcNow) trivial t₁ ((unspent_keeps (c := .uuid4) trivial t ht).2 id t₁ ht₁)).2 now t₂ ht₂
    beta_reduce
    cases hnew : UsageRecord.new id command.request_id command.organization_id command.api_key_id provider
      response.model (response.usage.map (·.input_tokens)) (response.usage.map (·.output_tokens))
      (cost.map Decimal.value) now.val with
    | error err => trivial
    | ok row =>
      obtain ⟨_, hrow⟩ := of_validated hnew
      simp only [Prog.ofExcept_ok, Prog.done_bind]
      refine ⟨trivial, ?_⟩
      rintro added t₃ rfl
      refine Prog.wp_ofExcept ?_
      cases added with
      | error err => trivial
      | ok u =>
        refine ⟨row, ?_, ?_, ?_⟩
        · rw [hrow]
          exact ⟨rfl, rfl, cost, hcost, rfl⟩
        · simpa [servings, servedBy] using hbooks.1
        · simpa [written, writtenBy] using hbooks.2

/-- The search ends with what a provider answered, which is then all that was served. -/
theorem search_traced {β : Type} {call : String → GenerationRequest → Action β} (serves : β → ModelRoute → List Served)
    (hcall : ∀ (route : ModelRoute) (t : List (Observation E)), Books [] [] t →
      (call route.provider (command.request.withModel route.model route.model_ok)).wp tracing emit
        (Prog.ends (fun b => Books (serves b route) []) fun _ => Books [] []) t) {self : ProviderExecutor}
    {requested_model : String} {routes : Except Exn (List ModelRoute)} (ht : Books [] [] t) :
    (search self requested_model command.request (some (beforeRoute command)) call routes).wp tracing emit
      (Prog.ends (fun answered => Books (serves answered.1 answered.2) []) fun _ => Books [] []) t := by
  refine search_wp (I := Books [] []) (J := fun _ => Books [] []) (Q := fun b route => Books (serves b route) []) ?_ ht
  refine ⟨fun route t ht => ?_, fun _ _ ht => ht, fun _ => unspent_keeps trivial, fun _ _ => unspent_keeps trivial, hcall⟩
  refine Prog.wp_mono ?_ (unspent_traced (admits_unspent command route) ht)
  intro o t' ht'
  cases o with
  | error err => exact ht'
  | ok admitted => cases admitted <;> exact ht'

theorem generateOnce_traced (route : ModelRoute) (ht : Books [] [] t) :
    (generateOnce route.provider (command.request.withModel route.model route.model_ok)).wp tracing emit
      (Prog.ends (fun response => Books [⟨route.provider, route.model, response⟩] []) fun _ => Books [] []) t := by
  refine ⟨trivial, ?_⟩
  rintro answered t' rfl
  refine Prog.wp_ofExcept ?_
  cases answered with
  | error err => exact ⟨by simpa [servings, servedBy] using ht.1, by simpa [written, writtenBy] using ht.2⟩
  | ok response =>
    refine ⟨?_, by simpa [written, writtenBy] using ht.2⟩
    have hnone := ht.1
    unfold servings at hnone ⊢
    rw [List.flatMap_append, hnone]
    rfl

def servedEvents (events : List GenerationStreamEvent) (route : ModelRoute) : List Served :=
  (events.filterMap GenerationStreamEvent.response?).map fun response => ⟨route.provider, route.model, response⟩

theorem openOnce_traced (route : ModelRoute) (ht : Books [] [] t) :
    (openOnce route.provider (command.request.withModel route.model route.model_ok)).wp tracing emit
      (Prog.ends (fun opened => Books (servedEvents opened.events route) []) fun _ => Books [] []) t := by
  refine ⟨trivial, ?_⟩
  rintro script t' rfl
  refine Prog.wp_ofExcept ?_
  have hbooks : Books (servedEvents script.events route) []
      (t ++ [.asked (.stream route.provider (command.request.withModel route.model route.model_ok)) script]) := by
    refine ⟨?_, by simpa [written, writtenBy] using ht.2⟩
    have hnone := ht.1
    unfold servings at hnone ⊢
    rw [List.flatMap_append, hnone]
    simp [servedBy, servedEvents, GenerationRequest.withModel]
  revert hbooks
  obtain ⟨events, ending⟩ := script
  cases events with
  | nil => cases ending <;> exact fun h => h
  | cons first rest => exact fun h => h

end Parts

section Calls

variable {service : CreateResponse} {command : CreateResponseCommand} {served : List Served} {rows : List UsageRecord}

theorem storeInCache_unspent (response : GenerationResponse) : (service.storeInCache command response).Asks Unspent := by
  unfold CreateResponse.storeInCache
  split_ifs
  · exact (cacheSet_asks _ _ _ _).mono fun _ => OnKey.unspent
  · trivial

theorem enter_unspent : (enter service command).Asks Unspent :=
  enter_asks (fun c _ => by cases c <;> trivial) fun _ _ => OnKey.unspent

def Accounted {E : Type} (t : List (Observation E)) : Prop := List.Forall₂ RowFor (servings t) (written t)

theorem Books.accounted {E : Type} {t : List (Observation E)} (h : Books served rows t)
    (hrows : List.Forall₂ RowFor served rows) : Accounted t := by
  unfold Accounted
  rw [h.1, h.2]
  exact hrows

theorem Books.empty {E : Type} {t : List (Observation E)} (h : Books [] [] t) : Accounted t :=
  h.accounted List.Forall₂.nil

theorem finish_traced (hstatic : service.cost_estimator = staticCostEstimator) (claimed : Option String)
    (execution : ProviderExecutionResult) {emit : List (Observation Empty) → Empty → List (Observation Empty)}
    {t : List (Observation Empty)}
    (ht : Books [⟨execution.route.provider, execution.route.model, execution.response⟩] [] t) :
    (service.finish command claimed execution).wp tracing emit (Prog.ends (fun _ => Accounted) fun _ _ => True) t := by
  refine Prog.wp_seq (recordUsage_traced hstatic _ execution.route.model _ ht) (fun _ t h => ?_) fun _ _ _ => trivial
  obtain ⟨row, hrow, ht⟩ := h
  refine Prog.wp_seq (unspent_traced (storeInCache_unspent _) ht) (fun _ t ht => ?_) fun _ _ _ => trivial
  refine Prog.wp_seq (unspent_traced (completeClaim_unspent claimed _) ht) (fun _ t ht => ?_) fun _ _ _ => trivial
  refine Prog.wp_seq (unspent_traced (success_unspent _ _ _ _) ht) (fun _ t ht => ?_) fun _ _ _ => trivial
  exact ht.accounted (List.Forall₂.cons hrow List.Forall₂.nil)

theorem execute_traced (hstatic : service.cost_estimator = staticCostEstimator)
    {emit : List (Observation Empty) → Empty → List (Observation Empty)} :
    (service.execute command).wp tracing emit (Prog.ends (fun _ => Accounted) fun _ _ => True) [] := by
  rw [execute_eq_enter]
  refine Prog.wp_seq (unspent_traced enter_unspent ⟨rfl, rfl⟩) (fun entry t ht => ?_) fun _ _ _ => trivial
  have hidle : ∀ {p : Action GenerationResponse}, p.Asks Unspent →
      p.wp tracing emit (Prog.ends (fun _ => Accounted) fun _ _ => True) t := by
    intro p hp
    exact Prog.wp_mono (Prog.ends_mono (fun _ _ h => h.empty) fun _ _ _ => trivial) (unspent_traced hp ht)
  cases entry with
  | denied decision => exact hidle ⟨trivial, fun _ => trivial⟩
  | inProgress => exact hidle ⟨trivial, fun _ => trivial⟩
  | completed payload => exact hidle (replay_unspent payload)
  | cached claimed payload => exact hidle (serveCached_unspent claimed payload)
  | missed claimed =>
    have hdone : (service.generate command claimed).wp tracing emit
        (Prog.ends (fun _ => Accounted) fun _ _ => True) t := by
      unfold CreateResponse.generate
      rw [ExecutorSemantics.execute_eq]
      refine Prog.wp_seq (M := fun execution => Books [⟨execution.route.provider, execution.route.model,
        execution.response⟩] []) (N := fun _ _ => True) ?_
        (fun execution t ht => finish_traced hstatic claimed execution ht) fun _ _ _ => trivial
      exact Prog.wp_seq (search_traced (fun response route => [⟨route.provider, route.model, response⟩])
        (fun route t ht => generateOnce_traced route ht) ht) (fun _ _ ht => ht) fun _ _ _ => trivial
    refine Prog.wp_catching (Prog.wp_mono (Prog.ends_mono (fun _ _ h => h) fun err t _ => ?_) hdone)
    refine Prog.wp_seq (Prog.wp_free fun _ _ => trivial) (fun _ _ _ => ?_) fun _ _ _ => trivial
    exact Prog.wp_seq (Prog.wp_free fun _ _ => trivial) (fun _ _ _ => trivial) fun _ _ _ => trivial

/-- Between two events the rows match what has been passed on, and the rest is still to come. -/
def Streamed (items : List ProviderStreamEvent) (t : List (Observation GenerationStreamEvent)) : Prop :=
  ∃ served rows, List.Forall₂ RowFor served rows ∧
    Books (served ++ (items.filterMap fun item => item.payload.response?.map fun response =>
      ⟨item.route.provider, item.route.model, response⟩)) rows t

theorem Books.yielded {t : List (Observation GenerationStreamEvent)} (h : Books served rows t)
    (event : GenerationStreamEvent) : Books served rows (t ++ [.yielded event]) := by
  have hserved : servedBy (Obs.yielded event : Observation GenerationStreamEvent) = [] := rfl
  have hwritten : writtenBy (Obs.yielded event : Observation GenerationStreamEvent) = none := rfl
  constructor
  · simpa [servings, hserved] using h.1
  · simpa [written, hwritten] using h.2

theorem passOn_traced (hstatic : service.cost_estimator = staticCostEstimator) (item : ProviderStreamEvent)
    (items : List ProviderStreamEvent) {t : List (Observation GenerationStreamEvent)} (ht : Streamed (item :: items) t) :
    (service.passOn command item).wp tracing (fun t e => t ++ [.yielded e])
      (Prog.ends (fun _ => Streamed items) fun _ _ => True) t := by
  obtain ⟨served, rows, hrows, ht⟩ := ht
  obtain ⟨payload, route⟩ := item
  cases payload with
  | delta d => exact ⟨served, rows, hrows, ht.yielded _⟩
  | response response =>
    have hlift : ∀ {p : Action Unit} {Q : Except Exn Unit → List (Observation GenerationStreamEvent) → Prop} {t},
        p.wp tracing (fun _ e => e.elim) Q t →
        (p.lift : Gen GenerationStreamEvent Unit).wp tracing (fun t e => t ++ [.yielded e]) Q t := Prog.wp_lift
    refine Prog.wp_seq (hlift (recordUsage_traced hstatic route.provider route.model response ht)) (fun _ t h => ?_)
      fun _ _ _ => trivial
    obtain ⟨row, hrow, ht⟩ := h
    refine Prog.wp_seq (hlift (unspent_traced (success_unspent _ _ _ _) ht)) (fun _ t ht => ?_) fun _ _ _ => trivial
    refine ⟨served ++ [⟨route.provider, route.model, response⟩], rows ++ [row],
      List.rel_append hrows (List.Forall₂.cons hrow List.Forall₂.nil), ?_⟩
    have hnext := ht.yielded (.response response)
    rw [List.append_assoc]
    exact hnext

theorem stream_traced (hstatic : service.cost_estimator = staticCostEstimator) :
    (service.stream command).wp tracing (fun t e => t ++ [.yielded e])
      (Prog.ends (fun _ => Accounted) fun _ _ => True) [] := by
  unfold CreateResponse.stream
  split_ifs
  · trivial
  · have hempty : Books [] [] ([] : List (Observation GenerationStreamEvent)) := ⟨rfl, rfl⟩
    have hconsume := @Prog.wp_lift _ _ GenerationStreamEvent _ _ _ _ (fun t e => t ++ [.yielded e]) (fun _ e => e.elim)
      _ _ _ (unspent_traced (consume_unspent service.rate_limiter command.organization_id) hempty)
    refine Prog.wp_seq hconsume (fun decision t ht => ?_) fun _ _ _ => trivial
    cases decision.allowed with
    | false => trivial
    | true =>
      simp only [Bool.not_true, Bool.false_eq_true, ↓reduceIte]
      rw [stream_eq, Prog.forEach_lift_bind]
      have hsearch := @search_traced _ command (fun _ e => e.elim) t Opened openOnce
        (fun opened route => servedEvents opened.events route) (fun route t ht => openOnce_traced route ht)
        service.provider_executor command.request.model (service.provider_executor.routesFor command.request.model) ht
      refine Prog.wp_bind (Prog.wp_lift (Prog.wp_attempt (Prog.wp_mono ?_ hsearch)))
      intro o t ht
      cases o with
      | error err => trivial
      | ok answered =>
        refine Prog.wp_forEach_ofEvents (fun items _ => Streamed items)
          (fun item items _ _ ht => passOn_traced hstatic item items ht) (fun _ t ht => ?_) ?_
        · refine Prog.wp_ofExcept ?_
          obtain ⟨served, rows, hrows, ht⟩ := ht
          cases answered.1.ending with
          | error err => trivial
          | ok u =>
            simp only [List.filterMap_nil, List.append_nil] at ht
            exact ht.accounted hrows
        · refine ⟨[], [], List.Forall₂.nil, ?_⟩
          have hitems : (answered.1.events.map fun event => (⟨event, answered.2⟩ : ProviderStreamEvent)).filterMap
              (fun item => item.payload.response?.map fun response =>
                (⟨item.route.provider, item.route.model, response⟩ : Served)) =
              servedEvents answered.1.events answered.2 := by
            unfold servedEvents
            rw [List.filterMap_map, List.map_filterMap]
            rfl
          rw [List.nil_append, hitems]
          exact ht

theorem Accounted.routed_iff {E : Type} {t : List (Observation E)} (h : Accounted t) :
    List.Forall₂ CostsAsRouted (servings t) (written t) ↔ ∀ served ∈ servings t, ReportsRoute served := by
  unfold Accounted at h
  generalize servings t = served at h ⊢
  generalize written t = rows at h ⊢
  induction h with
  | nil => simp
  | cons hrow _ ih => simp [List.forall₂_cons, hrow.routed_iff, ih]

/-- Of a call that succeeds, every row costs what its route does exactly when every provider reports the route's
model by its name, as far as anything depends on it. -/
theorem cost_follows_route_iff (service : CreateResponse) (hstatic : service.cost_estimator = staticCostEstimator)
    (command : CreateResponseCommand) :
    (∀ t response, Prog.Exec (service.execute command) t (.ok response) →
      (List.Forall₂ CostsAsRouted (servings t) (written t) ↔ ∀ served ∈ servings t, ReportsRoute served)) ∧
    ∀ t, Prog.Exec (service.stream command) t (.ok ()) →
      (List.Forall₂ CostsAsRouted (servings t) (written t) ↔ ∀ served ∈ servings t, ReportsRoute served) := by
  constructor
  · intro t response h
    have haccounted : Accounted ([] ++ t) := h.post (execute_traced hstatic)
    exact haccounted.routed_iff
  · intro t h
    have haccounted : Accounted ([] ++ t) := h.post (stream_traced hstatic)
    exact haccounted.routed_iff

end Calls

section Samples

def plainlyNamed : GenerationResponse := { tenTokens with model := "gpt-4o", ok := by decide }

def recordedRun (response : GenerationResponse) : Except Exn GenerationResponse × Session × List (Observation Empty) :=
  (pricedService.execute (sampleCommand plainRequest (uuid 2) "req-1" none)).run
    (collaborators (calm 100 (uuid 2) response)).recording (.start emptyWorld, [])

theorem recordedRun_exec {response : GenerationResponse} (h : (recordedRun response).1 = .ok response) :
    Prog.Exec (pricedService.execute (sampleCommand plainRequest (uuid 2) "req-1" none)) (recordedRun response).2.2
      (.ok response) := by
  rw [← h]
  exact Prog.exec_recorded _ _ _

theorem plain_name_charged :
    (recordedRun plainlyNamed).1 = .ok plainlyNamed ∧
      (List.Forall₂ CostsAsRouted (servings (recordedRun plainlyNamed).2.2) (written (recordedRun plainlyNamed).2.2) ↔
        ∀ served ∈ servings (recordedRun plainlyNamed).2.2, ReportsRoute served) :=
  ⟨by decide +kernel, (cost_follows_route_iff pricedService rfl (sampleCommand plainRequest (uuid 2) "req-1" none)).1
    _ _ (recordedRun_exec (by decide +kernel))⟩

/-- The route is priced and the provider reports ten tokens, of a dated snapshot: the row has no cost. -/
theorem dated_name_uncharged :
    Prog.Exec (pricedService.execute (sampleCommand plainRequest (uuid 2) "req-1" none)) (recordedRun tenTokens).2.2
        (.ok tenTokens) ∧
      (written (recordedRun tenTokens).2.2).map (·.estimated_cost_usd) = [none] ∧
      (priceOf "openai" "gpt-4o").isSome ∧
      ¬ List.Forall₂ CostsAsRouted (servings (recordedRun tenTokens).2.2) (written (recordedRun tenTokens).2.2) := by
  have hcost : (written (recordedRun tenTokens).2.2).map (·.estimated_cost_usd) = [none] := by decide +kernel
  have hserved : (servings (recordedRun tenTokens).2.2).map (fun served =>
      (served.response.usage.isSome, (priceOf served.provider served.model).isSome)) = [(true, true)] := by
    decide +kernel
  refine ⟨recordedRun_exec (by decide +kernel), hcost, by decide +kernel, fun hall => ?_⟩
  cases hrows : written (recordedRun tenTokens).2.2 with
  | nil =>
    rw [hrows] at hcost
    cases hcost
  | cons row rest =>
    rw [hrows] at hall hcost
    cases hlist : servings (recordedRun tenTokens).2.2 with
    | nil =>
      rw [hlist] at hserved
      cases hserved
    | cons served more =>
      rw [hlist] at hall hserved
      simp only [List.map_cons, List.cons.injEq, Prod.mk.injEq] at hcost hserved
      obtain ⟨hrow, _⟩ := List.forall₂_cons.mp hall
      rcases hrow.2 hcost.1 with husage | hprice
      · rw [husage] at hserved
        exact nomatch hserved.1.1
      · rw [hprice] at hserved
        exact nomatch hserved.1.2

end Samples

end AIRuntime.CostAttribution
