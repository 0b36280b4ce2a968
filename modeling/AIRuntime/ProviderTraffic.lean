import AIRuntime.ResponseScopes

set_option autoImplicit false

/-! What a call sends to providers: over all retries and routes its own request, for the model of a route. -/
namespace AIRuntime.ProviderTraffic

open EffectPrograms Failures Identifiers GenerationContracts ModelRouting Collaborators ProviderExecution
  RouteSearch SearchRules ExecutorSemantics PolicyEnforcement RedisAdapters ResponsePayloads ResponseCreation
  ResponseScopes

section Requests

def Rerouted (request sent : GenerationRequest) : Prop :=
  ∃ route : ModelRoute, sent = request.withModel route.model route.model_ok

def SendsOnly (request : GenerationRequest) : Command → Prop
  | .generate _ sent => Rerouted request sent
  | .stream _ sent => Rerouted request sent
  | _ => True

variable {request : GenerationRequest} {organization_id : UUID} {c : Command}

theorem sendsOnly_of_silent (h : c.isProviderCall = false) : SendsOnly request c := by
  cases c <;> trivial

theorem Meters.silent (h : Meters organization_id c) : c.isProviderCall = false := by
  cases c <;> first | rfl | exact h.elim

theorem OnKey.silent {key : String} (h : OnKey key c) : c.isProviderCall = false := by
  cases c <;> first | rfl | exact h.elim

theorem ReadsPolicy.silent (h : ReadsPolicy organization_id c) : c.isProviderCall = false := by
  cases c <;> first | rfl | exact h.elim

theorem Accounts.silent {command : CreateResponseCommand} (h : Accounts command c) : c.isProviderCall = false := by
  cases c <;> first | rfl | exact h.elim

end Requests

section Calls

variable (self : CreateResponse) (command : CreateResponseCommand) {claimed : Option String}

theorem beforeRoute_sends :
    ∀ hook ∈ some (beforeRoute command), ∀ route, (hook route).Asks (SendsOnly command.request) := by
  intro hook hmem route
  cases hmem
  exact (enforce_asks _).mono fun c hc => sendsOnly_of_silent (ReadsPolicy.silent hc)

theorem executeRoutes_sends :
    (self.provider_executor.execute command.request.model command.request (some (beforeRoute command))).Asks
      (SendsOnly command.request) := by
  rw [execute_eq]
  refine Prog.Asks.bind (search_asks (beforeRoute_sends command) (fun _ => trivial) (fun _ => trivial) ?_)
    fun _ => trivial
  intro provider route
  exact Prog.Asks.bind ⟨⟨route, rfl⟩, fun _ => trivial⟩ fun o => Prog.Asks.ofExcept o

theorem streamRoutes_sends :
    (self.provider_executor.stream command.request.model command.request (some (beforeRoute command))).Asks
      (SendsOnly command.request) := by
  rw [stream_eq]
  refine Prog.Asks.bind (Prog.Asks.lift (search_asks (beforeRoute_sends command) (fun _ => trivial)
    (fun _ => trivial) ?_)) fun served => Prog.Asks.ofEvents _ _
  intro provider route
  exact Prog.Asks.bind ⟨⟨route, rfl⟩, fun _ => trivial⟩ fun script => Prog.Asks.ofExcept _

theorem recordUsage_sends (provider_name : String) (response : GenerationResponse) :
    (self.recordUsage command provider_name response).Asks (SendsOnly command.request) :=
  (recordUsage_asks self command provider_name response).mono fun _ hc => sendsOnly_of_silent (Accounts.silent hc)

theorem recordGenerationSuccess_sends (response : GenerationResponse) (outcome provider : String)
    (count_tokens : Bool) : (recordGenerationSuccess command response outcome provider count_tokens).Asks
      (SendsOnly command.request) :=
  (recordGenerationSuccess_asks command response outcome provider count_tokens).mono fun _ hc =>
    sendsOnly_of_silent (Accounts.silent hc)

theorem recordGenerationError_sends : recordGenerationError.Asks (SendsOnly command.request) :=
  (recordGenerationError_asks command).mono fun _ hc => sendsOnly_of_silent (Accounts.silent hc)

theorem completeClaim_sends (response : GenerationResponse) :
    (self.completeClaim command claimed response).Asks (SendsOnly command.request) := by
  cases claimed with
  | none => trivial
  | some key => exact (complete_asks _ _ _ _).mono fun _ hc => sendsOnly_of_silent (OnKey.silent hc)

theorem storeInCache_sends (response : GenerationResponse) :
    (self.storeInCache command response).Asks (SendsOnly command.request) := by
  unfold CreateResponse.storeInCache
  split_ifs
  · exact (cacheSet_asks _ _ _ _).mono fun _ hc => sendsOnly_of_silent (OnKey.silent hc)
  · trivial

theorem generate_sends : (self.generate command claimed).Asks (SendsOnly command.request) :=
  Prog.Asks.bind (executeRoutes_sends self command) fun _ => Prog.Asks.bind (recordUsage_sends self command _ _) fun _ =>
    Prog.Asks.bind (storeInCache_sends self command _) fun _ =>
      Prog.Asks.bind (completeClaim_sends self command _) fun _ =>
        Prog.Asks.bind (recordGenerationSuccess_sends command _ _ _ _) fun _ => trivial

theorem abandon_sends (err : Exn) : (CreateResponse.abandon command claimed err).Asks (SendsOnly command.request) := by
  refine Prog.Asks.bind ?_ fun _ => Prog.Asks.bind (recordGenerationError_sends command) fun _ => trivial
  cases claimed with
  | none => trivial
  | some key => exact (release_asks _ _).mono fun _ hc => sendsOnly_of_silent (OnKey.silent hc)

theorem serveCached_sends (payload : String) :
    (self.serveCached command claimed payload).Asks (SendsOnly command.request) :=
  Prog.Asks.bind ((enforce_asks _).mono fun _ hc => sendsOnly_of_silent (ReadsPolicy.silent hc)) fun _ =>
    Prog.Asks.bind (Prog.Asks.ofExcept _) fun _ => Prog.Asks.bind (completeClaim_sends self command _) fun _ =>
      Prog.Asks.bind (recordGenerationSuccess_sends command _ _ _ _) fun _ => trivial

theorem serve_sends : (self.serve command claimed).Asks (SendsOnly command.request) := by
  refine Prog.Asks.bind ?_ fun looked => ?_
  · unfold CreateResponse.lookUpCache
    split_ifs
    · exact (cacheGet_asks _ _).mono fun _ hc => sendsOnly_of_silent (OnKey.silent hc)
    · trivial
  · cases looked with
    | some payload => exact serveCached_sends self command payload
    | none => exact Prog.Asks.catching (generate_sends self command) (abandon_sends command)

theorem consume_sends : (self.rate_limiter.consume command.organization_id).Asks (SendsOnly command.request) :=
  (consume_asks _ _).mono fun _ hc => sendsOnly_of_silent (Meters.silent hc)

/-- Whatever is sent to a provider is the request of the command. -/
theorem execute_sends : (self.execute command).Asks (SendsOnly command.request) := by
  refine Prog.Asks.bind (consume_sends self command) fun decision => ?_
  cases decision.allowed with
  | false => exact Prog.Asks.bind (recordGenerationError_sends command) fun _ => trivial
  | true =>
    simp only [Bool.not_true, Bool.false_eq_true, ↓reduceIte]
    cases command.idempotency_key with
    | none => exact serve_sends self command
    | some key =>
      refine Prog.Asks.bind ((begin_asks _ _ _).mono fun _ hc => sendsOnly_of_silent (OnKey.silent hc)) fun begun => ?_
      cases begun with
      | miss => exact serve_sends self command
      | inProgress => exact Prog.Asks.bind (recordGenerationError_sends command) fun _ => trivial
      | completed payload =>
        exact (replay_accounts payload).mono fun _ hc => sendsOnly_of_silent (Accounts.silent hc)

theorem stream_sends : (self.stream command).Asks (SendsOnly command.request) := by
  unfold CreateResponse.stream
  split_ifs
  · trivial
  · refine Prog.Asks.bind (Prog.Asks.lift (consume_sends self command)) fun decision => ?_
    cases decision.allowed with
    | false => trivial
    | true =>
      simp only [Bool.not_true, Bool.false_eq_true, ↓reduceIte]
      refine Prog.Asks.forEach (streamRoutes_sends self command) ?_ fun _ _ => Prog.Asks.ofExcept _
      intro _ item
      unfold CreateResponse.passOn
      cases item.payload with
      | delta d => trivial
      | response response =>
        exact Prog.Asks.bind (Prog.Asks.lift (recordUsage_sends self command _ _)) fun _ =>
          Prog.Asks.bind (Prog.Asks.lift (recordGenerationSuccess_sends command _ _ _ _)) fun _ => trivial

end Calls

end AIRuntime.ProviderTraffic
