import AIRuntime.ExecutorSemantics
import AIRuntime.SearchRules
import AIRuntime.ResponseCreation

set_option autoImplicit false

/-! What the parts of `CreateResponse` may ask, whatever they are answered. -/
namespace AIRuntime.ResponseScopes

open EffectPrograms Failures Identifiers GenerationContracts ModelRouting AccountingRecords PolicyRules
  Collaborators ProviderExecution RouteSearch SearchRules ExecutorSemantics PolicyEnforcement RedisAdapters
  ResponsePayloads ResponseCreation

def ReadsQuota (organization_id : UUID) : Command → Prop
  | .getPolicy o => o = organization_id
  | .sumTokens o _ _ => o = organization_id
  | .utcNow => True
  | _ => False

def ReadsPolicy (organization_id : UUID) : Command → Prop
  | .listEntitlements o => o = organization_id
  | c => ReadsQuota organization_id c

def TriesRoutes (organization_id : UUID) : Command → Prop
  | .resolve _ => True
  | .generate _ _ => True
  | .stream _ _ => True
  | .sleep _ => True
  | c => ReadsPolicy organization_id c

def OnKey (key : String) : Command → Prop
  | .redisSet k _ _ _ => k = key
  | .redisGet k => k = key
  | .redisDelete k => k = key
  | _ => False

def Meters (organization_id : UUID) : Command → Prop
  | .time => True
  | .redisTokenBucket k _ _ _ _ => k = RedisRateLimiter.redisKey organization_id
  | _ => False

/-- The report of a call: metrics, and one audit row of its organization. -/
def Reports (organization_id : UUID) : Command → Prop
  | .uuid4 => True
  | .utcNow => True
  | .increment _ _ _ => True
  | .addAudit event => event.organization_id = some organization_id
  | _ => False

/-- The accounting of a call: metrics, one usage row and one audit row of its organization. -/
def Accounts (command : CreateResponseCommand) : Command → Prop
  | .uuid4 => True
  | .utcNow => True
  | .increment _ _ _ => True
  | .addUsage record =>
    record.organization_id = command.organization_id ∧ record.request_id = command.request_id
  | .addAudit event => event.organization_id = some command.organization_id
  | _ => False

section Asks

theorem checkQuota_asks (command : EnforceOrganizationPolicyCommand) :
    (checkQuota command).Asks (ReadsQuota command.organization_id) := by
  refine Prog.Asks.bind ⟨rfl, fun _ => trivial⟩ fun got => Prog.Asks.bind (Prog.Asks.ofExcept got) ?_
  intro policy
  cases policy.monthly_token_limit with
  | none => trivial
  | some limit =>
    refine Prog.Asks.bind ⟨trivial, fun _ => trivial⟩ fun now =>
      Prog.Asks.bind (Prog.Asks.ofExcept _) fun period => ?_
    refine Prog.Asks.bind ⟨rfl, fun _ => trivial⟩ fun summed =>
      Prog.Asks.bind (Prog.Asks.ofExcept summed) fun used_tokens => ?_
    refine Prog.Asks.bind (Prog.Asks.ofExcept _) fun exceeded => ?_
    cases exceeded with
    | false => trivial
    | true => exact Prog.Asks.bind (Prog.Asks.ofExcept _) fun _ => trivial

theorem enforce_asks (command : EnforceOrganizationPolicyCommand) :
    (enforceOrganizationPolicy command).Asks (ReadsPolicy command.organization_id) := by
  refine Prog.Asks.bind ⟨rfl, fun _ => trivial⟩ fun listed => Prog.Asks.bind (Prog.Asks.ofExcept listed) ?_
  intro entitlements
  cases isModelAllowed command.requested_model (entitlements.map (·.model)) with
  | false => trivial
  | true =>
    refine (checkQuota_asks command).mono fun c hc => ?_
    cases c <;> first | exact hc | exact hc.elim

theorem consume_asks (limiter : RedisRateLimiter) (organization_id : UUID) :
    (limiter.consume organization_id).Asks (Meters organization_id) := by
  refine Prog.Asks.bind ⟨trivial, fun _ => trivial⟩ fun now =>
    Prog.Asks.bind ⟨rfl, fun _ => trivial⟩ fun answered => ?_
  cases answered <;> trivial

theorem begin_asks (store : RedisIdempotencyStore) (organization_id : UUID) (key : String) :
    (store.begin organization_id key).Asks (OnKey (RedisIdempotencyStore.redisKey organization_id key)) := by
  refine Prog.Asks.bind ⟨rfl, fun _ => trivial⟩ fun claimed => ?_
  cases claimed with
  | error err => trivial
  | ok taken =>
    cases taken with
    | true => trivial
    | false =>
      refine Prog.Asks.bind ⟨rfl, fun _ => trivial⟩ fun got => ?_
      cases got <;> trivial

theorem complete_asks (store : RedisIdempotencyStore) (organization_id : UUID) (key payload : String) :
    (store.complete organization_id key payload).Asks
      (OnKey (RedisIdempotencyStore.redisKey organization_id key)) :=
  Prog.Asks.bind ⟨rfl, fun _ => trivial⟩ fun _ => trivial

theorem release_asks (organization_id : UUID) (key : String) :
    (RedisIdempotencyStore.release organization_id key).Asks
      (OnKey (RedisIdempotencyStore.redisKey organization_id key)) := by
  refine Prog.Asks.bind ⟨rfl, fun _ => trivial⟩ fun got => ?_
  cases got with
  | error err => trivial
  | ok current =>
    by_cases hc : current = some statusInProgress
    · simp only [hc, ↓reduceIte]
      exact Prog.Asks.bind ⟨rfl, fun _ => trivial⟩ fun _ => trivial
    · simp only [hc, ↓reduceIte]
      trivial

theorem cacheGet_asks (organization_id : UUID) (fingerprint : String) :
    (RedisResponseCache.get organization_id fingerprint).Asks
      (OnKey (RedisResponseCache.redisKey organization_id fingerprint)) := by
  refine Prog.Asks.bind ⟨rfl, fun _ => trivial⟩ fun got => ?_
  cases got <;> trivial

theorem cacheSet_asks (cache : RedisResponseCache) (organization_id : UUID) (fingerprint payload : String) :
    (cache.set organization_id fingerprint payload).Asks
      (OnKey (RedisResponseCache.redisKey organization_id fingerprint)) :=
  Prog.Asks.bind ⟨rfl, fun _ => trivial⟩ fun _ => trivial

theorem recordGenerationError_asks (command : CreateResponseCommand) :
    recordGenerationError.Asks (Accounts command) :=
  ⟨trivial, fun _ => trivial⟩

theorem countTokens_reports (organization_id : UUID) (count_tokens : Bool) (usage : Option TokenUsage) :
    (countTokens count_tokens usage).Asks (Reports organization_id) := by
  cases count_tokens with
  | false => cases usage <;> trivial
  | true =>
    cases usage with
    | none => trivial
    | some u =>
      exact Prog.Asks.bind (Prog.Asks.ofExcept _) fun _ => Prog.Asks.bind ⟨trivial, fun _ => trivial⟩ fun _ =>
        Prog.Asks.bind (Prog.Asks.ofExcept _) fun _ => ⟨trivial, fun _ => trivial⟩

theorem recordGenerationSuccess_reports (command : CreateResponseCommand) (response : GenerationResponse)
    (outcome provider : String) (count_tokens : Bool) :
    (recordGenerationSuccess command response outcome provider count_tokens).Asks
      (Reports command.organization_id) := by
  refine Prog.Asks.bind ⟨trivial, fun _ => trivial⟩ fun _ =>
    Prog.Asks.bind (countTokens_reports command.organization_id count_tokens response.usage) fun _ =>
      Prog.Asks.bind ⟨trivial, fun _ => trivial⟩ fun id => Prog.Asks.bind ⟨trivial, fun _ => trivial⟩ fun now => ?_
  cases hnew : AuditEvent.new id "response.created" now.val (some command.organization_id)
    (some command.api_key_id) (some command.request_id) "response" (some response.id)
    [("model", response.model), ("outcome", outcome), ("provider", provider)] with
  | error err => trivial
  | ok event =>
    change ((Command.addAudit event).ask.bind Prog.ofExcept).Asks _
    exact Prog.Asks.bind ⟨AuditEvent.new_eq_ok hnew, fun _ => trivial⟩ fun added => Prog.Asks.ofExcept added

theorem Reports.accounts {command : CreateResponseCommand} {c : Command}
    (h : Reports command.organization_id c) : Accounts command c := by
  cases c <;> first | exact h | exact h.elim

theorem recordGenerationSuccess_asks (command : CreateResponseCommand) (response : GenerationResponse)
    (outcome provider : String) (count_tokens : Bool) :
    (recordGenerationSuccess command response outcome provider count_tokens).Asks (Accounts command) :=
  (recordGenerationSuccess_reports command response outcome provider count_tokens).mono fun _ => Reports.accounts

variable (self : CreateResponse)

theorem recordUsage_asks (command : CreateResponseCommand) (provider_name : String)
    (response : GenerationResponse) :
    (self.recordUsage command provider_name response).Asks (Accounts command) := by
  refine Prog.Asks.bind (Prog.Asks.ofExcept _) fun cost =>
    Prog.Asks.bind ⟨trivial, fun _ => trivial⟩ fun id => Prog.Asks.bind ⟨trivial, fun _ => trivial⟩ fun now => ?_
  cases hnew : UsageRecord.new id command.request_id command.organization_id command.api_key_id provider_name
    response.model (response.usage.map (·.input_tokens)) (response.usage.map (·.output_tokens)) cost now.val with
  | error err => trivial
  | ok record =>
    obtain ⟨hrequest, horg, -⟩ := UsageRecord.new_eq_ok hnew
    change ((Command.addUsage record).ask.bind Prog.ofExcept).Asks _
    exact Prog.Asks.bind ⟨⟨horg, hrequest⟩, fun _ => trivial⟩ fun added => Prog.Asks.ofExcept added

theorem beforeRoute_asks (command : CreateResponseCommand) :
    ∀ hook ∈ some (beforeRoute command), ∀ route, (hook route).Asks (TriesRoutes command.organization_id) := by
  intro hook hmem route
  cases hmem
  refine (enforce_asks _).mono ?_
  intro c hc
  cases c <;> first | exact hc | trivial

theorem executeRoutes_asks (command : CreateResponseCommand) :
    (self.provider_executor.execute command.request.model command.request (some (beforeRoute command))).Asks
      (TriesRoutes command.organization_id) := by
  rw [execute_eq]
  refine Prog.Asks.bind (search_asks (beforeRoute_asks command) (fun _ => trivial) (fun _ => trivial) ?_)
    fun _ => trivial
  intro provider request
  exact Prog.Asks.bind ⟨trivial, fun _ => trivial⟩ fun o => Prog.Asks.ofExcept o

theorem streamRoutes_asks (command : CreateResponseCommand) :
    (self.provider_executor.stream command.request.model command.request (some (beforeRoute command))).Asks
      (TriesRoutes command.organization_id) := by
  rw [stream_eq]
  refine Prog.Asks.bind (Prog.Asks.lift (search_asks (beforeRoute_asks command) (fun _ => trivial)
    (fun _ => trivial) ?_)) fun served => Prog.Asks.ofEvents _ _
  intro provider request
  exact Prog.Asks.bind ⟨trivial, fun _ => trivial⟩ fun script => Prog.Asks.ofExcept _

end Asks

section Own

def cacheKey (self : CreateResponse) (command : CreateResponseCommand) : String :=
  RedisResponseCache.redisKey command.organization_id (self.fingerprint command)

/-- The commands that a call may ask, by the part of the call that asks them. -/
inductive Own (self : CreateResponse) (command : CreateResponseCommand) (c : Command) : Prop where
  | meters (h : Meters command.organization_id c)
  | claims (key : String) (hkey : command.idempotency_key = some key)
      (h : OnKey (RedisIdempotencyStore.redisKey command.organization_id key) c)
  | caches (h : OnKey (cacheKey self command) c)
  | routes (h : TriesRoutes command.organization_id c)
  | accounts (h : Accounts command c)

inductive Serves (self : CreateResponse) (command : CreateResponseCommand) (c : Command) : Prop where
  | claims (key : String) (hkey : command.idempotency_key = some key)
      (h : OnKey (RedisIdempotencyStore.redisKey command.organization_id key) c)
  | caches (h : OnKey (cacheKey self command) c)
  | routes (h : TriesRoutes command.organization_id c)
  | accounts (h : Accounts command c)

variable {self : CreateResponse} {command : CreateResponseCommand} {claimed : Option String}

theorem enforce_serves (requested_model : String) (max_output_tokens : Option ℤ) :
    (enforceOrganizationPolicy ⟨command.organization_id, requested_model, max_output_tokens⟩).Asks
      (Serves self command) := by
  refine (enforce_asks _).mono fun c hc => .routes ?_
  cases c <;> first | exact hc | trivial

theorem completeClaim_serves (hclaimed : claimed ≠ none → claimed = command.idempotency_key)
    (response : GenerationResponse) : (self.completeClaim command claimed response).Asks (Serves self command) := by
  cases claimed with
  | none => trivial
  | some key => exact (complete_asks _ _ _ _).mono fun c hc => .claims key (hclaimed nofun).symm hc

theorem releaseClaim_serves (hclaimed : claimed ≠ none → claimed = command.idempotency_key) :
    (CreateResponse.releaseClaim command claimed).Asks (Serves self command) := by
  cases claimed with
  | none => trivial
  | some key => exact (release_asks _ _).mono fun c hc => .claims key (hclaimed nofun).symm hc

theorem recordUsage_serves (provider_name : String) (response : GenerationResponse) :
    (self.recordUsage command provider_name response).Asks (Serves self command) :=
  (recordUsage_asks self command provider_name response).mono fun _ => .accounts

theorem recordGenerationSuccess_serves (response : GenerationResponse) (outcome provider : String)
    (count_tokens : Bool) : (recordGenerationSuccess command response outcome provider count_tokens).Asks
      (Serves self command) :=
  (recordGenerationSuccess_asks command response outcome provider count_tokens).mono fun _ => .accounts

theorem recordGenerationError_serves : recordGenerationError.Asks (Serves self command) :=
  (recordGenerationError_asks command).mono fun _ => .accounts

theorem lookUpCache_serves : (self.lookUpCache command).Asks (Serves self command) := by
  unfold CreateResponse.lookUpCache
  split_ifs
  · exact (cacheGet_asks _ _).mono fun _ => .caches
  · trivial

theorem storeInCache_serves (response : GenerationResponse) :
    (self.storeInCache command response).Asks (Serves self command) := by
  unfold CreateResponse.storeInCache
  split_ifs
  · exact (cacheSet_asks _ _ _ _).mono fun _ => .caches
  · trivial

theorem serveCached_serves (hclaimed : claimed ≠ none → claimed = command.idempotency_key) (payload : String) :
    (self.serveCached command claimed payload).Asks (Serves self command) := by
  refine Prog.Asks.bind (enforce_serves _ _) fun _ => Prog.Asks.bind (Prog.Asks.ofExcept _) fun response => ?_
  exact Prog.Asks.bind (completeClaim_serves hclaimed _) fun _ =>
    Prog.Asks.bind (recordGenerationSuccess_serves _ _ _ _) fun _ => trivial

theorem generate_serves (hclaimed : claimed ≠ none → claimed = command.idempotency_key) :
    (self.generate command claimed).Asks (Serves self command) := by
  refine Prog.Asks.bind ((executeRoutes_asks self command).mono fun _ => .routes) fun execution => ?_
  exact Prog.Asks.bind (recordUsage_serves _ _) fun _ => Prog.Asks.bind (storeInCache_serves _) fun _ =>
    Prog.Asks.bind (completeClaim_serves hclaimed _) fun _ =>
      Prog.Asks.bind (recordGenerationSuccess_serves _ _ _ _) fun _ => trivial

theorem abandon_serves (hclaimed : claimed ≠ none → claimed = command.idempotency_key) (err : Exn) :
    (CreateResponse.abandon command claimed err).Asks (Serves self command) :=
  Prog.Asks.bind (releaseClaim_serves hclaimed) fun _ => Prog.Asks.bind recordGenerationError_serves fun _ => trivial

theorem serve_serves (hclaimed : claimed ≠ none → claimed = command.idempotency_key) :
    (self.serve command claimed).Asks (Serves self command) := by
  refine Prog.Asks.bind lookUpCache_serves fun looked => ?_
  cases looked with
  | some payload => exact serveCached_serves hclaimed payload
  | none => exact Prog.Asks.catching (generate_serves hclaimed) (abandon_serves hclaimed)

theorem replay_accounts (payload : String) : (CreateResponse.replay command payload).Asks (Accounts command) :=
  Prog.Asks.bind (Prog.Asks.ofExcept _) fun _ =>
    Prog.Asks.bind (recordGenerationSuccess_asks command _ _ _ _) fun _ => trivial

theorem Serves.own {c : Command} (h : Serves self command c) : Own self command c := by
  cases h with
  | claims key hkey h => exact .claims key hkey h
  | caches h => exact .caches h
  | routes h => exact .routes h
  | accounts h => exact .accounts h

variable (self command)

/-- `execute` asks what the rate limiter asks, and then what serves the call. -/
theorem execute_asks {P : Command → Prop} (hconsume : (self.rate_limiter.consume command.organization_id).Asks P)
    (hserves : ∀ c, Serves self command c → P c) : (self.execute command).Asks P := by
  refine Prog.Asks.bind hconsume fun decision => ?_
  cases decision.allowed with
  | false => exact Prog.Asks.bind (recordGenerationError_serves.mono hserves) fun _ => trivial
  | true =>
    simp only [Bool.not_true, Bool.false_eq_true, ↓reduceIte]
    cases hkey : command.idempotency_key with
    | none => exact (serve_serves fun h => absurd rfl h).mono hserves
    | some key =>
      refine Prog.Asks.bind ((begin_asks _ _ _).mono fun c hc => hserves c (.claims key hkey hc)) fun begun => ?_
      cases begun with
      | miss => exact (serve_serves fun _ => hkey.symm).mono hserves
      | inProgress => exact Prog.Asks.bind (recordGenerationError_serves.mono hserves) fun _ => trivial
      | completed payload => exact (replay_accounts payload).mono fun c hc => hserves c (.accounts hc)

theorem stream_asks {P : Command → Prop} (hconsume : (self.rate_limiter.consume command.organization_id).Asks P)
    (hserves : ∀ c, Serves self command c → P c) : (self.stream command).Asks P := by
  unfold CreateResponse.stream
  split_ifs
  · trivial
  · refine Prog.Asks.bind (Prog.Asks.lift hconsume) fun decision => ?_
    cases decision.allowed with
    | false => trivial
    | true =>
      simp only [Bool.not_true, Bool.false_eq_true, ↓reduceIte]
      refine Prog.Asks.forEach ((streamRoutes_asks self command).mono fun c hc => hserves c (.routes hc)) ?_
        fun _ _ => Prog.Asks.ofExcept _
      intro _ item
      unfold CreateResponse.passOn
      cases item.payload with
      | delta d => trivial
      | response response =>
        exact Prog.Asks.bind (Prog.Asks.lift ((recordUsage_serves _ _).mono hserves)) fun _ =>
          Prog.Asks.bind (Prog.Asks.lift ((recordGenerationSuccess_serves _ _ _ _).mono hserves)) fun _ => trivial

theorem execute_own : (self.execute command).Asks (Own self command) :=
  execute_asks self command ((consume_asks _ _).mono fun _ => .meters) fun _ => Serves.own

theorem stream_own : (self.stream command).Asks (Own self command) :=
  stream_asks self command ((consume_asks _ _).mono fun _ => .meters) fun _ => Serves.own

end Own

section Scope

/-- The commands that touch nothing of another organization. -/
def Scoped (organization_id : UUID) : Command → Prop
  | .redisSet key _ _ _ => OwnedBy organization_id key
  | .redisGet key => OwnedBy organization_id key
  | .redisDelete key => OwnedBy organization_id key
  | .redisTokenBucket key _ _ _ _ => OwnedBy organization_id key
  | .listEntitlements o => o = organization_id
  | .getPolicy o => o = organization_id
  | .sumTokens o _ _ => o = organization_id
  | .addUsage record => record.organization_id = organization_id
  | .addAudit event => event.organization_id = some organization_id
  | _ => True

variable {organization_id : UUID} {c : Command}

theorem Meters.scoped (h : Meters organization_id c) : Scoped organization_id c := by
  cases c with
  | redisTokenBucket key capacity refill now requested =>
    have hkey : key = RedisRateLimiter.redisKey organization_id := h
    rw [hkey]
    exact OwnedBy.rateLimit
  | time => trivial
  | _ => exact h.elim

theorem OnKey.scoped {key : String} (hkey : OwnedBy organization_id key) (h : OnKey key c) :
    Scoped organization_id c := by
  cases c with
  | redisSet k value nx ex =>
    cases h
    exact hkey
  | redisGet k =>
    cases h
    exact hkey
  | redisDelete k =>
    cases h
    exact hkey
  | _ => exact h.elim

theorem TriesRoutes.scoped (h : TriesRoutes organization_id c) : Scoped organization_id c := by
  cases c <;> first | exact h | trivial

theorem Accounts.scoped {command : CreateResponseCommand} (h : Accounts command c) :
    Scoped command.organization_id c := by
  cases c with
  | addUsage record => exact h.1
  | addAudit event => exact h
  | uuid4 => trivial
  | utcNow => trivial
  | increment name labels amount => trivial
  | _ => exact h.elim

variable {self : CreateResponse} {command : CreateResponseCommand}

theorem Own.scoped (h : Own self command c) : Scoped command.organization_id c := by
  cases h with
  | meters h => exact h.scoped
  | claims key _ h => exact h.scoped (.idempotency key)
  | caches h => exact h.scoped (.cache _)
  | routes h => exact h.scoped
  | accounts h => exact h.scoped

variable (self command)

/-- Every command of `execute` belongs to the organization of the call. -/
theorem execute_scoped : (self.execute command).Asks (Scoped command.organization_id) :=
  (execute_own self command).mono fun _ => Own.scoped

theorem stream_scoped : (self.stream command).Asks (Scoped command.organization_id) :=
  (stream_own self command).mono fun _ => Own.scoped

end Scope

end AIRuntime.ResponseScopes
