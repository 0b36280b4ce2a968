import AIRuntime.ResponseRuns

set_option autoImplicit false

/-! A request served and stored by one call, and asked again in another. -/
namespace AIRuntime.CacheAdmission

open EffectPrograms Failures Identifiers GenerationContracts PolicyRules Collaborators PolicyEnforcement
  RedisAdapters ResponsePayloads SharedStores ResponseCreation ResponseScopes ServiceRuns ResponseRuns

section Storing

variable {service : CreateResponse} {given : Circumstances} {command : CreateResponseCommand} {s : Session}

def cached (service : CreateResponse) (command : CreateResponseCommand) (w : World) : Option RedisEntry :=
  w.redis (RedisResponseCache.redisKey command.organization_id (service.fingerprint command))

def Holds (cell : Option RedisEntry) (response : GenerationResponse) : Prop :=
  ∃ deadline, cell = some ⟨.text (serializeResponse response), deadline⟩

theorem storeInCache_run (hup : RedisUp given) (httl : 0 < service.response_cache.ttl_seconds)
    (hcache : command.request.cache = true) (response : GenerationResponse) :
    ∃ s', (service.storeInCache command response).run (collaborators given) s = (.ok (), s') ∧
      Holds (cached service command s'.world) response := by
  obtain ⟨s', hset, hacted⟩ := @redisSet_run given s hup
    (RedisResponseCache.redisKey command.organization_id (service.fingerprint command))
    (serializeResponse response) false service.response_cache.ttl_seconds
  rw [setCell_put httl] at hset hacted
  refine ⟨s', ?_, _, hacted.cell⟩
  unfold CreateResponse.storeInCache RedisResponseCache.set
  rw [hcache]
  simp only [↓reduceIte]
  rw [Prog.bind_eq, Prog.run_bind_ok hset]
  rfl

theorem completeClaim_spares (claimed : Option String) (response : GenerationResponse) :
    (service.completeClaim command claimed response).Asks
      (Spares (RedisResponseCache.redisKey command.organization_id (service.fingerprint command))) := by
  cases claimed with
  | none => trivial
  | some key =>
    exact (complete_asks _ _ _ _).mono fun _ => OnKey.spares (idempotencyKey_ne_cacheKey _ _ _ _)

/-- A response from the providers is in the cache when it is returned. -/
theorem generate_wp (hup : RedisUp given) (httl : 0 < service.response_cache.ttl_seconds)
    (hcache : command.request.cache = true) (claimed : Option String) :
    (service.generate command claimed).wp (collaborators given).environment (collaborators given).emit
      (Prog.ends (fun response s' => Holds (cached service command s'.world) response) fun _ _ => True) s := by
  refine Prog.wp_seq Prog.wp_any (fun execution s _ => ?_) fun _ _ _ => trivial
  refine Prog.wp_seq Prog.wp_any (fun _ s _ => ?_) fun _ _ _ => trivial
  obtain ⟨s', hrun, hholds⟩ := @storeInCache_run service given command s hup httl hcache execution.response
  refine Prog.wp_bind (Prog.wp_run.mpr ?_)
  rw [hrun]
  refine Prog.wp_seq (spares_wp (completeClaim_spares claimed _) (I := fun cell => Holds cell execution.response)
    hholds) (fun _ s hs => ?_) fun _ _ _ => trivial
  exact Prog.wp_seq (spares_wp ((recordGenerationSuccess_asks command _ _ _ _).mono fun _ => Accounts.spares)
    (I := fun cell => Holds cell execution.response) hs) (fun _ _ h => h) fun _ _ _ => trivial

/-- What a call that found nothing in the cache returned is in the cache afterwards. -/
theorem execute_stores {w : World} (h : Enters service given command w)
    (httl : 0 < service.response_cache.ttl_seconds) (hcache : command.request.cache = true)
    (hmiss : cachedPayload service given w (entryTick command) command = none) {response : GenerationResponse}
    (hserved : ((service.execute command).run (collaborators given) (.start w)).1 = .ok response) :
    Holds (cached service command ((service.execute command).run (collaborators given) (.start w)).2.world)
      response := by
  obtain ⟨s, hexecute, hentered⟩ := enters_run h
  obtain ⟨s', hserve, -, -⟩ := serve_run h.redis_up hentered
  rw [hexecute, hserve, hmiss] at hserved ⊢
  have hwp : ((service.generate command command.idempotency_key).catching
      (CreateResponse.abandon command command.idempotency_key)).wp (collaborators given).environment
      (collaborators given).emit
      (Prog.ends (fun response s' => Holds (cached service command s'.world) response) fun _ _ => True) s' := by
    refine Prog.wp_catching (Prog.wp_mono (Prog.ends_mono (fun _ _ hs => hs) fun err s _ => ?_)
      (generate_wp h.redis_up httl hcache _))
    refine Prog.wp_seq Prog.wp_any (fun _ _ _ => ?_) fun _ _ _ => trivial
    exact Prog.wp_seq Prog.wp_any (fun _ _ _ => trivial) fun _ _ _ => trivial
  have hend := Prog.wp_run.mp hwp
  rw [hserved] at hend
  exact hend

end Storing

section Hit

variable {service : CreateResponse} {given : Circumstances} {command : CreateResponseCommand} {w : World}

theorem cachedPayload_some {response : GenerationResponse} {deadline : ℚ} (hcache : command.request.cache = true)
    (hcell : cached service command w = some ⟨.text (serializeResponse response), deadline⟩)
    (halive : given.redisTime (entryTick command) < deadline) :
    cachedPayload service given w (entryTick command) command = some (serializeResponse response) := by
  unfold cachedPayload getCell
  unfold cached at hcell
  rw [hcache, hcell, liveAt_some halive]
  rfl

/-- A hit answers with the stored response exactly when the requested model is allowed. -/
theorem hit_iff_allowed (h : Enters service given command w) (hdb : DatabaseUp given w)
    (hcache : command.request.cache = true) {response : GenerationResponse}
    (hpayload : cachedPayload service given w (entryTick command) command = some (serializeResponse response))
    {entitlements : List ModelEntitlement} (hread : given.entitlements (entryTick command + 1) = .ok entitlements)
    (hquota : quotaVerdict given w (entryTick command + 1)
      ⟨command.organization_id, command.request.model, command.request.max_output_tokens⟩ = .ok ()) :
    ((service.execute command).run (collaborators given) (.start w)).1 =
        .ok { stored response with cached := true } ↔
      isModelAllowed command.request.model (entitlements.map (·.model)) = true := by
  obtain ⟨s, hexecute, hentered⟩ := enters_run h
  obtain ⟨s', hserve, honly, htick⟩ := serve_run h.redis_up hentered
  obtain ⟨tick, henforce⟩ := enforce_run given s'
    ⟨command.organization_id, command.request.model, command.request.max_output_tokens⟩
  rw [htick hcache, policyVerdict_rows (honly.usage.trans hentered.usage)] at henforce
  have hverdict : policyVerdict given w (entryTick command + 1)
      ⟨command.organization_id, command.request.model, command.request.max_output_tokens⟩ =
      if isModelAllowed command.request.model (entitlements.map (·.model)) = true then .ok ()
      else .error (.modelNotAvailable command.request.model) := by
    unfold policyVerdict
    rw [hread, hquota]
    change (if (!isModelAllowed command.request.model (entitlements.map (·.model))) = true then _ else _) = _
    cases isModelAllowed command.request.model (entitlements.map (·.model)) <;> rfl
  rw [hverdict] at henforce
  rw [hexecute, hserve, hpayload]
  change ((service.serveCached command command.idempotency_key (serializeResponse response)).run
    (collaborators given) s').1 = _ ↔ _
  unfold CreateResponse.serveCached
  cases hallowed : isModelAllowed command.request.model (entitlements.map (·.model)) with
  | false =>
    rw [hallowed] at henforce
    rw [Prog.bind_eq, Prog.run_bind_error henforce]
    exact ⟨fun herror => (nomatch herror), fun hfalse => (nomatch hfalse)⟩
  | true =>
    refine ⟨fun _ => rfl, fun _ => ?_⟩
    rw [hallowed] at henforce
    rw [Prog.bind_eq, Prog.run_bind_ok henforce, deserialize_serialize]
    have hclaim : ∃ s'', (service.completeClaim command command.idempotency_key
        { stored response with cached := true }).run (collaborators given) { s' with tick := tick } =
          (.ok (), s'') ∧ s''.world.audit_events = w.audit_events := by
      have haudit := honly.audit.trans hentered.audit
      cases command.idempotency_key with
      | none => exact ⟨_, rfl, haudit⟩
      | some key =>
        obtain ⟨s'', hrun, hacted⟩ := @complete_run given { s' with tick := tick } h.redis_up
          service.idempotency_store h.ttl command.organization_id key
          (serializeResponse { stored response with cached := true })
        exact ⟨s'', hrun, hacted.audit.trans haudit⟩
    obtain ⟨s'', hcomplete, haudit⟩ := hclaim
    have hsuccess := @success_run given s'' w hdb haudit command { stored response with cached := true } "cache"
      "cache" (by decide) (by decide)
    change (Prog.run _ ((service.completeClaim command command.idempotency_key
      { stored response with cached := true }).bind _) { s' with tick := tick }).1 = _
    rw [Prog.run_bind_ok hcomplete]
    cases hrun : (recordGenerationSuccess command { stored response with cached := true } "cache" "cache" false).run
        (collaborators given) s'' with
    | mk o s₃ =>
      rw [hrun] at hsuccess
      change o = .ok () at hsuccess
      rw [hsuccess] at hrun
      rw [Prog.bind_eq, Prog.run_bind_ok hrun]
      rfl

end Hit

/-- The second of two calls: the same request of the same organization, while the first one's payload
is alive, with the service's collaborators answering and neither limit exhausted. -/
structure AskedAgain (service : CreateResponse) (given : Circumstances) (first second : CreateResponseCommand)
    (w₁ w₂ : World) : Prop where
  request : second.request = first.request
  organization : second.organization_id = first.organization_id
  enters : Enters service given second w₂
  database_up : DatabaseUp given w₂
  kept : cached service first w₂ = cached service first w₁
  alive : ∀ entry, cached service first w₁ = some entry → given.redisTime (entryTick second) < entry.deadline
  quota : quotaVerdict given w₂ (entryTick second + 1)
    ⟨second.organization_id, second.request.model, second.request.max_output_tokens⟩ = .ok ()

/-- A response was served from a route and stored. Asked again, the service answers with the stored
response, marked as cached, exactly when the requested model itself is allowed. -/
theorem second_call_hits_iff_model_allowed (service : CreateResponse) (httl : 0 < service.response_cache.ttl_seconds)
    (given₁ given₂ : Circumstances) (first second : CreateResponseCommand) (w w₂ : World)
    (entitlements : List ModelEntitlement) (response : GenerationResponse)
    (h₁ : Enters service given₁ first w) (hcache : first.request.cache = true)
    (hmiss : cachedPayload service given₁ w (entryTick first) first = none)
    (hserved : ((service.execute first).run (collaborators given₁) (.start w)).1 = .ok response)
    (h₂ : AskedAgain service given₂ first second
      ((service.execute first).run (collaborators given₁) (.start w)).2.world w₂)
    (hread : ∀ tick, given₁.entitlements tick = .ok entitlements ∧ given₂.entitlements tick = .ok entitlements) :
    ((service.execute second).run (collaborators given₂) (.start w₂)).1 =
        .ok { stored response with cached := true } ↔
      isModelAllowed first.request.model (entitlements.map (·.model)) = true := by
  obtain ⟨deadline, hcell⟩ := execute_stores h₁ httl hcache hmiss hserved
  have hsame : cached service second w₂ = some ⟨.text (serializeResponse response), deadline⟩ := by
    rw [← hcell, ← h₂.kept]
    unfold cached CreateResponse.fingerprint
    rw [h₂.request, h₂.organization]
  have hcache₂ : second.request.cache = true := by
    rw [h₂.request]
    exact hcache
  have hpayload := cachedPayload_some hcache₂ hsame (h₂.alive _ hcell)
  have hiff := hit_iff_allowed h₂.enters h₂.database_up hcache₂ hpayload (hread _).2 h₂.quota
  rw [h₂.request] at hiff
  exact hiff

section Samples

def entitledTo (models : List ModelEntitlement) (seed : ℕ) : Circumstances :=
  { calm seed (uuid 3) (sampleResponse none) with entitlements := fun _ => .ok models }

def gpt4o : ModelEntitlement := ⟨uuid 3, "gpt-4o", ExecutorSemantics.gpt4o_nonBlank⟩

def claude : ModelEntitlement := ⟨uuid 3, "claude-3-5-sonnet-20241022", ExecutorSemantics.claude_nonBlank⟩

def ask (request_id : String) : CreateResponseCommand := sampleCommand cachedRequest (uuid 3) request_id none

def afterFirst (models : List ModelEntitlement) : World :=
  ((sampleService.execute (ask "req-1")).run (collaborators (entitledTo models 100)) (.start emptyWorld)).2.world

theorem fresh_ids (models : List ModelEntitlement)
    (hids : (afterFirst models).audit_events.rows.all (fun event => event.id.int.val < 200) = true) :
    ∀ event ∈ (afterFirst models).audit_events.rows, ∀ tick, event.id ≠ uuid (200 + tick % 100) := by
  intro event hmem tick heq
  have hlt := of_decide_eq_true (List.all_eq_true.mp hids event hmem)
  rw [heq] at hlt
  change (200 + tick % 100) % 2 ^ 128 < 200 at hlt
  omega

theorem first_enters (models : List ModelEntitlement) :
    Enters sampleService (entitledTo models 100) (ask "req-1") emptyWorld := by
  have hallowed : rateLimitAllows sampleService.rate_limiter (calm 100 (uuid 3) (sampleResponse none)) emptyWorld
      (uuid 3) = true := by
    decide +kernel
  exact ⟨fun _ => rfl, by decide, hallowed, fun _ h => nomatch h⟩

/-- Right after the first call the second one meets all a hit needs. -/
theorem asked_again {models : List ModelEntitlement}
    (hids : (afterFirst models).audit_events.rows.all (fun event => event.id.int.val < 200) = true)
    (halive : (cached sampleService (ask "req-1") (afterFirst models)).all (fun entry => 0 < entry.deadline) = true)
    (hallowed : rateLimitAllows sampleService.rate_limiter (calm 200 (uuid 3) (sampleResponse none))
      (afterFirst models) (uuid 3) = true) :
    AskedAgain sampleService (entitledTo models 200) (ask "req-1") (ask "req-2") (afterFirst models)
      (afterFirst models) := by
  refine ⟨rfl, rfl, ⟨fun _ => rfl, by decide, hallowed, fun _ h => nomatch h⟩, ⟨fun _ => rfl, fresh_ids models hids⟩,
    rfl, ?_, rfl⟩
  intro entry hentry
  rw [hentry] at halive
  exact of_decide_eq_true halive

theorem second_call_hits_when_entitled :
    ((sampleService.execute (ask "req-2")).run (collaborators (entitledTo [gpt4o] 200))
        (.start (afterFirst [gpt4o]))).1 =
        .ok { stored (sampleResponse none) with cached := true } ↔
      isModelAllowed "gpt-4o" ["gpt-4o"] = true :=
  second_call_hits_iff_model_allowed sampleService (by decide) (entitledTo [gpt4o] 100) (entitledTo [gpt4o] 200)
    (ask "req-1") (ask "req-2") emptyWorld (afterFirst [gpt4o]) [gpt4o] (sampleResponse none)
    (first_enters [gpt4o]) rfl rfl (by decide +kernel)
    (asked_again (by decide +kernel) (by decide +kernel) (by decide +kernel)) fun _ => ⟨rfl, rfl⟩

/-- With Claude only, the first call is served over a fallback route, and the second is refused. -/
theorem fallback_response_refused_again :
    Enters sampleService (entitledTo [claude] 100) (ask "req-1") emptyWorld ∧
      ((sampleService.execute (ask "req-1")).run (collaborators (entitledTo [claude] 100)) (.start emptyWorld)).1 =
        .ok (sampleResponse none) ∧
      AskedAgain sampleService (entitledTo [claude] 200) (ask "req-1") (ask "req-2") (afterFirst [claude])
        (afterFirst [claude]) ∧
      ((sampleService.execute (ask "req-2")).run (collaborators (entitledTo [claude] 200))
        (.start (afterFirst [claude]))).1 = .error (.modelNotAvailable "gpt-4o") :=
  ⟨first_enters [claude], by decide +kernel,
    asked_again (by decide +kernel) (by decide +kernel) (by decide +kernel), by decide +kernel⟩

end Samples

end AIRuntime.CacheAdmission
