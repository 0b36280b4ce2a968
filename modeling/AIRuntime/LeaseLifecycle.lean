import AIRuntime.ResponseRuns

set_option autoImplicit false

/-! What becomes of the lease that a call of `execute` claimed. -/
namespace AIRuntime.LeaseLifecycle

open EffectPrograms Failures Identifiers GenerationContracts Collaborators PolicyEnforcement RedisAdapters
  ResponsePayloads SharedStores ResponseCreation ResponseScopes ServiceRuns ResponseRuns

def Leased (cell : Option RedisEntry) : Prop := ∃ deadline, cell = some ⟨.text statusInProgress, deadline⟩

def CompletedWith (payload : String) (cell : Option RedisEntry) : Prop :=
  ∃ deadline, cell = some ⟨.text (completedPrefix ++ payload), deadline⟩

/-- The record a call should leave: the payload of the response it returned; none, or some completed
payload, when it raised. -/
def Settled (cell : Option RedisEntry) : Except Exn GenerationResponse → Prop
  | .ok response => CompletedWith (serializeResponse response) cell
  | .error _ => cell = none ∨ ∃ payload, CompletedWith payload cell

/-- Whatever payload the call finds cached for its request decodes, and the policy it then reads admits
the requested model. -/
def HitAdmitted (service : CreateResponse) (given : Circumstances) (command : CreateResponseCommand)
    (w : World) : Prop :=
  ∀ payload, cachedPayload service given w (entryTick command) command = some payload →
    policyVerdict given w (entryTick command + 1)
        ⟨command.organization_id, command.request.model, command.request.max_output_tokens⟩ = .ok () ∧
      ∃ response, deserializeResponse payload = .ok response

section Parts

variable {service : CreateResponse} {given : Circumstances} {command : CreateResponseCommand} {key : String}
  {s : Session}

def record (command : CreateResponseCommand) (key : String) (s : Session) : Option RedisEntry :=
  s.world.redis (RedisIdempotencyStore.redisKey command.organization_id key)

theorem completed_not_leased {payload : String} {cell : Option RedisEntry} (h : CompletedWith payload cell) :
    ¬ Leased cell := by
  intro hl
  obtain ⟨d, hd⟩ := h
  obtain ⟨d', hd'⟩ := hl
  rw [hd] at hd'
  have htext : completedPrefix ++ payload = statusInProgress := by
    injection hd' with hentry
    injection hentry with hvalue
    injection hvalue
  have hread := readRecord_completed payload
  rw [htext] at hread
  revert hread
  unfold RedisIdempotencyStore.readRecord
  simp

theorem not_settled_of_leased {cell : Option RedisEntry} (h : Leased cell) (err : Exn) :
    ¬ Settled cell (.error err) := by
  intro hs
  rcases hs with hnone | ⟨payload, hcompleted⟩
  · obtain ⟨d, hd⟩ := h
    rw [hnone] at hd
    cases hd
  · exact completed_not_leased hcompleted h

theorem completeClaim_run (hup : RedisUp given) (httl : 0 < service.idempotency_store.ttl_seconds)
    (response : GenerationResponse) :
    ∃ s', (service.completeClaim command (some key) response).run (collaborators given) s = (.ok (), s') ∧
      CompletedWith (serializeResponse response) (record command key s') := by
  obtain ⟨s', hrun, hacted⟩ := @complete_run given s hup service.idempotency_store httl command.organization_id key
    (serializeResponse response)
  exact ⟨s', hrun, _, hacted.cell⟩

theorem success_wp (response : GenerationResponse) (outcome provider : String) (count_tokens : Bool)
    {I : Option RedisEntry → Prop} (hs : I (record command key s)) :
    (recordGenerationSuccess command response outcome provider count_tokens).wp (collaborators given).environment
      (collaborators given).emit
      (Prog.ends (fun _ s' => I (record command key s')) fun _ s' => I (record command key s')) s :=
  spares_wp ((recordGenerationSuccess_asks command response outcome provider count_tokens).mono
    fun _ => Accounts.spares) hs

/-- Inside the `try` the record stays a lease until it is completed. -/
theorem generate_wp (hup : RedisUp given) (httl : 0 < service.idempotency_store.ttl_seconds)
    (hs : Leased (record command key s)) :
    (service.generate command (some key)).wp (collaborators given).environment (collaborators given).emit
      (Prog.ends (fun response s' => CompletedWith (serializeResponse response) (record command key s'))
        fun _ s' => Leased (record command key s') ∨ ∃ payload, CompletedWith payload (record command key s')) s := by
  refine Prog.wp_seq (spares_wp ((executeRoutes_asks service command).mono fun _ => TriesRoutes.spares) hs)
    (fun execution s hs => ?_) fun _ _ hs => .inl hs
  refine Prog.wp_seq (spares_wp ((recordUsage_asks service command _ _).mono fun _ => Accounts.spares) hs)
    (fun _ s hs => ?_) fun _ _ hs => .inl hs
  have hstore : (service.storeInCache command execution.response).Asks
      (Spares (RedisIdempotencyStore.redisKey command.organization_id key)) := by
    unfold CreateResponse.storeInCache
    split_ifs
    · exact (cacheSet_asks _ _ _ _).mono fun _ => OnKey.spares (idempotencyKey_ne_cacheKey _ _ _ _).symm
    · trivial
  refine Prog.wp_seq (spares_wp hstore hs) (fun _ s hs => ?_) fun _ _ hs => .inl hs
  obtain ⟨s', hrun, hcompleted⟩ := @completeClaim_run service given command key s hup httl execution.response
  refine Prog.wp_bind (Prog.wp_run.mpr ?_)
  rw [hrun]
  exact Prog.wp_seq (success_wp execution.response _ _ _ hcompleted) (fun _ _ h => h) fun _ _ h => .inr ⟨_, h⟩

theorem abandon_wp (hup : RedisUp given) (err : Exn)
    (hs : Leased (record command key s) ∨ ∃ payload, CompletedWith payload (record command key s)) :
    (CreateResponse.abandon command (some key) err).wp (collaborators given).environment (collaborators given).emit
      (fun o s' => Settled (record command key s') o) s := by
  obtain ⟨s', hrun, -, hcell⟩ := @release_run given s hup command.organization_id key
  have hsettled : record command key s' = none ∨ ∃ payload, CompletedWith payload (record command key s') := by
    rcases hcell with hnone | ⟨hkept, hno⟩
    · exact .inl hnone
    · right
      rcases hs with ⟨d, hd⟩ | ⟨payload, d, hd⟩
      · exact absurd (congrArg (Option.map RedisEntry.value) hd) hno
      · exact ⟨payload, d, hkept.trans hd⟩
  refine Prog.wp_bind (Prog.wp_run.mpr ?_)
  change Prog.ends _ _ ((RedisIdempotencyStore.release command.organization_id key).run (collaborators given) s).1
    ((RedisIdempotencyStore.release command.organization_id key).run (collaborators given) s).2
  rw [hrun]
  refine Prog.wp_seq (spares_wp ((recordGenerationError_asks command).mono fun _ => Accounts.spares)
    (I := fun cell => cell = none ∨ ∃ payload, CompletedWith payload cell) hsettled) (fun _ _ h => h) fun _ _ h => h

/-- A cache hit completes the record when its payload is admitted, and leaves the lease when not. -/
theorem serveCached_run (hup : RedisUp given) (httl : 0 < service.idempotency_store.ttl_seconds)
    (hs : Leased (record command key s)) (payload : String) :
    Settled (record command key ((service.serveCached command (some key) payload).run (collaborators given) s).2)
        ((service.serveCached command (some key) payload).run (collaborators given) s).1 ↔
      policyVerdict given s.world s.tick
          ⟨command.organization_id, command.request.model, command.request.max_output_tokens⟩ = .ok () ∧
        ∃ response, deserializeResponse payload = .ok response := by
  obtain ⟨tick, henforce⟩ := enforce_run given s
    ⟨command.organization_id, command.request.model, command.request.max_output_tokens⟩
  unfold CreateResponse.serveCached
  cases hverdict : policyVerdict given s.world s.tick
      ⟨command.organization_id, command.request.model, command.request.max_output_tokens⟩ with
  | error err =>
    rw [hverdict] at henforce
    rw [Prog.bind_eq, Prog.run_bind_error henforce]
    exact ⟨fun h => absurd h (not_settled_of_leased hs err), fun h => nomatch h.1⟩
  | ok u =>
    rw [hverdict] at henforce
    rw [Prog.bind_eq, Prog.run_bind_ok henforce]
    cases hdecode : deserializeResponse payload with
    | error err => exact ⟨fun h => absurd h (not_settled_of_leased hs err), fun h => nomatch h.2⟩
    | ok response =>
      refine ⟨fun _ => ⟨rfl, response, rfl⟩, fun _ => ?_⟩
      obtain ⟨s', hrun, hcompleted⟩ := @completeClaim_run service given command key { s with tick := tick } hup httl
        { response with cached := true }
      change Settled (record command key (Prog.run _ ((service.completeClaim command (some key)
        { response with cached := true }).bind _) _).2) (Prog.run _ ((service.completeClaim command (some key)
        { response with cached := true }).bind _) _).1
      rw [Prog.run_bind_ok hrun]
      refine (Prog.wp_run (Q := fun o s' => Settled (record command key s') o)).mp ?_
      exact Prog.wp_seq (success_wp { response with cached := true } _ _ _ hcompleted) (fun _ _ h => h)
        fun _ _ h => .inr ⟨_, h⟩

end Parts

/-- A call that claimed the lease of its key leaves the record it should exactly when the payload it
may find in the cache is admitted. -/
theorem lease_settled_iff_hit_admitted (service : CreateResponse) (given : Circumstances)
    (command : CreateResponseCommand) (key : String) (w : World) (hkey : command.idempotency_key = some key)
    (h : Enters service given command w) :
    Settled (record command key ((service.execute command).run (collaborators given) (.start w)).2)
        ((service.execute command).run (collaborators given) (.start w)).1 ↔
      HitAdmitted service given command w := by
  obtain ⟨s, hexecute, hentered⟩ := enters_run h
  obtain ⟨s', hserve, honly, htick⟩ := serve_run h.redis_up hentered
  rw [hexecute, hserve, hkey]
  have hleased : Leased (record command key s') := by
    refine ⟨given.redisTime 2 + service.idempotency_store.ttl_seconds, ?_⟩
    unfold record
    rw [honly.others _ (idempotencyKey_ne_cacheKey _ _ _ _)]
    exact hentered.leased key hkey
  unfold HitAdmitted
  cases hpayload : cachedPayload service given w (entryTick command) command with
  | none =>
    refine ⟨fun _ payload hsome => absurd hsome (by simp), fun _ => ?_⟩
    refine (Prog.wp_run (Q := fun o s' => Settled (record command key s') o)).mp ?_
    refine Prog.wp_catching (Prog.wp_mono (Prog.ends_mono (fun _ _ hs => hs) fun err s hs => ?_)
      (generate_wp h.redis_up h.ttl hleased))
    exact abandon_wp h.redis_up err hs
  | some payload =>
    have hcache : command.request.cache = true := by
      unfold cachedPayload at hpayload
      split_ifs at hpayload with hcache
      exact hcache
    have hiff := serveCached_run h.redis_up h.ttl hleased payload
    rw [htick hcache, policyVerdict_rows (honly.usage.trans hentered.usage)] at hiff
    refine hiff.trans ⟨?_, fun hall => hall payload rfl⟩
    intro hadmitted payload' hsome
    cases hsome
    exact hadmitted

theorem emptyWorld_enters :
    Enters sampleService (calm 100 (uuid 3) (sampleResponse none))
      (sampleCommand plainRequest (uuid 3) "req-1" (some "key-1")) emptyWorld :=
  ⟨fun _ => rfl, by decide, by decide +kernel, fun _ _ => rfl⟩

theorem lease_settled_without_cache :
    Enters sampleService (calm 100 (uuid 3) (sampleResponse none))
        (sampleCommand plainRequest (uuid 3) "req-1" (some "key-1")) emptyWorld ∧
      (Settled (record (sampleCommand plainRequest (uuid 3) "req-1" (some "key-1")) "key-1"
          ((sampleService.execute (sampleCommand plainRequest (uuid 3) "req-1" (some "key-1"))).run
            (collaborators (calm 100 (uuid 3) (sampleResponse none))) (.start emptyWorld)).2)
          ((sampleService.execute (sampleCommand plainRequest (uuid 3) "req-1" (some "key-1"))).run
            (collaborators (calm 100 (uuid 3) (sampleResponse none))) (.start emptyWorld)).1 ↔
        HitAdmitted sampleService (calm 100 (uuid 3) (sampleResponse none))
          (sampleCommand plainRequest (uuid 3) "req-1" (some "key-1")) emptyWorld) :=
  ⟨emptyWorld_enters, lease_settled_iff_hit_admitted sampleService
    (calm 100 (uuid 3) (sampleResponse none)) (sampleCommand plainRequest (uuid 3) "req-1" (some "key-1")) "key-1"
    emptyWorld rfl (emptyWorld_enters)⟩

def warmWorld : World :=
  { emptyWorld with
    redis := fun k =>
      if k = RedisResponseCache.redisKey (uuid 3) (sampleService.fingerprint
          (sampleCommand cachedRequest (uuid 3) "req-1" (some "key-1"))) then
        some ⟨.text (serializeResponse (sampleResponse none)), 3600⟩
      else none }

def claudeOnly : Circumstances :=
  { calm 100 (uuid 3) (sampleResponse none) with
    entitlements := fun _ => .ok [⟨uuid 3, "claude-3-5-sonnet-20241022", ExecutorSemantics.claude_nonBlank⟩] }

theorem lease_kept_after_refused_hit :
    Enters sampleService claudeOnly (sampleCommand cachedRequest (uuid 3) "req-1" (some "key-1")) warmWorld ∧
      ¬ Settled (record (sampleCommand cachedRequest (uuid 3) "req-1" (some "key-1")) "key-1"
          ((sampleService.execute (sampleCommand cachedRequest (uuid 3) "req-1" (some "key-1"))).run
            (collaborators claudeOnly) (.start warmWorld)).2)
          ((sampleService.execute (sampleCommand cachedRequest (uuid 3) "req-1" (some "key-1"))).run
            (collaborators claudeOnly) (.start warmWorld)).1 := by
  have henters : Enters sampleService claudeOnly (sampleCommand cachedRequest (uuid 3) "req-1" (some "key-1"))
      warmWorld := by
    refine ⟨fun _ => rfl, by decide, by decide +kernel, ?_⟩
    intro key hkey
    cases hkey
    decide +kernel
  refine ⟨henters, ?_⟩
  have hrecord : record (sampleCommand cachedRequest (uuid 3) "req-1" (some "key-1")) "key-1"
      ((sampleService.execute (sampleCommand cachedRequest (uuid 3) "req-1" (some "key-1"))).run
        (collaborators claudeOnly) (.start warmWorld)).2 = some ⟨.text statusInProgress, 86400⟩ := by
    decide +kernel
  have houtcome : ((sampleService.execute (sampleCommand cachedRequest (uuid 3) "req-1" (some "key-1"))).run
      (collaborators claudeOnly) (.start warmWorld)).1 = .error (.modelNotAvailable "gpt-4o") := by
    decide +kernel
  rw [houtcome]
  exact not_settled_of_leased ⟨86400, hrecord⟩ _

end AIRuntime.LeaseLifecycle
