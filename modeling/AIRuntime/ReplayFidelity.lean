import AIRuntime.LeaseLifecycle

set_option autoImplicit false

/-! What a replay of a completed idempotency record has of the response it stands for. -/
namespace AIRuntime.ReplayFidelity

open EffectPrograms Failures Identifiers GenerationContracts ModelRouting Collaborators ProviderExecution RouteSearch
  ExecutorSemantics SearchRules RedisAdapters ResponsePayloads SharedStores ResponseCreation ResponseScopes
  ServiceRuns ResponseRuns LeaseLifecycle

/-- What `ResponseSchema` shows of a response. -/
structure Exposed where
  id : String
  model : String
  role : MessageRole
  content : String
  tool_calls : List ToolCall
  usage : Option TokenUsage
  cached : Bool
deriving DecidableEq

def exposed (r : GenerationResponse) : Exposed :=
  ⟨r.id, r.model, r.output.role, r.output.content, r.output.tool_calls, r.usage, r.cached⟩

/-- Only the cached flag can tell a response from its stored form. -/
theorem exposed_stored (r : GenerationResponse) : exposed (stored r) = exposed r ↔ r.cached = false := by
  unfold exposed stored
  simp only [Exposed.mk.injEq, true_and]
  exact eq_comm

section Claiming

variable {service : CreateResponse} {given : Circumstances} {command : CreateResponseCommand} {key : String}

def AnswersUncached (given : Circumstances) : Prop :=
  ∀ tick response, given.generate tick = .ok response → response.cached = false

theorem generateOnce_uncached (h : AnswersUncached given) (provider : String) (request : GenerationRequest)
    (s : Session) :
    (generateOnce provider request).wp (collaborators given).environment (collaborators given).emit
      (Prog.ends (fun response _ => response.cached = false) fun _ _ => True) s := by
  apply Prog.wp_answered
  apply Prog.wp_ofExcept
  change Prog.ends _ _ (given.generate s.tick) s.next
  cases hanswer : given.generate s.tick with
  | error err => trivial
  | ok response => exact h s.tick response hanswer

theorem executeRoutes_uncached (h : AnswersUncached given) (s : Session) :
    (service.provider_executor.execute command.request.model command.request (some (beforeRoute command))).wp
      (collaborators given).environment (collaborators given).emit
      (Prog.ends (fun execution _ => execution.response.cached = false) fun _ _ => True) s := by
  rw [execute_eq]
  refine Prog.wp_seq (search_wp (β := GenerationResponse) (I := fun _ => True) (J := fun _ _ => True)
    (Q := fun response _ _ => response.cached = false) ⟨?_, fun _ _ h => h, ?_, ?_, ?_⟩ trivial)
    (fun (served : GenerationResponse × ModelRoute) _ (hs : served.1.cached = false) => hs) fun _ _ _ => trivial
  · intro route s _
    refine Prog.wp_mono ?_ Prog.wp_any
    intro o _ _
    cases o with
    | error err => trivial
    | ok admitted => cases admitted <;> trivial
  · exact fun _ => Prog.keeps_handler fun _ _ => trivial
  · exact fun _ _ => Prog.keeps_handler fun _ _ => trivial
  · exact fun _ s _ => generateOnce_uncached h _ _ s

theorem finish_uncached (claimed : Option String) {execution : ProviderExecutionResult}
    (h : execution.response.cached = false) (s : Session) :
    (service.finish command claimed execution).wp (collaborators given).environment (collaborators given).emit
      (Prog.ends (fun response _ => response.cached = false) fun _ _ => True) s := by
  refine Prog.wp_seq Prog.wp_any (fun _ _ _ => ?_) fun _ _ _ => trivial
  refine Prog.wp_seq Prog.wp_any (fun _ _ _ => ?_) fun _ _ _ => trivial
  refine Prog.wp_seq Prog.wp_any (fun _ _ _ => ?_) fun _ _ _ => trivial
  exact Prog.wp_seq Prog.wp_any (fun _ _ _ => h) fun _ _ _ => trivial

/-- What a call leaves under its key together with the response it returns. -/
def Leaves (command : CreateResponseCommand) (key : String) (cached : Bool) (response : GenerationResponse)
    (s : Session) : Prop :=
  CompletedWith (serializeResponse response) (record command key s) ∧ response.cached = cached

theorem generate_leaves (hup : RedisUp given) (httl : 0 < service.idempotency_store.ttl_seconds)
    (hproviders : AnswersUncached given) {s : Session} (hs : Leased (record command key s)) :
    ((service.generate command (some key)).catching (CreateResponse.abandon command (some key))).wp
      (collaborators given).environment (collaborators given).emit
      (Prog.ends (Leaves command key false) fun _ _ => True) s := by
  have huncached : (service.generate command (some key)).wp (collaborators given).environment
      (collaborators given).emit (Prog.ends (fun response _ => response.cached = false) fun _ _ => True) s :=
    Prog.wp_seq (executeRoutes_uncached hproviders s) (fun _ s h => finish_uncached (some key) h s)
      fun _ _ _ => trivial
  apply Prog.wp_catching
  refine Prog.wp_mono ?_ (Prog.wp_and (generate_wp hup httl hs) huncached)
  intro o s hs
  cases o with
  | ok response => exact hs
  | error err =>
    refine Prog.wp_seq Prog.wp_any (fun _ _ _ => ?_) fun _ _ _ => trivial
    exact Prog.wp_seq Prog.wp_any (fun _ _ _ => trivial) fun _ _ _ => trivial

theorem serveCached_leaves (hup : RedisUp given) (httl : 0 < service.idempotency_store.ttl_seconds)
    (payload : String) (s : Session) :
    (service.serveCached command (some key) payload).wp (collaborators given).environment (collaborators given).emit
      (Prog.ends (Leaves command key true) fun _ _ => True) s := by
  refine Prog.wp_seq Prog.wp_any (fun _ s _ => ?_) fun _ _ _ => trivial
  apply Prog.wp_bind
  apply Prog.wp_ofExcept
  cases deserializeResponse payload with
  | error err => trivial
  | ok response =>
    obtain ⟨s', hrun, hcompleted⟩ := @completeClaim_run service given command key s hup httl
      { response with cached := true }
    refine Prog.wp_bind (Prog.wp_run.mpr ?_)
    rw [hrun]
    exact Prog.wp_seq (success_wp { response with cached := true } _ _ _ hcompleted) (fun _ _ h => ⟨h, rfl⟩)
      fun _ _ _ => trivial

/-- A call that claimed its key and returned a response leaves its payload there; the response is marked
as cached when the call found a payload in the cache. -/
theorem execute_leaves {w : World} (hkey : command.idempotency_key = some key) (h : Enters service given command w)
    (hproviders : AnswersUncached given) {response : GenerationResponse}
    (hserved : ((service.execute command).run (collaborators given) (.start w)).1 = .ok response) :
    Leaves command key (cachedPayload service given w (entryTick command) command).isSome response
      ((service.execute command).run (collaborators given) (.start w)).2 := by
  obtain ⟨s, hexecute, hentered⟩ := enters_run h
  obtain ⟨s', hserve, honly, -⟩ := serve_run h.redis_up hentered
  rw [hexecute, hserve, hkey] at hserved ⊢
  have hleased : Leased (record command key s') := by
    refine ⟨given.redisTime 2 + service.idempotency_store.ttl_seconds, ?_⟩
    unfold record
    rw [honly.others _ (idempotencyKey_ne_cacheKey _ _ _ _)]
    exact hentered.leased key hkey
  cases hpayload : cachedPayload service given w (entryTick command) command with
  | none =>
    rw [hpayload] at hserved
    have hend := Prog.wp_run.mp (generate_leaves h.redis_up h.ttl hproviders hleased)
    rw [hserved] at hend
    exact hend
  | some payload =>
    rw [hpayload] at hserved
    have hend := Prog.wp_run.mp (@serveCached_leaves service given command key h.redis_up h.ttl payload s')
    rw [hserved] at hend
    exact hend

end Claiming

section Keeping

variable {service : CreateResponse} {given : Circumstances} {command : CreateResponseCommand} {w : World}

theorem Own.spares {organization_id : UUID} {key : String}
    (hother : command.idempotency_key = some key → command.organization_id ≠ organization_id) {c : Command}
    (h : Own service command c) : Spares (RedisIdempotencyStore.redisKey organization_id key) c := by
  cases h with
  | meters h => exact Meters.spares (idempotencyKey_ne_rateLimitKey _ _ _).symm h
  | claims key' hkey h =>
    refine OnKey.spares ?_ h
    intro heq
    obtain ⟨horg, hsame⟩ := idempotencyKey_injective heq
    rw [hsame] at hkey
    exact hother hkey horg
  | caches h => exact OnKey.spares (idempotencyKey_ne_cacheKey _ _ _ _).symm h
  | routes h => exact TriesRoutes.spares h
  | accounts h => exact Accounts.spares h

def Alive (given : Circumstances) (deadline : ℚ) : Prop := ∀ tick, given.redisTime tick < deadline

/-- A begin that finds a completed record reads its payload and leaves it there. -/
theorem begin_completed (hup : RedisUp given) {store : RedisIdempotencyStore} (httl : 0 < store.ttl_seconds)
    {organization_id : UUID} {key payload : String} {deadline : ℚ} (halive : Alive given deadline) {s : Session}
    (hcell : s.world.redis (RedisIdempotencyStore.redisKey organization_id key) =
      some ⟨.text (completedPrefix ++ payload), deadline⟩) :
    ∃ s', (store.begin organization_id key).run (collaborators given) s = (.ok (.completed payload), s') ∧
      s'.world.redis (RedisIdempotencyStore.redisKey organization_id key) =
        some ⟨.text (completedPrefix ++ payload), deadline⟩ ∧ s'.world.audit_events = s.world.audit_events := by
  have hlive : ∀ tick, liveAt (given.redisTime tick) (some ⟨.text (completedPrefix ++ payload), deadline⟩) =
      some (.text (completedPrefix ++ payload)) := fun tick => liveAt_some (halive tick)
  obtain ⟨s₁, hset, hacted₁⟩ := @redisSet_run given s hup (RedisIdempotencyStore.redisKey organization_id key)
    statusInProgress true store.ttl_seconds
  have htaken : setCell (given.redisTime s.tick) statusInProgress true store.ttl_seconds
      (some ⟨.text (completedPrefix ++ payload), deadline⟩) =
        (.ok false, some ⟨.text (completedPrefix ++ payload), deadline⟩) := by
    unfold setCell
    rw [if_neg (by omega), hlive]
    rfl
  rw [hcell, htaken] at hset hacted₁
  obtain ⟨s₂, hget, hacted₂⟩ := @redisGet_run given s₁ hup (RedisIdempotencyStore.redisKey organization_id key)
  have hread : getCell (given.redisTime s₁.tick) (some ⟨.text (completedPrefix ++ payload), deadline⟩) =
      (.ok (some (completedPrefix ++ payload)), some ⟨.text (completedPrefix ++ payload), deadline⟩) := by
    unfold getCell
    rw [hlive]
  rw [hacted₁.cell, hread] at hget hacted₂
  refine ⟨s₂, ?_, hacted₂.cell, hacted₂.audit.trans hacted₁.audit⟩
  unfold RedisIdempotencyStore.begin
  rw [Prog.bind_eq, Prog.run_bind_ok hset]
  simp only
  rw [Prog.bind_eq, Prog.run_bind_ok hget]
  simp only [readRecord_completed]
  rfl

/-- What `execute` does with a decision of the rate limiter, when its key has a completed record. -/
def replayIfAllowed (command : CreateResponseCommand) (payload : String) (decision : RateLimitDecision) :
    Action GenerationResponse :=
  if !decision.allowed then recordGenerationError.bind fun _ => .raise (CreateResponse.rateLimitError decision)
  else CreateResponse.replay command payload

theorem execute_replays (hup : RedisUp given) (httl : 0 < service.idempotency_store.ttl_seconds)
    {key payload : String} {deadline : ℚ} (hkey : command.idempotency_key = some key)
    (halive : Alive given deadline)
    (hcell : w.redis (RedisIdempotencyStore.redisKey command.organization_id key) =
      some ⟨.text (completedPrefix ++ payload), deadline⟩) :
    ∃ decision s', (service.execute command).run (collaborators given) (.start w) =
        (replayIfAllowed command payload decision).run (collaborators given) s' ∧
      decision.allowed = rateLimitAllows service.rate_limiter given w command.organization_id ∧
      s'.world.redis (RedisIdempotencyStore.redisKey command.organization_id key) =
        some ⟨.text (completedPrefix ++ payload), deadline⟩ ∧ s'.world.audit_events = w.audit_events := by
  obtain ⟨decision, s₁, hconsume, hallowed, -, honly⟩ :=
    consume_run hup service.rate_limiter w command.organization_id
  have hkept : s₁.world.redis (RedisIdempotencyStore.redisKey command.organization_id key) =
      some ⟨.text (completedPrefix ++ payload), deadline⟩ :=
    (honly.others _ (idempotencyKey_ne_rateLimitKey _ _ _)).trans hcell
  unfold CreateResponse.execute
  rw [Prog.bind_eq, Prog.run_bind_ok hconsume, hkey]
  by_cases hdecision : decision.allowed = true
  · obtain ⟨s₂, hbegin, hcell₂, haudit⟩ := begin_completed hup httl halive hkept
    refine ⟨decision, s₂, ?_, hallowed, hcell₂, haudit.trans honly.audit⟩
    unfold replayIfAllowed
    simp only [hdecision, Bool.not_true, Bool.false_eq_true, ↓reduceIte]
    rw [Prog.bind_eq, Prog.run_bind_ok hbegin]
  · refine ⟨decision, s₁, ?_, hallowed, hkept, honly.audit⟩
    unfold replayIfAllowed
    simp only [hdecision, Bool.not_false, ↓reduceIte]
    rfl

theorem replayIfAllowed_accounts (payload : String) (decision : RateLimitDecision) :
    (replayIfAllowed command payload decision).Asks (Accounts command) := by
  unfold replayIfAllowed
  split_ifs
  · exact Prog.Asks.bind (recordGenerationError_asks command) fun _ => trivial
  · exact replay_accounts payload

/-- A replay answers with the payload's response when the database does. -/
theorem replay_run {response : GenerationResponse} {s : Session} (hup : DatabaseUp given w)
    (hs : s.world.audit_events = w.audit_events) :
    ((CreateResponse.replay command (serializeResponse response)).run (collaborators given) s).1 =
      .ok (stored response) := by
  have hsuccess := @success_run given s w hup hs command (stored response) "idempotent" "replay" (by decide)
    (by decide)
  unfold CreateResponse.replay
  rw [deserialize_serialize]
  cases hrun : (recordGenerationSuccess command (stored response) "idempotent" "replay" false).run
      (collaborators given) s with
  | mk o s' =>
    rw [hrun] at hsuccess
    change o = .ok () at hsuccess
    rw [hsuccess] at hrun
    change (Prog.run _ ((recordGenerationSuccess command (stored response) "idempotent" "replay" false).bind _) s).1 = _
    rw [Prog.run_bind_ok hrun]
    rfl

/-- A call comes within the lifetime of a record: if it names the record's key, Redis answers it and its
clock has not reached the deadline. -/
def Within (organization_id : UUID) (key : String) (deadline : ℚ) (arrival : Arrival) : Prop :=
  arrival.call.command.organization_id = organization_id → arrival.call.command.idempotency_key = some key →
    RedisUp arrival.given ∧ Alive arrival.given deadline

theorem perform_keeps (httl : 0 < service.idempotency_store.ttl_seconds) {organization_id : UUID}
    {key payload : String} {deadline : ℚ} {arrival : Arrival} (h : Within organization_id key deadline arrival)
    (hcell : w.redis (RedisIdempotencyStore.redisKey organization_id key) =
      some ⟨.text (completedPrefix ++ payload), deadline⟩) :
    (perform service arrival w).2.redis (RedisIdempotencyStore.redisKey organization_id key) =
      some ⟨.text (completedPrefix ++ payload), deadline⟩ := by
  unfold Within at h
  unfold perform
  cases hcall : arrival.call with
  | stream command =>
    by_cases hkey : command.idempotency_key.isSome = true
    · have hrefused : service.stream command =
          .raise (.domainValidation "Idempotency-Key is not supported for streaming requests.") := if_pos hkey
      simp only [hrefused]
      exact hcell
    · have hspares : (service.stream command).Asks (Spares (RedisIdempotencyStore.redisKey organization_id key)) :=
        (stream_own service command).mono fun _ => Own.spares fun hsome _ => hkey (by rw [hsome]; rfl)
      exact Prog.run_invariant (fun s : Session => s.world.redis
        (RedisIdempotencyStore.redisKey organization_id key) = _) (fun _ _ hc hs => (answer_spares hc).trans hs)
        (fun _ _ hs => hs) hspares hcell
  | execute command =>
    rw [hcall] at h
    by_cases hsame : command.organization_id = organization_id ∧ command.idempotency_key = some key
    · obtain ⟨rfl, hkey⟩ := hsame
      obtain ⟨hup, halive⟩ := h rfl hkey
      obtain ⟨decision, s', hrun, -, hcell', -⟩ := execute_replays hup httl hkey halive hcell
      simp only [hrun]
      exact (run_spares ((replayIfAllowed_accounts payload decision).mono fun _ => Accounts.spares)).trans hcell'
    · have hspares : (service.execute command).Asks (Spares (RedisIdempotencyStore.redisKey organization_id key)) :=
        (execute_own service command).mono fun _ => Own.spares fun hkey horg => hsame ⟨horg, hkey⟩
      exact (run_spares hspares).trans hcell

theorem performAll_keeps (httl : 0 < service.idempotency_store.ttl_seconds) {organization_id : UUID}
    {key payload : String} {deadline : ℚ} {arrivals : List Arrival}
    (h : ∀ arrival ∈ arrivals, Within organization_id key deadline arrival)
    (hcell : w.redis (RedisIdempotencyStore.redisKey organization_id key) =
      some ⟨.text (completedPrefix ++ payload), deadline⟩) :
    (performAll service arrivals w).2.redis (RedisIdempotencyStore.redisKey organization_id key) =
      some ⟨.text (completedPrefix ++ payload), deadline⟩ := by
  induction arrivals generalizing w with
  | nil => exact hcell
  | cons arrival rest ih =>
    apply ih
    · exact fun a ha => h a (List.mem_cons_of_mem arrival ha)
    · exact perform_keeps httl (h arrival List.mem_cons_self) hcell

end Keeping

/-- A later call with the key of a completed record: it comes within the record's lifetime, the rate limiter
lets it pass and the database answers it. -/
structure Replays (service : CreateResponse) (given : Circumstances) (command : CreateResponseCommand)
    (organization_id : UUID) (key : String) (w : World) : Prop where
  organization : command.organization_id = organization_id
  idempotency_key : command.idempotency_key = some key
  redis_up : RedisUp given
  alive : ∀ entry, w.redis (RedisIdempotencyStore.redisKey organization_id key) = some entry →
    Alive given entry.deadline
  allowed : rateLimitAllows service.rate_limiter given w organization_id = true
  database_up : DatabaseUp given w

/-- A call claimed its key and returned a response; other calls followed, then one with the same key. Its
response shows the same fields exactly when the first call had found nothing in the cache. -/
theorem replay_faithful_iff_cache_missed (service : CreateResponse) (given₁ given₂ : Circumstances)
    (first second : CreateResponseCommand) (key : String) (w : World) (between : List Arrival)
    (response : GenerationResponse) (hkey : first.idempotency_key = some key) (h₁ : Enters service given₁ first w)
    (hproviders : AnswersUncached given₁)
    (hserved : ((service.execute first).run (collaborators given₁) (.start w)).1 = .ok response)
    (hbetween : ∀ entry, record first key ((service.execute first).run (collaborators given₁) (.start w)).2 =
      some entry → ∀ arrival ∈ between, Within first.organization_id key entry.deadline arrival)
    (h₂ : Replays service given₂ second first.organization_id key
      (performAll service between ((service.execute first).run (collaborators given₁) (.start w)).2.world).2) :
    (∃ replayed, ((service.execute second).run (collaborators given₂) (.start (performAll service between
        ((service.execute first).run (collaborators given₁) (.start w)).2.world).2)).1 = .ok replayed ∧
      exposed replayed = exposed response) ↔
      cachedPayload service given₁ w (entryTick first) first = none := by
  obtain ⟨⟨deadline, hcell⟩, hcached⟩ := execute_leaves hkey h₁ hproviders hserved
  have hkept := performAll_keeps (w := ((service.execute first).run (collaborators given₁) (.start w)).2.world)
    h₁.ttl (hbetween _ hcell) hcell
  generalize (performAll service between
    ((service.execute first).run (collaborators given₁) (.start w)).2.world).2 = w₂ at hkept h₂ ⊢
  have hcell₂ := hkept
  rw [← h₂.organization] at hcell₂
  obtain ⟨decision, s', hrun, hdecision, -, haudit⟩ :=
    execute_replays h₂.redis_up h₁.ttl h₂.idempotency_key (h₂.alive _ hkept) hcell₂
  have hallowed : decision.allowed = true := by
    rw [hdecision, h₂.organization]
    exact h₂.allowed
  have hreplay : ((service.execute second).run (collaborators given₂) (.start w₂)).1 = .ok (stored response) := by
    rw [hrun]
    unfold replayIfAllowed
    simp only [hallowed, Bool.not_true, Bool.false_eq_true, ↓reduceIte]
    exact replay_run h₂.database_up haudit
  have hnone : response.cached = false ↔ cachedPayload service given₁ w (entryTick first) first = none := by
    rw [hcached]
    exact Option.isSome_eq_false_iff.trans Option.isNone_iff_eq_none
  rw [hreplay, ← hnone, ← exposed_stored]
  constructor
  · intro h
    obtain ⟨replayed, hreplayed, hsame⟩ := h
    cases hreplayed
    exact hsame
  · exact fun h => ⟨stored response, rfl, h⟩

section Samples

def keyed (request : GenerationRequest) (request_id : String) : CreateResponseCommand :=
  sampleCommand request (uuid 3) request_id (some "key-1")

def calmly (seed : ℕ) : Circumstances := calm seed (uuid 3) (sampleResponse none)

def firstRun (request : GenerationRequest) (w : World) : Except Exn GenerationResponse × Session :=
  (sampleService.execute (keyed request "req-1")).run (collaborators (calmly 100)) (.start w)

theorem calmly_uncached (seed : ℕ) : AnswersUncached (calmly seed) := by
  intro tick response h
  cases h
  rfl

/-- The ids of the audit rows, the deadline of the record and the bucket admit the second call. -/
def leftOpen (w : World) : Bool :=
  w.audit_events.rows.all (fun event => event.id.int.val < 200) &&
    (w.redis (RedisIdempotencyStore.redisKey (uuid 3) "key-1")).all (fun entry => 0 < entry.deadline) &&
    rateLimitAllows sampleService.rate_limiter (calmly 200) w (uuid 3)

theorem firstRun_enters {request : GenerationRequest} {w : World}
    (hallowed : rateLimitAllows sampleService.rate_limiter (calmly 100) w (uuid 3) = true)
    (hfree : liveAt 0 (w.redis (RedisIdempotencyStore.redisKey (uuid 3) "key-1")) = none) :
    Enters sampleService (calmly 100) (keyed request "req-1") w := by
  refine ⟨fun _ => rfl, by decide, hallowed, ?_⟩
  intro key hkey
  cases hkey
  exact hfree

/-- Right after the first call a second one with its key is a replay. -/
theorem secondRun_replays {request : GenerationRequest} {w : World}
    (hleft : leftOpen (firstRun request w).2.world = true) :
    Replays sampleService (calmly 200) (keyed request "req-2") (uuid 3) "key-1" (firstRun request w).2.world := by
  obtain ⟨⟨hids, halive⟩, hallowed⟩ : (_ ∧ _) ∧ _ := by simpa only [leftOpen, Bool.and_eq_true] using hleft
  refine ⟨rfl, rfl, fun _ => rfl, ?_, hallowed, fun _ => rfl, ?_⟩
  · intro entry hentry _
    rw [hentry] at halive
    exact of_decide_eq_true halive
  · intro event hmem tick heq
    have hlt := of_decide_eq_true (List.all_eq_true.mp hids event hmem)
    rw [heq] at hlt
    change (200 + tick % 100) % 2 ^ 128 < 200 at hlt
    omega

theorem replay_faithful_without_cache :
    (∃ replayed, ((sampleService.execute (keyed plainRequest "req-2")).run (collaborators (calmly 200))
        (.start (firstRun plainRequest emptyWorld).2.world)).1 = .ok replayed ∧
      exposed replayed = exposed (sampleResponse none)) ↔
      cachedPayload sampleService (calmly 100) emptyWorld 3 (keyed plainRequest "req-1") = none :=
  replay_faithful_iff_cache_missed sampleService (calmly 100) (calmly 200) (keyed plainRequest "req-1")
    (keyed plainRequest "req-2") "key-1" emptyWorld [] (sampleResponse none) rfl
    (firstRun_enters (by decide +kernel) (by decide +kernel)) (calmly_uncached 100) (by decide +kernel)
    (fun _ _ _ hmem => nomatch hmem)
    (secondRun_replays (by decide +kernel))

/-- The response of a call that a cached payload answered comes back without its cached flag. -/
theorem replay_loses_cached_flag :
    Enters sampleService (calmly 100) (keyed cachedRequest "req-1") warmWorld ∧
      (firstRun cachedRequest warmWorld).1 = .ok { sampleResponse none with cached := true } ∧
      Replays sampleService (calmly 200) (keyed cachedRequest "req-2") (uuid 3) "key-1"
        (firstRun cachedRequest warmWorld).2.world ∧
      ((sampleService.execute (keyed cachedRequest "req-2")).run (collaborators (calmly 200))
        (.start (firstRun cachedRequest warmWorld).2.world)).1 = .ok (sampleResponse none) ∧
      exposed (sampleResponse none) ≠ exposed { sampleResponse none with cached := true } :=
  ⟨firstRun_enters (by decide +kernel) (by decide +kernel), by decide +kernel,
    secondRun_replays (by decide +kernel), by decide +kernel, by decide⟩

end Samples

end AIRuntime.ReplayFidelity
