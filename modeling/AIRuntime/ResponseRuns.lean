import AIRuntime.ResponseScopes
import AIRuntime.ServiceRuns

set_option autoImplicit false

/-! What each part of `CreateResponse.execute` comes to against the shared stores. -/
namespace AIRuntime.ResponseRuns

open EffectPrograms Failures Identifiers GenerationContracts ModelRouting AccountingRecords PolicyRules
  Collaborators ProviderExecution PolicyEnforcement RedisAdapters ResponsePayloads SharedStores ResponseCreation
  ResponseScopes ServiceRuns

def RedisUp (given : Circumstances) : Prop := ∀ tick, given.redisFault tick = .none

/-- The second session has moved on and differs from the first at most at one Redis key. -/
structure OnlyAt (key : String) (s s' : Session) : Prop where
  others : ∀ k, k ≠ key → s'.world.redis k = s.world.redis k
  usage : s'.world.usage_records = s.world.usage_records
  audit : s'.world.audit_events = s.world.audit_events

def Spares (key : String) : Command → Prop
  | .redisSet k _ _ _ => k ≠ key
  | .redisGet k => k ≠ key
  | .redisDelete k => k ≠ key
  | .redisTokenBucket k _ _ _ _ => k ≠ key
  | _ => True

section Redis

variable {given : Circumstances} {s : Session}

theorem onRedis_onlyAt {α : Type} (key : String)
    (act : ℚ → Option RedisEntry → Except RedisError α × Option RedisEntry) :
    OnlyAt key s (s.onRedis given key act).2 := by
  unfold Session.onRedis World.onRedis
  cases given.redisFault s.tick with
  | refused err => exact ⟨fun _ _ => rfl, rfl, rfl⟩
  | none => exact ⟨fun k hk => RedisServer.onKey_other _ _ hk, rfl, rfl⟩
  | unanswered err => exact ⟨fun k hk => RedisServer.onKey_other _ _ hk, rfl, rfl⟩

theorem onDatabase_redis {α : Type} {act : World → Except Exn α × World}
    (hact : (act s.world).2.redis = s.world.redis) :
    (s.onDatabase given act).2.world.redis = s.world.redis := by
  unfold Session.onDatabase
  cases given.databaseFault s.tick with
  | refused err => rfl
  | none => exact hact
  | unanswered err => exact hact

theorem addUsage_redis (w : World) (record : UsageRecord) : (w.addUsage record).2.redis = w.redis := by
  unfold World.addUsage
  cases w.usage_records.insert record <;> rfl

theorem addAudit_redis (w : World) (event : AuditEvent) : (w.addAudit event).2.redis = w.redis := by
  unfold World.addAudit
  cases w.audit_events.insert event <;> rfl

theorem answer_spares {key : String} {c : Command} (hc : Spares key c) :
    (answer given s c).2.world.redis key = s.world.redis key := by
  cases c with
  | redisSet k value nx ex => exact (onRedis_onlyAt k _).others key (Ne.symm hc)
  | redisGet k => exact (onRedis_onlyAt k _).others key (Ne.symm hc)
  | redisDelete k => exact (onRedis_onlyAt k _).others key (Ne.symm hc)
  | redisTokenBucket k capacity refill clock requested => exact (onRedis_onlyAt k _).others key (Ne.symm hc)
  | sumTokens o start stop =>
    exact congrFun (@onDatabase_redis given s ℤ
      (fun w => (.ok (sumTokensInPeriod w.usage_records.rows o start stop), w)) rfl) key
  | addUsage record => exact congrFun (onDatabase_redis (addUsage_redis s.world record)) key
  | addAudit event => exact congrFun (onDatabase_redis (addAudit_redis s.world event)) key
  | _ => rfl

theorem run_spares {α : Type} {p : Action α} {key : String} (hp : p.Asks (Spares key)) :
    (p.run (collaborators given) s).2.world.redis key = s.world.redis key :=
  Prog.run_invariant (fun s' : Session => s'.world.redis key = s.world.redis key)
    (fun _ _ hc hs => (answer_spares hc).trans hs) (fun _ e _ => e.elim) hp rfl

theorem Meters.spares {organization_id : UUID} {key : String}
    (hkey : RedisRateLimiter.redisKey organization_id ≠ key) {c : Command} (h : Meters organization_id c) :
    Spares key c := by
  cases c with
  | redisTokenBucket k capacity refill clock requested =>
    have hk : k = RedisRateLimiter.redisKey organization_id := h
    rw [hk]
    exact hkey
  | time => trivial
  | _ => exact h.elim

theorem OnKey.spares {k key : String} (hkey : k ≠ key) {c : Command} (h : OnKey k c) : Spares key c := by
  cases c with
  | redisSet k' value nx ex =>
    cases h
    exact hkey
  | redisGet k' =>
    cases h
    exact hkey
  | redisDelete k' =>
    cases h
    exact hkey
  | _ => exact h.elim

theorem TriesRoutes.spares {organization_id : UUID} {key : String} {c : Command}
    (h : TriesRoutes organization_id c) : Spares key c := by
  cases c <;> trivial

theorem Accounts.spares {command : CreateResponseCommand} {key : String} {c : Command}
    (h : Accounts command c) : Spares key c := by
  cases c <;> trivial

end Redis

section Policy

/-- What the monthly quota says to a check whose first read was asked at a tick. -/
def quotaVerdict (given : Circumstances) (w : World) (tick : ℕ) (command : EnforceOrganizationPolicyCommand) :
    Except Exn Unit := do
  let policy ← given.policy (tick + 1)
  match policy.monthly_token_limit with
  | none => .ok ()
  | some limit =>
    let (start, stop) ← currentMonthUtcBounds (given.utcNow (tick + 2)).val
    let used_tokens ← ((given.databaseFault (tick + 3)).apply w
      (.ok (sumTokensInPeriod w.usage_records.rows command.organization_id start stop), w)).1
    let exceeded ← wouldExceedMonthlyQuota used_tokens limit (command.max_output_tokens.getD 0)
    if exceeded then
      let retry_after_seconds ← secondsUntilEndOfMonthUtc (given.utcNow (tick + 2)).val
      .error (.quotaExceeded retry_after_seconds)
    else .ok ()

def policyVerdict (given : Circumstances) (w : World) (tick : ℕ) (command : EnforceOrganizationPolicyCommand) :
    Except Exn Unit := do
  let entitlements ← given.entitlements tick
  if !isModelAllowed command.requested_model (entitlements.map (·.model)) then
    .error (.modelNotAvailable command.requested_model)
  else quotaVerdict given w tick command

theorem sumTokens_world (given : Circumstances) (s : Session) (o : UUID) (start stop : CivilTime.DateTime) :
    (answer given s (.sumTokens o start stop)).2 = s.next := by
  change ({ s.next with world := _ } : Session) = s.next
  have hworld : ((given.databaseFault s.tick).apply s.world
      ((.ok (sumTokensInPeriod s.world.usage_records.rows o start stop) : Except Exn ℤ), s.world)).2 = s.world := by
    cases given.databaseFault s.tick <;> rfl
  rw [hworld]
  rfl

/-- A check in a row of them: when the rest leaves the stores alone, so does the row. -/
theorem run_check {α β : Type} {given : Circumstances} {s : Session} {n : ℕ} {o : Except Exn β}
    {f : β → Action α} {g : β → Except Exn α}
    (h : ∀ b, ∃ tick, (f b).run (collaborators given) { s with tick := n } = (g b, { s with tick := tick })) :
    ∃ tick, ((Prog.ofExcept o).bind f).run (collaborators given) { s with tick := n } =
      (o >>= g, { s with tick := tick }) := by
  cases o with
  | error err => exact ⟨n, rfl⟩
  | ok b => exact h b

theorem checkQuota_run (given : Circumstances) (s : Session) (command : EnforceOrganizationPolicyCommand) :
    ∃ tick, (checkQuota command).run (collaborators given) { s with tick := s.tick + 1 } =
      (quotaVerdict given s.world s.tick command, { s with tick := tick }) := by
  unfold checkQuota quotaVerdict
  simp only [Prog.bind_eq, Prog.ask_bind, Prog.run_call]
  refine run_check (n := s.tick + 2) fun policy => ?_
  cases policy.monthly_token_limit with
  | none => exact ⟨s.tick + 2, rfl⟩
  | some limit =>
    refine run_check (n := s.tick + 3) fun period => ?_
    simp only [Prog.run_call]
    change ∃ tick, Prog.run _ _ (answer given { s with tick := s.tick + 3 }
      (.sumTokens command.organization_id period.1 period.2)).2 = _
    rw [sumTokens_world]
    refine run_check (n := s.tick + 4) fun used_tokens => run_check (n := s.tick + 4) fun exceeded => ?_
    cases exceeded with
    | false => exact ⟨s.tick + 4, rfl⟩
    | true => exact run_check (n := s.tick + 4) fun seconds => ⟨s.tick + 4, rfl⟩

theorem enforce_run (given : Circumstances) (s : Session) (command : EnforceOrganizationPolicyCommand) :
    ∃ tick, (enforceOrganizationPolicy command).run (collaborators given) s =
      (policyVerdict given s.world s.tick command, { s with tick := tick }) := by
  unfold enforceOrganizationPolicy policyVerdict
  simp only [Prog.bind_eq, Prog.ask_bind, Prog.run_call]
  refine run_check (n := s.tick + 1) fun entitlements => ?_
  cases isModelAllowed command.requested_model (entitlements.map (·.model)) with
  | false => exact ⟨s.tick + 1, rfl⟩
  | true => exact checkQuota_run given s command

end Policy

section Parts

variable {given : Circumstances} {s : Session}

theorem spares_wp {α : Type} {p : Action α} {key : String} (hp : p.Asks (Spares key))
    {I : Option RedisEntry → Prop} (hs : I (s.world.redis key)) :
    p.wp (collaborators given).environment (collaborators given).emit
      (Prog.ends (fun _ s' => I (s'.world.redis key)) fun _ s' => I (s'.world.redis key)) s := by
  refine Prog.wp_run.mpr ?_
  have hcell : I ((p.run (collaborators given) s).2.world.redis key) := by
    rw [run_spares hp]
    exact hs
  cases (p.run (collaborators given) s).1 <;> exact hcell

/-- The session after one Redis command that left `cell` at its key. -/
structure Acted (key : String) (cell : Option RedisEntry) (s s' : Session) : Prop extends OnlyAt key s s' where
  tick : s'.tick = s.tick + 1
  cell : s'.world.redis key = cell

theorem onRedis_run {α : Type} (hup : RedisUp given) (key : String)
    (act : ℚ → Option RedisEntry → Except RedisError α × Option RedisEntry) :
    (s.onRedis given key act).1 = (act (given.redisTime s.tick) (s.world.redis key)).1 ∧
      Acted key (act (given.redisTime s.tick) (s.world.redis key)).2 s (s.onRedis given key act).2 := by
  unfold Session.onRedis World.onRedis
  rw [hup s.tick]
  exact ⟨rfl, ⟨fun k hk => RedisServer.onKey_other _ _ hk, rfl, rfl⟩, rfl, RedisServer.onKey_same _ _ _⟩

theorem redisSet_run (hup : RedisUp given) (key value : String) (nx : Bool) (ex : ℤ) :
    ∃ s', (Command.redisSet key value nx ex).ask.run (collaborators given) s =
        (.ok (setCell (given.redisTime s.tick) value nx ex (s.world.redis key)).1, s') ∧
      Acted key (setCell (given.redisTime s.tick) value nx ex (s.world.redis key)).2 s s' := by
  obtain ⟨hr, hacted⟩ := @onRedis_run given s _ hup key fun now => setCell now value nx ex
  exact ⟨_, congrArg₂ Prod.mk (congrArg Except.ok hr) rfl, hacted⟩

theorem redisGet_run (hup : RedisUp given) (key : String) :
    ∃ s', (Command.redisGet key).ask.run (collaborators given) s =
        (.ok (getCell (given.redisTime s.tick) (s.world.redis key)).1, s') ∧
      Acted key (getCell (given.redisTime s.tick) (s.world.redis key)).2 s s' := by
  obtain ⟨hr, hacted⟩ := @onRedis_run given s _ hup key getCell
  exact ⟨_, congrArg₂ Prod.mk (congrArg Except.ok hr) rfl, hacted⟩

theorem redisDelete_run (hup : RedisUp given) (key : String) :
    ∃ s', (Command.redisDelete key).ask.run (collaborators given) s = (.ok (.ok ()), s') ∧
      Acted key none s s' := by
  obtain ⟨hr, hacted⟩ := @onRedis_run given s _ hup key fun _ => deleteCell
  exact ⟨_, congrArg₂ Prod.mk (congrArg Except.ok hr) rfl, hacted⟩

def rateLimitAllows (limiter : RedisRateLimiter) (given : Circumstances) (w : World) (organization_id : UUID) :
    Bool :=
  match (evalBucketCell (given.redisTime 1) limiter.capacity limiter.refillPerSecond (given.time 0) 1
    (w.redis (RedisRateLimiter.redisKey organization_id))).1 with
  | .ok (allowed, _) => allowed
  | .error _ => true

theorem consume_run (hup : RedisUp given) (limiter : RedisRateLimiter) (w : World) (organization_id : UUID) :
    ∃ decision s', (limiter.consume organization_id).run (collaborators given) (.start w) = (.ok decision, s') ∧
      decision.allowed = rateLimitAllows limiter given w organization_id ∧ s'.tick = 2 ∧
      OnlyAt (RedisRateLimiter.redisKey organization_id) (.start w) s' := by
  obtain ⟨hr, hacted⟩ := @onRedis_run given (Session.start w).next _ hup
    (RedisRateLimiter.redisKey organization_id)
    fun now => evalBucketCell now limiter.capacity limiter.refillPerSecond (given.time 0) 1
  have hclock : Command.time.ask.run (collaborators given) (.start w) =
      ((.ok (given.time 0) : Except Exn ℚ), (Session.start w).next) := rfl
  have hbucket : (Command.redisTokenBucket (RedisRateLimiter.redisKey organization_id) limiter.capacity
      limiter.refillPerSecond (given.time 0) 1).ask.run (collaborators given) (Session.start w).next = _ :=
    congrArg₂ Prod.mk (congrArg (Except.ok (ε := Exn)) hr) rfl
  have honly : OnlyAt (RedisRateLimiter.redisKey organization_id) (.start w) _ :=
    ⟨hacted.others, hacted.usage, hacted.audit⟩
  have hreply : (evalBucketCell (given.redisTime (Session.start w).next.tick) limiter.capacity
      limiter.refillPerSecond (given.time 0) 1
      ((Session.start w).next.world.redis (RedisRateLimiter.redisKey organization_id))).1 =
    (evalBucketCell (given.redisTime 1) limiter.capacity limiter.refillPerSecond (given.time 0) 1
      (w.redis (RedisRateLimiter.redisKey organization_id))).1 := rfl
  unfold RedisRateLimiter.consume rateLimitAllows
  rw [Prog.bind_eq, Prog.run_bind_ok hclock, Prog.bind_eq, Prog.run_bind_ok hbucket, hreply]
  cases (evalBucketCell (given.redisTime 1) limiter.capacity limiter.refillPerSecond (given.time 0) 1
    (w.redis (RedisRateLimiter.redisKey organization_id))).1 with
  | error err => exact ⟨_, _, rfl, rfl, hacted.tick, honly⟩
  | ok reply => exact ⟨_, _, rfl, rfl, hacted.tick, honly⟩

theorem begin_claims (hup : RedisUp given) {store : RedisIdempotencyStore} (httl : 0 < store.ttl_seconds)
    {organization_id : UUID} {key : String} (hfree : liveAt (given.redisTime s.tick)
      (s.world.redis (RedisIdempotencyStore.redisKey organization_id key)) = none) :
    ∃ s', (store.begin organization_id key).run (collaborators given) s = (.ok .miss, s') ∧
      Acted (RedisIdempotencyStore.redisKey organization_id key)
        (some ⟨.text statusInProgress, given.redisTime s.tick + store.ttl_seconds⟩) s s' := by
  obtain ⟨s', hset, hacted⟩ := @redisSet_run given s hup (RedisIdempotencyStore.redisKey organization_id key)
    statusInProgress true store.ttl_seconds
  have hcell : ∀ cell, liveAt (given.redisTime s.tick) cell = none →
      setCell (given.redisTime s.tick) statusInProgress true store.ttl_seconds cell =
        (.ok true, some ⟨.text statusInProgress, given.redisTime s.tick + store.ttl_seconds⟩) := by
    intro cell hlive
    unfold setCell
    rw [if_neg (by omega), hlive]
    rfl
  rw [hcell _ hfree] at hset hacted
  refine ⟨s', ?_, hacted⟩
  unfold RedisIdempotencyStore.begin
  rw [Prog.bind_eq, Prog.run_bind_ok hset]
  rfl

theorem setCell_put {now : ℚ} {value : String} {ex : ℤ} (hex : 0 < ex) (cell : Option RedisEntry) :
    setCell now value false ex cell = (.ok true, some ⟨.text value, now + ex⟩) := by
  unfold setCell
  rw [if_neg (by omega)]
  rfl

theorem complete_run (hup : RedisUp given) {store : RedisIdempotencyStore} (httl : 0 < store.ttl_seconds)
    (organization_id : UUID) (key payload : String) :
    ∃ s', (store.complete organization_id key payload).run (collaborators given) s = (.ok (), s') ∧
      Acted (RedisIdempotencyStore.redisKey organization_id key)
        (some ⟨.text (completedPrefix ++ payload), given.redisTime s.tick + store.ttl_seconds⟩) s s' := by
  obtain ⟨s', hset, hacted⟩ := @redisSet_run given s hup (RedisIdempotencyStore.redisKey organization_id key)
    (completedPrefix ++ payload) false store.ttl_seconds
  rw [setCell_put httl] at hset hacted
  refine ⟨s', ?_, hacted⟩
  unfold RedisIdempotencyStore.complete
  rw [Prog.bind_eq, Prog.run_bind_ok hset]
  rfl

/-- A release drops the record when it is a lease, and keeps it, unless it has expired, when not. -/
theorem release_run (hup : RedisUp given) (organization_id : UUID) (key : String) :
    ∃ s', (RedisIdempotencyStore.release organization_id key).run (collaborators given) s = (.ok (), s') ∧
      OnlyAt (RedisIdempotencyStore.redisKey organization_id key) s s' ∧
      (s'.world.redis (RedisIdempotencyStore.redisKey organization_id key) = none ∨
        s'.world.redis (RedisIdempotencyStore.redisKey organization_id key) =
            s.world.redis (RedisIdempotencyStore.redisKey organization_id key) ∧
          (s.world.redis (RedisIdempotencyStore.redisKey organization_id key)).map RedisEntry.value ≠
            some (.text statusInProgress)) := by
  obtain ⟨s₁, hget, hacted⟩ := @redisGet_run given s hup (RedisIdempotencyStore.redisKey organization_id key)
  unfold RedisIdempotencyStore.release
  rw [Prog.bind_eq, Prog.run_bind_ok hget]
  have hcell := hacted.cell
  generalize hbefore : s.world.redis (RedisIdempotencyStore.redisKey organization_id key) = cell at *
  unfold getCell at hcell ⊢
  cases cell with
  | none => exact ⟨s₁, rfl, hacted.toOnlyAt, .inl hcell⟩
  | some entry =>
    by_cases hlive : given.redisTime s.tick < entry.deadline
    · rw [liveAt_some hlive] at hcell ⊢
      cases hvalue : entry.value with
      | bucket data =>
        rw [hvalue] at hcell
        exact ⟨s₁, rfl, hacted.toOnlyAt, .inr ⟨hcell, by simp [hvalue]⟩⟩
      | text value =>
        rw [hvalue] at hcell
        by_cases hlease : value = statusInProgress
        · obtain ⟨s₂, hdelete, hdeleted⟩ := @redisDelete_run given s₁ hup
            (RedisIdempotencyStore.redisKey organization_id key)
          refine ⟨s₂, ?_, ⟨?_, ?_, ?_⟩, .inl hdeleted.cell⟩
          · simp only [hlease, ↓reduceIte]
            rw [Prog.bind_eq, Prog.run_bind_ok hdelete]
            rfl
          · intro k hk
            rw [hdeleted.others k hk, hacted.others k hk]
          · rw [hdeleted.usage, hacted.usage]
          · rw [hdeleted.audit, hacted.audit]
        · refine ⟨s₁, ?_, hacted.toOnlyAt, .inr ⟨hcell, ?_⟩⟩
          · simp only [Option.some.injEq, hlease, ↓reduceIte]
            rfl
          · simpa [hvalue] using hlease
    · have hdead : liveAt (given.redisTime s.tick) (some entry) = none := if_neg hlive
      rw [hdead] at hcell ⊢
      exact ⟨s₁, rfl, hacted.toOnlyAt, .inl hcell⟩

def cachedPayload (service : CreateResponse) (given : Circumstances) (w : World) (tick : ℕ)
    (command : CreateResponseCommand) : Option String :=
  if command.request.cache then
    match (getCell (given.redisTime tick)
      (w.redis (RedisResponseCache.redisKey command.organization_id (service.fingerprint command)))).1 with
    | .ok raw => raw
    | .error _ => none
  else none

theorem lookUpCache_run (hup : RedisUp given) (service : CreateResponse) (command : CreateResponseCommand) :
    ∃ s', (service.lookUpCache command).run (collaborators given) s =
        (.ok (cachedPayload service given s.world s.tick command), s') ∧
      OnlyAt (RedisResponseCache.redisKey command.organization_id (service.fingerprint command)) s s' ∧
      (command.request.cache = true → s'.tick = s.tick + 1) := by
  obtain ⟨s', hget, hacted⟩ := @redisGet_run given s hup
    (RedisResponseCache.redisKey command.organization_id (service.fingerprint command))
  unfold CreateResponse.lookUpCache cachedPayload RedisResponseCache.get
  cases command.request.cache with
  | false => exact ⟨s, rfl, ⟨fun _ _ => rfl, rfl, rfl⟩, fun h => nomatch h⟩
  | true =>
    simp only [↓reduceIte]
    rw [Prog.bind_eq, Prog.run_bind_ok hget]
    refine ⟨s', ?_, hacted.toOnlyAt, fun _ => hacted.tick⟩
    cases (getCell (given.redisTime s.tick)
      (s.world.redis (RedisResponseCache.redisKey command.organization_id (service.fingerprint command)))).1 <;> rfl

theorem policyVerdict_rows {w w' : World} (h : w'.usage_records = w.usage_records) (tick : ℕ)
    (command : EnforceOrganizationPolicyCommand) :
    policyVerdict given w' tick command = policyVerdict given w tick command := by
  have hsum : ∀ {α : Type} (fault : Fault Exn) (r : Except Exn α),
      (fault.apply w' (r, w')).1 = (fault.apply w (r, w)).1 := by
    intro α fault r
    cases fault <;> rfl
  unfold policyVerdict quotaVerdict
  simp only [h, hsum]

/-- No database command of the call fails, and no id it draws is taken. -/
structure DatabaseUp (given : Circumstances) (w : World) : Prop where
  answers : ∀ tick, given.databaseFault tick = .none
  fresh : ∀ event ∈ w.audit_events.rows, ∀ tick, event.id ≠ given.uuid4 tick

theorem auditEvent_ok {id : UUID} {now : UtcInstant} {organization_id actor : UUID} {request_id : String}
    {resource_id model outcome provider : String} (hm : PythonText.isBlank model = false)
    (ho : PythonText.isBlank outcome = false) (hp : PythonText.isBlank provider = false) :
    ∃ event, AuditEvent.new id "response.created" now.val (some organization_id) (some actor) (some request_id)
        "response" (some resource_id) [("model", model), ("outcome", outcome), ("provider", provider)] = .ok event ∧
      event.id = id := by
  have hmodel : metadataProblem "model" model = none := by
    unfold metadataProblem
    rw [hm]
    decide
  have houtcome : metadataProblem "outcome" outcome = none := by
    unfold metadataProblem
    rw [ho]
    decide
  have hprovider : metadataProblem "provider" provider = none := by
    unfold metadataProblem
    rw [hp]
    decide
  have hproblem : AuditEvent.problem "response.created" "response" now.val
      [("model", model), ("outcome", outcome), ("provider", provider)] = none := by
    unfold AuditEvent.problem
    have hzone : now.val.utcoffset ≠ none := by
      rw [now.property]
      simp
    have haction : requireNonBlank "response.created" "action" = none := by decide
    have hresource : requireNonBlank "response" "resource_type" = none := by decide
    rw [haction, hresource, if_neg hzone]
    simp only [List.findSome?_cons, hmodel, houtcome, hprovider, List.findSome?_nil, Option.or_none]
  exact ⟨_, validated_ok hproblem, rfl⟩

/-- A generation that did not come from a provider is recorded when the database answers. -/
theorem success_run {w : World} (hup : DatabaseUp given w) (hs : s.world.audit_events = w.audit_events)
    (command : CreateResponseCommand) (response : GenerationResponse) {outcome provider : String}
    (ho : PythonText.isBlank outcome = false) (hp : PythonText.isBlank provider = false) :
    ((recordGenerationSuccess command response outcome provider false).run (collaborators given) s).1 = .ok () := by
  have hm : PythonText.isBlank response.model = false :=
    requireNonBlank_none.mp (or_none (or_none response.ok).2).1
  obtain ⟨event, hnew, hid⟩ := @auditEvent_ok (given.uuid4 (s.tick + 1)) (given.utcNow (s.tick + 2))
    command.organization_id command.api_key_id command.request_id response.id response.model outcome provider hm ho hp
  have hfree : ∀ a ∈ s.world.audit_events.rows, auditClash a event = false := by
    intro a ha
    rw [hs] at ha
    exact decide_eq_false (by rw [hid]; exact hup.fresh a ha _)
  obtain ⟨after, hinsert⟩ := Table.insert_isSome hfree
  have hadd : ((Command.addAudit event).ask.bind Prog.ofExcept).run (collaborators given) s.next.next.next =
      (.ok (), { s with world := { s.world with audit_events := after }, tick := s.tick + 4 }) := by
    change (Prog.ofExcept (Session.onDatabase s.next.next.next given (World.addAudit · event)).1).run
      (collaborators given) (Session.onDatabase s.next.next.next given (World.addAudit · event)).2 = _
    unfold Session.onDatabase World.addAudit
    simp only [hup.answers, Session.next_world, hinsert]
    rfl
  have hcount : countTokens false response.usage = .done () := by
    cases response.usage <;> rfl
  unfold recordGenerationSuccess
  rw [hcount]
  change (Prog.run (collaborators given) (Prog.bind (Prog.ofExcept (AuditEvent.new (given.uuid4 (s.tick + 1))
    "response.created" (given.utcNow (s.tick + 2)).val _ _ _ _ _ _)) _) s.next.next.next).1 = _
  rw [hnew]
  exact congrArg Prod.fst hadd

end Parts

section Entry

variable {service : CreateResponse} {given : Circumstances} {command : CreateResponseCommand} {w : World}

/-- The call gets past the rate limiter and claims the lease of its key, if it has one: Redis answers,
the bucket has a token, and the `SET NX` finds no record. -/
structure Enters (service : CreateResponse) (given : Circumstances) (command : CreateResponseCommand)
    (w : World) : Prop where
  redis_up : RedisUp given
  ttl : 0 < service.idempotency_store.ttl_seconds
  allowed : rateLimitAllows service.rate_limiter given w command.organization_id = true
  free : ∀ key, command.idempotency_key = some key →
    liveAt (given.redisTime 2) (w.redis (RedisIdempotencyStore.redisKey command.organization_id key)) = none

/-- How many commands a call has asked when it looks into the cache. -/
def entryTick (command : CreateResponseCommand) : ℕ := if command.idempotency_key.isSome then 3 else 2

structure Entered (service : CreateResponse) (given : Circumstances) (command : CreateResponseCommand)
    (w : World) (s : Session) : Prop where
  tick : s.tick = entryTick command
  usage : s.world.usage_records = w.usage_records
  audit : s.world.audit_events = w.audit_events
  cache : ∀ fingerprint, s.world.redis (RedisResponseCache.redisKey command.organization_id fingerprint) =
    w.redis (RedisResponseCache.redisKey command.organization_id fingerprint)
  leased : ∀ key, command.idempotency_key = some key →
    s.world.redis (RedisIdempotencyStore.redisKey command.organization_id key) =
      some ⟨.text statusInProgress, given.redisTime 2 + service.idempotency_store.ttl_seconds⟩

theorem enters_run (h : Enters service given command w) :
    ∃ s, (service.execute command).run (collaborators given) (.start w) =
        (service.serve command command.idempotency_key).run (collaborators given) s ∧
      Entered service given command w s := by
  obtain ⟨decision, s₁, hconsume, hallowed, htick, honly⟩ :=
    consume_run h.redis_up service.rate_limiter w command.organization_id
  rw [h.allowed] at hallowed
  unfold CreateResponse.execute
  rw [Prog.bind_eq, Prog.run_bind_ok hconsume]
  simp only [hallowed, Bool.not_true, Bool.false_eq_true, ↓reduceIte]
  have hcache : ∀ fingerprint, s₁.world.redis (RedisResponseCache.redisKey command.organization_id fingerprint) =
      w.redis (RedisResponseCache.redisKey command.organization_id fingerprint) :=
    fun fingerprint => honly.others _ (cacheKey_ne_rateLimitKey _ _ _)
  have hentry : entryTick command = if command.idempotency_key.isSome then 3 else 2 := rfl
  have hfree := h.free
  cases hkey : command.idempotency_key with
  | none =>
    rw [hkey] at hentry
    refine ⟨s₁, rfl, by rw [htick, hentry]; rfl, honly.usage, honly.audit, hcache, ?_⟩
    intro key hsome
    rw [hkey] at hsome
    cases hsome
  | some key =>
    rw [hkey] at hentry
    have hlive : liveAt (given.redisTime s₁.tick)
        (s₁.world.redis (RedisIdempotencyStore.redisKey command.organization_id key)) = none := by
      rw [htick, honly.others _ (idempotencyKey_ne_rateLimitKey _ _ _)]
      exact hfree key hkey
    obtain ⟨s₂, hbegin, hacted⟩ := begin_claims h.redis_up h.ttl hlive
    refine ⟨s₂, ?_, by rw [hacted.tick, htick, hentry]; rfl, hacted.usage.trans honly.usage,
      hacted.audit.trans honly.audit, ?_, ?_⟩
    · simp only
      rw [Prog.bind_eq, Prog.run_bind_ok hbegin]
    · intro fingerprint
      rw [hacted.others _ (idempotencyKey_ne_cacheKey _ _ _ _).symm]
      exact hcache fingerprint
    · intro key' hsome
      rw [hkey] at hsome
      cases hsome
      rw [hacted.cell, htick]

/-- A call that entered and finds a payload answers from the cache, any other goes to the providers. -/
theorem serve_run (hup : RedisUp given) {s : Session} (hs : Entered service given command w s) :
    ∃ s', (service.serve command command.idempotency_key).run (collaborators given) s =
        (match cachedPayload service given w (entryTick command) command with
          | some payload => service.serveCached command command.idempotency_key payload
          | none => (service.generate command command.idempotency_key).catching
              (CreateResponse.abandon command command.idempotency_key)).run (collaborators given) s' ∧
      OnlyAt (RedisResponseCache.redisKey command.organization_id (service.fingerprint command)) s s' ∧
      (command.request.cache = true → s'.tick = entryTick command + 1) := by
  obtain ⟨s', hlook, honly, htick⟩ := @lookUpCache_run given s hup service command
  have hpayload : cachedPayload service given s.world s.tick command =
      cachedPayload service given w (entryTick command) command := by
    unfold cachedPayload
    rw [hs.cache, hs.tick]
  rw [hpayload] at hlook
  rw [hs.tick] at htick
  refine ⟨s', ?_, honly, htick⟩
  unfold CreateResponse.serve
  rw [Prog.bind_eq]
  exact Prog.run_bind_ok hlook

end Entry

end AIRuntime.ResponseRuns
