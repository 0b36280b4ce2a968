import AIRuntime.RateLimitRuns
import AIRuntime.ResponseRuns

set_option autoImplicit false

/-!
What a denied call is told: the first whole second after which a call is allowed. The bucket's key is
under its expiry here, on a server whose time is not the callers'.
-/
namespace AIRuntime.RetryAfter

open EffectPrograms Failures Identifiers Collaborators RedisAdapters SharedStores ServiceRuns ResponseCreation
  ResponseScopes ResponseRuns BucketMeters RateLimitRuns

section Cells

/-- The bucket script on the cell of a key, as `consume` evaluates it. -/
def evalConsume (limiter : RedisRateLimiter) (redis_time now : ℚ) (cell : Option RedisEntry) :
    Except RedisError (Bool × ℤ) × Option RedisEntry :=
  evalBucketCell redis_time limiter.capacity limiter.refillPerSecond now 1 cell

/-- The cells that executions of the script lead to, at any times of the server and of the callers. -/
inductive Reachable (limiter : RedisRateLimiter) : Option RedisEntry → Prop where
  | absent : Reachable limiter none
  | consumed {cell : Option RedisEntry} (redis_time now : ℚ) (h : Reachable limiter cell) :
      Reachable limiter (evalConsume limiter redis_time now cell).2

variable {limiter : RedisRateLimiter}

/-- What the script leaves at a key: the bucket, until it has had time to fill up. -/
def leaves (limiter : RedisRateLimiter) (redis_time now : ℚ) (data : Option Bucket) : RedisEntry :=
  ⟨.bucket (runScript limiter now data).2,
    redis_time + tokenBucketTtl limiter.capacity limiter.refillPerSecond⟩

theorem liveAt_expired {redis_time : ℚ} {entry : RedisEntry} (h : ¬redis_time < entry.deadline) :
    liveAt redis_time (some entry) = none :=
  if_neg h

theorem evalConsume_none {redis_time : ℚ} {cell : Option RedisEntry} (h : liveAt redis_time cell = none) (now : ℚ) :
    evalConsume limiter redis_time now cell =
      (.ok (runScript limiter now none).1, some (leaves limiter redis_time now none)) := by
  rw [evalConsume, evalBucketCell, h]
  rfl

theorem evalConsume_bucket {redis_time : ℚ} {cell : Option RedisEntry} {bucket : Bucket}
    (h : liveAt redis_time cell = some (.bucket bucket)) (now : ℚ) :
    evalConsume limiter redis_time now cell =
      (.ok (runScript limiter now (some bucket)).1, some (leaves limiter redis_time now (some bucket))) := by
  rw [evalConsume, evalBucketCell, h]
  rfl

/-- A cell with a bucket in it that owes nothing. -/
def HoldsBucket (cell : Option RedisEntry) : Prop :=
  ∀ entry, cell = some entry → ∃ bucket, entry.value = .bucket bucket ∧ 0 ≤ bucket.tokens

theorem HoldsBucket.live {cell : Option RedisEntry} (h : HoldsBucket cell) (redis_time : ℚ) :
    liveAt redis_time cell = none ∨
      ∃ bucket, liveAt redis_time cell = some (.bucket bucket) ∧ 0 ≤ bucket.tokens := by
  cases cell with
  | none => exact .inl rfl
  | some entry =>
    obtain ⟨bucket, hvalue, htokens⟩ := h entry rfl
    by_cases hlive : redis_time < entry.deadline
    · exact .inr ⟨bucket, (liveAt_some hlive).trans (congrArg some hvalue), htokens⟩
    · exact .inl (liveAt_expired hlive)

theorem runScript_absent (now : ℚ) :
    runScript limiter now none = runScript limiter now (some ⟨limiter.capacity, now⟩) := rfl

theorem runScript_nonneg (h : Configured limiter) (now : ℚ) {bucket : Bucket} (htokens : 0 ≤ bucket.tokens) :
    0 ≤ (runScript limiter now (some bucket)).2.tokens := by
  rw [(runScript_draw h now bucket).2]
  exact (Meter.draw_bounded (m := h.meter) htokens).1

theorem capacity_nonneg : 0 ≤ limiter.capacity := Nat.cast_nonneg limiter.burst

theorem Reachable.holdsBucket (h : Configured limiter) {cell : Option RedisEntry} (hcell : Reachable limiter cell) :
    HoldsBucket cell := by
  induction hcell with
  | absent => exact nofun
  | consumed redis_time now hcell ih =>
    rintro entry hentry
    rcases ih.live redis_time with hlive | ⟨bucket, hlive, htokens⟩
    · rw [evalConsume_none hlive] at hentry
      cases hentry
      exact ⟨_, rfl, runScript_nonneg h now capacity_nonneg⟩
    · rw [evalConsume_bucket hlive] at hentry
      cases hentry
      exact ⟨_, rfl, runScript_nonneg h now htokens⟩

end Cells

section Denials

variable {limiter : RedisRateLimiter}

theorem runScript_reply (h : Configured limiter) (now : ℚ) (bucket : Bucket) :
    (runScript limiter now (some bucket)).1 =
      ((h.meter.draw now (level bucket)).1,
        if (h.meter.draw now (level bucket)).1 then 0 else h.meter.wait now (level bucket)) := by
  rw [runScript_eq h]
  by_cases hdraw : 1 ≤ h.meter.avail now (level bucket)
  · rw [if_pos hdraw, Meter.draw_true hdraw]
    rfl
  · rw [if_neg hdraw, Meter.draw_false (not_le.mp hdraw)]
    rfl

theorem runScript_full (h : Configured limiter) (now : ℚ) : (runScript limiter now none).1 = (true, 0) := by
  have hfull : (h.meter.draw now (level ⟨limiter.capacity, now⟩)).1 = true := by
    rw [Meter.draw_allowed, Meter.avail_of_le (by exact le_rfl)]
    exact le_min h.meter.capacity_ok h.meter.capacity_ok
  rw [runScript_absent, runScript_reply h, hfull]
  rfl

/-- A denied execution found a bucket, and says how long it takes until there is a unit. -/
theorem denied_reply (h : Configured limiter) {cell : Option RedisEntry} (hcell : Reachable limiter cell)
    {redis_time now : ℚ} {r : ℤ} (hdenied : (evalConsume limiter redis_time now cell).1 = .ok (false, r)) :
    ∃ bucket, 0 ≤ bucket.tokens ∧ h.meter.avail now (level bucket) < 1 ∧ r = h.meter.wait now (level bucket) ∧
      (evalConsume limiter redis_time now cell).2 = some (leaves limiter redis_time now (some bucket)) := by
  rcases (hcell.holdsBucket h).live redis_time with hlive | ⟨bucket, hlive, htokens⟩
  · rw [evalConsume_none hlive, runScript_full h] at hdenied
    cases hdenied
  · rw [evalConsume_bucket hlive] at hdenied ⊢
    rw [runScript_reply h] at hdenied
    cases hdraw : (h.meter.draw now (level bucket)).1 with
    | true =>
      rw [hdraw] at hdenied
      cases hdenied
    | false =>
      rw [hdraw] at hdenied
      cases hdenied
      refine ⟨bucket, htokens, ?_, rfl, rfl⟩
      by_contra hfull
      rw [Meter.draw_allowed.mpr (not_lt.mp hfull)] at hdraw
      cases hdraw

/-- After a denial the key outlives the wait, so that the next execution finds the bucket it left. -/
theorem leaves_live (h : Configured limiter) {redis_time later now : ℚ} {bucket : Bucket} {k : ℤ}
    (htokens : 0 ≤ bucket.tokens) (hk : k ≤ h.meter.wait now (level bucket)) (hlater : later < redis_time + k + 1) :
    liveAt later (some (leaves limiter redis_time now (some bucket))) =
      some (.bucket (runScript limiter now (some bucket)).2) := by
  apply liveAt_some
  have hwait : k ≤ ⌈limiter.capacity / limiter.refillPerSecond⌉ :=
    hk.trans (Meter.wait_le (m := h.meter) htokens)
  have hcast : (k : ℚ) ≤ (⌈limiter.capacity / limiter.refillPerSecond⌉ : ℤ) := Int.cast_le.mpr hwait
  rw [leaves, tokenBucketTtl]
  push_cast
  linarith

end Denials

section Runs

variable {service : CreateResponse} {limiter : RedisRateLimiter} {given : Circumstances} {organization_id : UUID}

/-- At the bucket of an organization, only executions of the script with the limiter's settings. -/
def DrawsOn (limiter : RedisRateLimiter) (organization_id : UUID) (c : Command) : Prop :=
  Spares (RedisRateLimiter.redisKey organization_id) c ∨
    ∃ now, c = .redisTokenBucket (RedisRateLimiter.redisKey organization_id) limiter.capacity
      limiter.refillPerSecond now 1

theorem consume_draws (limiter : RedisRateLimiter) (caller organization_id : UUID) :
    (limiter.consume caller).Asks (DrawsOn limiter organization_id) := by
  refine ⟨.inl trivial, fun now => ⟨?_, fun answered => ?_⟩⟩
  · by_cases hcaller : caller = organization_id
    · rw [hcaller]
      exact .inr ⟨now, rfl⟩
    · exact .inl fun hkey => hcaller (rateLimitKey_injective hkey)
  · cases answered <;> trivial

theorem Serves.draws {command : CreateResponseCommand} {c : Command} (h : Serves service command c) :
    DrawsOn limiter organization_id c := by
  cases h with
  | claims key _ h => exact .inl (OnKey.spares (idempotencyKey_ne_rateLimitKey _ _ _) h)
  | caches h => exact .inl (OnKey.spares (cacheKey_ne_rateLimitKey _ _ _) h)
  | routes h => exact .inl (TriesRoutes.spares h)
  | accounts h => exact .inl (Accounts.spares h)

theorem answer_reachable {s : Session} {c : Command} (hc : DrawsOn limiter organization_id c)
    (h : Reachable limiter (s.world.redis (RedisRateLimiter.redisKey organization_id))) :
    Reachable limiter ((answer given s c).2.world.redis (RedisRateLimiter.redisKey organization_id)) := by
  rcases hc with hc | ⟨now, rfl⟩
  · rw [answer_spares hc]
    exact h
  · simp only [answer, Session.onRedis, World.onRedis]
    cases given.redisFault s.tick with
    | refused err => exact h
    | none | unanswered err =>
      simp only [Fault.apply, RedisServer.onKey_same]
      exact h.consumed _ _

/-- Whatever calls run, a bucket that was not there before is reachable by executions of the script. -/
theorem performAll_reachable (service : CreateResponse) (organization_id : UUID) (arrivals : List Arrival) {w : World}
    (h : Reachable service.rate_limiter (w.redis (RedisRateLimiter.redisKey organization_id))) :
    Reachable service.rate_limiter
      ((performAll service arrivals w).2.redis (RedisRateLimiter.redisKey organization_id)) := by
  induction arrivals generalizing w with
  | nil => exact h
  | cons arrival rest ih =>
    apply ih
    have hkeeps : ∀ s c, DrawsOn service.rate_limiter organization_id c →
        Reachable service.rate_limiter (s.world.redis (RedisRateLimiter.redisKey organization_id)) →
        Reachable service.rate_limiter
          ((answer arrival.given s c).2.world.redis (RedisRateLimiter.redisKey organization_id)) :=
      fun _ _ => answer_reachable
    unfold perform
    cases arrival.call with
    | execute command =>
      have hasks := execute_asks service command (consume_draws _ _ organization_id) fun _ => Serves.draws
      exact Prog.run_invariant (h := collaborators arrival.given)
        (fun s : Session => Reachable _ (s.world.redis (RedisRateLimiter.redisKey organization_id)))
        hkeeps (fun _ e _ => e.elim) hasks h
    | stream command =>
      have hasks := stream_asks service command (consume_draws _ _ organization_id) fun _ => Serves.draws
      exact Prog.run_invariant (h := streaming arrival.given)
        (fun s : Session => Reachable _ (s.world.redis (RedisRateLimiter.redisKey organization_id)))
        hkeeps (fun _ _ hs => hs) hasks h

/-- What `consume` makes of the script's answer; it fails open. -/
def decisionOf : Except RedisError (Bool × ℤ) → RateLimitDecision
  | .error _ => ⟨true, none⟩
  | .ok (allowed, retry_after) => ⟨allowed, if allowed then none else some retry_after⟩

def consumed (limiter : RedisRateLimiter) (given : Circumstances) (w : World) (organization_id : UUID) :
    Except RedisError (Bool × ℤ) × World :=
  (given.redisFault 1).apply w
    (w.onRedis (RedisRateLimiter.redisKey organization_id) (evalConsume limiter (given.redisTime 1) (given.time 0)))

theorem consume_eq (w : World) : (limiter.consume organization_id).run (collaborators given) (.start w) =
    (.ok (decisionOf (consumed limiter given w organization_id).1),
      ⟨(consumed limiter given w organization_id).2, 2, []⟩) := by
  have hclock : Command.time.ask.run (collaborators given) (.start w) =
      ((.ok (given.time 0) : Except Exn ℚ), (Session.start w).next) := rfl
  have hbucket : (Command.redisTokenBucket (RedisRateLimiter.redisKey organization_id) limiter.capacity
      limiter.refillPerSecond (given.time 0) 1).ask.run (collaborators given) (Session.start w).next =
      ((.ok (consumed limiter given w organization_id).1 : Except Exn (Except RedisError (Bool × ℤ))),
        ⟨(consumed limiter given w organization_id).2, 2, []⟩) := rfl
  unfold RedisRateLimiter.consume
  rw [Prog.bind_eq, Prog.run_bind_ok hclock, Prog.bind_eq, Prog.run_bind_ok hbucket]
  cases (consumed limiter given w organization_id).1 <;> rfl

theorem consumed_denied {w : World} (h : (decisionOf (consumed limiter given w organization_id).1).allowed = false) :
    ∃ r, (consumed limiter given w organization_id).1 = .ok (false, r) ∧
      evalConsume limiter (given.redisTime 1) (given.time 0) (w.redis (RedisRateLimiter.redisKey organization_id)) =
        (.ok (false, r),
          (consumed limiter given w organization_id).2.redis (RedisRateLimiter.redisKey organization_id)) := by
  unfold consumed at h ⊢
  cases hfault : given.redisFault 1 with
  | refused err =>
    rw [hfault] at h
    cases h
  | unanswered err =>
    rw [hfault] at h
    cases h
  | none =>
    rw [hfault] at h
    have hreply : (w.redis.onKey (RedisRateLimiter.redisKey organization_id)
        (evalConsume limiter (given.redisTime 1) (given.time 0))).1 =
      (evalConsume limiter (given.redisTime 1) (given.time 0)
        (w.redis (RedisRateLimiter.redisKey organization_id))).1 := rfl
    simp only [Fault.apply, World.onRedis, RedisServer.onKey_same, hreply] at h ⊢
    generalize evalConsume limiter (given.redisTime 1) (given.time 0)
      (w.redis (RedisRateLimiter.redisKey organization_id)) = evaluated at h ⊢
    obtain ⟨reply, cell⟩ := evaluated
    cases reply with
    | error err => cases h
    | ok answered =>
      obtain ⟨allowed, r⟩ := answered
      cases allowed with
      | true => cases h
      | false => exact ⟨r, rfl, rfl⟩

theorem consumed_up {w : World} (h : given.redisFault 1 = .none) :
    (consumed limiter given w organization_id).1 =
      (evalConsume limiter (given.redisTime 1) (given.time 0)
        (w.redis (RedisRateLimiter.redisKey organization_id))).1 := by
  rw [consumed, h]
  rfl

theorem execute_denied {command : CreateResponseCommand} {w : World} {r : ℤ}
    (h : (consumed service.rate_limiter given w command.organization_id).1 = .ok (false, r)) (hr : 1 ≤ r) :
    ((service.execute command).run (collaborators given) (.start w)).1 = .error (.rateLimitExceeded r) := by
  have hconsume := @consume_eq service.rate_limiter given command.organization_id w
  rw [h] at hconsume
  have hmax : max 1 r = r := max_eq_right hr
  unfold CreateResponse.execute
  rw [Prog.bind_eq, Prog.run_bind_ok hconsume]
  exact congrArg (fun n => Except.error (Exn.rateLimitExceeded n)) hmax

theorem stream_denied {command : CreateResponseCommand} {w : World} {r : ℤ} (hkey : command.idempotency_key = none)
    (h : (consumed service.rate_limiter given w command.organization_id).1 = .ok (false, r)) (hr : 1 ≤ r) :
    ((service.stream command).run (streaming given) (.start w)).1 = .error (.rateLimitExceeded r) := by
  have hconsume := @consume_eq service.rate_limiter given command.organization_id w
  rw [h, ← Prog.run_lift (streaming given) (collaborators given) fun _ _ => rfl] at hconsume
  have hmax : max 1 r = r := max_eq_right hr
  unfold CreateResponse.stream
  rw [hkey, if_neg (by exact Bool.false_ne_true), Prog.bind_eq, Prog.run_bind_ok hconsume]
  exact congrArg (fun n => Except.error (Exn.rateLimitExceeded n)) hmax

end Runs

section Retries

variable {given later : Circumstances} {w w' : World} {organization_id : UUID} {k : ℤ}

/-- A call `k` seconds after one that left `w`, with no other of the organization in between. -/
structure CallAfter (k : ℤ) (given : Circumstances) (w : World) (later : Circumstances) (w' : World)
    (organization_id : UUID) : Prop where
  untouched : w'.redis (RedisRateLimiter.redisKey organization_id) =
    w.redis (RedisRateLimiter.redisKey organization_id)
  time : later.time 0 = given.time 0 + k

/-- The server answers the call, and its time has not run ahead by a second. -/
structure Served (k : ℤ) (given later : Circumstances) : Prop where
  redis_up : later.redisFault 1 = .none
  redis_time : later.redisTime 1 < given.redisTime 1 + k + 1

/-- A call that finds the bucket of a denial is decided by the wait. -/
theorem evalConsume_again {limiter : RedisRateLimiter} (h : Configured limiter) {redis_time now : ℚ}
    {cell : Option RedisEntry} {bucket : Bucket} (hempty : h.meter.avail now (level bucket) < 1)
    (hlive : liveAt redis_time cell = some (.bucket (runScript limiter now (some bucket)).2)) (hk : 0 ≤ k) :
    ∃ r, (evalConsume limiter redis_time (now + k) cell).1 =
      .ok (decide (h.meter.wait now (level bucket) ≤ k), r) := by
  rw [evalConsume_bucket hlive, runScript_reply h, (runScript_draw h _ _).2]
  have hallowed : (h.meter.draw (now + k) (h.meter.draw now (level bucket)).2).1 =
      decide (h.meter.wait now (level bucket) ≤ k) := by
    rw [Bool.eq_iff_iff, Meter.draw_after_iff hempty hk, decide_eq_true_iff]
  exact ⟨_, congrArg Except.ok (congrArg₂ Prod.mk hallowed rfl)⟩

section Denied

variable {limiter : RedisRateLimiter} (h : Configured limiter) {bucket : Bucket}
  (hempty : h.meter.avail (given.time 0) (level bucket) < 1)
  (hcell : w.redis (RedisRateLimiter.redisKey organization_id) =
    some (leaves limiter (given.redisTime 1) (given.time 0) (some bucket)))

include hempty hcell

/-- Once the wait is over a call is allowed, also when the key has expired or the server does not answer. -/
theorem allowed_after (hlater : CallAfter k given w later w' organization_id)
    (hk : h.meter.wait (given.time 0) (level bucket) ≤ k) :
    decisionOf (consumed limiter later w' organization_id).1 = ⟨true, none⟩ := by
  have hpos : 0 ≤ k := (Int.zero_lt_one.le.trans (Meter.wait_pos hempty)).trans hk
  cases hfault : later.redisFault 1 with
  | refused err =>
    rw [consumed, hfault]
    rfl
  | unanswered err =>
    rw [consumed, hfault]
    rfl
  | none =>
    rw [consumed_up hfault, hlater.untouched, hcell, hlater.time]
    by_cases hlive : later.redisTime 1 < (leaves limiter (given.redisTime 1) (given.time 0) (some bucket)).deadline
    · obtain ⟨r, hreply⟩ := evalConsume_again h hempty (liveAt_some hlive) hpos
      rw [hreply, decide_eq_true hk]
      rfl
    · rw [evalConsume_none (liveAt_expired hlive), runScript_full h]
      rfl

theorem denied_before (htokens : 0 ≤ bucket.tokens) (hlater : CallAfter k given w later w' organization_id)
    (hserved : Served k given later) (hpos : 0 ≤ k) (hk : k < h.meter.wait (given.time 0) (level bucket)) :
    ∃ r, decisionOf (consumed limiter later w' organization_id).1 = ⟨false, some r⟩ := by
  have hlive := leaves_live h htokens hk.le hserved.redis_time
  rw [consumed_up hserved.redis_up, hlater.untouched, hcell, hlater.time]
  obtain ⟨r, hreply⟩ := evalConsume_again h hempty hlive hpos
  rw [hreply, decide_eq_false (not_le.mpr hk)]
  exact ⟨r, rfl⟩

end Denied

/-- A denied call is told the first whole second after which a call is allowed, and that is what its error says. -/
theorem retry_after_exact (service : CreateResponse) (h : Configured service.rate_limiter)
    {command : CreateResponseCommand} {decision : RateLimitDecision} {s : Session}
    (hreach : Reachable service.rate_limiter (w.redis (RedisRateLimiter.redisKey command.organization_id)))
    (hrun : (service.rate_limiter.consume command.organization_id).run (collaborators given) (.start w) =
      (.ok decision, s))
    (hdenied : decision.allowed = false) :
    ∃ r, decision.retry_after_seconds = some r ∧ 1 ≤ r ∧
      (∀ later w', CallAfter r given s.world later w' command.organization_id →
        ((service.rate_limiter.consume command.organization_id).run (collaborators later) (.start w')).1 =
          .ok ⟨true, none⟩) ∧
      (∀ k : ℤ, 0 ≤ k → k < r → ∀ later w', CallAfter k given s.world later w' command.organization_id →
        Served k given later → ∃ r',
          ((service.rate_limiter.consume command.organization_id).run (collaborators later) (.start w')).1 =
            .ok ⟨false, some r'⟩) ∧
      ((service.execute command).run (collaborators given) (.start w)).1 = .error (.rateLimitExceeded r) ∧
      (command.idempotency_key = none →
        ((service.stream command).run (streaming given) (.start w)).1 = .error (.rateLimitExceeded r)) := by
  rw [consume_eq] at hrun
  cases hrun
  obtain ⟨r, hreply, heval⟩ := consumed_denied hdenied
  obtain ⟨bucket, htokens, hempty, hr, hcell⟩ := denied_reply h hreach (congrArg Prod.fst heval)
  rw [heval] at hcell
  have hpos : 1 ≤ r := hr ▸ Meter.wait_pos hempty
  refine ⟨r, ?_, hpos, ?_, ?_, execute_denied hreply hpos, fun hkey => stream_denied hkey hreply hpos⟩
  · rw [hreply]
    rfl
  · intro later w' hlater
    rw [consume_eq, allowed_after h hempty hcell hlater hr.ge]
  · intro k hnonneg hk later w' hlater hserved
    obtain ⟨r', hagain⟩ := denied_before h hempty hcell htokens hlater hserved hnonneg (hr ▸ hk)
    rw [consume_eq, hagain]
    exact ⟨r', rfl⟩

/-- A burst of one at thirty requests a minute. -/
def soloService : CreateResponse := { sampleService with rate_limiter := ⟨30, 1⟩ }

def at1000 : Circumstances :=
  { calm 100 (uuid 3) (sampleResponse none) with time := fun _ => 1000, redisTime := fun _ => 1000 }

def drained : World :=
  { emptyWorld with redis := fun _ => (evalConsume soloService.rate_limiter 1000 1000 none).2 }

theorem drained_denies :
    decisionOf (consumed soloService.rate_limiter at1000 drained (uuid 3)).1 = ⟨false, some 2⟩ := by
  decide +kernel

theorem second_call_retries_in_two :
    ((soloService.execute (sampleCommand plainRequest (uuid 3) "req-2" none)).run (collaborators at1000)
      (.start drained)).1 = .error (.rateLimitExceeded 2) := by
  have hrun := @consume_eq soloService.rate_limiter at1000 (uuid 3) drained
  rw [drained_denies] at hrun
  obtain ⟨r, hr, -, -, -, hexecute, -⟩ := @retry_after_exact at1000 drained soloService ⟨by decide, by decide⟩
    (sampleCommand plainRequest (uuid 3) "req-2" none) _ _ (Reachable.absent.consumed 1000 1000) hrun rfl
  cases hr
  exact hexecute

end Retries

end AIRuntime.RetryAfter
