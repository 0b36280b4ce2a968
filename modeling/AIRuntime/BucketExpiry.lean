import AIRuntime.RetryAfter

set_option autoImplicit false

/-!
The expiry of a bucket's key cannot be seen: consuming on a server that deletes the key decides as
consuming on one that keeps it for ever.
-/
namespace AIRuntime.BucketExpiry

open EffectPrograms Failures Identifiers Collaborators RedisAdapters SharedStores ServiceRuns BucketMeters
  RateLimitRuns RetryAfter

section Runs

def consumeAll (limiter : RedisRateLimiter) (organization_id : UUID) :
    World → List Circumstances → List (Except Exn RateLimitDecision)
  | _, [] => []
  | w, given :: rest =>
    let ended := (limiter.consume organization_id).run (collaborators given) (.start w)
    ended.1 :: consumeAll limiter organization_id ended.2.world rest

def consumedLasting (limiter : RedisRateLimiter) (given : Circumstances) (data : Option Bucket) :
    Except RedisError (Bool × ℤ) × Option Bucket :=
  (given.redisFault 1).apply data
    (.ok (runScript limiter (given.time 0) data).1, some (runScript limiter (given.time 0) data).2)

def decideAllLasting (limiter : RedisRateLimiter) : Option Bucket → List Circumstances → List RateLimitDecision
  | _, [] => []
  | data, given :: rest =>
    let answered := consumedLasting limiter given data
    decisionOf answered.1 :: decideAllLasting limiter answered.2 rest

end Runs

section Simulation

variable {limiter : RedisRateLimiter} {given : Circumstances} {offset : ℚ} {data : Option Bucket}
  {cell : Option RedisEntry}

/-- The clock of the callers and the time of the server, `offset` apart. -/
def InStep (offset : ℚ) (given : Circumstances) : Prop := given.redisTime 1 = given.time 0 + offset

/-- A cell beside the bucket that is kept for ever: the same bucket, due when it has had time to fill up. -/
def Mirrors (limiter : RedisRateLimiter) (offset : ℚ) (data : Option Bucket) (cell : Option RedisEntry) : Prop :=
  match data with
  | none => cell = none
  | some bucket => 0 ≤ bucket.tokens ∧ cell = some ⟨.bucket bucket,
      bucket.timestamp + offset + tokenBucketTtl limiter.capacity limiter.refillPerSecond⟩

theorem leaves_mirrors (h : Configured limiter) (hstep : InStep offset given)
    (hdata : ∀ bucket, data = some bucket → 0 ≤ bucket.tokens) :
    Mirrors limiter offset (some (runScript limiter (given.time 0) data).2)
      (some (leaves limiter (given.redisTime 1) (given.time 0) data)) := by
  have hran : ∀ bucket : Bucket, (runScript limiter (given.time 0) (some bucket)).2.timestamp = given.time 0 := by
    intro bucket
    rw [(runScript_draw h _ _).2]
    exact Meter.draw_stamp
  rw [leaves, hstep]
  cases data with
  | none =>
    rw [runScript_absent]
    exact ⟨runScript_nonneg h _ capacity_nonneg, by rw [hran]⟩
  | some bucket => exact ⟨runScript_nonneg h _ (hdata bucket rfl), by rw [hran]⟩

theorem runScript_avail (h : Configured limiter) {now : ℚ} {bucket bucket' : Bucket}
    (havail : h.meter.avail now (level bucket) = h.meter.avail now (level bucket')) :
    runScript limiter now (some bucket) = runScript limiter now (some bucket') := by
  rw [runScript_eq h, runScript_eq h, Meter.wait, Meter.wait, havail]

theorem runScript_due (h : Configured limiter) {bucket : Bucket} {now : ℚ} (htokens : 0 ≤ bucket.tokens)
    (hdue : bucket.timestamp + tokenBucketTtl limiter.capacity limiter.refillPerSecond ≤ now) :
    runScript limiter now none = runScript limiter now (some bucket) := by
  have hlong : bucket.timestamp + ⌈limiter.capacity / limiter.refillPerSecond⌉ ≤ now := by
    rw [tokenBucketTtl] at hdue
    push_cast at hdue
    linarith
  have hfull : h.meter.avail now (level bucket) = limiter.capacity :=
    Meter.avail_full (m := h.meter) htokens hlong
  have habsent : h.meter.avail now (level ⟨limiter.capacity, now⟩) = limiter.capacity := by
    rw [Meter.avail_of_le (by exact le_rfl)]
    exact min_self _
  rw [runScript_absent]
  exact runScript_avail h (habsent.trans hfull.symm)

theorem evalConsume_mirrors (h : Configured limiter) (hstep : InStep offset given)
    (hcell : Mirrors limiter offset data cell) :
    (evalConsume limiter (given.redisTime 1) (given.time 0) cell).1 = .ok (runScript limiter (given.time 0) data).1 ∧
      Mirrors limiter offset (some (runScript limiter (given.time 0) data).2)
        (evalConsume limiter (given.redisTime 1) (given.time 0) cell).2 := by
  cases data with
  | none =>
    cases hcell
    rw [evalConsume_none (by rfl)]
    exact ⟨rfl, leaves_mirrors h hstep nofun⟩
  | some bucket =>
    obtain ⟨htokens, rfl⟩ := hcell
    have hleaves := @leaves_mirrors _ _ _ (some bucket) h hstep fun _ hb => Option.some.inj hb ▸ htokens
    by_cases hlive : given.redisTime 1 <
        bucket.timestamp + offset + tokenBucketTtl limiter.capacity limiter.refillPerSecond
    · rw [evalConsume_bucket (liveAt_some hlive)]
      exact ⟨rfl, hleaves⟩
    · have hdue : bucket.timestamp + tokenBucketTtl limiter.capacity limiter.refillPerSecond ≤ given.time 0 := by
        rw [hstep] at hlive
        linarith
      rw [evalConsume_none (liveAt_expired hlive), leaves, runScript_due h htokens hdue]
      exact ⟨rfl, hleaves⟩

/-- One call: the same decision, whether the server answers or fails. -/
theorem consumed_mirrors (h : Configured limiter) {organization_id : UUID} {w : World} (hstep : InStep offset given)
    (hcell : Mirrors limiter offset data (w.redis (RedisRateLimiter.redisKey organization_id))) :
    (consumed limiter given w organization_id).1 = (consumedLasting limiter given data).1 ∧
      Mirrors limiter offset (consumedLasting limiter given data).2
        ((consumed limiter given w organization_id).2.redis (RedisRateLimiter.redisKey organization_id)) := by
  obtain ⟨hreply, hleft⟩ := evalConsume_mirrors h hstep hcell
  unfold consumed consumedLasting
  cases given.redisFault 1 with
  | refused err => exact ⟨rfl, hcell⟩
  | none =>
    simp only [Fault.apply, World.onRedis, RedisServer.onKey_same]
    exact ⟨hreply, hleft⟩
  | unanswered err =>
    simp only [Fault.apply, World.onRedis, RedisServer.onKey_same]
    exact ⟨trivial, hleft⟩

theorem consumeAll_mirrors (h : Configured limiter) (organization_id : UUID) (calls : List Circumstances) {w : World}
    (hstep : ∀ given ∈ calls, InStep offset given)
    (hcell : Mirrors limiter offset data (w.redis (RedisRateLimiter.redisKey organization_id))) :
    consumeAll limiter organization_id w calls = (decideAllLasting limiter data calls).map .ok := by
  induction calls generalizing w data with
  | nil => rfl
  | cons given rest ih =>
    obtain ⟨hfirst, hrest⟩ := List.forall_mem_cons.mp hstep
    obtain ⟨hreply, hleft⟩ := consumed_mirrors h hfirst hcell
    rw [consumeAll, decideAllLasting, consume_eq, List.map_cons, hreply]
    exact congrArg _ (ih hrest hleft)

/-- Whatever the gaps between the calls, their decisions are those of a server that keeps the key for ever. -/
theorem expiry_invisible (limiter : RedisRateLimiter) (h : Configured limiter) (organization_id : UUID)
    (calls : List Circumstances) (offset : ℚ) (hstep : ∀ given ∈ calls, given.redisTime 1 = given.time 0 + offset)
    (w : World) (hfree : w.redis (RedisRateLimiter.redisKey organization_id) = none) :
    consumeAll limiter organization_id w calls = (decideAllLasting limiter none calls).map .ok :=
  consumeAll_mirrors h organization_id calls hstep hfree

end Simulation

section Samples

def readingAt (now : ℚ) : Circumstances :=
  { calm 100 (uuid 3) (sampleResponse none) with time := fun _ => now, redisTime := fun _ => now + 5 }

/-- The third call comes when the key has expired. -/
theorem expiry_invisible_after_gap :
    consumeAll ⟨30, 1⟩ (uuid 3) emptyWorld [readingAt 1000, readingAt 1001, readingAt 1100] =
      [.ok ⟨true, none⟩, .ok ⟨false, some 1⟩, .ok ⟨true, none⟩] := by
  have hstep : ∀ given ∈ [readingAt 1000, readingAt 1001, readingAt 1100],
      given.redisTime 1 = given.time 0 + 5 := by
    simp only [List.mem_cons, List.not_mem_nil, or_false, forall_eq_or_imp, forall_eq]
    exact ⟨rfl, rfl, rfl⟩
  rw [expiry_invisible ⟨30, 1⟩ ⟨by decide, by decide⟩ (uuid 3) _ 5 hstep emptyWorld rfl]
  have hdecisions : decideAllLasting ⟨30, 1⟩ none [readingAt 1000, readingAt 1001, readingAt 1100] =
      [⟨true, none⟩, ⟨false, some 1⟩, ⟨true, none⟩] := by decide +kernel
  rw [hdecisions]
  rfl

end Samples

end AIRuntime.BucketExpiry
