import AIRuntime.Collaborators
import Mathlib.Data.Rat.Floor

set_option autoImplicit false

/-!
`infrastructure/redis`: idempotency records, cached responses and the token bucket. A Redis value is
its decoded text. Every adapter fails open: a `RedisError` never reaches its caller.
-/
namespace AIRuntime.RedisAdapters

open EffectPrograms PythonText Identifiers Collaborators

inductive IdempotencyBeginResult where
  | miss
  | inProgress
  | completed (payload : String)
deriving DecidableEq

def statusInProgress : String := "in_progress"

def completedPrefix : String := "completed:"

structure RedisIdempotencyStore where
  ttl_seconds : ℤ

namespace RedisIdempotencyStore

variable (self : RedisIdempotencyStore)

def redisKey (organization_id : UUID) (key : String) : String :=
  "idem:" ++ organization_id.str ++ (":" ++ key)

def readRecord : Option String → IdempotencyBeginResult
  | none => .miss
  | some existing =>
    if existing = statusInProgress then .inProgress
    else
      match stripPrefix? completedPrefix existing with
      | some payload => .completed payload
      | none => .inProgress

/-- `SET NX`, then a `GET` when the key was taken. -/
def begin (organization_id : UUID) (key : String) : Action IdempotencyBeginResult := do
  match ← (Command.redisSet (redisKey organization_id key) statusInProgress true self.ttl_seconds).ask with
  | .error _ => .done .miss
  | .ok true => .done .miss
  | .ok false =>
    match ← (Command.redisGet (redisKey organization_id key)).ask with
    | .error _ => .done .miss
    | .ok raw => .done (readRecord raw)

def complete (organization_id : UUID) (key payload : String) : Action Unit := do
  let _ ← (Command.redisSet (redisKey organization_id key) (completedPrefix ++ payload) false
    self.ttl_seconds).ask

def release (organization_id : UUID) (key : String) : Action Unit := do
  match ← (Command.redisGet (redisKey organization_id key)).ask with
  | .error _ => .done ()
  | .ok current =>
    if current = some statusInProgress then
      let _ ← (Command.redisDelete (redisKey organization_id key)).ask
    else .done ()

end RedisIdempotencyStore

structure RedisResponseCache where
  ttl_seconds : ℤ

namespace RedisResponseCache

variable (self : RedisResponseCache)

def redisKey (organization_id : UUID) (fingerprint : String) : String :=
  "cache:resp:" ++ organization_id.str ++ (":" ++ fingerprint)

def get (organization_id : UUID) (fingerprint : String) : Action (Option String) := do
  match ← (Command.redisGet (redisKey organization_id fingerprint)).ask with
  | .error _ => .done none
  | .ok raw => .done raw

def set (organization_id : UUID) (fingerprint payload : String) : Action Unit := do
  let _ ← (Command.redisSet (redisKey organization_id fingerprint) payload false self.ttl_seconds).ask

end RedisResponseCache

structure RateLimitDecision where
  allowed : Bool
  retry_after_seconds : Option ℤ
deriving DecidableEq

structure RedisRateLimiter where
  requests_per_minute : ℕ
  burst : ℕ

structure Bucket where
  tokens : ℚ
  timestamp : ℚ
deriving DecidableEq

/-- `_TOKEN_BUCKET_SCRIPT` in exact arithmetic: its answer and the hash it leaves. -/
def tokenBucketScript (capacity refill_per_second now requested : ℚ) (data : Option Bucket) :
    (Bool × ℤ) × Bucket :=
  let bucket := data.getD ⟨capacity, now⟩
  let elapsed := max 0 (now - bucket.timestamp)
  let tokens := min capacity (bucket.tokens + elapsed * refill_per_second)
  if requested ≤ tokens then ((true, 0), ⟨tokens - requested, now⟩)
  else ((false, ⌈(requested - tokens) / refill_per_second⌉), ⟨tokens, now⟩)

/-- The `EXPIRE` of the script. -/
def tokenBucketTtl (capacity refill_per_second : ℚ) : ℤ := ⌈capacity / refill_per_second⌉ + 1

namespace RedisRateLimiter

variable (self : RedisRateLimiter)

def capacity : ℚ := self.burst

def refillPerSecond : ℚ := self.requests_per_minute / 60

def redisKey (organization_id : UUID) : String := "rl:org:" ++ organization_id.str

def consume (organization_id : UUID) : Action RateLimitDecision := do
  let now ← Command.time.ask
  match ← (Command.redisTokenBucket (redisKey organization_id) self.capacity self.refillPerSecond now 1).ask with
  | .error _ => .done ⟨true, none⟩
  | .ok (allowed, retry_after) => .done ⟨allowed, if allowed then none else some retry_after⟩

end RedisRateLimiter

section Keys

/-- The keys that belong to an organization. -/
inductive OwnedBy (organization_id : UUID) : String → Prop where
  | idempotency (key : String) : OwnedBy organization_id (RedisIdempotencyStore.redisKey organization_id key)
  | cache (fingerprint : String) :
      OwnedBy organization_id (RedisResponseCache.redisKey organization_id fingerprint)
  | rateLimit : OwnedBy organization_id (RedisRateLimiter.redisKey organization_id)

theorem idempotencyKey_injective {a b : UUID} {k l : String}
    (h : RedisIdempotencyStore.redisKey a k = RedisIdempotencyStore.redisKey b l) : a = b ∧ k = l := by
  obtain ⟨hab, hkl⟩ := scoped_injective h
  refine ⟨hab, ?_⟩
  have hchars := congrArg String.toList hkl
  simp only [String.toList_append] at hchars
  exact String.toList_injective (List.append_cancel_left hchars)

theorem cacheKey_injective {a b : UUID} {k l : String}
    (h : RedisResponseCache.redisKey a k = RedisResponseCache.redisKey b l) : a = b ∧ k = l := by
  obtain ⟨hab, hkl⟩ := scoped_injective h
  refine ⟨hab, ?_⟩
  have hchars := congrArg String.toList hkl
  simp only [String.toList_append] at hchars
  exact String.toList_injective (List.append_cancel_left hchars)

theorem rateLimitKey_injective {a b : UUID}
    (h : RedisRateLimiter.redisKey a = RedisRateLimiter.redisKey b) : a = b := by
  have hempty : "rl:org:" ++ a.str ++ "" = "rl:org:" ++ b.str ++ "" := by
    rw [String.append_empty, String.append_empty]
    exact h
  exact (scoped_injective hempty).1

theorem ne_of_head {p q r s : String} (h : p.toList.head? ≠ q.toList.head?) (hp : p ≠ "") (hq : q ≠ "") :
    p ++ r ≠ q ++ s := by
  intro heq
  have hchars := congrArg String.toList heq
  simp only [String.toList_append] at hchars
  have hhead := congrArg List.head? hchars
  have hne : ∀ {u : String}, u ≠ "" → u.toList ≠ [] := fun hu h0 =>
    hu (String.toList_injective (h0.trans rfl))
  rw [List.head?_append_of_ne_nil _ (hne hp), List.head?_append_of_ne_nil _ (hne hq)] at hhead
  exact h hhead

theorem idempotencyKey_ne_cacheKey (a b : UUID) (k l : String) :
    RedisIdempotencyStore.redisKey a k ≠ RedisResponseCache.redisKey b l := by
  unfold RedisIdempotencyStore.redisKey RedisResponseCache.redisKey
  rw [String.append_assoc, String.append_assoc]
  exact ne_of_head (by decide) (by decide) (by decide)

theorem idempotencyKey_ne_rateLimitKey (a b : UUID) (k : String) :
    RedisIdempotencyStore.redisKey a k ≠ RedisRateLimiter.redisKey b := by
  unfold RedisIdempotencyStore.redisKey RedisRateLimiter.redisKey
  rw [String.append_assoc]
  exact ne_of_head (by decide) (by decide) (by decide)

theorem cacheKey_ne_rateLimitKey (a b : UUID) (k : String) :
    RedisResponseCache.redisKey a k ≠ RedisRateLimiter.redisKey b := by
  unfold RedisResponseCache.redisKey RedisRateLimiter.redisKey
  rw [String.append_assoc]
  exact ne_of_head (by decide) (by decide) (by decide)

theorem OwnedBy.unique {a b : UUID} {key : String} (ha : OwnedBy a key) (hb : OwnedBy b key) : a = b := by
  cases ha with
  | idempotency k =>
    generalize hkey : RedisIdempotencyStore.redisKey a k = key at hb
    cases hb with
    | idempotency l => exact (idempotencyKey_injective hkey).1
    | cache l => exact absurd hkey (idempotencyKey_ne_cacheKey a b k l)
    | rateLimit => exact absurd hkey (idempotencyKey_ne_rateLimitKey a b k)
  | cache k =>
    generalize hkey : RedisResponseCache.redisKey a k = key at hb
    cases hb with
    | idempotency l => exact absurd hkey.symm (idempotencyKey_ne_cacheKey b a l k)
    | cache l => exact (cacheKey_injective hkey).1
    | rateLimit => exact absurd hkey (cacheKey_ne_rateLimitKey a b k)
  | rateLimit =>
    generalize hkey : RedisRateLimiter.redisKey a = key at hb
    cases hb with
    | idempotency l => exact absurd hkey.symm (idempotencyKey_ne_rateLimitKey b a l)
    | cache l => exact absurd hkey.symm (cacheKey_ne_rateLimitKey b a l)
    | rateLimit => exact rateLimitKey_injective hkey

/-- A completed record is read back as the payload it was written for. -/
theorem readRecord_completed (payload : String) :
    RedisIdempotencyStore.readRecord (some (completedPrefix ++ payload)) = .completed payload := by
  have hne : completedPrefix ++ payload ≠ statusInProgress := by
    intro h
    have hchars := congrArg String.toList h
    rw [String.toList_append] at hchars
    cases hchars
  simp only [RedisIdempotencyStore.readRecord, hne, ↓reduceIte, stripPrefix?_append]

end Keys

end AIRuntime.RedisAdapters
