import Mathlib.Data.Rat.Floor
import AIRuntime.BucketMeters
import AIRuntime.SharedStores

set_option autoImplicit false

/-! Runs of the rate-limit script on the bucket of one organization, whose key does not expire. -/
namespace AIRuntime.RateLimitRuns

open RedisAdapters SharedStores BucketMeters

/-- One execution of the script by `consume` at a reading of the caller's clock. -/
def runScript (limiter : RedisRateLimiter) (now : ℚ) (data : Option Bucket) : (Bool × ℤ) × Bucket :=
  tokenBucketScript limiter.capacity limiter.refillPerSecond now 1 data

/-- Executions at a list of readings: which were allowed, and the bucket each left. -/
def runScripts (limiter : RedisRateLimiter) : Option Bucket → List ℚ → List (Bool × Bucket)
  | _, [] => []
  | data, now :: rest =>
    let ran := runScript limiter now data
    (ran.1.1, ran.2) :: runScripts limiter (some ran.2) rest

section Meters

structure Configured (limiter : RedisRateLimiter) : Prop where
  burst : 1 ≤ limiter.burst
  requests_per_minute : 1 ≤ limiter.requests_per_minute

def Configured.meter {limiter : RedisRateLimiter} (h : Configured limiter) : Meter ℚ where
  capacity := limiter.capacity
  rate := limiter.refillPerSecond
  capacity_ok := by
    unfold RedisRateLimiter.capacity
    exact_mod_cast h.burst
  rate_ok := by
    have hpos : (0 : ℚ) < limiter.requests_per_minute := by exact_mod_cast h.requests_per_minute
    unfold RedisRateLimiter.refillPerSecond
    positivity

def level (bucket : Bucket) : Level ℚ := ⟨bucket.tokens, bucket.timestamp⟩

def ofLevel (l : Level ℚ) : Bucket := ⟨l.amount, l.stamp⟩

variable {limiter : RedisRateLimiter}

theorem runScript_eq (h : Configured limiter) (now : ℚ) (bucket : Bucket) :
    runScript limiter now (some bucket) =
      if 1 ≤ h.meter.avail now (level bucket) then
        ((true, 0), ⟨h.meter.avail now (level bucket) - 1, now⟩)
      else ((false, h.meter.wait now (level bucket)), ⟨h.meter.avail now (level bucket), now⟩) := rfl

theorem runScript_draw (h : Configured limiter) (now : ℚ) (bucket : Bucket) :
    (runScript limiter now (some bucket)).1.1 = (h.meter.draw now (level bucket)).1 ∧
      (runScript limiter now (some bucket)).2 = ofLevel (h.meter.draw now (level bucket)).2 := by
  by_cases hdraw : 1 ≤ h.meter.avail now (level bucket)
  · rw [runScript_eq h, if_pos hdraw, Meter.draw_true hdraw]
    exact ⟨rfl, rfl⟩
  · rw [runScript_eq h, if_neg hdraw, Meter.draw_false (not_le.mp hdraw)]
    exact ⟨rfl, rfl⟩

theorem runScripts_draws (h : Configured limiter) (bucket : Bucket) (clocks : List ℚ) :
    runScripts limiter (some bucket) clocks =
      (h.meter.draws (level bucket) clocks).map fun d => (d.1, ofLevel d.2) := by
  induction clocks generalizing bucket with
  | nil => rfl
  | cons now rest ih =>
    obtain ⟨hallowed, hbucket⟩ := runScript_draw h now bucket
    unfold runScripts Meter.draws
    simp only [List.map_cons, hallowed, hbucket]
    rw [ih]
    rfl

theorem runScripts_absent (now : ℚ) (rest : List ℚ) :
    runScripts limiter none (now :: rest) = runScripts limiter (some ⟨limiter.capacity, now⟩) (now :: rest) := rfl

theorem window_eq {clocks : List ℚ} {i j : ℕ} (hi : i < clocks.length) (hij : i ≤ j) :
    (clocks.drop i).take (j + 1 - i) = clocks[i] :: (clocks.drop (i + 1)).take (j - i) := by
  rw [List.drop_eq_getElem_cons hi, show j + 1 - i = (j - i) + 1 by omega, List.take_succ_cons]

theorem window_range {clocks : List ℚ} (hclock : clocks.Pairwise (· ≤ ·)) {i j : ℕ} (hj : j < clocks.length)
    (hij : i ≤ j) : ∀ t ∈ (clocks.drop (i + 1)).take (j - i), t ≤ clocks[j] := by
  intro t ht
  obtain ⟨k, hk, rfl⟩ := List.mem_iff_getElem.mp ht
  rw [List.length_take, List.length_drop] at hk
  rw [List.getElem_take, List.getElem_drop]
  by_cases hlast : i + 1 + k = j
  · simp only [hlast, le_refl]
  · exact List.pairwise_iff_getElem.mp hclock _ _ _ hj (by omega)

/-- Over every window of every run from an absent key, as long as the clock does not run back, the tokens
stay within the burst and no more calls are allowed than the burst and what the window refills. -/
theorem allowed_within_window (limiter : RedisRateLimiter) (h : Configured limiter) (clocks : List ℚ)
    (hclock : clocks.Pairwise (· ≤ ·)) :
    (∀ call ∈ runScripts limiter none clocks, 0 ≤ call.2.tokens ∧ call.2.tokens ≤ limiter.burst) ∧
      ∀ (i j : ℕ) (hi : i < clocks.length) (hj : j < clocks.length), i ≤ j →
        ((((runScripts limiter none clocks).drop i).take (j + 1 - i)).countP (·.1) : ℚ) ≤
          limiter.burst + limiter.requests_per_minute / 60 * (clocks[j] - clocks[i]) := by
  cases clocks with
  | nil => exact ⟨fun call hcall => (nomatch hcall), fun i j hi => absurd hi (Nat.not_lt_zero i)⟩
  | cons first rest =>
    have hfull : 0 ≤ (level ⟨limiter.capacity, first⟩).amount := Nat.cast_nonneg limiter.burst
    rw [runScripts_absent, runScripts_draws h]
    refine ⟨?_, ?_⟩
    · intro call hcall
      obtain ⟨d, hd, rfl⟩ := List.mem_map.mp hcall
      exact Meter.draws_bounded hfull d hd
    · intro i j hi hj hij
      rw [← List.map_drop, ← List.map_take, List.countP_map, Meter.draws_drop, Meter.draws_take, window_eq hi hij]
      have hsorted : ((first :: rest)[i] :: ((first :: rest).drop (i + 1)).take (j - i)).Pairwise (· ≤ ·) := by
        rw [← window_eq hi hij]
        exact hclock.sublist ((List.take_sublist _ _).trans (List.drop_sublist _ _))
      have hends : (first :: rest)[i] ≤ (first :: rest)[j] := by
        by_cases hlast : i = j
        · simp only [hlast, le_refl]
        · exact List.pairwise_iff_getElem.mp hclock _ _ hi hj (by omega)
      exact Meter.window_le (m := h.meter) (Meter.drain_nonneg hfull) (window_range hclock hj hij) hsorted hends

/-- Five calls of a burst of three, the last one a second later. -/
theorem allowed_within_window_burst :
    [1000, 1000, 1000, 1000, 1001].Pairwise (α := ℚ) (· ≤ ·) ∧
      (((runScripts ⟨60, 3⟩ none [1000, 1000, 1000, 1000, 1001]).drop 0).take 5).countP (·.1) ≤
        (3 + 60 / 60 * (1001 - 1000) : ℚ) := by
  have hwindow := (allowed_within_window ⟨60, 3⟩ ⟨by decide, by decide⟩ [1000, 1000, 1000, 1000, 1001]
    (by norm_num)).2 0 4 (by decide) (by decide) (by decide)
  exact ⟨by norm_num, hwindow⟩

end Meters

section Skew

/-- A run with inserted calls beside the run without them: some call of the latter is denied there, and
allowed with them. The flag marks the inserted calls. -/
def Mints (limiter : RedisRateLimiter) : Bucket → Bucket → List (Bool × ℚ) → Prop
  | _, _, [] => False
  | inserted, plain, (true, now) :: rest => Mints limiter (runScript limiter now (some inserted)).2 plain rest
  | inserted, plain, (false, now) :: rest =>
    ((runScript limiter now (some inserted)).1.1 = true ∧ (runScript limiter now (some plain)).1.1 = false) ∨
      Mints limiter (runScript limiter now (some inserted)).2 (runScript limiter now (some plain)).2 rest

def InsertsBehind (limiter : RedisRateLimiter) : Bucket → List (Bool × ℚ) → Prop
  | _, [] => True
  | bucket, (inserted, now) :: rest =>
    (inserted = true → now < bucket.timestamp) ∧
      InsertsBehind limiter (runScript limiter now (some bucket)).2 rest

variable {limiter : RedisRateLimiter}

theorem insertsBehind_plain (bucket : Bucket) (clocks : List ℚ) :
    InsertsBehind limiter bucket (clocks.map fun now => (false, now)) := by
  induction clocks generalizing bucket with
  | nil => trivial
  | cons now rest ih => exact ⟨fun h => (nomatch h), ih _⟩

theorem mints_of_flips (h : Configured limiter) {inserted plain : Bucket} {clocks : List ℚ}
    (hflips : Meter.Flips (h.meter.decisions (level plain) clocks) (h.meter.decisions (level inserted) clocks)) :
    Mints limiter inserted plain (clocks.map fun now => (false, now)) := by
  induction clocks generalizing inserted plain with
  | nil =>
    obtain ⟨k, hk, -⟩ := hflips
    cases hk
  | cons now rest ih =>
    obtain ⟨hinserted, hinserted'⟩ := runScript_draw h now inserted
    obtain ⟨hplain, hplain'⟩ := runScript_draw h now plain
    obtain ⟨k, hk, hk'⟩ := hflips
    cases k with
    | zero => exact .inl ⟨hinserted.trans (Option.some.inj hk'), hplain.trans (Option.some.inj hk)⟩
    | succ k =>
      refine .inr (ih ⟨k, ?_, ?_⟩)
      · rw [hplain']
        exact hk
      · rw [hinserted']
        exact hk'

/-- One call behind the stored timestamp turns a denied call at `b` into an allowed one exactly when the
refill since the former's reading makes up the token that the refill since the timestamp does not. Over
the later calls in general no such call is harmless. -/
theorem skewed_call_mints (limiter : RedisRateLimiter) (h : Configured limiter) (bucket : Bucket) (a : ℚ)
    (ha : a < bucket.timestamp) :
    (∀ b, bucket.timestamp ≤ b → (¬Mints limiter bucket bucket [(true, a), (false, b)] ↔
        ¬(bucket.tokens + (b - bucket.timestamp) * limiter.refillPerSecond < 1 ∧
          1 ≤ bucket.tokens + (b - a) * limiter.refillPerSecond))) ∧
      ∃ clocks : List ℚ, InsertsBehind limiter bucket ((true, a) :: clocks.map fun now => (false, now)) ∧
        Mints limiter bucket bucket ((true, a) :: clocks.map fun now => (false, now)) := by
  obtain ⟨-, hbucket⟩ := runScript_draw h a bucket
  refine ⟨?_, ?_⟩
  · intro b hb
    have hiff := Meter.skewed_draw_iff (m := h.meter) (l := level bucket) ha hb
    obtain ⟨hskewed, -⟩ := runScript_draw h b (runScript limiter a (some bucket)).2
    obtain ⟨hplain, -⟩ := runScript_draw h b bucket
    rw [hbucket] at hskewed
    refine Iff.trans ?_ hiff
    unfold Mints
    rw [hbucket]
    unfold Mints
    rw [hskewed, hplain, Mints, or_false, not_and, Bool.not_eq_false]
    rfl
  · obtain ⟨clocks, hflips⟩ := Meter.skewed_draw_flips (m := h.meter) (l := level bucket) ha
    refine ⟨clocks, ⟨fun _ => ha, insertsBehind_plain _ _⟩, ?_⟩
    unfold Mints
    rw [hbucket]
    exact mints_of_flips h hflips

/-- An empty bucket for one call a second; a process ten seconds behind is denied and sets it back. -/
theorem skewed_call_mints_refill :
    (¬Mints ⟨60, 1⟩ ⟨0, 100⟩ ⟨0, 100⟩ [(true, 90), (false, 100)] ↔
        ¬((0 : ℚ) + (100 - 100) * (60 / 60) < 1 ∧ 1 ≤ (0 : ℚ) + (100 - 90) * (60 / 60))) ∧
      ∃ clocks : List ℚ, InsertsBehind ⟨60, 1⟩ ⟨0, 100⟩ ((true, 90) :: clocks.map fun now => (false, now)) ∧
        Mints ⟨60, 1⟩ ⟨0, 100⟩ ⟨0, 100⟩ ((true, 90) :: clocks.map fun now => (false, now)) := by
  obtain ⟨htwo, hlater⟩ := skewed_call_mints ⟨60, 1⟩ ⟨by decide, by decide⟩ ⟨0, 100⟩ 90 (by norm_num)
  exact ⟨htwo 100 (by norm_num), hlater⟩

/-- The call at 100 is denied, but allowed after the call at 90. -/
theorem skewed_call_mints_token :
    Configured ⟨60, 1⟩ ∧ InsertsBehind ⟨60, 1⟩ ⟨0, 100⟩ [(true, 90), (false, 100)] ∧
      Mints ⟨60, 1⟩ ⟨0, 100⟩ ⟨0, 100⟩ [(true, 90), (false, 100)] := by
  refine ⟨⟨by decide, by decide⟩, ⟨fun _ => by norm_num, fun h => (nomatch h), trivial⟩, .inl ⟨?_, ?_⟩⟩
  · decide +kernel
  · decide +kernel

end Skew

end AIRuntime.RateLimitRuns
