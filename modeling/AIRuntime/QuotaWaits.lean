import AIRuntime.EffectRuns
import AIRuntime.PolicyEnforcement
import AIRuntime.QuotaPeriods

set_option autoImplicit false

/-! The wait that a refused request is told: whether it ends in the next month of the quota. -/
namespace AIRuntime.QuotaWaits

open EffectPrograms Prog Failures CivilTime Identifiers PolicyRules Collaborators PolicyEnforcement QuotaPeriods

section Statement

/-- Past the end of the month after the wait, but by less than a second, and then in the next month. -/
structure Lands (now stop : DateTime) (retry_after_seconds : ℤ) : Prop where
  past : stop.instant ≤ now.instant + retry_after_seconds * 1000000
  short : now.instant + retry_after_seconds * 1000000 < stop.instant + 1000000
  next : ∀ later start' stop' : DateTime, later.utcoffset = some 0 →
    later.instant = now.instant + retry_after_seconds * 1000000 →
      currentMonthUtcBounds later = .ok (start', stop') → start'.instant = stop.instant

def LastSecond (now : DateTime) : Prop :=
  now.day = daysInMonth now.year now.month ∧ now.hour = 23 ∧ now.minute = 59 ∧ now.second = 59

def Raises (err : Exn) : Observation Empty → Prop
  | .asked (.listEntitlements _) got => got = .error err
  | .asked (.getPolicy _) got => got = .error err
  | .asked (.sumTokens _ _ _) got => got = .error err
  | _ => False

def clockReading : Observation Empty → Option UtcInstant
  | .asked .utcNow now => some now
  | _ => none

end Statement

section Waits

variable {now start stop : DateTime} {r : ℤ}

/-- The bounds are the ends of the month that the clock of `now` reads. -/
theorem month_ends (h : currentMonthUtcBounds now = .ok (start, stop)) :
    start.instant = firstInstant now.year now.month - now.utcoffset.getD 0 ∧
      stop.instant = nextFirstInstant now.year now.month - now.utcoffset.getD 0 := by
  have hb := now.bounds
  rw [firstInstant_index ⟨hb.2.2.1, hb.2.2.2.1⟩, nextFirstInstant_index ⟨hb.2.2.1, hb.2.2.2.1⟩]
  exact currentMonthUtcBounds_instants h

theorem until_stop (hutc : now.utcoffset = some 0) (hbounds : currentMonthUtcBounds now = .ok (start, stop)) :
    stop.instant - now.instant =
      (((daysInMonth now.year now.month - now.day) * 24 + (23 - now.hour)) * 60 + (59 - now.minute)) * 60000000 +
        (60 - now.second) * 1000000 - now.microsecond := by
  have hb := now.bounds
  have hstop := (month_ends hbounds).2
  rw [nextFirstInstant_eq hb.1 hb.2.2.1, hutc] at hstop
  rw [hstop, firstInstant, dayLength, DateTime.instant, hutc]
  unfold toOrdinal
  simp only [Option.getD_some]
  push_cast
  ring

theorem wait_eq (hbounds : currentMonthUtcBounds now = .ok (start, stop))
    (hwait : secondsUntilEndOfMonthUtc now = .ok r) : r = max 1 ((stop.instant - now.instant) / 1000000) := by
  rw [secondsUntilEndOfMonthUtc, hbounds] at hwait
  exact (Except.ok.inj hwait).symm

/-- The wait ends past the month exactly when it was a whole number of seconds, or the last second was running. -/
theorem past_iff (hutc : now.utcoffset = some 0) (hbounds : currentMonthUtcBounds now = .ok (start, stop))
    (hwait : secondsUntilEndOfMonthUtc now = .ok r) :
    stop.instant ≤ now.instant + r * 1000000 ↔ now.microsecond = 0 ∨ LastSecond now := by
  have hb := now.bounds
  have huntil := until_stop hutc hbounds
  have hr := wait_eq hbounds hwait
  unfold LastSecond
  omega

theorem short_of_wait (hbounds : currentMonthUtcBounds now = .ok (start, stop))
    (hwait : secondsUntilEndOfMonthUtc now = .ok r) : now.instant + r * 1000000 < stop.instant + 1000000 := by
  have hr := wait_eq hbounds hwait
  have hlt : now.instant < stop.instant := (currentMonthUtcBounds_contains hbounds).2
  omega

/-- Less than a second past the end of a month is in the next one. -/
theorem next_of_past (hutc : now.utcoffset = some 0) (hbounds : currentMonthUtcBounds now = .ok (start, stop))
    {later start' stop' : DateTime} (hutc' : later.utcoffset = some 0)
    (hlater : stop.instant ≤ later.instant ∧ later.instant < stop.instant + 1000000)
    (hbounds' : currentMonthUtcBounds later = .ok (start', stop')) : start'.instant = stop.instant := by
  have hb := now.bounds
  have hb' := later.bounds
  have hstop : stop.instant = firstInstant (followingYear now.year now.month) (followingMonth now.month) := by
    rw [(month_ends hbounds).2, hutc]
    exact sub_zero _
  have hyear : 1 ≤ followingYear now.year now.month := by
    unfold followingYear
    split_ifs <;> omega
  have hmonth : 1 ≤ followingMonth now.month ∧ followingMonth now.month ≤ 12 := by
    unfold followingMonth
    split_ifs <;> omega
  have hlong : ∀ year month, 28 ≤ daysInMonth year month := by
    intro year month
    unfold daysInMonth
    split_ifs <;> omega
  have hnext : later.instant < nextFirstInstant (followingYear now.year now.month) (followingMonth now.month) := by
    have hdays := hlong (followingYear now.year now.month) (followingMonth now.month)
    rw [nextFirstInstant_eq hyear hmonth.1, ← hstop, dayLength]
    omega
  have hin := instant_in_month later
  have hstart' := (month_ends hbounds').1
  rw [hutc'] at hin hstart'
  simp only [Option.getD_some, sub_zero] at hin hstart'
  obtain ⟨hsame, hsame'⟩ := month_unique hb'.1 hyear ⟨hb'.2.2.1, hb'.2.2.2.1⟩ hmonth hin ⟨hstop ▸ hlater.1, hnext⟩
  rw [hstart', hsame, hsame', hstop]

theorem lands_iff (hutc : now.utcoffset = some 0) (hbounds : currentMonthUtcBounds now = .ok (start, stop))
    (hwait : secondsUntilEndOfMonthUtc now = .ok r) : Lands now stop r ↔ now.microsecond = 0 ∨ LastSecond now := by
  have hpast := past_iff hutc hbounds hwait
  have hshort := short_of_wait hbounds hwait
  constructor
  · intro h
    exact hpast.mp h.past
  · intro h
    refine ⟨hpast.mpr h, hshort, ?_⟩
    intro later start' stop' hutc' hlater hbounds'
    have hin : stop.instant ≤ later.instant ∧ later.instant < stop.instant + 1000000 := by
      rw [hlater]
      exact ⟨hpast.mpr h, hshort⟩
    exact next_of_past hutc hbounds hutc' hin hbounds'

end Waits

section Runs

variable {command : EnforceOrganizationPolicyCommand} {t : List (Observation Empty)} {r : ℤ}

/-- What raises for the quota is neither a bound that cannot be named nor a check of the counts. -/
theorem bounds_no_quota {now : DateTime} : currentMonthUtcBounds now ≠ .error (.quotaExceeded r) := by
  rw [currentMonthUtcBounds_eq]
  split_ifs
  · nofun
  · split <;> nofun
  · split <;> nofun

theorem exceed_no_quota (current_tokens limit estimated_additional : ℤ) :
    wouldExceedMonthlyQuota current_tokens limit estimated_additional ≠ .error (.quotaExceeded r) := by
  unfold wouldExceedMonthlyQuota
  split_ifs <;> nofun

theorem wait_no_quota {now : DateTime} : secondsUntilEndOfMonthUtc now ≠ .error (.quotaExceeded r) := by
  unfold secondsUntilEndOfMonthUtc
  cases hbounds : currentMonthUtcBounds now with
  | ok bounds => nofun
  | error err =>
    intro h
    cases Except.error.inj h
    exact bounds_no_quota hbounds

/-- An answer that raises ends the run; another one is worked with. -/
theorem of_answer {α β : Type} {got : Except Exn α} {f : α → Action β} {o : Except Exn β} {err : Exn}
    (hown : got ≠ .error err) (h : Exec ((Prog.ofExcept got).bind f) t o) (ho : o = .error err) :
    ∃ a, got = .ok a ∧ Exec (f a) t o := by
  cases got with
  | ok a => exact ⟨a, rfl, h⟩
  | error err' =>
    cases (exec_raise.mp h).2.symm.trans ho
    exact absurd rfl hown

/-- A check that raises for the quota has read the clock once, and waits from that reading. -/
theorem checkQuota_raises (h : Exec (checkQuota command) t (.error (.quotaExceeded r)))
    (hown : ∀ ob ∈ t, ¬Raises (.quotaExceeded r) ob) :
    ∃ now : UtcInstant, t.filterMap clockReading = [now] ∧ secondsUntilEndOfMonthUtc now.val = .ok r := by
  obtain ⟨got, t₁, rfl, h₁⟩ := exec_call.mp h
  obtain ⟨hgot, hown₁⟩ := List.forall_mem_cons.mp hown
  obtain ⟨policy, rfl, h₂⟩ := of_answer hgot h₁ rfl
  cases hlimit : policy.monthly_token_limit with
  | none =>
    rw [hlimit] at h₂
    cases (exec_done.mp h₂).2
  | some limit =>
    rw [hlimit] at h₂
    obtain ⟨now, t₃, rfl, h₃⟩ := exec_call.mp h₂
    obtain ⟨⟨start, stop⟩, -, h₄⟩ := of_answer bounds_no_quota h₃ rfl
    obtain ⟨summed, t₅, rfl, h₅⟩ := exec_call.mp h₄
    obtain ⟨hsummed, -⟩ := List.forall_mem_cons.mp (List.forall_mem_cons.mp hown₁).2
    obtain ⟨used_tokens, rfl, h₆⟩ := of_answer hsummed h₅ rfl
    obtain ⟨exceeded, -, h₇⟩ := of_answer (exceed_no_quota _ _ _) h₆ rfl
    cases exceeded with
    | false => cases (exec_done.mp h₇).2
    | true =>
      obtain ⟨retry_after_seconds, hwait, h₈⟩ := of_answer wait_no_quota h₇ rfl
      obtain ⟨rfl, ho⟩ := exec_raise.mp h₈
      cases ho
      exact ⟨now, rfl, hwait⟩

theorem enforce_raises (h : Exec (enforceOrganizationPolicy command) t (.error (.quotaExceeded r)))
    (hown : ∀ ob ∈ t, ¬Raises (.quotaExceeded r) ob) :
    ∃ now : UtcInstant, t.filterMap clockReading = [now] ∧ secondsUntilEndOfMonthUtc now.val = .ok r := by
  obtain ⟨got, t₁, rfl, h₁⟩ := exec_call.mp h
  obtain ⟨hgot, hown₁⟩ := List.forall_mem_cons.mp hown
  obtain ⟨entitlements, rfl, h₂⟩ := of_answer hgot h₁ rfl
  cases hallowed : isModelAllowed command.requested_model (entitlements.map (·.model)) with
  | false =>
    rw [hallowed] at h₂
    cases (exec_raise.mp h₂).2
  | true =>
    rw [hallowed] at h₂
    obtain ⟨now, hreadings, hwait⟩ := checkQuota_raises h₂ hown₁
    exact ⟨now, hreadings, hwait⟩

/-- When a request is refused for its quota, the wait ends in the next month exactly if the clock read a whole
second or the last one of the month. -/
theorem quota_retry_lands_iff (h : Exec (enforceOrganizationPolicy command) t (.error (.quotaExceeded r)))
    (hown : ∀ ob ∈ t, ¬Raises (.quotaExceeded r) ob) :
    ∃ (now : UtcInstant) (start stop : DateTime), t.filterMap clockReading = [now] ∧
      currentMonthUtcBounds now.val = .ok (start, stop) ∧
      (Lands now.val stop r ↔ now.val.microsecond = 0 ∨ LastSecond now.val) := by
  obtain ⟨now, hreadings, hwait⟩ := enforce_raises h hown
  cases hbounds : currentMonthUtcBounds now.val with
  | error err =>
    rw [secondsUntilEndOfMonthUtc, hbounds] at hwait
    cases hwait
  | ok bounds =>
    obtain ⟨start, stop⟩ := bounds
    exact ⟨now, start, stop, hreadings, hbounds, lands_iff now.property hbounds hwait⟩

end Runs

section Samples

def sampleCommand : EnforceOrganizationPolicyCommand := ⟨⟨3⟩, "gpt-4o", none⟩

def lateAugust (second microsecond : ℕ) (h : fieldsOk 2026 8 31 23 59 second microsecond = true) : UtcInstant :=
  ⟨⟨2026, 8, 31, 23, 59, second, microsecond, some 0, h⟩, rfl⟩

theorem august_ok : fieldsOk 2026 8 1 0 0 0 0 = true := by decide

theorem september_ok : fieldsOk 2026 9 1 0 0 0 0 = true := by decide

def august : DateTime := ⟨2026, 8, 1, 0, 0, 0, 0, some 0, august_ok⟩

def september : DateTime := ⟨2026, 9, 1, 0, 0, 0, 0, some 0, september_ok⟩

def refusal (now : UtcInstant) : List (Observation Empty) :=
  [.asked (.listEntitlements ⟨3⟩) (.ok []), .asked (.getPolicy ⟨3⟩) (.ok ⟨⟨3⟩, some 100, rfl⟩), .asked .utcNow now,
    .asked (.sumTokens ⟨3⟩ august september) (.ok 100)]

theorem refusal_exec {now : UtcInstant} {r : ℤ} (hbounds : currentMonthUtcBounds now.val = .ok (august, september))
    (hwait : secondsUntilEndOfMonthUtc now.val = .ok r) :
    Exec (enforceOrganizationPolicy sampleCommand) (refusal now) (.error (.quotaExceeded r)) := by
  refine exec_call.mpr ⟨.ok [], _, rfl, exec_call.mpr ⟨.ok ⟨⟨3⟩, some 100, rfl⟩, _, rfl, ?_⟩⟩
  refine exec_call.mpr ⟨now, _, rfl, ?_⟩
  simp only [Prog.done_bind, hbounds, Prog.bind_eq, Prog.ofExcept_ok]
  refine exec_call.mpr ⟨.ok 100, _, rfl, ?_⟩
  have hexceed : wouldExceedMonthlyQuota 100 100 (sampleCommand.max_output_tokens.getD 0) = .ok true := rfl
  simp only [Prog.done_bind, Prog.ofExcept_ok, hexceed, hwait, if_true]
  exact exec_raise.mpr ⟨rfl, rfl⟩

theorem refusal_answers {now : UtcInstant} {r : ℤ} : ∀ ob ∈ refusal now, ¬Raises (.quotaExceeded r) ob := by
  unfold refusal
  simp only [List.forall_mem_cons, Raises, reduceCtorEq, not_false_eq_true, true_and]
  intro ob hob
  cases hob

theorem wholeSecond_ok : fieldsOk 2026 8 31 23 59 58 0 = true := by decide

/-- At a whole second the wait ends in September. -/
theorem wholeSecond_lands : ∃ (now : UtcInstant) (start stop : DateTime),
    (refusal (lateAugust 58 0 wholeSecond_ok)).filterMap clockReading = [now] ∧
      currentMonthUtcBounds now.val = .ok (start, stop) ∧
      (Lands now.val stop 2 ↔ now.val.microsecond = 0 ∨ LastSecond now.val) :=
  quota_retry_lands_iff (refusal_exec rfl rfl) refusal_answers

theorem halfSecond_ok : fieldsOk 2026 8 31 23 59 58 500000 = true := by decide

/-- A second and a half before September the refused client is told to wait one second. -/
theorem halfSecond_falls_short :
    Exec (enforceOrganizationPolicy sampleCommand) (refusal (lateAugust 58 500000 halfSecond_ok))
      (.error (.quotaExceeded 1)) ∧
    currentMonthUtcBounds (lateAugust 58 500000 halfSecond_ok).val = .ok (august, september) ∧
    ¬september.instant ≤ (lateAugust 58 500000 halfSecond_ok).val.instant + 1 * 1000000 :=
  ⟨refusal_exec rfl rfl, rfl, by decide⟩

end Samples

end AIRuntime.QuotaWaits
