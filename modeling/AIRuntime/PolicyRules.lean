import AIRuntime.CivilTime
import AIRuntime.Identifiers
import AIRuntime.Failures

set_option autoImplicit false

/-! `domain/organization_policy.py`. -/
namespace AIRuntime.PolicyRules

open PythonText Failures CivilTime Identifiers

/-- `none` means unlimited. -/
structure OrganizationPolicy where
  organization_id : UUID
  monthly_token_limit : Option ℤ
  limit_ok : monthly_token_limit.all (0 < ·) = true
deriving DecidableEq

structure ModelEntitlement where
  organization_id : UUID
  model : String
  model_ok : requireNonBlank model "model" = none

theorem ModelEntitlement.eq_iff (a b : ModelEntitlement) :
    a.organization_id = b.organization_id ∧ a.model = b.model ↔ a = b := by
  cases a
  cases b
  simp

instance : DecidableEq ModelEntitlement := fun a b => decidable_of_iff _ (a.eq_iff b)

/-- An empty entitlement set means all models are allowed. -/
def isModelAllowed (requested_model : String) (entitlements : List String) : Bool :=
  if entitlements.isEmpty then true else entitlements.contains requested_model

def wouldExceedMonthlyQuota (current_tokens limit estimated_additional : ℤ) : Except Exn Bool :=
  if limit ≤ 0 then .error (.domainValidation "limit must be greater than zero")
  else if current_tokens < 0 ∨ estimated_additional < 0 then
    .error (.domainValidation "token counts must not be negative")
  else .ok (limit ≤ current_tokens + estimated_additional)

/-- `current_month_utc_bounds`: inclusive start and exclusive end of the calendar month of `now`. -/
def zonedMonthUtcBounds (now : ZonedDateTime) : Except Exn (ZonedDateTime × ZonedDateTime) :=
  if now.tzinfo.isNone then .error (.domainValidation "now must be timezone-aware")
  else
    match now.startOfMonth now.clock.year now.clock.month with
    | none => .error (.other "ValueError")
    | some start =>
      match if start.clock.month = 12 then start.startOfMonth (start.clock.year + 1) 1
        else start.startOfMonth start.clock.year (start.clock.month + 1) with
      | none => .error (.other "ValueError")
      | some stop => .ok (start, stop)

/-- `current_month_utc_bounds`, of a value with a fixed offset. -/
def currentMonthUtcBounds (now : DateTime) : Except Exn (DateTime × DateTime) :=
  (zonedMonthUtcBounds now.zoned).map fun bounds => (bounds.1.resolved, bounds.2.resolved)

theorem currentMonthUtcBounds_eq (now : DateTime) : currentMonthUtcBounds now =
    if now.utcoffset = none then .error (.domainValidation "now must be timezone-aware")
    else
      match now.startOfMonth now.year now.month,
        if now.month = 12 then now.startOfMonth (now.year + 1) 1
        else now.startOfMonth now.year (now.month + 1) with
      | some start, some stop => .ok (start, stop)
      | _, _ => .error (.other "ValueError") := by
  unfold currentMonthUtcBounds zonedMonthUtcBounds
  have hzone : now.zoned.tzinfo.isNone = true ↔ now.utcoffset = none := by
    unfold DateTime.zoned
    rw [Option.isNone_map, Option.isNone_iff_eq_none]
  have hyear : now.zoned.clock.year = now.year := rfl
  have hmonth : now.zoned.clock.month = now.month := rfl
  simp only [hzone, ← now.zoned_startOfMonth, hyear, hmonth]
  by_cases hnaive : now.utcoffset = none
  · rw [if_pos hnaive, if_pos hnaive]
    rfl
  · rw [if_neg hnaive, if_neg hnaive]
    cases hstart : now.zoned.startOfMonth now.year now.month with
    | none => rfl
    | some start =>
      obtain ⟨-, -, hfirst, hfirst', -⟩ := ZonedDateTime.startOfMonth_instant hstart
      simp only [hfirst, hfirst', ZonedDateTime.startOfMonth_again hstart, Option.map_some]
      by_cases hdec : now.month = 12
      · simp only [if_pos hdec]
        cases now.zoned.startOfMonth (now.year + 1) 1 <;> rfl
      · simp only [if_neg hdec]
        cases now.zoned.startOfMonth now.year (now.month + 1) <;> rfl

def secondsUntilEndOfMonthUtc (now : DateTime) : Except Exn ℤ :=
  match currentMonthUtcBounds now with
  | .error err => .error err
  | .ok (_, stop) => .ok (max 1 ((stop.instant - now.instant) / 1000000))

/-- The bounds are the starts of the month of `now` and of the next one, where the offset of `now` holds. -/
theorem currentMonthUtcBounds_instants {now start stop : DateTime}
    (h : currentMonthUtcBounds now = .ok (start, stop)) :
    start.instant = monthStart (12 * now.year + (now.month - 1)) * 86400000000 - now.utcoffset.getD 0 ∧
      stop.instant = monthStart (12 * now.year + (now.month - 1) + 1) * 86400000000 - now.utcoffset.getD 0 := by
  have hb := now.bounds
  rw [monthStart_eq hb.2.2.1 hb.2.2.2.1]
  rw [currentMonthUtcBounds_eq] at h
  split_ifs at h with hz hdec
  · cases hs : now.startOfMonth now.year now.month <;>
      cases he : now.startOfMonth (now.year + 1) 1 <;> rw [hs, he] at h <;> cases h
    have hnext : 12 * now.year + (now.month - 1) + 1 = 12 * (now.year + 1) + (1 - 1) := by omega
    rw [hnext, monthStart_eq (by omega) (by omega)]
    exact ⟨DateTime.startOfMonth_some hs, DateTime.startOfMonth_some he⟩
  · cases hs : now.startOfMonth now.year now.month <;>
      cases he : now.startOfMonth now.year (now.month + 1) <;> rw [hs, he] at h <;> cases h
    have hnext : 12 * now.year + (now.month - 1) + 1 = 12 * now.year + (now.month + 1 - 1) := by omega
    rw [hnext, monthStart_eq (by omega) (by omega)]
    exact ⟨DateTime.startOfMonth_some hs, DateTime.startOfMonth_some he⟩

theorem currentMonthUtcBounds_contains {now start stop : DateTime}
    (h : currentMonthUtcBounds now = .ok (start, stop)) : start ≤ now ∧ now < stop := by
  obtain ⟨hstart, hstop⟩ := currentMonthUtcBounds_instants h
  have hin := now.instant_in_month
  rw [← hstart, ← hstop] at hin
  exact hin

/-- The bounds of a month in UTC are the starts of two successive months. -/
theorem currentMonthUtcBounds_starts {now start stop : DateTime} (hutc : now.utcoffset = some 0)
    (h : currentMonthUtcBounds now = .ok (start, stop)) :
    ∃ k, 12 ≤ k ∧ start.instant = monthStart k * 86400000000 ∧ stop.instant = monthStart (k + 1) * 86400000000 := by
  have hb := now.bounds
  have hinstants := currentMonthUtcBounds_instants h
  rw [hutc] at hinstants
  simp only [Option.getD_some, Int.sub_zero] at hinstants
  exact ⟨12 * now.year + (now.month - 1), by omega, hinstants⟩

theorem currentMonthUtcBounds_unique {now now' start stop start' stop' x : DateTime}
    (hutc : now.utcoffset = some 0) (hutc' : now'.utcoffset = some 0)
    (h : currentMonthUtcBounds now = .ok (start, stop)) (h' : currentMonthUtcBounds now' = .ok (start', stop'))
    (hx : start ≤ x ∧ x < stop) (hx' : start' ≤ x ∧ x < stop') :
    start.instant = start'.instant ∧ stop.instant = stop'.instant := by
  obtain ⟨k, hk, hstart, hstop⟩ := currentMonthUtcBounds_starts hutc h
  obtain ⟨k', hk', hstart', hstop'⟩ := currentMonthUtcBounds_starts hutc' h'
  have hin : start.instant ≤ x.instant ∧ x.instant < stop.instant := hx
  have hin' : start'.instant ≤ x.instant ∧ x.instant < stop'.instant := hx'
  rw [hstart, hstop] at hin
  rw [hstart', hstop'] at hin'
  have heq : k = k' := monthStart_unique hk hk' (by decide) hin hin'
  rw [hstart, hstop, hstart', hstop', heq]
  exact ⟨rfl, rfl⟩

/-- The month of a UTC instant exists, but for the last month `datetime` can name. -/
theorem currentMonthUtcBounds_isOk {now : DateTime} (hz : now.utcoffset ≠ none)
    (hlast : now.year < 9999 ∨ now.month < 12) : ∃ bounds, currentMonthUtcBounds now = .ok bounds := by
  have hb := now.bounds
  obtain ⟨start, hs⟩ := now.startOfMonth_isSome ⟨hb.1, hb.2.1⟩ ⟨hb.2.2.1, hb.2.2.2.1⟩
  rw [currentMonthUtcBounds_eq, if_neg hz, hs]
  by_cases hdec : now.month = 12
  · have hyear : 1 ≤ now.year + 1 ∧ now.year + 1 ≤ 9999 := by omega
    obtain ⟨stop, he⟩ := now.startOfMonth_isSome hyear (show 1 ≤ 1 ∧ 1 ≤ 12 by omega)
    rw [if_pos hdec, he]
    exact ⟨_, rfl⟩
  · have hmonth : 1 ≤ now.month + 1 ∧ now.month + 1 ≤ 12 := by omega
    obtain ⟨stop, he⟩ := now.startOfMonth_isSome ⟨hb.1, hb.2.1⟩ hmonth
    rw [if_neg hdec, he]
    exact ⟨_, rfl⟩

end AIRuntime.PolicyRules
