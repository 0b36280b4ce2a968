import AIRuntime.PolicyRules
import AIRuntime.SharedStores

set_option autoImplicit false

/-!
The periods of the monthly quota beside the calendar months of UTC: `current_month_utc_bounds` over all
aware values, and the wait that `seconds_until_end_of_month_utc` asks for.
-/
namespace AIRuntime.QuotaPeriods

open Failures CivilTime Identifiers AccountingRecords PolicyRules SharedStores

section Months

def dayLength : ℤ := 86400000000

def firstInstant (year month : ℕ) : ℤ := toOrdinal year month 1 * dayLength

def followingYear (year month : ℕ) : ℕ := if month = 12 then year + 1 else year

def followingMonth (month : ℕ) : ℕ := if month = 12 then 1 else month + 1

def nextFirstInstant (year month : ℕ) : ℤ := firstInstant (followingYear year month) (followingMonth month)

/-- `d.astimezone(UTC)` lies in this month. -/
def InUtcMonth (d : DateTime) (year month : ℕ) : Prop :=
  ∃ utc : DateTime, utc.utcoffset = some 0 ∧ utc.instant = d.instant ∧ utc.year = year ∧ utc.month = month

def SameMonth (d d' : DateTime) : Prop := ∃ year month, InUtcMonth d year month ∧ InUtcMonth d' year month

variable {year month : ℕ}

theorem nextFirstInstant_eq (hyear : 1 ≤ year) (hmonth : 1 ≤ month) :
    nextFirstInstant year month = firstInstant year month + daysInMonth year month * dayLength := by
  unfold nextFirstInstant followingYear followingMonth
  split_ifs with hdec
  · rw [hdec, firstInstant, firstInstant, toOrdinal_succ_year hyear]
    push_cast
    ring
  · rw [firstInstant, firstInstant, toOrdinal_succ_month year hmonth]
    push_cast
    ring

theorem firstInstant_index (hmonth : 1 ≤ month ∧ month ≤ 12) :
    firstInstant year month = monthStart (12 * year + (month - 1)) * dayLength := by
  rw [firstInstant, monthStart_eq hmonth.1 hmonth.2]

theorem nextFirstInstant_index (hmonth : 1 ≤ month ∧ month ≤ 12) :
    nextFirstInstant year month = monthStart (12 * year + (month - 1) + 1) * dayLength := by
  unfold nextFirstInstant followingYear followingMonth
  split_ifs with hdec
  · have hindex : 12 * year + (month - 1) + 1 = 12 * (year + 1) + (1 - 1) := by omega
    rw [firstInstant_index (by omega), hindex]
  · have hindex : 12 * year + (month - 1) + 1 = 12 * year + (month + 1 - 1) := by omega
    rw [firstInstant_index (by omega), hindex]

theorem instant_in_month (d : DateTime) :
    firstInstant d.year d.month - d.utcoffset.getD 0 ≤ d.instant ∧
      d.instant < nextFirstInstant d.year d.month - d.utcoffset.getD 0 := by
  have hb := d.bounds
  rw [firstInstant_index ⟨hb.2.2.1, hb.2.2.2.1⟩, nextFirstInstant_index ⟨hb.2.2.1, hb.2.2.2.1⟩]
  exact d.instant_in_month

/-- Every instant of a month is named in UTC by a value of that month. -/
theorem exists_utc (hyear : 1 ≤ year ∧ year ≤ 9999) (hmonth : 1 ≤ month ∧ month ≤ 12) {x : ℤ}
    (hfirst : firstInstant year month ≤ x) (hnext : x < nextFirstInstant year month) :
    ∃ utc : DateTime, utc.utcoffset = some 0 ∧ utc.instant = x ∧ utc.year = year ∧ utc.month = month := by
  rw [nextFirstInstant_eq hyear.1 hmonth.1] at hnext
  obtain ⟨n, hn⟩ : ∃ n : ℕ, x = firstInstant year month + n := ⟨(x - firstInstant year month).toNat, by omega⟩
  have hday : n / 86400000000 < daysInMonth year month := by
    unfold dayLength at hnext
    omega
  have hok : fieldsOk year month (n / 86400000000 + 1) (n / 3600000000 % 24) (n / 60000000 % 60)
      (n / 1000000 % 60) (n % 1000000) = true := by
    simp only [fieldsOk, Bool.and_eq_true, decide_eq_true_eq]
    omega
  refine ⟨⟨year, month, _, _, _, _, _, some 0, hok⟩, rfl, ?_, rfl, rfl⟩
  rw [hn, firstInstant, dayLength]
  simp only [DateTime.instant, toOrdinal, Option.getD_some]
  omega

theorem month_unique {year' month' : ℕ} (hyear : 1 ≤ year) (hyear' : 1 ≤ year') (hmonth : 1 ≤ month ∧ month ≤ 12)
    (hmonth' : 1 ≤ month' ∧ month' ≤ 12) {x : ℤ} (hx : firstInstant year month ≤ x ∧ x < nextFirstInstant year month)
    (hx' : firstInstant year' month' ≤ x ∧ x < nextFirstInstant year' month') : year = year' ∧ month = month' := by
  rw [firstInstant_index hmonth, nextFirstInstant_index hmonth] at hx
  rw [firstInstant_index hmonth', nextFirstInstant_index hmonth'] at hx'
  have hindex := monthStart_unique (by omega) (by omega) (by decide) hx hx'
  omega

theorem InUtcMonth.range {d : DateTime} (h : InUtcMonth d year month) :
    (1 ≤ year ∧ year ≤ 9999) ∧ (1 ≤ month ∧ month ≤ 12) ∧
      firstInstant year month ≤ d.instant ∧ d.instant < nextFirstInstant year month := by
  obtain ⟨utc, hutc, hinstant, rfl, rfl⟩ := h
  have hb := utc.bounds
  have hin := instant_in_month utc
  rw [hutc, hinstant] at hin
  simp only [Option.getD_some, sub_zero] at hin
  exact ⟨⟨hb.1, hb.2.1⟩, ⟨hb.2.2.1, hb.2.2.2.1⟩, hin⟩

theorem InUtcMonth.unique {d : DateTime} {year' month' : ℕ} (h : InUtcMonth d year month)
    (h' : InUtcMonth d year' month') : year = year' ∧ month = month' :=
  month_unique h.range.1.1 h'.range.1.1 h.range.2.1 h'.range.2.1 h.range.2.2 h'.range.2.2

theorem inUtcMonth_self {d : DateTime} (h : d.utcoffset = some 0) : InUtcMonth d d.year d.month :=
  ⟨d, h, rfl, rfl, rfl⟩

theorem inUtcMonth_iff {d : DateTime} (hyear : 1 ≤ year ∧ year ≤ 9999) (hmonth : 1 ≤ month ∧ month ≤ 12) :
    InUtcMonth d year month ↔ firstInstant year month ≤ d.instant ∧ d.instant < nextFirstInstant year month :=
  ⟨fun h => h.range.2.2, fun h => exists_utc hyear hmonth h.1 h.2⟩

end Months

section Statement

/-- A timezone-aware value: its `tzinfo` keeps every offset strictly within a day, as `datetime` demands. -/
structure AwareDateTime where
  clock : LocalTime
  tzinfo : TzInfo
  within_day : ∀ l, -dayLength < tzinfo l ∧ tzinfo l < dayLength

def AwareDateTime.val (now : AwareDateTime) : ZonedDateTime := ⟨now.clock, some now.tzinfo⟩

/-- The bounds are the first instants of the UTC month of `now` and of the next one, with `now` between them. -/
def KeepsMonth (now : ZonedDateTime) : Prop :=
  ∃ start stop year month, zonedMonthUtcBounds now = .ok (start, stop) ∧ InUtcMonth now.resolved year month ∧
    start.resolved.instant = firstInstant year month ∧ stop.resolved.instant = nextFirstInstant year month ∧
    start.resolved ≤ now.resolved ∧ now.resolved < stop.resolved

/-- `created_at >= start` and `created_at < end`, with the bounds of `now`. -/
def InPeriod (now : ZonedDateTime) (created_at : DateTime) : Prop :=
  ∃ start stop, zonedMonthUtcBounds now = .ok (start, stop) ∧ start.resolved ≤ created_at ∧ created_at < stop.resolved

def SamePeriod (now now' : ZonedDateTime) : Prop :=
  ∃ start stop start' stop', zonedMonthUtcBounds now = .ok (start, stop) ∧
    zonedMonthUtcBounds now' = .ok (start', stop') ∧ start.resolved.instant = start'.resolved.instant ∧
    stop.resolved.instant = stop'.resolved.instant

open Classical in
noncomputable def monthTotal (rows : List UsageRecord) (organization_id : UUID) (now : DateTime) : ℤ :=
  ((rows.filter fun row => row.organization_id = organization_id ∧ SameMonth now row.created_at).map
    UsageRecord.tokens).sum

structure UtcMonthly (now now' : ZonedDateTime) : Prop where
  first : KeepsMonth now
  second : KeepsMonth now'
  same : SamePeriod now now' ↔ SameMonth now.resolved now'.resolved
  rows : ∀ row : UsageRecord, InPeriod now row.created_at ↔ SameMonth now.resolved row.created_at
  counted : ∀ (row : UsageRecord) (year month : ℕ), InUtcMonth row.created_at year month → year < 9999 ∨ month < 12 →
    ∃ reading : DateTime, reading.utcoffset = some 0 ∧ InPeriod reading.zoned row.created_at
  once : ∀ row : UsageRecord, InPeriod now row.created_at → InPeriod now' row.created_at → SamePeriod now now'
  totals : ∀ rows organization_id start stop, zonedMonthUtcBounds now = .ok (start, stop) →
    sumTokensInPeriod rows organization_id start.resolved stop.resolved = monthTotal rows organization_id now.resolved

def ZeroAt (now : AwareDateTime) (year month : ℕ) : Prop :=
  ∀ first, now.clock.startOfMonth year month = some first → now.tzinfo first = 0

/-- The local month of `now` is its month in UTC, and begins and ends there without an offset. -/
structure ReadsUtc (now : AwareDateTime) : Prop where
  own : InUtcMonth now.val.resolved now.clock.year now.clock.month
  first : ZeroAt now now.clock.year now.clock.month
  next : ZeroAt now (followingYear now.clock.year now.clock.month) (followingMonth now.clock.month)

end Statement

section Bounds

variable {now now' : AwareDateTime} {start stop : ZonedDateTime}

theorem AwareDateTime.bounds (now : AwareDateTime) :
    (1 ≤ now.clock.year ∧ now.clock.year ≤ 9999) ∧ 1 ≤ now.clock.month ∧ now.clock.month ≤ 12 := by
  have hb := now.val.resolved.bounds
  exact ⟨⟨hb.1, hb.2.1⟩, hb.2.2.1, hb.2.2.2.1⟩

/-- The bounds are the first of the local month and of the next one. -/
theorem bounds_iff : zonedMonthUtcBounds now.val = .ok (start, stop) ↔
    now.val.startOfMonth now.clock.year now.clock.month = some start ∧
      now.val.startOfMonth (followingYear now.clock.year now.clock.month) (followingMonth now.clock.month) =
        some stop := by
  have hzone : ¬ now.val.tzinfo.isNone = true := Bool.false_ne_true
  have hyear : now.val.clock.year = now.clock.year := rfl
  have hmonth : now.val.clock.month = now.clock.month := rfl
  unfold zonedMonthUtcBounds followingYear followingMonth
  rw [if_neg hzone, hyear, hmonth]
  cases hstart : now.val.startOfMonth now.clock.year now.clock.month with
  | none => exact iff_of_false nofun fun h => nomatch h.1
  | some first =>
    obtain ⟨-, -, hfirst, hfirst', -⟩ := ZonedDateTime.startOfMonth_instant hstart
    simp only [hfirst, hfirst', ZonedDateTime.startOfMonth_again hstart]
    split_ifs with hdec
    all_goals
      split <;> rename_i hstop <;> rw [hstop]
      · exact iff_of_false nofun fun h => nomatch h.2
      · rw [Except.ok.injEq, Prod.mk.injEq, Option.some.injEq, Option.some.injEq]

/-- The bounds are the ends of the local month, each at the offset that holds there. -/
theorem bounds_instants (h : zonedMonthUtcBounds now.val = .ok (start, stop)) :
    start.resolved.instant = firstInstant now.clock.year now.clock.month - now.tzinfo start.clock ∧
      stop.resolved.instant = nextFirstInstant now.clock.year now.clock.month - now.tzinfo stop.clock := by
  obtain ⟨hstart, hstop⟩ := bounds_iff.mp h
  exact ⟨(ZonedDateTime.startOfMonth_instant hstart).2.2.2.2, (ZonedDateTime.startOfMonth_instant hstop).2.2.2.2⟩

theorem days_cancel {m n offset : ℤ} (hoffset : -dayLength < offset ∧ offset < dayLength)
    (h : m * dayLength = n * dayLength - offset) : offset = 0 := by
  unfold dayLength at *
  omega

theorem firstInstant_days (year month : ℕ) : ∃ n : ℤ, firstInstant year month = n * dayLength := ⟨_, rfl⟩

theorem nextFirstInstant_days (year month : ℕ) : ∃ n : ℤ, nextFirstInstant year month = n * dayLength := ⟨_, rfl⟩

/-- Bounds that are first instants of UTC months are taken without an offset. -/
theorem readsUtc_of_keepsMonth (h : KeepsMonth now.val) : ReadsUtc now := by
  obtain ⟨start, stop, year, month, hbounds, hown, hfirst, hnext, -⟩ := h
  obtain ⟨hstart, hstop⟩ := bounds_iff.mp hbounds
  obtain ⟨hstart_instant, hstop_instant⟩ := bounds_instants hbounds
  have hstart_zero : now.tzinfo start.clock = 0 := by
    obtain ⟨m, hm⟩ := firstInstant_days year month
    obtain ⟨n, hn⟩ := firstInstant_days now.clock.year now.clock.month
    rw [hfirst, hm, hn] at hstart_instant
    exact days_cancel (now.within_day _) hstart_instant
  have hstop_zero : now.tzinfo stop.clock = 0 := by
    obtain ⟨m, hm⟩ := nextFirstInstant_days year month
    obtain ⟨n, hn⟩ := nextFirstInstant_days now.clock.year now.clock.month
    rw [hnext, hm, hn] at hstop_instant
    exact days_cancel (now.within_day _) hstop_instant
  refine ⟨?_, ?_, ?_⟩
  · rw [hfirst, hstart_zero, sub_zero] at hstart_instant
    rw [hnext, hstop_zero, sub_zero] at hstop_instant
    rw [inUtcMonth_iff now.bounds.1 now.bounds.2, ← hstart_instant, ← hstop_instant]
    exact hown.range.2.2
  · intro first h
    have hclock := (ZonedDateTime.startOfMonth_instant hstart).2.1
    cases h.symm.trans hclock
    exact hstart_zero
  · intro first h
    have hclock := (ZonedDateTime.startOfMonth_instant hstop).2.1
    cases h.symm.trans hclock
    exact hstop_zero

theorem zoned_startOfMonth_isSome (z : ZonedDateTime) {year month : ℕ} (hy : 1 ≤ year ∧ year ≤ 9999)
    (hm : 1 ≤ month ∧ month ≤ 12) : ∃ first, z.startOfMonth year month = some first := by
  obtain ⟨first, hfirst⟩ := z.resolved.startOfMonth_isSome hy hm
  unfold DateTime.startOfMonth at hfirst
  split_ifs at hfirst with hok
  unfold ZonedDateTime.startOfMonth LocalTime.startOfMonth
  rw [dif_pos hok]
  exact ⟨_, rfl⟩

theorem utc_bounds (hutc : ReadsUtc now) (hlast : now.clock.year < 9999 ∨ now.clock.month < 12) :
    ∃ start stop, zonedMonthUtcBounds now.val = .ok (start, stop) ∧
      start.resolved.instant = firstInstant now.clock.year now.clock.month ∧
      stop.resolved.instant = nextFirstInstant now.clock.year now.clock.month := by
  obtain ⟨hyear, hmonth⟩ := now.bounds
  obtain ⟨start, hstart⟩ := zoned_startOfMonth_isSome now.val hyear hmonth
  have hfollowing : (1 ≤ followingYear now.clock.year now.clock.month ∧
      followingYear now.clock.year now.clock.month ≤ 9999) ∧
        1 ≤ followingMonth now.clock.month ∧ followingMonth now.clock.month ≤ 12 := by
    unfold followingYear followingMonth
    split_ifs <;> omega
  obtain ⟨stop, hstop⟩ := zoned_startOfMonth_isSome now.val hfollowing.1 hfollowing.2
  have hbounds := bounds_iff.mpr ⟨hstart, hstop⟩
  obtain ⟨hstart_instant, hstop_instant⟩ := bounds_instants hbounds
  rw [hutc.first _ (ZonedDateTime.startOfMonth_instant hstart).2.1, sub_zero] at hstart_instant
  rw [hutc.next _ (ZonedDateTime.startOfMonth_instant hstop).2.1, sub_zero] at hstop_instant
  exact ⟨start, stop, hbounds, hstart_instant, hstop_instant⟩

theorem utc_keepsMonth (hutc : ReadsUtc now) (hlast : now.clock.year < 9999 ∨ now.clock.month < 12) :
    KeepsMonth now.val := by
  obtain ⟨start, stop, hbounds, hstart, hstop⟩ := utc_bounds hutc hlast
  refine ⟨start, stop, _, _, hbounds, hutc.own, hstart, hstop, ?_⟩
  have hin := hutc.own.range.2.2
  rw [← hstart, ← hstop] at hin
  exact hin

theorem utc_sameMonth (hutc : ReadsUtc now) (d : DateTime) :
    SameMonth now.val.resolved d ↔ InUtcMonth d now.clock.year now.clock.month := by
  constructor
  · intro h
    obtain ⟨year, month, hnow, hd⟩ := h
    obtain ⟨rfl, rfl⟩ := hnow.unique hutc.own
    exact hd
  · intro hd
    exact ⟨_, _, hutc.own, hd⟩

theorem utc_inPeriod (hutc : ReadsUtc now) (hlast : now.clock.year < 9999 ∨ now.clock.month < 12) (d : DateTime) :
    InPeriod now.val d ↔ SameMonth now.val.resolved d := by
  obtain ⟨start, stop, hbounds, hstart, hstop⟩ := utc_bounds hutc hlast
  have hperiod : InPeriod now.val d ↔ start.resolved ≤ d ∧ d < stop.resolved := by
    constructor
    · intro h
      obtain ⟨start', stop', hbounds', hin⟩ := h
      cases hbounds.symm.trans hbounds'
      exact hin
    · intro hin
      exact ⟨start, stop, hbounds, hin⟩
  rw [hperiod, utc_sameMonth hutc, inUtcMonth_iff now.bounds.1 now.bounds.2, ← hstart, ← hstop]
  rfl

theorem utc_samePeriod (hutc : ReadsUtc now) (hutc' : ReadsUtc now')
    (hlast : now.clock.year < 9999 ∨ now.clock.month < 12) (hlast' : now'.clock.year < 9999 ∨ now'.clock.month < 12) :
    SamePeriod now.val now'.val ↔ SameMonth now.val.resolved now'.val.resolved := by
  obtain ⟨start, stop, hbounds, hstart, hstop⟩ := utc_bounds hutc hlast
  obtain ⟨start', stop', hbounds', hstart', hstop'⟩ := utc_bounds hutc' hlast'
  rw [utc_sameMonth hutc]
  constructor
  · intro h
    obtain ⟨_, _, _, _, h₁, h₂, hsame, hsame'⟩ := h
    cases hbounds.symm.trans h₁
    cases hbounds'.symm.trans h₂
    rw [inUtcMonth_iff now.bounds.1 now.bounds.2, ← hstart, ← hstop, hsame, hsame', hstart', hstop']
    exact hutc'.own.range.2.2
  · intro h
    obtain ⟨hyear, hmonth⟩ := h.unique hutc'.own
    refine ⟨start, stop, start', stop', hbounds, hbounds', ?_, ?_⟩
    · rw [hstart, hstart', hyear, hmonth]
    · rw [hstop, hstop', hyear, hmonth]

theorem utc_totals (hutc : ReadsUtc now) (hlast : now.clock.year < 9999 ∨ now.clock.month < 12)
    (hbounds : zonedMonthUtcBounds now.val = .ok (start, stop)) (rows : List UsageRecord) (organization_id : UUID) :
    sumTokensInPeriod rows organization_id start.resolved stop.resolved =
      monthTotal rows organization_id now.val.resolved := by
  classical
  unfold sumTokensInPeriod monthTotal
  congr 2
  apply List.filter_congr
  intro row _
  have hcounted : (start.resolved ≤ row.created_at ∧ row.created_at < stop.resolved) ↔
      SameMonth now.val.resolved row.created_at := by
    rw [← utc_inPeriod hutc hlast]
    constructor
    · intro hin
      exact ⟨start, stop, hbounds, hin⟩
    · intro h
      obtain ⟨start', stop', hbounds', hin⟩ := h
      cases hbounds.symm.trans hbounds'
      exact hin
  rw [Bool.eq_iff_iff]
  simp only [Bool.and_eq_true, decide_eq_true_eq, and_assoc, hcounted]

end Bounds

section Periods

def utcReading (l : LocalTime) : AwareDateTime := ⟨l, fun _ => 0, fun _ => by decide⟩

theorem utcReading_readsUtc (l : LocalTime) : ReadsUtc (utcReading l) :=
  ⟨inUtcMonth_self rfl, fun _ _ => rfl, fun _ _ => rfl⟩

theorem zoned_utcReading {d : DateTime} (h : d.utcoffset = some 0) : d.zoned = (utcReading d.zoned.clock).val := by
  unfold DateTime.zoned
  rw [h]
  rfl

/-- Two readings get the months of UTC, one period for each month and every row in one period, exactly when both
have their local month in UTC and begin and end it without an offset. -/
theorem quota_periods_utc_iff (now now' : AwareDateTime) (hlast : now.clock.year < 9999 ∨ now.clock.month < 12)
    (hlast' : now'.clock.year < 9999 ∨ now'.clock.month < 12) :
    UtcMonthly now.val now'.val ↔ ReadsUtc now ∧ ReadsUtc now' := by
  constructor
  · intro h
    exact ⟨readsUtc_of_keepsMonth h.first, readsUtc_of_keepsMonth h.second⟩
  · intro h
    obtain ⟨hutc, hutc'⟩ := h
    refine ⟨utc_keepsMonth hutc hlast, utc_keepsMonth hutc' hlast', utc_samePeriod hutc hutc' hlast hlast',
      ?_, ?_, ?_, ?_⟩
    · intro row
      exact utc_inPeriod hutc hlast row.created_at
    · intro row year month hmonth hrange
      obtain ⟨reading, hreading, hinstant, rfl, rfl⟩ := hmonth
      refine ⟨reading, hreading, ?_⟩
      have hreads := utcReading_readsUtc reading.zoned.clock
      rw [zoned_utcReading hreading]
      exact (utc_inPeriod hreads hrange _).mpr ((utc_sameMonth hreads _).mpr ⟨reading, hreading, hinstant, rfl, rfl⟩)
    · intro row hrow hrow'
      rw [utc_inPeriod hutc hlast, utc_sameMonth hutc] at hrow
      rw [utc_inPeriod hutc' hlast', utc_sameMonth hutc'] at hrow'
      rw [utc_samePeriod hutc hutc' hlast hlast', utc_sameMonth hutc]
      obtain ⟨hyear, hmonth⟩ := hrow.unique hrow'
      rw [hyear, hmonth]
      exact hutc'.own
    · intro rows organization_id start stop hbounds
      exact utc_totals hutc hlast hbounds rows organization_id

theorem earlyAugust_ok : fieldsOk 2026 8 1 1 0 0 0 = true := by decide

theorem hours_within (n : Fin 24) : -dayLength < n.val * 3600000000 ∧ n.val * 3600000000 < dayLength := by
  unfold dayLength
  omega

def earlyAugust : AwareDateTime :=
  ⟨⟨2026, 8, 1, 1, 0, 0, 0, false, earlyAugust_ok⟩, fun _ => (2 : Fin 24).val * 3600000000, fun _ => hours_within 2⟩

/-- It lies in July, and its period is not July. -/
theorem earlyAugust_not_july : InUtcMonth earlyAugust.val.resolved 2026 7 ∧ ¬KeepsMonth earlyAugust.val := by
  constructor
  · exact ⟨⟨2026, 7, 31, 23, 0, 0, 0, some 0, by decide⟩, rfl, by decide, rfl, rfl⟩
  · intro h
    have hzero := (readsUtc_of_keepsMonth h).first _ rfl
    exact absurd hzero (by decide)

/-- The hours of `Europe/London` in 2026: the hour after one is left out on the last Sunday of March and comes twice
on that of October. -/
def londonHours (l : LocalTime) : Fin 24 :=
  let hour := (l.month * 100 + l.day) * 100 + l.hour
  if hour < 32901 ∨ hour = 32901 ∧ ¬ l.fold ∨ 102502 ≤ hour ∨ hour = 102501 ∧ l.fold then 0 else 1

theorem midFebruary_ok : fieldsOk 2026 2 10 12 0 0 0 = true := by decide

def londonReading (l : LocalTime) : AwareDateTime :=
  ⟨l, fun l => (londonHours l).val * 3600000000, fun l => hours_within (londonHours l)⟩

def midFebruary : AwareDateTime := londonReading ⟨2026, 2, 10, 12, 0, 0, 0, false, midFebruary_ok⟩

theorem newYearsEve_ok : fieldsOk 2026 12 31 23 59 59 999999 = true := by decide

def newYearsEve : AwareDateTime := utcReading ⟨2026, 12, 31, 23, 59, 59, 999999, false, newYearsEve_ok⟩

theorem midFebruary_readsUtc : ReadsUtc midFebruary := by
  refine ⟨inUtcMonth_self rfl, ?_, ?_⟩
  · intro first h
    cases h
    rfl
  · intro first h
    cases h
    rfl

/-- London in February and UTC in December. -/
theorem february_december_utcMonthly : UtcMonthly midFebruary.val newYearsEve.val :=
  (quota_periods_utc_iff midFebruary newYearsEve (.inl (by decide)) (.inl (by decide))).mpr
    ⟨midFebruary_readsUtc, utcReading_readsUtc _⟩

theorem midMarch_ok : fieldsOk 2026 3 10 12 0 0 0 = true := by decide

/-- London in March has offset zero, but not where April begins. -/
example : ¬KeepsMonth (londonReading ⟨2026, 3, 10, 12, 0, 0, 0, false, midMarch_ok⟩).val := by
  intro h
  have hzero := (readsUtc_of_keepsMonth h).next _ rfl
  exact absurd hzero (by decide)

end Periods

end AIRuntime.QuotaPeriods
