import Mathlib.Data.Int.Notation
import Mathlib.Data.Nat.Notation
import Mathlib.Tactic.SplitIfs

set_option autoImplicit false

/-! Python's `datetime`: civil fields with an offset from UTC, ordered by the instant they name. -/
namespace AIRuntime.CivilTime

def isLeap (year : ℕ) : Bool := year % 4 = 0 && (year % 100 ≠ 0 || year % 400 = 0)

def daysInMonth (year month : ℕ) : ℕ :=
  if month = 2 then (if isLeap year then 29 else 28)
  else if month = 4 ∨ month = 6 ∨ month = 9 ∨ month = 11 then 30
  else 31

def daysBeforeYear (year : ℕ) : ℕ := (year - 1) * 365 + (year - 1) / 4 - (year - 1) / 100 + (year - 1) / 400

def daysBeforeMonth (year : ℕ) : ℕ → ℕ
  | 0 => 0
  | 1 => 0
  | month + 2 => daysBeforeMonth year (month + 1) + daysInMonth year (month + 1)

def toOrdinal (year month day : ℕ) : ℕ := daysBeforeYear year + daysBeforeMonth year month + day

def fieldsOk (year month day hour minute second microsecond : ℕ) : Bool :=
  1 ≤ year && year ≤ 9999 && 1 ≤ month && month ≤ 12 && 1 ≤ day && day ≤ daysInMonth year month &&
    hour < 24 && minute < 60 && second < 60 && microsecond < 1000000

/-- A value as the clocks and the database of the program hand it out: its `tzinfo` is a fixed offset in microseconds,
or `none` for a naive value. -/
structure DateTime where
  year : ℕ
  month : ℕ
  day : ℕ
  hour : ℕ
  minute : ℕ
  second : ℕ
  microsecond : ℕ
  utcoffset : Option ℤ
  ok : fieldsOk year month day hour minute second microsecond = true
deriving DecidableEq

namespace DateTime

/-- `instant.replace(year=.., month=.., day=1, hour=0, minute=0, second=0, microsecond=0)`. -/
def startOfMonth (d : DateTime) (year month : ℕ) : Option DateTime :=
  if h : fieldsOk year month 1 0 0 0 0 = true then some ⟨year, month, 1, 0, 0, 0, 0, d.utcoffset, h⟩
  else none

/-- Microseconds since the start of year 1 in UTC. -/
def instant (d : DateTime) : ℤ :=
  (((toOrdinal d.year d.month d.day * 24 + d.hour) * 60 + d.minute) * 60 + d.second : ℤ) * 1000000 +
    d.microsecond - d.utcoffset.getD 0

instance : LE DateTime := ⟨fun a b => a.instant ≤ b.instant⟩

instance : LT DateTime := ⟨fun a b => a.instant < b.instant⟩

instance (a b : DateTime) : Decidable (a ≤ b) := inferInstanceAs (Decidable (a.instant ≤ b.instant))

instance (a b : DateTime) : Decidable (a < b) := inferInstanceAs (Decidable (a.instant < b.instant))

theorem bounds (d : DateTime) : 1 ≤ d.year ∧ d.year ≤ 9999 ∧ 1 ≤ d.month ∧ d.month ≤ 12 ∧ 1 ≤ d.day ∧
    d.day ≤ daysInMonth d.year d.month ∧ d.hour < 24 ∧ d.minute < 60 ∧ d.second < 60 ∧
    d.microsecond < 1000000 := by
  have h := d.ok
  simp only [fieldsOk, Bool.and_eq_true, decide_eq_true_eq] at h
  omega

/-- An instant lies between the start of its day and the end of its day. -/
theorem instant_in_day (d : DateTime) :
    (toOrdinal d.year d.month d.day : ℤ) * 86400000000 - d.utcoffset.getD 0 ≤ d.instant ∧
      d.instant < (toOrdinal d.year d.month d.day + 1 : ℤ) * 86400000000 - d.utcoffset.getD 0 := by
  have h := d.bounds
  unfold instant
  omega

theorem startOfMonth_some {d s : DateTime} {year month : ℕ} (h : d.startOfMonth year month = some s) :
    s.instant = (toOrdinal year month 1 : ℤ) * 86400000000 - d.utcoffset.getD 0 := by
  unfold startOfMonth at h
  split_ifs at h with hok
  cases h
  unfold instant
  simp only
  omega

/-- The first of a month can always be built within the years `datetime` has. -/
theorem startOfMonth_isSome (d : DateTime) {year month : ℕ} (hy : 1 ≤ year ∧ year ≤ 9999)
    (hm : 1 ≤ month ∧ month ≤ 12) : ∃ s, d.startOfMonth year month = some s := by
  have hd : 1 ≤ daysInMonth year month := by
    unfold daysInMonth
    split_ifs <;> omega
  have hok : fieldsOk year month 1 0 0 0 0 = true := by
    simp only [fieldsOk, Bool.and_eq_true, decide_eq_true_eq]
    omega
  exact ⟨_, dif_pos hok⟩

end DateTime

section Zones

/-- The fields beside the `tzinfo`; `fold` tells the second of two equal readings from the first. -/
structure LocalTime where
  year : ℕ
  month : ℕ
  day : ℕ
  hour : ℕ
  minute : ℕ
  second : ℕ
  microsecond : ℕ
  fold : Bool
  ok : fieldsOk year month day hour minute second microsecond = true

abbrev TzInfo := LocalTime → ℤ

structure ZonedDateTime where
  clock : LocalTime
  tzinfo : Option TzInfo

def LocalTime.startOfMonth (l : LocalTime) (year month : ℕ) : Option LocalTime :=
  if h : fieldsOk year month 1 0 0 0 0 = true then some ⟨year, month, 1, 0, 0, 0, 0, l.fold, h⟩ else none

/-- `replace` keeps the `tzinfo`, which is asked again for the offset of the new local time. -/
def ZonedDateTime.startOfMonth (z : ZonedDateTime) (year month : ℕ) : Option ZonedDateTime :=
  (z.clock.startOfMonth year month).map fun first => ⟨first, z.tzinfo⟩

def ZonedDateTime.resolved (z : ZonedDateTime) : DateTime :=
  ⟨z.clock.year, z.clock.month, z.clock.day, z.clock.hour, z.clock.minute, z.clock.second, z.clock.microsecond,
    z.tzinfo.map fun offset => offset z.clock, z.clock.ok⟩

def DateTime.zoned (d : DateTime) : ZonedDateTime :=
  ⟨⟨d.year, d.month, d.day, d.hour, d.minute, d.second, d.microsecond, false, d.ok⟩,
    d.utcoffset.map fun offset _ => offset⟩

theorem DateTime.zoned_startOfMonth (d : DateTime) (year month : ℕ) :
    (d.zoned.startOfMonth year month).map ZonedDateTime.resolved = d.startOfMonth year month := by
  obtain ⟨_, _, _, _, _, _, _, utcoffset, _⟩ := d
  unfold ZonedDateTime.startOfMonth LocalTime.startOfMonth DateTime.startOfMonth
  split_ifs with hok
  · cases utcoffset <;> rfl
  · rfl

theorem ZonedDateTime.startOfMonth_instant {z first : ZonedDateTime} {year month : ℕ}
    (h : z.startOfMonth year month = some first) : first.tzinfo = z.tzinfo ∧
      z.clock.startOfMonth year month = some first.clock ∧ first.clock.year = year ∧ first.clock.month = month ∧
      first.resolved.instant =
        (toOrdinal year month 1 : ℤ) * 86400000000 - (z.tzinfo.map fun offset => offset first.clock).getD 0 := by
  unfold ZonedDateTime.startOfMonth at h
  obtain ⟨l, hl, rfl⟩ := Option.map_eq_some_iff.mp h
  refine ⟨rfl, hl, ?_⟩
  unfold LocalTime.startOfMonth at hl
  split_ifs at hl with hok
  cases hl
  refine ⟨rfl, rfl, ?_⟩
  unfold DateTime.instant ZonedDateTime.resolved
  simp only
  omega

/-- A second `replace` goes back to nothing that the first one changed. -/
theorem ZonedDateTime.startOfMonth_again {z first : ZonedDateTime} {year month : ℕ}
    (h : z.startOfMonth year month = some first) (year' month' : ℕ) :
    first.startOfMonth year' month' = z.startOfMonth year' month' := by
  unfold ZonedDateTime.startOfMonth at h
  obtain ⟨l, hl, rfl⟩ := Option.map_eq_some_iff.mp h
  unfold LocalTime.startOfMonth at hl
  split_ifs at hl with hok
  cases hl
  rfl

end Zones

theorem toOrdinal_succ_month (year : ℕ) {month : ℕ} (h : 1 ≤ month) :
    toOrdinal year (month + 1) 1 = toOrdinal year month 1 + daysInMonth year month := by
  obtain ⟨m, rfl⟩ : ∃ m, month = m + 1 := ⟨month - 1, by omega⟩
  unfold toOrdinal
  rw [daysBeforeMonth]
  omega

theorem div_succ_of_mod (y k : ℕ) :
    (y + 1) / k = y / k + if (y + 1) % k = 0 then 1 else 0 := by
  rw [Nat.succ_div]
  simp only [Nat.dvd_iff_mod_eq_zero]

theorem daysBeforeYear_succ {year : ℕ} (h : 1 ≤ year) :
    daysBeforeYear (year + 1) = daysBeforeYear year + 365 + if isLeap year then 1 else 0 := by
  obtain ⟨y, rfl⟩ : ∃ y, year = y + 1 := ⟨year - 1, by omega⟩
  have h4 := div_succ_of_mod y 4
  have h100 := div_succ_of_mod y 100
  have h400 := div_succ_of_mod y 400
  have hle : y / 100 ≤ y / 4 := Nat.div_le_div_left (by omega) (by omega)
  unfold daysBeforeYear isLeap
  simp only [Nat.add_sub_cancel]
  rw [h4, h100, h400]
  have hm : (y + 1) % 400 = 0 → (y + 1) % 100 = 0 := by omega
  have hm' : (y + 1) % 100 = 0 → (y + 1) % 4 = 0 := by omega
  by_cases h1 : (y + 1) % 4 = 0
  · by_cases h2 : (y + 1) % 100 = 0
    · by_cases h3 : (y + 1) % 400 = 0
      · simp only [h1, h2, h3, ↓reduceIte, decide_true, Bool.and_true, Bool.or_true]
        omega
      · simp only [h1, h2, h3, ↓reduceIte, decide_true, decide_false, Bool.or_false, ne_eq,
          not_true_eq_false, Bool.and_false, Bool.false_eq_true]
        omega
    · have h3 : ¬ (y + 1) % 400 = 0 := fun h => h2 (hm h)
      simp only [h1, h2, h3, ↓reduceIte, decide_true, ne_eq, not_false_eq_true, Bool.true_or, Bool.and_true]
      omega
  · have h2 : ¬ (y + 1) % 100 = 0 := fun h => h1 (hm' h)
    have h3 : ¬ (y + 1) % 400 = 0 := fun h => h2 (hm h)
    simp only [h1, h2, h3, ↓reduceIte, decide_false, Bool.false_and, Bool.false_eq_true]
    omega

theorem toOrdinal_succ_year {year : ℕ} (h : 1 ≤ year) :
    toOrdinal (year + 1) 1 1 = toOrdinal year 12 1 + daysInMonth year 12 := by
  have hyear := daysBeforeYear_succ h
  have hmonths : daysBeforeMonth year 12 = 31 + daysInMonth year 2 + 275 := by
    change 0 + 31 + daysInMonth year 2 + 31 + 30 + 31 + 30 + 31 + 31 + 30 + 31 + 30 = _
    omega
  have hfeb : daysInMonth year 2 = 28 + if isLeap year then 1 else 0 := by
    simp only [daysInMonth, ↓reduceIte]
    split_ifs <;> rfl
  have hdec : daysInMonth year 12 = 31 := rfl
  have hjan : daysBeforeMonth (year + 1) 1 = 0 := rfl
  unfold toOrdinal
  omega

section Months

/-- The ordinal of the first day of a month, the months being counted from the start of year 0. -/
def monthStart (k : ℕ) : ℕ := toOrdinal (k / 12) (k % 12 + 1) 1

theorem monthStart_eq {year month : ℕ} (h : 1 ≤ month) (h' : month ≤ 12) :
    monthStart (12 * year + (month - 1)) = toOrdinal year month 1 := by
  have hyear : (12 * year + (month - 1)) / 12 = year := by omega
  have hmonth : (12 * year + (month - 1)) % 12 + 1 = month := by omega
  unfold monthStart
  rw [hyear, hmonth]

theorem monthStart_succ {k : ℕ} (h : 12 ≤ k) :
    monthStart (k + 1) = monthStart k + daysInMonth (k / 12) (k % 12 + 1) := by
  unfold monthStart
  by_cases hdec : k % 12 + 1 = 12
  · have hyear : (k + 1) / 12 = k / 12 + 1 := by omega
    have hmonth : (k + 1) % 12 + 1 = 1 := by omega
    rw [hyear, hmonth, hdec, toOrdinal_succ_year (by omega)]
  · have hyear : (k + 1) / 12 = k / 12 := by omega
    have hmonth : (k + 1) % 12 + 1 = k % 12 + 1 + 1 := by omega
    rw [hyear, hmonth, @toOrdinal_succ_month (k / 12) (k % 12 + 1) (by omega)]

theorem monthStart_lt_succ {k : ℕ} (h : 12 ≤ k) : monthStart k < monthStart (k + 1) := by
  have hdays : 0 < daysInMonth (k / 12) (k % 12 + 1) := by
    unfold daysInMonth
    split_ifs <;> omega
  rw [monthStart_succ h]
  exact Nat.lt_add_of_pos_right hdays

/-- A value lies between the start of its month and that of the next one. -/
theorem DateTime.instant_in_month (d : DateTime) :
    (monthStart (12 * d.year + (d.month - 1)) : ℤ) * 86400000000 - d.utcoffset.getD 0 ≤ d.instant ∧
      d.instant < (monthStart (12 * d.year + (d.month - 1) + 1) : ℤ) * 86400000000 - d.utcoffset.getD 0 := by
  have hb := d.bounds
  have hday := d.instant_in_day
  have hyear : (12 * d.year + (d.month - 1)) / 12 = d.year := by omega
  have hmonth : (12 * d.year + (d.month - 1)) % 12 + 1 = d.month := by omega
  rw [monthStart_succ (by omega), monthStart_eq hb.2.2.1 hb.2.2.2.1, hyear, hmonth]
  unfold toOrdinal at hday ⊢
  omega

theorem monthStart_le {j k : ℕ} (h : 12 ≤ j) (hjk : j ≤ k) : monthStart j ≤ monthStart k := by
  induction hjk with
  | refl => exact Nat.le_refl _
  | step hjk ih => exact Nat.le_of_lt (Nat.lt_of_le_of_lt ih (monthStart_lt_succ (Nat.le_trans h hjk)))

theorem monthStart_unique {j k : ℕ} (hj : 12 ≤ j) (hk : 12 ≤ k) {x D : ℤ} (hD : 0 ≤ D)
    (hx : monthStart j * D ≤ x ∧ x < monthStart (j + 1) * D)
    (hx' : monthStart k * D ≤ x ∧ x < monthStart (k + 1) * D) : j = k := by
  have hstarts : ∀ {a b : ℕ}, 12 ≤ a → a < b → (monthStart (a + 1) : ℤ) * D ≤ monthStart b * D :=
    fun ha hab => Int.mul_le_mul_of_nonneg_right (Int.ofNat_le.mpr (monthStart_le (by omega) hab)) hD
  rcases Nat.lt_trichotomy j k with hlt | heq | hlt
  · have hle := hstarts hj hlt
    omega
  · exact heq
  · have hle := hstarts hk hlt
    omega

end Months

end AIRuntime.CivilTime
