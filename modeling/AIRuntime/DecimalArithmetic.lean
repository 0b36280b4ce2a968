import Mathlib.Algebra.Order.Field.Rat
import Mathlib.Data.Nat.Log
import Mathlib.Tactic.FieldSimp
import Mathlib.Tactic.Linarith
import Mathlib.Tactic.Positivity
import Mathlib.Tactic.Ring

set_option autoImplicit false

/-!
Finite decimal numbers and their arithmetic in a context of a fixed precision, rounded half to even: the
operations of Python's `decimal`, with the conditions under which they do not round.
-/
namespace AIRuntime.DecimalArithmetic

section Numbers

/-- `coefficient * 10 ^ exponent`. The coefficient carries the sign, so there is one zero for each exponent. -/
structure Decimal where
  coefficient : ℤ
  exponent : ℤ
deriving DecidableEq

def Decimal.value (d : Decimal) : ℚ := d.coefficient * 10 ^ d.exponent

/-- `Decimal(n)`, which no context rounds. -/
def Decimal.ofInt (n : ℤ) : Decimal := ⟨n, 0⟩

instance : LE Decimal := ⟨fun a b => a.value ≤ b.value⟩

instance : LT Decimal := ⟨fun a b => a.value < b.value⟩

instance (a b : Decimal) : Decidable (a < b) := inferInstanceAs (Decidable (a.value < b.value))

def digitCount (n : ℕ) : ℕ := Nat.log 10 n + 1

def halfEven (n d : ℕ) : ℕ :=
  if 2 * (n % d) < d then n / d
  else if d < 2 * (n % d) then n / d + 1
  else if n / d % 2 = 0 then n / d else n / d + 1

def dropDigits (coefficient : ℤ) (count : ℕ) : ℤ := coefficient.sign * halfEven coefficient.natAbs (10 ^ count)

end Numbers

section Contexts

/-- The conditions that the default context traps. -/
inductive Signal
  | invalidOperation
  | divisionByZero
  | overflow
deriving DecidableEq

structure Context where
  prec : ℕ
  emin : ℤ
  emax : ℤ
  prec_pos : 0 < prec

def Context.etiny (ctx : Context) : ℤ := ctx.emin - ctx.prec + 1

def Context.etop (ctx : Context) : ℤ := ctx.emax - ctx.prec + 1

theorem default_prec_pos : 0 < 28 := by decide

def defaultContext : Context := ⟨28, -999999, 999999, default_prec_pos⟩

structure Fits (ctx : Context) (d : Decimal) : Prop where
  digits : d.coefficient.natAbs < 10 ^ ctx.prec
  tiny : ctx.etiny ≤ d.exponent
  top : d.exponent ≤ ctx.etop

end Contexts

section Operations

variable (ctx : Context)

/-- `_fix`: a result is rounded to the precision, and to the least exponent where it is subnormal. -/
def fix (d : Decimal) : Except Signal Decimal :=
  if d.coefficient = 0 then .ok ⟨0, min (max d.exponent ctx.etiny) ctx.emax⟩
  else
    let least : ℤ := digitCount d.coefficient.natAbs + d.exponent - ctx.prec
    if ctx.etop < least then .error .overflow
    else if d.exponent < max least ctx.etiny then
      let rounded := dropDigits d.coefficient (max least ctx.etiny - d.exponent).toNat
      -- rounding up can carry into one digit more
      if ctx.prec < digitCount rounded.natAbs then
        if ctx.etop < max least ctx.etiny + 1 then .error .overflow
        else .ok ⟨rounded / 10, max least ctx.etiny + 1⟩
      else .ok ⟨rounded, max least ctx.etiny⟩
    else .ok d

def align (a : Decimal) (exponent : ℤ) : ℤ := a.coefficient * 10 ^ (a.exponent - exponent).toNat

def add (a b : Decimal) : Except Signal Decimal :=
  let exponent := min a.exponent b.exponent
  fix ctx ⟨align a exponent + align b exponent, exponent⟩

def mul (a b : Decimal) : Except Signal Decimal := fix ctx ⟨a.coefficient * b.coefficient, a.exponent + b.exponent⟩

/-- The zeros at the end of an exact quotient go, `count` of them at most. -/
def strip : ℕ → ℕ → ℤ → ℕ × ℤ
  | 0, coefficient, exponent => (coefficient, exponent)
  | count + 1, coefficient, exponent =>
    if coefficient % 10 = 0 then strip count (coefficient / 10) (exponent + 1) else (coefficient, exponent)

def div (a b : Decimal) : Except Signal Decimal :=
  if b.coefficient = 0 then .error (if a.coefficient = 0 then .invalidOperation else .divisionByZero)
  else if a.coefficient = 0 then fix ctx ⟨0, a.exponent - b.exponent⟩
  else
    let shift : ℤ := digitCount b.coefficient.natAbs - digitCount a.coefficient.natAbs + ctx.prec + 1
    let dividend := a.coefficient.natAbs * 10 ^ shift.toNat
    let divisor := b.coefficient.natAbs * 10 ^ (-shift).toNat
    let quotient := dividend / divisor
    let exponent := a.exponent - b.exponent - shift
    let sign := a.coefficient.sign * b.coefficient.sign
    if dividend % divisor = 0 then
      fix ctx ⟨sign * (strip shift.toNat quotient exponent).1, (strip shift.toNat quotient exponent).2⟩
    -- a last digit that is not that of a tie stands for the digits left out
    else fix ctx ⟨sign * if quotient % 5 = 0 then quotient + 1 else quotient, exponent⟩

def rescale (a : Decimal) (exponent : ℤ) : Decimal :=
  if exponent ≤ a.exponent then ⟨align a exponent, exponent⟩
  else ⟨dropDigits a.coefficient (exponent - a.exponent).toNat, exponent⟩

/-- `quantize`, to the exponent of `exp`. -/
def quantize (a exp : Decimal) : Except Signal Decimal :=
  if exp.exponent < ctx.etiny ∨ ctx.emax < exp.exponent then .error .invalidOperation
  else if a.coefficient = 0 then fix ctx ⟨0, exp.exponent⟩
  else if ctx.emax < a.exponent + digitCount a.coefficient.natAbs - 1 then .error .invalidOperation
  else if ctx.prec < a.exponent + digitCount a.coefficient.natAbs - exp.exponent then .error .invalidOperation
  else
    let rescaled := rescale a exp.exponent
    if ctx.emax < rescaled.exponent + digitCount rescaled.coefficient.natAbs - 1 then .error .invalidOperation
    else if ctx.prec < digitCount rescaled.coefficient.natAbs then .error .invalidOperation
    else fix ctx rescaled

/-- `sum`, which starts from the integer zero. -/
def sum (ds : List Decimal) : Except Signal Decimal := ds.foldlM (add ctx) (.ofInt 0)

end Operations

section Values

theorem digitCount_le_iff {n p : ℕ} (hp : 0 < p) : digitCount n ≤ p ↔ n < 10 ^ p := by
  unfold digitCount
  by_cases hn : n = 0
  · simp [hn]
    omega
  · exact Nat.log_lt_iff_lt_pow (by decide) hn

theorem pow_le_of_digitCount {n : ℕ} (hn : n ≠ 0) : 10 ^ (digitCount n - 1) ≤ n := Nat.pow_log_le_self 10 hn

theorem value_mul_pow (coefficient exponent : ℤ) (count : ℕ) :
    (Decimal.mk (coefficient * 10 ^ count) exponent).value = (Decimal.mk coefficient (exponent + count)).value := by
  unfold Decimal.value
  rw [zpow_add₀ (by norm_num), zpow_natCast]
  push_cast
  ring

theorem value_ofInt (n : ℤ) : (Decimal.ofInt n).value = n := by
  simp [Decimal.value, Decimal.ofInt]

theorem align_value (a : Decimal) {exponent : ℤ} (h : exponent ≤ a.exponent) :
    (Decimal.mk (align a exponent) exponent).value = a.value := by
  have hcount : exponent + (a.exponent - exponent).toNat = a.exponent := by omega
  rw [align, value_mul_pow, hcount]

/-- The sum of the coefficients at an exponent that neither number goes below. -/
theorem value_align_add {a b : Decimal} {exponent : ℤ} (ha : exponent ≤ a.exponent) (hb : exponent ≤ b.exponent) :
    (Decimal.mk (align a exponent + align b exponent) exponent).value = a.value + b.value := by
  rw [← align_value a ha, ← align_value b hb]
  unfold Decimal.value
  push_cast
  ring

theorem value_sum (coefficients : List ℤ) (exponent : ℤ) :
    (coefficients.map fun coefficient => (Decimal.mk coefficient exponent).value).sum =
      (Decimal.mk coefficients.sum exponent).value := by
  unfold Decimal.value
  induction coefficients with
  | nil => simp
  | cons coefficient coefficients ih =>
    rw [List.map_cons, List.sum_cons, ih, List.sum_cons]
    push_cast
    ring

theorem value_mul (a b : Decimal) :
    (Decimal.mk (a.coefficient * b.coefficient) (a.exponent + b.exponent)).value = a.value * b.value := by
  unfold Decimal.value
  rw [zpow_add₀ (by norm_num)]
  push_cast
  ring

theorem value_le_iff {b c exponent : ℤ} :
    (Decimal.mk b exponent).value ≤ (Decimal.mk c exponent).value ↔ b ≤ c := by
  have hpos : (0 : ℚ) < 10 ^ exponent := zpow_pos (by norm_num) exponent
  unfold Decimal.value
  rw [mul_le_mul_iff_of_pos_right hpos, Int.cast_le]

theorem coefficient_eq {b c exponent : ℤ} (h : (Decimal.mk b exponent).value = (Decimal.mk c exponent).value) :
    b = c :=
  le_antisymm (value_le_iff.mp h.le) (value_le_iff.mp h.ge)

theorem natAbs_align (a : Decimal) (exponent : ℤ) :
    (align a exponent).natAbs = a.coefficient.natAbs * 10 ^ (a.exponent - exponent).toNat := by
  rw [align, Int.natAbs_mul, Int.natAbs_pow]
  rfl

end Values

section Exactness

variable {ctx : Context}

theorem fix_fits {d : Decimal} (h : Fits ctx d) : fix ctx d = .ok d := by
  have hdigits := (digitCount_le_iff ctx.prec_pos).mpr h.digits
  have htiny := h.tiny
  have htop := h.top
  have hprec := ctx.prec_pos
  unfold fix
  by_cases hzero : d.coefficient = 0
  · have hexponent : min (max d.exponent ctx.etiny) ctx.emax = d.exponent := by
      unfold Context.etop at htop
      omega
    rw [if_pos hzero, hexponent, ← hzero]
  · simp only
    rw [if_neg hzero, if_neg (by omega), if_neg (by omega)]

theorem add_exact {a b : Decimal}
    (h : Fits ctx ⟨align a (min a.exponent b.exponent) + align b (min a.exponent b.exponent),
      min a.exponent b.exponent⟩) :
    add ctx a b = .ok ⟨align a (min a.exponent b.exponent) + align b (min a.exponent b.exponent),
      min a.exponent b.exponent⟩ :=
  fix_fits h

theorem mul_exact {a b : Decimal} (h : Fits ctx ⟨a.coefficient * b.coefficient, a.exponent + b.exponent⟩) :
    mul ctx a b = .ok ⟨a.coefficient * b.coefficient, a.exponent + b.exponent⟩ :=
  fix_fits h

/-- Zeros that were put at the end of a coefficient are all taken off again. -/
theorem strip_mul_pow (m count : ℕ) : ∀ (k : ℕ) (exponent : ℤ),
    strip (count + k) (m * 10 ^ k) exponent = strip count m (exponent + k) := by
  intro k
  induction k with
  | zero =>
    intro exponent
    simp
  | succ k ih =>
    intro exponent
    have hpow : m * 10 ^ (k + 1) = m * 10 ^ k * 10 := by ring
    rw [← Nat.add_assoc, strip, hpow, Nat.mul_mod_left, if_pos rfl, Nat.mul_div_cancel _ (by decide), ih]
    congr 1
    push_cast
    ring

/-- What is stripped keeps its value, its digits and the bound of its exponent. -/
theorem strip_spec : ∀ (count m : ℕ) (exponent : ℤ),
    ((strip count m exponent).1 : ℚ) * 10 ^ (strip count m exponent).2 = m * 10 ^ exponent ∧
      (strip count m exponent).1 ≤ m ∧ exponent ≤ (strip count m exponent).2 ∧
        (strip count m exponent).2 ≤ exponent + count := by
  intro count
  induction count with
  | zero =>
    intro m exponent
    simp [strip]
  | succ count ih =>
    intro m exponent
    rw [strip]
    split_ifs with hzero
    · obtain ⟨hvalue, hle, hlow, hhigh⟩ := ih (m / 10) (exponent + 1)
      refine ⟨?_, ?_, ?_, ?_⟩
      · have hm : m = m / 10 * 10 := by omega
        rw [hvalue, zpow_add₀ (by norm_num), zpow_one]
        conv_rhs => rw [hm]
        push_cast
        ring
      · omega
      · omega
      · omega
    · refine ⟨rfl, le_rfl, le_rfl, ?_⟩
      omega

/-- An exact quotient of few digits has all of them before the division runs out of digits. -/
theorem shift_covers {a b m k : ℕ} (ha : a ≠ 0) (hm : a * 10 ^ k = m * b) (hdigits : m < 10 ^ ctx.prec) :
    k + digitCount a ≤ digitCount b + ctx.prec := by
  have hlow : 10 ^ (digitCount a - 1 + k) ≤ a * 10 ^ k := by
    rw [pow_add]
    exact Nat.mul_le_mul_right _ (pow_le_of_digitCount ha)
  have hb : b < 10 ^ digitCount b := (digitCount_le_iff (Nat.succ_pos _)).mp le_rfl
  have hhigh : m * b < 10 ^ (ctx.prec + digitCount b) := by
    rw [pow_add]
    exact Nat.mul_lt_mul'' hdigits hb
  have hexponent := (Nat.pow_lt_pow_iff_right (by decide : 1 < 10)).mp ((hlow.trans_eq hm).trans_lt hhigh)
  have hpos : 0 < digitCount a := Nat.succ_pos _
  omega

/-- An exact quotient is found whole, and its zeros are stripped towards the exponent of the quotient. -/
theorem div_eq {a b : Decimal} {m k : ℕ} (ha : a.coefficient ≠ 0) (hb : b.coefficient ≠ 0)
    (hm : a.coefficient.natAbs * 10 ^ k = m * b.coefficient.natAbs) (hdigits : m < 10 ^ ctx.prec) :
    div ctx a b = fix ctx ⟨a.coefficient.sign * b.coefficient.sign *
      (strip k m (a.exponent - b.exponent - k)).1, (strip k m (a.exponent - b.exponent - k)).2⟩ := by
  have hcovers := shift_covers (Int.natAbs_ne_zero.mpr ha) hm hdigits
  obtain ⟨j, hj⟩ : ∃ j : ℕ, (digitCount b.coefficient.natAbs : ℤ) - digitCount a.coefficient.natAbs + ctx.prec + 1 =
      (k + j : ℕ) := ⟨digitCount b.coefficient.natAbs + ctx.prec + 1 - digitCount a.coefficient.natAbs - k, by omega⟩
  have hpos : 0 < b.coefficient.natAbs := Int.natAbs_pos.mpr hb
  have hdividend : a.coefficient.natAbs * 10 ^ (k + j) = m * 10 ^ j * b.coefficient.natAbs := by
    rw [pow_add, ← mul_assoc, hm]
    ring
  have hneg : (-((k + j : ℕ) : ℤ)).toNat = 0 := by omega
  have hexponent : a.exponent - b.exponent - ((k + j : ℕ) : ℤ) + j = a.exponent - b.exponent - k := by
    push_cast
    ring
  unfold div
  simp only
  rw [if_neg hb, if_neg ha, hj, hneg, pow_zero, mul_one, Int.toNat_natCast, hdividend, Nat.mul_mod_left, if_pos rfl,
    Nat.mul_div_cancel _ hpos, strip_mul_pow, hexponent]

theorem sign_natAbs (m : ℤ) : (m.sign : ℚ) * m.natAbs = m := by
  rw [← Int.cast_natCast, ← Int.cast_mul, Int.sign_mul_natAbs]

theorem value_div {a b : Decimal} {m : ℤ} {k : ℕ} (hb : b.coefficient ≠ 0)
    (hm : a.coefficient * 10 ^ k = m * b.coefficient) :
    a.value / b.value = m * 10 ^ (a.exponent - b.exponent - k) := by
  have hb' : (b.coefficient : ℚ) ≠ 0 := Int.cast_ne_zero.mpr hb
  have hm' : (a.coefficient : ℚ) * 10 ^ k = m * b.coefficient := by exact_mod_cast hm
  have hpow : (10 : ℚ) ^ b.exponent ≠ 0 := zpow_ne_zero _ (by norm_num)
  have hten : (10 : ℚ) ^ k ≠ 0 := by positivity
  rw [Decimal.value, Decimal.value, zpow_sub₀ (by norm_num), zpow_sub₀ (by norm_num), zpow_natCast]
  field_simp
  rw [hm', mul_comm]

theorem div_exact {a b : Decimal} {m : ℤ} {k : ℕ} (hb : b.coefficient ≠ 0)
    (hm : a.coefficient * 10 ^ k = m * b.coefficient) (h : Fits ctx ⟨m, a.exponent - b.exponent - k⟩)
    (htop : a.exponent - b.exponent ≤ ctx.etop) :
    ∃ d, div ctx a b = .ok d ∧ d.value = a.value / b.value ∧ d.coefficient.natAbs ≤ m.natAbs ∧
      a.exponent - b.exponent - k ≤ d.exponent ∧ d.exponent ≤ a.exponent - b.exponent := by
  have htiny := h.tiny
  by_cases ha : a.coefficient = 0
  · have hzero : div ctx a b = .ok ⟨0, a.exponent - b.exponent⟩ := by
      unfold div
      rw [if_neg hb, if_pos ha]
      refine fix_fits ⟨by positivity, ?_, htop⟩
      simp only at htiny ⊢
      omega
    refine ⟨_, hzero, ?_, ?_, ?_, le_rfl⟩
    · simp [Decimal.value, ha]
    · exact Nat.zero_le _
    · simp only
      omega
  · have hnat : a.coefficient.natAbs * 10 ^ k = m.natAbs * b.coefficient.natAbs := by
      have habs := congrArg Int.natAbs hm
      rwa [Int.natAbs_mul, Int.natAbs_mul, Int.natAbs_pow] at habs
    have hsign : a.coefficient.sign * b.coefficient.sign = m.sign := by
      have hten : (10 ^ k : ℤ).sign = 1 := Int.sign_eq_one_of_pos (by positivity)
      have hone : b.coefficient.sign * b.coefficient.sign = 1 := by
        rw [← Int.sign_mul]
        exact Int.sign_eq_one_of_pos (mul_self_pos.mpr hb)
      have hsigns := congrArg Int.sign hm
      rw [Int.sign_mul, hten, mul_one, Int.sign_mul] at hsigns
      rw [hsigns, mul_assoc, hone, mul_one]
    obtain ⟨hvalue, hle, hlow, hhigh⟩ := strip_spec k m.natAbs (a.exponent - b.exponent - k)
    have hone : (m.sign * (strip k m.natAbs (a.exponent - b.exponent - k)).1).natAbs ≤ m.natAbs := by
      rw [Int.natAbs_mul, Int.natAbs_natCast, Int.natAbs_sign]
      split_ifs
      · omega
      · omega
    refine ⟨_, (div_eq ha hb hnat h.digits).trans (fix_fits ⟨?_, ?_, ?_⟩), ?_, ?_, hlow, ?_⟩
    · rw [hsign]
      exact hone.trans_lt h.digits
    · exact htiny.trans hlow
    · simp only
      omega
    · rw [hsign, Decimal.value]
      push_cast
      rw [mul_assoc, hvalue, ← mul_assoc, sign_natAbs]
      exact (value_div hb hm).symm
    · rw [hsign]
      exact hone
    · simp only
      omega

/-- A number with as many places as `exp` has, or fewer, is only written out with zeros. -/
theorem quantize_exact {a exp : Decimal} (hle : exp.exponent ≤ a.exponent)
    (h : Fits ctx ⟨align a exp.exponent, exp.exponent⟩) :
    quantize ctx a exp = .ok ⟨align a exp.exponent, exp.exponent⟩ := by
  have htiny := h.tiny
  have htop := h.top
  have hprec := ctx.prec_pos
  have hrescale : rescale a exp.exponent = ⟨align a exp.exponent, exp.exponent⟩ := if_pos hle
  simp only [Context.etop] at htiny htop
  unfold quantize
  rw [if_neg (by omega)]
  by_cases hzero : a.coefficient = 0
  · have halign : align a exp.exponent = 0 := by
      rw [align, hzero, zero_mul]
    rw [if_pos hzero, halign]
    exact fix_fits (halign ▸ h)
  · have hdigits := h.digits
    have hwritten := (digitCount_le_iff ctx.prec_pos).mpr h.digits
    have hlow := Nat.mul_le_mul_right (10 ^ (a.exponent - exp.exponent).toNat)
      (pow_le_of_digitCount (Int.natAbs_ne_zero.mpr hzero))
    simp only [natAbs_align] at hdigits
    rw [← pow_add] at hlow
    have hcount := (Nat.pow_lt_pow_iff_right (by decide : 1 < 10)).mp (hlow.trans_lt hdigits)
    have hpos : 0 < digitCount a.coefficient.natAbs := Nat.succ_pos _
    simp only
    rw [if_neg hzero, if_neg (by omega), if_neg (by omega), hrescale]
    simp only at hwritten ⊢
    rw [if_neg (by omega), if_neg (by omega)]
    exact fix_fits h

/-- A running total of non-negative numbers with the same places, as long as it has few enough digits. -/
theorem foldlM_add_exact {e : ℤ} (htiny : ctx.etiny ≤ e) (htop : e ≤ ctx.etop) :
    ∀ (ds : List Decimal) (total : Decimal), e ≤ total.exponent → 0 ≤ total.coefficient →
      (∀ d ∈ ds, d.exponent = e ∧ 0 ≤ d.coefficient) →
        align total e + (ds.map Decimal.coefficient).sum < 10 ^ ctx.prec →
          ∃ r, ds.foldlM (add ctx) total = .ok r ∧ r.value = total.value + (ds.map Decimal.value).sum := by
  intro ds
  induction ds with
  | nil =>
    intro total _ _ _ _
    exact ⟨total, rfl, by simp⟩
  | cons d ds ih =>
    intro total hexponent hpos hds hdigits
    obtain ⟨⟨hd, hd0⟩, hrest⟩ := List.forall_mem_cons.mp hds
    rw [List.map_cons, List.sum_cons] at hdigits
    have hmin : min total.exponent d.exponent = e := by omega
    have halign : align d e = d.coefficient := by
      rw [align, hd, sub_self, Int.toNat_zero, pow_zero, mul_one]
    have htotal : 0 ≤ align total e := mul_nonneg hpos (by positivity)
    have hsum : 0 ≤ (ds.map Decimal.coefficient).sum := by
      apply List.sum_nonneg
      intro c hc
      obtain ⟨d', hd', rfl⟩ := List.mem_map.mp hc
      exact (hrest d' hd').2
    have hfits : Fits ctx ⟨align total e + align d e, e⟩ := by
      refine ⟨?_, htiny, htop⟩
      rw [halign]
      zify
      rw [abs_of_nonneg (by omega)]
      omega
    have hadd : add ctx total d = .ok ⟨align total e + align d e, e⟩ := by
      rw [add, hmin]
      exact fix_fits hfits
    have hnext : align ⟨align total e + align d e, e⟩ e = align total e + d.coefficient := by
      rw [align, sub_self, Int.toNat_zero, pow_zero, mul_one, halign]
    have hpos' : 0 ≤ align total e + align d e := by omega
    obtain ⟨r, hr, hvalue⟩ := ih ⟨align total e + align d e, e⟩ le_rfl hpos' hrest (by omega)
    refine ⟨r, ?_, ?_⟩
    · rw [List.foldlM_cons, hadd]
      exact hr
    · rw [hvalue, value_align_add hexponent hd.ge, List.map_cons, List.sum_cons, add_assoc]

theorem sum_exact {e : ℤ} (htiny : ctx.etiny ≤ e) (htop : e ≤ ctx.etop) (he : e ≤ 0) {ds : List Decimal}
    (hds : ∀ d ∈ ds, d.exponent = e ∧ 0 ≤ d.coefficient)
    (hdigits : (ds.map Decimal.coefficient).sum < 10 ^ ctx.prec) :
    ∃ total, sum ctx ds = .ok total ∧ total.value = (ds.map Decimal.value).sum := by
  have hzero : align (.ofInt 0) e = 0 := zero_mul _
  obtain ⟨total, hsum, hvalue⟩ := foldlM_add_exact htiny htop ds (.ofInt 0) he le_rfl hds (by omega)
  refine ⟨total, hsum, ?_⟩
  rw [hvalue, value_ofInt, Int.cast_zero, zero_add]

end Exactness

section Magnitudes

/-- `adjusted`: the exponent of the first digit. -/
def Decimal.adjusted (d : Decimal) : ℤ := d.exponent + digitCount d.coefficient.natAbs - 1

/-- A number with `10 ^ k` or more of a value above zero. -/
structure Reaches (k : ℤ) (d : Decimal) : Prop where
  pos : 0 < d.coefficient
  adjusted : k ≤ d.adjusted

variable {ctx : Context} {a b d r : Decimal} {k l : ℤ}

theorem digitCount_pos (n : ℕ) : 0 < digitCount n := Nat.succ_pos _

theorem lt_pow_digitCount (n : ℕ) : n < 10 ^ digitCount n := (digitCount_le_iff (digitCount_pos n)).mp le_rfl

theorem lt_digitCount_iff {n p : ℕ} (hn : n ≠ 0) : p < digitCount n ↔ 10 ^ p ≤ n := by
  rw [digitCount, Nat.lt_succ_iff]
  exact (Nat.le_log_iff_pow_le (by decide) hn)

theorem digitCount_mono {m n : ℕ} (h : m ≤ n) : digitCount m ≤ digitCount n :=
  Nat.succ_le_succ (Nat.log_mono_right h)

theorem digitCount_div_pow (n j : ℕ) (h : j < digitCount n) : digitCount (n / 10 ^ j) = digitCount n - j := by
  unfold digitCount at *
  rw [Nat.log_div_base_pow]
  omega

theorem ten_zpow_pos (k : ℤ) : (0 : ℚ) < 10 ^ k := zpow_pos (by norm_num) k

theorem cast_natAbs {n : ℤ} (h : 0 < n) : ((n.natAbs : ℕ) : ℚ) = n := by
  rw [Nat.cast_natAbs, abs_of_pos h]

theorem coefficient_pos (h : 0 < d.value) : 0 < d.coefficient := by
  have hcast : (0 : ℚ) < d.coefficient := (mul_pos_iff_of_pos_right (ten_zpow_pos d.exponent)).mp h
  exact_mod_cast hcast

/-- The place of the first digit says which powers of ten a value has reached. -/
theorem reaches_iff : Reaches k d ↔ 10 ^ k ≤ d.value := by
  constructor
  · intro h
    have hlow := pow_le_of_digitCount (Int.natAbs_ne_zero.mpr h.pos.ne')
    have hcast : (10 : ℚ) ^ (digitCount d.coefficient.natAbs - 1) ≤ d.coefficient := by
      rw [← cast_natAbs h.pos]
      exact_mod_cast hlow
    have hexponent : k ≤ ((digitCount d.coefficient.natAbs - 1 : ℕ) : ℤ) + d.exponent := by
      have hcount := digitCount_pos d.coefficient.natAbs
      have hk := h.adjusted
      unfold Decimal.adjusted at hk
      omega
    calc (10 : ℚ) ^ k ≤ 10 ^ (((digitCount d.coefficient.natAbs - 1 : ℕ) : ℤ) + d.exponent) :=
          zpow_le_zpow_right₀ (by norm_num) hexponent
      _ = 10 ^ (digitCount d.coefficient.natAbs - 1) * 10 ^ d.exponent := by
          rw [zpow_add₀ (by norm_num), zpow_natCast]
      _ ≤ d.value := mul_le_mul_of_nonneg_right hcast (ten_zpow_pos _).le
  · intro hvalue
    have hpos := coefficient_pos ((ten_zpow_pos k).trans_le hvalue)
    have hcast : (d.coefficient : ℚ) < 10 ^ digitCount d.coefficient.natAbs := by
      rw [← cast_natAbs hpos]
      exact_mod_cast lt_pow_digitCount d.coefficient.natAbs
    have hlt : (10 : ℚ) ^ k < 10 ^ ((digitCount d.coefficient.natAbs : ℤ) + d.exponent) := by
      rw [zpow_add₀ (by norm_num), zpow_natCast]
      exact hvalue.trans_lt (mul_lt_mul_of_pos_right hcast (ten_zpow_pos _))
    have hexponent := (zpow_lt_zpow_iff_right₀ (by norm_num : (1 : ℚ) < 10)).mp hlt
    refine ⟨hpos, ?_⟩
    unfold Decimal.adjusted
    omega

theorem le_halfEven (n d : ℕ) : n / d ≤ halfEven n d := by
  unfold halfEven
  split_ifs <;> omega

theorem fix_reaches (h : Reaches k d) (htiny : ctx.etiny ≤ k) (hfix : fix ctx d = .ok r) : Reaches k r := by
  have hpos := h.pos
  have hk := h.adjusted
  have hprec := ctx.prec_pos
  unfold Decimal.adjusted at hk
  unfold fix at hfix
  simp only at hfix
  rw [if_neg hpos.ne'] at hfix
  set n := d.coefficient.natAbs with hn
  set place := max ((digitCount n : ℤ) + d.exponent - ctx.prec) ctx.etiny with hplace
  have hsign : d.coefficient.sign = 1 := Int.sign_eq_one_of_pos hpos
  have hdropped : dropDigits d.coefficient (place - d.exponent).toNat =
      (halfEven n (10 ^ (place - d.exponent).toNat) : ℕ) := by
    rw [dropDigits, hsign, one_mul]
  rw [hdropped] at hfix
  split_ifs at hfix with htop hround hcarry hagain
  all_goals
    simp only [Except.ok.injEq] at hfix
    subst hfix
  · -- a carry moves one digit to the exponent
    set rounded := halfEven n (10 ^ (place - d.exponent).toNat)
    have hkept : digitCount (n / 10 ^ (place - d.exponent).toNat) ≤ digitCount rounded :=
      digitCount_mono (le_halfEven _ _)
    rw [digitCount_div_pow _ _ (by omega)] at hkept
    simp only [Int.natAbs_natCast] at hcarry
    have hten : 10 ^ 1 ≤ rounded :=
      (lt_digitCount_iff (by
        intro h0
        rw [h0] at hcarry
        simp [digitCount] at hcarry
        omega)).mp (by omega)
    have hdiv := digitCount_div_pow rounded 1 (by omega)
    have hcast : ((rounded : ℕ) : ℤ) / 10 = ((rounded / 10 ^ 1 : ℕ) : ℤ) := by simp
    refine ⟨?_, ?_⟩
    · simp only
      omega
    · simp only [Decimal.adjusted]
      rw [hcast, Int.natAbs_natCast, hdiv]
      omega
  · set rounded := halfEven n (10 ^ (place - d.exponent).toNat)
    have hkept : digitCount (n / 10 ^ (place - d.exponent).toNat) ≤ digitCount rounded :=
      digitCount_mono (le_halfEven _ _)
    have hquot := le_halfEven n (10 ^ (place - d.exponent).toNat)
    rw [digitCount_div_pow _ _ (by omega)] at hkept
    have hone : 0 < n / 10 ^ (place - d.exponent).toNat := by
      apply Nat.div_pos _ (by positivity)
      exact (lt_digitCount_iff (by omega)).mp (by omega)
    refine ⟨?_, ?_⟩
    · simp only
      omega
    · simp only [Decimal.adjusted, Int.natAbs_natCast]
      omega
  · exact h

theorem mul_reaches (ha : Reaches k a) (hb : Reaches l b) (htiny : ctx.etiny ≤ k + l) (h : mul ctx a b = .ok r) :
    Reaches (k + l) r := by
  refine fix_reaches ?_ htiny h
  rw [reaches_iff] at ha hb ⊢
  rw [value_mul, zpow_add₀ (by norm_num)]
  exact mul_le_mul ha hb (ten_zpow_pos l).le ((ten_zpow_pos k).le.trans ha)

/-- The division is carried to one digit more than the precision. -/
theorem pow_le_quotient {m n prec : ℕ} (hm : m ≠ 0) (hn : n ≠ 0) {shift : ℤ}
    (hshift : shift = digitCount n - digitCount m + prec + 1) :
    10 ^ prec ≤ m * 10 ^ shift.toNat / (n * 10 ^ (-shift).toNat) := by
  have hdivisor : 0 < n * 10 ^ (-shift).toNat := Nat.mul_pos (Nat.pos_of_ne_zero hn) (by positivity)
  have hhigh : n * 10 ^ (-shift).toNat ≤ 10 ^ (digitCount n + (-shift).toNat) := by
    rw [pow_add]
    exact Nat.mul_le_mul_right _ (lt_pow_digitCount n).le
  have hplaces : prec + (digitCount n + (-shift).toNat) = digitCount m - 1 + shift.toNat := by
    have hcount := digitCount_pos m
    omega
  rw [Nat.le_div_iff_mul_le hdivisor]
  calc 10 ^ prec * (n * 10 ^ (-shift).toNat) ≤ 10 ^ prec * 10 ^ (digitCount n + (-shift).toNat) :=
        Nat.mul_le_mul_left _ hhigh
    _ = 10 ^ (digitCount m - 1) * 10 ^ shift.toNat := by rw [← pow_add, hplaces, pow_add]
    _ ≤ m * 10 ^ shift.toNat := Nat.mul_le_mul_right _ (pow_le_of_digitCount hm)

theorem strip_value (count m : ℕ) (exponent : ℤ) :
    (Decimal.mk (strip count m exponent).1 (strip count m exponent).2).value = (Decimal.mk m exponent).value := by
  unfold Decimal.value
  rw [Int.cast_natCast, Int.cast_natCast]
  exact (strip_spec count m exponent).1

/-- The first digit of a quotient is where the first digits of the two numbers have it, or one place below. -/
theorem div_reaches (ha : 0 < a.coefficient) (hb : 0 < b.coefficient) (htiny : ctx.etiny ≤ a.adjusted - b.adjusted - 1)
    (h : div ctx a b = .ok r) : Reaches (a.adjusted - b.adjusted - 1) r := by
  have hsign : a.coefficient.sign * b.coefficient.sign = 1 := by
    rw [Int.sign_eq_one_of_pos ha, Int.sign_eq_one_of_pos hb, one_mul]
  unfold div at h
  simp only at h
  rw [if_neg hb.ne', if_neg ha.ne', hsign, one_mul, one_mul] at h
  set shift : ℤ := digitCount b.coefficient.natAbs - digitCount a.coefficient.natAbs + ctx.prec + 1 with hshift
  have hlow := pow_le_quotient (Int.natAbs_ne_zero.mpr ha.ne') (Int.natAbs_ne_zero.mpr hb.ne') hshift
  set quotient := a.coefficient.natAbs * 10 ^ shift.toNat / (b.coefficient.natAbs * 10 ^ (-shift).toNat)
  have hreaches : ∀ n : ℕ, quotient ≤ n →
      Reaches (a.adjusted - b.adjusted - 1) ⟨n, a.exponent - b.exponent - shift⟩ := by
    intro n hn
    have hpos : 0 < n := (Nat.pow_pos (by decide)).trans_le (hlow.trans hn)
    have hcount := (lt_digitCount_iff hpos.ne').mpr (hlow.trans hn)
    refine ⟨Int.natCast_pos.mpr hpos, ?_⟩
    simp only [Decimal.adjusted, Int.natAbs_natCast]
    omega
  split_ifs at h with hexact hlast
  · refine fix_reaches ?_ htiny h
    rw [reaches_iff, strip_value]
    exact reaches_iff.mp (hreaches _ le_rfl)
  · exact fix_reaches (hreaches (quotient + 1) (Nat.le_succ _)) htiny h
  · exact fix_reaches (hreaches _ le_rfl) htiny h

theorem add_reaches (h : 10 ^ k ≤ a.value + b.value) (htiny : ctx.etiny ≤ k) (hadd : add ctx a b = .ok r) :
    Reaches k r := by
  refine fix_reaches ?_ htiny hadd
  rw [reaches_iff, value_align_add (min_le_left _ _) (min_le_right _ _)]
  exact h

/-- What is quantized has no more digits than the precision, written to the last place. -/
theorem quantize_short {exp : Decimal} (h : quantize ctx a exp = .ok r) (ha : a.coefficient ≠ 0) :
    a.adjusted < ctx.prec + exp.exponent := by
  unfold quantize at h
  split_ifs at h with hplace hlarge hlong
  simp only [Decimal.adjusted]
  omega

end Magnitudes

end AIRuntime.DecimalArithmetic
