import AIRuntime.DecimalArithmetic
import AIRuntime.GenerationContracts

set_option autoImplicit false

/-! The estimated costs of `domain/usage.py` and `static_cost_estimator.py`, in Python's `decimal`. -/
namespace AIRuntime.DecimalCosts

open PythonText Failures GenerationContracts DecimalArithmetic

section Prices

def ModelPricing.problem (input_usd_per_1m_tokens output_usd_per_1m_tokens : Decimal) : Option String :=
  if input_usd_per_1m_tokens < .ofInt 0 then some "input_usd_per_1m_tokens must not be negative"
  else if output_usd_per_1m_tokens < .ofInt 0 then some "output_usd_per_1m_tokens must not be negative"
  else none

structure ModelPricing where
  input_usd_per_1m_tokens : Decimal
  output_usd_per_1m_tokens : Decimal
  ok : ModelPricing.problem input_usd_per_1m_tokens output_usd_per_1m_tokens = none

theorem ModelPricing.nonneg (pricing : ModelPricing) :
    0 ≤ pricing.input_usd_per_1m_tokens.value ∧ 0 ≤ pricing.output_usd_per_1m_tokens.value := by
  have hzero : ∀ d : Decimal, ¬d < .ofInt 0 → 0 ≤ d.value := by
    intro d h
    have hle : (Decimal.ofInt 0).value ≤ d.value := not_lt.mp h
    rwa [value_ofInt, Int.cast_zero] at hle
  have h := pricing.ok
  unfold ModelPricing.problem at h
  split_ifs at h with hinput houtput
  exact ⟨hzero _ hinput, hzero _ houtput⟩

/-- A literal with two decimal places, such as `Decimal("0.15")`. -/
def dollars (cents : ℕ) : Decimal := ⟨cents, -2⟩

theorem dollars_value (cents : ℕ) : (dollars cents).value = cents / 100 := by
  unfold dollars Decimal.value
  rw [Int.cast_natCast]
  norm_num
  ring

theorem dollars_ok (input output : ℕ) : ModelPricing.problem (dollars input) (dollars output) = none := by
  have hpos : ∀ cents : ℕ, ¬dollars cents < .ofInt 0 := by
    intro cents
    change ¬(dollars cents).value < (Decimal.ofInt 0).value
    rw [dollars_value, value_ofInt, not_lt]
    positivity
  rw [ModelPricing.problem, if_neg (hpos input), if_neg (hpos output)]

/-- A row of the table, in cents. -/
def listPrice (input output : ℕ) : ModelPricing := ⟨dollars input, dollars output, dollars_ok input output⟩

def providerPricing : List (String × List (String × ModelPricing)) :=
  [("openai", [("gpt-4o-mini", listPrice 15 60), ("gpt-4o", listPrice 250 1000)]),
    ("anthropic", [("claude-3-5-sonnet-20241022", listPrice 300 1500)]),
    ("gemini", [("gemini-2.5-flash", listPrice 30 250)])]

def InCents (cents : ℕ) : Prop := 10 ≤ cents ∧ cents ≤ 1500

def Listed (pricing : ModelPricing) : Prop :=
  ∃ provider models model, (provider, models) ∈ providerPricing ∧ (model, pricing) ∈ models

theorem listed_cents {pricing : ModelPricing} (h : Listed pricing) :
    ∃ input output, pricing = listPrice input output ∧ InCents input ∧ InCents output := by
  obtain ⟨provider, models, model, hmodels, hpricing⟩ := h
  simp only [providerPricing, List.mem_cons, Prod.mk.injEq, List.not_mem_nil, or_false] at hmodels
  rcases hmodels with ⟨-, rfl⟩ | ⟨-, rfl⟩ | ⟨-, rfl⟩
  · simp only [List.mem_cons, Prod.mk.injEq, List.not_mem_nil, or_false] at hpricing
    rcases hpricing with ⟨-, rfl⟩ | ⟨-, rfl⟩
    · exact ⟨15, 60, rfl, ⟨by decide, by decide⟩, by decide, by decide⟩
    · exact ⟨250, 1000, rfl, ⟨by decide, by decide⟩, by decide, by decide⟩
  · simp only [List.mem_singleton, Prod.mk.injEq] at hpricing
    exact ⟨300, 1500, hpricing.2, ⟨by decide, by decide⟩, by decide, by decide⟩
  · simp only [List.mem_singleton, Prod.mk.injEq] at hpricing
    exact ⟨30, 250, hpricing.2, ⟨by decide, by decide⟩, by decide, by decide⟩

theorem mem_of_lookup {α : Type} {l : List (String × α)} {key : String} {a : α} (h : l.lookup key = some a) :
    (key, a) ∈ l := by
  obtain ⟨before, after, hl, _⟩ := List.lookup_eq_some_iff.mp h
  rw [hl]
  simp

end Prices

section Costs

def priceOf (provider model : String) : Option ModelPricing :=
  (providerPricing.lookup (lower (strip provider))).bind (·.lookup (strip model))

theorem priceOf_listed {provider model : String} {pricing : ModelPricing} (h : priceOf provider model = some pricing) :
    Listed pricing := by
  obtain ⟨models, hprovider, hmodel⟩ := Option.bind_eq_some_iff.mp h
  exact ⟨_, models, _, mem_of_lookup hprovider, mem_of_lookup hmodel⟩

def million : Decimal := ⟨1000000, 0⟩

def estimateCostUsd (usage : TokenUsage) (pricing : ModelPricing) : Except Signal Decimal := do
  let input_cost ← mul defaultContext (← div defaultContext (.ofInt usage.input_tokens) million)
    pricing.input_usd_per_1m_tokens
  let output_cost ← mul defaultContext (← div defaultContext (.ofInt usage.output_tokens) million)
    pricing.output_usd_per_1m_tokens
  quantize defaultContext (← add defaultContext input_cost output_cost) ⟨1, -8⟩

namespace StaticCostEstimator

def estimate (provider model : String) (usage : Option TokenUsage) : Except Signal (Option Decimal) :=
  match usage with
  | none => .ok none
  | some usage =>
    match providerPricing.lookup (lower (strip provider)) with
    | none => .ok none
    | some provider_prices =>
      match provider_prices.lookup (strip model) with
      | none => .ok none
      | some pricing => (estimateCostUsd usage pricing).map some

theorem estimate_eq (provider model : String) (usage : TokenUsage) :
    estimate provider model (some usage) =
      match priceOf provider model with
      | none => .ok none
      | some pricing => (estimateCostUsd usage pricing).map some := by
  unfold estimate priceOf
  cases providerPricing.lookup (lower (strip provider)) with
  | none => rfl
  | some models => rfl

end StaticCostEstimator

structure Steps (usage : TokenUsage) (pricing : ModelPricing) where
  input_share : Decimal
  input_cost : Decimal
  output_share : Decimal
  output_cost : Decimal
  total : Decimal
  cost : Decimal
  input_divided : div defaultContext (.ofInt usage.input_tokens) million = .ok input_share
  input_priced : mul defaultContext input_share pricing.input_usd_per_1m_tokens = .ok input_cost
  output_divided : div defaultContext (.ofInt usage.output_tokens) million = .ok output_share
  output_priced : mul defaultContext output_share pricing.output_usd_per_1m_tokens = .ok output_cost
  added : add defaultContext input_cost output_cost = .ok total
  quantized : quantize defaultContext total ⟨1, -8⟩ = .ok cost

variable {usage : TokenUsage} {pricing : ModelPricing}

/-- No operation rounds. -/
structure Steps.Exact (steps : Steps usage pricing) : Prop where
  input_share : steps.input_share.value = usage.input_tokens / 1000000
  input_cost : steps.input_cost.value = steps.input_share.value * pricing.input_usd_per_1m_tokens.value
  output_share : steps.output_share.value = usage.output_tokens / 1000000
  output_cost : steps.output_cost.value = steps.output_share.value * pricing.output_usd_per_1m_tokens.value
  total : steps.total.value = steps.input_cost.value + steps.output_cost.value
  cost : steps.cost.value = steps.total.value

theorem Steps.estimate (steps : Steps usage pricing) : estimateCostUsd usage pricing = .ok steps.cost := by
  unfold estimateCostUsd
  rw [steps.input_divided, steps.output_divided]
  change (mul defaultContext steps.input_share pricing.input_usd_per_1m_tokens >>= fun input_cost =>
    mul defaultContext steps.output_share pricing.output_usd_per_1m_tokens >>= fun output_cost =>
      add defaultContext input_cost output_cost >>= fun total => quantize defaultContext total ⟨1, -8⟩) = _
  rw [steps.input_priced, steps.output_priced]
  change (add defaultContext steps.input_cost steps.output_cost >>= fun total =>
    quantize defaultContext total ⟨1, -8⟩) = _
  rw [steps.added]
  exact steps.quantized

theorem steps_of_estimate {cost : Decimal} (h : estimateCostUsd usage pricing = .ok cost) :
    ∃ steps : Steps usage pricing, steps.cost = cost := by
  unfold estimateCostUsd at h
  obtain ⟨input_share, hinput_share, h⟩ := of_bind_ok h
  obtain ⟨input_cost, hinput_cost, h⟩ := of_bind_ok h
  obtain ⟨output_share, houtput_share, h⟩ := of_bind_ok h
  obtain ⟨output_cost, houtput_cost, h⟩ := of_bind_ok h
  obtain ⟨total, htotal, h⟩ := of_bind_ok h
  exact ⟨⟨input_share, input_cost, output_share, output_cost, total, cost, hinput_share, hinput_cost, houtput_share,
    houtput_cost, htotal, h⟩, rfl⟩

/-- The cost in dollars that the prices say, without any arithmetic of a precision. -/
def exactCost (usage : TokenUsage) (pricing : ModelPricing) : ℚ :=
  (usage.input_tokens * pricing.input_usd_per_1m_tokens.value +
    usage.output_tokens * pricing.output_usd_per_1m_tokens.value) / 1000000

theorem exactCost_nonneg (usage : TokenUsage) (pricing : ModelPricing) : 0 ≤ exactCost usage pricing := by
  obtain ⟨hi, ho⟩ := usage.nonneg
  have hin : (0 : ℚ) ≤ usage.input_tokens := Int.cast_nonneg hi
  have hout : (0 : ℚ) ≤ usage.output_tokens := Int.cast_nonneg ho
  obtain ⟨hpin, hpout⟩ := pricing.nonneg
  unfold exactCost
  positivity

theorem Steps.Exact.cost_value {steps : Steps usage pricing} (h : steps.Exact) :
    steps.cost.value = exactCost usage pricing := by
  rw [h.cost, h.total, h.input_cost, h.output_cost, h.input_share, h.output_share, exactCost]
  ring

end Costs

section Exactness

/-- Counts that the columns `input_tokens` and `output_tokens` hold. -/
def InRange (usage : TokenUsage) : Prop := usage.input_tokens ≤ 2147483647 ∧ usage.output_tokens ≤ 2147483647

/-- `Numeric(precision, scale)` holds the value as it is. -/
def FitsNumeric (precision scale : ℕ) (d : Decimal) : Prop :=
  ∃ n : ℤ, d.value = n / 10 ^ scale ∧ n.natAbs < 10 ^ precision

def units (input output : ℕ) (usage : TokenUsage) : ℤ := usage.input_tokens * input + usage.output_tokens * output

variable {input output : ℕ} {usage : TokenUsage} {pricing : ModelPricing}

theorem units_nonneg (usage : TokenUsage) : 0 ≤ units input output usage := by
  obtain ⟨hi, ho⟩ := usage.nonneg
  unfold units
  positivity

theorem exactCost_units : exactCost usage (listPrice input output) = units input output usage / 10 ^ 8 := by
  rw [exactCost, listPrice, dollars_value, dollars_value, units]
  push_cast
  norm_num
  ring

theorem default_bounds : defaultContext.prec = 28 ∧ defaultContext.etiny = -1000026 ∧ defaultContext.etop = 999972 :=
  ⟨rfl, rfl, rfl⟩

theorem fits_default {d : Decimal} (hdigits : d.coefficient.natAbs < 10000000000000000000000000000)
    (hlow : -8 ≤ d.exponent) (hhigh : d.exponent ≤ 0) : Fits defaultContext d := by
  obtain ⟨hprec, htiny, htop⟩ := default_bounds
  refine ⟨?_, ?_, ?_⟩
  · rw [hprec]
    omega
  · omega
  · omega

/-- At eight places the coefficient of a value is its number of units. -/
theorem align_units {d : Decimal} {n : ℤ} (hvalue : d.value = n / 10 ^ 8) (hlow : -8 ≤ d.exponent) :
    align d (-8) = n := by
  apply @coefficient_eq _ _ (-8)
  rw [align_value d hlow, hvalue, Decimal.value, zpow_neg, ← div_eq_mul_inv]
  rfl

theorem fits_units {d : Decimal} {n : ℤ} (hvalue : d.value = n / 10 ^ 8)
    (hn : n.natAbs < 10000000000000000000000000000) (hlow : -8 ≤ d.exponent) (hhigh : d.exponent ≤ 0) :
    Fits defaultContext d := by
  have halign := natAbs_align d (-8)
  rw [align_units hvalue hlow] at halign
  have hpow : d.coefficient.natAbs * 1 ≤ d.coefficient.natAbs * 10 ^ (d.exponent - -8).toNat :=
    Nat.mul_le_mul_left _ (Nat.one_le_pow _ _ (by decide))
  exact fits_default (by omega) hlow hhigh

theorem million_value : million.value = 1000000 := by
  simp [million, Decimal.value]

theorem share_exact {count : ℤ} (hcount : count.natAbs < 10000000000000000000000000000) :
    ∃ share, div defaultContext (.ofInt count) million = .ok share ∧ share.value = count / 1000000 ∧
      -6 ≤ share.exponent ∧ share.exponent ≤ 0 := by
  have hfits : Fits defaultContext ⟨count, (Decimal.ofInt count).exponent - million.exponent - (6 : ℕ)⟩ :=
    fits_default hcount (le_of_eq_of_le rfl (by decide : (-8 : ℤ) ≤ -6)) (by decide : (-6 : ℤ) ≤ 0)
  obtain ⟨share, hshare, hvalue, -, hlow, hhigh⟩ :=
    div_exact (b := million) (by decide) rfl hfits (by decide : (0 : ℤ) ≤ 999972)
  refine ⟨share, hshare, ?_, hlow, hhigh⟩
  rw [hvalue, value_ofInt, million_value]

theorem share_cost {count : ℤ} {share : Decimal} (hshare : share.value = count / 1000000) (cents : ℕ) :
    (Decimal.mk (share.coefficient * (dollars cents).coefficient) (share.exponent + (dollars cents).exponent)).value =
      (count * cents : ℤ) / 10 ^ 8 := by
  rw [value_mul, hshare, dollars_value]
  push_cast
  ring

/-- One side of the estimate, from a count to its cost, rounds nothing while the cost has few enough digits. -/
theorem side_exact {count : ℤ} (hcount : 0 ≤ count) {cents : ℕ} (hcents : InCents cents)
    (hunits : count * cents < 10000000000000000000000000000) :
    ∃ share cost, div defaultContext (.ofInt count) million = .ok share ∧ share.value = count / 1000000 ∧
      mul defaultContext share (dollars cents) = .ok cost ∧ cost.value = share.value * (dollars cents).value ∧
      -8 ≤ cost.exponent ∧ cost.exponent ≤ -2 := by
  have hpos : (0 : ℤ) ≤ cents := Int.natCast_nonneg cents
  have hten : count * 10 ≤ count * cents := mul_le_mul_of_nonneg_left (by exact_mod_cast hcents.1) hcount
  obtain ⟨share, hshare, hvalue, hlow, hhigh⟩ := @share_exact count (by omega)
  have hplaces : (dollars cents).exponent = -2 := rfl
  have hproduct : 0 ≤ count * cents := mul_nonneg hcount hpos
  have hfits := fits_units (share_cost hvalue cents) (by omega) (by simp only; omega) (by simp only; omega)
  refine ⟨share, _, hshare, hvalue, mul_exact hfits, value_mul share (dollars cents), ?_, ?_⟩
  · simp only
    omega
  · simp only
    omega

/-- Two costs of few enough units together are added and written out without rounding. -/
theorem total_exact {a b : Decimal} {n : ℤ} (ha : -8 ≤ a.exponent ∧ a.exponent ≤ -2)
    (hb : -8 ≤ b.exponent ∧ b.exponent ≤ -2) (hvalue : a.value + b.value = n / 10 ^ 8)
    (hn : n.natAbs < 10000000000000000000000000000) :
    ∃ total cost, add defaultContext a b = .ok total ∧ total.value = a.value + b.value ∧
      quantize defaultContext total ⟨1, -8⟩ = .ok cost ∧ cost.value = total.value ∧ cost.exponent = -8 := by
  have hsum := value_align_add (min_le_left a.exponent b.exponent) (min_le_right a.exponent b.exponent)
  have hlow : -8 ≤ min a.exponent b.exponent := by omega
  have hhigh : min a.exponent b.exponent ≤ 0 := by omega
  have htotal := add_exact (fits_units (hsum.trans hvalue) hn hlow hhigh)
  have hwritten := hn
  rw [← align_units (hsum.trans hvalue) hlow] at hwritten
  have hfits := fits_default (d := ⟨_, -8⟩) hwritten le_rfl (by decide : (-8 : ℤ) ≤ 0)
  exact ⟨_, ⟨_, -8⟩, htotal, hsum, quantize_exact hlow hfits, align_value _ hlow, rfl⟩

/-- The steps of an estimate round nothing while the cost has few enough digits. -/
theorem listPrice_steps (usage : TokenUsage) (hunits : units input output usage < 10000000000000000000000000000)
    (hinput : InCents input) (houtput : InCents output) :
    ∃ steps : Steps usage (listPrice input output), steps.Exact ∧ steps.cost.exponent = -8 := by
  obtain ⟨hi, ho⟩ := usage.nonneg
  have hin : 0 ≤ usage.input_tokens * input := mul_nonneg hi (Int.natCast_nonneg _)
  have hout : 0 ≤ usage.output_tokens * output := mul_nonneg ho (Int.natCast_nonneg _)
  have hpos := @units_nonneg input output usage
  have hsplit : units input output usage = usage.input_tokens * input + usage.output_tokens * output := rfl
  obtain ⟨share, icost, hshare, hsharev, hicost, hicostv, hiplaces⟩ := side_exact hi hinput (by omega)
  obtain ⟨share', ocost, hshare', hsharev', hocost, hocostv, hoplaces⟩ := side_exact ho houtput (by omega)
  have hvalue : icost.value + ocost.value = units input output usage / 10 ^ 8 := by
    rw [hicostv, hocostv, hsharev, hsharev', dollars_value, dollars_value, hsplit]
    push_cast
    ring
  obtain ⟨total, cost, htotal, htotalv, hcost, hcostv, hexponent⟩ :=
    total_exact hiplaces hoplaces hvalue (by omega)
  exact ⟨⟨share, icost, share', ocost, total, cost, hshare, hicost, hshare', hocost, htotal, hcost⟩,
    ⟨hsharev, hicostv, hsharev', hocostv, htotalv, hcostv⟩, hexponent⟩

/-- The cost has eight places, and the coefficient that the counts and the prices in cents have together. -/
theorem listPrice_cost (usage : TokenUsage) (hunits : units input output usage < 10000000000000000000000000000)
    (hinput : InCents input) (houtput : InCents output) :
    estimateCostUsd usage (listPrice input output) = .ok ⟨units input output usage, -8⟩ := by
  obtain ⟨steps, hexact, hexponent⟩ := listPrice_steps usage hunits hinput houtput
  have hvalue := hexact.cost_value
  rw [exactCost_units] at hvalue
  rw [steps.estimate]
  have hcoefficient := align_units hvalue hexponent.ge
  rw [align, hexponent, sub_self, Int.toNat_zero, pow_zero, mul_one] at hcoefficient
  rw [← hcoefficient, ← hexponent]

/-- Twenty digits before the point are the most that a cost with eight places has room for. -/
theorem side_reaches {count : ℤ} {cents : ℕ} (hcount : 0 ≤ count) (hcents : InCents cents) {share cost : Decimal}
    (hshare : div defaultContext (.ofInt count) million = .ok share)
    (hcost : mul defaultContext share (dollars cents) = .ok cost)
    (hunits : 10000000000000000000000000000 ≤ count * cents) : Reaches 20 cost := by
  obtain ⟨hprec, htiny, htop⟩ := default_bounds
  by_cases hdigits : count < 10000000000000000000000000000
  · obtain ⟨share', hshare', hvalue, -⟩ := @share_exact count (by omega)
    cases hshare'.symm.trans hshare
    refine fix_reaches ?_ (by omega) hcost
    rw [reaches_iff, share_cost hvalue, le_div_iff₀ (by norm_num)]
    calc (10 : ℚ) ^ (20 : ℤ) * 10 ^ 8 = ((10000000000000000000000000000 : ℤ) : ℚ) := by norm_num
      _ ≤ ((count * cents : ℤ) : ℚ) := Int.cast_le.mpr hunits
  · have hpos : 0 < count := by omega
    have hlarge : Reaches 28 (.ofInt count) := by
      rw [reaches_iff, value_ofInt]
      calc (10 : ℚ) ^ (28 : ℤ) = ((10000000000000000000000000000 : ℤ) : ℚ) := by norm_num
        _ ≤ (count : ℚ) := Int.cast_le.mpr (not_lt.mp hdigits)
    have hmillion : million.adjusted = 6 := by decide +kernel
    have hadjusted := hlarge.adjusted
    have hquotient := div_reaches (b := million) hpos (by decide) (by omega) hshare
    have hprice : Reaches (-1) (dollars cents) := by
      have hten : (10 : ℚ) ≤ cents := by exact_mod_cast hcents.1
      rw [reaches_iff, dollars_value]
      norm_num
      linarith
    exact mul_reaches (k := 21) ⟨hquotient.pos, by have := hquotient.adjusted; omega⟩ hprice (by omega) hcost

/-- What a side costs, or that its cost is past what can be written. -/
theorem side_value {count : ℤ} {cents : ℕ} (hcount : 0 ≤ count) (hcents : InCents cents) {share cost : Decimal}
    (hshare : div defaultContext (.ofInt count) million = .ok share)
    (hcost : mul defaultContext share (dollars cents) = .ok cost) :
    0 ≤ cost.value ∧ (cost.value = (count * cents : ℤ) / 10 ^ 8 ∨ 10 ^ (20 : ℤ) ≤ cost.value) := by
  have hpos : 0 ≤ count * cents := mul_nonneg hcount (Int.natCast_nonneg _)
  by_cases hunits : count * cents < 10000000000000000000000000000
  · obtain ⟨share', cost', hshare', hvalue, hcost', hcostv, -⟩ := side_exact hcount hcents hunits
    cases hshare'.symm.trans hshare
    cases hcost'.symm.trans hcost
    have hexact : cost.value = (count * cents : ℤ) / 10 ^ 8 := by
      rw [hcostv, hvalue, dollars_value]
      push_cast
      ring
    refine ⟨?_, .inl hexact⟩
    rw [hexact]
    exact div_nonneg (Int.cast_nonneg hpos) (by norm_num)
  · have hreaches := reaches_iff.mp (side_reaches hcount hcents hshare hcost (not_lt.mp hunits))
    exact ⟨(ten_zpow_pos 20).le.trans hreaches, .inr hreaches⟩

/-- An estimate returns while its cost has at most twenty digits before the point, and is then exact. -/
theorem estimate_iff (hinput : InCents input) (houtput : InCents output) {cost : Decimal} :
    estimateCostUsd usage (listPrice input output) = .ok cost ↔
      units input output usage < 10000000000000000000000000000 ∧ cost = ⟨units input output usage, -8⟩ := by
  obtain ⟨hprec, htiny, htop⟩ := default_bounds
  constructor
  · intro h
    by_cases hunits : units input output usage < 10000000000000000000000000000
    · exact ⟨hunits, Except.ok.inj (h.symm.trans (listPrice_cost usage hunits hinput houtput))⟩
    · exfalso
      obtain ⟨steps, rfl⟩ := steps_of_estimate h
      obtain ⟨hi, hi'⟩ := side_value usage.nonneg.1 hinput steps.input_divided steps.input_priced
      obtain ⟨ho, ho'⟩ := side_value usage.nonneg.2 houtput steps.output_divided steps.output_priced
      have hsum : 10 ^ (20 : ℤ) ≤ steps.input_cost.value + steps.output_cost.value := by
        rcases hi' with hi' | hi'
        · rcases ho' with ho' | ho'
          · have hcast : ((10000000000000000000000000000 : ℤ) : ℚ) ≤ (units input output usage : ℤ) :=
              Int.cast_le.mpr (not_lt.mp hunits)
            rw [hi', ho', ← add_div, ← Int.cast_add, le_div_iff₀ (by norm_num)]
            refine le_of_eq_of_le ?_ hcast
            norm_num
          · linarith
        · linarith
      have htotal := add_reaches hsum (by omega) steps.added
      have hshort := quantize_short steps.quantized htotal.pos.ne'
      have hlong := htotal.adjusted
      rw [hprec] at hshort
      simp only at hshort
      omega
  · rintro ⟨hunits, rfl⟩
    exact listPrice_cost usage hunits hinput houtput

/-- A listed price is charged exactly, as long as the cost is below `10 ^ 20` dollars; otherwise it is refused. -/
theorem listed_returns_iff (hlisted : Listed pricing) :
    (∃ cost, estimateCostUsd usage pricing = .ok cost) ↔ exactCost usage pricing < 10 ^ 20 := by
  obtain ⟨input, output, rfl, hinput, houtput⟩ := listed_cents hlisted
  have hbound : exactCost usage (listPrice input output) < 10 ^ 20 ↔
      units input output usage < 10000000000000000000000000000 := by
    rw [exactCost_units, div_lt_iff₀ (by norm_num), ← Int.cast_lt (R := ℚ)]
    norm_num
  simp only [hbound, estimate_iff hinput houtput, exists_and_left, exists_eq, and_true]

theorem listed_value (hlisted : Listed pricing) {cost : Decimal} (h : estimateCostUsd usage pricing = .ok cost) :
    cost.value = exactCost usage pricing := by
  obtain ⟨input, output, rfl, hinput, houtput⟩ := listed_cents hlisted
  obtain ⟨hunits, rfl⟩ := (estimate_iff hinput houtput).mp h
  rw [exactCost_units, Decimal.value, zpow_neg, ← div_eq_mul_inv]
  rfl

end Exactness

section Billing

theorem summed_ok {input output : ℤ} (h : 0 ≤ input ∧ 0 ≤ output) : TokenUsage.problem input output = none := by
  rw [TokenUsage.problem, if_neg (not_lt.mpr h.1), if_neg (not_lt.mpr h.2)]

def combined (usage usage' : TokenUsage) : TokenUsage :=
  ⟨usage.input_tokens + usage'.input_tokens, usage.output_tokens + usage'.output_tokens,
    summed_ok ⟨add_nonneg usage.nonneg.1 usage'.nonneg.1, add_nonneg usage.nonneg.2 usage'.nonneg.2⟩⟩

def noUsage : TokenUsage := ⟨0, 0, summed_ok ⟨le_rfl, le_rfl⟩⟩

def summed (usages : List TokenUsage) : TokenUsage := usages.foldr combined noUsage

variable {input output : ℕ}

theorem units_summed (usages : List TokenUsage) :
    units input output (summed usages) = (usages.map (units input output)).sum := by
  induction usages with
  | nil => simp [summed, noUsage, units]
  | cons usage usages ih =>
    rw [List.map_cons, List.sum_cons, ← ih]
    simp only [summed, List.foldr_cons, combined, units]
    ring

theorem units_bound {usage : TokenUsage} (hrange : InRange usage) (hinput : InCents input) (houtput : InCents output) :
    units input output usage ≤ 2147483647 * 1500 * 2 := by
  obtain ⟨hi, ho⟩ := usage.nonneg
  have hin : usage.input_tokens * input ≤ 2147483647 * 1500 :=
    mul_le_mul hrange.1 (by exact_mod_cast hinput.2) (by positivity) (by decide)
  have hout : usage.output_tokens * output ≤ 2147483647 * 1500 :=
    mul_le_mul hrange.2 (by exact_mod_cast houtput.2) (by positivity) (by decide)
  unfold units
  omega

theorem units_short {usage : TokenUsage} (hrange : InRange usage) (hinput : InCents input) (houtput : InCents output) :
    units input output usage < 10000000000000000000000000000 := by
  have hbound := units_bound hrange hinput houtput
  omega

theorem inRange_of_summed {usages : List TokenUsage} (h : InRange (summed usages)) :
    ∀ usage ∈ usages, InRange usage := by
  induction usages with
  | nil =>
    intro usage husage
    cases husage
  | cons usage usages ih =>
    obtain ⟨hi, ho⟩ := usage.nonneg
    obtain ⟨hi', ho'⟩ := (summed usages).nonneg
    obtain ⟨hsum, hsum'⟩ : usage.input_tokens + (summed usages).input_tokens ≤ 2147483647 ∧
        usage.output_tokens + (summed usages).output_tokens ≤ 2147483647 := h
    refine List.forall_mem_cons.mpr ⟨⟨?_, ?_⟩, ih ⟨?_, ?_⟩⟩
    · omega
    · omega
    · omega
    · omega

theorem costs_eq (hinput : InCents input) (houtput : InCents output) {usages : List TokenUsage}
    (h : ∀ usage ∈ usages, InRange usage) :
    usages.mapM (fun usage => estimateCostUsd usage (listPrice input output)) =
      .ok (usages.map fun usage => ⟨units input output usage, -8⟩) := by
  induction usages with
  | nil => rfl
  | cons usage usages ih =>
    obtain ⟨husage, hrest⟩ := List.forall_mem_cons.mp h
    rw [List.mapM_cons, listPrice_cost usage (units_short husage hinput houtput) hinput houtput, ih hrest]
    rfl

/-- The costs of several requests add up to the cost of their usage. -/
theorem listPrice_additive (hinput : InCents input) (houtput : InCents output) {usages : List TokenUsage}
    (h : InRange (summed usages)) :
    ∃ costs total cost, usages.mapM (fun usage => estimateCostUsd usage (listPrice input output)) = .ok costs ∧
      estimateCostUsd (summed usages) (listPrice input output) = .ok cost ∧
      (costs.map Decimal.value).sum = cost.value ∧ sum defaultContext costs = .ok total ∧
      total.value = cost.value := by
  obtain ⟨hprec, htiny, htop⟩ := default_bounds
  let costs := usages.map fun usage => Decimal.mk (units input output usage) (-8)
  have hunits : (costs.map Decimal.coefficient).sum = units input output (summed usages) := by
    rw [units_summed, List.map_map]
    rfl
  have hvalues : (costs.map Decimal.value).sum = (Decimal.mk (units input output (summed usages)) (-8)).value := by
    rw [units_summed, ← value_sum, List.map_map, List.map_map]
    rfl
  have hplaces : ∀ d ∈ costs, d.exponent = -8 ∧ 0 ≤ d.coefficient := by
    intro d hd
    obtain ⟨usage, -, rfl⟩ := List.mem_map.mp hd
    exact ⟨rfl, units_nonneg usage⟩
  have hdigits : (costs.map Decimal.coefficient).sum < 10 ^ defaultContext.prec := by
    have hbound := units_bound h hinput houtput
    rw [hunits, hprec]
    omega
  obtain ⟨total, htotal, hvalue⟩ := sum_exact (by omega) (by omega) (by decide) hplaces hdigits
  exact ⟨costs, total, _, costs_eq hinput houtput (inRange_of_summed h),
    listPrice_cost (summed usages) (units_short h hinput houtput) hinput houtput, hvalues, htotal, hvalue.trans hvalues⟩

theorem listPrice_monotone (hinput : InCents input) (houtput : InCents output) {usage usage' : TokenUsage}
    (hrange : InRange usage') (hle : usage.input_tokens ≤ usage'.input_tokens)
    (hle' : usage.output_tokens ≤ usage'.output_tokens) :
    ∃ cost cost', estimateCostUsd usage (listPrice input output) = .ok cost ∧
      estimateCostUsd usage' (listPrice input output) = .ok cost' ∧ cost ≤ cost' := by
  have hrange' : InRange usage := ⟨hle.trans hrange.1, hle'.trans hrange.2⟩
  refine ⟨_, _, listPrice_cost usage (units_short hrange' hinput houtput) hinput houtput,
    listPrice_cost usage' (units_short hrange hinput houtput) hinput houtput, value_le_iff.mpr ?_⟩
  unfold units
  have hin : usage.input_tokens * input ≤ usage'.input_tokens * input :=
    mul_le_mul_of_nonneg_right hle (by positivity)
  have hout : usage.output_tokens * output ≤ usage'.output_tokens * output :=
    mul_le_mul_of_nonneg_right hle' (by positivity)
  omega

/-- A cost in range takes eleven of the twelve digits before the point. -/
theorem listPrice_fits {usage : TokenUsage} (hrange : InRange usage) (hinput : InCents input)
    (houtput : InCents output) :
    FitsNumeric 20 8 ⟨units input output usage, -8⟩ := by
  have hbound := units_bound hrange hinput houtput
  have hpos : 0 ≤ units input output usage := units_nonneg usage
  refine ⟨units input output usage, ?_, ?_⟩
  · rw [Decimal.value, zpow_neg, ← div_eq_mul_inv]
    rfl
  · omega

/-- The estimates of the table's prices are exact, additive and monotone. -/
theorem static_costs_exact {pricing : ModelPricing} (hlisted : Listed pricing) :
    (∀ usage, InRange usage → ∃ steps : Steps usage pricing, estimateCostUsd usage pricing = .ok steps.cost ∧
      steps.Exact ∧ steps.cost.value = exactCost usage pricing ∧ FitsNumeric 20 8 steps.cost) ∧
    (∀ usages, InRange (summed usages) → ∃ costs total cost,
      usages.mapM (fun usage => estimateCostUsd usage pricing) = .ok costs ∧
      estimateCostUsd (summed usages) pricing = .ok cost ∧ (costs.map Decimal.value).sum = cost.value ∧
      sum defaultContext costs = .ok total ∧ total.value = cost.value) ∧
    (∀ usage usage', InRange usage' → usage.input_tokens ≤ usage'.input_tokens →
      usage.output_tokens ≤ usage'.output_tokens → ∃ cost cost', estimateCostUsd usage pricing = .ok cost ∧
        estimateCostUsd usage' pricing = .ok cost' ∧ cost ≤ cost') := by
  obtain ⟨input, output, rfl, hinput, houtput⟩ := listed_cents hlisted
  refine ⟨?_, ?_, ?_⟩
  · intro usage hrange
    obtain ⟨steps, hexact, -⟩ := listPrice_steps usage (units_short hrange hinput houtput) hinput houtput
    have hcost := steps.estimate.symm.trans (listPrice_cost usage (units_short hrange hinput houtput) hinput houtput)
    refine ⟨steps, steps.estimate, hexact, hexact.cost_value, ?_⟩
    rw [Except.ok.inj hcost]
    exact listPrice_fits hrange hinput houtput
  · intro usages hrange
    exact listPrice_additive hinput houtput hrange
  · intro usage usage' hrange hle hle'
    exact listPrice_monotone hinput houtput hrange hle hle'

def perMillion : TokenUsage := ⟨1000000, 500000, rfl⟩

theorem mini_listed : Listed (listPrice 15 60) :=
  ⟨"openai", _, "gpt-4o-mini", List.mem_cons_self, List.mem_cons_self⟩

theorem mini_costs_exact : ∃ steps : Steps perMillion (listPrice 15 60),
    estimateCostUsd perMillion (listPrice 15 60) = .ok steps.cost ∧ steps.Exact ∧
      steps.cost.value = exactCost perMillion (listPrice 15 60) ∧ FitsNumeric 20 8 steps.cost :=
  (static_costs_exact mini_listed).1 perMillion ⟨by decide, by decide⟩

example : estimateCostUsd perMillion (listPrice 15 60) = .ok ⟨45000000, -8⟩ := by decide +kernel

end Billing

end AIRuntime.DecimalCosts
