import AIRuntime.DecimalCosts
import AIRuntime.ResponseCreation

set_option autoImplicit false

/-! What recording the usage of a response comes to, with its estimated cost. -/
namespace AIRuntime.UsageAccounting

open EffectPrograms PythonText Failures CivilTime Identifiers GenerationContracts AccountingRecords Collaborators
  ResponseCreation DecimalArithmetic DecimalCosts

section Costs

def Signal.exn : Signal → Exn
  | .invalidOperation => .other "InvalidOperation"
  | .divisionByZero => .other "DivisionByZero"
  | .overflow => .other "Overflow"

def staticCostEstimator : CostEstimator := fun provider model usage =>
  match StaticCostEstimator.estimate provider model usage with
  | .ok cost => .ok (cost.map Decimal.value)
  | .error signal => .error (Signal.exn signal)

/-- The estimator answers for a response of a model, and with no negative cost. -/
def estimated (estimator : CostEstimator) (provider model : String) (usage : Option TokenUsage) : Bool :=
  match estimator provider model usage with
  | .ok cost => !cost.any (· < 0)
  | .error _ => false

/-- The static prices answer for every response that costs less than `10 ^ 20` dollars. -/
theorem staticCostEstimator_estimated (provider model : String) (usage : Option TokenUsage) :
    estimated staticCostEstimator provider model usage = true ↔
      ∀ counts pricing, usage = some counts → priceOf provider model = some pricing →
        exactCost counts pricing < 10 ^ 20 := by
  unfold estimated staticCostEstimator
  cases usage with
  | none => simp [StaticCostEstimator.estimate]
  | some usage =>
    rw [StaticCostEstimator.estimate_eq]
    cases hprice : priceOf provider model with
    | none => simp
    | some pricing =>
      have hlisted := priceOf_listed hprice
      have hreturns := @listed_returns_iff usage _ hlisted
      cases hcost : estimateCostUsd usage pricing with
      | error signal =>
        rw [hcost] at hreturns
        simpa [Except.map, hcost] using hreturns
      | ok cost =>
        have hbelow := hreturns.mp ⟨cost, hcost⟩
        simp [Except.map, hcost, listed_value hlisted hcost, exactCost_nonneg, hbelow]

end Costs

section Rows

def tokensOf (response : GenerationResponse) : ℤ := (response.usage.map TokenUsage.total).getD 0

/-- A usage row can always be built, and carries the response's tokens. -/
theorem usageRecord_new (response : GenerationResponse) {request_id provider : String} {cost : Option ℚ}
    (hid : isBlank request_id = false) (hprovider : requireNonBlank provider "provider" = none)
    (hcost : cost.any (· < 0) = false) (id organization_id api_key_id : UUID) (now : UtcInstant) :
    ∃ record, UsageRecord.new id request_id organization_id api_key_id provider response.model
        (response.usage.map (·.input_tokens)) (response.usage.map (·.output_tokens)) cost now.val = .ok record ∧
      record.request_id = request_id ∧ record.organization_id = organization_id ∧
      record.tokens = tokensOf response ∧ record.created_at = now.val := by
  have hmodel : requireNonBlank response.model "model" = none := (or_none (or_none response.ok).2).1
  have hzone : now.val.utcoffset ≠ none := by
    rw [now.property]
    exact fun h => nomatch h
  have hproblem : UsageRecord.problem request_id provider response.model (response.usage.map (·.input_tokens))
      (response.usage.map (·.output_tokens)) cost now.val = none := by
    unfold UsageRecord.problem
    rw [requireNonBlank_none.mpr hid, hprovider, hmodel, Option.none_or, Option.none_or, Option.none_or,
      if_neg hzone]
    cases hu : response.usage with
    | none => simp [hcost]
    | some usage =>
      obtain ⟨hi, ho⟩ := usage.nonneg
      simp [hcost, not_lt.mpr hi, not_lt.mpr ho]
  refine ⟨_, validated_ok hproblem, rfl, rfl, ?_, rfl⟩
  change (response.usage.map (·.input_tokens)).getD 0 + (response.usage.map (·.output_tokens)).getD 0 =
    tokensOf response
  unfold tokensOf TokenUsage.total
  cases response.usage <;> rfl

structure RowOf (command : CreateResponseCommand) (response : GenerationResponse) (now : UtcInstant)
    (record : UsageRecord) : Prop where
  request_id : record.request_id = command.request_id
  organization_id : record.organization_id = command.organization_id
  tokens : record.tokens = tokensOf response
  created_at : record.created_at = now.val

variable {service : CreateResponse} {command : CreateResponseCommand} {provider : String}
  {response : GenerationResponse}

/-- With a cost, recording usage is drawing an id, reading the clock and inserting the row. -/
theorem recordUsage_eq (hestimated : estimated service.cost_estimator provider response.model response.usage = true)
    (hid : isBlank command.request_id = false) (hprovider : requireNonBlank provider "provider" = none) :
    ∃ record : UUID → UtcInstant → UsageRecord, (∀ id now, RowOf command response now (record id now)) ∧
      service.recordUsage command provider response =
        Command.uuid4.ask.bind fun id => Command.utcNow.ask.bind fun now =>
          (Command.addUsage (record id now)).ask.bind Prog.ofExcept := by
  obtain ⟨cost, hcost, hnonneg⟩ : ∃ cost, service.cost_estimator provider response.model response.usage = .ok cost ∧
      cost.any (· < 0) = false := by
    unfold estimated at hestimated
    cases hcost : service.cost_estimator provider response.model response.usage with
    | error err =>
      rw [hcost] at hestimated
      cases hestimated
    | ok cost =>
      rw [hcost] at hestimated
      exact ⟨cost, rfl, by simpa using hestimated⟩
  have hnew := fun id now => usageRecord_new response hid hprovider hnonneg id command.organization_id
    command.api_key_id now
  choose record hrecord hrequest horganization htokens hcreated using hnew
  refine ⟨record, fun id now => ⟨hrequest id now, horganization id now, htokens id now, hcreated id now⟩, ?_⟩
  unfold CreateResponse.recordUsage
  rw [hcost]
  simp only [Prog.bind_eq, Prog.ofExcept_ok, Prog.done_bind, Prog.ask_bind]
  congr 1
  funext id
  congr 1
  funext now
  rw [hrecord id now]
  rfl

theorem recordUsage_refused (hrefused : estimated service.cost_estimator provider response.model response.usage = false) :
    (∃ err, service.cost_estimator provider response.model response.usage = .error err ∧
        service.recordUsage command provider response = .raise err) ∨
      (∃ cost, service.cost_estimator provider response.model response.usage = .ok cost) ∧
        ∃ message : UUID → UtcInstant → String, service.recordUsage command provider response =
          Command.uuid4.ask.bind fun id => Command.utcNow.ask.bind fun now =>
            .raise (.domainValidation (message id now)) := by
  unfold estimated at hrefused
  unfold CreateResponse.recordUsage
  cases hcost : service.cost_estimator provider response.model response.usage with
  | error err => exact .inl ⟨err, rfl, rfl⟩
  | ok cost =>
    have hnegative : cost.any (· < 0) = true := by
      rw [hcost] at hrefused
      simpa using hrefused
    have hnew : ∀ (id : UUID) (now : UtcInstant), ∃ message, UsageRecord.new id command.request_id
        command.organization_id command.api_key_id provider response.model (response.usage.map (·.input_tokens))
        (response.usage.map (·.output_tokens)) cost now.val = .error (.domainValidation message) := by
      intro id now
      have hproblem : UsageRecord.problem command.request_id provider response.model
          (response.usage.map (·.input_tokens)) (response.usage.map (·.output_tokens)) cost now.val ≠ none := by
        intro hproblem
        unfold UsageRecord.problem at hproblem
        obtain ⟨-, hproblem⟩ := or_none hproblem
        obtain ⟨-, hproblem⟩ := or_none hproblem
        obtain ⟨-, hproblem⟩ := or_none hproblem
        split_ifs at hproblem
      obtain ⟨message, hmessage⟩ := Option.ne_none_iff_exists'.mp hproblem
      exact ⟨message, validated_error hmessage⟩
    choose message hmessage using hnew
    refine .inr ⟨⟨cost, rfl⟩, message, ?_⟩
    simp only [Prog.bind_eq, Prog.ofExcept_ok, Prog.done_bind, Prog.ask_bind]
    congr 1
    funext id
    congr 1
    funext now
    rw [hmessage id now]
    rfl

end Rows

end AIRuntime.UsageAccounting
