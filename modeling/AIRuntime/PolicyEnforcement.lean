import AIRuntime.Collaborators

set_option autoImplicit false

/-! `application/policy/enforce_organization_policy.py`. -/
namespace AIRuntime.PolicyEnforcement

open EffectPrograms Failures Identifiers PolicyRules Collaborators

structure EnforceOrganizationPolicyCommand where
  organization_id : UUID
  requested_model : String
  max_output_tokens : Option ℤ

/-- The quota check of `EnforceOrganizationPolicy.execute`, with the clock `datetime.now(UTC)`. -/
def checkQuota (command : EnforceOrganizationPolicyCommand) : Action Unit := do
  let policy ← (← (Command.getPolicy command.organization_id).ask) |> Prog.ofExcept
  match policy.monthly_token_limit with
  | none => .done ()
  | some limit =>
    let now ← Command.utcNow.ask
    let (start, stop) ← Prog.ofExcept (currentMonthUtcBounds now.val)
    let used_tokens ← (← (Command.sumTokens command.organization_id start stop).ask) |> Prog.ofExcept
    let exceeded ← Prog.ofExcept
      (wouldExceedMonthlyQuota used_tokens limit (command.max_output_tokens.getD 0))
    if exceeded then
      let retry_after_seconds ← Prog.ofExcept (secondsUntilEndOfMonthUtc now.val)
      .raise (.quotaExceeded retry_after_seconds)
    else .done ()

def enforceOrganizationPolicy (command : EnforceOrganizationPolicyCommand) : Action Unit := do
  let entitlements ← (← (Command.listEntitlements command.organization_id).ask) |> Prog.ofExcept
  if !isModelAllowed command.requested_model (entitlements.map (·.model)) then
    .raise (.modelNotAvailable command.requested_model)
  else checkQuota command

end AIRuntime.PolicyEnforcement
