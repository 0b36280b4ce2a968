import AIRuntime.CivilTime
import AIRuntime.Identifiers
import AIRuntime.GenerationContracts

set_option autoImplicit false

/-! `domain/usage.py` and `domain/audit.py`. -/
namespace AIRuntime.AccountingRecords

open PythonText Failures CivilTime Identifiers GenerationContracts

def UsageRecord.problem (request_id provider model : String) (input_tokens output_tokens : Option ℤ)
    (estimated_cost_usd : Option ℚ) (created_at : DateTime) : Option String :=
  (requireNonBlank request_id "request_id").or <|
  (requireNonBlank provider "provider").or <|
  (requireNonBlank model "model").or <|
  if created_at.utcoffset = none then some "created_at must be timezone-aware"
  else if input_tokens.any (· < 0) then some "input_tokens must not be negative"
  else if output_tokens.any (· < 0) then some "output_tokens must not be negative"
  else if estimated_cost_usd.any (· < 0) then some "estimated_cost_usd must not be negative"
  else if input_tokens.isNone ≠ output_tokens.isNone then
    some "input_tokens and output_tokens must both be set or both be None"
  else none

structure UsageRecord where
  id : UUID
  request_id : String
  organization_id : UUID
  api_key_id : UUID
  provider : String
  model : String
  input_tokens : Option ℤ
  output_tokens : Option ℤ
  estimated_cost_usd : Option ℚ
  created_at : DateTime
  ok : UsageRecord.problem request_id provider model input_tokens output_tokens estimated_cost_usd
    created_at = none
deriving DecidableEq

def UsageRecord.new (id : UUID) (request_id : String) (organization_id api_key_id : UUID)
    (provider model : String) (input_tokens output_tokens : Option ℤ) (estimated_cost_usd : Option ℚ)
    (created_at : DateTime) : Except Exn UsageRecord :=
  validated (UsageRecord.problem request_id provider model input_tokens output_tokens estimated_cost_usd
    created_at) fun h => ⟨id, request_id, organization_id, api_key_id, provider, model, input_tokens,
      output_tokens, estimated_cost_usd, created_at, h⟩

/-- `coalesce(input_tokens, 0) + coalesce(output_tokens, 0)`. -/
def UsageRecord.tokens (r : UsageRecord) : ℤ := r.input_tokens.getD 0 + r.output_tokens.getD 0

theorem UsageRecord.new_eq_ok {id : UUID} {request_id : String} {organization_id api_key_id : UUID}
    {provider model : String} {input_tokens output_tokens : Option ℤ} {estimated_cost_usd : Option ℚ}
    {created_at : DateTime} {r : UsageRecord}
    (h : UsageRecord.new id request_id organization_id api_key_id provider model input_tokens output_tokens
      estimated_cost_usd created_at = .ok r) :
    r.request_id = request_id ∧ r.organization_id = organization_id ∧
      r.tokens = input_tokens.getD 0 + output_tokens.getD 0 ∧ r.created_at = created_at := by
  obtain ⟨hp, hr⟩ := of_validated h
  rw [hr]
  exact ⟨rfl, rfl, rfl, rfl⟩

def forbiddenMetadataKeys : List String :=
  ["authorization", "content", "messages", "password", "prompt", "secret", "token"]

def metadataProblem (key value : String) : Option String :=
  (requireNonBlank key "metadata key").or <|
  if forbiddenMetadataKeys.contains (lower key) then some ("metadata key '" ++ key ++ "' is not allowed")
  else if isBlank value then some "metadata values must not be blank"
  else none

def AuditEvent.problem (action resource_type : String) (occurred_at : DateTime)
    (metadata : List (String × String)) : Option String :=
  (requireNonBlank action "action").or <|
  (requireNonBlank resource_type "resource_type").or <|
  if occurred_at.utcoffset = none then some "occurred_at must be timezone-aware"
  else metadata.findSome? fun item => metadataProblem item.1 item.2

structure AuditEvent where
  id : UUID
  action : String
  occurred_at : DateTime
  organization_id : Option UUID
  actor_api_key_id : Option UUID
  request_id : Option String
  resource_type : String
  resource_id : Option String
  metadata : List (String × String)
  ok : AuditEvent.problem action resource_type occurred_at metadata = none
deriving DecidableEq

def AuditEvent.new (id : UUID) (action : String) (occurred_at : DateTime)
    (organization_id actor_api_key_id : Option UUID) (request_id : Option String) (resource_type : String)
    (resource_id : Option String) (metadata : List (String × String)) : Except Exn AuditEvent :=
  validated (AuditEvent.problem action resource_type occurred_at metadata) fun h =>
    ⟨id, action, occurred_at, organization_id, actor_api_key_id, request_id, resource_type, resource_id,
      metadata, h⟩

theorem AuditEvent.new_eq_ok {id : UUID} {action : String} {occurred_at : DateTime}
    {organization_id actor_api_key_id : Option UUID} {request_id : Option String} {resource_type : String}
    {resource_id : Option String} {metadata : List (String × String)} {e : AuditEvent}
    (h : AuditEvent.new id action occurred_at organization_id actor_api_key_id request_id resource_type
      resource_id metadata = .ok e) : e.organization_id = organization_id := by
  obtain ⟨hp, he⟩ := of_validated h
  rw [he]

end AIRuntime.AccountingRecords
