import AIRuntime.ProviderExecution
import AIRuntime.PolicyEnforcement
import AIRuntime.PythonFloats
import AIRuntime.RedisAdapters
import AIRuntime.ResponsePayloads

set_option autoImplicit false

/-! `application/responses/create_response.py`. -/
namespace AIRuntime.ResponseCreation

open EffectPrograms Failures Identifiers GenerationContracts ModelRouting AccountingRecords Collaborators PythonFloats
  ProviderExecution PolicyEnforcement RedisAdapters ResponsePayloads

/-- `estimate(provider=.., model=.., usage=..)`. -/
abbrev CostEstimator := String → String → Option TokenUsage → Except Exn (Option ℚ)

structure CreateResponseCommand where
  request : GenerationRequest
  request_id : String
  organization_id : UUID
  api_key_id : UUID
  idempotency_key : Option String

/-- `sha256` is the digest the fingerprint of a request takes. -/
structure CreateResponse where
  provider_executor : ProviderExecutor
  cost_estimator : CostEstimator
  rate_limiter : RedisRateLimiter
  idempotency_store : RedisIdempotencyStore
  response_cache : RedisResponseCache
  sha256 : String → String

def beforeRoute (command : CreateResponseCommand) (route : ModelRoute) : Action Unit :=
  enforceOrganizationPolicy ⟨command.organization_id, route.model, command.request.max_output_tokens⟩

def recordGenerationError : Action Unit :=
  (Command.increment "generation_requests_total" [("result", "error")] 1).ask

def countTokens (count_tokens : Bool) (usage : Option TokenUsage) : Action Unit :=
  match count_tokens, usage with
  | true, some usage => do
    let amount ← Prog.ofExcept (floatOfInt usage.input_tokens)
    let _ ← (Command.increment "generation_tokens_total" [("direction", "input")] amount).ask
    let amount ← Prog.ofExcept (floatOfInt usage.output_tokens)
    (Command.increment "generation_tokens_total" [("direction", "output")] amount).ask
  | _, _ => .done ()

def recordGenerationSuccess (command : CreateResponseCommand) (response : GenerationResponse)
    (outcome provider : String) (count_tokens : Bool) : Action Unit := do
  let _ ← (Command.increment "generation_requests_total" [("result", "success"), ("outcome", outcome)] 1).ask
  let _ ← countTokens count_tokens response.usage
  let id ← Command.uuid4.ask
  let now ← Command.utcNow.ask
  let event ← Prog.ofExcept (AuditEvent.new id "response.created" now.val (some command.organization_id)
    (some command.api_key_id) (some command.request_id) "response" (some response.id)
    [("model", response.model), ("outcome", outcome), ("provider", provider)])
  (← (Command.addAudit event).ask) |> Prog.ofExcept

namespace CreateResponse

variable (self : CreateResponse)

def recordUsage (command : CreateResponseCommand) (provider_name : String)
    (response : GenerationResponse) : Action Unit := do
  let estimated_cost ← Prog.ofExcept (self.cost_estimator provider_name response.model response.usage)
  let id ← Command.uuid4.ask
  let now ← Command.utcNow.ask
  let record ← Prog.ofExcept (UsageRecord.new id command.request_id command.organization_id
    command.api_key_id provider_name response.model (response.usage.map (·.input_tokens))
    (response.usage.map (·.output_tokens)) estimated_cost now.val)
  (← (Command.addUsage record).ask) |> Prog.ofExcept

def fingerprint (command : CreateResponseCommand) : String :=
  fingerprintGenerationRequest self.sha256 command.request

/-- `if claimed_idempotency and command.idempotency_key is not None: await ..complete(..)`. The key is
here exactly when it was claimed. -/
def completeClaim (command : CreateResponseCommand) (claimed : Option String)
    (response : GenerationResponse) : Action Unit :=
  match claimed with
  | some key => self.idempotency_store.complete command.organization_id key (serializeResponse response)
  | none => .done ()

def releaseClaim (command : CreateResponseCommand) (claimed : Option String) : Action Unit :=
  match claimed with
  | some key => RedisIdempotencyStore.release command.organization_id key
  | none => .done ()

def lookUpCache (command : CreateResponseCommand) : Action (Option String) :=
  if command.request.cache then
    RedisResponseCache.get command.organization_id (self.fingerprint command)
  else .done none

def storeInCache (command : CreateResponseCommand) (response : GenerationResponse) : Action Unit :=
  if command.request.cache then
    self.response_cache.set command.organization_id (self.fingerprint command) (serializeResponse response)
  else .done ()

/-- The branch of `execute` for a completed idempotency record. -/
def replay (command : CreateResponseCommand) (payload : String) : Action GenerationResponse := do
  let response ← Prog.ofExcept (deserializeResponse payload)
  let _ ← recordGenerationSuccess command response "idempotent" "replay" false
  .done response

/-- The branch of `execute` for a cached payload; it stands before the `try`. -/
def serveCached (command : CreateResponseCommand) (claimed : Option String)
    (cached_payload : String) : Action GenerationResponse := do
  let _ ← enforceOrganizationPolicy
    ⟨command.organization_id, command.request.model, command.request.max_output_tokens⟩
  let response ← Prog.ofExcept (deserializeResponse cached_payload)
  let response := { response with cached := true }
  let _ ← self.completeClaim command claimed response
  let _ ← recordGenerationSuccess command response "cache" "cache" false
  .done response

/-- What follows the provider's response inside the `try`. -/
def finish (command : CreateResponseCommand) (claimed : Option String)
    (execution : ProviderExecutionResult) : Action GenerationResponse := do
  let _ ← self.recordUsage command execution.providerName execution.response
  let _ ← self.storeInCache command execution.response
  let _ ← self.completeClaim command claimed execution.response
  let _ ← recordGenerationSuccess command execution.response "provider" execution.providerName true
  .done execution.response

def generate (command : CreateResponseCommand) (claimed : Option String) : Action GenerationResponse := do
  let execution ← self.provider_executor.execute command.request.model command.request
    (some (beforeRoute command))
  self.finish command claimed execution

/-- The `except Exception` of `execute`. -/
def abandon (command : CreateResponseCommand) (claimed : Option String) (err : Exn) :
    Action GenerationResponse := do
  let _ ← releaseClaim command claimed
  let _ ← recordGenerationError
  .raise err

/-- `execute` after its idempotency check. -/
def serve (command : CreateResponseCommand) (claimed : Option String) : Action GenerationResponse := do
  match ← self.lookUpCache command with
  | some cached_payload => self.serveCached command claimed cached_payload
  | none => (self.generate command claimed).catching (abandon command claimed)

def rateLimitError (decision : RateLimitDecision) : Exn :=
  .rateLimitExceeded (max 1 (decision.retry_after_seconds.getD 1))

def execute (command : CreateResponseCommand) : Action GenerationResponse := do
  let decision ← self.rate_limiter.consume command.organization_id
  if !decision.allowed then
    let _ ← recordGenerationError
    .raise (rateLimitError decision)
  else
    match command.idempotency_key with
    | none => self.serve command none
    | some key =>
      match ← self.idempotency_store.begin command.organization_id key with
      | .completed payload => replay command payload
      | .inProgress =>
        let _ ← recordGenerationError
        .raise .idempotencyConflict
      | .miss => self.serve command (some key)

/-- One turn of the loop of `stream`. -/
def passOn (command : CreateResponseCommand) (item : ProviderStreamEvent) :
    Gen GenerationStreamEvent Unit := do
  match item.payload with
  | .response response =>
    let _ ← (self.recordUsage command item.providerName response).lift
    let _ ← (recordGenerationSuccess command response "provider" item.providerName true).lift
    .yield item.payload (.done ())
  | .delta _ => .yield item.payload (.done ())

def stream (command : CreateResponseCommand) : Gen GenerationStreamEvent Unit := do
  if command.idempotency_key.isSome then
    .raise (.domainValidation "Idempotency-Key is not supported for streaming requests.")
  else
    let decision ← (self.rate_limiter.consume command.organization_id).lift
    if !decision.allowed then .raise (rateLimitError decision)
    else
      (self.provider_executor.stream command.request.model command.request
        (some (beforeRoute command))).forEach () (fun _ item => self.passOn command item)
        fun _ ended => Prog.ofExcept ended

end CreateResponse

end AIRuntime.ResponseCreation
