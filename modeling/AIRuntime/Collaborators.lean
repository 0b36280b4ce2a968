import AIRuntime.EffectRuns
import AIRuntime.ModelRouting
import AIRuntime.AccountingRecords
import AIRuntime.PolicyRules

set_option autoImplicit false

/-!
What the application asks of the world: clocks, Redis commands, repository calls, provider calls,
sleeps and metrics. Each command is one atomic step; its answer type says how it may fail.
-/
namespace AIRuntime.Collaborators

open EffectPrograms Failures CivilTime Identifiers GenerationContracts ModelRouting AccountingRecords
  PolicyRules

structure RedisError where
  message : String
deriving DecidableEq

/-- What one `provider.stream(request)` does when it is iterated: its events, then how it ends. -/
structure StreamScript where
  events : List GenerationStreamEvent
  ending : Except Exn Unit

/-- `datetime.now(UTC)`. -/
abbrev UtcInstant := { d : DateTime // d.utcoffset = some 0 }

/-- `resolve` observes a call of `ModelRouter.resolve`, whose result is a function of the router;
`hook` is a route hook whose outcome its caller decides. -/
inductive Command : Type where
  | time
  | utcNow
  | uuid4
  | redisSet (key value : String) (nx : Bool) (ex : ℤ)
  | redisGet (key : String)
  | redisDelete (key : String)
  | redisTokenBucket (key : String) (capacity refill_per_second now requested : ℚ)
  | listEntitlements (organization_id : UUID)
  | getPolicy (organization_id : UUID)
  | sumTokens (organization_id : UUID) (start stop : DateTime)
  | addUsage (record : UsageRecord)
  | addAudit (event : AuditEvent)
  | hook (route : ModelRoute)
  | resolve (model : String)
  | generate (provider : String) (request : GenerationRequest)
  | stream (provider : String) (request : GenerationRequest)
  | sleep (seconds : ℚ)
  | increment (name : String) (labels : List (String × String)) (amount : ℚ)

/-- A `SET NX` answers whether it claimed the key, the bucket script answers allowed and retry-after. -/
@[reducible]
def Response : Command → Type
  | .time => ℚ
  | .utcNow => UtcInstant
  | .uuid4 => UUID
  | .redisSet .. => Except RedisError Bool
  | .redisGet _ => Except RedisError (Option String)
  | .redisDelete _ => Except RedisError Unit
  | .redisTokenBucket .. => Except RedisError (Bool × ℤ)
  | .listEntitlements _ => Except Exn (List ModelEntitlement)
  | .getPolicy _ => Except Exn OrganizationPolicy
  | .sumTokens .. => Except Exn ℤ
  | .addUsage _ => Except Exn Unit
  | .addAudit _ => Except Exn Unit
  | .hook _ => Except Exn Unit
  | .resolve _ => Unit
  | .generate .. => Except Exn GenerationResponse
  | .stream .. => StreamScript
  | .sleep _ => Unit
  | .increment .. => Unit

/-- An `async def` of the source. -/
abbrev Action (α : Type) := Prog Command Response Empty Exn α

/-- An async generator of the source. -/
abbrev Gen (E α : Type) := Prog Command Response E Exn α

abbrev Observation (E : Type) := Obs Command Response E

abbrev Command.ask {E : Type} (c : Command) : Prog Command Response E Exn (Response c) := Prog.ask c

def Command.isProviderCall : Command → Bool
  | .generate .. => true
  | .stream .. => true
  | _ => false

end AIRuntime.Collaborators
