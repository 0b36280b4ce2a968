import AIRuntime.ResponseScopes

set_option autoImplicit false

/-!
`execute` in two halves: what the rate limiter and the stores say of a call, and what is done about it.
`stream` in two halves: the attempt that opens, and the loop over its events.
-/
namespace AIRuntime.CallEntry

open EffectPrograms Failures GenerationContracts ModelRouting Collaborators ProviderExecution RouteSearch
  ExecutorSemantics PolicyEnforcement RedisAdapters ResponsePayloads ResponseCreation ResponseScopes

/-- What a call meets before its provider: a refusal, a record, a cached payload or nothing. -/
inductive Entry where
  | denied (decision : RateLimitDecision)
  | inProgress
  | completed (payload : String)
  | cached (claimed : Option String) (payload : String)
  | missed (claimed : Option String)

variable (self : CreateResponse) (command : CreateResponseCommand)

def lookUp (claimed : Option String) : Action Entry :=
  (self.lookUpCache command).bind fun
    | some payload => .done (.cached claimed payload)
    | none => .done (.missed claimed)

def enter : Action Entry :=
  (self.rate_limiter.consume command.organization_id).bind fun decision =>
    if !decision.allowed then .done (.denied decision)
    else
      match command.idempotency_key with
      | none => lookUp self command none
      | some key => (self.idempotency_store.begin command.organization_id key).bind fun
        | .completed payload => .done (.completed payload)
        | .inProgress => .done .inProgress
        | .miss => lookUp self command (some key)

def proceed : Entry → Action GenerationResponse
  | .denied decision => recordGenerationError.bind fun _ => .raise (CreateResponse.rateLimitError decision)
  | .inProgress => recordGenerationError.bind fun _ => .raise .idempotencyConflict
  | .completed payload => CreateResponse.replay command payload
  | .cached claimed payload => self.serveCached command claimed payload
  | .missed claimed => (self.generate command claimed).catching (CreateResponse.abandon command claimed)

theorem serve_eq (claimed : Option String) :
    self.serve command claimed = (lookUp self command claimed).bind (proceed self command) := by
  unfold CreateResponse.serve lookUp
  rw [Prog.bind_assoc]
  refine Prog.bind_congr fun looked => ?_
  cases looked <;> rfl

theorem execute_eq_enter : self.execute command = (enter self command).bind (proceed self command) := by
  unfold CreateResponse.execute enter
  rw [Prog.bind_assoc]
  refine Prog.bind_congr fun decision => ?_
  cases decision.allowed with
  | false => rfl
  | true =>
    simp only [Bool.not_true, Bool.false_eq_true, ↓reduceIte]
    cases command.idempotency_key with
    | none => exact serve_eq self command none
    | some key =>
      simp only [Prog.bind_eq, Prog.bind_assoc]
      refine Prog.bind_congr fun begun => ?_
      cases begun with
      | completed payload => rfl
      | inProgress => rfl
      | miss => exact serve_eq self command (some key)

variable {self command} {P : Command → Prop}

theorem enter_asks (hmeters : ∀ c, Meters command.organization_id c → P c)
    (hkey : ∀ key c, OnKey key c → P c) : (enter self command).Asks P := by
  have hlook : ∀ claimed, (lookUp self command claimed).Asks P := by
    intro claimed
    unfold lookUp CreateResponse.lookUpCache
    split_ifs
    · refine Prog.Asks.bind ((cacheGet_asks _ _).mono (hkey _)) fun looked => ?_
      cases looked <;> trivial
    · trivial
  refine Prog.Asks.bind ((consume_asks _ _).mono hmeters) fun decision => ?_
  cases decision.allowed with
  | false => trivial
  | true =>
    simp only [Bool.not_true, Bool.false_eq_true, ↓reduceIte]
    cases command.idempotency_key with
    | none => exact hlook none
    | some key =>
      refine Prog.Asks.bind ((begin_asks _ _ key).mono (hkey _)) fun begun => ?_
      cases begun with
      | completed payload => trivial
      | inProgress => trivial
      | miss => exact hlook (some key)

section Streams

/-- The loop of `stream` over the events of the attempt that was opened on a route. -/
def passOnAll (self : CreateResponse) (command : CreateResponseCommand) (route : ModelRoute)
    (events : List GenerationStreamEvent) (ending : Except Exn Unit) : Gen GenerationStreamEvent Unit :=
  (Prog.ofEvents (events.map fun event => (⟨event, route⟩ : ProviderStreamEvent)) ending).forEach ()
    (fun _ item => self.passOn command item) fun _ ended => Prog.ofExcept ended

variable {self : CreateResponse} {command : CreateResponseCommand} {route : ModelRoute} {ending : Except Exn Unit}

theorem passOnAll_nil : passOnAll self command route [] ending = Prog.ofExcept ending := by
  cases ending <;> rfl

theorem passOnAll_response (response : GenerationResponse) (events : List GenerationStreamEvent) :
    passOnAll self command route (.response response :: events) ending =
      (self.recordUsage command route.provider response).lift.bind fun _ =>
        (recordGenerationSuccess command response "provider" route.provider true).lift.bind fun _ =>
          .yield (.response response) (passOnAll self command route events ending) := by
  change (((self.recordUsage command route.provider response).lift.bind fun _ => _).bind _) = _
  rw [Prog.bind_assoc]
  apply Prog.bind_congr
  intro _
  exact Prog.bind_assoc _ _ _

variable (self command) in
/-- `stream` in two halves: the search for an attempt that opens, and what is made of its events. -/
theorem stream_eq_passOnAll : self.stream command =
    if command.idempotency_key.isSome then
      .raise (.domainValidation "Idempotency-Key is not supported for streaming requests.")
    else (self.rate_limiter.consume command.organization_id).lift.bind fun decision =>
      if !decision.allowed then .raise (CreateResponse.rateLimitError decision)
      else (search self.provider_executor command.request.model command.request (some (beforeRoute command)) openOnce
          (self.provider_executor.routesFor command.request.model)).attempt.lift.bind fun outcome =>
        match outcome with
        | .ok (opened, route) => passOnAll self command route opened.events opened.ending
        | .error err => .raise err := by
  unfold CreateResponse.stream
  split_ifs
  · rfl
  · apply Prog.bind_congr
    intro decision
    split_ifs
    · rfl
    · rw [stream_eq, Prog.forEach_lift_bind]
      apply Prog.bind_congr
      intro outcome
      cases outcome <;> rfl

end Streams

end AIRuntime.CallEntry
