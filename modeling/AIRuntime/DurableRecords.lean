import AIRuntime.CallEntry
import AIRuntime.EffectRelations
import AIRuntime.ServiceRuns

set_option autoImplicit false

/-!
What a call leaves behind for good, its usage and audit rows and its metrics, told apart from what it
says: two calls are compared that differ in their texts and nowhere else.
-/
namespace AIRuntime.DurableRecords

open EffectPrograms Failures Identifiers GenerationContracts ModelRouting AccountingRecords Collaborators
  ProviderExecution RouteSearch SearchRules ExecutorSemantics PolicyEnforcement RedisAdapters ResponsePayloads
  ResponseCreation ResponseScopes CallEntry ServiceRuns

section Likeness

inductive Handling where
  | failure (retryable : Bool)
  | denial
  | other
deriving DecidableEq

def handling : Exn → Handling
  | .provider err => .failure err.retryable
  | .modelNotAvailable _ => .denial
  | _ => .other

def HandledAlike (x y : Exn) : Prop := handling x = handling y

/-- Requests with one model, output limit and cache flag; messages and tools are anything. -/
structure RequestsAlike (r r' : GenerationRequest) : Prop where
  model : r.model = r'.model
  max_output_tokens : r.max_output_tokens = r'.max_output_tokens
  cache : r.cache = r'.cache

structure CallsAlike (command command' : CreateResponseCommand) : Prop where
  request : RequestsAlike command.request command'.request
  request_id : command.request_id = command'.request_id
  organization_id : command.organization_id = command'.organization_id
  api_key_id : command.api_key_id = command'.api_key_id
  idempotency_key : command.idempotency_key = command'.idempotency_key

/-- Responses with one id, model and usage; the output is anything. -/
structure ResponsesAlike (r r' : GenerationResponse) : Prop where
  id : r.id = r'.id
  model : r.model = r'.model
  usage : r.usage = r'.usage

/-- Streams that both yield something or both nothing, whose final responses are alike in turn, and that
end alike. The deltas are anything. -/
structure ScriptsAlike (s s' : StreamScript) : Prop where
  opened : s.events = [] ↔ s'.events = []
  responses : List.Forall₂ ResponsesAlike (s.events.filterMap GenerationStreamEvent.response?)
    (s'.events.filterMap GenerationStreamEvent.response?)
  ending : EndsAlike HandledAlike (fun _ _ => True) s.ending s'.ending

def PayloadsAlike (payload payload' : String) : Prop :=
  EndsAlike HandledAlike ResponsesAlike (deserializeResponse payload) (deserializeResponse payload')

def BeginsAlike : IdempotencyBeginResult → IdempotencyBeginResult → Prop
  | .miss, .miss => True
  | .inProgress, .inProgress => True
  | .completed payload, .completed payload' => PayloadsAlike payload payload'
  | _, _ => False

/-- Idempotency records that are read alike. -/
structure RecordsAlike (raw raw' : Option String) : Prop where
  held : raw = some statusInProgress ↔ raw' = some statusInProgress
  begun : BeginsAlike (RedisIdempotencyStore.readRecord raw) (RedisIdempotencyStore.readRecord raw')

def CachedAlike : Option String → Option String → Prop
  | none, none => True
  | some payload, some payload' => PayloadsAlike payload payload'
  | _, _ => False

/-- Any two cache keys of one organization, whatever they are fingerprints of. -/
inductive KeysAlike : String → String → Prop where
  | same (key : String) : KeysAlike key key
  | cache (organization_id : UUID) (fingerprint fingerprint' : String) :
      KeysAlike (RedisResponseCache.redisKey organization_id fingerprint)
        (RedisResponseCache.redisKey organization_id fingerprint')

inductive CommandsAlike : Command → Command → Prop where
  | same (c : Command) : CommandsAlike c c
  | redisSet {key key' : String} (h : KeysAlike key key') (value value' : String) (nx : Bool) (ex : ℤ) :
      CommandsAlike (.redisSet key value nx ex) (.redisSet key' value' nx ex)
  | redisGet {key key' : String} (h : KeysAlike key key') : CommandsAlike (.redisGet key) (.redisGet key')
  | generate (provider : String) {r r' : GenerationRequest} (h : RequestsAlike r r') :
      CommandsAlike (.generate provider r) (.generate provider r')
  | stream (provider : String) {r r' : GenerationRequest} (h : RequestsAlike r r') :
      CommandsAlike (.stream provider r) (.stream provider r')

/-- Texts under a Redis key that are read alike, as what the key is for. -/
structure TextsAlike (key : String) (raw raw' : Option String) : Prop where
  record : ∀ organization_id k, key = RedisIdempotencyStore.redisKey organization_id k → RecordsAlike raw raw'
  cached : ∀ organization_id f, key = RedisResponseCache.redisKey organization_id f → CachedAlike raw raw'

/-- Texts, responses and streams are answered alike, anything else the same. -/
def AnswersAlike : (c d : Command) → Response c → Response d → Prop
  | .redisGet key, .redisGet _, r, r' => EndsAlike (fun _ _ => True) (TextsAlike key) r r'
  | .generate _ _, .generate _ _, r, r' => EndsAlike HandledAlike ResponsesAlike r r'
  | .stream _ _, .stream _ _, s, s' => ScriptsAlike s s'
  | _, _, r, r' => r ≍ r'

def butForTexts : Likeness Command Response Exn := ⟨CommandsAlike, AnswersAlike, HandledAlike⟩

end Likeness

section Records

/-- What is kept of a run: a row with whether its insert succeeded, or the change of a counter. -/
inductive Durable where
  | usage (record : UsageRecord) (stored : Bool)
  | audit (event : AuditEvent) (stored : Bool)
  | metric (name : String) (labels : List (String × String)) (amount : ℚ)
deriving DecidableEq

def durable? : Step Command Response → Option Durable
  | ⟨.addUsage record, result⟩ => some (.usage record result.isOk)
  | ⟨.addAudit event, result⟩ => some (.audit event result.isOk)
  | ⟨.increment name labels amount, _⟩ => some (.metric name labels amount)
  | _ => none

def durable (ss : List (Step Command Response)) : List Durable := ss.filterMap durable?

theorem durable?_alike {s s' : Step Command Response} (h : butForTexts.Steps s s') : durable? s = durable? s' := by
  obtain ⟨c, r⟩ := s
  obtain ⟨d, r'⟩ := s'
  obtain ⟨hc, hr⟩ := h
  cases hc with
  | same c =>
    cases c with
    | addUsage record => exact congrArg durable? (congrArg (Sigma.mk _) (eq_of_heq hr))
    | addAudit event => exact congrArg durable? (congrArg (Sigma.mk _) (eq_of_heq hr))
    | _ => rfl
  | _ => rfl

theorem durable_alike {ss ss' : List (Step Command Response)} (h : List.Forall₂ butForTexts.Steps ss ss') :
    durable ss = durable ss' := by
  induction h with
  | nil => rfl
  | cons hs _ ih =>
    unfold durable at ih ⊢
    rw [List.filterMap_cons, List.filterMap_cons, durable?_alike hs, ih]

end Records

section Search

variable {β E : Type} {Q : β → β → Prop}

def Plain : Command → Prop
  | .redisGet _ => False
  | .generate _ _ => False
  | .stream _ _ => False
  | _ => True

theorem plain_alike {α : Type} {p : Gen E α} (hp : p.Asks Plain) : Prog.Alike butForTexts Eq p p := by
  apply Prog.Alike.same fun _ => rfl
  apply hp.mono
  intro c hc
  apply And.intro (CommandsAlike.same c)
  intro r r' hr
  cases c <;> first | exact hc.elim | exact eq_of_heq hr

variable {self : ProviderExecutor} {before_route : Option RouteHook}

theorem persist_alike {call call' : Action β} (h : Prog.Alike butForTexts Q call call') (more made : ℕ) :
    Prog.Alike butForTexts Q (persist self call more made) (persist self call' more made) := by
  induction more generalizing made with
  | zero => exact h
  | succ more ih =>
    apply Prog.Alike.catching h
    intro err err' herr
    cases err with
    | provider e =>
      cases err' with
      | provider e' =>
        have hretry : e.retryable = e'.retryable := Handling.failure.inj herr
        simp only [hretry]
        cases e'.retryable with
        | false => exact .raise herr
        | true =>
          have hsleeps : (self.backOff (made + 1)).Asks Plain := backOff_asks (fun _ => trivial) (made + 1)
          exact (plain_alike hsleeps).bind fun _ _ _ => ih (made + 1)
      | _ => cases herr
    | _ =>
      cases err' with
      | provider e' => cases herr
      | _ => exact .raise herr

def RetriedAlike (e e' : ProviderError) : Prop := e.retryable = e'.retryable

theorem catchProviderError_alike {p p' : Action β} (h : Prog.Alike butForTexts Q p p') :
    Prog.Alike butForTexts (EndsAlike RetriedAlike Q) (catchProviderError p) (catchProviderError p') := by
  have hbind : Prog.Alike butForTexts (EndsAlike RetriedAlike Q) (p.bind fun a => .done (.ok a))
      (p'.bind fun a => .done (.ok a)) := h.bind fun _ _ hab => .done hab
  apply hbind.catching
  intro err err' herr
  cases err with
  | provider e =>
    cases err' with
    | provider e' => exact .done (Handling.failure.inj herr)
    | _ => cases herr
  | _ =>
    cases err' with
    | provider e' => cases herr
    | _ => exact .raise herr

/-- What the verdict tells of a visit. -/
def visitHandling : Visit → Handling
  | .denied => .denial
  | .unregistered _ => .other
  | .failed err => .failure err.retryable

def VisitsAlike (visits visits' : List Visit) : Prop := visits.map visitHandling = visits'.map visitHandling

def ServedAlike (Q : β → β → Prop) (served served' : β × ModelRoute) : Prop :=
  Q served.1 served'.1 ∧ served.2 = served'.2

def failure? : Handling → Option Bool
  | .failure retryable => some retryable
  | _ => none

def judge (outcomes : List Handling) : Handling :=
  match (outcomes.filterMap failure?).getLast? with
  | some retryable => .failure retryable
  | none => if outcomes.contains .other then .other else .denial

theorem handling_verdict (requested_model : String) (visits : List Visit) :
    handling (verdict requested_model visits) = judge (visits.map visitHandling) := by
  have herrors : (visits.map visitHandling).filterMap failure? =
      (visits.filterMap Visit.error?).map ProviderError.retryable := by
    rw [List.filterMap_map, List.map_filterMap]
    congr 1
    funext v
    cases v <;> rfl
  unfold verdict judge
  rw [herrors, List.getLast?_map]
  cases (visits.filterMap Visit.error?).getLast? with
  | some err => rfl
  | none =>
    clear herrors
    induction visits with
    | nil => rfl
    | cons v visits ih =>
      cases v with
      | unregistered provider => rfl
      | denied => exact ih
      | failed err => exact ih

theorem verdict_alike {visits visits' : List Visit} (h : VisitsAlike visits visits') (requested_model : String) :
    HandledAlike (verdict requested_model visits) (verdict requested_model visits') := by
  unfold HandledAlike
  rw [handling_verdict, handling_verdict, h]

theorem withModel_alike {r r' : GenerationRequest} (h : RequestsAlike r r') (model : String)
    (hmodel : requireNonBlank model "model" = none) :
    RequestsAlike (r.withModel model hmodel) (r'.withModel model hmodel) :=
  ⟨rfl, h.max_output_tokens, h.cache⟩

variable {request request' : GenerationRequest} {call call' : String → GenerationRequest → Action β}

theorem visit_alike (hhook : ∀ hook ∈ before_route, ∀ route, (hook route).Asks Plain)
    (hrequest : RequestsAlike request request')
    (hcall : ∀ provider r r', RequestsAlike r r' → Prog.Alike butForTexts Q (call provider r) (call' provider r'))
    (route : ModelRoute) : Prog.Alike butForTexts
      (Sum.LiftRel (fun v v' => visitHandling v = visitHandling v') (ServedAlike Q))
      (visit self before_route request call route) (visit self before_route request' call' route) := by
  apply (plain_alike (admits_asks hhook route)).bind
  intro admitted _ hadmitted
  cases hadmitted
  cases admitted with
  | false => exact .done (.inl rfl)
  | true =>
    apply Prog.Alike.call (CommandsAlike.same _)
    intro _ _ _
    simp only [Prog.done_bind]
    cases self.model_router.providers route.provider with
    | false => exact .done (.inl rfl)
    | true =>
      have hrouted := hcall route.provider _ _ (withModel_alike hrequest route.model route.model_ok)
      apply (catchProviderError_alike (persist_alike hrouted _ _)).bind
      intro result result' hresult
      cases result with
      | ok served =>
        cases result' with
        | ok served' => exact .done (.inr ⟨hresult, rfl⟩)
        | error e' => exact hresult.elim
      | error e =>
        cases result' with
        | ok served' => exact hresult.elim
        | error e' => exact .done (.inl (congrArg Handling.failure hresult))

theorem explore_alike (hhook : ∀ hook ∈ before_route, ∀ route, (hook route).Asks Plain)
    (hrequest : RequestsAlike request request')
    (hcall : ∀ provider r r', RequestsAlike r r' → Prog.Alike butForTexts Q (call provider r) (call' provider r'))
    (routes : List ModelRoute) : Prog.Alike butForTexts (Sum.LiftRel VisitsAlike (ServedAlike Q))
      (explore self before_route request call routes) (explore self before_route request' call' routes) := by
  induction routes with
  | nil => exact .done (.inl rfl)
  | cons route rest ih =>
    apply (visit_alike hhook hrequest hcall route).bind
    intro outcome outcome' houtcome
    cases houtcome with
    | inr hserved => exact .done (.inr hserved)
    | inl hvisit =>
      apply ih.bind
      intro later later' hlater
      cases hlater with
      | inr hserved => exact .done (.inr hserved)
      | inl hmore => exact .done (.inl (congrArg₂ List.cons hvisit hmore))

/-- Alike requests are routed alike: through the same visits, to the same route or to alike errors. -/
theorem search_alike (hhook : ∀ hook ∈ before_route, ∀ route, (hook route).Asks Plain)
    (hrequest : RequestsAlike request request')
    (hcall : ∀ provider r r', RequestsAlike r r' → Prog.Alike butForTexts Q (call provider r) (call' provider r'))
    (requested_model : String) (routes : Except Exn (List ModelRoute)) :
    Prog.Alike butForTexts (ServedAlike Q) (search self requested_model request before_route call routes)
      (search self requested_model request' before_route call' routes) := by
  apply (plain_alike (Prog.Asks.ofExcept routes)).bind
  intro routes _ hroutes
  cases hroutes
  apply (explore_alike hhook hrequest hcall routes).bind
  intro outcome outcome' houtcome
  cases houtcome with
  | inr hserved => exact .done hserved
  | inl hvisits => exact .raise (verdict_alike hvisits requested_model)

theorem generateOnce_alike (provider : String) (r r' : GenerationRequest) (h : RequestsAlike r r') :
    Prog.Alike butForTexts ResponsesAlike (generateOnce provider r) (generateOnce provider r') :=
  (Prog.Alike.ask (CommandsAlike.generate provider h)).bind fun _ _ hresult => .ofExcept hresult

def OpenedAlike (o o' : Opened) : Prop := ScriptsAlike ⟨o.events, o.ending⟩ ⟨o'.events, o'.ending⟩

theorem ofScript_alike {script script' : StreamScript} (h : ScriptsAlike script script') :
    EndsAlike HandledAlike OpenedAlike (Opened.ofScript script) (Opened.ofScript script') := by
  obtain ⟨events, ending⟩ := script
  obtain ⟨events', ending'⟩ := script'
  cases events with
  | nil =>
    have hevents : events' = [] := h.opened.mp rfl
    subst hevents
    have hending : EndsAlike HandledAlike (fun _ _ => True) ending ending' := h.ending
    cases ending with
    | ok u =>
      cases ending' with
      | ok u' => exact ⟨Iff.rfl, .nil, trivial⟩
      | error err' => exact hending.elim
    | error err =>
      cases ending' with
      | ok u' => exact hending.elim
      | error err' => exact hending
  | cons first rest =>
    cases events' with
    | nil => cases h.opened.mpr rfl
    | cons first' rest' => exact h

theorem openOnce_alike (provider : String) (r r' : GenerationRequest) (h : RequestsAlike r r') :
    Prog.Alike butForTexts OpenedAlike (openOnce provider r) (openOnce provider r') :=
  (Prog.Alike.ask (CommandsAlike.stream provider h)).bind fun _ _ hscript => .ofExcept (ofScript_alike hscript)

end Search

section Parts

variable {E : Type} {self : CreateResponse} {command command' : CreateResponseCommand}
  {response response' : GenerationResponse} {claimed : Option String}

theorem beforeRoute_alike (hcalls : CallsAlike command command') : beforeRoute command = beforeRoute command' := by
  unfold beforeRoute
  rw [hcalls.organization_id, hcalls.request.max_output_tokens]

theorem beforeRoute_plain (command : CreateResponseCommand) :
    ∀ hook ∈ some (beforeRoute command), ∀ route, (hook route).Asks Plain := by
  intro hook hmem route
  cases hmem
  apply (enforce_asks _).mono
  intro c hc
  cases c <;> trivial

/-- A usage row tells nothing but the call, the provider, the model and the usage. -/
theorem recordUsage_alike (hcalls : CallsAlike command command') (hresponse : ResponsesAlike response response')
    (provider_name : String) :
    Prog.Alike butForTexts Eq (self.recordUsage command provider_name response)
      (self.recordUsage command' provider_name response') := by
  have hsame : self.recordUsage command provider_name response = self.recordUsage command' provider_name response' := by
    unfold CreateResponse.recordUsage
    rw [hcalls.request_id, hcalls.organization_id, hcalls.api_key_id, hresponse.model, hresponse.usage]
  rw [hsame]
  apply plain_alike ((recordUsage_asks self command' provider_name response').mono _)
  intro c hc
  cases c <;> trivial

theorem recordGenerationSuccess_alike (hcalls : CallsAlike command command')
    (hresponse : ResponsesAlike response response') (outcome provider : String) (count_tokens : Bool) :
    Prog.Alike butForTexts Eq (recordGenerationSuccess command response outcome provider count_tokens)
      (recordGenerationSuccess command' response' outcome provider count_tokens) := by
  have hsame : recordGenerationSuccess command response outcome provider count_tokens =
      recordGenerationSuccess command' response' outcome provider count_tokens := by
    unfold recordGenerationSuccess
    rw [hcalls.request_id, hcalls.organization_id, hcalls.api_key_id, hresponse.id, hresponse.model,
      hresponse.usage]
  rw [hsame]
  apply plain_alike ((recordGenerationSuccess_asks command' response' outcome provider count_tokens).mono _)
  intro c hc
  cases c <;> trivial

theorem recordGenerationError_alike : Prog.Alike butForTexts Eq recordGenerationError recordGenerationError :=
  plain_alike ⟨trivial, fun _ => trivial⟩

theorem enforce_alike (hcalls : CallsAlike command command') : Prog.Alike butForTexts Eq
    (enforceOrganizationPolicy ⟨command.organization_id, command.request.model, command.request.max_output_tokens⟩)
    (enforceOrganizationPolicy
      ⟨command'.organization_id, command'.request.model, command'.request.max_output_tokens⟩) := by
  rw [hcalls.organization_id, hcalls.request.model, hcalls.request.max_output_tokens]
  apply plain_alike ((enforce_asks _).mono _)
  intro c hc
  cases c <;> trivial

theorem consume_alike (hcalls : CallsAlike command command') : Prog.Alike butForTexts Eq
    (self.rate_limiter.consume command.organization_id) (self.rate_limiter.consume command'.organization_id) := by
  rw [hcalls.organization_id]
  apply plain_alike ((consume_asks _ _).mono _)
  intro c hc
  cases c <;> trivial

theorem begin_alike (hcalls : CallsAlike command command') (key : String) : Prog.Alike butForTexts BeginsAlike
    (self.idempotency_store.begin command.organization_id key)
    (self.idempotency_store.begin command'.organization_id key) := by
  rw [hcalls.organization_id]
  apply Prog.Alike.call (CommandsAlike.same _)
  intro claim _ hclaim
  cases eq_of_heq hclaim
  cases claim with
  | error err => exact .done trivial
  | ok taken =>
    cases taken with
    | true => exact .done trivial
    | false =>
      apply Prog.Alike.call (CommandsAlike.same _)
      intro found found' hfound
      cases found with
      | error err =>
        cases found' with
        | error err' => exact .done trivial
        | ok raw' => exact hfound.elim
      | ok raw =>
        cases found' with
        | error err' => exact hfound.elim
        | ok raw' => exact .done (TextsAlike.record hfound _ _ rfl).begun

theorem lookUpCache_alike (hcalls : CallsAlike command command') :
    Prog.Alike butForTexts CachedAlike (self.lookUpCache command) (self.lookUpCache command') := by
  unfold CreateResponse.lookUpCache
  rw [hcalls.request.cache, hcalls.organization_id]
  split_ifs with hcache
  · apply Prog.Alike.call (CommandsAlike.redisGet (KeysAlike.cache _ _ _))
    intro found found' hfound
    cases found with
    | error err =>
      cases found' with
      | error err' => exact .done trivial
      | ok raw' => exact hfound.elim
    | ok raw =>
      cases found' with
      | error err' => exact hfound.elim
      | ok raw' => exact .done (TextsAlike.cached hfound _ _ rfl)
  · exact .done trivial

theorem storeInCache_alike (hcalls : CallsAlike command command') :
    Prog.Alike butForTexts Eq (self.storeInCache command response) (self.storeInCache command' response') := by
  unfold CreateResponse.storeInCache
  rw [hcalls.request.cache, hcalls.organization_id]
  split_ifs with hcache
  · apply Prog.Alike.call (CommandsAlike.redisSet (KeysAlike.cache _ _ _) _ _ _ _)
    intro _ _ _
    exact .done rfl
  · exact .done rfl

theorem completeClaim_alike (hcalls : CallsAlike command command') (claimed : Option String) :
    Prog.Alike butForTexts Eq (self.completeClaim command claimed response)
      (self.completeClaim command' claimed response') := by
  cases claimed with
  | none => exact .done rfl
  | some key =>
    unfold CreateResponse.completeClaim
    rw [hcalls.organization_id]
    apply Prog.Alike.call (CommandsAlike.redisSet (KeysAlike.same _) _ _ _ _)
    intro _ _ _
    exact .done rfl

theorem releaseClaim_alike (hcalls : CallsAlike command command') (claimed : Option String) :
    Prog.Alike butForTexts Eq (CreateResponse.releaseClaim command claimed)
      (CreateResponse.releaseClaim command' claimed) := by
  cases claimed with
  | none => exact .done rfl
  | some key =>
    unfold CreateResponse.releaseClaim
    rw [hcalls.organization_id]
    apply Prog.Alike.call (CommandsAlike.same _)
    intro found found' hfound
    cases found with
    | error err =>
      cases found' with
      | error err' => exact .done rfl
      | ok raw' => exact hfound.elim
    | ok raw =>
      cases found' with
      | error err' => exact hfound.elim
      | ok raw' =>
        have hheld := (TextsAlike.record hfound _ _ rfl).held
        by_cases hraw : raw = some statusInProgress
        · simp only [hraw, hheld.mp hraw, Prog.done_bind, ↓reduceIte]
          apply Prog.Alike.call (CommandsAlike.same _)
          intro _ _ _
          exact .done rfl
        · simp only [hraw, mt hheld.mpr hraw, Prog.done_bind, ↓reduceIte]
          exact .done rfl

end Parts

section Calls

variable {self : CreateResponse} {command command' : CreateResponseCommand} {claimed : Option String}

inductive EntriesAlike : Entry → Entry → Prop where
  | denied (decision : RateLimitDecision) : EntriesAlike (.denied decision) (.denied decision)
  | inProgress : EntriesAlike .inProgress .inProgress
  | completed {payload payload' : String} (h : PayloadsAlike payload payload') :
      EntriesAlike (.completed payload) (.completed payload')
  | cached (claimed : Option String) {payload payload' : String} (h : PayloadsAlike payload payload') :
      EntriesAlike (.cached claimed payload) (.cached claimed payload')
  | missed (claimed : Option String) : EntriesAlike (.missed claimed) (.missed claimed)

theorem lookUp_alike (hcalls : CallsAlike command command') (claimed : Option String) :
    Prog.Alike butForTexts EntriesAlike (lookUp self command claimed) (lookUp self command' claimed) := by
  apply (lookUpCache_alike hcalls).bind
  intro looked looked' hlooked
  cases looked with
  | none =>
    cases looked' with
    | none => exact .done (.missed claimed)
    | some payload' => exact hlooked.elim
  | some payload =>
    cases looked' with
    | none => exact hlooked.elim
    | some payload' => exact .done (.cached claimed hlooked)

theorem enter_alike (hcalls : CallsAlike command command') :
    Prog.Alike butForTexts EntriesAlike (enter self command) (enter self command') := by
  apply (consume_alike hcalls).bind
  intro decision _ hdecision
  cases hdecision
  cases decision.allowed with
  | false => exact .done (.denied decision)
  | true =>
    simp only [Bool.not_true, Bool.false_eq_true, ↓reduceIte]
    rw [hcalls.idempotency_key]
    cases command'.idempotency_key with
    | none => exact lookUp_alike hcalls none
    | some key =>
      apply (begin_alike hcalls key).bind
      intro begun begun' hbegun
      cases begun with
      | miss =>
        cases begun' with
        | miss => exact lookUp_alike hcalls (some key)
        | _ => exact hbegun.elim
      | inProgress =>
        cases begun' with
        | inProgress => exact .done .inProgress
        | _ => exact hbegun.elim
      | completed payload =>
        cases begun' with
        | completed payload' => exact .done (.completed hbegun)
        | _ => exact hbegun.elim

theorem finish_alike (hcalls : CallsAlike command command') (claimed : Option String)
    {execution execution' : ProviderExecutionResult} (hresponse : ResponsesAlike execution.response execution'.response)
    (hroute : execution.route = execution'.route) :
    Prog.Alike butForTexts ResponsesAlike (self.finish command claimed execution)
      (self.finish command' claimed execution') := by
  unfold CreateResponse.finish ProviderExecutionResult.providerName
  rw [hroute]
  apply (recordUsage_alike hcalls hresponse _).bind
  intro _ _ _
  apply (storeInCache_alike hcalls).bind
  intro _ _ _
  apply (completeClaim_alike hcalls claimed).bind
  intro _ _ _
  apply (recordGenerationSuccess_alike hcalls hresponse _ _ _).bind
  intro _ _ _
  exact .done hresponse

theorem generate_alike (hcalls : CallsAlike command command') (claimed : Option String) :
    Prog.Alike butForTexts ResponsesAlike (self.generate command claimed) (self.generate command' claimed) := by
  unfold CreateResponse.generate
  rw [execute_eq, execute_eq, beforeRoute_alike hcalls, hcalls.request.model]
  simp only [Prog.bind_eq, Prog.bind_assoc]
  apply (search_alike (beforeRoute_plain command') hcalls.request generateOnce_alike _ _).bind
  intro served served' hserved
  exact finish_alike hcalls claimed hserved.1 hserved.2

theorem deserialize_alike {payload payload' : String} (h : PayloadsAlike payload payload') :
    Prog.Alike butForTexts ResponsesAlike (Prog.ofExcept (deserializeResponse payload) : Action GenerationResponse)
      (Prog.ofExcept (deserializeResponse payload') : Action GenerationResponse) :=
  Prog.Alike.ofExcept (L := butForTexts) h

theorem replay_alike (hcalls : CallsAlike command command') {payload payload' : String}
    (h : PayloadsAlike payload payload') : Prog.Alike butForTexts ResponsesAlike
      (CreateResponse.replay command payload) (CreateResponse.replay command' payload') := by
  apply (deserialize_alike h).bind
  intro response response' hresponse
  apply (recordGenerationSuccess_alike hcalls hresponse _ _ _).bind
  intro _ _ _
  exact .done hresponse

theorem serveCached_alike (hcalls : CallsAlike command command') (claimed : Option String)
    {payload payload' : String} (h : PayloadsAlike payload payload') : Prog.Alike butForTexts ResponsesAlike
      (self.serveCached command claimed payload) (self.serveCached command' claimed payload') := by
  apply (enforce_alike hcalls).bind
  intro _ _ _
  apply (deserialize_alike h).bind
  intro response response' hresponse
  have hcached : ResponsesAlike { response with cached := true } { response' with cached := true } :=
    ⟨hresponse.id, hresponse.model, hresponse.usage⟩
  apply (completeClaim_alike hcalls claimed).bind
  intro _ _ _
  apply (recordGenerationSuccess_alike hcalls hcached _ _ _).bind
  intro _ _ _
  exact .done hcached

theorem abandon_alike (hcalls : CallsAlike command command') (claimed : Option String) {err err' : Exn}
    (h : HandledAlike err err') : Prog.Alike butForTexts ResponsesAlike
      (CreateResponse.abandon command claimed err) (CreateResponse.abandon command' claimed err') := by
  apply (releaseClaim_alike hcalls claimed).bind
  intro _ _ _
  apply recordGenerationError_alike.bind
  intro _ _ _
  exact .raise h

theorem proceed_alike (hcalls : CallsAlike command command') {entry entry' : Entry} (h : EntriesAlike entry entry') :
    Prog.Alike butForTexts ResponsesAlike (proceed self command entry) (proceed self command' entry') := by
  cases h with
  | denied decision => exact recordGenerationError_alike.bind fun _ _ _ => .raise rfl
  | inProgress => exact recordGenerationError_alike.bind fun _ _ _ => .raise rfl
  | completed hpayload => exact replay_alike hcalls hpayload
  | cached claimed hpayload => exact serveCached_alike hcalls claimed hpayload
  | missed claimed =>
    exact (generate_alike hcalls claimed).catching fun _ _ herr => abandon_alike hcalls claimed herr

theorem execute_alike (self : CreateResponse) (hcalls : CallsAlike command command') :
    Prog.Alike butForTexts ResponsesAlike (self.execute command) (self.execute command') := by
  rw [execute_eq_enter, execute_eq_enter]
  exact (enter_alike hcalls).bind fun _ _ hentry => proceed_alike hcalls hentry

variable {route : ModelRoute} {ending ending' : Except Exn Unit}

/-- The deltas of either stream are passed on without a command; the responses are accounted alike in turn. -/
theorem passOnAll_alike (hcalls : CallsAlike command command') {events events' : List GenerationStreamEvent}
    (hresponses : List.Forall₂ ResponsesAlike (events.filterMap GenerationStreamEvent.response?)
      (events'.filterMap GenerationStreamEvent.response?))
    (hending : EndsAlike HandledAlike (fun _ _ => True) ending ending') :
    Prog.Alike butForTexts (fun _ _ => True) (passOnAll self command route events ending)
      (passOnAll self command' route events' ending') := by
  induction events generalizing events' with
  | nil =>
    induction events' with
    | nil =>
      rw [passOnAll_nil, passOnAll_nil]
      exact Prog.Alike.ofExcept (L := butForTexts) hending
    | cons event' events' ih =>
      cases event' with
      | delta d' => exact .right (ih hresponses)
      | response r' => cases hresponses
  | cons event events ih =>
    cases event with
    | delta d => exact .left (ih hresponses)
    | response r =>
      induction events' with
      | nil => cases hresponses
      | cons event' events' ih' =>
        cases event' with
        | delta d' => exact .right (ih' hresponses)
        | response r' =>
          obtain ⟨hresponse, hrest⟩ := List.forall₂_cons.mp hresponses
          rw [passOnAll_response, passOnAll_response]
          apply (recordUsage_alike hcalls hresponse _).lift.bind
          intro _ _ _
          apply (recordGenerationSuccess_alike hcalls hresponse _ _ _).lift.bind
          intro _ _ _
          exact .left (.right (ih hrest))

theorem stream_alike (self : CreateResponse) (hcalls : CallsAlike command command') :
    Prog.Alike butForTexts (fun _ _ => True) (self.stream command) (self.stream command') := by
  rw [stream_eq_passOnAll, stream_eq_passOnAll, hcalls.idempotency_key]
  split_ifs with hkey
  · exact .raise rfl
  · apply (consume_alike hcalls).lift.bind
    intro decision _ hdecision
    cases hdecision
    cases decision.allowed with
    | false => exact .raise rfl
    | true =>
      simp only [Bool.not_true, Bool.false_eq_true, ↓reduceIte]
      rw [beforeRoute_alike hcalls, hcalls.request.model]
      apply ((search_alike (beforeRoute_plain command') hcalls.request openOnce_alike _ _).attempt).lift.bind
      intro opened opened' hopened
      cases opened with
      | ok served =>
        cases opened' with
        | ok served' =>
          obtain ⟨opened, route⟩ := served
          obtain ⟨opened', route'⟩ := served'
          obtain ⟨hscript, hroute⟩ := hopened
          cases hroute
          exact passOnAll_alike hcalls hscript.responses hscript.ending
        | error err' => exact hopened.elim
      | error err =>
        cases opened' with
        | ok served' => exact hopened.elim
        | error err' => exact .raise hopened

end Calls

section Runs

variable {self : CreateResponse} {command command' : CreateResponseCommand}

inductive EntryPoint where
  | execute
  | stream

/-- What was asked and answered in a run of an entry point, however it ended. -/
inductive RunOf (self : CreateResponse) (command : CreateResponseCommand) :
    EntryPoint → List (Step Command Response) → Prop where
  | execute {t : List (Observation Empty)} {o : Except Exn GenerationResponse}
      (h : Prog.Exec (self.execute command) t o) : RunOf self command .execute (Obs.steps t)
  | stream {t : List (Observation GenerationStreamEvent)} {o : Except Exn Unit}
      (h : Prog.Exec (self.stream command) t o) : RunOf self command .stream (Obs.steps t)

theorem runs_alike {entry : EntryPoint} {ss ss' : List (Step Command Response)}
    (hcalls : CallsAlike command command') (h : RunOf self command entry ss) (h' : RunOf self command' entry ss')
    (hsame : butForTexts.SameAnswers ss ss') : List.Forall₂ butForTexts.Steps ss ss' := by
  cases h with
  | execute hexec =>
    cases h' with
    | execute hexec' => exact ((execute_alike self hcalls).traces hexec hexec' hsame).1
  | stream hexec =>
    cases h' with
    | stream hexec' => exact ((stream_alike self hcalls).traces hexec hexec' hsame).1

/-- Two calls that differ in their texts only, and whose collaborators answer alike, write the same usage
and audit rows and change the same counters, on every path of both entry points. -/
theorem records_carry_no_content (self : CreateResponse) (entry : EntryPoint)
    {command command' : CreateResponseCommand} {ss ss' : List (Step Command Response)}
    (hcalls : CallsAlike command command') (h : RunOf self command entry ss) (h' : RunOf self command' entry ss')
    (hsame : butForTexts.SameAnswers ss ss') : durable ss = durable ss' :=
  durable_alike (runs_alike hcalls h h' hsame)

end Runs

section Samples

theorem unlimited_ok : (none : Option ℤ).all (0 < ·) = true := rfl

/-- Collaborators that refuse nothing and find nothing, and providers that stream one delta. -/
def obliging (delta : GenerationDelta) (response : GenerationResponse) : (c : Command) → Response c
  | .time => 0
  | .utcNow => noon
  | .uuid4 => uuid 100
  | .redisSet .. => .ok true
  | .redisGet _ => .ok none
  | .redisDelete _ => .ok ()
  | .redisTokenBucket .. => .ok (true, 0)
  | .listEntitlements _ => .ok []
  | .getPolicy organization_id => .ok ⟨organization_id, none, unlimited_ok⟩
  | .sumTokens .. => .ok 0
  | .addUsage _ => .ok ()
  | .addAudit _ => .ok ()
  | .hook _ => .ok ()
  | .resolve _ => ()
  | .generate .. => .ok response
  | .stream .. => ⟨[.delta delta, .response response], .ok ()⟩
  | .sleep _ => ()
  | .increment .. => ()

theorem obliging_alike {d d' : GenerationDelta} {r r' : GenerationResponse} (h : ResponsesAlike r r')
    (c c' : Command) (hc : CommandsAlike c c') : AnswersAlike c c' (obliging d r c) (obliging d' r' c') := by
  have hscript : ScriptsAlike ⟨[.delta d, .response r], .ok ()⟩ ⟨[.delta d', .response r'], .ok ()⟩ :=
    ⟨⟨nofun, nofun⟩, .cons h .nil, trivial⟩
  have htexts : ∀ key, TextsAlike key none none := fun _ => ⟨fun _ _ _ => ⟨Iff.rfl, trivial⟩, fun _ _ _ => trivial⟩
  cases hc with
  | same c =>
    cases c with
    | redisGet key => exact htexts key
    | generate provider request => exact h
    | stream provider request => exact hscript
    | _ => exact HEq.rfl
  | redisSet _ _ _ _ _ => exact HEq.rfl
  | redisGet _ => exact htexts _
  | generate _ _ => exact h
  | stream _ _ => exact hscript

def delta (content : String) (h : GenerationDelta.problem "chatcmpl-1" "gpt-4o-2024-08-06" content = none) :
    GenerationDelta := ⟨"chatcmpl-1", "gpt-4o-2024-08-06", content, h⟩

def replying (content : String) (h : Message.problem .assistant content none [] = none) : GenerationResponse :=
  { sampleResponse (some ⟨5, 2, rfl⟩) with output := ⟨.assistant, content, none, none, [], h⟩, ok := rfl }

def asking (content : String) (h : Message.problem .user content none [] = none) : GenerationRequest :=
  { plainRequest with messages := [⟨.user, content, none, none, [], h⟩], ok := rfl }

def callOf (request : GenerationRequest) : CreateResponseCommand := sampleCommand request (uuid 3) "req-1" none

def executed (request : GenerationRequest) (d : GenerationDelta) (r : GenerationResponse) :
    List (Step Command Response) :=
  Obs.steps ((sampleService.execute (callOf request)).run (Handler.table (obliging d r)).recording ((), [])).2.2

def streamed (request : GenerationRequest) (d : GenerationDelta) (r : GenerationResponse) :
    List (Step Command Response) :=
  Obs.steps ((sampleService.stream (callOf request)).run (Handler.table (obliging d r)).recording ((), [])).2.2

/-- Two conversations about different things leave the same five marks behind. -/
theorem merger_leaves_no_trace :
    (durable (executed (asking "Hello" rfl) (delta "Hi" rfl) (replying "Hi" rfl))).length = 5 ∧
      durable (executed (asking "Hello" rfl) (delta "Hi" rfl) (replying "Hi" rfl)) =
        durable (executed (asking "Our merger closes in May." rfl) (delta "Noted." rfl) (replying "Noted." rfl)) ∧
      durable (streamed (asking "Hello" rfl) (delta "Hi" rfl) (replying "Hi" rfl)) =
        durable (streamed (asking "Our merger closes in May." rfl) (delta "Noted." rfl) (replying "Noted." rfl)) := by
  have hcalls : CallsAlike (callOf (asking "Hello" rfl)) (callOf (asking "Our merger closes in May." rfl)) :=
    ⟨⟨rfl, rfl, rfl⟩, rfl, rfl, rfl, rfl⟩
  have hresponses : ResponsesAlike (replying "Hi" rfl) (replying "Noted." rfl) := ⟨rfl, rfl, rfl⟩
  have hanswers : ∀ c c', CommandsAlike c c' →
      AnswersAlike c c' (obliging (delta "Hi" rfl) (replying "Hi" rfl) c)
        (obliging (delta "Noted." rfl) (replying "Noted." rfl) c') := obliging_alike hresponses
  refine ⟨by decide +kernel, ?_, ?_⟩
  · exact records_carry_no_content sampleService .execute hcalls (.execute (Prog.exec_recorded _ _ _))
      (.execute (Prog.exec_recorded _ _ _))
      (Likeness.sameAnswers_of_tables butForTexts hanswers (Prog.table_answers _ _) (Prog.table_answers _ _))
  · exact records_carry_no_content sampleService .stream hcalls (.stream (Prog.exec_recorded _ _ _))
      (.stream (Prog.exec_recorded _ _ _))
      (Likeness.sameAnswers_of_tables butForTexts hanswers (Prog.table_answers _ _) (Prog.table_answers _ _))

end Samples

end AIRuntime.DurableRecords
