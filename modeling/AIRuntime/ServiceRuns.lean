import AIRuntime.EffectTriples
import AIRuntime.SharedStores
import AIRuntime.ResponseCreation
import AIRuntime.ExecutorSemantics

set_option autoImplicit false

/-!
Runs of the service: one call after the other against the shared stores. What a call does not share
(clocks, ids, policy rows, providers, failing servers) is given to it, one answer for each of its steps.
-/
namespace AIRuntime.ServiceRuns

open EffectPrograms Failures Identifiers GenerationContracts AccountingRecords PolicyRules Collaborators
  ExecutorSemantics SharedStores ResponseCreation

/-- The answers of one call, by the number of commands asked before. -/
structure Circumstances where
  time : ℕ → ℚ
  utcNow : ℕ → UtcInstant
  redisTime : ℕ → ℚ
  uuid4 : ℕ → UUID
  redisFault : ℕ → Fault RedisError
  databaseFault : ℕ → Fault Exn
  entitlements : ℕ → Except Exn (List ModelEntitlement)
  policy : ℕ → Except Exn OrganizationPolicy
  generate : ℕ → Except Exn GenerationResponse
  stream : ℕ → StreamScript

/-- A call on its way: the stores, how much it has asked and the events its consumer has seen. -/
structure Session where
  world : World
  tick : ℕ
  yielded : List GenerationStreamEvent

namespace Session

def start (w : World) : Session := ⟨w, 0, []⟩

def next (s : Session) : Session := { s with tick := s.tick + 1 }

def onRedis {α : Type} (s : Session) (given : Circumstances) (key : String)
    (act : ℚ → Option RedisEntry → Except RedisError α × Option RedisEntry) : Except RedisError α × Session :=
  let answered := (given.redisFault s.tick).apply s.world (s.world.onRedis key (act (given.redisTime s.tick)))
  (answered.1, { s.next with world := answered.2 })

def onDatabase {α : Type} (s : Session) (given : Circumstances) (act : World → Except Exn α × World) :
    Except Exn α × Session :=
  let answered := (given.databaseFault s.tick).apply s.world (act s.world)
  (answered.1, { s.next with world := answered.2 })

end Session

def answer (given : Circumstances) (s : Session) : (c : Command) → Response c × Session
  | .time => (given.time s.tick, s.next)
  | .utcNow => (given.utcNow s.tick, s.next)
  | .uuid4 => (given.uuid4 s.tick, s.next)
  | .redisSet key value nx ex => s.onRedis given key fun now => setCell now value nx ex
  | .redisGet key => s.onRedis given key getCell
  | .redisDelete key => s.onRedis given key fun _ => deleteCell
  | .redisTokenBucket key capacity refill_per_second clock requested =>
    s.onRedis given key fun now => evalBucketCell now capacity refill_per_second clock requested
  | .listEntitlements _ => (given.entitlements s.tick, s.next)
  | .getPolicy _ => (given.policy s.tick, s.next)
  | .sumTokens organization_id start stop =>
    s.onDatabase given fun w => (.ok (sumTokensInPeriod w.usage_records.rows organization_id start stop), w)
  | .addUsage record => s.onDatabase given (World.addUsage · record)
  | .addAudit event => s.onDatabase given (World.addAudit · event)
  | .hook _ => (.ok (), s.next)
  | .resolve _ => ((), s.next)
  | .generate _ _ => (given.generate s.tick, s.next)
  | .stream _ _ => (given.stream s.tick, s.next)
  | .sleep _ => ((), s.next)
  | .increment _ _ _ => ((), s.next)

def collaborators (given : Circumstances) : Handler Command Response Empty Session where
  answer := answer given
  emit := fun _ e => e.elim

def streaming (given : Circumstances) : Handler Command Response GenerationStreamEvent Session where
  answer := answer given
  emit := fun s e => { s with yielded := s.yielded ++ [e] }

inductive Call where
  | execute (command : CreateResponseCommand)
  | stream (command : CreateResponseCommand)

def Call.command : Call → CreateResponseCommand
  | .execute command => command
  | .stream command => command

/-- What a client gets: a response, or the events of a stream and how it ended. -/
inductive Outcome where
  | responded (result : Except Exn GenerationResponse)
  | streamed (events : List GenerationStreamEvent) (ending : Except Exn Unit)

def Outcome.error? : Outcome → Option Exn
  | .responded (.error err) => some err
  | .streamed _ (.error err) => some err
  | _ => none

structure Arrival where
  call : Call
  given : Circumstances

section Performing

variable (service : CreateResponse)

def perform (arrival : Arrival) (w : World) : Outcome × World :=
  match arrival.call with
  | .execute command =>
    let ended := (service.execute command).run (collaborators arrival.given) (.start w)
    (.responded ended.1, ended.2.world)
  | .stream command =>
    let ended := (service.stream command).run (streaming arrival.given) (.start w)
    (.streamed ended.2.yielded ended.1, ended.2.world)

/-- Calls one after the other: each with what it came to, and the stores at the end. -/
def performAll : List Arrival → World → List (Arrival × Outcome) × World
  | [], w => ([], w)
  | arrival :: rest, w =>
    let first := perform service arrival w
    let later := performAll rest first.2
    ((arrival, first.1) :: later.1, later.2)

/-- A monitor of the commands of a call: how it is reset when the call starts, and how an answered
command changes what it keeps. -/
structure Monitor (G : Type) where
  reset : G → G
  step : Arrival → Session → (c : Command) → Response c → Session → G → G

variable {G : Type} (monitor : Monitor G)

def observe (arrival : Arrival) (w : World) (g : G) : Outcome × World × G :=
  match arrival.call with
  | .execute command =>
    let ended := (service.execute command).run
      ((collaborators arrival.given).watched (monitor.step arrival)) (.start w, monitor.reset g)
    (.responded ended.1, ended.2.1.world, ended.2.2)
  | .stream command =>
    let ended := (service.stream command).run
      ((streaming arrival.given).watched (monitor.step arrival)) (.start w, monitor.reset g)
    (.streamed ended.2.1.yielded ended.1, ended.2.1.world, ended.2.2)

/-- A call of a run, with the stores and the monitor before and after it. -/
structure Observed (G : Type) where
  arrival : Arrival
  before : World × G
  outcome : Outcome
  after : World × G

def observeAll : List Arrival → World → G → List (Observed G) × World × G
  | [], w, g => ([], w, g)
  | arrival :: rest, w, g =>
    let first := observe service monitor arrival w g
    let later := observeAll rest first.2.1 first.2.2
    (⟨arrival, (w, g), first.1, first.2⟩ :: later.1, later.2)

theorem observe_perform (arrival : Arrival) (w : World) (g : G) :
    (observe service monitor arrival w g).1 = (perform service arrival w).1 ∧
      (observe service monitor arrival w g).2.1 = (perform service arrival w).2 := by
  unfold observe perform
  cases arrival.call with
  | execute command =>
    obtain ⟨hr, hs⟩ := Prog.run_watched (collaborators arrival.given) (monitor.step arrival)
      (service.execute command) (.start w) (monitor.reset g)
    exact ⟨congrArg Outcome.responded hr, congrArg Session.world hs⟩
  | stream command =>
    obtain ⟨hr, hs⟩ := Prog.run_watched (streaming arrival.given) (monitor.step arrival)
      (service.stream command) (.start w) (monitor.reset g)
    refine ⟨?_, congrArg Session.world hs⟩
    change Outcome.streamed _ _ = Outcome.streamed _ _
    rw [hr, hs]

variable {service monitor}

theorem observe_execute {arrival : Arrival} {command : CreateResponseCommand} (hcall : arrival.call = .execute command)
    {Q : Except Exn GenerationResponse → Session × G → Prop} {w : World} {g : G}
    (h : (service.execute command).wp ((collaborators arrival.given).watched (monitor.step arrival)).environment
      ((collaborators arrival.given).watched (monitor.step arrival)).emit Q (.start w, monitor.reset g)) :
    ∃ r s, observe service monitor arrival w g = (.responded r, s.1.world, s.2) ∧ Q r s := by
  unfold observe
  rw [hcall]
  exact ⟨_, _, rfl, Prog.wp_run.mp h⟩

theorem observe_stream {arrival : Arrival} {command : CreateResponseCommand} (hcall : arrival.call = .stream command)
    {Q : Except Exn Unit → Session × G → Prop} {w : World} {g : G}
    (h : (service.stream command).wp ((streaming arrival.given).watched (monitor.step arrival)).environment
      ((streaming arrival.given).watched (monitor.step arrival)).emit Q (.start w, monitor.reset g)) :
    ∃ r s, observe service monitor arrival w g = (.streamed s.1.yielded r, s.1.world, s.2) ∧ Q r s := by
  unfold observe
  rw [hcall]
  exact ⟨_, _, rfl, Prog.wp_run.mp h⟩

theorem observe_keeps {I : G → Prop} (hreset : ∀ g, I g → I (monitor.reset g))
    (hstep : ∀ arrival s c r s' g, I g → I (monitor.step arrival s c r s' g)) (arrival : Arrival) (w : World) {g : G}
    (hg : I g) : I (observe service monitor arrival w g).2.2 := by
  unfold observe
  cases arrival.call with
  | execute command =>
    exact Prog.run_invariant (fun s : Session × G => I s.2) (fun s c _ hs => hstep arrival s.1 c _ _ s.2 hs)
      (fun _ _ hs => hs) (Prog.Asks.any _) (hreset g hg)
  | stream command =>
    exact Prog.run_invariant (fun s : Session × G => I s.2) (fun s c _ hs => hstep arrival s.1 c _ _ s.2 hs)
      (fun _ _ hs => hs) (Prog.Asks.any _) (hreset g hg)

theorem observeAll_keeps {I : G → Prop} (hreset : ∀ g, I g → I (monitor.reset g))
    (hstep : ∀ arrival s c r s' g, I g → I (monitor.step arrival s c r s' g)) (arrivals : List Arrival) (w : World)
    {g : G} (hg : I g) : I (observeAll service monitor arrivals w g).2.2 := by
  induction arrivals generalizing w g with
  | nil => exact hg
  | cons arrival rest ih => exact ih _ (observe_keeps hreset hstep arrival w hg)

/-- The rule for runs: `Inv` holds between the calls, `Post` of every one of them, provided the monitor
does not end in `Bad`, which it never leaves. -/
theorem observeAll_each (Bad : G → Prop) (hreset : ∀ g, Bad g → Bad (monitor.reset g))
    (hstep : ∀ arrival s c r s' g, Bad g → Bad (monitor.step arrival s c r s' g)) (Inv : World × G → Prop)
    (Post : Observed G → Prop) {arrivals : List Arrival}
    (hcall : ∀ arrival ∈ arrivals, ∀ w g, Inv (w, g) → ¬Bad (observe service monitor arrival w g).2.2 →
      Inv (observe service monitor arrival w g).2 ∧
        Post ⟨arrival, (w, g), (observe service monitor arrival w g).1, (observe service monitor arrival w g).2⟩)
    {w : World} {g : G} (hstart : Inv (w, g)) (hend : ¬Bad (observeAll service monitor arrivals w g).2.2) :
    ∀ o ∈ (observeAll service monitor arrivals w g).1, Post o := by
  induction arrivals generalizing w g with
  | nil => exact fun o ho => nomatch ho
  | cons arrival rest ih =>
    have hgood : ¬Bad (observe service monitor arrival w g).2.2 :=
      fun hbad => hend (observeAll_keeps hreset hstep rest _ hbad)
    obtain ⟨hinv, hpost⟩ := hcall arrival List.mem_cons_self w g hstart hgood
    intro o ho
    simp only [observeAll, List.mem_cons] at ho
    rcases ho with rfl | ho
    · exact hpost
    · exact ih (fun a ha => hcall a (List.mem_cons_of_mem arrival ha)) hinv hend o ho

end Performing

section Answers

variable (given : Circumstances) (s : Session)

@[simp] theorem Session.next_world : s.next.world = s.world := rfl

@[simp] theorem Session.next_tick : s.next.tick = s.tick + 1 := rfl

@[simp] theorem Session.next_yielded : s.next.yielded = s.yielded := rfl

theorem answer_tick (c : Command) : (answer given s c).2.tick = s.tick + 1 := by
  cases c <;> rfl

end Answers

section Samples

/-- The service with its default catalogs and settings, for concrete runs; its models have no price. -/
def sampleService : CreateResponse where
  provider_executor := defaultExecutor
  cost_estimator := fun _ _ _ => .ok none
  rate_limiter := ⟨60, 60⟩
  idempotency_store := ⟨86400⟩
  response_cache := ⟨3600⟩
  sha256 := fun _ => "f24ff6fbd7d0ae0e4f0cb01fb5a2ad9a0ab7c1a3e1b4c2d5e6f708192a3b4c5d"

def emptyWorld : World := ⟨fun _ => none, ⟨[], List.Pairwise.nil⟩, ⟨[], List.Pairwise.nil⟩⟩

def uuid (n : ℕ) : UUID := ⟨Fin.ofNat (2 ^ 128) n⟩

theorem noon_ok : CivilTime.fieldsOk 2026 3 14 12 0 0 0 = true := by decide

theorem noon_utc : (⟨2026, 3, 14, 12, 0, 0, 0, some 0, noon_ok⟩ : CivilTime.DateTime).utcoffset = some 0 := rfl

def noon : UtcInstant := ⟨⟨2026, 3, 14, 12, 0, 0, 0, some 0, noon_ok⟩, noon_utc⟩

def sampleResponse (usage : Option TokenUsage) : GenerationResponse where
  id := "chatcmpl-1"
  model := "gpt-4o-2024-08-06"
  output := ⟨.assistant, "Hello!", none, none, [], by decide⟩
  usage := usage
  cached := false
  ok := by decide

/-- Nothing fails, nothing is limited, and every provider answers with `response`; the ids drawn are a
hundred from `seed` on. -/
def calm (seed : ℕ) (organization_id : UUID) (response : GenerationResponse) : Circumstances where
  time := fun _ => 0
  utcNow := fun _ => noon
  redisTime := fun _ => 0
  uuid4 := fun tick => uuid (seed + tick % 100)
  redisFault := fun _ => .none
  databaseFault := fun _ => .none
  entitlements := fun _ => .ok []
  policy := fun _ => .ok ⟨organization_id, none, rfl⟩
  generate := fun _ => .ok response
  stream := fun _ => ⟨[.response response], .ok ()⟩

def plainRequest : GenerationRequest := askFor "gpt-4o" gpt4o_nonBlank

def cachedRequest : GenerationRequest := { plainRequest with cache := true, ok := by decide }

def sampleCommand (request : GenerationRequest) (organization_id : UUID) (request_id : String)
    (idempotency_key : Option String) : CreateResponseCommand :=
  ⟨request, request_id, organization_id, uuid 1, idempotency_key⟩

end Samples

end AIRuntime.ServiceRuns
