import AIRuntime.RequestContext
import AIRuntime.ResponseScopes
import AIRuntime.ServiceRuns
import AIRuntime.UsageAccounting

set_option autoImplicit false

/-!
The tokens that providers deliver against the tokens on record. A monitor counts what a call
consumes, and notices tokens that have no cost, or whose row does not reach its table.
-/
namespace AIRuntime.UsageConservation

open EffectPrograms PythonText Failures CivilTime Identifiers GenerationContracts ModelRouting AccountingRecords
  PolicyRules Collaborators ProviderExecution RouteSearch SearchRules ExecutorSemantics PolicyEnforcement
  RedisAdapters ResponsePayloads SharedStores ResponseCreation ResponseScopes ServiceRuns UsageAccounting

/-- What the current call consumed, whether it found a completed record or a cached payload to answer
with, and whether any call so far lost tokens. -/
structure Consumption where
  consumed : ℤ
  reused : Bool
  lost : Bool

def eventTokens (events : List GenerationStreamEvent) : ℤ :=
  ((events.findSome? GenerationStreamEvent.response?).map tokensOf).getD 0

def unpriced (service : CreateResponse) (provider : String) (response : GenerationResponse) : Bool :=
  tokensOf response ≠ 0 && !estimated service.cost_estimator provider response.model response.usage

def eventsUnpriced (service : CreateResponse) (provider : String) (events : List GenerationStreamEvent) : Bool :=
  (events.findSome? GenerationStreamEvent.response?).any (unpriced service provider)

/-- Whether an insert reaches the table: the server acts on it, and no row there has its `id` or its
`request_id`. -/
def reachesTable (given : Circumstances) (s : Session) (record : UsageRecord) : Bool :=
  match given.databaseFault s.tick with
  | .refused _ => false
  | _ => s.world.usage_records.rows.all fun a => !usageClash a record

/-- Whether a text under a Redis key answers the request. -/
def answers (cache_key key text : String) : Bool :=
  key = cache_key ||
    match RedisIdempotencyStore.readRecord (some text) with
    | .completed _ => true
    | _ => false

def consumption (service : CreateResponse) : Monitor Consumption where
  reset := fun g => { g with consumed := 0, reused := false }
  step := fun arrival s c r _ g =>
    match c, r with
    | .generate provider _, .ok response =>
      { g with consumed := g.consumed + tokensOf response, lost := g.lost || unpriced service provider response }
    | .stream provider _, script =>
      { g with
        consumed := g.consumed + eventTokens script.events
        lost := g.lost || eventsUnpriced service provider script.events }
    | .addUsage record, _ =>
      { g with lost := g.lost || (record.tokens ≠ 0 && !reachesTable arrival.given s record) }
    | .redisGet key, .ok (some text) =>
      { g with reused := g.reused || answers (cacheKey service arrival.call.command) key text }
    | _, _ => g

section Books

def During (given : Circumstances) (start stop : DateTime) : Prop :=
  ∀ tick, start ≤ (given.utcNow tick).val ∧ (given.utcNow tick).val < stop

/-- Since `w` the organization's tokens have grown by `k`, in every period around the call, and nobody
else's have changed. -/
def Grown (given : Circumstances) (organization_id : UUID) (w : World) (k : ℤ) (w' : World) : Prop :=
  ∀ o start stop, During given start stop →
    sumTokensInPeriod w'.usage_records.rows o start stop =
      sumTokensInPeriod w.usage_records.rows o start stop + if o = organization_id then k else 0

variable {given : Circumstances} {organization_id : UUID} {w w₁ w₂ : World}

theorem Grown.refl (given : Circumstances) (organization_id : UUID) (w : World) :
    Grown given organization_id w 0 w := by
  intro o start stop _
  rw [ite_self, add_zero]

theorem Grown.of_rows {k : ℤ} (h : Grown given organization_id w k w₁) (hw : w₂.usage_records = w₁.usage_records) :
    Grown given organization_id w k w₂ := by
  unfold Grown
  rw [hw]
  exact h

theorem Grown.insert {record : UsageRecord} {tick : ℕ} (h : Grown given organization_id w 0 w₁)
    (hrows : w₂.usage_records.rows = w₁.usage_records.rows ++ [record])
    (horg : record.organization_id = organization_id) (hat : record.created_at = (given.utcNow tick).val) :
    Grown given organization_id w record.tokens w₂ := by
  intro o start stop hduring
  rw [hrows, sumTokensInPeriod_append, h o start stop hduring, ite_self, add_zero]
  obtain ⟨hstart, hstop⟩ := hduring tick
  by_cases ho : o = organization_id
  · rw [if_pos ⟨horg.trans ho.symm, hat ▸ hstart, hat ▸ hstop⟩, if_pos ho]
  · rw [if_neg fun hin => ho (hin.1.symm.trans horg), if_neg ho]

end Books

section Parts

variable {service : CreateResponse} {arrival : Arrival} {s : Session × Consumption}

abbrev watched (service : CreateResponse) (arrival : Arrival) :
    Handler Command Response Empty (Session × Consumption) :=
  (collaborators arrival.given).watched ((consumption service).step arrival)

/-- The row came to the table in one step of the call, which the monitor has nothing to say about. -/
structure Entered (arrival : Arrival) (response : GenerationResponse) (s s' : Session × Consumption) : Prop where
  row : ∃ record tick, RowOf arrival.call.command response (arrival.given.utcNow tick) record ∧
    (∀ a ∈ s.1.world.usage_records.rows, usageClash a record = false) ∧
    s'.1.world.usage_records.rows = s.1.world.usage_records.rows ++ [record]
  ghost : s'.2 = s.2

/-- No row came to the table; the monitor notices a row with tokens here, and tokens without a cost before. -/
structure Missed (service : CreateResponse) (provider : String) (response : GenerationResponse)
    (s s' : Session × Consumption) : Prop where
  rows : s'.1.world.usage_records = s.1.world.usage_records
  consumed : s'.2.consumed = s.2.consumed
  lost : s.2.lost = true → s'.2.lost = true
  noticed : tokensOf response ≠ 0 → unpriced service provider response = false → s'.2.lost = true

theorem insert_reaches {given : Circumstances} {s : Session} {record : UsageRecord}
    (h : reachesTable given s record = true) :
    (∀ a ∈ s.world.usage_records.rows, usageClash a record = false) ∧
      (answer given s (.addUsage record)).2.world.usage_records.rows = s.world.usage_records.rows ++ [record] := by
  have hinsert : (∀ a ∈ s.world.usage_records.rows, usageClash a record = false) →
      (s.world.addUsage record).2.usage_records.rows = s.world.usage_records.rows ++ [record] := by
    intro hfree
    obtain ⟨table, htable⟩ := Table.insert_isSome hfree
    unfold World.addUsage
    rw [htable]
    exact Table.insert_some htable
  have hfree : (s.world.usage_records.rows.all fun a => !usageClash a record) = true →
      ∀ a ∈ s.world.usage_records.rows, usageClash a record = false := by
    intro hall a ha
    simpa using List.all_eq_true.mp hall a ha
  unfold reachesTable at h
  simp only [answer, Session.onDatabase]
  cases hfault : given.databaseFault s.tick with
  | refused err =>
    rw [hfault] at h
    cases h
  | none =>
    rw [hfault] at h
    exact ⟨hfree h, hinsert (hfree h)⟩
  | unanswered err =>
    rw [hfault] at h
    exact ⟨hfree h, hinsert (hfree h)⟩

theorem insert_misses {given : Circumstances} {s : Session} {record : UsageRecord}
    (h : reachesTable given s record = false) :
    (answer given s (.addUsage record)).2.world.usage_records = s.world.usage_records ∧
      ∃ err, (answer given s (.addUsage record)).1 = (.error err : Except Exn Unit) := by
  have hrefused : (s.world.usage_records.rows.all fun a => !usageClash a record) = false →
      s.world.addUsage record = (.error integrityError, s.world) := by
    intro hall
    unfold World.addUsage
    cases hins : s.world.usage_records.insert record with
    | none => rfl
    | some table =>
      have hfree := Table.insert_free hins
      rw [List.all_eq_true.mpr fun a ha => by rw [hfree a ha]; rfl] at hall
      cases hall
  unfold reachesTable at h
  simp only [answer, Session.onDatabase]
  cases hfault : given.databaseFault s.tick with
  | refused err => exact ⟨rfl, err, rfl⟩
  | none =>
    rw [hfault] at h
    rw [hrefused h]
    exact ⟨rfl, _, rfl⟩
  | unanswered err =>
    rw [hfault] at h
    rw [hrefused h]
    exact ⟨rfl, err, rfl⟩

theorem addUsage_wp {provider : String} {response : GenerationResponse} {row : UsageRecord} {tick : ℕ}
    (hrow : RowOf arrival.call.command response (arrival.given.utcNow tick) row) :
    ((Command.addUsage row).ask.bind Prog.ofExcept).wp (watched service arrival).environment
      (watched service arrival).emit
      (Prog.ends (fun _ s' => Entered arrival response s s')
        fun _ s' => Entered arrival response s s' ∨ Missed service provider response s s') s := by
  refine Prog.wp_answered (Prog.wp_ofExcept ?_)
  change Prog.ends _ _ (answer arrival.given s.1 (.addUsage row)).1 ((answer arrival.given s.1 (.addUsage row)).2,
    { s.2 with lost := s.2.lost || (row.tokens ≠ 0 && !reachesTable arrival.given s.1 row) })
  cases hreaches : reachesTable arrival.given s.1 row with
  | true =>
    obtain ⟨hfree, hrows⟩ := insert_reaches hreaches
    have hentered : Entered arrival response s ((answer arrival.given s.1 (.addUsage row)).2,
        { s.2 with lost := s.2.lost || (row.tokens ≠ 0 && !true) }) := by
      refine ⟨⟨row, tick, hrow, hfree, hrows⟩, ?_⟩
      simp only [Bool.not_true, Bool.and_false, Bool.or_false]
    cases (answer arrival.given s.1 (.addUsage row)).1 with
    | ok u => exact hentered
    | error err => exact .inl hentered
  | false =>
    obtain ⟨hrows, err, herr⟩ := insert_misses hreaches
    rw [herr]
    refine .inr ⟨hrows, rfl, fun hlost => ?_, fun htokens _ => ?_⟩
    · simp only [hlost, Bool.true_or]
    · rw [← hrow.tokens] at htokens
      simp [htokens]

theorem recordUsage_wp (hid : isBlank arrival.call.command.request_id = false) {provider : String}
    (hprovider : requireNonBlank provider "provider" = none) (response : GenerationResponse) :
    (service.recordUsage arrival.call.command provider response).wp (watched service arrival).environment
      (watched service arrival).emit
      (Prog.ends (fun _ s' => Entered arrival response s s')
        fun _ s' => Entered arrival response s s' ∨ Missed service provider response s s') s := by
  cases hestimated : estimated service.cost_estimator provider response.model response.usage with
  | true =>
    obtain ⟨record, hrecord, heq⟩ := recordUsage_eq hestimated hid hprovider
    rw [heq]
    refine Prog.wp_answered (Prog.wp_answered ?_)
    exact Prog.wp_mono (Prog.ends_mono (fun _ _ h => ⟨h.row, h.ghost⟩)
      fun _ _ h => h.imp (fun h => ⟨h.row, h.ghost⟩) fun h => ⟨h.rows, h.consumed, h.lost, h.noticed⟩)
      (addUsage_wp (hrecord _ _))
  | false =>
    have hnoticed : tokensOf response ≠ 0 → unpriced service provider response = true := by
      intro htokens
      simp [unpriced, htokens, hestimated]
    rcases recordUsage_refused hestimated with ⟨err, -, heq⟩ | ⟨-, message, heq⟩
    · rw [heq]
      exact .inr ⟨rfl, rfl, fun hlost => hlost, fun htokens hpriced => nomatch hpriced.symm.trans (hnoticed htokens)⟩
    · rw [heq]
      refine Prog.wp_answered (Prog.wp_answered ?_)
      exact .inr ⟨rfl, rfl, fun hlost => hlost, fun htokens hpriced => nomatch hpriced.symm.trans (hnoticed htokens)⟩

structure Keeps (s s' : Session × Consumption) : Prop where
  rows : s'.1.world.usage_records = s.1.world.usage_records
  consumed : s'.2.consumed = s.2.consumed
  lost : s'.2.lost = s.2.lost

theorem Keeps.refl (s : Session × Consumption) : Keeps s s := ⟨rfl, rfl, rfl⟩

def Unspent : Command → Prop
  | .generate _ _ => False
  | .stream _ _ => False
  | .addUsage _ => False
  | _ => True

theorem onRedis_usage {α : Type} (given : Circumstances) (s : Session) (key : String)
    (act : ℚ → Option RedisEntry → Except RedisError α × Option RedisEntry) :
    (s.onRedis given key act).2.world.usage_records = s.world.usage_records := by
  unfold Session.onRedis
  cases given.redisFault s.tick <;> rfl

theorem onDatabase_usage {α : Type} (given : Circumstances) (s : Session) {act : World → Except Exn α × World}
    (hact : (act s.world).2.usage_records = s.world.usage_records) :
    (s.onDatabase given act).2.world.usage_records = s.world.usage_records := by
  unfold Session.onDatabase
  cases given.databaseFault s.tick with
  | refused err => rfl
  | none => exact hact
  | unanswered err => exact hact

theorem answer_usage (given : Circumstances) (s : Session) {c : Command} (hc : Unspent c) :
    (answer given s c).2.world.usage_records = s.world.usage_records := by
  cases c with
  | redisSet key value nx ex => exact onRedis_usage given s key _
  | redisGet key => exact onRedis_usage given s key _
  | redisDelete key => exact onRedis_usage given s key _
  | redisTokenBucket key capacity refill clock requested => exact onRedis_usage given s key _
  | sumTokens o start stop =>
    exact @onDatabase_usage ℤ given s
      (fun w => (.ok (sumTokensInPeriod w.usage_records.rows o start stop), w)) rfl
  | addAudit event =>
    refine onDatabase_usage given s ?_
    unfold World.addAudit
    cases s.world.audit_events.insert event <;> rfl
  | addUsage record => exact hc.elim
  | _ => rfl

theorem answer_keeps {c : Command} (hc : Unspent c) (s : Session × Consumption) :
    Keeps s ((watched service arrival).answer s c).2 := by
  have hrows := answer_usage arrival.given s.1 hc
  have hghost : ∀ r : Response c,
      ((consumption service).step arrival s.1 c r (answer arrival.given s.1 c).2 s.2).consumed =
      s.2.consumed ∧ ((consumption service).step arrival s.1 c r (answer arrival.given s.1 c).2 s.2).lost =
      s.2.lost := by
    intro r
    cases c with
    | generate provider request => exact hc.elim
    | stream provider request => exact hc.elim
    | addUsage record => exact hc.elim
    | redisGet key =>
      cases r with
      | error err => exact ⟨rfl, rfl⟩
      | ok found => cases found <;> exact ⟨rfl, rfl⟩
    | _ => exact ⟨rfl, rfl⟩
  exact ⟨hrows, (hghost _).1, (hghost _).2⟩

theorem unspent_wp {α : Type} {p : Action α} (hp : p.Asks Unspent) {I : Session × Consumption → Prop}
    (hI : ∀ s s', Keeps s s' → I s → I s') (hs : I s) :
    p.wp (watched service arrival).environment (watched service arrival).emit
      (Prog.ends (fun _ => I) fun _ => I) s :=
  Prog.wp_frame (fun _ hc s => answer_keeps hc s) hp hI hs

end Parts

section Calls

variable {service : CreateResponse} {arrival : Arrival} {w : World} {s : Session × Consumption}

def Delivered (arrival : Arrival) (w : World) (k : ℤ) (s : Session × Consumption) : Prop :=
  Grown arrival.given arrival.call.command.organization_id w 0 s.1.world ∧ s.2.consumed = k

def Noticed (missing : Bool) (s : Session × Consumption) : Prop := missing = true → s.2.lost = true

/-- What was consumed is recorded, or tokens were lost. -/
def Settled (arrival : Arrival) (w : World) (s : Session × Consumption) : Prop :=
  s.2.lost = true ∨ Grown arrival.given arrival.call.command.organization_id w s.2.consumed s.1.world

theorem Delivered.keeps {k : ℤ} (s s' : Session × Consumption) (h : Keeps s s') (hs : Delivered arrival w k s) :
    Delivered arrival w k s' :=
  ⟨hs.1.of_rows h.rows, h.consumed.trans hs.2⟩

theorem Settled.keeps (s s' : Session × Consumption) (h : Keeps s s') (hs : Settled arrival w s) :
    Settled arrival w s' := by
  refine hs.imp (fun hlost => h.lost.trans hlost) fun hgrown => ?_
  rw [h.consumed]
  exact hgrown.of_rows h.rows

theorem Delivered.settled (hs : Delivered arrival w 0 s) : Settled arrival w s := by
  refine .inr ?_
  rw [hs.2]
  exact hs.1

theorem Entered.settled {response : GenerationResponse} {s' : Session × Consumption}
    (hs : Delivered arrival w (tokensOf response) s) (h : Entered arrival response s s') : Settled arrival w s' := by
  obtain ⟨record, tick, hrow, hfree, hrows⟩ := h.row
  have hgrown := hs.1.insert hrows hrow.organization_id hrow.created_at
  rw [hrow.tokens, ← hs.2, ← congrArg Consumption.consumed h.ghost] at hgrown
  exact .inr hgrown

theorem Missed.settled {provider : String} {response : GenerationResponse} {s' : Session × Consumption}
    (hs : Delivered arrival w (tokensOf response) s) (hpriced : Noticed (unpriced service provider response) s)
    (h : Missed service provider response s s') : Settled arrival w s' := by
  by_cases htokens : tokensOf response = 0
  · refine Delivered.settled ⟨hs.1.of_rows h.rows, ?_⟩
    rw [h.consumed, hs.2, htokens]
  · cases hunpriced : unpriced service provider response with
    | true => exact .inl (h.lost (hpriced hunpriced))
    | false => exact .inl (h.noticed htokens hunpriced)

theorem admits_unspent (command : CreateResponseCommand) (route : ModelRoute) :
    (admits (some (beforeRoute command)) route).Asks Unspent := by
  refine admits_asks (fun hook hhook route => ?_) route
  cases hhook
  refine (enforce_asks _).mono fun c hc => ?_
  cases c <;> trivial

theorem OnKey.unspent {key : String} {c : Command} (h : OnKey key c) : Unspent c := by
  cases c <;> trivial

theorem Reports.unspent {organization_id : UUID} {c : Command} (h : Reports organization_id c) : Unspent c := by
  cases c <;> trivial

variable {command : CreateResponseCommand}

theorem consume_unspent (limiter : RedisRateLimiter) (organization_id : UUID) :
    (limiter.consume organization_id).Asks Unspent :=
  (consume_asks _ _).mono fun c _ => by cases c <;> trivial

theorem completeClaim_unspent (claimed : Option String) (response : GenerationResponse) :
    (service.completeClaim command claimed response).Asks Unspent := by
  cases claimed with
  | none => trivial
  | some key => exact (complete_asks _ _ _ _).mono fun _ => OnKey.unspent

theorem success_unspent (response : GenerationResponse) (outcome provider : String) (count_tokens : Bool) :
    (recordGenerationSuccess command response outcome provider count_tokens).Asks Unspent :=
  (recordGenerationSuccess_reports _ response outcome provider count_tokens).mono fun _ => Reports.unspent

theorem serveCached_unspent (claimed : Option String) (payload : String) :
    (service.serveCached command claimed payload).Asks Unspent := by
  refine Prog.Asks.bind ((enforce_asks _).mono fun c hc => ?_) fun _ => Prog.Asks.bind (Prog.Asks.ofExcept _) fun _ =>
    Prog.Asks.bind (completeClaim_unspent claimed _) fun _ =>
      Prog.Asks.bind (success_unspent _ _ _ _) fun _ => trivial
  cases c <;> trivial

theorem replay_unspent (payload : String) : (CreateResponse.replay command payload).Asks Unspent :=
  Prog.Asks.bind (Prog.Asks.ofExcept _) fun _ => Prog.Asks.bind (success_unspent _ _ _ _) fun _ => trivial

end Calls

section Streams

variable {service : CreateResponse} {arrival : Arrival} {w : World} {s : Session × Consumption}

abbrev emits (service : CreateResponse) (arrival : Arrival) :
    Session × Consumption → GenerationStreamEvent → Session × Consumption :=
  ((streaming arrival.given).watched ((consumption service).step arrival)).emit

theorem lifted_wp {α : Type} {p : Action α} {Q : Except Exn α → Session × Consumption → Prop}
    (h : p.wp (watched service arrival).environment (watched service arrival).emit Q s) :
    (p.lift : Gen GenerationStreamEvent α).wp (watched service arrival).environment (emits service arrival) Q s :=
  Prog.wp_lift h

def Recorded (arrival : Arrival) (s : Session × Consumption) : Prop :=
  ∃ a ∈ s.1.world.usage_records.rows, a.request_id = arrival.call.command.request_id

/-- Between two events of a route: the final response is still to come, or its row is in. -/
def Streaming (service : CreateResponse) (arrival : Arrival) (w : World) (route : ModelRoute)
    (items : List ProviderStreamEvent) (s : Session × Consumption) : Prop :=
  (∀ item ∈ items, item.route = route) ∧
    ((Delivered arrival w (eventTokens (items.map (·.payload))) s ∧
      Noticed (eventsUnpriced service route.provider (items.map (·.payload))) s) ∨
        (Settled arrival w s ∧ Recorded arrival s))

theorem Entered.recorded {response : GenerationResponse} {s' : Session × Consumption}
    (h : Entered arrival response s s') : Recorded arrival s' := by
  obtain ⟨record, tick, hrow, hfree, hrows⟩ := h.row
  refine ⟨record, ?_, hrow.request_id⟩
  rw [hrows]
  exact List.mem_append_right _ List.mem_cons_self

theorem Recorded.not_entered {response : GenerationResponse} {s' : Session × Consumption}
    (hs : Recorded arrival s) : ¬Entered arrival response s s' := by
  intro h
  obtain ⟨record, tick, hrow, hfree, hrows⟩ := h.row
  obtain ⟨a, ha, hid⟩ := hs
  have hclash := hfree a ha
  unfold usageClash at hclash
  rw [hid, ← hrow.request_id] at hclash
  simp at hclash

theorem Missed.settled_again {provider : String} {response : GenerationResponse} {s' : Session × Consumption}
    (hs : Settled arrival w s) (h : Missed service provider response s s') : Settled arrival w s' := by
  refine hs.imp h.lost fun hgrown => ?_
  rw [h.consumed]
  exact hgrown.of_rows h.rows

theorem Streaming.settled {route : ModelRoute} (hs : Streaming service arrival w route [] s) : Settled arrival w s :=
  hs.2.elim (fun h => h.1.settled) And.left

theorem recordStreamed_wp (hid : isBlank arrival.call.command.request_id = false) {provider : String}
    (hprovider : requireNonBlank provider "provider" = none) (response : GenerationResponse)
    (hs : (Delivered arrival w (tokensOf response) s ∧ Noticed (unpriced service provider response) s) ∨
      (Settled arrival w s ∧ Recorded arrival s)) :
    (service.recordUsage arrival.call.command provider response).wp (watched service arrival).environment
      (watched service arrival).emit
      (Prog.ends (fun _ s' => Settled arrival w s' ∧ Recorded arrival s') fun _ => Settled arrival w) s := by
  refine Prog.wp_mono (Prog.ends_mono (fun _ s' h => ?_) fun _ s' h => ?_)
    (recordUsage_wp hid hprovider response)
  · rcases hs with hs | ⟨-, hrecorded⟩
    · exact ⟨h.settled hs.1, h.recorded⟩
    · exact (hrecorded.not_entered h).elim
  · rcases hs with hs | ⟨hs, hrecorded⟩
    · exact h.elim (fun h => h.settled hs.1) fun h => h.settled hs.1 hs.2
    · exact h.elim (fun h => (hrecorded.not_entered h).elim) fun h => h.settled_again hs

theorem passOn_wp (hid : isBlank arrival.call.command.request_id = false) {route : ModelRoute}
    (item : ProviderStreamEvent) (items : List ProviderStreamEvent)
    (hs : Streaming service arrival w route (item :: items) s) :
    (service.passOn arrival.call.command item).wp (watched service arrival).environment (emits service arrival)
      (Prog.ends (fun _ => Streaming service arrival w route items) fun _ => Settled arrival w) s := by
  obtain ⟨hroutes, hs⟩ := hs
  obtain ⟨hroute, hrest⟩ := List.forall_mem_cons.mp hroutes
  obtain ⟨payload, own⟩ := item
  cases hroute
  cases payload with
  | delta d => exact ⟨hrest, hs⟩
  | response response =>
    have hkeep : ∀ s s', Keeps s s' → Settled arrival w s ∧ Recorded arrival s →
        Settled arrival w s' ∧ Recorded arrival s' := by
      intro s s' h hs
      refine ⟨hs.1.keeps s s' h, ?_⟩
      unfold Recorded
      rw [h.rows]
      exact hs.2
    refine Prog.wp_seq (lifted_wp (recordStreamed_wp hid own.provider_ok response hs))
      (fun _ s hs => ?_) fun _ _ hs => hs
    exact Prog.wp_seq (lifted_wp (unspent_wp (success_unspent _ _ _ _) hkeep hs)) (fun _ _ hs => ⟨hrest, .inr hs⟩)
      fun _ _ hs => hs.1

end Streams

section Reuse

variable {service : CreateResponse} {arrival : Arrival} {s : Session × Consumption}

def Unused (s : Session × Consumption) : Prop := s.2.consumed = 0 ∧ s.2.reused = false

theorem reply_get {s' : Session × Consumption} {key : String} {found : Except RedisError (Option String)}
    (hr : (watched service arrival).environment.reply s (.redisGet key) found s') :
    s'.2 = { s.2 with reused := s.2.reused || match found with
      | .ok (some text) => answers (cacheKey service arrival.call.command) key text
      | _ => false } := by
  have hr' : (watched service arrival).answer s (.redisGet key) = (found, s') := hr
  have hfound : (answer arrival.given s.1 (.redisGet key)).1 = found := congrArg Prod.fst hr'
  have hghost : s'.2 = (consumption service).step arrival s.1 (.redisGet key)
      (answer arrival.given s.1 (.redisGet key)).1 (answer arrival.given s.1 (.redisGet key)).2 s.2 :=
    (congrArg (fun x => x.2.2) hr').symm
  rw [hghost, hfound]
  cases found with
  | error err => simp only [Bool.or_false]; rfl
  | ok got =>
    cases got with
    | none => simp only [Bool.or_false]; rfl
    | some text => rfl

/-- A `begin` that leaves the call to run has found no completed record. -/
theorem begin_wp (key : String) (hs : Unused s) :
    (service.idempotency_store.begin arrival.call.command.organization_id key).wp
      (watched service arrival).environment (watched service arrival).emit
      (Prog.ends (fun begun s' => s'.2.consumed = 0 ∧ (begun = .miss → Unused s')) fun _ _ => True) s := by
  refine Prog.wp_bind ⟨trivial, fun claimed s₁ hr => ?_⟩
  have hs₁ : Unused s₁ := by
    have hr' : (watched service arrival).answer s (.redisSet _ _ _ _) = (claimed, s₁) := hr
    have hghost : s₁.2 = s.2 := (congrArg (fun x => x.2.2) hr').symm
    unfold Unused
    rw [hghost]
    exact hs
  cases claimed with
  | error err => exact ⟨hs₁.1, fun _ => hs₁⟩
  | ok taken =>
    cases taken with
    | true => exact ⟨hs₁.1, fun _ => hs₁⟩
    | false =>
      refine Prog.wp_bind ⟨trivial, fun got s₂ hr₂ => ?_⟩
      have hghost := reply_get hr₂
      have hconsumed : s₂.2.consumed = 0 := (congrArg Consumption.consumed hghost).trans hs₁.1
      have hreused := congrArg Consumption.reused hghost
      have hne : RedisIdempotencyStore.redisKey arrival.call.command.organization_id key ≠
          cacheKey service arrival.call.command := idempotencyKey_ne_cacheKey _ _ _ _
      cases got with
      | error err => exact ⟨hconsumed, fun _ => ⟨hconsumed, by rw [hreused, hs₁.2]; rfl⟩⟩
      | ok raw =>
        cases raw with
        | none => exact ⟨hconsumed, fun _ => ⟨hconsumed, by rw [hreused, hs₁.2]; rfl⟩⟩
        | some text =>
          refine ⟨hconsumed, fun hmiss => ⟨hconsumed, ?_⟩⟩
          rw [hreused, hs₁.2]
          simp only [answers, hne, decide_false, Bool.false_or]
          rw [hmiss]

theorem lookUpCache_wp (hs : Unused s) :
    (service.lookUpCache arrival.call.command).wp (watched service arrival).environment
      (watched service arrival).emit
      (Prog.ends (fun looked s' => s'.2.consumed = 0 ∧ (looked = none → Unused s')) fun _ _ => True) s := by
  unfold CreateResponse.lookUpCache
  split_ifs
  · refine Prog.wp_bind ⟨trivial, fun found s' hr => ?_⟩
    have hghost := reply_get hr
    have hconsumed : s'.2.consumed = 0 := (congrArg Consumption.consumed hghost).trans hs.1
    have hreused := congrArg Consumption.reused hghost
    cases found with
    | error err => exact ⟨hconsumed, fun _ => ⟨hconsumed, by rw [hreused, hs.2]; rfl⟩⟩
    | ok got =>
      cases got with
      | none => exact ⟨hconsumed, fun _ => ⟨hconsumed, by rw [hreused, hs.2]; rfl⟩⟩
      | some text => exact ⟨hconsumed, fun h => nomatch h⟩
  · exact ⟨hs.1, fun _ => hs⟩

end Reuse

section Runs

/-- A call adds what it consumed to the records of its organization, in every period around it, and nothing
to anybody else's; a replay and a cache hit add nothing. -/
structure Conserves (o : Observed Consumption) : Prop where
  grown : Grown o.arrival.given o.arrival.call.command.organization_id o.before.1 o.after.2.consumed o.after.1
  reused : ∀ response, o.outcome = .responded (.ok response) → o.after.2.reused = true → o.after.2.consumed = 0

def MonthOf (given : Circumstances) (start stop : DateTime) : Prop :=
  ∀ tick, currentMonthUtcBounds (given.utcNow tick).val = .ok (start, stop)

theorem Conserves.month {o : Observed Consumption} (h : Conserves o) {start stop : DateTime}
    (hmonth : MonthOf o.arrival.given start stop) :
    sumTokensInPeriod o.after.1.usage_records.rows o.arrival.call.command.organization_id start stop =
      sumTokensInPeriod o.before.1.usage_records.rows o.arrival.call.command.organization_id start stop +
        o.after.2.consumed := by
  have hgrown := h.grown o.arrival.call.command.organization_id start stop
    fun tick => currentMonthUtcBounds_contains (hmonth tick)
  rw [if_pos rfl] at hgrown
  exact hgrown

def tenTokens : GenerationResponse := sampleResponse (some ⟨7, 3, rfl⟩)

def pricedService : CreateResponse := { sampleService with cost_estimator := staticCostEstimator }

end Runs

end AIRuntime.UsageConservation
