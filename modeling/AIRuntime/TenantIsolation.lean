import AIRuntime.ResponseScopes
import AIRuntime.ServiceRuns

set_option autoImplicit false

/-!
What one organization can notice of the others: two runs of the service, one with everybody's calls
and one with only its own.
-/
namespace AIRuntime.TenantIsolation

open EffectPrograms Failures Identifiers GenerationContracts AccountingRecords Collaborators RedisAdapters
  SharedStores ResponseCreation ResponseScopes ServiceRuns

def ownUsage (organization_id : UUID) (record : UsageRecord) : Bool := record.organization_id = organization_id

def ownAudit (organization_id : UUID) (event : AuditEvent) : Bool := event.organization_id = some organization_id

def ownCall (organization_id : UUID) (arrival : Arrival) : Bool :=
  arrival.call.command.organization_id = organization_id

/-- The stores look the same to the organization: its Redis keys, its usage rows, its audit rows. -/
structure SameView (organization_id : UUID) (w w' : World) : Prop where
  redis : ∀ key, OwnedBy organization_id key → w.redis key = w'.redis key
  usage : w.usage_records.rows.filter (ownUsage organization_id) =
    w'.usage_records.rows.filter (ownUsage organization_id)
  audit : w.audit_events.rows.filter (ownAudit organization_id) =
    w'.audit_events.rows.filter (ownAudit organization_id)

/-- Deleting the others' calls changes neither what its calls come to nor what it sees of the stores. -/
def Undisturbed (service : CreateResponse) (organization_id : UUID) (arrivals : List Arrival) (w : World) : Prop :=
  let together := performAll service arrivals w
  let alone := performAll service (arrivals.filter (ownCall organization_id)) w
  together.1.filter (fun o => ownCall organization_id o.1) = alone.1 ∧
    SameView organization_id together.2 alone.2

/-- The command inserts a row of the organization that a stored row of somebody else stands in the
way of: one with its `request_id`, or with its primary key. -/
def meetsForeignRow (organization_id : UUID) (w : World) : Command → Bool
  | .addUsage record => ownUsage organization_id record &&
    w.usage_records.rows.any fun a => !ownUsage organization_id a && usageClash a record
  | .addAudit event => ownAudit organization_id event &&
    w.audit_events.rows.any fun a => !ownAudit organization_id a && auditClash a event
  | _ => false

def foreignRows (organization_id : UUID) : Monitor Bool where
  reset := id
  step := fun _ s c _ _ met => met || meetsForeignRow organization_id s.world c

section Steps

/-- The second world is the first one less some rows and keys of others. -/
structure Shadows (organization_id : UUID) (w w' : World) : Prop where
  redis : ∀ key, OwnedBy organization_id key → w.redis key = w'.redis key
  usage : Table.Agrees (ownUsage organization_id) w.usage_records w'.usage_records
  audit : Table.Agrees (ownAudit organization_id) w.audit_events w'.audit_events

variable {organization_id : UUID}

theorem Shadows.refl (w : World) : Shadows organization_id w w :=
  ⟨fun _ _ => rfl, Table.Agrees.refl _ _, Table.Agrees.refl _ _⟩

theorem Shadows.view {w w' : World} (h : Shadows organization_id w w') : SameView organization_id w w' :=
  ⟨h.redis, h.usage.own, h.audit.own⟩

structure Alike (organization_id : UUID) (s t : Session) : Prop where
  tick : s.tick = t.tick
  yielded : s.yielded = t.yielded
  world : Shadows organization_id s.world t.world

theorem Alike.next {s t : Session} (h : Alike organization_id s t) : Alike organization_id s.next t.next := by
  refine ⟨?_, h.yielded, h.world⟩
  simp only [Session.next_tick, h.tick]

theorem onRedis_alike {α : Type} {s t : Session} (given : Circumstances) {key : String}
    (act : ℚ → Option RedisEntry → Except RedisError α × Option RedisEntry) (h : Alike organization_id s t)
    (hkey : OwnedBy organization_id key) :
    (s.onRedis given key act).1 = (t.onRedis given key act).1 ∧
      Alike organization_id (s.onRedis given key act).2 (t.onRedis given key act).2 := by
  unfold Session.onRedis World.onRedis
  rw [h.tick]
  obtain ⟨hr, hcells⟩ := RedisServer.onKey_agree (act (given.redisTime t.tick)) (h.world.redis key hkey)
  cases given.redisFault t.tick with
  | refused err => exact ⟨rfl, by rw [Session.next_tick, Session.next_tick, h.tick], h.yielded, h.world⟩
  | none =>
    exact ⟨hr, by rw [Session.next_tick, Session.next_tick, h.tick], h.yielded,
      fun k hk => hcells k (h.world.redis k hk), h.world.usage, h.world.audit⟩
  | unanswered err =>
    exact ⟨rfl, by rw [Session.next_tick, Session.next_tick, h.tick], h.yielded,
      fun k hk => hcells k (h.world.redis k hk), h.world.usage, h.world.audit⟩

theorem onDatabase_alike {α : Type} {s t : Session} (given : Circumstances) {act : World → Except Exn α × World}
    (h : Alike organization_id s t) (hact : (act s.world).1 = (act t.world).1)
    (hworld : Shadows organization_id (act s.world).2 (act t.world).2) :
    (s.onDatabase given act).1 = (t.onDatabase given act).1 ∧
      Alike organization_id (s.onDatabase given act).2 (t.onDatabase given act).2 := by
  have htick : s.next.tick = t.next.tick := h.next.tick
  unfold Session.onDatabase
  rw [h.tick]
  cases given.databaseFault t.tick with
  | refused err => exact ⟨rfl, htick, h.yielded, h.world⟩
  | none => exact ⟨hact, htick, h.yielded, hworld⟩
  | unanswered err => exact ⟨rfl, htick, h.yielded, hworld⟩

theorem addUsage_alike {w w' : World} {record : UsageRecord} (h : Shadows organization_id w w')
    (hown : ownUsage organization_id record = true)
    (hmet : meetsForeignRow organization_id w (.addUsage record) = false) :
    (w.addUsage record).1 = (w'.addUsage record).1 ∧
      Shadows organization_id (w.addUsage record).2 (w'.addUsage record).2 := by
  have hfree : ∀ a ∈ w.usage_records.rows, ownUsage organization_id a = false → usageClash a record = false := by
    intro a ha hother
    change (ownUsage organization_id record && w.usage_records.rows.any
      fun a => !ownUsage organization_id a && usageClash a record) = false at hmet
    rw [hown, Bool.true_and, List.any_eq_false] at hmet
    simpa [hother] using hmet a ha
  unfold World.addUsage
  rcases h.usage.insert hfree with ⟨hn, hn'⟩ | ⟨after, after', hs, hs', hafter⟩
  · rw [hn, hn']
    exact ⟨rfl, h⟩
  · rw [hs, hs']
    exact ⟨rfl, h.redis, hafter, h.audit⟩

theorem addAudit_alike {w w' : World} {event : AuditEvent} (h : Shadows organization_id w w')
    (hown : ownAudit organization_id event = true)
    (hmet : meetsForeignRow organization_id w (.addAudit event) = false) :
    (w.addAudit event).1 = (w'.addAudit event).1 ∧
      Shadows organization_id (w.addAudit event).2 (w'.addAudit event).2 := by
  have hfree : ∀ a ∈ w.audit_events.rows, ownAudit organization_id a = false → auditClash a event = false := by
    intro a ha hother
    change (ownAudit organization_id event && w.audit_events.rows.any
      fun a => !ownAudit organization_id a && auditClash a event) = false at hmet
    rw [hown, Bool.true_and, List.any_eq_false] at hmet
    simpa [hother] using hmet a ha
  unfold World.addAudit
  rcases h.audit.insert hfree with ⟨hn, hn'⟩ | ⟨after, after', hs, hs', hafter⟩
  · rw [hn, hn']
    exact ⟨rfl, h⟩
  · rw [hs, hs']
    exact ⟨rfl, h.redis, h.usage, hafter⟩

/-- A command of the organization is answered alike in both sessions, unless its insert meets a
foreign row. -/
theorem answer_alike {s t : Session} (given : Circumstances) {c : Command} (hc : Scoped organization_id c)
    (h : Alike organization_id s t) : meetsForeignRow organization_id s.world c = true ∨
      (answer given s c).1 = (answer given t c).1 ∧
        Alike organization_id (answer given s c).2 (answer given t c).2 := by
  cases hmet : meetsForeignRow organization_id s.world c with
  | true => exact .inl rfl
  | false =>
    right
    cases c with
    | redisSet key value nx ex => exact onRedis_alike given _ h hc
    | redisGet key => exact onRedis_alike given _ h hc
    | redisDelete key => exact onRedis_alike given _ h hc
    | redisTokenBucket key capacity refill clock requested => exact onRedis_alike given _ h hc
    | sumTokens o start stop =>
      have ho : o = organization_id := hc
      have hsum : sumTokensInPeriod s.world.usage_records.rows o start stop =
          sumTokensInPeriod t.world.usage_records.rows o start stop := by
        rw [ho, ← sumTokensInPeriod_own s.world.usage_records.rows,
          ← sumTokensInPeriod_own t.world.usage_records.rows]
        exact congrArg (fun rows => sumTokensInPeriod rows _ start stop) h.world.usage.own
      exact @onDatabase_alike organization_id ℤ s t given
        (fun w => (.ok (sumTokensInPeriod w.usage_records.rows o start stop), w)) h
        (congrArg Except.ok hsum) h.world
    | addUsage record =>
      obtain ⟨hr, hw⟩ := addUsage_alike h.world (decide_eq_true hc) hmet
      exact onDatabase_alike given h hr hw
    | addAudit event =>
      obtain ⟨hr, hw⟩ := addAudit_alike h.world (decide_eq_true hc) hmet
      exact onDatabase_alike given h hr hw
    | hook route => exact ⟨rfl, h.next⟩
    | resolve model => exact ⟨rfl, h.next⟩
    | sleep d => exact ⟨rfl, h.next⟩
    | increment name labels amount => exact ⟨rfl, h.next⟩
    | _ => exact ⟨by simp only [answer, h.tick], h.next⟩

end Steps

section Calls

variable {organization_id : UUID}

/-- An own call against two alike worlds: it ends alike, unless it met a foreign row. -/
theorem run_alike {E α : Type} {p : Prog Command Response E Exn α} (hp : p.Asks (Scoped organization_id))
    {arrival : Arrival} {h : Handler Command Response E Session} (ha : h.answer = answer arrival.given)
    (he : ∀ s t e, Alike organization_id s t → Alike organization_id (h.emit s e) (h.emit t e)) {s t : Session}
    {met : Bool} (hst : Alike organization_id s t) :
    (p.run (h.watched ((foreignRows organization_id).step arrival)) (s, met)).2.2 = true ∨
      (p.run (h.watched ((foreignRows organization_id).step arrival)) (s, met)).1 = (p.run h t).1 ∧
        Alike organization_id (p.run (h.watched ((foreignRows organization_id).step arrival)) (s, met)).2.1
          (p.run h t).2 := by
  refine Prog.run_related (fun sm : Session × Bool => sm.2 = true) (fun sm t => Alike organization_id sm.1 t)
    ?_ (fun _ _ hm => hm) ?_ (fun sm t e hrel => he sm.1 t e hrel) hp (.inr hst)
  · intro sm c hm
    change (sm.2 || _) = true
    rw [hm, Bool.true_or]
  · intro sm t c hc hrel
    change (sm.2 || meetsForeignRow organization_id sm.1.world c) = true ∨ (h.answer sm.1 c).1 = (h.answer t c).1 ∧
      Alike organization_id (h.answer sm.1 c).2 (h.answer t c).2
    rw [ha]
    rcases answer_alike arrival.given hc hrel with hmet | halike
    · left
      rw [hmet, Bool.or_true]
    · exact .inr halike

theorem start_alike {w w' : World} (h : Shadows organization_id w w') :
    Alike organization_id (.start w) (.start w') :=
  ⟨rfl, rfl, h⟩

theorem own_call (service : CreateResponse) {arrival : Arrival} (hown : ownCall organization_id arrival = true)
    {w w' : World} {met : Bool} (h : Shadows organization_id w w') :
    (observe service (foreignRows organization_id) arrival w met).2.2 = true ∨
      (observe service (foreignRows organization_id) arrival w met).1 = (perform service arrival w').1 ∧
        Shadows organization_id (observe service (foreignRows organization_id) arrival w met).2.1
          (perform service arrival w').2 := by
  have hstart := start_alike h
  have horg := of_decide_eq_true hown
  unfold observe perform
  cases hcall : arrival.call with
  | execute command =>
    rw [hcall] at horg
    have hscoped := execute_scoped service command
    rw [show command.organization_id = organization_id from horg] at hscoped
    rcases @run_alike _ _ _ _ hscoped arrival (collaborators arrival.given) rfl (fun _ _ e _ => e.elim) _ _ met
      hstart with hmet | ⟨hr, halike⟩
    · exact .inl hmet
    · exact .inr ⟨congrArg Outcome.responded hr, halike.world⟩
  | stream command =>
    rw [hcall] at horg
    have hscoped := stream_scoped service command
    rw [show command.organization_id = organization_id from horg] at hscoped
    have hemit : ∀ s t e, Alike organization_id s t →
        Alike organization_id ((streaming arrival.given).emit s e) ((streaming arrival.given).emit t e) := by
      intro s t e hst
      exact ⟨hst.tick, congrArg (· ++ [e]) hst.yielded, hst.world⟩
    rcases @run_alike _ _ _ _ hscoped arrival (streaming arrival.given) rfl hemit _ _ met hstart with
      hmet | ⟨hr, halike⟩
    · exact .inl hmet
    · exact .inr ⟨congrArg₂ Outcome.streamed halike.yielded hr, halike.world⟩

/-- A command of somebody else leaves the organization's view alone. -/
theorem answer_foreign {other : UUID} (hother : other ≠ organization_id) (given : Circumstances) {c : Command}
    (hc : Scoped other c) {s : Session} {w' : World} (h : Shadows organization_id s.world w') :
    Shadows organization_id (answer given s c).2.world w' := by
  have hredis : ∀ {α : Type} (key : String)
      (act : ℚ → Option RedisEntry → Except RedisError α × Option RedisEntry), OwnedBy other key →
      Shadows organization_id (s.onRedis given key act).2.world w' := by
    intro α key act hkey
    have hcells : ∀ k, OwnedBy organization_id k →
        (s.world.redis.onKey key (act (given.redisTime s.tick))).2 k = w'.redis k := by
      intro k hk
      rw [RedisServer.onKey_other _ _ fun heq => hother ((heq ▸ hkey).unique hk), h.redis k hk]
    unfold Session.onRedis World.onRedis
    cases given.redisFault s.tick with
    | refused err => exact h
    | none => exact ⟨hcells, h.usage, h.audit⟩
    | unanswered err => exact ⟨hcells, h.usage, h.audit⟩
  have hdatabase : ∀ {α : Type} (act : World → Except Exn α × World), Shadows organization_id (act s.world).2 w' →
      Shadows organization_id (s.onDatabase given act).2.world w' := by
    intro α act hact
    unfold Session.onDatabase
    cases given.databaseFault s.tick with
    | refused err => exact h
    | none => exact hact
    | unanswered err => exact hact
  cases c with
  | redisSet key value nx ex => exact hredis key _ hc
  | redisGet key => exact hredis key _ hc
  | redisDelete key => exact hredis key _ hc
  | redisTokenBucket key capacity refill clock requested => exact hredis key _ hc
  | sumTokens o start stop => exact hdatabase _ h
  | addUsage record =>
    refine hdatabase _ ?_
    have hrow : ownUsage organization_id record = false := by
      have ho : record.organization_id = other := hc
      exact decide_eq_false (by rw [ho]; exact hother)
    unfold World.addUsage
    cases hins : s.world.usage_records.insert record with
    | none => exact h
    | some after => exact ⟨h.redis, h.usage.insert_other hrow hins, h.audit⟩
  | addAudit event =>
    refine hdatabase _ ?_
    have hrow : ownAudit organization_id event = false := by
      have ho : event.organization_id = some other := hc
      exact decide_eq_false (by rw [ho]; exact fun heq => hother (Option.some.inj heq))
    unfold World.addAudit
    cases hins : s.world.audit_events.insert event with
    | none => exact h
    | some after => exact ⟨h.redis, h.usage, h.audit.insert_other hrow hins⟩
  | _ => exact h

theorem foreign_call (service : CreateResponse) {arrival : Arrival} (hown : ownCall organization_id arrival = false)
    {w w' : World} (h : Shadows organization_id w w') :
    Shadows organization_id (perform service arrival w).2 w' := by
  have hother := of_decide_eq_false hown
  unfold perform
  cases hcall : arrival.call with
  | execute command =>
    rw [hcall] at hother
    exact Prog.run_invariant (fun s : Session => Shadows organization_id s.world w')
      (fun s c hc hs => answer_foreign hother arrival.given hc hs) (fun _ e _ => e.elim)
      (execute_scoped service command) h
  | stream command =>
    rw [hcall] at hother
    exact Prog.run_invariant (fun s : Session => Shadows organization_id s.world w')
      (fun s c hc hs => answer_foreign hother arrival.given hc hs) (fun _ _ hs => hs)
      (stream_scoped service command) h

end Calls

section Runs

variable {organization_id : UUID}

theorem met_stays (service : CreateResponse) (arrivals : List Arrival) (w : World) :
    (observeAll service (foreignRows organization_id) arrivals w true).2.2 = true := by
  refine observeAll_keeps (I := fun met => met = true) (fun _ h => h) ?_ arrivals w rfl
  intro arrival s c r s' met h
  change (met || meetsForeignRow organization_id s.world c) = true
  rw [h, Bool.true_or]

/-- A run with everybody's calls shadows the run with only the organization's. -/
theorem runs_alike (service : CreateResponse) (arrivals : List Arrival) {w w' : World}
    (h : Shadows organization_id w w')
    (hfree : (observeAll service (foreignRows organization_id) arrivals w false).2.2 = false) :
    (performAll service arrivals w).1.filter (fun o => ownCall organization_id o.1) =
        (performAll service (arrivals.filter (ownCall organization_id)) w').1 ∧
      Shadows organization_id (performAll service arrivals w).2
        (performAll service (arrivals.filter (ownCall organization_id)) w').2 := by
  induction arrivals generalizing w w' with
  | nil => exact ⟨rfl, h⟩
  | cons arrival rest ih =>
    obtain ⟨hsame, hworld⟩ := observe_perform service (foreignRows organization_id) arrival w false
    have hfirst : (observe service (foreignRows organization_id) arrival w false).2.2 = false := by
      cases hm : (observe service (foreignRows organization_id) arrival w false).2.2 with
      | false => rfl
      | true =>
        simp only [observeAll] at hfree
        rw [hm, met_stays] at hfree
        cases hfree
    simp only [observeAll] at hfree
    rw [hfirst, hworld] at hfree
    cases hown : ownCall organization_id arrival with
    | true =>
      rcases @own_call _ service arrival hown w w' false h with hmet | ⟨hr, hw⟩
      · rw [hfirst] at hmet
        cases hmet
      · rw [hsame] at hr
        rw [hworld] at hw
        obtain ⟨hrest, hlast⟩ := ih hw hfree
        rw [List.filter_cons_of_pos hown]
        simp only [performAll]
        rw [List.filter_cons_of_pos (p := fun o : Arrival × Outcome => ownCall organization_id o.1) hown, hr,
          hrest]
        exact ⟨rfl, hlast⟩
    | false =>
      obtain ⟨hrest, hlast⟩ := ih (foreign_call service hown h) hfree
      rw [List.filter_cons_of_neg (by simp [hown])]
      simp only [performAll]
      rw [List.filter_cons_of_neg (by simp [hown])]
      exact ⟨hrest, hlast⟩

/-- In every run in which no insert of the organization's meets a row of somebody else, the others'
calls make no difference to it. -/
theorem undisturbed_unless_foreign_rows (service : CreateResponse) (organization_id : UUID)
    (arrivals : List Arrival) (w : World)
    (hfree : (observeAll service (foreignRows organization_id) arrivals w false).2.2 = false) :
    Undisturbed service organization_id arrivals w := by
  obtain ⟨hresults, hstores⟩ := runs_alike service arrivals (Shadows.refl w) hfree
  exact ⟨hresults, hstores.view⟩

/-- One call of each of two organizations, with the request identifiers their clients chose. -/
def twoCalls (first_request_id second_request_id : String) : List Arrival :=
  [⟨.execute (sampleCommand plainRequest (uuid 2) first_request_id none),
      calm 100 (uuid 2) (sampleResponse none)⟩,
    ⟨.execute (sampleCommand plainRequest (uuid 3) second_request_id none),
      calm 200 (uuid 3) (sampleResponse none)⟩]

theorem undisturbed_by_other_request_id :
    (observeAll sampleService (foreignRows (uuid 3)) (twoCalls "req-1" "req-2") emptyWorld false).2.2 = false ∧
      Undisturbed sampleService (uuid 3) (twoCalls "req-1" "req-2") emptyWorld :=
  ⟨by decide +kernel, undisturbed_unless_foreign_rows sampleService (uuid 3) (twoCalls "req-1" "req-2") emptyWorld
    (by decide +kernel)⟩

/-- No two rows may share a `request_id`, so the second call fails where it would have succeeded alone. -/
theorem disturbed_by_shared_request_id :
    ¬ Undisturbed sampleService (uuid 3) (twoCalls "req-1" "req-1") emptyWorld := by
  intro h
  have herrors := congrArg (List.map fun o => o.2.error?) h.1
  revert herrors
  decide +kernel

end Runs

end AIRuntime.TenantIsolation
