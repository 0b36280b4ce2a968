import AIRuntime.ResponseScopes
import AIRuntime.CacheAdmission

set_option autoImplicit false

/-!
Which model produced what a call returns, and whether the entitlements the call read allow it. A
monitor follows the content: from the provider, into the cache, and out of it again.
-/
namespace AIRuntime.EntitlementSafety

open EffectPrograms Failures Identifiers GenerationContracts ModelRouting PolicyRules Collaborators
  ProviderExecution RouteSearch SearchRules ExecutorSemantics PolicyEnforcement RedisAdapters ResponsePayloads
  SharedStores ResponseCreation ResponseScopes ServiceRuns CacheAdmission

/-- `origin` is the model whose route produced the payload under a Redis key. The other fields are about
the current call: the model that produced what it is about to return, the entitlement set it read last,
whether it found a completed idempotency record; and whether any call so far hit a payload from a model
that the set it read excludes. -/
structure Provenance where
  origin : String → String
  produced : Option String
  entitlements : Option (List String)
  replayed : Bool
  excludedHit : Bool

namespace Provenance

def Admits (model : String) (g : Provenance) : Prop :=
  ∃ entitlements, g.entitlements = some entitlements ∧ isModelAllowed model entitlements = true

/-- What the call returns came from a model that the entitlements it read allow. -/
def Entitled (g : Provenance) : Prop := ∃ model, g.produced = some model ∧ g.Admits model

instance (g : Provenance) : Decidable g.Entitled :=
  decidable_of_iff (g.produced.any (fun model => g.entitlements.any (isModelAllowed model)) = true) (by
    simp only [Option.any_eq_true, Entitled, Admits])

def reads (requested_model : String) (entitlements : List String) (g : Provenance) : Provenance :=
  { g with
    entitlements := some entitlements
    excludedHit := g.excludedHit || (isModelAllowed requested_model entitlements &&
      g.produced.any fun model => !isModelAllowed model entitlements) }

def finds (cache_key key text : String) (g : Provenance) : Provenance :=
  if key = cache_key then { g with produced := some (g.origin key) }
  else
    match RedisIdempotencyStore.readRecord (some text) with
    | .completed _ => { g with replayed := true }
    | _ => g

def stores (key : String) (g : Provenance) : Provenance :=
  match g.produced with
  | some model => { g with origin := fun k => if k = key then model else g.origin k }
  | none => g

end Provenance

def takesEffect (given : Circumstances) (s : Session) (key value : String) (nx : Bool) (ex : ℤ) : Bool :=
  match given.redisFault s.tick, (setCell (given.redisTime s.tick) value nx ex (s.world.redis key)).1 with
  | .refused _, _ => false
  | _, .ok written => written
  | _, .error _ => false

def provenance (service : CreateResponse) : Monitor Provenance where
  reset := fun g => { g with produced := none, entitlements := none, replayed := false }
  step := fun arrival s c r _ g =>
    match c, r with
    | .generate _ request, .ok _ => { g with produced := some request.model }
    | .listEntitlements _, .ok listed =>
      g.reads arrival.call.command.request.model (listed.map (·.model))
    | .redisGet key, .ok (some text) => g.finds (cacheKey service arrival.call.command) key text
    | .redisSet key value nx ex, _ => if takesEffect arrival.given s key value nx ex then g.stores key else g
    | _, _ => g

section Steps

structure Keeps (g g' : Provenance) : Prop where
  produced : g'.produced = g.produced
  entitlements : g'.entitlements = g.entitlements
  excludedHit : g'.excludedHit = g.excludedHit
  replayed : g.replayed = true → g'.replayed = true

theorem Keeps.refl (g : Provenance) : Keeps g g := ⟨rfl, rfl, rfl, id⟩

theorem Keeps.trans {g g' g'' : Provenance} (h : Keeps g g') (h' : Keeps g' g'') : Keeps g g'' :=
  ⟨h'.produced.trans h.produced, h'.entitlements.trans h.entitlements, h'.excludedHit.trans h.excludedHit,
    fun hr => h'.replayed (h.replayed hr)⟩

theorem Keeps.entitled {g g' : Provenance} (h : Keeps g g') (hg : g.Entitled) : g'.Entitled := by
  obtain ⟨model, hp, entitlements, he, hallowed⟩ := hg
  exact ⟨model, h.produced.trans hp, entitlements, h.entitlements.trans he, hallowed⟩

/-- A command that neither brings in content nor reads entitlements. -/
def Passive (cache_key : String) : Command → Prop
  | .generate _ _ => False
  | .listEntitlements _ => False
  | .redisGet key => key ≠ cache_key
  | _ => True

theorem stores_keeps (key : String) (g : Provenance) : Keeps g (g.stores key) := by
  obtain ⟨origin, produced, entitlements, replayed, excludedHit⟩ := g
  cases produced <;> exact ⟨rfl, rfl, rfl, id⟩

theorem finds_keeps {cache_key key : String} (hkey : key ≠ cache_key) (text : String) (g : Provenance) :
    Keeps g (g.finds cache_key key text) := by
  unfold Provenance.finds
  rw [if_neg hkey]
  cases RedisIdempotencyStore.readRecord (some text) <;> exact ⟨rfl, rfl, rfl, fun h => by simp [h]⟩

variable {service : CreateResponse} {arrival : Arrival}

theorem step_keeps {c : Command} (hc : Passive (cacheKey service arrival.call.command) c) (s s' : Session)
    (r : Response c) (g : Provenance) : Keeps g ((provenance service).step arrival s c r s' g) := by
  cases c with
  | generate provider request => exact hc.elim
  | listEntitlements o => exact hc.elim
  | redisGet key =>
    cases r with
    | error err => exact Keeps.refl g
    | ok found =>
      cases found with
      | none => exact Keeps.refl g
      | some text => exact finds_keeps hc text g
  | redisSet key value nx ex =>
    change Keeps g (if takesEffect arrival.given s key value nx ex then g.stores key else g)
    cases takesEffect arrival.given s key value nx ex with
    | true => exact stores_keeps key g
    | false => exact Keeps.refl g
  | _ => exact Keeps.refl g

abbrev watched (service : CreateResponse) (arrival : Arrival) :
    Handler Command Response Empty (Session × Provenance) :=
  (collaborators arrival.given).watched ((provenance service).step arrival)

theorem answer_keeps {c : Command} (hc : Passive (cacheKey service arrival.call.command) c) (s : Session × Provenance) :
    Keeps s.2 ((watched service arrival).answer s c).2.2 :=
  step_keeps hc s.1 (answer arrival.given s.1 c).2 (answer arrival.given s.1 c).1 s.2

theorem reply_step {s s' : Session × Provenance} {c : Command} {r : Response c}
    (hr : (watched service arrival).environment.reply s c r s') :
    s'.2 = (provenance service).step arrival s.1 c r s'.1 s.2 := by
  have hr' : (watched service arrival).answer s c = (r, s') := hr
  have hanswer : (answer arrival.given s.1 c).1 = r := congrArg Prod.fst hr'
  have hs' : s' = ((watched service arrival).answer s c).2 := (congrArg Prod.snd hr').symm
  rw [hs', ← hanswer]
  rfl

theorem reply_keeps {s s' : Session × Provenance} {c : Command} {r : Response c}
    (hc : Passive (cacheKey service arrival.call.command) c)
    (hr : (watched service arrival).environment.reply s c r s') : Keeps s.2 s'.2 :=
  Prog.reply_frame (K := fun s s' => Keeps s.2 s'.2) (answer_keeps hc) hr

theorem reply_get {s s' : Session × Provenance} {key : String}
    {found : Except RedisError (Option String)}
    (hr : (watched service arrival).environment.reply s (.redisGet key) found s') :
    s'.2 = match found with
      | .ok (some text) => s.2.finds (cacheKey service arrival.call.command) key text
      | _ => s.2 := by
  have hstep := reply_step hr
  cases found with
  | error err => exact hstep
  | ok got =>
    cases got with
    | none => exact hstep
    | some text => exact hstep

theorem produced_finds (key text : String) (g : Provenance) :
    (g.finds key key text).produced = some (g.origin key) := by
  unfold Provenance.finds
  rw [if_pos rfl]

/-- A part of a call that neither brings in content nor reads entitlements. -/
theorem passive_wp {α : Type} {p : Action α} (hp : p.Asks (Passive (cacheKey service arrival.call.command)))
    {I : Provenance → Prop} (hI : ∀ g g', Keeps g g' → I g → I g') {s : Session × Provenance} (hs : I s.2) :
    p.wp (watched service arrival).environment (watched service arrival).emit
      (Prog.ends (fun _ s' => I s'.2) fun _ s' => I s'.2) s :=
  Prog.wp_frame (fun _ hc s => answer_keeps hc s) hp (fun (s s' : Session × Provenance) => hI s.2 s'.2) hs

end Steps

section Parts

variable {service : CreateResponse} {arrival : Arrival} {s : Session × Provenance}

/-- A policy check that passes has read a set that allows the model. -/
theorem enforce_wp (organization_id : UUID) (model : String) (max_output_tokens : Option ℤ) :
    (enforceOrganizationPolicy ⟨organization_id, model, max_output_tokens⟩).wp (watched service arrival).environment
      (watched service arrival).emit
      (Prog.ends
        (fun _ s' => s'.2.produced = s.2.produced ∧ ∃ entitlements, isModelAllowed model entitlements = true ∧
          s'.2.entitlements = some entitlements ∧ s'.2.excludedHit =
            (s.2.reads arrival.call.command.request.model entitlements).excludedHit)
        fun _ s' => s'.2.produced = s.2.produced) s := by
  unfold enforceOrganizationPolicy
  simp only [Prog.bind_eq, Prog.ask_bind]
  refine Prog.wp_answered ?_
  change Prog.wp _ _ (Prog.bind (Prog.ofExcept (arrival.given.entitlements s.1.tick)) _) _
    (s.1.next, (provenance service).step arrival s.1 (.listEntitlements organization_id)
      (arrival.given.entitlements s.1.tick) s.1.next s.2)
  cases arrival.given.entitlements s.1.tick with
  | error err => exact rfl
  | ok listed =>
    simp only [Prog.ofExcept_ok, Prog.done_bind]
    cases hallowed : isModelAllowed model (listed.map (·.model)) with
    | false => exact rfl
    | true =>
      simp only [Bool.not_true, Bool.false_eq_true, ↓reduceIte]
      have hquota : (checkQuota ⟨organization_id, model, max_output_tokens⟩).Asks
          (Passive (cacheKey service arrival.call.command)) := by
        refine (checkQuota_asks _).mono fun c hc => ?_
        cases c <;> trivial
      refine Prog.wp_mono (Prog.ends_mono (fun _ s' hs' => ?_) fun _ s' hs' => ?_)
        (passive_wp hquota (I := Keeps (s.2.reads arrival.call.command.request.model (listed.map (·.model))))
          (fun _ _ h hg => hg.trans h) (Keeps.refl _))
      · exact ⟨hs'.produced, _, hallowed, hs'.entitlements, hs'.excludedHit⟩
      · exact hs'.produced

theorem admits_wp (route : ModelRoute) (hs : s.2.produced = none) :
    (admits (some (beforeRoute arrival.call.command)) route).wp (watched service arrival).environment
      (watched service arrival).emit
      (Prog.ends (fun admitted s' => if admitted then s'.2.produced = none ∧ s'.2.Admits route.model
        else s'.2.produced = none) fun _ s' => s'.2.produced = none) s := by
  refine Prog.wp_catching (Prog.wp_bind (Prog.wp_mono (Prog.ends_mono (fun _ s' hs' => ?_) fun err s' hs' => ?_)
    (enforce_wp _ _ _)))
  · obtain ⟨hproduced, entitlements, hallowed, hread, -⟩ := hs'
    exact ⟨hproduced.trans hs, entitlements, hread, hallowed⟩
  · have hnone := hs'.trans hs
    cases err <;> exact hnone

/-- The search ends with a response whose route's model the last entitlements read allow. -/
theorem execute_wp (self : ProviderExecutor) (request : GenerationRequest) (hs : s.2.produced = none) :
    (self.execute request.model request (some (beforeRoute arrival.call.command))).wp
      (watched service arrival).environment (watched service arrival).emit
      (Prog.ends (fun _ s' => s'.2.Entitled) fun _ s' => s'.2.produced = none) s := by
  rw [execute_eq]
  refine Prog.wp_bind (Prog.wp_mono (Prog.ends_mono (fun served s' hs' => ?_) fun _ _ hs' => hs')
    (search_wp (I := fun s' : Session × Provenance => s'.2.produced = none)
      (J := fun route s' => s'.2.produced = none ∧ s'.2.Admits route.model)
      (Q := fun _ route s' => s'.2.produced = some route.model ∧ s'.2.Admits route.model) ?_ hs))
  · exact ⟨_, hs'⟩
  · refine ⟨fun route s' hs' => admits_wp route hs', fun _ _ hs' => hs'.1, fun route => ?_, fun route d => ?_, ?_⟩
    · exact Prog.keeps_handler fun _ hs' => hs'
    · exact Prog.keeps_handler fun _ hs' => hs'
    · intro route s' hs'
      refine Prog.wp_bind (Prog.wp_answered ?_)
      change Prog.ends _ _ (.ok (arrival.given.generate s'.1.tick)) (s'.1.next, (provenance service).step arrival s'.1
        (.generate route.provider (request.withModel route.model route.model_ok))
        (arrival.given.generate s'.1.tick) s'.1.next s'.2)
      refine Prog.wp_ofExcept ?_
      cases arrival.given.generate s'.1.tick with
      | error err => exact hs'
      | ok response => exact ⟨rfl, hs'.2⟩

theorem OnKey.passive {key cache_key : String} (hkey : key ≠ cache_key) {c : Command} (h : OnKey key c) :
    Passive cache_key c := by
  cases c with
  | redisGet k =>
    cases h
    exact hkey
  | redisSet k value nx ex => trivial
  | redisDelete k => trivial
  | _ => exact h.elim

theorem Accounts.passive {command : CreateResponseCommand} {cache_key : String} {c : Command}
    (h : Accounts command c) : Passive cache_key c := by
  cases c <;> trivial

theorem completeClaim_passive (claimed : Option String) (response : GenerationResponse) :
    (service.completeClaim arrival.call.command claimed response).Asks
      (Passive (cacheKey service arrival.call.command)) := by
  cases claimed with
  | none => trivial
  | some key => exact (complete_asks _ _ _ _).mono fun _ => OnKey.passive (idempotencyKey_ne_cacheKey _ _ _ _)

theorem success_passive (response : GenerationResponse) (outcome provider : String) (count_tokens : Bool) :
    (recordGenerationSuccess arrival.call.command response outcome provider count_tokens).Asks
      (Passive (cacheKey service arrival.call.command)) :=
  (recordGenerationSuccess_asks arrival.call.command response outcome provider count_tokens).mono
    fun _ => Accounts.passive

theorem generate_wp (claimed : Option String) (hs : s.2.produced = none) :
    (service.generate arrival.call.command claimed).wp (watched service arrival).environment
      (watched service arrival).emit (Prog.ends (fun _ s' => s'.2.Entitled) fun _ _ => True) s := by
  have hkeep : ∀ g g', Keeps g g' → Provenance.Entitled g → Provenance.Entitled g' := fun _ _ h => h.entitled
  refine Prog.wp_seq (execute_wp service.provider_executor arrival.call.command.request hs)
    (fun execution s hs => ?_) fun _ _ _ => trivial
  have husage : (service.recordUsage arrival.call.command execution.providerName execution.response).Asks
      (Passive (cacheKey service arrival.call.command)) :=
    (recordUsage_asks service arrival.call.command _ _).mono fun _ => Accounts.passive
  have hstore : (service.storeInCache arrival.call.command execution.response).Asks
      (Passive (cacheKey service arrival.call.command)) := by
    unfold CreateResponse.storeInCache
    split_ifs
    · exact Prog.Asks.bind ⟨trivial, fun _ => trivial⟩ fun _ => trivial
    · trivial
  refine Prog.wp_seq (passive_wp husage hkeep hs) (fun _ s hs => ?_) fun _ _ _ => trivial
  refine Prog.wp_seq (passive_wp hstore hkeep hs) (fun _ s hs => ?_) fun _ _ _ => trivial
  refine Prog.wp_seq (passive_wp (completeClaim_passive claimed _) hkeep hs) (fun _ s hs => ?_) fun _ _ _ => trivial
  exact Prog.wp_seq (passive_wp (success_passive _ _ _ _) hkeep hs) (fun _ _ hs => hs) fun _ _ _ => trivial

/-- A payload from the cache is returned only after its request was admitted; then it is entitled, or
the hit was of an excluded model. -/
theorem serveCached_wp (claimed : Option String) (payload : String) {model : String}
    (hs : s.2.produced = some model) :
    (service.serveCached arrival.call.command claimed payload).wp (watched service arrival).environment
      (watched service arrival).emit
      (Prog.ends (fun _ s' => s'.2.excludedHit = true ∨ s'.2.Entitled) fun _ _ => True) s := by
  have hkeep : ∀ g g', Keeps g g' → (g.excludedHit = true ∨ Provenance.Entitled g) →
      (g'.excludedHit = true ∨ Provenance.Entitled g') :=
    fun _ _ h hg => hg.imp (fun hx => h.excludedHit.trans hx) h.entitled
  refine Prog.wp_seq (enforce_wp _ _ _) (fun _ s' hs' => ?_) fun _ _ _ => trivial
  obtain ⟨hproduced, entitlements, hallowed, hread, hexcluded⟩ := hs'
  have hsound : s'.2.excludedHit = true ∨ s'.2.Entitled := by
    rw [hs] at hproduced
    cases hmodel : isModelAllowed model entitlements with
    | true => exact .inr ⟨model, hproduced, entitlements, hread, hmodel⟩
    | false =>
      left
      rw [hexcluded]
      unfold Provenance.reads
      simp only [hs, hallowed, Option.any_some, hmodel, Bool.not_false, Bool.and_self, Bool.or_true]
  refine Prog.wp_bind (Prog.wp_ofExcept ?_)
  cases deserializeResponse payload with
  | error err => trivial
  | ok response =>
    refine Prog.wp_seq (passive_wp (completeClaim_passive claimed _) hkeep hsound) (fun _ s hs => ?_)
      fun _ _ _ => trivial
    exact Prog.wp_seq (passive_wp (success_passive _ _ _ _) hkeep hs) (fun _ _ hs => hs) fun _ _ _ => trivial

theorem lookUpCache_wp (hs : s.2.produced = none) :
    (service.lookUpCache arrival.call.command).wp (watched service arrival).environment
      (watched service arrival).emit
      (Prog.ends (fun looked s' => match looked with
        | some _ => ∃ model, s'.2.produced = some model
        | none => s'.2.produced = none) fun _ _ => True) s := by
  unfold CreateResponse.lookUpCache
  split_ifs
  · refine Prog.wp_bind ⟨trivial, fun found s' hr => ?_⟩
    have hfound := reply_get hr
    cases found with
    | error err => exact (congrArg Provenance.produced hfound).trans hs
    | ok got =>
      cases got with
      | none => exact (congrArg Provenance.produced hfound).trans hs
      | some text => exact ⟨_, (congrArg Provenance.produced hfound).trans (produced_finds _ text s.2)⟩
  · exact hs

theorem begin_wp (store : RedisIdempotencyStore) (key : String) (hs : s.2.produced = none) :
    (store.begin arrival.call.command.organization_id key).wp (watched service arrival).environment
      (watched service arrival).emit
      (Prog.ends (fun begun s' => s'.2.produced = none ∧ ∀ payload, begun = .completed payload →
        s'.2.replayed = true) fun _ _ => True) s := by
  refine Prog.wp_bind ⟨trivial, fun claimed s₁ hr => ?_⟩
  have hs₁ := (reply_keeps (c := .redisSet _ _ _ _) trivial hr).produced.trans hs
  cases claimed with
  | error err => exact ⟨hs₁, fun _ h => nomatch h⟩
  | ok taken =>
    cases taken with
    | true => exact ⟨hs₁, fun _ h => nomatch h⟩
    | false =>
      refine Prog.wp_bind ⟨trivial, fun got s₂ hr₂ => ?_⟩
      have hne : RedisIdempotencyStore.redisKey arrival.call.command.organization_id key ≠
          cacheKey service arrival.call.command := idempotencyKey_ne_cacheKey _ _ _ _
      have hfound := reply_get hr₂
      have hs₂ := (reply_keeps (c := .redisGet _) hne hr₂).produced.trans hs₁
      cases got with
      | error err => exact ⟨hs₂, fun _ h => nomatch h⟩
      | ok raw =>
        cases raw with
        | none => exact ⟨hs₂, fun _ h => nomatch h⟩
        | some text =>
          refine ⟨hs₂, fun payload hcompleted => ?_⟩
          have hfinds : s₂.2 = s₁.2.finds (cacheKey service arrival.call.command)
              (RedisIdempotencyStore.redisKey arrival.call.command.organization_id key) text := hfound
          unfold Provenance.finds at hfinds
          rw [if_neg hne, hcompleted] at hfinds
          exact congrArg Provenance.replayed hfinds

theorem serve_wp (claimed : Option String) (hs : s.2.produced = none) :
    (service.serve arrival.call.command claimed).wp (watched service arrival).environment
      (watched service arrival).emit
      (Prog.ends (fun _ s' => s'.2.excludedHit = true ∨ s'.2.Entitled) fun _ _ => True) s := by
  refine Prog.wp_seq (lookUpCache_wp hs) (fun looked s' hs' => ?_) fun _ _ _ => trivial
  cases looked with
  | some payload =>
    obtain ⟨model, hmodel⟩ := hs'
    exact serveCached_wp claimed payload hmodel
  | none =>
    refine Prog.wp_catching (Prog.wp_mono (Prog.ends_mono (fun _ _ h => .inr h) fun err s'' _ => ?_)
      (generate_wp claimed hs'))
    refine Prog.wp_seq Prog.wp_any (fun _ _ _ => ?_) fun _ _ _ => trivial
    exact Prog.wp_seq Prog.wp_any (fun _ _ _ => trivial) fun _ _ _ => trivial

/-- What a call returns is a replay, or entitled, or came from a hit of an excluded model. -/
theorem createResponse_wp (hs : s.2.produced = none) :
    (service.execute arrival.call.command).wp (watched service arrival).environment (watched service arrival).emit
      (Prog.ends (fun _ s' => s'.2.excludedHit = true ∨ s'.2.replayed = true ∨ s'.2.Entitled) fun _ _ => True)
      s := by
  have hmeters : ∀ c, Meters arrival.call.command.organization_id c →
      Passive (cacheKey service arrival.call.command) c := by
    intro c hc
    cases c <;> trivial
  have hnone : ∀ g g', Keeps g g' → g.produced = none → g'.produced = none := fun _ _ h hg => h.produced.trans hg
  have hreplay : ∀ g g', Keeps g g' → g.replayed = true → g'.replayed = true := fun _ _ h => h.replayed
  have hserve : ∀ (claimed : Option String) (s : Session × Provenance), s.2.produced = none →
      (service.serve arrival.call.command claimed).wp (watched service arrival).environment
        (watched service arrival).emit
        (Prog.ends (fun _ s' => s'.2.excludedHit = true ∨ s'.2.replayed = true ∨ s'.2.Entitled) fun _ _ => True)
        s := by
    intro claimed s hs
    refine Prog.wp_mono (Prog.ends_mono (fun _ _ h => ?_) fun _ _ h => h) (serve_wp claimed hs)
    exact h.imp id .inr
  refine Prog.wp_seq (passive_wp ((consume_asks _ _).mono hmeters) hnone hs) (fun decision s hs => ?_)
    fun _ _ _ => trivial
  cases decision.allowed with
  | false => exact Prog.wp_seq Prog.wp_any (fun _ _ _ => trivial) fun _ _ _ => trivial
  | true =>
    simp only [Bool.not_true, Bool.false_eq_true, ↓reduceIte]
    cases arrival.call.command.idempotency_key with
    | none => exact hserve none s hs
    | some key =>
      refine Prog.wp_seq (begin_wp _ key hs) (fun begun s hs => ?_) fun _ _ _ => trivial
      cases begun with
      | miss => exact hserve (some key) s hs.1
      | inProgress => exact Prog.wp_seq Prog.wp_any (fun _ _ _ => trivial) fun _ _ _ => trivial
      | completed payload =>
        refine Prog.wp_bind (Prog.wp_ofExcept ?_)
        cases deserializeResponse payload with
        | error err => trivial
        | ok response =>
          exact Prog.wp_seq (passive_wp (success_passive _ _ _ _) hreplay (hs.2 payload rfl))
            (fun _ _ h => .inr (.inl h)) fun _ _ _ => trivial

end Parts

section Runs

/-- A call was answered with something that its own reading of the entitlements allows. -/
def ReturnsEntitled (o : Observed Provenance) : Prop :=
  ∀ response, o.outcome = .responded (.ok response) → o.after.2.replayed = true ∨ o.after.2.Entitled

instance (o : Observed Provenance) : Decidable (ReturnsEntitled o) :=
  match h : o.outcome with
  | .responded (.ok _) =>
    decidable_of_iff (o.after.2.replayed = true ∨ o.after.2.Entitled)
      ⟨fun hsound _ _ => hsound, fun hsound => hsound _ h⟩
  | .responded (.error _) => .isTrue fun _ hr => by rw [h] at hr; cases hr
  | .streamed _ _ => .isTrue fun _ hr => by rw [h] at hr; cases hr

theorem excludedHit_stays (service : CreateResponse) (arrival : Arrival) (s : Session) (c : Command)
    (r : Response c) (s' : Session) (g : Provenance) (hg : g.excludedHit = true) :
    ((provenance service).step arrival s c r s' g).excludedHit = true := by
  by_cases hc : Passive (cacheKey service arrival.call.command) c
  · exact (step_keeps hc s s' r g).excludedHit.trans hg
  · cases c with
    | generate provider request => cases r <;> exact hg
    | listEntitlements o =>
      cases r with
      | error err => exact hg
      | ok listed => exact Bool.or_eq_true_iff.mpr (.inl hg)
    | redisGet key =>
      have hkey : key = cacheKey service arrival.call.command := not_not.mp hc
      cases r with
      | error err => exact hg
      | ok found =>
        cases found with
        | none => exact hg
        | some text =>
          change (g.finds (cacheKey service arrival.call.command) key text).excludedHit = true
          unfold Provenance.finds
          rw [if_pos hkey]
          exact hg
    | _ => exact (hc trivial).elim

theorem observe_entitled (service : CreateResponse) (arrival : Arrival) (w : World) (g : Provenance)
    (hgood : (observe service (provenance service) arrival w g).2.2.excludedHit ≠ true) :
    ReturnsEntitled ⟨arrival, (w, g), (observe service (provenance service) arrival w g).1,
      (observe service (provenance service) arrival w g).2⟩ := by
  intro response houtcome
  cases hcall : arrival.call with
  | stream command =>
    obtain ⟨r, s, hobserved, -⟩ := observe_stream (Q := fun _ _ => True) hcall
      (Prog.wp_mono (fun _ _ _ => trivial) Prog.wp_any)
    rw [hobserved] at houtcome
    cases houtcome
  | execute command =>
    have hcommand : arrival.call.command = command := congrArg Call.command hcall
    have hwp := @createResponse_wp service arrival (.start w, (provenance service).reset g) rfl
    rw [hcommand] at hwp
    obtain ⟨r, s, hobserved, hended⟩ := observe_execute hcall hwp
    rw [hobserved] at houtcome hgood ⊢
    cases Outcome.responded.inj houtcome
    exact hended.resolve_left hgood

/-- In every run in which no call hits a cached payload of a model that the entitlements it reads exclude
while they admit the model it asks for, whatever is returned is a replay or comes from an allowed model. -/
theorem entitled_unless_excluded_hit (service : CreateResponse) (arrivals : List Arrival) (w : World)
    (g : Provenance)
    (hgood : (observeAll service (provenance service) arrivals w g).2.2.excludedHit = false) :
    ∀ o ∈ (observeAll service (provenance service) arrivals w g).1, ReturnsEntitled o := by
  refine observeAll_each (fun g => g.excludedHit = true) (fun _ h => h) (excludedHit_stays service)
    (fun _ => True) ReturnsEntitled (fun arrival _ w g _ hend => ?_) trivial (by simp [hgood])
  exact ⟨trivial, observe_entitled service arrival w g hend⟩

def unread : Provenance := ⟨fun _ => "", none, none, false, false⟩

def askedTwice (first second : List ModelEntitlement) : List Arrival :=
  [⟨.execute (ask "req-1"), entitledTo first 100⟩, ⟨.execute (ask "req-2"), entitledTo second 200⟩]

theorem entitled_while_allowed :
    (observeAll sampleService (provenance sampleService) (askedTwice [gpt4o] [gpt4o, claude]) emptyWorld
        unread).2.2.excludedHit = false ∧
      ∀ o ∈ (observeAll sampleService (provenance sampleService) (askedTwice [gpt4o] [gpt4o, claude]) emptyWorld
        unread).1, ReturnsEntitled o :=
  ⟨by decide +kernel, entitled_unless_excluded_hit sampleService (askedTwice [gpt4o] [gpt4o, claude]) emptyWorld
    unread (by decide +kernel)⟩

/-- A payload that Claude produced for `gpt-4o` is returned to a call that may use `gpt-4o` only. -/
theorem excluded_payload_returned :
    ¬ ∀ o ∈ (observeAll sampleService (provenance sampleService) (askedTwice [claude] [gpt4o]) emptyWorld
      unread).1, ReturnsEntitled o := by
  decide +kernel

end Runs

end AIRuntime.EntitlementSafety
