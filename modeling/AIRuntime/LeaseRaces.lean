import AIRuntime.EffectInterleaving
import AIRuntime.ResponseRuns

set_option autoImplicit false

/-!
Calls of `execute` that carry one idempotency key and run at the same time. Their Redis commands are
atomic and do not fail; everybody else answers as they like.
-/
namespace AIRuntime.LeaseRaces

open EffectPrograms Failures Identifiers Collaborators RedisAdapters SharedStores ResponseCreation ResponseScopes
  ResponseRuns

variable {ι : Type}

section Record

/-- The record of one key at a time of the server, with what became of it: `author` put there what it
holds, and `lease` is the deadline that the begin of a call set, until that call completes. -/
structure Record (ι : Type) where
  now : ℚ
  cell : Option RedisEntry
  author : Option ι
  lease : ι → Option ℚ

def Record.live (s : Record ι) : Option RedisValue := liveAt s.now s.cell

structure Shared (ι : Type) where
  now : ℚ
  redis : RedisServer
  author : Option ι
  lease : ι → Option ℚ

namespace Shared

def view (record : String) (s : Shared ι) : Record ι := ⟨s.now, s.redis record, s.author, s.lease⟩

def act {α : Type} (s : Shared ι) (key : String)
    (cell : Option RedisEntry → Except RedisError α × Option RedisEntry) : Except RedisError α × Shared ι :=
  ((s.redis.onKey key cell).1, { s with redis := (s.redis.onKey key cell).2 })

variable [DecidableEq ι]

/-- A call wrote a key; if it is the record, `lease` is what the call holds from now on. -/
def wrote (record key : String) (i : ι) (lease : Option ℚ) (s : Shared ι) : Shared ι :=
  if key = record then { s with author := some i, lease := Function.update s.lease i lease } else s

def erased (record key : String) (s : Shared ι) : Shared ι := if key = record then { s with author := none } else s

/-- How a call is answered, `none` where Redis would fail; `other` is what the others answer. -/
def answer (record : String) (i : ι) (s : Shared ι) (c : Command) (other : Response c) :
    Option (Response c × Shared ι) :=
  match c, other with
  | .redisSet key value nx ex, _ =>
    match s.act key (setCell s.now value nx ex) with
    | (.ok true, s') => some (.ok true, s'.wrote record key i (if nx then some (s.now + ex) else none))
    | (.ok false, s') => some (.ok false, s')
    | (.error _, _) => none
  | .redisGet key, _ =>
    match s.act key (getCell s.now) with
    | (.ok value, s') => some (.ok value, s')
    | (.error _, _) => none
  | .redisDelete key, _ => some (.ok (), (s.act key deleteCell).2.erased record key)
  | .redisTokenBucket key capacity refill_per_second clock requested, _ =>
    match s.act key (evalBucketCell s.now capacity refill_per_second clock requested) with
    | (.ok decision, s') => some (.ok decision, s')
    | (.error _, _) => none
  | _, other => some (other, s)

end Shared

def timeless [DecidableEq ι] (record : String) : Arbiter ι Command Response (Shared ι) where
  reply := fun i s c r s' => ∃ other, s.answer record i c other = some (r, s')
  drift := fun _ _ => False

/-- Redis answers the calls, and time passes between their commands. -/
def timed [DecidableEq ι] (record : String) : Arbiter ι Command Response (Shared ι) where
  reply := (timeless record).reply
  drift := fun s s' => ∃ now, s.now ≤ now ∧ s' = { s with now := now }

end Record

section Replies

variable [DecidableEq ι] {record : String} {i : ι} {s s' : Shared ι}

/-- Of a `SET NX` on the record: it holds something and is kept, or the call has now a lease on it. -/
theorem claim_reply {value : String} {ex : ℤ} {r : Except RedisError Bool}
    (h : (timeless record).reply i s (.redisSet record value true ex) r s') :
    ((s.view record).live ≠ none ∧ r = .ok false ∧ s'.view record = s.view record) ∨
      ((s.view record).live = none ∧ 0 < ex ∧ r = .ok true ∧ s'.view record =
        ⟨s.now, some ⟨.text value, s.now + ex⟩, some i, Function.update s.lease i (some (s.now + ex))⟩) := by
  obtain ⟨other, h⟩ := h
  unfold Record.live Shared.view
  unfold Shared.answer Shared.act at h
  by_cases hex : ex ≤ 0
  · simp [RedisServer.onKey, setCell, hex] at h
  · cases hlive : liveAt s.now (s.redis record) with
    | none =>
      right
      simp only [RedisServer.onKey, setCell, hex, hlive, Option.isSome_none, Bool.and_false, Bool.false_eq_true,
        ↓reduceIte, Option.some.injEq, Prod.mk.injEq] at h
      obtain ⟨rfl, rfl⟩ := h
      refine ⟨rfl, not_le.mp hex, rfl, ?_⟩
      simp [Shared.wrote]
    | some v =>
      left
      simp only [RedisServer.onKey, setCell, hex, hlive, Option.isSome_some, Bool.and_self, ↓reduceIte,
        Option.some.injEq, Prod.mk.injEq] at h
      obtain ⟨rfl, rfl⟩ := h
      exact ⟨nofun, rfl, by simp⟩

theorem store_reply {value : String} {ex : ℤ} {r : Except RedisError Bool}
    (h : (timeless record).reply i s (.redisSet record value false ex) r s') :
    0 < ex ∧ s'.view record =
      ⟨s.now, some ⟨.text value, s.now + ex⟩, some i, Function.update s.lease i none⟩ := by
  obtain ⟨other, h⟩ := h
  unfold Shared.view
  unfold Shared.answer Shared.act at h
  by_cases hex : ex ≤ 0
  · simp [RedisServer.onKey, setCell, hex] at h
  · simp only [RedisServer.onKey, setCell, hex, Bool.false_and, Bool.false_eq_true, ↓reduceIte, Option.some.injEq,
      Prod.mk.injEq] at h
    obtain ⟨rfl, rfl⟩ := h
    refine ⟨not_le.mp hex, ?_⟩
    simp [Shared.wrote]

/-- A `GET` of the record answers what it holds, and forgets what has expired. -/
theorem look_reply {r : Except RedisError (Option String)}
    (h : (timeless record).reply i s (.redisGet record) r s') :
    ((s.view record).live = none ∧ r = .ok none ∧ s'.view record = { s.view record with cell := none }) ∨
      ∃ value, (s.view record).live = some (.text value) ∧ r = .ok (some value) ∧
        s'.view record = s.view record := by
  obtain ⟨other, h⟩ := h
  unfold Record.live Shared.view
  unfold Shared.answer Shared.act at h
  cases hlive : liveAt s.now (s.redis record) with
  | none =>
    left
    simp only [RedisServer.onKey, getCell, hlive, Option.some.injEq, Prod.mk.injEq] at h
    obtain ⟨rfl, rfl⟩ := h
    exact ⟨rfl, rfl, by simp⟩
  | some v =>
    right
    cases v with
    | bucket data => simp [RedisServer.onKey, getCell, hlive] at h
    | text value =>
      simp only [RedisServer.onKey, getCell, hlive, Option.some.injEq, Prod.mk.injEq] at h
      obtain ⟨rfl, rfl⟩ := h
      exact ⟨value, rfl, rfl, by simp⟩

theorem erase_reply {r : Except RedisError Unit} (h : (timeless record).reply i s (.redisDelete record) r s') :
    s'.view record = { s.view record with cell := none, author := none } := by
  obtain ⟨other, h⟩ := h
  unfold Shared.answer Shared.act at h
  simp only [Option.some.injEq, Prod.mk.injEq] at h
  obtain ⟨-, rfl⟩ := h
  simp [Shared.view, Shared.erased, RedisServer.onKey, deleteCell]

omit [DecidableEq ι] in
theorem act_view {α : Type} {key : String} (hkey : key ≠ record)
    (cell : Option RedisEntry → Except RedisError α × Option RedisEntry) :
    (s.act key cell).2.view record = s.view record := by
  unfold Shared.act Shared.view
  simp only [RedisServer.onKey_other _ _ (Ne.symm hkey)]

theorem spares_reply {c : Command} {r : Response c} (hc : Spares record c)
    (h : (timeless record).reply i s c r s') : s'.view record = s.view record := by
  obtain ⟨other, h⟩ := h
  cases c with
  | redisSet key value nx ex =>
    have hkey : key ≠ record := hc
    have hview : (s.act key (setCell s.now value nx ex)).2.view record = s.view record := act_view hkey _
    simp only [Shared.answer] at h
    split at h
    · rename_i s₁ hact
      cases h
      rw [hact] at hview
      unfold Shared.wrote
      rw [if_neg hkey]
      exact hview
    · rename_i s₁ hact
      cases h
      rw [hact] at hview
      exact hview
    · cases h
  | redisGet key =>
    have hview : (s.act key (getCell s.now)).2.view record = s.view record := act_view hc _
    simp only [Shared.answer] at h
    split at h
    · rename_i value s₁ hact
      cases h
      rw [hact] at hview
      exact hview
    · cases h
  | redisDelete key =>
    have hkey : key ≠ record := hc
    cases h
    unfold Shared.erased
    rw [if_neg hkey]
    exact act_view hkey deleteCell
  | redisTokenBucket key capacity refill_per_second clock requested =>
    have hview : (s.act key (evalBucketCell s.now capacity refill_per_second clock requested)).2.view record =
        s.view record := act_view hc _
    simp only [Shared.answer] at h
    split at h
    · rename_i decision s₁ hact
      cases h
      rw [hact] at hview
      exact hview
    · cases h
  | _ =>
    cases h
    rfl

end Replies

section Phases

/-- How far a call is with the record, by what it was answered: `refused` is a begin whose `SET NX` found
something; `inside` is after a begin that returned Miss; a release that saw a lease is about to delete. -/
inductive Phase where
  | fresh
  | refused
  | inside
  | releasing
  | completed
  | lateReleasing
  | over
deriving DecidableEq

/-- What a `GET` of the record means in each phase: that of a begin, or that of a release. -/
def Phase.afterGet : Phase → Except RedisError (Option String) → Phase
  | .refused, .error _ => .inside
  | .refused, .ok raw => if RedisIdempotencyStore.readRecord raw = .miss then .inside else .over
  | .inside, .ok raw => if raw = some statusInProgress then .releasing else .over
  | .completed, .ok raw => if raw = some statusInProgress then .lateReleasing else .over
  | _, _ => .over

def Phase.after (record : String) (g : Phase) (c : Command) (r : Response c) : Phase :=
  match c, r with
  | .redisSet key _ true _, r => if key = record then (if r = .ok false then .refused else .inside) else g
  | .redisSet key _ false _, _ => if key = record then .completed else g
  | .redisGet key, r => if key = record then g.afterGet r else g
  | .redisDelete key, _ => if key = record then .over else g
  | _, _ => g

def May (record : String) (g : Phase) : Command → Prop
  | .redisSet key value true _ => key = record → g = .fresh ∧ value = statusInProgress
  | .redisSet key value false _ => key = record → g = .inside ∧ ∃ payload, value = completedPrefix ++ payload
  | .redisGet key => key = record → g = .refused ∨ g = .inside ∨ g = .completed
  | .redisDelete key => key = record → g = .releasing ∨ g = .lateReleasing
  | .redisTokenBucket key _ _ _ _ => key ≠ record
  | .generate _ _ => g = .inside
  | .stream _ _ => g = .inside
  | _ => True

end Phases

section Discipline

variable {record : String}

inductive OnRecord (record : String) : Command → Prop where
  | claim (value : String) (ex : ℤ) : OnRecord record (.redisSet record value true ex)
  | store (value : String) (ex : ℤ) : OnRecord record (.redisSet record value false ex)
  | look : OnRecord record (.redisGet record)
  | erase : OnRecord record (.redisDelete record)

theorem May.cases {g : Phase} {c : Command} (hmay : May record g c) : Spares record c ∨ OnRecord record c := by
  by_cases hspares : Spares record c
  · exact .inl hspares
  · right
    cases c with
    | redisSet key value nx ex =>
      obtain rfl := not_not.mp hspares
      cases nx with
      | true => exact .claim value ex
      | false => exact .store value ex
    | redisGet key =>
      obtain rfl := not_not.mp hspares
      exact .look
    | redisDelete key =>
      obtain rfl := not_not.mp hspares
      exact .erase
    | redisTokenBucket key capacity refill_per_second clock requested => exact absurd hmay hspares
    | _ => exact absurd trivial hspares

theorem spares_keeps {g : Phase} {c : Command} (hc : Spares record c)
    (hprovider : c.isProviderCall = true → g = .inside) :
    (locally (May record) (Phase.after record)).Keeps (· = g) c := by
  intro g' hg
  subst hg
  cases c with
  | redisSet key value nx ex =>
    have hkey : key ≠ record := hc
    cases nx with
    | false => exact ⟨fun h => absurd h hkey, fun r g₁ hr => hr.trans (if_neg hkey)⟩
    | true => exact ⟨fun h => absurd h hkey, fun r g₁ hr => hr.trans (if_neg hkey)⟩
  | redisGet key =>
    have hkey : key ≠ record := hc
    exact ⟨fun h => absurd h hkey, fun r g₁ hr => hr.trans (if_neg hkey)⟩
  | redisDelete key =>
    have hkey : key ≠ record := hc
    exact ⟨fun h => absurd h hkey, fun r g₁ hr => hr.trans (if_neg hkey)⟩
  | redisTokenBucket key capacity refill_per_second clock requested => exact ⟨hc, fun r g₁ hr => hr⟩
  | generate provider request => exact ⟨hprovider rfl, fun r g₁ hr => hr⟩
  | stream provider request => exact ⟨hprovider rfl, fun r g₁ hr => hr⟩
  | _ => exact ⟨trivial, fun r g₁ hr => hr⟩

theorem spares_after {g : Phase} {c : Command} (hmay : May record g c) (hc : Spares record c) (r : Response c) :
    Phase.after record g c r = g := by
  have hprovider : c.isProviderCall = true → g = .inside := by
    intro hprovider
    cases c <;> first | exact hmay | cases hprovider
  exact (spares_keeps hc hprovider g rfl).2 r _ rfl

abbrev Follows {α : Type} (record : String) (p : Action α) (Q : Except Exn α → Phase → Prop) (g : Phase) : Prop :=
  p.wp (locally (May record) (Phase.after record)) (fun g _ => g) Q g

theorem spares_follows {α : Type} {p : Action α} {P : Command → Prop} {g : Phase} (hp : p.Asks P)
    (hspares : ∀ c, P c → Spares record c) (hprovider : ∀ c, P c → c.isProviderCall = true → g = .inside) :
    Follows record p (Prog.ends (fun _ g' => g' = g) fun _ g' => g' = g) g := by
  refine Prog.wp_mono ?_ (Prog.wp_of_asks hp (fun c hc => spares_keeps (hspares c hc) (hprovider c hc))
    (fun _ e _ => e.elim) rfl)
  intro o g' hg'
  cases o <;> exact hg'

variable {organization_id : UUID} {key : String}

/-- Begin returns Miss exactly to a call that is inside from then on. -/
theorem begin_follows (store : RedisIdempotencyStore) :
    Follows (RedisIdempotencyStore.redisKey organization_id key) (store.begin organization_id key)
      (Prog.ends (fun result g => g = if result = .miss then .inside else .over) fun _ _ => False) .fresh := by
  unfold RedisIdempotencyStore.begin
  generalize RedisIdempotencyStore.redisKey organization_id key = record
  refine ⟨fun _ => ⟨rfl, rfl⟩, ?_⟩
  rintro claimed g rfl
  cases claimed with
  | error err => simp [Phase.after]
  | ok taken =>
    cases taken with
    | true => simp [Phase.after]
    | false =>
      refine ⟨fun _ => ?_, ?_⟩
      · simp [Phase.after]
      · rintro got g rfl
        cases got with
        | error err => simp [Phase.after, Phase.afterGet]
        | ok raw => simp [Phase.after, Phase.afterGet]

theorem complete_follows (store : RedisIdempotencyStore) (payload : String) :
    Follows (RedisIdempotencyStore.redisKey organization_id key) (store.complete organization_id key payload)
      (Prog.ends (fun _ g => g = .completed) fun _ _ => False) .inside := by
  unfold RedisIdempotencyStore.complete
  generalize RedisIdempotencyStore.redisKey organization_id key = record
  refine ⟨fun _ => ⟨rfl, payload, rfl⟩, ?_⟩
  rintro done g rfl
  simp [Phase.after]

theorem release_follows {g : Phase} (hg : g = .inside ∨ g = .completed) :
    Follows (RedisIdempotencyStore.redisKey organization_id key) (RedisIdempotencyStore.release organization_id key)
      (Prog.ends (fun _ g => g = .over) fun _ _ => False) g := by
  unfold RedisIdempotencyStore.release
  generalize RedisIdempotencyStore.redisKey organization_id key = record
  refine ⟨fun _ => .inr hg, ?_⟩
  rintro got g' rfl
  cases got with
  | error err => rcases hg with rfl | rfl <;> simp [Phase.after, Phase.afterGet]
  | ok current =>
    by_cases hlease : current = some statusInProgress
    · simp only [hlease]
      refine ⟨fun _ => ?_, ?_⟩
      · rcases hg with rfl | rfl
        · left
          simp [Phase.after, Phase.afterGet]
        · right
          simp [Phase.after, Phase.afterGet]
      · rintro deleted g₁ rfl
        simp [Phase.after]
    · rcases hg with rfl | rfl <;> simp [Phase.after, Phase.afterGet, hlease]

theorem accounts_follows {α : Type} {p : Action α} {command : CreateResponseCommand} {g : Phase}
    (hp : p.Asks (Accounts command)) : Follows record p (Prog.ends (fun _ g' => g' = g) fun _ g' => g' = g) g := by
  refine spares_follows hp (fun _ => Accounts.spares) ?_
  intro c hc hprovider
  cases c <;> first | exact hc.elim | cases hprovider

theorem cache_follows {α : Type} {p : Action α} {fingerprint : String} {g : Phase}
    (hp : p.Asks (OnKey (RedisResponseCache.redisKey organization_id fingerprint))) :
    Follows (RedisIdempotencyStore.redisKey organization_id key) p
      (Prog.ends (fun _ g' => g' = g) fun _ g' => g' = g) g := by
  refine spares_follows hp (fun _ => OnKey.spares (idempotencyKey_ne_cacheKey _ _ _ _).symm) ?_
  intro c hc hprovider
  cases c <;> first | exact hc.elim | cases hprovider

variable {self : CreateResponse} {command : CreateResponseCommand}

theorem success_follows (response : GenerationContracts.GenerationResponse) (outcome provider : String)
    (count_tokens : Bool) {g : Phase} : Follows record
      ((recordGenerationSuccess command response outcome provider count_tokens).bind fun _ => .done response)
      (Prog.ends (fun _ g' => g' = g) fun _ g' => g' = g) g :=
  Prog.wp_seq (accounts_follows (recordGenerationSuccess_asks command response outcome provider count_tokens))
    (fun _ _ h => h) fun _ _ h => h

/-- The provider is asked inside, and a call that fails inside or after its complete releases. -/
theorem generate_follows :
    Follows (RedisIdempotencyStore.redisKey command.organization_id key) (self.generate command (some key))
      (Prog.ends (fun _ _ => True) fun _ g => g = .inside ∨ g = .completed) .inside := by
  have hroutes := @spares_follows (RedisIdempotencyStore.redisKey command.organization_id key) _ _ _ .inside
    (executeRoutes_asks self command) (fun _ => TriesRoutes.spares) (fun _ _ _ => rfl)
  refine Prog.wp_seq hroutes (fun execution g hg => ?_) fun _ _ hg => .inl hg
  refine Prog.wp_seq (accounts_follows (recordUsage_asks self command _ _)) (fun _ g' hg' => ?_)
    fun _ _ hg' => .inl (hg'.trans hg)
  have hstore : Follows (RedisIdempotencyStore.redisKey command.organization_id key)
      (self.storeInCache command execution.response) (Prog.ends (fun _ g₁ => g₁ = g') fun _ g₁ => g₁ = g') g' := by
    unfold CreateResponse.storeInCache
    split_ifs
    · exact cache_follows (cacheSet_asks _ _ _ _)
    · rfl
  refine Prog.wp_seq hstore (fun _ g₁ hg₁ => ?_) fun _ _ hg₁ => .inl (hg₁.trans (hg'.trans hg))
  rw [hg₁, hg', hg]
  refine Prog.wp_seq (complete_follows self.idempotency_store _) (fun _ g₂ hg₂ => ?_) fun _ _ (h : False) => h.elim
  refine Prog.wp_mono ?_ (success_follows execution.response "provider" execution.providerName true)
  exact Prog.ends_mono (fun _ _ _ => trivial) fun _ _ hg₃ => .inr (hg₃.trans hg₂)

theorem abandon_follows (err : Exn) {g : Phase} (hg : g = .inside ∨ g = .completed) :
    Follows (RedisIdempotencyStore.redisKey command.organization_id key)
      (CreateResponse.abandon command (some key) err) (fun _ _ => True) g := by
  refine Prog.wp_seq (release_follows hg) (fun _ g' _ => ?_) fun _ _ _ => trivial
  exact Prog.wp_seq (accounts_follows (recordGenerationError_asks command)) (fun _ _ _ => trivial) fun _ _ _ => trivial

theorem serveCached_follows (payload : String) :
    Follows (RedisIdempotencyStore.redisKey command.organization_id key)
      (self.serveCached command (some key) payload) (fun _ _ => True) .inside := by
  have henforce := @spares_follows (RedisIdempotencyStore.redisKey command.organization_id key) _ _ _ .inside
    (enforce_asks ⟨command.organization_id, command.request.model, command.request.max_output_tokens⟩)
    (fun c hc => by cases c <;> trivial) (fun _ _ _ => rfl)
  refine Prog.wp_seq henforce (fun _ g hg => ?_) fun _ _ _ => trivial
  rw [hg]
  cases hdecode : ResponsePayloads.deserializeResponse payload with
  | error err => trivial
  | ok response =>
    rw [Prog.ofExcept_ok, Prog.bind_eq, Prog.done_bind]
    refine Prog.wp_seq (complete_follows self.idempotency_store _) (fun _ g₂ _ => ?_) fun _ _ (h : False) => h.elim
    exact Prog.wp_mono (fun _ _ _ => trivial) (success_follows { response with cached := true } "cache" "cache" false)

theorem serve_follows :
    Follows (RedisIdempotencyStore.redisKey command.organization_id key) (self.serve command (some key))
      (fun _ _ => True) .inside := by
  have hlook : Follows (RedisIdempotencyStore.redisKey command.organization_id key) (self.lookUpCache command)
      (Prog.ends (fun _ g => g = .inside) fun _ g => g = .inside) .inside := by
    unfold CreateResponse.lookUpCache
    split_ifs
    · exact cache_follows (cacheGet_asks _ _)
    · rfl
  refine Prog.wp_seq hlook (fun looked g hg => ?_) fun _ _ _ => trivial
  rw [hg]
  cases looked with
  | some payload => exact serveCached_follows payload
  | none =>
    refine Prog.wp_catching (Prog.wp_mono (Prog.ends_mono (fun _ _ _ => trivial) fun err g' hg' => ?_)
      generate_follows)
    exact abandon_follows err hg'

variable (self command)

theorem execute_follows (hkey : command.idempotency_key = some key) :
    Follows (RedisIdempotencyStore.redisKey command.organization_id key) (self.execute command)
      (fun _ _ => True) .fresh := by
  have hconsume := @spares_follows (RedisIdempotencyStore.redisKey command.organization_id key) _ _ _ .fresh
    (consume_asks self.rate_limiter command.organization_id)
    (fun _ => Meters.spares (idempotencyKey_ne_rateLimitKey _ _ _).symm) (fun c hc hprovider => by
      cases c <;> first | exact hc.elim | cases hprovider)
  refine Prog.wp_seq hconsume (fun decision g hg => ?_) fun _ _ _ => trivial
  rw [hg]
  cases decision.allowed with
  | false =>
    exact Prog.wp_seq (accounts_follows (recordGenerationError_asks command)) (fun _ _ _ => trivial)
      fun _ _ _ => trivial
  | true =>
    simp only [Bool.not_true, Bool.false_eq_true, ↓reduceIte, hkey]
    refine Prog.wp_seq (begin_follows self.idempotency_store) (fun begun g' hg' => ?_) fun _ _ (h : False) => h.elim
    cases begun with
    | miss =>
      rw [hg']
      exact serve_follows
    | inProgress =>
      exact Prog.wp_seq (accounts_follows (recordGenerationError_asks command)) (fun _ _ _ => trivial)
        fun _ _ _ => trivial
    | completed payload =>
      exact Prog.wp_mono (fun _ _ _ => trivial) (accounts_follows (replay_accounts payload))

end Discipline

section Calls

variable [DecidableEq ι]

def start (service : ι → CreateResponse) (command : ι → CreateResponseCommand) (now : ℚ) (redis : RedisServer) :
    Pool ι Command Response Empty Exn GenerationContracts.GenerationResponse (Shared ι) Phase where
  shared := ⟨now, redis, none, fun _ => none⟩
  rest := fun i => (service i).execute (command i)
  note := fun _ => .fresh

def SameKey (organization_id : UUID) (key : String) (command : ι → CreateResponseCommand) : Prop :=
  ∀ i, (command i).organization_id = organization_id ∧ (command i).idempotency_key = some key

omit [DecidableEq ι] in
theorem start_disciplined {service : ι → CreateResponse} {command : ι → CreateResponseCommand} {now : ℚ}
    {redis : RedisServer} {organization_id : UUID} {key : String} (h : SameKey organization_id key command) :
    (start service command now redis).Disciplined (Phase.after (RedisIdempotencyStore.redisKey organization_id key))
      (May (RedisIdempotencyStore.redisKey organization_id key)) := by
  intro i
  rw [← (h i).1]
  exact execute_follows (service i) (command i) (h i).2

end Calls

end AIRuntime.LeaseRaces
