import AIRuntime.LeaseRaces

set_option autoImplicit false

/-! Mutual exclusion by the lease of a key, with no key expiring. -/
namespace AIRuntime.LeaseExclusion

open EffectPrograms Failures Identifiers Collaborators RedisAdapters SharedStores ServiceRuns ResponseCreation
  ResponseRuns LeaseRaces

variable {ι : Type}

section Exclusion

/-- Between a begin that returned Miss and the call's own complete or release. -/
def Inside (g : Phase) : Prop := g = .inside ∨ g = .releasing

def HoldsLease (record : String) (s : Shared ι) (i : ι) : Prop :=
  (s.view record).live = some (.text statusInProgress) ∧ s.author = some i

def invokesProvider {α : Type} : Action α → Bool
  | .call c _ => c.isProviderCall
  | _ => false

/-- A begin that looks at the record after its `SET NX` failed finds the record there. -/
def FindsRecord (record : String) (s : Shared ι) (g : ι → Phase) (i : ι) (c : Command) : Prop :=
  c = .redisGet record → g i = .refused → (s.view record).live ≠ none

structure Exclusive (record : String) (s : Shared ι) (g : ι → Phase) : Prop where
  holds : ∀ i, Inside (g i) → HoldsLease record s i
  kept : ∀ i, g i = .completed → ∃ payload, (s.view record).live = some (.text (completedPrefix ++ payload))
  notLate : ∀ i, g i ≠ .lateReleasing

theorem completed_ne_lease (payload : String) : completedPrefix ++ payload ≠ statusInProgress := by
  intro h
  have hread := readRecord_completed payload
  rw [h] at hread
  revert hread
  unfold RedisIdempotencyStore.readRecord
  simp

theorem readRecord_some_ne_miss (value : String) : RedisIdempotencyStore.readRecord (some value) ≠ .miss := by
  unfold RedisIdempotencyStore.readRecord
  simp only
  split_ifs
  · nofun
  · split <;> nofun

variable {record : String} {s s' : Shared ι} {g : ι → Phase} {i : ι}

theorem Exclusive.one (h : Exclusive record s g) {j : ι} (hi : Inside (g i)) (hj : Inside (g j)) : i = j := by
  have hauthor := (h.holds i hi).2
  rw [(h.holds j hj).2] at hauthor
  exact (Option.some.inj hauthor).symm

theorem Exclusive.absent (h : Exclusive record s g) (hlive : (s.view record).live = none) (j : ι) :
    ¬ Inside (g j) ∧ g j ≠ .completed := by
  refine ⟨fun hj => ?_, fun hj => ?_⟩
  · have hholds := (h.holds j hj).1
    rw [hlive] at hholds
    cases hholds
  · obtain ⟨payload, hkept⟩ := h.kept j hj
    rw [hlive] at hkept
    cases hkept

theorem Exclusive.pending (h : Exclusive record s g) (hi : Inside (g i)) (j : ι) : g j ≠ .completed := by
  intro hj
  obtain ⟨payload, hkept⟩ := h.kept j hj
  rw [(h.holds i hi).1] at hkept
  injection hkept with hkept
  injection hkept with hkept
  exact completed_ne_lease payload hkept.symm

variable [DecidableEq ι]

theorem Exclusive.move (h : Exclusive record s g) (hview : s'.view record = s.view record) {phase : Phase}
    (hinside : Inside phase → Inside (g i)) (hcompleted : phase ≠ .completed ∨ g i = .completed)
    (hlate : phase ≠ .lateReleasing) : Exclusive record s' (Function.update g i phase) := by
  have hauthor : s'.author = s.author := congrArg Record.author hview
  have hholds : ∀ j, Inside (g j) → HoldsLease record s' j := by
    intro j hj
    unfold HoldsLease
    rw [hview, hauthor]
    exact h.holds j hj
  constructor
  · intro j hj
    by_cases hji : j = i
    · rw [hji, Function.update_self] at hj
      rw [hji]
      exact hholds i (hinside hj)
    · rw [Function.update_of_ne hji] at hj
      exact hholds j hj
  · intro j hj
    rw [hview]
    by_cases hji : j = i
    · rw [hji, Function.update_self] at hj
      exact h.kept i (hcompleted.resolve_left fun hne => hne hj)
    · rw [Function.update_of_ne hji] at hj
      exact h.kept j hj
  · intro j
    by_cases hji : j = i
    · rw [hji, Function.update_self]
      exact hlate
    · rw [Function.update_of_ne hji]
      exact h.notLate j

theorem Exclusive.enter (h : Exclusive record s g) (hlive : (s.view record).live = none)
    (hholds : HoldsLease record s' i) : Exclusive record s' (Function.update g i .inside) := by
  constructor
  · intro j hj
    by_cases hji : j = i
    · rw [hji]
      exact hholds
    · rw [Function.update_of_ne hji] at hj
      exact absurd hj (h.absent hlive j).1
  · intro j hj
    by_cases hji : j = i
    · rw [hji, Function.update_self] at hj
      cases hj
    · rw [Function.update_of_ne hji] at hj
      exact absurd hj (h.absent hlive j).2
  · intro j
    by_cases hji : j = i
    · rw [hji, Function.update_self]
      nofun
    · rw [Function.update_of_ne hji]
      exact h.notLate j

theorem Exclusive.leave (h : Exclusive record s g) (hi : Inside (g i)) {phase : Phase}
    (hphase : phase = .over ∨ phase = .completed ∧
      ∃ payload, (s'.view record).live = some (.text (completedPrefix ++ payload))) :
    Exclusive record s' (Function.update g i phase) := by
  have hout : ¬ Inside phase := by
    rcases hphase with rfl | ⟨rfl, -⟩ <;> simp [Inside]
  constructor
  · intro j hj
    by_cases hji : j = i
    · rw [hji, Function.update_self] at hj
      exact absurd hj hout
    · rw [Function.update_of_ne hji] at hj
      exact absurd (h.one hj hi) hji
  · intro j hj
    by_cases hji : j = i
    · rw [hji, Function.update_self] at hj
      rcases hphase with rfl | ⟨-, hkept⟩
      · cases hj
      · exact hkept
    · rw [Function.update_of_ne hji] at hj
      exact absurd hj (h.pending hi j)
  · intro j
    by_cases hji : j = i
    · rw [hji, Function.update_self]
      rcases hphase with rfl | ⟨rfl, -⟩ <;> nofun
    · rw [Function.update_of_ne hji]
      exact h.notLate j

theorem claim_exclusive {value : String} {ex : ℤ} {r : Except RedisError Bool} (h : Exclusive record s g)
    (hmay : May record (g i) (.redisSet record value true ex))
    (hreply : (timeless record).reply i s (.redisSet record value true ex) r s') :
    Exclusive record s' (Function.update g i (Phase.after record (g i) (.redisSet record value true ex) r)) := by
  obtain ⟨-, rfl⟩ := hmay rfl
  rcases claim_reply hreply with ⟨-, rfl, hview⟩ | ⟨hlive, hex, rfl, hview⟩
  · simp only [Phase.after, ↓reduceIte]
    exact h.move hview (by simp [Inside]) (.inl (by simp)) (by simp)
  · simp only [Phase.after, ↓reduceIte]
    refine h.enter hlive ⟨?_, congrArg Record.author hview⟩
    rw [hview]
    exact liveAt_some (lt_add_of_pos_right s.now (by exact_mod_cast hex))

theorem store_exclusive {value : String} {ex : ℤ} {r : Except RedisError Bool} (h : Exclusive record s g)
    (hmay : May record (g i) (.redisSet record value false ex))
    (hreply : (timeless record).reply i s (.redisSet record value false ex) r s') :
    Exclusive record s' (Function.update g i (Phase.after record (g i) (.redisSet record value false ex) r)) := by
  obtain ⟨hi, payload, rfl⟩ := hmay rfl
  obtain ⟨hex, hview⟩ := store_reply hreply
  simp only [Phase.after, ↓reduceIte]
  refine h.leave (.inl hi) (.inr ⟨rfl, payload, ?_⟩)
  rw [hview]
  exact liveAt_some (lt_add_of_pos_right s.now (by exact_mod_cast hex))

theorem look_exclusive {r : Except RedisError (Option String)} (h : Exclusive record s g)
    (hmay : May record (g i) (.redisGet record)) (hfinds : FindsRecord record s g i (.redisGet record))
    (hreply : (timeless record).reply i s (.redisGet record) r s') :
    Exclusive record s' (Function.update g i (Phase.after record (g i) (.redisGet record) r)) := by
  have hphase : Phase.after record (g i) (.redisGet record) r = (g i).afterGet r := if_pos rfl
  rw [hphase]
  rcases look_reply hreply with ⟨hlive, rfl, -⟩ | ⟨value, hlive, rfl, hview⟩
  · -- the guard, and nobody who would release, stand against an absent record
    rcases hmay rfl with hg | hg | hg
    · exact absurd hlive (hfinds rfl hg)
    · exact absurd (.inl hg) (h.absent hlive i).1
    · exact absurd hg (h.absent hlive i).2
  · rcases hmay rfl with hg | hg | hg
    · have hover : (g i).afterGet (.ok (some value)) = .over := by
        rw [hg]
        exact if_neg (readRecord_some_ne_miss value)
      rw [hover]
      exact h.move hview (by simp [Inside]) (.inl nofun) nofun
    · have hvalue : value = statusInProgress := by
        have hholds := (h.holds i (.inl hg)).1
        rw [hlive] at hholds
        injection hholds with hholds
        injection hholds
      have hreleasing : (g i).afterGet (.ok (some value)) = .releasing := by
        rw [hg, hvalue]
        rfl
      rw [hreleasing]
      exact h.move hview (fun _ => .inl hg) (.inl nofun) nofun
    · obtain ⟨payload, hkept⟩ := h.kept i hg
      have hvalue : value ≠ statusInProgress := by
        rw [hlive] at hkept
        injection hkept with hkept
        injection hkept with hkept
        rw [hkept]
        exact completed_ne_lease payload
      have hover : (g i).afterGet (.ok (some value)) = .over := by
        rw [hg]
        simp [Phase.afterGet, hvalue]
      rw [hover]
      exact h.move hview (by simp [Inside]) (.inl nofun) nofun

theorem erase_exclusive {r : Except RedisError Unit} (h : Exclusive record s g)
    (hmay : May record (g i) (.redisDelete record)) :
    Exclusive record s' (Function.update g i (Phase.after record (g i) (.redisDelete record) r)) := by
  have hphase : Phase.after record (g i) (.redisDelete record) r = .over := if_pos rfl
  rw [hphase]
  rcases hmay rfl with hg | hg
  · exact h.leave (.inr hg) (.inl rfl)
  · exact absurd hg (h.notLate i)

theorem exclusive_keeps :
    Pool.Keeps (timeless record) (Phase.after record) (FindsRecord record) (May record) (@Exclusive ι record) := by
  constructor
  · intro s g i c r s' h hmay hfinds hreply
    rcases hmay.cases with hspares | hon
    · rw [spares_after hmay hspares]
      refine h.move (spares_reply hspares hreply) id ?_ (h.notLate i)
      by_cases hg : g i = .completed
      · exact .inr hg
      · exact .inl hg
    · cases hon with
      | claim value ex => exact claim_exclusive h hmay hreply
      | store value ex => exact store_exclusive h hmay hreply
      | look => exact look_exclusive h hmay hfinds hreply
      | erase => exact erase_exclusive h hmay
  · intro s g s' h hdrift
    exact hdrift.elim

end Exclusion

section Runs

variable [DecidableEq ι]

/-- In every run in which begins find the record they look at, at most one call is inside, it holds the
lease, and nobody else invokes a provider. -/
theorem one_inside_when_begins_find_record (service : ι → CreateResponse) (command : ι → CreateResponseCommand)
    (organization_id : UUID) (key : String) (hcalls : SameKey organization_id key command) (now : ℚ)
    (redis : RedisServer)
    (pool : Pool ι Command Response Empty Exn GenerationContracts.GenerationResponse (Shared ι) Phase)
    (hrun : Pool.Reaches (timeless (RedisIdempotencyStore.redisKey organization_id key))
      (Phase.after (RedisIdempotencyStore.redisKey organization_id key))
      (FindsRecord (RedisIdempotencyStore.redisKey organization_id key)) (start service command now redis) pool) :
    (∀ i j, Inside (pool.note i) → Inside (pool.note j) → i = j) ∧
      (∀ i, Inside (pool.note i) →
        HoldsLease (RedisIdempotencyStore.redisKey organization_id key) pool.shared i) ∧
      (∀ i, invokesProvider (pool.rest i) = true → Inside (pool.note i)) ∧
      ∀ i j, invokesProvider (pool.rest i) = true → invokesProvider (pool.rest j) = true → i = j := by
  have hstart : Exclusive (RedisIdempotencyStore.redisKey organization_id key)
      (start service command now redis).shared (start service command now redis).note := by
    constructor
    · intro i hi
      rcases hi with hi | hi <;> cases hi
    · intro i hi
      cases hi
    · intro i hi
      cases hi
  obtain ⟨hdisciplined, hexclusive⟩ := hrun.keeps exclusive_keeps (start_disciplined hcalls) hstart
  have hinvokes : ∀ i, invokesProvider (pool.rest i) = true → Inside (pool.note i) := by
    intro i hi
    cases hrest : pool.rest i with
    | call c k =>
      rw [hrest] at hi
      have hmay := hdisciplined.asks hrest
      cases c <;> first | exact .inl hmay | cases hi
    | _ =>
      rw [hrest] at hi
      cases hi
  refine ⟨fun i j hi hj => hexclusive.one hi hj, hexclusive.holds, hinvokes, ?_⟩
  intro i j hi hj
  exact hexclusive.one (hinvokes i hi) (hinvokes j hj)

/-- A begin that finds no record returns Miss to a call without a lease. -/
theorem inside_without_lease {record : String} {s s' : Shared ι} {g : ι → Phase} {i : ι}
    {r : Except RedisError (Option String)} (hg : g i = .refused) (hlive : (s.view record).live = none)
    (hreply : (timeless record).reply i s (.redisGet record) r s') :
    Inside (Phase.after record (g i) (.redisGet record) r) ∧ ¬ HoldsLease record s' i := by
  rcases look_reply hreply with ⟨-, rfl, hview⟩ | ⟨value, hsome, -⟩
  · refine ⟨.inl ?_, ?_⟩
    · rw [hg]
      simp [Phase.after, Phase.afterGet, RedisIdempotencyStore.readRecord]
    · intro hholds
      have hcell := hholds.1
      rw [hview] at hcell
      cases hcell
  · rw [hlive] at hsome
    cases hsome

end Runs

section Samples

inductive Caller where
  | first
  | second
  | third
deriving DecidableEq

def keyedCommand : CreateResponseCommand := sampleCommand plainRequest (uuid 3) "req-1" (some "key-1")

def keyedRecord : String := RedisIdempotencyStore.redisKey (uuid 3) "key-1"

def callers : Pool Caller Command Response Empty Exn GenerationContracts.GenerationResponse (Shared Caller) Phase :=
  start (fun _ => sampleService) (fun _ => keyedCommand) 100 fun _ => none

/-- The provider refuses the first caller and keeps the others waiting. -/
def script (i : Caller) (s : Shared Caller) (c : Command) : Option (Response c × Shared Caller) :=
  if c.isProviderCall && i ≠ .first then none
  else
    s.answer keyedRecord i c (answer { calm 100 (uuid 3) (sampleResponse none) with
      generate := fun _ => .error (.provider (.permanent .openAI "refused")) } (.start emptyWorld) c).1

theorem script_replies (i : Caller) (s : Shared Caller) (c : Command) (r : Response c) (s' : Shared Caller)
    (h : script i s c = some (r, s')) : (timeless keyedRecord).reply i s c r s' := by
  unfold script at h
  split_ifs at h
  exact ⟨_, h⟩

def carefulScript (i : Caller) (s : Shared Caller) (c : Command) : Option (Response c × Shared Caller) :=
  match c with
  | .redisGet key => if (s.view key).live = none then none else script i s (.redisGet key)
  | c => script i s c

theorem carefulScript_script {i : Caller} {s s' : Shared Caller} {c : Command} {r : Response c}
    (h : carefulScript i s c = some (r, s')) : script i s c = some (r, s') := by
  cases c with
  | redisGet key =>
    simp only [carefulScript] at h
    split_ifs at h
    exact h
  | _ => exact h

theorem carefulScript_finds (i : Caller) (s : Shared Caller) (g : Caller → Phase) (c : Command) (r : Response c)
    (s' : Shared Caller) (h : carefulScript i s c = some (r, s')) : FindsRecord keyedRecord s g i c := by
  rintro rfl _ hlive
  simp only [carefulScript] at h
  rw [if_pos hlive] at h
  cases h

/-- The second caller claims the key, then the third is refused it. -/
def refusing : Pool Caller Command Response Empty Exn GenerationContracts.GenerationResponse (Shared Caller) Phase :=
  Pool.turns carefulScript (Phase.after keyedRecord) (List.replicate 20 .second ++ List.replicate 20 .third) callers

theorem second_inside_third_refused :
    ∃ pool, Pool.Reaches (timeless keyedRecord) (Phase.after keyedRecord) (FindsRecord keyedRecord) callers pool ∧
      invokesProvider (pool.rest .second) = true ∧ pool.note .third = .over ∧
      ∀ i, Inside (pool.note i) → i = .second := by
  have hrun :
      Pool.Reaches (timeless keyedRecord) (Phase.after keyedRecord) (FindsRecord keyedRecord) callers refusing :=
    Pool.turns_reach (fun i s c r s' h => script_replies i s c r s' (carefulScript_script h)) carefulScript_finds _ _
  have hinvokes : invokesProvider (refusing.rest .second) = true := by
    decide +kernel
  obtain ⟨hone, -, hinside, -⟩ := one_inside_when_begins_find_record (fun _ => sampleService)
    (fun _ => keyedCommand) (uuid 3) "key-1" (fun _ => ⟨rfl, rfl⟩) 100 (fun _ => none) refusing hrun
  exact ⟨refusing, hrun, hinvokes, by decide +kernel, fun i hi => hone i .second hi (hinside .second hinvokes)⟩

/-- The first caller claims the key, the second is refused it, the first fails and releases; then the second
looks at the record and the third claims the key. -/
def overtaking : List Caller :=
  List.replicate 3 .first ++ List.replicate 3 .second ++ List.replicate 20 .first ++
    List.replicate 20 .second ++ List.replicate 20 .third

/-- Two callers are inside and invoke the provider, one of them without a lease. -/
theorem two_inside_after_release :
    ∃ pool, Pool.Reaches (timeless keyedRecord) (Phase.after keyedRecord) (fun _ _ _ _ => True) callers pool ∧
      Inside (pool.note .second) ∧ Inside (pool.note .third) ∧ ¬ HoldsLease keyedRecord pool.shared .second ∧
      invokesProvider (pool.rest .second) = true ∧ invokesProvider (pool.rest .third) = true := by
  refine ⟨_, Pool.turns_reach script_replies (fun _ _ _ _ _ _ _ => trivial) overtaking callers, ?_⟩
  have hsecond : (Pool.turns script (Phase.after keyedRecord) overtaking callers).note .second = .inside := by
    decide +kernel
  have hthird : (Pool.turns script (Phase.after keyedRecord) overtaking callers).note .third = .inside := by
    decide +kernel
  have hauthor : (Pool.turns script (Phase.after keyedRecord) overtaking callers).shared.author = some .third := by
    decide +kernel
  refine ⟨.inl hsecond, .inl hthird, ?_, by decide +kernel, by decide +kernel⟩
  intro hholds
  have howner := hholds.2
  rw [hauthor] at howner
  cases howner

end Samples

end AIRuntime.LeaseExclusion
