import AIRuntime.LeaseExclusion

set_option autoImplicit false

/-! What becomes of a completed record while leases may expire. -/
namespace AIRuntime.RecordStability

open EffectPrograms Failures Identifiers Collaborators RedisAdapters SharedStores ServiceRuns ResponseCreation
  ResponseRuns LeaseRaces LeaseExclusion

variable {ι : Type} {record : String} {s s' : Shared ι} {g : ι → Phase} {i : ι}

section Leases

def Unexpired (s : Shared ι) (i : ι) : Prop := ∃ deadline, s.lease i = some deadline ∧ s.now < deadline

/-- A call completes or deletes the record while its own lease lasts, or else while there is no record. -/
def InTime (record : String) (s : Shared ι) (_g : ι → Phase) (i : ι) (c : Command) : Prop :=
  match c with
  | .redisSet key _ false _ => key = record → Unexpired s i ∨ (s.view record).live = none
  | .redisDelete key => key = record → Unexpired s i ∨ (s.view record).live = none
  | _ => True

/-- While the lease of a call that is inside lasts, it is the record. -/
structure Tracked (record : String) (s : Shared ι) (g : ι → Phase) : Prop where
  leased : ∀ i deadline, Inside (g i) → s.lease i = some deadline → s.now < deadline →
    s.redis record = some ⟨.text statusInProgress, deadline⟩ ∧ s.author = some i
  unleased : ∀ i, Inside (g i) ∨ g i = .over ∨ s.lease i = none

theorem Tracked.holds (h : Tracked record s g) (hi : Inside (g i)) (hlease : Unexpired s i) :
    HoldsLease record s i := by
  obtain ⟨deadline, hdeadline, hnow⟩ := hlease
  obtain ⟨hcell, hauthor⟩ := h.leased i deadline hi hdeadline hnow
  refine ⟨?_, hauthor⟩
  unfold Record.live Shared.view
  rw [hcell]
  exact liveAt_some hnow

theorem Tracked.one (h : Tracked record s g) (hi : Inside (g i))
    (htime : Unexpired s i ∨ (s.view record).live = none) {j : ι} (hj : Inside (g j)) (hlease : Unexpired s j) :
    j = i := by
  have hholds := h.holds hj hlease
  rcases htime with hown | hlive
  · have hauthor := (h.holds hi hown).2
    rw [hholds.2] at hauthor
    exact Option.some.inj hauthor
  · have hsome := hholds.1
    rw [hlive] at hsome
    cases hsome

theorem Tracked.drift (h : Tracked record s g) {now : ℚ} (hnow : s.now ≤ now) :
    Tracked record { s with now := now } g :=
  ⟨fun i deadline hi hlease hbefore => h.leased i deadline hi hlease (lt_of_le_of_lt hnow hbefore), h.unleased⟩

theorem Tracked.absent (h : Tracked record s g) (hlive : (s.view record).live = none) {j : ι} (hj : Inside (g j)) :
    ¬ Unexpired s j := by
  intro hlease
  have hsome := (h.holds hj hlease).1
  rw [hlive] at hsome
  cases hsome

variable [DecidableEq ι]

theorem Tracked.update (h : Tracked record s g) {phase : Phase} (hnow : s'.now = s.now)
    (hothers : ∀ j, j ≠ i → s'.lease j = s.lease j)
    (hkept : ∀ j, j ≠ i → Inside (g j) → Unexpired s j →
      s'.redis record = s.redis record ∧ s'.author = s.author)
    (hown : ∀ deadline, Inside phase → s'.lease i = some deadline → s'.now < deadline →
      s'.redis record = some ⟨.text statusInProgress, deadline⟩ ∧ s'.author = some i)
    (hunleased : Inside phase ∨ phase = .over ∨ s'.lease i = none) :
    Tracked record s' (Function.update g i phase) := by
  constructor
  · intro j deadline hj hlease hbefore
    by_cases hji : j = i
    · subst hji
      rw [Function.update_self] at hj
      exact hown deadline hj hlease hbefore
    · rw [Function.update_of_ne hji] at hj
      rw [hothers j hji] at hlease
      rw [hnow] at hbefore
      obtain ⟨hcell, hauthor⟩ := hkept j hji hj ⟨deadline, hlease, hbefore⟩
      rw [hcell, hauthor]
      exact h.leased j deadline hj hlease hbefore
  · intro j
    by_cases hji : j = i
    · subst hji
      rw [Function.update_self]
      exact hunleased
    · rw [Function.update_of_ne hji, hothers j hji]
      exact h.unleased j

theorem Tracked.move (h : Tracked record s g) (hview : s'.view record = s.view record) {phase : Phase}
    (hinside : Inside phase → Inside (g i)) (hunleased : Inside phase ∨ phase = .over ∨ s.lease i = none) :
    Tracked record s' (Function.update g i phase) := by
  have hnow : s'.now = s.now := congrArg Record.now hview
  have hcell : s'.redis record = s.redis record := congrArg Record.cell hview
  have hauthor : s'.author = s.author := congrArg Record.author hview
  have hlease : s'.lease = s.lease := congrArg Record.lease hview
  refine h.update hnow (fun j _ => congrFun hlease j) (fun _ _ _ _ => ⟨hcell, hauthor⟩) ?_ ?_
  · intro deadline hi hdeadline hbefore
    rw [hlease] at hdeadline
    rw [hnow] at hbefore
    rw [hcell, hauthor]
    exact h.leased i deadline (hinside hi) hdeadline hbefore
  · rw [hlease]
    exact hunleased

theorem claim_tracked {value : String} {ex : ℤ} {r : Except RedisError Bool} (h : Tracked record s g)
    (hmay : May record (g i) (.redisSet record value true ex))
    (hreply : (timeless record).reply i s (.redisSet record value true ex) r s') :
    Tracked record s' (Function.update g i (Phase.after record (g i) (.redisSet record value true ex) r)) := by
  obtain ⟨hfresh, rfl⟩ := hmay rfl
  have hnone : s.lease i = none := by
    rcases h.unleased i with hi | hi | hi
    · rw [hfresh] at hi
      rcases hi with hi | hi <;> cases hi
    · rw [hfresh] at hi
      cases hi
    · exact hi
  rcases claim_reply hreply with ⟨-, rfl, hview⟩ | ⟨hlive, -, rfl, hview⟩
  · simp only [Phase.after, ↓reduceIte]
    exact h.move hview (by simp [Inside]) (.inr (.inr hnone))
  · simp only [Phase.after, ↓reduceIte]
    have hnow : s'.now = s.now := congrArg Record.now hview
    have hcell : s'.redis record = some ⟨.text statusInProgress, s.now + ex⟩ := congrArg Record.cell hview
    have hauthor : s'.author = some i := congrArg Record.author hview
    have hlease : s'.lease = Function.update s.lease i (some (s.now + ex)) := congrArg Record.lease hview
    refine h.update hnow (fun j hj => ?_) (fun j _ hj hun => absurd hun (h.absent hlive hj)) ?_ (.inl (.inl rfl))
    · rw [hlease, Function.update_of_ne hj]
    · intro deadline _ hdeadline _
      rw [hlease, Function.update_self] at hdeadline
      cases hdeadline
      exact ⟨hcell, hauthor⟩

theorem store_tracked {value : String} {ex : ℤ} {r : Except RedisError Bool} (h : Tracked record s g)
    (hmay : May record (g i) (.redisSet record value false ex))
    (htime : InTime record s g i (.redisSet record value false ex))
    (hreply : (timeless record).reply i s (.redisSet record value false ex) r s') :
    Tracked record s' (Function.update g i (Phase.after record (g i) (.redisSet record value false ex) r)) := by
  obtain ⟨hi, -⟩ := hmay rfl
  obtain ⟨-, hview⟩ := store_reply hreply
  have hlease : s'.lease = Function.update s.lease i none := congrArg Record.lease hview
  simp only [Phase.after, ↓reduceIte]
  refine h.update (congrArg Record.now hview) (fun j hj => ?_) ?_ (fun _ hin => ?_) (.inr (.inr ?_))
  · rw [hlease, Function.update_of_ne hj]
  · intro j hji hj hun
    exact absurd (h.one (.inl hi) (htime rfl) hj hun) hji
  · rcases hin with hin | hin <;> cases hin
  · rw [hlease, Function.update_self]

theorem look_tracked {r : Except RedisError (Option String)} (h : Tracked record s g)
    (hmay : May record (g i) (.redisGet record))
    (hreply : (timeless record).reply i s (.redisGet record) r s') :
    Tracked record s' (Function.update g i (Phase.after record (g i) (.redisGet record) r)) := by
  have hphase : Phase.after record (g i) (.redisGet record) r = (g i).afterGet r := if_pos rfl
  have hnone : g i = .refused ∨ g i = .completed → s.lease i = none := by
    intro hg
    rcases h.unleased i with hi | hi | hi
    · rcases hg with hg | hg <;> rw [hg] at hi <;> rcases hi with hi | hi <;> cases hi
    · rcases hg with hg | hg <;> rw [hg] at hi <;> cases hi
    · exact hi
  rw [hphase]
  rcases look_reply hreply with ⟨hlive, rfl, hview⟩ | ⟨value, hlive, rfl, hview⟩
  · have hlease : s'.lease = s.lease := congrArg Record.lease hview
    refine h.update (congrArg Record.now hview) (fun j _ => congrFun hlease j)
      (fun j _ hj hun => absurd hun (h.absent hlive hj)) ?_ ?_
    · intro deadline hin hdeadline _
      rw [hlease] at hdeadline
      rcases hmay rfl with hg | hg | hg
      · rw [hnone (.inl hg)] at hdeadline
        cases hdeadline
      · rw [hg] at hin
        rcases hin with hin | hin <;> cases hin
      · rw [hg] at hin
        rcases hin with hin | hin <;> cases hin
    · rcases hmay rfl with hg | hg | hg
      · exact .inl (.inl (by rw [hg]; rfl))
      · exact .inr (.inl (by rw [hg]; rfl))
      · exact .inr (.inl (by rw [hg]; rfl))
  · rcases hmay rfl with hg | hg | hg
    · have hover : (g i).afterGet (.ok (some value)) = .over := by
        rw [hg]
        exact if_neg (readRecord_some_ne_miss value)
      rw [hover]
      exact h.move hview (by simp [Inside]) (.inr (.inl rfl))
    · refine h.move hview (fun _ => .inl hg) ?_
      rw [hg]
      by_cases hvalue : (some value : Option String) = some statusInProgress
      · exact .inl (.inr (if_pos hvalue))
      · exact .inr (.inl (if_neg hvalue))
    · refine h.move hview (fun hin => ?_) (.inr (.inr (hnone (.inr hg))))
      rw [hg] at hin
      by_cases hvalue : (some value : Option String) = some statusInProgress
      · rw [show Phase.completed.afterGet (.ok (some value)) = .lateReleasing from if_pos hvalue] at hin
        rcases hin with hin | hin <;> cases hin
      · rw [show Phase.completed.afterGet (.ok (some value)) = .over from if_neg hvalue] at hin
        rcases hin with hin | hin <;> cases hin

theorem erase_tracked {r : Except RedisError Unit} (h : Tracked record s g)
    (hmay : May record (g i) (.redisDelete record)) (htime : InTime record s g i (.redisDelete record))
    (hreply : (timeless record).reply i s (.redisDelete record) r s') :
    Tracked record s' (Function.update g i (Phase.after record (g i) (.redisDelete record) r)) := by
  have hphase : Phase.after record (g i) (.redisDelete record) r = .over := if_pos rfl
  have hview := erase_reply hreply
  have hlease : s'.lease = s.lease := congrArg Record.lease hview
  rw [hphase]
  refine h.update (congrArg Record.now hview) (fun j _ => congrFun hlease j) ?_ (fun _ hin => ?_) (.inr (.inl rfl))
  · intro j hji hj hun
    rcases hmay rfl with hg | hg
    · exact absurd (h.one (.inr hg) (htime rfl) hj hun) hji
    · -- a call that has completed has no lease left
      have hlive : (s.view record).live = none := by
        rcases htime rfl with ⟨deadline, hdeadline, -⟩ | hlive
        · rcases h.unleased i with hi | hi | hi
          · rw [hg] at hi
            rcases hi with hi | hi <;> cases hi
          · rw [hg] at hi
            cases hi
          · rw [hdeadline] at hi
            cases hi
        · exact hlive
      exact absurd hun (h.absent hlive hj)
  · rcases hin with hin | hin <;> cases hin

theorem answered_tracked {c : Command} {r : Response c} (h : Tracked record s g) (hmay : May record (g i) c)
    (htime : InTime record s g i c) (hreply : (timeless record).reply i s c r s') :
    Tracked record s' (Function.update g i (Phase.after record (g i) c r)) := by
  rcases hmay.cases with hspares | hon
  · rw [spares_after hmay hspares]
    exact h.move (spares_reply hspares hreply) id (h.unleased i)
  · cases hon with
    | claim value ex => exact claim_tracked h hmay hreply
    | store value ex => exact store_tracked h hmay htime hreply
    | look => exact look_tracked h hmay hreply
    | erase => exact erase_tracked h hmay htime hreply

theorem tracked_keeps :
    Pool.Keeps (timed record) (Phase.after record) (InTime record) (May record) (@Tracked ι record) := by
  constructor
  · intro s g i c r s' h hmay htime hreply
    exact answered_tracked h hmay htime hreply
  · intro s g s' h hdrift
    obtain ⟨now, hnow, rfl⟩ := hdrift
    exact h.drift hnow

end Leases

section Stability

variable [DecidableEq ι]

def Stored (record payload : String) (deadline : ℚ) (s : Shared ι) : Prop :=
  s.now < deadline → s.redis record = some ⟨.text (completedPrefix ++ payload), deadline⟩

omit [DecidableEq ι] in
theorem Stored.live {payload : String} {deadline : ℚ} (h : Stored record payload deadline s)
    (hnow : s.now < deadline) :
    (s.view record).live = some (.text (completedPrefix ++ payload)) := by
  unfold Record.live Shared.view
  rw [h hnow]
  exact liveAt_some hnow

omit [DecidableEq ι] in
/-- A call in time finds nothing of its own in a completed record, so the record has passed its deadline. -/
theorem late_of_in_time {payload : String} {deadline : ℚ} (hstored : Stored record payload deadline s)
    (htracked : Tracked record s g) (htime : Unexpired s i ∨ (s.view record).live = none)
    (hi : Inside (g i) ∨ s.lease i = none) : ¬ s.now < deadline := by
  intro hnow
  have hlive := hstored.live hnow
  rcases htime with hun | hnone
  · rcases hi with hi | hi
    · have hholds := (htracked.holds hi hun).1
      rw [hlive] at hholds
      injection hholds with hholds
      injection hholds with hholds
      exact completed_ne_lease payload hholds
    · obtain ⟨d, hd, -⟩ := hun
      rw [hi] at hd
      cases hd
  · rw [hlive] at hnone
    cases hnone

theorem answered_stored {payload : String} {deadline : ℚ} {c : Command} {r : Response c}
    (hstored : Stored record payload deadline s) (htracked : Tracked record s g) (hmay : May record (g i) c)
    (htime : InTime record s g i c) (hreply : (timeless record).reply i s c r s') :
    Stored record payload deadline s' := by
  have hsame : s'.view record = s.view record → Stored record payload deadline s' := by
    intro hview hnow
    rw [show s'.now = s.now from congrArg Record.now hview] at hnow
    rw [show s'.redis record = s.redis record from congrArg Record.cell hview]
    exact hstored hnow
  rcases hmay.cases with hspares | hon
  · exact hsame (spares_reply hspares hreply)
  · cases hon with
    | claim value ex =>
      rcases claim_reply hreply with ⟨-, -, hview⟩ | ⟨hlive, -, -, hview⟩
      · exact hsame hview
      · intro hnow
        rw [show s'.now = s.now from congrArg Record.now hview] at hnow
        rw [hstored.live hnow] at hlive
        cases hlive
    | store value ex =>
      obtain ⟨-, hview⟩ := store_reply hreply
      intro hnow
      rw [show s'.now = s.now from congrArg Record.now hview] at hnow
      exact absurd hnow (late_of_in_time hstored htracked (htime rfl) (.inl (.inl (hmay rfl).1)))
    | look =>
      rcases look_reply hreply with ⟨hlive, -, hview⟩ | ⟨value, -, -, hview⟩
      · intro hnow
        rw [show s'.now = s.now from congrArg Record.now hview] at hnow
        rw [hstored.live hnow] at hlive
        cases hlive
      · exact hsame hview
    | erase =>
      have hview := erase_reply hreply
      intro hnow
      rw [show s'.now = s.now from congrArg Record.now hview] at hnow
      have hi : Inside (g i) ∨ s.lease i = none := by
        rcases hmay rfl with hg | hg
        · exact .inl (.inr hg)
        · rcases htracked.unleased i with hi | hi | hi
          · exact .inl hi
          · rw [hg] at hi
            cases hi
          · exact .inr hi
      exact absurd hnow (late_of_in_time hstored htracked (htime rfl) hi)

theorem stored_keeps (payload : String) (deadline : ℚ) :
    Pool.Keeps (timed record) (Phase.after record) (InTime record) (May record)
      fun (s : Shared ι) g => Tracked record s g ∧ Stored record payload deadline s := by
  constructor
  · intro s g i c r s' h hmay htime hreply
    exact ⟨answered_tracked h.1 hmay htime hreply, answered_stored h.2 h.1 hmay htime hreply⟩
  · intro s g s' h hdrift
    obtain ⟨now, hnow, rfl⟩ := hdrift
    exact ⟨h.1.drift hnow, fun hbefore => h.2 (lt_of_le_of_lt hnow hbefore)⟩

/-- Who asks while the state is one of `P`, at each command another perhaps. -/
def answeredIn (record : String) (P : Shared ι → Prop) : Environment Command Response Unit where
  may := fun _ _ => True
  reply := fun _ c r _ => ∃ (i : ι) (s s' : Shared ι), P s ∧ (timed record).reply i s c r s'

/-- Every begin that is answered while the record is completed returns the payload. -/
theorem begin_completed {P : Shared ι → Prop} {payload : String} (store : RedisIdempotencyStore)
    (organization_id : UUID) (key : String)
    (hP : ∀ s, P s → (s.view (RedisIdempotencyStore.redisKey organization_id key)).live =
      some (.text (completedPrefix ++ payload))) :
    (store.begin organization_id key).wp (answeredIn (RedisIdempotencyStore.redisKey organization_id key) P)
      (fun u _ => u) (Prog.ends (fun result _ => result = .completed payload) fun _ _ => False) () := by
  unfold RedisIdempotencyStore.begin
  generalize RedisIdempotencyStore.redisKey organization_id key = record at hP
  refine ⟨trivial, ?_⟩
  rintro claimed u ⟨i, s, s', hs, hreply⟩
  rcases claim_reply hreply with ⟨-, rfl, -⟩ | ⟨hlive, -⟩
  · refine ⟨trivial, ?_⟩
    rintro got u ⟨j, s₁, s₁', hs₁, hreply₁⟩
    rcases look_reply hreply₁ with ⟨hlive, -⟩ | ⟨value, hlive, rfl, -⟩
    · rw [hP s₁ hs₁] at hlive
      cases hlive
    · rw [hP s₁ hs₁] at hlive
      cases hlive
      exact readRecord_completed payload
  · rw [hP s hs] at hlive
    cases hlive

def Completes (record : String) (i : ι) (payload : String) (deadline : ℚ)
    (pool pool' : Pool ι Command Response Empty Exn GenerationContracts.GenerationResponse (Shared ι) Phase) : Prop :=
  ∃ ex k r s', pool.rest i = .call (.redisSet record (completedPrefix ++ payload) false ex) k ∧
    InTime record pool.shared pool.note i (.redisSet record (completedPrefix ++ payload) false ex) ∧
    (timed record).reply i pool.shared (.redisSet record (completedPrefix ++ payload) false ex) r s' ∧
    deadline = pool.shared.now + ex ∧
    pool' = ⟨s', Function.update pool.rest i (k r), Function.update pool.note i .completed⟩

section InTime

variable {pool stored : Pool ι Command Response Empty Exn GenerationContracts.GenerationResponse (Shared ι) Phase}
  (hdisciplined : pool.Disciplined (Phase.after record) (May record))
  (htracked : Tracked record pool.shared pool.note)
include hdisciplined htracked

omit [DecidableEq ι] in
/-- A call that deletes in time deletes its own lease, or nothing. -/
theorem delete_in_time {k : Response (.redisDelete record) → Action GenerationContracts.GenerationResponse}
    (hrest : pool.rest i = .call (.redisDelete record) k)
    (htime : InTime record pool.shared pool.note i (.redisDelete record)) :
    (pool.shared.view record).live = none ∨ HoldsLease record pool.shared i := by
  rcases htime rfl with hun | hlive
  · right
    rcases hdisciplined.asks hrest rfl with hg | hg
    · exact htracked.holds (.inr hg) hun
    · rcases htracked.unleased i with hi | hi | hi
      · exact htracked.holds hi hun
      · rw [hg] at hi
        cases hi
      · obtain ⟨d, hd, -⟩ := hun
        rw [hi] at hd
        cases hd
  · exact .inl hlive

theorem completed_kept {payload : String} {deadline : ℚ} (h : Completes record i payload deadline pool stored)
    {later : Pool ι Command Response Empty Exn GenerationContracts.GenerationResponse (Shared ι) Phase}
    (hlater : Pool.Reaches (timed record) (Phase.after record) (InTime record) stored later) :
    Stored record payload deadline later.shared := by
  obtain ⟨ex, k, r, s', hrest, htime, hreply, rfl, rfl⟩ := h
  have hafter : Phase.after record (pool.note i) (.redisSet record (completedPrefix ++ payload) false ex) r =
      .completed := if_pos rfl
  have hstep : Pool.Step (timed record) (Phase.after record) (InTime record) pool
      ⟨s', Function.update pool.rest i (k r), Function.update pool.note i .completed⟩ := by
    rw [← hafter]
    exact .answered hrest htime hreply
  have hstored : Stored record payload (pool.shared.now + ex) s' := by
    intro _
    exact congrArg Record.cell (store_reply hreply).2
  obtain ⟨hdisciplined', htracked'⟩ := Pool.Reaches.keeps tracked_keeps (.single hstep) hdisciplined htracked
  exact (hlater.keeps (stored_keeps payload (pool.shared.now + ex)) hdisciplined' ⟨htracked', hstored⟩).2.2

end InTime

/-- In every run whose calls complete and delete in time, a release deletes only the lease of its own call,
and what a complete stored is kept and replayed until its deadline. -/
theorem record_stable_when_in_time (service : ι → CreateResponse) (command : ι → CreateResponseCommand)
    (organization_id : UUID) (key : String) (hcalls : SameKey organization_id key command) (now : ℚ)
    (redis : RedisServer)
    (pool : Pool ι Command Response Empty Exn GenerationContracts.GenerationResponse (Shared ι) Phase)
    (hrun : Pool.Reaches (timed (RedisIdempotencyStore.redisKey organization_id key))
      (Phase.after (RedisIdempotencyStore.redisKey organization_id key))
      (InTime (RedisIdempotencyStore.redisKey organization_id key)) (start service command now redis) pool) :
    (∀ i k, pool.rest i = .call (.redisDelete (RedisIdempotencyStore.redisKey organization_id key)) k →
      InTime (RedisIdempotencyStore.redisKey organization_id key) pool.shared pool.note i
        (.redisDelete (RedisIdempotencyStore.redisKey organization_id key)) →
      (pool.shared.view (RedisIdempotencyStore.redisKey organization_id key)).live = none ∨
        HoldsLease (RedisIdempotencyStore.redisKey organization_id key) pool.shared i) ∧
    ∀ i payload deadline stored,
      Completes (RedisIdempotencyStore.redisKey organization_id key) i payload deadline pool stored →
      (∀ later, Pool.Reaches (timed (RedisIdempotencyStore.redisKey organization_id key))
          (Phase.after (RedisIdempotencyStore.redisKey organization_id key))
          (InTime (RedisIdempotencyStore.redisKey organization_id key)) stored later →
        later.shared.now < deadline →
        later.shared.redis (RedisIdempotencyStore.redisKey organization_id key) =
          some ⟨.text (completedPrefix ++ payload), deadline⟩) ∧
      ∀ store : RedisIdempotencyStore, (store.begin organization_id key).wp
        (answeredIn (RedisIdempotencyStore.redisKey organization_id key) fun s =>
          ∃ later, Pool.Reaches (timed (RedisIdempotencyStore.redisKey organization_id key))
            (Phase.after (RedisIdempotencyStore.redisKey organization_id key))
            (InTime (RedisIdempotencyStore.redisKey organization_id key)) stored later ∧
            later.shared.now < deadline ∧ s = later.shared)
        (fun u _ => u) (Prog.ends (fun result _ => result = .completed payload) fun _ _ => False) () := by
  generalize hrecord : RedisIdempotencyStore.redisKey organization_id key = record at *
  have hstart : Tracked record (start service command now redis).shared (start service command now redis).note :=
    ⟨fun _ _ _ hlease => (nomatch hlease), fun _ => .inr (.inr rfl)⟩
  obtain ⟨hdisciplined, htracked⟩ := hrun.keeps tracked_keeps (hrecord ▸ start_disciplined hcalls) hstart
  refine ⟨fun i k hrest htime => delete_in_time hdisciplined htracked hrest htime, ?_⟩
  intro i payload deadline stored hcompletes
  refine ⟨fun later hlater hnow => completed_kept hdisciplined htracked hcompletes hlater hnow, fun store => ?_⟩
  subst hrecord
  apply begin_completed
  rintro s ⟨later, hlater, hnow, rfl⟩
  exact (completed_kept hdisciplined htracked hcompletes hlater).live hnow

end Stability

section Samples

open ResponsePayloads

/-- The provider refuses the first caller and answers the others. -/
def leaseScript (i : Caller) (s : Shared Caller) (c : Command) : Option (Response c × Shared Caller) :=
  s.answer keyedRecord i c (answer { calm 100 (uuid 3) (sampleResponse none) with
    generate := fun _ =>
      if i = .first then .error (.provider (.permanent .openAI "refused")) else .ok (sampleResponse none) }
    (.start emptyWorld) c).1

theorem leaseScript_replies (i : Caller) (s : Shared Caller) (c : Command) (r : Response c) (s' : Shared Caller)
    (h : leaseScript i s c = some (r, s')) : (timed keyedRecord).reply i s c r s' :=
  ⟨_, h⟩

def stores {α : Type} : Action α → Option (String × String × ℤ)
  | .call (.redisSet key value false ex) _ => some (key, value, ex)
  | _ => none

theorem stores_some {α : Type} {p : Action α} {key value : String} {ex : ℤ} (h : stores p = some (key, value, ex)) :
    ∃ k, p = .call (.redisSet key value false ex) k := by
  cases p with
  | call c k =>
    cases c with
    | redisSet key' value' nx ex' =>
      cases nx with
      | true => cases h
      | false =>
        cases h
        exact ⟨k, rfl⟩
    | _ => cases h
  | _ => cases h

abbrev Callers := Pool Caller Command Response Empty Exn GenerationContracts.GenerationResponse (Shared Caller) Phase

def samplePayload : String := serializeResponse (sampleResponse none)

theorem second_completes {pool : Callers}
    (hstores : stores (pool.rest .second) = some (keyedRecord, completedPrefix ++ samplePayload, 86400))
    (hlease : pool.shared.lease .second = some (pool.shared.now + 86400)) :
    Completes keyedRecord .second samplePayload (pool.shared.now + (86400 : ℤ)) pool
      (Pool.turn leaseScript (Phase.after keyedRecord) .second pool) := by
  obtain ⟨k, hrest⟩ := stores_some hstores
  have hanswered : ∃ s', leaseScript .second pool.shared
      (.redisSet keyedRecord (completedPrefix ++ samplePayload) false 86400) = some (.ok true, s') :=
    ⟨_, rfl⟩
  obtain ⟨s', hanswer⟩ := hanswered
  refine ⟨86400, k, .ok true, s', hrest, fun _ => .inl ⟨_, hlease, ?_⟩, leaseScript_replies _ _ _ _ _ hanswer, rfl,
    ?_⟩
  · exact lt_add_of_pos_right _ (by norm_num)
  · rw [Pool.turn_answered hrest hanswer]
    rfl

def claimScript (i : Caller) (s : Shared Caller) (c : Command) : Option (Response c × Shared Caller) :=
  match c with
  | .redisSet _ _ false _ => none
  | .redisDelete _ => none
  | c => leaseScript i s c

theorem claimScript_replies (i : Caller) (s : Shared Caller) (c : Command) (r : Response c) (s' : Shared Caller)
    (h : claimScript i s c = some (r, s')) : (timed keyedRecord).reply i s c r s' := by
  apply leaseScript_replies
  cases c with
  | redisSet key value nx ex =>
    cases nx with
    | true => exact h
    | false => cases h
  | redisDelete key => cases h
  | _ => exact h

theorem claimScript_in_time (i : Caller) (s : Shared Caller) (g : Caller → Phase) (c : Command) (r : Response c)
    (s' : Shared Caller) (h : claimScript i s c = some (r, s')) : InTime keyedRecord s g i c := by
  cases c with
  | redisSet key value nx ex =>
    cases nx with
    | true => trivial
    | false => cases h
  | redisDelete key => cases h
  | _ => trivial

def generated : Callers := Pool.turns claimScript (Phase.after keyedRecord) (List.replicate 20 .second) callers

/-- What the second caller completes is there for a day. -/
theorem sample_payload_kept :
    Pool.Reaches (timed keyedRecord) (Phase.after keyedRecord) (InTime keyedRecord) callers generated ∧
      ∀ later, Pool.Reaches (timed keyedRecord) (Phase.after keyedRecord) (InTime keyedRecord)
          (Pool.turn leaseScript (Phase.after keyedRecord) .second generated) later →
        later.shared.now < generated.shared.now + (86400 : ℤ) →
        later.shared.redis keyedRecord =
          some ⟨.text (completedPrefix ++ samplePayload), generated.shared.now + (86400 : ℤ)⟩ := by
  have hrun : Pool.Reaches (timed keyedRecord) (Phase.after keyedRecord) (InTime keyedRecord) callers generated :=
    Pool.turns_reach claimScript_replies claimScript_in_time _ _
  obtain ⟨-, hkept⟩ := record_stable_when_in_time (fun _ => sampleService) (fun _ => keyedCommand) (uuid 3) "key-1"
    (fun _ => ⟨rfl, rfl⟩) 100 (fun _ => none) generated hrun
  exact ⟨hrun, (hkept .second samplePayload _ _
    (second_completes (by decide +kernel) (by decide +kernel))).1⟩

/-- The first caller has claimed the key, and its lease has expired. -/
def outlived : Callers :=
  let pool := Pool.turns leaseScript (Phase.after keyedRecord) (List.replicate 3 .first) callers
  { pool with shared := { pool.shared with now := 86500 } }

/-- The second caller has claimed the key anew and is about to complete; the provider has refused the first,
whose release has seen the second's lease. -/
def overtaken : Callers :=
  Pool.turns leaseScript (Phase.after keyedRecord) (List.replicate 10 .second ++ List.replicate 13 .first) outlived

/-- The second caller completes, and the release of the first deletes what it completed. -/
theorem completed_record_deleted :
    ∃ pool stored later deadline,
      Pool.Reaches (timed keyedRecord) (Phase.after keyedRecord) (fun _ _ _ _ => True) callers pool ∧
      Completes keyedRecord .second samplePayload deadline pool stored ∧
      Pool.Reaches (timed keyedRecord) (Phase.after keyedRecord) (fun _ _ _ _ => True) stored later ∧
      later.shared.now < deadline ∧ later.shared.redis keyedRecord = none := by
  have hreplies := leaseScript_replies
  refine ⟨overtaken, Pool.turn leaseScript (Phase.after keyedRecord) .second overtaken,
    Pool.turns leaseScript (Phase.after keyedRecord) [.first]
      (Pool.turn leaseScript (Phase.after keyedRecord) .second overtaken),
    overtaken.shared.now + (86400 : ℤ), ?_, second_completes (by decide +kernel) (by decide +kernel),
    Pool.turns_reach hreplies (fun _ _ _ _ _ _ _ => trivial) _ _, by decide +kernel, by decide +kernel⟩
  have hclaimed : Pool.Reaches (timed keyedRecord) (Phase.after keyedRecord) (fun _ _ _ _ => True) callers
      (Pool.turns leaseScript (Phase.after keyedRecord) (List.replicate 3 .first) callers) :=
    Pool.turns_reach hreplies (fun _ _ _ _ _ _ _ => trivial) _ _
  have hexpired : Pool.Step (timed keyedRecord) (Phase.after keyedRecord) (fun _ _ _ _ => True)
      (Pool.turns leaseScript (Phase.after keyedRecord) (List.replicate 3 .first) callers) outlived :=
    .drifted ⟨86500, by decide +kernel, rfl⟩
  have hovertaken : Pool.Reaches (timed keyedRecord) (Phase.after keyedRecord) (fun _ _ _ _ => True) outlived
      overtaken :=
    Pool.turns_reach hreplies (fun _ _ _ _ _ _ _ => trivial) _ _
  exact (hclaimed.tail hexpired).trans hovertaken

end Samples

end AIRuntime.RecordStability
