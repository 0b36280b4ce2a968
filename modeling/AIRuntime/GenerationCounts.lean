import AIRuntime.CallEntry
import AIRuntime.ServiceRuns
import AIRuntime.ResponseRuns

set_option autoImplicit false

/-! How often `execute` counts a call in `generation_requests_total`, and with which result. -/
namespace AIRuntime.GenerationCounts

open EffectPrograms Failures Identifiers GenerationContracts AccountingRecords Collaborators ProviderExecution
  PolicyEnforcement PythonFloats RedisAdapters ResponsePayloads ResponseCreation ResponseScopes ResponseRuns CallEntry

section Counts

variable {α β : Type}

def requestCount : Observation Empty → Option (Option String × ℚ)
  | .asked (.increment name labels amount) _ =>
    if name = "generation_requests_total" then some (labels.lookup "result", amount) else none
  | _ => none

def requestCounts (t : List (Observation Empty)) : List (Option String × ℚ) := t.filterMap requestCount

def resultOf : Except Exn α → String
  | .ok _ => "success"
  | .error _ => "error"

/-- The increments sum to one, and all say how the call ended. -/
def CountedOnce (t : List (Observation Empty)) (o : Except Exn α) : Prop :=
  ((requestCounts t).map Prod.snd).sum = 1 ∧ ∀ count ∈ requestCounts t, count.1 = some (resultOf o)

def Countable (input_tokens output_tokens : Option ℤ) : Prop :=
  (∀ n ∈ input_tokens, ¬ TooLarge n) ∧ ∀ n ∈ output_tokens, ¬ TooLarge n

/-- An audit row that is not stored, or a usage row that is stored with a count too large for a `float`. -/
def Disturbs : Observation Empty → Prop
  | .asked (.addAudit _) (.error _) => True
  | .asked (.addUsage record) (.ok _) => ¬ Countable record.input_tokens record.output_tokens
  | _ => False

def Kept (t : List (Observation Empty)) : Prop := ∀ obs ∈ t, ¬ Disturbs obs

theorem requestCounts_append (t t' : List (Observation Empty)) :
    requestCounts (t ++ t') = requestCounts t ++ requestCounts t' :=
  List.filterMap_append

theorem Kept.append_iff {t t' : List (Observation Empty)} : Kept (t ++ t') ↔ Kept t ∧ Kept t' :=
  List.forall_mem_append

def Uncounted : Command → Prop
  | .increment name _ _ => name ≠ "generation_requests_total"
  | .addAudit _ => False
  | .addUsage _ => False
  | _ => True

theorem exec_uncounted {p : Action α} (hp : p.Asks Uncounted) {t : List (Observation Empty)} {o : Except Exn α}
    (h : Prog.Exec p t o) : requestCounts t = [] ∧ Kept t := by
  have hasked := Prog.exec_asks hp h
  constructor
  · apply List.filterMap_eq_nil_iff.mpr
    intro obs hobs
    cases obs with
    | yielded e => exact e.elim
    | asked c r =>
      have hc := hasked c r hobs
      cases c with
      | increment name labels amount => exact if_neg hc
      | _ => rfl
  · intro obs hobs
    cases obs with
    | yielded e => exact e.elim
    | asked c r =>
      have hc := hasked c r hobs
      cases c with
      | addAudit event => exact hc.elim
      | addUsage record => exact hc.elim
      | _ => exact fun h => h

theorem countedOnce_none {t : List (Observation Empty)} (h : requestCounts t = []) (o : Except Exn α) :
    ¬CountedOnce t o := by
  unfold CountedOnce
  simp [h]

theorem countedOnce_one {t : List (Observation Empty)} {result : String} (h : requestCounts t = [(some result, 1)])
    (o : Except Exn α) : CountedOnce t o ↔ result = resultOf o := by
  unfold CountedOnce
  simp [h]

theorem countedOnce_two {t : List (Observation Empty)} {a b : Option String} (h : requestCounts t = [(a, 1), (b, 1)])
    (o : Except Exn α) : ¬CountedOnce t o := by
  unfold CountedOnce
  rw [h]
  norm_num

end Counts

section Parts

variable {self : CreateResponse} {command : CreateResponseCommand} {t : List (Observation Empty)}

theorem Meters.uncounted {organization_id : UUID} {c : Command} (h : Meters organization_id c) : Uncounted c := by
  cases c <;> trivial

theorem OnKey.uncounted {key : String} {c : Command} (h : OnKey key c) : Uncounted c := by
  cases c <;> trivial

theorem TriesRoutes.uncounted {organization_id : UUID} {c : Command} (h : TriesRoutes organization_id c) :
    Uncounted c := by
  cases c <;> trivial

theorem enforce_uncounted (policy : EnforceOrganizationPolicyCommand) :
    (enforceOrganizationPolicy policy).Asks Uncounted :=
  (enforce_asks policy).mono fun c hc => by cases c <;> trivial

/-- A usage row that is stored disturbs the call by its counts alone. -/
theorem recordUsage_exec {provider : String} {response : GenerationResponse} {o : Except Exn Unit}
    (h : Prog.Exec (self.recordUsage command provider response) t o) : requestCounts t = [] ∧
      (Kept t ↔ ∀ u, o = .ok u →
        Countable (response.usage.map (·.input_tokens)) (response.usage.map (·.output_tokens))) := by
  unfold CreateResponse.recordUsage at h
  simp only [Prog.bind_eq, Prog.ask_bind] at h
  have hraised : ∀ {t' : List (Observation Empty)} {err : Exn}, requestCounts t' = [] → Kept t' →
      requestCounts t' = [] ∧ (Kept t' ↔ ∀ u, (.error err : Except Exn Unit) = .ok u →
        Countable (response.usage.map (·.input_tokens)) (response.usage.map (·.output_tokens))) :=
    fun hcounts hkept => ⟨hcounts, iff_of_true hkept nofun⟩
  cases hcost : self.cost_estimator provider response.model response.usage with
  | error err =>
    rw [hcost] at h
    obtain ⟨rfl, rfl⟩ := Prog.exec_raise.mp h
    exact hraised rfl (List.forall_mem_nil _)
  | ok cost =>
    rw [hcost] at h
    obtain ⟨id, t₁, rfl, hread⟩ := Prog.exec_call.mp h
    obtain ⟨now, t₂, rfl, hrecord⟩ := Prog.exec_call.mp hread
    cases hnew : UsageRecord.new id command.request_id command.organization_id command.api_key_id provider
        response.model (response.usage.map (·.input_tokens)) (response.usage.map (·.output_tokens)) cost now.val with
    | error err =>
      rw [hnew] at hrecord
      obtain ⟨rfl, rfl⟩ := Prog.exec_raise.mp hrecord
      exact hraised rfl (by simp [Kept, Disturbs])
    | ok record =>
      obtain ⟨_, hfields⟩ := of_validated hnew
      rw [hnew] at hrecord
      obtain ⟨added, t₃, rfl, hadded⟩ := Prog.exec_call.mp hrecord
      cases added with
      | error err =>
        obtain ⟨rfl, rfl⟩ := Prog.exec_raise.mp hadded
        exact hraised rfl (by simp [Kept, Disturbs])
      | ok u =>
        obtain ⟨rfl, rfl⟩ := Prog.exec_done.mp hadded
        refine ⟨rfl, ?_⟩
        simp [Kept, Disturbs, hfields]

theorem storeInCache_uncounted (response : GenerationResponse) :
    (self.storeInCache command response).Asks Uncounted ∧ (self.storeInCache command response).Returns := by
  unfold CreateResponse.storeInCache
  split_ifs
  · exact ⟨(cacheSet_asks _ _ _ _).mono fun _ => OnKey.uncounted, fun _ => trivial⟩
  · exact ⟨trivial, trivial⟩

theorem completeClaim_uncounted (claimed : Option String) (response : GenerationResponse) :
    (self.completeClaim command claimed response).Asks Uncounted ∧
      (self.completeClaim command claimed response).Returns := by
  cases claimed with
  | none => exact ⟨trivial, trivial⟩
  | some key => exact ⟨(complete_asks _ _ _ _).mono fun _ => OnKey.uncounted, fun _ => trivial⟩

theorem releaseClaim_uncounted (claimed : Option String) :
    (CreateResponse.releaseClaim command claimed).Asks Uncounted ∧
      (CreateResponse.releaseClaim command claimed).Returns := by
  cases claimed with
  | none => exact ⟨trivial, trivial⟩
  | some key =>
    refine ⟨(release_asks _ _).mono fun _ => OnKey.uncounted, fun got => ?_⟩
    cases got with
    | error err => trivial
    | ok current =>
      change (if current = some statusInProgress then _ else _ : Action Unit).Returns
      split_ifs
      · exact fun _ => trivial
      · trivial

/-- An entry never raises: the adapters answer for a Redis that does not. -/
theorem enter_returns : (enter self command).Returns := by
  have hlook : ∀ claimed, (lookUp self command claimed).Returns := by
    intro claimed
    unfold lookUp CreateResponse.lookUpCache
    split_ifs
    · intro got
      cases got with
      | error err => trivial
      | ok found => cases found <;> trivial
    · trivial
  have hconsume : (self.rate_limiter.consume command.organization_id).Returns := by
    intro now got
    cases got <;> trivial
  refine hconsume.bind fun decision => ?_
  split_ifs
  · trivial
  · cases command.idempotency_key with
    | none => exact hlook none
    | some key =>
      have hbegin : (self.idempotency_store.begin command.organization_id key).Returns := by
        intro claimed
        cases claimed with
        | error err => trivial
        | ok taken =>
          cases taken with
          | true => trivial
          | false =>
            intro got
            cases got <;> trivial
      refine hbegin.bind fun begun => ?_
      cases begun with
      | completed payload => trivial
      | inProgress => trivial
      | miss => exact hlook (some key)

theorem error_exec {o : Except Exn Unit} (h : Prog.Exec recordGenerationError t o) :
    requestCounts t = [(some "error", 1)] ∧ Kept t ∧ o = .ok () := by
  obtain ⟨r, t', ht, htail⟩ := Prog.exec_call.mp h
  obtain ⟨ht', ho⟩ := Prog.exec_done.mp htail
  rw [ht, ht', ho]
  exact ⟨rfl, List.forall_mem_singleton.mpr fun h => h, rfl⟩

theorem countTokens_uncounted (count_tokens : Bool) (usage : Option TokenUsage) :
    (countTokens count_tokens usage).Asks Uncounted := by
  have hname : "generation_tokens_total" ≠ "generation_requests_total" := by decide
  cases count_tokens with
  | false => cases usage <;> trivial
  | true =>
    cases usage with
    | none => trivial
    | some u =>
      exact Prog.Asks.bind (Prog.Asks.ofExcept _) fun _ => Prog.Asks.bind ⟨hname, fun _ => trivial⟩ fun _ =>
        Prog.Asks.bind (Prog.Asks.ofExcept _) fun _ => ⟨hname, fun _ => trivial⟩

theorem countTokens_exec {count_tokens : Bool} {usage : Option TokenUsage} {o : Except Exn Unit}
    (h : Prog.Exec (countTokens count_tokens usage) t o) :
    (o = .ok () ∧ (count_tokens = true → Countable (usage.map (·.input_tokens)) (usage.map (·.output_tokens)))) ∨
      (o = .error overflowError ∧ count_tokens = true ∧
        ¬ Countable (usage.map (·.input_tokens)) (usage.map (·.output_tokens))) := by
  cases count_tokens with
  | false =>
    have h' : Prog.Exec (.done ()) t o := by cases usage <;> exact h
    exact .inl ⟨(Prog.exec_done.mp h').2, nofun⟩
  | true =>
    cases usage with
    | none => exact .inl ⟨(Prog.exec_done.mp h).2, fun _ => ⟨nofun, nofun⟩⟩
    | some u =>
      have hcountable : Countable ((some u).map (·.input_tokens)) ((some u).map (·.output_tokens)) ↔
          ¬ TooLarge u.input_tokens ∧ ¬ TooLarge u.output_tokens := by
        simp [Countable]
      rw [hcountable]
      unfold countTokens at h
      simp only [Prog.bind_eq, Prog.ask_bind] at h
      by_cases hinput : TooLarge u.input_tokens
      · rw [floatOfInt_tooLarge hinput] at h
        exact .inr ⟨(Prog.exec_raise.mp h).2, rfl, fun hboth => hboth.1 hinput⟩
      · rw [floatOfInt_ok hinput] at h
        obtain ⟨_, t₁, -, h⟩ := Prog.exec_call.mp h
        by_cases houtput : TooLarge u.output_tokens
        · rw [floatOfInt_tooLarge houtput] at h
          exact .inr ⟨(Prog.exec_raise.mp h).2, rfl, fun hboth => hboth.2 houtput⟩
        · rw [floatOfInt_ok houtput] at h
          obtain ⟨_, t₂, -, h⟩ := Prog.exec_call.mp h
          exact .inl ⟨(Prog.exec_done.mp h).2, fun _ => ⟨hinput, houtput⟩⟩

theorem recordGenerationSuccess_eq (command : CreateResponseCommand) (response : GenerationResponse)
    {outcome provider : String} (houtcome : PythonText.isBlank outcome = false)
    (hprovider : PythonText.isBlank provider = false) (count_tokens : Bool) :
    ∃ event : UUID → UtcInstant → AuditEvent, recordGenerationSuccess command response outcome provider count_tokens =
      .call (.increment "generation_requests_total" [("result", "success"), ("outcome", outcome)] 1) fun _ =>
        (countTokens count_tokens response.usage).bind fun _ => .call .uuid4 fun id => .call .utcNow fun now =>
          .call (.addAudit (event id now)) Prog.ofExcept := by
  have hmodel : PythonText.isBlank response.model = false :=
    requireNonBlank_none.mp (or_none (or_none response.ok).2).1
  have hnew := fun id now => @auditEvent_ok id now command.organization_id command.api_key_id command.request_id
    response.id response.model outcome provider hmodel houtcome hprovider
  choose event hevent _ using hnew
  refine ⟨event, congrArg (Prog.call _) (funext fun _ => Prog.bind_congr fun _ => congrArg (Prog.call _) ?_)⟩
  funext id
  refine congrArg (Prog.call _) (funext fun now => ?_)
  simp only [Prog.bind_eq, Prog.done_bind]
  rw [hevent id now]
  rfl

/-- The success is counted first; its token counts and the audit row can still fail. -/
theorem success_exec (response : GenerationResponse) {outcome provider : String}
    (houtcome : PythonText.isBlank outcome = false) (hprovider : PythonText.isBlank provider = false)
    {count_tokens : Bool} {o : Except Exn Unit}
    (h : Prog.Exec (recordGenerationSuccess command response outcome provider count_tokens) t o) :
    requestCounts t = [(some "success", 1)] ∧ ((∃ u, o = .ok u) ↔ Kept t ∧ (count_tokens = true →
      Countable (response.usage.map (·.input_tokens)) (response.usage.map (·.output_tokens)))) := by
  obtain ⟨event, heq⟩ := recordGenerationSuccess_eq command response houtcome hprovider count_tokens
  rw [heq] at h
  obtain ⟨r, t₁, rfl, hcounted⟩ := Prog.exec_call.mp h
  have hasks := countTokens_uncounted count_tokens response.usage
  have hfirst : ∀ t' : List (Observation Empty), Kept (Obs.asked (.increment "generation_requests_total"
      [("result", "success"), ("outcome", outcome)] 1) r :: t') ↔ Kept t' :=
    fun t' => List.forall_mem_cons.trans (and_iff_right fun h => h)
  rcases Prog.exec_bind.mp hcounted with ⟨x, rfl, hraise⟩ | ⟨u, t₂, t₃, rfl, htokens, hrest⟩
  · obtain ⟨hcounts, hkept⟩ := exec_uncounted hasks hraise
    obtain ⟨hok, -⟩ | ⟨-, hcounting, hlarge⟩ := countTokens_exec hraise
    · cases hok
    refine ⟨?_, ?_⟩
    · change (some "success", 1) :: requestCounts t₁ = _
      rw [hcounts]
    · exact iff_of_false nofun fun h => hlarge (h.2 hcounting)
  · obtain ⟨hcounts, hkept⟩ := exec_uncounted hasks htokens
    obtain ⟨-, hcountable⟩ | ⟨herr, -⟩ := countTokens_exec htokens
    swap
    · cases herr
    obtain ⟨id, t₄, rfl, hnow⟩ := Prog.exec_call.mp hrest
    obtain ⟨now, t₅, rfl, haudit⟩ := Prog.exec_call.mp hnow
    obtain ⟨added, t₆, rfl, hadded⟩ := Prog.exec_call.mp haudit
    have hend : t₆ = [] ∧ o = added := by
      cases added with
      | ok u => exact Prog.exec_done.mp hadded
      | error err => exact Prog.exec_raise.mp hadded
    obtain ⟨rfl, rfl⟩ := hend
    refine ⟨?_, ?_⟩
    · change (some "success", 1) :: requestCounts (t₂ ++ _) = _
      rw [requestCounts_append, hcounts]
      rfl
    · rw [hfirst, Kept.append_iff, and_iff_left hcountable, and_iff_right hkept]
      cases o with
      | ok u => exact iff_of_true ⟨u, rfl⟩ (by simp [Kept, Disturbs])
      | error err => exact iff_of_false nofun (by simp [Kept, Disturbs])

end Parts

section Calls

variable {self : CreateResponse} {command : CreateResponseCommand} {t : List (Observation Empty)}
  {o : Except Exn GenerationResponse}

/-- What was found to serve the call with can be read, and the policy admits it. -/
def Servable (command : CreateResponseCommand) (t : List (Observation Empty)) : Entry → Prop
  | .completed payload => ∃ response, deserializeResponse payload = .ok response
  | .cached _ payload => (∃ response, deserializeResponse payload = .ok response) ∧ ∃ t₁ t₂, t = t₁ ++ t₂ ∧
      Prog.Exec (enforceOrganizationPolicy ⟨command.organization_id, command.request.model,
        command.request.max_output_tokens⟩) t₁ (.ok ())
  | _ => True

theorem exec_after {α β : Type} {p : Action α} {f : α → Action β} {o : Except Exn β} (hp : p.Returns)
    (h : Prog.Exec (p.bind f) t o) : ∃ a t₁ t₂, t = t₁ ++ t₂ ∧ Prog.Exec p t₁ (.ok a) ∧ Prog.Exec (f a) t₂ o := by
  rcases Prog.exec_bind.mp h with ⟨x, _, hraise⟩ | hrest
  · obtain ⟨a, ha⟩ := Prog.exec_returns hp hraise
    cases ha
  · exact hrest

/-- A success that ends the call counts it once exactly when its tokens are counted and its audit row is stored. -/
theorem successful_exec {response : GenerationResponse} {outcome provider : String}
    (houtcome : PythonText.isBlank outcome = false) (hprovider : PythonText.isBlank provider = false)
    {count_tokens : Bool}
    (h : Prog.Exec ((recordGenerationSuccess command response outcome provider count_tokens).bind
      fun _ => .done response) t o) :
    requestCounts t = [(some "success", 1)] ∧ (resultOf o = "success" ↔ Kept t ∧ (count_tokens = true →
      Countable (response.usage.map (·.input_tokens)) (response.usage.map (·.output_tokens)))) := by
  rcases Prog.exec_bind.mp h with ⟨x, rfl, hraise⟩ | ⟨u, t₁, t₂, rfl, hsuccess, hdone⟩
  · obtain ⟨hcounts, hstored⟩ := success_exec response houtcome hprovider hraise
    rw [← hstored]
    exact ⟨hcounts, iff_of_false (by simp [resultOf]) nofun⟩
  · obtain ⟨rfl, rfl⟩ := Prog.exec_done.mp hdone
    rw [List.append_nil]
    obtain ⟨hcounts, hstored⟩ := success_exec response houtcome hprovider hsuccess
    rw [← hstored]
    exact ⟨hcounts, iff_of_true rfl ⟨u, rfl⟩⟩

theorem refused_exec {err : Exn} (h : Prog.Exec (recordGenerationError.bind fun _ =>
    (.raise err : Action GenerationResponse)) t o) :
    requestCounts t = [(some "error", 1)] ∧ Kept t ∧ o = .error err := by
  obtain ⟨u, t₁, t₂, rfl, hcount, hraise⟩ := exec_after (p := recordGenerationError) (fun _ => trivial) h
  obtain ⟨rfl, rfl⟩ := Prog.exec_raise.mp hraise
  obtain ⟨hcounts, hkept, _⟩ := error_exec hcount
  rw [List.append_nil]
  exact ⟨hcounts, hkept, rfl⟩

theorem abandon_exec {claimed : Option String} {err : Exn}
    (h : Prog.Exec (CreateResponse.abandon command claimed err) t o) :
    requestCounts t = [(some "error", 1)] ∧ Kept t ∧ o = .error err := by
  obtain ⟨hasks, hreturns⟩ := @releaseClaim_uncounted command claimed
  obtain ⟨u, t₁, t₂, rfl, hrelease, hrest⟩ := exec_after hreturns h
  obtain ⟨hnone, hkept⟩ := exec_uncounted hasks hrelease
  obtain ⟨hcounts, hkept', ho⟩ := refused_exec hrest
  rw [requestCounts_append, hnone, hcounts]
  exact ⟨rfl, Kept.append_iff.mpr ⟨hkept, hkept'⟩, ho⟩

/-- In the `try`, a success is counted last, and anything before it that fails leaves no count. -/
theorem generate_exec {claimed : Option String} (h : Prog.Exec (self.generate command claimed) t o) :
    (resultOf o = "error" ∧ requestCounts t = [] ∧ Kept t) ∨
      requestCounts t = [(some "success", 1)] ∧ (resultOf o = "success" ↔ Kept t) := by
  rcases Prog.exec_bind.mp h with ⟨x, rfl, hraise⟩ | ⟨execution, t₁, t₂, rfl, hserved, hfinish⟩
  · have hrouted := exec_uncounted ((executeRoutes_asks self command).mono fun _ => TriesRoutes.uncounted) hraise
    exact .inl ⟨rfl, hrouted⟩
  · obtain ⟨hnone, hkept⟩ :=
      exec_uncounted ((executeRoutes_asks self command).mono fun _ => TriesRoutes.uncounted) hserved
    rw [requestCounts_append, hnone, Kept.append_iff, and_iff_right hkept, List.nil_append]
    rcases Prog.exec_bind.mp hfinish with ⟨x, rfl, hraise⟩ | ⟨u, t₃, t₄, rfl, husage, hrest⟩
    · obtain ⟨hnone₃, hkept₃⟩ := recordUsage_exec hraise
      exact .inl ⟨rfl, hnone₃, hkept₃.mpr nofun⟩
    · obtain ⟨hnone₃, hkept₃⟩ := recordUsage_exec husage
      obtain ⟨hstore, hstored⟩ := @storeInCache_uncounted self command execution.response
      obtain ⟨u₅, t₅, t₆, rfl, hcached, hrest₆⟩ := exec_after hstored hrest
      obtain ⟨hnone₅, hkept₅⟩ := exec_uncounted hstore hcached
      obtain ⟨hcomplete, hcompletes⟩ := @completeClaim_uncounted self command claimed execution.response
      obtain ⟨u₇, t₇, t₈, rfl, hclaimed, hsuccess⟩ := exec_after hcompletes hrest₆
      obtain ⟨hnone₇, hkept₇⟩ := exec_uncounted hcomplete hclaimed
      obtain ⟨hcounts, hsucceeds⟩ := successful_exec (by decide) (requireNonBlank_none.mp execution.route.provider_ok)
        hsuccess
      right
      simp only [requestCounts_append, hnone₃, hnone₅, hnone₇, hcounts, hsucceeds, Kept.append_iff, hkept₃, hkept₅,
        hkept₇, List.nil_append, true_and, forall_const]
      exact and_comm

theorem replay_counts {payload : String} (h : Prog.Exec (CreateResponse.replay command payload) t o) :
    CountedOnce t o ↔ Kept t ∧ ∃ response, deserializeResponse payload = .ok response := by
  have h' : Prog.Exec ((Prog.ofExcept (deserializeResponse payload)).bind fun response =>
      (recordGenerationSuccess command response "idempotent" "replay" false).bind fun _ => .done response) t o := h
  cases hpayload : deserializeResponse payload with
  | error err =>
    rw [hpayload] at h'
    obtain ⟨rfl, rfl⟩ := Prog.exec_raise.mp h'
    exact iff_of_false (countedOnce_none rfl _) fun hservable => nomatch hservable.2
  | ok response =>
    rw [hpayload] at h'
    obtain ⟨hcounts, hsucceeds⟩ := successful_exec (by decide) (by decide) h'
    rw [countedOnce_one hcounts, eq_comm, hsucceeds]
    exact and_congr_right fun _ => iff_of_true nofun ⟨response, rfl⟩

/-- The payload is read and completed once the policy has admitted its model. -/
theorem admitted_counts {claimed : Option String} {payload : String}
    (h : Prog.Exec ((Prog.ofExcept (deserializeResponse payload)).bind fun response =>
      (self.completeClaim command claimed { response with cached := true }).bind fun _ =>
        (recordGenerationSuccess command { response with cached := true } "cache" "cache" false).bind fun _ =>
          .done { response with cached := true }) t o) :
    CountedOnce t o ↔ Kept t ∧ ∃ response, deserializeResponse payload = .ok response := by
  cases hpayload : deserializeResponse payload with
  | error err =>
    rw [hpayload] at h
    obtain ⟨rfl, rfl⟩ := Prog.exec_raise.mp h
    exact iff_of_false (countedOnce_none rfl _) fun hservable => nomatch hservable.2
  | ok response =>
    rw [hpayload] at h
    obtain ⟨hcomplete, hcompletes⟩ := @completeClaim_uncounted self command claimed { response with cached := true }
    obtain ⟨u, t₁, t₂, rfl, hclaimed, hsuccess⟩ := exec_after hcompletes h
    obtain ⟨hnone, hkept⟩ := exec_uncounted hcomplete hclaimed
    obtain ⟨hcounts, hsucceeds⟩ := successful_exec (by decide) (by decide) hsuccess
    have hall : requestCounts (t₁ ++ t₂) = [(some "success", 1)] := by
      rw [requestCounts_append, hnone, hcounts]
      rfl
    rw [countedOnce_one hall, eq_comm, hsucceeds, Kept.append_iff, and_iff_right hkept]
    exact and_congr_right fun _ => iff_of_true nofun ⟨response, rfl⟩

theorem cached_counts {claimed : Option String} {payload : String}
    (h : Prog.Exec (self.serveCached command claimed payload) t o) :
    CountedOnce t o ↔ Kept t ∧ Servable command t (.cached claimed payload) := by
  rcases Prog.exec_bind.mp h with ⟨x, rfl, hrefused⟩ | ⟨u, t₁, t₂, rfl, hadmitted, hrest⟩
  · have hcounts := (exec_uncounted (enforce_uncounted _) hrefused).1
    refine ⟨fun hcounted => absurd hcounted (countedOnce_none hcounts _), fun hservable => ?_⟩
    obtain ⟨_, t₁, t₂, ht, hadmitted⟩ := hservable.2
    have hsame := (Prog.exec_prefix_unique (s := []) hrefused hadmitted (by rw [List.append_nil, ht])).2.1
    cases hsame
  · obtain ⟨hnone, hkept⟩ := exec_uncounted (enforce_uncounted _) hadmitted
    have hcounts : CountedOnce (t₁ ++ t₂) o ↔ CountedOnce t₂ o := by
      unfold CountedOnce
      rw [requestCounts_append, hnone, List.nil_append]
    rw [hcounts, admitted_counts hrest, Kept.append_iff, and_iff_right hkept]
    exact and_congr_right fun _ => ⟨fun hread => ⟨hread, t₁, t₂, rfl, hadmitted⟩, And.left⟩

/-- A call that runs is counted once exactly if nothing disturbs it: the `except` counts what the `try` has not. -/
theorem missed_counts {claimed : Option String} (h : Prog.Exec ((self.generate command claimed).catching
    (CreateResponse.abandon command claimed)) t o) : CountedOnce t o ↔ Kept t := by
  rcases Prog.exec_catching.mp h with ⟨response, rfl, hdone⟩ | ⟨err, t₁, t₂, rfl, hfailed, hrest⟩
  · rcases generate_exec hdone with ⟨hbad, _⟩ | ⟨hcounts, hsucceeds⟩
    · simp [resultOf] at hbad
    · rw [countedOnce_one hcounts, eq_comm, hsucceeds]
  · obtain ⟨hcounts₂, hkept₂, rfl⟩ := abandon_exec hrest
    rw [Kept.append_iff, and_iff_left hkept₂]
    rcases generate_exec hfailed with ⟨_, hnone, hkept⟩ | ⟨hcounts, hsucceeds⟩
    · rw [countedOnce_one (by rw [requestCounts_append, hnone, hcounts₂]; rfl)]
      exact iff_of_true rfl hkept
    · have htwice := @countedOnce_two GenerationResponse (t₁ ++ t₂) _ _
        (by rw [requestCounts_append, hcounts, hcounts₂]; rfl) (.error err)
      rw [← hsucceeds]
      exact iff_of_false htwice (by simp [resultOf])

/-- What is done about an entry counts the call once exactly when the entry can be served and nothing disturbs it. -/
theorem proceed_counts {entry : Entry} (h : Prog.Exec (proceed self command entry) t o) :
    CountedOnce t o ↔ Kept t ∧ Servable command t entry := by
  have hrefused : ∀ {err : Exn}, Prog.Exec (recordGenerationError.bind fun _ =>
      (.raise err : Action GenerationResponse)) t o → (CountedOnce t o ↔ Kept t ∧ True) := by
    intro err hraise
    obtain ⟨hcounts, hkept, rfl⟩ := refused_exec hraise
    rw [countedOnce_one hcounts]
    exact iff_of_true rfl ⟨hkept, trivial⟩
  cases entry with
  | denied decision => exact hrefused h
  | inProgress => exact hrefused h
  | completed payload => exact replay_counts h
  | cached claimed payload => exact cached_counts h
  | missed claimed =>
    rw [missed_counts h]
    exact (and_iff_left trivial).symm

/-- The call's audit row is stored, if it comes to one, and `float` takes the counts of a usage row that is stored; a
record that is replayed can be read; a cached payload that is found can be read, and the policy admits its model. -/
def Undisturbed (self : CreateResponse) (command : CreateResponseCommand) (t : List (Observation Empty)) : Prop :=
  Kept t ∧ ∃ entry t₁ t₂, t = t₁ ++ t₂ ∧ Prog.Exec (enter self command) t₁ (.ok entry) ∧ Servable command t₂ entry

/-- Whatever the collaborators do, a call is counted once, with the result it has, exactly when it is undisturbed. -/
theorem counted_once_iff_undisturbed (service : CreateResponse) (command : CreateResponseCommand)
    (t : List (Observation Empty)) (o : Except Exn GenerationResponse) (h : Prog.Exec (service.execute command) t o) :
    CountedOnce t o ↔ Undisturbed service command t := by
  rw [execute_eq_enter] at h
  obtain ⟨entry, t₁, t₂, rfl, hentered, hproceeded⟩ := exec_after enter_returns h
  obtain ⟨hnone, hkept⟩ :=
    exec_uncounted (enter_asks (fun _ => Meters.uncounted) fun _ _ => OnKey.uncounted) hentered
  have hcounts : CountedOnce (t₁ ++ t₂) o ↔ CountedOnce t₂ o := by
    unfold CountedOnce
    rw [requestCounts_append, hnone, List.nil_append]
  rw [hcounts, proceed_counts hproceeded]
  unfold Undisturbed
  simp only [Kept.append_iff, hkept, true_and]
  refine and_congr_right fun _ => ⟨fun hservable => ⟨entry, t₁, t₂, rfl, hentered, hservable⟩, fun h => ?_⟩
  obtain ⟨entry', t₁', t₂', ht, hentered', hservable⟩ := h
  obtain ⟨rfl, ho, rfl⟩ := Prog.exec_prefix_unique hentered hentered' ht
  cases ho
  exact hservable

end Calls

section Samples

open ServiceRuns

def countedRun (given : Circumstances) : Except Exn GenerationResponse × Session × List (Observation Empty) :=
  (sampleService.execute (sampleCommand plainRequest (uuid 2) "req-1" none)).run (collaborators given).recording
    (.start emptyWorld, [])

theorem countedRun_exec (given : Circumstances) :
    Prog.Exec (sampleService.execute (sampleCommand plainRequest (uuid 2) "req-1" none)) (countedRun given).2.2
      (countedRun given).1 :=
  Prog.exec_recorded _ _ _

theorem calm_call_counted :
    requestCounts (countedRun (calm 100 (uuid 2) (sampleResponse none))).2.2 = [(some "success", 1)] ∧
      (CountedOnce (countedRun (calm 100 (uuid 2) (sampleResponse none))).2.2
          (countedRun (calm 100 (uuid 2) (sampleResponse none))).1 ↔
        Undisturbed sampleService (sampleCommand plainRequest (uuid 2) "req-1" none)
          (countedRun (calm 100 (uuid 2) (sampleResponse none))).2.2) :=
  ⟨by decide +kernel, counted_once_iff_undisturbed sampleService (sampleCommand plainRequest (uuid 2) "req-1" none) _ _
    (countedRun_exec (calm 100 (uuid 2) (sampleResponse none)))⟩

/-- The database stores the usage row and is gone when the audit row comes. -/
def auditLost : Circumstances :=
  { calm 100 (uuid 2) (sampleResponse none) with
    databaseFault := fun tick => if tick < 9 then .none else .refused (.other "OperationalError") }

/-- One call that raises, counted as a success and as an error. -/
theorem unaudited_call_counted_twice :
    Prog.Exec (sampleService.execute (sampleCommand plainRequest (uuid 2) "req-1" none)) (countedRun auditLost).2.2
        (countedRun auditLost).1 ∧
      (countedRun auditLost).1 = .error (.other "OperationalError") ∧
      requestCounts (countedRun auditLost).2.2 = [(some "success", 1), (some "error", 1)] ∧
      ¬CountedOnce (countedRun auditLost).2.2 (countedRun auditLost).1 := by
  have hcounts : requestCounts (countedRun auditLost).2.2 = [(some "success", 1), (some "error", 1)] := by
    decide +kernel
  exact ⟨countedRun_exec auditLost, by decide +kernel, hcounts, countedOnce_two hcounts _⟩

end Samples

end AIRuntime.GenerationCounts
