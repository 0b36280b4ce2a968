import AIRuntime.AdapterFailures
import AIRuntime.DurableRecords
import AIRuntime.GenerationCounts
import AIRuntime.StreamFrames
import AIRuntime.StreamTraces
import AIRuntime.UsageAccounting

set_option autoImplicit false

/-!
The body of a streamed response, from the upstream's events to the frames that `post_responses` sends: an
adapter's script, the executor that opens it, the use case that accounts for it and the generator of frames.
-/
namespace AIRuntime.StreamBodies

open EffectPrograms PythonText Identifiers Failures JsonText PythonJson PythonFloats GenerationContracts ModelRouting
  AccountingRecords Collaborators ProviderExecution RouteSearch ExecutorSemantics ResponseCreation ResponseScopes
  PolicyEnforcement UsageAccounting CallEntry GenerationCounts ProviderPayloads ProviderRequests StreamReaders
  ProviderStreams StreamSigns VendorSigns AdapterFailures StreamTraces ConversationRoundTrip ResponseSchemas
  StreamFrames

section Scripts

variable {U : Type} {p : StreamParser U} {json_loads : JsonLoads} {s : StreamState U}

/-- If it is a provider's error, it is of this class. -/
def Blames (kind : ProviderErrorClass) (err : Exn) : Prop := ∀ e, err = .provider e → e.kind = kind

theorem blames_of_own {kind : ProviderErrorClass} {err : Exn} (h : OwnError kind err) : Blames kind err := by
  rintro e rfl
  obtain ⟨e', he, hkind⟩ := h
  cases he
  exact hkind

theorem blames_of_guardable {α : Type} {kind : ProviderErrorClass} {result : Except Exn α} (h : Guardable kind result)
    {err : Exn} (herr : result = .error err) : Blames kind err := by
  rcases h err herr with hpayload | hown
  · rintro e rfl
    cases hpayload
  · exact blames_of_own hown

structure Guards (p : StreamParser U) : Prop where
  chunk : ∀ e payload, Guardable p.adapter.kind (p.chunk e payload)
  text : ∀ e payload chunk, p.chunk e payload = .ok chunk → Guardable p.adapter.kind chunk.text
  usage : ∀ e payload chunk, p.chunk e payload = .ok chunk → ∀ u, Guardable p.adapter.kind (chunk.usage u)
  tokenUsage : ∀ u, Guardable p.adapter.kind (p.tokenUsage u)

theorem load_blames {data : String} {err : Exn} (h : p.load json_loads data = .error err) :
    Blames p.adapter.kind err := by
  unfold StreamParser.load at h
  cases hread : json_loads data with
  | error failure =>
    rw [hread] at h
    cases failure <;> cases h
    · exact blames_of_own (ownError_permanent _ _)
    · exact fun e he => nomatch he
    · exact fun e he => nomatch he
  | ok payload =>
    rw [hread] at h
    cases payload <;> cases h <;> exact blames_of_own (ownError_permanent _ _)

theorem delta_guardable (text : String) : Guardable p.adapter.kind (p.delta s text) := by
  unfold StreamParser.delta
  split_ifs
  · exact Guardable.ok none
  · exact Guardable.refuse _
  · exact Guardable.map some Guardable.validated

theorem step_blames {chunk : Chunk U} (htext : Guardable p.adapter.kind chunk.text)
    (husage : ∀ u, Guardable p.adapter.kind (chunk.usage u)) {err : Exn} (h : (p.step s chunk).flow = .fail err) :
    Blames p.adapter.kind err := by
  cases hdelta : chunk.text.bind (p.delta (StreamParser.named s chunk)) with
  | error failure =>
    rw [StreamParser.step_fail hdelta] at h
    cases h
    exact blames_of_guardable (Guardable.bind htext delta_guardable) hdelta
  | ok delta =>
    cases hcounted : chunk.usage s.usage with
    | error failure =>
      rw [StreamParser.step_usage_fail hdelta hcounted] at h
      cases h
      exact blames_of_guardable (husage s.usage) hcounted
    | ok usage =>
      rw [StreamParser.step_next hdelta hcounted] at h
      cases h

theorem read_blames (hp : Guards p) (s : StreamState U) (e : SseEvent) (err : Exn)
    (h : (p.read json_loads s e).flow = .fail err) : Blames p.adapter.kind err := by
  cases hdone : p.done e.data with
  | true =>
    unfold StreamParser.read at h
    rw [if_pos hdone] at h
    cases h
  | false =>
    cases hload : p.load json_loads e.data with
    | error failure =>
      have hparsed : (p.load json_loads e.data).bind (p.chunk e) = .error failure := by
        rw [hload]
        rfl
      rw [StreamParser.read_fail hdone hparsed] at h
      cases h
      exact load_blames hload
    | ok payload =>
      have hparsed : (p.load json_loads e.data).bind (p.chunk e) = p.chunk e payload := by
        rw [hload]
        rfl
      cases hchunk : p.chunk e payload with
      | error failure =>
        rw [StreamParser.read_fail hdone (hparsed.trans hchunk)] at h
        cases h
        exact blames_of_guardable (hp.chunk e payload) hchunk
      | ok chunk =>
        rw [StreamParser.read_step hdone (hparsed.trans hchunk)] at h
        exact step_blames (hp.text e payload chunk hchunk) (hp.usage e payload chunk hchunk) h

theorem finish_guardable (hp : Guards p) (s : StreamState U) : Guardable p.adapter.kind (p.finish s) := by
  unfold StreamParser.finish
  split_ifs
  · exact Guardable.refuse _
  · exact (hp.tokenUsage s.usage).bind fun usage => assistantResponse_guardable _ _ _ _ _

theorem script_blames (hp : Guards p) (request : GenerationRequest) (events : List SseEvent) (completed : Bool)
    {err : Exn} (h : (p.script json_loads request events completed).ending = .error err) :
    Blames p.adapter.kind err := by
  have hending : ∀ err, (if completed then .ok () else .error p.adapter.httpFailed : Except Exn Unit) = .error err →
      Blames p.adapter.kind err := by
    intro err h
    cases completed with
    | true => cases h
    | false =>
      cases h
      rintro e ⟨⟩
      rfl
  unfold StreamParser.script at h
  simp only at h
  split at h
  · rename_i failure hfailure
    cases h
    cases hlooped : (run (p.read json_loads) (if completed then .ok () else .error p.adapter.httpFailed)
        (p.start request) events).2 with
    | error failure =>
      rw [hlooped] at hfailure
      cases hfailure
      exact run_error (read_blames hp) hending (p.start request) events hlooped
    | ok last =>
      rw [hlooped] at hfailure
      exact blames_of_guardable (finish_guardable hp last) hfailure
  · cases h

theorem openAI_guards : Guards openAIParser := by
  constructor
  · exact fun _ _ => Guardable.ok _
  · intro e payload chunk h
    cases h
    change Guardable .openAI (openAIDeltaText payload)
    unfold openAIDeltaText
    split
    · exact Guardable.ok _
    · exact Guardable.refuse _
    · exact Guardable.ok _
  · intro e payload chunk h u
    cases h
    change Guardable .openAI (openAIStreamUsage payload u)
    unfold openAIStreamUsage
    split
    · exact Guardable.ok _
    · exact usageFromOpenAIPayload_guardable _
  · exact fun _ => Guardable.ok _

theorem anthropicChunk_reads {e : SseEvent} {payload : Json} {chunk : Chunk TokenCounts}
    (h : anthropicChunk e payload = .ok chunk) :
    (∃ text, chunk.text = .ok text) ∧ ∀ u, ∃ u', chunk.usage u = .ok u' := by
  unfold anthropicChunk at h
  split_ifs at h
  · split at h
    · cases h
      exact ⟨⟨_, rfl⟩, fun _ => ⟨_, rfl⟩⟩
    · cases h
  · cases h
    exact ⟨⟨_, rfl⟩, fun _ => ⟨_, rfl⟩⟩
  · cases h
    exact ⟨⟨_, rfl⟩, fun _ => ⟨_, rfl⟩⟩
  · cases h
    exact ⟨⟨_, rfl⟩, fun _ => ⟨_, rfl⟩⟩

theorem anthropic_guards : Guards anthropicParser := by
  constructor
  · intro e payload
    change Guardable .anthropic (anthropicChunk e payload)
    unfold anthropicChunk
    split_ifs
    · split
      · exact Guardable.ok _
      · exact Guardable.refuse _
    · exact Guardable.ok _
    · exact Guardable.ok _
    · exact Guardable.ok _
  · intro e payload chunk h
    obtain ⟨⟨text, htext⟩, -⟩ := anthropicChunk_reads h
    rw [htext]
    exact Guardable.ok text
  · intro e payload chunk h u
    obtain ⟨u', husage⟩ := (anthropicChunk_reads h).2 u
    rw [husage]
    exact Guardable.ok u'
  · intro u
    change Guardable .anthropic (anthropicTokenUsage u)
    unfold anthropicTokenUsage
    split
    · exact tokenUsage_guardable _ _
    · exact Guardable.ok _
    · exact Guardable.refuse _

theorem gemini_guards : Guards geminiParser := by
  constructor
  · exact fun _ _ => Guardable.ok _
  · intro e payload chunk h
    cases h
    change Guardable .gemini (geminiDeltaText payload)
    unfold geminiDeltaText
    split
    · exact optionalTextFromParts_guardable _
    · exact Guardable.refuse _
    · exact Guardable.ok _
  · intro e payload chunk h u
    cases h
    change Guardable .gemini (geminiStreamUsage payload u)
    unfold geminiStreamUsage
    simp only
    split
    · exact tokenUsage_guardable _ _
    · split_ifs
      · exact Guardable.ok _
      · exact Guardable.refuse _
  · exact fun _ => Guardable.ok _

theorem scriptOf_blames (adapter : Adapter) (json_loads : JsonLoads) (request : GenerationRequest)
    (events : List SseEvent) (completed : Bool) {err : Exn}
    (h : (scriptOf adapter json_loads request events completed).ending = .error err) : Blames adapter.kind err := by
  cases adapter with
  | openAI => exact script_blames openAI_guards request events completed h
  | anthropic => exact script_blames anthropic_guards request events completed h
  | gemini => exact script_blames gemini_guards request events completed h

/-- An attempt that yields anything has been answered with its events. -/
theorem stream_of_events {adapter : Adapter} {json_loads : JsonLoads} {request : GenerationRequest}
    {reply : StreamReply} (h : (stream adapter json_loads request reply).events ≠ []) :
    ∃ status_code events completed, reply = .answered status_code events completed ∧
      stream adapter json_loads request reply = scriptOf adapter json_loads request events completed := by
  unfold ProviderStreams.stream at h ⊢
  cases hbody : adapter.body json_loads request true with
  | error err =>
    rw [hbody] at h
    exact absurd rfl h
  | ok body =>
    rw [hbody] at h
    cases reply with
    | failed => exact absurd rfl h
    | raised name => exact absurd rfl h
    | answered status_code events completed =>
      simp only at h ⊢
      split_ifs at h ⊢
      · exact absurd rfl h
      · exact absurd rfl h
      · exact ⟨status_code, events, completed, rfl, rfl⟩

/-- Deltas, and a response exactly if nothing is raised. -/
inductive Shaped : StreamScript → Prop where
  | completed (deltas : List GenerationDelta) (response : GenerationResponse) :
      Shaped ⟨deltas.map .delta ++ [.response response], .ok ()⟩
  | failed (deltas : List GenerationDelta) (err : Exn) : Shaped ⟨deltas.map .delta, .error err⟩

theorem script_shaped (request : GenerationRequest) (events : List SseEvent) (completed : Bool) :
    Shaped (p.script json_loads request events completed) := by
  unfold StreamParser.script
  simp only
  split
  · exact .failed _ _
  · exact .completed _ _

theorem scriptOf_shaped (adapter : Adapter) (json_loads : JsonLoads) (request : GenerationRequest)
    (events : List SseEvent) (completed : Bool) : Shaped (scriptOf adapter json_loads request events completed) := by
  cases adapter with
  | openAI => exact script_shaped request events completed
  | anthropic => exact script_shaped request events completed
  | gemini => exact script_shaped request events completed

theorem stream_shaped (adapter : Adapter) (json_loads : JsonLoads) (request : GenerationRequest)
    (reply : StreamReply) : Shaped (stream adapter json_loads request reply) := by
  unfold ProviderStreams.stream
  cases adapter.body json_loads request true with
  | error err => exact .failed [] err
  | ok body =>
    cases reply with
    | failed => exact .failed [] _
    | raised name => exact .failed [] _
    | answered status_code events completed =>
      simp only
      split_ifs
      · exact .failed [] _
      · exact .failed [] _
      · exact scriptOf_shaped adapter json_loads request events completed

end Scripts

section Route

variable (self : CreateResponse) (command : CreateResponseCommand)

/-- `yield _format_stream_event(event)`. -/
def sendFrame (event : GenerationStreamEvent) : Gen String Unit :=
  match formatStreamEvent event with
  | .ok frame => .yield frame (.done ())
  | .error err => .raise err

/-- What follows the last event of `events`. -/
def closeBody (request_id : String) : Except Exn Unit → Gen String Unit
  | .ok () => .done ()
  | .error (.provider err) =>
    match formatStreamError err request_id with
    | .ok frame => .yield frame (.done ())
    | .error err => .raise err
  | .error err => .raise err

def events (request_id : String) (first : GenerationStreamEvent) (iterator : Gen GenerationStreamEvent Unit) :
    Gen String Unit :=
  (sendFrame first).bind fun _ =>
    iterator.forEach () (fun _ pending => sendFrame pending) fun _ ended => closeBody request_id ended

def noResponse : Exn := .provider (.permanent .provider "Provider stream completed without a response")

/-- `post_responses` for a streaming request, from `use_case.stream` on. -/
def postStream : Gen String Unit :=
  (self.stream command).anext.bind fun got =>
    match got with
    | none => .raise noResponse
    | some (first, iterator) => events command.request_id first iterator

theorem countTokens_emits (usage : Option TokenUsage) : (countTokens true usage).Emits (fun _ => True)
    fun _ => Countable (usage.map (·.input_tokens)) (usage.map (·.output_tokens)) := by
  cases usage with
  | none => exact ⟨nofun, nofun⟩
  | some usage =>
    have hcounted : ∀ {n : ℤ} {amount : ℚ}, floatOfInt n = .ok amount → ¬ TooLarge n := by
      intro n amount hamount hlarge
      rw [floatOfInt_tooLarge hlarge] at hamount
      cases hamount
    refine Prog.Emits.bind (Prog.Emits.ofExcept fun _ => hcounted) fun _ hinput => ?_
    refine Prog.Emits.bind (Q := fun _ => True) (fun _ => trivial) fun _ _ => ?_
    refine Prog.Emits.bind (Prog.Emits.ofExcept fun _ => hcounted) fun _ houtput => fun _ => ?_
    exact ⟨by simpa using hinput, by simpa using houtput⟩

theorem double_le {n m d : ℕ} (hn : n ≤ Nat.pow 10 m) (h : m < d) : n + n ≤ 10 ^ d := by
  have hten : (10 : ℕ) ^ (m + 1) = Nat.pow 10 m * 10 := rfl
  have hmore : (10 : ℕ) ^ (m + 1) ≤ 10 ^ d := Nat.pow_le_pow_right (by decide) h
  omega

theorem total_short {usage : TokenUsage} (hinput : ¬ TooLarge usage.input_tokens)
    (houtput : ¬ TooLarge usage.output_tokens) : shortInt usage.total = true := by
  have htotal : usage.total = usage.input_tokens + usage.output_tokens := rfl
  have hbound : overflowStart + overflowStart ≤ 10 ^ maxStrDigits := double_le overflowStart_le (by decide)
  unfold TooLarge at hinput houtput
  rw [shortInt_iff, Nat.pow_eq, htotal]
  generalize 10 ^ maxStrDigits = bound at hbound ⊢
  omega

theorem writable_of_countable {response : GenerationResponse}
    (h : Countable (response.usage.map (·.input_tokens)) (response.usage.map (·.output_tokens))) :
    writable (.response response) = true := by
  change (response.usage.all fun usage => shortInt usage.total) = true
  cases husage : response.usage with
  | none => rfl
  | some usage =>
    rw [husage] at h
    exact total_short (by simpa using h.1) (by simpa using h.2)

theorem passOn_emits (item : ProviderStreamEvent) :
    (self.passOn command item).Emits (fun event => writable event = true) fun _ => True := by
  unfold CreateResponse.passOn
  cases item.payload with
  | delta d => exact ⟨rfl, trivial⟩
  | response response =>
    refine Prog.Emits.bind (Prog.Emits.lift (Prog.Emits.any _)) fun _ _ =>
      Prog.Emits.bind (Q := fun _ => Countable (response.usage.map (·.input_tokens))
        (response.usage.map (·.output_tokens))) (Prog.Emits.lift ?_) fun _ hcountable =>
          ⟨writable_of_countable hcountable, trivial⟩
    refine Prog.Emits.bind (Q := fun _ => True) (fun _ => trivial) fun _ _ =>
      Prog.Emits.bind (countTokens_emits response.usage) fun _ hcountable => ?_
    refine Prog.Emits.bind (Q := fun _ => True) (fun _ => trivial) fun id _ =>
      Prog.Emits.bind (Q := fun _ => True) (fun _ => trivial) fun now _ =>
        Prog.Emits.bind (Q := fun _ => True) (Prog.Emits.ofExcept fun _ _ => trivial) fun event _ => ?_
    exact Prog.Emits.bind (Q := fun _ => True) (fun _ => trivial) fun added _ =>
      Prog.Emits.ofExcept fun _ _ => hcountable

theorem stream_emits : (self.stream command).Emits (fun event => writable event = true) fun _ => True := by
  unfold CreateResponse.stream
  split_ifs
  · trivial
  · refine Prog.Emits.bind (Prog.Emits.lift (Prog.Emits.any _)) fun decision _ => ?_
    split_ifs
    · trivial
    · exact Prog.Emits.forEach (Prog.Emits.any _) (fun _ item _ => passOn_emits self command item)
        fun _ ended => Prog.Emits.ofExcept fun _ _ => trivial

theorem sendFrame_eq {event : GenerationStreamEvent} (h : writable event = true) :
    sendFrame event = .yield (frameOf event) (.done ()) := by
  unfold sendFrame
  rw [formatStreamEvent_eq, h]
  rfl

theorem postStream_eq : postStream self command =
    (self.stream command).forEach false (fun _ event => .yield (frameOf event) (.done true))
      (Prog.onceStarted (.raise noResponse) (closeBody command.request_id)) := by
  have hloop : postStream self command = (self.stream command).forEach false
      (fun _ event => (sendFrame event).bind fun _ => .done true)
      (Prog.onceStarted (.raise noResponse) (closeBody command.request_id)) := by
    refine Eq.trans (Prog.bind_congr fun got => ?_)
      (Prog.anext_bind_forEach (self.stream command) sendFrame (.raise noResponse) (closeBody command.request_id))
    cases got <;> rfl
  rw [hloop]
  apply Prog.forEach_congr (stream_emits self command)
  intro _ event hwritable
  rw [sendFrame_eq hwritable]
  rfl

end Route

section Traces

variable {self : CreateResponse} {command : CreateResponseCommand} {route : ModelRoute} {E : Type}

structure Persisted (t : List (Observation E)) : Prop where
  usage : ∀ record r, .asked (.addUsage record) r ∈ t → r = .ok ()
  audit : ∀ event r, .asked (.addAudit event) r ∈ t → r = .ok ()

theorem Persisted.mono {t t' : List (Observation E)} (h : Persisted t) (hsub : ∀ o ∈ t', o ∈ t) : Persisted t' :=
  ⟨fun record r hmem => h.usage record r (hsub _ hmem), fun event r hmem => h.audit event r (hsub _ hmem)⟩

theorem Persisted.left {t t' : List (Observation E)} (h : Persisted (t ++ t')) : Persisted t :=
  h.mono fun _ => List.mem_append_left t'

theorem Persisted.right {t t' : List (Observation E)} (h : Persisted (t ++ t')) : Persisted t' :=
  h.mono fun _ => List.mem_append_right t

theorem Persisted.relabel {t : List (Observation Empty)} (h : Persisted (t.map Obs.relabel : List (Observation E))) :
    Persisted t :=
  ⟨fun record r hmem => h.usage record r (List.mem_map_of_mem hmem),
    fun event r hmem => h.audit event r (List.mem_map_of_mem hmem)⟩

/-- Recording usage returns if the estimator answers, and with no negative cost. -/
theorem recordUsage_persisted (hid : isBlank command.request_id = false) (response : GenerationResponse)
    {t : List (Observation Empty)} {o : Except Exn Unit}
    (h : Prog.Exec (self.recordUsage command route.provider response) t o) (hp : Persisted t) :
    if estimated self.cost_estimator route.provider response.model response.usage then o = .ok ()
    else ∃ err, o = .error err ∧
      (self.cost_estimator route.provider response.model response.usage = .error err ∨
        (∃ cost, self.cost_estimator route.provider response.model response.usage = .ok cost) ∧
          ∃ message, err = .domainValidation message) := by
  cases hestimated : estimated self.cost_estimator route.provider response.model response.usage with
  | true =>
    obtain ⟨record, -, heq⟩ := recordUsage_eq hestimated hid route.provider_ok
    rw [heq] at h
    simp only [Prog.ask_bind] at h
    obtain ⟨id, t₁, ht, h⟩ := Prog.exec_call.mp h
    obtain ⟨now, t₂, ht₁, h⟩ := Prog.exec_call.mp h
    obtain ⟨added, t₃, ht₂, h⟩ := Prog.exec_call.mp h
    have hadded : added = .ok () := by
      apply hp.usage (record id now)
      rw [ht, ht₁, ht₂]
      simp
    rw [hadded] at h
    exact (Prog.exec_done.mp h).2
  | false =>
    rcases recordUsage_refused hestimated with ⟨err, herr, heq⟩ | ⟨hcost, message, heq⟩
    · rw [heq] at h
      exact ⟨err, (Prog.exec_raise.mp h).2, .inl herr⟩
    · rw [heq] at h
      simp only [Prog.ask_bind] at h
      obtain ⟨id, t₁, -, h⟩ := Prog.exec_call.mp h
      obtain ⟨now, t₂, -, h⟩ := Prog.exec_call.mp h
      exact ⟨_, (Prog.exec_raise.mp h).2, .inr ⟨hcost, _, rfl⟩⟩

theorem recordGenerationSuccess_persisted (response : GenerationResponse) {t : List (Observation Empty)}
    {o : Except Exn Unit}
    (h : Prog.Exec (recordGenerationSuccess command response "provider" route.provider true) t o)
    (hp : Persisted t) :
    (o = .ok () ∧ Countable (response.usage.map (·.input_tokens)) (response.usage.map (·.output_tokens))) ∨
      (o = .error overflowError ∧
        ¬ Countable (response.usage.map (·.input_tokens)) (response.usage.map (·.output_tokens))) := by
  obtain ⟨event, heq⟩ := @recordGenerationSuccess_eq command response "provider" route.provider rfl
    (requireNonBlank_none.mp route.provider_ok) true
  rw [heq] at h
  obtain ⟨_, t₁, ht, h⟩ := Prog.exec_call.mp h
  rcases Prog.exec_bind.mp h with ⟨x, ho, hcount⟩ | ⟨u, t₂, t₃, ht₁, hcount, h⟩
  · rw [ho]
    rcases countTokens_exec hcount with ⟨hok, -⟩ | ⟨herr, -, hlarge⟩
    · cases hok
    · cases herr
      exact .inr ⟨rfl, hlarge⟩
  · rcases countTokens_exec hcount with ⟨-, hcountable⟩ | ⟨herr, -⟩
    · obtain ⟨id, t₄, ht₃, h⟩ := Prog.exec_call.mp h
      obtain ⟨now, t₅, ht₄, h⟩ := Prog.exec_call.mp h
      obtain ⟨added, t₆, ht₅, h⟩ := Prog.exec_call.mp h
      have hadded : added = .ok () := by
        apply hp.audit (event id now)
        rw [ht, ht₁, ht₃, ht₄, ht₅]
        simp
      rw [hadded] at h
      exact .inl ⟨(Prog.exec_done.mp h).2, hcountable rfl⟩
    · cases herr

def sent (t : List (Observation E)) : List E := t.filterMap Obs.event?

theorem sent_append (t t' : List (Observation E)) : sent (t ++ t') = sent t ++ sent t' := List.filterMap_append

theorem sent_yielded (e : E) (t : List (Observation E)) : sent (.yielded e :: t) = e :: sent t := rfl

theorem sent_relabel (t : List (Observation Empty)) : sent (t.map Obs.relabel : List (Observation E)) = [] :=
  Prog.filterMap_relabel t

def closingFrames (request_id : String) : Except Exn Unit → List String
  | .error (.provider err) => [errorFrame err request_id]
  | _ => []

/-- What is left of the end of a stream when its last frame is sent. -/
def leftOver : Except Exn Unit → Except Exn Unit
  | .error (.provider _) => .ok ()
  | ended => ended

theorem closeBody_sends {request_id : String} {ended : Except Exn Unit} {t : List (Observation String)}
    {o : Except Exn Unit} (h : Prog.Exec (closeBody request_id ended) t o) :
    sent t = closingFrames request_id ended ∧ o = leftOver ended := by
  cases ended with
  | ok u =>
    obtain ⟨ht, ho⟩ := Prog.exec_done.mp h
    exact ⟨by rw [ht]; rfl, ho⟩
  | error err =>
    cases err with
    | provider err =>
      unfold closeBody at h
      simp only [formatStreamError_ok] at h
      obtain ⟨t', ht, htail⟩ := Prog.exec_yield.mp h
      obtain ⟨ht', ho⟩ := Prog.exec_done.mp htail
      exact ⟨by rw [ht, ht']; rfl, ho⟩
    | _ =>
      obtain ⟨ht, ho⟩ := Prog.exec_raise.mp h
      exact ⟨by rw [ht]; rfl, ho⟩

theorem onceStarted_sends {request_id : String} {started : Bool} {ended : Except Exn Unit}
    {t : List (Observation String)} {o : Except Exn Unit}
    (h : Prog.Exec (Prog.onceStarted (.raise noResponse) (closeBody request_id) started ended) t o) :
    if started then sent t = closingFrames request_id ended ∧ o = leftOver ended
    else sent t = [] ∧ ∃ err, o = .error err := by
  cases started with
  | true => exact closeBody_sends h
  | false =>
    cases ended with
    | ok u =>
      obtain ⟨ht, ho⟩ := Prog.exec_raise.mp h
      exact ⟨by rw [ht]; rfl, _, ho⟩
    | error err =>
      obtain ⟨ht, ho⟩ := Prog.exec_raise.mp h
      exact ⟨by rw [ht]; rfl, _, ho⟩

def Frames (event frame : String) : Prop := ("event: " ++ event ++ "\n").toList <+: frame.toList

def Terminal (frame : String) : Prop := Frames "response.completed" frame ∨ Frames "response.error" frame

/-- Deltas, and one terminal frame after them. -/
def Grammatical (frames : List String) : Prop :=
  ∃ deltas terminal, frames = deltas ++ [terminal] ∧ (∀ frame ∈ deltas, Frames "response.delta" frame) ∧
    Terminal terminal

theorem frameText_frames (event : String) (payload : Json) : Frames event (frameText event payload) := by
  refine ⟨("data: " ++ dumps payload ++ "\n\n").toList, ?_⟩
  unfold frameText
  simp only [String.toList_append, List.append_assoc]
  rfl

theorem delta_frames (d : GenerationDelta) : Frames "response.delta" (frameOf (.delta d)) :=
  frameText_frames _ _

theorem response_terminal (response : GenerationResponse) : Terminal (frameOf (.response response)) :=
  .inl (frameText_frames _ _)

theorem error_terminal (err : ProviderError) (request_id : String) : Terminal (errorFrame err request_id) :=
  .inr (frameText_frames _ _)

theorem delta_not_terminal {frame : String} (h : Frames "response.delta" frame) : ¬ Terminal frame := by
  rintro (hcompleted | herror)
  · rcases List.prefix_or_prefix_of_prefix h hcompleted with h | h <;> revert h <;> decide
  · rcases List.prefix_or_prefix_of_prefix h herror with h | h <;> revert h <;> decide

theorem deltas_ungrammatical (deltas : List GenerationDelta) :
    ¬ Grammatical (deltas.map fun d => frameOf (.delta d)) := by
  rintro ⟨before, terminal, heq, -, hterminal⟩
  have hmem : terminal ∈ deltas.map fun d => frameOf (.delta d) := by
    rw [heq]
    exact List.mem_append_right before (List.mem_singleton_self terminal)
  obtain ⟨d, -, hd⟩ := List.mem_map.mp hmem
  apply delta_not_terminal _ hterminal
  rw [← hd]
  exact delta_frames d

theorem deltas_then_grammatical (deltas : List GenerationDelta) {terminal : String} (h : Terminal terminal) :
    Grammatical (deltas.map (fun d => frameOf (.delta d)) ++ [terminal]) := by
  refine ⟨_, terminal, rfl, ?_, h⟩
  intro frame hframe
  obtain ⟨d, -, rfl⟩ := List.mem_map.mp hframe
  exact delta_frames d

end Traces

section Bodies

variable {self : CreateResponse} {command : CreateResponseCommand} {route : ModelRoute}

def bodyOf (self : CreateResponse) (command : CreateResponseCommand) (route : ModelRoute)
    (events : List GenerationStreamEvent) (ending : Except Exn Unit) (started : Bool) : Gen String Unit :=
  (passOnAll self command route events ending).forEach started (fun _ event => .yield (frameOf event) (.done true))
    (Prog.onceStarted (.raise noResponse) (closeBody command.request_id))

theorem bodyOf_nil (ending : Except Exn Unit) (started : Bool) : bodyOf self command route [] ending started =
    Prog.onceStarted (.raise noResponse) (closeBody command.request_id) started ending := by
  unfold bodyOf
  rw [passOnAll_nil]
  cases ending <;> rfl

theorem bodyOf_delta (d : GenerationDelta) (events : List GenerationStreamEvent) (ending : Except Exn Unit)
    (started : Bool) : bodyOf self command route (.delta d :: events) ending started =
    .yield (frameOf (.delta d)) (bodyOf self command route events ending true) := rfl

theorem bodyOf_deltas (deltas : List GenerationDelta) (rest : List GenerationStreamEvent) (ending : Except Exn Unit)
    {started : Bool} {t : List (Observation String)} {o : Except Exn Unit}
    (h : Prog.Exec (bodyOf self command route (deltas.map .delta ++ rest) ending started) t o) :
    ∃ t', t = deltas.map (fun d => .yielded (frameOf (.delta d))) ++ t' ∧
      Prog.Exec (bodyOf self command route rest ending (started || !deltas.isEmpty)) t' o := by
  induction deltas generalizing started t with
  | nil => exact ⟨t, rfl, by simpa using h⟩
  | cons d deltas ih =>
    rw [List.map_cons, List.cons_append, bodyOf_delta] at h
    obtain ⟨t₁, ht, h⟩ := Prog.exec_yield.mp h
    obtain ⟨t', ht₁, h⟩ := ih h
    rw [ht, ht₁]
    exact ⟨t', rfl, by simpa using h⟩

/-- The response of a model is accounted for, with a cost, if any, and counts that `float` takes; or the estimator
raises a provider's error. -/
def Accountable (estimator : CostEstimator) (provider model : String) (usage : Option TokenUsage) : Prop :=
  (∃ err, estimator provider model usage = .error (.provider err)) ∨
    estimated estimator provider model usage = true ∧
      Countable (usage.map (·.input_tokens)) (usage.map (·.output_tokens))

/-- What closes a body after an error: nothing, unless the body has started and the error is a provider's. -/
theorem error_closes {request_id : String} {err : Exn} {started : Bool} {t : List (Observation String)}
    {o : Except Exn Unit}
    (h : Prog.Exec (Prog.onceStarted (.raise noResponse) (closeBody request_id) started (.error err)) t o) :
    (∃ e, err = .provider e ∧ started = true ∧ sent t = [errorFrame e request_id]) ∨
      ((∀ e, err = .provider e → started = false) ∧ sent t = []) := by
  have hclosed := onceStarted_sends h
  cases started with
  | false => exact .inr ⟨fun _ _ => rfl, hclosed.1⟩
  | true =>
    cases err with
    | provider e => exact .inl ⟨e, rfl, rfl, hclosed.1⟩
    | _ => exact .inr ⟨nofun, hclosed.1⟩

theorem accountable_of_estimated {estimator : CostEstimator} {provider model : String} {usage : Option TokenUsage}
    (h : estimated estimator provider model usage = true) :
    Accountable estimator provider model usage ↔
      Countable (usage.map (·.input_tokens)) (usage.map (·.output_tokens)) := by
  have hforeign : ¬ ∃ err, estimator provider model usage = .error (.provider err) := by
    rintro ⟨err, herr⟩
    unfold estimated at h
    rw [herr] at h
    cases h
  unfold Accountable
  rw [or_iff_right hforeign, and_iff_right h]

/-- When recording usage raises, the body is closed with a frame only of an error that is a provider's. -/
theorem unrecorded_closes (hid : isBlank command.request_id = false) (response : GenerationResponse) {started : Bool}
    {err : Exn} {t₁ : List (Observation Empty)} {t₂ : List (Observation String)} {o : Except Exn Unit}
    (hraised : Prog.Exec (self.recordUsage command route.provider response) t₁ (.error err)) (hp : Persisted t₁)
    (hclose : Prog.Exec
      (Prog.onceStarted (.raise noResponse) (closeBody command.request_id) started (.error err)) t₂ o)
    (hstarted : started = true ∨ sent t₂ ≠ []) :
    (Accountable self.cost_estimator route.provider response.model response.usage ∧
        ∃ terminal, Terminal terminal ∧ sent t₂ = [terminal]) ∨
      (¬ Accountable self.cost_estimator route.provider response.model response.usage ∧ sent t₂ = []) := by
  have hrecorded := recordUsage_persisted hid response hraised hp
  split_ifs at hrecorded with hestimated
  obtain ⟨err', herr, hreason⟩ := hrecorded
  cases herr
  rcases error_closes hclose with ⟨e, he, -, hsent⟩ | ⟨hforeign, hsent⟩
  · refine .inl ⟨.inl ⟨e, ?_⟩, _, error_terminal e command.request_id, hsent⟩
    rcases hreason with hreason | ⟨-, message, hreason⟩
    · rw [← he]
      exact hreason
    · cases he.symm.trans hreason
  · refine .inr ⟨?_, hsent⟩
    rintro (⟨e, he⟩ | ⟨hok, -⟩)
    · rcases hreason with hreason | ⟨⟨cost, hreason⟩, -⟩
      · have herr : err = .provider e := Except.error.inj (hreason.symm.trans he)
        rw [hforeign e herr] at hstarted
        exact hstarted.elim Bool.false_ne_true fun hne => hne hsent
      · cases hreason.symm.trans he
    · exact hestimated hok

/-- After a response the body is closed, with one frame exactly if the response is accounted for. -/
theorem bodyOf_response (hid : isBlank command.request_id = false) (response : GenerationResponse) {started : Bool}
    {t : List (Observation String)} {o : Except Exn Unit}
    (h : Prog.Exec (bodyOf self command route [.response response] (.ok ()) started) t o) (hp : Persisted t)
    (hstarted : started = true ∨ sent t ≠ []) :
    (Accountable self.cost_estimator route.provider response.model response.usage ∧
        ∃ terminal, Terminal terminal ∧ sent t = [terminal]) ∨
      (¬ Accountable self.cost_estimator route.provider response.model response.usage ∧ sent t = []) := by
  unfold bodyOf at h
  rw [passOnAll_response] at h
  rcases Prog.exec_forEach_lift_bind h with ⟨err, t₁, t₂, ht, hraised, hclose⟩ | ⟨_, t₁, t₂, ht, hrecorded, h⟩
  · have hsame : sent t = sent t₂ := by rw [ht, sent_append, sent_relabel, List.nil_append]
    rw [ht] at hp
    rw [hsame] at hstarted ⊢
    exact unrecorded_closes hid response hraised hp.left.relabel hclose hstarted
  · rw [ht] at hp
    have hestimated := recordUsage_persisted hid response hrecorded hp.left.relabel
    split_ifs at hestimated with hok
    swap
    · obtain ⟨err, herr, -⟩ := hestimated
      cases herr
    rw [accountable_of_estimated hok]
    rcases Prog.exec_forEach_lift_bind h with ⟨err, t₃, t₄, ht₂, hraised, hclose⟩ | ⟨_, t₃, t₄, ht₂, hcounted, h⟩
    · have hsame : sent t = sent t₄ := by
        rw [ht, ht₂, sent_append, sent_append, sent_relabel, sent_relabel, List.nil_append, List.nil_append]
      rw [ht₂] at hp
      rcases recordGenerationSuccess_persisted response hraised hp.right.left.relabel with ⟨hno, -⟩ | ⟨herr, hlarge⟩
      · cases hno
      · cases herr
        rcases error_closes hclose with ⟨e, he, -⟩ | ⟨-, hsent⟩
        · cases he
        · exact .inr ⟨hlarge, hsame.trans hsent⟩
    · obtain ⟨t₅, ht₄, h⟩ := Prog.exec_yield.mp h
      have hlast : t₅ = [] := (Prog.exec_done.mp h).1
      rw [ht₂] at hp
      rcases recordGenerationSuccess_persisted response hcounted hp.right.left.relabel with ⟨-, hcountable⟩ | ⟨hno, -⟩
      · refine .inl ⟨hcountable, _, response_terminal response, ?_⟩
        rw [ht, ht₂, ht₄, hlast, sent_append, sent_append, sent_relabel, sent_relabel]
        rfl
      · cases hno

/-- The error that ends a script, where one does, is a provider's. -/
def EndsOwn (script : StreamScript) : Prop := ∀ err, script.ending = .error err → ∃ e, err = .provider e

theorem sent_deltas (deltas : List GenerationDelta) (t : List (Observation String)) :
    sent (deltas.map (fun d => .yielded (frameOf (.delta d))) ++ t) =
      deltas.map (fun d => frameOf (.delta d)) ++ sent t := by
  rw [sent_append]
  congr 1
  induction deltas with
  | nil => rfl
  | cons d deltas ih => exact congrArg (frameOf (.delta d) :: ·) ih

/-- A body that has started is grammatical exactly if no error but a provider's ends its attempt, and its response
is accounted for. -/
theorem bodyOf_grammatical (hid : isBlank command.request_id = false) {script : StreamScript} (hshape : Shaped script)
    {t : List (Observation String)} {o : Except Exn Unit}
    (h : Prog.Exec (bodyOf self command route script.events script.ending false) t o) (hp : Persisted t)
    (hstarted : sent t ≠ []) : Grammatical (sent t) ↔ EndsOwn script ∧
      ∀ response, .response response ∈ script.events →
        Accountable self.cost_estimator route.provider response.model response.usage := by
  cases hshape with
  | completed deltas response =>
    obtain ⟨t', ht, h⟩ := bodyOf_deltas deltas [.response response] (.ok ()) h
    rw [ht] at hp
    rw [ht, sent_deltas] at hstarted ⊢
    have hopen : (false || !deltas.isEmpty) = true ∨ sent t' ≠ [] := by
      cases deltas with
      | nil => exact .inr hstarted
      | cons d deltas => exact .inl rfl
    have hown : EndsOwn ⟨deltas.map .delta ++ [.response response], .ok ()⟩ := nofun
    have hmem : ∀ response', GenerationStreamEvent.response response' ∈ deltas.map .delta ++ [.response response] ↔
        response' = response := by
      simp
    simp only [hmem, forall_eq]
    rw [and_iff_right hown]
    rcases bodyOf_response hid response h hp.right hopen with ⟨haccounted, terminal, hterminal, hsent⟩ |
      ⟨hunaccounted, hsent⟩
    · rw [hsent]
      exact iff_of_true (deltas_then_grammatical deltas hterminal) haccounted
    · rw [hsent, List.append_nil]
      exact iff_of_false (deltas_ungrammatical deltas) hunaccounted
  | failed deltas err =>
    have hmap : deltas.map GenerationStreamEvent.delta = deltas.map GenerationStreamEvent.delta ++ [] :=
      (List.append_nil _).symm
    have hnone : ∀ response, ¬ GenerationStreamEvent.response response ∈ deltas.map .delta := by
      simp
    have hown : EndsOwn ⟨deltas.map .delta, .error err⟩ ↔ ∃ e, err = .provider e := by
      constructor
      · exact fun hall => hall err rfl
      · rintro hsome _ ⟨⟩
        exact hsome
    rw [and_iff_left fun response hmem => absurd hmem (hnone response), hown]
    simp only at h
    rw [hmap] at h
    obtain ⟨t', ht, h⟩ := bodyOf_deltas deltas [] (.error err) h
    rw [bodyOf_nil] at h
    rw [ht, sent_deltas] at hstarted ⊢
    rcases error_closes h with ⟨e, he, -, hsent⟩ | ⟨hforeign, hsent⟩
    · rw [hsent]
      exact iff_of_true (deltas_then_grammatical deltas (error_terminal e command.request_id)) ⟨e, he⟩
    · rw [hsent, List.append_nil]
      refine iff_of_false (deltas_ungrammatical deltas) ?_
      rintro ⟨e, he⟩
      have hnotstarted := hforeign e he
      cases deltas with
      | nil => exact hstarted hsent
      | cons d deltas => cases hnotstarted

theorem readsPolicy_opensNone {organization_id : UUID} {c : Command} (h : ReadsPolicy organization_id c) :
    OpensNone c := by
  intro provider request hc
  rw [hc] at h
  exact h

theorem meters_opensNone {organization_id : UUID} {c : Command} (h : Meters organization_id c) : OpensNone c := by
  intro provider request hc
  rw [hc] at h
  exact h

theorem accounts_opensNone {c : Command} (h : Accounts command c) : OpensNone c := by
  intro provider request hc
  rw [hc] at h
  exact h

theorem closeBody_asks (request_id : String) (ended : Except Exn Unit) : (closeBody request_id ended).Asks OpensNone := by
  cases ended with
  | ok u => trivial
  | error err =>
    cases err with
    | provider err =>
      unfold closeBody
      simp only [formatStreamError_ok]
      trivial
    | _ => trivial

theorem bodyOf_asks (events : List GenerationStreamEvent) (ending : Except Exn Unit) (started : Bool) :
    (bodyOf self command route events ending started).Asks OpensNone := by
  refine Prog.Asks.forEach (Prog.Asks.forEach (Prog.Asks.ofEvents _ _) ?_ fun _ _ => Prog.Asks.ofExcept _)
    (fun _ _ => trivial) ?_
  · intro _ item
    unfold CreateResponse.passOn
    cases item.payload with
    | delta d => trivial
    | response response =>
      have hrecord := recordUsage_asks self command item.route.provider response
      have hsuccess := recordGenerationSuccess_asks command response "provider" item.route.provider true
      exact Prog.Asks.bind (Prog.Asks.lift (hrecord.mono fun _ => accounts_opensNone)) fun _ =>
        Prog.Asks.bind (Prog.Asks.lift (hsuccess.mono fun _ => accounts_opensNone)) fun _ => trivial
  · intro begun ended
    cases begun with
    | true => exact closeBody_asks command.request_id ended
    | false => cases ended <;> trivial

/-- A body that sends anything: attempts without an event, one that is opened, and what is made of its events. -/
theorem postStream_opens {t : List (Observation String)} {o : Except Exn Unit}
    (h : Prog.Exec (postStream self command) t o) (hsent : sent t ≠ []) :
    ∃ pre route request script t', t = pre ++ .asked (.stream route.provider request) script :: t' ∧ Quiet pre ∧
      sent t = sent t' ∧ Prog.Exec (bodyOf self command route script.events script.ending false) t' o := by
  have hquiet : ∀ (t₁ : List (Observation Empty)) {t₂ : List (Observation String)},
      t = t₁.map Obs.relabel ++ t₂ → sent t = sent t₂ := by
    intro t₁ t₂ ht
    rw [ht, sent_append, sent_relabel, List.nil_append]
  rw [postStream_eq, stream_eq_passOnAll] at h
  split_ifs at h with hkey
  · rw [(Prog.exec_raise.mp h).1] at hsent
    exact absurd rfl hsent
  · rcases Prog.exec_forEach_lift_bind h with ⟨x, t₁, t₂, ht, -, h⟩ | ⟨decision, t₁, t₂, ht, hconsume, h⟩
    · rw [hquiet t₁ ht, (Prog.exec_raise.mp h).1] at hsent
      exact absurd rfl hsent
    · have hmetered : Quiet t₁ :=
        quiet_of_asks ((consume_asks _ _).mono fun _ => meters_opensNone) hconsume
      split_ifs at h with hdenied
      · rw [hquiet t₁ ht, (Prog.exec_raise.mp h).1] at hsent
        exact absurd rfl hsent
      · rcases Prog.exec_forEach_lift_bind h with ⟨x, t₃, t₄, -, hattempt, -⟩ | ⟨outcome, t₃, t₄, ht₂, hattempt, h⟩
        · obtain ⟨o', ho', -⟩ := Prog.exec_attempt.mp hattempt
          cases ho'
        · obtain ⟨o', ho', hsearch⟩ := Prog.exec_attempt.mp hattempt
          cases ho'
          have hhook : ∀ hook ∈ some (beforeRoute command), ∀ route, (hook route).Asks OpensNone := by
            intro hook hmem route
            cases hmem
            exact (enforce_asks _).mono fun _ => readsPolicy_opensNone
          have hsearched := search_searched hhook hsearch
          have ht' : t = (t₁ ++ t₃).map Obs.relabel ++ t₄ := by
            rw [ht, ht₂, List.map_append, List.append_assoc]
          cases outcome with
          | error err =>
            rw [hquiet _ ht', (Prog.exec_raise.mp h).1] at hsent
            exact absurd rfl hsent
          | ok opened =>
            obtain ⟨opened, route⟩ := opened
            obtain ⟨script, ⟨pre, ht₃, hpre⟩, hscript⟩ := hsearched
            obtain ⟨hevents, hending⟩ := ofScript_ok hscript
            refine ⟨(t₁ ++ pre).map Obs.relabel, route, command.request.withModel route.model route.model_ok, script,
              t₄, ?_, (hmetered.append hpre).relabel, hquiet _ ht', ?_⟩
            · rw [ht', ht₃, ← List.append_assoc, List.map_append, List.append_assoc]
              rfl
            · rw [hevents, hending]
              exact h

/-- The attempts of a run are streams of the three adapters, each answered in some way. -/
def Upstream (json_loads : JsonLoads) (t : List (Observation String)) : Prop :=
  ∀ provider request script, .asked (.stream provider request) script ∈ t →
    ∃ adapter reply, script = stream adapter json_loads request reply

theorem endsOwn_iff (adapter : Adapter) (json_loads : JsonLoads) (request : GenerationRequest)
    (events : List SseEvent) (completed : Bool) :
    EndsOwn (scriptOf adapter json_loads request events completed) ↔
      (signsOf adapter).Settles (doneOf adapter) json_loads events completed := by
  rw [← scriptOf_raises_iff adapter json_loads request events completed]
  constructor
  · intro hown err herr
    obtain ⟨e, he⟩ := hown err herr
    exact ⟨e, he, scriptOf_blames adapter json_loads request events completed herr e he⟩
  · intro hown err herr
    obtain ⟨e, he, -⟩ := hown err herr
    exact ⟨e, he⟩

theorem scriptOf_completes (adapter : Adapter) (json_loads : JsonLoads) (request : GenerationRequest)
    (events : List SseEvent) (completed : Bool) :
    ((scriptOf adapter json_loads request events completed).ending = .ok () ↔
      (signsOf adapter).Completes (doneOf adapter) json_loads events completed) ∧
    ∀ response, .response response ∈ (scriptOf adapter json_loads request events completed).events →
      let heard := payloads json_loads (((signsOf adapter).judgement (doneOf adapter) json_loads).heard events)
      response.model = (signsOf adapter).namedModel request heard ∧ response.usage = (signsOf adapter).usage heard := by
  cases adapter with
  | openAI => exact script_completes openAI_faithful json_loads request events completed
  | anthropic => exact script_completes anthropic_faithful json_loads request events completed
  | gemini => exact script_completes gemini_faithful json_loads request events completed

/-- The events of an attempt settle, and if they complete the stream, their model and token counts can be accounted
for. -/
def AttemptSettles (estimator : CostEstimator) (provider : String) (adapter : Adapter) (json_loads : JsonLoads)
    (request : GenerationRequest) (events : List SseEvent) (completed : Bool) : Prop :=
  let signs := signsOf adapter
  let heard := payloads json_loads ((signs.judgement (doneOf adapter) json_loads).heard events)
  signs.Settles (doneOf adapter) json_loads events completed ∧
    (signs.Completes (doneOf adapter) json_loads events completed →
      Accountable estimator provider (signs.namedModel request heard) (signs.usage heard))

theorem attempt_settles_iff (estimator : CostEstimator) (provider : String) (adapter : Adapter)
    (json_loads : JsonLoads) (request : GenerationRequest) (events : List SseEvent) (completed : Bool) :
    EndsOwn (scriptOf adapter json_loads request events completed) ∧
      (∀ response, .response response ∈ (scriptOf adapter json_loads request events completed).events →
        Accountable estimator provider response.model response.usage) ↔
      AttemptSettles estimator provider adapter json_loads request events completed := by
  unfold AttemptSettles
  simp only
  rw [endsOwn_iff]
  obtain ⟨hcompletes, htold⟩ := scriptOf_completes adapter json_loads request events completed
  refine and_congr_right fun _ => ?_
  have hshape : Shaped (scriptOf adapter json_loads request events completed) := scriptOf_shaped _ _ _ _ _
  rw [← hcompletes]
  generalize scriptOf adapter json_loads request events completed = script at hshape htold ⊢
  cases hshape with
  | completed deltas response =>
    have hlast : GenerationStreamEvent.response response ∈ deltas.map .delta ++ [.response response] := by simp
    obtain ⟨hmodel, husage⟩ := htold response hlast
    rw [← hmodel, ← husage]
    constructor
    · exact fun hall _ => hall response hlast
    · intro haccountable response' hmem
      have hsame : response' = response := by simpa using hmem
      rw [hsame]
      exact haccountable rfl
  | failed deltas err => exact iff_of_true (fun response hmem => by simp at hmem) nofun

end Bodies

/-- A body that has started is deltas and one terminal frame exactly when the events of the attempt it opened settle,
and are accounted for if they complete. -/
theorem body_grammatical_iff (self : CreateResponse) (command : CreateResponseCommand) (json_loads : JsonLoads)
    (hid : isBlank command.request_id = false) (t : List (Observation String)) (o : Except Exn Unit)
    (h : Prog.Exec (postStream self command) t o) (hpersisted : Persisted t) (hupstream : Upstream json_loads t)
    (hstarted : sent t ≠ []) :
    Grammatical (sent t) ↔ ∀ provider request adapter status_code events completed,
      .asked (.stream provider request)
        (stream adapter json_loads request (.answered status_code events completed)) ∈ t →
      (stream adapter json_loads request (.answered status_code events completed)).events ≠ [] →
      AttemptSettles self.cost_estimator provider adapter json_loads request events completed := by
  obtain ⟨pre, route, request, script, t', ht, hpre, hsent, hbody⟩ := postStream_opens h hstarted
  have hopened : .asked (.stream route.provider request) script ∈ t := by
    rw [ht]
    exact List.mem_append_right pre List.mem_cons_self
  obtain ⟨adapter, reply, hscript⟩ := hupstream _ _ _ hopened
  have hlocal : Persisted t' := hpersisted.mono fun obs hobs => by
    rw [ht]
    exact List.mem_append_right pre (List.mem_cons_of_mem _ hobs)
  rw [hsent] at hstarted ⊢
  rw [hscript] at hbody hopened ht
  have hyielded : (stream adapter json_loads request reply).events ≠ [] := by
    intro hnone
    rw [hnone, bodyOf_nil] at hbody
    apply hstarted
    generalize (stream adapter json_loads request reply).ending = ending at hbody
    cases ending with
    | ok u => rw [(Prog.exec_raise.mp hbody).1]; rfl
    | error err => rw [(Prog.exec_raise.mp hbody).1]; rfl
  have hgrammar := bodyOf_grammatical hid (stream_shaped adapter json_loads request reply) hbody hlocal hstarted
  obtain ⟨status_code, events, completed, rfl, hstream⟩ := stream_of_events hyielded
  rw [hgrammar]
  constructor
  · intro hsettles provider' request' adapter' status_code' events' completed' hmem hevents
    rw [ht] at hmem
    rcases List.mem_append.mp hmem with hmem | hmem
    · exact absurd (hpre _ _ _ hmem) hevents
    · rcases List.mem_cons.mp hmem with heq | hmem
      · cases Obs.asked.inj heq with
        | intro hcommand hanswer =>
          cases hcommand
          have hsame := eq_of_heq hanswer
          obtain ⟨_, _, _, hreply, hstream'⟩ := stream_of_events hevents
          cases hreply
          rw [← attempt_settles_iff, ← hstream', hsame]
          exact hsettles
      · exact absurd rfl (Prog.exec_asks (bodyOf_asks _ _ _) hbody _ _ hmem provider' request')
  · intro hall
    have hsettles := hall route.provider request adapter status_code events completed hopened hyielded
    rw [hstream]
    exact (attempt_settles_iff _ _ _ _ _ _ _).mpr hsettles

section Samples

/-- Collaborators that refuse nothing, and an OpenAI that answers every request with these events. -/
def relaying (events : List SseEvent) : (c : Command) → Response c
  | .stream _ request => stream .openAI textLoads request (.answered 200 events true)
  | c => DurableRecords.obliging (DurableRecords.delta "Hi" rfl) (DurableRecords.replying "Hi" rfl) c

def textEvents (text : String) : List SseEvent :=
  [⟨none, dumps (.obj [("id", .str "r1"),
      ("choices", .arr [.obj [("delta", .obj [("content", .str text)])]])])⟩,
    ⟨none, "[DONE]"⟩]

def relayed (events : List SseEvent) : List (Observation String) :=
  ((postStream ServiceRuns.sampleService (DurableRecords.callOf greetingRequest)).run
    (Handler.table (relaying events)).recording ((), [])).2.2

theorem mem_steps {t : List (Observation String)} {c : Command} {r : Response c} (h : .asked c r ∈ t) :
    (⟨c, r⟩ : Step Command Response) ∈ Obs.steps t :=
  List.mem_filterMap.mpr ⟨.asked c r, h, rfl⟩

theorem relayed_answer {events : List SseEvent} {c : Command} {r : Response c} (h : .asked c r ∈ relayed events) :
    r = relaying events c :=
  Prog.table_answers (relaying events) _ ⟨c, r⟩ (mem_steps h)

theorem relayed_persisted (events : List SseEvent) : Persisted (relayed events) :=
  ⟨fun _ _ h => relayed_answer h, fun _ _ h => relayed_answer h⟩

theorem relayed_upstream (events : List SseEvent) : Upstream textLoads (relayed events) :=
  fun _ _ _ h => ⟨.openAI, .answered 200 events true, relayed_answer h⟩

/-- A greeting is sent as a delta and a response. -/
theorem greeting_grammatical : (sent (relayed (textEvents "Hi"))).length = 2 ∧
    (Grammatical (sent (relayed (textEvents "Hi"))) ↔ ∀ provider request adapter status_code events completed,
      .asked (.stream provider request)
        (stream adapter textLoads request (.answered status_code events completed)) ∈ relayed (textEvents "Hi") →
      (stream adapter textLoads request (.answered status_code events completed)).events ≠ [] →
      AttemptSettles ServiceRuns.sampleService.cost_estimator provider adapter textLoads request events completed) := by
  have hlength : (sent (relayed (textEvents "Hi"))).length = 2 := by decide +kernel
  refine ⟨hlength, ?_⟩
  apply body_grammatical_iff ServiceRuns.sampleService (DurableRecords.callOf greetingRequest) textLoads
    (by decide) _ _ (Prog.exec_recorded _ _ _) (relayed_persisted _) (relayed_upstream _)
  intro hnone
  change sent (relayed (textEvents "Hi")) = [] at hnone
  rw [hnone] at hlength
  cases hlength

/-- A stream of one blank text is sent as one delta, after which the body ends. -/
theorem blank_body_never_terminates : Prog.Exec
      (postStream ServiceRuns.sampleService (DurableRecords.callOf greetingRequest)) (relayed (textEvents " "))
      (.error (.domainValidation "content must not be empty or blank")) ∧
    Persisted (relayed (textEvents " ")) ∧ Upstream textLoads (relayed (textEvents " ")) ∧
    sent (relayed (textEvents " ")) ≠ [] ∧ ¬ Grammatical (sent (relayed (textEvents " "))) := by
  have hsent : sent (relayed (textEvents " ")) =
      [frameText "response.delta" (deltaJson ⟨"r1", "gpt-4o", " ", rfl⟩)] := by
    decide +kernel
  refine ⟨?_, relayed_persisted _, relayed_upstream _, ?_, ?_⟩
  · have hended : ((postStream ServiceRuns.sampleService (DurableRecords.callOf greetingRequest)).run
        (Handler.table (relaying (textEvents " "))).recording ((), [])).1 =
        .error (.domainValidation "content must not be empty or blank") := by
      decide +kernel
    rw [← hended]
    exact Prog.exec_recorded _ _ _
  · rw [hsent]
    exact List.cons_ne_nil _ _
  · rw [hsent]
    exact deltas_ungrammatical [⟨"r1", "gpt-4o", " ", rfl⟩]

end Samples

end AIRuntime.StreamBodies
