import AIRuntime.ProviderStreams
import AIRuntime.Traversals

set_option autoImplicit false

/-! What the events of a stream say, by their own shape, and how a loop that is true to it goes on and ends. -/
namespace AIRuntime.StreamSigns

open Traversals PythonText Failures JsonText PythonJson GenerationContracts Collaborators ProviderPayloads
  ProviderStreams StreamReaders

section Errors

def OwnError (kind : ProviderErrorClass) (err : Exn) : Prop := ∃ e, err = .provider e ∧ e.kind = kind

def RaisesOwn {α : Type} (kind : ProviderErrorClass) (result : Except Exn α) : Prop :=
  ∀ err, result = .error err → OwnError kind err

theorem ownError_permanent (kind : ProviderErrorClass) (message : String) :
    OwnError kind (.provider (.permanent kind message)) := ⟨_, rfl, rfl⟩

theorem not_own_validation (kind : ProviderErrorClass) (message : String) :
    ¬ OwnError kind (.domainValidation message) := by
  rintro ⟨e, h, -⟩
  cases h

theorem raisesOwn_error {α : Type} {kind : ProviderErrorClass} {err : Exn} :
    RaisesOwn kind (.error err : Except Exn α) ↔ OwnError kind err := by
  constructor
  · exact fun h => h err rfl
  · rintro h _ ⟨⟩
    exact h

end Errors

section Signs

/-- What the JSON object of an event says, by its own shape. -/
structure Signs where
  /-- It names a valid id. -/
  identifies : SseEvent → Json → Bool
  /-- The valid model it names. -/
  model : SseEvent → Json → Option String
  /-- The text it carries. -/
  text : SseEvent → Json → String
  /-- A message, choice, candidate or part of it has the wrong type. -/
  misshapen : SseEvent → Json → Bool
  /-- It counts tokens with something that is no integer. -/
  miscounted : SseEvent → Json → Bool
  /-- A count of it is negative. -/
  negative : SseEvent → Json → Bool
  /-- In the end one of the two counts is missing. -/
  unpaired : List (SseEvent × Json) → Bool
  /-- In the end a count is negative. -/
  overdrawn : List (SseEvent × Json) → Bool
  /-- The token counts in the end. -/
  usage : List (SseEvent × Json) → Option TokenUsage

def payloads (json_loads : JsonLoads) (events : List SseEvent) : List (SseEvent × Json) :=
  events.filterMap fun e =>
    match json_loads e.data with
    | .ok payload => some (e, payload)
    | .error _ => none

def Signs.identified (signs : Signs) (heard : List (SseEvent × Json)) : Bool :=
  heard.any fun x => signs.identifies x.1 x.2

def Signs.spoken (signs : Signs) (heard : List (SseEvent × Json)) : Bool :=
  heard.any fun x => !isBlank (signs.text x.1 x.2)

/-- The last model named, else the one asked for. -/
def Signs.namedModel (signs : Signs) (request : GenerationRequest) (heard : List (SseEvent × Json)) : String :=
  (heard.filterMap fun x => signs.model x.1 x.2).getLast?.getD request.model

/-- There is an id and a text, and the counts are none or two that are not negative. -/
def Signs.Whole (signs : Signs) (heard : List (SseEvent × Json)) : Prop :=
  signs.identified heard = true ∧ signs.unpaired heard = false ∧ signs.overdrawn heard = false ∧
    signs.spoken heard = true

/-- An adapter refuses what is no JSON object, is misshapen or miscounted, and text before an id. It breaks at an
integer over the digit limit, at too deep a nesting and at a negative count. -/
def Signs.judgement (signs : Signs) (done : String → Bool) (json_loads : JsonLoads) : Judgement SseEvent where
  stops := fun e => done e.data
  refuses := fun before e =>
    match json_loads e.data with
    | .error failure => failure = .decodeError
    | .ok payload => isObject payload = false ∨ signs.misshapen e payload = true ∨ signs.miscounted e payload = true ∨
      signs.text e payload ≠ "" ∧ signs.identified (payloads json_loads before ++ [(e, payload)]) = false
  breaks := fun _ e =>
    match json_loads e.data with
    | .error failure => failure ≠ .decodeError
    | .ok payload => signs.negative e payload = true

def Lost (done : String → Bool) (events : List SseEvent) (completed : Bool) : Prop :=
  completed = false ∧ ∀ e ∈ events, done e.data = false

/-- Some event is refused, and none before it breaks the loop; or no event is refused or breaks the loop, and the
connection is lost, or no id came, or one count is missing, or the counts are not negative and some text is not
blank. -/
def Signs.Settles (signs : Signs) (done : String → Bool) (json_loads : JsonLoads) (events : List SseEvent)
    (completed : Bool) : Prop :=
  let judgement := signs.judgement done json_loads
  let heard := payloads json_loads (judgement.heard events)
  judgement.Refuses [] (judgement.heard events) ∨
    judgement.Passes [] (judgement.heard events) ∧
      (Lost done events completed ∨ signs.identified heard = false ∨
        signs.unpaired heard = true ∨ signs.overdrawn heard = false ∧ signs.spoken heard = true)

def Signs.Completes (signs : Signs) (done : String → Bool) (json_loads : JsonLoads) (events : List SseEvent)
    (completed : Bool) : Prop :=
  let judgement := signs.judgement done json_loads
  judgement.Passes [] (judgement.heard events) ∧ ¬ Lost done events completed ∧
    signs.Whole (payloads json_loads (judgement.heard events))

end Signs

section Loops

variable {U : Type}

/-- What the parser makes of an object that is not misshapen. `Tracks heard u` says that `u` is what the loop keeps
of the token counts it heard. -/
structure Reads (p : StreamParser U) (signs : Signs) (Tracks : List (SseEvent × Json) → U → Prop) (e : SseEvent)
    (payload : Json) (c : Chunk U) : Prop where
  read : p.chunk e payload = .ok c
  text : c.text = .ok (signs.text e payload)
  id : (validText c.id).isSome = signs.identifies e payload
  model : validText c.model = signs.model e payload
  miscounted : signs.miscounted e payload = true →
    ∀ u, ∃ err, c.usage u = .error err ∧ OwnError p.adapter.kind err
  negative : signs.miscounted e payload = false → signs.negative e payload = true →
    ∀ u, ∃ err, c.usage u = .error err ∧ ¬ OwnError p.adapter.kind err
  counted : signs.miscounted e payload = false → signs.negative e payload = false →
    ∀ heard u, Tracks heard u → ∃ u', c.usage u = .ok u' ∧ Tracks (heard ++ [(e, payload)]) u'

structure Faithful (p : StreamParser U) (signs : Signs) (Tracks : List (SseEvent × Json) → U → Prop) : Prop where
  start : Tracks [] p.noUsage
  misshapen : ∀ e payload, isObject payload = true → signs.misshapen e payload = true →
    ∃ err, ((∃ c, p.chunk e payload = .ok c ∧ c.text = .error err) ∨ p.chunk e payload = .error err) ∧
      OwnError p.adapter.kind err
  shaped : ∀ e payload, isObject payload = true → signs.misshapen e payload = false →
    ∃ chunk, Reads p signs Tracks e payload chunk
  unpaired : ∀ heard u, Tracks heard u → signs.unpaired heard = true →
    ∃ err, p.tokenUsage u = .error err ∧ OwnError p.adapter.kind err
  overdrawn : ∀ heard u, Tracks heard u → signs.unpaired heard = false → signs.overdrawn heard = true →
    ∃ err, p.tokenUsage u = .error err ∧ ¬ OwnError p.adapter.kind err
  paired : ∀ heard u, Tracks heard u → signs.unpaired heard = false → signs.overdrawn heard = false →
    p.tokenUsage u = .ok (signs.usage heard)

/-- What the locals of the loop are after the objects it heard. -/
structure Knows (signs : Signs) (Tracks : List (SseEvent × Json) → U → Prop) (request : GenerationRequest)
    (heard : List (SseEvent × Json)) (s : StreamState U) : Prop where
  id : isBlank s.response_id = !signs.identified heard
  model : isBlank s.model = false
  named : s.model = signs.namedModel request heard
  text : isBlank (String.join s.assembled) = !signs.spoken heard
  usage : Tracks heard s.usage

variable {p : StreamParser U} {signs : Signs} {Tracks : List (SseEvent × Json) → U → Prop} {json_loads : JsonLoads}
  {request : GenerationRequest} {heard : List (SseEvent × Json)} {s : StreamState U} {e : SseEvent} {payload : Json}
  {chunk : Chunk U}

theorem payloads_append {before : List SseEvent} (h : json_loads e.data = .ok payload) :
    payloads json_loads (before ++ [e]) = payloads json_loads before ++ [(e, payload)] := by
  unfold payloads
  rw [List.filterMap_append, List.filterMap_cons, h]
  rfl

theorem identified_append : signs.identified (heard ++ [(e, payload)]) =
    (signs.identified heard || signs.identifies e payload) := by
  unfold Signs.identified
  rw [List.any_append]
  simp

theorem spoken_append : signs.spoken (heard ++ [(e, payload)]) =
    (signs.spoken heard || !isBlank (signs.text e payload)) := by
  unfold Signs.spoken
  rw [List.any_append]
  simp

theorem isBlank_append (a b : String) : isBlank (a ++ b) = (isBlank a && isBlank b) := by
  unfold isBlank
  rw [String.toList_append, List.all_append]

theorem Knows.start (hp : Faithful p signs Tracks) (request : GenerationRequest) :
    Knows signs Tracks request [] (p.start request) := by
  constructor
  · rfl
  · exact requireNonBlank_none.mp request.model_ok
  · rfl
  · rfl
  · exact hp.start

theorem Knows.named_id (h : Knows signs Tracks request heard s) (hreads : Reads p signs Tracks e payload chunk) :
    isBlank (StreamParser.named s chunk).response_id = !signs.identified (heard ++ [(e, payload)]) := by
  rw [StreamParser.named_id_blank, h.id, identified_append, ← hreads.id]
  cases signs.identified heard <;> cases validText chunk.id <;> rfl

theorem getLast?_filterMap_append {α β : Type} (f : α → Option β) (l : List α) (a : α) :
    ((l ++ [a]).filterMap f).getLast? = (f a).or (l.filterMap f).getLast? := by
  rw [List.filterMap_append, List.getLast?_append]
  cases h : f a <;> simp [h]

theorem Knows.named_model (h : Knows signs Tracks request heard s) (hreads : Reads p signs Tracks e payload chunk) :
    (StreamParser.named s chunk).model = signs.namedModel request (heard ++ [(e, payload)]) := by
  unfold Signs.namedModel
  rw [getLast?_filterMap_append, ← hreads.model]
  unfold StreamParser.named
  rw [h.named]
  unfold Signs.namedModel
  cases validText chunk.model <;> rfl

/-- A chunk that is not refused for its text is yielded, if it has any. -/
theorem delta_of_reads (h : Knows signs Tracks request heard s) (hreads : Reads p signs Tracks e payload chunk)
    (htext : signs.text e payload = "" ∨ signs.identified (heard ++ [(e, payload)]) = true) :
    ∃ delta, chunk.text.bind (p.delta (StreamParser.named s chunk)) = .ok delta ∧
      String.join (delta.toList.map (·.content)) = signs.text e payload := by
  rw [hreads.text]
  change ∃ delta, p.delta (StreamParser.named s chunk) (signs.text e payload) = .ok delta ∧ _
  by_cases hempty : signs.text e payload = ""
  · rw [hempty]
    exact ⟨none, StreamParser.delta_empty, rfl⟩
  · have hid : isBlank (StreamParser.named s chunk).response_id = false := by
      rw [h.named_id hreads, htext.resolve_left hempty]
      rfl
    obtain ⟨d, hdelta, -, -, hcontent⟩ :=
      @StreamParser.delta_some U p _ _ hempty hid (StreamParser.named_model chunk h.model)
    refine ⟨some d, hdelta, ?_⟩
    change String.join [d.content] = _
    rw [hcontent, String.join_cons, String.join_nil, String.append_empty]

/-- A chunk that reads, but is miscounted or has a text before an id, ends the loop with the adapter's own error. -/
theorem shaped_refused_flow (hp : Faithful p signs Tracks) {before : List SseEvent}
    (h : Knows signs Tracks request (payloads json_loads before) s) (hdone : p.done e.data = false)
    (hload : json_loads e.data = .ok payload) (hobject : isObject payload = true)
    (hshape : signs.misshapen e payload = false)
    (hrefuses : signs.miscounted e payload = true ∨
      signs.text e payload ≠ "" ∧ signs.identified (payloads json_loads before ++ [(e, payload)]) = false) :
    ∃ err, (p.read json_loads s e).flow = .fail err ∧ OwnError p.adapter.kind err := by
  have hread := @StreamParser.load_then_chunk U p json_loads e payload hload hobject
  obtain ⟨c, hreads⟩ := hp.shaped e payload hobject hshape
  rw [StreamParser.read_step hdone (hread.trans hreads.read)]
  by_cases htext : signs.text e payload = "" ∨
      signs.identified (payloads json_loads before ++ [(e, payload)]) = true
  · obtain ⟨delta, hdelta, -⟩ := delta_of_reads h hreads htext
    have hmiscounted : signs.miscounted e payload = true := by
      rcases hrefuses with hcounts | ⟨hsome, hnone⟩
      · exact hcounts
      · rw [htext.resolve_left hsome] at hnone
        cases hnone
    obtain ⟨err, husage, hown⟩ := hreads.miscounted hmiscounted s.usage
    exact ⟨err, StreamParser.step_usage_fail hdelta husage, hown⟩
  · obtain ⟨hsome, hnone⟩ := not_or.mp htext
    have hid : isBlank (StreamParser.named s c).response_id = true := by
      rw [h.named_id hreads, Bool.not_eq_true _ |>.mp hnone]
      rfl
    refine ⟨_, StreamParser.step_fail ?_, ownError_permanent p.adapter.kind
      (p.adapter.label ++ " stream is missing a valid id")⟩
    rw [hreads.text]
    exact StreamParser.delta_missingId hsome hid

/-- What is refused: each of the five grounds ends the loop with the adapter's own error. -/
theorem refused_flow (hp : Faithful p signs Tracks) {before : List SseEvent}
    (h : Knows signs Tracks request (payloads json_loads before) s) (hdone : p.done e.data = false)
    (hrefuses : (signs.judgement p.done json_loads).refuses before e) :
    ∃ err, (p.read json_loads s e).flow = .fail err ∧ OwnError p.adapter.kind err := by
  cases hload : json_loads e.data with
  | error failure =>
    have hdecode : failure = .decodeError := by
      simpa only [Signs.judgement, hload] using hrefuses
    rw [hdecode] at hload
    refine ⟨_, StreamParser.read_fail hdone ?_, ownError_permanent p.adapter.kind
      (p.adapter.label ++ " stream chunk is not valid JSON")⟩
    rw [StreamParser.load_decodeError hload]
    rfl
  | ok payload =>
    simp only [Signs.judgement, hload] at hrefuses
    cases hobject : isObject payload with
    | false =>
      refine ⟨_, StreamParser.read_fail hdone ?_, ownError_permanent p.adapter.kind
        (p.adapter.label ++ " stream chunk must be a JSON object")⟩
      rw [StreamParser.load_refused hload hobject]
      rfl
    | true =>
      have hread := @StreamParser.load_then_chunk U p json_loads e payload hload hobject
      cases hshape : signs.misshapen e payload with
      | true =>
        obtain ⟨err, ⟨c, hchunk, htext⟩ | hchunk, hown⟩ := hp.misshapen e payload hobject hshape
        · refine ⟨err, ?_, hown⟩
          rw [StreamParser.read_step hdone (hread.trans hchunk)]
          apply StreamParser.step_fail
          rw [htext]
          rfl
        · exact ⟨err, StreamParser.read_fail hdone (hread.trans hchunk), hown⟩
      | false =>
        refine shaped_refused_flow hp h hdone hload hobject hshape ?_
        rcases hrefuses with hno | hno | hrefuses
        · rw [hobject] at hno
          cases hno
        · rw [hshape] at hno
          cases hno
        · exact hrefuses

/-- What breaks the loop, and is not refused, ends it with another error. -/
theorem broken_flow (hp : Faithful p signs Tracks) {before : List SseEvent}
    (h : Knows signs Tracks request (payloads json_loads before) s) (hdone : p.done e.data = false)
    (hrefuses : ¬ (signs.judgement p.done json_loads).refuses before e)
    (hbreaks : (signs.judgement p.done json_loads).breaks before e) :
    ∃ err, (p.read json_loads s e).flow = .fail err ∧ ¬ OwnError p.adapter.kind err := by
  cases hload : json_loads e.data with
  | error failure =>
    have hgives : GivesUp json_loads e.data := by
      cases failure with
      | decodeError =>
        simp only [Signs.judgement, hload] at hbreaks
        exact absurd rfl hbreaks
      | valueError => exact .inl hload
      | recursionError => exact .inr hload
    have hfails : ∃ name, p.load json_loads e.data = .error (.other name) := StreamParser.load_givesUp hgives
    obtain ⟨name, hfail⟩ := hfails
    refine ⟨.other name, StreamParser.read_fail hdone ?_, ?_⟩
    · rw [hfail]
      rfl
    · rintro ⟨_, herr, -⟩
      cases herr
  | ok payload =>
    simp only [Signs.judgement, hload, not_or, not_and, Bool.not_eq_true, Bool.not_eq_false] at hrefuses hbreaks
    obtain ⟨hobject, hshape, hcounts, htext⟩ := hrefuses
    obtain ⟨c, hreads⟩ := hp.shaped e payload hobject hshape
    obtain ⟨delta, hdelta, -⟩ := delta_of_reads h hreads (or_iff_not_imp_left.mpr htext)
    obtain ⟨err, husage, hforeign⟩ := hreads.negative hcounts hbreaks s.usage
    refine ⟨err, ?_, hforeign⟩
    rw [StreamParser.read_step hdone ((StreamParser.load_then_chunk hload hobject).trans hreads.read)]
    exact StreamParser.step_usage_fail hdelta husage

theorem passed_flow (hp : Faithful p signs Tracks) {before : List SseEvent}
    (h : Knows signs Tracks request (payloads json_loads before) s) (hdone : p.done e.data = false)
    (hrefuses : ¬ (signs.judgement p.done json_loads).refuses before e)
    (hbreaks : ¬ (signs.judgement p.done json_loads).breaks before e) :
    ∃ s', (p.read json_loads s e).flow = .next s' ∧
      Knows signs Tracks request (payloads json_loads (before ++ [e])) s' := by
  cases hload : json_loads e.data with
  | error failure =>
    simp only [Signs.judgement, hload] at hrefuses hbreaks
    exact absurd (not_not.mp hbreaks) hrefuses
  | ok payload =>
    simp only [Signs.judgement, hload, not_or, not_and, Bool.not_eq_true, Bool.not_eq_false] at hrefuses hbreaks
    obtain ⟨hobject, hshape, hcounts, htext⟩ := hrefuses
    obtain ⟨c, hreads⟩ := hp.shaped e payload hobject hshape
    obtain ⟨delta, hdelta, hspoken⟩ := delta_of_reads h hreads (or_iff_not_imp_left.mpr htext)
    obtain ⟨usage, husage, htracks⟩ := hreads.counted hcounts hbreaks _ s.usage h.usage
    rw [StreamParser.read_step hdone ((StreamParser.load_then_chunk hload hobject).trans hreads.read),
      StreamParser.step_next hdelta husage, payloads_append hload]
    refine ⟨_, rfl, ?_, ?_, ?_, ?_, htracks⟩
    · exact h.named_id hreads
    · exact StreamParser.named_model c h.model
    · exact h.named_model hreads
    · change isBlank (String.join (s.assembled ++ _)) = _
      rw [String.join_append, hspoken, isBlank_append, h.text, spoken_append]
      cases signs.spoken (payloads json_loads before) <;> cases isBlank (signs.text e payload) <;> rfl

theorem reads_judged (hp : Faithful p signs Tracks) (json_loads : JsonLoads) :
    Judges (signs.judgement p.done json_loads) (p.read json_loads)
      (fun before => Knows signs Tracks request (payloads json_loads before))
      (fun err => ¬ OwnError p.adapter.kind err) := by
  constructor
  · intro before s e _ hstops
    have hdone : p.done e.data = true := hstops
    unfold StreamParser.read
    rw [hdone]
    rfl
  · intro before s e h hdone hrefuses
    obtain ⟨err, hflow, hown⟩ := refused_flow hp h hdone hrefuses
    exact ⟨err, hflow, not_not_intro hown⟩
  · exact fun before s e h hdone hrefuses hbreaks => broken_flow hp h hdone hrefuses hbreaks
  · exact fun before s e h hdone hrefuses hbreaks => passed_flow hp h hdone hrefuses hbreaks

theorem finish_whole (hp : Faithful p signs Tracks) (h : Knows signs Tracks request heard s)
    (hwhole : signs.Whole heard) : ∃ response, p.finish s = .ok response ∧
      response.model = signs.namedModel request heard ∧ response.usage = signs.usage heard := by
  obtain ⟨hidentified, hpaired, hcounted, hspoken⟩ := hwhole
  have hid : isBlank s.response_id = false := by
    rw [h.id, hidentified]
    rfl
  have htext : isBlank (String.join s.assembled) = false := by
    rw [h.text, hspoken]
    rfl
  obtain ⟨response, hresponse⟩ := assistantResponse_ok hid h.model htext (signs.usage heard)
  refine ⟨response, ?_, ?_⟩
  · unfold StreamParser.finish
    rw [hid, hp.paired heard s.usage h.usage hpaired hcounted]
    exact hresponse
  · rw [← h.named]
    exact assistantResponse_fields hresponse

/-- Without an id, and with one count only, the adapter's own error is raised; with a negative count or no text
another one. -/
theorem finish_partial (hp : Faithful p signs Tracks) (h : Knows signs Tracks request heard s)
    (hbroken : ¬ signs.Whole heard) : ∃ err, p.finish s = .error err ∧
      (OwnError p.adapter.kind err ↔ signs.identified heard = false ∨ signs.unpaired heard = true) := by
  unfold StreamParser.finish
  rw [h.id]
  cases hidentified : signs.identified heard with
  | false => exact ⟨_, rfl, iff_of_true (ownError_permanent _ _) (.inl rfl)⟩
  | true =>
    simp only [Bool.not_true, Bool.false_eq_true, ↓reduceIte, Bool.true_eq_false, false_or]
    cases hunpaired : signs.unpaired heard with
    | true =>
      obtain ⟨err, husage, hown⟩ := hp.unpaired heard s.usage h.usage hunpaired
      rw [husage]
      exact ⟨err, rfl, iff_of_true hown rfl⟩
    | false =>
      cases hoverdrawn : signs.overdrawn heard with
      | true =>
        obtain ⟨err, husage, hforeign⟩ := hp.overdrawn heard s.usage h.usage hunpaired hoverdrawn
        rw [husage]
        exact ⟨err, rfl, iff_of_false hforeign Bool.false_ne_true⟩
      | false =>
        have htext : isBlank (String.join s.assembled) = true := by
          rw [h.text]
          by_contra hspoken
          exact hbroken ⟨hidentified, hunpaired, hoverdrawn, by simpa using hspoken⟩
        rw [hp.paired heard s.usage h.usage hunpaired hoverdrawn]
        exact ⟨_, assistantResponse_blank htext _, iff_of_false (not_own_validation _ _) Bool.false_ne_true⟩

theorem finish_raises_iff (hp : Faithful p signs Tracks) (h : Knows signs Tracks request heard s) :
    RaisesOwn p.adapter.kind (p.finish s) ↔ signs.identified heard = false ∨ signs.unpaired heard = true ∨
      signs.overdrawn heard = false ∧ signs.spoken heard = true := by
  by_cases hwhole : signs.Whole heard
  · obtain ⟨response, hresponse, -⟩ := finish_whole hp h hwhole
    rw [hresponse]
    exact iff_of_true nofun (.inr (.inr hwhole.2.2))
  · obtain ⟨err, herr, hown⟩ := finish_partial hp h hwhole
    rw [herr, raisesOwn_error, hown]
    constructor
    · exact Or.imp_right .inl
    · rintro (hid | hunpaired | ⟨hcounted, hspoken⟩)
      · exact .inl hid
      · exact .inr hunpaired
      · by_contra hneither
        obtain ⟨hid, hpaired⟩ := not_or.mp hneither
        exact hwhole ⟨by simpa using hid, by simpa using hpaired, hcounted, hspoken⟩

theorem not_lost {err : Exn} {events : List SseEvent} {completed : Bool}
    (h : (if completed then .ok () else .error err : Except Exn Unit) = .ok () ∨
      ∃ e ∈ events, (signs.judgement p.done json_loads).stops e = true) : ¬ Lost p.done events completed := by
  rintro ⟨rfl, hnone⟩
  rcases h with hok | ⟨e, he, hstops⟩
  · cases hok
  · have hdone : p.done e.data = true := hstops
    rw [hnone e he] at hdone
    cases hdone

theorem script_ending (request : GenerationRequest) (events : List SseEvent) (completed : Bool) :
    RaisesOwn p.adapter.kind (p.script json_loads request events completed).ending ↔
      RaisesOwn p.adapter.kind ((run (p.read json_loads) (if completed then .ok () else .error p.adapter.httpFailed)
        (p.start request) events).2.bind p.finish) := by
  unfold StreamParser.script
  simp only
  split <;> rename_i hresult
  · rw [hresult, raisesOwn_error, raisesOwn_error]
  · rw [hresult]
    exact ⟨fun _ => nofun, fun _ => nofun⟩

theorem script_raises_iff (hp : Faithful p signs Tracks) (json_loads : JsonLoads) (request : GenerationRequest)
    (events : List SseEvent) (completed : Bool) :
    RaisesOwn p.adapter.kind (p.script json_loads request events completed).ending ↔
      signs.Settles p.done json_loads events completed := by
  rw [script_ending]
  have hstart : Knows signs Tracks request (payloads json_loads []) (p.start request) := Knows.start hp request
  have hends := run_ends (reads_judged hp json_loads)
    (if completed then .ok () else .error p.adapter.httpFailed) hstart events
  generalize (run (p.read json_loads) (if completed then .ok () else .error p.adapter.httpFailed) (p.start request)
    events).2 = result at hends ⊢
  unfold Signs.Settles
  simp only
  cases hends with
  | refused h herr =>
    exact ⟨fun _ => .inl h, fun _ => raisesOwn_error.mpr (not_not.mp herr)⟩
  | broken h hsome herr =>
    refine ⟨fun hraises => absurd (raisesOwn_error.mp hraises) herr, ?_⟩
    rintro (hrefuses | ⟨hpasses, -⟩)
    · exact absurd hrefuses h
    · exact absurd hpasses hsome
  | @failed err h hpasses hnone hending =>
    cases completed with
    | true => cases hending
    | false =>
      have herr : p.adapter.httpFailed = err := Except.error.inj hending
      refine ⟨fun _ => .inr ⟨hpasses, .inl ⟨rfl, hnone⟩⟩, fun _ => ?_⟩
      rw [← herr]
      exact raisesOwn_error.mpr ⟨_, rfl, rfl⟩
  | @heard s h hpasses hending hknows =>
    change RaisesOwn _ (p.finish s) ↔ _
    rw [finish_raises_iff hp hknows]
    have hnot : ¬ Lost p.done events completed := not_lost hending
    constructor
    · exact fun hlast => .inr ⟨hpasses, .inr hlast⟩
    · rintro (hrefuses | ⟨-, hlost | hlast⟩)
      · exact absurd hrefuses h
      · exact absurd hlost hnot
      · exact hlast

/-- A stream completes exactly when the signs say so, with the model and the counts they say. -/
theorem script_completes (hp : Faithful p signs Tracks) (json_loads : JsonLoads) (request : GenerationRequest)
    (events : List SseEvent) (completed : Bool) :
    ((p.script json_loads request events completed).ending = .ok () ↔
      signs.Completes p.done json_loads events completed) ∧
    ∀ response, .response response ∈ (p.script json_loads request events completed).events →
      let heard := payloads json_loads ((signs.judgement p.done json_loads).heard events)
      response.model = signs.namedModel request heard ∧ response.usage = signs.usage heard := by
  have hstart : Knows signs Tracks request (payloads json_loads []) (p.start request) := Knows.start hp request
  have hends := run_ends (reads_judged hp json_loads)
    (if completed then .ok () else .error p.adapter.httpFailed) hstart events
  unfold StreamParser.script Signs.Completes
  simp only
  generalize run (p.read json_loads) (if completed then .ok () else .error p.adapter.httpFailed) (p.start request)
    events = result at hends ⊢
  obtain ⟨deltas, last⟩ := result
  simp only at hends ⊢
  have hdeltas : ∀ response : GenerationResponse, ¬ .response response ∈ deltas.map GenerationStreamEvent.delta := by
    intro response hmem
    obtain ⟨d, -, hd⟩ := List.mem_map.mp hmem
    cases hd
  cases hends with
  | refused hrefuses herr =>
    exact ⟨iff_of_false nofun fun hcompletes => hrefuses.not_passes hcompletes.1,
      fun response hmem => absurd hmem (hdeltas response)⟩
  | broken h hsome herr =>
    exact ⟨iff_of_false nofun fun hcompletes => hsome hcompletes.1,
      fun response hmem => absurd hmem (hdeltas response)⟩
  | failed h hpasses hnone hending =>
    refine ⟨iff_of_false nofun fun hcompletes => hcompletes.2.1 ⟨?_, hnone⟩,
      fun response hmem => absurd hmem (hdeltas response)⟩
    cases completed with
    | true => cases hending
    | false => rfl
  | @heard s h hpasses hending hknows =>
    rw [List.nil_append] at hknows
    have hkept : ¬ Lost p.done events completed := not_lost hending
    by_cases hwhole : signs.Whole (payloads json_loads ((signs.judgement p.done json_loads).heard events))
    · obtain ⟨response, hresponse, htold⟩ := finish_whole hp hknows hwhole
      have hbind : (Except.ok s : Except Exn (StreamState U)).bind p.finish = .ok response := hresponse
      rw [hbind]
      refine ⟨iff_of_true rfl ⟨hpasses, hkept, hwhole⟩, fun response' hmem => ?_⟩
      rcases List.mem_append.mp hmem with hmem | hmem
      · exact absurd hmem (hdeltas response')
      · rw [GenerationStreamEvent.response.inj (List.mem_singleton.mp hmem)]
        exact htold
    · obtain ⟨err, herr, -⟩ := finish_partial hp hknows hwhole
      have hbind : (Except.ok s : Except Exn (StreamState U)).bind p.finish = .error err := herr
      rw [hbind]
      exact ⟨iff_of_false nofun fun hcompletes => hwhole hcompletes.2.2,
        fun response hmem => absurd hmem (hdeltas response)⟩

end Loops

end AIRuntime.StreamSigns
