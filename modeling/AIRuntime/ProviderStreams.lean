import AIRuntime.Collaborators
import AIRuntime.ProviderPayloads
import AIRuntime.StreamReaders

set_option autoImplicit false

/-! The streams of `providers/openai`, `providers/anthropic` and `providers/gemini`. -/
namespace AIRuntime.ProviderStreams

open PythonText Failures JsonText PythonJson GenerationContracts Collaborators ProviderPayloads StreamReaders

structure SseEvent where
  event_name : Option String
  data : String

/-- The locals of a stream's loop; `usage` is what the adapter keeps of the token counts. -/
structure StreamState (U : Type) where
  response_id : String
  model : String
  assembled : List String
  usage : U

/-- What an adapter reads from a chunk: the fields that name id and model, the text, and the token counts. -/
structure Chunk (U : Type) where
  id : Json
  model : Json
  text : Except Exn String
  usage : U → Except Exn U

structure StreamParser (U : Type) where
  adapter : Adapter
  done : String → Bool
  chunk : SseEvent → Json → Except Exn (Chunk U)
  noUsage : U
  tokenUsage : U → Except Exn (Option TokenUsage)

namespace StreamParser

variable {U : Type} (self : StreamParser U) (json_loads : JsonLoads)

def missingId {α : Type} : Except Exn α :=
  refuse self.adapter.kind (self.adapter.label ++ " stream is missing a valid id")

/-- `json.loads(data)`, which must be an object. -/
def load (data : String) : Except Exn Json :=
  match json_loads data with
  | .error .decodeError => refuse self.adapter.kind (self.adapter.label ++ " stream chunk is not valid JSON")
  | .error failure => .error failure.exn
  | .ok (.obj members) => .ok (.obj members)
  | .ok _ => refuse self.adapter.kind (self.adapter.label ++ " stream chunk must be a JSON object")

def delta (s : StreamState U) (text : String) : Except Exn (Option GenerationDelta) :=
  if text = "" then .ok none
  else if isBlank s.response_id then self.missingId
  else (GenerationDelta.new s.response_id s.model text).map some

/-- A chunk's id and model replace those before it, if they are valid. -/
def named (s : StreamState U) (chunk : Chunk U) : StreamState U :=
  { s with
    response_id := (validText chunk.id).getD s.response_id
    model := (validText chunk.model).getD s.model }

/-- A chunk: its names, then its text, then its token counts. -/
def step (s : StreamState U) (chunk : Chunk U) : Reading (StreamState U) GenerationDelta Exn :=
  match chunk.text.bind (self.delta (named s chunk)) with
  | .error err => ⟨none, .fail err⟩
  | .ok delta =>
    match chunk.usage s.usage with
    | .error err => ⟨delta, .fail err⟩
    | .ok usage =>
      ⟨delta, .next { named s chunk with assembled := s.assembled ++ delta.toList.map (·.content), usage := usage }⟩

def read (s : StreamState U) (event : SseEvent) : Reading (StreamState U) GenerationDelta Exn :=
  if self.done event.data then ⟨none, .stop s⟩
  else
    match (self.load json_loads event.data).bind (self.chunk event) with
    | .error err => ⟨none, .fail err⟩
    | .ok chunk => self.step s chunk

def finish (s : StreamState U) : Except Exn GenerationResponse :=
  if isBlank s.response_id then self.missingId
  else do
    let usage ← self.tokenUsage s.usage
    assistantResponse s.response_id s.model (String.join s.assembled) [] usage

def start (request : GenerationRequest) : StreamState U := ⟨"", request.model, [], self.noUsage⟩

/-- The events of a stream whose connection ends normally or is lost. -/
def script (request : GenerationRequest) (events : List SseEvent) (completed : Bool) : StreamScript :=
  let ending := if completed then .ok () else .error self.adapter.httpFailed
  let looped := run (self.read json_loads) ending (self.start request) events
  match looped.2.bind self.finish with
  | .error err => ⟨looped.1.map .delta, .error err⟩
  | .ok response => ⟨looped.1.map .delta ++ [.response response], .ok ()⟩

section Steps

variable {self : StreamParser U} {json_loads : JsonLoads} {s : StreamState U} {event : SseEvent} {payload : Json}
  {chunk : Chunk U}

theorem load_ok (h : json_loads event.data = .ok payload) (hobject : isObject payload = true) :
    self.load json_loads event.data = .ok payload := by
  unfold load
  rw [h]
  cases payload <;> first | rfl | cases hobject

theorem load_refused (h : json_loads event.data = .ok payload) (hobject : isObject payload = false) :
    self.load json_loads event.data =
      refuse self.adapter.kind (self.adapter.label ++ " stream chunk must be a JSON object") := by
  unfold load
  rw [h]
  cases payload <;> first | rfl | cases hobject

theorem load_decodeError (h : json_loads event.data = .error .decodeError) :
    self.load json_loads event.data =
      refuse self.adapter.kind (self.adapter.label ++ " stream chunk is not valid JSON") := by
  unfold load
  rw [h]

theorem load_givesUp (h : GivesUp json_loads event.data) :
    ∃ name, self.load json_loads event.data = .error (.other name) := by
  unfold load
  rcases h with h | h
  · rw [h]
    exact ⟨"ValueError", rfl⟩
  · rw [h]
    exact ⟨"RecursionError", rfl⟩

theorem load_then_chunk (h : json_loads event.data = .ok payload) (hobject : isObject payload = true) :
    (self.load json_loads event.data).bind (self.chunk event) = self.chunk event payload := by
  rw [load_ok h hobject]
  rfl

theorem read_fail {err : Exn} (hdone : self.done event.data = false)
    (h : (self.load json_loads event.data).bind (self.chunk event) = .error err) :
    (self.read json_loads s event).flow = .fail err := by
  unfold read
  rw [hdone, h]
  rfl

theorem read_step (hdone : self.done event.data = false)
    (h : (self.load json_loads event.data).bind (self.chunk event) = .ok chunk) :
    self.read json_loads s event = self.step s chunk := by
  unfold read
  rw [hdone, h]
  rfl

@[simp] theorem delta_empty : self.delta s "" = .ok none := if_pos rfl

theorem delta_missingId {text : String} (htext : text ≠ "") (hid : isBlank s.response_id = true) :
    self.delta s text = self.missingId := by
  unfold delta
  rw [if_neg htext, if_pos hid]

theorem delta_some {text : String} (htext : text ≠ "") (hid : isBlank s.response_id = false)
    (hmodel : isBlank s.model = false) :
    ∃ d, self.delta s text = .ok (some d) ∧ d.id = s.response_id ∧ d.model = s.model ∧ d.content = text := by
  have hproblem : GenerationDelta.problem s.response_id s.model text = none := by
    unfold GenerationDelta.problem
    rw [requireNonBlank_none.mpr hid, requireNonBlank_none.mpr hmodel, if_neg htext]
    rfl
  unfold delta
  rw [if_neg htext, if_neg (by rw [hid]; exact Bool.false_ne_true)]
  refine ⟨⟨s.response_id, s.model, text, hproblem⟩, ?_, rfl, rfl, rfl⟩
  unfold GenerationDelta.new
  rw [validated_ok hproblem]
  rfl

theorem step_fail {err : Exn} (h : chunk.text.bind (self.delta (named s chunk)) = .error err) :
    (self.step s chunk).flow = .fail err := by
  unfold step
  rw [h]

theorem step_usage_fail {delta : Option GenerationDelta} {err : Exn}
    (h : chunk.text.bind (self.delta (named s chunk)) = .ok delta) (husage : chunk.usage s.usage = .error err) :
    (self.step s chunk).flow = .fail err := by
  unfold step
  rw [h]
  simp only [husage]

theorem step_next {delta : Option GenerationDelta} {usage : U}
    (h : chunk.text.bind (self.delta (named s chunk)) = .ok delta) (husage : chunk.usage s.usage = .ok usage) :
    self.step s chunk = ⟨delta, .next { named s chunk with
      assembled := s.assembled ++ delta.toList.map (·.content), usage := usage }⟩ := by
  unfold step
  rw [h]
  simp only [husage]

theorem named_id_blank (s : StreamState U) (chunk : Chunk U) :
    isBlank (named s chunk).response_id = (isBlank s.response_id && (validText chunk.id).isNone) := by
  unfold named validText
  cases chunk.id with
  | str text =>
    simp only
    split_ifs with h
    · simp
    · simp [h]
  | _ => simp

theorem named_model (chunk : Chunk U) (h : isBlank s.model = false) : isBlank (named s chunk).model = false := by
  unfold named validText
  cases chunk.model with
  | str text =>
    simp only
    split_ifs with htext
    · exact h
    · simpa using htext
  | _ => exact h

end Steps

end StreamParser

section OpenAI

def openAIDeltaText (payload : Json) : Except Exn String :=
  match item payload "choices" with
  | .arr (.obj first_choice :: _) => .ok ((item (item (.obj first_choice) "delta") "content").str?.getD "")
  | .arr (_ :: _) => refuse .openAI "OpenAI stream choice is invalid"
  | _ => .ok ""

/-- `if "usage" in payload`. -/
def openAIStreamUsage (payload : Json) (usage : Option TokenUsage) : Except Exn (Option TokenUsage) :=
  match payload.get? "usage" with
  | none => .ok usage
  | some usage_payload => usageFromOpenAIPayload usage_payload

def openAIParser : StreamParser (Option TokenUsage) where
  adapter := .openAI
  done := fun data => data = "[DONE]"
  chunk := fun _ payload =>
    .ok ⟨item payload "id", item payload "model", openAIDeltaText payload, openAIStreamUsage payload⟩
  noUsage := none
  tokenUsage := .ok

end OpenAI

section Anthropic

/-- `event_name or payload.get("type")`. -/
def anthropicEventType (event : SseEvent) (payload : Json) : Option String :=
  match event.event_name with
  | some event_name => if event_name = "" then (item payload "type").str? else some event_name
  | none => (item payload "type").str?

/-- The token counts, input and output. -/
abbrev TokenCounts := Option ℤ × Option ℤ

def startTokens (message : Json) : Option ℤ := (item (item message "usage") "input_tokens").int?

def deltaTokens (payload : Json) : Option ℤ := (item (item payload "usage") "output_tokens").int?

def blockDeltaText (payload : Json) : String :=
  let delta := item payload "delta"
  if (item delta "type").str? = some "text_delta" then (item delta "text").str?.getD "" else ""

def anthropicChunk (event : SseEvent) (payload : Json) : Except Exn (Chunk TokenCounts) :=
  if anthropicEventType event payload = some "message_start" then
    match item payload "message" with
    | .obj message =>
      .ok ⟨item (.obj message) "id", item (.obj message) "model", .ok "", fun counts =>
        .ok ((startTokens (.obj message)).or counts.1, counts.2)⟩
    | _ => refuse .anthropic "Anthropic stream message_start is invalid"
  else if anthropicEventType event payload = some "content_block_delta" then
    .ok ⟨.null, .null, .ok (blockDeltaText payload), .ok⟩
  else if anthropicEventType event payload = some "message_delta" then
    .ok ⟨.null, .null, .ok "", fun counts => .ok (counts.1, (deltaTokens payload).or counts.2)⟩
  else .ok ⟨.null, .null, .ok "", .ok⟩

theorem anthropicChunk_start {event : SseEvent} {payload : Json} {message : List (String × Json)}
    (h : anthropicEventType event payload = some "message_start") (hmessage : item payload "message" = .obj message) :
    anthropicChunk event payload =
      .ok ⟨item (.obj message) "id", item (.obj message) "model", .ok "", fun counts =>
        .ok ((startTokens (.obj message)).or counts.1, counts.2)⟩ := by
  unfold anthropicChunk
  rw [if_pos h, hmessage]

theorem anthropicChunk_block {event : SseEvent} {payload : Json}
    (h : anthropicEventType event payload = some "content_block_delta") :
    anthropicChunk event payload = .ok ⟨.null, .null, .ok (blockDeltaText payload), .ok⟩ := by
  unfold anthropicChunk
  rw [h]
  rfl

theorem anthropicChunk_delta {event : SseEvent} {payload : Json}
    (h : anthropicEventType event payload = some "message_delta") :
    anthropicChunk event payload =
      .ok ⟨.null, .null, .ok "", fun counts => .ok (counts.1, (deltaTokens payload).or counts.2)⟩ := by
  unfold anthropicChunk
  rw [h]
  rfl

theorem anthropicChunk_other {event : SseEvent} {payload : Json}
    (hstart : anthropicEventType event payload ≠ some "message_start")
    (hblock : anthropicEventType event payload ≠ some "content_block_delta")
    (hdelta : anthropicEventType event payload ≠ some "message_delta") :
    anthropicChunk event payload = .ok ⟨.null, .null, .ok "", .ok⟩ := by
  unfold anthropicChunk
  rw [if_neg hstart, if_neg hblock, if_neg hdelta]

def anthropicTokenUsage (counts : TokenCounts) : Except Exn (Option TokenUsage) :=
  match counts with
  | (some input_tokens, some output_tokens) => (TokenUsage.new input_tokens output_tokens).map some
  | (none, none) => .ok none
  | _ => refuse .anthropic "Anthropic response usage is invalid"

def anthropicParser : StreamParser TokenCounts where
  adapter := .anthropic
  done := fun _ => false
  chunk := anthropicChunk
  noUsage := (none, none)
  tokenUsage := anthropicTokenUsage

end Anthropic

section Gemini

def geminiDeltaText (payload : Json) : Except Exn String :=
  match item payload "candidates" with
  | .arr (.obj first_candidate :: _) => optionalTextFromParts (item (item (.obj first_candidate) "content") "parts")
  | .arr (_ :: _) => refuse .gemini "Gemini stream candidate is invalid"
  | _ => .ok ""

/-- The token counts of a chunk, which may leave them both out. -/
def geminiStreamUsage (payload : Json) (usage : Option TokenUsage) : Except Exn (Option TokenUsage) :=
  let usage_payload := item payload "usageMetadata"
  let prompt_tokens := item usage_payload "promptTokenCount"
  let candidates_tokens := item usage_payload "candidatesTokenCount"
  match prompt_tokens.int?, candidates_tokens.int? with
  | some input_tokens, some output_tokens => (TokenUsage.new input_tokens output_tokens).map some
  | _, _ =>
    if isNull prompt_tokens && isNull candidates_tokens then .ok usage
    else refuse .gemini "Gemini response usage is invalid"

def geminiParser : StreamParser (Option TokenUsage) where
  adapter := .gemini
  done := fun _ => false
  chunk := fun _ payload =>
    .ok ⟨item payload "responseId", item payload "modelVersion", geminiDeltaText payload, geminiStreamUsage payload⟩
  noUsage := none
  tokenUsage := .ok

end Gemini

/-- What `httpx` does with a streamed `POST`: it raises an `HTTPError`, or something else, or it is answered with a
status and events until the connection ends or is lost. -/
inductive StreamReply where
  | failed
  | raised (name : String)
  | answered (status_code : ℕ) (events : List SseEvent) (completed : Bool)

def scriptOf (adapter : Adapter) (json_loads : JsonLoads) (request : GenerationRequest) (events : List SseEvent)
    (completed : Bool) : StreamScript :=
  match adapter with
  | .openAI => openAIParser.script json_loads request events completed
  | .anthropic => anthropicParser.script json_loads request events completed
  | .gemini => geminiParser.script json_loads request events completed

def stream (adapter : Adapter) (json_loads : JsonLoads) (request : GenerationRequest) (reply : StreamReply) :
    StreamScript :=
  match adapter.body json_loads request true with
  | .error err => ⟨[], .error err⟩
  | .ok _ =>
    match reply with
    | .failed => ⟨[], .error adapter.httpFailed⟩
    | .raised name => ⟨[], .error (.other name)⟩
    | .answered status_code events completed =>
      if 400 ≤ status_code then
        -- the body of a refusal is read first, which may fail as well
        ⟨[], .error (if completed then adapter.httpStatus status_code else adapter.httpFailed)⟩
      else scriptOf adapter json_loads request events completed

section Assembly

variable {U : Type} {self : StreamParser U} {json_loads : JsonLoads}

def Assembled (deltas : List GenerationDelta) (s : StreamState U) : Prop := s.assembled = deltas.map (·.content)

theorem Assembled.step {deltas : List GenerationDelta} {s s' : StreamState U} {chunk : Chunk U} (h : Assembled deltas s)
    (hflow : (self.step s chunk).flow = .next s') : Assembled (deltas ++ (self.step s chunk).handed.toList) s' := by
  cases hdelta : chunk.text.bind (self.delta (StreamParser.named s chunk)) with
  | error err =>
    rw [StreamParser.step_fail hdelta] at hflow
    cases hflow
  | ok delta =>
    cases hcounted : chunk.usage s.usage with
    | error err =>
      rw [StreamParser.step_usage_fail hdelta hcounted] at hflow
      cases hflow
    | ok usage =>
      rw [StreamParser.step_next hdelta hcounted] at hflow ⊢
      cases hflow
      unfold Assembled at h ⊢
      rw [List.map_append, ← h]

theorem StreamParser.step_not_stop {s s' : StreamState U} {chunk : Chunk U} : (self.step s chunk).flow ≠ .stop s' := by
  intro hstop
  cases hdelta : chunk.text.bind (self.delta (StreamParser.named s chunk)) with
  | error err =>
    rw [StreamParser.step_fail hdelta] at hstop
    cases hstop
  | ok delta =>
    cases hcounted : chunk.usage s.usage with
    | error err =>
      rw [StreamParser.step_usage_fail hdelta hcounted] at hstop
      cases hstop
    | ok usage =>
      rw [StreamParser.step_next hdelta hcounted] at hstop
      cases hstop

theorem Assembled.read {deltas : List GenerationDelta} {s s' : StreamState U} {event : SseEvent}
    (h : Assembled deltas s) (hflow : (self.read json_loads s event).flow = .next s' ∨
      (self.read json_loads s event).flow = .stop s') :
    Assembled (deltas ++ (self.read json_loads s event).handed.toList) s' := by
  cases hdone : self.done event.data with
  | true =>
    have hread : self.read json_loads s event = ⟨none, .stop s⟩ := by
      unfold StreamParser.read
      rw [if_pos hdone]
    rw [hread] at hflow ⊢
    rcases hflow with hflow | hflow
    · cases hflow
    · cases hflow
      rw [Option.toList_none, List.append_nil]
      exact h
  | false =>
    cases hparsed : (self.load json_loads event.data).bind (self.chunk event) with
    | error err =>
      rw [StreamParser.read_fail hdone hparsed] at hflow
      rcases hflow with hflow | hflow <;> cases hflow
    | ok chunk =>
      rw [StreamParser.read_step hdone hparsed] at hflow ⊢
      rcases hflow with hflow | hflow
      · exact h.step hflow
      · exact absurd hflow StreamParser.step_not_stop

theorem StreamParser.finish_content {s : StreamState U} {response : GenerationResponse}
    (h : self.finish s = .ok response) : response.output.content = String.join s.assembled := by
  unfold StreamParser.finish at h
  split_ifs at h
  · cases h
  · cases husage : self.tokenUsage s.usage with
    | error err =>
      rw [husage] at h
      cases h
    | ok usage =>
      rw [husage] at h
      exact (assistantResponse_content h).1

/-- What a stream yields: deltas with an id and a text, and after them at most a response of all their texts. -/
inductive Assembles : StreamScript → Prop where
  | raised {deltas : List GenerationDelta} {err : Exn} (h : ∀ d ∈ deltas, isBlank d.id = false ∧ d.content ≠ "") :
      Assembles ⟨deltas.map .delta, .error err⟩
  | completed {deltas : List GenerationDelta} {response : GenerationResponse}
      (h : ∀ d ∈ deltas, isBlank d.id = false ∧ d.content ≠ "")
      (hcontent : response.output.content = String.join (deltas.map (·.content))) :
      Assembles ⟨deltas.map .delta ++ [.response response], .ok ()⟩

theorem delta_named (d : GenerationDelta) : isBlank d.id = false ∧ d.content ≠ "" := by
  obtain ⟨hid, hrest⟩ := or_none d.ok
  refine ⟨requireNonBlank_none.mp hid, ?_⟩
  intro hempty
  have hcontent := (or_none hrest).2
  rw [if_pos hempty] at hcontent
  cases hcontent

theorem script_assembles (request : GenerationRequest) (events : List SseEvent) (completed : Bool) :
    Assembles (self.script json_loads request events completed) := by
  have hstart : Assembled [] (self.start request) := rfl
  unfold StreamParser.script
  simp only
  split
  · exact .raised fun d _ => delta_named d
  · rename_i response hresponse
    refine .completed (fun d _ => delta_named d) ?_
    cases hlast : (run (self.read json_loads) (if completed then .ok () else .error self.adapter.httpFailed)
        (self.start request) events).2 with
    | error err =>
      rw [hlast] at hresponse
      cases hresponse
    | ok last =>
      rw [hlast] at hresponse
      have hassembled := run_carries (fun _ _ _ _ h hflow => Assembled.read h hflow) hstart events hlast
      rw [StreamParser.finish_content hresponse, hassembled]
      rfl

/-- Of every adapter, whatever events its upstream sends. -/
theorem stream_assembles (adapter : Adapter) (json_loads : JsonLoads) (request : GenerationRequest)
    (reply : StreamReply) : Assembles (stream adapter json_loads request reply) := by
  have hnone : ∀ d ∈ ([] : List GenerationDelta), isBlank d.id = false ∧ d.content ≠ "" :=
    fun _ hmem => absurd hmem List.not_mem_nil
  unfold stream
  cases adapter.body json_loads request true with
  | error err => exact .raised hnone
  | ok body =>
    cases reply with
    | failed => exact .raised hnone
    | raised name => exact .raised hnone
    | answered status_code events completed =>
      simp only
      split_ifs
      · exact .raised hnone
      · exact .raised hnone
      · cases adapter with
        | openAI => exact script_assembles request events completed
        | anthropic => exact script_assembles request events completed
        | gemini => exact script_assembles request events completed

end Assembly

end AIRuntime.ProviderStreams
