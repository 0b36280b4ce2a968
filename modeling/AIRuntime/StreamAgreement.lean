import AIRuntime.ProviderStreams
import AIRuntime.Traversals

set_option autoImplicit false

/-! A completion that is answered as one payload, and the same completion in the chunks of a stream. -/
namespace AIRuntime.StreamAgreement

open Traversals PythonText Failures JsonText PythonJson GenerationContracts Collaborators ProviderPayloads
  ProviderStreams StreamReaders

/-- A completion that is text only. -/
structure Completion where
  id : String
  model : String
  text : String
  usage : Option TokenUsage
  id_ok : isBlank id = false
  model_ok : isBlank model = false
  text_ok : isBlank text = false

def Completion.response (c : Completion) : Except Exn GenerationResponse :=
  assistantResponse c.id c.model c.text [] c.usage

/-- The texts that are yielded, which leaves out the empty ones. -/
def chunksOf (texts : List String) : List String := texts.filter (· ≠ "")

theorem join_chunksOf (texts : List String) : String.join (chunksOf texts) = String.join texts := by
  induction texts with
  | nil => rfl
  | cons text rest ih =>
    unfold chunksOf at ih ⊢
    by_cases h : text = ""
    · rw [List.filter_cons_of_neg (by simp [h]), String.join_cons, h, String.empty_append]
      exact ih
    · rw [List.filter_cons_of_pos (by simp [h]), String.join_cons, String.join_cons, ih]

theorem join_congr {texts texts' : List String} (h : chunksOf texts = chunksOf texts') :
    String.join texts = String.join texts' := by
  rw [← join_chunksOf texts, ← join_chunksOf texts', h]

theorem chunksOf_silent {texts silent : List String} (h : ∀ text ∈ silent, text = "") :
    chunksOf (texts ++ silent) = chunksOf texts := by
  have hnone : silent.filter (· ≠ "") = [] :=
    List.filter_eq_nil_iff.mpr fun text htext => by simp [h text htext]
  unfold chunksOf
  rw [List.filter_append, hnone, List.append_nil]

section Loops

variable {U : Type}

/-- Deltas with the completion's id and model, and with these texts. -/
structure Relays (c : Completion) (deltas : List GenerationDelta) (texts : List String) : Prop where
  contents : deltas.map (·.content) = chunksOf texts
  names : ∀ d ∈ deltas, d.id = c.id ∧ d.model = c.model

theorem Relays.append {c : Completion} {deltas deltas' : List GenerationDelta} {texts texts' : List String}
    (h : Relays c deltas texts) (h' : Relays c deltas' texts') : Relays c (deltas ++ deltas') (texts ++ texts') := by
  constructor
  · unfold chunksOf
    rw [List.map_append, List.filter_append, h.contents, h'.contents]
    rfl
  · intro d hd
    exact (List.mem_append.mp hd).elim (h.names d) (h'.names d)

/-- From `s` an event relays its text, and leaves the completion's names and `u`. -/
def Conveys (p : StreamParser U) (json_loads : JsonLoads) (c : Completion) (s : StreamState U) (e : SseEvent)
    (text : String) (u : U) : Prop :=
  ∃ handed : Option GenerationDelta, Relays c handed.toList [text] ∧
    p.read json_loads s e =
      ⟨handed, .next ⟨c.id, c.model, s.assembled ++ handed.toList.map (·.content), u⟩⟩

inductive Conveyed (p : StreamParser U) (json_loads : JsonLoads) (c : Completion) :
    List SseEvent → List String → U → U → Prop where
  | nil (u : U) : Conveyed p json_loads c [] [] u u
  | cons {e : SseEvent} {text : String} {u u' u'' : U} {events : List SseEvent} {texts : List String}
    (h : ∀ assembled, Conveys p json_loads c ⟨c.id, c.model, assembled, u⟩ e text u')
    (hrest : Conveyed p json_loads c events texts u' u'') :
    Conveyed p json_loads c (e :: events) (text :: texts) u u''

variable {p : StreamParser U} {json_loads : JsonLoads} {c : Completion}

theorem Conveyed.append {events events' : List SseEvent} {texts texts' : List String} {u u' u'' : U}
    (h : Conveyed p json_loads c events texts u u') (h' : Conveyed p json_loads c events' texts' u' u'') :
    Conveyed p json_loads c (events ++ events') (texts ++ texts') u u'' := by
  induction h with
  | nil => exact h'
  | cons hfirst hrest ih => exact .cons hfirst (ih h')

theorem run_conveyed {events : List SseEvent} {texts : List String} {u u' : U}
    (h : Conveyed p json_loads c events texts u u') (assembled : List String) :
    ∃ deltas, Relays c deltas texts ∧ ∀ ending rest,
      run (p.read json_loads) ending ⟨c.id, c.model, assembled, u⟩ (events ++ rest) =
        (deltas ++ (run (p.read json_loads) ending ⟨c.id, c.model, assembled ++ deltas.map (·.content), u'⟩ rest).1,
          (run (p.read json_loads) ending ⟨c.id, c.model, assembled ++ deltas.map (·.content), u'⟩ rest).2) := by
  induction h generalizing assembled with
  | nil u =>
    refine ⟨[], ⟨rfl, nofun⟩, fun ending rest => ?_⟩
    rw [List.map_nil, List.append_nil]
    rfl
  | @cons e text u u' u'' events texts hfirst _ ih =>
    obtain ⟨handed, hrelays, hread⟩ := hfirst assembled
    obtain ⟨deltas, hdeltas, hrun⟩ := ih (assembled ++ handed.toList.map (·.content))
    refine ⟨handed.toList ++ deltas, hrelays.append hdeltas, fun ending rest => ?_⟩
    have hflow := congrArg Reading.flow hread
    rw [List.cons_append, run_next hflow, hrun, hread, List.map_append, List.append_assoc, List.append_assoc]

/-- A stream that conveys a completion and then ends, or says that it is done. -/
theorem script_conveyed {request : GenerationRequest} {first : SseEvent} {events tail : List SseEvent} {text : String}
    {texts : List String} {u u' : U} {completed : Bool}
    (hfirst : Conveys p json_loads c (p.start request) first text u)
    (hrest : Conveyed p json_loads c events texts u u') (htext : String.join (text :: texts) = c.text)
    (husage : p.tokenUsage u' = .ok c.usage)
    (hend : tail = [] ∧ completed = true ∨ ∃ last after, tail = last :: after ∧ p.done last.data = true) :
    ∃ deltas response, c.response = .ok response ∧ Relays c deltas (text :: texts) ∧
      p.script json_loads request (first :: (events ++ tail)) completed =
        ⟨deltas.map .delta ++ [.response response], .ok ()⟩ := by
  obtain ⟨handed, hrelays, hread⟩ := hfirst
  obtain ⟨deltas, hdeltas, hrun⟩ := run_conveyed hrest (handed.toList.map (·.content))
  have hall : Relays c (handed.toList ++ deltas) (text :: texts) := hrelays.append hdeltas
  obtain ⟨response, hresponse⟩ := assistantResponse_ok c.id_ok c.model_ok c.text_ok c.usage
  refine ⟨handed.toList ++ deltas, response, hresponse, hall, ?_⟩
  have hflow : (p.read json_loads (p.start request) first).flow =
      .next ⟨c.id, c.model, handed.toList.map (·.content), u⟩ := by
    rw [hread]
    rfl
  have hlast : ∀ s : StreamState U, run (p.read json_loads)
      (if completed then .ok () else .error p.adapter.httpFailed) s tail = ([], .ok s) := by
    intro s
    rcases hend with ⟨rfl, rfl⟩ | ⟨last, after, rfl, hdone⟩
    · rfl
    · have hstop : p.read json_loads s last = ⟨none, .stop s⟩ := by
        unfold StreamParser.read
        rw [hdone]
        rfl
      rw [run_stop (congrArg Reading.flow hstop), hstop]
      rfl
  have hloop : run (p.read json_loads) (if completed then .ok () else .error p.adapter.httpFailed) (p.start request)
      (first :: (events ++ tail)) = (handed.toList ++ deltas,
        .ok ⟨c.id, c.model, (handed.toList ++ deltas).map (·.content), u'⟩) := by
    rw [run_next hflow, hread, hrun, hlast, List.append_nil, List.map_append]
  have hfinish : p.finish ⟨c.id, c.model, (handed.toList ++ deltas).map (·.content), u'⟩ = .ok response := by
    unfold StreamParser.finish
    rw [c.id_ok, husage, hall.contents, join_chunksOf, htext]
    exact hresponse
  unfold StreamParser.script
  simp only [hloop, Except.bind, hfinish]

/-- A chunk with the completion's names, or with none where they are known, relays its text. -/
theorem conveys_step {s : StreamState U} {e : SseEvent} {chunk : Chunk U} {text : String} {u : U}
    (hread : p.read json_loads s e = p.step s chunk)
    (hid : (StreamParser.named s chunk).response_id = c.id) (hmodel : (StreamParser.named s chunk).model = c.model)
    (htext : chunk.text = .ok text) (husage : chunk.usage s.usage = .ok u) :
    Conveys p json_loads c s e text u := by
  have hnamed : ∀ assembled usage, ({ StreamParser.named s chunk with assembled := assembled, usage := usage } :
      StreamState U) = ⟨c.id, c.model, assembled, usage⟩ := by
    intro assembled usage
    change (⟨(StreamParser.named s chunk).response_id, (StreamParser.named s chunk).model, assembled, usage⟩ :
      StreamState U) = _
    rw [hid, hmodel]
  by_cases hempty : text = ""
  · have hdelta : chunk.text.bind (p.delta (StreamParser.named s chunk)) = .ok none := by
      rw [htext, hempty]
      exact StreamParser.delta_empty
    refine ⟨none, ⟨?_, nofun⟩, ?_⟩
    · rw [hempty]
      rfl
    · rw [hread, StreamParser.step_next hdelta husage, hnamed]
  · obtain ⟨d, hd, hdid, hdmodel, hcontent⟩ := @StreamParser.delta_some U p (StreamParser.named s chunk) text hempty
      (by rw [hid]; exact c.id_ok) (by rw [hmodel]; exact c.model_ok)
    have hdelta : chunk.text.bind (p.delta (StreamParser.named s chunk)) = .ok (some d) := by
      rw [htext]
      exact hd
    refine ⟨some d, ⟨?_, ?_⟩, ?_⟩
    · unfold chunksOf
      rw [List.filter_cons_of_pos (by simp [hempty])]
      exact congrArg (fun text => [text]) hcontent
    · intro other hother
      rw [List.mem_singleton.mp hother]
      exact ⟨hdid.trans hid, hdmodel.trans hmodel⟩
    · rw [hread, StreamParser.step_next hdelta husage, hnamed]

end Loops

section Shapes

/-- Token counts under a vendor's names; without usage there is no such object. -/
def CountsAs (raw : Json) (inputName outputName : String) (usage : Option TokenUsage) : Prop :=
  match usage with
  | none => raw = .null
  | some u => isObject raw = true ∧ item raw inputName = .int u.input_tokens ∧ item raw outputName = .int u.output_tokens

def Carries (json_loads : JsonLoads) (e : SseEvent) (payload : Json) : Prop :=
  json_loads e.data = .ok payload ∧ isObject payload = true

structure Named (c : Completion) (payload : Json) (idName modelName : String) : Prop where
  id : item payload idName = .str c.id
  model : item payload modelName = .str c.model

section OpenAI

structure OpenAIPayload (c : Completion) (payload : Json) : Prop where
  named : Named c payload "id" "model"
  message : ∃ choice rest message, item payload "choices" = .arr (.obj choice :: rest) ∧
    item (.obj choice) "message" = .obj message ∧ item (.obj message) "content" = .str c.text ∧
    item (.obj message) "tool_calls" = .null
  usage : CountsAs (item payload "usage") "prompt_tokens" "completion_tokens" c.usage

structure OpenAIDelta (json_loads : JsonLoads) (c : Completion) (e : SseEvent) (text : String) (payload : Json) :
    Prop where
  more : e.data ≠ "[DONE]"
  carries : Carries json_loads e payload
  named : Named c payload "id" "model"
  delta : ∃ choice rest, item payload "choices" = .arr (.obj choice :: rest) ∧
    (item (item (.obj choice) "delta") "content" = .str text ∨
      item (item (.obj choice) "delta") "content" = .null ∧ text = "")
  usage : item payload "usage" = .null

/-- The usage chunk, which has no choices. -/
structure OpenAIUsage (json_loads : JsonLoads) (c : Completion) (usage : TokenUsage) (e : SseEvent) (payload : Json) :
    Prop where
  more : e.data ≠ "[DONE]"
  carries : Carries json_loads e payload
  named : Named c payload "id" "model"
  choices : item payload "choices" = .arr []
  usage : CountsAs (item payload "usage") "prompt_tokens" "completion_tokens" (some usage)

/-- Choice deltas, the usage chunk if there is usage, and `[DONE]`. -/
def OpenAIEvents (json_loads : JsonLoads) (c : Completion) (texts : List String) (events : List SseEvent) : Prop :=
  ∃ deltas last done after, events = deltas ++ (last ++ done :: after) ∧ done.data = "[DONE]" ∧
    List.Forall₂ (fun e text => ∃ payload, OpenAIDelta json_loads c e text payload) deltas texts ∧
    match c.usage with
    | none => last = []
    | some usage => ∃ e payload, last = [e] ∧ OpenAIUsage json_loads c usage e payload

end OpenAI

section Anthropic

structure TextBlock (block : Json) (text : String) : Prop where
  object : isObject block = true
  type : item block "type" = .str "text"
  text : item block "text" = .str text

structure AnthropicPayload (c : Completion) (payload : Json) : Prop where
  named : Named c payload "id" "model"
  content : ∃ blocks texts, item payload "content" = .arr blocks ∧ List.Forall₂ TextBlock blocks texts ∧
    String.join texts = c.text
  usage : CountsAs (item payload "usage") "input_tokens" "output_tokens" c.usage

def countJson (count : Option ℤ) : Json :=
  match count with
  | none => .null
  | some n => .int n

structure AnthropicStart (json_loads : JsonLoads) (c : Completion) (e : SseEvent) (payload : Json) : Prop where
  carries : Carries json_loads e payload
  type : anthropicEventType e payload = some "message_start"
  object : isObject (item payload "message") = true
  named : Named c (item payload "message") "id" "model"
  usage : item (item (item payload "message") "usage") "input_tokens" = countJson (c.usage.map (·.input_tokens))

structure AnthropicOther (json_loads : JsonLoads) (e : SseEvent) (payload : Json) : Prop where
  carries : Carries json_loads e payload
  start : anthropicEventType e payload ≠ some "message_start"
  block : anthropicEventType e payload ≠ some "content_block_delta"
  delta : anthropicEventType e payload ≠ some "message_delta"

structure AnthropicText (json_loads : JsonLoads) (e : SseEvent) (text : String) (payload : Json) : Prop where
  carries : Carries json_loads e payload
  type : anthropicEventType e payload = some "content_block_delta"
  delta : item (item payload "delta") "type" = .str "text_delta"
  text : item (item payload "delta") "text" = .str text

structure AnthropicDelta (json_loads : JsonLoads) (c : Completion) (e : SseEvent) (payload : Json) : Prop where
  carries : Carries json_loads e payload
  type : anthropicEventType e payload = some "message_delta"
  usage : item (item payload "usage") "output_tokens" = countJson (c.usage.map (·.output_tokens))

/-- `message_start`, text deltas and `message_delta`, with events of other types after the first. -/
def AnthropicEvents (json_loads : JsonLoads) (c : Completion) (texts : List String) (events : List SseEvent) : Prop :=
  ∃ start middle delta after startPayload deltaPayload, events = start :: (middle ++ delta :: after) ∧
    AnthropicStart json_loads c start startPayload ∧
    List.Forall₂ (fun e text => ∃ payload, AnthropicText json_loads e text payload ∨
      AnthropicOther json_loads e payload ∧ text = "") middle texts ∧
    AnthropicDelta json_loads c delta deltaPayload ∧ ∀ e ∈ after, ∃ payload, AnthropicOther json_loads e payload

end Anthropic

section Gemini

structure TextPart (part : Json) (text : String) : Prop where
  object : isObject part = true
  thought : item part "thought" = .null
  call : part.get? "functionCall" = none
  text : item part "text" = .str text

def CandidateText (payload : Json) (text : String) : Prop :=
  ∃ candidate rest content parts texts, item payload "candidates" = .arr (.obj candidate :: rest) ∧
    item (.obj candidate) "content" = .obj content ∧ item (.obj content) "parts" = .arr parts ∧
    List.Forall₂ TextPart parts texts ∧ String.join texts = text

structure GeminiPayload (c : Completion) (payload : Json) : Prop where
  named : Named c payload "responseId" "modelVersion"
  candidate : CandidateText payload c.text
  usage : CountsAs (item payload "usageMetadata") "promptTokenCount" "candidatesTokenCount" c.usage

/-- A candidate chunk; `before` and `after` are the counts known before and after it. -/
structure GeminiChunk (json_loads : JsonLoads) (c : Completion) (e : SseEvent) (text : String)
    (before after : Option TokenUsage) (payload : Json) : Prop where
  carries : Carries json_loads e payload
  named : Named c payload "responseId" "modelVersion"
  candidate : CandidateText payload text
  usage : item payload "usageMetadata" = .null ∧ after = before ∨
    after.isSome = true ∧ CountsAs (item payload "usageMetadata") "promptTokenCount" "candidatesTokenCount" after

/-- Candidate chunks whose counts are cumulative: the last ones are those of the whole. -/
inductive GeminiEvents (json_loads : JsonLoads) (c : Completion) :
    List String → List SseEvent → Option TokenUsage → Option TokenUsage → Prop where
  | nil (usage : Option TokenUsage) : GeminiEvents json_loads c [] [] usage usage
  | cons {e : SseEvent} {text : String} {payload : Json} {texts : List String} {events : List SseEvent}
    {before between after : Option TokenUsage} (h : GeminiChunk json_loads c e text before between payload)
    (hrest : GeminiEvents json_loads c texts events between after) :
    GeminiEvents json_loads c (text :: texts) (e :: events) before after

end Gemini

def Unsplit (adapter : Adapter) (c : Completion) (payload : Json) : Prop :=
  match adapter with
  | .openAI => OpenAIPayload c payload
  | .anthropic => AnthropicPayload c payload
  | .gemini => GeminiPayload c payload

/-- The completion as the events of a stream, one for each of the texts. -/
def Splits (adapter : Adapter) (json_loads : JsonLoads) (c : Completion) (texts : List String)
    (events : List SseEvent) (completed : Bool) : Prop :=
  match adapter with
  | .openAI => OpenAIEvents json_loads c texts events
  | .anthropic => AnthropicEvents json_loads c texts events ∧ completed = true
  | .gemini => GeminiEvents json_loads c texts events none c.usage ∧ completed = true

end Shapes

section Payloads

variable {c : Completion} {payload : Json}

theorem ok_bind {α β : Type} (a : α) (f : α → Except Exn β) : ((.ok a : Except Exn α) >>= f) = f a := rfl

theorem validText_str {text : String} (h : isBlank text = false) : validText (.str text) = some text := by
  unfold validText
  simp only [h, Bool.false_eq_true, ↓reduceIte]

theorem get?_of_item {key : String} {value : Json} (h : item payload key = value) (hvalue : value ≠ .null) :
    payload.get? key = some value := by
  unfold item at h
  cases hget : payload.get? key with
  | none =>
    rw [hget] at h
    exact absurd h.symm hvalue
  | some found =>
    rw [hget] at h
    exact congrArg some h

theorem validId_named {kind : ProviderErrorClass} {message : String} {id : String} (h : isBlank id = false) :
    validId kind message (.str id) = .ok id := by
  unfold validId
  rw [validText_str h]

theorem tokenUsage_new (u : TokenUsage) :
    (TokenUsage.new u.input_tokens u.output_tokens).map some = .ok (some u) := by
  unfold TokenUsage.new
  rw [validated_ok u.ok]
  rfl

/-- The three parsers of a usage object agree on what counts as it says. -/
theorem usage_counted {raw : Json} {inputName outputName : String} {usage : Option TokenUsage}
    (h : CountsAs raw inputName outputName usage) :
    raw = .null ∧ usage = none ∨ ∃ members u, raw = .obj members ∧ usage = some u ∧
      (item raw inputName).int? = some u.input_tokens ∧ (item raw outputName).int? = some u.output_tokens := by
  cases usage with
  | none => exact .inl ⟨h, rfl⟩
  | some u =>
    obtain ⟨hobject, hinput, houtput⟩ := h
    cases raw with
    | obj members =>
      refine .inr ⟨members, u, rfl, rfl, ?_, ?_⟩
      · rw [hinput]
        rfl
      · rw [houtput]
        rfl
    | _ => cases hobject

theorem openAI_usage_counted {raw : Json} {usage : Option TokenUsage}
    (h : CountsAs raw "prompt_tokens" "completion_tokens" usage) : usageFromOpenAIPayload raw = .ok usage := by
  rcases usage_counted h with ⟨rfl, rfl⟩ | ⟨members, u, rfl, rfl, hinput, houtput⟩
  · rfl
  · unfold usageFromOpenAIPayload
    simp only [hinput, houtput]
    exact tokenUsage_new u

theorem guarded_response {kind : ProviderErrorClass} {message : String} (c : Completion) :
    guarded kind message (assistantResponse c.id c.model c.text [] c.usage) = c.response := by
  obtain ⟨response, hresponse⟩ := assistantResponse_ok c.id_ok c.model_ok c.text_ok c.usage
  unfold Completion.response
  rw [hresponse]
  rfl

theorem openAI_payload (h : OpenAIPayload c payload) (request : GenerationRequest) :
    fromOpenAIPayload payload request = c.response := by
  obtain ⟨choice, rest, message, hchoices, hmessage, hcontent, hcalls⟩ := h.message
  have hid : openAIResponseId payload = .ok c.id := by
    unfold openAIResponseId
    rw [get?_of_item h.named.id nofun]
    exact validId_named c.id_ok
  have hfirst : openAIMessage payload = .ok (.obj message) := by
    unfold openAIMessage
    simp only [hchoices, hmessage]
  have htext : openAIContent (.obj message) = .ok c.text := by
    unfold openAIContent
    rw [hcontent]
  have hnone : toolCallsFromOpenAI (item (.obj message) "tool_calls") = .ok [] := by
    rw [hcalls]
    rfl
  unfold fromOpenAIPayload
  simp only [hid, h.named.model, validText_str c.model_ok, hfirst, ok_bind, htext, hnone, openAI_usage_counted h.usage,
    c.text_ok, Bool.false_and, Bool.false_eq_true, ↓reduceIte, Option.getD_some]
  exact guarded_response c

theorem mapM_forall₂ {α β γ : Type} {R : α → β → Prop} {f : α → Except Exn γ} {g : β → γ} {items : List α}
    {outs : List β} (h : List.Forall₂ R items outs) (hf : ∀ a b, R a b → f a = .ok (g b)) :
    items.mapM f = .ok (outs.map g) :=
  mapM_ok_iff.mpr (List.forall₂_map_right_iff.mpr (h.imp hf))

theorem filterMap_some (texts : List String) : (texts.map some).filterMap id = texts := by
  rw [List.filterMap_map]
  exact List.filterMap_some

theorem filterMap_none {α β : Type} (l : List α) : (l.map fun _ => (none : Option β)).filterMap id = [] := by
  rw [List.filterMap_map]
  exact List.filterMap_eq_nil_iff.mpr fun _ _ => rfl

theorem blockText_text {block : Json} {text : String} (h : TextBlock block text) :
    blockText block = .ok (some text) := by
  unfold blockText
  rw [h.object, h.type, h.text]
  rfl

theorem blockToolCall_text {block : Json} {text : String} (h : TextBlock block text) :
    blockToolCall block = .ok none := by
  unfold blockToolCall
  rw [h.type]
  rfl

theorem anthropic_usage_counted {raw : Json} {usage : Option TokenUsage}
    (h : CountsAs raw "input_tokens" "output_tokens" usage) : usageFromAnthropicPayload raw = .ok usage := by
  rcases usage_counted h with ⟨rfl, rfl⟩ | ⟨members, u, rfl, rfl, hinput, houtput⟩
  · rfl
  · unfold usageFromAnthropicPayload
    simp only [hinput, houtput]
    exact tokenUsage_new u

theorem anthropic_payload (h : AnthropicPayload c payload) (request : GenerationRequest) :
    fromAnthropicPayload payload request = c.response := by
  obtain ⟨blocks, texts, hcontent, hblocks, hjoin⟩ := h.content
  have htext : textFromContentBlocks (item payload "content") = .ok c.text := by
    rw [hcontent]
    have hparts := mapM_forall₂ hblocks fun _ _ => blockText_text
    cases hblocks with
    | nil =>
      have hblank := c.text_ok
      rw [← hjoin] at hblank
      cases hblank
    | cons hfirst hrest =>
      unfold textFromContentBlocks
      simp only [hparts, Except.map, filterMap_some, hjoin]
  have hnone : toolCallsFromAnthropic (item payload "content") = .ok [] := by
    rw [hcontent]
    have hcalls := mapM_forall₂ (g := fun _ => none) hblocks fun _ _ => blockToolCall_text
    unfold toolCallsFromAnthropic
    simp only [hcalls, Except.map, filterMap_none]
  unfold fromAnthropicPayload
  simp only [h.named.id, validId_named c.id_ok, h.named.model, validText_str c.model_ok, ok_bind, htext, hnone,
    anthropic_usage_counted h.usage, c.text_ok, Bool.false_and, Bool.false_eq_true, ↓reduceIte, Option.getD_some]
  exact guarded_response c

theorem partText_text {part : Json} {text : String} (h : TextPart part text) : partText part = .ok (some text) := by
  unfold partText
  rw [h.object, h.thought, h.text]
  rfl

/-- The text of a candidate is what its parts give, streamed or not. -/
theorem partTexts_joined {parts : List Json} {texts : List String} (h : List.Forall₂ TextPart parts texts) :
    optionalTextFromParts (.arr parts) = .ok (String.join texts) := by
  have hparts := mapM_forall₂ h fun _ _ => partText_text
  unfold optionalTextFromParts
  simp only [hparts, Except.map, filterMap_some]

theorem partToolCall_text {part : Json} {text : String} (h : TextPart part text) (index : ℕ) :
    partToolCall (part, index) = .ok none := by
  unfold partToolCall
  rw [h.call]

theorem partToolCalls_none {parts : List Json} {texts : List String} (h : List.Forall₂ TextPart parts texts)
    (index : ℕ) : (parts.zipIdx index).mapM partToolCall = .ok (texts.map fun _ => none) := by
  induction h generalizing index with
  | nil => rfl
  | cons hfirst _ ih =>
    rw [List.zipIdx_cons, List.mapM_cons, partToolCall_text hfirst, ih]
    rfl

theorem gemini_usage_counted {raw : Json} {usage : Option TokenUsage}
    (h : CountsAs raw "promptTokenCount" "candidatesTokenCount" usage) : usageFromGeminiPayload raw = .ok usage := by
  rcases usage_counted h with ⟨rfl, rfl⟩ | ⟨members, u, rfl, rfl, hinput, houtput⟩
  · rfl
  · unfold usageFromGeminiPayload
    simp only [hinput, houtput]
    exact tokenUsage_new u

theorem gemini_payload (h : GeminiPayload c payload) (request : GenerationRequest) :
    fromGeminiPayload payload request = c.response := by
  obtain ⟨candidate, rest, content, parts, texts, hcandidates, hcontent, hitem, hparts, hjoin⟩ := h.candidate
  have hfirst : geminiCandidateContent payload = .ok (.obj content) := by
    unfold geminiCandidateContent
    simp only [hcandidates, hcontent]
  have htext : optionalTextFromParts (item (.obj content) "parts") = .ok c.text := by
    rw [hitem, partTexts_joined hparts, hjoin]
  have hnone : toolCallsFromGemini (item (.obj content) "parts") = .ok [] := by
    rw [hitem]
    unfold toolCallsFromGemini
    simp only [partToolCalls_none hparts, Except.map, filterMap_none]
  unfold fromGeminiPayload
  simp only [h.named.id, validId_named c.id_ok, h.named.model, validText_str c.model_ok, hfirst, ok_bind, htext, hnone,
    gemini_usage_counted h.usage, c.text_ok, Bool.false_and, Bool.false_eq_true, ↓reduceIte, Option.getD_some]
  exact guarded_response c

theorem payload_response {adapter : Adapter} (h : Unsplit adapter c payload) (request : GenerationRequest) :
    adapter.fromPayload payload request = c.response := by
  cases adapter with
  | openAI => exact openAI_payload h request
  | anthropic => exact anthropic_payload h request
  | gemini => exact gemini_payload h request

end Payloads

section Streams

variable {U : Type} {p : StreamParser U} {json_loads : JsonLoads} {c : Completion} {payload : Json} {e : SseEvent}
  {text : String} {request : GenerationRequest}

theorem read_carried {s : StreamState U} {chunk : Chunk U} (hdone : p.done e.data = false)
    (h : Carries json_loads e payload) (hchunk : p.chunk e payload = .ok chunk) :
    p.read json_loads s e = p.step s chunk :=
  StreamParser.read_step hdone ((StreamParser.load_then_chunk h.1 h.2).trans hchunk)

theorem named_valid (s : StreamState U) {chunk : Chunk U} (hid : chunk.id = .str c.id)
    (hmodel : chunk.model = .str c.model) :
    (StreamParser.named s chunk).response_id = c.id ∧ (StreamParser.named s chunk).model = c.model := by
  unfold StreamParser.named
  rw [hid, hmodel, validText_str c.id_ok, validText_str c.model_ok]
  exact ⟨rfl, rfl⟩

section OpenAI

theorem openAI_delta_conveys (h : OpenAIDelta json_loads c e text payload)
    (s : StreamState (Option TokenUsage)) (husage : s.usage = none) :
    Conveys openAIParser json_loads c s e text none := by
  obtain ⟨choice, rest, hchoices, hcontent⟩ := h.delta
  have hread := @read_carried _ openAIParser json_loads payload e s _ (decide_eq_false h.more) h.carries rfl
  obtain ⟨hid, hmodel⟩ := @named_valid _ c s
    ⟨item payload "id", item payload "model", openAIDeltaText payload, openAIStreamUsage payload⟩ h.named.id h.named.model
  refine conveys_step hread hid hmodel ?_ ?_
  · change openAIDeltaText payload = _
    unfold openAIDeltaText
    rw [hchoices]
    rcases hcontent with hsome | ⟨hnone, rfl⟩
    · simp only [hsome]
      rfl
    · simp only [hnone]
      rfl
  · change openAIStreamUsage payload s.usage = _
    unfold openAIStreamUsage
    have hnull := h.usage
    unfold item at hnull
    cases hget : payload.get? "usage" with
    | none => rw [husage]
    | some raw =>
      rw [hget] at hnull
      obtain rfl : raw = .null := hnull
      rfl

theorem openAI_usage_conveys {usage : TokenUsage} (h : OpenAIUsage json_loads c usage e payload)
    (s : StreamState (Option TokenUsage)) : Conveys openAIParser json_loads c s e "" (some usage) := by
  have hread := @read_carried _ openAIParser json_loads payload e s _ (decide_eq_false h.more) h.carries rfl
  obtain ⟨hid, hmodel⟩ := @named_valid _ c s
    ⟨item payload "id", item payload "model", openAIDeltaText payload, openAIStreamUsage payload⟩ h.named.id h.named.model
  refine conveys_step hread hid hmodel ?_ ?_
  · change openAIDeltaText payload = _
    unfold openAIDeltaText
    rw [h.choices]
  · change openAIStreamUsage payload s.usage = _
    have hraw : item payload "usage" ≠ .null := by
      intro hnull
      have hobject := h.usage.1
      rw [hnull] at hobject
      cases hobject
    unfold openAIStreamUsage
    rw [get?_of_item rfl hraw]
    exact openAI_usage_counted h.usage

theorem openAI_deltas_conveyed {deltas : List SseEvent} {texts : List String}
    (h : List.Forall₂ (fun e text => ∃ payload, OpenAIDelta json_loads c e text payload) deltas texts) :
    Conveyed openAIParser json_loads c deltas texts none none := by
  induction h with
  | nil => exact .nil none
  | cons hfirst _ ih =>
    obtain ⟨payload, hdelta⟩ := hfirst
    exact .cons (fun assembled => openAI_delta_conveys hdelta _ rfl) ih

theorem openAI_stream {texts : List String} {events : List SseEvent} (h : OpenAIEvents json_loads c texts events)
    (htext : String.join texts = c.text) (request : GenerationRequest) (completed : Bool) :
    ∃ deltas response, c.response = .ok response ∧ Relays c deltas texts ∧
      openAIParser.script json_loads request events completed =
        ⟨deltas.map .delta ++ [.response response], .ok ()⟩ := by
  obtain ⟨deltas, last, done, after, rfl, hdone, hdeltas, hlast⟩ := h
  have hend : done :: after = [] ∧ completed = true ∨
      ∃ first rest, done :: after = first :: rest ∧ openAIParser.done first.data = true :=
    .inr ⟨done, after, rfl, decide_eq_true hdone⟩
  cases hdeltas with
  | nil =>
    have hblank := c.text_ok
    rw [← htext] at hblank
    cases hblank
  | @cons first text rest texts hfirst hrest =>
    obtain ⟨payload, hdelta⟩ := hfirst
    have hbegin := openAI_delta_conveys hdelta (openAIParser.start request) rfl
    have hmiddle := openAI_deltas_conveyed hrest
    cases husage : c.usage with
    | none =>
      rw [husage] at hlast
      obtain rfl : last = [] := hlast
      exact script_conveyed hbegin hmiddle htext (by rw [husage]; rfl) hend
    | some usage =>
      rw [husage] at hlast
      obtain ⟨e, payload, rfl, hcounts⟩ := hlast
      have hwhole := hmiddle.append (.cons (fun assembled => openAI_usage_conveys hcounts _) (.nil _))
      have hsame : chunksOf ((text :: texts) ++ [""]) = chunksOf (text :: texts) :=
        chunksOf_silent fun _ h => List.mem_singleton.mp h
      obtain ⟨deltas, response, hresponse, hrelays, hscript⟩ :=
        @script_conveyed _ _ _ _ request _ _ _ _ _ _ _ completed hbegin hwhole ((join_congr hsame).trans htext)
          (by rw [husage]; rfl) hend
      refine ⟨deltas, response, hresponse, ⟨hrelays.contents.trans hsame, hrelays.names⟩, ?_⟩
      rw [List.append_assoc] at hscript
      exact hscript

end OpenAI

section Anthropic

theorem countJson_int (count : Option ℤ) : (countJson count).int? = count := by
  cases count <;> rfl

def inputCount (c : Completion) : Option ℤ := c.usage.map (·.input_tokens)

def outputCount (c : Completion) : Option ℤ := c.usage.map (·.output_tokens)

theorem anthropic_start_conveys (h : AnthropicStart json_loads c e payload) (request : GenerationRequest) :
    Conveys anthropicParser json_loads c (anthropicParser.start request) e "" (inputCount c, none) := by
  obtain ⟨message, hmessage⟩ : ∃ message, item payload "message" = .obj message := by
    have hobject := h.object
    cases hitem : item payload "message" <;> first | exact ⟨_, rfl⟩ | (rw [hitem] at hobject; cases hobject)
  have hnamed := h.named
  have hcount := h.usage
  rw [hmessage] at hnamed hcount
  have hread := @read_carried _ anthropicParser json_loads payload e (anthropicParser.start request) _ rfl h.carries
    (anthropicChunk_start h.type hmessage)
  obtain ⟨hid, hmodel⟩ := @named_valid _ c (anthropicParser.start request) ⟨item (.obj message) "id",
    item (.obj message) "model", .ok "", fun counts => .ok ((startTokens (.obj message)).or counts.1, counts.2)⟩
    hnamed.id hnamed.model
  refine conveys_step hread hid hmodel rfl ?_
  have htokens : startTokens (.obj message) = inputCount c := by
    unfold startTokens
    rw [hcount]
    exact countJson_int _
  change Except.ok ((startTokens (.obj message)).or none, none) = _
  rw [htokens, Option.or_none]

theorem anthropic_text_conveys (h : AnthropicText json_loads e text payload) (assembled : List String)
    (counts : TokenCounts) :
    Conveys anthropicParser json_loads c ⟨c.id, c.model, assembled, counts⟩ e text counts := by
  have hread := @read_carried _ anthropicParser json_loads payload e ⟨c.id, c.model, assembled, counts⟩ _ rfl h.carries
    (anthropicChunk_block h.type)
  refine conveys_step hread rfl rfl ?_ rfl
  unfold blockDeltaText
  simp only [h.delta, h.text]
  rfl

theorem anthropic_other_conveys (h : AnthropicOther json_loads e payload) (assembled : List String)
    (counts : TokenCounts) :
    Conveys anthropicParser json_loads c ⟨c.id, c.model, assembled, counts⟩ e "" counts :=
  conveys_step (@read_carried _ anthropicParser json_loads payload e ⟨c.id, c.model, assembled, counts⟩ _ rfl h.carries
    (anthropicChunk_other h.start h.block h.delta)) rfl rfl rfl rfl

theorem anthropic_delta_conveys (h : AnthropicDelta json_loads c e payload) (assembled : List String) :
    Conveys anthropicParser json_loads c ⟨c.id, c.model, assembled, (inputCount c, none)⟩ e ""
      (inputCount c, outputCount c) := by
  have hread := @read_carried _ anthropicParser json_loads payload e ⟨c.id, c.model, assembled, (inputCount c, none)⟩ _
    rfl h.carries (anthropicChunk_delta h.type)
  refine conveys_step hread rfl rfl rfl ?_
  have htokens : deltaTokens payload = outputCount c := by
    unfold deltaTokens
    rw [h.usage]
    exact countJson_int _
  change Except.ok (inputCount c, (deltaTokens payload).or none) = _
  rw [htokens, Option.or_none]

theorem anthropic_texts_conveyed {events : List SseEvent} {texts : List String} {counts : TokenCounts}
    (h : List.Forall₂ (fun e text => ∃ payload, AnthropicText json_loads e text payload ∨
      AnthropicOther json_loads e payload ∧ text = "") events texts) :
    Conveyed anthropicParser json_loads c events texts counts counts := by
  induction h with
  | nil => exact .nil counts
  | cons hfirst _ ih =>
    obtain ⟨payload, htext | ⟨hother, rfl⟩⟩ := hfirst
    · exact .cons (fun assembled => anthropic_text_conveys htext assembled counts) ih
    · exact .cons (fun assembled => anthropic_other_conveys hother assembled counts) ih

theorem anthropic_others_conveyed {events : List SseEvent} {counts : TokenCounts}
    (h : ∀ e ∈ events, ∃ payload, AnthropicOther json_loads e payload) :
    Conveyed anthropicParser json_loads c events (events.map fun _ => "") counts counts := by
  induction events with
  | nil => exact .nil counts
  | cons e rest ih =>
    obtain ⟨payload, hother⟩ := h e List.mem_cons_self
    exact .cons (fun assembled => anthropic_other_conveys hother assembled counts)
      (ih fun other hrest => h other (List.mem_cons_of_mem _ hrest))

theorem anthropicTokenUsage_counts (c : Completion) :
    anthropicTokenUsage (inputCount c, outputCount c) = .ok c.usage := by
  unfold inputCount outputCount
  cases c.usage with
  | none => rfl
  | some u => exact tokenUsage_new u

theorem anthropic_stream {texts : List String} {events : List SseEvent} (h : AnthropicEvents json_loads c texts events)
    (htext : String.join texts = c.text) (request : GenerationRequest) :
    ∃ deltas response, c.response = .ok response ∧ Relays c deltas texts ∧
      anthropicParser.script json_loads request events true =
        ⟨deltas.map .delta ++ [.response response], .ok ()⟩ := by
  obtain ⟨start, middle, delta, after, startPayload, deltaPayload, rfl, hstart, hmiddle, hdelta, hafter⟩ := h
  have hbegin := anthropic_start_conveys hstart request
  have hrest := (anthropic_texts_conveyed hmiddle).append
    (.cons (anthropic_delta_conveys hdelta) (anthropic_others_conveyed hafter))
  have hsame : chunksOf ("" :: (texts ++ "" :: after.map fun _ => "")) = chunksOf texts := by
    have hsilent : ∀ text ∈ "" :: after.map (fun _ => ""), text = "" := by
      intro text hmem
      rcases List.mem_cons.mp hmem with rfl | hlater
      · rfl
      · obtain ⟨_, _, rfl⟩ := List.mem_map.mp hlater
        rfl
    exact chunksOf_silent hsilent
  obtain ⟨deltas, response, hresponse, hrelays, hscript⟩ := @script_conveyed _ _ _ _ request _ _ [] _ _ _ _ true hbegin
    hrest ((join_congr hsame).trans htext) (anthropicTokenUsage_counts c) (.inl ⟨rfl, rfl⟩)
  refine ⟨deltas, response, hresponse, ⟨hrelays.contents.trans hsame, hrelays.names⟩, ?_⟩
  rw [List.append_nil] at hscript
  exact hscript

end Anthropic

section Gemini

theorem gemini_chunk_conveys {before after : Option TokenUsage}
    (h : GeminiChunk json_loads c e text before after payload) (s : StreamState (Option TokenUsage))
    (hbefore : s.usage = before) : Conveys geminiParser json_loads c s e text after := by
  obtain ⟨candidate, rest, content, parts, texts, hcandidates, hcontent, hitem, hparts, hjoin⟩ := h.candidate
  have hread := @read_carried _ geminiParser json_loads payload e s _ rfl h.carries rfl
  obtain ⟨hid, hmodel⟩ := @named_valid _ c s ⟨item payload "responseId", item payload "modelVersion",
    geminiDeltaText payload, geminiStreamUsage payload⟩ h.named.id h.named.model
  refine conveys_step hread hid hmodel ?_ ?_
  · change geminiDeltaText payload = _
    unfold geminiDeltaText
    simp only [hcandidates, hcontent, hitem]
    rw [partTexts_joined hparts, hjoin]
  · change geminiStreamUsage payload s.usage = _
    unfold geminiStreamUsage
    rcases h.usage with ⟨hnone, rfl⟩ | ⟨hsome, hcounts⟩
    · rw [hnone, hbefore]
      rfl
    · rcases usage_counted hcounts with ⟨-, rfl⟩ | ⟨members, u, -, rfl, hinput, houtput⟩
      · cases hsome
      · simp only [hinput, houtput]
        exact tokenUsage_new u

theorem gemini_chunks_conveyed {texts : List String} {events : List SseEvent} {before after : Option TokenUsage}
    (h : GeminiEvents json_loads c texts events before after) :
    Conveyed geminiParser json_loads c events texts before after := by
  induction h with
  | nil usage => exact .nil usage
  | cons hchunk _ ih => exact .cons (fun assembled => gemini_chunk_conveys hchunk _ rfl) ih

theorem gemini_stream {texts : List String} {events : List SseEvent}
    (h : GeminiEvents json_loads c texts events none c.usage) (htext : String.join texts = c.text)
    (request : GenerationRequest) :
    ∃ deltas response, c.response = .ok response ∧ Relays c deltas texts ∧
      geminiParser.script json_loads request events true =
        ⟨deltas.map .delta ++ [.response response], .ok ()⟩ := by
  generalize husage : c.usage = usage at h
  cases h with
  | nil =>
    have hblank := c.text_ok
    rw [← htext] at hblank
    cases hblank
  | cons hchunk hrest =>
    have hbegin := gemini_chunk_conveys hchunk (geminiParser.start request) rfl
    obtain ⟨deltas, response, hresponse, hrelays, hscript⟩ := @script_conveyed _ _ _ _ request _ _ [] _ _ _ _ true
      hbegin (gemini_chunks_conveyed hrest) htext (congrArg Except.ok husage.symm) (.inl ⟨rfl, rfl⟩)
    rw [List.append_nil] at hscript
    exact ⟨deltas, response, hresponse, hrelays, hscript⟩

end Gemini

end Streams

theorem isObject_of_item {payload : Json} {key text : String} (h : item payload key = .str text) :
    isObject payload = true := by
  cases payload <;> first | rfl | cases h

theorem unsplit_isObject {adapter : Adapter} {c : Completion} {payload : Json} (h : Unsplit adapter c payload) :
    isObject payload = true := by
  cases adapter with
  | openAI =>
    have hpayload : OpenAIPayload c payload := h
    exact isObject_of_item hpayload.named.id
  | anthropic =>
    have hpayload : AnthropicPayload c payload := h
    exact isObject_of_item hpayload.named.id
  | gemini =>
    have hpayload : GeminiPayload c payload := h
    exact isObject_of_item hpayload.named.id

theorem generate_unsplit {adapter : Adapter} {c : Completion} {payload : Json} {request : GenerationRequest}
    {json_loads : JsonLoads} {status_code : ℕ} (hbody : ∃ body, adapter.body json_loads request false = .ok body)
    (hstatus : status_code < 400)
    (h : Unsplit adapter c payload) :
    generate adapter json_loads request (.answered status_code (.ok payload)) = c.response := by
  obtain ⟨body, hbody⟩ := hbody
  have hobject := unsplit_isObject h
  unfold generate
  rw [hbody, ok_bind]
  simp only [not_le.mpr hstatus, ↓reduceIte]
  cases payload <;> first | exact payload_response h request | cases hobject

theorem script_split {adapter : Adapter} {json_loads : JsonLoads} {c : Completion} {texts : List String}
    {events : List SseEvent} {completed : Bool} (h : Splits adapter json_loads c texts events completed)
    (htext : String.join texts = c.text) (request : GenerationRequest) :
    ∃ deltas response, c.response = .ok response ∧ Relays c deltas texts ∧
      scriptOf adapter json_loads request events completed =
        ⟨deltas.map .delta ++ [.response response], .ok ()⟩ := by
  cases adapter with
  | openAI => exact openAI_stream h htext request completed
  | anthropic =>
    obtain ⟨hevents, rfl⟩ := h
    exact anthropic_stream hevents htext request
  | gemini =>
    obtain ⟨hevents, rfl⟩ := h
    exact gemini_stream hevents htext request

/-- However a completion is split, its stream yields a delta for each chunk and then the response that `generate`
makes of the one payload. -/
theorem stream_yields_unsplit_response (adapter : Adapter) (json_loads : JsonLoads) (request : GenerationRequest)
    (c : Completion) (payload : Json) (texts : List String) (events : List SseEvent) (completed : Bool)
    (status_code : ℕ) (hbody : ∀ streamed, ∃ body, adapter.body json_loads request streamed = .ok body)
    (hstatus : status_code < 400) (hunsplit : Unsplit adapter c payload)
    (hsplits : Splits adapter json_loads c texts events completed) (htext : String.join texts = c.text) :
    ∃ (deltas : List GenerationDelta) (response : GenerationResponse),
      generate adapter json_loads request (.answered status_code (.ok payload)) = .ok response ∧
      stream adapter json_loads request (.answered status_code events completed) =
        ⟨deltas.map .delta ++ [.response response], .ok ()⟩ ∧
      deltas.map (·.content) = chunksOf texts ∧ ∀ d ∈ deltas, d.id = c.id ∧ d.model = c.model := by
  obtain ⟨deltas, response, hresponse, hrelays, hscript⟩ := script_split hsplits htext request
  refine ⟨deltas, response, (generate_unsplit (hbody false) hstatus hunsplit).trans hresponse, ?_, hrelays.contents,
    hrelays.names⟩
  obtain ⟨body, hsent⟩ := hbody true
  unfold stream
  rw [hsent]
  simp only [not_le.mpr hstatus, ↓reduceIte]
  exact hscript

section Samples

theorem textLoads_dumps {j : Json} (h : j.Valid) (hshort : shortInts j = true) : textLoads (dumps j) = .ok j := by
  unfold textLoads
  rw [loads_dumps h]
  exact if_pos hshort

theorem hello_streamed :
    GenerationRequest.problem "gpt-4o" [⟨.user, "Hello", none, none, [], hello_ok⟩] none none true [] false = none := by
  decide

def helloRequest : GenerationRequest where
  model := "gpt-4o"
  messages := [⟨.user, "Hello", none, none, [], hello_ok⟩]
  temperature := none
  max_output_tokens := none
  stream := true
  tools := []
  cache := false
  ok := hello_streamed

def helloCompletion : Completion where
  id := "r1"
  model := "gpt-4o"
  text := "Hello there"
  usage := some ⟨3, 2, by decide⟩
  id_ok := by decide
  model_ok := by decide
  text_ok := by decide

def names : List (String × Json) := [("id", .str "r1"), ("model", .str "gpt-4o")]

def usageObject : Json := .obj [("prompt_tokens", .int 3), ("completion_tokens", .int 2)]

def helloPayload : Json :=
  .obj (names ++ [("choices", .arr [.obj [("message", .obj [("content", .str "Hello there")])]]), ("usage", usageObject)])

def deltaChunk (text : String) : Json :=
  .obj (names ++ [("choices", .arr [.obj [("delta", .obj [("content", .str text)])]]), ("usage", .null)])

def usageChunk : Json := .obj (names ++ [("choices", .arr []), ("usage", usageObject)])

def helloEvents : List SseEvent :=
  [⟨none, dumps (deltaChunk "Hello")⟩, ⟨none, dumps (deltaChunk " there")⟩, ⟨none, dumps usageChunk⟩, ⟨none, "[DONE]"⟩]

theorem deltaChunk_delta (text : String) :
    OpenAIDelta textLoads helloCompletion ⟨none, dumps (deltaChunk text)⟩ text (deltaChunk text) where
  more := by
    intro h
    have hhead := congrArg (fun data => data.toList.head?) h
    rw [dumps, String.toList_ofList] at hhead
    cases hhead
  carries := ⟨textLoads_dumps ⟨by simp [names], trivial, trivial, ⟨⟨by simp,
    ⟨by simp, trivial, trivial⟩, trivial⟩, trivial⟩, trivial, trivial⟩ rfl, rfl⟩
  named := ⟨rfl, rfl⟩
  delta := ⟨_, _, rfl, .inl rfl⟩
  usage := rfl

theorem usageChunk_usage :
    OpenAIUsage textLoads helloCompletion ⟨3, 2, by decide⟩ ⟨none, dumps usageChunk⟩ usageChunk where
  more := by decide +kernel
  carries := ⟨textLoads_dumps ⟨by decide, trivial, trivial, trivial, ⟨by decide, trivial, trivial, trivial⟩, trivial⟩
    (by decide +kernel), rfl⟩
  named := ⟨rfl, rfl⟩
  choices := rfl
  usage := ⟨rfl, rfl, rfl⟩

/-- Two chunks, the usage chunk and `[DONE]`. -/
theorem hello_stream_agrees :
    ∃ (deltas : List GenerationDelta) (response : GenerationResponse),
      generate .openAI textLoads helloRequest (.answered 200 (.ok helloPayload)) = .ok response ∧
      stream .openAI textLoads helloRequest (.answered 200 helloEvents true) =
        ⟨deltas.map .delta ++ [.response response], .ok ()⟩ ∧
      deltas.map (·.content) = ["Hello", " there"] ∧ ∀ d ∈ deltas, d.id = "r1" ∧ d.model = "gpt-4o" :=
  stream_yields_unsplit_response .openAI textLoads helloRequest helloCompletion helloPayload ["Hello", " there"]
    helloEvents true 200 (fun _ => ⟨_, rfl⟩) (by decide)
    ⟨⟨rfl, rfl⟩, ⟨_, _, _, rfl, rfl, rfl, rfl⟩, ⟨rfl, rfl, rfl⟩⟩
    ⟨_, [⟨none, dumps usageChunk⟩], ⟨none, "[DONE]"⟩, [], rfl, rfl,
      .cons ⟨_, deltaChunk_delta "Hello"⟩ (.cons ⟨_, deltaChunk_delta " there"⟩ .nil), _, _, rfl, usageChunk_usage⟩
    (by decide)

end Samples

end AIRuntime.StreamAgreement
