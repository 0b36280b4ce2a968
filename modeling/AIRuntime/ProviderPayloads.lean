import AIRuntime.ProviderRequests

set_option autoImplicit false

/-! The response payloads of `providers/openai`, `providers/anthropic` and `providers/gemini`, and `generate`. -/
namespace AIRuntime.ProviderPayloads

open PythonText Failures JsonText PythonJson GenerationContracts ProviderRequests

section Reading

/-- `data.get(key)` of a `dict`. -/
def item (j : Json) (key : String) : Json := (j.get? key).getD .null

def isNull : Json → Bool
  | .null => true
  | _ => false

def validText (j : Json) : Option String :=
  match j with
  | .str s => if isBlank s then none else some s
  | _ => none

def refuse {α : Type} (kind : ProviderErrorClass) (message : String) : Except Exn α :=
  .error (.provider (.permanent kind message))

def validId (kind : ProviderErrorClass) (message : String) (id : Json) : Except Exn String :=
  match validText id with
  | some response_id => .ok response_id
  | none => refuse kind message

/-- `except (KeyError, TypeError, ValueError)`. -/
def isPayloadError : Exn → Bool
  | .domainValidation _ => true
  | .jsonDecode => true
  | .other name => name = "KeyError" || name = "TypeError" || name = "ValueError"
  | _ => false

/-- The `try` around a payload parser. -/
def guarded {α : Type} (kind : ProviderErrorClass) (message : String) (result : Except Exn α) : Except Exn α :=
  match result with
  | .error err => if isPayloadError err then refuse kind message else .error err
  | .ok a => .ok a

/-- `Message(role=MessageRole.ASSISTANT, content=content, tool_calls=tool_calls)` in its response. -/
def assistantResponse (id model content : String) (tool_calls : List ToolCall) (usage : Option TokenUsage) :
    Except Exn GenerationResponse := do
  let output ← Message.new .assistant content none none tool_calls
  GenerationResponse.new id model output usage

theorem assistantResponse_content {id model content : String} {tool_calls : List ToolCall} {usage : Option TokenUsage}
    {response : GenerationResponse} (h : assistantResponse id model content tool_calls usage = .ok response) :
    response.output.content = content ∧ response.output.tool_calls = tool_calls := by
  unfold assistantResponse at h
  cases hnew : Message.new .assistant content none none tool_calls with
  | error err =>
    rw [hnew] at h
    cases h
  | ok output =>
    rw [hnew] at h
    obtain ⟨_, rfl⟩ := of_validated hnew
    obtain ⟨_, rfl⟩ := of_validated h
    exact ⟨rfl, rfl⟩

theorem assistantResponse_fields {id model content : String} {tool_calls : List ToolCall} {usage : Option TokenUsage}
    {response : GenerationResponse} (h : assistantResponse id model content tool_calls usage = .ok response) :
    response.model = model ∧ response.usage = usage := by
  unfold assistantResponse at h
  cases hnew : Message.new .assistant content none none tool_calls with
  | error err =>
    rw [hnew] at h
    cases h
  | ok output =>
    rw [hnew] at h
    obtain ⟨_, rfl⟩ := of_validated h
    exact ⟨rfl, rfl⟩

theorem assistantResponse_ok {id model content : String} (hid : isBlank id = false) (hmodel : isBlank model = false)
    (hcontent : isBlank content = false) (usage : Option TokenUsage) :
    ∃ response, assistantResponse id model content [] usage = .ok response := by
  have hmessage : Message.problem .assistant content none [] = none := requireNonBlank_none.mpr hcontent
  have hresponse : GenerationResponse.problem id model ⟨.assistant, content, none, none, [], hmessage⟩ = none := by
    unfold GenerationResponse.problem
    rw [requireNonBlank_none.mpr hid, requireNonBlank_none.mpr hmodel]
    rfl
  unfold assistantResponse Message.new
  rw [validated_ok hmessage]
  exact ⟨_, validated_ok hresponse⟩

theorem assistantResponse_blank {id model content : String} (hcontent : isBlank content = true)
    (usage : Option TokenUsage) : assistantResponse id model content [] usage =
      .error (.domainValidation "content must not be empty or blank") := by
  have hmessage : Message.problem .assistant content none [] = some "content must not be empty or blank" := by
    change requireNonBlank content "content" = _
    unfold requireNonBlank
    rw [if_pos hcontent]
    rfl
  have hnew : Message.new .assistant content none none [] =
      .error (.domainValidation "content must not be empty or blank") := validated_error hmessage
  unfold assistantResponse
  rw [hnew]
  rfl

end Reading

section OpenAI

def openAIToolCallOf (raw : Json) : Except Exn ToolCall :=
  let invalid := refuse .openAI "OpenAI response tool_calls is invalid"
  match validText (item raw "id"), item raw "function" with
  | some call_id, .obj function =>
    match (item (.obj function) "name").str?, (item (.obj function) "arguments").str? with
    | some name, some arguments => ToolCall.new call_id name arguments
    | _, _ => invalid
  | _, _ => invalid

def toolCallsFromOpenAI (raw_calls : Json) : Except Exn (List ToolCall) :=
  match raw_calls with
  | .null => .ok []
  | .arr items => items.mapM openAIToolCallOf
  | _ => refuse .openAI "OpenAI response tool_calls is invalid"

def usageFromOpenAIPayload (usage_payload : Json) : Except Exn (Option TokenUsage) :=
  match usage_payload with
  | .obj members =>
    match (item (.obj members) "prompt_tokens").int?, (item (.obj members) "completion_tokens").int? with
    | some prompt_tokens, some completion_tokens => (TokenUsage.new prompt_tokens completion_tokens).map some
    | _, _ => refuse .openAI "OpenAI response usage is invalid"
  | _ => .ok none

/-- The content of a message, where `null` stands for no text. -/
def openAIContent (message : Json) : Except Exn String :=
  match item message "content" with
  | .null => .ok ""
  | .str content => .ok content
  | _ => refuse .openAI "OpenAI response message is missing content"

def openAIMessage (payload : Json) : Except Exn Json :=
  match item payload "choices" with
  | .arr (.obj first_choice :: _) =>
    match item (.obj first_choice) "message" with
    | .obj message => .ok (.obj message)
    | _ => refuse .openAI "OpenAI response choice is missing message"
  | .arr (_ :: _) => refuse .openAI "OpenAI response choice is invalid"
  | _ => refuse .openAI "OpenAI response is missing choices"

def openAIResponseId (payload : Json) : Except Exn String :=
  match payload.get? "id" with
  | none => .error (.other "KeyError")
  | some id => validId .openAI "OpenAI response is missing a valid id" id

def fromOpenAIPayload (payload : Json) (request : GenerationRequest) : Except Exn GenerationResponse :=
  guarded .openAI "OpenAI response payload is malformed" do
    let response_id ← openAIResponseId payload
    let model := (validText (item payload "model")).getD request.model
    let message ← openAIMessage payload
    let content ← openAIContent message
    let tool_calls ← toolCallsFromOpenAI (item message "tool_calls")
    if isBlank content && tool_calls.isEmpty then refuse .openAI "OpenAI response message is missing content"
    else
      let usage ← usageFromOpenAIPayload (item payload "usage")
      assistantResponse response_id model content tool_calls usage

end OpenAI

section Anthropic

def usageFromAnthropicPayload (usage_payload : Json) : Except Exn (Option TokenUsage) :=
  match usage_payload with
  | .obj members =>
    match (item (.obj members) "input_tokens").int?, (item (.obj members) "output_tokens").int? with
    | some input_tokens, some output_tokens => (TokenUsage.new input_tokens output_tokens).map some
    | _, _ => refuse .anthropic "Anthropic response usage is invalid"
  | _ => .ok none

def blockText (block : Json) : Except Exn (Option String) :=
  if !isObject block then refuse .anthropic "Anthropic response content block is invalid"
  else if (item block "type").str? ≠ some "text" then .ok none
  else
    match (item block "text").str? with
    | some text => .ok (some text)
    | none => refuse .anthropic "Anthropic response text block is missing text"

def textFromContentBlocks (content_blocks : Json) : Except Exn String :=
  match content_blocks with
  | .arr (block :: blocks) => ((block :: blocks).mapM blockText).map fun parts => String.join (parts.filterMap id)
  | _ => refuse .anthropic "Anthropic response is missing content"

/-- The call of a block, if it is a `tool_use` block. -/
def blockToolCall (block : Json) : Except Exn (Option ToolCall) :=
  if (item block "type").str? ≠ some "tool_use" then .ok none
  else
    match (item block "id").str?, (item block "name").str?, item block "input" with
    | some call_id, some name, .obj tool_input =>
      (jsonDumps (.obj tool_input)).bind fun arguments => (ToolCall.new call_id name arguments).map some
    | _, _, _ => refuse .anthropic "Anthropic response tool_use block is invalid"

def toolCallsFromAnthropic (content_blocks : Json) : Except Exn (List ToolCall) :=
  match content_blocks with
  | .arr blocks => (blocks.mapM blockToolCall).map fun calls => calls.filterMap id
  | _ => .ok []

def fromAnthropicPayload (payload : Json) (request : GenerationRequest) : Except Exn GenerationResponse :=
  guarded .anthropic "Anthropic response payload is malformed" do
    let response_id ← validId .anthropic "Anthropic response is missing a valid id" (item payload "id")
    let model := (validText (item payload "model")).getD request.model
    let content ← textFromContentBlocks (item payload "content")
    let tool_calls ← toolCallsFromAnthropic (item payload "content")
    if isBlank content && tool_calls.isEmpty then refuse .anthropic "Anthropic response is missing text content"
    else
      let usage ← usageFromAnthropicPayload (item payload "usage")
      assistantResponse response_id model content tool_calls usage

end Anthropic

section Gemini

/-- The text of a part that is no thought. -/
def partText (part : Json) : Except Exn (Option String) :=
  if !isObject part then refuse .gemini "Gemini response content part is invalid"
  else
    match item part "thought", item part "text" with
    | .bool true, _ => .ok none
    | _, .null => .ok none
    | _, .str text => .ok (some text)
    | _, _ => refuse .gemini "Gemini response text part is missing text"

def optionalTextFromParts (parts : Json) : Except Exn String :=
  match parts with
  | .arr parts => (parts.mapM partText).map fun texts => String.join (texts.filterMap id)
  | _ => .ok ""

/-- The call of a part with its index, if it is a `functionCall` part. -/
def partToolCall (part : Json × ℕ) : Except Exn (Option ToolCall) :=
  match part.1.get? "functionCall" with
  | none => .ok none
  | some function_call =>
    match (item function_call "name").str?, item function_call "args" with
    | some name, .obj args =>
      (jsonDumps (.obj args)).bind fun arguments =>
        (ToolCall.new ("call_" ++ part.2.repr ++ "_" ++ name) name arguments).map some
    | _, _ => refuse .gemini "Gemini response functionCall is invalid"

def toolCallsFromGemini (parts : Json) : Except Exn (List ToolCall) :=
  match parts with
  | .arr parts => (parts.zipIdx.mapM partToolCall).map fun calls => calls.filterMap id
  | _ => .ok []

def geminiCandidateContent (payload : Json) : Except Exn Json :=
  match item payload "candidates" with
  | .arr (.obj first_candidate :: _) =>
    match item (.obj first_candidate) "content" with
    | .obj content => .ok (.obj content)
    | _ => refuse .gemini "Gemini response candidate is missing content"
  | .arr (_ :: _) => refuse .gemini "Gemini response candidate is invalid"
  | _ => refuse .gemini "Gemini response is missing candidates"

def usageFromGeminiPayload (usage_payload : Json) : Except Exn (Option TokenUsage) :=
  match usage_payload with
  | .obj members =>
    match (item (.obj members) "promptTokenCount").int?, (item (.obj members) "candidatesTokenCount").int? with
    | some input_tokens, some output_tokens => (TokenUsage.new input_tokens output_tokens).map some
    | _, _ => refuse .gemini "Gemini response usage is invalid"
  | _ => .ok none

def fromGeminiPayload (payload : Json) (request : GenerationRequest) : Except Exn GenerationResponse :=
  guarded .gemini "Gemini response payload is malformed" do
    let response_id ← validId .gemini "Gemini response is missing a valid id" (item payload "responseId")
    let model := (validText (item payload "modelVersion")).getD request.model
    let content ← geminiCandidateContent payload
    let output_text ← optionalTextFromParts (item content "parts")
    let tool_calls ← toolCallsFromGemini (item content "parts")
    if isBlank output_text && tool_calls.isEmpty then refuse .gemini "Gemini response is missing text content"
    else
      let usage ← usageFromGeminiPayload (item payload "usageMetadata")
      assistantResponse response_id model output_text tool_calls usage

end Gemini

section Generate

inductive Adapter where
  | openAI
  | anthropic
  | gemini
deriving DecidableEq

namespace Adapter

def kind : Adapter → ProviderErrorClass
  | openAI => .openAI
  | anthropic => .anthropic
  | gemini => .gemini

/-- The name in an adapter's messages. -/
def label : Adapter → String
  | openAI => "OpenAI"
  | anthropic => "Anthropic"
  | gemini => "Gemini"

def body (adapter : Adapter) (json_loads : JsonLoads) (request : GenerationRequest) (stream : Bool) :
    Except Exn Json :=
  match adapter with
  | openAI => .ok (toOpenAIBody request stream)
  | anthropic => toAnthropicBody json_loads request stream
  | gemini => toGeminiBody json_loads request

def fromPayload : Adapter → Json → GenerationRequest → Except Exn GenerationResponse
  | openAI => fromOpenAIPayload
  | anthropic => fromAnthropicPayload
  | gemini => fromGeminiPayload

/-- `HTTPError` while a request is sent or its answer is read. -/
def httpFailed (adapter : Adapter) : Exn :=
  .provider (.transient adapter.kind (adapter.label ++ " HTTP request failed"))

def httpStatus (adapter : Adapter) (status_code : ℕ) : Exn :=
  .provider (.fromHttpStatus adapter.kind (adapter.label ++ " HTTP request failed with status " ++ status_code.repr)
    status_code)

end Adapter

/-- What `httpx` does with a `POST`: it raises an `HTTPError`, or something else, such as the `ValueError` for a body
that is no JSON, or it is answered, with a body that `response.json()` reads or not. -/
inductive HttpReply where
  | failed
  | raised (name : String)
  | answered (status_code : ℕ) (body : Except JsonFailure Json)

def generate (adapter : Adapter) (json_loads : JsonLoads) (request : GenerationRequest) (reply : HttpReply) :
    Except Exn GenerationResponse := do
  let _ ← adapter.body json_loads request false
  match reply with
  | .failed => .error adapter.httpFailed
  | .raised name => .error (.other name)
  | .answered status_code body =>
    if 400 ≤ status_code then .error (adapter.httpStatus status_code)
    else
      match body with
      | .error .recursionError => .error JsonFailure.recursionError.exn
      -- `except ValueError`, of which both others are
      | .error _ => refuse adapter.kind (adapter.label ++ " response body is not valid JSON")
      | .ok (.obj members) => adapter.fromPayload (.obj members) request
      | .ok _ => refuse adapter.kind (adapter.label ++ " response body must be a JSON object")

end Generate

end AIRuntime.ProviderPayloads
