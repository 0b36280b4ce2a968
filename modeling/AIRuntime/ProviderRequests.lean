import AIRuntime.ModelValidation
import AIRuntime.PythonJson
import AIRuntime.ResponsePayloads

set_option autoImplicit false

/-! The request bodies of `providers/openai`, `providers/anthropic` and `providers/gemini`. -/
namespace AIRuntime.ProviderRequests

open PythonText Failures JsonText PythonJson GenerationContracts ResponsePayloads ModelValidation

def temperatureJson (t : PyFloat) : Json := .float t.text

section OpenAI

def openAIToolCall (call : ToolCall) : Json :=
  .obj [("id", .str call.id), ("type", .str "function"),
    ("function", .obj [("name", .str call.name), ("arguments", .str call.arguments)])]

def toOpenAIMessage (message : Message) : Json :=
  if message.role = .tool then
    .obj [("role", .str "tool"), ("tool_call_id", optionJson .str message.tool_call_id),
      ("content", .str message.content)]
  else if message.tool_calls.isEmpty then
    .obj [("role", .str message.role.value), ("content", .str message.content)]
  else
    .obj [("role", .str message.role.value),
      ("content", if isBlank message.content then .null else .str message.content),
      ("tool_calls", .arr (message.tool_calls.map openAIToolCall))]

def toOpenAIBody (request : GenerationRequest) (stream : Bool) : Json :=
  .obj ([("model", .str request.model), ("messages", .arr (request.messages.map toOpenAIMessage))] ++
    optionMember "temperature" temperatureJson request.temperature ++
    optionMember "max_tokens" .int request.max_output_tokens ++
    (if request.tools.isEmpty then [] else
      [("tools", .arr (request.tools.map fun tool =>
        .obj [("type", .str "function"), ("function", .obj [("name", .str tool.name),
          ("description", .str tool.description), ("parameters", .obj tool.parameters)])]))]) ++
    if stream then [("stream", .bool true), ("stream_options", .obj [("include_usage", .bool true)])] else [])

end OpenAI

/-- `_split_system_messages`: the two adapters that have it split alike. -/
def splitSystemMessages (request : GenerationRequest) : Option String × List Message :=
  let system_parts := (request.messages.filter fun m => m.role = .system).map (·.content)
  (if system_parts.isEmpty then none else some (String.intercalate "\n\n" system_parts),
    request.messages.filter fun m => m.role ≠ .system)

/-- `json.loads(arguments)`, which must be an object. -/
def argumentsOf (kind : ProviderErrorClass) (json_loads : JsonLoads) (arguments : String) : Except Exn Json :=
  match json_loads arguments with
  | .error .decodeError => .error (.provider (.permanent kind "tool call arguments must be valid JSON"))
  | .error failure => .error failure.exn
  | .ok (.obj members) => .ok (.obj members)
  | .ok _ => .error (.provider (.permanent kind "tool call arguments must be a JSON object"))

def noConversation (kind : ProviderErrorClass) : Exn :=
  .provider (.permanent kind "messages must contain at least one non-system message")

section Anthropic

variable (json_loads : JsonLoads)

def toolUseBlock (call : ToolCall) : Except Exn Json :=
  (argumentsOf .anthropic json_loads call.arguments).map fun tool_input =>
    .obj [("type", .str "tool_use"), ("id", .str call.id), ("name", .str call.name), ("input", tool_input)]

def toAnthropicMessage (message : Message) : Except Exn Json :=
  if message.role = .tool then
    .ok (.obj [("role", .str "user"), ("content", .arr [.obj [("type", .str "tool_result"),
      ("tool_use_id", optionJson .str message.tool_call_id), ("content", .str message.content)]])])
  else if message.role = .assistant && !message.tool_calls.isEmpty then
    (message.tool_calls.mapM (toolUseBlock json_loads)).map fun blocks =>
      .obj [("role", .str "assistant"), ("content", .arr ((if isBlank message.content then [] else
        [.obj [("type", .str "text"), ("text", .str message.content)]]) ++ blocks))]
  else .ok (.obj [("role", .str message.role.value), ("content", .str message.content)])

def defaultMaxOutputTokens : ℤ := 1024

def toAnthropicBody (request : GenerationRequest) (stream : Bool) : Except Exn Json :=
  let (system, conversation) := splitSystemMessages request
  if conversation.isEmpty then .error (noConversation .anthropic)
  else
    (conversation.mapM (toAnthropicMessage json_loads)).map fun messages =>
      .obj ([("model", .str request.model),
          ("max_tokens", .int (request.max_output_tokens.getD defaultMaxOutputTokens)), ("messages", .arr messages)] ++
        optionMember "system" .str system ++ optionMember "temperature" temperatureJson request.temperature ++
        (if request.tools.isEmpty then [] else
          [("tools", .arr (request.tools.map fun tool => .obj [("name", .str tool.name),
            ("description", .str tool.description), ("input_schema", .obj tool.parameters)]))]) ++
        if stream then [("stream", .bool true)] else [])

end Anthropic

section Gemini

variable (json_loads : JsonLoads)

def geminiRole : MessageRole → String
  | .assistant => "model"
  | .tool => "user"
  | role => role.value

/-- The name a function response goes by. -/
def responseName (message : Message) : Option String :=
  match message.name with
  | some name => if isBlank name then message.tool_call_id else some name
  | none => message.tool_call_id

/-- What a function response carries: the content when it is a JSON object. -/
def responsePayload (content : String) : Except Exn Json :=
  match json_loads content with
  | .ok (.obj members) => .ok (.obj members)
  | .ok _ => .ok (.obj [("result", .str content)])
  | .error .decodeError => .ok (.obj [("result", .str content)])
  | .error failure => .error failure.exn

def functionCallPart (call : ToolCall) : Except Exn Json :=
  (argumentsOf .gemini json_loads call.arguments).map fun args =>
    .obj [("functionCall", .obj [("name", .str call.name), ("args", args)])]

def geminiParts (message : Message) : Except Exn (List Json) :=
  if message.role = .tool then
    match responseName message with
    | none => .error (.other "AssertionError")
    | some name =>
      (responsePayload json_loads message.content).map fun payload =>
        [.obj [("functionResponse", .obj [("name", .str name), ("response", payload)])]]
  else if message.tool_calls.isEmpty then .ok [.obj [("text", .str message.content)]]
  else
    (message.tool_calls.mapM (functionCallPart json_loads)).map fun parts =>
      (if isBlank message.content then [] else [.obj [("text", .str message.content)]]) ++ parts

def geminiContent (message : Message) : Except Exn Json :=
  (geminiParts json_loads message).map fun parts => .obj [("role", .str (geminiRole message.role)), ("parts", .arr parts)]

def toGeminiBody (request : GenerationRequest) : Except Exn Json :=
  let (system, conversation) := splitSystemMessages request
  if conversation.isEmpty then .error (noConversation .gemini)
  else
    (conversation.mapM (geminiContent json_loads)).map fun contents =>
      let generation_config := optionMember "temperature" temperatureJson request.temperature ++
        optionMember "maxOutputTokens" .int request.max_output_tokens
      .obj ([("contents", .arr contents)] ++
        optionMember "systemInstruction" (fun s => .obj [("parts", .arr [.obj [("text", .str s)]])]) system ++
        (if generation_config.isEmpty then [] else [("generationConfig", .obj generation_config)]) ++
        if request.tools.isEmpty then [] else
          [("tools", .arr [.obj [("functionDeclarations", .arr (request.tools.map fun tool =>
            .obj [("name", .str tool.name), ("description", .str tool.description),
              ("parameters", .obj tool.parameters)]))]])])

end Gemini

end AIRuntime.ProviderRequests
