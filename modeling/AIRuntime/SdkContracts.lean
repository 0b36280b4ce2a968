import AIRuntime.ResponseSchemas

set_option autoImplicit false

/-! The Python SDK: its models and the request bodies of `_payload.py`. -/
namespace AIRuntime.SdkContracts

open JsonText GenerationContracts ModelValidation ResponseSchemas

section Models

structure SdkToolCall where
  id : String
  name : String
  arguments : String
deriving DecidableEq

def SdkToolCall.validate (data : Json) : Option SdkToolCall :=
  if isObject data then do
    let id ← required "id" Json.str? data
    let name ← required "name" Json.str? data
    let arguments ← required "arguments" Json.str? data
    some ⟨id, name, arguments⟩
  else none

structure SdkToolDefinition where
  name : String
  description : String
  parameters : List (String × Json)

def SdkToolDefinition.validate (data : Json) : Option SdkToolDefinition :=
  if isObject data then do
    let name ← required "name" Json.str? data
    let description ← defaulted "description" "" Json.str? data
    let parameters ← defaulted "parameters" [] (dictOf some) data
    some ⟨name, description, parameters⟩
  else none

structure SdkMessage where
  role : MessageRole
  content : String
  tool_call_id : Option String
  name : Option String
  tool_calls : List SdkToolCall
deriving DecidableEq

def SdkMessage.validate (data : Json) : Option SdkMessage :=
  if isObject data then do
    let role ← required "role" readRole data
    let content ← defaulted "content" "" Json.str? data
    let tool_call_id ← defaulted "tool_call_id" none (nullable Json.str?) data
    let name ← defaulted "name" none (nullable Json.str?) data
    let tool_calls ← defaulted "tool_calls" [] (listOf SdkToolCall.validate) data
    some ⟨role, content, tool_call_id, name, tool_calls⟩
  else none

structure SdkPromptReference where
  name : String
  version : Option ℤ
  variable_map : List (String × String)

def SdkPromptReference.validate (lax : Lax PyFloat) (data : Json) : Option SdkPromptReference :=
  if isObject data then do
    let name ← required "name" Json.str? data
    let version ← defaulted "version" none (nullable lax.readInt) data
    let variable_map ← defaulted "variables" [] (dictOf Json.str?) data
    some ⟨name, version, variable_map⟩
  else none

structure SdkContext where
  max_input_tokens : Option ℤ
  truncate : Bool

def SdkContext.validate (lax : Lax PyFloat) (data : Json) : Option SdkContext :=
  if isObject data then do
    let max_input_tokens ← defaulted "max_input_tokens" none (nullable lax.readInt) data
    let truncate ← defaulted "truncate" false lax.readBool data
    some ⟨max_input_tokens, truncate⟩
  else none

structure SdkTokenUsage where
  input_tokens : ℤ
  output_tokens : ℤ
  total_tokens : ℤ
deriving DecidableEq

def SdkTokenUsage.validate (lax : Lax PyFloat) (data : Json) : Option SdkTokenUsage :=
  if isObject data then do
    let input_tokens ← required "input_tokens" lax.readInt data
    let output_tokens ← required "output_tokens" lax.readInt data
    let total_tokens ← required "total_tokens" lax.readInt data
    some ⟨input_tokens, output_tokens, total_tokens⟩
  else none

structure SdkResponse where
  id : String
  model : String
  output : SdkMessage
  usage : Option SdkTokenUsage
  cached : Bool
  request_id : Option String
deriving DecidableEq

def SdkResponse.validate (lax : Lax PyFloat) (data : Json) : Option SdkResponse :=
  if isObject data then do
    let id ← required "id" Json.str? data
    let model ← required "model" Json.str? data
    let output ← required "output" SdkMessage.validate data
    let usage ← defaulted "usage" none (nullable (SdkTokenUsage.validate lax)) data
    let cached ← defaulted "cached" false lax.readBool data
    let request_id ← defaulted "request_id" none (nullable Json.str?) data
    some ⟨id, model, output, usage, cached, request_id⟩
  else none

structure SdkResponseDelta where
  id : String
  model : String
  content : String
  request_id : Option String
deriving DecidableEq

end Models

section Payloads

/-- `T | Mapping[str, Any]`. -/
inductive Input (α : Type) where
  | model (a : α)
  | mapping (data : Json)

/-- `value if isinstance(value, T) else T.model_validate(value)`. -/
def Input.read {α : Type} (validate : Json → Option α) : Input α → Option α
  | .model a => some a
  | .mapping data => validate data

def toolCallPayload (item : SdkToolCall) : Json :=
  .obj [("id", .str item.id), ("name", .str item.name), ("arguments", .str item.arguments)]

def messageBody (model : SdkMessage) : Json :=
  .obj ([("role", .str model.role.value), ("content", .str model.content)] ++
    memberIf "tool_calls" (!model.tool_calls.isEmpty) (.arr (model.tool_calls.map toolCallPayload)) ++
    optionMember "tool_call_id" .str model.tool_call_id ++ optionMember "name" .str model.name)

def messagePayload (message : Input SdkMessage) : Option Json := (message.read SdkMessage.validate).map messageBody

def promptReferencePayload (lax : Lax PyFloat) (prompt : Input SdkPromptReference) : Option Json :=
  (prompt.read (SdkPromptReference.validate lax)).map fun model =>
    .obj ([("name", .str model.name), ("variables", .obj (model.variable_map.map fun p => (p.1, .str p.2)))] ++
      optionMember "version" .int model.version)

def contextPayload (lax : Lax PyFloat) (context : Input SdkContext) : Option Json :=
  (context.read (SdkContext.validate lax)).map fun model =>
    .obj (optionMember "max_input_tokens" .int model.max_input_tokens ++
      memberIf "truncate" model.truncate (.bool true))

def toolBody (model : SdkToolDefinition) : Json :=
  .obj [("name", .str model.name), ("description", .str model.description), ("parameters", .obj model.parameters)]

def toolPayload (tool : Input SdkToolDefinition) : Option Json := (tool.read SdkToolDefinition.validate).map toolBody

def payloadOf {α : Type} (payload : α → Option Json) : Option α → Option (Option Json)
  | none => some none
  | some a => (payload a).map some

/-- `build_response_payload`; `none` stands for what it raises. -/
def buildResponsePayload (lax : Lax PyFloat) (model : String) (messages : Option (List (Input SdkMessage)))
    (prompt : Option (Input SdkPromptReference)) (context : Option (Input SdkContext)) (temperature : Option PyFloat)
    (max_output_tokens : Option ℤ) (tools : Option (List (Input SdkToolDefinition))) (cache stream : Bool) :
    Option Json := do
  if messages.isNone = prompt.isNone then none
  else if messages.any (·.isEmpty) then none
  else
    let message_items ← payloadOf (fun items => (items.mapM messagePayload).map .arr) messages
    let prompt_item ← payloadOf (promptReferencePayload lax) prompt
    let context_item ← payloadOf (contextPayload lax) context
    let tool_items ← (tools.getD []).mapM toolPayload
    some (.obj ([("model", .str model)] ++ optionMember "messages" id message_items ++
      optionMember "prompt" id prompt_item ++ optionMember "context" id context_item ++
      optionMember "temperature" (fun t => .float t.text) temperature ++
      optionMember "max_output_tokens" .int max_output_tokens ++
      memberIf "tools" (!(tools.getD []).isEmpty) (.arr tool_items) ++
      memberIf "cache" cache (.bool true) ++ memberIf "stream" stream (.bool true)))

end Payloads

end AIRuntime.SdkContracts
