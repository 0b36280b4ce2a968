import AIRuntime.ContextBudget
import AIRuntime.ModelValidation

set_option autoImplicit false

/-! `api/schemas/responses.py`. -/
namespace AIRuntime.ResponseSchemas

open PythonText Failures JsonText GenerationContracts ContextBudget ModelValidation

def pyFloat (text : String) : Option PyFloat := if h : isFloatText text = true then some ⟨text, h⟩ else none

/-- A role by its value, as an enum field reads it. -/
def readRole : Json → Option MessageRole
  | .str text => MessageRole.ofValue text
  | _ => none

section Messages

structure ToolCallSchema where
  id : String
  name : String
  arguments : String
  ok : id ≠ "" ∧ name ≠ "" ∧ arguments ≠ ""

namespace ToolCallSchema

def new (id name arguments : String) : Option ToolCallSchema :=
  if h : id ≠ "" ∧ name ≠ "" ∧ arguments ≠ "" then some ⟨id, name, arguments, h⟩ else none

def validate (data : Json) : Option ToolCallSchema :=
  if onlyKeys ["id", "name", "arguments"] data then do
    let id ← required "id" Json.str? data
    let name ← required "name" Json.str? data
    let arguments ← required "arguments" Json.str? data
    new id name arguments
  else none

def toDomain (self : ToolCallSchema) : Except Exn ToolCall := ToolCall.new self.id self.name self.arguments

def fromDomain (tool_call : ToolCall) : Option ToolCallSchema := new tool_call.id tool_call.name tool_call.arguments

def toJson (self : ToolCallSchema) : Json :=
  .obj [("id", .str self.id), ("name", .str self.name), ("arguments", .str self.arguments)]

end ToolCallSchema

structure ToolDefinitionSchema where
  name : String
  description : String
  parameters : List (String × Json)
  ok : name ≠ ""

namespace ToolDefinitionSchema

def validate (data : Json) : Option ToolDefinitionSchema :=
  if onlyKeys ["name", "description", "parameters"] data then do
    let name ← required "name" Json.str? data
    let description ← defaulted "description" "" Json.str? data
    let parameters ← defaulted "parameters" [] (dictOf some) data
    if h : name ≠ "" then some ⟨name, description, parameters, h⟩ else none
  else none

def toDomain (self : ToolDefinitionSchema) : Except Exn ToolDefinition :=
  validated (requireNonBlank self.name "name") fun h => ⟨self.name, self.description, self.parameters, h⟩

end ToolDefinitionSchema

def messageOf (role : MessageRole) (content : String) (tool_call_id name : Option String)
    (tool_calls : List ToolCallSchema) : Except Exn Message := do
  let calls ← tool_calls.mapM ToolCallSchema.toDomain
  Message.new role content tool_call_id name calls

/-- `valid` is what `validate_role_fields` checks. -/
structure MessageSchema where
  role : MessageRole
  content : String
  tool_call_id : Option String
  name : Option String
  tool_calls : List ToolCallSchema
  valid : (messageOf role content tool_call_id name tool_calls).isOk = true

namespace MessageSchema

def new (role : MessageRole) (content : String) (tool_call_id name : Option String)
    (tool_calls : List ToolCallSchema) : Option MessageSchema :=
  if h : (messageOf role content tool_call_id name tool_calls).isOk = true then
    some ⟨role, content, tool_call_id, name, tool_calls, h⟩
  else none

def validate (data : Json) : Option MessageSchema :=
  if onlyKeys ["role", "content", "tool_call_id", "name", "tool_calls"] data then do
    let role ← required "role" readRole data
    let content ← defaulted "content" "" Json.str? data
    let tool_call_id ← defaulted "tool_call_id" none (nullable Json.str?) data
    let name ← defaulted "name" none (nullable Json.str?) data
    let tool_calls ← defaulted "tool_calls" [] (listOf ToolCallSchema.validate) data
    new role content tool_call_id name tool_calls
  else none

/-- The dump, less what `_omit_empty_tool_fields` leaves out. -/
def toJson (self : MessageSchema) : Json :=
  .obj ([("role", .str self.role.value), ("content", .str self.content)] ++
    optionMember "tool_call_id" .str self.tool_call_id ++ optionMember "name" .str self.name ++
    memberIf "tool_calls" (!self.tool_calls.isEmpty) (.arr (self.tool_calls.map ToolCallSchema.toJson)))

def toDomain (self : MessageSchema) : Except Exn Message :=
  messageOf self.role self.content self.tool_call_id self.name self.tool_calls

def fromDomain (message : Message) : Option MessageSchema := do
  let tool_calls ← message.tool_calls.mapM ToolCallSchema.fromDomain
  new message.role message.content message.tool_call_id message.name tool_calls

end MessageSchema

end Messages

section Requests

structure PromptReferenceSchema where
  name : String
  version : Option ℤ
  variable_map : List (String × String)
  ok : name ≠ "" ∧ version.all (1 ≤ ·) = true

def PromptReferenceSchema.validate (lax : Lax PyFloat) (data : Json) : Option PromptReferenceSchema :=
  if onlyKeys ["name", "version", "variables"] data then do
    let name ← required "name" Json.str? data
    let version ← defaulted "version" none (nullable lax.readInt) data
    let variable_map ← defaulted "variables" [] (dictOf Json.str?) data
    if h : name ≠ "" ∧ version.all (1 ≤ ·) = true then some ⟨name, version, variable_map, h⟩ else none
  else none

structure McpSchema where
  servers : List String
  ok : servers ≠ []

def McpSchema.validate (data : Json) : Option McpSchema :=
  if onlyKeys ["servers"] data then do
    let servers ← required "servers" (listOf Json.str?) data
    if h : servers ≠ [] then some ⟨servers, h⟩ else none
  else none

def defaultRagEmbeddingModel : String := "text-embedding-3-small"

def maxRagTopK : ℤ := 20

structure RagSchema where
  enabled : Bool
  query : Option String
  top_k : ℤ
  embedding_model : String
  ok : 1 ≤ top_k ∧ top_k ≤ maxRagTopK ∧ query ≠ some "" ∧ embedding_model ≠ ""

def RagSchema.validate (lax : Lax PyFloat) (data : Json) : Option RagSchema :=
  if onlyKeys ["enabled", "query", "top_k", "embedding_model"] data then do
    let enabled ← defaulted "enabled" false lax.readBool data
    let query ← defaulted "query" none (nullable Json.str?) data
    let top_k ← defaulted "top_k" 5 lax.readInt data
    let embedding_model ← defaulted "embedding_model" defaultRagEmbeddingModel Json.str? data
    if h : 1 ≤ top_k ∧ top_k ≤ maxRagTopK ∧ query ≠ some "" ∧ embedding_model ≠ "" then
      some ⟨enabled, query, top_k, embedding_model, h⟩
    else none
  else none

structure ContextSchema where
  max_input_tokens : Option ℤ
  truncate : Bool
  ok : max_input_tokens.all (0 < ·) = true

def ContextSchema.validate (lax : Lax PyFloat) (data : Json) : Option ContextSchema :=
  if onlyKeys ["max_input_tokens", "truncate"] data then do
    let max_input_tokens ← defaulted "max_input_tokens" none (nullable lax.readInt) data
    let truncate ← defaulted "truncate" false lax.readBool data
    if h : max_input_tokens.all (0 < ·) = true then some ⟨max_input_tokens, truncate, h⟩ else none
  else none

structure CreateResponseRequest.Valid (model : String) (messages : Option (List MessageSchema))
    (prompt : Option PromptReferenceSchema) (temperature : Option PyFloat) (max_output_tokens : Option ℤ) : Prop where
  model_ok : model ≠ ""
  messages_ok : messages.all (!·.isEmpty) = true
  temperature_ok : temperature.all temperatureOk = true
  max_output_tokens_ok : max_output_tokens.all (0 < ·) = true
  one_of : messages.isNone ≠ prompt.isNone

structure CreateResponseRequest where
  model : String
  messages : Option (List MessageSchema)
  prompt : Option PromptReferenceSchema
  context : Option ContextSchema
  temperature : Option PyFloat
  max_output_tokens : Option ℤ
  stream : Bool
  tools : List ToolDefinitionSchema
  cache : Bool
  rag : Option RagSchema
  mcp : Option McpSchema
  valid : CreateResponseRequest.Valid model messages prompt temperature max_output_tokens

namespace CreateResponseRequest

instance (model : String) (messages : Option (List MessageSchema)) (prompt : Option PromptReferenceSchema)
    (temperature : Option PyFloat) (max_output_tokens : Option ℤ) :
    Decidable (Valid model messages prompt temperature max_output_tokens) :=
  decidable_of_iff (model ≠ "" ∧ messages.all (!·.isEmpty) = true ∧ temperature.all temperatureOk = true ∧
      max_output_tokens.all (0 < ·) = true ∧ messages.isNone ≠ prompt.isNone)
    ⟨fun h => ⟨h.1, h.2.1, h.2.2.1, h.2.2.2.1, h.2.2.2.2⟩, fun h => ⟨h.model_ok, h.messages_ok, h.temperature_ok,
      h.max_output_tokens_ok, h.one_of⟩⟩

def validate (lax : Lax PyFloat) (data : Json) : Option CreateResponseRequest :=
  if onlyKeys ["model", "messages", "prompt", "context", "temperature", "max_output_tokens", "stream", "tools",
      "cache", "rag", "mcp"] data then do
    let model ← required "model" Json.str? data
    let messages ← defaulted "messages" none (nullable (listOf MessageSchema.validate)) data
    let prompt ← defaulted "prompt" none (nullable (PromptReferenceSchema.validate lax)) data
    let context ← defaulted "context" none (nullable (ContextSchema.validate lax)) data
    let temperature ← defaulted "temperature" none (nullable (lax.readFloat pyFloat)) data
    let max_output_tokens ← defaulted "max_output_tokens" none (nullable lax.readInt) data
    let stream ← defaulted "stream" false lax.readBool data
    let tools ← defaulted "tools" [] (listOf ToolDefinitionSchema.validate) data
    let cache ← defaulted "cache" false lax.readBool data
    let rag ← defaulted "rag" none (nullable (RagSchema.validate lax)) data
    let mcp ← defaulted "mcp" none (nullable McpSchema.validate) data
    if h : Valid model messages prompt temperature max_output_tokens then
      some ⟨model, messages, prompt, context, temperature, max_output_tokens, stream, tools, cache, rag, mcp, h⟩
    else none
  else none

/-- `messages` and `tools` are what earlier steps resolved, when they did. -/
def toDomain (self : CreateResponseRequest) (messages : Option (List Message)) (tools : Option (List ToolDefinition)) :
    Except Exn GenerationRequest := do
  let resolved ← match messages with
    | some messages => .ok messages
    | none => (self.messages.getD []).mapM MessageSchema.toDomain
  let resolved_tools ← match tools with
    | some tools => .ok tools
    | none => self.tools.mapM ToolDefinitionSchema.toDomain
  GenerationRequest.new self.model resolved self.temperature self.max_output_tokens self.stream resolved_tools
    self.cache

end CreateResponseRequest

end Requests

section Responses

def usageSchemaJson (usage : TokenUsage) : Json :=
  .obj [("input_tokens", .int usage.input_tokens), ("output_tokens", .int usage.output_tokens),
    ("total_tokens", .int usage.total)]

/-- `ResponseSchema`: its usage is what `TokenUsageSchema.from_domain` builds. -/
structure ResponseSchema where
  id : String
  model : String
  output : MessageSchema
  usage : Option TokenUsage
  cached : Bool

namespace ResponseSchema

def fromDomain (response : GenerationResponse) : Option ResponseSchema := do
  let output ← MessageSchema.fromDomain response.output
  some ⟨response.id, response.model, output, response.usage, response.cached⟩

/-- `model_dump()`, less the `cached` that `_omit_default_cached` leaves out. -/
def toJson (self : ResponseSchema) : Json :=
  .obj ([("id", .str self.id), ("model", .str self.model), ("output", self.output.toJson),
      ("usage", match self.usage with | none => .null | some usage => usageSchemaJson usage)] ++
    memberIf "cached" self.cached (.bool true))

end ResponseSchema

end Responses

end AIRuntime.ResponseSchemas
