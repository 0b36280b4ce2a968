import AIRuntime.GenerationContracts

set_option autoImplicit false

/-!
The JSON texts of a generation: the stored response (`_serialize_response`, `_deserialize_response`)
and the canonical request that `cache_fingerprint.py` hashes.
-/
namespace AIRuntime.ResponsePayloads

open PythonText Failures JsonText GenerationContracts

def optionJson {α : Type} (toJson : α → Json) : Option α → Json
  | none => .null
  | some a => toJson a

def toolCallJson (call : ToolCall) : Json :=
  .obj [("id", .str call.id), ("name", .str call.name), ("arguments", .str call.arguments)]

def usageJson (usage : TokenUsage) : Json :=
  .obj [("input_tokens", .int usage.input_tokens), ("output_tokens", .int usage.output_tokens)]

def responseJson (response : GenerationResponse) : Json :=
  .obj [("id", .str response.id), ("model", .str response.model),
    ("output", .obj [("role", .str response.output.role.value), ("content", .str response.output.content),
      ("tool_calls", .arr (response.output.tool_calls.map toolCallJson))]),
    ("usage", optionJson usageJson response.usage)]

def serializeResponse (response : GenerationResponse) : String := dumps (responseJson response)

/-- `data[key]`. -/
def item (data : Json) (key : String) : Except Exn Json :=
  match data with
  | .obj members =>
    match members.lookup key with
    | some value => .ok value
    | none => .error (.other "KeyError")
  | _ => .error (.other "TypeError")

/-- A field of the type its dataclass declares; the payloads the service writes have no other. -/
def textOf : Json → Except Exn String
  | .str s => .ok s
  | _ => .error (.other "TypeError")

def intOf (data : Json) : Except Exn ℤ :=
  match data.int? with
  | some n => .ok n
  | none => .error (.other "TypeError")

def deserializeUsage (data : Json) : Except Exn (Option TokenUsage) :=
  match data with
  | .obj members =>
    match members.lookup "usage" with
    | none => .ok none
    | some .null => .ok none
    | some usage_data => do
      let input_tokens ← item usage_data "input_tokens" >>= intOf
      let output_tokens ← item usage_data "output_tokens" >>= intOf
      let usage ← TokenUsage.new input_tokens output_tokens
      .ok (some usage)
  | _ => .error (.other "AttributeError")

def deserializeToolCall (data : Json) : Except Exn ToolCall := do
  let id ← item data "id" >>= textOf
  let name ← item data "name" >>= textOf
  let arguments ← item data "arguments" >>= textOf
  ToolCall.new id name arguments

def deserializeToolCalls : List Json → Except Exn (List ToolCall)
  | [] => .ok []
  | data :: rest => do
    let call ← deserializeToolCall data
    let calls ← deserializeToolCalls rest
    .ok (call :: calls)

def roleOf (text : String) : Except Exn MessageRole :=
  match MessageRole.ofValue text with
  | some role => .ok role
  | none => .error (.other "ValueError")

/-- `data.get("tool_calls", [])`, read as a list. -/
def deserializeCallsOf (data : Json) : Except Exn (List ToolCall) :=
  match data.get? "tool_calls" with
  | none => .ok []
  | some (.arr items) => deserializeToolCalls items
  | some _ => .error (.other "TypeError")

def deserializeMessage (data : Json) : Except Exn Message := do
  let role ← item data "role" >>= textOf >>= roleOf
  let content ← item data "content" >>= textOf
  let tool_calls ← deserializeCallsOf data
  Message.new role content none none tool_calls

def deserializeResponse (payload : String) : Except Exn GenerationResponse :=
  match loads payload with
  | none => .error .jsonDecode
  | some data => do
    let usage ← deserializeUsage data
    let id ← item data "id" >>= textOf
    let model ← item data "model" >>= textOf
    let output ← item data "output" >>= deserializeMessage
    GenerationResponse.new id model output usage

section RoundTrip

/-- What of a response its payload keeps: neither the cached flag nor the output's name. -/
def stored (response : GenerationResponse) : GenerationResponse where
  id := response.id
  model := response.model
  output := { response.output with name := none }
  usage := response.usage
  cached := false
  ok := response.ok

theorem toolCalls_valid (calls : List ToolCall) : Json.ValidItems (calls.map toolCallJson) := by
  induction calls with
  | nil => trivial
  | cons call calls ih =>
    have hkeys : ["id", "name", "arguments"].Nodup := by decide
    exact ⟨⟨hkeys, trivial, trivial, trivial, trivial⟩, ih⟩

theorem responseJson_valid (response : GenerationResponse) : (responseJson response).Valid := by
  have husage : (optionJson usageJson response.usage).Valid := by
    cases response.usage with
    | none => trivial
    | some u =>
      have hkeys : ["input_tokens", "output_tokens"].Nodup := by decide
      exact ⟨hkeys, trivial, trivial, trivial⟩
  have hkeys : ["id", "model", "output", "usage"].Nodup := by decide
  have houtput : ["role", "content", "tool_calls"].Nodup := by decide
  exact ⟨hkeys, trivial, trivial,
    ⟨houtput, trivial, trivial, toolCalls_valid response.output.tool_calls, trivial⟩, husage, trivial⟩

theorem deserializeToolCalls_map (calls : List ToolCall) :
    deserializeToolCalls (calls.map toolCallJson) = .ok calls := by
  induction calls with
  | nil => rfl
  | cons call calls ih =>
    have hcall : deserializeToolCall (toolCallJson call) = .ok call := validated_ok call.ok
    simp only [List.map_cons, deserializeToolCalls, hcall, ih]
    rfl

theorem assistant_tool_call_id {m : Message} (h : m.role = .assistant) : m.tool_call_id = none := by
  have hok := m.ok
  unfold Message.problem at hok
  rw [h] at hok
  cases hid : m.tool_call_id with
  | none => rfl
  | some id =>
    rw [hid] at hok
    simp at hok

theorem deserializeMessage_json {m : Message} (h : m.role = .assistant) :
    deserializeMessage (.obj [("role", .str m.role.value), ("content", .str m.content),
      ("tool_calls", .arr (m.tool_calls.map toolCallJson))]) = .ok { m with name := none } := by
  have hid := assistant_tool_call_id h
  have hok : Message.problem m.role m.content none m.tool_calls = none := by
    have hm := m.ok
    rwa [hid] at hm
  have hrole : roleOf m.role.value = .ok m.role := by
    unfold roleOf
    rw [MessageRole.ofValue_value]
  unfold deserializeMessage
  change (roleOf m.role.value).bind (fun role =>
    (deserializeToolCalls (m.tool_calls.map toolCallJson)).bind fun calls =>
      Message.new role m.content none none calls) = _
  rw [hrole, deserializeToolCalls_map]
  change Message.new m.role m.content none none m.tool_calls = _
  unfold Message.new
  rw [validated_ok hok]
  cases m
  cases hid
  rfl

/-- Reading a stored response back gives the response, less its cached flag and output name. -/
theorem deserialize_serialize (response : GenerationResponse) :
    deserializeResponse (serializeResponse response) = .ok (stored response) := by
  have hloads := loads_dumps (responseJson_valid response)
  have houtput := deserializeMessage_json response.role_ok
  have husage : deserializeUsage (responseJson response) = .ok response.usage := by
    unfold deserializeUsage responseJson
    cases response.usage with
    | none => rfl
    | some u =>
      have hu : TokenUsage.new u.input_tokens u.output_tokens = .ok u := validated_ok u.ok
      change (TokenUsage.new u.input_tokens u.output_tokens).bind (fun usage => .ok (some usage)) = _
      rw [hu]
      rfl
  unfold deserializeResponse serializeResponse
  rw [hloads]
  change (deserializeUsage (responseJson response)).bind (fun usage =>
    (deserializeMessage (.obj [("role", .str response.output.role.value),
      ("content", .str response.output.content),
      ("tool_calls", .arr (response.output.tool_calls.map toolCallJson))])).bind fun output =>
        GenerationResponse.new response.id response.model output usage) = _
  rw [husage, houtput]
  exact validated_ok response.ok

end RoundTrip

section Fingerprint

def insertSorted (member : String × Json) : List (String × Json) → List (String × Json)
  | [] => [member]
  | m :: ms => if member.1 ≤ m.1 then member :: m :: ms else m :: insertSorted member ms

mutual

/-- `sort_keys=True`. -/
def sortKeys : Json → Json
  | .arr items => .arr (sortItems items)
  | .obj members => .obj (sortMembers members)
  | j => j

def sortItems : List Json → List Json
  | [] => []
  | x :: xs => sortKeys x :: sortItems xs

def sortMembers : List (String × Json) → List (String × Json)
  | [] => []
  | (k, v) :: ms => insertSorted (k, sortKeys v) (sortMembers ms)

end

def messageJson (m : Message) : Json :=
  .obj [("content", .str m.content), ("name", optionJson .str m.name), ("role", .str m.role.value),
    ("tool_call_id", optionJson .str m.tool_call_id),
    ("tool_calls", .arr (m.tool_calls.map fun call =>
      .obj [("arguments", .str call.arguments), ("id", .str call.id), ("name", .str call.name)]))]

def toolJson (tool : ToolDefinition) : Json :=
  .obj [("description", .str tool.description), ("name", .str tool.name), ("parameters", .obj tool.parameters)]

def requestJson (request : GenerationRequest) : Json :=
  .obj [("max_output_tokens", optionJson .int request.max_output_tokens),
    ("messages", .arr (request.messages.map messageJson)), ("model", .str request.model),
    ("temperature", optionJson (fun t => .float t.text) request.temperature),
    ("tools", .arr (request.tools.map toolJson))]

/-- `fingerprint_generation_request`, for a `sha256(..).hexdigest()`. -/
def fingerprintGenerationRequest (sha256 : String → String) (request : GenerationRequest) : String :=
  sha256 (dumps (sortKeys (requestJson request)))

end Fingerprint

end AIRuntime.ResponsePayloads
