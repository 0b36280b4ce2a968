import AIRuntime.SdkContracts
import AIRuntime.Traversals

set_option autoImplicit false

/-! Messages and requests on their way between the service and its Python SDK. -/
namespace AIRuntime.ConversationRoundTrip

open Traversals PythonText Failures JsonText GenerationContracts ResponsePayloads ModelValidation ResponseSchemas
  SdkContracts

section Messages

def sdkMessage (m : Message) : SdkMessage :=
  ⟨m.role, m.content, m.tool_call_id, m.name, m.tool_calls.map fun call => ⟨call.id, call.name, call.arguments⟩⟩

/-- The object has the fields of a message and no others, those that are not set left out. -/
structure Shows (m : Message) (j : Json) : Prop where
  object : isObject j = true
  keys : onlyKeys ["role", "content", "tool_call_id", "name", "tool_calls"] j = true
  role : j.get? "role" = some (.str m.role.value)
  content : j.get? "content" = some (.str m.content)
  tool_call_id : j.get? "tool_call_id" = m.tool_call_id.map .str
  name : j.get? "name" = m.name.map .str
  tool_calls : j.get? "tool_calls" =
    if m.tool_calls.isEmpty then none else some (.arr (m.tool_calls.map toolCallJson))

theorem not_blank_ne {text field : String} (h : requireNonBlank text field = none) : text ≠ "" := by
  intro hempty
  rw [hempty] at h
  cases h

def schemaOf (call : ToolCall) : ToolCallSchema where
  id := call.id
  name := call.name
  arguments := call.arguments
  ok := ⟨not_blank_ne (or_none call.ok).1, not_blank_ne (or_none (or_none call.ok).2).1,
    not_blank_ne (or_none (or_none call.ok).2).2⟩

theorem toolCall_fromDomain (call : ToolCall) : ToolCallSchema.fromDomain call = some (schemaOf call) :=
  dif_pos (schemaOf call).ok

theorem toolCall_toDomain (call : ToolCall) : (schemaOf call).toDomain = .ok call := validated_ok call.ok

theorem toolCall_validate (call : ToolCall) : ToolCallSchema.validate (toolCallJson call) = some (schemaOf call) :=
  dif_pos (schemaOf call).ok

theorem messageOf_fields (m : Message) :
    messageOf m.role m.content m.tool_call_id m.name (m.tool_calls.map schemaOf) = .ok m := by
  have hcalls : (m.tool_calls.map schemaOf).mapM ToolCallSchema.toDomain = .ok m.tool_calls :=
    mapM_written toolCall_toDomain m.tool_calls
  unfold messageOf
  rw [hcalls]
  exact validated_ok m.ok

def messageSchemaOf (m : Message) : MessageSchema where
  role := m.role
  content := m.content
  tool_call_id := m.tool_call_id
  name := m.name
  tool_calls := m.tool_calls.map schemaOf
  valid := by
    rw [messageOf_fields]
    rfl

theorem message_new (m : Message) :
    MessageSchema.new m.role m.content m.tool_call_id m.name (m.tool_calls.map schemaOf) = some (messageSchemaOf m) :=
  dif_pos (messageSchemaOf m).valid

theorem message_fromDomain (m : Message) : MessageSchema.fromDomain m = some (messageSchemaOf m) := by
  have hcalls : m.tool_calls.mapM ToolCallSchema.fromDomain = some (m.tool_calls.map schemaOf) :=
    mapM_of_pure fun call _ => toolCall_fromDomain call
  unfold MessageSchema.fromDomain
  rw [hcalls]
  exact message_new m

theorem message_toDomain (m : Message) : (messageSchemaOf m).toDomain = .ok m := messageOf_fields m

theorem schema_shows (m : Message) : Shows m (messageSchemaOf m).toJson := by
  have hcalls : (m.tool_calls.map schemaOf).map ToolCallSchema.toJson = m.tool_calls.map toolCallJson := by
    rw [List.map_map]
    rfl
  unfold MessageSchema.toJson messageSchemaOf
  simp only [hcalls, List.isEmpty_map]
  constructor
  · rfl
  · apply onlyKeys_obj.mpr
    simp
  · simp
  · simp
  · simp [List.lookup_append]
  · simp [List.lookup_append]
  · cases m.tool_calls <;> simp [List.lookup_append]

theorem payload_shows (m : Message) : Shows m (messageBody (sdkMessage m)) := by
  have hcalls : (sdkMessage m).tool_calls.map toolCallPayload = m.tool_calls.map toolCallJson := by
    unfold sdkMessage
    rw [List.map_map]
    rfl
  unfold messageBody
  rw [hcalls]
  unfold sdkMessage
  simp only [List.isEmpty_map]
  constructor
  · rfl
  · apply onlyKeys_obj.mpr
    simp
  · simp
  · simp
  · simp [List.lookup_append]
  · simp [List.lookup_append]
  · cases m.tool_calls <;> simp [List.lookup_append]

theorem readRole_value (role : MessageRole) : readRole (.str role.value) = some role := MessageRole.ofValue_value role

theorem sdkToolCall_validate (call : ToolCall) :
    SdkToolCall.validate (toolCallJson call) = some ⟨call.id, call.name, call.arguments⟩ := rfl

theorem nullable_str (text : String) : nullable Json.str? (.str text) = some (some text) := rfl

theorem calls_read {α : Type} {data : Json} {read : Json → Option α} {back : ToolCall → α} {calls : List ToolCall}
    (hget : data.get? "tool_calls" = if calls.isEmpty then none else some (.arr (calls.map toolCallJson)))
    (hread : ∀ call, read (toolCallJson call) = some (back call)) :
    defaulted "tool_calls" [] (listOf read) data = some (calls.map back) := by
  unfold defaulted
  rw [hget]
  cases calls with
  | nil => rfl
  | cons call rest => exact listOf_map fun c _ => hread c

theorem Shows.sdk {m : Message} {j : Json} (h : Shows m j) : SdkMessage.validate j = some (sdkMessage m) := by
  unfold SdkMessage.validate required
  rw [if_pos h.object, h.role]
  have hcontent : defaulted "content" "" Json.str? j = some m.content := by
    unfold defaulted
    rw [h.content]
    rfl
  rw [hcontent, defaulted_nullable .str h.tool_call_id nullable_str, defaulted_nullable .str h.name nullable_str,
    calls_read h.tool_calls sdkToolCall_validate]
  change (readRole (.str m.role.value)).bind _ = _
  rw [readRole_value]
  rfl

theorem Shows.schema {m : Message} {j : Json} (h : Shows m j) :
    MessageSchema.validate j = some (messageSchemaOf m) := by
  unfold MessageSchema.validate required
  rw [if_pos h.keys, h.role]
  have hcontent : defaulted "content" "" Json.str? j = some m.content := by
    unfold defaulted
    rw [h.content]
    rfl
  rw [hcontent, defaulted_nullable .str h.tool_call_id nullable_str, defaulted_nullable .str h.name nullable_str,
    calls_read h.tool_calls toolCall_validate]
  change (readRole (.str m.role.value)).bind _ = _
  rw [readRole_value]
  exact message_new m

/-- From the service to the SDK and back: serialised, parsed, re-encoded and parsed again. -/
def throughTheSdk (m : Message) : Option (Except Exn Message) := do
  let sent ← MessageSchema.fromDomain m
  let received ← SdkMessage.validate sent.toJson
  let body ← messagePayload (.model received)
  let parsed ← MessageSchema.validate body
  some parsed.toDomain

theorem throughTheSdk_eq (m : Message) : throughTheSdk m = some (.ok m) := by
  unfold throughTheSdk
  rw [message_fromDomain]
  change (SdkMessage.validate (messageSchemaOf m).toJson).bind _ = _
  rw [(schema_shows m).sdk]
  change (MessageSchema.validate (messageBody (sdkMessage m))).bind _ = _
  rw [(payload_shows m).schema]
  exact congrArg some (message_toDomain m)

end Messages

section Requests

def sdkTool (tool : ToolDefinition) : SdkToolDefinition := ⟨tool.name, tool.description, tool.parameters⟩

def toolSchemaOf (tool : ToolDefinition) : ToolDefinitionSchema :=
  ⟨tool.name, tool.description, tool.parameters, not_blank_ne tool.name_ok⟩

theorem dictOf_some (members : List (String × Json)) : dictOf some (.obj members) = some members := by
  unfold dictOf
  induction members with
  | nil => rfl
  | cons p rest ih =>
    simp only [List.mapM_cons, ih]
    rfl

theorem tool_validate (tool : ToolDefinition) :
    ToolDefinitionSchema.validate (toolBody (sdkTool tool)) = some (toolSchemaOf tool) := by
  have hparameters : defaulted "parameters" [] (dictOf some) (toolBody (sdkTool tool)) = some tool.parameters :=
    dictOf_some tool.parameters
  unfold ToolDefinitionSchema.validate
  rw [hparameters]
  exact dif_pos (not_blank_ne tool.name_ok)

theorem tool_toDomain (tool : ToolDefinition) : (toolSchemaOf tool).toDomain = .ok tool := validated_ok tool.name_ok

/-- What a call of the SDK gives as messages and tools, models or mappings, are those of a request. -/
structure Gives (messages : List (Input SdkMessage)) (tools : Option (List (Input SdkToolDefinition)))
    (request : GenerationRequest) : Prop where
  messages : messages.map (Input.read SdkMessage.validate) = request.messages.map fun m => some (sdkMessage m)
  tools : (tools.getD []).map (Input.read SdkToolDefinition.validate) =
    request.tools.map fun tool => some (sdkTool tool)

def requestBody (request : GenerationRequest) : Json :=
  .obj ([("model", .str request.model)] ++
    optionMember "messages" id (some (.arr (request.messages.map fun m => messageBody (sdkMessage m)))) ++
    optionMember "prompt" id none ++ optionMember "context" id none ++
    optionMember "temperature" (fun t => .float t.text) request.temperature ++
    optionMember "max_output_tokens" .int request.max_output_tokens ++
    memberIf "tools" (!request.tools.isEmpty) (.arr (request.tools.map fun tool => toolBody (sdkTool tool))) ++
    memberIf "cache" request.cache (.bool true) ++ memberIf "stream" request.stream (.bool true))

theorem mapM_read {α β : Type} {inputs : List α} {l : List β} {read : α → Option Json} {encode : β → Json}
    (h : inputs.map read = l.map fun b => some (encode b)) : inputs.mapM read = some (l.map encode) := by
  induction inputs generalizing l with
  | nil =>
    cases l with
    | nil => rfl
    | cons b rest => cases h
  | cons input rest ih =>
    cases l with
    | nil => cases h
    | cons b rest' =>
      rw [List.map_cons, List.map_cons, List.cons.injEq] at h
      rw [List.mapM_cons, h.1, ih h.2]
      rfl

theorem request_messages_ne (request : GenerationRequest) : request.messages ≠ [] := by
  intro hempty
  have hok := (or_none (or_none request.ok).2).1
  rw [hempty] at hok
  cases hok

/-- The SDK builds that body from a call that gives the request's values. -/
theorem build_body (lax : Lax PyFloat) {request : GenerationRequest} {messages : List (Input SdkMessage)}
    {tools : Option (List (Input SdkToolDefinition))} (h : Gives messages tools request) :
    buildResponsePayload lax request.model (some messages) none none request.temperature
      request.max_output_tokens tools request.cache request.stream = some (requestBody request) := by
  have hmessages : messages.mapM messagePayload = some (request.messages.map fun m => messageBody (sdkMessage m)) := by
    apply mapM_read
    have hbodies := congrArg (List.map (Option.map messageBody)) h.messages
    rw [List.map_map, List.map_map] at hbodies
    exact hbodies
  have htools : (tools.getD []).mapM toolPayload = some (request.tools.map fun tool => toolBody (sdkTool tool)) := by
    apply mapM_read
    have hbodies := congrArg (List.map (Option.map toolBody)) h.tools
    rw [List.map_map, List.map_map] at hbodies
    exact hbodies
  have hlength : messages.isEmpty = false := by
    have hlen := congrArg List.length h.messages
    rw [List.length_map, List.length_map] at hlen
    have hne := List.length_pos_iff.mpr (request_messages_ne request)
    cases messages with
    | nil =>
      rw [← hlen] at hne
      cases hne
    | cons m rest => rfl
  have hempty : (tools.getD []).isEmpty = request.tools.isEmpty := by
    have hlen := congrArg List.length h.tools
    rw [List.length_map, List.length_map] at hlen
    cases htl : tools.getD [] with
    | nil =>
      rw [htl] at hlen
      rw [List.length_eq_zero_iff.mp hlen.symm]
      rfl
    | cons t rest =>
      rw [htl] at hlen
      cases hrt : request.tools with
      | nil =>
        rw [hrt] at hlen
        cases hlen
      | cons u more => rfl
  unfold buildResponsePayload
  simp only [Option.isNone_some, Option.isNone_none, Bool.false_eq_true, ↓reduceIte, Option.any_some, hlength,
    payloadOf, hmessages, Option.map_some, htools, hempty]
  rfl

theorem readFloat_text (lax : Lax PyFloat) (t : PyFloat) :
    nullable (lax.readFloat pyFloat) (.float t.text) = some (some t) := by
  change (pyFloat t.text).map some = _
  unfold pyFloat
  rw [dif_pos t.ok]
  rfl

theorem nullable_int (lax : Lax PyFloat) (n : ℤ) : nullable lax.readInt (.int n) = some (some n) := rfl

theorem flag_read (lax : Lax PyFloat) {data : Json} {key : String} {flag : Bool}
    (h : data.get? key = if flag = true then some (.bool true) else none) :
    defaulted key false lax.readBool data = some flag := by
  unfold defaulted
  rw [h]
  cases flag <;> rfl

def requestSchemaOf (request : GenerationRequest) : CreateResponseRequest where
  model := request.model
  messages := some (request.messages.map messageSchemaOf)
  prompt := none
  context := none
  temperature := request.temperature
  max_output_tokens := request.max_output_tokens
  stream := request.stream
  tools := request.tools.map toolSchemaOf
  cache := request.cache
  rag := none
  mcp := none
  valid := by
    have hok := request.ok
    unfold GenerationRequest.problem at hok
    obtain ⟨hmodel, hok⟩ := or_none hok
    obtain ⟨hmessages, hok⟩ := or_none hok
    obtain ⟨htemperature, hok⟩ := or_none hok
    obtain ⟨htokens, _⟩ := or_none hok
    refine ⟨not_blank_ne hmodel, ?_, ?_, ?_, nofun⟩
    · have hne := request_messages_ne request
      simpa using hne
    · cases ht : request.temperature with
      | none => rfl
      | some t =>
        rw [ht] at htemperature
        by_contra hbad
        simp only [Option.all_some, Bool.not_eq_true] at hbad
        simp [hbad] at htemperature
    · cases hn : request.max_output_tokens with
      | none => rfl
      | some n =>
        rw [hn] at htokens
        by_contra hbad
        simp only [Option.all_some, decide_eq_true_eq] at hbad
        simp [not_lt.mp hbad] at htokens

theorem request_validate (lax : Lax PyFloat) (request : GenerationRequest) :
    CreateResponseRequest.validate lax (requestBody request) = some (requestSchemaOf request) := by
  have hkeys : onlyKeys ["model", "messages", "prompt", "context", "temperature", "max_output_tokens", "stream",
      "tools", "cache", "rag", "mcp"] (requestBody request) = true := by
    apply onlyKeys_obj.mpr
    simp
  have hmodel : required "model" Json.str? (requestBody request) = some request.model := rfl
  have hmessages : defaulted "messages" none (nullable (listOf MessageSchema.validate)) (requestBody request) =
      some (some (request.messages.map messageSchemaOf)) := by
    have hlist : listOf MessageSchema.validate (.arr (request.messages.map fun m => messageBody (sdkMessage m))) =
        some (request.messages.map messageSchemaOf) := listOf_map fun m _ => (payload_shows m).schema
    exact congrArg (Option.map some) hlist
  have htemperature : defaulted "temperature" none (nullable (lax.readFloat pyFloat)) (requestBody request) =
      some request.temperature := by
    apply defaulted_nullable (fun t => Json.float t.text) ?_ (readFloat_text lax)
    simp [requestBody, List.lookup_append]
  have htokens : defaulted "max_output_tokens" none (nullable lax.readInt) (requestBody request) =
      some request.max_output_tokens := by
    apply defaulted_nullable Json.int ?_ (nullable_int lax)
    simp [requestBody, List.lookup_append]
  have htools : defaulted "tools" [] (listOf ToolDefinitionSchema.validate) (requestBody request) =
      some (request.tools.map toolSchemaOf) := by
    have hget : (requestBody request).get? "tools" = if request.tools.isEmpty then none else
        some (.arr (request.tools.map fun tool => toolBody (sdkTool tool))) := by
      cases htl : request.tools <;> simp [requestBody, List.lookup_append, htl]
    unfold defaulted
    rw [hget]
    cases request.tools with
    | nil => rfl
    | cons tool rest => exact listOf_map fun t _ => tool_validate t
  have hcache : defaulted "cache" false lax.readBool (requestBody request) = some request.cache := by
    apply flag_read
    simp [requestBody, List.lookup_append]
  have hstream : defaulted "stream" false lax.readBool (requestBody request) = some request.stream := by
    apply flag_read
    simp [requestBody, List.lookup_append]
  have habsent : ∀ key ∈ ["prompt", "context", "rag", "mcp"], (requestBody request).get? key = none := by
    intro key hkey
    simp only [List.mem_cons, List.not_mem_nil, or_false] at hkey
    rcases hkey with rfl | rfl | rfl | rfl <;> simp [requestBody, List.lookup_append]
  have hdefault : ∀ {α : Type} (key : String) (read : Json → Option (Option α)),
      key ∈ ["prompt", "context", "rag", "mcp"] → defaulted key none read (requestBody request) = some none := by
    intro α key read hkey
    unfold defaulted
    rw [habsent key hkey]
  unfold CreateResponseRequest.validate
  rw [if_pos hkeys, hmodel, hmessages, hdefault "prompt" _ (by simp), hdefault "context" _ (by simp), htemperature,
    htokens, hstream, htools, hcache, hdefault "rag" _ (by simp), hdefault "mcp" _ (by simp)]
  exact dif_pos (requestSchemaOf request).valid

theorem request_toDomain (request : GenerationRequest) :
    (requestSchemaOf request).toDomain none none = .ok request := by
  have hmessages : (request.messages.map messageSchemaOf).mapM MessageSchema.toDomain = .ok request.messages :=
    mapM_written message_toDomain request.messages
  have htools : (request.tools.map toolSchemaOf).mapM ToolDefinitionSchema.toDomain = .ok request.tools :=
    mapM_written tool_toDomain request.tools
  unfold CreateResponseRequest.toDomain requestSchemaOf
  simp only [Option.getD_some, hmessages, htools]
  exact validated_ok request.ok

end Requests

/-- Every message comes back from the SDK as it was; and every call of the SDK that gives the values of a valid
request sends a body that the service accepts as that request. -/
theorem conversation_round_trip (lax sdk_lax : Lax PyFloat) :
    (∀ m : Message, throughTheSdk m = some (.ok m)) ∧
      ∀ (request : GenerationRequest) (messages : List (Input SdkMessage))
        (tools : Option (List (Input SdkToolDefinition))), Gives messages tools request →
        ∃ body parsed, buildResponsePayload sdk_lax request.model (some messages) none none request.temperature
            request.max_output_tokens tools request.cache request.stream = some body ∧
          CreateResponseRequest.validate lax body = some parsed ∧ parsed.toDomain none none = .ok request :=
  ⟨throughTheSdk_eq, fun request _ _ h => ⟨requestBody request, requestSchemaOf request, build_body sdk_lax h,
    request_validate lax request, request_toDomain request⟩⟩

section Samples

/-- A validator that accepts no value of another type. -/
def strict : Lax PyFloat := ⟨fun _ => none, fun _ => none, fun _ => none⟩

def weatherTool : ToolDefinition := ⟨"get_weather", "", [("type", .str "object")], by decide⟩

def question : Message := ⟨.user, "How warm is it?", none, none, [], by decide⟩

def answer : Message := ⟨.tool, "72", some "call_1", some "get_weather", [], by decide⟩

def asked : Message := ⟨.assistant, "", none, none, [⟨"call_1", "get_weather", "\x7b\x7d", by decide⟩], by decide⟩

def toolRequest : GenerationRequest :=
  ⟨"gpt-4o", [question, asked, answer], some ⟨"0.5", by decide⟩, some 100, false, [weatherTool], true, by decide +kernel⟩

/-- The question is given as a mapping, the rest as models. -/
theorem toolRequest_sent :
    throughTheSdk asked = some (.ok asked) ∧
      ∃ body parsed, buildResponsePayload strict "gpt-4o"
          (some [.mapping (.obj [("role", .str "user"), ("content", .str "How warm is it?")]),
            .model (sdkMessage asked), .model (sdkMessage answer)])
          none none (some ⟨"0.5", by decide⟩) (some 100) (some [.model (sdkTool weatherTool)]) true false = some body ∧
        CreateResponseRequest.validate strict body = some parsed ∧ parsed.toDomain none none = .ok toolRequest :=
  ⟨(conversation_round_trip strict strict).1 asked,
    (conversation_round_trip strict strict).2 toolRequest _ (some [.model (sdkTool weatherTool)]) ⟨rfl, rfl⟩⟩

end Samples

end AIRuntime.ConversationRoundTrip
