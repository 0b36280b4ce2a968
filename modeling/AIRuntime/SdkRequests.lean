import AIRuntime.ConversationRoundTrip
import AIRuntime.JsonValues

set_option autoImplicit false

/-!
Every request body of the SDK, as the service reads it: what a call gives as models or mappings becomes the fields
of a `CreateResponseRequest`, or is refused for one of them.
-/
namespace AIRuntime.SdkRequests

open Traversals JsonText GenerationContracts ModelValidation ResponseSchemas SdkContracts ConversationRoundTrip

section Values

/-- What is given to `Responses.create` or `Responses.stream`. -/
structure CallInputs where
  model : String
  messages : Option (List (Input SdkMessage))
  prompt : Option (Input SdkPromptReference)
  context : Option (Input SdkContext)
  temperature : Option PyFloat
  max_output_tokens : Option ℤ
  tools : Option (List (Input SdkToolDefinition))
  cache : Bool

def CallInputs.payload (self : CallInputs) (lax : Lax PyFloat) (stream : Bool) : Option Json :=
  buildResponsePayload lax self.model self.messages self.prompt self.context self.temperature self.max_output_tokens
    self.tools self.cache stream

/-- The same, as models. -/
structure CallValues where
  model : String
  messages : Option (List SdkMessage)
  prompt : Option SdkPromptReference
  context : Option SdkContext
  temperature : Option PyFloat
  max_output_tokens : Option ℤ
  tools : List SdkToolDefinition
  cache : Bool
  stream : Bool

/-- Either the messages or a prompt, and some messages: else the SDK raises. -/
def CallInputs.values (self : CallInputs) (lax : Lax PyFloat) (stream : Bool) : Option CallValues := do
  if self.messages.isNone = self.prompt.isNone then none
  else if self.messages.any (·.isEmpty) then none
  else
    let messages ← self.messages.mapM fun items => items.mapM (Input.read SdkMessage.validate)
    let prompt ← self.prompt.mapM (Input.read (SdkPromptReference.validate lax))
    let context ← self.context.mapM (Input.read (SdkContext.validate lax))
    let tools ← (self.tools.getD []).mapM (Input.read SdkToolDefinition.validate)
    some ⟨self.model, messages, prompt, context, self.temperature, self.max_output_tokens, tools, self.cache, stream⟩

def promptBody (model : SdkPromptReference) : Json :=
  .obj ([("name", .str model.name), ("variables", .obj (model.variable_map.map fun p => (p.1, .str p.2)))] ++
    optionMember "version" .int model.version)

def contextBody (model : SdkContext) : Json :=
  .obj (optionMember "max_input_tokens" .int model.max_input_tokens ++ memberIf "truncate" model.truncate (.bool true))

def callBody (values : CallValues) : Json :=
  .obj ([("model", .str values.model)] ++
    optionMember "messages" (fun messages => .arr (messages.map messageBody)) values.messages ++
    optionMember "prompt" promptBody values.prompt ++ optionMember "context" contextBody values.context ++
    optionMember "temperature" (fun t => .float t.text) values.temperature ++
    optionMember "max_output_tokens" .int values.max_output_tokens ++
    memberIf "tools" (!values.tools.isEmpty) (.arr (values.tools.map toolBody)) ++
    memberIf "cache" values.cache (.bool true) ++ memberIf "stream" values.stream (.bool true))

theorem mapM_option_map {α β γ : Type} (read : α → Option β) (write : β → γ) (l : List α) :
    l.mapM (fun a => (read a).map write) = (l.mapM read).map (List.map write) := by
  induction l with
  | nil => rfl
  | cons a l ih =>
    rw [List.mapM_cons, List.mapM_cons, ih]
    cases read a with
    | none => rfl
    | some b => cases l.mapM read <;> rfl

theorem mapM_length {α β : Type} {read : α → Option β} {l : List α} {bs : List β} (h : l.mapM read = some bs) :
    l.isEmpty = bs.isEmpty := by
  cases l with
  | nil =>
    cases h
    rfl
  | cons a l =>
    rw [List.mapM_cons] at h
    cases ha : read a with
    | none =>
      rw [ha] at h
      cases h
    | some b =>
      rw [ha] at h
      cases hl : l.mapM read with
      | none =>
        rw [hl] at h
        cases h
      | some rest =>
        rw [hl] at h
        cases h
        rfl

theorem payloadOf_map {α β : Type} {payload : α → Option Json} {read : α → Option β} {write : β → Json}
    (h : ∀ a, payload a = (read a).map write) (value : Option α) :
    payloadOf payload value = (value.mapM read).map (Option.map write) := by
  cases value with
  | none => rfl
  | some a =>
    change (payload a).map some = ((read a).map some).map _
    rw [h]
    cases read a <;> rfl

theorem payload_eq (self : CallInputs) (lax : Lax PyFloat) (stream : Bool) :
    self.payload lax stream = (self.values lax stream).map callBody := by
  have hitems : ∀ items : List (Input SdkMessage), (items.mapM messagePayload).map Json.arr =
      (items.mapM (Input.read SdkMessage.validate)).map fun messages => .arr (messages.map messageBody) := by
    intro items
    have hread := mapM_option_map (Input.read SdkMessage.validate) messageBody items
    change (items.mapM messagePayload) = _ at hread
    rw [hread, Option.map_map]
    rfl
  have hmessages : payloadOf (fun items => (items.mapM messagePayload).map .arr) self.messages =
      (self.messages.mapM fun items : List (Input SdkMessage) => items.mapM (Input.read SdkMessage.validate)).map
        (Option.map fun messages => Json.arr (messages.map messageBody)) :=
    payloadOf_map hitems self.messages
  have hprompt : payloadOf (promptReferencePayload lax) self.prompt =
      (self.prompt.mapM (Input.read (SdkPromptReference.validate lax))).map (Option.map promptBody) :=
    payloadOf_map (fun _ => rfl) self.prompt
  have hcontext : payloadOf (contextPayload lax) self.context =
      (self.context.mapM (Input.read (SdkContext.validate lax))).map (Option.map contextBody) :=
    payloadOf_map (fun _ => rfl) self.context
  have htools : (self.tools.getD []).mapM toolPayload =
      ((self.tools.getD []).mapM (Input.read SdkToolDefinition.validate)).map (List.map toolBody) :=
    mapM_option_map _ _ _
  unfold CallInputs.payload CallInputs.values buildResponsePayload
  rw [hmessages, hprompt, hcontext, htools]
  split_ifs
  · rfl
  · rfl
  · cases self.messages.mapM fun items : List (Input SdkMessage) => items.mapM (Input.read SdkMessage.validate) with
    | none => rfl
    | some messages =>
      cases self.prompt.mapM (Input.read (SdkPromptReference.validate lax)) with
      | none => rfl
      | some prompt =>
        cases self.context.mapM (Input.read (SdkContext.validate lax)) with
        | none => rfl
        | some context =>
          cases hread : (self.tools.getD []).mapM (Input.read SdkToolDefinition.validate) with
          | none => rfl
          | some tools =>
            have hempty := mapM_length hread
            cases messages <;> cases prompt <;> cases context <;>
              simp [callBody, optionMember, hempty]

end Values

section Acceptance

variable {α β : Type} (lax : Lax PyFloat)

def acceptCall (call : SdkToolCall) : Option ToolCallSchema := ToolCallSchema.new call.id call.name call.arguments

def acceptMessage (message : SdkMessage) : Option MessageSchema := do
  let tool_calls ← message.tool_calls.mapM acceptCall
  MessageSchema.new message.role message.content message.tool_call_id message.name tool_calls

def acceptPrompt (prompt : SdkPromptReference) : Option PromptReferenceSchema :=
  if h : prompt.name ≠ "" ∧ prompt.version.all (1 ≤ ·) = true then
    some ⟨prompt.name, prompt.version, prompt.variable_map, h⟩
  else none

def acceptContext (context : SdkContext) : Option ContextSchema :=
  if h : context.max_input_tokens.all (0 < ·) = true then some ⟨context.max_input_tokens, context.truncate, h⟩
  else none

def acceptTool (tool : SdkToolDefinition) : Option ToolDefinitionSchema :=
  if h : tool.name ≠ "" then some ⟨tool.name, tool.description, tool.parameters, h⟩ else none

/-- The request with the values of a call, if each of them is one the service takes. -/
def accept (values : CallValues) : Option CreateResponseRequest := do
  let messages ← values.messages.mapM fun items : List SdkMessage => items.mapM acceptMessage
  let prompt ← values.prompt.mapM acceptPrompt
  let context ← values.context.mapM acceptContext
  let tools ← values.tools.mapM acceptTool
  if h : CreateResponseRequest.Valid values.model messages prompt values.temperature values.max_output_tokens then
    some ⟨values.model, messages, prompt, context, values.temperature, values.max_output_tokens, values.stream, tools,
      values.cache, none, none, h⟩
  else none

theorem defaulted_read (write : α → Json) {read : Json → Option β} {accepts : α → Option β} {data : Json}
    {key : String} {value : Option α} (hget : data.get? key = value.map write)
    (hread : ∀ a, nullable read (write a) = (accepts a).map some) :
    defaulted key none (nullable read) data = value.mapM accepts := by
  unfold defaulted
  rw [hget]
  cases value with
  | none => rfl
  | some a => exact hread a

/-- A list that is left out when it is empty is read as it was written, or refused. -/
theorem defaulted_items (write : α → Json) {read : Json → Option β} {accepts : α → Option β} {data : Json}
    {key : String} {items : List α}
    (hget : data.get? key = if items.isEmpty then none else some (.arr (items.map write)))
    (hread : ∀ a, read (write a) = accepts a) : defaulted key [] (listOf read) data = items.mapM accepts := by
  have hall : (fun a => read (write a)) = accepts := funext hread
  unfold defaulted
  rw [hget]
  cases items with
  | nil => rfl
  | cons a items =>
    change ((a :: items).map write).mapM read = _
    rw [List.mapM_map]
    exact congrArg (fun f => (a :: items).mapM f) hall

theorem message_accepted (message : SdkMessage) :
    MessageSchema.validate (messageBody message) = acceptMessage message := by
  have hkeys : onlyKeys ["role", "content", "tool_call_id", "name", "tool_calls"] (messageBody message) = true := by
    apply onlyKeys_obj.mpr
    simp
  have hrole : required "role" readRole (messageBody message) = some message.role := readRole_value message.role
  have hcontent : defaulted "content" "" Json.str? (messageBody message) = some message.content := rfl
  have hid : defaulted "tool_call_id" none (nullable Json.str?) (messageBody message) = some message.tool_call_id := by
    apply defaulted_nullable Json.str ?_ nullable_str
    simp [messageBody, List.lookup_append]
  have hname : defaulted "name" none (nullable Json.str?) (messageBody message) = some message.name := by
    apply defaulted_nullable Json.str ?_ nullable_str
    simp [messageBody, List.lookup_append]
  have hcalls : defaulted "tool_calls" [] (listOf ToolCallSchema.validate) (messageBody message) =
      message.tool_calls.mapM acceptCall := by
    apply defaulted_items toolCallPayload ?_ fun _ => rfl
    cases htools : message.tool_calls <;> simp [messageBody, List.lookup_append, htools]
  unfold MessageSchema.validate
  rw [if_pos hkeys, hrole, hcontent, hid, hname, hcalls]
  rfl

theorem dictOf_str (members : List (String × String)) :
    dictOf Json.str? (.obj (members.map fun p => (p.1, .str p.2))) = some members := by
  unfold dictOf
  induction members with
  | nil => rfl
  | cons p rest ih =>
    simp only [List.map_cons, List.mapM_cons, ih]
    rfl

theorem prompt_accepted (prompt : SdkPromptReference) :
    PromptReferenceSchema.validate lax (promptBody prompt) = acceptPrompt prompt := by
  have hkeys : onlyKeys ["name", "version", "variables"] (promptBody prompt) = true := by
    apply onlyKeys_obj.mpr
    simp
  have hname : required "name" Json.str? (promptBody prompt) = some prompt.name := rfl
  have hversion : defaulted "version" none (nullable lax.readInt) (promptBody prompt) = some prompt.version := by
    apply defaulted_nullable Json.int ?_ (nullable_int lax)
    simp [promptBody]
  have hvariables : defaulted "variables" [] (dictOf Json.str?) (promptBody prompt) = some prompt.variable_map :=
    dictOf_str prompt.variable_map
  unfold PromptReferenceSchema.validate
  rw [if_pos hkeys, hname, hversion, hvariables]
  rfl

theorem context_accepted (context : SdkContext) :
    ContextSchema.validate lax (contextBody context) = acceptContext context := by
  have hkeys : onlyKeys ["max_input_tokens", "truncate"] (contextBody context) = true := by
    apply onlyKeys_obj.mpr
    simp
  have htokens : defaulted "max_input_tokens" none (nullable lax.readInt) (contextBody context) =
      some context.max_input_tokens := by
    apply defaulted_nullable Json.int ?_ (nullable_int lax)
    simp [contextBody, List.lookup_append]
  have htruncate : defaulted "truncate" false lax.readBool (contextBody context) = some context.truncate := by
    apply flag_read
    simp [contextBody, List.lookup_append]
  unfold ContextSchema.validate
  rw [if_pos hkeys, htokens, htruncate]
  rfl

theorem tool_accepted (tool : SdkToolDefinition) :
    ToolDefinitionSchema.validate (toolBody tool) = acceptTool tool := by
  have hparameters : defaulted "parameters" [] (dictOf some) (toolBody tool) = some tool.parameters :=
    dictOf_some tool.parameters
  unfold ToolDefinitionSchema.validate
  rw [hparameters]
  rfl

/-- The service makes of the body of a call what its values are worth. -/
theorem body_accepted (values : CallValues) :
    CreateResponseRequest.validate lax (callBody values) = accept values := by
  have hkeys : onlyKeys ["model", "messages", "prompt", "context", "temperature", "max_output_tokens", "stream",
      "tools", "cache", "rag", "mcp"] (callBody values) = true := by
    apply onlyKeys_obj.mpr
    simp
  have hmodel : required "model" Json.str? (callBody values) = some values.model := rfl
  have hmessages : defaulted "messages" none (nullable (listOf MessageSchema.validate)) (callBody values) =
      values.messages.mapM fun items : List SdkMessage => items.mapM acceptMessage := by
    apply defaulted_read fun messages => .arr (messages.map messageBody)
    · simp [callBody, List.lookup_append]
    · intro items
      change ((items.map messageBody).mapM MessageSchema.validate).map some = _
      rw [List.mapM_map]
      exact congrArg (fun f => (items.mapM f).map some) (funext message_accepted)
  have hprompt : defaulted "prompt" none (nullable (PromptReferenceSchema.validate lax)) (callBody values) =
      values.prompt.mapM acceptPrompt := by
    apply defaulted_read promptBody
    · simp [callBody, List.lookup_append]
    · intro prompt
      rw [← prompt_accepted lax]
      rfl
  have hcontext : defaulted "context" none (nullable (ContextSchema.validate lax)) (callBody values) =
      values.context.mapM acceptContext := by
    apply defaulted_read contextBody
    · simp [callBody, List.lookup_append]
    · intro context
      rw [← context_accepted lax]
      rfl
  have htemperature : defaulted "temperature" none (nullable (lax.readFloat pyFloat)) (callBody values) =
      some values.temperature := by
    apply defaulted_nullable (fun t => Json.float t.text) ?_ (readFloat_text lax)
    simp [callBody, List.lookup_append]
  have htokens : defaulted "max_output_tokens" none (nullable lax.readInt) (callBody values) =
      some values.max_output_tokens := by
    apply defaulted_nullable Json.int ?_ (nullable_int lax)
    simp [callBody, List.lookup_append]
  have hstream : defaulted "stream" false lax.readBool (callBody values) = some values.stream := by
    apply flag_read
    simp [callBody, List.lookup_append]
  have htools : defaulted "tools" [] (listOf ToolDefinitionSchema.validate) (callBody values) =
      values.tools.mapM acceptTool := by
    apply defaulted_items toolBody ?_ tool_accepted
    cases htools : values.tools <;> simp [callBody, List.lookup_append, htools]
  have hcache : defaulted "cache" false lax.readBool (callBody values) = some values.cache := by
    apply flag_read
    simp [callBody, List.lookup_append]
  have hrag : defaulted "rag" none (nullable (RagSchema.validate lax)) (callBody values) = some none := by
    unfold defaulted
    simp [callBody, List.lookup_append]
  have hmcp : defaulted "mcp" none (nullable McpSchema.validate) (callBody values) = some none := by
    unfold defaulted
    simp [callBody, List.lookup_append]
  unfold CreateResponseRequest.validate
  rw [if_pos hkeys, hmodel, hmessages, hprompt, hcontext, htemperature, htokens, hstream, htools, hcache, hrag, hmcp]
  rfl

end Acceptance

section Writing

variable {α : Type}

theorem keys_optionMember (key : String) (write : α → Json) (value : Option α) :
    ((optionMember key write value).map Prod.fst).Sublist [key] := by
  cases value with
  | none => exact List.nil_sublist _
  | some a => exact List.Sublist.refl _

theorem keys_memberIf (key : String) (condition : Bool) (value : Json) :
    ((memberIf key condition value).map Prod.fst).Sublist [key] := by
  cases condition with
  | false => exact List.nil_sublist _
  | true => exact List.Sublist.refl _

/-- Members whose keys are among some distinct ones, in that order, make an object. -/
theorem valid_obj (keys : List String) {members : List (String × Json)} (hkeys : (members.map Prod.fst).Sublist keys)
    (hdistinct : keys.Nodup) (hmembers : ∀ m ∈ members, m.2.Valid) : (Json.obj members).Valid :=
  ⟨hdistinct.sublist hkeys, JsonValues.validMembers_iff.mpr hmembers⟩

theorem messageBody_valid (message : SdkMessage) : (messageBody message).Valid := by
  have hcalls : (Json.arr (message.tool_calls.map toolCallPayload)).Valid := by
    apply JsonValues.validItems_map
    intro call _
    unfold toolCallPayload
    simp [Json.Valid, Json.ValidMembers]
  refine valid_obj ["role", "content", "tool_calls", "tool_call_id", "name"] ?_ (by decide) ?_
  · simp only [List.map_append]
    exact (((List.Sublist.refl _).append (keys_memberIf _ _ _)).append (keys_optionMember _ _ _)).append
      (keys_optionMember _ _ _)
  · simp only [List.forall_mem_append]
    exact ⟨⟨⟨by simp [Json.Valid], forall_memberIf hcalls⟩, forall_optionMember fun _ _ => trivial⟩,
      forall_optionMember fun _ _ => trivial⟩

/-- The dictionaries of a call have distinct keys, as those of Python do. -/
structure CallValues.Dicts (values : CallValues) : Prop where
  prompt : ∀ prompt ∈ values.prompt, (prompt.variable_map.map Prod.fst).Nodup
  tools : ∀ tool ∈ values.tools, (Json.obj tool.parameters).Valid

theorem promptBody_valid {prompt : SdkPromptReference} (h : (prompt.variable_map.map Prod.fst).Nodup) :
    (promptBody prompt).Valid := by
  have hvariables : (Json.obj (prompt.variable_map.map fun p => (p.1, .str p.2))).Valid := by
    refine valid_obj (prompt.variable_map.map Prod.fst) ?_ h ?_
    · rw [List.map_map]
      exact List.Sublist.refl _
    · intro m hm
      obtain ⟨p, -, rfl⟩ := List.mem_map.mp hm
      trivial
  refine valid_obj ["name", "variables", "version"] ?_ (by decide) ?_
  · simp only [List.map_append]
    exact (List.Sublist.refl _).append (keys_optionMember _ _ _)
  · simp only [List.forall_mem_append]
    exact ⟨List.forall_mem_cons.mpr ⟨trivial, List.forall_mem_singleton.mpr hvariables⟩,
      forall_optionMember fun _ _ => trivial⟩

theorem contextBody_valid (context : SdkContext) : (contextBody context).Valid := by
  refine valid_obj ["max_input_tokens", "truncate"] ?_ (by decide) ?_
  · simp only [List.map_append]
    exact (keys_optionMember _ _ _).append (keys_memberIf _ _ _)
  · simp only [List.forall_mem_append]
    exact ⟨forall_optionMember fun _ _ => trivial, forall_memberIf trivial⟩

theorem callBody_valid {values : CallValues} (h : values.Dicts) : (callBody values).Valid := by
  have htools : (Json.arr (values.tools.map toolBody)).Valid := by
    apply JsonValues.validItems_map
    intro tool htool
    refine valid_obj ["name", "description", "parameters"] (List.Sublist.refl _) (by decide) ?_
    exact List.forall_mem_cons.mpr ⟨trivial, List.forall_mem_cons.mpr ⟨trivial,
      List.forall_mem_singleton.mpr (h.tools tool htool)⟩⟩
  have hmessages : ∀ messages : List SdkMessage, (Json.arr (messages.map messageBody)).Valid :=
    fun messages => JsonValues.validItems_map fun message _ => messageBody_valid message
  refine valid_obj ["model", "messages", "prompt", "context", "temperature", "max_output_tokens", "tools",
    "cache", "stream"] ?_ (by decide) ?_
  · simp only [List.map_append]
    exact ((((((((List.Sublist.refl _).append (keys_optionMember _ _ _)).append (keys_optionMember _ _ _)).append
      (keys_optionMember _ _ _)).append (keys_optionMember _ _ _)).append (keys_optionMember _ _ _)).append
      (keys_memberIf _ _ _)).append (keys_memberIf _ _ _)).append (keys_memberIf _ _ _)
  · simp only [List.forall_mem_append]
    exact ⟨⟨⟨⟨⟨⟨⟨⟨by simp [Json.Valid], forall_optionMember fun messages _ => hmessages messages⟩,
      forall_optionMember fun prompt hprompt => promptBody_valid (h.prompt prompt hprompt)⟩,
      forall_optionMember fun context _ => contextBody_valid context⟩, forall_optionMember fun t _ => t.ok⟩,
      forall_optionMember fun _ _ => trivial⟩, forall_memberIf htools⟩, forall_memberIf trivial⟩, forall_memberIf trivial⟩

end Writing

end AIRuntime.SdkRequests
