import AIRuntime.ClientRuns
import AIRuntime.PromptRuns

set_option autoImplicit false

/-! The calls of the SDK that create and list prompts: what `api/routes/prompts.py` is sent, and what comes back. -/
namespace AIRuntime.PromptCalls

open EffectPrograms PythonText Failures JsonText PythonJson JsonLines ModelValidation CivilTime Identifiers
  GenerationContracts
  ResponseSchemas SdkContracts ConversationRoundTrip StreamFrames PromptRecords RequestPipeline AccessControl
  ErrorEnvelopes SdkSessions ClientRuns

open AccessRuns (deployment)

section Schemas

/-- Every time of the database is: its offset is a number of whole minutes. -/
def WholeMinutes (time : DateTime) : Prop := 60000000 ∣ time.utcoffset.getD 0

/-- How a time is written as JSON, and what it is read as: the same instant. -/
structure TimeFormat where
  write : DateTime → String
  read : Json → Option DateTime
  seen : DateTime → DateTime
  read_write : ∀ time, read (.str (write time)) = some (seen time)
  seen_instant : ∀ time, WholeMinutes time → (seen time).instant = time.instant

/-- `PromptMessage` of the SDK and `PromptMessageSchema` of the service. -/
structure PromptMessage where
  role : MessageRole
  content : String
deriving DecidableEq

def PromptMessage.toJson (self : PromptMessage) : Json :=
  .obj [("role", .str self.role.value), ("content", .str self.content)]

def PromptMessage.fields (data : Json) : Option PromptMessage := do
  let role ← required "role" readRole data
  let content ← required "content" Json.str? data
  some ⟨role, content⟩

def PromptMessage.validate (data : Json) : Option PromptMessage :=
  if isObject data then PromptMessage.fields data else none

def promptMessageSchema (data : Json) : Option PromptMessage :=
  if onlyKeys ["role", "content"] data then PromptMessage.fields data else none

structure CreatePromptRequest where
  name : String
  messages : List PromptMessage
  ok : name ≠ "" ∧ messages ≠ []

def CreatePromptRequest.validate (data : Json) : Option CreatePromptRequest :=
  if onlyKeys ["name", "messages"] data then do
    let name ← required "name" Json.str? data
    let messages ← required "messages" (listOf promptMessageSchema) data
    if h : name ≠ "" ∧ messages ≠ [] then some ⟨name, messages, h⟩ else none
  else none

structure PromptVersionSchema where
  name : String
  version : ℤ
  messages : List PromptMessage
  variable_names : List String
  created_at : DateTime

def messageOfTemplate (item : PromptMessageTemplate) : PromptMessage := ⟨item.role, item.content⟩

def PromptVersionSchema.fromDomain (template : PromptTemplate) : PromptVersionSchema :=
  ⟨template.name, template.version, template.messages.map messageOfTemplate,
    PromptRendering.sortedPlaceholders template, template.created_at⟩

def PromptVersionSchema.toJson (times : TimeFormat) (self : PromptVersionSchema) : Json :=
  .obj [("name", .str self.name), ("version", .int self.version),
    ("messages", .arr (self.messages.map PromptMessage.toJson)), ("variables", .arr (self.variable_names.map .str)),
    ("created_at", .str (times.write self.created_at))]

def versionsJson (times : TimeFormat) (versions : List PromptVersionSchema) : Json :=
  .obj [("versions", .arr (versions.map (PromptVersionSchema.toJson times)))]

structure PromptVersion where
  name : String
  version : ℤ
  messages : List PromptMessage
  variable_names : List String
  created_at : DateTime
  request_id : Option String

def PromptVersion.validate (lax : Lax PyFloat) (times : TimeFormat) (data : Json) : Option PromptVersion :=
  if isObject data then do
    let name ← required "name" Json.str? data
    let version ← required "version" lax.readInt data
    let messages ← required "messages" (listOf PromptMessage.validate) data
    let variable_names ← required "variables" (listOf Json.str?) data
    let created_at ← required "created_at" times.read data
    let request_id ← defaulted "request_id" none (nullable Json.str?) data
    some ⟨name, version, messages, variable_names, created_at, request_id⟩
  else none

structure PromptList where
  versions : List PromptVersion
  request_id : Option String

def PromptList.validate (lax : Lax PyFloat) (times : TimeFormat) (data : Json) : Option PromptList :=
  if isObject data then do
    let versions ← required "versions" (listOf (PromptVersion.validate lax times)) data
    let request_id ← defaulted "request_id" none (nullable Json.str?) data
    some ⟨versions, request_id⟩
  else none

def createPromptBody (name : String) (models : List PromptMessage) : Json :=
  .obj [("name", .str name), ("messages", .arr (models.map PromptMessage.toJson))]

/-- `build_prompt_payload`; `none` stands for what it raises. -/
def buildPromptPayload (name : String) (messages : List (Input PromptMessage)) : Option Json :=
  if messages.isEmpty then none
  else (messages.mapM (Input.read PromptMessage.validate)).map fun models =>
    createPromptBody name models

end Schemas

section Payloads

theorem readRole_value (role : MessageRole) : readRole (.str role.value) = some role := MessageRole.ofValue_value role

theorem message_fields (message : PromptMessage) : PromptMessage.fields message.toJson = some message := by
  have hrole : required "role" readRole message.toJson = some message.role := readRole_value message.role
  unfold PromptMessage.fields
  rw [hrole]
  rfl

theorem message_validate (message : PromptMessage) : PromptMessage.validate message.toJson = some message :=
  message_fields message

theorem message_schema (message : PromptMessage) : promptMessageSchema message.toJson = some message := by
  have hkeys : onlyKeys ["role", "content"] message.toJson = true := onlyKeys_obj.mpr (by simp)
  unfold promptMessageSchema
  rw [if_pos hkeys]
  exact message_fields message

theorem messages_read {read : Json → Option PromptMessage}
    (h : ∀ message : PromptMessage, read message.toJson = some message)
    (messages : List PromptMessage) : listOf read (.arr (messages.map PromptMessage.toJson)) = some messages := by
  have hread : listOf read (.arr (messages.map PromptMessage.toJson)) = some (messages.map id) :=
    listOf_map fun message _ => h message
  rwa [List.map_id] at hread

theorem texts_read (texts : List String) : listOf Json.str? (.arr (texts.map .str)) = some texts := by
  have hread : listOf Json.str? (.arr (texts.map .str)) = some (texts.map id) := listOf_map fun _ _ => rfl
  rwa [List.map_id] at hread

/-- What the SDK shows of a version, before it adds the correlation id. -/
def shown (times : TimeFormat) (template : PromptTemplate) : PromptVersion :=
  ⟨template.name, template.version, template.messages.map messageOfTemplate,
    PromptRendering.sortedPlaceholders template, times.seen template.created_at, none⟩

theorem version_validate (lax : Lax PyFloat) (times : TimeFormat) (template : PromptTemplate) :
    PromptVersion.validate lax times ((PromptVersionSchema.fromDomain template).toJson times) =
        some (shown times template) := by
  have hmessages : required "messages" (listOf PromptMessage.validate)
      ((PromptVersionSchema.fromDomain template).toJson times) = some (template.messages.map messageOfTemplate) :=
    messages_read message_validate _
  have hvariables : required "variables" (listOf Json.str?)
      ((PromptVersionSchema.fromDomain template).toJson times) = some (PromptRendering.sortedPlaceholders template) :=
    texts_read _
  have hcreated : required "created_at" times.read ((PromptVersionSchema.fromDomain template).toJson times) =
      some (times.seen template.created_at) := times.read_write _
  unfold PromptVersion.validate
  rw [hmessages, hvariables, hcreated]
  rfl

theorem versions_validate (lax : Lax PyFloat) (times : TimeFormat) (templates : List PromptTemplate) :
    PromptList.validate lax times (versionsJson times (templates.map PromptVersionSchema.fromDomain)) =
      some ⟨templates.map (shown times), none⟩ := by
  have hversions : required "versions" (listOf (PromptVersion.validate lax times))
      (versionsJson times (templates.map PromptVersionSchema.fromDomain)) =
      some (templates.map (shown times)) := by
    change listOf _ (.arr ((templates.map PromptVersionSchema.fromDomain).map (PromptVersionSchema.toJson times))) = _
    rw [List.map_map]
    exact listOf_map fun template _ => version_validate lax times template
  unfold PromptList.validate
  rw [hversions]
  rfl

theorem message_valid (message : PromptMessage) : message.toJson.Valid := by
  unfold PromptMessage.toJson
  simp [Json.Valid, Json.ValidMembers]

theorem items_valid {α : Type} {toJson : α → Json} (h : ∀ a, (toJson a).Valid) (items : List α) :
    Json.ValidItems (items.map toJson) := by
  induction items with
  | nil => exact trivial
  | cons a rest ih => exact ⟨h a, ih⟩

theorem version_valid (times : TimeFormat) (version : PromptVersionSchema) : (version.toJson times).Valid := by
  have hmessages := items_valid message_valid version.messages
  have htext : ∀ name : String, (Json.str name).Valid := fun _ => trivial
  have hvariables := items_valid htext version.variable_names
  unfold PromptVersionSchema.toJson
  simp [Json.Valid, Json.ValidMembers, hmessages, hvariables]

theorem versions_valid (times : TimeFormat) (versions : List PromptVersionSchema) :
    (versionsJson times versions).Valid := by
  have hversions := items_valid (version_valid times) versions
  unfold versionsJson
  simp [Json.Valid, Json.ValidMembers, hversions]

theorem createPromptBody_valid (name : String) (models : List PromptMessage) : (createPromptBody name models).Valid := by
  have hmessages := items_valid message_valid models
  unfold createPromptBody
  simp [Json.Valid, Json.ValidMembers, hmessages]

theorem message_dumpable {levels : ℕ} (hlevels : 0 < levels) (message : PromptMessage) :
    dumpable levels message.toJson = true := dumpable_obj hlevels (by simp [dumpable_str])

theorem createPromptBody_dumpable {levels : ℕ} (hlevels : 5 ≤ levels) (name : String) (models : List PromptMessage) :
    dumpable levels (createPromptBody name models) = true := by
  have hmessages : dumpable (levels - 1) (.arr (models.map PromptMessage.toJson)) = true :=
    dumpable_arr (by omega) fun message _ => message_dumpable (by omega) message
  exact dumpable_obj (by omega) (List.forall_mem_cons.mpr ⟨dumpable_str _, List.forall_mem_singleton.mpr hmessages⟩)

theorem version_dumpable {levels : ℕ} (hlevels : 3 ≤ levels) (times : TimeFormat) (version : PromptVersionSchema) :
    dumpable levels (version.toJson times) = shortInt version.version := by
  have hpositive : 0 < levels := by omega
  have hmessages : dumpable (levels - 1) (.arr (version.messages.map PromptMessage.toJson)) = true :=
    dumpable_arr (by omega) fun message _ => message_dumpable (by omega) message
  have hvariables : dumpable (levels - 1) (.arr (version.variable_names.map .str)) = true :=
    dumpable_arr (by omega) fun variable_name _ => dumpable_str variable_name
  have hnumber : dumpable (levels - 1) (.int version.version) = shortInt version.version := by
    unfold dumpable
    rfl
  unfold PromptVersionSchema.toJson
  rw [dumpable]
  simp [dumpableMembers, hpositive, hmessages, hvariables, hnumber, dumpable_str]

theorem versions_dumpable {levels : ℕ} (hlevels : 5 ≤ levels) (times : TimeFormat)
    (versions : List PromptVersionSchema) :
    dumpable levels (versionsJson times versions) = versions.all fun version => shortInt version.version := by
  have hpositive : 0 < levels ∧ 0 < levels - 1 := by omega
  have hitems : dumpableItems (levels - 1 - 1) (versions.map (PromptVersionSchema.toJson times)) =
      versions.all fun version => shortInt version.version := by
    induction versions with
    | nil => simp [dumpableItems]
    | cons version versions ih =>
      rw [List.map_cons, dumpableItems, version_dumpable (by omega), ih, List.all_cons]
  unfold versionsJson
  simp [dumpable, dumpableMembers, hpositive, hitems]

theorem createPromptBody_validate (name : String) (models : List PromptMessage) :
    CreatePromptRequest.validate (createPromptBody name models) =
      if h : name ≠ "" ∧ models ≠ [] then some ⟨name, models, h⟩ else none := by
  have hkeys : onlyKeys ["name", "messages"] (createPromptBody name models) = true := onlyKeys_obj.mpr (by simp)
  have hmessages : required "messages" (listOf promptMessageSchema) (createPromptBody name models) = some models :=
    messages_read message_schema models
  unfold CreatePromptRequest.validate
  rw [if_pos hkeys, hmessages]
  rfl

end Payloads

section Sessions

def postPrompt (self : SdkClient) (writer : JsonWriter) (name : String) (messages : List (Input PromptMessage))
    (request_id : Option String) : Option HttpCall :=
  (buildPromptPayload name messages).bind fun body => self.request writer "/v1/prompts" body none request_id

def promptsRequest (authorization : Option String) (request_id : String) (body : CreatePromptRequest) : HttpRequest :=
  ⟨authorization, request_id,
    .tenant (.postPrompts body.name (body.messages.map fun item => (item.role, item.content)))⟩

/-- The request that the service gets with an id; `none` stands for a `RequestValidationError`. -/
def promptArrived (request_id : String) (call : HttpCall) : Option HttpRequest := do
  let data ← loadsChars call.text
  let body ← CreatePromptRequest.validate data
  some (promptsRequest (call.header? "authorization") request_id body)

/-- What a call of `post_prompts` or `get_prompts` that ended so is answered with. -/
def promptResponse (writer : JsonWriter) (times : TimeFormat) (request_id : String) :
    Except EdgeExn Answer → Option HttpResponse
  | .error err => some (exceptionResponse writer (some request_id) err)
  | .ok (.prompt template) =>
    some (jsonResponse writer request_id 201 ((PromptVersionSchema.fromDomain template).toJson times))
  | .ok (.prompts templates) =>
    some (jsonResponse writer request_id 200 (versionsJson times (templates.map PromptVersionSchema.fromDomain)))
  | .ok _ => none

/-- `Prompts.create`, of the response that `_send` got. -/
def promptCreated (lax : Lax PyFloat) (times : TimeFormat) : HttpResponse → Except AIRuntimeError PromptVersion :=
  received (PromptVersion.validate lax times) fun request_id model =>
    { model with request_id := request_id.or model.request_id }

/-- `Prompts.list`, of the response that `_send` got. -/
def promptsListed (lax : Lax PyFloat) (times : TimeFormat) : HttpResponse → Except AIRuntimeError PromptList :=
  received (PromptList.validate lax times) fun request_id model =>
    { model with request_id := request_id.or model.request_id }

end Sessions

section Calls

variable {D : Type} [LinearOrder D] [Zero D] {self : Deployment} {authorization : Option String} {request_id : String}

def Seen (alone : List (Obs PromptCommand PromptResponse Empty)) (t : List (Obs EdgeCommand (EdgeResponse D) String)) :
    Prop :=
  ∀ c r, .asked c r ∈ alone → .asked (⟨.system, ⟨.prompts, c⟩⟩ : EdgeCommand) r ∈ t

omit [LinearOrder D] [Zero D] in
/-- A route that hands on what a use case of the prompts returns. -/
theorem use_case_split {α X : Type} {f : X → EdgeExn} {p : Prog PromptCommand PromptResponse Empty X α}
    {answer : α → Answer} {t : List (Obs EdgeCommand (EdgeResponse D) String)} {o : Except EdgeExn Answer}
    (h : Prog.Exec ((onPart .prompts f p : Edge D Empty α).lift.bind fun a =>
        (.done (answer a) : Edge D String Answer)) t o) :
    ∃ alone o', Prog.Exec p alone o' ∧ Seen alone t ∧ o = (o'.mapError f).map answer := by
  have hpart : ∀ {t'} {o' : Except EdgeExn α}, Prog.Exec ((onPart .prompts f p : Edge D Empty α).lift) t' o' →
      ∃ alone o'', Prog.Exec p alone o'' ∧ Seen alone t' ∧ o' = o''.mapError f := by
    intro t' o' hlift
    obtain ⟨outer, houter, hpart⟩ := Prog.exec_lift.mp hlift
    obtain ⟨middle, o₁, hmiddle, ho₁, hinner⟩ := Prog.exec_within.mp hpart
    obtain ⟨alone, o₂, halone, ho₂, hexec⟩ := Prog.exec_within.mp hinner
    refine ⟨alone, o₂, hexec, fun c r hmem => ?_, ?_⟩
    · rw [houter, hmiddle, halone]
      exact List.mem_map.mpr ⟨_, List.mem_map.mpr ⟨_, List.mem_map.mpr ⟨_, hmem, rfl⟩, rfl⟩, rfl⟩
    · rw [ho₁, ho₂]
      cases o₂ <;> rfl
  rcases Prog.exec_bind.mp h with ⟨err, ho, hlift⟩ | ⟨a, t₁, t₂, ht, hlift, hdone⟩
  · obtain ⟨alone, o', hexec, hseen, ho'⟩ := hpart hlift
    exact ⟨alone, o', hexec, hseen, by rw [← ho']; exact ho⟩
  · obtain ⟨alone, o', hexec, hseen, ho'⟩ := hpart hlift
    obtain ⟨ht₂, ho⟩ := Prog.exec_done.mp hdone
    refine ⟨alone, o', hexec, ?_, by rw [← ho']; exact ho⟩
    rw [ht, ht₂, List.append_nil]
    exact hseen

omit [LinearOrder D] [Zero D] in
theorem templates_messages {models : List PromptMessage} {templates : List PromptMessageTemplate}
    (h : (models.mapM fun item => PromptMessageTemplate.new item.role item.content) = .ok templates) :
    templates.map messageOfTemplate = models := by
  induction Traversals.mapM_ok_iff.mp h with
  | nil => rfl
  | cons hnew hrest ih =>
    obtain ⟨_, rfl⟩ := of_validated hnew
    rw [List.map_cons, ih (Traversals.mapM_ok_iff.mpr hrest)]
    rfl

/-- A version that is created is of the prompt and has the messages that were given. -/
theorem created_template {organization_id : UUID} {name : String} {templates : List PromptMessageTemplate}
    {alone : List (Obs PromptCommand PromptResponse Empty)} {template : PromptTemplate}
    (h : Prog.Exec (createPromptVersion organization_id name templates) alone (.ok template)) :
    template.organization_id = organization_id ∧ template.name = name ∧ template.messages = templates := by
  have hended := h.told (@PromptRuns.createPromptVersion_spec ⟨.create organization_id name templates, []⟩ _ _ _ rfl)
  cases hended with
  | @created messages row _ hmade hinsert hread =>
    obtain ⟨horganization, hname, rfl⟩ := PromptRuns.Call.create.inj hmade.call
    obtain ⟨horganization', hname', -⟩ := PromptRuns.toDomain_key hread
    refine ⟨horganization'.trans horganization.symm, hname'.trans hname.symm, ?_⟩
    unfold toDomain at hread
    rw [hmade.items, readItems_messageItems] at hread
    obtain ⟨_, rfl⟩ := of_validated hread
    rfl

theorem promptError_refuses (err : PromptRendering.ResolveExn) : Refuses (handleEdgeExn (promptError err)) := by
  cases err with
  | notFound name version => exact refuses_of (by decide)
  | prompt err => exact handlePromptExn_refuses err

theorem posted_answered {name : String} {models : List PromptMessage} (hbody : name ≠ "" ∧ models ≠ [])
    {t : List (Obs EdgeCommand (EdgeResponse D) String)} {o : Except EdgeExn Answer}
    (h : Prog.Exec (handle self (promptsRequest authorization request_id ⟨name, models, hbody⟩)) t o) :
    (∃ err, o = .error err ∧ Refuses (handleEdgeExn err)) ∨ ∃ organization_id alone templates template,
      (models.mapM fun item => PromptMessageTemplate.new item.role item.content) = .ok templates ∧
      Prog.Exec (createPromptVersion organization_id name templates) alone (.ok template) ∧ Seen alone t ∧
      o = .ok (.prompt template) := by
  rcases tenant_split h with ⟨err, ho, -, hrefuses⟩ | ⟨principal, before, inner, ht, -, hroute⟩
  · exact .inl ⟨err, ho, hrefuses⟩
  · have hmap : ((models.map fun item => (item.role, item.content)).mapM fun item =>
        PromptMessageTemplate.new item.1 item.2) =
          models.mapM fun item => PromptMessageTemplate.new item.role item.content := List.mapM_map
    unfold tenantRoute at hroute
    simp only [hmap] at hroute
    cases htemplates : models.mapM fun item => PromptMessageTemplate.new item.role item.content with
    | error err =>
      rw [htemplates] at hroute
      exact .inl ⟨.failed err, (Prog.exec_raise.mp hroute).2, handleExn_refuses err⟩
    | ok templates =>
      rw [htemplates] at hroute
      obtain ⟨alone, o', hexec, hseen, ho⟩ := use_case_split hroute
      cases o' with
      | error err => exact .inl ⟨.prompt err, ho, handlePromptExn_refuses err⟩
      | ok template =>
        refine .inr ⟨principal.organization_id, alone, templates, template, rfl, hexec, fun c r hmem => ?_, ho⟩
        rw [ht]
        exact List.mem_append_right before (hseen c r hmem)

theorem listed_answered {name : String} {t : List (Obs EdgeCommand (EdgeResponse D) String)} {o : Except EdgeExn Answer}
    (h : Prog.Exec (handle self ⟨authorization, request_id, .tenant (.getPrompts name)⟩) t o) :
    (∃ err, o = .error err ∧ Refuses (handleEdgeExn err)) ∨ ∃ organization_id alone templates,
      Prog.Exec (PromptRendering.getPromptVersions organization_id name) alone (.ok templates) ∧ Seen alone t ∧
      o = .ok (.prompts templates) := by
  rcases tenant_split h with ⟨err, ho, -, hrefuses⟩ | ⟨principal, before, inner, ht, -, hroute⟩
  · exact .inl ⟨err, ho, hrefuses⟩
  · obtain ⟨alone, o', hexec, hseen, ho⟩ := use_case_split hroute
    cases o' with
    | error err => exact .inl ⟨promptError err, ho, promptError_refuses err⟩
    | ok templates =>
      refine .inr ⟨principal.organization_id, alone, templates, hexec, fun c r hmem => ?_, ho⟩
      rw [ht]
      exact List.mem_append_right before (hseen c r hmem)

theorem posted_arrives (client : SdkClient) (writer : JsonWriter) (name : String)
    {messages : List (Input PromptMessage)}
    {models : List PromptMessage} (hmodels : messages.mapM (Input.read PromptMessage.validate) = some models)
    (hgiven : messages ≠ []) (header_id : Option String) (request_id : String) :
    ((postPrompt client writer name messages header_id).isSome = true ↔
      ∀ header ∈ buildHeaders client.api_key none header_id, headerText header.2 = true) ∧
    ∀ call, postPrompt client writer name messages header_id = some call →
      call.header? "x-request-id" = header_id ∧
      promptArrived request_id call = if h : name ≠ "" ∧ models ≠ [] then
        some (promptsRequest (some ("Bearer " ++ client.api_key)) request_id ⟨name, models, h⟩) else none := by
  have hpost : postPrompt client writer name messages header_id =
      client.request writer "/v1/prompts" (createPromptBody name models) none header_id := by
    have hsome : messages.isEmpty = false := by simpa using hgiven
    unfold postPrompt buildPromptPayload
    rw [hsome, hmodels]
    rfl
  rw [hpost, request_isSome, createPromptBody_dumpable writer.room]
  refine ⟨⟨And.right, And.intro rfl⟩, fun call hcall => ?_⟩
  obtain ⟨hloads, hauthorization, -, hid⟩ := request_sent (createPromptBody_valid name models) hcall
  refine ⟨hid, ?_⟩
  unfold promptArrived
  rw [hloads]
  change (CreatePromptRequest.validate (createPromptBody name models)).bind _ = _
  rw [createPromptBody_validate, hauthorization]
  by_cases h : name ≠ "" ∧ models ≠ []
  · rw [dif_pos h, dif_pos h]
    rfl
  · rw [dif_neg h, dif_neg h]
    rfl

end Calls

section Results

variable {D : Type} [LinearOrder D] [Zero D] {self : Deployment} {authorization : Option String} {request_id : String}

theorem promptCreated_eq (lax : Lax PyFloat) (writer : JsonWriter) (times : TimeFormat) (hid : request_id ≠ "")
    (template : PromptTemplate) :
    promptCreated lax times (jsonResponse writer request_id 201
        ((PromptVersionSchema.fromDomain template).toJson times)) =
      if shortInt template.version then .ok { shown times template with request_id := some request_id }
      else .error (raisedFor request_id unwritten) := by
  have hwritten := version_dumpable (le_trans (by decide) writer.room) times (PromptVersionSchema.fromDomain template)
  split_ifs with h
  · exact received_model hid writer (by decide) (hwritten.trans h) (version_valid times _) rfl
      (version_validate lax times template)
  · exact received_unwritten hid writer (hwritten.trans (Bool.eq_false_iff.mpr h))

theorem promptsListed_eq (lax : Lax PyFloat) (writer : JsonWriter) (times : TimeFormat) (hid : request_id ≠ "")
    (templates : List PromptTemplate) :
    promptsListed lax times (jsonResponse writer request_id 200
        (versionsJson times (templates.map PromptVersionSchema.fromDomain))) =
      if templates.all fun template => shortInt template.version then
        .ok ⟨templates.map (shown times), some request_id⟩
      else .error (raisedFor request_id unwritten) := by
  have hwritten := versions_dumpable writer.room times (templates.map PromptVersionSchema.fromDomain)
  rw [List.all_map] at hwritten
  split_ifs with h
  · exact received_model hid writer (by decide) (hwritten.trans h) (versions_valid times _) rfl
      (versions_validate lax times templates)
  · exact received_unwritten hid writer (hwritten.trans (Bool.eq_false_iff.mpr h))

/-- What is created by `Prompts.create` is what the caller gave, and what it returns is the version that was created;
else it raises what the service refused the call with. -/
theorem prompt_create_returns (client : SdkClient) (writer : JsonWriter) (times : TimeFormat) (lax : Lax PyFloat)
    (name : String) {messages : List (Input PromptMessage)} {models : List PromptMessage}
    (hmodels : messages.mapM (Input.read PromptMessage.validate) = some models) (hgiven : messages ≠ [])
    (header_id : Option String) (hid : request_id ≠ "") :
    ((postPrompt client writer name messages header_id).isSome = true ↔
      ∀ header ∈ buildHeaders client.api_key none header_id, headerText header.2 = true) ∧
    ∀ call, postPrompt client writer name messages header_id = some call → call.header? "x-request-id" = header_id ∧
      promptArrived request_id call = (if h : name ≠ "" ∧ models ≠ [] then
        some (promptsRequest (some ("Bearer " ++ client.api_key)) request_id ⟨name, models, h⟩) else none) ∧
      ∀ (h : name ≠ "" ∧ models ≠ []) (t : List (Obs EdgeCommand (EdgeResponse D) String)) (o : Except EdgeExn Answer),
        Prog.Exec (handle self (promptsRequest (some ("Bearer " ++ client.api_key)) request_id ⟨name, models, h⟩)) t o →
        ∃ response, promptResponse writer times request_id o = some response ∧
          ((∃ err, o = .error err ∧ promptCreated lax times response = .error (raisedFor request_id err)) ∨
            ∃ organization_id alone templates template,
              (models.mapM fun item => PromptMessageTemplate.new item.role item.content) = .ok templates ∧
              Prog.Exec (createPromptVersion organization_id name templates) alone (.ok template) ∧ Seen alone t ∧
              promptCreated lax times response = if shortInt template.version then
                  .ok ⟨name, template.version, models, PromptRendering.sortedPlaceholders template,
                    times.seen template.created_at, some request_id⟩
                else .error (raisedFor request_id unwritten)) := by
  obtain ⟨hsent, harrives⟩ := posted_arrives client writer name hmodels hgiven header_id request_id
  refine ⟨hsent, fun call hcall => ?_⟩
  obtain ⟨hheader, harrived⟩ := harrives call hcall
  refine ⟨hheader, harrived, fun h t o hrun => ?_⟩
  rcases posted_answered h hrun with ⟨err, rfl, hrefuses⟩ | ⟨organization_id, alone, templates, template, hnew, hexec,
    hseen, rfl⟩
  · exact ⟨_, rfl, .inl ⟨err, rfl, received_refused hid writer hrefuses⟩⟩
  · refine ⟨_, rfl, .inr ⟨organization_id, alone, templates, template, hnew, hexec, hseen, ?_⟩⟩
    obtain ⟨-, hname, hmessages⟩ := created_template hexec
    have hmodel : shown times template = ⟨name, template.version, models, PromptRendering.sortedPlaceholders template,
        times.seen template.created_at, none⟩ := by
      unfold shown
      rw [hname, hmessages, templates_messages hnew]
    have hshown := promptCreated_eq lax writer times hid template
    rw [hmodel] at hshown
    exact hshown

/-- `Prompts.list` returns all that `GetPromptVersions` found, or raises what the service refused the call with. -/
theorem prompts_list_returns (writer : JsonWriter) (times : TimeFormat) (lax : Lax PyFloat) (hid : request_id ≠ "")
    {name : String} {t : List (Obs EdgeCommand (EdgeResponse D) String)} {o : Except EdgeExn Answer}
    (h : Prog.Exec (handle self ⟨authorization, request_id, .tenant (.getPrompts name)⟩) t o) :
    ∃ response, promptResponse writer times request_id o = some response ∧
      ((∃ err, o = .error err ∧ promptsListed lax times response = .error (raisedFor request_id err)) ∨
        ∃ organization_id alone templates,
          Prog.Exec (PromptRendering.getPromptVersions organization_id name) alone (.ok templates) ∧ Seen alone t ∧
          promptsListed lax times response = if templates.all fun template => shortInt template.version then
              .ok ⟨templates.map (shown times), some request_id⟩
            else .error (raisedFor request_id unwritten)) := by
  rcases listed_answered h with ⟨err, rfl, hrefuses⟩ | ⟨organization_id, alone, templates, hexec, hseen, rfl⟩
  · exact ⟨_, rfl, .inl ⟨err, rfl, received_refused hid writer hrefuses⟩⟩
  · exact ⟨_, rfl, .inr ⟨organization_id, alone, templates, hexec, hseen,
      promptsListed_eq lax writer times hid templates⟩⟩

end Results

section Samples

def noonText : String := "2026-03-14T12:00:00Z"

theorem noonText_noInt (n : ℤ) : dumps (.int n) ≠ noonText := by
  intro h
  have hread := loads_dumps (v := .int n) trivial
  have hnone : loads noonText = none := by decide +kernel
  rw [h, hnone] at hread
  cases hread

theorem dawn_ok : fieldsOk 1 1 1 0 0 0 0 = true := by decide

def ofInstant (instant : ℤ) : DateTime := ⟨1, 1, 1, 0, 0, 0, 0, some (86400000000 - instant), dawn_ok⟩

theorem ofInstant_instant (instant : ℤ) : (ofInstant instant).instant = instant := by
  have hday : toOrdinal 1 1 1 = 1 := by decide
  unfold DateTime.instant ofInstant
  simp only [hday, Option.getD_some]
  omega

def noonFormat : TimeFormat where
  write := fun time => if time = ServiceRuns.noon.val then noonText else dumps (.int time.instant)
  read := fun data => data.str?.bind fun text =>
    if text = noonText then some ServiceRuns.noon.val else (loads text).bind fun value => value.int?.map ofInstant
  seen := fun time => if time = ServiceRuns.noon.val then time else ofInstant time.instant
  read_write := by
    intro time
    by_cases h : time = ServiceRuns.noon.val
    · rw [if_pos h, if_pos h, h]
      rfl
    · have hread := loads_dumps (v := .int time.instant) trivial
      rw [if_neg h, if_neg h, Json.str?, Option.bind_some, if_neg (noonText_noInt _), hread]
      rfl
  seen_instant := by
    intro time _
    split_ifs
    · rfl
    · exact ofInstant_instant _

def greetingModels : List PromptMessage := [⟨.user, "Greet {{name}}."⟩]

theorem greetingModels_ok : "greeting" ≠ "" ∧ greetingModels ≠ [] := by decide

def run (request : HttpRequest) : Except EdgeExn Answer × Unit × List (Obs EdgeCommand (EdgeResponse ℕ) String) :=
  (handle deployment request).run (Handler.table edgeAnswers).recording ((), [])

theorem run_exec (request : HttpRequest) : Prog.Exec (handle deployment request) (run request).2.2 (run request).1 :=
  Prog.exec_recorded _ _ _

def greetingPost : HttpRequest :=
  promptsRequest (some ("Bearer " ++ sampleClient.api_key)) "req_1" ⟨"greeting", greetingModels, greetingModels_ok⟩

def greetingGet : HttpRequest := ⟨some "Bearer airt_xxxxxxxx", "req_2", .tenant (.getPrompts "greeting")⟩

theorem greeting_created : (run greetingPost).1.toBool = true ∧
    ∃ call, postPrompt sampleClient compactWriter "greeting" (greetingModels.map .model) (some "req_1") = some call ∧
    ∃ response, promptResponse compactWriter noonFormat "req_1" (run greetingPost).1 = some response ∧
      ((∃ err, (run greetingPost).1 = .error err ∧
          promptCreated strict noonFormat response = .error (raisedFor "req_1" err)) ∨
        ∃ organization_id alone templates template,
          (greetingModels.mapM fun item => PromptMessageTemplate.new item.role item.content) = .ok templates ∧
          Prog.Exec (createPromptVersion organization_id "greeting" templates) alone (.ok template) ∧
          Seen alone (run greetingPost).2.2 ∧
          promptCreated strict noonFormat response = if shortInt template.version then
              .ok ⟨"greeting", template.version, greetingModels, PromptRendering.sortedPlaceholders template,
                noonFormat.seen template.created_at, some "req_1"⟩
            else .error (raisedFor "req_1" unwritten)) := by
  obtain ⟨hsent, hreturns⟩ := @prompt_create_returns ℕ _ _ deployment "req_1" sampleClient compactWriter noonFormat
    strict "greeting" (greetingModels.map .model) greetingModels rfl (List.cons_ne_nil _ _) (some "req_1") (by decide)
  obtain ⟨call, hcall⟩ := Option.isSome_iff_exists.mp (hsent.mpr (by decide))
  obtain ⟨-, -, hrun⟩ := hreturns call hcall
  exact ⟨by decide +kernel, call, hcall, hrun greetingModels_ok _ _ (run_exec greetingPost)⟩

theorem greeting_found : (run greetingGet).1.toBool = true ∧
    ∃ response, promptResponse compactWriter noonFormat "req_2" (run greetingGet).1 = some response ∧
      ((∃ err, (run greetingGet).1 = .error err ∧
          promptsListed strict noonFormat response = .error (raisedFor "req_2" err)) ∨
        ∃ organization_id alone templates,
          Prog.Exec (PromptRendering.getPromptVersions organization_id "greeting") alone (.ok templates) ∧
          Seen alone (run greetingGet).2.2 ∧
          promptsListed strict noonFormat response = if templates.all fun template => shortInt template.version then
              .ok ⟨templates.map (shown noonFormat), some "req_2"⟩
            else .error (raisedFor "req_2" unwritten)) :=
  ⟨by decide +kernel, prompts_list_returns compactWriter noonFormat strict (by decide) (run_exec greetingGet)⟩

end Samples

end AIRuntime.PromptCalls
