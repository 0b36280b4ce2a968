import AIRuntime.ApiKeyUseCases
import AIRuntime.RequestPipeline
import AIRuntime.TenantRecords

set_option autoImplicit false

/-!
Who may do what: the bearer credentials of `api/dependencies.py`, and the routes of `api/routes` behind them.
An operator presents a token of the deployment, a tenant a key of its organization.
-/
namespace AIRuntime.AccessControl

open EffectPrograms PythonText Failures Identifiers GenerationContracts ResponseSchemas PromptRecords McpTools
  SemanticRetrieval ApiKeyRecords ApiKeyUseCases TenantRecords RequestPipeline

section Errors

inductive ErrorCode where
  | invalidRequest
  | unauthorized
  | forbidden
  | rateLimited
  | quotaExceeded
  | modelNotAvailable
  | unsupportedModel
  | conflict
  | promptNotFound
  | mcpServerNotFound
  | mcpError
  | organizationNotFound
  | apiKeyNotFound
  | contextLengthExceeded
  | providerError
  | internalError
deriving DecidableEq

/-- No `APIError` that is raised has headers. -/
structure APIError where
  code : ErrorCode
  message : String
  status_code : ℕ
deriving DecidableEq

inductive EdgeExn where
  | api (err : APIError)
  | key (err : KeyExn)
  | registry (err : RegistryExn)
  | prompt (err : PromptExn)
  | promptNotFound (name : String)
  | chunk (err : ChunkExn)
  | mcp (err : McpExn)
  | pipeline (err : PipelineExn)
  | failed (err : Exn)

def unauthorized (message : String) : EdgeExn := .api ⟨.unauthorized, message, 401⟩

def forbidden (message : String) : EdgeExn := .api ⟨.forbidden, message, 403⟩

def unauthorizedMessage : String := "Invalid or missing API key."

def forbiddenSuspendedMessage : String := "Organization is suspended."

def operatorUnauthorizedMessage : String := "Invalid or missing operator credentials."

def operatorForbiddenMessage : String := "This endpoint is restricted to platform operators."

/-- An operator token is not set up. -/
def operatorNotConfigured : EdgeExn := .api ⟨.providerError, "Operator API is not configured.", 503⟩

end Errors

section System

inductive EdgePart where
  | keys
  | listing
  | registry
  | system
deriving DecidableEq

/-- The statement of `list_by_organization` of the keys. -/
inductive ListingCommand where
  | listKeys (organization_id : UUID)

@[reducible]
def ListingResponse : ListingCommand → Type
  | .listKeys _ => Except KeyExn (List ApiKey)

@[reducible]
def EdgePartCommand : EdgePart → Type
  | .keys => KeyCommand
  | .listing => ListingCommand
  | .registry => RegistryCommand
  | .system => SystemCommand

@[reducible]
def EdgePartResponse (D : Type) : (part : EdgePart) → EdgePartCommand part → Type
  | .keys => KeyResponse
  | .listing => ListingResponse
  | .registry => RegistryResponse
  | .system => JointResponse (PartResponse D)

abbrev EdgeCommand := Joint EdgePartCommand

abbrev EdgeResponse (D : Type) := JointResponse (EdgePartResponse D)

abbrev Edge (D E α : Type) := Prog EdgeCommand (EdgeResponse D) E EdgeExn α

variable {D : Type} {α : Type}

def onKeys (p : KeyAction α) : Edge D Empty α := p.within .keys .key

/-- `list_by_organization`. -/
def listKeys (organization_id : UUID) : Edge D Empty (List ApiKey) :=
  ((Prog.ask (ListingCommand.listKeys organization_id)).bind Prog.ofExcept :
    Prog ListingCommand ListingResponse Empty KeyExn (List ApiKey)).within .listing .key

def onRegistry (p : RegistryAction α) : Edge D Empty α := p.within .registry .registry

def onPart {X : Type} (part : Part) (f : X → EdgeExn) (p : Prog (PartCommand part) (PartResponse D part) Empty X α) :
    Edge D Empty α :=
  (p.within part f : Prog SystemCommand (JointResponse (PartResponse D)) Empty EdgeExn α).within .system id

end System

section Credentials

structure Deployment where
  application : Application
  urlparse : UrlParse
  verify_secret : String → String → Bool
  operator_token : String

/-- `value.partition(" ")` without the separator. -/
def partitionSpace (value : String) : String × String :=
  (String.ofList (value.toList.takeWhile (· ≠ ' ')), String.ofList ((value.toList.dropWhile (· ≠ ' ')).drop 1))

def extractBearer (unauthorized_message : String) (authorization : Option String) : Except EdgeExn String :=
  match authorization with
  | none => .error (unauthorized unauthorized_message)
  | some authorization =>
    if isBlank authorization then .error (unauthorized unauthorized_message)
    else
      let (scheme, credentials) := partitionSpace authorization
      if lower scheme ≠ "bearer" ∨ isBlank credentials then .error (unauthorized unauthorized_message)
      else .ok (strip credentials)

/-- `secrets.compare_digest` of texts, which takes ASCII only. -/
def compareDigest (a b : String) : Except Exn Bool :=
  if (a.toList ++ b.toList).all (·.toNat < 128) then .ok (a = b) else .error (.other "TypeError")

variable {D : Type} (self : Deployment) (authorization : Option String)

def getAuthenticatedPrincipal : Edge D Empty AuthenticatedPrincipal := do
  let secret ← Prog.ofExcept (extractBearer unauthorizedMessage authorization)
  match ← (authenticateApiKey self.verify_secret secret).attempt.within .keys .key with
  | .ok principal => .done principal
  | .error .invalidCredentials => .raise (unauthorized unauthorizedMessage)
  | .error (.organizationSuspended _) => .raise (forbidden forbiddenSuspendedMessage)
  | .error err => .raise (.key err)

def requireOperator : Edge D Empty Unit :=
  if strip self.operator_token = "" then .raise operatorNotConfigured
  else do
    let secret ← Prog.ofExcept (extractBearer operatorUnauthorizedMessage authorization)
    if ← Prog.ofExcept ((compareDigest secret (strip self.operator_token)).mapError .failed) then .done ()
    else
      match ← (authenticateApiKey self.verify_secret secret).attempt.within .keys .key with
      | .ok _ => .raise (forbidden operatorForbiddenMessage)
      | .error (.organizationSuspended _) => .raise (forbidden operatorForbiddenMessage)
      | .error .invalidCredentials => .raise (unauthorized operatorUnauthorizedMessage)
      | .error err => .raise (.key err)

end Credentials

section Routes

inductive OperatorRoute where
  | postOrganizations (name slug : String)
  | getOrganizationsById (organization_id : UUID)
  | postApiKeys (organization_id : UUID) (name : Option String)
  | getApiKeys (organization_id : UUID)
  | deleteApiKey (key_id : UUID)
  | postRotateApiKey (key_id : UUID)

inductive TenantRoute where
  | postMcpServers (name url : String) (headers : List (String × String))
  | getMcpServers
  | getMcpServerTools (name : String)
  | postPrompts (name : String) (messages : List (MessageRole × String))
  | getPrompts (name : String)
  | postSemanticChunks (content embedding_model : String)
  | postResponses (body : CreateResponseRequest) (idempotency_key_header : Option String)

inductive Route where
  | operator (route : OperatorRoute)
  | tenant (route : TenantRoute)

structure HttpRequest where
  authorization : Option String
  request_id : String
  route : Route

inductive Answer where
  | organization (organization : Organization)
  | createdKey (result : CreateApiKeyResult)
  | apiKeys (metadata : List ApiKeyMetadata)
  | apiKey (metadata : ApiKeyMetadata)
  | server (server : McpServer)
  | servers (summaries : List McpServerSummary)
  | tools (tools : List ToolDefinition)
  | prompt (template : PromptTemplate)
  | prompts (templates : List PromptTemplate)
  | chunk (chunk : SemanticChunk)
  | response (body : Option ResponseSchema)

variable {D : Type}

/-- `ListApiKeysForOrganization.execute`. -/
def listApiKeys (organization_id : UUID) : Edge D Empty (List ApiKeyMetadata) := do
  match ← onKeys (do Prog.ofExcept (← (KeyCommand.getOrganization organization_id).ask)) with
  | none => .raise (.key (.organizationNotFound organization_id))
  | some _ =>
    let keys ← listKeys organization_id
    .done (keys.map ApiKey.toMetadata)

def promptError : PromptRendering.ResolveExn → EdgeExn
  | .prompt err => .prompt err
  | .notFound name _ => .promptNotFound name

variable [LinearOrder D] [Zero D] (self : Deployment)

def operatorRoute : OperatorRoute → Edge D Empty Answer
  | .postOrganizations name slug => do
    let organization ← onRegistry (createOrganization name slug)
    .done (.organization organization)
  | .getOrganizationsById organization_id => do
    let organization ← onRegistry (getOrganization organization_id)
    .done (.organization organization)
  | .postApiKeys organization_id name => do
    let result ← onKeys (createApiKey ⟨organization_id, name⟩)
    .done (.createdKey result)
  | .getApiKeys organization_id => do
    let metadata ← listApiKeys organization_id
    .done (.apiKeys metadata)
  | .deleteApiKey key_id => do
    let metadata ← onKeys (revokeApiKey key_id)
    .done (.apiKey metadata)
  | .postRotateApiKey key_id => do
    let result ← onKeys (rotateApiKey key_id)
    .done (.createdKey result)

def tenantRoute (request_id : String) (principal : AuthenticatedPrincipal) : TenantRoute → Edge D String Answer
  | .postMcpServers name url headers =>
    (onRegistry (registerMcpServer self.urlparse principal.organization_id name url (some headers))).lift.bind
      fun server => .done (.server server)
  | .getMcpServers =>
    (onRegistry (listMcpServers self.urlparse principal.organization_id)).lift.bind fun summaries =>
      .done (.servers summaries)
  | .getMcpServerTools name =>
    (onPart .servers .mcp (listMcpServerTools principal.organization_id name)).lift.bind fun tools =>
      .done (.tools tools)
  | .postPrompts name messages =>
    match messages.mapM fun item => PromptMessageTemplate.new item.1 item.2 with
    | .error err => .raise (.failed err)
    | .ok messages =>
      (onPart .prompts .prompt (createPromptVersion principal.organization_id name messages)).lift.bind fun template =>
        .done (.prompt template)
  | .getPrompts name =>
    (onPart .prompts promptError (PromptRendering.getPromptVersions principal.organization_id name)).lift.bind
      fun templates => .done (.prompts templates)
  | .postSemanticChunks content embedding_model =>
    (onPart .knowledge .chunk (ingestSemanticChunk (D := D) self.application.embedders
      ⟨principal.organization_id, content, embedding_model⟩)).lift.bind fun chunk => .done (.chunk chunk)
  | .postResponses body idempotency_key_header =>
    ((postResponses self.application ⟨principal.organization_id, principal.api_key_id⟩ body request_id
      idempotency_key_header).within .system .pipeline).bind fun response => .done (.response response)

/-- A request to one of the routes, behind its dependency. -/
def handle (request : HttpRequest) : Edge D String Answer :=
  match request.route with
  | .operator route => (requireOperator self request.authorization).lift.bind fun _ => (operatorRoute route).lift
  | .tenant route =>
    (getAuthenticatedPrincipal self request.authorization).lift.bind fun principal =>
      tenantRoute self request.request_id principal route

end Routes

end AIRuntime.AccessControl
