import AIRuntime.EffectSystems
import AIRuntime.McpTools
import AIRuntime.PromptRendering
import AIRuntime.RequestContext
import AIRuntime.SemanticRetrieval
import AIRuntime.StreamBodies

set_option autoImplicit false

namespace AIRuntime.ResponseSchemas

open Failures GenerationContracts ContextBudget PromptRendering SemanticRetrieval

def PromptReferenceSchema.toDomain (self : PromptReferenceSchema) : Except Exn PromptReference :=
  validated (PromptReference.problem self.name self.version) fun h =>
    ⟨self.name, self.variable_map, self.version, h⟩

def RagSchema.toDomain (self : RagSchema) : Except Exn RagPolicy :=
  RagPolicy.new self.enabled self.query self.top_k self.embedding_model

def ContextSchema.toDomain (self : ContextSchema) : Except Exn ContextPolicy :=
  validated (ContextPolicy.problem self.max_input_tokens) fun h => ⟨self.max_input_tokens, self.truncate, h⟩

namespace CreateResponseRequest

def ragEnabled (self : CreateResponseRequest) : Bool := self.rag.any (·.enabled)

def mcpEnabled (self : CreateResponseRequest) : Bool := self.mcp.any (!·.servers.isEmpty)

def needsContextCheck (self : CreateResponseRequest) : Bool :=
  self.prompt.isSome || self.context.isSome || self.ragEnabled || self.mcpEnabled || !self.tools.isEmpty

end CreateResponseRequest

end AIRuntime.ResponseSchemas

/-!
`post_responses` of `api/routes/responses.py`: what it prepares from the prompts, the knowledge and the tool
servers of an organization, and the use case that then serves the request.
-/
namespace AIRuntime.RequestPipeline

open EffectPrograms PythonText Identifiers Failures GenerationContracts Collaborators ResponseSchemas ContextBudget
  PromptRecords PromptRendering McpTools SemanticRetrieval ResponseCreation StreamBodies

section System

inductive Part where
  | prompts
  | knowledge
  | servers
  | service
deriving DecidableEq

@[reducible]
def PartCommand : Part → Type
  | .prompts => PromptCommand
  | .knowledge => ChunkCommand
  | .servers => McpCommand
  | .service => Command

@[reducible]
def PartResponse (D : Type) : (part : Part) → PartCommand part → Type
  | .prompts => PromptResponse
  | .knowledge => ChunkResponse D
  | .servers => McpResponse
  | .service => Response

/-- `invalidIdempotencyKey` is the `APIError` of the header. -/
inductive PipelineExn where
  | prompt (err : ResolveExn)
  | rag (err : ChunkExn)
  | mcp (err : McpExn)
  | context (err : ContextLimitExceeded)
  | invalidIdempotencyKey (message : String)
  | failed (err : Exn)

abbrev SystemCommand := Joint PartCommand

abbrev Endpoint (D E α : Type) := Prog SystemCommand (JointResponse (PartResponse D)) E PipelineExn α

abbrev SystemObs (D E : Type) := Obs SystemCommand (JointResponse (PartResponse D)) E

def failing {D E α : Type} (result : Except Exn α) : Endpoint D E α := Prog.ofExcept (result.mapError .failed)

end System

section Route

/-- What the route gets injected. -/
structure Application where
  use_case : CreateResponse
  embedders : Embedders
  build_context : BuildContext

structure Principal where
  organization_id : UUID
  api_key_id : UUID

def parseIdempotencyKey (raw : Option String) : Except PipelineExn (Option String) :=
  match raw with
  | none => .ok none
  | some raw =>
    let value := strip raw
    if value = "" then .error (.invalidIdempotencyKey "Idempotency-Key must not be blank.")
    else if !RequestContext.isRequestId value then
      .error (.invalidIdempotencyKey "Idempotency-Key must be 1-128 characters using [A-Za-z0-9._:-].")
    else .ok (some value)

/-- `messages if messages is not None else tuple(item.to_domain() for item in body.messages or [])`. -/
def currentMessages (body : CreateResponseRequest) (messages : Option (List Message)) : Except Exn (List Message) :=
  match messages with
  | some messages => .ok messages
  | none => (body.messages.getD []).mapM MessageSchema.toDomain

variable {D : Type} [LinearOrder D] [Zero D] (self : Application) (principal : Principal) (body : CreateResponseRequest)

omit [LinearOrder D] [Zero D] in
def renderPrompt : Endpoint D Empty (Option (List Message)) :=
  match body.prompt with
  | none => .done none
  | some prompt => do
    let reference ← failing prompt.toDomain
    let messages ← (resolvePrompt principal.organization_id reference).within .prompts .prompt
    .done (some messages)

def retrieve (messages : Option (List Message)) : Endpoint D Empty (Option (List Message)) :=
  match body.rag with
  | none => .done messages
  | some rag =>
    if !rag.enabled then .done messages
    else do
      let current ← failing (currentMessages body messages)
      let policy ← failing rag.toDomain
      let augmented ←
        (augmentMessagesWithRag (D := D) self.embedders principal.organization_id current policy).within .knowledge .rag
      .done (some augmented)

def collectTools : Endpoint D Empty (List ToolDefinition) := do
  let tools ← failing (body.tools.mapM ToolDefinitionSchema.toDomain)
  match body.mcp with
  | none => .done tools
  | some mcp =>
    if mcp.servers.isEmpty then .done tools
    else (resolveToolsForGeneration principal.organization_id tools mcp.servers).within .servers .mcp

def defaultContextPolicy : ContextPolicy := ⟨none, false, rfl⟩

def contextPolicy : Except Exn ContextPolicy :=
  match body.context with
  | some context => context.toDomain
  | none => .ok defaultContextPolicy

def budget (messages : Option (List Message)) (tools : List ToolDefinition) :
    Endpoint D Empty (Option (List Message)) :=
  if !body.needsContextCheck then .done messages
  else do
    let current ← failing (currentMessages body messages)
    let policy ← failing (contextPolicy body)
    match self.build_context.execute body.model current tools body.max_output_tokens policy with
    | .ok messages => .done (some messages)
    | .error err => .raise (.context err)

def commandOf (request_id : String) (idempotency_key_header : Option String) (messages : Option (List Message))
    (tools : List ToolDefinition) : Endpoint D Empty CreateResponseCommand := do
  let request ← failing (body.toDomain messages (some tools))
  let idempotency_key ← Prog.ofExcept (parseIdempotencyKey idempotency_key_header)
  .done ⟨request, request_id, principal.organization_id, principal.api_key_id, idempotency_key⟩

/-- `post_responses` up to its command. -/
def prepare (request_id : String) (idempotency_key_header : Option String) :
    Endpoint D Empty CreateResponseCommand := do
  let rendered ← renderPrompt principal body
  let retrieved ← retrieve self principal body rendered
  let tools ← collectTools principal body
  let budgeted ← budget self body retrieved tools
  commandOf principal body request_id idempotency_key_header budgeted tools

/-- The rest of it: a body that is returned, or frames that are sent. -/
def serve (command : CreateResponseCommand) : Gen String (Option ResponseSchema) :=
  if body.stream then (postStream self.use_case command).bind fun _ => .done none
  else (self.use_case.execute command).lift.bind fun result =>
    match ResponseSchema.fromDomain result with
    | some schema => .done (some schema)
    | none => .raise (.other "ValidationError")

def postResponses (request_id : String) (idempotency_key_header : Option String) :
    Endpoint D String (Option ResponseSchema) :=
  (prepare self principal body request_id idempotency_key_header).lift.bind fun command =>
    (serve self body command).within .service .failed

end Route

end AIRuntime.RequestPipeline
