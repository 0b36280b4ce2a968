import AIRuntime.AccessControl
import AIRuntime.JsonValues
import AIRuntime.PythonJson

set_option autoImplicit false

/-!
`api/errors.py` and `api/exception_handlers.py`: the envelope that a client is sent of an exception, by an app whose
`settings.debug` is off.
-/
namespace AIRuntime.ErrorEnvelopes

open PythonText Failures JsonText PythonJson ModelValidation Identifiers PromptRecords PromptRendering McpTools
  SemanticRetrieval
  ApiKeyRecords TenantRecords RequestPipeline AccessControl

section Responses

/-- A response as it arrives: the names of its headers are in lower case, and `complete` says whether the connection
lasted to the end of the body. -/
structure HttpResponse where
  status_code : ℕ
  headers : List (String × String)
  text : List Char
  complete : Bool

def HttpResponse.header? (self : HttpResponse) (name : String) : Option String := self.headers.lookup name

/-- How `JSONResponse` and `httpx` write JSON, with `allow_nan=False`. Both ends have the stack for so many levels. -/
structure JsonWriter where
  levels : ℕ
  room : 5 ≤ levels
  render : Json → List Char
  loads_render : ∀ v : Json, v.Valid → dumpable levels v = true → loadsChars (render v) = some v

/-- Both write with `ensure_ascii=False` and `separators=(",", ":")`. -/
def compactWriter : JsonWriter where
  levels := 100
  room := by decide
  render := dumpsChars plainEscape
  loads_render := fun _ hvalid _ => loadsChars_dumpsChars escapes_plain hvalid

def setHeader (headers : List (String × String)) (name value : String) : List (String × String) :=
  let name := lower name
  if headers.any (·.1 = name) then headers.map fun header => if header.1 = name then (name, value) else header
  else headers ++ [(name, value)]

/-- `JSONResponse(status_code=.., content=..)`, of a content that can be written. -/
def JsonWriter.response (writer : JsonWriter) (status_code : ℕ) (content : Json) : HttpResponse :=
  ⟨status_code, [("content-type", "application/json")], writer.render content, true⟩

end Responses

section Envelope

def codeValue : ErrorCode → String
  | .invalidRequest => "invalid_request"
  | .unauthorized => "unauthorized"
  | .forbidden => "forbidden"
  | .rateLimited => "rate_limited"
  | .quotaExceeded => "quota_exceeded"
  | .modelNotAvailable => "model_not_available"
  | .unsupportedModel => "unsupported_model"
  | .conflict => "conflict"
  | .promptNotFound => "prompt_not_found"
  | .mcpServerNotFound => "mcp_server_not_found"
  | .mcpError => "mcp_error"
  | .organizationNotFound => "organization_not_found"
  | .apiKeyNotFound => "api_key_not_found"
  | .contextLengthExceeded => "context_length_exceeded"
  | .providerError => "provider_error"
  | .internalError => "internal_error"

structure Handling where
  status_code : ℕ
  code : ErrorCode
  message : String
  headers : List (String × String)

/-- `ErrorResponseSchema`; `min_length=1` refuses an empty message. -/
structure ErrorDetailSchema where
  code : ErrorCode
  message : String
  request_id : Option String
  ok : message ≠ ""

def ErrorDetailSchema.new (code : ErrorCode) (message : String) (request_id : Option String) :
    Option ErrorDetailSchema :=
  if h : message ≠ "" then some ⟨code, message, request_id, h⟩ else none

def ErrorDetailSchema.toJson (detail : ErrorDetailSchema) : Json :=
  .obj [("error", .obj ([("code", .str (codeValue detail.code)), ("message", .str detail.message)] ++
    optionMember "request_id" .str detail.request_id))]

theorem detail_dumpable {levels : ℕ} (h : 5 ≤ levels) (detail : ErrorDetailSchema) :
    dumpable levels detail.toJson = true := by
  refine dumpable_obj (by omega) (List.forall_mem_singleton.mpr (dumpable_obj (by omega) ?_))
  refine List.forall_mem_append.mpr ⟨?_, forall_optionMember (P := fun v => dumpable _ v = true)
    fun _ _ => dumpable_str _⟩
  exact List.forall_mem_cons.mpr ⟨dumpable_str _, List.forall_mem_singleton.mpr (dumpable_str _)⟩

/-- What `_error_response` makes of its envelope, which can be written. -/
def enveloped (writer : JsonWriter) (status_code : ℕ) (detail : ErrorDetailSchema) (headers : List (String × String)) :
    HttpResponse :=
  let response := writer.response status_code detail.toJson
  let stamped := match detail.request_id with
    | none => response.headers
    | some request_id => setHeader response.headers "X-Request-ID" request_id
  { response with headers := headers.foldl (fun headers h => setHeader headers h.1 h.2) stamped }

/-- `_error_response`; `none` stands for a `ValidationError`. -/
def errorResponse (writer : JsonWriter) (handling : Handling) (request_id : Option String) : Option HttpResponse :=
  (ErrorDetailSchema.new handling.code handling.message request_id).map fun detail =>
    enveloped writer handling.status_code detail handling.headers

end Envelope

section Handlers

def apiErrorHandler (err : APIError) : Handling := ⟨err.status_code, err.code, err.message, []⟩

def domainValidationErrorHandler (message : String) : Handling := ⟨422, .invalidRequest, message, []⟩

def rateLimitExceededHandler (retry_after_seconds : ℤ) : Handling :=
  ⟨429, .rateLimited, "Rate limit exceeded.", [("Retry-After", toString retry_after_seconds)]⟩

def quotaExceededHandler (retry_after_seconds : ℤ) : Handling :=
  ⟨429, .quotaExceeded, "Monthly token quota exceeded.", [("Retry-After", toString retry_after_seconds)]⟩

def modelNotAvailableHandler : Handling :=
  ⟨403, .modelNotAvailable, "The requested model is not available for this organization.", []⟩

def unsupportedModelHandler : Handling := ⟨400, .unsupportedModel, "The requested model is not supported.", []⟩

def idempotencyConflictHandler : Handling :=
  ⟨409, .conflict, "A request with this Idempotency-Key is already in progress.", []⟩

def organizationNotFoundHandler : Handling := ⟨404, .organizationNotFound, "Organization not found.", []⟩

def organizationSlugConflictHandler (slug : String) : Handling :=
  ⟨409, .conflict, "organization slug already exists: " ++ slug, []⟩

def apiKeyNotFoundHandler : Handling := ⟨404, .apiKeyNotFound, "API key not found.", []⟩

def apiKeyAlreadyRevokedHandler (api_key_id : UUID) : Handling :=
  ⟨409, .conflict, "api key already revoked: " ++ api_key_id.str, []⟩

def mcpServerNotFoundHandler (name : String) : Handling :=
  ⟨404, .mcpServerNotFound, "MCP server not found: " ++ name, []⟩

def mcpServerNameConflictHandler (name : String) : Handling :=
  ⟨409, .conflict, "MCP server name already registered: " ++ name, []⟩

def mcpErrorHandler (message : String) : Handling := ⟨502, .mcpError, message, []⟩

def promptNotFoundHandler : Handling := ⟨404, .promptNotFound, "The requested prompt was not found.", []⟩

def promptVersionConflictHandler : Handling :=
  ⟨409, .conflict, "A prompt version was created concurrently; retry the request.", []⟩

def contextLimitExceededHandler : Handling :=
  ⟨422, .contextLengthExceeded, "The request does not fit the model context window.", []⟩

def providerNotRegisteredHandler : Handling :=
  ⟨503, .providerError, "The selected provider is not registered.", []⟩

def providerErrorHandler (err : ProviderError) : Handling := ⟨502, .providerError, err.message, []⟩

def unhandledErrorHandler : Handling := ⟨500, .internalError, "An unexpected error occurred.", []⟩

end Handlers

section Registration

def handleExn : Exn → Handling
  | .domainValidation message => domainValidationErrorHandler message
  | .unsupportedModel _ => unsupportedModelHandler
  | .modelNotAvailable _ => modelNotAvailableHandler
  | .providerNotRegistered _ => providerNotRegisteredHandler
  | .provider err => providerErrorHandler err
  | .quotaExceeded retry_after_seconds => quotaExceededHandler retry_after_seconds
  | .rateLimitExceeded retry_after_seconds => rateLimitExceededHandler retry_after_seconds
  | .idempotencyConflict => idempotencyConflictHandler
  | .jsonDecode => unhandledErrorHandler
  | .database _ => unhandledErrorHandler
  | .other _ => unhandledErrorHandler

def handleKeyExn : KeyExn → Handling
  | .invalidCredentials => unhandledErrorHandler
  | .organizationSuspended _ => unhandledErrorHandler
  | .organizationNotFound _ => organizationNotFoundHandler
  | .apiKeyNotFound _ => apiKeyNotFoundHandler
  | .alreadyRevoked api_key_id => apiKeyAlreadyRevokedHandler api_key_id
  | .lookup _ => unhandledErrorHandler
  | .failed err => handleExn err

def handleRegistryExn : RegistryExn → Handling
  | .slugConflict slug => organizationSlugConflictHandler slug
  | .nameConflict name => mcpServerNameConflictHandler name
  | .organizationNotFound _ => organizationNotFoundHandler
  | .failed err => handleExn err

def handlePromptExn : PromptExn → Handling
  | .versionConflict => promptVersionConflictHandler
  | .failed err => handleExn err

def handleChunkExn : ChunkExn → Handling
  | .organizationNotFound _ => organizationNotFoundHandler
  | .failed err => handleExn err

def handleMcpExn : McpExn → Handling
  | .serverNotFound name => mcpServerNotFoundHandler name
  | .mcp message => mcpErrorHandler message
  | .failed err => handleExn err

def handlePipelineExn : PipelineExn → Handling
  | .prompt (.notFound _ _) => promptNotFoundHandler
  | .prompt (.prompt err) => handlePromptExn err
  | .rag err => handleChunkExn err
  | .mcp err => handleMcpExn err
  | .context _ => contextLimitExceededHandler
  | .invalidIdempotencyKey message => apiErrorHandler ⟨.invalidRequest, message, 422⟩
  | .failed err => handleExn err

def handleEdgeExn : EdgeExn → Handling
  | .api err => apiErrorHandler err
  | .key err => handleKeyExn err
  | .registry err => handleRegistryExn err
  | .prompt err => handlePromptExn err
  | .promptNotFound _ => promptNotFoundHandler
  | .chunk err => handleChunkExn err
  | .mcp err => handleMcpExn err
  | .pipeline err => handlePipelineExn err
  | .failed err => handleExn err

/-- A handler that raises leaves the exception to `unhandled_error_handler`. -/
def settled (handling : Handling) : Handling := if handling.message = "" then unhandledErrorHandler else handling

theorem settled_message (handling : Handling) : (settled handling).message ≠ "" := by
  unfold settled
  split_ifs with h
  · decide
  · exact h

/-- The response to an exception that nothing was sent before. -/
def exceptionResponse (writer : JsonWriter) (request_id : Option String) (err : EdgeExn) : HttpResponse :=
  let handling := settled (handleEdgeExn err)
  enveloped writer handling.status_code ⟨handling.code, handling.message, request_id, settled_message _⟩ handling.headers

/-- It is what the handlers make: the one of the exception, or else the one of its failure. -/
theorem exceptionResponse_eq (writer : JsonWriter) (request_id : Option String) (err : EdgeExn) :
    some (exceptionResponse writer request_id err) =
      (errorResponse writer (handleEdgeExn err) request_id).or (errorResponse writer unhandledErrorHandler request_id) := by
  unfold exceptionResponse errorResponse ErrorDetailSchema.new settled
  by_cases h : (handleEdgeExn err).message = ""
  · have hunhandled : unhandledErrorHandler.message ≠ "" := by decide
    simp [h, hunhandled]
  · simp [h]

end Registration

end AIRuntime.ErrorEnvelopes
