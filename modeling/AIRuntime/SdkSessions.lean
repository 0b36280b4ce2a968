import AIRuntime.ErrorEnvelopes
import AIRuntime.SdkRequests
import AIRuntime.StreamFrames

set_option autoImplicit false

/-!
The two ends of `POST /v1/responses`: the HTTP requests of `ai_runtime_sdk/client.py` as the route gets them, the
route's answers over HTTP, and what the calls of the SDK make of an HTTP response.
-/
namespace AIRuntime.SdkSessions

open PythonText Failures JsonText PythonJson JsonLines ModelValidation ResponseSchemas SdkContracts StreamFrames
  GenerationContracts
  AccessControl ErrorEnvelopes SdkRequests

section Requests

/-- A request as it arrives: the names of its headers are in lower case. -/
structure HttpCall where
  method : String
  url : String
  headers : List (String × String)
  text : List Char

def HttpCall.header? (self : HttpCall) (name : String) : Option String := self.headers.lookup name

def rstripSlashes (text : String) : String := String.ofList (text.toList.reverse.dropWhile (· = '/')).reverse

/-- `AIRuntime`, the client: its key is stripped and not blank. -/
structure SdkClient where
  api_key : String
  base_url : String
  ok : strip api_key = api_key ∧ api_key ≠ ""

theorem strip_strip (text : String) : strip (strip text) = strip text := by
  unfold strip
  rw [String.toList_ofList, TenantRecords.stripChars_stripChars]

/-- `AIRuntime(api_key=.., base_url=..)`; `_require_text` refuses a blank one. -/
def SdkClient.new (api_key base_url : String) : Option SdkClient :=
  if h : strip api_key ≠ "" ∧ strip base_url ≠ "" then
    some ⟨strip api_key, rstripSlashes (strip base_url), strip_strip api_key, h.1⟩
  else none

def buildHeaders (api_key : String) (idempotency_key request_id : Option String) : List (String × String) :=
  [("authorization", "Bearer " ++ api_key), ("accept", "application/json")] ++
    (idempotency_key.map fun key => ("idempotency-key", key)).toList ++
    (request_id.map fun id => ("x-request-id", id)).toList

def isFieldChar (c : Char) : Bool := 0 < c.toNat && c.toNat < 128 && !(c.toNat = 32 || (9 ≤ c.toNat && c.toNat ≤ 13))

/-- The value of a header, which `httpx` encodes as ASCII and `h11` matches against `field_value`. -/
def headerText (value : String) : Bool :=
  value.toList.all (fun c => isFieldChar c || c = ' ' || c = '\t') && value.toList.head?.all isFieldChar &&
    value.toList.getLast?.all isFieldChar

/-- What is sent of `_http.request(..)`; `none` stands for an exception of `json`, `httpx` or `h11`. -/
def SdkClient.request (self : SdkClient) (writer : JsonWriter) (path : String) (body : Json)
    (idempotency_key request_id : Option String) : Option HttpCall :=
  let headers := buildHeaders self.api_key idempotency_key request_id
  if dumpable writer.levels body && headers.all fun header => headerText header.2 then
    some ⟨"POST", self.base_url ++ path, headers, writer.render body⟩
  else none

/-- The request of `Responses.create`, and of `Responses.stream`, which takes neither a key nor the cache. -/
def SdkClient.post (self : SdkClient) (writer : JsonWriter) (lax : Lax PyFloat) (inputs : CallInputs) (stream : Bool)
    (idempotency_key request_id : Option String) : Option HttpCall :=
  (inputs.payload lax stream).bind fun body => self.request writer "/v1/responses" body idempotency_key request_id

def responsesRequest (authorization : Option String) (request_id : String) (body : CreateResponseRequest)
    (header : Option String) : HttpRequest :=
  ⟨authorization, request_id, .tenant (.postResponses body header)⟩

/-- The request that the service gets with an id; `none` stands for a `RequestValidationError`. -/
def arrived (lax : Lax PyFloat) (request_id : String) (call : HttpCall) : Option HttpRequest := do
  let data ← loadsChars call.text
  let body ← CreateResponseRequest.validate lax data
  some (responsesRequest (call.header? "authorization") request_id body (call.header? "idempotency-key"))

end Requests

section Server

/-- `StreamingResponse(events(), media_type="text/event-stream", headers={"Cache-Control": "no-cache"})`, sent through
the middleware. -/
def streamingResponse (request_id : String) (frames : List String) (complete : Bool) : HttpResponse :=
  ⟨200, [("cache-control", "no-cache"), ("content-type", "text/event-stream; charset=utf-8"),
    ("x-request-id", request_id)], bodyText frames, complete⟩

/-- What `json.dumps` raises of a body, in the place of the route. -/
def unwritten : EdgeExn := .failed (.other "ValueError")

/-- A JSON body, sent through the middleware. -/
def jsonResponse (writer : JsonWriter) (request_id : String) (status_code : ℕ) (content : Json) : HttpResponse :=
  if dumpable writer.levels content then
    let response := writer.response status_code content
    { response with headers := response.headers ++ [("x-request-id", request_id)] }
  else exceptionResponse writer (some request_id) unwritten

/-- The body that a call of `post_responses` returns; a call that streams returns none. -/
def answerBody : Answer → Option ResponseSchema
  | .response body => body
  | _ => none

/-- What a call of `post_responses` that sent these frames and ended so is answered with. An exception that ends the
stream once it has started closes the connection. -/
def routeResponse (writer : JsonWriter) (request_id : String) (frames : List String)
    (ended : Except EdgeExn Answer) : HttpResponse :=
  match frames, ended.map answerBody with
  | [], .error err => exceptionResponse writer (some request_id) err
  | [], .ok (some body) => jsonResponse writer request_id 200 body.toJson
  | frames, ended => streamingResponse request_id frames ended.toBool

end Server

section Client

def requestIdOf (response : HttpResponse) : Option String := requestIdHeader (response.header? "x-request-id")

def statusError (response : HttpResponse) : AIRuntimeError :=
  let text := strip (String.ofList response.text)
  errorFromBody ((loadsChars response.text).getD .null) response.status_code (requestIdOf response)
    (response.header? "retry-after") (if text = "" then "HTTP " ++ response.status_code.repr else text)

def raiseForStatus (response : HttpResponse) : Except AIRuntimeError Unit :=
  if response.status_code < 400 then .ok () else .error (statusError response)

def invalidBody (response : HttpResponse) (message : String) : AIRuntimeError :=
  ⟨"invalid_response", message, response.status_code, requestIdOf response, none⟩

/-- `_require_event_stream`; `contains` is `in` of two texts. -/
def requireEventStream (response : HttpResponse) : Except AIRuntimeError Unit :=
  if "text/event-stream".toList <:+: ((response.header? "content-type").getD "").toList then .ok ()
  else .error (invalidBody response "Expected a server-sent event stream.")

def jsonObject (response : HttpResponse) : Except AIRuntimeError Json :=
  match loadsChars response.text with
  | none => .error (invalidBody response "Response was not JSON.")
  | some payload =>
    if isObject payload then .ok payload else .error (invalidBody response "Response was not a JSON object.")

/-- `_parse_model` of the response that `_send` got. -/
def received {M : Type} (validate : Json → Option M) (stamp : Option String → M → M) (response : HttpResponse) :
    Except AIRuntimeError M := do
  raiseForStatus response
  let payload ← jsonObject response
  match validate payload with
  | some model => .ok (stamp (requestIdOf response) model)
  | none => .error (invalidBody response "Response did not match the API contract.")

/-- `Responses.create`, of the response that `_send` got. -/
def created (lax : Lax PyFloat) : HttpResponse → Except AIRuntimeError SdkResponse :=
  received (SdkResponse.validate lax) fun request_id model => { model with request_id := request_id.or model.request_id }

def connectionError : AIRuntimeError := ⟨"connection_error", "Could not reach AI Runtime.", 0, none, none⟩

/-- The lines of a text that is cut off: what follows its last line break waits for more. -/
def brokenLines (text : List Char) : List (List Char) :=
  let text := if text.getLast? = some '\r' then text.dropLast else text
  if text.getLast?.all isLineBreak then splitlines text else (splitlines text).dropLast

def brokenFrames (self : SseParser) : List (List Char) → List (String × String)
  | [] => []
  | line :: lines => (self.feed line).2.toList ++ brokenFrames (self.feed line).1 lines

/-- What the caller of `Responses.stream` is given, and the error that ends it if one does. -/
def streamed (lax : Lax PyFloat) (response : HttpResponse) : List StreamItem × Option AIRuntimeError :=
  if 400 ≤ response.status_code then ([], some (statusError response))
  else match requireEventStream response with
    | .error err => ([], some err)
    | .ok () =>
      if response.complete then readStream lax (response.header? "x-request-id") response.text
      else
        let read := readFrames lax (requestIdOf response) (brokenFrames SseParser.new (brokenLines response.text))
        (read.1, read.2.or (some connectionError))

end Client

end AIRuntime.SdkSessions
