import AIRuntime.ConversationRoundTrip
import AIRuntime.JsonLines
import AIRuntime.PythonJson

set_option autoImplicit false

/-! Server-sent events: the frames that the route sends, and how the SDK reads them. -/
namespace AIRuntime.StreamFrames

open Traversals PythonText Failures JsonText JsonLines PythonJson GenerationContracts ResponsePayloads ModelValidation
  ResponseSchemas SdkContracts ConversationRoundTrip

section Server

def frameText (event : String) (payload : Json) : String :=
  "event: " ++ event ++ "\ndata: " ++ dumps payload ++ "\n\n"

def sseMessage (event : String) (payload : Json) : Except Exn String :=
  (jsonDumps payload).map fun data => "event: " ++ event ++ "\ndata: " ++ data ++ "\n\n"

def deltaJson (event : GenerationDelta) : Json :=
  .obj [("id", .str event.id), ("model", .str event.model), ("delta", .obj [("content", .str event.content)])]

def formatStreamEvent : GenerationStreamEvent → Except Exn String
  | .delta event => sseMessage "response.delta" (deltaJson event)
  | .response event =>
    match ResponseSchema.fromDomain event with
    | some schema => sseMessage "response.completed" schema.toJson
    | none => .error (.other "ValidationError")

def errorJson (err : ProviderError) (request_id : String) : Json :=
  .obj [("error", .obj [("code", .str "provider_error"), ("message", .str err.message),
    ("request_id", .str request_id)])]

def formatStreamError (err : ProviderError) (request_id : String) : Except Exn String :=
  sseMessage "response.error" (errorJson err request_id)

/-- A correlation id, which `require_request_id` lets through if it is not blank. -/
structure RequestId where
  text : String
  ok : isBlank text = false

/-- What `events()` yields: a frame for each event, and one for the failure the stream ends with. -/
def streamFrames (events : List GenerationStreamEvent) (failure : Option ProviderError) (request_id : RequestId) :
    Except Exn (List String) := do
  let frames ← events.mapM formatStreamEvent
  let closing ← failure.toList.mapM fun err => formatStreamError err request_id.text
  .ok (frames ++ closing)

def bodyText (frames : List String) : List Char := frames.flatMap String.toList

end Server

section Client

structure AIRuntimeError where
  code : String
  message : String
  status_code : ℕ
  request_id : Option String
  retry_after : Option String
deriving DecidableEq

/-- `if isinstance(raw, str) and raw`. -/
def someText (raw : Option Json) : Option String := (raw.bind Json.str?).filter fun text => text ≠ ""

def errorFromBody (payload : Json) (status_code : ℕ) (request_id retry_after : Option String)
    (fallback_message : String) : AIRuntimeError :=
  let error := (payload.get? "error").getD .null
  { code := (someText (error.get? "code")).getD "internal_error"
    message := (someText (error.get? "message")).getD fallback_message
    status_code := status_code
    request_id := (someText (error.get? "request_id")).or request_id
    retry_after := retry_after }

structure SseParser where
  event : String
  data : List String

namespace SseParser

def new : SseParser := ⟨"message", []⟩

def finish (self : SseParser) : SseParser × Option (String × String) :=
  if self.data.isEmpty then (new, none) else (new, some (self.event, "\n".intercalate self.data))

/-- `line.rstrip("\r")`. -/
def rstripReturns (line : List Char) : List Char := (line.reverse.dropWhile (· = '\r')).reverse

/-- What `line.partition(":")` has after the colon, without one space in front. -/
def fieldValue (line : List Char) : List Char :=
  match (line.dropWhile (· ≠ ':')).drop 1 with
  | ' ' :: value => value
  | value => value

def feed (self : SseParser) (raw : List Char) : SseParser × Option (String × String) :=
  let line := rstripReturns raw
  if line = [] then self.finish
  else if line.head? = some ':' then (self, none)
  else if line.takeWhile (· ≠ ':') = "event".toList then
    ({ self with event := String.ofList (fieldValue line) }, none)
  else if line.takeWhile (· ≠ ':') = "data".toList then
    ({ self with data := self.data ++ [String.ofList (fieldValue line)] }, none)
  else (self, none)

/-- `_iter_frames`, from a parser that has read some lines. -/
def iterFrames (self : SseParser) : List (List Char) → List (String × String)
  | [] => self.finish.2.toList
  | line :: lines => (self.feed line).2.toList ++ (self.feed line).1.iterFrames lines

end SseParser

/-- `ResponseDelta | Response`. -/
inductive StreamItem where
  | delta (item : SdkResponseDelta)
  | response (item : SdkResponse)
deriving DecidableEq

def stampRequestId (request_id : Option String) : StreamItem → StreamItem
  | .delta item => .delta { item with request_id := request_id.or item.request_id }
  | .response item => .response { item with request_id := request_id.or item.request_id }

/-- `_DeltaFrame.model_validate`, and the delta made of it. -/
def deltaFrame (payload : Json) : Option SdkResponseDelta := do
  let id ← required "id" Json.str? payload
  let model ← required "model" Json.str? payload
  let content ← required "delta" (required "content" Json.str?) payload
  some ⟨id, model, content, none⟩

def invalidResponse (message : String) (request_id : Option String) : AIRuntimeError :=
  ⟨"invalid_response", message, 200, request_id, none⟩

def parseStreamFrame (lax : Lax PyFloat) (event data : String) (request_id : Option String) :
    Except AIRuntimeError StreamItem :=
  match loads data with
  | none => .error (invalidResponse "Stream event was not JSON." request_id)
  | some payload =>
    let mismatch := invalidResponse "Stream event did not match the API contract." request_id
    if event = "response.error" then .error (errorFromBody payload 200 request_id none "Stream failed.")
    else if !isObject payload then .error (invalidResponse "Stream event was not a JSON object." request_id)
    else if event = "response.delta" then
      match deltaFrame payload with
      | some item => .ok (.delta item)
      | none => .error mismatch
    else if event = "response.completed" then
      match SdkResponse.validate lax payload with
      | some item => .ok (.response item)
      | none => .error mismatch
    else .error (invalidResponse ("Unexpected stream event '" ++ event ++ "'.") request_id)

def requestIdHeader (value : Option String) : Option String := value.filter fun text => text ≠ ""

/-- What the caller of `stream` is given, and the error that ends it if one does. -/
def readFrames (lax : Lax PyFloat) (request_id : Option String) :
    List (String × String) → List StreamItem × Option AIRuntimeError
  | [] => ([], none)
  | frame :: frames =>
    match parseStreamFrame lax frame.1 frame.2 request_id with
    | .error err => ([], some err)
    | .ok item =>
      (stampRequestId request_id item :: (readFrames lax request_id frames).1, (readFrames lax request_id frames).2)

/-- `responses.stream`, of a body and its `x-request-id` header. -/
def readStream (lax : Lax PyFloat) (header : Option String) (body : List Char) :
    List StreamItem × Option AIRuntimeError :=
  readFrames lax (requestIdHeader header) (SseParser.new.iterFrames (splitlines body))

end Client

section Framing

theorem rstrip_line {line : List Char} (h : OneLine line) : SseParser.rstripReturns line = line := by
  have hlast : line.reverse.dropWhile (· = '\r') = line.reverse := by
    cases hrev : line.reverse with
    | nil => rfl
    | cons c t =>
      have hc := h c (List.mem_reverse.mp (hrev ▸ List.mem_cons_self))
      have hne : c ≠ '\r' := by
        rintro rfl
        cases hc
      simp [List.dropWhile, hne]
  unfold SseParser.rstripReturns
  rw [hlast, List.reverse_reverse]

theorem feed_event (self : SseParser) {event : String} (h : OneLine event.toList) :
    self.feed ("event: ".toList ++ event.toList) = ({ self with event := event }, none) := by
  have hline : OneLine ("event: ".toList ++ event.toList) := oneLine_append (oneLine_of_all (by decide)) h
  unfold SseParser.feed
  simp only [rstrip_line hline]
  change ({ self with event := String.ofList event.toList }, none) = _
  rw [String.ofList_toList]

theorem feed_data (self : SseParser) {data : String} (h : OneLine data.toList) :
    self.feed ("data: ".toList ++ data.toList) = ({ self with data := self.data ++ [data] }, none) := by
  have hline : OneLine ("data: ".toList ++ data.toList) := oneLine_append (oneLine_of_all (by decide)) h
  unfold SseParser.feed
  simp only [rstrip_line hline]
  change ({ self with data := self.data ++ [String.ofList data.toList] }, none) = _
  rw [String.ofList_toList]

theorem splitlines_frameText {event : String} {payload : Json} (hevent : OneLine event.toList)
    (hpayload : payload.Valid) (rest : List Char) :
    splitlines ((frameText event payload).toList ++ rest) =
      ("event: ".toList ++ event.toList) :: ("data: ".toList ++ (dumps payload).toList) :: [] :: splitlines rest := by
  have hfirst : OneLine ("event: ".toList ++ event.toList) := oneLine_append (oneLine_of_all (by decide)) hevent
  have hsecond : OneLine ("data: ".toList ++ (dumps payload).toList) :=
    oneLine_append (oneLine_of_all (by decide)) (dumps_oneLine hpayload)
  have htext : (frameText event payload).toList ++ rest =
      ("event: ".toList ++ event.toList) ++ '\n' ::
        (("data: ".toList ++ (dumps payload).toList) ++ '\n' :: ('\n' :: rest)) := by
    unfold frameText
    simp
  rw [htext, splitlines_line hfirst, splitlines_line hsecond, splitlines_newline]

theorem iterFrames_cons (self : SseParser) (line : List Char) (lines : List (List Char)) :
    self.iterFrames (line :: lines) = (self.feed line).2.toList ++ (self.feed line).1.iterFrames lines := rfl

theorem feed_blank (event data : String) :
    (SseParser.mk event [data]).feed [] = (SseParser.new, some (event, data)) := by
  change (SseParser.new, some (event, "\n".intercalate [data])) = _
  simp

theorem iterFrames_frameText {event : String} {payload : Json} (hevent : OneLine event.toList)
    (hpayload : payload.Valid) (rest : List Char) :
    SseParser.new.iterFrames (splitlines ((frameText event payload).toList ++ rest)) =
      (event, dumps payload) :: SseParser.new.iterFrames (splitlines rest) := by
  rw [splitlines_frameText hevent hpayload, iterFrames_cons, feed_event _ hevent, iterFrames_cons,
    feed_data _ (dumps_oneLine hpayload), iterFrames_cons]
  change ((SseParser.mk event [dumps payload]).feed []).2.toList ++ _ = _
  rw [feed_blank]
  change _ ++ ((SseParser.mk event [dumps payload]).feed []).1.iterFrames _ = _
  rw [feed_blank]
  rfl

end Framing

section Payloads

theorem deltaJson_valid (event : GenerationDelta) : (deltaJson event).Valid := by
  unfold deltaJson
  simp [Json.Valid, Json.ValidMembers]

theorem errorJson_valid (err : ProviderError) (request_id : String) : (errorJson err request_id).Valid := by
  unfold errorJson
  simp [Json.Valid, Json.ValidMembers]

theorem toolCalls_valid (calls : List ToolCallSchema) : Json.ValidItems (calls.map ToolCallSchema.toJson) := by
  induction calls with
  | nil => exact trivial
  | cons call rest ih =>
    refine ⟨?_, ih⟩
    unfold ToolCallSchema.toJson
    simp [Json.Valid, Json.ValidMembers]

theorem message_valid (message : MessageSchema) : message.toJson.Valid := by
  unfold MessageSchema.toJson
  cases message.tool_call_id <;> cases message.name <;> cases message.tool_calls.isEmpty <;>
    simp [optionMember, memberIf, Json.Valid, Json.ValidMembers, toolCalls_valid]

theorem usage_valid (usage : TokenUsage) : (usageSchemaJson usage).Valid := by
  unfold usageSchemaJson
  simp [Json.Valid, Json.ValidMembers]

theorem response_valid (response : ResponseSchema) : response.toJson.Valid := by
  have hmessage := message_valid response.output
  unfold ResponseSchema.toJson
  cases response.usage with
  | none => cases response.cached <;> simp [memberIf, Json.Valid, Json.ValidMembers, hmessage]
  | some usage =>
    have husage := usage_valid usage
    cases response.cached <;> simp [memberIf, Json.Valid, Json.ValidMembers, hmessage, husage]

/-- `json.dumps` writes the counts of an event, their total among them. -/
def writable : GenerationStreamEvent → Bool
  | .delta _ => true
  | .response event => event.usage.all fun usage => shortInt usage.total

theorem shortInt_of_le {m n : ℤ} (hm : 0 ≤ m) (hle : m ≤ n) (h : shortInt n = true) : shortInt m = true := by
  rw [shortInt_iff, Nat.pow_eq] at h ⊢
  exact lt_of_le_of_lt (by omega) h

theorem usage_short (usage : TokenUsage) : shortInts (usageSchemaJson usage) = shortInt usage.total := by
  obtain ⟨hinput, houtput⟩ := usage.nonneg
  have htotal : usage.total = usage.input_tokens + usage.output_tokens := rfl
  have heq : shortInts (usageSchemaJson usage) =
      (shortInt usage.input_tokens && (shortInt usage.output_tokens && (shortInt usage.total && true))) := rfl
  rw [heq]
  cases h : shortInt usage.total with
  | false => simp
  | true => rw [shortInt_of_le hinput (by omega) h, shortInt_of_le houtput (by omega) h]; rfl

theorem toolCalls_short (calls : List ToolCallSchema) : shortItems (calls.map ToolCallSchema.toJson) = true := by
  induction calls with
  | nil => rfl
  | cons call rest ih =>
    rw [List.map_cons, shortItems, ih]
    rfl

theorem message_short (message : MessageSchema) : shortInts message.toJson = true := by
  unfold MessageSchema.toJson
  cases message.tool_call_id <;> cases message.name <;> cases message.tool_calls.isEmpty <;>
    simp [optionMember, memberIf, shortInts, shortMembers, toolCalls_short]

theorem response_short (response : ResponseSchema) :
    shortInts response.toJson = response.usage.all fun usage => shortInt usage.total := by
  have hmessage := message_short response.output
  unfold ResponseSchema.toJson
  cases response.usage with
  | none => cases response.cached <;> simp [memberIf, shortInts, shortMembers, hmessage]
  | some usage =>
    have husage := usage_short usage
    cases response.cached <;> simp [memberIf, shortInts, shortMembers, hmessage, husage]

theorem sseMessage_ok {event : String} {payload : Json} (h : shortInts payload = true) :
    sseMessage event payload = .ok (frameText event payload) := by
  unfold sseMessage
  rw [jsonDumps_ok h]
  rfl

def errorFrame (err : ProviderError) (request_id : String) : String :=
  frameText "response.error" (errorJson err request_id)

theorem formatStreamError_ok (err : ProviderError) (request_id : String) :
    formatStreamError err request_id = .ok (errorFrame err request_id) := sseMessage_ok rfl

end Payloads

section Decoding

def sdkUsage (usage : TokenUsage) : SdkTokenUsage := ⟨usage.input_tokens, usage.output_tokens, usage.total⟩

def sdkItem (request_id : Option String) : GenerationStreamEvent → StreamItem
  | .delta event => .delta ⟨event.id, event.model, event.content, request_id⟩
  | .response event =>
    .response ⟨event.id, event.model, sdkMessage event.output, event.usage.map sdkUsage, event.cached, request_id⟩

def responseSchemaOf (response : GenerationResponse) : ResponseSchema :=
  ⟨response.id, response.model, messageSchemaOf response.output, response.usage, response.cached⟩

theorem response_fromDomain (response : GenerationResponse) :
    ResponseSchema.fromDomain response = some (responseSchemaOf response) := by
  unfold ResponseSchema.fromDomain
  rw [message_fromDomain]
  rfl

def frameOf : GenerationStreamEvent → String
  | .delta d => frameText "response.delta" (deltaJson d)
  | .response r => frameText "response.completed" (responseSchemaOf r).toJson

/-- An event is sent as its frame exactly if its counts are written. -/
theorem formatStreamEvent_eq (event : GenerationStreamEvent) : formatStreamEvent event =
    if writable event then .ok (frameOf event) else .error (.other "ValueError") := by
  cases event with
  | delta event => exact sseMessage_ok rfl
  | response event =>
    have hshort : shortInts (responseSchemaOf event).toJson = writable (.response event) :=
      response_short (responseSchemaOf event)
    unfold formatStreamEvent sseMessage jsonDumps
    simp only [response_fromDomain, hshort]
    cases writable (.response event) <;> rfl

theorem response_validate (lax : Lax PyFloat) (response : GenerationResponse) :
    SdkResponse.validate lax (responseSchemaOf response).toJson =
      some ⟨response.id, response.model, sdkMessage response.output, response.usage.map sdkUsage, response.cached,
        none⟩ := by
  have houtput : required "output" SdkMessage.validate (responseSchemaOf response).toJson =
      some (sdkMessage response.output) := (schema_shows response.output).sdk
  have husage : defaulted "usage" none (nullable (SdkTokenUsage.validate lax)) (responseSchemaOf response).toJson =
      some (response.usage.map sdkUsage) := by
    unfold responseSchemaOf
    cases response.usage with
    | none => rfl
    | some usage => rfl
  have hcached : defaulted "cached" false lax.readBool (responseSchemaOf response).toJson = some response.cached := by
    apply flag_read
    unfold responseSchemaOf
    cases response.cached <;> rfl
  have hrequest : defaulted "request_id" none (nullable Json.str?) (responseSchemaOf response).toJson = some none := by
    unfold responseSchemaOf
    cases response.cached <;> rfl
  unfold SdkResponse.validate
  rw [houtput, husage, hcached, hrequest]
  rfl

theorem oneLine_name {event : String} (h : event ∈ ["response.delta", "response.completed", "response.error"]) :
    OneLine event.toList := by
  rcases List.mem_cons.mp h with rfl | h
  · exact oneLine_of_all (by decide)
  · rcases List.mem_cons.mp h with rfl | h
    · exact oneLine_of_all (by decide)
    · rw [List.mem_singleton.mp h]
      exact oneLine_of_all (by decide)

/-- The text holds a message of an event and what else follows: the SDK reads the event first. -/
theorem read_event (lax : Lax PyFloat) (request_id : Option String) (event : GenerationStreamEvent)
    (rest : List Char) :
    readFrames lax request_id (SseParser.new.iterFrames (splitlines ((frameOf event).toList ++ rest))) =
      (sdkItem request_id event :: (readFrames lax request_id (SseParser.new.iterFrames (splitlines rest))).1,
        (readFrames lax request_id (SseParser.new.iterFrames (splitlines rest))).2) := by
  unfold frameOf
  cases event with
  | delta event =>
    have hparse : parseStreamFrame lax "response.delta" (dumps (deltaJson event)) request_id =
        .ok (.delta ⟨event.id, event.model, event.content, none⟩) := by
      unfold parseStreamFrame
      rw [loads_dumps (deltaJson_valid event)]
      rfl
    rw [iterFrames_frameText (oneLine_name (by simp)) (deltaJson_valid event), readFrames, hparse]
    cases request_id <;> rfl
  | response event =>
    have hvalid := response_valid (responseSchemaOf event)
    have hparse : parseStreamFrame lax "response.completed" (dumps (responseSchemaOf event).toJson) request_id =
        .ok (.response ⟨event.id, event.model, sdkMessage event.output, event.usage.map sdkUsage, event.cached,
          none⟩) := by
      unfold parseStreamFrame
      rw [loads_dumps hvalid]
      change (match SdkResponse.validate lax (responseSchemaOf event).toJson with
        | some item => Except.ok (StreamItem.response item)
        | none => _) = _
      rw [response_validate]
    rw [iterFrames_frameText (oneLine_name (by simp)) hvalid, readFrames, hparse]
    cases request_id <;> rfl

theorem read_error (lax : Lax PyFloat) (header : Option String) {err : ProviderError} (request_id : RequestId)
    (hmessage : err.message ≠ "") (rest : List Char) :
    readFrames lax header
        (SseParser.new.iterFrames (splitlines ((errorFrame err request_id.text).toList ++ rest))) =
      ([], some ⟨"provider_error", err.message, 200, some request_id.text, none⟩) := by
  have hid : request_id.text ≠ "" := by
    intro hempty
    have hok := request_id.ok
    rw [hempty] at hok
    cases hok
  have hparse : parseStreamFrame lax "response.error" (dumps (errorJson err request_id.text)) header =
      .error ⟨"provider_error", err.message, 200, some request_id.text, none⟩ := by
    unfold parseStreamFrame
    rw [loads_dumps (errorJson_valid err request_id.text)]
    change Except.error (errorFromBody (errorJson err request_id.text) 200 header none "Stream failed.") = _
    simp [errorFromBody, errorJson, someText, Json.str?, Option.filter, hmessage, hid]
  unfold errorFrame
  rw [iterFrames_frameText (oneLine_name (by simp)) (errorJson_valid err request_id.text), readFrames, hparse]

theorem streamFrames_ok {events : List GenerationStreamEvent} (h : ∀ event ∈ events, writable event = true)
    (failure : Option ProviderError) (request_id : RequestId) : streamFrames events failure request_id =
      .ok (events.map frameOf ++ (failure.map fun err => errorFrame err request_id.text).toList) := by
  have hframes : events.mapM formatStreamEvent = .ok (events.map frameOf) := by
    apply mapM_of_pure
    intro event hevent
    rw [formatStreamEvent_eq, if_pos (h event hevent)]
    rfl
  unfold streamFrames
  rw [hframes]
  cases failure with
  | none => rfl
  | some err =>
    have hclosing : [err].mapM (fun err => formatStreamError err request_id.text) =
        .ok [errorFrame err request_id.text] :=
      mapM_of_pure fun err _ => formatStreamError_ok err request_id.text
    simp only [Option.toList_some, hclosing]
    rfl

/-- The events that the server streams, where their counts are written, and the failure the stream ends with are
what the SDK yields and raises. -/
theorem stream_decodes_to_itself (lax : Lax PyFloat) (header : Option String) (events : List GenerationStreamEvent)
    (failure : Option ProviderError) (request_id : RequestId) (hwritable : ∀ event ∈ events, writable event = true)
    (hfailure : ∀ err ∈ failure, err.message ≠ "") :
    ∃ frames, streamFrames events failure request_id = .ok frames ∧
      readStream lax header (bodyText frames) =
        (events.map (sdkItem (requestIdHeader header)),
          failure.map fun err => ⟨"provider_error", err.message, 200, some request_id.text, none⟩) := by
  refine ⟨_, streamFrames_ok hwritable failure request_id, ?_⟩
  unfold readStream
  clear hwritable
  induction events with
  | nil =>
    cases failure with
    | none => rfl
    | some err =>
      have hread := read_error lax (requestIdHeader header) request_id (hfailure err rfl) []
      simpa [bodyText] using hread
  | cons event events ih =>
    rw [List.map_cons, List.cons_append]
    change readFrames lax _ (SseParser.new.iterFrames (splitlines ((frameOf event).toList ++ bodyText _))) = _
    rw [read_event, ih]
    rfl

def brokenDelta : GenerationDelta := ⟨"resp_1", "gpt-4o", "data: \"a\"\n\r\nevent: \u2028b", by decide⟩

def lostConnection : ProviderError := .transient .openAI "Connection lost\nevent: response.delta"

theorem broken_lines_decode : ∃ frames,
    streamFrames [.delta brokenDelta] (some lostConnection) ⟨"req_1", by decide⟩ = .ok frames ∧
      readStream strict (some "req_1") (bodyText frames) =
        ([.delta ⟨"resp_1", "gpt-4o", brokenDelta.content, some "req_1"⟩],
          some ⟨"provider_error", lostConnection.message, 200, some "req_1", none⟩) :=
  stream_decodes_to_itself strict (some "req_1") [.delta brokenDelta] (some lostConnection) ⟨"req_1", by decide⟩
    (by decide)
    (by
      rintro err ⟨⟩
      decide)

/-- The number that is a nine and `d` zeros. -/
def nineThen (d : ℕ) : ℤ := 9 * 10 ^ d

theorem nineThen_nonneg (d : ℕ) : 0 ≤ nineThen d := by
  unfold nineThen
  positivity

/-- With as many digits as Python writes, it is written, and its double is not. -/
theorem nineThen_short {d : ℕ} (h : d + 1 = maxStrDigits) :
    shortInt (nineThen d) = true ∧ shortInt (nineThen d + nineThen d) = false := by
  have hpos : 0 < (10 : ℕ) ^ d := by positivity
  have habs : (nineThen d).natAbs = 9 * 10 ^ d := by
    unfold nineThen
    simp [Int.natAbs_mul, Int.natAbs_pow]
  have hdouble : (nineThen d + nineThen d).natAbs = 18 * 10 ^ d := by
    have hnonneg := nineThen_nonneg d
    omega
  constructor
  · rw [shortInt_iff, Nat.pow_eq, ← h, habs, pow_succ]
    omega
  · rw [Bool.eq_false_iff, ne_eq, shortInt_iff, Nat.pow_eq, ← h, hdouble, pow_succ]
    omega

def longUsage (d : ℕ) : TokenUsage where
  input_tokens := nineThen d
  output_tokens := nineThen d
  ok := by
    have hcount := not_lt.mpr (nineThen_nonneg d)
    unfold TokenUsage.problem
    rw [if_neg hcount, if_neg hcount]

def longResponse (d : ℕ) : GenerationResponse :=
  ⟨"resp_1", "gpt-4o", ⟨.assistant, "Hi", none, none, [], by decide⟩, some (longUsage d), false, by decide⟩

theorem longResponse_refused {d : ℕ} (h : d + 1 = maxStrDigits) (request_id : RequestId) :
    shortInt (longUsage d).input_tokens = true ∧ shortInt (longUsage d).output_tokens = true ∧
    streamFrames [.response (longResponse d)] none request_id = .error (.other "ValueError") := by
  obtain ⟨hcount, htotal⟩ := nineThen_short h
  refine ⟨hcount, hcount, ?_⟩
  have hwritable : writable (.response (longResponse d)) = false := htotal
  have hframe : formatStreamEvent (.response (longResponse d)) = .error (.other "ValueError") := by
    rw [formatStreamEvent_eq, hwritable]
    rfl
  unfold streamFrames
  rw [List.mapM_cons, hframe]
  rfl

/-- Two counts that are written, whose total is not: the response has no frame. -/
theorem long_total_not_written :
    shortInt (longUsage 4299).input_tokens = true ∧ shortInt (longUsage 4299).output_tokens = true ∧
    streamFrames [.response (longResponse 4299)] none ⟨"req_1", by decide⟩ = .error (.other "ValueError") :=
  longResponse_refused rfl _

end Decoding

end AIRuntime.StreamFrames
