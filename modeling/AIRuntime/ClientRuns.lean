import AIRuntime.AccessRuns
import AIRuntime.SdkSessions

set_option autoImplicit false

/-! What the callers of the SDK are shown of the runs of `POST /v1/responses`. -/
namespace AIRuntime.ClientRuns

open EffectPrograms PythonText Failures JsonText PythonJson JsonLines ModelValidation ModelRouting Collaborators
  GenerationContracts
  ResponseSchemas SdkContracts ConversationRoundTrip StreamFrames StreamBodies ResponseCreation RequestPipeline CallEntry
  AccessControl ErrorEnvelopes SdkRequests SdkSessions

open AccessRuns (deployment)

section Errors

/-- Every handler but that of `APIError` answers with an HTTP error, and with no header but `Retry-After`. -/
structure Refuses (handling : Handling) : Prop where
  status : 400 ≤ handling.status_code
  headers : handling.headers = [] ∨ ∃ seconds, handling.headers = [("Retry-After", seconds)]

theorem refuses_of {status_code : ℕ} {code : ErrorCode} {message : String} (h : 400 ≤ status_code) :
    Refuses ⟨status_code, code, message, []⟩ := ⟨h, .inl rfl⟩

theorem refuses_unhandled : Refuses unhandledErrorHandler := refuses_of (by decide)

theorem handleExn_refuses (err : Exn) : Refuses (handleExn err) := by
  cases err with
  | quotaExceeded n => exact ⟨Nat.le_of_ble_eq_true rfl, .inr ⟨_, rfl⟩⟩
  | rateLimitExceeded n => exact ⟨Nat.le_of_ble_eq_true rfl, .inr ⟨_, rfl⟩⟩
  | _ => exact refuses_of (by decide)

theorem handleKeyExn_refuses (err : ApiKeyRecords.KeyExn) : Refuses (handleKeyExn err) := by
  cases err with
  | failed err => exact handleExn_refuses err
  | _ => exact refuses_of (by decide)

theorem handlePromptExn_refuses (err : PromptRecords.PromptExn) : Refuses (handlePromptExn err) := by
  cases err with
  | versionConflict => exact refuses_of (by decide)
  | failed err => exact handleExn_refuses err

theorem handlePipelineExn_refuses (err : PipelineExn) : Refuses (handlePipelineExn err) := by
  cases err with
  | prompt err =>
    cases err with
    | notFound name version => exact refuses_of (by decide)
    | prompt err => exact handlePromptExn_refuses err
  | rag err =>
    cases err with
    | organizationNotFound organization_id => exact refuses_of (by decide)
    | failed err => exact handleExn_refuses err
  | mcp err =>
    cases err with
    | serverNotFound name => exact refuses_of (by decide)
    | mcp message => exact refuses_of (by decide)
    | failed err => exact handleExn_refuses err
  | context err => exact refuses_of (by decide)
  | invalidIdempotencyKey message => exact refuses_of (Nat.le_of_ble_eq_true rfl)
  | failed err => exact handleExn_refuses err

theorem settled_refuses {handling : Handling} (h : Refuses handling) : Refuses (settled handling) := by
  unfold settled
  split_ifs
  · exact refuses_unhandled
  · exact h

def raisedFor (request_id : String) (err : EdgeExn) : AIRuntimeError :=
  let handling := settled (handleEdgeExn err)
  ⟨codeValue handling.code, handling.message, handling.status_code, some request_id,
    handling.headers.lookup "Retry-After"⟩

theorem detail_valid (detail : ErrorDetailSchema) : detail.toJson.Valid := by
  unfold ErrorDetailSchema.toJson
  cases detail.request_id <;> simp [optionMember, Json.Valid, Json.ValidMembers]

theorem codeValue_ne (code : ErrorCode) : codeValue code ≠ "" := by
  cases code <;> decide

theorem statusError_enveloped (writer : JsonWriter) {handling : Handling} (h : Refuses handling)
    (hmessage : handling.message ≠ "") {request_id : String} (hid : request_id ≠ "") :
    statusError (enveloped writer handling.status_code ⟨handling.code, handling.message, some request_id, hmessage⟩
        handling.headers) =
      ⟨codeValue handling.code, handling.message, handling.status_code, some request_id,
        handling.headers.lookup "Retry-After"⟩ := by
  have hcode := codeValue_ne handling.code
  unfold statusError enveloped JsonWriter.response
  simp only [writer.loads_render _ (detail_valid _) (detail_dumpable writer.room _)]
  rcases h.headers with hheaders | ⟨seconds, hheaders⟩ <;>
    simp [hheaders, errorFromBody, ErrorDetailSchema.toJson, optionMember, someText, Json.str?, Option.filter, hcode,
      hmessage, hid, HttpResponse.header?, setHeader, lower, List.lookup_cons]

end Errors

section Requests

theorem isBlank_strip {text : String} (h : strip text = text) (hne : text ≠ "") : isBlank text = false := by
  cases hblank : isBlank text with
  | false => rfl
  | true => exact absurd (h.symm.trans ((isBlank_iff_strip text).mp hblank)) hne

theorem extractBearer_client (client : SdkClient) (message : String) :
    extractBearer message (some ("Bearer " ++ client.api_key)) = .ok client.api_key := by
  have hparts : partitionSpace ("Bearer " ++ client.api_key) = ("Bearer", client.api_key) := by
    unfold partitionSpace
    rw [String.toList_append]
    change (String.ofList "Bearer".toList, String.ofList client.api_key.toList) = _
    rw [String.ofList_toList, String.ofList_toList]
  have hscheme : lower "Bearer" = "bearer" := by decide
  have hblank := isBlank_strip client.ok.1 client.ok.2
  have hheader : isBlank ("Bearer " ++ client.api_key) = false := by
    unfold isBlank
    rw [String.toList_append, List.all_append]
    have hword : "Bearer ".toList.all isSpace = false := by decide
    rw [hword, Bool.false_and]
  unfold extractBearer
  simp only [hheader, hparts, hscheme, hblank, client.ok.1]
  rfl

theorem buildHeaders_lookup (api_key : String) (idempotency_key request_id : Option String) :
    (buildHeaders api_key idempotency_key request_id).lookup "authorization" = some ("Bearer " ++ api_key) ∧
      (buildHeaders api_key idempotency_key request_id).lookup "idempotency-key" = idempotency_key ∧
      (buildHeaders api_key idempotency_key request_id).lookup "x-request-id" = request_id := by
  unfold buildHeaders
  cases idempotency_key <;> cases request_id <;> simp [List.lookup_cons]

/-- A request is sent if its body and all of its headers can be written. -/
theorem request_isSome {client : SdkClient} {writer : JsonWriter} {path : String} {body : Json}
    {idempotency_key request_id : Option String} :
    (client.request writer path body idempotency_key request_id).isSome = true ↔ dumpable writer.levels body = true ∧
      ∀ header ∈ buildHeaders client.api_key idempotency_key request_id, headerText header.2 = true := by
  unfold SdkClient.request
  simp only
  split_ifs with h
  · simpa using h
  · simpa using h

theorem request_sent {client : SdkClient} {writer : JsonWriter} {path : String} {body : Json}
    {idempotency_key request_id : Option String} {call : HttpCall} (hvalid : body.Valid)
    (h : client.request writer path body idempotency_key request_id = some call) :
    loadsChars call.text = some body ∧ call.header? "authorization" = some ("Bearer " ++ client.api_key) ∧
      call.header? "idempotency-key" = idempotency_key ∧ call.header? "x-request-id" = request_id := by
  unfold SdkClient.request at h
  simp only at h
  split_ifs at h with hwritten
  cases h
  exact ⟨writer.loads_render body hvalid (Bool.and_eq_true_iff.mp hwritten).1, buildHeaders_lookup _ _ _⟩

def promptInputs : CallInputs :=
  ⟨"gpt-4o", none, some (.model ⟨"greeting", some 2, [("name", "Ada")]⟩), some (.model ⟨some 4000, true⟩), none, some 100,
    none, true⟩

theorem sampleKey_stripped : strip "airt_xxxxxxxx" = "airt_xxxxxxxx" ∧ "airt_xxxxxxxx" ≠ "" := by decide

def sampleClient : SdkClient := ⟨"airt_xxxxxxxx", "https://runtime.example", sampleKey_stripped⟩

/-- A call of the SDK is sent if its values and its headers can be written, and then it is what the service gets, or
the service refuses one of the values: as JSON nothing is lost or altered. -/
theorem call_arrives (client : SdkClient) (writer : JsonWriter) (lax sdk_lax : Lax PyFloat) (inputs : CallInputs)
    (stream : Bool) (idempotency_key header_id : Option String) {values : CallValues}
    (hvalues : inputs.values sdk_lax stream = some values) (hdicts : values.Dicts) (request_id : String) :
    ((client.post writer sdk_lax inputs stream idempotency_key header_id).isSome = true ↔
      dumpable writer.levels (callBody values) = true ∧
        ∀ header ∈ buildHeaders client.api_key idempotency_key header_id, headerText header.2 = true) ∧
    ∀ call, client.post writer sdk_lax inputs stream idempotency_key header_id = some call →
      arrived lax request_id call = ((accept values).map fun body =>
        responsesRequest (some ("Bearer " ++ client.api_key)) request_id body idempotency_key) ∧
      call.header? "x-request-id" = header_id ∧
      extractBearer unauthorizedMessage (call.header? "authorization") = .ok client.api_key := by
  have hpost : client.post writer sdk_lax inputs stream idempotency_key header_id =
      client.request writer "/v1/responses" (callBody values) idempotency_key header_id := by
    unfold SdkClient.post
    rw [payload_eq, hvalues]
    rfl
  rw [hpost]
  refine ⟨request_isSome, fun call hcall => ?_⟩
  obtain ⟨hloads, hauthorization, hkey, hid⟩ := request_sent (callBody_valid hdicts) hcall
  refine ⟨?_, hid, ?_⟩
  · unfold arrived
    rw [hloads]
    change (CreateResponseRequest.validate lax (callBody values)).bind _ = _
    rw [body_accepted, hauthorization, hkey]
    cases accept values <;> rfl
  · rw [hauthorization]
    exact extractBearer_client client unauthorizedMessage

/-- A prompt is asked for by a client. -/
theorem prompt_arrives : ∃ call,
    sampleClient.post compactWriter strict promptInputs false (some "key-1") (some "req_1") = some call ∧
      arrived strict "req_1" call = ((accept ⟨"gpt-4o", none, some ⟨"greeting", some 2, [("name", "Ada")]⟩,
        some ⟨some 4000, true⟩, none, some 100, [], true, false⟩).map fun body =>
          responsesRequest (some ("Bearer " ++ sampleClient.api_key)) "req_1" body (some "key-1")) ∧
      call.header? "x-request-id" = some "req_1" ∧
      extractBearer unauthorizedMessage (call.header? "authorization") = .ok sampleClient.api_key := by
  obtain ⟨hsent, harrives⟩ := call_arrives sampleClient compactWriter strict strict promptInputs false (some "key-1")
    (some "req_1") rfl ⟨fun prompt h => by cases h; decide, fun tool h => by cases h⟩ "req_1"
  obtain ⟨call, hcall⟩ := Option.isSome_iff_exists.mp (hsent.mpr ⟨by decide, by decide⟩)
  exact ⟨call, hcall, harrives call hcall⟩

end Requests

section Bodies

variable {self : CreateResponse} {command : CreateResponseCommand} {route : ModelRoute}

/-- How the stream ends for the one who reads it, when these events are left: as its attempt does, or because the
response that comes next cannot be accounted for. -/
def Ends (rest : List GenerationStreamEvent) (ending ended : Except Exn Unit) : Prop :=
  (rest = [] ∧ ended = ending) ∨ ∃ response more err, rest = .response response :: more ∧ ended = .error err

/-- What the frames of a body are made of: the first events of its attempt, and what closes it. -/
structure Sends (command : CreateResponseCommand) (events : List GenerationStreamEvent) (ending : Except Exn Unit)
    (frames : List String) (o : Except Exn Unit) (shown rest : List GenerationStreamEvent)
    (ended : Except Exn Unit) : Prop where
  events : events = shown ++ rest
  ends : Ends rest ending ended
  frames : frames = shown.map frameOf ++ closingFrames command.request_id ended
  outcome : o = leftOver ended

theorem Sends.cons {event : GenerationStreamEvent} {events : List GenerationStreamEvent} {ending : Except Exn Unit}
    {frames : List String} {o : Except Exn Unit} {shown rest : List GenerationStreamEvent} {ended : Except Exn Unit}
    (h : Sends command events ending frames o shown rest ended) :
    Sends command (event :: events) ending (frameOf event :: frames) o (event :: shown) rest ended :=
  ⟨by rw [h.events]; rfl, h.ends, by rw [h.frames]; rfl, h.outcome⟩

/-- The two ways of a body: it sends nothing and raises, or it is made of the events of its attempt. -/
def Sent (command : CreateResponseCommand) (events : List GenerationStreamEvent) (ending : Except Exn Unit)
    (started : Bool) (frames : List String) (o : Except Exn Unit) : Prop :=
  (started = false ∧ frames = [] ∧ ∃ err, o = .error err) ∨
    ∃ shown rest ended, Sends command events ending frames o shown rest ended ∧ (started = false → shown ≠ [])

theorem sent_closes {events : List GenerationStreamEvent} {ending ended : Except Exn Unit} {started : Bool}
    {t : List (Observation Empty)} {t' : List (Observation String)} {o : Except Exn Unit}
    (hends : Ends events ending ended)
    (h : Prog.Exec (Prog.onceStarted (.raise noResponse) (closeBody command.request_id) started ended) t' o) :
    Sent command events ending started (sent (t.map Obs.relabel ++ t')) o := by
  have hclosed := onceStarted_sends h
  rw [sent_append, sent_relabel, List.nil_append]
  cases started with
  | false => exact .inl ⟨rfl, hclosed⟩
  | true => exact .inr ⟨[], events, ended, ⟨rfl, hends, hclosed.1, hclosed.2⟩, nofun⟩

theorem Sent.cons {event : GenerationStreamEvent} {events : List GenerationStreamEvent} {ending : Except Exn Unit}
    {started : Bool} {t : List (Observation Empty)} {t' : List (Observation String)} {o : Except Exn Unit}
    (h : Sent command events ending true (sent t') o) :
    Sent command (event :: events) ending started (sent (t.map Obs.relabel ++ .yielded (frameOf event) :: t')) o := by
  rw [sent_append, sent_relabel, List.nil_append, sent_yielded]
  rcases h with ⟨hstarted, -⟩ | ⟨shown, rest, ended, hsends, -⟩
  · cases hstarted
  · exact .inr ⟨event :: shown, rest, ended, hsends.cons, fun _ => List.cons_ne_nil _ _⟩

theorem bodyOf_sends {events : List GenerationStreamEvent} {ending : Except Exn Unit} {started : Bool}
    {t : List (Observation String)} {o : Except Exn Unit}
    (h : Prog.Exec (bodyOf self command route events ending started) t o) :
    Sent command events ending started (sent t) o := by
  induction events generalizing started t with
  | nil =>
    rw [bodyOf_nil] at h
    exact sent_closes (t := []) (.inl ⟨rfl, rfl⟩) h
  | cons event events ih =>
    cases event with
    | delta d =>
      obtain ⟨t', ht, htail⟩ := Prog.exec_yield.mp h
      rw [ht]
      exact Sent.cons (t := []) (ih htail)
    | response response =>
      have hfails : ∀ err, Ends (.response response :: events) ending (.error err) :=
        fun err => .inr ⟨response, events, err, rfl, rfl⟩
      unfold bodyOf at h
      rw [passOnAll_response] at h
      rcases Prog.exec_forEach_lift_bind h with ⟨err, t₁, t₂, ht, -, htail⟩ | ⟨_, t₁, t₂, ht, -, htail⟩
      · rw [ht]
        exact sent_closes (hfails err) htail
      · rcases Prog.exec_forEach_lift_bind htail with ⟨err, t₃, t₄, ht₂, -, htail⟩ | ⟨_, t₃, t₄, ht₂, -, htail⟩
        · rw [ht, ht₂, ← List.append_assoc, ← List.map_append]
          exact sent_closes (hfails err) htail
        · obtain ⟨t₅, ht₄, htail⟩ := Prog.exec_yield.mp htail
          rw [ht, ht₂, ht₄, ← List.append_assoc, ← List.map_append]
          exact Sent.cons (ih htail)

/-- A run of a streamed call that sends nothing raises; another one sends the first events of an attempt. -/
theorem postStream_sends {t : List (Observation String)} {o : Except Exn Unit}
    (h : Prog.Exec (postStream self command) t o) :
    (sent t = [] ∧ ∃ err, o = .error err) ∨
      ∃ provider request script shown rest ended, .asked (.stream provider request) script ∈ t ∧ shown ≠ [] ∧
        Sends command script.events script.ending (sent t) o shown rest ended := by
  by_cases hsent : sent t = []
  · rw [postStream_eq] at h
    exact .inl ⟨hsent, Prog.exec_once_silent h hsent⟩
  · obtain ⟨pre, route, request, script, t', ht, -, hsame, hbody⟩ := postStream_opens h hsent
    rw [hsame] at hsent ⊢
    rcases bodyOf_sends hbody with ⟨-, hnone, -⟩ | ⟨shown, rest, ended, hsends, hshown⟩
    · exact absurd hnone hsent
    · refine .inr ⟨route.provider, request, script, shown, rest, ended, ?_, hshown rfl, hsends⟩
      rw [ht]
      exact List.mem_append_right pre List.mem_cons_self

end Bodies

section Reading

variable (lax : Lax PyFloat)

def endError (request_id : String) : Exn → AIRuntimeError
  | .provider err =>
    ⟨"provider_error", if err.message = "" then "Stream failed." else err.message, 200, some request_id, none⟩
  | _ => connectionError

theorem frameOf_message (event : GenerationStreamEvent) :
    ∃ name payload, frameOf event = frameText name payload ∧ OneLine name.toList ∧ payload.Valid := by
  cases event with
  | delta d => exact ⟨_, _, rfl, oneLine_name (by simp), deltaJson_valid d⟩
  | response r => exact ⟨_, _, rfl, oneLine_name (by simp), response_valid _⟩

theorem brokenFrames_message {name : String} {payload : Json} (hname : OneLine name.toList) (hpayload : payload.Valid)
    (rest : List Char) :
    brokenFrames SseParser.new (splitlines ((frameText name payload).toList ++ rest)) =
      (name, dumps payload) :: brokenFrames SseParser.new (splitlines rest) := by
  rw [splitlines_frameText hname hpayload, brokenFrames, feed_event _ hname, brokenFrames,
    feed_data _ (dumps_oneLine hpayload), brokenFrames]
  change ((SseParser.mk name [dumps payload]).feed []).2.toList ++ _ = _
  rw [feed_blank]
  rfl

/-- Whether or not the connection lasts, the same frames of whole messages are read. -/
theorem brokenFrames_frames (events : List GenerationStreamEvent) :
    brokenFrames SseParser.new (splitlines (bodyText (events.map frameOf))) =
      SseParser.new.iterFrames (splitlines (bodyText (events.map frameOf))) := by
  induction events with
  | nil => rfl
  | cons event events ih =>
    obtain ⟨name, payload, hframe, hname, hpayload⟩ := frameOf_message event
    have hbody : bodyText ((event :: events).map frameOf) =
        (frameText name payload).toList ++ bodyText (events.map frameOf) := by
      rw [← hframe]
      rfl
    rw [hbody, brokenFrames_message hname hpayload, iterFrames_frameText hname hpayload, ih]

theorem bodyText_getLast (events : List GenerationStreamEvent) :
    (bodyText (events.map frameOf)).getLast? = none ∨ (bodyText (events.map frameOf)).getLast? = some '\n' := by
  induction events using List.reverseRecOn with
  | nil => exact .inl rfl
  | append_singleton events event _ =>
    obtain ⟨name, payload, hframe, -, -⟩ := frameOf_message event
    right
    have hbody : bodyText ((events ++ [event]).map frameOf) =
        (bodyText (events.map frameOf) ++ ("event: " ++ name ++ "\ndata: " ++ dumps payload ++ "\n").toList) ++ ['\n'] := by
      unfold bodyText
      rw [List.map_append, List.flatMap_append, List.map_singleton, List.flatMap_singleton, hframe]
      unfold frameText
      simp
    rw [hbody, List.getLast?_concat]

theorem brokenLines_frames (events : List GenerationStreamEvent) :
    brokenLines (bodyText (events.map frameOf)) = splitlines (bodyText (events.map frameOf)) := by
  unfold brokenLines
  rcases bodyText_getLast events with hlast | hlast
  · simp [hlast]
  · simp [hlast, isLineBreak]

theorem read_frames (request_id : Option String) (events : List GenerationStreamEvent) (rest : List Char) :
    readFrames lax request_id (SseParser.new.iterFrames (splitlines (bodyText (events.map frameOf) ++ rest))) =
      (events.map (sdkItem request_id) ++ (readFrames lax request_id (SseParser.new.iterFrames (splitlines rest))).1,
        (readFrames lax request_id (SseParser.new.iterFrames (splitlines rest))).2) := by
  induction events with
  | nil => rfl
  | cons event events ih =>
    have hbody : bodyText ((event :: events).map frameOf) ++ rest =
        (frameOf event).toList ++ (bodyText (events.map frameOf) ++ rest) := List.append_assoc _ _ _
    rw [hbody, read_event, ih]
    rfl

theorem read_closing (header : Option String) (err : ProviderError) {request_id : String} (hid : request_id ≠ "") :
    readFrames lax header (SseParser.new.iterFrames (splitlines (errorFrame err request_id).toList)) =
      ([], some (endError request_id (.provider err))) := by
  have hparse : parseStreamFrame lax "response.error" (dumps (errorJson err request_id)) header =
      .error (endError request_id (.provider err)) := by
    unfold parseStreamFrame
    rw [loads_dumps (errorJson_valid err request_id)]
    change Except.error (errorFromBody (errorJson err request_id) 200 header none "Stream failed.") = _
    by_cases hmessage : err.message = "" <;>
      simp [errorFromBody, errorJson, someText, Json.str?, Option.filter, endError, hmessage, hid]
  have hname : OneLine "response.error".toList := oneLine_name (by simp)
  have hframes := iterFrames_frameText hname (errorJson_valid err request_id) []
  rw [List.append_nil] at hframes
  unfold errorFrame
  rw [hframes, readFrames, hparse]

def endingError (request_id : String) : Except Exn Unit → Option AIRuntimeError
  | .ok _ => none
  | .error err => some (endError request_id err)

section Streams

variable {request_id : String} (hid : request_id ≠ "")
include hid

theorem requestIdOf_streaming (frames : List String) (complete : Bool) :
    requestIdOf (streamingResponse request_id frames complete) = some request_id := by
  unfold requestIdOf streamingResponse HttpResponse.header? requestIdHeader
  simp [List.lookup_cons, Option.filter, hid]

/-- A streamed body is read frame by frame; the error of a lost connection follows what was read. -/
theorem streamed_eq (frames : List String) (complete : Bool) :
    streamed lax (streamingResponse request_id frames complete) =
      if complete then readFrames lax (some request_id) (SseParser.new.iterFrames (splitlines (bodyText frames)))
      else
        ((readFrames lax (some request_id) (brokenFrames SseParser.new (brokenLines (bodyText frames)))).1,
          (readFrames lax (some request_id) (brokenFrames SseParser.new (brokenLines (bodyText frames)))).2.or
            (some connectionError)) := by
  have hstream : requireEventStream (streamingResponse request_id frames complete) = .ok () := by
    have hmedia : "text/event-stream".toList <:+: "text/event-stream; charset=utf-8".toList := by decide
    exact if_pos hmedia
  have hread : ∀ body, readStream lax ((streamingResponse request_id frames complete).header? "x-request-id") body =
      readFrames lax (some request_id) (SseParser.new.iterFrames (splitlines body)) := by
    intro body
    unfold readStream
    have hheader := requestIdOf_streaming hid frames complete
    unfold requestIdOf at hheader
    rw [hheader]
  have hsuccess : ¬ 400 ≤ (streamingResponse request_id frames complete).status_code := of_decide_eq_false rfl
  unfold streamed
  rw [if_neg hsuccess, hstream, requestIdOf_streaming hid, hread]
  rfl

/-- The SDK shows a streamed body event by event, and how its stream ended. -/
theorem streamed_frames (shown : List GenerationStreamEvent) (ended : Except Exn Unit) :
    streamed lax (streamingResponse request_id (shown.map frameOf ++ closingFrames request_id ended)
        (leftOver ended).toBool) =
      (shown.map (sdkItem (some request_id)), endingError request_id ended) := by
  have hwhole : ∀ rest, bodyText (shown.map frameOf ++ rest) = bodyText (shown.map frameOf) ++ bodyText rest :=
    fun rest => List.flatMap_append
  have hcut : readFrames lax (some request_id) (brokenFrames SseParser.new (brokenLines (bodyText
      (shown.map frameOf ++ [])))) = (shown.map (sdkItem (some request_id)), none) := by
    have hread := read_frames lax (some request_id) shown []
    simp only [List.append_nil] at hread ⊢
    rw [brokenLines_frames, brokenFrames_frames, hread]
    exact congrArg (fun items => (items, none)) (List.append_nil _)
  rw [streamed_eq lax hid]
  cases ended with
  | ok u =>
    have hread := read_frames lax (some request_id) shown []
    have hnone : closingFrames request_id (.ok u) = [] := rfl
    rw [hnone, hwhole]
    exact hread.trans (congrArg (fun items => (items, none)) (List.append_nil _))
  | error err =>
    cases err with
    | provider err =>
      have hclosing : bodyText [errorFrame err request_id] = (errorFrame err request_id).toList :=
        List.append_nil _
      rw [closingFrames, hwhole, hclosing, read_frames, read_closing lax _ err hid]
      exact congrArg (fun items => (items, some _)) (List.append_nil _)
    | _ =>
      simp only [closingFrames, hcut]
      rfl

end Streams

end Reading

section Calls

variable {D : Type} [LinearOrder D] [Zero D] {self : Deployment} {authorization : Option String} {request_id : String}
  {body : CreateResponseRequest} {header : Option String}

theorem key_refuses (err : ApiKeyRecords.KeyExn) : Refuses (handleEdgeExn (.key err)) := handleKeyExn_refuses err

theorem unauthorized_refuses (message : String) : Refuses (handleEdgeExn (unauthorized message)) :=
  refuses_of (Nat.le_of_ble_eq_true rfl)

theorem extractBearer_refuses {message : String} {err : EdgeExn} (h : extractBearer message authorization = .error err) :
    Refuses (handleEdgeExn err) := by
  unfold extractBearer at h
  cases authorization with
  | none =>
    cases h
    exact unauthorized_refuses message
  | some text =>
    simp only at h
    split_ifs at h
    · cases h
      exact unauthorized_refuses message
    · cases h
      exact unauthorized_refuses message

omit [LinearOrder D] [Zero D] in
theorem authentication_refuses {t : List (Obs EdgeCommand (EdgeResponse D) Empty)} {err : EdgeExn}
    (h : Prog.Exec (getAuthenticatedPrincipal self authorization) t (.error err)) : Refuses (handleEdgeExn err) := by
  rcases Prog.exec_bind.mp h with ⟨err', herr, hsecret⟩ | ⟨secret, t₁, t₂, -, -, h⟩
  · cases herr
    exact extractBearer_refuses (Prog.exec_ofExcept.mp hsecret).2.symm
  · rcases Prog.exec_bind.mp h with ⟨err', herr, hkeys⟩ | ⟨outcome, t₃, t₄, -, -, h⟩
    · cases herr
      obtain ⟨t', o', -, ho, -⟩ := Prog.exec_within.mp hkeys
      cases o' with
      | ok a => cases ho
      | error err =>
        cases ho
        exact key_refuses err
    · cases outcome with
      | ok principal => cases (Prog.exec_done.mp h).2
      | error failure =>
        cases failure with
        | invalidCredentials =>
          cases (Prog.exec_raise.mp h).2
          exact unauthorized_refuses unauthorizedMessage
        | organizationSuspended organization_id =>
          cases (Prog.exec_raise.mp h).2
          exact refuses_of (Nat.le_of_ble_eq_true rfl)
        | _ =>
          cases (Prog.exec_raise.mp h).2
          exact key_refuses _

def atEdge (t : List (SystemObs D String)) : List (Obs EdgeCommand (EdgeResponse D) String) :=
  t.map (Obs.within (R := EdgePartResponse D) EdgePart.system)

/-- A run of a tenant's route is refused by authentication, or it is a run of the route for the principal. -/
theorem tenant_split {route : TenantRoute} {t : List (Obs EdgeCommand (EdgeResponse D) String)}
    {o : Except EdgeExn Answer} (h : Prog.Exec (handle self ⟨authorization, request_id, .tenant route⟩) t o) :
    (∃ err, o = .error err ∧ t.filterMap Obs.event? = [] ∧ Refuses (handleEdgeExn err)) ∨
      ∃ principal before inner, t = before ++ inner ∧ before.filterMap Obs.event? = [] ∧
        Prog.Exec (tenantRoute self request_id principal route) inner o := by
  rcases Prog.exec_bind.mp h with ⟨err, ho, hauth⟩ | ⟨principal, t₁, t₂, ht, hauth, hroute⟩
  · obtain ⟨before, hbefore, hauth⟩ := Prog.exec_lift.mp hauth
    exact .inl ⟨err, ho, by rw [hbefore]; exact Prog.filterMap_relabel before, authentication_refuses hauth⟩
  · obtain ⟨before, hbefore, -⟩ := Prog.exec_lift.mp hauth
    refine .inr ⟨principal, t₁, t₂, ht, ?_, hroute⟩
    rw [hbefore]
    exact Prog.filterMap_relabel before

/-- A run of the route is refused by authentication, or it is a run of the endpoint for the principal. -/
theorem handle_split {t : List (Obs EdgeCommand (EdgeResponse D) String)} {o : Except EdgeExn Answer}
    (h : Prog.Exec (handle self (responsesRequest authorization request_id body header)) t o) :
    (∃ err, o = .error err ∧ t.filterMap Obs.event? = [] ∧ Refuses (handleEdgeExn err)) ∨
      ∃ principal before inner o', t = before ++ atEdge inner ∧ before.filterMap Obs.event? = [] ∧
        Prog.Exec (postResponses self.application principal body request_id header) inner o' ∧
        o = (o'.mapError .pipeline).map .response := by
  rcases tenant_split h with hrefused | ⟨principal, before, outer, ht, hsilent, hroute⟩
  · exact .inl hrefused
  · refine .inr ⟨⟨principal.organization_id, principal.api_key_id⟩, before, ?_⟩
    rcases Prog.exec_bind.mp hroute with ⟨err, ho, hserved⟩ | ⟨response, t₁, t₂, ht', hserved, hdone⟩
    · obtain ⟨inner, o', hinner, ho', hexec⟩ := Prog.exec_within.mp hserved
      refine ⟨inner, o', by rw [ht, hinner]; rfl, hsilent, hexec, ?_⟩
      rw [ho, ← ho']
      rfl
    · obtain ⟨inner, o', hinner, ho', hexec⟩ := Prog.exec_within.mp hserved
      obtain ⟨ht₂, ho⟩ := Prog.exec_done.mp hdone
      refine ⟨inner, o', by rw [ht, ht', hinner, ht₂, List.append_nil]; rfl, hsilent, hexec, ?_⟩
      rw [ho, ← ho']
      rfl

theorem prepare_request_id {application : Application} {principal : Principal} {t : List (SystemObs D Empty)}
    {command : CreateResponseCommand}
    (h : Prog.Exec (prepare application principal body request_id header : Endpoint D Empty _) t (.ok command)) :
    command.request_id = request_id := by
  obtain ⟨rendered, t₁, t₂, -, -, h⟩ := Prog.exec_bind_ok h
  obtain ⟨retrieved, t₃, t₄, -, -, h⟩ := Prog.exec_bind_ok h
  obtain ⟨tools, t₅, t₆, -, -, h⟩ := Prog.exec_bind_ok h
  obtain ⟨budgeted, t₇, t₈, -, -, h⟩ := Prog.exec_bind_ok h
  obtain ⟨request, t₉, t₁₀, -, -, h⟩ := Prog.exec_bind_ok h
  obtain ⟨key, t₁₁, t₁₂, -, -, h⟩ := Prog.exec_bind_ok h
  cases (Prog.exec_done.mp h).2
  rfl

structure Serves (deployment : Deployment) (body : CreateResponseRequest) (request_id : String)
    (t : List (Obs EdgeCommand (EdgeResponse D) String)) (o : Except EdgeExn Answer) (command : CreateResponseCommand)
    (alone : List (Observation String)) (served : Except Exn (Option ResponseSchema)) : Prop where
  request_id : command.request_id = request_id
  frames : t.filterMap Obs.event? = sent alone
  observed : ∀ c r, .asked c r ∈ alone → .asked (⟨.system, ⟨.service, c⟩⟩ : EdgeCommand) r ∈ t
  outcome : o = ((served.mapError .failed).mapError .pipeline).map .response
  exec : Prog.Exec (serve deployment.application body command) alone served

/-- A run of the route is refused before it reaches the use case, or it serves a command. -/
theorem handle_serves {t : List (Obs EdgeCommand (EdgeResponse D) String)} {o : Except EdgeExn Answer}
    (h : Prog.Exec (handle self (responsesRequest authorization request_id body header)) t o) :
    (∃ err, o = .error err ∧ t.filterMap Obs.event? = [] ∧ Refuses (handleEdgeExn err)) ∨
      ∃ command alone served, Serves self body request_id t o command alone served := by
  rcases handle_split h with hrefused | ⟨principal, before, inner, o', ht, hbefore, hendpoint, ho⟩
  · exact .inl hrefused
  · have hframes : t.filterMap Obs.event? = inner.filterMap Obs.event? := by
      rw [ht, List.filterMap_append, hbefore, List.nil_append]
      exact Prog.events_within _
    obtain ⟨prepared, ⟨err, -, hinner, ho'⟩ | ⟨command, alone, served, hprepare, hinner, ho', hserve⟩⟩ :=
      PipelineRuns.postResponses_split hendpoint
    · refine .inl ⟨.pipeline err, by rw [ho, ho']; rfl, ?_, handlePipelineExn_refuses err⟩
      rw [hframes, hinner]
      exact Prog.filterMap_relabel prepared
    · refine .inr ⟨command, alone, served, prepare_request_id hprepare, ?_, ?_, by rw [ho, ho'], hserve⟩
      · rw [hframes, hinner, List.filterMap_append, Prog.filterMap_relabel, List.nil_append]
        exact Prog.events_within (C := PartCommand) (R := PartResponse D) (i := .service) alone
      · intro c r hmem
        rw [ht, hinner]
        exact List.mem_append_right before (List.mem_map.mpr ⟨.asked ⟨.service, c⟩ r, List.mem_append_right _
          (List.mem_map.mpr ⟨.asked c r, hmem, rfl⟩), rfl⟩)

theorem refused_raises (writer : JsonWriter) (hid : request_id ≠ "") {err : EdgeExn} (h : Refuses (handleEdgeExn err)) :
    statusError (exceptionResponse writer (some request_id) err) = raisedFor request_id err ∧
      400 ≤ (exceptionResponse writer (some request_id) err).status_code :=
  ⟨statusError_enveloped writer (settled_refuses h) (settled_message _) hid, (settled_refuses h).status⟩

theorem streamed_refused (lax : Lax PyFloat) (writer : JsonWriter) (hid : request_id ≠ "") {err : EdgeExn}
    (h : Refuses (handleEdgeExn err)) :
    streamed lax (routeResponse writer request_id [] (.error err)) = ([], some (raisedFor request_id err)) := by
  obtain ⟨herror, hstatus⟩ := refused_raises writer hid h
  unfold streamed
  change (if 400 ≤ (exceptionResponse writer (some request_id) err).status_code then _ else _) = _
  rw [if_pos hstatus, ← herror]
  rfl

theorem routeResponse_streaming (writer : JsonWriter) {frames : List String} (hframes : frames ≠ [])
    (o : Except EdgeExn Answer) :
    routeResponse writer request_id frames o = streamingResponse request_id frames o.toBool := by
  cases frames with
  | nil => exact absurd rfl hframes
  | cons frame frames => cases o <;> rfl

theorem serve_streams {application : Application} {command : CreateResponseCommand} (hstream : body.stream = true)
    {alone : List (Observation String)} {served : Except Exn (Option ResponseSchema)}
    (h : Prog.Exec (serve application body command) alone served) :
    ∃ ended, Prog.Exec (postStream application.use_case command) alone ended ∧ served = ended.map fun _ => none := by
  unfold serve at h
  rw [if_pos hstream] at h
  rcases Prog.exec_bind.mp h with ⟨err, hserved, hposted⟩ | ⟨u, t₁, t₂, ht, hposted, hdone⟩
  · exact ⟨.error err, hposted, hserved⟩
  · obtain ⟨ht₂, hserved⟩ := Prog.exec_done.mp hdone
    rw [ht, ht₂, List.append_nil]
    exact ⟨.ok u, hposted, hserved⟩

def sdkResponse (request_id : Option String) (response : GenerationResponse) : SdkResponse :=
  ⟨response.id, response.model, sdkMessage response.output, response.usage.map sdkUsage, response.cached, request_id⟩

theorem jsonObject_loaded {response : HttpResponse} {payload : Json} (hloads : loadsChars response.text = some payload)
    (hobject : isObject payload = true) : jsonObject response = .ok payload := by
  unfold jsonObject
  rw [hloads]
  exact if_pos hobject

theorem received_refused {M : Type} {validate : Json → Option M} {stamp : Option String → M → M} (hid : request_id ≠ "")
    (writer : JsonWriter) {err : EdgeExn} (h : Refuses (handleEdgeExn err)) :
    received validate stamp (exceptionResponse writer (some request_id) err) = .error (raisedFor request_id err) := by
  obtain ⟨herror, hstatus⟩ := refused_raises writer hid h
  change (raiseForStatus (exceptionResponse writer (some request_id) err)).bind _ = _
  unfold raiseForStatus
  rw [if_neg (Nat.not_lt.mpr hstatus), herror]
  rfl

theorem received_model {M : Type} {validate : Json → Option M} {stamp : Option String → M → M} (hid : request_id ≠ "")
    (writer : JsonWriter) {status_code : ℕ} {content : Json} {model : M} (hstatus : status_code < 400)
    (hwritten : dumpable writer.levels content = true) (hvalid : content.Valid) (hobject : isObject content = true)
    (hmodel : validate content = some model) :
    received validate stamp (jsonResponse writer request_id status_code content) =
      .ok (stamp (some request_id) model) := by
  have hresponse : jsonResponse writer request_id status_code content =
      ⟨status_code, [("content-type", "application/json"), ("x-request-id", request_id)], writer.render content, true⟩ :=
    if_pos hwritten
  have hraise : raiseForStatus (jsonResponse writer request_id status_code content) = .ok () := by
    rw [hresponse]
    exact if_pos hstatus
  have hheader : requestIdOf (jsonResponse writer request_id status_code content) = some request_id := by
    rw [hresponse]
    unfold requestIdOf HttpResponse.header? requestIdHeader
    simp [List.lookup_cons, Option.filter, hid]
  have hjson : jsonObject (jsonResponse writer request_id status_code content) = .ok content := by
    rw [hresponse]
    exact jsonObject_loaded (writer.loads_render content hvalid hwritten) hobject
  unfold received
  rw [hraise, hjson, hheader]
  simp only [bind, Except.bind]
  rw [hmodel]

theorem unwritten_refuses : Refuses (handleEdgeExn unwritten) := handleExn_refuses (.other "ValueError")

theorem received_unwritten {M : Type} {validate : Json → Option M} {stamp : Option String → M → M}
    (hid : request_id ≠ "")
    (writer : JsonWriter) {status_code : ℕ} {content : Json} (hwritten : dumpable writer.levels content = false) :
    received validate stamp (jsonResponse writer request_id status_code content) =
      .error (raisedFor request_id unwritten) := by
  have hresponse : jsonResponse writer request_id status_code content =
      exceptionResponse writer (some request_id) unwritten := if_neg (Bool.eq_false_iff.mp hwritten)
  rw [hresponse]
  exact received_refused hid writer unwritten_refuses

theorem message_dumpable {levels : ℕ} (hlevels : 4 ≤ levels) (message : MessageSchema) :
    dumpable levels message.toJson = true := by
  have hcall : ∀ call ∈ message.tool_calls, dumpable (levels - 2) call.toJson = true := fun call _ =>
    dumpable_obj (by omega) (by simp [dumpable_str])
  have hcalls : dumpable (levels - 1) (.arr (message.tool_calls.map ToolCallSchema.toJson)) = true :=
    dumpable_arr (by omega) hcall
  have hname : ∀ (key : String) (text : Option String), ∀ m ∈ optionMember key .str text,
      dumpable (levels - 1) m.2 = true :=
    fun key text => forall_optionMember (P := fun v => dumpable (levels - 1) v = true) fun a _ => dumpable_str a
  refine dumpable_obj (by omega) ?_
  simp only [List.forall_mem_append]
  exact ⟨⟨⟨by simp [dumpable_str], hname _ _⟩, hname _ _⟩,
    forall_memberIf (P := fun v => dumpable (levels - 1) v = true) hcalls⟩

theorem response_dumpable {levels : ℕ} (hlevels : 5 ≤ levels) (response : GenerationResponse) :
    dumpable levels (responseSchemaOf response).toJson = writable (.response response) := by
  have hmessage : dumpable (levels - 1) (messageSchemaOf response.output).toJson = true :=
    message_dumpable (by omega) _
  have hpositive : 0 < levels := by omega
  have husage : ∀ usage : TokenUsage, dumpable (levels - 1) (usageSchemaJson usage) = shortInt usage.total := by
    intro usage
    rw [← usage_short]
    have hmore : 0 < levels - 1 := by omega
    unfold usageSchemaJson
    simp [dumpable, dumpableMembers, shortInts, shortMembers, hmore]
  unfold ResponseSchema.toJson writable
  cases hgiven : response.usage <;> cases hcached : response.cached <;>
    simp [responseSchemaOf, dumpable, dumpableMembers, memberIf, hmessage, husage, hpositive, hgiven, hcached]

theorem created_completed (lax : Lax PyFloat) (writer : JsonWriter) (hid : request_id ≠ "")
    (response : GenerationResponse) :
    created lax (jsonResponse writer request_id 200 (responseSchemaOf response).toJson) =
      if writable (.response response) then .ok (sdkResponse (some request_id) response)
      else .error (raisedFor request_id unwritten) := by
  have hwritten := response_dumpable writer.room response
  split_ifs with h
  · exact received_model hid writer (by decide) (hwritten.trans h) (response_valid _) rfl (response_validate lax response)
  · exact received_unwritten hid writer (hwritten.trans (Bool.eq_false_iff.mpr h))

theorem serve_executes {application : Application} {command : CreateResponseCommand} (hstream : body.stream = false)
    {alone : List (Observation String)} {served : Except Exn (Option ResponseSchema)}
    (h : Prog.Exec (serve application body command) alone served) :
    sent alone = [] ∧ ((∃ err, served = .error err) ∨ ∃ response t, alone = t.map Obs.relabel ∧
      Prog.Exec (application.use_case.execute command) t (.ok response) ∧
      served = .ok (some (responseSchemaOf response))) := by
  unfold serve at h
  rw [hstream] at h
  rcases Prog.exec_bind.mp h with ⟨err, hserved, hexecute⟩ | ⟨response, t₁, t₂, ht, hexecute, hbody⟩
  · obtain ⟨t, ht, -⟩ := Prog.exec_lift.mp hexecute
    rw [ht]
    exact ⟨sent_relabel t, .inl ⟨err, hserved⟩⟩
  · obtain ⟨t, ht₁, hexecute⟩ := Prog.exec_lift.mp hexecute
    rw [response_fromDomain] at hbody
    obtain ⟨ht₂, hserved⟩ := Prog.exec_done.mp hbody
    rw [ht, ht₁, ht₂, List.append_nil]
    exact ⟨sent_relabel t, .inr ⟨response, t, rfl, hexecute, hserved⟩⟩

section Samples

def registryAnswers : (c : TenantRecords.RegistryCommand) → TenantRecords.RegistryResponse c
  | .utcNow => ServiceRuns.noon
  | .uuid4 => ⟨1⟩
  | .selectBySlug _ => .ok none
  | .getOrganization _ => .ok none
  | .insertCommit _ => .ok ()
  | .rollback => .ok ()
  | .refreshOrganization _ => .error (.other "InvalidRequestError")
  | .selectServers _ => .ok []

/-- Collaborators that know one key; a provider's stream says "Hi" and is cut off. -/
def edgeAnswers : (c : EdgeCommand) → EdgeResponse ℕ c
  | ⟨.keys, c⟩ => (KeyLifecycle.sampleKeys.answer KeyLifecycle.sampleCreation.2 c).1
  | ⟨.listing, .listKeys _⟩ => .ok []
  | ⟨.registry, c⟩ => registryAnswers c
  | ⟨.system, ⟨.service, .stream ..⟩⟩ => ⟨[StreamTraces.helloDelta], .error StreamTraces.cutOff⟩
  | ⟨.system, c⟩ => PipelineRuns.answers c

theorem hello_ok : (messageOf .user "Hello" none none []).isOk = true := by decide

def hello : MessageSchema := ⟨.user, "Hello", none, none, [], hello_ok⟩

theorem helloBody_valid : CreateResponseRequest.Valid "gpt-4o" (some [hello]) none none none := by decide

def helloBody (stream : Bool) : CreateResponseRequest :=
  ⟨"gpt-4o", some [hello], none, none, none, none, stream, [], false, none, none, helloBody_valid⟩

def helloRequest (stream : Bool) : HttpRequest :=
  responsesRequest (some "Bearer airt_xxxxxxxx") "req_1" (helloBody stream) none

def helloRun (stream : Bool) : Except EdgeExn Answer × Unit × List (Obs EdgeCommand (EdgeResponse ℕ) String) :=
  (handle deployment (helloRequest stream)).run (Handler.table edgeAnswers).recording ((), [])

theorem helloRun_exec (stream : Bool) :
    Prog.Exec (handle deployment (helloRequest stream)) (helloRun stream).2.2 (helloRun stream).1 :=
  Prog.exec_recorded _ _ _

def helloResponse : HttpResponse :=
  routeResponse compactWriter "req_1" ((helloRun false).2.2.filterMap Obs.event?) (helloRun false).1

def helloStream : HttpResponse :=
  routeResponse compactWriter "req_1" ((helloRun true).2.2.filterMap Obs.event?) (helloRun true).1

end Samples

/-- However a streamed call goes, the caller of the SDK is shown the first events of one attempt and the error that
ended them, or the error the call was refused with. -/
theorem streamed_call_shows (lax : Lax PyFloat) (writer : JsonWriter) (hid : request_id ≠ "")
    (hstream : body.stream = true) {t : List (Obs EdgeCommand (EdgeResponse D) String)} {o : Except EdgeExn Answer}
    (h : Prog.Exec (handle self (responsesRequest authorization request_id body header)) t o) :
    (∃ err, o = .error err ∧
      streamed lax (routeResponse writer request_id (t.filterMap Obs.event?) o) =
        ([], some (raisedFor request_id err))) ∨
      ∃ provider request script shown rest ended,
        .asked (⟨.system, ⟨.service, .stream provider request⟩⟩ : EdgeCommand) script ∈ t ∧
        script.events = shown ++ rest ∧ shown ≠ [] ∧ Ends rest script.ending ended ∧
        streamed lax (routeResponse writer request_id (t.filterMap Obs.event?) o) =
          (shown.map (sdkItem (some request_id)), endingError request_id ended) := by
  rcases handle_serves h with ⟨err, ho, hframes, hrefuses⟩ | ⟨command, alone, served, hserves⟩
  · rw [ho, hframes]
    exact .inl ⟨err, rfl, streamed_refused lax writer hid hrefuses⟩
  · obtain ⟨ended, hposted, hserved⟩ := serve_streams hstream hserves.exec
    have ho := hserves.outcome
    rw [hserved] at ho
    rw [hserves.frames, ho]
    rcases postStream_sends hposted with ⟨hsilent, err, hended⟩ |
      ⟨provider, request, script, shown, rest, closed, hasked, hshown, hsends⟩
    · rw [hsilent, hended]
      exact .inl ⟨.pipeline (.failed err), rfl, streamed_refused lax writer hid (handlePipelineExn_refuses (.failed err))⟩
    · refine .inr ⟨provider, request, script, shown, rest, closed, hserves.observed _ _ hasked, hsends.events, hshown,
        hsends.ends, ?_⟩
      have hframes := hsends.frames
      rw [hserves.request_id] at hframes
      have hsome : sent alone ≠ [] := by
        rw [hframes]
        simp [hshown]
      have hcomplete : ((((ended.map fun _ => none).mapError .failed).mapError .pipeline).map .response :
          Except EdgeExn Answer).toBool = (leftOver closed).toBool := by
        rw [hsends.outcome]
        cases leftOver closed <;> rfl
      rw [routeResponse_streaming writer hsome, hcomplete, hframes]
      exact streamed_frames lax hid shown closed

theorem hello_shown : ((helloRun true).2.2.filterMap Obs.event?).length = 2 ∧
    ((∃ err, (helloRun true).1 = .error err ∧ streamed strict helloStream = ([], some (raisedFor "req_1" err))) ∨
      ∃ provider request script shown rest ended,
        .asked (⟨.system, ⟨.service, .stream provider request⟩⟩ : EdgeCommand) script ∈ (helloRun true).2.2 ∧
        script.events = shown ++ rest ∧ shown ≠ [] ∧ Ends rest script.ending ended ∧
        streamed strict helloStream = (shown.map (sdkItem (some "req_1")), endingError "req_1" ended)) :=
  ⟨by decide +kernel, streamed_call_shows strict compactWriter (by decide) rfl (helloRun_exec true)⟩

/-- However a call that is not streamed goes, `create` returns the response that the use case gave for it, if its counts
can be written, or it raises what the call was refused with. -/
theorem created_call_returns (lax : Lax PyFloat) (writer : JsonWriter) (hid : request_id ≠ "")
    (hstream : body.stream = false) {t : List (Obs EdgeCommand (EdgeResponse D) String)} {o : Except EdgeExn Answer}
    (h : Prog.Exec (handle self (responsesRequest authorization request_id body header)) t o) :
    (∃ err, o = .error err ∧
      created lax (routeResponse writer request_id (t.filterMap Obs.event?) o) = .error (raisedFor request_id err)) ∨
      ∃ command alone response, command.request_id = request_id ∧
        Prog.Exec (self.application.use_case.execute command) alone (.ok response) ∧
        (∀ c r, .asked c r ∈ alone → .asked (⟨.system, ⟨.service, c⟩⟩ : EdgeCommand) r ∈ t) ∧
        created lax (routeResponse writer request_id (t.filterMap Obs.event?) o) =
          if writable (.response response) then .ok (sdkResponse (some request_id) response)
          else .error (raisedFor request_id unwritten) := by
  rcases handle_serves h with ⟨err, ho, hframes, hrefuses⟩ | ⟨command, alone, served, hserves⟩
  · rw [ho, hframes]
    exact .inl ⟨err, rfl, received_refused hid writer hrefuses⟩
  · obtain ⟨hsilent, hended⟩ := serve_executes hstream hserves.exec
    rw [hserves.frames, hsilent, hserves.outcome]
    rcases hended with ⟨err, hserved⟩ | ⟨response, executed, halone, hexecute, hserved⟩
    · rw [hserved]
      exact .inl ⟨.pipeline (.failed err), rfl,
        received_refused hid writer (handlePipelineExn_refuses (.failed err))⟩
    · rw [hserved]
      refine .inr ⟨command, executed, response, hserves.request_id, hexecute, ?_,
        created_completed lax writer hid response⟩
      intro c r hmem
      refine hserves.observed c r ?_
      rw [halone]
      exact List.mem_map.mpr ⟨.asked c r, hmem, rfl⟩

theorem hello_returned : (helloRun false).1.toBool = true ∧
    ((∃ err, (helloRun false).1 = .error err ∧ created strict helloResponse = .error (raisedFor "req_1" err)) ∨
      ∃ command alone response, command.request_id = "req_1" ∧
        Prog.Exec (deployment.application.use_case.execute command) alone (.ok response) ∧
        (∀ c r, .asked c r ∈ alone → .asked (⟨.system, ⟨.service, c⟩⟩ : EdgeCommand) r ∈ (helloRun false).2.2) ∧
        created strict helloResponse = if writable (.response response) then .ok (sdkResponse (some "req_1") response)
          else .error (raisedFor "req_1" unwritten)) :=
  ⟨by decide +kernel, created_call_returns strict compactWriter (by decide) rfl (helloRun_exec false)⟩

end Calls

end AIRuntime.ClientRuns
