import AIRuntime.AdapterFailures
import Mathlib.Data.List.Forall2
import Mathlib.Data.List.Nodup

set_option autoImplicit false

/-! Which call each encoded tool result names, in the three vendors' own fields. -/
namespace AIRuntime.ToolResultLinks

open Traversals PythonText Failures JsonText PythonJson GenerationContracts ResponsePayloads ProviderRequests
  ProviderPayloads AdapterFailures

section Conversations

def callsOf (messages : List Message) : List ToolCall := messages.flatMap (·.tool_calls)

def resultsOf (messages : List Message) : List Message := messages.filter fun m => m.role = .tool

/-- Call ids are distinct, arguments that are read are JSON objects, and each result names an earlier call. -/
structure Linked (json_loads : JsonLoads) (messages : List Message) : Prop where
  ids : ((callsOf messages).map (·.id)).Nodup
  arguments : ∀ call ∈ callsOf messages,
    (∃ members, json_loads call.arguments = .ok (.obj members)) ∨ GivesUp json_loads call.arguments
  answers : ∀ before result after, messages = before ++ result :: after → result.role = .tool →
    ∃ call ∈ callsOf before, result.tool_call_id = some call.id

def CallsRead (json_loads : JsonLoads) (messages : List Message) : Prop :=
  ∀ call ∈ callsOf messages, ¬ GivesUp json_loads call.arguments

def Readable (json_loads : JsonLoads) (messages : List Message) : Prop :=
  CallsRead json_loads messages ∧ ∀ result ∈ resultsOf messages, ¬ GivesUp json_loads result.content

def Answers (messages : List Message) (result : Message) (call : ToolCall) : Prop :=
  call ∈ callsOf messages ∧ result.tool_call_id = some call.id

theorem Linked.answered {json_loads : JsonLoads} {messages : List Message} (h : Linked json_loads messages)
    {result : Message}
    (hmem : result ∈ resultsOf messages) : ∃ call, Answers messages result call := by
  obtain ⟨hin, hrole⟩ := List.mem_filter.mp hmem
  obtain ⟨before, after, hsplit⟩ := List.append_of_mem hin
  obtain ⟨call, hcall, hid⟩ := h.answers before result after hsplit (of_decide_eq_true hrole)
  refine ⟨call, ?_, hid⟩
  unfold callsOf
  rw [hsplit, List.flatMap_append]
  exact List.mem_append_left _ hcall

theorem Linked.unique {json_loads : JsonLoads} {messages : List Message} (h : Linked json_loads messages)
    {result : Message} {a b : ToolCall} (ha : Answers messages result a) (hb : Answers messages result b) : a = b := by
  apply List.inj_on_of_nodup_map h.ids ha.1 hb.1
  have hid : some a.id = some b.id := ha.2.symm.trans hb.2
  injection hid

end Conversations

section Vendors

/-- `data[key]` when it is a list. -/
def itemsOf (key : String) (data : Json) : List Json :=
  match data.get? key with
  | some (.arr items) => items
  | _ => []

def textAt (key : String) (data : Json) : List String :=
  match data.get? key with
  | some (.str text) => [text]
  | _ => []

def textIn (outer key : String) (data : Json) : List String :=
  match data.get? outer with
  | some inner => textAt key inner
  | none => []

/-- How a vendor's body links results to calls: the fields that name the encoded calls, those of the
encoded results, and which part of a call the vendor goes by. -/
structure Vendor where
  encode : GenerationRequest → Except Exn Json
  callNames : Json → List String
  links : Json → List String
  key : ToolCall → String

def openAI (stream : Bool) : Vendor where
  encode := fun request => .ok (toOpenAIBody request stream)
  callNames := fun body => (itemsOf "messages" body).flatMap fun m => (itemsOf "tool_calls" m).flatMap (textAt "id")
  links := fun body => (itemsOf "messages" body).flatMap (textAt "tool_call_id")
  key := (·.id)

def anthropic (json_loads : JsonLoads) (stream : Bool) : Vendor where
  encode := fun request => toAnthropicBody json_loads request stream
  callNames := fun body => (itemsOf "messages" body).flatMap fun m => (itemsOf "content" m).flatMap (textAt "id")
  links := fun body => (itemsOf "messages" body).flatMap fun m => (itemsOf "content" m).flatMap (textAt "tool_use_id")
  key := (·.id)

def gemini (json_loads : JsonLoads) : Vendor where
  encode := toGeminiBody json_loads
  callNames := fun body => (itemsOf "contents" body).flatMap fun m =>
    (itemsOf "parts" m).flatMap (textIn "functionCall" "name")
  links := fun body => (itemsOf "contents" body).flatMap fun m =>
    (itemsOf "parts" m).flatMap (textIn "functionResponse" "name")
  key := (·.name)

/-- The body names every call by its key, and every result, in order, by the key of the call it answers. -/
structure Vendor.LinksIn (vendor : Vendor) (messages : List Message) (body : Json) : Prop where
  calls : vendor.callNames body = (callsOf messages).map vendor.key
  results : List.Forall₂ (fun link result => ∃ call, Answers messages result call ∧ link = vendor.key call)
    (vendor.links body) (resultsOf messages)

def Vendor.Links (vendor : Vendor) (request : GenerationRequest) : Prop :=
  resultsOf request.messages ≠ [] → ∃ body, vendor.encode request = .ok body ∧ vendor.LinksIn request.messages body

end Vendors

section Reading

theorem mapM_all {α : Type} {encode : α → Except Exn Json} {P : α → Json → Prop} {l : List α}
    (h : ∀ a ∈ l, ∃ j, encode a = .ok j ∧ P a j) : ∃ js, l.mapM encode = .ok js ∧ List.Forall₂ P l js := by
  obtain ⟨js, hjs⟩ := forall₂_of_exists h
  exact ⟨js, mapM_ok_iff.mpr (hjs.imp fun _ _ hj => hj.1), hjs.imp fun _ _ hj => hj.2⟩

theorem forall₂_flatMap {α : Type} {read : Json → List String} {want : α → List String} {l : List α} {js : List Json}
    (h : List.Forall₂ (fun a j => read j = want a) l js) : js.flatMap read = l.flatMap want := by
  induction h with
  | nil => rfl
  | cons hread _ ih => rw [List.flatMap_cons, List.flatMap_cons, hread, ih]

theorem flatMap_filter {α : Type} {p : α → Bool} {want : α → List String} {l : List α}
    (h : ∀ a, p a = false → want a = []) : (l.filter p).flatMap want = l.flatMap want := by
  induction l with
  | nil => rfl
  | cons a rest ih =>
    cases hp : p a with
    | true => rw [List.filter_cons_of_pos hp, List.flatMap_cons, List.flatMap_cons, ih]
    | false => rw [List.filter_cons_of_neg (by simp [hp]), List.flatMap_cons, h a hp, ih, List.nil_append]

def linkText (link : Message → Option String) (m : Message) : List String :=
  if m.role = .tool then (link m).toList else []

theorem linkText_results {link : Message → Option String} {messages : List Message} :
    messages.flatMap (linkText link) = (resultsOf messages).filterMap link := by
  induction messages with
  | nil => rfl
  | cons m rest ih =>
    unfold resultsOf at ih ⊢
    rw [List.flatMap_cons, ih]
    by_cases htool : m.role = .tool
    · rw [List.filter_cons_of_pos (by simpa using htool), List.filterMap_cons]
      unfold linkText
      rw [if_pos htool]
      cases link m <;> rfl
    · rw [List.filter_cons_of_neg (by simpa using htool)]
      unfold linkText
      rw [if_neg htool, List.nil_append]

/-- A body links its conversation exactly when the text in each result's linking field is the key of the
call it answers. -/
theorem linksIn_iff {vendor : Vendor} {messages : List Message} {body : Json} (link : Message → Option String)
    (hcalls : vendor.callNames body = messages.flatMap fun m => m.tool_calls.map vendor.key)
    (hlinks : vendor.links body = messages.flatMap (linkText link))
    (hsome : ∀ result ∈ resultsOf messages, (link result).isSome) :
    vendor.LinksIn messages body ↔
      ∀ result ∈ resultsOf messages, ∃ call, Answers messages result call ∧ link result = some (vendor.key call) := by
  rw [linkText_results] at hlinks
  have hmap : ∀ results : List Message, (∀ r ∈ results, (link r).isSome) →
      (List.Forall₂ (fun text r => ∃ call, Answers messages r call ∧ text = vendor.key call)
        (results.filterMap link) results ↔
        ∀ r ∈ results, ∃ call, Answers messages r call ∧ link r = some (vendor.key call)) := by
    intro results hall
    induction results with
    | nil => simp
    | cons r rest ih =>
      obtain ⟨text, htext⟩ := Option.isSome_iff_exists.mp (hall r List.mem_cons_self)
      rw [List.filterMap_cons, htext]
      simp only [List.forall₂_cons, List.forall_mem_cons, htext, Option.some.injEq]
      rw [ih fun r' hr' => hall r' (List.mem_cons_of_mem r hr')]
  constructor
  · intro h
    exact (hmap _ hsome).mp (hlinks ▸ h.results)
  · intro h
    refine ⟨?_, ?_⟩
    · rw [hcalls]
      unfold callsOf
      rw [List.map_flatMap]
    · rw [hlinks]
      exact (hmap _ hsome).mpr h

end Reading

section Messages

/-- Only tool messages carry a tool call id, and only assistant messages carry calls. -/
theorem tool_message {m : Message} (h : m.role = .tool) : m.tool_call_id.isSome ∧ m.tool_calls = [] := by
  have hok := m.ok
  unfold Message.problem at hok
  rw [if_pos h] at hok
  by_cases hid : m.tool_call_id.all isBlank = true
  · rw [if_pos hid] at hok
    cases hok
  · rw [if_neg hid] at hok
    refine ⟨?_, ?_⟩
    · cases hnone : m.tool_call_id with
      | none =>
        rw [hnone] at hid
        exact absurd rfl hid
      | some id => rfl
    · have hcalls := (or_none hok).2
      by_contra hne
      rw [if_neg (by simpa using hne)] at hcalls
      cases hcalls

theorem system_message {m : Message} (h : m.role = .system) : m.tool_calls = [] := by
  have hok := m.ok
  unfold Message.problem at hok
  rw [h] at hok
  by_contra hne
  cases hid : m.tool_call_id with
  | some id =>
    rw [hid] at hok
    cases hok
  | none =>
    rw [hid] at hok
    simp [hne] at hok

theorem caller_is_assistant {m : Message} (h : m.tool_calls ≠ []) : m.role = .assistant := by
  have hok := m.ok
  unfold Message.problem at hok
  by_cases htool : m.role = .tool
  · exact absurd (tool_message htool).2 h
  · rw [if_neg htool] at hok
    by_contra hrole
    cases hid : m.tool_call_id with
    | some id =>
      rw [hid] at hok
      cases hok
    | none =>
      rw [hid] at hok
      simp [h, hrole] at hok

theorem callsOf_mem {messages : List Message} {m : Message} {call : ToolCall} (hm : m ∈ messages)
    (hcall : call ∈ m.tool_calls) : call ∈ callsOf messages :=
  List.mem_flatMap.mpr ⟨m, hm, hcall⟩

/-- The arguments of a linked conversation's calls are sent as the objects they are. -/
theorem Linked.argumentsOf {json_loads : JsonLoads} {messages : List Message} (h : Linked json_loads messages)
    (hread : CallsRead json_loads messages) (kind : ProviderErrorClass) {call : ToolCall}
    (hcall : call ∈ callsOf messages) :
    ∃ members, ProviderRequests.argumentsOf kind json_loads call.arguments = .ok (.obj members) := by
  obtain ⟨members, hloads⟩ := (h.arguments call hcall).resolve_right (hread call hcall)
  refine ⟨members, ?_⟩
  unfold ProviderRequests.argumentsOf
  rw [hloads]

theorem conversation_nonempty {request : GenerationRequest} (h : resultsOf request.messages ≠ []) :
    (splitSystemMessages request).2.isEmpty = false := by
  obtain ⟨result, rest, hresults⟩ := List.exists_cons_of_ne_nil h
  have hmem : result ∈ resultsOf request.messages := by
    rw [hresults]
    exact List.mem_cons_self
  obtain ⟨hin, hrole⟩ := List.mem_filter.mp hmem
  have htool : result.role = .tool := of_decide_eq_true hrole
  have hkept : result ∈ (splitSystemMessages request).2 :=
    List.mem_filter.mpr ⟨hin, decide_eq_true (by rw [htool]; exact nofun)⟩
  exact List.isEmpty_eq_false_iff.mpr (List.ne_nil_of_mem hkept)

theorem idLinks_isSome {messages : List Message} :
    ∀ result ∈ resultsOf messages, result.tool_call_id.isSome := fun _ hmem =>
  (tool_message (of_decide_eq_true (List.mem_filter.mp hmem).2)).1

end Messages

section OpenAI

theorem openAI_link (m : Message) : textAt "tool_call_id" (toOpenAIMessage m) = linkText (·.tool_call_id) m := by
  unfold toOpenAIMessage linkText
  by_cases htool : m.role = .tool
  · obtain ⟨id, hid⟩ := Option.isSome_iff_exists.mp (tool_message htool).1
    simp only [htool, hid, ↓reduceIte]
    rfl
  · rw [if_neg htool, if_neg htool]
    cases m.tool_calls.isEmpty <;> rfl

theorem openAI_calls (m : Message) :
    (itemsOf "tool_calls" (toOpenAIMessage m)).flatMap (textAt "id") = m.tool_calls.map (·.id) := by
  unfold toOpenAIMessage
  by_cases htool : m.role = .tool
  · rw [if_pos htool, (tool_message htool).2]
    rfl
  · rw [if_neg htool]
    cases hcalls : m.tool_calls with
    | nil => rfl
    | cons call rest =>
      change ((call :: rest).map openAIToolCall).flatMap (textAt "id") = _
      rw [List.flatMap_map]
      exact (List.map_eq_flatMap).symm

theorem openAI_links {json_loads : JsonLoads} {request : GenerationRequest} (stream : Bool)
    (h : Linked json_loads request.messages) :
    (openAI stream).Links request := by
  intro _
  refine ⟨toOpenAIBody request stream, rfl, ?_⟩
  have hmessages : itemsOf "messages" (toOpenAIBody request stream) = request.messages.map toOpenAIMessage := rfl
  apply (linksIn_iff (·.tool_call_id) ?_ ?_ idLinks_isSome).mpr
  · intro result hmem
    obtain ⟨call, hanswers⟩ := h.answered hmem
    exact ⟨call, hanswers, hanswers.2⟩
  · change ((itemsOf "messages" (toOpenAIBody request stream)).flatMap fun m =>
      (itemsOf "tool_calls" m).flatMap (textAt "id")) = _
    rw [hmessages, List.flatMap_map]
    exact congrArg (List.flatMap · request.messages) (funext openAI_calls)
  · change (itemsOf "messages" (toOpenAIBody request stream)).flatMap (textAt "tool_call_id") = _
    rw [hmessages, List.flatMap_map]
    exact congrArg (List.flatMap · request.messages) (funext openAI_link)

end OpenAI

section Anthropic

def Tells (readCalls readLinks : Json → List String) (key : ToolCall → String) (link : Message → Option String)
    (m : Message) (j : Json) : Prop :=
  readCalls j = m.tool_calls.map key ∧ readLinks j = linkText link m

theorem blocks_tell (encode : ToolCall → Except Exn Json) (readCalls readLinks : Json → List String)
    (key : ToolCall → String) (calls : List ToolCall)
    (h : ∀ call ∈ calls, ∃ j, encode call = .ok j ∧ readCalls j = [key call] ∧ readLinks j = []) :
    ∃ js, calls.mapM encode = .ok js ∧ js.flatMap readCalls = calls.map key ∧ js.flatMap readLinks = [] := by
  obtain ⟨js, hjs, hall⟩ := mapM_all h
  refine ⟨js, hjs, ?_, ?_⟩
  · rw [forall₂_flatMap (hall.imp fun _ _ h => h.1)]
    exact (List.map_eq_flatMap).symm
  · have hnone : List.Forall₂ (fun (_ : ToolCall) j => readLinks j = []) calls js := hall.imp fun _ _ h => h.2
    rw [forall₂_flatMap hnone]
    exact List.flatMap_eq_nil_iff.mpr fun _ _ => rfl

theorem anthropic_message {json_loads : JsonLoads} {messages : List Message} (h : Linked json_loads messages)
    (hread : CallsRead json_loads messages) {m : Message} (hm : m ∈ messages) :
    ∃ j, toAnthropicMessage json_loads m = .ok j ∧
      Tells (fun j => (itemsOf "content" j).flatMap (textAt "id"))
        (fun j => (itemsOf "content" j).flatMap (textAt "tool_use_id")) (·.id) (·.tool_call_id) m j := by
  unfold toAnthropicMessage Tells linkText
  by_cases htool : m.role = .tool
  · obtain ⟨id, hid⟩ := Option.isSome_iff_exists.mp (tool_message htool).1
    simp only [htool, hid, (tool_message htool).2, ↓reduceIte]
    exact ⟨_, rfl, rfl, rfl⟩
  · rw [if_neg htool, if_neg htool]
    by_cases hcalls : m.tool_calls = []
    · rw [hcalls]
      simp only [List.isEmpty_nil, Bool.not_true, Bool.and_false, Bool.false_eq_true, ↓reduceIte]
      exact ⟨_, rfl, rfl, rfl⟩
    · have hassistant := caller_is_assistant hcalls
      obtain ⟨blocks, hblocks, hids, hlinks⟩ := blocks_tell (toolUseBlock json_loads) (textAt "id")
        (textAt "tool_use_id") (·.id) m.tool_calls (by
          intro call hcall
          obtain ⟨members, hargs⟩ := h.argumentsOf hread .anthropic (callsOf_mem hm hcall)
          unfold toolUseBlock
          rw [hargs]
          exact ⟨_, rfl, rfl, rfl⟩)
      have hne : (m.role = .assistant && !m.tool_calls.isEmpty) = true := by simp [hassistant, hcalls]
      rw [if_pos hne, hblocks]
      refine ⟨_, rfl, ?_, ?_⟩
      · change List.flatMap _ (_ ++ blocks) = _
        rw [List.flatMap_append, hids]
        cases isBlank m.content <;> rfl
      · change List.flatMap _ (_ ++ blocks) = _
        rw [List.flatMap_append, hlinks]
        cases isBlank m.content <;> rfl

theorem conversation_tells {request : GenerationRequest} {encode : Message → Except Exn Json}
    {readCalls readLinks : Json → List String} {key : ToolCall → String} {link : Message → Option String}
    (h : ∀ m ∈ request.messages, ∃ j, encode m = .ok j ∧ Tells readCalls readLinks key link m j) :
    ∃ js, (splitSystemMessages request).2.mapM encode = .ok js ∧
      js.flatMap readCalls = (request.messages.flatMap fun m => m.tool_calls.map key) ∧
      js.flatMap readLinks = request.messages.flatMap (linkText link) := by
  obtain ⟨js, hjs, hall⟩ := mapM_all (l := (splitSystemMessages request).2) fun m hm =>
    h m (List.mem_filter.mp hm).1
  have hsystem : ∀ m : Message, decide (m.role ≠ .system) = false → m.role = .system := by
    intro m hm
    simpa using hm
  refine ⟨js, hjs, ?_, ?_⟩
  · rw [forall₂_flatMap (hall.imp fun _ _ h => h.1)]
    apply flatMap_filter
    intro m hm
    rw [system_message (hsystem m hm), List.map_nil]
  · rw [forall₂_flatMap (hall.imp fun _ _ h => h.2)]
    apply flatMap_filter
    intro m hm
    unfold linkText
    rw [if_neg (by rw [hsystem m hm]; exact nofun)]

theorem anthropic_links {json_loads : JsonLoads} {request : GenerationRequest} (stream : Bool)
    (h : Linked json_loads request.messages)
    (hread : resultsOf request.messages ≠ [] → CallsRead json_loads request.messages) :
    (anthropic json_loads stream).Links request := by
  intro hresults
  obtain ⟨js, hjs, hcalls, hlinks⟩ := conversation_tells fun m hm => anthropic_message h (hread hresults) hm
  have hbody : ∃ rest, toAnthropicBody json_loads request stream = .ok (.obj ([("model", .str request.model),
      ("max_tokens", .int (request.max_output_tokens.getD defaultMaxOutputTokens)), ("messages", .arr js)] ++
        rest)) := by
    unfold toAnthropicBody
    simp only [conversation_nonempty hresults, hjs, Bool.false_eq_true, ↓reduceIte]
    exact ⟨_, rfl⟩
  obtain ⟨rest, hbody⟩ := hbody
  refine ⟨_, hbody, ?_⟩
  apply (linksIn_iff (·.tool_call_id) hcalls hlinks idLinks_isSome).mpr
  intro result hmem
  obtain ⟨call, hanswers⟩ := h.answered hmem
  exact ⟨call, hanswers, hanswers.2⟩

end Anthropic

section Gemini

theorem results_named {messages : List Message} :
    ∀ result ∈ resultsOf messages, (responseName result).isSome := by
  intro result hmem
  obtain ⟨name, hname⟩ := responseName_isSome (of_decide_eq_true (List.mem_filter.mp hmem).2)
  rw [hname]
  rfl

theorem responsePayload_ok {json_loads : JsonLoads} {content : String} (h : ¬ GivesUp json_loads content) :
    ∃ payload, responsePayload json_loads content = .ok payload := by
  unfold responsePayload
  cases hread : json_loads content with
  | ok value => cases value <;> exact ⟨_, rfl⟩
  | error failure =>
    cases failure with
    | decodeError => exact ⟨_, rfl⟩
    | valueError => exact absurd (.inl hread) h
    | recursionError => exact absurd (.inr hread) h

theorem gemini_message {json_loads : JsonLoads} {messages : List Message} (h : Linked json_loads messages)
    (hread : Readable json_loads messages) {m : Message} (hm : m ∈ messages) :
    ∃ j, geminiContent json_loads m = .ok j ∧
      Tells (fun j => (itemsOf "parts" j).flatMap (textIn "functionCall" "name"))
        (fun j => (itemsOf "parts" j).flatMap (textIn "functionResponse" "name")) (·.name) responseName m j := by
  unfold geminiContent geminiParts Tells linkText
  by_cases htool : m.role = .tool
  · have hin : m ∈ resultsOf messages := List.mem_filter.mpr ⟨hm, decide_eq_true htool⟩
    obtain ⟨name, hname⟩ := responseName_isSome htool
    obtain ⟨payload, hpayload⟩ := responsePayload_ok (hread.2 m hin)
    simp only [htool, hname, hpayload, (tool_message htool).2, ↓reduceIte]
    exact ⟨_, rfl, rfl, rfl⟩
  · rw [if_neg htool, if_neg htool]
    by_cases hcalls : m.tool_calls = []
    · simp only [hcalls, List.isEmpty_nil, ↓reduceIte]
      exact ⟨_, rfl, rfl, rfl⟩
    · obtain ⟨parts, hparts, hnames, hlinks⟩ := blocks_tell (functionCallPart json_loads) (textIn "functionCall" "name")
        (textIn "functionResponse" "name") (·.name) m.tool_calls (by
          intro call hcall
          obtain ⟨members, hargs⟩ := h.argumentsOf hread.1 .gemini (callsOf_mem hm hcall)
          unfold functionCallPart
          rw [hargs]
          exact ⟨_, rfl, rfl, rfl⟩)
      rw [if_neg (by simpa using hcalls), hparts]
      refine ⟨_, rfl, ?_, ?_⟩
      · change List.flatMap _ (_ ++ parts) = _
        rw [List.flatMap_append, hnames]
        cases isBlank m.content <;> rfl
      · change List.flatMap _ (_ ++ parts) = _
        rw [List.flatMap_append, hlinks]
        cases isBlank m.content <;> rfl

/-- Each result goes, in a Gemini body, by the name of the function it answers. -/
def NamesFit (messages : List Message) : Prop :=
  ∀ result ∈ resultsOf messages, ∀ call, Answers messages result call → responseName result = some call.name

theorem gemini_body_reads {json_loads : JsonLoads} {request : GenerationRequest} {body : Json}
    (hresults : resultsOf request.messages ≠ []) (h : toGeminiBody json_loads request = .ok body) :
    Readable json_loads request.messages := by
  have hsome : (splitSystemMessages request).2 ≠ [] := by simpa using conversation_nonempty hresults
  have hloads := body_outcome .gemini json_loads request false (.inr hsome)
  have hbody : Adapter.gemini.body json_loads request false = .ok body := h
  rw [hbody] at hloads
  have hread := loads_read hloads.symm
  have hkept : ∀ m ∈ request.messages, m.role ≠ .system → ∀ x ∈ loadedOf .gemini m, ¬ GivesUp json_loads x.text := by
    intro m hm hrole x hx
    exact hread x (List.mem_flatMap.mpr ⟨m, List.mem_filter.mpr ⟨hm, decide_eq_true hrole⟩, hx⟩)
  constructor
  · intro call hcall
    obtain ⟨m, hm, hmem⟩ := List.mem_flatMap.mp hcall
    have hassistant := caller_is_assistant (List.ne_nil_of_mem hmem)
    refine hkept m hm (by rw [hassistant]; exact nofun) (.arguments call.arguments) ?_
    unfold loadedOf
    simp only [hassistant, reduceCtorEq, ↓reduceIte]
    exact List.mem_map_of_mem hmem
  · intro result hmem
    obtain ⟨hin, hrole⟩ := List.mem_filter.mp hmem
    have htool : result.role = .tool := of_decide_eq_true hrole
    refine hkept result hin (by rw [htool]; exact nofun) (.content result.content) ?_
    unfold loadedOf
    simp only [htool, ↓reduceIte]
    exact List.mem_singleton_self _

theorem gemini_links_iff {json_loads : JsonLoads} {request : GenerationRequest}
    (h : Linked json_loads request.messages) : (gemini json_loads).Links request ↔
      (resultsOf request.messages ≠ [] → Readable json_loads request.messages) ∧ NamesFit request.messages := by
  by_cases hresults : resultsOf request.messages = []
  · unfold Vendor.Links NamesFit
    rw [hresults]
    exact iff_of_true (fun hne => absurd rfl hne) ⟨fun hne => absurd rfl hne, fun _ hmem => nomatch hmem⟩
  · by_cases hread : Readable json_loads request.messages
    · obtain ⟨js, hjs, hcalls, hlinks⟩ := conversation_tells fun m hm => gemini_message h hread hm
      have hbody : ∃ rest, toGeminiBody json_loads request = .ok (.obj ([("contents", .arr js)] ++ rest)) := by
        unfold toGeminiBody
        simp only [conversation_nonempty hresults, hjs, Bool.false_eq_true, ↓reduceIte]
        change ∃ rest, Except.ok (Json.obj ([("contents", .arr js)] ++ _ ++ _ ++ _)) = _
        simp only [List.append_assoc]
        exact ⟨_, rfl⟩
      obtain ⟨rest, hbody⟩ := hbody
      have hiff := @linksIn_iff (gemini json_loads) request.messages
        (Json.obj ([("contents", Json.arr js)] ++ rest)) responseName hcalls hlinks results_named
      constructor
      · refine fun hlinked => ⟨fun _ => hread, fun result hmem call hanswers => ?_⟩
        obtain ⟨body, hencode, hin⟩ := hlinked hresults
        rw [show (gemini json_loads).encode request = toGeminiBody json_loads request from rfl, hbody] at hencode
        cases hencode
        obtain ⟨call', hanswers', hname⟩ := hiff.mp hin result hmem
        rw [h.unique hanswers hanswers']
        exact hname
      · rintro ⟨-, hfit⟩ -
        refine ⟨_, hbody, hiff.mpr ?_⟩
        intro result hmem
        obtain ⟨call, hanswers⟩ := h.answered hmem
        exact ⟨call, hanswers, hfit result hmem call hanswers⟩
    · refine iff_of_false (fun hlinked => hread ?_) fun hboth => hread (hboth.1 hresults)
      obtain ⟨body, hencode, -⟩ := hlinked hresults
      exact gemini_body_reads hresults hencode

end Gemini

/-- All three vendors' bodies link every tool result to its call exactly when `json.loads` gives up none of their
texts and each result's name, or its tool call id when it has none, is the name of the function called. -/
theorem results_linked_iff_names_fit (json_loads : JsonLoads) (request : GenerationRequest) (stream : Bool)
    (h : Linked json_loads request.messages) :
    ((openAI stream).Links request ∧ (anthropic json_loads stream).Links request ∧
        (gemini json_loads).Links request) ↔
      (resultsOf request.messages ≠ [] → Readable json_loads request.messages) ∧ NamesFit request.messages := by
  rw [gemini_links_iff h]
  exact ⟨fun hall => hall.2.2, fun hboth =>
    ⟨openAI_links stream h, anthropic_links stream h fun hresults => (hboth.1 hresults).1, hboth⟩⟩

section Samples

def weatherCall : ToolCall := ⟨"call_0_get_weather", "get_weather", "{}", by decide⟩

/-- A question, the call it led to and the result, with the name it goes by. -/
theorem weather_asked : Message.problem .user "How warm is it?" none [] = none := by decide

theorem weather_called : Message.problem .assistant "" none [weatherCall] = none := by decide

theorem weather_answered : Message.problem .tool "72" (some "call_0_get_weather") [] = none := by decide

def weatherMessages (name : Option String) : List Message :=
  [⟨.user, "How warm is it?", none, none, [], weather_asked⟩, ⟨.assistant, "", none, none, [weatherCall], weather_called⟩,
    ⟨.tool, "72", some "call_0_get_weather", name, [], weather_answered⟩]

def weatherRequest (name : Option String) : GenerationRequest :=
  ⟨"gemini-2.5-flash", weatherMessages name, none, none, false, [], false, rfl⟩

theorem weather_linked (name : Option String) : Linked textLoads (weatherMessages name) := by
  refine ⟨by simp [callsOf, weatherMessages], ?_, ?_⟩
  · intro call hcall
    have heq : call = weatherCall := by simpa [callsOf, weatherMessages] using hcall
    rw [heq]
    exact .inl ⟨[], rfl⟩
  · intro before result after hsplit htool
    unfold weatherMessages at hsplit
    rcases before with _ | ⟨a, _ | ⟨b, _ | ⟨c, d⟩⟩⟩
    · cases hsplit
      cases htool
    · cases hsplit
      cases htool
    · cases hsplit
      exact ⟨weatherCall, by simp [callsOf], rfl⟩
    · simp at hsplit

theorem named_result_linked :
    ((openAI false).Links (weatherRequest (some "get_weather")) ∧
        (anthropic textLoads false).Links (weatherRequest (some "get_weather")) ∧
        (gemini textLoads).Links (weatherRequest (some "get_weather"))) ↔
      (resultsOf (weatherMessages (some "get_weather")) ≠ [] →
        Readable textLoads (weatherMessages (some "get_weather"))) ∧
      NamesFit (weatherMessages (some "get_weather")) :=
  results_linked_iff_names_fit textLoads (weatherRequest (some "get_weather")) false (weather_linked _)

/-- Without a name, the function response goes by the call's id, which no function has. -/
theorem unnamed_result_unlinked :
    Linked textLoads (weatherRequest none).messages ∧ ¬ (gemini textLoads).Links (weatherRequest none) := by
  refine ⟨weather_linked none, ?_⟩
  rw [gemini_links_iff (weather_linked none)]
  rintro ⟨-, hfit⟩
  have hname := hfit ⟨.tool, "72", some "call_0_get_weather", none, [], by decide⟩
    (by simp [resultsOf, weatherRequest, weatherMessages]) weatherCall
    ⟨by simp [callsOf, weatherRequest, weatherMessages], rfl⟩
  revert hname
  decide

end Samples

end AIRuntime.ToolResultLinks
