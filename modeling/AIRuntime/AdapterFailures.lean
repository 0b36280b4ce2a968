import AIRuntime.VendorSigns

set_option autoImplicit false

/-! Which exceptions the provider adapters let through. -/
namespace AIRuntime.AdapterFailures

open Traversals PythonText Failures JsonText PythonJson GenerationContracts Collaborators ProviderRequests
  ProviderPayloads ProviderStreams StreamReaders StreamSigns VendorSigns

section Generate

variable {α β : Type} {kind : ProviderErrorClass}

/-- What may be raised inside the `try` of a payload parser. -/
def Guardable (kind : ProviderErrorClass) (result : Except Exn α) : Prop :=
  ∀ err, result = .error err → isPayloadError err = true ∨ OwnError kind err

theorem Guardable.ok (a : α) : Guardable kind (.ok a) := nofun

theorem Guardable.refuse (message : String) : Guardable kind (refuse kind message : Except Exn α) := by
  intro err h
  cases h
  exact .inr (ownError_permanent kind message)

theorem Guardable.validated {problem : Option String} {mk : problem = none → α} :
    Guardable kind (validated problem mk) := by
  intro err h
  cases problem with
  | none => cases h
  | some message =>
    cases h
    exact .inl rfl

theorem Guardable.bind {result : Except Exn α} {f : α → Except Exn β} (h : Guardable kind result)
    (hf : ∀ a, Guardable kind (f a)) : Guardable kind (result.bind f) := by
  intro err herr
  cases result with
  | error e =>
    cases herr
    exact h _ rfl
  | ok a => exact hf a err herr

theorem Guardable.map {result : Except Exn α} (f : α → β) (h : Guardable kind result) :
    Guardable kind (result.map f) := by
  intro err herr
  cases result with
  | error e =>
    cases herr
    exact h _ rfl
  | ok a => cases herr

theorem Guardable.mapM {f : α → Except Exn β} (hf : ∀ a, Guardable kind (f a)) (items : List α) :
    Guardable kind (items.mapM f) := by
  induction items with
  | nil => exact Guardable.ok []
  | cons a rest ih =>
    rw [List.mapM_cons]
    exact Guardable.bind (hf a) fun b => Guardable.bind ih fun bs => Guardable.ok (b :: bs)

theorem Guardable.guarded {result : Except Exn α} (message : String) (h : Guardable kind result) :
    RaisesOwn kind (guarded kind message result) := by
  intro err herr
  cases result with
  | ok a => cases herr
  | error e =>
    unfold ProviderPayloads.guarded at herr
    simp only at herr
    split_ifs at herr with he
    · cases herr
      exact ownError_permanent kind message
    · cases herr
      exact (h _ rfl).resolve_left he

theorem tokenUsage_guardable (input_tokens output_tokens : ℤ) :
    Guardable kind ((TokenUsage.new input_tokens output_tokens).map some) := Guardable.map some Guardable.validated

theorem assistantResponse_guardable (id model content : String) (tool_calls : List ToolCall)
    (usage : Option TokenUsage) : Guardable kind (assistantResponse id model content tool_calls usage) :=
  Guardable.bind Guardable.validated fun _ => Guardable.validated

theorem validId_guardable (message : String) (id : Json) : Guardable kind (validId kind message id) := by
  unfold validId
  split
  · exact Guardable.ok _
  · exact Guardable.refuse _

theorem openAIToolCallOf_guardable (raw : Json) : Guardable .openAI (openAIToolCallOf raw) := by
  unfold openAIToolCallOf
  simp only
  split
  · split
    · exact Guardable.validated
    · exact Guardable.refuse _
  · exact Guardable.refuse _

theorem toolCallsFromOpenAI_guardable (raw_calls : Json) : Guardable .openAI (toolCallsFromOpenAI raw_calls) := by
  unfold toolCallsFromOpenAI
  split
  · exact Guardable.ok []
  · exact Guardable.mapM openAIToolCallOf_guardable _
  · exact Guardable.refuse _

theorem usageFromOpenAIPayload_guardable (usage_payload : Json) :
    Guardable .openAI (usageFromOpenAIPayload usage_payload) := by
  unfold usageFromOpenAIPayload
  split
  · split
    · exact tokenUsage_guardable _ _
    · exact Guardable.refuse _
  · exact Guardable.ok none

theorem openAIResponseId_guardable (payload : Json) : Guardable .openAI (openAIResponseId payload) := by
  unfold openAIResponseId
  split
  · intro err h
    cases h
    exact .inl rfl
  · exact validId_guardable _ _

theorem openAIMessage_guardable (payload : Json) : Guardable .openAI (openAIMessage payload) := by
  unfold openAIMessage
  split
  · split
    · exact Guardable.ok _
    · exact Guardable.refuse _
  · exact Guardable.refuse _
  · exact Guardable.refuse _

theorem openAIContent_guardable (message : Json) : Guardable .openAI (openAIContent message) := by
  unfold openAIContent
  split
  · exact Guardable.ok _
  · exact Guardable.ok _
  · exact Guardable.refuse _

theorem fromOpenAIPayload_raises (payload : Json) (request : GenerationRequest) :
    RaisesOwn .openAI (fromOpenAIPayload payload request) := by
  apply Guardable.guarded
  refine Guardable.bind (openAIResponseId_guardable payload) fun response_id => ?_
  refine Guardable.bind (openAIMessage_guardable payload) fun message => ?_
  refine Guardable.bind (openAIContent_guardable message) fun content => ?_
  refine Guardable.bind (toolCallsFromOpenAI_guardable _) fun tool_calls => ?_
  split
  · exact Guardable.refuse _
  · exact Guardable.bind (usageFromOpenAIPayload_guardable _) fun usage => assistantResponse_guardable _ _ _ _ _

theorem usageFromAnthropicPayload_guardable (usage_payload : Json) :
    Guardable .anthropic (usageFromAnthropicPayload usage_payload) := by
  unfold usageFromAnthropicPayload
  split
  · split
    · exact tokenUsage_guardable _ _
    · exact Guardable.refuse _
  · exact Guardable.ok none

theorem blockText_guardable (block : Json) : Guardable .anthropic (blockText block) := by
  unfold blockText
  split
  · exact Guardable.refuse _
  · split
    · exact Guardable.ok none
    · split
      · exact Guardable.ok _
      · exact Guardable.refuse _

theorem textFromContentBlocks_guardable (content_blocks : Json) :
    Guardable .anthropic (textFromContentBlocks content_blocks) := by
  unfold textFromContentBlocks
  split
  · exact Guardable.map _ (Guardable.mapM blockText_guardable _)
  · exact Guardable.refuse _

theorem jsonDumps_guardable (value : Json) : Guardable kind (jsonDumps value) := by
  unfold jsonDumps
  split
  · exact Guardable.ok _
  · intro err h
    cases h
    exact .inl rfl

theorem blockToolCall_guardable (block : Json) : Guardable .anthropic (blockToolCall block) := by
  unfold blockToolCall
  split
  · exact Guardable.ok none
  · split
    · exact Guardable.bind (jsonDumps_guardable _) fun _ => Guardable.map some Guardable.validated
    · exact Guardable.refuse _

theorem toolCallsFromAnthropic_guardable (content_blocks : Json) :
    Guardable .anthropic (toolCallsFromAnthropic content_blocks) := by
  unfold toolCallsFromAnthropic
  split
  · exact Guardable.map _ (Guardable.mapM blockToolCall_guardable _)
  · exact Guardable.ok []

theorem fromAnthropicPayload_raises (payload : Json) (request : GenerationRequest) :
    RaisesOwn .anthropic (fromAnthropicPayload payload request) := by
  apply Guardable.guarded
  refine Guardable.bind (validId_guardable _ _) fun response_id => ?_
  refine Guardable.bind (textFromContentBlocks_guardable _) fun content => ?_
  refine Guardable.bind (toolCallsFromAnthropic_guardable _) fun tool_calls => ?_
  split
  · exact Guardable.refuse _
  · exact Guardable.bind (usageFromAnthropicPayload_guardable _) fun usage => assistantResponse_guardable _ _ _ _ _

theorem partText_guardable (part : Json) : Guardable .gemini (partText part) := by
  unfold partText
  split
  · exact Guardable.refuse _
  · split
    · exact Guardable.ok none
    · exact Guardable.ok none
    · exact Guardable.ok _
    · exact Guardable.refuse _

theorem optionalTextFromParts_guardable (parts : Json) : Guardable .gemini (optionalTextFromParts parts) := by
  unfold optionalTextFromParts
  split
  · exact Guardable.map _ (Guardable.mapM partText_guardable _)
  · exact Guardable.ok _

theorem partToolCall_guardable (part : Json × ℕ) : Guardable .gemini (partToolCall part) := by
  unfold partToolCall
  split
  · exact Guardable.ok none
  · split
    · exact Guardable.bind (jsonDumps_guardable _) fun _ => Guardable.map some Guardable.validated
    · exact Guardable.refuse _

theorem toolCallsFromGemini_guardable (parts : Json) : Guardable .gemini (toolCallsFromGemini parts) := by
  unfold toolCallsFromGemini
  split
  · exact Guardable.map _ (Guardable.mapM partToolCall_guardable _)
  · exact Guardable.ok []

theorem geminiCandidateContent_guardable (payload : Json) : Guardable .gemini (geminiCandidateContent payload) := by
  unfold geminiCandidateContent
  split
  · split
    · exact Guardable.ok _
    · exact Guardable.refuse _
  · exact Guardable.refuse _
  · exact Guardable.refuse _

theorem usageFromGeminiPayload_guardable (usage_payload : Json) :
    Guardable .gemini (usageFromGeminiPayload usage_payload) := by
  unfold usageFromGeminiPayload
  split
  · split
    · exact tokenUsage_guardable _ _
    · exact Guardable.refuse _
  · exact Guardable.ok none

theorem fromGeminiPayload_raises (payload : Json) (request : GenerationRequest) :
    RaisesOwn .gemini (fromGeminiPayload payload request) := by
  apply Guardable.guarded
  refine Guardable.bind (validId_guardable _ _) fun response_id => ?_
  refine Guardable.bind (geminiCandidateContent_guardable payload) fun content => ?_
  refine Guardable.bind (optionalTextFromParts_guardable _) fun output_text => ?_
  refine Guardable.bind (toolCallsFromGemini_guardable _) fun tool_calls => ?_
  split
  · exact Guardable.refuse _
  · exact Guardable.bind (usageFromGeminiPayload_guardable _) fun usage => assistantResponse_guardable _ _ _ _ _

theorem fromPayload_raises (adapter : Adapter) (payload : Json) (request : GenerationRequest) :
    RaisesOwn adapter.kind (adapter.fromPayload payload request) := by
  cases adapter with
  | openAI => exact fromOpenAIPayload_raises payload request
  | anthropic => exact fromAnthropicPayload_raises payload request
  | gemini => exact fromGeminiPayload_raises payload request

end Generate

section Bodies

variable {json_loads : JsonLoads} {kind : ProviderErrorClass}

/-- A text that is read to build a request body: the arguments of a call, or the content of a tool message. -/
inductive Loaded where
  | arguments (text : String)
  | content (text : String)

def Loaded.text : Loaded → String
  | .arguments text => text
  | .content text => text

/-- Only arguments are refused: what is no JSON and what is no object. -/
def Loaded.Refused (json_loads : JsonLoads) : Loaded → Prop
  | .arguments text => json_loads text = .error .decodeError ∨
      ∃ value, json_loads text = .ok value ∧ isObject value = false
  | .content _ => False

def Loaded.load (kind : ProviderErrorClass) (json_loads : JsonLoads) : Loaded → Except Exn Unit
  | .arguments text => outcome (argumentsOf kind json_loads text)
  | .content text => outcome (responsePayload json_loads text)

def loadedOf (adapter : Adapter) (message : Message) : List Loaded :=
  match adapter with
  | .openAI => []
  | .anthropic =>
    if message.role = .assistant then message.tool_calls.map fun call => .arguments call.arguments else []
  | .gemini =>
    if message.role = .tool then [.content message.content]
    else message.tool_calls.map fun call => .arguments call.arguments

def loaded (adapter : Adapter) (request : GenerationRequest) : List Loaded :=
  (splitSystemMessages request).2.flatMap (loadedOf adapter)

/-- No text is given up, unless one before it is refused. -/
def Settled (json_loads : JsonLoads) (texts : List Loaded) : Prop :=
  ∀ before x after, texts = before ++ x :: after → GivesUp json_loads x.text → ∃ y ∈ before, y.Refused json_loads

theorem settled_nil : Settled json_loads [] := by
  intro before x after h
  cases before <;> cases h

theorem settled_cons {x : Loaded} {texts : List Loaded} : Settled json_loads (x :: texts) ↔
    ¬ GivesUp json_loads x.text ∧ (x.Refused json_loads ∨ Settled json_loads texts) := by
  constructor
  · intro h
    refine ⟨fun hgives => ?_, or_iff_not_imp_left.mpr fun hkept => ?_⟩
    · obtain ⟨y, hy, -⟩ := h [] x texts rfl hgives
      cases hy
    · intro before y after htexts hgives
      obtain ⟨z, hz, hrefused⟩ := h (x :: before) y after (by rw [htexts]; rfl) hgives
      rcases List.mem_cons.mp hz with rfl | hz
      · exact absurd hrefused hkept
      · exact ⟨z, hz, hrefused⟩
  · rintro ⟨hread, hcases⟩ before y after htexts hgives
    cases before with
    | nil =>
      cases htexts
      exact absurd hgives hread
    | cons first before =>
      cases htexts
      rcases hcases with hrefused | hlater
      · exact ⟨x, List.mem_cons_self, hrefused⟩
      · obtain ⟨z, hz, hrefused⟩ := hlater before y after rfl hgives
        exact ⟨z, List.mem_cons_of_mem _ hz, hrefused⟩

theorem load_cases (kind : ProviderErrorClass) (x : Loaded) :
    (GivesUp json_loads x.text ∧ ∃ name, x.load kind json_loads = .error (.other name)) ∨
    (¬ GivesUp json_loads x.text ∧ x.Refused json_loads ∧
      ∃ err, x.load kind json_loads = .error err ∧ OwnError kind err) ∨
    (¬ GivesUp json_loads x.text ∧ ¬ x.Refused json_loads ∧ x.load kind json_loads = .ok ()) := by
  unfold GivesUp
  cases x with
  | arguments text =>
    unfold Loaded.load argumentsOf
    simp only [Loaded.text, Loaded.Refused]
    cases hread : json_loads text with
    | ok value =>
      cases value with
      | obj members => exact .inr (.inr ⟨by simp, by simp [isObject], rfl⟩)
      | _ => exact .inr (.inl ⟨by simp, by simp [isObject], _, rfl, ownError_permanent _ _⟩)
    | error failure =>
      cases failure with
      | decodeError => exact .inr (.inl ⟨by simp, .inl rfl, _, rfl, ownError_permanent _ _⟩)
      | valueError => exact .inl ⟨.inl rfl, _, rfl⟩
      | recursionError => exact .inl ⟨.inr rfl, _, rfl⟩
  | content text =>
    unfold Loaded.load responsePayload
    simp only [Loaded.text, Loaded.Refused]
    cases hread : json_loads text with
    | ok value => cases value <;> exact .inr (.inr ⟨by simp, not_false, rfl⟩)
    | error failure =>
      cases failure with
      | decodeError => exact .inr (.inr ⟨by simp, not_false, rfl⟩)
      | valueError => exact .inl ⟨.inl rfl, _, rfl⟩
      | recursionError => exact .inl ⟨.inr rfl, _, rfl⟩

theorem not_own_other (kind : ProviderErrorClass) (name : String) : ¬ OwnError kind (.other name) := by
  rintro ⟨e, h, -⟩
  cases h

theorem loads_cons (x : Loaded) (texts : List Loaded) : (x :: texts).forM (Loaded.load kind json_loads) =
    (x.load kind json_loads).bind fun _ => texts.forM (Loaded.load kind json_loads) := rfl

/-- Texts read one after the other: the first that is given up or refused says what is raised. -/
theorem loads_raise_iff (texts : List Loaded) :
    RaisesOwn kind (texts.forM (Loaded.load kind json_loads)) ↔ Settled json_loads texts := by
  induction texts with
  | nil => exact iff_of_true nofun settled_nil
  | cons x texts ih =>
    rw [loads_cons, settled_cons]
    rcases load_cases kind x with ⟨hgives, name, hload⟩ | ⟨hread, hrefused, err, hload, hown⟩ | ⟨hread, hkept, hload⟩
    · rw [hload]
      exact iff_of_false (fun h => not_own_other kind name (h _ rfl)) fun h => h.1 hgives
    · rw [hload]
      exact iff_of_true (raisesOwn_error.mpr hown) ⟨hread, .inl hrefused⟩
    · rw [hload]
      exact ih.trans ⟨fun h => ⟨hread, .inr h⟩, fun h => h.2.resolve_left hkept⟩

theorem loads_return_iff (texts : List Loaded) (h : Settled json_loads texts) :
    (∃ err, texts.forM (Loaded.load kind json_loads) = .error err) ↔ ∃ x ∈ texts, x.Refused json_loads := by
  induction texts with
  | nil =>
    refine iff_of_false (fun hsome => nomatch hsome) ?_
    rintro ⟨x, hx, -⟩
    cases hx
  | cons x texts ih =>
    rw [loads_cons]
    obtain ⟨hread, hcases⟩ := settled_cons.mp h
    rcases load_cases kind x with ⟨hgives, -⟩ | ⟨-, hrefused, err, hload, -⟩ | ⟨-, hkept, hload⟩
    · exact absurd hgives hread
    · rw [hload]
      exact iff_of_true ⟨err, rfl⟩ ⟨x, List.mem_cons_self, hrefused⟩
    · rw [hload]
      refine (ih (hcases.resolve_left hkept)).trans ⟨?_, ?_⟩
      · rintro ⟨y, hy, hrefused⟩
        exact ⟨y, List.mem_cons_of_mem _ hy, hrefused⟩
      · rintro ⟨y, hy, hrefused⟩
        rcases List.mem_cons.mp hy with rfl | hy
        · exact absurd hrefused hkept
        · exact ⟨y, hy, hrefused⟩

theorem loads_read {texts : List Loaded} (h : texts.forM (Loaded.load kind json_loads) = .ok ()) :
    ∀ x ∈ texts, ¬ GivesUp json_loads x.text := by
  have hsettled : Settled json_loads texts := (@loads_raise_iff json_loads kind texts).mp (by rw [h]; exact nofun)
  have hkept : ¬ ∃ x ∈ texts, x.Refused json_loads := by
    rw [← @loads_return_iff json_loads kind texts hsettled, h]
    exact fun hsome => nomatch hsome
  intro x hx hgives
  obtain ⟨before, after, hsplit⟩ := List.append_of_mem hx
  obtain ⟨y, hy, hrefused⟩ := hsettled before x after hsplit hgives
  exact hkept ⟨y, by rw [hsplit]; exact List.mem_append_left _ hy, hrefused⟩

/-- A tool message has an id, so its function response has a name. -/
theorem responseName_isSome {message : Message} (h : message.role = .tool) :
    ∃ name, responseName message = some name := by
  have hid : message.tool_call_id.isSome := by
    have hok := message.ok
    unfold Message.problem at hok
    rw [if_pos h] at hok
    cases htool : message.tool_call_id with
    | none =>
      rw [htool] at hok
      cases hok
    | some id => rfl
  obtain ⟨id, hsome⟩ := Option.isSome_iff_exists.mp hid
  unfold responseName
  split
  · split
    · exact ⟨id, hsome⟩
    · exact ⟨_, rfl⟩
  · exact ⟨id, hsome⟩

theorem loads_singleton (x : Loaded) : [x].forM (Loaded.load kind json_loads) = x.load kind json_loads := by
  rw [loads_cons]
  cases x.load kind json_loads <;> rfl

theorem calls_outcome {encode : ToolCall → Except Exn Json} (kind : ProviderErrorClass)
    (h : ∀ call, outcome (encode call) = outcome (argumentsOf kind json_loads call.arguments))
    (calls : List ToolCall) : outcome (calls.mapM encode) =
      (calls.map fun call => Loaded.arguments call.arguments).forM (Loaded.load kind json_loads) := by
  have hparts : calls.flatMap (fun call => [Loaded.arguments call.arguments]) =
      calls.map fun call => Loaded.arguments call.arguments := List.flatMap_pure_eq_map _ _
  rw [← hparts]
  apply outcome_mapM
  intro call _
  rw [h]
  exact (loads_singleton (.arguments call.arguments)).symm

theorem toAnthropicMessage_outcome (message : Message) : outcome (toAnthropicMessage json_loads message) =
    (loadedOf .anthropic message).forM (Loaded.load .anthropic json_loads) := by
  unfold toAnthropicMessage loadedOf
  split
  · rename_i htool
    rw [htool]
    rfl
  · split
    · rename_i hassistant
      have hrole : message.role = .assistant := by simpa using (Bool.and_eq_true_iff.mp hassistant).1
      simp only [hrole, ↓reduceIte]
      rw [outcome_map]
      exact calls_outcome .anthropic (fun call => outcome_map _ _) message.tool_calls
    · rename_i hplain
      by_cases hrole : message.role = .assistant
      · have hnone : message.tool_calls = [] := by simpa [hrole] using hplain
        simp only [hrole, hnone]
        rfl
      · simp only [hrole]
        rfl

theorem geminiContent_outcome (message : Message) : outcome (geminiContent json_loads message) =
    (loadedOf .gemini message).forM (Loaded.load .gemini json_loads) := by
  unfold geminiContent geminiParts loadedOf
  rw [outcome_map]
  split
  · rename_i htool
    obtain ⟨name, hname⟩ := responseName_isSome htool
    rw [hname]
    simp only
    rw [outcome_map]
    exact (loads_singleton (.content message.content)).symm
  · split
    · rename_i hnone
      rw [List.isEmpty_iff.mp hnone]
      rfl
    · rw [outcome_map]
      exact calls_outcome .gemini (fun call => outcome_map _ _) message.tool_calls

/-- The request is not sent: no message is left but the system's, or arguments are refused. -/
def Unsent (adapter : Adapter) (json_loads : JsonLoads) (request : GenerationRequest) : Prop :=
  adapter ≠ .openAI ∧ (splitSystemMessages request).2 = [] ∨ ∃ x ∈ loaded adapter request, x.Refused json_loads

/-- Building a body with messages is reading what it takes from them. -/
theorem body_outcome (adapter : Adapter) (json_loads : JsonLoads) (request : GenerationRequest) (stream : Bool)
    (h : adapter = .openAI ∨ (splitSystemMessages request).2 ≠ []) :
    outcome (adapter.body json_loads request stream) =
      (loaded adapter request).forM (Loaded.load adapter.kind json_loads) := by
  unfold Adapter.body loaded
  cases adapter with
  | openAI =>
    have hnone : (splitSystemMessages request).2.flatMap (loadedOf .openAI) = [] :=
      List.flatMap_eq_nil_iff.mpr fun _ _ => rfl
    rw [hnone]
    rfl
  | anthropic =>
    have hsome : (splitSystemMessages request).2.isEmpty = false := by simpa using h
    simp only [toAnthropicBody, hsome]
    exact (outcome_map _ _).trans (outcome_mapM fun message _ => toAnthropicMessage_outcome message)
  | gemini =>
    have hsome : (splitSystemMessages request).2.isEmpty = false := by simpa using h
    simp only [toGeminiBody, hsome]
    exact (outcome_map _ _).trans (outcome_mapM fun message _ => geminiContent_outcome message)

theorem body_empty (adapter : Adapter) (json_loads : JsonLoads) (request : GenerationRequest) (stream : Bool)
    (hadapter : adapter ≠ .openAI) (h : (splitSystemMessages request).2 = []) :
    ∃ err, adapter.body json_loads request stream = .error err ∧ OwnError adapter.kind err := by
  cases adapter with
  | openAI => exact absurd rfl hadapter
  | anthropic =>
    refine ⟨noConversation .anthropic, ?_, ownError_permanent _ _⟩
    unfold Adapter.body toAnthropicBody
    simp only [h, List.isEmpty_nil, ↓reduceIte]
  | gemini =>
    refine ⟨noConversation .gemini, ?_, ownError_permanent _ _⟩
    unfold Adapter.body toGeminiBody
    simp only [h, List.isEmpty_nil, ↓reduceIte]

theorem raisesOwn_outcome {α : Type} {result : Except Exn α} :
    RaisesOwn kind (outcome result) ↔ RaisesOwn kind result := by
  cases result with
  | ok a => exact iff_of_true nofun nofun
  | error err => exact raisesOwn_error.trans raisesOwn_error.symm

/-- What building a body raises is the adapter's own error exactly if what it reads is settled. -/
theorem body_raises_iff (adapter : Adapter) (json_loads : JsonLoads) (request : GenerationRequest) (stream : Bool) :
    RaisesOwn adapter.kind (adapter.body json_loads request stream) ↔ Settled json_loads (loaded adapter request) := by
  by_cases hempty : adapter ≠ .openAI ∧ (splitSystemMessages request).2 = []
  · obtain ⟨err, herr, hown⟩ := body_empty adapter json_loads request stream hempty.1 hempty.2
    rw [herr]
    refine iff_of_true (raisesOwn_error.mpr hown) ?_
    unfold loaded
    rw [hempty.2]
    exact settled_nil
  · have hsome : adapter = .openAI ∨ (splitSystemMessages request).2 ≠ [] := by
      by_cases hadapter : adapter = .openAI
      · exact .inl hadapter
      · exact .inr fun hnone => hempty ⟨hadapter, hnone⟩
    rw [← raisesOwn_outcome, body_outcome adapter json_loads request stream hsome]
    exact loads_raise_iff _

theorem body_unsent_iff (adapter : Adapter) (json_loads : JsonLoads) (request : GenerationRequest) (stream : Bool)
    (h : Settled json_loads (loaded adapter request)) :
    (∃ err, adapter.body json_loads request stream = .error err) ↔ Unsent adapter json_loads request := by
  unfold Unsent
  by_cases hempty : adapter ≠ .openAI ∧ (splitSystemMessages request).2 = []
  · obtain ⟨err, herr, -⟩ := body_empty adapter json_loads request stream hempty.1 hempty.2
    exact iff_of_true ⟨err, herr⟩ (.inl hempty)
  · have hsome : adapter = .openAI ∨ (splitSystemMessages request).2 ≠ [] := by
      by_cases hadapter : adapter = .openAI
      · exact .inl hadapter
      · exact .inr fun hnone => hempty ⟨hadapter, hnone⟩
    have hbody := body_outcome adapter json_loads request stream hsome
    rw [or_iff_right hempty, ← @loads_return_iff json_loads adapter.kind _ h, ← hbody]
    exact exists_congr fun err => outcome_error.symm

end Bodies

section Adapters

def AnswerSettles : HttpReply → Prop
  | .failed => True
  | .raised _ => False
  | .answered status_code body => 400 ≤ status_code ∨ body ≠ .error .recursionError

def GenerateSettles (adapter : Adapter) (json_loads : JsonLoads) (request : GenerationRequest) (reply : HttpReply) :
    Prop :=
  Settled json_loads (loaded adapter request) ∧ (Unsent adapter json_loads request ∨ AnswerSettles reply)

def EventsSettle (adapter : Adapter) (json_loads : JsonLoads) : StreamReply → Prop
  | .failed => True
  | .raised _ => False
  | .answered status_code events completed =>
    400 ≤ status_code ∨ (signsOf adapter).Settles (doneOf adapter) json_loads events completed

def StreamSettles (adapter : Adapter) (json_loads : JsonLoads) (request : GenerationRequest) (reply : StreamReply) :
    Prop :=
  Settled json_loads (loaded adapter request) ∧
    (Unsent adapter json_loads request ∨ EventsSettle adapter json_loads reply)

theorem answer_raises_iff (adapter : Adapter) (json_loads : JsonLoads) (request : GenerationRequest)
    (reply : HttpReply) {body : Json} (hbody : adapter.body json_loads request false = .ok body) :
    RaisesOwn adapter.kind (generate adapter json_loads request reply) ↔ AnswerSettles reply := by
  unfold generate AnswerSettles
  rw [hbody]
  simp only [bind, Except.bind]
  cases reply with
  | failed => exact iff_of_true (raisesOwn_error.mpr ⟨_, rfl, rfl⟩) trivial
  | raised name => exact iff_of_false (fun h => not_own_other _ name (h _ rfl)) not_false
  | answered status_code body =>
    by_cases hstatus : 400 ≤ status_code
    · simp only [hstatus, ↓reduceIte]
      exact iff_of_true (raisesOwn_error.mpr ⟨_, rfl, rfl⟩) (.inl trivial)
    · simp only [hstatus, ↓reduceIte, false_or]
      cases body with
      | error failure =>
        cases failure with
        | recursionError => exact iff_of_false (fun h => not_own_other _ "RecursionError" (h _ rfl)) fun h => h rfl
        | _ => exact iff_of_true (raisesOwn_error.mpr (ownError_permanent _ _)) (by rintro ⟨⟩)
      | ok payload =>
        refine iff_of_true ?_ (by rintro ⟨⟩)
        cases payload with
        | obj members => exact fromPayload_raises adapter (.obj members) request
        | _ => exact raisesOwn_error.mpr (ownError_permanent _ _)

theorem generate_raises_own_iff (adapter : Adapter) (json_loads : JsonLoads) (request : GenerationRequest)
    (reply : HttpReply) : RaisesOwn adapter.kind (generate adapter json_loads request reply) ↔
      GenerateSettles adapter json_loads request reply := by
  unfold GenerateSettles
  rw [← body_raises_iff adapter json_loads request false]
  cases hbody : adapter.body json_loads request false with
  | error err =>
    have hgenerate : generate adapter json_loads request reply = .error err := by
      unfold generate
      rw [hbody]
      rfl
    rw [hgenerate, raisesOwn_error, raisesOwn_error]
    refine ⟨fun hown => ⟨hown, .inl ?_⟩, And.left⟩
    have hsettled := (body_raises_iff adapter json_loads request false).mp (by rw [hbody]; exact raisesOwn_error.mpr hown)
    exact (body_unsent_iff adapter json_loads request false hsettled).mp ⟨err, hbody⟩
  | ok body =>
    have hsettled := (body_raises_iff adapter json_loads request false).mp (by rw [hbody]; exact nofun)
    have hsent : ¬ Unsent adapter json_loads request := by
      rw [← body_unsent_iff adapter json_loads request false hsettled, hbody]
      exact fun hsome => nomatch hsome
    rw [answer_raises_iff adapter json_loads request reply hbody]
    exact ⟨fun h => ⟨nofun, .inr h⟩, fun h => h.2.resolve_left hsent⟩

theorem scriptOf_raises_iff (adapter : Adapter) (json_loads : JsonLoads) (request : GenerationRequest)
    (events : List SseEvent) (completed : Bool) :
    RaisesOwn adapter.kind (scriptOf adapter json_loads request events completed).ending ↔
      (signsOf adapter).Settles (doneOf adapter) json_loads events completed := by
  cases adapter with
  | openAI => exact script_raises_iff openAI_faithful json_loads request events completed
  | anthropic => exact script_raises_iff anthropic_faithful json_loads request events completed
  | gemini => exact script_raises_iff gemini_faithful json_loads request events completed

theorem stream_unsent {adapter : Adapter} {json_loads : JsonLoads} {request : GenerationRequest} {err : Exn}
    (h : adapter.body json_loads request true = .error err) (reply : StreamReply) :
    stream adapter json_loads request reply = ⟨[], .error err⟩ := by
  unfold stream
  rw [h]

theorem events_raise_iff (adapter : Adapter) (json_loads : JsonLoads) (request : GenerationRequest)
    (reply : StreamReply) {body : Json} (hbody : adapter.body json_loads request true = .ok body) :
    RaisesOwn adapter.kind (stream adapter json_loads request reply).ending ↔
      EventsSettle adapter json_loads reply := by
  unfold stream EventsSettle
  rw [hbody]
  cases reply with
  | failed => exact iff_of_true (raisesOwn_error.mpr ⟨_, rfl, rfl⟩) trivial
  | raised name => exact iff_of_false (fun h => not_own_other _ name (h _ rfl)) not_false
  | answered status_code events completed =>
    by_cases hstatus : 400 ≤ status_code
    · simp only [hstatus, ↓reduceIte]
      refine iff_of_true (raisesOwn_error.mpr ?_) (.inl trivial)
      split
      · exact ⟨_, rfl, rfl⟩
      · exact ⟨_, rfl, rfl⟩
    · simp only [hstatus, ↓reduceIte, false_or]
      exact scriptOf_raises_iff adapter json_loads request events completed

theorem stream_raises_own_iff (adapter : Adapter) (json_loads : JsonLoads) (request : GenerationRequest)
    (reply : StreamReply) : RaisesOwn adapter.kind (stream adapter json_loads request reply).ending ↔
      StreamSettles adapter json_loads request reply := by
  unfold StreamSettles
  rw [← body_raises_iff adapter json_loads request true]
  cases hbody : adapter.body json_loads request true with
  | error err =>
    rw [stream_unsent hbody, raisesOwn_error, raisesOwn_error]
    refine ⟨fun hown => ⟨hown, .inl ?_⟩, And.left⟩
    have hsettled := (body_raises_iff adapter json_loads request true).mp (by rw [hbody]; exact raisesOwn_error.mpr hown)
    exact (body_unsent_iff adapter json_loads request true hsettled).mp ⟨err, hbody⟩
  | ok body =>
    have hsettled := (body_raises_iff adapter json_loads request true).mp (by rw [hbody]; exact nofun)
    have hsent : ¬ Unsent adapter json_loads request := by
      rw [← body_unsent_iff adapter json_loads request true hsettled, hbody]
      exact fun hsome => nomatch hsome
    rw [events_raise_iff adapter json_loads request reply hbody]
    exact ⟨fun h => ⟨nofun, .inr h⟩, fun h => h.2.resolve_left hsent⟩

/-- An adapter raises nothing but its own error exactly when what it reads settles. -/
theorem adapters_raise_own_iff (adapter : Adapter) (json_loads : JsonLoads) (request : GenerationRequest)
    (reply : HttpReply) (streamed : StreamReply) :
    (RaisesOwn adapter.kind (generate adapter json_loads request reply) ↔
      GenerateSettles adapter json_loads request reply) ∧
    (RaisesOwn adapter.kind (stream adapter json_loads request streamed).ending ↔
      StreamSettles adapter json_loads request streamed) :=
  ⟨generate_raises_own_iff adapter json_loads request reply, stream_raises_own_iff adapter json_loads request streamed⟩

end Adapters

section Samples

def greetingRequest : GenerationRequest where
  model := "gpt-4o"
  messages := [⟨.user, "Hello", none, none, [], hello_ok⟩]
  temperature := none
  max_output_tokens := none
  stream := true
  tools := []
  cache := false
  ok := by decide

def spaceEvents : List SseEvent :=
  [⟨none, dumps (.obj [("id", .str "r1"),
      ("choices", .arr [.obj [("delta", .obj [("content", .str " ")])]])])⟩,
    ⟨none, "[DONE]"⟩]

/-- A stream of blank text ends with a `DomainValidationError`. -/
theorem blank_stream_raises_validation :
    ¬ RaisesOwn Adapter.openAI.kind
      (stream .openAI textLoads greetingRequest (.answered 200 spaceEvents true)).ending := by
  have hending : (stream .openAI textLoads greetingRequest (.answered 200 spaceEvents true)).ending =
      .error (.domainValidation "content must not be empty or blank") := by
    decide +kernel
  rw [hending, raisesOwn_error]
  exact not_own_validation _ _

end Samples

end AIRuntime.AdapterFailures
