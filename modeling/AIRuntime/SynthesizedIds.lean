import AIRuntime.ListPositions
import AIRuntime.ProviderPayloads
import AIRuntime.ToolResultLinks
import Mathlib.Data.List.Flatten

set_option autoImplicit false

/-! The ids that the Gemini adapter gives to tool calls, over the turns of a conversation. -/
namespace AIRuntime.SynthesizedIds

open PythonText Failures JsonText ListPositions GenerationContracts ProviderPayloads ToolResultLinks

section Slots

/-- Where a call stands in its response, and the function it calls. -/
abbrev Slot := ℕ × String

/-- `call_{index}_{name}`. -/
def slotId (slot : Slot) : String := "call_" ++ slot.1.repr ++ "_" ++ slot.2

def partSlot (part : Json × ℕ) : Option Slot :=
  (part.1.get? "functionCall").map fun function_call => (part.2, (item function_call "name").str?.getD "")

def partSlots (parts : Json) : List Slot :=
  match parts with
  | .arr parts => parts.zipIdx.filterMap partSlot
  | _ => []

def callSlots (payload : Json) : List Slot :=
  match geminiCandidateContent payload with
  | .ok content => partSlots (item content "parts")
  | .error _ => []

theorem slotId_toList (slot : Slot) :
    (slotId slot).toList = "call_".toList ++ (Nat.toDigits 10 slot.1 ++ '_' :: slot.2.toList) := by
  unfold slotId
  rw [Nat.repr_eq_ofList_toDigits]
  simp only [String.toList_append, String.toList_ofList, List.append_assoc]
  rfl

theorem underscore_not_digit (n : ℕ) : '_' ∉ Nat.toDigits 10 n := by
  intro hmem
  have hdigit := toDigits_isDigit n '_' hmem
  revert hdigit
  decide

theorem slotId_injective : Function.Injective slotId := by
  rintro ⟨index, name⟩ ⟨index', name'⟩ h
  have hlist := congrArg String.toList h
  rw [slotId_toList, slotId_toList] at hlist
  rcases append_cons_cases (List.append_cancel_left hlist) with ⟨hdigits, hname⟩ | ⟨more, hmore⟩ | ⟨more, hmore⟩
  · have hindex := congrArg (fun ds => Nat.ofDigitChars 10 ds 0) hdigits
    simp only [Nat.ofDigitChars_ten_toDigits] at hindex
    exact Prod.ext hindex (String.toList_inj.mp hname)
  · exact absurd (by rw [hmore]; simp) (underscore_not_digit index')
  · exact absurd (by rw [hmore]; simp) (underscore_not_digit index)

end Slots

section Turns

theorem guarded_ok {α : Type} {kind : ProviderErrorClass} {message : String} {result : Except Exn α} {a : α}
    (h : guarded kind message result = .ok a) : result = .ok a := by
  unfold guarded at h
  split at h
  · split_ifs at h
    cases h
  · exact h

theorem partToolCall_slot {part : Json × ℕ} {call : Option ToolCall} (h : partToolCall part = .ok call) :
    call.map (·.id) = (partSlot part).map slotId := by
  unfold partToolCall at h
  unfold partSlot
  cases hcall : part.1.get? "functionCall" with
  | none =>
    simp only [hcall] at h
    cases h
    rfl
  | some function_call =>
    simp only [hcall] at h
    split at h
    · rename_i name args hname hargs
      obtain ⟨arguments, -, h⟩ := of_bind_ok h
      cases hnew : ToolCall.new ("call_" ++ part.2.repr ++ "_" ++ name) name arguments with
      | error err =>
        rw [hnew] at h
        cases h
      | ok made =>
        rw [hnew] at h
        cases h
        obtain ⟨_, rfl⟩ := of_validated hnew
        rw [Option.map_some, Option.map_some, hname]
        rfl
    · cases h

theorem toolCalls_slots {parts : List (Json × ℕ)} {calls : List (Option ToolCall)}
    (h : parts.mapM partToolCall = .ok calls) :
    (calls.filterMap id).map (·.id) = (parts.filterMap partSlot).map slotId := by
  induction parts generalizing calls with
  | nil =>
    cases h
    rfl
  | cons part parts ih =>
    rw [List.mapM_cons] at h
    obtain ⟨call, hcall, h⟩ := of_bind_ok h
    obtain ⟨rest, hrest, h⟩ := of_bind_ok h
    cases h
    have hslot := partToolCall_slot hcall
    have hslots := ih hrest
    cases call with
    | none =>
      cases hpart : partSlot part with
      | none => simpa [hpart] using hslots
      | some slot => simp [hpart] at hslot
    | some made =>
      cases hpart : partSlot part with
      | none => simp [hpart] at hslot
      | some slot =>
        have hid : made.id = slotId slot := by simpa [hpart] using hslot
        rw [List.filterMap_cons_some hpart]
        change made.id :: (rest.filterMap id).map (·.id) = slotId slot :: (parts.filterMap partSlot).map slotId
        rw [hid, hslots]

theorem toolCallsFromGemini_slots {parts : Json} {calls : List ToolCall} (h : toolCallsFromGemini parts = .ok calls) :
    calls.map (·.id) = (partSlots parts).map slotId := by
  cases parts with
  | arr parts =>
    unfold toolCallsFromGemini at h
    cases hmade : parts.zipIdx.mapM partToolCall with
    | error err =>
      simp only [hmade] at h
      cases h
    | ok made =>
      simp only [hmade] at h
      cases h
      exact toolCalls_slots hmade
  | _ =>
    cases h
    rfl

theorem response_ids {payload : Json} {request : GenerationRequest} {response : GenerationResponse}
    (h : fromGeminiPayload payload request = .ok response) :
    response.output.tool_calls.map (·.id) = (callSlots payload).map slotId := by
  obtain ⟨response_id, -, h⟩ := of_bind_ok (guarded_ok h)
  obtain ⟨content, hcontent, h⟩ := of_bind_ok h
  obtain ⟨output_text, -, h⟩ := of_bind_ok h
  obtain ⟨tool_calls, hcalls, h⟩ := of_bind_ok h
  split_ifs at h
  · cases h
  · obtain ⟨usage, -, h⟩ := of_bind_ok h
    unfold callSlots
    rw [(assistantResponse_content h).2, hcontent]
    exact toolCallsFromGemini_slots hcalls

theorem partSlots_index (parts : List (Json × ℕ)) :
    List.Sublist ((parts.filterMap partSlot).map Prod.fst) (parts.map Prod.snd) := by
  induction parts with
  | nil => exact List.Sublist.refl []
  | cons part parts ih =>
    rw [List.filterMap_cons]
    cases hpart : partSlot part with
    | none => exact ih.cons _
    | some slot =>
      have hindex : slot.1 = part.2 := by
        unfold partSlot at hpart
        obtain ⟨function_call, -, rfl⟩ := Option.map_eq_some_iff.mp hpart
        rfl
      rw [List.map_cons, List.map_cons, hindex]
      exact ih.cons_cons _

theorem callSlots_nodup (payload : Json) : (callSlots payload).Nodup := by
  unfold callSlots
  cases geminiCandidateContent payload with
  | error err => exact List.nodup_nil
  | ok content =>
    simp only
    unfold partSlots
    split
    · rename_i parts _
      apply List.Nodup.of_map Prod.fst
      apply (partSlots_index parts.zipIdx).nodup
      rw [List.zipIdx_map_snd]
      exact List.nodup_range'
    · exact List.nodup_nil

structure Turn where
  payload : Json
  request : GenerationRequest
  response : GenerationResponse
  parsed : fromGeminiPayload payload request = .ok response

def Turn.calls (turn : Turn) : List ToolCall := turn.response.output.tool_calls

/-- A tool message for each call, with its id. -/
def Results (calls : List ToolCall) (results : List Message) : Prop :=
  List.Forall₂ (fun call result => result.role = .tool ∧ result.tool_call_id = some call.id) calls results

/-- A conversation that goes on from `initial`: each response is appended with the results of its calls, and what
the user says next. -/
inductive Conversation (initial : List Message) : List Message → List Turn → Prop where
  | start : Conversation initial initial []
  | turn {messages results later : List Message} {turns : List Turn} (turn : Turn)
      (h : Conversation initial messages turns) (hrequest : turn.request.messages = messages)
      (hresults : Results turn.calls results) (hlater : ∀ m ∈ later, m.role = .user) :
      Conversation initial (messages ++ turn.response.output :: (results ++ later)) (turns ++ [turn])

theorem no_calls {m : Message} (h : m.role = .tool ∨ m.role = .user) : m.tool_calls = [] := by
  have hok := m.ok
  unfold Message.problem at hok
  cases hempty : m.tool_calls.isEmpty with
  | true => exact List.isEmpty_iff.mp hempty
  | false =>
    rw [hempty] at hok
    rcases h with h | h
    · rw [if_pos h] at hok
      split_ifs at hok
      · contradiction
      · cases (or_none hok).2
    · simp [h] at hok
      split_ifs at hok

theorem callsOf_nil {messages : List Message} (h : ∀ m ∈ messages, m.role = .tool ∨ m.role = .user) :
    callsOf messages = [] := by
  unfold callsOf
  rw [List.flatMap_eq_nil_iff]
  exact fun m hm => no_calls (h m hm)

theorem results_role {calls : List ToolCall} {results : List Message} (h : Results calls results) :
    ∀ m ∈ results, m.role = .tool := by
  induction h with
  | nil => exact fun m hm => absurd hm List.not_mem_nil
  | cons hresult _ ih =>
    intro m hm
    rcases List.mem_cons.mp hm with rfl | hm
    · exact hresult.1
    · exact ih m hm

/-- The calls of a conversation are those it started with and those of its turns. -/
theorem Conversation.callsOf_eq {initial messages : List Message} {turns : List Turn}
    (h : Conversation initial messages turns) : callsOf messages = callsOf initial ++ turns.flatMap Turn.calls := by
  induction h with
  | start => exact (List.append_nil _).symm
  | @turn messages results later turns turn _ _ hresults hlater ih =>
    have hrest : callsOf (results ++ later) = [] := by
      apply callsOf_nil
      intro m hm
      rcases List.mem_append.mp hm with hm | hm
      · exact .inl (results_role hresults m hm)
      · exact .inr (hlater m hm)
    have hturn : callsOf (turn.response.output :: (results ++ later)) = turn.calls := by
      unfold callsOf at hrest ⊢
      rw [List.flatMap_cons, hrest, List.append_nil]
      rfl
    unfold callsOf at ih hturn ⊢
    rw [List.flatMap_append, ih, hturn, List.flatMap_append, List.append_assoc, List.flatMap_singleton]

theorem Turn.ids (turn : Turn) : turn.calls.map (·.id) = (callSlots turn.payload).map slotId :=
  response_ids turn.parsed

theorem Turn.ids_nodup (turn : Turn) : (turn.calls.map (·.id)).Nodup := by
  rw [turn.ids]
  exact (callSlots_nodup turn.payload).map slotId_injective

theorem flatMap_ids (turns : List Turn) :
    (turns.flatMap Turn.calls).map (·.id) = (turns.flatMap fun turn => callSlots turn.payload).map slotId := by
  rw [List.map_flatMap, List.map_flatMap]
  apply List.flatMap_congr
  exact fun turn _ => turn.ids

/-- No call stands at the same place of both turns and calls the same function. -/
def Turn.Apart (turn later : Turn) : Prop := ∀ slot ∈ callSlots turn.payload, slot ∉ callSlots later.payload

/-- The ids of one response are distinct; those of a conversation are exactly if its turns are apart. -/
theorem synthesized_ids_distinct_iff {initial messages : List Message} {turns : List Turn}
    (h : Conversation initial messages turns) :
    callsOf messages = callsOf initial ++ turns.flatMap Turn.calls ∧
      (∀ turn ∈ turns, turn.calls.map (·.id) = (callSlots turn.payload).map slotId ∧
        (turn.calls.map (·.id)).Nodup) ∧
      (((turns.flatMap Turn.calls).map (·.id)).Nodup ↔ turns.Pairwise Turn.Apart) := by
  refine ⟨h.callsOf_eq, fun turn _ => ⟨turn.ids, turn.ids_nodup⟩, ?_⟩
  rw [flatMap_ids, List.nodup_map_iff slotId_injective, List.nodup_flatMap]
  constructor
  · intro hboth
    exact hboth.2.imp fun hdisjoint slot hslot hlater => hdisjoint hslot hlater
  · intro hapart
    exact ⟨fun turn _ => callSlots_nodup turn.payload, hapart.imp fun h slot hslot hlater => h slot hslot hlater⟩

end Turns

section Samples

def lookupCall : ToolCall := ⟨"call_0_lookup", "lookup", "\x7b\x7d", rfl⟩

def lookupPayload : Json :=
  .obj [("responseId", .str "r1"), ("modelVersion", .str "gemini-2.0-flash"), ("candidates", .arr [.obj [("content",
    .obj [("parts", .arr [.obj [("functionCall", .obj [("name", .str "lookup"), ("args", .obj [])])]])])]])]

def lookupResponse : GenerationResponse where
  id := "r1"
  model := "gemini-2.0-flash"
  output := ⟨.assistant, "", none, none, [lookupCall], rfl⟩
  usage := none
  cached := false
  ok := rfl

def question : Message := ⟨.user, "Hello", none, none, [], hello_ok⟩

def answer : Message := ⟨.tool, "42", some "call_0_lookup", none, [], rfl⟩

def secondMessages : List Message := [question, lookupResponse.output, answer]

def firstRequest : GenerationRequest := ⟨"gemini-2.0-flash", [question], none, none, false, [], false, rfl⟩

def secondRequest : GenerationRequest := ⟨"gemini-2.0-flash", secondMessages, none, none, false, [], false, rfl⟩

theorem first_parsed : fromGeminiPayload lookupPayload firstRequest = .ok lookupResponse := by decide +kernel

theorem second_parsed : fromGeminiPayload lookupPayload secondRequest = .ok lookupResponse := by decide +kernel

def firstTurn : Turn := ⟨lookupPayload, firstRequest, lookupResponse, first_parsed⟩

def secondTurn : Turn := ⟨lookupPayload, secondRequest, lookupResponse, second_parsed⟩

theorem results_answer : Results [lookupCall] [answer] := .cons ⟨rfl, rfl⟩ .nil

theorem one_turn : Conversation [question] secondMessages [firstTurn] :=
  .turn firstTurn .start rfl results_answer (fun _ hm => absurd hm List.not_mem_nil)

theorem one_turn_distinct : callsOf secondMessages = callsOf [question] ++ [firstTurn].flatMap Turn.calls ∧
    (∀ turn ∈ [firstTurn], turn.calls.map (·.id) = (callSlots turn.payload).map slotId ∧
      (turn.calls.map (·.id)).Nodup) ∧
    ((([firstTurn].flatMap Turn.calls).map (·.id)).Nodup ↔ [firstTurn].Pairwise Turn.Apart) :=
  synthesized_ids_distinct_iff one_turn

/-- Two turns that call the same function first have one id for two calls. -/
theorem two_turns_share_id : (∃ messages, Conversation [question] messages [firstTurn, secondTurn]) ∧
    ([firstTurn, secondTurn].flatMap Turn.calls).map (·.id) = ["call_0_lookup", "call_0_lookup"] ∧
    ¬ (([firstTurn, secondTurn].flatMap Turn.calls).map (·.id)).Nodup := by
  refine ⟨⟨_, .turn secondTurn one_turn rfl results_answer fun _ hm => absurd hm List.not_mem_nil⟩, rfl, ?_⟩
  decide

end Samples

end AIRuntime.SynthesizedIds
