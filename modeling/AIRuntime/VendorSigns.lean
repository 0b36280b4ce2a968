import AIRuntime.StreamSigns

set_option autoImplicit false

/-! What the events of the three vendors say, and that the adapters are true to it. -/
namespace AIRuntime.VendorSigns

open Traversals PythonText Failures JsonText PythonJson GenerationContracts ProviderPayloads ProviderStreams
  StreamSigns

section Signs

def counted : Option ℤ → Option ℤ → Option TokenUsage
  | some input_tokens, some output_tokens => (TokenUsage.new input_tokens output_tokens).toOption
  | _, _ => none

/-- The usage of a chunk that has one, be it `null`. -/
def statedUsage (payload : Json) : Option (Option TokenUsage) :=
  (payload.get? "usage").map fun usage =>
    counted (item usage "prompt_tokens").int? (item usage "completion_tokens").int?

def openAISigns : Signs where
  identifies := fun _ payload => (validText (item payload "id")).isSome
  model := fun _ payload => validText (item payload "model")
  text := fun _ payload =>
    match item payload "choices" with
    | .arr (.obj first_choice :: _) => (item (item (.obj first_choice) "delta") "content").str?.getD ""
    | _ => ""
  misshapen := fun _ payload =>
    match item payload "choices" with
    | .arr (first_choice :: _) => !isObject first_choice
    | _ => false
  miscounted := fun _ payload =>
    let usage := item payload "usage"
    isObject usage && ((item usage "prompt_tokens").int?.isNone || (item usage "completion_tokens").int?.isNone)
  negative := fun _ payload =>
    let usage := item payload "usage"
    (item usage "prompt_tokens").int?.any (· < 0) || (item usage "completion_tokens").int?.any (· < 0)
  unpaired := fun _ => false
  overdrawn := fun _ => false
  usage := fun heard => (heard.filterMap fun x => statedUsage x.2).getLast?.getD none

/-- The last `input_tokens` of a `message_start` and the last `output_tokens` of a `message_delta`. -/
def lastCounts (heard : List (SseEvent × Json)) : TokenCounts :=
  ((heard.filterMap fun x =>
      if anthropicEventType x.1 x.2 = some "message_start" then startTokens (item x.2 "message") else none).getLast?,
    (heard.filterMap fun x =>
      if anthropicEventType x.1 x.2 = some "message_delta" then deltaTokens x.2 else none).getLast?)

def anthropicSigns : Signs where
  identifies := fun e payload =>
    anthropicEventType e payload = some "message_start" && (validText (item (item payload "message") "id")).isSome
  model := fun e payload =>
    if anthropicEventType e payload = some "message_start" then validText (item (item payload "message") "model")
    else none
  text := fun e payload =>
    if anthropicEventType e payload = some "content_block_delta" then blockDeltaText payload else ""
  misshapen := fun e payload =>
    anthropicEventType e payload = some "message_start" && !isObject (item payload "message")
  miscounted := fun _ _ => false
  negative := fun _ _ => false
  unpaired := fun heard => (lastCounts heard).1.isSome != (lastCounts heard).2.isSome
  overdrawn := fun heard => (lastCounts heard).1.any (· < 0) || (lastCounts heard).2.any (· < 0)
  usage := fun heard => counted (lastCounts heard).1 (lastCounts heard).2

def misshapenPart (part : Json) : Bool :=
  match item part "thought", item part "text" with
  | .bool true, _ => !isObject part
  | _, .null => !isObject part
  | _, .str _ => !isObject part
  | _, _ => true

def candidateParts (payload : Json) : List Json :=
  match item payload "candidates" with
  | .arr (first_candidate :: _) =>
    match item (item first_candidate "content") "parts" with
    | .arr parts => parts
    | _ => []
  | _ => []

def spokenPart (part : Json) : Option String :=
  match item part "thought" with
  | .bool true => none
  | _ => (item part "text").str?

def cumulativeUsage (payload : Json) : Option TokenUsage :=
  let usage := item payload "usageMetadata"
  counted (item usage "promptTokenCount").int? (item usage "candidatesTokenCount").int?

def geminiSigns : Signs where
  identifies := fun _ payload => (validText (item payload "responseId")).isSome
  model := fun _ payload => validText (item payload "modelVersion")
  text := fun _ payload => String.join ((candidateParts payload).filterMap spokenPart)
  misshapen := fun _ payload =>
    (match item payload "candidates" with
    | .arr (first_candidate :: _) => !isObject first_candidate
    | _ => false) || (candidateParts payload).any misshapenPart
  miscounted := fun _ payload =>
    let usage := item payload "usageMetadata"
    let prompt_tokens := item usage "promptTokenCount"
    let candidates_tokens := item usage "candidatesTokenCount"
    (prompt_tokens.int?.isNone || candidates_tokens.int?.isNone) &&
      !(isNull prompt_tokens && isNull candidates_tokens)
  negative := fun _ payload =>
    let usage := item payload "usageMetadata"
    (item usage "promptTokenCount").int?.any (· < 0) || (item usage "candidatesTokenCount").int?.any (· < 0)
  unpaired := fun _ => false
  overdrawn := fun _ => false
  usage := fun heard => (heard.filterMap fun x => cumulativeUsage x.2).getLast?

end Signs

section Vendors

theorem tokenUsage_negative {kind : ProviderErrorClass} {input_tokens output_tokens : ℤ}
    (h : input_tokens < 0 ∨ output_tokens < 0) :
    ∃ err, (TokenUsage.new input_tokens output_tokens).map some = .error err ∧ ¬ OwnError kind err := by
  have hproblem : ∃ message, TokenUsage.problem input_tokens output_tokens = some message := by
    unfold TokenUsage.problem
    by_cases hinput : input_tokens < 0
    · exact ⟨_, if_pos hinput⟩
    · rw [if_neg hinput, if_pos (h.resolve_left hinput)]
      exact ⟨_, rfl⟩
  obtain ⟨message, hmessage⟩ := hproblem
  refine ⟨.domainValidation message, ?_, not_own_validation kind message⟩
  unfold TokenUsage.new
  rw [validated_error hmessage]
  rfl

theorem tokenUsage_ok {input_tokens output_tokens : ℤ} (hinput : ¬ input_tokens < 0) (houtput : ¬ output_tokens < 0) :
    ∃ usage, (TokenUsage.new input_tokens output_tokens).map some = .ok (some usage) ∧
      counted (some input_tokens) (some output_tokens) = some usage := by
  have hproblem : TokenUsage.problem input_tokens output_tokens = none := by
    unfold TokenUsage.problem
    rw [if_neg hinput, if_neg houtput]
  have hnew : TokenUsage.new input_tokens output_tokens = .ok ⟨input_tokens, output_tokens, hproblem⟩ :=
    validated_ok hproblem
  refine ⟨⟨input_tokens, output_tokens, hproblem⟩, ?_, ?_⟩
  · rw [hnew]
    rfl
  · unfold counted
    simp only [hnew]
    rfl

theorem refuse_own {α : Type} (kind : ProviderErrorClass) (message : String) :
    ∃ err, (refuse kind message : Except Exn α) = .error err ∧ OwnError kind err :=
  ⟨_, rfl, ownError_permanent kind message⟩

theorem openAI_usage (payload : Json) (usage : Option TokenUsage) (e : SseEvent) :
    (openAISigns.miscounted e payload = true →
      ∃ err, openAIStreamUsage payload usage = .error err ∧ OwnError .openAI err) ∧
    (openAISigns.miscounted e payload = false → openAISigns.negative e payload = true →
      ∃ err, openAIStreamUsage payload usage = .error err ∧ ¬ OwnError .openAI err) ∧
    (openAISigns.miscounted e payload = false → openAISigns.negative e payload = false →
      openAIStreamUsage payload usage = .ok ((statedUsage payload).getD usage)) := by
  unfold openAIStreamUsage statedUsage openAISigns item
  simp only
  cases hget : payload.get? "usage" with
  | none => exact ⟨by rintro ⟨⟩, by rintro - ⟨⟩, fun _ _ => rfl⟩
  | some raw =>
    cases raw with
    | obj members =>
      simp only [Option.getD_some, isObject, usageFromOpenAIPayload, item, Bool.true_and]
      cases hprompt : (((Json.obj members).get? "prompt_tokens").getD .null).int? with
      | none => exact ⟨fun _ => refuse_own _ _, by rintro ⟨⟩, by rintro ⟨⟩⟩
      | some prompt_tokens =>
        cases hcompletion : (((Json.obj members).get? "completion_tokens").getD .null).int? with
        | none => exact ⟨fun _ => refuse_own _ _, by rintro ⟨⟩, by rintro ⟨⟩⟩
        | some completion_tokens =>
          refine ⟨by rintro ⟨⟩, fun _ h => tokenUsage_negative (by simpa using h), fun _ h => ?_⟩
          have hcounts : ¬ prompt_tokens < 0 ∧ ¬ completion_tokens < 0 := by simpa using h
          obtain ⟨u, hu, hcounted⟩ := tokenUsage_ok hcounts.1 hcounts.2
          simp only [hprompt, hcompletion, Option.map_some, Option.getD_some, hcounted]
          exact hu
    | _ => exact ⟨by rintro ⟨⟩, by rintro - ⟨⟩, fun _ _ => rfl⟩

theorem openAI_misshapen {payload : Json} {e : SseEvent} (h : openAISigns.misshapen e payload = true) :
    openAIDeltaText payload = refuse .openAI "OpenAI stream choice is invalid" := by
  unfold openAISigns at h
  unfold openAIDeltaText
  simp only at h
  generalize item payload "choices" = choices at h ⊢
  cases choices with
  | arr choices =>
    cases choices with
    | nil => cases h
    | cons first_choice rest => cases first_choice <;> first | rfl | cases h
  | _ => cases h

theorem openAI_text {payload : Json} {e : SseEvent} (h : openAISigns.misshapen e payload = false) :
    openAIDeltaText payload = .ok (openAISigns.text e payload) := by
  unfold openAISigns at h ⊢
  unfold openAIDeltaText
  simp only at h ⊢
  generalize item payload "choices" = choices at h ⊢
  cases choices with
  | arr choices =>
    cases choices with
    | nil => rfl
    | cons first_choice rest => cases first_choice <;> first | rfl | cases h
  | _ => rfl

theorem openAI_usage_append (heard : List (SseEvent × Json)) (e : SseEvent) (payload : Json) :
    openAISigns.usage (heard ++ [(e, payload)]) = (statedUsage payload).getD (openAISigns.usage heard) := by
  unfold openAISigns
  simp only
  rw [getLast?_filterMap_append]
  cases statedUsage payload <;> rfl

theorem openAI_faithful : Faithful openAIParser openAISigns fun heard usage => usage = openAISigns.usage heard := by
  constructor
  · rfl
  · intro e payload _ hshape
    exact ⟨_, .inl ⟨_, rfl, openAI_misshapen hshape⟩, ownError_permanent .openAI "OpenAI stream choice is invalid"⟩
  · intro e payload _ hshape
    refine ⟨_, rfl, openAI_text hshape, rfl, rfl, ?_, ?_, ?_⟩
    · exact fun h usage => (openAI_usage payload usage e).1 h
    · exact fun h hnegative usage => (openAI_usage payload usage e).2.1 h hnegative
    · intro h hnegative heard usage htracks
      refine ⟨_, (openAI_usage payload usage e).2.2 h hnegative, ?_⟩
      rw [openAI_usage_append, htracks]
  · exact fun _ _ _ => nofun
  · exact fun _ _ _ _ => nofun
  · rintro heard usage htracks - -
    rw [htracks]
    rfl

def TracksCounts (heard : List (SseEvent × Json)) (counts : TokenCounts) : Prop := counts = lastCounts heard

theorem lastCounts_append (heard : List (SseEvent × Json)) (e : SseEvent) (payload : Json) :
    lastCounts (heard ++ [(e, payload)]) =
      ((if anthropicEventType e payload = some "message_start" then startTokens (item payload "message")
          else none).or (lastCounts heard).1,
        (if anthropicEventType e payload = some "message_delta" then deltaTokens payload else none).or
          (lastCounts heard).2) := by
  unfold lastCounts
  rw [getLast?_filterMap_append, getLast?_filterMap_append]

theorem anthropic_reads {e : SseEvent} {payload : Json} (hshape : anthropicSigns.misshapen e payload = false) :
    ∃ chunk, Reads anthropicParser anthropicSigns TracksCounts e payload chunk := by
  by_cases hstart : anthropicEventType e payload = some "message_start"
  · have hmessage : isObject (item payload "message") = true := by
      simpa [anthropicSigns, hstart] using hshape
    obtain ⟨message, hitem⟩ : ∃ message, item payload "message" = .obj message := by
      cases h : item payload "message" <;> first | exact ⟨_, rfl⟩ | (rw [h] at hmessage; cases hmessage)
    refine ⟨_, anthropicChunk_start hstart hitem, ?_, ?_, ?_, nofun, fun _ => nofun, ?_⟩
    · simp [anthropicSigns, hstart]
    · simp [anthropicSigns, hstart, hitem]
    · simp [anthropicSigns, hstart, hitem]
    · rintro - - heard counts rfl
      refine ⟨_, rfl, ?_⟩
      unfold TracksCounts
      rw [lastCounts_append, hitem, hstart]
      rfl
  · by_cases hblock : anthropicEventType e payload = some "content_block_delta"
    · refine ⟨_, anthropicChunk_block hblock, ?_, ?_, ?_, nofun, fun _ => nofun, ?_⟩
      · simp [anthropicSigns, hblock]
      · simp [anthropicSigns, hstart, validText]
      · simp [anthropicSigns, hstart, validText]
      · rintro - - heard counts rfl
        refine ⟨_, rfl, ?_⟩
        unfold TracksCounts
        rw [lastCounts_append, hblock]
        rfl
    · by_cases hdelta : anthropicEventType e payload = some "message_delta"
      · refine ⟨_, anthropicChunk_delta hdelta, ?_, ?_, ?_, nofun, fun _ => nofun, ?_⟩
        · simp [anthropicSigns, hblock]
        · simp [anthropicSigns, hstart, validText]
        · simp [anthropicSigns, hstart, validText]
        · rintro - - heard counts rfl
          refine ⟨_, rfl, ?_⟩
          unfold TracksCounts
          rw [lastCounts_append, hdelta]
          rfl
      · refine ⟨_, anthropicChunk_other hstart hblock hdelta, ?_, ?_, ?_, nofun, fun _ => nofun, ?_⟩
        · simp [anthropicSigns, hblock]
        · simp [anthropicSigns, hstart, validText]
        · simp [anthropicSigns, hstart, validText]
        · rintro - - heard counts rfl
          refine ⟨_, rfl, ?_⟩
          unfold TracksCounts
          rw [lastCounts_append, if_neg hstart, if_neg hdelta]
          rfl

theorem anthropic_faithful : Faithful anthropicParser anthropicSigns TracksCounts := by
  constructor
  · rfl
  · intro e payload _ hshape
    obtain ⟨hstart, hmessage⟩ : anthropicEventType e payload = some "message_start" ∧
        isObject (item payload "message") = false := by
      simpa [anthropicSigns] using hshape
    refine ⟨_, .inr ?_, ownError_permanent .anthropic "Anthropic stream message_start is invalid"⟩
    change anthropicChunk e payload = _
    unfold anthropicChunk
    rw [if_pos hstart]
    cases hitem : item payload "message" <;> first | rfl | (rw [hitem] at hmessage; cases hmessage)
  · exact fun e payload _ hshape => anthropic_reads hshape
  · rintro heard counts rfl hunpaired
    refine ⟨_, ?_, ownError_permanent .anthropic "Anthropic response usage is invalid"⟩
    change anthropicTokenUsage (lastCounts heard) = _
    unfold anthropicSigns at hunpaired
    simp only at hunpaired
    generalize lastCounts heard = counts at hunpaired ⊢
    obtain ⟨input_tokens, output_tokens⟩ := counts
    cases input_tokens <;> cases output_tokens <;> first | rfl | cases hunpaired
  · rintro heard counts rfl hpaired hoverdrawn
    change ∃ err, anthropicTokenUsage (lastCounts heard) = .error err ∧ ¬ OwnError .anthropic err
    unfold anthropicSigns at hpaired hoverdrawn
    simp only at hpaired hoverdrawn
    generalize lastCounts heard = counts at hpaired hoverdrawn ⊢
    obtain ⟨input_tokens, output_tokens⟩ := counts
    cases input_tokens with
    | none => cases output_tokens <;> first | cases hoverdrawn | cases hpaired
    | some input_tokens =>
      cases output_tokens with
      | none => cases hpaired
      | some output_tokens => exact tokenUsage_negative (by simpa using hoverdrawn)
  · rintro heard counts rfl hpaired hoverdrawn
    change anthropicTokenUsage (lastCounts heard) = .ok (counted (lastCounts heard).1 (lastCounts heard).2)
    unfold anthropicSigns at hpaired hoverdrawn
    simp only at hpaired hoverdrawn
    generalize lastCounts heard = counts at hpaired hoverdrawn ⊢
    obtain ⟨input_tokens, output_tokens⟩ := counts
    cases input_tokens with
    | none =>
      cases output_tokens with
      | none => rfl
      | some output_tokens => cases hpaired
    | some input_tokens =>
      cases output_tokens with
      | none => cases hpaired
      | some output_tokens =>
        have hcounts : ¬ input_tokens < 0 ∧ ¬ output_tokens < 0 := by simpa using hoverdrawn
        obtain ⟨usage, husage, hcounted⟩ := tokenUsage_ok hcounts.1 hcounts.2
        rw [hcounted]
        exact husage

theorem partText_ok {part : Json} (h : misshapenPart part = false) : partText part = .ok (spokenPart part) := by
  unfold misshapenPart at h
  unfold partText spokenPart
  cases part with
  | obj members =>
    simp only [isObject, Bool.not_true, Bool.false_eq_true, ↓reduceIte] at h ⊢
    generalize item (.obj members) "thought" = thought at h ⊢
    generalize item (.obj members) "text" = text at h ⊢
    cases thought with
    | bool thought => cases thought <;> cases text <;> first | rfl | cases h
    | _ => cases text <;> first | rfl | cases h
  | _ => cases h

theorem partText_refused {part : Json} (h : misshapenPart part = true) :
    ∃ message, partText part = refuse .gemini message := by
  unfold misshapenPart at h
  unfold partText
  cases part with
  | obj members =>
    simp only [isObject, Bool.not_true, Bool.false_eq_true, ↓reduceIte] at h ⊢
    generalize item (.obj members) "thought" = thought at h ⊢
    generalize item (.obj members) "text" = text at h ⊢
    cases thought with
    | bool thought => cases thought <;> cases text <;> first | exact ⟨_, rfl⟩ | cases h
    | _ => cases text <;> first | exact ⟨_, rfl⟩ | cases h
  | _ => exact ⟨_, rfl⟩

theorem partTexts_ok {parts : List Json} (h : parts.any misshapenPart = false) :
    parts.mapM partText = .ok (parts.map spokenPart) := by
  apply mapM_of_pure
  intro part hpart
  exact partText_ok (Bool.eq_false_iff.mpr (List.any_eq_false.mp h part hpart))

theorem partTexts_refused {parts : List Json} (h : parts.any misshapenPart = true) :
    ∃ message, parts.mapM partText = refuse .gemini message := by
  induction parts with
  | nil => cases h
  | cons part rest ih =>
    rw [List.mapM_cons]
    cases hpart : misshapenPart part with
    | true =>
      obtain ⟨message, hmessage⟩ := partText_refused hpart
      exact ⟨message, by rw [hmessage]; rfl⟩
    | false =>
      rw [List.any_cons, hpart, Bool.false_or] at h
      obtain ⟨message, hmessage⟩ := ih h
      exact ⟨message, by rw [partText_ok hpart, hmessage]; rfl⟩

theorem gemini_text {payload : Json} {e : SseEvent} (h : geminiSigns.misshapen e payload = false) :
    geminiDeltaText payload = .ok (geminiSigns.text e payload) := by
  unfold geminiSigns candidateParts at h ⊢
  unfold geminiDeltaText optionalTextFromParts
  simp only at h ⊢
  generalize item payload "candidates" = candidates at h ⊢
  cases candidates with
  | arr candidates =>
    cases candidates with
    | nil => rfl
    | cons first_candidate rest =>
      obtain ⟨hobject, hparts⟩ := Bool.or_eq_false_iff.mp h
      cases first_candidate with
      | obj members =>
        simp only at hparts ⊢
        generalize item (item (.obj members) "content") "parts" = parts at hparts ⊢
        cases parts with
        | arr parts =>
          simp only [partTexts_ok hparts, Except.map, List.filterMap_map]
          rfl
        | _ => rfl
      | _ => cases hobject
  | _ => rfl

theorem gemini_misshapen {payload : Json} {e : SseEvent} (h : geminiSigns.misshapen e payload = true) :
    ∃ message, geminiDeltaText payload = refuse .gemini message := by
  unfold geminiSigns candidateParts at h
  unfold geminiDeltaText optionalTextFromParts
  simp only at h
  generalize item payload "candidates" = candidates at h ⊢
  cases candidates with
  | arr candidates =>
    cases candidates with
    | nil => cases h
    | cons first_candidate rest =>
      cases first_candidate with
      | obj members =>
        simp only [isObject, Bool.not_true, Bool.false_or] at h ⊢
        generalize item (item (.obj members) "content") "parts" = parts at h ⊢
        cases parts with
        | arr parts =>
          obtain ⟨message, hmessage⟩ := partTexts_refused h
          exact ⟨message, by simp only [hmessage]; rfl⟩
        | _ => cases h
      | _ => exact ⟨_, rfl⟩
  | _ => cases h

theorem isNull_eq {j : Json} (h : isNull j = true) : j = .null := by
  cases j <;> first | rfl | cases h

theorem gemini_usage (payload : Json) (usage : Option TokenUsage) (e : SseEvent) :
    (geminiSigns.miscounted e payload = true →
      ∃ err, geminiStreamUsage payload usage = .error err ∧ OwnError .gemini err) ∧
    (geminiSigns.miscounted e payload = false → geminiSigns.negative e payload = true →
      ∃ err, geminiStreamUsage payload usage = .error err ∧ ¬ OwnError .gemini err) ∧
    (geminiSigns.miscounted e payload = false → geminiSigns.negative e payload = false →
      geminiStreamUsage payload usage = .ok ((cumulativeUsage payload).or usage)) := by
  unfold geminiStreamUsage cumulativeUsage geminiSigns
  simp only
  generalize item (item payload "usageMetadata") "promptTokenCount" = prompt_tokens
  generalize item (item payload "usageMetadata") "candidatesTokenCount" = candidates_tokens
  cases hboth : isNull prompt_tokens && isNull candidates_tokens with
  | true =>
    obtain ⟨hprompt, hcandidates⟩ := Bool.and_eq_true_iff.mp hboth
    rw [isNull_eq hprompt, isNull_eq hcandidates]
    exact ⟨nofun, fun _ => nofun, fun _ _ => rfl⟩
  | false =>
    cases prompt_tokens.int? with
    | none => exact ⟨fun _ => refuse_own _ _, nofun, nofun⟩
    | some input_tokens =>
      cases candidates_tokens.int? with
      | none => exact ⟨fun _ => refuse_own _ _, nofun, nofun⟩
      | some output_tokens =>
        refine ⟨nofun, fun _ h => tokenUsage_negative (by simpa using h), fun _ h => ?_⟩
        have hcounts : ¬ input_tokens < 0 ∧ ¬ output_tokens < 0 := by simpa using h
        obtain ⟨u, hu, hcounted⟩ := tokenUsage_ok hcounts.1 hcounts.2
        simp only [hcounted, Option.some_or]
        exact hu

theorem gemini_usage_append (heard : List (SseEvent × Json)) (e : SseEvent) (payload : Json) :
    geminiSigns.usage (heard ++ [(e, payload)]) = (cumulativeUsage payload).or (geminiSigns.usage heard) :=
  getLast?_filterMap_append _ heard (e, payload)

theorem gemini_faithful : Faithful geminiParser geminiSigns fun heard usage => usage = geminiSigns.usage heard := by
  constructor
  · rfl
  · intro e payload _ hshape
    obtain ⟨message, hmessage⟩ := gemini_misshapen hshape
    exact ⟨_, .inl ⟨_, rfl, hmessage⟩, ownError_permanent .gemini message⟩
  · intro e payload _ hshape
    refine ⟨_, rfl, gemini_text hshape, rfl, rfl, ?_, ?_, ?_⟩
    · exact fun h usage => (gemini_usage payload usage e).1 h
    · exact fun h hnegative usage => (gemini_usage payload usage e).2.1 h hnegative
    · intro h hnegative heard usage htracks
      refine ⟨_, (gemini_usage payload usage e).2.2 h hnegative, ?_⟩
      rw [gemini_usage_append, htracks]
  · exact fun _ _ _ => nofun
  · exact fun _ _ _ _ => nofun
  · rintro heard usage htracks - -
    rw [htracks]
    rfl

end Vendors

def signsOf : Adapter → Signs
  | .openAI => openAISigns
  | .anthropic => anthropicSigns
  | .gemini => geminiSigns

/-- Only OpenAI's stream has data that ends it. -/
def doneOf : Adapter → String → Bool
  | .openAI => fun data => data = "[DONE]"
  | _ => fun _ => false

end AIRuntime.VendorSigns
