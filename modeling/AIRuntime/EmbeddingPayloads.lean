import AIRuntime.AdapterFailures
import AIRuntime.PythonFloats
import AIRuntime.Traversals
import Mathlib.Data.List.Sort

set_option autoImplicit false

/-! `domain/embedding.py` and the answers that `providers/openai/embedding.py` reads. -/
namespace AIRuntime.EmbeddingPayloads

open Traversals PythonText Failures JsonText GenerationContracts PythonFloats ProviderPayloads StreamSigns
  AdapterFailures

section Contracts

def EmbeddingUsage.problem (input_tokens : ℤ) : Option String :=
  if input_tokens < 0 then some "input_tokens must not be negative" else none

structure EmbeddingUsage where
  input_tokens : ℤ
  ok : EmbeddingUsage.problem input_tokens = none

def EmbeddingUsage.new (input_tokens : ℤ) : Except Exn EmbeddingUsage :=
  validated (EmbeddingUsage.problem input_tokens) fun h => ⟨input_tokens, h⟩

def EmbeddingVector.problem (index : ℤ) (values : List Float) : Option String :=
  if index < 0 then some "index must not be negative"
  else if values.isEmpty then some "values must contain at least one dimension"
  else if values.any (!·.isFinite) then some "values must contain only finite numbers"
  else none

structure EmbeddingVector where
  index : ℤ
  values : List Float
  ok : EmbeddingVector.problem index values = none

def EmbeddingVector.new (index : ℤ) (values : List Float) : Except Exn EmbeddingVector :=
  validated (EmbeddingVector.problem index values) fun h => ⟨index, values, h⟩

def EmbeddingRequest.problem (model : String) (input : List String) (dimensions : Option ℤ) : Option String :=
  (requireNonBlank model "model").or <|
  if input.isEmpty then some "input must contain at least one text value"
  else
    (input.zipIdx.findSome? fun entry => requireNonBlank entry.1 ("input[" ++ entry.2.repr ++ "]")).or <|
    if dimensions.any (· ≤ 0) then some "dimensions must be greater than zero" else none

structure EmbeddingRequest where
  model : String
  input : List String
  dimensions : Option ℤ
  ok : EmbeddingRequest.problem model input dimensions = none

/-- `sorted(indices) == list(range(len(data)))`. -/
def Contiguous (indices : List ℤ) : Prop :=
  indices.insertionSort (· ≤ ·) = (List.range indices.length).map Int.ofNat

instance (indices : List ℤ) : Decidable (Contiguous indices) :=
  inferInstanceAs (Decidable (indices.insertionSort (· ≤ ·) = (List.range indices.length).map Int.ofNat))

def EmbeddingResponse.problem (id model : String) (data : List EmbeddingVector) : Option String :=
  (requireNonBlank id "id").or <|
  (requireNonBlank model "model").or <|
  if data.isEmpty then some "data must contain at least one embedding vector"
  else if ¬(data.map (·.index)).Nodup then some "data indices must be unique"
  else if ¬Contiguous (data.map (·.index)) then some "data indices must be contiguous starting at zero"
  else none

structure EmbeddingResponse where
  id : String
  model : String
  data : List EmbeddingVector
  usage : EmbeddingUsage
  ok : EmbeddingResponse.problem id model data = none

def EmbeddingResponse.new (id model : String) (data : List EmbeddingVector) (usage : EmbeddingUsage) :
    Except Exn EmbeddingResponse :=
  validated (EmbeddingResponse.problem id model data) fun h => ⟨id, model, data, usage, h⟩

end Contracts

section Parser

def vectorOf (entry : Json) : Except Exn EmbeddingVector :=
  if !isObject entry then refuse .openAI "OpenAI embedding response data is invalid"
  else
    match (item entry "index").int?, item entry "embedding" with
    | some index, .arr (value :: rest) =>
      if index < 0 then refuse .openAI "OpenAI embedding response data is invalid"
      else do
        let values ← (value :: rest).mapM float
        EmbeddingVector.new index values
    | _, _ => refuse .openAI "OpenAI embedding response data is invalid"

def promptTokens (usage_payload : Json) : Except Exn ℤ :=
  if !isObject usage_payload then refuse .openAI "OpenAI embedding response usage is invalid"
  else
    match (item usage_payload "prompt_tokens").int? with
    | some prompt_tokens =>
      if prompt_tokens < 0 then refuse .openAI "OpenAI embedding response usage is invalid" else .ok prompt_tokens
    | none => refuse .openAI "OpenAI embedding response usage is invalid"

def sortByIndex (vectors : List EmbeddingVector) : List EmbeddingVector :=
  vectors.insertionSort fun a b => a.index ≤ b.index

/-- The `try` block of `_from_openai_payload`. -/
def readPayload (payload : Json) (request : EmbeddingRequest) : Except Exn EmbeddingResponse := do
  let response_id := (validText (item payload "id")).getD "openai-embedding"
  let model := (validText (item payload "model")).getD request.model
  match item payload "data" with
  | .arr (entry :: entries) =>
    let vectors ← (entry :: entries).mapM vectorOf
    let prompt_tokens ← promptTokens (item payload "usage")
    let usage ← EmbeddingUsage.new prompt_tokens
    EmbeddingResponse.new response_id model (sortByIndex vectors) usage
  | _ => refuse .openAI "OpenAI embedding response is missing data"

/-- `except (TypeError, ValueError)`. -/
def isMalformed : Exn → Bool
  | .domainValidation _ => true
  | .jsonDecode => true
  | .other name => name = "TypeError" || name = "ValueError"
  | _ => false

def fromOpenAIPayload (payload : Json) (request : EmbeddingRequest) : Except Exn EmbeddingResponse :=
  match readPayload payload request with
  | .ok response => .ok response
  | .error err =>
    if isMalformed err then refuse .openAI "OpenAI embedding response payload is malformed" else .error err

/-- The end of `embed`, with the body that `response.json()` returned. -/
def fromBody (body : Json) (request : EmbeddingRequest) : Except Exn EmbeddingResponse :=
  if !isObject body then refuse .openAI "OpenAI response body must be a JSON object"
  else fromOpenAIPayload body request

end Parser

section Statement

/-- An item of `data` with its label, and its values as `float` reads them. -/
structure Labelled (entry : Json) (index : ℤ) (values : List Float) : Prop where
  object : isObject entry = true
  label : (item entry "index").int? = some index
  nonneg : 0 ≤ index
  embedding : ∃ embedding, item entry "embedding" = .arr embedding ∧ embedding.mapM float = .ok values
  nonempty : values ≠ []
  finite : ∀ value ∈ values, value.isFinite = true

/-- An item with an integer that is too large, behind values that `float` reads. -/
structure TooLargeIn (entry : Json) : Prop where
  object : isObject entry = true
  label : ∃ index, (item entry "index").int? = some index ∧ 0 ≤ index
  embedding : ∃ before n after, item entry "embedding" = .arr (before ++ .int n :: after) ∧
    (∀ value ∈ before, ∃ x, float value = .ok x) ∧ TooLarge n

/-- A payload whose first item that is not a vector has an integer that is too large. -/
def Overflows (payload : Json) : Prop :=
  ∃ before entry after, item payload "data" = .arr (before ++ entry :: after) ∧
    (∀ vector ∈ before, ∃ index values, Labelled vector index values) ∧ TooLargeIn entry

/-- What the parser takes: labelled items whose labels are those from zero on, and the tokens of the prompt. -/
structure Acceptable (payload : Json) (entries : List Json) : Prop where
  data : item payload "data" = .arr entries
  nonempty : entries ≠ []
  labels : ∃ labels : List ℤ, List.Forall₂ (fun entry label => ∃ values, Labelled entry label values) entries labels ∧
    labels.Perm ((List.range entries.length).map Int.ofNat)
  usage : ∃ prompt_tokens, isObject (item payload "usage") = true ∧
    (item (item payload "usage") "prompt_tokens").int? = some prompt_tokens ∧ 0 ≤ prompt_tokens

structure Aligned (payload : Json) (request : EmbeddingRequest) (response : EmbeddingResponse) : Prop where
  count : response.data.length = request.input.length
  labelled : ∀ (i : ℕ) (vector : EmbeddingVector), response.data[i]? = some vector →
    vector.index = i ∧ vector.values ≠ [] ∧ (∀ value ∈ vector.values, value.isFinite = true) ∧
      ∃ entries, item payload "data" = .arr entries ∧ (∃ entry ∈ entries, Labelled entry i vector.values) ∧
        ∀ entry ∈ entries, ∀ values, Labelled entry i values → values = vector.values

structure KeepsAlignment (payload : Json) (request : EmbeddingRequest) : Prop where
  aligned : ∀ response, fromBody payload request = .ok response → Aligned payload request response
  refused : RaisesOwn .openAI (fromBody payload request)

end Statement

section Vectors

variable {entry : Json} {index : ℤ} {values : List Float} {err : Exn}

theorem vector_problem : EmbeddingVector.problem index values = none ↔
    0 ≤ index ∧ values ≠ [] ∧ ∀ value ∈ values, value.isFinite = true := by
  unfold EmbeddingVector.problem
  split_ifs with hindex hempty hfinite
  · rw [iff_false_left nofun]
    omega
  · simp [List.isEmpty_iff.mp hempty]
  · rw [iff_false_left nofun]
    intro h
    obtain ⟨value, hvalue, hnot⟩ := List.any_eq_true.mp hfinite
    rw [h.2.2 value hvalue] at hnot
    cases hnot
  · simp only [true_iff]
    refine ⟨by omega, fun h => hempty (List.isEmpty_iff.mpr h), ?_⟩
    intro value hvalue
    by_contra hnot
    exact hfinite (List.any_eq_true.mpr ⟨value, hvalue, by simp [hnot]⟩)

theorem vectorOf_eq {embedding : List Json} (hobject : isObject entry = true)
    (hlabel : (item entry "index").int? = some index) (hnonneg : 0 ≤ index)
    (hembedding : item entry "embedding" = .arr embedding) (hnonempty : embedding ≠ []) :
    vectorOf entry = embedding.mapM float >>= EmbeddingVector.new index := by
  unfold vectorOf
  rw [hobject, hlabel, hembedding]
  cases embedding with
  | nil => exact absurd rfl hnonempty
  | cons value rest => exact if_neg (not_lt.mpr hnonneg)

theorem vectorOf_cases (entry : Json) :
    (∃ index embedding, isObject entry = true ∧ (item entry "index").int? = some index ∧ 0 ≤ index ∧
      item entry "embedding" = .arr embedding ∧ embedding ≠ []) ∨
    vectorOf entry = refuse .openAI "OpenAI embedding response data is invalid" := by
  unfold vectorOf
  cases isObject entry with
  | false => exact .inr rfl
  | true =>
    cases (item entry "index").int? with
    | none => exact .inr rfl
    | some index =>
      cases item entry "embedding" with
      | arr embedding =>
        cases embedding with
        | nil => exact .inr rfl
        | cons value rest =>
          by_cases hindex : index < 0
          · exact .inr (if_pos hindex)
          · exact .inl ⟨index, value :: rest, rfl, rfl, not_lt.mp hindex, rfl, List.cons_ne_nil _ _⟩
      | _ => exact .inr rfl

theorem vectorOf_ok {vector : EmbeddingVector} (h : vectorOf entry = .ok vector) :
    Labelled entry vector.index vector.values := by
  obtain ⟨-, hfinite, hvalues⟩ := vector_problem.mp vector.ok
  rcases vectorOf_cases entry with hshape | hrefused
  · obtain ⟨index, embedding, hobject, hlabel, hnonneg, hembedding, hnonempty⟩ := hshape
    rw [vectorOf_eq hobject hlabel hnonneg hembedding hnonempty] at h
    obtain ⟨values, hread, hnew⟩ := of_bind_ok h
    obtain ⟨_, rfl⟩ := of_validated hnew
    exact ⟨hobject, hlabel, hnonneg, ⟨embedding, hembedding, hread⟩, hfinite, hvalues⟩
  · rw [hrefused] at h
    cases h

theorem vectorOf_labelled (h : Labelled entry index values) :
    ∃ vector, vectorOf entry = .ok vector ∧ vector.index = index ∧ vector.values = values := by
  obtain ⟨embedding, hembedding, hread⟩ := h.embedding
  have hnonempty : embedding ≠ [] := by
    rintro rfl
    cases hread
    exact h.nonempty rfl
  have hproblem := vector_problem.mpr ⟨h.nonneg, h.nonempty, h.finite⟩
  refine ⟨⟨index, values, hproblem⟩, ?_, rfl, rfl⟩
  rw [vectorOf_eq h.object h.label h.nonneg hembedding hnonempty, hread]
  exact validated_ok hproblem

def Refusable (err : Exn) : Prop := isMalformed err = true ∨ OwnError .openAI err

theorem refused_refusable {α : Type} {message : String} (h : (refuse .openAI message : Except Exn α) = .error err) :
    Refusable err := by
  cases h
  exact .inr (ownError_permanent .openAI message)

theorem validated_refusable {α : Type} {problem : Option String} {mk : problem = none → α}
    (h : validated problem mk = .error err) : Refusable err := by
  obtain ⟨message, rfl⟩ := of_validated_error h
  exact .inl rfl

theorem overflow_not_refusable : ¬Refusable overflowError := by
  intro h
  rcases h with h | ⟨e, h, -⟩
  · cases h
  · cases h

theorem vectorOf_tooLarge (h : TooLargeIn entry) : vectorOf entry = .error overflowError := by
  obtain ⟨index, hlabel, hnonneg⟩ := h.label
  obtain ⟨before, n, after, hembedding, hbefore, hlarge⟩ := h.embedding
  have hread : (before ++ .int n :: after).mapM float = .error overflowError :=
    mapM_error_iff.mpr ⟨before, .int n, after, rfl, hbefore, float_tooLarge hlarge⟩
  rw [vectorOf_eq h.object hlabel hnonneg hembedding (by simp), hread]
  rfl

theorem vectorOf_error (h : vectorOf entry = .error err) :
    Refusable err ∨ (err = overflowError ∧ TooLargeIn entry) := by
  rcases vectorOf_cases entry with hshape | hrefused
  · obtain ⟨index, embedding, hobject, hlabel, hnonneg, hembedding, hnonempty⟩ := hshape
    rw [vectorOf_eq hobject hlabel hnonneg hembedding hnonempty] at h
    cases hread : embedding.mapM float with
    | ok values =>
      rw [hread] at h
      exact .inl (validated_refusable h)
    | error err' =>
      rw [hread] at h
      cases h
      obtain ⟨before, value, after, rfl, hbefore, hvalue⟩ := mapM_error_iff.mp hread
      rcases float_error hvalue with ⟨n, rfl, hlarge, rfl⟩ | rfl | rfl
      · exact .inr ⟨rfl, hobject, ⟨index, hlabel, hnonneg⟩, before, n, after, hembedding, hbefore, hlarge⟩
      · exact .inl (.inl rfl)
      · exact .inl (.inl rfl)
  · exact .inl (refused_refusable (hrefused.symm.trans h))

end Vectors

section Labels

theorem naturals_sorted (n : ℕ) : ((List.range n).map Int.ofNat).Pairwise (· ≤ ·) := by
  rw [List.pairwise_map]
  refine List.pairwise_le_range.imp ?_
  intro a b hab
  exact Int.ofNat_le.mpr hab

/-- Labels are contiguous from zero when they are the naturals below their number in some order. -/
theorem contiguous_iff {labels : List ℤ} :
    Contiguous labels ↔ labels.Perm ((List.range labels.length).map Int.ofNat) := by
  unfold Contiguous
  constructor
  · intro h
    rw [← h]
    exact (List.perm_insertionSort _ labels).symm
  · intro h
    exact ((List.perm_insertionSort _ labels).trans h).eq_of_pairwise' (List.pairwise_insertionSort _ labels)
      (naturals_sorted _)

theorem nodup_of_perm {labels : List ℤ} (h : labels.Perm ((List.range labels.length).map Int.ofNat)) :
    labels.Nodup :=
  h.symm.nodup (List.nodup_range.map fun _ _ => Int.ofNat.inj)

theorem vectors_nodup {vectors : List EmbeddingVector}
    (h : (vectors.map (·.index)).Perm ((List.range vectors.length).map Int.ofNat)) :
    (vectors.map (·.index)).Nodup := by
  apply nodup_of_perm
  rw [List.length_map]
  exact h

theorem response_problem {id model : String} {data : List EmbeddingVector} (hid : isBlank id = false)
    (hmodel : isBlank model = false) : EmbeddingResponse.problem id model data = none ↔
      data ≠ [] ∧ (data.map (·.index)).Perm ((List.range data.length).map Int.ofNat) := by
  unfold EmbeddingResponse.problem
  rw [requireNonBlank_none.mpr hid, requireNonBlank_none.mpr hmodel, Option.none_or, Option.none_or]
  have hlength : (data.map (·.index)).length = data.length := List.length_map _
  have hcontiguous := @contiguous_iff (data.map (·.index))
  rw [hlength] at hcontiguous
  split_ifs with hempty hunique hlabels
  · simp [List.isEmpty_iff.mp hempty]
  · rw [iff_true_left rfl]
    exact ⟨fun h => hempty (List.isEmpty_iff.mpr h), hcontiguous.mp hlabels⟩
  · rw [iff_false_left nofun]
    exact fun h => hlabels (hcontiguous.mpr h.2)
  · rw [iff_false_left nofun]
    exact fun h => hunique (vectors_nodup h.2)

theorem sortByIndex_perm (vectors : List EmbeddingVector) : (sortByIndex vectors).Perm vectors :=
  List.perm_insertionSort _ vectors

/-- Sorted labels that are contiguous stand at the positions they name. -/
theorem label_of_position {vectors : List EmbeddingVector} {vector : EmbeddingVector} {i : ℕ}
    (hlabels : (vectors.map (·.index)).Perm ((List.range vectors.length).map Int.ofNat))
    (h : (sortByIndex vectors)[i]? = some vector) : vector.index = i := by
  have hsorted : ((sortByIndex vectors).map (·.index)).Pairwise (· ≤ ·) := by
    rw [List.pairwise_map]
    exact List.pairwise_insertionSort _ vectors
  have hnumbers : (sortByIndex vectors).map (·.index) = (List.range vectors.length).map Int.ofNat :=
    (((sortByIndex_perm vectors).map _).trans hlabels).eq_of_pairwise' hsorted (naturals_sorted _)
  have hlabel : ((sortByIndex vectors).map (·.index))[i]? = some vector.index := by
    rw [List.getElem?_map, h]
    rfl
  rw [hnumbers, List.getElem?_map] at hlabel
  obtain ⟨n, hn, hindex⟩ := Option.map_eq_some_iff.mp hlabel
  obtain ⟨hi, hposition⟩ := List.getElem?_eq_some_iff.mp hn
  rw [List.getElem_range] at hposition
  rw [← hindex, ← hposition]
  rfl

end Labels

section Payloads

variable {payload : Json} {request : EmbeddingRequest} {entries : List Json} {vectors : List EmbeddingVector}
  {response : EmbeddingResponse} {err : Exn}

theorem EmbeddingRequest.model_ok (request : EmbeddingRequest) : isBlank request.model = false :=
  requireNonBlank_none.mp (or_none request.ok).1

theorem validText_getD {j : Json} {default : String} (h : isBlank default = false) :
    isBlank ((validText j).getD default) = false := by
  cases j with
  | str s =>
    cases hs : isBlank s with
    | true =>
      rw [validText, hs]
      exact h
    | false =>
      rw [validText, hs]
      exact hs
  | _ => exact h

theorem promptTokens_ok {usage_payload : Json} {prompt_tokens : ℤ} : promptTokens usage_payload = .ok prompt_tokens ↔
    isObject usage_payload = true ∧ (item usage_payload "prompt_tokens").int? = some prompt_tokens ∧
      0 ≤ prompt_tokens := by
  unfold promptTokens
  cases isObject usage_payload with
  | false => simp [refuse]
  | true =>
    cases (item usage_payload "prompt_tokens").int? with
    | none => simp [refuse]
    | some n =>
      by_cases hn : n < 0
      · simp [hn, refuse]
        omega
      · simp [hn]
        omega

theorem promptTokens_error {usage_payload : Json} (h : promptTokens usage_payload = .error err) : Refusable err := by
  unfold promptTokens at h
  split_ifs at h
  · exact refused_refusable h
  · split at h
    · split_ifs at h
      exact refused_refusable h
    · exact refused_refusable h

def finish (payload : Json) (request : EmbeddingRequest) (vectors : List EmbeddingVector) :
    Except Exn EmbeddingResponse := do
  let prompt_tokens ← promptTokens (item payload "usage")
  let usage ← EmbeddingUsage.new prompt_tokens
  EmbeddingResponse.new ((validText (item payload "id")).getD "openai-embedding")
    ((validText (item payload "model")).getD request.model) (sortByIndex vectors) usage

theorem readPayload_eq (hdata : item payload "data" = .arr entries) (hnonempty : entries ≠ []) :
    readPayload payload request = entries.mapM vectorOf >>= finish payload request := by
  unfold readPayload
  rw [hdata]
  cases entries with
  | nil => exact absurd rfl hnonempty
  | cons entry entries => rfl

theorem readPayload_cases (payload : Json) (request : EmbeddingRequest) :
    (∃ entries, item payload "data" = .arr entries ∧ entries ≠ []) ∨
      readPayload payload request = refuse .openAI "OpenAI embedding response is missing data" := by
  unfold readPayload
  cases item payload "data" with
  | arr entries =>
    cases entries with
    | nil => exact .inr rfl
    | cons entry entries => exact .inl ⟨entry :: entries, rfl, List.cons_ne_nil _ _⟩
  | _ => exact .inr rfl

theorem finish_ok (h : finish payload request vectors = .ok response) :
    response.data = sortByIndex vectors ∧ promptTokens (item payload "usage") = .ok response.usage.input_tokens := by
  obtain ⟨prompt_tokens, htokens, h⟩ := of_bind_ok h
  obtain ⟨usage, husage, h⟩ := of_bind_ok h
  obtain ⟨_, rfl⟩ := of_validated husage
  obtain ⟨_, rfl⟩ := of_validated h
  exact ⟨rfl, htokens⟩

theorem finish_error (h : finish payload request vectors = .error err) : Refusable err := by
  unfold finish at h
  cases htokens : promptTokens (item payload "usage") with
  | error err' =>
    rw [htokens] at h
    cases h
    exact promptTokens_error htokens
  | ok prompt_tokens =>
    rw [htokens] at h
    cases husage : EmbeddingUsage.new prompt_tokens with
    | error err' =>
      change (EmbeddingUsage.new prompt_tokens >>= _) = _ at h
      rw [husage] at h
      cases h
      exact validated_refusable husage
    | ok usage =>
      change (EmbeddingUsage.new prompt_tokens >>= _) = _ at h
      rw [husage] at h
      exact validated_refusable h

theorem readPayload_ok (h : readPayload payload request = .ok response) :
    ∃ entries vectors, item payload "data" = .arr entries ∧ entries ≠ [] ∧ entries.mapM vectorOf = .ok vectors ∧
      finish payload request vectors = .ok response := by
  rcases readPayload_cases payload request with hdata | hrefused
  · obtain ⟨entries, hdata, hnonempty⟩ := hdata
    rw [readPayload_eq hdata hnonempty] at h
    obtain ⟨vectors, hvectors, hfinish⟩ := of_bind_ok h
    exact ⟨entries, vectors, hdata, hnonempty, hvectors, hfinish⟩
  · cases hrefused.symm.trans h

theorem readPayload_overflows (h : Overflows payload) : readPayload payload request = .error overflowError := by
  obtain ⟨before, entry, after, hdata, hbefore, hlarge⟩ := h
  have hread : (before ++ entry :: after).mapM vectorOf = .error overflowError := by
    refine mapM_error_iff.mpr ⟨before, entry, after, rfl, ?_, vectorOf_tooLarge hlarge⟩
    intro vector hvector
    obtain ⟨index, values, hlabelled⟩ := hbefore vector hvector
    obtain ⟨v, hv, -⟩ := vectorOf_labelled hlabelled
    exact ⟨v, hv⟩
  rw [readPayload_eq hdata (by simp), hread]
  rfl

theorem readPayload_error (h : readPayload payload request = .error err) :
    Refusable err ∨ (err = overflowError ∧ Overflows payload) := by
  rcases readPayload_cases payload request with hdata | hrefused
  · obtain ⟨entries, hdata, hnonempty⟩ := hdata
    rw [readPayload_eq hdata hnonempty] at h
    cases hread : entries.mapM vectorOf with
    | ok vectors =>
      rw [hread] at h
      exact .inl (finish_error h)
    | error err' =>
      rw [hread] at h
      cases h
      obtain ⟨before, entry, after, rfl, hbefore, hentry⟩ := mapM_error_iff.mp hread
      rcases vectorOf_error hentry with hrefusable | ⟨rfl, hlarge⟩
      · exact .inl hrefusable
      · refine .inr ⟨rfl, before, entry, after, hdata, ?_, hlarge⟩
        intro vector hvector
        obtain ⟨v, hv⟩ := hbefore vector hvector
        exact ⟨v.index, v.values, vectorOf_ok hv⟩
  · exact .inl (refused_refusable (hrefused.symm.trans h))

theorem labels_of_vectors (h : entries.mapM vectorOf = .ok vectors) :
    List.Forall₂ (fun entry label => ∃ values, Labelled entry label values) entries (vectors.map (·.index)) := by
  rw [List.forall₂_map_right_iff]
  exact (mapM_ok_iff.mp h).imp fun entry vector hvector => ⟨vector.values, vectorOf_ok hvector⟩

theorem vectors_of_labels {labels : List ℤ}
    (h : List.Forall₂ (fun entry label => ∃ values, Labelled entry label values) entries labels) :
    ∃ vectors, entries.mapM vectorOf = .ok vectors ∧ vectors.map (·.index) = labels := by
  induction h with
  | nil => exact ⟨[], rfl, rfl⟩
  | cons hentry _ ih =>
    obtain ⟨values, hlabelled⟩ := hentry
    obtain ⟨vector, hvector, rfl, -⟩ := vectorOf_labelled hlabelled
    obtain ⟨vectors, hvectors, rfl⟩ := ih
    exact ⟨vector :: vectors, mapM_ok_iff.mpr (.cons hvector (mapM_ok_iff.mp hvectors)), rfl⟩

theorem EmbeddingResponse.labels_ok (response : EmbeddingResponse) :
    (response.data.map (·.index)).Perm ((List.range response.data.length).map Int.ofNat) := by
  obtain ⟨hid, hrest⟩ := or_none response.ok
  obtain ⟨hmodel, -⟩ := or_none hrest
  exact ((response_problem (requireNonBlank_none.mp hid) (requireNonBlank_none.mp hmodel)).mp response.ok).2

theorem vector_labels (hdata : response.data = sortByIndex vectors) :
    (vectors.map (·.index)).Perm ((List.range vectors.length).map Int.ofNat) := by
  have hlabels := response.labels_ok
  have hlength := (sortByIndex_perm vectors).length_eq
  rw [hdata, hlength] at hlabels
  exact ((sortByIndex_perm vectors).symm.map _).trans hlabels

theorem acceptable_of_ok (h : readPayload payload request = .ok response) :
    ∃ entries vectors, Acceptable payload entries ∧ entries.mapM vectorOf = .ok vectors ∧
      response.data = sortByIndex vectors := by
  obtain ⟨entries, vectors, hdata, hnonempty, hvectors, hfinish⟩ := readPayload_ok h
  obtain ⟨hsorted, htokens⟩ := finish_ok hfinish
  have hlabels := vector_labels hsorted
  rw [← (mapM_ok_iff.mp hvectors).length_eq] at hlabels
  have hacceptable : Acceptable payload entries :=
    ⟨hdata, hnonempty, ⟨_, labels_of_vectors hvectors, hlabels⟩, _, promptTokens_ok.mp htokens⟩
  exact ⟨entries, vectors, hacceptable, hvectors, hsorted⟩

/-- Vectors with contiguous labels make a response, when the tokens are there. -/
theorem finish_isOk {prompt_tokens : ℤ} (request : EmbeddingRequest) (hnonempty : vectors ≠ [])
    (hlabels : (vectors.map (·.index)).Perm ((List.range vectors.length).map Int.ofNat))
    (htokens : promptTokens (item payload "usage") = .ok prompt_tokens) :
    ∃ response, finish payload request vectors = .ok response := by
  have hsorted := sortByIndex_perm vectors
  have husage : EmbeddingUsage.problem prompt_tokens = none := if_neg (not_lt.mpr (promptTokens_ok.mp htokens).2.2)
  have husage' : EmbeddingUsage.new prompt_tokens = .ok ⟨prompt_tokens, husage⟩ := validated_ok husage
  have hproblem : EmbeddingResponse.problem ((validText (item payload "id")).getD "openai-embedding")
      ((validText (item payload "model")).getD request.model) (sortByIndex vectors) = none := by
    refine (response_problem (validText_getD rfl) (validText_getD request.model_ok)).mpr ⟨?_, ?_⟩
    · intro hnil
      rw [hnil] at hsorted
      exact hnonempty hsorted.nil_eq.symm
    · rw [hsorted.length_eq]
      exact (hsorted.map _).trans hlabels
  unfold finish
  rw [htokens]
  change ∃ response, (EmbeddingUsage.new prompt_tokens >>= _) = .ok response
  rw [husage']
  exact ⟨_, validated_ok hproblem⟩

/-- An acceptable payload gives a response with a vector for each of its items. -/
theorem ok_of_acceptable (request : EmbeddingRequest) (h : Acceptable payload entries) :
    ∃ response, readPayload payload request = .ok response ∧ response.data.length = entries.length := by
  obtain ⟨labels, hlabelled, hlabels⟩ := h.labels
  obtain ⟨prompt_tokens, htokens⟩ := h.usage
  obtain ⟨vectors, hvectors, rfl⟩ := vectors_of_labels hlabelled
  have hlength := (mapM_ok_iff.mp hvectors).length_eq
  have hnonempty : vectors ≠ [] := by
    rintro rfl
    exact h.nonempty (List.length_eq_zero_iff.mp hlength)
  obtain ⟨response, hfinish⟩ := finish_isOk request hnonempty (hlength ▸ hlabels) (promptTokens_ok.mpr htokens)
  refine ⟨response, ?_, ?_⟩
  · rw [readPayload_eq h.data h.nonempty, hvectors]
    exact hfinish
  · rw [(finish_ok hfinish).1, (sortByIndex_perm vectors).length_eq, hlength]

/-- The response to a payload gives every position the vector that is labelled with it. -/
theorem aligned_of_ok (h : readPayload payload request = .ok response)
    (hcount : ∀ entries, Acceptable payload entries → entries.length = request.input.length) :
    Aligned payload request response := by
  obtain ⟨entries, vectors, hacceptable, hvectors, hdata⟩ := acceptable_of_ok h
  have hlength := (mapM_ok_iff.mp hvectors).length_eq
  refine ⟨?_, ?_⟩
  · rw [hdata, (sortByIndex_perm vectors).length_eq, ← hlength, hcount entries hacceptable]
  · intro i vector hi
    rw [hdata] at hi
    have hindex := label_of_position (vector_labels hdata) hi
    obtain ⟨-, hnonempty, hfinite⟩ := vector_problem.mp vector.ok
    have hmem : vector ∈ vectors := (sortByIndex_perm vectors).mem_iff.mp (List.mem_of_getElem? hi)
    refine ⟨hindex, hnonempty, hfinite, entries, hacceptable.data, ?_, ?_⟩
    · obtain ⟨entry, hentry, hvector⟩ := exists_left (mapM_ok_iff.mp hvectors) hmem
      exact ⟨entry, hentry, hindex ▸ vectorOf_ok hvector⟩
    · intro entry hentry values hlabelled
      obtain ⟨other, hother, hindex', rfl⟩ := vectorOf_labelled hlabelled
      obtain ⟨other', hmem', hother'⟩ := exists_left (mapM_ok_iff.mp hvectors).flip hentry
      cases hother.symm.trans hother'
      have hsame := List.inj_on_of_nodup_map (vectors_nodup (vector_labels hdata)) hmem' hmem
      rw [hsame (hindex'.trans hindex.symm)]

/-- What the parser answers is a response to an acceptable payload, an overflow, or an error of its own. -/
theorem fromOpenAIPayload_ok : fromOpenAIPayload payload request = .ok response ↔
    readPayload payload request = .ok response := by
  unfold fromOpenAIPayload
  cases readPayload payload request with
  | ok read => exact Iff.rfl
  | error err =>
    simp only
    split_ifs <;> exact ⟨nofun, nofun⟩

theorem fromOpenAIPayload_refuses (h : ¬Overflows payload) :
    RaisesOwn .openAI (fromOpenAIPayload payload request) := by
  intro err herr
  unfold fromOpenAIPayload at herr
  cases hread : readPayload payload request with
  | ok response =>
    rw [hread] at herr
    cases herr
  | error err' =>
    rw [hread] at herr
    simp only at herr
    split_ifs at herr with hmalformed
    · cases herr
      exact ownError_permanent .openAI _
    · cases herr
      rcases readPayload_error hread with hrefusable | hoverflow
      · exact hrefusable.resolve_left hmalformed
      · exact absurd hoverflow.2 h

theorem fromOpenAIPayload_overflows (h : Overflows payload) :
    fromOpenAIPayload payload request = .error overflowError := by
  unfold fromOpenAIPayload
  rw [readPayload_overflows h]
  rfl

theorem isObject_of_data {items : List Json} (h : item payload "data" = .arr items) : isObject payload = true := by
  cases payload with
  | obj members => rfl
  | _ => cases h

theorem isObject_of_overflows (h : Overflows payload) : isObject payload = true := by
  obtain ⟨before, entry, after, hdata, -⟩ := h
  exact isObject_of_data hdata

theorem fromBody_object (h : isObject payload = true) :
    fromBody payload request = fromOpenAIPayload payload request := by
  unfold fromBody
  rw [h]
  rfl

/-- The vectors are aligned with the texts, and all other payloads refused, exactly when no integer is too large
for a float and an acceptable payload has an item for each text. -/
theorem alignment_kept_iff (payload : Json) (request : EmbeddingRequest) : KeepsAlignment payload request ↔
    ¬Overflows payload ∧ ∀ entries, Acceptable payload entries → entries.length = request.input.length := by
  constructor
  · intro h
    refine ⟨?_, ?_⟩
    · intro hoverflows
      have hbody := @fromBody_object payload request (isObject_of_overflows hoverflows)
      exact overflow_not_refusable (.inr (h.refused _ (hbody.trans (fromOpenAIPayload_overflows hoverflows))))
    · intro entries hacceptable
      obtain ⟨response, hread, hlength⟩ := ok_of_acceptable request hacceptable
      have hbody := (fromBody_object (isObject_of_data hacceptable.data)).trans (fromOpenAIPayload_ok.mpr hread)
      exact hlength.symm.trans (h.aligned response hbody).count
  · intro h
    obtain ⟨hoverflows, hcount⟩ := h
    cases hobject : isObject payload with
    | false =>
      have hbody : fromBody payload request = refuse .openAI "OpenAI response body must be a JSON object" := by
        unfold fromBody
        rw [hobject]
        rfl
      refine ⟨?_, ?_⟩
      · intro response hok
        cases hbody.symm.trans hok
      · intro err herr
        cases hbody.symm.trans herr
        exact ownError_permanent .openAI _
    | true =>
      have hbody := @fromBody_object payload request hobject
      refine ⟨?_, ?_⟩
      · intro response hok
        exact aligned_of_ok (fromOpenAIPayload_ok.mp (hbody.symm.trans hok)) hcount
      · rw [hbody]
        exact fromOpenAIPayload_refuses hoverflows

end Payloads

section Samples

theorem twoTexts_ok : EmbeddingRequest.problem "text-embedding-3-small" ["first", "second"] none = none := by decide

def twoTexts : EmbeddingRequest := ⟨"text-embedding-3-small", ["first", "second"], none, twoTexts_ok⟩

def oneVector (value : Json) : Json :=
  .obj [("data", .arr [.obj [("index", .int 0), ("embedding", .arr [value])]]),
    ("usage", .obj [("prompt_tokens", .int 2)])]

def tenTo400 : ℤ := .ofNat (Nat.pow 10 400)

theorem tooLarge_sample : TooLarge (tenTo400) := by decide +kernel

theorem oneVector_overflows : Overflows (oneVector (.int tenTo400)) := by
  refine ⟨[], _, [], rfl, List.forall_mem_nil _, rfl, ⟨0, rfl, le_rfl⟩, [], tenTo400, [], rfl, ?_, tooLarge_sample⟩
  exact List.forall_mem_nil _

theorem oneVector_read : (fromBody (oneVector (.float "1.5")) twoTexts).map (fun response => response.data.length) =
    .ok 1 := by decide +kernel

/-- One vector is taken as the answer to two texts, and an integer of 401 digits raises an `OverflowError`. -/
theorem short_or_overflowing :
    (∃ response, fromBody (oneVector (.float "1.5")) twoTexts = .ok response ∧ response.data.length = 1) ∧
    ¬KeepsAlignment (oneVector (.float "1.5")) twoTexts ∧
    fromBody (oneVector (.int tenTo400)) twoTexts = .error overflowError ∧
    ¬KeepsAlignment (oneVector (.int tenTo400)) twoTexts := by
  have hshort : ∃ response, fromBody (oneVector (.float "1.5")) twoTexts = .ok response ∧
      response.data.length = 1 := by
    have hread := oneVector_read
    cases hbody : fromBody (oneVector (.float "1.5")) twoTexts with
    | error err =>
      rw [hbody] at hread
      cases hread
    | ok response =>
      rw [hbody] at hread
      exact ⟨response, rfl, Except.ok.inj hread⟩
  have hlarge : fromBody (oneVector (.int tenTo400)) twoTexts = .error overflowError :=
    (fromBody_object (isObject_of_overflows oneVector_overflows)).trans
      (fromOpenAIPayload_overflows oneVector_overflows)
  refine ⟨hshort, ?_, hlarge, ?_⟩
  · intro h
    obtain ⟨response, hbody, hlength⟩ := hshort
    have hcount : 1 = 2 := hlength.symm.trans (h.aligned response hbody).count
    cases hcount
  · intro h
    exact overflow_not_refusable (.inr (h.refused overflowError hlarge))

end Samples

end AIRuntime.EmbeddingPayloads
