import AIRuntime.ListPositions
import AIRuntime.ModelRouting
import AIRuntime.ResponsePayloads
import Mathlib.Data.List.Flatten
import Mathlib.Data.Rat.Floor
import Mathlib.Algebra.Order.BigOperators.Group.List

set_option autoImplicit false

/-!
`application/context/build_context.py`, `domain/context.py` and
`infrastructure/tokens/heuristic_token_counter.py`.
-/
namespace AIRuntime.ContextBudget

open Failures JsonText GenerationContracts ModelRouting ResponsePayloads ListPositions

def ContextPolicy.problem (max_input_tokens : Option ℤ) : Option String :=
  if max_input_tokens.any fun n => n ≤ 0 then some "max_input_tokens must be greater than zero" else none

structure ContextPolicy where
  max_input_tokens : Option ℤ
  truncate : Bool
  ok : ContextPolicy.problem max_input_tokens = none

inductive ContextLimitExceeded where
  | contextLimitExceeded
deriving DecidableEq

structure TokenCounter where
  countMessage : Message → ℤ
  countTools : List ToolDefinition → ℤ

section Heuristic

mutual

/-- `json.dumps(value)` with its default separators. -/
def spacedChars : Json → List Char
  | .arr [] => ['[', ']']
  | .arr (x :: xs) => '[' :: (spacedChars x ++ spacedItems xs)
  | .obj [] => ['\x7b', '\x7d']
  | .obj ((k, v) :: ms) => '\x7b' :: (dumpsString escapeChar k ++ ':' :: ' ' :: (spacedChars v ++ spacedMembers ms))
  | j => dumpsChars escapeChar j

def spacedItems : List Json → List Char
  | [] => [']']
  | x :: xs => ',' :: ' ' :: (spacedChars x ++ spacedItems xs)

def spacedMembers : List (String × Json) → List Char
  | [] => ['\x7d']
  | (k, v) :: ms => ',' :: ' ' :: (dumpsString escapeChar k ++ ':' :: ' ' :: (spacedChars v ++ spacedMembers ms))

end

def estimate (text : String) : ℤ := ⌈(text.length : ℚ) / 3⌉

def heuristicTokenCounter : TokenCounter where
  countMessage := fun message =>
    4 + estimate message.content + (message.tool_calls.map fun call =>
      estimate call.name + estimate call.arguments).sum
  countTools := fun tools =>
    (tools.map fun tool => estimate (tool.name ++ tool.description ++
      String.ofList (spacedChars (sortKeys (.obj tool.parameters))))).sum

theorem estimate_nonneg (text : String) : 0 ≤ estimate text := by
  unfold estimate
  apply Int.ceil_nonneg
  positivity

/-- A message costs more than nothing, tools never less. -/
structure Charges (counter : TokenCounter) : Prop where
  message : ∀ m, 0 < counter.countMessage m
  tools : ∀ tools, 0 ≤ counter.countTools tools

theorem heuristic_charges : Charges heuristicTokenCounter := by
  constructor
  · intro m
    have hcontent := estimate_nonneg m.content
    have hcalls : 0 ≤ (m.tool_calls.map fun call => estimate call.name + estimate call.arguments).sum := by
      apply List.sum_nonneg
      intro x hx
      obtain ⟨call, _, rfl⟩ := List.mem_map.mp hx
      have hname := estimate_nonneg call.name
      have harguments := estimate_nonneg call.arguments
      omega
    change 0 < 4 + estimate m.content + _
    omega
  · intro tools
    apply List.sum_nonneg
    intro x hx
    obtain ⟨tool, _, rfl⟩ := List.mem_map.mp hx
    exact estimate_nonneg _

theorem Charges.pos {counter : TokenCounter} (h : Charges counter) (tools : List ToolDefinition) {l : List Message}
    (hl : l ≠ []) : 0 < counter.countTools tools + (l.map counter.countMessage).sum := by
  have htools := h.tools tools
  have hsum : 0 < (l.map counter.countMessage).sum := by
    apply List.sum_pos
    · intro x hx
      obtain ⟨m, _, rfl⟩ := List.mem_map.mp hx
      exact h.message m
    · simpa using hl
  omega

end Heuristic

section Units

def opensCalls (messages : List Message) (unit : List ℕ) : Bool :=
  match unit.head?.bind fun index => messages[index]? with
  | some message => !message.tool_calls.isEmpty
  | none => false

/-- One turn of the loop of `_group_units`. -/
def addToUnits (messages : List Message) (units : List (List ℕ)) (message : Message) (index : ℕ) :
    List (List ℕ) :=
  if message.role = .system then units
  else
    match units.getLast? with
    | some unit =>
      if message.role = .tool && opensCalls messages unit then units.dropLast ++ [unit ++ [index]]
      else units ++ [[index]]
    | none => units ++ [[index]]

def groupUnits (messages : List Message) : List (List ℕ) :=
  messages.zipIdx.foldl (fun units p => addToUnits messages units p.1 p.2) []

/-- The drop loop of `execute` with its locals `dropped` and `total`. -/
def dropUnits (costs : List ℤ) (budget : ℤ) : List (List ℕ) → List ℕ → ℤ → List ℕ × ℤ
  | [], dropped, total => (dropped, total)
  | unit :: rest, dropped, total =>
    if total ≤ budget then (dropped, total)
    else dropUnits costs budget rest (dropped ++ unit) (total - costAt costs unit)

theorem addToUnits_flatten (messages : List Message) (units : List (List ℕ)) (message : Message) (index : ℕ) :
    (addToUnits messages units message index).flatten =
      units.flatten ++ if message.role = .system then [] else [index] := by
  unfold addToUnits
  by_cases hsystem : message.role = .system
  · simp only [hsystem, ↓reduceIte, List.append_nil]
  · simp only [hsystem, ↓reduceIte]
    cases hlast : units.getLast? with
    | none => simp
    | some unit =>
      by_cases htool : (message.role = .tool && opensCalls messages unit) = true
      · simp only [htool, ↓reduceIte]
        have hunits : units.dropLast ++ [unit] = units := List.dropLast_append_getLast? unit hlast
        calc (units.dropLast ++ [unit ++ [index]]).flatten
          _ = (units.dropLast ++ [unit]).flatten ++ [index] := by simp
          _ = units.flatten ++ [index] := by rw [hunits]
      · simp only [htool, Bool.false_eq_true, ↓reduceIte]
        simp

theorem addToUnits_nonempty {messages : List Message} {units : List (List ℕ)} (h : [] ∉ units) (message : Message)
    (index : ℕ) : [] ∉ addToUnits messages units message index := by
  unfold addToUnits
  by_cases hsystem : message.role = .system
  · simpa only [hsystem, ↓reduceIte] using h
  · simp only [hsystem, ↓reduceIte]
    cases units.getLast? with
    | none => simpa using h
    | some unit =>
      by_cases htool : (message.role = .tool && opensCalls messages unit) = true
      · simp only [htool, ↓reduceIte]
        intro hmem
        rcases List.mem_append.mp hmem with hmem | hmem
        · exact h (List.dropLast_subset units hmem)
        · simp at hmem
      · simp only [htool, Bool.false_eq_true, ↓reduceIte]
        simpa using h

def positions (messages : List Message) : List ℕ :=
  (messages.zipIdx.filter fun p => p.1.role ≠ .system).map Prod.snd

def groupFrom (messages : List Message) (ps : List (Message × ℕ)) (units : List (List ℕ)) : List (List ℕ) :=
  ps.foldl (fun units p => addToUnits messages units p.1 p.2) units

theorem groupFrom_flatten (messages : List Message) (ps : List (Message × ℕ)) (units : List (List ℕ)) :
    (groupFrom messages ps units).flatten =
      units.flatten ++ (ps.filter fun p => p.1.role ≠ .system).map Prod.snd := by
  induction ps generalizing units with
  | nil => simp [groupFrom]
  | cons p ps ih =>
    change (groupFrom messages ps (addToUnits messages units p.1 p.2)).flatten = _
    rw [ih, addToUnits_flatten]
    by_cases hsystem : p.1.role = .system
    · simp [hsystem]
    · simp [hsystem]

theorem groupFrom_nonempty (messages : List Message) (ps : List (Message × ℕ)) {units : List (List ℕ)}
    (h : [] ∉ units) : [] ∉ groupFrom messages ps units := by
  induction ps generalizing units with
  | nil => exact h
  | cons p ps ih => exact ih (addToUnits_nonempty h p.1 p.2)

/-- The units hold each position that may be dropped once, in order; none is empty. -/
theorem groupUnits_partition (messages : List Message) :
    (groupUnits messages).flatten = positions messages ∧ [] ∉ groupUnits messages :=
  ⟨groupFrom_flatten messages messages.zipIdx [], groupFrom_nonempty messages messages.zipIdx List.not_mem_nil⟩

theorem positions_nodup (messages : List Message) : (positions messages).Nodup := by
  have hindices : (messages.zipIdx.map Prod.snd).Nodup := by
    rw [List.zipIdx_map_snd]
    exact List.nodup_range'
  exact hindices.sublist (List.filter_sublist.map _)

theorem mem_positions {messages : List Message} {i : ℕ} :
    i ∈ positions messages ↔ ∃ m, messages[i]? = some m ∧ m.role ≠ .system := by
  unfold positions
  simp only [List.mem_map, List.mem_filter, decide_eq_true_eq]
  constructor
  · intro h
    obtain ⟨p, ⟨hmem, hrole⟩, rfl⟩ := h
    exact ⟨p.1, List.mem_zipIdx_iff_getElem?.mp hmem, hrole⟩
  · intro h
    obtain ⟨m, hget, hrole⟩ := h
    exact ⟨(m, i), ⟨List.mem_zipIdx_iff_getElem?.mpr hget, hrole⟩, rfl⟩

theorem prefix_droppable (messages : List Message) (j : ℕ) :
    ((groupUnits messages).dropLast.take j).flatten.Nodup ∧
      ∀ i ∈ ((groupUnits messages).dropLast.take j).flatten, i < messages.length := by
  have hsub : ((groupUnits messages).dropLast.take j).flatten.Sublist (positions messages) := by
    rw [← (groupUnits_partition messages).1]
    exact ((List.take_sublist j _).trans (List.dropLast_sublist _)).flatten
  refine ⟨(positions_nodup messages).sublist hsub, ?_⟩
  intro i hi
  obtain ⟨m, hget, _⟩ := mem_positions.mp (hsub.subset hi)
  exact (List.getElem?_eq_some_iff.mp hget).1

/-- The loop drops units from the front until the rest fits, or until none is left. -/
theorem dropUnits_eq (costs : List ℤ) (budget : ℤ) (units : List (List ℕ)) (dropped : List ℕ) (total : ℤ) :
    ∃ j ≤ units.length, dropUnits costs budget units dropped total =
        (dropped ++ (units.take j).flatten, total - costAt costs (units.take j).flatten) ∧
      (total - costAt costs (units.take j).flatten ≤ budget ∨ j = units.length) ∧
      ∀ i < j, budget < total - costAt costs (units.take i).flatten := by
  induction units generalizing dropped total with
  | nil => exact ⟨0, le_refl _, by simp [dropUnits, costAt], .inr rfl, fun i hi => absurd hi (by omega)⟩
  | cons unit rest ih =>
    by_cases hfits : total ≤ budget
    · refine ⟨0, by omega, ?_, .inl ?_, fun i hi => absurd hi (by omega)⟩
      · simp [dropUnits, hfits, costAt]
      · simpa [costAt] using hfits
    · obtain ⟨j, hj, heq, hend, hbefore⟩ := ih (dropped ++ unit) (total - costAt costs unit)
      have hcost : ∀ i, total - costAt costs unit - costAt costs (rest.take i).flatten =
          total - costAt costs ((unit :: rest).take (i + 1)).flatten := by
        intro i
        rw [List.take_succ_cons, List.flatten_cons, costAt_append]
        omega
      rw [hcost] at heq hend
      refine ⟨j + 1, by simpa using hj, ?_, ?_, ?_⟩
      · rw [dropUnits, if_neg hfits, heq]
        simp
      · exact hend.imp id fun h => by simp [h]
      · intro i hi
        cases i with
        | zero =>
          simp [costAt]
          omega
        | succ i =>
          rw [← hcost]
          exact hbefore i (by omega)

end Units

structure BuildContext where
  counter : TokenCounter
  failover_enabled : Bool
  context_windows : String → Option ℤ
  failover_catalog : FailoverCatalog

namespace BuildContext

variable (self : BuildContext)

def candidates (model : String) : List String :=
  model :: if self.failover_enabled then self.failover_catalog model else []

def budget (model : String) (max_output_tokens : Option ℤ) (policy : ContextPolicy) : Option ℤ :=
  let windows := (self.candidates model).filterMap self.context_windows
  let limits := (windows.min?.map (· - max_output_tokens.getD 0)).toList ++ policy.max_input_tokens.toList
  limits.min?.map (max · 0)

def execute (model : String) (messages : List Message) (tools : List ToolDefinition)
    (max_output_tokens : Option ℤ) (policy : ContextPolicy) : Except ContextLimitExceeded (List Message) :=
  match self.budget model max_output_tokens policy with
  | none => .ok messages
  | some budget =>
    let costs := messages.map self.counter.countMessage
    let total := self.counter.countTools tools + costs.sum
    if total ≤ budget then .ok messages
    else if !policy.truncate then .error .contextLimitExceeded
    else
      let ended := dropUnits costs budget (groupUnits messages).dropLast [] total
      if budget < ended.2 then .error .contextLimitExceeded else .ok (without ended.1 messages)

end BuildContext

end AIRuntime.ContextBudget
