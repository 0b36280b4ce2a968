import AIRuntime.FailoverBudget
import Mathlib.Order.Bounds.Defs

set_option autoImplicit false

/-! How much of a conversation a truncating context builder drops. -/
namespace AIRuntime.ContextTruncation

open Failures GenerationContracts ExecutorSemantics ListPositions ContextBudget FailoverBudget

section Exactness

def firstUnits (messages : List Message) (j : ℕ) : List ℕ := ((groupUnits messages).take j).flatten

def keptAfter (messages : List Message) (j : ℕ) : List Message := without (firstUnits messages j) messages

def costAfter (counter : TokenCounter) (tools : List ToolDefinition) (messages : List Message) (j : ℕ) : ℤ :=
  counter.countTools tools + ((keptAfter messages j).map counter.countMessage).sum

/-- Dropping `j` units spares the last one and leaves what fits. -/
def Fits (counter : TokenCounter) (tools : List ToolDefinition) (messages : List Message) (budget : ℤ) (j : ℕ) : Prop :=
  j ≤ (groupUnits messages).length - 1 ∧ costAfter counter tools messages j ≤ budget

variable {messages : List Message} {j : ℕ}

theorem dropLast_take (hj : j ≤ (groupUnits messages).length - 1) :
    (groupUnits messages).dropLast.take j = (groupUnits messages).take j := by
  rw [List.dropLast_eq_take, List.take_take, min_eq_left hj]

theorem firstUnits_droppable (messages : List Message) (j : ℕ) :
    (firstUnits messages j).Nodup ∧ ∀ i ∈ firstUnits messages j, ∃ m, messages[i]? = some m ∧ m.role ≠ .system := by
  have hsub : (firstUnits messages j).Sublist (positions messages) := by
    rw [← (groupUnits_partition messages).1]
    exact (List.take_sublist j _).flatten
  exact ⟨(positions_nodup messages).sublist hsub, fun i hi => mem_positions.mp (hsub.subset hi)⟩

theorem costAfter_eq (counter : TokenCounter) (tools : List ToolDefinition) (messages : List Message) (j : ℕ) :
    costAfter counter tools messages j = counter.countTools tools + (messages.map counter.countMessage).sum -
      costAt (messages.map counter.countMessage) (firstUnits messages j) := by
  obtain ⟨hnodup, hin⟩ := firstUnits_droppable messages j
  have hsum := without_sum counter.countMessage hnodup fun i hi => by
    obtain ⟨m, hget, _⟩ := hin i hi
    exact (List.getElem?_eq_some_iff.mp hget).1
  unfold costAfter keptAfter
  omega

/-- With truncation, a builder drops units until the rest fits or the last one is left. -/
theorem execute_truncating {self : BuildContext} {model : String} {tools : List ToolDefinition}
    {max_output_tokens : Option ℤ} {policy : ContextPolicy} {budget : ℤ} (htruncate : policy.truncate = true)
    (hbudget : self.budget model max_output_tokens policy = some budget) :
    ∃ j ≤ (groupUnits messages).length - 1,
      (costAfter self.counter tools messages j ≤ budget ∨ j = (groupUnits messages).length - 1) ∧
      (∀ i < j, budget < costAfter self.counter tools messages i) ∧
      self.execute model messages tools max_output_tokens policy =
        if budget < costAfter self.counter tools messages j then .error .contextLimitExceeded
        else .ok (keptAfter messages j) := by
  obtain ⟨j, hj, heq, hend, hbefore⟩ := dropUnits_eq (messages.map self.counter.countMessage) budget
    (groupUnits messages).dropLast [] (self.counter.countTools tools + (messages.map self.counter.countMessage).sum)
  rw [List.length_dropLast] at hj hend
  have hcost : ∀ i ≤ j, self.counter.countTools tools + (messages.map self.counter.countMessage).sum -
      costAt (messages.map self.counter.countMessage) ((groupUnits messages).dropLast.take i).flatten =
        costAfter self.counter tools messages i := by
    intro i hi
    rw [costAfter_eq, dropLast_take (by omega)]
    rfl
  have hfirst : ∀ i < j, budget < costAfter self.counter tools messages i := by
    intro i hi
    rw [← hcost i (by omega)]
    exact hbefore i hi
  rw [hcost j (by omega)] at heq hend
  rw [dropLast_take hj, List.nil_append] at heq
  refine ⟨j, hj, hend, hfirst, ?_⟩
  unfold BuildContext.execute
  simp only [hbudget, htruncate, Bool.not_true, Bool.false_eq_true, ↓reduceIte, heq]
  by_cases hall : self.counter.countTools tools + (messages.map self.counter.countMessage).sum ≤ budget
  · -- nothing has to go, and the loop would drop nothing
    have hzero : costAfter self.counter tools messages 0 ≤ budget := by
      rw [costAfter_eq]
      simpa [firstUnits, costAt] using hall
    have hnone : j = 0 := by
      by_contra hne
      have hlt := hfirst 0 (by omega)
      omega
    subst hnone
    rw [if_pos hall, if_neg (by omega)]
    exact congrArg Except.ok (without_nil messages).symm
  · rw [if_neg hall]
    rfl

theorem not_fits_of_over {counter : TokenCounter} {tools : List ToolDefinition} {budget : ℤ}
    (hend : costAfter counter tools messages j ≤ budget ∨ j = (groupUnits messages).length - 1)
    (hbefore : ∀ i < j, budget < costAfter counter tools messages i)
    (hover : budget < costAfter counter tools messages j) (i : ℕ) : ¬Fits counter tools messages budget i := by
  intro h
  obtain ⟨hi, hfits⟩ := h
  rcases Nat.lt_or_ge i j with hlt | hge
  · have hbad := hbefore i hlt
    omega
  · obtain rfl : i = j := by omega
    omega

/-- What truncation never drops: system messages and the last unit. -/
def Spared (messages : List Message) (i : ℕ) : Prop :=
  (∃ m, messages[i]? = some m ∧ m.role = .system) ∨ ∃ unit, (groupUnits messages).getLast? = some unit ∧ i ∈ unit

theorem spared_stays {i : ℕ} (hj : j ≤ (groupUnits messages).length - 1) (h : Spared messages i) :
    i ∉ firstUnits messages j := by
  intro hdropped
  rcases h with ⟨m, hget, hrole⟩ | ⟨unit, hlast, hmem⟩
  · obtain ⟨m', hget', hrole'⟩ := (firstUnits_droppable messages j).2 i hdropped
    rw [hget] at hget'
    cases hget'
    exact hrole' hrole
  · have hnodup := positions_nodup messages
    rw [← (groupUnits_partition messages).1, ← List.dropLast_append_getLast? unit hlast, List.flatten_concat] at hnodup
    unfold firstUnits at hdropped
    rw [← dropLast_take hj] at hdropped
    exact (List.nodup_append.mp hnodup).2.2 i ((List.take_sublist j _).flatten.subset hdropped) i hmem rfl

variable {self : BuildContext} {model : String} {tools : List ToolDefinition} {max_output_tokens : Option ℤ}
  {policy : ContextPolicy} {budget : ℤ}

theorem execute_ok_iff (htruncate : policy.truncate = true)
    (hbudget : self.budget model max_output_tokens policy = some budget) (kept : List Message) :
    self.execute model messages tools max_output_tokens policy = .ok kept ↔
      ∃ j, IsLeast {j | Fits self.counter tools messages budget j} j ∧ kept = keptAfter messages j := by
  obtain ⟨j, hj, hend, hbefore, heq⟩ := @execute_truncating messages self model tools max_output_tokens policy budget
    htruncate hbudget
  rw [heq]
  by_cases hover : budget < costAfter self.counter tools messages j
  · rw [if_pos hover]
    constructor
    · intro h
      cases h
    · intro h
      obtain ⟨i, ⟨hfits, -⟩, -⟩ := h
      exact absurd hfits (not_fits_of_over hend hbefore hover i)
  · rw [if_neg hover]
    have hleast : IsLeast {j | Fits self.counter tools messages budget j} j := by
      refine ⟨⟨hj, by omega⟩, ?_⟩
      intro i hi
      by_contra hlt
      have hbad := hbefore i (by omega)
      have hfits := hi.2
      omega
    constructor
    · intro h
      cases h
      exact ⟨j, hleast, rfl⟩
    · intro h
      obtain ⟨i, hi, rfl⟩ := h
      rw [hi.unique hleast]

theorem execute_error_iff (htruncate : policy.truncate = true)
    (hbudget : self.budget model max_output_tokens policy = some budget) :
    self.execute model messages tools max_output_tokens policy = .error .contextLimitExceeded ↔
      ∀ j, ¬Fits self.counter tools messages budget j := by
  obtain ⟨j, hj, hend, hbefore, heq⟩ := @execute_truncating messages self model tools max_output_tokens policy budget
    htruncate hbudget
  rw [heq]
  by_cases hover : budget < costAfter self.counter tools messages j
  · rw [if_pos hover]
    exact ⟨fun _ => not_fits_of_over hend hbefore hover, fun _ => rfl⟩
  · rw [if_neg hover]
    constructor
    · intro h
      cases h
    · exact fun h => absurd ⟨hj, by omega⟩ (h j)

/-- A truncating builder drops the fewest units that make the rest fit, the last one never; it refuses a
conversation exactly when no such number does. -/
theorem truncation_drops_fewest_units (builder : BuildContext) (model : String) (messages : List Message)
    (tools : List ToolDefinition) (max_output_tokens : Option ℤ) (policy : ContextPolicy) (budget : ℤ)
    (htruncate : policy.truncate = true) (hbudget : builder.budget model max_output_tokens policy = some budget) :
    (∀ kept, builder.execute model messages tools max_output_tokens policy = .ok kept ↔
      ∃ j, IsLeast {j | Fits builder.counter tools messages budget j} j ∧ kept = keptAfter messages j) ∧
    (builder.execute model messages tools max_output_tokens policy = .error .contextLimitExceeded ↔
      ∀ j, ¬Fits builder.counter tools messages budget j) ∧
    ∀ j ≤ (groupUnits messages).length - 1, ∀ i, Spared messages i → i ∉ firstUnits messages j :=
  ⟨execute_ok_iff htruncate hbudget, execute_error_iff htruncate hbudget, fun _ hj _ h => spared_stays hj h⟩

end Exactness

section Samples

def instructions : Message := ⟨.system, "Answer in one sentence.", none, none, [], by decide⟩

def answered : Message := ⟨.assistant, "It is 72 degrees.", none, none, [], by decide⟩

def farewell : Message := ⟨.user, "Thank you!", none, none, [], by decide⟩

/-- Of a greeting, its answer and a last message, the greeting goes. -/
theorem greeting_dropped :
    ((∀ kept, defaultBuilder.execute "gpt-4o" [instructions, hello, answered, farewell] [] none
        ⟨some 32, true, by decide⟩ = .ok kept ↔
      ∃ j, IsLeast {j | Fits heuristicTokenCounter [] [instructions, hello, answered, farewell] 32 j} j ∧
        kept = keptAfter [instructions, hello, answered, farewell] j) ∧
    (defaultBuilder.execute "gpt-4o" [instructions, hello, answered, farewell] [] none ⟨some 32, true, by decide⟩ =
        .error .contextLimitExceeded ↔
      ∀ j, ¬Fits heuristicTokenCounter [] [instructions, hello, answered, farewell] 32 j) ∧
    ∀ j ≤ (groupUnits [instructions, hello, answered, farewell]).length - 1, ∀ i,
      Spared [instructions, hello, answered, farewell] i →
        i ∉ firstUnits [instructions, hello, answered, farewell] j) ∧
    defaultBuilder.execute "gpt-4o" [instructions, hello, answered, farewell] [] none ⟨some 32, true, by decide⟩ =
      .ok [instructions, answered, farewell] :=
  ⟨truncation_drops_fewest_units defaultBuilder "gpt-4o" [instructions, hello, answered, farewell] [] none
    ⟨some 32, true, by decide⟩ 32 rfl (by decide +kernel), by decide +kernel⟩

end Samples

end AIRuntime.ContextTruncation
