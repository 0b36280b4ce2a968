import AIRuntime.ContextTruncation
import AIRuntime.ToolResultLinks
import Mathlib.Data.List.Pairwise

set_option autoImplicit false

/-! When a truncated conversation keeps each tool call together with its results. -/
namespace AIRuntime.ToolCallUnits

open Failures GenerationContracts ListPositions ContextBudget ContextTruncation ToolResultLinks

section Conversations

/-- Call ids are distinct, and each result names an earlier call. -/
structure Paired (messages : List Message) : Prop where
  ids : ((callsOf messages).map (·.id)).Nodup
  answers : ∀ before result after, messages = before ++ result :: after → result.role = .tool →
    ∃ call ∈ callsOf before, result.tool_call_id = some call.id

def Declares (m result : Message) : Prop := ∃ call ∈ m.tool_calls, result.tool_call_id = some call.id

/-- Of a call and its result, both are kept or neither is. -/
def KeepsPairs (messages kept : List Message) : Prop :=
  ∀ m ∈ messages, ∀ result ∈ messages, result.role = .tool → Declares m result → (result ∈ kept ↔ m ∈ kept)

/-- Between a call and its results stand system messages and results only. -/
def InStep (messages : List Message) : Prop :=
  ∀ before m between result after, messages = before ++ m :: (between ++ result :: after) → result.role = .tool →
    Declares m result → ∀ x ∈ between, x.role = .system ∨ x.role = .tool

variable {messages : List Message}

theorem Declares.assistant {m result : Message} (h : Declares m result) : m.role = .assistant := by
  obtain ⟨call, hcall, _⟩ := h
  exact caller_is_assistant (List.ne_nil_of_mem hcall)

theorem Paired.declarer_unique (h : Paired messages) {a b : ℕ} {m m' result : Message} (ha : messages[a]? = some m)
    (hb : messages[b]? = some m') (hm : Declares m result) (hm' : Declares m' result) : a = b := by
  obtain ⟨call, hcall, hid⟩ := hm
  obtain ⟨call', hcall', hid'⟩ := hm'
  have hsame : call.id = call'.id := Option.some.inj (hid.symm.trans hid')
  have hpairwise : messages.Pairwise fun m m' => List.Disjoint (m.tool_calls.map (·.id)) (m'.tool_calls.map (·.id)) := by
    have hids := h.ids
    unfold callsOf at hids
    rw [List.map_flatMap] at hids
    exact (List.nodup_flatMap.mp hids).2
  obtain ⟨hlta, hgeta⟩ := List.getElem?_eq_some_iff.mp ha
  obtain ⟨hltb, hgetb⟩ := List.getElem?_eq_some_iff.mp hb
  have hin : call.id ∈ m.tool_calls.map (·.id) := List.mem_map_of_mem hcall
  have hin' : call.id ∈ m'.tool_calls.map (·.id) := hsame ▸ List.mem_map_of_mem hcall'
  rcases lt_trichotomy a b with hlt | heq | hlt
  · have hdisjoint := List.pairwise_iff_getElem.mp hpairwise a b hlta hltb hlt
    rw [hgeta, hgetb] at hdisjoint
    exact absurd hin' (hdisjoint hin)
  · exact heq
  · have hdisjoint := List.pairwise_iff_getElem.mp hpairwise b a hltb hlta hlt
    rw [hgeta, hgetb] at hdisjoint
    exact absurd hin (hdisjoint hin')

theorem Paired.split (h : Paired messages) {m result : Message} {i : ℕ} (hm : m ∈ messages)
    (hi : messages[i]? = some result) (hrole : result.role = .tool) (hdeclares : Declares m result) :
    ∃ before between after, messages = before ++ m :: (between ++ result :: after) ∧
      i = before.length + (between.length + 1) := by
  obtain ⟨hlt, hget⟩ := List.getElem?_eq_some_iff.mp hi
  have hsplit : messages = messages.take i ++ result :: messages.drop (i + 1) := by
    rw [← hget, List.getElem_cons_drop, List.take_append_drop]
  obtain ⟨call, hcall, hid⟩ := h.answers _ _ _ hsplit hrole
  obtain ⟨m', hm', hcall'⟩ := List.mem_flatMap.mp hcall
  obtain ⟨before, between, hbefore⟩ := List.append_of_mem hm'
  have hheld : messages = before ++ m' :: (between ++ result :: messages.drop (i + 1)) := by
    calc messages
      _ = messages.take i ++ result :: messages.drop (i + 1) := hsplit
      _ = (before ++ m' :: between) ++ result :: messages.drop (i + 1) := by rw [← hbefore]
      _ = _ := by simp
  have hlength : (messages.take i).length = i := List.length_take_of_le hlt.le
  rw [hbefore, List.length_append, List.length_cons] at hlength
  obtain ⟨a, ha⟩ := List.getElem?_of_mem hm
  have hb : messages[before.length]? = some m' := by
    rw [hheld]
    simp
  have hab := h.declarer_unique ha hb hdeclares ⟨call, hcall', hid⟩
  rw [hab, hb] at ha
  cases ha
  exact ⟨before, between, messages.drop (i + 1), hheld, hlength.symm⟩

end Conversations

section Units

variable {messages : List Message}

theorem groupUnits_append (before after : List Message) :
    groupUnits (before ++ after) =
      groupFrom (before ++ after) (after.zipIdx before.length) (groupFrom (before ++ after) before.zipIdx []) := by
  unfold groupUnits groupFrom
  rw [List.zipIdx_append, List.foldl_append, Nat.zero_add]

theorem addToUnits_append (units : List (List ℕ)) {more : List (List ℕ)} (hmore : more ≠ []) (message : Message)
    (index : ℕ) : addToUnits messages (units ++ more) message index =
      units ++ addToUnits messages more message index := by
  unfold addToUnits
  rw [List.getLast?_append_of_ne_nil units hmore, List.dropLast_append_of_ne_nil hmore]
  split_ifs
  · rfl
  · cases more.getLast? with
    | none => simp
    | some unit =>
      simp only
      split_ifs <;> simp

theorem addToUnits_ne_nil {units : List (List ℕ)} (h : units ≠ []) (message : Message) (index : ℕ) :
    addToUnits messages units message index ≠ [] := by
  unfold addToUnits
  split_ifs
  · exact h
  · cases units.getLast? with
    | none => simp
    | some unit =>
      simp only
      split_ifs <;> simp

theorem groupFrom_append (ps : List (Message × ℕ)) (units : List (List ℕ)) {more : List (List ℕ)} (hmore : more ≠ []) :
    groupFrom messages ps (units ++ more) = units ++ groupFrom messages ps more ∧ groupFrom messages ps more ≠ [] := by
  induction ps generalizing more with
  | nil => exact ⟨rfl, hmore⟩
  | cons p ps ih =>
    obtain ⟨heq, hne⟩ := ih (addToUnits_ne_nil hmore p.1 p.2)
    refine ⟨?_, hne⟩
    change groupFrom messages ps (addToUnits messages (units ++ more) p.1 p.2) = _
    rw [addToUnits_append units hmore, heq]
    rfl

/-- Neither a system message nor a result: it opens a unit. -/
def OpensUnit (m : Message) : Prop := m.role ≠ .system ∧ m.role ≠ .tool

theorem addToUnits_opens {m : Message} (h : OpensUnit m) (units : List (List ℕ)) (index : ℕ) :
    addToUnits messages units m index = units ++ [[index]] := by
  unfold addToUnits
  rw [if_neg h.1]
  cases units.getLast? with
  | none => rfl
  | some unit => simp [h.2]

/-- The units before a message that opens one, and those from it on. -/
theorem groupUnits_opened {before after : List Message} {m : Message} (h : OpensUnit m) :
    ∃ units later, groupUnits (before ++ m :: after) = units ++ later ∧ later ≠ [] ∧
      units.flatten = (before.zipIdx.filter fun p => p.1.role ≠ .system).map Prod.snd ∧
      later = groupFrom (before ++ m :: after) (after.zipIdx (before.length + 1)) [[before.length]] := by
  obtain ⟨happend, hne⟩ := @groupFrom_append (before ++ m :: after) (after.zipIdx (before.length + 1))
    (groupFrom (before ++ m :: after) before.zipIdx []) [[before.length]] (List.cons_ne_nil _ _)
  refine ⟨groupFrom (before ++ m :: after) before.zipIdx [], _, ?_, hne, groupFrom_flatten _ _ _, rfl⟩
  rw [← happend, groupUnits_append, List.zipIdx_cons, ← addToUnits_opens h]
  rfl

/-- Truncation may cut a conversation before any message that opens a unit. -/
theorem firstUnits_cut {before after : List Message} {m : Message} (h : OpensUnit m) :
    ∃ j < (groupUnits (before ++ m :: after)).length,
      ∀ i, i ∈ firstUnits (before ++ m :: after) j ↔ ∃ x, before[i]? = some x ∧ x.role ≠ .system := by
  obtain ⟨units, later, hunits, hne, hflatten, _⟩ := @groupUnits_opened before after m h
  have hlater := List.length_pos_of_ne_nil hne
  refine ⟨units.length, ?_, ?_⟩
  · rw [hunits, List.length_append]
    omega
  · intro i
    unfold firstUnits
    rw [hunits, List.take_left, hflatten]
    exact mem_positions

theorem unit_dropped_whole {unit : List ℕ} (hunit : unit ∈ groupUnits messages) {a i : ℕ} (ha : a ∈ unit)
    (hi : i ∈ unit) {j : ℕ} (h : a ∈ firstUnits messages j) : i ∈ firstUnits messages j := by
  obtain ⟨other, hother, haother⟩ := List.mem_flatten.mp h
  have hdisjoint : (groupUnits messages).Pairwise List.Disjoint := by
    have hnodup := positions_nodup messages
    rw [← (groupUnits_partition messages).1] at hnodup
    exact (List.nodup_flatten.mp hnodup).2
  have : Std.Symm (@List.Disjoint ℕ) := ⟨fun _ _ h _ hx hy => h hy hx⟩
  have hsame : other = unit := by
    by_contra hne
    exact hdisjoint.forall (List.mem_of_mem_take hother) hunit hne haother ha
  rw [← hsame] at hi
  exact List.mem_flatten.mpr ⟨other, hother, hi⟩

theorem addToUnits_joins {m result : Message} {a : ℕ} (ha : messages[a]? = some m) (hcalls : m.tool_calls ≠ [])
    (hrole : result.role = .tool) (unit : List ℕ) (index : ℕ) :
    addToUnits messages [a :: unit] result index = [a :: (unit ++ [index])] := by
  simp [addToUnits, hrole, opensCalls, ha, hcalls]

/-- A unit that a call opened takes in the results that follow, past system messages. -/
theorem groupFrom_step {m : Message} {a n : ℕ} (ha : messages[a]? = some m) (hcalls : m.tool_calls ≠ [])
    {between : List Message} (h : ∀ x ∈ between, x.role = .system ∨ x.role = .tool) (unit : List ℕ) :
    ∃ unit', groupFrom messages (between.zipIdx n) [a :: unit] = [a :: unit'] := by
  induction between generalizing n unit with
  | nil => exact ⟨unit, rfl⟩
  | cons x rest ih =>
    have hrest := fun y hy => h y (List.mem_cons_of_mem x hy)
    rw [List.zipIdx_cons]
    change ∃ unit', groupFrom messages (rest.zipIdx (n + 1)) (addToUnits messages [a :: unit] x n) = _
    rcases h x List.mem_cons_self with hrole | hrole
    · have hstep : addToUnits messages [a :: unit] x n = [a :: unit] := if_pos hrole
      rw [hstep]
      exact ih hrest unit
    · rw [addToUnits_joins ha hcalls hrole]
      exact ih hrest (unit ++ [n])

theorem groupFrom_grows (ps : List (Message × ℕ)) {units : List (List ℕ)} {unit : List ℕ} (h : unit ∈ units) :
    ∃ unit' ∈ groupFrom messages ps units, unit ⊆ unit' := by
  induction ps generalizing units unit with
  | nil => exact ⟨unit, h, List.Subset.refl unit⟩
  | cons p ps ih =>
    have hstep : ∃ unit' ∈ addToUnits messages units p.1 p.2, unit ⊆ unit' := by
      unfold addToUnits
      split_ifs
      · exact ⟨unit, h, List.Subset.refl unit⟩
      · cases hlast : units.getLast? with
        | none => exact ⟨unit, List.mem_append_left _ h, List.Subset.refl unit⟩
        | some last =>
          simp only
          split_ifs
          · rw [← List.dropLast_append_getLast? last hlast] at h
            rcases List.mem_append.mp h with h | h
            · exact ⟨unit, List.mem_append_left _ h, List.Subset.refl unit⟩
            · rw [List.mem_singleton.mp h]
              exact ⟨last ++ [p.2], List.mem_append_right _ List.mem_cons_self, List.subset_append_left _ _⟩
          · exact ⟨unit, List.mem_append_left _ h, List.Subset.refl unit⟩
    obtain ⟨unit', hunit', hsub⟩ := hstep
    obtain ⟨unit'', hunit'', hsub'⟩ := ih hunit'
    exact ⟨unit'', hunit'', List.Subset.trans hsub hsub'⟩

/-- A call and a result of it share a unit when only system messages and results stand between them. -/
theorem same_unit {before between after : List Message} {m result : Message} (hdeclares : Declares m result)
    (hrole : result.role = .tool) (h : ∀ x ∈ between, x.role = .system ∨ x.role = .tool) :
    ∃ unit ∈ groupUnits (before ++ m :: (between ++ result :: after)), before.length ∈ unit ∧
      before.length + (between.length + 1) ∈ unit := by
  have hassistant := hdeclares.assistant
  obtain ⟨call, hcall, _⟩ := hdeclares
  have hopens : OpensUnit m := by
    constructor <;> rw [hassistant] <;> decide
  obtain ⟨units, later, hunits, _, _, hlater⟩ := @groupUnits_opened before (between ++ result :: after) m hopens
  have hcalls := List.ne_nil_of_mem hcall
  have hget : (before ++ m :: (between ++ result :: after))[before.length]? = some m := by simp
  obtain ⟨unit, hunit⟩ := @groupFrom_step _ _ _ (before.length + 1) hget hcalls between h []
  have hjoined : later = groupFrom (before ++ m :: (between ++ result :: after))
      (after.zipIdx (before.length + (between.length + 1) + 1))
      [before.length :: (unit ++ [before.length + (between.length + 1)])] := by
    rw [hlater, List.zipIdx_append, List.zipIdx_cons, ← addToUnits_joins hget hcalls hrole, ← hunit]
    unfold groupFrom
    rw [List.foldl_append, List.foldl_cons, show before.length + 1 + between.length =
      before.length + (between.length + 1) by omega]
  obtain ⟨unit', hunit', hsub⟩ := @groupFrom_grows (before ++ m :: (between ++ result :: after))
    (after.zipIdx (before.length + (between.length + 1) + 1)) _ _ (List.mem_singleton.mpr rfl)
  rw [← hjoined] at hunit'
  refine ⟨unit', ?_, hsub List.mem_cons_self, hsub ?_⟩
  · rw [hunits]
    exact List.mem_append_right _ hunit'
  · simp

end Units

section Pairs

variable {messages : List Message}

/-- A conversation in step loses no half of a pair, however many units go. -/
theorem inStep_keepsPairs (h : Paired messages) (hstep : InStep messages) (j : ℕ) :
    KeepsPairs messages (keptAfter messages j) := by
  intro m hm result hresult hrole hdeclares
  have hshare : ∀ i, messages[i]? = some result → ∃ a, messages[a]? = some m ∧ ∃ unit ∈ groupUnits messages,
      a ∈ unit ∧ i ∈ unit := by
    intro i hi
    obtain ⟨before, between, after, hsplit, rfl⟩ := h.split hm hi hrole hdeclares
    refine ⟨before.length, ?_, ?_⟩
    · rw [hsplit]
      simp
    · have hunit := @same_unit before between after m result hdeclares hrole
        (hstep before m between result after hsplit hrole hdeclares)
      rwa [← hsplit] at hunit
  constructor
  · intro hkept
    obtain ⟨i, hi, hstays⟩ := mem_without.mp hkept
    obtain ⟨a, ha, unit, hunit, haunit, hiunit⟩ := hshare i hi
    exact mem_without.mpr ⟨a, ha, fun hdropped => hstays (unit_dropped_whole hunit haunit hiunit hdropped)⟩
  · intro hkept
    obtain ⟨a, ha, hstays⟩ := mem_without.mp hkept
    obtain ⟨i, hi⟩ := List.getElem?_of_mem hresult
    obtain ⟨a', ha', unit, hunit, haunit, hiunit⟩ := hshare i hi
    obtain rfl := h.declarer_unique ha ha' hdeclares hdeclares
    exact mem_without.mpr ⟨i, hi, fun hdropped => hstays (unit_dropped_whole hunit hiunit haunit hdropped)⟩

theorem costAfter_lt {counter : TokenCounter} (hcharges : Charges counter) (tools : List ToolDefinition) {i j : ℕ}
    (hij : i < j) (hj : j ≤ (groupUnits messages).length) :
    costAfter counter tools messages j < costAfter counter tools messages i := by
  have hsplit : firstUnits messages j =
      firstUnits messages i ++ (((groupUnits messages).take j).drop i).flatten := by
    unfold firstUnits
    rw [← List.flatten_append]
    congr 1
    conv_lhs => rw [← List.take_append_drop i ((groupUnits messages).take j)]
    rw [List.take_take, min_eq_left hij.le]
  have hmore : 0 < costAt (messages.map counter.countMessage) (((groupUnits messages).take j).drop i).flatten := by
    unfold costAt
    apply List.sum_pos
    · intro x hx
      obtain ⟨p, hp, rfl⟩ := List.mem_map.mp hx
      have hdropped : p ∈ firstUnits messages j := by
        rw [hsplit]
        exact List.mem_append_right _ hp
      obtain ⟨m, hget, _⟩ := (firstUnits_droppable messages j).2 p hdropped
      simpa [hget] using hcharges.message m
    · obtain ⟨unit, rest, hunits⟩ : ∃ unit rest, ((groupUnits messages).take j).drop i = unit :: rest := by
        apply List.exists_cons_of_length_pos
        rw [List.length_drop, List.length_take]
        omega
      have hunit : unit ∈ groupUnits messages := by
        apply List.mem_of_mem_take
        apply List.mem_of_mem_drop
        rw [hunits]
        exact List.mem_cons_self
      have hne : unit ≠ [] := fun hnil => (groupUnits_partition messages).2 (hnil ▸ hunit)
      rw [hunits]
      simp [hne]
  rw [costAfter_eq, costAfter_eq, hsplit, costAt_append]
  omega

def windowless (counter : TokenCounter) : BuildContext := ⟨counter, false, fun _ => none, fun _ => []⟩

/-- A conversation out of step loses a call and keeps its result at some budget. -/
theorem outOfStep_severs {counter : TokenCounter} (hcharges : Charges counter) (h : Paired messages)
    (hstep : ¬InStep messages) : ∃ policy kept, policy.truncate = true ∧
      (windowless counter).execute "" messages [] none policy = .ok kept ∧ ¬KeepsPairs messages kept := by
  unfold InStep at hstep
  push Not at hstep
  obtain ⟨before, m, between, result, after, hsplit, hrole, hdeclares, x, hx, hsystem, htool⟩ := hstep
  obtain ⟨pre, post, hbetween⟩ := List.append_of_mem hx
  have hcut : messages = (before ++ m :: pre) ++ x :: (post ++ result :: after) := by
    rw [hsplit, hbetween]
    simp
  obtain ⟨j, hj, hfirst⟩ := @firstUnits_cut (before ++ m :: pre) (post ++ result :: after) x ⟨hsystem, htool⟩
  rw [← hcut] at hj hfirst
  have hm : messages[before.length]? = some m := by
    rw [hsplit]
    simp
  have hresult : messages[before.length + (between.length + 1)]? = some result := by
    rw [hsplit]
    simp
  have hlost : m ∉ keptAfter messages j := by
    intro hkept
    obtain ⟨a, ha, hstays⟩ := mem_without.mp hkept
    obtain rfl := h.declarer_unique hm ha hdeclares hdeclares
    apply hstays
    rw [hfirst]
    refine ⟨m, by simp, ?_⟩
    rw [hdeclares.assistant]
    decide
  have hleft : result ∈ keptAfter messages j := by
    apply mem_without.mpr
    refine ⟨_, hresult, ?_⟩
    rw [hfirst]
    intro hin
    obtain ⟨y, hy, _⟩ := hin
    have hlt := (List.getElem?_eq_some_iff.mp hy).1
    rw [hbetween] at hlt
    simp only [List.length_append, List.length_cons] at hlt
    omega
  have hpos : 0 < costAfter counter [] messages j := hcharges.pos [] (List.ne_nil_of_mem hleft)
  have hleast : IsLeast {j' | Fits counter [] messages (costAfter counter [] messages j) j'} j := by
    refine ⟨⟨by omega, le_refl _⟩, ?_⟩
    intro i hi
    by_contra hlt
    have hcost := @costAfter_lt messages counter hcharges [] i j (by omega) hj.le
    have hfits := hi.2
    omega
  have hproblem : ContextPolicy.problem (some (costAfter counter [] messages j)) = none := by
    simp [ContextPolicy.problem, hpos]
  have hbudget : (windowless counter).budget "" none ⟨some (costAfter counter [] messages j), true, hproblem⟩ =
      some (costAfter counter [] messages j) := by
    simp [BuildContext.budget, BuildContext.candidates, windowless, hpos.le]
  refine ⟨⟨some (costAfter counter [] messages j), true, hproblem⟩, keptAfter messages j, rfl, ?_, ?_⟩
  · exact (execute_ok_iff rfl hbudget _).mpr ⟨j, hleast, rfl⟩
  · intro hkeeps
    have hboth := hkeeps m (List.mem_of_getElem? hm) result (List.mem_of_getElem? hresult) hrole hdeclares
    exact hlost (hboth.mp hleft)

/-- Truncation keeps every call together with its results, at every budget, exactly for the conversations in
which each result follows its call in step. -/
theorem pairs_kept_iff_in_step (messages : List Message) (h : Paired messages) :
    (∀ (builder : BuildContext) (model : String) (tools : List ToolDefinition) (max_output_tokens : Option ℤ)
        (policy : ContextPolicy) (kept : List Message), policy.truncate = true →
        builder.execute model messages tools max_output_tokens policy = .ok kept → KeepsPairs messages kept) ↔
      InStep messages := by
  constructor
  · intro hall
    by_contra hstep
    obtain ⟨policy, kept, htruncate, hkept, hbroken⟩ := outOfStep_severs heuristic_charges h hstep
    exact hbroken (hall _ _ _ _ _ _ htruncate hkept)
  · intro hstep builder model tools max_output_tokens policy kept htruncate hkept
    cases hbudget : builder.budget model max_output_tokens policy with
    | none =>
      unfold BuildContext.execute at hkept
      rw [hbudget] at hkept
      cases hkept
      exact fun m hm result hresult _ _ => ⟨fun _ => hm, fun _ => hresult⟩
    | some budget =>
      obtain ⟨j, _, rfl⟩ := (execute_ok_iff htruncate hbudget kept).mp hkept
      exact inStep_keepsPairs h hstep j

section Samples

def warmCall : Message := ⟨.assistant, "", none, none, [weatherCall], weather_called⟩

def interjection : Message := ⟨.user, "And please answer in Portuguese.", none, none, [], by decide⟩

def warmResult : Message := ⟨.tool, "72", some "call_0_get_weather", none, [], weather_answered⟩

theorem in_step_pair_kept :
    (∀ (builder : BuildContext) (model : String) (tools : List ToolDefinition) (max_output_tokens : Option ℤ)
        (policy : ContextPolicy) (kept : List Message), policy.truncate = true →
        builder.execute model (weatherMessages none) tools max_output_tokens policy = .ok kept →
        KeepsPairs (weatherMessages none) kept) ↔ InStep (weatherMessages none) :=
  pairs_kept_iff_in_step (weatherMessages none) ⟨(weather_linked none).ids, (weather_linked none).answers⟩

/-- The user speaks between a call and its result; five tokens less, and only the call goes. -/
theorem interrupted_pair_severed :
    Paired [warmCall, interjection, warmResult] ∧
      GenerationRequest.problem "gpt-4o" [warmCall, interjection, warmResult] none none false [] false = none ∧
      (windowless heuristicTokenCounter).execute "gpt-4o" [warmCall, interjection, warmResult] [] none
        ⟨some 25, true, by decide⟩ = .ok [interjection, warmResult] ∧
      ¬KeepsPairs [warmCall, interjection, warmResult] [interjection, warmResult] := by
  refine ⟨⟨by decide, ?_⟩, rfl, by decide +kernel, ?_⟩
  · intro before result after hsplit htool
    rcases before with _ | ⟨a, _ | ⟨b, _ | ⟨c, d⟩⟩⟩
    · cases hsplit
      cases htool
    · cases hsplit
      cases htool
    · cases hsplit
      exact ⟨weatherCall, by simp [callsOf, warmCall], rfl⟩
    · simp at hsplit
  · intro hkeeps
    have hboth := hkeeps warmCall (by simp) warmResult (by simp) rfl ⟨weatherCall, by simp [warmCall], rfl⟩
    have hcall : warmCall ∈ [interjection, warmResult] := hboth.mp (by simp)
    revert hcall
    decide

end Samples

end Pairs

end AIRuntime.ToolCallUnits
