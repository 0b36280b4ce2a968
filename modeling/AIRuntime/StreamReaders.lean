import Mathlib.Data.List.Basic

set_option autoImplicit false

/-!
Loops that read events one by one, hand some values on and may stop or fail at an event. A judgement says of
each event, by the events before it, whether the loop refuses it, breaks at it or passes it.
-/
namespace AIRuntime.StreamReaders

variable {S E D X : Type}

inductive Flow (S X : Type) where
  | next (s : S)
  | stop (s : S)
  | fail (err : X)

/-- What an event does: a value is handed on before the loop goes on. -/
structure Reading (S D X : Type) where
  handed : Option D
  flow : Flow S X

/-- The loop from a state, over events that end normally or with an error. -/
def run (read : S → E → Reading S D X) (ending : Except X Unit) : S → List E → List D × Except X S
  | s, [] => ([], ending.map fun _ => s)
  | s, e :: rest =>
    match (read s e).flow with
    | .next s' => ((read s e).handed.toList ++ (run read ending s' rest).1, (run read ending s' rest).2)
    | .stop s' => ((read s e).handed.toList, .ok s')
    | .fail err => ((read s e).handed.toList, .error err)

section Rules

variable {read : S → E → Reading S D X} {ending : Except X Unit} {s s' : S} {e : E} {rest : List E}

theorem run_next (h : (read s e).flow = .next s') :
    run read ending s (e :: rest) =
      ((read s e).handed.toList ++ (run read ending s' rest).1, (run read ending s' rest).2) := by
  rw [run, h]

theorem run_stop (h : (read s e).flow = .stop s') :
    run read ending s (e :: rest) = ((read s e).handed.toList, .ok s') := by
  rw [run, h]

theorem run_fail {err : X} (h : (read s e).flow = .fail err) :
    run read ending s (e :: rest) = ((read s e).handed.toList, .error err) := by
  rw [run, h]

/-- What a loop fails with comes from its ending or from reading an event. -/
theorem run_error {P : X → Prop} (hread : ∀ s e err, (read s e).flow = .fail err → P err)
    (hending : ∀ err, ending = .error err → P err) (s : S) (events : List E) {err : X}
    (h : (run read ending s events).2 = .error err) : P err := by
  induction events generalizing s with
  | nil =>
    cases hlast : ending with
    | ok u =>
      rw [run, hlast] at h
      cases h
    | error failure =>
      rw [run, hlast] at h
      cases h
      exact hending _ hlast
  | cons e rest ih =>
    cases hflow : (read s e).flow with
    | next s' =>
      rw [run_next hflow] at h
      exact ih s' h
    | stop s' =>
      rw [run_stop hflow] at h
      cases h
    | fail failure =>
      rw [run_fail hflow] at h
      cases h
      exact hread s e _ hflow

/-- What each event carries on, the loop carries to its end: `I ds s` holds of what is handed on and the state. -/
theorem run_carries {I : List D → S → Prop}
    (hread : ∀ ds s e s', I ds s → (read s e).flow = .next s' ∨ (read s e).flow = .stop s' →
      I (ds ++ (read s e).handed.toList) s')
    {ds : List D} (h : I ds s) (events : List E) {last : S} (hlast : (run read ending s events).2 = .ok last) :
    I (ds ++ (run read ending s events).1) last := by
  induction events generalizing ds s with
  | nil =>
    cases ending with
    | error err => cases hlast
    | ok u =>
      cases hlast
      rw [run, List.append_nil]
      exact h
  | cons e rest ih =>
    cases hflow : (read s e).flow with
    | next s' =>
      rw [run_next hflow] at hlast ⊢
      have hnext := ih (hread ds s e s' h (.inl hflow)) hlast
      rw [List.append_assoc] at hnext
      exact hnext
    | stop s' =>
      rw [run_stop hflow] at hlast ⊢
      cases hlast
      exact hread ds s e _ h (.inr hflow)
    | fail err =>
      rw [run_fail hflow] at hlast
      cases hlast

end Rules

section Judgements

/-- What a loop makes of an event, by the events it has passed. `breaks` is asked only of what is not refused. -/
structure Judgement (E : Type) where
  stops : E → Bool
  refuses : List E → E → Prop
  breaks : List E → E → Prop

/-- The events up to the one at which the loop stops. -/
def Judgement.heard (judgement : Judgement E) (events : List E) : List E :=
  events.takeWhile fun e => !judgement.stops e

def Judgement.Passes (judgement : Judgement E) : List E → List E → Prop
  | _, [] => True
  | before, e :: rest =>
    ¬ judgement.refuses before e ∧ ¬ judgement.breaks before e ∧ judgement.Passes (before ++ [e]) rest

def Judgement.Refuses (judgement : Judgement E) (before events : List E) : Prop :=
  ∃ passed e rest, events = passed ++ e :: rest ∧ judgement.Passes before passed ∧
    judgement.refuses (before ++ passed) e

theorem Judgement.Refuses.not_passes {judgement : Judgement E} {before events : List E}
    (h : judgement.Refuses before events) : ¬ judgement.Passes before events := by
  obtain ⟨passed, e, rest, rfl, -, hrefuses⟩ := h
  induction passed generalizing before with
  | nil =>
    rw [List.append_nil] at hrefuses
    exact fun hpasses => hpasses.1 hrefuses
  | cons first passed ih =>
    rw [List.append_cons] at hrefuses
    exact fun hpasses => ih hrefuses hpasses.2.2

/-- The loop acts as judged; `Knows before s` says that `s` is what the events `before` give, `bad` which errors
the loop must not end with. -/
structure Judges (judgement : Judgement E) (read : S → E → Reading S D X) (Knows : List E → S → Prop)
    (bad : X → Prop) : Prop where
  stopped : ∀ before s e, Knows before s → judgement.stops e = true → (read s e).flow = .stop s
  refused : ∀ before s e, Knows before s → judgement.stops e = false → judgement.refuses before e →
    ∃ err, (read s e).flow = .fail err ∧ ¬ bad err
  broken : ∀ before s e, Knows before s → judgement.stops e = false → ¬ judgement.refuses before e →
    judgement.breaks before e → ∃ err, (read s e).flow = .fail err ∧ bad err
  passed : ∀ before s e, Knows before s → judgement.stops e = false → ¬ judgement.refuses before e →
    ¬ judgement.breaks before e → ∃ s', (read s e).flow = .next s' ∧ Knows (before ++ [e]) s'

variable {judgement : Judgement E} {read : S → E → Reading S D X} {Knows : List E → S → Prop} {bad : X → Prop}
  {before : List E} {s : S} {e : E}

theorem heard_cons_stop (h : judgement.stops e = true) (rest : List E) : judgement.heard (e :: rest) = [] := by
  unfold Judgement.heard
  rw [List.takeWhile_cons, h]
  rfl

theorem heard_cons (h : judgement.stops e = false) (rest : List E) :
    judgement.heard (e :: rest) = e :: judgement.heard rest := by
  unfold Judgement.heard
  rw [List.takeWhile_cons, h]
  rfl

theorem not_refuses_nil : ¬ judgement.Refuses before [] := by
  rintro ⟨passed, e, rest, h, -⟩
  cases passed <;> cases h

theorem refuses_cons {rest : List E} : judgement.Refuses before (e :: rest) ↔
    judgement.refuses before e ∨
      ¬ judgement.refuses before e ∧ ¬ judgement.breaks before e ∧ judgement.Refuses (before ++ [e]) rest := by
  constructor
  · rintro ⟨passed, x, after, heq, hpasses, hrefuses⟩
    cases passed with
    | nil =>
      rw [List.nil_append] at heq
      cases heq
      rw [List.append_nil] at hrefuses
      exact .inl hrefuses
    | cons first passed =>
      rw [List.cons_append] at heq
      cases heq
      obtain ⟨hkept, hwhole, hlater⟩ := hpasses
      refine .inr ⟨hkept, hwhole, passed, x, after, rfl, hlater, ?_⟩
      rw [List.append_assoc]
      exact hrefuses
  · rintro (h | ⟨hkept, hwhole, passed, x, after, rfl, hpasses, hrefuses⟩)
    · exact ⟨[], e, rest, rfl, trivial, by rwa [List.append_nil]⟩
    · refine ⟨e :: passed, x, after, rfl, ⟨hkept, hwhole, hpasses⟩, ?_⟩
      rw [List.append_assoc] at hrefuses
      exact hrefuses

/-- How the loop ends: it refuses an event, or breaks at one, or hears all and goes on as the events end. -/
inductive Ends (judgement : Judgement E) (Knows : List E → S → Prop) (bad : X → Prop) (ending : Except X Unit)
    (before events : List E) : Except X S → Prop where
  | refused {err : X} (h : judgement.Refuses before (judgement.heard events)) (herr : ¬ bad err) :
    Ends judgement Knows bad ending before events (.error err)
  | broken {err : X} (h : ¬ judgement.Refuses before (judgement.heard events))
    (hsome : ¬ judgement.Passes before (judgement.heard events)) (herr : bad err) :
    Ends judgement Knows bad ending before events (.error err)
  | failed {err : X} (h : ¬ judgement.Refuses before (judgement.heard events))
    (hpasses : judgement.Passes before (judgement.heard events)) (hnone : ∀ e ∈ events, judgement.stops e = false)
    (hending : ending = .error err) : Ends judgement Knows bad ending before events (.error err)
  | heard {s : S} (h : ¬ judgement.Refuses before (judgement.heard events))
    (hpasses : judgement.Passes before (judgement.heard events))
    (hending : ending = .ok () ∨ ∃ e ∈ events, judgement.stops e = true)
    (hknows : Knows (before ++ judgement.heard events) s) : Ends judgement Knows bad ending before events (.ok s)

theorem Ends.stopped {ending : Except X Unit} {e : E} {events : List E} (hstops : judgement.stops e = true)
    (hknows : Knows before s) : Ends judgement Knows bad ending before (e :: events) (.ok s) := by
  have hheard := heard_cons_stop hstops events
  apply Ends.heard
  · rw [hheard]
    exact not_refuses_nil
  · rw [hheard]
    exact trivial
  · exact .inr ⟨e, List.mem_cons_self, hstops⟩
  · rwa [hheard, List.append_nil]

/-- An event that is neither refused nor breaks the loop leaves the end to the events after it. -/
theorem Ends.cons {ending : Except X Unit} {e : E} {events : List E} {result : Except X S}
    (hstops : judgement.stops e = false) (hkept : ¬ judgement.refuses before e) (hwhole : ¬ judgement.breaks before e)
    (h : Ends judgement Knows bad ending (before ++ [e]) events result) :
    Ends judgement Knows bad ending before (e :: events) result := by
  have hheard := heard_cons hstops events
  have hrefuses : judgement.Refuses before (judgement.heard (e :: events)) ↔
      judgement.Refuses (before ++ [e]) (judgement.heard events) := by
    rw [hheard, refuses_cons]
    exact ⟨fun hcases => (hcases.resolve_left hkept).2.2, fun hlater => .inr ⟨hkept, hwhole, hlater⟩⟩
  have hpasses : judgement.Passes before (judgement.heard (e :: events)) ↔
      judgement.Passes (before ++ [e]) (judgement.heard events) := by
    rw [hheard]
    exact ⟨fun hall => hall.2.2, fun hlater => ⟨hkept, hwhole, hlater⟩⟩
  cases h with
  | refused hlater herr => exact .refused (hrefuses.mpr hlater) herr
  | broken hlater hsome herr => exact .broken (mt hrefuses.mp hlater) (mt hpasses.mp hsome) herr
  | failed hlater hall hnone hending =>
    exact .failed (mt hrefuses.mp hlater) (hpasses.mpr hall) (List.forall_mem_cons.mpr ⟨hstops, hnone⟩) hending
  | heard hlater hall hending hknown =>
    refine .heard (mt hrefuses.mp hlater) (hpasses.mpr hall) ?_ ?_
    · exact hending.imp_right fun ⟨x, hx, hxs⟩ => ⟨x, List.mem_cons_of_mem _ hx, hxs⟩
    · rw [hheard, List.append_cons]
      exact hknown

theorem run_ends (h : Judges judgement read Knows bad) (ending : Except X Unit) (hknows : Knows before s)
    (events : List E) : Ends judgement Knows bad ending before events (run read ending s events).2 := by
  induction events generalizing before s with
  | nil =>
    cases ending with
    | error err => exact .failed not_refuses_nil trivial (fun _ he => absurd he List.not_mem_nil) rfl
    | ok _ => exact .heard not_refuses_nil trivial (.inl rfl) (by rwa [Judgement.heard, List.takeWhile_nil,
        List.append_nil])
  | cons e rest ih =>
    cases hstops : judgement.stops e with
    | true =>
      rw [run_stop (h.stopped before s e hknows hstops)]
      exact .stopped hstops hknows
    | false =>
      have hheard := heard_cons hstops rest
      by_cases hrefuses : judgement.refuses before e
      · obtain ⟨err, hflow, herr⟩ := h.refused before s e hknows hstops hrefuses
        rw [run_fail hflow]
        apply Ends.refused _ herr
        rw [hheard, refuses_cons]
        exact .inl hrefuses
      · by_cases hbreaks : judgement.breaks before e
        · obtain ⟨err, hflow, herr⟩ := h.broken before s e hknows hstops hrefuses hbreaks
          rw [run_fail hflow]
          apply Ends.broken _ _ herr
          · rw [hheard, refuses_cons]
            rintro (hfirst | ⟨-, hwhole, -⟩)
            · exact hrefuses hfirst
            · exact hwhole hbreaks
          · rw [hheard]
            exact fun hpasses => hpasses.2.1 hbreaks
        · obtain ⟨s', hflow, hnext⟩ := h.passed before s e hknows hstops hrefuses hbreaks
          rw [run_next hflow]
          exact (ih hnext).cons hstops hrefuses hbreaks

end Judgements

end AIRuntime.StreamReaders
