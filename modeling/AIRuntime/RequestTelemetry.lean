import AIRuntime.RequestContext

set_option autoImplicit false

/-!
How often the middleware reports a request as completed, over every run of every application: once,
when a last body message is delivered or an `Exception` ends the call, and otherwise never.
-/
namespace AIRuntime.RequestTelemetry

open EffectPrograms Prog RequestContext

section Traces

variable {C : Type} {R : C → Type}

abbrev Observation (C : Type) (R : C → Type) := Obs (Command C) (Response R) Empty

abbrev AppObservation (C : Type) (R : C → Type) := Obs (AppCommand C) (AppResponse R) Empty

/-- What is told of a message that was sent: a status, a body and whether it is the last, or neither; and
whether it was delivered. -/
inductive Sent where
  | start (status : ℤ) (delivered : Bool)
  | body (last : Bool) (delivered : Bool)
  | other
deriving DecidableEq

def sentOf (message : Message) (answer : Except Raised Unit) : Sent :=
  match message with
  | .responseStart status _ => .start status answer.toBool
  | .responseBody _ more_body => .body (!more_body.getD false) answer.toBool
  | .other _ => .other

def appSends (t : List (AppObservation C R)) : List Sent :=
  t.filterMap fun
    | .asked (.send message) answer => some (sentOf message answer)
    | .asked (.other _) _ => none
    | .yielded e => e.elim

def sends (t : List (Observation C R)) : List Sent :=
  t.filterMap fun
    | .asked (.app (.send message)) answer => some (sentOf message answer)
    | _ => none

def startedIds (t : List (Observation C R)) : List String :=
  t.filterMap fun
    | .asked (.requestStarted record) _ => some record.request_id
    | _ => none

def completions (t : List (Observation C R)) : List CompletedRecord :=
  t.filterMap fun
    | .asked (.requestCompleted record) _ => some record
    | _ => none

/-- The labels of the increments of `http_requests_total`. -/
def requestCounts (t : List (Observation C R)) : List (List (String × String)) :=
  t.filterMap fun
    | .asked (.increment name labels) _ => if name = "http_requests_total" then some labels else none
    | _ => none

end Traces

section Statement

def starts (sent : List Sent) : List ℤ :=
  sent.filterMap fun
    | .start status _ => some status
    | _ => none

/-- One completion was logged and one request counted, both with the status of a start message, or with 500 when
there is none. -/
def CompletedOnce {C : Type} {R : C → Type} (scope : Scope) (request_id : String)
    (t : List (Observation C R)) : Prop :=
  ∃ status duration, completions t = [⟨startedRecord scope request_id, status, duration⟩] ∧
    requestCounts t = [[("method", scope.method), ("path", scope.path), ("status", toString status)]] ∧
    (status ∈ starts (sends t) ∨ starts (sends t) = [] ∧ status = 500)

def isDelivered : Sent → Bool
  | .body true true => true
  | _ => false

def early (sent : List Sent) : List Sent := sent.takeWhile fun s => !isDelivered s

/-- A last body message is delivered or an `Exception` ends the call; and no start message comes only after that. -/
def Completes (sent : List Sent) (ended : Except Raised Unit) : Prop :=
  ((∃ s ∈ sent, isDelivered s = true) ∨ ∃ err, ended = .error (.exception err)) ∧
    (starts sent ≠ [] → starts (early sent) ≠ [] ∨ 500 ∈ starts sent)

end Statement

section Runs

variable {C : Type} {R : C → Type} {scope : Scope} {request_id : String} {started_at : ℚ}

def settle (st : Locals) : Sent → Locals
  | .start status _ => { st with status_code := status }
  | .body true true => { st with completed_logged := true }
  | _ => st

def reported : Locals → List Sent → List ℤ
  | _, [] => []
  | st, s :: sent =>
    (if isDelivered s && !st.completed_logged then [st.status_code] else []) ++ reported (settle st s) sent

def countLabels (scope : Scope) (status : ℤ) : List (String × String) :=
  [("method", scope.method), ("path", scope.path), ("status", toString status)]

/-- The completions of a stretch of the run, by their statuses. -/
structure Tells (scope : Scope) (request_id : String) (t : List (Observation C R)) (statuses : List ℤ) : Prop where
  completions : List.Forall₂ (fun record status => record.toStartedRecord = startedRecord scope request_id ∧
    record.status_code = status) (completions t) statuses
  counts : requestCounts t = if scope.metrics then statuses.map (countLabels scope) else []

theorem Tells.silent {t : List (Observation C R)} (hlogged : RequestTelemetry.completions t = [])
    (hcounted : requestCounts t = []) : Tells scope request_id t [] where
  completions := by
    rw [hlogged]
    exact .nil
  counts := by
    rw [hcounted]
    split_ifs <;> rfl

theorem Tells.append {t₁ t₂ : List (Observation C R)} {a b : List ℤ} (h₁ : Tells scope request_id t₁ a)
    (h₂ : Tells scope request_id t₂ b) : Tells scope request_id (t₁ ++ t₂) (a ++ b) where
  completions := by
    rw [RequestTelemetry.completions, List.filterMap_append]
    exact List.rel_append h₁.completions h₂.completions
  counts := by
    rw [requestCounts, List.filterMap_append]
    change requestCounts t₁ ++ requestCounts t₂ = _
    rw [h₁.counts, h₂.counts]
    split_ifs
    · rw [List.map_append]
    · rfl

/-- A stretch of the run with nothing but reports, told by the statuses it reports. -/
structure Quiet (t : List (Observation C R)) : Prop where
  sends : sends t = []
  started : startedIds t = []

theorem logRequestCompleted_exec {st : Locals} {t : List (Observation C R)} {o : Except Raised Locals}
    (h : Exec (logRequestCompleted scope request_id started_at st) t o) :
    o = .ok { st with completed_logged := true } ∧ Quiet t ∧
      Tells scope request_id t (if st.completed_logged then [] else [st.status_code]) := by
  unfold logRequestCompleted at h
  cases hlogged : st.completed_logged with
  | true =>
    rw [hlogged, if_pos rfl] at h
    obtain ⟨rfl, rfl⟩ := exec_done.mp h
    refine ⟨?_, ⟨rfl, rfl⟩, Tells.silent rfl rfl⟩
    cases st
    cases hlogged
    rfl
  | false =>
    rw [hlogged, if_neg Bool.false_ne_true] at h
    obtain ⟨now, t₁, rfl, h₁⟩ := exec_call.mp h
    obtain ⟨_, t₂, rfl, h₂⟩ := exec_call.mp h₁
    cases hmetrics : scope.metrics with
    | true =>
      simp only [done_bind, hmetrics, ↓reduceIte] at h₂
      obtain ⟨_, t₃, rfl, h₃⟩ := exec_call.mp h₂
      obtain ⟨_, t₄, rfl, h₄⟩ := exec_call.mp h₃
      obtain ⟨rfl, rfl⟩ := exec_done.mp h₄
      refine ⟨rfl, ⟨rfl, rfl⟩, .cons ⟨rfl, rfl⟩ .nil, ?_⟩
      rw [hmetrics]
      rfl
    | false =>
      simp only [done_bind, hmetrics, Bool.false_eq_true, ↓reduceIte] at h₂
      obtain ⟨rfl, rfl⟩ := exec_done.mp h₂
      refine ⟨rfl, ⟨rfl, rfl⟩, .cons ⟨rfl, rfl⟩ .nil, ?_⟩
      rw [hmetrics]
      rfl

/-- A message that does not complete the request only leaves its status. -/
theorem settle_silent (st : Locals) {message : Message} {answer : Except Raised Unit}
    (h : isDelivered (sentOf message answer) = false) :
    settle st (sentOf message answer) = noteStatus st message ∧ reported st [sentOf message answer] = [] := by
  have hreported : reported st [sentOf message answer] = [] := by
    rw [reported, h]
    rfl
  refine ⟨?_, hreported⟩
  cases message with
  | responseStart status headers => rfl
  | other type => rfl
  | responseBody body more_body =>
    cases hlast : more_body.getD false <;> cases answer <;> simp only [sentOf, hlast] at h ⊢
    · rfl
    · cases h
    · rfl
    · rfl

theorem settle_last (st : Locals) {message : Message} (h : isLastBody message = true) :
    settle (noteStatus st message) (sentOf message (.ok ())) = { st with completed_logged := true } ∧
      noteStatus st message = st ∧ isDelivered (sentOf message (.ok ())) = true := by
  cases message with
  | responseStart status headers => cases h
  | other type => cases h
  | responseBody body more_body =>
    have hlast : (!more_body.getD false) = true := h
    simp only [sentOf, hlast]
    exact ⟨rfl, rfl, rfl⟩

theorem isDelivered_ok {message : Message} (h : isLastBody message = false) :
    isDelivered (sentOf message (.ok ())) = false := by
  cases message with
  | responseStart status headers => rfl
  | other type => rfl
  | responseBody body more_body =>
    have hlast : (!more_body.getD false) = false := h
    simp only [sentOf, hlast]
    rfl

theorem isDelivered_error (message : Message) (err : Raised) :
    isDelivered (sentOf message (.error err)) = false := by
  cases message with
  | responseStart status headers => rfl
  | other type => rfl
  | responseBody body more_body => cases hlast : more_body.getD false <;> simp only [sentOf, hlast] <;> rfl

theorem sends_append (t₁ t₂ : List (Observation C R)) : sends (t₁ ++ t₂) = sends t₁ ++ sends t₂ :=
  List.filterMap_append

theorem startedIds_append (t₁ t₂ : List (Observation C R)) : startedIds (t₁ ++ t₂) = startedIds t₁ ++ startedIds t₂ :=
  List.filterMap_append

theorem sends_cons (message : Message) (answer : Except Raised Unit) (t : List (Observation C R)) :
    sends (.asked (.app (.send (withRequestId request_id message))) answer :: t) =
      sentOf message answer :: sends t := by
  cases message <;> rfl

/-- What one message does: it is sent, and reported when it completes the request. -/
theorem sendWithRequestId_exec {st : Locals} {message : Message} {t : List (Observation C R)}
    {o : Except Raised (Except Raised Unit × Locals)}
    (h : Exec (sendWithRequestId scope request_id started_at st message) t o) :
    ∃ answer, o = .ok (answer, settle st (sentOf message answer)) ∧ sends t = [sentOf message answer] ∧
      startedIds t = [] ∧ Tells scope request_id t (reported st [sentOf message answer]) := by
  obtain ⟨answer, t₁, rfl, h₁⟩ := exec_call.mp h
  refine ⟨answer, ?_⟩
  -- the observation of the send itself tells of no completion
  have hsend : Tells scope request_id
      [(.asked (.app (.send (withRequestId request_id message))) answer : Observation C R)] [] :=
    Tells.silent rfl rfl
  have hsilent : isDelivered (sentOf message answer) = false → t₁ = [] → o = .ok (answer, noteStatus st message) →
      o = .ok (answer, settle st (sentOf message answer)) ∧
        sends (.asked (.app (.send (withRequestId request_id message))) answer :: t₁) = [sentOf message answer] ∧
        startedIds (.asked (.app (.send (withRequestId request_id message))) answer :: t₁) = [] ∧
        Tells scope request_id (.asked (.app (.send (withRequestId request_id message))) answer :: t₁)
          (reported st [sentOf message answer]) := by
    rintro hnot rfl rfl
    obtain ⟨hsettle, hreported⟩ := settle_silent st hnot
    rw [hsettle, hreported, sends_cons]
    exact ⟨rfl, rfl, rfl, hsend⟩
  cases answer with
  | error err =>
    obtain ⟨ht, ho⟩ := exec_done.mp h₁
    exact hsilent (isDelivered_error message err) ht ho
  | ok =>
    simp only [done_bind] at h₁
    cases hlast : isLastBody message with
    | false =>
      rw [hlast, if_neg Bool.false_ne_true] at h₁
      obtain ⟨ht, ho⟩ := exec_done.mp h₁
      exact hsilent (isDelivered_ok hlast) ht ho
    | true =>
      rw [hlast, if_pos rfl] at h₁
      obtain ⟨hsettle, hnote, hdelivered⟩ := settle_last st hlast
      rw [hnote] at hsettle h₁
      rcases exec_bind.mp h₁ with ⟨x, _, hx⟩ | ⟨st', t₂, t₃, rfl, hlog, hdone⟩
      · exact absurd (logRequestCompleted_exec hx).1 nofun
      · obtain ⟨hst, hquiet, htells⟩ := logRequestCompleted_exec hlog
        cases hst
        obtain ⟨rfl, rfl⟩ := exec_done.mp hdone
        rw [List.append_nil, sends_cons, hsettle, hquiet.sends]
        have hreported : reported st [sentOf message (.ok ())] =
            if st.completed_logged then [] else [st.status_code] := by
          rw [reported, hdelivered, reported]
          cases st.completed_logged <;> rfl
        rw [hreported]
        exact ⟨rfl, rfl, hquiet.started, hsend.append htells⟩

theorem reported_append (st : Locals) (a b : List Sent) :
    reported st (a ++ b) = reported st a ++ reported (a.foldl settle st) b := by
  induction a generalizing st with
  | nil => rfl
  | cons s a ih => rw [List.cons_append, reported, reported, ih, List.append_assoc, List.foldl_cons]

theorem runApp_exec {app : App C R} {st : Locals} {t : List (Observation C R)}
    {o : Except Raised (Except Raised Unit × Locals)}
    (h : Exec (runApp scope request_id started_at st app) t o) :
    ∃ ended ta, o = .ok (ended, (sends t).foldl settle st) ∧ Exec app ta ended ∧ appSends ta = sends t ∧
      startedIds t = [] ∧ Tells scope request_id t (reported st (sends t)) := by
  induction app generalizing st t o with
  | done a =>
    obtain ⟨rfl, rfl⟩ := exec_done.mp h
    exact ⟨_, [], rfl, .done a, rfl, rfl, Tells.silent rfl rfl⟩
  | raise x =>
    obtain ⟨rfl, rfl⟩ := exec_done.mp h
    exact ⟨_, [], rfl, .raise x, rfl, rfl, Tells.silent rfl rfl⟩
  | yield e k => exact e.elim
  | call c k ih =>
    cases c with
    | other c =>
      obtain ⟨r, t₁, rfl, h₁⟩ := exec_call.mp h
      obtain ⟨ended, ta, ho, happ, hsent, hstarted, htells⟩ := ih r h₁
      have hother : Tells scope request_id [(.asked (.app (.other c)) r : Observation C R)] [] :=
        Tells.silent rfl rfl
      exact ⟨ended, .asked (.other c) r :: ta, ho, exec_call.mpr ⟨r, ta, rfl, happ⟩, hsent, hstarted,
        hother.append htells⟩
    | send message =>
      rcases exec_bind.mp h with ⟨x, _, hx⟩ | ⟨p, t₁, t₂, rfl, hsend, hrest⟩
      · obtain ⟨answer, ho, -⟩ := sendWithRequestId_exec hx
        cases ho
      · obtain ⟨answer, hp, hsent, hstarted, htells⟩ := sendWithRequestId_exec hsend
        cases hp
        obtain ⟨ended, ta, ho, happ, hsent', hstarted', htells'⟩ := ih answer hrest
        have hsends : sends (t₁ ++ t₂) = [sentOf message answer] ++ sends t₂ := by
          rw [sends_append, hsent]
        rw [hsends, reported_append]
        refine ⟨ended, .asked (.send message) answer :: ta, ho, exec_call.mpr ⟨answer, ta, rfl, happ⟩, ?_, ?_,
          htells.append htells'⟩
        · exact congrArg (sentOf message answer :: ·) hsent'
        · rw [startedIds_append, hstarted, hstarted']
          rfl

theorem starts_early_subset (sent : List Sent) : starts (early sent) ⊆ starts sent := by
  intro status h
  obtain ⟨s, hs, hstatus⟩ := List.mem_filterMap.mp h
  exact List.mem_filterMap.mpr ⟨s, (List.takeWhile_prefix _).subset hs, hstatus⟩

theorem reported_logged {st : Locals} (h : st.completed_logged = true) (sent : List Sent) :
    reported st sent = [] ∧ (sent.foldl settle st).completed_logged = true := by
  induction sent generalizing st with
  | nil => exact ⟨rfl, h⟩
  | cons s sent ih =>
    have hsettle : (settle st s).completed_logged = true := by
      unfold settle
      split <;> first | exact h | rfl
    rw [reported, h, Bool.not_true, Bool.and_false, if_neg Bool.false_ne_true, List.foldl_cons]
    exact ih hsettle

/-- The status of the last start message, or `default`. -/
def lastStatus (default : ℤ) (sent : List Sent) : ℤ := (starts sent).getLastD default

/-- Until a last body message is delivered, messages only leave their status. -/
theorem settle_fresh {st : Locals} (h : st.completed_logged = false) {s : Sent} (hs : isDelivered s = false) :
    (settle st s).completed_logged = false ∧
      ∀ sent, lastStatus (settle st s).status_code sent = lastStatus st.status_code (s :: sent) := by
  cases s with
  | start status delivered => exact ⟨h, fun sent => (List.getLastD_cons ..).symm⟩
  | body last delivered =>
    cases last <;> cases delivered
    · exact ⟨h, fun sent => rfl⟩
    · exact ⟨h, fun sent => rfl⟩
    · exact ⟨h, fun sent => rfl⟩
    · cases hs
  | other => exact ⟨h, fun sent => rfl⟩

theorem isDelivered_iff {s : Sent} : isDelivered s = true ↔ s = .body true true := by
  constructor
  · intro h
    cases s with
    | start status delivered => cases h
    | body last delivered => cases last <;> cases delivered <;> first | rfl | cases h
    | other => cases h
  · rintro rfl
    rfl

theorem reported_fresh {st : Locals} (h : st.completed_logged = false) (sent : List Sent) :
    reported st sent = (if sent.any isDelivered then [lastStatus st.status_code (early sent)] else []) ∧
      (sent.foldl settle st).completed_logged = sent.any isDelivered ∧
      (sent.any isDelivered = false → (sent.foldl settle st).status_code = lastStatus st.status_code (early sent)) := by
  induction sent generalizing st with
  | nil => exact ⟨rfl, h, fun _ => rfl⟩
  | cons s sent ih =>
    cases hs : isDelivered s with
    | true =>
      have hsettle : (settle st s).completed_logged = true := by
        rw [isDelivered_iff.mp hs]
        rfl
      obtain ⟨hnone, hflag⟩ := reported_logged hsettle sent
      rw [reported, List.any_cons, List.foldl_cons, hs, h, hnone, hflag, early,
        List.takeWhile_cons_of_neg (by rw [hs]; exact Bool.false_ne_true)]
      exact ⟨rfl, rfl, nofun⟩
    | false =>
      obtain ⟨hflag, hstatus⟩ := settle_fresh h hs
      obtain ⟨hreported, hlogged, hlast⟩ := ih hflag
      rw [reported, List.any_cons, List.foldl_cons, hs, early,
        List.takeWhile_cons_of_pos (by rw [hs]; rfl), ← hstatus]
      exact ⟨hreported, hlogged, hlast⟩

def isException : Except Raised Unit → Bool
  | .error (.exception _) => true
  | _ => false

def statuses (sent : List Sent) (ended : Except Raised Unit) : List ℤ :=
  if sent.any isDelivered || isException ended then [lastStatus 500 (early sent)] else []

theorem completes_iff {sent : List Sent} {ended : Except Raised Unit} :
    Completes sent ended ↔ (sent.any isDelivered || isException ended) = true ∧
      (starts sent ≠ [] → starts (early sent) ≠ [] ∨ 500 ∈ starts sent) := by
  have hended : (∃ err, ended = .error (.exception err)) ↔ isException ended = true := by
    constructor
    · rintro ⟨err, rfl⟩
      rfl
    · intro h
      unfold isException at h
      split at h
      · exact ⟨_, rfl⟩
      · cases h
  rw [Completes, Bool.or_eq_true, List.any_eq_true, hended]

/-- The status reported is that of a start message, or 500 when there is none. -/
theorem lastStatus_early_iff (sent : List Sent) :
    (lastStatus 500 (early sent) ∈ starts sent ∨ starts sent = [] ∧ lastStatus 500 (early sent) = 500) ↔
      (starts sent ≠ [] → starts (early sent) ≠ [] ∨ 500 ∈ starts sent) := by
  by_cases hearly : starts (early sent) = []
  · have hstatus : lastStatus 500 (early sent) = 500 := by
      rw [lastStatus, hearly]
      rfl
    rw [hstatus]
    tauto
  · have hmem : lastStatus 500 (early sent) ∈ starts sent := by
      rw [lastStatus, List.getLastD_eq_getLast?, List.getLast?_eq_some_getLast hearly]
      exact starts_early_subset sent (List.getLast_mem hearly)
    exact ⟨fun _ _ => .inl hearly, fun _ => .inl hmem⟩

theorem completedOnce_statuses {t : List (Observation C R)} {ended : Except Raised Unit}
    (h : Tells scope request_id t (statuses (sends t) ended)) :
    CompletedOnce scope request_id t ↔ scope.metrics = true ∧ Completes (sends t) ended := by
  rw [completes_iff, ← lastStatus_early_iff]
  obtain ⟨hlogged, hcounts⟩ := h
  rw [statuses] at hlogged hcounts
  cases hends : (sends t).any isDelivered || isException ended with
  | false =>
    rw [hends, if_neg Bool.false_ne_true] at hlogged
    constructor
    · rintro ⟨status, duration, hcompleted, -⟩
      rw [hcompleted] at hlogged
      cases hlogged
    · rintro ⟨-, h, -⟩
      cases h
  | true =>
    rw [hends, if_pos rfl] at hlogged hcounts
    rw [List.forall₂_cons_right_iff] at hlogged
    obtain ⟨record, rest, ⟨hrecord, hstatus⟩, hrest, hcompleted⟩ := hlogged
    rw [List.forall₂_nil_right_iff] at hrest
    subst hrest
    constructor
    · rintro ⟨status, duration, hone, hcount, hown⟩
      rw [hone, List.cons.injEq] at hcompleted
      have heq : status = lastStatus 500 (early (sends t)) := by
        rw [← hstatus, ← hcompleted.1]
      refine ⟨?_, rfl, heq ▸ hown⟩
      by_contra hmetrics
      rw [if_neg hmetrics, hcount] at hcounts
      cases hcounts
    · rintro ⟨hmetrics, -, hown⟩
      refine ⟨lastStatus 500 (early (sends t)), record.duration_ms, ?_, ?_, hown⟩
      · rw [hcompleted, ← hrecord, ← hstatus]
      · rw [hcounts, if_pos hmetrics]
        rfl

variable (scope request_id) in
theorem resolveRequestId_exec {header : Option String} {t : List (Observation C R)} {o : Except Raised String}
    (h : Exec (resolveRequestId header) t o) :
    ∃ id, o = .ok id ∧ Quiet t ∧ Tells scope request_id t [] := by
  have hgenerate : ∀ {t : List (Observation C R)} {o}, Exec (generateRequestId : Action C R String) t o →
      ∃ id, o = .ok id ∧ Quiet t ∧ Tells scope request_id t [] := by
    intro t o h
    obtain ⟨uuid, t₁, rfl, h₁⟩ := exec_call.mp h
    obtain ⟨rfl, rfl⟩ := exec_done.mp h₁
    exact ⟨_, rfl, ⟨rfl, rfl⟩, Tells.silent rfl rfl⟩
  cases header with
  | none => exact hgenerate h
  | some text =>
    rw [resolveRequestId] at h
    split_ifs at h with hvalid
    · obtain ⟨rfl, rfl⟩ := exec_done.mp h
      exact ⟨_, rfl, ⟨rfl, rfl⟩, Tells.silent rfl rfl⟩
    · exact hgenerate h

theorem ended_exec {app : App C R} {t : List (Observation C R)} {o : Except Raised Unit}
    (h : Exec ((runApp scope request_id started_at ⟨500, false⟩ app).bind fun
      | (.ok (), _) => .done ()
      | (.error (.exception err), st) =>
        (logRequestCompleted scope request_id started_at st).bind fun _ => .raise (.exception err)
      | (.error err, _) => .raise err) t o) :
    ∃ ta, Exec app ta o ∧ appSends ta = sends t ∧ startedIds t = [] ∧
      Tells scope request_id t (statuses (sends t) o) := by
  rcases exec_bind.mp h with ⟨x, _, hx⟩ | ⟨p, t₁, t₂, rfl, happ, hrest⟩
  · obtain ⟨_, _, ho, -⟩ := runApp_exec hx
    cases ho
  obtain ⟨ended, ta, hp, hrun, hsent, hstarted, htells⟩ := runApp_exec happ
  cases hp
  obtain ⟨hreported, hlogged, hlast⟩ := @reported_fresh ⟨500, false⟩ rfl (sends t₁)
  rw [hreported] at htells
  have hsilent : isException ended = false → t₂ = [] → o = ended → ∃ ta, Exec app ta o ∧
      appSends ta = sends (t₁ ++ t₂) ∧ startedIds (t₁ ++ t₂) = [] ∧
      Tells scope request_id (t₁ ++ t₂) (statuses (sends (t₁ ++ t₂)) o) := by
    rintro hnot rfl rfl
    rw [List.append_nil, statuses, hnot, Bool.or_false]
    exact ⟨ta, hrun, hsent, hstarted, htells⟩
  match ended, hrest with
  | .ok (), hrest =>
    obtain ⟨ht, ho⟩ := exec_done.mp hrest
    exact hsilent rfl ht ho
  | .error (.baseException name), hrest =>
    obtain ⟨ht, ho⟩ := exec_raise.mp hrest
    exact hsilent rfl ht ho
  | .error (.exception err), hrest =>
    rcases exec_bind.mp hrest with ⟨x, _, hx⟩ | ⟨st, t₃, t₄, rfl, hlog, hraise⟩
    · cases (logRequestCompleted_exec hx).1
    · obtain ⟨-, hquiet, htells'⟩ := logRequestCompleted_exec hlog
      obtain ⟨rfl, rfl⟩ := exec_raise.mp hraise
      rw [List.append_nil, sends_append, hquiet.sends, List.append_nil, startedIds_append, hstarted, hquiet.started]
      refine ⟨ta, hrun, hsent, rfl, ?_⟩
      have hstatuses := htells.append htells'
      rw [hlogged] at hstatuses
      cases hany : (sends t₁).any isDelivered with
      | true =>
        rw [hany, if_pos rfl, if_pos rfl] at hstatuses
        rw [statuses, hany, Bool.true_or, if_pos rfl]
        exact hstatuses
      | false =>
        rw [hany, if_neg Bool.false_ne_true, if_neg Bool.false_ne_true, hlast hany] at hstatuses
        rw [statuses, hany, isException, Bool.or_true, if_pos rfl]
        exact hstatuses

theorem startedRecord_exec {k : Unit → Action C R Unit} {t : List (Observation C R)} {o : Except Raised Unit}
    (h : Exec ((ask (.requestStarted (startedRecord scope request_id))).bind k) t o) :
    ∃ t', t = .asked (.requestStarted (startedRecord scope request_id)) () :: t' ∧ Exec (k ()) t' o := by
  obtain ⟨⟨⟩, t', rfl, h'⟩ := exec_call.mp h
  exact ⟨t', rfl, h'⟩

end Runs

section Samples

def sampleScope : Scope := ⟨"http", [("x-request-id", "req-1")], "POST", "/v1/responses", true⟩

/-- An application that streams one chunk, as its last one or not, and returns. -/
def streamed (more_body : Bool) : App Empty fun c => c.elim :=
  .call (.send (.responseStart 200 none)) fun _ =>
    .call (.send (.responseBody (some "data: ") (some more_body))) fun _ => .done ()

def sampleTrace (more_body : Bool) : List (Observation Empty fun c => c.elim) :=
  [.asked .perfCounter (0 : ℚ), .asked (.requestStarted (startedRecord sampleScope "req-1")) (),
    .asked (.app (.send (withRequestId "req-1" (.responseStart 200 none)))) (.ok ()),
    .asked (.app (.send (.responseBody (some "data: ") (some more_body)))) (.ok ())] ++
  if more_body then []
  else
    [.asked .perfCounter (1 : ℚ),
      .asked (.requestCompleted ⟨startedRecord sampleScope "req-1", 200, round2 ((1 - 0) * 1000)⟩) (),
      .asked (.increment "http_requests_total" (countLabels sampleScope 200)) (),
      .asked (.observe "http_request_duration_seconds" (round2 ((1 - 0) * 1000) / 1000)
        [("method", "POST"), ("path", "/v1/responses")]) ()]

theorem sampleScope_http : sampleScope.type = "http" := rfl

theorem sampleScope_header : headerValue sampleScope "x-request-id" = some "req-1" := by
  decide +kernel

theorem sampleScope_id :
    (resolveRequestId (some "req-1") : Action Empty (fun c => c.elim) String) = .done "req-1" := by
  have hstrip : PythonText.strip "req-1" = "req-1" := by decide +kernel
  have hvalid : isRequestId "req-1" = true := by decide +kernel
  rw [resolveRequestId, hstrip, if_pos hvalid]

theorem streamed_exec (more_body : Bool) :
    Exec (RequestContext.call sampleScope fun _ => streamed more_body) (sampleTrace more_body) (.ok ()) := by
  rw [RequestContext.call, if_neg (not_not_intro sampleScope_http), sampleScope_header, sampleScope_id]
  refine exec_call.mpr ⟨(0 : ℚ), _, rfl, exec_call.mpr ⟨(), _, rfl, ?_⟩⟩
  refine exec_call.mpr ⟨.ok (), _, rfl, exec_call.mpr ⟨.ok (), _, rfl, ?_⟩⟩
  cases more_body with
  | true => exact exec_done.mpr ⟨rfl, rfl⟩
  | false =>
    refine exec_call.mpr ⟨(1 : ℚ), _, rfl, exec_call.mpr ⟨(), _, rfl, ?_⟩⟩
    refine exec_call.mpr ⟨(), _, rfl, exec_call.mpr ⟨(), _, rfl, ?_⟩⟩
    exact exec_done.mpr ⟨rfl, rfl⟩

end Samples

section Telemetry

variable {C : Type} {R : C → Type} {scope : Scope}

/-- A request is completed once in telemetry exactly when there is a metrics store, a last body message is
delivered or an `Exception` ends the call, and the status is known by then. -/
theorem completed_once_iff {app : Option String → App C R} (hhttp : scope.type = "http")
    {t : List (Observation C R)} {o : Except Raised Unit} (hrun : Exec (RequestContext.call scope app) t o) :
    ∃ request_id ta, startedIds t = [request_id] ∧ Exec (app (some request_id)) ta o ∧ appSends ta = sends t ∧
      (CompletedOnce scope request_id t ↔ scope.metrics = true ∧ Completes (sends t) o) := by
  rw [RequestContext.call, if_neg (not_not_intro hhttp)] at hrun
  rcases exec_bind.mp hrun with ⟨x, _, hx⟩ | ⟨request_id, t₁, t₂, rfl, hresolve, h₁⟩
  · obtain ⟨_, hid, -⟩ := resolveRequestId_exec scope "" hx
    cases hid
  obtain ⟨_, hid, hquiet, hsilent⟩ := resolveRequestId_exec scope request_id hresolve
  cases hid
  obtain ⟨started_at, t₃, rfl, h₂⟩ := exec_call.mp h₁
  obtain ⟨t₄, rfl, h₃⟩ := startedRecord_exec h₂
  obtain ⟨ta, happ, hsent, hstarted, htells⟩ := ended_exec h₃
  have hsends : sends (t₁ ++ .asked .perfCounter started_at ::
      .asked (.requestStarted (startedRecord scope request_id)) () :: t₄) = sends t₄ := by
    rw [sends_append, hquiet.sends]
    rfl
  refine ⟨request_id, ta, ?_, happ, hsent.trans hsends.symm, ?_⟩
  · rw [startedIds_append, hquiet.started]
    exact congrArg (request_id :: ·) hstarted
  · apply completedOnce_statuses
    rw [hsends]
    have hclock : Tells scope request_id [(.asked .perfCounter started_at : Observation C R),
        .asked (.requestStarted (startedRecord scope request_id)) ()] [] := Tells.silent rfl rfl
    exact hsilent.append (hclock.append htells)

theorem full_stream_completed_once : ∃ request_id, CompletedOnce sampleScope request_id (sampleTrace false) := by
  obtain ⟨request_id, ta, -, -, -, h⟩ := completed_once_iff sampleScope_http (streamed_exec false)
  have hdelivered : ∃ s ∈ sends (sampleTrace false), isDelivered s = true :=
    ⟨.body true true, .tail _ (.head _), rfl⟩
  exact ⟨request_id, h.mpr ⟨rfl, .inl hdelivered, fun _ => .inl (List.cons_ne_nil _ _)⟩⟩

/-- The client goes away before the last chunk: the application returns and nothing is reported. -/
theorem abandoned_stream_unreported :
    ¬∀ (scope : Scope) (app : Option String → App Empty fun c => c.elim)
      (t : List (Observation Empty fun c => c.elim)) (o : Except Raised Unit),
        scope.type = "http" → scope.metrics = true →
      Exec (RequestContext.call scope app) t o → (o = .ok () ∨ ∃ err, o = .error (.exception err)) →
      ∃ request_id, CompletedOnce scope request_id t := by
  intro h
  obtain ⟨request_id, status, duration, hcompleted, -⟩ :=
    h sampleScope _ _ _ sampleScope_http rfl (streamed_exec true) (.inl rfl)
  cases hcompleted

end Telemetry

end AIRuntime.RequestTelemetry
