import AIRuntime.UsageConservation

set_option autoImplicit false

/-!
The monthly quota over whole runs. A monitor remembers whether the call's last policy check passed and
no row came after it, and keeps every state of the stores it saw.
-/
namespace AIRuntime.QuotaOvershoot

open EffectPrograms Failures CivilTime Identifiers GenerationContracts ModelRouting AccountingRecords PolicyRules
  Collaborators ProviderExecution RouteSearch SearchRules ExecutorSemantics PolicyEnforcement RedisAdapters
  ResponsePayloads SharedStores ResponseCreation ResponseScopes ServiceRuns UsageAccounting

section Months

def rowsIn (rows : List UsageRecord) (organization_id : UUID) (start stop : DateTime) : List UsageRecord :=
  rows.filter fun r => r.organization_id = organization_id && start ≤ r.created_at && r.created_at < stop

def lastTokens (rows : List UsageRecord) : ℤ := (rows.getLast?.map UsageRecord.tokens).getD 0

/-- In every calendar month all rows of the organization but the last stay below the limit. -/
def WithinQuota (organization_id : UUID) (limit : ℤ) (rows : List UsageRecord) : Prop :=
  ∀ (now : UtcInstant) (start stop : DateTime), currentMonthUtcBounds now.val = .ok (start, stop) →
    sumTokensInPeriod rows organization_id start stop - lastTokens (rowsIn rows organization_id start stop) < limit

variable {organization_id : UUID} {limit : ℤ} {rows : List UsageRecord} {record : UsageRecord}

theorem rowsIn_append (rows : List UsageRecord) (record : UsageRecord) (organization_id : UUID)
    (start stop : DateTime) :
    rowsIn (rows ++ [record]) organization_id start stop =
      if record.organization_id = organization_id ∧ start ≤ record.created_at ∧ record.created_at < stop then
        rowsIn rows organization_id start stop ++ [record] else rowsIn rows organization_id start stop := by
  unfold rowsIn
  rw [List.filter_append]
  by_cases h : record.organization_id = organization_id ∧ start ≤ record.created_at ∧ record.created_at < stop
  · rw [if_pos h, List.filter_cons_of_pos (by simp [h])]
    rfl
  · rw [if_neg h, List.filter_cons_of_neg (by simpa [and_assoc] using h)]
    exact List.append_nil _

theorem withinQuota_nil (h : 0 < limit) : WithinQuota organization_id limit [] :=
  fun _ _ _ _ => h

theorem WithinQuota.other (h : WithinQuota organization_id limit rows)
    (hother : record.organization_id ≠ organization_id) :
    WithinQuota organization_id limit (rows ++ [record]) := by
  intro now start stop hbounds
  have hout : ¬(record.organization_id = organization_id ∧ start ≤ record.created_at ∧ record.created_at < stop) :=
    fun hin => hother hin.1
  rw [sumTokensInPeriod_append, rowsIn_append, if_neg hout, if_neg hout, add_zero]
  exact h now start stop hbounds

theorem sum_eq_zero {start stop : DateTime}
    (h : ∀ r ∈ rows, r.organization_id = organization_id → r.created_at < start) :
    sumTokensInPeriod rows organization_id start stop = 0 := by
  have hnone : rows.filter (fun r => r.organization_id = organization_id && start ≤ r.created_at &&
      r.created_at < stop) = [] := by
    rw [List.filter_eq_nil_iff]
    intro r hr
    simp only [Bool.and_eq_true, decide_eq_true_eq, not_and]
    intro hin
    have hlt : r.created_at.instant < start.instant := h r hr hin.1
    have hle : start.instant ≤ r.created_at.instant := hin.2
    omega
  unfold sumTokensInPeriod
  rw [hnone]
  rfl

theorem sum_congr {start stop start' stop' : DateTime} (hstart : start.instant = start'.instant)
    (hstop : stop.instant = stop'.instant) :
    sumTokensInPeriod rows organization_id start stop = sumTokensInPeriod rows organization_id start' stop' := by
  have hle : ∀ x : DateTime, start ≤ x ↔ start' ≤ x := by
    intro x
    change start.instant ≤ x.instant ↔ start'.instant ≤ x.instant
    rw [hstart]
  have hlt : ∀ x : DateTime, x < stop ↔ x < stop' := by
    intro x
    change x.instant < stop.instant ↔ x.instant < stop'.instant
    rw [hstop]
  unfold sumTokensInPeriod
  simp only [hle, hlt]

/-- A row recorded at or after a check that passed overshoots by itself only: the month of the check had
room, and a later month is empty. -/
theorem WithinQuota.checked {checked_at : UtcInstant} {start stop : DateTime}
    (h : WithinQuota organization_id limit rows) (hlimit : 0 < limit)
    (hrows : ∀ r ∈ rows, r.organization_id = organization_id → r.created_at ≤ checked_at.val)
    (hbounds : currentMonthUtcBounds checked_at.val = .ok (start, stop))
    (hroom : sumTokensInPeriod rows organization_id start stop < limit)
    (hlater : checked_at.val ≤ record.created_at) :
    WithinQuota organization_id limit (rows ++ [record]) := by
  intro now start' stop' hbounds'
  rw [sumTokensInPeriod_append, rowsIn_append]
  by_cases hin : record.organization_id = organization_id ∧ start' ≤ record.created_at ∧ record.created_at < stop'
  · have hlast : lastTokens (rowsIn rows organization_id start' stop' ++ [record]) = record.tokens := by
      unfold lastTokens
      rw [List.getLast?_concat]
      rfl
    rw [if_pos hin, if_pos hin, hlast, add_sub_cancel_right]
    by_cases hsame : start' ≤ checked_at.val
    · have hbefore : checked_at.val < stop' := by
        have hrecord : record.created_at.instant < stop'.instant := hin.2.2
        have hle : checked_at.val.instant ≤ record.created_at.instant := hlater
        exact lt_of_le_of_lt hle hrecord
      obtain ⟨hstart, hstop⟩ := currentMonthUtcBounds_unique now.property checked_at.property hbounds' hbounds
        ⟨hsame, hbefore⟩ (currentMonthUtcBounds_contains hbounds)
      rw [sum_congr hstart hstop]
      exact hroom
    · rw [sum_eq_zero]
      · exact hlimit
      · intro r hr hown
        have hle : r.created_at.instant ≤ checked_at.val.instant := hrows r hr hown
        have hlt : checked_at.val.instant < start'.instant := not_le.mp hsame
        exact lt_of_le_of_lt hle hlt
  · rw [if_neg hin, if_neg hin, add_zero]
    exact h now start' stop' hbounds'

end Months

/-- The clock reading and the verdict of the call's last policy check, void once a row came to the table;
whether any provider attempt of the organization was made without one; the rows after every command. -/
structure Checks where
  reading : Option UtcInstant
  cleared : Bool
  unchecked : Bool
  visited : List (List UsageRecord)

namespace Checks

/-- The sum of a month was read: the check passes if the recorded tokens leave room for the request. -/
def sums (organization_id : UUID) (limit : ℤ) (max_output_tokens : Option ℤ) (rows : List UsageRecord) (o : UUID)
    (start stop : DateTime) (total : ℤ) (g : Checks) : Checks :=
  { g with cleared := o = organization_id &&
      g.reading.any (fun now => currentMonthUtcBounds now.val = .ok (start, stop)) &&
      total = sumTokensInPeriod rows o start stop && total + max_output_tokens.getD 0 < limit }

def attempts (own : Bool) (g : Checks) : Checks := { g with unchecked := g.unchecked || (own && !g.cleared) }

def sees (rows : List UsageRecord) (g : Checks) : Checks := { g with visited := rows :: g.visited }

end Checks

def checks (organization_id : UUID) (limit : ℤ) : Monitor Checks where
  reset := fun g => { g with reading := none, cleared := false }
  step := fun arrival s c r s' g =>
    Checks.sees s'.world.usage_records.rows <|
      match c, r with
      | .utcNow, now => { g with reading := some now }
      | .sumTokens o start stop, .ok total =>
        g.sums organization_id limit arrival.call.command.request.max_output_tokens s.world.usage_records.rows o
          start stop total
      | .addUsage record, _ =>
        if UsageConservation.reachesTable arrival.given s record then { g with cleared := false } else g
      | .generate _ _, _ => g.attempts (arrival.call.command.organization_id = organization_id)
      | .stream _ _, _ => g.attempts (arrival.call.command.organization_id = organization_id)
      | _, _ => g

section Parts

variable {organization_id : UUID} {limit : ℤ} {arrival : Arrival} {rows : List UsageRecord} {s : Session × Checks}

abbrev watched (organization_id : UUID) (limit : ℤ) (arrival : Arrival) :
    Handler Command Response Empty (Session × Checks) :=
  (collaborators arrival.given).watched ((checks organization_id limit).step arrival)

/-- Every state seen so far keeps the quota, and no attempt was made unchecked. -/
structure Safe (organization_id : UUID) (limit : ℤ) (s : Session × Checks) : Prop where
  visited : ∀ rows ∈ s.2.visited, WithinQuota organization_id limit rows
  current : WithinQuota organization_id limit s.1.world.usage_records.rows
  unchecked : s.2.unchecked = false

structure Waiting (organization_id : UUID) (limit : ℤ) (rows : List UsageRecord) (s : Session × Checks) : Prop where
  safe : Safe organization_id limit s
  rows_eq : s.1.world.usage_records.rows = rows

/-- By its tick `t` the call's clock had read an instant in whose month the rows leave room. -/
def Room (organization_id : UUID) (limit : ℤ) (arrival : Arrival) (rows : List UsageRecord) (t : ℕ) : Prop :=
  ∃ tick start stop, tick ≤ t ∧ currentMonthUtcBounds (arrival.given.utcNow tick).val = .ok (start, stop) ∧
    sumTokensInPeriod rows organization_id start stop < limit

theorem Room.mono {organization_id : UUID} {limit : ℤ} {arrival : Arrival} {rows : List UsageRecord} {t t' : ℕ}
    (h : Room organization_id limit arrival rows t) (htt' : t ≤ t') :
    Room organization_id limit arrival rows t' := by
  obtain ⟨tick, start, stop, htick, hroom⟩ := h
  exact ⟨tick, start, stop, htick.trans htt', hroom⟩

/-- The call's last check passed, at a reading of its clock. -/
structure Cleared (organization_id : UUID) (limit : ℤ) (arrival : Arrival) (rows : List UsageRecord)
    (s : Session × Checks) : Prop where
  waiting : Waiting organization_id limit rows s
  cleared : s.2.cleared = true
  room : Room organization_id limit arrival rows s.1.tick

/-- The call has recorded one row, at a reading of its clock. -/
structure Spent (organization_id : UUID) (limit : ℤ) (arrival : Arrival) (rows : List UsageRecord)
    (s : Session × Checks) : Prop where
  safe : Safe organization_id limit s
  row : ∃ record tick, s.1.world.usage_records.rows = rows ++ [record] ∧
    record.created_at = (arrival.given.utcNow tick).val ∧ record.request_id = arrival.call.command.request_id

def Passive : Command → Prop
  | .generate _ _ => False
  | .stream _ _ => False
  | .addUsage _ => False
  | .sumTokens _ _ _ => False
  | _ => True

structure Keeps (s s' : Session × Checks) : Prop where
  rows : s'.1.world.usage_records.rows = s.1.world.usage_records.rows
  visited : s'.2.visited = s.1.world.usage_records.rows :: s.2.visited
  cleared : s'.2.cleared = s.2.cleared
  unchecked : s'.2.unchecked = s.2.unchecked
  tick : s.1.tick ≤ s'.1.tick

theorem Passive.unspent {c : Command} (h : Passive c) : UsageConservation.Unspent c := by
  cases c <;> trivial

theorem answer_keeps {c : Command} (hc : Passive c) (s : Session × Checks) :
    Keeps s ((watched organization_id limit arrival).answer s c).2 := by
  have hrows : (answer arrival.given s.1 c).2.world.usage_records.rows = s.1.world.usage_records.rows :=
    congrArg Table.rows (UsageConservation.answer_usage arrival.given s.1 hc.unspent)
  have hghost : ∀ r : Response c,
      ((checks organization_id limit).step arrival s.1 c r (answer arrival.given s.1 c).2 s.2).visited =
        s.1.world.usage_records.rows :: s.2.visited ∧
      ((checks organization_id limit).step arrival s.1 c r (answer arrival.given s.1 c).2 s.2).cleared =
        s.2.cleared ∧
      ((checks organization_id limit).step arrival s.1 c r (answer arrival.given s.1 c).2 s.2).unchecked =
        s.2.unchecked := by
    intro r
    rw [← hrows]
    cases c with
    | generate provider request => exact hc.elim
    | stream provider request => exact hc.elim
    | addUsage record => exact hc.elim
    | sumTokens o start stop => exact hc.elim
    | _ => exact ⟨rfl, rfl, rfl⟩
  obtain ⟨hvisited, hcleared, hunchecked⟩ := hghost (answer arrival.given s.1 c).1
  exact ⟨hrows, hvisited, hcleared, hunchecked, by
    change s.1.tick ≤ (answer arrival.given s.1 c).2.tick
    rw [answer_tick]
    omega⟩

theorem Safe.sees {s' : Session × Checks} (hs : Safe organization_id limit s)
    (hvisited : s'.2.visited = s'.1.world.usage_records.rows :: s.2.visited)
    (hrows : WithinQuota organization_id limit s'.1.world.usage_records.rows)
    (hunchecked : s'.2.unchecked = false) : Safe organization_id limit s' := by
  refine ⟨?_, hrows, hunchecked⟩
  intro seen hseen
  rw [hvisited] at hseen
  rcases List.mem_cons.mp hseen with rfl | hseen
  · exact hrows
  · exact hs.visited seen hseen

theorem Safe.keeps {s' : Session × Checks} (hs : Safe organization_id limit s) (h : Keeps s s') :
    Safe organization_id limit s' := by
  refine hs.sees ?_ ?_ (h.unchecked.trans hs.unchecked)
  · rw [h.visited, h.rows]
  · rw [h.rows]
    exact hs.current

theorem Waiting.keeps (s s' : Session × Checks) (h : Keeps s s') (hs : Waiting organization_id limit rows s) :
    Waiting organization_id limit rows s' :=
  ⟨hs.safe.keeps h, h.rows.trans hs.rows_eq⟩

theorem Cleared.keeps (s s' : Session × Checks) (h : Keeps s s') (hs : Cleared organization_id limit arrival rows s) :
    Cleared organization_id limit arrival rows s' :=
  ⟨hs.waiting.keeps s s' h, h.cleared.trans hs.cleared, hs.room.mono h.tick⟩

theorem Spent.keeps (s s' : Session × Checks) (h : Keeps s s') (hs : Spent organization_id limit arrival rows s) :
    Spent organization_id limit arrival rows s' := by
  refine ⟨hs.safe.keeps h, ?_⟩
  rw [h.rows]
  exact hs.row

theorem passive_wp {α : Type} {p : Action α} (hp : p.Asks Passive) {I : Session × Checks → Prop}
    (hI : ∀ s s', Keeps s s' → I s → I s') (hs : I s) :
    p.wp (watched organization_id limit arrival).environment (watched organization_id limit arrival).emit
      (Prog.ends (fun _ => I) fun _ => I) s :=
  Prog.wp_frame (fun _ hc s => answer_keeps hc s) hp hI hs

theorem reply_eq {c : Command} {r : Response c} {s' : Session × Checks}
    (hr : (watched organization_id limit arrival).environment.reply s c r s') :
    r = (answer arrival.given s.1 c).1 ∧ s'.1 = (answer arrival.given s.1 c).2 ∧
      s'.2 = (checks organization_id limit).step arrival s.1 c (answer arrival.given s.1 c).1
        (answer arrival.given s.1 c).2 s.2 := by
  have hr' : (watched organization_id limit arrival).answer s c = (r, s') := hr
  exact ⟨(congrArg Prod.fst hr').symm, (congrArg (fun x => x.2.1) hr').symm, (congrArg (fun x => x.2.2) hr').symm⟩

theorem reply_keeps {c : Command} (hc : Passive c) {r : Response c} {s' : Session × Checks}
    (hr : (watched organization_id limit arrival).environment.reply s c r s') : Keeps s s' :=
  Prog.reply_frame (answer_keeps hc) hr

/-- Reading the sum of a period changes no row, and gives the sum if it gives anything. -/
theorem sumTokens_answer (given : Circumstances) (s : Session) (o : UUID) (start stop : DateTime) :
    (answer given s (.sumTokens o start stop)).2.world = s.world ∧
      ((answer given s (.sumTokens o start stop)).1 =
          (.ok (sumTokensInPeriod s.world.usage_records.rows o start stop) : Except Exn ℤ) ∨
        ∃ err, (answer given s (.sumTokens o start stop)).1 = (.error err : Except Exn ℤ)) := by
  simp only [answer, Session.onDatabase]
  cases given.databaseFault s.tick with
  | none => exact ⟨rfl, .inl rfl⟩
  | refused err => exact ⟨rfl, .inr ⟨err, rfl⟩⟩
  | unanswered err => exact ⟨rfl, .inr ⟨err, rfl⟩⟩

theorem wouldExceedMonthlyQuota_room {used limit estimated : ℤ}
    (h : wouldExceedMonthlyQuota used limit estimated = .ok false) : used + estimated < limit ∧ used < limit := by
  unfold wouldExceedMonthlyQuota at h
  split_ifs at h with hlimit hnegative
  have hfits := Except.ok.inj h
  simp only [decide_eq_false_iff_not, not_le] at hfits
  omega

end Parts

section Calls

variable {organization_id : UUID} {limit : ℤ} {arrival : Arrival} {rows : List UsageRecord} {s : Session × Checks}

/-- A call of the organization, whose policy has the limit whenever it can be read. -/
structure OwnCall (organization_id : UUID) (limit : ℤ) (arrival : Arrival) : Prop where
  own : arrival.call.command.organization_id = organization_id
  policy : ∀ tick policy, arrival.given.policy tick = .ok policy → policy.monthly_token_limit = some limit

/-- Reading the month's sum leaves the call waiting; it is cleared if the sum leaves room. -/
theorem reply_sum (h : OwnCall organization_id limit arrival) {now : UtcInstant} {start stop : DateTime}
    {got : Except Exn ℤ} {s' : Session × Checks} (hs : Waiting organization_id limit rows s)
    (hreading : s.2.reading = some now) (hbounds : currentMonthUtcBounds now.val = .ok (start, stop))
    (hr : (watched organization_id limit arrival).environment.reply s
      (.sumTokens arrival.call.command.organization_id start stop) got s') :
    Waiting organization_id limit rows s' ∧ ∀ total, got = .ok total →
      total = sumTokensInPeriod rows organization_id start stop ∧
      (total + arrival.call.command.request.max_output_tokens.getD 0 < limit → s'.2.cleared = true) := by
  obtain ⟨hgot, hsession, hghost⟩ := reply_eq hr
  obtain ⟨hworld, hsum⟩ := sumTokens_answer arrival.given s.1 arrival.call.command.organization_id start stop
  have hrows : s'.1.world.usage_records.rows = s.1.world.usage_records.rows := by rw [hsession, hworld]
  have hvisited : s'.2.visited = s.1.world.usage_records.rows :: s.2.visited ∧ s'.2.unchecked = s.2.unchecked := by
    rw [hghost, ← hsession, ← hrows]
    cases (answer arrival.given s.1 (.sumTokens arrival.call.command.organization_id start stop)).1 <;>
      exact ⟨rfl, rfl⟩
  have hsafe : Safe organization_id limit s' := by
    refine hs.safe.sees ?_ ?_ (hvisited.2.trans hs.safe.unchecked)
    · rw [hvisited.1, hrows]
    · rw [hrows]
      exact hs.safe.current
  refine ⟨⟨hsafe, hrows.trans hs.rows_eq⟩, fun total htotal => ?_⟩
  rcases hsum with hsum | ⟨err, herr⟩
  · rw [hsum] at hgot hghost
    cases hgot.symm.trans htotal
    refine ⟨by rw [hs.rows_eq, h.own], fun hroom => ?_⟩
    rw [hghost]
    change (_ && _ && _ && _) = true
    rw [hreading]
    simp only [h.own, decide_true, Option.any_some, hbounds, Bool.true_and, decide_eq_true_eq]
    rw [← h.own]
    exact hroom
  · rw [herr] at hgot
    cases hgot.symm.trans htotal

theorem checkQuota_wp (h : OwnCall organization_id limit arrival) (model : String)
    (hs : Waiting organization_id limit rows s) :
    (checkQuota ⟨arrival.call.command.organization_id, model, arrival.call.command.request.max_output_tokens⟩).wp
      (watched organization_id limit arrival).environment (watched organization_id limit arrival).emit
      (Prog.ends (fun _ => Cleared organization_id limit arrival rows) fun _ => Waiting organization_id limit rows)
      s := by
  refine Prog.wp_bind ⟨trivial, fun got s₁ hr => ?_⟩
  have hs₁ := hs.keeps _ _ (reply_keeps (c := .getPolicy _) trivial hr)
  have hgot : arrival.given.policy s.1.tick = got := (reply_eq hr).1.symm
  refine Prog.wp_bind (Prog.wp_ofExcept ?_)
  cases got with
  | error err => exact hs₁
  | ok policy =>
    simp only [Prog.ends_ok, h.policy s.1.tick policy hgot]
    refine Prog.wp_bind ⟨trivial, fun now s₂ hr₂ => ?_⟩
    have hs₂ := hs₁.keeps _ _ (reply_keeps (c := .utcNow) trivial hr₂)
    obtain ⟨hnow, hsession, hreading⟩ := reply_eq hr₂
    have htick : s₁.1.tick ≤ s₂.1.tick := by
      rw [hsession, answer_tick]
      omega
    refine Prog.wp_bind (Prog.wp_ofExcept ?_)
    cases hbounds : currentMonthUtcBounds now.val with
    | error err => exact hs₂
    | ok bounds =>
      obtain ⟨start, stop⟩ := bounds
      refine Prog.wp_bind ⟨trivial, fun used s₃ hr₃ => ?_⟩
      have hread : s₂.2.reading = some now := by rw [hreading, ← hnow]; rfl
      obtain ⟨hs₃, hcleared⟩ := reply_sum h hs₂ hread hbounds hr₃
      have htick₃ : s₂.1.tick ≤ s₃.1.tick := by
        rw [(reply_eq hr₃).2.1, answer_tick]
        omega
      refine Prog.wp_bind (Prog.wp_ofExcept ?_)
      cases used with
      | error err => exact hs₃
      | ok total =>
        obtain ⟨htotal, hclear⟩ := hcleared total rfl
        refine Prog.wp_bind (Prog.wp_ofExcept ?_)
        cases hexceeded : wouldExceedMonthlyQuota total limit
            (arrival.call.command.request.max_output_tokens.getD 0) with
        | error err => exact hs₃
        | ok exceeded =>
          cases exceeded with
          | true =>
            refine Prog.wp_bind (Prog.wp_ofExcept ?_)
            cases secondsUntilEndOfMonthUtc now.val <;> exact hs₃
          | false =>
            obtain ⟨hroom, hused⟩ := wouldExceedMonthlyQuota_room hexceeded
            refine ⟨hs₃, hclear hroom, s₁.1.tick, start, stop, htick.trans htick₃, ?_, by rw [← htotal]; exact hused⟩
            rw [hnow] at hbounds
            exact hbounds

theorem enforce_wp (h : OwnCall organization_id limit arrival) (model : String)
    (hs : Waiting organization_id limit rows s) :
    (enforceOrganizationPolicy ⟨arrival.call.command.organization_id, model,
      arrival.call.command.request.max_output_tokens⟩).wp (watched organization_id limit arrival).environment
      (watched organization_id limit arrival).emit
      (Prog.ends (fun _ => Cleared organization_id limit arrival rows) fun _ => Waiting organization_id limit rows)
      s := by
  refine Prog.wp_bind ⟨trivial, fun got s₁ hr => ?_⟩
  have hs₁ := hs.keeps _ _ (reply_keeps (c := .listEntitlements _) trivial hr)
  refine Prog.wp_bind (Prog.wp_ofExcept ?_)
  cases got with
  | error err => exact hs₁
  | ok listed =>
    cases hallowed : isModelAllowed model (listed.map (·.model)) with
    | false =>
      simp only [Prog.ends_ok, hallowed, Bool.not_false, ↓reduceIte]
      exact hs₁
    | true =>
      simp only [Prog.ends_ok, hallowed, Bool.not_true, Bool.false_eq_true, ↓reduceIte]
      exact checkQuota_wp h model hs₁

theorem admits_wp (h : OwnCall organization_id limit arrival) (route : ModelRoute)
    (hs : Waiting organization_id limit rows s) :
    (admits (some (beforeRoute arrival.call.command)) route).wp (watched organization_id limit arrival).environment
      (watched organization_id limit arrival).emit
      (Prog.ends (fun admitted s' => if admitted then Cleared organization_id limit arrival rows s'
        else Waiting organization_id limit rows s') fun _ => Waiting organization_id limit rows) s := by
  refine Prog.wp_catching (Prog.wp_bind (Prog.wp_mono (Prog.ends_mono (fun _ _ hs => hs) fun err _ hs => ?_)
    (enforce_wp h route.model hs)))
  cases err <;> exact hs

theorem attempt_keeps {c : Command} (hc : c.isProviderCall = true)
    (hs : Cleared organization_id limit arrival rows s) :
    Cleared organization_id limit arrival rows ((watched organization_id limit arrival).answer s c).2 := by
  have hghost : ∀ r : Response c,
      (checks organization_id limit).step arrival s.1 c r (answer arrival.given s.1 c).2 s.2 =
        (s.2.attempts (arrival.call.command.organization_id = organization_id)).sees
          (answer arrival.given s.1 c).2.world.usage_records.rows := by
    intro r
    cases c <;> first | rfl | cases hc
  have hworld : (answer arrival.given s.1 c).2.world = s.1.world := by
    cases c <;> first | rfl | cases hc
  have hunchecked : (s.2.attempts (arrival.call.command.organization_id = organization_id)).unchecked = false := by
    simp only [Checks.attempts, hs.waiting.safe.unchecked, hs.cleared, Bool.not_true, Bool.and_false, Bool.or_false]
  have hrows : (answer arrival.given s.1 c).2.world.usage_records.rows = s.1.world.usage_records.rows := by rw [hworld]
  have hlater : s.1.tick ≤ (answer arrival.given s.1 c).2.tick := by
    rw [answer_tick]
    omega
  have hafter := hghost (answer arrival.given s.1 c).1
  change Cleared organization_id limit arrival rows ((answer arrival.given s.1 c).2,
    (checks organization_id limit).step arrival s.1 c (answer arrival.given s.1 c).1
      (answer arrival.given s.1 c).2 s.2)
  rw [hafter]
  refine ⟨⟨hs.waiting.safe.sees rfl ?_ hunchecked, hrows.trans hs.waiting.rows_eq⟩, hs.cleared,
    hs.room.mono hlater⟩
  rw [hrows]
  exact hs.waiting.safe.current

/-- The search makes checked attempts only, and serves from a checked one. -/
theorem search_checked {β : Type} {call : String → GenerationRequest → Action β}
    (h : OwnCall organization_id limit arrival)
    (hcall : ∀ provider request, (call provider request).Asks fun c => c.isProviderCall = true)
    (self : ProviderExecutor) (hs : Waiting organization_id limit rows s) :
    (search self arrival.call.command.request.model arrival.call.command.request
      (some (beforeRoute arrival.call.command)) call (self.routesFor arrival.call.command.request.model)).wp
      (watched organization_id limit arrival).environment (watched organization_id limit arrival).emit
      (Prog.ends (fun _ => Cleared organization_id limit arrival rows) fun _ => Waiting organization_id limit rows)
      s := by
  refine search_wp (I := Waiting organization_id limit rows) (J := fun _ => Cleared organization_id limit arrival rows)
    (Q := fun _ _ => Cleared organization_id limit arrival rows) ⟨?_, fun _ _ hs => hs.waiting, ?_, ?_, ?_⟩ hs
  · exact fun route s hs => admits_wp h route hs
  · intro route
    exact Prog.keeps_handler fun s hs => hs.keeps _ _ (answer_keeps (c := .resolve _) trivial s)
  · intro route d
    exact Prog.keeps_handler fun s hs => hs.keeps _ _ (answer_keeps (c := .sleep _) trivial s)
  · intro route s hs
    refine Prog.wp_mono ?_ (Prog.wp_of_asks (hcall _ _)
      (fun c hc => Prog.keeps_handler fun s hs => attempt_keeps hc hs) (fun _ e _ => e.elim) hs)
    intro o s' hs'
    cases o <;> exact hs'

/-- The clock of the call runs forward, from behind the organization's rows. -/
structure OnTime (organization_id : UUID) (rows : List UsageRecord) (arrival : Arrival) : Prop where
  forward : ∀ t t', t ≤ t' → (arrival.given.utcNow t).val ≤ (arrival.given.utcNow t').val
  behind : ∀ r ∈ rows, r.organization_id = organization_id → ∀ t, r.created_at ≤ (arrival.given.utcNow t).val

/-- What an insert does to a call: it records its one row, or nothing happens. -/
theorem addUsage_wp (hlimit : 0 < limit) (htime : OnTime organization_id rows arrival) {record : UsageRecord}
    (tick : ℕ) (hat : record.created_at = (arrival.given.utcNow tick).val)
    (hid : record.request_id = arrival.call.command.request_id)
    (hs : (Waiting organization_id limit rows s ∧ Room organization_id limit arrival rows tick) ∨
      Spent organization_id limit arrival rows s) :
    ((Command.addUsage record).ask.bind Prog.ofExcept).wp (watched organization_id limit arrival).environment
      (watched organization_id limit arrival).emit
      (Prog.ends (fun _ => Spent organization_id limit arrival rows)
        fun _ s' => Waiting organization_id limit rows s' ∨ Spent organization_id limit arrival rows s') s := by
  refine Prog.wp_answered (Prog.wp_ofExcept ?_)
  change Prog.ends _ _ (answer arrival.given s.1 (.addUsage record)).1 ((answer arrival.given s.1 (.addUsage record)).2,
    (if UsageConservation.reachesTable arrival.given s.1 record then { s.2 with cleared := false } else s.2).sees
      (answer arrival.given s.1 (.addUsage record)).2.world.usage_records.rows)
  have hsafe : Safe organization_id limit s := hs.elim (fun hs => hs.1.safe) fun hs => hs.safe
  cases hreaches : UsageConservation.reachesTable arrival.given s.1 record with
  | true =>
    obtain ⟨hfree, hrows⟩ := UsageConservation.insert_reaches hreaches
    rcases hs with ⟨hs, checked, start, stop, hchecked, hbounds, hroom⟩ | hs
    · have hspent : Spent organization_id limit arrival rows ((answer arrival.given s.1 (.addUsage record)).2,
          Checks.sees (answer arrival.given s.1 (.addUsage record)).2.world.usage_records.rows
            { s.2 with cleared := false }) := by
        rw [hs.rows_eq] at hrows
        refine ⟨hsafe.sees rfl ?_ hsafe.unchecked, record, tick, hrows, hat, hid⟩
        rw [hrows]
        have hquota := hsafe.current
        rw [hs.rows_eq] at hquota
        refine hquota.checked hlimit (fun r hr hown => htime.behind r hr hown checked) hbounds hroom ?_
        rw [hat]
        exact htime.forward checked tick hchecked
      cases (answer arrival.given s.1 (.addUsage record)).1 with
      | ok u => exact hspent
      | error err => exact .inr hspent
    · -- the call's request id is in the table already
      obtain ⟨first, tick', hrows', hat', hid'⟩ := hs.row
      have hclash := hfree first (by rw [hrows']; exact List.mem_append_right _ List.mem_cons_self)
      unfold usageClash at hclash
      rw [hid, hid'] at hclash
      simp at hclash
  | false =>
    obtain ⟨hrows, err, herr⟩ := UsageConservation.insert_misses hreaches
    have hsame : (answer arrival.given s.1 (.addUsage record)).2.world.usage_records.rows =
        s.1.world.usage_records.rows := congrArg Table.rows hrows
    have hsafe' : Safe organization_id limit ((answer arrival.given s.1 (.addUsage record)).2,
        s.2.sees (answer arrival.given s.1 (.addUsage record)).2.world.usage_records.rows) := by
      refine hsafe.sees rfl ?_ hsafe.unchecked
      rw [hsame]
      exact hsafe.current
    rw [herr]
    rcases hs with ⟨hs, -⟩ | hs
    · exact .inl ⟨hsafe', hsame.trans hs.rows_eq⟩
    · refine .inr ⟨hsafe', ?_⟩
      rw [hsame]
      exact hs.row

/-- The row of a response is recorded on the check before its attempt. -/
theorem recordUsage_wp (service : CreateResponse) (hlimit : 0 < limit) (htime : OnTime organization_id rows arrival)
    (provider : String) (response : GenerationResponse)
    (hs : Cleared organization_id limit arrival rows s ∨ Spent organization_id limit arrival rows s) :
    (service.recordUsage arrival.call.command provider response).wp (watched organization_id limit arrival).environment
      (watched organization_id limit arrival).emit
      (Prog.ends (fun _ => Spent organization_id limit arrival rows)
        fun _ s' => Waiting organization_id limit rows s' ∨ Spent organization_id limit arrival rows s') s := by
  have hend : ∀ s : Session × Checks, Cleared organization_id limit arrival rows s ∨
      Spent organization_id limit arrival rows s → Waiting organization_id limit rows s ∨
      Spent organization_id limit arrival rows s := fun s hs => hs.imp Cleared.waiting id
  have hkeeps : ∀ s s' : Session × Checks, Keeps s s' → (Cleared organization_id limit arrival rows s ∨
      Spent organization_id limit arrival rows s) → Cleared organization_id limit arrival rows s' ∨
      Spent organization_id limit arrival rows s' :=
    fun s s' h hs => hs.imp (Cleared.keeps s s' h) (Spent.keeps s s' h)
  refine Prog.wp_bind (Prog.wp_ofExcept ?_)
  cases service.cost_estimator provider response.model response.usage with
  | error err => exact hend s hs
  | ok cost =>
    refine Prog.wp_bind ⟨trivial, fun id s₁ hr₁ => Prog.wp_bind ⟨trivial, fun now s₂ hr₂ => ?_⟩⟩
    have hs₁ := hkeeps _ _ (reply_keeps (c := .uuid4) trivial hr₁) hs
    have hs₂ := hkeeps _ _ (reply_keeps (c := .utcNow) trivial hr₂) hs₁
    obtain ⟨hnow, -, -⟩ := reply_eq hr₂
    refine Prog.wp_bind (Prog.wp_ofExcept ?_)
    cases hnew : UsageRecord.new id arrival.call.command.request_id arrival.call.command.organization_id
      arrival.call.command.api_key_id provider response.model (response.usage.map (·.input_tokens))
      (response.usage.map (·.output_tokens)) cost now.val with
    | error err => exact hend s₂ hs₂
    | ok record =>
      obtain ⟨hrequest, -, -, hcreated⟩ := UsageRecord.new_eq_ok hnew
      refine addUsage_wp hlimit htime s₁.1.tick (by rw [hcreated, hnow]; rfl) hrequest ?_
      rcases hs₁ with hs₁ | hs₁
      · exact .inl ⟨hs₁.waiting.keeps _ _ (reply_keeps (c := .utcNow) trivial hr₂), hs₁.room⟩
      · exact .inr (hs₁.keeps _ _ (reply_keeps (c := .utcNow) trivial hr₂))

def Ended (organization_id : UUID) (limit : ℤ) (arrival : Arrival) (rows : List UsageRecord) (s : Session × Checks) :
    Prop :=
  Waiting organization_id limit rows s ∨ Spent organization_id limit arrival rows s

theorem Ended.keeps (s s' : Session × Checks) (h : Keeps s s') (hs : Ended organization_id limit arrival rows s) :
    Ended organization_id limit arrival rows s' :=
  hs.imp (Waiting.keeps s s' h) (Spent.keeps s s' h)

theorem OnKey.passive {key : String} {c : Command} (h : OnKey key c) : Passive c := by
  cases c <;> trivial

theorem Reports.passive {o : UUID} {c : Command} (h : Reports o c) : Passive c := by
  cases c <;> trivial

theorem completeClaim_passive (service : CreateResponse) (claimed : Option String) (response : GenerationResponse) :
    (service.completeClaim arrival.call.command claimed response).Asks Passive := by
  cases claimed with
  | none => trivial
  | some key => exact (complete_asks _ _ _ _).mono fun _ => OnKey.passive

theorem success_passive (response : GenerationResponse) (outcome provider : String) (count_tokens : Bool) :
    (recordGenerationSuccess arrival.call.command response outcome provider count_tokens).Asks Passive :=
  (recordGenerationSuccess_reports _ response outcome provider count_tokens).mono fun _ => Reports.passive

theorem abandon_passive (claimed : Option String) (err : Exn) :
    (CreateResponse.abandon arrival.call.command claimed err).Asks Passive := by
  refine Prog.Asks.bind ?_ fun _ => Prog.Asks.bind ⟨trivial, fun _ => trivial⟩ fun _ => trivial
  cases claimed with
  | none => trivial
  | some key => exact (release_asks _ _).mono fun _ => OnKey.passive

variable (service : CreateResponse)

theorem finish_ends (hlimit : 0 < limit) (htime : OnTime organization_id rows arrival) (claimed : Option String)
    (execution : ProviderExecutionResult) (hs : Cleared organization_id limit arrival rows s) :
    (service.finish arrival.call.command claimed execution).wp (watched organization_id limit arrival).environment
      (watched organization_id limit arrival).emit (Prog.ends (fun _ => Ended organization_id limit arrival rows)
        fun _ => Ended organization_id limit arrival rows) s := by
  have hstore : (service.storeInCache arrival.call.command execution.response).Asks Passive := by
    unfold CreateResponse.storeInCache
    split_ifs
    · exact (cacheSet_asks _ _ _ _).mono fun _ => OnKey.passive
    · trivial
  refine Prog.wp_seq (recordUsage_wp service hlimit htime _ _ (.inl hs)) (fun _ s hs => ?_) fun _ _ hs => hs
  refine Prog.wp_seq (passive_wp hstore Ended.keeps (.inr hs)) (fun _ s hs => ?_) fun _ _ hs => hs
  refine Prog.wp_seq (passive_wp (completeClaim_passive service claimed _) Ended.keeps hs) (fun _ s hs => ?_)
    fun _ _ hs => hs
  exact Prog.wp_seq (passive_wp (success_passive _ _ _ _) Ended.keeps hs) (fun _ _ hs => hs) fun _ _ hs => hs

theorem serve_ends (h : OwnCall organization_id limit arrival) (hlimit : 0 < limit)
    (htime : OnTime organization_id rows arrival) (claimed : Option String)
    (hs : Waiting organization_id limit rows s) :
    (service.serve arrival.call.command claimed).wp (watched organization_id limit arrival).environment
      (watched organization_id limit arrival).emit (Prog.ends (fun _ => Ended organization_id limit arrival rows)
        fun _ => Ended organization_id limit arrival rows) s := by
  have hlook : (service.lookUpCache arrival.call.command).Asks Passive := by
    unfold CreateResponse.lookUpCache
    split_ifs
    · exact (cacheGet_asks _ _).mono fun _ => OnKey.passive
    · trivial
  refine Prog.wp_seq (passive_wp hlook Waiting.keeps hs) (fun looked s hs => ?_) fun _ _ hs => .inl hs
  cases looked with
  | some payload =>
    refine Prog.wp_seq (enforce_wp h _ hs) (fun _ s hs => ?_) fun _ _ hs => .inl hs
    refine Prog.wp_bind (Prog.wp_ofExcept ?_)
    cases deserializeResponse payload with
    | error err => exact .inl hs.waiting
    | ok response =>
      refine Prog.wp_seq (passive_wp (completeClaim_passive service claimed _) Ended.keeps (.inl hs.waiting))
        (fun _ s hs => ?_) fun _ _ hs => hs
      exact Prog.wp_seq (passive_wp (success_passive _ _ _ _) Ended.keeps hs) (fun _ _ hs => hs) fun _ _ hs => hs
  | none =>
    refine Prog.wp_catching (Prog.wp_mono (Prog.ends_mono (fun _ _ hs => hs)
      fun err s hs => passive_wp (abandon_passive claimed err) Ended.keeps hs) ?_)
    unfold CreateResponse.generate
    rw [execute_eq]
    refine Prog.wp_seq (M := fun _ => Cleared organization_id limit arrival rows)
      (N := fun _ => Waiting organization_id limit rows) ?_
      (fun execution s hs => finish_ends service hlimit htime claimed execution hs) fun _ _ hs => .inl hs
    refine Prog.wp_seq (search_checked h (fun provider request => ?_) service.provider_executor hs)
      (fun _ _ hs => hs) fun _ _ hs => hs
    exact Prog.Asks.bind ⟨rfl, fun _ => trivial⟩ fun _ => Prog.Asks.ofExcept _

theorem execute_ends (h : OwnCall organization_id limit arrival) (hlimit : 0 < limit)
    (htime : OnTime organization_id rows arrival) (hs : Waiting organization_id limit rows s) :
    (service.execute arrival.call.command).wp (watched organization_id limit arrival).environment
      (watched organization_id limit arrival).emit (Prog.ends (fun _ => Ended organization_id limit arrival rows)
        fun _ => Ended organization_id limit arrival rows) s := by
  have hconsume : (service.rate_limiter.consume arrival.call.command.organization_id).Asks Passive :=
    (consume_asks _ _).mono fun c _ => by cases c <;> trivial
  have hrefuse : ∀ err : Exn, (recordGenerationError.bind fun _ =>
      (.raise err : Action GenerationResponse)).Asks Passive := fun _ => ⟨trivial, fun _ => trivial⟩
  refine Prog.wp_seq (passive_wp hconsume Waiting.keeps hs) (fun decision s hs => ?_) fun _ _ hs => .inl hs
  cases decision.allowed with
  | false => exact passive_wp (hrefuse _) Ended.keeps (.inl hs)
  | true =>
    simp only [Bool.not_true, Bool.false_eq_true, ↓reduceIte]
    cases arrival.call.command.idempotency_key with
    | none => exact serve_ends service h hlimit htime none hs
    | some key =>
      refine Prog.wp_seq (passive_wp ((begin_asks _ _ key).mono fun _ => OnKey.passive) Waiting.keeps hs)
        (fun begun s hs => ?_) fun _ _ hs => .inl hs
      cases begun with
      | miss => exact serve_ends service h hlimit htime (some key) hs
      | inProgress => exact passive_wp (hrefuse _) Ended.keeps (.inl hs)
      | completed payload =>
        have hreplay : (CreateResponse.replay arrival.call.command payload).Asks Passive :=
          Prog.Asks.bind (Prog.Asks.ofExcept _) fun _ => Prog.Asks.bind (success_passive _ _ _ _) fun _ => trivial
        exact passive_wp hreplay Ended.keeps (.inl hs)

abbrev emits (organization_id : UUID) (limit : ℤ) (arrival : Arrival) :
    Session × Checks → GenerationStreamEvent → Session × Checks :=
  ((streaming arrival.given).watched ((checks organization_id limit).step arrival)).emit

theorem lifted_wp {α : Type} {p : Action α} {Q : Except Exn α → Session × Checks → Prop}
    (h : p.wp (watched organization_id limit arrival).environment (watched organization_id limit arrival).emit Q s) :
    (p.lift : Gen GenerationStreamEvent α).wp (watched organization_id limit arrival).environment
      (emits organization_id limit arrival) Q s :=
  Prog.wp_lift h

def Streaming (organization_id : UUID) (limit : ℤ) (arrival : Arrival) (rows : List UsageRecord)
    (s : Session × Checks) : Prop :=
  Cleared organization_id limit arrival rows s ∨ Spent organization_id limit arrival rows s

theorem Streaming.ended (hs : Streaming organization_id limit arrival rows s) :
    Ended organization_id limit arrival rows s :=
  hs.imp Cleared.waiting id

theorem passOn_wp (hlimit : 0 < limit) (htime : OnTime organization_id rows arrival) (item : ProviderStreamEvent)
    (hs : Streaming organization_id limit arrival rows s) :
    (service.passOn arrival.call.command item).wp (watched organization_id limit arrival).environment
      (emits organization_id limit arrival) (Prog.ends (fun _ => Streaming organization_id limit arrival rows)
        fun _ => Ended organization_id limit arrival rows) s := by
  obtain ⟨payload, route⟩ := item
  cases payload with
  | delta d =>
    refine hs.imp (fun hs => ?_) fun hs => ?_
    · exact ⟨⟨⟨hs.waiting.safe.visited, hs.waiting.safe.current, hs.waiting.safe.unchecked⟩, hs.waiting.rows_eq⟩,
        hs.cleared, hs.room⟩
    · exact ⟨⟨hs.safe.visited, hs.safe.current, hs.safe.unchecked⟩, hs.row⟩
  | response response =>
    refine Prog.wp_seq (lifted_wp (recordUsage_wp service hlimit htime route.provider response hs)) (fun _ s hs => ?_)
      fun _ _ hs => hs
    refine Prog.wp_seq (lifted_wp (passive_wp (success_passive _ _ _ _) Spent.keeps hs)) (fun _ s hs => ?_)
      fun _ _ hs => .inr hs
    exact .inr ⟨⟨hs.safe.visited, hs.safe.current, hs.safe.unchecked⟩, hs.row⟩

theorem stream_ends (h : OwnCall organization_id limit arrival) (hlimit : 0 < limit)
    (htime : OnTime organization_id rows arrival) (hs : Waiting organization_id limit rows s) :
    (service.stream arrival.call.command).wp (watched organization_id limit arrival).environment
      (emits organization_id limit arrival) (Prog.ends (fun _ => Ended organization_id limit arrival rows)
        fun _ => Ended organization_id limit arrival rows) s := by
  have hconsume : (service.rate_limiter.consume arrival.call.command.organization_id).Asks Passive :=
    (consume_asks _ _).mono fun c _ => by cases c <;> trivial
  unfold CreateResponse.stream
  split_ifs
  · exact .inl hs
  · refine Prog.wp_seq (lifted_wp (passive_wp hconsume Waiting.keeps hs)) (fun decision s hs => ?_)
      fun _ _ hs => .inl hs
    cases decision.allowed with
    | false => exact .inl hs
    | true =>
      simp only [Bool.not_true, Bool.false_eq_true, ↓reduceIte]
      rw [stream_eq, Prog.forEach_lift_bind]
      have hopen : ∀ provider request, (openOnce provider request).Asks fun c => c.isProviderCall = true :=
        fun _ _ => Prog.Asks.bind ⟨rfl, fun _ => trivial⟩ fun _ => Prog.Asks.ofExcept _
      refine Prog.wp_bind (lifted_wp (Prog.wp_attempt
        (Prog.wp_mono ?_ (search_checked h hopen service.provider_executor hs))))
      intro o s hs
      cases o with
      | error err => exact .inl hs
      | ok served =>
        refine Prog.wp_forEach_ofEvents (fun _ _ => Streaming organization_id limit arrival rows)
          (fun item _ _ _ hs => passOn_wp service hlimit htime item hs) (fun _ s hs => ?_) (.inl hs)
        refine Prog.wp_ofExcept ?_
        cases served.1.ending <;> exact hs.ended

end Calls

section Foreign

variable {organization_id : UUID} {limit : ℤ} {arrival : Arrival} {rows : List UsageRecord}

/-- Another organization's call: the quota is kept, and the organization has the rows it had. -/
structure Aside (organization_id : UUID) (limit : ℤ) (rows : List UsageRecord) (s : Session × Checks) : Prop where
  safe : Safe organization_id limit s
  own : ∀ r ∈ s.1.world.usage_records.rows, r.organization_id = organization_id → r ∈ rows

theorem answer_rows (given : Circumstances) (s : Session) (c : Command) :
    (answer given s c).2.world.usage_records.rows = s.world.usage_records.rows ∨
      ∃ record, c = .addUsage record ∧
        (answer given s c).2.world.usage_records.rows = s.world.usage_records.rows ++ [record] := by
  cases c with
  | addUsage record =>
    cases hreaches : UsageConservation.reachesTable given s record with
    | true => exact .inr ⟨record, rfl, (UsageConservation.insert_reaches hreaches).2⟩
    | false => exact .inl (congrArg Table.rows (UsageConservation.insert_misses hreaches).1)
  | generate provider request => exact .inl rfl
  | stream provider request => exact .inl rfl
  | _ => exact .inl (congrArg Table.rows (UsageConservation.answer_usage given s trivial))

theorem foreign_step {other : UUID} (hother : other ≠ organization_id)
    (hforeign : arrival.call.command.organization_id ≠ organization_id) {c : Command} (hc : Scoped other c)
    {s : Session × Checks} (hs : Aside organization_id limit rows s) :
    Aside organization_id limit rows ((watched organization_id limit arrival).answer s c).2 := by
  have hghost : ∀ (r : Response c) (s' : Session),
      ((checks organization_id limit).step arrival s.1 c r s' s.2).visited =
        s'.world.usage_records.rows :: s.2.visited ∧
      ((checks organization_id limit).step arrival s.1 c r s' s.2).unchecked = s.2.unchecked := by
    intro r s'
    cases c with
    | sumTokens o start stop => cases r <;> exact ⟨rfl, rfl⟩
    | addUsage record =>
      change (Checks.sees _ (if _ then _ else _)).visited = _ ∧ (Checks.sees _ (if _ then _ else _)).unchecked = _
      split_ifs <;> exact ⟨rfl, rfl⟩
    | generate provider request =>
      refine ⟨rfl, ?_⟩
      change (s.2.unchecked || _) = _
      rw [decide_eq_false hforeign, Bool.false_and, Bool.or_false]
    | stream provider request =>
      refine ⟨rfl, ?_⟩
      change (s.2.unchecked || _) = _
      rw [decide_eq_false hforeign, Bool.false_and, Bool.or_false]
    | _ => exact ⟨rfl, rfl⟩
  obtain ⟨hvisited, hunchecked⟩ := hghost (answer arrival.given s.1 c).1 (answer arrival.given s.1 c).2
  have hquota : WithinQuota organization_id limit (answer arrival.given s.1 c).2.world.usage_records.rows ∧
      ∀ r ∈ (answer arrival.given s.1 c).2.world.usage_records.rows, r.organization_id = organization_id →
        r ∈ rows := by
    rcases answer_rows arrival.given s.1 c with hrows | ⟨record, rfl, hrows⟩
    · rw [hrows]
      exact ⟨hs.safe.current, hs.own⟩
    · have hrecord : record.organization_id ≠ organization_id := by
        have ho : record.organization_id = other := hc
        rw [ho]
        exact hother
      rw [hrows]
      refine ⟨hs.safe.current.other hrecord, fun r hr hown => ?_⟩
      rcases List.mem_append.mp hr with hr | hr
      · exact hs.own r hr hown
      · rw [List.mem_singleton.mp hr] at hown
        exact absurd hown hrecord
  exact ⟨hs.safe.sees hvisited hquota.1 (hunchecked.trans hs.safe.unchecked), hquota.2⟩

end Foreign

section Runs

variable {organization_id : UUID} {limit : ℤ}

/-- The clock never runs back, within a call or from one call to the next. -/
structure ClockForward (arrivals : List Arrival) : Prop where
  within : ∀ arrival ∈ arrivals, ∀ t t', t ≤ t' → (arrival.given.utcNow t).val ≤ (arrival.given.utcNow t').val
  across : arrivals.Pairwise fun a b => ∀ t t', (a.given.utcNow t).val ≤ (b.given.utcNow t').val

def FixedLimit (organization_id : UUID) (limit : ℤ) (arrivals : List Arrival) : Prop :=
  ∀ arrival ∈ arrivals, arrival.call.command.organization_id = organization_id → ∀ tick policy,
    arrival.given.policy tick = .ok policy → policy.monthly_token_limit = some limit

/-- Between two calls: what is so far, and that the clock has passed the organization's rows. -/
structure Between (organization_id : UUID) (limit : ℤ) (arrivals : List Arrival) (w : World) (g : Checks) : Prop where
  visited : ∀ rows ∈ g.visited, WithinQuota organization_id limit rows
  current : WithinQuota organization_id limit w.usage_records.rows
  unchecked : g.unchecked = false
  behind : ∀ arrival ∈ arrivals, ∀ r ∈ w.usage_records.rows, r.organization_id = organization_id → ∀ t,
    r.created_at ≤ (arrival.given.utcNow t).val

theorem own_call (service : CreateResponse) (hlimit : 0 < limit) {arrival : Arrival} {rest : List Arrival}
    (hown : OwnCall organization_id limit arrival) (hclock : ClockForward (arrival :: rest)) {w : World} {g : Checks}
    (h : Between organization_id limit (arrival :: rest) w g) :
    Between organization_id limit rest (observe service (checks organization_id limit) arrival w g).2.1
      (observe service (checks organization_id limit) arrival w g).2.2 := by
  have htime : OnTime organization_id w.usage_records.rows arrival :=
    ⟨hclock.within arrival List.mem_cons_self, h.behind arrival List.mem_cons_self⟩
  have hstart : Waiting organization_id limit w.usage_records.rows
      (Session.start w, (checks organization_id limit).reset g) := ⟨⟨h.visited, h.current, h.unchecked⟩, rfl⟩
  have hend : ∀ s : Session × Checks, Ended organization_id limit arrival w.usage_records.rows s →
      Between organization_id limit rest s.1.world s.2 := by
    intro s hs
    rcases hs with hs | hs
    · refine ⟨hs.safe.visited, hs.safe.current, hs.safe.unchecked, fun later hlater r hr => ?_⟩
      rw [hs.rows_eq] at hr
      exact h.behind later (List.mem_cons_of_mem _ hlater) r hr
    · obtain ⟨record, tick, hrows, hat, -⟩ := hs.row
      refine ⟨hs.safe.visited, hs.safe.current, hs.safe.unchecked, fun later hlater r hr hown t => ?_⟩
      rw [hrows] at hr
      rcases List.mem_append.mp hr with hr | hr
      · exact h.behind later (List.mem_cons_of_mem _ hlater) r hr hown t
      · rw [List.mem_singleton.mp hr, hat]
        exact (List.pairwise_cons.mp hclock.across).1 later hlater tick t
  cases hcall : arrival.call with
  | execute command =>
    have hcommand : arrival.call.command = command := congrArg Call.command hcall
    have hwp := execute_ends service hown hlimit htime hstart
    rw [hcommand] at hwp
    obtain ⟨r, s, hobserved, hended⟩ := observe_execute hcall hwp
    rw [hobserved]
    exact hend s (by cases r <;> exact hended)
  | stream command =>
    have hcommand : arrival.call.command = command := congrArg Call.command hcall
    have hwp := stream_ends service hown hlimit htime hstart
    rw [hcommand] at hwp
    obtain ⟨r, s, hobserved, hended⟩ := observe_stream hcall hwp
    rw [hobserved]
    exact hend s (by cases r <;> exact hended)

theorem foreign_call (service : CreateResponse) {arrival : Arrival} {rest : List Arrival}
    (hforeign : arrival.call.command.organization_id ≠ organization_id) {w : World} {g : Checks}
    (h : Between organization_id limit (arrival :: rest) w g) :
    Between organization_id limit rest (observe service (checks organization_id limit) arrival w g).2.1
      (observe service (checks organization_id limit) arrival w g).2.2 := by
  have hstart : Aside organization_id limit w.usage_records.rows
      (Session.start w, (checks organization_id limit).reset g) :=
    ⟨⟨h.visited, h.current, h.unchecked⟩, fun _ hr _ => hr⟩
  have hend : ∀ s : Session × Checks, Aside organization_id limit w.usage_records.rows s →
      Between organization_id limit rest s.1.world s.2 := fun s hs =>
    ⟨hs.safe.visited, hs.safe.current, hs.safe.unchecked, fun later hlater r hr hown t =>
      h.behind later (List.mem_cons_of_mem _ hlater) r (hs.own r hr hown) hown t⟩
  have hkeeps : ∀ c, Scoped arrival.call.command.organization_id c →
      (watched organization_id limit arrival).environment.Keeps (Aside organization_id limit w.usage_records.rows) c :=
    fun c hc => Prog.keeps_handler fun s hs => foreign_step hforeign hforeign hc hs
  cases hcall : arrival.call with
  | execute command =>
    have hcommand : arrival.call.command = command := congrArg Call.command hcall
    rw [hcommand] at hkeeps
    obtain ⟨r, s, hobserved, hended⟩ := observe_execute hcall
      (Prog.wp_of_asks (execute_scoped service command) hkeeps (fun _ e _ => e.elim) hstart)
    rw [hobserved]
    exact hend s hended
  | stream command =>
    have hcommand : arrival.call.command = command := congrArg Call.command hcall
    rw [hcommand] at hkeeps
    have hemit : ∀ s e, Aside organization_id limit w.usage_records.rows s →
        Aside organization_id limit w.usage_records.rows (emits organization_id limit arrival s e) :=
      fun s e hs => ⟨⟨hs.safe.visited, hs.safe.current, hs.safe.unchecked⟩, hs.own⟩
    obtain ⟨r, s, hobserved, hended⟩ := observe_stream hcall
      (Prog.wp_of_asks (stream_scoped service command) hkeeps hemit hstart)
    rw [hobserved]
    exact hend s hended

theorem run_keeps (service : CreateResponse) (hlimit : 0 < limit) {arrivals : List Arrival}
    (hpolicy : FixedLimit organization_id limit arrivals) (hclock : ClockForward arrivals) {w : World} {g : Checks}
    (h : Between organization_id limit arrivals w g) :
    Between organization_id limit [] (observeAll service (checks organization_id limit) arrivals w g).2.1
      (observeAll service (checks organization_id limit) arrivals w g).2.2 := by
  induction arrivals generalizing w g with
  | nil => exact h
  | cons arrival rest ih =>
    have hrest : ClockForward rest :=
      ⟨fun a ha => hclock.within a (List.mem_cons_of_mem _ ha), (List.pairwise_cons.mp hclock.across).2⟩
    refine ih (fun a ha => hpolicy a (List.mem_cons_of_mem _ ha)) hrest ?_
    by_cases hown : arrival.call.command.organization_id = organization_id
    · exact own_call service hlimit ⟨hown, hpolicy arrival List.mem_cons_self hown⟩ hclock h
    · exact foreign_call service hown h

def noChecks : Checks := ⟨none, false, false, []⟩

/-- In every run with a forward clock, from no usage rows and under a fixed limit, no provider attempt of the
organization is made without a passed check since the last row, and no state goes over the limit by more than
the last row of a month. -/
theorem quota_overshoots_by_one_row (service : CreateResponse) (organization_id : UUID) (limit : ℤ) (hlimit : 0 < limit)
    (arrivals : List Arrival) (hpolicy : FixedLimit organization_id limit arrivals) (hclock : ClockForward arrivals)
    (w : World) (hempty : w.usage_records.rows = []) :
    (observeAll service (checks organization_id limit) arrivals w noChecks).2.2.unchecked = false ∧
      ∀ rows ∈ (observeAll service (checks organization_id limit) arrivals w noChecks).2.2.visited,
        WithinQuota organization_id limit rows := by
  have hstart : Between organization_id limit arrivals w noChecks := by
    refine ⟨fun rows hrows => (nomatch hrows), ?_, rfl, fun arrival _ r hr => ?_⟩
    · rw [hempty]
      exact withinQuota_nil hlimit
    · rw [hempty] at hr
      cases hr
  obtain ⟨hvisited, -, hunchecked, -⟩ := run_keeps service hlimit hpolicy hclock hstart
  exact ⟨hunchecked, hvisited⟩

/-- A limit of fifteen tokens on an organization whose responses take ten each. -/
def limited (seed : ℕ) : Circumstances :=
  { calm seed (uuid 2) UsageConservation.tenTokens with policy := fun _ => .ok ⟨uuid 2, some 15, by decide⟩ }

def threeRequests : List Arrival :=
  [⟨.execute (sampleCommand plainRequest (uuid 2) "req-1" none), limited 100⟩,
    ⟨.stream (sampleCommand plainRequest (uuid 2) "req-2" none), limited 200⟩,
    ⟨.execute (sampleCommand plainRequest (uuid 2) "req-3" none), limited 300⟩]

theorem threeRequests_limited : ∀ arrival ∈ threeRequests, ∃ seed, arrival.given = limited seed := by
  intro arrival harrival
  simp only [threeRequests, List.mem_cons, List.not_mem_nil, or_false] at harrival
  rcases harrival with rfl | rfl | rfl
  · exact ⟨100, rfl⟩
  · exact ⟨200, rfl⟩
  · exact ⟨300, rfl⟩

theorem threeRequests_policy : FixedLimit (uuid 2) 15 threeRequests := by
  intro arrival harrival _ tick policy hpolicy
  obtain ⟨seed, hgiven⟩ := threeRequests_limited arrival harrival
  rw [hgiven] at hpolicy
  cases hpolicy
  rfl

theorem threeRequests_clock : ClockForward threeRequests := by
  have hnoon : ∀ arrival ∈ threeRequests, ∀ t, arrival.given.utcNow t = noon := by
    intro arrival harrival t
    obtain ⟨seed, hgiven⟩ := threeRequests_limited arrival harrival
    rw [hgiven]
    rfl
  refine ⟨fun arrival harrival t t' _ => ?_, List.pairwise_of_forall_mem_list fun a ha b hb t t' => ?_⟩
  · rw [hnoon arrival harrival t, hnoon arrival harrival t']
    exact Int.le_refl _
  · rw [hnoon a ha t, hnoon b hb t']
    exact Int.le_refl _

theorem quota_overshoots_in_threeRequests :
    (observeAll sampleService (checks (uuid 2) 15) threeRequests emptyWorld noChecks).2.2.unchecked = false ∧
      ∀ rows ∈ (observeAll sampleService (checks (uuid 2) 15) threeRequests emptyWorld noChecks).2.2.visited,
        WithinQuota (uuid 2) 15 rows :=
  quota_overshoots_by_one_row sampleService (uuid 2) 15 (by decide) threeRequests threeRequests_policy
    threeRequests_clock emptyWorld rfl

end Runs

end AIRuntime.QuotaOvershoot
