import AIRuntime.RedisAdapters

set_option autoImplicit false

/-!
The two servers every call shares. A Redis command acts on one key and forgets it past its deadline;
a database table refuses a row that repeats a unique column.
-/
namespace AIRuntime.SharedStores

open Failures CivilTime Identifiers AccountingRecords Collaborators RedisAdapters

/-- How a server may fail to answer: before it acted, or after. -/
inductive Fault (ε : Type) where
  | none
  | refused (err : ε)
  | unanswered (err : ε)

def Fault.apply {ε α S : Type} (fault : Fault ε) (s : S) (acted : Except ε α × S) : Except ε α × S :=
  match fault with
  | .none => acted
  | .refused err => (.error err, s)
  | .unanswered err => (.error err, acted.2)

section Redis

inductive RedisValue where
  | text (value : String)
  | bucket (data : Bucket)
deriving DecidableEq

structure RedisEntry where
  value : RedisValue
  deadline : ℚ
deriving DecidableEq

abbrev RedisServer := String → Option RedisEntry

def liveAt (now : ℚ) (cell : Option RedisEntry) : Option RedisValue :=
  match cell with
  | none => none
  | some entry => if now < entry.deadline then some entry.value else none

def RedisServer.onKey {α : Type} (server : RedisServer) (key : String)
    (act : Option RedisEntry → Except RedisError α × Option RedisEntry) : Except RedisError α × RedisServer :=
  ((act (server key)).1, fun k => if k = key then (act (server key)).2 else server k)

def wrongType : RedisError := ⟨"WRONGTYPE Operation against a key holding the wrong kind of value"⟩

/-- `SET key value [NX] EX ex`. -/
def setCell (now : ℚ) (value : String) (nx : Bool) (ex : ℤ) (cell : Option RedisEntry) :
    Except RedisError Bool × Option RedisEntry :=
  if ex ≤ 0 then (.error ⟨"invalid expire time in 'set' command"⟩, cell)
  else if nx && (liveAt now cell).isSome then (.ok false, cell)
  else (.ok true, some ⟨.text value, now + ex⟩)

def getCell (now : ℚ) (cell : Option RedisEntry) : Except RedisError (Option String) × Option RedisEntry :=
  match liveAt now cell with
  | none => (.ok none, none)
  | some (.text value) => (.ok (some value), cell)
  | some (.bucket _) => (.error wrongType, cell)

def deleteCell (_cell : Option RedisEntry) : Except RedisError Unit × Option RedisEntry := (.ok (), none)

/-- `EVAL` of the token bucket script; `now` is the time of the server, `clock` the caller's. -/
def evalBucketCell (now capacity refill_per_second clock requested : ℚ) (cell : Option RedisEntry) :
    Except RedisError (Bool × ℤ) × Option RedisEntry :=
  let run (data : Option Bucket) :=
    let result := tokenBucketScript capacity refill_per_second clock requested data
    ((.ok result.1 : Except RedisError (Bool × ℤ)),
      some ⟨.bucket result.2, now + tokenBucketTtl capacity refill_per_second⟩)
  match liveAt now cell with
  | none => run none
  | some (.bucket data) => run (some data)
  | some (.text _) => (.error wrongType, cell)

theorem RedisServer.onKey_other {α : Type} (server : RedisServer) {key k : String}
    (act : Option RedisEntry → Except RedisError α × Option RedisEntry) (h : k ≠ key) :
    (server.onKey key act).2 k = server k :=
  if_neg h

@[simp] theorem RedisServer.onKey_same {α : Type} (server : RedisServer) (key : String)
    (act : Option RedisEntry → Except RedisError α × Option RedisEntry) :
    (server.onKey key act).2 key = (act (server key)).2 :=
  if_pos rfl

theorem liveAt_some {now : ℚ} {entry : RedisEntry} (h : now < entry.deadline) :
    liveAt now (some entry) = some entry.value :=
  if_pos h

/-- Servers that agree on a key answer a command on it alike and agree on it afterwards. -/
theorem RedisServer.onKey_agree {α : Type} {server server' : RedisServer} {key : String}
    (act : Option RedisEntry → Except RedisError α × Option RedisEntry) (h : server key = server' key) :
    (server.onKey key act).1 = (server'.onKey key act).1 ∧
      ∀ k, server k = server' k → (server.onKey key act).2 k = (server'.onKey key act).2 k := by
  unfold RedisServer.onKey
  rw [h]
  refine ⟨rfl, ?_⟩
  intro k hk
  by_cases hkey : k = key
  · simp only [hkey, ↓reduceIte]
  · simp only [hkey, ↓reduceIte, hk]

end Redis

section Tables

/-- Rows no two of which clash. -/
structure Table (Row : Type) (clash : Row → Row → Bool) where
  rows : List Row
  ok : rows.Pairwise fun a b => clash a b = false

/-- An insert is refused when it clashes with a row that is there. -/
def Table.insert {Row : Type} {clash : Row → Row → Bool} (table : Table Row clash) (row : Row) :
    Option (Table Row clash) :=
  if h : table.rows.all (fun a => !clash a row) = true then
    some ⟨table.rows ++ [row], by
      refine List.pairwise_append.mpr ⟨table.ok, List.pairwise_singleton _ _, ?_⟩
      intro a ha b hb
      rw [List.mem_singleton.mp hb]
      have hall := List.all_eq_true.mp h a ha
      simpa using hall⟩
  else none

/-- The primary key and the unique `request_id` of `usage_records`. -/
def usageClash (a b : UsageRecord) : Bool := a.id = b.id || a.request_id = b.request_id

def auditClash (a b : AuditEvent) : Bool := a.id = b.id

theorem Table.insert_some {Row : Type} {clash : Row → Row → Bool} {table table' : Table Row clash} {row : Row}
    (h : table.insert row = some table') : table'.rows = table.rows ++ [row] := by
  unfold Table.insert at h
  split_ifs at h
  cases h
  rfl

theorem Table.mem_inserted {Row : Type} {clash : Row → Row → Bool} {table table' : Table Row clash} {row other : Row}
    (hinsert : table.insert row = some table') (h : other ∈ table'.rows) : other ∈ table.rows ∨ other = row := by
  rw [Table.insert_some hinsert] at h
  exact (List.mem_append.mp h).imp_right List.mem_singleton.mp

theorem Table.insert_free {Row : Type} {clash : Row → Row → Bool} {table table' : Table Row clash} {row : Row}
    (h : table.insert row = some table') : ∀ a ∈ table.rows, clash a row = false := by
  intro a ha
  unfold Table.insert at h
  split_ifs at h with hall
  simpa using List.all_eq_true.mp hall a ha

theorem Table.insert_isSome {Row : Type} {clash : Row → Row → Bool} {table : Table Row clash} {row : Row}
    (h : ∀ a ∈ table.rows, clash a row = false) : ∃ table', table.insert row = some table' := by
  have hall : table.rows.all (fun a => !clash a row) = true := by
    rw [List.all_eq_true]
    intro a ha
    rw [h a ha]
    rfl
  exact ⟨_, dif_pos hall⟩

theorem Table.insert_none {Row : Type} {clash : Row → Row → Bool} {table : Table Row clash} {row : Row}
    (h : table.insert row = none) : ∃ a ∈ table.rows, clash a row = true := by
  by_contra hno
  have hfree : ∀ a ∈ table.rows, clash a row = false := by
    intro a ha
    cases hc : clash a row with
    | false => rfl
    | true => exact absurd ⟨a, ha, hc⟩ hno
  obtain ⟨table', hsome⟩ := Table.insert_isSome hfree
  rw [h] at hsome
  cases hsome

/-- `table'` has the same own rows as `table`, and no others that `table` has not. -/
structure Table.Agrees {Row : Type} {clash : Row → Row → Bool} (own : Row → Bool)
    (table table' : Table Row clash) : Prop where
  own : table.rows.filter own = table'.rows.filter own
  others : ∀ a ∈ table'.rows, a ∈ table.rows

theorem Table.Agrees.refl {Row : Type} {clash : Row → Row → Bool} (own : Row → Bool) (table : Table Row clash) :
    Table.Agrees own table table :=
  ⟨rfl, fun _ h => h⟩

/-- A row that clashes with nobody else's is accepted by both tables or by neither. -/
theorem Table.Agrees.insert {Row : Type} {clash : Row → Row → Bool} {own : Row → Bool}
    {table table' : Table Row clash} {row : Row} (h : Table.Agrees own table table')
    (hfree : ∀ a ∈ table.rows, own a = false → clash a row = false) :
    (table.insert row = none ∧ table'.insert row = none) ∨
      ∃ after after', table.insert row = some after ∧ table'.insert row = some after' ∧
        Table.Agrees own after after' := by
  have clashing : ∀ {t t' : Table Row clash}, t.rows.filter own = t'.rows.filter own → ∀ a ∈ t.rows,
      own a = true → a ∈ t'.rows := by
    intro t t' heq a ha hown
    have hmem : a ∈ t.rows.filter own := List.mem_filter.mpr ⟨ha, hown⟩
    rw [heq] at hmem
    exact (List.mem_filter.mp hmem).1
  cases hins : table.insert row with
  | none =>
    left
    refine ⟨rfl, ?_⟩
    obtain ⟨a, ha, hclash⟩ := Table.insert_none hins
    cases hown : own a with
    | false =>
      rw [hfree a ha hown] at hclash
      cases hclash
    | true =>
      have ha' := clashing h.own a ha hown
      cases hins' : table'.insert row with
      | none => rfl
      | some after' => exact absurd hclash (by rw [Table.insert_free hins' a ha']; decide)
  | some after =>
    right
    have hfree' : ∀ a ∈ table'.rows, clash a row = false := fun a ha =>
      Table.insert_free hins a (h.others a ha)
    obtain ⟨after', hins'⟩ := Table.insert_isSome hfree'
    refine ⟨after, after', rfl, hins', ?_, ?_⟩
    · rw [Table.insert_some hins, Table.insert_some hins', List.filter_append, List.filter_append, h.own]
    · intro a ha
      rw [Table.insert_some hins'] at ha
      rw [Table.insert_some hins]
      rcases List.mem_append.mp ha with ha | ha
      · exact List.mem_append_left _ (h.others a ha)
      · exact List.mem_append_right _ ha

theorem Table.Agrees.insert_other {Row : Type} {clash : Row → Row → Bool} {own : Row → Bool}
    {table table' after : Table Row clash} {row : Row} (h : Table.Agrees own table table')
    (hrow : own row = false) (hins : table.insert row = some after) : Table.Agrees own after table' := by
  refine ⟨?_, ?_⟩
  · rw [Table.insert_some hins, List.filter_append, List.filter_cons_of_neg (by simp [hrow]), h.own]
    exact List.append_nil _
  · intro a ha
    rw [Table.insert_some hins]
    exact List.mem_append_left _ (h.others a ha)

def sumTokensInPeriod (rows : List UsageRecord) (organization_id : UUID) (start stop : DateTime) : ℤ :=
  ((rows.filter fun r => r.organization_id = organization_id && start ≤ r.created_at && r.created_at < stop).map
    UsageRecord.tokens).sum

theorem sumTokensInPeriod_append (rows : List UsageRecord) (row : UsageRecord) (organization_id : UUID)
    (start stop : DateTime) : sumTokensInPeriod (rows ++ [row]) organization_id start stop =
      sumTokensInPeriod rows organization_id start stop +
        if row.organization_id = organization_id ∧ start ≤ row.created_at ∧ row.created_at < stop then
          row.tokens else 0 := by
  unfold sumTokensInPeriod
  rw [List.filter_append, List.map_append, List.sum_append]
  by_cases h : row.organization_id = organization_id ∧ start ≤ row.created_at ∧ row.created_at < stop
  · rw [if_pos h, List.filter_cons_of_pos (by simp [h])]
    simp
  · rw [if_neg h, List.filter_cons_of_neg (by simpa [and_assoc] using h)]
    simp

theorem sumTokensInPeriod_own (rows : List UsageRecord) (organization_id : UUID) (start stop : DateTime) :
    sumTokensInPeriod (rows.filter fun r => r.organization_id = organization_id) organization_id start stop =
      sumTokensInPeriod rows organization_id start stop := by
  unfold sumTokensInPeriod
  rw [List.filter_filter]
  refine congrArg (fun l => (List.map UsageRecord.tokens l).sum) (List.filter_congr ?_)
  intro r _
  by_cases h : r.organization_id = organization_id
  · simp [h]
  · simp [h]

end Tables

structure World where
  redis : RedisServer
  usage_records : Table UsageRecord usageClash
  audit_events : Table AuditEvent auditClash

namespace World

def addUsage (w : World) (record : UsageRecord) : Except Exn Unit × World :=
  match w.usage_records.insert record with
  | some usage_records => (.ok (), { w with usage_records := usage_records })
  | none => (.error integrityError, w)

def addAudit (w : World) (event : AuditEvent) : Except Exn Unit × World :=
  match w.audit_events.insert event with
  | some audit_events => (.ok (), { w with audit_events := audit_events })
  | none => (.error integrityError, w)

def onRedis {α : Type} (w : World) (key : String)
    (act : Option RedisEntry → Except RedisError α × Option RedisEntry) : Except RedisError α × World :=
  ((w.redis.onKey key act).1, { w with redis := (w.redis.onKey key act).2 })

end World

end AIRuntime.SharedStores
