import AIRuntime.EffectInterleaving
import AIRuntime.PromptRecords
import AIRuntime.SharedStores
import AIRuntime.Traversals
import Mathlib.Data.List.Nodup

set_option autoImplicit false

/-! Any number of calls that create versions of one prompt at the same time. -/
namespace AIRuntime.PromptVersions

open Traversals EffectPrograms PythonText Failures Identifiers SharedStores PromptRecords

variable {ι : Type}

section Store

/-- The primary key of `prompt_templates` and its unique columns. -/
def promptClash (a b : PromptTemplateRow) : Bool :=
  a.id = b.id || (a.organization_id = b.organization_id && a.name = b.name && a.version = b.version)

/-- `organizations` says which foreign keys exist. -/
structure PromptStore where
  prompts : Table PromptTemplateRow promptClash
  organizations : UUID → Bool

def PromptStore.own (w : PromptStore) (organization_id : UUID) (name : String) : List PromptTemplateRow :=
  w.prompts.rows.filter fun row => row.organization_id = organization_id && row.name = name

def PromptStore.insert (w : PromptStore) (row : PromptTemplateRow) : Option (Table PromptTemplateRow promptClash) :=
  if w.organizations row.organization_id then w.prompts.insert row else none

/-- `order_by(version.desc()).limit(1)`. -/
def IsLatest (rows : List PromptTemplateRow) (latest : Option PromptTemplateRow) : Prop :=
  match latest with
  | none => rows = []
  | some row => row ∈ rows ∧ ∀ other ∈ rows, other.version ≤ row.version

def CarriesOut (w : PromptStore) (c : PromptCommand) (r : PromptResponse c) (w' : PromptStore) : Prop :=
  match c, r with
  | .uuid4, _ => w' = w
  | .utcNow, _ => w' = w
  | .maxVersion organization_id name, r =>
    r = .ok ((w.own organization_id name).map PromptTemplateRow.version).max? ∧ w' = w
  | .insertCommit row, r =>
    match w.insert row with
    | none => r = .error integrityError ∧ w' = w
    | some prompts => r = .ok () ∧ w' = { w with prompts := prompts }
  | .rollback, r => r = .ok () ∧ w' = w
  | .selectLatest organization_id name version, r =>
    (∃ latest, r = .ok latest ∧
      IsLatest ((w.own organization_id name).filter fun row => version.all (row.version = ·)) latest) ∧ w' = w
  | .selectAscending organization_id name, r =>
    (∃ rows, r = .ok rows ∧ rows.Perm (w.own organization_id name) ∧
      rows.Pairwise fun a b => a.version ≤ b.version) ∧ w' = w

def firstVersions (n : ℕ) : List ℤ := (List.range n).map fun k : ℕ => (k : ℤ) + 1

theorem firstVersions_succ (n : ℕ) : firstVersions (n + 1) = firstVersions n ++ [(n : ℤ) + 1] := by
  unfold firstVersions
  rw [List.range_succ, List.map_append]
  rfl

theorem mem_firstVersions {n : ℕ} {version : ℤ} : version ∈ firstVersions n ↔ 1 ≤ version ∧ version ≤ n := by
  unfold firstVersions
  rw [List.mem_map]
  constructor
  · rintro ⟨k, hk, rfl⟩
    have hlt := List.mem_range.mp hk
    omega
  · rintro ⟨hone, hle⟩
    exact ⟨(version - 1).toNat, List.mem_range.mpr (by omega), by omega⟩

theorem max_firstVersions (n : ℕ) : (firstVersions n).max?.getD 0 = n := by
  cases n with
  | zero => rfl
  | succ n =>
    have hmax : (firstVersions (n + 1)).max? = some ((n + 1 : ℕ) : ℤ) := by
      rw [List.max?_eq_some_iff]
      refine ⟨mem_firstVersions.mpr ⟨by omega, le_refl _⟩, ?_⟩
      intro version hversion
      exact (mem_firstVersions.mp hversion).2
    rw [hmax]
    rfl

theorem firstVersions_pairwise (n : ℕ) : (firstVersions n).Pairwise (· < ·) := by
  unfold firstVersions
  refine List.pairwise_map.mpr (List.pairwise_lt_range.imp ?_)
  intro a b hab
  omega

end Store

section Calls

inductive Phase where
  | fresh
  | read (latest : Option ℤ)
  | created (row : PromptTemplateRow)
  | conflicted

structure Note where
  messages : List PromptMessageTemplate
  phase : Phase

def Phase.after (phase : Phase) (c : PromptCommand) (r : PromptResponse c) : Phase :=
  match c, r with
  | .maxVersion _ _, .ok latest => .read latest
  | .insertCommit row, .ok _ => .created row
  | .insertCommit _, .error _ => .conflicted
  | _, _ => phase

def Note.after (note : Note) (c : PromptCommand) (r : PromptResponse c) : Note :=
  ⟨note.messages, note.phase.after c r⟩

structure Next (organization_id : UUID) (name : String) (note : Note) (latest : Option ℤ)
    (row : PromptTemplateRow) : Prop where
  organization : row.organization_id = organization_id
  name : row.name = name
  version : row.version = latest.getD 0 + 1
  messages : row.messages = note.messages.map messageItem

/-- A call reads once, writes once and asks nothing when its row is there. -/
def May (organization_id : UUID) (name : String) (note : Note) : PromptCommand → Prop
  | .uuid4 | .utcNow => ∃ latest, note.phase = .read latest
  | .maxVersion id text => id = organization_id ∧ text = name ∧ note.phase = .fresh
  | .insertCommit row => ∃ latest, note.phase = .read latest ∧ Next organization_id name note latest row
  | .rollback => note.phase = .conflicted
  | _ => False

def Expected : (c : PromptCommand) → PromptResponse c → Prop
  | .maxVersion _ _, r => ∃ latest, r = .ok latest ∧ 0 ≤ latest.getD 0
  | .insertCommit _, r => r = .ok () ∨ r = .error integrityError
  | .rollback, r => r = .ok ()
  | _, _ => True

def creating (organization_id : UUID) (name : String) : Environment PromptCommand PromptResponse Note where
  may := May organization_id name
  reply := fun note c r note' => Expected c r ∧ note' = note.after c r

/-- A call returns the row it inserted, or raises a conflict and has inserted none. -/
def Outcome (name : String) : Except PromptExn PromptTemplate → Note → Prop :=
  Prog.ends
    (fun template note => ∃ row, note.phase = .created row ∧ toDomain row = .ok template ∧
      template.messages = note.messages)
    fun err note => (err = .versionConflict ∧ note.phase = .conflicted) ∨
      ∃ message, requestProblem name note.messages = some message ∧ err = .failed (.domainValidation message) ∧
        note.phase = .fresh

theorem requestProblem_none {name : String} {messages : List PromptMessageTemplate} {version : ℤ}
    (h : requestProblem name messages = none) (hversion : 1 ≤ version) :
    PromptTemplate.problem name version messages = none := by
  unfold requestProblem at h
  rw [Option.or_eq_none_iff] at h
  unfold PromptTemplate.problem
  rw [h.1, Option.none_or, if_neg (by omega)]
  exact h.2

theorem createVersion_obeys {organization_id : UUID} {name : String} {messages : List PromptMessageTemplate}
    (h : requestProblem name messages = none) :
    (createVersion organization_id name messages).wp (creating organization_id name) (fun note _ => note)
      (Outcome name) ⟨messages, .fresh⟩ := by
  refine Prog.wp_ask ⟨rfl, rfl, rfl⟩ ?_
  rintro r note ⟨⟨latest, rfl, hlatest⟩, rfl⟩
  simp only [raising_ok, Prog.bind_eq, Prog.done_bind]
  refine Prog.wp_ask ⟨latest, rfl⟩ ?_
  rintro id note ⟨-, rfl⟩
  refine Prog.wp_ask ⟨latest, rfl⟩ ?_
  rintro created_at note ⟨-, rfl⟩
  refine Prog.wp_ask ⟨latest, rfl, rfl, rfl, rfl, rfl⟩ ?_
  rintro r note ⟨hr, rfl⟩
  rcases hr with rfl | rfl
  · have hversion : 1 ≤ latest.getD 0 + 1 := by omega
    obtain ⟨template, htemplate, -, hsame⟩ := @toDomain_ok
      ⟨id, organization_id, name, latest.getD 0 + 1, messages.map messageItem, created_at.val⟩ messages rfl
      (requestProblem_none h hversion)
    simp only [htemplate, raising_ok]
    exact ⟨_, rfl, htemplate, hsame⟩
  · simp only [↓reduceIte]
    refine Prog.wp_ask rfl ?_
    rintro r note ⟨rfl, rfl⟩
    exact .inl ⟨rfl, rfl⟩

theorem createPromptVersion_obeys (organization_id : UUID) (name : String) (messages : List PromptMessageTemplate) :
    (createPromptVersion organization_id name messages).wp (creating organization_id name) (fun note _ => note)
      (Outcome name) ⟨messages, .fresh⟩ := by
  unfold createPromptVersion
  cases h : requestProblem name messages with
  | none => exact createVersion_obeys h
  | some message => exact .inr ⟨message, h, rfl, rfl⟩

end Calls

section Runs

/-- The database carries out every command, one at a time; the rows of other prompts change as they like. -/
def concurrent (organization_id : UUID) (name : String) : Arbiter ι PromptCommand PromptResponse PromptStore where
  reply := fun _ => CarriesOut
  drift := fun w w' => w'.own organization_id name = w.own organization_id name

/-- What the calls have inserted: one row each, with the versions in order. -/
structure Sequence (organization_id : UUID) (name : String) (calls : ι → List PromptMessageTemplate)
    (w : PromptStore) (g : ι → Note) : Prop where
  versions : (w.own organization_id name).map PromptTemplateRow.version =
    firstVersions (w.own organization_id name).length
  same : ∀ i, (g i).messages = calls i
  known : ∀ i latest, (g i).phase = .read latest →
    0 ≤ latest.getD 0 ∧ latest.getD 0 ≤ (w.own organization_id name).length
  inserted : ∀ i row, (g i).phase = .created row → row ∈ w.own organization_id name
  once : ∀ i j row, (g i).phase = .created row → (g j).phase = .created row → i = j
  origin : ∀ row ∈ w.own organization_id name, ∃ i, (g i).phase = .created row

variable {organization_id : UUID} {name : String} {calls : ι → List PromptMessageTemplate} {w w' : PromptStore}
  {g : ι → Note} {i : ι}

theorem own_insert {row : PromptTemplateRow} {prompts : Table PromptTemplateRow promptClash}
    (hinsert : w.insert row = some prompts) (horganization : row.organization_id = organization_id)
    (hname : row.name = name) :
    PromptStore.own { w with prompts := prompts } organization_id name = w.own organization_id name ++ [row] := by
  unfold PromptStore.insert at hinsert
  split_ifs at hinsert
  unfold PromptStore.own
  rw [Table.insert_some hinsert, List.filter_append]
  congr 1
  simp [horganization, hname]

/-- The unique columns: no row of the prompt has the version of a row that was inserted. -/
theorem insert_new_version {row other : PromptTemplateRow} {prompts : Table PromptTemplateRow promptClash}
    (hinsert : w.insert row = some prompts) (horganization : row.organization_id = organization_id)
    (hname : row.name = name) (hother : other ∈ w.own organization_id name) : other.version ≠ row.version := by
  intro hversion
  unfold PromptStore.insert at hinsert
  split_ifs at hinsert
  obtain ⟨hmem, hown⟩ := List.mem_filter.mp hother
  have hfree := Table.insert_free hinsert other hmem
  simp only [Bool.and_eq_true, decide_eq_true_eq] at hown
  simp [promptClash, horganization, hname, hown, hversion] at hfree

variable [DecidableEq ι]

theorem update_messages (phase : Phase) (h : ∀ i, (g i).messages = calls i) (j : ι) :
    (Function.update g i ⟨(g i).messages, phase⟩ j).messages = calls j := by
  by_cases hj : j = i
  · subst hj
    rw [Function.update_self]
    exact h j
  · rw [Function.update_of_ne hj]
    exact h j

theorem update_phase {phase phase' : Phase} {j : ι}
    (h : (Function.update g i ⟨(g i).messages, phase⟩ j).phase = phase') :
    (j = i ∧ phase = phase') ∨ (g j).phase = phase' := by
  by_cases hj : j = i
  · subst hj
    rw [Function.update_self] at h
    exact .inl ⟨rfl, h⟩
  · rw [Function.update_of_ne hj] at h
    exact .inr h

theorem Sequence.move (h : Sequence organization_id name calls w g) {phase : Phase}
    (hown : w'.own organization_id name = w.own organization_id name)
    (hread : ∀ latest, phase = .read latest →
      0 ≤ latest.getD 0 ∧ latest.getD 0 ≤ (w.own organization_id name).length)
    (hphase : ∀ row, phase = .created row ↔ (g i).phase = .created row) :
    Sequence organization_id name calls w' (Function.update g i ⟨(g i).messages, phase⟩) := by
  have hsame : ∀ j row, (Function.update g i ⟨(g i).messages, phase⟩ j).phase = .created row ↔
      (g j).phase = .created row := by
    intro j row
    by_cases hj : j = i
    · subst hj
      rw [Function.update_self]
      exact hphase row
    · rw [Function.update_of_ne hj]
  constructor
  · rw [hown]
    exact h.versions
  · exact update_messages phase h.same
  · rw [hown]
    intro j latest hj
    by_cases heq : j = i
    · subst heq
      rw [Function.update_self] at hj
      exact hread latest hj
    · rw [Function.update_of_ne heq] at hj
      exact h.known j latest hj
  · rw [hown]
    intro j row hj
    exact h.inserted j row ((hsame j row).mp hj)
  · intro j k row hj hk
    exact h.once j k row ((hsame j row).mp hj) ((hsame k row).mp hk)
  · rw [hown]
    intro row hrow
    obtain ⟨j, hj⟩ := h.origin row hrow
    exact ⟨j, (hsame j row).mpr hj⟩

omit [DecidableEq ι] in
/-- By the unique columns the version that a call read is still the latest when its row goes in. -/
theorem Sequence.next_version (h : Sequence organization_id name calls w g) {latest : Option ℤ} {row : PromptTemplateRow}
    {prompts : Table PromptTemplateRow promptClash} (hread : (g i).phase = .read latest)
    (hnext : Next organization_id name (g i) latest row) (hinsert : w.insert row = some prompts) :
    row.version = ((w.own organization_id name).length : ℤ) + 1 := by
  obtain ⟨hpositive, hle⟩ := h.known i latest hread
  by_contra hne
  have hmem : row.version ∈ (w.own organization_id name).map PromptTemplateRow.version := by
    rw [h.versions, mem_firstVersions]
    have hrow := hnext.version
    omega
  obtain ⟨other, hother, hsame⟩ := List.mem_map.mp hmem
  exact insert_new_version hinsert hnext.organization hnext.name hother hsame

theorem Sequence.insert (h : Sequence organization_id name calls w g) {latest : Option ℤ} {row : PromptTemplateRow}
    {prompts : Table PromptTemplateRow promptClash} (hread : (g i).phase = .read latest)
    (hnext : Next organization_id name (g i) latest row) (hinsert : w.insert row = some prompts) :
    Sequence organization_id name calls { w with prompts := prompts }
      (Function.update g i ⟨(g i).messages, .created row⟩) := by
  have hown := own_insert hinsert hnext.organization hnext.name
  have habsent : row ∉ w.own organization_id name := fun hmem =>
    insert_new_version hinsert hnext.organization hnext.name hmem rfl
  constructor
  · rw [hown, List.map_append, List.length_append, h.versions]
    change firstVersions _ ++ [row.version] = firstVersions (_ + 1)
    rw [firstVersions_succ, h.next_version hread hnext hinsert]
  · exact update_messages _ h.same
  · intro j latest' hj
    rcases update_phase hj with ⟨-, hphase⟩ | hphase
    · cases hphase
    · obtain ⟨hpositive, hle⟩ := h.known j latest' hphase
      refine ⟨hpositive, ?_⟩
      rw [hown, List.length_append]
      push_cast
      omega
  · intro j other hj
    rw [hown]
    rcases update_phase hj with ⟨-, hphase⟩ | hphase
    · cases hphase
      exact List.mem_append_right _ List.mem_cons_self
    · exact List.mem_append_left _ (h.inserted j other hphase)
  · intro j k other hj hk
    rcases update_phase hj with ⟨hji, hrow⟩ | hjphase
    · rcases update_phase hk with ⟨hki, -⟩ | hkphase
      · exact hji.trans hki.symm
      · cases hrow
        exact absurd (h.inserted k row hkphase) habsent
    · rcases update_phase hk with ⟨-, hrow⟩ | hkphase
      · cases hrow
        exact absurd (h.inserted j row hjphase) habsent
      · exact h.once j k other hjphase hkphase
  · intro other hother
    rw [hown] at hother
    rcases List.mem_append.mp hother with hold | hlast
    · obtain ⟨j, hj⟩ := h.origin other hold
      refine ⟨j, ?_⟩
      have hne : j ≠ i := by
        rintro rfl
        rw [hread] at hj
        cases hj
      rw [Function.update_of_ne hne]
      exact hj
    · rw [List.mem_singleton.mp hlast]
      exact ⟨i, by rw [Function.update_self]⟩

omit [DecidableEq ι] in
theorem Sequence.latest (h : Sequence organization_id name calls w g) :
    ((w.own organization_id name).map PromptTemplateRow.version).max?.getD 0 =
      (w.own organization_id name).length := by
  rw [h.versions]
  exact max_firstVersions _

omit [DecidableEq ι] in
theorem reply_expected (h : Sequence organization_id name calls w g) {c : PromptCommand} {r : PromptResponse c}
    (hmay : May organization_id name (g i) c) (hreply : CarriesOut w c r w') : Expected c r := by
  cases c with
  | maxVersion id text =>
    obtain ⟨rfl, rfl, -⟩ := hmay
    refine ⟨_, hreply.1, ?_⟩
    rw [h.latest]
    omega
  | insertCommit row =>
    simp only [CarriesOut] at hreply
    cases hinsert : w.insert row with
    | none =>
      rw [hinsert] at hreply
      exact .inr hreply.1
    | some prompts =>
      rw [hinsert] at hreply
      exact .inl hreply.1
  | rollback => exact hreply.1
  | _ => exact trivial

/-- A step of a call leaves the rows of the prompt as they are, or appends one. -/
theorem Sequence.step (h : Sequence organization_id name calls w g) {c : PromptCommand} {r : PromptResponse c}
    (hmay : May organization_id name (g i) c) (hreply : CarriesOut w c r w') :
    Sequence organization_id name calls w' (Function.update g i ((g i).after c r)) ∧
      w.own organization_id name <+: w'.own organization_id name := by
  cases c with
  | uuid4 | utcNow =>
    obtain rfl : w' = w := hreply
    exact ⟨h.move rfl (h.known i) fun _ => Iff.rfl, List.prefix_rfl⟩
  | maxVersion id text =>
    obtain ⟨rfl, rfl, hfresh⟩ := hmay
    obtain ⟨rfl, rfl⟩ := hreply
    refine ⟨h.move rfl ?_ ?_, List.prefix_rfl⟩
    · intro latest hlatest
      cases hlatest
      rw [h.latest]
      omega
    · intro row
      rw [hfresh]
      exact ⟨nofun, nofun⟩
  | insertCommit row =>
    obtain ⟨latest, hread, hnext⟩ := hmay
    simp only [CarriesOut] at hreply
    cases hinsert : w.insert row with
    | none =>
      rw [hinsert] at hreply
      obtain ⟨rfl, rfl⟩ := hreply
      refine ⟨h.move rfl nofun ?_, List.prefix_rfl⟩
      intro other
      rw [hread]
      exact ⟨nofun, nofun⟩
    | some prompts =>
      rw [hinsert] at hreply
      obtain ⟨rfl, rfl⟩ := hreply
      refine ⟨h.insert hread hnext hinsert, ?_⟩
      rw [own_insert hinsert hnext.organization hnext.name]
      exact List.prefix_append _ _
  | rollback =>
    obtain ⟨rfl, rfl⟩ := hreply
    exact ⟨h.move rfl (h.known i) fun _ => Iff.rfl, List.prefix_rfl⟩
  | _ => exact hmay.elim

omit [DecidableEq ι] in
theorem Sequence.drift (h : Sequence organization_id name calls w g)
    (hown : w'.own organization_id name = w.own organization_id name) :
    Sequence organization_id name calls w' g := by
  constructor
  · rw [hown]
    exact h.versions
  · exact h.same
  · rw [hown]
    exact h.known
  · rw [hown]
    exact h.inserted
  · exact h.once
  · rw [hown]
    exact h.origin

theorem sequence_keeps (rows : List PromptTemplateRow) :
    Pool.Keeps (concurrent organization_id name) Note.after (fun _ _ _ _ => True) (May organization_id name)
      (fun w g => Sequence organization_id name calls w g ∧ rows <+: w.own organization_id name) := by
  constructor
  · rintro w g i c r w' ⟨h, hrows⟩ hmay - hreply
    obtain ⟨hnext, hgrows⟩ := h.step hmay hreply
    exact ⟨hnext, hrows.trans hgrows⟩
  · rintro w g w' ⟨h, hrows⟩ hown
    refine ⟨h.drift hown, ?_⟩
    rw [show w'.own organization_id name = w.own organization_id name from hown]
    exact hrows

omit [DecidableEq ι] in
theorem returned_of_created {pool : Pool ι PromptCommand PromptResponse Empty PromptExn PromptTemplate PromptStore Note}
    (h : Pool.Obeys (creating organization_id name) (Outcome name) pool) {row : PromptTemplateRow}
    (hcreated : (pool.note i).phase = .created row) :
    ∃ template, pool.rest i = .done template ∧ toDomain row = .ok template := by
  have hi := h i
  cases hrest : pool.rest i with
  | done template =>
    rw [hrest] at hi
    obtain ⟨row', hrow', htemplate, -⟩ := hi
    rw [hcreated] at hrow'
    cases hrow'
    exact ⟨template, rfl, htemplate⟩
  | raise err =>
    rw [hrest] at hi
    rcases hi with ⟨-, hphase⟩ | ⟨_, -, -, hphase⟩
    · rw [hcreated] at hphase
      cases hphase
    · rw [hcreated] at hphase
      cases hphase
  | call c k =>
    have hmay := h.asks hrest
    change May organization_id name (pool.note i) c at hmay
    cases c with
    | uuid4 | utcNow =>
      obtain ⟨latest, hphase⟩ := hmay
      rw [hcreated] at hphase
      cases hphase
    | insertCommit row' =>
      obtain ⟨latest, hphase, -⟩ := hmay
      rw [hcreated] at hphase
      cases hphase
    | maxVersion id text =>
      obtain ⟨-, -, hphase⟩ := hmay
      rw [hcreated] at hphase
      cases hphase
    | rollback =>
      have hphase : (pool.note i).phase = .conflicted := hmay
      rw [hcreated] at hphase
      cases hphase
    | _ => exact hmay.elim
  | yield e k => exact e.elim

end Runs

section Reads

def serving : Environment PromptCommand PromptResponse PromptStore where
  may := fun _ _ => True
  reply := CarriesOut

variable {organization_id : UUID} {name : String} {w : PromptStore}

theorem own_unique
    (hversions : (w.own organization_id name).map PromptTemplateRow.version =
      firstVersions (w.own organization_id name).length)
    {a b : PromptTemplateRow} (ha : a ∈ w.own organization_id name) (hb : b ∈ w.own organization_id name)
    (h : a.version = b.version) : a = b := by
  have hnodup : ((w.own organization_id name).map PromptTemplateRow.version).Nodup := by
    rw [hversions]
    exact (firstVersions_pairwise _).imp ne_of_lt
  exact List.inj_on_of_nodup_map hnodup ha hb h

theorem getVersion_latest
    (hversions : (w.own organization_id name).map PromptTemplateRow.version =
      firstVersions (w.own organization_id name).length)
    (hread : ∀ row ∈ w.own organization_id name, ∃ template, toDomain row = .ok template) :
    (getVersion organization_id name none).wp serving (fun w _ => w)
      (fun o w' => w' = w ∧ (w.own organization_id name = [] ∧ o = .ok none ∨
        ∃ row ∈ w.own organization_id name, ∃ template, toDomain row = .ok template ∧ o = .ok (some template) ∧
          template.version = (w.own organization_id name).length)) w := by
  refine Prog.wp_ask trivial ?_
  rintro r w' ⟨⟨latest, rfl, hlatest⟩, rfl⟩
  have hall : ((w'.own organization_id name).filter fun row => Option.all (row.version = ·) none) =
      w'.own organization_id name := List.filter_eq_self.mpr fun _ _ => rfl
  rw [hall] at hlatest
  cases latest with
  | none => exact ⟨rfl, .inl ⟨hlatest, rfl⟩⟩
  | some row =>
    obtain ⟨hmem, hmax⟩ := hlatest
    obtain ⟨template, htemplate⟩ := hread row hmem
    simp only [raising_ok, Prog.bind_eq, Prog.done_bind, htemplate]
    refine ⟨rfl, .inr ⟨row, hmem, template, htemplate, rfl, ?_⟩⟩
    rw [toDomain_version htemplate]
    have hrow := List.mem_map_of_mem (f := PromptTemplateRow.version) hmem
    have hlast : ((w'.own organization_id name).length : ℤ) ∈
        (w'.own organization_id name).map PromptTemplateRow.version := by
      have hpositive := List.length_pos_of_mem hmem
      rw [hversions, mem_firstVersions]
      omega
    rw [hversions, mem_firstVersions] at hrow
    obtain ⟨other, hother, hequal⟩ := List.mem_map.mp hlast
    have hle := hmax other hother
    omega

theorem mapM_toDomain {rows : List PromptTemplateRow} (h : ∀ row ∈ rows, ∃ template, toDomain row = .ok template) :
    ∃ templates, rows.mapM toDomain = .ok templates ∧
      templates.map PromptTemplate.version = rows.map PromptTemplateRow.version ∧
      ∀ template ∈ templates, ∃ row ∈ rows, toDomain row = .ok template := by
  obtain ⟨templates, htemplates⟩ := forall₂_of_exists h
  refine ⟨templates, mapM_ok_iff.mpr htemplates, ?_, fun template hmem => exists_left htemplates hmem⟩
  clear h
  induction htemplates with
  | nil => rfl
  | cons htemplate _ ih => rw [List.map_cons, List.map_cons, ih, toDomain_version htemplate]

theorem listVersions_ascending
    (hversions : (w.own organization_id name).map PromptTemplateRow.version =
      firstVersions (w.own organization_id name).length)
    (hread : ∀ row ∈ w.own organization_id name, ∃ template, toDomain row = .ok template) :
    (listVersions organization_id name).wp serving (fun w _ => w)
      (fun o w' => w' = w ∧ ∃ templates, o = .ok templates ∧
        templates.map PromptTemplate.version = firstVersions (w.own organization_id name).length ∧
        ∀ template ∈ templates, ∃ row ∈ w.own organization_id name, toDomain row = .ok template) w := by
  have hordered : (w.own organization_id name).Pairwise fun a b => a.version < b.version := by
    have hpairwise := firstVersions_pairwise (w.own organization_id name).length
    rw [← hversions] at hpairwise
    exact List.pairwise_map.mp hpairwise
  refine Prog.wp_ask trivial ?_
  rintro r w' ⟨⟨rows, rfl, hperm, hsorted⟩, rfl⟩
  have hunique : ∀ a b, a ∈ rows → b ∈ w'.own organization_id name → a.version ≤ b.version →
      b.version ≤ a.version → a = b :=
    fun a b ha hb hab hba => own_unique hversions (hperm.mem_iff.mp ha) hb (le_antisymm hab hba)
  obtain rfl : rows = w'.own organization_id name :=
    List.Perm.eq_of_pairwise hunique hsorted (hordered.imp le_of_lt) hperm
  obtain ⟨templates, hmapped, hsame, hrows⟩ := mapM_toDomain hread
  simp only [raising_ok, Prog.bind_eq, Prog.done_bind, hmapped]
  exact ⟨rfl, templates, rfl, hsame.trans hversions, hrows⟩

end Reads

section Claim

variable [DecidableEq ι]

abbrev Creations (ι : Type) := Pool ι PromptCommand PromptResponse Empty PromptExn PromptTemplate PromptStore Note

def start (organization_id : UUID) (name : String) (calls : ι → List PromptMessageTemplate) (w : PromptStore) :
    Creations ι :=
  ⟨w, fun i => createPromptVersion organization_id name (calls i), fun i => ⟨calls i, .fresh⟩⟩

omit [DecidableEq ι] in
theorem start_sequence {organization_id : UUID} {name : String} {w : PromptStore}
    (calls : ι → List PromptMessageTemplate) (hnew : w.own organization_id name = []) :
    Sequence organization_id name calls w (start organization_id name calls w).note := by
  constructor
  · rw [hnew]
    rfl
  · exact fun _ => rfl
  · exact nofun
  · exact nofun
  · exact nofun
  · rw [hnew]
    exact nofun

section Reached

variable {organization_id : UUID} {name : String} {calls : ι → List PromptMessageTemplate} {pool : Creations ι}

/-- In every run each call keeps to its program, the rows are in sequence, and rows that are there stay. -/
theorem run_sequence {w : PromptStore} (hnew : w.own organization_id name = []) {pool' : Creations ι}
    (hrun : Pool.Reaches (concurrent organization_id name) Note.after (fun _ _ _ _ => True)
      (start organization_id name calls w) pool)
    (hlater : Pool.Reaches (concurrent organization_id name) Note.after (fun _ _ _ _ => True) pool pool') :
    Pool.Obeys (creating organization_id name) (Outcome name) pool ∧
      Sequence organization_id name calls pool.shared pool.note ∧
      pool.shared.own organization_id name <+: pool'.shared.own organization_id name := by
  have hlocal : ∀ (rows : List PromptTemplateRow) (v : PromptStore) (g : ι → Note) (i : ι) (c : PromptCommand)
      (r : PromptResponse c) (v' : PromptStore),
      Sequence organization_id name calls v g ∧ rows <+: v.own organization_id name →
      May organization_id name (g i) c → True → CarriesOut v c r v' →
      (creating organization_id name).reply (g i) c r ((g i).after c r) :=
    fun rows v g i c r v' h hmay _ hreply => ⟨reply_expected h.1 hmay hreply, rfl⟩
  have hbegin : Pool.Obeys (creating organization_id name) (Outcome name) (start organization_id name calls w) :=
    fun i => createPromptVersion_obeys organization_id name (calls i)
  obtain ⟨hobeys, hsequence, -⟩ := hrun.obeys (hlocal []) (sequence_keeps []) hbegin
    ⟨start_sequence calls hnew, List.nil_prefix⟩
  obtain ⟨-, -, hgrows⟩ := hlater.obeys (hlocal (pool.shared.own organization_id name))
    (sequence_keeps (pool.shared.own organization_id name)) hobeys ⟨hsequence, List.prefix_rfl⟩
  exact ⟨hobeys, hsequence, hgrows⟩

variable (hobeys : Pool.Obeys (creating organization_id name) (Outcome name) pool)
  (hsequence : Sequence organization_id name calls pool.shared pool.note)
include hobeys hsequence

omit [DecidableEq ι] in
theorem done_created {i : ι} {template : PromptTemplate} (hdone : pool.rest i = .done template) :
    ∃ row ∈ pool.shared.own organization_id name, (pool.note i).phase = .created row ∧ toDomain row = .ok template ∧
      template.messages = calls i := by
  have hpost := hobeys i
  rw [hdone] at hpost
  obtain ⟨row, hphase, htemplate, hmessages⟩ := hpost
  exact ⟨row, hsequence.inserted i row hphase, hphase, htemplate, hmessages.trans (hsequence.same i)⟩

omit [DecidableEq ι] in
theorem own_returned {row : PromptTemplateRow} (hrow : row ∈ pool.shared.own organization_id name) :
    ∃ i template, pool.rest i = .done template ∧ toDomain row = .ok template := by
  obtain ⟨i, hphase⟩ := hsequence.origin row hrow
  obtain ⟨template, hdone, htemplate⟩ := returned_of_created hobeys hphase
  exact ⟨i, template, hdone, htemplate⟩

omit [DecidableEq ι] in
theorem template_returned {row : PromptTemplateRow} (hrow : row ∈ pool.shared.own organization_id name)
    {template : PromptTemplate} (htemplate : toDomain row = .ok template) : ∃ i, pool.rest i = .done template := by
  obtain ⟨i, returned, hdone, hreturned⟩ := own_returned hobeys hsequence hrow
  rw [htemplate] at hreturned
  cases hreturned
  exact ⟨i, hdone⟩

omit [DecidableEq ι] in
theorem done_unique {i j : ι} {template other : PromptTemplate} (hi : pool.rest i = .done template)
    (hj : pool.rest j = .done other) (hversion : other.version = template.version) : j = i := by
  obtain ⟨row, hrow, hphase, htemplate, -⟩ := done_created hobeys hsequence hi
  obtain ⟨row', hrow', hphase', hother, -⟩ := done_created hobeys hsequence hj
  have hequal : row' = row := by
    apply own_unique hsequence.versions hrow' hrow
    rw [← toDomain_version htemplate, ← toDomain_version hother, hversion]
  rw [hequal] at hphase'
  exact hsequence.once j i row hphase' hphase

omit [DecidableEq ι] in
theorem own_read (row : PromptTemplateRow) (hrow : row ∈ pool.shared.own organization_id name) :
    ∃ template, toDomain row = .ok template := by
  obtain ⟨_, template, -, htemplate⟩ := own_returned hobeys hsequence hrow
  exact ⟨template, htemplate⟩

omit [DecidableEq ι] in
theorem getVersion_returned :
    (getVersion organization_id name none).wp serving (fun w _ => w)
      (fun o w' => w' = pool.shared ∧ ((pool.shared.own organization_id name).length = 0 ∧ o = .ok none ∨
        ∃ i template, pool.rest i = .done template ∧ o = .ok (some template) ∧
          template.version = (pool.shared.own organization_id name).length)) pool.shared := by
  refine Prog.wp_mono ?_ (getVersion_latest hsequence.versions (own_read hobeys hsequence))
  rintro o w' ⟨hw, ⟨hnone, ho⟩ | ⟨row, hrow, template, htemplate, ho, hversion⟩⟩
  · exact ⟨hw, .inl ⟨List.length_eq_zero_iff.mpr hnone, ho⟩⟩
  · obtain ⟨i, hdone⟩ := template_returned hobeys hsequence hrow htemplate
    exact ⟨hw, .inr ⟨i, template, hdone, ho, hversion⟩⟩

omit [DecidableEq ι] in
theorem listVersions_returned :
    (listVersions organization_id name).wp serving (fun w _ => w)
      (fun o w' => w' = pool.shared ∧ ∃ templates, o = .ok templates ∧
        templates.map PromptTemplate.version = firstVersions (pool.shared.own organization_id name).length ∧
        ∀ template ∈ templates, ∃ i, pool.rest i = .done template) pool.shared := by
  refine Prog.wp_mono ?_ (listVersions_ascending hsequence.versions (own_read hobeys hsequence))
  rintro o w' ⟨hw, templates, ho, hversions, hrows⟩
  refine ⟨hw, templates, ho, hversions, fun template hmem => ?_⟩
  obtain ⟨row, hrow, htemplate⟩ := hrows template hmem
  exact template_returned hobeys hsequence hrow htemplate

end Reached

/-- Whatever the order of their steps, calls that create versions of one prompt leave the versions 1 to `n`, each
inserted by the one call that returned it; rows that are there stay; `get` finds version `n`, `list_versions` all. -/
theorem versions_gapless (organization_id : UUID) (name : String) (calls : ι → List PromptMessageTemplate)
    (w : PromptStore) (hnew : w.own organization_id name = []) (pool pool' : Creations ι)
    (hrun : Pool.Reaches (concurrent organization_id name) Note.after (fun _ _ _ _ => True)
      (start organization_id name calls w) pool)
    (hlater : Pool.Reaches (concurrent organization_id name) Note.after (fun _ _ _ _ => True) pool pool') :
    ∃ n, (pool.shared.own organization_id name).map PromptTemplateRow.version = firstVersions n ∧
      pool.shared.own organization_id name <+: pool'.shared.own organization_id name ∧
      (∀ row ∈ pool.shared.own organization_id name,
        ∃! i, ∃ template, pool.rest i = .done template ∧ toDomain row = .ok template) ∧
      (∀ i template, pool.rest i = .done template → template.messages = calls i ∧
        (∃ row ∈ pool.shared.own organization_id name, toDomain row = .ok template) ∧
        ∀ j other, pool.rest j = .done other → other.version = template.version → j = i) ∧
      (∀ i err, pool.rest i = .raise err → err = .versionConflict ∨
        ∃ message, requestProblem name (calls i) = some message ∧ err = .failed (.domainValidation message)) ∧
      (getVersion organization_id name none).wp serving (fun w _ => w)
        (fun o w' => w' = pool.shared ∧ (n = 0 ∧ o = .ok none ∨ ∃ i template, pool.rest i = .done template ∧
          o = .ok (some template) ∧ template.version = n)) pool.shared ∧
      (listVersions organization_id name).wp serving (fun w _ => w)
        (fun o w' => w' = pool.shared ∧ ∃ templates, o = .ok templates ∧
          templates.map PromptTemplate.version = firstVersions n ∧
          ∀ template ∈ templates, ∃ i, pool.rest i = .done template) pool.shared := by
  obtain ⟨hobeys, hsequence, hgrows⟩ := run_sequence hnew hrun hlater
  refine ⟨_, hsequence.versions, hgrows, ?_, ?_, ?_, getVersion_returned hobeys hsequence,
    listVersions_returned hobeys hsequence⟩
  · intro row hrow
    obtain ⟨i, template, hdone, htemplate⟩ := own_returned hobeys hsequence hrow
    refine ⟨i, ⟨template, hdone, htemplate⟩, ?_⟩
    rintro j ⟨other, hother, hrow'⟩
    rw [htemplate] at hrow'
    cases hrow'
    exact done_unique hobeys hsequence hdone hother rfl
  · intro i template hi
    obtain ⟨row, hrow, -, htemplate, hmessages⟩ := done_created hobeys hsequence hi
    exact ⟨hmessages, ⟨row, hrow, htemplate⟩, fun j other hj => done_unique hobeys hsequence hi hj⟩
  · intro i err hi
    have hpost := hobeys i
    rw [hi] at hpost
    rcases hpost with ⟨rfl, -⟩ | ⟨message, hproblem, rfl, -⟩
    · exact .inl rfl
    · rw [hsequence.same i] at hproblem
      exact .inr ⟨message, hproblem, rfl⟩

end Claim

section Samples

inductive Author where
  | first
  | second
deriving DecidableEq

def noPrompts : PromptStore := ⟨⟨[], List.Pairwise.nil⟩, fun _ => true⟩

def greeting : PromptMessageTemplate := ⟨.user, "hello", by decide⟩

def authors : Creations Author := start ⟨7⟩ "greeting" (fun _ => [greeting]) noPrompts

theorem stillClock_ok : CivilTime.fieldsOk 2026 3 14 12 0 0 0 = true := by decide

theorem stillClock_utc :
    (⟨2026, 3, 14, 12, 0, 0, 0, some 0, stillClock_ok⟩ : CivilTime.DateTime).utcoffset = some 0 := rfl

/-- The database, with ids of its own and a clock that stands still; nobody reads. -/
def script (_ : Author) (w : PromptStore) (c : PromptCommand) : Option (PromptResponse c × PromptStore) :=
  match c with
  | .uuid4 => some (⟨Fin.ofNat _ w.prompts.rows.length⟩, w)
  | .utcNow => some (⟨⟨2026, 3, 14, 12, 0, 0, 0, some 0, stillClock_ok⟩, stillClock_utc⟩, w)
  | .maxVersion organization_id name =>
    some (.ok ((w.own organization_id name).map PromptTemplateRow.version).max?, w)
  | .insertCommit row =>
    match w.insert row with
    | none => some (.error integrityError, w)
    | some prompts => some (.ok (), { w with prompts := prompts })
  | .rollback => some (.ok (), w)
  | _ => none

theorem script_replies (i : Author) (w : PromptStore) (c : PromptCommand) (r : PromptResponse c) (w' : PromptStore)
    (h : script i w c = some (r, w')) : (concurrent ⟨7⟩ "greeting").reply i w c r w' := by
  change CarriesOut w c r w'
  cases c with
  | insertCommit row =>
    simp only [script] at h
    simp only [CarriesOut]
    cases hinsert : w.insert row with
    | none =>
      rw [hinsert] at h
      cases h
      exact ⟨rfl, rfl⟩
    | some prompts =>
      rw [hinsert] at h
      cases h
      exact ⟨rfl, rfl⟩
  | selectLatest organization_id name version => cases h
  | selectAscending organization_id name => cases h
  | uuid4 | utcNow =>
    cases h
    exact rfl
  | _ =>
    cases h
    exact ⟨rfl, rfl⟩

/-- Both authors read that there is no version; then each writes version 1. -/
def racing : Creations Author :=
  Pool.turns script Note.after ([.first, .second] ++ List.replicate 5 .first ++ List.replicate 5 .second) authors

def conflicted (p : PromptAction PromptTemplate) : Bool :=
  match p with
  | .raise err => err = .versionConflict
  | _ => false

theorem second_author_conflicts :
    conflicted (racing.rest .second) = true ∧
      (racing.shared.own ⟨7⟩ "greeting").map PromptTemplateRow.version = [1] ∧
      ∀ row ∈ racing.shared.own ⟨7⟩ "greeting",
        ∃! i, ∃ template, racing.rest i = .done template ∧ toDomain row = .ok template := by
  have hrun : Pool.Reaches (concurrent ⟨7⟩ "greeting") Note.after (fun _ _ _ _ => True) authors racing :=
    Pool.turns_reach script_replies (fun _ _ _ _ _ _ _ => trivial) _ _
  obtain ⟨_, -, -, hrows, -⟩ := versions_gapless ⟨7⟩ "greeting" (fun _ => [greeting]) noPrompts rfl racing racing hrun
    .refl
  exact ⟨by decide +kernel, by decide +kernel, hrows⟩

end Samples

end AIRuntime.PromptVersions
