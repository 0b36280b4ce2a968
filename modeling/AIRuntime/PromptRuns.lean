import AIRuntime.EffectHistories
import AIRuntime.PromptRendering
import AIRuntime.PromptVersions

set_option autoImplicit false

/-! Any number of calls that create, list and render prompts at the same time, on a database that may fail. -/
namespace AIRuntime.PromptRuns

open EffectPrograms Traversals Failures Identifiers SharedStores GenerationContracts PromptRecords PromptRendering
  PromptVersions

variable {ι : Type}

section Store

/-- The answer of a command that fails; the clock and `uuid4` do not. -/
def failing (err : Exn) : (c : PromptCommand) → Option (PromptResponse c)
  | .uuid4 => none
  | .utcNow => none
  | .maxVersion _ _ => some (.error err)
  | .insertCommit _ => some (.error err)
  | .rollback => some (.error err)
  | .selectLatest _ _ _ => some (.error err)
  | .selectAscending _ _ => some (.error err)

/-- The database may fail at any command, before or after it has carried it out. -/
def Serves (w : PromptStore) (c : PromptCommand) (r : PromptResponse c) (w' : PromptStore) : Prop :=
  CarriesOut w c r w' ∨ ∃ err, err ≠ integrityError ∧ failing err c = some r ∧
    (w' = w ∨ ∃ answer, CarriesOut w c answer w')

/-- Organizations come at any time. -/
def concurrent : Arbiter ι PromptCommand PromptResponse PromptStore where
  reply := fun _ => Serves
  drift := fun w w' => w'.prompts = w.prompts ∧
    ∀ organization_id, w.organizations organization_id = true → w'.organizations organization_id = true

structure Later (w w' : PromptStore) : Prop where
  rows : w.prompts.rows <+: w'.prompts.rows
  organizations : ∀ organization_id, w.organizations organization_id = true → w'.organizations organization_id = true

theorem Later.refl (w : PromptStore) : Later w w := ⟨List.prefix_rfl, fun _ h => h⟩

theorem Later.trans {w w' w'' : PromptStore} (h : Later w w') (h' : Later w' w'') : Later w w'' :=
  ⟨h.rows.trans h'.rows, fun o ho => h'.organizations o (h.organizations o ho)⟩

theorem Later.own {w w' : PromptStore} (h : Later w w') (organization_id : UUID) (name : String) :
    w.own organization_id name <+: w'.own organization_id name :=
  h.rows.filter _

theorem carriesOut_rows {w w' : PromptStore} {c : PromptCommand} {r : PromptResponse c} (h : CarriesOut w c r w') :
    w' = w ∨ ∃ row prompts, c = .insertCommit row ∧ w.insert row = some prompts ∧ w' =
        { w with prompts := prompts } := by
  cases c with
  | uuid4 | utcNow => exact .inl h
  | insertCommit row =>
    simp only [CarriesOut] at h
    cases hinsert : w.insert row with
    | none =>
      rw [hinsert] at h
      exact .inl h.2
    | some prompts =>
      rw [hinsert] at h
      exact .inr ⟨row, prompts, rfl, hinsert, h.2⟩
  | maxVersion | rollback | selectLatest | selectAscending => exact .inl h.2

theorem serves_rows {w w' : PromptStore} {c : PromptCommand} {r : PromptResponse c} (h : Serves w c r w') :
    w' = w ∨ ∃ row prompts, c = .insertCommit row ∧ w.insert row = some prompts ∧ w' =
        { w with prompts := prompts } := by
  rcases h with h | ⟨err, -, -, h | ⟨answer, h⟩⟩
  · exact carriesOut_rows h
  · exact .inl h
  · exact carriesOut_rows h

theorem insert_rows {w : PromptStore} {row : PromptTemplateRow} {prompts : Table PromptTemplateRow promptClash}
    (h : w.insert row = some prompts) : w.prompts.insert row = some prompts := by
  unfold PromptStore.insert at h
  split_ifs at h
  exact h

theorem grows : Pool.Grows (ι := ι) concurrent Later where
  refl := Later.refl
  trans := fun _ _ _ => Later.trans
  answered := by
    intro i w c r w' h
    rcases serves_rows h with rfl | ⟨row, prompts, -, hinsert, rfl⟩
    · exact .refl _
    · refine ⟨?_, fun _ h => h⟩
      change w.prompts.rows <+: prompts.rows
      rw [Table.insert_some (insert_rows hinsert)]
      exact List.prefix_append _ _
  drifted := by
    rintro w w' ⟨hprompts, horganizations⟩
    refine ⟨?_, horganizations⟩
    simp only [hprompts, List.prefix_refl]

theorem serves_inserted {w w' : PromptStore} {row : PromptTemplateRow} {u : Unit}
    (h : Serves w (.insertCommit row) (.ok u) w') :
    ∃ prompts, w.insert row = some prompts ∧ w' = { w with prompts := prompts } := by
  rcases h with h | ⟨err, -, hfailing, -⟩
  · simp only [CarriesOut] at h
    cases hinsert : w.insert row with
    | none =>
      rw [hinsert] at h
      cases h.1
    | some prompts =>
      rw [hinsert] at h
      exact ⟨prompts, rfl, h.2⟩
  · cases hfailing

end Store

section Logs

def read (row : PromptTemplateRow) : Option PromptTemplate := (toDomain row).toOption

def log (w : PromptStore) (organization_id : UUID) (name : String) : List PromptTemplate :=
  (w.own organization_id name).filterMap read

/-- Every prompt has the versions 1 to some `n`, and all are read. -/
structure Sound (w : PromptStore) : Prop where
  versions : ∀ organization_id name, (w.own organization_id name).map PromptTemplateRow.version =
    firstVersions (w.own organization_id name).length
  readable : ∀ row ∈ w.prompts.rows, ∃ template, toDomain row = .ok template

variable {w w' : PromptStore} {organization_id : UUID} {name : String}

theorem mem_own {row : PromptTemplateRow} : row ∈ w.own organization_id name ↔
    row ∈ w.prompts.rows ∧ row.organization_id = organization_id ∧ row.name = name := by
  unfold PromptStore.own
  simp

theorem read_ok {row : PromptTemplateRow} {template : PromptTemplate} (h : toDomain row = .ok template) :
    read row = some template := by
  unfold read
  rw [h]
  rfl

theorem read_all {rows : List PromptTemplateRow} {templates : List PromptTemplate}
    (h : rows.mapM toDomain = .ok templates) : rows.filterMap read = templates := by
  have hread := mapM_ok_iff.mp h
  clear h
  induction hread with
  | nil => rfl
  | cons hrow _ ih => rw [List.filterMap_cons_some (read_ok hrow), ih]

theorem firstVersions_get {n k : ℕ} (h : k < n) : (firstVersions n)[k]? = some ((k : ℤ) + 1) := by
  unfold firstVersions
  simp [h]

theorem Sound.mapM (h : Sound w) (organization_id : UUID) (name : String) :
    List.Forall₂ (fun row template => toDomain row = .ok template) (w.own organization_id name)
      (log w organization_id name) := by
  have hread : ∀ row ∈ w.own organization_id name, ∃ template, toDomain row = .ok template :=
    fun row hrow => h.readable row (mem_own.mp hrow).1
  obtain ⟨templates, htemplates⟩ := forall₂_of_exists hread
  unfold PromptRuns.log
  rwa [read_all (mapM_ok_iff.mpr htemplates)]

theorem Sound.length (h : Sound w) (organization_id : UUID) (name : String) :
    (log w organization_id name).length = (w.own organization_id name).length :=
  (h.mapM organization_id name).length_eq.symm

theorem Sound.version_at (h : Sound w) {k : ℕ} (hk : k < (w.own organization_id name).length) :
    ((w.own organization_id name)[k]).version = (k : ℤ) + 1 := by
  have hversion : (firstVersions (w.own organization_id name).length)[k]? =
      some ((w.own organization_id name)[k]).version := by
    rw [← h.versions, List.getElem?_map, List.getElem?_eq_getElem hk]
    rfl
  rw [firstVersions_get hk] at hversion
  exact (Option.some.inj hversion).symm

theorem Sound.at_place (h : Sound w) {row : PromptTemplateRow} {template : PromptTemplate}
    (hrow : row ∈ w.own organization_id name) (hread : toDomain row = .ok template) :
    1 ≤ row.version ∧ (log w organization_id name)[row.version.toNat - 1]? = some template := by
  obtain ⟨k, hk, hget⟩ := List.mem_iff_getElem.mp hrow
  have hversion := h.version_at hk
  rw [hget] at hversion
  have hlength := (h.mapM organization_id name).length_eq
  have hat := (h.mapM organization_id name).get hk (hlength ▸ hk)
  simp only [List.get_eq_getElem, hget, hread, Except.ok.injEq] at hat
  have hplace : row.version.toNat - 1 = k := by omega
  refine ⟨by omega, ?_⟩
  rw [hplace, hat]
  exact List.getElem?_eq_getElem _

theorem Sound.unique (h : Sound w) {a b : PromptTemplateRow} (ha : a ∈ w.own organization_id name)
    (hb : b ∈ w.own organization_id name) (hversion : a.version = b.version) : a = b :=
  own_unique (h.versions organization_id name) ha hb hversion

theorem Sound.ascending (h : Sound w) {rows : List PromptTemplateRow}
    (hperm : rows.Perm (w.own organization_id name)) (hsorted : rows.Pairwise fun a b => a.version ≤ b.version) :
    rows = w.own organization_id name := by
  have hordered : (w.own organization_id name).Pairwise fun a b => a.version ≤ b.version := by
    have hpairwise := firstVersions_pairwise (w.own organization_id name).length
    rw [← h.versions] at hpairwise
    exact (List.pairwise_map.mp hpairwise).imp le_of_lt
  exact List.Perm.eq_of_pairwise (fun a b ha hb hab hba =>
    h.unique (hperm.mem_iff.mp ha) hb (le_antisymm hab hba)) hsorted hordered hperm

theorem Sound.latest (h : Sound w) {row : PromptTemplateRow} (hmem : row ∈ w.own organization_id name)
    (hmax : ∀ other ∈ w.own organization_id name, other.version ≤ row.version) :
    (w.own organization_id name).getLast? = some row := by
  have hne := List.ne_nil_of_mem hmem
  have hpositive := List.length_pos_of_mem hmem
  have hlast := h.version_at (Nat.sub_lt hpositive one_pos)
  rw [← List.getLast_eq_getElem hne] at hlast
  have hle := hmax _ (List.getLast_mem hne)
  have hrow : row.version ∈ firstVersions (w.own organization_id name).length := by
    rw [← h.versions]
    exact List.mem_map_of_mem hmem
  have hbound := (mem_firstVersions.mp hrow).2
  rw [List.getLast?_eq_some_getLast hne, h.unique hmem (List.getLast_mem hne) (by omega)]

end Logs

section Calls

inductive Call where
  | create (organization_id : UUID) (name : String) (messages : List PromptMessageTemplate)
  | list (organization_id : UUID) (name : String)
  | resolve (organization_id : UUID) (reference : PromptReference)

inductive Result where
  | created (template : PromptTemplate)
  | listed (templates : List PromptTemplate)
  | resolved (messages : List Message)

abbrev Action (α : Type) := Prog PromptCommand PromptResponse Empty ResolveExn α

def program : Call → Action Result
  | .create organization_id name messages =>
    (createPromptVersion organization_id name messages).attempt.bind fun made =>
      match made with
      | .ok template => .done (.created template)
      | .error err => .raise (.prompt err)
  | .list organization_id name => (getPromptVersions organization_id name).bind fun templates =>
      .done (.listed templates)
  | .resolve organization_id reference =>
    (resolvePrompt organization_id reference).bind fun messages => .done (.resolved messages)

def Call.problem : Call → Option String
  | .create _ name messages => requestProblem name messages
  | .list _ name => validatePromptName name
  | .resolve _ _ => none

abbrev Told := History Call PromptCommand PromptResponse

/-- The row that a call makes of its messages and of the latest version it was told. -/
structure Made (told : Told) (messages : List PromptMessageTemplate) (row : PromptTemplateRow) : Prop where
  call : told.call = .create row.organization_id row.name messages
  valid : requestProblem row.name messages = none
  items : row.messages = messages.map messageItem
  drawn : ⟨.uuid4, row.id⟩ ∈ told.steps
  read : ∃ latest, ⟨.maxVersion row.organization_id row.name, .ok latest⟩ ∈ told.steps ∧
    row.version = latest.getD 0 + 1

def May (told : Told) : PromptCommand → Prop
  | .insertCommit row => ∃ messages, Made told messages row
  | _ => True

/-- The error of a command, a clash of an insert apart. -/
def raised : Step PromptCommand PromptResponse → Option Exn
  | ⟨.maxVersion _ _, .error err⟩ => some err
  | ⟨.insertCommit _, .error err⟩ => if err = integrityError then none else some err
  | ⟨.rollback, .error err⟩ => some err
  | ⟨.selectLatest _ _ _, .error err⟩ => some err
  | ⟨.selectAscending _ _, .error err⟩ => some err
  | _ => none

inductive Fails (told : Told) : Exn → Prop where
  | invalid {message : String} (h : told.call.problem = some message) : Fails told (.domainValidation message)
  | raised {err : Exn} (h : History.Raised raised told err) : Fails told err

inductive Handled (told : Told) (row : PromptTemplateRow) : Prop where
  | made {messages : List PromptMessageTemplate} (h : Made told messages row)
  | latest {organization_id : UUID} {name : String} {version : Option ℤ}
      (h : ⟨.selectLatest organization_id name version, .ok (some row)⟩ ∈ told.steps)
  | ascending {organization_id : UUID} {name : String} {rows : List PromptTemplateRow}
      (h : ⟨.selectAscending organization_id name, .ok rows⟩ ∈ told.steps) (hmem : row ∈ rows)

def Fetched (told : Told) (reference : PromptReference) (template : PromptTemplate) : Prop :=
  ∃ organization_id row, told.call = .resolve organization_id reference ∧
    ⟨.selectLatest organization_id reference.name reference.version, .ok (some row)⟩ ∈ told.steps ∧
    toDomain row = .ok template

inductive Ended (told : Told) : Result → Prop where
  | created {messages : List PromptMessageTemplate} {row : PromptTemplateRow} {template : PromptTemplate}
      (hmade : Made told messages row) (hinsert : ⟨.insertCommit row, .ok ()⟩ ∈ told.steps)
      (hread : toDomain row = .ok template) : Ended told (.created template)
  | listed {organization_id : UUID} {name : String} {rows : List PromptTemplateRow} {templates : List PromptTemplate}
      (hcall : told.call = .list organization_id name)
      (hrows : ⟨.selectAscending organization_id name, .ok rows⟩ ∈ told.steps)
      (hread : rows.mapM toDomain = .ok templates) (hsome : templates ≠ []) : Ended told (.listed templates)
  | resolved {reference : PromptReference} {template : PromptTemplate} {messages : List Message}
      (hfetched : Fetched told reference template) (hrender : render template reference.variable_map = .ok messages) :
      Ended told (.resolved messages)

inductive Refused (told : Told) : ResolveExn → Prop where
  | unlisted {organization_id : UUID} {name : String} (hcall : told.call = .list organization_id name)
      (h : ⟨.selectAscending organization_id name, .ok []⟩ ∈ told.steps) : Refused told (.notFound name none)
  | unresolved {organization_id : UUID} {reference : PromptReference}
      (hcall : told.call = .resolve organization_id reference)
      (h : ⟨.selectLatest organization_id reference.name reference.version, .ok none⟩ ∈ told.steps) :
      Refused told (.notFound reference.name reference.version)
  | conflicted {messages : List PromptMessageTemplate} {row : PromptTemplateRow} (hmade : Made told messages row)
      (h : ⟨.insertCommit row, .error integrityError⟩ ∈ told.steps) : Refused told (.prompt .versionConflict)
  | unread {row : PromptTemplateRow} {err : Exn} (hhandled : Handled told row) (h : toDomain row = .error err) :
      Refused told (.prompt (.failed err))
  | unrendered {reference : PromptReference} {template : PromptTemplate} {err : Exn}
      (hfetched : Fetched told reference template) (h : render template reference.variable_map = .error err) :
      Refused told (.prompt (.failed err))
  | failed {err : Exn} (h : Fails told err) : Refused told (.prompt (.failed err))

def Outcome : Except ResolveExn Result → Told → Prop :=
  Prog.ends (fun result told => Ended told result) fun err told => Refused told err

end Calls

section Spec

variable {told : Told} {organization_id : UUID} {name : String}

theorem Made.after {messages : List PromptMessageTemplate} {row : PromptTemplateRow} (h : Made told messages row)
    (c : PromptCommand) (r : PromptResponse c) : Made (told.after c r) messages row := by
  have hmore := History.extends_after told c r
  obtain ⟨latest, hread, hversion⟩ := h.read
  exact ⟨h.call, h.valid, h.items, hmore.steps _ h.drawn, latest, hmore.steps _ hread, hversion⟩

theorem Made.template {messages : List PromptMessageTemplate} {row : PromptTemplateRow} (h : Made told messages row)
    (hversion : 1 ≤ row.version) : ∃ template, toDomain row = .ok template ∧ template.messages = messages := by
  obtain ⟨template, hread, -, hmessages⟩ := toDomain_ok h.items (requestProblem_none h.valid hversion)
  exact ⟨template, hread, hmessages⟩

theorem raised_insert {row : PromptTemplateRow} {err : Exn} (h : err ≠ integrityError) :
    raised ⟨.insertCommit row, .error err⟩ = some err := if_neg h

theorem createVersion_spec {messages : List PromptMessageTemplate}
    (hcall : told.call = .create organization_id name messages) (hvalid : requestProblem name messages = none) :
    Prog.Spec May (createVersion organization_id name messages)
      (Prog.ends (fun template told' => Ended told' (.created template)) fun err told' =>
        Refused told' (.prompt err)) told := by
  refine Prog.wp_told trivial fun r => ?_
  cases r with
  | error err => exact .failed (.raised ⟨_, History.last_mem _ _ _, rfl⟩)
  | ok latest =>
    simp only [raising_ok, Prog.bind_eq, Prog.done_bind]
    refine Prog.wp_told trivial fun id => Prog.wp_told trivial fun created_at => ?_
    have hmade : Made (((told.after (.maxVersion organization_id name) (.ok latest)).after .uuid4 id).after .utcNow
        created_at) messages ⟨id, organization_id, name, latest.getD 0 + 1, messages.map messageItem,
            created_at.val⟩ := by
      refine ⟨hcall, hvalid, rfl, ?_, latest, ?_, rfl⟩
      · exact History.mem_after.mpr (.inl (History.last_mem _ _ _))
      · exact History.mem_after.mpr (.inl (History.mem_after.mpr (.inl (History.last_mem _ _ _))))
    refine Prog.wp_told ⟨messages, hmade⟩ fun r => ?_
    cases r with
    | ok u =>
      simp only
      generalize hread : toDomain _ = result
      cases result with
      | ok template => exact .created (hmade.after _ _) (History.last_mem _ _ _) hread
      | error err => exact .unread (.made (hmade.after _ _)) hread
    | error err =>
      simp only
      split_ifs with hintegrity
      · subst hintegrity
        refine Prog.wp_told trivial fun r => ?_
        cases r with
        | error err => exact .failed (.raised ⟨_, History.last_mem _ _ _, rfl⟩)
        | ok u =>
          exact .conflicted ((hmade.after _ _).after _ _) (History.mem_after.mpr (.inl (History.last_mem _ _ _)))
      · exact .failed (.raised ⟨_, History.last_mem _ _ _, raised_insert hintegrity⟩)

theorem createPromptVersion_spec {messages : List PromptMessageTemplate}
    (hcall : told.call = .create organization_id name messages) :
    Prog.Spec May (createPromptVersion organization_id name messages)
      (Prog.ends (fun template told' => Ended told' (.created template)) fun err told' => Refused told' (.prompt err))
      told := by
  unfold createPromptVersion
  cases hproblem : requestProblem name messages with
  | none => exact createVersion_spec hcall hproblem
  | some message =>
    refine .failed (.invalid ?_)
    rw [hcall]
    exact hproblem

theorem mapM_error {rows : List PromptTemplateRow} {err : Exn} (h : rows.mapM toDomain = .error err) :
    ∃ row ∈ rows, toDomain row = .error err := by
  obtain ⟨before, row, after, hrows, -, hrow⟩ := mapM_error_iff.mp h
  exact ⟨row, by simp [hrows], hrow⟩

theorem getPromptVersions_spec (hcall : told.call = .list organization_id name) :
    Prog.Spec May (getPromptVersions organization_id name)
      (Prog.ends (fun templates told' => Ended told' (.listed templates)) fun err told' => Refused told' err) told := by
  unfold getPromptVersions
  cases hproblem : validatePromptName name with
  | some message =>
    refine .failed (.invalid ?_)
    rw [hcall]
    exact hproblem
  | none =>
    refine Prog.wp_bind (Prog.wp_attempt (Prog.wp_told trivial fun r => ?_))
    cases r with
    | error err => exact .failed (.raised ⟨_, History.last_mem _ _ _, rfl⟩)
    | ok rows =>
      simp only [raising_ok, Prog.bind_eq, Prog.done_bind]
      have hasked := History.last_mem told (.selectAscending organization_id name) (.ok rows)
      cases hread : rows.mapM toDomain with
      | error err =>
        obtain ⟨row, hmem, hrow⟩ := mapM_error hread
        exact .unread (.ascending hasked hmem) hrow
      | ok templates =>
        cases templates with
        | nil =>
          have hnone : rows = [] := List.forall₂_nil_right_iff.mp (mapM_ok_iff.mp hread)
          subst hnone
          exact .unlisted hcall hasked
        | cons template templates => exact .listed hcall hasked hread (List.cons_ne_nil _ _)

theorem render_spec {reference : PromptReference} {template : PromptTemplate}
    (hfetched : Fetched told reference template) :
    Prog.Spec May (Prog.ofExcept ((render template reference.variable_map).mapError fun err => .prompt (.failed err)) :
        Action _)
      (Prog.ends (fun messages told' => Ended told' (.resolved messages)) fun err told' => Refused told' err) told := by
  cases hrender : render template reference.variable_map with
  | error err => exact .unrendered hfetched hrender
  | ok messages => exact .resolved hfetched hrender

theorem resolvePrompt_spec {reference : PromptReference} (hcall : told.call = .resolve organization_id reference) :
    Prog.Spec May (resolvePrompt organization_id reference)
      (Prog.ends (fun messages told' => Ended told' (.resolved messages)) fun err told' => Refused told' err) told := by
  refine Prog.wp_bind (Prog.wp_attempt (Prog.wp_told trivial fun r => ?_))
  cases r with
  | error err => exact .failed (.raised ⟨_, History.last_mem _ _ _, rfl⟩)
  | ok latest =>
    simp only [raising_ok, Prog.bind_eq, Prog.done_bind]
    have hasked := History.last_mem told (.selectLatest organization_id reference.name reference.version) (.ok latest)
    cases latest with
    | none => exact .unresolved hcall hasked
    | some row =>
      simp only
      cases hread : toDomain row with
      | error err => exact .unread (.latest hasked) hread
      | ok template => exact render_spec ⟨organization_id, row, hcall, hasked, hread⟩

theorem program_obeys (call : Call) : Prog.Spec May (program call) Outcome ⟨call, []⟩ := by
  cases call with
  | create organization_id name messages =>
    refine Prog.wp_bind (Prog.wp_attempt (Prog.wp_mono ?_ (createPromptVersion_spec rfl)))
    rintro (err | template) told h
    · exact h
    · exact h
  | list organization_id name => exact Prog.wp_seq (getPromptVersions_spec rfl) (fun _ _ h => h) fun _ _ h => h
  | resolve organization_id reference => exact Prog.wp_seq (resolvePrompt_spec rfl) (fun _ _ h => h) fun _ _ h => h

end Spec

section Runs

variable {w₀ w w' : PromptStore} {told : Told}

/-- What an answer says of the rows, to a call that was told nothing before `w₀`. -/
def Answered (w₀ w : PromptStore) : Step PromptCommand PromptResponse → Prop
  | ⟨.maxVersion organization_id name, .ok latest⟩ => ∃ known, w₀.own organization_id name <+: known ∧
    known <+: w.own organization_id name ∧ latest.getD 0 = known.length
  | ⟨.insertCommit row, .ok _⟩ => row ∈ w.prompts.rows
  | ⟨.insertCommit row, .error err⟩ => err = integrityError →
    w₀.organizations row.organization_id = false ∨ ∃ other ∈ w.prompts.rows, promptClash other row = true
  | ⟨.selectLatest organization_id name none, .ok latest⟩ => ∃ known, w₀.own organization_id name <+: known ∧
    known <+: w.own organization_id name ∧ known.getLast? = latest
  | ⟨.selectLatest organization_id name (some version), .ok none⟩ =>
    ∀ row ∈ w₀.own organization_id name, row.version ≠ version
  | ⟨.selectLatest organization_id name (some version), .ok (some row)⟩ =>
    row ∈ w.own organization_id name ∧ row.version = version
  | ⟨.selectAscending organization_id name, .ok rows⟩ =>
    w₀.own organization_id name <+: rows ∧ rows <+: w.own organization_id name
  | _ => True

theorem Answered.lasts {step : Step PromptCommand PromptResponse} (hlater : Later w w') (h : Answered w₀ w step) :
    Answered w₀ w' step := by
  unfold Answered at h ⊢
  split
  · obtain ⟨known, hstart, hknown, hlatest⟩ := h
    exact ⟨known, hstart, hknown.trans (hlater.own _ _), hlatest⟩
  · exact hlater.rows.mem h
  · intro hintegrity
    refine (h hintegrity).imp_right ?_
    rintro ⟨other, hmem, hclash⟩
    exact ⟨other, hlater.rows.mem hmem, hclash⟩
  · obtain ⟨known, hstart, hknown, hlatest⟩ := h
    exact ⟨known, hstart, hknown.trans (hlater.own _ _), hlatest⟩
  · exact h
  · exact ⟨(hlater.own _ _).mem h.1, h.2⟩
  · exact ⟨h.1, h.2.trans (hlater.own _ _)⟩
  · trivial

theorem insert_clash {row : PromptTemplateRow} (h : w.insert row = none) :
    w.organizations row.organization_id = false ∨ ∃ other ∈ w.prompts.rows, promptClash other row = true := by
  unfold PromptStore.insert at h
  split_ifs at h with horganization
  · exact .inr (Table.insert_none h)
  · exact .inl (by simpa using horganization)

theorem Answered.of_carriesOut {c : PromptCommand} {r : PromptResponse c} (hstart : Later w₀ w) (hsound : Sound w)
    (h : CarriesOut w c r w') : Answered w₀ w' ⟨c, r⟩ := by
  cases c with
  | uuid4 | utcNow => trivial
  | maxVersion organization_id name =>
    obtain ⟨rfl, rfl⟩ := h
    refine ⟨w'.own organization_id name, hstart.own _ _, List.prefix_rfl, ?_⟩
    rw [hsound.versions, max_firstVersions]
  | insertCommit row =>
    simp only [CarriesOut] at h
    cases hinsert : w.insert row with
    | none =>
      rw [hinsert] at h
      obtain ⟨rfl, rfl⟩ := h
      intro _
      refine (insert_clash hinsert).imp_left fun hnone => ?_
      by_contra hsome
      rw [hstart.organizations _ (by simpa using hsome)] at hnone
      cases hnone
    | some prompts =>
      rw [hinsert] at h
      obtain ⟨rfl, rfl⟩ := h
      change row ∈ prompts.rows
      rw [Table.insert_some (insert_rows hinsert)]
      exact List.mem_append_right _ (List.mem_singleton_self row)
  | rollback =>
    obtain ⟨rfl, rfl⟩ := h
    trivial
  | selectLatest organization_id name version =>
    obtain ⟨⟨latest, rfl, hlatest⟩, rfl⟩ := h
    cases version with
    | none =>
      have hall : ((w'.own organization_id name).filter fun row => Option.all (row.version = ·) none) =
          w'.own organization_id name := List.filter_eq_self.mpr fun _ _ => rfl
      rw [hall] at hlatest
      refine ⟨w'.own organization_id name, hstart.own _ _, List.prefix_rfl, ?_⟩
      cases latest with
      | none =>
        have hnone : w'.own organization_id name = [] := hlatest
        rw [hnone]
        rfl
      | some row => exact hsound.latest hlatest.1 hlatest.2
    | some version =>
      cases latest with
      | none =>
        intro row hrow hversion
        have hmem := (hstart.own organization_id name).mem hrow
        have hfiltered : row ∈ (w'.own organization_id name).filter (fun row => row.version = version) :=
          List.mem_filter.mpr ⟨hmem, decide_eq_true hversion⟩
        have hnone : (w'.own organization_id name).filter (fun row => row.version = version) = [] := hlatest
        rw [hnone] at hfiltered
        cases hfiltered
      | some row =>
        obtain ⟨hmem, hversion⟩ := List.mem_filter.mp hlatest.1
        exact ⟨hmem, of_decide_eq_true hversion⟩
  | selectAscending organization_id name =>
    obtain ⟨⟨rows, rfl, hperm, hsorted⟩, rfl⟩ := h
    rw [hsound.ascending hperm hsorted]
    exact ⟨hstart.own _ _, List.prefix_rfl⟩

theorem Answered.of_failing {c : PromptCommand} {r : PromptResponse c} {err : Exn} (hne : err ≠ integrityError)
    (h : failing err c = some r) : Answered w₀ w ⟨c, r⟩ := by
  cases c with
  | uuid4 | utcNow => cases h
  | insertCommit row =>
    cases h
    exact fun herr => absurd herr hne
  | maxVersion | rollback | selectAscending =>
    cases h
    trivial
  | selectLatest organization_id name version =>
    cases h
    cases version <;> trivial

theorem Answered.of_serves {c : PromptCommand} {r : PromptResponse c} (hstart : Later w₀ w) (hsound : Sound w)
    (h : Serves w c r w') : Answered w₀ w' ⟨c, r⟩ := by
  rcases h with h | ⟨err, hne, hfailing, -⟩
  · exact .of_carriesOut hstart hsound h
  · exact .of_failing hne hfailing

theorem own_other {row : PromptTemplateRow} {prompts : Table PromptTemplateRow promptClash} {organization_id : UUID}
    {name : String} (hinsert : w.insert row = some prompts)
    (hother : ¬ (row.organization_id = organization_id ∧ row.name = name)) :
    PromptStore.own { w with prompts := prompts } organization_id name = w.own organization_id name := by
  unfold PromptStore.own
  rw [Table.insert_some (insert_rows hinsert), List.filter_append]
  simp [hother]

/-- The row that is inserted has the next version: by the unique columns the latest version that was read is still the
latest. -/
theorem Sound.insert (hsound : Sound w) {messages : List PromptMessageTemplate} {row : PromptTemplateRow}
    {prompts : Table PromptTemplateRow promptClash} (hmade : Made told messages row)
    (hanswered : ∀ step ∈ told.steps, Answered w₀ w step) (hinsert : w.insert row = some prompts) :
    Sound { w with prompts := prompts } := by
  obtain ⟨latest, hread, hversion⟩ := hmade.read
  obtain ⟨known, -, hknown, hlatest⟩ := hanswered _ hread
  have hle := hknown.length_le
  have hnext : row.version = ((w.own row.organization_id row.name).length : ℤ) + 1 := by
    by_contra hne
    have hmem : row.version ∈ (w.own row.organization_id row.name).map PromptTemplateRow.version := by
      rw [hsound.versions, mem_firstVersions]
      omega
    obtain ⟨other, hother, hsame⟩ := List.mem_map.mp hmem
    exact insert_new_version hinsert rfl rfl hother hsame
  constructor
  · intro organization_id name
    by_cases hown : row.organization_id = organization_id ∧ row.name = name
    · obtain ⟨rfl, rfl⟩ := hown
      rw [own_insert hinsert rfl rfl, List.map_append, List.length_append, hsound.versions]
      change firstVersions _ ++ [row.version] = firstVersions (_ + 1)
      rw [firstVersions_succ, hnext]
    · rw [own_other hinsert hown]
      exact hsound.versions organization_id name
  · intro other hmem
    change other ∈ prompts.rows at hmem
    rcases Table.mem_inserted (insert_rows hinsert) hmem with hold | hnew
    · exact hsound.readable other hold
    · rw [hnew]
      obtain ⟨template, htemplate, -⟩ := hmade.template (by omega)
      exact ⟨template, htemplate⟩

variable [DecidableEq ι] {g : ι → Told}

/-- What holds of the rows and of what all calls were told, each since a state of its own. -/
structure Consistent (calls : ι → Call) (since : ι → PromptStore) (w : PromptStore) (g : ι → Told) : Prop where
  calls : ∀ i, (g i).call = calls i
  later : ∀ i, Later (since i) w
  sound : Sound w
  answered : ∀ i, ∀ step ∈ (g i).steps, Answered (since i) w step
  once : ∀ i j row, ⟨.insertCommit row, .ok ()⟩ ∈ (g i).steps → ⟨.insertCommit row, .ok ()⟩ ∈ (g j).steps → i = j

theorem sound_serves (h : Sound w) {c : PromptCommand} {r : PromptResponse c} (hmay : May told c)
    (hanswered : ∀ step ∈ told.steps, Answered w₀ w step) (hserves : Serves w c r w') : Sound w' := by
  rcases serves_rows hserves with rfl | ⟨row, prompts, rfl, hinsert, rfl⟩
  · exact h
  · obtain ⟨messages, hmade⟩ := hmay
    exact h.insert hmade hanswered hinsert

theorem consistent_keeps (calls : ι → Call) (since : ι → PromptStore) :
    Pool.Keeps concurrent History.after (fun _ _ _ _ => True) May (Consistent calls since) where
  answered := by
    intro w g i c r w' h hmay _ hserves
    have hlater : Later w w' := (grows (ι := ι)).answered i w c r w' hserves
    refine ⟨?_, fun j => (h.later j).trans hlater, sound_serves h.sound hmay (h.answered i) hserves, ?_, ?_⟩
    · intro j
      rw [(History.later_after g i c r j).call]
      exact h.calls j
    · intro j step hmem
      rcases History.mem_update hmem with hold | ⟨rfl, rfl⟩
      · exact (h.answered j step hold).lasts hlater
      · exact .of_serves (h.later j) h.sound hserves
    · have hnew : ∀ j row, ⟨.insertCommit row, .ok ()⟩ ∈ (g j).steps →
          (⟨c, r⟩ : Step PromptCommand PromptResponse) = ⟨.insertCommit row, .ok ()⟩ → False := by
        intro j row hold heq
        cases heq
        obtain ⟨prompts, hinsert, -⟩ := serves_inserted hserves
        have hfree := Table.insert_free (insert_rows hinsert) row (h.answered j _ hold)
        simp [promptClash] at hfree
      intro j k row hj hk
      rcases History.mem_update hj with hold | ⟨rfl, heq⟩
      · rcases History.mem_update hk with hold' | ⟨rfl, heq'⟩
        · exact h.once j k row hold hold'
        · exact (hnew j row hold heq'.symm).elim
      · rcases History.mem_update hk with hold' | ⟨hkj, -⟩
        · exact (hnew k row hold' heq.symm).elim
        · exact hkj.symm
  drifted := by
    intro w g w' h hdrift
    have hlater : Later w w' := (grows (ι := ι)).drifted w w' hdrift
    have hown : ∀ organization_id name, w'.own organization_id name = w.own organization_id name := by
      intro organization_id name
      unfold PromptStore.own
      rw [hdrift.1]
    refine ⟨h.calls, fun i => (h.later i).trans hlater, ⟨?_, ?_⟩, fun i step hmem =>
      (h.answered i step hmem).lasts hlater,
      h.once⟩
    · intro organization_id name
      rw [hown]
      exact h.sound.versions organization_id name
    · intro row hrow
      rw [hdrift.1] at hrow
      exact h.sound.readable row hrow

def start (calls : ι → Call) (w₀ : PromptStore) :
    Pool ι PromptCommand PromptResponse Empty ResolveExn Result PromptStore Told :=
  ⟨w₀, fun i => program (calls i), fun i => ⟨calls i, []⟩⟩

end Runs

section Results

/-- The template that a reference stands for between two states: the pinned version, or the latest at some time. -/
inductive Selected (before after : PromptStore) (organization_id : UUID) (reference : PromptReference)
    (template : PromptTemplate) : Prop where
  | pinned {version : ℤ} (hversion : reference.version = some version) (hpinned : template.version = version)
      (hthere : (log after organization_id reference.name)[version.toNat - 1]? = some template)
  | latest {known : List PromptTemplate} (hversion : reference.version = none)
      (hstart : log before organization_id reference.name <+: known)
      (hend : known <+: log after organization_id reference.name) (hlast : known.getLast? = some template)

/-- How a call ends that begins after `before` and is over by `after`. -/
inductive Linear (before after : PromptStore) (told : Told) : Except ResolveExn Result → Prop where
  | created {organization_id : UUID} {name : String} {messages : List PromptMessageTemplate} {template : PromptTemplate}
      (hcall : told.call = .create organization_id name messages) (hmessages : template.messages = messages)
      (hnew : ((log before organization_id name).length : ℤ) < template.version)
      (hthere : (log after organization_id name)[template.version.toNat - 1]? = some template) :
      Linear before after told (.ok (.created template))
  | listed {organization_id : UUID} {name : String} {templates : List PromptTemplate}
      (hcall : told.call = .list organization_id name) (hsome : templates ≠ [])
      (hstart : log before organization_id name <+: templates) (hend : templates <+: log after organization_id name) :
      Linear before after told (.ok (.listed templates))
  | resolved {organization_id : UUID} {reference : PromptReference} {template : PromptTemplate}
      {messages : List Message}
      (hcall : told.call = .resolve organization_id reference)
      (hselected : Selected before after organization_id reference template)
      (hrender : render template reference.variable_map = .ok messages) :
      Linear before after told (.ok (.resolved messages))
  | unlisted {organization_id : UUID} {name : String} (hcall : told.call = .list organization_id name)
      (hnone : log before organization_id name = []) : Linear before after told (.error (.notFound name none))
  | unresolved {organization_id : UUID} {reference : PromptReference}
      (hcall : told.call = .resolve organization_id reference)
      (hnone : ∀ template ∈ log before organization_id reference.name,
        ∃ version, reference.version = some version ∧ template.version ≠ version) :
      Linear before after told (.error (.notFound reference.name reference.version))
  | conflicted {organization_id : UUID} {name : String} {messages : List PromptMessageTemplate}
      (hcall : told.call = .create organization_id name messages)
      (hwhy : before.organizations organization_id = false ∨
        (log before organization_id name).length < (log after organization_id name).length ∨
        ∃ other ∈ after.prompts.rows, ⟨.uuid4, other.id⟩ ∈ told.steps) :
      Linear before after told (.error (.prompt .versionConflict))
  | unrendered {organization_id : UUID} {reference : PromptReference} {template : PromptTemplate} {err : Exn}
      (hcall : told.call = .resolve organization_id reference)
      (hselected : Selected before after organization_id reference template)
      (h : render template reference.variable_map = .error err) :
      Linear before after told (.error (.prompt (.failed err)))
  | failed {err : Exn} (h : Fails told err) : Linear before after told (.error (.prompt (.failed err)))

variable {before after : PromptStore} {told : Told}

theorem getLast_read {rows : List PromptTemplateRow} {row : PromptTemplateRow} {template : PromptTemplate}
    (hlast : rows.getLast? = some row) (hread : toDomain row = .ok template) :
    (rows.filterMap read).getLast? = some template := by
  obtain ⟨init, rfl⟩ := List.getLast?_eq_some_iff.mp hlast
  rw [List.filterMap_append, List.filterMap_cons_some (read_ok hread), List.filterMap_nil]
  exact List.getLast?_concat

theorem Fetched.selected {reference : PromptReference} {template : PromptTemplate} (hsound : Sound after)
    (hanswered : ∀ step ∈ told.steps, Answered before after step) (h : Fetched told reference template) :
    ∃ organization_id, told.call = .resolve organization_id reference ∧
      Selected before after organization_id reference template := by
  obtain ⟨organization_id, row, hcall, hasked, hread⟩ := h
  have htold := hanswered _ hasked
  refine ⟨organization_id, hcall, ?_⟩
  cases hversion : reference.version with
  | none =>
    rw [hversion] at htold
    obtain ⟨known, hstart, hknown, hlast⟩ := htold
    exact .latest hversion (hstart.filterMap _) (hknown.filterMap _) (getLast_read hlast hread)
  | some version =>
    rw [hversion] at htold
    obtain ⟨hmem, rfl⟩ := htold
    exact .pinned hversion (toDomain_version hread) (hsound.at_place hmem hread).2

theorem Made.bounds {messages : List PromptMessageTemplate} {row : PromptTemplateRow}
    (hanswered : ∀ step ∈ told.steps, Answered before after step) (h : Made told messages row) :
    ∃ known, before.own row.organization_id row.name <+: known ∧ known <+: after.own row.organization_id row.name ∧
      row.version = (known.length : ℤ) + 1 := by
  obtain ⟨latest, hread, hversion⟩ := h.read
  obtain ⟨known, hstart, hknown, hlatest⟩ := hanswered _ hread
  exact ⟨known, hstart, hknown, by rw [hversion, hlatest]⟩

theorem Handled.reads {row : PromptTemplateRow} (hsound : Sound after)
    (hanswered : ∀ step ∈ told.steps, Answered before after step) (h : Handled told row) :
    ∃ template, toDomain row = .ok template := by
  have hown : ∀ {organization_id : UUID} {name : String}, row ∈ after.own organization_id name →
      ∃ template, toDomain row = .ok template := fun hmem => hsound.readable row (mem_own.mp hmem).1
  cases h with
  | made hmade =>
    obtain ⟨known, -, -, hversion⟩ := hmade.bounds hanswered
    obtain ⟨template, hread, -⟩ := hmade.template (by omega)
    exact ⟨template, hread⟩
  | @latest organization_id name version h =>
    have htold := hanswered _ h
    cases version with
    | none =>
      obtain ⟨known, -, hknown, hlast⟩ := htold
      exact hown (hknown.mem (List.mem_of_getLast? hlast))
    | some version => exact hown htold.1
  | ascending h hmem => exact hown ((hanswered _ h).2.mem hmem)

theorem linear_of_ended (hbefore : Sound before) (hafter : Sound after)
    (hanswered : ∀ step ∈ told.steps, Answered before after step) {result : Result} (h : Ended told result) :
    Linear before after told (.ok result) := by
  cases h with
  | @created messages row template hmade hinsert hread =>
    obtain ⟨known, hstart, -, hversion⟩ := hmade.bounds hanswered
    have hrow : row ∈ after.own row.organization_id row.name := mem_own.mpr ⟨hanswered _ hinsert, rfl, rfl⟩
    obtain ⟨other, hother, hmessages⟩ := hmade.template (by omega)
    rw [hread] at hother
    cases hother
    have hplace := (hafter.at_place hrow hread).2
    rw [← toDomain_version hread] at hplace hversion
    refine .created hmade.call hmessages ?_ hplace
    rw [hbefore.length]
    have hle := hstart.length_le
    omega
  | listed hcall hrows hread hsome =>
    obtain ⟨hstart, hend⟩ := hanswered _ hrows
    have hstart' := hstart.filterMap read
    have hend' := hend.filterMap read
    rw [read_all hread] at hstart' hend'
    exact .listed hcall hsome hstart' hend'
  | resolved hfetched hrender =>
    obtain ⟨organization_id, hcall, hselected⟩ := hfetched.selected hafter hanswered
    exact .resolved hcall hselected hrender

theorem Made.clashes {messages : List PromptMessageTemplate} {row other : PromptTemplateRow} (hbefore : Sound before)
    (hafter : Sound after) (hanswered : ∀ step ∈ told.steps, Answered before after step)
        (hmade : Made told messages row)
    (hmem : other ∈ after.prompts.rows) (hclash : promptClash other row = true) :
    ⟨.uuid4, other.id⟩ ∈ told.steps ∨
      (log before row.organization_id row.name).length < (log after row.organization_id row.name).length := by
  unfold promptClash at hclash
  simp only [Bool.or_eq_true, Bool.and_eq_true, decide_eq_true_eq] at hclash
  rcases hclash with hid | ⟨⟨horganization, hname⟩, hversion⟩
  · rw [hid]
    exact .inl hmade.drawn
  · obtain ⟨known, hstart, -, hnext⟩ := hmade.bounds hanswered
    have hother : other ∈ after.own row.organization_id row.name := mem_own.mpr ⟨hmem, horganization, hname⟩
    have hbound : other.version ∈ firstVersions (after.own row.organization_id row.name).length := by
      rw [← hafter.versions]
      exact List.mem_map_of_mem hother
    rw [mem_firstVersions] at hbound
    rw [hbefore.length, hafter.length]
    have hle := hstart.length_le
    exact .inr (by omega)

theorem linear_of_refused (hbefore : Sound before) (hafter : Sound after)
    (hanswered : ∀ step ∈ told.steps, Answered before after step) {err : ResolveExn} (h : Refused told err) :
    Linear before after told (.error err) := by
  cases h with
  | unlisted hcall h =>
    obtain ⟨hstart, -⟩ := hanswered _ h
    refine .unlisted hcall ?_
    unfold log
    rw [List.prefix_nil.mp hstart]
    rfl
  | @unresolved organization_id reference hcall h =>
    have htold := hanswered _ h
    refine .unresolved hcall fun template hmem => ?_
    obtain ⟨row, hrow, hread⟩ := List.mem_filterMap.mp hmem
    cases hversion : reference.version with
    | none =>
      rw [hversion] at htold
      obtain ⟨known, hstart, -, hlast⟩ := htold
      have hnone := List.getLast?_eq_none_iff.mp hlast
      subst hnone
      rw [List.prefix_nil.mp hstart] at hrow
      cases hrow
    | some version =>
      rw [hversion] at htold
      refine ⟨version, rfl, ?_⟩
      have hsame : toDomain row = .ok template := by
        unfold read at hread
        cases hdomain : toDomain row with
        | error err =>
          rw [hdomain] at hread
          cases hread
        | ok other =>
          rw [hdomain] at hread
          cases hread
          rfl
      rw [toDomain_version hsame]
      exact htold row hrow
  | conflicted hmade h =>
    refine .conflicted hmade.call ?_
    rcases hanswered _ h rfl with hunknown | ⟨other, hmem, hclash⟩
    · exact .inl hunknown
    · rcases hmade.clashes hbefore hafter hanswered hmem hclash with hid | hgrown
      · exact .inr (.inr ⟨other, hmem, hid⟩)
      · exact .inr (.inl hgrown)
  | unread hhandled h =>
    obtain ⟨template, hread⟩ := hhandled.reads hafter hanswered
    rw [hread] at h
    cases h
  | unrendered hfetched h =>
    obtain ⟨organization_id, hcall, hselected⟩ := hfetched.selected hafter hanswered
    exact .unrendered hcall hselected h
  | failed h => exact .failed h

theorem toDomain_key {row : PromptTemplateRow} {template : PromptTemplate} (h : toDomain row = .ok template) :
    template.organization_id = row.organization_id ∧ template.name = row.name ∧ template.version = row.version := by
  unfold toDomain at h
  cases hmessages : row.messages.mapM readItem with
  | error err =>
    rw [hmessages] at h
    cases h
  | ok messages =>
    rw [hmessages] at h
    obtain ⟨_, rfl⟩ := of_validated h
    exact ⟨rfl, rfl, rfl⟩

variable [DecidableEq ι]

abbrev Prompts (ι : Type) := Pool ι PromptCommand PromptResponse Empty ResolveExn Result PromptStore Told

abbrev Runs (pool pool' : Prompts ι) : Prop :=
  Pool.Reaches concurrent History.after (fun _ _ _ _ => True) pool pool'

section Since

variable {calls : ι → Call} {w₀ w : PromptStore} {g : ι → Told} {since : ι → PromptStore} {i j : ι}

/-- A call that was told nothing yet may as well begin now. -/
theorem Consistent.afresh (h : Consistent calls (fun _ => w₀) w g) (hfresh : (g i).steps = []) :
    Consistent calls (Function.update (fun _ => w₀) i w) w g := by
  refine ⟨h.calls, fun j => ?_, h.sound, fun j step hmem => ?_, h.once⟩
  · by_cases hj : j = i
    · subst hj
      rw [Function.update_self]
      exact .refl _
    · rw [Function.update_of_ne hj]
      exact h.later j
  · by_cases hj : j = i
    · subst hj
      rw [hfresh] at hmem
      cases hmem
    · rw [Function.update_of_ne hj]
      exact h.answered j step hmem

omit [DecidableEq ι] in
theorem Consistent.created_once (h : Consistent calls since w g) {template other : PromptTemplate}
    (hi : Outcome (.ok (.created template)) (g i)) (hj : Outcome (.ok (.created other)) (g j))
    (horganization : other.organization_id = template.organization_id) (hname : other.name = template.name)
    (hversion : other.version = template.version) : j = i := by
  cases hi with
  | created hmade hinsert hread =>
    cases hj with
    | created hmade' hinsert' hread' =>
      obtain ⟨horganization₁, hname₁, hversion₁⟩ := toDomain_key hread
      obtain ⟨horganization₂, hname₂, hversion₂⟩ := toDomain_key hread'
      have hrow := h.answered i _ hinsert
      have hrow' := h.answered j _ hinsert'
      have hsame := h.sound.unique (mem_own.mpr ⟨hrow', rfl, rfl⟩)
        (mem_own.mpr ⟨hrow, by rw [← horganization₁, ← horganization, horganization₂],
          by rw [← hname₁, ← hname, hname₂]⟩) (by rw [← hversion₁, ← hversion₂, hversion])
      subst hsame
      exact h.once j i _ hinsert' hinsert

end Since

/-- In every run, calls act as if each took place at one moment between its beginning and its end: a version is new and
then there to stay, a listing or a rendering is of the versions of some moment, which are 1 to some `n`, and no version
is given out twice. -/
theorem prompt_calls_linear {calls : ι → Call} {w₀ : PromptStore} (hsound : Sound w₀) {before after : Prompts ι}
    (hrun : Runs (start calls w₀) before) (hlater : Runs before after) {i : ι} (hfresh : (before.note i).steps = [])
    {o : Except ResolveExn Result} (hover : after.rest i = Prog.ofExcept o) :
    Sound before.shared ∧ Sound after.shared ∧ (after.note i).call = calls i ∧
      Linear before.shared after.shared (after.note i) o ∧
      ∀ template, o = .ok (.created template) → ∀ j other, after.rest j = .done (.created other) →
        other.organization_id = template.organization_id → other.name = template.name →
          other.version = template.version → j = i := by
  have hlocal : ∀ (since : ι → PromptStore) w (g : ι → Told) i c (r : PromptResponse c) w',
      Consistent calls since w g → May (g i) c → True → concurrent.reply i w c r w' →
        (History.rule May).reply (g i) c r ((g i).after c r) := fun _ _ _ _ _ _ _ _ _ _ _ => rfl
  have hstart : Consistent calls (fun _ => w₀) w₀ (start calls w₀).note :=
    ⟨fun _ => rfl, fun _ => .refl _, hsound, fun _ _ h => absurd h List.not_mem_nil,
      fun _ _ _ h => absurd h List.not_mem_nil⟩
  obtain ⟨hobeys, hbefore⟩ := hrun.obeys (hlocal _) (consistent_keeps calls fun _ => w₀)
    (fun i => program_obeys (calls i)) hstart
  obtain ⟨hended, hafter⟩ := hlater.obeys (hlocal _) (consistent_keeps calls _) hobeys (hbefore.afresh hfresh)
  have hanswered : ∀ step ∈ (after.note i).steps, Answered before.shared after.shared step := by
    have htold := hafter.answered i
    rwa [Function.update_self] at htold
  have hoi : Outcome o (after.note i) := by
    have hi := hended i
    rw [hover] at hi
    cases o <;> exact hi
  refine ⟨hbefore.sound, hafter.sound, hafter.calls i, ?_, ?_⟩
  · cases o with
    | ok result => exact linear_of_ended hbefore.sound hafter.sound hanswered hoi
    | error err => exact linear_of_refused hbefore.sound hafter.sound hanswered hoi
  · rintro template rfl j other hj horganization hname hversion
    have hoj : Outcome (.ok (.created other)) (after.note j) := by
      have hfinal := hended j
      rwa [hj] at hfinal
    exact hafter.created_once hoi hoj horganization hname hversion

end Results

section Samples

def authorCalls : Author → Call
  | .first => .create ⟨7⟩ "greeting" [greeting]
  | .second => .list ⟨7⟩ "greeting"

def answers (i : Author) (w : PromptStore) (c : PromptCommand) : Option (PromptResponse c × PromptStore) :=
  match c with
  | .selectAscending organization_id name =>
    if (w.own organization_id name).Pairwise fun a b => a.version ≤ b.version then
      some (.ok (w.own organization_id name), w)
    else none
  | c => script i w c

theorem answers_replies (i : Author) (w : PromptStore) (c : PromptCommand) (r : PromptResponse c) (w' : PromptStore)
    (h : answers i w c = some (r, w')) : concurrent.reply i w c r w' := by
  have hscript : script i w c = some (r, w') → concurrent.reply i w c r w' :=
    fun h => .inl (script_replies i w c r w' h)
  cases c with
  | selectAscending organization_id name =>
    simp only [answers] at h
    split_ifs at h with hsorted
    cases h
    exact .inl ⟨⟨_, rfl, .refl _, hsorted⟩, rfl⟩
  | _ => exact hscript h

def nothingYet : Prompts Author := start authorCalls noPrompts

def created : Prompts Author := Pool.turns answers History.after (List.replicate 4 .first) nothingYet

def listed : Prompts Author := Pool.turns answers History.after [.second] created

theorem answers_runs (schedule : List Author) (pool : Prompts Author) :
    Runs pool (Pool.turns answers History.after schedule pool) :=
  Pool.turns_reach answers_replies (fun _ _ _ _ _ _ _ => trivial) _ _

theorem noPrompts_sound : Sound noPrompts := ⟨fun _ _ => rfl, fun _ h => absurd h List.not_mem_nil⟩

def outcome : Action Result → Option (Except ResolveExn Result)
  | .done result => some (.ok result)
  | .raise err => some (.error err)
  | _ => none

theorem rest_of_outcome {rest : Action Result} (h : (outcome rest).isSome = true) : ∃ o, rest = Prog.ofExcept o := by
  cases rest with
  | done result => exact ⟨.ok result, rfl⟩
  | raise err => exact ⟨.error err, rfl⟩
  | call c k => cases h
  | yield e k => cases h

theorem listed_over : (outcome (listed.rest .second)).isSome = true := by decide +kernel

/-- The version that the first author creates is there when the second lists. -/
theorem greeting_listed : (log created.shared ⟨7⟩ "greeting").length = 1 ∧
    ∃ o, listed.rest .second = Prog.ofExcept o ∧ Sound created.shared ∧ Sound listed.shared ∧
      (listed.note .second).call = authorCalls .second ∧
      Linear created.shared listed.shared (listed.note .second) o ∧
        ∀ template, o = .ok (.created template) → ∀ j other, listed.rest j = .done (.created other) →
          other.organization_id = template.organization_id → other.name = template.name →
            other.version = template.version → j = .second := by
  obtain ⟨o, ho⟩ := rest_of_outcome listed_over
  exact ⟨by decide +kernel, o, ho, prompt_calls_linear noPrompts_sound (answers_runs _ nothingYet)
    (answers_runs _ created) rfl ho⟩

end Samples

end AIRuntime.PromptRuns
