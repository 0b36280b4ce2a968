import AIRuntime.EffectHistories
import AIRuntime.ServiceRuns
import AIRuntime.SharedStores
import AIRuntime.TenantRecords
import AIRuntime.Traversals

set_option autoImplicit false

/-! Any number of calls that create organizations and register tool servers at the same time. -/
namespace AIRuntime.RegistryRuns

open ApiKeyRecords EffectPrograms PythonText Failures Identifiers SharedStores McpTools TenantRecords

variable {ι : Type}

section Store

/-- The primary keys of the two tables and their unique columns. -/
def clash : Row → Row → Bool
  | .organization a, .organization b => a.id = b.id || a.slug = b.slug
  | .server a, .server b => a.id = b.id || (a.organization_id = b.organization_id && a.name = b.name)
  | _, _ => false

/-- What only one row may have: a slug, or a name within an organization. -/
inductive Claim where
  | slug (slug : String)
  | server (organization_id : UUID) (name : String)

def Row.claim : Row → Claim
  | .organization row => .slug row.slug
  | .server row => .server row.organization_id row.name

def Row.id : Row → UUID
  | .organization row => row.id
  | .server row => row.id

def Claim.conflict : Claim → RegistryExn
  | .slug text => .slugConflict text
  | .server _ name => .nameConflict name

theorem clash_of_claim {a b : Row} (h : Row.claim a = Row.claim b) : clash a b = true := by
  cases a with
  | organization a =>
    cases b with
    | organization b => simp_all [Row.claim, clash]
    | server b => cases h
  | server a =>
    cases b with
    | organization b => cases h
    | server b => simp_all [Row.claim, clash]

theorem of_clash {a b : Row} (h : clash a b = true) : Row.id a = Row.id b ∨ Row.claim a = Row.claim b := by
  cases a <;> cases b <;> simp_all [Row.claim, Row.id, clash]

abbrev RegistryStore := Table Row clash

namespace RegistryStore

def organizations (w : RegistryStore) : List OrganizationRow :=
  w.rows.filterMap fun row => match row with
    | .organization row => some row
    | .server _ => none

def servers (w : RegistryStore) : List McpServerRow :=
  w.rows.filterMap fun row => match row with
    | .organization _ => none
    | .server row => some row

def own (w : RegistryStore) (organization_id : UUID) : List McpServerRow :=
  w.servers.filter fun row => row.organization_id = organization_id

/-- The foreign key of a server's row. -/
def Referenced (w : RegistryStore) : Row → Prop
  | .organization _ => True
  | .server row => ∃ organization ∈ w.organizations, organization.id = row.organization_id

theorem mem_organizations {w : RegistryStore} {row : OrganizationRow} :
    row ∈ w.organizations ↔ .organization row ∈ w.rows := by
  unfold organizations
  rw [List.mem_filterMap]
  constructor
  · rintro ⟨row', hmem, hrow⟩
    cases row' with
    | organization row' =>
      cases hrow
      exact hmem
    | server row' => cases hrow
  · intro h
    exact ⟨_, h, rfl⟩

theorem organization_unique {w : RegistryStore} {a b : OrganizationRow} (ha : a ∈ w.organizations)
    (hb : b ∈ w.organizations) (h : a.id = b.id) : a = b := by
  have hnodup : (w.organizations.map OrganizationRow.id).Nodup := by
    refine List.pairwise_map.mpr (List.pairwise_filterMap.mpr (w.ok.imp ?_))
    intro x y hxy a ha b hb
    cases x <;> cases y <;> simp_all [clash]
  exact List.inj_on_of_nodup_map hnodup ha hb h

theorem claims_apart (w : RegistryStore) : w.rows.Pairwise fun a b => Row.claim a ≠ Row.claim b := by
  refine w.ok.imp ?_
  intro a b hfree hclaim
  rw [clash_of_claim hclaim] at hfree
  cases hfree

end RegistryStore

def Executes (w : RegistryStore) (c : RegistryCommand) (r : RegistryResponse c) (w' : RegistryStore) : Prop :=
  match c, r with
  | .utcNow, _ => w' = w
  | .uuid4, _ => w' = w
  | .selectBySlug slug, r => r = .ok (w.organizations.find? fun row => row.slug = slug) ∧ w' = w
  | .getOrganization id, r => r = .ok (w.organizations.find? fun row => row.id = id) ∧ w' = w
  | .insertCommit row, r =>
    (w.Referenced row ∧ r = .ok () ∧ w.insert row = some w') ∨
      ((¬ w.Referenced row ∨ w.insert row = none) ∧ r = .error integrityError ∧ w' = w)
  | .rollback, r => r = .ok () ∧ w' = w
  | .refreshOrganization id, r =>
    ((∃ row ∈ w.organizations, row.id = id ∧ r = .ok row) ∨
      (∀ row ∈ w.organizations, row.id ≠ id) ∧ r = .error (.database "InvalidRequestError")) ∧ w' = w
  | .selectServers organization_id, r =>
    (∃ rows, r = .ok rows ∧ rows.Perm (w.own organization_id)) ∧ w' = w

/-- The answer of a command that fails; the clock and `uuid4` do not. -/
def failing (err : Exn) : (c : RegistryCommand) → Option (RegistryResponse c)
  | .utcNow => none
  | .uuid4 => none
  | .selectBySlug _ => some (.error err)
  | .getOrganization _ => some (.error err)
  | .insertCommit _ => some (.error err)
  | .rollback => some (.error err)
  | .refreshOrganization _ => some (.error err)
  | .selectServers _ => some (.error err)

/-- If it is faulty, the database may fail at any command, before or after it has carried it out. -/
def CarriesOut (faulty : Bool) (w : RegistryStore) (c : RegistryCommand) (r : RegistryResponse c)
    (w' : RegistryStore) : Prop :=
  Executes w c r w' ∨ faulty = true ∧ ∃ err, err ≠ integrityError ∧ failing err c = some r ∧
    (w' = w ∨ ∃ answer, Executes w c answer w')

def concurrent (faulty : Bool) : Arbiter ι RegistryCommand RegistryResponse RegistryStore where
  reply := fun _ => CarriesOut faulty
  drift := fun w w' => w' = w

theorem executes_rows {w w' : RegistryStore} {c : RegistryCommand} {r : RegistryResponse c} (h : Executes w c r w') :
    w' = w ∨ ∃ row, c = .insertCommit row ∧ w.Referenced row ∧ w'.rows = w.rows ++ [row] := by
  cases c with
  | utcNow | uuid4 => exact .inl h
  | insertCommit row =>
    rcases h with ⟨hreferenced, -, hinsert⟩ | ⟨-, -, hw⟩
    · exact .inr ⟨row, rfl, hreferenced, Table.insert_some hinsert⟩
    · exact .inl hw
  | selectBySlug | getOrganization | rollback | refreshOrganization | selectServers => exact .inl h.2

theorem carriesOut_rows {faulty : Bool} {w w' : RegistryStore} {c : RegistryCommand} {r : RegistryResponse c}
    (h : CarriesOut faulty w c r w') :
    w' = w ∨ ∃ row, c = .insertCommit row ∧ w.Referenced row ∧ w'.rows = w.rows ++ [row] := by
  rcases h with h | ⟨-, err, -, -, h | ⟨answer, h⟩⟩
  · exact executes_rows h
  · exact .inl h
  · exact executes_rows h

theorem grows (faulty : Bool) : Pool.Grows (ι := ι) (concurrent faulty) fun w w' => w.rows <+: w'.rows where
  refl := fun _ => List.prefix_rfl
  trans := fun _ _ _ => List.IsPrefix.trans
  answered := by
    intro i w c r w' h
    rcases carriesOut_rows h with rfl | ⟨row, -, -, hrows⟩
    · exact List.prefix_rfl
    · rw [hrows]
      exact List.prefix_append _ _
  drifted := by
    rintro w w' rfl
    exact List.prefix_rfl

end Store

section Calls

inductive Call where
  | create (name slug : String)
  | get (organization_id : UUID)
  | register (organization_id : UUID) (name url : String) (headers : Option (List (String × String)))
  | list (organization_id : UUID)

inductive Result where
  | created (organization : Organization)
  | found (organization : Organization)
  | registered (server : McpServer)
  | listed (summaries : List McpServerSummary)

variable (urlparse : UrlParse)

def program : Call → RegistryAction Result
  | .create name slug => (createOrganization name slug).bind fun organization => .done (.created organization)
  | .get organization_id => (getOrganization organization_id).bind fun organization => .done (.found organization)
  | .register organization_id name url headers =>
    (registerMcpServer urlparse organization_id name url headers).bind fun server => .done (.registered server)
  | .list organization_id => (listMcpServers urlparse organization_id).bind fun summaries => .done (.listed summaries)

def Valid : Call → Prop
  | .create name slug => (requireNonBlank name "name").or (slugProblem slug) = none
  | .register _ name url _ => validateMcpServerName name = none ∧ validateMcpServerUrl urlparse url = .ok ()
  | _ => True

def Call.claim : Call → Option Claim
  | .create _ slug => some (.slug slug)
  | .register organization_id name _ _ => some (.server organization_id name)
  | _ => none

/-- A valid row of what the call is to store. -/
inductive Stores : Call → Row → Prop where
  | organization {name slug : String} (organization : Organization) (hname : organization.name = name)
      (hslug : organization.slug = slug) (hstatus : organization.status = .active) :
      Stores (.create name slug) (.organization (toRow organization))
  | server {organization_id : UUID} {name url : String} {headers : Option (List (String × String))} {row : McpServerRow}
      (horganization : row.organization_id = organization_id) (hname : row.name = name) (hurl : row.url = strip url)
      (hheaders : row.headers = headers.getD []) (hvalid : ∃ server, serverOf urlparse row = .ok server) :
      Stores (.register organization_id name url headers) (.server row)

theorem Stores.claim {call : Call} {row : Row} (h : Stores urlparse call row) : call.claim = some (Row.claim row) := by
  cases h with
  | organization organization hname hslug hstatus => exact congrArg some (congrArg Claim.slug hslug.symm)
  | server horganization hname hurl hheaders hvalid =>
    rw [← horganization, ← hname]
    rfl

abbrev Told := History Call RegistryCommand RegistryResponse

def Drew (told : Told) (id : UUID) : Prop := ⟨.uuid4, id⟩ ∈ told.steps

def Inserted (told : Told) : Prop := ∃ row r, ⟨.insertCommit row, r⟩ ∈ told.steps

def Wrote (told : Told) (row : Row) : Prop := ⟨.insertCommit row, .ok ()⟩ ∈ told.steps

def May (told : Told) : RegistryCommand → Prop
  | .uuid4 => ∀ id, ¬ Drew told id
  | .insertCommit row => ¬ Inserted told ∧ Stores urlparse told.call row ∧ Drew told (Row.id row)
  | .refreshOrganization id => ∃ row : OrganizationRow, row.id = id ∧ Wrote told (.organization row)
  | .selectServers organization_id => told.call = .list organization_id
  | _ => True

/-- What the answer of the database raises, but for a conflict. -/
def raised (step : Step RegistryCommand RegistryResponse) : Option Exn :=
  match step with
  | ⟨.selectBySlug _, .error err⟩ => some err
  | ⟨.getOrganization _, .error err⟩ => some err
  | ⟨.insertCommit _, .error err⟩ => if err = integrityError then none else some err
  | ⟨.rollback, .error err⟩ => some err
  | ⟨.refreshOrganization _, .error err⟩ => some err
  | ⟨.selectServers _, .error err⟩ => some err
  | _ => none

def Unreadable (step : Step RegistryCommand RegistryResponse) : Prop :=
  match step with
  | ⟨.selectBySlug _, .ok (some row)⟩ => ∃ err, toDomain row = .error err
  | ⟨.getOrganization _, .ok (some row)⟩ => ∃ err, toDomain row = .error err
  | ⟨.refreshOrganization _, .ok row⟩ => ∃ err, toDomain row = .error err
  | ⟨.selectServers _, .ok rows⟩ => ∃ row ∈ rows, ∃ err, serverOf urlparse row = .error err
  | _ => False

inductive Fails (told : Told) : Prop where
  | invalid (h : ¬ Valid urlparse told.call)
  | raised {err : Exn} (h : History.Raised raised told err)
  | unreadable {step : Step RegistryCommand RegistryResponse} (hmem : step ∈ told.steps) (h : Unreadable urlparse step)

inductive Refused (told : Told) : RegistryExn → Prop where
  | found {name slug : String} {row : OrganizationRow} (hcall : told.call = .create name slug)
      (hunwritten : ¬ Inserted told) (hread : ⟨.selectBySlug slug, .ok (some row)⟩ ∈ told.steps)
      : Refused told (.slugConflict slug)
  | clashed {row : Row} (hstores : Stores urlparse told.call row)
      (hinsert : ⟨.insertCommit row, .error integrityError⟩ ∈ told.steps) : Refused told (Row.claim row).conflict
  | unknown {organization_id : UUID} (hcall : told.call = .get organization_id) :
      Refused told (.organizationNotFound organization_id)
  | failed {err : Exn} (h : Fails urlparse told) : Refused told (.failed err)

inductive Ended (told : Told) : Result → Prop where
  | created {row read : OrganizationRow} {organization : Organization}
      (hstores : Stores urlparse told.call (.organization row)) (hwrote : Wrote told (.organization row))
      (hread : ⟨.refreshOrganization row.id, .ok read⟩ ∈ told.steps) (hdomain : toDomain read = .ok organization) :
      Ended told (.created organization)
  | found {organization_id : UUID} {row : OrganizationRow} {organization : Organization}
      (hcall : told.call = .get organization_id)
      (hread : ⟨.getOrganization organization_id, .ok (some row)⟩ ∈ told.steps)
      (hdomain : toDomain row = .ok organization) : Ended told (.found organization)
  | registered {row : McpServerRow} {server : McpServer} (hstores : Stores urlparse told.call (.server row))
      (hwrote : Wrote told (.server row)) (hdomain : serverOf urlparse row = .ok server)
      : Ended told (.registered server)
  | listed {organization_id : UUID} {rows : List McpServerRow} {servers : List McpServer}
      (hcall : told.call = .list organization_id) (hread : ⟨.selectServers organization_id, .ok rows⟩ ∈ told.steps)
      (hdomain : rows.mapM (serverOf urlparse) = .ok servers) : Ended told (.listed (servers.filterMap summaryOf))

def Outcome : Except RegistryExn Result → Told → Prop :=
  Prog.ends (fun result told => Ended urlparse told result) fun err told => Refused urlparse told err

end Calls

section Spec

variable {urlparse : UrlParse} {told told' : Told}

structure Reads (told told' : Told) : Prop extends History.Extends told told' where
  unwritten : Inserted told' → Inserted told
  undrawn : ∀ id, Drew told' id → Drew told id

theorem Reads.refl (told : Told) : Reads told told := ⟨.refl told, id, fun _ => id⟩

theorem Reads.after {c : RegistryCommand} {r : RegistryResponse c} (h : Reads told told')
    (hinsert : ∀ row, c ≠ .insertCommit row) (huuid4 : c ≠ .uuid4) : Reads told (told'.after c r) := by
  refine ⟨h.toExtends.trans (History.extends_after told' c r), ?_, ?_⟩
  · rintro ⟨row, answer, hmem⟩
    apply h.unwritten
    rcases History.mem_after.mp hmem with hold | heq
    · exact ⟨row, answer, hold⟩
    · cases heq
      exact absurd rfl (hinsert row)
  · intro id hmem
    apply h.undrawn id
    rcases History.mem_after.mp hmem with hold | heq
    · exact hold
    · cases heq
      exact absurd rfl huuid4

theorem Stores.mono {row : Row} (h : Stores urlparse told.call row) (hmore : History.Extends told told') :
    Stores urlparse told'.call row := by
  rw [hmore.call]
  exact h

theorem readRow_spec {c : RegistryCommand} {row : Option OrganizationRow} {r : RegistryResponse c}
    (hunreadable : ∀ organization err, row = some organization → toDomain organization = .error err →
      Unreadable urlparse (⟨c, r⟩ : Step RegistryCommand RegistryResponse)) :
    Prog.Spec (May urlparse) (readRow row) (Prog.ends (fun found told' => told' = told.after c r ∧
      ((row = none ∧ found = none) ∨ ∃ read organization, row = some read ∧ found = some organization ∧
        toDomain read = .ok organization)) fun err told' => Refused urlparse told' err) (told.after c r) := by
  cases row with
  | none => exact ⟨rfl, .inl ⟨rfl, rfl⟩⟩
  | some row =>
    apply Prog.ofExcept_spec
    · intro organization hdomain
      exact ⟨rfl, .inr ⟨row, organization, rfl, rfl, hdomain⟩⟩
    · intro err hdomain
      exact .failed (.unreadable (History.last_mem told c r) (hunreadable row err rfl hdomain))

theorem getBySlug_spec {slug : String} : Prog.Spec (May urlparse) (getBySlug slug) (Prog.ends
    (fun found told' => Reads told told' ∧
      (found ≠ none → ∃ row, ⟨.selectBySlug slug, .ok (some row)⟩ ∈ told'.steps))
    fun err told' => Refused urlparse told' err) told := by
  refine Prog.wp_told trivial fun r => ?_
  apply Prog.answered_spec raised (c := .selectBySlug slug) (r := r)
  · rintro err rfl
    rfl
  · rintro row rfl
    refine Prog.wp_mono ?_ (readRow_spec ?_)
    · rintro (err | found) told' h
      · exact h
      · obtain ⟨rfl, h⟩ := h
        refine ⟨(Reads.refl told).after nofun nofun, fun hsome => ?_⟩
        rcases h with ⟨-, rfl⟩ | ⟨read, organization, rfl, -, -⟩
        · exact absurd rfl hsome
        · exact ⟨read, History.last_mem _ _ _⟩
    · rintro organization err rfl hdomain
      exact ⟨err, hdomain⟩
  · exact fun err h => .failed (.raised h)

theorem commitNew_spec {row : Row} (hmay : May urlparse told (.insertCommit row)) :
    Prog.Spec (May urlparse) (commitNew row (Row.claim row).conflict) (Prog.ends
      (fun _ told' => told' = told.after (.insertCommit row) (.ok ()))
      fun err told' => Refused urlparse told' err) told := by
  refine Prog.wp_told hmay fun r => ?_
  cases r with
  | ok u => exact rfl
  | error err =>
    simp only
    split_ifs with hintegrity
    · subst hintegrity
      refine Prog.wp_told trivial fun r => ?_
      apply Prog.answered_spec raised (c := .rollback) (r := r)
      · rintro err rfl
        rfl
      · rintro u rfl
        exact .clashed (hmay.2.1.mono ((History.extends_after _ _ _).trans (History.extends_after _ _ _)))
          (History.mem_after.mpr (.inl (History.last_mem _ _ _)))
      · exact fun err h => .failed (.raised h)
    · have hraised : raised ⟨.insertCommit row, .error err⟩ = some err := if_neg hintegrity
      exact .failed (.raised ⟨_, History.last_mem _ _ _, hraised⟩)

theorem addOrganization_spec {organization : Organization} (hmay : May urlparse told
    (.insertCommit (.organization (toRow organization)))) :
    Prog.Spec (May urlparse) (addOrganization organization)
      (Prog.ends (fun stored told' => Ended urlparse told' (.created stored))
        fun err told' => Refused urlparse told' err) told := by
  refine Prog.wp_seq (commitNew_spec hmay) ?_ fun _ _ h => h
  rintro u told' rfl
  refine Prog.wp_told ⟨toRow organization, rfl, History.last_mem _ _ _⟩ fun r => ?_
  apply Prog.answered_spec raised (c := .refreshOrganization organization.id) (r := r)
  · rintro err rfl
    rfl
  · rintro row rfl
    rw [← Prog.bind_done (registering _)]
    apply Prog.ofExcept_spec
    · intro stored hdomain
      exact .created (hmay.2.1.mono ((History.extends_after _ _ _).trans (History.extends_after _ _ _)))
        (History.mem_after.mpr (.inl (History.last_mem _ _ _))) (History.last_mem _ _ _) hdomain
    · intro err hdomain
      exact .failed (.unreadable (History.last_mem _ _ _) ⟨err, hdomain⟩)
  · exact fun err h => .failed (.raised h)

theorem createOrganization_spec {name slug : String} (hcall : told.call = .create name slug)
    (hunwritten : ¬ Inserted told) (hundrawn : ∀ id, ¬ Drew told id) :
    Prog.Spec (May urlparse) (createOrganization name slug)
      (Prog.ends (fun stored told' => Ended urlparse told' (.created stored))
        fun err told' => Refused urlparse told' err) told := by
  refine Prog.wp_seq getBySlug_spec ?_ fun _ _ h => h
  rintro found told₁ ⟨hreads, hfound⟩
  have hcall₁ := hreads.call.trans hcall
  cases found with
  | some organization =>
    obtain ⟨row, hread⟩ := hfound (Option.some_ne_none organization)
    exact .found hcall₁ (mt hreads.unwritten hunwritten) hread
  | none =>
    refine Prog.wp_told trivial fun now => ?_
    have hnow := hreads.after (c := .utcNow) (r := now) nofun nofun
    refine Prog.wp_told (fun id hdrew => hundrawn id (hnow.undrawn id hdrew)) fun id => ?_
    apply Prog.ofExcept_spec
    · intro organization hnew
      obtain ⟨hproblem, rfl⟩ := of_validated hnew
      apply addOrganization_spec
      refine ⟨?_, ?_, History.last_mem _ _ _⟩
      · rintro ⟨row, r, hmem⟩
        rcases History.mem_after.mp hmem with hold | heq
        · exact hunwritten (hnow.unwritten ⟨row, r, hold⟩)
        · cases heq
      · have hstores : Stores urlparse (.create name slug) (.organization
            (toRow ⟨id, name, slug, .active, now.val, now.val, hproblem⟩)) := .organization _ rfl rfl rfl
        rw [← hcall₁] at hstores
        exact hstores
    · intro err hnew
      refine .failed (.invalid fun hvalid => ?_)
      have hcall₂ : ((told₁.after .utcNow now).after .uuid4 id).call = .create name slug := hcall₁
      rw [hcall₂] at hvalid
      have hnone : Organization.problem name slug now.val now.val = none := by
        have hvalid' : (requireNonBlank name "name").or (slugProblem slug) = none := hvalid
        obtain ⟨hname, hslug⟩ := GenerationContracts.or_none hvalid'
        have haware : now.val.utcoffset ≠ none := by
          rw [now.property]
          nofun
        unfold Organization.problem
        rw [hname, hslug]
        simp [haware]
      unfold Organization.new at hnew
      rw [validated_ok hnone] at hnew
      cases hnew

theorem getOrganization_spec {organization_id : UUID} (hcall : told.call = .get organization_id) :
    Prog.Spec (May urlparse) (getOrganization organization_id)
      (Prog.ends (fun found told' => Ended urlparse told' (.found found))
        fun err told' => Refused urlparse told' err) told := by
  have hread : Prog.Spec (May urlparse) (getById organization_id) (Prog.ends (fun found told' => told'.call = told.call ∧
      (found = none ∨ ∃ organization, found = some organization ∧ ∃ row,
        ⟨.getOrganization organization_id, .ok (some row)⟩ ∈ told'.steps ∧ toDomain row = .ok organization))
      fun err told' => Refused urlparse told' err) told := by
    refine Prog.wp_told trivial fun r => ?_
    apply Prog.answered_spec raised (c := .getOrganization organization_id) (r := r)
    · rintro err rfl
      rfl
    · rintro row rfl
      refine Prog.wp_mono ?_ (readRow_spec ?_)
      · rintro (err | found) told' h
        · exact h
        · obtain ⟨rfl, ⟨-, rfl⟩ | ⟨read, organization, rfl, rfl, hdomain⟩⟩ := h
          · exact ⟨rfl, .inl rfl⟩
          · exact ⟨rfl, .inr ⟨organization, rfl, read, History.last_mem _ _ _, hdomain⟩⟩
      · rintro organization err rfl hdomain
        exact ⟨err, hdomain⟩
    · exact fun err h => .failed (.raised h)
  refine Prog.wp_seq hread ?_ fun _ _ h => h
  rintro found told' ⟨hsame, rfl | ⟨organization, rfl, row, hmem, hdomain⟩⟩
  · exact .unknown (hsame.trans hcall)
  · exact .found (hsame.trans hcall) hmem hdomain

theorem addServer_spec {row : McpServerRow} (hmay : May urlparse told (.insertCommit (.server row)))
    (hvalid : ∃ server, serverOf urlparse row = .ok server) :
    Prog.Spec (May urlparse) (addServer urlparse row)
      (Prog.ends (fun stored told' => Ended urlparse told' (.registered stored))
        fun err told' => Refused urlparse told' err) told := by
  refine Prog.wp_seq (commitNew_spec hmay) ?_ fun _ _ h => h
  rintro u told' rfl
  obtain ⟨server, hserver⟩ := hvalid
  rw [hserver]
  exact .registered (hmay.2.1.mono (History.extends_after _ _ _)) (History.last_mem _ _ _) hserver

theorem registerMcpServer_spec {organization_id : UUID} {name url : String} {headers : Option (List (String × String))}
    (hcall : told.call = .register organization_id name url headers) (hunwritten : ¬ Inserted told)
    (hundrawn : ∀ id, ¬ Drew told id) :
    Prog.Spec (May urlparse) (registerMcpServer urlparse organization_id name url headers)
      (Prog.ends (fun stored told' => Ended urlparse told' (.registered stored)) fun err told' =>
        Refused urlparse told' err) told := by
  apply Prog.ofExcept_spec
  · intro u hname
    obtain ⟨hname, -⟩ := of_validated hname
    apply Prog.ofExcept_spec
    · intro u hurl
      refine Prog.wp_told trivial fun now => ?_
      have hnow := (Reads.refl told).after (c := .utcNow) (r := now) nofun nofun
      refine Prog.wp_told (fun id hdrew => hundrawn id (hnow.undrawn id hdrew)) fun id => ?_
      have hvalid := @serverOf_isOk urlparse ⟨id, organization_id, name, strip url, headers.getD [], now.val⟩ hname
        ((validateMcpServerUrl_strip urlparse url).trans hurl)
      apply Prog.ofExcept_spec
      · intro server _
        apply addServer_spec _ hvalid
        refine ⟨?_, ?_, History.last_mem _ _ _⟩
        · rintro ⟨row, r, hmem⟩
          rcases History.mem_after.mp hmem with hold | heq
          · exact hunwritten (hnow.unwritten ⟨row, r, hold⟩)
          · cases heq
        · have hstores : Stores urlparse (.register organization_id name url headers)
              (.server ⟨id, organization_id, name, strip url, headers.getD [], now.val⟩) :=
            .server rfl rfl rfl rfl hvalid
          rw [← hcall] at hstores
          exact hstores
      · intro err herr
        obtain ⟨server, hserver⟩ := hvalid
        rw [hserver] at herr
        cases herr
    · intro err hurl
      refine .failed (.invalid fun hvalid => ?_)
      rw [hcall] at hvalid
      have hok : validateMcpServerUrl urlparse url = .ok () := hvalid.2
      rw [hok] at hurl
      cases hurl
  · intro err hname
    refine .failed (.invalid fun hvalid => ?_)
    rw [hcall] at hvalid
    have hok : validateMcpServerName name = none := hvalid.1
    rw [validated_ok hok] at hname
    cases hname

theorem listMcpServers_spec {organization_id : UUID} (hcall : told.call = .list organization_id) :
    Prog.Spec (May urlparse) (listMcpServers urlparse organization_id) (Prog.ends
      (fun summaries told' => Ended urlparse told' (.listed summaries)) fun err told' => Refused urlparse told' err)
      told := by
  unfold listMcpServers listByOrganization
  simp only [Prog.bind_eq, Prog.bind_assoc]
  refine Prog.wp_told hcall fun r => ?_
  apply Prog.answered_spec raised (c := .selectServers organization_id) (r := r)
  · rintro err rfl
    rfl
  · rintro rows rfl
    apply Prog.ofExcept_spec
    · intro servers hservers
      exact .listed hcall (History.last_mem _ _ _) hservers
    · intro err herr
      obtain ⟨_, row, _, hrows, -, hrow⟩ := Traversals.mapM_error_iff.mp herr
      refine .failed (.unreadable (History.last_mem _ _ _) ⟨row, ?_, err, hrow⟩)
      rw [hrows]
      simp
  · exact fun err h => .failed (.raised h)

theorem program_obeys (call : Call) :
    Prog.Spec (May urlparse) (program urlparse call) (Outcome urlparse) (⟨call, []⟩ : Told) := by
  have hunwritten : ¬ Inserted ⟨call, []⟩ := by
    rintro ⟨row, r, hmem⟩
    cases hmem
  have hundrawn : ∀ id, ¬ Drew ⟨call, []⟩ id := fun id hmem => absurd hmem List.not_mem_nil
  cases call with
  | create name slug =>
    exact Prog.wp_seq (createOrganization_spec rfl hunwritten hundrawn) (fun _ _ h => h) fun _ _ h => h
  | get organization_id => exact Prog.wp_seq (getOrganization_spec rfl) (fun _ _ h => h) fun _ _ h => h
  | register organization_id name url headers =>
    exact Prog.wp_seq (registerMcpServer_spec rfl hunwritten hundrawn) (fun _ _ h => h) fun _ _ h => h
  | list organization_id => exact Prog.wp_seq (listMcpServers_spec rfl) (fun _ _ h => h) fun _ _ h => h

end Spec

section Runs

variable {urlparse : UrlParse} {faulty : Bool} {w₀ w w' : RegistryStore} {told told' : Told}

theorem organizations_mono (h : w.rows <+: w'.rows) {row : OrganizationRow} (hmem : row ∈ w.organizations) :
    row ∈ w'.organizations :=
  RegistryStore.mem_organizations.mpr (h.mem (RegistryStore.mem_organizations.mp hmem))

theorem referenced_mono (h : w.rows <+: w'.rows) {row : Row} (hrow : w.Referenced row) : w'.Referenced row := by
  cases row with
  | organization row => trivial
  | server row =>
    obtain ⟨organization, hmem, hid⟩ := hrow
    exact ⟨organization, organizations_mono h hmem, hid⟩

def Answered (w₀ w : RegistryStore) (step : Step RegistryCommand RegistryResponse) : Prop :=
  match step with
  | ⟨.selectBySlug slug, .ok (some row)⟩ => row ∈ w.organizations ∧ row.slug = slug
  | ⟨.getOrganization id, .ok (some row)⟩ => row ∈ w.organizations ∧ row.id = id
  | ⟨.insertCommit row, .ok ()⟩ => row ∈ w.rows
  | ⟨.insertCommit row, .error err⟩ => err = integrityError →
      (∃ other ∈ w.rows, clash other row = true) ∨ ¬ w₀.Referenced row
  | ⟨.refreshOrganization id, .ok row⟩ => row ∈ w.organizations ∧ row.id = id
  | ⟨.selectServers organization_id, .ok rows⟩ => ∃ known : RegistryStore,
      w₀.rows <+: known.rows ∧ known.rows <+: w.rows ∧ rows.Perm (known.own organization_id)
  | _ => True

theorem Answered.lasts {step : Step RegistryCommand RegistryResponse} (hle : w.rows <+: w'.rows)
    (h : Answered w₀ w step) : Answered w₀ w' step := by
  unfold Answered at h ⊢
  split
  · exact ⟨organizations_mono hle h.1, h.2⟩
  · exact ⟨organizations_mono hle h.1, h.2⟩
  · exact hle.mem h
  · intro herr
    rcases h herr with ⟨other, hmem, hclash⟩ | hunknown
    · exact .inl ⟨other, hle.mem hmem, hclash⟩
    · exact .inr hunknown
  · exact ⟨organizations_mono hle h.1, h.2⟩
  · obtain ⟨known, hstart, hknown, hrows⟩ := h
    exact ⟨known, hstart, hknown.trans hle, hrows⟩
  · trivial

theorem Answered.of_executes {c : RegistryCommand} {r : RegistryResponse c} (hstart : w₀.rows <+: w.rows)
    (h : Executes w c r w') : Answered w₀ w' ⟨c, r⟩ := by
  cases c with
  | utcNow | uuid4 | rollback => trivial
  | selectBySlug slug =>
    obtain ⟨rfl, rfl⟩ := h
    cases hfind : w'.organizations.find? fun row => row.slug = slug with
    | none => trivial
    | some row => exact ⟨List.mem_of_find?_eq_some hfind, by simpa using List.find?_some hfind⟩
  | getOrganization id =>
    obtain ⟨rfl, rfl⟩ := h
    cases hfind : w'.organizations.find? fun row => row.id = id with
    | none => trivial
    | some row => exact ⟨List.mem_of_find?_eq_some hfind, by simpa using List.find?_some hfind⟩
  | insertCommit row =>
    rcases h with ⟨-, rfl, hinsert⟩ | ⟨hrefused, rfl, rfl⟩
    · change row ∈ w'.rows
      rw [Table.insert_some hinsert]
      exact List.mem_append_right _ (List.mem_singleton_self row)
    · rintro -
      rcases hrefused with hunknown | hinsert
      · exact .inr fun hreferenced => hunknown (referenced_mono hstart hreferenced)
      · exact .inl (Table.insert_none hinsert)
  | refreshOrganization id =>
    obtain ⟨⟨row, hmem, hid, rfl⟩ | ⟨-, rfl⟩, rfl⟩ := h
    · exact ⟨hmem, hid⟩
    · trivial
  | selectServers organization_id =>
    obtain ⟨⟨rows, rfl, hperm⟩, rfl⟩ := h
    exact ⟨w', hstart, List.prefix_rfl, hperm⟩

theorem Answered.of_failing {c : RegistryCommand} {r : RegistryResponse c} {err : Exn} (hne : err ≠ integrityError)
    (h : failing err c = some r) : Answered w₀ w ⟨c, r⟩ := by
  cases c with
  | utcNow | uuid4 => cases h
  | insertCommit row =>
    cases h
    exact fun herr => absurd herr hne
  | selectBySlug | getOrganization | rollback | refreshOrganization | selectServers =>
    cases h
    trivial

theorem Answered.of_reply {c : RegistryCommand} {r : RegistryResponse c} (hstart : w₀.rows <+: w.rows)
    (h : CarriesOut faulty w c r w') : Answered w₀ w' ⟨c, r⟩ := by
  rcases h with h | ⟨-, err, hne, hfailing, -⟩
  · exact .of_executes hstart h
  · exact .of_failing hne hfailing

theorem executes_quiet {c : RegistryCommand} {r : RegistryResponse c} (h : Executes w c r w')
    (hrefresh : ∀ id, c = .refreshOrganization id → ∃ row ∈ w.organizations, row.id = id) :
    raised (⟨c, r⟩ : Step RegistryCommand RegistryResponse) = none := by
  cases c with
  | utcNow | uuid4 => rfl
  | selectBySlug slug | getOrganization id | rollback =>
    obtain ⟨rfl, -⟩ := h
    rfl
  | insertCommit row =>
    rcases h with ⟨-, rfl, -⟩ | ⟨-, rfl, -⟩
    · rfl
    · simp [raised]
  | refreshOrganization id =>
    obtain ⟨⟨row, -, -, rfl⟩ | ⟨hgone, -⟩, -⟩ := h
    · rfl
    · obtain ⟨row, hmem, hid⟩ := hrefresh id rfl
      exact absurd hid (hgone row hmem)
  | selectServers organization_id =>
    obtain ⟨⟨rows, rfl, -⟩, -⟩ := h
    rfl

variable [DecidableEq ι] {calls : ι → Call}

abbrev anyRun : RegistryStore → (ι → Told) → ι → RegistryCommand → Prop := fun _ _ _ _ => True

/-- The row of an insert is what its call stores, under an id it drew. -/
def Asked (urlparse : UrlParse) (told : Told) : RegistryCommand → Prop
  | .insertCommit row => Stores urlparse told.call row ∧ Drew told (Row.id row)
  | .refreshOrganization id => ∃ row : OrganizationRow, row.id = id ∧ Wrote told (.organization row)
  | .selectServers organization_id => told.call = .list organization_id
  | _ => True

theorem Asked.lasts (told told' : Told) (c : RegistryCommand) (hmore : History.Extends told told')
    (h : Asked urlparse told c) : Asked urlparse told' c := by
  cases c with
  | insertCommit row => exact ⟨h.1.mono hmore, hmore.steps _ h.2⟩
  | refreshOrganization id =>
    obtain ⟨row, hid, hwrote⟩ := h
    exact ⟨row, hid, hmore.steps _ hwrote⟩
  | selectServers organization_id => exact hmore.call.trans h
  | _ => trivial

def Tried (urlparse : UrlParse) (told : Told) (row : Row) : Prop := Inserted told ∧ Stores urlparse told.call row

theorem added_keeps : Pool.Keeps (concurrent faulty) History.after anyRun (May urlparse)
    fun w (g : ι → Told) => Pool.Added (Tried urlparse) w₀.rows w.rows g where
  answered := by
    intro w g i c r w' h hmay _ hreply
    have hmore := History.extends_after (g i) c r
    rcases carriesOut_rows hreply with rfl | ⟨row, rfl, -, hrows⟩
    · refine h.keep ?_
      rintro row ⟨⟨row', answer, hmem⟩, hstores⟩
      exact ⟨⟨row', answer, hmore.steps _ hmem⟩, hstores.mono hmore⟩
    · rw [hrows]
      exact h.add (fun _ htried => hmay.1 htried.1) ⟨⟨row, r, History.last_mem _ _ _⟩, hmay.2.1.mono hmore⟩
  drifted := by
    rintro w g w' h rfl
    exact h

/-- A server's row that is added refers to an organization of the store. -/
theorem referenced_keeps : Pool.Keeps (concurrent faulty) History.after anyRun (May urlparse)
    fun w (_ : ι → Told) => ∀ row ∈ w.rows, row ∈ w₀.rows ∨ w.Referenced row where
  answered := by
    intro w g i c r w' h _ _ hreply row hmem
    have hle := (grows (ι := ι) faulty).answered i w c r w' hreply
    rcases carriesOut_rows hreply with rfl | ⟨new, -, hreferenced, hrows⟩
    · exact h row hmem
    · rw [hrows] at hmem
      rcases List.mem_append.mp hmem with hold | hnew
      · exact (h row hold).imp_right (referenced_mono hle)
      · rw [List.mem_singleton.mp hnew]
        exact .inr (referenced_mono hle hreferenced)
  drifted := by
    rintro w g w' h rfl
    exact h

/-- Without faults, the rows that are added are those of the calls that were told so. -/
theorem credited_keeps : Pool.Keeps (concurrent false) History.after anyRun (May urlparse)
    fun w (g : ι → Told) => Pool.Credited Wrote w₀.rows w.rows g where
  answered := by
    intro w g i c r w' h hmay _ hreply
    have hexecutes : Executes w c r w' := by
      rcases hreply with hexecutes | ⟨hfaulty, -⟩
      · exact hexecutes
      · cases hfaulty
    rcases executes_rows hexecutes with rfl | ⟨row, rfl, -, hrows⟩
    · refine h.keep fun row => ⟨fun hwrote => History.mem_after.mpr (.inl hwrote), fun hwrote => ?_⟩
      rcases History.mem_after.mp hwrote with hold | heq
      · exact hold
      · cases heq
        rcases hexecutes with ⟨-, -, hinsert⟩ | ⟨-, hr, -⟩
        · exact absurd (Table.insert_some hinsert) (by simp)
        · cases hr
    · rw [hrows]
      have hr : r = .ok () := by
        rcases hexecutes with ⟨-, hr, -⟩ | ⟨-, -, hw⟩
        · exact hr
        · rw [hw] at hrows
          simp at hrows
      rw [hr]
      exact h.add (fun row' hwrote => hmay.1 ⟨row', _, hwrote⟩) (History.last_mem _ _ _)
  drifted := by
    rintro w g w' h rfl
    exact h

structure Consistent (urlparse : UrlParse) (calls : ι → Call) (w₀ w : RegistryStore) (g : ι → Told) : Prop where
  calls : ∀ i, (g i).call = calls i
  grown : w₀.rows <+: w.rows
  added : Pool.Added (Tried urlparse) w₀.rows w.rows g
  referenced : ∀ row ∈ w.rows, row ∈ w₀.rows ∨ w.Referenced row
  answered : ∀ i, ∀ step ∈ (g i).steps, Answered w₀ w step
  asked : ∀ i, ∀ step ∈ (g i).steps, Asked urlparse (g i) step.1

theorem consistent_keeps : Pool.Keeps (concurrent faulty) History.after anyRun (May urlparse)
    fun w (g : ι → Told) => Consistent urlparse calls w₀ w g := by
  have hsteps : Pool.Keeps (concurrent faulty) History.after anyRun (May urlparse) fun w (g : ι → Told) =>
      w₀.rows <+: w.rows ∧ ∀ i, ∀ step ∈ (g i).steps, Answered w₀ w step :=
    Pool.keeps_steps (P := fun w _ _ step => Answered w₀ w step) (grows faulty)
      (fun _ _ hle hstart => hstart.trans hle)
      (fun _ _ _ _ _ _ hstart _ _ hreply => Answered.of_reply hstart hreply) fun _ _ _ _ _ hle h => h.lasts hle
  have hasked : Pool.Keeps (concurrent faulty) History.after anyRun (May urlparse) fun _ (g : ι → Told) =>
      ∀ i, ∀ step ∈ (g i).steps, Asked urlparse (g i) step.1 := by
    refine Pool.keeps_asked ?_ Asked.lasts
    intro told c hmay
    cases c with
    | insertCommit row => exact hmay.2
    | refreshOrganization id | selectServers organization_id => exact hmay
    | _ => trivial
  have hadded : Pool.Keeps (concurrent faulty) History.after anyRun (May urlparse) fun w (g : ι → Told) =>
      Pool.Added (Tried urlparse) w₀.rows w.rows g := added_keeps
  have hreferenced : Pool.Keeps (concurrent faulty) History.after anyRun (May urlparse) fun w (_ : ι → Told) =>
      ∀ row ∈ w.rows, row ∈ w₀.rows ∨ w.Referenced row := referenced_keeps
  have hall := ((((Pool.keeps_calls calls).and hadded).and hreferenced).and hsteps).and hasked
  constructor
  · intro w g i c r w' h hmay hguard hreply
    obtain ⟨⟨⟨⟨hcalls, hadded⟩, hreferenced⟩, hgrown, hanswered⟩, hasked⟩ :=
      hall.answered w g i c r w' ⟨⟨⟨⟨h.calls, h.added⟩, h.referenced⟩, h.grown, h.answered⟩, h.asked⟩ hmay hguard hreply
    exact ⟨hcalls, hgrown, hadded, hreferenced, hanswered, hasked⟩
  · intro w g w' h hdrift
    obtain ⟨⟨⟨⟨hcalls, hadded⟩, hreferenced⟩, hgrown, hanswered⟩, hasked⟩ :=
      hall.drifted w g w' ⟨⟨⟨⟨h.calls, h.added⟩, h.referenced⟩, h.grown, h.answered⟩, h.asked⟩ hdrift
    exact ⟨hcalls, hgrown, hadded, hreferenced, hanswered, hasked⟩

def start (urlparse : UrlParse) (calls : ι → Call) (w : RegistryStore) :
    Pool ι RegistryCommand RegistryResponse Empty RegistryExn Result RegistryStore Told :=
  ⟨w, fun i => program urlparse (calls i), fun i => ⟨calls i, []⟩⟩

omit [DecidableEq ι] in
theorem start_consistent (w₀ : RegistryStore) :
    Consistent urlparse calls w₀ w₀ (start urlparse calls w₀).note :=
  ⟨fun _ => rfl, List.prefix_rfl, .refl _ _ _, fun _ => .inl, fun _ _ hmem => absurd hmem List.not_mem_nil,
    fun _ _ hmem => absurd hmem List.not_mem_nil⟩

theorem reaches_consistent {pool : Pool ι RegistryCommand RegistryResponse Empty RegistryExn Result RegistryStore Told}
    (hreach : Pool.Reaches (concurrent faulty) History.after anyRun (start urlparse calls w₀) pool) :
    pool.Obeys (History.rule (May urlparse)) (Outcome urlparse) ∧
      Consistent urlparse calls w₀ pool.shared pool.note :=
  hreach.obeys (fun _ _ _ _ _ _ _ _ _ _ => rfl) consistent_keeps (fun i => program_obeys (calls i))
    (start_consistent w₀)

structure Quiet (w : RegistryStore) (step : Step RegistryCommand RegistryResponse) : Prop where
  raised : RegistryRuns.raised step = none
  wrote : ∀ row, step = ⟨.insertCommit row, .ok ()⟩ → row ∈ w.rows

def IsInsert : RegistryCommand → Prop
  | .insertCommit _ => True
  | _ => False

/-- What more is true if the database does not fail. -/
structure Reliable (w₀ w : RegistryStore) (g : ι → Told) : Prop where
  credited : Pool.Credited Wrote w₀.rows w.rows g
  quiet : ∀ i, ∀ step ∈ (g i).steps, Quiet w step
  once : ∀ i, ∀ step ∈ (g i).steps, ∀ step' ∈ (g i).steps, IsInsert step.1 → IsInsert step'.1 → step = step'

theorem quiet_of_reply {c : RegistryCommand} {r : RegistryResponse c} (hbefore : ∀ step ∈ told.steps, Quiet w step)
    (hmay : May urlparse told c) (h : CarriesOut false w c r w') : Quiet w' ⟨c, r⟩ := by
  rcases h with h | ⟨hfaulty, -⟩
  · constructor
    · apply executes_quiet h
      rintro id rfl
      obtain ⟨row, hid, hwrote⟩ := hmay
      exact ⟨row, RegistryStore.mem_organizations.mpr ((hbefore _ hwrote).wrote _ rfl), hid⟩
    · intro row hstep
      cases hstep
      exact Answered.of_executes List.prefix_rfl h
  · cases hfaulty

theorem reliable_keeps : Pool.Keeps (concurrent false) History.after anyRun (May urlparse)
    fun w (g : ι → Told) => Reliable w₀ w g := by
  have hquiet : Pool.Keeps (concurrent false) History.after anyRun (May urlparse) fun w (g : ι → Told) =>
      True ∧ ∀ i, ∀ step ∈ (g i).steps, Quiet w step :=
    Pool.keeps_steps (P := fun w _ _ step => Quiet w step) (grows false) (fun _ _ _ h => h)
      (fun _ _ _ _ _ _ _ hbefore hmay hreply => quiet_of_reply hbefore hmay hreply)
      fun _ _ _ _ _ hle h => ⟨h.raised, fun row hstep => hle.mem (h.wrote row hstep)⟩
  have honce : Pool.Keeps (concurrent false) History.after anyRun (May urlparse) fun _ (g : ι → Told) =>
      ∀ i, ∀ step ∈ (g i).steps, ∀ step' ∈ (g i).steps, IsInsert step.1 → IsInsert step'.1 → step = step' := by
    refine Pool.keeps_once ?_
    intro told c hmay hc step hmem hstep
    obtain ⟨c', r⟩ := step
    cases c with
    | insertCommit row =>
      cases c' with
      | insertCommit row' => exact hmay.1 ⟨row', r, hmem⟩
      | _ => cases hstep
    | _ => cases hc
  have hcredited : Pool.Keeps (concurrent false) History.after anyRun (May urlparse) fun w (g : ι → Told) =>
      Pool.Credited Wrote w₀.rows w.rows g := credited_keeps
  have hall := hcredited.and (hquiet.and honce)
  constructor
  · intro w g i c r w' h hmay hguard hreply
    obtain ⟨hcredited, ⟨-, hquiet⟩, honce⟩ :=
      hall.answered w g i c r w' ⟨h.credited, ⟨trivial, h.quiet⟩, h.once⟩ hmay hguard hreply
    exact ⟨hcredited, hquiet, honce⟩
  · intro w g w' h hdrift
    obtain ⟨hcredited, ⟨-, hquiet⟩, honce⟩ :=
      hall.drifted w g w' ⟨h.credited, ⟨trivial, h.quiet⟩, h.once⟩ hdrift
    exact ⟨hcredited, hquiet, honce⟩

theorem reaches_reliable {pool : Pool ι RegistryCommand RegistryResponse Empty RegistryExn Result RegistryStore Told}
    (hreach : Pool.Reaches (concurrent false) History.after anyRun (start urlparse calls w₀) pool) :
    Reliable w₀ pool.shared pool.note := by
  refine (hreach.obeys (fun _ _ _ _ _ _ _ _ _ _ => rfl) reliable_keeps (fun i => program_obeys (calls i)) ?_).2
  refine ⟨.refl _ fun i row hwrote => ?_, fun i step hmem => ?_, fun i step hmem => ?_⟩
  all_goals cases ‹_ ∈ _›

end Runs

section Samples

def twoAcmes : Bool → Call
  | false => .create "Acme" "acme"
  | true => .create "Acme Corporation" "acme"

/-- The text before the first colon is the scheme, and the rest is the host. -/
def splitUrl : UrlParse := fun url =>
  .ok (String.ofList (url.toList.takeWhile (· ≠ ':')), String.ofList (url.toList.dropWhile (· ≠ ':')))

def noRows : RegistryStore := ⟨[], .nil⟩

def serving (i : Bool) (w : RegistryStore) : (c : RegistryCommand) → Option (RegistryResponse c × RegistryStore)
  | .utcNow => some (ServiceRuns.noon, w)
  | .uuid4 => some (ServiceRuns.uuid (if i then 2 else 1), w)
  | .selectBySlug slug => some (.ok (w.organizations.find? fun row => row.slug = slug), w)
  | .insertCommit (.organization row) =>
    match w.insert (.organization row) with
    | some w' => some (.ok (), w')
    | none => some (.error integrityError, w)
  | .insertCommit (.server row) => do
    let _ ← w.organizations.find? fun organization => organization.id = row.organization_id
    let w' ← w.insert (.server row)
    some (.ok (), w')
  | .rollback => some (.ok (), w)
  | .refreshOrganization id => (w.organizations.find? fun row => row.id = id).map fun row => (.ok row, w)
  | .selectServers organization_id => some (.ok (w.own organization_id), w)
  | .getOrganization _ => none

theorem serving_replies (i : Bool) (w : RegistryStore) (c : RegistryCommand) (r : RegistryResponse c) (w' : RegistryStore)
    (h : serving i w c = some (r, w')) : (concurrent false).reply i w c r w' := by
  left
  cases c with
  | utcNow | uuid4 =>
    cases h
    rfl
  | selectBySlug | rollback =>
    cases h
    exact ⟨rfl, rfl⟩
  | getOrganization => cases h
  | selectServers organization_id =>
    cases h
    exact ⟨⟨_, rfl, .refl _⟩, rfl⟩
  | insertCommit row =>
    cases row with
    | server row =>
      obtain ⟨organization, hfind, hrest⟩ := Option.bind_eq_some_iff.mp h
      obtain ⟨w'', hinsert, heq⟩ := Option.bind_eq_some_iff.mp hrest
      cases heq
      exact .inl ⟨⟨organization, List.mem_of_find?_eq_some hfind, by simpa using List.find?_some hfind⟩, rfl, hinsert⟩
    | organization row =>
      simp only [serving] at h
      cases hinsert : w.insert (.organization row) with
      | some w'' =>
        rw [hinsert] at h
        cases h
        exact .inl ⟨trivial, rfl, hinsert⟩
      | none =>
        rw [hinsert] at h
        cases h
        exact .inr ⟨.inr hinsert, rfl, rfl⟩
  | refreshOrganization id =>
    obtain ⟨row, hfind, hrow⟩ := Option.map_eq_some_iff.mp h
    cases hrow
    exact ⟨.inl ⟨row, List.mem_of_find?_eq_some hfind, by simpa using List.find?_some hfind, rfl⟩, rfl⟩

/-- Both find the slug free; one inserts its row first. -/
def race : Pool Bool RegistryCommand RegistryResponse Empty RegistryExn Result RegistryStore Told :=
  Pool.turns serving History.after [false, true, false, true, false, true, false, true, true, false]
    (start splitUrl twoAcmes noRows)

theorem race_reached : Pool.Reaches (concurrent false) History.after anyRun (start splitUrl twoAcmes noRows) race :=
  Pool.turns_reach serving_replies (fun _ _ _ _ _ _ _ => trivial) _ _

/-- One call registers a server, the other lists the servers of its organization. -/
def oneServer : Bool → Call
  | false => .register ⟨1⟩ "crm" "https://crm.example" none
  | true => .list ⟨1⟩

def acmeStored : RegistryStore :=
  ⟨[.organization ⟨⟨1⟩, "Acme", "acme", "active", ServiceRuns.noon.val, ServiceRuns.noon.val⟩],
    List.pairwise_singleton _ _⟩

def registered : Pool Bool RegistryCommand RegistryResponse Empty RegistryExn Result RegistryStore Told :=
  Pool.turns serving History.after [false, false, false] (start splitUrl oneServer acmeStored)

/-- The servers are listed when the server is registered. -/
def listed : Pool Bool RegistryCommand RegistryResponse Empty RegistryExn Result RegistryStore Told :=
  Pool.turns serving History.after [true] registered

theorem registered_reached :
    Pool.Reaches (concurrent false) History.after anyRun (start splitUrl oneServer acmeStored) registered :=
  Pool.turns_reach serving_replies (fun _ _ _ _ _ _ _ => trivial) _ _

theorem listed_reached : Pool.Reaches (concurrent false) History.after anyRun registered listed :=
  Pool.turns_reach serving_replies (fun _ _ _ _ _ _ _ => trivial) _ _

def namesListed : RegistryAction Result → Option (List String)
  | .done (.listed summaries) => some (summaries.map (·.name))
  | _ => none

end Samples

section Results

variable {urlparse : UrlParse} {faulty : Bool} {w₀ w : RegistryStore} {call : Call}

/-- What a result has to do with the rows before and now. -/
inductive Kept (urlparse : UrlParse) (w₀ w : RegistryStore) (call : Call) : Result → Prop where
  | created {organization : Organization} (hstores : Stores urlparse call (.organization (toRow organization)))
      (hmem : .organization (toRow organization) ∈ w.rows) : Kept urlparse w₀ w call (.created organization)
  | found {organization_id : UUID} {row : OrganizationRow} {organization : Organization}
      (hcall : call = .get organization_id) (hmem : row ∈ w.organizations) (hid : row.id = organization_id)
      (hdomain : toDomain row = .ok organization) : Kept urlparse w₀ w call (.found organization)
  | registered {row : McpServerRow} {server : McpServer} (hstores : Stores urlparse call (.server row))
      (hmem : .server row ∈ w.rows) (hdomain : serverOf urlparse row = .ok server) :
      Kept urlparse w₀ w call (.registered server)
  | listed {organization_id : UUID} {rows : List McpServerRow} {summaries : List McpServerSummary}
      (hcall : call = .list organization_id)
      {known : RegistryStore} (hstart : w₀.rows <+: known.rows) (hknown : known.rows <+: w.rows)
      (hown : rows.Perm (known.own organization_id))
      (hpublic : summaries.map (fun summary => (summary.name, summary.created_at)) =
        rows.map fun row => (row.name, row.created_at)) : Kept urlparse w₀ w call (.listed summaries)

theorem Stores.organization_row {row : OrganizationRow} (h : Stores urlparse call (.organization row)) :
    ∃ organization, row = toRow organization := by
  cases h with
  | organization organization => exact ⟨organization, rfl⟩

theorem serverOf_ok {row : McpServerRow} {server : McpServer} (h : serverOf urlparse row = .ok server) :
    server.name = row.name ∧ server.created_at = some row.created_at := by
  obtain ⟨named, hnamed, hrest⟩ := of_bind_ok h
  obtain ⟨hname, rfl⟩ := of_validated hnamed
  obtain ⟨u, -, hserver⟩ := of_bind_ok hrest
  cases hserver
  exact ⟨rfl, rfl⟩

theorem summaries_public {rows : List McpServerRow} {servers : List McpServer}
    (h : rows.mapM (serverOf urlparse) = .ok servers) :
    (servers.filterMap summaryOf).map (fun summary => (summary.name, summary.created_at)) =
      rows.map fun row => (row.name, row.created_at) := by
  have hpairs := Traversals.mapM_ok_iff.mp h
  clear h
  induction hpairs with
  | nil => rfl
  | @cons row server rows servers hserver _ ih =>
    obtain ⟨hname, htime⟩ := serverOf_ok hserver
    have hsummary : summaryOf server = some ⟨server.name, row.created_at, server.name_ok⟩ := by
      unfold summaryOf
      rw [htime]
      rfl
    rw [List.filterMap_cons_some hsummary, List.map_cons, List.map_cons, ih]
    simp only [hname]

theorem Kept.of_ended {told : Told} {result : Result} (hanswered : ∀ step ∈ told.steps, Answered w₀ w step)
    (hended : Ended urlparse told result) : Kept urlparse w₀ w told.call result := by
  cases hended with
  | @created row read organization hstores hwrote hread hdomain =>
    have hrow : .organization row ∈ w.rows := hanswered _ hwrote
    obtain ⟨hmem, hid⟩ := hanswered _ hread
    obtain rfl := RegistryStore.organization_unique hmem (RegistryStore.mem_organizations.mpr hrow) hid
    obtain ⟨stored, rfl⟩ := hstores.organization_row
    rw [toDomain_toRow] at hdomain
    cases hdomain
    exact .created hstores hrow
  | found hcall hread hdomain =>
    obtain ⟨hmem, hid⟩ := hanswered _ hread
    exact .found hcall hmem hid hdomain
  | registered hstores hwrote hdomain => exact .registered hstores (hanswered _ hwrote) hdomain
  | listed hcall hread hdomain =>
    obtain ⟨known, hstart, hknown, hown⟩ := hanswered _ hread
    exact .listed hcall hstart hknown hown (summaries_public hdomain)

variable [DecidableEq ι] {calls : ι → Call}
  {pool pool' : Pool ι RegistryCommand RegistryResponse Empty RegistryExn Result RegistryStore Told}

theorem added_rows
    (hreach : Pool.Reaches (concurrent faulty) History.after anyRun (start urlparse calls w₀) pool) :
    ∃ owners added, pool.shared.rows = w₀.rows ++ added ∧ owners.Nodup ∧
      List.Forall₂ (fun i row => Stores urlparse (calls i) row) owners added ∧
      ∀ row ∈ added, pool.shared.Referenced row := by
  obtain ⟨-, hconsistent⟩ := reaches_consistent hreach
  obtain ⟨owners, added, hadded⟩ := hconsistent.added
  refine ⟨owners, added, hadded.now, hadded.nodup, hadded.wrote.imp ?_, ?_⟩
  · rintro i row ⟨-, hstores⟩
    rw [← hconsistent.calls i]
    exact hstores
  · intro row hmem
    have hrow : row ∈ pool.shared.rows := by
      rw [hadded.now]
      exact List.mem_append_right _ hmem
    rcases hconsistent.referenced row hrow with hold | hreferenced
    · -- a row that was there before clashes with itself
      have hapart := RegistryStore.claims_apart pool.shared
      rw [hadded.now] at hapart
      exact absurd rfl ((List.pairwise_append.mp hapart).2.2 row hold row hmem)
    · exact hreferenced

/-- In every run, whatever fails: each row that is added is what a call of its own stores and refers to an
organization of the store, and what a call returns is stored, a listing being of a moment of the call. -/
theorem registered_rows
    (hreach : Pool.Reaches (concurrent faulty) History.after anyRun (start urlparse calls w₀) pool)
    (hlater : Pool.Reaches (concurrent faulty) History.after anyRun pool pool') :
    (∃ owners added, pool'.shared.rows = w₀.rows ++ added ∧ owners.Nodup ∧
      List.Forall₂ (fun i row => Stores urlparse (calls i) row) owners added ∧
      ∀ row ∈ added, pool'.shared.Referenced row) ∧
    ∀ i result, (pool.note i).steps = [] → pool'.rest i = .done result →
      Kept urlparse pool.shared pool'.shared (calls i) result := by
  refine ⟨added_rows (hreach.trans hlater), ?_⟩
  intro i result hfresh hdone
  obtain ⟨hobeys, -⟩ := reaches_consistent hreach
  obtain ⟨hobeys', hconsistent'⟩ := reaches_consistent (hreach.trans hlater)
  have hanswered : ∀ step ∈ (pool'.note i).steps, Answered pool.shared pool'.shared step :=
    (grows faulty).later_answers hobeys hlater (fun _ _ _ _ _ _ hstart hreply => Answered.of_reply hstart hreply)
      (fun _ _ _ _ hle h => h.lasts hle) hfresh
  have hended := hobeys' i
  rw [hdone] at hended
  rw [← hconsistent'.calls i]
  exact Kept.of_ended hanswered hended

/-- The listing shows the server that was registered before. -/
theorem crm_listed : namesListed (listed.rest true) = some ["crm"] ∧
    (∃ owners added, listed.shared.rows = acmeStored.rows ++ added ∧ owners.Nodup ∧
      List.Forall₂ (fun i row => Stores splitUrl (oneServer i) row) owners added ∧
      ∀ row ∈ added, listed.shared.Referenced row) ∧
    ∀ i result, (registered.note i).steps = [] → listed.rest i = .done result →
      Kept splitUrl registered.shared listed.shared (oneServer i) result :=
  ⟨by decide +kernel, registered_rows registered_reached listed_reached⟩

/-- The ids of the run are new, and no two calls draw the same. -/
structure DistinctIds (w₀ : RegistryStore) (g : ι → Told) : Prop where
  apart : ∀ i j id, Drew (g i) id → Drew (g j) id → i = j
  new : ∀ i id, Drew (g i) id → ∀ row ∈ w₀.rows, Row.id row ≠ id

def Claim.Founded (w : RegistryStore) : Claim → Prop
  | .slug _ => True
  | .server organization_id _ => ∃ organization ∈ w.organizations, organization.id = organization_id

theorem Stores.referenced {row : Row} (h : (Row.claim row).Founded w) : w.Referenced row := by
  cases row with
  | organization row => trivial
  | server row => exact h

theorem Stores.valid {row : Row} (h : Stores urlparse call row) : Valid urlparse call := by
  cases h with
  | @organization name slug organization hname hslug hstatus =>
    obtain ⟨hname', hrest⟩ := GenerationContracts.or_none organization.ok
    obtain ⟨hslug', -⟩ := GenerationContracts.or_none hrest
    change (requireNonBlank name "name").or (slugProblem slug) = none
    rw [← hname, ← hslug, hname', hslug']
    rfl
  | @server organization_id name url headers row horganization hname hurl hheaders hvalid =>
    obtain ⟨server, hserver⟩ := hvalid
    obtain ⟨named, hnamed, hrest⟩ := of_bind_ok hserver
    obtain ⟨hname', -⟩ := of_validated hnamed
    obtain ⟨u, hurl', -⟩ := of_bind_ok hrest
    rw [hurl, validateMcpServerUrl_strip] at hurl'
    exact ⟨hname ▸ hname', hurl'⟩

section Wins

variable {g : ι → Told} {claim : Claim}

omit [DecidableEq ι] in
theorem Reliable.taken (h : Reliable w₀ w g) (hconsistent : Consistent urlparse calls w₀ w g)
    (hids : DistinctIds w₀ g) {i : ι} {row : Row} (hclaim : (Row.claim row).Founded w₀)
    (hinsert : ⟨.insertCommit row, .error integrityError⟩ ∈ (g i).steps) :
    ∃ other ∈ w.rows, Row.claim other = Row.claim row := by
  rcases hconsistent.answered i _ hinsert rfl with ⟨other, hmem, hclash⟩ | hunknown
  · rcases of_clash hclash with hid | hsame
    · have hdrew : Drew (g i) (Row.id row) := (hconsistent.asked i _ hinsert).2
      obtain ⟨owners, added, hadded, -⟩ := h.credited
      rw [hadded.now] at hmem
      rcases List.mem_append.mp hmem with hold | hnew
      · exact absurd hid (hids.new i _ hdrew other hold)
      · obtain ⟨j, -, hwrote⟩ := hadded.owner_of_mem hnew
        have hdrew' : Drew (g j) (Row.id other) := (hconsistent.asked j _ hwrote).2
        rw [hid] at hdrew'
        obtain rfl := hids.apart _ _ _ hdrew' hdrew
        cases h.once j _ hwrote _ hinsert trivial trivial
    · exact ⟨other, hmem, hsame⟩
  · exact absurd (Stores.referenced hclaim) hunknown

omit [DecidableEq ι] in
theorem Consistent.readable (h : Consistent urlparse calls w₀ w g)
    (hread : ∀ row ∈ w₀.organizations, ∃ organization, toDomain row = .ok organization) {row : OrganizationRow}
    (hmem : row ∈ w.organizations) : ∃ organization, toDomain row = .ok organization := by
  obtain ⟨owners, added, hadded⟩ := h.added
  have hrow := RegistryStore.mem_organizations.mp hmem
  rw [hadded.now] at hrow
  rcases List.mem_append.mp hrow with hold | hnew
  · exact hread row (RegistryStore.mem_organizations.mpr hold)
  · obtain ⟨i, -, -, hstores⟩ := hadded.owner_of_mem hnew
    obtain ⟨organization, rfl⟩ := hstores.organization_row
    exact ⟨organization, toDomain_toRow organization⟩

omit [DecidableEq ι] in
theorem Reliable.not_fails (h : Reliable w₀ w g) (hconsistent : Consistent urlparse calls w₀ w g)
    (hread : ∀ row ∈ w₀.organizations, ∃ organization, toDomain row = .ok organization) {i : ι}
    (hclaim : (calls i).claim = some claim) (hvalid : Valid urlparse (calls i)) : ¬ Fails urlparse (g i) := by
  rintro (hinvalid | ⟨step, hmem, hraised⟩ | ⟨hmem, hunreadable⟩)
  · rw [hconsistent.calls i] at hinvalid
    exact hinvalid hvalid
  · rw [(h.quiet i _ hmem).raised] at hraised
    cases hraised
  · have hanswered := hconsistent.answered i _ hmem
    have hasked := hconsistent.asked i _ hmem
    have hreadable : ∀ row ∈ w.organizations, ¬ ∃ err, toDomain row = .error err := by
      rintro row hrow ⟨err, herr⟩
      obtain ⟨organization, hdomain⟩ := hconsistent.readable hread hrow
      rw [hdomain] at herr
      cases herr
    unfold Unreadable at hunreadable
    split at hunreadable
    · exact hreadable _ hanswered.1 hunreadable
    · exact hreadable _ hanswered.1 hunreadable
    · exact hreadable _ hanswered.1 hunreadable
    · have hcall : (g i).call = .list _ := hasked
      rw [← hconsistent.calls i, hcall] at hclaim
      cases hclaim
    · exact hunreadable

omit [DecidableEq ι] in
/-- A call with a claim has written its row or is told that another has. -/
theorem Reliable.claims (h : Reliable w₀ w g) (hconsistent : Consistent urlparse calls w₀ w g) (hids : DistinctIds w₀ g)
    (hread : ∀ row ∈ w₀.organizations, ∃ organization, toDomain row = .ok organization) {i : ι}
    (hclaim : (calls i).claim = some claim) (hfounded : claim.Founded w₀) (hvalid : Valid urlparse (calls i))
    {o : Except RegistryExn Result} (ho : Outcome urlparse o (g i)) :
    ((∃ result, o = .ok result) ∧ ∃ row, Wrote (g i) row ∧ Row.claim row = claim) ∨
      (o = .error claim.conflict ∧ (∃ row ∈ w.rows, Row.claim row = claim) ∧ ∀ row, ¬ Wrote (g i) row) := by
  have hcall := hconsistent.calls i
  have hown : ∀ {row : Row}, Stores urlparse (g i).call row → Row.claim row = claim := by
    intro row hstores
    have hsame := hstores.claim
    rw [hcall, hclaim] at hsame
    exact (Option.some.inj hsame).symm
  cases o with
  | ok result =>
    refine .inl ⟨⟨result, rfl⟩, ?_⟩
    have hended : Ended urlparse (g i) result := ho
    cases hended with
    | created hstores hwrote hread hdomain => exact ⟨_, hwrote, hown hstores⟩
    | registered hstores hwrote hdomain => exact ⟨_, hwrote, hown hstores⟩
    | found hget | listed hget =>
      rw [← hcall, hget] at hclaim
      cases hclaim
  | error err =>
    refine .inr ?_
    have hrefused : Refused urlparse (g i) err := ho
    cases hrefused with
    | @found name slug row hcreate hunwritten hmem =>
      rw [← hcall, hcreate] at hclaim
      cases hclaim
      obtain ⟨hrow, hslug⟩ := hconsistent.answered i _ hmem
      refine ⟨rfl, ⟨.organization row, RegistryStore.mem_organizations.mp hrow, congrArg Claim.slug hslug⟩, ?_⟩
      exact fun row' hwrote => hunwritten ⟨row', _, hwrote⟩
    | @clashed row hstores hinsert =>
      have hsame := hown hstores
      rw [← hsame] at hfounded ⊢
      refine ⟨rfl, h.taken hconsistent hids hfounded hinsert, ?_⟩
      intro row' hwrote
      cases h.once i _ hwrote _ hinsert trivial trivial
    | unknown hget =>
      rw [← hcall, hget] at hclaim
      cases hclaim
    | failed hfails => exact absurd hfails (h.not_fails hconsistent hread hclaim hvalid)

end Wins

def Over {α : Type} (rest : RegistryAction α) (o : Except RegistryExn α) : Prop :=
  match o with
  | .ok a => rest = .done a
  | .error err => rest = .raise err

omit [DecidableEq ι] in
/-- A valid call with a claim that is over has returned and written its row, or was told that another row has the
claim. -/
theorem Reliable.decided {claim : Claim} (h : Reliable w₀ pool.shared pool.note)
    (hobeys : pool.Obeys (History.rule (May urlparse)) (Outcome urlparse))
    (hconsistent : Consistent urlparse calls w₀ pool.shared pool.note) (hids : DistinctIds w₀ pool.note)
    (hread : ∀ row ∈ w₀.organizations, ∃ organization, toDomain row = .ok organization)
    (hfounded : claim.Founded w₀) {i : ι} (hclaim : (calls i).claim = some claim) (hvalid : Valid urlparse (calls i))
    (hover : ∃ o, Over (pool.rest i) o) :
    ((∃ result, pool.rest i = .done result) ∧ ∃ row, Wrote (pool.note i) row ∧ Row.claim row = claim) ∨
      (pool.rest i = .raise claim.conflict ∧ (∃ row ∈ pool.shared.rows, Row.claim row = claim) ∧
        ∀ row, ¬ Wrote (pool.note i) row) := by
  obtain ⟨o, hrest⟩ := hover
  have houtcome := hobeys i
  cases o with
  | ok result =>
    have hdone : pool.rest i = .done result := hrest
    rw [hdone] at houtcome ⊢
    rcases h.claims hconsistent hids hread hclaim hfounded hvalid houtcome with ⟨-, hwrote⟩ | ⟨ho, -⟩
    · exact .inl ⟨⟨result, rfl⟩, hwrote⟩
    · cases ho
  | error err =>
    have hraise : pool.rest i = .raise err := hrest
    rw [hraise] at houtcome ⊢
    rcases h.claims hconsistent hids hread hclaim hfounded hvalid houtcome with ⟨⟨result, ho⟩, -⟩ | ⟨ho, htaken⟩
    · cases ho
    · cases ho
      exact .inr ⟨rfl, htaken⟩

/-- If the database does not fail and all valid calls with a claim are over, one of them has it: exactly one
returns, all others are told of the conflict, and one row has the claim. -/
theorem one_wins {claim : Claim}
    (hreach : Pool.Reaches (concurrent false) History.after anyRun (start urlparse calls w₀) pool)
    (hids : DistinctIds w₀ pool.note)
    (hread : ∀ row ∈ w₀.organizations, ∃ organization, toDomain row = .ok organization)
    (hnew : ∀ row ∈ w₀.rows, Row.claim row ≠ claim) (hfounded : claim.Founded w₀)
    (hasked : ∃ i, (calls i).claim = some claim ∧ Valid urlparse (calls i))
    (hover : ∀ i, (calls i).claim = some claim → Valid urlparse (calls i) → ∃ o, Over (pool.rest i) o) :
    ∃ i row, (calls i).claim = some claim ∧ (∃ result, pool.rest i = .done result) ∧
      row ∈ pool.shared.rows ∧ Row.claim row = claim ∧ Stores urlparse (calls i) row ∧
      ∀ j, (calls j).claim = some claim → Valid urlparse (calls j) → j ≠ i → pool.rest j = .raise claim.conflict := by
  obtain ⟨hobeys, hconsistent⟩ := reaches_consistent hreach
  have hreliable := reaches_reliable hreach
  have hcases : ∀ i, (calls i).claim = some claim → Valid urlparse (calls i) →
      ((∃ result, pool.rest i = .done result) ∧ ∃ row, Wrote (pool.note i) row ∧ Row.claim row = claim) ∨
        (pool.rest i = .raise claim.conflict ∧ (∃ row ∈ pool.shared.rows, Row.claim row = claim) ∧
          ∀ row, ¬ Wrote (pool.note i) row) := fun i hclaim hvalid =>
    hreliable.decided hobeys hconsistent hids hread hfounded hclaim hvalid (hover i hclaim hvalid)
  have hwritten : ∀ i row, Wrote (pool.note i) row → row ∈ pool.shared.rows ∧ Stores urlparse (calls i) row := by
    intro i row hwrote
    have hstores : Stores urlparse (pool.note i).call row := (hconsistent.asked i _ hwrote).1
    rw [hconsistent.calls i] at hstores
    exact ⟨hconsistent.answered i _ hwrote, hstores⟩
  have htaken : ∃ row ∈ pool.shared.rows, Row.claim row = claim := by
    obtain ⟨i, hclaim, hvalid⟩ := hasked
    rcases hcases i hclaim hvalid with ⟨-, row, hwrote, hrow⟩ | ⟨-, htaken, -⟩
    · exact ⟨row, (hwritten i row hwrote).1, hrow⟩
    · exact htaken
  have hone : ∀ i a b, Wrote (pool.note i) a → Wrote (pool.note i) b → a = b := by
    intro i a b ha hb
    cases hreliable.once i _ ha _ hb trivial trivial
    rfl
  obtain ⟨i, row, hwrote, hrow, hunique⟩ := hreliable.credited.one_credited Row.claim hone
    (RegistryStore.claims_apart pool.shared) hnew htaken
  obtain ⟨hmem, hstores⟩ := hwritten i row hwrote
  have hclaim : (calls i).claim = some claim := by rw [hstores.claim, hrow]
  refine ⟨i, row, hclaim, ?_, hmem, hrow, hstores, ?_⟩
  · rcases hcases i hclaim hstores.valid with ⟨hdone, -⟩ | ⟨-, -, hnot⟩
    · exact hdone
    · exact absurd hwrote (hnot row)
  · intro j hclaim' hvalid' hne
    rcases hcases j hclaim' hvalid' with ⟨-, row', hwrote', hrow'⟩ | ⟨hraise, -⟩
    · exact absurd (hunique j row' hwrote' hrow') hne
    · exact hraise

def drawn (step : Step RegistryCommand RegistryResponse) : Option UUID :=
  match step with
  | ⟨.uuid4, id⟩ => some id
  | _ => none

theorem race_drawn (i : Bool) (id : UUID) (h : Drew (race.note i) id) : id = ServiceRuns.uuid (if i then 2 else 1) := by
  have hall : ∀ i, ((race.note i).steps.all fun step =>
      (drawn step).all fun id => id = ServiceRuns.uuid (if i then 2 else 1)) = true := by decide +kernel
  simpa [drawn] using List.all_eq_true.mp (hall i) _ h

theorem race_ids : DistinctIds noRows race.note where
  apart := by
    intro i j id hi hj
    have hinj : ∀ i j : Bool, ServiceRuns.uuid (if i then 2 else 1) = ServiceRuns.uuid (if j then 2 else 1) → i = j := by
      decide
    exact hinj i j ((race_drawn i id hi).symm.trans (race_drawn j id hj))
  new := fun _ _ _ _ hmem => absurd hmem List.not_mem_nil

def isOver {α : Type} : RegistryAction α → Bool
  | .done _ => true
  | .raise _ => true
  | _ => false

theorem acme_valid : (requireNonBlank "Acme" "name").or (slugProblem "acme") = none := by decide

theorem race_over : ∀ i, isOver (race.rest i) = true := by decide +kernel

theorem over_of_isOver {α : Type} {rest : RegistryAction α} (h : isOver rest = true) : ∃ o, Over rest o := by
  cases rest with
  | done a => exact ⟨.ok a, rfl⟩
  | raise err => exact ⟨.error err, rfl⟩
  | call c k => cases h
  | yield e k => cases h

/-- One of the two calls creates the organization. -/
theorem acme_wins : ∃ i row, (twoAcmes i).claim = some (.slug "acme") ∧ (∃ result, race.rest i = .done result) ∧
    row ∈ race.shared.rows ∧ Row.claim row = .slug "acme" ∧ Stores splitUrl (twoAcmes i) row ∧
      ∀ j, (twoAcmes j).claim = some (.slug "acme") → Valid splitUrl (twoAcmes j) → j ≠ i →
        race.rest j = .raise (Claim.conflict (.slug "acme")) :=
  one_wins race_reached race_ids (fun _ hmem => absurd hmem List.not_mem_nil)
    (fun _ hmem => absurd hmem List.not_mem_nil) trivial ⟨false, rfl, acme_valid⟩
    fun i _ _ => over_of_isOver (race_over i)

end Results

end AIRuntime.RegistryRuns
