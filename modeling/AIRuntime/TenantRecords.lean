import AIRuntime.ApiKeyRecords
import AIRuntime.Collaborators
import AIRuntime.McpTools
import Mathlib.Data.List.DropRight

set_option autoImplicit false

/-!
`domain/organization.py` and `domain/mcp.py` as their repositories store them, and the use cases that create
organizations and register tool servers.
-/
namespace AIRuntime.TenantRecords

open EffectPrograms PythonText Failures CivilTime Identifiers Collaborators McpTools
open ApiKeyRecords

section Domain

def statusValue : OrganizationStatus → String
  | .active => "active"
  | .suspended => "suspended"

def statusOfValue (value : String) : Except Exn OrganizationStatus :=
  if value = "active" then .ok .active
  else if value = "suspended" then .ok .suspended
  else .error (.other "ValueError")

theorem statusOfValue_value (status : OrganizationStatus) : statusOfValue (statusValue status) = .ok status := by
  cases status <;> rfl

/-- The scheme and the host that `urllib.parse.urlparse` finds, or the `ValueError` it raises. -/
abbrev UrlParse := String → Except Exn (String × String)

def validateMcpServerUrl (urlparse : UrlParse) (url : String) : Except Exn Unit :=
  if isBlank url then .error (.domainValidation "url must not be empty or blank")
  else do
    let parsed ← urlparse (strip url)
    if parsed.1 ≠ "https" ∨ parsed.2 = "" then .error (.domainValidation "url must use https with a valid host")
    else .ok ()

theorem stripChars_stripChars (cs : List Char) : stripChars (stripChars cs) = stripChars cs := by
  have hprefix : stripChars cs <+: cs.dropWhile isSpace := by
    unfold stripChars
    rw [← List.reverse_suffix, List.reverse_reverse]
    exact List.dropWhile_suffix _
  have hfront : (stripChars cs).dropWhile isSpace = stripChars cs := by
    cases hcs : stripChars cs with
    | nil => rfl
    | cons c rest =>
      obtain ⟨more, hmore⟩ := hprefix
      rw [hcs, List.cons_append] at hmore
      have hne : cs.dropWhile isSpace ≠ [] := by
        rw [← hmore]
        exact List.cons_ne_nil _ _
      have hc := List.head_dropWhile_not isSpace hne
      simp only [← hmore, List.head_cons] at hc
      rw [List.dropWhile_cons_of_neg (by simpa using hc)]
  have hback : (stripChars cs).reverse.dropWhile isSpace = (stripChars cs).reverse := by
    unfold stripChars
    rw [List.reverse_reverse]
    exact List.dropWhile_idempotent _ _
  calc stripChars (stripChars cs) = (((stripChars cs).dropWhile isSpace).reverse.dropWhile isSpace).reverse := rfl
    _ = stripChars cs := by rw [hfront, hback, List.reverse_reverse]

theorem validateMcpServerUrl_strip (urlparse : UrlParse) (url : String) :
    validateMcpServerUrl urlparse (strip url) = validateMcpServerUrl urlparse url := by
  have hstrip : strip (strip url) = strip url := by
    unfold strip
    rw [String.toList_ofList, stripChars_stripChars]
  have hblank : isBlank (strip url) = isBlank url := by
    unfold isBlank strip
    rw [String.toList_ofList, Bool.eq_iff_iff, ← stripChars_eq_nil, ← stripChars_eq_nil, stripChars_stripChars]
  unfold validateMcpServerUrl
  rw [hblank, hstrip]

structure McpServerSummary where
  name : String
  created_at : DateTime
  ok : validateMcpServerName name = none

end Domain

section Rows

structure OrganizationRow where
  id : UUID
  name : String
  slug : String
  status : String
  created_at : DateTime
  updated_at : DateTime
deriving DecidableEq

structure McpServerRow where
  id : UUID
  organization_id : UUID
  name : String
  url : String
  headers : List (String × String)
  created_at : DateTime
deriving DecidableEq

inductive Row where
  | organization (row : OrganizationRow)
  | server (row : McpServerRow)
deriving DecidableEq

def toRow (organization : Organization) : OrganizationRow :=
  ⟨organization.id, organization.name, organization.slug, statusValue organization.status, organization.created_at,
    organization.updated_at⟩

def toDomain (row : OrganizationRow) : Except Exn Organization := do
  let status ← statusOfValue row.status
  Organization.new row.id row.name row.slug status row.created_at row.updated_at

/-- `McpServer(..)` with its `__post_init__`. -/
def serverOf (urlparse : UrlParse) (row : McpServerRow) : Except Exn McpServer := do
  let named ← validated (validateMcpServerName row.name) fun h =>
    (⟨row.id, row.organization_id, row.name, row.url, row.headers, some row.created_at, h⟩ : McpServer)
  let _ ← validateMcpServerUrl urlparse row.url
  .ok named

theorem serverOf_isOk {urlparse : UrlParse} {row : McpServerRow} (hname : validateMcpServerName row.name = none)
    (hurl : validateMcpServerUrl urlparse row.url = .ok ()) :
    ∃ server, serverOf urlparse row = .ok server := by
  unfold serverOf
  rw [validated_ok hname, hurl]
  exact ⟨_, rfl⟩

theorem toDomain_id {row : OrganizationRow} {organization : Organization} (h : toDomain row = .ok organization) :
    organization.id = row.id := by
  unfold toDomain at h
  cases hstatus : statusOfValue row.status with
  | error err =>
    rw [hstatus] at h
    cases h
  | ok status =>
    rw [hstatus] at h
    obtain ⟨_, rfl⟩ := of_validated h
    rfl

theorem toDomain_toRow (organization : Organization) : toDomain (toRow organization) = .ok organization := by
  unfold toDomain toRow
  rw [statusOfValue_value]
  exact validated_ok organization.ok

end Rows

section Repositories

inductive RegistryExn where
  | slugConflict (slug : String)
  | nameConflict (name : String)
  | organizationNotFound (organization_id : UUID)
  | failed (err : Exn)

inductive RegistryCommand : Type where
  | utcNow
  | uuid4
  | selectBySlug (slug : String)
  | getOrganization (organization_id : UUID)
  | insertCommit (row : Row)
  | rollback
  | refreshOrganization (id : UUID)
  | selectServers (organization_id : UUID)

@[reducible]
def RegistryResponse : RegistryCommand → Type
  | .utcNow => UtcInstant
  | .uuid4 => UUID
  | .selectBySlug _ => Except Exn (Option OrganizationRow)
  | .getOrganization _ => Except Exn (Option OrganizationRow)
  | .insertCommit _ => Except Exn Unit
  | .rollback => Except Exn Unit
  | .refreshOrganization _ => Except Exn OrganizationRow
  | .selectServers _ => Except Exn (List McpServerRow)

abbrev RegistryAction (α : Type) := Prog RegistryCommand RegistryResponse Empty RegistryExn α

abbrev RegistryCommand.ask (c : RegistryCommand) : RegistryAction (RegistryResponse c) := Prog.ask c

def registering {α : Type} (result : Except Exn α) : RegistryAction α := Prog.ofExcept (result.mapError .failed)

@[simp] theorem registering_ok {α : Type} (a : α) : registering (.ok a) = .done a := rfl

@[simp] theorem registering_error {α : Type} (err : Exn) :
    (registering (.error err) : RegistryAction α) = .raise (.failed err) := rfl

/-- A commit of a new row, whose conflicts are reported under a name of the domain. -/
def commitNew (row : Row) (conflict : RegistryExn) : RegistryAction Unit := do
  match ← (RegistryCommand.insertCommit row).ask with
  | .ok _ => .done ()
  | .error err =>
    if err = integrityError then
      let _ ← registering (← RegistryCommand.rollback.ask)
      .raise conflict
    else .raise (.failed err)

/-- `SqlAlchemyOrganizationRepository.add`. -/
def addOrganization (organization : Organization) : RegistryAction Organization := do
  let _ ← commitNew (.organization (toRow organization)) (.slugConflict organization.slug)
  let row ← registering (← (RegistryCommand.refreshOrganization organization.id).ask)
  registering (toDomain row)

def readRow (row : Option OrganizationRow) : RegistryAction (Option Organization) :=
  match row with
  | none => .done none
  | some row => do
    let organization ← registering (toDomain row)
    .done (some organization)

def getBySlug (slug : String) : RegistryAction (Option Organization) := do
  let row ← registering (← (RegistryCommand.selectBySlug slug).ask)
  readRow row

def getById (organization_id : UUID) : RegistryAction (Option Organization) := do
  let row ← registering (← (RegistryCommand.getOrganization organization_id).ask)
  readRow row

variable (urlparse : UrlParse)

/-- `SqlAlchemyMcpServerRepository.add`; the row was made from the server. -/
def addServer (row : McpServerRow) : RegistryAction McpServer := do
  let _ ← commitNew (.server row) (.nameConflict row.name)
  registering (serverOf urlparse row)

def listByOrganization (organization_id : UUID) : RegistryAction (List McpServer) := do
  let rows ← registering (← (RegistryCommand.selectServers organization_id).ask)
  registering (rows.mapM (serverOf urlparse))

end Repositories

section UseCases

def createOrganization (name slug : String) : RegistryAction Organization := do
  match ← getBySlug slug with
  | some _ => .raise (.slugConflict slug)
  | none =>
    let now ← RegistryCommand.utcNow.ask
    let id ← RegistryCommand.uuid4.ask
    let organization ← registering (Organization.new id name slug .active now.val now.val)
    addOrganization organization

def getOrganization (organization_id : UUID) : RegistryAction Organization := do
  match ← getById organization_id with
  | none => .raise (.organizationNotFound organization_id)
  | some organization => .done organization

variable (urlparse : UrlParse)

def registerMcpServer (organization_id : UUID) (name url : String) (headers : Option (List (String × String))) :
    RegistryAction McpServer := do
  let _ ← registering (validated (validateMcpServerName name) fun _ => ())
  let _ ← registering (validateMcpServerUrl urlparse url)
  let now ← RegistryCommand.utcNow.ask
  let id ← RegistryCommand.uuid4.ask
  let row : McpServerRow := ⟨id, organization_id, name, strip url, headers.getD [], now.val⟩
  let _ ← registering (serverOf urlparse row)
  addServer urlparse row

/-- What is public of a server. -/
def summaryOf (server : McpServer) : Option McpServerSummary :=
  server.created_at.map fun created_at => ⟨server.name, created_at, server.name_ok⟩

def listMcpServers (organization_id : UUID) : RegistryAction (List McpServerSummary) := do
  let servers ← listByOrganization urlparse organization_id
  .done (servers.filterMap summaryOf)

end UseCases

end AIRuntime.TenantRecords
