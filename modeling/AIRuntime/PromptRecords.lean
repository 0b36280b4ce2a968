import AIRuntime.Collaborators
import AIRuntime.EffectTriples
import AIRuntime.Traversals

set_option autoImplicit false

/-! `domain/prompt.py`, the prompt repository and the use case that creates versions. -/
namespace AIRuntime.PromptRecords

open Traversals EffectPrograms PythonText Failures CivilTime Identifiers GenerationContracts Collaborators

section Templates

def isNameChar (c : Char) : Bool := c.isAlphanum || c = '.' || c = '_' || c = '-'

/-- `validate_prompt_name`: the text of the error it raises. -/
def validatePromptName (name : String) : Option String :=
  if 1 ≤ name.length && name.length ≤ 64 && name.toList.all isNameChar then none
  else some "prompt name must be 1-64 characters using [A-Za-z0-9._-]"

def PromptMessageTemplate.problem (role : MessageRole) (content : String) : Option String :=
  if role = .tool then some "prompt template roles must be system, user, or assistant"
  else requireNonBlank content "content"

structure PromptMessageTemplate where
  role : MessageRole
  content : String
  ok : PromptMessageTemplate.problem role content = none
deriving DecidableEq

def PromptMessageTemplate.new (role : MessageRole) (content : String) : Except Exn PromptMessageTemplate :=
  validated (PromptMessageTemplate.problem role content) fun h => ⟨role, content, h⟩

def noMessages : String := "messages must contain at least one message"

def PromptTemplate.problem (name : String) (version : ℤ) (messages : List PromptMessageTemplate) : Option String :=
  (validatePromptName name).or
    (if version < 1 then some "version must be at least 1" else if messages.isEmpty then some noMessages else none)

structure PromptTemplate where
  id : UUID
  organization_id : UUID
  name : String
  version : ℤ
  messages : List PromptMessageTemplate
  created_at : DateTime
  ok : PromptTemplate.problem name version messages = none
deriving DecidableEq

def PromptTemplate.new (id organization_id : UUID) (name : String) (version : ℤ)
    (messages : List PromptMessageTemplate) (created_at : DateTime) : Except Exn PromptTemplate :=
  validated (PromptTemplate.problem name version messages) fun h =>
    ⟨id, organization_id, name, version, messages, created_at, h⟩

end Templates

section Rows

/-- One item of the JSON column. -/
structure MessageItem where
  role : String
  content : String
deriving DecidableEq

structure PromptTemplateRow where
  id : UUID
  organization_id : UUID
  name : String
  version : ℤ
  messages : List MessageItem
  created_at : DateTime
deriving DecidableEq

def messageItem (message : PromptMessageTemplate) : MessageItem := ⟨message.role.value, message.content⟩

def readItem (item : MessageItem) : Except Exn PromptMessageTemplate :=
  match MessageRole.ofValue item.role with
  | none => .error (.other "ValueError")
  | some role => PromptMessageTemplate.new role item.content

def toDomain (row : PromptTemplateRow) : Except Exn PromptTemplate := do
  let messages ← row.messages.mapM readItem
  PromptTemplate.new row.id row.organization_id row.name row.version messages row.created_at

theorem readItem_messageItem (message : PromptMessageTemplate) : readItem (messageItem message) = .ok message := by
  unfold readItem messageItem
  rw [MessageRole.ofValue_value]
  exact validated_ok message.ok

theorem readItems_messageItems (messages : List PromptMessageTemplate) :
    (messages.map messageItem).mapM readItem = .ok messages :=
  mapM_written readItem_messageItem messages

/-- A row with a valid name, a version from 1 on and some messages is read back. -/
theorem toDomain_ok {row : PromptTemplateRow} {messages : List PromptMessageTemplate}
    (hmessages : row.messages = messages.map messageItem)
    (hproblem : PromptTemplate.problem row.name row.version messages = none) :
    ∃ template, toDomain row = .ok template ∧ template.version = row.version ∧ template.messages = messages := by
  unfold toDomain
  rw [hmessages, readItems_messageItems]
  exact ⟨_, validated_ok hproblem, rfl, rfl⟩

theorem toDomain_version {row : PromptTemplateRow} {template : PromptTemplate} (h : toDomain row = .ok template) :
    template.version = row.version := by
  unfold toDomain at h
  cases hmessages : row.messages.mapM readItem with
  | error err =>
    rw [hmessages] at h
    cases h
  | ok messages =>
    rw [hmessages] at h
    obtain ⟨_, rfl⟩ := of_validated h
    rfl

end Rows

section Repository

inductive PromptExn where
  | versionConflict
  | failed (err : Exn)
deriving DecidableEq

inductive PromptCommand : Type where
  | uuid4
  | utcNow
  | maxVersion (organization_id : UUID) (name : String)
  | insertCommit (row : PromptTemplateRow)
  | rollback
  | selectLatest (organization_id : UUID) (name : String) (version : Option ℤ)
  | selectAscending (organization_id : UUID) (name : String)

@[reducible]
def PromptResponse : PromptCommand → Type
  | .uuid4 => UUID
  | .utcNow => UtcInstant
  | .maxVersion _ _ => Except Exn (Option ℤ)
  | .insertCommit _ => Except Exn Unit
  | .rollback => Except Exn Unit
  | .selectLatest _ _ _ => Except Exn (Option PromptTemplateRow)
  | .selectAscending _ _ => Except Exn (List PromptTemplateRow)

abbrev PromptAction (α : Type) := Prog PromptCommand PromptResponse Empty PromptExn α

abbrev PromptCommand.ask (c : PromptCommand) : PromptAction (PromptResponse c) := Prog.ask c

def raising {α : Type} (result : Except Exn α) : PromptAction α := Prog.ofExcept (result.mapError .failed)

@[simp] theorem raising_ok {α : Type} (a : α) : raising (.ok a) = .done a := rfl

def createVersion (organization_id : UUID) (name : String) (messages : List PromptMessageTemplate) :
    PromptAction PromptTemplate := do
  let latest ← raising (← (PromptCommand.maxVersion organization_id name).ask)
  let id ← PromptCommand.uuid4.ask
  let created_at ← PromptCommand.utcNow.ask
  let row : PromptTemplateRow :=
    ⟨id, organization_id, name, latest.getD 0 + 1, messages.map messageItem, created_at.val⟩
  match ← (PromptCommand.insertCommit row).ask with
  | .ok _ => raising (toDomain row)
  | .error err =>
    if err = integrityError then
      let _ ← raising (← PromptCommand.rollback.ask)
      .raise .versionConflict
    else .raise (.failed err)

def getVersion (organization_id : UUID) (name : String) (version : Option ℤ) :
    PromptAction (Option PromptTemplate) := do
  match ← raising (← (PromptCommand.selectLatest organization_id name version).ask) with
  | none => .done none
  | some row =>
    let template ← raising (toDomain row)
    .done (some template)

def listVersions (organization_id : UUID) (name : String) : PromptAction (List PromptTemplate) := do
  let rows ← raising (← (PromptCommand.selectAscending organization_id name).ask)
  raising (rows.mapM toDomain)

/-- What `CreatePromptVersion.execute` refuses before it calls the repository. -/
def requestProblem (name : String) (messages : List PromptMessageTemplate) : Option String :=
  (validatePromptName name).or (if messages.isEmpty then some noMessages else none)

def createPromptVersion (organization_id : UUID) (name : String) (messages : List PromptMessageTemplate) :
    PromptAction PromptTemplate :=
  match requestProblem name messages with
  | some message => .raise (.failed (.domainValidation message))
  | none => createVersion organization_id name messages

end Repository

end AIRuntime.PromptRecords
