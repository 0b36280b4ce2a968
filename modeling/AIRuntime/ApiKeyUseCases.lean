import AIRuntime.ApiKeyRecords
import AIRuntime.EffectTriples
import AIRuntime.Collaborators

set_option autoImplicit false

/-! `application/api_keys` and `application/auth`, over `infrastructure/security/api_key_crypto.py`. -/
namespace AIRuntime.ApiKeyUseCases

open EffectPrograms PythonText Failures CivilTime Identifiers AccountingRecords Collaborators ApiKeyRecords

/-- What the use cases ask of repositories, the clock and the hasher. Each write commits by itself. -/
inductive KeyCommand : Type where
  | utcNow
  | uuid4
  | tokenUrlsafe
  | hashSecret (secret : String)
  | getOrganization (organization_id : UUID)
  | getKey (api_key_id : UUID)
  | findByPrefix (keyPrefix : String)
  | addKey (api_key : ApiKey)
  | saveKey (api_key : ApiKey)
  | revokeAndAdd (revoked replacement : ApiKey)
  | addAudit (event : AuditEvent)

@[reducible]
def KeyResponse : KeyCommand → Type
  | .utcNow => UtcInstant
  | .uuid4 => UUID
  | .tokenUrlsafe => Except KeyExn String
  | .hashSecret _ => Except KeyExn String
  | .getOrganization _ => Except KeyExn (Option Organization)
  | .getKey _ => Except KeyExn (Option ApiKey)
  | .findByPrefix _ => Except KeyExn (List ApiKey)
  | .addKey _ => Except KeyExn ApiKey
  | .saveKey _ => Except KeyExn ApiKey
  | .revokeAndAdd _ _ => Except KeyExn ApiKey
  | .addAudit _ => Except KeyExn Unit

abbrev KeyAction (α : Type) := Prog KeyCommand KeyResponse Empty KeyExn α

abbrev KeyCommand.ask (c : KeyCommand) : KeyAction (KeyResponse c) := Prog.ask c

section Hasher

def keyPublicPrefix : String := "airt_"

/-- `LOOKUP_PREFIX_LENGTH`, which is also `_MIN_SECRET_LENGTH`. -/
def lookupPrefixLength : ℕ := 13

def deriveLookupPrefix (secret : String) : String := String.ofList (secret.toList.take lookupPrefixLength)

/-- `secret.startswith(_PUBLIC_SECRET_PREFIX)` and long enough. -/
def wellFormed (secret : String) : Bool :=
  keyPublicPrefix.toList.isPrefixOf secret.toList && lookupPrefixLength ≤ secret.length

def generateSecret : KeyAction (String × String) := do
  let token ← Prog.ofExcept (← KeyCommand.tokenUrlsafe.ask)
  .done (keyPublicPrefix ++ token, deriveLookupPrefix (keyPublicPrefix ++ token))

end Hasher

def recordKeyChange (action : String) (now : UtcInstant) (stored : ApiKey) (metadata : List (String × String)) :
    KeyAction Unit := do
  let id ← KeyCommand.uuid4.ask
  let event ← Prog.ofExcept ((AuditEvent.new id action now.val (some stored.organization_id) none none "api_key"
    (some stored.id.str) metadata).mapError .failed)
  Prog.ofExcept (← (KeyCommand.addAudit event).ask)

structure CreateApiKeyCommand where
  organization_id : UUID
  name : Option String

structure CreateApiKeyResult where
  api_key : ApiKeyMetadata
  secret : String
deriving DecidableEq

def issueKey (organization_id : UUID) (name : Option String) (now : UtcInstant) (secret keyPrefix : String) :
    KeyAction ApiKey := do
  let id ← KeyCommand.uuid4.ask
  let secret_hash ← Prog.ofExcept (← (KeyCommand.hashSecret secret).ask)
  Prog.ofExcept (ApiKey.new id organization_id name keyPrefix secret_hash .active now.val none now.val)

def createApiKey (command : CreateApiKeyCommand) : KeyAction CreateApiKeyResult := do
  match ← Prog.ofExcept (← (KeyCommand.getOrganization command.organization_id).ask) with
  | none => .raise (.organizationNotFound command.organization_id)
  | some _ =>
    let generated ← generateSecret
    let now ← KeyCommand.utcNow.ask
    let api_key ← issueKey command.organization_id command.name now generated.1 generated.2
    let stored ← Prog.ofExcept (← (KeyCommand.addKey api_key).ask)
    let _ ← recordKeyChange "api_key.created" now stored [("prefix", stored.keyPrefix)]
    .done ⟨stored.toMetadata, generated.1⟩

def revokeApiKey (api_key_id : UUID) : KeyAction ApiKeyMetadata := do
  match ← Prog.ofExcept (← (KeyCommand.getKey api_key_id).ask) with
  | none => .raise (.apiKeyNotFound api_key_id)
  | some api_key =>
    let now ← KeyCommand.utcNow.ask
    let revoked ← Prog.ofExcept (api_key.revoke now.val)
    let stored ← Prog.ofExcept (← (KeyCommand.saveKey revoked).ask)
    let _ ← recordKeyChange "api_key.revoked" now stored [("prefix", stored.keyPrefix)]
    .done stored.toMetadata

def rotateApiKey (api_key_id : UUID) : KeyAction CreateApiKeyResult := do
  match ← Prog.ofExcept (← (KeyCommand.getKey api_key_id).ask) with
  | none => .raise (.apiKeyNotFound api_key_id)
  | some api_key =>
    let now ← KeyCommand.utcNow.ask
    let revoked ← Prog.ofExcept (api_key.revoke now.val)
    let generated ← generateSecret
    let replacement ← issueKey api_key.organization_id api_key.name now generated.1 generated.2
    let stored ← Prog.ofExcept (← (KeyCommand.revokeAndAdd revoked replacement).ask)
    let _ ← recordKeyChange "api_key.rotated" now stored
      [("previous_key_id", api_key_id.str), ("prefix", stored.keyPrefix)]
    .done ⟨stored.toMetadata, generated.1⟩

structure AuthenticatedPrincipal where
  api_key_id : UUID
  organization_id : UUID
  organization_slug : String
  api_key_prefix : String
deriving DecidableEq

/-- `AuthenticateApiKey.execute`; `verify_secret` is the hasher's. -/
def authenticateApiKey (verify_secret : String → String → Bool) (secret : String) :
    KeyAction AuthenticatedPrincipal := do
  if !wellFormed secret then .raise .invalidCredentials
  else
    let candidates ← Prog.ofExcept (← (KeyCommand.findByPrefix (deriveLookupPrefix secret)).ask)
    match candidates.find? fun candidate => verify_secret secret candidate.secret_hash with
    | none => .raise .invalidCredentials
    | some candidate =>
      if candidate.status ≠ .active then .raise .invalidCredentials
      else
        match ← Prog.ofExcept (← (KeyCommand.getOrganization candidate.organization_id).ask) with
        | none => .raise .invalidCredentials
        | some organization =>
          if organization.status = .suspended then .raise (.organizationSuspended organization.id)
          else .done ⟨candidate.id, organization.id, organization.slug, candidate.keyPrefix⟩

end AIRuntime.ApiKeyUseCases
