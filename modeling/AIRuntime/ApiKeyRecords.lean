import AIRuntime.AccountingRecords

set_option autoImplicit false

/-! `domain/organization.py`, `domain/api_key.py` and the errors of the use cases. -/
namespace AIRuntime.ApiKeyRecords

open PythonText Failures CivilTime Identifiers

inductive OrganizationStatus where
  | active
  | suspended
deriving DecidableEq

def isSlugChar (c : Char) : Bool :=
  let n := c.toNat
  (97 ≤ n && n ≤ 122) || (48 ≤ n && n ≤ 57) || c = '-'

def slugProblem (slug : String) : Option String :=
  (requireNonBlank slug "slug").or <|
  if slug.toList.all isSlugChar then none
  else some "slug must contain only lowercase letters, digits, and hyphens"

def Organization.problem (name slug : String) (created_at updated_at : DateTime) : Option String :=
  (requireNonBlank name "name").or <| (slugProblem slug).or <|
  if created_at.utcoffset = none ∨ updated_at.utcoffset = none then
    some "created_at and updated_at must be timezone-aware"
  else none

structure Organization where
  id : UUID
  name : String
  slug : String
  status : OrganizationStatus
  created_at : DateTime
  updated_at : DateTime
  ok : Organization.problem name slug created_at updated_at = none
deriving DecidableEq

def Organization.new (id : UUID) (name slug : String) (status : OrganizationStatus) (created_at updated_at : DateTime) :
    Except Exn Organization :=
  validated (Organization.problem name slug created_at updated_at) fun h =>
    ⟨id, name, slug, status, created_at, updated_at, h⟩

/-- `failed` is any other exception. -/
inductive KeyExn where
  | invalidCredentials
  | organizationSuspended (organization_id : UUID)
  | organizationNotFound (organization_id : UUID)
  | apiKeyNotFound (api_key_id : UUID)
  | alreadyRevoked (api_key_id : UUID)
  | lookup (api_key_id : UUID)
  | failed (err : Exn)
deriving DecidableEq

inductive ApiKeyStatus where
  | active
  | revoked
deriving DecidableEq

def ApiKey.problem (name : Option String) (keyPrefix secret_hash : String) (status : ApiKeyStatus)
    (created_at : DateTime) (revoked_at : Option DateTime) (updated_at : DateTime) : Option String :=
  (name.bind (requireNonBlank · "name")).or <|
  (requireNonBlank keyPrefix "prefix").or <|
  (requireNonBlank secret_hash "secret_hash").or <|
  if created_at.utcoffset = none ∨ updated_at.utcoffset = none then
    some "created_at and updated_at must be timezone-aware"
  else if revoked_at.any fun moment => moment.utcoffset = none then
    some "revoked_at must be timezone-aware when set"
  else if status = .revoked ∧ revoked_at = none then some "revoked keys must have revoked_at set"
  else if status = .active ∧ revoked_at ≠ none then some "active keys must not have revoked_at set"
  else none

/-- A credential of one organization; `keyPrefix` is the source's `prefix`. -/
structure ApiKey where
  id : UUID
  organization_id : UUID
  name : Option String
  keyPrefix : String
  secret_hash : String
  status : ApiKeyStatus
  created_at : DateTime
  revoked_at : Option DateTime
  updated_at : DateTime
  ok : ApiKey.problem name keyPrefix secret_hash status created_at revoked_at updated_at = none
deriving DecidableEq

structure ApiKeyMetadata where
  id : UUID
  organization_id : UUID
  name : Option String
  keyPrefix : String
  status : ApiKeyStatus
  created_at : DateTime
  revoked_at : Option DateTime
  updated_at : DateTime
deriving DecidableEq

namespace ApiKey

/-- `ApiKey(..)` with its `__post_init__`. -/
def new (id organization_id : UUID) (name : Option String) (keyPrefix secret_hash : String) (status : ApiKeyStatus)
    (created_at : DateTime) (revoked_at : Option DateTime) (updated_at : DateTime) : Except KeyExn ApiKey :=
  (validated (problem name keyPrefix secret_hash status created_at revoked_at updated_at) fun h =>
    (⟨id, organization_id, name, keyPrefix, secret_hash, status, created_at, revoked_at, updated_at, h⟩ :
      ApiKey)).mapError .failed

def toMetadata (self : ApiKey) : ApiKeyMetadata :=
  ⟨self.id, self.organization_id, self.name, self.keyPrefix, self.status, self.created_at, self.revoked_at,
    self.updated_at⟩

def revoke (self : ApiKey) (moment : DateTime) : Except KeyExn ApiKey :=
  if self.status = .revoked then .error (.alreadyRevoked self.id)
  else if moment.utcoffset = none then
    .error (.failed (.domainValidation "revoke timestamp must be timezone-aware"))
  else
    new self.id self.organization_id self.name self.keyPrefix self.secret_hash .revoked self.created_at
      (some moment) moment

theorem new_eq_ok {id organization_id : UUID} {name : Option String} {keyPrefix secret_hash : String}
    {status : ApiKeyStatus} {created_at : DateTime} {revoked_at : Option DateTime} {updated_at : DateTime}
    {key : ApiKey}
    (h : new id organization_id name keyPrefix secret_hash status created_at revoked_at updated_at = .ok key) :
    key.toMetadata = ⟨id, organization_id, name, keyPrefix, status, created_at, revoked_at, updated_at⟩ ∧
      key.secret_hash = secret_hash := by
  unfold new at h
  cases hv : validated (problem name keyPrefix secret_hash status created_at revoked_at updated_at) fun h =>
      (⟨id, organization_id, name, keyPrefix, secret_hash, status, created_at, revoked_at, updated_at, h⟩ :
        ApiKey) with
  | error err =>
    rw [hv] at h
    cases h
  | ok built =>
    rw [hv] at h
    cases h
    obtain ⟨hp, rfl⟩ := of_validated hv
    exact ⟨rfl, rfl⟩

/-- What becomes of a key that is revoked: it was active, and only its status and times change. -/
structure RevokedAs (key revoked : ApiKey) : Prop where
  was_active : key.status = .active
  status : revoked.status = .revoked
  id : revoked.id = key.id
  organization_id : revoked.organization_id = key.organization_id
  keyPrefix : revoked.keyPrefix = key.keyPrefix
  secret_hash : revoked.secret_hash = key.secret_hash

theorem revoke_eq_ok {self revoked : ApiKey} {moment : DateTime} (h : self.revoke moment = .ok revoked) :
    self.RevokedAs revoked := by
  unfold revoke at h
  split_ifs at h with hstatus hmoment
  obtain ⟨hmetadata, hhash⟩ := new_eq_ok h
  have hactive : self.status = .active := by
    cases hs : self.status with
    | active => rfl
    | revoked => exact absurd hs hstatus
  exact ⟨hactive, congrArg ApiKeyMetadata.status hmetadata, congrArg ApiKeyMetadata.id hmetadata,
    congrArg ApiKeyMetadata.organization_id hmetadata, congrArg ApiKeyMetadata.keyPrefix hmetadata, hhash⟩

theorem new_isOk {id organization_id : UUID} {name : Option String} {keyPrefix secret_hash : String}
    {status : ApiKeyStatus} {created_at : DateTime} {revoked_at : Option DateTime} {updated_at : DateTime}
    (h : problem name keyPrefix secret_hash status created_at revoked_at updated_at = none) :
    ∃ key, new id organization_id name keyPrefix secret_hash status created_at revoked_at updated_at = .ok key := by
  unfold new
  rw [validated_ok h]
  exact ⟨_, rfl⟩

theorem revoke_inactive {self : ApiKey} {moment : DateTime} (h : self.status ≠ .active) :
    self.revoke moment = .error (.alreadyRevoked self.id) := by
  have hstatus : self.status = .revoked := by
    cases hs : self.status with
    | active => exact absurd hs h
    | revoked => rfl
  rw [revoke, if_pos hstatus]

theorem texts_ok (self : ApiKey) :
    self.name.bind (requireNonBlank · "name") = none ∧ requireNonBlank self.keyPrefix "prefix" = none ∧
      requireNonBlank self.secret_hash "secret_hash" = none := by
  have hname := GenerationContracts.or_none self.ok
  have hprefix := GenerationContracts.or_none hname.2
  exact ⟨hname.1, hprefix.1, (GenerationContracts.or_none hprefix.2).1⟩

theorem created_at_aware (self : ApiKey) : self.created_at.utcoffset ≠ none := by
  have hname := GenerationContracts.or_none self.ok
  have htimes := (GenerationContracts.or_none (GenerationContracts.or_none hname.2).2).2
  split_ifs at htimes with h
  exact fun hcreated => h (.inl hcreated)

/-- An active key can be revoked at any moment that names its offset. -/
theorem revoke_isOk {self : ApiKey} {moment : DateTime} (hstatus : self.status = .active)
    (hmoment : moment.utcoffset ≠ none) : ∃ revoked, self.revoke moment = .ok revoked := by
  obtain ⟨hname, hprefix, hhash⟩ := self.texts_ok
  have hcreated := self.created_at_aware
  have hproblem : problem self.name self.keyPrefix self.secret_hash .revoked self.created_at (some moment) moment =
      none := by
    unfold problem
    rw [hname, hprefix, hhash]
    simp [hcreated, hmoment]
  unfold revoke
  rw [if_neg (by rw [hstatus]; decide), if_neg hmoment]
  exact new_isOk hproblem

theorem prefix_ok (self : ApiKey) : isBlank self.keyPrefix = false := requireNonBlank_none.mp self.texts_ok.2.1

end ApiKey

end AIRuntime.ApiKeyRecords
