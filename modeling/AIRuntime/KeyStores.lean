import AIRuntime.ApiKeyUseCases
import AIRuntime.SharedStores
import Mathlib.Data.List.Nodup

set_option autoImplicit false

/-! The stores of the key use cases: `api_keys` as its repository writes it, organizations and the hasher. -/
namespace AIRuntime.KeyStores

open EffectPrograms PythonText Failures Identifiers AccountingRecords SharedStores ApiKeyRecords ApiKeyUseCases

section Tables

def keyClash (a b : ApiKey) : Bool := a.id = b.id

def replaceRow (key row : ApiKey) : ApiKey := if row.id = key.id then key else row

theorem replaceRow_id (key row : ApiKey) : (replaceRow key row).id = row.id := by
  unfold replaceRow
  split_ifs with h
  · exact h.symm
  · rfl

abbrev KeyTable := Table ApiKey keyClash

namespace KeyTable

def get (table : KeyTable) (api_key_id : UUID) : Option ApiKey := table.rows.find? fun row => row.id = api_key_id

def update (table : KeyTable) (key : ApiKey) : KeyTable where
  rows := table.rows.map (replaceRow key)
  ok := by
    refine List.pairwise_map.mpr (table.ok.imp fun {a b} h => ?_)
    unfold keyClash at h ⊢
    rw [replaceRow_id, replaceRow_id]
    exact h

theorem unique (table : KeyTable) {a b : ApiKey} (ha : a ∈ table.rows) (hb : b ∈ table.rows) (h : a.id = b.id) :
    a = b := by
  have hnodup : (table.rows.map ApiKey.id).Nodup :=
    List.pairwise_map.mpr (table.ok.imp fun {x y} hxy => by simpa [keyClash] using hxy)
  exact List.inj_on_of_nodup_map hnodup ha hb h

theorem get_some {table : KeyTable} {api_key_id : UUID} {key : ApiKey} (h : table.get api_key_id = some key) :
    key ∈ table.rows ∧ key.id = api_key_id := by
  refine ⟨List.mem_of_find?_eq_some h, ?_⟩
  have hid := List.find?_some h
  simpa using hid

theorem mem_update {table : KeyTable} {key row : ApiKey} (hkey : (table.get key.id).isSome) :
    row ∈ (table.update key).rows ↔ row = key ∨ row ∈ table.rows ∧ row.id ≠ key.id := by
  obtain ⟨old, hold⟩ := Option.isSome_iff_exists.mp hkey
  obtain ⟨hmem, hid⟩ := get_some hold
  constructor
  · intro h
    obtain ⟨row', hrow', rfl⟩ := List.mem_map.mp h
    unfold replaceRow
    split_ifs with hsame
    · exact .inl rfl
    · exact .inr ⟨hrow', hsame⟩
  · rintro (rfl | ⟨hrow, hne⟩)
    · exact List.mem_map.mpr ⟨old, hmem, if_pos hid⟩
    · exact List.mem_map.mpr ⟨row, hrow, if_neg hne⟩

theorem update_ids (table : KeyTable) (key : ApiKey) :
    (table.update key).rows.map ApiKey.id = table.rows.map ApiKey.id := by
  change (table.rows.map (replaceRow key)).map ApiKey.id = _
  rw [List.map_map]
  exact List.map_congr_left fun row _ => replaceRow_id key row

theorem get_update {table : KeyTable} {key : ApiKey} (h : (table.get key.id).isSome) :
    (table.update key).get key.id = some key := by
  have hmem : key ∈ (table.update key).rows := (mem_update h).mpr (.inl rfl)
  cases hget : (table.update key).get key.id with
  | none => exact absurd (decide_eq_true rfl) (List.find?_eq_none.mp hget key hmem)
  | some row =>
    obtain ⟨hrow, hid⟩ := get_some hget
    rw [(table.update key).unique hrow hmem hid]

theorem insert_ids {table table' : KeyTable} {key : ApiKey} (h : table.insert key = some table') :
    table'.rows.map ApiKey.id = table.rows.map ApiKey.id ++ [key.id] := by
  rw [Table.insert_some h, List.map_append]
  rfl

theorem get_insert {table table' : KeyTable} {key row : ApiKey} {api_key_id : UUID}
    (h : table.insert key = some table') (hget : table.get api_key_id = some row) :
    table'.get api_key_id = some row := by
  unfold get at hget ⊢
  rw [Table.insert_some h, List.find?_append, hget]
  rfl

end KeyTable

end Tables

section Stores

structure Organizations where
  get : UUID → Option Organization
  ok : ∀ id organization, get id = some organization → organization.id = id

/-- `generated` are the secrets that were ever generated. -/
structure KeyStore where
  api_keys : KeyTable
  organizations : Organizations
  generated : List String

/-- What a command does that is carried out. A secret is fresh and long enough, `verify_secret` accepts a
digest for the secret it is of and for no other, and keys are found in any order. -/
def CarriesOut (verify_secret : String → String → Bool) (w : KeyStore) :
    (c : KeyCommand) → KeyResponse c → KeyStore → Prop
  | .utcNow, _, w' => w' = w
  | .uuid4, _, w' => w' = w
  | .tokenUrlsafe, r, w' => ∃ token, r = .ok token ∧ 8 ≤ token.length ∧ keyPublicPrefix ++ token ∉ w.generated ∧
    w' = { w with generated := (keyPublicPrefix ++ token) :: w.generated }
  | .hashSecret secret, r, w' => ∃ digest, r = .ok digest ∧
    (∀ presented, verify_secret presented digest = true ↔ presented = secret) ∧ w' = w
  | .getOrganization id, r, w' => r = .ok (w.organizations.get id) ∧ w' = w
  | .getKey id, r, w' => r = .ok (w.api_keys.get id) ∧ w' = w
  | .findByPrefix keyPrefix, r, w' => ∃ candidates, r = .ok candidates ∧
    candidates.Perm (w.api_keys.rows.filter fun row => row.keyPrefix = keyPrefix) ∧ w' = w
  | .addKey key, r, w' =>
    match w.api_keys.insert key with
    | none => r = .error (.failed integrityError) ∧ w' = w
    | some api_keys => r = .ok key ∧ w' = { w with api_keys := api_keys }
  | .saveKey key, r, w' =>
    match w.api_keys.get key.id with
    | none => r = .error (.lookup key.id) ∧ w' = w
    | some _ => r = .ok key ∧ w' = { w with api_keys := w.api_keys.update key }
  | .revokeAndAdd revoked replacement, r, w' =>
    match w.api_keys.get revoked.id with
    | none => r = .error (.lookup revoked.id) ∧ w' = w
    | some _ =>
      match (w.api_keys.update revoked).insert replacement with
      | none => r = .error (.failed integrityError) ∧ w' = w
      | some api_keys => r = .ok replacement ∧ w' = { w with api_keys := api_keys }
  | .addAudit _, r, w' => r = .ok () ∧ w' = w

/-- What a command does that fails: nothing. The clock, `uuid4` and what follows a commit do not fail. -/
def FailsBefore (w : KeyStore) : (c : KeyCommand) → KeyResponse c → KeyStore → Prop
  | .utcNow, _, _ => False
  | .uuid4, _, _ => False
  | .addAudit _, _, _ => False
  | .tokenUrlsafe, r, w' => (∃ err, r = .error err) ∧ w' = w
  | .hashSecret _, r, w' => (∃ err, r = .error err) ∧ w' = w
  | .getOrganization _, r, w' => (∃ err, r = .error err) ∧ w' = w
  | .getKey _, r, w' => (∃ err, r = .error err) ∧ w' = w
  | .findByPrefix _, r, w' => (∃ err, r = .error err) ∧ w' = w
  | .addKey _, r, w' => (∃ err, r = .error err) ∧ w' = w
  | .saveKey _, r, w' => (∃ err, r = .error err) ∧ w' = w
  | .revokeAndAdd _ _, r, w' => (∃ err, r = .error err) ∧ w' = w

/-- Organizations change as they like before a command. -/
def reliable (verify_secret : String → String → Bool) : Environment KeyCommand KeyResponse KeyStore where
  may := fun _ _ => True
  reply := fun w c r w' => ∃ organizations, CarriesOut verify_secret { w with organizations := organizations } c r w'

/-- As `reliable`, but up to its commit a use case may fail at any command. -/
def fallible (verify_secret : String → String → Bool) : Environment KeyCommand KeyResponse KeyStore where
  may := fun _ _ => True
  reply := fun w c r w' => ∃ organizations, CarriesOut verify_secret { w with organizations := organizations } c r w' ∨
    FailsBefore { w with organizations := organizations } c r w'

abbrev Spec {α : Type} (env : Environment KeyCommand KeyResponse KeyStore) (p : KeyAction α)
    (Q : Except KeyExn α → KeyStore → Prop) (w : KeyStore) : Prop :=
  p.wp env (fun w _ => w) Q w

end Stores

section Steps

variable {verify_secret : String → String → Bool} {w₀ w w' : KeyStore}

/-- The keys are what they were; secrets may have been generated since. -/
structure SameKeys (w₀ w : KeyStore) : Prop where
  api_keys : w.api_keys = w₀.api_keys
  generated : ∀ secret ∈ w₀.generated, secret ∈ w.generated

theorem SameKeys.refl (w : KeyStore) : SameKeys w w := ⟨rfl, fun _ h => h⟩

/-- The secret was generated since, and the key is of that secret. -/
structure Seals (verify_secret : String → String → Bool) (secret : String) (key : ApiKey) : Prop where
  keyPrefix : key.keyPrefix = deriveLookupPrefix secret
  verified : ∀ presented, verify_secret presented key.secret_hash = true ↔ presented = secret
  wellFormed : wellFormed secret = true

theorem Seals.one {secret secret' : String} {key : ApiKey} (h : Seals verify_secret secret key)
    (h' : Seals verify_secret secret' key) :
    secret = secret' := by
  apply (h'.verified secret).mp
  exact (h.verified secret).mpr rfl

theorem Seals.revoked {secret : String} {key revoked : ApiKey} (hrevoked : key.RevokedAs revoked) :
    Seals verify_secret secret revoked ↔ Seals verify_secret secret key := by
  constructor
  · intro h
    exact ⟨hrevoked.keyPrefix ▸ h.keyPrefix, hrevoked.secret_hash ▸ h.verified, h.wellFormed⟩
  · intro h
    exact ⟨hrevoked.keyPrefix.trans h.keyPrefix, by rw [hrevoked.secret_hash]; exact h.verified, h.wellFormed⟩

theorem wellFormed_generated {token : String} (h : 8 ≤ token.length) :
    wellFormed (keyPublicPrefix ++ token) = true := by
  have hlength : (keyPublicPrefix ++ token).length = 5 + token.length := String.length_append _ _
  unfold wellFormed
  rw [Bool.and_eq_true, List.isPrefixOf_iff_prefix, String.toList_append, decide_eq_true_eq, hlength]
  refine ⟨List.prefix_append _ _, ?_⟩
  unfold lookupPrefixLength
  omega

/-- The secret was not known before, is now, and will do for a key. -/
structure Generated (w₀ w : KeyStore) (secret : String) : Prop extends SameKeys w₀ w where
  fresh : secret ∉ w₀.generated
  known : secret ∈ w.generated
  wellFormed : ApiKeyUseCases.wellFormed secret = true

theorem generateSecret_spec (h : SameKeys w₀ w) :
    Spec (fallible verify_secret) generateSecret (Prog.ends (fun generated w' =>
      Generated w₀ w' generated.1 ∧ generated.2 = deriveLookupPrefix generated.1) fun _ w' => SameKeys w₀ w') w := by
  refine ⟨trivial, ?_⟩
  rintro r w' ⟨organizations, ⟨token, rfl, hlength, hfresh, rfl⟩ | ⟨⟨err, rfl⟩, rfl⟩⟩
  · refine ⟨⟨⟨h.api_keys, fun secret hs => List.mem_cons_of_mem _ (h.generated secret hs)⟩, ?_,
      List.mem_cons_self, wellFormed_generated hlength⟩, rfl⟩
    exact fun hold => hfresh (h.generated _ hold)
  · exact ⟨h.api_keys, h.generated⟩

/-- A key that is issued: active, of its organization, and of its secret. -/
structure Issued (verify_secret : String → String → Bool) (organization_id : UUID) (secret : String)
    (key : ApiKey) : Prop extends Seals verify_secret secret key where
  active : key.status = .active
  organization_id : key.organization_id = organization_id

theorem issueKey_spec {organization_id : UUID} {name : Option String} {now : Collaborators.UtcInstant}
    {secret : String} (h : Generated w₀ w secret) :
    Spec (fallible verify_secret) (issueKey organization_id name now secret (deriveLookupPrefix secret))
      (Prog.ends (fun key w' => Generated w₀ w' secret ∧ Issued verify_secret organization_id secret key)
        fun _ w' => SameKeys w₀ w') w := by
  refine ⟨trivial, ?_⟩
  rintro id w₁ ⟨organizations, rfl | hfails⟩
  · refine ⟨trivial, ?_⟩
    rintro r w₂ ⟨organizations', ⟨digest, rfl, hverify, rfl⟩ | ⟨⟨err, rfl⟩, rfl⟩⟩
    · simp only [Prog.done_bind, Prog.ofExcept_ok, Prog.bind_eq]
      cases hnew : ApiKey.new id organization_id name (deriveLookupPrefix secret) digest .active now.val none
        now.val with
      | error err => exact ⟨h.api_keys, h.generated⟩
      | ok key =>
        obtain ⟨hmetadata, hhash⟩ := ApiKey.new_eq_ok hnew
        refine ⟨⟨⟨h.api_keys, h.generated⟩, h.fresh, h.known, h.wellFormed⟩,
          ⟨⟨congrArg ApiKeyMetadata.keyPrefix hmetadata, ?_, h.wellFormed⟩, congrArg ApiKeyMetadata.status hmetadata,
            congrArg ApiKeyMetadata.organization_id hmetadata⟩⟩
        rw [hhash]
        exact hverify
    · exact ⟨h.api_keys, h.generated⟩
  · exact hfails.elim

theorem keyEvent_ok {id : UUID} {action : String} {now : Collaborators.UtcInstant} {stored : ApiKey}
    {metadata : List (String × String)} (haction : isBlank action = false)
    (hmetadata : metadata.findSome? (fun item => metadataProblem item.1 item.2) = none) :
    ∃ event, AuditEvent.new id action now.val (some stored.organization_id) none none "api_key"
      (some stored.id.str) metadata = .ok event := by
  have hproblem : AuditEvent.problem action "api_key" now.val metadata = none := by
    unfold AuditEvent.problem
    rw [requireNonBlank_none.mpr haction]
    have hoffset : now.val.utcoffset ≠ none := by
      rw [now.property]
      nofun
    simp [requireNonBlank, isBlank, isSpace, hoffset, hmetadata]
  exact ⟨_, validated_ok hproblem⟩

theorem recordKeyChange_spec {action : String} {now : Collaborators.UtcInstant} {stored : ApiKey}
    {metadata : List (String × String)} {P : KeyStore → Prop} (haction : isBlank action = false)
    (hmetadata : metadata.findSome? (fun item => metadataProblem item.1 item.2) = none)
    (hP : ∀ w organizations, P w → P { w with organizations := organizations }) (h : P w) :
    Spec (fallible verify_secret) (recordKeyChange action now stored metadata)
      (Prog.ends (fun _ w' => P w') fun _ _ => False) w := by
  refine ⟨trivial, ?_⟩
  rintro id w₁ ⟨organizations, rfl | hfails⟩
  · obtain ⟨event, hevent⟩ := @keyEvent_ok id action now stored metadata haction hmetadata
    simp only [Prog.done_bind, hevent, Except.mapError, Prog.ofExcept_ok, Prog.bind_eq]
    refine ⟨trivial, ?_⟩
    rintro r w₂ ⟨organizations', ⟨rfl, rfl⟩ | hfails⟩
    · exact hP _ _ (hP _ _ h)
    · exact hfails.elim
  · exact hfails.elim

theorem uuid_not_blank (id : UUID) : isBlank id.str = false := by
  have hdash : '-' ∈ id.chars := List.mem_append_right _ List.mem_cons_self
  rw [Bool.eq_false_iff]
  intro hblank
  have hspace := List.all_eq_true.mp hblank '-' (by rwa [UUID.str, String.toList_ofList])
  revert hspace
  decide

theorem metadata_ok {key value : String} (hkey : metadataProblem key "-" = none) (hvalue : isBlank value = false) :
    metadataProblem key value = none := by
  unfold metadataProblem at hkey ⊢
  obtain ⟨hblank, hrest⟩ := GenerationContracts.or_none hkey
  rw [hblank, Option.none_or]
  have hallowed : ¬ forbiddenMetadataKeys.contains (lower key) = true := by
    intro hforbidden
    rw [if_pos hforbidden] at hrest
    cases hrest
  rw [if_neg hallowed, hvalue]
  rfl

theorem prefix_metadata_ok (key : ApiKey) :
    [("prefix", key.keyPrefix)].findSome? (fun item => metadataProblem item.1 item.2) = none := by
  rw [List.findSome?_singleton]
  have hkey : metadataProblem "prefix" "-" = none := by decide
  exact metadata_ok hkey key.prefix_ok

theorem rotation_metadata_ok (id : UUID) (key : ApiKey) :
    [("previous_key_id", id.str), ("prefix", key.keyPrefix)].findSome?
      (fun item => metadataProblem item.1 item.2) = none := by
  have hkey : metadataProblem "previous_key_id" "-" = none := by decide
  rw [List.findSome?_cons, metadata_ok hkey (uuid_not_blank id)]
  exact prefix_metadata_ok key

end Steps

section UseCases

variable {verify_secret : String → String → Bool} {w₀ w : KeyStore}

/-- A key was added to a table: it is issued for a secret that nobody had. -/
structure Added (verify_secret : String → String → Bool) (w₀ : KeyStore) (table : KeyTable) (organization_id : UUID)
    (secret : String) (key : ApiKey) (w : KeyStore) : Prop where
  inserted : table.insert key = some w.api_keys
  issued : Issued verify_secret organization_id secret key
  fresh : secret ∉ w₀.generated
  known : secret ∈ w.generated
  generated : ∀ secret ∈ w₀.generated, secret ∈ w.generated

def Creates (verify_secret : String → String → Bool) (w₀ : KeyStore) (organization_id : UUID)
    (result : CreateApiKeyResult) (w : KeyStore) : Prop :=
  ∃ key, Added verify_secret w₀ w₀.api_keys organization_id result.secret key w ∧ result.api_key = key.toMetadata

def Revokes (w₀ : KeyStore) (api_key_id : UUID) (w : KeyStore) : Prop :=
  ∃ api_key revoked, w₀.api_keys.get api_key_id = some api_key ∧ api_key.RevokedAs revoked ∧
    w.api_keys = w₀.api_keys.update revoked ∧ w.generated = w₀.generated

def Rotates (verify_secret : String → String → Bool) (w₀ : KeyStore) (api_key_id : UUID)
    (result : CreateApiKeyResult) (w : KeyStore) : Prop :=
  ∃ api_key revoked key, w₀.api_keys.get api_key_id = some api_key ∧ api_key.RevokedAs revoked ∧
    Added verify_secret w₀ (w₀.api_keys.update revoked) api_key.organization_id result.secret key w ∧
    result.api_key = key.toMetadata

theorem Added.reorganized {table : KeyTable} {organization_id : UUID} {secret : String} {key : ApiKey}
    (h : Added verify_secret w₀ table organization_id secret key w) (organizations : Organizations) :
    Added verify_secret w₀ table organization_id secret key { w with organizations := organizations } :=
  ⟨h.inserted, h.issued, h.fresh, h.known, h.generated⟩

theorem SameKeys.reorganized (h : SameKeys w₀ w) (organizations : Organizations) :
    SameKeys w₀ { w with organizations := organizations } :=
  ⟨h.api_keys, h.generated⟩

theorem Generated.reorganized {secret : String} (h : Generated w₀ w secret) (organizations : Organizations) :
    Generated w₀ { w with organizations := organizations } secret :=
  ⟨h.toSameKeys.reorganized organizations, h.fresh, h.known, h.wellFormed⟩

/-- A key is stored for a secret just generated, or the table refuses it. -/
theorem Generated.added {table : KeyTable} {organization_id : UUID} {secret : String} {key : ApiKey}
    (h : Generated w₀ w secret) (hissued : Issued verify_secret organization_id secret key) {api_keys : KeyTable}
    (hinsert : table.insert key = some api_keys) :
    Added verify_secret w₀ table organization_id secret key { w with api_keys := api_keys } :=
  ⟨hinsert, hissued, h.fresh, h.known, h.generated⟩

theorem createApiKey_spec (command : CreateApiKeyCommand) :
    Spec (fallible verify_secret) (createApiKey command)
      (Prog.ends (Creates verify_secret w command.organization_id) fun _ w' => SameKeys w w') w := by
  refine Prog.wp_ask trivial ?_
  rintro r w₁ ⟨organizations, ⟨rfl, rfl⟩ | ⟨⟨err, rfl⟩, rfl⟩⟩
  · have hsame := (SameKeys.refl w).reorganized organizations
    cases hget : organizations.get command.organization_id with
    | none =>
      simp only [Prog.done_bind, Prog.ofExcept_ok, Prog.bind_eq]
      exact hsame
    | some organization =>
      simp only [Prog.done_bind, Prog.ofExcept_ok, Prog.bind_eq]
      refine Prog.wp_seq (generateSecret_spec hsame) ?_ fun _ _ h => h
      rintro ⟨secret, keyPrefix⟩ w₂ ⟨hgenerated, hprefix⟩
      obtain rfl : keyPrefix = deriveLookupPrefix secret := hprefix
      refine Prog.wp_ask trivial ?_
      rintro now w₃ ⟨organizations', rfl | hfails⟩
      · refine Prog.wp_seq (issueKey_spec (hgenerated.reorganized organizations')) ?_ fun _ _ h => h
        rintro key w₄ ⟨hstill, hissued⟩
        refine Prog.wp_ask trivial ?_
        rintro r w₅ ⟨organizations'', hdone | ⟨⟨err, rfl⟩, rfl⟩⟩
        · have hready := hstill.reorganized organizations''
          cases hinsert : w₄.api_keys.insert key with
          | none =>
            simp only [CarriesOut, hinsert] at hdone
            obtain ⟨rfl, rfl⟩ := hdone
            exact hready.toSameKeys
          | some api_keys =>
            simp only [CarriesOut, hinsert] at hdone
            obtain ⟨rfl, rfl⟩ := hdone
            simp only [Prog.done_bind, Prog.ofExcept_ok]
            rw [hready.api_keys] at hinsert
            have hadded := hready.added hissued hinsert
            refine Prog.wp_seq (recordKeyChange_spec (by decide) (prefix_metadata_ok key)
              (fun _ organizations h => h.reorganized organizations) hadded) ?_ fun _ _ h => h.elim
            intro _ w₆ hadded
            exact ⟨key, hadded, rfl⟩
        · exact hstill.toSameKeys.reorganized organizations''
      · exact hfails.elim
  · exact (SameKeys.refl w).reorganized organizations

theorem SameKeys.get {api_key_id : UUID} {api_key revoked : ApiKey} (h : SameKeys w₀ w)
    (hget : w₀.api_keys.get api_key_id = some api_key) (hrevoked : api_key.RevokedAs revoked) :
    w.api_keys.get revoked.id = some api_key := by
  rw [h.api_keys, hrevoked.id, (KeyTable.get_some hget).2]
  exact hget

theorem revokeApiKey_spec (api_key_id : UUID) :
    Spec (fallible verify_secret) (revokeApiKey api_key_id)
      (Prog.ends (fun _ w' => Revokes w api_key_id w') fun _ w' => SameKeys w w') w := by
  refine Prog.wp_ask trivial ?_
  rintro r w₁ ⟨organizations, ⟨rfl, rfl⟩ | ⟨⟨err, rfl⟩, rfl⟩⟩
  · have hsame := (SameKeys.refl w).reorganized organizations
    cases hget : w.api_keys.get api_key_id with
    | none =>
      simp only [Prog.done_bind, Prog.ofExcept_ok, Prog.bind_eq]
      exact hsame
    | some api_key =>
      simp only [Prog.done_bind, Prog.ofExcept_ok, Prog.bind_eq]
      refine Prog.wp_ask trivial ?_
      rintro now w₂ ⟨organizations', rfl | hfails⟩
      · cases hrevoke : api_key.revoke now.val with
        | error err => exact hsame.reorganized organizations'
        | ok revoked =>
          have hrevoked := ApiKey.revoke_eq_ok hrevoke
          refine Prog.wp_ask trivial ?_
          rintro r w₃ ⟨organizations'', hdone | ⟨⟨err, rfl⟩, rfl⟩⟩
          · have hold := ((hsame.reorganized organizations').reorganized organizations'').get hget hrevoked
            simp only [CarriesOut, hold] at hdone
            obtain ⟨rfl, rfl⟩ := hdone
            simp only [Prog.done_bind, Prog.ofExcept_ok]
            have hrevokes : Revokes w api_key_id { w with api_keys := w.api_keys.update revoked } :=
              ⟨api_key, revoked, hget, hrevoked, rfl, rfl⟩
            exact Prog.wp_seq (recordKeyChange_spec (by decide) (prefix_metadata_ok revoked)
              (fun _ _ h => h) hrevokes) (fun _ _ h => h) fun _ _ h => h.elim
          · exact (hsame.reorganized organizations').reorganized organizations''
      · exact hfails.elim
  · exact (SameKeys.refl w).reorganized organizations

theorem rotateApiKey_spec (api_key_id : UUID) :
    Spec (fallible verify_secret) (rotateApiKey api_key_id)
      (Prog.ends (Rotates verify_secret w api_key_id) fun _ w' => SameKeys w w') w := by
  refine Prog.wp_ask trivial ?_
  rintro r w₁ ⟨organizations, ⟨rfl, rfl⟩ | ⟨⟨err, rfl⟩, rfl⟩⟩
  · have hsame := (SameKeys.refl w).reorganized organizations
    cases hget : w.api_keys.get api_key_id with
    | none =>
      simp only [Prog.done_bind, Prog.ofExcept_ok, Prog.bind_eq]
      exact hsame
    | some api_key =>
      simp only [Prog.done_bind, Prog.ofExcept_ok, Prog.bind_eq]
      refine Prog.wp_ask trivial ?_
      rintro now w₂ ⟨organizations', rfl | hfails⟩
      · cases hrevoke : api_key.revoke now.val with
        | error err => exact hsame.reorganized organizations'
        | ok revoked =>
          have hrevoked := ApiKey.revoke_eq_ok hrevoke
          simp only [Prog.done_bind, Prog.ofExcept_ok]
          refine Prog.wp_seq (generateSecret_spec (hsame.reorganized organizations')) ?_ fun _ _ h => h
          rintro ⟨secret, keyPrefix⟩ w₃ ⟨hgenerated, hprefix⟩
          obtain rfl : keyPrefix = deriveLookupPrefix secret := hprefix
          refine Prog.wp_seq (issueKey_spec hgenerated) ?_ fun _ _ h => h
          rintro replacement w₄ ⟨hstill, hissued⟩
          refine Prog.wp_ask trivial ?_
          rintro r w₅ ⟨organizations'', hdone | ⟨⟨err, rfl⟩, rfl⟩⟩
          · have hready := hstill.reorganized organizations''
            have hold := hready.toSameKeys.get hget hrevoked
            cases hinsert : (w₄.api_keys.update revoked).insert replacement with
            | none =>
              simp only [CarriesOut, hold, hinsert] at hdone
              obtain ⟨rfl, rfl⟩ := hdone
              exact hready.toSameKeys
            | some api_keys =>
              simp only [CarriesOut, hold, hinsert] at hdone
              obtain ⟨rfl, rfl⟩ := hdone
              simp only [Prog.done_bind, Prog.ofExcept_ok]
              rw [hready.api_keys] at hinsert
              have hadded := hready.added hissued hinsert
              refine Prog.wp_seq (recordKeyChange_spec (by decide) (rotation_metadata_ok api_key_id replacement)
                (fun _ organizations h => h.reorganized organizations) hadded) ?_ fun _ _ h => h.elim
              intro _ w₆ hadded
              exact ⟨api_key, revoked, replacement, hget, hrevoked, hadded, rfl⟩
          · exact hstill.toSameKeys.reorganized organizations''
      · exact hfails.elim
  · exact (SameKeys.refl w).reorganized organizations

end UseCases

end AIRuntime.KeyStores
