import AIRuntime.KeyStores
import Mathlib.Algebra.Order.BigOperators.Group.List

set_option autoImplicit false

/-! Which secrets authenticate after any history of key changes. -/
namespace AIRuntime.KeyLifecycle

open EffectPrograms PythonText Failures Identifiers SharedStores ApiKeyRecords ApiKeyUseCases KeyStores

section Histories

inductive KeyEvent where
  | created (api_key_id organization_id : UUID) (secret : String)
  | rotated (previous_key_id api_key_id : UUID) (secret : String)
  | revoked (api_key_id : UUID)

/-- By the events, newest first, the secret is of a key of the organization that is neither revoked nor rotated. -/
def Live : List KeyEvent → String → UUID → UUID → Prop
  | [], _, _, _ => False
  | .created api_key_id organization_id issued :: log, secret, id, owner =>
    secret = issued ∧ id = api_key_id ∧ owner = organization_id ∨ Live log secret id owner
  | .rotated previous_key_id api_key_id issued :: log, secret, id, owner =>
    secret = issued ∧ id = api_key_id ∧ (∃ previous, Live log previous previous_key_id owner) ∨
      Live log secret id owner ∧ id ≠ previous_key_id
  | .revoked api_key_id :: log, secret, id, owner => Live log secret id owner ∧ id ≠ api_key_id

abbrev noKeys : KeyTable := ⟨[], List.Pairwise.nil⟩

abbrev Ends {α : Type} (verify_secret : String → String → Bool) (p : KeyAction α) (w : KeyStore)
    (o : Except KeyExn α) (w' : KeyStore) : Prop :=
  p.Finishes (fallible verify_secret) (fun w _ => w) w o w'

/-- Key changes one after the other, from no keys on, and organizations that change in between. -/
inductive History (verify_secret : String → String → Bool) : List KeyEvent → KeyStore → Prop where
  | empty (organizations : Organizations) (generated : List String) :
      History verify_secret [] ⟨noKeys, organizations, generated⟩
  | reorganized {log : List KeyEvent} {w : KeyStore} (organizations : Organizations)
      (h : History verify_secret log w) : History verify_secret log { w with organizations := organizations }
  | created {log : List KeyEvent} {w w' : KeyStore} {command : CreateApiKeyCommand} {result : CreateApiKeyResult}
      (h : History verify_secret log w) (hends : Ends verify_secret (createApiKey command) w (.ok result) w') :
      History verify_secret (.created result.api_key.id command.organization_id result.secret :: log) w'
  | notCreated {log : List KeyEvent} {w w' : KeyStore} {command : CreateApiKeyCommand} {err : KeyExn}
      (h : History verify_secret log w) (hends : Ends verify_secret (createApiKey command) w (.error err) w') :
      History verify_secret log w'
  | rotated {log : List KeyEvent} {w w' : KeyStore} {api_key_id : UUID} {result : CreateApiKeyResult}
      (h : History verify_secret log w) (hends : Ends verify_secret (rotateApiKey api_key_id) w (.ok result) w') :
      History verify_secret (.rotated api_key_id result.api_key.id result.secret :: log) w'
  | notRotated {log : List KeyEvent} {w w' : KeyStore} {api_key_id : UUID} {err : KeyExn}
      (h : History verify_secret log w) (hends : Ends verify_secret (rotateApiKey api_key_id) w (.error err) w') :
      History verify_secret log w'
  | revoked {log : List KeyEvent} {w w' : KeyStore} {api_key_id : UUID} {metadata : ApiKeyMetadata}
      (h : History verify_secret log w) (hends : Ends verify_secret (revokeApiKey api_key_id) w (.ok metadata) w') :
      History verify_secret (.revoked api_key_id :: log) w'
  | notRevoked {log : List KeyEvent} {w w' : KeyStore} {api_key_id : UUID} {err : KeyExn}
      (h : History verify_secret log w) (hends : Ends verify_secret (revokeApiKey api_key_id) w (.error err) w') :
      History verify_secret log w'

end Histories

section Tables

variable {verify_secret : String → String → Bool} {table table' : KeyTable} {generated generated' : List String}
variable {key row : ApiKey} {secret : String} {id owner : UUID}

/-- Every key is of a secret that was generated, and of its own. -/
structure Sealed (verify_secret : String → String → Bool) (table : KeyTable) (generated : List String) : Prop where
  known : ∀ row ∈ table.rows, ∃ secret ∈ generated, Seals verify_secret secret row
  apart : ∀ a ∈ table.rows, ∀ b ∈ table.rows, ∀ secret, Seals verify_secret secret a →
    Seals verify_secret secret b → a = b

def Active (verify_secret : String → String → Bool) (table : KeyTable) (secret : String) (id owner : UUID) : Prop :=
  ∃ row ∈ table.rows, row.id = id ∧ row.organization_id = owner ∧ row.status = .active ∧
    Seals verify_secret secret row

theorem Sealed.insert (h : Sealed verify_secret table generated) (hinsert : table.insert key = some table')
    (hseals : Seals verify_secret secret key) (hfresh : secret ∉ generated) (hknown : secret ∈ generated')
    (hmore : ∀ s ∈ generated, s ∈ generated') : Sealed verify_secret table' generated' := by
  have hrows := Table.insert_some hinsert
  have hnot : ∀ row ∈ table.rows, ∀ s, Seals verify_secret s key → ¬ Seals verify_secret s row := by
    intro row hrow s hkey hs
    obtain ⟨s', hs', hseals'⟩ := h.known row hrow
    apply hfresh
    rw [hseals.one hkey, hs.one hseals']
    exact hs'
  constructor
  · intro row hrow
    rw [hrows] at hrow
    rcases List.mem_append.mp hrow with hold | hnew
    · obtain ⟨s, hs, hrow⟩ := h.known row hold
      exact ⟨s, hmore s hs, hrow⟩
    · rw [List.mem_singleton.mp hnew]
      exact ⟨secret, hknown, hseals⟩
  · intro a ha b hb s hsa hsb
    rw [hrows] at ha hb
    rcases List.mem_append.mp ha with ha | ha <;> rcases List.mem_append.mp hb with hb | hb
    · exact h.apart a ha b hb s hsa hsb
    · rw [List.mem_singleton.mp hb] at hsb
      exact absurd hsa (hnot a ha s hsb)
    · rw [List.mem_singleton.mp ha] at hsa
      exact absurd hsb (hnot b hb s hsa)
    · exact (List.mem_singleton.mp ha).trans (List.mem_singleton.mp hb).symm

theorem mem_revoke {revoked : ApiKey} (hget : table.get id = some key) (hrevoked : key.RevokedAs revoked) :
    row ∈ (table.update revoked).rows ↔ row = revoked ∨ row ∈ table.rows ∧ row.id ≠ id := by
  have hid : revoked.id = id := hrevoked.id.trans (KeyTable.get_some hget).2
  rw [KeyTable.mem_update (by rw [hid, hget]; rfl), hid]

theorem Sealed.update {revoked : ApiKey} (h : Sealed verify_secret table generated)
    (hget : table.get id = some key) (hrevoked : key.RevokedAs revoked) :
    Sealed verify_secret (table.update revoked) generated := by
  obtain ⟨hkey, hid⟩ := KeyTable.get_some hget
  have hapart : ∀ row ∈ table.rows, row.id ≠ id → ∀ s, Seals verify_secret s revoked →
      ¬ Seals verify_secret s row := by
    intro row hrow hne s hs hsrow
    have hsame := h.apart row hrow key hkey s hsrow ((Seals.revoked hrevoked).mp hs)
    exact hne (hsame ▸ hid)
  constructor
  · intro row hrow
    rcases (mem_revoke hget hrevoked).mp hrow with rfl | ⟨hold, _⟩
    · obtain ⟨s, hs, hseals⟩ := h.known key hkey
      exact ⟨s, hs, (Seals.revoked hrevoked).mpr hseals⟩
    · exact h.known row hold
  · intro a ha b hb s hsa hsb
    rcases (mem_revoke hget hrevoked).mp ha with ha' | ⟨ha', hane⟩ <;>
      rcases (mem_revoke hget hrevoked).mp hb with hb' | ⟨hb', hbne⟩
    · exact ha'.trans hb'.symm
    · rw [ha'] at hsa
      exact absurd hsb (hapart b hb' hbne s hsa)
    · rw [hb'] at hsb
      exact absurd hsa (hapart a ha' hane s hsb)
    · exact h.apart a ha' b hb' s hsa hsb

theorem active_insert {issued : String} {organization_id : UUID} (hinsert : table.insert key = some table')
    (hissued : Issued verify_secret organization_id issued key) :
    Active verify_secret table' secret id owner ↔
      secret = issued ∧ id = key.id ∧ owner = organization_id ∨ Active verify_secret table secret id owner := by
  have hrows := Table.insert_some hinsert
  constructor
  · rintro ⟨row, hrow, rfl, rfl, hactive, hseals⟩
    rw [hrows] at hrow
    rcases List.mem_append.mp hrow with hold | hnew
    · exact .inr ⟨row, hold, rfl, rfl, hactive, hseals⟩
    · rw [List.mem_singleton.mp hnew] at hseals ⊢
      exact .inl ⟨hseals.one hissued.toSeals, rfl, hissued.organization_id⟩
  · rintro (⟨rfl, rfl, rfl⟩ | ⟨row, hrow, hid, howner, hactive, hseals⟩)
    · have hmem : key ∈ table'.rows := by
        rw [hrows]
        exact List.mem_append_right _ (List.mem_singleton.mpr rfl)
      exact ⟨key, hmem, rfl, hissued.organization_id, hissued.active, hissued.toSeals⟩
    · have hmem : row ∈ table'.rows := by
        rw [hrows]
        exact List.mem_append_left _ hrow
      exact ⟨row, hmem, hid, howner, hactive, hseals⟩

theorem active_update {revoked : ApiKey} {api_key_id : UUID} (hget : table.get api_key_id = some key)
    (hrevoked : key.RevokedAs revoked) :
    Active verify_secret (table.update revoked) secret id owner ↔
      Active verify_secret table secret id owner ∧ id ≠ api_key_id := by
  constructor
  · rintro ⟨row, hrow, rfl, howner, hactive, hseals⟩
    rcases (mem_revoke hget hrevoked).mp hrow with rfl | ⟨hold, hne⟩
    · rw [hrevoked.status] at hactive
      cases hactive
    · exact ⟨⟨row, hold, rfl, howner, hactive, hseals⟩, hne⟩
  · rintro ⟨⟨row, hrow, rfl, howner, hactive, hseals⟩, hne⟩
    exact ⟨row, (mem_revoke hget hrevoked).mpr (.inr ⟨hrow, hne⟩), rfl, howner, hactive, hseals⟩

theorem Sealed.owned (h : Sealed verify_secret table generated) (hget : table.get id = some key)
    (hactive : key.status = .active) :
    (∃ previous, Active verify_secret table previous id owner) ↔ owner = key.organization_id := by
  obtain ⟨hkey, hid⟩ := KeyTable.get_some hget
  constructor
  · rintro ⟨previous, row, hrow, hrowid, rfl, _, _⟩
    rw [table.unique hrow hkey (hrowid.trans hid.symm)]
  · rintro rfl
    obtain ⟨previous, _, hseals⟩ := h.known key hkey
    exact ⟨previous, key, hkey, hid, rfl, hactive, hseals⟩

end Tables

section Runs

variable {verify_secret : String → String → Bool} {log : List KeyEvent} {w w' : KeyStore}

structure Agrees (verify_secret : String → String → Bool) (log : List KeyEvent) (w : KeyStore) : Prop where
  secrets : Sealed verify_secret w.api_keys w.generated
  live : ∀ secret id owner, Live log secret id owner ↔ Active verify_secret w.api_keys secret id owner

theorem Agrees.same (h : Agrees verify_secret log w) (hsame : SameKeys w w') : Agrees verify_secret log w' := by
  constructor
  · rw [hsame.api_keys]
    refine ⟨fun row hrow => ?_, h.secrets.apart⟩
    obtain ⟨secret, hsecret, hseals⟩ := h.secrets.known row hrow
    exact ⟨secret, hsame.generated secret hsecret, hseals⟩
  · rw [hsame.api_keys]
    exact h.live

theorem Agrees.created (h : Agrees verify_secret log w) {organization_id : UUID} {result : CreateApiKeyResult}
    (hcreates : Creates verify_secret w organization_id result w') :
    Agrees verify_secret (.created result.api_key.id organization_id result.secret :: log) w' := by
  obtain ⟨key, hadded, hmetadata⟩ := hcreates
  have hid : result.api_key.id = key.id := congrArg ApiKeyMetadata.id hmetadata
  constructor
  · exact h.secrets.insert hadded.inserted hadded.issued.toSeals hadded.fresh hadded.known hadded.generated
  · intro secret id owner
    rw [active_insert hadded.inserted hadded.issued, ← h.live, ← hid]
    rfl

theorem Agrees.revoked (h : Agrees verify_secret log w) {api_key_id : UUID} (hrevokes : Revokes w api_key_id w') :
    Agrees verify_secret (.revoked api_key_id :: log) w' := by
  obtain ⟨api_key, revoked, hget, hrevoked, hkeys, hgenerated⟩ := hrevokes
  constructor
  · rw [hkeys, hgenerated]
    exact h.secrets.update hget hrevoked
  · intro secret id owner
    rw [hkeys, active_update hget hrevoked, ← h.live]
    rfl

theorem Agrees.rotated (h : Agrees verify_secret log w) {api_key_id : UUID} {result : CreateApiKeyResult}
    (hrotates : Rotates verify_secret w api_key_id result w') :
    Agrees verify_secret (.rotated api_key_id result.api_key.id result.secret :: log) w' := by
  obtain ⟨api_key, revoked, key, hget, hrevoked, hadded, hmetadata⟩ := hrotates
  have hid : result.api_key.id = key.id := congrArg ApiKeyMetadata.id hmetadata
  constructor
  · exact (h.secrets.update hget hrevoked).insert hadded.inserted hadded.issued.toSeals hadded.fresh hadded.known
      hadded.generated
  · intro secret id owner
    have howner : (∃ previous, Live log previous api_key_id owner) ↔ owner = api_key.organization_id := by
      rw [← h.secrets.owned hget hrevoked.was_active]
      simp only [h.live]
    rw [active_insert hadded.inserted hadded.issued, active_update hget hrevoked, ← h.live, ← hid, ← howner]
    rfl

theorem History.agrees (h : History verify_secret log w) : Agrees verify_secret log w := by
  induction h with
  | empty organizations generated =>
    constructor
    · exact ⟨fun _ h => absurd h List.not_mem_nil, fun _ h => absurd h List.not_mem_nil⟩
    · intro secret id owner
      constructor
      · exact False.elim
      · rintro ⟨row, hrow, _⟩
        cases hrow
  | reorganized organizations _ ih => exact ih.same ((SameKeys.refl _).reorganized organizations)
  | created _ hends ih =>
    have hdone := hends.post (createApiKey_spec _)
    exact ih.created hdone
  | notCreated _ hends ih =>
    have hdone := hends.post (createApiKey_spec _)
    exact ih.same hdone
  | rotated _ hends ih =>
    have hdone := hends.post (rotateApiKey_spec _)
    exact ih.rotated hdone
  | notRotated _ hends ih =>
    have hdone := hends.post (rotateApiKey_spec _)
    exact ih.same hdone
  | revoked _ hends ih =>
    have hdone := hends.post (revokeApiKey_spec _)
    exact ih.revoked hdone
  | notRevoked _ hends ih =>
    have hdone := hends.post (revokeApiKey_spec _)
    exact ih.same hdone

end Runs

section Authentication

variable {verify_secret : String → String → Bool} {log : List KeyEvent} {w w' : KeyStore} {secret : String}

/-- The scan finds the key of the secret among all that share its prefix. -/
theorem Sealed.found {table : KeyTable} {generated : List String} (h : Sealed verify_secret table generated)
    {candidates : List ApiKey} {row : ApiKey}
    (hcandidates : candidates.Perm (table.rows.filter fun row => row.keyPrefix = deriveLookupPrefix secret)) :
    (candidates.find? fun candidate => verify_secret secret candidate.secret_hash) = some row ↔
      row ∈ table.rows ∧ Seals verify_secret secret row := by
  have hfound : ∀ row, (candidates.find? fun candidate => verify_secret secret candidate.secret_hash) = some row →
      row ∈ table.rows ∧ Seals verify_secret secret row := by
    intro row hfind
    have hmem := (List.mem_filter.mp (hcandidates.mem_iff.mp (List.mem_of_find?_eq_some hfind))).1
    have hverified := List.find?_some hfind
    obtain ⟨s, _, hseals⟩ := h.known row hmem
    rw [(hseals.verified secret).mp hverified]
    exact ⟨hmem, hseals⟩
  constructor
  · exact hfound row
  · rintro ⟨hrow, hseals⟩
    have hcandidate : row ∈ candidates :=
      hcandidates.mem_iff.mpr (List.mem_filter.mpr ⟨hrow, decide_eq_true hseals.keyPrefix⟩)
    cases hfind : candidates.find? fun candidate => verify_secret secret candidate.secret_hash with
    | none => exact absurd ((hseals.verified secret).mpr rfl) (List.find?_eq_none.mp hfind row hcandidate)
    | some other =>
      obtain ⟨hother, hsame⟩ := hfound other hfind
      rw [h.apart other hother row hrow secret hsame hseals]

/-- The live key of a secret is the one that the scan finds, while it is active. -/
theorem Agrees.live_candidate (h : Agrees verify_secret log w) {candidate : ApiKey}
    (hmem : candidate ∈ w.api_keys.rows) (hseals : Seals verify_secret secret candidate) (id owner : UUID) :
    Live log secret id owner ↔
      candidate.status = .active ∧ id = candidate.id ∧ owner = candidate.organization_id := by
  rw [h.live]
  constructor
  · rintro ⟨row, hrow, rfl, rfl, hactive, hrowseals⟩
    rw [h.secrets.apart row hrow candidate hmem secret hrowseals hseals] at hactive ⊢
    exact ⟨hactive, rfl, rfl⟩
  · rintro ⟨hactive, rfl, rfl⟩
    exact ⟨candidate, hmem, rfl, rfl, hactive, hseals⟩

theorem Agrees.candidate (h : Agrees verify_secret log w) {id owner : UUID} (hlive : Live log secret id owner) :
    ∃ row ∈ w.api_keys.rows, Seals verify_secret secret row := by
  obtain ⟨row, hrow, _, _, _, hseals⟩ := (h.live secret id owner).mp hlive
  exact ⟨row, hrow, hseals⟩

/-- What the events say of an authentication, with the organizations it read. -/
structure Authenticates (log : List KeyEvent) (secret : String) (o : Except KeyExn AuthenticatedPrincipal)
    (w : KeyStore) : Prop where
  returns : (∃ principal, o = .ok principal) ↔ ∃ id owner organization, Live log secret id owner ∧
    w.organizations.get owner = some organization ∧ organization.status = .active
  carries : ∀ principal, o = .ok principal → ∀ id owner, Live log secret id owner ↔
    id = principal.api_key_id ∧ owner = principal.organization_id
  suspended : ∀ organization_id, o = .error (.organizationSuspended organization_id) →
    ∃ id organization, Live log secret id organization_id ∧
      w.organizations.get organization_id = some organization ∧ organization.status = .suspended

theorem Authenticates.refused (hlive : ∀ id owner, ¬ Live log secret id owner) :
    Authenticates log secret (.error .invalidCredentials) w := by
  constructor
  · constructor
    · nofun
    · rintro ⟨id, owner, _, h, _⟩
      exact absurd h (hlive id owner)
  · nofun
  · nofun

theorem authenticateApiKey_spec (h : Agrees verify_secret log w) :
    Spec (reliable verify_secret) (authenticateApiKey verify_secret secret) (Authenticates log secret) w := by
  unfold authenticateApiKey
  cases hformed : wellFormed secret with
  | false =>
    refine Authenticates.refused fun id owner hlive => ?_
    obtain ⟨row, _, hseals⟩ := h.candidate hlive
    rw [hseals.wellFormed] at hformed
    cases hformed
  | true =>
    refine Prog.wp_ask trivial ?_
    rintro r w₁ ⟨organizations, candidates, rfl, hcandidates, rfl⟩
    simp only [Prog.ofExcept_ok, Prog.bind_eq, Prog.done_bind]
    cases hfind : candidates.find? fun candidate => verify_secret secret candidate.secret_hash with
    | none =>
      simp only [Prog.wp_raise]
      refine Authenticates.refused fun id owner hlive => ?_
      obtain ⟨row, hrow, hseals⟩ := h.candidate hlive
      rw [(h.secrets.found hcandidates).mpr ⟨hrow, hseals⟩] at hfind
      cases hfind
    | some candidate =>
      obtain ⟨hmem, hseals⟩ := (h.secrets.found hcandidates).mp hfind
      have hlive := h.live_candidate hmem hseals
      simp only []
      split_ifs with hstatus
      · refine Authenticates.refused fun id owner hkey => ?_
        exact hstatus ((hlive id owner).mp hkey).1
      · refine Prog.wp_ask trivial ?_
        rintro r w₂ ⟨organizations', rfl, rfl⟩
        have hactive : candidate.status = .active := not_not.mp hstatus
        have hkey (id owner : UUID) : Live log secret id owner ↔
            id = candidate.id ∧ owner = candidate.organization_id := by
          rw [hlive, and_iff_right hactive]
        simp only [Prog.ofExcept_ok, Prog.done_bind]
        cases hget : organizations'.get candidate.organization_id with
        | none =>
          refine ⟨⟨nofun, ?_⟩, nofun, nofun⟩
          rintro ⟨id, owner, organization, hlive, howned, _⟩
          obtain ⟨rfl, rfl⟩ := (hkey id owner).mp hlive
          rw [hget] at howned
          cases howned
        | some organization =>
          have hid : organization.id = candidate.organization_id := organizations'.ok _ _ hget
          simp only []
          split_ifs with hsuspended
          · refine ⟨⟨nofun, ?_⟩, nofun, ?_⟩
            · rintro ⟨id, owner, other, hlive, howned, hother⟩
              obtain ⟨rfl, rfl⟩ := (hkey id owner).mp hlive
              rw [hget] at howned
              cases howned
              rw [hsuspended] at hother
              cases hother
            · intro organization_id hraised
              cases hraised
              exact ⟨candidate.id, organization, (hkey _ _).mpr ⟨rfl, hid⟩, hid ▸ hget, hsuspended⟩
          · have hopen : organization.status = .active := by
              cases hs : organization.status with
              | active => rfl
              | suspended => exact absurd hs hsuspended
            refine ⟨⟨fun _ => ?_, fun _ => ⟨_, rfl⟩⟩, ?_, nofun⟩
            · exact ⟨candidate.id, candidate.organization_id, organization, (hkey _ _).mpr ⟨rfl, rfl⟩, hget, hopen⟩
            · intro principal hreturned id owner
              cases hreturned
              rw [hkey, hid]

end Authentication

section Samples

def sampleVerify (presented digest : String) : Bool := digest = "argon2id:" ++ presented

def sampleToken (w : KeyStore) : String :=
  String.ofList (List.replicate (8 + (w.generated.map String.length).sum) 'x')

theorem sampleToken_length (w : KeyStore) : (sampleToken w).length = 8 + (w.generated.map String.length).sum := by
  rw [sampleToken, String.length_ofList, List.length_replicate]

theorem sampleToken_fresh (w : KeyStore) : keyPublicPrefix ++ sampleToken w ∉ w.generated := by
  intro h
  have hlength : (keyPublicPrefix ++ sampleToken w).length = 5 + (sampleToken w).length := String.length_append _ _
  have hle := List.single_le_sum (fun _ _ => Nat.zero_le _) _ (List.mem_map_of_mem (f := String.length) h)
  rw [sampleToken_length] at hlength
  omega

theorem sampleVerify_iff (secret presented : String) :
    sampleVerify presented ("argon2id:" ++ secret) = true ↔ presented = secret := by
  rw [sampleVerify, decide_eq_true_eq]
  constructor
  · intro h
    have hchars := congrArg String.toList h
    rw [String.toList_append, String.toList_append] at hchars
    exact (String.toList_injective (List.append_cancel_left hchars)).symm
  · rintro rfl
    rfl

def sampleNow : Collaborators.UtcInstant := ⟨⟨2026, 3, 14, 12, 0, 0, 0, some 0, by decide⟩, rfl⟩

def sampleKeys : Handler KeyCommand KeyResponse Empty KeyStore where
  answer := fun w c =>
    match c with
    | .utcNow => (sampleNow, w)
    | .uuid4 => (⟨Fin.ofNat _ w.api_keys.rows.length⟩, w)
    | .tokenUrlsafe => (.ok (sampleToken w), { w with generated := (keyPublicPrefix ++ sampleToken w) :: w.generated })
    | .hashSecret secret => (.ok ("argon2id:" ++ secret), w)
    | .getOrganization id => (.ok (w.organizations.get id), w)
    | .getKey id => (.ok (w.api_keys.get id), w)
    | .findByPrefix keyPrefix => (.ok (w.api_keys.rows.filter fun row => row.keyPrefix = keyPrefix), w)
    | .addKey key =>
      match w.api_keys.insert key with
      | none => (.error (.failed integrityError), w)
      | some api_keys => (.ok key, { w with api_keys := api_keys })
    | .saveKey key =>
      match w.api_keys.get key.id with
      | none => (.error (.lookup key.id), w)
      | some _ => (.ok key, { w with api_keys := w.api_keys.update key })
    | .revokeAndAdd revoked replacement =>
      match w.api_keys.get revoked.id with
      | none => (.error (.lookup revoked.id), w)
      | some _ =>
        match (w.api_keys.update revoked).insert replacement with
        | none => (.error (.failed integrityError), w)
        | some api_keys => (.ok replacement, { w with api_keys := api_keys })
    | .addAudit _ => (.ok (), w)
  emit := fun w _ => w

theorem sampleKeys_carriesOut (w : KeyStore) (c : KeyCommand) :
    CarriesOut sampleVerify w c (sampleKeys.answer w c).1 (sampleKeys.answer w c).2 := by
  cases c with
  | utcNow => exact rfl
  | uuid4 => exact rfl
  | tokenUrlsafe => exact ⟨sampleToken w, rfl, by rw [sampleToken_length]; omega, sampleToken_fresh w, rfl⟩
  | hashSecret secret => exact ⟨_, rfl, sampleVerify_iff secret, rfl⟩
  | getOrganization id => exact ⟨rfl, rfl⟩
  | getKey id => exact ⟨rfl, rfl⟩
  | findByPrefix keyPrefix => exact ⟨_, rfl, List.Perm.refl _, rfl⟩
  | addKey key =>
    simp only [CarriesOut, sampleKeys]
    cases w.api_keys.insert key <;> exact ⟨rfl, rfl⟩
  | saveKey key =>
    simp only [CarriesOut, sampleKeys]
    cases w.api_keys.get key.id <;> exact ⟨rfl, rfl⟩
  | revokeAndAdd revoked replacement =>
    simp only [CarriesOut, sampleKeys]
    cases w.api_keys.get revoked.id with
    | none => exact ⟨rfl, rfl⟩
    | some _ => cases (w.api_keys.update revoked).insert replacement <;> exact ⟨rfl, rfl⟩
  | addAudit event => exact ⟨rfl, rfl⟩

theorem sampleKeys_answers (w : KeyStore) (c : KeyCommand) :
    (fallible sampleVerify).reply w c (sampleKeys.answer w c).1 (sampleKeys.answer w c).2 :=
  ⟨w.organizations, .inl (sampleKeys_carriesOut w c)⟩

theorem acme_ok : Organization.problem "Acme" "acme" sampleNow.val sampleNow.val = none := by decide

def sampleOrganizations : Organizations where
  get := fun id =>
    if id = ⟨7⟩ then some ⟨⟨7⟩, "Acme", "acme", .active, sampleNow.val, sampleNow.val, acme_ok⟩ else none
  ok := by
    intro id organization h
    split_ifs at h with hid
    cases h
    exact hid.symm

def sampleCreation := (createApiKey ⟨⟨7⟩, none⟩).run sampleKeys ⟨noKeys, sampleOrganizations, []⟩

def sampleRotation := (rotateApiKey ⟨0⟩).run sampleKeys sampleCreation.2

def sampleResult (id : UUID) (secret : String) : CreateApiKeyResult :=
  ⟨⟨id, ⟨7⟩, none, "airt_xxxxxxxx", .active, sampleNow.val, none, sampleNow.val⟩, secret⟩

theorem sampleCreation_ok : sampleCreation.1 = .ok (sampleResult ⟨0⟩ "airt_xxxxxxxx") := by
  decide +kernel

theorem sampleRotation_ok :
    sampleRotation.1 = .ok (sampleResult ⟨1⟩ "airt_xxxxxxxxxxxxxxxxxxxxx") := by
  decide +kernel

theorem sample_history : History sampleVerify
    [.rotated ⟨0⟩ ⟨1⟩ "airt_xxxxxxxxxxxxxxxxxxxxx", .created ⟨0⟩ ⟨7⟩ "airt_xxxxxxxx"] sampleRotation.2 := by
  have hcreated : Ends sampleVerify (createApiKey ⟨⟨7⟩, none⟩) ⟨noKeys, sampleOrganizations, []⟩ sampleCreation.1
      sampleCreation.2 := Prog.finishes_run sampleKeys_answers _ _
  have hrotated : Ends sampleVerify (rotateApiKey ⟨0⟩) sampleCreation.2 sampleRotation.1 sampleRotation.2 :=
    Prog.finishes_run sampleKeys_answers _ _
  rw [sampleCreation_ok] at hcreated
  rw [sampleRotation_ok] at hrotated
  have hfirst := History.created (History.empty sampleOrganizations []) hcreated
  exact History.rotated hfirst hrotated

end Samples

/-- After any history of key changes, each carried out or failed before its commit, a secret authenticates
exactly while its key is live and its organization active. -/
theorem secrets_authenticate_while_live {verify_secret : String → String → Bool} {log : List KeyEvent} {w : KeyStore}
    (h : History verify_secret log w) (secret : String) :
    Spec (reliable verify_secret) (authenticateApiKey verify_secret secret) (Authenticates log secret) w :=
  authenticateApiKey_spec h.agrees

/-- A rotated key and its replacement, which share a prefix. -/
theorem replacement_authenticates :
    Spec (reliable sampleVerify) (authenticateApiKey sampleVerify "airt_xxxxxxxxxxxxxxxxxxxxx")
      (Authenticates [.rotated ⟨0⟩ ⟨1⟩ "airt_xxxxxxxxxxxxxxxxxxxxx", .created ⟨0⟩ ⟨7⟩ "airt_xxxxxxxx"]
        "airt_xxxxxxxxxxxxxxxxxxxxx") sampleRotation.2 :=
  secrets_authenticate_while_live sample_history _

end AIRuntime.KeyLifecycle
