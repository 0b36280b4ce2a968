import AIRuntime.KeyLifecycle

set_option autoImplicit false

/-! A rotation with collaborators that may fail at any point. -/
namespace AIRuntime.KeyRotation

open EffectPrograms PythonText Failures Identifiers AccountingRecords SharedStores ApiKeyRecords ApiKeyUseCases
  KeyStores KeyLifecycle

section Environments

/-- A token and a digest may be anything; any other command is carried out or fails before it did anything. -/
def Attempts (verify_secret : String → String → Bool) (w : KeyStore) (c : KeyCommand) (r : KeyResponse c)
    (w' : KeyStore) : Prop :=
  match c with
  | .tokenUrlsafe => w' = w
  | .hashSecret _ => w' = w
  | c => CarriesOut verify_secret w c r w' ∨ FailsBefore w c r w'

/-- Every collaborator may fail; the second component tells whether the audit repository did. -/
def frail (verify_secret : String → String → Bool) : Environment KeyCommand KeyResponse (KeyStore × Bool) where
  may := fun _ _ => True
  reply := fun s c r s' =>
    match c, r with
    | .addAudit _, .ok () => s' = s
    | .addAudit _, .error _ => s' = (s.1, true)
    | c, r => Attempts verify_secret s.1 c r s'.1 ∧ s'.2 = s.2

end Environments

section Rotations

variable {verify_secret : String → String → Bool} {w : KeyStore}

/-- If the call raised, the keys are what they were. -/
def AllOrNothing (w : KeyStore) (o : Except KeyExn CreateApiKeyResult) (w' : KeyStore) : Prop :=
  (∃ err, o = .error err) → w'.api_keys = w.api_keys

def PromiseIffAudited (w : KeyStore) (o : Except KeyExn CreateApiKeyResult) (s : KeyStore × Bool) : Prop :=
  AllOrNothing w o s.1 ↔ s.2 = false

theorem PromiseIffAudited.unchanged {err : KeyExn} {s : KeyStore × Bool} (hkeys : s.1.api_keys = w.api_keys)
    (haudit : s.2 = false) : PromiseIffAudited w (.error err) s :=
  iff_of_true (fun _ => hkeys) haudit

/-- The event of a rotation that has committed: if it is refused, the call raises too late. -/
theorem recordRotation_wp {now : Collaborators.UtcInstant} {key : ApiKey} {metadata : List (String × String)}
    (hmetadata : metadata.findSome? (fun item => metadataProblem item.1 item.2) = none) {secret : String}
    {s : KeyStore × Bool} (haudit : s.2 = false) (hkeys : s.1.api_keys ≠ w.api_keys) :
    ((recordKeyChange "api_key.rotated" now key metadata).bind fun _ =>
      (.done ⟨key.toMetadata, secret⟩ : KeyAction CreateApiKeyResult)).wp (frail verify_secret) (fun s _ => s)
        (PromiseIffAudited w) s := by
  refine Prog.wp_ask trivial ?_
  rintro id ⟨w₁, audited⟩ ⟨hattempt, rfl⟩
  obtain rfl : w₁ = s.1 := hattempt.resolve_right False.elim
  obtain ⟨event, hevent⟩ := @keyEvent_ok id "api_key.rotated" now key metadata (by decide) hmetadata
  simp only [hevent, Except.mapError, Prog.ofExcept_ok, Prog.bind_eq, Prog.done_bind]
  refine Prog.wp_ask trivial ?_
  rintro (err | ⟨⟩) s' hs'
  · obtain rfl : s' = (s.1, true) := hs'
    refine iff_of_false (fun hpromise => ?_) Bool.noConfusion
    exact hkeys (hpromise ⟨err, rfl⟩)
  · obtain rfl : s' = (s.1, s.2) := hs'
    exact iff_of_true nofun haudit

theorem generateSecret_wp : generateSecret.wp (frail verify_secret) (fun s _ => s)
    (Prog.ends (fun _ s => s = (w, false)) fun _ s => s = (w, false)) (w, false) := by
  refine Prog.wp_ask trivial ?_
  rintro (err | token) ⟨w₁, audited⟩ ⟨hw, haudit⟩
  · exact Prod.ext hw haudit
  · exact Prod.ext hw haudit

theorem issueKey_wp (organization_id : UUID) (name : Option String) (now : Collaborators.UtcInstant)
    (secret keyPrefix : String) :
    (issueKey organization_id name now secret keyPrefix).wp (frail verify_secret) (fun s _ => s)
      (Prog.ends (fun _ s => s = (w, false)) fun _ s => s = (w, false)) (w, false) := by
  refine Prog.wp_ask trivial ?_
  rintro id ⟨w₁, audited⟩ ⟨huuid, haudit⟩
  obtain rfl : w₁ = w := huuid.resolve_right False.elim
  obtain rfl : audited = false := haudit
  refine Prog.wp_ask trivial ?_
  rintro (err | secret_hash) ⟨w₂, audited⟩ ⟨hw, haudit⟩
  · exact Prod.ext hw haudit
  · obtain rfl : w₂ = w₁ := hw
    obtain rfl : audited = false := haudit
    simp only [Prog.ofExcept_ok, Prog.bind_eq, Prog.done_bind]
    cases ApiKey.new id organization_id name keyPrefix secret_hash .active now.val none now.val with
    | error err => exact rfl
    | ok key => exact rfl

theorem replace_wp {api_key_id : UUID} {now : Collaborators.UtcInstant} {api_key revoked replacement : ApiKey}
    {secret : String} (hold : w.api_keys.get revoked.id = some api_key) :
    ((KeyCommand.revokeAndAdd revoked replacement).ask.bind fun stored => (Prog.ofExcept stored).bind fun stored =>
      (recordKeyChange "api_key.rotated" now stored
        [("previous_key_id", api_key_id.str), ("prefix", stored.keyPrefix)]).bind fun _ =>
          (.done ⟨stored.toMetadata, secret⟩ : KeyAction CreateApiKeyResult)).wp (frail verify_secret) (fun s _ => s)
        (PromiseIffAudited w) (w, false) := by
  refine Prog.wp_ask trivial ?_
  rintro r ⟨w₁, audited⟩ ⟨hdone | ⟨⟨err, hr⟩, hw⟩, haudit⟩
  · obtain rfl : audited = false := haudit
    cases hinsert : (w.api_keys.update revoked).insert replacement with
    | none =>
      simp only [CarriesOut, hold, hinsert] at hdone
      obtain ⟨rfl, rfl⟩ := hdone
      exact .unchanged rfl rfl
    | some api_keys =>
      simp only [CarriesOut, hold, hinsert] at hdone
      obtain ⟨rfl, rfl⟩ := hdone
      simp only [Prog.ofExcept_ok, Prog.done_bind]
      refine recordRotation_wp (rotation_metadata_ok api_key_id replacement) rfl fun hsame => ?_
      have hkeys : api_keys = w.api_keys := hsame
      have hids := congrArg List.length (KeyTable.insert_ids hinsert)
      rw [KeyTable.update_ids, hkeys, List.length_append] at hids
      exact absurd hids (Nat.ne_of_lt (Nat.lt_succ_self _))
  · obtain rfl : r = .error err := hr
    exact .unchanged (congrArg KeyStore.api_keys hw) haudit

/-- Whatever the collaborators do, a rotation keeps its promise exactly if the audit repository did not fail: it
is asked after `revoke_and_add` has committed. -/
theorem rotation_all_or_nothing_iff_audited (verify_secret : String → String → Bool) (w : KeyStore) (api_key_id : UUID) :
    (rotateApiKey api_key_id).wp (frail verify_secret) (fun s _ => s)
      (fun o s => AllOrNothing w o s.1 ↔ s.2 = false) (w, false) := by
  change Prog.wp _ _ _ (PromiseIffAudited w) _
  have hraised : ∀ (err : KeyExn) (s : KeyStore × Bool), s = (w, false) → PromiseIffAudited w (.error err) s := by
    rintro err s rfl
    exact .unchanged rfl rfl
  refine Prog.wp_ask trivial ?_
  rintro r ⟨w₁, audited⟩ ⟨⟨hr, hw⟩ | ⟨⟨err, hr⟩, hw⟩, haudit⟩
  · obtain rfl : w₁ = w := hw
    obtain rfl : r = .ok (w₁.api_keys.get api_key_id) := hr
    obtain rfl : audited = false := haudit
    cases hget : w₁.api_keys.get api_key_id with
    | none =>
      simp only [Prog.ofExcept_ok, Prog.bind_eq]
      exact .unchanged rfl rfl
    | some api_key =>
      simp only [Prog.ofExcept_ok, Prog.bind_eq, Prog.done_bind]
      refine Prog.wp_ask trivial ?_
      rintro now ⟨w₂, audited⟩ ⟨hclock, haudit⟩
      obtain rfl : w₂ = w₁ := hclock.resolve_right False.elim
      obtain rfl : audited = false := haudit
      cases hrevoke : api_key.revoke now.val with
      | error err => exact .unchanged rfl rfl
      | ok revoked =>
        have hold : w₂.api_keys.get revoked.id = some api_key := by
          rw [(ApiKey.revoke_eq_ok hrevoke).id, (KeyTable.get_some hget).2]
          exact hget
        simp only [Prog.ofExcept_ok, Prog.done_bind]
        refine Prog.wp_seq generateSecret_wp ?_ hraised
        rintro generated s rfl
        refine Prog.wp_seq (issueKey_wp _ _ _ _ _) ?_ hraised
        rintro replacement s rfl
        exact replace_wp hold
  · obtain rfl : r = .error err := hr
    exact .unchanged (congrArg KeyStore.api_keys hw) haudit

end Rotations

section Samples

def unaudited : Handler KeyCommand KeyResponse Empty (KeyStore × Bool) where
  answer := fun s c =>
    match c with
    | .addAudit _ => (.error (.failed (.database "OperationalError")), s.1, true)
    | .tokenUrlsafe => (.ok (sampleToken s.1), s)
    | c => ((sampleKeys.answer s.1 c).1, (sampleKeys.answer s.1 c).2, s.2)
  emit := fun s _ => s

theorem unaudited_answers (s : KeyStore × Bool) (c : KeyCommand) :
    (frail sampleVerify).reply s c (unaudited.answer s c).1 (unaudited.answer s c).2 := by
  have hcarried := sampleKeys_carriesOut s.1 c
  cases c with
  | tokenUrlsafe => exact ⟨rfl, rfl⟩
  | hashSecret secret => exact ⟨rfl, rfl⟩
  | addAudit event => exact rfl
  | _ => exact ⟨.inl hcarried, rfl⟩

/-- The rotation of the key 0 raises, and the key is revoked nevertheless. -/
theorem unaudited_rotation_replaces :
    ¬ (rotateApiKey ⟨0⟩).wp (frail sampleVerify) (fun s _ => s) (fun o s => AllOrNothing sampleCreation.2 o s.1)
      (sampleCreation.2, false) := by
  intro hpromise
  have hrun := Prog.finishes_run unaudited_answers (rotateApiKey ⟨0⟩) (sampleCreation.2, false)
  have hkeys := hrun.post hpromise
  have hraised : ((rotateApiKey ⟨0⟩).run unaudited (sampleCreation.2, false)).1 =
      .error (.failed (.database "OperationalError")) := by
    decide +kernel
  have hlength := congrArg (fun table => table.rows.length) (hkeys ⟨_, hraised⟩)
  revert hlength
  decide +kernel

end Samples

end AIRuntime.KeyRotation
