import AIRuntime.EffectInterleaving
import AIRuntime.KeyLifecycle

set_option autoImplicit false

/-! Rotations and revocations of one key that run at the same time. -/
namespace AIRuntime.KeyRaces

open EffectPrograms PythonText Failures Identifiers AccountingRecords SharedStores ApiKeyRecords ApiKeyUseCases
  KeyStores KeyLifecycle

variable {ι : Type}

section Calls

inductive Retirement where
  | rotate
  | revoke

def Retirement.call (api_key_id : UUID) : Retirement → KeyAction (CreateApiKeyResult ⊕ ApiKeyMetadata)
  | .rotate => (rotateApiKey api_key_id).bind fun result => .done (.inl result)
  | .revoke => (revokeApiKey api_key_id).bind fun metadata => .done (.inr metadata)

/-- How far a call is: what it read of the key, and whether it wrote. -/
inductive Phase where
  | fresh
  | holding (api_key : ApiKey)
  | refused
  | retired
deriving DecidableEq

def Phase.after (phase : Phase) (c : KeyCommand) (r : KeyResponse c) : Phase :=
  match c, r with
  | .getKey _, .ok (some api_key) => if api_key.status = .active then .holding api_key else .refused
  | .saveKey _, _ => .retired
  | .revokeAndAdd _ _, _ => .retired
  | _, _ => phase

/-- Both use cases read the key once, and write what they make of an active one. -/
def May (api_key_id : UUID) (phase : Phase) : KeyCommand → Prop
  | .getKey id => id = api_key_id ∧ phase = .fresh
  | .saveKey revoked => ∃ api_key, phase = .holding api_key ∧ api_key.RevokedAs revoked ∧ revoked.id = api_key_id
  | .revokeAndAdd revoked _ => ∃ api_key, phase = .holding api_key ∧ api_key.RevokedAs revoked ∧
    revoked.id = api_key_id
  | .addKey _ => False
  | _ => True

def Expected (api_key_id : UUID) : (c : KeyCommand) → KeyResponse c → Prop
  | .tokenUrlsafe, r => ∃ token, r = .ok token
  | .hashSecret _, r => ∃ digest, r = .ok digest ∧ isBlank digest = false
  | .getKey _, r => ∃ api_key, r = .ok (some api_key) ∧ api_key.id = api_key_id
  | .saveKey key, r => r = .ok key
  | .revokeAndAdd _ replacement, r => r = .ok replacement
  | .addAudit _, r => r = .ok ()
  | _, _ => True

def retiring (api_key_id : UUID) : Environment KeyCommand KeyResponse Phase where
  may := May api_key_id
  reply := fun phase c r phase' => Expected api_key_id c r ∧ phase' = phase.after c r

/-- A call that returns has written; one that raises has read a revoked key. -/
def Outcome {α : Type} (api_key_id : UUID) : Except KeyExn α → Phase → Prop :=
  Prog.ends (fun _ phase => phase = .retired) fun err phase =>
    err = .alreadyRevoked api_key_id ∧ phase = .refused

end Calls

section Discipline

variable {api_key_id : UUID} {phase : Phase}

theorem deriveLookupPrefix_not_blank (token : String) :
    isBlank (deriveLookupPrefix (keyPublicPrefix ++ token)) = false := by
  have hmem : 'a' ∈ (deriveLookupPrefix (keyPublicPrefix ++ token)).toList := by
    unfold deriveLookupPrefix
    rw [String.toList_ofList, String.toList_append]
    exact List.mem_cons_self
  rw [Bool.eq_false_iff]
  intro hblank
  have hspace := List.all_eq_true.mp hblank 'a' hmem
  revert hspace
  decide

theorem replacement_isOk (api_key : ApiKey) (id : UUID) (now : Collaborators.UtcInstant) (token : String)
    {secret_hash : String} (hhash : isBlank secret_hash = false) :
    ∃ replacement, ApiKey.new id api_key.organization_id api_key.name (deriveLookupPrefix (keyPublicPrefix ++ token))
      secret_hash .active now.val none now.val = .ok replacement := by
  apply ApiKey.new_isOk
  have hnow : now.val.utcoffset ≠ none := by
    rw [now.property]
    nofun
  unfold ApiKey.problem
  rw [api_key.texts_ok.1, requireNonBlank_none.mpr (deriveLookupPrefix_not_blank token),
    requireNonBlank_none.mpr hhash]
  simp [hnow]

theorem recordKeyChange_obeys {action : String} {now : Collaborators.UtcInstant} {stored : ApiKey}
    {metadata : List (String × String)} (haction : isBlank action = false)
    (hmetadata : metadata.findSome? (fun item => metadataProblem item.1 item.2) = none) {α : Type} {a : α} :
    ((recordKeyChange action now stored metadata).bind fun _ => (.done a : KeyAction α)).wp (retiring api_key_id)
      (fun phase _ => phase) (Outcome api_key_id) .retired := by
  refine Prog.wp_ask trivial ?_
  rintro id phase ⟨-, rfl⟩
  obtain ⟨event, hevent⟩ := @keyEvent_ok id action now stored metadata haction hmetadata
  simp only [hevent, Except.mapError, Prog.ofExcept_ok, Prog.bind_eq, Prog.done_bind]
  refine Prog.wp_ask trivial ?_
  rintro r phase ⟨rfl, rfl⟩
  exact rfl

theorem revokeApiKey_obeys :
    (revokeApiKey api_key_id).wp (retiring api_key_id) (fun phase _ => phase) (Outcome api_key_id) .fresh := by
  refine Prog.wp_ask ⟨rfl, rfl⟩ ?_
  rintro r phase ⟨⟨api_key, rfl, hid⟩, hphase⟩
  simp only [Prog.ofExcept_ok, Prog.bind_eq, Prog.done_bind]
  refine Prog.wp_ask trivial ?_
  rintro now phase' ⟨-, hnow⟩
  obtain rfl : phase' = phase := hnow
  by_cases hactive : api_key.status = .active
  · have hmoment : now.val.utcoffset ≠ none := by
      rw [now.property]
      nofun
    obtain ⟨revoked, hrevoke⟩ := ApiKey.revoke_isOk hactive hmoment
    have hrevoked := ApiKey.revoke_eq_ok hrevoke
    obtain rfl : phase' = .holding api_key := hphase.trans (if_pos hactive)
    rw [hrevoke]
    refine Prog.wp_ask ⟨api_key, rfl, hrevoked, hrevoked.id.trans hid⟩ ?_
    rintro r phase ⟨rfl, rfl⟩
    simp only [Prog.ofExcept_ok, Prog.done_bind]
    exact recordKeyChange_obeys (by decide) (prefix_metadata_ok revoked)
  · rw [ApiKey.revoke_inactive hactive]
    exact ⟨congrArg KeyExn.alreadyRevoked hid, hphase.trans (if_neg hactive)⟩

theorem rotateApiKey_obeys :
    (rotateApiKey api_key_id).wp (retiring api_key_id) (fun phase _ => phase) (Outcome api_key_id) .fresh := by
  refine Prog.wp_ask ⟨rfl, rfl⟩ ?_
  rintro r phase ⟨⟨api_key, rfl, hid⟩, hphase⟩
  simp only [Prog.ofExcept_ok, Prog.bind_eq, Prog.done_bind]
  refine Prog.wp_ask trivial ?_
  rintro now phase' ⟨-, hnow⟩
  obtain rfl : phase' = phase := hnow
  by_cases hactive : api_key.status = .active
  · have hmoment : now.val.utcoffset ≠ none := by
      rw [now.property]
      nofun
    obtain ⟨revoked, hrevoke⟩ := ApiKey.revoke_isOk hactive hmoment
    have hrevoked := ApiKey.revoke_eq_ok hrevoke
    obtain rfl : phase' = .holding api_key := hphase.trans (if_pos hactive)
    rw [hrevoke]
    refine Prog.wp_ask trivial ?_
    rintro r phase ⟨⟨token, rfl⟩, rfl⟩
    refine Prog.wp_ask trivial ?_
    rintro id phase ⟨-, rfl⟩
    refine Prog.wp_ask trivial ?_
    rintro r phase ⟨⟨digest, rfl, hdigest⟩, rfl⟩
    obtain ⟨replacement, hreplacement⟩ := replacement_isOk api_key id now token hdigest
    simp only [Prog.ofExcept_ok, Prog.bind_eq, Prog.done_bind, hreplacement]
    refine Prog.wp_ask ⟨api_key, rfl, hrevoked, hrevoked.id.trans hid⟩ ?_
    rintro r phase ⟨rfl, rfl⟩
    simp only [Prog.ofExcept_ok, Prog.done_bind]
    exact recordKeyChange_obeys (by decide) (rotation_metadata_ok api_key_id replacement)
  · rw [ApiKey.revoke_inactive hactive]
    exact ⟨congrArg KeyExn.alreadyRevoked hid, hphase.trans (if_neg hactive)⟩

end Discipline

section Races

/-- Whether an answer is one that fresh ids and a proper hasher give. -/
def sound : (c : KeyCommand) → KeyResponse c → Bool
  | .hashSecret _, .ok digest => !isBlank digest
  | .revokeAndAdd _ _, r => r ≠ .error (.failed integrityError)
  | _, _ => true

/-- The stores carry out every command, one at a time; organizations change as they like. -/
def concurrent (verify_secret : String → String → Bool) : Arbiter ι KeyCommand KeyResponse KeyStore where
  reply := fun _ w c r w' => CarriesOut verify_secret w c r w' ∧ sound c r = true
  drift := fun w w' => ∃ organizations, w' = { w with organizations := organizations }

/-- A call writes only while the stored key is active, as it was when the call read it. -/
def WritesActive (api_key_id : UUID) (w : KeyStore) (_g : ι → Phase) (_i : ι) (c : KeyCommand) : Prop :=
  match c with
  | .saveKey _ => ∃ row, w.api_keys.get api_key_id = some row ∧ row.status = .active
  | .revokeAndAdd _ _ => ∃ row, w.api_keys.get api_key_id = some row ∧ row.status = .active
  | _ => True

def start (calls : ι → Retirement) (api_key_id : UUID) (w : KeyStore) :
    Pool ι KeyCommand KeyResponse Empty KeyExn (CreateApiKeyResult ⊕ ApiKeyMetadata) KeyStore Phase :=
  ⟨w, fun i => (calls i).call api_key_id, fun _ => .fresh⟩

/-- At most one call has retired the key, and at most one row was added to those with `ids`. -/
structure RetiredOnce (api_key_id : UUID) (ids : List UUID) (w : KeyStore) (g : ι → Phase) : Prop where
  known : ∃ row, w.api_keys.get api_key_id = some row ∧ (row.status = .active → ∀ i, g i ≠ .retired)
  one : ∀ i j, g i = .retired → g j = .retired → i = j
  added : ∃ added, w.api_keys.rows.map ApiKey.id = ids ++ added ∧ added.length ≤ 1 ∧
    ((∀ i, g i ≠ .retired) → added = [])

variable [DecidableEq ι] {verify_secret : String → String → Bool} {api_key_id : UUID} {ids : List UUID}
  {w w' : KeyStore} {g : ι → Phase} {i : ι}

theorem RetiredOnce.move (h : RetiredOnce api_key_id ids w g) {phase : Phase} (hkeys : w'.api_keys = w.api_keys)
    (hphase : phase = .retired ↔ g i = .retired) : RetiredOnce api_key_id ids w' (Function.update g i phase) := by
  have hsame : ∀ j, Function.update g i phase j = .retired ↔ g j = .retired := by
    intro j
    by_cases hj : j = i
    · subst hj
      rw [Function.update_self]
      exact hphase
    · rw [Function.update_of_ne hj]
  constructor
  · rw [hkeys]
    obtain ⟨row, hget, hactive⟩ := h.known
    exact ⟨row, hget, fun hrow j => mt (hsame j).mp (hactive hrow j)⟩
  · intro j k hj hk
    exact h.one j k ((hsame j).mp hj) ((hsame k).mp hk)
  · rw [hkeys]
    obtain ⟨added, hids, hlength, hnone⟩ := h.added
    exact ⟨added, hids, hlength, fun hall => hnone fun j => mt (hsame j).mpr (hall j)⟩

theorem RetiredOnce.write (h : RetiredOnce api_key_id ids w g) (added : List UUID) {row : ApiKey}
    (hactive : ∃ row, w.api_keys.get api_key_id = some row ∧ row.status = .active)
    (hget : w'.api_keys.get api_key_id = some row) (hrow : row.status = .revoked)
    (hids : w'.api_keys.rows.map ApiKey.id = w.api_keys.rows.map ApiKey.id ++ added) (hlength : added.length ≤ 1) :
    RetiredOnce api_key_id ids w' (Function.update g i .retired) := by
  obtain ⟨old, hold, hstatus⟩ := hactive
  obtain ⟨known, hknown, hnobody⟩ := h.known
  rw [hold] at hknown
  cases hknown
  have hfree := hnobody hstatus
  have hsame : ∀ j, Function.update g i .retired j = .retired → j = i := by
    intro j hj
    by_contra hne
    rw [Function.update_of_ne hne] at hj
    exact hfree j hj
  constructor
  · refine ⟨row, hget, fun hrow' => ?_⟩
    rw [hrow] at hrow'
    cases hrow'
  · intro j k hj hk
    rw [hsame j hj, hsame k hk]
  · obtain ⟨before, hbefore, _, hnone⟩ := h.added
    rw [hnone hfree, List.append_nil] at hbefore
    refine ⟨added, by rw [hids, hbefore], hlength, fun hall => ?_⟩
    exact absurd (Function.update_self i Phase.retired g) (hall i)

omit [DecidableEq ι] in
theorem save_reply {row revoked : ApiKey} {r : Except KeyExn ApiKey} (hget : w.api_keys.get revoked.id = some row)
    (h : (concurrent verify_secret).reply i w (.saveKey revoked) r w') :
    r = .ok revoked ∧ w' = { w with api_keys := w.api_keys.update revoked } := by
  have hdone := h.1
  simp only [CarriesOut, hget] at hdone
  exact hdone

omit [DecidableEq ι] in
theorem replace_reply {row revoked replacement : ApiKey} {r : Except KeyExn ApiKey}
    (hget : w.api_keys.get revoked.id = some row)
    (h : (concurrent verify_secret).reply i w (.revokeAndAdd revoked replacement) r w') :
    r = .ok replacement ∧ ∃ api_keys, (w.api_keys.update revoked).insert replacement = some api_keys ∧
      w' = { w with api_keys := api_keys } := by
  obtain ⟨hdone, hsound⟩ := h
  cases hinsert : (w.api_keys.update revoked).insert replacement with
  | none =>
    simp only [CarriesOut, hget, hinsert] at hdone
    rw [hdone.1] at hsound
    have hne : (Except.error (.failed integrityError) : Except KeyExn ApiKey) ≠ .error (.failed integrityError) :=
      of_decide_eq_true hsound
    exact absurd rfl hne
  | some api_keys =>
    simp only [CarriesOut, hget, hinsert] at hdone
    exact ⟨hdone.1, api_keys, rfl, hdone.2⟩

omit [DecidableEq ι] in
theorem reply_expected (h : RetiredOnce api_key_id ids w g) {c : KeyCommand} {r : KeyResponse c}
    (hmay : May api_key_id (g i) c) (hreply : (concurrent verify_secret).reply i w c r w') :
    Expected api_key_id c r := by
  obtain ⟨row, hget, -⟩ := h.known
  cases c with
  | tokenUrlsafe =>
    obtain ⟨token, hr, -⟩ := hreply.1
    exact ⟨token, hr⟩
  | hashSecret secret =>
    obtain ⟨⟨digest, rfl, -⟩, hsound⟩ := hreply
    exact ⟨digest, rfl, by simpa [sound] using hsound⟩
  | getKey id =>
    obtain ⟨rfl, -⟩ := hmay
    obtain ⟨⟨hr, -⟩, -⟩ := hreply
    rw [hget] at hr
    exact ⟨row, hr, (KeyTable.get_some hget).2⟩
  | saveKey revoked =>
    obtain ⟨_, _, _, hid⟩ := hmay
    rw [← hid] at hget
    exact (save_reply hget hreply).1
  | revokeAndAdd revoked replacement =>
    obtain ⟨_, _, _, hid⟩ := hmay
    rw [← hid] at hget
    exact (replace_reply hget hreply).1
  | addAudit event => exact hreply.1.1
  | _ => exact trivial

/-- Every command of every call, while calls write only what is still active. -/
theorem retired_keeps : Pool.Keeps (concurrent verify_secret) Phase.after (WritesActive api_key_id) (May api_key_id)
    (@RetiredOnce ι api_key_id ids) := by
  constructor
  · intro w g i c r w' h hmay hactive hreply
    obtain ⟨row, hget, -⟩ := h.known
    cases c with
    | getKey id =>
      obtain ⟨rfl, hfresh⟩ := hmay
      obtain ⟨⟨hr, rfl⟩, -⟩ := hreply
      rw [hget] at hr
      subst hr
      refine h.move rfl ?_
      rw [hfresh]
      unfold Phase.after
      simp only
      split_ifs <;> simp
    | saveKey revoked =>
      obtain ⟨api_key, _, hrevoked, hid⟩ := hmay
      rw [← hid] at hget
      obtain ⟨-, rfl⟩ := save_reply hget hreply
      refine h.write [] hactive ?_ hrevoked.status ?_ (Nat.zero_le _)
      · rw [← hid]
        exact KeyTable.get_update (by rw [hget]; rfl)
      · rw [List.append_nil]
        exact KeyTable.update_ids _ _
    | revokeAndAdd revoked replacement =>
      obtain ⟨api_key, _, hrevoked, hid⟩ := hmay
      rw [← hid] at hget
      obtain ⟨-, api_keys, hinsert, rfl⟩ := replace_reply hget hreply
      refine h.write [replacement.id] hactive ?_ hrevoked.status ?_ (le_refl 1)
      · rw [← hid]
        exact KeyTable.get_insert hinsert (KeyTable.get_update (by rw [hget]; rfl))
      · rw [KeyTable.insert_ids hinsert, KeyTable.update_ids]
    | addKey key => exact hmay.elim
    | tokenUrlsafe =>
      obtain ⟨⟨token, _, _, _, rfl⟩, -⟩ := hreply
      exact h.move rfl Iff.rfl
    | hashSecret secret =>
      obtain ⟨⟨digest, _, _, rfl⟩, -⟩ := hreply
      exact h.move rfl Iff.rfl
    | findByPrefix keyPrefix =>
      obtain ⟨⟨candidates, _, _, rfl⟩, -⟩ := hreply
      exact h.move rfl Iff.rfl
    | utcNow | uuid4 =>
      obtain ⟨rfl, -⟩ := hreply
      exact h.move rfl Iff.rfl
    | getOrganization _ | addAudit _ =>
      obtain ⟨⟨-, rfl⟩, -⟩ := hreply
      exact h.move rfl Iff.rfl
  · rintro w g w' h ⟨organizations, rfl⟩
    exact ⟨h.known, h.one, h.added⟩

theorem revoked_keeps {table : KeyTable} {row : ApiKey} (hget : table.get api_key_id = some row)
    (hrow : row.status = .revoked) :
    Pool.Keeps (concurrent verify_secret) Phase.after (WritesActive api_key_id) (May api_key_id)
      (fun w (g : ι → Phase) => RetiredOnce api_key_id ids w g ∧ w.api_keys = table) := by
  have hfrozen : ∀ w : KeyStore, w.api_keys = table →
      ¬ ∃ row, w.api_keys.get api_key_id = some row ∧ row.status = .active := by
    rintro w hkeys ⟨other, hother, hactive⟩
    rw [hkeys, hget] at hother
    cases hother
    rw [hrow] at hactive
    cases hactive
  constructor
  · rintro w g i c r w' ⟨h, hkeys⟩ hmay hactive hreply
    refine ⟨retired_keeps.answered w g i c r w' h hmay hactive hreply, ?_⟩
    cases c with
    | saveKey revoked => exact absurd hactive (hfrozen w hkeys)
    | revokeAndAdd revoked replacement => exact absurd hactive (hfrozen w hkeys)
    | addKey key => exact hmay.elim
    | tokenUrlsafe =>
      obtain ⟨⟨token, _, _, _, rfl⟩, -⟩ := hreply
      exact hkeys
    | hashSecret secret =>
      obtain ⟨⟨digest, _, _, rfl⟩, -⟩ := hreply
      exact hkeys
    | findByPrefix keyPrefix =>
      obtain ⟨⟨candidates, _, _, rfl⟩, -⟩ := hreply
      exact hkeys
    | utcNow | uuid4 =>
      obtain ⟨rfl, -⟩ := hreply
      exact hkeys
    | getOrganization _ | getKey _ | addAudit _ =>
      obtain ⟨⟨-, rfl⟩, -⟩ := hreply
      exact hkeys
  · rintro w g w' ⟨h, hkeys⟩ hdrift
    refine ⟨retired_keeps.drifted w g w' h hdrift, ?_⟩
    obtain ⟨organizations, rfl⟩ := hdrift
    exact hkeys

omit [DecidableEq ι] in
theorem start_obeys (calls : ι → Retirement) (w : KeyStore) :
    Pool.Obeys (retiring api_key_id) (Outcome api_key_id) (start calls api_key_id w) := by
  intro i
  change ((calls i).call api_key_id).wp _ _ _ Phase.fresh
  cases calls i with
  | rotate => exact Prog.wp_bind rotateApiKey_obeys
  | revoke => exact Prog.wp_bind revokeApiKey_obeys

/-- In every run whose calls write only what is still active, at most one call returns, every other that ends
raises that the key is revoked already, at most one key was added, and a revoked key stays as it is. -/
theorem key_retired_once_when_writes_find_active (verify_secret : String → String → Bool) (calls : ι → Retirement)
    (api_key_id : UUID) (w : KeyStore) (hkey : (w.api_keys.get api_key_id).isSome)
    (pool pool' : Pool ι KeyCommand KeyResponse Empty KeyExn (CreateApiKeyResult ⊕ ApiKeyMetadata) KeyStore Phase)
    (hrun : Pool.Reaches (concurrent verify_secret) Phase.after (WritesActive api_key_id)
      (start calls api_key_id w) pool)
    (hlater : Pool.Reaches (concurrent verify_secret) Phase.after (WritesActive api_key_id) pool pool') :
    (∀ i j a b, pool.rest i = .done a → pool.rest j = .done b → i = j) ∧
      (∀ i err, pool.rest i = .raise err → err = .alreadyRevoked api_key_id) ∧
      (∃ added, pool.shared.api_keys.rows.map ApiKey.id = w.api_keys.rows.map ApiKey.id ++ added ∧
        added.length ≤ 1) ∧
      ∀ row, pool.shared.api_keys.get api_key_id = some row → row.status = .revoked →
        pool'.shared.api_keys = pool.shared.api_keys := by
  have hstart : RetiredOnce api_key_id (w.api_keys.rows.map ApiKey.id) (start calls api_key_id w).shared
      (start calls api_key_id w).note := by
    obtain ⟨row, hget⟩ := Option.isSome_iff_exists.mp hkey
    exact ⟨⟨row, hget, fun _ _ => nofun⟩, nofun, [], (List.append_nil _).symm, Nat.zero_le _, fun _ => rfl⟩
  have hlocal : ∀ (v : KeyStore) (g : ι → Phase) (i : ι) (c : KeyCommand) (r : KeyResponse c) (v' : KeyStore),
      RetiredOnce api_key_id (w.api_keys.rows.map ApiKey.id) v g → May api_key_id (g i) c →
      (concurrent verify_secret).reply i v c r v' → (retiring api_key_id).reply (g i) c r ((g i).after c r) :=
    fun v g i c r v' h hmay hreply => ⟨reply_expected h hmay hreply, rfl⟩
  obtain ⟨hobeys, hretired⟩ := hrun.obeys
    (fun v g i c r v' h hmay _ hreply => hlocal v g i c r v' h hmay hreply) retired_keeps (start_obeys calls w) hstart
  refine ⟨?_, ?_, ?_, ?_⟩
  · intro i j a b hi hj
    have hreturned := hobeys i
    have hreturned' := hobeys j
    rw [hi] at hreturned
    rw [hj] at hreturned'
    exact hretired.one i j hreturned hreturned'
  · intro i err hi
    have hraised := hobeys i
    rw [hi] at hraised
    exact hraised.1
  · obtain ⟨added, hids, hlength, -⟩ := hretired.added
    exact ⟨added, hids, hlength⟩
  · intro row hget hrow
    have hfrozen := hlater.obeys
      (fun v g i c r v' h hmay _ hreply => hlocal v g i c r v' h.1 hmay hreply) (revoked_keeps hget hrow) hobeys
      ⟨hretired, rfl⟩
    exact hfrozen.2.2

end Races

section Samples

inductive Operator where
  | first
  | second
deriving DecidableEq

def rotating :
    Pool Operator KeyCommand KeyResponse Empty KeyExn (CreateApiKeyResult ⊕ ApiKeyMetadata) KeyStore Phase :=
  start (fun _ => .rotate) ⟨0⟩ sampleCreation.2

def script (_ : Operator) (w : KeyStore) (c : KeyCommand) : Option (KeyResponse c × KeyStore) :=
  if sound c (sampleKeys.answer w c).1 then some (sampleKeys.answer w c) else none

theorem script_replies (i : Operator) (w : KeyStore) (c : KeyCommand) (r : KeyResponse c) (w' : KeyStore)
    (h : script i w c = some (r, w')) : (concurrent sampleVerify).reply i w c r w' := by
  unfold script at h
  split_ifs at h with hsound
  have hanswer := Option.some.inj h
  have hcarried := sampleKeys_carriesOut w c
  rw [hanswer] at hcarried hsound
  exact ⟨hcarried, hsound⟩

def carefulScript (i : Operator) (w : KeyStore) (c : KeyCommand) : Option (KeyResponse c × KeyStore) :=
  match c with
  | .saveKey key =>
    if (w.api_keys.get ⟨0⟩).any fun row => row.status = .active then script i w (.saveKey key) else none
  | .revokeAndAdd key replacement =>
    if (w.api_keys.get ⟨0⟩).any fun row => row.status = .active then script i w (.revokeAndAdd key replacement)
    else none
  | c => script i w c

theorem carefulScript_script {i : Operator} {w w' : KeyStore} {c : KeyCommand} {r : KeyResponse c}
    (h : carefulScript i w c = some (r, w')) : script i w c = some (r, w') := by
  cases c with
  | saveKey key =>
    simp only [carefulScript] at h
    split_ifs at h
    exact h
  | revokeAndAdd key replacement =>
    simp only [carefulScript] at h
    split_ifs at h
    exact h
  | _ => exact h

theorem active_of_any {row : Option ApiKey} (h : (row.any fun row => row.status = .active) = true) :
    ∃ active, row = some active ∧ active.status = .active := by
  cases row with
  | none => cases h
  | some row => exact ⟨row, rfl, of_decide_eq_true h⟩

theorem carefulScript_active (i : Operator) (w : KeyStore) (g : Operator → Phase) (c : KeyCommand)
    (r : KeyResponse c) (w' : KeyStore) (h : carefulScript i w c = some (r, w')) : WritesActive ⟨0⟩ w g i c := by
  cases c with
  | saveKey key =>
    simp only [carefulScript] at h
    split_ifs at h with hactive
    exact active_of_any hactive
  | revokeAndAdd key replacement =>
    simp only [carefulScript] at h
    split_ifs at h with hactive
    exact active_of_any hactive
  | _ => exact trivial

def rotated :
    Pool Operator KeyCommand KeyResponse Empty KeyExn (CreateApiKeyResult ⊕ ApiKeyMetadata) KeyStore Phase :=
  Pool.turns carefulScript Phase.after (List.replicate 20 .first ++ List.replicate 20 .second) rotating

theorem second_rotation_refused :
    ∃ pool, Pool.Reaches (concurrent sampleVerify) Phase.after (WritesActive ⟨0⟩) rotating pool ∧
      pool.note .first = .retired ∧ pool.note .second = .refused ∧
      ∃ added, pool.shared.api_keys.rows.map ApiKey.id = [⟨0⟩] ++ added ∧ added.length ≤ 1 := by
  have hrun : Pool.Reaches (concurrent sampleVerify) Phase.after (WritesActive ⟨0⟩) rotating rotated :=
    Pool.turns_reach (fun i w c r w' h => script_replies i w c r w' (carefulScript_script h)) carefulScript_active _ _
  obtain ⟨-, -, hadded, -⟩ := key_retired_once_when_writes_find_active sampleVerify (fun _ => Retirement.rotate) ⟨0⟩
    sampleCreation.2 (by decide +kernel) rotated rotated hrun .refl
  exact ⟨rotated, hrun, by decide +kernel, by decide +kernel, hadded⟩

def returned (p : KeyAction (CreateApiKeyResult ⊕ ApiKeyMetadata)) : Bool :=
  match p with
  | .done _ => true
  | _ => false

/-- Both rotations read the active key; then each writes. -/
def interleaved : List Operator :=
  [.first, .second] ++ List.replicate 20 .first ++ List.replicate 20 .second

/-- Both rotations return, and the one key has two active successors. -/
theorem both_rotations_return :
    ∃ pool, Pool.Reaches (concurrent sampleVerify) Phase.after (fun _ _ _ _ => True) rotating pool ∧
      returned (pool.rest .first) = true ∧ returned (pool.rest .second) = true ∧
      pool.shared.api_keys.rows.map ApiKey.status = [.revoked, .active, .active] :=
  ⟨Pool.turns script Phase.after interleaved rotating,
    Pool.turns_reach script_replies (fun _ _ _ _ _ _ _ => trivial) interleaved rotating,
    by decide +kernel, by decide +kernel, by decide +kernel⟩

end Samples

end AIRuntime.KeyRaces
