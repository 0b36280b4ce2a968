import AIRuntime.AccessControl
import AIRuntime.KeyLifecycle
import AIRuntime.PipelineRuns
import AIRuntime.PromptVersions
import AIRuntime.RegistryRuns

set_option autoImplicit false

/-! Any number of requests of operators, tenants and strangers at the same time. -/
namespace AIRuntime.AccessRuns

open EffectPrograms PythonText Failures Identifiers SharedStores PromptRecords McpTools SemanticRetrieval
  ApiKeyRecords ApiKeyUseCases TenantRecords RequestPipeline AccessControl

variable {ι D : Type}

section Permissions

def MineSystem (organization_id : UUID) : SystemCommand → Prop
  | ⟨.prompts, .maxVersion o _⟩ => o = organization_id
  | ⟨.prompts, .insertCommit row⟩ => row.organization_id = organization_id
  | ⟨.prompts, .selectLatest o _ _⟩ => o = organization_id
  | ⟨.prompts, .selectAscending o _⟩ => o = organization_id
  | ⟨.prompts, _⟩ => True
  | ⟨.knowledge, .getOrganization o⟩ => o = organization_id
  | ⟨.knowledge, .insertCommit row⟩ => row.organization_id = organization_id
  | ⟨.knowledge, .selectNearest o _ _⟩ => o = organization_id
  | ⟨.knowledge, _⟩ => True
  | ⟨.servers, .getByName o _⟩ => o = organization_id
  | ⟨.servers, .listTools _⟩ => True
  | ⟨.service, c⟩ => ResponseScopes.Scoped organization_id c

def MineRegistry (organization_id : UUID) : RegistryCommand → Prop
  | .insertCommit (.server row) => row.organization_id = organization_id
  | .selectServers o => o = organization_id
  | .utcNow => True
  | .uuid4 => True
  | .rollback => True
  | _ => False

/-- What a tenant may ask: of its own organization. -/
def Mine (organization_id : UUID) : EdgeCommand → Prop
  | ⟨.registry, c⟩ => MineRegistry organization_id c
  | ⟨.system, c⟩ => MineSystem organization_id c
  | _ => False

abbrev Told (D : Type) := History HttpRequest EdgeCommand (EdgeResponse D)

def Revokes (told : Told D) (key_id : UUID) (revoked : ApiKey) : Prop :=
  ∃ key : ApiKey, ⟨⟨.keys, .getKey key_id⟩, .ok (some key)⟩ ∈ told.steps ∧ key.RevokedAs revoked

def Administers (told : Told D) (route : OperatorRoute) : EdgeCommand → Prop
  | ⟨.registry, .insertCommit (.organization row)⟩ => route = .postOrganizations row.name row.slug
  | ⟨.registry, .insertCommit (.server _)⟩ => False
  | ⟨.registry, _⟩ => True
  | ⟨.keys, .addKey key⟩ => ∃ name, route = .postApiKeys key.organization_id name
  | ⟨.keys, .saveKey revoked⟩ => ∃ key_id, route = .deleteApiKey key_id ∧ Revokes told key_id revoked
  | ⟨.keys, .revokeAndAdd revoked replacement⟩ =>
    ∃ key_id, route = .postRotateApiKey key_id ∧ Revokes told key_id revoked ∧
      replacement.organization_id = revoked.organization_id
  | ⟨.keys, _⟩ => True
  | ⟨.listing, _⟩ => True
  | ⟨.system, _⟩ => False

/-- What anyone may ask, to show who they are. -/
def Identifies : EdgeCommand → Prop
  | ⟨.keys, .findByPrefix _⟩ => True
  | ⟨.keys, .getOrganization _⟩ => True
  | _ => False

structure Operator (deployment : Deployment) (request : HttpRequest) : Prop where
  configured : strip deployment.operator_token ≠ ""
  presented : extractBearer operatorUnauthorizedMessage request.authorization = .ok (strip deployment.operator_token)

/-- The secret is of an active key that was found, of an organization that is not suspended. -/
structure Shows (verify_secret : String → String → Bool) (secret : String) (told : Told D) (candidate : ApiKey)
    (organization : ApiKeyRecords.Organization) : Prop where
  found : ∃ candidates, ⟨⟨.keys, .findByPrefix (deriveLookupPrefix secret)⟩, .ok candidates⟩ ∈ told.steps ∧
    candidate ∈ candidates
  verified : verify_secret secret candidate.secret_hash = true
  active : candidate.status = .active
  read : ⟨⟨.keys, .getOrganization candidate.organization_id⟩, .ok (some organization)⟩ ∈ told.steps
  open_for_use : organization.status ≠ .suspended

def Proven (self : Deployment) (told : Told D) (principal : AuthenticatedPrincipal) : Prop :=
  ∃ secret candidate organization, extractBearer unauthorizedMessage told.call.authorization = .ok secret ∧
    Shows self.verify_secret secret told candidate organization ∧ principal.organization_id = organization.id ∧
      principal.api_key_id = candidate.id

/-- What a request may ask by what it was answered. What an operator's request has asked was the operator's to ask,
and what a tenant's has asked was of the same organization. -/
inductive Permitted (self : Deployment) (told : Told D) (c : EdgeCommand) : Prop where
  | identifies (h : Identifies c)
  | operator {route : OperatorRoute} (hroute : told.call.route = .operator route) (hoperator : Operator self told.call)
      (halone : ∀ step ∈ told.steps, Identifies step.1 ∨ Administers told route step.1) (h : Administers told route c)
  | tenant {route : TenantRoute} {principal : AuthenticatedPrincipal} (hroute : told.call.route = .tenant route)
      (hproven : Proven self told principal)
      (halone : ∀ step ∈ told.steps, Identifies step.1 ∨ Mine principal.organization_id step.1)
      (h : Mine principal.organization_id c)

/-- Whom a request acts for, by all that it has asked: nobody yet, the operator, or one organization. -/
inductive ActsFor (self : Deployment) (told : Told D) : Prop where
  | nobody (h : ∀ step ∈ told.steps, Identifies step.1)
  | operator {route : OperatorRoute} (hroute : told.call.route = .operator route) (hoperator : Operator self told.call)
      (h : ∀ step ∈ told.steps, Identifies step.1 ∨ Administers told route step.1)
  | tenant {route : TenantRoute} {principal : AuthenticatedPrincipal} (hroute : told.call.route = .tenant route)
      (hproven : Proven self told principal)
      (h : ∀ step ∈ told.steps, Identifies step.1 ∨ Mine principal.organization_id step.1)

end Permissions

section Asks

variable {told : Told D}

section Registry

variable {P : RegistryCommand → Prop}

theorem commitNew_asks {row : Row} {conflict : RegistryExn} (hinsert : P (.insertCommit row)) (hrollback : P .rollback) :
    (commitNew row conflict).Asks P := by
  refine Prog.Asks.bind ⟨hinsert, fun _ => trivial⟩ fun answer => ?_
  cases answer with
  | ok u => trivial
  | error err =>
    simp only
    split_ifs
    · exact Prog.Asks.bind ⟨hrollback, fun _ => trivial⟩ fun _ => Prog.Asks.bind (Prog.Asks.ofExcept _) fun _ => trivial
    · trivial

theorem readRow_asks (row : Option OrganizationRow) : (readRow row).Asks P := by
  cases row with
  | none => trivial
  | some row => exact Prog.Asks.bind (Prog.Asks.ofExcept _) fun _ => trivial

theorem createOrganization_asks (name slug : String) :
    (createOrganization name slug).Asks fun c => Administers told (.postOrganizations name slug) ⟨.registry, c⟩ := by
  refine Prog.Asks.bind (Prog.Asks.bind ⟨trivial, fun _ => trivial⟩ fun answer =>
    Prog.Asks.bind (Prog.Asks.ofExcept _) readRow_asks) fun found => ?_
  cases found with
  | some organization => trivial
  | none =>
    refine Prog.Asks.bind ⟨trivial, fun _ => trivial⟩ fun now => Prog.Asks.bind ⟨trivial, fun _ => trivial⟩ fun id => ?_
    cases hnew : Organization.new id name slug .active now.val now.val with
    | error err => trivial
    | ok organization =>
      obtain ⟨_, rfl⟩ := of_validated hnew
      simp only [registering_ok, Prog.bind_eq, Prog.done_bind]
      exact Prog.Asks.bind (commitNew_asks rfl trivial) fun _ => Prog.Asks.bind ⟨trivial, fun _ => trivial⟩ fun _ =>
        Prog.Asks.bind (Prog.Asks.ofExcept _) fun _ => Prog.Asks.ofExcept _

theorem getOrganization_asks (route : OperatorRoute) (organization_id : UUID) :
    (getOrganization organization_id).Asks fun c => Administers told route ⟨.registry, c⟩ := by
  refine Prog.Asks.bind (Prog.Asks.bind ⟨trivial, fun _ => trivial⟩ fun answer =>
    Prog.Asks.bind (Prog.Asks.ofExcept _) readRow_asks) fun found => ?_
  cases found <;> trivial

theorem registerMcpServer_asks (urlparse : UrlParse) (organization_id : UUID) (name url : String)
    (headers : Option (List (String × String))) :
    (registerMcpServer urlparse organization_id name url headers).Asks (MineRegistry organization_id) :=
  Prog.Asks.bind (Prog.Asks.ofExcept _) fun _ => Prog.Asks.bind (Prog.Asks.ofExcept _) fun _ =>
    Prog.Asks.bind ⟨trivial, fun _ => trivial⟩ fun _ => Prog.Asks.bind ⟨trivial, fun _ => trivial⟩ fun _ =>
      Prog.Asks.bind (Prog.Asks.ofExcept _) fun _ =>
        Prog.Asks.bind (commitNew_asks rfl trivial) fun _ => Prog.Asks.ofExcept _

theorem listMcpServers_asks (urlparse : UrlParse) (organization_id : UUID) :
    (listMcpServers urlparse organization_id).Asks (MineRegistry organization_id) :=
  Prog.Asks.bind (Prog.Asks.bind ⟨rfl, fun _ => trivial⟩ fun _ => Prog.Asks.bind (Prog.Asks.ofExcept _) fun _ =>
    Prog.Asks.ofExcept _) fun _ => trivial

end Registry

section Keys

theorem recordKeyChange_asks {P : KeyCommand → Prop} {action : String} {now : Collaborators.UtcInstant} {stored : ApiKey}
    {metadata : List (String × String)} (huuid4 : P .uuid4) (haudit : ∀ event, P (.addAudit event)) :
    (recordKeyChange action now stored metadata).Asks P :=
  Prog.Asks.bind ⟨huuid4, fun _ => trivial⟩ fun _ => Prog.Asks.bind (Prog.Asks.ofExcept _) fun event =>
    Prog.Asks.bind ⟨haudit event, fun _ => trivial⟩ fun _ => Prog.Asks.ofExcept _

/-- What is asked with a new key is asked with a key of the organization. -/
theorem issueKey_asks {α : Type} {P : KeyCommand → Prop} {organization_id : UUID} {name : Option String}
    {now : Collaborators.UtcInstant} {secret keyPrefix : String} {f : ApiKey → KeyAction α} (huuid4 : P .uuid4)
    (hhash : ∀ secret, P (.hashSecret secret)) (hf : ∀ key, key.organization_id = organization_id → (f key).Asks P) :
    ((issueKey organization_id name now secret keyPrefix).bind f).Asks P := by
  unfold issueKey
  simp only [Prog.bind_eq, Prog.bind_assoc]
  refine Prog.Asks.bind ⟨huuid4, fun _ => trivial⟩ fun id => Prog.Asks.bind ⟨hhash secret, fun _ => trivial⟩ fun hashed =>
    Prog.Asks.bind (Prog.Asks.ofExcept _) fun secret_hash => ?_
  cases hnew : ApiKey.new id organization_id name keyPrefix secret_hash .active now.val none now.val with
  | error err => trivial
  | ok key =>
    obtain ⟨hmetadata, -⟩ := ApiKey.new_eq_ok hnew
    exact hf key (congrArg ApiKeyMetadata.organization_id hmetadata)

theorem createApiKey_asks (organization_id : UUID) (name : Option String) :
    (createApiKey ⟨organization_id, name⟩).Asks fun c =>
      Administers told (.postApiKeys organization_id name) ⟨.keys, c⟩ := by
  refine Prog.Asks.bind ⟨trivial, fun _ => trivial⟩ fun answer => Prog.Asks.bind (Prog.Asks.ofExcept _) fun found => ?_
  cases found with
  | none => trivial
  | some organization =>
    refine Prog.Asks.bind (Prog.Asks.bind ⟨trivial, fun _ => trivial⟩ fun _ =>
      Prog.Asks.bind (Prog.Asks.ofExcept _) fun _ => trivial) fun generated =>
        Prog.Asks.bind ⟨trivial, fun _ => trivial⟩ fun now => ?_
    refine issueKey_asks trivial (fun _ => trivial) fun key hkey => ?_
    exact Prog.Asks.bind ⟨⟨name, by rw [hkey]⟩, fun _ => trivial⟩ fun stored =>
      Prog.Asks.bind (Prog.Asks.ofExcept _) fun _ =>
        Prog.Asks.bind (recordKeyChange_asks trivial fun _ => trivial) fun _ => trivial

theorem getApiKeys_asks (organization_id : UUID) :
    (listApiKeys organization_id : Edge D Empty _).Asks (Administers told (.getApiKeys organization_id)) := by
  refine Prog.Asks.bind ?_ fun found => ?_
  · exact Prog.Asks.within (P := fun c => Administers told (.getApiKeys organization_id) ⟨.keys, c⟩)
      (Prog.Asks.bind ⟨trivial, fun _ => trivial⟩ fun _ => Prog.Asks.ofExcept _) fun _ h => h
  · cases found with
    | none => trivial
    | some organization =>
      exact Prog.Asks.bind (Prog.Asks.within (P := fun _ => True)
        (Prog.Asks.bind ⟨trivial, fun _ => trivial⟩ fun _ => Prog.Asks.ofExcept _) fun c _ => trivial) fun _ => trivial

end Keys

section Tenants

variable {organization_id : UUID}

theorem onPart_asks {α X : Type} {part : Part} {f : X → EdgeExn}
    {p : Prog (PartCommand part) (PartResponse D part) Empty X α}
    (hp : p.Asks fun c => MineSystem organization_id ⟨part, c⟩) :
    (onPart part f p : Edge D Empty α).Asks (Mine organization_id) :=
  (hp.within (Q := MineSystem organization_id) fun _ h => h).within fun _ h => h

theorem listMcpServerTools_asks (name : String) :
    (listMcpServerTools organization_id name).Asks fun c => MineSystem organization_id ⟨.servers, c⟩ := by
  refine Prog.Asks.bind (Prog.Asks.ofExcept _) fun _ => Prog.Asks.bind ⟨rfl, fun _ => trivial⟩ fun _ =>
    Prog.Asks.bind (Prog.Asks.ofExcept _) fun found => ?_
  cases found with
  | none => trivial
  | some server =>
    exact Prog.Asks.bind ⟨trivial, fun _ => trivial⟩ fun _ => Prog.Asks.bind (Prog.Asks.ofExcept _) fun _ =>
      Prog.Asks.ofExcept _

theorem createPromptVersion_asks (name : String) (messages : List PromptMessageTemplate) :
    (createPromptVersion organization_id name messages).Asks fun c => MineSystem organization_id ⟨.prompts, c⟩ := by
  unfold createPromptVersion
  cases requestProblem name messages with
  | some message => trivial
  | none =>
    refine Prog.Asks.bind ⟨rfl, fun _ => trivial⟩ fun _ => Prog.Asks.bind (Prog.Asks.ofExcept _) fun latest =>
      Prog.Asks.bind ⟨trivial, fun _ => trivial⟩ fun id => Prog.Asks.bind ⟨trivial, fun _ => trivial⟩ fun now =>
        Prog.Asks.bind ⟨rfl, fun _ => trivial⟩ fun answer => ?_
    cases answer with
    | ok u => exact Prog.Asks.ofExcept _
    | error err =>
      simp only
      split_ifs
      · exact Prog.Asks.bind ⟨trivial, fun _ => trivial⟩ fun _ => Prog.Asks.bind (Prog.Asks.ofExcept _) fun _ => trivial
      · trivial

theorem getPromptVersions_asks (name : String) :
    (PromptRendering.getPromptVersions organization_id name).Asks fun c => MineSystem organization_id ⟨.prompts, c⟩ := by
  unfold PromptRendering.getPromptVersions
  cases validatePromptName name with
  | some message => trivial
  | none =>
    refine Prog.Asks.bind (Prog.Asks.attempt (Prog.Asks.bind ⟨rfl, fun _ => trivial⟩ fun _ =>
      Prog.Asks.bind (Prog.Asks.ofExcept _) fun _ => Prog.Asks.ofExcept _)) fun got => ?_
    cases got with
    | error err => trivial
    | ok versions =>
      simp only
      split_ifs <;> trivial

theorem ingestSemanticChunk_asks (embedders : Embedders) (content embedding_model : String) :
    (ingestSemanticChunk embedders ⟨organization_id, content, embedding_model⟩ : ChunkAction D _).Asks fun c =>
      MineSystem organization_id ⟨.knowledge, c⟩ := by
  have hembed : (embedText embedders embedding_model content : ChunkAction D _).Asks fun c =>
      MineSystem organization_id ⟨.knowledge, c⟩ := by
    have hprepares : (embedText embedders embedding_model content : ChunkAction D _).Asks fun c =>
        PipelineRuns.Prepares organization_id ⟨.knowledge, c⟩ := PipelineRuns.embedText_asks _ _ _
    refine hprepares.mono fun c hc => ?_
    cases c with
    | getOrganization o => cases hc
    | insertCommit row => cases hc
    | selectNearest o query_embedding limit => exact hc
    | _ => trivial
  refine Prog.Asks.bind hembed fun vector => Prog.Asks.bind ⟨rfl, fun _ => trivial⟩ fun _ =>
    Prog.Asks.bind (Prog.Asks.ofExcept _) fun found => ?_
  cases found with
  | none => trivial
  | some organization =>
    refine Prog.Asks.bind ⟨trivial, fun _ => trivial⟩ fun now => Prog.Asks.bind ⟨trivial, fun _ => trivial⟩ fun id => ?_
    cases hnew : SemanticChunk.new id organization_id content vector now.val with
    | error err => trivial
    | ok chunk =>
      obtain ⟨_, rfl⟩ := of_validated hnew
      simp only [SemanticRetrieval.raising_ok, Prog.bind_eq, Prog.done_bind]
      exact Prog.Asks.bind ⟨rfl, fun _ => trivial⟩ fun _ => Prog.Asks.bind (Prog.Asks.ofExcept _) fun _ =>
        Prog.Asks.ofExcept _

theorem mine_of_prepares {c : SystemCommand} (h : PipelineRuns.Prepares organization_id c) :
    MineSystem organization_id c := by
  obtain ⟨part, c⟩ := c
  cases part <;> cases c <;> first | exact h | exact h.elim

end Tenants

end Asks

section Spec

variable {self : Deployment} {told told' : Told D}

theorem Shows.extends {verify_secret : String → String → Bool} {secret : String} {candidate : ApiKey}
    {organization : ApiKeyRecords.Organization} (h : Shows verify_secret secret told candidate organization)
    (hmore : History.Extends told told') : Shows verify_secret secret told' candidate organization := by
  obtain ⟨candidates, hfound, hmem⟩ := h.found
  exact ⟨⟨candidates, hmore.steps _ hfound, hmem⟩, h.verified, h.active, hmore.steps _ h.read, h.open_for_use⟩

theorem Proven.extends {principal : AuthenticatedPrincipal} (h : Proven self told principal)
    (hmore : History.Extends told told') : Proven self told' principal := by
  obtain ⟨secret, candidate, organization, hsecret, hshows, hrest⟩ := h
  refine ⟨secret, candidate, organization, ?_, hshows.extends hmore, hrest⟩
  rw [hmore.call]
  exact hsecret

theorem Revokes.extends {key_id : UUID} {revoked : ApiKey} (h : Revokes told key_id revoked)
    (hmore : History.Extends told told') : Revokes told' key_id revoked := by
  obtain ⟨key, hread, hrevoked⟩ := h
  exact ⟨key, hmore.steps _ hread, hrevoked⟩

theorem Administers.extends {route : OperatorRoute} {c : EdgeCommand} (h : Administers told route c)
    (hmore : History.Extends told told') : Administers told' route c := by
  obtain ⟨part, c⟩ := c
  cases part with
  | keys =>
    cases c with
    | saveKey revoked =>
      obtain ⟨key_id, hroute, hrevokes⟩ := h
      exact ⟨key_id, hroute, hrevokes.extends hmore⟩
    | revokeAndAdd revoked replacement =>
      obtain ⟨key_id, hroute, hrevokes, hsame⟩ := h
      exact ⟨key_id, hroute, hrevokes.extends hmore, hsame⟩
    | _ => exact h
  | listing => exact h
  | registry =>
    cases c with
    | insertCommit row => cases row <;> exact h
    | _ => exact h
  | system => exact h

theorem ActsFor.after (h : ActsFor self told) {c : EdgeCommand} (hc : Permitted self told c) (r : EdgeResponse D c) :
    ActsFor self (told.after c r) := by
  have hmore := History.extends_after told c r
  cases hc with
  | identifies hc =>
    cases h with
    | nobody h =>
      refine .nobody fun step hstep => ?_
      rcases History.mem_after.mp hstep with hold | rfl
      · exact h step hold
      · exact hc
    | operator hroute hoperator h =>
      refine .operator hroute hoperator fun step hstep => ?_
      rcases History.mem_after.mp hstep with hold | rfl
      · exact (h step hold).imp_right fun h => h.extends hmore
      · exact .inl hc
    | tenant hroute hproven h =>
      refine .tenant hroute (hproven.extends hmore) fun step hstep => ?_
      rcases History.mem_after.mp hstep with hold | rfl
      · exact h step hold
      · exact .inl hc
  | operator hroute hoperator halone hc =>
    refine .operator hroute hoperator fun step hstep => ?_
    rcases History.mem_after.mp hstep with hold | rfl
    · exact (halone step hold).imp_right fun h => h.extends hmore
    · exact .inr (hc.extends hmore)
  | tenant hroute hproven halone hc =>
    refine .tenant hroute (hproven.extends hmore) fun step hstep => ?_
    rcases History.mem_after.mp hstep with hold | rfl
    · exact halone step hold
    · exact .inr hc

def Anonymous (told : Told D) : Prop := ∀ step ∈ told.steps, Identifies step.1

theorem Anonymous.after (h : Anonymous told) {c : EdgeCommand} (hc : Identifies c) (r : EdgeResponse D c) :
    Anonymous (told.after c r) := by
  intro step hstep
  rcases History.mem_after.mp hstep with hold | rfl
  · exact h step hold
  · exact hc

theorem authenticateApiKey_spec (secret : String) (hanonymous : Anonymous told) :
    (authenticateApiKey self.verify_secret secret).wp ((History.rule (Permitted self)).part .keys) (fun told _ => told)
      (Prog.ends (fun principal told' => (History.Extends told told' ∧ Anonymous told') ∧ ∃ candidate organization,
        Shows self.verify_secret secret told' candidate organization ∧ principal.organization_id = organization.id ∧
          principal.api_key_id = candidate.id) fun _ told' => History.Extends told told' ∧ Anonymous told') told := by
  unfold authenticateApiKey
  split_ifs
  · exact ⟨.refl told, hanonymous⟩
  · refine Prog.wp_ask (.identifies trivial) ?_
    rintro r _ rfl
    have hfirst : History.Extends told (told.after ⟨.keys, .findByPrefix (deriveLookupPrefix secret)⟩ r) ∧
        Anonymous (told.after ⟨.keys, .findByPrefix (deriveLookupPrefix secret)⟩ r) :=
      ⟨History.extends_after told ⟨.keys, .findByPrefix (deriveLookupPrefix secret)⟩ r,
        hanonymous.after (c := ⟨.keys, .findByPrefix (deriveLookupPrefix secret)⟩) trivial r⟩
    cases r with
    | error err => exact hfirst
    | ok candidates =>
      simp only [Prog.ofExcept_ok, Prog.bind_eq, Prog.done_bind]
      cases hfind : candidates.find? fun candidate => self.verify_secret secret candidate.secret_hash with
      | none => exact hfirst
      | some candidate =>
        simp only
        split_ifs with hactive
        · exact hfirst
        · refine Prog.wp_ask (.identifies trivial) ?_
          rintro r _ rfl
          have hboth := And.intro
            (hfirst.1.trans (History.extends_after _ ⟨.keys, .getOrganization candidate.organization_id⟩ r))
            (hfirst.2.after (c := ⟨.keys, .getOrganization candidate.organization_id⟩) trivial r)
          cases r with
          | error err => exact hboth
          | ok found =>
            cases found with
            | none => exact hboth
            | some organization =>
              simp only [Prog.ofExcept_ok, Prog.done_bind]
              split_ifs with hsuspended
              · exact hboth
              · refine ⟨hboth, candidate, organization, ⟨⟨candidates, ?_, List.mem_of_find?_eq_some hfind⟩, ?_, ?_, ?_,
                  hsuspended⟩, rfl, rfl⟩
                · exact History.mem_after.mpr (.inl (History.last_mem _ _ _))
                · exact List.find?_some (p := fun candidate : ApiKey => self.verify_secret secret candidate.secret_hash)
                    hfind
                · simpa using hactive
                · exact History.last_mem _ _ _

theorem getAuthenticatedPrincipal_spec (hanonymous : Anonymous told) :
    Prog.Spec (Permitted self) (getAuthenticatedPrincipal self told.call.authorization)
      (Prog.ends (fun principal told' => (History.Extends told told' ∧ Anonymous told') ∧ Proven self told' principal)
        fun _ told' => History.Extends told told' ∧ Anonymous told') told := by
  unfold getAuthenticatedPrincipal
  cases hbearer : extractBearer unauthorizedMessage told.call.authorization with
  | error err => exact ⟨.refl told, hanonymous⟩
  | ok secret =>
    simp only [Prog.ofExcept_ok, Prog.bind_eq, Prog.done_bind]
    refine Prog.wp_bind (Prog.wp_within (Prog.wp_attempt (Prog.wp_mono ?_ (authenticateApiKey_spec secret hanonymous))))
    rintro (err | principal) told' h
    · cases err <;> exact h
    · obtain ⟨hmore, candidate, organization, hshows, hrest⟩ := h
      refine ⟨hmore, secret, candidate, organization, ?_, hshows, hrest⟩
      rw [hmore.1.call]
      exact hbearer

theorem compareDigest_eq {a b : String} (h : compareDigest a b = .ok true) : a = b := by
  unfold compareDigest at h
  split_ifs at h
  simpa using h

theorem requireOperator_spec (hanonymous : Anonymous told) :
    Prog.Spec (Permitted self) (requireOperator self told.call.authorization)
    (Prog.ends (fun _ told' => (History.Extends told told' ∧ Anonymous told') ∧ Operator self told'.call)
      fun _ told' => History.Extends told told' ∧ Anonymous told') told := by
  unfold requireOperator
  split_ifs with hconfigured
  · exact ⟨.refl told, hanonymous⟩
  · cases hbearer : extractBearer operatorUnauthorizedMessage told.call.authorization with
    | error err => exact ⟨.refl told, hanonymous⟩
    | ok secret =>
      simp only [Prog.ofExcept_ok, Prog.bind_eq, Prog.done_bind]
      cases hdigest : compareDigest secret (strip self.operator_token) with
      | error err => exact ⟨.refl told, hanonymous⟩
      | ok same =>
        simp only [Except.mapError, Prog.ofExcept_ok, Prog.done_bind]
        split_ifs with hsame
        · subst hsame
          obtain rfl := compareDigest_eq hdigest
          exact ⟨⟨.refl told, hanonymous⟩, hconfigured, hbearer⟩
        · refine Prog.wp_bind (Prog.wp_within (Prog.wp_attempt (Prog.wp_mono ?_
            (authenticateApiKey_spec secret hanonymous))))
          rintro (err | principal) told' h
          · cases err <;> exact h
          · exact h.1

section Operators

variable {route : OperatorRoute}

theorem administered {E α : Type} {p : Edge D E α} (hroute : told.call.route = .operator route)
    (hoperator : Operator self told.call)
    (halone : ∀ step ∈ told.steps, Identifies step.1 ∨ Administers told route step.1)
    (hp : p.Asks (Administers told route)) : Prog.Spec (Permitted self) p (fun _ _ => True) told := by
  refine Prog.wp_mono (fun _ _ _ => trivial) (Prog.told_of_asks hp fun told' c hmore hsteps hc => ?_)
  refine .operator (hmore.call ▸ hroute) (by rw [hmore.call]; exact hoperator) ?_ (hc.extends hmore)
  intro step hstep
  rcases hsteps step hstep with hold | hnew
  · exact (halone step hold).imp_right fun h => h.extends hmore
  · exact .inr (hnew.extends hmore)

theorem administered_after {E α : Type} {key_id : UUID} {f : Except KeyExn (Option ApiKey) → Edge D E α}
    (hroute : told.call.route = .operator route) (hoperator : Operator self told.call)
    (halone : ∀ step ∈ told.steps, Identifies step.1 ∨ Administers told route step.1)
    (hf : ∀ found, (f found).Asks (Administers (told.after ⟨.keys, .getKey key_id⟩ found) route)) :
    Prog.Spec (Permitted self) (.call ⟨.keys, .getKey key_id⟩ f) (fun _ _ => True) told := by
  refine ⟨.operator hroute hoperator halone trivial, ?_⟩
  rintro found _ rfl
  refine administered hroute hoperator ?_ (hf found)
  intro step hstep
  rcases History.mem_after.mp hstep with hold | rfl
  · exact (halone step hold).imp_right fun h => h.extends (History.extends_after told _ found)
  · exact .inr trivial

theorem revokeApiKey_spec {key_id : UUID} (hroute : told.call.route = .operator (.deleteApiKey key_id))
    (hoperator : Operator self told.call)
    (halone : ∀ step ∈ told.steps, Identifies step.1 ∨ Administers told (.deleteApiKey key_id) step.1) :
    Prog.Spec (Permitted self) (onKeys (revokeApiKey key_id) : Edge D Empty _) (fun _ _ => True) told := by
  refine administered_after hroute hoperator halone fun found => Prog.Asks.within (P := fun c =>
    Administers (told.after ⟨.keys, .getKey key_id⟩ found) (.deleteApiKey key_id) ⟨.keys, c⟩) ?_ fun _ h => h
  cases found with
  | error err => trivial
  | ok found =>
    cases found with
    | none => trivial
    | some key =>
      simp only [Prog.ofExcept_ok, Prog.bind_eq, Prog.done_bind]
      refine Prog.Asks.bind ⟨trivial, fun _ => trivial⟩ fun now => ?_
      cases hrevoked : key.revoke now.val with
      | error err => trivial
      | ok revoked =>
        simp only [Prog.ofExcept_ok, Prog.done_bind]
        exact Prog.Asks.bind ⟨⟨key_id, rfl, key, History.last_mem _ _ _, ApiKey.revoke_eq_ok hrevoked⟩, fun _ => trivial⟩
          fun _ => Prog.Asks.bind (Prog.Asks.ofExcept _) fun _ =>
            Prog.Asks.bind (recordKeyChange_asks trivial fun _ => trivial) fun _ => trivial

theorem rotateApiKey_spec {key_id : UUID} (hroute : told.call.route = .operator (.postRotateApiKey key_id))
    (hoperator : Operator self told.call)
    (halone : ∀ step ∈ told.steps, Identifies step.1 ∨ Administers told (.postRotateApiKey key_id) step.1) :
    Prog.Spec (Permitted self) (onKeys (rotateApiKey key_id) : Edge D Empty _) (fun _ _ => True) told := by
  refine administered_after hroute hoperator halone fun found => Prog.Asks.within (P := fun c =>
    Administers (told.after ⟨.keys, .getKey key_id⟩ found) (.postRotateApiKey key_id) ⟨.keys, c⟩) ?_ fun _ h => h
  cases found with
  | error err => trivial
  | ok found =>
    cases found with
    | none => trivial
    | some key =>
      simp only [Prog.ofExcept_ok, Prog.bind_eq, Prog.done_bind]
      refine Prog.Asks.bind ⟨trivial, fun _ => trivial⟩ fun now => ?_
      cases hrevoked : key.revoke now.val with
      | error err => trivial
      | ok revoked =>
        have hrevokes := ApiKey.revoke_eq_ok hrevoked
        simp only [Prog.ofExcept_ok, Prog.done_bind]
        refine Prog.Asks.bind (Prog.Asks.bind ⟨trivial, fun _ => trivial⟩ fun _ =>
          Prog.Asks.bind (Prog.Asks.ofExcept _) fun _ => trivial) fun generated => ?_
        refine issueKey_asks trivial (fun _ => trivial) fun replacement hreplacement => ?_
        refine Prog.Asks.bind ⟨⟨key_id, rfl, ⟨key, History.last_mem _ _ _, hrevokes⟩, ?_⟩, fun _ => trivial⟩ fun _ =>
          Prog.Asks.bind (Prog.Asks.ofExcept _) fun _ =>
            Prog.Asks.bind (recordKeyChange_asks trivial fun _ => trivial) fun _ => trivial
        rw [hreplacement, hrevokes.organization_id]

theorem operatorRoute_spec (hroute : told.call.route = .operator route) (hoperator : Operator self told.call)
    (halone : ∀ step ∈ told.steps, Identifies step.1 ∨ Administers told route step.1) :
    Prog.Spec (Permitted self) (operatorRoute route : Edge D Empty Answer) (fun _ _ => True) told := by
  cases route with
  | postOrganizations name slug =>
    refine administered hroute hoperator halone ?_
    exact Prog.Asks.bind ((createOrganization_asks name slug).within fun _ h => h) fun _ => trivial
  | getOrganizationsById organization_id =>
    refine administered hroute hoperator halone ?_
    exact Prog.Asks.bind ((getOrganization_asks _ organization_id).within fun _ h => h) fun _ => trivial
  | postApiKeys organization_id name =>
    refine administered hroute hoperator halone ?_
    exact Prog.Asks.bind ((createApiKey_asks organization_id name).within fun _ h => h) fun _ => trivial
  | getApiKeys organization_id =>
    refine administered hroute hoperator halone ?_
    exact Prog.Asks.bind (getApiKeys_asks organization_id) fun _ => trivial
  | deleteApiKey key_id =>
    exact Prog.wp_seq (M := fun _ _ => True) (N := fun _ _ => True)
      (Prog.wp_mono (fun o _ _ => by cases o <;> trivial) (revokeApiKey_spec hroute hoperator halone))
      (fun _ _ _ => trivial) fun _ _ _ => trivial
  | postRotateApiKey key_id =>
    exact Prog.wp_seq (M := fun _ _ => True) (N := fun _ _ => True)
      (Prog.wp_mono (fun o _ _ => by cases o <;> trivial) (rotateApiKey_spec hroute hoperator halone))
      (fun _ _ _ => trivial) fun _ _ _ => trivial

end Operators

section Requests

variable [LinearOrder D] [Zero D]

/-- What a route of the tenants asks is of the organization of the principal. -/
theorem tenantRoute_asks (request_id : String) (principal : AuthenticatedPrincipal) (route : TenantRoute) :
    (tenantRoute self request_id principal route : Edge D String Answer).Asks (Mine principal.organization_id) := by
  cases route with
  | postMcpServers name url headers =>
    exact Prog.Asks.bind ((registerMcpServer_asks _ _ name url _).within fun _ h => h).lift fun _ => trivial
  | getMcpServers => exact Prog.Asks.bind ((listMcpServers_asks _ _).within fun _ h => h).lift fun _ => trivial
  | getMcpServerTools name =>
    exact Prog.Asks.bind (onPart_asks (listMcpServerTools_asks name)).lift fun _ => trivial
  | postPrompts name messages =>
    simp only [tenantRoute]
    cases messages.mapM fun item => PromptMessageTemplate.new item.1 item.2 with
    | error err => trivial
    | ok messages => exact Prog.Asks.bind (onPart_asks (createPromptVersion_asks name messages)).lift fun _ => trivial
  | getPrompts name => exact Prog.Asks.bind (onPart_asks (getPromptVersions_asks name)).lift fun _ => trivial
  | postSemanticChunks content embedding_model =>
    exact Prog.Asks.bind (onPart_asks (ingestSemanticChunk_asks _ content embedding_model)).lift fun _ => trivial
  | postResponses body header =>
    refine Prog.Asks.bind (Prog.Asks.within (P := MineSystem principal.organization_id) ?_ fun _ h => h) fun _ => trivial
    refine Prog.Asks.bind_ok ((PipelineRuns.prepare_asks request_id header).lift.mono fun _ => mine_of_prepares) ?_
    intro t command hprepare
    obtain ⟨before, -, hprepare⟩ := Prog.exec_lift.mp hprepare
    obtain ⟨-, horganization, -⟩ := PipelineRuns.prepare_ok hprepare
    have hserve : (serve self.application body command).Asks (ResponseScopes.Scoped principal.organization_id) := by
      rw [show principal.organization_id = command.organization_id from horganization.symm]
      exact PipelineRuns.serve_asks (ResponseScopes.execute_scoped _ _) (ResponseScopes.stream_scoped _ _)
    exact hserve.within fun _ h => h

theorem handle_spec (hanonymous : Anonymous told) :
    Prog.Spec (Permitted self) (handle self told.call : Edge D String Answer) (fun _ _ => True) told := by
  unfold handle
  cases hroute : told.call.route with
  | operator route =>
    refine Prog.wp_seq (Prog.wp_lift (requireOperator_spec hanonymous)) ?_ fun _ _ _ => trivial
    rintro _ told' ⟨⟨hmore, hidentified⟩, hoperator⟩
    exact Prog.wp_lift (operatorRoute_spec (hmore.call ▸ hroute) hoperator
      fun step hstep => .inl (hidentified step hstep))
  | tenant route =>
    refine Prog.wp_seq (Prog.wp_lift (getAuthenticatedPrincipal_spec hanonymous)) ?_ fun _ _ _ => trivial
    rintro principal told' ⟨⟨hmore, hidentified⟩, hproven⟩
    refine Prog.wp_mono (fun _ _ _ => trivial) (Prog.told_of_asks (tenantRoute_asks _ principal route) ?_)
    intro later c hlater hsteps hc
    exact .tenant ((hmore.trans hlater).call ▸ hroute) (hproven.extends hlater)
      (fun step hstep => (hsteps step hstep).imp_left (hidentified step)) hc

end Requests

end Spec

section Store

def auditClash (a b : AccountingRecords.AuditEvent) : Bool := a.id = b.id

/-- The tables that requests write: organizations and tool servers, keys, prompts, knowledge, usage and audit. -/
structure Database where
  registry : RegistryRuns.RegistryStore
  api_keys : KeyStores.KeyTable
  prompts : Table PromptTemplateRow PromptVersions.promptClash
  chunks : Table SemanticChunkRow KnowledgeRuns.chunkClash
  usage_records : Table AccountingRecords.UsageRecord usageClash
  audit_events : Table AccountingRecords.AuditEvent auditClash

inductive Record where
  | server (row : McpServerRow)
  | prompt (row : PromptTemplateRow)
  | chunk (row : SemanticChunkRow)
  | usage (row : AccountingRecords.UsageRecord)

def Record.organization_id : Record → UUID
  | .server row => row.organization_id
  | .prompt row => row.organization_id
  | .chunk row => row.organization_id
  | .usage row => row.organization_id

def Database.Holds (w : Database) : Record → Prop
  | .server row => .server row ∈ w.registry.rows
  | .prompt row => row ∈ w.prompts.rows
  | .chunk row => row ∈ w.chunks.rows
  | .usage row => row ∈ w.usage_records.rows

def recordOf (column : KnowledgeRuns.VectorColumn) : EdgeCommand → Option Record
  | ⟨.registry, .insertCommit (.server row)⟩ => some (.server row)
  | ⟨.system, ⟨.prompts, .insertCommit row⟩⟩ => some (.prompt row)
  | ⟨.system, ⟨.knowledge, .insertCommit row⟩⟩ => (column.kept row).map .chunk
  | ⟨.system, ⟨.service, .addUsage row⟩⟩ => some (.usage row)
  | _ => none

def Issues (key : ApiKey) : EdgeCommand → Prop
  | ⟨.keys, .addKey issued⟩ => issued = key
  | ⟨.keys, .revokeAndAdd _ replacement⟩ => replacement = key
  | _ => False

def Retires (key : ApiKey) : EdgeCommand → Prop
  | ⟨.keys, .saveKey revoked⟩ => revoked = key
  | ⟨.keys, .revokeAndAdd revoked _⟩ => revoked = key
  | _ => False

def Audits (event : AccountingRecords.AuditEvent) : EdgeCommand → Prop
  | ⟨.keys, .addAudit added⟩ => added = event
  | ⟨.system, ⟨.service, .addAudit added⟩⟩ => added = event
  | _ => False

def Applies (column : KnowledgeRuns.VectorColumn) (w : Database) : EdgeCommand → Database → Prop
  | ⟨.registry, .insertCommit row⟩, w' =>
    ∃ registry, w.registry.Referenced row ∧ w.registry.insert row = some registry ∧ w' = { w with registry := registry }
  | ⟨.keys, .addKey key⟩, w' => ∃ api_keys, w.api_keys.insert key = some api_keys ∧ w' = { w with api_keys := api_keys }
  | ⟨.keys, .saveKey key⟩, w' => (w.api_keys.get key.id).isSome ∧ w' = { w with api_keys := w.api_keys.update key }
  | ⟨.keys, .revokeAndAdd revoked replacement⟩, w' =>
    (w.api_keys.get revoked.id).isSome ∧ ∃ api_keys, (w.api_keys.update revoked).insert replacement = some api_keys ∧
      w' = { w with api_keys := api_keys }
  | ⟨.system, ⟨.prompts, .insertCommit row⟩⟩, w' =>
    ∃ prompts, w.prompts.insert row = some prompts ∧ w' = { w with prompts := prompts }
  | ⟨.system, ⟨.knowledge, .insertCommit row⟩⟩, w' =>
    ∃ kept chunks, column.kept row = some kept ∧ w.chunks.insert kept = some chunks ∧ w' = { w with chunks := chunks }
  | ⟨.system, ⟨.service, .addUsage row⟩⟩, w' =>
    ∃ usage_records, w.usage_records.insert row = some usage_records ∧ w' = { w with usage_records := usage_records }
  | ⟨.keys, .addAudit event⟩, w' =>
    ∃ audit_events, w.audit_events.insert event = some audit_events ∧ w' = { w with audit_events := audit_events }
  | ⟨.system, ⟨.service, .addAudit event⟩⟩, w' =>
    ∃ audit_events, w.audit_events.insert event = some audit_events ∧ w' = { w with audit_events := audit_events }
  | _, _ => False

def Stored (w : Database) : (c : EdgeCommand) → EdgeResponse D c → Prop
  | ⟨.keys, .findByPrefix keyPrefix⟩, r =>
    ∀ candidates, r = .ok candidates → ∀ key ∈ candidates, key ∈ w.api_keys.rows ∧ key.keyPrefix = keyPrefix
  | ⟨.keys, .getKey key_id⟩, r => ∀ key, r = .ok (some key) → w.api_keys.get key_id = some key
  | ⟨.keys, .getOrganization organization_id⟩, r => ∀ organization, r = .ok (some organization) →
    organization.id = organization_id ∧ ∃ row ∈ w.registry.organizations, row.id = organization_id
  | _, _ => True

/-- A command may fail before or after it is carried out, and what is of no account here is answered in any way. -/
def concurrent (column : KnowledgeRuns.VectorColumn) : Arbiter ι EdgeCommand (EdgeResponse D) Database where
  reply := fun _ w c r w' => Stored w c r ∧ (w' = w ∨ Applies column w c w')
  drift := fun w w' => w' = w

end Store

section Steps

variable {column : KnowledgeRuns.VectorColumn} {w w' : Database} {c : EdgeCommand}

structure Effect (column : KnowledgeRuns.VectorColumn) (w : Database) (c : EdgeCommand) (w' : Database) : Prop where
  organizations : ∀ row ∈ w'.registry.organizations,
    row ∈ w.registry.organizations ∨ c = ⟨.registry, .insertCommit (.organization row)⟩
  keys : ∀ key ∈ w'.api_keys.rows, key ∈ w.api_keys.rows ∨ Issues key c ∨ Retires key c
  records : ∀ record, w'.Holds record → w.Holds record ∨ recordOf column c = some record
  audits : ∀ event ∈ w'.audit_events.rows, event ∈ w.audit_events.rows ∨ Audits event c
  kept : ∀ key ∈ w.api_keys.rows, ∃ key' ∈ w'.api_keys.rows, key'.id = key.id ∧ (key' = key ∨ Retires key' c)

theorem Effect.refl (w : Database) (c : EdgeCommand) : Effect column w c w :=
  ⟨fun _ h => .inl h, fun _ h => .inl h, fun _ h => .inl h, fun _ h => .inl h, fun key h => ⟨key, h, rfl, .inl rfl⟩⟩

theorem registry_effect {row : Row} {registry : RegistryRuns.RegistryStore}
    (h : registry.rows = w.registry.rows ++ [row]) :
    Effect column w ⟨.registry, .insertCommit row⟩ { w with registry := registry } := by
  refine ⟨?_, fun _ h => .inl h, ?_, fun _ h => .inl h, fun key h => ⟨key, h, rfl, .inl rfl⟩⟩
  · intro organization hrow
    rw [RegistryRuns.RegistryStore.mem_organizations] at hrow ⊢
    rw [h] at hrow
    refine (List.mem_append.mp hrow).imp_right fun hnew => ?_
    rw [List.mem_singleton.mp hnew]
  · intro record hrecord
    cases record with
    | server server =>
      change _ ∈ registry.rows at hrecord
      rw [h] at hrecord
      refine (List.mem_append.mp hrecord).imp_right fun hnew => ?_
      rw [← List.mem_singleton.mp hnew]
      rfl
    | prompt row => exact .inl hrecord
    | chunk row => exact .inl hrecord
    | usage row => exact .inl hrecord

theorem keys_effect {api_keys : KeyStores.KeyTable}
    (hkeys : ∀ key ∈ api_keys.rows, key ∈ w.api_keys.rows ∨ Issues key c ∨ Retires key c)
    (hkept : ∀ key ∈ w.api_keys.rows, ∃ key' ∈ api_keys.rows, key'.id = key.id ∧ (key' = key ∨ Retires key' c)) :
    Effect column w c { w with api_keys := api_keys } := by
  refine ⟨fun _ h => .inl h, hkeys, fun record h => .inl ?_, fun _ h => .inl h, hkept⟩
  cases record <;> exact h

theorem mem_update_or {table : KeyStores.KeyTable} {revoked key : ApiKey} (h : key ∈ (table.update revoked).rows) :
    key ∈ table.rows ∨ revoked = key := by
  obtain ⟨row, hrow, rfl⟩ := List.mem_map.mp h
  unfold KeyStores.replaceRow
  split_ifs
  · exact .inr rfl
  · exact .inl hrow

theorem update_kept {table : KeyStores.KeyTable} {revoked key : ApiKey} (h : key ∈ table.rows) :
    ∃ key' ∈ (table.update revoked).rows, key'.id = key.id ∧ (key' = key ∨ revoked = key') := by
  refine ⟨KeyStores.replaceRow revoked key, List.mem_map_of_mem h, KeyStores.replaceRow_id revoked key, ?_⟩
  unfold KeyStores.replaceRow
  split_ifs
  · exact .inr rfl
  · exact .inl rfl

theorem audits_effect {event : AccountingRecords.AuditEvent}
    {audit_events : Table AccountingRecords.AuditEvent auditClash}
    (h : audit_events.rows = w.audit_events.rows ++ [event]) (haudits : Audits event c) :
    Effect column w c { w with audit_events := audit_events } := by
  refine ⟨fun _ h => .inl h, fun _ h => .inl h, fun record h => .inl ?_, ?_, fun key h => ⟨key, h, rfl, .inl rfl⟩⟩
  · cases record <;> exact h
  · intro added hadded
    change _ ∈ audit_events.rows at hadded
    rw [h] at hadded
    refine (List.mem_append.mp hadded).imp_right fun hnew => ?_
    rw [List.mem_singleton.mp hnew]
    exact haudits

theorem record_effect {record : Record} (hregistry : w'.registry = w.registry) (hkeys : w'.api_keys = w.api_keys)
    (haudits : w'.audit_events = w.audit_events) (hwrites : recordOf column c = some record)
    (hholds : ∀ other, w'.Holds other → w.Holds other ∨ other = record) : Effect column w c w' := by
  refine ⟨?_, ?_, ?_, ?_, ?_⟩
  · rw [hregistry]
    exact fun _ h => .inl h
  · rw [hkeys]
    exact fun _ h => .inl h
  · intro other h
    refine (hholds other h).imp_right ?_
    rintro rfl
    exact hwrites
  · rw [haudits]
    exact fun _ h => .inl h
  · rw [hkeys]
    exact fun key h => ⟨key, h, rfl, .inl rfl⟩

theorem applies_effect (h : Applies column w c w') : Effect column w c w' := by
  unfold Applies at h
  split at h
  · obtain ⟨registry, -, hinsert, rfl⟩ := h
    exact registry_effect (Table.insert_some hinsert)
  · obtain ⟨api_keys, hinsert, rfl⟩ := h
    refine keys_effect (fun key hkey => ?_) fun key hkey => ?_
    · exact (Table.mem_inserted hinsert hkey).imp_right fun hnew => .inl hnew.symm
    · exact ⟨key, by rw [Table.insert_some hinsert]; exact List.mem_append_left _ hkey, rfl, .inl rfl⟩
  · obtain ⟨-, rfl⟩ := h
    exact keys_effect (fun key hkey => (mem_update_or hkey).imp_right .inr) fun key => update_kept
  · obtain ⟨-, api_keys, hinsert, rfl⟩ := h
    refine keys_effect (fun key hkey => ?_) fun key hkey => ?_
    · rcases Table.mem_inserted hinsert hkey with hold | hnew
      · exact (mem_update_or hold).imp_right .inr
      · exact .inr (.inl hnew.symm)
    · obtain ⟨key', hkey', hid, hsame⟩ := update_kept hkey
      exact ⟨key', by rw [Table.insert_some hinsert]; exact List.mem_append_left _ hkey', hid, hsame⟩
  · obtain ⟨prompts, hinsert, rfl⟩ := h
    refine record_effect rfl rfl rfl rfl fun record hrecord => ?_
    cases record with
    | prompt row => exact (Table.mem_inserted hinsert hrecord).imp_right (congrArg Record.prompt)
    | _ => exact .inl hrecord
  · obtain ⟨kept, chunks, hkept, hinsert, rfl⟩ := h
    refine record_effect rfl rfl rfl (congrArg (Option.map Record.chunk) hkept) fun record hrecord => ?_
    cases record with
    | chunk row => exact (Table.mem_inserted hinsert hrecord).imp_right (congrArg Record.chunk)
    | _ => exact .inl hrecord
  · obtain ⟨usage_records, hinsert, rfl⟩ := h
    refine record_effect rfl rfl rfl rfl fun record hrecord => ?_
    cases record with
    | usage row => exact (Table.mem_inserted hinsert hrecord).imp_right (congrArg Record.usage)
    | _ => exact .inl hrecord
  · obtain ⟨audit_events, hinsert, rfl⟩ := h
    exact audits_effect (Table.insert_some hinsert) rfl
  · obtain ⟨audit_events, hinsert, rfl⟩ := h
    exact audits_effect (Table.insert_some hinsert) rfl
  · exact h.elim

theorem replies_effect {i : ι} {r : EdgeResponse D c} (h : (concurrent column).reply i w c r w') :
    Effect column w c w' := by
  rcases h.2 with rfl | h
  · exact .refl _ c
  · exact applies_effect h

end Steps

section Trust

variable {self : Deployment} {column : KnowledgeRuns.VectorColumn} {w₀ w w' : Database} {g g' : ι → Told D} {i : ι}
  {c : EdgeCommand} {r : EdgeResponse D c}

/-- The organization was there from the start, or the request of an operator to create it stored it. -/
def Founded (self : Deployment) (w₀ : Database) (g : ι → Told D) (row : OrganizationRow) : Prop :=
  row ∈ w₀.registry.organizations ∨
    ∃ i, Operator self (g i).call ∧ (g i).call.route = .operator (.postOrganizations row.name row.slug) ∧
      ∃ step ∈ (g i).steps, step.1 = ⟨.registry, .insertCommit (.organization row)⟩

def Sponsored (self : Deployment) (w₀ : Database) (g : ι → Told D) (organization_id : UUID) : Prop :=
  (∃ key ∈ w₀.api_keys.rows, key.organization_id = organization_id) ∨
    ∃ i name, Operator self (g i).call ∧ (g i).call.route = .operator (.postApiKeys organization_id name)

def Issued (self : Deployment) (w₀ : Database) (g : ι → Told D) (key : ApiKey) : Prop :=
  key ∈ w₀.api_keys.rows ∨ ∃ i, Operator self (g i).call ∧ ∃ step ∈ (g i).steps, Issues key step.1

/-- The key was there from the start, was issued, or stands revoked since the request of an operator. An active one
was issued. -/
structure Granted (deployment : Deployment) (w₀ : Database) (g : ι → Told D) (key : ApiKey) : Prop where
  sponsored : Sponsored deployment w₀ g key.organization_id
  stored : Issued deployment w₀ g key ∨ ∃ i, Operator deployment (g i).call ∧ ∃ step ∈ (g i).steps, Retires key step.1
  issued : key.status = .active → Issued deployment w₀ g key

/-- The request of a tenant that showed the secret of an active key of the organization, which is not suspended,
where the organization and the key go back to an operator. -/
structure Admitted (deployment : Deployment) (w₀ : Database) (g : ι → Told D) (i : ι) (organization_id : UUID) :
    Prop where
  tenant : ∃ route, (g i).call.route = .tenant route
  founded : ∃ row, row.id = organization_id ∧ Founded deployment w₀ g row
  shown : ∃ secret key organization, extractBearer unauthorizedMessage (g i).call.authorization = .ok secret ∧
    Shows deployment.verify_secret secret (g i) key organization ∧ organization.id = organization_id ∧
      key.organization_id = organization_id ∧ Issued deployment w₀ g key ∧ Sponsored deployment w₀ g organization_id

/-- Whose requests may store an event: an operator's, and a tenant's of its organization. -/
def Accountable (self : Deployment) (w₀ : Database) (g : ι → Told D) (i : ι) (event : AccountingRecords.AuditEvent) :
    Prop :=
  (Operator self (g i).call ∧ ∃ route, (g i).call.route = .operator route) ∨
    ∃ organization_id, event.organization_id = some organization_id ∧ Admitted self w₀ g i organization_id

/-- Every row was there from the start or goes back to the request that stored it, and so does what requests were told
of keys and organizations. -/
structure Trusted (deployment : Deployment) (column : KnowledgeRuns.VectorColumn) (w₀ w : Database) (g : ι → Told D) :
    Prop where
  organizations : ∀ row ∈ w.registry.organizations, Founded deployment w₀ g row
  keys : ∀ key ∈ w.api_keys.rows, Granted deployment w₀ g key
  records : ∀ record, w.Holds record → w₀.Holds record ∨ ∃ i, Admitted deployment w₀ g i record.organization_id ∧
    ∃ step ∈ (g i).steps, recordOf column step.1 = some record
  audits : ∀ event ∈ w.audit_events.rows, event ∈ w₀.audit_events.rows ∨ ∃ i, Accountable deployment w₀ g i event ∧
    ∃ step ∈ (g i).steps, Audits event step.1
  candidates : ∀ i keyPrefix candidates, ⟨⟨.keys, .findByPrefix keyPrefix⟩, .ok candidates⟩ ∈ (g i).steps →
    ∀ key ∈ candidates, Granted deployment w₀ g key
  lookups : ∀ i key_id key, ⟨⟨.keys, .getKey key_id⟩, .ok (some key)⟩ ∈ (g i).steps → Granted deployment w₀ g key
  reads : ∀ i organization_id organization,
    ⟨⟨.keys, .getOrganization organization_id⟩, .ok (some organization)⟩ ∈ (g i).steps →
      organization.id = organization_id ∧ ∃ row, row.id = organization_id ∧ Founded deployment w₀ g row

theorem Founded.later {row : OrganizationRow} (h : Founded self w₀ g row) (hlater : History.Later g g') :
    Founded self w₀ g' row := by
  refine h.imp_right ?_
  rintro ⟨i, hoperator, hroute, step, hstep, hrow⟩
  rw [← (hlater i).call] at hoperator hroute
  exact ⟨i, hoperator, hroute, step, (hlater i).steps step hstep, hrow⟩

theorem Sponsored.later {organization_id : UUID} (h : Sponsored self w₀ g organization_id)
    (hlater : History.Later g g') : Sponsored self w₀ g' organization_id := by
  refine h.imp_right ?_
  rintro ⟨i, name, hoperator, hroute⟩
  rw [← (hlater i).call] at hoperator hroute
  exact ⟨i, name, hoperator, hroute⟩

theorem Issued.later {key : ApiKey} (h : Issued self w₀ g key) (hlater : History.Later g g') :
    Issued self w₀ g' key := by
  refine h.imp_right ?_
  rintro ⟨i, hoperator, step, hstep, hissues⟩
  rw [← (hlater i).call] at hoperator
  exact ⟨i, hoperator, step, (hlater i).steps step hstep, hissues⟩

theorem Granted.later {key : ApiKey} (h : Granted self w₀ g key) (hlater : History.Later g g') :
    Granted self w₀ g' key := by
  refine ⟨h.sponsored.later hlater, ?_, fun hactive => (h.issued hactive).later hlater⟩
  rcases h.stored with hissued | ⟨i, hoperator, step, hstep, hretires⟩
  · exact .inl (hissued.later hlater)
  · rw [← (hlater i).call] at hoperator
    exact .inr ⟨i, hoperator, step, (hlater i).steps step hstep, hretires⟩

theorem Admitted.later {organization_id : UUID} (h : Admitted self w₀ g i organization_id)
    (hlater : History.Later g g') : Admitted self w₀ g' i organization_id := by
  obtain ⟨row, hid, hfounded⟩ := h.founded
  obtain ⟨secret, key, organization, hsecret, hshows, hread, howner, hissued, hsponsored⟩ := h.shown
  rw [← (hlater i).call] at hsecret
  exact ⟨by rw [(hlater i).call]; exact h.tenant, ⟨row, hid, hfounded.later hlater⟩,
    ⟨secret, key, organization, hsecret, hshows.extends (hlater i), hread, howner, hissued.later hlater,
      hsponsored.later hlater⟩⟩

theorem Accountable.later {event : AccountingRecords.AuditEvent} (h : Accountable self w₀ g i event)
    (hlater : History.Later g g') : Accountable self w₀ g' i event := by
  rcases h with ⟨hoperator, hroute⟩ | ⟨organization_id, howner, hadmitted⟩
  · rw [← (hlater i).call] at hoperator hroute
    exact .inl ⟨hoperator, hroute⟩
  · exact .inr ⟨organization_id, howner, hadmitted.later hlater⟩

theorem founds_of_permitted (h : Permitted self (g i) c) {row : OrganizationRow}
    (hc : c = ⟨.registry, .insertCommit (.organization row)⟩) :
    Operator self (g i).call ∧ (g i).call.route = .operator (.postOrganizations row.name row.slug) := by
  subst hc
  cases h with
  | identifies h => exact h.elim
  | operator hroute hoperator halone h =>
    have hcreates : _ = OperatorRoute.postOrganizations row.name row.slug := h
    exact ⟨hoperator, by rw [hroute, hcreates]⟩
  | tenant hroute hproven halone h => exact h.elim

/-- Only an operator issues a key, to an organization that it names or whose key it replaces. -/
theorem issues_of_permitted (htrusted : Trusted self column w₀ w g) (h : Permitted self (g i) c) {key : ApiKey}
    (hissues : Issues key c) : Operator self (g i).call ∧ Sponsored self w₀ g key.organization_id := by
  unfold Issues at hissues
  split at hissues
  · subst hissues
    cases h with
    | identifies h => exact h.elim
    | operator hroute hoperator halone h =>
      obtain ⟨name, hcreates⟩ := h
      exact ⟨hoperator, .inr ⟨i, name, hoperator, by rw [hroute, hcreates]⟩⟩
    | tenant hroute hproven halone h => exact h.elim
  · subst hissues
    cases h with
    | identifies h => exact h.elim
    | operator hroute hoperator halone h =>
      obtain ⟨key_id, -, ⟨old, hread, hrevoked⟩, hsame⟩ := h
      refine ⟨hoperator, ?_⟩
      rw [hsame, hrevoked.organization_id]
      exact (htrusted.lookups i key_id old hread).sponsored
    | tenant hroute hproven halone h => exact h.elim
  · exact hissues.elim

/-- What takes the place of a key is revoked, and of the same organization. -/
theorem retires_of_permitted (htrusted : Trusted self column w₀ w g) (h : Permitted self (g i) c) {key : ApiKey}
    (hretires : Retires key c) :
    Operator self (g i).call ∧ key.status = .revoked ∧ Sponsored self w₀ g key.organization_id := by
  have hrevokes : Operator self (g i).call ∧ ∃ key_id, Revokes (g i) key_id key := by
    unfold Retires at hretires
    split at hretires
    · subst hretires
      cases h with
      | identifies h => exact h.elim
      | operator hroute hoperator halone h =>
        obtain ⟨key_id, -, hrevokes⟩ := h
        exact ⟨hoperator, key_id, hrevokes⟩
      | tenant hroute hproven halone h => exact h.elim
    · subst hretires
      cases h with
      | identifies h => exact h.elim
      | operator hroute hoperator halone h =>
        obtain ⟨key_id, -, hrevokes, -⟩ := h
        exact ⟨hoperator, key_id, hrevokes⟩
      | tenant hroute hproven halone h => exact h.elim
    · exact hretires.elim
  obtain ⟨hoperator, key_id, old, hread, hrevoked⟩ := hrevokes
  refine ⟨hoperator, hrevoked.status, ?_⟩
  rw [hrevoked.organization_id]
  exact (htrusted.lookups i key_id old hread).sponsored

theorem record_of_permitted (h : Permitted self (g i) c) {record : Record}
    (hrecord : recordOf column c = some record) :
    ∃ route principal, (g i).call.route = .tenant route ∧ Proven self (g i) principal ∧
      principal.organization_id = record.organization_id := by
  have hwrites : ∀ {organization_id : UUID}, (∀ route, ¬ Administers (g i) route c) → ¬ Identifies c →
      (∀ o, Mine o c → o = organization_id) → record.organization_id = organization_id →
        ∃ route principal, (g i).call.route = .tenant route ∧ Proven self (g i) principal ∧
          principal.organization_id = record.organization_id := by
    intro organization_id hoperators hanyone hmine howner
    cases h with
    | identifies h => exact absurd h hanyone
    | operator hroute hoperator halone h => exact absurd h (hoperators _)
    | tenant hroute hproven halone h => exact ⟨_, _, hroute, hproven, (hmine _ h).trans howner.symm⟩
  unfold recordOf at hrecord
  split at hrecord
  · cases hrecord
    exact hwrites (fun _ => id) id (fun _ h => h.symm) rfl
  · cases hrecord
    exact hwrites (fun _ => id) id (fun _ h => h.symm) rfl
  · obtain ⟨kept, hkept, rfl⟩ := Option.map_eq_some_iff.mp hrecord
    obtain ⟨embedding, -, rfl⟩ := Option.map_eq_some_iff.mp hkept
    exact hwrites (fun _ => id) id (fun _ h => h.symm) rfl
  · cases hrecord
    exact hwrites (fun _ => id) id (fun _ h => h.symm) rfl
  · cases hrecord

theorem admitted_of_proven (htrusted : Trusted self column w₀ w g) {route : TenantRoute}
    {principal : AuthenticatedPrincipal}
    (hroute : (g i).call.route = .tenant route) (h : Proven self (g i) principal) :
    Admitted self w₀ g i principal.organization_id := by
  obtain ⟨secret, key, organization, hsecret, hshows, howner, -⟩ := h
  obtain ⟨candidates, hfound, hmem⟩ := hshows.found
  obtain ⟨hid, row, hrow, hfounded⟩ := htrusted.reads i _ _ hshows.read
  have hgranted := htrusted.candidates i _ _ hfound key hmem
  have hsame : key.organization_id = principal.organization_id := by rw [howner, hid]
  exact ⟨⟨route, hroute⟩, ⟨row, hrow.trans hsame, hfounded⟩, ⟨secret, key, organization, hsecret, hshows, howner.symm,
    hsame, hgranted.issued hshows.active, hsame ▸ hgranted.sponsored⟩⟩

/-- Only an operator stores an event, or a tenant one of its organization. -/
theorem audits_of_permitted (htrusted : Trusted self column w₀ w g) (h : Permitted self (g i) c)
    {event : AccountingRecords.AuditEvent} (haudits : Audits event c) : Accountable self w₀ g i event := by
  unfold Audits at haudits
  split at haudits
  · subst haudits
    cases h with
    | identifies h => exact h.elim
    | operator hroute hoperator halone h => exact .inl ⟨hoperator, _, hroute⟩
    | tenant hroute hproven halone h => exact h.elim
  · subst haudits
    cases h with
    | identifies h => exact h.elim
    | operator hroute hoperator halone h => exact h.elim
    | tenant hroute hproven halone h => exact .inr ⟨_, h, admitted_of_proven htrusted hroute hproven⟩
  · exact haudits.elim

theorem Trusted.start (requests : ι → HttpRequest) :
    Trusted self column w₀ w₀ fun i => (⟨requests i, []⟩ : Told D) :=
  ⟨fun _ h => .inl h, fun key h => ⟨.inl ⟨key, h, rfl⟩, .inl (.inl h), fun _ => .inl h⟩, fun _ h => .inl h,
    fun _ h => .inl h, fun _ _ _ h => absurd h List.not_mem_nil, fun _ _ _ h => absurd h List.not_mem_nil,
    fun _ _ _ h => absurd h List.not_mem_nil⟩

variable [DecidableEq ι]

section Answering

variable {r : EdgeResponse D c}

theorem founded_kept (htrusted : Trusted self column w₀ w g) (hmay : Permitted self (g i) c)
    (heffect : Effect column w c w') {row : OrganizationRow} (hrow : row ∈ w'.registry.organizations) :
    Founded self w₀ (Function.update g i ((g i).after c r)) row := by
  have hlater := History.later_after g i c r
  rcases heffect.organizations row hrow with hold | hfounds
  · exact (htrusted.organizations row hold).later hlater
  · obtain ⟨hoperator, hroute⟩ := founds_of_permitted hmay hfounds
    rw [← (hlater i).call] at hoperator hroute
    exact .inr ⟨i, hoperator, hroute, _, History.new_mem g i c r, hfounds⟩

theorem granted_kept (htrusted : Trusted self column w₀ w g) (hmay : Permitted self (g i) c)
    (heffect : Effect column w c w') {key : ApiKey} (hkey : key ∈ w'.api_keys.rows) :
    Granted self w₀ (Function.update g i ((g i).after c r)) key := by
  have hlater := History.later_after g i c r
  have hnew := History.new_mem g i c r
  rcases heffect.keys key hkey with hold | hissues | hretires
  · exact (htrusted.keys key hold).later hlater
  · obtain ⟨hoperator, hsponsored⟩ := issues_of_permitted htrusted hmay hissues
    rw [← (hlater i).call] at hoperator
    have hissued : Issued self w₀ _ key := .inr ⟨i, hoperator, _, hnew, hissues⟩
    exact ⟨hsponsored.later hlater, .inl hissued, fun _ => hissued⟩
  · obtain ⟨hoperator, hrevoked, hsponsored⟩ := retires_of_permitted htrusted hmay hretires
    rw [← (hlater i).call] at hoperator
    refine ⟨hsponsored.later hlater, .inr ⟨i, hoperator, _, hnew, hretires⟩, fun hactive => ?_⟩
    rw [hrevoked] at hactive
    cases hactive

/-- Whatever is asked and however it is answered, every row goes back to an operator. -/
theorem trusted_keeps :
    Pool.Keeps (ι := ι) (concurrent column : Arbiter ι EdgeCommand (EdgeResponse D) Database) History.after
    (fun _ _ _ _ => True) (Permitted self) (Trusted self column w₀) where
  answered := by
    intro w g i c r w' h hmay _ hreply
    have hlater := History.later_after g i c r
    have heffect := replies_effect hreply
    have hnew := History.new_mem g i c r
    refine ⟨fun row => founded_kept h hmay heffect, fun key => granted_kept h hmay heffect, ?_, ?_, ?_, ?_, ?_⟩
    · intro record hrecord
      rcases heffect.records record hrecord with hold | hwrites
      · refine (h.records record hold).imp_right ?_
        rintro ⟨j, hj, step, hstep, hwrote⟩
        exact ⟨j, hj.later hlater, step, (hlater j).steps step hstep, hwrote⟩
      · obtain ⟨route, principal, hroute, hproven, howner⟩ := record_of_permitted hmay hwrites
        refine .inr ⟨i, ?_, _, hnew, hwrites⟩
        rw [← howner]
        exact (admitted_of_proven h hroute hproven).later hlater
    · intro event hevent
      rcases heffect.audits event hevent with hold | haudits
      · refine (h.audits event hold).imp_right ?_
        rintro ⟨j, hj, step, hstep, hwrote⟩
        exact ⟨j, hj.later hlater, step, (hlater j).steps step hstep, hwrote⟩
      · exact .inr ⟨i, (audits_of_permitted h hmay haudits).later hlater, _, hnew, haudits⟩
    · intro j keyPrefix candidates hmem key hkey
      rcases History.mem_update hmem with hold | ⟨-, hnew⟩
      · exact (h.candidates j _ _ hold key hkey).later hlater
      · cases hnew
        exact (h.keys key (hreply.1 candidates rfl key hkey).1).later hlater
    · intro j key_id key hmem
      rcases History.mem_update hmem with hold | ⟨-, hnew⟩
      · exact (h.lookups j _ _ hold).later hlater
      · cases hnew
        exact (h.keys key (KeyStores.KeyTable.get_some (hreply.1 key rfl)).1).later hlater
    · intro j organization_id organization hmem
      rcases History.mem_update hmem with hold | ⟨-, hnew⟩
      · obtain ⟨hid, row, hrow, hfounded⟩ := h.reads j _ _ hold
        exact ⟨hid, row, hrow, hfounded.later hlater⟩
      · cases hnew
        obtain ⟨hid, row, hrow, hsame⟩ := hreply.1 organization rfl
        exact ⟨hid, row, hsame, (h.organizations row hrow).later hlater⟩
  drifted := by
    rintro w g w' h rfl
    exact h

end Answering

theorem acts_keeps :
    Pool.Keeps (ι := ι) (concurrent column : Arbiter ι EdgeCommand (EdgeResponse D) Database) History.after
    (fun _ _ _ _ => True) (Permitted self) fun _ g => ∀ i, ActsFor self (g i) where
  answered := by
    intro w g i c r w' h hmay _ _ j
    by_cases hj : j = i
    · subst hj
      rw [Function.update_self]
      exact (h j).after hmay r
    · rw [Function.update_of_ne hj]
      exact h j
  drifted := fun _ _ _ h _ => h

def Spent (w : Database) (key_id : UUID) : Prop := ∃ row ∈ w.api_keys.rows, row.id = key_id ∧ row.status = .revoked

/-- A key that is revoked stays so, and a request is told so that was told nothing before. -/
theorem spent_keeps (key_id : UUID) (i : ι) :
    Pool.Keeps (ι := ι) (concurrent column : Arbiter ι EdgeCommand (EdgeResponse D) Database) History.after
      (fun _ _ _ _ => True) (Permitted self) fun w g => Trusted self column w₀ w g ∧ Spent w key_id ∧
        ∀ keyPrefix candidates, ⟨⟨.keys, .findByPrefix keyPrefix⟩, .ok candidates⟩ ∈ (g i).steps →
          ∀ key ∈ candidates, key.id = key_id → key.status = .revoked where
  answered := by
    rintro w g j c r w' ⟨htrusted, hspent, htold⟩ hmay hguard hreply
    obtain ⟨row, hrow, hid, hstatus⟩ := hspent
    refine ⟨trusted_keeps.answered w g j c r w' htrusted hmay hguard hreply, ?_, ?_⟩
    · obtain ⟨row', hrow', hid', hsame | hretires⟩ := (replies_effect hreply).kept row hrow
      · exact ⟨row', hrow', hid'.trans hid, by rw [hsame]; exact hstatus⟩
      · exact ⟨row', hrow', hid'.trans hid, (retires_of_permitted htrusted hmay hretires).2.1⟩
    · intro keyPrefix candidates hmem key hkey hkid
      rcases History.mem_update hmem with hold | ⟨rfl, hnew⟩
      · exact htold _ _ hold key hkey hkid
      · cases hnew
        have hstored := (hreply.1 candidates rfl key hkey).1
        rw [w.api_keys.unique hstored hrow (hkid.trans hid.symm)]
        exact hstatus
  drifted := by
    rintro w g w' h rfl
    exact h

end Trust

section Runs

variable [LinearOrder D] [Zero D]

abbrev Edges (ι D : Type) := Pool ι EdgeCommand (EdgeResponse D) String EdgeExn Answer Database (Told D)

def start (self : Deployment) (requests : ι → HttpRequest) (w₀ : Database) : Edges ι D :=
  ⟨w₀, fun i => handle self (requests i), fun i => ⟨requests i, []⟩⟩

variable [DecidableEq ι] {self : Deployment} {column : KnowledgeRuns.VectorColumn} {requests : ι → HttpRequest}
  {w₀ : Database} {pool pool' : Edges ι D}

abbrev Runs (column : KnowledgeRuns.VectorColumn) (pool pool' : Edges ι D) : Prop :=
  Pool.Reaches (concurrent column) History.after (fun _ _ _ _ => True) pool pool'

omit [DecidableEq ι] in
theorem start_disciplined (self : Deployment) (requests : ι → HttpRequest) (w₀ : Database) :
    Pool.Disciplined History.after (Permitted self) (start self requests w₀ : Edges ι D) := by
  intro i
  have hspec := @handle_spec D self ⟨requests i, []⟩ _ _ fun _ h => absurd h List.not_mem_nil
  exact hspec

section Samples

/-- An operator that founds an organization, issues it a key and revokes the key, and the bearer of the key. -/
inductive Client where
  | founding
  | issuing
  | revoking
  | bearer
deriving DecidableEq

def deployment : Deployment :=
  ⟨PipelineRuns.application, RegistryRuns.splitUrl, KeyLifecycle.sampleVerify, "operator-token"⟩

/-- The organization gets the id 1 and its key the id 2. -/
def requestOf : Client → HttpRequest
  | .founding => ⟨some "Bearer operator-token", "req_1", .operator (.postOrganizations "Acme" "acme")⟩
  | .issuing => ⟨some "Bearer operator-token", "req_2", .operator (.postApiKeys ⟨1⟩ none)⟩
  | .revoking => ⟨some "Bearer operator-token", "req_3", .operator (.deleteApiKey ⟨2⟩)⟩
  | .bearer => ⟨some "Bearer airt_xxxxxxxx", "req_4", .tenant (.postPrompts "greeting" [(.user, "Hello")])⟩

def noEntries {Row : Type} {clash : Row → Row → Bool} : Table Row clash := ⟨[], List.Pairwise.nil⟩

def emptyTables : Database := ⟨RegistryRuns.noRows, noEntries, noEntries, noEntries, noEntries, noEntries⟩

def readOrganization (w : Database) (id : UUID) : Option ApiKeyRecords.Organization :=
  (w.registry.organizations.find? fun row => row.id = id).bind fun row => (TenantRecords.toDomain row).toOption

def keysAnswer (i : Client) (w : Database) : (c : KeyCommand) → Option (KeyResponse c × Database)
  | .utcNow => some (ServiceRuns.noon, w)
  | .uuid4 => some (if i = .issuing then ⟨2⟩ else ⟨4⟩, w)
  | .tokenUrlsafe => some (.ok "xxxxxxxx", w)
  | .hashSecret secret => some (.ok ("argon2id:" ++ secret), w)
  | .getOrganization id => some (.ok (readOrganization w id), w)
  | .getKey id => some (.ok (w.api_keys.get id), w)
  | .findByPrefix keyPrefix => some (.ok (w.api_keys.rows.filter fun row => row.keyPrefix = keyPrefix), w)
  | .addKey key => (w.api_keys.insert key).map fun api_keys => (.ok key, { w with api_keys := api_keys })
  | .saveKey key =>
    if (w.api_keys.get key.id).isSome then some (.ok key, { w with api_keys := w.api_keys.update key }) else none
  | .addAudit event =>
    (w.audit_events.insert event).map fun audit_events => (.ok (), { w with audit_events := audit_events })
  | _ => none

def registryAnswer (w : Database) : (c : RegistryCommand) → Option (RegistryResponse c × Database)
  | .utcNow => some (ServiceRuns.noon, w)
  | .uuid4 => some (⟨1⟩, w)
  | .selectBySlug slug => some (.ok (w.registry.organizations.find? fun row => row.slug = slug), w)
  | .insertCommit (.organization row) =>
    (w.registry.insert (.organization row)).map fun registry => (.ok (), { w with registry := registry })
  | .refreshOrganization id => (w.registry.organizations.find? fun row => row.id = id).map fun row => (.ok row, w)
  | _ => none

def promptsAnswer (w : Database) : (c : PromptCommand) → Option (PromptResponse c × Database)
  | .uuid4 => some (⟨3⟩, w)
  | .utcNow => some (ServiceRuns.noon, w)
  | .maxVersion _ _ => some (.ok none, w)
  | .insertCommit row => (w.prompts.insert row).map fun prompts => (.ok (), { w with prompts := prompts })
  | _ => none

def serving (i : Client) (w : Database) : (c : EdgeCommand) → Option (EdgeResponse ℕ c × Database)
  | ⟨.keys, c⟩ => keysAnswer i w c
  | ⟨.registry, c⟩ => registryAnswer w c
  | ⟨.system, ⟨.prompts, c⟩⟩ => promptsAnswer w c
  | _ => none

theorem keysAnswer_replies {i : Client} {w w' : Database} {c : KeyCommand} {r : KeyResponse c}
    (h : keysAnswer i w c = some (r, w')) :
    Stored (D := ℕ) w ⟨.keys, c⟩ r ∧ (w' = w ∨ Applies column w ⟨.keys, c⟩ w') := by
  cases c with
  | utcNow | uuid4 | tokenUrlsafe | hashSecret =>
    cases h
    exact ⟨trivial, .inl rfl⟩
  | addAudit event =>
    obtain ⟨audit_events, hinsert, hrest⟩ := Option.map_eq_some_iff.mp h
    cases hrest
    exact ⟨trivial, .inr ⟨audit_events, hinsert, rfl⟩⟩
  | getOrganization id =>
    cases h
    refine ⟨?_, .inl rfl⟩
    rintro organization hfound
    obtain ⟨row, hfind, hread⟩ := Option.bind_eq_some_iff.mp (Except.ok.inj hfound)
    have hid : row.id = id := by simpa using List.find?_some hfind
    have hdomain : TenantRecords.toDomain row = .ok organization := by
      cases hrow : TenantRecords.toDomain row with
      | error err =>
        rw [hrow] at hread
        cases hread
      | ok found =>
        rw [hrow] at hread
        exact congrArg Except.ok (Option.some.inj hread)
    exact ⟨(toDomain_id hdomain).trans hid, row, List.mem_of_find?_eq_some hfind, hid⟩
  | getKey id =>
    cases h
    exact ⟨fun key hfound => Except.ok.inj hfound, .inl rfl⟩
  | findByPrefix keyPrefix =>
    cases h
    refine ⟨?_, .inl rfl⟩
    rintro candidates hfound key hkey
    rw [← Except.ok.inj hfound] at hkey
    obtain ⟨hmem, hprefix⟩ := List.mem_filter.mp hkey
    exact ⟨hmem, by simpa using hprefix⟩
  | addKey key =>
    obtain ⟨api_keys, hinsert, hrest⟩ := Option.map_eq_some_iff.mp h
    cases hrest
    exact ⟨trivial, .inr ⟨api_keys, hinsert, rfl⟩⟩
  | saveKey key =>
    simp only [keysAnswer] at h
    split_ifs at h with hstored
    cases h
    exact ⟨trivial, .inr ⟨hstored, rfl⟩⟩
  | revokeAndAdd revoked replacement => cases h

theorem registryAnswer_replies {w w' : Database} {c : RegistryCommand} {r : RegistryResponse c}
    (h : registryAnswer w c = some (r, w')) : w' = w ∨ Applies column w ⟨.registry, c⟩ w' := by
  cases c with
  | utcNow | uuid4 | selectBySlug =>
    cases h
    exact .inl rfl
  | refreshOrganization id =>
    obtain ⟨row, -, hrest⟩ := Option.map_eq_some_iff.mp h
    cases hrest
    exact .inl rfl
  | insertCommit row =>
    cases row with
    | organization row =>
      obtain ⟨registry, hinsert, hrest⟩ := Option.map_eq_some_iff.mp h
      cases hrest
      exact .inr ⟨registry, trivial, hinsert, rfl⟩
    | server row => cases h
  | _ => cases h

theorem serving_replies (i : Client) (w : Database) (c : EdgeCommand) (r : EdgeResponse ℕ c) (w' : Database)
    (h : serving i w c = some (r, w')) : (concurrent column).reply i w c r w' := by
  obtain ⟨part, c⟩ := c
  cases part with
  | keys => exact keysAnswer_replies h
  | listing => cases h
  | registry => exact ⟨trivial, registryAnswer_replies h⟩
  | system =>
    obtain ⟨part, c⟩ := c
    cases part with
    | prompts =>
      cases c with
      | uuid4 | utcNow | maxVersion =>
        cases h
        exact ⟨trivial, .inl rfl⟩
      | insertCommit row =>
        obtain ⟨prompts, hinsert, hrest⟩ := Option.map_eq_some_iff.mp h
        cases hrest
        exact ⟨trivial, .inr ⟨prompts, hinsert, rfl⟩⟩
      | _ => cases h
    | _ => cases h

def turnsOf (schedule : List Client) (pool : Edges Client ℕ) : Edges Client ℕ :=
  Pool.turns serving History.after schedule pool

theorem turnsOf_runs (schedule : List Client) (pool : Edges Client ℕ) :
    Runs KnowledgeRuns.singlePrecision.column pool (turnsOf schedule pool) :=
  Pool.turns_reach serving_replies (fun _ _ _ _ _ _ _ => trivial) schedule pool

def onboarded : Edges Client ℕ :=
  turnsOf (List.replicate 6 .founding ++ List.replicate 8 .issuing) (start deployment requestOf emptyTables)

def prompted : Edges Client ℕ := turnsOf (List.replicate 7 .bearer) onboarded

def retired : Edges Client ℕ := turnsOf (List.replicate 6 .revoking) onboarded

end Samples

/-- Whoever asks whatever at the same time, and whatever fails: every row goes back to the request that stored it, and
by the keys it showed to an operator. -/
theorem every_row_traced (hrun : Runs column (start self requests w₀) pool) :
    (∀ i, (pool.note i).call = requests i) ∧ Trusted self column w₀ pool.shared pool.note :=
  (hrun.keeps ((Pool.keeps_calls requests).and trusted_keeps) (start_disciplined self requests w₀)
    ⟨fun _ => rfl, Trusted.start requests⟩).2

/-- The prompt goes back to the operator that founded its organization and issued its key. -/
theorem greeting_traced : (∃ row ∈ prompted.shared.prompts.rows, row.name = "greeting" ∧ row.organization_id = ⟨1⟩) ∧
    prompted.shared.audit_events.rows.map (·.action) = ["api_key.created"] ∧
    (∀ i, (prompted.note i).call = requestOf i) ∧
      Trusted deployment KnowledgeRuns.singlePrecision.column emptyTables prompted.shared prompted.note :=
  ⟨by decide +kernel, by decide +kernel, every_row_traced ((turnsOf_runs _ _).trans (turnsOf_runs _ _))⟩

/-- Whoever asks whatever at the same time: a request acts for nobody, for the operator whose token it carries, or for
one organization whose key it carries. -/
theorem every_request_acts_for_one (hrun : Runs column (start self requests w₀) pool) (i : ι) :
    (pool.note i).call = requests i ∧ ActsFor self (pool.note i) := by
  obtain ⟨hcalls, hacts⟩ := (hrun.keeps ((Pool.keeps_calls requests).and acts_keeps)
    (start_disciplined self requests w₀) ⟨fun _ => rfl, fun _ => .nobody fun _ h => absurd h List.not_mem_nil⟩).2
  exact ⟨hcalls i, hacts i⟩

/-- The bearer acts for the organization of its key. -/
theorem bearer_acts : (prompted.note .bearer).steps.length = 6 ∧ (prompted.note .bearer).call = requestOf .bearer ∧
    ActsFor deployment (prompted.note .bearer) :=
  ⟨by decide +kernel, every_request_acts_for_one ((turnsOf_runs _ _).trans (turnsOf_runs _ _)) .bearer⟩

/-- Whoever comes after a key is revoked is never let in by it, whatever the others do meanwhile. -/
theorem revoked_stays_out (hrun : Runs column (start self requests w₀) pool) (hlater : Runs column pool pool')
    {row : ApiKey}
    (hrow : row ∈ pool.shared.api_keys.rows) (hrevoked : row.status = .revoked) {i : ι}
    (hafter : (pool.note i).steps = []) :
    ¬ ∃ principal, Proven self (pool'.note i) principal ∧ principal.api_key_id = row.id := by
  rintro ⟨principal, hproven, hsame⟩
  obtain ⟨hdisciplined, htrusted⟩ := hrun.keeps trusted_keeps (start_disciplined self requests w₀)
    (Trusted.start requests)
  have hkept := hlater.keeps (spent_keeps row.id i) hdisciplined ⟨htrusted, ⟨row, hrow, rfl, hrevoked⟩, ?_⟩
  · obtain ⟨secret, key, organization, -, hshows, -, hkey⟩ := hproven
    obtain ⟨candidates, hfound, hmem⟩ := hshows.found
    have hstatus := hkept.2.2.2 _ _ hfound key hmem (hkey.symm.trans hsame)
    rw [hshows.active] at hstatus
    cases hstatus
  · rw [hafter]
    exact fun _ _ h => absurd h List.not_mem_nil

theorem retired_rows : ∃ row ∈ retired.shared.api_keys.rows, row.id = ⟨2⟩ ∧ row.status = .revoked := by decide +kernel

/-- The bearer of the revoked key is not let in. -/
theorem bearer_stays_out : ¬ ∃ principal,
    Proven deployment ((turnsOf (List.replicate 7 .bearer) retired).note .bearer) principal ∧
      principal.api_key_id = ⟨2⟩ := by
  obtain ⟨row, hrow, hid, hrevoked⟩ := retired_rows
  rw [← hid]
  exact revoked_stays_out ((turnsOf_runs _ _).trans (turnsOf_runs _ _)) (turnsOf_runs _ _) hrow hrevoked rfl

end Runs

end AIRuntime.AccessRuns
