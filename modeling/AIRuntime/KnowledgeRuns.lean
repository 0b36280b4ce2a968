import AIRuntime.EffectHistories
import AIRuntime.NearestNeighbours
import AIRuntime.SemanticRetrieval
import AIRuntime.ServiceRuns
import AIRuntime.SharedStores
import AIRuntime.Traversals

set_option autoImplicit false

/-! Any number of organizations that ingest knowledge and augment requests with it at the same time. -/
namespace AIRuntime.KnowledgeRuns

open EffectPrograms PythonText Failures Identifiers GenerationContracts SharedStores EmbeddingPayloads
  NearestNeighbours SemanticRetrieval

variable {ι D : Type}

section Store

def chunkClash (a b : SemanticChunkRow) : Bool := a.id = b.id

structure KnowledgeStore where
  chunks : Table SemanticChunkRow chunkClash
  organizations : UUID → Option ApiKeyRecords.Organization

/-- The rows of one organization, in the order in which they were inserted. -/
def KnowledgeStore.own (w : KnowledgeStore) (organization_id : UUID) : List SemanticChunkRow :=
  w.chunks.rows.filter fun row => row.organization_id = organization_id

def KnowledgeStore.insert (w : KnowledgeStore) (row : SemanticChunkRow) : Option (Table SemanticChunkRow chunkClash) :=
  if (w.organizations row.organization_id).isSome then w.chunks.insert row else none

/-- What the column of the embeddings keeps of a vector, which is of single precision; `none` if it refuses it. -/
abbrev VectorColumn := List Float → Option (List Float)

def VectorColumn.kept (column : VectorColumn) (row : SemanticChunkRow) : Option SemanticChunkRow :=
  (column row.embedding).map fun embedding => { row with embedding := embedding }

/-- The embeddings that a provider may answer, what is kept of them, and the distance by which the database orders
what it keeps and the embedding of a query. -/
structure Vendors (D : Type) where
  embeds : String → EmbeddingRequest → Except Exn EmbeddingResponse → Prop
  column : VectorColumn
  distance : List Float → List Float → D

theorem insert_rows {vendors : Vendors D} {w : KnowledgeStore} {row : SemanticChunkRow}
    {chunks : Table SemanticChunkRow chunkClash} (h : (vendors.column.kept row).bind w.insert = some chunks) :
    ∃ kept, vendors.column.kept row = some kept ∧ chunks.rows = w.chunks.rows ++ [kept] := by
  obtain ⟨kept, hkept, hinsert⟩ := Option.bind_eq_some_iff.mp h
  unfold KnowledgeStore.insert at hinsert
  split_ifs at hinsert
  exact ⟨kept, hkept, Table.insert_some hinsert⟩

variable [LinearOrder D]

/-- The database may fail at any command, before or after it has written. -/
def CarriesOut (vendors : Vendors D) (w : KnowledgeStore) (c : ChunkCommand) (r : ChunkResponse D c)
    (w' : KnowledgeStore) : Prop :=
  match c, r with
  | .utcNow, _ => w' = w
  | .uuid4, _ => w' = w
  | .embed provider request, r => vendors.embeds provider request r ∧ w' = w
  | .getOrganization organization_id, r => (r = .ok (w.organizations organization_id) ∨ ∃ err, r = .error err) ∧ w' = w
  | .insertCommit row, r =>
    match (vendors.column.kept row).bind w.insert with
    | none => (∃ err, r = .error err) ∧ w' = w
    | some chunks => (r = .ok () ∧ w' = { w with chunks := chunks }) ∨
        ∃ err, r = .error err ∧ (w' = w ∨ w' = { w with chunks := chunks })
  | .selectNearest organization_id query_embedding limit, r =>
    ((∃ found, r = .ok (found.map fun row => (row, vendors.distance row.embedding query_embedding)) ∧
      Nearest (fun row => vendors.distance row.embedding query_embedding) limit.toNat (w.own organization_id) found) ∨
      ∃ err, r = .error err) ∧ w' = w

/-- Organizations may come and go; rows do not. -/
def concurrent (vendors : Vendors D) : Arbiter ι ChunkCommand (ChunkResponse D) KnowledgeStore where
  reply := fun _ => CarriesOut vendors
  drift := fun w w' => w'.chunks = w.chunks

theorem carriesOut_rows {vendors : Vendors D} {w w' : KnowledgeStore} {c : ChunkCommand} {r : ChunkResponse D c}
    (h : CarriesOut vendors w c r w') :
    w'.chunks.rows = w.chunks.rows ∨ ∃ row kept, c = .insertCommit row ∧ vendors.column.kept row = some kept ∧
      w'.chunks.rows = w.chunks.rows ++ [kept] := by
  cases c with
  | insertCommit row =>
    simp only [CarriesOut] at h
    cases hinsert : (vendors.column.kept row).bind w.insert with
    | none =>
      rw [hinsert] at h
      exact .inl (by rw [h.2])
    | some chunks =>
      rw [hinsert] at h
      obtain ⟨kept, hkept, hrows⟩ := insert_rows hinsert
      rcases h with ⟨-, hw⟩ | ⟨err, -, hw | hw⟩
      · exact .inr ⟨row, kept, rfl, hkept, by rw [hw, hrows]⟩
      · exact .inl (by rw [hw])
      · exact .inr ⟨row, kept, rfl, hkept, by rw [hw, hrows]⟩
  | utcNow | uuid4 =>
    obtain rfl : w' = w := h
    exact .inl rfl
  | embed provider request | getOrganization organization_id | selectNearest organization_id query_embedding limit =>
    exact .inl (by rw [h.2])

theorem grows (vendors : Vendors D) :
    Pool.Grows (ι := ι) (concurrent vendors) fun w w' => w.chunks.rows <+: w'.chunks.rows where
  refl := fun _ => List.prefix_rfl
  trans := fun _ _ _ => List.IsPrefix.trans
  answered := by
    intro i w c r w' h
    rcases carriesOut_rows h with hrows | ⟨row, kept, -, -, hrows⟩
    · simp only [hrows, List.prefix_refl]
    · rw [hrows]
      exact List.prefix_append _ _
  drifted := by
    intro w w' hdrift
    have hchunks : w'.chunks = w.chunks := hdrift
    simp only [hchunks, List.prefix_refl]

theorem own_lasts {w w' : KnowledgeStore} (h : w.chunks.rows <+: w'.chunks.rows) (organization_id : UUID) :
    w.own organization_id <+: w'.own organization_id :=
  h.filter _

end Store

section Calls

inductive Call where
  | ingest (command : IngestSemanticChunkCommand)
  | search (query : SemanticSearchQuery)
  | augment (organization_id : UUID) (messages : List Message) (policy : RagPolicy)

inductive Result (D : Type) [LinearOrder D] [Zero D] where
  | ingested (chunk : SemanticChunk)
  | found (hits : List (SemanticSearchResult D))
  | augmented (messages : List Message)

def program [LinearOrder D] [Zero D] (self : Embedders) : Call → ChunkAction D (Result D)
  | .ingest command => (ingestSemanticChunk self command).bind fun chunk => .done (.ingested chunk)
  | .search query => (searchSemanticChunks query).bind fun hits => .done (.found hits)
  | .augment organization_id messages policy =>
    (augmentMessagesWithRag self organization_id messages policy).bind fun result => .done (.augmented result)

abbrev Told (D : Type) := History Call ChunkCommand (ChunkResponse D)

def Embedded (told : Told D) (text : String) (vector : List Float) : Prop :=
  ∃ provider request embedding, ⟨.embed provider request, .ok embedding⟩ ∈ told.steps ∧ request.input = [text] ∧
    firstVector embedding = .ok vector

/-- A chunk of the text that was ingested, with the vector of that text. -/
structure Ingests (told : Told D) (command : IngestSemanticChunkCommand) (chunk : SemanticChunk) : Prop where
  call : told.call = .ingest command
  organization : chunk.organization_id = command.organization_id
  content : chunk.content = command.content
  embedded : Embedded told command.content chunk.embedding

structure Retrieves (told : Told D) (messages : List Message) (policy : RagPolicy) (query : SemanticSearchQuery) :
    Prop where
  call : told.call = .augment query.organization_id messages policy
  limit : query.limit = policy.top_k
  embedded : ∃ text, resolveRagQuery messages policy.query = .ok text ∧ Embedded told text query.query_embedding

/-- A query is searched for as the call gives it, or for the messages of the call. -/
def Searches (told : Told D) (query : SemanticSearchQuery) : Prop :=
  told.call = .search query ∨ ∃ messages policy, Retrieves told messages policy query

def Inserted (told : Told D) : Prop := ∃ row r, ⟨.insertCommit row, r⟩ ∈ told.steps

def May (told : Told D) : ChunkCommand → Prop
  | .insertCommit row => ¬ Inserted told ∧ ∃ command chunk, Ingests told command chunk ∧ row = toRow chunk
  | .selectNearest organization_id query_embedding limit => ∃ query : SemanticSearchQuery, Searches told query ∧
      organization_id = query.organization_id ∧ query_embedding = query.query_embedding ∧ limit = query.limit
  | _ => True

def raised (step : Step ChunkCommand (ChunkResponse D)) : Option Exn :=
  match step with
  | ⟨.embed _ _, .error err⟩ => some err
  | ⟨.getOrganization _, .error err⟩ => some err
  | ⟨.insertCommit _, .error err⟩ => some err
  | ⟨.selectNearest _ _ _, .error err⟩ => some err
  | _ => none

inductive Raises (told : Told D) : ChunkExn → Prop where
  | organizationNotFound (organization_id : UUID) : Raises told (.organizationNotFound organization_id)
  | validation (message : String) : Raises told (.failed (.domainValidation message))
  | unsupportedModel (model : String) : Raises told (.failed (.unsupportedModel model))
  | notRegistered (provider : String) : Raises told (.failed (.providerNotRegistered provider))
  | answered {err : Exn} (h : History.Raised raised told err) : Raises told (.failed err)

section Ends

variable [LinearOrder D] [Zero D]

def Finds (told : Told D) (query : SemanticSearchQuery) (hits : List (SemanticSearchResult D)) : Prop :=
  ∃ rows, ⟨.selectNearest query.organization_id query.query_embedding query.limit, .ok rows⟩ ∈ told.steps ∧
    rows.mapM (fun hit => SemanticSearchResult.new hit.1.id hit.1.content hit.2) = .ok hits

def Augments (told : Told D) (messages : List Message) (policy : RagPolicy) (result : List Message) : Prop :=
  (policy.enabled = false ∧ result = messages) ∨ policy.enabled = true ∧ ∃ query hits,
    Retrieves told messages policy query ∧ Finds told query hits ∧
      prependRetrievedContext messages (hits.map (·.content)) = .ok result

def Ended (told : Told D) : Result D → Prop
  | .ingested chunk => ∃ command, Ingests told command chunk ∧ ⟨.insertCommit (toRow chunk), .ok ()⟩ ∈ told.steps
  | .found hits => ∃ query, told.call = .search query ∧ Finds told query hits
  | .augmented result => ∃ organization_id messages policy, told.call = .augment organization_id messages policy ∧
      Augments told messages policy result

def Outcome : Except ChunkExn (Result D) → Told D → Prop := Prog.ends (fun result told => Ended told result)
  fun err told => Raises told err

end Ends

end Calls

section Spec

variable {self : Embedders} {told told' : Told D}

theorem Embedded.extends {text : String} {vector : List Float} (h : Embedded told text vector)
    (hmore : History.Extends told told') : Embedded told' text vector := by
  obtain ⟨provider, request, embedding, hmem, hinput, hvector⟩ := h
  exact ⟨provider, request, embedding, hmore.2 _ hmem, hinput, hvector⟩

theorem Ingests.extends {command : IngestSemanticChunkCommand} {chunk : SemanticChunk}
    (h : Ingests told command chunk) (hmore : History.Extends told told') : Ingests told' command chunk :=
  ⟨hmore.call.trans h.call, h.organization, h.content, h.embedded.extends hmore⟩

theorem Retrieves.extends {messages : List Message} {policy : RagPolicy} {query : SemanticSearchQuery}
    (h : Retrieves told messages policy query) (hmore : History.Extends told told') :
    Retrieves told' messages policy query := by
  obtain ⟨text, hquery, hembedded⟩ := h.embedded
  exact ⟨hmore.call.trans h.call, h.limit, text, hquery, hembedded.extends hmore⟩

structure GoesOn (told told' : Told D) : Prop extends History.Extends told told' where
  unwritten : Inserted told' → Inserted told

theorem GoesOn.refl (told : Told D) : GoesOn told told := ⟨.refl told, id⟩

theorem GoesOn.after {c : ChunkCommand} {r : ChunkResponse D c} (h : GoesOn told told')
    (hc : ∀ row, c ≠ .insertCommit row) : GoesOn told (told'.after c r) := by
  refine ⟨h.toExtends.trans (History.extends_after told' c r), ?_⟩
  rintro ⟨row, answer, hmem⟩
  apply h.unwritten
  rcases History.mem_after.mp hmem with hold | heq
  · exact ⟨row, answer, hold⟩
  · cases heq
    exact absurd rfl (hc row)

theorem resolveEmbeddingRoute_error {requested_model : String} {catalog : EmbeddingCatalog} {err : Exn}
    (h : resolveEmbeddingRoute requested_model catalog = .error err) : Raises told (.failed err) := by
  unfold resolveEmbeddingRoute at h
  split at h
  · cases h
    exact .validation _
  · split at h
    · cases h
      exact .unsupportedModel _
    · obtain ⟨message, rfl⟩ := of_validated_error h
      exact .validation _

theorem firstVector_isOk (embedding : EmbeddingResponse) : ∃ vector, firstVector embedding = .ok vector := by
  have hok := embedding.ok
  unfold firstVector
  cases hdata : embedding.data with
  | nil =>
    rw [hdata] at hok
    simp [EmbeddingResponse.problem] at hok
  | cons vector rest => exact ⟨_, rfl⟩

theorem embedText_spec {embedding_model text : String} :
    Prog.Spec May (embedText self embedding_model text) (Prog.ends
      (fun vector told' => GoesOn told told' ∧ Embedded told' text vector) fun err told' => Raises told' err) told := by
  apply Prog.ofExcept_spec
  · intro route _
    split
    · exact .notRegistered _
    · apply Prog.ofExcept_spec
      · intro request hrequest
        refine Prog.wp_told trivial fun r => ?_
        apply Prog.answered_spec raised (c := .embed route.provider request) (r := r)
        · rintro err rfl
          rfl
        · rintro embedding rfl
          obtain ⟨vector, hvector⟩ := firstVector_isOk embedding
          rw [hvector]
          obtain ⟨_, rfl⟩ := of_validated hrequest
          exact ⟨(GoesOn.refl told).after nofun, _, _, embedding, History.last_mem _ _ _, rfl, hvector⟩
        · exact fun err h => .answered h
      · intro err h
        obtain ⟨message, rfl⟩ := of_validated_error h
        exact .validation _
  · exact fun err h => resolveEmbeddingRoute_error h

theorem toDomain_toRow (chunk : SemanticChunk) : toDomain (toRow chunk) = .ok chunk := validated_ok chunk.ok

section Ends

variable [LinearOrder D] [Zero D]

theorem addChunk_spec {command : IngestSemanticChunkCommand} {chunk : SemanticChunk}
    (hunwritten : ¬ Inserted told) (h : Ingests told command chunk) :
    Prog.Spec May (addChunk chunk) (Prog.ends (fun stored told' => Ended told' (.ingested stored)) fun err told' =>
      Raises told' err) told := by
  refine Prog.wp_told ⟨hunwritten, command, chunk, h, rfl⟩ fun r => ?_
  apply Prog.answered_spec raised (c := .insertCommit (toRow chunk)) (r := r)
  · rintro err rfl
    rfl
  · rintro u rfl
    rw [toDomain_toRow]
    exact ⟨command, h.extends (History.extends_after _ _ _), History.last_mem _ _ _⟩
  · exact fun err h => .answered h

theorem indexSemanticChunk_spec {command : IngestSemanticChunkCommand} {vector : List Float}
    (hunwritten : ¬ Inserted told) (hcall : told.call = .ingest command) (h : Embedded told command.content vector) :
    Prog.Spec May (indexSemanticChunk ⟨command.organization_id, command.content, vector⟩)
      (Prog.ends (fun stored told' => Ended told' (.ingested stored)) fun err told' => Raises told' err) told := by
  refine Prog.wp_told trivial fun r => ?_
  have hread : GoesOn told (told.after (.getOrganization command.organization_id) r) := (GoesOn.refl told).after nofun
  apply Prog.answered_spec raised (c := .getOrganization command.organization_id) (r := r)
  · rintro err rfl
    rfl
  · rintro organization rfl
    cases organization with
    | none => exact .organizationNotFound _
    | some organization =>
      refine Prog.wp_told trivial fun now => Prog.wp_told trivial fun id => ?_
      have hnow := (hread.after (c := .utcNow) (r := now) nofun).after (c := .uuid4) (r := id) nofun
      apply Prog.ofExcept_spec
      · intro chunk hchunk
        obtain ⟨_, rfl⟩ := of_validated hchunk
        exact addChunk_spec (mt hnow.unwritten hunwritten) ⟨hcall, rfl, rfl, h.extends hnow.toExtends⟩
      · intro err herr
        obtain ⟨message, rfl⟩ := of_validated_error herr
        exact .validation _
  · exact fun err h => .answered h

theorem ingestSemanticChunk_spec {command : IngestSemanticChunkCommand} (hunwritten : ¬ Inserted told)
    (hcall : told.call = .ingest command) : Prog.Spec May (ingestSemanticChunk self command)
      (Prog.ends (fun stored told' => Ended told' (.ingested stored)) fun err told' => Raises told' err) told := by
  apply Prog.wp_seq embedText_spec
  · rintro vector told' ⟨hon, hembedded⟩
    exact indexSemanticChunk_spec (mt hon.unwritten hunwritten) (hon.call.trans hcall) hembedded
  · exact fun err told' h => h

theorem searchSemanticChunks_spec {query : SemanticSearchQuery} (h : Searches told query) :
    Prog.Spec May (searchSemanticChunks query) (Prog.ends
      (fun hits told' => GoesOn told told' ∧ Finds told' query hits) fun err told' => Raises told' err) told := by
  refine Prog.wp_told ⟨query, h, rfl, rfl, rfl⟩ fun r => ?_
  apply Prog.answered_spec raised
    (c := .selectNearest query.organization_id query.query_embedding query.limit) (r := r)
  · rintro err rfl
    rfl
  · rintro rows rfl
    rw [← Prog.bind_done (raising _)]
    apply Prog.ofExcept_spec
    · intro hits hhits
      exact ⟨(GoesOn.refl told).after nofun, rows, History.last_mem _ _ _, hhits⟩
    · intro err herr
      obtain ⟨_, hit, _, -, -, hnew⟩ := Traversals.mapM_error_iff.mp herr
      obtain ⟨message, rfl⟩ := of_validated_error hnew
      exact .validation _
  · exact fun err h => .answered h

end Ends

theorem resolveRagQuery_error {messages : List Message} {query : Option String} {err : Exn}
    (h : resolveRagQuery messages query = .error err) : Raises told (.failed err) := by
  unfold resolveRagQuery at h
  split at h
  · cases h
  · split at h
    · cases h
    · cases h
      exact .validation _

theorem prependRetrievedContext_error {messages : List Message} {chunks : List String} {err : Exn}
    (h : prependRetrievedContext messages chunks = .error err) : Raises told (.failed err) := by
  unfold prependRetrievedContext at h
  split at h
  · cases h
  · cases hnew : Message.new .system (formatRetrievedContext chunks) none none [] with
    | ok context =>
      rw [hnew] at h
      cases h
    | error problem =>
      rw [hnew] at h
      cases h
      obtain ⟨message, rfl⟩ := of_validated_error hnew
      exact .validation _

variable [LinearOrder D] [Zero D]

theorem augmentMessagesWithRag_spec {organization_id : UUID} {messages : List Message} {policy : RagPolicy}
    (hcall : told.call = .augment organization_id messages policy) :
    Prog.Spec May (augmentMessagesWithRag self organization_id messages policy)
      (Prog.ends (fun result told' => Ended told' (.augmented result)) fun err told' => Raises told' err) told := by
  unfold augmentMessagesWithRag
  split
  · rename_i hoff
    exact ⟨organization_id, messages, policy, hcall, .inl ⟨by simpa using hoff, rfl⟩⟩
  · rename_i hon
    apply Prog.ofExcept_spec
    · intro text hquery
      apply Prog.wp_seq embedText_spec
      · rintro vector told₁ ⟨hon₁, hembedded⟩
        apply Prog.ofExcept_spec
        · intro query hnew
          obtain ⟨hok, rfl⟩ := of_validated hnew
          have hretrieves : Retrieves told₁ messages policy ⟨organization_id, vector, policy.top_k, hok⟩ :=
            ⟨hon₁.call.trans hcall, rfl, text, hquery, hembedded⟩
          apply Prog.wp_seq (searchSemanticChunks_spec (.inr ⟨messages, policy, hretrieves⟩))
          · rintro hits told₂ ⟨hon₂, hfinds⟩
            rw [← Prog.bind_done (raising _)]
            apply Prog.ofExcept_spec
            · intro result hresult
              exact ⟨organization_id, messages, policy, hon₂.call.trans (hon₁.call.trans hcall), .inr
                ⟨by simpa using hon, _, hits, hretrieves.extends hon₂.toExtends, hfinds, hresult⟩⟩
            · exact fun err => prependRetrievedContext_error
          · exact fun err told' h => h
        · intro err herr
          obtain ⟨message, rfl⟩ := of_validated_error herr
          exact .validation _
      · exact fun err told' h => h
    · exact fun err => resolveRagQuery_error

theorem program_obeys (call : Call) : Prog.Spec May (program self call) Outcome (⟨call, []⟩ : Told D) := by
  have hunwritten : ¬ Inserted (⟨call, []⟩ : Told D) := by
    rintro ⟨row, r, hmem⟩
    cases hmem
  cases call with
  | ingest command => exact Prog.wp_seq (ingestSemanticChunk_spec hunwritten rfl) (fun _ _ h => h) fun _ _ h => h
  | search query =>
    refine Prog.wp_seq (searchSemanticChunks_spec (.inl rfl)) ?_ fun _ _ h => h
    rintro hits told' ⟨hon, hfinds⟩
    exact ⟨query, hon.call, hfinds⟩
  | augment organization_id messages policy =>
    exact Prog.wp_seq (augmentMessagesWithRag_spec rfl) (fun _ _ h => h) fun _ _ h => h

end Spec

section Runs

variable [LinearOrder D] [Zero D] {vendors : Vendors D} {self : Embedders} {w₀ w w' : KnowledgeStore} {told : Told D}

def Answered (vendors : Vendors D) (w₀ w : KnowledgeStore) (step : Step ChunkCommand (ChunkResponse D)) : Prop :=
  match step with
  | ⟨.embed provider request, r⟩ => vendors.embeds provider request r
  | ⟨.insertCommit row, .ok ()⟩ => ∃ kept ∈ w.chunks.rows, vendors.column.kept row = some kept
  | ⟨.selectNearest organization_id query_embedding limit, .ok rows⟩ => ∃ known found,
      w₀.own organization_id <+: known ∧ known <+: w.own organization_id ∧
      Nearest (fun row => vendors.distance row.embedding query_embedding) limit.toNat known found ∧
      rows = found.map fun row => (row, vendors.distance row.embedding query_embedding)
  | _ => True

omit [Zero D] in
theorem Answered.lasts {step : Step ChunkCommand (ChunkResponse D)} (hle : w.chunks.rows <+: w'.chunks.rows)
    (h : Answered vendors w₀ w step) : Answered vendors w₀ w' step := by
  unfold Answered at h ⊢
  split
  · exact h
  · obtain ⟨kept, hmem, hkept⟩ := h
    exact ⟨kept, hle.mem hmem, hkept⟩
  · obtain ⟨known, found, hstart, hknown, hrest⟩ := h
    exact ⟨known, found, hstart, hknown.trans (own_lasts hle _), hrest⟩
  · trivial

omit [Zero D] in
theorem Answered.of_reply {c : ChunkCommand} {r : ChunkResponse D c} (hstart : w₀.chunks.rows <+: w.chunks.rows)
    (h : CarriesOut vendors w c r w') : Answered vendors w₀ w' ⟨c, r⟩ := by
  cases c with
  | utcNow | uuid4 | getOrganization organization_id => trivial
  | embed provider request => exact h.1
  | insertCommit row =>
    cases r with
    | error err => trivial
    | ok u =>
      simp only [CarriesOut] at h
      cases hinsert : (vendors.column.kept row).bind w.insert with
      | none =>
        rw [hinsert] at h
        obtain ⟨⟨err, herr⟩, -⟩ := h
        cases herr
      | some chunks =>
        rw [hinsert] at h
        obtain ⟨kept, hkept, hrows⟩ := insert_rows hinsert
        rcases h with ⟨-, rfl⟩ | ⟨err, herr, -⟩
        · exact ⟨kept, by simp [hrows], hkept⟩
        · cases herr
  | selectNearest organization_id query_embedding limit =>
    cases r with
    | error err => trivial
    | ok rows =>
      obtain ⟨⟨found, hrows, hnearest⟩ | ⟨err, herr⟩, rfl⟩ := h
      · cases hrows
        exact ⟨_, found, own_lasts hstart _, List.prefix_rfl, hnearest, rfl⟩
      · cases herr

def Wrote (vendors : Vendors D) (told : Told D) (kept : SemanticChunkRow) : Prop :=
  Inserted told ∧ ∃ command chunk, Ingests told command chunk ∧ vendors.column.kept (toRow chunk) = some kept

omit [LinearOrder D] [Zero D] in
theorem Wrote.extends {told' : Told D} {kept : SemanticChunkRow} (h : Wrote vendors told kept)
    (hmore : History.Extends told told') : Wrote vendors told' kept := by
  obtain ⟨⟨written, r, hmem⟩, command, chunk, hingests, hkept⟩ := h
  exact ⟨⟨written, r, hmore.steps _ hmem⟩, command, chunk, hingests.extends hmore, hkept⟩

variable [DecidableEq ι] {calls : ι → Call}

abbrev anyRun : KnowledgeStore → (ι → Told D) → ι → ChunkCommand → Prop := fun _ _ _ _ => True

omit [Zero D] in
/-- Rows are added by the calls that ingest them, at most one by each. -/
theorem added_keeps : Pool.Keeps (concurrent vendors) History.after anyRun May
    fun w (g : ι → Told D) => Pool.Added (Wrote vendors) w₀.chunks.rows w.chunks.rows g where
  answered := by
    intro w g i c r w' h hmay _ hreply
    have hmore := History.extends_after (g i) c r
    rcases carriesOut_rows hreply with hrows | ⟨row, kept, rfl, hkept, hrows⟩
    · rw [hrows]
      exact h.keep fun kept hwrote => hwrote.extends hmore
    · rw [hrows]
      obtain ⟨hunwritten, command, chunk, hingests, rfl⟩ := hmay
      exact h.add (fun _ hwrote => hunwritten hwrote.1)
        ⟨⟨_, r, History.last_mem _ _ _⟩, command, chunk, hingests.extends hmore, hkept⟩
  drifted := by
    intro w g w' h hdrift
    have hchunks : w'.chunks = w.chunks := hdrift
    rwa [hchunks]

structure Consistent (vendors : Vendors D) (calls : ι → Call) (w₀ w : KnowledgeStore) (g : ι → Told D) : Prop where
  calls : ∀ i, (g i).call = calls i
  added : Pool.Added (Wrote vendors) w₀.chunks.rows w.chunks.rows g
  answered : ∀ i, ∀ step ∈ (g i).steps, Answered vendors w₀ w step

omit [Zero D] in
theorem consistent_keeps : Pool.Keeps (concurrent vendors) History.after anyRun May
    fun w (g : ι → Told D) => Consistent vendors calls w₀ w g ∧ w₀.chunks.rows <+: w.chunks.rows := by
  have hsteps : Pool.Keeps (concurrent vendors) History.after anyRun May fun w (g : ι → Told D) =>
      w₀.chunks.rows <+: w.chunks.rows ∧ ∀ i, ∀ step ∈ (g i).steps, Answered vendors w₀ w step :=
    Pool.keeps_steps (P := fun w _ _ step => Answered vendors w₀ w step) (grows vendors)
      (fun _ _ hle hstart => hstart.trans hle)
      (fun _ _ _ _ _ _ hstart _ _ hreply => Answered.of_reply hstart hreply) fun _ _ _ _ _ hle h => h.lasts hle
  have hadded : Pool.Keeps (concurrent vendors) History.after anyRun May fun w (g : ι → Told D) =>
      Pool.Added (Wrote vendors) w₀.chunks.rows w.chunks.rows g := added_keeps
  have hall := ((Pool.keeps_calls calls).and hadded).and hsteps
  constructor
  · rintro w g i c r w' ⟨h, hstart⟩ hmay hguard hreply
    obtain ⟨⟨hcalls, hadded⟩, hstart', hanswered⟩ :=
      hall.answered w g i c r w' ⟨⟨h.calls, h.added⟩, hstart, h.answered⟩ hmay hguard hreply
    exact ⟨⟨hcalls, hadded, hanswered⟩, hstart'⟩
  · rintro w g w' ⟨h, hstart⟩ hdrift
    obtain ⟨⟨hcalls, hadded⟩, hstart', hanswered⟩ :=
      hall.drifted w g w' ⟨⟨h.calls, h.added⟩, hstart, h.answered⟩ hdrift
    exact ⟨⟨hcalls, hadded, hanswered⟩, hstart'⟩

abbrev Knowing (ι D : Type) [LinearOrder D] [Zero D] :=
  Pool ι ChunkCommand (ChunkResponse D) Empty ChunkExn (Result D) KnowledgeStore (Told D)

def start (self : Embedders) (calls : ι → Call) (w : KnowledgeStore) : Knowing ι D :=
  ⟨w, fun i => program self (calls i), fun i => ⟨calls i, []⟩⟩

theorem reaches_consistent {pool : Knowing ι D}
    (hreach : Pool.Reaches (concurrent vendors) History.after anyRun (start self calls w₀) pool) :
    pool.Obeys (History.rule May) Outcome ∧ Consistent vendors calls w₀ pool.shared pool.note := by
  have hstart : Consistent vendors calls w₀ w₀ (start (D := D) self calls w₀).note := by
    refine ⟨fun i => rfl, .refl _ _ _, ?_⟩
    intro i step hmem
    cases hmem
  have h := hreach.obeys (fun _ _ _ _ _ _ _ _ _ _ => rfl) consistent_keeps
    (fun i => program_obeys (calls i)) ⟨hstart, List.prefix_rfl⟩
  exact ⟨h.1, h.2.1⟩

end Runs

section Samples

def along (axis : ℕ) (length : Float) : List Float :=
  List.replicate axis 0 ++ length :: List.replicate (1535 - axis) 0

/-- The number of single precision next to 0.1. -/
def nearTenth : Float := 0.10000000149011612

theorem opens_ok : EmbeddingVector.problem 0 (along 0 0.1) = none := by decide +kernel

theorem answer_ok : EmbeddingResponse.problem "emb_1" "text-embedding-3-small" [⟨0, along 0 0.1, opens_ok⟩] = none := by
  decide +kernel

theorem usage_ok : EmbeddingUsage.problem 5 = none := rfl

def embedding : EmbeddingResponse :=
  ⟨"emb_1", "text-embedding-3-small", [⟨0, along 0 0.1, opens_ok⟩], ⟨5, usage_ok⟩, answer_ok⟩

/-- Every text of the samples is of the same direction; the cosine distance of vectors along an axis is 0 or 1. -/
def singlePrecision : Vendors ℕ where
  embeds := fun _ _ r => r = .ok embedding
  column := fun vector => some (vector.map fun value => if value == 0.1 then nearTenth else value)
  distance := fun stored query => if stored.findIdx (0 < ·) = query.findIdx (0 < ·) then 0 else 1

def openaiOnly : Embedders := ⟨fun provider => provider == "openai", defaultEmbeddingCatalog⟩

def acme : UUID := ServiceRuns.uuid 1

def closing : SemanticChunkRow :=
  ⟨ServiceRuns.uuid 3, acme, "It closes at five.", along 1 nearTenth, ServiceRuns.noon.val⟩

theorem acme_ok : ApiKeyRecords.Organization.problem "Acme" "acme" ServiceRuns.noon.val ServiceRuns.noon.val = none := by
  decide

def acmeOrganization : ApiKeyRecords.Organization :=
  ⟨acme, "Acme", "acme", .active, ServiceRuns.noon.val, ServiceRuns.noon.val, acme_ok⟩

def known : KnowledgeStore :=
  ⟨⟨[closing], List.pairwise_singleton _ _⟩, fun id => if id = acme then some acmeOrganization else none⟩

theorem question_ok : Message.problem .user "When does it open?" none [] = none := by decide

def question : Message := ⟨.user, "When does it open?", none, none, [], question_ok⟩

theorem nearestOne_ok : RagPolicy.problem none 1 "text-embedding-3-small" = none := by decide

theorem opening_ok : SemanticSearchQuery.problem (along 0 0.1) 1 = none := by decide +kernel

def opening : SemanticSearchQuery := ⟨acme, along 0 0.1, 1, opening_ok⟩

inductive Caller where
  | before
  | ingesting
  | after
  | asking
deriving DecidableEq

def callOf : Caller → Call
  | .before => .search opening
  | .ingesting => .ingest ⟨acme, "It opens at nine.", "text-embedding-3-small"⟩
  | .after => .search opening
  | .asking => .augment acme [question] ⟨true, none, 1, "text-embedding-3-small", nearestOne_ok⟩

def serving (_ : Caller) (w : KnowledgeStore) : (c : ChunkCommand) → Option (ChunkResponse ℕ c × KnowledgeStore)
  | .utcNow => some (ServiceRuns.noon, w)
  | .uuid4 => some (ServiceRuns.uuid 2, w)
  | .embed _ _ => some (.ok embedding, w)
  | .getOrganization organization_id => some (.ok (w.organizations organization_id), w)
  | .insertCommit row =>
    ((singlePrecision.column.kept row).bind w.insert).map fun chunks => (.ok (), { w with chunks := chunks })
  | .selectNearest organization_id query_embedding limit =>
    let distance (row : SemanticChunkRow) := singlePrecision.distance row.embedding query_embedding
    some (.ok ((nearest distance limit.toNat (w.own organization_id)).map fun row => (row, distance row)), w)

theorem serving_replies (i : Caller) (w : KnowledgeStore) (c : ChunkCommand) (r : ChunkResponse ℕ c)
    (w' : KnowledgeStore) (h : serving i w c = some (r, w')) : (concurrent singlePrecision).reply i w c r w' := by
  cases c with
  | utcNow | uuid4 =>
    cases h
    rfl
  | embed provider request =>
    cases h
    exact ⟨rfl, rfl⟩
  | getOrganization organization_id =>
    cases h
    exact ⟨.inl rfl, rfl⟩
  | insertCommit row =>
    obtain ⟨chunks, hinsert, hrest⟩ := Option.map_eq_some_iff.mp h
    cases hrest
    simp only [concurrent, CarriesOut, hinsert]
    exact .inl ⟨trivial, trivial⟩
  | selectNearest organization_id query_embedding limit =>
    cases h
    exact ⟨.inl ⟨_, rfl, nearest_spec _ _ _⟩, rfl⟩

def searched : Knowing Caller ℕ := Pool.turns serving History.after [.before] (start openaiOnly callOf known)

def asked : Knowing Caller ℕ :=
  Pool.turns serving History.after (List.replicate 5 .ingesting ++ [.after, .asking, .asking]) searched

theorem searched_reached :
    Pool.Reaches (concurrent singlePrecision) History.after anyRun (start openaiOnly callOf known) searched :=
  Pool.turns_reach serving_replies (fun _ _ _ _ _ _ _ => trivial) _ _

theorem asked_reached : Pool.Reaches (concurrent singlePrecision) History.after anyRun searched asked :=
  Pool.turns_reach serving_replies (fun _ _ _ _ _ _ _ => trivial) _ _

def hitsOf : ChunkAction ℕ (Result ℕ) → Option (List (SemanticSearchResult ℕ))
  | .done (.found hits) => some hits
  | _ => none

def messagesOf : ChunkAction ℕ (Result ℕ) → Option (List Message)
  | .done (.augmented messages) => some messages
  | _ => none

theorem done_of_hits {rest : ChunkAction ℕ (Result ℕ)} {hits : List (SemanticSearchResult ℕ)}
    (h : hitsOf rest = some hits) : rest = .done (.found hits) := by
  unfold hitsOf at h
  split at h
  · rw [Option.some.inj h]
  · cases h

theorem done_of_messages {rest : ChunkAction ℕ (Result ℕ)} {messages : List Message}
    (h : messagesOf rest = some messages) : rest = .done (.augmented messages) := by
  unfold messagesOf at h
  split at h
  · rw [Option.some.inj h]
  · cases h

end Samples

section Results

variable {vendors : Vendors D} {self : Embedders} {w₀ : KnowledgeStore}

def GivenFor (vendors : Vendors D) (text : String) (vector : List Float) : Prop :=
  ∃ provider request embedding, vendors.embeds provider request (.ok embedding) ∧ request.input = [text] ∧
    firstVector embedding = .ok vector

structure ChunkOf (vendors : Vendors D) (command : IngestSemanticChunkCommand) (chunk : SemanticChunk) : Prop where
  organization : chunk.organization_id = command.organization_id
  content : chunk.content = command.content
  given : GivenFor vendors command.content chunk.embedding

/-- The messages behind one system message with the numbered contents, if there are any. -/
def InFront (contents : List String) (messages result : List Message) : Prop :=
  (contents = [] ∧ result = messages) ∨ contents ≠ [] ∧ ∃ context : Message, context.role = .system ∧
    context.content = formatRetrievedContext contents ∧ result = context :: messages

theorem formatRetrievedContext_eq_empty {contents : List String} :
    formatRetrievedContext contents = "" ↔ contents = [] := by
  unfold formatRetrievedContext
  cases contents with
  | nil => simp
  | cons content rest =>
    simp only [List.isEmpty_cons, Bool.false_eq_true, if_false, reduceCtorEq, iff_false]
    intro h
    have hlength := congrArg String.length h
    rw [String.length_append, String.length_append] at hlength
    have hheader : retrievedContextHeader.length = 43 := by decide
    rw [hheader] at hlength
    simp at hlength

theorem prependRetrievedContext_inFront {contents : List String} {messages result : List Message}
    (h : prependRetrievedContext messages contents = .ok result) : InFront contents messages result := by
  unfold prependRetrievedContext at h
  split at h
  · rename_i hempty
    cases h
    exact .inl ⟨formatRetrievedContext_eq_empty.mp hempty, rfl⟩
  · rename_i hsome
    obtain ⟨context, hnew, hresult⟩ := of_bind_ok h
    cases hresult
    obtain ⟨_, rfl⟩ := of_validated hnew
    exact .inr ⟨mt formatRetrievedContext_eq_empty.mpr hsome, _, rfl, rfl, rfl⟩

variable [LinearOrder D] [Zero D] {calls : ι → Call}
  {pool : Knowing ι D}

omit [Zero D] in
theorem Consistent.given {w : KnowledgeStore} {g : ι → Told D} (h : Consistent vendors calls w₀ w g) {i : ι}
    {text : String} {vector : List Float} (hembedded : Embedded (g i) text vector) : GivenFor vendors text vector := by
  obtain ⟨provider, request, embedding, hmem, hrest⟩ := hembedded
  exact ⟨provider, request, embedding, h.answered i _ hmem, hrest⟩

omit [Zero D] in
theorem Consistent.chunkOf {w : KnowledgeStore} {g : ι → Told D} (h : Consistent vendors calls w₀ w g) {i : ι}
    {command : IngestSemanticChunkCommand} {chunk : SemanticChunk} (hingests : Ingests (g i) command chunk) :
    calls i = .ingest command ∧ ChunkOf vendors command chunk :=
  ⟨(h.calls i).symm.trans hingests.call, hingests.organization, hingests.content, h.given hingests.embedded⟩

theorem hits_of_rows {rows : List (SemanticChunkRow × D)} {hits : List (SemanticSearchResult D)}
    (h : rows.mapM (fun hit => SemanticSearchResult.new hit.1.id hit.1.content hit.2) = .ok hits) :
    hits.map (·.content) = rows.map (·.1.content) ∧ hits.map (·.distance) = rows.map (·.2) := by
  have hpairs := Traversals.mapM_ok_iff.mp h
  clear h
  induction hpairs with
  | nil => exact ⟨rfl, rfl⟩
  | cons hnew _ ih =>
    obtain ⟨_, rfl⟩ := of_validated hnew
    simp only [List.map_cons, ih.1, ih.2, and_self]

/-- What was found for a query is the nearest of the rows that were there when it was asked. -/
theorem Finds.nearest {told : Told D} {query : SemanticSearchQuery} {hits : List (SemanticSearchResult D)}
    {w : KnowledgeStore} (h : Finds told query hits) (hanswered : ∀ step ∈ told.steps, Answered vendors w₀ w step) :
    ∃ known found, w₀.own query.organization_id <+: known ∧ known <+: w.own query.organization_id ∧
      Nearest (fun row => vendors.distance row.embedding query.query_embedding) query.limit.toNat known found ∧
      hits.map (·.content) = found.map (·.content) ∧
      hits.map (·.distance) = found.map fun row => vendors.distance row.embedding query.query_embedding := by
  obtain ⟨rows, hmem, hhits⟩ := h
  obtain ⟨known, found, hstart, hknown, hnearest, rfl⟩ := hanswered _ hmem
  obtain ⟨hcontents, hdistances⟩ := hits_of_rows hhits
  rw [List.map_map] at hcontents hdistances
  exact ⟨known, found, hstart, hknown, hnearest, hcontents, hdistances⟩

variable [DecidableEq ι]

/-- Every row that is added in any run is what the table keeps of the chunk of an ingesting call of its own, and of a
chunk that is returned there is such a row. -/
theorem ingested_rows (hreach : Pool.Reaches (concurrent vendors) History.after anyRun (start self calls w₀) pool) :
    (∃ owners added, pool.shared.chunks.rows = w₀.chunks.rows ++ added ∧ owners.Nodup ∧
      List.Forall₂ (fun i kept => ∃ command chunk, calls i = .ingest command ∧ ChunkOf vendors command chunk ∧
        vendors.column.kept (toRow chunk) = some kept) owners added) ∧
    ∀ i chunk, pool.rest i = .done (.ingested chunk) → ∃ command, calls i = .ingest command ∧
      ChunkOf vendors command chunk ∧
      ∃ kept ∈ pool.shared.chunks.rows, vendors.column.kept (toRow chunk) = some kept := by
  obtain ⟨hobeys, hconsistent⟩ := reaches_consistent hreach
  constructor
  · obtain ⟨owners, added, hadded⟩ := hconsistent.added
    refine ⟨owners, added, hadded.now, hadded.nodup, hadded.wrote.imp ?_⟩
    rintro i kept ⟨-, command, chunk, hingests, hkept⟩
    obtain ⟨hcall, hchunk⟩ := hconsistent.chunkOf hingests
    exact ⟨command, chunk, hcall, hchunk, hkept⟩
  · intro i chunk hdone
    have hended := hobeys i
    rw [hdone] at hended
    obtain ⟨command, hingests, hmem⟩ := hended
    obtain ⟨hcall, hchunk⟩ := hconsistent.chunkOf hingests
    exact ⟨command, hcall, hchunk, hconsistent.answered i _ hmem⟩

/-- The chunk is ingested, and the table keeps its vector in single precision. -/
theorem opening_ingested :
    asked.shared.chunks.rows.map (fun row => (row.content, row.embedding)) =
      [("It closes at five.", along 1 nearTenth), ("It opens at nine.", along 0 nearTenth)] ∧
    (∃ owners added, asked.shared.chunks.rows = known.chunks.rows ++ added ∧ owners.Nodup ∧
      List.Forall₂ (fun i kept => ∃ command chunk, callOf i = .ingest command ∧ ChunkOf singlePrecision command chunk ∧
        singlePrecision.column.kept (toRow chunk) = some kept) owners added) ∧
    ∀ i chunk, asked.rest i = .done (.ingested chunk) → ∃ command, callOf i = .ingest command ∧
      ChunkOf singlePrecision command chunk ∧
      ∃ kept ∈ asked.shared.chunks.rows, singlePrecision.column.kept (toRow chunk) = some kept :=
  ⟨by decide +kernel, ingested_rows (searched_reached.trans asked_reached)⟩

/-- Messages that come back augmented have the nearest rows of their own organization in front, of those that
were there at some time of the run. -/
theorem augmented_messages
    (hreach : Pool.Reaches (concurrent vendors) History.after anyRun (start self calls w₀) pool) {i : ι}
    {result : List Message} (hdone : pool.rest i = .done (.augmented result)) :
    ∃ organization_id messages policy, calls i = .augment organization_id messages policy ∧
      ((policy.enabled = false ∧ result = messages) ∨ policy.enabled = true ∧ ∃ text query_embedding known found,
        resolveRagQuery messages policy.query = .ok text ∧ GivenFor vendors text query_embedding ∧
        w₀.own organization_id <+: known ∧ known <+: pool.shared.own organization_id ∧
        Nearest (fun row => vendors.distance row.embedding query_embedding) policy.top_k.toNat known found ∧
        InFront (found.map (·.content)) messages result) := by
  obtain ⟨hobeys, hconsistent⟩ := reaches_consistent hreach
  have hended := hobeys i
  rw [hdone] at hended
  obtain ⟨organization_id, messages, policy, hcall, hresult⟩ := hended
  refine ⟨organization_id, messages, policy, (hconsistent.calls i).symm.trans hcall, ?_⟩
  rcases hresult with hoff | ⟨hon, query, hits, hretrieves, hfinds, hprepended⟩
  · exact .inl hoff
  · obtain ⟨text, hquery, hembedded⟩ := hretrieves.embedded
    obtain ⟨known, found, hstart, hknown, hnearest, hcontents, -⟩ := hfinds.nearest (hconsistent.answered i)
    have hsame := hcall.symm.trans hretrieves.call
    cases hsame
    rw [hcontents] at hprepended
    rw [hretrieves.limit] at hnearest
    exact .inr ⟨hon, text, query.query_embedding, known, found, hquery, hconsistent.given hembedded, hstart, hknown,
      hnearest, prependRetrievedContext_inFront hprepended⟩

theorem opening_retrieved : ∃ result, asked.rest .asking = .done (.augmented result) ∧
    result.map (·.content) =
      ["Retrieved context (organization knowledge):\n\n1. It opens at nine.", "When does it open?"] ∧
    ∃ organization_id messages policy, callOf .asking = .augment organization_id messages policy ∧
      ((policy.enabled = false ∧ result = messages) ∨ policy.enabled = true ∧ ∃ text query_embedding rows found,
        resolveRagQuery messages policy.query = .ok text ∧ GivenFor singlePrecision text query_embedding ∧
        known.own organization_id <+: rows ∧ rows <+: asked.shared.own organization_id ∧
        Nearest (fun row => singlePrecision.distance row.embedding query_embedding) policy.top_k.toNat rows found ∧
        InFront (found.map (·.content)) messages result) := by
  have hshown : (messagesOf (asked.rest .asking)).map (·.map (·.content)) =
      some ["Retrieved context (organization knowledge):\n\n1. It opens at nine.", "When does it open?"] := by
    decide +kernel
  obtain ⟨result, hresult, hcontents⟩ := Option.map_eq_some_iff.mp hshown
  have hdone := done_of_messages hresult
  exact ⟨result, hdone, hcontents, augmented_messages (searched_reached.trans asked_reached) hdone⟩

theorem later_answers {pool' : Knowing ι D} (hobeys : pool.Obeys (History.rule May) Outcome)
    (hlater : Pool.Reaches (concurrent vendors) History.after anyRun pool pool') {j : ι}
    (hfresh : (pool.note j).steps = []) :
    ∀ step ∈ (pool'.note j).steps, Answered vendors pool.shared pool'.shared step :=
  (grows vendors).later_answers hobeys hlater (fun _ _ _ _ _ _ hstart hreply => Answered.of_reply hstart hreply)
    (fun _ _ _ _ hle hanswered => hanswered.lasts hle) hfresh

/-- A search that begins after the same search has returned finds, at every rank, a row as near as it did. -/
theorem search_improves {pool' : Knowing ι D}
    (hreach : Pool.Reaches (concurrent vendors) History.after anyRun (start self calls w₀) pool)
    (hlater : Pool.Reaches (concurrent vendors) History.after anyRun pool pool') {i j : ι} {query : SemanticSearchQuery}
    {hits hits' : List (SemanticSearchResult D)} (hfirst : calls i = .search query) (hsecond : calls j = .search query)
    (hdone : pool.rest i = .done (.found hits)) (hfresh : (pool.note j).steps = [])
    (hdone' : pool'.rest j = .done (.found hits')) :
    ∀ k, (hk : k < hits.length) → ∃ hk' : k < hits'.length, hits'[k].distance ≤ hits[k].distance := by
  obtain ⟨hobeys, hconsistent⟩ := reaches_consistent hreach
  obtain ⟨hobeys', hconsistent'⟩ := reaches_consistent (hreach.trans hlater)
  have hended := hobeys i
  have hended' := hobeys' j
  rw [hdone] at hended
  rw [hdone'] at hended'
  obtain ⟨query₁, hcall, hfinds⟩ := hended
  obtain ⟨query₂, hcall', hfinds'⟩ := hended'
  cases hfirst.symm.trans ((hconsistent.calls i).symm.trans hcall)
  cases hsecond.symm.trans ((hconsistent'.calls j).symm.trans hcall')
  obtain ⟨known, found, -, hknown, hnearest, -, hdistances⟩ := hfinds.nearest (hconsistent.answered i)
  obtain ⟨known', found', hstart', -, hnearest', -, hdistances'⟩ :=
    hfinds'.nearest (later_answers hobeys hlater hfresh)
  have hlength : hits.length = found.length := by simpa using congrArg List.length hdistances
  have hlength' : hits'.length = found'.length := by simpa using congrArg List.length hdistances'
  intro k hk
  obtain ⟨hk', hle⟩ := hnearest.nearer_among_more hnearest' (hknown.trans hstart').sublist k (hlength ▸ hk)
  refine ⟨hlength' ▸ hk', ?_⟩
  have hat := List.getElem_of_eq hdistances (i := k) (by simpa using hk)
  have hat' := List.getElem_of_eq hdistances' (i := k) (by simpa [hlength'] using hk')
  rw [List.getElem_map, List.getElem_map] at hat hat'
  rw [hat, hat']
  exact hle

theorem opening_found : ∃ hits hits', searched.rest .before = .done (.found hits) ∧
    asked.rest .after = .done (.found hits') ∧ hits.map (·.distance) = [1] ∧ hits'.map (·.distance) = [0] ∧
    ∀ k, (hk : k < hits.length) → ∃ hk' : k < hits'.length, hits'[k].distance ≤ hits[k].distance := by
  have hshown : (hitsOf (searched.rest .before)).map (·.map (·.distance)) = some [1] := by decide +kernel
  have hshown' : (hitsOf (asked.rest .after)).map (·.map (·.distance)) = some [0] := by decide +kernel
  have hfresh : (searched.note .after).steps.length = 0 := by decide +kernel
  obtain ⟨hits, hhits, hdistances⟩ := Option.map_eq_some_iff.mp hshown
  obtain ⟨hits', hhits', hdistances'⟩ := Option.map_eq_some_iff.mp hshown'
  have hdone := done_of_hits hhits
  have hdone' := done_of_hits hhits'
  exact ⟨hits, hits', hdone, hdone', hdistances, hdistances', search_improves searched_reached asked_reached
    (i := .before) (j := .after) (rfl : callOf .before = .search opening) rfl hdone
    (List.eq_nil_of_length_eq_zero hfresh) hdone'⟩

end Results

end AIRuntime.KnowledgeRuns
