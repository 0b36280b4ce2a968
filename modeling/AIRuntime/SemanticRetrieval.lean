import AIRuntime.ApiKeyRecords
import AIRuntime.Collaborators
import AIRuntime.EmbeddingPayloads
import AIRuntime.ResponseSchemas

set_option autoImplicit false

/-!
`domain/semantic_retrieval.py`, `domain/embedding_routing.py`, `domain/rag.py`, the chunk repository and the
use cases over it. A distance is of the database's float type, in the order the database sorts by.
-/
namespace AIRuntime.SemanticRetrieval

open EffectPrograms PythonText Failures CivilTime Identifiers GenerationContracts Collaborators ApiKeyRecords
  EmbeddingPayloads ResponseSchemas

section Chunks

def defaultEmbeddingDimensions : ℕ := 1536

/-- `_validate_embedding`: the text of the error it raises. -/
def embeddingProblem (values : List Float) : Option String :=
  if values.length ≠ defaultEmbeddingDimensions then
    some ("embedding must contain exactly " ++ defaultEmbeddingDimensions.repr ++ " dimensions")
  else if values.any (!·.isFinite) then some "embedding must contain only finite numbers"
  else none

def SemanticChunk.problem (content : String) (embedding : List Float) (created_at : DateTime) : Option String :=
  (requireNonBlank content "content").or <|
  (embeddingProblem embedding).or <|
  if created_at.utcoffset = none then some "created_at must be timezone-aware" else none

structure SemanticChunk where
  id : UUID
  organization_id : UUID
  content : String
  embedding : List Float
  created_at : DateTime
  ok : SemanticChunk.problem content embedding created_at = none

def SemanticChunk.new (id organization_id : UUID) (content : String) (embedding : List Float)
    (created_at : DateTime) : Except Exn SemanticChunk :=
  validated (SemanticChunk.problem content embedding created_at) fun h =>
    ⟨id, organization_id, content, embedding, created_at, h⟩

def SemanticSearchQuery.problem (query_embedding : List Float) (limit : ℤ) : Option String :=
  (embeddingProblem query_embedding).or (if limit ≤ 0 then some "limit must be greater than zero" else none)

structure SemanticSearchQuery where
  organization_id : UUID
  query_embedding : List Float
  limit : ℤ
  ok : SemanticSearchQuery.problem query_embedding limit = none

def SemanticSearchQuery.new (organization_id : UUID) (query_embedding : List Float) (limit : ℤ) :
    Except Exn SemanticSearchQuery :=
  validated (SemanticSearchQuery.problem query_embedding limit) fun h => ⟨organization_id, query_embedding, limit, h⟩

variable {D : Type} [LinearOrder D] [Zero D]

def SemanticSearchResult.problem (content : String) (distance : D) : Option String :=
  (requireNonBlank content "content").or (if distance < 0 then some "distance must not be negative" else none)

structure SemanticSearchResult (D : Type) [LinearOrder D] [Zero D] where
  chunk_id : UUID
  content : String
  distance : D
  ok : SemanticSearchResult.problem content distance = none

def SemanticSearchResult.new (chunk_id : UUID) (content : String) (distance : D) :
    Except Exn (SemanticSearchResult D) :=
  validated (SemanticSearchResult.problem content distance) fun h => ⟨chunk_id, content, distance, h⟩

end Chunks

section Routing

structure EmbeddingRoute where
  model : String
  provider : String
  model_ok : requireNonBlank model "model" = none
  provider_ok : requireNonBlank provider "provider" = none

def EmbeddingRoute.problem (model provider : String) : Option String :=
  (requireNonBlank model "model").or (requireNonBlank provider "provider")

theorem EmbeddingRoute.model_given {model provider : String} (h : EmbeddingRoute.problem model provider = none) :
    requireNonBlank model "model" = none :=
  (Option.or_eq_none_iff.mp h).1

theorem EmbeddingRoute.provider_given {model provider : String} (h : EmbeddingRoute.problem model provider = none) :
    requireNonBlank provider "provider" = none :=
  (Option.or_eq_none_iff.mp h).2

def EmbeddingRoute.new (model provider : String) : Except Exn EmbeddingRoute :=
  validated (EmbeddingRoute.problem model provider) fun h =>
    ⟨model, provider, EmbeddingRoute.model_given h, EmbeddingRoute.provider_given h⟩

abbrev EmbeddingCatalog := String → Option String

def defaultEmbeddingCatalog : EmbeddingCatalog := fun model =>
  [("text-embedding-3-small", "openai"), ("text-embedding-3-large", "openai")].lookup model

def resolveEmbeddingRoute (requested_model : String) (catalog : EmbeddingCatalog) : Except Exn EmbeddingRoute :=
  match requireNonBlank requested_model "requested_model" with
  | some message => .error (.domainValidation message)
  | none =>
    match catalog requested_model with
    | none => .error (.unsupportedModel requested_model)
    | some provider => EmbeddingRoute.new requested_model provider

end Routing

section Policies

def RagPolicy.problem (query : Option String) (top_k : ℤ) (embedding_model : String) : Option String :=
  (requireNonBlank embedding_model "embedding_model").or <|
  if top_k ≤ 0 then some "top_k must be greater than zero"
  else if top_k > maxRagTopK then some ("top_k must not exceed " ++ maxRagTopK.repr)
  else query.bind (requireNonBlank · "query")

structure RagPolicy where
  enabled : Bool
  query : Option String
  top_k : ℤ
  embedding_model : String
  ok : RagPolicy.problem query top_k embedding_model = none

def RagPolicy.new (enabled : Bool) (query : Option String) (top_k : ℤ) (embedding_model : String) :
    Except Exn RagPolicy :=
  validated (RagPolicy.problem query top_k embedding_model) fun h => ⟨enabled, query, top_k, embedding_model, h⟩

/-- `message.role is MessageRole.USER and message.content.strip()`. -/
def isUserText (message : Message) : Bool := message.role = .user && !isBlank message.content

def resolveRagQuery (messages : List Message) (query : Option String) : Except Exn String :=
  match query with
  | some text => .ok (strip text)
  | none =>
    match messages.reverse.find? isUserText with
    | some message => .ok (strip message.content)
    | none => .error (.domainValidation "rag requires a non-empty user message or an explicit query")

def retrievedContextHeader : String := "Retrieved context (organization knowledge):"

/-- The items of `enumerate(chunks, start=1)`, one line for each. -/
def numbered (chunks : List String) : List String :=
  chunks.zipIdx.map fun entry => (entry.2 + 1).repr ++ ". " ++ entry.1

def formatRetrievedContext (chunks : List String) : String :=
  if chunks.isEmpty then "" else retrievedContextHeader ++ "\n\n" ++ "\n".intercalate (numbered chunks)

def prependRetrievedContext (messages : List Message) (chunks : List String) : Except Exn (List Message) :=
  if formatRetrievedContext chunks = "" then .ok messages
  else do
    let context ← Message.new .system (formatRetrievedContext chunks) none none []
    .ok (context :: messages)

end Policies

section Repository

structure SemanticChunkRow where
  id : UUID
  organization_id : UUID
  content : String
  embedding : List Float
  created_at : DateTime

/-- `failed` is any other exception. -/
inductive ChunkExn where
  | organizationNotFound (organization_id : UUID)
  | failed (err : Exn)

/-- `selectNearest` is the statement of `search`; `embed` calls the adapter of a provider. -/
inductive ChunkCommand : Type where
  | utcNow
  | uuid4
  | embed (provider : String) (request : EmbeddingRequest)
  | getOrganization (organization_id : UUID)
  | insertCommit (row : SemanticChunkRow)
  | selectNearest (organization_id : UUID) (query_embedding : List Float) (limit : ℤ)

@[reducible]
def ChunkResponse (D : Type) : ChunkCommand → Type
  | .utcNow => UtcInstant
  | .uuid4 => UUID
  | .embed _ _ => Except Exn EmbeddingResponse
  | .getOrganization _ => Except Exn (Option Organization)
  | .insertCommit _ => Except Exn Unit
  | .selectNearest _ _ _ => Except Exn (List (SemanticChunkRow × D))

abbrev ChunkAction (D α : Type) := Prog ChunkCommand (ChunkResponse D) Empty ChunkExn α

abbrev ChunkCommand.ask {D : Type} (c : ChunkCommand) : ChunkAction D (ChunkResponse D c) := Prog.ask c

def raising {D α : Type} (result : Except Exn α) : ChunkAction D α := Prog.ofExcept (result.mapError .failed)

@[simp] theorem raising_ok {D α : Type} (a : α) : (raising (.ok a) : ChunkAction D α) = .done a := rfl

@[simp] theorem raising_error {D α : Type} (err : Exn) :
    (raising (.error err) : ChunkAction D α) = .raise (.failed err) := rfl

def toRow (chunk : SemanticChunk) : SemanticChunkRow :=
  ⟨chunk.id, chunk.organization_id, chunk.content, chunk.embedding, chunk.created_at⟩

def toDomain (row : SemanticChunkRow) : Except Exn SemanticChunk :=
  SemanticChunk.new row.id row.organization_id row.content row.embedding row.created_at

variable {D : Type} [LinearOrder D] [Zero D]

def addChunk (chunk : SemanticChunk) : ChunkAction D SemanticChunk := do
  let _ ← raising (← (ChunkCommand.insertCommit (toRow chunk)).ask)
  raising (toDomain (toRow chunk))

/-- `SqlAlchemySemanticRetrievalRepository.search`, and `SearchSemanticChunks.execute` that calls it. -/
def searchSemanticChunks (query : SemanticSearchQuery) : ChunkAction D (List (SemanticSearchResult D)) := do
  let rows ← raising
    (← (ChunkCommand.selectNearest query.organization_id query.query_embedding query.limit).ask)
  raising (rows.mapM fun hit => SemanticSearchResult.new hit.1.id hit.1.content hit.2)

end Repository

section UseCases

variable {D : Type} [LinearOrder D] [Zero D]

structure IndexSemanticChunkCommand where
  organization_id : UUID
  content : String
  embedding : List Float

def indexSemanticChunk (command : IndexSemanticChunkCommand) : ChunkAction D SemanticChunk := do
  match ← raising (← (ChunkCommand.getOrganization command.organization_id).ask) with
  | none => .raise (.organizationNotFound command.organization_id)
  | some _ =>
    let now ← ChunkCommand.utcNow.ask
    let id ← ChunkCommand.uuid4.ask
    let chunk ← raising
      (SemanticChunk.new id command.organization_id command.content command.embedding now.val)
    addChunk chunk

/-- The embedding adapters that are registered, and the catalog that names them. -/
structure Embedders where
  providers : String → Bool
  catalog : EmbeddingCatalog

def EmbeddingRequest.new (model : String) (input : List String) (dimensions : Option ℤ) : Except Exn EmbeddingRequest :=
  validated (EmbeddingRequest.problem model input dimensions) fun h => ⟨model, input, dimensions, h⟩

def firstVector (embedding : EmbeddingResponse) : Except Exn (List Float) :=
  match embedding.data with
  | [] => .error (.other "IndexError")
  | vector :: _ => .ok vector.values

/-- The lines by which both use cases get the vector of one text. -/
def embedText (self : Embedders) (embedding_model text : String) : ChunkAction D (List Float) := do
  let route ← raising (resolveEmbeddingRoute embedding_model self.catalog)
  if !self.providers route.provider then .raise (.failed (.providerNotRegistered route.provider))
  else
    let request ← raising (EmbeddingRequest.new route.model [text] (some defaultEmbeddingDimensions))
    let embedding ← raising (← (ChunkCommand.embed route.provider request).ask)
    raising (firstVector embedding)

structure IngestSemanticChunkCommand where
  organization_id : UUID
  content : String
  embedding_model : String

def ingestSemanticChunk (self : Embedders) (command : IngestSemanticChunkCommand) : ChunkAction D SemanticChunk := do
  let vector ← embedText self command.embedding_model command.content
  indexSemanticChunk ⟨command.organization_id, command.content, vector⟩

def augmentMessagesWithRag (self : Embedders) (organization_id : UUID) (messages : List Message)
    (policy : RagPolicy) : ChunkAction D (List Message) := do
  if !policy.enabled then .done messages
  else
    let query_text ← raising (resolveRagQuery messages policy.query)
    let query_vector ← embedText self policy.embedding_model query_text
    let query ← raising (SemanticSearchQuery.new organization_id query_vector policy.top_k)
    let hits ← searchSemanticChunks (D := D) query
    raising (prependRetrievedContext messages (hits.map (·.content)))

end UseCases

end AIRuntime.SemanticRetrieval
