import AIRuntime.ContextTruncation
import AIRuntime.DurableRecords
import AIRuntime.KnowledgeRuns
import AIRuntime.ProviderTraffic
import AIRuntime.RequestPipeline

set_option autoImplicit false

/-! What a request to `post_responses` does, in every execution of it. -/
namespace AIRuntime.PipelineRuns

open EffectPrograms PythonText Identifiers Failures GenerationContracts Collaborators ResponseSchemas ContextBudget
  PromptRecords PromptRendering McpTools SemanticRetrieval ResponseCreation StreamBodies RequestPipeline
  ProviderTraffic KnowledgeRuns

section Servers

variable {organization_id : UUID} {name : String} {names : List String} {merged tools : List ToolDefinition}
  {seen : Finset String} {t : List (Obs McpCommand McpResponse Empty)}

def ListedBy (organization_id : UUID) (names : List String) (t : List (Obs McpCommand McpResponse Empty))
    (tool : ToolDefinition) : Prop :=
  ∃ name ∈ names, ∃ server listed, .asked (.getByName organization_id name) (.ok (some server)) ∈ t ∧
    .asked (.listTools server) (.ok listed) ∈ t ∧ ∃ own ∈ listed, namespacedTool name own = .ok tool

theorem ListedBy.mono {names' : List String} {t' : List (Obs McpCommand McpResponse Empty)} {tool : ToolDefinition}
    (h : ListedBy organization_id names t tool) (hnames : ∀ name ∈ names, name ∈ names') (ht : ∀ o ∈ t, o ∈ t') :
    ListedBy organization_id names' t' tool := by
  obtain ⟨name, hname, server, listed, hget, hlist, hown⟩ := h
  exact ⟨name, hnames _ hname, server, listed, ht _ hget, ht _ hlist, hown⟩

theorem exec_raising {α : Type} {result : Except Exn α} {o : Except McpExn α}
    (h : Prog.Exec (McpTools.raising result) t o) :
    t = [] ∧ o = result.mapError .failed :=
  Prog.exec_ofExcept.mp h

theorem listMcpServerTools_ok (h : Prog.Exec (listMcpServerTools organization_id name) t (.ok tools)) :
    ∀ tool ∈ tools, ListedBy organization_id [name] t tool := by
  unfold listMcpServerTools at h
  simp only [Prog.bind_eq, Prog.ask_bind] at h
  obtain ⟨_, t₁, t₂, ht, -, hcall⟩ := Prog.exec_bind_ok h
  obtain ⟨found, t₃, ht₂, hfound⟩ := Prog.exec_call.mp hcall
  obtain ⟨got, t₄, t₅, ht₃, hgot, hserver⟩ := Prog.exec_bind_ok hfound
  obtain ⟨ht₄, hfound⟩ := Prog.exec_ofExcept.mp hgot
  cases got with
  | none => cases (Prog.exec_raise.mp hserver).2
  | some server =>
    obtain ⟨answer, t₆, ht₅, hanswer⟩ := Prog.exec_call.mp hserver
    obtain ⟨listed, t₇, t₈, ht₆, hlisted, hnamed⟩ := Prog.exec_bind_ok hanswer
    obtain ⟨-, hanswer⟩ := Prog.exec_ofExcept.mp hlisted
    obtain ⟨-, htools⟩ := exec_raising hnamed
    rw [ht, ht₂, ht₃, ht₄, ht₅, ← hfound, ← hanswer]
    cases hmapped : listed.mapM (namespacedTool name) with
    | error err =>
      rw [hmapped] at htools
      cases htools
    | ok mapped =>
      rw [hmapped] at htools
      cases htools
      intro tool htool
      obtain ⟨own, hown, hnamed⟩ := Traversals.exists_left (Traversals.mapM_ok_iff.mp hmapped) htool
      exact ⟨name, List.mem_singleton_self name, server, listed, by simp, by simp, own, hown, hnamed⟩

theorem mergeServers_ok (h : Prog.Exec (mergeServers organization_id names merged seen) t (.ok tools)) :
    ∃ more, tools = merged ++ more ∧ Fresh seen more ∧ ∀ tool ∈ more, ListedBy organization_id names t tool := by
  induction names generalizing merged seen t with
  | nil =>
    obtain ⟨-, htools⟩ := Prog.exec_done.mp h
    cases htools
    exact ⟨[], (List.append_nil _).symm, fresh_nil seen, fun tool hmem => absurd hmem List.not_mem_nil⟩
  | cons name names ih =>
    obtain ⟨_, t₁, t₂, ht, -, hlist⟩ := Prog.exec_bind_ok h
    obtain ⟨discovered, t₃, t₄, ht₂, hlisted, hmerge⟩ := Prog.exec_bind_ok hlist
    obtain ⟨next, t₅, t₆, ht₄, hmerged, hrest⟩ := Prog.exec_bind_ok hmerge
    obtain ⟨-, hnext⟩ := exec_raising hmerged
    rw [ht, ht₂, ht₄]
    by_cases hfresh : Fresh seen discovered
    · rw [mergeTools_fresh hfresh] at hnext
      cases hnext
      obtain ⟨more, hmore, hfresh', horigin⟩ := ih hrest
      refine ⟨discovered ++ more, by rw [hmore, List.append_assoc], fresh_append.mpr ⟨hfresh, hfresh'⟩, ?_⟩
      intro tool hmem
      rcases List.mem_append.mp hmem with hmem | hmem
      · exact (listMcpServerTools_ok hlisted tool hmem).mono (by simp) (by simp +contextual)
      · exact (horigin tool hmem).mono (fun _ => List.mem_cons_of_mem _) (by simp +contextual)
    · obtain ⟨message, hstale⟩ := @mergeTools_stale merged discovered seen hfresh
      rw [hstale] at hnext
      cases hnext

end Servers

section Prompts

variable {organization_id : UUID} {t : List (Obs PromptCommand PromptResponse Empty)}

theorem getVersion_ok {name : String} {version : Option ℤ} {template : PromptTemplate}
    (h : Prog.Exec (getVersion organization_id name version) t (.ok (some template))) :
    ∃ row, .asked (.selectLatest organization_id name version) (.ok (some row)) ∈ t ∧
      PromptRecords.toDomain row = .ok template := by
  unfold getVersion at h
  simp only [Prog.bind_eq, Prog.ask_bind] at h
  obtain ⟨answer, t₁, ht, hanswer⟩ := Prog.exec_call.mp h
  obtain ⟨found, t₂, t₃, -, hfound, hrow⟩ := Prog.exec_bind_ok hanswer
  obtain ⟨-, hfound⟩ := Prog.exec_ofExcept.mp hfound
  cases found with
  | none => cases (Prog.exec_done.mp hrow).2
  | some row =>
    obtain ⟨got, t₄, t₅, -, hgot, hdone⟩ := Prog.exec_bind_ok hrow
    obtain ⟨-, hgot⟩ := Prog.exec_ofExcept.mp hgot
    cases (Prog.exec_done.mp hdone).2
    have hread : answer = .ok (some row) := by
      cases answer with
      | ok found =>
        cases hfound
        rfl
      | error err => cases hfound
    refine ⟨row, by rw [ht, hread]; exact List.mem_cons_self, ?_⟩
    cases hdomain : PromptRecords.toDomain row with
    | ok template =>
      rw [hdomain] at hgot
      cases hgot
      rfl
    | error err =>
      rw [hdomain] at hgot
      cases hgot

theorem resolvePrompt_ok {reference : PromptReference} {base : List Message}
    (h : Prog.Exec (resolvePrompt organization_id reference) t (.ok base)) :
    ∃ row template, .asked (.selectLatest organization_id reference.name reference.version) (.ok (some row)) ∈ t ∧
      PromptRecords.toDomain row = .ok template ∧ render template reference.variable_map = .ok base := by
  obtain ⟨got, t₁, t₂, ht, hgot, hrender⟩ := Prog.exec_bind_ok h
  obtain ⟨o, ho, hgot⟩ := Prog.exec_attempt.mp hgot
  cases ho
  cases got with
  | error err => cases (Prog.exec_raise.mp hrender).2
  | ok found =>
    cases found with
    | none => cases (Prog.exec_raise.mp hrender).2
    | some template =>
      obtain ⟨row, hread, hrow⟩ := getVersion_ok hgot
      refine ⟨row, template, by rw [ht]; exact List.mem_append_left _ hread, hrow, ?_⟩
      obtain ⟨-, hrendered⟩ := Prog.exec_ofExcept.mp hrender
      cases hresult : render template reference.variable_map with
      | ok messages =>
        rw [hresult] at hrendered
        cases hrendered
        rfl
      | error err =>
        rw [hresult] at hrendered
        cases hrendered

end Prompts

section Budgets

variable {self : BuildContext} {model : String} {tools : List ToolDefinition} {max_output_tokens : Option ℤ}
  {policy : ContextPolicy} {messages kept : List Message}

theorem without_sublist {α : Type} (dropped : List ℕ) (l : List α) : (ListPositions.without dropped l).Sublist l := by
  have hmap := (List.filter_sublist (l := l.zipIdx) (p := fun p => decide (p.2 ∉ dropped))).map Prod.fst
  rwa [List.zipIdx_map_fst] at hmap

theorem firstUnits_not_system {j i : ℕ} (hi : i ∈ ((groupUnits messages).dropLast.take j).flatten) :
    ∃ m, messages[i]? = some m ∧ m.role ≠ .system := by
  have hsub : ((groupUnits messages).dropLast.take j).flatten.Sublist (positions messages) := by
    rw [← (groupUnits_partition messages).1]
    exact ((List.take_sublist j _).trans (List.dropLast_sublist _)).flatten
  exact mem_positions.mp (hsub.subset hi)

/-- Whatever the policy, a builder only leaves out messages, and no system message. -/
theorem execute_keeps (h : self.execute model messages tools max_output_tokens policy = .ok kept) :
    kept.Sublist messages ∧ (∀ m ∈ messages, m.role = .system → m ∈ kept) ∧
      ∀ limit, self.budget model max_output_tokens policy = some limit →
        self.counter.countTools tools + (kept.map self.counter.countMessage).sum ≤ limit := by
  unfold BuildContext.execute at h
  cases hbudget : self.budget model max_output_tokens policy with
  | none =>
    rw [hbudget] at h
    cases h
    exact ⟨.refl _, fun m hm _ => hm, nofun⟩
  | some limit =>
    rw [hbudget] at h
    simp only at h
    split_ifs at h with hfits htruncate hover
    · cases h
      refine ⟨.refl _, fun m hm _ => hm, ?_⟩
      rintro limit' ⟨⟩
      exact hfits
    · cases h
      obtain ⟨j, -, heq, -, -⟩ := dropUnits_eq (messages.map self.counter.countMessage) limit
        (groupUnits messages).dropLast [] (self.counter.countTools tools + (messages.map self.counter.countMessage).sum)
      obtain ⟨hnodup, hin⟩ := prefix_droppable messages j
      rw [heq, List.nil_append] at hover ⊢
      refine ⟨without_sublist _ _, ?_, ?_⟩
      · intro m hm hsystem
        obtain ⟨i, hi⟩ := List.mem_iff_getElem?.mp hm
        refine ListPositions.mem_without.mpr ⟨i, hi, fun hdropped => ?_⟩
        obtain ⟨m', hget, hrole⟩ := firstUnits_not_system hdropped
        rw [hi] at hget
        cases hget
        exact hrole hsystem
      · rintro limit' ⟨⟩
        rw [ListPositions.without_sum self.counter.countMessage hnodup hin]
        omega

end Budgets

section Sources

variable {D : Type}

abbrev SystemStep (D : Type) := Step SystemCommand (JointResponse (PartResponse D))

/-- The messages that a request starts from: its own, or those of the prompt version that was read for it. -/
inductive Starts (organization_id : UUID) (body : CreateResponseRequest) (steps : List (SystemStep D)) :
    List Message → Prop where
  | own {messages : List MessageSchema} {base : List Message} (hbody : body.messages = some messages)
      (hbase : messages.mapM MessageSchema.toDomain = .ok base) : Starts organization_id body steps base
  | prompt {schema : PromptReferenceSchema} {reference : PromptReference} {row : PromptTemplateRow}
      {template : PromptTemplate} {base : List Message} (hbody : body.prompt = some schema)
      (hreference : schema.toDomain = .ok reference)
      (hread : ⟨⟨.prompts, .selectLatest organization_id reference.name reference.version⟩, .ok (some row)⟩ ∈ steps)
      (hrow : PromptRecords.toDomain row = .ok template)
      (hrender : render template reference.variable_map = .ok base) : Starts organization_id body steps base

inductive Retrieves (organization_id : UUID) (body : CreateResponseRequest) (steps : List (SystemStep D))
    (base : List Message) : List Message → Prop where
  | nothing (hoff : body.ragEnabled = false) : Retrieves organization_id body steps base base
  | rows {rag : RagSchema} {query_embedding : List Float} {rows : List (SemanticChunkRow × D)} {current : List Message}
      (hbody : body.rag = some rag) (hon : rag.enabled = true)
      (hfound : ⟨⟨.knowledge, .selectNearest organization_id query_embedding rag.top_k⟩, .ok rows⟩ ∈ steps)
      (hfront : InFront (rows.map fun hit => hit.1.content) base current) :
      Retrieves organization_id body steps base current

def Discovered (organization_id : UUID) (names : List String) (steps : List (SystemStep D)) (tool : ToolDefinition) :
    Prop :=
  ∃ name ∈ names, ∃ server listed, ⟨⟨.servers, .getByName organization_id name⟩, .ok (some server)⟩ ∈ steps ∧
    ⟨⟨.servers, .listTools server⟩, .ok listed⟩ ∈ steps ∧ ∃ own ∈ listed, namespacedTool name own = .ok tool

/-- The tools of the request, before those that were discovered, whose names are new. -/
def Collects (organization_id : UUID) (body : CreateResponseRequest) (steps : List (SystemStep D))
    (tools : List ToolDefinition) : Prop :=
  ∃ own more, body.tools.mapM ToolDefinitionSchema.toDomain = .ok own ∧ tools = own ++ more ∧
    Fresh (namesOf own).toFinset more ∧
    ∀ tool ∈ more, ∃ mcp, body.mcp = some mcp ∧ Discovered organization_id mcp.servers steps tool

/-- Messages that are sent: nothing is added, no system message goes, and the cost is within the budget. -/
structure Keeps (build_context : BuildContext) (body : CreateResponseRequest) (current : List Message)
    (tools : List ToolDefinition) (kept : List Message) : Prop where
  sublist : kept.Sublist current
  system : ∀ m ∈ current, m.role = .system → m ∈ kept
  fits : body.needsContextCheck = true → ∀ policy limit, contextPolicy body = .ok policy →
    build_context.budget body.model body.max_output_tokens policy = some limit →
    build_context.counter.countTools tools + (kept.map build_context.counter.countMessage).sum ≤ limit

/-- Where the parts of a request come from that is served for an organization. -/
structure Assembled (application : Application) (organization_id : UUID) (body : CreateResponseRequest)
    (steps : List (SystemStep D)) (request : GenerationRequest) : Prop where
  messages : ∃ base current, Starts organization_id body steps base ∧ Retrieves organization_id body steps base current ∧
    Keeps application.build_context body current request.tools request.messages
  tools : Collects organization_id body steps request.tools
  model : request.model = body.model
  temperature : request.temperature = body.temperature
  max_output_tokens : request.max_output_tokens = body.max_output_tokens
  stream : request.stream = body.stream
  cache : request.cache = body.cache

variable {organization_id : UUID} {body : CreateResponseRequest} {steps steps' : List (SystemStep D)}
  {base current : List Message} {self : Application} {request : GenerationRequest}

theorem Starts.mono (h : Starts organization_id body steps base) (hmore : ∀ step ∈ steps, step ∈ steps') :
    Starts organization_id body steps' base := by
  cases h with
  | own hbody hbase => exact .own hbody hbase
  | prompt hbody hreference hread hrow hrender => exact .prompt hbody hreference (hmore _ hread) hrow hrender

theorem Retrieves.mono (h : Retrieves organization_id body steps base current)
    (hmore : ∀ step ∈ steps, step ∈ steps') : Retrieves organization_id body steps' base current := by
  cases h with
  | nothing hoff => exact .nothing hoff
  | rows hbody hon hfound hfront => exact .rows hbody hon (hmore _ hfound) hfront

theorem Collects.mono {tools : List ToolDefinition} (h : Collects organization_id body steps tools)
    (hmore : ∀ step ∈ steps, step ∈ steps') : Collects organization_id body steps' tools := by
  obtain ⟨own, more, hown, htools, hfresh, horigin⟩ := h
  refine ⟨own, more, hown, htools, hfresh, ?_⟩
  intro tool hmem
  obtain ⟨mcp, hbody, name, hname, server, listed, hget, hlist, hnamed⟩ := horigin tool hmem
  exact ⟨mcp, hbody, name, hname, server, listed, hmore _ hget, hmore _ hlist, hnamed⟩

theorem Assembled.mono (h : Assembled self organization_id body steps request)
    (hmore : ∀ step ∈ steps, step ∈ steps') : Assembled self organization_id body steps' request := by
  obtain ⟨base, current, hstarts, hretrieves, hkeeps⟩ := h.messages
  exact ⟨⟨base, current, hstarts.mono hmore, hretrieves.mono hmore, hkeeps⟩, h.tools.mono hmore, h.model, h.temperature,
    h.max_output_tokens, h.stream, h.cache⟩

end Sources

section Stages

variable {D : Type} {self : Application} {principal : Principal} {body : CreateResponseRequest}
  {t t' : List (SystemObs D Empty)} {base current : List Message} {messages : Option (List Message)}

theorem message_isOk (schema : MessageSchema) : ∃ m, schema.toDomain = .ok m := by
  have hvalid := schema.valid
  cases hm : schema.toDomain with
  | ok m => exact ⟨m, rfl⟩
  | error err =>
    unfold MessageSchema.toDomain at hm
    rw [hm] at hvalid
    cases hvalid

theorem own_messages_isOk (messages : List MessageSchema) : ∃ base, messages.mapM MessageSchema.toDomain = .ok base := by
  obtain ⟨base, hbase⟩ := Traversals.forall₂_of_exists fun schema (_ : schema ∈ messages) => message_isOk schema
  exact ⟨base, Traversals.mapM_ok_iff.mpr hbase⟩

theorem exec_failing {α : Type} {result : Except Exn α} {a : α}
    (h : Prog.Exec (failing result : Endpoint D Empty α) t (.ok a)) : t = [] ∧ result = .ok a := by
  obtain ⟨ht, ho⟩ := Prog.exec_ofExcept.mp h
  cases result with
  | ok b =>
    cases ho
    exact ⟨ht, rfl⟩
  | error err => cases ho

/-- What a part is answered in a stretch of the trace is among the steps of it. -/
theorem step_within {part : Part} {c : PartCommand part} {r : PartResponse D part c}
    {alone : List (Obs (PartCommand part) (PartResponse D part) Empty)} (h : .asked c r ∈ alone)
    (ht : ∀ o ∈ alone.map (Obs.within part), o ∈ t) : (⟨⟨part, c⟩, r⟩ : SystemStep D) ∈ Obs.steps t :=
  Obs.mem_steps.mpr (ht _ (List.mem_map_of_mem (f := Obs.within part) h))

theorem renderPrompt_ok (h : Prog.Exec (renderPrompt principal body : Endpoint D Empty _) t (.ok messages)) :
    ∃ base, Starts principal.organization_id body (Obs.steps t) base ∧ currentMessages body messages = .ok base := by
  unfold renderPrompt at h
  cases hprompt : body.prompt with
  | none =>
    rw [hprompt] at h
    obtain ⟨-, hmessages⟩ := Prog.exec_done.mp h
    cases hmessages
    have hone := body.valid.one_of
    cases hbody : body.messages with
    | none =>
      rw [hprompt, hbody] at hone
      exact absurd rfl hone
    | some own =>
      obtain ⟨base, hbase⟩ := own_messages_isOk own
      refine ⟨base, .own hbody hbase, ?_⟩
      unfold currentMessages
      rw [hbody]
      exact hbase
  | some schema =>
    rw [hprompt] at h
    obtain ⟨reference, t₁, t₂, ht, hreference, h⟩ := Prog.exec_bind_ok h
    obtain ⟨-, hreference⟩ := exec_failing hreference
    obtain ⟨base, t₃, t₄, ht₂, hresolved, hdone⟩ := Prog.exec_bind_ok h
    obtain ⟨-, hmessages⟩ := Prog.exec_done.mp hdone
    cases hmessages
    obtain ⟨alone, ht₃, hresolved⟩ := Prog.exec_within_ok hresolved
    obtain ⟨row, template, hread, hrow, hrender⟩ := resolvePrompt_ok hresolved
    exact ⟨base, .prompt hprompt hreference (step_within hread (by simp +contextual [ht, ht₂, ht₃])) hrow hrender, rfl⟩

theorem collectTools_ok {tools : List ToolDefinition}
    (h : Prog.Exec (collectTools principal body : Endpoint D Empty _) t (.ok tools)) :
    Collects principal.organization_id body (Obs.steps t) tools := by
  obtain ⟨own, t₁, t₂, ht, hown, hmcp⟩ := Prog.exec_bind_ok h
  obtain ⟨-, hown⟩ := exec_failing hown
  cases hbody : body.mcp with
  | none =>
    rw [hbody] at hmcp
    cases (Prog.exec_done.mp hmcp).2
    exact ⟨_, [], hown, (List.append_nil _).symm, fresh_nil _, fun tool hmem => absurd hmem List.not_mem_nil⟩
  | some mcp =>
    rw [hbody] at hmcp
    have hservers : mcp.servers.isEmpty = false := by simpa using mcp.ok
    simp only [hservers, Bool.false_eq_true, ↓reduceIte] at hmcp
    obtain ⟨alone, ht₂, hresolved⟩ := Prog.exec_within_ok hmcp
    obtain ⟨more, hmore, hfresh, horigin⟩ := mergeServers_ok hresolved
    refine ⟨own, more, hown, hmore, hfresh, ?_⟩
    intro tool hmem
    obtain ⟨name, hname, server, listed, hget, hlist, hnamed⟩ := horigin tool hmem
    have hpart : ∀ o ∈ alone.map (Obs.within .servers), o ∈ t := by simp +contextual [ht, ht₂]
    exact ⟨mcp, hbody, name, hname, server, listed, step_within hget hpart, step_within hlist hpart, hnamed⟩

theorem budget_ok {tools : List ToolDefinition} {budgeted : Option (List Message)}
    (hcurrent : currentMessages body messages = .ok current)
    (h : Prog.Exec (budget self body messages tools : Endpoint D Empty _) t (.ok budgeted)) :
    ∃ kept, currentMessages body budgeted = .ok kept ∧ Keeps self.build_context body current tools kept := by
  unfold RequestPipeline.budget at h
  split at h
  · rename_i hcheck
    cases (Prog.exec_done.mp h).2
    refine ⟨current, hcurrent, .refl _, fun m hm _ => hm, fun hneeds => ?_⟩
    rw [hneeds] at hcheck
    cases hcheck
  · obtain ⟨current', t₁, t₂, -, hcurrent', h⟩ := Prog.exec_bind_ok h
    obtain ⟨-, hcurrent'⟩ := exec_failing hcurrent'
    rw [hcurrent] at hcurrent'
    cases hcurrent'
    obtain ⟨policy, t₃, t₄, -, hpolicy, h⟩ := Prog.exec_bind_ok h
    obtain ⟨-, hpolicy⟩ := exec_failing hpolicy
    cases hbuilt : self.build_context.execute body.model current tools body.max_output_tokens policy with
    | error err =>
      simp only [hbuilt] at h
      cases (Prog.exec_raise.mp h).2
    | ok kept =>
      simp only [hbuilt] at h
      cases (Prog.exec_done.mp h).2
      obtain ⟨hsublist, hsystem, hfits⟩ := execute_keeps hbuilt
      refine ⟨kept, rfl, hsublist, hsystem, ?_⟩
      rintro - policy' limit hpolicy' hlimit
      rw [hpolicy] at hpolicy'
      cases hpolicy'
      exact hfits limit hlimit

theorem commandOf_ok {request_id : String} {header : Option String} {tools : List ToolDefinition}
    {command : CreateResponseCommand} (hcurrent : currentMessages body messages = .ok current)
    (h : Prog.Exec (commandOf principal body request_id header messages tools : Endpoint D Empty _) t (.ok command)) :
    GenerationRequest.new body.model current body.temperature body.max_output_tokens body.stream tools body.cache =
      .ok command.request ∧ command.organization_id = principal.organization_id ∧
      parseIdempotencyKey header = .ok command.idempotency_key := by
  obtain ⟨request, t₁, t₂, -, hrequest, h⟩ := Prog.exec_bind_ok h
  obtain ⟨-, hrequest⟩ := exec_failing hrequest
  obtain ⟨key, t₃, t₄, -, hkey, h⟩ := Prog.exec_bind_ok h
  obtain ⟨-, hkey⟩ := Prog.exec_ofExcept.mp hkey
  cases (Prog.exec_done.mp h).2
  refine ⟨?_, rfl, hkey.symm⟩
  unfold CreateResponseRequest.toDomain at hrequest
  cases messages with
  | some messages =>
    cases hcurrent
    exact hrequest
  | none =>
    have hown : (body.messages.getD []).mapM MessageSchema.toDomain = .ok current := hcurrent
    simp only [hown] at hrequest
    exact hrequest

variable [LinearOrder D] [Zero D]

theorem retrieve_ok {retrieved : Option (List Message)} (hbase : currentMessages body messages = .ok base)
    (h : Prog.Exec (retrieve self principal body messages : Endpoint D Empty _) t (.ok retrieved)) :
    ∃ current, Retrieves principal.organization_id body (Obs.steps t) base current ∧
      currentMessages body retrieved = .ok current := by
  unfold retrieve at h
  cases hbody : body.rag with
  | none =>
    rw [hbody] at h
    cases (Prog.exec_done.mp h).2
    refine ⟨base, .nothing ?_, hbase⟩
    unfold CreateResponseRequest.ragEnabled
    rw [hbody]
    rfl
  | some rag =>
    rw [hbody] at h
    cases hon : rag.enabled with
    | false =>
      simp only [hon, Bool.not_false, ↓reduceIte] at h
      cases (Prog.exec_done.mp h).2
      refine ⟨base, .nothing ?_, hbase⟩
      unfold CreateResponseRequest.ragEnabled
      rw [hbody]
      exact hon
    | true =>
      simp only [hon, Bool.not_true, Bool.false_eq_true, ↓reduceIte] at h
      obtain ⟨base', t₁, t₂, ht, hbase', h⟩ := Prog.exec_bind_ok h
      obtain ⟨-, hbase'⟩ := exec_failing hbase'
      rw [hbase] at hbase'
      cases hbase'
      obtain ⟨policy, t₃, t₄, ht₂, hpolicy, h⟩ := Prog.exec_bind_ok h
      obtain ⟨-, hpolicy⟩ := exec_failing hpolicy
      obtain ⟨_, rfl⟩ := of_validated hpolicy
      obtain ⟨current, t₅, t₆, ht₄, hcurrent, h⟩ := Prog.exec_bind_ok h
      cases (Prog.exec_done.mp h).2
      obtain ⟨alone, ht₅, hcurrent⟩ := Prog.exec_within_ok hcurrent
      have hcall : ∀ call : KnowledgeRuns.Call, (⟨call, []⟩ : KnowledgeRuns.Told D).call = call := fun _ => rfl
      have hended := hcurrent.told (augmentMessagesWithRag_spec (hcall _))
      obtain ⟨organization_id, base', policy', hcall, hresult⟩ := hended
      cases hcall
      rcases hresult with ⟨hoff, -⟩ | ⟨-, query, hits, hretrieves, ⟨rows, hfound, hhits⟩, hprepended⟩
      · rw [hon] at hoff
        cases hoff
      · obtain ⟨horganization, -⟩ := Call.augment.inj hretrieves.call
        rw [List.nil_append, Obs.mem_steps, hretrieves.limit, ← horganization] at hfound
        rw [(hits_of_rows hhits).1] at hprepended
        have hstep := step_within hfound (t := t) (by simp +contextual [ht, ht₂, ht₄, ht₅])
        exact ⟨current, .rows hbody hon hstep (prependRetrievedContext_inFront hprepended), rfl⟩

theorem prepare_ok {request_id : String} {header : Option String} {command : CreateResponseCommand}
    (h : Prog.Exec (prepare self principal body request_id header : Endpoint D Empty _) t (.ok command)) :
    Assembled self principal.organization_id body (Obs.steps t) command.request ∧
      command.organization_id = principal.organization_id ∧
      parseIdempotencyKey header = .ok command.idempotency_key := by
  obtain ⟨rendered, t₁, t₂, ht, hrendered, h⟩ := Prog.exec_bind_ok h
  obtain ⟨retrieved, t₃, t₄, ht₂, hretrieved, h⟩ := Prog.exec_bind_ok h
  obtain ⟨tools, t₅, t₆, ht₄, htools, h⟩ := Prog.exec_bind_ok h
  obtain ⟨budgeted, t₇, t₈, ht₆, hbudgeted, hcommand⟩ := Prog.exec_bind_ok h
  have hsteps : Obs.steps t = Obs.steps t₁ ++ (Obs.steps t₃ ++ (Obs.steps t₅ ++ (Obs.steps t₇ ++ Obs.steps t₈))) := by
    rw [ht, ht₂, ht₄, ht₆]
    simp only [Obs.steps, List.filterMap_append]
  obtain ⟨base, hstarts, hbase⟩ := renderPrompt_ok hrendered
  obtain ⟨current, hretrieves, hcurrent⟩ := retrieve_ok hbase hretrieved
  have hcollects := collectTools_ok htools
  obtain ⟨kept, hkept, hkeeps⟩ := budget_ok hcurrent hbudgeted
  obtain ⟨hrequest, horganization, hkey⟩ := commandOf_ok hkept hcommand
  refine ⟨?_, horganization, hkey⟩
  obtain ⟨_, hfields⟩ := of_validated hrequest
  rw [hfields, hsteps]
  exact ⟨⟨base, current, hstarts.mono (by simp +contextual), hretrieves.mono (by simp +contextual), hkeeps⟩,
    hcollects.mono (by simp +contextual), rfl, rfl, rfl, rfl, rfl⟩

end Stages

section Asks

variable {D : Type} {self : Application} {principal : Principal} {body : CreateResponseRequest}

def Prepares (organization_id : UUID) : SystemCommand → Prop
  | ⟨.prompts, .selectLatest o _ _⟩ => o = organization_id
  | ⟨.knowledge, .embed _ _⟩ => True
  | ⟨.knowledge, .selectNearest o _ _⟩ => o = organization_id
  | ⟨.servers, .getByName o _⟩ => o = organization_id
  | ⟨.servers, .listTools _⟩ => True
  | _ => False

/-- The part of it that needs nothing to be looked up before. -/
def Fetches (organization_id : UUID) : SystemCommand → Prop
  | ⟨.servers, .listTools _⟩ => False
  | c => Prepares organization_id c

theorem Fetches.prepares {organization_id : UUID} {c : SystemCommand} (h : Fetches organization_id c) :
    Prepares organization_id c := by
  unfold Fetches at h
  split at h
  · exact h.elim
  · exact h

theorem failing_asks {P : SystemCommand → Prop} {α : Type} (result : Except Exn α) :
    (failing result : Endpoint D Empty α).Asks P :=
  Prog.Asks.ofExcept _

theorem resolvePrompt_asks (organization_id : UUID) (reference : PromptReference) :
    (resolvePrompt organization_id reference).Asks fun c =>
      c = .selectLatest organization_id reference.name reference.version := by
  refine Prog.Asks.bind (Prog.Asks.attempt (Prog.Asks.bind ⟨rfl, fun _ => trivial⟩ fun answer => ?_)) fun got => ?_
  · refine Prog.Asks.bind (Prog.Asks.ofExcept _) fun found => ?_
    cases found with
    | none => trivial
    | some row => exact Prog.Asks.bind (Prog.Asks.ofExcept _) fun _ => trivial
  · cases got with
    | error err => trivial
    | ok found =>
      cases found with
      | none => trivial
      | some template => exact Prog.Asks.ofExcept _

theorem renderPrompt_asks :
    (renderPrompt principal body : Endpoint D Empty _).Asks (Fetches principal.organization_id) := by
  unfold renderPrompt
  cases body.prompt with
  | none => trivial
  | some schema =>
    refine Prog.Asks.bind (failing_asks _) fun reference => Prog.Asks.bind ?_ fun _ => trivial
    refine (resolvePrompt_asks _ _).within ?_
    rintro c rfl
    exact rfl

theorem mergeServers_asks (organization_id : UUID) (names : List String) (merged : List ToolDefinition)
    (seen : Finset String) : (mergeServers organization_id names merged seen).Asks fun c =>
      Prepares organization_id ⟨.servers, c⟩ := by
  induction names generalizing merged seen with
  | nil => trivial
  | cons name names ih =>
    refine Prog.Asks.bind (Prog.Asks.ofExcept _) fun _ => Prog.Asks.bind ?_ fun discovered =>
      Prog.Asks.bind (Prog.Asks.ofExcept _) fun next => ih _ _
    refine Prog.Asks.bind (Prog.Asks.ofExcept _) fun _ => Prog.Asks.bind ⟨rfl, fun _ => trivial⟩ fun found =>
      Prog.Asks.bind (Prog.Asks.ofExcept _) fun got => ?_
    cases got with
    | none => trivial
    | some server =>
      exact Prog.Asks.bind ⟨trivial, fun _ => trivial⟩ fun answer => Prog.Asks.bind (Prog.Asks.ofExcept _) fun _ =>
        Prog.Asks.ofExcept _

theorem collectTools_asks :
    (collectTools principal body : Endpoint D Empty _).Asks (Prepares principal.organization_id) := by
  refine Prog.Asks.bind (failing_asks _) fun tools => ?_
  cases body.mcp with
  | none => trivial
  | some mcp =>
    simp only
    split_ifs
    · trivial
    · exact (mergeServers_asks _ _ _ _).within fun _ h => h

theorem budget_asks (messages : Option (List Message)) (tools : List ToolDefinition) :
    (budget self body messages tools : Endpoint D Empty _).Asks (Fetches principal.organization_id) := by
  unfold RequestPipeline.budget
  split_ifs
  · trivial
  · refine Prog.Asks.bind (failing_asks _) fun current => Prog.Asks.bind (failing_asks _) fun policy => ?_
    cases self.build_context.execute body.model current tools body.max_output_tokens policy <;> trivial

theorem embedText_asks {organization_id : UUID} (embedders : Embedders) (embedding_model text : String) :
    (embedText embedders embedding_model text : ChunkAction D _).Asks fun c =>
      Fetches organization_id ⟨.knowledge, c⟩ := by
  refine Prog.Asks.bind (Prog.Asks.ofExcept _) fun route => ?_
  split_ifs
  · trivial
  · exact Prog.Asks.bind (Prog.Asks.ofExcept _) fun request => Prog.Asks.bind ⟨trivial, fun _ => trivial⟩ fun answer =>
      Prog.Asks.bind (Prog.Asks.ofExcept _) fun _ => Prog.Asks.ofExcept _

variable [LinearOrder D] [Zero D]

theorem searchSemanticChunks_asks {organization_id : UUID} {query : SemanticSearchQuery}
    (h : query.organization_id = organization_id) : (searchSemanticChunks query : ChunkAction D _).Asks fun c =>
      Fetches organization_id ⟨.knowledge, c⟩ :=
  Prog.Asks.bind ⟨h, fun _ => trivial⟩ fun _ => Prog.Asks.bind (Prog.Asks.ofExcept _) fun _ => Prog.Asks.ofExcept _

theorem retrieve_asks (messages : Option (List Message)) :
    (retrieve self principal body messages : Endpoint D Empty _).Asks (Fetches principal.organization_id) := by
  unfold retrieve
  cases body.rag with
  | none => trivial
  | some rag =>
    simp only
    split_ifs
    · trivial
    · refine Prog.Asks.bind (failing_asks _) fun current => Prog.Asks.bind (failing_asks _) fun policy =>
        Prog.Asks.bind (Prog.Asks.within (P := fun c => Fetches principal.organization_id ⟨.knowledge, c⟩) ?_
          fun _ h => h) fun _ => trivial
      unfold augmentMessagesWithRag
      split_ifs
      · trivial
      · refine Prog.Asks.bind (Prog.Asks.ofExcept _) fun text => Prog.Asks.bind (embedText_asks _ _ _) fun vector => ?_
        cases hquery : SemanticSearchQuery.new principal.organization_id vector policy.top_k with
        | error err => trivial
        | ok query =>
          obtain ⟨_, rfl⟩ := of_validated hquery
          simp only [SemanticRetrieval.raising_ok, Prog.bind_eq, Prog.done_bind]
          exact Prog.Asks.bind (searchSemanticChunks_asks rfl) fun hits => Prog.Asks.ofExcept _

theorem prepare_asks (request_id : String) (header : Option String) :
    (prepare self principal body request_id header : Endpoint D Empty _).Asks (Prepares principal.organization_id) :=
  Prog.Asks.bind (renderPrompt_asks.mono fun _ => Fetches.prepares) fun rendered =>
    Prog.Asks.bind ((retrieve_asks rendered).mono fun _ => Fetches.prepares) fun retrieved =>
      Prog.Asks.bind collectTools_asks fun tools =>
        Prog.Asks.bind ((budget_asks retrieved tools).mono fun _ => Fetches.prepares) fun _ =>
          Prog.Asks.bind (failing_asks _) fun _ => Prog.Asks.bind (Prog.Asks.ofExcept _) fun _ => trivial

theorem serve_asks {P : Command → Prop} {command : CreateResponseCommand}
    (hexecute : (self.use_case.execute command).Asks P) (hstream : (self.use_case.stream command).Asks P) :
    (serve self body command).Asks P := by
  unfold serve
  split_ifs
  · refine Prog.Asks.bind ?_ fun _ => trivial
    rw [postStream_eq]
    refine Prog.Asks.forEach hstream (fun _ _ => trivial) fun started ended => ?_
    cases started with
    | false => cases ended <;> trivial
    | true =>
      cases ended with
      | ok u => trivial
      | error err => cases err <;> trivial
  · refine Prog.Asks.bind hexecute.lift fun result => ?_
    cases ResponseSchema.fromDomain result <;> trivial

end Asks

section Lookups

variable {D : Type} {self : Application} {principal : Principal} {body : CreateResponseRequest} {name : String}
  {names : List String} {merged : List ToolDefinition} {seen : Finset String}

/-- What an organization's request may touch: what it reads is its own, a server it asks was looked up for it, and
the service keeps to its keys and rows. -/
def Owns (organization_id : UUID) (steps : List (SystemStep D)) : SystemCommand → Prop
  | ⟨.servers, .listTools server⟩ => ∃ name, ⟨⟨.servers, .getByName organization_id name⟩, .ok (some server)⟩ ∈ steps
  | ⟨.service, c⟩ => ResponseScopes.Scoped organization_id c
  | c => Prepares organization_id c

theorem Fetches.owns {organization_id : UUID} {c : SystemCommand} (h : Fetches organization_id c)
    (steps : List (SystemStep D)) : Owns organization_id steps c := by
  obtain ⟨part, c⟩ := c
  cases part <;> cases c <;> first | exact h | exact h.elim

abbrev Request (D : Type) := History UUID SystemCommand (JointResponse (PartResponse D))

def OwnsAt (told : Request D) (c : SystemCommand) : Prop := Owns told.call told.steps c

variable {told : Request D}

theorem owns_of_asks {E X α : Type} {P : SystemCommand → Prop}
    {p : Prog SystemCommand (JointResponse (PartResponse D)) E X α} (hp : p.Asks P)
    (hP : ∀ steps : List (SystemStep D), ∀ c, P c → Owns told.call steps c) :
    Prog.Spec OwnsAt p (fun _ told' => told'.call = told.call) told := by
  refine Prog.wp_mono (fun _ _ h => h.1.call) (Prog.told_of_asks hp fun told' c hmore _ hc => ?_)
  have howns := hP told'.steps c hc
  rwa [← hmore.call] at howns

abbrev ServersSpec {α : Type} (p : McpAction α) (Q : Except McpExn α → Request D → Prop) (told : Request D) : Prop :=
  p.wp ((History.rule OwnsAt).part .servers) (fun told _ => told) Q told

theorem asks_server {α : Type} {c : McpCommand} {f : McpResponse c → McpAction α}
    {Q : Except McpExn α → Request D → Prop} (hmay : OwnsAt told ⟨.servers, c⟩)
    (hnext : ∀ r, ServersSpec (f r) Q (told.after ⟨.servers, c⟩ r)) : ServersSpec ((Prog.ask c).bind f) Q told := by
  refine Prog.wp_ask hmay ?_
  rintro r _ rfl
  exact hnext r

theorem listMcpServerTools_own (told : Request D) :
    ServersSpec (listMcpServerTools told.call name) (fun _ told' => told'.call = told.call) told := by
  refine Prog.wp_seq (M := fun _ told' => told' = told) (N := fun _ told' => told' = told) ?_ ?_ ?_
  · exact Prog.wp_ofExcept (by cases Except.mapError _ _ <;> exact rfl)
  · rintro _ told' rfl
    refine asks_server rfl fun found => ?_
    refine Prog.wp_bind (Prog.wp_ofExcept ?_)
    cases found with
    | error err => exact rfl
    | ok got =>
      cases got with
      | none => exact rfl
      | some server =>
        refine asks_server ⟨name, History.last_mem _ _ _⟩ fun answer => ?_
        refine Prog.wp_bind (Prog.wp_ofExcept ?_)
        cases answer with
        | error err => exact rfl
        | ok listed => exact Prog.wp_ofExcept rfl
  · rintro _ told' rfl
    exact rfl

/-- Every server that is asked for its tools was looked up for the organization. -/
theorem mergeServers_own (told : Request D) :
    ServersSpec (mergeServers told.call names merged seen) (fun _ told' => told'.call = told.call) told := by
  induction names generalizing merged seen told with
  | nil => exact rfl
  | cons name names ih =>
    refine Prog.wp_bind (Prog.wp_ofExcept ?_)
    cases Except.mapError McpExn.failed (validated (validateMcpServerName name) fun _ => ()) with
    | error err => exact rfl
    | ok _ =>
      refine Prog.wp_seq (M := fun _ told' => told'.call = told.call) (N := fun _ told' => told'.call = told.call)
        (Prog.wp_mono ?_ (listMcpServerTools_own told)) ?_ fun _ _ h => h
      · intro o told' h
        cases o <;> exact h
      · intro discovered told' hcall
        refine Prog.wp_bind (Prog.wp_ofExcept ?_)
        cases Except.mapError McpExn.failed (mergeTools merged seen discovered) with
        | error err => exact hcall
        | ok next =>
          have hrest := @ih next.1 next.2 told'
          rw [hcall] at hrest
          exact hrest

theorem collectTools_own (hcall : told.call = principal.organization_id) :
    Prog.Spec OwnsAt (collectTools principal body : Endpoint D Empty _) (fun _ told' => told'.call = told.call) told := by
  refine Prog.wp_bind (Prog.wp_ofExcept ?_)
  cases Except.mapError PipelineExn.failed (body.tools.mapM ToolDefinitionSchema.toDomain) with
  | error err => exact rfl
  | ok tools =>
    cases body.mcp with
    | none => exact rfl
    | some mcp =>
      simp only
      split_ifs
      · exact rfl
      · refine Prog.wp_within ?_
        unfold resolveToolsForGeneration
        rw [← hcall]
        exact mergeServers_own told

variable [LinearOrder D] [Zero D] {request_id : String} {header : Option String}

/-- Preparation touches only what is the organization's, and so will the command it gives. -/
theorem prepare_own (hcall : told.call = principal.organization_id) :
    Prog.Spec OwnsAt (prepare self principal body request_id header : Endpoint D Empty _)
      (Prog.ends (fun command told' => told'.call = told.call ∧ command.organization_id = told.call) fun _ _ => True)
      told := by
  have hfetches : ∀ {told' : Request D}, told'.call = told.call → ∀ steps : List (SystemStep D), ∀ c,
      Fetches principal.organization_id c → Owns told'.call steps c := by
    intro told' hsame steps c hc
    rw [hsame, hcall]
    exact hc.owns steps
  have hany : ∀ {α : Type} {told' : Request D}, told'.call = told.call → ∀ (o : Except PipelineExn α) (late : Request D),
      late.call = told'.call →
        Prog.ends (fun _ late => late.call = told.call) (fun _ _ => True) o late := by
    intro α told' hsame o late hlate
    cases o with
    | ok a => exact hlate.trans hsame
    | error err => trivial
  refine Prog.wp_seq (Prog.wp_mono (hany rfl) (owns_of_asks renderPrompt_asks (hfetches rfl))) ?_ fun _ _ _ => trivial
  intro rendered told₁ h₁
  refine Prog.wp_seq (Prog.wp_mono (hany h₁) (owns_of_asks (retrieve_asks rendered) (hfetches h₁))) ?_
    fun _ _ _ => trivial
  intro retrieved told₂ h₂
  refine Prog.wp_seq (Prog.wp_mono (hany h₂) (collectTools_own (h₂.trans hcall))) ?_ fun _ _ _ => trivial
  intro tools told₃ h₃
  refine Prog.wp_seq (Prog.wp_mono (hany h₃) (owns_of_asks (budget_asks retrieved tools) (hfetches h₃))) ?_
    fun _ _ _ => trivial
  intro budgeted told₄ h₄
  refine Prog.wp_bind (Prog.wp_ofExcept ?_)
  cases Except.mapError PipelineExn.failed (body.toDomain budgeted (some tools)) with
  | error err => trivial
  | ok request =>
    refine Prog.wp_bind (Prog.wp_ofExcept ?_)
    cases parseIdempotencyKey header with
    | error err => trivial
    | ok key => exact ⟨h₄, hcall.symm⟩

theorem postResponses_own (hcall : told.call = principal.organization_id) :
    Prog.Spec OwnsAt (postResponses self principal body request_id header) (fun _ _ => True) told := by
  refine Prog.wp_seq (Prog.wp_lift (prepare_own hcall)) ?_ fun _ _ _ => trivial
  rintro command told' ⟨hsame, howner⟩
  refine Prog.wp_mono (fun _ _ _ => trivial) (owns_of_asks (P := fun c => ∃ asked : Command,
    c = ⟨.service, asked⟩ ∧ ResponseScopes.Scoped command.organization_id asked) ?_ ?_)
  · exact (serve_asks (ResponseScopes.execute_scoped _ _) (ResponseScopes.stream_scoped _ _)).within
      fun asked h => ⟨asked, rfl, h⟩
  · rintro steps _ ⟨asked, rfl, h⟩
    rw [hsame, ← howner]
    exact h

end Lookups

section Samples

def greeting : PromptTemplateRow :=
  ⟨⟨5⟩, ⟨2⟩, "greeting", 2, [⟨"system", "Be brief."⟩, ⟨"user", "Greet {{name}}."⟩], ServiceRuns.noon.val⟩

theorem hiDelta_ok : GenerationDelta.problem "chatcmpl-1" "gpt-4o-2024-08-06" "Hi" = none := rfl

theorem hiMessage_ok : Message.problem .assistant "Hi" none [] = none := rfl

/-- Collaborators that know the greeting and one tool server. -/
def answers : (c : SystemCommand) → JointResponse (PartResponse ℕ) c
  | ⟨.prompts, .uuid4⟩ => ⟨6⟩
  | ⟨.prompts, .utcNow⟩ => ServiceRuns.noon
  | ⟨.prompts, .maxVersion ..⟩ => .ok (some 2)
  | ⟨.prompts, .insertCommit _⟩ => .ok ()
  | ⟨.prompts, .rollback⟩ => .ok ()
  | ⟨.prompts, .selectLatest ..⟩ => .ok (some greeting)
  | ⟨.prompts, .selectAscending ..⟩ => .ok [greeting]
  | ⟨.knowledge, .utcNow⟩ => ServiceRuns.noon
  | ⟨.knowledge, .uuid4⟩ => ⟨7⟩
  | ⟨.knowledge, .embed ..⟩ => .error (.other "ConnectError")
  | ⟨.knowledge, .getOrganization _⟩ => .ok none
  | ⟨.knowledge, .insertCommit _⟩ => .ok ()
  | ⟨.knowledge, .selectNearest ..⟩ => .ok []
  | ⟨.servers, .getByName ..⟩ => .ok (some crm)
  | ⟨.servers, .listTools _⟩ => .ok [lookUp]
  | ⟨.service, c⟩ => DurableRecords.obliging (DurableRecords.delta "Hi" hiDelta_ok)
    (DurableRecords.replying "Hi" hiMessage_ok) c

theorem greetingReference_ok : "greeting" ≠ "" ∧ (none : Option ℤ).all (1 ≤ ·) = true := by decide

theorem greetingServers_ok : ["crm"] ≠ [] := by decide

theorem greetingBody_valid : CreateResponseRequest.Valid "gpt-4o" none
    (some ⟨"greeting", none, [("name", "Ada")], greetingReference_ok⟩) none none := by decide

def greetingBody : CreateResponseRequest :=
  ⟨"gpt-4o", none, some ⟨"greeting", none, [("name", "Ada")], greetingReference_ok⟩, none, none, none, false, [], false,
    none, some ⟨["crm"], greetingServers_ok⟩, greetingBody_valid⟩

def application : Application := ⟨ServiceRuns.sampleService, openaiOnly, FailoverBudget.defaultBuilder⟩

def caller : Principal := ⟨⟨2⟩, ⟨9⟩⟩

def greetingRun : Except PipelineExn (Option ResponseSchema) × Unit × List (SystemObs ℕ String) :=
  (postResponses application caller greetingBody "req_1" none).run (Handler.table answers).recording ((), [])

theorem greetingRun_exec : Prog.Exec (postResponses application caller greetingBody "req_1" none) greetingRun.2.2
    greetingRun.1 :=
  Prog.exec_recorded _ _ _

def isListTools : SystemObs ℕ String → Bool
  | .asked ⟨.servers, .listTools _⟩ _ => true
  | _ => false

def isGenerate : SystemObs ℕ String → Bool
  | .asked ⟨.service, .generate ..⟩ _ => true
  | _ => false

theorem greetingRun_lists : ∃ server r, .asked ⟨.servers, .listTools server⟩ r ∈ greetingRun.2.2 := by
  have hany : greetingRun.2.2.any isListTools = true := by decide +kernel
  obtain ⟨o, hmem, ho⟩ := List.any_eq_true.mp hany
  unfold isListTools at ho
  split at ho
  · exact ⟨_, _, hmem⟩
  · cases ho

theorem greetingRun_generates : ∃ provider sent r, .asked ⟨.service, .generate provider sent⟩ r ∈ greetingRun.2.2 := by
  have hany : greetingRun.2.2.any isGenerate = true := by decide +kernel
  obtain ⟨o, hmem, ho⟩ := List.any_eq_true.mp hany
  unfold isGenerate at ho
  split at ho
  · exact ⟨_, _, _, hmem⟩
  · cases ho

end Samples

section Executions

variable {D : Type} [LinearOrder D] [Zero D] {self : Application} {principal : Principal} {body : CreateResponseRequest}
  {request_id : String} {header : Option String} {t : List (SystemObs D String)}
  {o : Except PipelineExn (Option ResponseSchema)}

omit [LinearOrder D] [Zero D] in
theorem steps_relabel (t : List (SystemObs D Empty)) :
    Obs.steps (t.map Obs.relabel : List (SystemObs D String)) = Obs.steps t := by
  induction t with
  | nil => rfl
  | cons first rest ih =>
    cases first with
    | asked c r => exact congrArg _ ih
    | yielded e => exact e.elim

omit [LinearOrder D] [Zero D] in
theorem asked_relabel {t : List (SystemObs D Empty)} {c : SystemCommand} {r : JointResponse (PartResponse D) c}
    (h : .asked c r ∈ (t.map Obs.relabel : List (SystemObs D String))) : .asked c r ∈ t := by
  obtain ⟨o, hmem, ho⟩ := List.mem_map.mp h
  cases o with
  | asked c' r' =>
    cases ho
    exact hmem
  | yielded e => exact e.elim

/-- An execution is a preparation, and what serves its command if it gives one. -/
theorem postResponses_split (h : Prog.Exec (postResponses self principal body request_id header) t o) :
    ∃ before : List (SystemObs D Empty),
      (∃ err, Prog.Exec (prepare self principal body request_id header) before (.error err) ∧
        t = before.map Obs.relabel ∧ o = .error err) ∨
      ∃ command alone o', Prog.Exec (prepare self principal body request_id header) before (.ok command) ∧
        t = before.map Obs.relabel ++ alone.map (Obs.within .service) ∧ o = o'.mapError .failed ∧
        Prog.Exec (serve self body command) alone o' := by
  rcases Prog.exec_bind.mp h with ⟨err, ho, hprepare⟩ | ⟨command, t₁, t₂, ht, hprepare, hserve⟩
  · obtain ⟨before, hbefore, hprepare⟩ := Prog.exec_lift.mp hprepare
    exact ⟨before, .inl ⟨err, hprepare, hbefore, ho⟩⟩
  · obtain ⟨before, hbefore, hprepare⟩ := Prog.exec_lift.mp hprepare
    obtain ⟨alone, o', halone, ho, hserve⟩ := Prog.exec_within.mp hserve
    exact ⟨before, .inr ⟨command, alone, o', hprepare, by rw [ht, hbefore, halone], ho, hserve⟩⟩

/-- Until a request is assembled and its key is valid, data of its organization are only read; nothing of the
service is asked and no frame is sent. -/
theorem prepared_before_served (h : Prog.Exec (postResponses self principal body request_id header) t o) :
    ∃ before after, t = before ++ after ∧ (∀ e, .yielded e ∉ before) ∧
      (∀ c r, .asked c r ∈ before → Prepares principal.organization_id c) ∧
      (∀ c r, .asked c r ∈ after → c.1 = .service) ∧
      (after ≠ [] → (∃ key, parseIdempotencyKey header = .ok key) ∧
        ∃ request, Assembled self principal.organization_id body (Obs.steps before) request) := by
  obtain ⟨before, ⟨err, hprepare, ht, -⟩ | ⟨command, alone, o', hprepare, ht, -, -⟩⟩ := postResponses_split h
  all_goals
    have hreads : ∀ c r, .asked c r ∈ (before.map Obs.relabel : List (SystemObs D String)) →
        Prepares principal.organization_id c := fun c r hmem =>
      Prog.exec_asks (prepare_asks request_id header) hprepare c r (asked_relabel hmem)
    have hsilent : ∀ e, .yielded e ∉ (before.map Obs.relabel : List (SystemObs D String)) := by
      intro e hmem
      obtain ⟨o, -, ho⟩ := List.mem_map.mp hmem
      cases o with
      | asked c r => cases ho
      | yielded e => exact e.elim
  · exact ⟨_, [], by rw [ht, List.append_nil], hsilent, hreads, fun c r hmem => absurd hmem List.not_mem_nil,
      fun hne => absurd rfl hne⟩
  · refine ⟨_, _, ht, hsilent, hreads, ?_, fun _ => ?_⟩
    · intro c r hmem
      obtain ⟨o, -, ho⟩ := List.mem_map.mp hmem
      cases o with
      | asked c' r' =>
        cases ho
        rfl
      | yielded e => cases ho
    · obtain ⟨hassembled, -, hkey⟩ := prepare_ok hprepare
      rw [steps_relabel]
      exact ⟨⟨_, hkey⟩, _, hassembled⟩

/-- The greeting is prepared before anything of the service is asked. -/
theorem greeting_prepared : greetingRun.2.2.length = 18 ∧ ∃ before after, greetingRun.2.2 = before ++ after ∧
    (∀ e, .yielded e ∉ before) ∧ (∀ c r, .asked c r ∈ before → Prepares ⟨2⟩ c) ∧
      (∀ c r, .asked c r ∈ after → c.1 = .service) ∧
      (after ≠ [] → (∃ key, parseIdempotencyKey none = .ok key) ∧
        ∃ request, Assembled application ⟨2⟩ greetingBody (Obs.steps before) request) :=
  ⟨by decide +kernel, prepared_before_served greetingRun_exec⟩

/-- What is asked of the service in an execution is asked by the use case. -/
theorem service_asks {P : Command → Prop} (h : Prog.Exec (postResponses self principal body request_id header) t o)
    (hserve : ∀ command, Assembled self principal.organization_id body (Obs.steps t) command.request →
      command.organization_id = principal.organization_id → (serve self body command).Asks P)
    {c : Command} {r : Response c} (hmem : .asked ⟨.service, c⟩ r ∈ t) : P c := by
  obtain ⟨before, ⟨err, hprepare, ht, -⟩ | ⟨command, alone, o', hprepare, ht, -, hexec⟩⟩ := postResponses_split h
  · rw [ht] at hmem
    have hreads := Prog.exec_asks (prepare_asks request_id header) hprepare _ _ (asked_relabel hmem)
    exact hreads.elim
  · obtain ⟨hassembled, horganization, -⟩ := prepare_ok hprepare
    have hmore : ∀ step ∈ Obs.steps before, step ∈ Obs.steps t := by
      intro step hstep
      rw [ht]
      unfold Obs.steps
      rw [List.filterMap_append]
      rw [← steps_relabel] at hstep
      exact List.mem_append_left _ hstep
    rw [ht] at hmem
    rcases List.mem_append.mp hmem with hmem | hmem
    · have hreads := Prog.exec_asks (prepare_asks request_id header) hprepare _ _ (asked_relabel hmem)
      exact hreads.elim
    · obtain ⟨obs, hobs, heq⟩ := List.mem_map.mp hmem
      cases obs with
      | yielded e => cases heq
      | asked c' r' =>
        cases heq
        exact Prog.exec_asks (hserve command (hassembled.mono hmore) horganization) hexec _ _ hobs

/-- No execution touches anything of another organization, by what it was answered before. -/
theorem every_command_own (h : Prog.Exec (postResponses self principal body request_id header) t o)
    {t₁ t₂ : List (SystemObs D String)} {c : SystemCommand} {r : JointResponse (PartResponse D) c}
    (ht : t = t₁ ++ .asked c r :: t₂) : Owns principal.organization_id (Obs.steps t₁) c :=
  h.permitted ⟨principal.organization_id, []⟩ (postResponses_own rfl) ht

/-- The server that lists its tools was looked up before. -/
theorem greeting_own : ∃ t₁ t₂ server r, greetingRun.2.2 = t₁ ++ .asked ⟨.servers, .listTools server⟩ r :: t₂ ∧
    Owns ⟨2⟩ (Obs.steps t₁) ⟨.servers, .listTools server⟩ := by
  obtain ⟨server, r, hmem⟩ := greetingRun_lists
  obtain ⟨t₁, t₂, ht⟩ := List.append_of_mem hmem
  exact ⟨t₁, t₂, server, r, ht, every_command_own greetingRun_exec ht⟩

/-- Whatever a provider is sent, on any route and attempt, is but for its model the request that was assembled from
the body, the prompt and rows of the organization and the tools of its servers. -/
theorem provider_sees (h : Prog.Exec (postResponses self principal body request_id header) t o) {provider : String}
    {sent : GenerationRequest} (hsent : (∃ r, .asked ⟨.service, .generate provider sent⟩ r ∈ t) ∨
      ∃ r, .asked ⟨.service, .stream provider sent⟩ r ∈ t) :
    ∃ request, Assembled self principal.organization_id body (Obs.steps t) request ∧ Rerouted request sent := by
  have hsends : ∀ {c : Command} {r : Response c}, .asked ⟨.service, c⟩ r ∈ t → ∀ sent,
      (c = .generate provider sent ∨ c = .stream provider sent) →
        ∃ request, Assembled self principal.organization_id body (Obs.steps t) request ∧ Rerouted request sent := by
    intro c r hmem
    refine service_asks (P := fun c => ∀ sent, (c = .generate provider sent ∨ c = .stream provider sent) →
      ∃ request, Assembled self principal.organization_id body (Obs.steps t) request ∧ Rerouted request sent) h
      (fun command hassembled _ => ?_) hmem
    refine (serve_asks (execute_sends _ _) (stream_sends _ _)).mono fun c hc sent hsent => ?_
    rcases hsent with rfl | rfl
    · exact ⟨_, hassembled, hc⟩
    · exact ⟨_, hassembled, hc⟩
  rcases hsent with ⟨r, hmem⟩ | ⟨r, hmem⟩
  · exact hsends hmem sent (.inl rfl)
  · exact hsends hmem sent (.inr rfl)

/-- A provider is sent the greeting. -/
theorem greeting_sent : ∃ provider sent r, .asked ⟨.service, .generate provider sent⟩ r ∈ greetingRun.2.2 ∧
    ∃ request, Assembled application ⟨2⟩ greetingBody (Obs.steps greetingRun.2.2) request ∧ Rerouted request sent := by
  obtain ⟨provider, sent, r, hmem⟩ := greetingRun_generates
  exact ⟨provider, sent, r, hmem, provider_sees greetingRun_exec (.inl ⟨r, hmem⟩)⟩

end Executions

end AIRuntime.PipelineRuns
