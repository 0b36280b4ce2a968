import AIRuntime.EffectRuns
import AIRuntime.ListPositions
import AIRuntime.PromptRecords
import AIRuntime.Traversals
import Mathlib.Data.Finset.Sort
import Mathlib.Data.String.Basic

set_option autoImplicit false

/-! `domain/mcp.py`, and the use cases that list a server's tools and merge them with those of a request. -/
namespace AIRuntime.McpTools

open Traversals EffectPrograms PythonText Failures CivilTime Identifiers JsonText ListPositions GenerationContracts
  PromptRecords

section Names

def validateMcpServerName (name : String) : Option String := validatePromptName name

def isToolSeparator (c : Char) : Bool := isSpace c || c = '/'

/-- What `namespaced_mcp_tool_name` refuses. -/
def toolNameProblem (server_name tool_name : String) : Option String :=
  (validateMcpServerName server_name).or <|
  if isBlank tool_name then some "tool name must not be empty or blank"
  else if tool_name.toList.any isToolSeparator then some "tool name must not contain whitespace or slashes"
  else none

def namespacedMcpToolName (server_name tool_name : String) : Except Exn String :=
  validated (toolNameProblem server_name tool_name) fun _ => server_name ++ "." ++ tool_name

/-- A name that is another with a dot and more after it. -/
def Nested (outer inner : String) : Prop := ∃ rest, inner = outer ++ "." ++ rest

theorem namespaced_eq {server_name tool_name public_name : String}
    (h : namespacedMcpToolName server_name tool_name = .ok public_name) :
    public_name = server_name ++ "." ++ tool_name :=
  (of_validated h).2

theorem append_dot_inj {s t t' : String} (h : s ++ "." ++ t = s ++ "." ++ t') : t = t' := by
  have hlist := congrArg String.toList h
  rw [String.toList_append, String.toList_append (s := s ++ ".")] at hlist
  exact String.toList_inj.mp (List.append_cancel_left hlist)

theorem toList_dotted (s t : String) : (s ++ "." ++ t).toList = s.toList ++ '.' :: t.toList := by
  rw [String.toList_append, String.toList_append, List.append_assoc]
  rfl

theorem dotted_not_blank (s t : String) : isBlank (s ++ "." ++ t) = false := by
  have hdot : isSpace '.' = false := rfl
  unfold isBlank
  rw [toList_dotted, List.all_append, List.all_cons, hdot, Bool.false_and, Bool.and_false]

theorem nested_iff {outer inner : String} : Nested outer inner ↔ ∃ more, inner.toList = outer.toList ++ '.' :: more := by
  constructor
  · rintro ⟨rest, rfl⟩
    exact ⟨rest.toList, toList_dotted outer rest⟩
  · rintro ⟨more, h⟩
    refine ⟨String.ofList more, String.toList_inj.mp ?_⟩
    rw [h, toList_dotted, String.toList_ofList]

/-- Two servers share a public name for different tools only if one is nested in the other. -/
theorem dotted_cases {s s' t t' : String} (h : s ++ "." ++ t = s' ++ "." ++ t') :
    s = s' ∧ t = t' ∨ Nested s s' ∨ Nested s' s := by
  have hlist := congrArg String.toList h
  rw [toList_dotted, toList_dotted] at hlist
  rw [nested_iff, nested_iff]
  rcases append_cons_cases hlist with ⟨hs, ht⟩ | hnested
  · exact .inl ⟨String.toList_inj.mp hs, String.toList_inj.mp ht⟩
  · exact .inr hnested

theorem nameChars {name : String} (h : validateMcpServerName name = none) : ∀ c ∈ name.toList, isNameChar c = true := by
  unfold validateMcpServerName validatePromptName at h
  split_ifs at h with hok
  exact List.all_eq_true.mp (Bool.and_eq_true_iff.mp hok).2

theorem nameChar_plain {c : Char} (h : isNameChar c = true) : isToolSeparator c = false := by
  have hrange : 45 ≤ c.toNat ∧ c.toNat ≤ 122 ∧ c.toNat ≠ 47 := by
    simp only [isNameChar, Bool.or_eq_true, decide_eq_true_eq] at h
    rcases h with ((h | h) | h) | h
    · have halphanum := isAlphanum_range h
      omega
    all_goals
      subst h
      decide
  have hslash : c ≠ '/' := by
    intro heq
    rw [heq] at hrange
    exact hrange.2.2 rfl
  unfold isToolSeparator isSpace
  simp only [Bool.or_eq_false_iff, Bool.and_eq_false_iff, decide_eq_false_iff_not]
  refine ⟨?_, hslash⟩
  omega

/-- What is nested in a server name makes a tool name of the outer server. -/
theorem nested_collides {s s' : String} (hs : validateMcpServerName s = none) (hs' : validateMcpServerName s' = none)
    (h : Nested s s') : ∃ t public_name, namespacedMcpToolName s t = .ok public_name ∧
      namespacedMcpToolName s' "x" = .ok public_name := by
  obtain ⟨rest, rfl⟩ := h
  have hrest : ∀ c ∈ rest.toList, isToolSeparator c = false := by
    intro c hc
    apply nameChar_plain
    apply nameChars hs' c
    rw [toList_dotted]
    exact List.mem_append_right _ (List.mem_cons_of_mem _ hc)
  have hplain : (rest ++ "." ++ "x").toList.any isToolSeparator = false := by
    rw [toList_dotted, List.any_append, List.any_eq_false.mpr fun c hc => by simp [hrest c hc]]
    decide
  have houter : toolNameProblem s (rest ++ "." ++ "x") = none := by
    unfold toolNameProblem
    rw [hs, dotted_not_blank, hplain]
    rfl
  have hinner : toolNameProblem (s ++ "." ++ rest) "x" = none := by
    unfold toolNameProblem
    rw [hs']
    rfl
  refine ⟨rest ++ "." ++ "x", s ++ "." ++ (rest ++ "." ++ "x"), validated_ok houter, ?_⟩
  have hsame : s ++ "." ++ (rest ++ "." ++ "x") = s ++ "." ++ rest ++ "." ++ "x" := by
    simp only [String.append_assoc]
  rw [hsame]
  exact validated_ok hinner

end Names

section UseCases

/-- A registered server; what a client needs to reach it is carried along. -/
structure McpServer where
  id : UUID
  organization_id : UUID
  name : String
  url : String
  headers : List (String × String)
  created_at : Option DateTime
  name_ok : validateMcpServerName name = none

inductive McpExn where
  | serverNotFound (name : String)
  | mcp (message : String)
  | failed (err : Exn)

inductive McpCommand : Type where
  | getByName (organization_id : UUID) (name : String)
  | listTools (server : McpServer)

@[reducible]
def McpResponse : McpCommand → Type
  | .getByName _ _ => Except McpExn (Option McpServer)
  | .listTools _ => Except McpExn (List ToolDefinition)

abbrev McpAction (α : Type) := Prog McpCommand McpResponse Empty McpExn α

abbrev McpCommand.ask (c : McpCommand) : McpAction (McpResponse c) := Prog.ask c

def raising {α : Type} (result : Except Exn α) : McpAction α := Prog.ofExcept (result.mapError .failed)

@[simp] theorem raising_ok {α : Type} (a : α) : raising (.ok a) = .done a := rfl

@[simp] theorem raising_error {α : Type} (err : Exn) : (raising (.error err) : McpAction α) = .raise (.failed err) := rfl

def requireValid (problem : Option String) : McpAction Unit := raising (validated problem fun _ => ())

def namespacedTool (name : String) (tool : ToolDefinition) : Except Exn ToolDefinition := do
  let public_name ← namespacedMcpToolName name tool.name
  validated (requireNonBlank public_name "name") fun h => ⟨public_name, tool.description, tool.parameters, h⟩

def listMcpServerTools (organization_id : UUID) (name : String) : McpAction (List ToolDefinition) := do
  let _ ← requireValid (validateMcpServerName name)
  match ← Prog.ofExcept (← (McpCommand.getByName organization_id name).ask) with
  | none => .raise (.serverNotFound name)
  | some server =>
    let tools ← Prog.ofExcept (← (McpCommand.listTools server).ask)
    raising (tools.mapM (namespacedTool name))

def mergeTools (merged : List ToolDefinition) (seen : Finset String) :
    List ToolDefinition → Except Exn (List ToolDefinition × Finset String)
  | [] => .ok (merged, seen)
  | tool :: tools =>
    if tool.name ∈ seen then .error (.domainValidation ("duplicate tool name: " ++ tool.name))
    else mergeTools (merged ++ [tool]) (insert tool.name seen) tools

def mergeServers (organization_id : UUID) :
    List String → List ToolDefinition → Finset String → McpAction (List ToolDefinition)
  | [], merged, _ => .done merged
  | raw_name :: names, merged, seen => do
    let _ ← requireValid (validateMcpServerName raw_name)
    let discovered ← listMcpServerTools organization_id raw_name
    let (merged, seen) ← raising (mergeTools merged seen discovered)
    mergeServers organization_id names merged seen

/-- The set of names that `seen` starts with. -/
def namesOf (tools : List ToolDefinition) : List String := tools.map (·.name)

def resolveToolsForGeneration (organization_id : UUID) (inline_tools : List ToolDefinition)
    (server_names : List String) : McpAction (List ToolDefinition) :=
  mergeServers organization_id server_names inline_tools (namesOf inline_tools).toFinset

end UseCases

section Merging

def Unseen (seen : Finset String) (names : List String) : Prop := names.Nodup ∧ ∀ name ∈ names, name ∉ seen

def Fresh (seen : Finset String) (tools : List ToolDefinition) : Prop := Unseen seen (namesOf tools)

def publicTools : List (String × List ToolDefinition) → Except Exn (List ToolDefinition)
  | [] => .ok []
  | (name, tools) :: listing => do
    let first ← tools.mapM (namespacedTool name)
    let rest ← publicTools listing
    .ok (first ++ rest)

theorem publicTools_cons {name : String} {tools all : List ToolDefinition} {listing : List (String × List ToolDefinition)}
    (h : publicTools ((name, tools) :: listing) = .ok all) : ∃ first rest,
      tools.mapM (namespacedTool name) = .ok first ∧ publicTools listing = .ok rest ∧ all = first ++ rest := by
  unfold publicTools at h
  cases hfirst : tools.mapM (namespacedTool name) with
  | error err =>
    rw [hfirst] at h
    cases h
  | ok first =>
    cases hrest : publicTools listing with
    | error err =>
      rw [hfirst, hrest] at h
      cases h
    | ok rest =>
      rw [hfirst, hrest] at h
      cases h
      exact ⟨first, rest, rfl, rfl, rfl⟩

theorem fresh_append {seen : Finset String} {tools tools' : List ToolDefinition} :
    Fresh seen (tools ++ tools') ↔ Fresh seen tools ∧ Fresh (seen ∪ (namesOf tools).toFinset) tools' := by
  unfold Fresh Unseen namesOf
  rw [List.map_append, List.nodup_append]
  simp only [List.mem_append, Finset.mem_union, List.mem_toFinset]
  constructor
  · rintro ⟨⟨hnodup, hnodup', hapart⟩, hseen⟩
    exact ⟨⟨hnodup, fun name hname => hseen name (.inl hname)⟩, hnodup',
      fun name hname hmem => hmem.elim (hseen name (.inr hname)) fun h => hapart name h name hname rfl⟩
  · rintro ⟨⟨hnodup, hseen⟩, hnodup', hapart⟩
    refine ⟨⟨hnodup, hnodup', fun name hname name' hname' heq => ?_⟩, ?_⟩
    · rw [heq] at hname
      exact hapart name' hname' (.inr hname)
    · rintro name (hname | hname) hmem
      · exact hseen name hname hmem
      · exact hapart name hname (.inl hmem)

theorem fresh_nil (seen : Finset String) : Fresh seen [] :=
  ⟨List.nodup_nil, fun _ hname => absurd hname List.not_mem_nil⟩

theorem fresh_cons {seen : Finset String} {tool : ToolDefinition} {tools : List ToolDefinition} :
    Fresh seen (tool :: tools) ↔ tool.name ∉ seen ∧ Fresh (insert tool.name seen) tools := by
  have hsplit : tool :: tools = [tool] ++ tools := rfl
  have hunion : seen ∪ (namesOf [tool]).toFinset = insert tool.name seen := by
    ext name
    simp [namesOf]
  have hfirst : Fresh seen [tool] ↔ tool.name ∉ seen := by simp [Fresh, Unseen, namesOf]
  rw [hsplit, fresh_append, hunion, hfirst]

theorem mergeTools_fresh {merged tools : List ToolDefinition} {seen : Finset String} (h : Fresh seen tools) :
    mergeTools merged seen tools = .ok (merged ++ tools, seen ∪ (namesOf tools).toFinset) := by
  induction tools generalizing merged seen with
  | nil => simp [mergeTools, namesOf]
  | cons tool tools ih =>
    obtain ⟨hname, hrest⟩ := fresh_cons.mp h
    have hunion : insert tool.name seen ∪ (namesOf tools).toFinset = seen ∪ (namesOf (tool :: tools)).toFinset := by
      ext name
      simp only [namesOf, List.map_cons, Finset.mem_union, Finset.mem_insert, List.mem_toFinset, List.mem_cons]
      tauto
    unfold mergeTools
    rw [if_neg hname, ih hrest, hunion, List.append_assoc, List.singleton_append]

theorem mergeTools_stale {merged tools : List ToolDefinition} {seen : Finset String} (h : ¬ Fresh seen tools) :
    ∃ message, mergeTools merged seen tools = .error (.domainValidation message) := by
  induction tools generalizing merged seen with
  | nil => exact absurd (fresh_nil seen) h
  | cons tool tools ih =>
    unfold mergeTools
    by_cases hname : tool.name ∈ seen
    · rw [if_pos hname]
      exact ⟨_, rfl⟩
    · rw [if_neg hname]
      apply ih
      intro hrest
      exact h (fresh_cons.mpr ⟨hname, hrest⟩)

end Merging

section Runs

def listed : List (Obs McpCommand McpResponse Empty) → List (Except McpExn (List ToolDefinition))
  | [] => []
  | .asked (.listTools _) answer :: t => answer :: listed t
  | _ :: t => listed t

/-- Every server is registered, and those that are asked list these tools, one after the other. -/
structure Answered (discovered : List (List ToolDefinition)) (t : List (Obs McpCommand McpResponse Empty)) : Prop where
  registered : ∀ organization_id name answer, .asked (.getByName organization_id name) answer ∈ t →
    ∃ server, answer = .ok (some server)
  lists : listed t <+: discovered.map .ok

def RaisesValidation {α : Type} (o : Except McpExn α) : Prop :=
  ∃ message, o = .error (.failed (.domainValidation message))

theorem requireValid_none {problem : Option String} (h : problem = none) : requireValid problem = .done () := by
  unfold requireValid
  rw [validated_ok h]
  rfl

theorem namespacedTool_validation {name : String} {tool : ToolDefinition} {err : Exn}
    (h : namespacedTool name tool = .error err) : ∃ message, err = .domainValidation message := by
  unfold namespacedTool at h
  cases hname : namespacedMcpToolName name tool.name with
  | error err' =>
    rw [hname] at h
    cases h
    exact of_validated_error hname
  | ok public_name =>
    rw [hname] at h
    exact of_validated_error h

theorem namespacedTools_validation {name : String} {tools : List ToolDefinition} {err : Exn}
    (h : tools.mapM (namespacedTool name) = .error err) : ∃ message, err = .domainValidation message := by
  obtain ⟨before, tool, after, -, -, htool⟩ := mapM_error_iff.mp h
  exact namespacedTool_validation htool

def mergeListed (organization_id : UUID) (name : String) (names : List String) (merged : List ToolDefinition)
    (seen : Finset String) (tools : List ToolDefinition) : McpAction (List ToolDefinition) :=
  (raising (tools.mapM (namespacedTool name))).bind fun discovered =>
    (raising (mergeTools merged seen discovered)).bind fun next =>
      mergeServers organization_id names next.1 next.2

theorem mergeServers_listed {organization_id : UUID} {name : String} {names : List String}
    {merged tools : List ToolDefinition} {seen : Finset String} {discovered : List (List ToolDefinition)}
    (hname : validateMcpServerName name = none) {t : List (Obs McpCommand McpResponse Empty)}
    {o : Except McpExn (List ToolDefinition)}
    (h : Prog.Exec (mergeServers organization_id (name :: names) merged seen) t o)
    (hanswered : Answered (tools :: discovered) t) :
    ∃ t', Prog.Exec (mergeListed organization_id name names merged seen tools) t' o ∧ Answered discovered t' := by
  unfold mergeServers listMcpServerTools at h
  rw [requireValid_none hname] at h
  simp only [Prog.bind_eq, Prog.done_bind, Prog.ask_bind, Prog.call_bind, Prog.bind_assoc] at h
  obtain ⟨got, t₁, ht, h⟩ := Prog.exec_call.mp h
  obtain ⟨server, hserver⟩ := hanswered.registered organization_id name got (by rw [ht]; exact List.mem_cons_self)
  rw [hserver] at h
  simp only [Prog.ofExcept_ok, Prog.done_bind, Prog.call_bind] at h
  obtain ⟨answer, t₂, ht₁, h⟩ := Prog.exec_call.mp h
  have hlists : answer :: listed t₂ <+: .ok tools :: discovered.map .ok := by
    have hprefix := hanswered.lists
    rw [ht, ht₁] at hprefix
    exact hprefix
  obtain ⟨hanswer, hrest⟩ := List.cons_prefix_cons.mp hlists
  rw [hanswer] at h
  refine ⟨t₂, h, ?_, hrest⟩
  intro organization_id' name' answer' hmem
  apply hanswered.registered organization_id' name' answer'
  rw [ht, ht₁]
  exact List.mem_cons_of_mem _ (List.mem_cons_of_mem _ hmem)

section Listed

variable {organization_id : UUID} {name : String} {names : List String} {merged tools first : List ToolDefinition}
  {seen : Finset String}

theorem mergeListed_refused {err : Exn} (htools : tools.mapM (namespacedTool name) = .error err) :
    mergeListed organization_id name names merged seen tools = .raise (.failed err) := by
  unfold mergeListed
  rw [htools, raising_error, Prog.raise_bind]

theorem mergeListed_fresh (htools : tools.mapM (namespacedTool name) = .ok first) (hfresh : Fresh seen first) :
    mergeListed organization_id name names merged seen tools =
      mergeServers organization_id names (merged ++ first) (seen ∪ (namesOf first).toFinset) := by
  unfold mergeListed
  rw [htools, raising_ok, Prog.done_bind, mergeTools_fresh hfresh, raising_ok, Prog.done_bind]

theorem mergeListed_stale (htools : tools.mapM (namespacedTool name) = .ok first) (hstale : ¬ Fresh seen first) :
    ∃ message, mergeListed organization_id name names merged seen tools =
      .raise (.failed (.domainValidation message)) := by
  obtain ⟨message, hmessage⟩ := @mergeTools_stale merged first seen hstale
  refine ⟨message, ?_⟩
  unfold mergeListed
  rw [htools, raising_ok, Prog.done_bind, hmessage, raising_error, Prog.raise_bind]

theorem publicTools_ok {listing : List (String × List ToolDefinition)} {all : List ToolDefinition}
    (htools : tools.mapM (namespacedTool name) = .ok first) (h : publicTools ((name, tools) :: listing) = .ok all) :
    ∃ rest, publicTools listing = .ok rest ∧ all = first ++ rest := by
  obtain ⟨first', rest, hfirst, hrest, hall⟩ := publicTools_cons h
  rw [htools] at hfirst
  cases hfirst
  exact ⟨rest, hrest, hall⟩

end Listed

/-- What a loop over servers comes to: all tools if they are fresh, a refusal otherwise. -/
theorem mergeServers_outcome {organization_id : UUID} {names : List String} {merged : List ToolDefinition}
    {seen : Finset String} {discovered : List (List ToolDefinition)} {t : List (Obs McpCommand McpResponse Empty)}
    {o : Except McpExn (List ToolDefinition)} (hnames : ∀ name ∈ names, validateMcpServerName name = none)
    (hlength : discovered.length = names.length)
    (h : Prog.Exec (mergeServers organization_id names merged seen) t o) (hanswered : Answered discovered t) :
    (∃ tools, publicTools (names.zip discovered) = .ok tools ∧ Fresh seen tools ∧ o = .ok (merged ++ tools)) ∨
      (¬ ∃ tools, publicTools (names.zip discovered) = .ok tools ∧ Fresh seen tools) ∧ RaisesValidation o := by
  induction names generalizing merged seen discovered t with
  | nil =>
    obtain ⟨-, ho⟩ := Prog.exec_done.mp h
    exact .inl ⟨[], by rw [List.zip_nil_left]; rfl, fresh_nil seen, by rw [ho, List.append_nil]⟩
  | cons name names ih =>
    cases discovered with
    | nil => cases hlength
    | cons tools discovered =>
      obtain ⟨t', h, hanswered⟩ := mergeServers_listed (hnames name List.mem_cons_self) h hanswered
      rw [List.zip_cons_cons]
      cases htools : tools.mapM (namespacedTool name) with
      | error err =>
        obtain ⟨message, hmessage⟩ := namespacedTools_validation htools
        rw [mergeListed_refused htools, hmessage] at h
        refine .inr ⟨?_, message, (Prog.exec_raise.mp h).2⟩
        rintro ⟨all, hpublic, -⟩
        obtain ⟨first, rest, hfirst, -⟩ := publicTools_cons hpublic
        rw [htools] at hfirst
        cases hfirst
      | ok first =>
        by_cases hfresh : Fresh seen first
        · rw [mergeListed_fresh htools hfresh] at h
          rcases ih (fun name' hmem => hnames name' (List.mem_cons_of_mem _ hmem)) (Nat.succ.inj hlength) h
            hanswered with ⟨rest, hrest, hfresh_rest, ho⟩ | ⟨hstale, ho⟩
          · left
            refine ⟨first ++ rest, ?_, fresh_append.mpr ⟨hfresh, hfresh_rest⟩, by rw [ho, List.append_assoc]⟩
            rw [publicTools, htools, hrest]
            rfl
          · refine .inr ⟨?_, ho⟩
            rintro ⟨all, hpublic, hfresh_all⟩
            obtain ⟨rest, hrest, hall⟩ := publicTools_ok htools hpublic
            rw [hall] at hfresh_all
            exact hstale ⟨rest, hrest, (fresh_append.mp hfresh_all).2⟩
        · obtain ⟨message, hrefused⟩ :=
            @mergeListed_stale organization_id name names merged tools first seen htools hfresh
          rw [hrefused] at h
          refine .inr ⟨?_, message, (Prog.exec_raise.mp h).2⟩
          rintro ⟨all, hpublic, hfresh_all⟩
          obtain ⟨rest, -, hall⟩ := publicTools_ok htools hpublic
          rw [hall] at hfresh_all
          exact hfresh (fresh_append.mp hfresh_all).1

end Runs

section Collisions

variable {organization_id : UUID} {inline_tools tools : List ToolDefinition} {server_names : List String}
  {discovered : List (List ToolDefinition)} {t : List (Obs McpCommand McpResponse Empty)}
  {o : Except McpExn (List ToolDefinition)}

def publicNames (listing : List (String × List ToolDefinition)) : List String :=
  listing.flatMap fun entry => (namesOf entry.2).map fun tool_name => entry.1 ++ "." ++ tool_name

theorem namespacedTool_name {name : String} {tool public_tool : ToolDefinition}
    (h : namespacedTool name tool = .ok public_tool) : public_tool.name = name ++ "." ++ tool.name := by
  unfold namespacedTool at h
  cases hname : namespacedMcpToolName name tool.name with
  | error err =>
    rw [hname] at h
    cases h
  | ok public_name =>
    rw [hname] at h
    obtain ⟨_, rfl⟩ := of_validated h
    exact namespaced_eq hname

theorem namespacedTools_names {name : String} {tools public_tools : List ToolDefinition}
    (h : tools.mapM (namespacedTool name) = .ok public_tools) :
    namesOf public_tools = (namesOf tools).map fun tool_name => name ++ "." ++ tool_name := by
  unfold namesOf
  induction mapM_ok_iff.mp h with
  | nil => rfl
  | cons htool hrest ih =>
    rw [List.map_cons, List.map_cons, List.map_cons, ih (mapM_ok_iff.mpr hrest), namespacedTool_name htool]

theorem publicTools_names {listing : List (String × List ToolDefinition)} {all : List ToolDefinition}
    (h : publicTools listing = .ok all) : namesOf all = publicNames listing := by
  induction listing generalizing all with
  | nil =>
    cases h
    rfl
  | cons entry listing ih =>
    obtain ⟨first, rest, hfirst, hrest, rfl⟩ := publicTools_cons h
    have hnames := namespacedTools_names hfirst
    have hnames_rest := ih hrest
    unfold publicNames namesOf at *
    rw [List.map_append, List.flatMap_cons, hnames, hnames_rest]

theorem fresh_iff {seen : Finset String} {listing : List (String × List ToolDefinition)} {all : List ToolDefinition}
    (h : publicTools listing = .ok all) : Fresh seen all ↔ Unseen seen (publicNames listing) := by
  unfold Fresh
  rw [publicTools_names h]

theorem namespacedTool_isOk {name : String} {tool : ToolDefinition} :
    (∃ public_tool, namespacedTool name tool = .ok public_tool) ↔ toolNameProblem name tool.name = none := by
  constructor
  · rintro ⟨public_tool, h⟩
    unfold namespacedTool namespacedMcpToolName at h
    cases hproblem : toolNameProblem name tool.name with
    | none => rfl
    | some problem =>
      rw [validated_error hproblem] at h
      cases h
  · intro h
    have hdotted : requireNonBlank (name ++ "." ++ tool.name) "name" = none := by
      unfold requireNonBlank
      rw [dotted_not_blank]
      rfl
    refine ⟨⟨name ++ "." ++ tool.name, tool.description, tool.parameters, hdotted⟩, ?_⟩
    unfold namespacedTool namespacedMcpToolName
    rw [validated_ok h]
    exact validated_ok hdotted

def Nameable (listing : List (String × List ToolDefinition)) : Prop :=
  ∀ entry ∈ listing, ∀ tool ∈ entry.2, toolNameProblem entry.1 tool.name = none

theorem publicTools_isOk {listing : List (String × List ToolDefinition)} :
    (∃ all, publicTools listing = .ok all) ↔ Nameable listing := by
  induction listing with
  | nil => exact iff_of_true ⟨[], rfl⟩ fun _ hmem => absurd hmem List.not_mem_nil
  | cons entry listing ih =>
    obtain ⟨name, tools⟩ := entry
    have hsplit : Nameable ((name, tools) :: listing) ↔
        (∀ tool ∈ tools, toolNameProblem name tool.name = none) ∧ Nameable listing := List.forall_mem_cons
    rw [hsplit, ← ih]
    constructor
    · rintro ⟨all, h⟩
      obtain ⟨first, rest, hfirst, hrest, -⟩ := publicTools_cons h
      exact ⟨fun tool htool => namespacedTool_isOk.mp (mapM_isOk_iff.mp ⟨first, hfirst⟩ tool htool), rest, hrest⟩
    · rintro ⟨htools, rest, hrest⟩
      obtain ⟨first, hfirst⟩ := mapM_isOk_iff.mpr fun tool htool => namespacedTool_isOk.mpr (htools tool htool)
      refine ⟨first ++ rest, ?_⟩
      unfold publicTools
      rw [hfirst, hrest]
      rfl

theorem nodup_append_iff {tools tools' : List ToolDefinition} : (namesOf (tools ++ tools')).Nodup ↔
    (namesOf tools).Nodup ∧ Fresh (namesOf tools).toFinset tools' := by
  have hempty : ∀ tools : List ToolDefinition, Fresh ∅ tools ↔ (namesOf tools).Nodup := by
    intro tools
    simp [Fresh, Unseen]
  rw [← hempty, fresh_append, hempty, Finset.empty_union]

theorem names_nodup_iff {tools : List ToolDefinition} {names : List String} : (namesOf tools ++ names).Nodup ↔
    (namesOf tools).Nodup ∧ Unseen (namesOf tools).toFinset names := by
  unfold Unseen
  rw [List.nodup_append]
  simp only [List.mem_toFinset]
  constructor
  · rintro ⟨hnodup, hnodup', hapart⟩
    exact ⟨hnodup, hnodup', fun name hname hmem => hapart name hmem name hname rfl⟩
  · rintro ⟨hnodup, hnodup', hapart⟩
    exact ⟨hnodup, hnodup', fun name hname name' hname' heq => hapart name' hname' (heq ▸ hname)⟩

/-- The tools of an answer are all of them exactly when their names are distinct, and two that coincide are refused. -/
def MergesDistinct (inline_tools : List ToolDefinition) (listing : List (String × List ToolDefinition))
    (o : Except McpExn (List ToolDefinition)) : Prop :=
  ((∃ tools, publicTools listing = .ok tools ∧ o = .ok (inline_tools ++ tools)) ↔
      (namesOf inline_tools ++ publicNames listing).Nodup) ∧
    (¬ (namesOf inline_tools ++ publicNames listing).Nodup → RaisesValidation o)

/-- Coinciding names are refused but for two inline tools, which are merged without a look at their names; and a tool
that has no public name ends the call whatever the names are. -/
theorem resolve_merges_iff (hnames : ∀ name ∈ server_names, validateMcpServerName name = none)
    (hlength : discovered.length = server_names.length)
    (h : Prog.Exec (resolveToolsForGeneration organization_id inline_tools server_names) t o)
    (hanswered : Answered discovered t) : MergesDistinct inline_tools (server_names.zip discovered) o ↔
      (Nameable (server_names.zip discovered) ↔ (namesOf inline_tools).Nodup) ∨
        ¬ Unseen (namesOf inline_tools).toFinset (publicNames (server_names.zip discovered)) := by
  unfold MergesDistinct
  rw [names_nodup_iff, ← publicTools_isOk]
  rcases mergeServers_outcome hnames hlength h hanswered with ⟨tools, hpublic, hfresh, ho⟩ | ⟨hstale, message, ho⟩
  · rw [fresh_iff hpublic] at hfresh
    have hall : ∃ tools, publicTools (server_names.zip discovered) = .ok tools := ⟨tools, hpublic⟩
    have hreturns : ∃ tools, publicTools (server_names.zip discovered) = .ok tools ∧ o = .ok (inline_tools ++ tools) :=
      ⟨tools, hpublic, ho⟩
    constructor
    · rintro ⟨hmerges, -⟩
      exact .inl (iff_of_true hall (hmerges.mp hreturns).1)
    · rintro (hinline | hnot)
      · have hdistinct := hinline.mp hall
        exact ⟨iff_of_true hreturns ⟨hdistinct, hfresh⟩, fun hno => absurd ⟨hdistinct, hfresh⟩ hno⟩
      · exact absurd hfresh hnot
  · have hraises : ¬ ∃ tools, publicTools (server_names.zip discovered) = .ok tools ∧
      o = .ok (inline_tools ++ tools) := by
      rintro ⟨tools, -, hok⟩
      rw [hok] at ho
      cases ho
    have hclash : ¬ ((∃ tools, publicTools (server_names.zip discovered) = .ok tools) ∧
        Unseen (namesOf inline_tools).toFinset (publicNames (server_names.zip discovered))) := by
      rintro ⟨⟨tools, hpublic⟩, hfresh⟩
      exact hstale ⟨tools, hpublic, (fresh_iff hpublic).mpr hfresh⟩
    constructor
    · rintro ⟨hmerges, -⟩
      have hnot := fun hboth => hraises (hmerges.mpr hboth)
      tauto
    · intro hcondition
      refine ⟨iff_of_false hraises ?_, fun _ => ⟨message, ho⟩⟩
      tauto

section Samples

def sampleTool (name : String) (h : requireNonBlank name "name" = none) : ToolDefinition := ⟨name, "", [], h⟩

def crm : McpServer := ⟨⟨1⟩, ⟨2⟩, "crm", "https://mcp.example/tools", [], none, by decide⟩

def lookUp : ToolDefinition := sampleTool "lookup" rfl

def lookUpRun : List (Obs McpCommand McpResponse Empty) :=
  [.asked (.getByName ⟨2⟩ "crm") (.ok (some crm)), .asked (.listTools crm) (.ok [lookUp])]

theorem lookUpRun_answered : Answered [[lookUp]] lookUpRun := by
  constructor
  · intro organization_id name answer hmem
    rcases List.mem_cons.mp hmem with heq | hmem
    · cases heq
      exact ⟨crm, rfl⟩
    · cases List.mem_singleton.mp hmem
  · exact List.prefix_rfl

theorem lookUpRun_exec : Prog.Exec (resolveToolsForGeneration ⟨2⟩ [lookUp] ["crm"]) lookUpRun
    (.ok [lookUp, sampleTool "crm.lookup" rfl]) := by
  refine Prog.Exec.call (R := McpResponse) (c := McpCommand.getByName ⟨2⟩ "crm") (.ok (some crm)) ?_
  refine Prog.Exec.call (R := McpResponse) (c := McpCommand.listTools crm) (.ok [lookUp]) ?_
  exact Prog.Exec.done _

/-- An inline tool and a server's tool of the same name are told apart. -/
theorem lookUp_merges :
    MergesDistinct [lookUp] [("crm", [lookUp])] (.ok [lookUp, sampleTool "crm.lookup" rfl]) ↔
      (Nameable [("crm", [lookUp])] ↔ (namesOf [lookUp]).Nodup) ∨
        ¬ Unseen (namesOf [lookUp]).toFinset (publicNames [("crm", [lookUp])]) :=
  @resolve_merges_iff ⟨2⟩ [lookUp] ["crm"] [[lookUp]] lookUpRun _ (by decide) rfl lookUpRun_exec lookUpRun_answered

/-- Two inline tools of one name are returned. -/
theorem inline_duplicates_returned :
    Prog.Exec (resolveToolsForGeneration ⟨2⟩ [lookUp, lookUp] []) [] (.ok [lookUp, lookUp]) ∧
      Answered [] [] ∧ ¬ MergesDistinct [lookUp, lookUp] [] (.ok [lookUp, lookUp]) := by
  refine ⟨Prog.Exec.done _, ⟨fun _ _ _ hmem => absurd hmem List.not_mem_nil, List.prefix_rfl⟩, ?_⟩
  rintro ⟨hreturns, -⟩
  exact absurd (hreturns.mp ⟨[], rfl, rfl⟩) (by decide)

end Samples

def Apart (s s' : String) : Prop := ¬ Nested s s' ∧ ¬ Nested s' s

/-- The public names of servers that are apart, and whose tools are distinct, are distinct. -/
theorem publicTools_nodup {listing : List (String × List ToolDefinition)}
    (hservers : (listing.map Prod.fst).Nodup) (hapart : (listing.map Prod.fst).Pairwise Apart)
    (htools : ∀ entry ∈ listing, (namesOf entry.2).Nodup) {all : List ToolDefinition}
    (h : publicTools listing = .ok all) :
    (namesOf all).Nodup ∧ ∀ public_name ∈ namesOf all, ∃ entry ∈ listing, ∃ tool_name,
      public_name = entry.1 ++ "." ++ tool_name := by
  induction listing generalizing all with
  | nil =>
    cases h
    exact ⟨List.nodup_nil, fun _ hmem => absurd hmem List.not_mem_nil⟩
  | cons entry listing ih =>
    obtain ⟨name, tools⟩ := entry
    obtain ⟨first, rest, hfirst, hrest, rfl⟩ := publicTools_cons h
    rw [List.map_cons, List.nodup_cons] at hservers
    rw [List.map_cons, List.pairwise_cons] at hapart
    obtain ⟨hnodup_rest, hnames_rest⟩ := ih hservers.2 hapart.2
      (fun entry hmem => htools entry (List.mem_cons_of_mem _ hmem)) hrest
    have hnames_first := namespacedTools_names hfirst
    have hnodup_first : (namesOf first).Nodup := by
      rw [hnames_first]
      exact (htools _ List.mem_cons_self).map fun _ _ => append_dot_inj
    have hnames_apart : ∀ public_name ∈ namesOf rest, public_name ∉ (namesOf first).toFinset := by
      intro public_name hmem_rest hmem_first
      obtain ⟨entry, hentry, tool_name, hrest_name⟩ := hnames_rest public_name hmem_rest
      rw [List.mem_toFinset, hnames_first] at hmem_first
      obtain ⟨tool_name', -, hfirst_name⟩ := List.mem_map.mp hmem_first
      have hmem : entry.1 ∈ listing.map Prod.fst := List.mem_map_of_mem hentry
      rcases dotted_cases (hfirst_name.trans hrest_name) with ⟨hsame, -⟩ | hnested | hnested
      · rw [hsame] at hservers
        exact hservers.1 hmem
      · exact (hapart.1 entry.1 hmem).1 hnested
      · exact (hapart.1 entry.1 hmem).2 hnested
    refine ⟨nodup_append_iff.mpr ⟨hnodup_first, hnodup_rest, hnames_apart⟩, ?_⟩
    intro public_name hmem
    unfold namesOf at hmem
    rw [List.map_append] at hmem
    rcases List.mem_append.mp hmem with hmem | hmem
    · have hfirst_mem : public_name ∈ namesOf first := hmem
      rw [hnames_first] at hfirst_mem
      obtain ⟨tool_name, -, heq⟩ := List.mem_map.mp hfirst_mem
      exact ⟨(name, tools), List.mem_cons_self, tool_name, heq.symm⟩
    · obtain ⟨entry, hentry, hname⟩ := hnames_rest public_name hmem
      exact ⟨entry, List.mem_cons_of_mem _ hentry, hname⟩

theorem not_nested_self (s : String) : ¬ Nested s s := by
  intro h
  obtain ⟨more, hmore⟩ := nested_iff.mp h
  have hlength := congrArg List.length hmore
  rw [List.length_append, List.length_cons] at hlength
  omega

/-- A public name tells the server and the tool. -/
def Identifies (s s' : String) : Prop :=
  ∀ t t' public_name, namespacedMcpToolName s t = .ok public_name → namespacedMcpToolName s' t' = .ok public_name →
    s = s' ∧ t = t'

theorem identifies_iff {s s' : String} (hs : validateMcpServerName s = none) (hs' : validateMcpServerName s' = none) :
    Identifies s s' ↔ Apart s s' := by
  constructor
  · intro hidentifies
    refine ⟨fun hnested => ?_, fun hnested => ?_⟩
    · obtain ⟨t, public_name, ht, ht'⟩ := nested_collides hs hs' hnested
      rw [(hidentifies _ _ _ ht ht').1] at hnested
      exact not_nested_self s' hnested
    · obtain ⟨t, public_name, ht, ht'⟩ := nested_collides hs' hs hnested
      rw [(hidentifies _ _ _ ht' ht).1] at hnested
      exact not_nested_self s' hnested
  · intro hapart t t' public_name ht ht'
    rcases dotted_cases ((namespaced_eq ht).symm.trans (namespaced_eq ht')) with hsame | hnested | hnested
    · exact hsame
    · exact absurd hnested hapart.1
    · exact absurd hnested hapart.2

/-- Servers that are apart, each with distinct tools: what they list never collides. -/
theorem resolve_apart (hnames : ∀ name ∈ server_names, validateMcpServerName name = none)
    (hlength : discovered.length = server_names.length) (hdistinct : server_names.Nodup)
    (hapart : server_names.Pairwise Apart) (htools : ∀ listed ∈ discovered, (namesOf listed).Nodup)
    (hpublic : publicTools (server_names.zip discovered) = .ok tools)
    (hinline : ∀ public_name ∈ namesOf tools, public_name ∉ namesOf inline_tools)
    (h : Prog.Exec (resolveToolsForGeneration organization_id inline_tools server_names) t o)
    (hanswered : Answered discovered t) : o = .ok (inline_tools ++ tools) := by
  have hfst : (server_names.zip discovered).map Prod.fst = server_names := List.map_fst_zip (le_of_eq hlength.symm)
  have hnodup := publicTools_nodup (by rw [hfst]; exact hdistinct) (by rw [hfst]; exact hapart)
    (fun entry hmem => htools entry.2 (List.of_mem_zip hmem).2) hpublic
  have hfresh : Fresh (namesOf inline_tools).toFinset tools := by
    refine ⟨hnodup.1, fun name hname => ?_⟩
    rw [List.mem_toFinset]
    exact hinline name hname
  rcases mergeServers_outcome hnames hlength h hanswered with ⟨tools', hpublic', -, ho⟩ | ⟨hstale, -⟩
  · rw [hpublic] at hpublic'
    cases hpublic'
    exact ho
  · exact absurd ⟨tools, hpublic, hfresh⟩ hstale

/-- Of two servers the public names tell them and their tools apart exactly if neither is nested in the other, and
servers that are so never collide. -/
theorem namespacing_identifies_iff (server server' : String) (hserver : validateMcpServerName server = none)
    (hserver' : validateMcpServerName server' = none) :
    (Identifies server server' ↔ Apart server server') ∧
      ∀ organization_id inline_tools tools server_names discovered t o,
        (∀ name ∈ server_names, validateMcpServerName name = none) → discovered.length = server_names.length →
        server_names.Nodup → server_names.Pairwise Apart → (∀ listed ∈ discovered, (namesOf listed).Nodup) →
        publicTools (server_names.zip discovered) = .ok tools →
        (∀ public_name ∈ namesOf tools, public_name ∉ namesOf inline_tools) →
        Prog.Exec (resolveToolsForGeneration organization_id inline_tools server_names) t o → Answered discovered t →
        o = .ok (inline_tools ++ tools) :=
  ⟨identifies_iff hserver hserver', fun _ _ _ _ _ _ _ => resolve_apart⟩

theorem crm_identifies : (Identifies "crm" "billing" ↔ Apart "crm" "billing") ∧
    (.ok [lookUp, sampleTool "crm.lookup" rfl] : Except McpExn (List ToolDefinition)) =
      .ok ([lookUp] ++ [sampleTool "crm.lookup" rfl]) := by
  obtain ⟨hiff, hresolve⟩ := namespacing_identifies_iff "crm" "billing" (by decide) (by decide)
  refine ⟨hiff, ?_⟩
  exact hresolve ⟨2⟩ [lookUp] [sampleTool "crm.lookup" rfl] ["crm"] [[lookUp]] lookUpRun
    (.ok [lookUp, sampleTool "crm.lookup" rfl]) (by decide) rfl (by decide) (List.pairwise_singleton _ _) (by decide) rfl
    (by decide) lookUpRun_exec lookUpRun_answered

/-- Two servers, and two tools that share a public name. -/
theorem nested_servers_collide : validateMcpServerName "a" = none ∧ validateMcpServerName "a.b" = none ∧
    namespacedMcpToolName "a" "b.c" = .ok "a.b.c" ∧ namespacedMcpToolName "a.b" "c" = .ok "a.b.c" ∧
    ¬ Identifies "a" "a.b" := by
  refine ⟨by decide, by decide, rfl, rfl, ?_⟩
  intro h
  exact absurd (h "b.c" "c" "a.b.c" rfl rfl).1 (by decide)

end Collisions

end AIRuntime.McpTools
