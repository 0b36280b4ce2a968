import AIRuntime.FlatPatterns
import AIRuntime.PromptRecords
import Mathlib.Data.Finset.Sort
import Mathlib.Data.String.Basic

set_option autoImplicit false

/-! Placeholders of a template, and the messages that it renders. -/
namespace AIRuntime.PromptRendering

open EffectPrograms PythonText Failures Identifiers GenerationContracts PromptRecords FlatPatterns

section Placeholders

def isIdentifierStart (c : Char) : Bool :=
  let n := c.toNat
  (65 ≤ n && n ≤ 90) || (97 ≤ n && n ≤ 122) || n = 95

def isIdentifierChar (c : Char) : Bool :=
  isIdentifierStart c || (48 ≤ c.toNat && c.toNat ≤ 57)

def isOpenBrace (c : Char) : Bool := c.toNat = 123

def isCloseBrace (c : Char) : Bool := c.toNat = 125

theorem isSpace_not_identifier {c : Char} (h : isSpace c = true) :
    isIdentifierStart c = false ∧ isCloseBrace c = false := by
  simp only [isSpace, isIdentifierStart, isCloseBrace] at h ⊢
  simp at h ⊢
  omega

theorem isIdentifierChar_not_close {c : Char} (h : isIdentifierChar c = true) :
    isSpace c = false ∧ isCloseBrace c = false := by
  simp only [isSpace, isIdentifierStart, isIdentifierChar, isCloseBrace] at h ⊢
  simp at h ⊢
  omega

def placeholderItems : List (Item Char) :=
  [.one isOpenBrace, .one isOpenBrace, .many isSpace, .one isIdentifierStart, .many isIdentifierChar, .many isSpace,
    .one isCloseBrace, .one isCloseBrace]

def placeholderPattern : Pattern Char where
  items := placeholderItems
  disjoint := by
    refine ⟨fun c hc => (isSpace_not_identifier hc).1, fun c hc => ?_, fun c hc => (isSpace_not_identifier hc).2,
      trivial⟩
    obtain ⟨hspace, hclose⟩ := isIdentifierChar_not_close hc
    simp [starts, hspace, hclose]
  solid := ⟨isOpenBrace, List.mem_cons_self⟩

/-- `match.group(1)`. -/
def group1 (parts : List (List Char)) : String := String.ofList ((parts.drop 3).take 2).flatten

end Placeholders

section Rendering

def messagePlaceholders (self : PromptMessageTemplate) : Finset String :=
  (findAll placeholderItems group1 (self.content.length + 1) self.content.toList).toFinset

def placeholders (self : PromptTemplate) : Finset String :=
  self.messages.foldl (fun names message => names ∪ messagePlaceholders message) ∅

def sortedPlaceholders (self : PromptTemplate) : List String := (placeholders self).sort

/-- `lambda match: variables[match.group(1)]`. -/
def substitute (variable_map : List (String × String)) (parts : List (List Char)) : Except Exn (List Char) :=
  match variable_map.lookup (group1 parts) with
  | none => .error (.other "KeyError")
  | some value => .ok value.toList

def renderMessage (variable_map : List (String × String)) (message : PromptMessageTemplate) : Except Exn Message := do
  let content ← sub placeholderItems (substitute variable_map) (message.content.length + 1) message.content.toList
  Message.new message.role (String.ofList content) none none []

/-- `frozenset(variables)`. -/
def provided (variable_map : List (String × String)) : Finset String := (variable_map.map Prod.fst).toFinset

def render (self : PromptTemplate) (variable_map : List (String × String)) : Except Exn (List Message) :=
  let missing := (placeholders self \ provided variable_map).sort
  let unknown := (provided variable_map \ placeholders self).sort
  if !missing.isEmpty then .error (.domainValidation ("missing prompt variables: " ++ ", ".intercalate missing))
  else if !unknown.isEmpty then .error (.domainValidation ("unknown prompt variables: " ++ ", ".intercalate unknown))
  else self.messages.mapM (renderMessage variable_map)

end Rendering

section Segments

def namesOf (pieces : List (Piece Char)) : List String := (pieces.filterMap Piece.hole?).map group1

/-- A literal as it is, and a hole as its value. -/
def spelled (variable_map : List (String × String)) : Piece Char → List Char
  | .text c => [c]
  | .hole parts => ((variable_map.lookup (group1 parts)).getD "").toList

def contentOf (variable_map : List (String × String)) (pieces : List (Piece Char)) : String :=
  String.ofList (pieces.flatMap (spelled variable_map))

def Segments (message : PromptMessageTemplate) (pieces : List (Piece Char)) : Prop :=
  placeholderPattern.Segmented message.content.toList pieces

theorem segmentation_exists (messages : List PromptMessageTemplate) :
    ∃ segmentation, List.Forall₂ Segments messages segmentation := by
  induction messages with
  | nil => exact ⟨[], .nil⟩
  | cons message messages ih =>
    obtain ⟨pieces, hpieces⟩ := @Pattern.segmented_exists Char placeholderPattern message.content.toList
    obtain ⟨segmentation, hsegmentation⟩ := ih
    exact ⟨pieces :: segmentation, .cons hpieces hsegmentation⟩

theorem segmentation_unique {messages : List PromptMessageTemplate}
    {segmentation segmentation' : List (List (Piece Char))} (h : List.Forall₂ Segments messages segmentation)
    (h' : List.Forall₂ Segments messages segmentation') :
    segmentation = segmentation' := by
  induction h generalizing segmentation' with
  | nil =>
    cases h'
    rfl
  | cons hpieces _ ih =>
    cases h' with
    | cons hpieces' hrest' => rw [Pattern.Segmented.unique hpieces hpieces', ih hrest']

theorem segmentation_sources {messages : List PromptMessageTemplate} {segmentation : List (List (Piece Char))}
    (h : List.Forall₂ Segments messages segmentation) :
    segmentation.map (fun pieces => String.ofList (pieces.map Piece.source).flatten) = messages.map (·.content) := by
  induction h with
  | nil => rfl
  | @cons message pieces _ _ hpieces _ ih =>
    rw [List.map_cons, List.map_cons, ih, Pattern.Segmented.source hpieces, String.ofList_toList]

theorem messagePlaceholders_eq {message : PromptMessageTemplate} {pieces : List (Piece Char)}
    (h : Segments message pieces) : messagePlaceholders message = (namesOf pieces).toFinset := by
  have hread := h.findAll_eq group1 (Nat.lt_succ_self _)
  exact congrArg List.toFinset hread

theorem mem_placeholders {messages : List PromptMessageTemplate} {segmentation : List (List (Piece Char))}
    (h : List.Forall₂ Segments messages segmentation) (names : Finset String) (name : String) :
    name ∈ messages.foldl (fun names message => names ∪ messagePlaceholders message) names ↔
      name ∈ names ∨ ∃ pieces ∈ segmentation, name ∈ namesOf pieces := by
  induction h generalizing names with
  | nil => simp
  | cons hpieces _ ih =>
    rw [List.foldl_cons, ih, messagePlaceholders_eq hpieces]
    simp [or_assoc]

theorem fill_contentOf {variable_map : List (String × String)} {pieces : List (Piece Char)}
    (h : ∀ name ∈ namesOf pieces, (variable_map.lookup name).isSome) :
    fill (substitute variable_map) pieces = .ok (contentOf variable_map pieces).toList := by
  unfold contentOf
  rw [String.toList_ofList]
  induction pieces with
  | nil => rfl
  | cons piece pieces ih =>
    cases piece with
    | text c =>
      rw [fill, ih h]
      rfl
    | hole parts =>
      have hvalue := h (group1 parts) List.mem_cons_self
      obtain ⟨value, hvalue⟩ := Option.isSome_iff_exists.mp hvalue
      have hrest := ih fun name hname => h name (List.mem_cons_of_mem _ hname)
      have hsubstitute : substitute variable_map parts = .ok value.toList := by
        unfold substitute
        rw [hvalue]
      have hspelled : spelled variable_map (.hole parts) = value.toList := by
        change ((variable_map.lookup (group1 parts)).getD "").toList = value.toList
        rw [hvalue]
        rfl
      rw [fill, hsubstitute, hrest, List.flatMap_cons, hspelled]
      rfl

/-- A message is rendered as its role and its filled content, unless that is blank. -/
theorem renderMessage_eq {variable_map : List (String × String)} {message : PromptMessageTemplate}
    {pieces : List (Piece Char)} (hpieces : Segments message pieces)
    (h : ∀ name ∈ namesOf pieces, (variable_map.lookup name).isSome) :
    renderMessage variable_map message = Message.new message.role (contentOf variable_map pieces) none none [] := by
  unfold renderMessage
  have hsub := hpieces.sub_eq (substitute variable_map) (Nat.lt_succ_self _)
  rw [fill_contentOf h] at hsub
  have hcontent : sub placeholderItems (substitute variable_map) (message.content.length + 1) message.content.toList =
      .ok (contentOf variable_map pieces).toList := hsub
  rw [hcontent]
  change Message.new message.role (String.ofList (contentOf variable_map pieces).toList) none none [] = _
  rw [String.ofList_toList]

theorem message_problem (message : PromptMessageTemplate) (content : String) :
    Message.problem message.role content none [] = requireNonBlank content "content" := by
  have hrole : message.role ≠ .tool := by
    intro htool
    have hok := message.ok
    unfold PromptMessageTemplate.problem at hok
    rw [if_pos htool] at hok
    cases hok
  unfold Message.problem
  rw [if_neg hrole]
  rfl

end Segments

section Results

def fields (m : Message) : MessageRole × String × Option String × Option String × List ToolCall :=
  (m.role, m.content, m.tool_call_id, m.name, m.tool_calls)

def rendered (variable_map : List (String × String)) (message : PromptMessageTemplate) (pieces : List (Piece Char)) :
    MessageRole × String × Option String × Option String × List ToolCall :=
  (message.role, contentOf variable_map pieces, none, none, [])

/-- What rendering a list of messages comes to. -/
inductive Renders (variable_map : List (String × String)) (messages : List PromptMessageTemplate)
    (segmentation : List (List (Piece Char))) : Except Exn (List Message) → Prop where
  | refused (message : String) {pieces : List (Piece Char)} (hmem : pieces ∈ segmentation)
      (hblank : isBlank (contentOf variable_map pieces) = true) :
      Renders variable_map messages segmentation (.error (.domainValidation message))
  | rendered {result : List Message} (hfilled : ∀ pieces ∈ segmentation, isBlank (contentOf variable_map pieces) = false)
      (hfields : result.map fields = List.zipWith (rendered variable_map) messages segmentation) :
      Renders variable_map messages segmentation (.ok result)

theorem renderMessages_renders {variable_map : List (String × String)} {messages : List PromptMessageTemplate}
    {segmentation : List (List (Piece Char))} (h : List.Forall₂ Segments messages segmentation)
    (hcovers : ∀ pieces ∈ segmentation, ∀ name ∈ namesOf pieces, (variable_map.lookup name).isSome) :
    Renders variable_map messages segmentation (messages.mapM (renderMessage variable_map)) := by
  induction h with
  | nil => exact .rendered (fun _ hmem => absurd hmem List.not_mem_nil) rfl
  | @cons message pieces messages segmentation hpieces hrest ih =>
    have hfirst := renderMessage_eq hpieces (hcovers pieces List.mem_cons_self)
    rw [List.mapM_cons, hfirst]
    cases hblank : isBlank (contentOf variable_map pieces) with
    | true =>
      have hproblem : Message.problem message.role (contentOf variable_map pieces) none [] =
          some "content must not be empty or blank" := by
        rw [message_problem]
        unfold requireNonBlank
        rw [if_pos hblank]
        rfl
      have hnew : Message.new message.role (contentOf variable_map pieces) none none [] =
          .error (.domainValidation "content must not be empty or blank") := validated_error hproblem
      rw [hnew]
      exact .refused _ List.mem_cons_self hblank
    | false =>
      have hproblem : Message.problem message.role (contentOf variable_map pieces) none [] = none := by
        rw [message_problem]
        exact requireNonBlank_none.mpr hblank
      have hnew : Message.new message.role (contentOf variable_map pieces) none none [] =
          .ok ⟨message.role, contentOf variable_map pieces, none, none, [], hproblem⟩ := validated_ok hproblem
      rw [hnew]
      have hlater := ih fun pieces hmem => hcovers pieces (List.mem_cons_of_mem _ hmem)
      generalize messages.mapM (renderMessage variable_map) = later at hlater
      cases hlater with
      | refused text hmem hblank => exact .refused text (List.mem_cons_of_mem _ hmem) hblank
      | @rendered result hfilled hfields =>
        refine .rendered ?_ ?_
        · intro pieces' hmem
          rcases List.mem_cons.mp hmem with rfl | hmem
          · exact hblank
          · exact hfilled pieces' hmem
        · exact congrArg (rendered variable_map message pieces :: ·) hfields

theorem lookup_isSome {variable_map : List (String × String)} {name : String} (h : name ∈ provided variable_map) :
    (variable_map.lookup name).isSome := by
  unfold provided at h
  rw [List.mem_toFinset] at h
  induction variable_map with
  | nil => cases h
  | cons entry entries ih =>
    obtain ⟨key, value⟩ := entry
    rw [List.lookup_cons]
    cases hkey : name == key with
    | true => rfl
    | false =>
      rcases List.mem_cons.mp h with heq | hmem
      · rw [heq] at hkey
        simp at hkey
      · exact ih hmem

theorem sort_isEmpty (s : Finset String) : s.sort.isEmpty = true ↔ s = ∅ := by
  rw [List.isEmpty_iff, ← List.length_eq_zero_iff, Finset.length_sort, Finset.card_eq_zero]

/-- Variables other than the placeholders are refused, before anything is rendered. -/
theorem render_mismatch {self : PromptTemplate} {variable_map : List (String × String)}
    (h : provided variable_map ≠ placeholders self) :
    ∃ message, render self variable_map = .error (.domainValidation message) := by
  unfold render
  dsimp only
  split_ifs with hmissing hunknown
  · exact ⟨_, rfl⟩
  · exact ⟨_, rfl⟩
  · rw [Bool.not_eq_true', Bool.not_eq_false, sort_isEmpty, Finset.sdiff_eq_empty_iff_subset] at hmissing hunknown
    exact absurd (Finset.Subset.antisymm hunknown hmissing) h

theorem render_match {self : PromptTemplate} {variable_map : List (String × String)}
    (h : provided variable_map = placeholders self) :
    render self variable_map = self.messages.mapM (renderMessage variable_map) := by
  have hempty : (∅ : Finset String).sort.isEmpty = true := (sort_isEmpty ∅).mpr rfl
  unfold render
  rw [h, Finset.sdiff_self]
  dsimp only
  rw [hempty]
  rfl

/-- A segmentation that tells how a template is rendered with any variables. -/
structure RendersBy (template : PromptTemplate) (segmentation : List (List (Piece Char))) : Prop where
  segments : List.Forall₂ Segments template.messages segmentation
  sources : segmentation.map (fun pieces => String.ofList (pieces.map Piece.source).flatten) =
    template.messages.map (·.content)
  names : ∀ name, name ∈ placeholders template ↔ ∃ pieces ∈ segmentation, name ∈ namesOf pieces
  raises : ∀ variable_map err, render template variable_map = .error err → ∃ message, err = .domainValidation message
  refuses : ∀ variable_map, (∃ err, render template variable_map = .error err) ↔
    provided variable_map ≠ placeholders template ∨
      ∃ pieces ∈ segmentation, isBlank (contentOf variable_map pieces) = true
  renders : ∀ variable_map messages, render template variable_map = .ok messages →
    messages.map fields = List.zipWith (rendered variable_map) template.messages segmentation

theorem rendersBy_exists (template : PromptTemplate) : ∃ segmentation, RendersBy template segmentation := by
  obtain ⟨segmentation, hsegmentation⟩ := segmentation_exists template.messages
  have hnames : ∀ name, name ∈ placeholders template ↔ ∃ pieces ∈ segmentation, name ∈ namesOf pieces := by
    intro name
    have hmem := mem_placeholders hsegmentation ∅ name
    simpa [placeholders] using hmem
  have hrenders : ∀ variable_map, provided variable_map = placeholders template →
      Renders variable_map template.messages segmentation (render template variable_map) := by
    intro variable_map hkeys
    rw [render_match hkeys]
    apply renderMessages_renders hsegmentation
    intro pieces hpieces name hname
    apply lookup_isSome
    rw [hkeys]
    exact (hnames name).mpr ⟨pieces, hpieces, hname⟩
  refine ⟨segmentation, hsegmentation, segmentation_sources hsegmentation, hnames, ?_, ?_, ?_⟩
  · intro variable_map err herr
    by_cases hkeys : provided variable_map = placeholders template
    · have hresult := hrenders variable_map hkeys
      rw [herr] at hresult
      cases hresult with
      | refused message _ _ => exact ⟨message, rfl⟩
    · obtain ⟨message, hmessage⟩ := render_mismatch hkeys
      rw [hmessage] at herr
      cases herr
      exact ⟨message, rfl⟩
  · intro variable_map
    by_cases hkeys : provided variable_map = placeholders template
    · have hresult := hrenders variable_map hkeys
      generalize render template variable_map = result at hresult
      cases hresult with
      | refused message hmem hblank => exact iff_of_true ⟨_, rfl⟩ (.inr ⟨_, hmem, hblank⟩)
      | rendered hfilled _ =>
        refine iff_of_false (fun ⟨_, herr⟩ => by cases herr) ?_
        rintro (hdiffer | ⟨pieces, hmem, hblank⟩)
        · exact hdiffer hkeys
        · rw [hfilled pieces hmem] at hblank
          cases hblank
    · obtain ⟨message, hmessage⟩ := render_mismatch hkeys
      exact iff_of_true ⟨_, hmessage⟩ (.inl hkeys)
  · intro variable_map messages hok
    by_cases hkeys : provided variable_map = placeholders template
    · have hresult := hrenders variable_map hkeys
      rw [hok] at hresult
      cases hresult with
      | rendered _ hfields => exact hfields
    · obtain ⟨message, hmessage⟩ := render_mismatch hkeys
      rw [hmessage] at hok
      cases hok

/-- Every template has one segmentation, and with any variables it is rendered by it. -/
theorem render_literal (template : PromptTemplate) : ∃! segmentation, RendersBy template segmentation := by
  obtain ⟨segmentation, hrendered⟩ := rendersBy_exists template
  exact ⟨segmentation, hrendered, fun other hother => segmentation_unique hother.segments hrendered.segments⟩

/-- A value that looks like a placeholder stays as it is. -/
example : (render ⟨⟨0⟩, ⟨0⟩, "say", 1, [⟨.user, "Say: {{ text }}", rfl⟩],
      ⟨2026, 3, 14, 12, 0, 0, 0, none, by decide⟩, by decide⟩ [("text", "{{text}} and {{other}}")]).map
    (fun messages => messages.map (·.content)) = .ok ["Say: {{text}} and {{other}}"] := by
  decide +kernel

end Results

section Resolving

def PromptReference.problem (name : String) (version : Option ℤ) : Option String :=
  (validatePromptName name).or (if version.any (· < 1) then some "version must be at least 1" else none)

structure PromptReference where
  name : String
  variable_map : List (String × String)
  version : Option ℤ
  ok : PromptReference.problem name version = none

inductive ResolveExn where
  | notFound (name : String) (version : Option ℤ)
  | prompt (err : PromptExn)

def resolvePrompt (organization_id : UUID) (reference : PromptReference) :
    Prog PromptCommand PromptResponse Empty ResolveExn (List Message) :=
  (getVersion organization_id reference.name reference.version).attempt.bind fun got =>
    match got with
    | .error err => .raise (.prompt err)
    | .ok none => .raise (.notFound reference.name reference.version)
    | .ok (some template) =>
      Prog.ofExcept ((render template reference.variable_map).mapError fun err => .prompt (.failed err))

/-- The messages that a reference is resolved to are literals and values of the template the repository has. -/
theorem resolvePrompt_literal {organization_id : UUID} {reference : PromptReference}
    {t : List (Obs PromptCommand PromptResponse Empty)} {messages : List Message}
    (h : Prog.Exec (resolvePrompt organization_id reference) t (.ok messages)) :
    ∃ template segmentation, RendersBy template segmentation ∧
      Prog.Exec (getVersion organization_id reference.name reference.version) t (.ok (some template)) ∧
      messages.map fields = List.zipWith (rendered reference.variable_map) template.messages segmentation := by
  rcases Prog.exec_bind.mp h with ⟨x, hx, -⟩ | ⟨got, t₁, t₂, ht, hgot, h⟩
  · cases hx
  · obtain ⟨o, ho, hgot⟩ := Prog.exec_attempt.mp hgot
    cases ho
    cases got with
    | error err => cases (Prog.exec_raise.mp h).2
    | ok found =>
      cases found with
      | none => cases (Prog.exec_raise.mp h).2
      | some template =>
        cases hrender : render template reference.variable_map with
        | error err =>
          simp only [hrender] at h
          cases (Prog.exec_raise.mp h).2
        | ok result =>
          simp only [hrender] at h
          obtain ⟨ht₂, hresult⟩ := Prog.exec_done.mp h
          cases hresult
          obtain ⟨segmentation, hrendered⟩ := rendersBy_exists template
          rw [ht, ht₂, List.append_nil]
          exact ⟨template, segmentation, hrendered, hgot, hrendered.renders _ _ hrender⟩

def getPromptVersions (organization_id : UUID) (name : String) :
    Prog PromptCommand PromptResponse Empty ResolveExn (List PromptTemplate) :=
  match validatePromptName name with
  | some message => .raise (.prompt (.failed (.domainValidation message)))
  | none =>
    (listVersions organization_id name).attempt.bind fun got =>
      match got with
      | .error err => .raise (.prompt err)
      | .ok versions => if versions.isEmpty then .raise (.notFound name none) else .done versions

end Resolving

end AIRuntime.PromptRendering
