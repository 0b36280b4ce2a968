import AIRuntime.EffectInterleaving
import AIRuntime.EffectRelations
import Mathlib.Data.List.Forall2
import Mathlib.Data.List.Nodup

set_option autoImplicit false

/-!
Programs that take turns, each with the history of what it was answered. A fact about an answer that no
later change of the shared state can undo holds of every answer in every history.
-/
namespace AIRuntime.EffectPrograms

variable {ι K C : Type} {R : C → Type} {E X α S : Type}

/-- What a program was called for, and what it was answered so far. -/
structure History (K C : Type) (R : C → Type) where
  call : K
  steps : List (Step C R)

namespace History

def after (h : History K C R) (c : C) (r : R c) : History K C R := ⟨h.call, h.steps ++ [⟨c, r⟩]⟩

@[simp] theorem after_call (h : History K C R) (c : C) (r : R c) : (h.after c r).call = h.call := rfl

theorem mem_after {h : History K C R} {c : C} {r : R c} {step : Step C R} :
    step ∈ (h.after c r).steps ↔ step ∈ h.steps ∨ step = ⟨c, r⟩ := by
  unfold after
  rw [List.mem_append, List.mem_singleton]

theorem last_mem (h : History K C R) (c : C) (r : R c) : (⟨c, r⟩ : Step C R) ∈ (h.after c r).steps :=
  mem_after.mpr (.inr rfl)

/-- What may be asked by its history, which an answer makes longer. -/
abbrev rule (may : History K C R → C → Prop) : Environment C R (History K C R) := locally may after

structure Extends (h h' : History K C R) : Prop where
  call : h'.call = h.call
  steps : ∀ step ∈ h.steps, step ∈ h'.steps

theorem Extends.refl (h : History K C R) : Extends h h := ⟨rfl, fun _ hmem => hmem⟩

theorem Extends.trans {h h' h'' : History K C R} (hfirst : Extends h h') (hsecond : Extends h' h'') : Extends h h'' :=
  ⟨hsecond.1.trans hfirst.1, fun step hmem => hsecond.2 step (hfirst.2 step hmem)⟩

theorem extends_after (h : History K C R) (c : C) (r : R c) : Extends h (h.after c r) :=
  ⟨rfl, fun _ hmem => mem_after.mpr (.inl hmem)⟩

section Pools

variable [DecidableEq ι] {g g' : ι → History K C R} {i j : ι} {c : C} {r : R c}

def Later (g g' : ι → History K C R) : Prop := ∀ i, Extends (g i) (g' i)

theorem later_after (g : ι → History K C R) (i : ι) (c : C) (r : R c) :
    Later g (Function.update g i ((g i).after c r)) := by
  intro j
  by_cases hj : j = i
  · subst hj
    rw [Function.update_self]
    exact extends_after _ c r
  · rw [Function.update_of_ne hj]
    exact .refl _

theorem mem_update {step : Step C R} (h : step ∈ (Function.update g i ((g i).after c r) j).steps) :
    step ∈ (g j).steps ∨ j = i ∧ step = ⟨c, r⟩ := by
  by_cases hj : j = i
  · subst hj
    rw [Function.update_self] at h
    exact (mem_after.mp h).imp_right fun hstep => ⟨rfl, hstep⟩
  · rw [Function.update_of_ne hj] at h
    exact .inl h

theorem new_mem (g : ι → History K C R) (i : ι) (c : C) (r : R c) :
    (⟨c, r⟩ : Step C R) ∈ (Function.update g i ((g i).after c r) i).steps := by
  rw [Function.update_self]
  exact last_mem _ c r

end Pools

end History

namespace Obs

variable {E : Type}

theorem mem_steps {t : List (Obs C R E)} {c : C} {r : R c} : (⟨c, r⟩ : Step C R) ∈ steps t ↔ .asked c r ∈ t := by
  unfold steps
  rw [List.mem_filterMap]
  constructor
  · rintro ⟨o, hmem, ho⟩
    cases o with
    | asked c' r' =>
      cases ho
      exact hmem
    | yielded e => cases ho
  · intro h
    exact ⟨_, h, rfl⟩

end Obs

section Asking

variable {may : History K C R → C → Prop} {f : α → Prog C R E X α} {Q : Except X α → History K C R → Prop}

theorem Prog.wp_told {c : C} {f : R c → Prog C R E X α} {h : History K C R} (hmay : may h c)
    (hnext : ∀ r, (f r).wp (History.rule may) (fun h _ => h) Q (h.after c r)) :
    ((Prog.ask c).bind f).wp (History.rule may) (fun h _ => h) Q h := by
  refine Prog.wp_ask hmay ?_
  intro r h' hr
  rw [hr]
  exact hnext r

/-- What holds however a program ends that goes on from a history and asks what it may. -/
abbrev Prog.Spec (may : History K C R → C → Prop) (p : Prog C R E X α) (Q : Except X α → History K C R → Prop)
    (told : History K C R) : Prop :=
  p.wp (History.rule may) (fun told _ => told) Q told

section Raising

variable {Y β : Type} {wrap : Y → X} {result : Except Y α} {g : α → Prog C R E X β}
  {P : Except X β → History K C R → Prop} {told : History K C R}

theorem Prog.ofExcept_spec (hok : ∀ a, result = .ok a → Prog.Spec may (g a) P told)
    (herr : ∀ err, result = .error err → P (.error (wrap err)) told) :
    Prog.Spec may ((Prog.ofExcept (result.mapError wrap)).bind g) P told := by
  cases result with
  | ok a => exact hok a rfl
  | error err => exact herr err rfl

/-- What is raised by the answers so far, where `raises` tells which answers do. -/
def History.Raised (raises : Step C R → Option Y) (told : History K C R) (err : Y) : Prop :=
  ∃ step ∈ told.steps, raises step = some err

theorem Prog.answered_spec (raises : Step C R → Option Y) {c : C} {r : R c}
    (hraises : ∀ err, result = .error err → raises ⟨c, r⟩ = some err)
    (hok : ∀ a, result = .ok a → Prog.Spec may (g a) P (told.after c r))
    (herr : ∀ err, History.Raised raises (told.after c r) err → P (.error (wrap err)) (told.after c r)) :
    Prog.Spec may ((Prog.ofExcept (result.mapError wrap)).bind g) P (told.after c r) :=
  Prog.ofExcept_spec hok fun err h => herr err ⟨_, History.last_mem told c r, hraises err h⟩

end Raising

/-- A program that asks only what every later history permits, and adds no other steps to it. -/
theorem Prog.told_of_asks {P : C → Prop} {p : Prog C R E X α} {h : History K C R} (hp : p.Asks P)
    (hmay : ∀ h' c, History.Extends h h' → (∀ step ∈ h'.steps, step ∈ h.steps ∨ P step.1) → P c → may h' c) :
    p.wp (History.rule may) (fun h _ => h)
      (fun _ h' => History.Extends h h' ∧ ∀ step ∈ h'.steps, step ∈ h.steps ∨ P step.1) h := by
  refine Prog.wp_of_asks hp ?_ (fun _ _ hmore => hmore) ⟨.refl h, fun _ hstep => .inl hstep⟩
  intro c hc h' hmore
  refine ⟨hmay h' c hmore.1 hmore.2 hc, ?_⟩
  rintro r _ rfl
  refine ⟨hmore.1.trans (History.extends_after h' c r), ?_⟩
  intro step hstep
  rcases History.mem_after.mp hstep with hold | rfl
  · exact hmore.2 step hold
  · exact .inr hc

theorem Prog.Exec.told {p : Prog C R E X α} {t : List (Obs C R E)} {o : Except X α} (h : Prog.Exec p t o)
    {Q : Except X α → History K C R → Prop} {before : History K C R}
    (hwp : p.wp (History.rule may) (fun h _ => h) Q before) : Q o ⟨before.call, before.steps ++ Obs.steps t⟩ := by
  induction h generalizing before with
  | done a =>
    rw [Obs.steps_nil, List.append_nil]
    exact hwp
  | raise x =>
    rw [Obs.steps_nil, List.append_nil]
    exact hwp
  | @call c k r t o tail ih =>
    have hnext := ih (hwp.2 r _ rfl)
    rw [Obs.steps_asked, List.append_cons]
    exact hnext
  | @yield e k t o tail ih =>
    rw [Obs.steps_yielded]
    exact ih hwp

theorem Prog.Exec.permitted {p : Prog C R E X α} {t : List (Obs C R E)} {o : Except X α} (h : Prog.Exec p t o)
    {Q : Except X α → History K C R → Prop} (before : History K C R)
    (hwp : p.wp (History.rule may) (fun h _ => h) Q before) {t₁ t₂ : List (Obs C R E)} {c : C} {r : R c}
    (ht : t = t₁ ++ .asked c r :: t₂) : may ⟨before.call, before.steps ++ Obs.steps t₁⟩ c := by
  induction h generalizing before t₁ with
  | done a => simp at ht
  | raise x => simp at ht
  | @call c' k r' t o tail ih =>
    cases t₁ with
    | nil =>
      cases ht
      rw [Obs.steps_nil, List.append_nil]
      exact hwp.1
    | cons first t₁ =>
      obtain ⟨rfl, htail⟩ := List.cons_eq_cons.mp ht
      have hnext := ih _ (hwp.2 r' _ rfl) htail
      rw [Obs.steps_asked, List.append_cons]
      exact hnext
  | @yield e k t o tail ih =>
    cases t₁ with
    | nil => cases ht
    | cons first t₁ =>
      obtain ⟨rfl, htail⟩ := List.cons_eq_cons.mp ht
      rw [Obs.steps_yielded]
      exact ih _ hwp htail

end Asking

namespace Pool

variable [DecidableEq ι] {arbiter : Arbiter ι C R S} {guard : S → (ι → History K C R) → ι → C → Prop}
  {may : History K C R → C → Prop}

theorem Keeps.and {G : Type} {observe : G → (c : C) → R c → G} {guard : S → (ι → G) → ι → C → Prop}
    {may : G → C → Prop} {I J : S → (ι → G) → Prop} (hI : Keeps arbiter observe guard may I)
    (hJ : Keeps arbiter observe guard may J) : Keeps arbiter observe guard may fun s g => I s g ∧ J s g where
  answered := fun s g i c r s' h hmay hguard hreply =>
    ⟨hI.answered s g i c r s' h.1 hmay hguard hreply, hJ.answered s g i c r s' h.2 hmay hguard hreply⟩
  drifted := fun s g s' h hdrift => ⟨hI.drifted s g s' h.1 hdrift, hJ.drifted s g s' h.2 hdrift⟩

theorem keeps_calls (calls : ι → K) :
    Keeps arbiter History.after guard may fun _ g => ∀ i, (g i).call = calls i where
  answered := by
    intro s g i c r s' h _ _ _ j
    by_cases hj : j = i
    · subst hj
      rw [Function.update_self]
      exact h j
    · rw [Function.update_of_ne hj]
      exact h j
  drifted := fun _ _ _ h _ => h

/-- What the shared state does is only ever more of what it was. -/
structure Grows (arbiter : Arbiter ι C R S) (Le : S → S → Prop) : Prop where
  refl : ∀ s, Le s s
  trans : ∀ s s' s'', Le s s' → Le s' s'' → Le s s''
  answered : ∀ i s c r s', arbiter.reply i s c r s' → Le s s'
  drifted : ∀ s s', arbiter.drift s s' → Le s s'

theorem Grows.step {G : Type} {observe : G → (c : C) → R c → G} {guard : S → (ι → G) → ι → C → Prop}
    {Le : S → S → Prop} (h : Grows arbiter Le) {pool pool' : Pool ι C R E X α S G}
    (hstep : Step arbiter observe guard pool pool') : Le pool.shared pool'.shared := by
  cases hstep with
  | answered hrest hguard hreply => exact h.answered _ _ _ _ _ hreply
  | yielded hrest => exact h.refl _
  | drifted hdrift => exact h.drifted _ _ hdrift

theorem Grows.reaches {G : Type} {observe : G → (c : C) → R c → G} {guard : S → (ι → G) → ι → C → Prop}
    {Le : S → S → Prop} (h : Grows arbiter Le) {pool pool' : Pool ι C R E X α S G}
    (hreach : Reaches arbiter observe guard pool pool') : Le pool.shared pool'.shared := by
  induction hreach with
  | refl => exact h.refl _
  | tail _ hstep ih => exact h.trans _ _ _ ih (h.step hstep)

/-- A fact about an answer that outlasts every change holds of all answers. -/
theorem keeps_steps {Le : S → S → Prop} (hgrows : Grows arbiter Le) {J : S → Prop} (hJ : ∀ s s', Le s s' → J s → J s')
    {P : S → ι → K → EffectPrograms.Step C R → Prop}
    (hnew : ∀ s (g : ι → History K C R) i c r s', J s → (∀ step ∈ (g i).steps, P s i (g i).call step) → may (g i) c →
      arbiter.reply i s c r s' → P s' i (g i).call ⟨c, r⟩)
    (hlasts : ∀ s s' i call step, Le s s' → P s i call step → P s' i call step) :
    Keeps arbiter History.after guard may fun s g => J s ∧ ∀ i, ∀ step ∈ (g i).steps, P s i (g i).call step where
  answered := by
    intro s g i c r s' h hmay _ hreply
    have hle := hgrows.answered i s c r s' hreply
    refine ⟨hJ s s' hle h.1, ?_⟩
    intro j step hmem
    by_cases hj : j = i
    · subst hj
      rw [Function.update_self] at hmem ⊢
      rcases History.mem_after.mp hmem with hold | rfl
      · exact hlasts _ _ _ _ _ hle (h.2 j step hold)
      · exact hnew s g j c r s' h.1 (h.2 j) hmay hreply
    · rw [Function.update_of_ne hj] at hmem ⊢
      exact hlasts _ _ _ _ _ hle (h.2 j step hmem)
  drifted := by
    intro s g s' h hdrift
    have hle := hgrows.drifted s s' hdrift
    exact ⟨hJ s s' hle h.1, fun i step hmem => hlasts _ _ _ _ _ hle (h.2 i step hmem)⟩

/-- Whoever asks nothing before a state is answered of that state or a later one. -/
theorem Grows.later_answers {Le : S → S → Prop} (h : Grows arbiter Le) {pool pool' : Pool ι C R E X α S (History K C R)}
    {Q : Except X α → History K C R → Prop} (hobeys : pool.Obeys (History.rule may) Q)
    (hlater : Reaches arbiter History.after guard pool pool') {P : S → S → EffectPrograms.Step C R → Prop}
    (hnew : ∀ s₀ s i c r s', Le s₀ s → arbiter.reply i s c r s' → P s₀ s' ⟨c, r⟩)
    (hlasts : ∀ s₀ s s' step, Le s s' → P s₀ s step → P s₀ s' step) {j : ι} (hfresh : (pool.note j).steps = []) :
    ∀ step ∈ (pool'.note j).steps, P pool.shared pool'.shared step := by
  have hkeeps : Keeps arbiter History.after guard may fun s (g : ι → History K C R) =>
      Le pool.shared s ∧ ∀ i, ∀ step ∈ (g i).steps, i = j → P pool.shared s step :=
    keeps_steps (P := fun s i _ step => i = j → P pool.shared s step) h
      (fun _ _ hle hstart => h.trans _ _ _ hstart hle)
      (fun s _ i c r s' hstart _ _ hreply _ => hnew _ s i c r s' hstart hreply)
      fun s s' _ _ step hle hold hj => hlasts _ s s' step hle (hold hj)
  have hstart : Le pool.shared pool.shared ∧
      ∀ i, ∀ step ∈ (pool.note i).steps, i = j → P pool.shared pool.shared step := by
    refine ⟨h.refl _, ?_⟩
    rintro i step hmem rfl
    rw [hfresh] at hmem
    cases hmem
  obtain ⟨-, -, hlast⟩ := hlater.obeys (fun _ _ _ _ _ _ _ _ _ _ => rfl) hkeeps hobeys hstart
  exact fun step hmem => hlast j step hmem rfl

/-- What must hold to ask a command, and lasts, holds of all that was asked. -/
theorem keeps_asked {P : History K C R → C → Prop} (hmay : ∀ told c, may told c → P told c)
    (hlasts : ∀ told told' c, History.Extends told told' → P told c → P told' c) :
    Keeps arbiter History.after guard may fun _ g => ∀ i, ∀ step ∈ (g i).steps, P (g i) step.1 where
  answered := by
    intro s g i c r s' h hasked _ _ j step hmem
    by_cases hj : j = i
    · subst hj
      have hmore := History.extends_after (g j) c r
      rw [Function.update_self] at hmem ⊢
      rcases History.mem_after.mp hmem with hold | rfl
      · exact hlasts _ _ _ hmore (h j step hold)
      · exact hlasts _ _ _ hmore (hmay _ _ hasked)
    · rw [Function.update_of_ne hj] at hmem ⊢
      exact h j step hmem
  drifted := fun _ _ _ h _ => h

theorem keeps_once {P : C → Prop} (hmay : ∀ told c, may told c → P c → ∀ step ∈ told.steps, ¬ P step.1) :
    Keeps arbiter History.after guard may fun _ g =>
      ∀ i, ∀ step ∈ (g i).steps, ∀ step' ∈ (g i).steps, P step.1 → P step'.1 → step = step' where
  answered := by
    intro s g i c r s' h hasked _ _ j step hmem step' hmem' hstep hstep'
    by_cases hj : j = i
    · subst hj
      rw [Function.update_self] at hmem hmem'
      rcases History.mem_after.mp hmem with hold | rfl <;> rcases History.mem_after.mp hmem' with hold' | rfl
      · exact h j step hold step' hold' hstep hstep'
      · exact absurd hstep (hmay _ _ hasked hstep' step hold)
      · exact absurd hstep' (hmay _ _ hasked hstep step' hold')
      · rfl
    · rw [Function.update_of_ne hj] at hmem hmem'
      exact h j step hmem step' hmem' hstep hstep'
  drifted := fun _ _ _ h _ => h

section Logs

variable {Item : Type} {wrote : History K C R → Item → Prop} {before now : List Item} {g : ι → History K C R} {i : ι}
  {note : History K C R} {owners : List ι} {added : List Item}

/-- What was added to a list, each item by one of the owners, who added no other. -/
structure AddedBy (wrote : History K C R → Item → Prop) (before now : List Item) (g : ι → History K C R)
    (owners : List ι) (added : List Item) : Prop where
  now : now = before ++ added
  nodup : owners.Nodup
  wrote : List.Forall₂ (fun i item => wrote (g i) item) owners added

omit [DecidableEq ι] in
theorem AddedBy.refl (wrote : History K C R → Item → Prop) (before : List Item) (g : ι → History K C R) :
    AddedBy wrote before before g [] [] :=
  ⟨(List.append_nil _).symm, List.nodup_nil, .nil⟩

omit [DecidableEq ι] in
theorem AddedBy.wrote_of_mem (h : AddedBy wrote before now g owners added) (hi : i ∈ owners) :
    ∃ item ∈ added, wrote (g i) item := by
  obtain ⟨k, hk, rfl⟩ := List.mem_iff_getElem.mp hi
  have hk' : k < added.length := h.wrote.length_eq ▸ hk
  exact ⟨added[k], List.getElem_mem hk', h.wrote.get hk hk'⟩

omit [DecidableEq ι] in
theorem AddedBy.owner_of_mem (h : AddedBy wrote before now g owners added) {item : Item} (hitem : item ∈ added) :
    ∃ i ∈ owners, wrote (g i) item := by
  obtain ⟨k, hk, rfl⟩ := List.mem_iff_getElem.mp hitem
  have hk' : k < owners.length := h.wrote.length_eq.symm ▸ hk
  exact ⟨owners[k], List.getElem_mem hk', h.wrote.get hk' hk⟩

theorem AddedBy.keep (h : AddedBy wrote before now g owners added)
    (hkeeps : ∀ item, wrote (g i) item → wrote note item) :
    AddedBy wrote before now (Function.update g i note) owners added := by
  refine ⟨h.now, h.nodup, h.wrote.imp ?_⟩
  intro j item hitem
  by_cases hj : j = i
  · subst hj
    rw [Function.update_self]
    exact hkeeps item hitem
  · rwa [Function.update_of_ne hj]

theorem AddedBy.add (h : AddedBy wrote before now g owners added) (hnothing : ∀ item, ¬ wrote (g i) item) {item : Item}
    (hitem : wrote note item) :
    AddedBy wrote before (now ++ [item]) (Function.update g i note) (owners ++ [i]) (added ++ [item]) := by
  have hfree : i ∉ owners := by
    intro hmem
    obtain ⟨item, -, hwrote⟩ := h.wrote_of_mem hmem
    exact hnothing item hwrote
  refine ⟨by rw [h.now, List.append_assoc], ?_, ?_⟩
  · exact List.nodup_append.mpr ⟨h.nodup, List.nodup_singleton i, fun j hj k hk hjk =>
      hfree (by rwa [List.mem_singleton.mp hk, ← hjk] at *)⟩
  · have hothers : List.Forall₂ (fun j item => wrote (Function.update g i note j) item) owners added := by
      refine List.forall₂_iff_zip.mpr ⟨h.wrote.length_eq, ?_⟩
      intro j item hmem
      have hne : j ≠ i := fun heq => hfree (heq ▸ (List.of_mem_zip hmem).1)
      rw [Function.update_of_ne hne]
      exact (List.forall₂_iff_zip.mp h.wrote).2 hmem
    exact List.rel_append hothers (.cons (by rwa [Function.update_self]) .nil)

def Added (wrote : History K C R → Item → Prop) (before now : List Item) (g : ι → History K C R) : Prop :=
  ∃ owners added, AddedBy wrote before now g owners added

omit [DecidableEq ι] in
theorem Added.refl (wrote : History K C R → Item → Prop) (before : List Item) (g : ι → History K C R) :
    Added wrote before before g :=
  ⟨[], [], .refl wrote before g⟩

theorem Added.keep (h : Added wrote before now g) (hkeeps : ∀ item, wrote (g i) item → wrote note item) :
    Added wrote before now (Function.update g i note) := by
  obtain ⟨owners, added, hadded⟩ := h
  exact ⟨owners, added, hadded.keep hkeeps⟩

theorem Added.add (h : Added wrote before now g) (hnothing : ∀ item, ¬ wrote (g i) item) {item : Item}
    (hitem : wrote note item) : Added wrote before (now ++ [item]) (Function.update g i note) := by
  obtain ⟨owners, added, hadded⟩ := h
  exact ⟨_, _, hadded.add hnothing hitem⟩

def Credited (wrote : History K C R → Item → Prop) (before now : List Item) (g : ι → History K C R) : Prop :=
  ∃ owners added, AddedBy wrote before now g owners added ∧ ∀ i item, wrote (g i) item → i ∈ owners

omit [DecidableEq ι] in
theorem Credited.refl (before : List Item) (hnobody : ∀ i item, ¬ wrote (g i) item) : Credited wrote before before g :=
  ⟨[], [], .refl wrote before g, fun i item h => absurd h (hnobody i item)⟩

theorem Credited.keep (h : Credited wrote before now g) (hkeeps : ∀ item, wrote (g i) item ↔ wrote note item) :
    Credited wrote before now (Function.update g i note) := by
  obtain ⟨owners, added, hadded, howners⟩ := h
  refine ⟨owners, added, hadded.keep fun item => (hkeeps item).mp, ?_⟩
  intro j item hitem
  by_cases hj : j = i
  · subst hj
    rw [Function.update_self] at hitem
    exact howners j item ((hkeeps item).mpr hitem)
  · rw [Function.update_of_ne hj] at hitem
    exact howners j item hitem

theorem Credited.add (h : Credited wrote before now g) (hnothing : ∀ item, ¬ wrote (g i) item) {item : Item}
    (hitem : wrote note item) : Credited wrote before (now ++ [item]) (Function.update g i note) := by
  obtain ⟨owners, added, hadded, howners⟩ := h
  refine ⟨_, _, hadded.add hnothing hitem, ?_⟩
  intro j item' hitem'
  by_cases hj : j = i
  · exact List.mem_append_right _ (List.mem_singleton.mpr hj)
  · rw [Function.update_of_ne hj] at hitem'
    exact List.mem_append_left _ (howners j item' hitem')

omit [DecidableEq ι] in
/-- Where no two items have the same name, a name that is new is of one program's item. -/
theorem Credited.one_credited {Name : Type} (h : Credited wrote before now g) (nameOf : Item → Name)
    (hone : ∀ i a b, wrote (g i) a → wrote (g i) b → a = b) (hapart : now.Pairwise fun a b => nameOf a ≠ nameOf b)
    {name : Name} (hnew : ∀ a ∈ before, nameOf a ≠ name) (htaken : ∃ a ∈ now, nameOf a = name) :
    ∃ i a, wrote (g i) a ∧ nameOf a = name ∧ ∀ j b, wrote (g j) b → nameOf b = name → j = i := by
  obtain ⟨owners, added, hadded, howners⟩ := h
  obtain ⟨a, hmem, hname⟩ := htaken
  rw [hadded.now] at hmem hapart
  have hnodup : (added.map nameOf).Nodup := List.pairwise_map.mpr (List.pairwise_append.mp hapart).2.1
  rcases List.mem_append.mp hmem with hold | hmem
  · exact absurd hname (hnew a hold)
  obtain ⟨i, hi, hwrote⟩ := hadded.owner_of_mem hmem
  refine ⟨i, a, hwrote, hname, ?_⟩
  intro j b hb hname'
  obtain ⟨k, hk, rfl⟩ := List.mem_iff_getElem.mp (howners j b hb)
  obtain ⟨l, hl, rfl⟩ := List.mem_iff_getElem.mp hi
  have hlength := hadded.wrote.length_eq
  -- both owners wrote the item at their own place, and both items have the name
  have hk' := hadded.wrote.get hk (hlength ▸ hk)
  have hl' := hadded.wrote.get hl (hlength ▸ hl)
  have hkmap : k < (added.map nameOf).length := by simpa [← hlength] using hk
  have hlmap : l < (added.map nameOf).length := by simpa [← hlength] using hl
  have hsame : (added.map nameOf)[k] = (added.map nameOf)[l] := by
    simp only [List.getElem_map, List.get_eq_getElem] at hk' hl' ⊢
    rw [hone _ _ _ hk' hb, hone _ _ _ hl' hwrote, hname, hname']
  have hkl := (hnodup.getElem_inj_iff).mp hsame
  subst hkl
  rfl

end Logs

end Pool

end AIRuntime.EffectPrograms
