import Mathlib.Data.List.Infix
import Mathlib.Data.List.Forall2

set_option autoImplicit false

/-!
Regular expressions that are a row of character classes, some of them starred, with the greedy backtracking
search of Perl and its descendants. Where no starred class shares a character with what may follow it, a text has
one segmentation into what matches and the characters between.
-/
namespace AIRuntime.FlatPatterns

section Matching

variable {α β : Type}

inductive Item (α : Type) where
  | one (accepts : α → Bool)
  | many (accepts : α → Bool)

/-- `accepts*` before `k`: one more character is tried first. -/
def takeMany (accepts : α → Bool) (k : List α → Option β) : List α → Option (List α × β)
  | [] => (k []).map fun b => ([], b)
  | c :: cs =>
    if accepts c then
      match takeMany accepts k cs with
      | some (taken, b) => some (c :: taken, b)
      | none => (k (c :: cs)).map fun b => ([], b)
    else (k (c :: cs)).map fun b => ([], b)

/-- What each item takes from the start of a text, and what is left of it. -/
def matchItems : List (Item α) → List α → Option (List (List α) × List α)
  | [], cs => some ([], cs)
  | .one _ :: _, [] => none
  | .one accepts :: items, c :: cs =>
    if accepts c then (matchItems items cs).map fun m => ([c] :: m.1, m.2) else none
  | .many accepts :: items, cs => (takeMany accepts (matchItems items) cs).map fun m => (m.1 :: m.2.1, m.2.2)

/-- The leftmost match: the text before it, what its items take, and the text after it. -/
def search (items : List (Item α)) : List α → Option (List α × List (List α) × List α)
  | [] => (matchItems items []).map fun m => ([], m)
  | c :: cs =>
    match matchItems items (c :: cs) with
    | some m => some ([], m)
    | none => (search items cs).map fun found => (c :: found.1, found.2)

end Matching

section Language

variable {α β : Type} {items : List (Item α)}

def Item.Takes : Item α → List α → Prop
  | .one accepts, taken => ∃ c, taken = [c] ∧ accepts c = true
  | .many accepts, taken => ∀ c ∈ taken, accepts c = true

def Fits (items : List (Item α)) (parts : List (List α)) : Prop := List.Forall₂ Item.Takes items parts

/-- The characters a match of the items may start with. -/
def starts : List (Item α) → α → Bool
  | [], _ => true
  | .one accepts :: _, c => accepts c
  | .many accepts :: items, c => accepts c || starts items c

/-- No starred class takes a character that may start what follows it. -/
def Disjoint : List (Item α) → Prop
  | [] => True
  | .one _ :: items => Disjoint items
  | .many accepts :: items => (∀ c, accepts c = true → starts items c = false) ∧ Disjoint items

theorem takeMany_sound {accepts : α → Bool} {k : List α → Option β} {cs taken : List α} {b : β}
    (h : takeMany accepts k cs = some (taken, b)) :
    (∀ c ∈ taken, accepts c = true) ∧ ∃ rest, cs = taken ++ rest ∧ k rest = some b := by
  have hstop : ∀ {cs taken : List α}, (k cs).map (fun b => (([] : List α), b)) = some (taken, b) →
      (∀ c ∈ taken, accepts c = true) ∧ ∃ rest, cs = taken ++ rest ∧ k rest = some b := by
    intro cs taken h
    obtain ⟨b', hk, heq⟩ := Option.map_eq_some_iff.mp h
    cases heq
    exact ⟨fun c hc => absurd hc List.not_mem_nil, cs, rfl, hk⟩
  induction cs generalizing taken with
  | nil => exact hstop h
  | cons c cs ih =>
    unfold takeMany at h
    split_ifs at h with hc
    · split at h
      · rename_i taken' b' hmore
        cases h
        obtain ⟨haccepts, rest, hcs, hk⟩ := ih hmore
        refine ⟨?_, rest, by rw [hcs, List.cons_append], hk⟩
        intro d hd
        rcases List.mem_cons.mp hd with rfl | hd
        · exact hc
        · exact haccepts d hd
      · exact hstop h
    · exact hstop h

theorem takeMany_complete {accepts : α → Bool} {k : List α → Option β} {taken rest : List α}
    (htaken : ∀ c ∈ taken, accepts c = true) (hk : (k rest).isSome) : (takeMany accepts k (taken ++ rest)).isSome := by
  induction taken with
  | nil =>
    cases rest with
    | nil => simpa [takeMany] using hk
    | cons c cs =>
      simp only [List.nil_append]
      unfold takeMany
      split_ifs
      · split
        · rfl
        · simpa using hk
      · simpa using hk
  | cons c taken ih =>
    have hmore := ih fun d hd => htaken d (List.mem_cons_of_mem c hd)
    rw [List.cons_append]
    unfold takeMany
    rw [if_pos (htaken c List.mem_cons_self)]
    split
    · rfl
    · rename_i hnone
      rw [hnone] at hmore
      cases hmore

theorem matchItems_sound {cs rest : List α} {parts : List (List α)} (h : matchItems items cs = some (parts, rest)) :
    Fits items parts ∧ cs = parts.flatten ++ rest := by
  induction items generalizing cs parts with
  | nil =>
    cases h
    exact ⟨.nil, rfl⟩
  | cons item items ih =>
    cases item with
    | one accepts =>
      cases cs with
      | nil => cases h
      | cons c cs =>
        unfold matchItems at h
        split_ifs at h with hc
        obtain ⟨m, hm, heq⟩ := Option.map_eq_some_iff.mp h
        cases heq
        obtain ⟨hfits, hcs⟩ := ih hm
        exact ⟨.cons ⟨c, rfl, hc⟩ hfits, by rw [hcs]; rfl⟩
    | many accepts =>
      obtain ⟨m, hm, heq⟩ := Option.map_eq_some_iff.mp h
      cases heq
      obtain ⟨htaken, rest', hcs, hrest⟩ := takeMany_sound hm
      obtain ⟨hfits, hrest'⟩ := ih hrest
      exact ⟨.cons htaken hfits, by rw [hcs, hrest', List.flatten_cons, List.append_assoc]⟩

theorem matchItems_complete {parts : List (List α)} (h : Fits items parts) (rest : List α) :
    (matchItems items (parts.flatten ++ rest)).isSome := by
  induction h with
  | nil => rfl
  | @cons item taken items parts htaken _ ih =>
    rw [List.flatten_cons, List.append_assoc]
    cases item with
    | one accepts =>
      obtain ⟨c, rfl, hc⟩ := htaken
      simpa [matchItems, hc] using ih
    | many accepts => simpa [matchItems] using takeMany_complete htaken ih

theorem starts_head {parts : List (List α)} (h : Fits items parts) {rest : List α} {c : α}
    (hc : (parts.flatten ++ rest).head? = some c) : starts items c = true := by
  induction h with
  | nil => rfl
  | @cons item taken items parts htaken _ ih =>
    rw [List.flatten_cons, List.append_assoc] at hc
    cases item with
    | one accepts =>
      obtain ⟨d, rfl, hd⟩ := htaken
      cases hc
      exact hd
    | many accepts =>
      unfold starts
      cases taken with
      | nil =>
        rw [ih hc]
        exact Bool.or_true _
      | cons d taken =>
        cases hc
        rw [htaken c List.mem_cons_self]
        rfl

theorem takeWhile_taken {accepts : α → Bool} {taken rest : List α} (htaken : ∀ c ∈ taken, accepts c = true)
    (hrest : ∀ c, rest.head? = some c → accepts c = false) : (taken ++ rest).takeWhile accepts = taken := by
  rw [List.takeWhile_append_of_pos htaken]
  cases rest with
  | nil => rw [List.takeWhile_nil, List.append_nil]
  | cons c cs => rw [List.takeWhile_cons_of_neg (by simp [hrest c rfl]), List.append_nil]

theorem fits_unique (hdisjoint : Disjoint items) {parts parts' : List (List α)} (h : Fits items parts)
    (h' : Fits items parts') {rest rest' : List α} (heq : parts.flatten ++ rest = parts'.flatten ++ rest') :
    parts = parts' ∧ rest = rest' := by
  induction h generalizing parts' with
  | nil =>
    cases h'
    exact ⟨rfl, heq⟩
  | @cons item taken items parts htaken hfits ih =>
    cases h' with
    | @cons _ taken' _ parts' htaken' hfits' =>
      rw [List.flatten_cons, List.flatten_cons, List.append_assoc, List.append_assoc] at heq
      cases item with
      | one accepts =>
        obtain ⟨c, rfl, -⟩ := htaken
        obtain ⟨c', rfl, -⟩ := htaken'
        injection heq with hc htail
        obtain ⟨hparts, hrest⟩ := ih hdisjoint hfits' htail
        exact ⟨by rw [hc, hparts], hrest⟩
      | many accepts =>
        obtain ⟨hnext, hdisjoint⟩ := hdisjoint
        have hstop : ∀ {parts : List (List α)} {rest : List α}, Fits items parts → ∀ c,
            (parts.flatten ++ rest).head? = some c → accepts c = false := by
          intro parts rest hfits c hc
          have hstarts := starts_head hfits hc
          cases haccepts : accepts c with
          | false => rfl
          | true =>
            rw [hnext c haccepts] at hstarts
            cases hstarts
        have htakes : taken = taken' := by
          rw [← takeWhile_taken htaken (hstop hfits), heq, takeWhile_taken htaken' (hstop hfits')]
        rw [htakes] at heq ⊢
        obtain ⟨hparts, hrest⟩ := ih hdisjoint hfits' (List.append_cancel_left heq)
        exact ⟨by rw [hparts], hrest⟩

end Language

section Segmentation

variable {α β ε : Type}

/-- Items that a text starts with in at most one way, and never with nothing. -/
structure Pattern (α : Type) where
  items : List (Item α)
  disjoint : Disjoint items
  solid : ∃ accepts, .one accepts ∈ items

inductive Piece (α : Type) where
  | text (c : α)
  | hole (parts : List (List α))

def Piece.source : Piece α → List α
  | .text c => [c]
  | .hole parts => parts.flatten

def Piece.hole? : Piece α → Option (List (List α))
  | .text _ => none
  | .hole parts => some parts

variable (pattern : Pattern α)

def Pattern.Begins (cs : List α) : Prop := ∃ parts rest, Fits pattern.items parts ∧ cs = parts.flatten ++ rest

/-- A text as its matches from left to right and the characters between them. -/
inductive Pattern.Segmented : List α → List (Piece α) → Prop where
  | nil : Segmented [] []
  | text {c : α} {cs : List α} {pieces : List (Piece α)} (hc : ¬ pattern.Begins (c :: cs))
      (rest : Segmented cs pieces) : Segmented (c :: cs) (.text c :: pieces)
  | hole {parts : List (List α)} {cs : List α} {pieces : List (Piece α)} (hparts : Fits pattern.items parts)
      (rest : Segmented cs pieces) : Segmented (parts.flatten ++ cs) (.hole parts :: pieces)

/-- `re.findall`, each match read by `read`; the fuel bounds the number of matches. -/
def findAll (items : List (Item α)) (read : List (List α) → β) : ℕ → List α → List β
  | 0, _ => []
  | fuel + 1, cs =>
    match search items cs with
    | none => []
    | some (_, parts, rest) => read parts :: findAll items read fuel rest

def sub (items : List (Item α)) (repl : List (List α) → Except ε (List α)) : ℕ → List α → Except ε (List α)
  | 0, cs => .ok cs
  | fuel + 1, cs =>
    match search items cs with
    | none => .ok cs
    | some (before, parts, rest) =>
      match repl parts with
      | .error err => .error err
      | .ok replaced => (sub items repl fuel rest).map fun tail => before ++ replaced ++ tail

def fill (repl : List (List α) → Except ε (List α)) : List (Piece α) → Except ε (List α)
  | [] => .ok []
  | .text c :: pieces => (fill repl pieces).map (c :: ·)
  | .hole parts :: pieces =>
    match repl parts with
    | .error err => .error err
    | .ok replaced => (fill repl pieces).map (replaced ++ ·)

variable {pattern}

theorem Pattern.source_ne_nil {parts : List (List α)} (h : Fits pattern.items parts) : parts.flatten ≠ [] := by
  obtain ⟨accepts, hmem⟩ := pattern.solid
  generalize pattern.items = items at h hmem
  induction h with
  | nil => cases hmem
  | @cons item taken items parts htaken _ ih =>
    rw [List.flatten_cons]
    intro hnone
    obtain ⟨htaken_nil, hrest⟩ := List.append_eq_nil_iff.mp hnone
    rcases List.mem_cons.mp hmem with rfl | hmem
    · obtain ⟨c, hc, -⟩ := htaken
      rw [htaken_nil] at hc
      cases hc
    · exact ih hmem hrest

theorem Pattern.matchItems_fits {parts : List (List α)} (h : Fits pattern.items parts) (rest : List α) :
    matchItems pattern.items (parts.flatten ++ rest) = some (parts, rest) := by
  obtain ⟨⟨parts', rest'⟩, hmatch⟩ := Option.isSome_iff_exists.mp (matchItems_complete h rest)
  obtain ⟨hfits, heq⟩ := matchItems_sound hmatch
  obtain ⟨rfl, rfl⟩ := fits_unique pattern.disjoint h hfits heq
  exact hmatch

theorem Pattern.matchItems_none {cs : List α} (h : ¬ pattern.Begins cs) : matchItems pattern.items cs = none := by
  cases hmatch : matchItems pattern.items cs with
  | none => rfl
  | some m =>
    obtain ⟨hfits, hcs⟩ := matchItems_sound hmatch
    exact absurd ⟨m.1, m.2, hfits, hcs⟩ h

theorem Pattern.search_fits {parts : List (List α)} (h : Fits pattern.items parts) (rest : List α) :
    search pattern.items (parts.flatten ++ rest) = some ([], parts, rest) := by
  have hmatch := Pattern.matchItems_fits h rest
  cases htext : parts.flatten ++ rest with
  | nil => exact absurd (List.append_eq_nil_iff.mp htext).1 (Pattern.source_ne_nil h)
  | cons c cs =>
    rw [htext] at hmatch
    unfold search
    rw [hmatch]

theorem Pattern.search_text {c : α} {cs : List α} (h : ¬ pattern.Begins (c :: cs)) :
    search pattern.items (c :: cs) =
      (search pattern.items cs).map fun found => (c :: found.1, found.2) := by
  rw [search, Pattern.matchItems_none h]

theorem Pattern.search_nil : search pattern.items [] = none := by
  have hnone : ¬ pattern.Begins [] := by
    rintro ⟨parts, rest, hfits, heq⟩
    exact Pattern.source_ne_nil hfits (List.append_eq_nil_iff.mp heq.symm).1
  rw [search, Pattern.matchItems_none hnone]
  rfl

theorem Pattern.Segmented.source {cs : List α} {pieces : List (Piece α)} (h : pattern.Segmented cs pieces) :
    (pieces.map Piece.source).flatten = cs := by
  induction h with
  | nil => rfl
  | text _ _ ih => exact congrArg _ ih
  | @hole parts _ _ _ _ ih => exact congrArg (parts.flatten ++ ·) ih

theorem Pattern.segmented_exists (cs : List α) : ∃ pieces, pattern.Segmented cs pieces := by
  induction hlength : cs.length using Nat.strong_induction_on generalizing cs with
  | _ n ih =>
    by_cases hbegins : pattern.Begins cs
    · obtain ⟨parts, rest, hfits, rfl⟩ := hbegins
      have hsource := List.length_pos_iff.mpr (Pattern.source_ne_nil hfits)
      rw [List.length_append] at hlength
      obtain ⟨pieces, hpieces⟩ := ih rest.length (by omega) rest rfl
      exact ⟨.hole parts :: pieces, .hole hfits hpieces⟩
    · cases cs with
      | nil => exact ⟨[], .nil⟩
      | cons c cs =>
        rw [List.length_cons] at hlength
        obtain ⟨pieces, hpieces⟩ := ih cs.length (by omega) cs rfl
        exact ⟨.text c :: pieces, .text hbegins hpieces⟩

theorem Pattern.Segmented.unique {cs : List α} {pieces pieces' : List (Piece α)} (h : pattern.Segmented cs pieces)
    (h' : pattern.Segmented cs pieces') : pieces = pieces' := by
  induction h generalizing pieces' with
  | nil =>
    generalize hcs : ([] : List α) = cs at h'
    cases h' with
    | nil => rfl
    | text _ _ => cases hcs
    | hole hparts _ => exact absurd (List.append_eq_nil_iff.mp hcs.symm).1 (Pattern.source_ne_nil hparts)
  | @text c cs pieces hc rest ih =>
    generalize htext : c :: cs = text at h'
    cases h' with
    | nil => cases htext
    | text _ rest' =>
      cases htext
      rw [ih rest']
    | hole hparts _ => exact absurd ⟨_, _, hparts, htext⟩ hc
  | @hole parts cs pieces hparts rest ih =>
    generalize htext : parts.flatten ++ cs = text at h'
    cases h' with
    | nil => exact absurd (List.append_eq_nil_iff.mp htext).1 (Pattern.source_ne_nil hparts)
    | text hc _ => exact absurd ⟨_, _, hparts, htext.symm⟩ hc
    | hole hparts' rest' =>
      obtain ⟨rfl, rfl⟩ := fits_unique pattern.disjoint hparts hparts' htext
      rw [ih rest']

theorem Pattern.Segmented.findAll_eq {cs : List α} {pieces : List (Piece α)} (h : pattern.Segmented cs pieces)
    (read : List (List α) → β) {fuel : ℕ} (hfuel : cs.length < fuel) :
    findAll pattern.items read fuel cs = (pieces.filterMap Piece.hole?).map read := by
  induction h generalizing fuel with
  | nil =>
    cases fuel with
    | zero => rfl
    | succ fuel => rw [findAll, Pattern.search_nil]; rfl
  | @text c cs pieces hc rest ih =>
    cases fuel with
    | zero => cases hfuel
    | succ fuel =>
      rw [List.length_cons] at hfuel
      have hskip : findAll pattern.items read (fuel + 1) (c :: cs) = findAll pattern.items read (fuel + 1) cs := by
        rw [findAll, findAll, Pattern.search_text hc]
        cases search pattern.items cs <;> rfl
      rw [hskip]
      exact ih (by omega)
  | @hole parts cs pieces hparts rest ih =>
    cases fuel with
    | zero => cases hfuel
    | succ fuel =>
      have hsource := List.length_pos_iff.mpr (Pattern.source_ne_nil hparts)
      rw [List.length_append] at hfuel
      rw [findAll, Pattern.search_fits hparts]
      exact congrArg (read parts :: ·) (ih (by omega))

theorem Pattern.Segmented.sub_eq {cs : List α} {pieces : List (Piece α)} (h : pattern.Segmented cs pieces)
    (repl : List (List α) → Except ε (List α)) {fuel : ℕ} (hfuel : cs.length < fuel) :
    sub pattern.items repl fuel cs = fill repl pieces := by
  induction h generalizing fuel with
  | nil =>
    cases fuel with
    | zero => rfl
    | succ fuel => rw [sub, Pattern.search_nil]; rfl
  | @text c cs pieces hc rest ih =>
    cases fuel with
    | zero => cases hfuel
    | succ fuel =>
      rw [List.length_cons] at hfuel
      have hskip : sub pattern.items repl (fuel + 1) (c :: cs) =
          (sub pattern.items repl (fuel + 1) cs).map (c :: ·) := by
        rw [sub, sub, Pattern.search_text hc]
        cases search pattern.items cs with
        | none => rfl
        | some found =>
          simp only [Option.map_some]
          cases repl found.2.1 with
          | error err => rfl
          | ok replaced => cases sub pattern.items repl fuel found.2.2 <;> rfl
      rw [hskip, ih (by omega)]
      rfl
  | @hole parts cs pieces hparts rest ih =>
    cases fuel with
    | zero => cases hfuel
    | succ fuel =>
      have hsource := List.length_pos_iff.mpr (Pattern.source_ne_nil hparts)
      rw [List.length_append] at hfuel
      rw [sub, Pattern.search_fits hparts, fill]
      dsimp only
      cases repl parts with
      | error err => rfl
      | ok replaced =>
        simp only [List.nil_append]
        rw [ih (by omega)]

end Segmentation

end AIRuntime.FlatPatterns
