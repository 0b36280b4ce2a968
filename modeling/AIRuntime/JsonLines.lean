import AIRuntime.JsonRoundTrip

set_option autoImplicit false

/-! Lines of a text as `str.splitlines` cuts them, and that what `dumps` writes is one line. -/
namespace AIRuntime.JsonLines

open JsonText

section Lines

/-- The line boundaries of `str.splitlines`. -/
def isLineBreak (c : Char) : Bool :=
  let n := c.toNat
  (10 ≤ n && n ≤ 13) || (28 ≤ n && n ≤ 30) || n = 0x85 || n = 0x2028 || n = 0x2029

def addChar (c : Char) : List (List Char) → List (List Char)
  | [] => [[c]]
  | line :: lines => (c :: line) :: lines

/-- `text.splitlines()`: `\r\n` ends one line, and nothing follows a final break. -/
def splitlines : List Char → List (List Char)
  | [] => []
  | '\r' :: '\n' :: rest => [] :: splitlines rest
  | c :: rest => if isLineBreak c then [] :: splitlines rest else addChar c (splitlines rest)

def OneLine (line : List Char) : Prop := ∀ c ∈ line, isLineBreak c = false

theorem oneLine_of_all {line : List Char} (h : line.all (fun c => !isLineBreak c) = true) : OneLine line := by
  intro c hc
  have hnot := List.all_eq_true.mp h c hc
  simpa using hnot

theorem splitlines_char {c : Char} (h : isLineBreak c = false) (rest : List Char) :
    splitlines (c :: rest) = addChar c (splitlines rest) := by
  have hc : c ≠ '\r' := by
    rintro rfl
    cases h
  rw [splitlines, h]
  · rfl
  · intro r hr
    exact absurd hr hc

theorem splitlines_newline (rest : List Char) : splitlines ('\n' :: rest) = [] :: splitlines rest := by
  rw [splitlines]
  · rfl
  · intro r hr
    cases hr

theorem splitlines_line {line : List Char} (h : OneLine line) (rest : List Char) :
    splitlines (line ++ '\n' :: rest) = line :: splitlines rest := by
  induction line with
  | nil => exact splitlines_newline rest
  | cons c t ih =>
    have hrest := ih fun d hd => h d (List.mem_cons_of_mem c hd)
    rw [List.cons_append, splitlines_char (h c List.mem_cons_self), hrest]
    rfl

theorem oneLine_append {a b : List Char} (ha : OneLine a) (hb : OneLine b) : OneLine (a ++ b) := by
  intro c hc
  rcases List.mem_append.mp hc with h | h
  · exact ha c h
  · exact hb c h

end Lines

section Printable

/-- Every character is between the space and `~`. -/
def Printable (cs : List Char) : Prop := ∀ c ∈ cs, 32 ≤ c.toNat ∧ c.toNat ≤ 126

theorem printable_of_all {cs : List Char} (h : cs.all (fun c => 32 ≤ c.toNat && c.toNat ≤ 126) = true) :
    Printable cs := by
  intro c hc
  have hrange := List.all_eq_true.mp h c hc
  simpa using hrange

theorem printable_nil : Printable [] := nofun

theorem printable_cons {c : Char} {cs : List Char} (hc : 32 ≤ c.toNat ∧ c.toNat ≤ 126) (h : Printable cs) :
    Printable (c :: cs) := List.forall_mem_cons.mpr ⟨hc, h⟩

theorem printable_append {a b : List Char} (ha : Printable a) (hb : Printable b) : Printable (a ++ b) :=
  List.forall_mem_append.mpr ⟨ha, hb⟩

theorem Printable.oneLine {cs : List Char} (h : Printable cs) : OneLine cs := by
  intro c hc
  have hbounds := h c hc
  unfold isLineBreak
  simp only [Bool.or_eq_false_iff, Bool.and_eq_false_iff, decide_eq_false_iff_not]
  omega

theorem digit_printable {c : Char} (h : c.isDigit = true) : 32 ≤ c.toNat ∧ c.toNat ≤ 126 := by
  simp only [Char.isDigit, Bool.and_eq_true, decide_eq_true_eq] at h
  have hlow : 48 ≤ c.toNat := h.1
  have hhigh : c.toNat ≤ 57 := h.2
  omega

theorem spanDigits_printable (cs : List Char) : Printable (spanDigits cs).1 := by
  induction cs with
  | nil => exact printable_nil
  | cons c t ih =>
    unfold spanDigits
    by_cases hc : c.isDigit = true
    · rw [if_pos hc]
      exact printable_cons (digit_printable hc) ih
    · rw [if_neg hc]
      exact printable_nil

theorem scanInt_printable {cs ip rest : List Char} (h : scanInt cs = some (ip, rest)) : Printable ip := by
  cases cs with
  | nil => cases h
  | cons c t =>
    simp only [scanInt] at h
    split_ifs at h with h0 hd
    · cases h
      exact printable_cons (by decide) printable_nil
    · cases h
      exact printable_cons (digit_printable hd) (spanDigits_printable t)

theorem scanFrac_printable (cs : List Char) : Printable (scanFrac cs).1 := by
  cases cs with
  | nil => exact printable_nil
  | cons c t =>
    simp only [scanFrac]
    split_ifs with h
    · rw [h.1]
      exact printable_cons (by decide) (spanDigits_printable t)
    · exact printable_nil

theorem scanSign_printable (cs : List Char) : Printable (scanSign cs).1 := by
  cases cs with
  | nil => exact printable_nil
  | cons c t =>
    simp only [scanSign]
    split_ifs with h
    · rcases h with rfl | rfl
      · exact printable_cons (by decide) printable_nil
      · exact printable_cons (by decide) printable_nil
    · exact printable_nil

theorem scanExp_printable (cs : List Char) : Printable (scanExp cs).1 := by
  cases cs with
  | nil => exact printable_nil
  | cons c t =>
    simp only [scanExp]
    split_ifs with h
    · have hc : 32 ≤ c.toNat ∧ c.toNat ≤ 126 := by
        rcases h.1 with rfl | rfl <;> decide
      exact printable_cons hc (printable_append (scanSign_printable t) (spanDigits_printable _))
    · exact printable_nil

/-- The text of a float is what a number's parts are made of, or a constant's name. -/
theorem float_printable {text : String} (h : isFloatText text = true) : Printable text.toList := by
  rcases float_cases h with rfl | rfl | rfl | hnumber
  · exact printable_of_all (by decide)
  · exact printable_of_all (by decide)
  · exact printable_of_all (by decide)
  · unfold scanNumber scanNumberParts at hnumber
    cases hint : scanInt (scanMinus text.toList).2 with
    | none =>
      rw [hint] at hnumber
      cases hnumber
    | some p =>
      obtain ⟨ip, r⟩ := p
      rw [hint] at hnumber
      simp only [Option.map_some, Option.some.injEq, Prod.mk.injEq] at hnumber
      have hvalue := hnumber.1
      unfold numberValue at hvalue
      split_ifs at hvalue with htail hneg
      · cases hvalue
        rw [String.toList_ofList]
        exact printable_append (printable_append (printable_cons (by decide) printable_nil)
          (scanInt_printable hint)) (printable_append (scanFrac_printable r) (scanExp_printable _))
      · cases hvalue
        rw [String.toList_ofList]
        exact printable_append (printable_append printable_nil (scanInt_printable hint))
          (printable_append (scanFrac_printable r) (scanExp_printable _))

theorem digitChar_printable {d : ℕ} (h : d < 16) : 32 ≤ (Nat.digitChar d).toNat ∧ (Nat.digitChar d).toNat ≤ 126 := by
  revert h
  revert d
  decide

theorem hex4_printable (n : ℕ) : Printable (hex4 n) := by
  have hdigit : ∀ m : ℕ, 32 ≤ (Nat.digitChar (m % 16)).toNat ∧ (Nat.digitChar (m % 16)).toNat ≤ 126 :=
    fun m => digitChar_printable (Nat.mod_lt m (by omega))
  unfold hex4
  exact printable_cons (hdigit _) (printable_cons (hdigit _) (printable_cons (hdigit _)
    (printable_cons (hdigit _) printable_nil)))

theorem escapeChar_printable (c : Char) : Printable (escapeChar c) := by
  have hpair : ∀ d : Char, 32 ≤ d.toNat ∧ d.toNat ≤ 126 → Printable ['\\', d] :=
    fun d hd => printable_cons (by decide) (printable_cons hd printable_nil)
  unfold escapeChar
  split_ifs with h1 h2 h3 h4 h5 h6 h7 h8
  · exact hpair _ (by decide)
  · exact hpair _ (by decide)
  · exact hpair _ (by decide)
  · exact hpair _ (by decide)
  · exact hpair _ (by decide)
  · exact hpair _ (by decide)
  · exact hpair _ (by decide)
  · exact printable_cons h8 printable_nil
  · intro d hd
    obtain ⟨u, _, hu⟩ := List.mem_flatMap.mp hd
    exact printable_cons (by decide) (printable_cons (by decide) (hex4_printable u)) d hu

theorem dumpsString_printable (s : String) : Printable (dumpsString escapeChar s) := by
  have hbody : Printable (s.toList.flatMap escapeChar) := by
    intro d hd
    obtain ⟨c, _, hc⟩ := List.mem_flatMap.mp hd
    exact escapeChar_printable c d hc
  unfold dumpsString
  exact printable_cons (by decide) (printable_append hbody (printable_cons (by decide) printable_nil))

theorem dumpsInt_printable (n : ℤ) : Printable (dumpsInt n) := by
  have hdigits : Printable (Nat.toDigits 10 n.natAbs) := fun c hc => digit_printable (toDigits_isDigit _ c hc)
  unfold dumpsInt
  split_ifs
  · exact printable_cons (by decide) hdigits
  · exact hdigits

mutual

theorem dumps_printable (v : Json) (hv : v.Valid) : Printable (dumpsChars escapeChar v) := by
  match v with
  | .null | .bool true | .bool false | .arr [] | .obj [] =>
    exact printable_of_all (by decide)
  | .int n => exact dumpsInt_printable n
  | .float text => exact float_printable hv
  | .str s => exact dumpsString_printable s
  | .arr (x :: xs) =>
    have hx := dumps_printable x hv.1
    exact printable_cons (by decide) (printable_append hx (dumpsItems_printable xs hv.2))
  | .obj ((k, v) :: ms) =>
    have hvalue := dumps_printable v hv.2.1
    have hms := dumpsMembers_printable ms hv.2.2
    exact printable_cons (by decide) (printable_append (dumpsString_printable k)
      (printable_cons (by decide) (printable_append hvalue hms)))

theorem dumpsItems_printable (xs : List Json) (hv : Json.ValidItems xs) : Printable (dumpsItems escapeChar xs) := by
  match xs with
  | [] => exact printable_cons (by decide) printable_nil
  | x :: xs =>
    have hx := dumps_printable x hv.1
    exact printable_cons (by decide) (printable_append hx (dumpsItems_printable xs hv.2))

theorem dumpsMembers_printable (ms : List (String × Json)) (hv : Json.ValidMembers ms) :
    Printable (dumpsMembers escapeChar ms) := by
  match ms with
  | [] => exact printable_cons (by decide) printable_nil
  | (k, v) :: ms =>
    have hvalue := dumps_printable v hv.1
    have hms := dumpsMembers_printable ms hv.2
    exact printable_cons (by decide) (printable_append (dumpsString_printable k)
      (printable_cons (by decide) (printable_append hvalue hms)))

end

theorem dumps_oneLine {v : Json} (hv : v.Valid) : OneLine (dumps v).toList := by
  unfold dumps
  rw [String.toList_ofList]
  exact (dumps_printable v hv).oneLine

end Printable

end AIRuntime.JsonLines
