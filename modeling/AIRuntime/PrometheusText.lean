import Mathlib.Data.Int.Notation
import Mathlib.Data.List.Basic
import Mathlib.Data.List.TakeWhile

set_option autoImplicit false

/-!
The text format 0.0.4 of Prometheus: a text is lines, each ended by a line feed; a line is blank, a
comment, a HELP or TYPE line, or a sample. In a label value a backslash, a quote and a line feed stand
escaped.
-/
namespace AIRuntime.PrometheusText

/-- The values of samples: each is written as one token, which reads back. -/
structure ValueText (V : Type) where
  write : V → String
  read : String → Option V
  read_write : ∀ v, read (write v) = some v
  nonempty : ∀ v, write v ≠ ""
  solid : ∀ v, ∀ c ∈ (write v).toList, c ≠ ' ' ∧ c ≠ '\t' ∧ c ≠ '\n' ∧ c ≠ '\x7b'

inductive MetricType where
  | counter
  | gauge
  | histogram
  | summary
  | untyped
deriving DecidableEq

def metricTypes : List (String × MetricType) :=
  [("counter", .counter), ("gauge", .gauge), ("histogram", .histogram), ("summary", .summary),
    ("untyped", .untyped)]

/-- The timestamp is optional, in milliseconds. -/
structure Sample (V : Type) where
  name : String
  labels : List (String × String)
  value : V
  timestamp : Option ℤ

inductive Entry (V : Type) where
  | help (name text : String)
  | type (name : String) (metricType : MetricType)
  | sample (s : Sample V)

section Names

def isLabelStart (c : Char) : Bool := c.isAlpha || c = '_'

def isLabelChar (c : Char) : Bool := isLabelStart c || c.isDigit

def isNameStart (c : Char) : Bool := isLabelStart c || c = ':'

def isNameChar (c : Char) : Bool := isNameStart c || c.isDigit

def isWord (start part : Char → Bool) : List Char → Bool
  | [] => false
  | c :: t => start c && t.all part

def isMetricName (name : String) : Bool := isWord isNameStart isNameChar name.toList

def isLabelName (name : String) : Bool := isWord isLabelStart isLabelChar name.toList

def readWord (start part : Char → Bool) : List Char → Option (String × List Char)
  | [] => none
  | c :: t => if start c then some (String.ofList (c :: t.takeWhile part), t.dropWhile part) else none

end Names

section Lines

/-- The lines of a text; nothing may follow the last line feed. -/
def linesOf : List Char → Option (List (List Char))
  | [] => some []
  | c :: t =>
    if c = '\n' then (linesOf t).map ([] :: ·)
    else
      match linesOf t with
      | some (line :: lines) => some ((c :: line) :: lines)
      | _ => none

def isBlank (c : Char) : Bool := c = ' ' || c = '\t'

def skipBlanks (cs : List Char) : List Char := cs.dropWhile isBlank

def token (cs : List Char) : List Char := cs.takeWhile fun c => !isBlank c

def afterToken (cs : List Char) : List Char := skipBlanks (cs.dropWhile fun c => !isBlank c)

end Lines

section Values

def unescape (quoted : Bool) (c : Char) : Option Char :=
  if c = '\\' then some '\\'
  else if c = 'n' then some '\n'
  else if quoted && c = '"' then some '"'
  else none

def readValue : List Char → Option (List Char × List Char)
  | [] => none
  | c :: t =>
    if c = '"' then some ([], t)
    else if c = '\\' then
      match t with
      | [] => none
      | e :: r =>
        match unescape true e with
        | some d => (readValue r).map fun p => (d :: p.1, p.2)
        | none => none
    else (readValue t).map fun p => (c :: p.1, p.2)

def readHelp : List Char → Option (List Char)
  | [] => some []
  | c :: t =>
    if c = '\\' then
      match t with
      | [] => none
      | e :: r =>
        match unescape false e with
        | some d => (readHelp r).map (d :: ·)
        | none => none
    else (readHelp t).map (c :: ·)

def readLabel (cs : List Char) : Option ((String × String) × List Char) :=
  match readWord isLabelStart isLabelChar cs with
  | none => none
  | some (name, r) =>
    match skipBlanks r with
    | [] => none
    | c :: r₁ =>
      if c = '=' then
        match skipBlanks r₁ with
        | [] => none
        | q :: r₂ =>
          if q = '"' then (readValue r₂).map fun p => ((name, String.ofList p.1), p.2) else none
      else none

/-- The labels up to the closing brace; a comma may follow the last one. -/
def readLabels : ℕ → List Char → Option (List (String × String) × List Char)
  | 0, _ => none
  | n + 1, cs =>
    match skipBlanks cs with
    | [] => none
    | c :: t =>
      if c = '\x7d' then some ([], t)
      else
        match readLabel (c :: t) with
        | none => none
        | some (label, r) =>
          match skipBlanks r with
          | [] => none
          | d :: u =>
            if d = ',' then (readLabels n u).map fun p => (label :: p.1, p.2)
            else if d = '\x7d' then some ([label], u)
            else none

def readBraces : List Char → Option (List (String × String) × List Char)
  | [] => some ([], [])
  | c :: t => if c = '\x7b' then readLabels (t.length + 1) t else some ([], c :: t)

def readTimestamp (cs : List Char) : Option ℤ :=
  let digits := if cs.head? = some '-' then cs.drop 1 else cs
  if digits ≠ [] ∧ digits.all Char.isDigit then
    some (if cs.head? = some '-' then -(Nat.ofDigitChars 10 digits 0 : ℤ) else Nat.ofDigitChars 10 digits 0)
  else none

variable {V : Type} (values : ValueText V)

def readNumbers (cs : List Char) : Option (V × Option ℤ) :=
  match values.read (String.ofList (token cs)) with
  | none => none
  | some v =>
    if afterToken cs = [] then some (v, none)
    else if afterToken (afterToken cs) = [] then
      (readTimestamp (token (afterToken cs))).map fun n => (v, some n)
    else none

def readSample (cs : List Char) : Option (Sample V) :=
  match readWord isNameStart isNameChar cs with
  | none => none
  | some (name, r) =>
    match readBraces (skipBlanks r) with
    | none => none
    | some (labels, r₁) => (readNumbers values (skipBlanks r₁)).map fun p => ⟨name, labels, p.1, p.2⟩

/-- HELP and TYPE lines; any other comment is passed over. -/
def readComment (cs : List Char) : Option (Option (Entry V)) :=
  if token cs = "HELP".toList then
    match readWord isNameStart isNameChar (afterToken cs) with
    | none => none
    | some (name, r) =>
      if r.head?.all isBlank then (readHelp (skipBlanks r)).map fun text => some (.help name (String.ofList text))
      else none
  else if token cs = "TYPE".toList then
    match readWord isNameStart isNameChar (afterToken cs) with
    | none => none
    | some (name, r) =>
      if r.head?.all isBlank ∧ afterToken (skipBlanks r) = [] then
        (metricTypes.find? fun p => p.1.toList = token (skipBlanks r)).map fun p => some (.type name p.2)
      else none
  else some none

def readLine (cs : List Char) : Option (Option (Entry V)) :=
  match skipBlanks cs with
  | [] => some none
  | c :: t => if c = '#' then readComment (skipBlanks t) else (readSample values (c :: t)).map (some ∘ .sample)

def readLines : List (List Char) → Option (List (Entry V))
  | [] => some []
  | line :: lines =>
    match readLine values line, readLines lines with
    | some entry, some entries => some (entry.toList ++ entries)
    | _, _ => none

/-- The entries of a text; `none` for a text that the format refuses. -/
def readText (text : String) : Option (List (Entry V)) := (linesOf text.toList).bind (readLines values)

end Values

section Facts

theorem linesOf_line {line : List Char} (h : '\n' ∉ line) (rest : List Char) :
    linesOf (line ++ '\n' :: rest) = (linesOf rest).map (line :: ·) := by
  induction line with
  | nil => rfl
  | cons c t ih =>
    simp only [List.mem_cons, not_or] at h
    rw [List.cons_append, linesOf, if_neg (Ne.symm h.1), ih h.2]
    cases linesOf rest <;> rfl

theorem linesOf_flatMap {lines : List (List Char)} (h : ∀ line ∈ lines, '\n' ∉ line) :
    linesOf (lines.flatMap (· ++ ['\n'])) = some lines := by
  induction lines with
  | nil => rfl
  | cons line lines ih =>
    rw [List.forall_mem_cons] at h
    rw [List.flatMap_cons, List.append_assoc, List.singleton_append, linesOf_line h.1, ih h.2]
    rfl

theorem linesOf_split {before rest : List Char} {lines : List (List Char)}
    (h : linesOf (before ++ '\n' :: rest) = some lines) :
    ∃ line first last, lines = line :: first ++ last ∧ linesOf rest = some last := by
  induction before generalizing lines with
  | nil =>
    rw [List.nil_append, linesOf, if_pos rfl] at h
    obtain ⟨last, hlast, rfl⟩ := Option.map_eq_some_iff.mp h
    exact ⟨[], [], last, rfl, hlast⟩
  | cons c t ih =>
    rw [List.cons_append, linesOf] at h
    split_ifs at h with hc
    · obtain ⟨tail, htail, rfl⟩ := Option.map_eq_some_iff.mp h
      obtain ⟨line, first, last, rfl, hlast⟩ := ih htail
      exact ⟨[], line :: first, last, rfl, hlast⟩
    · cases htail : linesOf (t ++ '\n' :: rest) with
      | none =>
        rw [htail] at h
        cases h
      | some tail =>
        obtain ⟨line, first, last, rfl, hlast⟩ := ih htail
        rw [htail] at h
        cases h
        exact ⟨c :: line, first, last, rfl, hlast⟩

theorem readWord_append {start part : Char → Bool} {name : String} {rest : List Char}
    (h : isWord start part name.toList = true) (hrest : rest.head?.all (fun c => !part c) = true) :
    readWord start part (name.toList ++ rest) = some (name, rest) := by
  cases hname : name.toList with
  | nil =>
    rw [hname] at h
    cases h
  | cons c t =>
    rw [hname, isWord, Bool.and_eq_true] at h
    have htake : (t ++ rest).takeWhile part = t := by
      rw [List.takeWhile_append_of_pos (List.all_eq_true.mp h.2)]
      cases rest with
      | nil => exact List.append_nil t
      | cons d r =>
        have hd : part d = false := by simpa using hrest
        rw [List.takeWhile_cons, hd]
        exact List.append_nil t
    have hdrop : (t ++ rest).dropWhile part = rest := by
      rw [List.dropWhile_append_of_pos (List.all_eq_true.mp h.2)]
      cases rest with
      | nil => rfl
      | cons d r =>
        have hd : part d = false := by simpa using hrest
        rw [List.dropWhile_cons, hd]
        rfl
    rw [List.cons_append, readWord, if_pos h.1, htake, hdrop, ← hname, String.ofList_toList]

theorem skipBlanks_space (cs : List Char) : skipBlanks (' ' :: cs) = skipBlanks cs := rfl

theorem token_solid {cs : List Char} (h : ∀ c ∈ cs, isBlank c = false) (rest : List Char) :
    token (cs ++ ' ' :: rest) = cs ∧ afterToken (cs ++ ' ' :: rest) = skipBlanks rest := by
  have hall : ∀ c ∈ cs, (fun c => !isBlank c) c = true := by
    intro c hc
    change (!isBlank c) = true
    rw [h c hc]
    rfl
  constructor
  · rw [token, List.takeWhile_append_of_pos hall]
    exact List.append_nil cs
  · rw [afterToken, List.dropWhile_append_of_pos hall]
    rfl

theorem token_last {cs : List Char} (h : ∀ c ∈ cs, isBlank c = false) : token cs = cs ∧ afterToken cs = [] := by
  have hall : ∀ c ∈ cs, (fun c => !isBlank c) c = true := by
    intro c hc
    change (!isBlank c) = true
    rw [h c hc]
    rfl
  have htake : cs.takeWhile (fun c => !isBlank c) = cs := List.takeWhile_eq_self_iff.mpr hall
  have hdrop : cs.dropWhile (fun c => !isBlank c) = [] := List.dropWhile_eq_nil_iff.mpr hall
  exact ⟨htake, by rw [afterToken, hdrop]; rfl⟩

theorem readHelp_plain {cs : List Char} (h : '\\' ∉ cs) : readHelp cs = some cs := by
  induction cs with
  | nil => rfl
  | cons c t ih =>
    simp only [List.mem_cons, not_or] at h
    rw [readHelp.eq_def]
    simp only [Ne.symm h.1, ↓reduceIte, ih h.2, Option.map_some]

variable {V : Type} (values : ValueText V)

theorem readLines_append {first last : List (List Char)} {entries : List (Entry V)}
    (h : readLines values first = some entries) :
    readLines values (first ++ last) = (readLines values last).map (entries ++ ·) := by
  induction first generalizing entries with
  | nil =>
    cases h
    cases hlast : readLines values last <;> rw [List.nil_append, hlast] <;> rfl
  | cons line first ih =>
    rw [readLines] at h
    cases hline : readLine values line with
    | none =>
      rw [hline] at h
      cases h
    | some entry =>
      cases hfirst : readLines values first with
      | none =>
        rw [hline, hfirst] at h
        cases h
      | some tail =>
        rw [hline, hfirst] at h
        cases h
        rw [List.cons_append, readLines, hline, ih hfirst]
        cases readLines values last with
        | none => rfl
        | some rest => exact congrArg some (List.append_assoc _ _ _).symm

theorem readLines_refuses {lines : List (List Char)} {line : List Char} (hmem : line ∈ lines)
    (h : readLine values line = none) : readLines values lines = none := by
  induction lines with
  | nil => cases hmem
  | cons first lines ih =>
    rcases List.mem_cons.mp hmem with rfl | hmem
    · rw [readLines, h]
    · rw [readLines, ih hmem]
      cases readLine values first <;> rfl

theorem readText_refuses {text : String} {before line after : List Char}
    (htext : text.toList = before ++ (line ++ '\n' :: after))
    (hbefore : before = [] ∨ ∃ b, before = b ++ ['\n']) (hline : '\n' ∉ line)
    (h : readLine values line = none) : readText values text = none := by
  unfold readText
  cases hlines : linesOf text.toList with
  | none => rfl
  | some lines =>
    refine readLines_refuses values ?_ h
    rw [htext] at hlines
    rcases hbefore with rfl | ⟨b, rfl⟩
    · rw [List.nil_append, linesOf_line hline] at hlines
      obtain ⟨tail, _, rfl⟩ := Option.map_eq_some_iff.mp hlines
      exact List.mem_cons_self
    · rw [List.append_assoc, List.singleton_append] at hlines
      obtain ⟨first, more, last, rfl, hlast⟩ := linesOf_split hlines
      rw [linesOf_line hline] at hlast
      obtain ⟨tail, _, rfl⟩ := Option.map_eq_some_iff.mp hlast
      exact List.mem_append_right _ List.mem_cons_self

theorem ValueText.solid_blank (v : V) : ∀ c ∈ (values.write v).toList, isBlank c = false := by
  intro c hc
  obtain ⟨hspace, htab, -, -⟩ := values.solid v c hc
  simp only [isBlank, hspace, htab, decide_false, Bool.or_self]

theorem ValueText.head (v : V) : ∃ c t, (values.write v).toList = c :: t ∧ isBlank c = false ∧ c ≠ '\x7b' := by
  cases htext : (values.write v).toList with
  | nil => exact absurd (String.toList_injective (htext.trans rfl)) (values.nonempty v)
  | cons c t =>
    have hmem : c ∈ (values.write v).toList := by
      rw [htext]
      exact List.mem_cons_self
    exact ⟨c, t, rfl, values.solid_blank v c hmem, (values.solid v c hmem).2.2.2⟩

theorem readNumbers_write (v : V) : readNumbers values (values.write v).toList = some (v, none) := by
  obtain ⟨htoken, hafter⟩ := token_last (values.solid_blank v)
  unfold readNumbers
  rw [htoken, hafter, String.ofList_toList, values.read_write]
  rfl

end Facts

end AIRuntime.PrometheusText
