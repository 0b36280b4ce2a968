import AIRuntime.PrometheusText
import Mathlib.Data.List.Sort

set_option autoImplicit false

/-! `telemetry/metrics.py`: counters and summaries in memory, and the text that reports them. -/
namespace AIRuntime.InProcessMetrics

open PrometheusText

/-- `LabelMap`: the items of a `dict`, in its order. -/
structure LabelMap where
  items : List (String × String)
  keys : (items.map Prod.fst).Nodup

/-- Python's `float`, as far as the metrics use it: `0.0`, `1`, `+` and `str`. -/
structure Floats (V : Type) extends ValueText V where
  zero : V
  one : V
  add : V → V → V

abbrev Key := String × List (String × String)

section Store

/-- Tuples are compared by their first items, and by their second where those are equal. -/
def TupleLe {β : Type} (le : β → β → Prop) (p q : String × β) : Prop := p.1 < q.1 ∨ p.1 = q.1 ∧ le p.2 q.2

instance {β : Type} (le : β → β → Prop) [DecidableRel le] : DecidableRel (TupleLe le) := fun p q =>
  inferInstanceAs (Decidable (p.1 < q.1 ∨ p.1 = q.1 ∧ le p.2 q.2))

abbrev PairLe : String × String → String × String → Prop := TupleLe fun a b => a ≤ b

def LabelsLe : List (String × String) → List (String × String) → Prop
  | [], _ => True
  | _ :: _, [] => False
  | p :: ps, q :: qs => if p = q then LabelsLe ps qs else PairLe p q

instance decidableLabelsLe : DecidableRel LabelsLe
  | [], _ => .isTrue trivial
  | _ :: _, [] => .isFalse id
  | p :: ps, q :: qs =>
    let _ := decidableLabelsLe ps qs
    inferInstanceAs (Decidable (if p = q then LabelsLe ps qs else PairLe p q))

abbrev KeyLe : Key → Key → Prop := TupleLe LabelsLe

/-- `labels.items()`, of `None` as of a `dict`. -/
def labelItems : Option LabelMap → List (String × String)
  | none => []
  | some labels => labels.items

def freeze (labels : Option LabelMap) : List (String × String) := (labelItems labels).insertionSort PairLe

variable {V : Type} (floats : Floats V)

/-- `store[key] += amount` of a `defaultdict(float)`. -/
def bump (key : Key) (amount : V) : List (Key × V) → List (Key × V)
  | [] => [(key, floats.add floats.zero amount)]
  | (k, v) :: store => if k = key then (k, floats.add v amount) :: store else (k, v) :: bump key amount store

def valueAt (key : Key) : List (Key × V) → V
  | [] => floats.zero
  | (k, v) :: store => if k = key then v else valueAt key store

structure Metrics (V : Type) where
  counters : List (Key × V)
  sums : List (Key × V)
  counts : List (Key × V)

def Metrics.new : Metrics V := ⟨[], [], []⟩

def Metrics.increment (m : Metrics V) (name : String) (labels : Option LabelMap) (amount : V) : Metrics V :=
  { m with counters := bump floats (name, freeze labels) amount m.counters }

def Metrics.observe (m : Metrics V) (name : String) (value : V) (labels : Option LabelMap) : Metrics V :=
  { m with
    sums := bump floats (name, freeze labels) value m.sums
    counts := bump floats (name, freeze labels) floats.one m.counts }

inductive Call (V : Type) where
  | increment (name : String) (labels : Option LabelMap) (amount : V)
  | observe (name : String) (value : V) (labels : Option LabelMap)

def Metrics.perform (m : Metrics V) : Call V → Metrics V
  | .increment name labels amount => m.increment floats name labels amount
  | .observe name value labels => m.observe floats name value labels

def performAll (calls : List (Call V)) : Metrics V := calls.foldl (Metrics.perform floats) Metrics.new

end Store

section Rendering

def join (separator : Char) : List (List Char) → List Char
  | [] => []
  | [part] => part
  | part :: more :: parts => part ++ separator :: join separator (more :: parts)

def replaceChar (old : Char) (new : List Char) (cs : List Char) : List Char :=
  cs.flatMap fun c => if c = old then new else [c]

def escapeValue (value : String) : List Char :=
  replaceChar '"' ['\\', '"'] (replaceChar '\\' ['\\', '\\'] value.toList)

def formatLabel (label : String × String) : List Char :=
  label.1.toList ++ '=' :: '"' :: (escapeValue label.2 ++ ['"'])

def formatLabels (labels : List (String × String)) : List Char :=
  if labels.isEmpty then [] else '\x7b' :: (join ',' (labels.map formatLabel) ++ ['\x7d'])

def helpTexts : List (String × String) :=
  [("http_requests_total", "HTTP requests completed."),
    ("http_request_duration_seconds", "HTTP request duration in seconds."),
    ("generation_requests_total", "Generation attempts by result."),
    ("generation_tokens_total", "Tokens reported on successful provider generations.")]

def helpText (name : String) : String :=
  match helpTexts.find? fun p => p.1 = name with
  | some p => p.2
  | none => name

def helpLine (name : String) : List Char := "# HELP ".toList ++ (name.toList ++ ' ' :: (helpText name).toList)

def typeLine (name metricType : String) : List Char :=
  "# TYPE ".toList ++ (name.toList ++ ' ' :: metricType.toList)

variable {V : Type} (floats : Floats V)

def sampleLine (name : String) (labels : List (String × String)) (value : V) : List Char :=
  name.toList ++ (formatLabels labels ++ ' ' :: (floats.write value).toList)

/-- A loop of `render_prometheus` over its sorted items: HELP and TYPE before the first sample of a name. -/
def familyLines (metricType : String) (lines : Key → V → List (List Char)) :
    List (Key × V) → List String → List (List Char)
  | [], _ => []
  | (key, value) :: items, seen =>
    (if key.1 ∈ seen then [] else [helpLine key.1, typeLine key.1 metricType]) ++
      (lines key value ++ familyLines metricType lines items (key.1 :: seen))

def sorted (store : List (Key × V)) : List (Key × V) := store.insertionSort fun p q => KeyLe p.1 q.1

def counterLines (m : Metrics V) : List (List Char) :=
  familyLines "counter" (fun key value => [sampleLine floats key.1 key.2 value]) (sorted m.counters) []

def summaryLines (m : Metrics V) : List (List Char) :=
  familyLines "summary" (fun key total =>
    [sampleLine floats (key.1 ++ "_sum") key.2 total,
      sampleLine floats (key.1 ++ "_count") key.2 (valueAt floats key m.counts)]) (sorted m.sums) []

def renderPrometheus (m : Metrics V) : String :=
  String.ofList (join '\n' (counterLines floats m ++ summaryLines floats m ++ [[]]))

end Rendering

section Lines

def escapeChar (c : Char) : List Char :=
  if c = '\\' then ['\\', '\\'] else if c = '"' then ['\\', '"'] else [c]

theorem escapeValue_eq (value : String) : escapeValue value = value.toList.flatMap escapeChar := by
  unfold escapeValue replaceChar
  rw [List.flatMap_assoc]
  congr 1
  funext c
  unfold escapeChar
  split_ifs with hb hq
  · rfl
  · subst hq
    rfl
  · rw [List.flatMap_singleton, if_neg hq]

theorem readValue_plain {c : Char} (hq : c ≠ '"') (hb : c ≠ '\\') (rest : List Char) :
    readValue (c :: rest) = (readValue rest).map fun p => (c :: p.1, p.2) := by
  rw [readValue.eq_def]
  simp only [hq, hb, ↓reduceIte]

theorem readValue_escapeChar (c : Char) (rest : List Char) :
    readValue (escapeChar c ++ rest) = (readValue rest).map fun p => (c :: p.1, p.2) := by
  unfold escapeChar
  split_ifs with hb hq
  · rw [hb, readValue.eq_def]
    rfl
  · rw [hq, readValue.eq_def]
    rfl
  · exact readValue_plain hq hb rest

theorem readValue_escape (cs rest : List Char) :
    readValue (cs.flatMap escapeChar ++ rest) = (readValue rest).map fun p => (cs ++ p.1, p.2) := by
  induction cs with
  | nil => cases hrest : readValue rest <;> rw [List.flatMap_nil, List.nil_append, hrest] <;> rfl
  | cons c cs ih =>
    rw [List.flatMap_cons, List.append_assoc, readValue_escapeChar, ih, Option.map_map]
    rfl

theorem readValue_closed (value : String) (rest : List Char) :
    readValue (escapeValue value ++ '"' :: rest) = some (value.toList, rest) := by
  rw [escapeValue_eq, readValue_escape, readValue.eq_def]
  simp only [↓reduceIte, Option.map_some, List.append_nil]

theorem readValue_open (cs : List Char) : readValue (cs.flatMap escapeChar) = none := by
  have h := readValue_escape cs []
  rw [List.append_nil] at h
  exact h

theorem word_head {start part : Char → Bool} {name : String} (h : isWord start part name.toList = true)
    (rest : List Char) : ∃ c t, name.toList ++ rest = c :: t ∧ start c = true := by
  cases hname : name.toList with
  | nil =>
    rw [hname] at h
    cases h
  | cons c t =>
    rw [hname, isWord, Bool.and_eq_true] at h
    exact ⟨c, t ++ rest, rfl, h.1⟩

theorem isLabelStart_solid {c : Char} (h : isLabelStart c = true) : isBlank c = false ∧ c ≠ '\x7d' := by
  constructor
  · unfold isBlank
    simp only [Bool.or_eq_false_iff, decide_eq_false_iff_not]
    constructor
    · rintro rfl
      cases h
    · rintro rfl
      cases h
  · rintro rfl
    cases h

theorem readLabel_name {name : String} (h : isLabelName name = true) (rest : List Char) :
    readLabel (name.toList ++ '=' :: '"' :: rest) =
      (readValue rest).map fun p => ((name, String.ofList p.1), p.2) := by
  unfold readLabel
  rw [readWord_append h rfl]
  rfl

theorem readLabel_format {label : String × String} (h : isLabelName label.1 = true) (rest : List Char) :
    readLabel (formatLabel label ++ rest) = some (label, rest) := by
  have hsplit : formatLabel label ++ rest =
      label.1.toList ++ '=' :: '"' :: (escapeValue label.2 ++ '"' :: rest) := by
    simp only [formatLabel, List.append_assoc, List.cons_append, List.nil_append]
  rw [hsplit, readLabel_name h, readValue_closed, Option.map_some, String.ofList_toList]

/-- Where a label name starts a label is read, and what stands after it is looked at. -/
theorem readLabels_some {name : String} (h : isLabelName name = true) {rest u : List Char} {d : Char}
    {label : String × String} (n : ℕ) (hread : readLabel (name.toList ++ rest) = some (label, d :: u))
    (hd : isBlank d = false) :
    readLabels (n + 1) (name.toList ++ rest) =
      if d = ',' then (readLabels n u).map fun p => (label :: p.1, p.2)
      else if d = '\x7d' then some ([label], u) else none := by
  obtain ⟨c, t, hct, hc⟩ := word_head h rest
  obtain ⟨hblank, hbrace⟩ := isLabelStart_solid hc
  rw [hct] at hread ⊢
  rw [readLabels, skipBlanks, List.dropWhile_cons, hblank]
  simp only [Bool.false_eq_true, ↓reduceIte, hbrace, hread]
  rw [skipBlanks, List.dropWhile_cons, hd]
  rfl

theorem readLabels_none {name : String} (h : isLabelName name = true) {rest : List Char} (n : ℕ)
    (hread : readLabel (name.toList ++ rest) = none) : readLabels (n + 1) (name.toList ++ rest) = none := by
  obtain ⟨c, t, hct, hc⟩ := word_head h rest
  obtain ⟨hblank, hbrace⟩ := isLabelStart_solid hc
  rw [hct] at hread ⊢
  rw [readLabels, skipBlanks, List.dropWhile_cons, hblank]
  simp only [Bool.false_eq_true, ↓reduceIte, hbrace, hread]

theorem formatLabel_append (label : String × String) (rest : List Char) :
    formatLabel label ++ rest = label.1.toList ++ '=' :: '"' :: (escapeValue label.2 ++ '"' :: rest) := by
  simp only [formatLabel, List.append_assoc, List.cons_append, List.nil_append]

theorem readLabels_more {label : String × String} (h : isLabelName label.1 = true) (n : ℕ) (rest : List Char) :
    readLabels (n + 1) (formatLabel label ++ ',' :: rest) =
      (readLabels n rest).map fun p => (label :: p.1, p.2) := by
  have hread := readLabel_format h (',' :: rest)
  rw [formatLabel_append] at hread ⊢
  exact readLabels_some h n hread rfl

theorem readLabels_last {label : String × String} (h : isLabelName label.1 = true) (n : ℕ) (rest : List Char) :
    readLabels (n + 1) (formatLabel label ++ '\x7d' :: rest) = some ([label], rest) := by
  have hread := readLabel_format h ('\x7d' :: rest)
  rw [formatLabel_append] at hread ⊢
  exact readLabels_some h n hread rfl

theorem readLabels_before {labels : List (String × String)} (h : ∀ l ∈ labels, isLabelName l.1 = true) (n : ℕ)
    (rest : List Char) :
    readLabels (labels.length + n) (labels.flatMap (fun l => formatLabel l ++ [',']) ++ rest) =
      (readLabels n rest).map fun p => (labels ++ p.1, p.2) := by
  induction labels with
  | nil =>
    rw [List.length_nil, Nat.zero_add, List.flatMap_nil, List.nil_append]
    cases readLabels n rest <;> rfl
  | cons label labels ih =>
    rw [List.forall_mem_cons] at h
    have hlen : (label :: labels).length + n = labels.length + n + 1 := by
      rw [List.length_cons]
      omega
    rw [hlen, List.flatMap_cons, List.append_assoc, List.append_assoc, List.singleton_append,
      readLabels_more h.1, ih h.2, Option.map_map]
    rfl

theorem join_before (separator : Char) (f : String × String → List Char) (before : List (String × String))
    (last : String × String) :
    join separator ((before ++ [last]).map f) = before.flatMap (fun l => f l ++ [separator]) ++ f last := by
  induction before with
  | nil => rfl
  | cons label before ih =>
    have hcons : join separator ((label :: before ++ [last]).map f) =
        f label ++ separator :: join separator ((before ++ [last]).map f) := by
      cases before <;> rfl
    rw [hcons, ih, List.flatMap_cons, List.append_assoc, List.append_assoc, List.singleton_append]

theorem length_before (labels : List (String × String)) :
    labels.length ≤ (labels.flatMap fun l => formatLabel l ++ [',']).length := by
  induction labels with
  | nil => exact Nat.le_refl 0
  | cons label labels ih =>
    simp only [List.flatMap_cons, List.length_append, List.length_cons, List.length_nil]
    omega

/-- What `_format_labels` writes is read back, whatever characters the values have. -/
theorem readBraces_format {labels : List (String × String)} (h : ∀ l ∈ labels, isLabelName l.1 = true)
    {rest : List Char} {c : Char} (hblank : isBlank c = false) (hbrace : c ≠ '\x7b') :
    ∃ r, readBraces (skipBlanks (formatLabels labels ++ ' ' :: c :: rest)) = some (labels, r) ∧
      skipBlanks r = c :: rest := by
  have hskip : skipBlanks (c :: rest) = c :: rest := by
    rw [skipBlanks, List.dropWhile_cons, hblank]
    rfl
  rcases List.eq_nil_or_concat labels with rfl | ⟨before, last, rfl⟩
  · refine ⟨c :: rest, ?_, hskip⟩
    change readBraces (skipBlanks (' ' :: c :: rest)) = _
    rw [skipBlanks_space, hskip, readBraces, if_neg hbrace]
  · refine ⟨' ' :: c :: rest, ?_, hskip⟩
    rw [List.concat_eq_append] at h ⊢
    have hformat : formatLabels (before ++ [last]) ++ ' ' :: c :: rest =
        '\x7b' :: (before.flatMap (fun l => formatLabel l ++ [',']) ++
          (formatLabel last ++ '\x7d' :: ' ' :: c :: rest)) := by
      rw [formatLabels, if_neg (by simp), join_before]
      simp only [List.cons_append, List.append_assoc, List.nil_append]
    rw [hformat]
    change readLabels (_ + 1) _ = _
    -- the line is longer than its labels are many
    have hlen : before.length ≤ (before.flatMap (fun l => formatLabel l ++ [',']) ++
        (formatLabel last ++ '\x7d' :: ' ' :: c :: rest)).length := by
      rw [List.length_append]
      exact Nat.le_add_right_of_le (length_before before)
    obtain ⟨n, hn⟩ := Nat.exists_eq_add_of_le hlen
    rw [hn, Nat.add_assoc, readLabels_before (fun l hl => h l (List.mem_append_left _ hl)),
      readLabels_last (h last (List.mem_append_right _ List.mem_cons_self)), Option.map_some]

/-- A label value that goes on past the end of the line leaves the labels unread. -/
theorem readBraces_open {before : List (String × String)} (h : ∀ l ∈ before, isLabelName l.1 = true) {name : String}
    (hname : isLabelName name = true) (value : List Char) :
    readBraces ('\x7b' :: (before.flatMap (fun l => formatLabel l ++ [',']) ++
      (name.toList ++ '=' :: '"' :: value.flatMap escapeChar))) = none := by
  have hread : readLabel (name.toList ++ '=' :: '"' :: value.flatMap escapeChar) = none := by
    rw [readLabel_name hname, readValue_open]
    rfl
  have hlen : before.length ≤ (before.flatMap (fun l => formatLabel l ++ [',']) ++
      (name.toList ++ '=' :: '"' :: value.flatMap escapeChar)).length := by
    rw [List.length_append]
    exact Nat.le_add_right_of_le (length_before before)
  obtain ⟨n, hn⟩ := Nat.exists_eq_add_of_le hlen
  change readLabels (_ + 1) _ = _
  rw [hn, Nat.add_assoc, readLabels_before h, readLabels_none hname n hread]
  rfl

theorem isNameStart_plain {c : Char} (h : isNameStart c = true) : isBlank c = false ∧ c ≠ '#' := by
  constructor
  · unfold isBlank
    simp only [Bool.or_eq_false_iff, decide_eq_false_iff_not]
    constructor
    · rintro rfl
      cases h
    · rintro rfl
      cases h
  · rintro rfl
    cases h

variable {V : Type} (floats : Floats V)

theorem readLine_name {name : String} (h : isMetricName name = true) (rest : List Char) :
    readLine floats.toValueText (name.toList ++ rest) =
      (readSample floats.toValueText (name.toList ++ rest)).map (some ∘ .sample) := by
  obtain ⟨c, t, hct, hc⟩ := word_head h rest
  obtain ⟨hblank, hsharp⟩ := isNameStart_plain hc
  rw [hct, readLine, skipBlanks, List.dropWhile_cons, hblank]
  simp only [Bool.false_eq_true, ↓reduceIte, hsharp]

theorem readLine_sample {name : String} {labels : List (String × String)} (hname : isMetricName name = true)
    (h : ∀ l ∈ labels, isLabelName l.1 = true) (value : V) :
    readLine floats.toValueText (sampleLine floats name labels value) =
      some (some (.sample ⟨name, labels, value, none⟩)) := by
  obtain ⟨c, t, hct, hblank, hbrace⟩ := floats.head value
  obtain ⟨r, hbraces, hr⟩ := @readBraces_format labels h t c hblank hbrace
  have hrest : (formatLabels labels ++ ' ' :: c :: t).head?.all (fun c => !isNameChar c) = true := by
    unfold formatLabels
    split_ifs <;> rfl
  have hsample : readSample floats.toValueText (name.toList ++ (formatLabels labels ++ ' ' :: c :: t)) =
      some ⟨name, labels, value, none⟩ := by
    unfold readSample
    rw [readWord_append hname hrest]
    simp only [hbraces, hr]
    rw [← hct, readNumbers_write]
    rfl
  unfold sampleLine
  rw [hct, readLine_name floats hname, hsample]
  rfl

theorem readLine_open {name : String} (hname : isMetricName name = true) {before : List (String × String)}
    (h : ∀ l ∈ before, isLabelName l.1 = true) {key : String} (hkey : isLabelName key = true) (value : List Char) :
    readLine floats.toValueText (name.toList ++ '\x7b' :: (before.flatMap (fun l => formatLabel l ++ [',']) ++
      (key.toList ++ '=' :: '"' :: value.flatMap escapeChar))) = none := by
  rw [readLine_name floats hname]
  unfold readSample
  rw [readWord_append hname rfl]
  have hskip : ∀ cs : List Char, skipBlanks ('\x7b' :: cs) = '\x7b' :: cs := fun _ => rfl
  simp only [hskip, readBraces_open h hkey]
  rfl

theorem name_chars {name : String} (h : isMetricName name = true) : ∀ c ∈ name.toList, isNameChar c = true := by
  unfold isMetricName at h
  cases hname : name.toList with
  | nil =>
    intro c hc
    cases hc
  | cons d t =>
    rw [hname, isWord, Bool.and_eq_true] at h
    intro c hc
    rcases List.mem_cons.mp hc with rfl | hc
    · rw [isNameChar, h.1]
      rfl
    · exact List.all_eq_true.mp h.2 c hc

theorem notMem_name {name : String} (h : isMetricName name = true) {c : Char} (hc : isNameChar c = false) :
    c ∉ name.toList := by
  intro hmem
  rw [name_chars h c hmem] at hc
  cases hc

theorem helpText_plain {name : String} (h : isMetricName name = true) :
    '\\' ∉ (helpText name).toList ∧ '\n' ∉ (helpText name).toList ∧
      skipBlanks (helpText name).toList = (helpText name).toList := by
  unfold helpText
  cases hfind : helpTexts.find? fun p => p.1 = name with
  | none =>
    obtain ⟨c, t, hct, hc⟩ := word_head h []
    rw [List.append_nil] at hct
    refine ⟨notMem_name h rfl, notMem_name h rfl, ?_⟩
    rw [hct, skipBlanks, List.dropWhile_cons, (isNameStart_plain hc).1]
    rfl
  | some p =>
    have hall : ∀ q ∈ helpTexts, '\\' ∉ q.2.toList ∧ '\n' ∉ q.2.toList ∧
        skipBlanks q.2.toList = q.2.toList := by decide
    exact hall p (List.mem_of_find?_eq_some hfind)

/-- What a comment line with a keyword, a name and more is read from. -/
theorem keyword_tokens {keyword : List Char} (hkeyword : ∀ c ∈ keyword, isBlank c = false) {name : String}
    (h : isMetricName name = true) (rest : List Char) :
    token (keyword ++ ' ' :: (name.toList ++ ' ' :: rest)) = keyword ∧
      readWord isNameStart isNameChar (afterToken (keyword ++ ' ' :: (name.toList ++ ' ' :: rest))) =
        some (name, ' ' :: rest) := by
  obtain ⟨htoken, hafter⟩ := token_solid hkeyword (name.toList ++ ' ' :: rest)
  refine ⟨htoken, ?_⟩
  obtain ⟨c, t, hct, hc⟩ := word_head h (' ' :: rest)
  have hskip : skipBlanks (name.toList ++ ' ' :: rest) = name.toList ++ ' ' :: rest := by
    rw [hct, skipBlanks, List.dropWhile_cons, (isNameStart_plain hc).1]
    rfl
  rw [hafter, hskip, readWord_append h rfl]

theorem unblank {cs : List Char} (h : cs.all (fun c => !isBlank c) = true) : ∀ c ∈ cs, isBlank c = false := by
  intro c hc
  simpa using List.all_eq_true.mp h c hc

theorem readLine_help {name : String} (h : isMetricName name = true) :
    readLine floats.toValueText (helpLine name) = some (some (.help name (helpText name))) := by
  have hkeyword : ∀ c ∈ "HELP".toList, isBlank c = false := unblank (by decide)
  obtain ⟨htoken, hword⟩ := keyword_tokens hkeyword h (helpText name).toList
  obtain ⟨hslash, -, hskip⟩ := helpText_plain h
  change readComment ("HELP".toList ++ ' ' :: (name.toList ++ ' ' :: (helpText name).toList)) = _
  unfold readComment
  rw [if_pos htoken, hword]
  change Option.map _ (readHelp (skipBlanks (' ' :: (helpText name).toList))) = _
  rw [skipBlanks_space, hskip, readHelp_plain hslash, Option.map_some, String.ofList_toList]

theorem readLine_type {name metricType : String} {t : MetricType} (h : isMetricName name = true)
    (ht : (metricType, t) ∈ metricTypes) :
    readLine floats.toValueText (typeLine name metricType) = some (some (.type name t)) := by
  have hkeyword : ∀ c ∈ "TYPE".toList, isBlank c = false := unblank (by decide)
  obtain ⟨htoken, hword⟩ := keyword_tokens hkeyword h metricType.toList
  have hne : "TYPE".toList ≠ "HELP".toList := by decide
  have hsolid : ∀ p ∈ metricTypes, p.1.toList.all (fun c => !isBlank c) = true := by decide
  have hfind : ∀ p ∈ metricTypes, metricTypes.find? (fun q => q.1.toList = p.1.toList) = some p := by decide
  have hstart : ∀ p ∈ metricTypes, skipBlanks p.1.toList = p.1.toList := by decide
  obtain ⟨hlast, hafter⟩ := token_last (unblank (hsolid _ ht))
  change readComment ("TYPE".toList ++ ' ' :: (name.toList ++ ' ' :: metricType.toList)) = _
  unfold readComment
  rw [htoken, if_neg hne, if_pos rfl, hword]
  simp only [skipBlanks_space, hstart _ ht, hlast, hafter, hfind _ ht]
  rfl

end Lines

section Entries

variable {V : Type}

def familyEntries (t : MetricType) (samples : Key → V → List (Sample V)) :
    List (Key × V) → List String → List (Entry V)
  | [], _ => []
  | (key, value) :: items, seen =>
    (if key.1 ∈ seen then [] else [.help key.1 (helpText key.1), .type key.1 t]) ++
      ((samples key value).map .sample ++ familyEntries t samples items (key.1 :: seen))

def counterSamples (key : Key) (value : V) : List (Sample V) := [⟨key.1, key.2, value, none⟩]

def summarySamples (floats : Floats V) (counts : List (Key × V)) (key : Key) (total : V) : List (Sample V) :=
  [⟨key.1 ++ "_sum", key.2, total, none⟩, ⟨key.1 ++ "_count", key.2, valueAt floats key counts, none⟩]

variable (floats : Floats V)

def entriesOf (m : Metrics V) : List (Entry V) :=
  familyEntries .counter counterSamples (sorted m.counters) [] ++
    familyEntries .summary (summarySamples floats m.counts) (sorted m.sums) []

def KeyOk (key : Key) : Prop := isMetricName key.1 = true ∧ ∀ l ∈ key.2, isLabelName l.1 = true

theorem readLines_both {a b : List (List Char)} {es fs : List (Entry V)}
    (ha : readLines floats.toValueText a = some es) (hb : readLines floats.toValueText b = some fs) :
    readLines floats.toValueText (a ++ b) = some (es ++ fs) := by
  rw [readLines_append _ ha, hb]
  rfl

theorem readLines_line {line : List Char} {entry : Entry V} {lines : List (List Char)} {entries : List (Entry V)}
    (h : readLine floats.toValueText line = some (some entry))
    (hlines : readLines floats.toValueText lines = some entries) :
    readLines floats.toValueText (line :: lines) = some (entry :: entries) := by
  rw [readLines, h, hlines]
  rfl

theorem readLines_family {metricType : String} {t : MetricType} (ht : (metricType, t) ∈ metricTypes)
    {lines : Key → V → List (List Char)} {samples : Key → V → List (Sample V)}
    (hread : ∀ key value, KeyOk key →
      readLines floats.toValueText (lines key value) = some ((samples key value).map .sample))
    {items : List (Key × V)} (hitems : ∀ p ∈ items, KeyOk p.1) (seen : List String) :
    readLines floats.toValueText (familyLines metricType lines items seen) =
      some (familyEntries t samples items seen) := by
  induction items generalizing seen with
  | nil => rfl
  | cons p items ih =>
    obtain ⟨key, value⟩ := p
    rw [List.forall_mem_cons] at hitems
    have hrest := readLines_both floats (hread key value hitems.1) (ih hitems.2 (key.1 :: seen))
    rw [familyLines, familyEntries]
    refine readLines_both floats ?_ hrest
    split_ifs
    · rfl
    · exact readLines_line floats (readLine_help floats hitems.1.1)
        (readLines_line floats (readLine_type floats hitems.1.1 ht) rfl)

theorem metricName_append {name : String} (suffix : String) (h : isMetricName name = true)
    (hsuffix : suffix.toList.all isNameChar = true) : isMetricName (name ++ suffix) = true := by
  unfold isMetricName at h ⊢
  rw [String.toList_append]
  cases hname : name.toList with
  | nil =>
    rw [hname] at h
    cases h
  | cons c t =>
    rw [hname, isWord, Bool.and_eq_true] at h
    rw [List.cons_append, isWord, List.all_append, h.1, h.2, hsuffix]
    rfl

theorem mem_sorted {p : Key × V} {store : List (Key × V)} : p ∈ sorted store ↔ p ∈ store :=
  List.mem_insertionSort _

theorem readLines_report {m : Metrics V} (hcounters : ∀ p ∈ m.counters, KeyOk p.1) (hsums : ∀ p ∈ m.sums, KeyOk p.1) :
    readLines floats.toValueText (counterLines floats m ++ summaryLines floats m) = some (entriesOf floats m) := by
  have hcounter : ("counter", MetricType.counter) ∈ metricTypes := by decide
  have hsummary : ("summary", MetricType.summary) ∈ metricTypes := by decide
  refine readLines_both floats (readLines_family floats hcounter ?_ (fun p hp => hcounters p (mem_sorted.mp hp)) [])
    (readLines_family floats hsummary ?_ (fun p hp => hsums p (mem_sorted.mp hp)) [])
  · intro key value hkey
    exact readLines_line floats (readLine_sample floats hkey.1 hkey.2 value) rfl
  · intro key total hkey
    have hsum := readLine_sample floats (metricName_append "_sum" hkey.1 rfl) hkey.2 total
    have hcount := readLine_sample floats (metricName_append "_count" hkey.1 rfl) hkey.2
      (valueAt floats key m.counts)
    exact readLines_line floats hsum (readLines_line floats hcount rfl)

theorem join_lines (lines : List (List Char)) :
    join '\n' (lines ++ [[]]) = lines.flatMap (· ++ ['\n']) := by
  induction lines with
  | nil => rfl
  | cons line lines ih =>
    have hcons : join '\n' (line :: lines ++ [[]]) = line ++ '\n' :: join '\n' (lines ++ [[]]) := by
      cases lines <;> rfl
    rw [hcons, ih, List.flatMap_cons, List.append_assoc, List.singleton_append]

theorem toList_render (m : Metrics V) :
    (renderPrometheus floats m).toList = (counterLines floats m ++ summaryLines floats m).flatMap (· ++ ['\n']) := by
  rw [renderPrometheus, String.toList_ofList, join_lines]

end Entries

section LineFeeds

theorem mem_escapeValue {value : String} : '\n' ∈ escapeValue value ↔ '\n' ∈ value.toList := by
  rw [escapeValue_eq, List.mem_flatMap]
  constructor
  · rintro ⟨c, hc, hmem⟩
    unfold escapeChar at hmem
    split_ifs at hmem with hb hq
    · exact absurd hmem (by decide)
    · exact absurd hmem (by decide)
    · rwa [List.mem_singleton.mp hmem]
  · intro h
    exact ⟨'\n', h, List.mem_singleton.mpr rfl⟩

def OneLined (labels : List (String × String)) : Prop := ∀ l ∈ labels, '\n' ∉ l.2.toList

theorem word_oneLine {start part : Char → Bool} {name : String} (h : isWord start part name.toList = true)
    (hstart : start '\n' = false) (hpart : part '\n' = false) : '\n' ∉ name.toList := by
  intro hmem
  cases hname : name.toList with
  | nil =>
    rw [hname] at hmem
    cases hmem
  | cons c t =>
    rw [hname, isWord, Bool.and_eq_true] at h
    rw [hname] at hmem
    rcases List.mem_cons.mp hmem with rfl | hmem
    · rw [h.1] at hstart
      cases hstart
    · rw [List.all_eq_true.mp h.2 _ hmem] at hpart
      cases hpart

theorem formatLabel_oneLine {label : String × String} (h : isLabelName label.1 = true) (hvalue : '\n' ∉ label.2.toList) :
    '\n' ∉ formatLabel label := by
  have hkey := word_oneLine h rfl rfl
  simp only [formatLabel, List.mem_append, List.mem_cons, mem_escapeValue, hkey, hvalue, List.not_mem_nil]
  decide

theorem before_oneLine {labels : List (String × String)} (h : ∀ l ∈ labels, isLabelName l.1 = true)
    (hone : OneLined labels) : '\n' ∉ labels.flatMap fun l => formatLabel l ++ [','] := by
  intro hmem
  obtain ⟨l, hl, hin⟩ := List.mem_flatMap.mp hmem
  rcases List.mem_append.mp hin with hin | hin
  · exact formatLabel_oneLine (h l hl) (hone l hl) hin
  · exact absurd hin (by decide)

variable {V : Type} (floats : Floats V)

theorem sampleLine_oneLine {name : String} {labels : List (String × String)} (hkey : KeyOk (name, labels))
    (hone : OneLined labels) (value : V) : '\n' ∉ sampleLine floats name labels value := by
  have hname := word_oneLine hkey.1 rfl rfl
  have hvalue : '\n' ∉ (floats.write value).toList := fun hmem => (floats.solid value _ hmem).2.2.1 rfl
  have hlabels : '\n' ∉ formatLabels labels := by
    rcases List.eq_nil_or_concat labels with rfl | ⟨before, last, rfl⟩
    · exact List.not_mem_nil
    · rw [List.concat_eq_append] at hkey hone ⊢
      have hbefore := before_oneLine (fun l hl => hkey.2 l (List.mem_append_left _ hl))
        fun l hl => hone l (List.mem_append_left _ hl)
      have hlast := formatLabel_oneLine (hkey.2 last (List.mem_append_right _ List.mem_cons_self))
        (hone last (List.mem_append_right _ List.mem_cons_self))
      rw [formatLabels, if_neg (by simp), join_before]
      simp only [List.mem_cons, List.mem_append, hbefore, hlast, List.not_mem_nil]
      decide
  simp only [sampleLine, List.mem_append, List.mem_cons, hname, hlabels, hvalue]
  decide

theorem join_split (separator : Char) (f : String × String → List Char) (before : List (String × String))
    (label : String × String) (after : List (String × String)) :
    ∃ tail, join separator ((before ++ label :: after).map f) =
      before.flatMap (fun l => f l ++ [separator]) ++ (f label ++ tail) := by
  induction before with
  | nil =>
    cases after with
    | nil => exact ⟨[], (List.append_nil _).symm⟩
    | cons next after => exact ⟨_, rfl⟩
  | cons first before ih =>
    obtain ⟨tail, htail⟩ := ih
    refine ⟨tail, ?_⟩
    have hcons : join separator ((first :: before ++ label :: after).map f) =
        f first ++ separator :: join separator ((before ++ label :: after).map f) := by
      cases before <;> rfl
    rw [hcons, htail, List.flatMap_cons, List.append_assoc, List.append_assoc, List.singleton_append]

theorem sampleLine_breaks {name : String} {labels : List (String × String)} (hkey : KeyOk (name, labels))
    (hbroken : ¬ OneLined labels) (value : V) :
    ∃ line tail, sampleLine floats name labels value = line ++ '\n' :: tail ∧ '\n' ∉ line ∧
      readLine floats.toValueText line = none := by
  obtain ⟨first, hfind⟩ : ∃ l, labels.find? (fun l => '\n' ∈ l.2.toList) = some l := by
    by_contra hnone
    refine hbroken fun l hl hmem => ?_
    cases hfind : labels.find? fun l => '\n' ∈ l.2.toList with
    | some l => exact hnone ⟨l, hfind⟩
    | none => simpa [hmem] using List.find?_eq_none.mp hfind l hl
  obtain ⟨hmem, before, after, rfl, hbefore⟩ := List.find?_eq_some_iff_append.mp hfind
  obtain ⟨a, b, hab, ha⟩ := List.eq_append_cons_of_mem (of_decide_eq_true hmem)
  have hnames : ∀ l ∈ before, isLabelName l.1 = true := fun l hl => hkey.2 l (List.mem_append_left _ hl)
  have hfirst : isLabelName first.1 = true := hkey.2 first (List.mem_append_right _ List.mem_cons_self)
  have hone : OneLined before := fun l hl => by simpa using hbefore l hl
  obtain ⟨tail, htail⟩ := join_split ',' formatLabel before first after
  refine ⟨_, b.flatMap escapeChar ++ '"' :: (tail ++ '\x7d' :: ' ' :: (floats.write value).toList), ?_, ?_,
    readLine_open floats hkey.1 hnames hfirst a⟩
  · have hempty : ¬ (before ++ first :: after).isEmpty = true := by simp
    have hescape : escapeValue first.2 = a.flatMap escapeChar ++ '\n' :: b.flatMap escapeChar := by
      rw [escapeValue_eq, hab, List.flatMap_append, List.flatMap_cons]
      rfl
    rw [sampleLine, formatLabels, if_neg hempty, htail, formatLabel, hescape]
    simp only [List.append_assoc, List.cons_append, List.nil_append]
  · have hescaped : '\n' ∉ a.flatMap escapeChar := by
      intro hin
      have hback : '\n' ∈ escapeValue (String.ofList a) := by
        rw [escapeValue_eq, String.toList_ofList]
        exact hin
      have hmem' := mem_escapeValue.mp hback
      rw [String.toList_ofList] at hmem'
      exact ha hmem'
    have hname := word_oneLine hkey.1 rfl rfl
    have hlabel := word_oneLine hfirst rfl rfl
    simp only [List.mem_append, List.mem_cons, hname, before_oneLine hnames hone, hlabel, hescaped]
    decide

theorem keyword_oneLine {keyword a b : List Char} (hkeyword : '\n' ∉ keyword) (ha : '\n' ∉ a) (hb : '\n' ∉ b) :
    '\n' ∉ keyword ++ (a ++ ' ' :: b) := by
  intro hmem
  rcases List.mem_append.mp hmem with hmem | hmem
  · exact hkeyword hmem
  · rcases List.mem_append.mp hmem with hmem | hmem
    · exact ha hmem
    · rcases List.mem_cons.mp hmem with hmem | hmem
      · cases hmem
      · exact hb hmem

theorem helpLine_oneLine {name : String} (h : isMetricName name = true) : '\n' ∉ helpLine name :=
  keyword_oneLine (by decide) (word_oneLine h rfl rfl) (helpText_plain h).2.1

theorem typeLine_oneLine {name metricType : String} (h : isMetricName name = true)
    (htype : '\n' ∉ metricType.toList) : '\n' ∉ typeLine name metricType :=
  keyword_oneLine (by decide) (word_oneLine h rfl rfl) htype

theorem family_oneLine {metricType : String} (htype : '\n' ∉ metricType.toList)
    {lines : Key → V → List (List Char)} {items : List (Key × V)} (hitems : ∀ p ∈ items, KeyOk p.1)
    (hlines : ∀ p ∈ items, ∀ line ∈ lines p.1 p.2, '\n' ∉ line) (seen : List String) :
    ∀ line ∈ familyLines metricType lines items seen, '\n' ∉ line := by
  induction items generalizing seen with
  | nil =>
    intro line hline
    cases hline
  | cons p items ih =>
    obtain ⟨key, value⟩ := p
    rw [List.forall_mem_cons] at hitems hlines
    have hname := word_oneLine hitems.1.1 rfl rfl
    have hhelp := helpLine_oneLine hitems.1.1
    have htypeLine := typeLine_oneLine hitems.1.1 htype
    intro line hline
    rw [familyLines] at hline
    rcases List.mem_append.mp hline with hhead | hline
    · split_ifs at hhead
      · cases hhead
      · rcases List.mem_cons.mp hhead with rfl | hhead
        · exact hhelp
        · rw [List.mem_singleton.mp hhead]
          exact htypeLine
    · rcases List.mem_append.mp hline with hline | hline
      · exact hlines.1 line hline
      · exact ih hitems.2 hlines.2 (key.1 :: seen) line hline

/-- The report of values without line feeds is read as what it says. -/
theorem readText_render {m : Metrics V} (hcounters : ∀ p ∈ m.counters, KeyOk p.1 ∧ OneLined p.1.2)
    (hsums : ∀ p ∈ m.sums, KeyOk p.1 ∧ OneLined p.1.2) :
    readText floats.toValueText (renderPrometheus floats m) = some (entriesOf floats m) := by
  have hlines : ∀ line ∈ counterLines floats m ++ summaryLines floats m, '\n' ∉ line := by
    intro line hline
    rcases List.mem_append.mp hline with hline | hline
    · refine family_oneLine (by decide) (fun p hp => (hcounters p (mem_sorted.mp hp)).1) ?_ [] line hline
      intro p hp l hl
      obtain ⟨hok, hone⟩ := hcounters p (mem_sorted.mp hp)
      rw [List.mem_singleton.mp hl]
      exact sampleLine_oneLine floats hok hone p.2
    · refine family_oneLine (by decide) (fun p hp => (hsums p (mem_sorted.mp hp)).1) ?_ [] line hline
      intro p hp l hl
      obtain ⟨hok, hone⟩ := hsums p (mem_sorted.mp hp)
      rcases List.mem_cons.mp hl with rfl | hl
      · exact sampleLine_oneLine floats ⟨metricName_append "_sum" hok.1 rfl, hok.2⟩ hone _
      · rw [List.mem_singleton.mp hl]
        exact sampleLine_oneLine floats ⟨metricName_append "_count" hok.1 rfl, hok.2⟩ hone _
  unfold readText
  rw [toList_render, linesOf_flatMap hlines]
  exact readLines_report floats (fun p hp => (hcounters p hp).1) fun p hp => (hsums p hp).1

theorem flatMap_ends (lines : List (List Char)) :
    lines.flatMap (· ++ ['\n']) = [] ∨ ∃ b, lines.flatMap (· ++ ['\n']) = b ++ ['\n'] := by
  rcases List.eq_nil_or_concat lines with rfl | ⟨before, last, rfl⟩
  · exact .inl rfl
  · refine .inr ⟨before.flatMap (· ++ ['\n']) ++ last, ?_⟩
    rw [List.concat_eq_append, List.flatMap_append, List.flatMap_singleton, List.append_assoc]

/-- A report with a sample whose labels hold a line feed is refused. -/
theorem readText_refused {m : Metrics V} {name : String} {labels : List (String × String)}
    (hkey : KeyOk (name, labels)) (hbroken : ¬ OneLined labels) (value : V)
    (hline : sampleLine floats name labels value ∈ counterLines floats m ++ summaryLines floats m) :
    readText floats.toValueText (renderPrometheus floats m) = none := by
  obtain ⟨line, tail, hbreak, hone, hrefused⟩ := sampleLine_breaks floats hkey hbroken value
  obtain ⟨before, after, hsplit⟩ := List.append_of_mem hline
  have htext : (renderPrometheus floats m).toList = before.flatMap (· ++ ['\n']) ++
      (line ++ '\n' :: (tail ++ '\n' :: after.flatMap (· ++ ['\n']))) := by
    rw [toList_render, hsplit, List.flatMap_append, List.flatMap_cons, hbreak]
    simp only [List.append_assoc, List.cons_append, List.nil_append]
  exact readText_refuses _ htext (flatMap_ends before) hone hrefused

theorem mem_familyLines {metricType : String} {lines : Key → V → List (List Char)} {items : List (Key × V)}
    {p : Key × V} (hp : p ∈ items) {line : List Char} (hline : line ∈ lines p.1 p.2) (seen : List String) :
    line ∈ familyLines metricType lines items seen := by
  induction items generalizing seen with
  | nil => cases hp
  | cons q items ih =>
    obtain ⟨key, value⟩ := q
    rw [familyLines]
    refine List.mem_append_right _ ?_
    rcases List.mem_cons.mp hp with rfl | hp
    · exact List.mem_append_left _ hline
    · exact List.mem_append_right _ (ih hp (key.1 :: seen))

/-- A line feed in a label of any counter or summary refuses the whole report. -/
theorem readText_render_none {m : Metrics V} {p : Key × V} (hok : KeyOk p.1) (hbroken : ¬ OneLined p.1.2)
    (hp : p ∈ m.counters ∨ p ∈ m.sums) : readText floats.toValueText (renderPrometheus floats m) = none := by
  rcases hp with hp | hp
  · refine readText_refused floats hok hbroken p.2 (List.mem_append_left _ ?_)
    exact mem_familyLines (mem_sorted.mpr hp) (List.mem_singleton.mpr rfl) []
  · have hsum : KeyOk (p.1.1 ++ "_sum", p.1.2) := ⟨metricName_append "_sum" hok.1 rfl, hok.2⟩
    refine readText_refused floats hsum hbroken p.2 (List.mem_append_right _ ?_)
    exact mem_familyLines (mem_sorted.mpr hp) List.mem_cons_self []

end LineFeeds

end AIRuntime.InProcessMetrics
