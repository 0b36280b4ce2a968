import AIRuntime.InProcessMetrics
import AIRuntime.ListPositions
import Mathlib.Data.List.Induction

set_option autoImplicit false

/-!
The round trip of `render_prometheus`: which histories of calls leave a report that the text format
reads back as the totals of the calls.
-/
namespace AIRuntime.MetricsExposition

open PrometheusText InProcessMetrics ListPositions

section Orders

section Tuples

variable {β : Type} {le : β → β → Prop} {p q r : String × β}

theorem tupleLe_total (h : ∀ a b, le a b ∨ le b a) (p q : String × β) : TupleLe le p q ∨ TupleLe le q p := by
  by_cases hpq : p.1 < q.1
  · exact .inl (.inl hpq)
  · by_cases hqp : q.1 < p.1
    · exact .inr (.inl hqp)
    · have heq : p.1 = q.1 := String.le_antisymm (String.not_lt.mp hqp) (String.not_lt.mp hpq)
      rcases h p.2 q.2 with h | h
      · exact .inl (.inr ⟨heq, h⟩)
      · exact .inr (.inr ⟨heq.symm, h⟩)

theorem tupleLe_trans (h : ∀ a b c, le a b → le b c → le a c) (hpq : TupleLe le p q) (hqr : TupleLe le q r) :
    TupleLe le p r := by
  unfold TupleLe at hpq hqr ⊢
  rcases hpq with hpq | ⟨hpq, hpq'⟩
  · rcases hqr with hqr | ⟨hqr, -⟩
    · exact .inl (String.lt_trans hpq hqr)
    · exact .inl (hqr ▸ hpq)
  · rcases hqr with hqr | ⟨hqr, hqr'⟩
    · exact .inl (hpq ▸ hqr)
    · exact .inr ⟨hpq.trans hqr, h _ _ _ hpq' hqr'⟩

theorem tupleLe_antisymm (h : ∀ a b, le a b → le b a → a = b) (hpq : TupleLe le p q) (hqp : TupleLe le q p) :
    p = q := by
  unfold TupleLe at hpq hqp
  rcases hpq with hpq | ⟨heq, hpq⟩
  · rcases hqp with hqp | ⟨heq, -⟩
    · exact absurd hqp (String.lt_asymm hpq)
    · rw [heq] at hpq
      exact absurd hpq (String.lt_irrefl _)
  · rcases hqp with hqp | ⟨-, hqp⟩
    · rw [heq] at hqp
      exact absurd hqp (String.lt_irrefl _)
    · exact Prod.ext heq (h _ _ hpq hqp)

end Tuples

theorem pairLe_total (p q : String × String) : PairLe p q ∨ PairLe q p := tupleLe_total String.le_total p q

theorem pairLe_trans {p q r : String × String} : PairLe p q → PairLe q r → PairLe p r :=
  tupleLe_trans fun _ _ _ => String.le_trans

theorem pairLe_antisymm {p q : String × String} : PairLe p q → PairLe q p → p = q :=
  tupleLe_antisymm fun _ _ => String.le_antisymm

instance : Std.Total PairLe := ⟨pairLe_total⟩

instance : IsTrans (String × String) PairLe := ⟨fun _ _ _ => pairLe_trans⟩

instance : Std.Antisymm PairLe := ⟨fun _ _ => pairLe_antisymm⟩

theorem labelsLe_total (ps qs : List (String × String)) : LabelsLe ps qs ∨ LabelsLe qs ps := by
  induction ps generalizing qs with
  | nil => exact .inl trivial
  | cons p ps ih =>
    cases qs with
    | nil => exact .inr trivial
    | cons q qs =>
      unfold LabelsLe
      by_cases heq : p = q
      · simpa only [heq, ↓reduceIte] using ih qs
      · simpa only [heq, Ne.symm heq, ↓reduceIte] using pairLe_total p q

theorem labelsLe_trans {ps qs rs : List (String × String)} (hpq : LabelsLe ps qs) (hqr : LabelsLe qs rs) :
    LabelsLe ps rs := by
  induction ps generalizing qs rs with
  | nil => trivial
  | cons p ps ih =>
    cases qs with
    | nil => exact hpq.elim
    | cons q qs =>
      cases rs with
      | nil => exact hqr.elim
      | cons r rs =>
        unfold LabelsLe at hpq hqr ⊢
        by_cases heq : p = q
        · subst heq
          by_cases hpr : p = r
          · simp only [hpr, ↓reduceIte] at hpq hqr ⊢
            exact ih hpq hqr
          · simpa only [hpr, ↓reduceIte] using hqr
        · rw [if_neg heq] at hpq
          by_cases hqr' : q = r
          · subst hqr'
            rwa [if_neg heq]
          · rw [if_neg hqr'] at hqr
            have hpr : p ≠ r := by
              rintro rfl
              exact heq (pairLe_antisymm hpq hqr)
            rw [if_neg hpr]
            exact pairLe_trans hpq hqr

/-- Two label sets are frozen to one tuple exactly when they have the same items. -/
theorem sort_eq_iff {a b : List (String × String)} :
    a.insertionSort PairLe = b.insertionSort PairLe ↔ a.Perm b := by
  constructor
  · intro h
    exact (List.perm_insertionSort PairLe a).symm.trans (h ▸ List.perm_insertionSort PairLe b)
  · intro h
    refine List.Perm.eq_of_pairwise' (List.pairwise_insertionSort PairLe a) (List.pairwise_insertionSort PairLe b) ?_
    exact ((List.perm_insertionSort PairLe a).trans h).trans (List.perm_insertionSort PairLe b).symm

theorem sort_sorted (a : List (String × String)) :
    (a.insertionSort PairLe).insertionSort PairLe = a.insertionSort PairLe :=
  sort_eq_iff.mpr (List.perm_insertionSort PairLe a)

theorem sorted_names {V : Type} (store : List (Key × V)) :
    (sorted store).Pairwise fun p q => p.1.1 ≤ q.1.1 := by
  have htotal : Std.Total fun p q : Key × V => KeyLe p.1 q.1 :=
    ⟨fun p q => tupleLe_total labelsLe_total p.1 q.1⟩
  have htrans : IsTrans (Key × V) fun p q => KeyLe p.1 q.1 :=
    ⟨fun _ _ _ => tupleLe_trans fun _ _ _ => labelsLe_trans⟩
  refine (List.pairwise_insertionSort (fun p q : Key × V => KeyLe p.1 q.1) store).imp ?_
  intro p q h
  rcases h with h | ⟨h, -⟩
  · exact String.not_lt.mp (String.lt_asymm h)
  · exact String.not_lt.mp (h ▸ String.lt_irrefl _)

end Orders

section Totals

variable {V : Type} (floats : Floats V)

/-- What `+=` makes of the values, from `0.0` on. -/
def total (values : List V) : V := values.foldl floats.add floats.zero

theorem total_append (values : List V) (v : V) :
    total floats (values ++ [v]) = floats.add (total floats values) v := by
  rw [total, List.foldl_append]
  rfl

/-- A store holds, for every key that was given values, their total. -/
structure Tallies (store : List (Key × V)) (given : Key → List V) : Prop where
  keys : (store.map Prod.fst).Nodup
  held : ∀ key value, (key, value) ∈ store ↔ given key ≠ [] ∧ value = total floats (given key)

variable {floats} {store : List (Key × V)} {given : Key → List V}

theorem Tallies.mem_keys (h : Tallies floats store given) (key : Key) :
    key ∈ store.map Prod.fst ↔ given key ≠ [] := by
  constructor
  · intro hmem
    obtain ⟨p, hp, rfl⟩ := List.mem_map.mp hmem
    exact ((h.held p.1 p.2).mp hp).1
  · intro hne
    exact List.mem_map.mpr ⟨(key, _), (h.held key _).mpr ⟨hne, rfl⟩, rfl⟩

theorem valueAt_mem {key : Key} {value : V} (hkeys : (store.map Prod.fst).Nodup) (h : (key, value) ∈ store) :
    valueAt floats key store = value := by
  induction store with
  | nil => cases h
  | cons p store ih =>
    rw [List.map_cons, List.nodup_cons] at hkeys
    rcases List.mem_cons.mp h with rfl | h
    · rw [valueAt, if_pos rfl]
    · have hne : p.1 ≠ key := fun heq => hkeys.1 (heq ▸ List.mem_map_of_mem (f := Prod.fst) h)
      rw [valueAt, if_neg hne]
      exact ih hkeys.2 h

theorem valueAt_absent {key : Key} (h : key ∉ store.map Prod.fst) : valueAt floats key store = floats.zero := by
  induction store with
  | nil => rfl
  | cons p store ih =>
    rw [List.map_cons, List.mem_cons, not_or] at h
    rw [valueAt, if_neg (Ne.symm h.1)]
    exact ih h.2

theorem Tallies.valueAt (h : Tallies floats store given) (key : Key) :
    valueAt floats key store = total floats (given key) := by
  by_cases hne : given key = []
  · rw [hne]
    exact valueAt_absent fun hmem => (h.mem_keys key).mp hmem hne
  · exact valueAt_mem h.keys ((h.held key _).mpr ⟨hne, rfl⟩)

theorem mem_bump_key {key k : Key} {amount : V} :
    k ∈ (bump floats key amount store).map Prod.fst ↔ k = key ∨ k ∈ store.map Prod.fst := by
  induction store with
  | nil => simp only [bump, List.map_cons, List.map_nil, List.mem_singleton, List.not_mem_nil, or_false]
  | cons p store ih =>
    rw [bump]
    split_ifs with heq
    · simp only [List.map_cons, List.mem_cons, heq]
      tauto
    · simp only [List.map_cons, List.mem_cons, ih]
      tauto

theorem bump_nodup {key : Key} {amount : V} (h : (store.map Prod.fst).Nodup) :
    ((bump floats key amount store).map Prod.fst).Nodup := by
  induction store with
  | nil => exact List.nodup_singleton key
  | cons p store ih =>
    rw [List.map_cons, List.nodup_cons] at h
    rw [bump]
    split_ifs with heq
    · exact List.nodup_cons.mpr h
    · refine List.nodup_cons.mpr ⟨?_, ih h.2⟩
      intro hmem
      rcases mem_bump_key.mp hmem with hmem | hmem
      · exact heq hmem
      · exact h.1 hmem

theorem mem_bump {key k : Key} {amount v : V} (h : (store.map Prod.fst).Nodup) :
    (k, v) ∈ bump floats key amount store ↔
      if k = key then v = floats.add (valueAt floats key store) amount else (k, v) ∈ store := by
  induction store with
  | nil =>
    simp only [bump, InProcessMetrics.valueAt, List.mem_singleton, List.not_mem_nil, Prod.mk.injEq]
    split_ifs with hk
    · simp only [hk, true_and]
    · simp only [hk, false_and]
  | cons p store ih =>
    obtain ⟨q, w⟩ := p
    rw [List.map_cons, List.nodup_cons] at h
    rw [bump, InProcessMetrics.valueAt]
    by_cases heq : q = key
    · subst heq
      simp only [↓reduceIte, List.mem_cons, Prod.mk.injEq]
      split_ifs with hk
      · subst hk
        have hnot : (k, v) ∉ store := fun hmem => h.1 (List.mem_map.mpr ⟨(k, v), hmem, rfl⟩)
        simp only [true_and, hnot, or_false]
      · simp only [hk, false_and, false_or]
    · simp only [heq, ↓reduceIte, List.mem_cons, Prod.mk.injEq, ih h.2]
      split_ifs with hk
      · subst hk
        simp only [Ne.symm heq, false_and, false_or]
      · rfl

theorem Tallies.bump (h : Tallies floats store given) (key : Key) (amount : V) :
    Tallies floats (bump floats key amount store) fun k => if k = key then given k ++ [amount] else given k where
  keys := bump_nodup h.keys
  held := by
    intro k v
    rw [mem_bump h.keys]
    split_ifs with hk
    · subst hk
      rw [h.valueAt, total_append]
      simp only [ne_eq, List.append_eq_nil_iff, List.cons_ne_self, and_false, not_false_eq_true, true_and]
    · exact h.held k v

end Totals

section Calls

variable {V : Type}

def amountsOf (name : String) (labels : List (String × String)) (calls : List (Call V)) : List V :=
  calls.filterMap fun
    | .increment n l amount => if n = name ∧ (labelItems l).Perm labels then some amount else none
    | .observe .. => none

def valuesOf (name : String) (labels : List (String × String)) (calls : List (Call V)) : List V :=
  calls.filterMap fun
    | .increment .. => none
    | .observe n value l => if n = name ∧ (labelItems l).Perm labels then some value else none

def keyed (f : Call V → Option (Key × V)) (key : Key) (calls : List (Call V)) : List V :=
  calls.filterMap fun c => (f c).bind fun p => if p.1 = key then some p.2 else none

def incremented : Call V → Option (Key × V)
  | .increment name labels amount => some ((name, freeze labels), amount)
  | .observe .. => none

def observed : Call V → Option (Key × V)
  | .increment .. => none
  | .observe name value labels => some ((name, freeze labels), value)

variable (floats : Floats V)

theorem keyed_append (f : Call V → Option (Key × V)) (key : Key) (calls : List (Call V)) (c : Call V) :
    keyed f key (calls ++ [c]) =
      keyed f key calls ++ ((f c).bind fun p => if p.1 = key then some p.2 else none).toList := by
  unfold keyed
  rw [List.filterMap_append]
  cases h : (f c).bind fun p => if p.1 = key then some p.2 else none <;>
    simp only [List.filterMap_cons, h, List.filterMap_nil, Option.toList]

variable {floats} {store : List (Key × V)} {f : Call V → Option (Key × V)} {calls : List (Call V)} {c : Call V}

theorem Tallies.skip (h : Tallies floats store fun key => keyed f key calls) (hc : f c = none) :
    Tallies floats store fun key => keyed f key (calls ++ [c]) := by
  have hsame : (fun key => keyed f key (calls ++ [c])) = fun key => keyed f key calls := by
    funext key
    rw [keyed_append, hc]
    exact List.append_nil _
  rwa [hsame]

theorem Tallies.add (h : Tallies floats store fun key => keyed f key calls) {key : Key} {amount : V}
    (hc : f c = some (key, amount)) :
    Tallies floats (InProcessMetrics.bump floats key amount store) fun key => keyed f key (calls ++ [c]) := by
  have hsame : (fun k => keyed f k (calls ++ [c])) =
      fun k => if k = key then keyed f k calls ++ [amount] else keyed f k calls := by
    funext k
    rw [keyed_append, hc]
    by_cases hk : k = key
    · simp only [hk, Option.bind_some, ↓reduceIte, Option.toList]
    · simp only [hk, Ne.symm hk, Option.bind_some, ↓reduceIte, Option.toList, List.append_nil]
  rw [hsame]
  exact h.bump key amount

structure Holds (floats : Floats V) (calls : List (Call V)) (m : Metrics V) : Prop where
  counters : Tallies floats m.counters fun key => keyed incremented key calls
  sums : Tallies floats m.sums fun key => keyed observed key calls
  counts : Tallies floats m.counts fun key =>
    keyed (fun c => (observed c).map fun p => (p.1, floats.one)) key calls

theorem Tallies.new : Tallies floats [] fun key => keyed f key [] where
  keys := List.nodup_nil
  held := by
    intro key value
    simp only [List.not_mem_nil, keyed, List.filterMap_nil, ne_eq, not_true_eq_false, false_and]

variable (floats) in
theorem performAll_holds (calls : List (Call V)) : Holds floats calls (performAll floats calls) := by
  induction calls using List.reverseRecOn with
  | nil => exact ⟨Tallies.new, Tallies.new, Tallies.new⟩
  | append_singleton calls c ih =>
    have hstep : performAll floats (calls ++ [c]) = (performAll floats calls).perform floats c := by
      rw [performAll, List.foldl_append]
      rfl
    rw [hstep]
    cases c with
    | increment name labels amount => exact ⟨ih.counters.add rfl, ih.sums.skip rfl, ih.counts.skip rfl⟩
    | observe name value labels => exact ⟨ih.counters.skip rfl, ih.sums.add rfl, ih.counts.add rfl⟩

theorem freeze_eq_sort_iff {labels : Option LabelMap} {items : List (String × String)} :
    freeze labels = items.insertionSort PairLe ↔ (labelItems labels).Perm items := sort_eq_iff

theorem amountsOf_eq (name : String) (labels : List (String × String)) :
    amountsOf name labels calls = keyed incremented (name, labels.insertionSort PairLe) calls := by
  unfold amountsOf keyed
  congr 1
  funext c
  cases c with
  | increment n l amount => simp only [incremented, Option.bind_some, Prod.mk.injEq, freeze_eq_sort_iff]
  | observe => rfl

theorem valuesOf_eq (name : String) (labels : List (String × String)) :
    valuesOf name labels calls = keyed observed (name, labels.insertionSort PairLe) calls := by
  unfold valuesOf keyed
  congr 1
  funext c
  cases c with
  | increment => rfl
  | observe n value l => simp only [observed, Option.bind_some, Prod.mk.injEq, freeze_eq_sort_iff]

theorem keyed_ones (key : Key) :
    keyed (fun c => (observed c).map fun p => (p.1, floats.one)) key calls =
      (keyed observed key calls).map fun _ => floats.one := by
  unfold keyed
  rw [List.map_filterMap]
  congr 1
  funext c
  cases c with
  | increment => rfl
  | observe n value l =>
    simp only [observed, Option.map_some, Option.bind_some]
    split_ifs <;> rfl

end Calls

section Statement

variable {V : Type} (floats : Floats V) (calls : List (Call V))

def samplesOf (entries : List (Entry V)) : List (Sample V) :=
  entries.filterMap fun
    | .sample s => some s
    | _ => none

def declares (name : String) : Entry V → Bool
  | .help n _ => n = name
  | .type n _ => n = name
  | .sample _ => false

def InUse (t : MetricType) (name : String) : Prop :=
  (t = .counter ∧ ∃ labels, amountsOf name labels calls ≠ []) ∨
    (t = .summary ∧ ∃ labels, valuesOf name labels calls ≠ [])

/-- The names under which a metric has samples; for a summary its own is for quantiles. -/
def sampleNames (t : MetricType) (name : String) : List String :=
  if t = .summary then [name, name ++ "_sum", name ++ "_count"] else [name]

/-- What the calls add up to under a sample's name and label set. -/
def Accumulated (name : String) (labels : List (String × String)) (value : V) : Prop :=
  (amountsOf name labels calls ≠ [] ∧ value = total floats (amountsOf name labels calls)) ∨
    ∃ metric, valuesOf metric labels calls ≠ [] ∧
      ((name = metric ++ "_sum" ∧ value = total floats (valuesOf metric labels calls)) ∨
        (name = metric ++ "_count" ∧ value = total floats ((valuesOf metric labels calls).map fun _ => floats.one)))

/-- The metric has one HELP and one TYPE line, which stand before its samples. -/
structure Declared (entries : List (Entry V)) (t : MetricType) (name : String) : Prop where
  lines : entries.filter (declares name) = [.help name (helpText name), .type name t]
  first : ∀ before s after, entries = before ++ .sample s :: after → s.name ∈ sampleNames t name →
    .help name (helpText name) ∈ before ∧ .type name t ∈ before

/-- The entries report the calls: one sample for each name and label set, with the accumulated value, and
every metric declared before its samples. -/
structure Reports (entries : List (Entry V)) : Prop where
  unique : (samplesOf entries).Pairwise fun s t => s.name = t.name → ¬ s.labels.Perm t.labels
  exact : ∀ name labels value, (∃ s ∈ samplesOf entries,
    s.name = name ∧ s.labels.Perm labels ∧ s.value = value ∧ s.timestamp = none) ↔
      Accumulated floats calls name labels value
  declared : ∀ t name, InUse calls t name → Declared entries t name

def RoundTrips : Prop :=
  ∃ entries, readText floats.toValueText (renderPrometheus floats (performAll floats calls)) = some entries ∧
    Reports floats calls entries

def Call.name : Call V → String
  | .increment name _ _ => name
  | .observe name _ _ => name

def Call.labels : Call V → List (String × String)
  | .increment _ labels _ => labelItems labels
  | .observe _ _ labels => labelItems labels

/-- The calls use valid names, and no name both for a counter and for a summary. -/
structure ValidNames : Prop where
  metric : ∀ c ∈ calls, isMetricName (Call.name c) = true
  label : ∀ c ∈ calls, ∀ l ∈ Call.labels c, isLabelName l.1 = true
  apart : ∀ name, InUse calls .counter name → ¬ InUse calls .summary name

def Apart : Prop :=
  ∀ name, InUse calls .summary name → ∀ t, ¬ InUse calls t (name ++ "_sum") ∧ ¬ InUse calls t (name ++ "_count")

end Statement

section Families

variable {V : Type} {t : MetricType} {samples : Key → V → List (Sample V)} {items : List (Key × V)}
  {seen : List String} {name : String}

theorem samples_not_declared (ss : List (Sample V)) (name : String) :
    (ss.map Entry.sample).filter (declares name) = [] := by
  apply List.filter_eq_nil_iff.mpr
  intro e he
  obtain ⟨s, _, rfl⟩ := List.mem_map.mp he
  exact Bool.false_ne_true

theorem family_declares (items : List (Key × V)) (seen : List String) (name : String) :
    (familyEntries t samples items seen).filter (declares name) =
      if name ∈ items.map (fun p => p.1.1) ∧ name ∉ seen then [.help name (helpText name), .type name t] else [] := by
  induction items generalizing seen with
  | nil => simp only [familyEntries, List.filter_nil, List.map_nil, List.not_mem_nil, false_and, ↓reduceIte]
  | cons p items ih =>
    obtain ⟨key, value⟩ := p
    rw [familyEntries, List.filter_append, List.filter_append, samples_not_declared, ih (key.1 :: seen),
      List.nil_append]
    by_cases hname : name = key.1
    · subst hname
      by_cases hseen : key.1 ∈ seen
      · simp [hseen]
      · simp [hseen, declares]
    · have hother : (if key.1 ∈ seen then [] else
          [.help key.1 (helpText key.1), .type key.1 t] : List (Entry V)).filter (declares name) = [] := by
        split_ifs
        · rfl
        · simp only [declares, Ne.symm hname, decide_false, List.filter_cons_of_neg, Bool.false_eq_true,
            not_false_eq_true, List.filter_nil]
      rw [hother, List.nil_append]
      simp only [List.map_cons, List.mem_cons, hname, false_or]

theorem mem_help {text : String} (h : .help name text ∈ familyEntries t samples items seen) :
    name ∈ items.map fun p => p.1.1 := by
  have hmem : Entry.help name text ∈ (familyEntries t samples items seen).filter (declares name) :=
    List.mem_filter.mpr ⟨h, decide_eq_true rfl⟩
  rw [family_declares] at hmem
  split_ifs at hmem with hin
  · exact hin.1
  · cases hmem

/-- A sample of a loop stands behind the lines that declare its name. -/
theorem family_first {before after : List (Entry V)} {s : Sample V}
    (h : familyEntries t samples items seen = before ++ .sample s :: after) :
    ∃ p ∈ items, s ∈ samples p.1 p.2 ∧
      (p.1.1 ∉ seen → .help p.1.1 (helpText p.1.1) ∈ before ∧ .type p.1.1 t ∈ before) := by
  induction items generalizing seen before with
  | nil => cases before <;> cases h
  | cons p items ih =>
    obtain ⟨key, value⟩ := p
    rw [familyEntries] at h
    rcases append_eq_middle h with ⟨more, hmore⟩ | ⟨more, hbefore, hrest⟩
    · -- the declaring lines are no samples
      have hmem : Entry.sample s ∈ (if key.1 ∈ seen then [] else
          [.help key.1 (helpText key.1), .type key.1 t] : List (Entry V)) := by
        rw [hmore]
        exact List.mem_append_right _ List.mem_cons_self
      split_ifs at hmem
      · cases hmem
      · rcases List.mem_cons.mp hmem with hmem | hmem
        · cases hmem
        · cases List.mem_singleton.mp hmem
    · have hdeclared : key.1 ∉ seen → .help key.1 (helpText key.1) ∈ before ∧ .type key.1 t ∈ before := by
        intro hseen
        rw [hbefore, if_neg hseen]
        exact ⟨List.mem_cons_self, List.mem_cons_of_mem _ List.mem_cons_self⟩
      rcases append_eq_middle hrest with ⟨more', hsamples⟩ | ⟨more', hmore, hitems⟩
      · refine ⟨(key, value), List.mem_cons_self, ?_, hdeclared⟩
        have hmem : Entry.sample s ∈ (samples key value).map Entry.sample := by
          rw [hsamples]
          exact List.mem_append_right _ List.mem_cons_self
        obtain ⟨s', hs', heq⟩ := List.mem_map.mp hmem
        cases heq
        exact hs'
      · obtain ⟨p, hp, hs, hfirst⟩ := ih hitems
        refine ⟨p, List.mem_cons_of_mem _ hp, hs, fun hseen => ?_⟩
        by_cases hkey : p.1.1 = key.1
        · rw [hkey]
          exact hdeclared (hkey ▸ hseen)
        · obtain ⟨hhelp, htype⟩ := hfirst fun hin => by
            rcases List.mem_cons.mp hin with hin | hin
            · exact hkey hin
            · exact hseen hin
          rw [hbefore, hmore]
          exact ⟨List.mem_append_right _ (List.mem_append_right _ hhelp),
            List.mem_append_right _ (List.mem_append_right _ htype)⟩

theorem family_samples (items : List (Key × V)) (seen : List String) :
    samplesOf (familyEntries t samples items seen) = items.flatMap fun p => samples p.1 p.2 := by
  have hall : ∀ ss : List (Sample V), samplesOf (ss.map Entry.sample) = ss := by
    intro ss
    unfold samplesOf
    rw [List.filterMap_map]
    exact List.filterMap_some
  induction items generalizing seen with
  | nil => rfl
  | cons p items ih =>
    obtain ⟨key, value⟩ := p
    have hnone : samplesOf (if key.1 ∈ seen then [] else
        [.help key.1 (helpText key.1), .type key.1 t] : List (Entry V)) = [] := by
      split_ifs <;> rfl
    unfold samplesOf at hall hnone ih ⊢
    rw [familyEntries, List.filterMap_append, List.filterMap_append, hnone, hall, ih, List.nil_append,
      List.flatMap_cons]

theorem family_append (first last : List (Key × V)) (seen : List String) :
    ∃ seen', familyEntries t samples (first ++ last) seen =
      familyEntries t samples first seen ++ familyEntries t samples last seen' := by
  induction first generalizing seen with
  | nil => exact ⟨seen, rfl⟩
  | cons p first ih =>
    obtain ⟨key, value⟩ := p
    obtain ⟨seen', h⟩ := ih (key.1 :: seen)
    exact ⟨seen', by simp only [List.cons_append, familyEntries, h, List.append_assoc]⟩

end Families

section Stores

variable {V : Type} {floats : Floats V} {calls : List (Call V)}

def keyOf (c : Call V) : Key := (Call.name c, (Call.labels c).insertionSort PairLe)

theorem incremented_key {c : Call V} {key : Key} {v : V} (h : incremented c = some (key, v)) : key = keyOf c := by
  cases c with
  | increment name labels amount =>
    cases h
    rfl
  | observe => cases h

theorem observed_key {c : Call V} {key : Key} {v : V} (h : observed c = some (key, v)) : key = keyOf c := by
  cases c with
  | increment => cases h
  | observe name value labels =>
    cases h
    rfl

theorem keyed_call {f : Call V → Option (Key × V)} {key : Key} (h : keyed f key calls ≠ []) :
    ∃ c ∈ calls, ∃ v, f c = some (key, v) := by
  obtain ⟨v, hv⟩ := List.exists_mem_of_ne_nil _ h
  obtain ⟨c, hc, hbind⟩ := List.mem_filterMap.mp hv
  obtain ⟨p, hp, hif⟩ := Option.bind_eq_some_iff.mp hbind
  split_ifs at hif with hkey
  refine ⟨c, hc, p.2, ?_⟩
  rw [hp, ← hkey]

theorem keyed_ne_nil {f : Call V → Option (Key × V)} {c : Call V} (hc : c ∈ calls) {key : Key} {v : V}
    (h : f c = some (key, v)) : keyed f key calls ≠ [] := by
  refine List.ne_nil_of_mem (a := v) (List.mem_filterMap.mpr ⟨c, hc, ?_⟩)
  simp only [h, Option.bind_some, ↓reduceIte]

theorem key_perm {c : Call V} {labels : List (String × String)} (h : (keyOf c).2.Perm labels) :
    labels.insertionSort PairLe = (keyOf c).2 := by
  have hsort := sort_eq_iff.mpr h
  rwa [keyOf, sort_sorted, eq_comm] at hsort

variable (floats calls)

structure Kept (store : List (Key × V)) (f : Call V → Option (Key × V))
    (given : String → List (String × String) → List V) : Prop where
  tallies : Tallies floats store fun key => keyed f key calls
  own : ∀ c key v, f c = some (key, v) → key = keyOf c
  seen : ∀ name labels, given name labels = keyed f (name, labels.insertionSort PairLe) calls

variable {floats calls} {store : List (Key × V)} {f : Call V → Option (Key × V)}
  {given : String → List (String × String) → List V}

theorem Kept.key (h : Kept floats calls store f given) {p : Key × V} (hp : p ∈ store) :
    ∃ c ∈ calls, p.1 = keyOf c ∧ given p.1.1 p.1.2 ≠ [] := by
  have hne := ((h.tallies.held p.1 p.2).mp hp).1
  obtain ⟨c, hc, v, hv⟩ := keyed_call hne
  have hkey := h.own c p.1 v hv
  refine ⟨c, hc, hkey, ?_⟩
  have hsort : p.1.2.insertionSort PairLe = p.1.2 := by
    rw [hkey]
    exact sort_sorted _
  rw [h.seen, hsort]
  exact hne

theorem Kept.held (h : Kept floats calls store f given) {name : String} {labels : List (String × String)}
    (hne : given name labels ≠ []) :
    ((name, labels.insertionSort PairLe), total floats (given name labels)) ∈ store := by
  rw [h.seen] at hne ⊢
  exact (h.tallies.held _ _).mpr ⟨hne, rfl⟩

theorem Kept.value (h : Kept floats calls store f given) {p : Key × V} (hp : p ∈ store)
    {labels : List (String × String)} (hlabels : p.1.2.Perm labels) :
    (p.1.1, labels.insertionSort PairLe) = p.1 ∧ given p.1.1 labels ≠ [] ∧ p.2 = total floats (given p.1.1 labels) := by
  obtain ⟨c, _, hkey, _⟩ := h.key hp
  rw [hkey] at hlabels
  have hsame : (p.1.1, labels.insertionSort PairLe) = p.1 := by rw [key_perm hlabels, hkey]
  rw [h.seen, hsame]
  exact ⟨rfl, (h.tallies.held p.1 p.2).mp hp⟩

theorem Kept.names (h : Kept floats calls store f given) (name : String) :
    (∃ labels, given name labels ≠ []) ↔ name ∈ (sorted store).map fun p => p.1.1 := by
  constructor
  · intro hused
    obtain ⟨labels, hne⟩ := hused
    exact List.mem_map.mpr ⟨_, mem_sorted.mpr (h.held hne), rfl⟩
  · intro hmem
    obtain ⟨p, hp, rfl⟩ := List.mem_map.mp hmem
    obtain ⟨c, _, _, hne⟩ := h.key (mem_sorted.mp hp)
    exact ⟨_, hne⟩

variable (floats calls)

theorem counters_kept : Kept floats calls (performAll floats calls).counters incremented
    fun name labels => amountsOf name labels calls where
  tallies := (performAll_holds floats calls).counters
  own := fun _ _ _ => incremented_key
  seen := amountsOf_eq

theorem sums_kept : Kept floats calls (performAll floats calls).sums observed
    fun name labels => valuesOf name labels calls where
  tallies := (performAll_holds floats calls).sums
  own := fun _ _ _ => observed_key
  seen := valuesOf_eq

theorem count_held (name : String) (labels : List (String × String)) :
    valueAt floats (name, labels.insertionSort PairLe) (performAll floats calls).counts =
      total floats ((valuesOf name labels calls).map fun _ => floats.one) := by
  rw [(performAll_holds floats calls).counts.valueAt, keyed_ones, valuesOf_eq]

theorem counter_names (name : String) :
    InUse calls .counter name ↔ name ∈ (sorted (performAll floats calls).counters).map fun p => p.1.1 := by
  rw [← (counters_kept floats calls).names]
  simp [InUse]

theorem summary_names (name : String) :
    InUse calls .summary name ↔ name ∈ (sorted (performAll floats calls).sums).map fun p => p.1.1 := by
  rw [← (sums_kept floats calls).names]
  simp [InUse]

variable {calls}

theorem keyOf_ok (h : ValidNames calls) {c : Call V} (hc : c ∈ calls) : KeyOk (keyOf c) :=
  ⟨h.metric c hc, fun l hl => h.label c hc l ((List.mem_insertionSort PairLe).mp hl)⟩

theorem keyOf_oneLined {c : Call V} : OneLined (keyOf c).2 ↔ OneLined (Call.labels c) := by
  unfold OneLined keyOf
  simp only [List.mem_insertionSort]

theorem keyOf_held {c : Call V} (hc : c ∈ calls) :
    ∃ p, p.1 = keyOf c ∧ (p ∈ (performAll floats calls).counters ∨ p ∈ (performAll floats calls).sums) := by
  have hholds := performAll_holds floats calls
  cases c with
  | increment name labels amount =>
    have hne : keyed incremented (name, freeze labels) calls ≠ [] := keyed_ne_nil hc rfl
    exact ⟨_, rfl, .inl ((hholds.counters.held _ _).mpr ⟨hne, rfl⟩)⟩
  | observe name value labels =>
    have hne : keyed observed (name, freeze labels) calls ≠ [] := keyed_ne_nil hc rfl
    exact ⟨_, rfl, .inr ((hholds.sums.held _ _).mpr ⟨hne, rfl⟩)⟩

theorem readText_whole (h : ValidNames calls) (hone : ∀ c ∈ calls, OneLined (Call.labels c)) :
    readText floats.toValueText (renderPrometheus floats (performAll floats calls)) =
      some (entriesOf floats (performAll floats calls)) := by
  apply readText_render
  · intro p hp
    obtain ⟨c, hc, hkey, -⟩ := (counters_kept floats calls).key hp
    rw [hkey]
    exact ⟨keyOf_ok h hc, keyOf_oneLined.mpr (hone c hc)⟩
  · intro p hp
    obtain ⟨c, hc, hkey, -⟩ := (sums_kept floats calls).key hp
    rw [hkey]
    exact ⟨keyOf_ok h hc, keyOf_oneLined.mpr (hone c hc)⟩

theorem readText_broken (h : ValidNames calls) {c : Call V} (hc : c ∈ calls) (hbroken : ¬ OneLined (Call.labels c)) :
    readText floats.toValueText (renderPrometheus floats (performAll floats calls)) = none := by
  obtain ⟨p, hkey, hp⟩ := keyOf_held floats hc
  refine readText_render_none floats (p := p) ?_ ?_ hp
  · rw [hkey]
    exact keyOf_ok h hc
  · rw [hkey]
    exact fun hone => hbroken (keyOf_oneLined.mp hone)

end Stores

section Meeting

variable {V : Type} {floats : Floats V} {calls : List (Call V)}

theorem sum_ne_count (a b : String) : a ++ "_sum" ≠ b ++ "_count" := by
  intro h
  have hlast := congrArg (fun s => s.toList.getLast?) h
  simp only [String.toList_append] at hlast
  rw [List.getLast?_append_of_ne_nil _ (by decide), List.getLast?_append_of_ne_nil _ (by decide)] at hlast
  exact absurd hlast (by decide)

theorem append_left_inj {a b suffix : String} (h : a ++ suffix = b ++ suffix) : a = b := by
  have hchars := congrArg String.toList h
  rw [String.toList_append, String.toList_append] at hchars
  exact String.toList_injective (List.append_cancel_right hchars)

theorem lt_append {name suffix : String} {c : Char} {t : List Char} (h : suffix.toList = c :: t) :
    name < name ++ suffix := by
  change name.toList < (name ++ suffix).toList
  have hlt : ([] : List Char) < c :: t := List.nil_lt_cons c t
  have happend : name.toList ++ [] < name.toList ++ c :: t := List.append_left_lt hlt
  rwa [List.append_nil, ← h, ← String.toList_append] at happend

theorem entries_samples (m : Metrics V) :
    samplesOf (entriesOf floats m) = (sorted m.counters).flatMap (fun p => counterSamples p.1 p.2) ++
      (sorted m.sums).flatMap fun p => summarySamples floats m.counts p.1 p.2 := by
  have happend : ∀ es fs : List (Entry V), samplesOf (es ++ fs) = samplesOf es ++ samplesOf fs := by
    intro es fs
    exact List.filterMap_append
  rw [entriesOf, happend, family_samples, family_samples]

theorem keys_pairwise {store : List (Key × V)} (h : (store.map Prod.fst).Nodup) :
    (sorted store).Pairwise fun p q => p.1 ≠ q.1 := by
  have hperm : (sorted store).Perm store := List.perm_insertionSort _ store
  exact List.pairwise_map.mp (((hperm.map Prod.fst).nodup_iff).mpr h)

theorem frozen_eq {c d : Call V} (h : (keyOf c).2.Perm (keyOf d).2) : (keyOf c).2 = (keyOf d).2 := by
  have hsort := sort_eq_iff.mpr h
  rwa [keyOf, keyOf, sort_sorted, sort_sorted] at hsort

variable (floats calls)

theorem summary_value {p : Key × V} (hp : p ∈ (performAll floats calls).sums) {labels : List (String × String)}
    (hlabels : p.1.2.Perm labels) :
    valuesOf p.1.1 labels calls ≠ [] ∧ p.2 = total floats (valuesOf p.1.1 labels calls) ∧
      valueAt floats p.1 (performAll floats calls).counts =
        total floats ((valuesOf p.1.1 labels calls).map fun _ => floats.one) := by
  obtain ⟨hsame, hne, hvalue⟩ := (sums_kept floats calls).value hp hlabels
  have hcount := count_held floats calls p.1.1 labels
  rw [hsame] at hcount
  exact ⟨hne, hvalue, hcount⟩

theorem counter_inUse {p : Key × V} (hp : p ∈ sorted (performAll floats calls).counters) :
    InUse calls .counter p.1.1 :=
  (counter_names floats calls p.1.1).mpr (List.mem_map.mpr ⟨p, hp, rfl⟩)

theorem summary_inUse {p : Key × V} (hp : p ∈ sorted (performAll floats calls).sums) :
    InUse calls .summary p.1.1 :=
  (summary_names floats calls p.1.1).mpr (List.mem_map.mpr ⟨p, hp, rfl⟩)

theorem summarySamples_name {counts : List (Key × V)} {p : Key × V} {s : Sample V}
    (hs : s ∈ summarySamples floats counts p.1 p.2) :
    (s.name = p.1.1 ++ "_sum" ∨ s.name = p.1.1 ++ "_count") ∧ s.labels = p.1.2 := by
  rcases List.mem_cons.mp hs with rfl | hs
  · exact ⟨.inl rfl, rfl⟩
  · rw [List.mem_singleton.mp hs]
    exact ⟨.inr rfl, rfl⟩

theorem entries_unique (hapart : Apart calls) :
    (samplesOf (entriesOf floats (performAll floats calls))).Pairwise
      fun s t => s.name = t.name → ¬ s.labels.Perm t.labels := by
  have hholds := performAll_holds floats calls
  rw [entries_samples]
  refine List.pairwise_append.mpr ⟨List.pairwise_flatMap.mpr ⟨?_, ?_⟩, List.pairwise_flatMap.mpr ⟨?_, ?_⟩, ?_⟩
  · intro p _
    exact List.pairwise_singleton _ _
  · refine (keys_pairwise hholds.counters.keys).imp_of_mem ?_
    intro p q hp hq hne s hs t ht hname hperm
    rw [List.mem_singleton.mp hs, List.mem_singleton.mp ht] at hname hperm
    obtain ⟨c, _, hc, _⟩ := (counters_kept floats calls).key (mem_sorted.mp hp)
    obtain ⟨d, _, hd, _⟩ := (counters_kept floats calls).key (mem_sorted.mp hq)
    refine hne (Prod.ext hname ?_)
    change p.1.2.Perm q.1.2 at hperm
    rw [hc, hd] at hperm ⊢
    exact frozen_eq hperm
  · intro p _
    refine List.pairwise_cons.mpr ⟨?_, List.pairwise_singleton _ _⟩
    intro t ht hname
    rw [List.mem_singleton.mp ht] at hname
    exact absurd hname (sum_ne_count _ _)
  · refine (keys_pairwise hholds.sums.keys).imp_of_mem ?_
    intro p q hp hq hne s hs t ht hname hperm
    obtain ⟨hsname, hslabels⟩ := summarySamples_name floats hs
    obtain ⟨htname, htlabels⟩ := summarySamples_name floats ht
    obtain ⟨c, _, hc, _⟩ := (sums_kept floats calls).key (mem_sorted.mp hp)
    obtain ⟨d, _, hd, _⟩ := (sums_kept floats calls).key (mem_sorted.mp hq)
    have hnames : p.1.1 = q.1.1 := by
      rcases hsname with hs' | hs' <;> rcases htname with ht' | ht' <;> rw [hs', ht'] at hname
      · exact append_left_inj hname
      · exact absurd hname (sum_ne_count _ _)
      · exact absurd hname.symm (sum_ne_count _ _)
      · exact append_left_inj hname
    refine hne (Prod.ext hnames ?_)
    rw [hslabels, htlabels, hc, hd] at hperm
    rw [hc, hd]
    exact frozen_eq hperm
  · intro s hs t ht hname
    obtain ⟨p, hp, hs⟩ := List.mem_flatMap.mp hs
    obtain ⟨q, hq, ht⟩ := List.mem_flatMap.mp ht
    have huse := counter_inUse floats calls hp
    have hclash := hapart q.1.1 (summary_inUse floats calls hq) .counter
    rw [List.mem_singleton.mp hs] at hname
    change p.1.1 = t.name at hname
    rcases (summarySamples_name floats ht).1 with ht' | ht'
    · rw [hname, ht'] at huse
      exact absurd huse hclash.1
    · rw [hname, ht'] at huse
      exact absurd huse hclash.2

theorem entries_exact (name : String) (labels : List (String × String)) (value : V) :
    (∃ s ∈ samplesOf (entriesOf floats (performAll floats calls)),
      s.name = name ∧ s.labels.Perm labels ∧ s.value = value ∧ s.timestamp = none) ↔
      Accumulated floats calls name labels value := by
  rw [entries_samples]
  simp only [List.mem_append, List.mem_flatMap]
  constructor
  · rintro ⟨s, ⟨p, hp, hs⟩ | ⟨p, hp, hs⟩, rfl, hlabels, rfl, -⟩
    · rw [List.mem_singleton.mp hs] at hlabels ⊢
      exact .inl ((counters_kept floats calls).value (mem_sorted.mp hp) hlabels).2
    · have hsame := (summarySamples_name floats hs).2
      rw [hsame] at hlabels
      obtain ⟨hne, hsum, hcount⟩ := summary_value floats calls (mem_sorted.mp hp) hlabels
      refine .inr ⟨p.1.1, hne, ?_⟩
      rcases List.mem_cons.mp hs with rfl | hs
      · exact .inl ⟨rfl, hsum⟩
      · rw [List.mem_singleton.mp hs]
        exact .inr ⟨rfl, hcount⟩
  · have hperm := List.perm_insertionSort PairLe labels
    rintro (⟨hne, rfl⟩ | ⟨metric, hne, ⟨rfl, rfl⟩ | ⟨rfl, rfl⟩⟩)
    · exact ⟨_, .inl ⟨_, mem_sorted.mpr ((counters_kept floats calls).held hne), List.mem_singleton.mpr rfl⟩, rfl, hperm,
        rfl, rfl⟩
    · exact ⟨_, .inr ⟨_, mem_sorted.mpr ((sums_kept floats calls).held hne), List.mem_cons_self⟩, rfl, hperm, rfl, rfl⟩
    · refine ⟨_, .inr ⟨_, mem_sorted.mpr ((sums_kept floats calls).held hne), List.mem_cons_of_mem _ List.mem_cons_self⟩,
        rfl, hperm, ?_, rfl⟩
      exact count_held floats calls metric labels

variable {calls}

theorem entries_lines (h : ValidNames calls) {t : MetricType} {name : String} (huse : InUse calls t name) :
    (entriesOf floats (performAll floats calls)).filter (declares name) =
      [.help name (helpText name), .type name t] := by
  have hcounter := counter_names floats calls name
  have hsummary := summary_names floats calls name
  rw [entriesOf, List.filter_append, family_declares, family_declares]
  simp only [List.not_mem_nil, not_false_eq_true, and_true]
  rcases id huse with ⟨rfl, -⟩ | ⟨rfl, -⟩
  · rw [if_pos (hcounter.mp huse), if_neg fun hin => h.apart name huse (hsummary.mpr hin), List.append_nil]
  · rw [if_neg fun hin => h.apart name (hcounter.mpr hin) huse, if_pos (hsummary.mp huse), List.nil_append]

theorem entries_first (h : ValidNames calls) (hapart : Apart calls) {t : MetricType} {name : String}
    (huse : InUse calls t name) (before : List (Entry V)) (s : Sample V) (after : List (Entry V))
    (hsplit : entriesOf floats (performAll floats calls) = before ++ .sample s :: after)
    (hname : s.name ∈ sampleNames t name) :
    .help name (helpText name) ∈ before ∧ .type name t ∈ before := by
  rw [entriesOf] at hsplit
  rcases append_eq_middle hsplit with ⟨more, hcounters⟩ | ⟨more, hbefore, hsums⟩
  · obtain ⟨p, hp, hs, hfirst⟩ := family_first hcounters
    have hcounter := counter_inUse floats calls hp
    rw [List.mem_singleton.mp hs] at hname
    change p.1.1 ∈ sampleNames t name at hname
    rcases id huse with ⟨rfl, -⟩ | ⟨rfl, -⟩
    · rw [List.mem_singleton.mp hname] at hcounter hfirst
      exact hfirst List.not_mem_nil
    · -- a counter named as a sample of the summary
      exfalso
      have hclash := hapart name huse .counter
      simp only [sampleNames, ↓reduceIte, List.mem_cons, List.not_mem_nil, or_false] at hname
      rcases hname with hname | hname | hname <;> rw [hname] at hcounter
      · exact h.apart name hcounter huse
      · exact hclash.1 hcounter
      · exact hclash.2 hcounter
  · obtain ⟨p, hp, hs, hfirst⟩ := family_first hsums
    have hsummary := summary_inUse floats calls hp
    have hclash := hapart p.1.1 hsummary t
    have hown := (summarySamples_name floats hs).1
    rcases id huse with ⟨rfl, -⟩ | ⟨rfl, -⟩
    · exfalso
      rw [List.mem_singleton.mp hname] at hown
      rcases hown with hown | hown <;> rw [hown] at huse
      · exact hclash.1 huse
      · exact hclash.2 huse
    · have hsame : p.1.1 = name := by
        simp only [sampleNames, ↓reduceIte, List.mem_cons, List.not_mem_nil, or_false] at hname
        rcases hown with hown | hown <;> rw [hown] at hname <;> rcases hname with hname | hname | hname
        · exact absurd (hname ▸ huse) hclash.1
        · exact append_left_inj hname
        · exact absurd hname (sum_ne_count _ _)
        · exact absurd (hname ▸ huse) hclash.2
        · exact absurd hname.symm (sum_ne_count _ _)
        · exact append_left_inj hname
      rw [hsame] at hfirst
      obtain ⟨hhelp, htype⟩ := hfirst List.not_mem_nil
      rw [hbefore]
      exact ⟨List.mem_append_right _ hhelp, List.mem_append_right _ htype⟩

theorem reports_of_apart (h : ValidNames calls) (hapart : Apart calls) :
    Reports floats calls (entriesOf floats (performAll floats calls)) where
  unique := entries_unique floats calls hapart
  exact := entries_exact floats calls
  declared := fun _ _ huse => ⟨entries_lines floats h huse, entries_first floats h hapart huse⟩

theorem mem_samples {entries : List (Entry V)} {s : Sample V} (h : s ∈ samplesOf entries) : .sample s ∈ entries := by
  obtain ⟨e, he, hs⟩ := List.mem_filterMap.mp h
  cases e with
  | sample s' =>
    cases hs
    exact he
  | help => cases hs
  | type => cases hs

variable {t : MetricType} {name clash : String}
  (hreports : Reports floats calls (entriesOf floats (performAll floats calls)))

include hreports

/-- A counter named as a sample of a summary has its samples before the summary is declared. -/
theorem counter_clash_breaks (h : ValidNames calls) (hclash : clash ∈ sampleNames .summary name)
    (hsummary : InUse calls .summary name) (huse : InUse calls .counter clash) : False := by
  obtain ⟨p, hp, rfl⟩ := List.mem_map.mp ((counter_names floats calls clash).mp huse)
  have hin : (⟨p.1.1, p.1.2, p.2, none⟩ : Sample V) ∈
      samplesOf (familyEntries .counter counterSamples (sorted (performAll floats calls).counters) []) := by
    rw [family_samples]
    exact List.mem_flatMap.mpr ⟨p, hp, List.mem_singleton.mpr rfl⟩
  obtain ⟨before, after, hsplit⟩ := List.append_of_mem (mem_samples hin)
  have hwhole : entriesOf floats (performAll floats calls) = before ++ .sample ⟨p.1.1, p.1.2, p.2, none⟩ ::
      (after ++ familyEntries .summary (summarySamples floats (performAll floats calls).counts)
        (sorted (performAll floats calls).sums) []) := by
    rw [entriesOf, hsplit, List.append_assoc, List.cons_append]
  have hhelp := ((hreports.declared .summary name hsummary).first _ _ _ hwhole hclash).1
  have hcounter : .help name (helpText name) ∈
      familyEntries .counter counterSamples (sorted (performAll floats calls).counters) [] := by
    rw [hsplit]
    exact List.mem_append_left _ hhelp
  exact h.apart name ((counter_names floats calls name).mpr (mem_help hcounter)) hsummary

/-- A summary named as a sample of another one is declared after that sample. -/
theorem summary_clash_breaks (h : ValidNames calls) (hlt : name < clash)
    (hclash : clash = name ++ "_sum" ∨ clash = name ++ "_count") (hsummary : InUse calls .summary name)
    (huse : InUse calls .summary clash) : False := by
  obtain ⟨p, hp, rfl⟩ := List.mem_map.mp ((summary_names floats calls name).mp hsummary)
  obtain ⟨first, last, hsorted⟩ := List.append_of_mem hp
  obtain ⟨s, hs, hname⟩ : ∃ s ∈ summarySamples floats (performAll floats calls).counts p.1 p.2, s.name = clash := by
    rcases hclash with rfl | rfl
    · exact ⟨_, List.mem_cons_self, rfl⟩
    · exact ⟨_, List.mem_cons_of_mem _ List.mem_cons_self, rfl⟩
  obtain ⟨pre, post, hsamples⟩ := List.append_of_mem hs
  obtain ⟨seen, hfamily⟩ := @family_append V .summary (summarySamples floats (performAll floats calls).counts) first
    (p :: last) []
  have hnames := sorted_names (performAll floats calls).sums
  rw [hsorted, List.pairwise_append] at hnames
  -- the sample stands behind the counters, the summaries before `p`, and the lines and samples of `p` before it
  obtain ⟨before, after, hwhole, hbefore⟩ : ∃ before after,
      entriesOf floats (performAll floats calls) = before ++ .sample s :: after ∧
        ∀ text, .help clash text ∈ before → InUse calls .counter clash ∨
          (clash ∈ first.map fun q => q.1.1) ∨ clash = p.1.1 := by
    refine ⟨familyEntries .counter counterSamples (sorted (performAll floats calls).counters) [] ++
      (familyEntries .summary (summarySamples floats (performAll floats calls).counts) first [] ++
        ((if p.1.1 ∈ seen then [] else [.help p.1.1 (helpText p.1.1), .type p.1.1 .summary]) ++ pre.map .sample)),
      post.map .sample ++ familyEntries .summary (summarySamples floats (performAll floats calls).counts) last
        (p.1.1 :: seen), ?_, ?_⟩
    · rw [entriesOf, hsorted, hfamily, familyEntries, hsamples]
      simp only [List.map_append, List.map_cons, List.append_assoc, List.cons_append]
    · intro text hmem
      rcases List.mem_append.mp hmem with hmem | hmem
      · exact .inl ((counter_names floats calls clash).mpr (mem_help hmem))
      · rcases List.mem_append.mp hmem with hmem | hmem
        · exact .inr (.inl (mem_help hmem))
        · rcases List.mem_append.mp hmem with hmem | hmem
          · split_ifs at hmem
            · cases hmem
            · rcases List.mem_cons.mp hmem with hmem | hmem
              · cases hmem
                exact .inr (.inr rfl)
              · cases List.mem_singleton.mp hmem
          · obtain ⟨_, _, heq⟩ := List.mem_map.mp hmem
            cases heq
  have hhelp := ((hreports.declared .summary clash huse).first before s after hwhole
    (hname ▸ List.mem_cons_self)).1
  rcases hbefore _ hhelp with hcounter | hearlier | hsame
  · exact h.apart clash hcounter huse
  · obtain ⟨q, hq, hqclash⟩ := List.mem_map.mp hearlier
    have hle := hnames.2.2 q hq p List.mem_cons_self
    rw [hqclash] at hle
    exact String.not_lt.mpr hle hlt
  · rw [hsame] at hlt
    exact String.lt_irrefl _ hlt

theorem apart_of_reports (h : ValidNames calls) : Apart calls := by
  intro name hsummary t
  have hbreaks : ∀ clash, clash = name ++ "_sum" ∨ clash = name ++ "_count" → name < clash → ¬ InUse calls t clash := by
    intro clash hclash hlt huse
    rcases id huse with ⟨rfl, -⟩ | ⟨rfl, -⟩
    · refine counter_clash_breaks floats hreports h ?_ hsummary huse
      rcases hclash with rfl | rfl
      · exact List.mem_cons_of_mem _ List.mem_cons_self
      · exact List.mem_cons_of_mem _ (List.mem_cons_of_mem _ List.mem_cons_self)
    · exact summary_clash_breaks floats hreports h hlt hclash hsummary huse
  exact ⟨hbreaks _ (.inl rfl) (lt_append rfl), hbreaks _ (.inr rfl) (lt_append rfl)⟩

omit hreports

/-- The report is read back as the totals of the calls exactly when no label value holds a line feed and no
metric is named as a sample of a summary. -/
theorem exposition_round_trips_iff (h : ValidNames calls) :
    RoundTrips floats calls ↔ (∀ c ∈ calls, OneLined (Call.labels c)) ∧ Apart calls := by
  constructor
  · rintro ⟨entries, hread, hreports⟩
    have hone : ∀ c ∈ calls, OneLined (Call.labels c) := by
      intro c hc
      by_contra hbroken
      rw [readText_broken floats h hc hbroken] at hread
      cases hread
    rw [readText_whole floats h hone] at hread
    cases hread
    exact ⟨hone, apart_of_reports floats hreports h⟩
  · rintro ⟨hone, hapart⟩
    exact ⟨_, readText_whole floats h hone, reports_of_apart floats h hapart⟩

end Meeting

section Samples

def writeWhole (n : ℕ) : String := String.ofList (Nat.toDigits 10 n ++ ['.', '0'])

def readWhole (text : String) : Option ℕ :=
  if text.toList.dropWhile Char.isDigit = ['.', '0'] then
    some (Nat.ofDigitChars 10 (text.toList.takeWhile Char.isDigit) 0)
  else none

theorem digits_isDigit (n : ℕ) : ∀ c ∈ Nat.toDigits 10 n, c.isDigit = true := by
  intro c hc
  exact Nat.isDigit_of_mem_toDigits (by omega) (by omega) hc

theorem readWhole_write (n : ℕ) : readWhole (writeWhole n) = some n := by
  unfold readWhole writeWhole
  rw [String.toList_ofList, List.dropWhile_append_of_pos (digits_isDigit n),
    List.takeWhile_append_of_pos (digits_isDigit n)]
  change some (Nat.ofDigitChars 10 (Nat.toDigits 10 n ++ []) 0) = some n
  rw [List.append_nil, Nat.ofDigitChars_ten_toDigits]

theorem writeWhole_solid (n : ℕ) :
    ∀ c ∈ (writeWhole n).toList, c ≠ ' ' ∧ c ≠ '\t' ∧ c ≠ '\n' ∧ c ≠ '\x7b' := by
  intro c hc
  rw [writeWhole, String.toList_ofList, List.mem_append] at hc
  rcases hc with hc | hc
  · have hdigit := digits_isDigit n c hc
    refine ⟨?_, ?_, ?_, ?_⟩ <;> (rintro rfl; cases hdigit)
  · have hpoint : ".0".toList.all (fun c => c != ' ' && (c != '\t' && (c != '\n' && c != '\x7b'))) = true := by decide
    simpa using List.all_eq_true.mp hpoint c hc

theorem writeWhole_nonempty (n : ℕ) : writeWhole n ≠ "" := by
  intro h
  have hchars := congrArg String.toList h
  rw [writeWhole, String.toList_ofList] at hchars
  exact absurd (List.append_eq_nil_iff.mp hchars).2 (List.cons_ne_nil _ _)

def wholeFloats : Floats ℕ where
  write := writeWhole
  read := readWhole
  read_write := readWhole_write
  nonempty := writeWhole_nonempty
  solid := writeWhole_solid
  zero := 0
  one := 1
  add := (· + ·)

theorem counterKeys_nodup : ["method", "path", "status"].Nodup := by decide

theorem durationKeys_nodup : ["method", "path"].Nodup := by decide

/-- What `log_request_completed` reports of one request that took a second. -/
def requestCalls (path : String) : List (Call ℕ) :=
  [.increment "http_requests_total"
      (some ⟨[("method", "GET"), ("path", path), ("status", "200")], counterKeys_nodup⟩) 1,
    .observe "http_request_duration_seconds" 1 (some ⟨[("method", "GET"), ("path", path)], durationKeys_nodup⟩)]

theorem requestCalls_counter {path name : String} (h : InUse (requestCalls path) .counter name) :
    name = "http_requests_total" := by
  rcases h with ⟨-, labels, hne⟩ | ⟨h, -⟩
  · by_contra hother
    refine hne ?_
    simp [amountsOf, requestCalls, Ne.symm hother]
  · cases h

theorem requestCalls_summary {path name : String} (h : InUse (requestCalls path) .summary name) :
    name = "http_request_duration_seconds" := by
  rcases h with ⟨h, -⟩ | ⟨-, labels, hne⟩
  · cases h
  · by_contra hother
    refine hne ?_
    simp [valuesOf, requestCalls, Ne.symm hother]

theorem requestCalls_valid (path : String) : ValidNames (requestCalls path) where
  metric := by
    intro c hc
    have hcounter : isMetricName "http_requests_total" = true := by decide
    have hduration : isMetricName "http_request_duration_seconds" = true := by decide
    rcases List.mem_cons.mp hc with rfl | hc
    · exact hcounter
    · rw [List.mem_singleton.mp hc]
      exact hduration
  label := by
    intro c hc l hl
    have hnames : ∀ k ∈ ["method", "path", "status"], isLabelName k = true := by decide
    refine hnames l.1 ?_
    rcases List.mem_cons.mp hc with rfl | hc
    · exact List.mem_map_of_mem (f := Prod.fst) hl
    · rw [List.mem_singleton.mp hc] at hl
      have hmem : l.1 ∈ ["method", "path"] := List.mem_map_of_mem (f := Prod.fst) hl
      revert hmem
      simp only [List.mem_cons, List.not_mem_nil, or_false]
      tauto
  apart := by
    intro name hcounter hsummary
    rw [requestCalls_counter hcounter] at hsummary
    exact absurd (requestCalls_summary hsummary) (by decide)

theorem requestCalls_apart (path : String) : Apart (requestCalls path) := by
  intro name hsummary t
  rw [requestCalls_summary hsummary]
  have hno : ∀ clash, clash ≠ "http_requests_total" → clash ≠ "http_request_duration_seconds" →
      ¬ InUse (requestCalls path) t clash := by
    intro clash hcounter hduration huse
    rcases id huse with ⟨rfl, -⟩ | ⟨rfl, -⟩
    · exact hcounter (requestCalls_counter huse)
    · exact hduration (requestCalls_summary huse)
  exact ⟨hno _ (by decide) (by decide), hno _ (by decide) (by decide)⟩

theorem health_round_trips : RoundTrips wholeFloats (requestCalls "/health") := by
  refine (exposition_round_trips_iff wholeFloats (requestCalls_valid "/health")).mpr ⟨?_, requestCalls_apart _⟩
  intro c hc
  rcases List.mem_cons.mp hc with rfl | hc
  · unfold OneLined
    decide
  · rw [List.mem_singleton.mp hc]
    unfold OneLined
    decide

/-- The path of `GET /%0A` ends a line of the report in the middle of its label. -/
theorem line_feed_path_refused :
    ValidNames (requestCalls "/\n") ∧ ¬ RoundTrips wholeFloats (requestCalls "/\n") := by
  refine ⟨requestCalls_valid _, ?_⟩
  rintro ⟨entries, hread, -⟩
  have hbroken : ¬ OneLined [("method", "GET"), ("path", "/\n"), ("status", "200")] := by
    unfold OneLined
    decide
  have hnone := readText_broken wholeFloats (requestCalls_valid "/\n") List.mem_cons_self hbroken
  rw [hnone] at hread
  cases hread

end Samples

end AIRuntime.MetricsExposition
