import AIRuntime.ProviderStreams
import AIRuntime.StreamFrames
import Mathlib.Data.List.DropRight

set_option autoImplicit false

/-! `providers/sse.py`: the events of a body whose lines are those of `str.splitlines`, as `aiter_lines` gives them. -/
namespace AIRuntime.ProviderSse

open PythonText JsonText JsonLines StreamFrames ProviderStreams

section Reader

/-- The locals of `iter_sse_events`. -/
structure SseLoop where
  event_name : Option String
  data_lines : List String

def SseLoop.new : SseLoop := ⟨none, []⟩

/-- `if data_lines: yield event_name, "\n".join(data_lines)`. -/
def SseLoop.completed (s : SseLoop) : Option SseEvent :=
  if s.data_lines.isEmpty then none else some ⟨s.event_name, "\n".intercalate s.data_lines⟩

def SseLoop.read (s : SseLoop) (raw_line : List Char) : SseLoop × Option SseEvent :=
  let line := SseParser.rstripReturns raw_line
  if line = [] then (.new, s.completed)
  else if line.head? = some ':' then (s, none)
  else if "event:".toList.isPrefixOf line then
    ({ s with event_name := some (String.ofList (stripChars (line.drop 6))) }, none)
  else if "data:".toList.isPrefixOf line then
    ({ s with data_lines := s.data_lines ++ [String.ofList ((line.drop 5).dropWhile isSpace)] }, none)
  else (s, none)

def SseLoop.events (s : SseLoop) : List (List Char) → List SseEvent
  | [] => s.completed.toList
  | line :: lines => (s.read line).2.toList ++ (s.read line).1.events lines

/-- `iter_sse_events`, of a decoded body. -/
def iterSseEvents (body : List Char) : List SseEvent := SseLoop.new.events (splitlines body)

end Reader

section Bodies

/-- A comment, or a line of a field that is neither `event` nor `data`. -/
structure Filler (line : List Char) : Prop where
  nonempty : line ≠ []
  oneLine : OneLine line
  not_event : ¬ "event:".toList <+: line
  not_data : ¬ "data:".toList <+: line

/-- A field and its value, with or without a space between them. -/
def FieldLine (field : String) (value line : List Char) : Prop :=
  line = field.toList ++ value ∨ line = field.toList ++ ' ' :: value

inductive NameLines : Option String → List (List Char) → Prop where
  | none : NameLines none []
  | some {name : String} {line : List Char} (h : FieldLine "event:" name.toList line) : NameLines (some name) [line]

inductive EventLines : SseEvent → List (List Char) → Prop where
  | mk {event : SseEvent} {before names between after : List (List Char)} {line : List Char}
      (hbefore : ∀ f ∈ before, Filler f) (hbetween : ∀ f ∈ between, Filler f) (hafter : ∀ f ∈ after, Filler f)
      (hname : NameLines event.event_name names) (hdata : FieldLine "data:" event.data.toList line) :
      EventLines event (before ++ names ++ between ++ line :: after)

/-- The lines of a body; the last blank line may be left out. -/
inductive Framed : List SseEvent → List (List Char) → Prop where
  | done {fillers : List (List Char)} (h : ∀ f ∈ fillers, Filler f) : Framed [] fillers
  | last {event : SseEvent} {lines : List (List Char)} (h : EventLines event lines) : Framed [event] lines
  | event {event : SseEvent} {events : List SseEvent} {lines rest : List (List Char)} (h : EventLines event lines)
      (hrest : Framed events rest) : Framed (event :: events) (lines ++ [] :: rest)

/-- A body of these lines, each of which ends in LF or CRLF. -/
inductive Encodes : List (List Char) → List Char → Prop where
  | nil : Encodes [] []
  | lf {line : List Char} {lines : List (List Char)} {body : List Char} (h : Encodes lines body) :
      Encodes (line :: lines) (line ++ '\n' :: body)
  | crlf {line : List Char} {lines : List (List Char)} {body : List Char} (h : Encodes lines body) :
      Encodes (line :: lines) (line ++ '\r' :: '\n' :: body)

/-- Nothing of the event is a line boundary of `str.splitlines`, and its data does not start with a space. -/
structure Clean (event : SseEvent) : Prop where
  name : ∀ name, event.event_name = some name → OneLine name.toList
  data : OneLine event.data.toList
  start : event.data.toList.dropWhile isSpace = event.data.toList

end Bodies

section Lossless

theorem splitlines_crlf {line : List Char} (h : OneLine line) (rest : List Char) :
    splitlines (line ++ '\r' :: '\n' :: rest) = line :: splitlines rest := by
  induction line with
  | nil => rw [List.nil_append, splitlines]
  | cons c t ih =>
    have hrest := ih fun d hd => h d (List.mem_cons_of_mem c hd)
    rw [List.cons_append, splitlines_char (h c List.mem_cons_self), hrest]
    rfl

theorem splitlines_encoded {lines : List (List Char)} {body : List Char} (h : Encodes lines body)
    (hlines : ∀ line ∈ lines, OneLine line) : splitlines body = lines := by
  induction h with
  | nil => rfl
  | lf _ ih =>
    rw [splitlines_line (hlines _ List.mem_cons_self), ih fun line hmem => hlines line (List.mem_cons_of_mem _ hmem)]
  | crlf _ ih =>
    rw [splitlines_crlf (hlines _ List.mem_cons_self), ih fun line hmem => hlines line (List.mem_cons_of_mem _ hmem)]

theorem fieldLine_oneLine {field : String} {value line : List Char} (hfield : OneLine field.toList)
    (hvalue : OneLine value) (h : FieldLine field value line) : OneLine line := by
  rcases h with rfl | rfl
  · exact oneLine_append hfield hvalue
  · exact oneLine_append hfield (oneLine_append (@oneLine_of_all [' '] (by decide)) hvalue)

theorem read_filler {line : List Char} (h : Filler line) (s : SseLoop) : s.read line = (s, none) := by
  have hevent : "event:".toList.isPrefixOf line = false := by
    rw [Bool.eq_false_iff, Ne, List.isPrefixOf_iff_prefix]
    exact h.not_event
  have hdata : "data:".toList.isPrefixOf line = false := by
    rw [Bool.eq_false_iff, Ne, List.isPrefixOf_iff_prefix]
    exact h.not_data
  unfold SseLoop.read
  simp only [rstrip_line h.oneLine, if_neg h.nonempty, hevent, hdata, Bool.false_eq_true, ↓reduceIte]
  split_ifs <;> rfl

theorem events_fillers {fillers : List (List Char)} (h : ∀ f ∈ fillers, Filler f) (s : SseLoop)
    (lines : List (List Char)) : s.events (fillers ++ lines) = s.events lines := by
  induction fillers with
  | nil => rfl
  | cons f fillers ih =>
    rw [List.cons_append, SseLoop.events, read_filler (h f List.mem_cons_self)]
    exact ih fun f hf => h f (List.mem_cons_of_mem _ hf)

theorem stripChars_space (value : List Char) : stripChars (' ' :: value) = stripChars value := rfl

theorem read_name {name : String} {line : List Char} (hline : OneLine name.toList)
    (htrimmed : stripChars name.toList = name.toList) (h : FieldLine "event:" name.toList line) (s : SseLoop) :
    s.read line = ({ s with event_name := some name }, none) := by
  have hone : OneLine line := fieldLine_oneLine (oneLine_of_all (by decide)) hline h
  unfold SseLoop.read
  simp only [rstrip_line hone]
  rcases h with rfl | rfl
  · change ({ s with event_name := some (String.ofList (stripChars name.toList)) }, none) = _
    rw [htrimmed, String.ofList_toList]
  · change ({ s with event_name := some (String.ofList (stripChars (' ' :: name.toList))) }, none) = _
    rw [stripChars_space, htrimmed, String.ofList_toList]

theorem read_data {data : String} {line : List Char} (hline : OneLine data.toList)
    (hstart : data.toList.dropWhile isSpace = data.toList) (h : FieldLine "data:" data.toList line) (s : SseLoop) :
    s.read line = ({ s with data_lines := s.data_lines ++ [data] }, none) := by
  have hone : OneLine line := fieldLine_oneLine (oneLine_of_all (by decide)) hline h
  unfold SseLoop.read
  simp only [rstrip_line hone]
  rcases h with rfl | rfl
  · change ({ s with data_lines := s.data_lines ++ [String.ofList (data.toList.dropWhile isSpace)] }, none) = _
    rw [hstart, String.ofList_toList]
  · change ({ s with data_lines := s.data_lines ++ [String.ofList (data.toList.dropWhile isSpace)] }, none) = _
    rw [hstart, String.ofList_toList]

def Trimmed (event : SseEvent) : Prop :=
  ∀ name, event.event_name = some name → stripChars name.toList = name.toList

theorem events_eventLines {event : SseEvent} {lines : List (List Char)} (hclean : Clean event)
    (htrimmed : Trimmed event) (h : EventLines event lines) (rest : List (List Char)) :
    SseLoop.new.events (lines ++ rest) = SseLoop.events ⟨event.event_name, [event.data]⟩ rest := by
  obtain ⟨event_name, data⟩ := event
  cases h with
  | @mk before names between after line hbefore hbetween hafter hname hdata =>
    have hread := read_data hclean.data hclean.start hdata
    simp only [List.append_assoc, List.cons_append]
    rw [events_fillers hbefore]
    cases hname with
    | none =>
      rw [List.nil_append, events_fillers hbetween, SseLoop.events, hread]
      exact events_fillers hafter _ rest
    | some hline =>
      rw [List.cons_append, List.nil_append, SseLoop.events, read_name (hclean.name _ rfl) (htrimmed _ rfl) hline]
      change SseLoop.events _ (between ++ (line :: (after ++ rest))) = _
      rw [events_fillers hbetween, SseLoop.events, hread]
      exact events_fillers hafter _ rest

theorem completed_single (event : SseEvent) : SseLoop.completed ⟨event.event_name, [event.data]⟩ = some event := by
  change some (SseEvent.mk event.event_name ("\n".intercalate [event.data])) = some event
  have hjoin : "\n".intercalate [event.data] = event.data := by simp
  rw [hjoin]

theorem events_framed {events : List SseEvent} {lines : List (List Char)} (hclean : ∀ event ∈ events, Clean event)
    (htrimmed : ∀ event ∈ events, Trimmed event) (h : Framed events lines) : SseLoop.new.events lines = events := by
  induction h with
  | done hfillers =>
    have hread := events_fillers hfillers .new []
    rw [List.append_nil] at hread
    exact hread
  | last hlines =>
    have hread := events_eventLines (hclean _ List.mem_cons_self) (htrimmed _ List.mem_cons_self) hlines []
    rw [List.append_nil] at hread
    rw [hread, SseLoop.events, completed_single]
    rfl
  | @event event events lines rest hlines _ ih =>
    rw [events_eventLines (hclean _ List.mem_cons_self) (htrimmed _ List.mem_cons_self) hlines, SseLoop.events]
    change (SseLoop.completed ⟨event.event_name, [event.data]⟩).toList ++ SseLoop.new.events rest = _
    rw [completed_single, ih (fun e he => hclean e (List.mem_cons_of_mem _ he))
      fun e he => htrimmed e (List.mem_cons_of_mem _ he)]
    rfl

theorem eventLines_oneLine {event : SseEvent} {lines : List (List Char)} (hclean : Clean event)
    (h : EventLines event lines) : ∀ line ∈ lines, OneLine line := by
  obtain ⟨event_name, data⟩ := event
  cases h with
  | @mk before names between after line hbefore hbetween hafter hname hdata =>
    have hline : OneLine line := fieldLine_oneLine (oneLine_of_all (by decide)) hclean.data hdata
    have hnames : ∀ line ∈ names, OneLine line := by
      intro line hmem
      cases hname with
      | none => cases hmem
      | some hname =>
        rw [List.mem_singleton.mp hmem]
        exact fieldLine_oneLine (oneLine_of_all (by decide)) (hclean.name _ rfl) hname
    intro written hmem
    simp only [List.mem_append, List.mem_cons] at hmem
    rcases hmem with ((hmem | hmem) | hmem) | rfl | hmem
    · exact (hbefore written hmem).oneLine
    · exact hnames written hmem
    · exact (hbetween written hmem).oneLine
    · exact hline
    · exact (hafter written hmem).oneLine

theorem framed_oneLine {events : List SseEvent} {lines : List (List Char)} (hclean : ∀ event ∈ events, Clean event)
    (h : Framed events lines) : ∀ line ∈ lines, OneLine line := by
  induction h with
  | done hfillers => exact fun line hmem => (hfillers line hmem).oneLine
  | last hlines => exact eventLines_oneLine (hclean _ List.mem_cons_self) hlines
  | event hlines _ ih =>
    intro line hmem
    rcases List.mem_append.mp hmem with hmem | hmem
    · exact eventLines_oneLine (hclean _ List.mem_cons_self) hlines line hmem
    · rcases List.mem_cons.mp hmem with rfl | hmem
      · exact fun c hc => absurd hc List.not_mem_nil
      · exact ih (fun e he => hclean e (List.mem_cons_of_mem _ he)) line hmem

end Lossless

section Necessity

theorem addChar_oneLine {c : Char} (hc : isLineBreak c = false) {lines : List (List Char)}
    (h : ∀ line ∈ lines, OneLine line) : ∀ line ∈ addChar c lines, OneLine line := by
  intro line hmem
  cases lines with
  | nil =>
    rw [List.mem_singleton.mp hmem]
    exact fun d hd => by rw [List.mem_singleton.mp hd]; exact hc
  | cons first rest =>
    rcases List.mem_cons.mp hmem with rfl | hmem
    · intro d hd
      rcases List.mem_cons.mp hd with rfl | hd
      · exact hc
      · exact h first List.mem_cons_self d hd
    · exact h line (List.mem_cons_of_mem _ hmem)

theorem splitlines_lines (body : List Char) : ∀ line ∈ splitlines body, OneLine line := by
  induction body using splitlines.induct with
  | case1 => exact fun line hmem => absurd hmem List.not_mem_nil
  | case2 rest ih =>
    intro line hmem
    rcases List.mem_cons.mp hmem with rfl | hmem
    · exact fun c hc => absurd hc List.not_mem_nil
    · exact ih line hmem
  | case3 c rest hnot hbreak ih =>
    intro line hmem
    rw [splitlines, if_pos hbreak] at hmem
    · rcases List.mem_cons.mp hmem with rfl | hmem
      · exact fun c hc => absurd hc List.not_mem_nil
      · exact ih line hmem
    · exact hnot
  | case4 c rest hnot hbreak ih =>
    intro line hmem
    rw [splitlines, if_neg hbreak] at hmem
    · exact addChar_oneLine (Bool.eq_false_iff.mpr hbreak) ih line hmem
    · exact hnot

def CleanLine (data : String) : Prop := OneLine data.toList ∧ data.toList.dropWhile isSpace = data.toList

/-- The loop holds only parts of lines. -/
structure SseLoop.Sound (s : SseLoop) : Prop where
  name : ∀ name, s.event_name = some name → OneLine name.toList
  data : ∀ data ∈ s.data_lines, CleanLine data

theorem oneLine_subset {line part : List Char} (h : OneLine line) (hpart : part ⊆ line) : OneLine part :=
  fun c hc => h c (hpart hc)

theorem SseLoop.new_sound : SseLoop.new.Sound := by
  constructor
  · intro name hname
    cases hname
  · exact fun _ hmem => absurd hmem List.not_mem_nil

theorem stripChars_subset (cs : List Char) : stripChars cs ⊆ cs := by
  intro c hc
  have hfirst := List.mem_reverse.mp hc
  have hsecond := List.mem_reverse.mp (List.dropWhile_subset _ hfirst)
  exact List.dropWhile_subset _ hsecond

theorem SseLoop.Sound.read {s : SseLoop} (h : s.Sound) {raw_line : List Char} (hline : OneLine raw_line) :
    (s.read raw_line).1.Sound := by
  unfold SseLoop.read
  simp only [rstrip_line hline]
  split_ifs
  · exact SseLoop.new_sound
  · exact h
  · refine ⟨?_, h.data⟩
    intro name hname
    cases hname
    rw [String.toList_ofList]
    exact oneLine_subset hline fun c hc => List.drop_subset _ _ (stripChars_subset _ hc)
  · refine ⟨h.name, ?_⟩
    intro data hmem
    rcases List.mem_append.mp hmem with hmem | hmem
    · exact h.data data hmem
    · rw [List.mem_singleton.mp hmem]
      unfold CleanLine
      rw [String.toList_ofList]
      refine ⟨oneLine_subset hline fun c hc => List.drop_subset _ _ (List.dropWhile_subset _ hc), ?_⟩
      exact List.dropWhile_idempotent _ _
  · exact h

theorem SseLoop.Sound.completed {s : SseLoop} (h : s.Sound) {event : SseEvent} (hevent : s.completed = some event)
    (hdata : '\n' ∉ event.data.toList) : Clean event := by
  obtain ⟨event_name, data_lines⟩ := s
  cases data_lines with
  | nil => cases hevent
  | cons data rest =>
    cases hevent
    cases rest with
    | nil =>
      have hjoin : "\n".intercalate [data] = data := by simp
      obtain ⟨hline, hstart⟩ := h.data data List.mem_cons_self
      refine ⟨h.name, ?_, ?_⟩
      · simp only [hjoin]
        exact hline
      · simp only [hjoin]
        exact hstart
    | cons data' rest =>
      exfalso
      apply hdata
      have hjoin : "\n".intercalate (data :: data' :: rest) = data ++ "\n" ++ "\n".intercalate (data' :: rest) := by
        simp
      simp only [hjoin, String.toList_append]
      simp

theorem SseLoop.Sound.events {s : SseLoop} (h : s.Sound) {lines : List (List Char)}
    (hlines : ∀ line ∈ lines, OneLine line) {event : SseEvent} (hevent : event ∈ s.events lines)
    (hdata : '\n' ∉ event.data.toList) : Clean event := by
  induction lines generalizing s with
  | nil => exact h.completed (Option.mem_toList.mp hevent) hdata
  | cons line lines ih =>
    rcases List.mem_append.mp hevent with hmem | hmem
    · have hread := Option.mem_toList.mp hmem
      unfold SseLoop.read at hread
      simp only at hread
      split_ifs at hread
      exact h.completed hread hdata
    · exact ih (h.read (hlines line List.mem_cons_self)) (fun l hl => hlines l (List.mem_cons_of_mem _ hl)) hmem

end Necessity

/-- Events come back from a body exactly if none has a line boundary of `str.splitlines` in it, or data that starts
with a space. -/
theorem framing_lossless_iff {events : List SseEvent} {lines : List (List Char)} {body : List Char}
    (htrimmed : ∀ event ∈ events, Trimmed event) (hdata : ∀ event ∈ events, '\n' ∉ event.data.toList)
    (hframed : Framed events lines) (hbody : Encodes lines body) :
    iterSseEvents body = events ↔ ∀ event ∈ events, Clean event := by
  unfold iterSseEvents
  constructor
  · intro heq event hmem
    rw [← heq] at hmem
    have hnewline := hdata event (by rw [← heq]; exact hmem)
    exact SseLoop.new_sound.events (splitlines_lines body) hmem hnewline
  · intro hclean
    rw [splitlines_encoded hbody (framed_oneLine hclean hframed)]
    exact events_framed hclean htrimmed hframed

section Samples

theorem framed_single (data : String) : Framed [⟨none, data⟩] ["data:".toList ++ ' ' :: data.toList] := by
  have hlines := @EventLines.mk ⟨none, data⟩ [] [] [] [] _ (fun _ h => absurd h List.not_mem_nil)
    (fun _ h => absurd h List.not_mem_nil) (fun _ h => absurd h List.not_mem_nil) .none (.inr rfl)
  exact .last hlines

def singleBody (data : String) : List Char := ("data:".toList ++ ' ' :: data.toList) ++ ['\n']

theorem encodes_single (data : String) : Encodes ["data:".toList ++ ' ' :: data.toList] (singleBody data) :=
  .lf .nil

theorem trimmed_single (data : String) : ∀ event ∈ [(⟨none, data⟩ : SseEvent)], Trimmed event := by
  intro event hmem name hname
  rw [List.mem_singleton.mp hmem] at hname
  cases hname

def cafeData : String := "\x7b\"text\":\"caf\u00e9\"\x7d"

def separatorData : String := "\x7b\"text\":\"a\u2028b\"\x7d"

theorem cafe_lossless : iterSseEvents (singleBody cafeData) = [⟨none, cafeData⟩] ↔
    ∀ event ∈ [(⟨none, cafeData⟩ : SseEvent)], Clean event :=
  framing_lossless_iff (trimmed_single _) (by decide) (framed_single _) (encodes_single _)

/-- A line separator in a JSON string cuts its event short. -/
theorem separator_truncates : (loads separatorData).isSome = true ∧
    (∀ event ∈ [(⟨none, separatorData⟩ : SseEvent)], Trimmed event) ∧
    Framed [⟨none, separatorData⟩] ["data:".toList ++ ' ' :: separatorData.toList] ∧
    Encodes ["data:".toList ++ ' ' :: separatorData.toList] (singleBody separatorData) ∧
    iterSseEvents (singleBody separatorData) ≠ [⟨none, separatorData⟩] := by
  have hread : (iterSseEvents (singleBody separatorData)).map (·.data) = ["\x7b\"text\":\"a"] := by
    decide +kernel
  refine ⟨by decide +kernel, trimmed_single _, framed_single _, encodes_single _, ?_⟩
  intro heq
  rw [heq] at hread
  revert hread
  decide

end Samples

end AIRuntime.ProviderSse
