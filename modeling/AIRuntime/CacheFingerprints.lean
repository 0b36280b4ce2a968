import AIRuntime.JsonValues
import AIRuntime.CallEntry
import AIRuntime.ServiceRuns

set_option autoImplicit false

/-!
`cache_fingerprint.py`: two requests have one fingerprint exactly when they ask for the same
generation, and a call reads and writes no cache entry but the one its own fingerprint names.
-/
namespace AIRuntime.CacheFingerprints

open PythonText Failures EffectPrograms JsonText JsonValues GenerationContracts Identifiers Collaborators RedisAdapters
  ResponsePayloads ResponseCreation ResponseScopes CallEntry ServiceRuns

section Sorting

theorem mem_insertSorted {m n : String × Json} {ms : List (String × Json)} :
    n ∈ insertSorted m ms ↔ n = m ∨ n ∈ ms := by
  induction ms with
  | nil => simp only [insertSorted, List.mem_singleton, List.not_mem_nil, or_false]
  | cons k ms ih =>
    unfold insertSorted
    split_ifs
    · exact List.mem_cons
    · rw [List.mem_cons, ih, List.mem_cons]
      tauto

theorem mem_sortMembers {n : String × Json} {ms : List (String × Json)} :
    n ∈ sortMembers ms ↔ ∃ m ∈ ms, (m.1, sortKeys m.2) = n := by
  induction ms with
  | nil => simp only [sortMembers, List.not_mem_nil, false_and, exists_false]
  | cons m ms ih =>
    rw [sortMembers, mem_insertSorted, ih]
    constructor
    · rintro (rfl | ⟨k, hk, rfl⟩)
      · exact ⟨m, List.mem_cons_self, rfl⟩
      · exact ⟨k, List.mem_cons_of_mem m hk, rfl⟩
    · rintro ⟨k, hk, rfl⟩
      rcases List.mem_cons.mp hk with rfl | hk
      · exact .inl rfl
      · exact .inr ⟨k, hk, rfl⟩

theorem mem_sortedKeys {key : String} {ms : List (String × Json)} :
    key ∈ (sortMembers ms).map Prod.fst ↔ key ∈ ms.map Prod.fst := by
  simp only [List.mem_map, mem_sortMembers]
  constructor
  · rintro ⟨_, ⟨m, hm, rfl⟩, rfl⟩
    exact ⟨m, hm, rfl⟩
  · rintro ⟨m, hm, rfl⟩
    exact ⟨_, ⟨m, hm, rfl⟩, rfl⟩

/-- Members in the strict order of their keys. -/
def Ordered (ms : List (String × Json)) : Prop := ms.Pairwise fun m n => m.1 < n.1

theorem Ordered.insert {m : String × Json} {ms : List (String × Json)} (h : Ordered ms)
    (hnew : m.1 ∉ ms.map Prod.fst) : Ordered (insertSorted m ms) := by
  induction ms with
  | nil => exact List.pairwise_singleton _ m
  | cons n ms ih =>
    obtain ⟨hn, hms⟩ := List.pairwise_cons.mp h
    simp only [List.map_cons, List.mem_cons, not_or] at hnew
    unfold insertSorted
    split_ifs with hle
    · have hlt : m.1 < n.1 := String.not_le.mp fun hge => hnew.1 (String.le_antisymm hle hge)
      refine List.pairwise_cons.mpr ⟨?_, h⟩
      intro k hk
      rcases List.mem_cons.mp hk with rfl | hk
      · exact hlt
      · exact String.lt_trans hlt (hn k hk)
    · refine List.pairwise_cons.mpr ⟨?_, ih hms hnew.2⟩
      intro k hk
      rcases mem_insertSorted.mp hk with rfl | hk
      · exact String.not_le.mp hle
      · exact hn k hk

theorem sortMembers_ordered {ms : List (String × Json)} (h : (ms.map Prod.fst).Nodup) :
    Ordered (sortMembers ms) := by
  induction ms with
  | nil => exact List.Pairwise.nil
  | cons m ms ih =>
    simp only [List.map_cons, List.nodup_cons] at h
    exact (ih h.2).insert fun hmem => h.1 (mem_sortedKeys.mp hmem)

theorem Ordered.nodup {ms : List (String × Json)} (h : Ordered ms) : (ms.map Prod.fst).Nodup := by
  refine List.pairwise_map.mpr (h.imp ?_)
  intro m n hlt heq
  rw [heq] at hlt
  exact String.lt_irrefl n.1 hlt

instance : Std.Irrefl fun m n : String × Json => m.1 < n.1 := ⟨fun m => String.lt_irrefl m.1⟩

instance : Std.Antisymm fun m n : String × Json => m.1 < n.1 :=
  ⟨fun _ _ hmn hnm => absurd hnm (String.lt_asymm hmn)⟩

theorem Ordered.ext {ms ns : List (String × Json)} (hms : Ordered ms) (hns : Ordered ns)
    (h : ∀ m, m ∈ ms ↔ m ∈ ns) : ms = ns :=
  List.Pairwise.eq_of_mem_iff hms hns h

end Sorting

section Canonical

mutual

theorem sortKeys_valid (j : Json) (h : j.Valid) : (sortKeys j).Valid := by
  cases j with
  | arr items => exact sortItems_valid items h
  | obj members => exact ⟨(sortMembers_ordered h.1).nodup, sortMembers_valid members h.2⟩
  | _ => exact h

theorem sortItems_valid (xs : List Json) (h : Json.ValidItems xs) : Json.ValidItems (sortItems xs) := by
  cases xs with
  | nil => trivial
  | cons x xs => exact ⟨sortKeys_valid x h.1, sortItems_valid xs h.2⟩

theorem sortMembers_valid (ms : List (String × Json)) (h : Json.ValidMembers ms) :
    Json.ValidMembers (sortMembers ms) := by
  cases ms with
  | nil => trivial
  | cons m ms =>
    obtain ⟨key, v⟩ := m
    have hms := validMembers_iff.mp (sortMembers_valid ms h.2)
    refine validMembers_iff.mpr fun n hn => ?_
    rcases mem_insertSorted.mp hn with rfl | hn
    · exact sortKeys_valid v h.1
    · exact hms n hn

end

mutual

theorem meaning_sortKeys (j : Json) (h : j.Valid) : meaning (sortKeys j) = meaning j := by
  cases j with
  | arr items => exact congrArg Value.arr (meanings_sortItems items h)
  | obj members =>
    have hsorted : ((sortMembers members).map Prod.fst).Nodup := (sortMembers_ordered h.1).nodup
    refine congrArg Value.obj (memberMeanings_ext hsorted h.1 ?_ ?_)
    · intro n hn
      obtain ⟨m, hm, rfl⟩ := mem_sortMembers.mp hn
      exact ⟨m.2, hm, (meaning_sorted members h.2 m hm).symm⟩
    · intro m hm
      exact mem_sortedKeys.mpr (List.mem_map_of_mem hm)
  | _ => rfl

theorem meanings_sortItems (xs : List Json) (h : Json.ValidItems xs) :
    meanings (sortItems xs) = meanings xs := by
  cases xs with
  | nil => rfl
  | cons x xs =>
    rw [sortItems, meanings, meanings, meaning_sortKeys x h.1, meanings_sortItems xs h.2]

theorem meaning_sorted (ms : List (String × Json)) (h : Json.ValidMembers ms) :
    ∀ m ∈ ms, meaning (sortKeys m.2) = meaning m.2 := by
  cases ms with
  | nil =>
    intro m hm
    cases hm
  | cons n ms =>
    obtain ⟨key, v⟩ := n
    intro m hm
    rcases List.mem_cons.mp hm with rfl | hm
    · exact meaning_sortKeys v h.1
    · exact meaning_sorted ms h.2 m hm

end

mutual

/-- Values that mean the same are the same once their keys are sorted. -/
theorem sortKeys_eq (a b : Json) (ha : a.Valid) (hb : b.Valid) (h : meaning a = meaning b) :
    sortKeys a = sortKeys b := by
  cases a with
  | arr xs =>
    cases b with
    | arr ys => exact congrArg Json.arr (sortItems_eq xs ys ha hb (Value.arr.inj h))
    | _ => cases h
  | obj ms =>
    cases b with
    | obj ns =>
      have hsame : memberMeanings ms = memberMeanings ns := Value.obj.inj h
      have hheld := sorted_held ms ha.2
      refine congrArg Json.obj ((sortMembers_ordered ha.1).ext (sortMembers_ordered hb.1) fun k => ?_)
      constructor
      · intro hk
        obtain ⟨m, hm, rfl⟩ := mem_sortMembers.mp hk
        have hmeans := memberMeanings_of_mem ha.1 hm
        rw [hsame] at hmeans
        obtain ⟨w, hw, hvw⟩ := mem_of_memberMeanings hmeans
        rw [hheld m hm w (validMembers_iff.mp hb.2 _ hw) hvw.symm]
        exact mem_sortMembers.mpr ⟨_, hw, rfl⟩
      · intro hk
        obtain ⟨n, hn, rfl⟩ := mem_sortMembers.mp hk
        have hmeans := memberMeanings_of_mem hb.1 hn
        rw [← hsame] at hmeans
        obtain ⟨v, hv, hvn⟩ := mem_of_memberMeanings hmeans
        rw [← hheld _ hv n.2 (validMembers_iff.mp hb.2 n hn) hvn]
        exact mem_sortMembers.mpr ⟨_, hv, rfl⟩
    | _ => cases h
  | _ =>
    cases b <;> cases h
    rfl

theorem sortItems_eq (xs ys : List Json) (hx : Json.ValidItems xs) (hy : Json.ValidItems ys)
    (h : meanings xs = meanings ys) : sortItems xs = sortItems ys := by
  cases xs with
  | nil =>
    cases ys <;> cases h
    rfl
  | cons x xs =>
    cases ys with
    | nil => cases h
    | cons y ys =>
      obtain ⟨hhead, htail⟩ := List.cons.inj h
      rw [sortItems, sortItems, sortKeys_eq x y hx.1 hy.1 hhead, sortItems_eq xs ys hx.2 hy.2 htail]

theorem sorted_held (ms : List (String × Json)) (h : Json.ValidMembers ms) :
    ∀ m ∈ ms, ∀ w : Json, w.Valid → meaning m.2 = meaning w → sortKeys m.2 = sortKeys w := by
  cases ms with
  | nil =>
    intro m hm
    cases hm
  | cons n ms =>
    obtain ⟨key, v⟩ := n
    intro m hm w hw hmeans
    rcases List.mem_cons.mp hm with rfl | hm
    · exact sortKeys_eq v w h.1 hw hmeans
    · exact sorted_held ms h.2 m hm w hw hmeans

end

theorem canonical_eq_iff {a b : Json} (ha : a.Valid) (hb : b.Valid) :
    dumps (sortKeys a) = dumps (sortKeys b) ↔ meaning a = meaning b := by
  constructor
  · intro h
    have hsorted := dumps_injective (sortKeys_valid a ha) (sortKeys_valid b hb) h
    rw [← meaning_sortKeys a ha, hsorted, meaning_sortKeys b hb]
  · intro h
    rw [sortKeys_eq a b ha hb h]

end Canonical

section Requests

/-- One tool to a model: its parameters are one JSON value, in whatever order their keys stand. -/
structure SameTool (tool tool' : ToolDefinition) : Prop where
  name : tool.name = tool'.name
  description : tool.description = tool'.description
  parameters : meaning (.obj tool.parameters) = meaning (.obj tool'.parameters)

/-- One generation is asked for; the stream and cache flags say only how. -/
structure SameGeneration (request request' : GenerationRequest) : Prop where
  model : request.model = request'.model
  max_output_tokens : request.max_output_tokens = request'.max_output_tokens
  temperature : request.temperature = request'.temperature
  messages : request.messages = request'.messages
  tools : List.Forall₂ SameTool request.tools request'.tools

def HoldsDicts (request : GenerationRequest) : Prop :=
  ∀ tool ∈ request.tools, (Json.obj tool.parameters).Valid

theorem optionJson_meaning {α : Type} {f : α → Json} (hnull : ∀ a, meaning (f a) ≠ .null)
    (hinj : ∀ a b, meaning (f a) = meaning (f b) → a = b) {a b : Option α}
    (h : meaning (optionJson f a) = meaning (optionJson f b)) : a = b := by
  cases a with
  | none =>
    cases b with
    | none => rfl
    | some b => exact absurd h.symm (hnull b)
  | some a =>
    cases b with
    | none => exact absurd h (hnull a)
    | some b => rw [hinj a b h]

theorem optionText_meaning {a b : Option String}
    (h : meaning (optionJson .str a) = meaning (optionJson .str b)) : a = b :=
  optionJson_meaning (f := Json.str) (fun _ h => by cases h) (fun _ _ h => Value.str.inj h) h

theorem optionInt_meaning {a b : Option ℤ} (h : meaning (optionJson .int a) = meaning (optionJson .int b)) :
    a = b :=
  optionJson_meaning (f := Json.int) (fun _ h => by cases h) (fun _ _ h => Value.int.inj h) h

theorem temperature_meaning {a b : Option PyFloat}
    (h : meaning (optionJson (fun t => .float t.text) a) = meaning (optionJson (fun t => .float t.text) b)) :
    a = b := by
  refine optionJson_meaning (fun _ h => by cases h) (fun s t h => ?_) h
  cases s
  cases t
  cases Value.float.inj h
  rfl

/-- What the members of two objects hold under a key, when the objects mean the same. -/
theorem held_eq {ms ns : List (String × Json)} (h : meaning (.obj ms) = meaning (.obj ns)) (key : String) :
    memberMeanings ms key = memberMeanings ns key :=
  congrFun (Value.obj.inj h) key

theorem items_eq {α : Type} {toJson : α → Json} {P : α → α → Prop} {xs ys : List α}
    (hitem : ∀ x y, meaning (toJson x) = meaning (toJson y) → P x y)
    (h : meaning (.arr (xs.map toJson)) = meaning (.arr (ys.map toJson))) : List.Forall₂ P xs ys := by
  have hmap : meanings (xs.map toJson) = meanings (ys.map toJson) := Value.arr.inj h
  clear h
  induction xs generalizing ys with
  | nil =>
    cases ys with
    | nil => exact .nil
    | cons y ys => cases hmap
  | cons x xs ih =>
    cases ys with
    | nil => cases hmap
    | cons y ys =>
      obtain ⟨hhead, htail⟩ := List.cons.inj hmap
      exact .cons (hitem x y hhead) (ih htail)

theorem toolCall_meaning (call call' : ToolCall)
    (h : meaning (.obj [("arguments", .str call.arguments), ("id", .str call.id), ("name", .str call.name)]) =
      meaning (.obj [("arguments", .str call'.arguments), ("id", .str call'.id), ("name", .str call'.name)])) :
    call = call' := by
  have harguments := held_eq h "arguments"
  have hid := held_eq h "id"
  have hname := held_eq h "name"
  cases call
  cases call'
  cases harguments
  cases hid
  cases hname
  rfl

theorem role_meaning {role role' : MessageRole} (h : role.value = role'.value) : role = role' := by
  have hof := congrArg MessageRole.ofValue h
  rw [MessageRole.ofValue_value, MessageRole.ofValue_value] at hof
  exact Option.some.inj hof

theorem message_meaning (m m' : Message) (h : meaning (messageJson m) = meaning (messageJson m')) : m = m' := by
  have hcontent : some (Value.str m.content) = some (Value.str m'.content) := held_eq h "content"
  have hname : some (meaning (optionJson .str m.name)) = some (meaning (optionJson .str m'.name)) :=
    held_eq h "name"
  have hrole : some (Value.str m.role.value) = some (Value.str m'.role.value) := held_eq h "role"
  have hid : some (meaning (optionJson .str m.tool_call_id)) = some (meaning (optionJson .str m'.tool_call_id)) :=
    held_eq h "tool_call_id"
  have hcalls := Option.some.inj (held_eq h "tool_calls")
  have hsame := items_eq toolCall_meaning hcalls
  rw [List.forall₂_eq_eq_eq] at hsame
  have hrole' := role_meaning (Value.str.inj (Option.some.inj hrole))
  have hname' := optionText_meaning (Option.some.inj hname)
  have hid' := optionText_meaning (Option.some.inj hid)
  cases m
  cases m'
  cases hcontent
  cases hrole'
  cases hname'
  cases hid'
  cases hsame
  rfl

theorem tool_meaning (tool tool' : ToolDefinition) (h : meaning (toolJson tool) = meaning (toolJson tool')) :
    SameTool tool tool' := by
  have hdescription : some (Value.str tool.description) = some (Value.str tool'.description) :=
    held_eq h "description"
  have hname : some (Value.str tool.name) = some (Value.str tool'.name) := held_eq h "name"
  exact ⟨Value.str.inj (Option.some.inj hname), Value.str.inj (Option.some.inj hdescription),
    Option.some.inj (held_eq h "parameters")⟩

theorem SameTool.meaning_eq {tool tool' : ToolDefinition} (h : SameTool tool tool') :
    meaning (toolJson tool) = meaning (toolJson tool') := by
  have hparameters := h.parameters
  simp only [meaning] at hparameters
  simp only [toolJson, meaning, memberMeanings, h.name, h.description, hparameters]

theorem tools_meaning {tools tools' : List ToolDefinition} (h : List.Forall₂ SameTool tools tools') :
    meaning (.arr (tools.map toolJson)) = meaning (.arr (tools'.map toolJson)) := by
  refine congrArg Value.arr ?_
  induction h with
  | nil => rfl
  | cons hhead _ ih => rw [List.map_cons, List.map_cons, meanings, meanings, hhead.meaning_eq, ih]

/-- The payload that is hashed means the generation that is asked for. -/
theorem requestJson_meaning_iff (request request' : GenerationRequest) :
    meaning (requestJson request) = meaning (requestJson request') ↔ SameGeneration request request' := by
  constructor
  · intro h
    have hmodel : some (Value.str request.model) = some (Value.str request'.model) := held_eq h "model"
    have hmax := Option.some.inj (held_eq h "max_output_tokens")
    have htemperature := Option.some.inj (held_eq h "temperature")
    have hmessages := items_eq message_meaning (Option.some.inj (held_eq h "messages"))
    rw [List.forall₂_eq_eq_eq] at hmessages
    exact ⟨Value.str.inj (Option.some.inj hmodel), optionInt_meaning hmax, temperature_meaning htemperature,
      hmessages, items_eq tool_meaning (Option.some.inj (held_eq h "tools"))⟩
  · intro h
    have htools := tools_meaning h.tools
    simp only [requestJson, meaning, memberMeanings, h.model, h.max_output_tokens, h.temperature, h.messages] at htools ⊢
    rw [htools]

theorem optionJson_valid {α : Type} {f : α → Json} (h : ∀ a, (f a).Valid) (a : Option α) :
    (optionJson f a).Valid := by
  cases a with
  | none => trivial
  | some a => exact h a

theorem messageJson_valid (m : Message) : (messageJson m).Valid := by
  have hkeys : ["content", "name", "role", "tool_call_id", "tool_calls"].Nodup := by decide
  have hcall : ["arguments", "id", "name"].Nodup := by decide
  have htext : ∀ text : Option String, (optionJson .str text).Valid := optionJson_valid (f := Json.str) fun _ => trivial
  exact ⟨hkeys, trivial, htext _, trivial, htext _,
    validItems_map fun _ _ => ⟨hcall, trivial, trivial, trivial, trivial⟩, trivial⟩

theorem requestJson_valid {request : GenerationRequest} (h : HoldsDicts request) : (requestJson request).Valid := by
  have hkeys : ["max_output_tokens", "messages", "model", "temperature", "tools"].Nodup := by decide
  have htool : ["description", "name", "parameters"].Nodup := by decide
  exact ⟨hkeys, optionJson_valid (f := Json.int) (fun _ => trivial) _,
    validItems_map fun m _ => messageJson_valid m, trivial, optionJson_valid (fun t => t.ok) _,
    validItems_map fun tool ht => ⟨htool, trivial, trivial, h tool ht, trivial⟩, trivial⟩

/-- Without collisions of the hash, one fingerprint is one generation. -/
theorem fingerprint_eq_iff {sha256 : String → String} (hsha : Function.Injective sha256)
    {request request' : GenerationRequest} (h : HoldsDicts request) (h' : HoldsDicts request') :
    fingerprintGenerationRequest sha256 request = fingerprintGenerationRequest sha256 request' ↔
      SameGeneration request request' := by
  unfold fingerprintGenerationRequest
  rw [hsha.eq_iff, canonical_eq_iff (requestJson_valid h) (requestJson_valid h'), requestJson_meaning_iff]

end Requests

section Entries

variable {service : CreateResponse} {command : CreateResponseCommand}

def entryKey (service : CreateResponse) (command : CreateResponseCommand) : String :=
  RedisResponseCache.redisKey command.organization_id (service.fingerprint command)

def UsesEntry (entry : String) : Command → Prop
  | .redisSet key _ _ _ => ∀ o f, key = RedisResponseCache.redisKey o f → key = entry
  | .redisGet key => ∀ o f, key = RedisResponseCache.redisKey o f → key = entry
  | .redisDelete key => ∀ o f, key = RedisResponseCache.redisKey o f → key = entry
  | _ => True

theorem OnKey.usesEntry {key entry : String} {c : Command}
    (hkey : ∀ o f, key = RedisResponseCache.redisKey o f → key = entry) (h : OnKey key c) : UsesEntry entry c := by
  cases c with
  | redisSet k value nx ex => exact h ▸ hkey
  | redisGet k => exact h ▸ hkey
  | redisDelete k => exact h ▸ hkey
  | _ => trivial

/-- Only the commands on the call's own entry are commands on an entry. -/
theorem Own.usesEntry {c : Command} (h : Own service command c) : UsesEntry (entryKey service command) c := by
  cases h with
  | meters h => cases c <;> trivial
  | claims key hkey h => exact OnKey.usesEntry (fun _ _ heq => absurd heq (idempotencyKey_ne_cacheKey _ _ _ _)) h
  | caches h => exact OnKey.usesEntry (fun _ _ _ => rfl) h
  | routes h => cases c <;> trivial
  | accounts h => cases c <;> trivial

theorem entryKey_eq_iff {command' : CreateResponseCommand} :
    entryKey service command = entryKey service command' ↔
      command.organization_id = command'.organization_id ∧
        service.fingerprint command = service.fingerprint command' := by
  constructor
  · exact cacheKey_injective
  · rintro ⟨horganization, hfingerprint⟩
    unfold entryKey
    rw [horganization, hfingerprint]

variable (service command) in
/-- Where the hash has no collisions, two requests have one fingerprint exactly when they ask for one
generation, and the one cache entry a call uses is shared by such calls of its organization only. -/
theorem fingerprint_faithful (hsha : Function.Injective service.sha256) (command' : CreateResponseCommand)
    (h : HoldsDicts command.request) (h' : HoldsDicts command'.request) :
    (fingerprintGenerationRequest service.sha256 command.request =
        fingerprintGenerationRequest service.sha256 command'.request ↔
      SameGeneration command.request command'.request) ∧
    (service.execute command).Asks (UsesEntry (entryKey service command)) ∧
    (entryKey service command = entryKey service command' ↔
      command.organization_id = command'.organization_id ∧ SameGeneration command.request command'.request) := by
  have hiff := fingerprint_eq_iff hsha h h'
  refine ⟨hiff, (execute_own service command).mono fun _ => Own.usesEntry, ?_⟩
  rw [entryKey_eq_iff, ← hiff]
  rfl

end Entries

section Samples

theorem getWeather_nonBlank : requireNonBlank "get_weather" "name" = none := by decide

def weatherRequest (parameters : List (String × Json)) (cache : Bool) : GenerationRequest where
  model := "gpt-4o"
  messages := [⟨.user, "Hello", none, none, [], hello_ok⟩]
  temperature := none
  max_output_tokens := none
  stream := false
  tools := [⟨"get_weather", "", parameters, getWeather_nonBlank⟩]
  cache := cache
  ok := plainRequest.ok

def typeFirst : List (String × Json) := [("type", .str "object"), ("properties", .obj [])]

def propertiesFirst : List (String × Json) := [("properties", .obj []), ("type", .str "object")]

def weatherCommand (parameters : List (String × Json)) (cache : Bool) : CreateResponseCommand :=
  sampleCommand (weatherRequest parameters cache) (uuid 3) "req-1" none

def weatherDigestText : String := "51418d9089a7a062f8d3f5e49e278165ec3c39fcd36d16d80bcd8f5ae464d638"

/-- The digest of the one text that is hashed below; any other text is sent elsewhere. -/
@[irreducible] def weatherDigest (text : String) : String :=
  if text = dumps (sortKeys (requestJson (weatherRequest typeFirst true))) then weatherDigestText else "sha256:" ++ text

theorem weatherDigest_injective : Function.Injective weatherDigest := by
  have helsewhere : ∀ text : String, weatherDigestText ≠ "sha256:" ++ text := by
    intro text h
    have hhead := congrArg (fun t => t.toList.head?) h
    rw [String.toList_append] at hhead
    cases hhead
  intro a b h
  unfold weatherDigest at h
  split_ifs at h with ha hb hb
  · rw [ha, hb]
  · exact absurd h (helsewhere b)
  · exact absurd h.symm (helsewhere a)
  · have hchars := congrArg String.toList h
    rw [String.toList_append, String.toList_append] at hchars
    exact String.toList_injective (List.append_cancel_left hchars)

def weatherService : CreateResponse := { sampleService with sha256 := weatherDigest }

theorem holdsDicts_weather {parameters : List (String × Json)} (h : (Json.obj parameters).Valid) (cache : Bool) :
    HoldsDicts (weatherRequest parameters cache) := by
  intro tool htool
  cases List.mem_singleton.mp htool
  exact h

theorem typeFirst_valid : (Json.obj typeFirst).Valid :=
  ⟨by decide, trivial, ⟨List.nodup_nil, trivial⟩, trivial⟩

theorem propertiesFirst_valid : (Json.obj propertiesFirst).Valid :=
  ⟨by decide, ⟨List.nodup_nil, trivial⟩, trivial, trivial⟩

theorem schemas_same : meaning (.obj typeFirst) = meaning (.obj propertiesFirst) := by
  refine congrArg Value.obj (memberMeanings_ext typeFirst_valid.1 propertiesFirst_valid.1 ?_ ?_)
  · intro m hm
    exact ⟨m.2, by revert m; simp [typeFirst, propertiesFirst], rfl⟩
  · intro n hn
    revert n
    simp [typeFirst, propertiesFirst]

theorem weatherDigest_of {text : String}
    (h : text = dumps (sortKeys (requestJson (weatherRequest typeFirst true)))) :
    weatherDigest text = weatherDigestText := by
  unfold weatherDigest
  rw [if_pos h]

theorem schemas_sameGeneration :
    SameGeneration (weatherRequest typeFirst true) (weatherRequest propertiesFirst false) :=
  ⟨rfl, rfl, rfl, rfl, .cons ⟨rfl, rfl, schemas_same⟩ .nil⟩

/-- Neither the order of a schema's keys nor the cache flag is in the key of the entry. -/
theorem reordered_schema_shares_entry :
    weatherService.sha256 (dumps (sortKeys (requestJson (weatherRequest typeFirst true)))) = weatherDigestText ∧
      entryKey weatherService (weatherCommand typeFirst true) =
        entryKey weatherService (weatherCommand propertiesFirst false) :=
  ⟨weatherDigest_of rfl,
    (fingerprint_faithful weatherService (weatherCommand typeFirst true) weatherDigest_injective
      (weatherCommand propertiesFirst false) (holdsDicts_weather typeFirst_valid true)
      (holdsDicts_weather propertiesFirst_valid false)).2.2.mpr ⟨rfl, schemas_sameGeneration⟩⟩

end Samples

end AIRuntime.CacheFingerprints
