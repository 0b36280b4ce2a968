import AIRuntime.Failures
import AIRuntime.JsonRoundTrip
import Mathlib.Data.Rat.Defs

set_option autoImplicit false

/-! `domain/generation.py`: each dataclass carries what its `__post_init__` checks. -/
namespace AIRuntime.GenerationContracts

open PythonText Failures JsonText

/-- A Python `float` as the text `repr` gives it. -/
structure PyFloat where
  text : String
  ok : isFloatText text = true
deriving DecidableEq

def exponentValue (cs : List Char) : ℤ :=
  match cs with
  | _ :: '-' :: ds => -(Nat.ofDigitChars 10 ds 0 : ℤ)
  | _ :: '+' :: ds => Nat.ofDigitChars 10 ds 0
  | _ :: ds => Nat.ofDigitChars 10 ds 0
  | [] => 0

/-- The number a float text names; `none` for `NaN` and the infinities. -/
def PyFloat.value (f : PyFloat) : Option ℚ :=
  match scanInt (scanMinus f.text.toList).2 with
  | none => none
  | some (ip, r) =>
    let frac := (scanFrac r).1.drop 1
    let mantissa : ℚ := Nat.ofDigitChars 10 (ip ++ frac) 0
    let power := exponentValue (scanExp (scanFrac r).2).1 - frac.length
    let magnitude := if power < 0 then mantissa / 10 ^ power.natAbs else mantissa * 10 ^ power.natAbs
    some (if (scanMinus f.text.toList).1 then -magnitude else magnitude)

inductive MessageRole where
  | system
  | user
  | assistant
  | tool
deriving DecidableEq

namespace MessageRole

def value : MessageRole → String
  | system => "system"
  | user => "user"
  | assistant => "assistant"
  | tool => "tool"

def ofValue (text : String) : Option MessageRole :=
  if text = "system" then some system
  else if text = "user" then some user
  else if text = "assistant" then some assistant
  else if text = "tool" then some tool
  else none

theorem ofValue_value (role : MessageRole) : ofValue role.value = some role := by
  cases role <;> rfl

end MessageRole

/-- `parameters` is a `dict`; its type leaves out what `__post_init__` refuses. -/
structure ToolDefinition where
  name : String
  description : String
  parameters : List (String × Json)
  name_ok : requireNonBlank name "name" = none

def ToolCall.problem (id name arguments : String) : Option String :=
  (requireNonBlank id "id").or ((requireNonBlank name "name").or (requireNonBlank arguments "arguments"))

structure ToolCall where
  id : String
  name : String
  arguments : String
  ok : ToolCall.problem id name arguments = none
deriving DecidableEq

def ToolCall.new (id name arguments : String) : Except Exn ToolCall :=
  validated (ToolCall.problem id name arguments) fun h => ⟨id, name, arguments, h⟩

def Message.problem (role : MessageRole) (content : String) (tool_call_id : Option String)
    (tool_calls : List ToolCall) : Option String :=
  if role = .tool then
    if tool_call_id.all isBlank then some "tool_call_id is required for tool messages"
    else (requireNonBlank content "content").or
      (if tool_calls.isEmpty then none else some "tool messages cannot include tool_calls")
  else if tool_call_id.isSome then some "tool_call_id is only valid for tool messages"
  else if !tool_calls.isEmpty then
    if role = .assistant then none else some "tool_calls are only valid on assistant messages"
  else requireNonBlank content "content"

structure Message where
  role : MessageRole
  content : String
  tool_call_id : Option String
  name : Option String
  tool_calls : List ToolCall
  ok : Message.problem role content tool_call_id tool_calls = none
deriving DecidableEq

def Message.new (role : MessageRole) (content : String) (tool_call_id name : Option String)
    (tool_calls : List ToolCall) : Except Exn Message :=
  validated (Message.problem role content tool_call_id tool_calls) fun h =>
    ⟨role, content, tool_call_id, name, tool_calls, h⟩

def usesTools (messages : List Message) (tools : List ToolDefinition) : Bool :=
  !tools.isEmpty || messages.any fun m => m.role = .tool || !m.tool_calls.isEmpty

def temperatureOk (temperature : PyFloat) : Bool :=
  match temperature.value with
  | some t => 0 ≤ t && t ≤ 2
  | none => false

def GenerationRequest.problem (model : String) (messages : List Message) (temperature : Option PyFloat)
    (max_output_tokens : Option ℤ) (stream : Bool) (tools : List ToolDefinition) (cache : Bool) :
    Option String :=
  (requireNonBlank model "model").or <|
  (if messages.isEmpty then some "messages must contain at least one message" else none).or <|
  (if temperature.any fun t => !temperatureOk t then
    some "temperature must be between 0 and 2 inclusive" else none).or <|
  (if max_output_tokens.any fun n => n ≤ 0 then
    some "max_output_tokens must be greater than zero" else none).or <|
  (if stream && usesTools messages tools then
    some "tools are not supported for streaming requests." else none).or <|
  if stream && cache then some "cache is not supported for streaming requests." else none

structure GenerationRequest where
  model : String
  messages : List Message
  temperature : Option PyFloat
  max_output_tokens : Option ℤ
  stream : Bool
  tools : List ToolDefinition
  cache : Bool
  ok : GenerationRequest.problem model messages temperature max_output_tokens stream tools cache = none

def GenerationRequest.new (model : String) (messages : List Message) (temperature : Option PyFloat)
    (max_output_tokens : Option ℤ) (stream : Bool) (tools : List ToolDefinition) (cache : Bool) :
    Except Exn GenerationRequest :=
  validated (GenerationRequest.problem model messages temperature max_output_tokens stream tools cache) fun h =>
    ⟨model, messages, temperature, max_output_tokens, stream, tools, cache, h⟩

def TokenUsage.problem (input_tokens output_tokens : ℤ) : Option String :=
  if input_tokens < 0 then some "input_tokens must not be negative"
  else if output_tokens < 0 then some "output_tokens must not be negative"
  else none

structure TokenUsage where
  input_tokens : ℤ
  output_tokens : ℤ
  ok : TokenUsage.problem input_tokens output_tokens = none
deriving DecidableEq

def TokenUsage.new (input_tokens output_tokens : ℤ) : Except Exn TokenUsage :=
  validated (TokenUsage.problem input_tokens output_tokens) fun h => ⟨input_tokens, output_tokens, h⟩

def TokenUsage.total (u : TokenUsage) : ℤ := u.input_tokens + u.output_tokens

def GenerationResponse.problem (id model : String) (output : Message) : Option String :=
  (requireNonBlank id "id").or <|
  (requireNonBlank model "model").or <|
  if output.role = .assistant then none else some "output message role must be assistant"

structure GenerationResponse where
  id : String
  model : String
  output : Message
  usage : Option TokenUsage
  cached : Bool
  ok : GenerationResponse.problem id model output = none
deriving DecidableEq

def GenerationResponse.new (id model : String) (output : Message) (usage : Option TokenUsage) :
    Except Exn GenerationResponse :=
  validated (GenerationResponse.problem id model output) fun h => ⟨id, model, output, usage, false, h⟩

def GenerationDelta.problem (id model content : String) : Option String :=
  (requireNonBlank id "id").or <|
  (requireNonBlank model "model").or <|
  if content = "" then some "content must not be empty" else none

structure GenerationDelta where
  id : String
  model : String
  content : String
  ok : GenerationDelta.problem id model content = none
deriving DecidableEq

def GenerationDelta.new (id model content : String) : Except Exn GenerationDelta :=
  validated (GenerationDelta.problem id model content) fun h => ⟨id, model, content, h⟩

inductive GenerationStreamEvent where
  | delta (d : GenerationDelta)
  | response (r : GenerationResponse)
deriving DecidableEq

def GenerationStreamEvent.response? : GenerationStreamEvent → Option GenerationResponse
  | .delta _ => none
  | .response r => some r

section Invariants

theorem or_none {a b : Option String} (h : a.or b = none) : a = none ∧ b = none :=
  Option.or_eq_none_iff.mp h

theorem hello_ok : Message.problem .user "Hello" none [] = none := by decide

theorem GenerationRequest.model_ok (r : GenerationRequest) : requireNonBlank r.model "model" = none :=
  (or_none r.ok).1

/-- `replace(request, model=model)` for a model that is not blank. -/
def GenerationRequest.withModel (r : GenerationRequest) (model : String)
    (h : requireNonBlank model "model" = none) : GenerationRequest :=
  { r with model := model, ok := Option.or_eq_none_iff.mpr ⟨h, (or_none r.ok).2⟩ }

theorem TokenUsage.nonneg (u : TokenUsage) : 0 ≤ u.input_tokens ∧ 0 ≤ u.output_tokens := by
  have h := u.ok
  unfold TokenUsage.problem at h
  split_ifs at h
  omega

theorem GenerationResponse.role_ok (r : GenerationResponse) : r.output.role = .assistant := by
  have h := (or_none (or_none r.ok).2).2
  by_contra hr
  rw [if_neg hr] at h
  cases h

end Invariants

end AIRuntime.GenerationContracts
