import AIRuntime.EffectRuns
import AIRuntime.Failures
import AIRuntime.Identifiers
import Mathlib.Data.Rat.Floor

set_option autoImplicit false

/-!
`api/middleware/request_context.py`: the ASGI middleware around the application. The application is any
program that sends messages; what it does besides sending passes the middleware by.
-/
namespace AIRuntime.RequestContext

open PythonText EffectPrograms Failures Identifiers

/-- What ends a call: an `Exception`, or one of the other exceptions, such as a cancellation. -/
inductive Raised where
  | exception (err : Exn)
  | baseException (name : String)

/-- Header names and values are bytes, read as latin-1. -/
abbrev Headers := List (String × String)

inductive Message where
  | responseStart (status : ℤ) (headers : Option Headers)
  | responseBody (body : Option String) (more_body : Option Bool)
  | other (type : String)

/-- What an application asks for: to send a message, or something of its own. -/
inductive AppCommand (C : Type) where
  | send (message : Message)
  | other (c : C)

@[reducible]
def AppResponse {C : Type} (R : C → Type) : AppCommand C → Type
  | .send _ => Except Raised Unit
  | .other c => R c

abbrev App (C : Type) (R : C → Type) := Prog (AppCommand C) (AppResponse R) Empty Raised Unit

structure StartedRecord where
  request_id : String
  trace_id : String
  span : String
  method : String
  path : String
deriving DecidableEq

structure CompletedRecord extends StartedRecord where
  status_code : ℤ
  duration_ms : ℚ
deriving DecidableEq

/-- What the middleware asks for, beside what the application does. -/
inductive Command (C : Type) where
  | uuid4
  | perfCounter
  | requestStarted (record : StartedRecord)
  | requestCompleted (record : CompletedRecord)
  | increment (name : String) (labels : List (String × String))
  | observe (name : String) (value : ℚ) (labels : List (String × String))
  | app (c : AppCommand C)

@[reducible]
def Response {C : Type} (R : C → Type) : Command C → Type
  | .uuid4 => UUID
  | .perfCounter => ℚ
  | .requestStarted _ => Unit
  | .requestCompleted _ => Unit
  | .increment _ _ => Unit
  | .observe _ _ _ => Unit
  | .app c => AppResponse R c

abbrev Action (C : Type) (R : C → Type) (α : Type) := Prog (Command C) (Response R) Empty Raised α

/-- `metrics` says whether the scope's application carries a metrics store. -/
structure Scope where
  type : String
  headers : Headers
  method : String
  path : String
  metrics : Bool

def lowerBytes (name : String) : String := String.ofList (name.toList.map Char.toLower)

def headerValue (scope : Scope) (name : String) : Option String :=
  (scope.headers.find? fun header => lowerBytes header.1 = name).map Prod.snd

def isRequestIdChar (c : Char) : Bool := c.isAlphanum || c = '.' || c = '_' || c = ':' || c = '-'

def isRequestId (candidate : String) : Bool :=
  1 ≤ candidate.length && candidate.length ≤ 128 && candidate.toList.all isRequestIdChar

variable {C : Type} {R : C → Type}

def ask (c : Command C) : Action C R (Response R c) := Prog.ask c

def generateRequestId : Action C R String := (ask .uuid4).bind fun id => .done ("req_" ++ id.str)

def resolveRequestId (header : Option String) : Action C R String :=
  match header with
  | some text => if isRequestId (strip text) then .done (strip text) else generateRequestId
  | none => generateRequestId

/-- The local variables that the closures of `__call__` share. -/
structure Locals where
  status_code : ℤ
  completed_logged : Bool

def roundHalfEven (q : ℚ) : ℤ :=
  let rest := q - ⌊q⌋
  if rest < 1 / 2 then ⌊q⌋
  else if 1 / 2 < rest then ⌊q⌋ + 1
  else if ⌊q⌋ % 2 = 0 then ⌊q⌋ else ⌊q⌋ + 1

def round2 (x : ℚ) : ℚ := roundHalfEven (x * 100) / 100

section Call

variable (scope : Scope) (request_id : String) (started_at : ℚ)

def startedRecord : StartedRecord := ⟨request_id, request_id, "http", scope.method, scope.path⟩

def logRequestCompleted (st : Locals) : Action C R Locals :=
  if st.completed_logged then .done st
  else
    (ask .perfCounter).bind fun now =>
      let duration_ms := round2 ((now - started_at) * 1000)
      (ask (.requestCompleted ⟨startedRecord scope request_id, st.status_code, duration_ms⟩)).bind fun _ =>
        if scope.metrics then
          (ask (.increment "http_requests_total"
            [("method", scope.method), ("path", scope.path), ("status", toString st.status_code)])).bind fun _ =>
          (ask (.observe "http_request_duration_seconds" (duration_ms / 1000)
            [("method", scope.method), ("path", scope.path)])).bind fun _ =>
          .done { st with completed_logged := true }
        else .done { st with completed_logged := true }

/-- The start message gets the request's id, unless it has one. -/
def withRequestId : Message → Message
  | .responseStart status headers =>
    let headers := headers.getD []
    .responseStart status (some (if headers.any fun header => lowerBytes header.1 = "x-request-id" then headers
      else headers ++ [("x-request-id", request_id)]))
  | message => message

def noteStatus (st : Locals) : Message → Locals
  | .responseStart status _ => { st with status_code := status }
  | _ => st

/-- `message["type"] == "http.response.body" and not message.get("more_body", False)`. -/
def isLastBody : Message → Bool
  | .responseBody _ more_body => !more_body.getD false
  | _ => false

def sendWithRequestId (st : Locals) (message : Message) : Action C R (Except Raised Unit × Locals) :=
  (ask (.app (.send (withRequestId request_id message)))).bind fun
    | .error err => .done (.error err, noteStatus st message)
    | .ok () =>
      if isLastBody message then
        (logRequestCompleted scope request_id started_at (noteStatus st message)).bind fun st => .done (.ok (), st)
      else .done (.ok (), noteStatus st message)

/-- `await self.app(scope, receive, send_with_request_id)`, with the variables as it leaves them. -/
def runApp : Locals → App C R → Action C R (Except Raised Unit × Locals)
  | st, .done () => .done (.ok (), st)
  | st, .raise err => .done (.error err, st)
  | st, .call (.send message) k =>
    (sendWithRequestId scope request_id started_at st message).bind fun p => runApp p.2 (k p.1)
  | st, .call (.other c) k => .call (.app (.other c)) fun r => runApp st (k r)
  | _, .yield e _ => e.elim

end Call

def passThrough : App C R → Action C R Unit
  | .done () => .done ()
  | .raise err => .raise err
  | .call c k => .call (.app c) fun r => passThrough (k r)
  | .yield e _ => e.elim

/-- `__call__`; the application is told the request's id by its scope's state. -/
def call (scope : Scope) (app : Option String → App C R) : Action C R Unit :=
  if scope.type ≠ "http" then passThrough (app none)
  else
    (resolveRequestId (headerValue scope "x-request-id")).bind fun request_id =>
    (ask .perfCounter).bind fun started_at =>
    (ask (.requestStarted (startedRecord scope request_id))).bind fun _ =>
    (runApp scope request_id started_at ⟨500, false⟩ (app (some request_id))).bind fun
      | (.ok (), _) => .done ()
      | (.error (.exception err), st) =>
        (logRequestCompleted scope request_id started_at st).bind fun _ => .raise (.exception err)
      | (.error err, _) => .raise err

end AIRuntime.RequestContext
