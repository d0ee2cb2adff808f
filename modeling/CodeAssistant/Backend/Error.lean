/-
# Errors of the backend

Everything that can go wrong between a call and its answer, by cause: the configuration is at
fault, the exchange broke, the backend refused, or its answer cannot be read.  Each cause belongs
to one kind of failure and has a message for the user.
-/
import CodeAssistant.Backend.ErrorBody
import CodeAssistant.Backend.Operation
import CodeAssistant.Http.Status
import CodeAssistant.Url.Host

namespace CodeAssistant

open Http (Status)

/-- What is wrong with a configuration. -/
inductive ConfigFault
  /-- The time limit, as it was given. -/
  | timeout (given : String)
  | headerName (given : String)
  | headerValue (name : String)
  deriving DecidableEq, Repr

/-- The fault in words. -/
def ConfigFault.describe : ConfigFault → String
  | timeout given =>
    "VIBE_API_TIMEOUT_SEC must be a positive number of seconds, got '" ++ given ++ "'"
  | headerName given => "invalid header key: " ++ given
  | headerValue name => "invalid header value for " ++ name

/-- How an exchange broke; with the URL that was asked, where that is known. -/
inductive Breakage
  /-- There is no such request. -/
  | unsendable (url : String)
  | unreachable (url : String)
  /-- The connection was closed before an answer. -/
  | closed (url : String)
  /-- No answer came in time. -/
  | silent (url : String)
  | tooManyRedirects (url : String)
  /-- The body broke off. -/
  | truncated
  /-- The rest of the body did not come in time. -/
  | stalled
  deriving DecidableEq, Repr

namespace Breakage

/-- The breakage in words. -/
def describe : Breakage → String
  | unsendable url => "builder error for url (" ++ url ++ ")"
  | unreachable url => "error sending request for url (" ++ url ++ ")"
  | closed url => "error sending request for url (" ++ url ++ ")"
  | silent url => "error sending request for url (" ++ url ++ ")"
  | tooManyRedirects url => "error following redirect for url (" ++ url ++ ")"
  | truncated => "error decoding response body"
  | stalled => "error decoding response body"

end Breakage

/-- What can go wrong with a call. -/
inductive BackendError
  | invalidConfig (fault : ConfigFault)
  | invalidBaseUrl (base : String) (fault : Url.Fault)
  | transport (op : Operation) (breakage : Breakage)
  /-- The backend refused; `structured` if the message is its own. -/
  | status (op : Operation) (status : Status) (message : String) (structured : Bool)
  | decode (op : Operation) (body : String) (fault : Fault)
  /-- A streamed answer is no text. -/
  | streamEncoding (op : Operation)
  deriving DecidableEq, Repr

namespace BackendError

/-! ## 1. Refusals -/

/-- The message for a refusal whose body says nothing: the body itself, if it could be meant for
a reader. -/
def plainMessage (op : Operation) (status : Status) (body : String) : String :=
  let said := Text.trim body
  op.label ++ " request failed: " ++ status.reasonOrCode ++
    match said.toList with
    | [] => ""
    | '{' :: _ => ""
    | '[' :: _ => ""
    | _ => ": " ++ said

/-- The error for a refusal with a body. -/
def ofStatus (op : Operation) (status : Status) (body : String) : BackendError :=
  match ErrorBody.message? body with
  | some message => .status op status message true
  | none => .status op status (plainMessage op status body) false

/-! ## 2. Classification -/

/-- The kind of failure. -/
def kind : BackendError → FailureKind
  | invalidConfig _ => .validation
  | invalidBaseUrl _ _ => .validation
  | transport _ _ => .network
  | status _ _ _ _ => .server
  | decode _ _ _ => .server
  | streamEncoding _ => .server

/-- The status of a refusal. -/
def status? : BackendError → Option Status
  | status _ s _ _ => some s
  | _ => none

/-- The name of the cause. -/
def name : BackendError → String
  | invalidConfig _ => "InvalidConfig"
  | invalidBaseUrl _ _ => "InvalidBaseUrl"
  | transport _ _ => "Transport"
  | status _ _ _ _ => "Status"
  | decode _ _ _ => "Decode"
  | streamEncoding _ => "StreamEncoding"

/-! ## 3. Words -/

/-- The error in words. -/
def describe : BackendError → String
  | invalidConfig fault => "invalid configuration: " ++ fault.describe
  | invalidBaseUrl base fault => "invalid base URL '" ++ base ++ "': " ++ fault.describe
  | transport op breakage => op.label ++ " request failed: " ++ breakage.describe
  | status _ s message _ => "HTTP " ++ s.describe ++ ": " ++ message
  | decode op body fault =>
    op.label ++ " response could not be decoded: " ++ fault.describe body
  | streamEncoding op => op.label ++ " stream produced invalid UTF-8"

/-- The error for the user.  The backend's own words are passed on as they are. -/
def message : BackendError → String
  | status _ _ message _ => message
  | transport op (.silent _) => op.label ++ " request timed out"
  | transport op .stalled => op.label ++ " request timed out"
  | transport op (.unreachable url) =>
    op.label ++ " request failed: backend is unreachable ("
      ++ (Breakage.unreachable url).describe ++ ")"
  | e => e.describe

/-- The failure that the user is told of. -/
def toFailure (e : BackendError) : Failure := ⟨e.kind, e.message⟩

end BackendError

/-- The outcome of a call that ended one way or the other. -/
def Outcome.ofExcept {α : Type} : Except BackendError α → Outcome α
  | .ok a => .success a
  | .error e => .failure e.toFailure

end CodeAssistant
