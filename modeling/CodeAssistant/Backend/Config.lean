/-
# Configuration

Where the backend is, what is sent with every request and how long an answer may take.  A base
URL is normalised before it is used: no blanks around it, no slashes at its end, and a default in
the place of a blank one.
-/
import CodeAssistant.Backend.Error
import CodeAssistant.Http.Headers
import CodeAssistant.Url.Parser

namespace CodeAssistant

open Text

/-- The configuration of the client. -/
structure ClientConfig where
  baseUrl : String := "http://localhost:5001"
  userAgent : Option String := none
  /-- Further headers, by name as it was given. -/
  headers : List (String × String) := []
  /-- How long an exchange may take, in milliseconds. -/
  timeout : Option Nat := none
  deriving DecidableEq, Repr

namespace ClientConfig

/-- Where the backend is if nothing is said. -/
def defaultBaseUrl : String := "http://localhost:5001"

/-- What the client calls itself if nothing is said. -/
def defaultUserAgent : String := "vibe-assistant/0.1.0"

/-- Adds a header.  The same name given again replaces the first. -/
def insertHeader (c : ClientConfig) (name value : String) : ClientConfig :=
  { c with headers := Dictionary.insert name value c.headers }

/-! ## 1. URLs -/

/-- The text without slashes at its end. -/
def dropSlashes (cs : List Char) : List Char := (cs.reverse.dropWhile (· = '/')).reverse

/-- The base URL as it is used. -/
def normalizeBaseUrl (base : String) : String :=
  if isBlank base then defaultBaseUrl else String.ofList (dropSlashes (trimList base.toList))

/-- The text of the URL for an endpoint. -/
def endpointText (base path : String) : String :=
  normalizeBaseUrl base ++ "/" ++ String.ofList (path.toList.dropWhile (· = '/'))

/-- The URL for an endpoint. -/
def endpointUrl (base path : String) : Except BackendError Url :=
  match Url.parse (endpointText base path) with
  | .ok url => .ok url
  | .error fault => .error (.invalidBaseUrl (normalizeBaseUrl base) fault)

/-! ## 2. Headers -/

/-- The value of a header, if it may be one. -/
def headerValue (name value : String) : Except BackendError String :=
  if Http.Headers.isValue value then .ok value else .error (.invalidConfig (.headerValue name))

/-- Sets further headers in order. -/
def setHeaders (headers : Http.Headers) : List (String × String) → Except BackendError Http.Headers
  | [] => .ok headers
  | (given, value) :: rest =>
    match Http.Headers.name? (trim given) with
    | none => .error (.invalidConfig (.headerName given))
    | some name => match headerValue given (trim value) with
      | .error e => .error e
      | .ok value => setHeaders (headers.set name value) rest

/-- The user agent: the configured one unless it is blank. -/
def agent (c : ClientConfig) : String := (c.userAgent.bind nonBlank?).getD defaultUserAgent

/-- The headers that are sent with every request.  Configured ones go before the defaults. -/
def buildHeaders (c : ClientConfig) : Except BackendError Http.Headers :=
  match headerValue "user-agent" c.agent with
  | .error e => .error e
  | .ok agent => setHeaders [("accept", "application/json"), ("user-agent", agent)] c.headers

/-! ## 3. The environment -/

/-- The value of a variable, trimmed; a blank one is as good as none. -/
def setting? (environment : String → Option String) (name : String) : Option String :=
  (environment name).bind nonBlank?

/-- A number of seconds of 64 bits, at least one.  A plus sign may stand in front. -/
def seconds? (text : String) : Option Nat :=
  let digits := match text.toList with
    | '+' :: rest => rest
    | cs => cs
  if digits.isEmpty then none else (ofDigits? 10 digits).filter fun n => 0 < n && n < UInt64.size

/-- The configuration that the environment asks for. -/
def ofEnvironment (environment : String → Option String) : Except BackendError ClientConfig :=
  let baseUrl := (setting? environment "VIBE_API_URL").getD defaultBaseUrl
  match setting? environment "VIBE_API_TIMEOUT_SEC" with
  | none => .ok { baseUrl }
  | some text => match seconds? text with
    | none => .error (.invalidConfig (.timeout text))
    | some n => .ok { baseUrl, timeout := some (n * 1000) }

end ClientConfig

end CodeAssistant
