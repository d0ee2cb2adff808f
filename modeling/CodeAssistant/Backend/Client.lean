/-
# The client

The client makes a request of a call, has it exchanged for a response and reads the answer from
it.  Each call is one exchange; nothing is repeated and nothing kept.

What cannot work is found out when the client is made: `Client.ofConfig` reads the base URL and
the headers before there is anything to send.
-/
import CodeAssistant.Backend.Config
import CodeAssistant.Http.Exchange
import CodeAssistant.Text.Stream

namespace CodeAssistant

open Http (Network Request Response)

/-- A client with its configuration and the headers of every request. -/
structure Client where
  config : ClientConfig
  headers : Http.Headers
  deriving Repr

namespace Client

/-- The client for a configuration. -/
def ofConfig (config : ClientConfig) : Except BackendError Client :=
  match ClientConfig.endpointUrl config.baseUrl Operation.health.path with
  | .error e => .error e
  | .ok _ => match config.buildHeaders with
    | .error e => .error e
    | .ok headers => .ok ⟨config, headers⟩

/-- The base URL as it is used. -/
def baseUrl (c : Client) : String := ClientConfig.normalizeBaseUrl c.config.baseUrl

/-! ## 1. Requests -/

/-- The request of an operation, without what is asked. -/
def draft (c : Client) (op : Operation) : Except BackendError Request :=
  match ClientConfig.endpointUrl c.config.baseUrl op.path with
  | .error e => .error e
  | .ok url => .ok (Request.draft op.method url c.headers)

/-- Adds what is asked. -/
def fill (op : Operation) (asked : op.Request) (r : Request) : Request :=
  let asking := match op.query? asked with
    | some pair => { r with url := r.url.withQueryPair pair }
    | none => r
  match op.body? asked with
  | some body => asking.withJson body
  | none => asking

/-- The request of a call. -/
def request (c : Client) (op : Operation) (asked : op.Request) : Except BackendError Request :=
  match c.draft op with
  | .error e => .error e
  | .ok r =>
    if r.url.hasHost then .ok (fill op asked r)
    else .error (.transport op (.unsendable r.url.write))

/-! ## 2. Responses -/

/-- The breakage of a body that did not arrive. -/
def bodyBreakage : Http.Ending → Breakage
  | .stalled => .stalled
  | _ => .truncated

/-- The answer in a response. -/
def read (op : Operation) (response : Response) : Except BackendError op.Response :=
  if response.status.isSuccess then
    match response.text? with
    | none => .error (.transport op (bodyBreakage response.ending))
    | some body => match op.readBody body with
      | .ok answer => .ok answer
      | .error fault => .error (.decode op body fault)
  else .error (.ofStatus op response.status (response.text?.getD ""))

/-- An answer that came in pieces. -/
structure Streamed where
  /-- The texts that were handed on as they came. -/
  pieces : List String
  /-- The whole answer, or why there is none. -/
  result : Except BackendError String

/-- The streamed answer in a response. -/
def readStream (response : Response) : Streamed :=
  if response.status.isSuccess then
    let outcome := Text.StreamDecoder.start.run response.chunks
    let result := match outcome.ending, response.ending with
      | .malformed, _ => .error (.streamEncoding .chat)
      | .whole, .complete => .ok (String.join outcome.pieces)
      | .cut, .complete => .error (.streamEncoding .chat)
      | _, ending => .error (.transport .chat (bodyBreakage ending))
    ⟨outcome.pieces, result⟩
  else ⟨[], .error (.ofStatus .chat response.status (response.text?.getD ""))⟩

/-! ## 3. Calls -/

variable {m : Type → Type} [Monad m]

/-- Performs an operation. -/
def call (c : Client) (net : Network m) (op : Operation) (asked : op.Request) :
    m (Except BackendError op.Response) :=
  match c.request op asked with
  | .error e => pure (.error e)
  | .ok r => do
    match ← Http.exchange net c.config.timeout r with
    | .error breakage => return .error (.transport op breakage)
    | .ok response => return read op response

/-- Asks a question and has the answer streamed. -/
def stream (c : Client) (net : Network m) (asked : ChatRequest) : m Streamed :=
  match c.request .chat asked.streaming with
  | .error e => pure ⟨[], .error e⟩
  | .ok r => do
    match ← Http.exchange net c.config.timeout r with
    | .error breakage => return ⟨[], .error (.transport .chat breakage)⟩
    | .ok response => return readStream response

end Client

end CodeAssistant
