/-
# Requests and responses

What goes over a connection and what comes back.  A body comes in chunks, and it ends in one of
three ways.
-/
import CodeAssistant.Backend.Operation
import CodeAssistant.Http.Headers
import CodeAssistant.Http.Status
import CodeAssistant.Text.Base64
import CodeAssistant.Url.Basic

namespace CodeAssistant.Http

/-- A request. -/
structure Request where
  method : Method
  url : Url
  headers : Headers
  body : Option String := none
  deriving DecidableEq, Repr

namespace Request

/-- User name and password of a URL, decoded, as a header says them; none if both are empty. -/
def credentials? (url : Url) : Option String :=
  match Url.Percent.decodeText? url.username with
  | none => none
  | some user =>
    let password := url.password.bind Url.Percent.decodeText?
    if user = "" && password.isNone then none
    else some ("Basic " ++ Text.Base64.encode (Text.Utf8.encode (user ++ ":" ++ password.getD "")))

/-- A request without a body.  User name and password leave the URL and become a header, which a
given one replaces. -/
def draft (method : Method) (url : Url) (headers : Headers) : Request :=
  match credentials? url with
  | none => { method, url, headers }
  | some value =>
    { method, url := url.withoutCredentials
      headers := if (headers.get? "authorization").isSome then headers
        else headers.set "authorization" value }

/-- The request with a JSON body. -/
def withJson (r : Request) (body : String) : Request :=
  { r with
    headers := if (r.headers.get? "content-type").isSome then r.headers
      else r.headers.set "content-type" "application/json"
    body := some body }

/-- A character that no host name in a request line may have. -/
def isBarred (c : Char) : Bool := c = '"' || c.toNat = 0x60 || c.toNat = 0x7B || c.toNat = 0x7D

/-- The schemes of URLs that requests are sent to. -/
def schemes : List String := ["http", "https"]

/-- The request can be put into words that a server understands. -/
def isSendable (r : Request) : Bool :=
  schemes.contains r.url.scheme && !r.url.writeHostPort.toList.any isBarred
    && r.url.write.utf8ByteSize ≤ 65534

/-- The headers as they are sent. -/
def sentHeaders (r : Request) : Headers :=
  let hosted := if (r.headers.get? "host").isSome then r.headers
    else r.headers.set "host" r.url.writeHostPort
  match r.body with
  | none => hosted
  | some body => hosted.set "content-length" (toString body.utf8ByteSize)

end Request

/-- How a body ended. -/
inductive Ending
  | complete
  /-- The connection closed too early. -/
  | truncated
  /-- Nothing more came in time. -/
  | stalled
  deriving DecidableEq, Repr

/-- A response. -/
structure Response where
  status : Status
  headers : Headers := []
  /-- The chunks of the body. -/
  chunks : List (List UInt8) := []
  ending : Ending := .complete
  deriving DecidableEq, Repr

namespace Response

/-- The bytes that arrived. -/
def bytes (r : Response) : List UInt8 := r.chunks.flatten

/-- The body as text, if all of it arrived.  Bytes that spell no text are replaced. -/
def text? (r : Response) : Option String :=
  if r.ending = .complete then some (Text.Utf8.decodeLossy r.bytes) else none

end Response

end CodeAssistant.Http
