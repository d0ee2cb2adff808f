/-
# Exchanges

An exchange is a request and the response that is finally given to it: a response that points
elsewhere is followed there, ten times at most.  How one request gets one response is left to a
network.
-/
import CodeAssistant.Backend.Error
import CodeAssistant.Http.Message
import CodeAssistant.Url.Parser

namespace CodeAssistant.Http

/-- Why a request got no response. -/
inductive HopFault
  | unreachable
  /-- The connection was closed. -/
  | closed
  /-- Time ran out. -/
  | silent
  deriving DecidableEq, Repr

/-- What carries a request to where it goes, within a time limit if there is one. -/
abbrev Network (m : Type → Type) : Type := Option Nat → Request → m (Except HopFault Response)

/-- The breakage that a missing response amounts to. -/
def HopFault.breakage (url : Url) : HopFault → Breakage
  | unreachable => .unreachable url.write
  | closed => .closed url.write
  | silent => .silent url.write

/-! ## 1. Redirects -/

/-- Statuses after which the request is repeated as it was. -/
def keepsRequest (s : Status) : Bool := [307, 308].contains s.code

/-- Statuses after which something else is asked for, without a body. -/
def dropsBody (s : Status) : Bool := [301, 302, 303].contains s.code

/-- The headers that speak of a body. -/
def bodyHeaders : List String :=
  ["transfer-encoding", "content-encoding", "content-type", "content-length"]

/-- The headers that are meant for one host only. -/
def privateHeaders : List String :=
  ["authorization", "cookie", "cookie2", "proxy-authorization", "www-authenticate"]

/-- The headers for another URL: nothing private goes to another host, and the URL before is
named, except to one that is not as secure. -/
def redirectedHeaders (old new : Url) (headers : Headers) : Headers :=
  let kept := if old.host = new.host && old.portOrDefault? = new.portOrDefault? then headers
    else headers.without privateHeaders
  if old.scheme = "https" && new.scheme = "http" then kept
  else kept.set "referer" old.withoutCredentials.withoutFragment.write

/-- The request that a response asks for in place of the one that it answers. -/
def redirect? (r : Request) (response : Response) : Option Request :=
  if keepsRequest response.status || dropsBody response.status then
    match (response.headers.get? "location").map r.url.resolve with
    | some (.ok url) =>
      if !url.hasHost then none
      else if keepsRequest response.status then
        some { r with url, headers := redirectedHeaders r.url url r.headers }
      else
        some {
          method := .get, url, body := none
          headers := redirectedHeaders r.url url (r.headers.without bodyHeaders) }
    | _ => none
  else none

/-! ## 2. The exchange -/

/-- How many redirects are followed. -/
def maxRedirects : Nat := 10

variable {m : Type → Type} [Monad m]

/-- Sends a request and follows so many redirects. -/
def follow (net : Network m) (timeout : Option Nat) :
    Nat → Request → m (Except Breakage Response)
  | hops, r =>
    if !r.isSendable then pure (.error (.unsendable r.url.write))
    else do
      match ← net timeout r with
      | .error fault => return .error (fault.breakage r.url)
      | .ok response =>
        match redirect? r response with
        | none => return .ok response
        | some next => match hops with
          | 0 => return .error (.tooManyRedirects r.url.write)
          | hops + 1 => follow net timeout hops next

/-- Sends a request and waits for the final response. -/
def exchange (net : Network m) (timeout : Option Nat) (r : Request) :
    m (Except Breakage Response) := follow net timeout maxRedirects r

end CodeAssistant.Http
