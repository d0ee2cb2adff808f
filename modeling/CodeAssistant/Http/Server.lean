/-
# A scripted server

A server that gives the n-th request the n-th reply of a script, whatever is asked, and keeps a
record of the requests.  A reply may break off in several ways.  A server that does not listen
accepts no connection.
-/
import CodeAssistant.Http.Exchange

namespace CodeAssistant.Http

/-- How a reply goes wrong. -/
inductive Mishap
  /-- The connection is closed without a response. -/
  | close
  /-- There is never a response. -/
  | stall
  /-- The rest of the body never comes. -/
  | stallBody
  /-- The connection is closed in the body. -/
  | truncate
  deriving DecidableEq, Repr

/-- The mishaps by name. -/
def Mishap.names : List (String × Mishap) :=
  [("close", .close), ("stall", .stall), ("stall_body", .stallBody), ("truncate", .truncate)]

/-- A reply of the script. -/
structure ScriptedReply where
  /-- The number sent as the status; a reply with a number that is none cannot be read. -/
  code : Nat := 200
  headers : List (String × String) := []
  chunks : List (List UInt8) := []
  mishap : Option Mishap := none
  deriving DecidableEq, Repr

namespace ScriptedReply

/-- A response with this status has no body. -/
def isBodiless (s : Status) : Bool := s.code = 204 || s.code = 304

/-- What the client gets. -/
def result (r : ScriptedReply) : Except HopFault Response :=
  match r.mishap, Status.ofNat? r.code with
  | some .stall, _ => .error .silent
  | some .close, _ => .error .closed
  | _, none => .error .closed
  | _, some status =>
    let headers := r.headers.reverse.foldl
      (fun h p => Headers.set (String.ofList (p.1.toList.map Char.toLower)) p.2 h) []
    if isBodiless status then .ok { status, headers }
    else
      .ok {
        status, headers, chunks := r.chunks
        ending := match r.mishap with
          | some .stallBody => .stalled
          | some .truncate => .truncated
          | _ => .complete }

/-- The reply to a request that the script does not know of. -/
def unexpected : ScriptedReply where
  code := 500
  chunks := [Text.Utf8.encode "\x7b\"detail\":\"unexpected request\"\x7d"]

end ScriptedReply

/-- A request as the server sees it. -/
structure Received where
  method : String
  target : String
  headers : Headers
  body : String
  deriving DecidableEq, Repr

/-- A request as it is received. -/
def Received.of (r : Request) : Received :=
  ⟨r.method.name, r.url.target, r.sentHeaders, r.body.getD ""⟩

/-- The server. -/
structure Server where
  /-- Host and port. -/
  address : String
  listening : Bool
  script : List ScriptedReply
  received : List Received := []

namespace Server

/-- The request goes to the server. -/
def isAddressed (s : Server) (r : Request) : Bool :=
  s.listening && r.url.scheme = "http" && r.url.writeHostPort = s.address

/-- Deals with a request. -/
def serve (s : Server) (r : Request) : Except HopFault Response × Server :=
  if s.isAddressed r then
    ((s.script.headD .unexpected).result,
      { s with script := s.script.tail, received := s.received ++ [.of r] })
  else (.error .unreachable, s)

/-- The network that has this server and no other. -/
def network : Network (StateM Server) := fun _ r s => s.serve r

end Server

end CodeAssistant.Http
