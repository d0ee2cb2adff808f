/-
# The program

Reads the environment and the standard input, talks to the backend over plain connections and
writes the transcript.  All decisions are made elsewhere; what is left here is to carry bytes.
-/
import CodeAssistant.Http.Wire
import CodeAssistant.Shell.Ending
import Std.Async.DNS
import Std.Async.TCP
import Std.Async.Timer

namespace CodeAssistant.Program

open Std.Async (Async Selectable Selector)
open Std.Async.TCP (Socket.Client)
open Std.Net (IPAddr IPv4Addr IPv6Addr SocketAddress)

/-- The addresses of a host. -/
def addresses (host : Url.Host) : Async (Array IPAddr) :=
  match host with
  | .ipv4 n =>
    return #[.v4 (.ofParts (n >>> 24).toUInt8 (n >>> 16).toUInt8 (n >>> 8).toUInt8 n.toUInt8)]
  | .ipv6 [a, b, c, d, e, f, g, h] =>
    return #[.v6 (.ofParts (.ofNat a) (.ofNat b) (.ofNat c) (.ofNat d) (.ofNat e) (.ofNat f)
      (.ofNat g) (.ofNat h))]
  | .name name => Std.Async.DNS.getAddrInfo name ""
  | _ => return #[]

/-- An address with a port. -/
def socketAddress (address : IPAddr) (port : UInt16) : SocketAddress :=
  match address with
  | .v4 a => .v4 ⟨a, port⟩
  | .v6 a => .v6 ⟨a, port⟩

/-- A connection to the first of some addresses that takes one. -/
def connect (port : UInt16) : List IPAddr → Async (Option Socket.Client)
  | [] => return none
  | address :: rest => do
    let client ← Socket.Client.mk
    try
      client.connect (socketAddress address port)
      return some client
    catch _ => connect port rest

/-- What happened to a connection next. -/
inductive Signal
  | bytes (data : ByteArray)
  | closed
  | late

/-- Waits for bytes, for the end of the connection or for the time limit. -/
def receive (client : Socket.Client) (limit : Option Nat) : Async Signal := do
  let arrived (data : Option ByteArray) : Async Signal :=
    return match data with
      | some bytes => .bytes bytes
      | none => .closed
  try
    match limit with
    | none => arrived (← client.recv? 65536)
    | some ms =>
      let timer ← Selector.sleep (.ofNat ms)
      Selectable.one #[
        .case (client.recvSelector 65536) arrived,
        .case timer fun () => return .late]
  catch _ => return .closed

/-- Reads until there is a response.  `deadline` is the time at which it is too late. -/
partial def awaitResponse (client : Socket.Client) (deadline : Option Nat) (seen : List UInt8) :
    Async (Except Http.HopFault Http.Response) := do
  match Http.readResponse .open seen with
  | some result => return result
  | none =>
    let now ← IO.monoMsNow
    let limit := deadline.map (· - now)
    let conclude (flow : Http.Flow) : Async (Except Http.HopFault Http.Response) :=
      return (Http.readResponse flow seen).getD (.error .closed)
    match limit with
    | some 0 => conclude .late
    | _ => match ← receive client limit with
      | .bytes data => awaitResponse client deadline (seen ++ data.toList)
      | .closed => conclude .closed
      | .late => conclude .late

/-- Sends a request and reads the response. -/
def hop (timeout : Option Nat) (r : Http.Request) : Async (Except Http.HopFault Http.Response) := do
  let deadline := timeout.map (· + (← IO.monoMsNow))
  match r.url.scheme, r.url.host, r.url.portOrDefault? with
  | "http", some host, some port =>
    match ← connect (.ofNat port) (← addresses host).toList with
    | none => return .error .unreachable
    | some client =>
      client.send (ByteArray.mk r.bytes.toArray)
      awaitResponse client deadline []
  | _, _, _ => return .error .unreachable

/-- The network of the machine.  It carries plain connections only. -/
def network : Http.Network IO := fun timeout r => do
  try (hop timeout r).block catch _ => return .error .unreachable

/-- Writes at once. -/
def put (text : String) : IO Unit := do
  let out ← IO.getStdout
  out.putStr text
  out.flush

/-- Reads bytes up to a line feed or to the end. -/
partial def readLine (input : IO.FS.Stream) (seen : List UInt8) : IO (List UInt8) := do
  let bytes ← input.read 1
  match bytes.toList with
  | [] => return seen.reverse
  | b :: _ => if b = 10 then return (b :: seen).reverse else readLine input (b :: seen)

/-- Reads lines and deals with them. -/
partial def converse (host : Shell.Host IO) (config : Shell.Config) (a : Assistant) :
    IO (Option Shell.Stop) := do
  put Shell.prompt
  match Shell.splitLines (← readLine (← IO.getStdin) []) with
  | [] => return none
  | line :: _ => match Text.Utf8.decode? line with
    | none => return some (.notText line)
    | some text => do
      let (shown, a', quit) ← Shell.handleLine host config a text
      put shown
      if quit then return none else converse host config a'

/-- The variables that the program looks at. -/
def readEnvironment : IO (String → Option String) := do
  let names := ["VIBE_API_URL", "VIBE_API_TIMEOUT_SEC", "VIBE_DEFAULT_DIRECTORY", "VIBE_LOG",
    "RUST_LOG"]
  let values ← names.mapM fun name => return (name, ← IO.getEnv name)
  return fun name => (values.find? (·.1 = name)).bind (·.2)

/-- Runs the program and says why it stopped short, if it did. -/
def run (environment : String → Option String) : IO (Option Shell.Stop) := do
  match (ClientConfig.ofEnvironment environment).bind Client.ofConfig with
  | .error e => return some (.backend e)
  | .ok client =>
    let host := Shell.clientHost client network
    let config := Shell.Config.ofEnvironment environment
    put (Shell.greeting client)
    let (listing, a) ← Shell.opening host config
    put listing
    converse host config a

end CodeAssistant.Program

/-- Runs the program.  The exit code says whether it broke down or stopped short. -/
def main : IO UInt32 := do
  let environment ← CodeAssistant.Program.readEnvironment
  let err ← IO.getStderr
  match CodeAssistant.Shell.LogFilter.setUp environment with
  | .error () => return .ofNat CodeAssistant.Shell.breakdownCode
  | .ok warning =>
    if let some warning := warning then err.putStrLn warning
    match ← CodeAssistant.Program.run environment with
    | none => return 0
    | some stop =>
      err.putStrLn stop.describe
      return .ofNat CodeAssistant.Shell.stopCode
