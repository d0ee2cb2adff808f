/-
# Messages as bytes

How a request is written to a connection and how a response is read from one.  A response is read
from all that has arrived so far, again and again: `readResponse` says whether that is enough,
and what it amounts to once nothing more will come.
-/
import CodeAssistant.Http.Exchange
import CodeAssistant.Text.Blank
import CodeAssistant.Text.Split

namespace CodeAssistant.Http

/-! ## 1. Requests -/

/-- The request line and the headers, with the empty line behind them. -/
def Request.head (r : Request) : String :=
  let target := if r.url.path.write = "" then "/" ++ r.url.target else r.url.target
  r.method.name ++ " " ++ target ++ " HTTP/1.1\r\n"
    ++ String.join (r.sentHeaders.map fun h => h.1 ++ ": " ++ h.2 ++ "\r\n") ++ "\r\n"

/-- The request as it is written. -/
def Request.bytes (r : Request) : List UInt8 :=
  Text.Utf8.encode r.head ++ Text.Utf8.encode (r.body.getD "")

/-! ## 2. The head of a response -/

/-- The state of a connection. -/
inductive Flow
  | «open»
  | closed
  /-- Nothing that comes now comes in time. -/
  | late
  deriving DecidableEq, Repr

/-- What stands before the first empty line, and behind it. -/
def splitHead? : List UInt8 → Option (List UInt8 × List UInt8)
  | 13 :: 10 :: 13 :: 10 :: behind => some ([], behind)
  | b :: rest => (splitHead? rest).map fun p => (b :: p.1, p.2)
  | [] => none

theorem length_of_splitHead? {bytes : List UInt8} {p : List UInt8 × List UInt8}
    (h : splitHead? bytes = some p) : p.2.length < bytes.length := by
  fun_induction splitHead? bytes generalizing p with
  | case1 behind =>
    obtain rfl := Option.some.inj h
    simp only [List.length_cons]
    omega
  | case2 b rest _ ih =>
    obtain ⟨q, hq, rfl⟩ := Option.map_eq_some_iff.mp h
    have := ih hq
    simp only [List.length_cons]
    omega
  | case3 => cases h

/-- A header line. -/
def readHeader (line : List Char) : String × String :=
  (String.ofList ((line.takeWhile (· ≠ ':')).map Char.toLower),
    String.ofList (Text.trimList ((line.dropWhile (· ≠ ':')).drop 1)))

/-- Status and headers.  Of headers with one name the first stays. -/
def readHead? (head : List UInt8) : Option (Status × Headers) :=
  match Text.splitWhere (· = '\n') ((Text.Utf8.decodeLossyList head).filter (· ≠ '\r')) with
  | [] => none
  | line :: lines =>
    let code := ((line.dropWhile (· ≠ ' ')).drop 1).takeWhile (· ≠ ' ')
    match (Text.ofDigits? 10 code).bind Status.ofNat? with
    | none => none
    | some status =>
      some (status, (lines.map readHeader).reverse.foldl (fun h p => Headers.set p.1 p.2 h) [])

/-! ## 3. Bodies -/

/-- The chunks at the front of a chunked body, and whether the last of all was among them. -/
def readChunks (bytes : List UInt8) : List (List UInt8) × Bool :=
  let line := bytes.takeWhile (· ≠ 10)
  match _h : bytes.dropWhile (· ≠ 10) with
  | [] => ([], false)
  | _ :: rest =>
    match Text.ofDigits? 16 ((line.map fun b => Char.ofNat b.toNat).takeWhile
        fun c => (Text.hexValue? c).isSome) with
    | none => ([], false)
    | some 0 => ([], true)
    | some size =>
      if rest.length < size + 2 then ([rest.take size].filter (!·.isEmpty), false)
      else
        let (chunks, finished) := readChunks (rest.drop (size + 2))
        (rest.take size :: chunks, finished)
termination_by bytes.length
decreasing_by
  have : (bytes.dropWhile (· ≠ 10)).length ≤ bytes.length := (List.dropWhile_sublist _).length_le
  rw [_h, List.length_cons] at this
  simp only [List.length_drop]
  omega

/-- How a body ended that is not complete. -/
def Flow.cutShort : Flow → Option Ending
  | «open» => none
  | closed => some .truncated
  | late => some .stalled

/-- The response with a head and a body, once the body has ended. -/
def readBody (flow : Flow) (status : Status) (headers : Headers) (bytes : List UInt8) :
    Option Response :=
  let make (chunks : List (List UInt8)) (ending : Ending) : Response :=
    { status, headers, chunks := chunks.filter (!·.isEmpty), ending }
  let chunked := (headers.get? "transfer-encoding").any fun v =>
    v.toList.map Char.toLower = "chunked".toList
  if status.code = 204 || status.code = 304 then some (make [] .complete)
  else if chunked then
    match readChunks bytes with
    | (chunks, true) => some (make chunks .complete)
    | (chunks, false) => flow.cutShort.map (make chunks)
  else match (headers.get? "content-length").bind fun v => Text.ofDigits? 10 v.toList with
    | some n =>
      if n ≤ bytes.length then some (make [bytes.take n] .complete)
      else flow.cutShort.map (make [bytes])
    | none => match flow with
      | .open => none
      | .closed => some (make [bytes] .complete)
      | .late => some (make [bytes] .stalled)

/-! ## 4. Responses -/

/-- The response that has arrived, or why there is none; nothing while more may come.  Heads that
only announce another are passed over. -/
def readResponse (flow : Flow) (bytes : List UInt8) : Option (Except HopFault Response) :=
  match _h : splitHead? bytes with
  | none => match flow with
    | .open => none
    | .closed => some (.error .closed)
    | .late => some (.error .silent)
  | some (head, behind) => match readHead? head with
    | none => some (.error .closed)
    | some (status, headers) =>
      if status.code < 200 then readResponse flow behind
      else (readBody flow status headers behind).map .ok
termination_by bytes.length
decreasing_by exact length_of_splitHead? _h

end CodeAssistant.Http
