/-
# Calls and their answers

A call is one request on its way to the backend: the slot that it was made for, its ticket and
what is asked.  The slot fixes the type of the request and of the answer.  A gateway answers
calls; a gateway that breaks down over a call counts as a failure of the server.
-/
import CodeAssistant.Assistant.Ticket

namespace CodeAssistant

/-- One request on its way. -/
structure Call where
  slot : Slot
  ticket : Ticket
  request : slot.operation.Request

namespace Call

/-- What the call is answered with. -/
abbrev Response (c : Call) : Type := c.slot.operation.Response

/-- The operation and its argument, in one line. -/
def describe (c : Call) : String :=
  c.slot.operation.name ++ " " ++ c.slot.operation.requestCodec.encode c.request

end Call

/-- How a gateway deals with a call. -/
inductive Answer (α : Type)
  | outcome (outcome : Outcome α)
  /-- The gateway broke down. -/
  | breakdown
  deriving Repr

/-- The outcome that an answer amounts to, for a call known by a name. -/
def Answer.resolve {α : Type} (name : String) : Answer α → Outcome α
  | outcome o => o
  | breakdown => .failure ⟨.server, "Gateway " ++ name ++ " call failed unexpectedly"⟩

/-- A gateway gives every call its answer. -/
abbrev Gateway : Type := (c : Call) → Answer c.Response

/-- A call that has ended, and how. -/
structure Arrival where
  call : Call
  outcome : Outcome call.Response

/-- A call, ended as a gateway answers it. -/
def Arrival.of (g : Gateway) (c : Call) : Arrival := ⟨c, (g c).resolve c.slot.name⟩

end CodeAssistant
