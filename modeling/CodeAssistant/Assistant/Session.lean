/-
# The session

A session keeps one conversation, an exchange of questions and answers that only a reset takes
back, and beside it the latest explanation of an error and the latest plan.  A session never
talks to the backend itself: an accepted action yields a dispatch, and the outcome comes back as
an event.

The history alternates: a question, then the turn that ended its exchange.  The mode says where
the exchange stands.
-/
import CodeAssistant.Assistant.SingleFlight

namespace CodeAssistant

/-! ## 1. Turns -/

/-- Who speaks. -/
inductive Role
  | user
  | assistant
  deriving DecidableEq, Repr

/-- The role's name. -/
def Role.name : Role → String
  | user => "user"
  | assistant => "assistant"

/-- One entry of a conversation. -/
inductive Turn
  | question (text : String)
  | answer (response : ChatResponse)
  | error (failure : Failure)
  deriving DecidableEq, Repr

namespace Turn

/-- Only questions come from the user. -/
def role : Turn → Role
  | question _ => .user
  | answer _ => .assistant
  | error _ => .assistant

/-- The text of the turn. -/
def content : Turn → String
  | question text => text
  | answer response => response.answer
  | error failure => "Error: " ++ failure.message

/-- The turn reports a failure. -/
def isError : Turn → Bool
  | error _ => true
  | _ => false

/-- The turn is a question. -/
def isQuestion : Turn → Bool
  | question _ => true
  | _ => false

/-- The usage that came with an answer. -/
def usage? : Turn → Option ContextUsage
  | answer response => some response.usage
  | _ => none

/-- Where the turn came from. -/
def origin : Turn → String
  | question _ => "question"
  | answer _ => "answer"
  | error failure => "error:" ++ failure.kind.name

end Turn

/-! ## 2. The state -/

/-- Where the latest exchange stands. -/
inductive ChatMode
  | idle
  | sending (ticket : Ticket)
  /-- The latest exchange ended in a failure. -/
  | failed (failure : Failure)
  deriving DecidableEq, Repr

/-- The state of a session. -/
structure Session where
  tickets : TicketIssuer := {}
  history : List Turn := []
  mode : ChatMode := .idle
  debug : SingleFlight DebugResponse := {}
  plan : SingleFlight PlanResponse := {}
  deriving Repr

namespace Session

/-- An exchange waits for its answer. -/
def isSending (s : Session) : Bool :=
  match s.mode with
  | .sending _ => true
  | _ => false

/-- The failure that the latest exchange ended in. -/
def lastError? (s : Session) : Option Failure :=
  match s.mode with
  | .failed failure => some failure
  | _ => none

/-- The usage of the latest answer. -/
def lastUsage? (s : Session) : Option ContextUsage := s.history.reverse.findSome? Turn.usage?

/-! ## 3. Actions -/

/-- Asks a question, which joins the history at once. -/
def submit (s : Session) (question : String) : Attempt Session ChatRequest :=
  if s.isSending then .rejected (.busy .chat) s
  else if Text.trim question = "" then .rejected (.emptyField .question) s
  else
    .accepted s.tickets.next { question := Text.trim question }
      { s with
        tickets := s.tickets.advance
        history := s.history ++ [.question (Text.trim question)]
        mode := .sending s.tickets.next }

/-- Asks for the explanation of an error. -/
def submitDebug (s : Session) (request : DebugRequest) : Attempt Session DebugRequest :=
  if s.debug.isPending then .rejected (.busy .debug) s
  else if request.normalized.filePath = "" then .rejected (.emptyField .filePath) s
  else if request.normalized.errorMessage = "" then .rejected (.emptyField .errorMessage) s
  else
    .accepted s.tickets.next request.normalized
      { s with tickets := s.tickets.advance, debug := s.debug.begin s.tickets.next }

/-- Asks for a plan. -/
def submitPlan (s : Session) (request : PlanRequest) : Attempt Session PlanRequest :=
  if s.plan.isPending then .rejected (.busy .plan) s
  else if request.normalized.goal = "" then .rejected (.emptyField .goal) s
  else
    .accepted s.tickets.next request.normalized
      { s with tickets := s.tickets.advance, plan := s.plan.begin s.tickets.next }

/-- Clears the conversation and forgets every call in flight.  The next tickets belong to a new
generation, so what was under way is stale when it arrives. -/
def reset (s : Session) : Session :=
  { tickets := s.tickets.renew, debug := s.debug.clear, plan := s.plan.clear }

/-! ## 4. Events -/

/-- An outcome addressed to the session. -/
inductive Event
  | chat (ticket : Ticket) (outcome : Outcome ChatResponse)
  | debug (ticket : Ticket) (outcome : Outcome DebugResponse)
  | plan (ticket : Ticket) (outcome : Outcome PlanResponse)
  deriving Repr

/-- Ends the exchange that waits for the ticket. -/
def resolveChat (s : Session) (ticket : Ticket) (outcome : Outcome ChatResponse) :
    Bool × Session :=
  if s.mode = .sending ticket then
    match outcome with
    | .pending => (false, s)
    | .success response => (true, { s with history := s.history ++ [.answer response], mode := .idle })
    | .failure failure =>
      (true, { s with history := s.history ++ [.error failure], mode := .failed failure })
  else (false, s)

/-- Applies an event.  The flag is false for a stale one, which changes nothing. -/
def apply (s : Session) : Event → Bool × Session
  | .chat ticket outcome => s.resolveChat ticket outcome
  | .debug ticket outcome =>
    let (applied, debug) := s.debug.resolve ticket outcome
    (applied, { s with debug })
  | .plan ticket outcome =>
    let (applied, plan) := s.plan.resolve ticket outcome
    (applied, { s with plan })

end Session

end CodeAssistant
