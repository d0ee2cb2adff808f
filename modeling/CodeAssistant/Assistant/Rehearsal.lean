/-
# Rehearsals

A rehearsal runs the assistant against a gateway that answers from a script.  Every call comes
with its reply; a call whose reply is gated does not end before its gate is opened, all others
end as soon as they are made.  Calls are numbered in the order in which the gateway receives
them, and a gate is named by its call's number.
-/
import CodeAssistant.Assistant.Basic

namespace CodeAssistant

/-- A reply of the script.  A value stays as it is written until the call that it answers is
known. -/
inductive Reply
  | pending
  | success (value : Json)
  | failure (failure : Failure)
  | breakdown
  deriving Repr

/-- The reply as an answer.  What is no value of the operation is no answer either. -/
def Reply.answer (op : Operation) : Reply → Answer op.Response
  | pending => .outcome .pending
  | success value => match op.responseCodec.ofTree value with
    | some a => .outcome (.success a)
    | none => .breakdown
  | failure f => .outcome (.failure f)
  | breakdown => .breakdown

/-- The assistant, and where its gateway stands. -/
structure Rehearsal where
  assistant : Assistant := {}
  /-- How many calls the gateway has received. -/
  received : Nat := 0
  /-- The numbers and replies of the calls behind closed gates, in the order in which the
  assistant has them running. -/
  waiting : List (Nat × Reply) := []

namespace Rehearsal

/-- What is done next. -/
inductive Step
  /-- A user action; its call, if it makes one, has a reply. -/
  | action (action : Action) (reply : Reply) (gated : Bool)
  | checkHealth (reply : Reply)
  /-- Opens the gate of a call. -/
  | release (number : Nat)
  | nextEvent
  | drain
  /-- Opens every gate and applies all outcomes. -/
  | settle

/-- What came of it. -/
inductive Result
  | reaction (reaction : Reaction)
  | health (outcome : Outcome HealthStatus)
  | released (opened : Bool)
  | next (next : Assistant.Next)
  | reports (reports : List Report)

/-- The calls that a step has the gateway receive, described. -/
def Result.calls : Result → List String
  | reaction (.started call) => [call.describe]
  | health _ => [Operation.health.name ++ " " ++ Operation.health.requestCodec.encode ()]
  | _ => []

/-- Ends the call at a place in the order of running calls. -/
def answer (r : Rehearsal) (place : Nat) (reply : Reply) : Rehearsal :=
  { r with assistant := r.assistant.finish (fun c => reply.answer c.slot.operation) place }

/-- Opens the gate at a place. -/
def openGate (r : Rehearsal) (place : Nat) (reply : Reply) : Rehearsal :=
  { r.answer place reply with waiting := r.waiting.eraseIdx place }

/-- Opens all gates, in the order of the calls. -/
def openAll (r : Rehearsal) : List (Nat × Reply) → Rehearsal
  | [] => r
  | (_, reply) :: rest => (r.openGate 0 reply).openAll rest

/-- Carries out a step. -/
def step (r : Rehearsal) : Step → Result × Rehearsal
  | .action action reply gated =>
    let (reaction, assistant) := r.assistant.act action
    let r := { r with assistant }
    match reaction with
    | .started _ =>
      let r' := { r with received := r.received + 1 }
      (.reaction reaction,
        if gated then { r' with waiting := r.waiting ++ [(r.received, reply)] }
        else r'.answer (r.assistant.running.length - 1) reply)
    | _ => (.reaction reaction, r)
  | .checkHealth reply =>
    (.health ((reply.answer .health).resolve Operation.health.name),
      { r with received := r.received + 1 })
  | .release number =>
    let place := r.waiting.findIdx (·.1 = number)
    match r.waiting[place]? with
    | none => (.released false, r)
    | some (_, reply) => (.released true, r.openGate place reply)
  | .nextEvent =>
    let (next, assistant) := r.assistant.nextEvent
    (.next next, { r with assistant })
  | .drain =>
    let (reports, assistant) := r.assistant.drain
    (.reports reports, { r with assistant })
  | .settle =>
    let r := r.openAll r.waiting
    let (reports, assistant) := r.assistant.drain
    (.reports reports, { r with assistant })

end Rehearsal

end CodeAssistant
