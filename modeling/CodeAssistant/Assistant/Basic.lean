/-
# The assistant

The assistant owns the three components and keeps count of the calls that were made for them.  A
call is running until the gateway has answered it; then its outcome waits in a queue until it is
applied.  Outcomes are applied one at a time, in the order in which they arrived.

So the assistant moves in three kinds of steps: `act` carries out a user action, `finish` lets a
running call end, and `take` applies an outcome.  The rest is made of these: `nextEvent`, `drain`
and `settle`.
-/
import CodeAssistant.Assistant.Call
import CodeAssistant.Assistant.Screen

namespace CodeAssistant

/-- The components and what is under way for them. -/
structure Assistant where
  session : Session := {}
  browser : Browser := {}
  panel : IndexPanel := {}
  /-- How many calls were made whose outcome was not applied. -/
  inFlight : Nat := 0
  /-- The calls that have not ended, in the order in which they were made. -/
  running : List Call := []
  /-- The calls that have ended, in the order in which they did. -/
  arrived : List Arrival := []

/-- What the user can do. -/
inductive Action
  | sendChat (question : String)
  | requestDebug (request : DebugRequest)
  | requestPlan (request : PlanRequest)
  | loadListing (directory : String)
  | retryListing
  | selectFile (path : String)
  | reloadSelection
  | triggerIndex (path : String)
  | refreshIndexStats
  | resetSession
  deriving DecidableEq, Repr

/-- What comes of an action at once. -/
inductive Reaction
  /-- A call was made. -/
  | started (call : Call)
  | rejected (reason : Rejection)
  /-- All is done; there was nothing to call for. -/
  | done

/-- An outcome was applied, or dropped because it was stale. -/
structure Report where
  slot : Slot
  applied : Bool
  deriving DecidableEq, Repr

namespace Assistant

/-- What the user sees. -/
def screen (a : Assistant) : Screen := .compose a.browser a.session a.panel

/-! ## 1. Actions -/

/-- Makes a call. -/
def start (a : Assistant) (call : Call) : Assistant :=
  { a with inFlight := a.inFlight + 1, running := a.running ++ [call] }

/-- Follows up a component's attempt: makes the call for a dispatch.  `a` holds the component's
new state. -/
def follow (a : Assistant) (slot : Slot)
    (result : Except Rejection (Dispatch slot.operation.Request)) : Reaction × Assistant :=
  match result with
  | .error reason => (.rejected reason, a)
  | .ok dispatch =>
    let call : Call := ⟨slot, dispatch.ticket, dispatch.request⟩
    (.started call, a.start call)

/-- Carries out a user action. -/
def act (a : Assistant) : Action → Reaction × Assistant
  | .sendChat question =>
    let t := a.session.submit question
    { a with session := t.state }.follow .chat t.result
  | .requestDebug request =>
    let t := a.session.submitDebug request
    { a with session := t.state }.follow .debug t.result
  | .requestPlan request =>
    let t := a.session.submitPlan request
    { a with session := t.state }.follow .plan t.result
  | .loadListing directory =>
    let t := a.browser.loadListing directory
    { a with browser := t.state }.follow .listing t.result
  | .retryListing =>
    let t := a.browser.retryListing
    { a with browser := t.state }.follow .listing t.result
  | .selectFile path =>
    let t := a.browser.selectFile path
    { a with browser := t.state }.follow .content t.result
  | .reloadSelection =>
    let t := a.browser.reloadSelection
    { a with browser := t.state }.follow .content t.result
  | .triggerIndex path =>
    let t := a.panel.triggerRun path
    { a with panel := t.state }.follow .index t.result
  | .refreshIndexStats =>
    let t := a.panel.refreshStats
    { a with panel := t.state }.follow .indexStats t.result
  | .resetSession => (.done, { a with session := a.session.reset })

/-! ## 2. Calls end -/

/-- Lets the running call at a place end. -/
def arrive (a : Assistant) (place : Nat) (arrival : Arrival) : Assistant :=
  { a with running := a.running.eraseIdx place, arrived := a.arrived ++ [arrival] }

/-- Lets the running call at a place end as a gateway answers it; nothing happens if there is
none. -/
def finish (a : Assistant) (g : Gateway) (place : Nat) : Assistant :=
  match a.running[place]? with
  | none => a
  | some call => a.arrive place (.of g call)

/-- Lets every running call end, in order. -/
def finishAll (a : Assistant) (g : Gateway) : Assistant :=
  { a with running := [], arrived := a.arrived ++ a.running.map (Arrival.of g) }

/-! ## 3. Outcomes are applied -/

/-- Hands an outcome to the component that it is for. -/
def deliver (a : Assistant) : Arrival → Bool × Assistant
  | ⟨⟨.chat, ticket, _⟩, outcome⟩ =>
    let (applied, session) := a.session.apply (.chat ticket outcome)
    (applied, { a with session })
  | ⟨⟨.debug, ticket, _⟩, outcome⟩ =>
    let (applied, session) := a.session.apply (.debug ticket outcome)
    (applied, { a with session })
  | ⟨⟨.plan, ticket, _⟩, outcome⟩ =>
    let (applied, session) := a.session.apply (.plan ticket outcome)
    (applied, { a with session })
  | ⟨⟨.listing, ticket, _⟩, outcome⟩ =>
    let (applied, browser) := a.browser.apply (.listing ticket outcome)
    (applied, { a with browser })
  | ⟨⟨.content, ticket, path⟩, outcome⟩ =>
    let (applied, browser) := a.browser.apply (.content ticket path outcome)
    (applied, { a with browser })
  | ⟨⟨.index, ticket, _⟩, outcome⟩ =>
    let (applied, panel) := a.panel.apply (.trigger ticket outcome)
    (applied, { a with panel })
  | ⟨⟨.indexStats, ticket, _⟩, outcome⟩ =>
    let (applied, panel) := a.panel.apply (.stats ticket outcome)
    (applied, { a with panel })

/-- Applies one outcome and counts it off. -/
def take (a : Assistant) (arrival : Arrival) : Report × Assistant :=
  let (applied, a') := a.deliver arrival
  (⟨arrival.call.slot, applied⟩, { a' with inFlight := a'.inFlight - 1 })

/-- Applies outcomes in order. -/
def takeAll (a : Assistant) : List Arrival → List Report × Assistant
  | [] => ([], a)
  | arrival :: rest =>
    let (report, a') := a.take arrival
    let (reports, a'') := a'.takeAll rest
    (report :: reports, a'')

/-- What there is to be said of the next outcome. -/
inductive Next
  /-- No call is in flight. -/
  | idle
  /-- Calls are in flight, and none has ended. -/
  | blocked
  | report (report : Report)
  deriving DecidableEq, Repr

/-- Applies the next outcome, if one has arrived. -/
def nextEvent (a : Assistant) : Next × Assistant :=
  if a.inFlight = 0 then (.idle, a)
  else
    match a.arrived with
    | [] => (.blocked, a)
    | arrival :: rest =>
      let (report, a') := { a with arrived := rest }.take arrival
      (.report report, a')

/-- Applies all that has arrived. -/
def drain (a : Assistant) : List Report × Assistant := { a with arrived := [] }.takeAll a.arrived

/-- Lets every call end and applies all outcomes. -/
def settle (a : Assistant) (g : Gateway) : List Report × Assistant := (a.finishAll g).drain

end Assistant

end CodeAssistant
