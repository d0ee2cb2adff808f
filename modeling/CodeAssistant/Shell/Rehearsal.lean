/-
# A rehearsed shell

The shell run against a script of replies.  Each step brings replies of its own, which the
gateway gives to the calls of the step in the order in which it receives them; what is left over
is thrown away.  Every call ends as soon as it is made.
-/
import CodeAssistant.Assistant.Rehearsal
import CodeAssistant.Shell.Run

namespace CodeAssistant.Shell

/-- The replies that are left, and the calls that were received, described. -/
structure Script where
  replies : List Reply
  calls : List String := []

namespace Script

/-- The reply to the next call.  When the script is at its end, the gateway breaks down. -/
def reply (s : Script) : Reply := s.replies.headD .breakdown

/-- The script after one more call. -/
def note (s : Script) (call : String) : Script := ⟨s.replies.tail, s.calls ++ [call]⟩

/-- Answers the running calls in order. -/
def serve (s : Script) (a : Assistant) : List Call → Assistant × Script
  | [] => (a, s)
  | call :: rest =>
    (s.note call.describe).serve (a.finish (fun c => s.reply.answer c.slot.operation) 0) rest

/-- The shell's host. -/
def host : Host (StateM Script) where
  settle a := do
    let (a', s) := (← get).serve a a.running
    set s
    return a'.drain.2
  health := do
    let s ← get
    set (s.note (Operation.health.name ++ " " ++ Operation.health.requestCodec.encode ()))
    return (s.reply.answer .health).resolve Operation.health.name

end Script

/-- What is done next. -/
inductive Step
  | line (line : String)
  | command (command : Command)
  /-- An action behind the shell's back, whose outcome is not waited for. -/
  | action (action : Action)

/-- What came of it. -/
inductive Result
  | output (output : Output)
  /-- The line was blank. -/
  | skipped
  | reaction (reaction : Reaction)

/-- Runs a command against the replies of a step. -/
def rehearse (config : Config) (a : Assistant) (command : Command) :
    StateM Script (Result × Assistant) := do
  let (output, a') ← run Script.host config a command
  return (.output output, a')

/-- Carries out a step with its replies. -/
def step (config : Config) (a : Assistant) (replies : List Reply) :
    Step → (Result × Assistant) × Script
  | .line line => match Command.parse? line with
    | none => ((.skipped, a), ⟨replies, []⟩)
    | some command => (rehearse config a command).run ⟨replies, []⟩
  | .command command => (rehearse config a command).run ⟨replies, []⟩
  | .action action =>
    let (reaction, a') := a.act action
    let (a'', s) := Script.serve ⟨replies, []⟩ a' a'.running
    ((.reaction reaction, a''), s)

end CodeAssistant.Shell
