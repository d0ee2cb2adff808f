/-
# Slots and rejections

A slot is a kind of call that a component keeps track of on its own.  A user action that cannot
be carried out is rejected for one of three reasons, before anything is sent.
-/
import CodeAssistant.Backend.Operation

namespace CodeAssistant

/-- A kind of call that is tracked on its own. -/
inductive Slot
  | chat
  | debug
  | plan
  | listing
  | content
  | index
  | indexStats
  deriving DecidableEq, Repr

namespace Slot

/-- The slot's name in messages. -/
def name : Slot → String
  | chat => "chat"
  | debug => "debug"
  | plan => "plan"
  | listing => "listing"
  | content => "content"
  | index => "index"
  | indexStats => "index stats"

/-- The operation that the slot's calls perform. -/
abbrev operation : Slot → Operation
  | chat => .chat
  | debug => .debug
  | plan => .plan
  | listing => .listFiles
  | content => .getFileContent
  | index => .triggerIndex
  | indexStats => .indexStats

end Slot

/-- A text that an action cannot do without. -/
inductive RequiredText
  | question
  | filePath
  | errorMessage
  | goal
  | directory
  | repositoryPath
  deriving DecidableEq, Repr

/-- The text's name in messages. -/
def RequiredText.name : RequiredText → String
  | question => "question"
  | filePath => "file_path"
  | errorMessage => "error_message"
  | goal => "goal"
  | directory => "directory"
  | repositoryPath => "repository_path"

/-- Why an action was not carried out. -/
inductive Rejection
  /-- A call of the slot has not ended yet. -/
  | busy (slot : Slot)
  /-- A required text is blank. -/
  | emptyField (text : RequiredText)
  /-- There is no earlier call to repeat. -/
  | nothingToRetry (slot : Slot)
  deriving DecidableEq, Repr

namespace Rejection

/-- The rejection in one line. -/
def describe : Rejection → String
  | busy slot => "a " ++ slot.name ++ " request is already in flight"
  | emptyField text => text.name ++ " must not be empty"
  | nothingToRetry slot => "no previous " ++ slot.name ++ " request to retry"

/-- Every rejection is a failed validation. -/
def kind (_ : Rejection) : FailureKind := .validation

end Rejection

end CodeAssistant
