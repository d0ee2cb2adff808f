/-
# Requests

The bodies that the backend is sent.  Normalising a request trims what it must have and drops an
optional text that is blank.
-/
import CodeAssistant.Codec.Record
import CodeAssistant.Text.Blank

namespace CodeAssistant

/-- A question.  With `stream` the answer is wanted in pieces. -/
structure ChatRequest where
  question : String
  stream : Bool := false
  deriving DecidableEq, Repr

namespace ChatRequest

/-- The same question, answered in pieces. -/
def streaming (r : ChatRequest) : ChatRequest := { r with stream := true }

/-- The JSON form. -/
def codec : Codec ChatRequest :=
  (Codec.record "ChatRequest"
    (.cons (.required "question" .text) (.cons (.optional "stream" .flag false) .nil))).reshape
    (fun (question, stream, ()) => ⟨question, stream⟩) (fun r => (r.question, r.stream, ()))

end ChatRequest

/-- An error to be explained, in a file. -/
structure DebugRequest where
  filePath : String
  errorMessage : String
  context : Option String := none
  deriving DecidableEq, Repr

namespace DebugRequest

/-- Trims the required texts and drops a blank context. -/
def normalized (r : DebugRequest) : DebugRequest :=
  ⟨Text.trim r.filePath, Text.trim r.errorMessage, r.context.bind Text.nonBlank?⟩

/-- The JSON form. -/
def codec : Codec DebugRequest :=
  (Codec.record "DebugRequest"
    (.cons (.required "file_path" .text)
      (.cons (.required "error_message" .text) (.cons (.maybe "context" .text) .nil)))).reshape
    (fun (file, error, context, ()) => ⟨file, error, context⟩)
    (fun r => (r.filePath, r.errorMessage, r.context, ()))

end DebugRequest

/-- A change to be planned. -/
structure PlanRequest where
  goal : String
  scope : Option String := none
  deriving DecidableEq, Repr

namespace PlanRequest

/-- Trims the goal and drops a blank scope. -/
def normalized (r : PlanRequest) : PlanRequest :=
  ⟨Text.trim r.goal, r.scope.bind Text.nonBlank?⟩

/-- The JSON form. -/
def codec : Codec PlanRequest :=
  (Codec.record "PlanRequest"
    (.cons (.required "goal" .text) (.cons (.maybe "scope" .text) .nil))).reshape
    (fun (goal, scope, ()) => ⟨goal, scope⟩) (fun r => (r.goal, r.scope, ()))

end PlanRequest

/-- A repository to be indexed. -/
structure IndexRequest where
  repositoryPath : String
  deriving DecidableEq, Repr

/-- The JSON form. -/
def IndexRequest.codec : Codec IndexRequest :=
  (Codec.record "IndexRequest" (.cons (.required "repository_path" .text) .nil)).reshape
    (fun (path, ()) => ⟨path⟩) (fun r => (r.repositoryPath, ()))

end CodeAssistant
