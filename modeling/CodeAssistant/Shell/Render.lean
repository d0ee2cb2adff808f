/-
# Plain text

How the parts of the screen read in a transcript.
-/
import CodeAssistant.Assistant.Screen
import CodeAssistant.Decimal.Layout

namespace CodeAssistant.Shell.Render

open Decimal (Layout)

/-- A failure. -/
def failureLine (f : Failure) : String :=
  "Error: " ++ f.message ++ " [" ++ f.kind.name ++ "]"

/-- How much context an answer used. -/
def usage (u : ContextUsage) : String :=
  "chunks " ++ toString u.packedChunks.toNat ++ "/" ++ toString u.totalChunks.toNat
    ++ ", tokens " ++ toString u.totalTokens.toNat
    ++ " (context " ++ toString u.contextTokens.toNat
    ++ ", system " ++ toString u.systemTokens.toNat
    ++ "), utilization " ++ u.utilization.write Layout.display

/-- A usage on a line of its own. -/
def usageLine (u : ContextUsage) : String := "\n  [" ++ usage u ++ "]"

/-- One turn of the conversation. -/
def turn (t : Turn) : String :=
  let speaker := match t.role with
    | .user => "you"
    | .assistant => "assistant"
  speaker ++ "> " ++ t.content ++ (t.usage?.map usageLine).getD ""

/-- One row of the file tree. -/
def fileRow (row : FileRow) : String :=
  (if row.selected then ">" else " ") ++ " " ++ row.category.icon ++ " " ++ row.entry.path
    ++ " (" ++ toString row.entry.size.toNat ++ " bytes)"

/-- The file tree. -/
def listing (s : Screen) : String :=
  let directory := s.directory.getD "."
  if s.listingLoading then "Loading files in " ++ directory ++ "..."
  else
    "Files in " ++ directory ++ ":"
      ++ (if s.files.isEmpty then "\n  (no files)" else "")
      ++ String.join (s.files.map fun row => "\n" ++ fileRow row)
      ++ (match s.listingError with
        | some f => "\n" ++ failureLine f ++ "\n  (use /retry to try again)"
        | none => "")

/-- The content pane. -/
def content : ContentView → String
  | .noSelection => "No file selected."
  | .loading path => path ++ "\n" ++ ContentView.loadingPlaceholder
  | .ready path text lines category =>
    category.icon ++ " " ++ path ++ " (" ++ toString lines.toNat ++ " lines, "
      ++ category.language ++ ")\n" ++ text
  | .failed path failure => path ++ "\n" ++ failureLine failure

/-- The explanation of an error. -/
def debug : Option (Outcome DebugResponse) → String
  | none => ""
  | some .pending => "Analyzing..."
  | some (.success r) =>
    "Analysis:\n" ++ r.analysis ++ "\n\nSuggested fix:\n" ++ r.suggestedFix ++ usageLine r.usage
  | some (.failure f) => failureLine f

/-- A plan. -/
def plan : Option (Outcome PlanResponse) → String
  | none => ""
  | some .pending => "Planning..."
  | some (.success r) => "Plan:\n" ++ r.plan ++ usageLine r.usage
  | some (.failure f) => failureLine f

/-- A status line. -/
def status (line : StatusLine) : String :=
  let sign := match line.tone with
    | .info => ".."
    | .success => "ok"
    | .error => "!!"
  sign ++ " " ++ line.message

/-- The index panel. -/
def index (s : Screen) : String :=
  "\n".intercalate
    ((s.indexStatus.map status).toList
      ++ (s.indexStats.map fun stats => "Index stats:\n" ++ stats.pretty).toList)

/-- The state of the backend. -/
def health : Outcome HealthStatus → String
  | .success h => if h.isHealthy then "Backend is healthy." else "Backend status: " ++ h.status
  | .failure f => failureLine f
  | .pending => "Checking backend..."

/-- An action that was not carried out. -/
def rejection (reason : Rejection) : String := "(ignored: " ++ reason.describe ++ ")"

end CodeAssistant.Shell.Render
