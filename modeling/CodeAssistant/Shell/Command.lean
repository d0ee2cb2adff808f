/-
# Commands

A line of input is a command: text is a question, and a line that starts with a slash names what
to do.  The fields of a command are separated by `::` standing alone, with a blank or the end of
the text on either side, so that names such as `a::b` stay whole.
-/
import CodeAssistant.Text.Blank
import CodeAssistant.Wire.Request

namespace CodeAssistant.Shell

/-- A command. -/
inductive Command
  | ask (question : String)
  | files (directory : Option String)
  | retry
  | openFile (path : String)
  | debug (request : DebugRequest)
  | plan (request : PlanRequest)
  | index (path : String)
  | stats
  | health
  | reset
  | help
  | quit
  /-- A command that lacks an argument, with a line that shows how to use it. -/
  | usage (line : String)
  | unknown (name : String)
  deriving DecidableEq, Repr

/-- What `/help` shows. -/
def helpText : String :=
  "\n".intercalate
    ["Type a question to chat, or use a command:",
     "  /files [dir]                          list files (default: last directory)",
     "  /retry                                retry the last listing",
     "  /open <path>                          show a file",
     "  /debug <file> :: <error> [:: <ctx>]   analyze an error",
     "  /plan <goal> [:: <scope>]             plan a change",
     "  /index <path>                         index a repository",
     "  /stats                                show index stats",
     "  /health                               check the backend",
     "  /reset                                clear the conversation",
     "  /help                                 show this help",
     "  /quit                                 exit",
     "Fields are separated by a standalone `::` with spaces around it."]

/-! ## 1. Fields -/

/-- The text starts with a blank, or is at its end. -/
def startsBlank : List Char → Bool
  | [] => true
  | c :: _ => Text.isBlankChar c

/-- Cuts a text at standalone separators, at most `cuts` times.  `field` is the current field so
far, last character first, and `blankBefore` says whether a blank or the start of the text stands
before what is left.  Two colons that are no separator are passed over together. -/
def splitFrom : Nat → List Char → Bool → List Char → List (List Char)
  | 0, field, _, rest => [field.reverse ++ rest]
  | _ + 1, field, _, [] => [field.reverse]
  | cuts + 1, field, blankBefore, ':' :: ':' :: rest =>
    if blankBefore && startsBlank rest then field.reverse :: splitFrom cuts [] false rest
    else splitFrom (cuts + 1) (':' :: ':' :: field) false rest
  | cuts + 1, field, _, c :: rest =>
    splitFrom (cuts + 1) (c :: field) (Text.isBlankChar c) rest

/-- The trimmed fields of a text, at most `limit` of them. -/
def splitFields (limit : Nat) (text : List Char) : List String :=
  (splitFrom (limit - 1) [] true text).map fun field => String.ofList (Text.trimList field)

/-! ## 2. Lines -/

/-- The debug command with these arguments. -/
def parseDebug (arguments : List Char) : Command :=
  let usage := .usage "/debug <file> :: <error> [:: <context>]"
  match splitFields 3 arguments with
  | file :: error :: more =>
    if file = "" || error = "" then usage
    else .debug ⟨file, error, more.head?.bind Text.nonBlank?⟩
  | _ => usage

/-- The plan command with these arguments. -/
def parsePlan (arguments : List Char) : Command :=
  let usage := .usage "/plan <goal> [:: <scope>]"
  match splitFields 2 arguments with
  | goal :: more =>
    if goal = "" then usage else .plan ⟨goal, more.head?.bind Text.nonBlank?⟩
  | [] => usage

/-- A command with one argument, which it cannot do without. -/
def withArgument (make : String → Command) (usage : String) (arguments : List Char) : Command :=
  match Text.nonBlank? (String.ofList arguments) with
  | some argument => make argument
  | none => .usage usage

/-- The command with a name and arguments. -/
def parseNamed (name : String) (arguments : List Char) : Command :=
  match name with
  | "/files" => .files (Text.nonBlank? (String.ofList arguments))
  | "/retry" => .retry
  | "/open" => withArgument .openFile "/open <path>" arguments
  | "/debug" => parseDebug arguments
  | "/plan" => parsePlan arguments
  | "/index" => withArgument .index "/index <path>" arguments
  | "/stats" => .stats
  | "/health" => .health
  | "/reset" => .reset
  | "/help" => .help
  | "/quit" => .quit
  | "/exit" => .quit
  | _ => .unknown name

/-- The command on a line; none on a blank one. -/
def Command.parse? (line : String) : Option Command :=
  match Text.trimList line.toList with
  | [] => none
  | '/' :: cs =>
    let named := ('/' :: cs).takeWhile fun c => !Text.isBlankChar c
    let rest := ('/' :: cs).dropWhile fun c => !Text.isBlankChar c
    some (parseNamed (String.ofList named) (Text.trimList rest))
  | cs => some (.ask (String.ofList cs))

end CodeAssistant.Shell
