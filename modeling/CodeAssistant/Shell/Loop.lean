/-
# The transcript

The program greets, lists the default directory and then reads commands line by line until there
are no more or one of them is the last.  Calls go out through a client, one after the other.
-/
import CodeAssistant.Backend.Client
import CodeAssistant.Shell.Run

namespace CodeAssistant.Shell

open Http (Network)

/-- What the shell is set to by its environment. -/
def Config.ofEnvironment (environment : String → Option String) : Config :=
  { defaultDirectory := (ClientConfig.setting? environment "VIBE_DEFAULT_DIRECTORY").getD "." }

/-! ## 1. Calls through a client -/

variable {m : Type → Type} [Monad m]

/-- Has every call of a list answered, each at the front of the running ones. -/
def answerAll (client : Client) (net : Network m) (a : Assistant) : List Call → m Assistant
  | [] => pure a
  | call :: rest => do
    let result ← client.call net call.slot.operation call.request
    answerAll client net (a.arrive 0 ⟨call, .ofExcept result⟩) rest

/-- The shell's host for a client. -/
def clientHost (client : Client) (net : Network m) : Host m where
  settle a := do return (← answerAll client net a a.running).drain.2
  health := do return .ofExcept (← client.call net .health ())

/-! ## 2. The loop -/

/-- A text and a line break; nothing for no text. -/
def block (text : String) : String := if text = "" then "" else text ++ "\n"

/-- The line that the program starts with. -/
def greeting (client : Client) : String :=
  "Connected to " ++ client.baseUrl ++ ". Type /help for commands.\n"

/-- What stands where a line is expected. -/
def prompt : String := "> "

/-- The first listing. -/
def opening (host : Host m) (config : Config) : m (String × Assistant) := do
  let (output, a) ← run host config {} (.files none)
  return (block output.text, a)

/-- Deals with a line.  The last component says that it was the last one. -/
def handleLine (host : Host m) (config : Config) (a : Assistant) (line : String) :
    m (String × Assistant × Bool) :=
  match Command.parse? line with
  | none => pure ("", a, false)
  | some command => do
    let (output, a') ← run host config a command
    return (block output.text, a', output.quit)

/-! ## 3. Lines of bytes -/

/-- The line without a carriage return at its end. -/
def chomp (line : List UInt8) : List UInt8 :=
  if line.getLast? = some 13 then line.dropLast else line

/-- The lines of an input, without their ends.  What follows the last line feed is a line if there
is anything. -/
def splitLines (bytes : List UInt8) : List (List UInt8) :=
  let pieces := Text.splitWhere (· = 10) bytes
  pieces.dropLast.map chomp ++ (pieces.getLast?.filter (!·.isEmpty)).toList

/-- Why a program ends before its input does. -/
inductive Stop
  | backend (error : BackendError)
  /-- A line is no text. -/
  | notText (line : List UInt8)
  deriving DecidableEq, Repr

/-- What the program wrote, and why it stopped short, if it did. -/
structure Transcript where
  text : String
  stop : Option Stop := none
  deriving DecidableEq, Repr

/-- Deals with the lines in order. -/
def transcribe (host : Host m) (config : Config) (a : Assistant) :
    List (List UInt8) → m Transcript
  | [] => pure ⟨prompt, none⟩
  | line :: rest =>
    match Text.Utf8.decode? line with
    | none => pure ⟨prompt, some (.notText line)⟩
    | some text => do
      let (shown, a', quit) ← handleLine host config a text
      if quit then return ⟨prompt ++ shown, none⟩
      let more ← transcribe host config a' rest
      return { more with text := prompt ++ shown ++ more.text }

/-- The whole program, given its input. -/
def transcript (net : Network m) (environment : String → Option String) (input : List UInt8) :
    m Transcript :=
  match ClientConfig.ofEnvironment environment with
  | .error e => pure ⟨"", some (.backend e)⟩
  | .ok clientConfig => match Client.ofConfig clientConfig with
    | .error e => pure ⟨"", some (.backend e)⟩
    | .ok client => do
      let host := clientHost client net
      let config := Config.ofEnvironment environment
      let (listing, a) ← opening host config
      let rest ← transcribe host config a (splitLines input)
      return { rest with text := greeting client ++ listing ++ rest.text }

end CodeAssistant.Shell
