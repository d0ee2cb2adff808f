/-
# How the program ends

A program that stops short says why on the error stream, with the cause written out as nested
names and fields, and ends with a code that is not zero.
-/
import CodeAssistant.Shell.LogFilter
import CodeAssistant.Shell.Loop

namespace CodeAssistant.Shell

/-- A name with fields. -/
def nested (name : String) (fields : List (String × String)) : String :=
  name ++ " \x7b " ++ ", ".intercalate (fields.map fun f => f.1 ++ ": " ++ f.2) ++ " \x7d"

/-- The error with all its parts.  Only faults of the configuration stop the program. -/
def detailed : BackendError → String
  | .invalidConfig fault => "InvalidConfig(" ++ Text.quote fault.describe ++ ")"
  | .invalidBaseUrl base fault =>
    nested "InvalidBaseUrl" [("url", Text.quote base), ("source", fault.name)]
  | e => e.describe

/-- Where bytes stop being a text, and how many of them are to blame; none at all if there are
too few. -/
def encodingFault (bytes : List UInt8) : String :=
  let (cs, left) := Text.Utf8.readChars bytes
  let blame := match Text.Utf8.Head.of left with
    | .malformed bad _ => "Some(" ++ toString bad ++ ")"
    | _ => "None"
  nested "Utf8Error" [("valid_up_to", toString (Text.Utf8.size cs)), ("error_len", blame)]

/-- Why the program stopped, in one line. -/
def Stop.describe : Stop → String
  | backend e => "Error: " ++ nested "Custom" [("kind", "Other"), ("error", detailed e)]
  | notText line =>
    let bytes := "[" ++ ", ".intercalate (line.map fun b => toString b.toNat) ++ "]"
    "Error: " ++ nested "Custom"
      [("kind", "InvalidData"),
       ("error", nested "FromUtf8Error" [("bytes", bytes), ("error", encodingFault line)])]

/-- What a run of the program leaves behind. -/
structure Run where
  output : String
  exitCode : Nat
  /-- The lines on the error stream, the log apart. -/
  messages : List String
  deriving DecidableEq, Repr

variable {m : Type → Type} [Monad m]

/-- The exit code of a program that stopped short. -/
def stopCode : Nat := 1

/-- The exit code of a program that broke down before it began. -/
def breakdownCode : Nat := 101

/-- Runs the program on its input. -/
def runProgram (net : Http.Network m) (environment : String → Option String)
    (input : List UInt8) : m Run :=
  match LogFilter.setUp environment with
  | .error () => pure { output := "", exitCode := breakdownCode, messages := [] }
  | .ok warning => do
    let t ← transcript net environment input
    return {
      output := t.text
      exitCode := if t.stop.isSome then stopCode else 0
      messages := warning.toList ++ (t.stop.map Stop.describe).toList }

end CodeAssistant.Shell
