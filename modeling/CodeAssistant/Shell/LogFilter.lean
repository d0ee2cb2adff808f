/-
# Log filters

A log filter is a list of directives between commas.  A directive names a level, or a target and
the level for it; spans with their fields may stand between the two, in brackets, and a field may
ask for a value.  A filter that cannot be read is reported and replaced by the default.

Places in a directive are counted from its first character that is not blank, but its parts are
cut out of the text with the blanks, so blanks in front shift each part to the left.  A cut that
goes through the bytes of a character is the end of the program.
-/
import CodeAssistant.Shell.LogFilter.Pattern
import CodeAssistant.Text.Split

namespace CodeAssistant.Shell.LogFilter

/-! ## 1. Troubles -/

/-- What is wrong with a directive. -/
inductive Fault
  | level
  | directive
  /-- The value of a field is no pattern that can be used. -/
  | pattern (fault : PatternFault)
  deriving DecidableEq, Repr

/-- The fault in words. -/
def Fault.describe : Fault → String
  | level =>
    "error parsing level filter: expected one of \"off\", \"error\", \"warn\", \"info\", "
      ++ "\"debug\", \"trace\", or a number 0-5"
  | directive => "invalid filter directive"
  | pattern fault => "invalid field filter: " ++ fault.describe

/-- What can come of a directive that cannot be used. -/
inductive Trouble
  /-- It is reported. -/
  | reported (fault : Fault)
  /-- A cut went through a character. -/
  | severed
  deriving DecidableEq, Repr

/-- A part of a directive is sound, or it is some trouble. -/
abbrev Check : Type := Except Trouble Unit

/-! ## 2. Cuts -/

/-- The text behind so many bytes. -/
def dropBytes : Nat → List Char → Except Trouble (List Char)
  | 0, cs => .ok cs
  | _ + 1, [] => .error .severed
  | n + 1, c :: cs =>
    if c.utf8Size ≤ n + 1 then dropBytes (n + 1 - c.utf8Size) cs else .error .severed

/-- The text of so many bytes. -/
def takeBytes : Nat → List Char → Except Trouble (List Char)
  | 0, _ => .ok []
  | _ + 1, [] => .error .severed
  | n + 1, c :: cs =>
    if c.utf8Size ≤ n + 1 then (takeBytes (n + 1 - c.utf8Size) cs).map (c :: ·)
    else .error .severed

/-- The text between two places. -/
def cut (text : List Char) (start stop : Nat) : Except Trouble (List Char) :=
  (dropBytes start text).bind (takeBytes (stop - start))

/-! ## 3. Levels and values -/

/-- The text is a level by name or by number. -/
def isLevel (cs : List Char) : Bool :=
  let lower := String.ofList (cs.map Char.toLower)
  let digits := match cs with
    | '+' :: rest => rest
    | _ => cs
  ["off", "error", "warn", "info", "debug", "trace"].contains lower
    || (!digits.isEmpty && (Text.ofDigits? 10 digits).any (· ≤ 5))

/-- An exponent, if there is one. -/
def isExponent : List Char → Bool
  | [] => true
  | e :: cs =>
    let digits := match cs with
      | '+' :: rest => rest
      | '-' :: rest => rest
      | _ => cs
    (e = 'e' || e = 'E') && !digits.isEmpty && digits.all Char.isDigit

/-- The text is a number, with a fraction or an exponent if it likes. -/
def isNumber (cs : List Char) : Bool :=
  let body := match cs with
    | '+' :: rest => rest
    | '-' :: rest => rest
    | _ => cs
  let behindWhole := body.dropWhile Char.isDigit
  let fraction := match behindWhole with
    | '.' :: rest => rest.takeWhile Char.isDigit
    | _ => []
  let behind := match behindWhole with
    | '.' :: rest => rest.dropWhile Char.isDigit
    | rest => rest
  ["inf", "infinity", "nan"].contains (String.ofList (body.map Char.toLower))
    || (!(body.takeWhile Char.isDigit ++ fraction).isEmpty && isExponent behind)

/-- A field: its name, and behind an equals sign a number or a pattern for its value. -/
def checkField (cs : List Char) : Check :=
  match Text.splitWhere (· = '=') cs with
  | _ :: value :: _ =>
    if isNumber value then .ok ()
    else match patternFault? value with
      | none => .ok ()
      | some fault => .error (.reported (.pattern fault))
  | _ => .ok ()

/-! ## 4. Directives -/

/-- A level from a place on; nothing at all will do. -/
def checkLevel (text : List Char) (start : Nat) : Check := do
  let level ← dropBytes start text
  if level.isEmpty || isLevel level then return () else .error (.reported .level)

/-- What stands at a place behind a span: nothing or a level. -/
def checkBehind (text : List Char) (place : Nat) : List Char → Check
  | [] => .ok ()
  | '=' :: _ => checkLevel text (place + 1)
  | _ => .error (.reported .directive)

/-- The fields of a span, which began at `start`.  They are not empty, and the bracket closes
right behind them. -/
def checkFields (text : List Char) (start place : Nat) : List Char → Check
  | [] => .error (.reported .directive)
  | '}' :: rest => do
    let field ← cut text start place
    if field.isEmpty then .error (.reported .directive)
    checkField field
    match rest with
    | ']' :: rest => checkBehind text (place + 2) rest
    | _ => .error (.reported .directive)
  | c :: rest => checkFields text start (place + c.utf8Size) rest

/-- A span, which began at `start`. -/
def checkSpan (text : List Char) (start place : Nat) : List Char → Check
  | [] => .error (.reported .directive)
  | ']' :: rest => do
    let _ ← cut text start place
    checkBehind text (place + 1) rest
  | '{' :: rest => do
    let _ ← cut text start place
    checkFields text (place + 1) (place + 1) rest
  | c :: rest => checkSpan text start (place + c.utf8Size) rest

/-- A target and what follows it, or a level. -/
def checkTarget (text : List Char) (place : Nat) : List Char → Check
  | [] => .ok ()
  | '=' :: _ => do
    let _ ← cut text 0 place
    checkLevel text (place + 1)
  | '[' :: rest => do
    let _ ← cut text 0 place
    checkSpan text (place + 1) (place + 1) rest
  | c :: rest => checkTarget text (place + c.utf8Size) rest

/-- A character that a target may start with. -/
def startsTarget (c : Char) : Bool := c = '-' || c = ':' || c = '_' || Text.isLetterOrDigit c

/-- A directive. -/
def checkDirective (text : List Char) : Check :=
  match Text.trimList text with
  | [] => .error (.reported .directive)
  | '[' :: rest => checkSpan text 1 1 rest
  | c :: rest =>
    if startsTarget c then checkTarget text c.utf8Size rest else .error (.reported .directive)

/-! ## 5. Filters -/

/-- The trouble with a filter. -/
def trouble? (filter : String) : Option Trouble :=
  ((Text.splitWhere (· = ',') filter.toList).filter (!·.isEmpty)).findSome? fun directive =>
    match checkDirective directive with
    | .ok () => none
    | .error trouble => some trouble

/-- The filter that the environment asks for. -/
def ofEnvironment (environment : String → Option String) : String :=
  (((environment "VIBE_LOG").bind Text.nonBlank?).or
    ((environment "RUST_LOG").bind Text.nonBlank?)).getD "warn"

/-- The warning about a filter with a fault. -/
def warning (filter : String) (fault : Fault) : String :=
  "WARN: log filter '" ++ filter ++ "' is invalid (" ++ fault.describe
    ++ "); falling back to 'warn'"

/-- What setting up the log comes to: a warning, if there is one to give, or the end of the
program. -/
def setUp (environment : String → Option String) : Except Unit (Option String) :=
  let filter := ofEnvironment environment
  match trouble? filter with
  | none => .ok none
  | some (.reported fault) => .ok (some (warning filter fault))
  | some .severed => .error ()

end CodeAssistant.Shell.LogFilter
