/-
# Patterns of field values

A log filter may ask for the value of a field by a pattern, a regular expression over Unicode
text.  `patternFault?` says what keeps a text from being one that can be used; what patterns match
is of no concern here.

A pattern is read element by element.  `State` is what has to be known at each place: the mode
that the flags have set, how deep the elements nest, and the groups that are open.  Properties of
Unicode are not to be had in a pattern: without the flag that turns to ASCII (`-u`) there are no
shorthand classes, no edges of words and no ignoring of case, and with it nothing that would match
less than a whole character.  Edges of words alone are found out only when all else has been read.

A closing brace ends the fields of a span, so nothing that ends in one is ever complete: neither
counts of repetitions nor numbers in braces.
-/
import CodeAssistant.Text.Alphanumeric
import CodeAssistant.Text.Blank
import CodeAssistant.Text.Digits

namespace CodeAssistant.Shell.LogFilter

open Text

/-! ## 1. Modes -/

/-- What the flags say at a place of a pattern. -/
structure Mode where
  unicode : Bool := true
  /-- Letters stand for either case. -/
  caseless : Bool := false
  /-- Blanks and comments do not count. -/
  spaced : Bool := false
  deriving DecidableEq, Repr

namespace Mode

/-- A character may stand for itself, and characters may be listed. -/
def allowsText (m : Mode) : Bool := !(m.unicode && m.caseless)

/-- The text behind blanks and comments. -/
def skipFrom (inComment : Bool) : List Char → List Char
  | [] => []
  | c :: cs =>
    if inComment then skipFrom (c ≠ '\n') cs
    else if isBlankChar c then skipFrom false cs
    else if c = '#' then skipFrom true cs
    else c :: cs

/-- The text behind what does not count. -/
def skip (m : Mode) (cs : List Char) : List Char := if m.spaced then skipFrom false cs else cs

/-- The character behind blanks, and behind one number sign among them. -/
def peek (m : Mode) (cs : List Char) : Option Char :=
  if m.spaced then
    match cs.dropWhile isBlankChar with
    | '#' :: rest => (rest.dropWhile isBlankChar).head?
    | rest => rest.head?
  else cs.head?

/-- The mode with a flag set or cleared. -/
def set (m : Mode) (value : Bool) : Char → Mode
  | 'u' => { m with unicode := value }
  | 'i' => { m with caseless := value }
  | 'x' => { m with spaced := value }
  | _ => m

/-- The letters of flags. -/
def flags : List Char := ['i', 'm', 's', 'U', 'u', 'R', 'x']

/-- The mode with flags set, and those behind a minus sign cleared.  No flag is named twice, and
the minus sign is not the last. -/
def withFlags? (m : Mode) (cs : List Char) : Option Mode :=
  if !(cs.all fun c => c = '-' || flags.contains c) || !cs.Nodup || cs.getLast? = some '-' then none
  else
    let on := cs.takeWhile (· ≠ '-')
    some (((cs.dropWhile (· ≠ '-')).drop 1).foldl (·.set false) (on.foldl (·.set true) m))

end Mode

/-! ## 2. Escapes -/

/-- What a backslash and the characters behind it stand for. -/
inductive Escape
  | char (c : Char)
  /-- A number of two hexadecimal digits. -/
  | byte (n : Nat)
  /-- Digits, blanks or the characters of words, or all others. -/
  | shorthand (negated : Bool)
  /-- A place: an end of the text, or the edge of a word. -/
  | edge (ofWord : Bool)
  deriving DecidableEq, Repr

/-- The character with a number. -/
def charOf? (n : Nat) : Option Char := if n.isValidChar then some (Char.ofNat n) else none

/-- A number of so many hexadecimal digits, behind the digits of `n`. -/
def readHex? (m : Mode) (n : Nat) : Nat → List Char → Option (Nat × List Char)
  | 0, cs => some (n, cs)
  | count + 1, cs => match m.skip cs with
    | c :: rest => match hexValue? c with
      | some digit => readHex? m (16 * n + digit) count rest
      | none => none
    | [] => none

/-- A character by its number. -/
def readCode? (m : Mode) (count : Nat) (cs : List Char) : Option (Escape × List Char) :=
  match readHex? m 0 count cs with
  | none => none
  | some (n, rest) => (charOf? n).map fun c => (.char c, rest)

/-- The characters that letters stand for. -/
def controls : List (Char × Char) :=
  [('a', '\x07'), ('f', '\x0C'), ('n', '\n'), ('r', '\r'), ('t', '\t'), ('v', '\x0B')]

/-- Reads an escape, from behind the backslash.  Other than letters and digits, all of ASCII may
be escaped. -/
def readEscape? (m : Mode) : List Char → Option (Escape × List Char)
  | [] => none
  | 'x' :: rest => (readHex? m 0 2 rest).map fun (n, rest) => (.byte n, rest)
  | 'u' :: rest => readCode? m 4 rest
  | 'U' :: rest => readCode? m 8 rest
  | c :: rest =>
    if ['d', 's', 'w'].contains c then some (.shorthand false, rest)
    else if ['D', 'S', 'W'].contains c then some (.shorthand true, rest)
    else if ['A', 'z'].contains c then some (.edge false, rest)
    else if ['b', 'B', '<', '>'].contains c then some (.edge true, rest)
    else match controls.find? (·.1 = c) with
      | some (_, control) => some (.char control, rest)
      | none => if c.toNat < 0x80 && !c.isAlphanum then some (.char c, rest) else none

/-- The escape may stand in a pattern. -/
def Mode.allows (m : Mode) : Escape → Bool
  | .char _ => m.allowsText
  | .byte n => if m.unicode then m.allowsText else n < 0x80
  | .shorthand negated => !m.unicode && !negated
  | .edge _ => true

/-! ## 3. Nesting -/

/-- How deep a pattern may nest. -/
def nestLimit : Nat := 250

/-- Elements that follow each other, with their depths. -/
structure Row where
  count : Nat := 0
  /-- The greatest depth of the elements in front of the last. -/
  before : Nat := 0
  /-- The depth of the last. -/
  last : Nat := 0
  deriving DecidableEq, Repr

namespace Row

/-- One more element. -/
def push (r : Row) (depth : Nat) : Row := ⟨r.count + 1, max r.before r.last, depth⟩

/-- The depth of the whole: an element alone is not nested by its row. -/
def depth (r : Row) : Nat := if r.count ≤ 1 then r.last else 1 + max r.before r.last

end Row

/-- A row, and the depth of what the signs in front of it join it to. -/
structure Nest where
  row : Row := {}
  left : Option Nat := none
  deriving DecidableEq, Repr

namespace Nest

/-- The depth of the whole. -/
def depth (n : Nest) : Nat :=
  match n.left with
  | none => n.row.depth
  | some left => 1 + max left n.row.depth

/-- One more element in the row. -/
def push (n : Nest) (depth : Nat) : Nest := { n with row := n.row.push depth }

/-- The last element is nested once more. -/
def wrap (n : Nest) : Nest := { n with row := { n.row with last := n.row.last + 1 } }

/-- Another row, beside all in front of it. -/
def alternate (n : Nest) : Nest := { left := some (max (n.left.getD 0) n.row.depth) }

/-- Another row, joined to all in front of it as one. -/
def operate (n : Nest) : Nest := { left := some n.depth }

end Nest

/-! ## 4. Classes -/

/-- The names of classes of ASCII. -/
def classNames : List String :=
  ["alnum", "alpha", "ascii", "blank", "cntrl", "digit", "graph", "lower", "print", "punct",
   "space", "upper", "word", "xdigit"]

/-- A class by its name, from behind the bracket: whether it is negated, and the text behind it. -/
def readNamedClass? : List Char → Option (Bool × List Char)
  | ':' :: cs =>
    let negated := cs.head? = some '^'
    let cs := if negated then cs.drop 1 else cs
    let name := String.ofList (cs.takeWhile (· ≠ ':'))
    match cs.dropWhile (· ≠ ':') with
    | ':' :: ']' :: rest => if classNames.contains name then some (negated, rest) else none
    | _ => none
  | _ => none

/-- A character in a class, or a shorthand. -/
def readMember? (m : Mode) : List Char → Option (Option Char × List Char)
  | [] => none
  | '\\' :: cs => match readEscape? m cs with
    | some (.char c, rest) => if m.unicode || c.toNat < 0x80 then some (some c, rest) else none
    | some (.byte n, rest) => if m.unicode || n < 0x80 then some (some (Char.ofNat n), rest) else none
    | some (.shorthand negated, rest) => if m.unicode || negated then none else some (none, rest)
    | _ => none
  | c :: rest => if m.unicode || c.toNat < 0x80 then some (some c, rest) else none

/-- A member of a class or a range of them, whose ends stand in order. -/
def readMembers? (m : Mode) (cs : List Char) : Option (List Char) :=
  match readMember? m cs with
  | none => none
  | some (low, rest) =>
    match m.skip rest with
    | '-' :: behind =>
      if [some ']', some '-'].contains (m.peek behind) then some ('-' :: behind)
      else match low, readMember? m (m.skip behind) with
        | some low, some (some high, rest) => if low ≤ high then some rest else none
        | _, _ => none
    | rest => some rest

/-- An open bracket of a class. -/
structure Bracket where
  nest : Nest := {}
  /-- Nothing has been read but dashes, which stand for themselves here. -/
  front : Bool := true
  deriving DecidableEq, Repr

namespace Bracket

/-- One more member. -/
def push (b : Bracket) (depth : Nat) : Bracket := ⟨b.nest.push depth, false⟩

/-- A dash or a bracket that stands for itself. -/
def isPlain (b : Bracket) (c : Char) : Bool :=
  b.front && (c = '-' || (c = ']' && b.nest.row.count = 0))

/-- Opens a bracket: whether its class is negated, and the text behind that. -/
def opening (m : Mode) (cs : List Char) : Bool × List Char :=
  match m.skip cs with
  | '^' :: rest => (true, rest)
  | cs => (false, cs)

end Bracket

/-- The depth of a class and the text behind it, from inside its brackets, the innermost first.
Classes nest, and two signs between them combine them. -/
def readBrackets? (m : Mode) : Nat → List Bracket → List Char → Option (Nat × List Char)
  | 0, _, _ => none
  | _ + 1, [], _ => none
  | fuel + 1, b :: outer, cs =>
    match m.skip cs with
    | [] => none
    | c :: rest =>
      if b.isPlain c then
        if m.allowsText then
          readBrackets? m fuel ({ b.push 0 with front := c = '-' } :: outer) rest
        else none
      else match c, rest with
        | '[', rest => match readNamedClass? rest with
          | some (negated, rest) =>
            if m.allowsText && (m.unicode || !negated) then
              readBrackets? m fuel (b.push 0 :: outer) rest
            else none
          | none =>
            let (negated, rest) := Bracket.opening m rest
            if negated && !m.unicode then none else readBrackets? m fuel ({} :: b :: outer) rest
        | ']', rest => match outer with
          | [] => some (b.nest.depth + 1, rest)
          | around :: outer => readBrackets? m fuel (around.push (b.nest.depth + 1) :: outer) rest
        | '&', '&' :: rest => readBrackets? m fuel (⟨b.nest.operate, false⟩ :: outer) rest
        | '-', '-' :: rest => readBrackets? m fuel (⟨b.nest.operate, false⟩ :: outer) rest
        | '~', '~' :: rest => readBrackets? m fuel (⟨b.nest.operate, false⟩ :: outer) rest
        | c, rest => match readMembers? m (c :: rest) with
          | none => none
          | some rest =>
            if m.allowsText then readBrackets? m fuel (b.push 0 :: outer) rest else none

/-- The depth of a class and the text behind it, from behind its first bracket. -/
def readClass? (m : Mode) (cs : List Char) : Option (Nat × List Char) :=
  let (negated, rest) := Bracket.opening m cs
  if negated && !m.unicode then none else readBrackets? m (cs.length + 1) [{}] rest

/-! ## 5. Elements -/

/-- The text behind the sign for as few repetitions as possible. -/
def skipLazy : List Char → List Char
  | '?' :: rest => rest
  | cs => cs

/-- What has to be known at a place of a pattern. -/
structure State where
  mode : Mode := {}
  /-- The elements of the innermost group. -/
  nest : Nest := {}
  /-- Something stands in front that can be repeated. -/
  repeatable : Bool := false
  /-- The modes around the open groups, and the elements there. -/
  outer : List (Mode × Nest) := []
  /-- The names of the groups so far. -/
  names : List (List Char) := []
  /-- There was an edge of a word of Unicode. -/
  wordEdge : Bool := false
  deriving DecidableEq, Repr

namespace State

/-- The state behind something of some depth that can be repeated. -/
def behindItem (s : State) (depth : Nat) : State :=
  { s with nest := s.nest.push depth, repeatable := true }

/-- Opens a group. -/
def enter (s : State) (mode : Mode) : State :=
  { s with mode, nest := {}, outer := (s.mode, s.nest) :: s.outer, repeatable := false }

/-- The name of a group. -/
def isGroupName : List Char → Bool
  | [] => false
  | c :: cs => (c = '_' || isLetter c)
    && cs.all fun d => ['_', '.', '[', ']'].contains d || isLetterOrDigit d

/-- Opens a group with a name, from behind the angle bracket. -/
def enterNamed? (s : State) (cs : List Char) : Option (State × List Char) :=
  let name := cs.takeWhile (· ≠ '>')
  match cs.dropWhile (· ≠ '>') with
  | _ :: rest =>
    if isGroupName name && !s.names.contains name then
      some ({ s.enter s.mode with names := name :: s.names }, rest)
    else none
  | [] => none

/-- Flags, for a group or for what follows, from behind the question mark. -/
def readFlags? (s : State) (cs : List Char) : Option (State × List Char) :=
  let flags := cs.takeWhile fun c => !(c = ':' || c = ')')
  match cs.dropWhile fun c => !(c = ':' || c = ')'), s.mode.withFlags? flags with
  | ':' :: rest, some mode => some (s.enter mode, rest)
  | ')' :: rest, some mode =>
    if flags.isEmpty then none
    else some ({ s with mode, nest := s.nest.push 0, repeatable := false }, rest)
  | _, _ => none

/-- What an opening parenthesis does.  There is no looking ahead or behind. -/
def openGroup? (s : State) (cs : List Char) : Option (State × List Char) :=
  match s.mode.skip cs with
  | '?' :: '=' :: _ => none
  | '?' :: '!' :: _ => none
  | '?' :: '<' :: '=' :: _ => none
  | '?' :: '<' :: '!' :: _ => none
  | '?' :: 'P' :: '<' :: rest => s.enterNamed? rest
  | '?' :: '<' :: rest => s.enterNamed? rest
  | '?' :: rest => s.readFlags? rest
  | rest => some (s.enter s.mode, rest)

/-- Reads one element. -/
def step? (s : State) : List Char → Option (State × List Char)
  | [] => none
  | '(' :: rest => s.openGroup? rest
  | ')' :: rest => match s.outer with
    | [] => none
    | (mode, nest) :: outer =>
      some ({ s with mode, nest := nest.push (s.nest.depth + 1), outer, repeatable := true }, rest)
  | '|' :: rest => some ({ s with nest := s.nest.alternate, repeatable := false }, rest)
  | '[' :: rest => (readClass? s.mode rest).map fun (depth, rest) => (s.behindItem depth, rest)
  | '{' :: _ => none
  | '.' :: rest => if s.mode.unicode then some (s.behindItem 0, rest) else none
  | '\\' :: cs => match readEscape? s.mode cs with
    | none => none
    | some (escape, rest) =>
      if s.mode.allows escape then
        some ({ s.behindItem 0 with
          wordEdge := s.wordEdge || (s.mode.unicode && escape = .edge true) }, rest)
      else none
  | c :: rest =>
    if ['?', '*', '+'].contains c then
      if s.repeatable then some ({ s with nest := s.nest.wrap }, skipLazy rest) else none
    else if c = '^' || c = '$' || s.mode.allowsText then some (s.behindItem 0, rest)
    else none

/-- The state at the end of a text, if the text completes a pattern.  Every element takes at least
a character, so the length of the text bounds their number. -/
def finish? : Nat → State → List Char → Option State
  | 0, _, _ => none
  | fuel + 1, s, cs => match s.mode.skip cs with
    | [] => if s.outer.isEmpty && s.nest.depth ≤ nestLimit then some s else none
    | cs => match s.step? cs with
      | none => none
      | some (s', rest) => finish? fuel s' rest

end State

/-- What keeps a text from being a pattern that can be used. -/
inductive PatternFault
  | malformed
  /-- It asks for an edge of a word of Unicode. -/
  | wordEdge
  deriving DecidableEq, Repr

/-- The fault in words. -/
def PatternFault.describe : PatternFault → String
  | malformed => "error building NFA"
  | wordEdge =>
    "unsupported regex feature for DFAs: cannot build DFAs for regexes with Unicode word "
      ++ "boundaries; switch to ASCII word boundaries, or heuristically enable Unicode word "
      ++ "boundaries or use a different regex engine"

/-- The fault of a text as a pattern. -/
def patternFault? (cs : List Char) : Option PatternFault :=
  match State.finish? (cs.length + 1) {} cs with
  | none => some .malformed
  | some s => if s.wordEdge then some .wordEdge else none

end CodeAssistant.Shell.LogFilter
