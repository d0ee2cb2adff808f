/-
# Writing JSON

Two layouts of the same tokens: without any blanks, for requests, and indented by two spaces a
level, for a reader.  Strings escape the quote, the backslash and the control characters below
U+0020 and leave all else as it is; numbers are integers or the shortest decimal in the wire
layout.
-/
import CodeAssistant.Decimal.Layout
import CodeAssistant.Json.Value

namespace CodeAssistant.Json

/-! ## 1. Tokens -/

/-- A lower-case hexadecimal digit. -/
def hexDigit (n : Nat) : Char := Nat.digitChar (n % 16)

/-- One character inside a JSON string. -/
def escapeChar (c : Char) : List Char :=
  if c = '"' then ['\\', '"']
  else if c = '\\' then ['\\', '\\']
  else if c.toNat = 8 then ['\\', 'b']
  else if c = '\t' then ['\\', 't']
  else if c = '\n' then ['\\', 'n']
  else if c.toNat = 12 then ['\\', 'f']
  else if c = '\r' then ['\\', 'r']
  else if c.toNat < 32 then ['\\', 'u', '0', '0', hexDigit (c.toNat / 16), hexDigit c.toNat]
  else [c]

/-- A JSON string with its quotes. -/
def writeString (s : String) : List Char := '"' :: s.toList.flatMap escapeChar ++ ['"']

/-- A JSON number. -/
def writeNumber : Number → List Char
  | .natural n => Nat.toDigits 10 n.toNat
  | .negative n => '-' :: Nat.toDigits 10 (n.val + 1)
  | .float x => x.writeList .wire

/-- The words of the three constants. -/
def nullWord : List Char := ['n', 'u', 'l', 'l']
def trueWord : List Char := ['t', 'r', 'u', 'e']
def falseWord : List Char := ['f', 'a', 'l', 's', 'e']

/-! ## 2. Compact text -/

mutual

/-- The value without blanks. -/
def writeCompact : Json → List Char
  | null => nullWord
  | bool true => trueWord
  | bool false => falseWord
  | number n => writeNumber n
  | string s => writeString s
  | array [] => ['[', ']']
  | array (v :: rest) => '[' :: writeCompact v ++ writeItems rest
  | object [] => ['{', '}']
  | object ((k, v) :: rest) => '{' :: writeString k ++ ':' :: writeCompact v ++ writeMembers rest

/-- The items after the first, and the closing bracket. -/
def writeItems : List Json → List Char
  | [] => [']']
  | v :: rest => ',' :: writeCompact v ++ writeItems rest

/-- The members after the first, and the closing brace. -/
def writeMembers : List (String × Json) → List Char
  | [] => ['}']
  | (k, v) :: rest => ',' :: writeString k ++ ':' :: writeCompact v ++ writeMembers rest

end

/-- The compact text of a value. -/
def compact (v : Json) : String := String.ofList (writeCompact v)

/-! ## 3. Indented text -/

/-- A new line, indented by two spaces a level. -/
def newline (level : Nat) : List Char := '\n' :: List.replicate (2 * level) ' '

mutual

/-- The value with one item or member a line. -/
def writeIndented (level : Nat) : Json → List Char
  | null => nullWord
  | bool true => trueWord
  | bool false => falseWord
  | number n => writeNumber n
  | string s => writeString s
  | array [] => ['[', ']']
  | array (v :: rest) =>
    '[' :: newline (level + 1) ++ writeIndented (level + 1) v ++ indentItems level rest
  | object [] => ['{', '}']
  | object ((k, v) :: rest) =>
    '{' :: newline (level + 1) ++ writeString k ++ ':' :: ' ' :: writeIndented (level + 1) v
      ++ indentMembers level rest

/-- The items after the first, and the closing bracket on a line of its own. -/
def indentItems (level : Nat) : List Json → List Char
  | [] => newline level ++ [']']
  | v :: rest =>
    ',' :: newline (level + 1) ++ writeIndented (level + 1) v ++ indentItems level rest

/-- The members after the first, and the closing brace on a line of its own. -/
def indentMembers (level : Nat) : List (String × Json) → List Char
  | [] => newline level ++ ['}']
  | (k, v) :: rest =>
    ',' :: newline (level + 1) ++ writeString k ++ ':' :: ' ' :: writeIndented (level + 1) v
      ++ indentMembers level rest

end

/-- The indented text of a value. -/
def pretty (v : Json) : String := String.ofList (writeIndented 0 v)

end CodeAssistant.Json
