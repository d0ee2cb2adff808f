/-
# What can be wrong with a JSON text, and where

A fault is a reason and a place.  While a text is read the place is known as the number of bytes
that are left after it; the line and the column follow from the whole text.  Lines are counted
from one, the column is the number of bytes since the last line feed.

Two kinds of place occur: just after what has been read (`Fault.here`), and one byte further, so
that the offending byte is counted as well (`Fault.next`; at the end of the text there is none).
-/
import CodeAssistant.Decimal.Layout
import CodeAssistant.Json.Value
import CodeAssistant.Text.Quoted
import CodeAssistant.Text.Utf8

namespace CodeAssistant

/-! ## 1. Reasons -/

/-- What was found where something else was expected. -/
inductive Found
  | null
  | bool (b : Bool)
  | number (n : Number)
  | string (s : String)
  | list
  | map
  deriving DecidableEq, Repr

/-- What was expected of a value. -/
inductive Expected
  | text
  | flag
  | natural64
  | integer64
  | float64
  | list
  | record (name : String)
  | unit
  | variant
  deriving DecidableEq, Repr

/-- Why a text cannot be read. -/
inductive Reason
  | endInValue
  | endInString
  | endInList
  | endInObject
  | expectedValue
  | expectedIdent
  | invalidNumber
  | numberOutOfRange
  | controlCharacter
  | invalidEscape
  | loneSurrogate
  | endOfHexEscape
  | keyNotString
  | trailingComma
  | expectedColon
  | expectedListEnd
  | expectedObjectEnd
  | tooDeep
  | trailingCharacters
  | duplicateField (key : String)
  | missingField (key : String)
  | tooFewElements (found : Nat) (record : String) (fields : Nat)
  | wrongKind (found : Found) (expected : Expected)
  | outOfRange (found : Number) (expected : Expected)
  | unknownVariant (name : String) (known : List String)
  deriving DecidableEq, Repr

/-- A number in a message. -/
def Number.describe : Number → String
  | .float x => "floating point `" ++ x.write .wire ++ "`"
  | n => "integer `" ++ toString (n.toInt?.getD 0) ++ "`"

/-- What was found, in a message. -/
def Found.describe : Found → String
  | null => "null"
  | bool b => "boolean `" ++ (if b then "true" else "false") ++ "`"
  | number n => n.describe
  | string s => "string " ++ Text.quote s
  | list => "sequence"
  | map => "map"

/-- What was expected, in a message. -/
def Expected.describe : Expected → String
  | text => "a string"
  | flag => "a boolean"
  | natural64 => "u64"
  | integer64 => "i64"
  | float64 => "f64"
  | list => "a sequence"
  | record name => "struct " ++ name
  | unit => "unit"
  | variant => "variant identifier"

/-- Names in backquotes, separated by commas. -/
def describeNames (names : List String) : String :=
  ", ".intercalate (names.map fun n => "`" ++ n ++ "`")

/-- The reason in words. -/
def Reason.describe : Reason → String
  | endInValue => "EOF while parsing a value"
  | endInString => "EOF while parsing a string"
  | endInList => "EOF while parsing a list"
  | endInObject => "EOF while parsing an object"
  | expectedValue => "expected value"
  | expectedIdent => "expected ident"
  | invalidNumber => "invalid number"
  | numberOutOfRange => "number out of range"
  | controlCharacter => "control character (\\u0000-\\u001F) found while parsing a string"
  | invalidEscape => "invalid escape"
  | loneSurrogate => "lone leading surrogate in hex escape"
  | endOfHexEscape => "unexpected end of hex escape"
  | keyNotString => "key must be a string"
  | trailingComma => "trailing comma"
  | expectedColon => "expected `:`"
  | expectedListEnd => "expected `,` or `]`"
  | expectedObjectEnd => "expected `,` or `\x7d`"
  | tooDeep => "recursion limit exceeded"
  | trailingCharacters => "trailing characters"
  | duplicateField key => "duplicate field `" ++ key ++ "`"
  | missingField key => "missing field `" ++ key ++ "`"
  | tooFewElements found record fields =>
    "invalid length " ++ toString found ++ ", expected struct " ++ record ++ " with "
      ++ toString fields ++ (if fields = 1 then " element" else " elements")
  | wrongKind found expected =>
    "invalid type: " ++ found.describe ++ ", expected " ++ expected.describe
  | outOfRange found expected =>
    "invalid value: " ++ found.describe ++ ", expected " ++ expected.describe
  | unknownVariant name known =>
    "unknown variant `" ++ name ++ "`, expected one of " ++ describeNames known

/-! ## 2. Places -/

/-- A reason and the number of bytes of the text that are left after its place. -/
structure Fault where
  reason : Reason
  left : Nat
  deriving DecidableEq, Repr

namespace Fault

/-- A fault just before the characters that are left. -/
def here (reason : Reason) (rest : List Char) : Fault := ⟨reason, Text.Utf8.size rest⟩

/-- A fault one byte further, if there is one. -/
def next (reason : Reason) (rest : List Char) : Fault := ⟨reason, Text.Utf8.size rest - 1⟩

end Fault

/-- A place in a text. -/
structure Place where
  line : Nat
  column : Nat
  deriving DecidableEq, Repr

/-- The place after so many bytes of a text. -/
def Place.after (bytes : List UInt8) (count : Nat) : Place :=
  (bytes.take count).foldl
    (fun p b => if b = 10 then ⟨p.line + 1, 0⟩ else ⟨p.line, p.column + 1⟩) ⟨1, 0⟩

/-- The fault in words, with its place in the text. -/
def Fault.describe (text : String) (fault : Fault) : String :=
  let bytes := Text.Utf8.encode text
  let place := Place.after bytes (bytes.length - fault.left)
  fault.reason.describe ++ " at line " ++ toString place.line ++ " column "
    ++ toString place.column

end CodeAssistant
