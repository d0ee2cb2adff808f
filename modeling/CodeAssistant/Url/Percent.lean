/-
# Percent encoding

Characters that have a meaning in a part of a URL, or that no URL may contain, are written as the
bytes of their UTF-8 form, each as a percent sign and two hexadecimal digits.  Which characters
those are depends on the part; a percent sign itself is left alone, so that text which is encoded
already stays as it is.
-/
import CodeAssistant.Text.Digits
import CodeAssistant.Text.Utf8

namespace CodeAssistant.Url.Percent

/-! ## 1. Sets of characters -/

/-- Control characters, and all beyond ASCII. -/
def controls (c : Char) : Bool := c.toNat < 0x20 || 0x7E < c.toNat

/-- What is encoded in a fragment. -/
def inFragment (c : Char) : Bool := controls c || [' ', '"', '<', '>', '`'].contains c

/-- What is encoded in a query. -/
def inQuery (c : Char) : Bool := controls c || [' ', '"', '#', '<', '>'].contains c

/-- What is encoded in the query of a web address. -/
def inSpecialQuery (c : Char) : Bool := inQuery c || c = '\''

/-- What is encoded in a path. -/
def inPath (c : Char) : Bool := inFragment c || ['#', '?', '{', '}'].contains c

/-- What is encoded in a user name or a password. -/
def inUserInfo (c : Char) : Bool :=
  inPath c || ['/', ':', ';', '=', '@', '[', '\\', ']', '^', '|'].contains c

/-! ## 2. Encoding and decoding -/

/-- An upper-case hexadecimal digit. -/
def hexDigit (n : Nat) : Char := (Nat.digitChar (n % 16)).toUpper

/-- A byte as a percent sign and two digits. -/
def encodeByte (b : UInt8) : List Char := ['%', hexDigit (b.toNat / 16), hexDigit b.toNat]

/-- A character as the bytes of its UTF-8 form. -/
def encodeChar (c : Char) : List Char := (String.utf8EncodeChar c).flatMap encodeByte

/-- The text with the characters of a set encoded. -/
def encodeList (set : Char → Bool) (cs : List Char) : List Char :=
  cs.flatMap fun c => if set c then encodeChar c else [c]

/-- The text with the characters of a set encoded. -/
def encode (set : Char → Bool) (cs : List Char) : String := String.ofList (encodeList set cs)

/-- The value of a byte that is a hexadecimal digit. -/
def hexByte? (b : UInt8) : Option Nat := Text.hexValue? (Char.ofNat b.toNat)

/-- The byte with two hexadecimal digits. -/
def byte? (high low : UInt8) : Option UInt8 :=
  match hexByte? high, hexByte? low with
  | some h, some l => some (UInt8.ofNat (h * 16 + l))
  | _, _ => none

/-- The bytes with every encoded one decoded.  A percent sign without two digits stands for
itself. -/
def decode : List UInt8 → List UInt8
  | b :: x :: y :: rest =>
    match if b = 37 then byte? x y else none with
    | some decoded => decoded :: decode rest
    | none => b :: decode (x :: y :: rest)
  | bytes => bytes

/-- The text that the decoded bytes of a text spell, if they spell one. -/
def decodeText? (s : String) : Option String := Text.Utf8.decode? (decode (Text.Utf8.encode s))

end CodeAssistant.Url.Percent
