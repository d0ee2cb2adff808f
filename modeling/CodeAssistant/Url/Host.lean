/-
# Hosts

The host of a web address is an address of the fourth or sixth version of the internet protocol,
or a name; a name that ends in a number has to be an address.  A host of any other kind of URL is
a text that only bars the characters with a meaning of their own.

Names are written in ASCII, and a label may stand for one of another script.  A name with characters
that stand for others, such as capitals beyond ASCII, is not one.
-/
import CodeAssistant.Text.Ranges
import CodeAssistant.Text.Split
import CodeAssistant.Url.Label
import CodeAssistant.Url.Percent

namespace CodeAssistant.Url

/-- What is wrong with a URL. -/
inductive Fault
  | relativeWithoutBase
  | emptyHost
  | invalidPort
  | invalidIpv4
  | invalidIpv6
  | invalidName
  | invalidCharacter
  deriving DecidableEq, Repr

namespace Fault

/-- The fault in words. -/
def describe : Fault → String
  | relativeWithoutBase => "relative URL without a base"
  | emptyHost => "empty host"
  | invalidPort => "invalid port number"
  | invalidIpv4 => "invalid IPv4 address"
  | invalidIpv6 => "invalid IPv6 address"
  | invalidName => "invalid international domain name"
  | invalidCharacter => "invalid domain character"

/-- The fault's own name. -/
def name : Fault → String
  | relativeWithoutBase => "RelativeUrlWithoutBase"
  | emptyHost => "EmptyHost"
  | invalidPort => "InvalidPort"
  | invalidIpv4 => "InvalidIpv4Address"
  | invalidIpv6 => "InvalidIpv6Address"
  | invalidName => "IdnaError"
  | invalidCharacter => "InvalidDomainCharacter"

end Fault

/-- The host of a URL. -/
inductive Host
  /-- There is a place for a host, and it is empty. -/
  | empty
  | name (text : String)
  | ipv4 (address : UInt32)
  /-- Eight pieces of sixteen bits. -/
  | ipv6 (pieces : List Nat)
  deriving DecidableEq, Repr

namespace Host

/-! ## 1. Addresses of four bytes -/

/-- A part of an address: decimal, octal behind a zero, or hexadecimal behind `0x`. -/
def ipv4Part? : List Char → Option Nat
  | [] => none
  | '0' :: 'x' :: cs => Text.ofDigits? 16 cs
  | '0' :: 'X' :: cs => Text.ofDigits? 16 cs
  | '0' :: cs => Text.ofDigits? 8 cs
  | cs => Text.ofDigits? 10 cs

/-- The parts of a text between dots, without an empty one behind the last dot. -/
def dottedParts (cs : List Char) : List (List Char) :=
  let parts := Text.splitWhere (· = '.') cs
  if 1 < parts.length ∧ parts.getLast? = some [] then parts.dropLast else parts

/-- The text is meant to be an address: its last part is a number. -/
def endsInNumber (cs : List Char) : Bool :=
  match (dottedParts cs).getLast? with
  | none => false
  | some last => (!last.isEmpty && last.all Char.isDigit) || (ipv4Part? last).isSome

/-- The numbers of all parts. -/
def ipv4Numbers? : List (List Char) → Option (List Nat)
  | [] => some []
  | part :: parts => match ipv4Part? part, ipv4Numbers? parts with
    | some n, some ns => some (n :: ns)
    | _, _ => none

/-- The address with these parts.  All but the last are bytes; the last fills what is left. -/
def ipv4OfNumbers? (numbers : List Nat) : Option UInt32 :=
  match numbers.reverse with
  | [] => none
  | last :: leading =>
    if 4 < numbers.length ∨ 255 < leading.foldl max 0 ∨ 1 <<< (8 * (4 - leading.length)) ≤ last then none
    else
      let high := leading.reverse.foldl (fun n b => n * 256 + b) 0
      some (UInt32.ofNat (high <<< (8 * (4 - leading.length)) + last))

/-- An address of four bytes. -/
def ipv4? (cs : List Char) : Option UInt32 := (ipv4Numbers? (dottedParts cs)).bind ipv4OfNumbers?

/-- The address as four decimal bytes. -/
def writeIpv4 (address : UInt32) : String :=
  let n := address.toNat
  ".".intercalate ([n / 16777216, n / 65536 % 256, n / 256 % 256, n % 256].map toString)

/-! ## 2. Addresses of eight pieces -/

/-- A byte in decimal, without a leading zero. -/
def ipv4Byte? (cs : List Char) : Option Nat :=
  match cs with
  | [] => none
  | ['0'] => some 0
  | '0' :: _ => none
  | _ => (Text.ofDigits? 10 cs).filter (· ≤ 255)

/-- Two pieces written as four decimal bytes. -/
def embeddedIpv4? (cs : List Char) : Option (List Nat) :=
  match (Text.splitWhere (· = '.') cs).map ipv4Byte? with
  | [some a, some b, some c, some d] => some [a * 256 + b, c * 256 + d]
  | _ => none

/-- Pieces between single colons; the last may be a four byte address. -/
def pieces? : List (List Char) → Option (List Nat)
  | [] => some []
  | [last] =>
    if last.contains '.' then embeddedIpv4? last
    else if last.isEmpty || 4 < last.length then none
    else (Text.ofDigits? 16 last).map ([·])
  | piece :: rest =>
    if piece.isEmpty || 4 < piece.length then none
    else match Text.ofDigits? 16 piece, pieces? rest with
      | some n, some ns => some (n :: ns)
      | _, _ => none

/-- The pieces of a text that may be empty. -/
def piecesOf? (cs : List Char) : Option (List Nat) :=
  if cs.isEmpty then some [] else pieces? (Text.splitWhere (· = ':') cs)

/-- The text before the first double colon and behind it. -/
def splitAtDouble? : List Char → Option (List Char × List Char)
  | [] => none
  | ':' :: ':' :: rest => some ([], rest)
  | c :: rest => (splitAtDouble? rest).map fun (before, behind) => (c :: before, behind)

/-- An address of eight pieces.  A double colon stands for a run of zero pieces, at least one. -/
def ipv6? (cs : List Char) : Option (List Nat) :=
  match splitAtDouble? cs with
  | none => (piecesOf? cs).filter (·.length = 8)
  | some (before, behind) =>
    if before.contains '.' then none
    else match piecesOf? before, piecesOf? behind with
      | some high, some low =>
        if high.length + low.length ≤ 7 then
          some (high ++ List.replicate (8 - high.length - low.length) 0 ++ low)
        else none
      | _, _ => none

/-- How many zeros stand at the front. -/
def zerosAhead (pieces : List Nat) : Nat := (pieces.takeWhile (· = 0)).length

/-- Where the longest run of zeros starts, and how long it is; of equal runs the first.  `start`
counts the pieces before. -/
def longestZeros (start : Nat) : List Nat → Nat × Nat
  | [] => (start, 0)
  | p :: rest =>
    let here := zerosAhead (p :: rest)
    let later := longestZeros (start + 1) rest
    if later.2 ≤ here then (start, here) else later

/-- Pieces in hexadecimal, between colons. -/
def writePieces (pieces : List Nat) : String :=
  ":".intercalate (pieces.map fun n => String.ofList (Nat.toDigits 16 n))

/-- The address with its longest run of zeros left out, if that has more than one. -/
def writeIpv6 (pieces : List Nat) : String :=
  let (start, count) := longestZeros 0 pieces
  if count < 2 then writePieces pieces
  else writePieces (pieces.take start) ++ "::" ++ writePieces (pieces.drop (start + count))

/-! ## 3. Hosts -/

/-- The characters that no name may have. -/
def forbidden : List Char := ['\x00', '\t', '\n', '\r', ' ', '#', '/', ':', '<', '>', '?', '@', '[',
  '\\', ']', '^', '|']

/-- The characters that a name of a web address may not have. -/
def forbiddenInDomain (c : Char) : Bool :=
  c.toNat ≤ 0x20 || 0x7F ≤ c.toNat || c = '%' || forbidden.contains c

/-- The ranges of characters that do not count in a name: soft hyphens, fillers, selectors of
variants and others that are not seen. -/
def ignoredRanges : Array (Nat × Nat) := #[
  (0xAD, 0xAD), (0x34F, 0x34F), (0x115F, 0x1160), (0x17B4, 0x17B5), (0x180B, 0x180F),
  (0x200B, 0x200B), (0x2060, 0x2064), (0x206A, 0x206F), (0x3164, 0x3164), (0xFE00, 0xFE0F), (0xFEFF, 0xFEFF),
  (0xFFA0, 0xFFA0), (0x1BCA0, 0x1BCA3), (0x1D173, 0x1D17A), (0xE0100, 0xE01EF)]

/-- An address between brackets. -/
def bracketed (cs : List Char) : Except Fault Host :=
  match cs.getLast?, ipv6? cs.dropLast with
  | some ']', some pieces => .ok (.ipv6 pieces)
  | _, _ => .error .invalidIpv6

/-- A name without the characters that do not count, in lower case and in ASCII. -/
def plainName? (cs : List Char) : Option (List Char) :=
  let name := (cs.filter (!Text.inRanges ignoredRanges ·)).map Char.toLower
  match Label.toAscii? (Text.splitWhere (· = '.') name) with
  | none => none
  | some labels =>
    let plain := ['.'].intercalate labels
    if plain.any forbiddenInDomain then none else some plain

/-- The host of a web address: an address, or a name. -/
def ofDomain (cs : List Char) : Except Fault Host :=
  match cs with
  | '[' :: rest => bracketed rest
  | _ =>
    match (Text.Utf8.decode? (Percent.decode (Text.Utf8.encode (String.ofList cs)))).bind
        (plainName? ·.toList) with
    | none => .error .invalidName
    | some plain =>
      if plain.isEmpty then .error .emptyHost
      else if endsInNumber plain then
        match ipv4? plain with
        | some address => .ok (.ipv4 address)
        | none => .error .invalidIpv4
      else .ok (name (String.ofList plain))

/-- The host of any other URL. -/
def ofText (cs : List Char) : Except Fault Host :=
  match cs with
  | [] => .ok .empty
  | '[' :: rest => bracketed rest
  | _ =>
    if cs.any forbidden.contains then .error .invalidCharacter
    else .ok (.name (Percent.encode Percent.controls cs))

/-- The host as it is written. -/
def write : Host → String
  | empty => ""
  | name text => text
  | ipv4 address => writeIpv4 address
  | ipv6 pieces => "[" ++ writeIpv6 pieces ++ "]"

end Host

end CodeAssistant.Url
