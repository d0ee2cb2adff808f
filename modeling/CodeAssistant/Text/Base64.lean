/-
# Base64

The encoding of credentials in a header: three bytes become four characters of the standard
alphabet, and a last group of one or two bytes is filled up with `=`.
-/

namespace CodeAssistant.Text.Base64

/-- The standard alphabet. -/
def alphabet : List Char :=
  "ABCDEFGHIJKLMNOPQRSTUVWXYZabcdefghijklmnopqrstuvwxyz0123456789+/".toList

/-- The character for six bits. -/
def digit (n : Nat) : Char := alphabet.getD (n % 64) '='

/-- The characters for a sequence of bytes. -/
def encodeList : List UInt8 → List Char
  | [] => []
  | [a] =>
    let n := a.toNat * 65536
    [digit (n / 262144), digit (n / 4096), '=', '=']
  | [a, b] =>
    let n := a.toNat * 65536 + b.toNat * 256
    [digit (n / 262144), digit (n / 4096), digit (n / 64), '=']
  | a :: b :: c :: rest =>
    let n := a.toNat * 65536 + b.toNat * 256 + c.toNat
    digit (n / 262144) :: digit (n / 4096) :: digit (n / 64) :: digit n :: encodeList rest

/-- Base64 of a sequence of bytes. -/
def encode (bytes : List UInt8) : String := String.ofList (encodeList bytes)

end CodeAssistant.Text.Base64
