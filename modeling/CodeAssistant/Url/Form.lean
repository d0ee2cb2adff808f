/-
# Form encoding

Names and values in a query: letters, digits and `* - . _` stay, a space becomes a plus sign, and
every other byte is percent-encoded.  No encoded text contains a character that separates pairs
or that ends a query.
-/
import CodeAssistant.Text.Split
import CodeAssistant.Url.Percent

namespace CodeAssistant.Url.Form

/-- The characters that stand for themselves. -/
def isPlain (c : Char) : Bool := c.isAlphanum || ['*', '-', '.', '_'].contains c

/-- One character of a name or a value. -/
def encodeChar (c : Char) : List Char :=
  if c = ' ' then ['+'] else if isPlain c then [c] else Percent.encodeChar c

/-- A name or a value. -/
def encode (s : String) : String := String.ofList (s.toList.flatMap encodeChar)

/-- A pair. -/
def encodePair (pair : String × String) : String := encode pair.1 ++ "=" ++ encode pair.2

/-- The name or value that a piece of a query stands for. -/
def decode (bytes : List UInt8) : String :=
  Text.Utf8.decodeLossy (Percent.decode (bytes.map fun b => if b = 43 then 32 else b))

/-- The pair that a piece of a query stands for; without an equals sign it is all name. -/
def decodePair (bytes : List UInt8) : String × String :=
  (decode (bytes.takeWhile (· ≠ 61)), decode ((bytes.dropWhile (· ≠ 61)).drop 1))

/-- The pairs of a query. -/
def decodePairs (query : String) : List (String × String) :=
  ((Text.splitWhere (· = 38) (Text.Utf8.encode query)).filter (!·.isEmpty)).map decodePair

end CodeAssistant.Url.Form
