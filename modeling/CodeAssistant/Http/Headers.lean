/-
# Headers

Headers are a dictionary of values by lower-case names.  A name is a token: letters, digits and a
few marks.  A value has no control characters but tabs.
-/
import CodeAssistant.Text.Dictionary
import CodeAssistant.Text.Utf8

namespace CodeAssistant.Http

open Text

/-- Headers by their lower-case names, in the order of the names. -/
abbrev Headers : Type := List (String × String)

namespace Headers

/-- A character of a token. -/
def isTokenChar (c : Char) : Bool :=
  c.isAlphanum || "!#$%&'*+-.^_|~".toList.contains c || c.toNat = 0x60

/-- The name in its lower-case form, if it is a token. -/
def name? (s : String) : Option String :=
  let cs := s.toList.map Char.toLower
  if !cs.isEmpty && cs.all isTokenChar && cs.length < 65536 then some (String.ofList cs) else none

/-- The text may be the value of a header. -/
def isValue (s : String) : Bool := s.toList.all fun c => c = '\t' || (0x20 ≤ c.toNat && c.toNat ≠ 0x7F)

/-- Sets a header, whose name is in lower case. -/
def set (name value : String) (h : Headers) : Headers := Dictionary.insert name value h

/-- Removes headers. -/
def without (names : List String) (h : Headers) : Headers := h.filter fun p => !names.contains p.1

/-- The value of a header. -/
def get? (name : String) (h : Headers) : Option String := Dictionary.lookup name h

end Headers

end CodeAssistant.Http
