/-
# URLs

A URL in its parts, each in the form in which it is written.  Web addresses and their relatives
(`Kind.web`) always have a host and a path of segments; a URL of another kind may have a plain
text in place of segments.

`Url.write` puts the parts together.
-/
import CodeAssistant.Url.Form
import CodeAssistant.Url.Host

namespace CodeAssistant

/-- The path of a URL. -/
inductive Url.Path
  /-- A text without inner structure. -/
  | plain (text : String)
  | segments (items : List String)
  deriving DecidableEq, Repr

/-- A URL. -/
structure Url where
  scheme : String
  username : String := ""
  password : Option String := none
  /-- None if the URL has no place for a host. -/
  host : Option Url.Host := none
  port : Option Nat := none
  path : Url.Path
  query : Option String := none
  fragment : Option String := none
  deriving DecidableEq, Repr

namespace Url

/-! ## 1. Schemes -/

/-- The rules that a scheme's URLs follow. -/
inductive Kind
  /-- A host is required, and backslashes count as slashes. -/
  | web
  | file
  | other
  deriving DecidableEq, Repr

/-- The default ports of the schemes of the web. -/
def webPorts : List (String × Nat) :=
  [("http", 80), ("https", 443), ("ws", 80), ("wss", 443), ("ftp", 21)]

/-- The port that a scheme's URLs leave out. -/
def defaultPort? (scheme : String) : Option Nat :=
  (webPorts.find? (·.1 = scheme)).map (·.2)

/-- The rules of a scheme. -/
def Kind.of (scheme : String) : Kind :=
  if scheme = "file" then .file else if (defaultPort? scheme).isSome then .web else .other

/-- Backslashes count as slashes. -/
def Kind.takesBackslash : Kind → Bool
  | web => true
  | file => true
  | other => false

/-! ## 2. Writing -/

/-- The path as it is written. -/
def Path.write : Path → String
  | plain text => text
  | segments items => String.join (items.map ("/" ++ ·))

/-- What stands in front of the host. -/
def writeCredentials (u : Url) : String :=
  match u.password with
  | some password => u.username ++ ":" ++ password ++ "@"
  | none => if u.username = "" then "" else u.username ++ "@"

/-- The host with its port. -/
def writeHostPort (u : Url) : String :=
  (u.host.map Host.write).getD "" ++ (u.port.map fun p => ":" ++ toString p).getD ""

/-- The path starts with two slashes, which without a host would read as the start of one. -/
def startsLikeHost (u : Url) : Bool :=
  u.host.isNone && match u.path with
    | .segments ("" :: _ :: _) => true
    | _ => false

/-- All in front of the path. -/
def writeOrigin (u : Url) : String :=
  u.scheme ++ ":" ++
    (if u.host.isSome then "//" ++ u.writeCredentials ++ u.writeHostPort
    else if u.startsLikeHost then "/." else "")

/-- The query with its question mark. -/
def writeQuery (u : Url) : String := (u.query.map ("?" ++ ·)).getD ""

/-- The fragment with its mark. -/
def writeFragment (u : Url) : String := (u.fragment.map ("#" ++ ·)).getD ""

/-- The URL as it is written. -/
def write (u : Url) : String :=
  u.writeOrigin ++ u.path.write ++ u.writeQuery ++ u.writeFragment

/-- What a server is asked for: path and query. -/
def target (u : Url) : String := u.path.write ++ u.writeQuery

/-! ## 3. Changes -/

/-- There is a host to send a request to. -/
def hasHost (u : Url) : Bool :=
  match u.host with
  | none => false
  | some .empty => false
  | some _ => true

/-- The port that requests go to. -/
def portOrDefault? (u : Url) : Option Nat := u.port.or (defaultPort? u.scheme)

/-- Asks for one more pair. -/
def withQueryPair (u : Url) (pair : String × String) : Url :=
  let written := Form.encodePair pair
  { u with
    query := match u.query with
      | none => some written
      | some q => some (if q = "" then written else q ++ "&" ++ written) }

/-- The URL without user name and password. -/
def withoutCredentials (u : Url) : Url := { u with username := "", password := none }

/-- The URL without its fragment. -/
def withoutFragment (u : Url) : Url := { u with fragment := none }

end Url

end CodeAssistant
