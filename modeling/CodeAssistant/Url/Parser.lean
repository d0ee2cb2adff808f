/-
# Reading URLs

A text is cut into its parts first: the scheme up to the colon, the authority up to the slash
that starts the path, the query from the question mark, the fragment from the number sign.  Then
each part is read by its own rules.  Blanks and control characters around the text do not count,
and neither do tabs and line breaks in it, but for one: behind the drive at the front of a file's
path it ends the drive.

`Url.parse` reads a URL that stands on its own; `Url.resolve` reads a reference as it is meant at
the place of another URL.
-/
import CodeAssistant.Url.Basic

namespace CodeAssistant.Url

/-! ## 1. Cutting -/

/-- The characters of a text without blanks and control characters around them. -/
def trimmed (text : String) : List Char :=
  let outer (c : Char) : Bool := c.toNat ≤ 0x20
  ((text.toList.dropWhile outer).reverse.dropWhile outer).reverse

/-- A tab or a line break. -/
def isBreak (c : Char) : Bool := c = '\t' || c = '\n' || c = '\r'

/-- The characters that count. -/
def withoutBreaks (cs : List Char) : List Char := cs.filter (!isBreak ·)

/-- A character inside a scheme. -/
def isSchemeChar (c : Char) : Bool := c.isAlphanum || c = '+' || c = '-' || c = '.'

/-- The scheme, in lower case, and what stands behind its colon. -/
def splitScheme? (cs : List Char) : Option (String × List Char) :=
  let inside (c : Char) : Bool := isSchemeChar c || isBreak c
  match withoutBreaks (cs.takeWhile inside), cs.dropWhile inside with
  | c :: name, ':' :: rest =>
    if c.isAlpha then some (String.ofList ((c :: name).map Char.toLower), rest) else none
  | _, _ => none

/-- What follows the origin: the text of the path, the query and the fragment. -/
structure Tail where
  path : List Char
  query : Option (List Char)
  fragment : Option (List Char)

/-- Cuts off query and fragment. -/
def Tail.of (cs : List Char) : Tail :=
  let path := cs.takeWhile fun c => !(c = '?' || c = '#')
  match cs.dropWhile fun c => !(c = '?' || c = '#') with
  | '?' :: rest =>
    let query := rest.takeWhile (· ≠ '#')
    match rest.dropWhile (· ≠ '#') with
    | '#' :: fragment => ⟨path, some query, some fragment⟩
    | _ => ⟨path, some query, none⟩
  | '#' :: fragment => ⟨path, none, some fragment⟩
  | _ => ⟨path, none, none⟩

/-- The query as it is written. -/
def Tail.writtenQuery (t : Tail) (kind : Kind) : Option String :=
  t.query.map (Percent.encode (if kind.takesBackslash then Percent.inSpecialQuery else Percent.inQuery))

/-- The fragment as it is written. -/
def Tail.writtenFragment (t : Tail) : Option String :=
  t.fragment.map (Percent.encode Percent.inFragment)

/-! ## 2. Paths -/

/-- A slash in a URL of this kind. -/
def isSlash (kind : Kind) (c : Char) : Bool := c = '/' || (kind.takesBackslash && c = '\\')

/-- The text with every encoded dot decoded. -/
def plainDots : List Char → List Char
  | '%' :: '2' :: 'e' :: rest => '.' :: plainDots rest
  | '%' :: '2' :: 'E' :: rest => '.' :: plainDots rest
  | c :: rest => c :: plainDots rest
  | [] => []

/-- A segment that stands for the directory it is in. -/
def isSingleDot (segment : List Char) : Bool := plainDots segment = ['.']

/-- A segment that stands for the directory above. -/
def isDoubleDot (segment : List Char) : Bool := plainDots segment = ['.', '.']

/-- A letter with a colon or a bar, which names a drive. -/
def isDrive : List Char → Bool
  | [c, d] => c.isAlpha && (d = ':' || d = '|')
  | _ => false

/-- A drive, alone or in front of a backslash. -/
def startsWithDrive (segment : List Char) : Bool :=
  isDrive (segment.take 2) && (segment.drop 2).head?.all (· = '\\')

/-- The segments without the last; one that starts with a drive stays. -/
def dropSegment (segments : List String) : List String :=
  match segments.getLast? with
  | some last => if startsWithDrive last.toList then segments else segments.dropLast
  | none => []

/-- A segment as it is written.  The first of a file's path may be a drive, which is written with
a colon. -/
def writeSegment (kind : Kind) (before : List String) (segment : List Char) : String :=
  match segment with
  | [c, '|'] =>
    if kind = .file && before.isEmpty && c.isAlpha then String.ofList [c, ':']
    else Percent.encode Percent.inPath segment
  | _ => Percent.encode Percent.inPath segment

/-- Adds a segment.  The last of a path always leaves one, if only an empty one. -/
def addSegment (kind : Kind) (isLast : Bool) (before : List String) (segment : List Char) :
    List String :=
  if isDoubleDot segment then dropSegment before ++ (if isLast then [""] else [])
  else if isSingleDot segment then before ++ (if isLast then [""] else [])
  else before ++ [writeSegment kind before segment]

/-- Adds segments, the last of which ends the path. -/
def addSegments (kind : Kind) (before : List String) : List (List Char) → List String
  | [] => before
  | segment :: rest => addSegments kind (addSegment kind rest.isEmpty before segment) rest

/-- The segments of a text, behind those of another path. -/
def segmentsFrom (kind : Kind) (before : List String) (cs : List Char) : List String :=
  addSegments kind before (Text.splitWhere (isSlash kind) cs)

/-- The text behind one slash at its front. -/
def dropSlash (kind : Kind) : List Char → List Char
  | c :: rest => if isSlash kind c then rest else c :: rest
  | [] => []

/-- The path behind an authority.  Only on the web is there always one. -/
def hostedPath (kind : Kind) (cs : List Char) : Path :=
  if cs.isEmpty && kind = .other then .segments []
  else .segments (segmentsFrom kind [] (dropSlash kind cs))

/-! ## 3. Authorities -/

/-- The text before the last `@` and behind it. -/
def splitAtSign? (cs : List Char) : Option (List Char × List Char) :=
  match cs.reverse.dropWhile (· ≠ '@') with
  | [] => none
  | _ :: before => some (before.reverse, (cs.reverse.takeWhile (· ≠ '@')).reverse)

/-- The text before the first colon that is not in brackets, and the rest. -/
def splitHost (inBrackets : Bool) : List Char → List Char × List Char
  | [] => ([], [])
  | c :: rest =>
    if c = ':' && !inBrackets then ([], c :: rest)
    else
      let (host, port) := splitHost (if c = '[' then true else if c = ']' then false else inBrackets) rest
      (c :: host, port)

/-- The host of a URL of some kind. -/
def hostOf (kind : Kind) (cs : List Char) : Except Fault Host :=
  match kind with
  | .other => Host.ofText cs
  | _ => if cs.isEmpty then .error .emptyHost else Host.ofDomain cs

/-- The port behind a host, unless it is the default, and what is left behind a backslash. -/
def readPort (default : Option Nat) (cs : List Char) : Except Fault (Option Nat × List Char) :=
  match cs with
  | ':' :: rest =>
    let digits := rest.takeWhile Char.isDigit
    let behind := rest.dropWhile Char.isDigit
    let number := (Text.ofDigits? 10 digits).getD 0
    if 65535 < number then .error .invalidPort
    else if behind.head?.any (· ≠ '\\') then .error .invalidPort
    else if digits.isEmpty || some number = default then .ok (none, behind)
    else .ok (some number, behind)
  | _ => .ok (none, cs)

/-- User name and password, if there is something to them. -/
def readCredentials (cs : List Char) : String × Option String :=
  let password := (cs.dropWhile (· ≠ ':')).drop 1
  (Percent.encode Percent.inUserInfo (cs.takeWhile (· ≠ ':')),
    if password.isEmpty then none else some (Percent.encode Percent.inUserInfo password))

/-- The URL with a scheme and what stands behind its slashes. -/
def ofAuthority (kind : Kind) (scheme : String) (cs : List Char) : Except Fault Url :=
  let ends (c : Char) : Bool := isSlash kind c || c = '?' || c = '#'
  let authority := cs.takeWhile (!ends ·)
  let behind := cs.dropWhile (!ends ·)
  let (credentials, address) := (splitAtSign? authority).getD ([], authority)
  let (username, password) := readCredentials credentials
  if authority = ['@'] && !behind.isEmpty then .error .emptyHost
  else match hostOf kind (splitHost false address).1 with
    | .error fault => .error fault
    | .ok host =>
      let port := (splitHost false address).2
      if host = .empty && (!port.isEmpty || username ≠ "" || password.isSome) then .error .emptyHost
      else match readPort (defaultPort? scheme) port with
        | .error fault => .error fault
        | .ok (port, left) =>
          let tail := Tail.of (left ++ behind)
          .ok {
            scheme, username, password, port
            host := some host
            path := hostedPath kind tail.path
            query := tail.writtenQuery kind
            fragment := tail.writtenFragment }

/-! ## 4. Files -/

/-- The text behind two slashes. -/
def behindSlashes? (cs : List Char) : Option (List Char) :=
  match cs.dropWhile isBreak with
  | c :: rest => match rest.dropWhile isBreak with
    | d :: rest => if isSlash .file c && isSlash .file d then some rest else none
    | [] => none
  | [] => none

/-- The host of a file and the text behind it.  A drive is no host, and neither is the machine
itself. -/
def fileHost (cs : List Char) : Except Fault (Host × List Char) :=
  let ends (c : Char) : Bool := isSlash .file c || c = '?' || c = '#'
  let host := withoutBreaks (cs.takeWhile (!ends ·))
  let behind := cs.dropWhile (!ends ·)
  if isDrive host then .ok (.empty, cs)
  else if host.isEmpty then .ok (.empty, behind)
  else match Host.ofDomain host with
    | .error fault => .error fault
    | .ok host => .ok (if host = .name "localhost" then .empty else host, behind)

/-- A drive that a break cuts off from the rest of a segment, and the rest. -/
def cutDrive? (segment : List Char) : Option (List Char × List Char) :=
  match segment.dropWhile isBreak with
  | c :: rest => match rest.dropWhile isBreak with
    | ':' :: d :: rest =>
      if c.isAlpha && isBreak d && !(withoutBreaks rest).isEmpty then
        some ([c, ':'], withoutBreaks rest)
      else none
    | _ => none
  | [] => none

/-- Adds the segments of a file's path.  The host stays as long as no segment at the front is a
drive; a drive cut off from the rest of its segment does not count as one, and the rest stands for
itself even if it is made of dots. -/
def addFileSegments (before : List String) (staysHost : Bool) :
    List (List Char) → List String × Bool
  | [] => (before, staysHost)
  | segment :: rest =>
    match if before.isEmpty then cutDrive? segment else none with
    | some (drive, behind) =>
      addFileSegments [String.ofList drive, Percent.encode Percent.inPath behind] staysHost rest
    | none =>
      let after := addSegment .file rest.isEmpty before (withoutBreaks segment)
      let isDriveFirst := before.isEmpty && after.head?.any (isDrive ·.toList)
      addFileSegments after (staysHost && !isDriveFirst) rest

/-- The path of a file as it is read, and whether the host stays.  A slash right behind a host
belongs to the host; behind the two slashes of an empty one it is the end of a first, empty
segment. -/
def filePath (slashed : Bool) (host : Host) (path : List Char) : List String × Bool :=
  let path := path.dropWhile isBreak
  addFileSegments [] true (Text.splitWhere (isSlash .file)
    (if slashed && host = .empty then path else dropSlash .file path))

/-- The URL of a file.  A path that starts with a drive has no host.  Empty segments at the front
of the path are not written. -/
def ofFile (cs : List Char) : Except Fault Url :=
  let slashed := behindSlashes? cs
  match (slashed.map fileHost).getD (.ok (.empty, cs)) with
  | .error fault => .error fault
  | .ok (host, behind) =>
    let tail := Tail.of behind
    let (found, staysHost) := filePath slashed.isSome host tail.path
    let shown := found.dropWhile (· = "")
    .ok {
      scheme := "file"
      host := some (if staysHost then host else .empty)
      path := .segments (if shown.isEmpty then [""] else shown)
      query := (tail.query.map withoutBreaks).map (Percent.encode Percent.inSpecialQuery)
      fragment := (tail.fragment.map withoutBreaks).map (Percent.encode Percent.inFragment) }

/-! ## 5. Whole URLs -/

/-- The URL with neither authority nor file. -/
def ofPlain (scheme : String) (cs : List Char) : Url :=
  let tail := Tail.of cs
  { scheme
    path := match tail.path with
      | '/' :: rest => .segments (segmentsFrom .other [] rest)
      | text => .plain (Percent.encode Percent.controls text)
    query := tail.writtenQuery .other
    fragment := tail.writtenFragment }

/-- The URL with a scheme and what stands behind its colon. -/
def ofScheme (scheme : String) (cs : List Char) : Except Fault Url :=
  match Kind.of scheme with
  | .web => ofAuthority .web scheme ((withoutBreaks cs).dropWhile (isSlash .web))
  | .file => ofFile cs
  | .other => match withoutBreaks cs with
    | '/' :: '/' :: rest => ofAuthority .other scheme rest
    | cs => .ok (ofPlain scheme cs)

/-- Reads a URL that stands on its own. -/
def parse (text : String) : Except Fault Url :=
  match splitScheme? (trimmed text) with
  | none => .error .relativeWithoutBase
  | some (scheme, rest) => ofScheme scheme rest

/-! ## 6. References -/

/-- The segments of a path. -/
def Path.toSegments : Path → List String
  | plain _ => []
  | segments items => items

/-- Reads a reference without a scheme at the place of a web address. -/
def resolveRelative (base : Url) (cs : List Char) : Except Fault Url :=
  let tail := Tail.of cs
  let kind := Kind.of base.scheme
  let placed (segments : List String) : Url :=
    { base with
      path := .segments segments
      query := tail.writtenQuery kind
      fragment := tail.writtenFragment }
  match tail.path with
  | [] =>
    .ok { base with
      query := (tail.writtenQuery kind).or base.query
      fragment := tail.writtenFragment }
  | '/' :: '/' :: _ => ofAuthority kind base.scheme (cs.drop 2)
  | c :: rest =>
    if isSlash kind c then
      if rest.head?.any (isSlash kind) then
        ofAuthority kind base.scheme (cs.dropWhile (isSlash kind))
      else .ok (placed (segmentsFrom kind [] rest))
    else .ok (placed (segmentsFrom kind base.path.toSegments.dropLast (c :: rest)))

/-- Reads a reference at the place of a web address. -/
def resolve (base : Url) (text : String) : Except Fault Url :=
  let cs := trimmed text
  match splitScheme? cs with
  | none => resolveRelative base (withoutBreaks cs)
  | some (scheme, rest) =>
    if scheme = base.scheme && Kind.of scheme = .web
        && ((withoutBreaks rest).takeWhile (isSlash .web)).length < 2 then
      resolveRelative base (withoutBreaks rest)
    else ofScheme scheme rest

end CodeAssistant.Url
