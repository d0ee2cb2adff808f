/-
# Kinds of files

A file is classified by the extension that its entry has or, if that is blank, by the end of its
name.  A selected file is classified by its path alone.
-/
import CodeAssistant.Text.Blank
import CodeAssistant.Wire.Response

namespace CodeAssistant

/-- What kind of file it is. -/
inductive Category
  | python
  | typeScript
  | javaScript
  | rust
  | markdown
  | config
  | other
  deriving DecidableEq, Repr

namespace Category

/-- The kind's name. -/
def name : Category → String
  | python => "Python"
  | typeScript => "TypeScript"
  | javaScript => "JavaScript"
  | rust => "Rust"
  | markdown => "Markdown"
  | config => "Config"
  | other => "Other"

/-- The sign in front of a file. -/
def icon : Category → String
  | python => "🐍"
  | typeScript => "📘"
  | javaScript => "📒"
  | rust => "🦀"
  | markdown => "📝"
  | config => "⚙️"
  | other => "📄"

/-- The language whose highlighting fits. -/
def language : Category → String
  | python => "python"
  | typeScript => "typescript"
  | javaScript => "javascript"
  | rust => "rust"
  | markdown => "markdown"
  | config => "config"
  | other => "text"

/-- The extensions that say something. -/
def extensions : List (String × Category) :=
  [("py", python), ("ts", typeScript), ("tsx", typeScript), ("js", javaScript),
   ("jsx", javaScript), ("rs", rust), ("md", markdown), ("json", config), ("toml", config),
   ("yaml", config), ("yml", config)]

/-- The text without one leading dot. -/
def withoutDot : List Char → List Char
  | '.' :: cs => cs
  | cs => cs

/-- Classifies an extension, with or without its dot, in any mixture of cases. -/
def classify (extension : String) : Category :=
  let bare := (withoutDot (Text.trimList extension.toList)).map Char.toLower
  ((extensions.find? (·.1.toList = bare)).map (·.2)).getD other

/-! ## The end of a name -/

/-- The text behind the last character that `p` holds of; all of it if there is none. -/
def behindLast (p : Char → Bool) (cs : List Char) : List Char :=
  (cs.reverse.takeWhile fun c => !p c).reverse

/-- What stands before the last dot and behind it. -/
def splitAtLastDot? (cs : List Char) : Option (List Char × List Char) :=
  match cs.reverse.dropWhile (· ≠ '.') with
  | [] => none
  | _ :: stem => some (stem.reverse, behindLast (· = '.') cs)

/-- Classifies a name by its end.  A name that only starts with a dot has no extension. -/
def ofName (name : List Char) : Category :=
  match splitAtLastDot? name with
  | some (stem, extension) => if stem.isEmpty then other else classify (String.ofList extension)
  | none => other

/-- Classifies an entry of a directory. -/
def ofEntry (entry : FileEntry) : Category :=
  if Text.isBlank entry.extension then ofName entry.name.toList else classify entry.extension

/-- Classifies a path, with slashes of either kind. -/
def ofPath (path : String) : Category :=
  ofName (behindLast (fun c => c = '/' || c = '\\') path.toList)

end Category

end CodeAssistant
