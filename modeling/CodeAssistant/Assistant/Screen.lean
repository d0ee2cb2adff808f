/-
# The screen

What the user sees: one value put together from the three components, which it does not change.
-/
import CodeAssistant.Assistant.Browser
import CodeAssistant.Assistant.Category
import CodeAssistant.Assistant.IndexPanel
import CodeAssistant.Assistant.Session

namespace CodeAssistant

/-- One row of the file tree. -/
structure FileRow where
  entry : FileEntry
  category : Category
  /-- The row is the selected file. -/
  selected : Bool
  deriving DecidableEq, Repr

/-- What the content pane shows. -/
inductive ContentView
  | noSelection
  | loading (path : String)
  | ready (path content : String) (lines : UInt64) (category : Category)
  | failed (path : String) (failure : Failure)
  deriving DecidableEq, Repr

namespace ContentView

/-- The text that stands in while the content is on its way. -/
def loadingPlaceholder : String := "Loading..."

/-- The view of a selection. -/
def ofSelection : Option Selection → ContentView
  | none => noSelection
  | some s => match s.content with
    | .pending => loading s.path
    | .success content => ready s.path content.content content.lines (Category.ofPath s.path)
    | .failure failure => failed s.path failure

/-- The path of the file that is shown. -/
def path? : ContentView → Option String
  | noSelection => none
  | loading path => some path
  | ready path _ _ _ => some path
  | failed path _ => some path

/-- The text in the pane. -/
def body? : ContentView → Option String
  | loading _ => some loadingPlaceholder
  | ready _ content _ _ => some content
  | noSelection => none
  | failed _ _ => none

/-- The content is on its way. -/
def isLoading : ContentView → Bool
  | loading _ => true
  | _ => false

end ContentView

/-- All that the user sees. -/
structure Screen where
  directory : Option String
  files : List FileRow
  listingLoading : Bool
  listingError : Option Failure
  content : ContentView
  history : List Turn
  chatSending : Bool
  chatError : Option Failure
  /-- The usage of the latest answer. -/
  lastUsage : Option ContextUsage
  debug : Option (Outcome DebugResponse)
  plan : Option (Outcome PlanResponse)
  indexRunning : Bool
  indexStatus : Option StatusLine
  indexStats : Option IndexStats
  indexStatsLoading : Bool
  deriving Repr

namespace Screen

/-- Something that the screen shows is still on its way. -/
def isBusy (s : Screen) : Bool :=
  s.listingLoading || s.chatSending || s.content.isLoading || s.debug.any Outcome.isPending
    || s.plan.any Outcome.isPending || s.indexRunning || s.indexStatsLoading

/-- Puts the screen together. -/
def compose (browser : Browser) (session : Session) (panel : IndexPanel) : Screen where
  directory := browser.listing.directory
  files := browser.listing.files.map fun entry =>
    ⟨entry, Category.ofEntry entry, browser.selectedPath? = some entry.path⟩
  listingLoading := browser.listing.isPending
  listingError := browser.listing.error?
  content := ContentView.ofSelection browser.selection
  history := session.history
  chatSending := session.isSending
  chatError := session.lastError?
  lastUsage := session.lastUsage?
  debug := session.debug.outcome
  plan := session.plan.outcome
  indexRunning := panel.isIndexing
  indexStatus := panel.statusLine?
  indexStats := panel.lastStats
  indexStatsLoading := panel.stats.outcome.any Outcome.isPending

end Screen

end CodeAssistant
