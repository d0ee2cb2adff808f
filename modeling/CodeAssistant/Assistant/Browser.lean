/-
# The repository browser

The browser shows the files of one directory and the content of one file.  A newer request takes
the place of the one before it: what the older one brings is dropped when it arrives.  A listing
that fails leaves the files of the latest good one where they are.
-/
import CodeAssistant.Assistant.Ticket

namespace CodeAssistant

/-- The latest listing and how it stands. -/
structure Listing where
  /-- The directory that was asked for last. -/
  directory : Option String := none
  /-- The files of the latest listing that ended well. -/
  files : List FileEntry := []
  /-- The state of the latest request; none before the first. -/
  status : Option (Outcome Unit) := none
  inFlight : Option Ticket := none
  deriving Repr

namespace Listing

/-- A listing is under way. -/
def isPending (l : Listing) : Bool := l.inFlight.isSome

/-- The failure of the latest listing. -/
def error? (l : Listing) : Option Failure := l.status.bind Outcome.failure?

end Listing

/-- The selected file and what was fetched for it. -/
structure Selection where
  path : String
  ticket : Ticket
  content : Outcome FileContent
  deriving Repr

namespace Selection

/-- The content has not arrived. -/
def isLoading (s : Selection) : Bool := s.content.isPending

/-- The text of the file, once it has arrived. -/
def text? (s : Selection) : Option String := s.content.value?.map FileContent.content

end Selection

/-- The state of the browser. -/
structure Browser where
  tickets : TicketIssuer := {}
  listing : Listing := {}
  selection : Option Selection := none
  deriving Repr

namespace Browser

/-- The path of the selected file. -/
def selectedPath? (b : Browser) : Option String := b.selection.map Selection.path

/-! ## 1. Actions -/

/-- Lists a directory. -/
def loadListing (b : Browser) (directory : String) : Attempt Browser String :=
  if Text.trim directory = "" then .rejected (.emptyField .directory) b
  else
    .accepted b.tickets.next (Text.trim directory)
      { b with
        tickets := b.tickets.advance
        listing :=
          { b.listing with
            directory := some (Text.trim directory)
            status := some .pending
            inFlight := some b.tickets.next } }

/-- Lists the latest directory again. -/
def retryListing (b : Browser) : Attempt Browser String :=
  match b.listing.directory with
  | none => .rejected (.nothingToRetry .listing) b
  | some directory => b.loadListing directory

/-- Opens a file.  Nothing of the file before it is left. -/
def selectFile (b : Browser) (path : String) : Attempt Browser String :=
  if Text.trim path = "" then .rejected (.emptyField .filePath) b
  else
    .accepted b.tickets.next (Text.trim path)
      { b with
        tickets := b.tickets.advance
        selection := some ⟨Text.trim path, b.tickets.next, .pending⟩ }

/-- Opens the selected file again. -/
def reloadSelection (b : Browser) : Attempt Browser String :=
  match b.selectedPath? with
  | none => .rejected (.nothingToRetry .content) b
  | some path => b.selectFile path

/-! ## 2. Events -/

/-- An outcome addressed to the browser. -/
inductive Event
  | listing (ticket : Ticket) (outcome : Outcome (List FileEntry))
  | content (ticket : Ticket) (path : String) (outcome : Outcome FileContent)
  deriving Repr

/-- Ends the listing in flight. -/
def resolveListing (b : Browser) (ticket : Ticket) (outcome : Outcome (List FileEntry)) :
    Bool × Browser :=
  if b.listing.inFlight = some ticket then
    match outcome with
    | .pending => (false, b)
    | .success files =>
      (true, { b with
        listing := { b.listing with files, status := some (.success ()), inFlight := none } })
    | .failure failure =>
      (true, { b with
        listing := { b.listing with status := some (.failure failure), inFlight := none } })
  else (false, b)

/-- Ends the fetch that the selection waits for.  The path is the one that was asked for; the
backend may answer with another spelling of it. -/
def resolveContent (b : Browser) (ticket : Ticket) (path : String)
    (outcome : Outcome FileContent) : Bool × Browser :=
  match b.selection with
  | none => (false, b)
  | some selection =>
    if selection.ticket = ticket && selection.path = path && selection.isLoading
        && !outcome.isPending then
      (true, { b with selection := some { selection with content := outcome } })
    else (false, b)

/-- Applies an event.  The flag is false for a stale one, which changes nothing. -/
def apply (b : Browser) : Event → Bool × Browser
  | .listing ticket outcome => b.resolveListing ticket outcome
  | .content ticket path outcome => b.resolveContent ticket path outcome

end Browser

end CodeAssistant
