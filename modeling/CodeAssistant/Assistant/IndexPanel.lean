/-
# The index panel

The panel starts index runs and shows the statistics of the index.  Statistics come from two
sides: from a refresh, and from an index run that reports an object.  Whichever came last is
shown, and a failure on either side takes nothing away.
-/
import CodeAssistant.Assistant.SingleFlight

namespace CodeAssistant

/-- The tone of a status line. -/
inductive Tone
  | info
  | success
  | error
  deriving DecidableEq, Repr

/-- The tone's name. -/
def Tone.name : Tone → String
  | info => "info"
  | success => "success"
  | error => "error"

/-- A line that says how the latest index run stands. -/
structure StatusLine where
  tone : Tone
  message : String
  deriving DecidableEq, Repr

/-- The state of the panel. -/
structure IndexPanel where
  tickets : TicketIssuer := {}
  trigger : SingleFlight IndexTriggerResponse := {}
  stats : SingleFlight IndexStats := {}
  /-- The statistics that came last. -/
  lastStats : Option IndexStats := none
  deriving Repr

namespace IndexPanel

/-- What the panel says when no path was entered. -/
def missingPathMessage : String := "Please enter a directory path"

/-- What the panel says during a run. -/
def indexingMessage : String := "Indexing repository..."

/-- What the panel says after a run that ended well. -/
def indexedMessage : String := "Repository indexed successfully!"

/-- A run is under way. -/
def isIndexing (p : IndexPanel) : Bool := p.trigger.isPending

/-- How the latest run stands. -/
def statusLine? (p : IndexPanel) : Option StatusLine :=
  p.trigger.outcome.map fun
    | .pending => ⟨.info, indexingMessage⟩
    | .success _ => ⟨.success, indexedMessage⟩
    | .failure failure => ⟨.error, failure.message⟩

/-! ## 1. Actions -/

/-- Starts an index run.  A blank path becomes the outcome of a run that never was. -/
def triggerRun (p : IndexPanel) (path : String) : Attempt IndexPanel IndexRequest :=
  if p.trigger.isPending then .rejected (.busy .index) p
  else if Text.trim path = "" then
    .rejected (.emptyField .repositoryPath)
      { p with trigger := p.trigger.refuse ⟨.validation, missingPathMessage⟩ }
  else
    .accepted p.tickets.next ⟨Text.trim path⟩
      { p with tickets := p.tickets.advance, trigger := p.trigger.begin p.tickets.next }

/-- Asks for the statistics. -/
def refreshStats (p : IndexPanel) : Attempt IndexPanel Unit :=
  if p.stats.isPending then .rejected (.busy .indexStats) p
  else
    .accepted p.tickets.next ()
      { p with tickets := p.tickets.advance, stats := p.stats.begin p.tickets.next }

/-! ## 2. Events -/

/-- An outcome addressed to the panel. -/
inductive Event
  | trigger (ticket : Ticket) (outcome : Outcome IndexTriggerResponse)
  | stats (ticket : Ticket) (outcome : Outcome IndexStats)
  deriving Repr

/-- The statistics that a run reports, if they are an object. -/
def statsOfRun? : Outcome IndexTriggerResponse → Option IndexStats
  | .success response => if response.stats.tree.isObject then some ⟨response.stats⟩ else none
  | _ => none

/-- Applies an event.  The flag is false for a stale one, which changes nothing. -/
def apply (p : IndexPanel) : Event → Bool × IndexPanel
  | .trigger ticket outcome =>
    let lastStats :=
      if p.trigger.inFlight = some ticket then (statsOfRun? outcome).or p.lastStats
      else p.lastStats
    let (applied, trigger) := p.trigger.resolve ticket outcome
    (applied, { p with trigger, lastStats })
  | .stats ticket outcome =>
    if p.stats.inFlight = some ticket then
      let (applied, stats) := p.stats.resolve ticket outcome
      (applied, { p with stats, lastStats := outcome.value?.or p.lastStats })
    else (false, p)

end IndexPanel

end CodeAssistant
