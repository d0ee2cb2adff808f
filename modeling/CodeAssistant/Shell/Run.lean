/-
# Running commands

A command is carried out on the assistant, everything that it started is waited for, and the part
of the screen that it changed is shown.

How calls get their answers is left to a host: the shell only asks it to settle the assistant and
to inquire after the backend's health.
-/
import CodeAssistant.Assistant.Basic
import CodeAssistant.Shell.Command
import CodeAssistant.Shell.Render

namespace CodeAssistant.Shell

/-- The shell's settings. -/
structure Config where
  /-- The directory that is listed when none was named. -/
  defaultDirectory : String := "."
  deriving DecidableEq, Repr

/-- What the shell needs from outside. -/
structure Host (m : Type → Type) where
  /-- Has every running call answered and every outcome applied. -/
  settle : Assistant → m Assistant
  health : m (Outcome HealthStatus)

/-- What a command shows. -/
structure Output where
  text : String
  /-- It was the last command. -/
  quit : Bool := false
  deriving DecidableEq, Repr

variable {m : Type → Type} [Monad m]

/-- Carries out an action, waits for all calls and shows a part of what has become of it.  A
rejection is shown instead. -/
def settleThen (host : Host m) (a : Assistant) (action : Action) (view : Assistant → String) :
    m (Output × Assistant) :=
  match a.act action with
  | (.rejected reason, a') => pure (⟨Render.rejection reason, false⟩, a')
  | (_, a') => do
    let settled ← host.settle a'
    pure (⟨view settled, false⟩, settled)

/-- The turns that came after the first `start`, without the questions. -/
def newTurns (start : Nat) (a : Assistant) : String :=
  "\n".intercalate (((a.session.history.drop start).filter (!·.isQuestion)).map Render.turn)

/-- The statistics, or why they could not be had. -/
def statsView (a : Assistant) : String :=
  match a.panel.stats.outcome.bind Outcome.failure? with
  | some failure => Render.failureLine failure
  | none => Render.index a.screen

/-- The directory that a listing without an argument is of. -/
def directoryOr (config : Config) (a : Assistant) (directory : Option String) : String :=
  (directory.or a.browser.listing.directory).getD config.defaultDirectory

/-- Runs a command. -/
def run (host : Host m) (config : Config) (a : Assistant) : Command → m (Output × Assistant)
  | .ask question => settleThen host a (.sendChat question) (newTurns a.session.history.length)
  | .files directory =>
    settleThen host a (.loadListing (directoryOr config a directory)) (Render.listing ·.screen)
  | .retry => settleThen host a .retryListing (Render.listing ·.screen)
  | .openFile path => settleThen host a (.selectFile path) (Render.content ·.screen.content)
  | .debug request => settleThen host a (.requestDebug request) (Render.debug ·.session.debug.outcome)
  | .plan request => settleThen host a (.requestPlan request) (Render.plan ·.session.plan.outcome)
  | .index path =>
    match a.act (.triggerIndex path) with
    | (.rejected (.busy slot), a') => pure (⟨Render.rejection (.busy slot), false⟩, a')
    -- A blank path has become the outcome of the panel, which is shown either way.
    | (_, a') => do
      let settled ← host.settle a'
      pure (⟨Render.index settled.screen, false⟩, settled)
  | .stats => settleThen host a .refreshIndexStats statsView
  | .health => do
    let outcome ← host.health
    pure (⟨Render.health outcome, false⟩, a)
  | .reset => pure (⟨"Conversation cleared.", false⟩, (a.act .resetSession).2)
  | .help => pure (⟨helpText, false⟩, a)
  | .quit => pure (⟨"", true⟩, a)
  | .usage line => pure (⟨"usage: " ++ line, false⟩, a)
  | .unknown name => pure (⟨"Unknown command " ++ name ++ ". Type /help.", false⟩, a)

end CodeAssistant.Shell
