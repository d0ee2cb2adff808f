/-
# What actions and events come to

A component meets a user action in one of two ways.  It rejects it, and then nothing that a call
in flight depends on has moved; or it accepts it under the next ticket of its supply, and then
exactly one slot waits for that ticket.  The lemmas named `..._cases` say this of one action each,
with all that the action writes, so that what follows never opens an action again.

An event that a component takes ends the call of one slot; any other event changes nothing.  The
lemmas named `resolve..._eq` say when an event is taken and what it writes.
-/
import CodeAssistant.Assistant.Screen

namespace CodeAssistant

/-- What a pending slot waits for. -/
structure Tag where
  ticket : Ticket
  /-- The file, where a content is awaited. -/
  path : Option String := none
  deriving DecidableEq, Repr

/-- The content that is still to come. -/
def Selection.awaited (s : Selection) : Option Tag :=
  if s.isLoading then some ⟨s.ticket, some s.path⟩ else none

/-- What was issued before is still less than what is issued next. -/
theorem TicketIssuer.lt_next_advance {i : TicketIssuer} {t : Ticket} (h : t < i.next) :
    t < i.advance.next := by
  rw [Ticket.lt_iff] at h ⊢
  simp only [next, advance] at h ⊢
  omega

theorem TicketIssuer.ne_next_of_lt {i : TicketIssuer} {t : Ticket} (h : t < i.next) :
    t ≠ i.next := by
  rintro rfl
  rw [Ticket.lt_iff] at h
  omega

/-- Taking an outcome into a slot for one call at a time. -/
theorem SingleFlight.resolve_eq {α : Type} (s : SingleFlight α) (ticket : Ticket)
    (outcome : Outcome α) :
    s.resolve ticket outcome =
      if s.inFlight = some ticket ∧ outcome.isPending = false then (true, ⟨none, some outcome⟩)
      else (false, s) := by
  simp [resolve, accepts]

/-! ## 1. The session -/

namespace Session

theorem submit_cases (s : Session) (question : String) :
    (∃ reason, s.submit question = .rejected reason s) ∨
      (s.isSending = false ∧
        s.submit question = .accepted s.tickets.next { question := Text.trim question }
          { s with
            tickets := s.tickets.advance
            history := s.history ++ [.question (Text.trim question)]
            mode := .sending s.tickets.next }) := by
  unfold submit
  split
  · exact Or.inl ⟨_, rfl⟩
  · rename_i hs
    split
    · exact Or.inl ⟨_, rfl⟩
    · exact Or.inr ⟨by simpa using hs, rfl⟩

theorem submitDebug_cases (s : Session) (request : DebugRequest) :
    (∃ reason, s.submitDebug request = .rejected reason s) ∨
      s.submitDebug request = .accepted s.tickets.next request.normalized
        { s with tickets := s.tickets.advance, debug := s.debug.begin s.tickets.next } := by
  unfold submitDebug
  split
  · exact Or.inl ⟨_, rfl⟩
  · split
    · exact Or.inl ⟨_, rfl⟩
    · split
      · exact Or.inl ⟨_, rfl⟩
      · exact Or.inr rfl

theorem submitPlan_cases (s : Session) (request : PlanRequest) :
    (∃ reason, s.submitPlan request = .rejected reason s) ∨
      s.submitPlan request = .accepted s.tickets.next request.normalized
        { s with tickets := s.tickets.advance, plan := s.plan.begin s.tickets.next } := by
  unfold submitPlan
  split
  · exact Or.inl ⟨_, rfl⟩
  · split
    · exact Or.inl ⟨_, rfl⟩
    · exact Or.inr rfl

/-- The turn that ends an exchange with an outcome. -/
def turnOf? : Outcome ChatResponse → Option Turn
  | .pending => none
  | .success response => some (.answer response)
  | .failure failure => some (.error failure)

/-- The mode after an exchange has ended with an outcome. -/
def modeAfter : Outcome ChatResponse → ChatMode
  | .failure failure => .failed failure
  | .success _ | .pending => .idle

/-- Ends the exchange that is under way. -/
def endExchange (s : Session) (outcome : Outcome ChatResponse) : Session :=
  { s with history := s.history ++ (turnOf? outcome).toList, mode := modeAfter outcome }

theorem resolveChat_eq (s : Session) (ticket : Ticket) (outcome : Outcome ChatResponse) :
    s.resolveChat ticket outcome =
      if s.mode = .sending ticket ∧ outcome.isPending = false then (true, s.endExchange outcome)
      else (false, s) := by
  unfold resolveChat
  by_cases hm : s.mode = .sending ticket
  · rw [if_pos hm]
    cases outcome with
    | pending => simp [Outcome.isPending]
    | success response => simp [hm, Outcome.isPending, endExchange, turnOf?, modeAfter]
    | failure failure => simp [hm, Outcome.isPending, endExchange, turnOf?, modeAfter]
  · rw [if_neg hm, if_neg (fun h => hm h.1)]

end Session

/-! ## 2. The browser -/

namespace Browser

theorem loadListing_cases (b : Browser) (directory : String) :
    (∃ reason, b.loadListing directory = .rejected reason b) ∨
      b.loadListing directory = .accepted b.tickets.next (Text.trim directory)
        { b with
          tickets := b.tickets.advance
          listing :=
            { b.listing with
              directory := some (Text.trim directory)
              status := some .pending
              inFlight := some b.tickets.next } } := by
  unfold loadListing
  split
  · exact Or.inl ⟨_, rfl⟩
  · exact Or.inr rfl

/-- A retry is a listing of some directory, or it is rejected. -/
theorem retryListing_cases (b : Browser) :
    (∃ reason, b.retryListing = .rejected reason b) ∨
      ∃ directory, b.retryListing = b.loadListing directory := by
  unfold retryListing
  split
  · exact Or.inl ⟨_, rfl⟩
  · exact Or.inr ⟨_, rfl⟩

theorem selectFile_cases (b : Browser) (path : String) :
    (∃ reason, b.selectFile path = .rejected reason b) ∨
      b.selectFile path = .accepted b.tickets.next (Text.trim path)
        { b with
          tickets := b.tickets.advance
          selection := some ⟨Text.trim path, b.tickets.next, .pending⟩ } := by
  unfold selectFile
  split
  · exact Or.inl ⟨_, rfl⟩
  · exact Or.inr rfl

/-- A reload is a selection of some path, or it is rejected. -/
theorem reloadSelection_cases (b : Browser) :
    (∃ reason, b.reloadSelection = .rejected reason b) ∨
      ∃ path, b.reloadSelection = b.selectFile path := by
  unfold reloadSelection
  split
  · exact Or.inl ⟨_, rfl⟩
  · exact Or.inr ⟨_, rfl⟩

/-- Ends the listing in flight. -/
def endListing (b : Browser) (outcome : Outcome (List FileEntry)) : Browser :=
  { b with
    listing :=
      { b.listing with
        files := outcome.value?.getD b.listing.files
        status := some (outcome.map fun _ => ())
        inFlight := none } }

theorem resolveListing_eq (b : Browser) (ticket : Ticket) (outcome : Outcome (List FileEntry)) :
    b.resolveListing ticket outcome =
      if b.listing.inFlight = some ticket ∧ outcome.isPending = false then
        (true, b.endListing outcome)
      else (false, b) := by
  unfold resolveListing
  by_cases ht : b.listing.inFlight = some ticket
  · rw [if_pos ht]
    cases outcome with
    | pending => simp [Outcome.isPending]
    | success files => simp [ht, Outcome.isPending, endListing, Outcome.map, Outcome.value?]
    | failure failure => simp [ht, Outcome.isPending, endListing, Outcome.map, Outcome.value?]
  · rw [if_neg ht, if_neg (fun h => ht h.1)]

/-- Shows an outcome as the content of the selection. -/
def endFetch (b : Browser) (outcome : Outcome FileContent) : Browser :=
  { b with selection := b.selection.map fun s => { s with content := outcome } }

theorem resolveContent_eq (b : Browser) (ticket : Ticket) (path : String)
    (outcome : Outcome FileContent) :
    b.resolveContent ticket path outcome =
      if b.selection.bind Selection.awaited = some ⟨ticket, some path⟩ ∧
          outcome.isPending = false then
        (true, b.endFetch outcome)
      else (false, b) := by
  unfold resolveContent
  cases hs : b.selection with
  | none => simp
  | some selection =>
    by_cases hl : selection.isLoading = true
    · simp [Selection.awaited, hl, endFetch, hs, and_assoc]
    · simp [Selection.awaited, hl]

end Browser

/-! ## 3. The index panel -/

namespace IndexPanel

/-- A rejected run may leave a failure behind, but only in a slot that waits for nothing. -/
theorem triggerRun_cases (p : IndexPanel) (path : String) :
    (∃ reason, p.triggerRun path = .rejected reason p) ∨
      (p.trigger.inFlight = none ∧
        p.triggerRun path = .rejected (.emptyField .repositoryPath)
          { p with trigger := ⟨none, some (.failure ⟨.validation, missingPathMessage⟩)⟩ }) ∨
      p.triggerRun path = .accepted p.tickets.next ⟨Text.trim path⟩
        { p with tickets := p.tickets.advance, trigger := p.trigger.begin p.tickets.next } := by
  unfold triggerRun
  split
  · exact Or.inl ⟨_, rfl⟩
  · rename_i hp
    have hn : p.trigger.inFlight = none := by
      simpa [SingleFlight.isPending] using hp
    split
    · refine Or.inr (Or.inl ⟨hn, ?_⟩)
      rw [SingleFlight.refuse, if_neg hp, hn]
    · exact Or.inr (Or.inr rfl)

theorem refreshStats_cases (p : IndexPanel) :
    (∃ reason, p.refreshStats = .rejected reason p) ∨
      p.refreshStats = .accepted p.tickets.next ()
        { p with tickets := p.tickets.advance, stats := p.stats.begin p.tickets.next } := by
  unfold refreshStats
  split
  · exact Or.inl ⟨_, rfl⟩
  · exact Or.inr rfl

/-- Ends the run in flight.  Its statistics are shown if they are an object. -/
def endRun (p : IndexPanel) (outcome : Outcome IndexTriggerResponse) : IndexPanel :=
  { p with
    trigger := ⟨none, some outcome⟩
    lastStats := (statsOfRun? outcome).or p.lastStats }

/-- Ends the refresh in flight.  What it brings is shown. -/
def endRefresh (p : IndexPanel) (outcome : Outcome IndexStats) : IndexPanel :=
  { p with stats := ⟨none, some outcome⟩, lastStats := outcome.value?.or p.lastStats }

/-- A run that has not ended has no statistics, so the panel writes them only if it takes the
outcome. -/
theorem apply_trigger_eq (p : IndexPanel) (ticket : Ticket)
    (outcome : Outcome IndexTriggerResponse) :
    p.apply (.trigger ticket outcome) =
      if p.trigger.inFlight = some ticket ∧ outcome.isPending = false then
        (true, p.endRun outcome)
      else (false, p) := by
  simp only [apply, SingleFlight.resolve_eq]
  by_cases ht : p.trigger.inFlight = some ticket
  · cases outcome <;> simp [ht, Outcome.isPending, endRun, statsOfRun?]
  · simp [ht]

theorem apply_stats_eq (p : IndexPanel) (ticket : Ticket) (outcome : Outcome IndexStats) :
    p.apply (.stats ticket outcome) =
      if p.stats.inFlight = some ticket ∧ outcome.isPending = false then
        (true, p.endRefresh outcome)
      else (false, p) := by
  simp only [apply, SingleFlight.resolve_eq]
  by_cases ht : p.stats.inFlight = some ticket
  · cases outcome <;> simp [ht, Outcome.isPending, endRefresh, Outcome.value?]
  · simp [ht]

end IndexPanel

end CodeAssistant
