/-
# One call at a time

A slot that admits one call at a time remembers the ticket in flight and the latest outcome.  The
two go together: `SingleFlight.Consistent` says that a ticket is in flight exactly while the
outcome is pending.
-/
import CodeAssistant.Assistant.Ticket

namespace CodeAssistant

/-- A slot with at most one call in flight. -/
structure SingleFlight (α : Type) where
  inFlight : Option Ticket := none
  /-- The latest outcome; none before the first call. -/
  outcome : Option (Outcome α) := none
  deriving Repr

namespace SingleFlight

variable {α : Type}

/-- A call is in flight. -/
def isPending (s : SingleFlight α) : Bool := s.inFlight.isSome

/-- A call sets out. -/
def begin (_ : SingleFlight α) (ticket : Ticket) : SingleFlight α := ⟨some ticket, some .pending⟩

/-- Records a failure that happened before anything was sent.  A call in flight goes first. -/
def refuse (s : SingleFlight α) (failure : Failure) : SingleFlight α :=
  if s.isPending then s else { s with outcome := some (.failure failure) }

/-- The ticket is the one in flight, and the outcome is an end. -/
def accepts (s : SingleFlight α) (ticket : Ticket) (outcome : Outcome α) : Bool :=
  s.inFlight = some ticket && !outcome.isPending

/-- Takes an outcome, if it ends the call in flight. -/
def resolve (s : SingleFlight α) (ticket : Ticket) (outcome : Outcome α) :
    Bool × SingleFlight α :=
  if s.accepts ticket outcome then (true, ⟨none, some outcome⟩) else (false, s)

/-- Forgets the call in flight and the latest outcome. -/
def clear (_ : SingleFlight α) : SingleFlight α := {}

/-- A ticket is in flight exactly while the outcome is pending. -/
def Consistent (s : SingleFlight α) : Prop :=
  s.inFlight.isSome ↔ s.outcome.any Outcome.isPending

theorem consistent_begin (s : SingleFlight α) (ticket : Ticket) : (s.begin ticket).Consistent := by
  simp [Consistent, begin, Outcome.isPending]

theorem consistent_clear (s : SingleFlight α) : s.clear.Consistent := by
  simp [Consistent, clear]

/-- Behind an end nothing is in flight. -/
theorem consistent_ended {outcome : Outcome α} (h : outcome.isPending = false) :
    (⟨none, some outcome⟩ : SingleFlight α).Consistent := by
  simp [Consistent, h]

theorem Consistent.resolve {s : SingleFlight α} (h : s.Consistent) (ticket : Ticket)
    (outcome : Outcome α) : (s.resolve ticket outcome).2.Consistent := by
  unfold SingleFlight.resolve
  split
  · rename_i ha
    exact consistent_ended (by simpa using (Bool.and_eq_true_iff.mp ha).2)
  · exact h

end SingleFlight

end CodeAssistant
