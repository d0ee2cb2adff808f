/-
# Tickets

Every action that is accepted gets a ticket of its own, and an outcome is applied only while its
ticket is the one that is waited for.  Tickets are ordered by generation and then by number; the
number goes on counting when a new generation begins, so no two tickets of one issuer are equal.
-/
import CodeAssistant.Assistant.Slot

namespace CodeAssistant

/-- The mark of one accepted action. -/
structure Ticket where
  generation : Nat
  sequence : Nat
  deriving DecidableEq, Repr

namespace Ticket

/-- The ticket as it is shown. -/
def describe (t : Ticket) : String := toString t.generation ++ ":" ++ toString t.sequence

/-- Generations count first. -/
instance : LT Ticket where
  lt a b := a.generation < b.generation ∨ (a.generation = b.generation ∧ a.sequence < b.sequence)

theorem lt_iff {a b : Ticket} :
    a < b ↔ a.generation < b.generation ∨
      (a.generation = b.generation ∧ a.sequence < b.sequence) := Iff.rfl

instance (a b : Ticket) : Decidable (a < b) := decidable_of_iff _ lt_iff.symm

end Ticket

/-- A component's supply of tickets.  Its counters stand for numbers of 64 bits but are not bounded
here: what is said of tickets assumes that a component issues fewer than 2⁶⁴ of them, and begins
fewer than 2⁶⁴ generations. -/
structure TicketIssuer where
  generation : Nat := 0
  /-- How many tickets were issued, in all generations. -/
  issued : Nat := 0
  deriving DecidableEq, Repr

namespace TicketIssuer

/-- The ticket that is issued next. -/
def next (i : TicketIssuer) : Ticket := ⟨i.generation, i.issued + 1⟩

/-- The supply after one more ticket. -/
def advance (i : TicketIssuer) : TicketIssuer := { i with issued := i.issued + 1 }

/-- Begins a new generation. -/
def renew (i : TicketIssuer) : TicketIssuer := { i with generation := i.generation + 1 }

/-- What is issued later is greater. -/
theorem next_lt_next_advance (i : TicketIssuer) : i.next < i.advance.next :=
  Ticket.lt_iff.mpr (.inr ⟨rfl, Nat.lt_succ_self _⟩)

end TicketIssuer

/-- A request that a component has accepted and wants to have carried out. -/
structure Dispatch (ρ : Type) where
  ticket : Ticket
  request : ρ
  deriving DecidableEq, Repr

/-- What came of a user action on a component: a dispatch or a rejection, and the state that the
component is in afterwards. -/
structure Attempt (σ ρ : Type) where
  result : Except Rejection (Dispatch ρ)
  state : σ

namespace Attempt

variable {σ ρ : Type}

/-- The action was rejected. -/
def rejected (reason : Rejection) (state : σ) : Attempt σ ρ := ⟨.error reason, state⟩

/-- The action was accepted. -/
def accepted (ticket : Ticket) (request : ρ) (state : σ) : Attempt σ ρ :=
  ⟨.ok ⟨ticket, request⟩, state⟩

end Attempt

end CodeAssistant
