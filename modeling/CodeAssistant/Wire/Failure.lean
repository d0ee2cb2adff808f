/-
# Failures and outcomes

A failure has one of three kinds and a message for the user.  The outcome of a call is what its
owner knows of it: still pending, a value, or a failure.
-/
import CodeAssistant.Codec.Record

namespace CodeAssistant

/-- The kind of a failure. -/
inductive FailureKind
  /-- The backend was not reached, or the connection broke. -/
  | network
  /-- The backend answered with an error or with something unreadable. -/
  | server
  /-- The request was never made. -/
  | validation
  deriving DecidableEq, Repr

/-- The kind's name. -/
def FailureKind.name : FailureKind → String
  | network => "network"
  | server => "server"
  | validation => "validation"

/-- The kinds by name. -/
def FailureKind.names : List (String × FailureKind) :=
  [("network", network), ("server", server), ("validation", validation)]

/-- A failure of some kind, with a message. -/
structure Failure where
  kind : FailureKind
  message : String
  deriving DecidableEq, Repr

namespace Failure

/-- The failure in one line. -/
def describe (f : Failure) : String := f.kind.name ++ " error: " ++ f.message

/-- Failures are records with the two fields. -/
def codec : Codec Failure :=
  (Codec.record "Failure"
    (.cons (.required "kind" (.choice FailureKind.names FailureKind.name))
      (.cons (.required "message" .text) .nil))).reshape
    (fun (kind, message, ()) => ⟨kind, message⟩) (fun f => (f.kind, f.message, ()))

end Failure

/-- What is known of a call. -/
inductive Outcome (α : Type)
  | pending
  | success (value : α)
  | failure (failure : Failure)
  deriving DecidableEq, Repr

namespace Outcome

variable {α β : Type}

/-- The call has not ended. -/
def isPending : Outcome α → Bool
  | pending => true
  | _ => false

/-- The call has ended well. -/
def isSuccess : Outcome α → Bool
  | success _ => true
  | _ => false

/-- The value of a call that ended well. -/
def value? : Outcome α → Option α
  | success a => some a
  | _ => none

/-- The failure of a call that ended badly. -/
def failure? : Outcome α → Option Failure
  | failure f => some f
  | _ => none

/-- The same outcome with another value. -/
def map (f : α → β) : Outcome α → Outcome β
  | pending => pending
  | success a => success (f a)
  | failure e => failure e

end Outcome

end CodeAssistant
