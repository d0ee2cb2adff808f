/-
# Readers

A reader takes what is left of a text and gives a value and what is left then.  That it always
leaves less than it was given is part of the type, so loops over readers end for a reason that
nobody has to prove again.

A text is read in one of two modes.  Values that are wanted are read; values that are not, the
unknown members of an object, are skipped.  Skipping checks the form only: neither the range of
numbers nor the pairing of surrogates, and a few faults are named or placed differently.
-/
import CodeAssistant.Json.Fault

namespace CodeAssistant

/-- The outcome of a reading step: a value and the characters left, or a fault. -/
abbrev Reading (α : Type) := Except Fault (α × List Char)

/-- A step that leaves less than it was given. -/
structure Reader (α : Type) where
  run : List Char → Reading α
  shrinks : ∀ {s a r}, run s = .ok (a, r) → r.length < s.length

/-- Whether a value is wanted. -/
inductive Mode
  | read
  | skip
  deriving DecidableEq, Repr

namespace Reader

variable {α β : Type}

/-- The same step with another value. -/
def map (f : α → β) (p : Reader α) : Reader β where
  run s := match p.run s with
    | .error e => .error e
    | .ok (a, r) => .ok (f a, r)
  shrinks := by
    intro s b r h
    split at h
    · cases h
    · rename_i a r' hp
      cases h
      exact p.shrinks hp

/-- The same step, its value checked; a refusal stands after what was read. -/
def check (f : α → Except Reason β) (p : Reader α) : Reader β where
  run s := match p.run s with
    | .error e => .error e
    | .ok (a, r) => match f a with
      | .error reason => .error (.here reason r)
      | .ok b => .ok (b, r)
  shrinks := by
    intro s b r h
    split at h
    · cases h
    · rename_i a r' hp
      split at h
      · cases h
      · cases h
        exact p.shrinks hp

/-- The step that always fails. -/
def fail (fault : List Char → Fault) : Reader α where
  run s := .error (fault s)
  shrinks := by intro s a r h; cases h

/-- A step after a look ahead that gives back no more than it was given. -/
def after (look : List Char → Except Fault (List Char))
    (hlook : ∀ {s r}, look s = .ok r → r.length ≤ s.length) (p : Reader α) : Reader α where
  run s := match look s with
    | .error e => .error e
    | .ok r => p.run r
  shrinks := by
    intro s a r h
    split at h
    · cases h
    · rename_i r' hl
      exact Nat.lt_of_lt_of_le (p.shrinks h) (hlook hl)

end Reader

/-! ## Blanks and words -/

/-- The blanks between the tokens of a JSON text. -/
def isJsonBlank (c : Char) : Bool := c = ' ' || c = '\n' || c = '\t' || c = '\r'

/-- The text without leading blanks. -/
def skipBlanks (s : List Char) : List Char := s.dropWhile isJsonBlank

theorem length_skipBlanks_le (s : List Char) : (skipBlanks s).length ≤ s.length :=
  (List.dropWhile_sublist _).length_le

/-- Blanks skipped twice are blanks skipped once. -/
theorem skipBlanks_skipBlanks (s : List Char) : skipBlanks (skipBlanks s) = skipBlanks s := by
  induction s with
  | nil => rfl
  | cons c s ih =>
    by_cases h : isJsonBlank c
    · simpa [skipBlanks, h] using ih
    · simp [skipBlanks, h]

/-- The rest of a word whose first letter has been seen. -/
def readWord : List Char → List Char → Except Fault (List Char)
  | [], s => .ok s
  | _ :: _, [] => .error (.here .endInValue [])
  | w :: ws, c :: s => if c = w then readWord ws s else .error (.next .expectedIdent (c :: s))

theorem length_le_of_readWord {w s r : List Char} (h : readWord w s = .ok r) :
    r.length ≤ s.length := by
  induction w generalizing s with
  | nil => cases h; exact Nat.le_refl _
  | cons a w ih =>
    cases s with
    | nil => cases h
    | cons c s =>
      rw [readWord] at h
      split at h
      · exact Nat.le_succ_of_le (ih h)
      · cases h

end CodeAssistant
