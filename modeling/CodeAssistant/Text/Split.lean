/-
# Cutting at separators

A list is cut at every item that is a separator.  There is always one piece more than there are
separators, and no piece holds one.
-/

namespace CodeAssistant.Text

variable {α : Type}

/-- The pieces between the items that `p` holds of. -/
def splitWhere (p : α → Bool) : List α → List (List α)
  | [] => [[]]
  | x :: rest =>
    if p x then [] :: splitWhere p rest
    else match splitWhere p rest with
      | [] => [[x]]
      | piece :: pieces => (x :: piece) :: pieces

/-- There is always a piece. -/
theorem splitWhere_ne_nil (p : α → Bool) (xs : List α) : splitWhere p xs ≠ [] := by
  cases xs with
  | nil => simp [splitWhere]
  | cons x rest =>
    rw [splitWhere]
    split
    · simp
    · split <;> simp

/-- A list without separators is one piece. -/
theorem splitWhere_eq_singleton {p : α → Bool} {xs : List α} (h : ∀ x ∈ xs, p x = false) :
    splitWhere p xs = [xs] := by
  induction xs with
  | nil => rfl
  | cons x rest ih =>
    rw [splitWhere, h x List.mem_cons_self, ih fun y hy => h y (List.mem_cons_of_mem _ hy)]
    rfl

end CodeAssistant.Text
