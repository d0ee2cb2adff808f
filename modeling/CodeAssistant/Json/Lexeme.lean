/-
# The front of a value

What a value is shows in its first character.  A scalar is taken as a whole; of a list or a map
only the bracket is seen, and it is left where it is, because whoever wants something else
reports the bracket's own place.
-/
import CodeAssistant.Json.Numbers
import CodeAssistant.Json.Strings

namespace CodeAssistant

/-- A scalar, or the opening bracket of something else. -/
inductive Lexeme
  | null
  | bool (b : Bool)
  | number (l : Numbers.Literal)
  | string (s : String)
  | list
  | map
  deriving DecidableEq, Repr

namespace Lexeme

/-- A bracket, which is not consumed. -/
def isOpening : Lexeme → Bool
  | list => true
  | map => true
  | _ => false

/-- The rest of a word, and what the word stands for. -/
def word (rest : List Char) (meaning : Lexeme) (s : List Char) : Reading Lexeme :=
  match readWord rest s with
  | .error e => .error e
  | .ok r => .ok (meaning, r)

/-- A number, from behind its sign. -/
def numeral (mode : Mode) (negative : Bool) (s : List Char) : Reading Lexeme :=
  match Numbers.scan mode negative s with
  | .error e => .error e
  | .ok (l, r) => .ok (number l, r)

/-- What stands at the front of a text without leading blanks. -/
def scan (mode : Mode) (s : List Char) : Reading Lexeme :=
  match s with
  | [] => .error (.next .endInValue [])
  | c :: r =>
    if c = 'n' then word ['u', 'l', 'l'] null r
    else if c = 't' then word ['r', 'u', 'e'] (bool true) r
    else if c = 'f' then word ['a', 'l', 's', 'e'] (bool false) r
    else if c = '-' then numeral mode true r
    else if Numbers.isDigit c then numeral mode false (c :: r)
    else if c = '"' then
      match (Strings.body mode).run r with
      | .error e => .error e
      | .ok (cs, r') => .ok (string cs, r')
    else if c = '[' then .ok (list, c :: r)
    else if c = '{' then .ok (map, c :: r)
    else .error (.next .expectedValue (c :: r))

theorem length_of_word {w s r : List Char} {m l : Lexeme} (h : word w m s = .ok (l, r)) :
    l = m ∧ r.length ≤ s.length := by
  unfold word at h
  split at h
  · cases h
  · rename_i hw
    cases h
    exact ⟨rfl, length_le_of_readWord hw⟩

theorem length_of_numeral {mode : Mode} {negative : Bool} {s r : List Char} {l : Lexeme}
    (h : numeral mode negative s = .ok (l, r)) : l.isOpening = false ∧ r.length < s.length := by
  unfold numeral at h
  split at h
  · cases h
  · rename_i hs
    cases h
    exact ⟨rfl, Numbers.length_of_scan hs⟩

/-- A scalar is consumed, a bracket is not. -/
theorem length_of_scan {mode : Mode} {s r : List Char} {l : Lexeme}
    (h : scan mode s = .ok (l, r)) :
    if l.isOpening then r = s ∧ s ≠ [] else r.length < s.length := by
  unfold scan at h
  split at h
  · cases h
  · rename_i c t
    split at h
    · obtain ⟨rfl, hr⟩ := length_of_word h
      simpa [isOpening] using Nat.lt_succ_of_le hr
    split at h
    · obtain ⟨rfl, hr⟩ := length_of_word h
      simpa [isOpening] using Nat.lt_succ_of_le hr
    split at h
    · obtain ⟨rfl, hr⟩ := length_of_word h
      simpa [isOpening] using Nat.lt_succ_of_le hr
    split at h
    · obtain ⟨hl, h⟩ := length_of_numeral h
      simpa [hl] using Nat.lt_succ_of_lt h
    split at h
    · obtain ⟨hl, h⟩ := length_of_numeral h
      simpa [hl] using h
    split at h
    · split at h
      · cases h
      · rename_i hb
        cases h
        simpa [isOpening] using Nat.lt_succ_of_lt ((Strings.body mode).shrinks hb)
    split at h
    · cases h; simp [isOpening]
    split at h
    · cases h; simp [isOpening]
    · cases h

end Lexeme

/-! ## Reading a scalar -/

/-- What is found at the front of a text, its number understood. -/
def readFound (s : List Char) : Reading Found :=
  match Lexeme.scan .read (skipBlanks s) with
  | .error e => .error e
  | .ok (.null, r) => .ok (.null, r)
  | .ok (.bool b, r) => .ok (.bool b, r)
  | .ok (.string t, r) => .ok (.string t, r)
  | .ok (.list, r) => .ok (.list, r)
  | .ok (.map, r) => .ok (.map, r)
  | .ok (.number l, r) => match l.number? with
    | .ok n => .ok (.number n, r)
    | .error unneeded => .error ⟨.numberOutOfRange, Text.Utf8.size r + unneeded⟩

/-- A bracket, which is not consumed. -/
def Found.isOpening : Found → Bool
  | list => true
  | map => true
  | _ => false

/-- A scalar is consumed; at a bracket only the blanks before it are. -/
theorem length_of_readFound {s r : List Char} {f : Found} (h : readFound s = .ok (f, r)) :
    if f.isOpening then r = skipBlanks s ∧ r ≠ [] else r.length < s.length := by
  have hb := length_skipBlanks_le s
  unfold readFound at h
  split at h
  · cases h
  all_goals
    rename_i hs
    have := Lexeme.length_of_scan hs
  case h_7 =>
    split at h
    · cases h
      simp only [Lexeme.isOpening, Found.isOpening] at *
      exact Nat.lt_of_lt_of_le this hb
    · cases h
  all_goals
    cases h
    simp only [Lexeme.isOpening, Found.isOpening] at *
  case h_2 => exact Nat.lt_of_lt_of_le this hb
  case h_3 => exact Nat.lt_of_lt_of_le this hb
  case h_4 => exact Nat.lt_of_lt_of_le this hb
  case h_5 => exact ⟨this.1, this.1 ▸ this.2⟩
  case h_6 => exact ⟨this.1, this.1 ▸ this.2⟩

/-- A scalar that `f` accepts.  Anything else is of the wrong kind. -/
def scalar {α : Type} (f : Found → Except Reason α) (hf : ∀ o, o.isOpening → ∃ e, f o = .error e) :
    Reader α where
  run s := match readFound s with
    | .error e => .error e
    | .ok (found, r) => match f found with
      | .ok a => .ok (a, r)
      | .error reason => .error (.here reason r)
  shrinks := by
    intro s a r h
    split at h
    · cases h
    · rename_i found r' hr
      split at h
      · rename_i ha
        cases h
        have := length_of_readFound hr
        cases ho : found.isOpening
        · simpa [ho] using this
        · obtain ⟨e, he⟩ := hf found ho
          rw [he] at ha
          cases ha
      · cases h

end CodeAssistant
