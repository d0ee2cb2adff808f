/-
# Lists and objects

The commas, colons and closing brackets between values, from behind the opening bracket.  One
function says what stands at the next place, the end or another item; a loop takes the items.
The loops end because every item consumes something.

What happens to the items is up to a reader: a list takes one reader for all of its items, an
object a reader that may depend on the key and on what came before (`members`).
-/
import CodeAssistant.Json.Lexeme

namespace CodeAssistant.Brackets

/-! ## 1. What comes next -/

/-- The end of a list or an object, with what is behind it, or the text of another item. -/
inductive Next
  | closed (rest : List Char)
  | item (rest : List Char)
  deriving DecidableEq, Repr

/-- What comes next in a list. -/
def nextItem (mode : Mode) (first : Bool) (s : List Char) : Except Fault Next :=
  match skipBlanks s with
  | [] => .error (.next .endInList [])
  | c :: r =>
    if c = ']' then .ok (.closed r)
    else if first then .ok (.item (c :: r))
    else if c = ',' then
      match mode with
      | .skip => .ok (.item r)
      | .read => match skipBlanks r with
        | [] => .error (.next .endInValue [])
        | d :: r' =>
          if d = ']' then .error (.next .trailingComma (d :: r')) else .ok (.item (d :: r'))
    else .error (.next .expectedListEnd (c :: r))

/-- A key is expected where only a quote may stand. -/
def keyStart (s : List Char) : Except Fault Next :=
  match s with
  | '"' :: r => .ok (.item r)
  | s => .error (.next .keyNotString s)

/-- What comes next in an object: the end, or a key from behind its opening quote. -/
def nextKey (mode : Mode) (first : Bool) (s : List Char) : Except Fault Next :=
  match skipBlanks s with
  | [] => .error (.next .endInObject [])
  | c :: r =>
    if c = '}' then .ok (.closed r)
    else if first then keyStart (c :: r)
    else if c = ',' then
      match mode, skipBlanks r with
      | .skip, [] => .error (.next .endInObject [])
      | .read, [] => .error (.next .endInValue [])
      | .read, '}' :: r' => .error (.next .trailingComma ('}' :: r'))
      | _, r' => keyStart r'
    else .error (.next .expectedObjectEnd (c :: r))

/-- The colon behind a key. -/
def colon (s : List Char) : Except Fault (List Char) :=
  match skipBlanks s with
  | [] => .error (.next .endInObject [])
  | c :: r => if c = ':' then .ok r else .error (.next .expectedColon (c :: r))

/-- The end of a list that takes no more items. -/
def endOfItems (s : List Char) : Except Fault (List Char) :=
  match skipBlanks s with
  | [] => .error (.next .endInList [])
  | c :: r =>
    if c = ']' then .ok r
    else if c = ',' then
      match skipBlanks r with
      | ']' :: r' => .error (.next .trailingComma (']' :: r'))
      | r' => .error (.next .trailingCharacters r')
    else .error (.next .trailingCharacters (c :: r))

/-- The characters behind the place that a step found. -/
def Next.rest : Next → List Char
  | closed r => r
  | item r => r

theorem length_of_nextItem {mode : Mode} {first : Bool} {s : List Char} {n : Next}
    (h : nextItem mode first s = .ok n) :
    n.rest.length ≤ s.length ∧ (∀ r, n = .closed r → r.length < s.length) := by
  have hb := length_skipBlanks_le s
  unfold nextItem at h
  split at h
  · cases h
  · rename_i c r hs
    rw [hs, List.length_cons] at hb
    split at h
    · cases h
      exact ⟨by simp only [Next.rest]; omega, by rintro _ ⟨⟩; omega⟩
    split at h
    · cases h
      exact ⟨by simpa [Next.rest] using hb, by rintro _ ⟨⟩⟩
    split at h
    · split at h
      · cases h
        exact ⟨by simp only [Next.rest]; omega, by rintro _ ⟨⟩⟩
      · have hr := length_skipBlanks_le r
        split at h
        · cases h
        · rename_i hr'
          rw [hr'] at hr
          split at h
          · cases h
          · cases h
            exact ⟨by simp only [Next.rest]; omega, by rintro _ ⟨⟩⟩
    · cases h

theorem length_of_keyStart {s : List Char} {n : Next} (h : keyStart s = .ok n) :
    n.rest.length < s.length ∧ ∀ r, n ≠ .closed r := by
  unfold keyStart at h
  split at h
  · cases h
    simp [Next.rest]
  · cases h

theorem length_of_nextKey {mode : Mode} {first : Bool} {s : List Char} {n : Next}
    (h : nextKey mode first s = .ok n) : n.rest.length < s.length := by
  have hb := length_skipBlanks_le s
  unfold nextKey at h
  split at h
  · cases h
  · rename_i c r hs
    rw [hs, List.length_cons] at hb
    split at h
    · cases h
      simp only [Next.rest]; omega
    split at h
    · have := (length_of_keyStart h).1
      simp only [List.length_cons] at this
      omega
    split at h
    · have hr := length_skipBlanks_le r
      split at h
      · cases h
      · cases h
      · cases h
      · have := (length_of_keyStart h).1
        omega
    · cases h

theorem length_of_colon {s r : List Char} (h : colon s = .ok r) : r.length < s.length := by
  have hb := length_skipBlanks_le s
  unfold colon at h
  split at h
  · cases h
  · rename_i hs
    rw [hs, List.length_cons] at hb
    split at h
    · cases h; omega
    · cases h

theorem length_of_endOfItems {s r : List Char} (h : endOfItems s = .ok r) :
    r.length < s.length := by
  have hb := length_skipBlanks_le s
  unfold endOfItems at h
  split at h
  · cases h
  · rename_i hs
    rw [hs, List.length_cons] at hb
    split at h
    · cases h; omega
    · split at h
      · split at h <;> cases h
      · cases h

/-! ## 2. The items of a list -/

variable {α σ : Type}

/-- The items of a list up to its closing bracket, which is consumed. -/
def items (mode : Mode) (p : Reader α) (first : Bool) (s : List Char) : Reading (List α) :=
  match _hn : nextItem mode first s with
  | .error e => .error e
  | .ok (.closed r) => .ok ([], r)
  | .ok (.item r) =>
    match _hp : p.run r with
    | .error e => .error e
    | .ok (a, r') =>
      match items mode p false r' with
      | .error e => .error e
      | .ok (rest, r'') => .ok (a :: rest, r'')
termination_by s.length
decreasing_by
  have := (length_of_nextItem _hn).1
  have := p.shrinks _hp
  simp only [Next.rest] at *
  omega

theorem length_of_items {mode : Mode} {p : Reader α} {first : Bool} {s r : List Char}
    {as : List α} (h : items mode p first s = .ok (as, r)) : r.length < s.length := by
  fun_induction items mode p first s generalizing as r with
  | case1 => cases h
  | case2 first s r' hn =>
    cases h
    exact (length_of_nextItem hn).2 _ rfl
  | case3 => cases h
  | case4 => cases h
  | case5 first s r₁ hn a r₂ hp rest r₃ hi ih =>
    cases h
    have := (length_of_nextItem hn).1
    have := p.shrinks hp
    have := ih hi
    simp only [Next.rest] at *
    omega

/-! ## 3. The members of an object -/

/-- The members of an object up to its closing brace, which is consumed.  For each key a reader
takes the text from behind the key and gives the next state. -/
def members (mode : Mode) (visit : σ → String → Reader σ) (first : Bool) (st : σ)
    (s : List Char) : Reading σ :=
  match _hn : nextKey mode first s with
  | .error e => .error e
  | .ok (.closed r) => .ok (st, r)
  | .ok (.item r) =>
    match _hk : (Strings.body mode).run r with
    | .error e => .error e
    | .ok (key, r') =>
      match _hv : (visit st key).run r' with
      | .error e => .error e
      | .ok (st', r'') => members mode visit false st' r''
termination_by s.length
decreasing_by
  have := length_of_nextKey _hn
  have := (Strings.body mode).shrinks _hk
  have := (visit st key).shrinks _hv
  simp only [Next.rest] at *
  omega

theorem length_of_members {mode : Mode} {visit : σ → String → Reader σ} {first : Bool}
    {st st' : σ} {s r : List Char} (h : members mode visit first st s = .ok (st', r)) :
    r.length < s.length := by
  fun_induction members mode visit first st s with
  | case1 => cases h
  | case2 first st s r' hn =>
    cases h
    exact length_of_nextKey hn
  | case3 => cases h
  | case4 => cases h
  | case5 first st s r₁ hn key r₂ hk st₁ r₃ hv ih =>
    have := length_of_nextKey hn
    have := (Strings.body mode).shrinks hk
    have := (visit st key).shrinks hv
    have := ih h
    simp only [Next.rest] at *
    omega

/-- A value behind the colon of its key. -/
def value (p : Reader α) : Reader α :=
  Reader.after colon (fun h => Nat.le_of_lt (length_of_colon h)) p

end CodeAssistant.Brackets
