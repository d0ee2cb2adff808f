/-
# Trees, skipped values and whole texts

`Json.reader depth` reads a value of any shape whose lists and objects nest at most `depth`
deep.  `skipping` passes over a value of any depth; the length of the text bounds the nesting,
so its own bound never bites.  `readWhole` wants one value and nothing but blanks around it.
-/
import CodeAssistant.Json.Brackets

namespace CodeAssistant

/-- How deep lists and objects may nest in a value that is read. -/
def maxDepth : Nat := 127

namespace Json

/-- Takes the value behind a key as the object's next member; the members come last first. -/
def visitMember (p : Reader Json) (members : List (String × Json)) (key : String) :
    Reader (List (String × Json)) :=
  (Brackets.value p).map fun v => (key, v) :: members

/-- A value whose items are read by `nested`, made when it is needed; without it there may be no
items. -/
def readerWith (nested : Option (Unit → Reader Json)) : Reader Json where
  run s := match readFound s with
    | .error e => .error e
    | .ok (.null, r) => .ok (.null, r)
    | .ok (.bool b, r) => .ok (.bool b, r)
    | .ok (.number n, r) => .ok (.number n, r)
    | .ok (.string t, r) => .ok (.string t, r)
    | .ok (.list, r) => match nested with
      | none => .error (.next .tooDeep r)
      | some p => match Brackets.items .read (p ()) true r.tail with
        | .error e => .error e
        | .ok (vs, r') => .ok (.array vs, r')
    | .ok (.map, r) => match nested with
      | none => .error (.next .tooDeep r)
      | some p => match Brackets.members .read (visitMember (p ())) true [] r.tail with
        | .error e => .error e
        | .ok (ms, r') => .ok (.object ms.reverse, r')
  shrinks := by
    intro s v r h
    have hb := length_skipBlanks_le s
    split at h
    · cases h
    case h_6 r' hf =>
      obtain ⟨hr, -⟩ := length_of_readFound hf
      split at h
      · cases h
      · split at h
        · cases h
        · rename_i hi
          cases h
          have := Brackets.length_of_items hi
          simp only [List.length_tail, hr] at this
          omega
    case h_7 r' hf =>
      obtain ⟨hr, -⟩ := length_of_readFound hf
      split at h
      · cases h
      · split at h
        · cases h
        · rename_i hi
          cases h
          have := Brackets.length_of_members hi
          simp only [List.length_tail, hr] at this
          omega
    all_goals
      rename_i hf
      have := length_of_readFound hf
      cases h
      exact this

/-- A value of any shape that nests at most so deep. -/
def reader : Nat → Reader Json
  | 0 => readerWith none
  | depth + 1 => readerWith (some fun _ => reader depth)

end Json

/-! ## Skipping -/

/-- Passes over a value whose items are passed over by `nested`, made when it is needed. -/
def skippingWith (nested : Option (Unit → Reader Unit)) : Reader Unit where
  run s := match Lexeme.scan .skip (skipBlanks s) with
    | .error e => .error e
    | .ok (.list, r) => match nested with
      | none => .error (.next .tooDeep r)
      | some p => match Brackets.items .skip (p ()) true r.tail with
        | .error e => .error e
        | .ok (_, r') => .ok ((), r')
    | .ok (.map, r) => match nested with
      | none => .error (.next .tooDeep r)
      | some p => match Brackets.members .skip (fun _ _ => Brackets.value (p ())) true () r.tail with
        | .error e => .error e
        | .ok (_, r') => .ok ((), r')
    | .ok (_, r) => .ok ((), r)
  shrinks := by
    intro s v r h
    have hb := length_skipBlanks_le s
    split at h
    · cases h
    · rename_i r' hf
      obtain ⟨hr, -⟩ := Lexeme.length_of_scan hf
      split at h
      · cases h
      · split at h
        · cases h
        · rename_i hi
          cases h
          have := Brackets.length_of_items hi
          simp only [List.length_tail, hr] at this
          omega
    · rename_i r' hf
      obtain ⟨hr, -⟩ := Lexeme.length_of_scan hf
      split at h
      · cases h
      · split at h
        · cases h
        · rename_i hi
          cases h
          have := Brackets.length_of_members hi
          simp only [List.length_tail, hr] at this
          omega
    · rename_i l r' hl hm hf
      have := Lexeme.length_of_scan hf
      have ho : l.isOpening = false := by
        cases l <;> simp_all [Lexeme.isOpening]
      cases h
      simp only [ho] at this
      exact Nat.lt_of_lt_of_le this hb

/-- Passes over a value that nests at most so deep. -/
def skippingTo : Nat → Reader Unit
  | 0 => skippingWith none
  | depth + 1 => skippingWith (some fun _ => skippingTo depth)

/-- Passes over a value of any depth. -/
def skipping : Reader Unit where
  run s := (skippingTo s.length).run s
  shrinks h := (skippingTo _).shrinks h

/-! ## Whole texts -/

/-- One value, with nothing but blanks around it. -/
def readWhole {α : Type} (p : Reader α) (text : String) : Except Fault α :=
  match p.run text.toList with
  | .error e => .error e
  | .ok (a, r) =>
    match skipBlanks r with
    | [] => .ok a
    | r' => .error (.next .trailingCharacters r')

/-- The value that a text spells. -/
def Json.parse (text : String) : Except Fault Json := readWhole (Json.reader maxDepth) text

end CodeAssistant
