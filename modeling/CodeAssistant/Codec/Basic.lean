/-
# Codecs

A codec ties a type to its form as JSON, three times over: how a value is written, how it is
read from a text in one pass, and how it is read from a tree.  The one-pass reader knows what it
expects, names what it finds instead, and skips what nobody asked for; reading from a tree is the
plain rule that the reader has to agree with.

This module has the codecs of scalars, of free JSON, of optional values, lists and names; records
follow in `CodeAssistant.Codec.Record`.
-/
import CodeAssistant.Json.Document
import CodeAssistant.Json.Printer

namespace CodeAssistant

open Decimal (Binary64)

/-- The JSON form of a type. -/
structure Codec (α : Type) where
  /-- Reads a value in which lists and objects nest at most so deep. -/
  read : Nat → Reader α
  ofTree : Json → Option α
  write : α → Json

namespace Codec

variable {α β : Type}

/-- The value that a text spells. -/
def decode (c : Codec α) (text : String) : Except Fault α := readWhole (c.read maxDepth) text

/-- The compact text of a value. -/
def encode (c : Codec α) (a : α) : String := (c.write a).compact

/-- The codec of a type that is the same thing in another shape. -/
def reshape (c : Codec α) (into : α → β) (out : β → α) : Codec β where
  read depth := (c.read depth).map into
  ofTree t := (c.ofTree t).map into
  write b := c.write (out b)

/-! ## 1. Scalars -/

/-- Reads a scalar that `accept` takes. -/
def scalarOf (expected : Expected) (accept : Found → Option (Except Reason α))
    (h : ∀ o, o.isOpening → accept o = none) : Reader α :=
  scalar
    (fun found => (accept found).getD (.error (.wrongKind found expected)))
    (fun o ho => ⟨.wrongKind o expected, by rw [h o ho]; rfl⟩)

/-- A string. -/
def text : Codec String where
  read _ := scalarOf .text
    (fun | .string s => some (.ok s) | _ => none)
    (by intro o ho; cases o <;> first | rfl | cases ho)
  ofTree | .string s => some s | _ => none
  write := .string

/-- A truth value. -/
def flag : Codec Bool where
  read _ := scalarOf .flag
    (fun | .bool b => some (.ok b) | _ => none)
    (by intro o ho; cases o <;> first | rfl | cases ho)
  ofTree | .bool b => some b | _ => none
  write := .bool

/-- The number as a natural number of 64 bits. -/
def natural? : Number → Option UInt64
  | .natural n => some n
  | _ => none

/-- A natural number of 64 bits.  A negative integer is out of range, a fraction is no integer. -/
def natural64 : Codec UInt64 where
  read _ := scalarOf .natural64
    (fun
      | .number (.natural n) => some (.ok n)
      | .number (.negative n) => some (.error (.outOfRange (.negative n) .natural64))
      | _ => none)
    (by intro o ho; cases o <;> first | rfl | cases ho)
  ofTree | .number n => natural? n | _ => none
  write n := .number (.natural n)

/-- The number as an integer of 64 bits. -/
def integer? : Number → Option Int64
  | .natural n => if n.toNat < 0x8000000000000000 then some (Int64.ofInt n.toNat) else none
  | .negative n => some (Int64.ofInt (-(n.val + 1 : Nat)))
  | .float _ => none

/-- The integer as a number. -/
def ofInt64 (i : Int64) : Number := Numbers.ofInteger (i.toInt < 0) i.toInt.natAbs

/-- An integer of 64 bits. -/
def integer64 : Codec Int64 where
  read _ := scalarOf .integer64
    (fun
      | .number (.float _) => none
      | .number n => match integer? n with
        | some i => some (.ok i)
        | none => some (.error (.outOfRange n .integer64))
      | _ => none)
    (by intro o ho; cases o <;> first | rfl | cases ho)
  ofTree | .number n => integer? n | _ => none
  write i := .number (ofInt64 i)

/-- A floating point number.  Integers are accepted as well. -/
def float64 : Codec Binary64 where
  read _ := scalarOf .float64
    (fun | .number n => some (.ok n.toBinary64) | _ => none)
    (by intro o ho; cases o <;> first | rfl | cases ho)
  ofTree | .number n => some n.toBinary64 | _ => none
  write x := .number (.float x)

/-- Nothing but `null`. -/
def unit : Codec Unit where
  read _ := scalarOf .unit
    (fun | .null => some (.ok ()) | _ => none)
    (by intro o ho; cases o <;> first | rfl | cases ho)
  ofTree | .null => some () | _ => none
  write _ := .null

/-! ## 2. Free JSON -/

/-- A value of any shape, as it stands. -/
def tree : Codec Json where
  read := Json.reader
  ofTree := some
  write := id

/-- A value of any shape, in its canonical form. -/
def free : Codec FreeJson where
  read depth := (Json.reader depth).map FreeJson.ofTree
  ofTree t := some (FreeJson.ofTree t)
  write v := v.tree

/-! ## 3. Optional values -/

/-- `null` or a value of another reader. -/
def nullableReader (p : Reader α) : Reader (Option α) where
  run s := match skipBlanks s with
    | 'n' :: r => match readWord ['u', 'l', 'l'] r with
      | .error e => .error e
      | .ok r' => .ok (none, r')
    | _ => match p.run s with
      | .error e => .error e
      | .ok (a, r) => .ok (some a, r)
  shrinks := by
    intro s a r h
    have hb := length_skipBlanks_le s
    split at h
    · rename_i hs
      rw [hs, List.length_cons] at hb
      split at h
      · cases h
      · rename_i hw
        cases h
        have := length_le_of_readWord hw
        omega
    · split at h
      · cases h
      · rename_i hp
        cases h
        exact p.shrinks hp

/-- `null` or a value. -/
def nullable (c : Codec α) : Codec (Option α) where
  read depth := nullableReader (c.read depth)
  ofTree
    | .null => some none
    | t => (c.ofTree t).map some
  write
    | none => .null
    | some a => c.write a

/-! ## 4. Lists -/

/-- Reads a list, each item by the reader for one level less. -/
def listReader (p : Nat → Reader α) (depth : Nat) : Reader (List α) where
  run s := match readFound s with
    | .error e => .error e
    | .ok (.list, r) => match depth with
      | 0 => .error (.next .tooDeep r)
      | depth + 1 => Brackets.items .read (p depth) true r.tail
    | .ok (found, r) => .error (.here (.wrongKind found .list) r)
  shrinks := by
    intro s a r h
    have hb := length_skipBlanks_le s
    split at h
    · cases h
    · rename_i r' hf
      obtain ⟨hr, -⟩ := length_of_readFound hf
      split at h
      · cases h
      · have := Brackets.length_of_items h
        simp only [List.length_tail, hr] at this
        omega
    · cases h

/-- The values of a list of trees, if each has one. -/
def listOfTrees (c : Codec α) : List Json → Option (List α)
  | [] => some []
  | t :: ts => match c.ofTree t, listOfTrees c ts with
    | some a, some as => some (a :: as)
    | _, _ => none

/-- A list of values. -/
def list (c : Codec α) : Codec (List α) where
  read := listReader c.read
  ofTree
    | .array ts => listOfTrees c ts
    | _ => none
  write as := .array (as.map c.write)

/-! ## 5. Names -/

/-- The value of a name. -/
def named? (names : List (String × α)) (name : String) : Option α :=
  (names.find? (·.1 = name)).map (·.2)

/-- Reads one of some names, as a string. -/
def nameReader (expected : Expected) (names : List (String × α)) : Reader α :=
  scalarOf expected
    (fun
      | .string s => match named? names s with
        | some a => some (.ok a)
        | none => some (.error (.unknownVariant s (names.map (·.1))))
      | _ => none)
    (by intro o ho; cases o <;> first | rfl | cases ho)

/-- The closing brace of an object with one member.  Anything else is a fault at its own place. -/
def closeBrace (s : List Char) : Except Fault (List Char) :=
  match skipBlanks s with
  | '}' :: r => .ok r
  | [] => .error (.here .endInObject [])
  | s' => .error (.here .expectedValue s')

theorem length_of_closeBrace {s r : List Char} (h : closeBrace s = .ok r) :
    r.length < s.length := by
  have hb := length_skipBlanks_le s
  unfold closeBrace at h
  split at h
  · rename_i hs
    rw [hs, List.length_cons] at hb
    cases h; omega
  · cases h
  · cases h

/-- The name in an object with one member, from behind the brace. -/
def memberName (names : List (String × α)) (s : List Char) : Reading α :=
  match skipBlanks s with
  | '"' :: r => (nameReader .variant names).run ('"' :: r)
  | '}' :: r => .error (.next .expectedValue ('}' :: r))
  | [] => .error (.here .endInObject [])
  | s' => .error (.next .keyNotString s')

theorem length_of_memberName {names : List (String × α)} {s r : List Char} {a : α}
    (h : memberName names s = .ok (a, r)) : r.length < s.length := by
  have hb := length_skipBlanks_le s
  unfold memberName at h
  split at h
  · rename_i hs
    rw [hs] at hb
    exact Nat.lt_of_lt_of_le ((nameReader .variant names).shrinks h) hb
  · cases h
  · cases h
  · cases h

/-- The only member of an object, from behind the brace: a name whose value is `null`. -/
def nameMember (names : List (String × α)) (s : List Char) : Reading α :=
  match memberName names s with
  | .error e => .error e
  | .ok (a, r) => match (Brackets.value (unit.read 0)).run r with
    | .error e => .error e
    | .ok ((), r') => match closeBrace r' with
      | .error e => .error e
      | .ok r'' => .ok (a, r'')

theorem length_of_nameMember {names : List (String × α)} {s r : List Char} {a : α}
    (h : nameMember names s = .ok (a, r)) : r.length < s.length := by
  unfold nameMember at h
  split at h
  · cases h
  · rename_i hn
    split at h
    · cases h
    · rename_i hu
      split at h
      · cases h
      · rename_i hc
        cases h
        have := length_of_memberName hn
        have := (Brackets.value (unit.read 0)).shrinks hu
        have := length_of_closeBrace hc
        omega

/-- Reads one of some names: a string, or an object whose only key it is, with the value `null`. -/
def choiceReader (names : List (String × α)) (depth : Nat) : Reader α where
  run s := match skipBlanks s with
    | [] => .error (.next .endInValue [])
    | '"' :: r => (nameReader .variant names).run ('"' :: r)
    | '{' :: r => match depth with
      | 0 => .error (.next .tooDeep ('{' :: r))
      | _ + 1 => nameMember names r
    | s' => .error (.next .expectedValue s')
  shrinks := by
    intro s a r h
    have hb := length_skipBlanks_le s
    split at h
    · cases h
    · rename_i hs
      rw [hs] at hb
      exact Nat.lt_of_lt_of_le ((nameReader .variant names).shrinks h) hb
    · rename_i hs
      rw [hs, List.length_cons] at hb
      split at h
      · cases h
      · have := length_of_nameMember h
        omega
    · cases h

/-- One of some names.  `spell` gives each value's name. -/
def choice (names : List (String × α)) (spell : α → String) : Codec α where
  read := choiceReader names
  ofTree
    | .string s => named? names s
    | .object [(s, .null)] => named? names s
    | _ => none
  write a := .string (spell a)

end Codec

end CodeAssistant
