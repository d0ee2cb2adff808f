/-
# Records

A record is an object with known keys, or a list of its fields in order.  A field may have a
value that stands in when it is absent; keys that no field has are passed over; a known key may
not occur twice.

`Fields ρ σ` lists the fields of a record: their values, in order, make up the product `ρ`, and
the product `σ` has one slot for each, to be filled while an object is read.  After the last
member `Fields.finish` turns slots into values.
-/
import CodeAssistant.Codec.Basic

namespace CodeAssistant

/-- Whether a field may be absent, and what it is then. -/
inductive Presence (α : Type)
  /-- It must be there. -/
  | required
  /-- It may be missing from an object, but not from a list. -/
  | keyed (value : α)
  /-- It may be missing. -/
  | optional (value : α)
  deriving Repr

namespace Presence

variable {α : Type}

/-- The value of a field that an object does not have. -/
def inObject? : Presence α → Option α
  | required => none
  | keyed a => some a
  | optional a => some a

/-- The value of a field that a list is too short for. -/
def inList? : Presence α → Option α
  | optional a => some a
  | _ => none

end Presence

/-- A field of a record. -/
structure Field (α : Type) where
  key : String
  codec : Codec α
  presence : Presence α
  /-- The value is left out when a record is written. -/
  omitted : α → Bool

/-- A field that must be there. -/
def Field.required {α : Type} (key : String) (codec : Codec α) : Field α :=
  ⟨key, codec, .required, fun _ => false⟩

/-- A field that may be missing and is always written. -/
def Field.optional {α : Type} (key : String) (codec : Codec α) (value : α) : Field α :=
  ⟨key, codec, .optional value, fun _ => false⟩

/-- A field that may be missing or `null`, and is left out rather than written as `null`. -/
def Field.maybe {α : Type} (key : String) (codec : Codec α) : Field (Option α) :=
  ⟨key, codec.nullable, .optional none, Option.isNone⟩

/-- The fields of a record, with the types of their values and of their slots. -/
inductive Fields : Type → Type → Type 1
  | nil : Fields Unit Unit
  | cons {α ρ σ : Type} (field : Field α) (rest : Fields ρ σ) : Fields (α × ρ) (Option α × σ)

namespace Fields

/-- The number of fields. -/
def count {ρ σ : Type} : Fields ρ σ → Nat
  | nil => 0
  | cons _ rest => rest.count + 1

/-- The keys in order. -/
def keys {ρ σ : Type} : Fields ρ σ → List String
  | nil => []
  | cons field rest => field.key :: rest.keys

/-! ## 1. Objects -/

/-- All slots empty. -/
def empty {ρ σ : Type} : Fields ρ σ → σ
  | nil => ()
  | cons _ rest => (none, rest.empty)

/-- A key that occurred before.  The place is behind the blanks that follow the key, and behind
the object's end if that follows. -/
def duplicateFault (key : String) (s : List Char) : Fault :=
  match skipBlanks s with
  | '}' :: r => .here (.duplicateField key) r
  | s' => .here (.duplicateField key) s'

/-- Takes the member with a key, from behind the key. -/
def visit {ρ σ : Type} : Fields ρ σ → Nat → σ → String → Reader σ
  | nil, _, st, _ => (Brackets.value skipping).map fun _ => st
  | cons field rest, depth, (slot, more), key =>
    if key = field.key then
      match slot with
      | some _ => Reader.fail (duplicateFault key)
      | none => (Brackets.value (field.codec.read depth)).map fun a => (some a, more)
    else (rest.visit depth more key).map fun more' => (slot, more')

/-- The values of the slots, absent fields filled in. -/
def finish {ρ σ : Type} : Fields ρ σ → σ → Except Reason ρ
  | nil, _ => .ok ()
  | cons field rest, (slot, more) =>
    match slot.or field.presence.inObject? with
    | none => .error (.missingField field.key)
    | some a => match rest.finish more with
      | .error e => .error e
      | .ok values => .ok (a, values)

/-! ## 2. Lists -/

/-- The values of the fields that a list is too short for.  `index` counts the fields before. -/
def absent {ρ σ : Type} (name : String) (total : Nat) : Fields ρ σ → Nat → Except Reason ρ
  | nil, _ => .ok ()
  | cons field rest, index =>
    match field.presence.inList? with
    | none => .error (.tooFewElements index name total)
    | some a => match rest.absent name total (index + 1) with
      | .error e => .error e
      | .ok values => .ok (a, values)

/-- The fields as the items of a list, up to the closing bracket, which is consumed. -/
def readItems {ρ σ : Type} (name : String) (total depth : Nat) :
    Fields ρ σ → Nat → List Char → Reading ρ
  | nil, _, s =>
    match Brackets.endOfItems s with
    | .error e => .error e
    | .ok r => .ok ((), r)
  | cons field rest, index, s =>
    match Brackets.nextItem .read (index = 0) s with
    | .error e => .error e
    | .ok (.closed r) =>
      match (cons field rest).absent name total index with
      | .error reason => .error (.here reason r)
      | .ok values => .ok (values, r)
    | .ok (.item r) =>
      match (field.codec.read depth).run r with
      | .error e => .error e
      | .ok (a, r') =>
        match rest.readItems name total depth (index + 1) r' with
        | .error e => .error e
        | .ok (values, r'') => .ok ((a, values), r'')

theorem length_of_readItems {ρ σ : Type} {name : String} {total depth : Nat} :
    {fs : Fields ρ σ} → {index : Nat} → {s r : List Char} → {v : ρ} →
      fs.readItems name total depth index s = .ok (v, r) → r.length < s.length := by
  intro fs
  induction fs with
  | nil =>
    intro index s r v h
    rw [readItems] at h
    split at h
    · cases h
    · rename_i he
      cases h
      exact Brackets.length_of_endOfItems he
  | cons field rest ih =>
    intro index s r v h
    rw [readItems] at h
    split at h
    · cases h
    · rename_i r' hn
      split at h
      · cases h
      · cases h
        exact (Brackets.length_of_nextItem hn).2 _ rfl
    · rename_i r' hn
      have hle := (Brackets.length_of_nextItem hn).1
      split at h
      · cases h
      · rename_i hc
        have hlt := (field.codec.read depth).shrinks hc
        split at h
        · cases h
        · rename_i hr
          cases h
          have := ih hr
          simp only [Brackets.Next.rest] at hle
          omega

/-! ## 3. Trees -/

/-- The value of a field among the members of an object.  A key that occurs twice has none. -/
def fieldOfMembers {α : Type} (field : Field α) (members : List (String × Json)) : Option α :=
  match members.filter (·.1 = field.key) with
  | [] => field.presence.inObject?
  | [(_, v)] => field.codec.ofTree v
  | _ => none

/-- The fields' values among the members of an object. -/
def ofMembers {ρ σ : Type} : Fields ρ σ → List (String × Json) → Option ρ
  | nil, _ => some ()
  | cons field rest, members =>
    match fieldOfMembers field members, rest.ofMembers members with
    | some a, some values => some (a, values)
    | _, _ => none

/-- The fields' values as the items of a list. -/
def ofItems {ρ σ : Type} : Fields ρ σ → List Json → Option ρ
  | nil, [] => some ()
  | nil, _ :: _ => none
  | cons field rest, [] =>
    match field.presence.inList?, rest.ofItems [] with
    | some a, some values => some (a, values)
    | _, _ => none
  | cons field rest, v :: vs =>
    match field.codec.ofTree v, rest.ofItems vs with
    | some a, some values => some (a, values)
    | _, _ => none

/-- The members of a written record. -/
def write {ρ σ : Type} : Fields ρ σ → ρ → List (String × Json)
  | nil, _ => []
  | cons field rest, (a, values) =>
    if field.omitted a then rest.write values
    else (field.key, field.codec.write a) :: rest.write values

end Fields

/-! ## 4. The codec -/

/-- Reads a record from an object or a list. -/
def recordReader {ρ σ : Type} (name : String) (fields : Fields ρ σ) (depth : Nat) : Reader ρ where
  run s := match readFound s with
    | .error e => .error e
    | .ok (.map, r) => match depth with
      | 0 => .error (.next .tooDeep r)
      | depth + 1 =>
        match Brackets.members .read (fields.visit depth) true fields.empty r.tail with
        | .error e => .error e
        | .ok (slots, r') => match fields.finish slots with
          | .error reason => .error (.here reason r')
          | .ok values => .ok (values, r')
    | .ok (.list, r) => match depth with
      | 0 => .error (.next .tooDeep r)
      | depth + 1 => fields.readItems name fields.count depth 0 r.tail
    | .ok (found, r) => .error (.here (.wrongKind found (.record name)) r)
  shrinks := by
    intro s v r h
    have hb := length_skipBlanks_le s
    split at h
    · cases h
    · rename_i r' hf
      obtain ⟨hr, -⟩ := length_of_readFound hf
      split at h
      · cases h
      · split at h
        · cases h
        · rename_i hm
          split at h
          · cases h
          · cases h
            have := Brackets.length_of_members hm
            simp only [List.length_tail, hr] at this
            omega
    · rename_i r' hf
      obtain ⟨hr, -⟩ := length_of_readFound hf
      split at h
      · cases h
      · have := Fields.length_of_readItems h
        simp only [List.length_tail, hr] at this
        omega
    · cases h

/-- A record. -/
def Codec.record {ρ σ : Type} (name : String) (fields : Fields ρ σ) : Codec ρ where
  read := recordReader name fields
  ofTree
    | .object members => fields.ofMembers members
    | .array items => fields.ofItems items
    | _ => none
  write values := .object (fields.write values)

end CodeAssistant
