/-
# JSON values

A JSON value as a tree.  An object is the list of its members in the order in which they were
written, repetitions included: what a repeated key means is up to the reader of the tree.

Free JSON, which the program passes on without knowing its shape, is kept in one form only: the
members of every object in increasing order of their keys, each key once, the last value of a
repeated key surviving.  `Json.canonical` brings a tree into that form, `Json.IsCanonical` says
what the form is, and `isCanonical_canonical` joins the two.

Numbers keep apart what the text keeps apart: the integers of 64 bits, and binary floating point
numbers for everything else.
-/
import CodeAssistant.Decimal.Binary64
import CodeAssistant.Text.Dictionary

namespace CodeAssistant

open Decimal (Binary64)
open Text

/-- A JSON number. -/
inductive Number
  /-- A natural number below 2⁶⁴. -/
  | natural (n : UInt64)
  /-- The integer `-(n + 1)`, at least -2⁶³. -/
  | negative (n : Fin 0x8000000000000000)
  /-- Anything else: a fraction, an exponent, an integer out of range, or minus zero. -/
  | float (x : Binary64)
  deriving DecidableEq, Repr

/-- The integer that a number is, if it was written as one in range. -/
def Number.toInt? : Number → Option Int
  | natural n => some n.toNat
  | negative n => some (-(n.val + 1 : Nat))
  | float _ => none

/-- The number as a floating point number. -/
def Number.toBinary64 : Number → Binary64
  | natural n => Binary64.ofNat false n.toNat
  | negative n => Binary64.ofNat true (n.val + 1)
  | float x => x

/-- A JSON value. -/
inductive Json
  | null
  | bool (b : Bool)
  | number (n : Number)
  | string (s : String)
  | array (items : List Json)
  | object (members : List (String × Json))
  deriving Repr, Inhabited

namespace Json

/-! ## 1. Looking inside -/

/-- The value of the last member with a key. -/
def lookup (key : String) (members : List (String × Json)) : Option Json :=
  (members.reverse.find? (·.1 = key)).map (·.2)

/-- The value of a key of an object. -/
def get? (key : String) : Json → Option Json
  | object members => lookup key members
  | _ => none

/-- The value is an object. -/
def isObject : Json → Bool
  | object _ => true
  | _ => false

/-! ## 2. The canonical form -/

/-- The members in increasing order of their keys, the last value of each key. -/
def sortMembers (members : List (String × Json)) : List (String × Json) :=
  Dictionary.ofList members

mutual

/-- The tree with the members of every object sorted and repetitions resolved. -/
def canonical : Json → Json
  | array items => array (canonicalItems items)
  | object members => object (sortMembers (canonicalMembers members))
  | null => null
  | bool b => bool b
  | number n => number n
  | string s => string s

/-- `canonical` of each item. -/
def canonicalItems : List Json → List Json
  | [] => []
  | v :: rest => canonical v :: canonicalItems rest

/-- `canonical` of each member's value. -/
def canonicalMembers : List (String × Json) → List (String × Json)
  | [] => []
  | (k, v) :: rest => (k, canonical v) :: canonicalMembers rest

end

mutual

/-- The keys of every object in the tree stand in strictly increasing order. -/
def IsCanonical : Json → Prop
  | array items => ItemsCanonical items
  | object members => Dictionary.Increasing members ∧ MembersCanonical members
  | null => True
  | bool _ => True
  | number _ => True
  | string _ => True

/-- Every item is canonical. -/
def ItemsCanonical : List Json → Prop
  | [] => True
  | v :: rest => IsCanonical v ∧ ItemsCanonical rest

/-- Every member's value is canonical. -/
def MembersCanonical : List (String × Json) → Prop
  | [] => True
  | (_, v) :: rest => IsCanonical v ∧ MembersCanonical rest

end

/-! ## 3. Canonicalising reaches the canonical form -/

theorem membersCanonical_iff {ms : List (String × Json)} :
    MembersCanonical ms ↔ ∀ m ∈ ms, IsCanonical m.2 := by
  induction ms with
  | nil => simp [MembersCanonical]
  | cons m ms ih => obtain ⟨k, v⟩ := m; simp [MembersCanonical, ih]

theorem sortMembers_canonical {ms : List (String × Json)} (h : MembersCanonical ms) :
    Dictionary.Increasing (sortMembers ms) ∧ MembersCanonical (sortMembers ms) :=
  ⟨Dictionary.increasing_ofList ms, membersCanonical_iff.mpr fun m hm =>
    membersCanonical_iff.mp h m (Dictionary.mem_of_mem_ofList hm)⟩

mutual

/-- **Canonicalising reaches the canonical form.** -/
theorem isCanonical_canonical : (t : Json) → IsCanonical (canonical t)
  | .array items => itemsCanonical_canonicalItems items
  | .object members =>
    have h := sortMembers_canonical (membersCanonical_canonicalMembers members)
    ⟨h.1, h.2⟩
  | .null => trivial
  | .bool _ => trivial
  | .number _ => trivial
  | .string _ => trivial

theorem itemsCanonical_canonicalItems : (ts : List Json) → ItemsCanonical (canonicalItems ts)
  | [] => trivial
  | v :: rest => ⟨isCanonical_canonical v, itemsCanonical_canonicalItems rest⟩

theorem membersCanonical_canonicalMembers :
    (ms : List (String × Json)) → MembersCanonical (canonicalMembers ms)
  | [] => trivial
  | (_, v) :: rest => ⟨isCanonical_canonical v, membersCanonical_canonicalMembers rest⟩

end

end Json

/-- JSON of any shape, in the canonical form. -/
structure FreeJson where
  tree : Json
  canonical : tree.IsCanonical
  deriving Repr

namespace FreeJson

/-- The canonical form of a tree. -/
def ofTree (t : Json) : FreeJson := ⟨t.canonical, Json.isCanonical_canonical t⟩

/-- The value `null`. -/
def null : FreeJson := ⟨.null, trivial⟩

instance : Inhabited FreeJson := ⟨null⟩

end FreeJson

end CodeAssistant
