/-
# Reading a tree by plain rules

What a type's values are in a parsed tree, said as a maintainer would say it.  A record takes each
of its fields by name from an object or by place from a list (`Json.entry`); a field that is not
there is a failure or has a default (`Json.field`, `Json.fieldOr`); a list has at most as many items
as there are fields.  `Json.repeats` is the one thing that the tree of an object does not show once
it is canonical: that a key was written twice.

`Codec.Follows c rule bad` says that the codec reads trees by `rule`, which sees the canonical tree,
except that it refuses those that are `bad`.  The codecs' combinators keep to rules made of the
parts' rules.
-/
import CodeAssistant.Codec.Record
import CodeAssistant.Proofs.Canonical
import CodeAssistant.Proofs.Records

namespace CodeAssistant

open Decimal (Binary64)

/-! ## 1. The rules -/

namespace Json

variable {α : Type}

/-- A string. -/
def asText : Json → Option String
  | string s => some s
  | _ => none

/-- A truth value. -/
def asFlag : Json → Option Bool
  | bool b => some b
  | _ => none

/-- An integer from 0 to below 2⁶⁴. -/
def asNatural : Json → Option UInt64
  | number n => n.toInt?.bind fun i =>
    if 0 ≤ i ∧ i < 0x10000000000000000 then some (UInt64.ofNat i.toNat) else none
  | _ => none

/-- An integer from -2⁶³ to below 2⁶³. -/
def asInteger : Json → Option Int64
  | number n => n.toInt?.bind fun i =>
    if -0x8000000000000000 ≤ i ∧ i < 0x8000000000000000 then some (Int64.ofInt i) else none
  | _ => none

/-- Any number. -/
def asFloat : Json → Option Binary64
  | number n => some n.toBinary64
  | _ => none

/-- Anything, as it is. -/
def asFree (t : Json) : Option FreeJson := some (FreeJson.ofTree t)

/-- `null` or something else. -/
def asNullable (rule : Json → Option α) : Json → Option (Option α)
  | null => some none
  | t => (rule t).map some

/-- A list, each item by a rule. -/
def asList (rule : Json → Option α) : Json → Option (List α)
  | array ts => ts.mapM rule
  | _ => none

/-- What a tree has for a field: the value under its key, or the item at its place. -/
def entry (key : String) (place : Nat) : Json → Option Json
  | object ms => lookup key ms
  | array ts => ts[place]?
  | _ => none

/-- The tree can be a record of so many fields. -/
def isRecord (count : Nat) : Json → Bool
  | object _ => true
  | array ts => ts.length ≤ count
  | _ => false

/-- A record of at most so many fields. -/
def asRecord (count : Nat) (rule : Json → Option α) (t : Json) : Option α :=
  if t.isRecord count then rule t else none

/-- A field that must be there. -/
def field (rule : Json → Option α) (key : String) (place : Nat) (t : Json) : Option α :=
  match t.entry key place with
  | none => none
  | some u => rule u

/-- A field with a default. -/
def fieldOr (default : α) (rule : Json → Option α) (key : String) (place : Nat) (t : Json) :
    Option α :=
  match t.entry key place with
  | none => some default
  | some u => rule u

/-- A tree whose entry for a field is bad. -/
def hasBad (key : String) (place : Nat) (bad : Json → Prop) (t : Json) : Prop :=
  ∃ u, t.entry key place = some u ∧ bad u

/-- A list with a bad item. -/
def hasBadItem (bad : Json → Prop) (t : Json) : Prop := ∃ ts, t = array ts ∧ ∃ u ∈ ts, bad u

/-- No tree is bad. -/
def never (_ : Json) : Prop := False

/-- An object that has one of some keys more than once. -/
def repeats (keys : List String) : Json → Prop
  | object ms => ∃ key ∈ keys, 2 ≤ (ms.map (·.1)).count key
  | _ => False

theorem entry_canonical (key : String) (place : Nat) (t : Json) :
    t.canonical.entry key place = (t.entry key place).map canonical := by
  cases t with
  | object ms => exact lookup_canonical key ms
  | array ts => simp [canonical, canonicalItems_eq_map, entry]
  | _ => rfl

theorem isRecord_canonical (count : Nat) (t : Json) :
    t.canonical.isRecord count = t.isRecord count := by
  cases t with
  | array ts => simp [canonical, canonicalItems_eq_map, isRecord]
  | _ => rfl

theorem asNatural_number (n : Number) : Codec.natural? n = asNatural (number n) := by
  cases n with
  | natural n =>
    have hn := n.toNat_lt
    rw [asNatural, Number.toInt?, Option.bind_some, if_pos (by omega), Int.toNat_natCast,
      UInt64.ofNat_toNat, Codec.natural?]
  | negative n =>
    rw [asNatural, Number.toInt?, Option.bind_some, if_neg (by omega), Codec.natural?]
    simp
  | float x => rfl

theorem asInteger_number (n : Number) : Codec.integer? n = asInteger (number n) := by
  cases n with
  | natural n =>
    rw [asInteger, Number.toInt?, Option.bind_some, Codec.integer?]
    by_cases hn : n.toNat < 0x8000000000000000
    · rw [if_pos hn, if_pos (by omega)]
    · rw [if_neg hn, if_neg (by omega)]
  | negative n =>
    have hn := n.isLt
    rw [asInteger, Number.toInt?, Option.bind_some, if_pos (by omega), Codec.integer?]
  | float x => rfl

end Json

/-! ## 2. Codecs that follow a rule -/

/-- The codec refuses the trees that are `bad` and reads the others by `rule`. -/
structure Codec.Follows {α : Type} (c : Codec α) (rule : Json → Option α) (bad : Json → Prop) :
    Prop where
  refused : ∀ {t}, bad t → c.ofTree t = none
  followed : ∀ {t}, ¬ bad t → c.ofTree t = rule t.canonical

namespace Codec.Follows

variable {α β : Type} {c : Codec α} {rule rule' : Json → Option α} {bad bad' : Json → Prop}

/-- A codec that sees no objects. -/
theorem scalar (h : ∀ t : Json, c.ofTree t = rule t.canonical) : c.Follows rule Json.never :=
  ⟨fun h => h.elim, fun {t} _ => h t⟩

theorem congr (h : c.Follows rule bad) (hrule : ∀ t, rule t = rule' t)
    (hbad : ∀ t, bad t ↔ bad' t) : c.Follows rule' bad' :=
  ⟨fun hb => h.refused ((hbad _).mpr hb),
    fun hb => (h.followed fun h => hb ((hbad _).mp h)).trans (hrule _)⟩

theorem reshape (h : c.Follows rule bad) (into : α → β) (out : β → α) :
    (c.reshape into out).Follows (fun t => (rule t).map into) bad :=
  ⟨fun hb => by simp [Codec.reshape, h.refused hb],
    fun hb => by simp [Codec.reshape, h.followed hb]⟩

theorem text : Codec.text.Follows Json.asText Json.never := .scalar (by intro t; cases t <;> rfl)

theorem flag : Codec.flag.Follows Json.asFlag Json.never := .scalar (by intro t; cases t <;> rfl)

theorem float64 : Codec.float64.Follows Json.asFloat Json.never :=
  .scalar (by intro t; cases t <;> rfl)

theorem free : Codec.free.Follows Json.asFree Json.never :=
  .scalar fun t => congrArg some (FreeJson.ofTree_canonical t).symm

theorem natural64 : Codec.natural64.Follows Json.asNatural Json.never := by
  refine .scalar fun t => ?_
  cases t with
  | number n => exact Json.asNatural_number n
  | _ => rfl

theorem integer64 : Codec.integer64.Follows Json.asInteger Json.never := by
  refine .scalar fun t => ?_
  cases t with
  | number n => exact Json.asInteger_number n
  | _ => rfl

theorem nullable (h : c.Follows rule bad) (hnull : ¬ bad .null) :
    c.nullable.Follows (Json.asNullable rule) bad := by
  refine ⟨fun {t} hb => ?_, fun {t} hb => ?_⟩
  · cases t <;> first | exact absurd hb hnull | simp [Codec.nullable, h.refused hb]
  · cases t <;> first | rfl | simp [Codec.nullable, h.followed hb, Json.canonical, Json.asNullable]

theorem listOfTrees_of_bad (h : c.Follows rule bad) {ts : List Json} (hb : ∃ u ∈ ts, bad u) :
    listOfTrees c ts = none := by
  induction ts with
  | nil =>
    obtain ⟨u, hu, -⟩ := hb
    cases hu
  | cons t ts ih =>
    obtain ⟨u, hu, hbad⟩ := hb
    rw [listOfTrees]
    rcases List.mem_cons.mp hu with rfl | hu
    · rw [h.refused hbad]
    · rw [ih ⟨u, hu, hbad⟩]
      cases c.ofTree t <;> rfl

theorem listOfTrees_of_good (h : c.Follows rule bad) {ts : List Json}
    (hgood : ∀ u ∈ ts, ¬ bad u) : listOfTrees c ts = (ts.map Json.canonical).mapM rule := by
  induction ts with
  | nil => rfl
  | cons t ts ih =>
    rw [listOfTrees, h.followed (hgood t List.mem_cons_self),
      ih fun u hu => hgood u (List.mem_cons_of_mem _ hu), List.map_cons, List.mapM_cons]
    cases rule t.canonical with
    | none => rfl
    | some a => cases (ts.map Json.canonical).mapM rule <;> rfl

theorem list (h : c.Follows rule bad) :
    c.list.Follows (Json.asList rule) (Json.hasBadItem bad) := by
  refine ⟨?_, fun {t} hgood => ?_⟩
  · rintro _ ⟨ts, rfl, hb⟩
    exact h.listOfTrees_of_bad hb
  · cases t with
    | array ts =>
      simp only [Codec.list, Json.canonical, Json.canonicalItems_eq_map, Json.asList]
      exact h.listOfTrees_of_good fun u hu hb => hgood ⟨ts, rfl, u, hu, hb⟩
    | _ => rfl

end Codec.Follows

/-! ## 3. Records -/

/-- The value of a field, read by a rule from what a tree has for it. -/
def Field.take {α : Type} (field : Field α) (rule : Json → Option α) : Option Json → Option α
  | none => field.presence.inList?
  | some u => rule u

section Take

variable {α : Type} {key : String} {c : Codec α} {t : Json} {place : Nat}

theorem Field.take_required {rule : Json → Option α} :
    (Field.required key c).take rule (t.entry (Field.required key c).key place) =
      t.field rule key place := rfl

theorem Field.take_optional {rule : Json → Option α} {a : α} :
    (Field.optional key c a).take rule (t.entry (Field.optional key c a).key place) =
      t.fieldOr a rule key place := rfl

theorem Field.take_maybe {rule : Json → Option (Option α)} :
    (Field.maybe key c).take rule (t.entry (Field.maybe key c).key place) =
      t.fieldOr none rule key place := rfl

end Take

namespace Fields

variable {ρ σ : Type} {fs : Fields ρ σ}

/-- The fields' values in a tree, each by its key or by its place; `place` counts the fields
before. -/
def pick {ρ σ : Type} : Fields ρ σ → Nat → Json → Option ρ
  | nil, _, _ => some ()
  | cons field rest, place, t =>
    (field.take field.codec.ofTree (t.entry field.key place)).bind fun a =>
      (rest.pick (place + 1) t).map fun values => (a, values)

/-- A field that is absent is the same in an object as in a list. -/
def Plain (fs : Fields ρ σ) : Prop :=
  fs.Every fun field => field.presence.inObject? = field.presence.inList?

theorem ofItems_of_length {vs : List Json} (h : fs.count < vs.length) : fs.ofItems vs = none := by
  induction fs generalizing vs with
  | nil =>
    cases vs with
    | nil => cases h
    | cons v vs => rfl
  | cons field rest ih =>
    cases vs with
    | nil => cases h
    | cons v vs =>
      rw [ofItems, ih (Nat.lt_of_succ_lt_succ h)]
      cases field.codec.ofTree v <;> rfl

/-- The items of a list are picked by their places. -/
theorem ofItems_drop {ts : List Json} (place : Nat) (h : ts.length ≤ place + fs.count) :
    fs.ofItems (ts.drop place) = fs.pick place (.array ts) := by
  induction fs generalizing place with
  | nil =>
    have hdrop : ts.drop place = [] := List.drop_eq_nil_of_le h
    rw [hdrop]
    rfl
  | cons field rest ih =>
    rw [pick, ← ih (place + 1) (by simp only [count] at h; omega)]
    simp only [Json.entry]
    cases hv : ts[place]? with
    | none =>
      have hlen := List.getElem?_eq_none_iff.mp hv
      rw [List.drop_eq_nil_of_le hlen, List.drop_eq_nil_of_le (by omega), ofItems, Field.take]
      cases field.presence.inList? with
      | none => rfl
      | some a => cases rest.ofItems [] <;> rfl
    | some v =>
      have hcons : ts.drop place = v :: ts.drop (place + 1) := by
        obtain ⟨hlt, rfl⟩ := List.getElem?_eq_some_iff.mp hv
        exact List.drop_eq_getElem_cons hlt
      simp only [hcons, ofItems, Field.take]
      cases field.codec.ofTree v with
      | none => rfl
      | some a => cases rest.ofItems (ts.drop (place + 1)) <;> rfl

/-- How often a key stands among members. -/
theorem count_key (key : String) (ms : List (String × Json)) :
    (ms.map (·.1)).count key = (ms.filter (·.1 = key)).length := by
  rw [List.count_eq_countP, List.countP_map, List.countP_eq_length_filter]
  congr 2

theorem lookup_eq_getLast? (key : String) (ms : List (String × Json)) :
    Json.lookup key ms = (ms.filter (·.1 = key)).getLast?.map (·.2) := by
  rw [Json.lookup, ← List.head?_filter, List.filter_reverse, List.head?_reverse]

variable {α : Type} {field : Field α} {ms : List (String × Json)}

theorem fieldOfMembers_of_once (hplain : field.presence.inObject? = field.presence.inList?)
    (h : (ms.map (·.1)).count field.key < 2) :
    fieldOfMembers field ms = field.take field.codec.ofTree (Json.lookup field.key ms) := by
  rw [count_key] at h
  rw [fieldOfMembers, lookup_eq_getLast?]
  generalize ms.filter (·.1 = field.key) = found at h
  cases found with
  | nil => exact hplain
  | cons m rest => cases rest with
    | nil => rfl
    | cons m' rest =>
      simp only [List.length_cons] at h
      omega

theorem fieldOfMembers_of_twice (h : 2 ≤ (ms.map (·.1)).count field.key) :
    fieldOfMembers field ms = none := by
  rw [count_key] at h
  rw [fieldOfMembers]
  generalize ms.filter (·.1 = field.key) = found at h
  cases found with
  | nil => simp at h
  | cons m rest => cases rest with
    | nil => simp at h
    | cons m' rest => rfl

/-- The members of an object that repeats no key are picked by their keys. -/
theorem ofMembers_of_once (hplain : fs.Plain) (h : ∀ key ∈ fs.keys, (ms.map (·.1)).count key < 2)
    (place : Nat) : fs.ofMembers ms = fs.pick place (.object ms) := by
  induction fs generalizing place with
  | nil => rfl
  | cons field rest ih =>
    obtain ⟨hfield, hrest⟩ := hplain
    rw [ofMembers, pick, fieldOfMembers_of_once hfield (h _ List.mem_cons_self),
      ih hrest (fun key hkey => h key (List.mem_cons_of_mem _ hkey)) (place + 1)]
    simp only [Json.entry]
    cases field.take field.codec.ofTree (Json.lookup field.key ms) with
    | none => rfl
    | some a => cases rest.pick (place + 1) (.object ms) <;> rfl

theorem ofMembers_of_twice {key : String} (hkey : key ∈ fs.keys)
    (h : 2 ≤ (ms.map (·.1)).count key) : fs.ofMembers ms = none := by
  induction fs with
  | nil => cases hkey
  | cons field rest ih =>
    rw [ofMembers]
    rcases List.mem_cons.mp hkey with rfl | hkey
    · rw [fieldOfMembers_of_twice h]
    · rw [ih hkey]
      cases fieldOfMembers field ms <;> rfl

/-- The fields follow `rule`, which takes them from `place` on, except that trees are refused in
which one of the fields is bad. -/
inductive Follow : {ρ σ : Type} → Fields ρ σ → Nat → (Json → Option ρ) → (Json → Prop) → Prop
  | nil {place : Nat} : Follow nil place (fun _ => some ()) Json.never
  | cons {α ρ σ : Type} {field : Field α} {rest : Fields ρ σ} {place : Nat}
      {rule : Json → Option α} {bad : Json → Prop} {rule' : Json → Option ρ} {bad' : Json → Prop}
      (hplain : field.presence.inObject? = field.presence.inList?)
      (h : field.codec.Follows rule bad) (hrest : Follow rest (place + 1) rule' bad') :
      Follow (cons field rest) place
        (fun t => (field.take rule (t.entry field.key place)).bind fun a =>
          (rule' t).map fun values => (a, values))
        (fun t => t.hasBad field.key place bad ∨ bad' t)

namespace Follow

variable {place : Nat} {rule : Json → Option ρ} {bad : Json → Prop}

theorem plain (h : Follow fs place rule bad) : fs.Plain := by
  induction h with
  | nil => trivial
  | cons hplain _ _ ih => exact ⟨hplain, ih⟩

theorem pick_of_bad (h : Follow fs place rule bad) {t : Json} (hbad : bad t) :
    fs.pick place t = none := by
  induction h with
  | nil => cases hbad
  | cons _ hfield _ ih =>
    rw [pick]
    rcases hbad with ⟨u, hu, hbad⟩ | hbad
    · simp only [hu, Field.take, hfield.refused hbad, Option.bind_none]
    · simp [ih hbad]

theorem pick_of_good (h : Follow fs place rule bad) {t : Json} (hgood : ¬ bad t) :
    fs.pick place t = rule t.canonical := by
  induction h with
  | nil => rfl
  | @cons _ _ _ field _ place _ _ _ _ _ hfield _ ih =>
    obtain ⟨hgood, hrest⟩ := not_or.mp hgood
    simp only [pick, ih hrest, Json.entry_canonical]
    cases hu : t.entry field.key place with
    | none => rfl
    | some u =>
      simp only [Option.map_some, Field.take, hfield.followed fun hb => hgood ⟨u, hu, hb⟩]

end Follow

end Fields

/-- **Records follow the rule** that takes each field by its key or by its place.  They refuse an
object that repeats one of the keys. -/
theorem Codec.Follows.record {ρ σ : Type} (name : String) {fs : Fields ρ σ}
    {rule : Json → Option ρ} {bad : Json → Prop} (h : fs.Follow 0 rule bad) :
    (Codec.record name fs).Follows (Json.asRecord fs.count rule)
      (fun t => t.repeats fs.keys ∨ bad t) := by
  refine ⟨fun {t} hbad => ?_, fun {t} hgood => ?_⟩
  · cases t with
    | object ms =>
      by_cases hr : (Json.object ms).repeats fs.keys
      · obtain ⟨key, hkey, hcount⟩ := hr
        exact Fields.ofMembers_of_twice hkey hcount
      · have honce : ∀ key ∈ fs.keys, (ms.map (·.1)).count key < 2 := fun key hkey =>
          Nat.lt_of_not_le fun hcount => hr ⟨key, hkey, hcount⟩
        exact (Fields.ofMembers_of_once h.plain honce 0).trans
          (h.pick_of_bad (hbad.resolve_left hr))
    | array ts =>
      have hbad := hbad.resolve_left id
      by_cases hlen : ts.length ≤ fs.count
      · exact (Fields.ofItems_drop 0 (by omega)).trans (h.pick_of_bad hbad)
      · exact Fields.ofItems_of_length (Nat.lt_of_not_le hlen)
    | _ => rfl
  · rw [Json.asRecord, Json.isRecord_canonical]
    obtain ⟨hr, hgood⟩ := not_or.mp hgood
    cases t with
    | object ms =>
      have honce : ∀ key ∈ fs.keys, (ms.map (·.1)).count key < 2 := fun key hkey =>
        Nat.lt_of_not_le fun hcount => hr ⟨key, hkey, hcount⟩
      exact (Fields.ofMembers_of_once h.plain honce 0).trans (h.pick_of_good hgood)
    | array ts =>
      by_cases hlen : ts.length ≤ fs.count
      · rw [if_pos (by simpa [Json.isRecord] using hlen)]
        exact (Fields.ofItems_drop 0 (by omega)).trans (h.pick_of_good hgood)
      · rw [if_neg (by simpa [Json.isRecord] using hlen)]
        exact Fields.ofItems_of_length (Nat.lt_of_not_le hlen)
    | _ => rfl

/-- The same for a type whose values are records in another shape. -/
theorem Codec.Follows.ofRecord {α ρ σ : Type} {name : String} {fs : Fields ρ σ}
    {rule : Json → Option ρ} {bad bad' : Json → Prop} {rule' : Json → Option α} {into : ρ → α}
    {out : α → ρ} (h : fs.Follow 0 rule bad) (hrule : ∀ t, (rule t).map into = rule' t)
    (hbad : ∀ t, t.repeats fs.keys ∨ bad t ↔ bad' t) :
    ((Codec.record name fs).reshape into out).Follows (Json.asRecord fs.count rule') bad' := by
  refine ((Follows.record name h).reshape into out).congr (fun t => ?_) hbad
  simp only [Json.asRecord, ← hrule]
  split <;> rfl

end CodeAssistant
