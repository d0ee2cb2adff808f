/-
# Records in one pass and in two

The one-pass reader of a record fills slots in the order of the text, and looks for empty slots at
the end.  The tree is asked for one key after the other.  That the two agree is an argument in three
steps.

`Fields.put` is what a member does to the slots, without the text; the reader of a member agrees
with it (`visit_comesTo`), so the reader of an object agrees with `Fields.putAll`, which puts one
member after the other (`members_comesTo`).

`putAll_cons` takes `putAll` apart by fields: the first field's slot sees the values under its key
only, the other slots see the rest.  Here nothing is said about the text any more.

`ofMembers_eq` puts the parts together again.  It needs the keys of the record to be different,
for a key that two fields share is the first field's only.
-/
import CodeAssistant.Proofs.Agreement

namespace CodeAssistant

open Brackets

namespace Fields

/-- Every field has a property. -/
def Every (P : {α : Type} → Field α → Prop) {ρ σ : Type} : Fields ρ σ → Prop
  | nil => True
  | cons field rest => P field ∧ rest.Every P

/-! ## 1. Members and slots -/

/-- Puts the value of a key into its slot, unless that is full. -/
def put {ρ σ : Type} : Fields ρ σ → σ → String → Json → Option σ
  | nil, st, _, _ => some st
  | cons field rest, (slot, more), key, v =>
    if key = field.key then
      match slot with
      | some _ => none
      | none => (field.codec.ofTree v).map fun a => (some a, more)
    else (rest.put more key v).map fun more' => (slot, more')

/-- Puts the members of an object into the slots, one after the other. -/
def putAll {ρ σ : Type} (fs : Fields ρ σ) : σ → List (String × Json) → Option σ
  | st, [] => some st
  | st, (key, v) :: ms => (fs.put st key v).bind fun st' => fs.putAll st' ms

variable {ρ σ : Type} {fs : Fields ρ σ} {depth : Nat} {s r r' : List Char} {v : Json}

theorem visit_comesTo (st : σ) (key : String) (hfs : fs.Every (·.codec.Agrees))
    (hc : colon s = .ok r) (hv : (Json.reader depth).run r = .ok (v, r')) :
    ComesTo ((fs.visit depth st key).run s) r' (fs.put st key v) := by
  induction fs with
  | nil =>
    have : ComesTo ((value skipping).run s) r' (some ()) := by
      rw [value_run hc]
      exact skipping_of_reader hv
    exact this.map _
  | cons field rest ih =>
    obtain ⟨slot, more⟩ := st
    obtain ⟨hfield, hrest⟩ := hfs
    simp only [visit, put]
    split
    · cases slot with
      | some a => exact .error
      | none =>
        have : ComesTo ((value (field.codec.read depth)).run s) r' (field.codec.ofTree v) := by
          rw [value_run hc]
          exact hfield.comesTo hv
        exact this.map _
    · exact (ih more hrest).map _

theorem members_comesTo (st : σ) {first : Bool} {ms : List (String × Json)}
    (hfs : fs.Every (·.codec.Agrees))
    (h : Json.TakesPairs (Json.reader depth) first s ms r) :
    ComesTo (members .read (fs.visit depth) first st s) r (fs.putAll st ms) := by
  induction h generalizing st with
  | closed hn => exact members_of_closed hn
  | @pair _ _ _ _ _ _ _ key v ms hn hk hc hv _ ih =>
    rw [members_of_item hn hk, putAll]
    rcases (visit_comesTo st key hfs hc hv).cases with ⟨e, he, ho⟩ | ⟨st', hst, ho⟩
    · simp only [he, ho]
      exact .error
    · simp only [hst, ho]
      exact ih st'

/-! ## 2. One slot after the other -/

/-- The values under a key. -/
def under (key : String) (ms : List (String × Json)) : List Json :=
  (ms.filter (·.1 = key)).map (·.2)

/-- The members with other keys. -/
def besides (key : String) (ms : List (String × Json)) : List (String × Json) :=
  ms.filter (·.1 ≠ key)

/-- The slot of a field that is given some values. -/
def slotOf {α : Type} (field : Field α) : Option α → List Json → Option (Option α)
  | slot, [] => some slot
  | none, [v] => (field.codec.ofTree v).map some
  | _, _ => none

theorem putAll_cons {α : Type} {field : Field α} {slot : Option α} {st : σ}
    {ms : List (String × Json)} :
    (cons field fs).putAll (slot, st) ms =
      (slotOf field slot (under field.key ms)).bind fun slot' =>
        (fs.putAll st (besides field.key ms)).map fun st' => (slot', st') := by
  induction ms generalizing slot st with
  | nil => rfl
  | cons m ms ih =>
    obtain ⟨key, v⟩ := m
    simp only [putAll, put]
    by_cases hkey : key = field.key
    · have hunder : under field.key ((key, v) :: ms) = v :: under field.key ms := by
        simp [under, hkey]
      have hbesides : besides field.key ((key, v) :: ms) = besides field.key ms := by
        simp [besides, hkey]
      rw [if_pos hkey, hunder, hbesides]
      cases slot with
      | some a => simp [slotOf]
      | none =>
        cases ho : field.codec.ofTree v with
        | none => cases under field.key ms <;> simp [slotOf, ho]
        | some a =>
          simp only [Option.map_some, Option.bind_some, ih]
          cases under field.key ms <;> simp [slotOf, ho]
    · have hunder : under field.key ((key, v) :: ms) = under field.key ms := by
        simp [under, hkey]
      have hbesides : besides field.key ((key, v) :: ms) = (key, v) :: besides field.key ms := by
        simp [besides, hkey]
      rw [if_neg hkey, hunder, hbesides, putAll]
      cases ho : fs.put st key v with
      | none => simp
      | some st' => simp [ih]

/-! ## 3. Asking for one key after the other -/

theorem fieldOfMembers_eq {α : Type} (field : Field α) (ms : List (String × Json)) :
    fieldOfMembers field ms =
      (slotOf field none (under field.key ms)).bind (·.or field.presence.inObject?) := by
  rw [fieldOfMembers, under]
  generalize ms.filter (·.1 = field.key) = found
  match found with
  | [] => simp [slotOf]
  | [(_, v)] => cases ho : field.codec.ofTree v <;> simp [slotOf, ho]
  | _ :: _ :: _ => simp [slotOf]

/-- Members with a key that no field has do not matter. -/
theorem ofMembers_besides {key : String} (h : key ∉ fs.keys) (ms : List (String × Json)) :
    fs.ofMembers (besides key ms) = fs.ofMembers ms := by
  induction fs with
  | nil => rfl
  | cons field rest ih =>
    rw [keys, List.mem_cons, not_or] at h
    have hfilter : (besides key ms).filter (·.1 = field.key) = ms.filter (·.1 = field.key) := by
      rw [besides, List.filter_filter]
      refine List.filter_congr fun m _ => ?_
      by_cases hm : m.1 = field.key <;> simp [hm, Ne.symm h.1]
    rw [ofMembers, ofMembers, ih h.2, fieldOfMembers, fieldOfMembers, hfilter]

theorem ofMembers_eq (hkeys : fs.keys.Nodup) (ms : List (String × Json)) :
    fs.ofMembers ms = (fs.putAll fs.empty ms).bind fun st => (fs.finish st).toOption := by
  induction fs generalizing ms with
  | nil =>
    have : ∀ ms, nil.putAll () ms = some () := by
      intro ms
      induction ms with
      | nil => rfl
      | cons m ms ih => exact ih
    rw [empty, this]
    rfl
  | cons field rest ih =>
    obtain ⟨hnew, hkeys⟩ := List.nodup_cons.mp hkeys
    rw [empty, putAll_cons, ofMembers, fieldOfMembers_eq, ← ofMembers_besides hnew, ih hkeys]
    cases slotOf field none (under field.key ms) with
    | none => simp
    | some slot =>
      cases rest.putAll rest.empty (besides field.key ms) with
      | none => simp
      | some st =>
        simp only [Option.bind_some, Option.map_some, finish]
        cases slot.or field.presence.inObject? with
        | none => rfl
        | some a => cases rest.finish st <;> rfl

/-! ## 4. Lists -/

variable (name : String) (total index : Nat)

theorem absent_toOption (fs : Fields ρ σ) :
    (fs.absent name total index).toOption = fs.ofItems [] := by
  induction fs generalizing index with
  | nil => rfl
  | cons field rest ih =>
    rw [absent, ofItems, ← ih (index + 1)]
    cases field.presence.inList? with
    | none => rfl
    | some a => cases rest.absent name total (index + 1) <;> rfl

theorem readItems_comesTo {ts : List Json} (hfs : fs.Every (·.codec.Agrees))
    (h : TakesItems .read (Json.reader depth) (index = 0) s ts r) :
    ComesTo (fs.readItems name total depth index s) r (fs.ofItems ts) := by
  induction fs generalizing index s ts with
  | nil =>
    cases h with
    | closed hn =>
      simp only [readItems, endOfItems_of_closed hn]
      exact .ok
    | item hn =>
      obtain ⟨e, he⟩ := endOfItems_of_item hn
      simp only [readItems, he]
      exact .error
  | cons field rest ih =>
    cases h with
    | closed hn =>
      simp only [readItems, hn]
      have ha := absent_toOption name total index (cons field rest)
      cases h : (cons field rest).absent name total index with
      | error e =>
        rw [h] at ha
        rw [← ha]
        exact .error
      | ok values =>
        rw [h] at ha
        rw [← ha]
        exact .ok
    | item hn hp hrest =>
      simp only [readItems, hn, ofItems]
      rcases (hfs.1.comesTo hp).cases with ⟨e, he, ho⟩ | ⟨a, ha, ho⟩
      · simp only [he, ho]
        exact .error
      · simp only [ha, ho]
        rcases (ih (index + 1) hfs.2 hrest).cases with ⟨e, he, ho⟩ | ⟨values, hv, ho⟩
        · simp only [he, ho]
          exact .error
        · simp only [hv, ho]
          exact .ok

end Fields

/-! ## 5. The codec -/

/-- **Records agree** if their fields do and have different keys. -/
theorem Codec.Agrees.record {ρ σ : Type} (name : String) {fs : Fields ρ σ}
    (hfs : fs.Every (·.codec.Agrees)) (hkeys : fs.keys.Nodup) : (Codec.record name fs).Agrees := by
  refine ⟨fun {depth s r t} hr => ?_⟩
  simp only [Codec.record, recordReader]
  cases Json.reader_eq_ok_iff.mp hr with
  | scalar hf ho =>
    simp only [hf]
    cases t <;> first | exact .error | cases ho
  | array hf hi =>
    simp only [hf]
    exact Fields.readItems_comesTo name _ 0 hfs hi
  | object hf hm =>
    simp only [hf, Fields.ofMembers_eq hkeys]
    rcases (Fields.members_comesTo fs.empty hfs hm).cases with
      ⟨e, he, ho⟩ | ⟨st, hst, ho⟩
    · simp only [he, ho]
      exact .error
    · simp only [hst, ho, Option.bind_some]
      cases fs.finish st with
      | error e => exact .error
      | ok values => exact .ok

/-- The same for a type whose values are records in another shape. -/
theorem Codec.Agrees.ofRecord {α ρ σ : Type} {name : String} {fs : Fields ρ σ} {into : ρ → α}
    {out : α → ρ} (hkeys : fs.keys.Nodup) (hfs : fs.Every (·.codec.Agrees)) :
    ((Codec.record name fs).reshape into out).Agrees := .reshape (.record name hfs hkeys) into out

end CodeAssistant
