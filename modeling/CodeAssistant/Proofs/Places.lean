/-
# A value in its place

Two bodies that say the same but for one value, deep inside: `Differ` follows a path of steps through
records and lists, and a record may be an object with the field's key or a list with the field at its
place.  `Codec.Leads` says what such a pair of bodies comes to: the value that is read there is the
value of the spelling that stands there, and with another spelling the body is read as before, with
the other value in its place.

A field of a record is a `Place` in its list of fields, which says where its value and its slot are.
Taking another member leaves the slot alone, and taking the field's own member needs the slot empty
and fills it; so the members behind are taken alike whatever fills it (`visits_fill`).  That is why
one row can be exchanged without a word about the others (`RowsMean.exchange`).
-/
import CodeAssistant.Proofs.Compounds

namespace CodeAssistant

open Brackets
open Json.Grammar

/-! ## 1. Places in a list of fields -/

namespace Fields

/-- Where a field stands in a list of fields. -/
inductive Place {α : Type} (field : Field α) : {ρ σ : Type} → Fields ρ σ → Type 1
  | here {ρ σ : Type} {rest : Fields ρ σ} : Place field (.cons field rest)
  | there {β ρ σ : Type} {other : Field β} {rest : Fields ρ σ} :
      Place field rest → Place field (.cons other rest)

namespace Place

variable {α : Type} {field : Field α}

/-- The number of fields before. -/
def index {ρ σ : Type} {fs : Fields ρ σ} : Place field fs → Nat
  | here => 0
  | there p => p.index + 1

/-- The field's value. -/
def get {ρ σ : Type} {fs : Fields ρ σ} : Place field fs → ρ → α
  | here, (a, _) => a
  | there p, (_, values) => p.get values

/-- The record with another value of the field. -/
def set {ρ σ : Type} {fs : Fields ρ σ} : Place field fs → α → ρ → ρ
  | here, a, (_, values) => (a, values)
  | there p, a, (b, values) => (b, p.set a values)

/-- The field's slot. -/
def slot {ρ σ : Type} {fs : Fields ρ σ} : Place field fs → σ → Option α
  | here, (slot, _) => slot
  | there p, (_, more) => p.slot more

/-- The slots with the field's filled. -/
def fill {ρ σ : Type} {fs : Fields ρ σ} : Place field fs → α → σ → σ
  | here, a, (_, more) => (some a, more)
  | there p, a, (slot, more) => (slot, p.fill a more)

variable {ρ σ : Type} {fs : Fields ρ σ} (p : Place field fs) {depth : Nat} {st st' : σ}
  {key : String} {s r : List Char} {a : α} {values : ρ}

theorem get_set (a : α) (values : ρ) : p.get (p.set a values) = a := by
  induction p with
  | here => rfl
  | there p ih => exact ih values.2

theorem slot_fill (a : α) (st : σ) : p.slot (p.fill a st) = some a := by
  induction p with
  | here => rfl
  | there p ih => exact ih st.2

theorem fill_fill (a a' : α) (st : σ) : p.fill a' (p.fill a st) = p.fill a' st := by
  induction p with
  | here => rfl
  | there p ih => exact congrArg (st.1, ·) (ih st.2)

theorem key_mem (p : Place field fs) : field.key ∈ fs.keys := by
  induction p with
  | here => exact List.mem_cons_self
  | there p ih => exact List.mem_cons_of_mem _ ih

theorem of_every (p : Place field fs) {P : {α : Type} → Field α → Prop} (h : fs.Every P) :
    P field := by
  induction p with
  | here => exact h.1
  | there p ih => exact ih h.2

/-! ### Members -/

/-- The member of another key leaves the slot alone. -/
theorem slot_of_visit (hkey : key ≠ field.key)
    (h : (fs.visit depth st key).run s = .ok (st', r)) : p.slot st' = p.slot st := by
  induction p with
  | here =>
    obtain ⟨slot, more⟩ := st
    simp only [visit, if_neg hkey] at h
    obtain ⟨more', -, rfl⟩ := Reader.map_eq_ok_iff.mp h
    rfl
  | @there β _ _ other rest p ih =>
    obtain ⟨slot', more⟩ := st
    simp only [visit] at h
    split at h
    · cases slot' with
      | some b => cases h
      | none =>
        obtain ⟨b, -, rfl⟩ := Reader.map_eq_ok_iff.mp h
        rfl
    · obtain ⟨more', hmore, rfl⟩ := Reader.map_eq_ok_iff.mp h
      exact ih hmore

/-- The member of another key is taken alike, whatever is in the slot. -/
theorem visit_fill (hkey : key ≠ field.key) (a : α)
    (h : (fs.visit depth st key).run s = .ok (st', r)) :
    (fs.visit depth (p.fill a st) key).run s = .ok (p.fill a st', r) := by
  induction p with
  | here =>
    obtain ⟨slot, more⟩ := st
    simp only [visit, fill, if_neg hkey] at h ⊢
    obtain ⟨more', hmore, rfl⟩ := Reader.map_eq_ok_iff.mp h
    exact Reader.map_eq_ok_iff.mpr ⟨more', hmore, rfl⟩
  | @there β _ _ other rest p ih =>
    obtain ⟨slot', more⟩ := st
    simp only [visit, fill] at h ⊢
    split at h
    · rename_i hother
      rw [if_pos hother]
      cases slot' with
      | some b => cases h
      | none =>
        obtain ⟨b, hb, rfl⟩ := Reader.map_eq_ok_iff.mp h
        exact Reader.map_eq_ok_iff.mpr ⟨b, hb, rfl⟩
    · rename_i hother
      rw [if_neg hother]
      obtain ⟨more', hmore, rfl⟩ := Reader.map_eq_ok_iff.mp h
      exact Reader.map_eq_ok_iff.mpr ⟨_, ih hmore, rfl⟩

/-- The member of the field itself fills the slot, which has to be empty. -/
theorem visit_eq_ok_iff (hkeys : fs.keys.Nodup) :
    (fs.visit depth st field.key).run s = .ok (st', r) ↔
      p.slot st = none ∧ ∃ a, (value (field.codec.read depth)).run s = .ok (a, r) ∧
        st' = p.fill a st := by
  induction p with
  | here =>
    obtain ⟨slot', more⟩ := st
    simp only [visit, if_true]
    cases slot' with
    | some b =>
      refine ⟨fun h => ?_, fun h => ?_⟩
      · cases h
      · cases h.1
    | none =>
      rw [Reader.map_eq_ok_iff]
      simp only [slot, fill, true_and, eq_comm]
  | @there β _ _ other rest p ih =>
    obtain ⟨slot', more⟩ := st
    obtain ⟨hnew, hkeys⟩ := List.nodup_cons.mp hkeys
    have hother : field.key ≠ other.key := by
      intro h
      exact hnew (h ▸ p.key_mem)
    simp only [visit, if_neg hother, slot, fill]
    rw [Reader.map_eq_ok_iff]
    constructor
    · rintro ⟨more', hmore, rfl⟩
      obtain ⟨hslot, a, ha, rfl⟩ := (ih hkeys).mp hmore
      exact ⟨hslot, a, ha, rfl⟩
    · rintro ⟨hslot, a, ha, rfl⟩
      exact ⟨p.fill a more, (ih hkeys).mpr ⟨hslot, a, ha, rfl⟩, rfl⟩

/-- What fills the slot is the field's value in the end. -/
theorem finish_fill (h : fs.finish st = .ok values) (hslot : p.slot st = some a) :
    p.get values = a ∧ ∀ a', fs.finish (p.fill a' st) = .ok (p.set a' values) := by
  induction p with
  | here =>
    obtain ⟨slot', more⟩ := st
    obtain rfl : slot' = some a := hslot
    simp only [finish, Option.some_or] at h
    split at h
    · cases h
    · rename_i hmore
      cases h
      refine ⟨rfl, fun a' => ?_⟩
      simp only [fill, finish, Option.some_or, hmore, set]
  | there p ih =>
    obtain ⟨slot', more⟩ := st
    simp only [finish] at h
    split at h
    · cases h
    · rename_i b hb
      split at h
      · cases h
      · rename_i values' hmore
        cases h
        obtain ⟨hget, hset⟩ := ih hmore hslot
        refine ⟨hget, fun a' => ?_⟩
        simp only [fill, finish, hb, hset, set]

end Place

/-! ## 2. One row exchanged, or one item -/

variable {α ρ σ : Type} {field : Field α} {fs : Fields ρ σ} {depth : Nat} {st st' : σ}
  {rows before after : List (List Char × List Char)} {spelling cs : List Char} {a : α} {values : ρ}

/-- A place for a value, with nothing behind it. -/
theorem colon_alone (cs : List Char) : colon (':' :: cs) = .ok (cs ++ []) := by
  rw [List.append_nil]
  exact colon_eq_ok_iff.mpr rfl

/-- Once the slot is full, rows are taken alike whatever fills it, and it keeps what it has. -/
theorem visits_fill (hkeys : fs.keys.Nodup) (p : Place field fs)
    (h : Visits .read (fs.visit depth) st rows st') (hslot : p.slot st = some a) :
    p.slot st' = some a ∧
      ∀ a', Visits .read (fs.visit depth) (p.fill a' st) rows (p.fill a' st') := by
  induction h with
  | nil => exact ⟨hslot, fun _ => .nil⟩
  | @cons st st₁ st₂ spelling cs rows key hbody hvisit _ ih =>
    obtain ⟨gap, -, hrun⟩ := hvisit _ [] (colon_alone cs) .nil
    have hkey : key ≠ field.key := by
      rintro rfl
      obtain ⟨hempty, -⟩ := (p.visit_eq_ok_iff hkeys).mp hrun
      rw [hslot] at hempty
      cases hempty
    obtain ⟨hslot', hrest⟩ := ih ((p.slot_of_visit hkey hrun).trans hslot)
    refine ⟨hslot', fun a' => .cons hbody (fun s r hs hr => ?_) (hrest a')⟩
    obtain ⟨gap', hgap', hrun'⟩ := hvisit s r hs hr
    exact ⟨gap', hgap', p.visit_fill hkey a' hrun'⟩

/-- With another value in the row of the field, the rows fill its slot with that. -/
theorem visits_exchange (hkeys : fs.keys.Nodup) (hlocal : field.codec.Local) (p : Place field fs)
    (hkey : Json.key? spelling = some field.key) (htext : Derives .text cs)
    (h : Visits .read (fs.visit depth) st (before ++ (spelling, cs) :: after) st') :
    ∃ a, field.codec.Means depth cs a ∧ p.slot st' = some a ∧
      ∀ cs' a', field.codec.Means depth cs' a' →
        Visits .read (fs.visit depth) st (before ++ (spelling, cs') :: after) (p.fill a' st') := by
  induction before generalizing st with
  | nil =>
    cases h with
    | @cons _ st₁ _ _ _ _ key hbody hvisit hrest =>
      obtain rfl : field.key = key := by
        have := (Json.body_of_key? hkey []).symm.trans (hbody [])
        exact (Prod.mk.inj (Except.ok.inj this)).1
      obtain ⟨gap, -, hrun⟩ := hvisit _ [] (colon_alone cs) .nil
      obtain ⟨hempty, a, ha, rfl⟩ := (p.visit_eq_ok_iff hkeys).mp hrun
      rw [value_run (colon_alone cs)] at ha
      obtain ⟨hslot, hfill⟩ := visits_fill hkeys p hrest (p.slot_fill a st)
      refine ⟨a, hlocal.means htext .nil ha, hslot, fun cs' a' ha' => ?_⟩
      refine .cons hbody (fun s r hs hr => ?_) (p.fill_fill a a' st ▸ hfill a')
      obtain ⟨gap', hgap', hrun'⟩ := ha' r hr
      exact ⟨gap', hgap',
        (p.visit_eq_ok_iff hkeys).mpr ⟨hempty, a', (value_run hs).trans hrun', rfl⟩⟩
  | cons row before ih =>
    cases h with
    | cons hbody hvisit hrest =>
      obtain ⟨a, ha, hslot, hexchange⟩ := ih hrest
      exact ⟨a, ha, hslot, fun cs' a' ha' => .cons hbody hvisit (hexchange cs' a' ha')⟩

/-- **The row of a field holds the field's value, and no other.** -/
theorem RowsMean.exchange (hkeys : fs.keys.Nodup) (hlocal : field.codec.Local)
    (p : Place field fs) (hkey : Json.key? spelling = some field.key) (htext : Derives .text cs)
    (h : fs.RowsMean depth (before ++ (spelling, cs) :: after) values) :
    field.codec.Means depth cs (p.get values) ∧
      ∀ cs' a', field.codec.Means depth cs' a' →
        fs.RowsMean depth (before ++ (spelling, cs') :: after) (p.set a' values) := by
  obtain ⟨st, hvisits, hfinish⟩ := h
  obtain ⟨a, ha, hslot, hexchange⟩ := visits_exchange hkeys hlocal p hkey htext hvisits
  obtain ⟨rfl, hset⟩ := p.finish_fill hfinish hslot
  exact ⟨ha, fun cs' a' ha' => ⟨_, hexchange cs' a' ha', hset a'⟩⟩

/-- **The item at the place of a field holds the field's value, and no other.** -/
theorem ItemsMean.exchange (p : Place field fs) {before after : List (List Char)}
    (hindex : before.length = p.index) (h : fs.ItemsMean depth (before ++ cs :: after) values) :
    field.codec.Means depth cs (p.get values) ∧
      ∀ cs' a', field.codec.Means depth cs' a' →
        fs.ItemsMean depth (before ++ cs' :: after) (p.set a' values) := by
  induction p generalizing before with
  | here =>
    obtain rfl := List.length_eq_zero_iff.mp hindex
    exact ⟨h.1, fun cs' a' ha' => ⟨ha', h.2⟩⟩
  | there p ih =>
    cases before with
    | nil => cases hindex
    | cons item before =>
      obtain ⟨hget, hset⟩ := ih (Nat.succ.inj hindex) h.2
      exact ⟨hget, fun cs' a' ha' => ⟨h.1, hset cs' a' ha'⟩⟩

end Fields

theorem forall₂_exchange {α β : Type} {R : α → β → Prop} {before after : List α} {x : α}
    {ys : List β} (h : List.Forall₂ R (before ++ x :: after) ys) :
    ∃ y, ys[before.length]? = some y ∧ R x y ∧
      ∀ x' y', R x' y' → List.Forall₂ R (before ++ x' :: after) (ys.set before.length y') := by
  induction before generalizing ys with
  | nil =>
    cases h with
    | cons hxy hrest => exact ⟨_, rfl, hxy, fun _ _ hxy' => .cons hxy' hrest⟩
  | cons z before ih =>
    cases h with
    | cons hz hrest =>
      obtain ⟨y, hy, hxy, hset⟩ := ih hrest
      exact ⟨y, hy, hxy, fun x' y' hxy' => .cons hz (hset x' y' hxy')⟩

/-! ## 3. Bodies that differ in one value -/

/-- A step from a record or a list to a part of it. -/
inductive Step
  /-- To the field with a key, whose place among the fields is given as well. -/
  | field (key : String) (index : Nat)
  | item (index : Nat)
  deriving DecidableEq, Repr

/-- `Differ path w w' cs cs'`: the texts `cs` and `cs'` say the same, but where the path ends in `cs`
there is `w`, and in `cs'` there is `w'`. -/
inductive Differ : List Step → List Char → List Char → List Char → List Char → Prop
  | here {w w'} : Differ [] w w' w w'
  | member {key index path w w' inner inner' cs cs' spelling before after} :
      Json.key? spelling = some key → Differ path w w' inner inner' →
      Json.IsObjectText (before ++ (spelling, inner) :: after) cs →
      Json.IsObjectText (before ++ (spelling, inner') :: after) cs' →
      Differ (.field key index :: path) w w' cs cs'
  | place {key index path w w' inner inner' cs cs' before after} :
      before.length = index → Differ path w w' inner inner' →
      Json.IsListText (before ++ inner :: after) cs →
      Json.IsListText (before ++ inner' :: after) cs' →
      Differ (.field key index :: path) w w' cs cs'
  | item {index path w w' inner inner' cs cs' before after} :
      before.length = index → Differ path w w' inner inner' →
      Json.IsListText (before ++ inner :: after) cs →
      Json.IsListText (before ++ inner' :: after) cs' →
      Differ (.item index :: path) w w' cs cs'

theorem Json.IsObjectText.text_of_row {rows : List (List Char × List Char)} {cs : List Char}
    (h : Json.IsObjectText rows cs) {row : List Char × List Char} (hrow : row ∈ rows) :
    Derives .text row.2 := by
  obtain ⟨_, _, _, -, hrows, -, -⟩ := h
  exact Json.texts_of_rows hrows row hrow

theorem Differ.symm {path : List Step} {w w' cs cs' : List Char} (h : Differ path w w' cs cs') :
    Differ path w' w cs' cs := by
  induction h with
  | here => exact .here
  | member hkey _ hcs hcs' ih => exact .member hkey ih hcs' hcs
  | place hindex _ hcs hcs' ih => exact .place hindex ih hcs' hcs
  | item hindex _ hcs hcs' ih => exact .item hindex ih hcs' hcs

theorem Json.IsObjectText.isText {rows : List (List Char × List Char)} {cs : List Char}
    (h : Json.IsObjectText rows cs) : Json.IsText cs := by
  obtain ⟨_, _, _, hgap, hrows, hgap', rfl⟩ := h
  exact .text hgap (.object hrows) hgap'

theorem Json.IsListText.isText {items : List (List Char)} {cs : List Char}
    (h : Json.IsListText items cs) : Json.IsText cs := by
  obtain ⟨_, _, _, hgap, hitems, hgap', rfl⟩ := h
  exact .text hgap hitems.derives_list hgap'

theorem Differ.isText {path : List Step} {w w' cs cs' : List Char} (h : Differ path w w' cs cs')
    (hpath : path ≠ []) : Json.IsText cs ∧ Json.IsText cs' := by
  cases h with
  | here => exact absurd rfl hpath
  | member _ _ hcs hcs' => exact ⟨hcs.isText, hcs'.isText⟩
  | place _ _ hcs hcs' | item _ _ hcs hcs' => exact ⟨hcs.isText, hcs'.isText⟩

namespace Codec

variable {α β γ : Type} {c : Codec α} {e : Codec β} {path : List Step} {get : α → Option β}

/-- Along the path, a body leads to a value of the codec `e`: it is what the spelling at the end of
the path means, and with another spelling there, the body means a value that has the other one. -/
structure Leads (c : Codec α) (path : List Step) (e : Codec β) (get : α → Option β) : Prop where
  exchange : ∀ {depth : Nat} {w w' cs cs' : List Char} {a : α}, Differ path w w' cs cs' →
    c.Means depth cs a → ∃ d b, e.Means d w b ∧ get a = some b ∧
      ∀ b', e.Means d w' b' → ∃ a', c.Means depth cs' a' ∧ get a' = some b'

/-- A type in another shape is read alike, if the shape can be undone. -/
theorem means_reshape_iff {into : α → γ} {out : γ → α} (hout : ∀ a, out (into a) = a)
    {depth : Nat} {cs : List Char} {x : γ} :
    (c.reshape into out).Means depth cs x ↔ ∃ a, c.Means depth cs a ∧ into a = x := by
  constructor
  · intro h
    have hrun : ∀ r, EndsNumber r → ∃ gap, Blanks gap ∧
        (c.read depth).run (cs ++ r) = .ok (out x, gap ++ r) ∧ into (out x) = x := by
      intro r hr
      obtain ⟨gap, hgap, hrun⟩ := h r hr
      obtain ⟨a, ha, rfl⟩ := Reader.map_eq_ok_iff.mp hrun
      exact ⟨gap, hgap, by rw [hout, ha], by rw [hout]⟩
    obtain ⟨_, -, -, hx⟩ := hrun [] .nil
    exact ⟨out x, fun r hr => (hrun r hr).imp fun _ h => ⟨h.1, h.2.1⟩, hx⟩
  · rintro ⟨a, ha, rfl⟩ r hr
    obtain ⟨gap, hgap, hrun⟩ := ha r hr
    exact ⟨gap, hgap, Reader.map_eq_ok_iff.mpr ⟨a, hrun, rfl⟩⟩

namespace Leads

theorem here (e : Codec β) : e.Leads [] e some := by
  refine ⟨fun {depth w w' cs cs' a} hdiffer h => ?_⟩
  cases hdiffer
  exact ⟨depth, a, h, rfl, fun b' hb' => ⟨b', hb', rfl⟩⟩

theorem field {ρ σ : Type} (name : String) {fs : Fields ρ σ} (hkeys : fs.keys.Nodup)
    (hfs : fs.Every (·.codec.Local)) {field : Field α} (p : fs.Place field)
    (h : field.codec.Leads path e get) :
    (record name fs).Leads (.field field.key p.index :: path) e fun values => get (p.get values) := by
  refine ⟨fun {depth w w' cs cs' values} hdiffer hmeans => ?_⟩
  cases hdiffer with
  | member hkey hinner hcs hcs' =>
    obtain ⟨d, rfl, hrows⟩ := (means_object_iff hfs hcs).mp hmeans
    obtain ⟨hget, hset⟩ := hrows.exchange hkeys (p.of_every hfs) p hkey
      (hcs.text_of_row (List.mem_append_cons_self ..))
    obtain ⟨d', b, hb, hvalue, hexchange⟩ := h.exchange hinner hget
    refine ⟨d', b, hb, hvalue, fun b' hb' => ?_⟩
    obtain ⟨a', ha', hvalue'⟩ := hexchange b' hb'
    refine ⟨_, (means_object_iff hfs hcs').mpr ⟨d, rfl, hset _ a' ha'⟩, ?_⟩
    rw [p.get_set, hvalue']
  | place hindex hinner hcs hcs' =>
    obtain ⟨d, rfl, hitems⟩ := (means_items_iff hfs hcs).mp hmeans
    obtain ⟨hget, hset⟩ := Fields.ItemsMean.exchange p hindex hitems
    obtain ⟨d', b, hb, hvalue, hexchange⟩ := h.exchange hinner hget
    refine ⟨d', b, hb, hvalue, fun b' hb' => ?_⟩
    obtain ⟨a', ha', hvalue'⟩ := hexchange b' hb'
    refine ⟨_, (means_items_iff hfs hcs').mpr ⟨d, rfl, hset _ a' ha'⟩, ?_⟩
    rw [p.get_set, hvalue']

theorem item (hc : c.Local) (index : Nat) (h : c.Leads path e get) :
    c.list.Leads (.item index :: path) e fun as => as[index]?.bind get := by
  refine ⟨fun {depth w w' cs cs' as} hdiffer hmeans => ?_⟩
  cases hdiffer with
  | item hindex hinner hcs hcs' =>
    obtain ⟨d, rfl, hitems⟩ := (means_list_iff hc hcs).mp hmeans
    obtain ⟨a, hget, ha, hset⟩ := forall₂_exchange hitems
    obtain ⟨d', b, hb, hvalue, hexchange⟩ := h.exchange hinner ha
    rw [hindex] at hget hset
    refine ⟨d', b, hb, by rw [hget, Option.bind_some, hvalue], fun b' hb' => ?_⟩
    obtain ⟨a', ha', hvalue'⟩ := hexchange b' hb'
    refine ⟨_, (means_list_iff hc hcs').mpr ⟨d, rfl, hset _ a' ha'⟩, ?_⟩
    have hlt : index < as.length := (List.getElem?_eq_some_iff.mp hget).1
    rw [List.getElem?_set_self hlt, Option.bind_some, hvalue']

theorem reshape {into : α → γ} {out : γ → α} (hout : ∀ a, out (into a) = a)
    (h : c.Leads path e get) : (c.reshape into out).Leads path e fun x => get (out x) := by
  refine ⟨fun {depth w w' cs cs' x} hdiffer hmeans => ?_⟩
  obtain ⟨a, ha, rfl⟩ := (means_reshape_iff hout).mp hmeans
  obtain ⟨d, b, hb, hvalue, hexchange⟩ := h.exchange hdiffer ha
  refine ⟨d, b, hb, by rw [hout, hvalue], fun b' hb' => ?_⟩
  obtain ⟨a', ha', hvalue'⟩ := hexchange b' hb'
  exact ⟨into a', (means_reshape_iff hout).mpr ⟨a', ha', rfl⟩, by rw [hout, hvalue']⟩

end Leads

end Codec

end CodeAssistant
