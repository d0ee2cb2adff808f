/-
# Lists and records, part by part

What a list or a record means is told by what its parts mean.  The parts are texts: the items of a
list, the rows of an object.

* `means_list_iff`: a list means what the texts of its items mean;
* `means_object_iff`: a record that is an object means what its rows come to, taken one after the
  other;
* `means_items_iff`: a record that is a list means what its fields mean, item by item.

Each has two halves, for a reading with some text behind the bracket and for a reading with any.
What stands between them does not mention that text, so the halves together say that lists and
records are local if their parts are (`Local.list`, `Local.record`).
-/
import CodeAssistant.Proofs.Independence

namespace CodeAssistant

open Brackets
open Json.Grammar

/-! ## 1. Lists -/

namespace Codec

variable {α : Type} {c : Codec α} {depth : Nat} {items : List (List Char)} {as : List α}
  {cs inner s r r' : List Char} {first : Bool}

theorem takesItems_of_means (hc : c.Local) (h : List.Forall₂ (c.Means depth) items as)
    (hitems : Json.IsItems items cs)
    (hs : nextItem .read first s = nextItem .read true (cs ++ ']' :: r)) :
    TakesItems .read (c.read depth) first s as r := by
  induction h generalizing cs first s with
  | nil =>
    cases hitems with
    | none hgap => exact .closed (hs.trans (nextItem_bracket hgap r))
  | cons hitem _ ih =>
    obtain ⟨s', cs', hcs, -, hs', hrest, hnext⟩ := hitems.uncons r
    rw [Json.nextItem_of_isItems hitems, hcs] at hs
    obtain ⟨gap, hgap, hrun⟩ := hitem s' hs'
    exact .item hs ((hc.blanks ..).trans hrun) (ih hrest (hnext gap hgap))

theorem means_of_takesItems (hc : c.Local) (hitems : Json.IsItems items cs)
    (hs : nextItem .read first s = nextItem .read true (cs ++ ']' :: r))
    (h : TakesItems .read (c.read depth) first s as r') :
    List.Forall₂ (c.Means depth) items as := by
  induction items generalizing cs first s as with
  | nil =>
    cases hitems with
    | none hgap =>
      rw [nextItem_bracket hgap] at hs
      cases h with
      | closed => exact .nil
      | item hn =>
        rw [hs] at hn
        cases hn
  | cons item items ih =>
    obtain ⟨s', cs', hcs, htext, hs', hrest, hnext⟩ := hitems.uncons r
    rw [Json.nextItem_of_isItems hitems, hcs] at hs
    cases h with
    | closed hn =>
      rw [hs] at hn
      cases hn
    | item hn hv htakes =>
      rw [hs] at hn
      cases hn
      rw [hc.blanks] at hv
      obtain ⟨hmeans, gap, hgap, rfl⟩ := hc.means_rest htext hs' hv
      exact .cons hmeans (ih hrest (hnext gap hgap) htakes)

theorem forall₂_of_list_run (hc : c.Local) (hitems : Json.IsItems items inner)
    (h : (c.list.read depth).run ('[' :: (inner ++ [']']) ++ r) = .ok (as, r')) :
    ∃ d, depth = d + 1 ∧ List.Forall₂ (c.Means d) items as := by
  rw [List.cons_append, List.append_assoc] at h
  simp only [list, listReader, readFound_bracket] at h
  cases depth with
  | zero => cases h
  | succ d => exact ⟨d, rfl, means_of_takesItems hc hitems rfl (items_eq_ok_iff.mp h)⟩

theorem means_of_forall₂ (hc : c.Local) (hitems : Json.IsItems items inner)
    (h : List.Forall₂ (c.Means depth) items as) :
    c.list.Means (depth + 1) ('[' :: (inner ++ [']'])) as := by
  intro r _
  refine ⟨[], .nil, ?_⟩
  rw [List.cons_append, List.append_assoc]
  simp only [list, listReader, readFound_bracket]
  exact items_eq_ok_iff.mpr (takesItems_of_means hc h hitems rfl)

theorem Local.list (hc : c.Local) : c.list.Local := by
  refine of_values (fun depth s => ?_) fun {depth cs r r' as} hcs hr hrun => ?_
  · simp only [Codec.list, listReader, readFound_skipBlanks]
  · rcases value_cases hcs with hscalar | ⟨rows, inner, -, rfl⟩ | ⟨items, inner, hitems, rfl⟩
    · simp only [Codec.list, listReader] at hrun
      split at hrun
      · cases hrun
      · rename_i hf
        cases (hscalar _ _ _ hr hf).1
      · cases hrun
    · simp only [Codec.list, listReader, List.cons_append, readFound_brace] at hrun
      cases hrun
    · obtain ⟨d, rfl, h⟩ := forall₂_of_list_run hc hitems hrun
      exact means_of_forall₂ hc hitems h

/-- **A list means what the texts of its items mean.** -/
theorem means_list_iff (hc : c.Local) (h : Json.IsListText items cs) :
    c.list.Means depth cs as ↔ ∃ d, depth = d + 1 ∧ List.Forall₂ (c.Means d) items as := by
  obtain ⟨gap, inner, gap', hgap, hitems, hgap', rfl⟩ := h
  rw [hc.list.means_text_iff hgap hitems.derives_list hgap']
  constructor
  · intro h
    obtain ⟨gap₂, -, hrun⟩ := h [] .nil
    exact forall₂_of_list_run hc hitems hrun
  · rintro ⟨d, rfl, h⟩
    exact means_of_forall₂ hc hitems h

end Codec

/-! ## 2. Records that are objects -/

namespace Fields

variable {ρ σ : Type} {fs : Fields ρ σ} {depth : Nat} {st st' : σ} {key : String}
  {cs s r r' : List Char} {first : Bool} {rows : List (List Char × List Char)}

/-- A member that is taken with some text behind it is taken with any. -/
theorem visit_elsewhere (hfs : fs.Every (·.codec.Local)) (hcs : Derives .text cs)
    (hs : colon s = .ok (cs ++ r)) (hr : EndsNumber r)
    (h : (fs.visit depth st key).run s = .ok (st', r')) {s₂ r₂ : List Char}
    (hs₂ : colon s₂ = .ok (cs ++ r₂)) (hr₂ : EndsNumber r₂) :
    ∃ gap, Blanks gap ∧ (fs.visit depth st key).run s₂ = .ok (st', gap ++ r₂) := by
  induction fs with
  | nil =>
    obtain ⟨gap, hgap, hrun⟩ := Json.text_of_skipped hcs hr₂
    exact ⟨gap, hgap, Reader.map_eq_ok_iff.mpr ⟨(), (value_run hs₂).trans hrun, rfl⟩⟩
  | cons field rest ih =>
    obtain ⟨slot, more⟩ := st
    simp only [visit] at h ⊢
    split at h
    · rename_i hkey
      rw [if_pos hkey]
      cases slot with
      | some a => cases h
      | none =>
        obtain ⟨a, ha, rfl⟩ := Reader.map_eq_ok_iff.mp h
        rw [value_run hs] at ha
        obtain ⟨gap, hgap, hrun⟩ := hfs.1.means hcs hr ha r₂ hr₂
        exact ⟨gap, hgap, Reader.map_eq_ok_iff.mpr ⟨a, (value_run hs₂).trans hrun, rfl⟩⟩
    · rename_i hkey
      rw [if_neg hkey]
      obtain ⟨more', hmore, rfl⟩ := Reader.map_eq_ok_iff.mp h
      obtain ⟨gap, hgap, hrun⟩ := ih hfs.2 hmore
      exact ⟨gap, hgap, Reader.map_eq_ok_iff.mpr ⟨more', hrun, rfl⟩⟩

/-- The members of an object are taken row by row. -/
theorem visits_of_takesMembers (hfs : fs.Every (·.codec.Local))
    (hcs : Derives (.members rows) cs)
    (hs : nextKey .read first s = nextKey .read true (cs ++ '\x7d' :: r))
    (h : TakesMembers .read (fs.visit depth) first st s st' r') :
    Visits .read (fs.visit depth) st rows st' := by
  induction rows generalizing cs first s st with
  | nil =>
    cases hcs with
    | noMember hgap =>
      rw [nextKey_brace hgap] at hs
      cases h with
      | closed => exact .nil
      | member hn =>
        rw [hs] at hn
        cases hn
  | cons row rows ih =>
    obtain ⟨spelling, value⟩ := row
    obtain ⟨space, s', cs', hspace, hspelling, htext, hs', hrest, hkey, hnext⟩ :=
      Json.uncons_of_members hcs r
    rw [hkey] at hs
    cases h with
    | closed hn =>
      rw [hs] at hn
      cases hn
    | member hn hb hv htakes =>
      rw [hs] at hn
      cases hn
      have hbody := Strings.body_elsewhere hspelling hb
      rw [hbody] at hb
      cases hb
      have hcolon : colon (space ++ ':' :: (value ++ s')) = .ok (value ++ s') :=
        colon_eq_ok_iff.mpr (skipBlanks_of_blanks hspace _)
      obtain ⟨gap, hgap, hrun⟩ := visit_elsewhere hfs htext hcolon hs' hv hcolon hs'
      rw [hv] at hrun
      cases hrun
      exact .cons hbody (fun s₂ r₂ hs₂ hr₂ => visit_elsewhere hfs htext hcolon hs' hv hs₂ hr₂)
        (ih hrest (hnext gap hgap) htakes)

/-- The record that the rows of an object come to: they are taken one after the other, and what is
still missing then is filled in. -/
def RowsMean (fs : Fields ρ σ) (depth : Nat) (rows : List (List Char × List Char)) (values : ρ) :
    Prop :=
  ∃ st, Visits .read (fs.visit depth) fs.empty rows st ∧ fs.finish st = .ok values

/-! ## 3. Records that are lists -/

/-- The record that the items of a list come to, field by field; the list may be too short for
fields that may be missing. -/
def ItemsMean {ρ σ : Type} (depth : Nat) : Fields ρ σ → List (List Char) → ρ → Prop
  | nil, items, _ => items = []
  | cons field rest, [], (a, values) =>
    field.presence.inList? = some a ∧ rest.ItemsMean depth [] values
  | cons field rest, cs :: items, (a, values) =>
    field.codec.Means depth cs a ∧ rest.ItemsMean depth items values

variable {values : ρ} {name : String} {total index : Nat} {items : List (List Char)}

theorem ItemsMean.of_ofItems (h : fs.ofItems [] = some values) : fs.ItemsMean depth [] values := by
  induction fs with
  | nil => rfl
  | cons field rest ih =>
    obtain ⟨a, more⟩ := values
    simp only [ofItems] at h
    split at h
    · rename_i ha hmore
      cases h
      exact ⟨ha, ih hmore⟩
    · cases h

theorem ItemsMean.ofItems (h : fs.ItemsMean depth [] values) : fs.ofItems [] = some values := by
  induction fs with
  | nil => rfl
  | cons field rest ih =>
    obtain ⟨a, more⟩ := values
    simp only [Fields.ofItems, h.1, ih h.2]

theorem readItems_of_itemsMean (hfs : fs.Every (·.codec.Local))
    (h : fs.ItemsMean depth items values) (hitems : Json.IsItems items cs)
    (hs : nextItem .read (index = 0) s = nextItem .read true (cs ++ ']' :: r)) :
    fs.readItems name total depth index s = .ok (values, r) := by
  induction fs generalizing index items cs s with
  | nil =>
    obtain rfl : items = [] := h
    cases hitems with
    | none hgap =>
      rw [nextItem_bracket hgap] at hs
      simp only [readItems, endOfItems_of_closed hs]
  | cons field rest ih =>
    obtain ⟨a, more⟩ := values
    cases items with
    | nil =>
      cases hitems with
      | none hgap =>
        rw [nextItem_bracket hgap] at hs
        have habsent := absent_toOption name total index (cons field rest)
        rw [h.ofItems] at habsent
        simp only [readItems, hs]
        cases hok : (cons field rest).absent name total index with
        | error e =>
          rw [hok] at habsent
          cases habsent
        | ok values =>
          rw [hok] at habsent
          cases habsent
          rfl
    | cons item items =>
      obtain ⟨s', cs', hcs, -, hs', hrest, hnext⟩ := hitems.uncons r
      rw [Json.nextItem_of_isItems hitems, hcs] at hs
      obtain ⟨gap, hgap, hrun⟩ := h.1 s' hs'
      rw [← hfs.1.blanks] at hrun
      have hmore : rest.readItems name total depth (index + 1) (gap ++ s') = .ok (more, r) :=
        ih hfs.2 h.2 hrest (hnext gap hgap)
      simp only [readItems, hs, hrun, hmore]

theorem itemsMean_of_readItems (hfs : fs.Every (·.codec.Local)) (hitems : Json.IsItems items cs)
    (hs : nextItem .read (index = 0) s = nextItem .read true (cs ++ ']' :: r))
    (h : fs.readItems name total depth index s = .ok (values, r')) :
    fs.ItemsMean depth items values := by
  induction fs generalizing index items cs s with
  | nil =>
    cases items with
    | nil => rfl
    | cons item items =>
      rw [Json.nextItem_of_isItems hitems] at hs
      obtain ⟨e, he⟩ := endOfItems_of_item hs
      simp only [readItems, he] at h
      cases h
  | cons field rest ih =>
    obtain ⟨a, more⟩ := values
    cases items with
    | nil =>
      cases hitems with
      | none hgap =>
        rw [nextItem_bracket hgap] at hs
        simp only [readItems, hs] at h
        have habsent := absent_toOption name total index (cons field rest)
        split at h
        · cases h
        · rename_i hok
          cases h
          rw [hok] at habsent
          exact .of_ofItems habsent.symm
    | cons item items =>
      obtain ⟨s', cs', hcs, htext, hs', hrest, hnext⟩ := hitems.uncons r
      rw [Json.nextItem_of_isItems hitems, hcs] at hs
      simp only [readItems, hs, hfs.1.blanks] at h
      split at h
      · cases h
      · rename_i a' r₁ ha
        obtain ⟨hmeans, gap, hgap, rfl⟩ := hfs.1.means_rest htext hs' ha
        split at h
        · cases h
        · rename_i hmore
          cases h
          refine ⟨hmeans, ih hfs.2 hrest ?_ hmore⟩
          exact hnext gap hgap

end Fields

/-! ## 4. Records -/

namespace Codec

variable {ρ σ : Type} {name : String} {fs : Fields ρ σ} {depth : Nat} {values : ρ}
  {rows : List (List Char × List Char)} {items : List (List Char)} {cs inner r r' : List Char}

theorem rowsMean_of_run (hfs : fs.Every (·.codec.Local)) (hrows : Derives (.members rows) inner)
    (h : ((record name fs).read depth).run ('\x7b' :: (inner ++ ['\x7d']) ++ r) =
      .ok (values, r')) : ∃ d, depth = d + 1 ∧ fs.RowsMean d rows values := by
  rw [List.cons_append, List.append_assoc] at h
  simp only [record, recordReader, readFound_brace] at h
  cases depth with
  | zero => cases h
  | succ d =>
    simp only at h
    split at h
    · cases h
    · rename_i st r₁ hm
      split at h
      · cases h
      · rename_i hfinish
        cases h
        exact ⟨d, rfl, st, Fields.visits_of_takesMembers hfs hrows rfl (members_eq_ok_iff.mp hm),
          hfinish⟩

theorem means_of_rowsMean (hrows : Derives (.members rows) inner)
    (h : fs.RowsMean depth rows values) :
    (record name fs).Means (depth + 1) ('\x7b' :: (inner ++ ['\x7d'])) values := by
  intro r _
  obtain ⟨st, hvisits, hfinish⟩ := h
  have hm := members_eq_ok_iff.mpr (takesMembers_of_visits hvisits hrows r rfl)
  refine ⟨[], .nil, ?_⟩
  rw [List.cons_append, List.append_assoc]
  simp only [record, recordReader, readFound_brace, List.tail_cons, List.cons_append,
    List.nil_append, hm, hfinish]

theorem itemsMean_of_run (hfs : fs.Every (·.codec.Local)) (hitems : Json.IsItems items inner)
    (h : ((record name fs).read depth).run ('[' :: (inner ++ [']']) ++ r) = .ok (values, r')) :
    ∃ d, depth = d + 1 ∧ fs.ItemsMean d items values := by
  rw [List.cons_append, List.append_assoc] at h
  simp only [record, recordReader, readFound_bracket] at h
  cases depth with
  | zero => cases h
  | succ d => exact ⟨d, rfl, Fields.itemsMean_of_readItems hfs hitems rfl h⟩

theorem means_of_itemsMean (hfs : fs.Every (·.codec.Local)) (hitems : Json.IsItems items inner)
    (h : fs.ItemsMean depth items values) :
    (record name fs).Means (depth + 1) ('[' :: (inner ++ [']'])) values := by
  intro r _
  refine ⟨[], .nil, ?_⟩
  rw [List.cons_append, List.append_assoc]
  simp only [record, recordReader, readFound_bracket]
  exact Fields.readItems_of_itemsMean hfs h hitems rfl

theorem Local.record (name : String) (hfs : fs.Every (·.codec.Local)) :
    (Codec.record name fs).Local := by
  refine of_values (fun depth s => ?_) fun {depth cs r r' values} hcs hr hrun => ?_
  · simp only [Codec.record, recordReader, readFound_skipBlanks]
  · rcases value_cases hcs with hscalar | ⟨rows, inner, hrows, rfl⟩ | ⟨items, inner, hitems, rfl⟩
    · simp only [Codec.record, recordReader] at hrun
      split at hrun
      · cases hrun
      · rename_i hf
        cases (hscalar _ _ _ hr hf).1
      · rename_i hf
        cases (hscalar _ _ _ hr hf).1
      · cases hrun
    · obtain ⟨d, rfl, h⟩ := rowsMean_of_run hfs hrows hrun
      exact means_of_rowsMean hrows h
    · obtain ⟨d, rfl, h⟩ := itemsMean_of_run hfs hitems hrun
      exact means_of_itemsMean hfs hitems h

/-- **A record that is an object means what its rows come to.** -/
theorem means_object_iff (hfs : fs.Every (·.codec.Local)) (h : Json.IsObjectText rows cs) :
    (record name fs).Means depth cs values ↔ ∃ d, depth = d + 1 ∧ fs.RowsMean d rows values := by
  obtain ⟨gap, inner, gap', hgap, hrows, hgap', rfl⟩ := h
  rw [(Local.record name hfs).means_text_iff hgap (.object hrows) hgap']
  constructor
  · intro h
    obtain ⟨gap₂, -, hrun⟩ := h [] .nil
    exact rowsMean_of_run hfs hrows hrun
  · rintro ⟨d, rfl, h⟩
    exact means_of_rowsMean hrows h

/-- **A record that is a list means what its items come to.** -/
theorem means_items_iff (hfs : fs.Every (·.codec.Local)) (h : Json.IsListText items cs) :
    (record name fs).Means depth cs values ↔ ∃ d, depth = d + 1 ∧ fs.ItemsMean d items values := by
  obtain ⟨gap, inner, gap', hgap, hitems, hgap', rfl⟩ := h
  rw [(Local.record name hfs).means_text_iff hgap hitems.derives_list hgap']
  constructor
  · intro h
    obtain ⟨gap₂, -, hrun⟩ := h [] .nil
    exact itemsMean_of_run hfs hitems hrun
  · rintro ⟨d, rfl, h⟩
    exact means_of_itemsMean hfs hitems h

/-- A body that is a text is decoded to what it means. -/
theorem Local.decode_iff {α : Type} {c : Codec α} (hc : c.Local) {body : String} {a : α}
    (hbody : Json.IsText body.toList) :
    c.decode body = .ok a ↔ c.Means maxDepth body.toList a := by
  rw [decode, readWhole_eq_ok_iff]
  constructor
  · rintro ⟨r, hrun, -⟩
    rw [← List.append_nil body.toList] at hrun
    exact hc.means hbody .nil hrun
  · intro h
    obtain ⟨gap, hgap, hrun⟩ := h [] .nil
    rw [List.append_nil, List.append_nil] at hrun
    exact ⟨gap, hrun, skipBlanks_eq_nil_iff.mpr hgap⟩

end Codec

end CodeAssistant
