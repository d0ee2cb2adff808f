/-
# Objects row by row

An object is often read for a few of its members only.  What the others say does not matter then,
and they are checked for their form and no more.  So the text of an object is looked at row by row,
a row being a key and a value as they are spelled, and only the rows of known keys are read.

* `Codec.read_of_rows`: a record is read from the rows of its keys, whatever JSON texts stand in the
  other rows;
* `Codec.isText_of_decode`: what is decoded is a JSON text.

The first goes through `Fields.putAll`, as the reading of a record from a tree does; the members
that are put are the rows, with anything for the values that are skipped.  The second is one lemma
for each combinator of codecs: whatever its reader takes can be skipped (`Codec.Skips`).
-/
import CodeAssistant.Proofs.Grammar
import CodeAssistant.Proofs.Records
import Mathlib.Data.List.Forall2

namespace CodeAssistant

open Brackets
open Json.Grammar

/-! ## 1. Rows that are read -/

namespace Json

/-- The key that is spelled by some characters between quotes; none if escapes are not paired. -/
def key? (spelling : List Char) : Option String :=
  match (Strings.body .read).run (spelling ++ ['"']) with
  | .ok (key, []) => some key
  | _ => none

/-- The characters are a text of the tree, with lists and objects nesting at most so deep. -/
def ReadsAs (depth : Nat) (cs : List Char) (t : Json) : Prop :=
  readWhole (reader depth) (String.ofList cs) = .ok t

variable {spelling cs r : List Char} {key : String} {depth : Nat} {t : Json}

theorem body_of_key? (h : key? spelling = some key) (r : List Char) :
    (Strings.body .read).run (spelling ++ '"' :: r) = .ok (key, r) := by
  unfold key? at h
  split at h
  · rename_i hrun
    cases h
    simpa using (Strings.body_closes .read).append r hrun
  · cases h

theorem run_of_readsAs (h : ReadsAs depth cs t) (hr : EndsNumber r) :
    ∃ gap, Blanks gap ∧ (reader depth).run (cs ++ r) = .ok (t, gap ++ r) := by
  obtain ⟨gap, hrun, hgap⟩ := readWhole_eq_ok_iff.mp h
  rw [String.toList_ofList] at hrun
  exact ⟨gap, skipBlanks_eq_nil_iff.mp hgap, (reader_extends depth).append r hrun fun _ => hr⟩

/-- The compact text of a readable tree reads as the tree. -/
theorem readsAs_compact (h : t.Readable depth) : ReadsAs depth t.compact.toList t := by
  have hb : BlankLayout (fun _ => []) [] := ⟨nofun, nofun⟩
  have htakes := takes_layOut hb 0 (r := []) nofun t h
  rw [List.append_nil] at htakes
  refine readWhole_eq_ok_iff.mpr ⟨[], ?_, rfl⟩
  rw [String.toList_ofList, compact, writeCompact_eq 0, String.toList_ofList]
  exact reader_eq_ok_iff.mpr htakes

theorem text_of_skipped (h : Derives .text cs) (hr : EndsNumber r) :
    ∃ gap, Blanks gap ∧ skipping.run (cs ++ r) = .ok ((), gap ++ r) :=
  h.skipped (cs ++ r).length r (by simp) hr

theorem isChars_of_plain (h : cs.all fun c => c ≠ '"' ∧ c ≠ '\\' ∧ 32 ≤ c.toNat) :
    IsChars cs := by
  induction cs with
  | nil => exact .nil
  | cons c cs ih =>
    rw [List.all_cons, Bool.and_eq_true, decide_eq_true_eq] at h
    obtain ⟨⟨hquote, hbackslash, hcontrol⟩, hrest⟩ := h
    exact .plain hquote hbackslash hcontrol (ih hrest)

/-- The rows of an object with nothing between the tokens. -/
def rowsText : List (List Char × List Char) → List Char
  | [] => []
  | [(key, cs)] => '"' :: (key ++ '"' :: ':' :: cs)
  | (key, cs) :: row :: rows => '"' :: (key ++ '"' :: ':' :: (cs ++ ',' :: rowsText (row :: rows)))

theorem derives_rowsText {rows : List (List Char × List Char)}
    (h : ∀ row ∈ rows, IsChars row.1 ∧ Derives .text row.2) :
    Derives (.members rows) (rowsText rows) := by
  have hgap : Blanks [] := nofun
  induction rows with
  | nil => exact .noMember hgap
  | cons row rows ih =>
    rw [List.forall_mem_cons] at h
    cases rows with
    | nil => exact .lastMember hgap h.1.1 hgap h.1.2
    | cons row' rows => exact .member hgap h.1.1 hgap h.1.2 (ih h.2)

/-- The values of an object's rows are texts. -/
theorem texts_of_rows {rows : List (List Char × List Char)} (h : Derives (.members rows) cs) :
    ∀ row ∈ rows, Derives .text row.2 := by
  induction rows generalizing cs with
  | nil => nofun
  | cons row rows ih =>
    intro row' hrow
    cases h with
    | lastMember _ _ _ htext =>
      rw [List.mem_singleton.mp hrow]
      exact htext
    | member _ _ _ htext hrest =>
      rcases List.mem_cons.mp hrow with rfl | hrow
      · exact htext
      · exact ih hrest row' hrow

end Json

namespace Fields

open Json

variable {ρ σ : Type} {fs : Fields ρ σ} {depth : Nat} {row : List Char × List Char}
  {m : String × Json}

/-- The row spells the member, as far as a record with these fields looks at it: the value of a key
that no field has may be anything. -/
structure Spells (fs : Fields ρ σ) (depth : Nat) (row : List Char × List Char)
    (m : String × Json) : Prop where
  key : key? row.1 = some m.1
  value : m.1 ∈ fs.keys → ReadsAs depth row.2 m.2

/-- A row is taken as its member is put. -/
theorem visit_of_spells (hfs : fs.Every (·.codec.Agrees)) (h : fs.Spells depth row m)
    (htext : Derives .text row.2) {st st' : σ} (hput : fs.put st m.1 m.2 = some st')
    {s r : List Char} (hc : colon s = .ok (row.2 ++ r)) (hr : EndsNumber r) :
    ∃ gap, Blanks gap ∧ (fs.visit depth st m.1).run s = .ok (st', gap ++ r) := by
  induction fs with
  | nil =>
    obtain ⟨gap, hgap, hrun⟩ := text_of_skipped htext hr
    cases hput
    exact ⟨gap, hgap, Reader.map_eq_ok_iff.mpr ⟨(), (value_run hc).trans hrun, rfl⟩⟩
  | cons field rest ih =>
    obtain ⟨slot, more⟩ := st
    simp only [put] at hput
    simp only [visit]
    split at hput
    · rename_i hkey
      rw [if_pos hkey]
      obtain ⟨gap, hgap, hrun⟩ := run_of_readsAs (h.value (by simp [keys, hkey])) hr
      cases slot with
      | some a => cases hput
      | none =>
        obtain ⟨a, ha, rfl⟩ := Option.map_eq_some_iff.mp hput
        have hread := hfs.1.comesTo hrun
        rw [ha] at hread
        exact ⟨gap, hgap, Reader.map_eq_ok_iff.mpr ⟨a, (value_run hc).trans hread, rfl⟩⟩
    · rename_i hkey
      rw [if_neg hkey]
      obtain ⟨more', hmore, rfl⟩ := Option.map_eq_some_iff.mp hput
      obtain ⟨gap, hgap, hrun⟩ := ih hfs.2
        ⟨h.key, fun hmem => h.value (List.mem_cons_of_mem _ hmem)⟩ hmore
      exact ⟨gap, hgap, Reader.map_eq_ok_iff.mpr ⟨more', hrun, rfl⟩⟩

theorem visits_of_spells (hfs : fs.Every (·.codec.Agrees))
    {rows : List (List Char × List Char)} {ms : List (String × Json)}
    (h : List.Forall₂ (fs.Spells depth) rows ms) (htexts : ∀ row ∈ rows, Derives .text row.2)
    {st st' : σ} (hput : fs.putAll st ms = some st') :
    Visits .read (fs.visit depth) st rows st' := by
  induction h generalizing st with
  | nil =>
    cases hput
    exact .nil
  | cons hrow _ ih =>
    obtain ⟨st₁, hst₁, hput⟩ := Option.bind_eq_some_iff.mp hput
    rw [List.forall_mem_cons] at htexts
    exact .cons (body_of_key? hrow.key)
      (fun s r hc hr => visit_of_spells hfs hrow htexts.1 hst₁ hc hr) (ih htexts.2 hput)

end Fields

/-- **A record is read from its rows.**  If the rows spell members that have the record's values,
the record is read from the text of the object, and nothing but blanks is left. -/
theorem Codec.read_of_rows {ρ σ : Type} (name : String) {fs : Fields ρ σ}
    (hkeys : fs.keys.Nodup) (hfs : fs.Every (·.codec.Agrees)) {depth : Nat} {cs : List Char}
    {rows : List (List Char × List Char)} {ms : List (String × Json)}
    (hcs : Json.IsObjectText rows cs) (h : List.Forall₂ (fs.Spells depth) rows ms) {values : ρ}
    (hvalues : fs.ofMembers ms = some values) :
    ∃ gap, Blanks gap ∧ ((record name fs).read (depth + 1)).run cs = .ok (values, gap) := by
  obtain ⟨gap, inner, gap', hgap, hinner, hgap', rfl⟩ := hcs
  refine ⟨gap', hgap', ?_⟩
  rw [Fields.ofMembers_eq hkeys] at hvalues
  obtain ⟨st, hput, hfinish⟩ := Option.bind_eq_some_iff.mp hvalues
  have hmembers : TakesMembers .read (fs.visit depth) true fs.empty (inner ++ '\x7d' :: gap') st
      gap' :=
    takesMembers_of_visits (Fields.visits_of_spells hfs h (Json.texts_of_rows hinner) hput) hinner
      gap' rfl
  have hfound : readFound (gap ++ ('\x7b' :: (inner ++ ['\x7d']) ++ gap')) =
      .ok (.map, '\x7b' :: (inner ++ '\x7d' :: gap')) := by
    refine readFound_eq_ok_iff.mpr ⟨.map, ?_, rfl⟩
    rw [skipBlanks_of_blanks hgap, List.cons_append, List.append_assoc]
    exact .map
  simp only [record, recordReader, hfound, List.tail_cons, members_eq_ok_iff.mpr hmembers]
  cases hst : fs.finish st with
  | error e =>
    rw [hst] at hfinish
    cases hfinish
  | ok values' =>
    rw [hst] at hfinish
    cases hfinish
    rfl

/-! ## 2. What is decoded is a text -/

namespace Codec

/-- Whatever the codec reads can be skipped. -/
structure Skips {α : Type} (c : Codec α) : Prop where
  run : ∀ {depth : Nat} {s r : List Char} {a : α}, (c.read depth).run s = .ok (a, r) →
    skipping.run s = .ok ((), r)

namespace Skips

variable {α β : Type} {c : Codec α}

theorem tree : Codec.tree.Skips := ⟨skipping_of_reader⟩

theorem reshape (h : c.Skips) (into : α → β) (out : β → α) : (c.reshape into out).Skips := by
  refine ⟨fun hrun => ?_⟩
  obtain ⟨a, ha, -⟩ := Reader.map_eq_ok_iff.mp hrun
  exact h.run ha

theorem nullable (h : c.Skips) : c.nullable.Skips := by
  refine ⟨fun {depth s r a} hrun => ?_⟩
  simp only [Codec.nullable, nullableReader] at hrun
  split at hrun
  · rename_i hs
    split at hrun
    · cases hrun
    · rename_i hw
      cases hrun
      have hscans : Lexeme.Scans .skip (skipBlanks s) .null r := hs ▸ .nullWord hw
      exact skippingTo_of_scalar _ hscans rfl
  · split at hrun
    · cases hrun
    · rename_i ha
      cases hrun
      exact h.run ha

end Skips

end Codec

theorem skippingTo_of_skipping {n : Nat} {s r : List Char} (hn : s.length ≤ n)
    (h : skipping.run s = .ok ((), r)) : (skippingTo n).run s = .ok ((), r) := skippingTo_mono hn h

/-- Members can be skipped if each of their values can. -/
theorem Brackets.TakesMembers.skip {σ : Type} {visit : σ → String → Reader σ} {first : Bool}
    {st st' : σ} {s r : List Char} {n : Nat} (h : TakesMembers .read visit first st s st' r)
    (hvisit : ∀ st key s st' r, (visit st key).run s = .ok (st', r) →
      (value skipping).run s = .ok ((), r))
    (hn : s.length ≤ n) :
    TakesMembers .skip (fun _ _ => value (skippingTo n)) first () s () r := by
  induction h with
  | closed hk => exact .closed (nextKey_skip hk)
  | @member _ st st₁ _ _ r₁ r₂ r₃ _ key hk hb hv _ ih =>
    have h₁ := length_of_nextKey hk
    have h₂ := (Strings.body .read).shrinks hb
    have h₃ := (visit st key).shrinks hv
    simp only [Next.rest] at h₁
    obtain ⟨u, hu⟩ := Strings.body_skip hb
    obtain ⟨r', hc, hskip⟩ := colon_of_value (hvisit _ _ _ _ _ hv)
    have h₄ := length_of_colon hc
    have hvalue : (value (skippingTo n)).run r₂ = .ok ((), r₃) :=
      (value_run hc).trans (skippingTo_of_skipping (by omega) hskip)
    exact .member (nextKey_skip hk) hu hvalue (ih (by omega))

namespace Fields

variable {ρ σ : Type} {fs : Fields ρ σ} {depth : Nat}

theorem visit_skips (hfs : fs.Every (·.codec.Skips)) (st : σ) (key : String) (s : List Char)
    (st' : σ) (r : List Char) (h : (fs.visit depth st key).run s = .ok (st', r)) :
    (value skipping).run s = .ok ((), r) := by
  induction fs with
  | nil =>
    obtain ⟨⟨⟩, hrun, -⟩ := Reader.map_eq_ok_iff.mp h
    exact hrun
  | cons field rest ih =>
    obtain ⟨slot, more⟩ := st
    simp only [visit] at h
    split at h
    · cases slot with
      | some a => cases h
      | none =>
        obtain ⟨a, hrun, -⟩ := Reader.map_eq_ok_iff.mp h
        obtain ⟨r', hc, ha⟩ := colon_of_value hrun
        exact (value_run hc).trans (hfs.1.run ha)
    · obtain ⟨more', hrun, -⟩ := Reader.map_eq_ok_iff.mp h
      exact ih hfs.2 more more' hrun

/-- The fields of a record that is a list are items that can be skipped. -/
theorem takesItems_of_readItems {name : String} {total index : Nat} {s r : List Char} {values : ρ}
    (hfs : fs.Every (·.codec.Skips))
    (h : fs.readItems name total depth index s = .ok (values, r)) :
    ∃ us, TakesItems .read skipping (index = 0) s us r := by
  induction fs generalizing index s with
  | nil =>
    simp only [readItems] at h
    split at h
    · cases h
    · rename_i he
      cases h
      exact ⟨[], .closed (nextItem_eq_ok_iff.mpr (.closed (endOfItems_eq_ok_iff.mp he)))⟩
  | cons field rest ih =>
    simp only [readItems] at h
    split at h
    · cases h
    · rename_i hn
      split at h
      · cases h
      · cases h
        exact ⟨[], .closed hn⟩
    · rename_i hn
      split at h
      · cases h
      · rename_i ha
        split at h
        · cases h
        · rename_i hrest
          cases h
          obtain ⟨us, hus⟩ := ih hfs.2 hrest
          exact ⟨() :: us, .item hn (hfs.1.run ha) hus⟩

end Fields

namespace Codec

theorem Skips.record {ρ σ : Type} (name : String) {fs : Fields ρ σ}
    (hfs : fs.Every (·.codec.Skips)) : (Codec.record name fs).Skips := by
  refine ⟨fun {depth s r a} hrun => ?_⟩
  simp only [Codec.record, recordReader] at hrun
  split at hrun
  · cases hrun
  · rename_i r₁ hf
    obtain ⟨l, hl, -, -, hmap⟩ := scans_skip_of_readFound hf
    have hlen := length_tail_of_readFound hf rfl
    obtain ⟨n, hn⟩ : ∃ n, s.length = n + 1 := ⟨s.length - 1, by omega⟩
    split at hrun
    · cases hrun
    · split at hrun
      · cases hrun
      · rename_i hm
        split at hrun
        · cases hrun
        · cases hrun
          have hskip := (members_eq_ok_iff.mp hm).skip (n := n) (Fields.visit_skips hfs) (by omega)
          have := skippingTo_of_map (hmap rfl ▸ hl) hskip
          rwa [← hn] at this
  · rename_i r₁ hf
    obtain ⟨l, hl, -, hlist, -⟩ := scans_skip_of_readFound hf
    have hlen := length_tail_of_readFound hf rfl
    obtain ⟨n, hn⟩ : ∃ n, s.length = n + 1 := ⟨s.length - 1, by omega⟩
    split at hrun
    · cases hrun
    · obtain ⟨us, hus⟩ := Fields.takesItems_of_readItems hfs hrun
      obtain ⟨us', hskip⟩ := hus.skip (n := n)
        (fun s u r hs h => skippingTo_of_skipping hs h) (by omega)
      have := skippingTo_of_list (hlist rfl ▸ hl) hskip
      rwa [← hn] at this
  · cases hrun

/-- **What is decoded is a JSON text.** -/
theorem isText_of_decode {α : Type} {c : Codec α} (h : c.Skips) {body : String} {a : α}
    (hbody : c.decode body = .ok a) : Json.IsText body.toList := by
  obtain ⟨r, hrun, hr⟩ := readWhole_eq_ok_iff.mp hbody
  exact (Json.isText_iff body).mpr (readWhole_eq_ok_iff.mpr ⟨r, h.run hrun, hr⟩)

end Codec

end CodeAssistant
