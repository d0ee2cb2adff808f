/-
# Values are read alike wherever they stand

What a codec reads of a value does not depend on the place of the value: it is the same in the middle
of an object as in a text of its own.  `Codec.Means` says what a text comes to whatever stands behind
it, and `Codec.Local` that one reading, with anything behind, tells all the others.

Values are told apart by the grammar (`value_cases`): a scalar, whose front is found alike everywhere,
an object with its rows or a list with its items.  Here scalars are shown to be local, with optional
ones; lists and records follow in `CodeAssistant.Proofs.Compounds`.

The one scalar that takes work is the string.  Its escapes are read by looking ahead, but never
beyond what is taken (`TakesBody.front`), and where it ends is known from skipping it.
-/
import CodeAssistant.Proofs.Rows

namespace CodeAssistant

open Brackets
open Json.Grammar

/-! ## 1. Strings -/

namespace Strings

variable {mode : Mode} {s r : List Char}

theorem hex4_front {n : Nat} (h : hex4 s = .ok (n, r)) :
    ∃ front, s = front ++ r ∧ hex4 front = .ok (n, []) := by
  unfold hex4 at h
  split at h
  · rename_i a b c d r'
    split at h
    · rename_i ha hb hc hd
      obtain ⟨rfl, rfl⟩ := Prod.mk.inj (Except.ok.inj h)
      exact ⟨[a, b, c, d], rfl, by simp only [hex4, ha, hb, hc, hd]⟩
    · cases h
  · cases h

theorem lowHalf_front {high : Nat} {c : Char} (h : lowHalf high s = .ok (c, r)) :
    ∃ front, s = front ++ r ∧ lowHalf high front = .ok (c, []) := by
  unfold lowHalf at h
  split at h
  · cases h
  · cases h
  · split at h
    · cases h
    · rename_i hx
      split at h
      · rename_i hlow
        obtain ⟨rfl, rfl⟩ := Prod.mk.inj (Except.ok.inj h)
        obtain ⟨front, rfl, hfront⟩ := hex4_front hx
        refine ⟨'\\' :: 'u' :: front, rfl, ?_⟩
        simp only [lowHalf, hfront, hlow, if_true]
      · cases h
  · cases h
  · cases h

theorem numbered_front {c : Char} (h : numbered mode s = .ok (c, r)) :
    ∃ front, s = front ++ r ∧ numbered mode front = .ok (c, []) := by
  unfold numbered at h
  split at h
  · cases h
  · rename_i n r₁ hx
    obtain ⟨front, rfl, hfront⟩ := hex4_front hx
    cases mode with
    | skip =>
      cases h
      exact ⟨front, rfl, by simp only [numbered, hfront]⟩
    | read =>
      simp only at h
      split at h
      · cases h
      · rename_i hlow
        split at h
        · rename_i hhigh
          obtain ⟨front', rfl, hfront'⟩ := lowHalf_front h
          refine ⟨front ++ front', (List.append_assoc ..).symm, ?_⟩
          simp only [numbered, hex4_append front' hfront, List.nil_append, if_neg hlow,
            if_pos hhigh, hfront']
        · rename_i hhigh
          cases h
          refine ⟨front, rfl, ?_⟩
          simp only [numbered, hfront, if_neg hlow, if_neg hhigh]

theorem escape_front {c : Char} (h : (escape mode).run s = .ok (c, r)) :
    ∃ front, s = front ++ r ∧ (escape mode).run front = .ok (c, []) := by
  cases s with
  | nil => cases h
  | cons d s =>
    by_cases hu : d = 'u'
    · subst hu
      rw [escape_run_u] at h
      obtain ⟨front, rfl, hfront⟩ := numbered_front h
      exact ⟨'u' :: front, rfl, (escape_run_u ..).trans hfront⟩
    · rw [escape_run_cons _ hu] at h
      split at h
      · rename_i hd
        cases h
        refine ⟨[d], rfl, ?_⟩
        rw [escape_run_cons _ hu, hd]
      · cases h

theorem TakesBody.front {cs : List Char} (h : TakesBody mode s cs r) :
    ∃ front, s = front ++ r ∧ TakesBody mode front cs [] := by
  induction h with
  | close => exact ⟨['"'], rfl, .close⟩
  | escape he _ ih =>
    obtain ⟨front, rfl, hfront⟩ := ih
    obtain ⟨front', rfl, hfront'⟩ := escape_front he
    exact ⟨'\\' :: (front' ++ front), by simp,
      .escape ((escape_closes mode).append front hfront') hfront⟩
  | plain hq hb hc _ ih =>
    obtain ⟨front, rfl, hfront⟩ := ih
    exact ⟨_, rfl, .plain hq hb hc hfront⟩

/-- A string that is read with some text behind it is read with any. -/
theorem body_elsewhere {spelling : List Char} {t : String} (hspelling : IsChars spelling)
    (h : (body .read).run (spelling ++ '"' :: s) = .ok (t, r)) (r' : List Char) :
    (body .read).run (spelling ++ '"' :: r') = .ok (t, r') := by
  obtain ⟨front, hfront, htakes⟩ := (body_eq_ok_iff.mp h).front
  -- Where the string ends is seen by skipping it.
  obtain ⟨u, hskip⟩ := body_skip h
  obtain ⟨u', hskip'⟩ := body_of_isChars hspelling s
  obtain rfl : r = s := by
    rw [hskip'] at hskip
    exact (Prod.mk.inj (Except.ok.inj hskip)).2.symm
  obtain rfl : front = spelling ++ ['"'] := by
    have hsame : front ++ r = spelling ++ ['"'] ++ r := by
      rw [← hfront, List.append_assoc]
      rfl
    exact List.append_cancel_right hsame
  have := htakes.append r'
  rw [List.append_assoc] at this
  exact body_eq_ok_iff.mpr this

end Strings

/-! ## 2. Lists and objects as they are written -/

namespace Json

/-- The texts of the items of a list, as they stand between its brackets. -/
inductive IsItems : List (List Char) → List Char → Prop
  | none {gap} : Blanks gap → IsItems [] gap
  | last {cs} : Derives .text cs → IsItems [cs] cs
  | more {cs item items rest} : Derives .text cs → IsItems (item :: items) rest →
      IsItems (cs :: item :: items) (cs ++ ',' :: rest)

/-- A JSON text whose value is a list with these texts of items. -/
def IsListText (items : List (List Char)) (cs : List Char) : Prop :=
  ∃ gap inner gap', Blanks gap ∧ IsItems items inner ∧ Blanks gap' ∧
    cs = gap ++ ('[' :: (inner ++ [']']) ++ gap')

variable {cs r s : List Char} {items : List (List Char)} {rows : List (List Char × List Char)}

theorem exists_isItems (h : Derives .items cs) : ∃ item items, IsItems (item :: items) cs := by
  generalize hp : Phrase.items = p at h
  induction h with
  | lastItem htext => exact ⟨_, [], .last htext⟩
  | item htext _ _ ih =>
    obtain ⟨item, items, hrest⟩ := ih hp
    exact ⟨_, _, .more htext hrest⟩
  | _ => cases hp

theorem IsItems.derives {item : List Char} (h : IsItems (item :: items) cs) :
    Derives .items cs := by
  induction items generalizing item cs with
  | nil =>
    cases h with
    | last htext => exact .lastItem htext
  | cons item' items ih =>
    cases h with
    | more htext hrest => exact .item htext (ih hrest)

theorem IsItems.derives_list (h : IsItems items cs) : Derives .value ('[' :: (cs ++ [']'])) := by
  cases items with
  | nil =>
    cases h with
    | none hgap => exact .emptyList hgap
  | cons item items => exact .list h.derives

theorem nextItem_comma {gap : List Char} {c : Char} (hgap : Blanks gap)
    (h : skipBlanks s = c :: r) (hc : c ≠ ']') :
    nextItem .read false (gap ++ ',' :: s) = nextItem .read true s := by
  rw [nextItem_eq_ok_iff.mpr (.first h hc),
    nextItem_eq_ok_iff.mpr (.next (skipBlanks_of_blanks hgap _) h hc)]

/-- The first item, and the place behind it: there the others stand as at the start of a list. -/
theorem IsItems.uncons {item : List Char} (h : IsItems (item :: items) cs) (r : List Char) :
    ∃ s cs', cs ++ ']' :: r = item ++ s ∧ Derives .text item ∧ EndsNumber s ∧ IsItems items cs' ∧
      ∀ gap, Blanks gap → nextItem .read false (gap ++ s) = nextItem .read true (cs' ++ ']' :: r) := by
  cases h with
  | last htext =>
    refine ⟨']' :: r, [], rfl, htext, .of_head (by decide) _, .none .nil, fun gap hgap => ?_⟩
    rw [nextItem_bracket hgap]
    rfl
  | @more _ _ _ rest htext hrest =>
    refine ⟨',' :: (rest ++ ']' :: r), rest, by simp, htext, .of_head (by decide) _, hrest,
      fun gap hgap => ?_⟩
    obtain ⟨c, s, hs, hc⟩ := front_of_items hrest.derives (']' :: r)
    exact nextItem_comma hgap hs hc

/-- The item that comes next in a list that has one, up to blanks before it. -/
theorem nextItem_of_isItems {item : List Char} (h : IsItems (item :: items) cs) (r : List Char) :
    nextItem .read true (cs ++ ']' :: r) = .ok (.item (skipBlanks (cs ++ ']' :: r))) := by
  obtain ⟨c, s, hs, hc⟩ := front_of_items h.derives (']' :: r)
  rw [hs]
  exact nextItem_eq_ok_iff.mpr (.first hs hc)

/-- The first row, its place, and the place behind it: there the others stand as at the start of an
object. -/
theorem uncons_of_members {spelling value : List Char}
    (h : Derives (.members ((spelling, value) :: rows)) cs) (r : List Char) :
    ∃ space s cs', Blanks space ∧ IsChars spelling ∧ Derives .text value ∧ EndsNumber s ∧
      Derives (.members rows) cs' ∧
      nextKey .read true (cs ++ '\x7d' :: r) =
        .ok (.item (spelling ++ '"' :: (space ++ ':' :: (value ++ s)))) ∧
      ∀ gap, Blanks gap →
        nextKey .read false (gap ++ s) = nextKey .read true (cs' ++ '\x7d' :: r) := by
  cases h with
  | lastMember hgap hkey hspace htext =>
    refine ⟨_, '\x7d' :: r, [], hspace, hkey, htext, .of_head (by decide) _, .noMember .nil, ?_,
      fun gap' hgap' => ?_⟩
    · refine nextKey_eq_ok_iff.mpr (.first ?_)
      rw [List.append_assoc, skipBlanks_of_blanks hgap]
      simp [skipBlanks, isJsonBlank]
    · rw [nextKey_brace hgap']
      rfl
  | @member gap _ _ _ _ _ rest hgap hkey hspace htext hrest =>
    refine ⟨_, ',' :: (rest ++ '\x7d' :: r), rest, hspace, hkey, htext, .of_head (by decide) _,
      hrest, ?_, fun gap' hgap' => ?_⟩
    · refine nextKey_eq_ok_iff.mpr (.first ?_)
      rw [List.append_assoc, skipBlanks_of_blanks hgap]
      simp [skipBlanks, isJsonBlank]
    · obtain ⟨x, hx⟩ := front_of_members hrest ('\x7d' :: r)
      exact nextKey_comma hgap' hx

end Json

/-! ## 3. The front of a value -/

section Front

variable {cs s r r' : List Char} {f : Found} {l : Lexeme}

theorem Lexeme.Scans.unique {l' : Lexeme} (h : Scans .read s l r) (h' : Scans .read s l' r') :
    l = l' ∧ r = r' := by
  rw [← scan_eq_ok_iff] at h h'
  rw [h] at h'
  exact Prod.mk.inj (Except.ok.inj h')

theorem readFound_skipBlanks (s : List Char) : readFound (skipBlanks s) = readFound s := by
  simp only [readFound, skipBlanks_skipBlanks]

theorem text_of_value (h : Derives .value cs) : Derives .text cs := by
  simpa using Derives.text .nil h .nil

/-- No blank stands before the value. -/
theorem skipBlanks_value (hcs : Derives .value cs) (r : List Char) :
    skipBlanks (cs ++ r) = cs ++ r := by
  obtain ⟨d, cs', rfl, hd, -⟩ := front_of_value hcs
  simp [skipBlanks, hd]

/-- A scalar is found, whatever stands behind it. -/
def IsFound (cs : List Char) (f : Found) : Prop :=
  f.isOpening = false ∧ ∀ r, EndsNumber r → readFound (cs ++ r) = .ok (f, r)

/-- What is scanned with anything behind it is found with anything behind it, if it is found once. -/
theorem isFound_of_scans (hcs : Derives .value cs)
    (hl : ∀ r, EndsNumber r → Lexeme.Scans .read (cs ++ r) l r) (ho : l.isOpening = false)
    (hr : EndsNumber r) (h : readFound (cs ++ r) = .ok (f, r')) : IsFound cs f := by
  obtain ⟨l', hscans, hf⟩ := readFound_eq_ok_iff.mp h
  rw [skipBlanks_value hcs] at hscans
  obtain ⟨rfl, -⟩ := (hl r hr).unique hscans
  refine ⟨?_, fun r₂ hr₂ => readFound_eq_ok_iff.mpr ⟨l, ?_, hf⟩⟩
  · cases l with
    | number n =>
      obtain ⟨m, -, rfl⟩ := Option.map_eq_some_iff.mp hf
      rfl
    | null | bool | string =>
      cases hf
      rfl
    | list | map => cases ho
  · rw [skipBlanks_value hcs]
    exact hl r₂ hr₂

/-- The digits of a number are scanned alike, whatever stands behind them. -/
theorem exists_scan {u : List Char} (negative : Bool) (hu : IsUnsigned u) :
    ∃ l, ∀ r, EndsNumber r → Numbers.scan .read negative (u ++ r) = .ok (l, r) := by
  obtain ⟨l, hl⟩ := scan_of_isUnsigned .read negative hu (r := []) .nil
  refine ⟨l, fun r hr => ?_⟩
  have := Numbers.scan_append hl fun _ => hr
  rwa [List.append_nil] at this

theorem isFound_of_number (hcs : IsNumber cs) (hr : EndsNumber r)
    (h : readFound (cs ++ r) = .ok (f, r')) : IsFound cs f := by
  have hvalue : Derives .value cs := .number hcs
  rcases hcs with hu | ⟨u, hu, rfl⟩
  · obtain ⟨l, hl⟩ := exists_scan false hu
    obtain ⟨whole, fraction, exponent, hwhole, -, -, rfl⟩ := hu
    obtain ⟨c, ds, rfl⟩ := List.exists_cons_of_ne_nil hwhole.1.1
    have hc := hwhole.1.2 c List.mem_cons_self
    exact isFound_of_scans (l := .number l) hvalue (fun r hr => .natural hc (hl r hr)) rfl hr h
  · obtain ⟨l, hl⟩ := exists_scan true hu
    exact isFound_of_scans (l := .number l) hvalue (fun r hr => .negative (hl r hr)) rfl hr h

theorem isFound_of_string (hcs : IsChars cs)
    (h : readFound ('"' :: (cs ++ ['"']) ++ r) = .ok (f, r')) (hr : EndsNumber r) :
    IsFound ('"' :: (cs ++ ['"'])) f := by
  obtain ⟨l, hscans, -⟩ := readFound_eq_ok_iff.mp h
  have hs : ∀ r, '"' :: (cs ++ ['"']) ++ r = '"' :: (cs ++ '"' :: r) := by simp
  rw [hs] at hscans
  cases hscans with
  | natural hd => cases hd
  | @string _ _ t hb =>
    refine isFound_of_scans (l := .string t) (.string hcs) (fun r _ => ?_) rfl hr h
    rw [hs]
    exact .string (Strings.body_elsewhere hcs hb r)

/-- A value is a scalar, found alike everywhere if it is found at all, or an object or a list. -/
theorem value_cases (hcs : Derives .value cs) :
    (∀ r f r', EndsNumber r → readFound (cs ++ r) = .ok (f, r') → IsFound cs f) ∨
      (∃ rows inner, Derives (.members rows) inner ∧ cs = '\x7b' :: (inner ++ ['\x7d'])) ∨
      ∃ items inner, Json.IsItems items inner ∧ cs = '[' :: (inner ++ [']']) := by
  cases hcs with
  | word hw =>
    refine .inl fun r f r' hr h => ?_
    have hvalue := Derives.word hw
    simp only [List.mem_cons, List.not_mem_nil, or_false] at hw
    rcases hw with rfl | rfl | rfl
    · exact isFound_of_scans hvalue (fun _ _ => .nullWord rfl) rfl hr h
    · exact isFound_of_scans hvalue (fun _ _ => .trueWord rfl) rfl hr h
    · exact isFound_of_scans hvalue (fun _ _ => .falseWord rfl) rfl hr h
  | number hn => exact .inl fun r f r' hr h => isFound_of_number hn hr h
  | string hs => exact .inl fun r f r' hr h => isFound_of_string hs h hr
  | emptyList hgap => exact .inr (.inr ⟨[], _, .none hgap, rfl⟩)
  | list h =>
    obtain ⟨item, items, hitems⟩ := Json.exists_isItems h
    exact .inr (.inr ⟨_, _, hitems, rfl⟩)
  | object h => exact .inr (.inl ⟨_, _, h, rfl⟩)

end Front

theorem readFound_brace (s : List Char) : readFound ('\x7b' :: s) = .ok (.map, '\x7b' :: s) :=
  readFound_eq_ok_iff.mpr ⟨.map, .map, rfl⟩

theorem readFound_bracket (s : List Char) : readFound ('[' :: s) = .ok (.list, '[' :: s) :=
  readFound_eq_ok_iff.mpr ⟨.list, .list, rfl⟩

/-! ## 4. Locality -/

namespace Codec

variable {α β : Type} {c : Codec α} {depth : Nat} {cs gap gap' r r' : List Char} {a : α}

/-- Whatever stands behind the text, its value is read, and all of it is but blanks. -/
def Means (c : Codec α) (depth : Nat) (cs : List Char) (a : α) : Prop :=
  ∀ r, EndsNumber r → ∃ gap, Blanks gap ∧ (c.read depth).run (cs ++ r) = .ok (a, gap ++ r)

/-- What is read of a text does not depend on what stands behind it. -/
structure Local (c : Codec α) : Prop where
  means : ∀ {depth : Nat} {cs r r' : List Char} {a : α}, Derives .text cs → EndsNumber r →
    (c.read depth).run (cs ++ r) = .ok (a, r') → c.Means depth cs a
  blanks : ∀ (depth : Nat) (s : List Char), (c.read depth).run (skipBlanks s) = (c.read depth).run s

/-- What is left of a text of which all is read are blanks. -/
theorem Local.means_rest (hc : c.Local) (hcs : Derives .text cs) (hr : EndsNumber r)
    (hrun : (c.read depth).run (cs ++ r) = .ok (a, r')) :
    c.Means depth cs a ∧ ∃ gap, Blanks gap ∧ r' = gap ++ r := by
  have hmeans := hc.means hcs hr hrun
  obtain ⟨gap, hgap, hrun'⟩ := hmeans r hr
  rw [hrun] at hrun'
  exact ⟨hmeans, gap, hgap, (Prod.mk.inj (Except.ok.inj hrun')).2⟩

/-- A scalar is read if it is found and accepted. -/
theorem scalarOf_eq_ok_iff {expected : Expected} {accept : Found → Option (Except Reason α)}
    {hopen : ∀ o, o.isOpening → accept o = none} {s : List Char} :
    (scalarOf expected accept hopen).run s = .ok (a, r) ↔
      ∃ f, readFound s = .ok (f, r) ∧ accept f = some (.ok a) := by
  simp only [scalarOf, scalar]
  cases readFound s with
  | error e => simp
  | ok found =>
    obtain ⟨f, r'⟩ := found
    cases hf : accept f with
    | none => simp [hf]
    | some x => cases x <;> simp [hf, and_comm]

namespace Local

/-- Blanks around a value do not matter. -/
theorem run_blanks (hblanks : ∀ s, (c.read depth).run (skipBlanks s) = (c.read depth).run s)
    (hgap : Blanks gap) (s : List Char) : (c.read depth).run (gap ++ s) = (c.read depth).run s := by
  rw [← hblanks (gap ++ s), skipBlanks_of_blanks hgap, hblanks]

/-- It is enough to look at values without blanks around them. -/
theorem of_values (hblanks : ∀ depth s, (c.read depth).run (skipBlanks s) = (c.read depth).run s)
    (hmeans : ∀ {depth cs r r' a}, Derives .value cs → EndsNumber r →
      (c.read depth).run (cs ++ r) = .ok (a, r') → c.Means depth cs a) : c.Local := by
  refine ⟨fun {depth cs r r' a} hcs hr hrun r₂ hr₂ => ?_, hblanks⟩
  cases hcs with
  | @text gap v gap' hgap hv hgap' =>
    simp only [List.append_assoc, run_blanks (hblanks depth) hgap] at hrun ⊢
    obtain ⟨gap₂, hgap₂, hrun₂⟩ := hmeans hv (.of_blanks hgap' hr) hrun _ (.of_blanks hgap' hr₂)
    exact ⟨gap₂ ++ gap', hgap₂.append hgap', by rw [hrun₂, List.append_assoc]⟩

/-- A text means what the value in it means. -/
theorem means_text_iff (hc : c.Local) (hgap : Blanks gap) (hcs : Derives .value cs)
    (hgap' : Blanks gap') : c.Means depth (gap ++ (cs ++ gap')) a ↔ c.Means depth cs a := by
  constructor
  · intro h
    obtain ⟨gap₂, -, hrun⟩ := h [] .nil
    rw [List.append_assoc, run_blanks (hc.blanks depth) hgap, List.append_assoc] at hrun
    exact hc.means (text_of_value hcs) (.of_blanks hgap' .nil) hrun
  · intro h r hr
    obtain ⟨gap₂, hgap₂, hrun⟩ := h (gap' ++ r) (.of_blanks hgap' hr)
    refine ⟨gap₂ ++ gap', hgap₂.append hgap', ?_⟩
    rw [List.append_assoc, run_blanks (hc.blanks depth) hgap, List.append_assoc, hrun,
      List.append_assoc]

theorem scalar {expected : Expected} {accept : Found → Option (Except Reason α)}
    (hopen : ∀ o, o.isOpening → accept o = none)
    (hread : ∀ depth, c.read depth = scalarOf expected accept hopen) : c.Local := by
  refine of_values (fun depth s => ?_) fun {depth cs r r' a} hcs hr h => ?_
  · rw [hread, scalarOf_skipBlanks]
  · rw [hread] at h
    obtain ⟨f, hf, ha⟩ := scalarOf_eq_ok_iff.mp h
    rcases value_cases hcs with hscalar | ⟨rows, inner, -, rfl⟩ | ⟨items, inner, -, rfl⟩
    · intro r₂ hr₂
      rw [hread]
      exact ⟨[], .nil, scalarOf_eq_ok_iff.mpr ⟨f, (hscalar _ _ _ hr hf).2 r₂ hr₂, ha⟩⟩
    · rw [List.cons_append, readFound_brace] at hf
      cases hf
      rw [hopen _ rfl] at ha
      cases ha
    · rw [List.cons_append, readFound_bracket] at hf
      cases hf
      rw [hopen _ rfl] at ha
      cases ha

theorem text : Codec.text.Local :=
  .scalar (by rintro (_ | _ | _ | _) ⟨⟩ <;> rfl) fun _ => rfl

theorem natural64 : Codec.natural64.Local :=
  .scalar (by rintro (_ | _ | _ | _) ⟨⟩ <;> rfl) fun _ => rfl

theorem integer64 : Codec.integer64.Local :=
  .scalar (by rintro (_ | _ | _ | _) ⟨⟩ <;> rfl) fun _ => rfl

theorem float64 : Codec.float64.Local :=
  .scalar (by rintro (_ | _ | _ | _) ⟨⟩ <;> rfl) fun _ => rfl

theorem reshape (hc : c.Local) (into : α → β) (out : β → α) : (c.reshape into out).Local := by
  refine ⟨fun {depth cs r r' b} hcs hr hrun r₂ hr₂ => ?_, fun depth s => ?_⟩
  · obtain ⟨a, ha, rfl⟩ := Reader.map_eq_ok_iff.mp hrun
    obtain ⟨gap, hgap, hrun₂⟩ := hc.means hcs hr ha r₂ hr₂
    exact ⟨gap, hgap, Reader.map_eq_ok_iff.mpr ⟨a, hrun₂, rfl⟩⟩
  · simp only [Codec.reshape, Reader.map, hc.blanks]

theorem eq_nullWord {cs : List Char} (hcs : Derives .value ('n' :: cs)) : cs = ['u', 'l', 'l'] := by
  generalize h : 'n' :: cs = cs' at hcs
  cases hcs with
  | word hw =>
    subst h
    simpa [Json.nullWord, Json.trueWord, Json.falseWord] using hw
  | number hn =>
    rcases hn with ⟨whole, fraction, exponent, hwhole, -, -, rfl⟩ | ⟨u, -, rfl⟩
    · obtain ⟨d, ds, rfl⟩ := List.exists_cons_of_ne_nil hwhole.1.1
      have hd := hwhole.1.2 d List.mem_cons_self
      obtain ⟨rfl, -⟩ := List.cons.inj h
      cases hd
    · simp at h
  | string | emptyList | list | object => simp at h

/-- A value that does not start like `null` is read as one of the codec. -/
theorem nullable_run (hcs : Derives .value cs) (hne : ∀ s, cs ≠ 'n' :: s) (r : List Char) :
    (c.nullable.read depth).run (cs ++ r) = ((c.read depth).map some).run (cs ++ r) := by
  have hs : ∀ s, skipBlanks (cs ++ r) ≠ 'n' :: s := by
    intro s h
    obtain ⟨d, cs', rfl, -⟩ := front_of_value hcs
    rw [skipBlanks_value hcs] at h
    obtain ⟨rfl, -⟩ := List.cons.inj h
    exact hne _ rfl
  simp only [Codec.nullable, nullableReader]
  rfl

theorem means_nullable_iff (hc : c.Local) (hcs : Derives .value cs) (hne : ∀ s, cs ≠ 'n' :: s)
    {o : Option α} : c.nullable.Means depth cs o ↔ ∃ a, c.Means depth cs a ∧ some a = o := by
  constructor
  · intro h
    obtain ⟨gap, -, hrun⟩ := h [] .nil
    rw [nullable_run hcs hne] at hrun
    obtain ⟨a, ha, ho⟩ := Reader.map_eq_ok_iff.mp hrun
    exact ⟨a, hc.means (text_of_value hcs) .nil ha, ho⟩
  · rintro ⟨a, ha, ho⟩ r hr
    obtain ⟨gap, hgap, hrun⟩ := ha r hr
    rw [nullable_run hcs hne]
    exact ⟨gap, hgap, Reader.map_eq_ok_iff.mpr ⟨a, hrun, ho⟩⟩

theorem nullable (hc : c.Local) : c.nullable.Local := by
  refine of_values (fun depth s => ?_) fun {depth cs r r' o} hcs hr hrun => ?_
  · simp only [Codec.nullable, nullableReader, skipBlanks_skipBlanks, hc.blanks]
  · by_cases hnull : ∃ s, cs = 'n' :: s
    · obtain ⟨s, rfl⟩ := hnull
      obtain rfl := eq_nullWord hcs
      cases hrun
      exact fun r₂ _ => ⟨[], .nil, rfl⟩
    · have hne : ∀ s, cs ≠ 'n' :: s := fun s h => hnull ⟨s, h⟩
      rw [nullable_run hcs hne] at hrun
      obtain ⟨a, ha, ho⟩ := Reader.map_eq_ok_iff.mp hrun
      exact (means_nullable_iff hc hcs hne).mpr ⟨a, hc.means (text_of_value hcs) hr ha, ho⟩

end Local

end Codec

end CodeAssistant
