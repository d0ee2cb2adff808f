/-
# Bodies that were cut off

A record ends with a bracket, so its reader sees the end of it: what it reads from a text it reads
from every longer text, and leaves so much more (`Codec.Closes.record`).  A body that has lost its end,
more than blanks of it, can therefore not be decoded.  If it could, the reader would stop at the
same place in the whole body, and what was lost would stand behind the document.

Main statement: `decode_of_cut`.
-/
import CodeAssistant.Proofs.Bodies
import CodeAssistant.Proofs.Extension

namespace CodeAssistant

open Brackets

/-! ## 1. Values that are skipped -/

section Skipping

variable {s r : List Char}

/-- A value that is skipped is a scalar, or its items or members are skipped by the nested
reader. -/
theorem skippingWith_cases {nested : Option (Unit → Reader Unit)}
    (h : (skippingWith nested).run s = .ok ((), r)) :
    (∃ l, Lexeme.Scans .skip (skipBlanks s) l r ∧ l.isOpening = false) ∨
      ∃ p, nested = some p ∧
        ((∃ us r₁, Lexeme.Scans .skip (skipBlanks s) .list r₁ ∧
          TakesItems .skip (p ()) true r₁.tail us r) ∨
        ∃ r₁, Lexeme.Scans .skip (skipBlanks s) .map r₁ ∧
          TakesMembers .skip (fun _ _ => value (p ())) true () r₁.tail () r) := by
  simp only [skippingWith] at h
  split at h
  · cases h
  · rename_i r₁ hs
    have hs := Lexeme.scan_eq_ok_iff.mp hs
    split at h
    · cases h
    · rename_i p
      split at h
      · cases h
      · rename_i us r' hi
        cases h
        exact Or.inr ⟨p, rfl, Or.inl ⟨us, r₁, hs, items_eq_ok_iff.mp hi⟩⟩
  · rename_i r₁ hs
    have hs := Lexeme.scan_eq_ok_iff.mp hs
    split at h
    · cases h
    · rename_i p
      split at h
      · cases h
      · rename_i u r' hm
        cases h
        exact Or.inr ⟨p, rfl, Or.inr ⟨r₁, hs, members_eq_ok_iff.mp hm⟩⟩
  · rename_i l r' hl hm hs
    cases h
    refine Or.inl ⟨l, Lexeme.scan_eq_ok_iff.mp hs, ?_⟩
    cases l <;> simp_all [Lexeme.isOpening]

/-- A larger bound on the depth does no harm. -/
theorem skippingTo_mono {n m : Nat} (hnm : n ≤ m) (h : (skippingTo n).run s = .ok ((), r)) :
    (skippingTo m).run s = .ok ((), r) := by
  induction n generalizing m s r with
  | zero =>
    rcases skippingWith_cases h with ⟨l, hl, ho⟩ | ⟨p, hp, -⟩
    · exact skippingTo_of_scalar m hl ho
    · cases hp
  | succ n ih =>
    obtain ⟨m, rfl⟩ : ∃ k, m = k + 1 := ⟨m - 1, by omega⟩
    have hle : n ≤ m := Nat.le_of_succ_le_succ hnm
    rcases skippingWith_cases h with ⟨l, hl, ho⟩ | ⟨p, hp, ⟨us, r₁, hl, hi⟩ | ⟨r₁, hl, hm⟩⟩
    · exact skippingTo_of_scalar _ hl ho
    · cases hp
      exact skippingTo_of_list hl (hi.mono (ih hle))
    · cases hp
      refine skippingTo_of_map hl (hm.mono fun hv => ?_)
      obtain ⟨r', hc, hv⟩ := colon_of_value hv
      rw [value_run hc]
      exact ih hle hv

theorem skippingTo_extends (n : Nat) : (skippingTo n).Extends := by
  induction n with
  | zero =>
    refine ⟨fun {s u r} x h hr => ?_⟩
    rcases skippingWith_cases h with ⟨l, hl, ho⟩ | ⟨p, hp, -⟩
    · refine skippingTo_of_scalar 0 ?_ ho
      rw [skipBlanks_append x hl.ne_nil]
      exact hl.append x hr
    · cases hp
  | succ n ih =>
    refine ⟨fun {s u r} x h hr => ?_⟩
    rcases skippingWith_cases h with ⟨l, hl, ho⟩ | ⟨p, hp, ⟨us, r₁, hl, hi⟩ | ⟨r₁, hl, hm⟩⟩
    · refine skippingTo_of_scalar _ ?_ ho
      rw [skipBlanks_append x hl.ne_nil]
      exact hl.append x hr
    · cases hp
      have hne := hl.rest_ne_nil rfl
      have hi' := hi.append x ih
      rw [← List.tail_append_of_ne_nil hne] at hi'
      refine skippingTo_of_list ?_ hi'
      rw [skipBlanks_append x hl.ne_nil]
      exact hl.append x fun hnil => absurd hnil hne
    · cases hp
      have hne := hl.rest_ne_nil rfl
      have hm' := hm.append x fun _ _ => extends_value ih
      rw [← List.tail_append_of_ne_nil hne] at hm'
      refine skippingTo_of_map ?_ hm'
      rw [skipBlanks_append x hl.ne_nil]
      exact hl.append x fun hnil => absurd hnil hne

theorem skipping_extends : skipping.Extends :=
  ⟨fun {s _ _} x h hr =>
    skippingTo_mono (by simp) ((skippingTo_extends s.length).append x h hr)⟩

end Skipping

/-! ## 2. Trees -/

/-- What was found at a bracket is found there still, with the longer text behind it. -/
theorem readFound_append_of_opening {s r : List Char} (x : List Char) {f : Found}
    (h : readFound s = .ok (f, r)) (hf : f.isOpening = true) :
    readFound (s ++ x) = .ok (f, r ++ x) ∧ (r ++ x).tail = r.tail ++ x := by
  have hl := length_of_readFound h
  rw [if_pos hf] at hl
  exact ⟨readFound_append x h fun hnil => absurd hnil hl.2, List.tail_append_of_ne_nil hl.2⟩

theorem Json.TakesPairs.ne_nil {p : Reader Json} {first : Bool} {s r : List Char}
    {ms : List (String × Json)} (h : Json.TakesPairs p first s ms r) : s ≠ [] := by
  rintro rfl
  cases h with
  | closed hn => cases hn
  | pair hn => cases hn

theorem Json.TakesPairs.append {p : Reader Json} (hp : p.Extends) {first : Bool}
    {s r : List Char} {ms : List (String × Json)} (x : List Char)
    (h : Json.TakesPairs p first s ms r) : Json.TakesPairs p first (s ++ x) ms (r ++ x) := by
  induction h with
  | closed hn => exact .closed (nextKey_append x hn)
  | pair hn hk hc hv hrest ih =>
    exact .pair (nextKey_append x hn) ((Strings.body_closes .read).append x hk) (colon_append x hc)
      (hp.append x hv fun hnil => absurd hnil hrest.ne_nil) ih

theorem Json.reader_extends (depth : Nat) : (Json.reader depth).Extends := by
  induction depth with
  | zero =>
    refine ⟨fun {s t r} x h hr => ?_⟩
    refine Json.reader_eq_ok_iff.mpr ?_
    cases Json.reader_eq_ok_iff.mp h with
    | scalar hf ho => exact .scalar (readFound_append x hf hr) ho
  | succ depth ih =>
    refine ⟨fun {s t r} x h hr => ?_⟩
    refine Json.reader_eq_ok_iff.mpr ?_
    cases Json.reader_eq_ok_iff.mp h with
    | scalar hf ho => exact .scalar (readFound_append x hf hr) ho
    | array hf hi =>
      obtain ⟨hf', htail⟩ := readFound_append_of_opening x hf rfl
      exact .array hf' (htail ▸ hi.append x ih)
    | object hf hm =>
      obtain ⟨hf', htail⟩ := readFound_append_of_opening x hf rfl
      exact .object hf' (htail ▸ hm.append ih x)

/-! ## 3. Codecs -/

namespace Codec

variable {α : Type} {c : Codec α}

/-- The codec's reader extends, at any depth. -/
structure Extends (c : Codec α) : Prop where
  read : ∀ depth, (c.read depth).Extends

/-- The codec's reader closes, at any depth. -/
structure Closes (c : Codec α) : Prop where
  read : ∀ depth, (c.read depth).Closes

theorem Closes.extends (h : c.Closes) : c.Extends := ⟨fun depth => (h.read depth).extends⟩

/-- The reader takes what `f` accepts of the front of a value. -/
def ReadsScalar (p : Reader α) (f : Found → Except Reason α) : Prop :=
  ∀ s, p.run s = match readFound s with
    | .error e => .error e
    | .ok (found, r) => match f found with
      | .ok a => .ok (a, r)
      | .error reason => .error (.here reason r)

theorem ReadsScalar.extends {p : Reader α} {f : Found → Except Reason α} (hp : ReadsScalar p f) :
    p.Extends := by
  refine ⟨fun {s a r} x h hr => ?_⟩
  rw [hp] at h ⊢
  split at h
  · cases h
  · rename_i hf
    split at h
    · rename_i ha
      cases h
      simp only [readFound_append x hf hr, ha]
    · cases h

theorem ReadsScalar.skipBlanks_ne_nil {p : Reader α} {f : Found → Except Reason α}
    (hp : ReadsScalar p f) {s r : List Char} {a : α} (h : p.run s = .ok (a, r)) :
    skipBlanks s ≠ [] := by
  rw [hp] at h
  split at h
  · cases h
  · rename_i hf
    obtain ⟨l, hl, -⟩ := readFound_eq_ok_iff.mp hf
    exact hl.ne_nil

theorem Extends.text : Codec.text.Extends := ⟨fun _ => ReadsScalar.extends fun _ => rfl⟩

theorem Extends.flag : Codec.flag.Extends := ⟨fun _ => ReadsScalar.extends fun _ => rfl⟩

theorem Extends.natural64 : Codec.natural64.Extends := ⟨fun _ => ReadsScalar.extends fun _ => rfl⟩

theorem Extends.float64 : Codec.float64.Extends := ⟨fun _ => ReadsScalar.extends fun _ => rfl⟩

theorem Extends.free : Codec.free.Extends := ⟨fun depth => (Json.reader_extends depth).map _⟩

theorem Extends.nullable {f : Found → Except Reason α}
    (hc : ∀ depth, ReadsScalar (c.read depth) f) : c.nullable.Extends := by
  refine ⟨fun depth => ⟨fun {s a r} x hrun hr => ?_⟩⟩
  simp only [Codec.nullable, nullableReader] at hrun ⊢
  split at hrun
  · rename_i s' hs
    rw [skipBlanks_append x (by simp [hs]), hs]
    split at hrun
    · cases hrun
    · rename_i hw
      cases hrun
      simp only [List.cons_append, readWord_append x hw]
  · rename_i hne
    split at hrun
    · cases hrun
    · rename_i ha
      cases hrun
      have hblank := (hc depth).skipBlanks_ne_nil ha
      rw [skipBlanks_append x hblank]
      split
      · rename_i s' hs
        obtain ⟨d, s₀, hs₀⟩ := List.exists_cons_of_ne_nil hblank
        rw [hs₀, List.cons_append] at hs
        obtain ⟨rfl, -⟩ := List.cons.inj hs
        exact absurd hs₀ (hne _)
      · simp only [(hc depth).extends.append x ha hr]

theorem Closes.list (h : c.Extends) : c.list.Closes := by
  refine ⟨fun depth => ⟨fun {s a r} x hrun => ?_⟩⟩
  simp only [Codec.list, listReader] at hrun ⊢
  split at hrun
  · cases hrun
  · rename_i r₁ hf
    obtain ⟨hf', htail⟩ := readFound_append_of_opening x hf rfl
    simp only [hf', htail]
    split at hrun
    · cases hrun
    · exact items_eq_ok_iff.mpr ((items_eq_ok_iff.mp hrun).append x (h.read _))
  · cases hrun

end Codec

/-! ## 4. Records -/

namespace Fields

variable {ρ σ : Type} {fs : Fields ρ σ} {depth : Nat}

theorem visit_extends (hfs : fs.Every (·.codec.Extends)) (st : σ) (key : String) :
    (fs.visit depth st key).Extends := by
  induction fs with
  | nil => exact (extends_value skipping_extends).map _
  | cons field rest ih =>
    obtain ⟨slot, more⟩ := st
    simp only [visit]
    split
    · cases slot with
      | some a => exact ⟨fun x h _ => by cases h⟩
      | none => exact (extends_value (hfs.1.read depth)).map _
    · exact (ih hfs.2 more).map _

theorem readItems_append {name : String} {total index : Nat} {s r : List Char} {values : ρ}
    (x : List Char) (hfs : fs.Every (·.codec.Extends))
    (h : fs.readItems name total depth index s = .ok (values, r)) :
    fs.readItems name total depth index (s ++ x) = .ok (values, r ++ x) := by
  induction fs generalizing index s with
  | nil =>
    simp only [readItems] at h ⊢
    split at h
    · cases h
    · rename_i he
      cases h
      simp only [endOfItems_append x he]
  | cons field rest ih =>
    simp only [readItems] at h ⊢
    split at h
    · cases h
    · rename_i r' hn
      simp only [nextItem_append x hn, Next.append]
      split at h
      · cases h
      · cases h
        rfl
    · rename_i r' hn
      simp only [nextItem_append x hn, Next.append]
      split at h
      · cases h
      · rename_i a r'' hc
        split at h
        · cases h
        · rename_i hrest
          cases h
          -- A bracket stands behind the last item.
          have hne : r'' ≠ [] := List.ne_nil_of_length_pos (by
            have := length_of_readItems hrest
            omega)
          have hc' := (hfs.1.read depth).append x hc fun hnil => absurd hnil hne
          simp only [hc', ih hfs.2 hrest]

end Fields

theorem Codec.Closes.record {ρ σ : Type} (name : String) {fs : Fields ρ σ}
    (hfs : fs.Every (·.codec.Extends)) : (Codec.record name fs).Closes := by
  refine ⟨fun depth => ⟨fun {s a r} x hrun => ?_⟩⟩
  simp only [Codec.record, recordReader] at hrun ⊢
  split at hrun
  · cases hrun
  · rename_i r₁ hf
    obtain ⟨hf', htail⟩ := readFound_append_of_opening x hf rfl
    simp only [hf', htail]
    split at hrun
    · cases hrun
    · split at hrun
      · cases hrun
      · rename_i hm
        have hm' := members_eq_ok_iff.mpr
          ((members_eq_ok_iff.mp hm).append x (Fields.visit_extends hfs))
        simp only [hm']
        split at hrun
        · cases hrun
        · cases hrun
          rfl
  · rename_i r₁ hf
    obtain ⟨hf', htail⟩ := readFound_append_of_opening x hf rfl
    simp only [hf', htail]
    split at hrun
    · cases hrun
    · exact Fields.readItems_append x hfs hrun
  · cases hrun

/-- The same for a type whose values are records in another shape. -/
theorem Codec.Closes.ofRecord {α ρ σ : Type} {name : String} {fs : Fields ρ σ} {into : ρ → α}
    {out : α → ρ} (hfs : fs.Every (·.codec.Extends)) :
    ((Codec.record name fs).reshape into out).Closes :=
  ⟨fun depth => ((Codec.Closes.record name hfs).read depth).map into⟩

/-! ## 5. Bodies -/

theorem ContextUsage.codec_closes : ContextUsage.codec.Closes :=
  .ofRecord ⟨.natural64, .natural64, .natural64, .natural64, .natural64, .float64,
    .nullable fun _ _ => rfl, .nullable fun _ _ => rfl, trivial⟩

theorem FileEntry.codec_closes : FileEntry.codec.Closes :=
  .ofRecord ⟨.text, .text, .text, .natural64, trivial⟩

/-- Bodies of all types but the statistics, which may be a number, end with a bracket. -/
theorem WireType.codec_closes : (T : WireType) → T ≠ .indexStats → T.codec.Closes
  | chatRequest, _ => .ofRecord ⟨.text, .flag, trivial⟩
  | debugRequest, _ => .ofRecord ⟨.text, .text, .nullable fun _ _ => rfl, trivial⟩
  | planRequest, _ => .ofRecord ⟨.text, .nullable fun _ _ => rfl, trivial⟩
  | indexRequest, _ => .ofRecord ⟨.text, trivial⟩
  | contextUsage, _ => ContextUsage.codec_closes
  | chatResponse, _ => .ofRecord ⟨.text, ContextUsage.codec_closes.extends, trivial⟩
  | debugResponse, _ => .ofRecord ⟨.text, .text, ContextUsage.codec_closes.extends, trivial⟩
  | planResponse, _ => .ofRecord ⟨.text, ContextUsage.codec_closes.extends, trivial⟩
  | fileEntry, _ => FileEntry.codec_closes
  | fileListing, _ =>
    .ofRecord ⟨(Codec.Closes.list FileEntry.codec_closes.extends).extends,
      .nullable fun _ _ => rfl, trivial⟩
  | fileContent, _ => .ofRecord ⟨.text, .text, .natural64, trivial⟩
  | indexTriggerResponse, _ => .ofRecord ⟨.text, .free, trivial⟩
  | indexStats, h => absurd rfl h
  | healthStatus, _ => .ofRecord ⟨.text, .free, trivial⟩

/-- **A body that was cut off is not decoded.**  If a body of a record type is decoded, no part of
it that lacks more than blanks at the end is. -/
theorem decode_of_cut (T : WireType) (hT : T ≠ .indexStats) (body : String) (v : T.Value)
    (cut lost : List Char) (hbody : T.codec.decode body = .ok v)
    (hcut : body.toList = cut ++ lost) (hlost : ∃ c ∈ lost, isJsonBlank c = false) :
    ∃ e, T.codec.decode (String.ofList cut) = .error e := by
  cases hdecode : T.codec.decode (String.ofList cut) with
  | error e => exact ⟨e, rfl⟩
  | ok w =>
    obtain ⟨r, hrun, -⟩ := readWhole_eq_ok_iff.mp hdecode
    obtain ⟨r', hrun', hblank⟩ := readWhole_eq_ok_iff.mp hbody
    -- The reader stops in the whole body where it stops in the part.
    rw [String.toList_ofList] at hrun
    have hlonger := ((T.codec_closes hT).read maxDepth).append lost hrun
    rw [← hcut, hrun'] at hlonger
    obtain ⟨-, rfl⟩ := Prod.mk.inj (Except.ok.inj hlonger)
    obtain ⟨c, hc, hnot⟩ := hlost
    have := skipBlanks_eq_nil_iff.mp hblank c (List.mem_append_right r hc)
    rw [hnot] at this
    cases this

/-- A file's content without the closing brace is no file's content. -/
theorem decode_of_cut_fileContent :
    let body := "\x7b\"path\":\"a\",\"content\":\"b\"\x7d\n"
    FileContent.codec.decode body = .ok ⟨"a", "b", 0⟩ ∧
      ∃ e, FileContent.codec.decode (String.ofList (body.toList.take 25)) = .error e := by
  intro body
  have hbody : FileContent.codec.decode body = .ok ⟨"a", "b", 0⟩ := by decide +kernel
  exact ⟨hbody, decode_of_cut .fileContent (by decide) body _ _ (body.toList.drop 25) hbody
    (List.take_append_drop 25 _).symm ⟨'\x7d', by decide, by decide⟩⟩

end CodeAssistant
