/-
# Separators that stand alone

The fields of a command are separated by two colons that stand alone: in front of them is a blank or
the start of the text, behind them a blank or the end.  `HasSeparator` says that a text holds such a
pair.  It speaks of all places of the text, while the cutting goes over the text once and passes
over two colons at a time.

Nothing is missed by that (`splitFrom_cons`): behind a colon no separator begins, so colons may as
well be passed over one by one.  With this the cutting obeys two laws, from which all else about
fields follows:

* `splitFields_separator`: a separator behind a field that holds none is a cut, and what is behind
  it is cut on its own;
* `splitFields_of_undivided`: a text that holds none is one field.
-/
import CodeAssistant.Proofs.Admission
import CodeAssistant.Shell.Command

namespace CodeAssistant

/-! ## 1. Blanks around a text -/

namespace Text

theorem trimStartList_append {front cs : List Char} (h : ∀ c ∈ front, isBlankChar c = true) :
    trimStartList (front ++ cs) = trimStartList cs :=
  List.dropWhile_append_of_pos h

theorem trimEndList_append {cs back : List Char} (h : ∀ c ∈ back, isBlankChar c = true) :
    trimEndList (cs ++ back) = trimEndList cs := by
  rw [trimEndList, List.reverse_append,
    List.dropWhile_append_of_pos fun c hc => h c (List.mem_reverse.mp hc), trimEndList]

/-- Blanks around a list of characters are trimmed with the rest. -/
theorem trimList_surround {front cs back : List Char} (hfront : ∀ c ∈ front, isBlankChar c = true)
    (hback : ∀ c ∈ back, isBlankChar c = true) : trimList (front ++ cs ++ back) = trimList cs := by
  rw [trimList, trimList, List.append_assoc, trimStartList_append hfront, trimStartList,
    trimStartList, List.dropWhile_append]
  split
  · rename_i h
    -- the text itself is blank, so nothing is left on either side
    rw [List.isEmpty_iff.mp h, List.dropWhile_eq_nil_iff.mpr hback]
  · exact trimEndList_append hback

theorem trimList_cons_blank {w : Char} (hw : isBlankChar w = true) (cs : List Char) :
    trimList (w :: cs) = trimList cs := by
  have h : trimList ([w] ++ cs ++ []) = trimList cs :=
    trimList_surround (by simpa using hw) (by simp)
  simpa using h

end Text

namespace Shell

open Text (isBlankChar trimList)

/-! ## 2. Separators -/

/-- Two colons between the texts stand alone. -/
def StandsAlone (before after : List Char) : Prop :=
  (∀ c ∈ before.getLast?, isBlankChar c = true) ∧ ∀ c ∈ after.head?, isBlankChar c = true

/-- Somewhere in the text two colons stand alone. -/
def HasSeparator (text : List Char) : Prop :=
  ∃ before after, text = before ++ ':' :: ':' :: after ∧ StandsAlone before after

/-- The text starts with two colons that stand alone if a blank is in front of it. -/
def opensSeparator : List Char → Bool
  | ':' :: ':' :: rest => startsBlank rest
  | _ => false

/-- In the text two colons stand alone.  The flag says whether a blank or the start is in front of
the text. -/
def isDivided (blankBefore : Bool) : List Char → Bool
  | [] => false
  | c :: rest => (blankBefore && opensSeparator (c :: rest)) || isDivided (isBlankChar c) rest

theorem startsBlank_iff {text : List Char} :
    startsBlank text = true ↔ ∀ c ∈ text.head?, isBlankChar c = true := by
  cases text <;> simp [startsBlank]

theorem opensSeparator_iff {text : List Char} :
    opensSeparator text = true ↔
      ∃ after, text = ':' :: ':' :: after ∧ ∀ c ∈ after.head?, isBlankChar c = true := by
  unfold opensSeparator
  split
  · simp [startsBlank_iff]
  · rename_i h
    constructor
    · intro hf
      cases hf
    · rintro ⟨after, rfl, -⟩
      exact absurd rfl (h after)

theorem isDivided_iff {blankBefore : Bool} {text : List Char} :
    isDivided blankBefore text = true ↔
      ∃ before after, text = before ++ ':' :: ':' :: after ∧
        ((before.getLast?.map isBlankChar).getD blankBefore = true) ∧
        ∀ c ∈ after.head?, isBlankChar c = true := by
  induction text generalizing blankBefore with
  | nil => simp [isDivided]
  | cons c rest ih =>
    rw [isDivided, Bool.or_eq_true, Bool.and_eq_true, opensSeparator_iff, ih]
    constructor
    · rintro (⟨hb, after, heq, hafter⟩ | ⟨before, after, rfl, hbefore, hafter⟩)
      · exact ⟨[], after, heq, hb, hafter⟩
      · refine ⟨c :: before, after, rfl, ?_, hafter⟩
        cases before <;> simpa [List.getLast?_cons] using hbefore
    · rintro ⟨before, after, heq, hbefore, hafter⟩
      cases before with
      | nil => exact Or.inl ⟨hbefore, after, heq, hafter⟩
      | cons d before =>
        obtain ⟨rfl, rfl⟩ := List.cons.inj heq
        refine Or.inr ⟨before, after, rfl, ?_, hafter⟩
        cases before <;> simpa [List.getLast?_cons] using hbefore

theorem hasSeparator_iff {text : List Char} : HasSeparator text ↔ isDivided true text = true := by
  rw [isDivided_iff]
  refine exists_congr fun before => exists_congr fun after => and_congr_right fun _ => ?_
  refine and_congr_left fun _ => ?_
  cases before.getLast? <;> simp

instance (text : List Char) : Decidable (HasSeparator text) :=
  decidable_of_iff _ hasSeparator_iff.symm

/-! ## 3. One character at a time -/

theorem isBlankChar_colon : isBlankChar ':' = false := by decide

theorem ne_colon_of_blank {w : Char} (hw : isBlankChar w = true) : w ≠ ':' := by
  rintro rfl
  exact absurd hw (by decide)

theorem opensSeparator_cons_blank {w : Char} (hw : isBlankChar w = true) (rest : List Char) :
    opensSeparator (w :: rest) = false := by
  simp [opensSeparator, ne_colon_of_blank hw]

/-- A blank behind a text is as good as its end. -/
theorem opensSeparator_append_blank {w : Char} (hw : isBlankChar w = true) (rest : List Char) :
    ∀ text, opensSeparator (text ++ w :: rest) = opensSeparator text
  | [] => opensSeparator_cons_blank hw rest
  | [c] => by by_cases hc : c = ':' <;> simp [opensSeparator, hc, ne_colon_of_blank hw]
  | c :: d :: text => by
    by_cases hc : c = ':'
    · by_cases hd : d = ':'
      · subst hc hd
        cases text <;> simp [opensSeparator, startsBlank, hw]
      · simp [opensSeparator, hd]
    · simp [opensSeparator, hc]

/-- Behind a colon no separator begins, so colons are passed over one by one. -/
theorem splitFrom_colon (cuts : Nat) : ∀ field rest : List Char,
    splitFrom (cuts + 1) field false (':' :: rest) = splitFrom (cuts + 1) (':' :: field) false rest
  | _, [] => rfl
  | field, c :: rest => by
    by_cases hc : c = ':'
    · subst hc
      rw [splitFrom_colon cuts (':' :: field) rest]
      simp [splitFrom]
    · simp [splitFrom, hc, isBlankChar_colon]

/-- **Nothing is missed**: a character that no separator begins with joins the field. -/
theorem splitFrom_cons (cuts : Nat) {field rest : List Char} {blankBefore : Bool} {c : Char}
    (h : (blankBefore && opensSeparator (c :: rest)) = false) :
    splitFrom (cuts + 1) field blankBefore (c :: rest) =
      splitFrom (cuts + 1) (c :: field) (isBlankChar c) rest := by
  unfold opensSeparator at h
  split at h
  · rename_i rest' heq
    obtain ⟨rfl, rfl⟩ := List.cons.inj heq
    rw [splitFrom, if_neg (by simp [h])]
    exact (splitFrom_colon cuts (':' :: field) rest').symm
  · rename_i hne
    rw [splitFrom]
    rintro rest' rfl rfl
    exact hne rest' rfl

theorem not_opens_of_undivided {blankBefore : Bool} {c : Char} {rest : List Char}
    (h : isDivided blankBefore (c :: rest) = false) :
    (blankBefore && opensSeparator (c :: rest)) = false ∧
      isDivided (isBlankChar c) rest = false := by
  simpa [isDivided] using h

/-- A text that holds no separator is one piece. -/
theorem splitFrom_of_undivided : ∀ (cuts : Nat) {field text : List Char} {blankBefore : Bool},
    isDivided blankBefore text = false →
      splitFrom cuts field blankBefore text = [field.reverse ++ text]
  | 0, _, _, _, _ => by simp [splitFrom]
  | cuts + 1, _, [], _, _ => by simp [splitFrom]
  | cuts + 1, field, c :: rest, _, h => by
    obtain ⟨hopens, hrest⟩ := not_opens_of_undivided h
    rw [splitFrom_cons cuts hopens, splitFrom_of_undivided (cuts + 1) hrest]
    simp

/-- A text that holds no separator is passed over, with the blank behind it. -/
theorem splitFrom_append_blank (cuts : Nat) {w : Char} (hw : isBlankChar w = true)
    {rest : List Char} : ∀ {field text : List Char} {blankBefore : Bool},
    isDivided blankBefore text = false →
      splitFrom (cuts + 1) field blankBefore (text ++ w :: rest) =
        splitFrom (cuts + 1) (w :: (text.reverse ++ field)) true rest
  | field, [], _, _ => by
    rw [List.nil_append, splitFrom_cons cuts (by simp [opensSeparator_cons_blank hw]), hw]
    rfl
  | field, c :: text, blankBefore, h => by
    obtain ⟨hopens, hrest⟩ := not_opens_of_undivided h
    rw [← opensSeparator_append_blank hw rest (c :: text), List.cons_append] at hopens
    rw [List.cons_append, splitFrom_cons cuts hopens, splitFrom_append_blank cuts hw hrest]
    simp

/-- A separator is a cut. -/
theorem splitFrom_separator (cuts : Nat) (field : List Char) {rest : List Char}
    (h : startsBlank rest = true) :
    splitFrom (cuts + 1) field true (':' :: ':' :: rest) =
      field.reverse :: splitFrom cuts [] false rest := by
  simp [splitFrom, h]

/-- The field so far is the beginning of the first piece. -/
theorem splitFrom_field : ∀ (cuts : Nat) (field : List Char) (blankBefore : Bool)
    (text : List Char),
    splitFrom cuts field blankBefore text =
      (splitFrom cuts [] blankBefore text).modifyHead (field.reverse ++ ·)
  | 0, _, _, _ => by simp [splitFrom]
  | cuts + 1, _, _, [] => by simp [splitFrom]
  | cuts + 1, field, blankBefore, c :: rest => by
    by_cases h : (blankBefore && opensSeparator (c :: rest)) = true
    · rw [Bool.and_eq_true, opensSeparator_iff] at h
      obtain ⟨rfl, rest', heq, hrest⟩ := h
      rw [heq, splitFrom_separator cuts field (startsBlank_iff.mpr hrest),
        splitFrom_separator cuts [] (startsBlank_iff.mpr hrest)]
      simp
    · rw [Bool.not_eq_true] at h
      rw [splitFrom_cons cuts h, splitFrom_cons cuts h, splitFrom_field (cuts + 1) (c :: field),
        splitFrom_field (cuts + 1) [c], List.modifyHead_modifyHead]
      congr 1
      funext piece
      simp

/-! ## 4. Fields -/

/-- A piece of a text as a field. -/
abbrev fieldOf (piece : List Char) : String := String.ofList (trimList piece)

theorem splitFields_eq (limit : Nat) (text : List Char) :
    splitFields (limit + 1) text = (splitFrom limit [] true text).map fieldOf := rfl

theorem splitFields_one (text : List Char) : splitFields 1 text = [fieldOf text] := by
  simp [splitFields, splitFrom]

/-- A text that holds no separator is one field. -/
theorem splitFields_of_undivided {text : List Char} (h : ¬ HasSeparator text) (limit : Nat) :
    splitFields limit text = [fieldOf text] := by
  rw [hasSeparator_iff, Bool.not_eq_true] at h
  rw [splitFields, splitFrom_of_undivided _ h]
  rfl

theorem fieldOf_cons_blank {w : Char} (hw : isBlankChar w = true) (piece : List Char) :
    fieldOf (w :: piece) = fieldOf piece :=
  congrArg String.ofList (Text.trimList_cons_blank hw piece)

/-- A blank in front of a text is in no field. -/
theorem map_fieldOf_splitFrom_cons_blank {w : Char} (hw : isBlankChar w = true) (cuts : Nat)
    (blankBefore : Bool) (text : List Char) :
    (splitFrom cuts [] blankBefore (w :: text)).map fieldOf =
      splitFields (cuts + 1) text := by
  rw [splitFields_eq]
  cases cuts with
  | zero => simp [splitFrom, fieldOf_cons_blank hw]
  | succ cuts =>
    rw [splitFrom_cons cuts (by simp [opensSeparator_cons_blank hw]), hw, splitFrom_field]
    cases splitFrom (cuts + 1) [] true text with
    | nil => rfl
    | cons piece pieces => simp [fieldOf_cons_blank hw]

/-- **A separator behind a field that holds none is a cut**, and what is behind it is cut on its
own. -/
theorem splitFields_separator {field : List Char} (h : ¬ HasSeparator field) (limit : Nat)
    {w w' : Char} (hw : isBlankChar w = true) (hw' : isBlankChar w' = true) (rest : List Char) :
    splitFields (limit + 2) (field ++ w :: ':' :: ':' :: w' :: rest) =
      fieldOf field :: splitFields (limit + 1) rest := by
  rw [hasSeparator_iff, Bool.not_eq_true] at h
  rw [splitFields_eq, splitFrom_append_blank limit hw h,
    splitFrom_separator limit _ (by simpa [startsBlank] using hw'), List.map_cons,
    map_fieldOf_splitFrom_cons_blank hw']
  have htrim : trimList ([] ++ field ++ [w]) = trimList field :=
    Text.trimList_surround (by simp) (by simpa using hw)
  simpa using congrArg String.ofList htrim

end Shell

end CodeAssistant
