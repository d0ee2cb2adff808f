/-
# Where a text is cut

A limit on the fields leaves room for one cut fewer.  A text is cut at the first separators in it,
as many as there is room for, and nowhere else.  `separators` lists the places of all separators: it
looks at every place of the text by itself, and knows nothing of a limit or of what has been passed
over.  `piecesAt` is what stands between places, whatever they are.

Both fall apart at a separator.  One that is in front of it or behind it is a separator of the text
there by itself (`separators_around`): two of them have no colon in common, and a blank between them
serves both.  The pieces are those in front of it and those behind it (`piecesAt_around`).  The
cutting falls apart in the same way at the first separator (`splitFrom_around`), with one cut fewer
for what is behind, so induction on the number of cuts tells where they are.

Main statement: `fields_between_cuts`.
-/
import CodeAssistant.Proofs.Offsets

namespace CodeAssistant

namespace Text

/-- What trimming takes away is blank, and stands around what it leaves. -/
theorem exists_surround (cs : List Char) : ∃ front back : List Char,
    (∀ c ∈ front, isBlankChar c = true) ∧ (∀ c ∈ back, isBlankChar c = true) ∧
      cs = front ++ trimList cs ++ back := by
  have hend : trimList cs ++ ((trimStartList cs).reverse.takeWhile isBlankChar).reverse =
      trimStartList cs := by
    rw [trimList, trimEndList, ← List.reverse_append, List.takeWhile_append_dropWhile,
      List.reverse_reverse]
  refine ⟨cs.takeWhile isBlankChar, ((trimStartList cs).reverse.takeWhile isBlankChar).reverse,
    fun c hc => List.mem_takeWhile_imp hc,
    fun c hc => List.mem_takeWhile_imp (List.mem_reverse.mp hc), ?_⟩
  rw [List.append_assoc, hend, trimStartList, List.takeWhile_append_dropWhile]

end Text

namespace Shell

open Text (isBlankChar trimList)

/-! ## 1. The places of separators -/

/-- At this place of the text, counted in characters, two colons stand alone. -/
def StandsAt (text : List Char) (place : Nat) : Prop :=
  ∃ before after, text = before ++ ':' :: ':' :: after ∧ before.length = place ∧
    StandsAlone before after

/-- The same, read off the two parts of the text at this place. -/
def standsAt (text : List Char) (place : Nat) : Bool :=
  (text.take place).getLast?.all isBlankChar && opensSeparator (text.drop place)

theorem standsAt_iff {text : List Char} {place : Nat} :
    standsAt text place = true ↔ StandsAt text place := by
  rw [standsAt, Bool.and_eq_true, opensSeparator_iff, Option.all_eq_true]
  constructor
  · rintro ⟨hbefore, after, hdrop, hafter⟩
    have hplace : place < text.length := by
      by_contra h
      simp [List.drop_of_length_le (Nat.le_of_not_lt h)] at hdrop
    refine ⟨text.take place, after, ?_, List.length_take_of_le (Nat.le_of_lt hplace), hbefore,
      hafter⟩
    rw [← hdrop, List.take_append_drop]
  · rintro ⟨before, after, rfl, rfl, hbefore, hafter⟩
    rw [List.take_left, List.drop_left]
    exact ⟨hbefore, after, rfl, hafter⟩

instance (text : List Char) (place : Nat) : Decidable (StandsAt text place) :=
  decidable_of_iff _ standsAt_iff

/-- The places of all separators, from left to right. -/
def separators (text : List Char) : List Nat :=
  (List.range text.length).filter fun place => StandsAt text place

theorem separators_eq (text : List Char) :
    separators text = (List.range text.length).filter (standsAt text) :=
  List.filter_congr fun place _ => by rw [Bool.eq_iff_iff, decide_eq_true_iff, standsAt_iff]

/-- No separator is missing from the list, and nothing else is in it. -/
theorem mem_separators_iff {text : List Char} {place : Nat} :
    place ∈ separators text ↔ StandsAt text place := by
  simp only [separators, List.mem_filter, List.mem_range, decide_eq_true_eq, and_iff_right_iff_imp]
  rintro ⟨before, after, rfl, rfl, -⟩
  simp

theorem separators_eq_nil_iff {text : List Char} : separators text = [] ↔ ¬ HasSeparator text := by
  rw [List.eq_nil_iff_forall_not_mem]
  constructor
  · rintro h ⟨before, after, htext, halone⟩
    exact h before.length (mem_separators_iff.mpr ⟨before, after, htext, rfl, halone⟩)
  · intro h place hplace
    obtain ⟨before, after, htext, -, halone⟩ := mem_separators_iff.mp hplace
    exact h ⟨before, after, htext, halone⟩

/-- A blank keeps the separators in front of it and those behind it apart. -/
theorem separators_append_blank {w : Char} (hw : isBlankChar w = true) (front rest : List Char) :
    separators (front ++ w :: rest) =
      separators front ++ (separators rest).map (· + (front.length + 1)) := by
  have hfront : ∀ place ∈ List.range front.length,
      standsAt (front ++ w :: rest) place = standsAt front place := by
    intro place hplace
    have hle : place ≤ front.length := Nat.le_of_lt (List.mem_range.mp hplace)
    rw [standsAt, standsAt, List.take_append_of_le_length hle, List.drop_append_of_le_length hle,
      opensSeparator_append_blank hw]
  have hblank : standsAt (front ++ w :: rest) front.length = false := by
    rw [standsAt, List.drop_left, opensSeparator_cons_blank hw, Bool.and_false]
  have hrest : standsAt (front ++ w :: rest) ∘ (front.length + 1 + ·) = standsAt rest := by
    funext place
    rw [Function.comp_apply, standsAt, standsAt, Nat.add_assoc, List.take_length_add_append,
      List.drop_length_add_append, Nat.add_comm 1, List.take_succ_cons, List.drop_succ_cons,
      List.getLast?_append, List.getLast?_cons]
    cases (rest.take place).getLast? <;> simp [hw]
  have hlength : (front ++ w :: rest).length = front.length + 1 + rest.length := by
    simp only [List.length_append, List.length_cons]
    omega
  rw [separators_eq, separators_eq, separators_eq, hlength, List.range_add, List.range_succ,
    List.filter_append, List.filter_append, List.filter_congr hfront,
    List.filter_cons_of_neg (by simp [hblank]), List.filter_nil, List.append_nil, List.filter_map,
    hrest]
  simp only [Nat.add_comm]

theorem separators_cons_blank {w : Char} (hw : isBlankChar w = true) (rest : List Char) :
    separators (w :: rest) = (separators rest).map (· + 1) :=
  separators_append_blank hw [] rest

theorem separators_concat_blank {w : Char} (hw : isBlankChar w = true) (front : List Char) :
    separators (front ++ [w]) = separators front := by
  rw [separators_append_blank hw front []]
  exact List.append_nil _

theorem separators_opened {rest : List Char} (h : startsBlank rest = true) :
    separators (':' :: ':' :: rest) = 0 :: (separators rest).map (· + 2) := by
  cases rest with
  | nil => decide
  | cons w rest =>
    have hcolons : separators [':', ':'] = [0] := by decide
    have hjoin : ':' :: ':' :: w :: rest = [':', ':'] ++ w :: rest := rfl
    rw [hjoin, separators_append_blank h, separators_cons_blank h, hcolons, List.map_map]
    rfl

/-- **A separator keeps the texts around it apart**: there are those of the first text, this one,
and those of the second. -/
theorem separators_around {before after : List Char} (h : StandsAlone before after) :
    separators (before ++ ':' :: ':' :: after) =
      separators before ++ before.length :: (separators after).map (· + (before.length + 2)) := by
  have hopened := separators_opened (startsBlank_iff.mpr h.2)
  rcases List.eq_nil_or_concat' before with rfl | ⟨front, w, rfl⟩
  · exact hopened
  · have hw : isBlankChar w = true := h.1 w (by simp)
    have hshift : ∀ place, place + 2 + (front.length + 1) = place + (front.length + 1 + 2) := by
      omega
    rw [List.append_assoc, List.singleton_append, separators_append_blank hw,
      separators_concat_blank hw, hopened, List.map_cons, List.map_map]
    simp [Function.comp_def, hshift]

/-- A text that holds a separator holds a first one. -/
theorem exists_first_separator {text : List Char} (h : HasSeparator text) :
    ∃ field rest, text = field ++ ':' :: ':' :: rest ∧ StandsAlone field rest ∧
      ¬ HasSeparator field := by
  obtain ⟨before, after, htext, halone⟩ := h
  by_cases hearlier : HasSeparator before
  · have hshorter : before.length < text.length := by
      simp only [htext, List.length_append, List.length_cons]
      omega
    obtain ⟨field, between, rfl, ⟨hfield, hbetween⟩, hfirst⟩ := exists_first_separator hearlier
    refine ⟨field, between ++ ':' :: ':' :: after, by simp [htext], ⟨hfield, ?_⟩, hfirst⟩
    cases between with
    | nil => exact absurd (halone.1 ':' (by simp)) (by simp [isBlankChar_colon])
    | cons c between => simpa using hbetween
  · exact ⟨before, after, htext, halone, hearlier⟩
termination_by text.length

/-! ## 2. The text between places -/

/-- The pieces of a text from `start` on, between one of these places and the next.  The two
characters at each place are left out. -/
def piecesAt (text : List Char) : Nat → List Nat → List (List Char)
  | start, [] => [text.drop start]
  | start, place :: places =>
    (text.drop start).take (place - start) :: piecesAt text (place + 2) places

theorem length_piecesAt (text : List Char) : ∀ (start : Nat) (places : List Nat),
    (piecesAt text start places).length = places.length + 1
  | _, [] => rfl
  | _, _ :: places => by rw [piecesAt, List.length_cons, length_piecesAt, List.length_cons]

/-- What is in front of the start and of all places is in no piece. -/
theorem piecesAt_append (front text : List Char) : ∀ (start : Nat) (places : List Nat),
    piecesAt (front ++ text) (front.length + start) (places.map (· + front.length)) =
      piecesAt text start places
  | start, [] => by rw [List.map_nil, piecesAt, piecesAt, List.drop_length_add_append]
  | start, place :: places => by
    have hwidth : place + front.length - (front.length + start) = place - start := by omega
    have hnext : place + front.length + 2 = front.length + (place + 2) := by omega
    rw [List.map_cons, piecesAt, piecesAt, List.drop_length_add_append, hwidth, hnext,
      piecesAt_append front text]

theorem piecesAt_around (before after : List Char) (places : List Nat) :
    piecesAt (before ++ ':' :: ':' :: after) 0
        (before.length :: places.map (· + (before.length + 2))) =
      before :: piecesAt after 0 places := by
  have hjoin : before ++ ':' :: ':' :: after = before ++ [':', ':'] ++ after := by simp
  have hlength : (before ++ [':', ':']).length = before.length + 2 := by simp
  have hbehind := piecesAt_append (before ++ [':', ':']) after 0 places
  rw [hlength, ← hjoin, Nat.add_zero] at hbehind
  rw [piecesAt, hbehind, List.drop_zero, Nat.sub_zero, List.take_left]

/-! ## 3. The cuts -/

/-- What is in front of a text makes no difference if it starts with a blank, or is at its end. -/
theorem splitFrom_of_startsBlank {rest : List Char} (h : startsBlank rest = true) (cuts : Nat)
    (field : List Char) (blankBefore : Bool) :
    splitFrom cuts field blankBefore rest = splitFrom cuts field true rest := by
  cases cuts with
  | zero => simp only [splitFrom]
  | succ cuts =>
    cases rest with
    | nil => simp only [splitFrom]
    | cons w rest =>
      have hopens : opensSeparator (w :: rest) = false := opensSeparator_cons_blank h rest
      rw [splitFrom_cons cuts (by simp [hopens]), splitFrom_cons cuts (by simp [hopens])]

/-- The first separator is a cut, and what is behind it is cut by itself. -/
theorem splitFrom_around {field rest : List Char} (h : StandsAlone field rest)
    (hfield : ¬ HasSeparator field) (cuts : Nat) :
    splitFrom (cuts + 1) [] true (field ++ ':' :: ':' :: rest) =
      field :: splitFrom cuts [] true rest := by
  have hrest : startsBlank rest = true := startsBlank_iff.mpr h.2
  rcases List.eq_nil_or_concat' field with rfl | ⟨front, w, rfl⟩
  · rw [List.nil_append, splitFrom_separator cuts [] hrest, splitFrom_of_startsBlank hrest,
      List.reverse_nil]
  · have hw : isBlankChar w = true := h.1 w (by simp)
    have hfront : isDivided true front = false := by
      rwa [← separators_eq_nil_iff, separators_concat_blank hw, separators_eq_nil_iff,
        hasSeparator_iff, Bool.not_eq_true] at hfield
    rw [List.append_assoc, List.singleton_append, splitFrom_append_blank cuts hw hfront,
      splitFrom_separator cuts _ hrest, splitFrom_of_startsBlank hrest]
    simp

theorem splitFrom_whole {text : List Char} (h : ¬ HasSeparator text) (cuts : Nat) :
    splitFrom cuts [] true text = [text] := by
  rw [hasSeparator_iff, Bool.not_eq_true] at h
  rw [splitFrom_of_undivided cuts h, List.reverse_nil, List.nil_append]

/-- **The cuts are the first separators there are**, and no other place is one. -/
theorem splitFrom_eq_piecesAt (cuts : Nat) (text : List Char) :
    splitFrom cuts [] true text = piecesAt text 0 ((separators text).take cuts) := by
  induction cuts generalizing text with
  | zero => simp [splitFrom, piecesAt]
  | succ cuts ih =>
    by_cases h : HasSeparator text
    · obtain ⟨field, rest, rfl, halone, hfield⟩ := exists_first_separator h
      rw [splitFrom_around halone hfield, separators_around halone,
        separators_eq_nil_iff.mpr hfield, List.nil_append, List.take_succ_cons, ← List.map_take,
        piecesAt_around, ih]
    · rw [splitFrom_whole h, separators_eq_nil_iff.mpr h]
      rfl

theorem splitFrom_ne_nil (cuts : Nat) (field : List Char) (blankBefore : Bool)
    (text : List Char) : splitFrom cuts field blankBefore text ≠ [] := by
  fun_induction splitFrom cuts field blankBefore text <;> simp_all

/-- **Nothing is lost**: a text is its pieces, with a separator between one and the next. -/
theorem intercalate_splitFrom (cuts : Nat) (field : List Char) (blankBefore : Bool)
    (text : List Char) :
    [':', ':'].intercalate (splitFrom cuts field blankBefore text) = field.reverse ++ text := by
  fun_induction splitFrom cuts field blankBefore text with
  | case1 | case2 => simp
  | case3 cuts field _ rest _ ih =>
    obtain ⟨piece, pieces, hpieces⟩ :=
      List.exists_cons_of_ne_nil (splitFrom_ne_nil cuts [] false rest)
    rw [hpieces] at ih ⊢
    rw [List.intercalate_cons_cons, ih]
    simp
  | case4 _ _ _ _ _ ih | case5 _ _ _ _ _ _ ih => simpa using ih

/-- No piece but the last holds a separator, and the last holds all that no cut was made at. -/
theorem separators_splitFrom (cuts : Nat) (text : List Char) :
    (∀ piece ∈ (splitFrom cuts [] true text).dropLast, separators piece = []) ∧
      ∀ piece ∈ (splitFrom cuts [] true text).getLast?,
        (separators piece).length = (separators text).length - cuts := by
  induction cuts generalizing text with
  | zero => simp [splitFrom]
  | succ cuts ih =>
    by_cases h : HasSeparator text
    · obtain ⟨field, rest, rfl, halone, hfield⟩ := exists_first_separator h
      obtain ⟨hbefore, hlast⟩ := ih rest
      have hnone : separators field = [] := separators_eq_nil_iff.mpr hfield
      have hne : splitFrom cuts [] true rest ≠ [] := splitFrom_ne_nil cuts [] true rest
      rw [splitFrom_around halone hfield, separators_around halone, hnone,
        List.dropLast_cons_of_ne_nil hne, List.getLast?_cons_of_ne_nil hne]
      refine ⟨List.forall_mem_cons.mpr ⟨hnone, hbefore⟩, fun piece hpiece => ?_⟩
      rw [hlast piece hpiece]
      simp
    · rw [splitFrom_whole h, separators_eq_nil_iff.mpr h]
      simp [separators_eq_nil_iff.mpr h]

/-! ## 4. The fields -/

/-- Blanks around a text hold no separator and hide none. -/
theorem length_separators_surround {front back : List Char} (cs : List Char)
    (hfront : ∀ c ∈ front, isBlankChar c = true) (hback : ∀ c ∈ back, isBlankChar c = true) :
    (separators (front ++ cs ++ back)).length = (separators cs).length := by
  induction front with
  | nil =>
    induction back using List.reverseRecOn with
    | nil => simp
    | append_singleton back w ih =>
      rw [List.forall_mem_append] at hback
      rw [← List.append_assoc, separators_concat_blank (hback.2 w (by simp)), ih hback.1]
  | cons w front ih =>
    obtain ⟨hw, hfront⟩ := List.forall_mem_cons.mp hfront
    rw [List.cons_append, List.cons_append, separators_cons_blank hw, List.length_map, ih hfront]

theorem length_separators_trimList (cs : List Char) :
    (separators (trimList cs)).length = (separators cs).length := by
  obtain ⟨front, back, hfront, hback, hcs⟩ := Text.exists_surround cs
  conv_rhs => rw [hcs]
  exact (length_separators_surround _ hfront hback).symm

/-- **The fields of a text are the trimmed pieces between its cuts**, for any limit that leaves room
for one field.

1. The cuts are the first separators of the text, one fewer than the limit allows fields.
2. So the fields are as many as the limit, or one more than there are separators.
3. Only the separators cut at are lost between pieces, and
4. only blanks at its ends are lost from a piece.
5. No field but the last holds a separator, and the last holds all that no cut was made at.
6. Cut by the offsets of its bytes the text has the same fields: every slice taken for that begins
   and ends between two characters. -/
theorem fields_between_cuts {limit : Nat} (hlimit : 1 ≤ limit) (text : String) :
    let places := separators text.toList
    let pieces := piecesAt text.toList 0 (places.take (limit - 1))
    let fields := splitFields limit text.toList
    fields = pieces.map (fun piece => Text.trim (String.ofList piece)) ∧
    fields.length = min limit (1 + places.length) ∧
    [':', ':'].intercalate pieces = text.toList ∧
    (∀ piece ∈ pieces, ∃ front back : List Char,
      (∀ c ∈ front, isBlankChar c = true) ∧ (∀ c ∈ back, isBlankChar c = true) ∧
        piece = front ++ (Text.trim (String.ofList piece)).toList ++ back) ∧
    ((∀ field ∈ fields.dropLast, ¬ HasSeparator field.toList) ∧
      ∀ field ∈ fields.getLast?,
        (separators field.toList).length = places.length - (limit - 1)) ∧
    fieldsByOffset? limit text = some fields := by
  intro places pieces fields
  have hpieces : splitFrom (limit - 1) [] true text.toList = pieces :=
    splitFrom_eq_piecesAt (limit - 1) text.toList
  have hfields : fields = pieces.map fun piece => Text.trim (String.ofList piece) := by
    simp [fields, splitFields, hpieces, Text.trim]
  have hwhole := intercalate_splitFrom (limit - 1) [] true text.toList
  obtain ⟨hbefore, hlast⟩ := separators_splitFrom (limit - 1) text.toList
  rw [hpieces] at hwhole hbefore hlast
  refine ⟨hfields, ?_, hwhole, ?_, ⟨?_, ?_⟩, fieldsByOffset?_eq hlimit text⟩
  · rw [hfields, List.length_map, length_piecesAt, List.length_take]
    omega
  · intro piece _
    simpa using Text.exists_surround piece
  · intro field hfield
    rw [hfields, ← List.map_dropLast, List.mem_map] at hfield
    obtain ⟨piece, hpiece, rfl⟩ := hfield
    rw [← separators_eq_nil_iff, ← List.length_eq_zero_iff, Text.toList_trim, String.toList_ofList,
      length_separators_trimList, hbefore piece hpiece, List.length_nil]
  · intro field hfield
    rw [hfields, List.getLast?_map, Option.mem_def, Option.map_eq_some_iff] at hfield
    obtain ⟨piece, hpiece, rfl⟩ := hfield
    rw [Text.toList_trim, String.toList_ofList, length_separators_trimList, hlast piece hpiece]

/-- Separators at the start, behind a wide blank, and two that share one blank, among colons that
stand together with others.  The last one found is beyond the limit. -/
theorem fields_between_cuts_limited :
    let text := ":: é::a ::: b\u3000:: ::\tc :: d"
    1 ≤ 4 ∧ separators text.toList = [0, 14, 17, 22] ∧
      splitFields 4 text.toList = ["", "é::a ::: b", "", "c :: d"] ∧
      (splitFields 4 text.toList).length = min 4 (1 + (separators text.toList).length) ∧
      fieldsByOffset? 4 text = some ["", "é::a ::: b", "", "c :: d"] := by
  intro text
  have hlimit : 1 ≤ 4 := by decide
  have hplaces : separators text.toList = [0, 14, 17, 22] := by decide
  have hfields : splitFields 4 text.toList = ["", "é::a ::: b", "", "c :: d"] := by decide
  obtain ⟨-, hlength, -, -, -, hoffsets⟩ := fields_between_cuts hlimit text
  exact ⟨hlimit, hplaces, hfields, hlength, hfields ▸ hoffsets⟩

end Shell

end CodeAssistant
