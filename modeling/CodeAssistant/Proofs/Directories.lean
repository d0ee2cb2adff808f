/-
# Paths that go on behind a slash

A path is read segment by segment, and only the last segment is read otherwise than the rest: if it
is made of dots, it leaves an empty one behind.  So what is read in front of a slash does not hang
on what stands behind it (`addSegments_append`, `addFileSegments_append`), and words behind a slash
are added as they stand.

`Path.under` adds words to a path that ends in a slash.  The path of a text with words behind a
slash is that of the text and the slash, with the words under it (`hostedPath_words`,
`filePath_words`).  The slash itself changes no more than the slashes at the end of the path
(`hostedPath_slash`, `filePath_last`).
-/
import CodeAssistant.Proofs.BaseUrls

namespace CodeAssistant

/-! ## 1. Pieces -/

namespace Text

variable {α : Type} {p q : α → Bool}

theorem splitWhere_append {s : α} (hs : p s = true) (xs ys : List α) :
    splitWhere p (xs ++ s :: ys) = splitWhere p xs ++ splitWhere p ys := by
  induction xs with
  | nil => simp [splitWhere, hs]
  | cons x xs ih =>
    rw [List.cons_append, splitWhere, splitWhere, ih]
    split
    · rfl
    · obtain ⟨piece, pieces, hpieces⟩ := List.exists_cons_of_ne_nil (splitWhere_ne_nil p xs)
      rw [hpieces]
      rfl

theorem splitWhere_congr {xs : List α} (h : ∀ x ∈ xs, p x = q x) :
    splitWhere p xs = splitWhere q xs := by
  induction xs with
  | nil => rfl
  | cons x xs ih =>
    obtain ⟨hx, hxs⟩ := List.forall_mem_cons.mp h
    rw [splitWhere, splitWhere, hx, ih hxs]

/-- Pieces hold nothing but items of the list that are no separators. -/
theorem of_mem_splitWhere {xs piece : List α} (h : piece ∈ splitWhere p xs) :
    ∀ x ∈ piece, x ∈ xs ∧ p x = false := by
  induction xs generalizing piece with
  | nil =>
    rw [splitWhere, List.mem_singleton] at h
    simp [h]
  | cons y xs ih =>
    have hmore : ∀ piece ∈ splitWhere p xs, ∀ x ∈ piece, x ∈ y :: xs ∧ p x = false :=
      fun piece hpiece x hx => ⟨List.mem_cons_of_mem _ (ih hpiece x hx).1, (ih hpiece x hx).2⟩
    rw [splitWhere] at h
    split at h
    · rcases List.mem_cons.mp h with rfl | h
      · simp
      · exact hmore piece h
    · rename_i hy
      obtain ⟨first, pieces, hpieces⟩ := List.exists_cons_of_ne_nil (splitWhere_ne_nil p xs)
      rw [hpieces] at h hmore
      rcases List.mem_cons.mp h with rfl | h
      · intro x hx
        rcases List.mem_cons.mp hx with rfl | hx
        · exact ⟨List.mem_cons_self, by simpa using hy⟩
        · exact hmore first List.mem_cons_self x hx
      · exact hmore piece (List.mem_cons_of_mem _ h)

/-- Pieces with a separator in front of each spell the list behind a separator. -/
theorem flatMap_splitWhere [DecidableEq α] (s : α) (xs : List α) :
    (splitWhere (· = s) xs).flatMap (s :: ·) = s :: xs := by
  induction xs with
  | nil => rfl
  | cons x xs ih =>
    rw [splitWhere]
    split
    · rename_i hx
      rw [List.flatMap_cons, ih, of_decide_eq_true hx]
      rfl
    · obtain ⟨piece, pieces, hpieces⟩ := List.exists_cons_of_ne_nil
        (splitWhere_ne_nil (fun y => decide (y = s)) xs)
      rw [hpieces] at ih ⊢
      simp only [List.flatMap_cons, List.cons_append, List.cons.injEq, true_and] at ih ⊢
      exact ih

end Text

namespace Url

open ClientConfig (dropSlashes dropSlashes_append_slash)

theorem dropWhile_append_of_head {p : Char → Bool} (cs : List Char) {rest : List Char}
    (h : ∀ c ∈ rest.head?, p c = false) : (cs ++ rest).dropWhile p = cs.dropWhile p ++ rest := by
  rw [List.dropWhile_append]
  split
  · rename_i hnil
    rw [List.isEmpty_iff.mp hnil, Text.dropWhile_eq_self_of_head? h]
    rfl
  · rfl

theorem takeWhile_append_of_head {p : Char → Bool} (cs : List Char) {rest : List Char}
    (h : ∀ c ∈ rest.head?, p c = false) : (cs ++ rest).takeWhile p = cs.takeWhile p := by
  have hnil : rest.takeWhile p = [] := by
    cases rest with
    | nil => rfl
    | cons c rest => rw [List.takeWhile_cons_of_neg (by simp [h c rfl])]
  rw [List.takeWhile_append, hnil, List.append_nil]
  split
  · rename_i hlength
    exact ((List.takeWhile_prefix p).eq_of_length hlength).symm
  · rfl

/-! ## 2. Words -/

/-- Letters, which no part of a URL takes for anything else. -/
def IsWord (segment : List Char) : Prop := ∀ c ∈ segment, c.isAlpha = true

/-- Words between slashes. -/
def IsWords (cs : List Char) : Prop := ∀ c ∈ cs, c.isAlpha = true ∨ c = '/'

instance (cs : List Char) : Decidable (IsWords cs) :=
  decidable_of_iff (cs.all fun c => c.isAlpha || c = '/') <| by simp [IsWords]

theorem isWords_nil : IsWords [] := by simp [IsWords]

theorem ne_of_isAlpha {c d : Char} (h : c.isAlpha = true) (hd : d.isAlpha = false) : c ≠ d := by
  rintro rfl
  cases h.symm.trans hd

theorem bounds_of_isAlpha {c : Char} (h : c.isAlpha = true) : 0x40 < c.toNat ∧ c.toNat < 0x7B := by
  have hbounds {low high : UInt32} (hlow : low ≤ c.val) (hhigh : c.val ≤ high) :
      low.toNat ≤ c.toNat ∧ c.toNat ≤ high.toNat :=
    ⟨UInt32.le_iff_toNat_le.mp hlow, UInt32.le_iff_toNat_le.mp hhigh⟩
  rcases Bool.or_eq_true_iff.mp h with hupper | hlower
  · obtain ⟨hlow, hhigh⟩ := of_decide_eq_true hupper
    have hupper : 65 ≤ c.toNat ∧ c.toNat ≤ 90 := hbounds hlow hhigh
    omega
  · obtain ⟨hlow, hhigh⟩ := Bool.and_eq_true_iff.mp hlower
    have hlower : 97 ≤ c.toNat ∧ c.toNat ≤ 122 :=
      hbounds (of_decide_eq_true hlow) (of_decide_eq_true hhigh)
    omega

theorem inPath_of_isAlpha {c : Char} (h : c.isAlpha = true) : Percent.inPath c = false := by
  have hbounds := bounds_of_isAlpha h
  have hne {d : Char} (hd : d.isAlpha = false) : (c == d) = false := by
    simpa using ne_of_isAlpha h hd
  simp only [Percent.inPath, Percent.inFragment, Percent.controls, List.contains_cons,
    List.contains_nil, Bool.or_false, hne (by decide : ' '.isAlpha = false),
    hne (by decide : '"'.isAlpha = false), hne (by decide : '<'.isAlpha = false),
    hne (by decide : '>'.isAlpha = false), hne (by decide : '\x60'.isAlpha = false),
    hne (by decide : '#'.isAlpha = false), hne (by decide : '?'.isAlpha = false),
    hne (by decide : '\x7b'.isAlpha = false), hne (by decide : '\x7d'.isAlpha = false),
    Bool.or_eq_false_iff, decide_eq_false_iff_not]
  omega

theorem Percent.encodeList_eq_self {set : Char → Bool} {cs : List Char}
    (h : ∀ c ∈ cs, set c = false) : encodeList set cs = cs := by
  induction cs with
  | nil => rfl
  | cons c cs ih =>
    obtain ⟨hc, hcs⟩ := List.forall_mem_cons.mp h
    have htail : encodeList set cs = cs := ih hcs
    rw [encodeList, List.flatMap_cons, hc]
    exact congrArg (c :: ·) htail

namespace IsWord

variable {segment : List Char} (h : IsWord segment)

include h

theorem plainDots_eq : plainDots segment = segment := by
  induction segment with
  | nil => rfl
  | cons c cs ih =>
    obtain ⟨hc, hcs⟩ := List.forall_mem_cons.mp h
    have hpercent : c ≠ '%' := ne_of_isAlpha hc (by decide)
    rw [plainDots, ih hcs]
    · rintro _ rfl -
      exact hpercent rfl
    · rintro _ rfl -
      exact hpercent rfl

theorem isSingleDot_eq : isSingleDot segment = false := by
  rw [isSingleDot, h.plainDots_eq, decide_eq_false_iff_not]
  rintro rfl
  cases h '.' List.mem_cons_self

theorem isDoubleDot_eq : isDoubleDot segment = false := by
  rw [isDoubleDot, h.plainDots_eq, decide_eq_false_iff_not]
  rintro rfl
  cases h '.' List.mem_cons_self

theorem writeSegment_eq (kind : Kind) (before : List String) :
    writeSegment kind before segment = String.ofList segment := by
  have hencode : Percent.encode Percent.inPath segment = String.ofList segment := by
    rw [Percent.encode, Percent.encodeList_eq_self fun c hc => inPath_of_isAlpha (h c hc)]
  unfold writeSegment
  split
  · cases h '|' (by simp)
  · exact hencode

/-- A word is added as it stands. -/
theorem addSegment_eq (kind : Kind) (isLast : Bool) (before : List String) :
    addSegment kind isLast before segment = before ++ [String.ofList segment] := by
  rw [addSegment, if_neg (by simp [h.isDoubleDot_eq]), if_neg (by simp [h.isSingleDot_eq]),
    h.writeSegment_eq]

theorem not_isBreak : ∀ c ∈ segment, isBreak c = false := by
  intro c hc
  have hbounds := bounds_of_isAlpha (h c hc)
  simp only [isBreak, Bool.or_eq_false_iff, decide_eq_false_iff_not]
  refine ⟨⟨?_, ?_⟩, ?_⟩ <;> rintro rfl <;> simp at hbounds

theorem cutDrive?_eq : cutDrive? segment = none := by
  have hskip {cs : List Char} (hcs : ∀ c ∈ cs, isBreak c = false) : cs.dropWhile isBreak = cs :=
    Text.dropWhile_eq_self_of_head? fun c hc => hcs c (List.mem_of_mem_head? hc)
  unfold cutDrive?
  cases segment with
  | nil => rfl
  | cons c cs =>
    rw [hskip h.not_isBreak]
    dsimp only
    rw [hskip fun d hd => h.not_isBreak d (List.mem_cons_of_mem _ hd)]
    split
    · cases h ':' (by simp)
    · rfl

theorem withoutBreaks_eq : withoutBreaks segment = segment := by
  rw [withoutBreaks, List.filter_eq_self]
  intro c hc
  simp [h.not_isBreak c hc]

theorem isDrive_eq : isDrive segment = false := by
  unfold isDrive
  split
  · rename_i c d
    have hd := h d (by simp)
    simp [ne_of_isAlpha hd (by decide : ':'.isAlpha = false),
      ne_of_isAlpha hd (by decide : '|'.isAlpha = false)]
  · rfl

end IsWord

/-- The words between slashes. -/
def words (cs : List Char) : List String := (Text.splitWhere (· = '/') cs).map String.ofList

namespace IsWords

variable {cs : List Char} (h : IsWords cs)

include h

/-- A backslash is no word, so that every kind of URL cuts words alike. -/
theorem splitWhere_eq (kind : Kind) :
    Text.splitWhere (isSlash kind) cs = Text.splitWhere (· = '/') cs := by
  refine Text.splitWhere_congr fun c hc => ?_
  have hback : c ≠ '\\' := by
    rintro rfl
    rcases h _ hc with hc | hc <;> cases hc
  simp [isSlash, hback]

theorem isWord_of_mem : ∀ segment ∈ Text.splitWhere (· = '/') cs, IsWord segment := by
  intro segment hsegment c hc
  obtain ⟨hmem, hslash⟩ := Text.of_mem_splitWhere hsegment c hc
  exact (h c hmem).resolve_right (by simpa using hslash)

end IsWords

/-! ## 3. Segments -/

/-- The segments of a path in front of a slash. -/
def directories (kind : Kind) (before : List String) (segments : List (List Char)) : List String :=
  segments.foldl (addSegment kind false) before

theorem addSegments_append (kind : Kind) (before : List String) (xs : List (List Char))
    (y : List Char) (ys : List (List Char)) :
    addSegments kind before (xs ++ y :: ys) =
      addSegments kind (directories kind before xs) (y :: ys) := by
  induction xs generalizing before with
  | nil => rfl
  | cons x xs ih =>
    have hmore : (xs ++ y :: ys).isEmpty = false := by simp
    rw [List.cons_append, addSegments, hmore, ih]
    rfl

theorem addSegments_words (kind : Kind) (before : List String) {segments : List (List Char)}
    (h : ∀ segment ∈ segments, IsWord segment) :
    addSegments kind before segments = before ++ segments.map String.ofList := by
  induction segments generalizing before with
  | nil => simp [addSegments]
  | cons segment rest ih =>
    obtain ⟨hword, hwords⟩ := List.forall_mem_cons.mp h
    rw [addSegments, hword.addSegment_eq, ih _ hwords]
    simp

/-- The last segment of a path may leave an empty one. -/
theorem addSegment_last (kind : Kind) (before : List String) (segment : List Char) :
    addSegment kind true before segment = addSegment kind false before segment ∨
      addSegment kind true before segment = addSegment kind false before segment ++ [""] := by
  unfold addSegment
  split
  · simp
  · split
    · simp
    · simp

/-- Words behind a slash are added to what is in front of it. -/
theorem segmentsFrom_words (kind : Kind) (before : List String) (cs : List Char)
    {rest : List Char} (h : IsWords rest) :
    segmentsFrom kind before (cs ++ '/' :: rest) =
      directories kind before (Text.splitWhere (isSlash kind) cs) ++ words rest := by
  obtain ⟨y, ys, hys⟩ := List.exists_cons_of_ne_nil
    (Text.splitWhere_ne_nil (fun c => decide (c = '/')) rest)
  rw [segmentsFrom, Text.splitWhere_append (by simp [isSlash]), h.splitWhere_eq, hys,
    addSegments_append, ← hys, addSegments_words _ _ h.isWord_of_mem, words]

theorem segmentsFrom_of_words (kind : Kind) (before : List String) {rest : List Char}
    (h : IsWords rest) : segmentsFrom kind before rest = before ++ words rest := by
  rw [segmentsFrom, h.splitWhere_eq, addSegments_words _ _ h.isWord_of_mem, words]

/-- Without a slash behind it, the last segment may leave an empty one. -/
theorem segmentsFrom_last (kind : Kind) (before : List String) (cs : List Char) :
    segmentsFrom kind before cs = directories kind before (Text.splitWhere (isSlash kind) cs) ∨
      segmentsFrom kind before cs =
        directories kind before (Text.splitWhere (isSlash kind) cs) ++ [""] := by
  obtain ⟨xs, x, hxs⟩ := List.eq_nil_or_concat (Text.splitWhere (isSlash kind) cs)
    |>.resolve_left (Text.splitWhere_ne_nil _ _)
  have hlast : directories kind before (xs ++ [x]) =
      addSegment kind false (directories kind before xs) x := by
    rw [directories, List.foldl_append]
    rfl
  rw [segmentsFrom, hxs, List.concat_eq_append, addSegments_append, hlast]
  exact addSegment_last kind _ x

/-! ## 4. Paths -/

/-- The segments as they are written. -/
def written (segments : List String) : List Char := segments.flatMap fun s => '/' :: s.toList

@[simp] theorem written_append (xs ys : List String) :
    written (xs ++ ys) = written xs ++ written ys :=
  List.flatMap_append

theorem toList_write_segments (segments : List String) :
    (Path.segments segments).write.toList = written segments := by
  rw [Path.write, String.toList_join, List.flatMap_map, written]
  congr 1
  funext s
  simp

@[simp] theorem written_singleton_empty : written [""] = ['/'] := rfl

theorem written_words (cs : List Char) : written (words cs) = '/' :: cs := by
  rw [words, written, List.flatMap_map]
  simpa using Text.flatMap_splitWhere '/' cs

/-- Words behind segments. -/
def Path.behind (segments : List String) (rest : List Char) : Path :=
  .segments (segments ++ words rest)

/-- Words added to a path that ends in a slash. -/
def Path.under (rest : List Char) : Path → Path
  | plain text => plain (text ++ String.ofList rest)
  | segments items => segments (items.dropLast ++ words rest)

theorem Path.toList_write_behind (segments : List String) (rest : List Char) :
    (Path.behind segments rest).write.toList = written segments ++ '/' :: rest := by
  rw [behind, toList_write_segments, written_append, written_words]

@[simp] theorem Path.behind_under (segments : List String) (rest : List Char) :
    (Path.behind segments []).under rest = Path.behind segments rest := by
  have hwords : words [] = [""] := rfl
  rw [behind, hwords, under, List.dropLast_concat, behind]

/-- The path has only slashes less or more at its end. -/
def SameDirectory (p p' : Path) : Prop :=
  dropSlashes p.write.toList = dropSlashes p'.write.toList

theorem sameDirectory_behind {segments items : List String}
    (h : items = segments ∨ items = segments ++ [""]) :
    SameDirectory (.segments items) (.behind segments []) := by
  rw [SameDirectory, Path.toList_write_behind, dropSlashes_append_slash, toList_write_segments]
  rcases h with rfl | rfl
  · rfl
  · simp

/-- The segments in front of the slash that ends a path behind an authority. -/
def hostedDirectories (kind : Kind) (cs : List Char) : List String :=
  if cs.isEmpty then []
  else directories kind [] (Text.splitWhere (isSlash kind) (dropSlash kind cs))

theorem dropSlash_append (kind : Kind) (c : Char) (cs rest : List Char) :
    dropSlash kind (c :: cs ++ rest) = dropSlash kind (c :: cs) ++ rest := by
  simp only [List.cons_append, dropSlash]
  split <;> rfl

theorem hostedPath_words (kind : Kind) (cs : List Char) {rest : List Char} (h : IsWords rest) :
    hostedPath kind (cs ++ '/' :: rest) = .behind (hostedDirectories kind cs) rest := by
  rw [hostedPath, if_neg (by simp)]
  cases cs with
  | nil =>
    rw [List.nil_append, dropSlash, if_pos (by simp [isSlash]), segmentsFrom_of_words _ _ h]
    rfl
  | cons c cs =>
    rw [dropSlash_append, segmentsFrom_words _ _ _ h]
    rfl

/-- A slash at the end of a path changes the slashes at its end. -/
theorem hostedPath_slash (kind : Kind) (cs : List Char) :
    SameDirectory (hostedPath kind cs) (hostedPath kind (cs ++ ['/'])) := by
  rw [hostedPath_words kind cs isWords_nil]
  cases cs with
  | nil =>
    rw [hostedPath]
    split
    · exact sameDirectory_behind (Or.inl rfl)
    · exact sameDirectory_behind (Or.inr rfl)
  | cons c cs =>
    rw [hostedPath, if_neg (by simp)]
    exact sameDirectory_behind (segmentsFrom_last kind [] (dropSlash kind (c :: cs)))

/-! ## 5. Paths of files -/

/-- Adds a segment of a file's path, and settles whether the host stays. -/
def addFileSegment (isLast : Bool) (found : List String × Bool) (segment : List Char) :
    List String × Bool :=
  match if found.1.isEmpty then cutDrive? segment else none with
  | some (drive, behind) =>
    ([String.ofList drive, Percent.encode Percent.inPath behind], found.2)
  | none =>
    let after := addSegment .file isLast found.1 (withoutBreaks segment)
    (after, found.2 && !(found.1.isEmpty && after.head?.any (isDrive ·.toList)))

theorem addFileSegments_cons (found : List String × Bool) (segment : List Char)
    (rest : List (List Char)) :
    addFileSegments found.1 found.2 (segment :: rest) =
      addFileSegments (addFileSegment rest.isEmpty found segment).1
        (addFileSegment rest.isEmpty found segment).2 rest := by
  rw [addFileSegments, addFileSegment]
  generalize (if found.1.isEmpty then cutDrive? segment else none) = cut
  cases cut <;> rfl

/-- The segments of a file's path in front of a slash. -/
def fileDirectories (found : List String × Bool) (segments : List (List Char)) :
    List String × Bool :=
  segments.foldl (addFileSegment false) found

theorem addFileSegments_append (found : List String × Bool) (xs : List (List Char))
    (y : List Char) (ys : List (List Char)) :
    addFileSegments found.1 found.2 (xs ++ y :: ys) =
      addFileSegments (fileDirectories found xs).1 (fileDirectories found xs).2 (y :: ys) := by
  induction xs generalizing found with
  | nil => rfl
  | cons x xs ih =>
    have hmore : (xs ++ y :: ys).isEmpty = false := by simp
    rw [List.cons_append, addFileSegments_cons, hmore, ih]
    rfl

theorem IsWord.addFileSegment_eq {segment : List Char} (h : IsWord segment) (isLast : Bool)
    (found : List String × Bool) :
    addFileSegment isLast found segment = (found.1 ++ [String.ofList segment], found.2) := by
  have hcut : (if found.1.isEmpty then cutDrive? segment else none) = none := by
    rw [h.cutDrive?_eq, ite_self]
  have hdrive : (found.1.isEmpty &&
      (found.1 ++ [String.ofList segment]).head?.any (isDrive ·.toList)) = false := by
    cases found.1 with
    | nil => simp [h.isDrive_eq]
    | cons first rest => rfl
  rw [addFileSegment, hcut]
  dsimp only
  rw [h.withoutBreaks_eq, h.addSegment_eq, hdrive, Bool.not_false, Bool.and_true]

theorem addFileSegments_words (found : List String × Bool) {segments : List (List Char)}
    (h : ∀ segment ∈ segments, IsWord segment) :
    addFileSegments found.1 found.2 segments =
      (found.1 ++ segments.map String.ofList, found.2) := by
  induction segments generalizing found with
  | nil => simp [addFileSegments]
  | cons segment rest ih =>
    obtain ⟨hword, hwords⟩ := List.forall_mem_cons.mp h
    rw [addFileSegments_cons, hword.addFileSegment_eq, ih _ hwords]
    simp

theorem addFileSegment_last (found : List String × Bool) (segment : List Char) :
    (addFileSegment true found segment).2 = (addFileSegment false found segment).2 ∧
      ((addFileSegment true found segment).1 = (addFileSegment false found segment).1 ∨
        (addFileSegment true found segment).1 =
          (addFileSegment false found segment).1 ++ [""]) := by
  unfold addFileSegment
  split
  · exact ⟨rfl, Or.inl rfl⟩
  · dsimp only
    rcases addSegment_last .file found.1 (withoutBreaks segment) with h | h
    · exact ⟨by rw [h], Or.inl h⟩
    · refine ⟨?_, Or.inr h⟩
      rw [h]
      cases addSegment .file false found.1 (withoutBreaks segment) <;> simp [isDrive]

section FilePaths

variable (cs : List Char) {rest : List Char}

theorem addFileSegments_front (found : List String × Bool) (h : IsWords rest) :
    addFileSegments found.1 found.2 (Text.splitWhere (isSlash .file) (cs ++ '/' :: rest)) =
      ((fileDirectories found (Text.splitWhere (isSlash .file) cs)).1 ++ words rest,
        (fileDirectories found (Text.splitWhere (isSlash .file) cs)).2) := by
  obtain ⟨y, ys, hys⟩ := List.exists_cons_of_ne_nil
    (Text.splitWhere_ne_nil (fun c => decide (c = '/')) rest)
  rw [Text.splitWhere_append (by simp [isSlash]), h.splitWhere_eq, hys, addFileSegments_append,
    ← hys, addFileSegments_words _ h.isWord_of_mem, words]

theorem addFileSegments_last (found : List String × Bool) :
    let front := fileDirectories found (Text.splitWhere (isSlash .file) cs)
    let whole := addFileSegments found.1 found.2 (Text.splitWhere (isSlash .file) cs)
    whole.2 = front.2 ∧ (whole.1 = front.1 ∨ whole.1 = front.1 ++ [""]) := by
  obtain ⟨xs, x, hxs⟩ := List.eq_nil_or_concat (Text.splitWhere (isSlash .file) cs)
    |>.resolve_left (Text.splitWhere_ne_nil _ _)
  have hlast : fileDirectories found (xs ++ [x]) =
      addFileSegment false (fileDirectories found xs) x := by
    rw [fileDirectories, List.foldl_append]
    rfl
  intro front whole
  have hwhole : whole = addFileSegment true (fileDirectories found xs) x := by
    simp only [whole, hxs, List.concat_eq_append]
    rw [addFileSegments_append, addFileSegments_cons]
    rfl
  have hfront : front = addFileSegment false (fileDirectories found xs) x := by
    simp only [front, hxs, List.concat_eq_append, hlast]
  rw [hwhole, hfront]
  exact addFileSegment_last _ x

/-- What is found of a file's path in front of the slash that ends it. -/
def fileFront (slashed : Bool) (host : Host) (cs : List Char) : List String × Bool :=
  let path := cs.dropWhile isBreak
  if slashed && host = .empty then
    fileDirectories ([], true) (Text.splitWhere (isSlash .file) path)
  else if path.isEmpty then ([], true)
  else fileDirectories ([], true) (Text.splitWhere (isSlash .file) (dropSlash .file path))

theorem filePath_words (slashed : Bool) (host : Host) (h : IsWords rest) :
    filePath slashed host (cs ++ '/' :: rest) =
      ((fileFront slashed host cs).1 ++ words rest, (fileFront slashed host cs).2) := by
  have hdrop : (cs ++ '/' :: rest).dropWhile isBreak = cs.dropWhile isBreak ++ '/' :: rest :=
    dropWhile_append_of_head cs (by rintro c ⟨⟩; decide)
  simp only [filePath, fileFront, hdrop]
  split
  · exact addFileSegments_front _ ([], true) h
  · cases cs.dropWhile isBreak with
    | nil =>
      rw [List.nil_append, dropSlash, if_pos (by simp [isSlash]), h.splitWhere_eq]
      exact addFileSegments_words ([], true) h.isWord_of_mem
    | cons c path =>
      rw [dropSlash_append]
      exact addFileSegments_front _ ([], true) h

theorem filePath_last (slashed : Bool) (host : Host) :
    (filePath slashed host cs).2 = (fileFront slashed host cs).2 ∧
      ((filePath slashed host cs).1 = (fileFront slashed host cs).1 ∨
        (filePath slashed host cs).1 = (fileFront slashed host cs).1 ++ [""]) := by
  simp only [filePath, fileFront]
  split
  · exact addFileSegments_last _ ([], true)
  · cases cs.dropWhile isBreak with
    | nil => exact ⟨rfl, Or.inr rfl⟩
    | cons c path => exact addFileSegments_last _ ([], true)

/-- The segments of a file's path that are written: none that are empty at the front, unless all
are. -/
def shown (segments : List String) : List String :=
  if (segments.dropWhile (· = "")).isEmpty then [""] else segments.dropWhile (· = "")

/-- Words of which the first is one are shown. -/
theorem shown_words (segments : List String) (h : ∀ c ∈ rest.head?, c ≠ '/') :
    shown (segments ++ words rest) = segments.dropWhile (· = "") ++ words rest := by
  cases rest with
  | nil =>
    have hwords : words [] = [""] := rfl
    rw [shown, hwords, List.dropWhile_append]
    cases segments.dropWhile (· = "") <;> simp
  | cons c rest =>
    obtain ⟨piece, pieces, hpieces⟩ := List.exists_cons_of_ne_nil
      (Text.splitWhere_ne_nil (fun c => decide (c = '/')) rest)
    have hwords : words (c :: rest) = String.ofList (c :: piece) :: pieces.map String.ofList := by
      rw [words, Text.splitWhere, if_neg (by simpa using h c rfl), hpieces]
      rfl
    have hdrop : (segments ++ words (c :: rest)).dropWhile (· = "") =
        segments.dropWhile (· = "") ++ words (c :: rest) := by
      rw [hwords, List.dropWhile_append]
      split
      · rename_i hnil
        rw [List.isEmpty_iff.mp hnil, List.dropWhile_cons_of_neg (by simp)]
        rfl
      · rfl
    rw [shown, hdrop, if_neg (by simp [hwords])]

theorem shown_words_nil (segments : List String) :
    shown (segments ++ words []) = segments.dropWhile (· = "") ++ words [] :=
  shown_words segments (by simp)

theorem sameDirectory_shown {segments items : List String}
    (h : items = segments ∨ items = segments ++ [""]) :
    SameDirectory (.segments (shown items)) (.behind (segments.dropWhile (· = "")) []) := by
  refine sameDirectory_behind ?_
  rcases h with rfl | rfl
  · rw [shown]
    split
    · rename_i hnil
      rw [List.isEmpty_iff.mp hnil]
      exact Or.inr rfl
    · exact Or.inl rfl
  · exact Or.inr (shown_words_nil segments)

end FilePaths

end Url

end CodeAssistant
