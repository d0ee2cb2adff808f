/-
# The kind of a file, from either side

The file tree and the content pane classify one file from different data.  A row of the tree has the
entry's extension and, where that is blank, its name; the pane has nothing but the path of the
selection.

Both come down to the end of the name: `ofPath_eq_ofName` for a name that ends its path, and
`ofEntry_eq_ofName` for an extension that is blank or agrees with the name.  `category_of_selected`
puts them together on the screen: a selected row and the pane show the same kind.

An extension is trimmed before its dot is dropped, and what stands behind a name's dot is trimmed
alone.  A blank behind the dot is therefore dropped on one side only, which is why `IsCoherent`
excludes it.
-/
import CodeAssistant.Assistant.Screen

namespace CodeAssistant

namespace Text

theorem trimEndList_cons {c : Char} (hc : isBlankChar c = false) (cs : List Char) :
    trimEndList (c :: cs) = c :: trimEndList cs := by
  rw [trimEndList, List.reverse_cons, List.dropWhile_append, trimEndList]
  split
  · rename_i hnil
    rw [List.isEmpty_iff.mp hnil, List.dropWhile_cons_of_neg (by simp [hc])]
    rfl
  · rw [List.reverse_append]
    rfl

/-- A list that starts with no blank is trimmed at its end only. -/
theorem trimList_of_head? {cs : List Char} (h : ∀ c ∈ cs.head?, isBlankChar c = false) :
    trimList cs = trimEndList cs := by
  rw [trimList, trimStartList, dropWhile_eq_self_of_head? h]

theorem trimEndList_subset (cs : List Char) : trimEndList cs ⊆ cs := by
  intro c hc
  exact List.mem_reverse.mp ((List.dropWhile_sublist _).subset (List.mem_reverse.mp hc))

end Text

namespace Category

/-! ## 1. Where a name ends -/

/-- Slashes of either kind. -/
def isSlash (c : Char) : Bool := c = '/' || c = '\\'

/-- The name is what stands behind the last slash of the path; all of it if there is none. -/
def EndsPath (name path : List Char) : Prop :=
  (∀ c ∈ name, isSlash c = false) ∧
    ∃ folder, path = folder ++ name ∧ ∀ c ∈ folder.getLast?, isSlash c = true

/-- The suffix is what stands behind the last dot of the name, which is not its first character. -/
def IsSuffix (suffix name : List Char) : Prop :=
  '.' ∉ suffix ∧ ∃ stem, stem ≠ [] ∧ name = stem ++ '.' :: suffix

theorem behindLast_append {p : Char → Bool} {front back : List Char}
    (hback : ∀ c ∈ back, p c = false) (hfront : ∀ c ∈ front.getLast?, p c = true) :
    behindLast p (front ++ back) = back := by
  have hback' : ∀ c ∈ back.reverse, (!p c) = true := by
    intro c hc
    simp [hback c (List.mem_reverse.mp hc)]
  have hfront' : front.reverse.takeWhile (fun c => !p c) = [] := by
    rw [← List.head?_reverse] at hfront
    cases h : front.reverse with
    | nil => rfl
    | cons c cs =>
      rw [h] at hfront
      rw [List.takeWhile_cons_of_neg (by simp [hfront c rfl])]
  rw [behindLast, List.reverse_append, List.takeWhile_append_of_pos hback', hfront', List.append_nil,
    List.reverse_reverse]

theorem splitAtLastDot?_append {stem suffix : List Char} (h : '.' ∉ suffix) :
    splitAtLastDot? (stem ++ '.' :: suffix) = some (stem, suffix) := by
  have hsuffix : ∀ c ∈ suffix.reverse, (decide (c ≠ '.')) = true := by
    intro c hc
    exact decide_eq_true fun hdot => h (hdot ▸ List.mem_reverse.mp hc)
  have hbehind : behindLast (· = '.') (stem ++ '.' :: suffix) = suffix := by
    have hnone : ∀ c ∈ suffix, decide (c = '.') = false := by
      intro c hc
      exact decide_eq_false fun hdot => h (hdot ▸ hc)
    have hlast : ∀ c ∈ (stem ++ ['.']).getLast?, decide (c = '.') = true := by simp
    have := behindLast_append hnone hlast
    rwa [List.append_assoc] at this
  rw [splitAtLastDot?, hbehind, List.reverse_append, List.reverse_cons, List.append_assoc,
    List.dropWhile_append_of_pos hsuffix]
  simp

/-- A name with a suffix is classified by it. -/
theorem ofName_of_isSuffix {suffix name : List Char} (h : IsSuffix suffix name) :
    ofName name = classify (String.ofList suffix) := by
  obtain ⟨hdot, stem, hstem, rfl⟩ := h
  rw [ofName, splitAtLastDot?_append hdot]
  simp [hstem]

/-- A path is classified by the name that ends it. -/
theorem ofPath_eq_ofName {path : String} {name : List Char} (h : EndsPath name path.toList) :
    ofPath path = ofName name := by
  obtain ⟨hname, folder, hpath, hfolder⟩ := h
  have hbehind : behindLast isSlash path.toList = name := by
    rw [hpath, behindLast_append hname hfolder]
  exact congrArg ofName hbehind

/-! ## 2. Extensions with and without their dot -/

theorem withoutDot_of_not_mem {cs : List Char} (h : '.' ∉ cs) : withoutDot cs = cs := by
  cases cs with
  | nil => rfl
  | cons c cs =>
    rw [withoutDot]
    intro _ hcons
    exact h ((List.cons.inj hcons).1 ▸ List.mem_cons_self)

/-- The dot in front of an extension says nothing. -/
theorem classify_dot {suffix : List Char} (hdot : '.' ∉ suffix)
    (hblank : ∀ c ∈ suffix.head?, Text.isBlankChar c = false) :
    classify (String.ofList ('.' :: suffix)) = classify (String.ofList suffix) := by
  have hleft : withoutDot (Text.trimList ('.' :: suffix)) = Text.trimEndList suffix := by
    rw [Text.trimList_of_head? (by rintro c ⟨⟩; decide), Text.trimEndList_cons (by decide)]
    rfl
  have hright : withoutDot (Text.trimList suffix) = Text.trimEndList suffix := by
    rw [Text.trimList_of_head? hblank]
    exact withoutDot_of_not_mem fun h => hdot (Text.trimEndList_subset suffix h)
  simp only [classify, String.toList_ofList, hleft, hright]

/-! ## 3. Entries that agree with themselves -/

/-- What the entry says of its path, its name and its extension fits together. -/
structure IsCoherent (entry : FileEntry) : Prop where
  /-- The name ends the path. -/
  name : EndsPath entry.name.toList entry.path.toList
  /-- The extension is blank, or the suffix of the name with or without its dot. -/
  extension : Text.isBlank entry.extension = true ∨
    ∃ suffix, IsSuffix suffix entry.name.toList ∧
      (∀ c ∈ suffix.head?, Text.isBlankChar c = false) ∧
      (entry.extension = String.ofList suffix ∨ entry.extension = String.ofList ('.' :: suffix))

theorem ofEntry_eq_ofName {entry : FileEntry} (h : IsCoherent entry) :
    ofEntry entry = ofName entry.name.toList := by
  rw [ofEntry]
  split
  · rfl
  · rename_i hnot
    obtain hblank | ⟨suffix, hsuffix, hblank, hbare | hdotted⟩ := h.extension
    · exact absurd hblank hnot
    · rw [hbare, ofName_of_isSuffix hsuffix]
    · rw [hdotted, classify_dot hsuffix.1 hblank, ofName_of_isSuffix hsuffix]

/-- An entry is classified as its path is. -/
theorem ofEntry_eq_ofPath {entry : FileEntry} (h : IsCoherent entry) :
    ofEntry entry = ofPath entry.path := by
  rw [ofEntry_eq_ofName h, ofPath_eq_ofName h.name]

-- trimmed as a whole the blank stays behind the dot, trimmed behind the dot it goes
example : ofEntry ⟨"a. py", "a. py", ". py", 0⟩ = .other ∧ ofPath "a. py" = .python := by decide

end Category

/-! ## 4. On the screen -/

namespace Screen

/-- A selected row is about the path that the pane shows. -/
theorem path_of_selected {browser : Browser} {session : Session} {panel : IndexPanel} {row : FileRow}
    (hrow : row ∈ (compose browser session panel).files) (hselected : row.selected = true)
    {path content : String} {lines : UInt64} {category : Category}
    (hready : (compose browser session panel).content = .ready path content lines category) :
    row.category = Category.ofEntry row.entry ∧ row.entry.path = path ∧
      category = Category.ofPath path := by
  obtain ⟨entry, -, rfl⟩ := List.mem_map.mp hrow
  have hpath : browser.selectedPath? = some entry.path := of_decide_eq_true hselected
  simp only [compose] at hready
  cases hselection : browser.selection with
  | none => simp [hselection, ContentView.ofSelection] at hready
  | some s =>
    rw [Browser.selectedPath?, hselection, Option.map_some, Option.some_inj] at hpath
    rw [hselection, ContentView.ofSelection] at hready
    split at hready
    · cases hready
    · injection hready with hp _ _ hc
      exact ⟨rfl, hpath.symm.trans hp, hp ▸ hc.symm⟩
    · cases hready

/-- **The tree and the pane classify a file alike.**  The tree goes by the extension or the name of
the entry, the pane by the path of the selection. -/
theorem category_of_selected {browser : Browser} {session : Session} {panel : IndexPanel}
    {row : FileRow} (hrow : row ∈ (compose browser session panel).files)
    (hselected : row.selected = true) (hcoherent : Category.IsCoherent row.entry)
    {path content : String} {lines : UInt64} {category : Category}
    (hready : (compose browser session panel).content = .ready path content lines category) :
    row.category = category := by
  obtain ⟨hrow', hpath, hcategory⟩ := path_of_selected hrow hselected hready
  rw [hrow', hcategory, ← hpath, Category.ofEntry_eq_ofPath hcoherent]

/-- A name with two dots in a folder with a backslash, and an extension with its dot. -/
theorem category_of_selected_test_file :
    let entry : FileEntry := ⟨"src/ui\\App.test.TSX", "App.test.TSX", ".TSX", 9⟩
    let browser : Browser :=
      { listing := { files := [entry] }
        selection := some ⟨entry.path, ⟨0, 1⟩, .success ⟨entry.path, "export", 1⟩⟩ }
    (compose browser {} {}).content =
        .ready entry.path "export" 1 (Category.ofPath entry.path) ∧
      (⟨entry, Category.ofEntry entry, true⟩ : FileRow) ∈ (compose browser {} {}).files ∧
      Category.ofEntry entry = Category.ofPath entry.path := by
  intro entry browser
  have hname : Category.EndsPath entry.name.toList entry.path.toList :=
    ⟨by simp [entry, Category.isSlash], "src/ui\\".toList, by decide, by simp [Category.isSlash]⟩
  have hextension : Category.IsSuffix "TSX".toList entry.name.toList :=
    ⟨by decide, "App.test".toList, by decide, by decide⟩
  have hcoherent : Category.IsCoherent entry :=
    ⟨hname, .inr ⟨"TSX".toList, hextension, by rintro _ ⟨⟩; decide, .inr rfl⟩⟩
  have hready : (compose browser {} {}).content =
      .ready entry.path "export" 1 (Category.ofPath entry.path) := rfl
  have hrow : (⟨entry, Category.ofEntry entry, true⟩ : FileRow) ∈ (compose browser {} {}).files := by
    decide
  exact ⟨hready, hrow, category_of_selected hrow rfl hcoherent hready⟩

end Screen

end CodeAssistant
