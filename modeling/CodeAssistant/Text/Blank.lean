/-
# Blank characters and trimming

What counts as blank is the Unicode property `White_Space`, twenty-five code points and no
others: the zero-width space, the byte order mark and the separators U+001C to U+001F are
ordinary characters here.

Everything is stated over lists of characters first, where the laws are short, and lifted to
`String` at the end.

* `isTrimmed_trimList`: trimming leaves no blank at either end;
* `IsTrimmed.trimList_eq`: a text without blanks at its ends is left alone, and with the first
  that makes trimming idempotent (`trim_trim`).
-/

namespace CodeAssistant.Text

/-! ## 1. The property -/

/-- The code points of the Unicode property `White_Space`. -/
def isBlankChar (c : Char) : Bool :=
  let n := c.toNat
  (0x09 ≤ n && n ≤ 0x0D) || n = 0x20 || n = 0x85 || n = 0xA0 || n = 0x1680 ||
    (0x2000 ≤ n && n ≤ 0x200A) || n = 0x2028 || n = 0x2029 || n = 0x202F || n = 0x205F ||
    n = 0x3000

/-! ## 2. Trimming a list of characters -/

/-- The list without its leading blanks. -/
def trimStartList (cs : List Char) : List Char := cs.dropWhile isBlankChar

/-- The list without its trailing blanks. -/
def trimEndList (cs : List Char) : List Char := (cs.reverse.dropWhile isBlankChar).reverse

/-- The list without the blanks at both ends. -/
def trimList (cs : List Char) : List Char := trimEndList (trimStartList cs)

/-- No blank stands first or last. -/
def IsTrimmed (cs : List Char) : Prop :=
  (∀ c ∈ cs.head?, isBlankChar c = false) ∧ (∀ c ∈ cs.getLast?, isBlankChar c = false)

instance (cs : List Char) : Decidable (IsTrimmed cs) :=
  decidable_of_iff (cs.head?.all (!isBlankChar ·) ∧ cs.getLast?.all (!isBlankChar ·)) <| by
    simp [IsTrimmed, Option.all_eq_true]

theorem head?_dropWhile_not (p : Char → Bool) (cs : List Char) :
    ∀ c ∈ (cs.dropWhile p).head?, p c = false := by
  intro c hc
  have := List.head?_dropWhile_not p cs
  rw [Option.mem_def.mp hc] at this
  simpa using this

/-- A list that does not start with a blank keeps its start when its end is trimmed. -/
theorem head?_trimEndList {cs : List Char} (h : ∀ c ∈ cs.head?, isBlankChar c = false) :
    ∀ c ∈ (trimEndList cs).head?, isBlankChar c = false := by
  cases cs with
  | nil => simp [trimEndList]
  | cons a l =>
    have ha : isBlankChar a = false := h a (by simp)
    have : trimEndList (a :: l) = a :: trimEndList l := by
      simp only [trimEndList, List.reverse_cons, List.dropWhile_append, List.dropWhile_cons, ha]
      split <;> simp_all
    simp [this, ha]

theorem isTrimmed_trimList (cs : List Char) : IsTrimmed (trimList cs) := by
  constructor
  · exact head?_trimEndList (head?_dropWhile_not _ _)
  · simpa [trimList, trimEndList, List.getLast?_reverse] using head?_dropWhile_not isBlankChar _

theorem dropWhile_eq_self_of_head? {p : Char → Bool} {cs : List Char}
    (h : ∀ c ∈ cs.head?, p c = false) : cs.dropWhile p = cs := by
  cases cs with
  | nil => rfl
  | cons a l => simp [h a (by simp)]

theorem IsTrimmed.trimList_eq {cs : List Char} (h : IsTrimmed cs) : trimList cs = cs := by
  rw [trimList, trimStartList, dropWhile_eq_self_of_head? h.1, trimEndList,
    dropWhile_eq_self_of_head? (by simpa [List.head?_reverse] using h.2), List.reverse_reverse]

/-! ## 3. Strings -/

/-- The text without the blanks at both ends. -/
def trim (s : String) : String := String.ofList (trimList s.toList)

/-- A text is blank when trimming leaves nothing. -/
def isBlank (s : String) : Bool := s.toList.all isBlankChar

/-- The trimmed text, unless the text is blank. -/
def nonBlank? (s : String) : Option String :=
  if isBlank s then none else some (trim s)

@[simp] theorem toList_trim (s : String) : (trim s).toList = trimList s.toList := by
  simp [trim]

theorem trim_trim (s : String) : trim (trim s) = trim s := by
  rw [trim, toList_trim, (isTrimmed_trimList _).trimList_eq, ← toList_trim, String.ofList_toList]

end CodeAssistant.Text
