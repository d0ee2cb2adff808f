/-
# The grammar of JSON texts

Which characters make a JSON text, said as a grammar and without any reader.  `IsNumber` and
`IsChars` are the tokens.  `Derives` has one production for each form of a value, of the items of a
list and of the members of an object; the members carry their keys and values along as they are
spelled, for whoever asks what the text of an object says.

The grammar is about form alone: numbers may be out of range, escapes need not be paired, and values
nest to any depth.  That is exactly what is checked of a value that is skipped:

* `Derives.skipped`: what the grammar derives is skipped, up to its end;
* `takesValue_of_skippingTo`: what is skipped is derived by the grammar.

Main statement: `isText_iff`.  The induction of the first half is on the derivation, that of the
second on the bound on the depth.
-/
import CodeAssistant.Proofs.CutOff
import CodeAssistant.Proofs.Layouts

namespace CodeAssistant.Json

open Brackets

namespace Grammar

/-! ## 1. Tokens -/

/-- Nothing but blanks. -/
def Blanks (cs : List Char) : Prop := ∀ c ∈ cs, isJsonBlank c = true

/-- A hexadecimal digit of either case. -/
def isHexDigit (c : Char) : Bool :=
  ('0' ≤ c && c ≤ '9') || ('a' ≤ c && c ≤ 'f') || ('A' ≤ c && c ≤ 'F')

/-- An escape, from behind its backslash. -/
inductive IsEscape : List Char → Prop
  | letter {c} : c ∈ ['"', '\\', '/', 'b', 'f', 'n', 'r', 't'] → IsEscape [c]
  | number {a b c d} : isHexDigit a → isHexDigit b → isHexDigit c → isHexDigit d →
      IsEscape ['u', a, b, c, d]

/-- What may stand between the quotes of a string. -/
inductive IsChars : List Char → Prop
  | nil : IsChars []
  | plain {c cs} : c ≠ '"' → c ≠ '\\' → 32 ≤ c.toNat → IsChars cs → IsChars (c :: cs)
  | escape {e cs} : IsEscape e → IsChars cs → IsChars ('\\' :: (e ++ cs))

/-- One digit or more. -/
def IsDigits (ds : List Char) : Prop := ds ≠ [] ∧ ∀ d ∈ ds, Numbers.isDigit d = true

/-- The whole part of a number does not start with a zero, unless that is all of it. -/
def IsWhole (ds : List Char) : Prop := IsDigits ds ∧ (ds.head? = some '0' → ds = ['0'])

/-- The fraction of a number, if it has one. -/
inductive IsFraction : List Char → Prop
  | none : IsFraction []
  | point {ds} : IsDigits ds → IsFraction ('.' :: ds)

/-- The exponent of a number, if it has one. -/
inductive IsExponent : List Char → Prop
  | none : IsExponent []
  | power {letter sign ds} : Numbers.isExponentLetter letter → sign ∈ [[], ['+'], ['-']] →
      IsDigits ds → IsExponent (letter :: (sign ++ ds))

/-- A number without its sign. -/
def IsUnsigned (cs : List Char) : Prop :=
  ∃ whole fraction exponent, IsWhole whole ∧ IsFraction fraction ∧ IsExponent exponent ∧
    cs = whole ++ (fraction ++ exponent)

/-- A number. -/
def IsNumber (cs : List Char) : Prop := IsUnsigned cs ∨ ∃ u, IsUnsigned u ∧ cs = '-' :: u

/-! ## 2. Productions -/

/-- The kinds of phrases. -/
inductive Phrase
  | value
  /-- A value with blanks around it. -/
  | text
  /-- The items of a list that has some. -/
  | items
  /-- The members of an object, each with its key and its value as they are spelled. -/
  | members (rows : List (List Char × List Char))

/-- The grammar: `Derives p cs` says that `cs` is a phrase of the kind `p`. -/
inductive Derives : Phrase → List Char → Prop
  | word {cs} : cs ∈ [nullWord, trueWord, falseWord] → Derives .value cs
  | number {cs} : IsNumber cs → Derives .value cs
  | string {cs} : IsChars cs → Derives .value ('"' :: (cs ++ ['"']))
  | emptyList {gap} : Blanks gap → Derives .value ('[' :: (gap ++ [']']))
  | list {cs} : Derives .items cs → Derives .value ('[' :: (cs ++ [']']))
  | object {rows cs} : Derives (.members rows) cs → Derives .value ('\x7b' :: (cs ++ ['\x7d']))
  | text {gap cs gap'} : Blanks gap → Derives .value cs → Blanks gap' →
      Derives .text (gap ++ (cs ++ gap'))
  | lastItem {cs} : Derives .text cs → Derives .items cs
  | item {cs rest} : Derives .text cs → Derives .items rest → Derives .items (cs ++ ',' :: rest)
  | noMember {gap} : Blanks gap → Derives (.members []) gap
  | lastMember {gap key space cs} : Blanks gap → IsChars key → Blanks space → Derives .text cs →
      Derives (.members [(key, cs)]) (gap ++ '"' :: (key ++ '"' :: (space ++ ':' :: cs)))
  | member {gap key space cs row rows rest} : Blanks gap → IsChars key → Blanks space →
      Derives .text cs → Derives (.members (row :: rows)) rest →
      Derives (.members ((key, cs) :: row :: rows))
        (gap ++ '"' :: (key ++ '"' :: (space ++ ':' :: (cs ++ ',' :: rest))))

end Grammar

open Grammar

/-- A JSON text: one value, with nothing but blanks around it. -/
def IsText (cs : List Char) : Prop := Derives .text cs

/-- A JSON text whose value is an object with some members, as they are spelled. -/
def IsObjectText (rows : List (List Char × List Char)) (cs : List Char) : Prop :=
  ∃ gap inner gap', Blanks gap ∧ Derives (.members rows) inner ∧ Blanks gap' ∧
    cs = gap ++ ('\x7b' :: (inner ++ ['\x7d']) ++ gap')

namespace Grammar

variable {s r cs : List Char}

/-! ## 3. Strings are skipped -/

theorem hexValue?_of_isHexDigit {c : Char} (h : isHexDigit c = true) :
    ∃ n, Text.hexValue? c = some n := by
  simp only [isHexDigit, Bool.or_eq_true, Bool.and_eq_true, decide_eq_true_eq] at h
  unfold Text.hexValue?
  split
  · exact ⟨_, rfl⟩
  split
  · exact ⟨_, rfl⟩
  split
  · exact ⟨_, rfl⟩
  · rename_i h₁ h₂ h₃
    exact (h.elim (fun h => h.elim h₁ h₂) h₃).elim

theorem isHexDigit_of_hexValue? {c : Char} {n : Nat} (h : Text.hexValue? c = some n) :
    isHexDigit c = true := by
  simp only [isHexDigit, Bool.or_eq_true, Bool.and_eq_true, decide_eq_true_eq]
  unfold Text.hexValue? at h
  split at h
  · exact Or.inl (Or.inl ‹_›)
  split at h
  · exact Or.inl (Or.inr ‹_›)
  split at h
  · exact Or.inr ‹_›
  · cases h

theorem escape_of_isEscape {e : List Char} (h : IsEscape e) (s : List Char) :
    ∃ d, (Strings.escape .skip).run (e ++ s) = .ok (d, s) := by
  cases h with
  | letter hc =>
    simp only [List.mem_cons, List.not_mem_nil, or_false] at hc
    rcases hc with rfl | rfl | rfl | rfl | rfl | rfl | rfl | rfl <;> exact ⟨_, rfl⟩
  | number ha hb hc hd =>
    obtain ⟨w, hw⟩ := hexValue?_of_isHexDigit ha
    obtain ⟨x, hx⟩ := hexValue?_of_isHexDigit hb
    obtain ⟨y, hy⟩ := hexValue?_of_isHexDigit hc
    obtain ⟨z, hz⟩ := hexValue?_of_isHexDigit hd
    simp only [List.cons_append, List.nil_append, Strings.escape_run_u, Strings.numbered,
      Strings.hex4, hw, hx, hy, hz]
    exact ⟨_, rfl⟩

theorem exists_isEscape {d : Char} (h : (Strings.escape .skip).run s = .ok (d, r)) :
    ∃ e, IsEscape e ∧ s = e ++ r := by
  cases s with
  | nil => cases h
  | cons c s =>
    by_cases hu : c = 'u'
    · subst hu
      rw [Strings.escape_run_u, Strings.numbered] at h
      split at h
      · cases h
      · rename_i n r₁ hx
        cases h
        unfold Strings.hex4 at hx
        split at hx
        · split at hx
          · rename_i ha hb hc hd
            obtain ⟨-, rfl⟩ := Prod.mk.inj (Except.ok.inj hx)
            exact ⟨_, .number (isHexDigit_of_hexValue? ha) (isHexDigit_of_hexValue? hb)
              (isHexDigit_of_hexValue? hc) (isHexDigit_of_hexValue? hd), rfl⟩
          · cases hx
        · cases hx
    · rw [Strings.escape_run_cons _ hu] at h
      split at h
      · rename_i d' hd
        cases h
        refine ⟨[c], .letter ?_, rfl⟩
        unfold Strings.lettered? at hd
        simp only [List.mem_cons, List.not_mem_nil, or_false]
        grind
      · cases h

/-- The characters of a string are skipped up to its closing quote. -/
theorem body_of_isChars (h : IsChars cs) (r : List Char) :
    ∃ t, (Strings.body .skip).run (cs ++ '"' :: r) = .ok (t, r) := by
  have htakes : ∃ ds, Strings.TakesBody .skip (cs ++ '"' :: r) ds r := by
    induction h with
    | nil => exact ⟨[], .close⟩
    | plain hq hb hc _ ih =>
      obtain ⟨ds, hds⟩ := ih
      exact ⟨_, .plain hq hb hc hds⟩
    | @escape e cs he _ ih =>
      obtain ⟨ds, hds⟩ := ih
      obtain ⟨d, hd⟩ := escape_of_isEscape he (cs ++ '"' :: r)
      rw [List.cons_append, List.append_assoc]
      exact ⟨_, .escape hd hds⟩
  obtain ⟨ds, hds⟩ := htakes
  exact ⟨String.ofList ds, Strings.body_eq_ok_iff.mpr (String.toList_ofList.symm ▸ hds)⟩

/-- What is taken for a string, in either mode, is one. -/
theorem exists_isChars {mode : Mode} {t : String} (h : (Strings.body mode).run s = .ok (t, r)) :
    ∃ cs, IsChars cs ∧ s = cs ++ '"' :: r := by
  have hskip : ∃ u, (Strings.body .skip).run s = .ok (u, r) := by
    cases mode with
    | read => exact Strings.body_skip h
    | skip => exact ⟨t, h⟩
  obtain ⟨u, hu⟩ := hskip
  have htakes := Strings.body_eq_ok_iff.mp hu
  generalize u.toList = ds at htakes
  clear h hu
  induction htakes with
  | close => exact ⟨[], .nil, rfl⟩
  | escape he _ ih =>
    obtain ⟨cs, hcs, rfl⟩ := ih
    obtain ⟨e, hesc, rfl⟩ := exists_isEscape he
    exact ⟨_, .escape hesc hcs, by simp⟩
  | plain hq hb hc _ ih =>
    obtain ⟨cs, hcs, rfl⟩ := ih
    exact ⟨_, .plain hq hb hc hcs, rfl⟩

/-! ## 4. Numbers are skipped -/

section Numbers

open Numbers

variable {mode : Mode} {ds fraction exponent whole : List Char}

/-- No digit stands at the front. -/
def EndsDigits (s : List Char) : Prop := ∀ c ∈ s.head?, isDigit c = false

/-- Digits are taken up to the first other character. -/
theorem digits_of_front (h : ∀ d ∈ ds, isDigit d = true) (hs : EndsDigits s) :
    digits (ds ++ s) = ds ∧ afterDigits (ds ++ s) = s := by
  have hfront : s.takeWhile isDigit = [] ∧ s.dropWhile isDigit = s := by
    cases s with
    | nil => exact ⟨rfl, rfl⟩
    | cons c s => simp [hs c rfl]
  constructor
  · rw [digits, List.takeWhile_append_of_pos h, hfront.1, List.append_nil]
  · rw [afterDigits, List.dropWhile_append_of_pos h, hfront.2]

theorem isDigits_digits (h : digits s ≠ []) : IsDigits (digits s) :=
  ⟨h, fun _ hd => isDigit_of_mem_digits hd⟩

theorem endsDigits_exponent (h : IsExponent exponent) (hr : EndsNumber r) :
    EndsDigits (exponent ++ r) ∧ ∀ c ∈ (exponent ++ r).head?, c ≠ '.' := by
  cases h with
  | none => exact ⟨fun c hc => (hr c hc).1, fun c hc => (hr c hc).2.1⟩
  | power hletter =>
    simp only [isExponentLetter, Bool.or_eq_true, decide_eq_true_eq] at hletter
    constructor
    · rintro c ⟨⟩
      rcases hletter with rfl | rfl <;> decide
    · rintro c ⟨⟩
      rcases hletter with rfl | rfl <;> decide

theorem endsDigits_fraction (h : IsFraction fraction) (hs : EndsDigits s) :
    EndsDigits (fraction ++ s) := by
  cases h with
  | none => exact hs
  | point =>
    rintro c ⟨⟩
    rfl

theorem scanExponent?_of_isExponent (mode : Mode) (h : IsExponent exponent) (hr : EndsNumber r) :
    ∃ x, scanExponent? mode (exponent ++ r) = .ok (x, r) := by
  cases h with
  | none =>
    cases r with
    | nil => exact ⟨_, rfl⟩
    | cons c r => exact ⟨none, by simp [scanExponent?, (hr c rfl).2.2]⟩
  | @power letter sign ds hletter hsign hds =>
    obtain ⟨hd, ha⟩ := digits_of_front hds.2 fun c hc => (hr c hc).1
    obtain ⟨d, ds', rfl⟩ := List.exists_cons_of_ne_nil hds.1
    obtain ⟨down, hsign⟩ : ∃ down,
        exponentSign (sign ++ (d :: ds' ++ r)) = (down, d :: ds' ++ r) := by
      simp only [List.mem_cons, List.not_mem_nil, or_false] at hsign
      rcases hsign with rfl | rfl | rfl
      · have hd := hds.2 d List.mem_cons_self
        have hplus : d ≠ '+' := by
          rintro rfl
          cases hd
        have hminus : d ≠ '-' := by
          rintro rfl
          cases hd
        simp [exponentSign, hplus, hminus]
      · exact ⟨false, rfl⟩
      · exact ⟨true, rfl⟩
    rw [List.cons_append, List.append_assoc]
    simp only [scanExponent?, hletter, if_true, scanExponent, hsign, hd, ha]
    exact ⟨_, rfl⟩

theorem scanTail_of_parts {negative : Bool} (hfraction : IsFraction fraction)
    (hexponent : IsExponent exponent) (hr : EndsNumber r) :
    ∃ l, scanTail mode negative whole (fraction ++ (exponent ++ r)) = .ok (l, r) := by
  obtain ⟨x, hx⟩ := scanExponent?_of_isExponent mode hexponent hr
  obtain ⟨hends, hpoint⟩ := endsDigits_exponent hexponent hr
  cases hfraction with
  | none =>
    rw [List.nil_append, scanTail_of_no_point _ _ hpoint]
    simp only [hx]
    exact ⟨_, rfl⟩
  | point hds =>
    obtain ⟨hd, ha⟩ := digits_of_front hds.2 hends
    obtain ⟨d, ds', rfl⟩ := List.exists_cons_of_ne_nil hds.1
    rw [List.cons_append, scanTail_of_point, hd, ha]
    simp only [hx]
    exact ⟨_, rfl⟩

theorem scanWhole_of_isWhole (h : IsWhole whole) (hs : EndsDigits s) :
    scanWhole mode (whole ++ s) = .ok (whole, s) := by
  obtain ⟨⟨hne, hdigits⟩, hzero⟩ := h
  obtain ⟨hd, ha⟩ := digits_of_front hdigits hs
  obtain ⟨c, ds', rfl⟩ := List.exists_cons_of_ne_nil hne
  rw [List.cons_append] at hd ha ⊢
  by_cases hc : c = '0'
  · subst hc
    obtain ⟨-, rfl⟩ := List.cons.inj (hzero rfl)
    cases s with
    | nil => rfl
    | cons d s => simp [scanWhole, hs d rfl]
  · simp only [scanWhole, hc, hdigits c List.mem_cons_self, if_true, if_false, hd, ha]

/-- A number is scanned up to its end. -/
theorem scan_of_isUnsigned (mode : Mode) (negative : Bool) (h : IsUnsigned cs)
    (hr : EndsNumber r) :
    ∃ l, scan mode negative (cs ++ r) = .ok (l, r) := by
  obtain ⟨whole, fraction, exponent, hwhole, hfraction, hexponent, rfl⟩ := h
  have hends := endsDigits_fraction hfraction (endsDigits_exponent hexponent hr).1
  simp only [List.append_assoc, scan, scanWhole_of_isWhole hwhole hends]
  exact scanTail_of_parts hfraction hexponent hr

theorem exists_isExponent {x : Option (Bool × List Char)}
    (h : scanExponent? mode s = .ok (x, r)) :
    ∃ exponent, IsExponent exponent ∧ s = exponent ++ r := by
  cases s with
  | nil =>
    cases h
    exact ⟨[], .none, rfl⟩
  | cons c s =>
    simp only [scanExponent?] at h
    split at h
    · rename_i hc
      split at h
      · cases h
      · rename_i y r' hy
        cases h
        obtain ⟨sign, hsign, hs⟩ : ∃ sign ∈ [[], ['+'], ['-']], s = sign ++ (exponentSign s).2 := by
          unfold exponentSign
          split
          · exact ⟨['+'], by simp, rfl⟩
          · exact ⟨['-'], by simp, rfl⟩
          · exact ⟨[], by simp, rfl⟩
        simp only [scanExponent] at hy
        split at hy
        · cases hy
        · rename_i hne
          cases hy
          refine ⟨_, .power hc hsign (isDigits_digits hne), ?_⟩
          rw [List.cons_append, List.append_assoc, digits_append_afterDigits, ← hs]
    · cases h
      exact ⟨[], .none, rfl⟩

theorem exists_isWhole (h : scanWhole mode s = .ok (ds, r)) : IsWhole ds ∧ s = ds ++ r := by
  refine ⟨?_, (scanWhole_eq_append h).1⟩
  cases s with
  | nil => cases h
  | cons c s =>
    simp only [scanWhole] at h
    split at h
    · have hzero : ds = ['0'] := by
        split at h
        · cases h
          rfl
        · split at h
          · cases h
          · cases h
            rfl
      subst hzero
      exact ⟨⟨by simp, List.forall_mem_singleton.mpr rfl⟩, fun _ => rfl⟩
    · rename_i hc
      split at h
      · rename_i hd
        cases h
        have hne : digits (c :: s) ≠ [] := by simp [digits, hd]
        refine ⟨isDigits_digits hne, fun hhead => absurd ?_ hc⟩
        simpa [digits, hd] using hhead
      · cases h

/-- What is scanned is a number. -/
theorem exists_isUnsigned {negative : Bool} {l : Literal}
    (h : scan mode negative s = .ok (l, r)) : ∃ cs, IsUnsigned cs ∧ s = cs ++ r := by
  unfold scan at h
  split at h
  · cases h
  rename_i whole r₁ hw
  obtain ⟨hwhole, rfl⟩ := exists_isWhole hw
  obtain ⟨fraction, exponent, hfraction, hexponent, rfl⟩ : ∃ fraction exponent,
      IsFraction fraction ∧ IsExponent exponent ∧ r₁ = fraction ++ (exponent ++ r) := by
    unfold scanTail at h
    split at h
    · rename_i t
      split at h
      · cases h
      rename_i hne
      split at h
      · cases h
      rename_i hx
      cases h
      obtain ⟨exponent, hexponent, hs⟩ := exists_isExponent hx
      refine ⟨_, exponent, .point (isDigits_digits hne), hexponent, ?_⟩
      rw [List.cons_append, ← hs, digits_append_afterDigits]
    · split at h
      · cases h
      rename_i hx
      cases h
      obtain ⟨exponent, hexponent, hs⟩ := exists_isExponent hx
      exact ⟨[], exponent, .none, hexponent, hs⟩
  exact ⟨_, ⟨whole, fraction, exponent, hwhole, hfraction, hexponent, rfl⟩, by simp⟩

end Numbers

/-! ## 5. What the grammar derives is skipped -/

section Skipping

variable {mode : Mode} {first : Bool} {gap : List Char} {rows : List (List Char × List Char)}

theorem front_of_value (h : Derives .value cs) :
    ∃ c cs', cs = c :: cs' ∧ isJsonBlank c = false ∧ c ≠ ']' := by
  cases h with
  | word h =>
    simp only [List.mem_cons, List.not_mem_nil, or_false] at h
    rcases h with rfl | rfl | rfl <;> exact ⟨_, _, rfl, rfl, by decide⟩
  | number h =>
    rcases h with ⟨whole, fraction, exponent, hwhole, -, -, rfl⟩ | ⟨u, -, rfl⟩
    · obtain ⟨c, ds, rfl⟩ := List.exists_cons_of_ne_nil hwhole.1.1
      have hc := hwhole.1.2 c List.mem_cons_self
      refine ⟨c, _, rfl, Decimal.isJsonBlank_of_isNumeral (by simp [Decimal.isNumeral, hc]), ?_⟩
      rintro rfl
      cases hc
    · exact ⟨_, _, rfl, rfl, by decide⟩
  | string | emptyList | list | object => exact ⟨_, _, rfl, rfl, by decide⟩

theorem front_of_text (h : Derives .text cs) (r : List Char) :
    ∃ c s, skipBlanks (cs ++ r) = c :: s ∧ c ≠ ']' := by
  cases h with
  | text hgap hv =>
    obtain ⟨c, cs', rfl, hc, hne⟩ := front_of_value hv
    rw [List.append_assoc, skipBlanks_of_blanks hgap]
    exact ⟨c, _, List.dropWhile_cons_of_neg (by simp [hc]), hne⟩

theorem front_of_items (h : Derives .items cs) (r : List Char) :
    ∃ c s, skipBlanks (cs ++ r) = c :: s ∧ c ≠ ']' := by
  cases h with
  | lastItem h => exact front_of_text h r
  | item h =>
    rw [List.append_assoc]
    exact front_of_text h _

theorem front_of_members {row : List Char × List Char}
    (h : Derives (.members (row :: rows)) cs) (r : List Char) :
    ∃ s, skipBlanks (cs ++ r) = '"' :: s := by
  cases h with
  | lastMember hgap | member hgap =>
    rw [List.append_assoc, skipBlanks_of_blanks hgap]
    exact ⟨_, rfl⟩

/-- Behind a comma a key stands as at the start. -/
theorem nextKey_comma (hgap : Blanks gap) (h : skipBlanks s = '"' :: r) :
    nextKey mode false (gap ++ ',' :: s) = nextKey mode true s := by
  rw [nextKey_eq_ok_iff.mpr (.first h),
    nextKey_eq_ok_iff.mpr (.next (skipBlanks_of_blanks hgap _) h)]

theorem nextKey_brace (hgap : Blanks gap) (r : List Char) :
    nextKey mode first (gap ++ '\x7d' :: r) = .ok (.closed r) :=
  nextKey_eq_ok_iff.mpr (.closed (skipBlanks_of_blanks hgap _))

theorem nextItem_bracket (hgap : Blanks gap) (r : List Char) :
    nextItem mode first (gap ++ ']' :: r) = .ok (.closed r) :=
  nextItem_eq_ok_iff.mpr (.closed (skipBlanks_of_blanks hgap _))

/-- `Visits mode visit st rows st'`: taken one after the other, the members that the rows spell
lead from `st` to `st'`, whatever stands behind each of them. -/
inductive Visits {σ : Type} (mode : Mode) (visit : σ → String → Reader σ) :
    σ → List (List Char × List Char) → σ → Prop
  | nil {st} : Visits mode visit st [] st
  | cons {st st₁ st₂ spelling cs rows key} :
      (∀ r, (Strings.body mode).run (spelling ++ '"' :: r) = .ok (key, r)) →
      (∀ s r, colon s = .ok (cs ++ r) → EndsNumber r →
        ∃ gap, Blanks gap ∧ (visit st key).run s = .ok (st₁, gap ++ r)) →
      Visits mode visit st₁ rows st₂ → Visits mode visit st ((spelling, cs) :: rows) st₂

variable {σ : Type} {visit : σ → String → Reader σ} {st st' : σ}

/-- The members of an object are taken up to its brace if each of its rows is. -/
theorem takesMembers_of_visits (hv : Visits mode visit st rows st')
    (h : Derives (.members rows) cs) (r : List Char)
    (hs : nextKey mode first s = nextKey mode true (cs ++ '\x7d' :: r)) :
    TakesMembers mode visit first st s st' r := by
  induction hv generalizing cs first s with
  | nil =>
    cases h with
    | noMember hgap => exact .closed (hs.trans (nextKey_brace hgap r))
  | @cons _ _ _ _ cs _ _ hkey hvalue hrest ih =>
    cases h with
    | @lastMember gap _ space _ hgap _ hspace =>
      simp only [List.append_assoc, List.cons_append] at hs
      rw [nextKey_eq_ok_iff.mpr (.first (skipBlanks_of_blanks hgap _))] at hs
      obtain ⟨gap', hgap', hrun⟩ := hvalue (space ++ ':' :: (cs ++ '\x7d' :: r)) ('\x7d' :: r)
        (colon_eq_ok_iff.mpr (skipBlanks_of_blanks hspace _)) (.of_head (by decide) _)
      have hnone : Derives (.members []) [] := .noMember nofun
      refine .member hs (hkey _) hrun (ih hnone ?_)
      rw [nextKey_brace hgap']
      rfl
    | @member gap _ space _ _ _ rest hgap _ hspace _ hmore =>
      simp only [List.append_assoc, List.cons_append] at hs
      rw [nextKey_eq_ok_iff.mpr (.first (skipBlanks_of_blanks hgap _))] at hs
      obtain ⟨gap', hgap', hrun⟩ := hvalue (space ++ ':' :: (cs ++ ',' :: (rest ++ '\x7d' :: r)))
        (',' :: (rest ++ '\x7d' :: r))
        (colon_eq_ok_iff.mpr (skipBlanks_of_blanks hspace _)) (.of_head (by decide) _)
      obtain ⟨x, hx⟩ := front_of_members hmore ('\x7d' :: r)
      exact .member hs (hkey _) hrun (ih hmore (nextKey_comma hgap' hx))

/-- What skipping makes of a phrase of each kind. -/
def Skipped : Phrase → List Char → Prop
  | .value, cs => ∀ n r, cs.length ≤ n → EndsNumber r →
    (skippingTo n).run (cs ++ r) = .ok ((), r)
  | .text, cs => ∀ n r, cs.length ≤ n → EndsNumber r →
    ∃ gap, Blanks gap ∧ (skippingTo n).run (cs ++ r) = .ok ((), gap ++ r)
  | .items, cs => ∀ n r, cs.length ≤ n → ∀ first s r₁,
    nextItem .skip first s = .ok (.item r₁) → skipBlanks r₁ = skipBlanks (cs ++ ']' :: r) →
    ∃ us, TakesItems .skip (skippingTo n) first s us r
  | .members rows, cs => ∀ n, cs.length ≤ n →
    Visits .skip (fun _ _ => value (skippingTo n)) () rows ()

theorem skippingTo_of_front {l : Lexeme} (n : Nat) (hs : skipBlanks s = s)
    (h : Lexeme.Scans .skip s l r) (hl : l.isOpening = false) :
    (skippingTo n).run s = .ok ((), r) := skippingTo_of_scalar n (hs.symm ▸ h) hl

theorem skipped_number (h : IsNumber cs) : Skipped .value cs := by
  intro n r _ hr
  rcases h with hu | ⟨u, hu, rfl⟩
  · obtain ⟨l, hl⟩ := scan_of_isUnsigned .skip false hu hr
    obtain ⟨whole, fraction, exponent, hwhole, -, -, rfl⟩ := hu
    obtain ⟨c, ds, rfl⟩ := List.exists_cons_of_ne_nil hwhole.1.1
    have hc := hwhole.1.2 c List.mem_cons_self
    exact skippingTo_of_front n (skipBlanks_numeral (by simp [Decimal.isNumeral, hc]) _)
      (.natural hc hl) rfl
  · obtain ⟨l, hl⟩ := scan_of_isUnsigned .skip true hu hr
    exact skippingTo_of_front n rfl (.negative hl) rfl

/-- One member more. -/
theorem visits_skip_cons {n : Nat} {key : List Char} (hkey : IsChars key) (hcs : Skipped .text cs)
    (hn : cs.length ≤ n) (h : Visits .skip (fun _ _ => value (skippingTo n)) () rows ()) :
    Visits .skip (fun _ _ => value (skippingTo n)) () ((key, cs) :: rows) () := by
  obtain ⟨t, ht⟩ := body_of_isChars hkey []
  have hbody : ∀ r, (Strings.body .skip).run (key ++ '"' :: r) = .ok (t, r) := by
    intro r
    simpa using (Strings.body_closes .skip).append r ht
  refine .cons hbody (fun s r hc hr => ?_) h
  obtain ⟨gap, hgap, hrun⟩ := hcs n r hn hr
  exact ⟨gap, hgap, (value_run hc).trans hrun⟩

/-- **What the grammar derives is skipped**, up to its end, if the bound on the depth is no less
than its length. -/
theorem Derives.skipped {p : Phrase} (h : Derives p cs) : Skipped p cs := by
  induction h with
  | word h =>
    intro n r _ _
    simp only [List.mem_cons, List.not_mem_nil, or_false] at h
    rcases h with rfl | rfl | rfl
    · exact skippingTo_of_front n rfl (.nullWord rfl) rfl
    · exact skippingTo_of_front n rfl (.trueWord rfl) rfl
    · exact skippingTo_of_front n rfl (.falseWord rfl) rfl
  | number h => exact skipped_number h
  | string h =>
    intro n r _ _
    obtain ⟨t, ht⟩ := body_of_isChars h r
    rw [List.cons_append, List.append_assoc]
    exact skippingTo_of_front n rfl (.string ht) rfl
  | emptyList hgap =>
    intro n r hn _
    obtain ⟨m, rfl⟩ : ∃ m, n = m + 1 := ⟨n - 1, by simp at hn; omega⟩
    rw [List.cons_append, List.append_assoc]
    exact skippingTo_of_list .list (.closed (nextItem_bracket hgap r))
  | @list cs h ih =>
    intro n r hn _
    obtain ⟨m, rfl⟩ : ∃ m, n = m + 1 := ⟨n - 1, by simp at hn; omega⟩
    obtain ⟨c, s, hs, hc⟩ := front_of_items h (']' :: r)
    obtain ⟨us, hus⟩ := ih m r (by simp at hn; omega) true (cs ++ ']' :: r) (c :: s)
      (nextItem_eq_ok_iff.mpr (.first hs hc)) (by rw [← hs, skipBlanks_skipBlanks])
    rw [List.cons_append, List.append_assoc]
    exact skippingTo_of_list .list hus
  | object h ih =>
    intro n r hn _
    obtain ⟨m, rfl⟩ : ∃ m, n = m + 1 := ⟨n - 1, by simp at hn; omega⟩
    rw [List.cons_append, List.append_assoc]
    exact skippingTo_of_map .map
      (takesMembers_of_visits (ih m (by simp at hn; omega)) h r rfl)
  | @text gap cs gap' hgap _ hgap' ih =>
    intro n r hn hr
    refine ⟨gap', hgap', ?_⟩
    rw [List.append_assoc, List.append_assoc, skippingTo_congr n (skipBlanks_of_blanks hgap _)]
    exact ih n _ (by simp at hn; omega) (.of_blanks hgap' hr)
  | lastItem _ ih =>
    intro n r hn first s r₁ hs hr₁
    obtain ⟨gap, hgap, hrun⟩ := ih n (']' :: r) hn (.of_head (by decide) _)
    rw [← skippingTo_congr n hr₁] at hrun
    exact ⟨[()], .item hs hrun (.closed (nextItem_bracket hgap r))⟩
  | @item cs rest _ _ ihText ihRest =>
    intro n r hn first s r₁ hs hr₁
    simp only [List.length_append, List.length_cons] at hn
    rw [List.append_assoc, List.cons_append] at hr₁
    obtain ⟨gap, hgap, hrun⟩ := ihText n (',' :: (rest ++ ']' :: r)) (by omega)
      (.of_head (by decide) _)
    rw [← skippingTo_congr n hr₁] at hrun
    obtain ⟨us, hus⟩ := ihRest n r (by omega) false (gap ++ ',' :: (rest ++ ']' :: r)) _
      (nextItem_eq_ok_iff.mpr (.skipped (skipBlanks_of_blanks hgap _))) rfl
    exact ⟨() :: us, .item hs hrun hus⟩
  | noMember => exact fun _ _ => .nil
  | lastMember _ hkey _ _ ih =>
    intro n hn
    simp only [List.length_append, List.length_cons] at hn
    exact visits_skip_cons hkey ih (by omega) .nil
  | member _ hkey _ _ _ ihText ihRest =>
    intro n hn
    simp only [List.length_append, List.length_cons] at hn
    exact visits_skip_cons hkey ihText (by omega) (ihRest n (by omega))

end Skipping

/-! ## 6. What is skipped is derived by the grammar -/

section Deriving

variable {mode : Mode} {gap : List Char}

/-- A value stands at the front of `s`, behind blanks, and `r` is left behind it. -/
def TakesValue (s r : List Char) : Prop :=
  ∃ gap cs, Blanks gap ∧ Derives .value cs ∧ s = gap ++ (cs ++ r)

theorem exists_blanks (s : List Char) : ∃ gap, Blanks gap ∧ s = gap ++ skipBlanks s :=
  ⟨s.takeWhile isJsonBlank, fun _ hc => List.mem_takeWhile_imp hc,
    List.takeWhile_append_dropWhile.symm⟩

/-- Blanks on both sides make a text of a value. -/
theorem TakesValue.text (h : TakesValue s (gap ++ r)) (hgap : Blanks gap) :
    ∃ cs, Derives .text cs ∧ s = cs ++ r := by
  obtain ⟨gap', cs, hgap', hcs, rfl⟩ := h
  exact ⟨_, .text hgap' hcs hgap, by simp⟩

theorem Blanks.nil : Blanks [] := nofun

theorem Blanks.append {gap' : List Char} (h : Blanks gap) (h' : Blanks gap') :
    Blanks (gap ++ gap') := fun c hc => (List.mem_append.mp hc).elim (h c) (h' c)

/-- More blanks before a value do not matter. -/
theorem TakesValue.blanks_append (h : TakesValue s r) (hgap : Blanks gap) :
    TakesValue (gap ++ s) r := by
  obtain ⟨gap', cs, hgap', hcs, rfl⟩ := h
  exact ⟨gap ++ gap', cs, hgap.append hgap', hcs, by simp⟩

theorem eq_of_readWord {w : List Char} (h : readWord w s = .ok r) : s = w ++ r := by
  induction w generalizing s with
  | nil =>
    cases h
    rfl
  | cons a w ih =>
    cases s with
    | nil => cases h
    | cons c s =>
      rw [readWord] at h
      split at h
      · rename_i hc
        rw [ih h, hc]
        rfl
      · cases h

theorem derives_of_scans {l : Lexeme} (h : Lexeme.Scans mode s l r) (hl : l.isOpening = false) :
    ∃ cs, Derives .value cs ∧ s = cs ++ r := by
  cases h with
  | nullWord hw => exact ⟨nullWord, .word (by simp), by rw [eq_of_readWord hw]; rfl⟩
  | trueWord hw => exact ⟨trueWord, .word (by simp), by rw [eq_of_readWord hw]; rfl⟩
  | falseWord hw => exact ⟨falseWord, .word (by simp), by rw [eq_of_readWord hw]; rfl⟩
  | negative hn =>
    obtain ⟨u, hu, rfl⟩ := exists_isUnsigned hn
    exact ⟨_, .number (Or.inr ⟨u, hu, rfl⟩), rfl⟩
  | natural hd hn =>
    obtain ⟨u, hu, hs⟩ := exists_isUnsigned hn
    exact ⟨u, .number (Or.inl hu), hs⟩
  | string hb =>
    obtain ⟨cs, hcs, rfl⟩ := exists_isChars hb
    exact ⟨_, .string hcs, by simp⟩
  | list => cases hl
  | map => cases hl

variable {α σ : Type} {p : Reader α} {visit : σ → String → Reader σ} {first : Bool}

/-- Another item stands behind blanks, and behind a comma unless it is the first. -/
theorem exists_of_nextItem (h : nextItem mode first s = .ok (.item r)) :
    ∃ gap gap', Blanks gap ∧ Blanks gap' ∧
      s = gap ++ ((if first then [] else [',']) ++ (gap' ++ r)) := by
  obtain ⟨gap, hgap, hs⟩ := exists_blanks s
  cases nextItem_eq_ok_iff.mp h with
  | first hc => exact ⟨gap, [], hgap, by simp [Blanks], by rw [hs, hc]; rfl⟩
  | next hc hd =>
    rename_i r₁ _ _ _
    obtain ⟨gap', hgap', hr₁⟩ := exists_blanks r₁
    exact ⟨gap, gap', hgap, hgap', by rw [hs, hc, hr₁, hd]; rfl⟩
  | skipped hc => exact ⟨gap, [], hgap, by simp [Blanks], by rw [hs, hc]; rfl⟩

theorem exists_of_nextItem_closed (h : nextItem mode first s = .ok (.closed r)) :
    ∃ gap, Blanks gap ∧ s = gap ++ ']' :: r := by
  obtain ⟨gap, hgap, hs⟩ := exists_blanks s
  cases nextItem_eq_ok_iff.mp h with
  | closed hc => exact ⟨gap, hgap, by rw [hs, hc]⟩

theorem exists_of_nextKey (h : nextKey mode first s = .ok (.item r)) :
    ∃ gap gap', Blanks gap ∧ Blanks gap' ∧
      s = gap ++ ((if first then [] else [',']) ++ (gap' ++ '"' :: r)) := by
  obtain ⟨gap, hgap, hs⟩ := exists_blanks s
  cases nextKey_eq_ok_iff.mp h with
  | first hc => exact ⟨gap, [], hgap, by simp [Blanks], by rw [hs, hc]; rfl⟩
  | next hc hd =>
    rename_i r₁
    obtain ⟨gap', hgap', hr₁⟩ := exists_blanks r₁
    exact ⟨gap, gap', hgap, hgap', by rw [hs, hc, hr₁, hd]; rfl⟩

theorem exists_of_nextKey_closed (h : nextKey mode first s = .ok (.closed r)) :
    ∃ gap, Blanks gap ∧ s = gap ++ '\x7d' :: r := by
  obtain ⟨gap, hgap, hs⟩ := exists_blanks s
  cases nextKey_eq_ok_iff.mp h with
  | closed hc => exact ⟨gap, hgap, by rw [hs, hc]⟩

/-- The reader takes values. -/
def ReadsValues (p : Reader α) : Prop := ∀ s a r, p.run s = .ok (a, r) → TakesValue s r

/-- The visitor takes a colon and a value. -/
def VisitsValues (visit : σ → String → Reader σ) : Prop :=
  ∀ st key s st' r, (visit st key).run s = .ok (st', r) →
    ∃ r', colon s = .ok r' ∧ TakesValue r' r

/-- Behind an item: the list is closed, or a comma and further items follow. -/
def EndsItems (s r : List Char) : Prop :=
  ∃ gap, Blanks gap ∧ (s = gap ++ ']' :: r ∨
    ∃ cs, Derives .items cs ∧ s = gap ++ ',' :: (cs ++ ']' :: r))

/-- A value, and what stands behind an item. -/
theorem items_of_value {s₁ : List Char} (hv : TakesValue s s₁) (h : EndsItems s₁ r) :
    ∃ cs, Derives .items cs ∧ s = cs ++ ']' :: r := by
  obtain ⟨gap, hgap, rfl | ⟨rest, hrest, rfl⟩⟩ := h
  · obtain ⟨cs, hcs, rfl⟩ := hv.text hgap
    exact ⟨cs, .lastItem hcs, rfl⟩
  · obtain ⟨cs, hcs, rfl⟩ := hv.text hgap
    exact ⟨_, .item hcs hrest, by simp⟩

theorem endsItems_of_takesItems {as : List α} (hp : ReadsValues p)
    (h : TakesItems mode p false s as r) : EndsItems s r := by
  generalize hfirst : false = first at h
  induction h with
  | closed hn =>
    obtain ⟨gap, hgap, hs⟩ := exists_of_nextItem_closed hn
    exact ⟨gap, hgap, Or.inl hs⟩
  | item hn hv _ ih =>
    subst hfirst
    obtain ⟨gap, gap', hgap, hgap', rfl⟩ := exists_of_nextItem hn
    obtain ⟨cs, hcs, hs⟩ := items_of_value ((hp _ _ _ hv).blanks_append hgap') (ih rfl)
    exact ⟨gap, hgap, Or.inr ⟨cs, hcs, by rw [hs]; rfl⟩⟩

/-- The items that are taken from behind a bracket make a list. -/
theorem list_of_takesItems {as : List α} (hp : ReadsValues p)
    (h : TakesItems mode p true s as r) :
    ∃ cs, Derives .value ('[' :: (cs ++ [']'])) ∧ s = cs ++ ']' :: r := by
  cases h with
  | closed hn =>
    obtain ⟨gap, hgap, rfl⟩ := exists_of_nextItem_closed hn
    exact ⟨gap, .emptyList hgap, rfl⟩
  | item hn hv hrest =>
    obtain ⟨gap, gap', hgap, hgap', rfl⟩ := exists_of_nextItem hn
    obtain ⟨cs, hcs, hs⟩ := items_of_value
      (((hp _ _ _ hv).blanks_append hgap').blanks_append hgap) (endsItems_of_takesItems hp hrest)
    exact ⟨cs, .list hcs, hs⟩

/-- A member behind its opening quote: its key, a colon and a value with blanks around it. -/
theorem exists_row {key : String} {s₁ : List Char} (hk : (Strings.body mode).run s = .ok (key, s₁))
    (hv : ∃ r', colon s₁ = .ok r' ∧ TakesValue r' (gap ++ r)) (hgap : Blanks gap) :
    ∃ spelling space cs, IsChars spelling ∧ Blanks space ∧ Derives .text cs ∧
      s = spelling ++ '"' :: (space ++ ':' :: (cs ++ r)) := by
  obtain ⟨spelling, hspelling, rfl⟩ := exists_isChars hk
  obtain ⟨r', hcolon, hvalue⟩ := hv
  obtain ⟨space, hspace, hs₁⟩ := exists_blanks s₁
  rw [colon_eq_ok_iff.mp hcolon] at hs₁
  obtain ⟨cs, hcs, rfl⟩ := hvalue.text hgap
  exact ⟨spelling, space, cs, hspelling, hspace, hcs, by rw [hs₁]⟩

/-- Behind a member: the object is closed, or a comma and further members follow. -/
def EndsMembers (s r : List Char) : Prop :=
  ∃ gap, Blanks gap ∧ (s = gap ++ '\x7d' :: r ∨
    ∃ row rows cs, Derives (.members (row :: rows)) cs ∧ s = gap ++ ',' :: (cs ++ '\x7d' :: r))

/-- A member from behind its opening quote, and what stands behind a member. -/
theorem members_of_key {key : String} {s₁ s₂ : List Char}
    (hk : (Strings.body mode).run s = .ok (key, s₁))
    (hv : ∃ r', colon s₁ = .ok r' ∧ TakesValue r' s₂) (h : EndsMembers s₂ r)
    (hgap : Blanks gap) :
    ∃ row rows cs, Derives (.members (row :: rows)) cs ∧
      gap ++ '"' :: s = cs ++ '\x7d' :: r := by
  obtain ⟨gap', hgap', rfl | ⟨row, rows, rest, hrest, rfl⟩⟩ := h
  · obtain ⟨spelling, space, cs, hspelling, hspace, hcs, rfl⟩ := exists_row hk hv hgap'
    exact ⟨_, _, _, .lastMember hgap hspelling hspace hcs, by simp⟩
  · obtain ⟨spelling, space, cs, hspelling, hspace, hcs, rfl⟩ := exists_row hk hv hgap'
    exact ⟨_, _, _, .member hgap hspelling hspace hcs hrest, by simp⟩

theorem endsMembers_of_takesMembers {st st' : σ} (hvisit : VisitsValues visit)
    (h : TakesMembers mode visit false st s st' r) : EndsMembers s r := by
  generalize hfirst : false = first at h
  induction h with
  | closed hn =>
    obtain ⟨gap, hgap, hs⟩ := exists_of_nextKey_closed hn
    exact ⟨gap, hgap, Or.inl hs⟩
  | member hn hk hv _ ih =>
    subst hfirst
    obtain ⟨gap, gap', hgap, hgap', rfl⟩ := exists_of_nextKey hn
    obtain ⟨row, rows, cs, hcs, hs⟩ :=
      members_of_key hk (hvisit _ _ _ _ _ hv) (ih rfl) hgap'
    exact ⟨gap, hgap, Or.inr ⟨row, rows, cs, hcs, by rw [hs]; rfl⟩⟩

/-- The members that are taken from behind a brace make an object. -/
theorem object_of_takesMembers {st st' : σ} (hvisit : VisitsValues visit)
    (h : TakesMembers mode visit true st s st' r) :
    ∃ rows cs, Derives (.members rows) cs ∧ s = cs ++ '\x7d' :: r := by
  cases h with
  | closed hn =>
    obtain ⟨gap, hgap, rfl⟩ := exists_of_nextKey_closed hn
    exact ⟨[], gap, .noMember hgap, rfl⟩
  | member hn hk hv hrest =>
    obtain ⟨gap, gap', hgap, hgap', rfl⟩ := exists_of_nextKey hn
    obtain ⟨row, rows, cs, hcs, hs⟩ := members_of_key hk (hvisit _ _ _ _ _ hv)
      (endsMembers_of_takesMembers hvisit hrest) (hgap.append hgap')
    exact ⟨_, cs, hcs, by simpa using hs⟩

/-- **What is skipped is derived by the grammar.** -/
theorem takesValue_of_skippingTo {n : Nat} (h : (skippingTo n).run s = .ok ((), r)) :
    TakesValue s r := by
  obtain ⟨gap, hgap, hs⟩ := exists_blanks s
  induction n generalizing gap s r with
  | zero =>
    rcases skippingWith_cases h with ⟨l, hl, ho⟩ | ⟨p, hp, -⟩
    · obtain ⟨cs, hcs, heq⟩ := derives_of_scans hl ho
      exact ⟨gap, cs, hgap, hcs, by rw [← heq, ← hs]⟩
    · cases hp
  | succ n ih =>
    have hvalue : ReadsValues (skippingTo n) := by
      intro s u r h
      obtain ⟨gap, hgap, hs⟩ := exists_blanks s
      exact ih h gap hgap hs
    rcases skippingWith_cases h with ⟨l, hl, ho⟩ | ⟨p, hp, ⟨us, r₁, hl, hi⟩ | ⟨r₁, hl, hm⟩⟩
    · obtain ⟨cs, hcs, heq⟩ := derives_of_scans hl ho
      exact ⟨gap, cs, hgap, hcs, by rw [← heq, ← hs]⟩
    · cases hp
      obtain ⟨cs, hcs, htail⟩ := list_of_takesItems hvalue hi
      generalize skipBlanks s = s₀ at hl hs
      cases hl
      exact ⟨gap, _, hgap, hcs, by rw [hs]; simp [← htail]⟩
    · cases hp
      obtain ⟨rows, cs, hcs, htail⟩ := object_of_takesMembers
        (fun _ _ _ _ _ hv => (colon_of_value hv).imp fun _ h => ⟨h.1, hvalue _ _ _ h.2⟩) hm
      generalize skipBlanks s = s₀ at hl hs
      cases hl
      exact ⟨gap, _, hgap, .object hcs, by rw [hs]; simp [← htail]⟩

end Deriving

end Grammar

/-! ## 7. Texts -/

/-- **The texts of JSON are those that can be skipped as a whole**, up to blanks at the end. -/
theorem isText_iff (body : String) : IsText body.toList ↔ readWhole skipping body = .ok () := by
  rw [readWhole_eq_ok_iff]
  constructor
  · intro h
    obtain ⟨gap, hgap, hrun⟩ := h.skipped body.toList.length [] (Nat.le_refl _) nofun
    rw [List.append_nil, List.append_nil] at hrun
    exact ⟨gap, hrun, skipBlanks_eq_nil_iff.mpr hgap⟩
  · rintro ⟨r, hrun, hr⟩
    have hvalue : TakesValue body.toList (r ++ []) := by
      rw [List.append_nil]
      exact takesValue_of_skippingTo hrun
    obtain ⟨cs, hcs, hbody⟩ := hvalue.text (skipBlanks_eq_nil_iff.mp hr)
    rw [hbody, List.append_nil]
    exact hcs

end CodeAssistant.Json
