/-
# What readers take

The loops over lists and objects, and the reader of a value of any shape, said as relations
between a text, what is read, and what is left of the text.  `TakesItems` and `TakesMembers` have
one case for the end and one for a further item or member, so that what holds of one step of a
loop holds of the loop by induction on the relation; the recursion of the loops themselves, which
goes by the length of the text, is opened here and nowhere else.

`Json.Takes` has a case for each kind of value.  Its scalars are all one: what is found at the front
of the text is what the tree is (`Json.found`).
-/
import CodeAssistant.Json.Document
import Mathlib.Data.List.TakeWhile

namespace CodeAssistant

theorem Reader.map_eq_ok_iff {α β : Type} {p : Reader α} {f : α → β} {s r : List Char} {b : β} :
    (p.map f).run s = .ok (b, r) ↔ ∃ a, p.run s = .ok (a, r) ∧ f a = b := by
  simp only [Reader.map]
  cases p.run s with
  | error e => simp
  | ok found =>
    obtain ⟨a, r'⟩ := found
    constructor
    · intro h
      cases h
      exact ⟨a, rfl, rfl⟩
    · rintro ⟨a', h, rfl⟩
      cases h
      rfl

/-! ## 1. Strings -/

namespace Strings

/-- `TakesBody mode s cs r`: the characters `cs` are spelled at the front of `s`, up to the closing
quote, and `r` is left behind it. -/
inductive TakesBody (mode : Mode) : List Char → List Char → List Char → Prop
  | close {r} : TakesBody mode ('"' :: r) [] r
  | escape {r r' r'' d cs} : (escape mode).run r = .ok (d, r') → TakesBody mode r' cs r'' →
      TakesBody mode ('\\' :: r) (d :: cs) r''
  | plain {c r r' cs} : c ≠ '"' → c ≠ '\\' → 32 ≤ c.toNat → TakesBody mode r cs r' →
      TakesBody mode (c :: r) (c :: cs) r'

variable {mode : Mode} {s r : List Char}

theorem bodyLoop_eq_ok_iff {cs : List Char} :
    bodyLoop mode s = .ok (cs, r) ↔ TakesBody mode s cs r := by
  constructor
  · intro h
    fun_induction bodyLoop mode s generalizing cs r with
    | case1 => cases h
    | case2 =>
      cases h
      exact .close
    | case3 => cases h
    | case4 => cases h
    | case5 r₀ d r' he cs' r'' hb _ ih =>
      cases h
      exact .escape he (ih hb)
    | case6 => cases h
    | case7 => cases h
    | case8 c r' hq hb hc cs' r'' hl ih =>
      cases h
      exact .plain hq hb (Nat.le_of_not_lt hc) (ih hl)
  · intro h
    induction h with
    | close => simp [bodyLoop]
    | escape he _ ih =>
      rw [bodyLoop]
      simp only [Char.reduceEq, if_false, if_true]
      split
      · simp_all
      · rename_i he'
        obtain ⟨rfl, rfl⟩ : _ = _ ∧ _ = _ := by simpa [he] using he'
        simp only [ih]
    | plain hq hb hc _ ih =>
      rw [bodyLoop]
      simp only [hq, hb, Nat.not_lt.mpr hc, if_false, ih]

theorem body_eq_ok_iff {t : String} :
    (body mode).run s = .ok (t, r) ↔ TakesBody mode s t.toList r := by
  rw [← bodyLoop_eq_ok_iff]
  simp only [body, Reader.map]
  cases bodyLoop mode s with
  | error e => simp
  | ok x =>
    obtain ⟨cs, r'⟩ := x
    simp only [Except.ok.injEq, Prod.mk.injEq]
    rw [← String.toList_inj, String.toList_ofList]

end Strings

/-! ## 2. The front of a value -/

namespace Lexeme

/-- `Scans mode s l r`: `l` stands at the front of `s`, and `r` is left behind it. -/
inductive Scans (mode : Mode) : List Char → Lexeme → List Char → Prop
  | nullWord {s r} : readWord ['u', 'l', 'l'] s = .ok r → Scans mode ('n' :: s) null r
  | trueWord {s r} : readWord ['r', 'u', 'e'] s = .ok r → Scans mode ('t' :: s) (bool true) r
  | falseWord {s r} : readWord ['a', 'l', 's', 'e'] s = .ok r → Scans mode ('f' :: s) (bool false) r
  | negative {s r l} : Numbers.scan mode true s = .ok (l, r) → Scans mode ('-' :: s) (number l) r
  | natural {c s r l} : Numbers.isDigit c = true → Numbers.scan mode false (c :: s) = .ok (l, r) →
      Scans mode (c :: s) (number l) r
  | string {s r t} : (Strings.body mode).run s = .ok (t, r) → Scans mode ('"' :: s) (string t) r
  | list {s} : Scans mode ('[' :: s) list ('[' :: s)
  | map {s} : Scans mode ('\x7b' :: s) map ('\x7b' :: s)

variable {mode : Mode} {s r : List Char} {l : Lexeme}

theorem word_eq_ok_iff {w : List Char} {m : Lexeme} :
    word w m s = .ok (l, r) ↔ readWord w s = .ok r ∧ l = m := by
  unfold word
  cases readWord w s with
  | error e => simp
  | ok r' => simp [eq_comm, and_comm]

theorem numeral_eq_ok_iff {negative : Bool} :
    numeral mode negative s = .ok (l, r) ↔
      ∃ n, Numbers.scan mode negative s = .ok (n, r) ∧ l = number n := by
  unfold numeral
  cases Numbers.scan mode negative s with
  | error e => simp
  | ok x =>
    obtain ⟨n, r'⟩ := x
    simp only [Except.ok.injEq, Prod.mk.injEq]
    constructor
    · rintro ⟨rfl, rfl⟩
      exact ⟨n, ⟨rfl, rfl⟩, rfl⟩
    · rintro ⟨_, ⟨rfl, rfl⟩, rfl⟩
      exact ⟨rfl, rfl⟩

theorem scan_eq_ok_iff : scan mode s = .ok (l, r) ↔ Scans mode s l r := by
  constructor
  · intro h
    unfold scan at h
    split at h
    · cases h
    · rename_i c t
      split at h
      · rename_i hc
        obtain ⟨hw, rfl⟩ := word_eq_ok_iff.mp h
        exact hc ▸ .nullWord hw
      split at h
      · rename_i hc
        obtain ⟨hw, rfl⟩ := word_eq_ok_iff.mp h
        exact hc ▸ .trueWord hw
      split at h
      · rename_i hc
        obtain ⟨hw, rfl⟩ := word_eq_ok_iff.mp h
        exact hc ▸ .falseWord hw
      split at h
      · rename_i hc
        obtain ⟨n, hn, rfl⟩ := numeral_eq_ok_iff.mp h
        exact hc ▸ .negative hn
      split at h
      · rename_i hc
        obtain ⟨n, hn, rfl⟩ := numeral_eq_ok_iff.mp h
        exact .natural hc hn
      split at h
      · rename_i hc
        split at h
        · cases h
        · rename_i hb
          cases h
          exact hc ▸ .string hb
      split at h
      · rename_i hc
        cases h
        exact hc ▸ .list
      split at h
      · rename_i hc
        cases h
        exact hc ▸ .map
      · cases h
  · intro h
    cases h with
    | nullWord hw => exact word_eq_ok_iff.mpr ⟨hw, rfl⟩
    | trueWord hw => exact word_eq_ok_iff.mpr ⟨hw, rfl⟩
    | falseWord hw => exact word_eq_ok_iff.mpr ⟨hw, rfl⟩
    | negative hn => exact numeral_eq_ok_iff.mpr ⟨_, hn, rfl⟩
    | @natural c s r l hd hn =>
      have hne : ∀ d, Numbers.isDigit d = false → c ≠ d := by
        rintro d hf rfl
        exact absurd (hd.symm.trans hf) (by simp)
      rw [scan, if_neg (hne _ (by decide)), if_neg (hne _ (by decide)), if_neg (hne _ (by decide)),
        if_neg (hne _ (by decide)), if_pos hd]
      exact numeral_eq_ok_iff.mpr ⟨_, hn, rfl⟩
    | string hb =>
      rw [scan, if_neg (by decide), if_neg (by decide), if_neg (by decide), if_neg (by decide),
        if_neg (by decide), if_pos rfl, hb]
    | list => rfl
    | map => rfl

/-- What is found, if the number is in range. -/
def found? : Lexeme → Option Found
  | null => some .null
  | bool b => some (.bool b)
  | string s => some (.string s)
  | list => some .list
  | map => some .map
  | number l => l.number?.toOption.map .number

end Lexeme

theorem readFound_eq_ok_iff {s r : List Char} {f : Found} :
    readFound s = .ok (f, r) ↔
      ∃ l, Lexeme.Scans .read (skipBlanks s) l r ∧ l.found? = some f := by
  simp only [← Lexeme.scan_eq_ok_iff]
  unfold readFound
  constructor
  · intro h
    split at h
    case h_7 l r' hs =>
      split at h
      · rename_i n hn
        cases h
        exact ⟨_, hs, by simp [Lexeme.found?, hn, Except.toOption]⟩
      · cases h
    · cases h
    all_goals
      rename_i hs
      cases h
      exact ⟨_, hs, rfl⟩
  · rintro ⟨l, hs, hf⟩
    rw [hs]
    cases l with
    | number l =>
      simp only [Lexeme.found?, Option.map_eq_some_iff] at hf
      obtain ⟨n, hn, rfl⟩ := hf
      cases hl : l.number? with
      | error e =>
        rw [hl] at hn
        cases hn
      | ok m =>
        rw [hl] at hn
        cases hn
        simp only [hl]
    | null | bool | string | list | map =>
      cases hf
      rfl

/-! ## 3. The places between values -/

namespace Brackets

/-- `ItemPlace mode first s n`: `n` comes next in the text `s` of a list. -/
inductive ItemPlace : Mode → Bool → List Char → Next → Prop
  | closed {mode first s r} : skipBlanks s = ']' :: r → ItemPlace mode first s (.closed r)
  | first {mode s c r} : skipBlanks s = c :: r → c ≠ ']' → ItemPlace mode true s (.item (c :: r))
  | next {s r d r'} : skipBlanks s = ',' :: r → skipBlanks r = d :: r' → d ≠ ']' →
      ItemPlace .read false s (.item (d :: r'))
  | skipped {s r} : skipBlanks s = ',' :: r → ItemPlace .skip false s (.item r)

/-- `KeyPlace first s n`: `n` comes next in the text `s` of an object, in either mode. -/
inductive KeyPlace : Bool → List Char → Next → Prop
  | closed {first s r} : skipBlanks s = '\x7d' :: r → KeyPlace first s (.closed r)
  | first {s r} : skipBlanks s = '"' :: r → KeyPlace true s (.item r)
  | next {s r r'} : skipBlanks s = ',' :: r → skipBlanks r = '"' :: r' → KeyPlace false s (.item r')

variable {mode : Mode} {first : Bool} {s r : List Char} {n : Next}

theorem nextItem_eq_ok_iff : nextItem mode first s = .ok n ↔ ItemPlace mode first s n := by
  constructor
  · intro h
    unfold nextItem at h
    split at h
    · cases h
    rename_i c r hs
    split at h
    · rename_i hc
      cases h
      exact .closed (hc ▸ hs)
    rename_i hc
    split at h
    · rename_i hf
      cases h
      subst hf
      exact .first hs hc
    rename_i hf
    obtain rfl : first = false := by simpa using hf
    split at h
    · rename_i hcomma
      subst hcomma
      cases mode with
      | skip =>
        cases h
        exact .skipped hs
      | read =>
        simp only at h
        split at h
        · cases h
        rename_i d r' hr
        split at h
        · cases h
        rename_i hd
        cases h
        exact .next hs hr hd
    · cases h
  · intro h
    cases h with
    | closed hs => simp only [nextItem, hs, if_true]
    | first hs hc => simp only [nextItem, hs, if_neg hc, if_true]
    | next hs hr hd => simp [nextItem, hs, hr, hd]
    | skipped hs => simp [nextItem, hs]

theorem keyStart_eq_ok_iff : keyStart s = .ok n ↔ ∃ r, s = '"' :: r ∧ n = .item r := by
  unfold keyStart
  split
  · simp [eq_comm]
  · rename_i hs
    simp only [reduceCtorEq, false_iff]
    rintro ⟨r, rfl, -⟩
    exact hs r rfl

theorem nextKey_eq_ok_iff : nextKey mode first s = .ok n ↔ KeyPlace first s n := by
  constructor
  · intro h
    unfold nextKey at h
    split at h
    · cases h
    rename_i c r hs
    split at h
    · rename_i hc
      cases h
      exact .closed (hc ▸ hs)
    split at h
    · rename_i hf
      subst hf
      obtain ⟨r', hr, rfl⟩ := keyStart_eq_ok_iff.mp h
      exact .first (hs.trans hr)
    rename_i hf
    obtain rfl : first = false := by simpa using hf
    split at h
    · rename_i hcomma
      subst hcomma
      split at h
      · cases h
      · cases h
      · cases h
      · obtain ⟨r', hr, rfl⟩ := keyStart_eq_ok_iff.mp h
        exact .next hs hr
    · cases h
  · intro h
    cases h with
    | closed hs => simp only [nextKey, hs, if_true]
    | first hs => simp [nextKey, hs, keyStart]
    | next hs hr => cases mode <;> simp [nextKey, hs, hr, keyStart]

theorem colon_eq_ok_iff : colon s = .ok r ↔ skipBlanks s = ':' :: r := by
  unfold colon
  split
  · simp_all
  · split <;> simp_all

theorem endOfItems_eq_ok_iff : endOfItems s = .ok r ↔ skipBlanks s = ']' :: r := by
  unfold endOfItems
  split
  · simp_all
  · split
    · simp_all
    · split
      · split <;> simp_all
      · simp_all

end Brackets

/-! ## 4. Loops -/

namespace Brackets

section Equations

variable {α σ : Type} {mode : Mode} {p : Reader α} {visit : σ → String → Reader σ} {first : Bool}
  {st : σ} {s r r' : List Char} {key : String}

theorem items_of_closed (h : nextItem mode first s = .ok (.closed r)) :
    items mode p first s = .ok ([], r) := by
  rw [items]
  split <;> simp_all

theorem items_of_item (h : nextItem mode first s = .ok (.item r)) :
    items mode p first s =
      match p.run r with
      | .error e => .error e
      | .ok (a, r') => match items mode p false r' with
        | .error e => .error e
        | .ok (as, r'') => .ok (a :: as, r'') := by
  rw [items]
  split
  · simp_all
  · simp_all
  · rename_i hn
    obtain rfl : r = _ := by simpa [h] using hn
    cases hp : p.run r with
    | error e => rfl
    | ok found => cases items mode p false found.2 <;> rfl

theorem members_of_closed (h : nextKey mode first s = .ok (.closed r)) :
    members mode visit first st s = .ok (st, r) := by
  rw [members]
  split <;> simp_all

theorem members_of_item (h : nextKey mode first s = .ok (.item r))
    (hk : (Strings.body mode).run r = .ok (key, r')) :
    members mode visit first st s =
      match (visit st key).run r' with
      | .error e => .error e
      | .ok (st', r'') => members mode visit false st' r'' := by
  rw [members]
  split
  · simp_all
  · simp_all
  · rename_i hn
    obtain rfl : r = _ := by simpa [h] using hn
    split
    · simp_all
    · rename_i hk'
      obtain ⟨rfl, rfl⟩ : key = _ ∧ r' = _ := by simpa [hk] using hk'
      split <;> simp_all

end Equations

section Relations

variable {α σ : Type}

/-- `TakesItems mode p first s as r`: the items `as` stand at the front of `s`, up to the closing
bracket, and `r` is left behind it. -/
inductive TakesItems (mode : Mode) (p : Reader α) : Bool → List Char → List α → List Char → Prop
  | closed {first s r} : nextItem mode first s = .ok (.closed r) → TakesItems mode p first s [] r
  | item {first s r₁ r₂ r₃ a as} : nextItem mode first s = .ok (.item r₁) →
      p.run r₁ = .ok (a, r₂) → TakesItems mode p false r₂ as r₃ →
      TakesItems mode p first s (a :: as) r₃

/-- `TakesMembers mode visit first st s st' r`: the members at the front of `s`, up to the closing
brace, lead from the state `st` to `st'`, and `r` is left behind the brace. -/
inductive TakesMembers (mode : Mode) (visit : σ → String → Reader σ) :
    Bool → σ → List Char → σ → List Char → Prop
  | closed {first st s r} : nextKey mode first s = .ok (.closed r) →
      TakesMembers mode visit first st s st r
  | member {first st st₁ st₂ s r₁ r₂ r₃ r₄ key} : nextKey mode first s = .ok (.item r₁) →
      (Strings.body mode).run r₁ = .ok (key, r₂) → (visit st key).run r₂ = .ok (st₁, r₃) →
      TakesMembers mode visit false st₁ r₃ st₂ r₄ → TakesMembers mode visit first st s st₂ r₄

variable {mode : Mode} {p : Reader α} {visit : σ → String → Reader σ} {first : Bool}
  {st st' : σ} {s r : List Char} {as : List α}

theorem items_eq_ok_iff : items mode p first s = .ok (as, r) ↔ TakesItems mode p first s as r := by
  constructor
  · intro h
    fun_induction items mode p first s generalizing as r with
    | case1 => cases h
    | case2 first s r' hn =>
      cases h
      exact .closed hn
    | case3 => cases h
    | case4 => cases h
    | case5 first s r₁ hn a r₂ hp rest r₃ hi ih =>
      cases h
      exact .item hn hp (ih hi)
  · intro h
    induction h with
    | closed hn => exact items_of_closed hn
    | item hn hp _ ih => simp only [items_of_item hn, hp, ih]

theorem members_eq_ok_iff :
    members mode visit first st s = .ok (st', r) ↔ TakesMembers mode visit first st s st' r := by
  constructor
  · intro h
    fun_induction members mode visit first st s with
    | case1 => cases h
    | case2 first st s r' hn =>
      cases h
      exact .closed hn
    | case3 => cases h
    | case4 => cases h
    | case5 first st s r₁ hn key r₂ hk st₁ r₃ hv ih => exact .member hn hk hv (ih h)
  · intro h
    induction h with
    | closed hn => exact members_of_closed hn
    | member hn hk hv _ ih => simp only [members_of_item hn hk, hv, ih]

/-- A value behind a colon is the value behind it. -/
theorem value_run (h : colon s = .ok r) : (value p).run s = p.run r := by
  simp only [value, Reader.after, h]

theorem colon_of_value {a : α} (h : (value p).run s = .ok (a, r)) :
    ∃ r', colon s = .ok r' ∧ p.run r' = .ok (a, r) := by
  simp only [value, Reader.after] at h
  split at h
  · cases h
  · rename_i r' hc
    exact ⟨r', hc, h⟩

end Relations

end Brackets

/-! ## 5. Values -/

namespace Json

open Brackets

/-- What is found at the front of a text of the tree. -/
def found : Json → Found
  | null => .null
  | bool b => .bool b
  | number n => .number n
  | string s => .string s
  | array _ => .list
  | object _ => .map

/-- `TakesPairs p first s ms r`: the members `ms`, in their order and with values read by `p`,
stand at the front of `s`, up to the closing brace, and `r` is left behind it. -/
inductive TakesPairs (p : Reader Json) :
    Bool → List Char → List (String × Json) → List Char → Prop
  | closed {first s r} : nextKey .read first s = .ok (.closed r) → TakesPairs p first s [] r
  | pair {first s r₁ r₂ r₃ r₄ r₅ key v ms} : nextKey .read first s = .ok (.item r₁) →
      (Strings.body .read).run r₁ = .ok (key, r₂) → colon r₂ = .ok r₃ → p.run r₃ = .ok (v, r₄) →
      TakesPairs p false r₄ ms r₅ → TakesPairs p first s ((key, v) :: ms) r₅

/-- The visitor of members collects them last first. -/
theorem takesMembers_iff {s r : List Char} {p : Reader Json} {first : Bool}
    {acc acc' : List (String × Json)} :
    TakesMembers .read (visitMember p) first acc s acc' r ↔
      ∃ ms, acc' = ms.reverse ++ acc ∧ TakesPairs p first s ms r := by
  constructor
  · intro h
    induction h with
    | closed hn => exact ⟨[], rfl, .closed hn⟩
    | member hn hk hv _ ih =>
      obtain ⟨ms, hms, htakes⟩ := ih
      obtain ⟨v, hp, rfl⟩ := Reader.map_eq_ok_iff.mp hv
      obtain ⟨r₃, hc, hp⟩ := colon_of_value hp
      exact ⟨(_, v) :: ms, by simp [hms], .pair hn hk hc hp htakes⟩
  · rintro ⟨ms, rfl, h⟩
    induction h generalizing acc with
    | closed hn => exact .closed hn
    | @pair first s r₁ r₂ r₃ r₄ r₅ key v ms hn hk hc hp _ ih =>
      have hv : (visitMember p acc key).run r₂ = .ok ((key, v) :: acc, r₄) :=
        Reader.map_eq_ok_iff.mpr ⟨v, (value_run hc).trans hp, rfl⟩
      have := TakesMembers.member hn hk hv ih
      simpa using this

theorem members_visitMember_iff {s r : List Char} {p : Reader Json} {ms : List (String × Json)} :
    members .read (visitMember p) true [] s = .ok (ms, r) ↔ TakesPairs p true s ms.reverse r := by
  rw [members_eq_ok_iff, takesMembers_iff]
  constructor
  · rintro ⟨ms, rfl, h⟩
    simpa using h
  · intro h
    exact ⟨ms.reverse, by simp, h⟩

/-- `Takes depth s t r`: a text of the tree `t`, nesting at most `depth` deep, stands at the front
of `s`, and `r` is left behind it. -/
inductive Takes : Nat → List Char → Json → List Char → Prop
  | scalar {depth s t r} : readFound s = .ok (t.found, r) → t.found.isOpening = false →
      Takes depth s t r
  | array {depth s ts r₁ r₂} : readFound s = .ok (.list, r₁) →
      TakesItems .read (reader depth) true r₁.tail ts r₂ → Takes (depth + 1) s (.array ts) r₂
  | object {depth s ms r₁ r₂} : readFound s = .ok (.map, r₁) →
      TakesPairs (reader depth) true r₁.tail ms r₂ → Takes (depth + 1) s (.object ms) r₂

variable {nested : Option (Unit → Reader Json)} {s r : List Char} {t : Json}

/-- A value is a scalar, or its items or members are read by the nested reader. -/
theorem readerWith_cases (h : (readerWith nested).run s = .ok (t, r)) :
    (readFound s = .ok (t.found, r) ∧ t.found.isOpening = false) ∨
      ∃ p, nested = some p ∧
        ((∃ ts r₁, t = .array ts ∧ readFound s = .ok (.list, r₁) ∧
          TakesItems .read (p ()) true r₁.tail ts r) ∨
        ∃ ms r₁, t = .object ms ∧ readFound s = .ok (.map, r₁) ∧
          TakesPairs (p ()) true r₁.tail ms r) := by
  simp only [readerWith] at h
  split at h
  · cases h
  case h_6 r₁ hf =>
    split at h
    · cases h
    · rename_i p
      split at h
      · cases h
      · rename_i ts r' hi
        cases h
        exact Or.inr ⟨p, rfl, Or.inl ⟨ts, r₁, rfl, hf, items_eq_ok_iff.mp hi⟩⟩
  case h_7 r₁ hf =>
    split at h
    · cases h
    · rename_i p
      split at h
      · cases h
      · rename_i ms r' hm
        cases h
        exact Or.inr ⟨p, rfl, Or.inr ⟨_, r₁, rfl, hf, members_visitMember_iff.mp hm⟩⟩
  all_goals
    rename_i hf
    cases h
    exact Or.inl ⟨hf, rfl⟩

theorem reader_eq_ok_iff {depth : Nat} :
    (reader depth).run s = .ok (t, r) ↔ Takes depth s t r := by
  constructor
  · intro h
    cases depth with
    | zero =>
      rw [reader] at h
      rcases readerWith_cases h with ⟨hf, ho⟩ | ⟨p, hp, -⟩
      · exact .scalar hf ho
      · cases hp
    | succ depth =>
      rw [reader] at h
      rcases readerWith_cases h with ⟨hf, ho⟩ | ⟨p, hp, h⟩
      · exact .scalar hf ho
      · cases hp
        rcases h with ⟨ts, r₁, rfl, hf, hi⟩ | ⟨ms, r₁, rfl, hf, hm⟩
        · exact .array hf hi
        · exact .object hf hm
  · intro h
    cases h with
    | scalar hf ho =>
      cases depth <;> cases t <;> simp_all [reader, readerWith, found, Found.isOpening]
    | array hf hi => simp only [reader, readerWith, hf, items_eq_ok_iff.mpr hi]
    | @object depth s ms r₁ r hf hm =>
      have := members_visitMember_iff.mpr ((List.reverse_reverse ms).symm ▸ hm)
      simp only [reader, readerWith, hf, this, List.reverse_reverse]

end Json

/-! ## 6. Whole texts -/

theorem skipBlanks_eq_nil_iff {s : List Char} :
    skipBlanks s = [] ↔ ∀ c ∈ s, isJsonBlank c = true := List.dropWhile_eq_nil_iff

/-- A whole text is a value and blanks behind it. -/
theorem readWhole_eq_ok_iff {α : Type} {p : Reader α} {text : String} {a : α} :
    readWhole p text = .ok a ↔ ∃ r, p.run text.toList = .ok (a, r) ∧ skipBlanks r = [] := by
  unfold readWhole
  constructor
  · intro h
    split at h
    · cases h
    · rename_i r hp
      split at h
      · rename_i hr
        cases h
        exact ⟨r, hp, hr⟩
      · cases h
  · rintro ⟨r, hp, hr⟩
    simp only [hp, hr]

end CodeAssistant
