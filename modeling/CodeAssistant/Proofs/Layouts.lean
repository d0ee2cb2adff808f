/-
# Texts of trees read back

The two layouts of a tree, compact and indented, differ in the blanks between the tokens and in
nothing else.  `layOut` has them as parameters, and both layouts are instances of it
(`writeCompact_eq`, `writeIndented_eq`).

A tree is `Readable` if it does not nest too deep and its floating point numbers read back.  The
text of a readable tree, in any layout, is read back as the tree, and the reader stops where the
text ends, whatever stands behind it (`takes_layOut`).  The induction is on the tree, with one
statement for trees, one for the items of a list and one for the members of an object.
-/
import CodeAssistant.Json.Printer
import CodeAssistant.Proofs.Agreement
import CodeAssistant.Proofs.NumberTexts

namespace CodeAssistant

open Brackets
open Decimal (Binary64)

/-! ## 1. Strings -/

namespace Strings

open Text (hexValue?)
open Json (escapeChar hexDigit)

variable {s r cs : List Char}

theorem hexValue?_digitChar : ∀ n < 16, hexValue? (Nat.digitChar n) = some n := by decide

/-- A control character is spelled by its number. -/
theorem numbered_of_lt {c : Char} (h : c.toNat < 32) (s : List Char) :
    numbered .read ('0' :: '0' :: hexDigit (c.toNat / 16) :: hexDigit c.toNat :: s) =
      .ok (c, s) := by
  have h₁ : hexValue? (hexDigit (c.toNat / 16)) = some (c.toNat / 16 % 16) :=
    hexValue?_digitChar _ (Nat.mod_lt _ (by decide))
  have h₂ : hexValue? (hexDigit c.toNat) = some (c.toNat % 16) :=
    hexValue?_digitChar _ (Nat.mod_lt _ (by decide))
  have h₀ : hexValue? '0' = some 0 := rfl
  have hsum : ((0 * 16 + 0) * 16 + c.toNat / 16 % 16) * 16 + c.toNat % 16 = c.toNat := by omega
  have hlow : isLowSurrogate c.toNat = false := by
    simp [isLowSurrogate]
    omega
  have hhigh : isHighSurrogate c.toNat = false := by
    simp [isHighSurrogate]
    omega
  simp only [numbered, hex4, h₀, h₁, h₂, hsum, hlow, hhigh, Char.ofNat_toNat, Bool.false_eq_true,
    if_false]

theorem escape_of_letter {letter c : Char} (hu : letter ≠ 'u') (h : lettered? letter = some c)
    (s : List Char) : (escape .read).run (letter :: s) = .ok (c, s) := by
  rw [escape_run_cons _ hu, h]

/-- A character that was escaped where necessary is read back. -/
theorem takesBody_escapeChar (c : Char) (h : TakesBody .read s cs r) :
    TakesBody .read (escapeChar c ++ s) (c :: cs) r := by
  have hletter : ∀ letter, letter ≠ 'u' → lettered? letter = some c →
      TakesBody .read (['\\', letter] ++ s) (c :: cs) r :=
    fun letter hu hc => .escape (escape_of_letter hu hc s) h
  unfold escapeChar
  split
  · rename_i hc
    subst hc
    exact hletter _ (by decide) rfl
  split
  · rename_i hc
    subst hc
    exact hletter _ (by decide) rfl
  split
  · rename_i hc
    obtain rfl : c = '\x08' := Char.toNat_inj.mp hc
    exact hletter _ (by decide) rfl
  split
  · rename_i hc
    subst hc
    exact hletter _ (by decide) rfl
  split
  · rename_i hc
    subst hc
    exact hletter _ (by decide) rfl
  split
  · rename_i hc
    obtain rfl : c = '\x0c' := Char.toNat_inj.mp hc
    exact hletter _ (by decide) rfl
  split
  · rename_i hc
    subst hc
    exact hletter _ (by decide) rfl
  split
  · rename_i hc
    have hu : (escape .read).run
        ('u' :: '0' :: '0' :: hexDigit (c.toNat / 16) :: hexDigit c.toNat :: s) = .ok (c, s) :=
      (escape_run_u ..).trans (numbered_of_lt hc s)
    exact .escape hu h
  · rename_i hq hb _ _ _ _ _ hc
    exact .plain hq hb (Nat.le_of_not_lt hc) h

/-- **Strings read back**, whatever their characters. -/
theorem body_of_written (t : String) (r : List Char) :
    (body .read).run (t.toList.flatMap escapeChar ++ '"' :: r) = .ok (t, r) := by
  refine body_eq_ok_iff.mpr ?_
  induction t.toList with
  | nil => exact .close
  | cons c cs ih =>
    rw [List.flatMap_cons, List.append_assoc]
    exact takesBody_escapeChar c ih

end Strings

/-! ## 2. One layout -/

namespace Json

section Layout

variable (gap : Nat → List Char) (space : List Char)

mutual

/-- The text of a tree.  `gap` stands before every item and member and before a closing bracket
behind them, depending on the level; `space` stands behind a colon. -/
def layOut (level : Nat) : Json → List Char
  | null => nullWord
  | bool true => trueWord
  | bool false => falseWord
  | number n => writeNumber n
  | string s => writeString s
  | array [] => ['[', ']']
  | array (v :: rest) =>
    '[' :: (gap (level + 1) ++ layOut (level + 1) v ++ layOutItems level rest)
  | object [] => ['\x7b', '\x7d']
  | object ((k, v) :: rest) =>
    '\x7b' :: (gap (level + 1) ++ writeString k ++ ':' :: (space ++ layOut (level + 1) v)
      ++ layOutMembers level rest)

/-- The items after the first, and the closing bracket. -/
def layOutItems (level : Nat) : List Json → List Char
  | [] => gap level ++ [']']
  | v :: rest => ',' :: (gap (level + 1) ++ layOut (level + 1) v ++ layOutItems level rest)

/-- The members after the first, and the closing brace. -/
def layOutMembers (level : Nat) : List (String × Json) → List Char
  | [] => gap level ++ ['\x7d']
  | (k, v) :: rest =>
    ',' :: (gap (level + 1) ++ writeString k ++ ':' :: (space ++ layOut (level + 1) v)
      ++ layOutMembers level rest)

end

end Layout

mutual

theorem writeCompact_eq (level : Nat) : (t : Json) →
    writeCompact t = layOut (fun _ => []) [] level t
  | null => rfl
  | bool true => rfl
  | bool false => rfl
  | number _ => rfl
  | string _ => rfl
  | array [] => rfl
  | array (v :: rest) => by
    simp [writeCompact, layOut, writeCompact_eq (level + 1) v, writeItems_eq level rest]
  | object [] => rfl
  | object ((k, v) :: rest) => by
    simp [writeCompact, layOut, writeCompact_eq (level + 1) v, writeMembers_eq level rest]

theorem writeItems_eq (level : Nat) : (ts : List Json) →
    writeItems ts = layOutItems (fun _ => []) [] level ts
  | [] => rfl
  | v :: rest => by
    simp [writeItems, layOutItems, writeCompact_eq (level + 1) v, writeItems_eq level rest]

theorem writeMembers_eq (level : Nat) : (ms : List (String × Json)) →
    writeMembers ms = layOutMembers (fun _ => []) [] level ms
  | [] => rfl
  | (k, v) :: rest => by
    simp [writeMembers, layOutMembers, writeCompact_eq (level + 1) v, writeMembers_eq level rest]

end

mutual

theorem writeIndented_eq (level : Nat) : (t : Json) →
    writeIndented level t = layOut newline [' '] level t
  | null => rfl
  | bool true => rfl
  | bool false => rfl
  | number _ => rfl
  | string _ => rfl
  | array [] => rfl
  | array (v :: rest) => by
    simp [writeIndented, layOut, writeIndented_eq (level + 1) v, indentItems_eq level rest]
  | object [] => rfl
  | object ((k, v) :: rest) => by
    simp [writeIndented, layOut, writeIndented_eq (level + 1) v, indentMembers_eq level rest]

theorem indentItems_eq (level : Nat) : (ts : List Json) →
    indentItems level ts = layOutItems newline [' '] level ts
  | [] => rfl
  | v :: rest => by
    simp [indentItems, layOutItems, writeIndented_eq (level + 1) v, indentItems_eq level rest]

theorem indentMembers_eq (level : Nat) : (ms : List (String × Json)) →
    indentMembers level ms = layOutMembers newline [' '] level ms
  | [] => rfl
  | (k, v) :: rest => by
    simp [indentMembers, layOutMembers, writeIndented_eq (level + 1) v, indentMembers_eq level rest]

end

end Json

/-! ## 3. Readable trees -/

namespace Json

mutual

/-- How deep lists and objects nest. -/
def nesting : Json → Nat
  | array ts => itemsNesting ts + 1
  | object ms => membersNesting ms + 1
  | null => 0
  | bool _ => 0
  | number _ => 0
  | string _ => 0

/-- How deep the deepest item nests. -/
def itemsNesting : List Json → Nat
  | [] => 0
  | v :: rest => max (nesting v) (itemsNesting rest)

/-- How deep the deepest member nests. -/
def membersNesting : List (String × Json) → Nat
  | [] => 0
  | (_, v) :: rest => max (nesting v) (membersNesting rest)

end

mutual

/-- The floating point numbers in a tree. -/
def floats : Json → List Binary64
  | number (.float x) => [x]
  | number (.natural _) => []
  | number (.negative _) => []
  | array ts => itemsFloats ts
  | object ms => membersFloats ms
  | null => []
  | bool _ => []
  | string _ => []

/-- The floating point numbers in the items. -/
def itemsFloats : List Json → List Binary64
  | [] => []
  | v :: rest => floats v ++ itemsFloats rest

/-- The floating point numbers in the members. -/
def membersFloats : List (String × Json) → List Binary64
  | [] => []
  | (_, v) :: rest => floats v ++ membersFloats rest

end

mutual

/-- The tree nests at most so deep and its floating point numbers read back. -/
def Readable (depth : Nat) : Json → Prop
  | number (.float x) => ReadsBack x
  | number (.natural _) => True
  | number (.negative _) => True
  | array ts => 0 < depth ∧ ItemsReadable (depth - 1) ts
  | object ms => 0 < depth ∧ MembersReadable (depth - 1) ms
  | null => True
  | bool _ => True
  | string _ => True

/-- Every item is readable. -/
def ItemsReadable (depth : Nat) : List Json → Prop
  | [] => True
  | v :: rest => Readable depth v ∧ ItemsReadable depth rest

/-- Every member's value is readable. -/
def MembersReadable (depth : Nat) : List (String × Json) → Prop
  | [] => True
  | (_, v) :: rest => Readable depth v ∧ MembersReadable depth rest

end

mutual

theorem readable_of_nesting {depth : Nat} : {t : Json} → t.nesting ≤ depth →
    (∀ x ∈ t.floats, ReadsBack x) → Readable depth t
  | number (.float x), _, hx => hx x List.mem_cons_self
  | number (.natural _), _, _ => trivial
  | number (.negative _), _, _ => trivial
  | array ts, hn, hx => by
    rw [nesting] at hn
    exact ⟨by omega, itemsReadable_of_nesting (by omega) hx⟩
  | object ms, hn, hx => by
    rw [nesting] at hn
    exact ⟨by omega, membersReadable_of_nesting (by omega) hx⟩
  | null, _, _ => trivial
  | bool _, _, _ => trivial
  | string _, _, _ => trivial

theorem itemsReadable_of_nesting {depth : Nat} : {ts : List Json} → itemsNesting ts ≤ depth →
    (∀ x ∈ itemsFloats ts, ReadsBack x) → ItemsReadable depth ts
  | [], _, _ => trivial
  | v :: rest, hn, hx => by
    rw [itemsNesting, Nat.max_le] at hn
    rw [itemsFloats, List.forall_mem_append] at hx
    exact ⟨readable_of_nesting hn.1 hx.1, itemsReadable_of_nesting hn.2 hx.2⟩

theorem membersReadable_of_nesting {depth : Nat} : {ms : List (String × Json)} →
    membersNesting ms ≤ depth → (∀ x ∈ membersFloats ms, ReadsBack x) → MembersReadable depth ms
  | [], _, _ => trivial
  | (_, v) :: rest, hn, hx => by
    rw [membersNesting, Nat.max_le] at hn
    rw [membersFloats, List.forall_mem_append] at hx
    exact ⟨readable_of_nesting hn.1 hx.1, membersReadable_of_nesting hn.2 hx.2⟩

end

end Json

/-! ## 4. Trees read back -/

section Tokens

variable {s r : List Char}

theorem skipBlanks_of_blanks {gap : List Char} (hgap : ∀ c ∈ gap, isJsonBlank c = true)
    (s : List Char) : skipBlanks (gap ++ s) = skipBlanks s := by
  rw [skipBlanks, skipBlanks, List.dropWhile_append, List.dropWhile_eq_nil_iff.mpr hgap]
  rfl

theorem EndsNumber.nil : EndsNumber [] := nofun

theorem EndsNumber.of_head {c : Char} (h : Numbers.isDigit c = false ∧ c ≠ '.' ∧
    Numbers.isExponentLetter c = false) (s : List Char) : EndsNumber (c :: s) := by
  intro d hd
  cases hd
  exact h

/-- Blanks end a number, and so do brackets and commas behind them. -/
theorem EndsNumber.of_blanks {gap : List Char} (hgap : ∀ c ∈ gap, isJsonBlank c = true)
    (hs : EndsNumber s) : EndsNumber (gap ++ s) := by
  cases gap with
  | nil => exact hs
  | cons c gap =>
    have hc := hgap c List.mem_cons_self
    refine .of_head ?_ _
    simp only [isJsonBlank, Bool.or_eq_true, decide_eq_true_eq] at hc
    rcases hc with ((rfl | rfl) | rfl) | rfl <;> decide

end Tokens

namespace Json

variable {depth : Nat} {s r : List Char} {t : Json}

/-- Blanks before a value do not matter. -/
theorem Takes.of_skipBlanks {s' : List Char} (h : Takes depth s t r)
    (hs : skipBlanks s' = skipBlanks s) : Takes depth s' t r := by
  have hfound : readFound s' = readFound s := by
    rw [readFound, readFound, hs]
  cases h with
  | scalar hf ho => exact .scalar (hfound.trans hf) ho
  | array hf hi => exact .array (hfound.trans hf) hi
  | object hf hm => exact .object (hfound.trans hf) hm

/-- No value starts with a closing bracket. -/
theorem Takes.front (h : Takes depth s t r) : ∃ c s', skipBlanks s = c :: s' ∧ c ≠ ']' := by
  obtain ⟨r', hf, -⟩ := readFound_of_reader (reader_eq_ok_iff.mpr h)
  obtain ⟨l, hl, -⟩ := readFound_eq_ok_iff.mp hf
  generalize skipBlanks s = s₀ at hl
  cases hl with
  | natural hd =>
    refine ⟨_, _, rfl, ?_⟩
    rintro rfl
    cases hd
  | _ => exact ⟨_, _, rfl, by decide⟩

theorem takes_of_scans {l : Lexeme} (hs : Lexeme.Scans .read s l r)
    (hfront : skipBlanks s = s) (hl : l.found? = some t.found) (ht : t.found.isOpening = false) :
    Takes depth s t r :=
  .scalar (readFound_eq_ok_iff.mpr ⟨l, hfront.symm ▸ hs, hl⟩) ht

/-! ### The places between values -/

section Places

variable {gap : List Char} (hgap : ∀ c ∈ gap, isJsonBlank c = true)
include hgap

theorem nextItem_first (h : Takes depth s t r) :
    nextItem .read true (gap ++ s) = .ok (.item (skipBlanks s)) := by
  obtain ⟨c, s', hs, hc⟩ := h.front
  rw [nextItem_eq_ok_iff, hs]
  exact .first ((skipBlanks_of_blanks hgap s).trans hs) hc

theorem nextItem_next (h : Takes depth s t r) :
    nextItem .read false (',' :: (gap ++ s)) = .ok (.item (skipBlanks s)) := by
  obtain ⟨c, s', hs, hc⟩ := h.front
  rw [nextItem_eq_ok_iff, hs]
  exact .next rfl ((skipBlanks_of_blanks hgap s).trans hs) hc

theorem nextItem_closed (first : Bool) :
    nextItem .read first (gap ++ ']' :: r) = .ok (.closed r) :=
  nextItem_eq_ok_iff.mpr (.closed (skipBlanks_of_blanks hgap _))

theorem nextKey_first : nextKey .read true (gap ++ '"' :: s) = .ok (.item s) :=
  nextKey_eq_ok_iff.mpr (.first (skipBlanks_of_blanks hgap _))

theorem nextKey_next : nextKey .read false (',' :: (gap ++ '"' :: s)) = .ok (.item s) :=
  nextKey_eq_ok_iff.mpr (.next rfl (skipBlanks_of_blanks hgap _))

theorem nextKey_closed (first : Bool) :
    nextKey .read first (gap ++ '\x7d' :: r) = .ok (.closed r) :=
  nextKey_eq_ok_iff.mpr (.closed (skipBlanks_of_blanks hgap _))

end Places

/-! ### The kinds of values -/

theorem skipBlanks_numeral {c : Char} (hc : Decimal.isNumeral c = true) (s : List Char) :
    skipBlanks (c :: s) = c :: s := by
  simp [skipBlanks, Decimal.isJsonBlank_of_isNumeral hc]

theorem scans_natural (n : UInt64) (hr : EndsNumber r) :
    ∃ l, Lexeme.Scans .read (writeNumber (.natural n) ++ r) (.number l) r ∧
      l.number? = .ok (.natural n) := by
  have hn : n.toNat ≤ Numbers.maxSignificand := Nat.le_pred_of_lt n.toNat_lt
  refine ⟨_, ?_, (Numbers.number?_toDigits false hn).trans
    (congrArg _ (Numbers.ofInteger_natural n))⟩
  have hscan : Numbers.scan .read false (Nat.toDigits 10 n.toNat ++ r) =
      .ok (⟨false, Nat.toDigits 10 n.toNat, [], none, false⟩, r) :=
    Numbers.scan_toDigits n.toNat false hr
  obtain ⟨c, cs, hcs⟩ := List.exists_cons_of_ne_nil (Nat.toDigits_ne_nil (n := n.toNat) (b := 10))
  have hc : Numbers.isDigit c = true :=
    Numbers.isDigit_of_mem_toDigits (n := n.toNat) (hcs ▸ List.mem_cons_self)
  rw [writeNumber]
  rw [hcs, List.cons_append] at hscan ⊢
  exact .natural hc hscan

theorem scans_negative (n : Fin 0x8000000000000000) (hr : EndsNumber r) :
    ∃ l, Lexeme.Scans .read (writeNumber (.negative n) ++ r) (.number l) r ∧
      l.number? = .ok (.negative n) := by
  have hn : n.val + 1 ≤ Numbers.maxSignificand := by
    have := n.isLt
    simp only [Numbers.maxSignificand, UInt64.size]
    omega
  exact ⟨_, .negative (Numbers.scan_toDigits (n.val + 1) true hr),
    (Numbers.number?_toDigits true hn).trans (congrArg _ (Numbers.ofInteger_negative n))⟩

theorem takes_number {n : Number} (h : Readable depth (number n)) (hr : EndsNumber r) :
    Takes depth (writeNumber n ++ r) (number n) r := by
  have hscans : ∃ l, Lexeme.Scans .read (writeNumber n ++ r) (.number l) r ∧
      l.number? = .ok n := by
    cases n with
    | natural n => exact scans_natural n hr
    | negative n => exact scans_negative n hr
    | float x => exact ReadsBack.scans h hr
  obtain ⟨l, hl, hn⟩ := hscans
  refine takes_of_scans hl ?_ (by simp [Lexeme.found?, hn, Except.toOption, found]) rfl
  generalize writeNumber n ++ r = s at hl
  cases hl with
  | negative => rfl
  | natural hd => exact skipBlanks_numeral (by simp [Decimal.isNumeral, hd]) _

theorem takes_string (u : String) (r : List Char) :
    Takes depth (writeString u ++ r) (string u) r := by
  refine takes_of_scans (l := .string u) ?_ rfl rfl rfl
  rw [writeString, List.append_assoc]
  exact .string (Strings.body_of_written u r)

theorem takes_array {ts : List Json} (h : TakesItems .read (reader depth) true s ts r) :
    Takes (depth + 1) ('[' :: s) (array ts) r :=
  .array (readFound_eq_ok_iff.mpr ⟨.list, .list, rfl⟩) h

theorem takes_object {ms : List (String × Json)} (h : TakesPairs (reader depth) true s ms r) :
    Takes (depth + 1) ('\x7b' :: s) (object ms) r :=
  .object (readFound_eq_ok_iff.mpr ⟨.map, .map, rfl⟩) h

/-- One item more. -/
theorem takesItems_cons {first : Bool} {text s' : List Char} {v : Json} {ts : List Json}
    (hn : nextItem .read first text = .ok (.item (skipBlanks s))) (hv : Takes depth s v s')
    (hrest : TakesItems .read (reader depth) false s' ts r) :
    TakesItems .read (reader depth) first text (v :: ts) r :=
  .item hn (reader_eq_ok_iff.mpr (hv.of_skipBlanks (skipBlanks_skipBlanks s))) hrest

/-- One member more. -/
theorem takesPairs_cons {first : Bool} {text s' space : List Char} {k : String} {v : Json}
    {ms : List (String × Json)} (hspace : ∀ c ∈ space, isJsonBlank c = true)
    (hn : nextKey .read first text =
      .ok (.item (k.toList.flatMap escapeChar ++ '"' :: ':' :: (space ++ s))))
    (hv : Takes depth s v s') (hrest : TakesPairs (reader depth) false s' ms r) :
    TakesPairs (reader depth) first text ((k, v) :: ms) r :=
  .pair hn (Strings.body_of_written k _) rfl
    (reader_eq_ok_iff.mpr (hv.of_skipBlanks (skipBlanks_of_blanks hspace s))) hrest

/-! ### The induction -/

section Induction

/-- A layout has blanks only between the tokens. -/
structure BlankLayout (gap : Nat → List Char) (space : List Char) : Prop where
  gap : ∀ level, ∀ c ∈ gap level, isJsonBlank c = true
  space : ∀ c ∈ space, isJsonBlank c = true

variable {gap : Nat → List Char} {space : List Char} (hb : BlankLayout gap space)
include hb

/-- What stands behind an item ends a number. -/
theorem endsNumber_layOutItems (level : Nat) (ts : List Json) (r : List Char) :
    EndsNumber (layOutItems gap space level ts ++ r) := by
  cases ts with
  | nil =>
    rw [layOutItems, List.append_assoc]
    exact .of_blanks (hb.gap level) (.of_head (by decide) _)
  | cons v rest => exact .of_head (by decide) _

theorem endsNumber_layOutMembers (level : Nat) (ms : List (String × Json)) (r : List Char) :
    EndsNumber (layOutMembers gap space level ms ++ r) := by
  cases ms with
  | nil =>
    rw [layOutMembers, List.append_assoc]
    exact .of_blanks (hb.gap level) (.of_head (by decide) _)
  | cons m rest => exact .of_head (by decide) _

mutual

/-- **The text of a readable tree is read back**, and the reader stops where it ends. -/
theorem takes_layOut {depth : Nat} (level : Nat) {r : List Char} (hr : EndsNumber r) :
    (t : Json) → Readable depth t → Takes depth (layOut gap space level t ++ r) t r
  | null, _ => takes_of_scans (.nullWord rfl) rfl rfl rfl
  | bool true, _ => takes_of_scans (.trueWord rfl) rfl rfl rfl
  | bool false, _ => takes_of_scans (.falseWord rfl) rfl rfl rfl
  | number _, h => takes_number h hr
  | string u, _ => takes_string u r
  | array [], h => by
    obtain ⟨d, rfl⟩ : ∃ d, depth = d + 1 := ⟨depth - 1, by have := h.1; omega⟩
    exact takes_array (.closed rfl)
  | array (v :: rest), h => by
    obtain ⟨d, rfl⟩ : ∃ d, depth = d + 1 := ⟨depth - 1, by have := h.1; omega⟩
    have hv := takes_layOut (level + 1) (endsNumber_layOutItems hb level rest r) v h.2.1
    simp only [layOut, List.cons_append, List.append_assoc]
    exact takes_array (takesItems_cons (nextItem_first (hb.gap _) hv) hv
      (takesItems_layOut level r rest h.2.2))
  | object [], h => by
    obtain ⟨d, rfl⟩ : ∃ d, depth = d + 1 := ⟨depth - 1, by have := h.1; omega⟩
    exact takes_object (.closed rfl)
  | object ((k, v) :: rest), h => by
    obtain ⟨d, rfl⟩ : ∃ d, depth = d + 1 := ⟨depth - 1, by have := h.1; omega⟩
    have hv := takes_layOut (level + 1) (endsNumber_layOutMembers hb level rest r) v h.2.1
    simp only [layOut, writeString, List.cons_append, List.append_assoc, List.nil_append]
    exact takes_object (takesPairs_cons hb.space (nextKey_first (hb.gap _)) hv
      (takesPairs_layOut level r rest h.2.2))

theorem takesItems_layOut {depth : Nat} (level : Nat) (r : List Char) :
    (ts : List Json) → ItemsReadable depth ts →
      TakesItems .read (reader depth) false (layOutItems gap space level ts ++ r) ts r
  | [], _ => by
    rw [layOutItems, List.append_assoc]
    exact .closed (nextItem_closed (hb.gap _) false)
  | v :: rest, h => by
    have hv := takes_layOut (level + 1) (endsNumber_layOutItems hb level rest r) v h.1
    simp only [layOutItems, List.cons_append, List.append_assoc]
    exact takesItems_cons (nextItem_next (hb.gap _) hv) hv (takesItems_layOut level r rest h.2)

theorem takesPairs_layOut {depth : Nat} (level : Nat) (r : List Char) :
    (ms : List (String × Json)) → MembersReadable depth ms →
      TakesPairs (reader depth) false (layOutMembers gap space level ms ++ r) ms r
  | [], _ => by
    rw [layOutMembers, List.append_assoc]
    exact .closed (nextKey_closed (hb.gap _) false)
  | (k, v) :: rest, h => by
    have hv := takes_layOut (level + 1) (endsNumber_layOutMembers hb level rest r) v h.1
    simp only [layOutMembers, writeString, List.cons_append, List.append_assoc, List.nil_append]
    exact takesPairs_cons hb.space (nextKey_next (hb.gap _)) hv (takesPairs_layOut level r rest h.2)

end

end Induction

end Json

end CodeAssistant
