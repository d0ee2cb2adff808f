/-
# Numbers written and read

The text of an integer is its decimal digits, without leading zeros, and reading them gives the
integer back (`Numbers.scan_toDigits`, `Numbers.number?_toDigits`).

Of a floating point number it is assumed that its text reads back as the same number
(`ReadsBack`).  What follows from that here is that the text is read as a floating point number and
as nothing else, and to its end, whatever stands behind it (`ReadsBack.scans`): it always has a
point or an exponent, and no blanks.
-/
import CodeAssistant.Proofs.Extension

namespace CodeAssistant

open Decimal (Binary64)

/-! ## 1. What a number takes of a text -/

namespace Numbers

variable {mode : Mode} {s r : List Char}

theorem isDigit_eq (c : Char) : isDigit c = c.isDigit := by
  simp only [isDigit, Char.isDigit]
  rfl

theorem digits_append_afterDigits (s : List Char) : digits s ++ afterDigits s = s :=
  List.takeWhile_append_dropWhile

theorem isDigit_of_mem_digits {c : Char} (h : c ∈ digits s) : isDigit c = true :=
  List.mem_takeWhile_imp h

theorem exponentSign_suffix (s : List Char) : (exponentSign s).2 <:+ s := by
  unfold exponentSign
  split
  · exact List.suffix_cons _ _
  · exact List.suffix_cons _ _
  · exact List.suffix_refl _

theorem scanExponent_suffix {e : Bool × List Char} (h : scanExponent mode s = .ok (e, r)) :
    r <:+ s := by
  simp only [scanExponent] at h
  split at h
  · cases h
  · cases h
    exact (List.dropWhile_suffix _).trans (exponentSign_suffix s)

/-- An exponent is left out only where nothing is taken. -/
theorem scanExponent?_suffix {e : Option (Bool × List Char)}
    (h : scanExponent? mode s = .ok (e, r)) : r <:+ s ∧ (e = none → r = s) := by
  cases s with
  | nil =>
    cases h
    exact ⟨List.suffix_refl _, fun _ => rfl⟩
  | cons c s =>
    simp only [scanExponent?] at h
    split at h
    · split at h
      · cases h
      · rename_i he
        cases h
        exact ⟨(scanExponent_suffix he).trans (List.suffix_cons c s), fun h => by cases h⟩
    · cases h
      exact ⟨List.suffix_refl _, fun _ => rfl⟩

theorem scanTail_suffix {negative : Bool} {whole : List Char} {l : Literal}
    (h : scanTail mode negative whole s = .ok (l, r)) : r <:+ s ∧ (l.hasTail = false → r = s) := by
  unfold scanTail at h
  split at h
  · rename_i t
    split at h
    · cases h
    · split at h
      · cases h
      · rename_i he
        cases h
        refine ⟨?_, fun h => by cases h⟩
        exact ((scanExponent?_suffix he).1.trans (List.dropWhile_suffix _)).trans
          (List.suffix_cons _ _)
  · split at h
    · cases h
    · rename_i e _ he
      cases h
      obtain ⟨hsuffix, hnone⟩ := scanExponent?_suffix he
      refine ⟨hsuffix, fun hl => hnone ?_⟩
      cases e with
      | none => rfl
      | some e => cases hl

/-- The whole part is made of digits. -/
theorem scanWhole_eq_append {ds : List Char} (h : scanWhole mode s = .ok (ds, r)) :
    s = ds ++ r ∧ ∀ c ∈ ds, isDigit c = true := by
  cases s with
  | nil => cases h
  | cons c s =>
    simp only [scanWhole] at h
    split at h
    · rename_i hc
      subst hc
      split at h
      · cases h
        exact ⟨rfl, List.forall_mem_singleton.mpr rfl⟩
      · split at h
        · cases h
        · cases h
          exact ⟨rfl, List.forall_mem_singleton.mpr rfl⟩
    · split at h
      · cases h
        exact ⟨(digits_append_afterDigits _).symm, fun c hc => isDigit_of_mem_digits hc⟩
      · cases h

/-- A number without fraction and exponent takes digits and nothing else. -/
theorem scan_takes {negative : Bool} {l : Literal} (h : scan mode negative s = .ok (l, r)) :
    r <:+ s ∧ (l.hasTail = false → ∃ ds, s = ds ++ r ∧ ∀ c ∈ ds, isDigit c = true) := by
  unfold scan at h
  split at h
  · cases h
  · rename_i whole r' hw
    obtain ⟨rfl, hds⟩ := scanWhole_eq_append hw
    obtain ⟨hsuffix, hnone⟩ := scanTail_suffix h
    refine ⟨hsuffix.trans (List.suffix_append _ _), fun hl => ⟨whole, ?_, hds⟩⟩
    rw [hnone hl]

/-- A number without fraction and exponent takes a sign and digits. -/
theorem takes_of_scans {l : Literal} (h : Lexeme.Scans mode s (.number l) r) :
    r <:+ s ∧ (l.hasTail = false → ∀ c ∈ s, c ∈ r ∨ c = '-' ∨ isDigit c = true) := by
  cases h with
  | negative hn =>
    obtain ⟨hsuffix, hds⟩ := scan_takes hn
    refine ⟨hsuffix.trans (List.suffix_cons _ _), fun hl c hc => ?_⟩
    obtain ⟨ds, rfl, hdigits⟩ := hds hl
    rcases List.mem_cons.mp hc with rfl | hc
    · exact Or.inr (Or.inl rfl)
    · exact (List.mem_append.mp hc).symm.imp id fun hc => Or.inr (hdigits c hc)
  | natural _ hn =>
    obtain ⟨hsuffix, hds⟩ := scan_takes hn
    refine ⟨hsuffix, fun hl c hc => ?_⟩
    obtain ⟨ds, heq, hdigits⟩ := hds hl
    rw [heq] at hc
    exact (List.mem_append.mp hc).symm.imp id fun hc => Or.inr (hdigits c hc)

/-! ## 2. Integers -/

theorem le_ofDigitChars (n : Nat) (ds : List Char) : n ≤ Nat.ofDigitChars 10 ds n := by
  induction ds generalizing n with
  | nil => simp
  | cons c ds ih =>
    rw [Nat.ofDigitChars_cons]
    exact Nat.le_trans (by omega) (ih _)

/-- Digits that fit are all taken. -/
theorem absorb_eq {limit n : Nat} {ds : List Char} (h : Nat.ofDigitChars 10 ds n ≤ limit) :
    absorb limit n ds = (Nat.ofDigitChars 10 ds n, 0) := by
  induction ds generalizing n with
  | nil => simp [absorb]
  | cons c ds ih =>
    rw [Nat.ofDigitChars_cons] at h ⊢
    have hn : n * 10 + digitValue c = 10 * n + (c.toNat - '0'.toNat) := by
      rw [digitValue, Nat.mul_comm]
    rw [absorb, hn, if_pos (Nat.le_trans (le_ofDigitChars _ ds) h), ih h]

theorem isDigit_of_mem_toDigits {n : Nat} {c : Char} (h : c ∈ Nat.toDigits 10 n) :
    isDigit c = true := by
  rw [isDigit_eq]
  exact Nat.isDigit_of_mem_toDigits (by omega) (by omega) h

/-- Only zero starts with a zero. -/
theorem head_toDigits {n : Nat} (h : (Nat.toDigits 10 n).head? = some '0') : n = 0 := by
  induction n using Nat.strongRecOn with
  | _ n ih =>
    by_cases hn : n < 10
    · have hsmall : ∀ n < 10, [Nat.digitChar n].head? = some '0' → n = 0 := by decide
      rw [Nat.toDigits_of_lt_base hn] at h
      exact hsmall n hn h
    · rw [Nat.toDigits_of_base_le (by omega) (by omega), List.head?_append] at h
      have hne : (Nat.toDigits 10 (n / 10)).head?.isSome := by
        simp [Nat.toDigits_ne_nil]
      obtain ⟨c, hc⟩ := Option.isSome_iff_exists.mp hne
      rw [hc] at h
      have := ih (n / 10) (by omega) (hc.trans h)
      omega

theorem digits_of_forall {ds : List Char} (h : ∀ c ∈ ds, isDigit c = true) :
    digits ds = ds ∧ afterDigits ds = [] := by
  simp only [digits, afterDigits]
  exact ⟨List.takeWhile_eq_self_iff.mpr h, List.dropWhile_eq_nil_iff.mpr h⟩

theorem scanTail_of_endsNumber (negative : Bool) (whole : List Char) (hr : EndsNumber r) :
    scanTail mode negative whole r = .ok (⟨negative, whole, [], none, false⟩, r) := by
  rw [scanTail_of_no_point _ _ fun c hc => (hr c hc).2.1]
  cases r with
  | nil => rfl
  | cons c r => simp [scanExponent?, (hr c rfl).2.2]

/-- The digits of a number are scanned as its whole part. -/
theorem scan_toDigits (n : Nat) (negative : Bool) (hr : EndsNumber r) :
    scan mode negative (Nat.toDigits 10 n ++ r) =
      .ok (⟨negative, Nat.toDigits 10 n, [], none, false⟩, r) := by
  have hwhole : scanWhole mode (Nat.toDigits 10 n ++ r) = .ok (Nat.toDigits 10 n, r) := by
    have hall : ∀ c ∈ Nat.toDigits 10 n, isDigit c = true := fun _ => isDigit_of_mem_toDigits
    by_cases hn : n = 0
    · subst hn
      cases r with
      | nil => rfl
      | cons d r => simp [scanWhole, (hr d rfl).1]
    · obtain ⟨c, cs, hcs⟩ := List.exists_cons_of_ne_nil (Nat.toDigits_ne_nil (n := n) (b := 10))
      have hzero : c ≠ '0' := by
        rintro rfl
        exact hn (head_toDigits (by rw [hcs]; rfl))
      have hc : isDigit c = true := hall c (by rw [hcs]; exact List.mem_cons_self)
      obtain ⟨h₁, h₂⟩ := digits_of_forall hall
      obtain ⟨h₃, h₄⟩ := digits_append (s := Nat.toDigits 10 n) r fun _ => hr
      rw [h₁] at h₃
      rw [h₂] at h₄
      rw [hcs, List.cons_append] at h₃ h₄ ⊢
      simp only [scanWhole]
      rw [if_neg hzero, if_pos hc, h₃, h₄, List.nil_append]
  rw [scan, hwhole]
  exact scanTail_of_endsNumber negative _ hr

theorem number?_toDigits {n : Nat} (negative : Bool) (hn : n ≤ maxSignificand) :
    Literal.number? ⟨negative, Nat.toDigits 10 n, [], none, false⟩ =
      .ok (ofInteger negative n) := by
  have h : absorb maxSignificand 0 (Nat.toDigits 10 n) = (n, 0) := by
    rw [absorb_eq (by rwa [Nat.ofDigitChars_ten_toDigits]), Nat.ofDigitChars_ten_toDigits]
  simp [Literal.number?, h]

theorem ofInteger_natural (n : UInt64) : ofInteger false n.toNat = .natural n := by
  rw [ofInteger, if_neg (by simp), UInt64.ofNat_toNat]

theorem ofInteger_negative (n : Fin 0x8000000000000000) :
    ofInteger true (n.val + 1) = .negative n := by
  have hn := n.isLt
  rw [ofInteger, if_pos rfl, dif_pos (by omega)]
  simp

/-! ## 3. Fractions -/

/-- A number with a fraction or an exponent is no integer. -/
theorem number?_of_hasTail {l : Literal} (hl : l.hasTail = true) {n : Number}
    (h : l.number? = .ok n) : ∃ x, n = .float x := by
  have hfloat : ∀ significand power, Literal.number?.float l significand power = .ok n →
      ∃ x, n = .float x := by
    intro significand power hf
    unfold Literal.number?.float at hf
    split at hf
    · cases hf
      exact ⟨_, rfl⟩
    · cases hf
  unfold Literal.number? at h
  simp only [hl, Bool.not_true, Bool.false_and, Bool.false_eq_true, if_false] at h
  split at h
  · exact hfloat _ _ h
  · split at h
    · exact hfloat _ _ h
    · split at h
      · cases h
      · cases h
        exact ⟨_, rfl⟩

end Numbers

/-! ## 4. Floating point numbers -/

namespace Decimal

open Numbers (isDigit isDigit_of_mem_toDigits)

theorem isDigit_of_mem_ofSteps {n : Nat} {place : Int} {c : Char}
    (h : c ∈ (Digits.ofSteps n place).digits) : isDigit c = true := by
  rw [Digits.ofSteps, List.mem_reverse] at h
  exact isDigit_of_mem_toDigits (List.mem_reverse.mp ((List.dropWhile_sublist _).subset h))

theorem exists_ofSteps_search (tie : Tie) (s : Span) :
    ∃ n place, (match s.search tie s.leading 17 with | (c, place) => Digits.ofSteps c place) =
      Digits.ofSteps n place := by
  rcases s.search tie s.leading 17 with ⟨n, place⟩
  exact ⟨n, place, rfl⟩

theorem isDigit_of_mem_shortest {tie : Tie} {magnitude : Nat} {c : Char}
    (h : c ∈ (Digits.shortest tie magnitude).digits) : isDigit c = true := by
  by_cases hm : magnitude = 0
  · rw [Digits.shortest, if_pos hm] at h
    rw [List.mem_singleton.mp h]
    decide
  · have hsteps : ∃ n place, Digits.shortest tie magnitude = Digits.ofSteps n place := by
      rw [Digits.shortest, if_neg hm]
      exact exists_ofSteps_search tie _
    obtain ⟨n, place, heq⟩ := hsteps
    rw [heq] at h
    exact isDigit_of_mem_ofSteps h

/-- The characters of a number's text. -/
def isNumeral (c : Char) : Bool := isDigit c || c = '.' || c = 'e' || c = '+' || c = '-'

/-- The text has characters of numbers only, among them a point or the letter of an exponent. -/
def IsFractional (s : List Char) : Prop :=
  (∀ c ∈ s, isNumeral c = true) ∧ ∃ c ∈ s, c = '.' ∨ c = 'e'

theorem isNumeral_of_isDigit {s : List Char} (h : ∀ c ∈ s, isDigit c = true) :
    ∀ c ∈ s, isNumeral c = true := fun c hc => by simp [isNumeral, h c hc]

theorem isNumeral_zeros (n : Nat) : ∀ c ∈ List.replicate n '0', isNumeral c = true := by
  intro c hc
  rw [List.eq_of_mem_replicate hc]
  decide

theorem isFractional_positional {l : Layout} (hl : l.markWhole = true) {d : Digits}
    (hd : ∀ c ∈ d.digits, isDigit c = true) : IsFractional (l.positional d) := by
  have hdigits := isNumeral_of_isDigit hd
  unfold Layout.positional
  simp only [hl, if_true]
  split
  · refine ⟨?_, '.', by simp, Or.inl rfl⟩
    simp only [List.cons_append, List.forall_mem_cons, List.forall_mem_append]
    exact ⟨by decide, by decide, isNumeral_zeros _, hdigits⟩
  · split
    · refine ⟨?_, '.', by simp, Or.inl rfl⟩
      simp only [List.forall_mem_append]
      exact ⟨⟨hdigits, isNumeral_zeros _⟩,
        List.forall_mem_cons.mpr ⟨by decide, List.forall_mem_singleton.mpr (by decide)⟩⟩
    · refine ⟨?_, '.', by simp, Or.inl rfl⟩
      simp only [List.forall_mem_cons, List.forall_mem_append]
      exact ⟨fun c hc => hdigits c (List.mem_of_mem_take hc), by decide,
        fun c hc => hdigits c (List.mem_of_mem_drop hc)⟩

theorem isFractional_scientific {d : Digits} (hd : ∀ c ∈ d.digits, isDigit c = true) :
    IsFractional (scientific d) := by
  have hdigits := isNumeral_of_isDigit hd
  have hexponent : ∀ c ∈ Nat.toDigits 10 d.exponent.natAbs, isNumeral c = true :=
    isNumeral_of_isDigit fun _ => isDigit_of_mem_toDigits
  have hsign : isNumeral (if d.exponent < 0 then '-' else '+') = true := by
    split <;> decide
  unfold scientific
  refine ⟨?_, 'e', by simp, Or.inr rfl⟩
  simp only [List.forall_mem_append, List.forall_mem_cons]
  refine ⟨?_, by decide, hsign, hexponent⟩
  split
  · simp
  · rename_i a ha
    exact ha ▸ hdigits
  · rename_i a rest _ ha
    rw [ha, List.forall_mem_cons] at hdigits
    simp only [List.forall_mem_cons]
    exact ⟨hdigits.1, by decide, hdigits.2⟩

theorem isFractional_write {d : Digits} (hd : ∀ c ∈ d.digits, isDigit c = true) :
    IsFractional (Layout.wire.write d) := by
  simp only [Layout.write, Layout.wire]
  split
  · exact isFractional_positional rfl hd
  · exact isFractional_scientific hd

theorem isFractional_writeList (x : Binary64) : IsFractional (x.writeList .wire) := by
  obtain ⟨hall, c, hc, hmark⟩ := isFractional_write
    (d := Digits.shortest Layout.wire.tie x.magnitude) fun _ => isDigit_of_mem_shortest
  unfold Binary64.writeList
  refine ⟨?_, c, List.mem_append_right _ hc, hmark⟩
  rw [List.forall_mem_append]
  refine ⟨?_, hall⟩
  split
  · exact List.forall_mem_singleton.mpr (by decide)
  · exact List.forall_mem_nil _

/-- Blanks are no characters of numbers. -/
theorem isJsonBlank_of_isNumeral {c : Char} (h : isNumeral c = true) : isJsonBlank c = false := by
  cases hc : isJsonBlank c with
  | false => rfl
  | true =>
    simp only [isJsonBlank, Bool.or_eq_true, decide_eq_true_eq] at hc
    rcases hc with ((rfl | rfl) | rfl) | rfl <;> cases h

end Decimal

/-- The text of the number reads back as the same number. -/
def ReadsBack (x : Binary64) : Prop := Codec.float64.decode (x.write .wire) = .ok x

instance (x : Binary64) : Decidable (ReadsBack x) :=
  inferInstanceAs (Decidable (Codec.float64.decode (x.write .wire) = .ok x))

/-- The reader of floating point numbers finds a number. -/
theorem readFound_of_float64 {depth : Nat} {s r : List Char} {x : Binary64}
    (h : (Codec.float64.read depth).run s = .ok (x, r)) :
    ∃ n : Number, readFound s = .ok (.number n, r) ∧ n.toBinary64 = x := by
  simp only [Codec.float64, Codec.scalarOf, scalar] at h
  split at h
  · cases h
  · rename_i found r' hf
    cases found with
    | number n =>
      cases h
      exact ⟨n, hf, rfl⟩
    | _ => cases h

/-- A text that is read as a floating point number, and is one by its characters, is read so to its
end and before any text that does not continue a number. -/
theorem scans_of_isFractional {s r : List Char} {x : Binary64} (hs : Decimal.IsFractional s)
    (hx : readWhole (Codec.float64.read maxDepth) (String.ofList s) = .ok x)
    (hr : EndsNumber r) :
    ∃ l, Lexeme.Scans .read (s ++ r) (.number l) r ∧ l.number? = .ok (.float x) := by
  obtain ⟨hall, c, hc, hmark⟩ := hs
  obtain ⟨r', hrun, hblank⟩ := readWhole_eq_ok_iff.mp hx
  rw [String.toList_ofList] at hrun
  obtain ⟨n, hfound, hn⟩ := readFound_of_float64 hrun
  obtain ⟨lexeme, hl, hnumber⟩ := readFound_eq_ok_iff.mp hfound
  have hfront : skipBlanks s = s := by
    cases s with
    | nil => rfl
    | cons d s => simp [skipBlanks, Decimal.isJsonBlank_of_isNumeral (hall d List.mem_cons_self)]
  rw [hfront] at hl
  cases lexeme with
  | number l =>
    obtain ⟨hsuffix, htakes⟩ := Numbers.takes_of_scans hl
    -- There are no blanks to leave, so nothing is left.
    obtain rfl : r' = [] := List.eq_nil_iff_forall_not_mem.mpr fun d hd => by
      have hblank := skipBlanks_eq_nil_iff.mp hblank d hd
      rw [Decimal.isJsonBlank_of_isNumeral (hall d (hsuffix.subset hd))] at hblank
      cases hblank
    -- The point or the exponent's letter must have been taken.
    have htail : l.hasTail = true := by
      cases htail : l.hasTail with
      | true => rfl
      | false =>
        rcases hmark with rfl | rfl <;> rcases htakes htail _ hc with h | h | h <;> cases h
    simp only [Lexeme.found?, Option.map_eq_some_iff] at hnumber
    obtain ⟨m, hm, heq⟩ := hnumber
    cases heq
    have hok : l.number? = .ok n := by
      cases hl : l.number? with
      | error e =>
        rw [hl] at hm
        cases hm
      | ok m =>
        rw [hl] at hm
        cases hm
        rfl
    obtain ⟨y, rfl⟩ := Numbers.number?_of_hasTail htail hok
    obtain rfl : y = x := hn
    exact ⟨l, hl.append r fun _ => hr, hok⟩
  | null | bool | string | list | map => cases hnumber

/-- The text is read as a floating point number, to its end. -/
theorem ReadsBack.scans {x : Binary64} (h : ReadsBack x) {r : List Char} (hr : EndsNumber r) :
    ∃ l, Lexeme.Scans .read (x.writeList .wire ++ r) (.number l) r ∧
      l.number? = .ok (.float x) :=
  scans_of_isFractional (Decimal.isFractional_writeList x) h hr

end CodeAssistant
