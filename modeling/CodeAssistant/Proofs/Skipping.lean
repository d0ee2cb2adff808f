/-
# What can be read can be skipped

Values that nobody asked for are skipped, and skipping checks less than reading does.  So whatever
the reader of a value of any shape accepts is passed over as well, up to the same place.

The two modes part in three points.  A pair of escapes that spells one character counts as two
(`takesBody_skip`), ranges of numbers are not looked at, and blanks behind a comma are left to the
reader of the next item (`nextItem_skip_item`).  Skipping needs no bound on the depth of nesting beyond
the length of the text, because every bracket takes a character (`skippingTo_of_takes`).

Main statement: `skipping_of_reader`.
-/
import CodeAssistant.Proofs.Taking

namespace CodeAssistant

/-! ## 1. Strings -/

namespace Strings

variable {s r : List Char}

theorem escape_run_cons (mode : Mode) {c : Char} (h : c ≠ 'u') (s : List Char) :
    (escape mode).run (c :: s) =
      match lettered? c with
      | some d => .ok (d, s)
      | none => .error (.next .invalidEscape (c :: s)) :=
  if_neg h

theorem escape_run_u (mode : Mode) (s : List Char) :
    (escape mode).run ('u' :: s) = numbered mode s := by
  simp only [escape, if_true]

/-- The second half of a pair is an escape of its own. -/
theorem exists_of_lowHalf {high : Nat} {c : Char} (h : lowHalf high s = .ok (c, r)) :
    ∃ s' n, s = '\\' :: 'u' :: s' ∧ hex4 s' = .ok (n, r) := by
  unfold lowHalf at h
  split at h
  · cases h
  · cases h
  · split at h
    · cases h
    · rename_i hx
      split at h
      · obtain ⟨-, rfl⟩ := Prod.mk.inj (Except.ok.inj h)
        exact ⟨_, _, rfl, hx⟩
      · cases h
  · cases h
  · cases h

/-- What is read as one escape is skipped as one escape or as two. -/
theorem escape_skip {d : Char} (h : (escape .read).run s = .ok (d, r)) :
    (∃ d', (escape .skip).run s = .ok (d', r)) ∨
      ∃ d₁ d₂ r', (escape .skip).run s = .ok (d₁, '\\' :: r') ∧
        (escape .skip).run r' = .ok (d₂, r) := by
  cases s with
  | nil => cases h
  | cons c s =>
    by_cases hu : c = 'u'
    · subst hu
      rw [escape_run_u, numbered] at h
      simp only [escape_run_u]
      split at h
      · cases h
      · rename_i n r₁ hx
        have hskip : numbered .skip s = .ok (Char.ofNat n, r₁) := by
          simp only [numbered, hx]
        simp only at h
        split at h
        · cases h
        · split at h
          · obtain ⟨r', low, rfl, hlow⟩ := exists_of_lowHalf h
            refine Or.inr ⟨_, Char.ofNat low, _, hskip, ?_⟩
            rw [escape_run_u]
            simp only [numbered, hlow]
          · cases h
            exact Or.inl ⟨_, hskip⟩
    · rw [escape_run_cons _ hu] at h ⊢
      exact Or.inl ⟨d, h⟩

theorem takesBody_skip {cs : List Char} (h : TakesBody .read s cs r) :
    ∃ ds, TakesBody .skip s ds r := by
  induction h with
  | close => exact ⟨[], .close⟩
  | escape he _ ih =>
    obtain ⟨ds, hds⟩ := ih
    rcases escape_skip he with ⟨d', hd⟩ | ⟨d₁, d₂, r', h₁, h₂⟩
    · exact ⟨_, .escape hd hds⟩
    · exact ⟨_, .escape h₁ (.escape h₂ hds)⟩
  | plain hq hb hc _ ih =>
    obtain ⟨ds, hds⟩ := ih
    exact ⟨_, .plain hq hb hc hds⟩

theorem body_skip {t : String} (h : (body .read).run s = .ok (t, r)) :
    ∃ u, (body .skip).run s = .ok (u, r) := by
  obtain ⟨ds, hds⟩ := takesBody_skip (body_eq_ok_iff.mp h)
  refine ⟨String.ofList ds, body_eq_ok_iff.mpr ?_⟩
  rw [String.toList_ofList]
  exact hds

end Strings

/-! ## 2. Numbers -/

namespace Numbers

variable {mode mode' : Mode} {s r : List Char}

/-! The mode shows in faults only. -/

theorem scanExponent_mode {x : Bool × List Char} (h : scanExponent mode s = .ok (x, r)) :
    scanExponent mode' s = .ok (x, r) := by
  simp only [scanExponent] at h ⊢
  cases hd : digits (exponentSign s).2 with
  | nil =>
    simp only [hd] at h
    cases h
  | cons d ds =>
    simp only [hd] at h ⊢
    exact h

theorem scanExponent?_mode {x : Option (Bool × List Char)}
    (h : scanExponent? mode s = .ok (x, r)) : scanExponent? mode' s = .ok (x, r) := by
  cases s with
  | nil => exact h
  | cons c s =>
    simp only [scanExponent?] at h ⊢
    split at h
    · rename_i hc
      rw [if_pos hc]
      split at h
      · cases h
      · rename_i hx
        simp only [scanExponent_mode hx]
        exact h
    · rename_i hc
      rw [if_neg hc]
      exact h

theorem scanWhole_mode {ds : List Char} (h : scanWhole mode s = .ok (ds, r)) :
    scanWhole mode' s = .ok (ds, r) := by
  cases s with
  | nil => cases h
  | cons c s => exact h

theorem scanTail_mode {negative : Bool} {whole : List Char} {l : Literal}
    (h : scanTail mode negative whole s = .ok (l, r)) :
    scanTail mode' negative whole s = .ok (l, r) := by
  unfold scanTail at h ⊢
  split at h
  · rename_i t
    cases hd : digits t with
    | nil =>
      simp only [hd] at h
      cases h
    | cons d ds =>
      simp only [hd] at h ⊢
      split at h
      · cases h
      · rename_i hx
        simp only [scanExponent?_mode hx]
        exact h
  · split at h
    · cases h
    · rename_i hx
      simp only [scanExponent?_mode hx]
      exact h

theorem scan_mode {negative : Bool} {l : Literal} (h : scan mode negative s = .ok (l, r)) :
    scan mode' negative s = .ok (l, r) := by
  unfold scan at h ⊢
  split at h
  · cases h
  · rename_i hw
    simp only [scanWhole_mode hw]
    exact scanTail_mode h

end Numbers

/-! ## 3. The front of a value and the places between values -/

/-- A scalar is skipped as some scalar, a bracket as itself. -/
theorem Lexeme.Scans.skip {s r : List Char} {l : Lexeme} (h : Scans .read s l r) :
    ∃ l', Scans .skip s l' r ∧ (l' = l ∨ l.isOpening = false ∧ l'.isOpening = false) := by
  cases h with
  | nullWord hw => exact ⟨_, .nullWord hw, Or.inl rfl⟩
  | trueWord hw => exact ⟨_, .trueWord hw, Or.inl rfl⟩
  | falseWord hw => exact ⟨_, .falseWord hw, Or.inl rfl⟩
  | negative hn => exact ⟨_, .negative (Numbers.scan_mode hn), Or.inl rfl⟩
  | natural hd hn => exact ⟨_, .natural hd (Numbers.scan_mode hn), Or.inl rfl⟩
  | string hb =>
    obtain ⟨u, hu⟩ := Strings.body_skip hb
    exact ⟨_, .string hu, Or.inr ⟨rfl, rfl⟩⟩
  | list => exact ⟨_, .list, Or.inl rfl⟩
  | map => exact ⟨_, .map, Or.inl rfl⟩

namespace Brackets

variable {first : Bool} {s r : List Char}

theorem nextItem_skip_closed (h : nextItem .read first s = .ok (.closed r)) :
    nextItem .skip first s = .ok (.closed r) := by
  cases nextItem_eq_ok_iff.mp h with
  | closed hs => exact nextItem_eq_ok_iff.mpr (.closed hs)

/-- Behind a comma the blanks are left to the reader of the next item. -/
theorem nextItem_skip_item (h : nextItem .read first s = .ok (.item r)) :
    ∃ r', nextItem .skip first s = .ok (.item r') ∧ skipBlanks r' = skipBlanks r := by
  cases nextItem_eq_ok_iff.mp h with
  | first hs hc => exact ⟨_, nextItem_eq_ok_iff.mpr (.first hs hc), rfl⟩
  | next hs hr _ =>
    exact ⟨_, nextItem_eq_ok_iff.mpr (.skipped hs), by rw [← hr, skipBlanks_skipBlanks]⟩

theorem nextKey_skip {n : Next} (h : nextKey .read first s = .ok n) :
    nextKey .skip first s = .ok n :=
  nextKey_eq_ok_iff.mpr (nextKey_eq_ok_iff.mp h)

end Brackets

/-! ## 4. Values -/

section Values

open Brackets

variable {s s' r : List Char}

/-- Leading blanks do not matter to a value that is skipped. -/
theorem skippingTo_congr (n : Nat) (h : skipBlanks s = skipBlanks s') :
    (skippingTo n).run s = (skippingTo n).run s' := by
  cases n with
  | zero => simp only [skippingTo, skippingWith, h]
  | succ n => simp only [skippingTo, skippingWith, h]

theorem skippingTo_of_scalar (n : Nat) {l : Lexeme} (h : Lexeme.Scans .skip (skipBlanks s) l r)
    (ho : l.isOpening = false) : (skippingTo n).run s = .ok ((), r) := by
  have hs := Lexeme.scan_eq_ok_iff.mpr h
  cases n <;> cases l <;> simp_all [skippingTo, skippingWith, Lexeme.isOpening]

theorem skippingTo_of_list {n : Nat} {us : List Unit} {r₁ : List Char}
    (h : Lexeme.Scans .skip (skipBlanks s) .list r₁)
    (hi : TakesItems .skip (skippingTo n) true r₁.tail us r) :
    (skippingTo (n + 1)).run s = .ok ((), r) := by
  simp only [skippingTo, skippingWith, Lexeme.scan_eq_ok_iff.mpr h, items_eq_ok_iff.mpr hi]

theorem skippingTo_of_map {n : Nat} {r₁ : List Char}
    (h : Lexeme.Scans .skip (skipBlanks s) .map r₁)
    (hm : TakesMembers .skip (fun _ _ => value (skippingTo n)) true () r₁.tail () r) :
    (skippingTo (n + 1)).run s = .ok ((), r) := by
  simp only [skippingTo, skippingWith, Lexeme.scan_eq_ok_iff.mpr h, members_eq_ok_iff.mpr hm]

variable {α : Type} {p : Reader α} {n : Nat}

/-- Items can be skipped if each of them can.  A reader of items sees texts no longer than the
whole. -/
theorem Brackets.TakesItems.skip {first : Bool} {as : List α} (h : TakesItems .read p first s as r)
    (hp : ∀ s a r, s.length ≤ n → p.run s = .ok (a, r) → (skippingTo n).run s = .ok ((), r))
    (hn : s.length ≤ n) : ∃ us, TakesItems .skip (skippingTo n) first s us r := by
  induction h with
  | closed hc => exact ⟨[], .closed (nextItem_skip_closed hc)⟩
  | item hi hv _ ih =>
    have h₁ := (length_of_nextItem hi).1
    have h₂ := p.shrinks hv
    simp only [Next.rest] at h₁
    obtain ⟨r', hi', hb⟩ := nextItem_skip_item hi
    obtain ⟨us, hus⟩ := ih (by omega)
    refine ⟨() :: us, .item hi' ?_ hus⟩
    rw [skippingTo_congr n hb]
    exact hp _ _ _ (by omega) hv

/-- The same of members and their values. -/
theorem Json.TakesPairs.skip {p : Reader Json} {first : Bool} {ms : List (String × Json)}
    (h : Json.TakesPairs p first s ms r)
    (hp : ∀ s v r, s.length ≤ n → p.run s = .ok (v, r) → (skippingTo n).run s = .ok ((), r))
    (hn : s.length ≤ n) :
    TakesMembers .skip (fun _ _ => value (skippingTo n)) first () s () r := by
  induction h with
  | closed hc => exact .closed (nextKey_skip hc)
  | @pair _ _ _ r₂ _ r₄ _ _ _ _ hk hb hc hv _ ih =>
    have h₁ := length_of_nextKey hk
    have h₂ := (Strings.body .read).shrinks hb
    have h₃ := length_of_colon hc
    have h₄ := p.shrinks hv
    simp only [Next.rest] at h₁
    obtain ⟨u, hu⟩ := Strings.body_skip hb
    have hvisit : (value (skippingTo n)).run r₂ = .ok ((), r₄) := by
      rw [value_run hc]
      exact hp _ _ _ (by omega) hv
    exact .member (nextKey_skip hk) hu hvisit (ih (by omega))

end Values

/-- Where a bracket was found, so much of the text is left behind it. -/
theorem length_tail_of_readFound {s r : List Char} {f : Found} (h : readFound s = .ok (f, r))
    (ho : f.isOpening = true) : r.tail.length < s.length := by
  have hb := length_skipBlanks_le s
  have hl := length_of_readFound h
  rw [if_pos ho] at hl
  obtain ⟨hr, hne⟩ := hl
  have hpos := List.length_pos_iff.mpr hne
  rw [List.length_tail]
  rw [← hr] at hb
  omega

/-- The front of a value that is read is the front of one that is skipped. -/
theorem scans_skip_of_readFound {s r : List Char} {f : Found} (h : readFound s = .ok (f, r)) :
    ∃ l, Lexeme.Scans .skip (skipBlanks s) l r ∧
      (f.isOpening = false → l.isOpening = false) ∧
      (f = .list → l = .list) ∧ (f = .map → l = .map) := by
  obtain ⟨l, hs, hf⟩ := readFound_eq_ok_iff.mp h
  obtain ⟨l', hs', hl⟩ := hs.skip
  refine ⟨l', hs', ?_⟩
  cases l with
  | number x =>
    simp only [Lexeme.found?, Option.map_eq_some_iff] at hf
    obtain ⟨n, -, rfl⟩ := hf
    rcases hl with rfl | ⟨-, hl⟩
    · exact ⟨fun _ => rfl, by simp, by simp⟩
    · exact ⟨fun _ => hl, by simp, by simp⟩
  | null | bool | string | list | map =>
    cases hf
    rcases hl with rfl | ⟨ho, hl⟩
    · simp [Lexeme.isOpening, Found.isOpening]
    · simp_all [Lexeme.isOpening]

/-- **Whatever is read is skipped**, if the bound on the depth is no less than the length of the
text. -/
theorem skippingTo_of_takes (n : Nat) {depth : Nat} {s r : List Char} {t : Json}
    (hn : s.length ≤ n) (h : Json.Takes depth s t r) : (skippingTo n).run s = .ok ((), r) := by
  induction n generalizing depth s t r with
  | zero =>
    have := (Json.reader depth).shrinks (Json.reader_eq_ok_iff.mpr h)
    omega
  | succ n ih =>
    cases h with
    | scalar hf ho =>
      obtain ⟨l, hs, hl, -⟩ := scans_skip_of_readFound hf
      exact skippingTo_of_scalar _ hs (hl ho)
    | array hf hi =>
      obtain ⟨l, hs, -, hl, -⟩ := scans_skip_of_readFound hf
      have hlen := length_tail_of_readFound hf rfl
      obtain ⟨us, hus⟩ := hi.skip (n := n)
        (fun s a r hs h => ih hs (Json.reader_eq_ok_iff.mp h)) (by omega)
      exact skippingTo_of_list (hl rfl ▸ hs) hus
    | object hf hm =>
      obtain ⟨l, hs, -, -, hl⟩ := scans_skip_of_readFound hf
      have hlen := length_tail_of_readFound hf rfl
      exact skippingTo_of_map (hl rfl ▸ hs)
        (hm.skip (fun s v r hs h => ih hs (Json.reader_eq_ok_iff.mp h)) (by omega))

theorem skipping_of_reader {depth : Nat} {s r : List Char} {t : Json}
    (h : (Json.reader depth).run s = .ok (t, r)) : skipping.run s = .ok ((), r) :=
  skippingTo_of_takes _ (Nat.le_refl _) (Json.reader_eq_ok_iff.mp h)

end CodeAssistant
