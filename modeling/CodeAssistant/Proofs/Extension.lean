/-
# Reading a text that goes on

What a reader makes of a text does not depend on what comes behind the place where it stops.  Only
a number can be cut short without notice, at the end of the text: there more digits, a point or an
exponent might have followed.

So there are two grades.  A reader that `Closes` has seen the end of what it reads, a quote, a
bracket or the last letter of a word: with more text behind it, it gives the same value and leaves
so much more.  A reader that `Extends` does so unless it stopped at the end of the text and what
follows might continue a number.  The loops over lists and objects close whatever their items do,
because a bracket stands behind the last item (`TakesItems.append`, `TakesMembers.append`).
-/
import CodeAssistant.Codec.Record
import CodeAssistant.Proofs.Skipping

namespace CodeAssistant

/-! ## 1. The two grades -/

/-- The text does not continue a number that ended just before it. -/
def EndsNumber (s : List Char) : Prop :=
  ∀ c ∈ s.head?, Numbers.isDigit c = false ∧ c ≠ '.' ∧ Numbers.isExponentLetter c = false

namespace Reader

variable {α β : Type}

/-- What is read does not depend on what follows. -/
structure Closes (p : Reader α) : Prop where
  append : ∀ {s a r} (x : List Char), p.run s = .ok (a, r) → p.run (s ++ x) = .ok (a, r ++ x)

/-- What is read does not depend on what follows, unless that may continue a number. -/
structure Extends (p : Reader α) : Prop where
  append : ∀ {s a r} (x : List Char), p.run s = .ok (a, r) → (r = [] → EndsNumber x) →
    p.run (s ++ x) = .ok (a, r ++ x)

theorem Closes.extends {p : Reader α} (h : p.Closes) : p.Extends :=
  ⟨fun x hp _ => h.append x hp⟩

theorem Closes.map {p : Reader α} (h : p.Closes) (f : α → β) : (p.map f).Closes := by
  refine ⟨fun {s b r} x hp => ?_⟩
  obtain ⟨a, ha, rfl⟩ := map_eq_ok_iff.mp hp
  exact map_eq_ok_iff.mpr ⟨a, h.append x ha, rfl⟩

theorem Extends.map {p : Reader α} (h : p.Extends) (f : α → β) : (p.map f).Extends := by
  refine ⟨fun {s b r} x hp hr => ?_⟩
  obtain ⟨a, ha, rfl⟩ := map_eq_ok_iff.mp hp
  exact map_eq_ok_iff.mpr ⟨a, h.append x ha hr, rfl⟩

end Reader

/-! ## 2. Blanks, words and strings -/

section Tokens

variable {s r : List Char} (x : List Char)

theorem skipBlanks_append (h : skipBlanks s ≠ []) : skipBlanks (s ++ x) = skipBlanks s ++ x := by
  simp only [skipBlanks] at h ⊢
  rw [List.dropWhile_append, if_neg (by simpa using h)]

theorem skipBlanks_append_cons {c : Char} (h : skipBlanks s = c :: r) :
    skipBlanks (s ++ x) = c :: (r ++ x) := by
  rw [skipBlanks_append x (by simp [h]), h, List.cons_append]

theorem readWord_append {w : List Char} (h : readWord w s = .ok r) :
    readWord w (s ++ x) = .ok (r ++ x) := by
  induction w generalizing s with
  | nil =>
    cases h
    rfl
  | cons a w ih =>
    cases s with
    | nil => cases h
    | cons c s =>
      simp only [List.cons_append, readWord] at h ⊢
      split at h
      · rename_i hc
        rw [if_pos hc]
        exact ih h
      · cases h

namespace Strings

theorem hex4_append {n : Nat} (h : hex4 s = .ok (n, r)) : hex4 (s ++ x) = .ok (n, r ++ x) := by
  unfold hex4 at h
  split at h
  · split at h
    · rename_i ha hb hc hd
      obtain ⟨rfl, rfl⟩ := Prod.mk.inj (Except.ok.inj h)
      simp only [List.cons_append, hex4, ha, hb, hc, hd]
    · cases h
  · cases h

theorem lowHalf_append {high : Nat} {c : Char} (h : lowHalf high s = .ok (c, r)) :
    lowHalf high (s ++ x) = .ok (c, r ++ x) := by
  unfold lowHalf at h
  split at h
  · cases h
  · cases h
  · split at h
    · cases h
    · rename_i hx
      split at h
      · rename_i hlow
        obtain ⟨rfl, rfl⟩ := Prod.mk.inj (Except.ok.inj h)
        simp only [List.cons_append, lowHalf, hex4_append x hx, hlow, if_true]
      · cases h
  · cases h
  · cases h

theorem numbered_append {mode : Mode} {c : Char} (h : numbered mode s = .ok (c, r)) :
    numbered mode (s ++ x) = .ok (c, r ++ x) := by
  unfold numbered at h
  split at h
  · cases h
  · rename_i hx
    simp only [numbered, hex4_append x hx]
    cases mode with
    | skip =>
      cases h
      rfl
    | read =>
      simp only at h ⊢
      split at h
      · cases h
      · rename_i hlow
        rw [if_neg hlow]
        split at h
        · rename_i hhigh
          rw [if_pos hhigh]
          exact lowHalf_append x h
        · rename_i hhigh
          rw [if_neg hhigh]
          cases h
          rfl

theorem escape_closes (mode : Mode) : (escape mode).Closes := by
  refine ⟨fun {s c r} x h => ?_⟩
  cases s with
  | nil => cases h
  | cons d s =>
    rw [List.cons_append]
    by_cases hu : d = 'u'
    · subst hu
      rw [escape_run_u] at h ⊢
      exact numbered_append x h
    · rw [escape_run_cons _ hu] at h ⊢
      split at h
      · cases h
        rfl
      · cases h

theorem TakesBody.append {mode : Mode} {cs : List Char} (h : TakesBody mode s cs r) :
    TakesBody mode (s ++ x) cs (r ++ x) := by
  induction h with
  | close => exact .close
  | escape he _ ih => exact .escape ((escape_closes mode).append x he) ih
  | plain hq hb hc _ ih => exact .plain hq hb hc ih

theorem body_closes (mode : Mode) : (body mode).Closes :=
  ⟨fun x h => body_eq_ok_iff.mpr ((body_eq_ok_iff.mp h).append x)⟩

end Strings

/-! ## 3. Numbers -/

namespace Numbers

theorem digits_append (h : afterDigits s = [] → EndsNumber x) :
    digits (s ++ x) = digits s ∧ afterDigits (s ++ x) = afterDigits s ++ x := by
  simp only [digits, afterDigits] at h ⊢
  induction s with
  | nil =>
    cases x with
    | nil => exact ⟨rfl, rfl⟩
    | cons c x =>
      have hc := (h rfl c rfl).1
      simp [hc]
  | cons c s ih =>
    rw [List.cons_append, List.takeWhile_cons, List.takeWhile_cons, List.dropWhile_cons,
      List.dropWhile_cons]
    by_cases hc : isDigit c = true
    · simp only [hc, if_true]
      obtain ⟨h₁, h₂⟩ := ih (by simpa [hc] using h)
      exact ⟨by rw [h₁], h₂⟩
    · simp [hc]

variable {mode : Mode} {x}

theorem scanExponent_append {e : Bool × List Char} (h : scanExponent mode s = .ok (e, r))
    (hr : r = [] → EndsNumber x) : scanExponent mode (s ++ x) = .ok (e, r ++ x) := by
  have hsign : ∀ d s', s = d :: s' →
      exponentSign (s ++ x) = ((exponentSign s).1, (exponentSign s).2 ++ x) := by
    rintro d s' rfl
    simp only [List.cons_append, exponentSign]
    split <;> simp_all
  cases s with
  | nil => cases h
  | cons d s =>
    simp only [scanExponent, hsign d s rfl] at h ⊢
    cases hd : digits (exponentSign (d :: s)).2 with
    | nil =>
      simp only [hd] at h
      cases h
    | cons a ds =>
      simp only [hd] at h
      cases h
      obtain ⟨h₁, h₂⟩ := digits_append x hr
      simp only [h₁, h₂, hd]

theorem scanExponent?_append {e : Option (Bool × List Char)}
    (h : scanExponent? mode s = .ok (e, r)) (hr : r = [] → EndsNumber x) :
    scanExponent? mode (s ++ x) = .ok (e, r ++ x) := by
  cases s with
  | nil =>
    cases h
    cases x with
    | nil => rfl
    | cons c x =>
      have hc := (hr rfl c rfl).2.2
      simp [scanExponent?, hc]
  | cons c s =>
    simp only [List.cons_append, scanExponent?] at h ⊢
    split at h
    · rename_i hc
      rw [if_pos hc]
      split at h
      · cases h
      · rename_i he
        cases h
        simp only [scanExponent_append he hr]
    · rename_i hc
      rw [if_neg hc]
      cases h
      rfl

theorem scanWhole_append {ds : List Char} (h : scanWhole mode s = .ok (ds, r))
    (hr : r = [] → EndsNumber x) : scanWhole mode (s ++ x) = .ok (ds, r ++ x) := by
  cases s with
  | nil => cases h
  | cons c s =>
    simp only [List.cons_append, scanWhole] at h ⊢
    split at h
    · rename_i hc
      rw [if_pos hc]
      cases s with
      | nil =>
        cases h
        cases x with
        | nil => rfl
        | cons d x =>
          have hd := (hr rfl d rfl).1
          simp [hd]
      | cons d s =>
        simp only at h
        split at h
        · cases h
        · rename_i hd
          cases h
          simp [hd]
    · rename_i hc
      rw [if_neg hc]
      split at h
      · rename_i hd
        rw [if_pos hd]
        cases h
        obtain ⟨h₁, h₂⟩ := digits_append (s := c :: s) x hr
        rw [← List.cons_append, h₁, h₂]
      · cases h

theorem scanTail_of_point (negative : Bool) (whole s : List Char) :
    scanTail mode negative whole ('.' :: s) =
      match digits s with
      | [] => .error (missingDigit mode s)
      | ds => match scanExponent? mode (afterDigits s) with
        | .error e => .error e
        | .ok (e, r) => .ok (⟨negative, whole, ds, e, true⟩, r) := rfl

theorem scanTail_of_no_point (negative : Bool) (whole : List Char) (h : ∀ c ∈ s.head?, c ≠ '.') :
    scanTail mode negative whole s =
      match scanExponent? mode s with
      | .error e => .error e
      | .ok (e, r) => .ok (⟨negative, whole, [], e, e.isSome⟩, r) := by
  unfold scanTail
  split
  · exact absurd rfl (h '.' rfl)
  · rfl

theorem scanTail_append {negative : Bool} {whole : List Char} {l : Literal}
    (h : scanTail mode negative whole s = .ok (l, r)) (hr : r = [] → EndsNumber x) :
    scanTail mode negative whole (s ++ x) = .ok (l, r ++ x) := by
  by_cases hpoint : ∃ s', s = '.' :: s'
  · obtain ⟨s', rfl⟩ := hpoint
    rw [List.cons_append, scanTail_of_point]
    rw [scanTail_of_point] at h
    cases hd : digits s' with
    | nil =>
      simp only [hd] at h
      cases h
    | cons a ds =>
      simp only [hd] at h
      split at h
      · cases h
      · rename_i he
        cases h
        -- At the end of the text there is no exponent, so the number ends there.
        obtain ⟨h₁, h₂⟩ := digits_append (s := s') x fun hafter => hr <| by
          rw [hafter] at he
          cases he
          rfl
        simp only [h₁, h₂, hd, scanExponent?_append he hr]
  · have hs : ∀ c ∈ s.head?, c ≠ '.' := by
      rintro c hc rfl
      obtain ⟨s', rfl⟩ := List.head?_eq_some_iff.mp hc
      exact hpoint ⟨s', rfl⟩
    rw [scanTail_of_no_point _ _ hs] at h
    split at h
    · cases h
    · rename_i he
      cases h
      have hsx : ∀ c ∈ (s ++ x).head?, c ≠ '.' := by
        cases s with
        | nil =>
          cases he
          exact fun c hc => (hr rfl c hc).2.1
        | cons c s => exact hs
      rw [scanTail_of_no_point _ _ hsx]
      simp only [scanExponent?_append he hr]

theorem scan_append {negative : Bool} {l : Literal} (h : scan mode negative s = .ok (l, r))
    (hr : r = [] → EndsNumber x) : scan mode negative (s ++ x) = .ok (l, r ++ x) := by
  unfold scan at h ⊢
  split at h
  · cases h
  · rename_i r' hw
    have hr' : r' = [] → EndsNumber x := by
      rintro rfl
      cases h
      exact hr rfl
    simp only [scanWhole_append hw hr', scanTail_append h hr]

end Numbers

/-! ## 4. The front of a value -/

theorem Lexeme.Scans.append {mode : Mode} {l : Lexeme} (h : Scans mode s l r)
    (hr : r = [] → EndsNumber x) : Scans mode (s ++ x) l (r ++ x) := by
  cases h with
  | nullWord hw => exact .nullWord (readWord_append x hw)
  | trueWord hw => exact .trueWord (readWord_append x hw)
  | falseWord hw => exact .falseWord (readWord_append x hw)
  | negative hn => exact .negative (Numbers.scan_append hn hr)
  | natural hd hn => exact .natural hd (Numbers.scan_append hn hr)
  | string hb => exact .string ((Strings.body_closes mode).append x hb)
  | list => exact .list
  | map => exact .map

theorem Lexeme.Scans.ne_nil {mode : Mode} {l : Lexeme} (h : Scans mode s l r) : s ≠ [] := by
  cases h <;> exact List.cons_ne_nil _ _

/-- A bracket is left where it is, so there is text left. -/
theorem Lexeme.Scans.rest_ne_nil {mode : Mode} {l : Lexeme} (h : Scans mode s l r)
    (hl : l.isOpening = true) : r ≠ [] := by
  cases h <;> first | exact List.cons_ne_nil _ _ | cases hl

theorem readFound_append {f : Found} (h : readFound s = .ok (f, r))
    (hr : r = [] → EndsNumber x) : readFound (s ++ x) = .ok (f, r ++ x) := by
  obtain ⟨l, hl, hf⟩ := readFound_eq_ok_iff.mp h
  refine readFound_eq_ok_iff.mpr ⟨l, ?_, hf⟩
  rw [skipBlanks_append x hl.ne_nil]
  exact hl.append x hr

end Tokens

/-! ## 5. Lists and objects -/

namespace Brackets

/-- The same place with more text behind it. -/
def Next.append (x : List Char) : Next → Next
  | closed r => closed (r ++ x)
  | item r => item (r ++ x)

variable {mode : Mode} {first : Bool} {s r : List Char} (x : List Char)

theorem nextItem_append {n : Next} (h : nextItem mode first s = .ok n) :
    nextItem mode first (s ++ x) = .ok (n.append x) := by
  refine nextItem_eq_ok_iff.mpr ?_
  cases nextItem_eq_ok_iff.mp h with
  | closed hs => exact .closed (skipBlanks_append_cons x hs)
  | first hs hc => exact .first (skipBlanks_append_cons x hs) hc
  | next hs hr hd => exact .next (skipBlanks_append_cons x hs) (skipBlanks_append_cons x hr) hd
  | skipped hs => exact .skipped (skipBlanks_append_cons x hs)

theorem nextKey_append {n : Next} (h : nextKey mode first s = .ok n) :
    nextKey mode first (s ++ x) = .ok (n.append x) := by
  refine nextKey_eq_ok_iff.mpr ?_
  cases nextKey_eq_ok_iff.mp h with
  | closed hs => exact .closed (skipBlanks_append_cons x hs)
  | first hs => exact .first (skipBlanks_append_cons x hs)
  | next hs hr => exact .next (skipBlanks_append_cons x hs) (skipBlanks_append_cons x hr)

theorem colon_append (h : colon s = .ok r) : colon (s ++ x) = .ok (r ++ x) :=
  colon_eq_ok_iff.mpr (skipBlanks_append_cons x (colon_eq_ok_iff.mp h))

theorem endOfItems_append (h : endOfItems s = .ok r) : endOfItems (s ++ x) = .ok (r ++ x) :=
  endOfItems_eq_ok_iff.mpr (skipBlanks_append_cons x (endOfItems_eq_ok_iff.mp h))

variable {α σ : Type} {p : Reader α} {visit : σ → String → Reader σ} {st st' : σ} {as : List α}

theorem extends_value (h : p.Extends) : (value p).Extends := by
  refine ⟨fun {s a r} x hv hr => ?_⟩
  obtain ⟨r', hc, hp⟩ := colon_of_value hv
  rw [value_run (colon_append x hc)]
  exact h.append x hp hr

theorem TakesItems.ne_nil (h : TakesItems mode p first s as r) : s ≠ [] := by
  rintro rfl
  cases h with
  | closed hn => cases hn
  | item hn => cases hn

theorem TakesMembers.ne_nil (h : TakesMembers mode visit first st s st' r) : s ≠ [] := by
  rintro rfl
  cases h with
  | closed hn => cases hn
  | member hn => cases hn

/-- A list closes, because a bracket stands behind its last item. -/
theorem TakesItems.append (hp : p.Extends) (h : TakesItems mode p first s as r) :
    TakesItems mode p first (s ++ x) as (r ++ x) := by
  induction h with
  | closed hn => exact .closed (nextItem_append x hn)
  | item hn hv hrest ih =>
    exact .item (nextItem_append x hn) (hp.append x hv fun hnil => absurd hnil hrest.ne_nil) ih

/-- An object closes, because a brace stands behind its last member. -/
theorem TakesMembers.append (hvisit : ∀ st key, (visit st key).Extends)
    (h : TakesMembers mode visit first st s st' r) :
    TakesMembers mode visit first st (s ++ x) st' (r ++ x) := by
  induction h with
  | closed hn => exact .closed (nextKey_append x hn)
  | member hn hk hv hrest ih =>
    exact .member (nextKey_append x hn) ((Strings.body_closes mode).append x hk)
      ((hvisit _ _).append x hv fun hnil => absurd hnil hrest.ne_nil) ih

theorem TakesItems.mono {q : Reader α}
    (hpq : ∀ {s a r}, p.run s = .ok (a, r) → q.run s = .ok (a, r))
    (h : TakesItems mode p first s as r) : TakesItems mode q first s as r := by
  induction h with
  | closed hn => exact .closed hn
  | item hn hv _ ih => exact .item hn (hpq hv) ih

theorem TakesMembers.mono {visit' : σ → String → Reader σ}
    (hvisit : ∀ {st key s st' r}, (visit st key).run s = .ok (st', r) →
      (visit' st key).run s = .ok (st', r))
    (h : TakesMembers mode visit first st s st' r) :
    TakesMembers mode visit' first st s st' r := by
  induction h with
  | closed hn => exact .closed hn
  | member hn hk hv _ ih => exact .member hn hk (hvisit hv) ih

end Brackets

end CodeAssistant
