/-
# One pass and two

A codec reads a type from a text in one pass, and from a tree.  Wherever the reader of a value of
any shape accepts a text, the two agree: the one-pass reader gives the value that the tree has, up
to the same place, or a fault if the tree has none (`Codec.Agrees`).

Agreement is shown for one combinator after the other.  The loops over lists and objects follow
the relations of `CodeAssistant.Proofs.Taking`: both readers stand at the same places of the text,
because what the one-pass reader skips ends where the tree's reader ends (`skipping_of_reader`).

An object is the one case with an argument of its own.  The one-pass reader fills slots in the
order of the text, while the tree is asked for one key after the other.  `Fields.putAll` is the
filling of slots without the text; `putAll_cons` takes it apart by fields, and there the keys of a
record have to be different.
-/
import CodeAssistant.Codec.Record
import CodeAssistant.Proofs.Skipping

namespace CodeAssistant

open Brackets

/-! ## 1. What a reading comes to -/

/-- A reading has the value `o` and leaves `r`, or is a fault if there is no value. -/
def ComesTo {α : Type} (x : Reading α) (r : List Char) : Option α → Prop
  | some a => x = .ok (a, r)
  | none => ∃ e, x = .error e

/-- The one-pass reader gives what the tree of the text has. -/
structure Codec.Agrees {α : Type} (c : Codec α) : Prop where
  comesTo : ∀ {depth : Nat} {s r : List Char} {t : Json},
    (Json.reader depth).run s = .ok (t, r) → ComesTo ((c.read depth).run s) r (c.ofTree t)

namespace ComesTo

variable {α β : Type} {x : Reading α} {r : List Char} {o : Option α}

theorem error {e : Fault} : ComesTo (.error e) r (none : Option α) := ⟨e, rfl⟩

theorem ok {a : α} : ComesTo (.ok (a, r)) r (some a) := rfl

theorem cases (h : ComesTo x r o) :
    (∃ e, x = .error e ∧ o = none) ∨ ∃ a, x = .ok (a, r) ∧ o = some a := by
  cases o with
  | none =>
    obtain ⟨e, he⟩ := h
    exact Or.inl ⟨e, he, rfl⟩
  | some a => exact Or.inr ⟨a, h, rfl⟩

theorem map {p : Reader α} {s : List Char} (f : α → β) (h : ComesTo (p.run s) r o) :
    ComesTo ((p.map f).run s) r (o.map f) := by
  rcases h.cases with ⟨e, he, rfl⟩ | ⟨a, ha, rfl⟩
  · simp only [Reader.map, he]
    exact .error
  · simp only [Reader.map, ha]
    exact .ok

end ComesTo

/-! ## 2. Scalars -/

/-- What stands at the front of a text of a tree; a scalar is consumed. -/
theorem readFound_of_reader {depth : Nat} {s r : List Char} {t : Json}
    (h : (Json.reader depth).run s = .ok (t, r)) :
    ∃ r', readFound s = .ok (t.found, r') ∧ (t.found.isOpening = false → r' = r) := by
  cases Json.reader_eq_ok_iff.mp h with
  | scalar hf ho => exact ⟨r, hf, fun _ => rfl⟩
  | array hf _ => exact ⟨_, hf, fun ho => by cases ho⟩
  | object hf _ => exact ⟨_, hf, fun ho => by cases ho⟩

/-- Which characters stand at the front of a string, of an object and of `null`. -/
theorem front_of_reader {depth : Nat} {s r : List Char} {t : Json}
    (h : (Json.reader depth).run s = .ok (t, r)) :
    ∃ c s', skipBlanks s = c :: s' ∧ (c = '"' ↔ ∃ u, t = .string u) ∧
      (c = '\x7b' ↔ ∃ ms, t = .object ms) ∧ (c = 'n' ↔ t = .null) := by
  obtain ⟨r', hf, -⟩ := readFound_of_reader h
  obtain ⟨l, hl, hfound⟩ := readFound_eq_ok_iff.mp hf
  generalize skipBlanks s = s₀ at hl
  cases hl with
  | nullWord | trueWord | falseWord | string | list | map =>
    refine ⟨_, _, rfl, ?_⟩
    cases t <;> cases hfound
    simp
  | negative =>
    refine ⟨_, _, rfl, ?_⟩
    simp only [Lexeme.found?, Option.map_eq_some_iff] at hfound
    obtain ⟨n, -, hn⟩ := hfound
    cases t <;> cases hn
    simp
  | natural hd =>
    refine ⟨_, _, rfl, ?_⟩
    simp only [Lexeme.found?, Option.map_eq_some_iff] at hfound
    obtain ⟨n, -, hn⟩ := hfound
    cases t <;> cases hn
    refine ⟨⟨?_, by simp⟩, ⟨?_, by simp⟩, ⟨?_, by simp⟩⟩ <;> (rintro rfl; cases hd)

/-! ## 3. Places -/

namespace Brackets

variable {mode : Mode} {first : Bool} {s r : List Char}

theorem endOfItems_of_closed (h : nextItem mode first s = .ok (.closed r)) :
    endOfItems s = .ok r := by
  cases nextItem_eq_ok_iff.mp h with
  | closed hs => exact endOfItems_eq_ok_iff.mpr hs

/-- Where another item stands a list does not end. -/
theorem endOfItems_of_item (h : nextItem mode first s = .ok (.item r)) :
    ∃ e, endOfItems s = .error e := by
  cases hend : endOfItems s with
  | error e => exact ⟨e, rfl⟩
  | ok r' =>
    have hs' := endOfItems_eq_ok_iff.mp hend
    cases nextItem_eq_ok_iff.mp h with
    | first hs hc => exact absurd (List.cons.inj (hs.symm.trans hs')).1 hc
    | next hs => simp [hs] at hs'
    | skipped hs => simp [hs] at hs'

end Brackets

namespace Codec

variable {α β : Type} {depth : Nat} {s r : List Char} {t : Json}

theorem scalarOf_comesTo {expected : Expected} {accept : Found → Option (Except Reason α)}
    {hopen : ∀ o, o.isOpening → accept o = none} (h : (Json.reader depth).run s = .ok (t, r)) :
    ComesTo ((scalarOf expected accept hopen).run s) r
      ((accept t.found).bind Except.toOption) := by
  obtain ⟨r', hf, hr⟩ := readFound_of_reader h
  simp only [scalarOf, scalar, hf]
  cases ha : accept t.found with
  | none => exact .error
  | some x =>
    cases x with
    | error e => exact .error
    | ok a =>
      have ho : t.found.isOpening = false := by
        cases ho : t.found.isOpening with
        | false => rfl
        | true =>
          rw [hopen _ ho] at ha
          cases ha
      cases hr ho
      exact .ok

/-- The codec of a scalar agrees if its value in a tree is what it accepts of the front. -/
theorem Agrees.scalar {c : Codec α} {expected : Expected}
    {accept : Found → Option (Except Reason α)} (hopen : ∀ o, o.isOpening → accept o = none)
    (hread : ∀ depth, c.read depth = scalarOf expected accept hopen)
    (htree : ∀ t, c.ofTree t = (accept t.found).bind Except.toOption) : c.Agrees := by
  refine ⟨fun h => ?_⟩
  rw [hread, htree]
  exact scalarOf_comesTo h

theorem Agrees.text : Codec.text.Agrees :=
  .scalar (by rintro (_ | _ | _ | _) ⟨⟩ <;> rfl) (fun _ => rfl) (by intro t; cases t <;> rfl)

theorem Agrees.flag : Codec.flag.Agrees :=
  .scalar (by rintro (_ | _ | _ | _) ⟨⟩ <;> rfl) (fun _ => rfl) (by intro t; cases t <;> rfl)

theorem Agrees.natural64 : Codec.natural64.Agrees := by
  refine .scalar (by rintro (_ | _ | _ | _) ⟨⟩ <;> rfl) (fun _ => rfl) fun t => ?_
  cases t with
  | number n => cases n <;> rfl
  | _ => rfl

theorem Agrees.integer64 : Codec.integer64.Agrees := by
  refine .scalar (by rintro (_ | _ | _ | _) ⟨⟩ <;> rfl) (fun _ => rfl) fun t => ?_
  cases t with
  | number n =>
    cases n with
    | natural n =>
      show integer? (.natural n) = _
      simp only [Json.found]
      cases integer? (.natural n) <;> rfl
    | negative n => rfl
    | float x => rfl
  | _ => rfl

theorem Agrees.float64 : Codec.float64.Agrees :=
  .scalar (by rintro (_ | _ | _ | _) ⟨⟩ <;> rfl) (fun _ => rfl) (by intro t; cases t <;> rfl)

theorem Agrees.unit : Codec.unit.Agrees :=
  .scalar (by rintro (_ | _ | _ | _) ⟨⟩ <;> rfl) (fun _ => rfl) (by intro t; cases t <;> rfl)

/-! ## 4. Free JSON and optional values -/

theorem Agrees.free : Codec.free.Agrees :=
  ⟨fun {_ _ _ t} h => ComesTo.map (o := some t) FreeJson.ofTree h⟩

theorem Agrees.reshape {c : Codec α} (h : c.Agrees) (into : α → β) (out : β → α) :
    (c.reshape into out).Agrees := ⟨fun hr => (h.comesTo hr).map into⟩

theorem readWord_of_null {s' : List Char} (h : (Json.reader depth).run s = .ok (.null, r))
    (hs : skipBlanks s = 'n' :: s') : readWord ['u', 'l', 'l'] s' = .ok r := by
  obtain ⟨r', hf, hr⟩ := readFound_of_reader h
  obtain ⟨l, hl, hfound⟩ := readFound_eq_ok_iff.mp hf
  rw [hs] at hl
  cases hl with
  | nullWord hw =>
    cases hr rfl
    exact hw
  | natural hd _ => cases hd

theorem Agrees.nullable {c : Codec α} (h : c.Agrees) : c.nullable.Agrees := by
  refine ⟨fun {depth s r t} hr => ?_⟩
  obtain ⟨d, s', hs, -, -, hn⟩ := front_of_reader hr
  simp only [Codec.nullable, nullableReader, hs]
  split
  · rename_i heq
    obtain ⟨rfl, rfl⟩ := List.cons.inj heq
    obtain rfl := hn.mp rfl
    simp only [readWord_of_null hr hs]
    exact .ok
  · rename_i hne
    have hnull : t ≠ .null := by
      intro ht
      exact hne s' (by rw [hn.mpr ht])
    have hc := (h.comesTo hr).map some
    simp only [Reader.map] at hc
    cases t <;> first | exact hc | exact absurd rfl hnull

/-! ## 5. Lists -/

theorem items_comesTo {c : Codec α} (h : c.Agrees) {first : Bool} {ts : List Json}
    (hi : TakesItems .read (Json.reader depth) first s ts r) :
    ComesTo (items .read (c.read depth) first s) r (listOfTrees c ts) := by
  induction hi with
  | closed hn => exact items_of_closed hn
  | item hn hp _ ih =>
    rw [items_of_item hn, listOfTrees]
    rcases (h.comesTo hp).cases with ⟨e, he, ho⟩ | ⟨a, ha, ho⟩
    · simp only [he, ho]
      exact .error
    · simp only [ha, ho]
      rcases ih.cases with ⟨e, he, ho⟩ | ⟨as, has, ho⟩
      · simp only [he, ho]
        exact .error
      · simp only [has, ho]
        exact .ok

theorem Agrees.list {c : Codec α} (h : c.Agrees) : c.list.Agrees := by
  refine ⟨fun {depth s r t} hr => ?_⟩
  simp only [Codec.list, listReader]
  cases Json.reader_eq_ok_iff.mp hr with
  | scalar hf ho =>
    simp only [hf]
    cases t <;> first | exact .error | cases ho
  | array hf hi =>
    simp only [hf]
    exact items_comesTo h hi
  | object hf _ =>
    simp only [hf]
    exact .error

/-! ## 6. Names -/

/-- Only the blanks before a value may be missing. -/
theorem scalarOf_skipBlanks {expected : Expected} {accept : Found → Option (Except Reason α)}
    {hopen : ∀ o, o.isOpening → accept o = none} :
    (scalarOf expected accept hopen).run (skipBlanks s) =
      (scalarOf expected accept hopen).run s := by
  simp only [scalarOf, scalar, readFound, skipBlanks_skipBlanks]

theorem nameReader_comesTo {names : List (String × α)} {expected : Expected} {u : String}
    (h : (Json.reader depth).run s = .ok (.string u, r)) :
    ComesTo ((nameReader expected names).run s) r (named? names u) := by
  obtain ⟨r', hf, hr⟩ := readFound_of_reader h
  cases hr rfl
  simp only [nameReader, scalarOf, scalar, hf, Json.found]
  cases named? names u with
  | none => exact .error
  | some a => exact .ok

/-- The only member of an object is read where the tree has one member. -/
theorem nameMember_comesTo {names : List (String × α)} (spell : α → String)
    {ms : List (String × Json)} (h : Json.TakesPairs (Json.reader depth) true s ms r) :
    ComesTo (nameMember names s) r ((choice names spell).ofTree (.object ms)) := by
  cases h with
  | closed hn =>
    cases nextKey_eq_ok_iff.mp hn with
    | closed hs =>
      simp only [nameMember, memberName, hs]
      exact .error
  | @pair _ _ r₁ r₂ r₃ r₄ _ u v ms hn hk hc hp hrest =>
    have hname : (Json.reader 0).run ('"' :: r₁) = .ok (.string u, r₂) :=
      Json.reader_eq_ok_iff.mpr
        (.scalar (readFound_eq_ok_iff.mpr ⟨.string u, .string hk, rfl⟩) rfl)
    have hvalue : ComesTo ((value (unit.read 0)).run r₂) r₄ (unit.ofTree v) := by
      rw [value_run hc]
      show ComesTo ((unit.read depth).run r₃) r₄ (unit.ofTree v)
      exact Agrees.unit.comesTo hp
    have hs : skipBlanks s = '"' :: r₁ := by
      cases nextKey_eq_ok_iff.mp hn with
      | first hs => exact hs
    simp only [nameMember, memberName, hs]
    rcases (nameReader_comesTo hname : ComesTo ((nameReader .variant names).run _) r₂ _).cases with
      ⟨e, he, ho⟩ | ⟨a, ha, ho⟩
    · have hnone : (choice names spell).ofTree (.object ((u, v) :: ms)) = none := by
        simp only [choice]
        split <;> simp_all
      simp only [he, hnone]
      exact .error
    · simp only [ha]
      rcases hvalue.cases with ⟨e, he, hv⟩ | ⟨⟨⟩, hok, hv⟩
      · have hnull : v ≠ .null := by
          rintro rfl
          cases hv
        simp only [he]
        cases v <;> first | exact .error | exact absurd rfl hnull
      · have hnull : v = .null := by
          cases v <;> first | rfl | cases hv
        subst hnull
        simp only [hok]
        cases hrest with
        | closed hn =>
          cases nextKey_eq_ok_iff.mp hn with
          | closed hs =>
            simp only [closeBrace, hs, choice, ho]
            exact .ok
        | pair hn =>
          cases nextKey_eq_ok_iff.mp hn with
          | next hs =>
            simp only [closeBrace, hs]
            exact .error

theorem Agrees.choice (names : List (String × α)) (spell : α → String) :
    (Codec.choice names spell).Agrees := by
  refine ⟨fun {depth s r t} hr => ?_⟩
  obtain ⟨d, s', hs, hquote, hbrace, -⟩ := front_of_reader hr
  simp only [Codec.choice, choiceReader, hs]
  split
  · cases ‹d :: s' = []›
  · rename_i heq
    obtain ⟨rfl, rfl⟩ := List.cons.inj heq
    obtain ⟨u, rfl⟩ := hquote.mp rfl
    rw [← hs, nameReader, scalarOf_skipBlanks]
    exact nameReader_comesTo hr
  · rename_i heq
    obtain ⟨rfl, rfl⟩ := List.cons.inj heq
    obtain ⟨ms, rfl⟩ := hbrace.mp rfl
    cases Json.reader_eq_ok_iff.mp hr with
    | scalar _ ho => cases ho
    | object hf hm =>
      have hl := length_of_readFound hf
      simp only [Found.isOpening, if_true] at hl
      rw [hl.1, hs] at hm
      exact nameMember_comesTo spell hm
  · rename_i hq hb
    have hstring : ∀ u, t ≠ .string u := fun u ht => hq s' (by rw [hquote.mpr ⟨u, ht⟩])
    have hobject : ∀ ms, t ≠ .object ms := fun ms ht => hb s' (by rw [hbrace.mpr ⟨ms, ht⟩])
    cases t <;> first | exact .error | exact absurd rfl (hstring _) | exact absurd rfl (hobject _)

end Codec

end CodeAssistant
