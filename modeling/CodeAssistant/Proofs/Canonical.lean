/-
# Canonical trees

Bringing a tree into its canonical form loses the order of keys and all but the last value of a
repeated key, and nothing else: every key has the value that it had last (`lookup_canonical`).
A tree that is in the form already is left alone (`canonical_of_isCanonical`).
-/
import CodeAssistant.Json.Value

namespace CodeAssistant

/-! ## 1. Dictionaries -/

namespace Text.Dictionary

variable {α : Type} {pairs d : List (String × α)}

theorem lookup_insertAll (k : String) (pairs : List (String × α)) {d : List (String × α)}
    (h : Increasing d) :
    lookup k (insertAll pairs d) =
      ((pairs.reverse.find? (·.1 = k)).map (·.2)).or (lookup k d) := by
  induction pairs generalizing d with
  | nil => rfl
  | cons p pairs ih =>
    have hstep : insertAll (p :: pairs) d = insertAll pairs (insert p.1 p.2 d) := rfl
    rw [hstep, ih (increasing_insert h), lookup_insert _ _ _ _ h, List.reverse_cons,
      List.find?_append]
    cases pairs.reverse.find? (·.1 = k) with
    | some q => simp
    | none => by_cases hk : k = p.1 <;> simp [hk, eq_comm]

/-- A dictionary made of pairs has the last value of each key. -/
theorem lookup_ofList (k : String) (pairs : List (String × α)) :
    lookup k (ofList pairs) = (pairs.reverse.find? (·.1 = k)).map (·.2) := by
  rw [ofList, lookup_insertAll k pairs List.Pairwise.nil]
  cases pairs.reverse.find? (·.1 = k) <;> rfl

/-- A key stands in a dictionary once, so it does not matter from which end it is looked for. -/
theorem find?_reverse (k : String) (h : Increasing d) :
    d.reverse.find? (·.1 = k) = d.find? (·.1 = k) := by
  induction d with
  | nil => rfl
  | cons p d ih =>
    obtain ⟨hp, hd⟩ := List.pairwise_cons.mp h
    rw [List.reverse_cons, List.find?_append, ih hd, List.find?_cons]
    by_cases hk : p.1 = k
    · have hnone : d.find? (·.1 = k) = none := by
        refine List.find?_eq_none.mpr fun q hq => ?_
        have := hp q hq
        simp only [decide_eq_true_eq]
        rintro rfl
        rw [hk] at this
        exact String.lt_irrefl _ this
      simp [hnone, hk]
    · simp [hk]

/-- A key beyond all others goes to the end. -/
theorem insert_of_forall_lt {key : String} {value : α} (h : ∀ p ∈ d, p.1 < key) :
    insert key value d = d ++ [(key, value)] := by
  induction d with
  | nil => rfl
  | cons p d ih =>
    have hp : p.1 < key := h p List.mem_cons_self
    have hne : key ≠ p.1 := by
      rintro rfl
      exact String.lt_irrefl _ hp
    rw [insert, if_neg (String.lt_asymm hp), if_neg hne,
      ih fun q hq => h q (List.mem_cons_of_mem _ hq), List.cons_append]

theorem insertAll_of_increasing (h : Increasing (d ++ pairs)) : insertAll pairs d = d ++ pairs := by
  induction pairs generalizing d with
  | nil => simp [insertAll]
  | cons p pairs ih =>
    have hlast : ∀ q ∈ d, q.1 < p.1 := fun q hq =>
      (List.pairwise_append.mp h).2.2 q hq p List.mem_cons_self
    have hstep : insertAll (p :: pairs) d = insertAll pairs (insert p.1 p.2 d) := rfl
    rw [hstep, insert_of_forall_lt hlast, ih (by simpa using h)]
    simp

/-- A dictionary is made of its own pairs. -/
theorem ofList_of_increasing (h : Increasing pairs) : ofList pairs = pairs :=
  insertAll_of_increasing (d := []) h

end Text.Dictionary

/-! ## 2. Trees -/

namespace Json

open Text

theorem canonicalItems_eq_map (ts : List Json) : canonicalItems ts = ts.map canonical := by
  induction ts with
  | nil => rfl
  | cons t ts ih => rw [canonicalItems, ih, List.map_cons]

theorem canonicalMembers_eq_map (ms : List (String × Json)) :
    canonicalMembers ms = ms.map fun m => (m.1, m.2.canonical) := by
  induction ms with
  | nil => rfl
  | cons m ms ih => rw [canonicalMembers, ih, List.map_cons]

/-- Every key keeps the value that it had last. -/
theorem lookup_canonical (key : String) (ms : List (String × Json)) :
    lookup key (sortMembers (canonicalMembers ms)) = (lookup key ms).map canonical := by
  have hfind : ((ms.map fun m => (m.1, m.2.canonical)).reverse.find? (·.1 = key)).map (·.2)
      = ((ms.reverse.find? (·.1 = key)).map (·.2)).map canonical := by
    rw [← List.map_reverse, List.find?_map]
    simp [Function.comp_def]
  rw [lookup, sortMembers, Dictionary.find?_reverse key (Dictionary.increasing_ofList _),
    canonicalMembers_eq_map]
  exact (Dictionary.lookup_ofList key _).trans hfind

mutual

/-- **A canonical tree is its own canonical form.** -/
theorem canonical_of_isCanonical : {t : Json} → IsCanonical t → canonical t = t
  | .array _, h => congrArg array (canonicalItems_of_itemsCanonical h)
  | .object _, h => by
    rw [canonical, canonicalMembers_of_membersCanonical h.2, sortMembers,
      Dictionary.ofList_of_increasing h.1]
  | .null, _ => rfl
  | .bool _, _ => rfl
  | .number _, _ => rfl
  | .string _, _ => rfl

theorem canonicalItems_of_itemsCanonical :
    {ts : List Json} → ItemsCanonical ts → canonicalItems ts = ts
  | [], _ => rfl
  | _ :: _, h => by
    rw [canonicalItems, canonical_of_isCanonical h.1, canonicalItems_of_itemsCanonical h.2]

theorem canonicalMembers_of_membersCanonical :
    {ms : List (String × Json)} → MembersCanonical ms → canonicalMembers ms = ms
  | [], _ => rfl
  | (_, _) :: _, h => by
    rw [canonicalMembers, canonical_of_isCanonical h.1, canonicalMembers_of_membersCanonical h.2]

end

end Json

namespace FreeJson

/-- Free JSON is the canonical form of its own tree. -/
theorem ofTree_tree (v : FreeJson) : ofTree v.tree = v := by
  obtain ⟨t, h⟩ := v
  simp only [ofTree, Json.canonical_of_isCanonical h]

theorem ofTree_canonical (t : Json) : ofTree t.canonical = ofTree t := ofTree_tree (ofTree t)

end FreeJson

end CodeAssistant
