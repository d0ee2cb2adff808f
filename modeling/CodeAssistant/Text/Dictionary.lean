/-
# Dictionaries

A dictionary is a list of pairs in strictly increasing order of their keys, so that each key
occurs once.  Keys are compared character by character, which is also the order of their bytes.

`increasing_insert` and `increasing_ofList` say that the order is kept; `lookup_insert` says what
insertion does to the view of a dictionary as a function of its keys.
-/

namespace CodeAssistant.Text.Dictionary

variable {α : Type}

/-- Puts a value under a key, in the place of one that is there. -/
def insert (key : String) (value : α) : List (String × α) → List (String × α)
  | [] => [(key, value)]
  | (k, v) :: rest =>
    if key < k then (key, value) :: (k, v) :: rest
    else if key = k then (key, value) :: rest
    else (k, v) :: insert key value rest

/-- Puts pairs into a dictionary in order; the last value of a key stays. -/
def insertAll (pairs : List (String × α)) (d : List (String × α)) : List (String × α) :=
  pairs.foldl (fun d p => insert p.1 p.2 d) d

/-- The dictionary of some pairs; the last value of a key stays. -/
def ofList (pairs : List (String × α)) : List (String × α) := insertAll pairs []

/-- The value under a key. -/
def lookup (key : String) (d : List (String × α)) : Option α :=
  (d.find? (·.1 = key)).map (·.2)

/-- The keys stand in strictly increasing order. -/
def Increasing (d : List (String × α)) : Prop := d.Pairwise fun a b => a.1 < b.1

/-! ## 1. The order is kept -/

/-- Insertion adds one pair and keeps no others than those that were there. -/
theorem mem_of_mem_insert {key : String} {value : α} {d : List (String × α)} {p : String × α}
    (h : p ∈ insert key value d) : p = (key, value) ∨ p ∈ d := by
  induction d with
  | nil => simpa [insert] using h
  | cons q d ih =>
    obtain ⟨k, v⟩ := q
    rw [insert] at h
    split at h
    · simpa using h
    · split at h
      · rcases List.mem_cons.mp h with h | h
        · exact Or.inl h
        · exact Or.inr (List.mem_cons_of_mem _ h)
      · rcases List.mem_cons.mp h with h | h
        · exact Or.inr (h ▸ List.mem_cons_self)
        · rcases ih h with h | h
          · exact Or.inl h
          · exact Or.inr (List.mem_cons_of_mem _ h)

theorem increasing_insert {key : String} {value : α} {d : List (String × α)}
    (h : Increasing d) : Increasing (insert key value d) := by
  induction d with
  | nil => simp [insert, Increasing]
  | cons q d ih =>
    obtain ⟨k, v⟩ := q
    have hk := (List.pairwise_cons.mp h).1
    have hd : Increasing d := (List.pairwise_cons.mp h).2
    rw [insert]
    split
    · rename_i hlt
      refine List.pairwise_cons.mpr ⟨fun p hp => ?_, h⟩
      rcases List.mem_cons.mp hp with rfl | hp
      · exact hlt
      · exact String.lt_trans hlt (hk p hp)
    · split
      · rename_i heq
        subst heq
        exact List.pairwise_cons.mpr ⟨hk, hd⟩
      · rename_i hlt hne
        refine List.pairwise_cons.mpr ⟨fun p hp => ?_, ih hd⟩
        rcases mem_of_mem_insert hp with rfl | hp
        · show k < key
          rcases Decidable.em (k < key) with h' | h'
          · exact h'
          · exact absurd (String.le_antisymm (String.not_lt.mp h') (String.not_lt.mp hlt)) hne
        · exact hk p hp

theorem increasing_insertAll (pairs : List (String × α)) {d : List (String × α)}
    (h : Increasing d) : Increasing (insertAll pairs d) := by
  induction pairs generalizing d with
  | nil => exact h
  | cons p pairs ih => exact ih (increasing_insert h)

theorem increasing_ofList (pairs : List (String × α)) : Increasing (ofList pairs) :=
  increasing_insertAll pairs List.Pairwise.nil

theorem mem_of_mem_insertAll {pairs d : List (String × α)} {p : String × α}
    (h : p ∈ insertAll pairs d) : p ∈ pairs ∨ p ∈ d := by
  induction pairs generalizing d with
  | nil => exact Or.inr h
  | cons q pairs ih =>
    rcases ih h with h | h
    · exact Or.inl (List.mem_cons_of_mem _ h)
    · rcases mem_of_mem_insert h with rfl | h
      · exact Or.inl List.mem_cons_self
      · exact Or.inr h

/-- A dictionary holds no other pairs than those that it was made of. -/
theorem mem_of_mem_ofList {pairs : List (String × α)} {p : String × α} (h : p ∈ ofList pairs) :
    p ∈ pairs := (mem_of_mem_insertAll h).resolve_right (by simp)

/-! ## 2. The view -/

/-- What is put under a key is found there, and nothing else changes. -/
theorem lookup_insert (key k : String) (value : α) (d : List (String × α)) (h : Increasing d) :
    lookup k (insert key value d) = if k = key then some value else lookup k d := by
  induction d with
  | nil => by_cases hk : key = k <;> simp [insert, lookup, hk, eq_comm]
  | cons q d ih =>
    obtain ⟨k', v⟩ := q
    have hd : Increasing d := (List.pairwise_cons.mp h).2
    rw [insert]
    split
    · by_cases hk : key = k
      · simp [lookup, hk]
      · simp [lookup, hk, Ne.symm hk]
    · split
      · rename_i heq
        subst heq
        by_cases hk : key = k
        · simp [lookup, hk]
        · simp [lookup, hk, Ne.symm hk]
      · rename_i hne
        by_cases hk : k' = k
        · subst hk
          simp [lookup, Ne.symm hne]
        · have := ih hd
          simp only [lookup, List.find?_cons, decide_eq_false hk] at this ⊢
          exact this

end CodeAssistant.Text.Dictionary
