/-
# Headers that are given more than once

A configuration keeps its further headers by the names as they were given, and the names are
trimmed and lowered only when the headers are made.  Spellings of one name are therefore headers of
their own until the end, when they are set one over the other in the order of their bytes.

`prevailing_call` says which value a name carries in the end: `Prevails` is the last call of the
spelling that comes last in that order.  A later call with an earlier spelling does not override it
(`last_call_not_prevailing`).  A name that no call gives has what `default?` says.

The proof follows the two steps.  `lookup_ofList` tells which call is kept under a spelling
(`last_of_mem_ofList`), and among the spellings that are kept the greatest is met last
(`greatest_of_find?`).
-/
import CodeAssistant.Backend.Config
import CodeAssistant.Proofs.Canonical
import Mathlib.Data.List.Basic

namespace CodeAssistant

/-! ## 1. The last of a list, the greatest of a dictionary -/

namespace Text.Dictionary

variable {α : Type} {pairs d : List (String × α)} {p : String × α}

theorem find?_reverse_eq_some {β : Type} {q : β → Bool} {l : List β} {a : β}
    (h : l.reverse.find? q = some a) :
    q a = true ∧ ∃ before after, l = before ++ a :: after ∧ ∀ b ∈ after, q b = false := by
  obtain ⟨ha, after, before, hsplit, hafter⟩ := List.find?_eq_some_iff_append.mp h
  refine ⟨ha, before.reverse, after.reverse, ?_, ?_⟩
  · rw [← List.reverse_reverse l, hsplit]
    simp
  · intro b hb
    simpa using hafter b (List.mem_reverse.mp hb)

/-- In a dictionary the pair that is met last is the greatest of those that count. -/
theorem greatest_of_find? {q : String → Bool} (hd : Increasing d)
    (h : d.reverse.find? (fun p => q p.1) = some p) :
    p ∈ d ∧ q p.1 = true ∧ ∀ other ∈ d, q other.1 = true → other.1 ≤ p.1 := by
  obtain ⟨hp, before, after, rfl, hafter⟩ := find?_reverse_eq_some h
  refine ⟨by simp, hp, ?_⟩
  intro other hother hq
  rcases List.mem_append.mp hother with hbefore | hrest
  · exact String.not_lt.mp
      (String.lt_asymm ((List.pairwise_append.mp hd).2.2 other hbefore p List.mem_cons_self))
  · rcases List.mem_cons.mp hrest with rfl | hlater
    · exact String.le_refl _
    · rw [hafter other hlater] at hq
      cases hq

/-- What a dictionary keeps under a key is the last pair that was given with it. -/
theorem last_of_mem_ofList (h : p ∈ ofList pairs) :
    ∃ before after, pairs = before ++ p :: after ∧ ∀ later ∈ after, later.1 ≠ p.1 := by
  have hfind : (ofList pairs).find? (·.1 = p.1) = some p := by
    obtain ⟨before, after, hsplit⟩ := List.append_of_mem h
    have hpairwise := increasing_ofList pairs
    rw [hsplit] at hpairwise ⊢
    have hbefore : before.find? (·.1 = p.1) = none := by
      refine List.find?_eq_none.mpr fun q hq => ?_
      have hlt := (List.pairwise_append.mp hpairwise).2.2 q hq p List.mem_cons_self
      simpa using String.ne_of_lt hlt
    rw [List.find?_append, hbefore]
    simp
  have hlookup := lookup_ofList p.1 pairs
  rw [lookup, hfind, Option.map_some] at hlookup
  obtain ⟨q, hq, hvalue⟩ := Option.map_eq_some_iff.mp hlookup.symm
  obtain ⟨hkey, before, after, hsplit, hafter⟩ := find?_reverse_eq_some hq
  have hqp : q = p := Prod.ext (of_decide_eq_true hkey) hvalue
  subst hqp
  exact ⟨before, after, hsplit, fun later hlater => of_decide_eq_false (hafter later hlater)⟩

/-- Every key that was given is kept. -/
theorem mem_keys_ofList (h : p ∈ pairs) : ∃ q ∈ ofList pairs, q.1 = p.1 := by
  have hlookup := lookup_ofList p.1 pairs
  cases hfind : pairs.reverse.find? (·.1 = p.1) with
  | none =>
    have := List.find?_eq_none.mp hfind p (List.mem_reverse.mpr h)
    simp at this
  | some q =>
    rw [hfind, lookup, Option.map_some] at hlookup
    obtain ⟨kept, hkept, -⟩ := Option.map_eq_some_iff.mp hlookup
    have hkey := List.find?_some hkept
    exact ⟨kept, List.mem_of_find?_eq_some hkept, of_decide_eq_true hkey⟩

end Text.Dictionary

namespace ClientConfig

open Text Text.Dictionary

/-! ## 2. From calls to headers -/

/-- Adds headers one after the other. -/
def insertHeaders (c : ClientConfig) (calls : List (String × String)) : ClientConfig :=
  calls.foldl (fun c call => c.insertHeader call.1 call.2) c

/-- The name that a header is sent under. -/
def sentName (given : String) : String := String.ofList ((trim given).toList.map Char.toLower)

/-- The value that a header has before any is added.  The user agent is the configured one without
its blanks; the client's own name stands in for one that is absent or blank. -/
def default? (c : ClientConfig) (name : String) : Option String :=
  if name = "accept" then some "application/json"
  else if name = "user-agent" then
    match c.userAgent with
    | none => some "vibe-assistant/0.1.0"
    | some given => some (if isBlank given then "vibe-assistant/0.1.0" else trim given)
  else none

theorem insertHeaders_eq (c : ClientConfig) (calls : List (String × String)) :
    c.insertHeaders calls = { c with headers := insertAll calls c.headers } := by
  induction calls generalizing c with
  | nil => rfl
  | cons call calls ih => exact ih (c.insertHeader call.1 call.2)

theorem default?_userAgent (c : ClientConfig) : c.default? "user-agent" = some c.agent := by
  rw [default?, if_neg (by decide), if_pos rfl, agent]
  cases c.userAgent with
  | none => rfl
  | some given => cases h : isBlank given <;> simp [nonBlank?, defaultUserAgent, h]

theorem name?_eq_some {given name : String} (h : Http.Headers.name? (trim given) = some name) :
    name = sentName given := by
  rw [Http.Headers.name?] at h
  split at h
  · exact (Option.some.inj h).symm
  · cases h

/-- Headers that can be set are set one over the other. -/
theorem setHeaders_eq {given : List (String × String)} {start headers : Http.Headers}
    (h : setHeaders start given = .ok headers) :
    headers = insertAll (given.map fun p => (sentName p.1, trim p.2)) start := by
  induction given generalizing start with
  | nil => exact (Except.ok.inj h).symm
  | cons p given ih =>
    unfold setHeaders at h
    split at h
    · cases h
    · rename_i name hname
      rw [headerValue] at h
      split at h
      · cases h
      · rename_i value hvalue
        split at hvalue
        · rw [ih h, name?_eq_some hname, ← Except.ok.inj hvalue]
          rfl
        · cases hvalue

/-- The value of a name: that of the last spelling, or else the default. -/
theorem get?_buildHeaders {c : ClientConfig} {headers : Http.Headers}
    (h : c.buildHeaders = .ok headers) (name : String) :
    headers.get? name =
      ((c.headers.reverse.find? (sentName ·.1 = name)).map (trim ·.2)).or (c.default? name) := by
  rw [buildHeaders, headerValue] at h
  split at h
  · cases h
  · rename_i agent hagent
    have hincreasing : Increasing [("accept", "application/json"), ("user-agent", agent)] :=
      List.pairwise_pair.mpr (show "accept" < "user-agent" by decide)
    have hdefault : lookup name [("accept", "application/json"), ("user-agent", agent)] =
        c.default? name := by
      split at hagent
      · rw [← Except.ok.inj hagent]
        simp only [lookup, List.find?_cons, List.find?_nil, eq_comm (b := name)]
        by_cases haccept : name = "accept"
        · simp [haccept, default?]
        · by_cases huser : name = "user-agent"
          · rw [huser, default?_userAgent]
            simp
          · simp [default?, haccept, huser]
      · cases hagent
    rw [setHeaders_eq h, Http.Headers.get?, lookup_insertAll _ _ hincreasing, hdefault,
      ← List.map_reverse, List.find?_map, Option.map_map]
    simp only [Function.comp_def]

/-! ## 3. Which call prevails -/

/-- The call is the last with its spelling, and no spelling of the name that was given comes behind
it in the order of the bytes. -/
def Prevails (calls : List (String × String)) (name : String) (call : String × String) : Prop :=
  sentName call.1 = name ∧ (∀ other ∈ calls, sentName other.1 = name → other.1 ≤ call.1) ∧
    ∃ before after, calls = before ++ call :: after ∧ ∀ later ∈ after, later.1 ≠ call.1

/-- **A name carries the trimmed value of the call that prevails.**  A name that no call gives has
its default, if it has one. -/
theorem prevailing_call {start : ClientConfig} (hstart : start.headers = [])
    {calls : List (String × String)} {headers : Http.Headers}
    (h : (start.insertHeaders calls).buildHeaders = .ok headers) (name : String) :
    ((∀ call ∈ calls, sentName call.1 ≠ name) ∧ headers.get? name = start.default? name) ∨
      ∃ call, Prevails calls name call ∧ headers.get? name = some (trim call.2) := by
  have hget := get?_buildHeaders h name
  have hheaders : (start.insertHeaders calls).headers = ofList calls := by
    rw [insertHeaders_eq, hstart]
    rfl
  have hdefault : (start.insertHeaders calls).default? name = start.default? name := by
    rw [insertHeaders_eq]
    rfl
  rw [hheaders, hdefault] at hget
  cases hfind : (ofList calls).reverse.find? (sentName ·.1 = name) with
  | none =>
    rw [hfind] at hget
    refine .inl ⟨?_, hget⟩
    intro call hcall hname
    obtain ⟨kept, hkept, hkey⟩ := mem_keys_ofList hcall
    have hnot := List.find?_eq_none.mp hfind kept (List.mem_reverse.mpr hkept)
    rw [hkey, hname] at hnot
    simp at hnot
  | some call =>
    rw [hfind] at hget
    obtain ⟨hmem, hname, hgreatest⟩ := greatest_of_find?
      (q := fun given => decide (sentName given = name)) (increasing_ofList calls) hfind
    refine .inr ⟨call, ⟨of_decide_eq_true hname, ?_, last_of_mem_ofList hmem⟩, hget⟩
    intro other hother hsame
    obtain ⟨kept, hkept, hkey⟩ := mem_keys_ofList hother
    have hle := hgreatest kept hkept (decide_eq_true (by rw [hkey, hsame]))
    rwa [hkey] at hle

/-- Two spellings of one default's name, where the small letters come last, and none of the
other's. -/
theorem prevailing_call_accept :
    let start : ClientConfig := { userAgent := some " custom/2 " }
    let calls := [("accept", "text/html"), ("Accept ", " */* "), ("X-Trace", "7")]
    ∃ headers, (start.insertHeaders calls).buildHeaders = .ok headers ∧
      headers.get? "accept" = some "text/html" ∧
      (∃ call, Prevails calls "accept" call ∧ headers.get? "accept" = some (trim call.2)) ∧
      headers.get? "user-agent" = some "custom/2" := by
  intro start calls
  have h : (start.insertHeaders calls).buildHeaders =
      .ok [("accept", "text/html"), ("user-agent", "custom/2"), ("x-trace", "7")] := by
    decide
  refine ⟨_, h, rfl, ?_, ?_⟩
  · rcases prevailing_call rfl h "accept" with ⟨hnot, -⟩ | hcall
    · exact absurd (by decide) (hnot ("accept", "text/html") (by simp [calls]))
    · exact hcall
  · rcases prevailing_call rfl h "user-agent" with ⟨-, hdefault⟩ | ⟨call, hcall, -⟩
    · rw [hdefault]
      decide
    · obtain ⟨hname, -, before, after, hsplit, -⟩ := hcall
      have hnot : ∀ call ∈ calls, sentName call.1 ≠ "user-agent" := by decide
      exact absurd hname (hnot call (by simp [hsplit]))

/-- The last call for a name need not prevail: its spelling may come first. -/
theorem last_call_not_prevailing :
    let calls := [("x-a", "1"), ("X-A", "2")]
    ∃ headers, (insertHeaders {} calls).buildHeaders = .ok headers ∧
      sentName "X-A" = "x-a" ∧ headers.get? "x-a" = some "1" ∧
      headers.get? "x-a" ≠ some (trim "2") := by
  intro calls
  have h : (insertHeaders {} calls).buildHeaders =
      .ok [("accept", "application/json"), ("user-agent", "vibe-assistant/0.1.0"), ("x-a", "1")] := by
    decide
  exact ⟨_, h, by decide, by decide, by decide⟩

end ClientConfig

end CodeAssistant
