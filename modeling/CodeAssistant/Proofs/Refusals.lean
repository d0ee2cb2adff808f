/-
# Refusals without words of their own

When the body of a refusal says nothing, the message is made from the status, and the body is
appended if it could be meant for a reader.  Whether it could is decided by the first character that
is not blank: a bracket is taken for JSON, anything else for words.

`IsAppended` says so of a body.  The grammar of JSON is the measure of the guess: of the JSON texts
the scalars are appended, and the lists and objects are not (`isAppended_iff_of_isText`).

Main statement: `ofStatus_of_no_message`.
-/
import CodeAssistant.Proofs.Admission
import CodeAssistant.Proofs.ErrorBodies

namespace CodeAssistant

open Http (Status)

/-! ## 1. The first character of a text -/

namespace Text

theorem isBlankChar_of_isJsonBlank {c : Char} (h : isJsonBlank c = true) :
    isBlankChar c = true := by
  simp only [isJsonBlank, Bool.or_eq_true, decide_eq_true_eq] at h
  rcases h with ((rfl | rfl) | rfl) | rfl <;> decide

/-- The first character that is not blank is the first that is left by trimming. -/
theorem head?_trimList {gap cs : List Char} {c : Char} (hgap : ∀ d ∈ gap, isBlankChar d = true)
    (hc : isBlankChar c = false) : (trimList (gap ++ c :: cs)).head? = some c := by
  have hstart : trimStartList (gap ++ c :: cs) = c :: cs := by
    rw [trimStartList, List.dropWhile_append_of_pos hgap, List.dropWhile_cons_of_neg (by simp [hc])]
  rw [trimList, hstart, trimEndList, List.reverse_cons, List.dropWhile_append]
  split
  · simp [hc]
  · simp

end Text

namespace Json

namespace Grammar

variable {cs : List Char}

/-- A value that is neither a list nor an object. -/
def IsScalar (cs : List Char) : Prop :=
  cs ∈ [nullWord, trueWord, falseWord] ∨ IsNumber cs ∨ ∃ t, IsChars t ∧ cs = '"' :: (t ++ ['"'])

theorem isBlankChar_of_isDigit {c : Char} (h : Numbers.isDigit c = true) :
    Text.isBlankChar c = false ∧ c ≠ '\x7b' ∧ c ≠ '[' := by
  have hother : c ≠ '\x7b' ∧ c ≠ '[' := by
    constructor
    · rintro rfl
      cases h
    · rintro rfl
      cases h
  refine ⟨?_, hother⟩
  simp only [Numbers.isDigit, Bool.and_eq_true, decide_eq_true_eq, Char.le_def,
    UInt32.le_iff_toNat_le] at h
  simp only [Text.isBlankChar, Bool.or_eq_false_iff, Bool.and_eq_false_iff, decide_eq_false_iff_not]
  have hlow : 48 ≤ c.toNat := h.1
  have hhigh : c.toNat ≤ 57 := h.2
  omega

theorem head_of_scalar (h : IsScalar cs) :
    ∃ c cs', cs = c :: cs' ∧ Text.isBlankChar c = false ∧ c ≠ '\x7b' ∧ c ≠ '[' := by
  rcases h with h | h | ⟨t, -, rfl⟩
  · simp only [List.mem_cons, List.not_mem_nil, or_false] at h
    rcases h with rfl | rfl | rfl <;> exact ⟨_, _, rfl, by decide⟩
  · rcases h with ⟨whole, fraction, exponent, hwhole, -, -, rfl⟩ | ⟨u, -, rfl⟩
    · obtain ⟨c, ds, rfl⟩ := List.exists_cons_of_ne_nil hwhole.1.1
      exact ⟨c, _, rfl, isBlankChar_of_isDigit (hwhole.1.2 c List.mem_cons_self)⟩
    · exact ⟨_, _, rfl, by decide⟩
  · exact ⟨_, _, rfl, by decide⟩

/-- A value that is no scalar starts with a bracket. -/
theorem isScalar_or_bracket (h : Derives .value cs) :
    IsScalar cs ∨ ∃ c cs', cs = c :: cs' ∧ (c = '\x7b' ∨ c = '[') := by
  cases h with
  | word h => exact Or.inl (Or.inl h)
  | number h => exact Or.inl (Or.inr (Or.inl h))
  | string h => exact Or.inl (Or.inr (Or.inr ⟨_, h, rfl⟩))
  | emptyList => exact Or.inr ⟨_, _, rfl, Or.inr rfl⟩
  | list => exact Or.inr ⟨_, _, rfl, Or.inr rfl⟩
  | object => exact Or.inr ⟨_, _, rfl, Or.inl rfl⟩

end Grammar

open Grammar

/-- A JSON text whose value is neither a list nor an object. -/
def IsScalarText (cs : List Char) : Prop :=
  ∃ gap scalar gap', Blanks gap ∧ IsScalar scalar ∧ Blanks gap' ∧ cs = gap ++ (scalar ++ gap')

end Json

/-! ## 2. What is appended -/

namespace BackendError

open Json

/-- The body could be meant for a reader: it does not start with a bracket. -/
def IsAppended (body : String) : Prop :=
  Text.isBlank body = false ∧ ∀ c ∈ (Text.trim body).toList.head?, c ≠ '\x7b' ∧ c ≠ '['

instance (body : String) : Decidable (IsAppended body) :=
  decidable_of_iff (Text.isBlank body = false ∧
    (Text.trim body).toList.head?.all fun c => c ≠ '\x7b' ∧ c ≠ '[') <| by
    simp [IsAppended, Option.all_eq_true]

theorem plainMessage_eq (op : Operation) (status : Status) (body : String) :
    plainMessage op status body =
      op.label ++ " request failed: " ++ status.reasonOrCode ++
        if IsAppended body then ": " ++ Text.trim body else "" := by
  have hblank : Text.isBlank body = true ↔ (Text.trim body).toList = [] := by
    rw [← Text.trim_eq_empty_iff, String.toList_eq_nil_iff]
  refine congrArg (op.label ++ " request failed: " ++ status.reasonOrCode ++ ·) ?_
  split
  · rename_i hnil
    rw [if_neg fun h => absurd h.1 (by simp [hblank.mpr hnil])]
  · rename_i hs
    rw [if_neg fun h => absurd rfl (h.2 '\x7b' (by simp [hs])).1]
  · rename_i hs
    rw [if_neg fun h => absurd rfl (h.2 '[' (by simp [hs])).2]
  · rename_i hnil hbrace hbracket
    rw [if_pos]
    refine ⟨by rw [← Bool.not_eq_true, hblank]; exact hnil, fun c hc => ?_⟩
    obtain ⟨rest, hs⟩ := List.head?_eq_some_iff.mp hc
    exact ⟨fun h => hbrace rest (h ▸ hs), fun h => hbracket rest (h ▸ hs)⟩

/-- **Of the JSON texts the scalars are appended**, and lists and objects are not. -/
theorem isAppended_iff_of_isText {body : String} (h : IsText body.toList) :
    IsAppended body ↔ IsScalarText body.toList := by
  -- What is first of a value is first of the trimmed body.
  have hfirst : ∀ gap value gap' c cs, Grammar.Blanks gap → value = c :: cs →
      Text.isBlankChar c = false → body.toList = gap ++ (value ++ gap') →
      Text.isBlank body = false ∧ (Text.trim body).toList.head? = some c := by
    rintro gap value gap' c cs hgap rfl hc hbody
    constructor
    · rw [Text.isBlank, hbody, List.all_eq_false]
      exact ⟨c, by simp, by simp [hc]⟩
    · rw [Text.toList_trim, hbody, List.cons_append]
      exact Text.head?_trimList (fun d hd => Text.isBlankChar_of_isJsonBlank (hgap d hd)) hc
  constructor
  · rintro ⟨-, hhead⟩
    generalize hbody : body.toList = cs at h
    cases h with
    | @text gap value gap' hgap hvalue hgap' =>
      rcases Grammar.isScalar_or_bracket hvalue with hscalar | ⟨c, rest, hcs, hc⟩
      · exact ⟨gap, value, gap', hgap, hscalar, hgap', rfl⟩
      · have hblank : Text.isBlankChar c = false := by
          rcases hc with rfl | rfl <;> decide
        obtain ⟨-, hfront⟩ := hfirst gap value gap' c rest hgap hcs hblank hbody
        obtain ⟨hbrace, hbracket⟩ := hhead c hfront
        exact (hc.elim hbrace hbracket).elim
  · rintro ⟨gap, scalar, gap', hgap, hscalar, -, hbody⟩
    obtain ⟨c, cs, hcs, hblank, hbrace, hbracket⟩ := Grammar.head_of_scalar hscalar
    obtain ⟨husable, hfront⟩ := hfirst gap scalar gap' c cs hgap hcs hblank hbody
    refine ⟨husable, fun d hd => ?_⟩
    rw [hfront] at hd
    cases hd
    exact ⟨hbrace, hbracket⟩

/-- **The message of a refusal whose body says nothing.**  It is the operation, the reason of the
status or its code, and the trimmed body if that does not start with a bracket.  So of the JSON
texts the scalars are appended, and words are left out only if they start with a bracket. -/
theorem ofStatus_of_no_message (op : Operation) (status : Status) (body : String)
    (h : ErrorBody.message? body = none) :
    (∃ message, ofStatus op status body = .status op status message false ∧
      message = op.label ++ " request failed: " ++
        status.reason?.getD ("HTTP " ++ toString status.code) ++
        if IsAppended body then ": " ++ Text.trim body else "") ∧
    (IsText body.toList → (IsAppended body ↔ IsScalarText body.toList)) := by
  have hmessage := plainMessage_eq op status body
  exact ⟨⟨_, ErrorBody.ofStatus_of_none h, hmessage⟩, isAppended_iff_of_isText⟩

/-- Words from a proxy are appended to the reason. -/
theorem ofStatus_of_words :
    let body := " upstream is down\n"
    ErrorBody.message? body = none ∧ ofStatus .chat ⟨502, by decide⟩ body =
      .status .chat ⟨502, by decide⟩
        "Chat request failed: Bad Gateway: upstream is down" false := by
  intro body
  have hnone : ErrorBody.message? body = none := by decide +kernel
  refine ⟨hnone, ?_⟩
  obtain ⟨⟨message, hstatus, rfl⟩, -⟩ := ofStatus_of_no_message .chat ⟨502, by decide⟩ body hnone
  refine hstatus.trans (congrArg (BackendError.status .chat _ · false) ?_)
  decide +kernel

/-- The guess goes wrong both ways: words that start with a bracket are left out, and a scalar is
appended. -/
theorem ofStatus_of_bracketed_words :
    let words := "[proxy] upstream down"
    (Text.isBlank words = false ∧ ¬ IsText words.toList ∧ ErrorBody.message? words = none ∧
      ofStatus .chat ⟨502, by decide⟩ words =
        .status .chat ⟨502, by decide⟩ "Chat request failed: Bad Gateway" false) ∧
    IsText "null".toList ∧ ErrorBody.message? "null" = none ∧
      ofStatus .health ⟨502, by decide⟩ "null" =
        .status .health ⟨502, by decide⟩
          "Health check request failed: Bad Gateway: null" false := by
  intro words
  refine ⟨⟨by decide, ?_, by decide +kernel, by decide +kernel⟩, ?_, by decide +kernel,
    by decide +kernel⟩
  · rw [isText_iff]
    decide +kernel
  · rw [isText_iff]
    decide +kernel

end BackendError

end CodeAssistant
