/-
# The history is a sequence of exchanges

A record is kept beside the session of what happened since the last reset: which questions were
accepted, under which tickets, and which outcomes were applied to them.  `Conversation` says how
questions and outcomes make a history and leave a mode behind; it grows at the end, by a question
where no exchange is under way and by an outcome where one is.  Every operation but a reset
extends the conversation by nothing or by one turn, and a reset begins a new one
(`Record.Good.step`), so the shape of a history is read off a grammar and not off the runs.

Main statement: `history_is_exchanges`.
-/
import CodeAssistant.Proofs.Awaiting
import Mathlib.Data.List.Induction

namespace CodeAssistant

/-! ## 1. Turns that end an exchange -/

/-- The turn ends an exchange with the outcome: an answer with its usage, or the message of a
failure under the failure's kind. -/
def Turn.IsEndOf (turn : Turn) : Outcome ChatResponse → Prop
  | .success response =>
    turn.role = .assistant ∧ turn.origin = "answer" ∧ turn.content = response.answer ∧
      turn.usage? = some response.usage
  | .failure failure =>
    turn.role = .assistant ∧ turn.origin = "error:" ++ failure.kind.name ∧
      turn.content = "Error: " ++ failure.message ∧ turn.usage? = none
  | .pending => False

namespace Session

theorem isSending_iff {s : Session} : s.isSending = true ↔ ∃ t, s.mode = .sending t := by
  unfold isSending
  cases s.mode <;> simp

theorem isEndOf_of_turnOf? {outcome : Outcome ChatResponse} {turn : Turn}
    (h : turnOf? outcome = some turn) : turn.IsEndOf outcome := by
  cases outcome with
  | pending => exact absurd h (by simp [turnOf?])
  | success response =>
    rw [turnOf?, Option.some.injEq] at h
    subst h
    exact ⟨rfl, rfl, rfl, rfl⟩
  | failure failure =>
    rw [turnOf?, Option.some.injEq] at h
    subst h
    exact ⟨rfl, rfl, rfl, rfl⟩

/-- Nothing is under way after an exchange. -/
theorem ticket?_modeAfter (outcome : Outcome ChatResponse) :
    (modeAfter outcome).ticket? = none := by
  cases outcome <;> rfl

/-- Whatever is an end makes a turn. -/
theorem exists_turnOf? {outcome : Outcome ChatResponse} (h : outcome.isPending = false) :
    ∃ turn, turnOf? outcome = some turn := by
  cases outcome with
  | pending => exact absurd h (by simp [Outcome.isPending])
  | success response => exact ⟨_, rfl⟩
  | failure failure => exact ⟨_, rfl⟩

/-! ## 2. Runs -/

/-- One thing that happens to a session. -/
inductive Op
  | submit (question : String)
  | submitDebug (request : DebugRequest)
  | submitPlan (request : PlanRequest)
  | apply (event : Event)
  | reset

/-- A session and its record since the last reset. -/
structure Record where
  session : Session := {}
  /-- The questions that were accepted, with their tickets. -/
  asked : List (Ticket × String) := []
  /-- The outcomes that were applied to the conversation, with their tickets. -/
  ended : List (Ticket × Outcome ChatResponse) := []

namespace Record

/-- Carries out an operation and records it. -/
def step (l : Record) : Op → Record
  | .submit question =>
    let attempt := l.session.submit question
    match attempt.result with
    | .ok dispatch =>
      { l with
        session := attempt.state
        asked := l.asked ++ [(dispatch.ticket, dispatch.request.question)] }
    | .error _ => { l with session := attempt.state }
  | .submitDebug request => { l with session := (l.session.submitDebug request).state }
  | .submitPlan request => { l with session := (l.session.submitPlan request).state }
  | .apply event =>
    let r := l.session.apply event
    match event, r.1 with
    | .chat ticket outcome, true =>
      { l with session := r.2, ended := l.ended ++ [(ticket, outcome)] }
    | _, _ => { l with session := r.2 }
  | .reset => { session := l.session.reset }

/-- The record of a run. -/
def run (ops : List Op) : Record := ops.foldl step {}

theorem run_append (ops : List Op) (op : Op) : run (ops ++ [op]) = (run ops).step op := by
  simp [run]

/-- An outcome for the conversation ends the exchange under way, or it changes nothing. -/
theorem step_chat (l : Record) (t : Ticket) (outcome : Outcome ChatResponse) :
    l.step (.apply (.chat t outcome)) =
      if l.session.mode = .sending t ∧ outcome.isPending = false then
        { l with session := l.session.endExchange outcome, ended := l.ended ++ [(t, outcome)] }
      else l := by
  by_cases h : l.session.mode = .sending t ∧ outcome.isPending = false
  · rw [if_pos h]
    simp only [step, apply, resolveChat_eq, if_pos h]
  · rw [if_neg h]
    simp only [step, apply, resolveChat_eq, if_neg h]

end Record

/-! ## 3. Conversations -/

/-- `Conversation asked ended history mode`: the questions and the outcomes make the history, and
leave the mode behind. -/
inductive Conversation :
    List (Ticket × String) → List (Ticket × Outcome ChatResponse) → List Turn → ChatMode → Prop
  | start : Conversation [] [] [] .idle
  | ask {asked ended history mode t} (question : String) :
      Conversation asked ended history mode → mode.ticket? = none → (∀ a ∈ asked, a.1 < t) →
      Conversation (asked ++ [(t, question)]) ended (history ++ [.question question]) (.sending t)
  | finish {asked ended history t outcome turn} : turnOf? outcome = some turn →
      Conversation asked ended history (.sending t) →
      Conversation asked (ended ++ [(t, outcome)]) (history ++ [turn]) (modeAfter outcome)

namespace Conversation

variable {asked : List (Ticket × String)} {ended : List (Ticket × Outcome ChatResponse)}
  {history : List Turn} {mode : ChatMode} (h : Conversation asked ended history mode)
include h

/-- **Outcomes are applied to questions in turn**, each under the ticket of its question; the
question that is left over is the one the mode waits for. -/
theorem tickets_eq : asked.map Prod.fst = ended.map Prod.fst ++ mode.ticket?.toList := by
  induction h with
  | start => rfl
  | ask question _ hm _ ih =>
    rw [hm] at ih
    simp [ih, ChatMode.ticket?]
  | finish _ _ ih =>
    rw [ticket?_modeAfter]
    simpa [ChatMode.ticket?] using ih

theorem tickets_increasing : (asked.map Prod.fst).Pairwise (· < ·) := by
  induction h with
  | start => exact .nil
  | ask question _ _ hlt ih =>
    rw [List.map_append, List.map_singleton, List.pairwise_append]
    refine ⟨ih, List.pairwise_singleton _ _, ?_⟩
    intro t ht u hu
    obtain ⟨a, ha, rfl⟩ := List.mem_map.mp ht
    rw [List.mem_singleton.mp hu]
    exact hlt a ha
  | finish _ _ ih => exact ih

theorem length_asked : asked.length = ended.length + mode.ticket?.toList.length := by
  have := congrArg List.length h.tickets_eq
  simpa using this

theorem length_history : history.length = asked.length + ended.length := by
  induction h with
  | start => rfl
  | ask _ _ _ _ ih => simp only [List.length_append, List.length_singleton, ih]; omega
  | finish _ _ ih => simp only [List.length_append, List.length_singleton, ih]; omega

end Conversation

theorem getElem?_concat_eq {α : Type} (xs : List α) (x : α) (i : Nat) :
    (xs ++ [x])[i]? = if i = xs.length then some x else xs[i]? := by
  rw [List.getElem?_append, List.getElem?_singleton]
  by_cases hi : i < xs.length
  · rw [if_pos hi, if_neg (by omega)]
  · rw [if_neg hi, List.getElem?_eq_none (by omega)]
    by_cases he : i = xs.length
    · rw [if_pos (by omega), if_pos he]
    · rw [if_neg (by omega), if_neg he]

namespace Conversation

variable {asked : List (Ticket × String)} {ended : List (Ticket × Outcome ChatResponse)}
  {history : List Turn} {mode : ChatMode}

/-- While no exchange is under way every question has its outcome. -/
theorem lengths_of_not_sending (h : Conversation asked ended history mode)
    (hm : mode.ticket? = none) :
    asked.length = ended.length ∧ history.length = 2 * ended.length := by
  have ha := h.length_asked
  have hh := h.length_history
  rw [hm, Option.toList_none, List.length_nil] at ha
  omega

/-- During an exchange one question has no outcome yet. -/
theorem lengths_of_sending {t : Ticket} (h : Conversation asked ended history (.sending t)) :
    asked.length = ended.length + 1 ∧ history.length = 2 * ended.length + 1 := by
  have ha := h.length_asked
  have hh := h.length_history
  rw [show (ChatMode.sending t).ticket?.toList.length = 1 from rfl] at ha
  omega

/-- **Even places hold the questions.** -/
theorem getElem?_even (h : Conversation asked ended history mode) (k : Nat) :
    history[2 * k]? = asked[k]?.map fun a => Turn.question a.2 := by
  induction h with
  | start => rfl
  | @ask asked ended history mode t question h hm _ ih =>
    obtain ⟨ha, hh⟩ := h.lengths_of_not_sending hm
    rw [getElem?_concat_eq, getElem?_concat_eq]
    by_cases hk : k = asked.length
    · rw [if_pos (by omega), if_pos hk]
      rfl
    · rw [if_neg (by omega), if_neg hk, ih]
  | finish _ h ih =>
    obtain ⟨-, hh⟩ := h.lengths_of_sending
    rw [getElem?_concat_eq, if_neg (by omega), ih]

/-- **Odd places hold what ended the exchanges.** -/
theorem getElem?_odd (h : Conversation asked ended history mode) (k : Nat) :
    history[2 * k + 1]? = ended[k]?.bind fun e => turnOf? e.2 := by
  induction h with
  | start => rfl
  | ask question h hm _ ih =>
    obtain ⟨-, hh⟩ := h.lengths_of_not_sending hm
    rw [getElem?_concat_eq, if_neg (by omega), ih]
  | @finish asked ended history t outcome turn hturn h ih =>
    obtain ⟨-, hh⟩ := h.lengths_of_sending
    rw [getElem?_concat_eq, getElem?_concat_eq]
    by_cases hk : k = ended.length
    · rw [if_pos (by omega), if_pos hk]
      exact hturn.symm
    · rw [if_neg (by omega), if_neg hk, ih]

/-- The ticket of an outcome is the ticket of the question at the same place. -/
theorem exists_asked (h : Conversation asked ended history mode) {k : Nat} {t : Ticket}
    {outcome : Outcome ChatResponse} (he : ended[k]? = some (t, outcome)) :
    ∃ question, asked[k]? = some (t, question) := by
  have hlt : k < (ended.map Prod.fst).length := by
    rw [List.length_map]
    exact (List.getElem?_eq_some_iff.mp he).1
  have ht : (asked.map Prod.fst)[k]? = some t := by
    rw [h.tickets_eq, List.getElem?_append_left hlt, List.getElem?_map, he]
    rfl
  rw [List.getElem?_map, Option.map_eq_some_iff] at ht
  obtain ⟨⟨t', question⟩, ha, rfl⟩ := ht
  exact ⟨question, ha⟩

/-- The exchange that is under way is that of the last question. -/
theorem exists_last_asked {t : Ticket} (h : Conversation asked ended history (.sending t)) :
    ∃ question, asked.getLast? = some (t, question) := by
  have ht : (asked.map Prod.fst).getLast? = some t := by
    rw [h.tickets_eq]
    exact List.getLast?_concat
  rw [List.getLast?_map, Option.map_eq_some_iff] at ht
  obtain ⟨⟨t', question⟩, ha, rfl⟩ := ht
  exact ⟨question, ha⟩

theorem sending_iff (h : Conversation asked ended history mode) :
    (∃ t, mode = .sending t) ↔ history.length % 2 = 1 := by
  constructor
  · rintro ⟨t, rfl⟩
    have := h.lengths_of_sending
    omega
  · intro hodd
    cases mode with
    | sending t => exact ⟨t, rfl⟩
    | idle =>
      have := h.lengths_of_not_sending rfl
      omega
    | failed failure =>
      have := h.lengths_of_not_sending rfl
      omega

theorem lengths (h : Conversation asked ended history mode) :
    asked.length = (history.length + 1) / 2 ∧ ended.length = history.length / 2 := by
  cases hm : mode.ticket? with
  | none =>
    have := h.lengths_of_not_sending hm
    omega
  | some t =>
    rw [ChatMode.ticket?_eq_some] at hm
    rw [hm] at h
    have := h.lengths_of_sending
    omega

theorem failed_iff (h : Conversation asked ended history mode) (failure : Failure) :
    mode = .failed failure ↔ history.getLast? = some (.error failure) := by
  cases h with
  | start => simp
  | ask question _ _ _ => simp
  | @finish _ _ _ _ outcome turn hturn _ =>
    rw [List.getLast?_concat, ← hturn]
    cases outcome <;> simp [modeAfter, turnOf?] at hturn ⊢

theorem idle_iff (h : Conversation asked ended history mode) :
    mode = .idle ↔ history = [] ∨ ∃ response, history.getLast? = some (.answer response) := by
  cases h with
  | start => simp
  | ask question _ _ _ => simp
  | @finish _ _ _ _ outcome turn hturn _ =>
    rw [List.getLast?_concat, ← hturn]
    cases outcome <;> simp [modeAfter, turnOf?] at hturn ⊢

end Conversation

/-! ## 4. Runs are conversations -/

namespace Record

/-- What the record says is a conversation, and no ticket is from the future. -/
structure Good (l : Record) : Prop where
  conversation : Conversation l.asked l.ended l.session.history l.session.mode
  issued : ∀ a ∈ l.asked, a.1 < l.session.tickets.next

theorem good_start : Good {} := ⟨.start, by simp⟩

theorem good_reset (s : Session) : Good { session := s.reset } := ⟨.start, by simp⟩

/-- Explanations and plans leave the conversation alone; they share its tickets. -/
theorem Good.aside {l : Record} (h : l.Good) {s : Session}
    (hh : s.history = l.session.history) (hm : s.mode = l.session.mode)
    (ht : s.tickets = l.session.tickets ∨ s.tickets = l.session.tickets.advance) :
    Good { l with session := s } := by
  refine ⟨?_, ?_⟩
  · show Conversation l.asked l.ended s.history s.mode
    rw [hh, hm]
    exact h.conversation
  · intro a ha
    show a.1 < s.tickets.next
    rcases ht with ht | ht
    · rw [ht]
      exact h.issued a ha
    · rw [ht]
      exact TicketIssuer.lt_next_advance (h.issued a ha)

theorem Good.submit {l : Record} (h : l.Good) (question : String) :
    (l.step (.submit question)).Good := by
  rcases l.session.submit_cases question with ⟨reason, hr⟩ | ⟨hs, ha⟩
  · simp only [step, hr, Attempt.rejected]
    exact h
  · simp only [step, ha, Attempt.accepted]
    refine ⟨h.conversation.ask _ ?_ h.issued, ?_⟩
    · cases hm : l.session.mode with
      | sending t => simp [isSending, hm] at hs
      | idle => rfl
      | failed failure => rfl
    · intro a hmem
      rcases List.mem_append.mp hmem with hmem | hmem
      · exact TicketIssuer.lt_next_advance (h.issued a hmem)
      · rw [List.mem_singleton.mp hmem]
        exact TicketIssuer.next_lt_next_advance _

theorem Good.submitDebug {l : Record} (h : l.Good) (request : DebugRequest) :
    (l.step (.submitDebug request)).Good := by
  rcases l.session.submitDebug_cases request with ⟨reason, hr⟩ | ha
  · simp only [step, hr, Attempt.rejected]
    exact h
  · simp only [step, ha, Attempt.accepted]
    exact h.aside rfl rfl (Or.inr rfl)

theorem Good.submitPlan {l : Record} (h : l.Good) (request : PlanRequest) :
    (l.step (.submitPlan request)).Good := by
  rcases l.session.submitPlan_cases request with ⟨reason, hr⟩ | ha
  · simp only [step, hr, Attempt.rejected]
    exact h
  · simp only [step, ha, Attempt.accepted]
    exact h.aside rfl rfl (Or.inr rfl)

theorem Good.applyChat {l : Record} (h : l.Good) (t : Ticket) (outcome : Outcome ChatResponse) :
    (l.step (.apply (.chat t outcome))).Good := by
  rw [step_chat]
  by_cases ht : l.session.mode = .sending t ∧ outcome.isPending = false
  · rw [if_pos ht]
    refine ⟨?_, h.issued⟩
    have hc := h.conversation
    obtain ⟨turn, hturn⟩ := exists_turnOf? ht.2
    rw [ht.1] at hc
    show Conversation _ _ (l.session.history ++ (turnOf? outcome).toList) (modeAfter outcome)
    rw [hturn]
    exact .finish hturn hc
  · rw [if_neg ht]
    exact h

theorem Good.apply {l : Record} (h : l.Good) (event : Event) : (l.step (.apply event)).Good := by
  cases event with
  | chat t outcome => exact h.applyChat t outcome
  | debug t outcome => exact h.aside rfl rfl (Or.inl rfl)
  | plan t outcome => exact h.aside rfl rfl (Or.inl rfl)

theorem Good.step {l : Record} (h : l.Good) (op : Op) : (l.step op).Good := by
  cases op with
  | submit question => exact h.submit question
  | submitDebug request => exact h.submitDebug request
  | submitPlan request => exact h.submitPlan request
  | apply event => exact h.apply event
  | reset => exact good_reset l.session

theorem good_run (ops : List Op) : (run ops).Good := by
  induction ops using List.reverseRecOn with
  | nil => exact good_start
  | append_singleton ops op ih =>
    rw [run_append]
    exact ih.step op

/-- **Only a reset takes turns back.** -/
theorem history_prefix_step (l : Record) {op : Op} (hop : op ≠ .reset) :
    l.session.history <+: (l.step op).session.history := by
  cases op with
  | submit question =>
    rcases l.session.submit_cases question with ⟨reason, hr⟩ | ⟨-, ha⟩
    · simp [step, hr, Attempt.rejected]
    · simp [step, ha, Attempt.accepted]
  | submitDebug request =>
    rcases l.session.submitDebug_cases request with ⟨reason, hr⟩ | ha
    · simp [step, hr, Attempt.rejected]
    · simp [step, ha, Attempt.accepted]
  | submitPlan request =>
    rcases l.session.submitPlan_cases request with ⟨reason, hr⟩ | ha
    · simp [step, hr, Attempt.rejected]
    · simp [step, ha, Attempt.accepted]
  | apply event =>
    cases event with
    | chat t outcome =>
      rw [step_chat]
      split
      · exact List.prefix_append _ _
      · exact List.prefix_refl _
    | debug t outcome => exact List.prefix_refl _
    | plan t outcome => exact List.prefix_refl _
  | reset => exact absurd rfl hop

end Record

/-! ## 5. The usage of the latest answer -/

theorem usage?_eq_some {turn : Turn} {usage : ContextUsage} :
    turn.usage? = some usage ↔ ∃ response, turn = .answer response ∧ response.usage = usage := by
  cases turn <;> simp [Turn.usage?]

theorem usage?_eq_none {turn : Turn} : turn.usage? = none ↔ ∀ response, turn ≠ .answer response := by
  cases turn <;> simp [Turn.usage?]

/-- The usage is that of an answer after which no answer stands. -/
theorem lastUsage?_eq_some {s : Session} {usage : ContextUsage} :
    s.lastUsage? = some usage ↔ ∃ earlier response later,
      s.history = earlier ++ .answer response :: later ∧
        (∀ turn ∈ later, ∀ r, turn ≠ .answer r) ∧ response.usage = usage := by
  rw [lastUsage?, List.findSome?_eq_some_iff]
  constructor
  · rintro ⟨later, turn, earlier, hrev, hu, hlater⟩
    obtain ⟨response, rfl, rfl⟩ := usage?_eq_some.mp hu
    refine ⟨earlier.reverse, response, later.reverse, ?_, ?_, rfl⟩
    · rw [← List.reverse_reverse s.history, hrev]
      simp
    · intro turn hturn
      exact usage?_eq_none.mp (hlater turn (List.mem_reverse.mp hturn))
  · rintro ⟨earlier, response, later, hh, hlater, rfl⟩
    refine ⟨later.reverse, .answer response, earlier.reverse, ?_, rfl, ?_⟩
    · rw [hh]
      simp
    · intro turn hturn
      exact usage?_eq_none.mpr (hlater turn (List.mem_reverse.mp hturn))

theorem lastUsage?_eq_none {s : Session} :
    s.lastUsage? = none ↔ ∀ response, .answer response ∉ s.history := by
  rw [lastUsage?, List.findSome?_eq_none_iff]
  constructor
  · intro h response hmem
    exact usage?_eq_none.mp (h _ (List.mem_reverse.mpr hmem)) response rfl
  · intro h turn hmem
    rw [usage?_eq_none]
    rintro response rfl
    exact h response (List.mem_reverse.mp hmem)

/-! ## 6. The history -/

/-- **The history is a sequence of exchanges**, after every run.  Even places hold the questions
that were accepted since the last reset; an odd place holds what the outcome came to that was
applied under the ticket of the question before it.  The mode says how the last exchange stands,
nothing but a reset takes turns back, and the screen shows the usage of the latest answer, whatever
stands after it. -/
theorem history_is_exchanges (ops : List Op) :
    let l := Record.run ops
    let s := l.session
    (∀ k turn, s.history[2 * k]? = some turn →
      ∃ t question, l.asked[k]? = some (t, question) ∧ turn = .question question ∧
        turn.role = .user) ∧
    (∀ k turn, s.history[2 * k + 1]? = some turn →
      ∃ t question outcome, l.asked[k]? = some (t, question) ∧ l.ended[k]? = some (t, outcome) ∧
        turn.IsEndOf outcome) ∧
    l.asked.length = (s.history.length + 1) / 2 ∧ l.ended.length = s.history.length / 2 ∧
    (l.asked.map Prod.fst).Pairwise (· < ·) ∧
    (s.isSending = true ↔ s.history.length % 2 = 1) ∧
    (∀ t, s.mode = .sending t → ∃ question, l.asked.getLast? = some (t, question)) ∧
    (∀ failure, s.mode = .failed failure ↔ s.history.getLast? = some (.error failure)) ∧
    (s.mode = .idle ↔
      s.history = [] ∨ ∃ response, s.history.getLast? = some (.answer response)) ∧
    (∀ op, op ≠ .reset → s.history <+: (l.step op).session.history) ∧
    (∀ browser panel usage, (Screen.compose browser s panel).lastUsage = some usage ↔
      ∃ earlier response later, s.history = earlier ++ .answer response :: later ∧
        (∀ turn ∈ later, ∀ r, turn ≠ .answer r) ∧ response.usage = usage) ∧
    (∀ browser panel, (Screen.compose browser s panel).lastUsage = none ↔
      ∀ response, .answer response ∉ s.history) := by
  intro l s
  have h : Conversation l.asked l.ended s.history s.mode := (Record.good_run ops).conversation
  refine ⟨?_, ?_, h.lengths.1, h.lengths.2, h.tickets_increasing, ?_, ?_, h.failed_iff, h.idle_iff,
    fun op => l.history_prefix_step, fun _ _ _ => lastUsage?_eq_some,
    fun _ _ => lastUsage?_eq_none⟩
  · intro k turn hturn
    rw [h.getElem?_even, Option.map_eq_some_iff] at hturn
    obtain ⟨⟨t, question⟩, ha, rfl⟩ := hturn
    exact ⟨t, question, ha, rfl, rfl⟩
  · intro k turn hturn
    rw [h.getElem?_odd, Option.bind_eq_some_iff] at hturn
    obtain ⟨⟨t, outcome⟩, he, hturn⟩ := hturn
    obtain ⟨question, ha⟩ := h.exists_asked he
    exact ⟨t, question, outcome, ha, he, isEndOf_of_turnOf? hturn⟩
  · rw [← h.sending_iff]
    exact isSending_iff
  · rintro t hm
    rw [hm] at h
    exact h.exists_last_asked

end Session

end CodeAssistant
