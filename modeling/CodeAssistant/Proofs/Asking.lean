/-
# A question gets its own answer

A question may be asked while calls of all kinds are under way, some of them for a conversation
that a reset has ended.  The shell then waits for all of them, and what they bring is applied in
whatever order they end.

What is applied is told for each slot apart: of all outcomes in the log of a settling, a slot takes
exactly the one that it waits for, and none if it waits for nothing (`Settles.tags_takenBy`).  So
the conversation grows by one turn, and this turn ends the call that was made for the question,
because no two calls under way share component and ticket (`Reached.takenBy_eq`).  Whatever an
abandoned call brings is dropped.

Main statement: `ask_appends_exchange`.
-/
import CodeAssistant.Proofs.Confluence
import CodeAssistant.Proofs.Conversation
import CodeAssistant.Proofs.Quiescence

namespace CodeAssistant

/-- The turn that the outcome becomes, if it is one for the conversation. -/
def Arrival.turn? : Arrival → Option Turn
  | ⟨⟨.chat, _, _⟩, outcome⟩ => Session.turnOf? outcome
  | ⟨⟨.debug, _, _⟩, _⟩ | ⟨⟨.plan, _, _⟩, _⟩ | ⟨⟨.listing, _, _⟩, _⟩ => none
  | ⟨⟨.content, _, _⟩, _⟩ | ⟨⟨.index, _, _⟩, _⟩ | ⟨⟨.indexStats, _, _⟩, _⟩ => none

theorem Arrival.turn?_eq_none {x : Arrival} (h : x.call.slot ≠ .chat) : x.turn? = none := by
  obtain ⟨⟨slot, ticket, request⟩, outcome⟩ := x
  cases slot
  case chat => exact absurd rfl h
  all_goals rfl

namespace Assistant

variable {a b : Assistant} {slot : Slot} {log : List (Arrival × Report)}

/-! ## 1. What a slot takes -/

/-- The outcomes that were applied for a slot, by the log of a settling. -/
def takenBy (slot : Slot) (log : List (Arrival × Report)) : List Arrival :=
  (log.filter fun e => e.1.call.slot = slot && e.2.applied).map Prod.fst

theorem mem_takenBy {x : Arrival} :
    x ∈ takenBy slot log ↔ ∃ r, (x, r) ∈ log ∧ x.call.slot = slot ∧ r.applied = true := by
  simp [takenBy]

/-- Only an outcome for the conversation adds to the history. -/
theorem history_write (a : Assistant) (x : Arrival) :
    (a.write x).session.history = a.session.history ++ x.turn?.toList := by
  obtain ⟨⟨slot, ticket, request⟩, outcome⟩ := x
  cases slot <;> first | rfl | exact (List.append_nil _).symm

/-- The next event is the first arrival, taken or dropped. -/
theorem take_of_nextEvent {x : Arrival} {r : Report} (hx : a.arrived.head? = some x)
    (hn : a.nextEvent = (.report r, b)) :
    (a.Takes x ∧ r.applied = true ∧
        (∀ s, b.awaited s = if s = x.call.slot then none else a.awaited s) ∧
        b.session.history = a.session.history ++ x.turn?.toList) ∨
      (r.applied = false ∧ b.awaited = a.awaited ∧
        b.session.history = a.session.history) := by
  obtain ⟨rest, hq⟩ := List.head?_eq_some_iff.mp hx
  have htake : ({ a with arrived := rest }.take x) = (r, b) := by
    unfold nextEvent at hn
    split at hn
    · exact absurd hn (by simp)
    · simpa [hq, Prod.ext_iff] using hn
  by_cases ht : a.Takes x
  · rw [take_eq_of_takes (a := { a with arrived := rest }) ht] at htake
    obtain ⟨rfl, rfl⟩ := Prod.mk.inj htake
    exact Or.inl ⟨ht, rfl, awaited_write { a with arrived := rest } ht.2,
      history_write { a with arrived := rest } x⟩
  · rw [take_eq_of_not_takes (a := { a with arrived := rest }) ht] at htake
    obtain ⟨rfl, rfl⟩ := Prod.mk.inj htake
    exact Or.inr ⟨rfl, rfl, rfl⟩

/-- **What one step of a settling is to a slot**: it takes the outcome and waits no more, or nothing
changes for it. -/
theorem takenBy_cons (slot : Slot) {x : Arrival} {r : Report} (hx : a.arrived.head? = some x)
    (hn : a.nextEvent = (.report r, b)) (log : List (Arrival × Report)) :
    (x.call.slot = slot ∧ a.Takes x ∧ takenBy slot ((x, r) :: log) = x :: takenBy slot log ∧
        b.awaited slot = none ∧ b.session.history = a.session.history ++ x.turn?.toList) ∨
      (takenBy slot ((x, r) :: log) = takenBy slot log ∧ b.awaited slot = a.awaited slot ∧
        (slot = .chat → b.session.history = a.session.history)) := by
  rcases take_of_nextEvent hx hn with ⟨ht, hr, hw, hh⟩ | ⟨hr, hw, hh⟩
  · by_cases hslot : x.call.slot = slot
    · refine Or.inl ⟨hslot, ht, ?_, ?_, hh⟩
      · simp [takenBy, hslot, hr]
      · rw [hw, if_pos hslot.symm]
    · refine Or.inr ⟨?_, ?_, ?_⟩
      · simp [takenBy, hslot]
      · rw [hw, if_neg (Ne.symm hslot)]
      · rintro rfl
        rw [hh, Arrival.turn?_eq_none hslot, Option.toList_none, List.append_nil]
  · exact Or.inr ⟨by simp [takenBy, hr], by rw [hw], fun _ => hh⟩

theorem session_finish (a : Assistant) (g : Gateway) (place : Nat) :
    (a.finish g place).session = a.session := by
  unfold finish
  split <;> rfl

theorem awaited_finish (a : Assistant) (g : Gateway) (place : Nat) (s : Slot) :
    (a.finish g place).awaited s = a.awaited s := by
  unfold finish
  split <;> rfl

/-- **Of all that comes a slot takes what it waits for**, once, and nothing else. -/
theorem Settles.tags_takenBy (hs : Settles a log b) (hb : b.awaited slot = none) :
    (takenBy slot log).map (·.call.tag) = (a.awaited slot).toList := by
  induction hs with
  | done _ =>
    rw [hb]
    rfl
  | finish _ _ _ ih => rw [ih hb, awaited_finish]
  | @next _ _ _ log _ _ hx hn _ ih =>
    rcases takenBy_cons slot hx hn log with ⟨rfl, ht, htaken, hw, -⟩ | ⟨htaken, hw, -⟩
    · rw [htaken, List.map_cons, ih hb, hw, ht.1]
      rfl
    · rw [htaken, ih hb, hw]

/-- What a slot takes is an end. -/
theorem Settles.isPending_eq_false (hs : Settles a log b) {x : Arrival}
    (hx : x ∈ takenBy slot log) : x.outcome.isPending = false := by
  induction hs with
  | done _ => exact absurd hx (by simp [takenBy])
  | finish _ _ _ ih => exact ih hx
  | @next _ _ _ log _ _ hy hn _ ih =>
    rcases takenBy_cons slot hy hn log with ⟨-, ht, htaken, -⟩ | ⟨htaken, -⟩
    · rw [htaken, List.mem_cons] at hx
      rcases hx with rfl | hx
      · exact ht.2
      · exact ih hx
    · rw [htaken] at hx
      exact ih hx

/-- **Settling adds to the history what the conversation takes**, in that order. -/
theorem Settles.history (hs : Settles a log b) :
    b.session.history = a.session.history ++ (takenBy .chat log).filterMap Arrival.turn? := by
  induction hs with
  | done _ => exact (List.append_nil _).symm
  | finish _ _ _ ih => rw [ih, session_finish]
  | @next _ _ _ log x _ hx hn _ ih =>
    rcases takenBy_cons .chat hx hn log with ⟨-, -, htaken, -, hh⟩ | ⟨htaken, -, hh⟩
    · rw [htaken, ih, hh, List.filterMap_cons]
      cases x.turn? <;> simp
    · rw [htaken, ih, hh rfl]

/-- **What a slot takes ends the call that it waits for**, in every state that can be reached: no
other call under way has component and ticket in common with it. -/
theorem Reached.takenBy_eq (h : Reached a) {c : Call} (hc : c ∈ a.unapplied)
    (hw : a.awaited c.slot = some c.tag) (hs : Settles a log b) :
    ∃ outcome, takenBy c.slot log = [⟨c, outcome⟩] ∧ outcome.isPending = false := by
  obtain ⟨l, hl, rfl⟩ := h.exists_accounts
  have htags := hs.tags_takenBy ((hl.settled hs).1 c.slot)
  rw [hw, Option.toList_some, List.map_eq_singleton_iff] at htags
  obtain ⟨x, hx, htag⟩ := htags
  have hmem : x ∈ takenBy c.slot log := by simp [hx]
  obtain ⟨r, hr, hslot, -⟩ := mem_takenBy.mp hmem
  have hunapplied : x.call ∈ l.assistant.unapplied :=
    (hl.settles_perm hs).mem_iff.mp (List.mem_map.mpr ⟨_, hr, rfl⟩)
  have hkey : x.call.key = c.key := by
    rw [Call.key, Call.key, hslot, show x.call.ticket = c.ticket from congrArg Tag.ticket htag]
  obtain rfl := List.inj_on_of_nodup_map hl.unapplied_distinct hunapplied hc hkey
  exact ⟨x.outcome, hx, hs.isPending_eq_false hmem⟩

/-- The call that is made for a question. -/
def chatCall (a : Assistant) (question : String) : Call :=
  ⟨.chat, a.session.tickets.next, { question := Text.trim question }⟩

section Asked

variable (hidle : a.session.isSending = false) {question : String} (hq : Text.trim question ≠ "")
include hidle hq

/-- A question that nothing stands against is entered and sent. -/
theorem act_sendChat :
    a.act (.sendChat question) =
      (.started (a.chatCall question),
        { a with
          session :=
            { a.session with
              tickets := a.session.tickets.advance
              history := a.session.history ++ [Turn.question (Text.trim question)]
              mode := .sending a.session.tickets.next } }.start (a.chatCall question)) := by
  simp [act, Session.submit, hidle, hq, Attempt.accepted, follow, chatCall]

/-- **The exchange**: settling after a question takes one outcome for the conversation, that of the
call made for it, and adds one turn, which this outcome makes. -/
theorem Reached.exchange (h : Reached a) (hs : Settles (a.act (.sendChat question)).2 log b) :
    ∃ outcome turn, takenBy .chat log = [⟨a.chatCall question, outcome⟩] ∧
      Session.turnOf? outcome = some turn ∧
      b.session.history = a.session.history ++ [.question (Text.trim question), turn] := by
  have hreached := h.act (.sendChat question)
  rw [act_sendChat hidle hq] at hs hreached
  obtain ⟨outcome, htaken, hend⟩ :=
    hreached.takenBy_eq (c := a.chatCall question) (by simp [unapplied, start]) rfl hs
  obtain ⟨turn, hturn⟩ := Session.exists_turnOf? hend
  refine ⟨outcome, turn, htaken, hturn, ?_⟩
  have hadded : (takenBy .chat log).filterMap Arrival.turn? = [turn] := by
    rw [show takenBy .chat log = _ from htaken, List.filterMap_cons,
      show Arrival.turn? ⟨a.chatCall question, outcome⟩ = _ from hturn]
    rfl
  rw [hs.history, hadded]
  exact List.append_assoc ..

end Asked

end Assistant

/-! ## 2. Services -/

namespace Service

open Assistant

variable {σ : Type} {v : Service σ}

theorem settles_answerAll (hv : v.Resolves) : ∀ (calls : List Call) {a : Assistant} (s : σ),
    Reached a → a.running = calls →
      ∃ log, Assistant.Settles a log ((v.answerAll a calls).run s).1.drain.2
  | [], a, s, h, hr => by
    obtain ⟨l, hl, rfl⟩ := h.exists_accounts
    obtain ⟨log, hs, -⟩ := hl.settles_drain hr
    exact ⟨log, hs⟩
  | call :: rest, a, s, h, hr => by
    obtain ⟨log, hs⟩ := settles_answerAll hv rest (a := a.arrive 0 (.of (v.gatewayAt s) call))
      ((v.answer call).run s).2 (h.arrive (hv s) hr) (by simp [Assistant.arrive, hr])
    refine ⟨log, .finish (g := v.gatewayAt s) 0 (hv s) ?_⟩
    rw [Assistant.finish, hr]
    exact hs

/-- **A service whose calls all end settles**, by one of the schedules of settling. -/
theorem exists_settles (hv : v.Resolves) {a : Assistant} (h : Reached a) (s : σ) :
    ∃ log, Assistant.Settles a log ((v.host.settle a).run s).1 :=
  settles_answerAll hv a.running s h rfl

end Service

/-! ## 3. The command -/

namespace Shell

open Assistant

/-- Only a question is a question. -/
theorem isQuestion_of_turnOf? {outcome : Outcome ChatResponse} {turn : Turn}
    (h : Session.turnOf? outcome = some turn) : turn.isQuestion = false := by
  cases outcome with
  | pending => exact absurd h (by simp [Session.turnOf?])
  | success response =>
    obtain rfl := Option.some.inj h
    rfl
  | failure failure =>
    obtain rfl := Option.some.inj h
    rfl

/-- Of a question and what ended it only the end is shown. -/
theorem newTurns_exchange {b : Assistant} {history : List Turn} {question : String} {turn : Turn}
    (hb : b.session.history = history ++ [.question question, turn])
    (hturn : turn.isQuestion = false) : newTurns history.length b = Render.turn turn := by
  have hdrop : b.session.history.drop history.length = [.question question, turn] := by
    rw [hb, List.drop_left]
  have hfilter : [Turn.question question, turn].filter (!·.isQuestion) = [turn] := by
    rw [List.filter_cons_of_neg (by simp [Turn.isQuestion]),
      List.filter_cons_of_pos (by simp [hturn]), List.filter_nil]
  rw [newTurns, hdrop, hfilter]
  exact String.intercalate_singleton

/-- A question that is sent is waited for, and what has come since is shown. -/
theorem run_ask {σ : Type} (host : Host (StateM σ)) (config : Config) {a : Assistant}
    {question : String} {c : Call} (s : σ) (h : (a.act (.sendChat question)).1 = .started c) :
    (run host config a (.ask question)).run s =
      let r := (host.settle (a.act (.sendChat question)).2).run s
      ((⟨newTurns a.session.history.length r.1, false⟩, r.1), r.2) := by
  rcases hact : a.act (.sendChat question) with ⟨reaction, asked⟩
  rw [hact] at h
  subst h
  rw [run, settleThen, hact]
  rfl

/-- **A question gets its own answer**, in every state that can be reached while no question is
being answered, whatever else is under way, and by every schedule in which all calls end.  Of the
outcomes for the conversation one is applied, that of the call made for the question; those of
abandoned calls are dropped.  The history grows by the question and the turn that this outcome
makes, and the command prints this turn and nothing else.  Every service whose calls all end settles
by such a schedule. -/
theorem ask_appends_exchange {a : Assistant} (h : Reached a) (hidle : a.session.isSending = false)
    {question : String} (hq : Text.trim question ≠ "") (config : Config) :
    let asked := (a.act (.sendChat question)).2
    (a.act (.sendChat question)).1 = .started (a.chatCall question) ∧
    (∀ {σ : Type} (v : Service σ), v.Resolves →
      ∀ s, ∃ log, Assistant.Settles asked log ((v.host.settle asked).run s).1) ∧
    ∀ {σ : Type} (host : Host (StateM σ)) (s : σ) (log : List (Arrival × Report)),
      Assistant.Settles asked log ((host.settle asked).run s).1 →
      ∃ outcome turn, takenBy .chat log = [⟨a.chatCall question, outcome⟩] ∧
        turn.IsEndOf outcome ∧
        (∀ e ∈ log, e.1.call.slot = .chat → e.1.call.ticket ≠ (a.chatCall question).ticket →
          e.2.applied = false) ∧
        let r := (run host config a (.ask question)).run s
        r.1.2.session.history = a.session.history ++ [.question (Text.trim question), turn] ∧
          r.1.1 = ⟨Render.turn turn, false⟩ := by
  intro asked
  have hstarted : (a.act (.sendChat question)).1 = .started (a.chatCall question) :=
    congrArg Prod.fst (act_sendChat hidle hq)
  refine ⟨hstarted, fun v hv s => Service.exists_settles hv (h.act _) s, ?_⟩
  intro σ host s log hs
  obtain ⟨outcome, turn, htaken, hturn, hhistory⟩ := h.exchange hidle hq hs
  refine ⟨outcome, turn, htaken, Session.isEndOf_of_turnOf? hturn, ?_, ?_⟩
  · intro e he hslot hticket
    by_contra happlied
    have hin : e.1 ∈ takenBy .chat log :=
      mem_takenBy.mpr ⟨e.2, he, hslot, by simpa using happlied⟩
    rw [htaken, List.mem_singleton] at hin
    rw [hin] at hticket
    exact hticket rfl
  · rw [run_ask host config s hstarted]
    have hshown := newTurns_exchange hhistory (isQuestion_of_turnOf? hturn)
    exact ⟨hhistory, congrArg (fun text => (⟨text, false⟩ : Output)) hshown⟩

/-- A question is asked, forgotten and followed by another while a file is still on its way.  The
second question's call ends first, then that of the first, which is dropped. -/
theorem ask_appends_exchange_abandoned :
    let lost : Gateway
      | ⟨.chat, _, request⟩ => .outcome (.failure ⟨.network, "lost " ++ request.question⟩)
      | _ => .breakdown
    let host : Host (StateM Unit) :=
      { settle := fun b => pure (((b.finish lost 2).finish lost 0).finish lost 0).drain.2
        health := pure .pending }
    let a := (Ledger.run
      [.act (.sendChat "one?"), .act .resetSession, .act (.selectFile "a")]).assistant
    let r := (run host {} a (.ask " two? ")).run ()
    Reached a ∧ a.session.isSending = false ∧ a.running.length = 2 ∧ Text.trim " two? " ≠ "" ∧
      r.1.1.text = "assistant> Error: lost two?" ∧
      ∃ turn, r.1.2.session.history = [.question "two?", turn] ∧
        r.1.1 = ⟨Render.turn turn, false⟩ := by
  intro lost host a r
  have hlost : lost.Resolves := by
    rintro ⟨slot, _, _⟩
    cases slot <;> rfl
  have hreached : Reached a := ⟨_, by simp [Move.Resolves], rfl⟩
  have hidle : a.session.isSending = false := rfl
  have hq : Text.trim " two? " ≠ "" := by decide
  obtain ⟨-, -, hall⟩ := ask_appends_exchange hreached hidle hq {}
  have hs : Assistant.Settles (a.act (.sendChat " two? ")).2 _
      ((host.settle (a.act (.sendChat " two? ")).2).run ()).1 :=
    .finish 2 hlost (.finish 0 hlost (.finish 0 hlost
      (.next rfl rfl (.next rfl rfl (.next rfl rfl (.done rfl))))))
  obtain ⟨outcome, turn, -, -, -, hhistory, hshown⟩ := hall host () _ hs
  exact ⟨hreached, hidle, rfl, hq, rfl, turn, hhistory, hshown⟩

end Shell
end CodeAssistant
