/-
# Every call is accounted for

A run of the assistant is a list of moves: user actions, calls that end, and outcomes that are
applied one at a time, as far as they have come, or until none is left.  A ledger is kept beside
the assistant: which calls were made, which of them were heard of again, and what was reported.

The books balance after every run (`Accounts`, `accounts_run`): calls that were made and calls
that were heard of differ by the calls that are not applied yet, of which `inFlight` is the
number, and what a slot waits for is always among these.  The one step that needs an argument is
the applying of an outcome (`Accounts.pop`): the call it takes off the list may be the one that a
slot waits for, but then the outcome is taken and the slot waits no more.

Main statement: `calls_balance`.
-/
import CodeAssistant.Proofs.Awaiting
import Mathlib.Data.List.Induction
import Mathlib.Data.List.Nodup
import Mathlib.Data.List.Perm.Basic

namespace CodeAssistant

open scoped List

/-! ## 1. Runs -/

/-- The outcome of every call is an end. -/
def Gateway.Resolves (g : Gateway) : Prop := ∀ c, (Arrival.of g c).outcome.isPending = false

namespace Assistant

/-- The calls whose outcome was not applied: it waits in the queue, or the call is running. -/
def unapplied (a : Assistant) : List Call := a.arrived.map Arrival.call ++ a.running

/-- One thing that happens to the assistant. -/
inductive Move
  | act (action : Action)
  /-- The running call at a place ends as the gateway answers it. -/
  | finish (g : Gateway) (place : Nat)
  | nextEvent
  | drain
  | settle (g : Gateway)

/-- Whatever call the move lets end, it ends with an end. -/
def Move.Resolves : Move → Prop
  | finish g _ | settle g => g.Resolves
  | act _ | nextEvent | drain => True

/-- The assistant and its books. -/
structure Ledger where
  assistant : Assistant := {}
  /-- The calls that were made, in order. -/
  started : List Call := []
  /-- The calls whose outcomes were taken from the queue, in order. -/
  heard : List Call := []
  /-- What was reported of them. -/
  reports : List Report := []

namespace Ledger

/-- The next outcome is applied. -/
def pop (l : Ledger) (x : Arrival) (rest : List Arrival) : Ledger :=
  let r := { l.assistant with arrived := rest }.take x
  { l with assistant := r.2, heard := l.heard ++ [x.call], reports := l.reports ++ [r.1] }

/-- Makes a move and enters it in the books. -/
def move (l : Ledger) : Move → Ledger
  | .act action =>
    match l.assistant.act action with
    | (.started call, a) => { l with assistant := a, started := l.started ++ [call] }
    | (_, a) => { l with assistant := a }
  | .finish g place => { l with assistant := l.assistant.finish g place }
  | .nextEvent =>
    match l.assistant.nextEvent with
    | (.report report, a) =>
      { l with
        assistant := a
        heard := l.heard ++ (l.assistant.arrived.take 1).map Arrival.call
        reports := l.reports ++ [report] }
    | (_, a) => { l with assistant := a }
  | .drain =>
    let r := l.assistant.drain
    { l with
      assistant := r.2
      heard := l.heard ++ l.assistant.arrived.map Arrival.call
      reports := l.reports ++ r.1 }
  | .settle g =>
    let r := l.assistant.settle g
    { l with
      assistant := r.2
      heard := l.heard ++ l.assistant.unapplied
      reports := l.reports ++ r.1 }

/-- The books after a run. -/
def run (moves : List Move) : Ledger := moves.foldl move {}

theorem run_append (moves : List Move) (m : Move) : run (moves ++ [m]) = (run moves).move m := by
  simp [run]

end Ledger

/-! ## 2. The invariant -/

/-- **The books balance.** -/
structure Accounts (l : Ledger) : Prop where
  /-- `inFlight` counts what is not applied. -/
  counted : l.assistant.inFlight = l.assistant.unapplied.length
  /-- What a slot waits for is under way. -/
  covered : ∀ s tag, l.assistant.awaited s = some tag →
    ∃ c ∈ l.assistant.unapplied, c.slot = s ∧ c.tag = tag
  /-- What has arrived is an end. -/
  ended : ∀ x ∈ l.assistant.arrived, x.outcome.isPending = false
  consistent : l.assistant.Consistent
  /-- No call is lost, and none is heard of twice. -/
  balance : l.heard ++ l.assistant.unapplied ~ l.started
  /-- No ticket is from the future. -/
  issued : ∀ c ∈ l.started, c.ticket.sequence ≤ (l.assistant.issuer c.slot.owner).issued
  /-- No two calls share component and ticket. -/
  distinct : (l.started.map Call.key).Nodup
  /-- One report for each call that was heard of. -/
  reported : l.reports.map Report.slot = l.heard.map Call.slot

theorem accounts_start : Accounts {} where
  counted := rfl
  covered := by
    rintro (_ | _) tag h <;> simp [awaited, ChatMode.ticket?] at h
  ended := by simp
  consistent := by
    refine ⟨⟨?_, ?_⟩, ?_, ?_⟩ <;> simp [SingleFlight.Consistent]
  balance := by simp [unapplied]
  issued := by simp
  distinct := by simp
  reported := rfl

/-! ## 3. Actions keep the books -/

/-- A call that is made is entered, and is under way. -/
theorem Accounts.accepted {l : Ledger} (h : Accounts l) {b : Assistant} {c : Call}
    (hc : Accepted l.assistant b c) :
    Accounts { l with assistant := b.start c, started := l.started ++ [c] } := by
  have hu : (b.start c).unapplied = l.assistant.unapplied ++ [c] := by
    simp [unapplied, start, hc.same.running, hc.same.arrived]
  have hseq : c.ticket.sequence = (l.assistant.issuer c.slot.owner).issued + 1 := by
    rw [hc.ticket]; rfl
  have hissued : ∀ o, ((b.start c).issuer o).issued =
      if o = c.slot.owner then (l.assistant.issuer o).issued + 1
      else (l.assistant.issuer o).issued := by
    intro o
    show (b.issuer o).issued = _
    rw [hc.issuer]
    split <;> rfl
  refine ⟨?_, ?_, ?_, hc.consistent h.consistent, ?_, ?_, ?_, h.reported⟩
  · show b.inFlight + 1 = (b.start c).unapplied.length
    rw [hu, hc.same.inFlight, h.counted]
    simp
  · intro s tag hs
    have hs : b.awaited s = some tag := hs
    rw [hc.awaited] at hs
    rw [hu]
    split at hs
    · rename_i hsc
      exact ⟨c, by simp, hsc.symm, Option.some.inj hs⟩
    · obtain ⟨c', hc', hslot, htag⟩ := h.covered s tag hs
      exact ⟨c', List.mem_append_left _ hc', hslot, htag⟩
  · show ∀ x ∈ b.arrived, _
    rw [hc.same.arrived]
    exact h.ended
  · show l.heard ++ (b.start c).unapplied ~ l.started ++ [c]
    rw [hu, ← List.append_assoc]
    exact h.balance.append_right [c]
  · intro d hd
    rw [hissued]
    rcases List.mem_append.mp hd with hd | hd
    · have := h.issued d hd
      split <;> omega
    · rw [List.mem_singleton.mp hd, if_pos rfl]
      exact Nat.le_of_eq hseq
  · rw [List.map_append]
    refine List.Nodup.append h.distinct (List.nodup_singleton _) ?_
    -- the new ticket is above every ticket that its component has issued
    rw [List.map_singleton, List.disjoint_singleton]
    intro hmem
    obtain ⟨d, hd, hk⟩ := List.mem_map.mp hmem
    have howner : d.slot.owner = c.slot.owner := congrArg Prod.fst hk
    have hticket : d.ticket = c.ticket := congrArg Prod.snd hk
    have := h.issued d hd
    rw [howner, hticket, hseq] at this
    omega

/-- An action that makes no call changes no entry. -/
theorem Accounts.quiet {l : Ledger} (h : Accounts l) {b : Assistant} (hq : Quiet l.assistant b) :
    Accounts { l with assistant := b } := by
  have hu : b.unapplied = l.assistant.unapplied := by
    simp [unapplied, hq.same.running, hq.same.arrived]
  refine ⟨?_, ?_, ?_, hq.consistent h.consistent, ?_, ?_, h.distinct, h.reported⟩
  · show b.inFlight = b.unapplied.length
    rw [hu, hq.same.inFlight, h.counted]
  · intro s tag hs
    show ∃ c ∈ b.unapplied, _
    rw [hu]
    rcases hq.awaited s with hs' | hs'
    · exact h.covered s tag (hs' ▸ hs)
    · exact absurd (hs.symm.trans hs') (by simp)
  · show ∀ x ∈ b.arrived, _
    rw [hq.same.arrived]
    exact h.ended
  · show l.heard ++ b.unapplied ~ l.started
    rw [hu]
    exact h.balance
  · intro c hc
    show _ ≤ (b.issuer _).issued
    rw [hq.issued]
    exact h.issued c hc

theorem Accounts.act {l : Ledger} (h : Accounts l) (action : Action) :
    Accounts (l.move (.act action)) := by
  rcases act_cases l.assistant action with ⟨c, b, hr, hc⟩ | ⟨hr, hq⟩
  · simp only [Ledger.move, hr]
    exact h.accepted hc
  · rcases hact : l.assistant.act action with ⟨_ | _ | _, a⟩
    · exact absurd (congrArg Prod.fst hact) (hr _)
    · simp only [Ledger.move, hact]
      exact h.quiet (by rw [hact] at hq; exact hq)
    · simp only [Ledger.move, hact]
      exact h.quiet (by rw [hact] at hq; exact hq)

/-! ## 4. Calls that end keep the books -/

theorem unapplied_finishAll (a : Assistant) (g : Gateway) :
    (a.finishAll g).unapplied = a.unapplied := by
  have : Arrival.call ∘ Arrival.of g = id := rfl
  simp [unapplied, Assistant.finishAll, this]

/-- The books only ask which calls are under way, not in what order, and that what has arrived is
an end. -/
theorem Accounts.requeue {l : Ledger} (h : Accounts l) {running : List Call}
    {arrived : List Arrival} (hp : arrived.map Arrival.call ++ running ~ l.assistant.unapplied)
    (hx : ∀ x ∈ arrived, x.outcome.isPending = false) :
    Accounts { l with assistant := { l.assistant with running, arrived } } := by
  refine ⟨?_, ?_, hx, h.consistent, ?_, h.issued, h.distinct, h.reported⟩
  · exact h.counted.trans hp.length_eq.symm
  · intro s tag hs
    obtain ⟨c, hc, hslot, htag⟩ := h.covered s tag hs
    exact ⟨c, hp.mem_iff.mpr hc, hslot, htag⟩
  · exact (hp.append_left l.heard).trans h.balance

theorem Accounts.finish {l : Ledger} (h : Accounts l) {g : Gateway} (hg : g.Resolves)
    (place : Nat) : Accounts (l.move (.finish g place)) := by
  simp only [Ledger.move, Assistant.finish]
  split
  · exact h
  · rename_i c hc
    obtain ⟨hlt, rfl⟩ := List.getElem?_eq_some_iff.mp hc
    refine h.requeue ?_ ?_
    · rw [List.map_append, List.append_assoc]
      exact (List.getElem_cons_eraseIdx_perm hlt).append_left _
    · intro x hx
      rcases List.mem_append.mp hx with hx | hx
      · exact h.ended x hx
      · rw [List.mem_singleton.mp hx]
        exact hg _

/-- All running calls end at once. -/
theorem Accounts.finishAll {l : Ledger} (h : Accounts l) {g : Gateway} (hg : g.Resolves) :
    Accounts { l with assistant := l.assistant.finishAll g } := by
  refine h.requeue ?_ ?_
  · exact List.Perm.of_eq (unapplied_finishAll l.assistant g)
  · intro x hx
    rcases List.mem_append.mp hx with hx | hx
    · exact h.ended x hx
    · obtain ⟨c, -, rfl⟩ := List.mem_map.mp hx
      exact hg c

/-! ## 5. Applying outcomes keeps the books -/

/-- **Applying an outcome keeps the books.**  If the call that is taken off the list is the one
that its slot waits for, then the outcome is taken, and the slot waits no more. -/
theorem Accounts.pop {l : Ledger} (h : Accounts l) {x : Arrival} {rest : List Arrival}
    (hq : l.assistant.arrived = x :: rest) : Accounts (l.pop x rest) := by
  have hx : x.outcome.isPending = false := h.ended x (by simp [hq])
  have hb := taken_take { l.assistant with arrived := rest } x
  have hu : l.assistant.unapplied = x.call :: (l.pop x rest).assistant.unapplied := by
    simp [unapplied, hq, Ledger.pop, hb.running, hb.arrived]
  refine ⟨?_, ?_, ?_, hb.consistent h.consistent, ?_, ?_, h.distinct, ?_⟩
  · show ({ l.assistant with arrived := rest }.take x).2.inFlight = _
    rw [hb.inFlight]
    show l.assistant.inFlight - 1 = _
    rw [h.counted, hu]
    rfl
  · intro s tag hs
    have hs : ({ l.assistant with arrived := rest }.take x).2.awaited s = some tag := hs
    rw [hb.awaited] at hs
    split at hs
    · exact absurd hs (by simp)
    · rename_i hnot
      obtain ⟨c, hc, hslot, htag⟩ := h.covered s tag hs
      rw [hu] at hc
      rcases List.mem_cons.mp hc with rfl | hc
      · exact absurd ⟨⟨by rw [hslot, htag]; exact hs, hx⟩, hslot.symm⟩ hnot
      · exact ⟨c, hc, hslot, htag⟩
  · show ∀ y ∈ ({ l.assistant with arrived := rest }.take x).2.arrived, _
    rw [hb.arrived]
    exact fun y hy => h.ended y (by simp [hq, hy])
  · show l.heard ++ [x.call] ++ (l.pop x rest).assistant.unapplied ~ l.started
    rw [List.append_assoc, List.singleton_append, ← hu]
    exact h.balance
  · intro c hc
    show _ ≤ (({ l.assistant with arrived := rest }.take x).2.issuer _).issued
    rw [hb.issuer]
    exact h.issued c hc
  · show (l.reports ++ [({ l.assistant with arrived := rest }.take x).1]).map Report.slot = _
    rw [take_fst, List.map_append, h.reported]
    simp [Ledger.pop]

/-- While calls are in flight the next event is the first in the queue. -/
theorem move_nextEvent_eq_pop {l : Ledger} (h : Accounts l) {x : Arrival} {rest : List Arrival}
    (hq : l.assistant.arrived = x :: rest) : l.move .nextEvent = l.pop x rest := by
  have hne : l.assistant.inFlight ≠ 0 := by
    rw [h.counted, unapplied, hq]
    simp
  simp [Ledger.move, nextEvent, hne, hq, Ledger.pop]

theorem Accounts.nextEvent {l : Ledger} (h : Accounts l) : Accounts (l.move .nextEvent) := by
  cases hq : l.assistant.arrived with
  | nil =>
    have : l.move .nextEvent = l := by
      by_cases h0 : l.assistant.inFlight = 0 <;> simp [Ledger.move, Assistant.nextEvent, hq, h0]
    rw [this]
    exact h
  | cons x rest =>
    rw [move_nextEvent_eq_pop h hq]
    exact h.pop hq

/-- What is applied does not depend on what else is under way. -/
theorem take_requeue (a : Assistant) (running : List Call) (arrived : List Arrival) (x : Arrival) :
    { a with running, arrived }.take x = ((a.take x).1, { (a.take x).2 with running, arrived }) := by
  have ht : ({ a with running, arrived }.Takes x) = a.Takes x := rfl
  have hw : { a with running, arrived }.write x = { a.write x with running, arrived } := by
    obtain ⟨⟨slot, ticket, request⟩, outcome⟩ := x
    cases slot <;> rfl
  simp only [take, deliver_eq, ht, hw]
  split <;> rfl

/-- Draining is taking the outcomes off the queue one by one. -/
theorem drain_of_cons {a : Assistant} {x : Arrival} {rest : List Arrival}
    (hq : a.arrived = x :: rest) :
    a.drain = (({ a with arrived := rest }.take x).1 :: ({ a with arrived := rest }.take x).2.drain.1,
      ({ a with arrived := rest }.take x).2.drain.2) := by
  have hr := take_requeue a a.running rest x
  have hn := take_requeue a a.running [] x
  simp only [Assistant.drain, hq, takeAll, hr, hn]

theorem move_drain_of_cons {l : Ledger} {x : Arrival} {rest : List Arrival}
    (hq : l.assistant.arrived = x :: rest) : l.move .drain = (l.pop x rest).move .drain := by
  have hb := taken_take { l.assistant with arrived := rest } x
  simp only [Ledger.move, Ledger.pop, drain_of_cons hq, hq, hb.arrived, List.map_cons,
    List.append_assoc, List.cons_append, List.nil_append]

theorem Accounts.drain {l : Ledger} (h : Accounts l) : Accounts (l.move .drain) := by
  generalize hn : l.assistant.arrived = queue
  induction queue generalizing l with
  | nil =>
    have hl : l.move .drain = { l with assistant := { l.assistant with arrived := [] } } := by
      simp [Ledger.move, Assistant.drain, hn, takeAll]
    rw [hl, ← hn]
    exact h
  | cons x rest ih =>
    rw [move_drain_of_cons hn]
    exact ih (h.pop hn) (taken_take { l.assistant with arrived := rest } x).arrived

/-- Settling is letting every call end and draining. -/
theorem move_settle (l : Ledger) (g : Gateway) :
    l.move (.settle g) = { l with assistant := l.assistant.finishAll g }.move .drain := by
  have : (l.assistant.finishAll g).arrived.map Arrival.call = l.assistant.unapplied := by
    rw [← unapplied_finishAll l.assistant g]
    simp [unapplied, finishAll]
  simp only [Ledger.move, settle, this]

theorem Accounts.move {l : Ledger} (h : Accounts l) {m : Move} (hm : m.Resolves) :
    Accounts (l.move m) := by
  cases m with
  | act action => exact h.act action
  | finish g place => exact h.finish hm place
  | nextEvent => exact h.nextEvent
  | drain => exact h.drain
  | settle g =>
    rw [move_settle]
    exact (h.finishAll hm).drain

/-- **The books balance after every run.** -/
theorem accounts_run {moves : List Move} (hm : ∀ m ∈ moves, m.Resolves) :
    Accounts (Ledger.run moves) := by
  induction moves using List.reverseRecOn with
  | nil => exact accounts_start
  | append_singleton moves m ih =>
    rw [Ledger.run_append]
    exact (ih fun m' hm' => hm m' (by simp [hm'])).move (hm m (by simp))

/-! ## 6. What balanced books say -/

theorem filter_key_eq_singleton : ∀ {cs : List Call} {c : Call}, (cs.map Call.key).Nodup → c ∈ cs →
    cs.filter (fun d => d.key = c.key) = [c]
  | [], _, _, hc => absurd hc (by simp)
  | d :: cs, c, hd, hc => by
    rw [List.map_cons, List.nodup_cons] at hd
    rcases List.mem_cons.mp hc with rfl | hc
    · have hnone : cs.filter (fun e => e.key = c.key) = [] := by
        rw [List.filter_eq_nil_iff]
        intro e he hk
        exact hd.1 (of_decide_eq_true hk ▸ List.mem_map_of_mem he)
      rw [List.filter_cons_of_pos (by simp), hnone]
    · have hne : d.key ≠ c.key := fun h => hd.1 (h ▸ List.mem_map_of_mem hc)
      rw [List.filter_cons_of_neg (by simpa using hne)]
      exact filter_key_eq_singleton hd.2 hc

namespace Accounts

variable {l : Ledger} (h : Accounts l)
include h

theorem unapplied_distinct : (l.assistant.unapplied.map Call.key).Nodup :=
  ((h.balance.map Call.key).nodup_iff.mpr h.distinct).sublist
    ((List.sublist_append_right _ _).map Call.key)

/-- What a slot waits for is exactly one call. -/
theorem exactly_one {s : Slot} {tag : Tag} (hs : l.assistant.awaited s = some tag) :
    ∃ c, l.assistant.unapplied.filter (fun d => d.key = (s.owner, tag.ticket)) = [c] ∧
      c.slot = s ∧ c.tag = tag := by
  obtain ⟨c, hc, rfl, rfl⟩ := h.covered s tag hs
  exact ⟨c, filter_key_eq_singleton h.unapplied_distinct hc, rfl, rfl⟩

theorem awaited_eq_none (h0 : l.assistant.inFlight = 0) (s : Slot) :
    l.assistant.awaited s = none := by
  cases hs : l.assistant.awaited s with
  | none => rfl
  | some tag =>
    obtain ⟨c, hc, -, -⟩ := h.covered s tag hs
    have := List.length_pos_of_mem hc
    rw [← h.counted] at this
    omega

theorem inFlight_pos_of_isBusy (hb : l.assistant.screen.isBusy = true) :
    0 < l.assistant.inFlight := by
  obtain ⟨s, tag, hs⟩ := exists_awaited_of_isBusy h.consistent hb
  by_contra h0
  rw [h.awaited_eq_none (by omega) s] at hs
  exact absurd hs (by simp)

/-- While calls are in flight and no outcome is there to be applied, some call is running. -/
theorem running_ne_nil_of_blocked (hb : l.assistant.nextEvent.1 = .blocked) :
    l.assistant.running ≠ [] := by
  intro hr
  cases hq : l.assistant.arrived with
  | nil =>
    have h0 : l.assistant.inFlight = 0 := by simp [h.counted, unapplied, hr, hq]
    simp [Assistant.nextEvent, h0] at hb
  | cons x rest =>
    by_cases h0 : l.assistant.inFlight = 0 <;> simp [Assistant.nextEvent, hq, h0] at hb

end Accounts

/-! ## 7. Settling

The loop that settles applies outcomes until no call is in flight, and while it waits calls go on
ending, in any order.  `settle` is the schedule in which all calls end first. -/

/-- `Settles a log b`: settling `a` ends in `b`, after the arrivals of `log` were applied, with the
reports that stand beside them. -/
inductive Settles : Assistant → List (Arrival × Report) → Assistant → Prop
  | done {a : Assistant} : a.nextEvent.1 = .idle → Settles a [] a
  | finish {a b : Assistant} {log : List (Arrival × Report)} {g : Gateway} (place : Nat) :
      g.Resolves → Settles (a.finish g place) log b → Settles a log b
  | next {a a' b : Assistant} {log : List (Arrival × Report)} {x : Arrival} {r : Report} :
      a.arrived.head? = some x → a.nextEvent = (.report r, a') → Settles a' log b →
      Settles a ((x, r) :: log) b

theorem inFlight_eq_zero_of_idle {a : Assistant} (h : a.nextEvent.1 = .idle) : a.inFlight = 0 := by
  unfold nextEvent at h
  split at h
  · assumption
  · split at h <;> exact absurd h (by simp)

/-- The books after settling: what is in the log was heard of and reported. -/
theorem Accounts.settles {l : Ledger} (h : Accounts l) {log : List (Arrival × Report)}
    {b : Assistant} (hs : Settles l.assistant log b) :
    Accounts
      { l with
        assistant := b
        heard := l.heard ++ log.map (·.1.call)
        reports := l.reports ++ log.map Prod.snd } ∧ b.inFlight = 0 := by
  generalize ha : l.assistant = a at hs
  induction hs generalizing l with
  | done hi =>
    subst ha
    simp only [List.map_nil, List.append_nil]
    exact ⟨h, inFlight_eq_zero_of_idle hi⟩
  | finish place hg _ ih =>
    subst ha
    exact ih (l := l.move (.finish _ place)) (h.finish hg place) rfl
  | @next a a' b log x r hx hn _ ih =>
    subst ha
    obtain ⟨rest, hq⟩ := List.head?_eq_some_iff.mp hx
    have hm : l.move .nextEvent =
        { l with assistant := a', heard := l.heard ++ [x.call], reports := l.reports ++ [r] } := by
      simp [Ledger.move, hn, hq]
    have := ih (l := l.move .nextEvent) h.nextEvent (by rw [hm])
    simpa [hm] using this

theorem settles_of_finishAll {a b : Assistant} {g : Gateway} (hg : g.Resolves)
    {log : List (Arrival × Report)} (h : Settles (a.finishAll g) log b) : Settles a log b := by
  generalize hr : a.running = cs
  induction cs generalizing a with
  | nil =>
    have : a.finishAll g = a := by
      simp only [Assistant.finishAll, hr, List.map_nil, List.append_nil]
      rw [← hr]
    exact this ▸ h
  | cons c cs ih =>
    refine .finish 0 hg (ih ?_ ?_)
    · simpa [Assistant.finish, Assistant.finishAll, arrive, hr] using h
    · simp [Assistant.finish, arrive, hr]

/-- Draining settles when no call is running. -/
theorem Accounts.settles_drain {l : Ledger} (h : Accounts l) (hr : l.assistant.running = []) :
    ∃ log, Settles l.assistant log l.assistant.drain.2 ∧
      log.map Prod.snd = l.assistant.drain.1 := by
  generalize hn : l.assistant.arrived = queue
  induction queue generalizing l with
  | nil =>
    have hd : l.assistant.drain = ([], l.assistant) := by
      simp only [Assistant.drain, hn, takeAll]
      rw [← hn]
    have hi : l.assistant.nextEvent.1 = .idle := by
      simp [Assistant.nextEvent, h.counted, unapplied, hr, hn]
    rw [hd]
    exact ⟨[], .done hi, rfl⟩
  | cons x rest ih =>
    have hb := taken_take { l.assistant with arrived := rest } x
    obtain ⟨log, hs, hlog⟩ := ih (h.pop hn) (hb.running.trans hr) hb.arrived
    have hne : l.assistant.inFlight ≠ 0 := by
      rw [h.counted, unapplied, hn]
      simp
    have hnext : l.assistant.nextEvent =
        (.report ({ l.assistant with arrived := rest }.take x).1, (l.pop x rest).assistant) := by
      simp [Assistant.nextEvent, hne, hn, Ledger.pop]
    rw [drain_of_cons hn]
    refine ⟨(x, ({ l.assistant with arrived := rest }.take x).1) :: log, ?_, ?_⟩
    · exact .next (by rw [hn]; rfl) hnext hs
    · rw [List.map_cons, hlog]
      rfl

/-- What a gateway settles at once is one of the schedules of settling. -/
theorem Accounts.settles_settle {l : Ledger} (h : Accounts l) {g : Gateway} (hg : g.Resolves) :
    ∃ log, Settles l.assistant log (l.assistant.settle g).2 ∧
      log.map Prod.snd = (l.assistant.settle g).1 := by
  obtain ⟨log, hs, hlog⟩ := (h.finishAll hg).settles_drain rfl
  exact ⟨log, settles_of_finishAll hg hs, hlog⟩

/-- After settling no slot waits, and all that was called for was heard of and reported. -/
theorem Accounts.settled {l : Ledger} (h : Accounts l) {log : List (Arrival × Report)}
    {b : Assistant} (hs : Settles l.assistant log b) :
    (∀ s, b.awaited s = none) ∧ b.screen.isBusy = false ∧
      l.heard ++ log.map (·.1.call) ~ l.started ∧
      log.map (·.2.slot) = log.map (·.1.call.slot) := by
  obtain ⟨hb, h0⟩ := h.settles hs
  have hnil : b.unapplied = [] := List.length_eq_zero_iff.mp (hb.counted.symm.trans h0)
  refine ⟨hb.awaited_eq_none h0, ?_, ?_, ?_⟩
  · by_contra hbusy
    have : 0 < b.inFlight := hb.inFlight_pos_of_isBusy (by simpa using hbusy)
    omega
  · have := hb.balance
    simpa only [hnil, List.append_nil] using this
  · have := hb.reported
    simp only [List.map_append, h.reported, List.map_map] at this
    exact List.append_cancel_left this

/-! ## 8. The balance -/

/-- **Every call is accounted for**, in every state that a run can reach: `inFlight` is the number
of calls that are not applied; a slot that waits has exactly one of them under its ticket, and a
selection waits for its own path; a screen is busy only while calls are in flight; each action
that was accepted was made one call of, which is either not applied or was reported, once.

Settling never waits for nothing, however the calls end; when it ends no slot waits, and every
action that was accepted has its report.  Letting all calls end first is one way to settle. -/
theorem calls_balance (moves : List Move) (hm : ∀ m ∈ moves, m.Resolves) :
    let l := Ledger.run moves
    let a := l.assistant
    a.inFlight = a.unapplied.length ∧ a.Consistent ∧
    (∀ s tag, a.awaited s = some tag →
      ∃ c, a.unapplied.filter (fun d => d.key = (s.owner, tag.ticket)) = [c] ∧
        c.slot = s ∧ c.tag = tag) ∧
    (a.screen.isBusy = true → 0 < a.inFlight) ∧
    (l.started.map Call.key).Nodup ∧ l.heard ++ a.unapplied ~ l.started ∧
    l.reports.map Report.slot = l.heard.map Call.slot ∧
    (a.nextEvent.1 = .blocked → a.running ≠ []) ∧
    (∀ log b, Settles a log b →
      (∀ s, b.awaited s = none) ∧ b.screen.isBusy = false ∧
        l.heard ++ log.map (·.1.call) ~ l.started ∧
        log.map (·.2.slot) = log.map (·.1.call.slot)) ∧
    (∀ g : Gateway, g.Resolves →
      ∃ log, Settles a log (a.settle g).2 ∧ log.map Prod.snd = (a.settle g).1) := by
  intro l a
  have h : Accounts l := accounts_run hm
  exact ⟨h.counted, h.consistent, fun s tag hs => h.exactly_one hs, h.inFlight_pos_of_isBusy,
    h.distinct, h.balance, h.reported, h.running_ne_nil_of_blocked, fun log b hs => h.settled hs,
    fun g hg => h.settles_settle hg⟩

/-- A question is asked and a file is opened twice; the older fetch breaks down first and is
dropped, and the session is reset before the answer comes.  The newer fetch is still awaited. -/
theorem calls_balance_superseded :
    let breakdown : Gateway := fun _ => .breakdown
    let moves : List Move :=
      [.act (.sendChat "why?"), .act (.selectFile "a"), .act .reloadSelection,
        .finish breakdown 1, .nextEvent, .act .resetSession]
    let l := Ledger.run moves
    (∀ m ∈ moves, m.Resolves) ∧ l.assistant.inFlight = 2 ∧
      l.reports = [⟨.content, false⟩] ∧
      l.assistant.awaited .chat = none ∧
      l.assistant.awaited .content = some ⟨⟨0, 2⟩, some "a"⟩ ∧
      (∃ c, l.assistant.unapplied.filter (fun d => d.key = (Owner.browser, ⟨0, 2⟩)) = [c] ∧
        c.slot = .content ∧ c.tag = ⟨⟨0, 2⟩, some "a"⟩) ∧
      (∀ log b, Settles l.assistant log b → b.screen.isBusy = false) := by
  intro breakdown moves l
  have hm : ∀ m ∈ moves, m.Resolves := by
    simp [moves, Move.Resolves, Gateway.Resolves, breakdown, Arrival.of, Answer.resolve,
      Outcome.isPending]
  obtain ⟨-, -, hone, -, -, -, -, -, hsettles, -⟩ := calls_balance moves hm
  have hcontent : l.assistant.awaited .content = some ⟨⟨0, 2⟩, some "a"⟩ := by decide
  exact ⟨hm, by decide, by decide, by decide, hcontent, hone .content _ hcontent,
    fun log b hs => (hsettles log b hs).2.1⟩

end Assistant

end CodeAssistant
