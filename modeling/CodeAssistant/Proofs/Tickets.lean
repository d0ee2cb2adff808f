/-
# A ticket is applied at most once

The three components deal with tickets in the same way.  An action that is accepted takes the next
ticket of the supply and leaves it with one slot; an event that is applied takes the ticket of the
event away from the slot that waited for it; an event that is dropped changes nothing; whatever else
happens can only clear slots and begin a new generation.  `Turnover` says this of one step, and a
`Component` carries the proof that its steps keep to it.

The rest is said once, of any component.  In a sound state no awaited ticket is from the future and
no two slots wait for the same one.  What is issued from there on is greater than everything before
(`lt_of_mem_issued`), and what is issued already and awaited no longer is never applied again
(`not_mem_applied`).

Main statement: `tickets_apply_once`.
-/
import CodeAssistant.Proofs.Browsing
import CodeAssistant.Proofs.Conversation

namespace CodeAssistant

/-! ## 1. What a step does to tickets -/

/-- What a step of a component does, as far as tickets go. -/
inductive Effect
  /-- An action was accepted under a ticket. -/
  | issued (ticket : Ticket)
  /-- An event with a ticket was applied. -/
  | applied (ticket : Ticket)
  /-- An event was not applied. -/
  | dropped
  /-- An action was rejected, or it makes no call. -/
  | quiet
  deriving DecidableEq, Repr

namespace Effect

/-- The ticket that was issued. -/
def issued? : Effect → Option Ticket
  | issued t => some t
  | applied _ | dropped | quiet => none

/-- The ticket whose event was applied. -/
def applied? : Effect → Option Ticket
  | applied t => some t
  | issued _ | dropped | quiet => none

/-- The effect of an event that carries a ticket. -/
def ofEvent (ticket : Ticket) (taken : Bool) : Effect := if taken then applied ticket else dropped

end Effect

/-- The effect of an action. -/
def Attempt.effect {σ ρ : Type} (a : Attempt σ ρ) : Effect :=
  match a.result with
  | .ok dispatch => .issued dispatch.ticket
  | .error _ => .quiet

/-- `Turnover i w e i' w'`: a step with the effect `e` may turn the supply `i`, while the slots wait
for `w`, into `i'` and `w'`. -/
inductive Turnover (i : TicketIssuer) (w : Slot → Option Ticket) :
    Effect → TicketIssuer → (Slot → Option Ticket) → Prop
  | issued (slot : Slot) : Turnover i w (.issued i.next) i.advance (Function.update w slot i.next)
  | applied {slot : Slot} {t : Ticket} :
      w slot = some t → Turnover i w (.applied t) i (Function.update w slot none)
  | dropped : Turnover i w .dropped i w
  | quiet {i' w'} : i' = i ∨ i' = i.renew → (∀ slot, w' slot = w slot ∨ w' slot = none) →
      Turnover i w .quiet i' w'

/-- A component, as far as its tickets go. -/
structure Component where
  State : Type
  Op : Type
  start : State
  /-- Carries out an operation. -/
  step : State → Op → Effect × State
  tickets : State → TicketIssuer
  /-- The ticket that a slot waits for. -/
  awaited : State → Slot → Option Ticket
  awaited_start : ∀ slot, awaited start slot = none
  turnover : ∀ s op, Turnover (tickets s) (awaited s) (step s op).1
    (tickets (step s op).2) (awaited (step s op).2)

/-! ## 2. One step -/

/-- In a new generation tickets are greater than in the one before. -/
theorem TicketIssuer.lt_next_renew {i : TicketIssuer} {t : Ticket} (h : t < i.next) :
    t < i.renew.next := by
  rw [Ticket.lt_iff] at h ⊢
  simp only [next, renew] at h ⊢
  omega

theorem Ticket.lt_irrefl (t : Ticket) : ¬ t < t := by
  rw [Ticket.lt_iff]
  omega

/-- No awaited ticket is from the future, and no two slots wait for the same one. -/
structure Sound (i : TicketIssuer) (w : Slot → Option Ticket) : Prop where
  issued : ∀ slot t, w slot = some t → t < i.next
  unique : ∀ slot slot' t, w slot = some t → w slot' = some t → slot = slot'

namespace Turnover

variable {i i' : TicketIssuer} {w w' : Slot → Option Ticket} {e : Effect} {t : Ticket}
  (h : Turnover i w e i' w')
include h

/-- The supply never goes back. -/
theorem lt_next (ht : t < i.next) : t < i'.next := by
  cases h with
  | issued slot => exact TicketIssuer.lt_next_advance ht
  | applied hw => exact ht
  | dropped => exact ht
  | quiet hi hw =>
    rcases hi with rfl | rfl
    · exact ht
    · exact TicketIssuer.lt_next_renew ht

theorem eq_next (he : e.issued? = some t) : t = i.next ∧ t < i'.next := by
  cases h with
  | issued slot =>
    obtain rfl := Option.some.inj he
    exact ⟨rfl, TicketIssuer.next_lt_next_advance _⟩
  | applied hw => exact absurd he (by simp [Effect.issued?])
  | dropped => exact absurd he (by simp [Effect.issued?])
  | quiet hi hw => exact absurd he (by simp [Effect.issued?])

/-- What a slot waits for after a step it waited for before, or it was issued just now. -/
theorem awaited_before {slot : Slot} (ht : w' slot = some t) :
    w slot = some t ∨ e.issued? = some t := by
  cases h with
  | issued slot' =>
    rw [Function.update_apply] at ht
    split at ht
    · exact Or.inr ht
    · exact Or.inl ht
  | applied hw =>
    rw [Function.update_apply] at ht
    split at ht
    · exact absurd ht (by simp)
    · exact Or.inl ht
  | dropped => exact Or.inl ht
  | quiet hi hw =>
    rcases hw slot with hw | hw
    · exact Or.inl (hw ▸ ht)
    · exact absurd (hw.symm.trans ht) (by simp)

/-- A ticket is applied in the slot that waits for it, and then no slot does. -/
theorem awaited_of_applied (hs : Sound i w) (he : e.applied? = some t) :
    (∃ slot, w slot = some t) ∧ ∀ slot, w' slot ≠ some t := by
  cases h with
  | issued slot => exact absurd he (by simp [Effect.applied?])
  | @applied slot t' hw =>
    obtain rfl := Option.some.inj he
    refine ⟨⟨slot, hw⟩, ?_⟩
    intro slot' ht
    rw [Function.update_apply] at ht
    split at ht
    · exact absurd ht (by simp)
    · rename_i hne
      exact hne (hs.unique _ _ _ ht hw)
  | dropped => exact absurd he (by simp [Effect.applied?])
  | quiet hi hw => exact absurd he (by simp [Effect.applied?])

/-- **A step keeps a state sound.**  The ticket that is issued is new, so it meets no other. -/
theorem sound (hs : Sound i w) : Sound i' w' := by
  constructor
  · intro slot t ht
    rcases h.awaited_before ht with hw | he
    · exact h.lt_next (hs.issued slot t hw)
    · exact (h.eq_next he).2
  · intro slot slot' t ht ht'
    cases h with
    | issued slot₀ =>
      have hnew : ∀ slot, w slot ≠ some i.next := fun slot hw =>
        Ticket.lt_irrefl _ (hs.issued slot _ hw)
      rw [Function.update_apply] at ht ht'
      split at ht <;> split at ht'
      · rename_i h₁ h₂
        rw [h₁, h₂]
      · exact absurd (ht ▸ ht') (hnew slot')
      · exact absurd (ht' ▸ ht) (hnew slot)
      · exact hs.unique _ _ _ ht ht'
    | @applied slot₀ t₀ hw =>
      have hold : ∀ slot, Function.update w slot₀ none slot = some t → w slot = some t := by
        intro slot h
        rw [Function.update_apply] at h
        split at h
        · exact absurd h (by simp)
        · exact h
      exact hs.unique _ _ _ (hold _ ht) (hold _ ht')
    | dropped => exact hs.unique _ _ _ ht ht'
    | quiet hi hw =>
      have hold : ∀ slot, w' slot = some t → w slot = some t := by
        intro slot h
        rcases hw slot with hw | hw
        · exact hw ▸ h
        · exact absurd (hw.symm.trans h) (by simp)
      exact hs.unique _ _ _ (hold _ ht) (hold _ ht')

end Turnover

/-! ## 3. Runs -/

namespace Component

variable (c : Component)

/-- The state after some operations. -/
def final (s : c.State) (ops : List c.Op) : c.State := ops.foldl (fun s op => (c.step s op).2) s

/-- What some operations do, one after the other. -/
def effects : c.State → List c.Op → List Effect
  | _, [] => []
  | s, op :: ops => (c.step s op).1 :: effects (c.step s op).2 ops

/-- The tickets that some operations issue, in order. -/
def issued (s : c.State) (ops : List c.Op) : List Ticket :=
  (c.effects s ops).filterMap Effect.issued?

/-- The tickets whose events are applied among some operations, in order. -/
def applied (s : c.State) (ops : List c.Op) : List Ticket :=
  (c.effects s ops).filterMap Effect.applied?

/-- The slots wait for tickets that were issued, each for its own. -/
abbrev SoundAt (s : c.State) : Prop := Sound (c.tickets s) (c.awaited s)

theorem soundAt_start : c.SoundAt c.start := by
  constructor
  · intro slot t ht
    exact absurd ((c.awaited_start slot).symm.trans ht) (by simp)
  · intro slot slot' t ht
    exact absurd ((c.awaited_start slot).symm.trans ht) (by simp)

theorem soundAt_step {s : c.State} (h : c.SoundAt s) (op : c.Op) : c.SoundAt (c.step s op).2 :=
  (c.turnover s op).sound h

theorem soundAt_final {s : c.State} (h : c.SoundAt s) (ops : List c.Op) :
    c.SoundAt (c.final s ops) := by
  induction ops generalizing s with
  | nil => exact h
  | cons op ops ih => exact ih (c.soundAt_step h op)

theorem mem_issued_cons {s : c.State} {op : c.Op} {ops : List c.Op} {t : Ticket} :
    t ∈ c.issued s (op :: ops) ↔
      (c.step s op).1.issued? = some t ∨ t ∈ c.issued (c.step s op).2 ops := by
  simp only [issued, effects, List.filterMap_cons]
  cases (c.step s op).1.issued? <;> simp [eq_comm]

theorem mem_applied_cons {s : c.State} {op : c.Op} {ops : List c.Op} {t : Ticket} :
    t ∈ c.applied s (op :: ops) ↔
      (c.step s op).1.applied? = some t ∨ t ∈ c.applied (c.step s op).2 ops := by
  simp only [applied, effects, List.filterMap_cons]
  cases (c.step s op).1.applied? <;> simp [eq_comm]

/-- **What is issued is greater than everything before.** -/
theorem lt_of_mem_issued {s : c.State} {ops : List c.Op} {t u : Ticket}
    (ht : t < (c.tickets s).next) (hu : u ∈ c.issued s ops) : t < u := by
  induction ops generalizing s with
  | nil => exact absurd hu (by simp [issued, effects])
  | cons op ops ih =>
    rcases c.mem_issued_cons.mp hu with he | hu
    · rw [((c.turnover s op).eq_next he).1]
      exact ht
    · exact ih ((c.turnover s op).lt_next ht) hu

theorem issued_increasing (s : c.State) (ops : List c.Op) :
    (c.issued s ops).Pairwise (· < ·) := by
  induction ops generalizing s with
  | nil => exact .nil
  | cons op ops ih =>
    simp only [issued, effects, List.filterMap_cons]
    cases he : (c.step s op).1.issued? with
    | none => exact ih _
    | some t =>
      refine .cons ?_ (ih _)
      intro u hu
      exact c.lt_of_mem_issued ((c.turnover s op).eq_next he).2 hu

/-- What is issued stays below the supply that is left. -/
theorem lt_next_of_mem_issued {s : c.State} {ops : List c.Op} {t : Ticket}
    (ht : t ∈ c.issued s ops) : t < (c.tickets (c.final s ops)).next := by
  have hkeep : ∀ (s : c.State) (ops : List c.Op), t < (c.tickets s).next →
      t < (c.tickets (c.final s ops)).next := by
    intro s ops
    induction ops generalizing s with
    | nil => exact id
    | cons op ops ih => exact fun h => ih _ ((c.turnover s op).lt_next h)
  induction ops generalizing s with
  | nil => exact absurd ht (by simp [issued, effects])
  | cons op ops ih =>
    rcases c.mem_issued_cons.mp ht with he | ht
    · exact hkeep _ ops ((c.turnover s op).eq_next he).2
    · exact ih ht

/-- **What is awaited no longer is never applied again**, because no ticket is issued twice. -/
theorem not_mem_applied {s : c.State} (h : c.SoundAt s) {t : Ticket}
    (ht : t < (c.tickets s).next) (hw : ∀ slot, c.awaited s slot ≠ some t) (ops : List c.Op) :
    t ∉ c.applied s ops := by
  induction ops generalizing s with
  | nil => simp [applied, effects]
  | cons op ops ih =>
    have hstep := c.turnover s op
    rw [c.mem_applied_cons, not_or]
    constructor
    · intro he
      obtain ⟨slot, hslot⟩ := (hstep.awaited_of_applied h he).1
      exact hw slot hslot
    · refine ih (c.soundAt_step h op) (hstep.lt_next ht) ?_
      intro slot hslot
      rcases hstep.awaited_before hslot with hslot | he
      · exact hw slot hslot
      · rw [(hstep.eq_next he).1] at ht
        exact Ticket.lt_irrefl _ ht

theorem nodup_applied {s : c.State} (h : c.SoundAt s) (ops : List c.Op) :
    (c.applied s ops).Nodup := by
  induction ops generalizing s with
  | nil => exact .nil
  | cons op ops ih =>
    have hrest := ih (c.soundAt_step h op)
    simp only [applied, effects, List.filterMap_cons]
    cases he : (c.step s op).1.applied? with
    | none => exact hrest
    | some t =>
      obtain ⟨⟨slot, hslot⟩, hgone⟩ := (c.turnover s op).awaited_of_applied h he
      refine List.nodup_cons.mpr ⟨fun hagain => ?_, hrest⟩
      exact c.not_mem_applied (c.soundAt_step h op)
        ((c.turnover s op).lt_next (h.issued slot t hslot)) hgone ops hagain

/-- What is applied was issued, or a slot waited for it at the beginning. -/
theorem issued_of_mem_applied {s : c.State} (h : c.SoundAt s) {ops : List c.Op} {t : Ticket}
    (ht : t ∈ c.applied s ops) : (∃ slot, c.awaited s slot = some t) ∨ t ∈ c.issued s ops := by
  induction ops generalizing s with
  | nil => exact absurd ht (by simp [applied, effects])
  | cons op ops ih =>
    have hstep := c.turnover s op
    rw [c.mem_issued_cons]
    rcases c.mem_applied_cons.mp ht with he | ht
    · exact Or.inl (hstep.awaited_of_applied h he).1
    · rcases ih (c.soundAt_step h op) ht with ⟨slot, hslot⟩ | ht
      · exact (hstep.awaited_before hslot).imp (fun hw => ⟨slot, hw⟩) Or.inl
      · exact Or.inr (Or.inr ht)

theorem mem_issued_of_mem_applied {ops : List c.Op} {t : Ticket}
    (ht : t ∈ c.applied c.start ops) : t ∈ c.issued c.start ops := by
  rcases c.issued_of_mem_applied c.soundAt_start ht with ⟨slot, hslot⟩ | ht
  · exact absurd ((c.awaited_start slot).symm.trans hslot) (by simp)
  · exact ht

end Component

/-! ## 4. Actions and events -/

section Steps

variable {σ ρ : Type} (tickets : σ → TicketIssuer) (awaited : σ → Slot → Option Ticket) (s : σ)

/-- What an attempt does to the tickets of a state. -/
inductive Submits : Attempt σ ρ → Prop
  | accepted {request : ρ} {s' : σ} (slot : Slot) : tickets s' = (tickets s).advance →
      awaited s' = Function.update (awaited s) slot (tickets s).next →
      Submits (.accepted (tickets s).next request s')
  | rejected {reason : Rejection} {s' : σ} : tickets s' = tickets s → awaited s' = awaited s →
      Submits (.rejected reason s')

/-- What an event with a ticket does to the tickets of a state. -/
inductive Settles (t : Ticket) : Bool × σ → Prop
  | taken {s' : σ} (slot : Slot) : awaited s slot = some t → tickets s' = tickets s →
      awaited s' = Function.update (awaited s) slot none → Settles t (true, s')
  | left : Settles t (false, s)

variable {tickets awaited s}

theorem Submits.turnover {a : Attempt σ ρ} (h : Submits tickets awaited s a) :
    Turnover (tickets s) (awaited s) a.effect (tickets a.state) (awaited a.state) := by
  cases h with
  | accepted slot ht hw =>
    simp only [Attempt.accepted, Attempt.effect, ht, hw]
    exact .issued slot
  | rejected ht hw =>
    simp only [Attempt.rejected, Attempt.effect, ht, hw]
    exact .quiet (Or.inl rfl) fun slot => Or.inl rfl

theorem Settles.turnover {t : Ticket} {r : Bool × σ} (h : Settles tickets awaited s t r) :
    Turnover (tickets s) (awaited s) (.ofEvent t r.1) (tickets r.2) (awaited r.2) := by
  cases h with
  | taken slot hs ht hw =>
    simp only [ht, hw]
    exact .applied hs
  | left => exact .dropped

/-- **An event that is not applied changes nothing.** -/
theorem Settles.unchanged {t : Ticket} {r : Bool × σ} (h : Settles tickets awaited s t r)
    (hr : r.1 = false) : r.2 = s := by
  cases h with
  | taken slot hs ht hw => exact absurd hr (by simp)
  | left => rfl

/-- An event that ends what one slot waits for, or is dropped. -/
theorem settles_ite {t : Ticket} {p : Prop} [Decidable p] {s' : σ} (slot : Slot)
    (hs : p → awaited s slot = some t) (ht : tickets s' = tickets s)
    (hw : awaited s' = Function.update (awaited s) slot none) :
    Settles tickets awaited s t (if p then (true, s') else (false, s)) := by
  split
  · rename_i hp
    exact .taken slot (hs hp) ht hw
  · exact .left

end Steps

/-! ## 5. The session -/

namespace Session

/-- The ticket that an event carries. -/
def Event.ticket : Event → Ticket
  | chat t _ | debug t _ | plan t _ => t

/-- The ticket that a slot of the session waits for. -/
def awaited (s : Session) : Slot → Option Ticket
  | .chat => s.mode.ticket?
  | .debug => s.debug.inFlight
  | .plan => s.plan.inFlight
  | .listing | .content | .index | .indexStats => none

theorem submits_submit (s : Session) (question : String) :
    Submits tickets awaited s (s.submit question) := by
  rcases s.submit_cases question with ⟨reason, h⟩ | ⟨-, h⟩
  · rw [h]
    exact .rejected rfl rfl
  · rw [h]
    exact .accepted .chat rfl (by funext slot; cases slot <;> rfl)

theorem submits_submitDebug (s : Session) (request : DebugRequest) :
    Submits tickets awaited s (s.submitDebug request) := by
  rcases s.submitDebug_cases request with ⟨reason, h⟩ | h
  · rw [h]
    exact .rejected rfl rfl
  · rw [h]
    exact .accepted .debug rfl (by funext slot; cases slot <;> rfl)

theorem submits_submitPlan (s : Session) (request : PlanRequest) :
    Submits tickets awaited s (s.submitPlan request) := by
  rcases s.submitPlan_cases request with ⟨reason, h⟩ | h
  · rw [h]
    exact .rejected rfl rfl
  · rw [h]
    exact .accepted .plan rfl (by funext slot; cases slot <;> rfl)

theorem apply_debug_eq (s : Session) (t : Ticket) (outcome : Outcome DebugResponse) :
    s.apply (.debug t outcome) =
      if s.debug.inFlight = some t ∧ outcome.isPending = false then
        (true, { s with debug := ⟨none, some outcome⟩ })
      else (false, s) := by
  simp only [apply, SingleFlight.resolve_eq]
  split <;> rfl

theorem apply_plan_eq (s : Session) (t : Ticket) (outcome : Outcome PlanResponse) :
    s.apply (.plan t outcome) =
      if s.plan.inFlight = some t ∧ outcome.isPending = false then
        (true, { s with plan := ⟨none, some outcome⟩ })
      else (false, s) := by
  simp only [apply, SingleFlight.resolve_eq]
  split <;> rfl

theorem settles_apply (s : Session) (event : Event) :
    Settles tickets awaited s event.ticket (s.apply event) := by
  cases event with
  | chat t outcome =>
    rw [apply, resolveChat_eq]
    refine settles_ite .chat (fun h => ChatMode.ticket?_eq_some.mpr h.1) rfl ?_
    funext slot
    cases slot <;> simp [awaited, endExchange, ticket?_modeAfter]
  | debug t outcome =>
    rw [apply_debug_eq]
    exact settles_ite .debug And.left rfl (by funext slot; cases slot <;> rfl)
  | plan t outcome =>
    rw [apply_plan_eq]
    exact settles_ite .plan And.left rfl (by funext slot; cases slot <;> rfl)

/-- Carries out an operation, with its effect. -/
def effect (s : Session) : Op → Effect × Session
  | .submit question => ((s.submit question).effect, (s.submit question).state)
  | .submitDebug request => ((s.submitDebug request).effect, (s.submitDebug request).state)
  | .submitPlan request => ((s.submitPlan request).effect, (s.submitPlan request).state)
  | .apply event => (.ofEvent event.ticket (s.apply event).1, (s.apply event).2)
  | .reset => (.quiet, s.reset)

/-- After a reset no slot waits for anything. -/
theorem awaited_reset (s : Session) (slot : Slot) : s.reset.awaited slot = none := by
  cases slot <;> rfl

theorem turnover_effect (s : Session) (op : Op) :
    Turnover s.tickets s.awaited (s.effect op).1 (s.effect op).2.tickets (s.effect op).2.awaited := by
  cases op with
  | submit question => exact (s.submits_submit question).turnover
  | submitDebug request => exact (s.submits_submitDebug request).turnover
  | submitPlan request => exact (s.submits_submitPlan request).turnover
  | apply event => exact (s.settles_apply event).turnover
  | reset => exact .quiet (Or.inr rfl) fun slot => Or.inr (s.awaited_reset slot)

/-- The session as a component. -/
def component : Component where
  State := Session
  Op := Op
  start := {}
  step := effect
  tickets := tickets
  awaited := awaited
  awaited_start slot := by cases slot <;> rfl
  turnover := turnover_effect

end Session

/-! ## 6. The browser -/

namespace Browser

/-- The ticket that a slot of the browser waits for. -/
def awaited (b : Browser) : Slot → Option Ticket
  | .listing => b.listing.inFlight
  | .content => (b.selection.bind Selection.awaited).map Tag.ticket
  | .chat | .debug | .plan | .index | .indexStats => none

theorem submits_loadListing (b : Browser) (directory : String) :
    Submits tickets awaited b (b.loadListing directory) := by
  rcases b.loadListing_cases directory with ⟨reason, h⟩ | h
  · rw [h]
    exact .rejected rfl rfl
  · rw [h]
    exact .accepted .listing rfl (by funext slot; cases slot <;> rfl)

theorem submits_selectFile (b : Browser) (path : String) :
    Submits tickets awaited b (b.selectFile path) := by
  rcases b.selectFile_cases path with ⟨reason, h⟩ | h
  · rw [h]
    exact .rejected rfl rfl
  · rw [h]
    exact .accepted .content rfl (by funext slot; cases slot <;> rfl)

theorem submits_retryListing (b : Browser) : Submits tickets awaited b b.retryListing := by
  rcases b.retryListing_cases with ⟨reason, h⟩ | ⟨directory, h⟩
  · rw [h]
    exact .rejected rfl rfl
  · rw [h]
    exact b.submits_loadListing directory

theorem submits_reloadSelection (b : Browser) : Submits tickets awaited b b.reloadSelection := by
  rcases b.reloadSelection_cases with ⟨reason, h⟩ | ⟨path, h⟩
  · rw [h]
    exact .rejected rfl rfl
  · rw [h]
    exact b.submits_selectFile path

/-- A content that has ended is awaited no more. -/
theorem awaited_endFetch (b : Browser) {outcome : Outcome FileContent}
    (h : outcome.isPending = false) :
    (b.endFetch outcome).selection.bind Selection.awaited = none := by
  cases hs : b.selection with
  | none => simp [endFetch, hs]
  | some selection => simp [endFetch, hs, Selection.awaited, Selection.isLoading, h]

theorem settles_apply (b : Browser) (event : Event) :
    Settles tickets awaited b event.ticket (b.apply event) := by
  cases event with
  | listing t outcome =>
    rw [apply, resolveListing_eq]
    exact settles_ite .listing And.left rfl (by funext slot; cases slot <;> rfl)
  | content t path outcome =>
    rw [apply, resolveContent_eq]
    split
    · rename_i h
      refine .taken .content ?_ rfl ?_
      · rw [awaited, h.1]
        rfl
      · funext slot
        cases slot
        case content => simp [awaited, b.awaited_endFetch h.2]
        all_goals rfl
    · exact .left

/-- Carries out an operation, with its effect. -/
def effect (b : Browser) : Op → Effect × Browser
  | .loadListing directory => ((b.loadListing directory).effect, (b.loadListing directory).state)
  | .retryListing => (b.retryListing.effect, b.retryListing.state)
  | .selectFile path => ((b.selectFile path).effect, (b.selectFile path).state)
  | .reloadSelection => (b.reloadSelection.effect, b.reloadSelection.state)
  | .apply event => (.ofEvent event.ticket (b.apply event).1, (b.apply event).2)

theorem turnover_effect (b : Browser) (op : Op) :
    Turnover b.tickets b.awaited (b.effect op).1 (b.effect op).2.tickets (b.effect op).2.awaited := by
  cases op with
  | loadListing directory =>
    simp only [effect]
    exact (b.submits_loadListing directory).turnover
  | retryListing => exact b.submits_retryListing.turnover
  | selectFile path =>
    simp only [effect]
    exact (b.submits_selectFile path).turnover
  | reloadSelection => exact b.submits_reloadSelection.turnover
  | apply event => exact (b.settles_apply event).turnover

/-- The browser as a component. -/
def component : Component where
  State := Browser
  Op := Op
  start := {}
  step := effect
  tickets := tickets
  awaited := awaited
  awaited_start slot := by cases slot <;> rfl
  turnover := turnover_effect

end Browser

/-! ## 7. The index panel -/

namespace IndexPanel

/-- The ticket that an event carries. -/
def Event.ticket : Event → Ticket
  | trigger t _ | stats t _ => t

/-- One thing that happens to an index panel. -/
inductive Op
  | triggerRun (path : String)
  | refreshStats
  | apply (event : Event)

/-- The ticket that a slot of the panel waits for. -/
def awaited (p : IndexPanel) : Slot → Option Ticket
  | .index => p.trigger.inFlight
  | .indexStats => p.stats.inFlight
  | .chat | .debug | .plan | .listing | .content => none

theorem submits_triggerRun (p : IndexPanel) (path : String) :
    Submits tickets awaited p (p.triggerRun path) := by
  rcases p.triggerRun_cases path with ⟨reason, h⟩ | ⟨hn, h⟩ | h
  · rw [h]
    exact .rejected rfl rfl
  · rw [h]
    refine .rejected rfl ?_
    funext slot
    cases slot
    case index => exact hn.symm
    all_goals rfl
  · rw [h]
    exact .accepted .index rfl (by funext slot; cases slot <;> rfl)

theorem submits_refreshStats (p : IndexPanel) : Submits tickets awaited p p.refreshStats := by
  rcases p.refreshStats_cases with ⟨reason, h⟩ | h
  · rw [h]
    exact .rejected rfl rfl
  · rw [h]
    exact .accepted .indexStats rfl (by funext slot; cases slot <;> rfl)

theorem settles_apply (p : IndexPanel) (event : Event) :
    Settles tickets awaited p event.ticket (p.apply event) := by
  cases event with
  | trigger t outcome =>
    rw [apply_trigger_eq]
    exact settles_ite .index And.left rfl (by funext slot; cases slot <;> rfl)
  | stats t outcome =>
    rw [apply_stats_eq]
    exact settles_ite .indexStats And.left rfl (by funext slot; cases slot <;> rfl)

/-- Carries out an operation, with its effect. -/
def effect (p : IndexPanel) : Op → Effect × IndexPanel
  | .triggerRun path => ((p.triggerRun path).effect, (p.triggerRun path).state)
  | .refreshStats => (p.refreshStats.effect, p.refreshStats.state)
  | .apply event => (.ofEvent event.ticket (p.apply event).1, (p.apply event).2)

theorem turnover_effect (p : IndexPanel) (op : Op) :
    Turnover p.tickets p.awaited (p.effect op).1 (p.effect op).2.tickets (p.effect op).2.awaited := by
  cases op with
  | triggerRun path => exact (p.submits_triggerRun path).turnover
  | refreshStats => exact p.submits_refreshStats.turnover
  | apply event => exact (p.settles_apply event).turnover

/-- The index panel as a component. -/
def component : Component where
  State := IndexPanel
  Op := Op
  start := {}
  step := effect
  tickets := tickets
  awaited := awaited
  awaited_start slot := by cases slot <;> rfl
  turnover := turnover_effect

end IndexPanel

/-! ## 8. All components -/

/-- The component as far as its tickets go. -/
def Owner.component : Owner → Component
  | session => Session.component
  | browser => Browser.component
  | panel => IndexPanel.component

/-- After a reset nothing that was issued before is applied, whatever happens then. -/
theorem Session.not_mem_applied_reset {before : List Session.Op} {t : Ticket}
    (ht : t ∈ Session.component.issued {} before) (after : List Session.Op) :
    t ∉ Session.component.applied (Session.component.final {} (before ++ [.reset])) after := by
  have hfinal : Session.component.final {} (before ++ [.reset]) =
      Session.reset (Session.component.final {} before) := List.foldl_concat ..
  have hsound : Session.component.SoundAt (Session.component.final {} (before ++ [.reset])) :=
    Session.component.soundAt_final Session.component.soundAt_start _
  refine Session.component.not_mem_applied hsound ?_ ?_ after
  · rw [hfinal]
    exact TicketIssuer.lt_next_renew (Session.component.lt_next_of_mem_issued ht)
  · intro slot hslot
    rw [hfinal] at hslot
    exact absurd ((Session.awaited_reset _ slot).symm.trans hslot) (by simp)

/-- **A ticket is applied at most once**, over every run of every component, whatever tickets,
paths and outcomes its events carry.  The tickets that a component issues strictly increase, also
across resets, so no two are equal; what is applied was issued.  After a reset of the session
nothing that was issued before is applied again.  An event that is not applied leaves the whole
state as it is. -/
theorem tickets_apply_once :
    (∀ (o : Owner) (ops : List o.component.Op),
      (o.component.issued o.component.start ops).Pairwise (· < ·) ∧
      (o.component.issued o.component.start ops).Nodup ∧
      (o.component.applied o.component.start ops).Nodup ∧
      ∀ t ∈ o.component.applied o.component.start ops,
        t ∈ o.component.issued o.component.start ops) ∧
    (∀ (before after : List Session.Op), ∀ t ∈ Session.component.issued {} before,
      t ∉ Session.component.applied (Session.component.final {} (before ++ [.reset])) after) ∧
    (∀ (s : Session) event, (s.apply event).1 = false → (s.apply event).2 = s) ∧
    (∀ (b : Browser) event, (b.apply event).1 = false → (b.apply event).2 = b) ∧
    (∀ (p : IndexPanel) event, (p.apply event).1 = false → (p.apply event).2 = p) := by
  refine ⟨?_, fun before after t ht => Session.not_mem_applied_reset ht after,
    fun s event => (s.settles_apply event).unchanged,
    fun b event => (b.settles_apply event).unchanged,
    fun p event => (p.settles_apply event).unchanged⟩
  intro o ops
  have hincreasing := o.component.issued_increasing o.component.start ops
  refine ⟨hincreasing, ?_, o.component.nodup_applied o.component.soundAt_start ops,
    fun t => o.component.mem_issued_of_mem_applied⟩
  refine hincreasing.imp ?_
  rintro t _ hlt rfl
  exact Ticket.lt_irrefl t hlt

/-- A question is asked, forgotten and asked again.  The answer to the first comes too late, the
answer to the second twice. -/
example :
    Session.component.applied {}
      [.submit "why", .reset, .submit "why", .apply (.chat ⟨0, 1⟩ (.success ⟨"early", {}⟩)),
        .apply (.chat ⟨1, 2⟩ (.success ⟨"late", {}⟩)),
        .apply (.chat ⟨1, 2⟩ (.success ⟨"late", {}⟩))] = [⟨1, 2⟩] := rfl

end CodeAssistant
