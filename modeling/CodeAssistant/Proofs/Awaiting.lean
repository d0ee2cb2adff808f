/-
# What the slots wait for

Seven slots may be pending.  What a pending slot waits for is a tag: the ticket of the call that
was made for it and, for the content of a file, the path that was asked for.  `Assistant.awaited`
reads the tags off the state, and with it the two things that ever happen to a slot are short:

* `act_cases`: an action either starts one call, whose tag its slot waits for from then on, or
  makes no call, and then slots can only be cleared;
* `deliver_eq`, `awaited_write`: an outcome is applied exactly if its call's tag is awaited by its
  slot and the outcome is an end (`Takes`), and then that slot, and no other, waits no more; an
  outcome that is not applied changes nothing at all;
* `taken_take`: the same of a whole step, with the calls in flight.
-/
import CodeAssistant.Assistant.Basic
import CodeAssistant.Proofs.Components

namespace CodeAssistant

/-! ## 1. Tags -/

/-- The component that a slot belongs to.  Its slots share one supply of tickets. -/
inductive Owner
  | session
  | browser
  | panel
  deriving DecidableEq, Repr

/-- Who keeps the slot. -/
def Slot.owner : Slot → Owner
  | chat | debug | plan => .session
  | listing | content => .browser
  | index | indexStats => .panel

namespace Call

/-- The file whose content the call asks for. -/
def path? : Call → Option String
  | ⟨.content, _, path⟩ => some path
  | ⟨.chat, _, _⟩ | ⟨.debug, _, _⟩ | ⟨.plan, _, _⟩ | ⟨.listing, _, _⟩ => none
  | ⟨.index, _, _⟩ | ⟨.indexStats, _, _⟩ => none

/-- The tag that the call's outcome comes back with. -/
def tag (c : Call) : Tag := ⟨c.ticket, c.path?⟩

/-- The component and the ticket, by which a call is known. -/
def key (c : Call) : Owner × Ticket := (c.slot.owner, c.ticket)

end Call

/-- The ticket of the exchange that is under way. -/
def ChatMode.ticket? : ChatMode → Option Ticket
  | sending ticket => some ticket
  | idle | failed _ => none

theorem ChatMode.ticket?_eq_some {m : ChatMode} {t : Ticket} :
    m.ticket? = some t ↔ m = .sending t := by
  cases m <;> simp [ticket?]

/-- In the session's slots, the ticket in flight and the outcome agree. -/
structure Session.Consistent (s : Session) : Prop where
  debug : s.debug.Consistent
  plan : s.plan.Consistent

/-- In the panel's slots, the ticket in flight and the outcome agree. -/
structure IndexPanel.Consistent (p : IndexPanel) : Prop where
  trigger : p.trigger.Consistent
  stats : p.stats.Consistent

namespace Assistant

/-- What a slot waits for; none if it is not pending. -/
def awaited (a : Assistant) : Slot → Option Tag
  | .chat => a.session.mode.ticket?.map (⟨·, none⟩)
  | .debug => a.session.debug.inFlight.map (⟨·, none⟩)
  | .plan => a.session.plan.inFlight.map (⟨·, none⟩)
  | .listing => a.browser.listing.inFlight.map (⟨·, none⟩)
  | .content => a.browser.selection.bind Selection.awaited
  | .index => a.panel.trigger.inFlight.map (⟨·, none⟩)
  | .indexStats => a.panel.stats.inFlight.map (⟨·, none⟩)

/-- A component's supply of tickets. -/
def issuer (a : Assistant) : Owner → TicketIssuer
  | .session => a.session.tickets
  | .browser => a.browser.tickets
  | .panel => a.panel.tickets

/-- In each slot for one call at a time, the ticket in flight and the outcome agree. -/
def Consistent (a : Assistant) : Prop := a.session.Consistent ∧ a.panel.Consistent

/-! ## 2. Actions -/

/-- The calls under way are the same. -/
structure SameCalls (a b : Assistant) : Prop where
  inFlight : b.inFlight = a.inFlight
  running : b.running = a.running
  arrived : b.arrived = a.arrived

/-- A component accepted an action in `a`, which leaves `b`, ready to start the call `c`: the slot
waits for the call, under the next ticket of its owner, and the other slots wait as before. -/
structure Accepted (a b : Assistant) (c : Call) : Prop where
  ticket : c.ticket = (a.issuer c.slot.owner).next
  issuer : ∀ o, b.issuer o = if o = c.slot.owner then (a.issuer o).advance else a.issuer o
  awaited : ∀ s, b.awaited s = if s = c.slot then some c.tag else a.awaited s
  consistent : a.Consistent → b.Consistent
  same : SameCalls a b

/-- Nothing was accepted between `a` and `b`: slots were cleared at most. -/
structure Quiet (a b : Assistant) : Prop where
  issued : ∀ o, (b.issuer o).issued = (a.issuer o).issued
  awaited : ∀ s, b.awaited s = a.awaited s ∨ b.awaited s = none
  consistent : a.Consistent → b.Consistent
  same : SameCalls a b

theorem Quiet.refl (a : Assistant) : Quiet a a :=
  ⟨fun _ => rfl, fun _ => Or.inl rfl, id, rfl, rfl, rfl⟩

/-- What an action comes to: a call is started, or the reaction says that there is none. -/
def Follows (a : Assistant) (r : Reaction × Assistant) : Prop :=
  (∃ c b, r = (.started c, b.start c) ∧ Accepted a b c) ∨
    ((∀ c, r.1 ≠ .started c) ∧ Quiet a r.2)

theorem follows_rejected {a b : Assistant} (reason : Rejection) (h : Quiet a b) :
    Follows a (.rejected reason, b) :=
  Or.inr ⟨fun _ => by simp, h⟩

theorem follows_accepted {a b : Assistant} {c : Call} (h : Accepted a b c) :
    Follows a (.started c, b.start c) :=
  Or.inl ⟨c, b, rfl, h⟩

theorem follows_sendChat (a : Assistant) (question : String) :
    Follows a (a.act (.sendChat question)) := by
  rcases a.session.submit_cases question with ⟨reason, h⟩ | ⟨-, h⟩
  · simp only [act, h, Attempt.rejected, follow]
    exact follows_rejected reason (Quiet.refl a)
  · simp only [act, h, Attempt.accepted, follow]
    exact follows_accepted ⟨rfl, by rintro (_ | _) <;> rfl, by rintro (_ | _) <;> rfl,
      fun hc => ⟨⟨hc.1.debug, hc.1.plan⟩, hc.2⟩, rfl, rfl, rfl⟩

theorem follows_requestDebug (a : Assistant) (request : DebugRequest) :
    Follows a (a.act (.requestDebug request)) := by
  rcases a.session.submitDebug_cases request with ⟨reason, h⟩ | h
  · simp only [act, h, Attempt.rejected, follow]
    exact follows_rejected reason (Quiet.refl a)
  · simp only [act, h, Attempt.accepted, follow]
    exact follows_accepted ⟨rfl, by rintro (_ | _) <;> rfl, by rintro (_ | _) <;> rfl,
      fun hc => ⟨⟨a.session.debug.consistent_begin _, hc.1.plan⟩, hc.2⟩, rfl, rfl, rfl⟩

theorem follows_requestPlan (a : Assistant) (request : PlanRequest) :
    Follows a (a.act (.requestPlan request)) := by
  rcases a.session.submitPlan_cases request with ⟨reason, h⟩ | h
  · simp only [act, h, Attempt.rejected, follow]
    exact follows_rejected reason (Quiet.refl a)
  · simp only [act, h, Attempt.accepted, follow]
    exact follows_accepted ⟨rfl, by rintro (_ | _) <;> rfl, by rintro (_ | _) <;> rfl,
      fun hc => ⟨⟨hc.1.debug, a.session.plan.consistent_begin _⟩, hc.2⟩, rfl, rfl, rfl⟩

theorem follows_loadListing (a : Assistant) (directory : String) :
    Follows a (a.act (.loadListing directory)) := by
  rcases a.browser.loadListing_cases directory with ⟨reason, h⟩ | h
  · simp only [act, h, Attempt.rejected, follow]
    exact follows_rejected reason (Quiet.refl a)
  · simp only [act, h, Attempt.accepted, follow]
    exact follows_accepted ⟨rfl, by rintro (_ | _) <;> rfl, by rintro (_ | _) <;> rfl,
      id, rfl, rfl, rfl⟩

theorem follows_retryListing (a : Assistant) : Follows a (a.act .retryListing) := by
  rcases a.browser.retryListing_cases with ⟨reason, h⟩ | ⟨directory, h⟩
  · simp only [act, h, Attempt.rejected, follow]
    exact follows_rejected reason (Quiet.refl a)
  · simp only [act, h]
    exact follows_loadListing a directory

theorem follows_selectFile (a : Assistant) (path : String) :
    Follows a (a.act (.selectFile path)) := by
  rcases a.browser.selectFile_cases path with ⟨reason, h⟩ | h
  · simp only [act, h, Attempt.rejected, follow]
    exact follows_rejected reason (Quiet.refl a)
  · simp only [act, h, Attempt.accepted, follow]
    exact follows_accepted ⟨rfl, by rintro (_ | _) <;> rfl, by rintro (_ | _) <;> rfl,
      id, rfl, rfl, rfl⟩

theorem follows_reloadSelection (a : Assistant) : Follows a (a.act .reloadSelection) := by
  rcases a.browser.reloadSelection_cases with ⟨reason, h⟩ | ⟨path, h⟩
  · simp only [act, h, Attempt.rejected, follow]
    exact follows_rejected reason (Quiet.refl a)
  · simp only [act, h]
    exact follows_selectFile a path

/-- A blank path leaves a failure in the slot, but none that anything waits for. -/
theorem follows_triggerIndex (a : Assistant) (path : String) :
    Follows a (a.act (.triggerIndex path)) := by
  rcases a.panel.triggerRun_cases path with ⟨reason, h⟩ | ⟨hn, h⟩ | h
  · simp only [act, h, Attempt.rejected, follow]
    exact follows_rejected reason (Quiet.refl a)
  · simp only [act, h, Attempt.rejected, follow]
    refine follows_rejected _ ⟨by rintro (_ | _) <;> rfl, ?_, ?_, rfl, rfl, rfl⟩
    · rintro (_ | _) <;> simp [awaited, hn]
    · exact fun hc => ⟨hc.1, SingleFlight.consistent_ended rfl, hc.2.stats⟩
  · simp only [act, h, Attempt.accepted, follow]
    exact follows_accepted ⟨rfl, by rintro (_ | _) <;> rfl, by rintro (_ | _) <;> rfl,
      fun hc => ⟨hc.1, a.panel.trigger.consistent_begin _, hc.2.stats⟩, rfl, rfl, rfl⟩

theorem follows_refreshIndexStats (a : Assistant) : Follows a (a.act .refreshIndexStats) := by
  rcases a.panel.refreshStats_cases with ⟨reason, h⟩ | h
  · simp only [act, h, Attempt.rejected, follow]
    exact follows_rejected reason (Quiet.refl a)
  · simp only [act, h, Attempt.accepted, follow]
    exact follows_accepted ⟨rfl, by rintro (_ | _) <;> rfl, by rintro (_ | _) <;> rfl,
      fun hc => ⟨hc.1, hc.2.trigger, a.panel.stats.consistent_begin _⟩, rfl, rfl, rfl⟩

/-- A reset makes no call and leaves those under way alone; the session forgets them. -/
theorem follows_resetSession (a : Assistant) : Follows a (a.act .resetSession) := by
  refine Or.inr ⟨fun _ => by simp [act], ?_, ?_, ?_, rfl, rfl, rfl⟩
  · rintro (_ | _) <;> rfl
  · rintro (_ | _ | _ | _ | _ | _ | _)
    · exact Or.inr rfl
    · exact Or.inr rfl
    · exact Or.inr rfl
    · exact Or.inl rfl
    · exact Or.inl rfl
    · exact Or.inl rfl
    · exact Or.inl rfl
  · exact fun hc => ⟨⟨a.session.debug.consistent_clear, a.session.plan.consistent_clear⟩, hc.2⟩

/-- **What any action comes to.** -/
theorem act_cases (a : Assistant) (action : Action) : Follows a (a.act action) := by
  cases action with
  | sendChat question => exact follows_sendChat a question
  | requestDebug request => exact follows_requestDebug a request
  | requestPlan request => exact follows_requestPlan a request
  | loadListing directory => exact follows_loadListing a directory
  | retryListing => exact follows_retryListing a
  | selectFile path => exact follows_selectFile a path
  | reloadSelection => exact follows_reloadSelection a
  | triggerIndex path => exact follows_triggerIndex a path
  | refreshIndexStats => exact follows_refreshIndexStats a
  | resetSession => exact follows_resetSession a

/-! ## 3. Outcomes -/

/-- The arrival ends a call that its slot waits for. -/
def Takes (a : Assistant) (x : Arrival) : Prop :=
  a.awaited x.call.slot = some x.call.tag ∧ x.outcome.isPending = false

instance (a : Assistant) (x : Arrival) : Decidable (a.Takes x) :=
  inferInstanceAs (Decidable (_ ∧ _))

/-- What an arrival that is taken leaves behind. -/
def write (a : Assistant) : Arrival → Assistant
  | ⟨⟨.chat, _, _⟩, outcome⟩ => { a with session := a.session.endExchange outcome }
  | ⟨⟨.debug, _, _⟩, outcome⟩ => { a with session := { a.session with debug := ⟨none, some outcome⟩ } }
  | ⟨⟨.plan, _, _⟩, outcome⟩ => { a with session := { a.session with plan := ⟨none, some outcome⟩ } }
  | ⟨⟨.listing, _, _⟩, outcome⟩ => { a with browser := a.browser.endListing outcome }
  | ⟨⟨.content, _, _⟩, outcome⟩ => { a with browser := a.browser.endFetch outcome }
  | ⟨⟨.index, _, _⟩, outcome⟩ => { a with panel := a.panel.endRun outcome }
  | ⟨⟨.indexStats, _, _⟩, outcome⟩ => { a with panel := a.panel.endRefresh outcome }

section Takes

variable {a : Assistant} {t : Ticket}

theorem takes_chat {r : ChatRequest} {o : Outcome ChatResponse} :
    a.Takes ⟨⟨.chat, t, r⟩, o⟩ ↔ a.session.mode = .sending t ∧ o.isPending = false := by
  simp [Takes, awaited, Call.tag, Call.path?, ChatMode.ticket?_eq_some]

theorem takes_debug {r : DebugRequest} {o : Outcome DebugResponse} :
    a.Takes ⟨⟨.debug, t, r⟩, o⟩ ↔ a.session.debug.inFlight = some t ∧ o.isPending = false := by
  simp [Takes, awaited, Call.tag, Call.path?]

theorem takes_plan {r : PlanRequest} {o : Outcome PlanResponse} :
    a.Takes ⟨⟨.plan, t, r⟩, o⟩ ↔ a.session.plan.inFlight = some t ∧ o.isPending = false := by
  simp [Takes, awaited, Call.tag, Call.path?]

theorem takes_listing {d : String} {o : Outcome (List FileEntry)} :
    a.Takes ⟨⟨.listing, t, d⟩, o⟩ ↔
      a.browser.listing.inFlight = some t ∧ o.isPending = false := by
  simp [Takes, awaited, Call.tag, Call.path?]

theorem takes_content {path : String} {o : Outcome FileContent} :
    a.Takes ⟨⟨.content, t, path⟩, o⟩ ↔
      a.browser.selection.bind Selection.awaited = some ⟨t, some path⟩ ∧ o.isPending = false :=
  Iff.rfl

theorem takes_index {r : IndexRequest} {o : Outcome IndexTriggerResponse} :
    a.Takes ⟨⟨.index, t, r⟩, o⟩ ↔ a.panel.trigger.inFlight = some t ∧ o.isPending = false := by
  simp [Takes, awaited, Call.tag, Call.path?]

theorem takes_indexStats {r : Unit} {o : Outcome IndexStats} :
    a.Takes ⟨⟨.indexStats, t, r⟩, o⟩ ↔ a.panel.stats.inFlight = some t ∧ o.isPending = false := by
  simp [Takes, awaited, Call.tag, Call.path?]

end Takes

/-- **Delivering is taking or dropping.** -/
theorem deliver_eq (a : Assistant) (x : Arrival) :
    a.deliver x = if a.Takes x then (true, a.write x) else (false, a) := by
  obtain ⟨⟨slot, ticket, request⟩, outcome⟩ := x
  cases slot with
  | chat =>
    simp only [deliver, Session.apply, Session.resolveChat_eq, takes_chat, write]
    split <;> rfl
  | debug =>
    simp only [deliver, Session.apply, SingleFlight.resolve_eq, takes_debug, write]
    split <;> rfl
  | plan =>
    simp only [deliver, Session.apply, SingleFlight.resolve_eq, takes_plan, write]
    split <;> rfl
  | listing =>
    simp only [deliver, Browser.apply, Browser.resolveListing_eq, takes_listing, write]
    split <;> rfl
  | content =>
    simp only [deliver, Browser.apply, Browser.resolveContent_eq, takes_content, write]
    split <;> rfl
  | index =>
    simp only [deliver, IndexPanel.apply_trigger_eq, takes_index, write]
    split <;> rfl
  | indexStats =>
    simp only [deliver, IndexPanel.apply_stats_eq, takes_indexStats, write]
    split <;> rfl

/-- The slot of an arrival that is taken waits no more, and the other slots wait as before. -/
theorem awaited_write (a : Assistant) {x : Arrival} (hx : x.outcome.isPending = false) (s : Slot) :
    (a.write x).awaited s = if s = x.call.slot then none else a.awaited s := by
  obtain ⟨⟨slot, ticket, request⟩, outcome⟩ := x
  cases slot with
  | chat =>
    cases s <;> first | rfl | (cases outcome <;> rfl)
  | content =>
    cases s with
    | content =>
      cases hs : a.browser.selection with
      | none => simp [awaited, write, Browser.endFetch, hs]
      | some selection =>
        have : outcome.isPending = false := hx
        simp [awaited, write, Browser.endFetch, hs, Selection.awaited, Selection.isLoading, this]
    | _ => rfl
  | _ => cases s <;> rfl

@[simp] theorem issuer_write (a : Assistant) (x : Arrival) (o : Owner) :
    (a.write x).issuer o = a.issuer o := by
  obtain ⟨⟨slot, ticket, request⟩, outcome⟩ := x
  cases slot <;> cases o <;> rfl

theorem sameCalls_write (a : Assistant) (x : Arrival) : SameCalls a (a.write x) := by
  obtain ⟨⟨slot, ticket, request⟩, outcome⟩ := x
  cases slot <;> exact ⟨rfl, rfl, rfl⟩

theorem Consistent.write {a : Assistant} (h : a.Consistent) {x : Arrival}
    (hx : x.outcome.isPending = false) : (a.write x).Consistent := by
  obtain ⟨⟨slot, ticket, request⟩, outcome⟩ := x
  cases slot with
  | chat => exact ⟨⟨h.1.debug, h.1.plan⟩, h.2⟩
  | debug => exact ⟨⟨SingleFlight.consistent_ended hx, h.1.plan⟩, h.2⟩
  | plan => exact ⟨⟨h.1.debug, SingleFlight.consistent_ended hx⟩, h.2⟩
  | listing => exact h
  | content => exact h
  | index => exact ⟨h.1, SingleFlight.consistent_ended hx, h.2.stats⟩
  | indexStats => exact ⟨h.1, h.2.trigger, SingleFlight.consistent_ended hx⟩

/-- An arrival was applied in `a`, or dropped, which left `b`: only a slot that took it waits no
more, and one call less is in flight. -/
structure Taken (a : Assistant) (x : Arrival) (b : Assistant) : Prop where
  awaited : ∀ s, b.awaited s = if a.Takes x ∧ s = x.call.slot then none else a.awaited s
  issuer : ∀ o, b.issuer o = a.issuer o
  consistent : a.Consistent → b.Consistent
  inFlight : b.inFlight = a.inFlight - 1
  running : b.running = a.running
  arrived : b.arrived = a.arrived

theorem take_eq_of_takes {a : Assistant} {x : Arrival} (h : a.Takes x) :
    a.take x = (⟨x.call.slot, true⟩, { a.write x with inFlight := a.inFlight - 1 }) := by
  rw [take, deliver_eq, if_pos h]
  simp only [(sameCalls_write a x).inFlight]

theorem take_eq_of_not_takes {a : Assistant} {x : Arrival} (h : ¬ a.Takes x) :
    a.take x = (⟨x.call.slot, false⟩, { a with inFlight := a.inFlight - 1 }) := by
  rw [take, deliver_eq, if_neg h]

/-- The report names the slot of the call, and says whether the outcome was taken. -/
theorem take_fst (a : Assistant) (x : Arrival) :
    (a.take x).1 = ⟨x.call.slot, decide (a.Takes x)⟩ := by
  by_cases h : a.Takes x
  · simp [take_eq_of_takes h, h]
  · simp [take_eq_of_not_takes h, h]

theorem taken_take (a : Assistant) (x : Arrival) : Taken a x (a.take x).2 := by
  by_cases h : a.Takes x
  · rw [take_eq_of_takes h]
    have hs := sameCalls_write a x
    refine ⟨fun s => ?_, fun o => ?_, fun hc => ?_, rfl, hs.running, hs.arrived⟩
    · simp only [h, true_and]
      exact awaited_write a h.2 s
    · exact issuer_write a x o
    · exact hc.write h.2
  · rw [take_eq_of_not_takes h]
    exact ⟨fun s => by simp only [h, false_and, if_false]; rfl, fun _ => rfl, id, rfl, rfl, rfl⟩

/-! ## 4. The screen -/

theorem exists_map_tag {o : Option Ticket} (h : o.isSome = true) :
    ∃ tag : Tag, o.map (⟨·, none⟩) = some tag := by
  obtain ⟨t, rfl⟩ := Option.isSome_iff_exists.mp h
  exact ⟨⟨t, none⟩, rfl⟩

/-- **A screen is busy only while some slot waits.**  Where the screen looks at an outcome, the
slot is pending because the two agree. -/
theorem exists_awaited_of_isBusy {a : Assistant} (hc : a.Consistent)
    (h : a.screen.isBusy = true) : ∃ s tag, a.awaited s = some tag := by
  simp only [Screen.isBusy, Bool.or_eq_true] at h
  rcases h with (((((h | h) | h) | h) | h) | h) | h
  · exact ⟨.listing, exists_map_tag h⟩
  · cases hm : a.session.mode with
    | sending t => exact ⟨.chat, ⟨t, none⟩, by simp [awaited, hm, ChatMode.ticket?]⟩
    | idle => simp [screen, Screen.compose, Session.isSending, hm] at h
    | failed f => simp [screen, Screen.compose, Session.isSending, hm] at h
  · cases hs : a.browser.selection with
    | none => simp [screen, Screen.compose, ContentView.ofSelection, ContentView.isLoading, hs] at h
    | some selection =>
      refine ⟨.content, ⟨selection.ticket, some selection.path⟩, ?_⟩
      cases ho : selection.content <;>
        simp_all [screen, Screen.compose, ContentView.ofSelection, ContentView.isLoading, awaited,
          Selection.awaited, Selection.isLoading, Outcome.isPending]
  · exact ⟨.debug, exists_map_tag (hc.1.debug.mpr h)⟩
  · exact ⟨.plan, exists_map_tag (hc.1.plan.mpr h)⟩
  · exact ⟨.index, exists_map_tag h⟩
  · exact ⟨.indexStats, exists_map_tag (hc.2.stats.mpr h)⟩

end Assistant

end CodeAssistant
