/-
# The screen does not contradict itself

That a slot is pending is written down twice: as the ticket in flight, and as an outcome that is
pending.  The screen reads the one for some slots and the other for the rest, so it is of one mind
only as long as the two agree.  `Session.Consistent`, `Browser.Consistent` and
`IndexPanel.Consistent` say that they do.  Every operation keeps them, whatever tickets, paths and
outcomes its event carries (`Consistent.effect`, one for each component), and so does every run.

The listing is held together by one thing more: it has a directory as soon as it has a status.  An
outcome is written as its status only while a listing is in flight, and then there was one already.

Main statement: `screen_consistent`.
-/
import CodeAssistant.Proofs.Tickets

namespace CodeAssistant

/-! ## 1. Runs -/

namespace Component

variable (c : Component)

/-- What holds at the start and is kept by every step holds after every run. -/
theorem final_induction {P : c.State → Prop} (hstart : P c.start)
    (hstep : ∀ s op, P s → P (c.step s op).2) (ops : List c.Op) : P (c.final c.start ops) := by
  suffices ∀ s, P s → P (c.final s ops) from this c.start hstart
  induction ops with
  | nil => exact fun s hs => hs
  | cons op ops ih => exact fun s hs => ih _ (hstep s op hs)

/-- What a slot waits for after a run some slot waited for before, or the run issued it. -/
theorem issued_of_awaited {s : c.State} {ops : List c.Op} {slot : Slot} {t : Ticket}
    (h : c.awaited (c.final s ops) slot = some t) :
    (∃ slot', c.awaited s slot' = some t) ∨ t ∈ c.issued s ops := by
  induction ops generalizing s with
  | nil => exact Or.inl ⟨slot, h⟩
  | cons op ops ih =>
    rw [c.mem_issued_cons]
    rcases ih h with ⟨slot', hslot⟩ | ht
    · rcases (c.turnover s op).awaited_before hslot with hslot | he
      · exact Or.inl ⟨slot', hslot⟩
      · exact Or.inr (Or.inl he)
    · exact Or.inr (Or.inr ht)

/-- **What a slot waits for was issued**, and no other slot waits for it. -/
theorem awaited_final {ops : List c.Op} {slot : Slot} {t : Ticket}
    (h : c.awaited (c.final c.start ops) slot = some t) :
    t ∈ c.issued c.start ops ∧
      ∀ slot', c.awaited (c.final c.start ops) slot' = some t → slot' = slot := by
  refine ⟨?_, fun slot' h' => (c.soundAt_final c.soundAt_start ops).unique _ _ _ h' h⟩
  rcases c.issued_of_awaited h with ⟨slot', hslot⟩ | ht
  · exact absurd ((c.awaited_start slot').symm.trans hslot) (by simp)
  · exact ht

end Component

/-! ## 2. The two copies -/

/-- An outcome that is pending is the only one of its kind. -/
theorem any_isPending_iff {α : Type} {o : Option (Outcome α)} :
    o.any Outcome.isPending = true ↔ o = some .pending := by
  rcases o with _ | _ | _ | _ <;> simp [Outcome.isPending]

theorem SingleFlight.Consistent.iff_pending {α : Type} {s : SingleFlight α} (h : s.Consistent) :
    s.inFlight.isSome = true ↔ s.outcome = some .pending :=
  Iff.trans h any_isPending_iff

namespace Session

theorem consistent_start : Consistent {} :=
  ⟨by simp [SingleFlight.Consistent], by simp [SingleFlight.Consistent]⟩

theorem Consistent.submit {s : Session} (h : s.Consistent) (question : String) :
    (s.submit question).state.Consistent := by
  rcases s.submit_cases question with ⟨reason, hr⟩ | ⟨-, ha⟩
  · rw [hr]
    exact h
  · rw [ha]
    exact ⟨h.debug, h.plan⟩

theorem Consistent.submitDebug {s : Session} (h : s.Consistent) (request : DebugRequest) :
    (s.submitDebug request).state.Consistent := by
  rcases s.submitDebug_cases request with ⟨reason, hr⟩ | ha
  · rw [hr]
    exact h
  · rw [ha]
    exact ⟨s.debug.consistent_begin _, h.plan⟩

theorem Consistent.submitPlan {s : Session} (h : s.Consistent) (request : PlanRequest) :
    (s.submitPlan request).state.Consistent := by
  rcases s.submitPlan_cases request with ⟨reason, hr⟩ | ha
  · rw [hr]
    exact h
  · rw [ha]
    exact ⟨h.debug, s.plan.consistent_begin _⟩

theorem Consistent.apply {s : Session} (h : s.Consistent) (event : Event) :
    (s.apply event).2.Consistent := by
  cases event with
  | chat t outcome =>
    rw [Session.apply, resolveChat_eq]
    split
    · exact ⟨h.debug, h.plan⟩
    · exact h
  | debug t outcome => exact ⟨h.debug.resolve t outcome, h.plan⟩
  | plan t outcome => exact ⟨h.debug, h.plan.resolve t outcome⟩

theorem Consistent.effect {s : Session} (h : s.Consistent) (op : Op) :
    (s.effect op).2.Consistent := by
  cases op with
  | submit question => exact h.submit question
  | submitDebug request => exact h.submitDebug request
  | submitPlan request => exact h.submitPlan request
  | apply event => exact h.apply event
  | reset => exact ⟨s.debug.consistent_clear, s.plan.consistent_clear⟩

end Session

namespace Browser

/-- The listing's ticket, status and directory agree. -/
structure Consistent (b : Browser) : Prop where
  pending : b.listing.inFlight.isSome = true ↔ b.listing.status = some .pending
  directory : b.listing.directory.isSome = true ↔ b.listing.status.isSome = true

theorem consistent_start : Consistent {} := ⟨by simp, by simp⟩

theorem Consistent.loadListing {b : Browser} (h : b.Consistent) (directory : String) :
    (b.loadListing directory).state.Consistent := by
  rcases b.loadListing_cases directory with ⟨reason, hr⟩ | ha
  · rw [hr]
    exact h
  · rw [ha]
    exact ⟨by simp [Attempt.accepted], by simp [Attempt.accepted]⟩

theorem Consistent.retryListing {b : Browser} (h : b.Consistent) :
    b.retryListing.state.Consistent := by
  rcases b.retryListing_cases with ⟨reason, hr⟩ | ⟨directory, hd⟩
  · rw [hr]
    exact h
  · rw [hd]
    exact h.loadListing directory

theorem Consistent.selectFile {b : Browser} (h : b.Consistent) (path : String) :
    (b.selectFile path).state.Consistent := by
  rcases b.selectFile_cases path with ⟨reason, hr⟩ | ha
  · rw [hr]
    exact h
  · rw [ha]
    exact ⟨h.pending, h.directory⟩

theorem Consistent.reloadSelection {b : Browser} (h : b.Consistent) :
    b.reloadSelection.state.Consistent := by
  rcases b.reloadSelection_cases with ⟨reason, hr⟩ | ⟨path, hp⟩
  · rw [hr]
    exact h
  · rw [hp]
    exact h.selectFile path

/-- A listing that ends was in flight, so it had a status and with it a directory. -/
theorem Consistent.endListing {b : Browser} (h : b.Consistent) {t : Ticket}
    {outcome : Outcome (List FileEntry)} (ht : b.listing.inFlight = some t)
    (ho : outcome.isPending = false) : (b.endListing outcome).Consistent := by
  have hstatus : b.listing.status = some .pending := h.pending.mp (by simp [ht])
  have hdirectory : b.listing.directory.isSome = true := h.directory.mpr (by simp [hstatus])
  constructor
  · cases outcome <;> simp [Browser.endListing, Outcome.map, Outcome.isPending] at ho ⊢
  · simpa [Browser.endListing] using hdirectory

theorem Consistent.apply {b : Browser} (h : b.Consistent) (event : Event) :
    (b.apply event).2.Consistent := by
  cases event with
  | listing t outcome =>
    rw [Browser.apply, resolveListing_eq]
    split
    · rename_i ht
      exact h.endListing ht.1 ht.2
    · exact h
  | content t path outcome =>
    rw [Browser.apply, resolveContent_eq]
    split
    · exact ⟨h.pending, h.directory⟩
    · exact h

theorem Consistent.effect {b : Browser} (h : b.Consistent) (op : Op) :
    (b.effect op).2.Consistent := by
  cases op with
  | loadListing directory => exact h.loadListing directory
  | retryListing => exact h.retryListing
  | selectFile path => exact h.selectFile path
  | reloadSelection => exact h.reloadSelection
  | apply event => exact h.apply event

/-- A failure of the listing is its status, so no listing is in flight. -/
theorem Consistent.inFlight_eq_none_of_error {b : Browser} (h : b.Consistent) {failure : Failure}
    (he : b.listing.error? = some failure) : b.listing.inFlight = none := by
  obtain ⟨status, hs, hf⟩ := Option.bind_eq_some_iff.mp he
  by_contra hne
  have hpending : b.listing.status = some .pending :=
    h.pending.mp (Option.isSome_iff_ne_none.mpr hne)
  rw [hs, Option.some.injEq] at hpending
  subst hpending
  exact absurd hf (by simp [Outcome.failure?])

end Browser

namespace IndexPanel

theorem consistent_start : Consistent {} :=
  ⟨by simp [SingleFlight.Consistent], by simp [SingleFlight.Consistent]⟩

theorem Consistent.triggerRun {p : IndexPanel} (h : p.Consistent) (path : String) :
    (p.triggerRun path).state.Consistent := by
  rcases p.triggerRun_cases path with ⟨reason, hr⟩ | ⟨-, hr⟩ | ha
  · rw [hr]
    exact h
  · rw [hr]
    exact ⟨SingleFlight.consistent_ended rfl, h.stats⟩
  · rw [ha]
    exact ⟨p.trigger.consistent_begin _, h.stats⟩

theorem Consistent.refreshStats {p : IndexPanel} (h : p.Consistent) :
    p.refreshStats.state.Consistent := by
  rcases p.refreshStats_cases with ⟨reason, hr⟩ | ha
  · rw [hr]
    exact h
  · rw [ha]
    exact ⟨h.trigger, p.stats.consistent_begin _⟩

theorem Consistent.apply {p : IndexPanel} (h : p.Consistent) (event : Event) :
    (p.apply event).2.Consistent := by
  cases event with
  | trigger t outcome => exact ⟨h.trigger.resolve t outcome, h.stats⟩
  | stats t outcome =>
    rw [apply_stats_eq]
    split
    · rename_i ht
      exact ⟨h.trigger, SingleFlight.consistent_ended ht.2⟩
    · exact h

theorem Consistent.effect {p : IndexPanel} (h : p.Consistent) (op : Op) :
    (p.effect op).2.Consistent := by
  cases op with
  | triggerRun path => exact h.triggerRun path
  | refreshStats => exact h.refreshStats
  | apply event => exact h.apply event

/-- The line says that a run is under way exactly while one is. -/
theorem Consistent.statusLine?_iff {p : IndexPanel} (h : p.Consistent) :
    p.isIndexing = true ↔ p.statusLine? = some ⟨.info, indexingMessage⟩ := by
  rw [isIndexing, SingleFlight.isPending, h.trigger.iff_pending, statusLine?]
  rcases p.trigger.outcome with _ | _ | _ | _ <;> simp

end IndexPanel

/-! ## 3. The screen -/

namespace Assistant

/-- While a slot waits the screen is busy, whichever of the two copies it reads. -/
theorem isBusy_of_awaited {a : Assistant} (h : a.Consistent) {slot : Slot} {tag : Tag}
    (hw : a.awaited slot = some tag) : a.screen.isBusy = true := by
  have hsome : ∀ {o : Option Ticket}, o.map (fun t => (⟨t, none⟩ : Tag)) = some tag →
      o.isSome = true := by
    intro o ho
    obtain ⟨t, rfl, -⟩ := Option.map_eq_some_iff.mp ho
    rfl
  cases slot with
  | listing =>
    have hl : a.screen.listingLoading = true := hsome hw
    simp only [Screen.isBusy, hl, Bool.true_or]
  | chat =>
    obtain ⟨t, ht, -⟩ := Option.map_eq_some_iff.mp hw
    have hc : a.screen.chatSending = true := by
      simp [screen, Screen.compose, Session.isSending, ChatMode.ticket?_eq_some.mp ht]
    simp only [Screen.isBusy, hc, Bool.or_true, Bool.true_or]
  | content =>
    obtain ⟨selection, hs, hl⟩ := Option.bind_eq_some_iff.mp hw
    have hc : a.screen.content.isLoading = true := by
      cases ho : selection.content with
      | pending =>
        simp [screen, Screen.compose, ContentView.ofSelection, ContentView.isLoading, hs, ho]
      | success _ => simp [Selection.awaited, Selection.isLoading, Outcome.isPending, ho] at hl
      | failure _ => simp [Selection.awaited, Selection.isLoading, Outcome.isPending, ho] at hl
    simp only [Screen.isBusy, hc, Bool.or_true, Bool.true_or]
  | debug =>
    have hd : a.screen.debug.any Outcome.isPending = true := h.1.debug.mp (hsome hw)
    simp only [Screen.isBusy, hd, Bool.or_true, Bool.true_or]
  | plan =>
    have hp : a.screen.plan.any Outcome.isPending = true := h.1.plan.mp (hsome hw)
    simp only [Screen.isBusy, hp, Bool.or_true, Bool.true_or]
  | index =>
    have hi : a.screen.indexRunning = true := hsome hw
    simp only [Screen.isBusy, hi, Bool.or_true, Bool.true_or]
  | indexStats =>
    have hi : a.screen.indexStatsLoading = true := h.2.stats.mp (hsome hw)
    simp only [Screen.isBusy, hi, Bool.or_true]

/-- A slot waits if its component's does. -/
theorem awaited_ticket (a : Assistant) (slot : Slot) :
    (a.awaited slot).map Tag.ticket =
      ((a.session.awaited slot).or (a.browser.awaited slot)).or (a.panel.awaited slot) := by
  have htag : ∀ o : Option Ticket, (o.map fun t => (⟨t, none⟩ : Tag)).map Tag.ticket = o := by
    intro o
    cases o <;> rfl
  cases slot <;> simp [awaited, Session.awaited, Browser.awaited, IndexPanel.awaited, htag]

/-- **The screen is busy exactly while a slot waits.** -/
theorem isBusy_iff {a : Assistant} (h : a.Consistent) :
    a.screen.isBusy = true ↔
      ∃ slot t, a.session.awaited slot = some t ∨ a.browser.awaited slot = some t ∨
        a.panel.awaited slot = some t := by
  constructor
  · intro hbusy
    obtain ⟨slot, tag, hw⟩ := exists_awaited_of_isBusy h hbusy
    have ht := a.awaited_ticket slot
    rw [hw, Option.map_some, eq_comm, Option.or_eq_some_iff, Option.or_eq_some_iff] at ht
    rcases ht with (ht | ⟨-, ht⟩) | ⟨-, ht⟩
    · exact ⟨slot, _, Or.inl ht⟩
    · exact ⟨slot, _, Or.inr (Or.inl ht)⟩
    · exact ⟨slot, _, Or.inr (Or.inr ht)⟩
  · rintro ⟨slot, t, ht⟩
    have hsome : ((a.awaited slot).map Tag.ticket).isSome = true := by
      rw [awaited_ticket, Option.isSome_or, Option.isSome_or]
      rcases ht with ht | ht | ht <;> simp [ht]
    obtain ⟨tag, hw⟩ := Option.isSome_iff_exists.mp (Option.isSome_map.symm.trans hsome)
    exact isBusy_of_awaited h hw

end Assistant

theorem Session.consistent_final (ops : List Session.Op) :
    Session.Consistent (Session.component.final {} ops) :=
  Session.component.final_induction consistent_start (fun _ op h => h.effect op) ops

theorem Browser.consistent_final (ops : List Browser.Op) :
    Browser.Consistent (Browser.component.final {} ops) :=
  Browser.component.final_induction consistent_start (fun _ op h => h.effect op) ops

theorem IndexPanel.consistent_final (ops : List IndexPanel.Op) :
    IndexPanel.Consistent (IndexPanel.component.final {} ops) :=
  IndexPanel.component.final_induction consistent_start (fun _ op h => h.effect op) ops

/-- **The screen does not contradict itself**, after any runs of the three components, whatever
tickets, paths and outcomes their events carry.  In each slot for one call at a time a ticket is in
flight exactly while the outcome is pending; in the listing exactly while the status is, and it has
a directory exactly if it has a status.  What a slot waits for was issued by its component, and no
other slot waits for it.  So the screen is busy exactly while one of the seven slots waits; it shows
a pending answer to a debug or plan request exactly while the call is in flight, a running index
exactly beside the line that says so, and a failed listing only if none is in flight. -/
theorem screen_consistent (sessionOps : List Session.Op) (browserOps : List Browser.Op)
    (panelOps : List IndexPanel.Op) :
    let s : Session := Session.component.final {} sessionOps
    let b : Browser := Browser.component.final {} browserOps
    let p : IndexPanel := IndexPanel.component.final {} panelOps
    let screen := Screen.compose b s p
    ((s.debug.inFlight.isSome = true ↔ s.debug.outcome = some .pending) ∧
      (s.plan.inFlight.isSome = true ↔ s.plan.outcome = some .pending) ∧
      (p.trigger.inFlight.isSome = true ↔ p.trigger.outcome = some .pending) ∧
      (p.stats.inFlight.isSome = true ↔ p.stats.outcome = some .pending) ∧
      (b.listing.inFlight.isSome = true ↔ b.listing.status = some .pending) ∧
      (b.listing.directory.isSome = true ↔ b.listing.status.isSome = true)) ∧
    ((∀ slot t, s.awaited slot = some t →
        t ∈ Session.component.issued {} sessionOps ∧
          ∀ slot', s.awaited slot' = some t → slot' = slot) ∧
      (∀ slot t, b.awaited slot = some t →
        t ∈ Browser.component.issued {} browserOps ∧
          ∀ slot', b.awaited slot' = some t → slot' = slot) ∧
      (∀ slot t, p.awaited slot = some t →
        t ∈ IndexPanel.component.issued {} panelOps ∧
          ∀ slot', p.awaited slot' = some t → slot' = slot)) ∧
    (screen.isBusy = true ↔
      ∃ slot t, s.awaited slot = some t ∨ b.awaited slot = some t ∨ p.awaited slot = some t) ∧
    (screen.debug = some .pending ↔ s.debug.inFlight.isSome = true) ∧
    (screen.plan = some .pending ↔ s.plan.inFlight.isSome = true) ∧
    (screen.indexRunning = true ↔
      screen.indexStatus = some ⟨.info, IndexPanel.indexingMessage⟩) ∧
    (∀ failure, screen.listingError = some failure →
      b.listing.inFlight = none ∧ screen.listingLoading = false) := by
  intro s b p screen
  have hs : s.Consistent := Session.consistent_final sessionOps
  have hb : b.Consistent := Browser.consistent_final browserOps
  have hp : p.Consistent := IndexPanel.consistent_final panelOps
  refine ⟨⟨hs.debug.iff_pending, hs.plan.iff_pending, hp.trigger.iff_pending,
    hp.stats.iff_pending, hb.pending, hb.directory⟩,
    ⟨fun _ _ => Session.component.awaited_final, fun _ _ => Browser.component.awaited_final,
      fun _ _ => IndexPanel.component.awaited_final⟩,
    ?_, hs.debug.iff_pending.symm, hs.plan.iff_pending.symm, hp.statusLine?_iff, ?_⟩
  · exact Assistant.isBusy_iff (a := { session := s, browser := b, panel := p }) ⟨hs, hp⟩
  · intro failure hf
    have hnone := hb.inFlight_eq_none_of_error hf
    exact ⟨hnone, by simp [screen, Screen.compose, Listing.isPending, hnone]⟩

end CodeAssistant
