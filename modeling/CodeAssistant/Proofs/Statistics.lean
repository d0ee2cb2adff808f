/-
# The statistics that came last

The panel shows one value that two slots write: a refresh writes what it brings, an index run what
it reports, if that is an object.  Beside the panel stands the list of the events that it applied.
`Brings` says of one event, without a look at the panel, which statistics it brings, and then the
value shown is what the last event of the list that brings any has brought (`Log.lastStats_run`).

A step lemma carries this over every run (`Log.Shows.step`): a step either leaves list and value
alone, or it enters one event, and then the value is the event's if there is one.  Nothing but an
event that its slot waits for enters the list, and none that carries a ticket of the list ever does
again.

Main statement: `lastStats_latest`.
-/
import CodeAssistant.Proofs.Tickets

namespace CodeAssistant

theorem Component.applied_cons (c : Component) (s : c.State) (op : c.Op) (ops : List c.Op) :
    c.applied s (op :: ops) =
      (c.step s op).1.applied?.toList ++ c.applied (c.step s op).2 ops := by
  simp only [Component.applied, Component.effects, List.filterMap_cons]
  cases (c.step s op).1.applied? <;> rfl

namespace IndexPanel

/-! ## 1. What an event brings -/

/-- The event brings statistics: a refresh that ended well its own, a run that ended well those that
it reports, if they are an object. -/
inductive Brings : Event → IndexStats → Prop
  | run {t : Ticket} {response : IndexTriggerResponse} : response.stats.tree.isObject = true →
      Brings (.trigger t (.success response)) ⟨response.stats⟩
  | refresh {t : Ticket} {stats : IndexStats} : Brings (.stats t (.success stats)) stats

namespace Event

/-- The slot that the event is for. -/
def slot : Event → Slot
  | trigger _ _ => .index
  | stats _ _ => .indexStats

/-- The statistics that the panel writes when it applies the event. -/
def brought? : Event → Option IndexStats
  | trigger _ outcome => statsOfRun? outcome
  | stats _ outcome => outcome.value?

end Event

theorem brings_iff {event : Event} {stats : IndexStats} :
    Brings event stats ↔ event.brought? = some stats := by
  constructor
  · rintro (ho | _)
    · simp [Event.brought?, statsOfRun?, ho]
    · rfl
  · intro h
    cases event with
    | trigger t outcome =>
      cases outcome with
      | success response =>
        simp only [Event.brought?, statsOfRun?] at h
        split at h
        · rename_i ho
          obtain rfl := Option.some.inj h
          exact .run ho
        · exact absurd h (by simp)
      | pending => exact absurd h (by simp [Event.brought?, statsOfRun?])
      | failure failure => exact absurd h (by simp [Event.brought?, statsOfRun?])
    | stats t outcome =>
      cases outcome with
      | success stats' =>
        obtain rfl := Option.some.inj h
        exact .refresh
      | pending => exact absurd h (by simp [Event.brought?, Outcome.value?])
      | failure failure => exact absurd h (by simp [Event.brought?, Outcome.value?])

theorem brought?_eq_none {event : Event} (h : ¬ ∃ stats, Brings event stats) :
    event.brought? = none := by
  simpa only [brings_iff, ← Option.ne_none_iff_exists', not_not] using h

/-- **What an event does to the panel**: if its slot waits for it and it is an end, the slot waits
no more and what the event brings is shown; if not, nothing changes. -/
theorem apply_cases (p : IndexPanel) (event : Event) :
    ((p.apply event).1 = true ∧ p.awaited event.slot = some event.ticket ∧
        (p.apply event).2.lastStats = event.brought?.or p.lastStats) ∨
      p.apply event = (false, p) := by
  cases event with
  | trigger t outcome =>
    rw [apply_trigger_eq]
    split
    · rename_i h
      exact Or.inl ⟨rfl, h.1, rfl⟩
    · exact Or.inr rfl
  | stats t outcome =>
    rw [apply_stats_eq]
    split
    · rename_i h
      exact Or.inl ⟨rfl, h.1, rfl⟩
    · exact Or.inr rfl

theorem lastStats_apply_of_brings {p : IndexPanel} {event : Event} {stats : IndexStats}
    (hw : p.awaited event.slot = some event.ticket) (hb : Brings event stats) :
    (p.apply event).2.lastStats = some stats := by
  cases hb with
  | @run t response ho =>
    rw [apply_trigger_eq, if_pos ⟨hw, rfl⟩]
    simp [endRun, statsOfRun?, ho]
  | @refresh t =>
    rw [apply_stats_eq, if_pos ⟨hw, rfl⟩]
    rfl

/-- No action writes statistics, be it accepted or rejected. -/
theorem lastStats_triggerRun (p : IndexPanel) (path : String) :
    (p.triggerRun path).state.lastStats = p.lastStats := by
  rcases p.triggerRun_cases path with ⟨reason, h⟩ | ⟨-, h⟩ | h <;> rw [h] <;> rfl

theorem lastStats_refreshStats (p : IndexPanel) :
    p.refreshStats.state.lastStats = p.lastStats := by
  rcases p.refreshStats_cases with ⟨reason, h⟩ | h <;> rw [h] <;> rfl

/-! ## 2. Runs -/

/-- A panel and the events that it applied, in order. -/
structure Log where
  panel : IndexPanel := {}
  applied : List Event := []

namespace Log

/-- Carries out an operation.  An event is entered if the panel says that it was applied. -/
def step (l : Log) : Op → Log
  | .triggerRun path => { l with panel := (l.panel.triggerRun path).state }
  | .refreshStats => { l with panel := l.panel.refreshStats.state }
  | .apply event =>
    let r := l.panel.apply event
    { panel := r.2, applied := if r.1 then l.applied ++ [event] else l.applied }

/-- The log of a run. -/
def run (ops : List Op) : Log := ops.foldl step {}

theorem run_append (ops : List Op) (op : Op) : run (ops ++ [op]) = (run ops).step op :=
  List.foldl_concat ..

theorem step_apply_eq_self {l : Log} {event : Event} (h : l.panel.apply event = (false, l.panel)) :
    l.step (.apply event) = l := by
  simp only [step, h]
  rfl

/-- What the events of the log brought last is shown. -/
def Shows (l : Log) : Prop :=
  l.panel.lastStats = (l.applied.filterMap Event.brought?).getLast?

/-- **A step shows what came last.** -/
theorem Shows.step {l : Log} (h : l.Shows) (op : Op) : (l.step op).Shows := by
  cases op with
  | triggerRun path => exact (l.panel.lastStats_triggerRun path).trans h
  | refreshStats => exact l.panel.lastStats_refreshStats.trans h
  | apply event =>
    rcases l.panel.apply_cases event with ⟨happlied, -, hstats⟩ | hleft
    · rw [Shows] at h
      simp only [Shows, Log.step, if_pos happlied, hstats, List.filterMap_append,
        List.getLast?_append, h]
      cases hb : event.brought? <;> simp [hb]
    · rw [step_apply_eq_self hleft]
      exact h

theorem lastStats_run (ops : List Op) : (run ops).Shows := by
  induction ops using List.reverseRecOn with
  | nil => rfl
  | append_singleton ops op ih =>
    rw [run_append]
    exact ih.step op

theorem Shows.eq_some_iff {l : Log} (h : l.Shows) {stats : IndexStats} :
    l.panel.lastStats = some stats ↔
      ∃ earlier event later, l.applied = earlier ++ event :: later ∧ Brings event stats ∧
        ∀ event' ∈ later, ¬ ∃ stats', Brings event' stats' := by
  rw [Shows] at h
  rw [h, List.getLast?_eq_some_iff]
  constructor
  · rintro ⟨before, hb⟩
    obtain ⟨left, right, hl, -, hr⟩ := List.filterMap_eq_append_iff.mp hb
    obtain ⟨between, event, later, rfl, -, he, hnil⟩ := List.filterMap_eq_cons_iff.mp hr
    refine ⟨left ++ between, event, later, by simp [hl], brings_iff.mpr he, ?_⟩
    rintro event' hmem ⟨stats', hs⟩
    have hnone := List.filterMap_eq_nil_iff.mp hnil event' hmem
    exact absurd ((brings_iff.mp hs).symm.trans hnone) (by simp)
  · rintro ⟨earlier, event, later, hl, he, hlater⟩
    refine ⟨earlier.filterMap Event.brought?, ?_⟩
    have hnil : later.filterMap Event.brought? = [] :=
      List.filterMap_eq_nil_iff.mpr fun event' hmem => brought?_eq_none (hlater event' hmem)
    simp [hl, brings_iff.mp he, hnil]

theorem Shows.eq_none_iff {l : Log} (h : l.Shows) :
    l.panel.lastStats = none ↔ ∀ event ∈ l.applied, ¬ ∃ stats, Brings event stats := by
  rw [Shows] at h
  rw [h, List.getLast?_eq_none_iff, List.filterMap_eq_nil_iff]
  refine forall₂_congr fun event _ => ⟨?_, brought?_eq_none⟩
  rintro hnone ⟨stats, hs⟩
  exact absurd ((brings_iff.mp hs).symm.trans hnone) (by simp)

/-- An event that brings nothing leaves what is shown. -/
theorem lastStats_step_apply {l : Log} {event : Event} (h : ¬ ∃ stats, Brings event stats) :
    (l.step (.apply event)).panel.lastStats = l.panel.lastStats := by
  rcases l.panel.apply_cases event with ⟨-, -, hstats⟩ | hleft
  · rw [brought?_eq_none h] at hstats
    exact hstats
  · rw [step_apply_eq_self hleft]

/-- An event that its slot does not wait for leaves everything. -/
theorem step_stale {l : Log} {event : Event}
    (h : l.panel.awaited event.slot ≠ some event.ticket) : l.step (.apply event) = l := by
  rcases l.panel.apply_cases event with ⟨-, ht, -⟩ | hleft
  · exact absurd ht h
  · exact step_apply_eq_self hleft

/-! ## 3. What was applied is spent -/

/-- A step enters the ticket that the component applies, if any. -/
theorem tickets_step (l : Log) (op : Op) :
    (l.step op).applied.map Event.ticket =
      l.applied.map Event.ticket ++ (l.panel.effect op).1.applied?.toList := by
  have hattempt : ∀ {ρ : Type} (a : Attempt IndexPanel ρ), a.effect.applied? = none := by
    intro ρ a
    unfold Attempt.effect
    split <;> rfl
  cases op with
  | triggerRun path => simp [step, effect, hattempt]
  | refreshStats => simp [step, effect, hattempt]
  | apply event =>
    rcases ha : l.panel.apply event with ⟨_ | _, p⟩ <;>
      simp [step, effect, ha, Effect.ofEvent, Effect.applied?]

theorem tickets_foldl : ∀ (ops : List Op) (l : Log),
    (ops.foldl step l).applied.map Event.ticket =
      l.applied.map Event.ticket ++ component.applied l.panel ops
  | [], _ => (List.append_nil _).symm
  | op :: ops, l => by
    have hstep : (l.step op).panel = (l.panel.effect op).2 := by cases op <;> rfl
    rw [List.foldl_cons, tickets_foldl ops (l.step op), tickets_step, hstep, List.append_assoc]
    exact congrArg _ (component.applied_cons l.panel op ops).symm

/-- The tickets entered are those that the component applies, so no two are equal. -/
theorem nodup_tickets (ops : List Op) : ((run ops).applied.map Event.ticket).Nodup := by
  have h := tickets_foldl ops {}
  rw [run, h]
  exact component.nodup_applied component.soundAt_start ops

/-- An event with a ticket of the log is not applied. -/
theorem step_duplicate (ops : List Op) {earlier event : Event} (h : earlier ∈ (run ops).applied)
    (ht : event.ticket = earlier.ticket) : (run ops).step (.apply event) = run ops := by
  rcases (run ops).panel.apply_cases event with ⟨happlied, -, -⟩ | hleft
  · have hnodup := nodup_tickets (ops ++ [.apply event])
    rw [run_append, Log.step, if_pos happlied, List.map_append, List.nodup_append] at hnodup
    refine absurd ht.symm (hnodup.2.2 _ (List.mem_map_of_mem h) _ ?_)
    simp
  · exact step_apply_eq_self hleft

end Log

/-- **The panel shows the statistics that came last**, after any run, whatever tickets and outcomes
its events carry: those that the last applied event that brings any has brought, and none if there
was no such event.  An event that its slot waits for is shown if it brings statistics.  Nothing else
changes what is shown: no action, no event that brings nothing (a failure, an open outcome, a run
whose statistics are no object), none that its slot does not wait for, and none with a ticket that
was applied before. -/
theorem lastStats_latest (ops : List Op) :
    let l := Log.run ops
    (∀ stats, l.panel.lastStats = some stats ↔
      ∃ earlier event later, l.applied = earlier ++ event :: later ∧ Brings event stats ∧
        ∀ event' ∈ later, ¬ ∃ stats', Brings event' stats') ∧
    (l.panel.lastStats = none ↔ ∀ event ∈ l.applied, ¬ ∃ stats, Brings event stats) ∧
    (∀ event stats, l.panel.awaited event.slot = some event.ticket → Brings event stats →
      (l.step (.apply event)).panel.lastStats = some stats) ∧
    (∀ path, (l.step (.triggerRun path)).panel.lastStats = l.panel.lastStats) ∧
    (l.step .refreshStats).panel.lastStats = l.panel.lastStats ∧
    (∀ event, (¬ ∃ stats, Brings event stats) →
      (l.step (.apply event)).panel.lastStats = l.panel.lastStats) ∧
    (∀ event, l.panel.awaited event.slot ≠ some event.ticket → l.step (.apply event) = l) ∧
    (∀ earlier ∈ l.applied, ∀ event, event.ticket = earlier.ticket →
      l.step (.apply event) = l) := by
  intro l
  have hshows : l.Shows := Log.lastStats_run ops
  exact ⟨fun stats => hshows.eq_some_iff, hshows.eq_none_iff,
    fun event stats => lastStats_apply_of_brings, l.panel.lastStats_triggerRun,
    l.panel.lastStats_refreshStats, fun event => Log.lastStats_step_apply,
    fun event => Log.step_stale, fun earlier he event => Log.step_duplicate ops he⟩

/-- A refresh ends well.  The run after it reports no object, and a second end of the refresh comes
too late. -/
example :
    (Log.run
      [.refreshStats, .apply (.stats ⟨0, 1⟩ (.success ⟨.ofTree (.bool true)⟩)), .triggerRun "src",
        .apply (.trigger ⟨0, 2⟩ (.success ⟨"done", .null⟩)),
        .apply (.stats ⟨0, 1⟩ (.success ⟨.null⟩))]).panel.lastStats =
      some ⟨.ofTree (.bool true)⟩ := rfl

end IndexPanel
end CodeAssistant
