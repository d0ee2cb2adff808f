/-
# The order of outcomes does not matter

Calls end in any order, and their outcomes are applied in the order in which they arrive.  Where
that leads is settled by the state in which applying begins: whether an outcome is taken is seen
there (`report`), because no two calls share component and ticket and so no outcome can answer, or
put off, what another call is awaited for.  What is taken is at most one outcome for each slot,
and slots are written apart from each other.

There is one exception.  The statistics that the panel shows last are written by two slots, so of
an index run and a refresh that both bring statistics the later one is shown.

Main statement: `settling_confluent`.
-/
import CodeAssistant.Proofs.Accounts

namespace CodeAssistant

open scoped List

/-- The statistics that an arrival brings to the panel. -/
def Arrival.stats? : Arrival → Option IndexStats
  | ⟨⟨.index, _, _⟩, outcome⟩ => IndexPanel.statsOfRun? outcome
  | ⟨⟨.indexStats, _, _⟩, outcome⟩ => outcome.value?
  | ⟨⟨.chat, _, _⟩, _⟩ | ⟨⟨.debug, _, _⟩, _⟩ | ⟨⟨.plan, _, _⟩, _⟩ => none
  | ⟨⟨.listing, _, _⟩, _⟩ | ⟨⟨.content, _, _⟩, _⟩ => none

/-- Only a run that reports an object and a refresh that ends well bring statistics. -/
theorem Arrival.stats?_eq_some {x : Arrival} {stats : IndexStats} (h : x.stats? = some stats) :
    (∃ t request response, x = ⟨⟨.index, t, request⟩, .success response⟩ ∧
      response.stats.tree.isObject = true ∧ stats = ⟨response.stats⟩) ∨
    (∃ t, x = ⟨⟨.indexStats, t, ()⟩, .success stats⟩) := by
  obtain ⟨⟨slot, t, request⟩, outcome⟩ := x
  cases slot with
  | index =>
    cases outcome with
    | success response =>
      simp only [stats?, IndexPanel.statsOfRun?] at h
      split at h
      · rename_i ho
        exact Or.inl ⟨t, request, response, rfl, ho, (Option.some.inj h).symm⟩
      · exact absurd h (by simp)
    | pending => exact absurd h (by simp [stats?, IndexPanel.statsOfRun?])
    | failure f => exact absurd h (by simp [stats?, IndexPanel.statsOfRun?])
  | indexStats =>
    cases outcome with
    | success stats' => exact Or.inr ⟨t, by rw [Option.some.inj h]⟩
    | pending => exact absurd h (by simp [stats?, Outcome.value?])
    | failure f => exact absurd h (by simp [stats?, Outcome.value?])
  | _ => exact absurd h (by simp [stats?])

namespace Assistant

/-! ## 1. What is taken is seen at the beginning -/

/-- What is reported of an arrival that is applied now. -/
def report (a : Assistant) (x : Arrival) : Report := ⟨x.call.slot, decide (a.Takes x)⟩

/-- Outcomes are written in order. -/
def writeAll (a : Assistant) (xs : List Arrival) : Assistant := xs.foldl write a

theorem write_inFlight (a : Assistant) (n : Nat) (x : Arrival) :
    { a with inFlight := n }.write x = { a.write x with inFlight := n } := by
  obtain ⟨⟨slot, t, request⟩, outcome⟩ := x
  cases slot <;> rfl

theorem writeAll_inFlight (xs : List Arrival) : ∀ (a : Assistant) (n : Nat),
    { a with inFlight := n }.writeAll xs = { a.writeAll xs with inFlight := n } := by
  induction xs with
  | nil => exact fun _ _ => rfl
  | cons x xs ih =>
    intro a n
    simp only [writeAll, List.foldl_cons, write_inFlight] at ih ⊢
    exact ih (a.write x) n

/-- **Applying one outcome decides nothing about another.**  If the slot is the same one, it waits
for one of the two calls at most. -/
theorem takes_take {a : Assistant} {x y : Arrival} (hk : y.call.key ≠ x.call.key) :
    (a.take x).2.Takes y ↔ a.Takes y := by
  rw [Takes, Takes, (taken_take a x).awaited]
  split
  · rename_i h
    obtain ⟨hx, hs⟩ := h
    constructor
    · exact fun hy => absurd hy.1 (by simp)
    · intro hy
      rw [hs, hx.1] at hy
      have ht : x.call.tag = y.call.tag := Option.some.inj hy.1
      have : y.call.key = x.call.key := by
        rw [Call.key, Call.key, hs]
        exact congrArg (Prod.mk _) (congrArg Tag.ticket ht).symm
      exact absurd this hk
  · exact Iff.rfl

/-- **What applying outcomes comes to**: those that are taken at the beginning are written. -/
theorem takeAll_eq {xs : List Arrival} (hd : (xs.map (·.call.key)).Nodup) : ∀ a : Assistant,
    a.takeAll xs =
      (xs.map a.report,
        { a.writeAll (xs.filter (a.Takes ·)) with inFlight := a.inFlight - xs.length }) := by
  induction xs with
  | nil => exact fun _ => rfl
  | cons x xs ih =>
    intro a
    rw [List.map_cons, List.nodup_cons] at hd
    have hne : ∀ y ∈ xs, y.call.key ≠ x.call.key := by
      intro y hy hk
      exact hd.1 (hk ▸ List.mem_map_of_mem hy)
    have hfilter : xs.filter ((a.take x).2.Takes ·) = xs.filter (a.Takes ·) :=
      List.filter_congr fun y hy => by simp only [takes_take (hne y hy)]
    have hreport : xs.map (a.take x).2.report = xs.map a.report :=
      List.map_congr_left fun y hy => by simp only [report, takes_take (hne y hy)]
    have hn : a.inFlight - 1 - xs.length = a.inFlight - (xs.length + 1) := by omega
    simp only [takeAll, ih hd.2, hfilter, hreport, List.map_cons, List.length_cons]
    by_cases hx : a.Takes x
    · simp only [take_eq_of_takes hx, writeAll_inFlight, hn]
      rw [List.filter_cons_of_pos (by simpa using hx)]
      simp [report, hx, writeAll]
    · simp only [take_eq_of_not_takes hx, writeAll_inFlight, hn]
      rw [List.filter_cons_of_neg (by simpa using hx)]
      simp [report, hx]

/-- Two arrivals that are both taken are of different slots, or they are the same. -/
theorem eq_of_takes_of_slot_eq {a : Assistant} {xs : List Arrival}
    (hd : (xs.map (·.call.key)).Nodup) {x y : Arrival} (hx : x ∈ xs) (hy : y ∈ xs)
    (tx : a.Takes x) (ty : a.Takes y) (hs : x.call.slot = y.call.slot) : x = y := by
  have ht : x.call.tag = y.call.tag := by
    have h := tx.1
    rw [hs, ty.1] at h
    exact (Option.some.inj h).symm
  have hk : x.call.key = y.call.key := by
    rw [Call.key, Call.key, hs]
    exact congrArg (Prod.mk _) (congrArg Tag.ticket ht)
  exact List.inj_on_of_nodup_map hd hx hy hk

/-! ## 2. Slots are written apart from each other -/

/-- The assistant but for the statistics that came last. -/
def withoutStats (a : Assistant) : Assistant := { a with panel := { a.panel with lastStats := none } }

/-- The statistics that came last are never read. -/
theorem withoutStats_write (a : Assistant) (x : Arrival) :
    (a.withoutStats.write x).withoutStats = (a.write x).withoutStats := by
  obtain ⟨⟨slot, t, request⟩, outcome⟩ := x
  cases slot <;> rfl

theorem withoutStats_write_comm (a : Assistant) {x y : Arrival} (h : x.call.slot ≠ y.call.slot) :
    ((a.write x).write y).withoutStats = ((a.write y).write x).withoutStats := by
  obtain ⟨⟨sx, tx, rx⟩, ox⟩ := x
  obtain ⟨⟨sy, ty, ry⟩, oy⟩ := y
  cases sx <;> cases sy <;> first | rfl | exact absurd rfl h

theorem withoutStats_writeAll (xs : List Arrival) : ∀ a : Assistant,
    (a.writeAll xs).withoutStats =
      xs.foldl (fun b x => (b.write x).withoutStats) a.withoutStats := by
  induction xs with
  | nil => exact fun _ => rfl
  | cons x xs ih =>
    intro a
    rw [List.foldl_cons, withoutStats_write, ← ih (a.write x)]
    rfl

/-- Arrivals of different slots may be written in any order. -/
theorem withoutStats_writeAll_perm {xs ys : List Arrival} (hp : xs ~ ys)
    (hs : ∀ x ∈ xs, ∀ y ∈ xs, x.call.slot = y.call.slot → x = y) (a : Assistant) :
    (a.writeAll xs).withoutStats = (a.writeAll ys).withoutStats := by
  rw [withoutStats_writeAll, withoutStats_writeAll]
  refine hp.foldl_eq' ?_ _
  intro x hx y hy b
  rw [withoutStats_write, withoutStats_write]
  by_cases h : x.call.slot = y.call.slot
  · rw [hs x hx y hy h]
  · exact withoutStats_write_comm b h

/-! ## 3. The statistics that came last -/

theorem lastStats_write (a : Assistant) (x : Arrival) :
    (a.write x).panel.lastStats = x.stats?.or a.panel.lastStats := by
  obtain ⟨⟨slot, t, request⟩, outcome⟩ := x
  cases slot <;> rfl

/-- What is written last is shown. -/
theorem lastStats_writeAll (xs : List Arrival) : ∀ a : Assistant,
    (a.writeAll xs).panel.lastStats =
      (xs.filterMap Arrival.stats?).getLast?.or a.panel.lastStats := by
  induction xs with
  | nil => exact fun _ => rfl
  | cons x xs ih =>
    intro a
    have h := ih (a.write x)
    rw [lastStats_write] at h
    rw [List.filterMap_cons]
    cases hx : x.stats? with
    | none =>
      rw [hx] at h
      exact h
    | some stats =>
      rw [hx] at h
      rw [List.getLast?_cons]
      refine h.trans ?_
      cases (xs.filterMap Arrival.stats?).getLast? <;> rfl

/-- The arrivals that are taken and bring statistics. -/
def suppliers (a : Assistant) (xs : List Arrival) : List Arrival :=
  (xs.filter (a.Takes ·)).filter (·.stats?.isSome)

theorem mem_suppliers {a : Assistant} {xs : List Arrival} {x : Arrival} :
    x ∈ a.suppliers xs ↔ x ∈ xs ∧ a.Takes x ∧ ∃ stats, x.stats? = some stats := by
  rw [suppliers, List.mem_filter, List.mem_filter, decide_eq_true_iff, Option.isSome_iff_exists,
    and_assoc]

theorem filterMap_suppliers (a : Assistant) (xs : List Arrival) :
    (a.suppliers xs).filterMap Arrival.stats? =
      (xs.filter (a.Takes ·)).filterMap Arrival.stats? := by
  rw [suppliers, List.filterMap_filter]
  refine List.filterMap_congr fun x _ => ?_
  cases x.stats? <;> rfl

theorem slot_of_mem_suppliers {a : Assistant} {xs : List Arrival} {x : Arrival}
    (h : x ∈ a.suppliers xs) : x.call.slot ∈ [Slot.index, .indexStats] := by
  obtain ⟨-, -, stats, hs⟩ := mem_suppliers.mp h
  rcases Arrival.stats?_eq_some hs with ⟨t, request, response, rfl, -, -⟩ | ⟨t, rfl⟩
  · exact List.mem_cons_self
  · exact List.mem_cons_of_mem _ List.mem_cons_self

section Suppliers

variable {a : Assistant} {xs ys : List Arrival}

theorem nodup_slot_suppliers (hd : (xs.map (·.call.key)).Nodup) :
    ((a.suppliers xs).map (·.call.slot)).Nodup := by
  have hn : (a.suppliers xs).Nodup := ((List.Nodup.of_map _ hd).filter _).filter _
  refine hn.map_on fun x hx y hy hs => ?_
  rw [mem_suppliers] at hx hy
  exact eq_of_takes_of_slot_eq hd hx.1 hy.1 hx.2.1 hy.2.1 hs

theorem length_suppliers_le (hd : (xs.map (·.call.key)).Nodup) : (a.suppliers xs).length ≤ 2 := by
  have hsub : (a.suppliers xs).map (·.call.slot) ⊆ [Slot.index, .indexStats] := by
    intro s hs
    obtain ⟨x, hx, rfl⟩ := List.mem_map.mp hs
    exact slot_of_mem_suppliers hx
  have := (List.subperm_of_subset (nodup_slot_suppliers hd) hsub).length_le
  simpa using this

/-- Where the order shows, two slots bring statistics. -/
theorem exists_suppliers_of_ne (hp : xs ~ ys) (hd : (xs.map (·.call.key)).Nodup)
    (hne : a.suppliers xs ≠ a.suppliers ys) :
    ∃ x ∈ a.suppliers xs, ∃ y ∈ a.suppliers xs, x.call.slot = .index ∧
      y.call.slot = .indexStats := by
  have hps : a.suppliers xs ~ a.suppliers ys := (hp.filter _).filter _
  have hn := nodup_slot_suppliers (a := a) hd
  have hm : ∀ z ∈ a.suppliers xs, z.call.slot ∈ [Slot.index, .indexStats] :=
    fun z hz => slot_of_mem_suppliers hz
  match hxs : a.suppliers xs with
  | [] =>
    rw [hxs] at hps hne
    exact absurd hps.nil_eq hne
  | [x] =>
    rw [hxs] at hps hne
    exact absurd hps.singleton_eq hne
  | x :: y :: rest =>
    rw [hxs] at hn hm
    have hxy : x.call.slot ≠ y.call.slot := by
      intro h
      simp [h] at hn
    have hx := hm x (by simp)
    have hy := hm y (by simp)
    simp only [List.mem_cons, List.not_mem_nil, or_false] at hx hy
    rcases hx with hx | hx <;> rcases hy with hy | hy
    · exact absurd (hx.trans hy.symm) hxy
    · exact ⟨x, by simp, y, by simp, hx, hy⟩
    · exact ⟨y, by simp, x, by simp, hy, hx⟩
    · exact absurd (hx.trans hy.symm) hxy

/-- Two arrivals that bring statistics are all that do. -/
theorem suppliers_eq_pair (hd : (xs.map (·.call.key)).Nodup) {x y : Arrival}
    (hx : x ∈ a.suppliers xs) (hy : y ∈ a.suppliers xs) (h : [x, y] <+ xs) :
    a.suppliers xs = [x, y] := by
  rw [mem_suppliers] at hx hy
  obtain ⟨-, tx, sx, hsx⟩ := hx
  obtain ⟨-, ty, sy, hsy⟩ := hy
  have hs : [x, y] <+ a.suppliers xs := by
    have := (h.filter (a.Takes ·)).filter (·.stats?.isSome)
    simpa [suppliers, tx, ty, hsx, hsy] using this
  exact (hs.eq_of_length_le (length_suppliers_le hd)).symm

end Suppliers

/-! ## 4. Settling applies outcomes in some order -/

theorem takeAll_requeue (running : List Call) (arrived : List Arrival) (xs : List Arrival) :
    ∀ a : Assistant, { a with running, arrived }.takeAll xs =
      ((a.takeAll xs).1, { (a.takeAll xs).2 with running, arrived }) := by
  induction xs with
  | nil => exact fun _ => rfl
  | cons x xs ih =>
    intro a
    simp only [takeAll, take_requeue, ih]

/-- Whatever the schedule of settling, it comes to applying the outcomes of its log in order. -/
theorem takeAll_of_settles {a b : Assistant} {log : List (Arrival × Report)}
    (h : Settles a log b) :
    a.takeAll (log.map Prod.fst) =
      (log.map Prod.snd, { b with running := a.running, arrived := a.arrived }) := by
  induction h with
  | done _ => rfl
  | @finish a b log g place _ _ ih =>
    have ha : a = { a.finish g place with running := a.running, arrived := a.arrived } := by
      unfold finish
      split <;> rfl
    have h := takeAll_requeue a.running a.arrived (log.map Prod.fst) (a.finish g place)
    rw [← ha, ih] at h
    exact h
  | @next a a' b log x r hx hn _ ih =>
    obtain ⟨rest, hq⟩ := List.head?_eq_some_iff.mp hx
    have ha' : { a with arrived := rest }.take x = (r, a') := by
      unfold nextEvent at hn
      split at hn
      · exact absurd (congrArg Prod.fst hn) (by simp)
      · rw [hq] at hn
        simp only [Prod.mk.injEq, Next.report.injEq] at hn
        exact Prod.ext hn.1 hn.2
    have hb := taken_take a x
    have ht := take_requeue a a.running rest x
    rw [ha', Prod.mk.injEq] at ht
    have h := takeAll_requeue a.running a.arrived (log.map Prod.fst) a'
    rw [ih] at h
    have hnext : (a.take x).2 = { a' with running := a.running, arrived := a.arrived } := by
      rw [ht.2, ← hb.running, ← hb.arrived]
    simp only [List.map_cons, takeAll, hnext, h, ht.1]

/-- Settling takes its outcomes from the calls that are not applied, and from each of them one. -/
theorem Accounts.settles_perm {l : Ledger} (h : Accounts l) {log : List (Arrival × Report)}
    {b : Assistant} (hs : Settles l.assistant log b) :
    log.map (·.1.call) ~ l.assistant.unapplied :=
  (List.perm_append_left_iff l.heard).mp ((h.settled hs).2.2.1.trans h.balance.symm)

/-! ## 5. Confluence -/

/-- `run` ends the index run in flight and `refresh` the refresh in flight, and both bring
statistics. -/
inductive Rivals (a : Assistant) : Arrival → Arrival → Prop
  | intro {t u : Ticket} {request : IndexRequest} {response : IndexTriggerResponse}
      {stats : IndexStats} : a.panel.trigger.inFlight = some t →
      response.stats.tree.isObject = true → a.panel.stats.inFlight = some u →
      Rivals a ⟨⟨.index, t, request⟩, .success response⟩ ⟨⟨.indexStats, u, ()⟩, .success stats⟩

/-- Rivals are what two suppliers of different slots are. -/
theorem rivals_of_mem_suppliers {a : Assistant} {xs : List Arrival} {x y : Arrival}
    (hx : x ∈ a.suppliers xs) (hy : y ∈ a.suppliers xs) (sx : x.call.slot = .index)
    (sy : y.call.slot = .indexStats) : Rivals a x y := by
  obtain ⟨-, tx, statsx, hsx⟩ := mem_suppliers.mp hx
  obtain ⟨-, ty, statsy, hsy⟩ := mem_suppliers.mp hy
  rcases Arrival.stats?_eq_some hsx with ⟨t, request, response, rfl, ho, -⟩ | ⟨t, rfl⟩
  · rcases Arrival.stats?_eq_some hsy with ⟨u, request', response', rfl, -, -⟩ | ⟨u, rfl⟩
    · exact absurd sy (by simp)
    · exact .intro (takes_index.mp tx).1 ho (takes_indexStats.mp ty).1
  · exact absurd sx (by simp)

theorem Rivals.mem_suppliers {a : Assistant} {x y : Arrival} (h : Rivals a x y)
    {xs : List Arrival} (hx : x ∈ xs) (hy : y ∈ xs) :
    x ∈ a.suppliers xs ∧ y ∈ a.suppliers xs := by
  cases h with
  | @intro t u request response stats ht ho hu =>
    constructor
    · exact Assistant.mem_suppliers.mpr
        ⟨hx, takes_index.mpr ⟨ht, rfl⟩, ⟨response.stats⟩, if_pos ho⟩
    · exact Assistant.mem_suppliers.mpr ⟨hy, takes_indexStats.mpr ⟨hu, rfl⟩, stats, rfl⟩

section Orders

variable {a : Assistant} {xs ys : List Arrival}

theorem lastStats_takeAll (hd : (xs.map (·.call.key)).Nodup) :
    (a.takeAll xs).2.panel.lastStats =
      ((a.suppliers xs).filterMap Arrival.stats?).getLast?.or a.panel.lastStats := by
  rw [takeAll_eq hd, filterMap_suppliers]
  exact lastStats_writeAll _ a

theorem withoutStats_takeAll_perm (hd : (xs.map (·.call.key)).Nodup) (hp : xs ~ ys) :
    (a.takeAll xs).2.withoutStats = (a.takeAll ys).2.withoutStats := by
  have hd' : (ys.map (·.call.key)).Nodup := (hp.map _).nodup_iff.mp hd
  have hw : (a.writeAll (xs.filter (a.Takes ·))).withoutStats =
      (a.writeAll (ys.filter (a.Takes ·))).withoutStats := by
    refine withoutStats_writeAll_perm (hp.filter _) ?_ a
    intro x hx y hy hs
    rw [List.mem_filter, decide_eq_true_iff] at hx hy
    exact eq_of_takes_of_slot_eq hd hx.1 hy.1 hx.2 hy.2 hs
  rw [takeAll_eq hd, takeAll_eq hd', ← hp.length_eq]
  exact congrArg (fun b => { b with inFlight := a.inFlight - xs.length }) hw

/-- Where the order shows, there are rivals. -/
theorem exists_rivals_of_ne (hd : (xs.map (·.call.key)).Nodup) (hp : xs ~ ys)
    (hne : (a.takeAll xs).2.panel.lastStats ≠ (a.takeAll ys).2.panel.lastStats) :
    ∃ run ∈ xs, ∃ refresh ∈ xs, Rivals a run refresh := by
  have hd' : (ys.map (·.call.key)).Nodup := (hp.map _).nodup_iff.mp hd
  rw [lastStats_takeAll hd, lastStats_takeAll hd'] at hne
  obtain ⟨x, hx, y, hy, sx, sy⟩ := exists_suppliers_of_ne hp hd
    (a := a) fun h => hne (by rw [h])
  exact ⟨x, (mem_suppliers.mp hx).1, y, (mem_suppliers.mp hy).1,
    rivals_of_mem_suppliers hx hy sx sy⟩

/-- Of two arrivals that bring statistics the later one is shown. -/
theorem lastStats_takeAll_of_sublist (hd : (xs.map (·.call.key)).Nodup) {x y : Arrival}
    (hx : x ∈ a.suppliers xs) (hy : y ∈ a.suppliers xs) (h : [x, y] <+ xs) :
    (a.takeAll xs).2.panel.lastStats = y.stats? := by
  obtain ⟨-, -, sx, hsx⟩ := mem_suppliers.mp hx
  obtain ⟨-, -, sy, hsy⟩ := mem_suppliers.mp hy
  rw [lastStats_takeAll hd, suppliers_eq_pair hd hx hy h, hsy]
  simp [hsx, hsy]

end Orders

/-- **Settling is confluent.**  Let each call that is not applied end in some way, and apply the
outcomes in two orders.  Then session and browser come out the same, and so does the panel but for
the statistics that came last; and what is reported of an outcome does not depend on the order.
The statistics differ only if the run in flight and the refresh in flight both bring some, and
then the later ones are shown.

Every schedule of settling applies its outcomes in one of these orders. -/
theorem settling_confluent (moves : List Move) (hm : ∀ m ∈ moves, m.Resolves)
    (xs ys : List Arrival)
    (hx : xs.map Arrival.call ~ (Ledger.run moves).assistant.unapplied) (hp : xs ~ ys) :
    let a := (Ledger.run moves).assistant
    let r := a.takeAll xs
    let r' := a.takeAll ys
    r.2.session = r'.2.session ∧ r.2.browser = r'.2.browser ∧
    { r.2.panel with lastStats := none } = { r'.2.panel with lastStats := none } ∧
    r.1 = xs.map a.report ∧ r'.1 = ys.map a.report ∧
    (r.2.panel.lastStats ≠ r'.2.panel.lastStats →
      ∃ run ∈ xs, ∃ refresh ∈ xs, Rivals a run refresh) ∧
    (∀ run refresh, Rivals a run refresh →
      ([run, refresh] <+ xs → r.2.panel.lastStats = refresh.stats?) ∧
      ([refresh, run] <+ xs → r.2.panel.lastStats = run.stats?)) ∧
    (∀ log b, Settles a log b →
      log.map (·.1.call) ~ a.unapplied ∧
      a.takeAll (log.map Prod.fst) =
        (log.map Prod.snd, { b with running := a.running, arrived := a.arrived })) := by
  intro a r r'
  have h : Accounts (Ledger.run moves) := accounts_run hm
  have hd : (xs.map (·.call.key)).Nodup := by
    have := (hx.map Call.key).nodup_iff.mpr h.unapplied_distinct
    rwa [List.map_map] at this
  have hd' : (ys.map (·.call.key)).Nodup := (hp.map _).nodup_iff.mp hd
  have hw : r.2.withoutStats = r'.2.withoutStats := withoutStats_takeAll_perm hd hp
  have hsession : r.2.withoutStats.session = r'.2.withoutStats.session := by rw [hw]
  have hbrowser : r.2.withoutStats.browser = r'.2.withoutStats.browser := by rw [hw]
  have hpanel : r.2.withoutStats.panel = r'.2.withoutStats.panel := by rw [hw]
  refine ⟨hsession, hbrowser, hpanel, congrArg Prod.fst (takeAll_eq hd a),
    congrArg Prod.fst (takeAll_eq hd' a), exists_rivals_of_ne hd hp, ?_, ?_⟩
  · intro run refresh hr
    constructor
    · intro hs
      obtain ⟨m₁, m₂⟩ := hr.mem_suppliers (hs.subset (by simp)) (hs.subset (by simp))
      exact lastStats_takeAll_of_sublist hd m₁ m₂ hs
    · intro hs
      obtain ⟨m₁, m₂⟩ := hr.mem_suppliers (hs.subset (by simp)) (hs.subset (by simp))
      exact lastStats_takeAll_of_sublist hd m₂ m₁ hs
  · intro log b hs
    exact ⟨h.settles_perm hs, takeAll_of_settles hs⟩

/-- A run that reports an empty object and a refresh compete, and an answer comes that a reset has
made stale: the two orders differ in the statistics that are shown, and in nothing else. -/
theorem settling_confluent_rivals :
    let moves : List Move :=
      [.act (.sendChat "why?"), .act .resetSession, .act (.triggerIndex "."),
        .act .refreshIndexStats]
    let a := (Ledger.run moves).assistant
    let chat : Arrival := ⟨⟨.chat, ⟨0, 1⟩, { question := "why?" }⟩, .failure ⟨.network, "lost"⟩⟩
    let run : Arrival :=
      ⟨⟨.index, ⟨0, 1⟩, ⟨"."⟩⟩, .success ⟨"done", ⟨.object [], .nil, trivial⟩⟩⟩
    let refresh : Arrival := ⟨⟨.indexStats, ⟨0, 2⟩, ()⟩, .success ⟨.null⟩⟩
    let xs := [chat, run, refresh]
    let ys := [refresh, chat, run]
    (∀ m ∈ moves, m.Resolves) ∧ xs.map Arrival.call ~ a.unapplied ∧ xs ~ ys ∧
      Rivals a run refresh ∧
      (a.takeAll xs).2.session = (a.takeAll ys).2.session ∧
      (a.takeAll xs).1 = [⟨.chat, false⟩, ⟨.index, true⟩, ⟨.indexStats, true⟩] ∧
      (a.takeAll ys).1 = [⟨.indexStats, true⟩, ⟨.chat, false⟩, ⟨.index, true⟩] ∧
      (a.takeAll xs).2.panel.lastStats = refresh.stats? ∧
      (a.takeAll ys).2.panel.lastStats = run.stats? := by
  intro moves a chat run refresh xs ys
  have hm : ∀ m ∈ moves, m.Resolves := by simp [moves, Move.Resolves]
  have hx : xs.map Arrival.call ~ a.unapplied := .of_eq rfl
  have hp : xs ~ ys := (List.perm_append_comm : [chat, run] ++ [refresh] ~ _)
  have hr : Rivals a run refresh := .intro rfl rfl rfl
  have hy : ys.map Arrival.call ~ a.unapplied := (hp.symm.map _).trans hx
  obtain ⟨hs, -, -, h₁, h₂, -, hx', -⟩ := settling_confluent moves hm xs ys hx hp
  obtain ⟨-, -, -, -, -, -, hy', -⟩ := settling_confluent moves hm ys xs hy hp.symm
  refine ⟨hm, hx, hp, hr, hs, h₁.trans (by decide), h₂.trans (by decide), ?_, ?_⟩
  · exact (hx' run refresh hr).1 (List.sublist_cons_self _ _)
  · exact (hy' run refresh hr).2 (.cons_cons _ (.cons _ (.refl _)))

end Assistant

end CodeAssistant
