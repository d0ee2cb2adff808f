/-
# The browser shows what was asked for last

A log is kept beside the browser: which listings and which selections were accepted, with their
tickets, and which outcomes were delivered, with whether the browser took them.  Outcomes come in
any order, late, repeatedly or never; all that is asked of them is that they carry ticket and
request of something that was accepted before (`Run`).

Then listing and selection are functions of the log (`Log.listing`, `Log.selection`): each shows
the last thing that was accepted, with the first end that was delivered for it.  That nothing else
is ever shown rests on tickets being new when they are issued: nothing was delivered for a new
ticket before, and no two of the things accepted share one (`Log.Good`).

Main statement: `browser_shows_latest`.
-/
import CodeAssistant.Proofs.Components
import Mathlib.Data.List.Basic

namespace CodeAssistant
namespace Browser

/-! ## 1. Runs -/

namespace Event

/-- The ticket that the outcome is addressed to. -/
def ticket : Event → Ticket
  | listing t _ => t
  | content t _ _ => t

/-- The end that the event brings to the listing with a ticket. -/
def listingFor? (t : Ticket) : Event → Option (Outcome (List FileEntry))
  | listing t' outcome => if t' = t ∧ outcome.isPending = false then some outcome else none
  | content _ _ _ => none

/-- The end that the event brings to the selection with a ticket. -/
def contentFor? (t : Ticket) : Event → Option (Outcome FileContent)
  | content t' _ outcome => if t' = t ∧ outcome.isPending = false then some outcome else none
  | listing _ _ => none

end Event

/-- One thing that happens to a browser. -/
inductive Op
  | loadListing (directory : String)
  | retryListing
  | selectFile (path : String)
  | reloadSelection
  | apply (event : Event)

/-- A browser and its log. -/
structure Log where
  browser : Browser := {}
  /-- The listings that were accepted. -/
  listings : List (Dispatch String) := []
  /-- The selections that were accepted. -/
  selections : List (Dispatch String) := []
  /-- The events that were delivered, and whether they were applied. -/
  delivered : List (Event × Bool) := []

namespace Log

/-- Enters an attempt at a listing. -/
def enterListing (l : Log) (attempt : Attempt Browser String) : Log :=
  { l with
    browser := attempt.state
    listings := l.listings ++ attempt.result.toOption.toList }

/-- Enters an attempt at a selection. -/
def enterSelection (l : Log) (attempt : Attempt Browser String) : Log :=
  { l with
    browser := attempt.state
    selections := l.selections ++ attempt.result.toOption.toList }

/-- Enters an event and what came of it. -/
def enterDelivery (l : Log) (event : Event) (r : Bool × Browser) : Log :=
  { l with browser := r.2, delivered := l.delivered ++ [(event, r.1)] }

/-- Carries out an operation and logs it. -/
def step (l : Log) : Op → Log
  | .loadListing directory => l.enterListing (l.browser.loadListing directory)
  | .retryListing => l.enterListing l.browser.retryListing
  | .selectFile path => l.enterSelection (l.browser.selectFile path)
  | .reloadSelection => l.enterSelection l.browser.reloadSelection
  | .apply event => l.enterDelivery event (l.browser.apply event)

/-- All that was accepted. -/
def accepted (l : Log) : List (Dispatch String) := l.listings ++ l.selections

/-- The event answers something that was accepted. -/
def Answers (l : Log) : Event → Prop
  | .listing t _ => ∃ d ∈ l.accepted, d.ticket = t
  | .content t path _ => ∃ d ∈ l.accepted, d.ticket = t ∧ d.request = path

/-- The operation may happen: the user may do anything, and events answer. -/
def Admits (l : Log) : Op → Prop
  | .apply event => l.Answers event
  | .loadListing _ | .retryListing | .selectFile _ | .reloadSelection => True

/-- The logs of runs in which every event answers something that was accepted before. -/
inductive Run : Log → Prop
  | start : Run {}
  | step {l : Log} {op : Op} : Run l → l.Admits op → Run (l.step op)

/-! ## 2. What the log says is shown -/

/-- The first end that was delivered for a listing. -/
def firstListing? (l : Log) (t : Ticket) : Option (Outcome (List FileEntry)) :=
  l.delivered.findSome? fun e => e.1.listingFor? t

/-- The first end that was delivered for a selection. -/
def firstContent? (l : Log) (t : Ticket) : Option (Outcome FileContent) :=
  l.delivered.findSome? fun e => e.1.contentFor? t

/-- The files of a listing that was applied and ended well. -/
def payload? : Event × Bool → Option (List FileEntry)
  | (.listing _ outcome, true) => outcome.value?
  | (.listing _ _, false) | (.content _ _ _, _) => none

/-- The files of the last listing that was applied and ended well. -/
def files (l : Log) : List FileEntry := (l.delivered.filterMap payload?).getLast?.getD []

/-- The last listing that was accepted, with the first end that was delivered for it. -/
def listing (l : Log) : Listing where
  directory := l.listings.getLast?.map Dispatch.request
  files := l.files
  status := l.listings.getLast?.map fun d =>
    (l.firstListing? d.ticket).elim .pending fun outcome => outcome.map fun _ => ()
  inFlight := l.listings.getLast?.bind fun d =>
    if (l.firstListing? d.ticket).isSome then none else some d.ticket

/-- The last selection that was accepted, with the first end that was delivered for it. -/
def selection (l : Log) : Option Selection :=
  l.selections.getLast?.map fun d =>
    ⟨d.request, d.ticket, (l.firstContent? d.ticket).getD .pending⟩

/-! ## 3. Tickets are new when they are issued -/

/-- Tickets of what was accepted and delivered are issued, and each belongs to one thing. -/
structure Issued (l : Log) : Prop where
  accepted : ∀ d ∈ l.accepted, d.ticket < l.browser.tickets.next
  delivered : ∀ e ∈ l.delivered, e.1.ticket < l.browser.tickets.next
  unique : ∀ d ∈ l.accepted, ∀ d' ∈ l.accepted, d.ticket = d'.ticket → d = d'

/-- The next ticket goes to one more thing. -/
theorem Issued.accept {l l' : Log} (h : l.Issued) (request : String)
    (ha : ∀ d ∈ l'.accepted, d ∈ l.accepted ∨ d = ⟨l.browser.tickets.next, request⟩)
    (hd : l'.delivered = l.delivered)
    (ht : l'.browser.tickets = l.browser.tickets.advance) : l'.Issued := by
  refine ⟨?_, ?_, ?_⟩
  · intro d hmem
    rw [ht]
    rcases ha d hmem with hmem | rfl
    · exact TicketIssuer.lt_next_advance (h.accepted d hmem)
    · exact TicketIssuer.next_lt_next_advance _
  · intro e hmem
    rw [hd] at hmem
    rw [ht]
    exact TicketIssuer.lt_next_advance (h.delivered e hmem)
  · intro d hmem d' hmem' heq
    rcases ha d hmem with hmem | rfl <;> rcases ha d' hmem' with hmem' | rfl
    · exact h.unique d hmem d' hmem' heq
    · exact absurd heq (TicketIssuer.ne_next_of_lt (h.accepted d hmem))
    · exact absurd heq.symm (TicketIssuer.ne_next_of_lt (h.accepted d' hmem'))
    · rfl

theorem Answers.ticket_lt {l : Log} (h : l.Issued) {event : Event} (ha : l.Answers event) :
    event.ticket < l.browser.tickets.next := by
  cases event with
  | listing t outcome =>
    obtain ⟨d, hd, rfl⟩ := ha
    exact h.accepted d hd
  | content t path outcome =>
    obtain ⟨d, hd, rfl, -⟩ := ha
    exact h.accepted d hd

theorem Issued.deliver {l : Log} (h : l.Issued) {event : Event} (ha : l.Answers event)
    {r : Bool × Browser} (ht : r.2.tickets = l.browser.tickets) :
    (l.enterDelivery event r).Issued := by
  refine ⟨?_, ?_, h.unique⟩
  · intro d hmem
    show d.ticket < r.2.tickets.next
    rw [ht]
    exact h.accepted d hmem
  · intro e hmem
    show e.1.ticket < r.2.tickets.next
    rw [ht]
    rcases List.mem_append.mp hmem with hmem | hmem
    · exact h.delivered e hmem
    · rw [List.mem_singleton.mp hmem]
      exact ha.ticket_lt h

/-- Nothing was delivered for a ticket that is yet to be issued. -/
theorem Issued.firstListing?_next {l : Log} (h : l.Issued) :
    l.firstListing? l.browser.tickets.next = none := by
  rw [firstListing?, List.findSome?_eq_none_iff]
  rintro ⟨event, flag⟩ hmem
  have hne := TicketIssuer.ne_next_of_lt (h.delivered _ hmem)
  cases event with
  | listing t outcome => exact if_neg fun hc => hne hc.1
  | content t path outcome => rfl

theorem Issued.firstContent?_next {l : Log} (h : l.Issued) :
    l.firstContent? l.browser.tickets.next = none := by
  rw [firstContent?, List.findSome?_eq_none_iff]
  rintro ⟨event, flag⟩ hmem
  have hne := TicketIssuer.ne_next_of_lt (h.delivered _ hmem)
  cases event with
  | listing t outcome => rfl
  | content t path outcome => exact if_neg fun hc => hne hc.1

/-! ## 4. What a delivery adds to the log -/

section Delivery

variable (l : Log) (event : Event) (r : Bool × Browser) (t : Ticket)

theorem firstListing?_enterDelivery :
    (l.enterDelivery event r).firstListing? t =
      (l.firstListing? t).or (event.listingFor? t) := by
  rw [firstListing?, enterDelivery, List.findSome?_append, List.findSome?_singleton]
  rfl

theorem firstContent?_enterDelivery :
    (l.enterDelivery event r).firstContent? t =
      (l.firstContent? t).or (event.contentFor? t) := by
  rw [firstContent?, enterDelivery, List.findSome?_append, List.findSome?_singleton]
  rfl

theorem files_enterDelivery :
    (l.enterDelivery event r).files = (payload? (event, r.1)).getD l.files := by
  rw [files, enterDelivery, List.filterMap_append]
  cases hp : payload? (event, r.1) with
  | none => simp [hp, files]
  | some files => simp [hp]

end Delivery

theorem isPending_firstContent? {l : Log} {t : Ticket} {outcome : Outcome FileContent}
    (h : l.firstContent? t = some outcome) : outcome.isPending = false := by
  obtain ⟨⟨event, flag⟩, -, he⟩ := List.exists_of_findSome?_eq_some h
  cases event with
  | listing t' outcome' => exact absurd he (by simp [Event.contentFor?])
  | content t' path outcome' =>
    simp only [Event.contentFor?] at he
    split at he
    · rename_i hc
      rw [← Option.some.inj he]
      exact hc.2
    · exact absurd he (by simp)

/-! ## 5. The browser shows what the log says -/

theorem listing_eq_pending {l : Log} {d : Dispatch String} (hlast : l.listings.getLast? = some d)
    (hf : l.firstListing? d.ticket = none) :
    l.listing = ⟨some d.request, l.files, some .pending, some d.ticket⟩ := by
  unfold listing
  simp only [hlast, hf, Option.map_some, Option.bind_some]
  rfl

theorem listing_eq_ended {l : Log} {d : Dispatch String} {outcome : Outcome (List FileEntry)}
    (hlast : l.listings.getLast? = some d) (hf : l.firstListing? d.ticket = some outcome) :
    l.listing = ⟨some d.request, l.files, some (outcome.map fun _ => ()), none⟩ := by
  unfold listing
  simp only [hlast, hf, Option.map_some, Option.bind_some]
  rfl

theorem selection_eq {l : Log} {d : Dispatch String} (hlast : l.selections.getLast? = some d) :
    l.selection = some ⟨d.request, d.ticket, (l.firstContent? d.ticket).getD .pending⟩ := by
  unfold selection
  rw [hlast]
  rfl

/-- Only the end for the last listing shows, and the files. -/
theorem listing_congr {l l' : Log} (hl : l'.listings = l.listings)
    (hf : ∀ d, l.listings.getLast? = some d →
      l'.firstListing? d.ticket = l.firstListing? d.ticket)
    (hfiles : l'.files = l.files) : l'.listing = l.listing := by
  unfold listing
  rw [hl, hfiles]
  cases hlast : l.listings.getLast? with
  | none => rfl
  | some d =>
    simp only [Option.map_some, Option.bind_some]
    rw [hf d hlast]

/-- Only the end for the last selection shows. -/
theorem selection_congr {l l' : Log} (hl : l'.selections = l.selections)
    (hf : ∀ d, l.selections.getLast? = some d →
      l'.firstContent? d.ticket = l.firstContent? d.ticket) :
    l'.selection = l.selection := by
  unfold selection
  rw [hl]
  cases hlast : l.selections.getLast? with
  | none => rfl
  | some d =>
    simp only [Option.map_some]
    rw [hf d hlast]

/-- What comes for a listing does not show in the selection. -/
theorem selection_deliverListing (l : Log) (t : Ticket) (outcome : Outcome (List FileEntry))
    (r : Bool × Browser) : (l.enterDelivery (.listing t outcome) r).selection = l.selection := by
  refine selection_congr rfl fun d _ => ?_
  rw [firstContent?_enterDelivery]
  exact Option.or_none

/-- What comes for a selection does not show in the listing. -/
theorem listing_deliverContent (l : Log) (t : Ticket) (path : String)
    (outcome : Outcome FileContent) (r : Bool × Browser) :
    (l.enterDelivery (.content t path outcome) r).listing = l.listing := by
  refine listing_congr rfl (fun d _ => ?_) (files_enterDelivery l _ _)
  rw [firstListing?_enterDelivery]
  exact Option.or_none

/-- A listing is awaited if it was accepted last and no end was delivered for it. -/
theorem inFlight_listing {l : Log} {t : Ticket} :
    l.listing.inFlight = some t ↔
      ∃ d, l.listings.getLast? = some d ∧ d.ticket = t ∧ l.firstListing? t = none := by
  unfold listing
  cases hlast : l.listings.getLast? with
  | none => simp
  | some d =>
    simp only [Option.bind_some, Option.some.injEq, exists_eq_left']
    cases hf : l.firstListing? d.ticket with
    | none =>
      constructor
      · intro ht
        have ht : d.ticket = t := Option.some.inj ht
        exact ⟨ht, ht ▸ hf⟩
      · rintro ⟨ht, -⟩
        exact congrArg some ht
    | some outcome =>
      constructor
      · intro ht
        exact absurd ht (by simp)
      · rintro ⟨rfl, hn⟩
        exact absurd (hf.symm.trans hn) (by simp)

/-- A content is awaited if its selection was accepted last and no end was delivered for it. -/
theorem awaited_selection {l : Log} {t : Ticket} {path : String} :
    l.selection.bind Selection.awaited = some ⟨t, some path⟩ ↔
      ∃ d, l.selections.getLast? = some d ∧ d.ticket = t ∧ d.request = path ∧
        l.firstContent? t = none := by
  unfold selection
  cases hlast : l.selections.getLast? with
  | none => simp
  | some d =>
    simp only [Option.map_some, Option.bind_some, Option.some.injEq, exists_eq_left']
    cases hf : l.firstContent? d.ticket with
    | none =>
      constructor
      · intro ht
        have ht := Option.some.inj ht
        have htick : d.ticket = t := congrArg Tag.ticket ht
        have hpath : some d.request = some path := congrArg Tag.path ht
        exact ⟨htick, Option.some.inj hpath, htick ▸ hf⟩
      · rintro ⟨rfl, rfl, -⟩
        rfl
    | some outcome =>
      constructor
      · intro ht
        have hp := isPending_firstContent? hf
        simp [Selection.awaited, Selection.isLoading, hp] at ht
      · rintro ⟨rfl, -, hn⟩
        exact absurd (hf.symm.trans hn) (by simp)

/-- **The browser shows what the log says.** -/
structure Good (l : Log) : Prop where
  listing : l.browser.listing = l.listing
  selection : l.browser.selection = l.selection
  /-- Once the last listing has ended well, its files are the last ones that came. -/
  settled : ∀ d files, l.listings.getLast? = some d →
    l.firstListing? d.ticket = some (.success files) → l.files = files
  issued : l.Issued

theorem good_start : Good {} :=
  ⟨rfl, rfl, by simp, by simp [accepted], by simp, by simp [accepted]⟩

theorem enterListing_rejected (l : Log) (reason : Rejection) :
    l.enterListing (.rejected reason l.browser) = l := by
  simp [enterListing, Attempt.rejected, Except.toOption]

theorem enterSelection_rejected (l : Log) (reason : Rejection) :
    l.enterSelection (.rejected reason l.browser) = l := by
  simp [enterSelection, Attempt.rejected, Except.toOption]

/-- A listing that is accepted is pending, whatever was delivered. -/
theorem Good.loadListing {l : Log} (h : l.Good) (directory : String) :
    (l.enterListing (l.browser.loadListing directory)).Good := by
  rcases l.browser.loadListing_cases directory with ⟨reason, hr⟩ | ha
  · rw [hr, enterListing_rejected]
    exact h
  · rw [ha]
    have hfiles : l.browser.listing.files = l.files := congrArg Listing.files h.listing
    refine ⟨?_, h.selection, ?_, ?_⟩
    · rw [listing_eq_pending List.getLast?_concat h.issued.firstListing?_next]
      exact congrArg (Listing.mk _ · _ _) hfiles
    · intro d files hlast hf
      obtain rfl := Option.some.inj (List.getLast?_concat.symm.trans hlast)
      exact absurd (h.issued.firstListing?_next.symm.trans hf) (by simp)
    · refine h.issued.accept (Text.trim directory) ?_ rfl rfl
      intro d hd
      simp only [accepted, enterListing, Attempt.accepted, Except.toOption, Option.toList_some,
        List.mem_append, List.mem_singleton] at hd ⊢
      rcases hd with (hd | hd) | hd
      · exact Or.inl (Or.inl hd)
      · exact Or.inr hd
      · exact Or.inl (Or.inr hd)

/-- A selection that is accepted is pending, whatever was delivered. -/
theorem Good.selectFile {l : Log} (h : l.Good) (path : String) :
    (l.enterSelection (l.browser.selectFile path)).Good := by
  rcases l.browser.selectFile_cases path with ⟨reason, hr⟩ | ha
  · rw [hr, enterSelection_rejected]
    exact h
  · rw [ha]
    refine ⟨h.listing, ?_, h.settled, ?_⟩
    · rw [selection_eq List.getLast?_concat]
      exact congrArg (fun o => some (Selection.mk _ _ (Option.getD o .pending)))
        h.issued.firstContent?_next.symm
    · refine h.issued.accept (Text.trim path) ?_ rfl rfl
      intro d hd
      simp only [accepted, enterSelection, Attempt.accepted, Except.toOption, Option.toList_some,
        List.mem_append, List.mem_singleton] at hd ⊢
      rcases hd with hd | hd | hd
      · exact Or.inl (Or.inl hd)
      · exact Or.inl (Or.inr hd)
      · exact Or.inr hd

/-- The first end for the last listing is shown. -/
theorem Good.takeListing {l : Log} (h : l.Good) {d : Dispatch String}
    {outcome : Outcome (List FileEntry)} (hlast : l.listings.getLast? = some d)
    (hnone : l.firstListing? d.ticket = none) (hp : outcome.isPending = false)
    (ha : l.Answers (.listing d.ticket outcome)) :
    (l.enterDelivery (.listing d.ticket outcome) (true, l.browser.endListing outcome)).Good := by
  have hfirst : (l.enterDelivery (.listing d.ticket outcome)
      (true, l.browser.endListing outcome)).firstListing? d.ticket = some outcome := by
    rw [firstListing?_enterDelivery, hnone]
    exact if_pos ⟨rfl, hp⟩
  have hfiles : (l.enterDelivery (.listing d.ticket outcome)
      (true, l.browser.endListing outcome)).files = outcome.value?.getD l.files :=
    files_enterDelivery l _ _
  refine ⟨?_, h.selection.trans (selection_deliverListing l _ _ _).symm, ?_,
    h.issued.deliver ha rfl⟩
  · have hnew := listing_eq_ended
      (l := l.enterDelivery (.listing d.ticket outcome) (true, l.browser.endListing outcome))
      hlast hfirst
    rw [hnew, hfiles]
    show (l.browser.endListing outcome).listing = _
    rw [endListing, h.listing, listing_eq_pending hlast hnone]
  · intro d' files hlast' hf
    obtain rfl := Option.some.inj (hlast.symm.trans hlast')
    obtain rfl := Option.some.inj (hfirst.symm.trans hf)
    rw [hfiles]
    rfl

/-- Nothing else that comes for a listing shows. -/
theorem Good.dropListing {l : Log} (h : l.Good) {t : Ticket}
    {outcome : Outcome (List FileEntry)} (ha : l.Answers (.listing t outcome))
    (ht : ¬ (l.listing.inFlight = some t ∧ outcome.isPending = false)) :
    (l.enterDelivery (.listing t outcome) (false, l.browser)).Good := by
  have hfirst : ∀ d, l.listings.getLast? = some d →
      (l.enterDelivery (.listing t outcome) (false, l.browser)).firstListing? d.ticket =
        l.firstListing? d.ticket := by
    intro d hlast
    rw [firstListing?_enterDelivery]
    cases hf : l.firstListing? d.ticket with
    | some outcome' => rfl
    | none =>
      refine if_neg ?_
      rintro ⟨rfl, hp⟩
      exact ht ⟨inFlight_listing.mpr ⟨d, hlast, rfl, hf⟩, hp⟩
  have hfiles : (l.enterDelivery (.listing t outcome) (false, l.browser)).files = l.files :=
    files_enterDelivery l _ _
  have hlisting : (l.enterDelivery (.listing t outcome) (false, l.browser)).listing = l.listing :=
    listing_congr rfl hfirst hfiles
  refine ⟨h.listing.trans hlisting.symm,
    h.selection.trans (selection_deliverListing l _ _ _).symm, ?_, h.issued.deliver ha rfl⟩
  intro d files hlast hf
  rw [hfirst d hlast] at hf
  rw [hfiles]
  exact h.settled d files hlast hf

theorem Good.deliverListing {l : Log} (h : l.Good) {t : Ticket}
    {outcome : Outcome (List FileEntry)} (ha : l.Answers (.listing t outcome)) :
    (l.enterDelivery (.listing t outcome) (l.browser.resolveListing t outcome)).Good := by
  rw [resolveListing_eq, h.listing]
  by_cases ht : l.listing.inFlight = some t ∧ outcome.isPending = false
  · rw [if_pos ht]
    obtain ⟨d, hlast, rfl, hnone⟩ := inFlight_listing.mp ht.1
    exact h.takeListing hlast hnone ht.2 ha
  · rw [if_neg ht]
    exact h.dropListing ha ht

/-- What comes for a selection keeps the books of the listing, whatever becomes of it. -/
theorem Good.enterContent {l : Log} (h : l.Good) {t : Ticket} {path : String}
    {outcome : Outcome FileContent} (ha : l.Answers (.content t path outcome))
    {r : Bool × Browser} (hlisting : r.2.listing = l.browser.listing)
    (ht : r.2.tickets = l.browser.tickets)
    (hselection : r.2.selection = (l.enterDelivery (.content t path outcome) r).selection) :
    (l.enterDelivery (.content t path outcome) r).Good := by
  refine ⟨?_, hselection, ?_, h.issued.deliver ha ht⟩
  · rw [listing_deliverContent, ← h.listing]
    exact hlisting
  · intro d files hlast hf
    rw [firstListing?_enterDelivery] at hf
    rw [files_enterDelivery]
    exact h.settled d files hlast (Option.or_none.symm.trans hf)

/-- The first end for the last selection is shown. -/
theorem Good.takeContent {l : Log} (h : l.Good) {d : Dispatch String}
    {outcome : Outcome FileContent} (hlast : l.selections.getLast? = some d)
    (hnone : l.firstContent? d.ticket = none) (hp : outcome.isPending = false)
    (ha : l.Answers (.content d.ticket d.request outcome)) :
    (l.enterDelivery (.content d.ticket d.request outcome)
      (true, l.browser.endFetch outcome)).Good := by
  refine h.enterContent ha rfl rfl ?_
  have hfirst : (l.enterDelivery (.content d.ticket d.request outcome)
      (true, l.browser.endFetch outcome)).firstContent? d.ticket = some outcome := by
    rw [firstContent?_enterDelivery, hnone]
    exact if_pos ⟨rfl, hp⟩
  have hnew := selection_eq
    (l := l.enterDelivery (.content d.ticket d.request outcome)
      (true, l.browser.endFetch outcome)) hlast
  rw [hnew, hfirst]
  show (l.browser.endFetch outcome).selection = _
  rw [endFetch, h.selection, selection_eq hlast]
  rfl

/-- Nothing else that comes for a selection shows.  Here it counts that an event carries the path
that was asked for under its ticket. -/
theorem Good.dropContent {l : Log} (h : l.Good) {t : Ticket} {path : String}
    {outcome : Outcome FileContent} (ha : l.Answers (.content t path outcome))
    (ht : ¬ (l.selection.bind Selection.awaited = some ⟨t, some path⟩ ∧
      outcome.isPending = false)) :
    (l.enterDelivery (.content t path outcome) (false, l.browser)).Good := by
  refine h.enterContent ha rfl rfl (h.selection.trans (Eq.symm ?_))
  refine selection_congr rfl fun d hlast => ?_
  rw [firstContent?_enterDelivery]
  cases hf : l.firstContent? d.ticket with
  | some outcome' => rfl
  | none =>
    refine if_neg ?_
    rintro ⟨rfl, hp⟩
    obtain ⟨d', hd', htick, rfl⟩ := ha
    have hd : d ∈ l.accepted := List.mem_append_right _ (List.mem_of_getLast? hlast)
    obtain rfl := h.issued.unique d' hd' d hd htick
    exact ht ⟨awaited_selection.mpr ⟨d', hlast, rfl, rfl, hf⟩, hp⟩

theorem Good.deliverContent {l : Log} (h : l.Good) {t : Ticket} {path : String}
    {outcome : Outcome FileContent} (ha : l.Answers (.content t path outcome)) :
    (l.enterDelivery (.content t path outcome) (l.browser.resolveContent t path outcome)).Good := by
  rw [resolveContent_eq, h.selection]
  by_cases ht : l.selection.bind Selection.awaited = some ⟨t, some path⟩ ∧
      outcome.isPending = false
  · rw [if_pos ht]
    obtain ⟨d, hlast, rfl, rfl, hnone⟩ := awaited_selection.mp ht.1
    exact h.takeContent hlast hnone ht.2 ha
  · rw [if_neg ht]
    exact h.dropContent ha ht

theorem Good.step {l : Log} (h : l.Good) {op : Op} (ha : l.Admits op) : (l.step op).Good := by
  cases op with
  | loadListing directory => exact h.loadListing directory
  | retryListing =>
    rcases l.browser.retryListing_cases with ⟨reason, hr⟩ | ⟨directory, hr⟩
    · rw [Log.step, hr, enterListing_rejected]
      exact h
    · rw [Log.step, hr]
      exact h.loadListing directory
  | selectFile path => exact h.selectFile path
  | reloadSelection =>
    rcases l.browser.reloadSelection_cases with ⟨reason, hr⟩ | ⟨path, hr⟩
    · rw [Log.step, hr, enterSelection_rejected]
      exact h
    · rw [Log.step, hr]
      exact h.selectFile path
  | apply event =>
    cases event with
    | listing t outcome => exact h.deliverListing ha
    | content t path outcome => exact h.deliverContent ha

theorem good_of_run {l : Log} (h : l.Run) : l.Good := by
  induction h with
  | start => exact good_start
  | step _ ha ih => exact ih.step ha

/-! ## 6. What is shown -/

/-- Nothing of an older content is left when a selection is accepted. -/
theorem pending_of_selected {l : Log} {d : Dispatch String} {path : String}
    (h : (l.enterSelection (l.browser.selectFile path)).selections = l.selections ++ [d]) :
    (l.enterSelection (l.browser.selectFile path)).browser.selection =
      some ⟨d.request, d.ticket, .pending⟩ := by
  rcases l.browser.selectFile_cases path with ⟨reason, hr⟩ | ha
  · rw [hr, enterSelection_rejected] at h
    exact absurd h (by simp)
  · rw [ha] at h ⊢
    have hd : [⟨l.browser.tickets.next, Text.trim path⟩] = [d] := List.append_cancel_left h
    obtain rfl := List.singleton_inj.mp hd
    rfl

theorem pending_of_step {l : Log} {op : Op} {d : Dispatch String}
    (h : (l.step op).selections = l.selections ++ [d]) :
    (l.step op).browser.selection = some ⟨d.request, d.ticket, .pending⟩ := by
  have hsame : l.selections ≠ l.selections ++ [d] := by simp
  cases op with
  | loadListing directory => exact absurd h hsame
  | retryListing => exact absurd h hsame
  | apply event => exact absurd h hsame
  | selectFile path => exact pending_of_selected h
  | reloadSelection =>
    rcases l.browser.reloadSelection_cases with ⟨reason, hr⟩ | ⟨path, hr⟩
    · rw [Log.step, hr, enterSelection_rejected] at h
      exact absurd h hsame
    · rw [Log.step, hr] at h ⊢
      exact pending_of_selected h

/-- A content that is shown is the first end that came for the last selection. -/
theorem Good.first_of_shown {l : Log} (h : l.Good) {s : Selection}
    (hs : l.browser.selection = some s) (hp : s.content.isPending = false) :
    ∃ d, l.selections.getLast? = some d ∧ s.ticket = d.ticket ∧ s.path = d.request ∧
      l.firstContent? d.ticket = some s.content := by
  rw [h.selection, Log.selection, Option.map_eq_some_iff] at hs
  obtain ⟨d, hlast, rfl⟩ := hs
  refine ⟨d, hlast, rfl, rfl, ?_⟩
  cases hf : l.firstContent? d.ticket with
  | none => simp [hf, Outcome.isPending] at hp
  | some outcome => rfl

/-- The files of a listing that has ended well are those that came for the last listing. -/
theorem Good.files_of_success {l : Log} (h : l.Good)
    (hs : l.browser.listing.status = some (.success ())) :
    ∃ d files, l.listings.getLast? = some d ∧
      l.firstListing? d.ticket = some (.success files) ∧ l.browser.listing.files = files ∧
      l.browser.listing.directory = some d.request := by
  rw [h.listing] at hs ⊢
  cases hlast : l.listings.getLast? with
  | none => simp [Log.listing, hlast] at hs
  | some d =>
    cases hf : l.firstListing? d.ticket with
    | none => simp [listing_eq_pending hlast hf] at hs
    | some outcome =>
      rw [listing_eq_ended hlast hf] at hs ⊢
      cases outcome with
      | success files => exact ⟨d, files, rfl, hf, h.settled d files hlast hf, rfl⟩
      | pending => simp [Outcome.map] at hs
      | failure failure => simp [Outcome.map] at hs

/-- A listing that fails or is superseded leaves the files where they are. -/
theorem Good.files_kept {l : Log} (h : l.Good) {t : Ticket} {outcome : Outcome (List FileEntry)}
    (hold : outcome.isSuccess = false ∨ ∀ d, l.listings.getLast? = some d → d.ticket ≠ t) :
    (l.browser.apply (.listing t outcome)).2.listing.files = l.browser.listing.files := by
  rw [Browser.apply, resolveListing_eq]
  by_cases ht : l.browser.listing.inFlight = some t ∧ outcome.isPending = false
  · rw [if_pos ht]
    rcases hold with hfail | hsuper
    · cases outcome with
      | success files => exact absurd hfail (by simp [Outcome.isSuccess])
      | pending => rfl
      | failure failure => rfl
    · have hin := ht.1
      rw [h.listing] at hin
      obtain ⟨d, hlast, hd, -⟩ := inFlight_listing.mp hin
      exact absurd hd (hsuper d hlast)
  · rw [if_neg ht]

/-- **The browser shows what was asked for last**, however late, often or out of order the outcomes
come.  A content that is shown is the first end that was delivered for the last selection, whose
path is shown with it, and the content is pending as soon as a selection is accepted.  After a
listing that ended well the files are those that came for the last listing, under its directory.
At any time the files are those of the last listing that was applied and ended well; a listing that
fails or is superseded leaves them. -/
theorem browser_shows_latest {l : Log} (hr : l.Run) :
    (∀ s, l.browser.selection = some s → s.content.isPending = false →
      ∃ d, l.selections.getLast? = some d ∧ s.ticket = d.ticket ∧ s.path = d.request ∧
        l.firstContent? d.ticket = some s.content) ∧
    (∀ op d, (l.step op).selections = l.selections ++ [d] →
      (l.step op).browser.selection = some ⟨d.request, d.ticket, .pending⟩) ∧
    (l.browser.listing.status = some (.success ()) →
      ∃ d files, l.listings.getLast? = some d ∧
        l.firstListing? d.ticket = some (.success files) ∧ l.browser.listing.files = files ∧
        l.browser.listing.directory = some d.request) ∧
    l.browser.listing.files = l.files ∧
    (∀ t outcome,
      (outcome.isSuccess = false ∨ ∀ d, l.listings.getLast? = some d → d.ticket ≠ t) →
      (l.browser.apply (.listing t outcome)).2.listing.files = l.browser.listing.files) := by
  have h : l.Good := good_of_run hr
  exact ⟨fun s hs hp => h.first_of_shown hs hp, fun op d => pending_of_step, h.files_of_success,
    congrArg Listing.files h.listing, fun t outcome hold => h.files_kept hold⟩

/-- A file is opened and opened again; what comes for the first time is dropped though the path is
the same, and what comes for the second time is shown.  A listing fails after one that ended well,
and the files stay. -/
theorem browser_shows_latest_reloaded :
    let early : FileContent := { path := "a", content := "early" }
    let late : FileContent := { path := "a", content := "late" }
    let entry : FileEntry := { path := "src/b", name := "b" }
    let l : Log :=
      [.selectFile "a", .reloadSelection, .apply (.content ⟨0, 1⟩ "a" (.success early)),
        .apply (.content ⟨0, 2⟩ "a" (.success late)), .loadListing "src",
        .apply (.listing ⟨0, 3⟩ (.success [entry])), .retryListing].foldl step {}
    l.Run ∧ l.browser.selection.map Selection.content = some (.success late) ∧
      (∃ d, l.selections.getLast? = some d ∧ l.firstContent? d.ticket = some (.success late)) ∧
      l.browser.listing.files = [entry] ∧
      (l.browser.apply (.listing ⟨0, 4⟩ (.failure ⟨.network, "lost"⟩))).2.listing.files =
        [entry] := by
  intro early late entry l
  have h₁ : Run (step {} (.selectFile "a")) := Run.start.step trivial
  have h₂ : Run (step _ .reloadSelection) := h₁.step trivial
  have h₃ : Run (step _ (.apply (.content ⟨0, 1⟩ "a" (.success early)))) :=
    h₂.step ⟨⟨⟨0, 1⟩, "a"⟩, by decide, rfl, rfl⟩
  have h₄ : Run (step _ (.apply (.content ⟨0, 2⟩ "a" (.success late)))) :=
    h₃.step ⟨⟨⟨0, 2⟩, "a"⟩, by decide, rfl, rfl⟩
  have h₅ : Run (step _ (.loadListing "src")) := h₄.step trivial
  have h₆ : Run (step _ (.apply (.listing ⟨0, 3⟩ (.success [entry])))) :=
    h₅.step ⟨⟨⟨0, 3⟩, "src"⟩, by decide, rfl⟩
  have h₇ : Run (step _ .retryListing) := h₆.step trivial
  have hrun : l.Run := h₇
  obtain ⟨hshown, -, -, hfiles, hkept⟩ := browser_shows_latest hrun
  have hlate : l.browser.selection = some ⟨"a", ⟨0, 2⟩, .success late⟩ := rfl
  obtain ⟨d, hlast, -, -, hfirst⟩ := hshown _ hlate rfl
  have hentry : l.files = [entry] := rfl
  exact ⟨hrun, rfl, ⟨d, hlast, hfirst⟩, hfiles.trans hentry,
    (hkept _ _ (Or.inl rfl)).trans (hfiles.trans hentry)⟩

end Log
end Browser
end CodeAssistant
