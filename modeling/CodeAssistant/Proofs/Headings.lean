/-
# The rows under a heading

A listing that is asked for takes over the heading at once, and its files take the place of the rows
only if it ends well.  So a listing that fails stands over the rows of an older one, and these may be
of another directory.

A service that keeps a log of what it answered (`Service.recording`) lets the heading and the rows be
compared.  `Listing.Shows` says what a listing owes to the log: its directory, its state and its
failure are those of the latest listing, its files those of the last one that ended well.  One
command keeps it (`Keeps.after`), and so does a run (`keeps_runAll`).

Main statements: `rows_under_heading`, and `rows_of_another_directory`, where they part.
-/
import CodeAssistant.Proofs.Quiescence

namespace CodeAssistant

/-! ## 1. Listings that have ended -/

namespace Arrival

/-- The directory that was listed, and what came of it. -/
def listing? : Arrival → Option (String × Outcome (List FileEntry))
  | ⟨⟨.listing, _, directory⟩, outcome⟩ => some (directory, outcome)
  | ⟨⟨.chat, _, _⟩, _⟩ | ⟨⟨.debug, _, _⟩, _⟩ | ⟨⟨.plan, _, _⟩, _⟩ => none
  | ⟨⟨.content, _, _⟩, _⟩ | ⟨⟨.index, _, _⟩, _⟩ | ⟨⟨.indexStats, _, _⟩, _⟩ => none

/-- The directory and its files, if a listing has ended well. -/
def files? (x : Arrival) : Option (String × List FileEntry) :=
  x.listing?.bind fun l => l.2.value?.map (l.1, ·)

theorem listing?_eq_none {x : Arrival} (h : x.call.slot ≠ .listing) : x.listing? = none := by
  obtain ⟨⟨slot, ticket, request⟩, outcome⟩ := x
  cases slot
  case listing => exact absurd rfl h
  all_goals rfl

end Arrival

/-- The latest listing of a log. -/
def latest? (log : List Arrival) : Option (String × Outcome (List FileEntry)) :=
  (log.filterMap Arrival.listing?).getLast?

/-- The last listing of a log that ended well. -/
def lastGood? (log : List Arrival) : Option (String × List FileEntry) :=
  (log.filterMap Arrival.files?).getLast?

/-- Some listing of the directory ended well and had the file. -/
def ComesFrom (log : List Arrival) (directory : String) (entry : FileEntry) : Prop :=
  ∃ files, (directory, Outcome.success files) ∈ log.filterMap Arrival.listing? ∧ entry ∈ files

theorem comesFrom_of_lastGood? {log : List Arrival} {directory : String} {files : List FileEntry}
    (h : lastGood? log = some (directory, files)) {entry : FileEntry} (he : entry ∈ files) :
    ComesFrom log directory entry := by
  obtain ⟨x, hx, hfiles⟩ := List.mem_filterMap.mp (List.mem_of_getLast? h)
  obtain ⟨⟨directory', outcome⟩, hlisting, hvalue⟩ := Option.bind_eq_some_iff.mp hfiles
  cases outcome with
  | success files' =>
    obtain ⟨rfl, rfl⟩ := Prod.mk.inj (Option.some.inj hvalue)
    exact ⟨files', List.mem_filterMap.mpr ⟨x, hx, hlisting⟩, he⟩
  | pending => cases hvalue
  | failure f => cases hvalue

/-- The listing is as the log says. -/
structure Listing.Shows (l : Listing) (log : List Arrival) : Prop where
  directory : l.directory = (latest? log).map (·.1)
  files : l.files = ((lastGood? log).map (·.2)).getD []
  pending : l.isPending = (latest? log).any (·.2.isPending)
  error : l.error? = (latest? log).bind (·.2.failure?)

namespace Assistant

variable {a b : Assistant} {log : List Arrival}

/-! ## 2. One action -/

/-- The call for a listing that is asked for next. -/
def listingCall (a : Assistant) (directory : String) : Call :=
  ⟨.listing, a.browser.tickets.next, directory⟩

/-- A listing is under way, and nothing else has changed. -/
def beginListing (a : Assistant) (directory : String) : Assistant :=
  { a with
    browser := { a.browser with
      tickets := a.browser.tickets.advance
      listing := { a.browser.listing with
        directory := some directory
        status := some .pending
        inFlight := some a.browser.tickets.next } } }.start (a.listingCall directory)

theorem act_loadListing (a : Assistant) (directory : String) :
    (∃ reason, a.act (.loadListing directory) = (.rejected reason, a)) ∨
      ∃ d, a.act (.loadListing directory) = (.started (a.listingCall d), a.beginListing d) := by
  rcases a.browser.loadListing_cases directory with ⟨reason, h⟩ | h
  · exact .inl ⟨reason, by simp only [act, h, Attempt.rejected, follow]⟩
  · exact .inr ⟨_, by simp only [act, h, Attempt.accepted, follow]; rfl⟩

theorem act_retryListing (a : Assistant) :
    (∃ reason, a.act .retryListing = (.rejected reason, a)) ∨
      ∃ d, a.act .retryListing = (.started (a.listingCall d), a.beginListing d) := by
  rcases a.browser.retryListing_cases with ⟨reason, h⟩ | ⟨directory, h⟩
  · exact .inl ⟨reason, by simp only [act, h, Attempt.rejected, follow]⟩
  · have hload := a.act_loadListing directory
    simp only [act] at hload ⊢
    rwa [h]

/-- The action leaves the listing alone, and makes no call for one. -/
def SparesListing (a : Assistant) (r : Reaction × Assistant) : Prop :=
  r.2.browser.listing = a.browser.listing ∧ ∀ c, r.1 = .started c → c.slot ≠ .listing

theorem sparesListing_follow {slot : Slot} (hslot : slot ≠ .listing)
    (hb : b.browser.listing = a.browser.listing)
    (result : Except Rejection (Dispatch slot.operation.Request)) :
    SparesListing a (b.follow slot result) := by
  cases result with
  | error reason => exact ⟨hb, fun c hc => nomatch hc⟩
  | ok dispatch =>
    refine ⟨hb, ?_⟩
    rintro c ⟨⟩
    exact hslot

theorem listing_selectFile (b : Browser) (path : String) :
    (b.selectFile path).state.listing = b.listing := by
  rcases b.selectFile_cases path with ⟨reason, h⟩ | h <;> rw [h] <;> rfl

/-- **An action begins a listing, or it spares the listing.** -/
theorem listing_act (a : Assistant) (action : Action) :
    (∃ d, a.act action = (.started (a.listingCall d), a.beginListing d)) ∨
      SparesListing a (a.act action) := by
  have hrejected : ∀ reason, SparesListing a (.rejected reason, a) :=
    fun reason => ⟨rfl, fun c hc => nomatch hc⟩
  cases action with
  | loadListing directory =>
    rcases a.act_loadListing directory with ⟨reason, h⟩ | h
    · exact .inr (h ▸ hrejected reason)
    · exact .inl h
  | retryListing =>
    rcases a.act_retryListing with ⟨reason, h⟩ | h
    · exact .inr (h ▸ hrejected reason)
    · exact .inl h
  | selectFile path =>
    refine .inr (sparesListing_follow (by decide) ?_ _)
    simp only [listing_selectFile]
  | reloadSelection =>
    refine .inr (sparesListing_follow (by decide) ?_ _)
    rcases a.browser.reloadSelection_cases with ⟨reason, h⟩ | ⟨path, h⟩
    · rw [h]
      rfl
    · simp only [h, listing_selectFile]
  | resetSession => exact .inr ⟨rfl, fun c hc => nomatch hc⟩
  | _ => exact .inr (sparesListing_follow (by decide) rfl _)

/-! ## 3. One outcome -/

theorem listing_take_of_ne {x : Arrival} (h : x.call.slot ≠ .listing) :
    (a.take x).2.browser.listing = a.browser.listing := by
  by_cases ht : a.Takes x
  · rw [take_eq_of_takes ht]
    obtain ⟨⟨slot, ticket, request⟩, outcome⟩ := x
    cases slot
    case listing => exact absurd rfl h
    all_goals rfl
  · rw [take_eq_of_not_takes ht]

theorem listing_take_beginListing (d : String) (outcome : Outcome (List FileEntry))
    (running : List Call) (arrived : List Arrival) :
    (({ a.beginListing d with running, arrived }).take ⟨a.listingCall d, outcome⟩).2.browser.listing =
      if outcome.isPending then (a.beginListing d).browser.listing
      else ((a.beginListing d).browser.endListing outcome).listing := by
  have htakes : ({ a.beginListing d with running, arrived }).Takes ⟨a.listingCall d, outcome⟩ ↔
      outcome.isPending = false := by
    exact takes_listing.trans (and_iff_right rfl)
  split
  · rename_i hpending
    rw [take_eq_of_not_takes (by simp [htakes, hpending])]
  · rename_i hended
    rw [take_eq_of_takes (htakes.mpr (by simpa using hended))]
    rfl

end Assistant

namespace Listing

open Assistant

variable {l : Listing} {log : List Arrival}

theorem shows_start : Shows {} [] := ⟨rfl, rfl, rfl, rfl⟩

/-- Outcomes of other calls say nothing about listings. -/
theorem Shows.other {x : Arrival} (h : l.Shows log) (hx : x.call.slot ≠ .listing) :
    l.Shows (log ++ [x]) := by
  have hnone := Arrival.listing?_eq_none hx
  have hlatest : latest? (log ++ [x]) = latest? log := by
    rw [latest?, getLast?_filterMap_concat, hnone]
    rfl
  have hgood : lastGood? (log ++ [x]) = lastGood? log := by
    rw [lastGood?, getLast?_filterMap_concat, Arrival.files?, hnone]
    rfl
  exact ⟨hlatest ▸ h.directory, hgood ▸ h.files, hlatest ▸ h.pending, hlatest ▸ h.error⟩

/-- What a listing owes to the log if the latest one is known. -/
theorem shows_of_latest {d : String} {outcome : Outcome (List FileEntry)}
    (hlatest : latest? log = some (d, outcome)) (hdirectory : l.directory = some d)
    (hfiles : l.files = ((lastGood? log).map (·.2)).getD []) (hpending : l.isPending = outcome.isPending)
    (herror : l.error? = outcome.failure?) : l.Shows log := by
  refine ⟨?_, hfiles, ?_, ?_⟩
  · rw [hlatest, hdirectory]
    rfl
  · rw [hlatest, hpending]
    rfl
  · rw [hlatest, herror]
    rfl

section Concat

variable (t : Ticket) (d : String) (outcome : Outcome (List FileEntry))

theorem latest?_concat :
    latest? (log ++ [⟨⟨.listing, t, d⟩, outcome⟩]) = some (d, outcome) := by
  rw [latest?, getLast?_filterMap_concat]
  rfl

theorem lastGood?_concat :
    lastGood? (log ++ [⟨⟨.listing, t, d⟩, outcome⟩]) =
      (outcome.value?.map (d, ·)).or (lastGood? log) := by
  rw [lastGood?, getLast?_filterMap_concat]
  rfl

/-- The listing that was begun and has come to its outcome is the latest. -/
theorem Shows.ended {a : Assistant} (h : a.browser.listing.Shows log)
    (running : List Call) (arrived : List Arrival) :
    (({ a.beginListing d with running, arrived }).take
        ⟨a.listingCall d, outcome⟩).2.browser.listing.Shows
      (log ++ [Arrival.mk (a.listingCall d) outcome]) := by
  have hlatest : latest? (log ++ [Arrival.mk (a.listingCall d) outcome]) = some (d, outcome) :=
    latest?_concat _ d outcome
  have hgood : lastGood? (log ++ [Arrival.mk (a.listingCall d) outcome]) = _ :=
    lastGood?_concat _ d outcome
  rw [listing_take_beginListing]
  cases outcome with
  | pending => exact shows_of_latest hlatest rfl (hgood ▸ h.files) rfl rfl
  | success files => exact shows_of_latest hlatest rfl (hgood ▸ rfl) rfl rfl
  | failure f => exact shows_of_latest hlatest rfl (hgood ▸ h.files) rfl rfl

end Concat

end Listing

namespace Service

open Assistant

variable {σ : Type} (v : Service σ)

/-! ## 4. Settling -/

/-- The service, and a log of all calls that it answered. -/
def recording : Service (σ × List Arrival) where
  answer c := fun (s, log) =>
    let (answer, s') := (v.answer c).run s
    (answer, s', log ++ [⟨c, answer.resolve c.slot.name⟩])
  health := fun (s, log) =>
    let (outcome, s') := v.health.run s
    (outcome, s', log)

variable {b : Assistant} {c : Call} (w : σ × List Arrival)

/-- If nothing runs, there is nothing to settle. -/
theorem settle_idle (hr : b.running = []) (ha : b.arrived = []) :
    (v.recording.host.settle b).run w = (b, w) := by
  obtain ⟨session, browser, panel, inFlight, running, arrived⟩ := b
  subst hr ha
  rfl

/-- If one call runs, its outcome is applied and goes into the log. -/
theorem settle_single (hr : b.running = [c]) (ha : b.arrived = []) :
    let x : Arrival := ⟨c, ((v.answer c).run w.1).1.resolve c.slot.name⟩
    (v.recording.host.settle b).run w =
      (({ b with running := [], arrived := [] }.take x).2, ((v.answer c).run w.1).2, w.2 ++ [x]) := by
  obtain ⟨session, browser, panel, inFlight, running, arrived⟩ := b
  subst hr ha
  rfl

end Service

namespace Shell

open Assistant

variable {σ : Type} {v : Service σ} {a b : Assistant} {w : σ × List Arrival} {config : Config}

/-! ## 5. Commands -/

/-- Nothing is under way, and the listing is as the log says. -/
structure Keeps (a : Assistant) (log : List Arrival) : Prop where
  running : a.running = []
  arrived : a.arrived = []
  shows : a.browser.listing.Shows log

/-- When the only call that ran has come to its outcome, nothing is under way. -/
theorem keeps_take {x : Arrival} {log : List Arrival}
    (h : (({ b with running := [], arrived := [] }).take x).2.browser.listing.Shows log) :
    Keeps (({ b with running := [], arrived := [] }).take x).2 log :=
  ⟨(taken_take _ x).running, (taken_take _ x).arrived, h⟩

theorem Keeps.settle_listing (h : Keeps a w.2) (d : String) :
    ∃ outcome,
      let r := (v.recording.host.settle (a.beginListing d)).run w
      r.2.2 = w.2 ++ [⟨a.listingCall d, outcome⟩] ∧ Keeps r.1 r.2.2 := by
  have hr : (a.beginListing d).running = [a.listingCall d] := by
    rw [beginListing, start, h.running]
    rfl
  refine ⟨_, congrArg (·.2.2) (v.settle_single w hr h.arrived), ?_⟩
  rw [v.settle_single w hr h.arrived]
  exact keeps_take (h.shows.ended d _ [] [])

/-- What is settled after an action agrees with the log. -/
theorem Keeps.settle_act (h : Keeps a w.2) (action : Action) :
    Keeps ((v.recording.host.settle (a.act action).2).run w).1
      ((v.recording.host.settle (a.act action).2).run w).2.2 := by
  rcases listing_act a action with ⟨d, hact⟩ | ⟨hlisting, hslot⟩
  · have hb : (a.act action).2 = a.beginListing d := congrArg Prod.snd hact
    obtain ⟨outcome, -, hkeeps⟩ := h.settle_listing (v := v) d
    rwa [← hb] at hkeeps
  · rcases act_cases a action with ⟨c, b, hact, hb⟩ | ⟨-, hq⟩
    · rw [hact] at hlisting hslot
      have hr : (a.act action).2.running = [c] := by
        rw [hact, start, hb.same.running, h.running]
        rfl
      have ha : (a.act action).2.arrived = [] := by
        rw [hact]
        exact hb.same.arrived.trans h.arrived
      have hne : c.slot ≠ .listing := hslot c rfl
      rw [v.settle_single w hr ha]
      have hshows : b.browser.listing.Shows w.2 := by
        rw [show b.browser.listing = a.browser.listing from hlisting]
        exact h.shows
      refine keeps_take ?_
      rw [listing_take_of_ne hne, hact]
      exact hshows.other hne
    · have hr := hq.same.running.trans h.running
      have ha := hq.same.arrived.trans h.arrived
      rw [v.settle_idle w hr ha]
      exact ⟨hr, ha, hlisting ▸ h.shows⟩

/-- **A command keeps the listing as the log says.** -/
theorem Keeps.after (h : Keeps a w.2) (config : Config) (command : Command) :
    Keeps (Shell.after v.recording.host config a command w).1
      (Shell.after v.recording.host config a command w).2.2 := by
  have hc := carries_run v.recording.host config a command w
  generalize Shell.after v.recording.host config a command w = r at hc ⊢
  cases hc with
  | settled haction => exact h.settle_act _
  | @unsettled _ action _ hr =>
    rcases listing_act a action with ⟨d, hact⟩ | ⟨hlisting, -⟩
    · exact absurd (congrArg Prod.fst hact) (hr _)
    · rcases act_cases a action with ⟨c, b, hact, -⟩ | ⟨-, hq⟩
      · exact absurd (congrArg Prod.fst hact) (hr c)
      · exact ⟨hq.same.running.trans h.running, hq.same.arrived.trans h.arrived,
          hlisting ▸ h.shows⟩
  | inquired => exact h
  | idle => exact h

theorem keeps_runAll (config : Config) : ∀ (commands : List Command) {a : Assistant}
    (w : σ × List Arrival), Keeps a w.2 →
      Keeps ((runAll v.recording.host config a commands).run w).1
        ((runAll v.recording.host config a commands).run w).2.2
  | [], _, _, h => h
  | command :: commands, _, _, h => by
    rw [runAll_cons]
    exact keeps_runAll config commands _ (h.after config command)

/-! ## 6. Headings and rows -/

/-- What stands under the heading of a listing. -/
def Render.underHeading (rows : List FileRow) (failure : Option Failure) : String :=
  (if rows.isEmpty then "\n  (no files)" else "")
    ++ String.join (rows.map fun row => "\n" ++ Render.fileRow row)
    ++ (match failure with
      | some f => "\n" ++ Render.failureLine f ++ "\n  (use /retry to try again)"
      | none => "")

/-- How a listing of the directory reads that came to this outcome. -/
def Render.ofListing (d : String) (outcome : Outcome (List FileEntry)) (rows : List FileRow) :
    String :=
  if outcome.isPending then "Loading files in " ++ d ++ "..."
  else "Files in " ++ d ++ ":" ++ underHeading rows outcome.failure?

/-- How the rows that are shown go with the heading above them. -/
structure StandsUnder (log : List Arrival) (d : String) (outcome : Outcome (List FileEntry))
    (rows : List FileRow) : Prop where
  /-- The rows are the files of the last listing that ended well. -/
  kept : rows.map (·.entry) = ((lastGood? log).map (·.2)).getD []
  /-- Under the heading of a listing that ended well there are only files of its directory. -/
  success : outcome.value?.isSome → ∀ row ∈ rows, ComesFrom log d row.entry
  /-- So there are under any other, if the last listing that ended well was of the directory. -/
  same : (∀ good ∈ lastGood? log, good.1 = d) → ∀ row ∈ rows, ComesFrom log d row.entry

theorem Keeps.text_eq {log : List Arrival} (h : Keeps a log) {d : String}
    {outcome : Outcome (List FileEntry)} (hlatest : latest? log = some (d, outcome)) :
    Render.listing a.screen = Render.ofListing d outcome a.screen.files := by
  have hd : a.screen.directory = some d := by
    rw [show a.screen.directory = _ from h.shows.directory, hlatest]
    rfl
  have hpending : a.screen.listingLoading = outcome.isPending := by
    rw [show a.screen.listingLoading = _ from h.shows.pending, hlatest]
    rfl
  have herror : a.screen.listingError = outcome.failure? := by
    rw [show a.screen.listingError = _ from h.shows.error, hlatest]
    rfl
  rw [Render.listing, hd, hpending, herror, Render.ofListing]
  split
  · rfl
  · cases outcome.failure? <;> simp [Render.underHeading, String.append_assoc]

theorem Keeps.standsUnder {log : List Arrival} (h : Keeps a log) {d : String}
    {outcome : Outcome (List FileEntry)}
    (hgood : ∀ files ∈ outcome.value?, lastGood? log = some (d, files)) :
    StandsUnder log d outcome a.screen.files := by
  have hkept : a.screen.files.map FileRow.entry = ((lastGood? log).map (·.2)).getD [] := by
    rw [← h.shows.files]
    simp [screen, Screen.compose, Function.comp_def]
  have hsame : (∀ good ∈ lastGood? log, good.1 = d) →
      ∀ row ∈ a.screen.files, ComesFrom log d row.entry := by
    intro hdirectory row hrow
    have hmem : row.entry ∈ a.screen.files.map FileRow.entry := List.mem_map_of_mem hrow
    rw [hkept] at hmem
    cases hlast : lastGood? log with
    | none => simp [hlast] at hmem
    | some good =>
      rw [hlast] at hmem
      have hd : good.1 = d := hdirectory good hlast
      exact comesFrom_of_lastGood? (hd ▸ hlast) hmem
  refine ⟨hkept, fun hvalue => hsame ?_, hsame⟩
  obtain ⟨files, hfiles⟩ := Option.isSome_iff_exists.mp hvalue
  rw [hgood files hfiles]
  rintro good ⟨⟩
  rfl

/-- What the command for a listing comes to, on top of a log: it is rejected, or its call is answered
and goes into the log, and the text is of the directory that was asked for. -/
def ShowsListing (log : List Arrival) (r : (Output × Assistant) × σ × List Arrival) : Prop :=
  (∃ reason, r.1.1.text = Render.rejection reason ∧ r.2.2 = log) ∨
    ∃ t d outcome, r.2.2 = log ++ [⟨⟨.listing, t, d⟩, outcome⟩] ∧
      r.1.1.text = Render.ofListing d outcome r.1.2.screen.files ∧
      StandsUnder r.2.2 d outcome r.1.2.screen.files

theorem Keeps.settleThen (h : Keeps a w.2) {action : Action}
    (hact : (∃ reason, a.act action = (.rejected reason, a)) ∨
      ∃ d, a.act action = (.started (a.listingCall d), a.beginListing d)) :
    ShowsListing w.2 ((Shell.settleThen v.recording.host a action (Render.listing ·.screen)).run w) := by
  rcases hact with ⟨reason, hact⟩ | ⟨d, hact⟩
  · simp only [Shell.settleThen, hact]
    exact .inl ⟨reason, rfl, rfl⟩
  · obtain ⟨outcome, hlog, hkeeps⟩ := h.settle_listing (v := v) d
    simp only [Shell.settleThen, hact]
    refine .inr ⟨a.browser.tickets.next, d, outcome, hlog, hkeeps.text_eq ?_, hkeeps.standsUnder ?_⟩
    · rw [hlog]
      exact Listing.latest?_concat _ d outcome
    · intro files hfiles
      rw [hlog]
      refine (Listing.lastGood?_concat _ d outcome).trans ?_
      rw [hfiles]
      rfl

/-- **What stands under the heading of a listing**, after any commands and whatever their calls came
to: the files of the last listing that ended well.  They are of the directory in the heading if that
listing is the one shown or was of the same directory. -/
theorem rows_under_heading {σ : Type} (v : Service σ) (config : Config) (commands : List Command)
    (s : σ) (command : Command) (hlists : command = .retry ∨ ∃ d, command = .files d) :
    let before := (runAll v.recording.host config {} commands).run (s, [])
    ShowsListing before.2.2 ((run v.recording.host config before.1 command).run before.2) := by
  intro before
  have h : Keeps before.1 before.2.2 :=
    keeps_runAll config commands (s, []) ⟨rfl, rfl, Listing.shows_start⟩
  rcases hlists with rfl | ⟨d, rfl⟩
  · exact h.settleThen before.1.act_retryListing
  · exact h.settleThen (before.1.act_loadListing _)

/-- A service whose first listing ends well, and whose others fail. -/
def onceListing (entry : FileEntry) : Service Nat where
  answer
    | ⟨.listing, _, _⟩ => fun n =>
      (.outcome (if n = 0 then .success [entry] else .failure ⟨.server, "boom"⟩), n + 1)
    | ⟨.chat, _, _⟩ | ⟨.debug, _, _⟩ | ⟨.plan, _, _⟩ | ⟨.content, _, _⟩ | ⟨.index, _, _⟩
    | ⟨.indexStats, _, _⟩ => fun n => (.breakdown, n)
  health := fun n => (.pending, n)

/-- A question is asked between a listing and its retry, which fails: the rows stay. -/
theorem rows_under_heading_retried :
    let v := onceListing ⟨"a/x.py", "x.py", ".py", 3⟩
    let before := (runAll v.recording.host {} {} [.files (some " a"), .ask "why?"]).run (0, [])
    let r := (run v.recording.host {} before.1 .retry).run before.2
    r.1.1.text = "Files in a:\n  🐍 a/x.py (3 bytes)\nError: boom [server]" ++
        "\n  (use /retry to try again)" ∧
      ShowsListing before.2.2 r := by
  intro v before r
  exact ⟨by decide, rows_under_heading v {} _ 0 .retry (.inl rfl)⟩

/-- **Where heading and rows part**: a listing of one directory fails after one of another. -/
theorem rows_of_another_directory :
    let entry : FileEntry := ⟨"a/x.py", "x.py", ".py", 3⟩
    let v := onceListing entry
    let before := (runAll v.recording.host {} {} [.files (some "a")]).run (0, [])
    let r := (run v.recording.host {} before.1 (.files (some "b"))).run before.2
    r.1.1.text = "Files in b:\n  🐍 a/x.py (3 bytes)\nError: boom [server]" ++
        "\n  (use /retry to try again)" ∧
      r.1.2.screen.files = [⟨entry, .python, false⟩] ∧ ¬ ComesFrom r.2.2 "b" entry := by
  intro entry v before r
  have hlog : r.2.2.filterMap Arrival.listing? =
      [("a", .success [entry]), ("b", .failure ⟨.server, "boom"⟩)] := by decide
  refine ⟨by decide, by decide, ?_⟩
  rintro ⟨files, hmem, -⟩
  rw [hlog] at hmem
  simp at hmem

end Shell

end CodeAssistant
