/-
# What stands in the way of an action

An action is carried out unless something stands in its way, and there are three such things: its
slot admits one call at a time and has one, a text that it cannot do without is blank, or there is
nothing that it could repeat.  `Assistant.obstacle?` says so of a state, without a look at the
components' own checks, and `Assistant.wanted?` says what is asked for if nothing stands in the way.

`decides_act` ties the two to what an action does.  What a rejected action leaves behind is what was
there before, but for an index run without a path, which is shown as one that failed.

What there is to repeat is the last thing that was asked for.  That the components remember it is an
invariant of runs (`Remembers`), and it holds however calls end, even if they never do.  Repeating
asks for nothing new, so it is also the last thing that any move named (`Recalls`).

Main statement: `action_accepted_or_unchanged`.
-/
import CodeAssistant.Proofs.Accounts
import Mathlib.Data.List.TakeWhile

namespace CodeAssistant

/-! ## 1. Blank texts -/

namespace Text

/-- Trimming leaves nothing of a list of blanks, and of no other list. -/
theorem trimList_eq_nil_iff {cs : List Char} :
    trimList cs = [] ↔ ∀ c ∈ cs, isBlankChar c = true := by
  rw [trimList, trimEndList, List.reverse_eq_nil_iff, List.dropWhile_eq_nil_iff]
  simp only [List.mem_reverse, trimStartList]
  constructor
  · intro h
    -- the first character that is left would be a blank one
    cases hd : cs.dropWhile isBlankChar with
    | nil => exact List.dropWhile_eq_nil_iff.mp hd
    | cons c rest =>
      have hblank : isBlankChar c = true := h c (by simp [hd])
      have hnot : isBlankChar c = false := head?_dropWhile_not isBlankChar cs c (by simp [hd])
      exact absurd hblank (by simp [hnot])
  · intro h c hc
    exact h c ((List.dropWhile_sublist _).subset hc)

theorem trim_eq_empty_iff {s : String} : trim s = "" ↔ isBlank s = true := by
  rw [← String.toList_inj, toList_trim, isBlank, List.all_eq_true]
  exact trimList_eq_nil_iff

/-- The text is there, and nothing is left to trim. -/
def IsNormal (s : String) : Prop := s ≠ "" ∧ trim s = s

theorem isNormal_trim {s : String} (h : isBlank s = false) : IsNormal (trim s) := by
  refine ⟨?_, trim_trim s⟩
  rw [Ne, trim_eq_empty_iff, h]
  simp

theorem IsNormal.not_blank {s : String} (h : IsNormal s) : isBlank s = false := by
  rw [← Bool.not_eq_true, ← trim_eq_empty_iff, h.2]
  exact h.1

theorem isNormal_of_nonBlank? {s t : String} (h : nonBlank? s = some t) : IsNormal t := by
  unfold nonBlank? at h
  split at h
  · exact absurd h (by simp)
  · rename_i hb
    rw [← Option.some.inj h]
    exact isNormal_trim (by simpa using hb)

theorem bind_nonBlank? (given : Option String) :
    given.bind nonBlank? = (given.filter fun text => !isBlank text).map trim := by
  cases given with
  | none => rfl
  | some text => cases h : isBlank text <;> simp [nonBlank?, Option.filter_some, h]

end Text

/-! ## 2. What an action asks for -/

/-- Another call of the slot has to wait for the one before it. -/
def Slot.isExclusive : Slot → Bool
  | chat | debug | plan | index | indexStats => true
  | listing | content => false

/-- The slot that the action makes a call for.  A reset makes none. -/
def Action.slot? : Action → Option Slot
  | sendChat _ => some .chat
  | requestDebug _ => some .debug
  | requestPlan _ => some .plan
  | loadListing _ | retryListing => some .listing
  | selectFile _ | reloadSelection => some .content
  | triggerIndex _ => some .index
  | refreshIndexStats => some .indexStats
  | resetSession => none

/-- The text that the action can do without, if it is given. -/
def Action.optional? : Action → Option String
  | requestDebug request => request.context
  | requestPlan request => request.scope
  | _ => none

namespace Call

/-- The texts that the call's operation cannot do without. -/
def texts : Call → List String
  | ⟨.chat, _, request⟩ => [request.question]
  | ⟨.debug, _, request⟩ => [request.filePath, request.errorMessage]
  | ⟨.plan, _, request⟩ => [request.goal]
  | ⟨.listing, _, directory⟩ => [directory]
  | ⟨.content, _, path⟩ => [path]
  | ⟨.index, _, request⟩ => [request.repositoryPath]
  | ⟨.indexStats, _, _⟩ => []

/-- The text that it can do without, if it has it. -/
def optional? : Call → Option String
  | ⟨.debug, _, request⟩ => request.context
  | ⟨.plan, _, request⟩ => request.scope
  | ⟨.chat, _, _⟩ | ⟨.listing, _, _⟩ | ⟨.content, _, _⟩ => none
  | ⟨.index, _, _⟩ | ⟨.indexStats, _, _⟩ => none

/-- The directory that the call lists. -/
def directory? : Call → Option String
  | ⟨.listing, _, directory⟩ => some directory
  | ⟨.chat, _, _⟩ | ⟨.debug, _, _⟩ | ⟨.plan, _, _⟩ | ⟨.content, _, _⟩ => none
  | ⟨.index, _, _⟩ | ⟨.indexStats, _, _⟩ => none

/-- What the call adds to the conversation. -/
def turns : Call → List Turn
  | ⟨.chat, _, request⟩ => [.question request.question]
  | ⟨.debug, _, _⟩ | ⟨.plan, _, _⟩ | ⟨.listing, _, _⟩ | ⟨.content, _, _⟩ => []
  | ⟨.index, _, _⟩ | ⟨.indexStats, _, _⟩ => []

/-- The call wants its answer in pieces. -/
def isStreaming : Call → Bool
  | ⟨.chat, _, request⟩ => request.stream
  | ⟨.debug, _, _⟩ | ⟨.plan, _, _⟩ | ⟨.listing, _, _⟩ | ⟨.content, _, _⟩ => false
  | ⟨.index, _, _⟩ | ⟨.indexStats, _, _⟩ => false

end Call

namespace Assistant

variable {a b : Assistant} {action : Action} {c : Call}

/-- The texts that an action cannot do without, in the order in which they are looked at.  An action
that repeats takes its text from what it repeats. -/
def required (a : Assistant) : Action → List (RequiredText × String)
  | .sendChat question => [(.question, question)]
  | .requestDebug request =>
    [(.filePath, request.filePath), (.errorMessage, request.errorMessage)]
  | .requestPlan request => [(.goal, request.goal)]
  | .loadListing directory => [(.directory, directory)]
  | .retryListing => a.browser.listing.directory.toList.map (.directory, ·)
  | .selectFile path => [(.filePath, path)]
  | .reloadSelection => a.browser.selectedPath?.toList.map (.filePath, ·)
  | .triggerIndex path => [(.repositoryPath, path)]
  | .refreshIndexStats | .resetSession => []

/-- What is asked for, in which slot. -/
def wanted? (a : Assistant) : Action → Option ((slot : Slot) × slot.operation.Request)
  | .sendChat question => some ⟨.chat, ⟨Text.trim question, false⟩⟩
  | .requestDebug request => some ⟨.debug, request.normalized⟩
  | .requestPlan request => some ⟨.plan, request.normalized⟩
  | .loadListing directory => some ⟨.listing, Text.trim directory⟩
  | .retryListing => a.browser.listing.directory.map fun d => ⟨.listing, Text.trim d⟩
  | .selectFile path => some ⟨.content, Text.trim path⟩
  | .reloadSelection => a.browser.selectedPath?.map fun p => ⟨.content, Text.trim p⟩
  | .triggerIndex path => some ⟨.index, ⟨Text.trim path⟩⟩
  | .refreshIndexStats => some ⟨.indexStats, ()⟩
  | .resetSession => none

/-! ## 3. What stands in its way -/

/-- The slot admits one call at a time and waits for one. -/
def busy? (a : Assistant) (action : Action) : Option Rejection :=
  match action.slot? with
  | none => none
  | some slot =>
    if slot.isExclusive = true ∧ (a.awaited slot).isSome = true then some (.busy slot) else none

/-- The first required text that is blank. -/
def blank? (a : Assistant) (action : Action) : Option Rejection :=
  ((a.required action).find? fun text => Text.isBlank text.2).map fun text => .emptyField text.1

/-- Nothing was listed, or opened, that could be again. -/
def missing? (a : Assistant) : Action → Option Rejection
  | .retryListing =>
    if a.browser.listing.directory.isNone then some (.nothingToRetry .listing) else none
  | .reloadSelection =>
    if a.browser.selectedPath?.isNone then some (.nothingToRetry .content) else none
  | _ => none

/-- What stands in the way of an action. -/
def obstacle? (a : Assistant) (action : Action) : Option Rejection :=
  (a.busy? action).or ((a.blank? action).or (a.missing? action))

/-- Only a slot that waits is said to be busy. -/
theorem busy?_of_obstacle? {slot : Slot} (h : a.obstacle? action = some (.busy slot)) :
    a.busy? action = some (.busy slot) := by
  rcases Option.or_eq_some_iff.mp h with h | ⟨-, h⟩
  · exact h
  · rcases Option.or_eq_some_iff.mp h with h | ⟨-, h⟩
    · simp [blank?] at h
    · unfold missing? at h
      split at h <;> simp at h

/-- What a rejected action leaves behind.  An index run that sets out while none is under way is
shown as one that failed. -/
def afterRejection (a : Assistant) : Action → Assistant
  | .triggerIndex _ =>
    if (a.awaited .index).isSome then a
    else { a with
      panel := { a.panel with
        trigger := { a.panel.trigger with
          outcome := some (.failure ⟨.validation, IndexPanel.missingPathMessage⟩) } } }
  | _ => a

/-- What an action comes to, told by what stands in its way. -/
inductive Decides (a : Assistant) (action : Action) : Reaction × Assistant → Prop
  | rejected {reason : Rejection} (h : a.obstacle? action = some reason) :
      Decides a action (.rejected reason, a.afterRejection action)
  | started {c : Call} {b : Assistant} (h : a.obstacle? action = none)
      (wanted : a.wanted? action = some ⟨c.slot, c.request⟩)
      (history : b.session.history = a.session.history ++ c.turns)
      (directory : b.browser.listing.directory = c.directory?.or a.browser.listing.directory)
      (path : b.browser.selectedPath? = c.path?.or a.browser.selectedPath?) :
      Decides a action (.started c, b)
  | done (h : action = .resetSession) :
      Decides a action (.done, { a with session := a.session.reset })

/-! ## 4. One action at a time -/

section Obstacles

@[simp] theorem isSome_awaited_chat : (a.awaited .chat).isSome = a.session.isSending := by
  cases h : a.session.mode <;> simp [awaited, Session.isSending, ChatMode.ticket?, h]

@[simp] theorem isSome_awaited_debug : (a.awaited .debug).isSome = a.session.debug.isPending := by
  simp [awaited, SingleFlight.isPending]

@[simp] theorem isSome_awaited_plan : (a.awaited .plan).isSome = a.session.plan.isPending := by
  simp [awaited, SingleFlight.isPending]

@[simp] theorem isSome_awaited_index : (a.awaited .index).isSome = a.panel.trigger.isPending := by
  simp [awaited, SingleFlight.isPending]

@[simp] theorem isSome_awaited_indexStats :
    (a.awaited .indexStats).isSome = a.panel.stats.isPending := by
  simp [awaited, SingleFlight.isPending]

theorem obstacle?_sendChat (a : Assistant) (question : String) :
    a.obstacle? (.sendChat question) =
      if a.session.isSending then some (.busy .chat)
      else if Text.isBlank question then some (.emptyField .question) else none := by
  cases h : a.session.isSending <;> cases hq : Text.isBlank question <;>
    simp [obstacle?, busy?, blank?, missing?, required, Action.slot?, Slot.isExclusive, h, hq]

theorem obstacle?_requestDebug (a : Assistant) (request : DebugRequest) :
    a.obstacle? (.requestDebug request) =
      if a.session.debug.isPending then some (.busy .debug)
      else if Text.isBlank request.filePath then some (.emptyField .filePath)
      else if Text.isBlank request.errorMessage then some (.emptyField .errorMessage) else none := by
  cases h : a.session.debug.isPending <;> cases hf : Text.isBlank request.filePath <;>
    cases he : Text.isBlank request.errorMessage <;>
    simp [obstacle?, busy?, blank?, missing?, required, Action.slot?, Slot.isExclusive, h, hf, he]

theorem obstacle?_requestPlan (a : Assistant) (request : PlanRequest) :
    a.obstacle? (.requestPlan request) =
      if a.session.plan.isPending then some (.busy .plan)
      else if Text.isBlank request.goal then some (.emptyField .goal) else none := by
  cases h : a.session.plan.isPending <;> cases hg : Text.isBlank request.goal <;>
    simp [obstacle?, busy?, blank?, missing?, required, Action.slot?, Slot.isExclusive, h, hg]

theorem obstacle?_loadListing (a : Assistant) (directory : String) :
    a.obstacle? (.loadListing directory) =
      if Text.isBlank directory then some (.emptyField .directory) else none := by
  cases h : Text.isBlank directory <;>
    simp [obstacle?, busy?, blank?, missing?, required, Action.slot?, Slot.isExclusive, h]

theorem obstacle?_selectFile (a : Assistant) (path : String) :
    a.obstacle? (.selectFile path) =
      if Text.isBlank path then some (.emptyField .filePath) else none := by
  cases h : Text.isBlank path <;>
    simp [obstacle?, busy?, blank?, missing?, required, Action.slot?, Slot.isExclusive, h]

/-- A listing is repeated as it would be asked for anew. -/
theorem obstacle?_retryListing (a : Assistant) :
    a.obstacle? .retryListing =
      match a.browser.listing.directory with
      | none => some (.nothingToRetry .listing)
      | some directory => a.obstacle? (.loadListing directory) := by
  cases h : a.browser.listing.directory <;>
    simp [obstacle?, busy?, blank?, missing?, required, Action.slot?, Slot.isExclusive, h]

theorem obstacle?_reloadSelection (a : Assistant) :
    a.obstacle? .reloadSelection =
      match a.browser.selectedPath? with
      | none => some (.nothingToRetry .content)
      | some path => a.obstacle? (.selectFile path) := by
  cases h : a.browser.selectedPath? <;>
    simp [obstacle?, busy?, blank?, missing?, required, Action.slot?, Slot.isExclusive, h]

theorem obstacle?_triggerIndex (a : Assistant) (path : String) :
    a.obstacle? (.triggerIndex path) =
      if a.panel.trigger.isPending then some (.busy .index)
      else if Text.isBlank path then some (.emptyField .repositoryPath) else none := by
  cases h : a.panel.trigger.isPending <;> cases hp : Text.isBlank path <;>
    simp [obstacle?, busy?, blank?, missing?, required, Action.slot?, Slot.isExclusive, h, hp]

theorem obstacle?_refreshIndexStats (a : Assistant) :
    a.obstacle? .refreshIndexStats =
      if a.panel.stats.isPending then some (.busy .indexStats) else none := by
  cases h : a.panel.stats.isPending <;>
    simp [obstacle?, busy?, blank?, missing?, required, Action.slot?, Slot.isExclusive, h]

end Obstacles

section Decisions

variable (a : Assistant)

theorem decides_sendChat (question : String) :
    Decides a (.sendChat question) (a.act (.sendChat question)) := by
  have ho := a.obstacle?_sendChat question
  simp only [act, Session.submit, Text.trim_eq_empty_iff]
  split at ho
  · rw [if_pos ‹_›]
    exact .rejected ho
  · rw [if_neg ‹_›]
    split at ho
    · rw [if_pos ‹_›]
      exact .rejected ho
    · rw [if_neg ‹_›]
      exact .started ho rfl rfl rfl rfl

theorem decides_requestDebug (request : DebugRequest) :
    Decides a (.requestDebug request) (a.act (.requestDebug request)) := by
  have ho := a.obstacle?_requestDebug request
  simp only [act, Session.submitDebug, DebugRequest.normalized, Text.trim_eq_empty_iff]
  split at ho
  · rw [if_pos ‹_›]
    exact .rejected ho
  · rw [if_neg ‹_›]
    split at ho
    · rw [if_pos ‹_›]
      exact .rejected ho
    · rw [if_neg ‹_›]
      split at ho
      · rw [if_pos ‹_›]
        exact .rejected ho
      · rw [if_neg ‹_›]
        exact .started ho rfl (List.append_nil _).symm rfl rfl

theorem decides_requestPlan (request : PlanRequest) :
    Decides a (.requestPlan request) (a.act (.requestPlan request)) := by
  have ho := a.obstacle?_requestPlan request
  simp only [act, Session.submitPlan, PlanRequest.normalized, Text.trim_eq_empty_iff]
  split at ho
  · rw [if_pos ‹_›]
    exact .rejected ho
  · rw [if_neg ‹_›]
    split at ho
    · rw [if_pos ‹_›]
      exact .rejected ho
    · rw [if_neg ‹_›]
      exact .started ho rfl (List.append_nil _).symm rfl rfl

theorem decides_loadListing (directory : String) :
    Decides a (.loadListing directory) (a.act (.loadListing directory)) := by
  have ho := a.obstacle?_loadListing directory
  simp only [act, Browser.loadListing, Text.trim_eq_empty_iff]
  split at ho
  · rw [if_pos ‹_›]
    exact .rejected ho
  · rw [if_neg ‹_›]
    exact .started ho rfl (List.append_nil _).symm rfl rfl

variable {a} in
/-- What repeats another action comes to the same. -/
theorem Decides.again {action' : Action} {r : Reaction × Assistant} (h : Decides a action r)
    (ho : a.obstacle? action' = a.obstacle? action) (hw : a.wanted? action' = a.wanted? action)
    (hr : a.afterRejection action' = a.afterRejection action) (hreset : action ≠ .resetSession) :
    Decides a action' r := by
  cases h with
  | rejected h =>
    rw [← hr]
    exact .rejected (ho.trans h)
  | started h wanted history directory path =>
    exact .started (ho.trans h) (hw.trans wanted) history directory path
  | done h => exact absurd h hreset

theorem decides_retryListing : Decides a .retryListing (a.act .retryListing) := by
  have ho := a.obstacle?_retryListing
  cases hd : a.browser.listing.directory with
  | none =>
    simp only [act, Browser.retryListing, hd] at ho ⊢
    exact .rejected ho
  | some directory =>
    rw [hd] at ho
    have hwanted : a.wanted? .retryListing = a.wanted? (.loadListing directory) := by
      simp [wanted?, hd]
    have hact : a.act .retryListing = a.act (.loadListing directory) := by
      simp only [act, Browser.retryListing, hd]
    rw [hact]
    exact (decides_loadListing a directory).again ho hwanted rfl (by simp)

theorem decides_selectFile (path : String) :
    Decides a (.selectFile path) (a.act (.selectFile path)) := by
  have ho := a.obstacle?_selectFile path
  simp only [act, Browser.selectFile, Text.trim_eq_empty_iff]
  split at ho
  · rw [if_pos ‹_›]
    exact .rejected ho
  · rw [if_neg ‹_›]
    exact .started ho rfl (List.append_nil _).symm rfl rfl

theorem decides_reloadSelection : Decides a .reloadSelection (a.act .reloadSelection) := by
  have ho := a.obstacle?_reloadSelection
  cases hp : a.browser.selectedPath? with
  | none =>
    simp only [act, Browser.reloadSelection, hp] at ho ⊢
    exact .rejected ho
  | some path =>
    rw [hp] at ho
    have hwanted : a.wanted? .reloadSelection = a.wanted? (.selectFile path) := by
      simp [wanted?, hp]
    have hact : a.act .reloadSelection = a.act (.selectFile path) := by
      simp only [act, Browser.reloadSelection, hp]
    rw [hact]
    exact (decides_selectFile a path).again ho hwanted rfl (by simp)

theorem decides_triggerIndex (path : String) :
    Decides a (.triggerIndex path) (a.act (.triggerIndex path)) := by
  have ho := a.obstacle?_triggerIndex path
  have hafter : a.afterRejection (.triggerIndex path) =
      { a with panel := { a.panel with
          trigger := a.panel.trigger.refuse ⟨.validation, IndexPanel.missingPathMessage⟩ } } := by
    simp only [afterRejection, isSome_awaited_index, SingleFlight.refuse]
    split <;> rfl
  simp only [act, IndexPanel.triggerRun, Text.trim_eq_empty_iff]
  split at ho
  · rw [if_pos ‹_›]
    rw [SingleFlight.refuse, if_pos ‹_›] at hafter
    have := Decides.rejected ho
    rwa [hafter] at this
  · rw [if_neg ‹_›]
    split at ho
    · rw [if_pos ‹_›]
      have := Decides.rejected ho
      rwa [hafter] at this
    · rw [if_neg ‹_›]
      exact .started ho rfl (List.append_nil _).symm rfl rfl

theorem decides_refreshIndexStats :
    Decides a .refreshIndexStats (a.act .refreshIndexStats) := by
  have ho := a.obstacle?_refreshIndexStats
  simp only [act, IndexPanel.refreshStats]
  split at ho
  · rw [if_pos ‹_›]
    exact .rejected ho
  · rw [if_neg ‹_›]
    exact .started ho rfl (List.append_nil _).symm rfl rfl

/-- **An action does what its obstacles say.** -/
theorem decides_act (action : Action) : Decides a action (a.act action) := by
  cases action with
  | sendChat question => exact decides_sendChat a question
  | requestDebug request => exact decides_requestDebug a request
  | requestPlan request => exact decides_requestPlan a request
  | loadListing directory => exact decides_loadListing a directory
  | retryListing => exact decides_retryListing a
  | selectFile path => exact decides_selectFile a path
  | reloadSelection => exact decides_reloadSelection a
  | triggerIndex path => exact decides_triggerIndex a path
  | refreshIndexStats => exact decides_refreshIndexStats a
  | resetSession => exact .done rfl

end Decisions

/-! ## 5. What is rejected and what is called for -/

theorem rejected_iff {reason : Rejection} :
    (a.act action).1 = .rejected reason ↔ a.obstacle? action = some reason := by
  have hd := decides_act a action
  generalize a.act action = r at hd ⊢
  cases hd with
  | rejected h => simp [h]
  | started h => simp [h]
  | done h =>
    subst h
    simp [obstacle?, busy?, blank?, missing?, required, Action.slot?]

theorem done_iff : (a.act action).1 = .done ↔ action = .resetSession := by
  constructor
  · have hd := decides_act a action
    generalize a.act action = r at hd ⊢
    cases hd with
    | rejected h => exact fun hr => absurd hr (by simp)
    | started h => exact fun hr => absurd hr (by simp)
    | done h => exact fun _ => h
  · rintro rfl
    rfl

/-- **A rejected action leaves what was there before**, but for an index run without a path that
sets out while none is under way. -/
theorem eq_of_rejected {reason : Rejection} (h : a.act action = (.rejected reason, b)) :
    ((∀ path, action = .triggerIndex path → a.awaited .index ≠ none) ∧ b = a) ∨
      ∃ path, action = .triggerIndex path ∧ Text.isBlank path = true ∧ a.awaited .index = none ∧
        b = { a with
          panel := { a.panel with
            trigger := { a.panel.trigger with
              outcome := some (.failure ⟨.validation, IndexPanel.missingPathMessage⟩) } } } := by
  have ho : a.obstacle? action = some reason := rejected_iff.mp (congrArg Prod.fst h)
  have hb : b = a.afterRejection action := by
    have hd := decides_act a action
    rw [h] at hd
    cases hd
    rfl
  cases action with
  | triggerIndex path =>
    rw [obstacle?_triggerIndex] at ho
    rw [afterRejection, isSome_awaited_index] at hb
    cases hp : a.panel.trigger.isPending with
    | true =>
      rw [if_pos hp] at hb
      refine .inl ⟨fun _ _ => ?_, hb⟩
      rw [← Option.isSome_iff_ne_none, isSome_awaited_index, hp]
    | false =>
      rw [if_neg (by simp [hp])] at hb ho
      refine .inr ⟨path, rfl, ?_, ?_, hb⟩
      · by_contra hblank
        exact absurd ho (by simp [hblank])
      · rw [← Option.not_isSome_iff_eq_none, isSome_awaited_index, hp]
        simp
  | _ => exact .inl ⟨by simp, hb⟩

/-- The call that is made is for what is wanted. -/
theorem payload_of_wanted (h : a.wanted? action = some ⟨c.slot, c.request⟩) :
    action.slot? = some c.slot ∧
      c.texts = (a.required action).map (fun text => Text.trim text.2) ∧
      c.optional? = (action.optional?.filter fun text => !Text.isBlank text).map Text.trim ∧
      c.isStreaming = false := by
  obtain ⟨slot, ticket, request⟩ := c
  rw [← Text.bind_nonBlank?]
  cases action with
  | retryListing =>
    obtain ⟨directory, hd, h⟩ := Option.map_eq_some_iff.mp h
    cases h
    refine ⟨rfl, ?_, rfl, rfl⟩
    rw [required, hd]
    rfl
  | reloadSelection =>
    obtain ⟨path, hp, h⟩ := Option.map_eq_some_iff.mp h
    cases h
    refine ⟨rfl, ?_, rfl, rfl⟩
    rw [required, hp]
    rfl
  | resetSession => exact absurd h (by simp [wanted?])
  | _ =>
    cases h
    exact ⟨rfl, rfl, rfl, rfl⟩

theorem not_blank_of_obstacle?_eq_none (h : a.obstacle? action = none) :
    ∀ text ∈ a.required action, Text.isBlank text.2 = false := by
  have hb : a.blank? action = none := (Option.or_eq_none_iff.mp (Option.or_eq_none_iff.mp h).2).1
  intro text ht
  simpa using List.find?_eq_none.mp (Option.map_eq_none_iff.mp hb) text ht

/-- A call that is made has all texts that its operation cannot do without. -/
theorem isNormal_of_texts (h : a.obstacle? action = none)
    (hc : c.texts = (a.required action).map fun text => Text.trim text.2) :
    ∀ text ∈ c.texts, Text.IsNormal text := by
  rw [hc]
  intro text ht
  obtain ⟨given, hgiven, rfl⟩ := List.mem_map.mp ht
  exact Text.isNormal_trim (not_blank_of_obstacle?_eq_none h given hgiven)

/-- Where nothing stands in the way, a call is made. -/
theorem started_of_obstacle?_eq_none (h : a.obstacle? action = none)
    (hreset : action ≠ .resetSession) :
    ∃ c b, a.act action = (.started c, b) ∧ a.wanted? action = some ⟨c.slot, c.request⟩ := by
  have hd := decides_act a action
  generalize a.act action = r at hd ⊢
  cases hd with
  | rejected hr => exact absurd (h.symm.trans hr) (by simp)
  | started _ wanted => exact ⟨_, _, rfl, wanted⟩
  | done hdone => exact absurd hdone hreset

/-! ## 6. What the components remember -/

/-- Nothing is asked for between `a` and `b`, and nothing that was asked for is forgotten. -/
structure Stays (a b : Assistant) : Prop where
  issuer : ∀ o, (b.issuer o).issued = (a.issuer o).issued
  directory : b.browser.listing.directory = a.browser.listing.directory
  path : b.browser.selectedPath? = a.browser.selectedPath?

theorem Stays.refl (a : Assistant) : Stays a a := ⟨fun _ => rfl, rfl, rfl⟩

theorem Stays.trans {a b c : Assistant} (h : Stays a b) (h' : Stays b c) : Stays a c :=
  ⟨fun o => (h'.issuer o).trans (h.issuer o), h'.directory.trans h.directory, h'.path.trans h.path⟩

theorem stays_write (a : Assistant) (x : Arrival) : Stays a (a.write x) := by
  refine ⟨fun o => by rw [issuer_write], ?_, ?_⟩
  · obtain ⟨⟨slot, ticket, request⟩, outcome⟩ := x
    cases slot <;> rfl
  · obtain ⟨⟨slot, ticket, request⟩, outcome⟩ := x
    cases slot with
    | content =>
      simp only [write, Browser.selectedPath?, Browser.endFetch, Option.map_map]
      rfl
    | _ => rfl

theorem stays_take (a : Assistant) (x : Arrival) : Stays a (a.take x).2 := by
  by_cases h : a.Takes x
  · rw [take_eq_of_takes h]
    have hw := stays_write a x
    exact ⟨hw.issuer, hw.directory, hw.path⟩
  · rw [take_eq_of_not_takes h]
    exact ⟨fun _ => rfl, rfl, rfl⟩

theorem stays_takeAll : ∀ (xs : List Arrival) (a : Assistant), Stays a (a.takeAll xs).2
  | [], a => Stays.refl a
  | x :: xs, a => (stays_take a x).trans (stays_takeAll xs _)

/-- What is remembered does not depend on what is under way. -/
theorem Stays.requeue {running : List Call} {arrived : List Arrival}
    (h : Stays { a with running, arrived } b) : Stays a b :=
  ⟨h.issuer, h.directory, h.path⟩

theorem stays_finish (a : Assistant) (g : Gateway) (place : Nat) : Stays a (a.finish g place) := by
  unfold finish
  split <;> exact ⟨fun _ => rfl, rfl, rfl⟩

theorem stays_nextEvent (a : Assistant) : Stays a a.nextEvent.2 := by
  unfold nextEvent
  split
  · exact Stays.refl a
  · split
    · exact Stays.refl a
    · exact (stays_take _ _).requeue

theorem stays_drain (a : Assistant) : Stays a a.drain.2 := (stays_takeAll _ _).requeue

theorem stays_act (h : ∀ c, (a.act action).1 ≠ .started c) : Stays a (a.act action).2 := by
  have hd := decides_act a action
  generalize a.act action = r at hd h ⊢
  cases hd with
  | started => exact absurd rfl (h _)
  | done => exact ⟨by rintro (_ | _) <;> rfl, rfl, rfl⟩
  | rejected =>
    cases action with
    | triggerIndex path =>
      simp only [afterRejection]
      split
      · exact Stays.refl a
      · exact ⟨by rintro (_ | _) <;> rfl, rfl, rfl⟩
    | _ => exact Stays.refl a

/-- The directory that the move names to be listed, trimmed.  A blank one names nothing. -/
def Move.directory? : Move → Option String
  | act (.loadListing directory) =>
    if Text.isBlank directory then none else some (Text.trim directory)
  | _ => none

/-- The file that the move names to be opened, trimmed.  A blank one names nothing. -/
def Move.path? : Move → Option String
  | act (.selectFile path) => if Text.isBlank path then none else some (Text.trim path)
  | _ => none

/-- An action that makes no call names nothing. -/
theorem names_nothing (h : ∀ c, (a.act action).1 ≠ .started c) :
    (Move.act action).directory? = none ∧ (Move.act action).path? = none := by
  have hblocked : action ≠ .resetSession → a.obstacle? action ≠ none := by
    intro hreset hfree
    obtain ⟨c, b, hact, -⟩ := started_of_obstacle?_eq_none hfree hreset
    exact h c (congrArg Prod.fst hact)
  cases action with
  | loadListing directory =>
    refine ⟨if_pos ?_, rfl⟩
    by_contra hb
    exact hblocked (by simp) (by rw [obstacle?_loadListing, if_neg hb])
  | selectFile path =>
    refine ⟨rfl, if_pos ?_⟩
    by_contra hb
    exact hblocked (by simp) (by rw [obstacle?_selectFile, if_neg hb])
  | _ => exact ⟨rfl, rfl⟩

/-- **A move makes a call, or what is remembered stays.** -/
theorem move_cases (l : Ledger) (m : Move) :
    (∃ action c b, m = .act action ∧ Accepted l.assistant b c ∧
      Decides l.assistant action (.started c, b.start c) ∧
      l.move m = { l with assistant := b.start c, started := l.started ++ [c] }) ∨
    (m.directory? = none ∧ m.path? = none ∧ (l.move m).started = l.started ∧
      Stays l.assistant (l.move m).assistant) := by
  cases m with
  | act action =>
    rcases act_cases l.assistant action with ⟨c, b, hact, hc⟩ | ⟨hnone, -⟩
    · have hd := decides_act l.assistant action
      rw [hact] at hd
      exact .inl ⟨action, c, b, rfl, hc, hd, by simp only [Ledger.move, hact]⟩
    · obtain ⟨hdirectory, hpath⟩ := names_nothing hnone
      have hs := stays_act hnone
      refine .inr ⟨hdirectory, hpath, ?_⟩
      rcases hact : l.assistant.act action with ⟨_ | _ | _, a⟩
      · exact absurd (congrArg Prod.fst hact) (hnone _)
      · rw [hact] at hs
        simp only [Ledger.move, hact]
        exact ⟨trivial, hs⟩
      · rw [hact] at hs
        simp only [Ledger.move, hact]
        exact ⟨trivial, hs⟩
  | finish g place => exact .inr ⟨rfl, rfl, rfl, stays_finish _ g place⟩
  | nextEvent =>
    refine .inr ⟨rfl, rfl, ?_⟩
    have hs := stays_nextEvent l.assistant
    rcases hn : l.assistant.nextEvent with ⟨_ | _ | _, a⟩ <;> rw [hn] at hs <;>
      simp only [Ledger.move, hn] <;> exact ⟨trivial, hs⟩
  | drain => exact .inr ⟨rfl, rfl, rfl, stays_drain _⟩
  | settle g => exact .inr ⟨rfl, rfl, rfl, (stays_drain (l.assistant.finishAll g)).requeue⟩

/-- The components remember what the books say. -/
structure Remembers (l : Ledger) : Prop where
  /-- No ticket is from the future. -/
  issued : ∀ c ∈ l.started, c.ticket.sequence ≤ (l.assistant.issuer c.slot.owner).issued
  /-- The last directory that was asked for. -/
  directory : l.assistant.browser.listing.directory =
    (l.started.filterMap Call.directory?).getLast?
  /-- The last file that was asked for. -/
  path : l.assistant.browser.selectedPath? = (l.started.filterMap Call.path?).getLast?
  normal : ∀ c ∈ l.started, ∀ text ∈ c.texts, Text.IsNormal text

theorem remembers_start : Remembers {} := ⟨by simp, rfl, rfl, by simp⟩

theorem Remembers.stays {l l' : Ledger} (h : Remembers l) (hs : Stays l.assistant l'.assistant)
    (hstarted : l'.started = l.started) : Remembers l' := by
  refine ⟨fun c hc => ?_, ?_, ?_, ?_⟩
  · rw [hs.issuer]
    exact h.issued c (hstarted ▸ hc)
  · rw [hs.directory, h.directory, hstarted]
  · rw [hs.path, h.path, hstarted]
  · rw [hstarted]
    exact h.normal

theorem getLast?_filterMap_concat {α β : Type} (f : α → Option β) (xs : List α) (x : α) :
    ((xs ++ [x]).filterMap f).getLast? = (f x).or (xs.filterMap f).getLast? := by
  rw [List.filterMap_append, List.getLast?_append]
  cases h : f x <;> simp [h]

/-- A new ticket is above every ticket that its component has issued. -/
theorem Remembers.not_mem_keys {l : Ledger} (h : Remembers l)
    (hc : c.ticket = (l.assistant.issuer c.slot.owner).next) :
    c.key ∉ l.started.map Call.key := by
  intro hmem
  obtain ⟨d, hd, hk⟩ := List.mem_map.mp hmem
  have howner : d.slot.owner = c.slot.owner := congrArg Prod.fst hk
  have hticket : d.ticket = c.ticket := congrArg Prod.snd hk
  have hle := h.issued d hd
  rw [howner, hticket, hc] at hle
  exact Nat.not_succ_le_self _ hle

/-- What is asked for is remembered from then on. -/
theorem Remembers.started {l : Ledger} (h : Remembers l) (hc : Accepted l.assistant b c)
    (hd : Decides l.assistant action (.started c, b.start c)) :
    Remembers { l with assistant := b.start c, started := l.started ++ [c] } := by
  cases hd with
  | started hnone wanted history directory path =>
    refine ⟨fun d hmem => ?_, ?_, ?_, fun d hmem => ?_⟩
    · show d.ticket.sequence ≤ (b.issuer d.slot.owner).issued
      rw [hc.issuer]
      rcases List.mem_append.mp hmem with hmem | hmem
      · have hle := h.issued d hmem
        split
        · exact Nat.le_succ_of_le hle
        · exact hle
      · rw [List.mem_singleton.mp hmem, if_pos rfl, hc.ticket]
        exact Nat.le_refl _
    · rw [getLast?_filterMap_concat, directory, h.directory]
    · rw [getLast?_filterMap_concat, path, h.path]
    · rcases List.mem_append.mp hmem with hmem | hmem
      · exact h.normal d hmem
      · rw [List.mem_singleton.mp hmem]
        exact isNormal_of_texts hnone (payload_of_wanted wanted).2.1

theorem Remembers.move {l : Ledger} (h : Remembers l) (m : Move) : Remembers (l.move m) := by
  rcases move_cases l m with ⟨action, c, b, -, hc, hd, hmove⟩ | ⟨-, -, hstarted, hs⟩
  · rw [hmove]
    exact h.started hc hd
  · exact h.stays hs hstarted

theorem remembers_run (moves : List Move) : Remembers (Ledger.run moves) := by
  induction moves using List.reverseRecOn with
  | nil => exact remembers_start
  | append_singleton moves m ih =>
    rw [Ledger.run_append]
    exact ih.move m

/-! ## 7. Repeating -/

/-- What was asked for is fit to be asked for again. -/
theorem Remembers.isNormal_directory {l : Ledger} (h : Remembers l) {directory : String}
    (hd : l.assistant.browser.listing.directory = some directory) : Text.IsNormal directory := by
  rw [h.directory] at hd
  obtain ⟨⟨slot, ticket, request⟩, hc, hr⟩ := List.mem_filterMap.mp (List.mem_of_getLast? hd)
  cases slot with
  | listing =>
    obtain rfl := Option.some.inj hr
    exact h.normal _ hc _ (by simp [Call.texts])
  | _ => exact absurd hr (by simp [Call.directory?])

theorem Remembers.isNormal_path {l : Ledger} (h : Remembers l) {path : String}
    (hp : l.assistant.browser.selectedPath? = some path) : Text.IsNormal path := by
  rw [h.path] at hp
  obtain ⟨⟨slot, ticket, request⟩, hc, hr⟩ := List.mem_filterMap.mp (List.mem_of_getLast? hp)
  cases slot with
  | content =>
    obtain rfl := Option.some.inj hr
    exact h.normal _ hc _ (by simp [Call.texts])
  | _ => exact absurd hr (by simp [Call.path?])

/-- What was listed last can be listed again. -/
theorem Remembers.act_retryListing {l : Ledger} (h : Remembers l) {directory : String}
    (hd : l.assistant.browser.listing.directory = some directory) :
    ∃ c b, l.assistant.act .retryListing = (.started c, b) ∧ c.directory? = some directory := by
  have hn := h.isNormal_directory hd
  have hfree : l.assistant.obstacle? .retryListing = none := by
    simp [obstacle?_retryListing, hd, obstacle?_loadListing, hn.not_blank]
  obtain ⟨⟨slot, ticket, request⟩, b, hact, hwanted⟩ :=
    started_of_obstacle?_eq_none hfree (by simp)
  rw [wanted?, hd, Option.map_some, hn.2] at hwanted
  cases hwanted
  exact ⟨_, b, hact, rfl⟩

/-- What was opened last can be opened again. -/
theorem Remembers.act_reloadSelection {l : Ledger} (h : Remembers l) {path : String}
    (hp : l.assistant.browser.selectedPath? = some path) :
    ∃ c b, l.assistant.act .reloadSelection = (.started c, b) ∧ c.path? = some path := by
  have hn := h.isNormal_path hp
  have hfree : l.assistant.obstacle? .reloadSelection = none := by
    simp [obstacle?_reloadSelection, hp, obstacle?_selectFile, hn.not_blank]
  obtain ⟨⟨slot, ticket, request⟩, b, hact, hwanted⟩ :=
    started_of_obstacle?_eq_none hfree (by simp)
  rw [wanted?, hp, Option.map_some, hn.2] at hwanted
  cases hwanted
  exact ⟨_, b, hact, rfl⟩

/-! ## 8. What was named -/

/-- A call lists, or opens, what its action names, or else what was listed or opened before. -/
theorem Remembers.named {l : Ledger} (h : Remembers l)
    (hfree : l.assistant.obstacle? action = none)
    (hwanted : l.assistant.wanted? action = some ⟨c.slot, c.request⟩) :
    c.directory?.or l.assistant.browser.listing.directory =
        (Move.act action).directory?.or l.assistant.browser.listing.directory ∧
      c.path?.or l.assistant.browser.selectedPath? =
        (Move.act action).path?.or l.assistant.browser.selectedPath? := by
  obtain ⟨slot, ticket, request⟩ := c
  have hnot := not_blank_of_obstacle?_eq_none hfree
  cases action with
  | loadListing directory =>
    have hb : Text.isBlank directory = false := hnot (.directory, directory) (by simp [required])
    cases hwanted
    refine ⟨?_, rfl⟩
    rw [Move.directory?, if_neg (by simp [hb])]
    rfl
  | selectFile path =>
    have hb : Text.isBlank path = false := hnot (.filePath, path) (by simp [required])
    cases hwanted
    refine ⟨rfl, ?_⟩
    rw [Move.path?, if_neg (by simp [hb])]
    rfl
  | retryListing =>
    obtain ⟨directory, hd, hwanted⟩ := Option.map_eq_some_iff.mp hwanted
    cases hwanted
    refine ⟨?_, rfl⟩
    rw [hd]
    exact congrArg some (h.isNormal_directory hd).2
  | reloadSelection =>
    obtain ⟨path, hp, hwanted⟩ := Option.map_eq_some_iff.mp hwanted
    cases hwanted
    refine ⟨rfl, ?_⟩
    rw [hp]
    exact congrArg some (h.isNormal_path hp).2
  | resetSession => exact absurd hwanted (by simp [wanted?])
  | _ =>
    cases hwanted
    exact ⟨rfl, rfl⟩

/-- The components remember what was named last, whether or not it was asked for again. -/
structure Recalls (moves : List Move) (a : Assistant) : Prop where
  directory : a.browser.listing.directory = (moves.filterMap Move.directory?).getLast?
  path : a.browser.selectedPath? = (moves.filterMap Move.path?).getLast?

theorem Recalls.move {moves : List Move} {l : Ledger} (h : Recalls moves l.assistant)
    (hr : Remembers l) (m : Move) : Recalls (moves ++ [m]) (l.move m).assistant := by
  rcases move_cases l m with ⟨action, c, b, rfl, -, hd, hmove⟩ | ⟨hdirectory, hpath, -, hs⟩
  · rw [hmove]
    cases hd with
    | started hfree wanted _ directory path =>
      obtain ⟨hdirectory, hpath⟩ := hr.named hfree wanted
      constructor
      · rw [getLast?_filterMap_concat, directory, hdirectory, h.directory]
      · rw [getLast?_filterMap_concat, path, hpath, h.path]
  · constructor
    · rw [getLast?_filterMap_concat, hdirectory, Option.none_or, hs.directory, h.directory]
    · rw [getLast?_filterMap_concat, hpath, Option.none_or, hs.path, h.path]

theorem recalls_run (moves : List Move) : Recalls moves (Ledger.run moves).assistant := by
  induction moves using List.reverseRecOn with
  | nil => exact ⟨rfl, rfl⟩
  | append_singleton moves m ih =>
    rw [Ledger.run_append]
    exact ih.move (remembers_run moves) m

/-! ## 9. All of it -/

/-- What an accepted action has done: one call is made, under a new ticket, for what was given
without its blanks. -/
theorem Remembers.of_started {l : Ledger} (h : Remembers l)
    (hact : l.assistant.act action = (.started c, b)) :
    b.running = l.assistant.running ++ [c] ∧ b.arrived = l.assistant.arrived ∧
      b.inFlight = l.assistant.inFlight + 1 ∧ action.slot? = some c.slot ∧
      c.key ∉ l.started.map Call.key ∧
      c.texts = (l.assistant.required action).map (fun text => Text.trim text.2) ∧
      (∀ text ∈ c.texts, Text.IsNormal text) ∧
      c.optional? = (action.optional?.filter fun text => !Text.isBlank text).map Text.trim ∧
      c.isStreaming = false ∧
      b.session.history = l.assistant.session.history ++ c.turns := by
  have hd := decides_act l.assistant action
  rcases act_cases l.assistant action with ⟨c', b', hr, hc⟩ | ⟨hr, -⟩
  · obtain ⟨hc', hb⟩ := Prod.mk.inj (hr.symm.trans hact)
    cases hc'
    subst hb
    rw [hr] at hd
    cases hd with
    | started hfree wanted history _ _ =>
      obtain ⟨hslot, htexts, hoptional, hstreaming⟩ := payload_of_wanted wanted
      refine ⟨?_, hc.same.arrived, ?_, hslot, h.not_mem_keys hc.ticket, htexts,
        isNormal_of_texts hfree htexts, hoptional, hstreaming, history⟩
      · rw [start, hc.same.running]
      · rw [start, hc.same.inFlight]
  · exact absurd (congrArg Prod.fst hact) (hr c)

/-- **An action is carried out whole or not at all**, in every state that a run can reach, however
calls end.

1. It is rejected exactly if something stands in its way, and the reason says what.
2. A rejected action leaves everything as it was, tickets and calls included; only a run of the
   index without a path, while none is under way, is shown as one that failed.
3. An accepted action makes one call, in its own slot, under a ticket that its component never
   issued before.  Its required texts are those that were given, trimmed, and none is blank; its
   optional text is the one that was given, trimmed, unless that is blank.  A question is not
   streamed, and joins the conversation as it is asked; no other call adds to the conversation.
4. Only a reset does neither.
5. The directory and the file that can be repeated are the ones that were named last, by whichever
   moves, and the ones that were asked for last.  Repeating them is accepted and asks for the
   same. -/
theorem action_accepted_or_unchanged (moves : List Move) (action : Action) :
    let l := Ledger.run moves
    let a := l.assistant
    (∀ reason, (a.act action).1 = .rejected reason ↔ a.obstacle? action = some reason) ∧
    (∀ reason b, a.act action = (.rejected reason, b) →
      ((∀ path, action = .triggerIndex path → a.awaited .index ≠ none) ∧ b = a) ∨
        ∃ path, action = .triggerIndex path ∧ Text.isBlank path = true ∧ a.awaited .index = none ∧
          b = { a with
            panel := { a.panel with
              trigger := { a.panel.trigger with
                outcome := some (.failure ⟨.validation, IndexPanel.missingPathMessage⟩) } } }) ∧
    (∀ c b, a.act action = (.started c, b) →
      b.running = a.running ++ [c] ∧ b.arrived = a.arrived ∧ b.inFlight = a.inFlight + 1 ∧
        action.slot? = some c.slot ∧ c.key ∉ l.started.map Call.key ∧
        c.texts = (a.required action).map (fun text => Text.trim text.2) ∧
        (∀ text ∈ c.texts, Text.IsNormal text) ∧
        c.optional? = (action.optional?.filter fun text => !Text.isBlank text).map Text.trim ∧
        c.isStreaming = false ∧ b.session.history = a.session.history ++ c.turns) ∧
    ((a.act action).1 = .done ↔ action = .resetSession) ∧
    (a.browser.listing.directory = (moves.filterMap Move.directory?).getLast? ∧
      a.browser.listing.directory = (l.started.filterMap Call.directory?).getLast? ∧
      ∀ directory, a.browser.listing.directory = some directory →
        ∃ c b, a.act .retryListing = (.started c, b) ∧ c.directory? = some directory) ∧
    (a.browser.selectedPath? = (moves.filterMap Move.path?).getLast? ∧
      a.browser.selectedPath? = (l.started.filterMap Call.path?).getLast? ∧
      ∀ path, a.browser.selectedPath? = some path →
        ∃ c b, a.act .reloadSelection = (.started c, b) ∧ c.path? = some path) := by
  intro l a
  have h : Remembers l := remembers_run moves
  have hnamed : Recalls moves a := recalls_run moves
  exact ⟨fun _ => rejected_iff, fun _ _ => eq_of_rejected, fun _ _ => h.of_started, done_iff,
    ⟨hnamed.directory, h.directory, fun _ => h.act_retryListing⟩,
    hnamed.path, h.path, fun _ => h.act_reloadSelection⟩

/-- A question and a listing that is repeated, after a listing that was asked for and one that
named no directory. -/
theorem action_accepted_or_unchanged_retry :
    let moves := [Move.act (.loadListing " src "), .act (.loadListing " ")]
    let a := (Ledger.run moves).assistant
    (∃ c b, a.act (.sendChat " why?\n") = (.started c, b) ∧
        Action.slot? (.sendChat " why?\n") = some c.slot ∧ c.texts = ["why?"] ∧
        b.session.history = a.session.history ++ c.turns ∧ c.turns = [.question "why?"]) ∧
      a.browser.listing.directory = some "src" ∧
      ∃ c b, a.act .retryListing = (.started c, b) ∧ c.directory? = some "src" := by
  intro moves a
  have hlisted : a.browser.listing.directory = some "src" := by decide
  have hasked := (action_accepted_or_unchanged moves (.sendChat " why?\n")).2.2.1 _ _ rfl
  have hrepeat := (action_accepted_or_unchanged moves .retryListing).2.2.2.2.1.2.2 "src" hlisted
  obtain ⟨-, -, -, hslot, -, htexts, -, -, -, hhistory⟩ := hasked
  exact ⟨⟨_, _, rfl, hslot, htexts, hhistory, by decide⟩, hlisted, hrepeat⟩

end Assistant

end CodeAssistant
