/-
# What is typed is what is asked

A line is trimmed twice on its way to the backend, once when it is read as a command and once by the
component that the command is for.  The second time changes nothing: every text of a command that
was read from a line is there and has no blanks around it (`isNormal_parse?`), and of such texts the
components keep every character and reject none.

What is noted down of a service's requests is therefore what the commands say, word for word.  A
listing without a directory is of the one that was asked for last, and there always is one, since
the program starts with a listing.

Main statement: `requests_verbatim`.
-/
import CodeAssistant.Proofs.Characters
import CodeAssistant.Proofs.Quiescence

namespace CodeAssistant

open Text (IsNormal)

/-! ## 1. Texts of commands -/

namespace Text

theorem isNormal_ofList {cs : List Char} (ht : trimList cs = cs) (hne : cs ≠ []) :
    IsNormal (String.ofList cs) := by
  constructor
  · simpa [← String.toList_inj] using hne
  · rw [trim, String.toList_ofList, ht]

theorem IsNormal.nonBlank?_eq {s : String} (h : IsNormal s) : nonBlank? s = some s := by
  rw [nonBlank?, h.not_blank, if_neg (by simp), h.2]

end Text

namespace Shell

/-- The texts of a command that go to the backend. -/
def Command.texts : Command → List String
  | .ask question => [question]
  | .files directory => directory.toList
  | .openFile path | .index path => [path]
  | .debug request => request.filePath :: request.errorMessage :: request.context.toList
  | .plan request => request.goal :: request.scope.toList
  | .retry | .stats | .health | .reset | .help | .quit | .usage _ | .unknown _ => []

/-- Every text of the command is there, with no blanks around it. -/
def Command.IsNormal (command : Command) : Prop := ∀ text ∈ command.texts, Text.IsNormal text

theorem isNormal_of_texts_eq_nil {command : Command} (h : command.texts = []) :
    command.IsNormal := by
  simp [Command.IsNormal, h]

theorem isNormal_of_mem_splitFields {limit : Nat} {text : List Char} {field : String}
    (h : field ∈ splitFields limit text) (hne : field ≠ "") : IsNormal field := by
  obtain ⟨cs, -, rfl⟩ := List.mem_map.mp h
  refine Text.isNormal_ofList (Text.isTrimmed_trimList cs).trimList_eq ?_
  rintro hnil
  exact hne (by rw [hnil])

theorem isNormal_withArgument {make : String → Command} {usage : String} {arguments : List Char}
    (hmake : ∀ text, (make text).texts = [text]) :
    (withArgument make usage arguments).IsNormal := by
  unfold withArgument
  split
  · rename_i argument h
    intro text ht
    rw [hmake, List.mem_singleton] at ht
    rw [ht]
    exact Text.isNormal_of_nonBlank? h
  · exact isNormal_of_texts_eq_nil rfl

theorem isNormal_parseDebug (arguments : List Char) : (parseDebug arguments).IsNormal := by
  unfold parseDebug
  dsimp only
  split
  · rename_i file error more h
    split
    · exact isNormal_of_texts_eq_nil rfl
    · rename_i hne
      simp only [Bool.or_eq_true, decide_eq_true_eq, not_or] at hne
      intro text ht
      have hfile : file ∈ splitFields 3 arguments := by simp [h]
      have herror : error ∈ splitFields 3 arguments := by simp [h]
      simp only [Command.texts, List.mem_cons, Option.mem_toList] at ht
      rcases ht with rfl | rfl | ht
      · exact isNormal_of_mem_splitFields hfile hne.1
      · exact isNormal_of_mem_splitFields herror hne.2
      · obtain ⟨given, -, hgiven⟩ := Option.bind_eq_some_iff.mp ht
        exact Text.isNormal_of_nonBlank? hgiven
  · exact isNormal_of_texts_eq_nil rfl

theorem isNormal_parsePlan (arguments : List Char) : (parsePlan arguments).IsNormal := by
  unfold parsePlan
  dsimp only
  split
  · rename_i goal more h
    split
    · exact isNormal_of_texts_eq_nil rfl
    · rename_i hne
      intro text ht
      have hgoal : goal ∈ splitFields 2 arguments := by simp [h]
      simp only [Command.texts, List.mem_cons, Option.mem_toList] at ht
      rcases ht with rfl | ht
      · exact isNormal_of_mem_splitFields hgoal hne
      · obtain ⟨given, -, hgiven⟩ := Option.bind_eq_some_iff.mp ht
        exact Text.isNormal_of_nonBlank? hgiven
  · exact isNormal_of_texts_eq_nil rfl

theorem isNormal_parseNamed (name : String) (arguments : List Char) :
    (parseNamed name arguments).IsNormal := by
  unfold parseNamed
  split
  · intro text ht
    exact Text.isNormal_of_nonBlank? (Option.mem_toList.mp ht)
  · exact isNormal_of_texts_eq_nil rfl
  · exact isNormal_withArgument fun _ => rfl
  · exact isNormal_parseDebug arguments
  · exact isNormal_parsePlan arguments
  · exact isNormal_withArgument fun _ => rfl
  all_goals exact isNormal_of_texts_eq_nil rfl

/-- **A command that was read from a line is normal.** -/
theorem isNormal_parse? {line : String} {command : Command}
    (h : Command.parse? line = some command) : command.IsNormal := by
  unfold Command.parse? at h
  split at h
  · exact absurd h (by simp)
  · rw [← Option.some.inj h]
    exact isNormal_parseNamed _ _
  · rename_i hne _
    rw [← Option.some.inj h]
    intro text ht
    rw [List.mem_singleton.mp ht]
    exact Text.isNormal_ofList (Text.isTrimmed_trimList _).trimList_eq hne

/-- The directory that the program starts with is normal. -/
theorem isNormal_defaultDirectory (environment : String → Option String) :
    IsNormal (Config.ofEnvironment environment).defaultDirectory := by
  unfold Config.ofEnvironment ClientConfig.setting?
  cases h : (environment "VIBE_DEFAULT_DIRECTORY").bind Text.nonBlank? with
  | none =>
    constructor
    · decide
    · decide
  | some directory =>
    obtain ⟨given, -, hgiven⟩ := Option.bind_eq_some_iff.mp h
    exact Text.isNormal_of_nonBlank? hgiven

end Shell

/-! ## 2. What a service is asked -/

/-- A request, with the operation that it is for. -/
structure Asked where
  operation : Operation
  request : operation.Request

/-- What a call asks. -/
def Call.asked (c : Call) : Asked := ⟨c.slot.operation, c.request⟩

namespace Asked

/-- What an action wants asked. -/
def ofWanted (wanted : (slot : Slot) × slot.operation.Request) : Asked :=
  ⟨wanted.1.operation, wanted.2⟩

/-- The directory that is asked for. -/
def directory? : Asked → Option String
  | ⟨.listFiles, directory⟩ => some directory
  | ⟨.chat, _⟩ | ⟨.debug, _⟩ | ⟨.plan, _⟩ | ⟨.getFileContent, _⟩ => none
  | ⟨.triggerIndex, _⟩ | ⟨.indexStats, _⟩ | ⟨.health, _⟩ => none

end Asked

theorem Call.directory?_asked (c : Call) : c.asked.directory? = c.directory? := by
  obtain ⟨slot, ticket, request⟩ := c
  cases slot <;> rfl

namespace Service

variable {σ : Type} {v : Service σ}

/-- The service, and a note of all that it is asked. -/
def noting (v : Service σ) : Service (σ × List Asked) where
  answer c := fun (s, asked) =>
    let (answer, s') := (v.answer c).run s
    (answer, s', asked ++ [c.asked])
  health := fun (s, asked) =>
    let (outcome, s') := v.health.run s
    (outcome, s', asked ++ [⟨.health, ()⟩])

theorem resolves_noting (hv : v.Resolves) : v.noting.Resolves := fun (s, _) c => hv s c

/-- The calls of a list are noted in order. -/
theorem asked_answerAll : ∀ (calls : List Call) (a : Assistant) (w : σ × List Asked),
    ((v.noting.answerAll a calls).run w).2.2 = w.2 ++ calls.map Call.asked
  | [], _, w => (List.append_nil w.2).symm
  | call :: rest, _, w => by
    have hfirst : ((v.noting.answer call).run w).2.2 = w.2 ++ [call.asked] := rfl
    refine (asked_answerAll rest _ ((v.noting.answer call).run w).2).trans ?_
    rw [hfirst]
    simp

/-- Settling asks what the running calls ask. -/
theorem asked_settle (a : Assistant) (w : σ × List Asked) :
    ((v.noting.host.settle a).run w).2.2 = w.2 ++ a.running.map Call.asked :=
  asked_answerAll a.running a w

theorem stays_answerAll : ∀ (calls : List Call) (a : Assistant) (s : σ),
    Assistant.Stays a ((v.answerAll a calls).run s).1
  | [], a, _ => .refl a
  | _ :: rest, _, _ => (stays_answerAll rest _ _).requeue

/-- Settling asks for nothing else, so what was asked for last is remembered. -/
theorem stays_settle (a : Assistant) (s : σ) :
    Assistant.Stays a ((v.host.settle a).run s).1 :=
  (stays_answerAll a.running a s).trans (Assistant.stays_drain _)

end Service

namespace Shell

open Assistant

/-! ## 3. What commands say -/

/-- What a command asks, word for word; `directory` is the one that was asked for last. -/
def Command.asks (directory : String) : Command → Option Asked
  | .ask question => some ⟨.chat, ⟨question, false⟩⟩
  | .files given => some ⟨.listFiles, given.getD directory⟩
  | .retry => some ⟨.listFiles, directory⟩
  | .openFile path => some ⟨.getFileContent, path⟩
  | .debug request => some ⟨.debug, request⟩
  | .plan request => some ⟨.plan, request⟩
  | .index path => some ⟨.triggerIndex, ⟨path⟩⟩
  | .stats => some ⟨.indexStats, ()⟩
  | .health => some ⟨.health, ()⟩
  | .reset | .help | .quit | .usage _ | .unknown _ => none

/-- The directory that was asked for last, when the command is through. -/
def Command.directoryAfter (directory : String) (command : Command) : String :=
  ((command.asks directory).bind Asked.directory?).getD directory

/-- What commands ask, one after the other. -/
def asksFrom (directory : String) : List Command → List Asked
  | [] => []
  | command :: rest =>
    (command.asks directory).toList ++ asksFrom (command.directoryAfter directory) rest

/-- The assistant is at rest, and lists `directory` if it is told no other. -/
structure Lists (config : Config) (a : Assistant) (directory : String) : Prop where
  rests : Rests a
  lists : a.browser.listing.directory.getD config.defaultDirectory = directory
  normal : IsNormal directory

/-- The command can be carried out: what it says is normal, and a listing that is to be repeated
was made. -/
structure Fits (a : Assistant) (command : Command) : Prop where
  normal : command.IsNormal
  repeats : command = .retry → a.browser.listing.directory ≠ none

theorem normalized_debug {r : DebugRequest} (h : (Command.debug r).IsNormal) :
    r.normalized = r := by
  obtain ⟨file, error, context⟩ := r
  have hfile : IsNormal file := h _ (by simp [Command.texts])
  have herror : IsNormal error := h _ (by simp [Command.texts])
  have hcontext : context.bind Text.nonBlank? = context := by
    cases context with
    | none => rfl
    | some text => exact Text.IsNormal.nonBlank?_eq (h _ (by simp [Command.texts]))
  rw [DebugRequest.normalized, hfile.2, herror.2, hcontext]

theorem normalized_plan {r : PlanRequest} (h : (Command.plan r).IsNormal) :
    r.normalized = r := by
  obtain ⟨goal, scope⟩ := r
  have hgoal : IsNormal goal := h _ (by simp [Command.texts])
  have hscope : scope.bind Text.nonBlank? = scope := by
    cases scope with
    | none => rfl
    | some text => exact Text.IsNormal.nonBlank?_eq (h _ (by simp [Command.texts]))
  rw [PlanRequest.normalized, hgoal.2, hscope]

section Step

variable {config : Config} {a : Assistant} {directory : String} {command : Command}
  {action : Action}

theorem Lists.directoryOr_eq (h : Lists config a directory) (given : Option String) :
    directoryOr config a given = given.getD directory := by
  cases given <;> simp [directoryOr, h.lists]

theorem Lists.directory_eq (h : Lists config a directory) (hr : a.browser.listing.directory ≠ none) :
    a.browser.listing.directory = some directory := by
  obtain ⟨listed, hlisted⟩ := Option.ne_none_iff_exists'.mp hr
  have hd := h.lists
  rw [hlisted, Option.getD_some] at hd
  rw [hlisted, hd]

/-- **The components keep what a normal command says.** -/
theorem Lists.wanted_eq (h : Lists config a directory) (hf : Fits a command)
    (haction : command.action? config a = some action) :
    (a.wanted? action).map Asked.ofWanted = command.asks directory := by
  have hnormal := hf.normal
  cases command with
  | ask question =>
    cases haction
    have hq : IsNormal question := hnormal _ (by simp [Command.texts])
    rw [wanted?, hq.2]
    rfl
  | files given =>
    cases haction
    have hd : IsNormal (given.getD directory) := by
      cases given with
      | none => exact h.normal
      | some text => exact hnormal _ (by simp [Command.texts])
    rw [wanted?, h.directoryOr_eq, hd.2]
    rfl
  | retry =>
    cases haction
    rw [wanted?, h.directory_eq (hf.repeats rfl), Option.map_some, h.normal.2]
    rfl
  | openFile path =>
    cases haction
    have hp : IsNormal path := hnormal _ (by simp [Command.texts])
    rw [wanted?, hp.2]
    rfl
  | debug request =>
    cases haction
    rw [wanted?, normalized_debug hnormal]
    rfl
  | plan request =>
    cases haction
    rw [wanted?, normalized_plan hnormal]
    rfl
  | index path =>
    cases haction
    have hp : IsNormal path := hnormal _ (by simp [Command.texts])
    rw [wanted?, hp.2]
    rfl
  | stats =>
    cases haction
    rfl
  | reset =>
    cases haction
    rfl
  | _ => cases haction

/-- The texts that a normal command's action cannot do without are normal. -/
theorem Lists.isNormal_required (h : Lists config a directory) (hf : Fits a command)
    (haction : command.action? config a = some action) :
    ∀ text ∈ a.required action, IsNormal text.2 := by
  have hnormal := hf.normal
  cases command with
  | files given =>
    cases haction
    simp only [required, h.directoryOr_eq, List.mem_singleton, forall_eq]
    cases given with
    | none => exact h.normal
    | some text => exact hnormal _ (by simp [Command.texts])
  | retry =>
    cases haction
    simp only [required, h.directory_eq (hf.repeats rfl)]
    simpa using h.normal
  | debug request =>
    cases haction
    simp only [required, List.mem_cons, List.not_mem_nil, or_false, forall_eq_or_imp, forall_eq]
    exact ⟨hnormal _ (by simp [Command.texts]), hnormal _ (by simp [Command.texts])⟩
  | stats =>
    cases haction
    simp [required]
  | reset =>
    cases haction
    simp [required]
  | health | help | quit | usage _ | unknown _ => cases haction
  | ask _ | openFile _ | plan _ | index _ =>
    cases haction
    simp only [required, List.mem_singleton, forall_eq]
    exact hnormal _ (by simp [Command.texts])

/-- Nothing stands in the way of a normal command's action. -/
theorem Lists.obstacle?_eq_none (h : Lists config a directory) (hf : Fits a command)
    (haction : command.action? config a = some action) : a.obstacle? action = none := by
  have hblank : a.blank? action = none := by
    rw [blank?, Option.map_eq_none_iff, List.find?_eq_none]
    intro text ht
    simp [(h.isNormal_required hf haction text ht).not_blank]
  have hmissing : a.missing? action = none := by
    cases command with
    | retry =>
      cases haction
      simp [missing?, hf.repeats rfl]
    | health | help | quit | usage _ | unknown _ => cases haction
    | _ =>
      cases haction
      rfl
  rw [obstacle?, h.rests.busy?_eq_none, hblank, hmissing]
  rfl

theorem Lists.not_rejected (h : Lists config a directory) (hf : Fits a command)
    (haction : command.action? config a = some action) (reason : Rejection) :
    (a.act action).1 ≠ .rejected reason := by
  rw [Ne, rejected_iff, h.obstacle?_eq_none hf haction]
  simp

/-- **What a normal command starts asks what the command says**, and the directory that it asks for
is remembered. -/
theorem Lists.act (h : Lists config a directory) (hf : Fits a command)
    (haction : command.action? config a = some action) :
    (a.act action).2.running.map Call.asked = (command.asks directory).toList ∧
      (a.act action).2.browser.listing.directory =
        ((command.asks directory).bind Asked.directory?).or a.browser.listing.directory := by
  have hasks := h.wanted_eq hf haction
  have hd := decides_act a action
  rcases act_cases a action with ⟨c, b, hact, hc⟩ | ⟨hr, hq⟩
  · rw [hact] at hd ⊢
    cases hd with
    | started _ wanted _ hdirectory _ =>
      rw [wanted] at hasks
      have hasked : command.asks directory = some c.asked := hasks.symm
      constructor
      · rw [hasked, start, hc.same.running, h.rests.running]
        rfl
      · rw [hasked, hdirectory, Option.bind_some, Call.directory?_asked]
  · have hreset : action = .resetSession := by
      by_contra hne
      obtain ⟨c, b, hact, -⟩ :=
        started_of_obstacle?_eq_none (h.obstacle?_eq_none hf haction) hne
      exact hr c (congrArg Prod.fst hact)
    subst hreset
    rw [← hasks]
    exact ⟨congrArg _ h.rests.running, rfl⟩

theorem asks_eq_none (h : command.action? config a = none) (hne : command ≠ .health) :
    command.asks directory = none := by
  cases command with
  | health => exact absurd rfl hne
  | help | quit | usage _ | unknown _ => rfl
  | _ => cases h

variable {σ : Type} {v : Service σ}

/-- What a normal command asks is noted, and the directory that it asks for is remembered. -/
theorem Lists.asked_after (h : Lists config a directory) (hf : Fits a command)
    (w : σ × List Asked) :
    let r := after v.noting.host config a command w
    r.2.2 = w.2 ++ (command.asks directory).toList ∧
      r.1.browser.listing.directory =
        ((command.asks directory).bind Asked.directory?).or a.browser.listing.directory := by
  intro r
  have hc : Carries v.noting.host config a w command r := carries_run _ _ _ _ _
  generalize r = r at hc
  cases hc with
  | settled haction =>
    obtain ⟨hrunning, hdirectory⟩ := h.act hf haction
    rw [Service.asked_settle, hrunning, (Service.stays_settle _ _).directory, hdirectory]
    exact ⟨rfl, rfl⟩
  | unsettled haction hr =>
    obtain ⟨hrunning, hdirectory⟩ := h.act hf haction
    rw [(h.rests.act hr).running, List.map_nil] at hrunning
    rw [← hrunning, List.append_nil, hdirectory]
    exact ⟨rfl, rfl⟩
  | inquired => exact ⟨rfl, rfl⟩
  | idle haction hne =>
    rw [asks_eq_none haction hne]
    exact ⟨(List.append_nil _).symm, rfl⟩

/-- A directory that a normal command asks for is normal. -/
theorem isNormal_directoryAfter (hc : command.IsNormal) (hd : IsNormal directory) :
    IsNormal (command.directoryAfter directory) := by
  cases command with
  | files given =>
    cases given with
    | none => exact hd
    | some text => exact hc text (by simp [Command.texts])
  | _ => exact hd

theorem Lists.after (hv : v.Resolves) (h : Lists config a directory) (hf : Fits a command)
    (w : σ × List Asked) :
    Lists config (after v.noting.host config a command w).1
      (command.directoryAfter directory) := by
  obtain ⟨-, hdirectory⟩ := h.asked_after (v := v) hf w
  refine ⟨rests_after (Service.resolves_noting hv) h.rests _ _ _, ?_,
    isNormal_directoryAfter hf.normal h.normal⟩
  rw [hdirectory, Command.directoryAfter, ← h.lists]
  cases (command.asks _).bind Asked.directory? <;> simp

end Step

/-! ## 4. Runs of commands -/

section Runs

variable {σ : Type} {v : Service σ} {config : Config}

/-- Some directory was listed, and it is the one that is listed again. -/
structure Listed (config : Config) (a : Assistant) (directory : String) : Prop
    extends Lists config a directory where
  listed : a.browser.listing.directory ≠ none

variable {a : Assistant} {directory : String} {command : Command}

theorem Listed.fits (h : Listed config a directory) (hc : command.IsNormal) : Fits a command :=
  ⟨hc, fun _ => h.listed⟩

theorem Listed.after (hv : v.Resolves) (h : Listed config a directory) (hc : command.IsNormal)
    (w : σ × List Asked) :
    Listed config (after v.noting.host config a command w).1
      (command.directoryAfter directory) := by
  obtain ⟨-, hdirectory⟩ := h.asked_after (v := v) (h.fits hc) w
  refine ⟨h.toLists.after hv (h.fits hc) w, ?_⟩
  rw [hdirectory]
  simp [h.listed]

/-- **What normal commands ask is noted, word for word and in order.** -/
theorem asked_runAll (hv : v.Resolves) : ∀ (commands : List Command) {a : Assistant}
    {directory : String} (w : σ × List Asked), Listed config a directory →
      (∀ command ∈ commands, command.IsNormal) →
      ((runAll v.noting.host config a commands).run w).2.2 =
          w.2 ++ asksFrom directory commands ∧
        ∃ directory', Listed config ((runAll v.noting.host config a commands).run w).1 directory'
  | [], _, directory, w, h, _ => ⟨(List.append_nil w.2).symm, directory, h⟩
  | command :: commands, a, directory, w, h, hn => by
    have hc : command.IsNormal := hn command (by simp)
    have hasked := (h.asked_after (v := v) (h.fits hc) w).1
    rw [runAll_cons]
    have hrest := asked_runAll hv commands (after v.noting.host config a command w).2
      (h.after hv hc w) (fun c hmem => hn c (by simp [hmem]))
    refine ⟨hrest.1.trans ?_, hrest.2⟩
    rw [hasked, asksFrom, List.append_assoc]

end Runs

/-! ## 5. The loop -/

/-- The commands that the lines of an input are read as, up to the one that ends the program or to a
line that is no text. -/
def commandsOf : List (List UInt8) → List Command
  | [] => []
  | line :: rest =>
    match Text.Utf8.decode? line with
    | none => []
    | some text =>
      match Command.parse? text with
      | none => commandsOf rest
      | some command => if command = .quit then [command] else command :: commandsOf rest

theorem isNormal_commandsOf : ∀ lines : List (List UInt8),
    ∀ command ∈ commandsOf lines, command.IsNormal
  | [] => by simp [commandsOf]
  | line :: rest => by
    have ih := isNormal_commandsOf rest
    unfold commandsOf
    split
    · simp
    · split
      · exact ih
      · rename_i command hparse
        have hcommand : command.IsNormal := isNormal_parse? hparse
        split
        · simpa using hcommand
        · simpa using ⟨hcommand, ih⟩

section Loop

variable {σ : Type} (host : Host (StateM σ)) (config : Config)

theorem quit_settleThen (a : Assistant) (action : Action) (view : Assistant → String) (s : σ) :
    ((settleThen host a action view).run s).1.1.quit = false := by
  unfold settleThen
  split <;> rfl

/-- Only the command that ends the program is the last. -/
theorem quit_run (a : Assistant) (command : Command) (s : σ) :
    ((run host config a command).run s).1.1.quit = decide (command = .quit) := by
  cases command with
  | index path =>
    simp only [run]
    split <;> rfl
  | health | reset | help | quit | usage _ | unknown _ => rfl
  | _ =>
    simp only [run]
    exact quit_settleThen host a _ _ s

/-- What the loop does to the world is what the commands do. -/
theorem world_transcribe : ∀ (lines : List (List UInt8)) (a : Assistant) (s : σ),
    ((transcribe host config a lines).run s).2 =
      ((runAll host config a (commandsOf lines)).run s).2
  | [], _, _ => rfl
  | line :: rest, a, s => by
    unfold transcribe commandsOf
    cases Text.Utf8.decode? line with
    | none => rfl
    | some text =>
      cases hparse : Command.parse? text with
      | none =>
        simp only [handleLine, hparse]
        exact world_transcribe rest a s
      | some command =>
        simp only [handleLine, hparse]
        have hquit := quit_run host config a command s
        simp only [bind_assoc, pure_bind, StateT.run_bind]
        by_cases hc : command = .quit
        · rw [if_pos hc, runAll_cons, after]
          generalize (run host config a command).run s = r at hquit ⊢
          obtain ⟨⟨⟨_, quit⟩, a'⟩, s'⟩ := r
          obtain rfl : quit = true := by simpa [hc] using hquit
          rfl
        · rw [if_neg hc, runAll_cons, after]
          generalize (run host config a command).run s = r at hquit ⊢
          obtain ⟨⟨⟨_, quit⟩, a'⟩, s'⟩ := r
          obtain rfl : quit = false := by simpa [hc] using hquit
          exact world_transcribe rest a' s'

/-- The program begins with the listing of the default directory. -/
theorem world_opening (lines : List (List UInt8)) (s : σ) :
    ((opening host config >>= fun r => transcribe host config r.2 lines).run s).2 =
      ((runAll host config {} (.files none :: commandsOf lines)).run s).2 := by
  rw [runAll_cons, after]
  simp only [opening, bind_assoc, pure_bind, StateT.run_bind]
  generalize (run host config {} (.files none)).run s = r
  exact world_transcribe host config lines r.1.2 r.2

end Loop

/-- **What is typed is what is asked.**  Let the program run on any lines, in any environment, with
a service whose calls all end.

1. What the service is asked is what the commands say, word for word and in order, beginning with
   the listing of the default directory.
2. No action of any command is rejected, for any reason. -/
theorem requests_verbatim {σ : Type} (v : Service σ) (hv : v.Resolves)
    (environment : String → Option String) (lines : List (List UInt8)) (s : σ) :
    let config := Config.ofEnvironment environment
    let host := v.noting.host
    let commands := .files none :: commandsOf lines
    ((opening host config >>= fun r => transcribe host config r.2 lines).run (s, [])).2.2 =
        asksFrom config.defaultDirectory commands ∧
      ∀ before command rest, commands = before ++ command :: rest →
        let a := ((runAll host config {} before).run (s, [])).1
        ∀ action, command.action? config a = some action →
          ∀ reason, (a.act action).1 ≠ .rejected reason := by
  intro config host commands
  have hstart : Lists config {} config.defaultDirectory :=
    ⟨rests_start, rfl, isNormal_defaultDirectory environment⟩
  have hfits : Fits {} (.files none) := ⟨isNormal_of_texts_eq_nil rfl, by simp⟩
  -- the first listing
  obtain ⟨hasked, hdirectory⟩ := hstart.asked_after (v := v) hfits (s, [])
  have hlisted : Listed config (after host config {} (.files none) (s, [])).1
      config.defaultDirectory := by
    refine ⟨hstart.after hv hfits (s, []), ?_⟩
    rw [hdirectory]
    simp [Command.asks, Asked.directory?]
  have hrest := fun commands =>
    asked_runAll hv commands (after host config {} (.files none) (s, [])).2 hlisted
  refine ⟨?_, ?_⟩
  · rw [world_opening, runAll_cons, (hrest _ (isNormal_commandsOf lines)).1, hasked]
    rfl
  · rintro (_ | ⟨first, before⟩) command rest heq
    · obtain ⟨rfl, -⟩ := List.cons.inj heq
      exact fun action haction => hstart.not_rejected hfits haction
    · obtain ⟨rfl, hlines⟩ := List.cons.inj heq
      have hnormal : ∀ c ∈ before ++ command :: rest, c.IsNormal := by
        intro c hc
        exact isNormal_commandsOf lines c (by rw [hlines]; exact hc)
      rw [runAll_cons]
      obtain ⟨directory, hbefore⟩ := (hrest before fun c hc => hnormal c (by simp [hc])).2
      exact fun action haction =>
        hbefore.toLists.not_rejected (hbefore.fits (hnormal command (by simp))) haction

/-- The default directory, fields with blanks around them, and a directory that is asked for, asked
for again and listed once more, with a service that breaks down and loses what it is asked. -/
theorem requests_verbatim_session :
    let v : Service Nat :=
      { answer := fun _ n =>
          (if n % 2 = 0 then .breakdown else .outcome (.failure ⟨.network, "lost"⟩), n + 1)
        health := fun n => (.pending, n) }
    let environment := fun name =>
      if name = "VIBE_DEFAULT_DIRECTORY" then some " src " else none
    let lines := ["/files", " /debug a.rs ::  it broke :: ", "/files lib\t", "/retry", "/files",
      "", " why? ", "/quit", "/stats"].map Text.Utf8.encode
    v.Resolves ∧
      ((opening v.noting.host (Config.ofEnvironment environment) >>= fun r =>
          transcribe v.noting.host (Config.ofEnvironment environment) r.2 lines).run (0, [])).2.2 =
        [⟨.listFiles, "src"⟩, ⟨.listFiles, "src"⟩, ⟨.debug, ⟨"a.rs", "it broke", none⟩⟩,
          ⟨.listFiles, "lib"⟩, ⟨.listFiles, "lib"⟩, ⟨.listFiles, "lib"⟩,
          ⟨.chat, ⟨"why?", false⟩⟩] := by
  intro v environment lines
  have hv : v.Resolves := by
    intro n c
    by_cases h : n % 2 = 0 <;>
      simp [v, Service.gatewayAt, StateT.run, Arrival.of, Answer.resolve, Outcome.isPending, h]
  have hcommands : commandsOf lines =
      [.files none, .debug ⟨"a.rs", "it broke", none⟩, .files (some "lib"), .retry, .files none,
        .ask "why?", .quit] := by
    simp only [lines, List.map_cons, List.map_nil, commandsOf, Text.Utf8.decode?_encode]
    decide
  have hdefault : (Config.ofEnvironment environment).defaultDirectory = "src" := by decide
  refine ⟨hv, (requests_verbatim v hv environment lines 0).1.trans ?_⟩
  rw [hcommands, hdefault]
  rfl

end Shell

end CodeAssistant
