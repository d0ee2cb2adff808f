/-
# Commands are read as they are typed

`Command.write` types a command.  What is typed is read back, every text to the letter, if the texts
are normal and the command is plain (`IsPlain`): a text with a separator behind it holds none of its
own.  The last text of a command may hold any.

Blanks around a line are trimmed before it is read, so they may be ignored throughout
(`parse?_surround`).  The rest is where a line falls apart: the name ends at the first blank
(`parse?_named`), and the fields behind it at the separators that were typed between them
(`parseDebug_write`, `parsePlan_write`).

Main statement: `commands_read_back`.
-/
import CodeAssistant.Proofs.Separators
import CodeAssistant.Proofs.Verbatim

namespace CodeAssistant

/-! ## 1. Normal texts -/

namespace Text

theorem isNormal_iff {s : String} : IsNormal s ↔ s ≠ "" ∧ IsTrimmed s.toList := by
  refine and_congr_right fun _ => ?_
  rw [← String.toList_inj, toList_trim]
  exact ⟨fun h => h ▸ isTrimmed_trimList s.toList, fun h => h.trimList_eq⟩

theorem IsNormal.trimList_eq {s : String} (h : IsNormal s) : trimList s.toList = s.toList :=
  (isNormal_iff.mp h).2.trimList_eq

theorem IsNormal.toList_ne_nil {s : String} (h : IsNormal s) : s.toList ≠ [] := by
  simpa using h.1

/-- A text between two normal ones has no blanks around it. -/
theorem IsNormal.append {s t : String} (hs : IsNormal s) (ht : IsNormal t) (mid : String) :
    IsNormal (s ++ mid ++ t) := by
  rw [isNormal_iff] at hs ht ⊢
  obtain ⟨hsne, hsfirst, -⟩ := hs
  obtain ⟨htne, -, htlast⟩ := ht
  refine ⟨by simp [hsne], ?_, ?_⟩
  · have hne : s.toList ≠ [] := by simpa using hsne
    rw [String.toList_append, String.toList_append, List.append_assoc,
      List.head?_append_of_ne_nil _ hne]
    exact hsfirst
  · have hne : t.toList ≠ [] := by simpa using htne
    rw [String.toList_append, List.getLast?_append_of_ne_nil _ hne]
    exact htlast

end Text

namespace Shell

open Text (IsNormal isBlankChar trimList isBlank)

/-! ## 2. Lines -/

/-- **Blanks around a line change nothing.** -/
theorem parse?_surround {front back : String} (hfront : isBlank front = true)
    (hback : isBlank back = true) (line : String) :
    Command.parse? (front ++ line ++ back) = Command.parse? line := by
  rw [isBlank, List.all_eq_true] at hfront hback
  have htrim : trimList (front ++ line ++ back).toList = trimList line.toList := by
    rw [String.toList_append, String.toList_append, Text.trimList_surround hfront hback]
  rw [Command.parse?, htrim, Command.parse?]

/-- A text that starts with no slash is a question. -/
theorem parse?_question {line : String} (h : IsNormal line)
    (hslash : line.toList.head? ≠ some '/') :
    Command.parse? line = some (.ask line) := by
  unfold Command.parse?
  rw [h.trimList_eq]
  split
  · rename_i hnil
    exact absurd hnil h.toList_ne_nil
  · rename_i cs hcs
    simp [hcs] at hslash
  · simp

/-- A name of a command: a slash, and no blank. -/
structure IsName (name : String) : Prop where
  slash : name.toList.head? = some '/'
  whole : name.toList.all (fun c => !isBlankChar c) = true

theorem IsName.not_blank {name : String} (h : IsName name) {c : Char} (hc : c ∈ name.toList) :
    isBlankChar c = false := by
  simpa using List.all_eq_true.mp h.whole c hc

theorem IsName.isNormal {name : String} (h : IsName name) : IsNormal name := by
  refine Text.isNormal_iff.mpr ⟨?_, fun c hc => h.not_blank (List.mem_of_mem_head? hc),
    fun c hc => h.not_blank (List.mem_of_mem_getLast? hc)⟩
  rintro rfl
  exact absurd h.slash (by simp)

/-- A name ends at the first blank; what is behind it are the arguments. -/
theorem parse?_of_name {name line : String} {rest : List Char} (hname : IsName name)
    (hrest : ∀ c ∈ rest.head?, isBlankChar c = true)
    (hline : trimList line.toList = name.toList ++ rest) :
    Command.parse? line = some (parseNamed name (trimList rest)) := by
  have hwhole : ∀ c ∈ name.toList, (!isBlankChar c) = true := List.all_eq_true.mp hname.whole
  have hnamed : (name.toList ++ rest).takeWhile (fun c => !isBlankChar c) = name.toList := by
    rw [List.takeWhile_append_of_pos hwhole]
    cases rest <;> simp_all
  have hbehind : (name.toList ++ rest).dropWhile (fun c => !isBlankChar c) = rest := by
    rw [List.dropWhile_append_of_pos hwhole]
    exact Text.dropWhile_eq_self_of_head? (by simpa using hrest)
  obtain ⟨cs, hcs⟩ : ∃ cs, name.toList ++ rest = '/' :: cs := by
    obtain ⟨ns, hns⟩ := List.head?_eq_some_iff.mp hname.slash
    exact ⟨ns ++ rest, by rw [hns, List.cons_append]⟩
  rw [hcs] at hline hnamed hbehind
  simp only [Command.parse?, hline, hnamed, hbehind, String.ofList_toList]

/-- **A name and its arguments** are told apart by the blank between them. -/
theorem parse?_named {name arguments : String} (named : String) (hname : IsName name)
    (hnamed : name ++ " " = named) (h : IsNormal arguments) :
    Command.parse? (named ++ arguments) = some (parseNamed name arguments.toList) := by
  subst hnamed
  have hblank : isBlankChar ' ' = true := by decide
  have hline : trimList (name ++ " " ++ arguments).toList =
      name.toList ++ ' ' :: arguments.toList := by
    rw [(hname.isNormal.append h " ").trimList_eq]
    simp
  have harguments : trimList (' ' :: arguments.toList) = arguments.toList := by
    rw [Text.trimList_cons_blank hblank, h.trimList_eq]
  rw [parse?_of_name hname (by simp [hblank]) hline, harguments]

/-- A name on its own has no arguments. -/
theorem parse?_name {name : String} (hname : IsName name) :
    Command.parse? name = some (parseNamed name []) := by
  have hline : trimList name.toList = name.toList ++ [] := by
    rw [hname.isNormal.trimList_eq, List.append_nil]
  have hnil : trimList [] = [] := rfl
  rw [parse?_of_name hname (by simp) hline, hnil]

/-! ## 3. Arguments -/

theorem withArgument_eq {make : String → Command} {usage argument : String}
    (h : IsNormal argument) : withArgument make usage argument.toList = make argument := by
  rw [withArgument, String.ofList_toList, h.nonBlank?_eq]

theorem fieldOf_toList {text : String} (h : IsNormal text) : fieldOf text.toList = text := h.2

/-- The text holds no separator of fields. -/
abbrev Undivided (text : String) : Prop := ¬ HasSeparator text.toList

/-- A field with another text behind it. -/
theorem splitFields_cons {field : String} (hfield : IsNormal field) (hwhole : Undivided field)
    (limit : Nat) (rest : String) :
    splitFields (limit + 2) (field ++ " :: " ++ rest).toList =
      field :: splitFields (limit + 1) rest.toList := by
  have hblank : isBlankChar ' ' = true := by decide
  have h := splitFields_separator hwhole limit hblank hblank rest.toList
  rw [fieldOf_toList hfield] at h
  simpa using h

/-- A last field, which may hold whatever it likes once the limit is reached. -/
theorem splitFields_last {field : String} (hfield : IsNormal field) :
    splitFields 1 field.toList = [field] := by
  rw [splitFields_one, fieldOf_toList hfield]

theorem splitFields_whole {field : String} (hfield : IsNormal field) (hwhole : Undivided field)
    (limit : Nat) : splitFields limit field.toList = [field] := by
  rw [splitFields_of_undivided hwhole, fieldOf_toList hfield]

/-- A text that may be missing, with what stands in front of it. -/
def optionally (mark : String) : Option String → String
  | none => ""
  | some text => mark ++ text

/-- The fields of an explanation, as they are typed. -/
def debugFields (r : DebugRequest) : String :=
  r.filePath ++ " :: " ++ r.errorMessage ++ optionally " :: " r.context

/-- The fields of a plan, as they are typed. -/
def planFields (r : PlanRequest) : String := r.goal ++ optionally " :: " r.scope

theorem parseDebug_write {r : DebugRequest} (hr : (Command.debug r).IsNormal)
    (hfile : Undivided r.filePath) (herror : Undivided r.errorMessage) :
    parseDebug (debugFields r).toList = .debug r := by
  obtain ⟨file, error, context⟩ := r
  have hf : IsNormal file := hr _ (by simp [Command.texts])
  have he : IsNormal error := hr _ (by simp [Command.texts])
  have hne : ¬ (file = "" ∨ error = "") := fun h => h.elim hf.1 he.1
  cases context with
  | none =>
    have hfields : splitFields 3 (debugFields ⟨file, error, none⟩).toList = [file, error] := by
      rw [debugFields, optionally, String.append_empty, splitFields_cons hf hfile,
        splitFields_whole he herror]
    simp [parseDebug, hfields, hne]
  | some text =>
    have ht : IsNormal text := hr _ (by simp [Command.texts])
    have hjoin : debugFields ⟨file, error, some text⟩ =
        file ++ " :: " ++ (error ++ " :: " ++ text) := by
      simp [debugFields, optionally, String.append_assoc]
    have hfields : splitFields 3 (debugFields ⟨file, error, some text⟩).toList =
        [file, error, text] := by
      rw [hjoin, splitFields_cons hf hfile, splitFields_cons he herror, splitFields_last ht]
    simp [parseDebug, hfields, hne, ht.nonBlank?_eq]

theorem parsePlan_write {r : PlanRequest} (hr : (Command.plan r).IsNormal)
    (hgoal : Undivided r.goal) : parsePlan (planFields r).toList = .plan r := by
  obtain ⟨goal, scope⟩ := r
  have hg : IsNormal goal := hr _ (by simp [Command.texts])
  cases scope with
  | none =>
    have hfields : splitFields 2 (planFields ⟨goal, none⟩).toList = [goal] := by
      rw [planFields, optionally, String.append_empty, splitFields_whole hg hgoal]
    simp [parsePlan, hfields, hg.1]
  | some text =>
    have ht : IsNormal text := hr _ (by simp [Command.texts])
    have hfields : splitFields 2 (planFields ⟨goal, some text⟩).toList = [goal, text] := by
      rw [planFields, optionally, ← String.append_assoc, splitFields_cons hg hgoal,
        splitFields_last ht]
    simp [parsePlan, hfields, hg.1, ht.nonBlank?_eq]

/-! ## 4. Typing -/

/-- How a command is typed.  Nobody types a hint how to use one. -/
def Command.write : Command → String
  | .ask question => question
  | .files directory => "/files" ++ optionally " " directory
  | .retry => "/retry"
  | .openFile path => "/open " ++ path
  | .debug request => "/debug " ++ debugFields request
  | .plan request => "/plan " ++ planFields request
  | .index path => "/index " ++ path
  | .stats => "/stats"
  | .health => "/health"
  | .reset => "/reset"
  | .help => "/help"
  | .quit => "/quit"
  | .usage line => line
  | .unknown name => name

/-- The texts of the command are told apart when it is typed. -/
def Command.IsPlain : Command → Prop
  | .ask question => question.toList.head? ≠ some '/'
  | .debug request => Undivided request.filePath ∧ Undivided request.errorMessage
  | .plan request => Undivided request.goal
  | .usage _ | .unknown _ => False
  | .files _ | .openFile _ | .index _ => True
  | .retry | .stats | .health | .reset | .help | .quit => True

theorem isNormal_optionally {text mark : String} {more : Option String} (h : IsNormal text)
    (hmore : ∀ t ∈ more, IsNormal t) : IsNormal (text ++ optionally mark more) := by
  cases more with
  | none => simpa [optionally] using h
  | some t =>
    rw [optionally, ← String.append_assoc]
    exact h.append (hmore t rfl) mark

theorem isNormal_debugFields {r : DebugRequest} (h : (Command.debug r).IsNormal) :
    IsNormal (debugFields r) := by
  have hfile : IsNormal r.filePath := h _ (by simp [Command.texts])
  have herror : IsNormal r.errorMessage := h _ (by simp [Command.texts])
  refine isNormal_optionally (hfile.append herror " :: ") fun t ht => h t ?_
  simp [Command.texts, Option.mem_def.mp ht]

theorem isNormal_planFields {r : PlanRequest} (h : (Command.plan r).IsNormal) :
    IsNormal (planFields r) := by
  have hgoal : IsNormal r.goal := h _ (by simp [Command.texts])
  refine isNormal_optionally hgoal fun t ht => h t ?_
  simp [Command.texts, Option.mem_def.mp ht]

/-- **What is typed is read back.** -/
theorem parse?_write {command : Command} (h : command.IsNormal) (hplain : command.IsPlain) :
    Command.parse? command.write = some command := by
  cases command with
  | ask question =>
    have hquestion : IsNormal question := h _ (by simp [Command.texts])
    exact parse?_question hquestion hplain
  | files directory =>
    have hname : IsName "/files" := ⟨by decide, by decide⟩
    cases directory with
    | none =>
      rw [Command.write, optionally, String.append_empty, parse?_name hname]
      decide
    | some directory =>
      have hdirectory : IsNormal directory := h _ (by simp [Command.texts])
      rw [Command.write, optionally, ← String.append_assoc, parse?_named _ hname rfl hdirectory]
      simp [parseNamed, hdirectory.nonBlank?_eq]
  | openFile path =>
    have hpath : IsNormal path := h _ (by simp [Command.texts])
    rw [Command.write, parse?_named "/open " (⟨by decide, by decide⟩ : IsName "/open") rfl hpath]
    simp [parseNamed, withArgument_eq hpath]
  | debug request =>
    rw [Command.write, parse?_named "/debug " (⟨by decide, by decide⟩ : IsName "/debug") rfl
      (isNormal_debugFields h)]
    simp [parseNamed, parseDebug_write h hplain.1 hplain.2]
  | plan request =>
    rw [Command.write, parse?_named "/plan " (⟨by decide, by decide⟩ : IsName "/plan") rfl
      (isNormal_planFields h)]
    simp [parseNamed, parsePlan_write h hplain]
  | index path =>
    have hpath : IsNormal path := h _ (by simp [Command.texts])
    rw [Command.write, parse?_named "/index " (⟨by decide, by decide⟩ : IsName "/index") rfl hpath]
    simp [parseNamed, withArgument_eq hpath]
  | retry | stats | health | reset | help | quit => exact parse?_name ⟨by decide, by decide⟩
  | usage _ | unknown _ => exact hplain.elim

/-- **Every command can be typed and is read back**, every text to the letter.

1. An explanation with its context, and without.  The file and the error hold no separator of their
   own; the context may.
2. A plan with its scope, and without.
3. A file, an index and a directory.
4. A question is any line that starts with no slash.
5. Blanks around a line change nothing, whatever the line is.
6. So it is with every command there is, but for hints and names of none. -/
theorem commands_read_back :
    (∀ file error context, IsNormal file → IsNormal error → IsNormal context →
      Undivided file → Undivided error →
      Command.parse? ("/debug " ++ file ++ " :: " ++ error ++ " :: " ++ context) =
        some (.debug ⟨file, error, some context⟩)) ∧
    (∀ file error, IsNormal file → IsNormal error → Undivided file → Undivided error →
      Command.parse? ("/debug " ++ file ++ " :: " ++ error) =
        some (.debug ⟨file, error, none⟩)) ∧
    (∀ goal scope, IsNormal goal → IsNormal scope → Undivided goal →
      Command.parse? ("/plan " ++ goal ++ " :: " ++ scope) = some (.plan ⟨goal, some scope⟩)) ∧
    (∀ goal, IsNormal goal → Undivided goal →
      Command.parse? ("/plan " ++ goal) = some (.plan ⟨goal, none⟩)) ∧
    (∀ path, IsNormal path →
      Command.parse? ("/open " ++ path) = some (.openFile path) ∧
      Command.parse? ("/index " ++ path) = some (.index path) ∧
      Command.parse? ("/files " ++ path) = some (.files (some path))) ∧
    (∀ line, IsNormal line → line.toList.head? ≠ some '/' →
      Command.parse? line = some (.ask line)) ∧
    (∀ line front back, isBlank front = true → isBlank back = true →
      Command.parse? (front ++ line ++ back) = Command.parse? line) ∧
    (∀ command : Command, command.IsNormal → command.IsPlain →
      Command.parse? command.write = some command) := by
  refine ⟨?_, ?_, ?_, ?_, ?_, fun line => parse?_question,
    fun line front back hfront hback => parse?_surround hfront hback line,
    fun command => parse?_write⟩
  · intro file error context hf he hc hfile herror
    have h : (Command.debug ⟨file, error, some context⟩).IsNormal := by
      simp [Command.IsNormal, Command.texts, hf, he, hc]
    simpa [Command.write, debugFields, optionally, String.append_assoc] using
      parse?_write h ⟨hfile, herror⟩
  · intro file error hf he hfile herror
    have h : (Command.debug ⟨file, error, none⟩).IsNormal := by
      simp [Command.IsNormal, Command.texts, hf, he]
    simpa [Command.write, debugFields, optionally, String.append_assoc] using
      parse?_write h ⟨hfile, herror⟩
  · intro goal scope hg hs hgoal
    have h : (Command.plan ⟨goal, some scope⟩).IsNormal := by
      simp [Command.IsNormal, Command.texts, hg, hs]
    simpa [Command.write, planFields, optionally, String.append_assoc] using parse?_write h hgoal
  · intro goal hg hgoal
    have h : (Command.plan ⟨goal, none⟩).IsNormal := by
      simp [Command.IsNormal, Command.texts, hg]
    simpa [Command.write, planFields, optionally] using parse?_write h hgoal
  · intro path hp
    have hopen : (Command.openFile path).IsNormal := by simpa [Command.IsNormal, Command.texts]
    have hindex : (Command.index path).IsNormal := by simpa [Command.IsNormal, Command.texts]
    have hfiles : (Command.files (some path)).IsNormal := by
      simpa [Command.IsNormal, Command.texts]
    refine ⟨?_, ?_, ?_⟩
    · simpa only [Command.write] using parse?_write hopen trivial
    · simpa only [Command.write] using parse?_write hindex trivial
    · simpa [Command.write, optionally, ← String.append_assoc] using parse?_write hfiles trivial

/-- Colons in every field: glued to a word, four in a row, and in the context separators that stand
alone.  Blanks of several kinds are around the line. -/
theorem commands_read_back_colons :
    let file := "src/a::b.rs"
    let error := "::x of :::: broke:"
    let context := ":: in :: main"
    let line := "/debug " ++ file ++ " :: " ++ error ++ " :: " ++ context
    (IsNormal file ∧ IsNormal error ∧ IsNormal context) ∧ Undivided file ∧ Undivided error ∧
      (isBlank "\t \u3000" = true ∧ isBlank "\r\n" = true) ∧
      Command.parse? ("\t \u3000" ++ line ++ "\r\n") =
        some (.debug ⟨file, error, some context⟩) := by
  intro file error context line
  have hf : IsNormal file := ⟨by decide, by decide⟩
  have he : IsNormal error := ⟨by decide, by decide⟩
  have hc : IsNormal context := ⟨by decide, by decide⟩
  have hfile : Undivided file := by decide
  have herror : Undivided error := by decide
  have hblank : isBlank "\t \u3000" = true ∧ isBlank "\r\n" = true := by decide
  obtain ⟨hdebug, -, -, -, -, -, hsurround, -⟩ := commands_read_back
  refine ⟨⟨hf, he, hc⟩, hfile, herror, hblank, ?_⟩
  rw [hsurround line _ _ hblank.1 hblank.2]
  exact hdebug file error context hf he hc hfile herror

end Shell

end CodeAssistant
