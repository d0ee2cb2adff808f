/-
# Bodies and their trees

The types of the bodies that go to the backend and come from it, each with the plain rule by which
its values stand in a parsed tree (`fromTree`), and with the trees that are refused because an
object in them repeats a key (`Repeats`).

Main statement: `decode_reads_tree`.  A body that is one document is decoded to what the rule finds
in the parsed tree, whatever the type, unless an object that is read as a record repeats one of the
record's keys; a body with something behind its document is rejected.

The rule sees the canonical tree, in which each key stands once and in order, so what the theorem
says does not depend on the order of keys.
-/
import CodeAssistant.Proofs.TreeRules
import CodeAssistant.Wire.Request
import CodeAssistant.Wire.Response
import Mathlib.Data.Option.Basic

namespace CodeAssistant

open Decimal (Binary64)
open Json

/-! ## 1. Requests -/

namespace ChatRequest

/-- The request in a tree.  Its question has to be there; it is not streamed unless it says so. -/
def fromTree : Json → Option ChatRequest := asRecord 2 fun t => do
  let question ← t.field asText "question" 0
  let stream ← t.fieldOr false asFlag "stream" 1
  some ⟨question, stream⟩

/-- A key of the request stands twice in the tree. -/
def Repeats : Json → Prop := repeats ["question", "stream"]

theorem agrees : codec.Agrees := .ofRecord (by decide) ⟨.text, .flag, trivial⟩

theorem follows : codec.Follows fromTree Repeats :=
  .ofRecord (.cons rfl .text (.cons rfl .flag .nil))
    (by simp [Field.take_required, Field.take_optional, Option.map_bind])
    (by simp [Repeats, hasBad, never, Fields.keys, Field.required, Field.optional])

end ChatRequest

namespace DebugRequest

/-- The request in a tree.  Its file and its error have to be there, its context may be missing or
null. -/
def fromTree : Json → Option DebugRequest := asRecord 3 fun t => do
  let file ← t.field asText "file_path" 0
  let error ← t.field asText "error_message" 1
  let context ← t.fieldOr none (asNullable asText) "context" 2
  some ⟨file, error, context⟩

/-- A key of the request stands twice in the tree. -/
def Repeats : Json → Prop := repeats ["file_path", "error_message", "context"]

theorem agrees : codec.Agrees :=
  .ofRecord (by decide) ⟨.text, .text, .nullable .text, trivial⟩

theorem follows : codec.Follows fromTree Repeats :=
  .ofRecord (.cons rfl .text (.cons rfl .text (.cons rfl (.nullable .text id) .nil)))
    (by simp [Field.take_required, Field.take_maybe, Option.map_bind])
    (by simp [Repeats, hasBad, never, Fields.keys, Field.required, Field.maybe])

end DebugRequest

namespace PlanRequest

/-- The request in a tree.  Its goal has to be there, its scope may be missing or null. -/
def fromTree : Json → Option PlanRequest := asRecord 2 fun t => do
  let goal ← t.field asText "goal" 0
  let scope ← t.fieldOr none (asNullable asText) "scope" 1
  some ⟨goal, scope⟩

/-- A key of the request stands twice in the tree. -/
def Repeats : Json → Prop := repeats ["goal", "scope"]

theorem agrees : codec.Agrees :=
  .ofRecord (by decide) ⟨.text, .nullable .text, trivial⟩

theorem follows : codec.Follows fromTree Repeats :=
  .ofRecord (.cons rfl .text (.cons rfl (.nullable .text id) .nil))
    (by simp [Field.take_required, Field.take_maybe, Option.map_bind])
    (by simp [Repeats, hasBad, never, Fields.keys, Field.required, Field.maybe])

end PlanRequest

namespace IndexRequest

/-- The request in a tree, which is its path. -/
def fromTree : Json → Option IndexRequest := asRecord 1 fun t => do
  let path ← t.field asText "repository_path" 0
  some ⟨path⟩

/-- The path stands twice in the tree. -/
def Repeats : Json → Prop := repeats ["repository_path"]

theorem agrees : codec.Agrees := .ofRecord (by decide) ⟨.text, trivial⟩

theorem follows : codec.Follows fromTree Repeats :=
  .ofRecord (.cons rfl .text .nil)
    (by simp [Field.take_required, Option.map_bind])
    (by simp [Repeats, hasBad, never, Fields.keys, Field.required])

end IndexRequest

/-! ## 2. Responses -/

namespace ContextUsage

/-- The usage in a tree.  A count that is missing is zero; of the last two, which may be null, it is
none. -/
def fromTree : Json → Option ContextUsage := asRecord 8 fun t => do
  let total ← t.fieldOr 0 asNatural "total_chunks" 0
  let packed ← t.fieldOr 0 asNatural "packed_chunks" 1
  let context ← t.fieldOr 0 asNatural "context_tokens" 2
  let system ← t.fieldOr 0 asNatural "system_tokens" 3
  let tokens ← t.fieldOr 0 asNatural "total_tokens" 4
  let utilization ← t.fieldOr Binary64.zero asFloat "utilization" 5
  let available ← t.fieldOr none (asNullable asInteger) "available_tokens" 6
  let used ← t.fieldOr none (asNullable asNatural) "used_tokens" 7
  some ⟨total, packed, context, system, tokens, utilization, available, used⟩

/-- A key of the usage stands twice in the tree. -/
def Repeats : Json → Prop :=
  repeats ["total_chunks", "packed_chunks", "context_tokens", "system_tokens", "total_tokens",
    "utilization", "available_tokens", "used_tokens"]

theorem agrees : codec.Agrees :=
  .ofRecord (by decide) ⟨.natural64, .natural64, .natural64, .natural64, .natural64, .float64,
    .nullable .integer64, .nullable .natural64, trivial⟩

theorem follows : codec.Follows fromTree Repeats :=
  .ofRecord
    (.cons rfl .natural64 (.cons rfl .natural64 (.cons rfl .natural64 (.cons rfl .natural64
      (.cons rfl .natural64 (.cons rfl .float64 (.cons rfl (.nullable .integer64 id)
        (.cons rfl (.nullable .natural64 id) .nil))))))))
    (by simp [Field.take_optional, Field.take_maybe, Option.map_bind])
    (by simp [Repeats, hasBad, never, Fields.keys, Field.optional, Field.maybe])

end ContextUsage

namespace ChatResponse

/-- The answer in a tree.  A usage that is missing is one with all its defaults. -/
def fromTree : Json → Option ChatResponse := asRecord 2 fun t => do
  let answer ← t.field asText "answer" 0
  let usage ← t.fieldOr {} ContextUsage.fromTree "context_stats" 1
  some ⟨answer, usage⟩

/-- A key of the answer stands twice in the tree, or a key of the usage in its part. -/
def Repeats (t : Json) : Prop :=
  t.repeats ["answer", "context_stats"] ∨ t.hasBad "context_stats" 1 ContextUsage.Repeats

theorem agrees : codec.Agrees :=
  .ofRecord (by decide) ⟨.text, ContextUsage.agrees, trivial⟩

theorem follows : codec.Follows fromTree Repeats :=
  .ofRecord (.cons rfl .text (.cons rfl ContextUsage.follows .nil))
    (by simp [Field.take_required, Field.take_optional, usageField, Option.map_bind])
    (by simp [Repeats, hasBad, never, Fields.keys, Field.required, Field.optional, usageField])

end ChatResponse

namespace DebugResponse

/-- The answer in a tree.  It has to say what is wrong and what to do; the usage is as for a
question. -/
def fromTree : Json → Option DebugResponse := asRecord 3 fun t => do
  let analysis ← t.field asText "analysis" 0
  let suggested ← t.field asText "suggested_fix" 1
  let usage ← t.fieldOr {} ContextUsage.fromTree "context_stats" 2
  some ⟨analysis, suggested, usage⟩

/-- A key of the answer stands twice in the tree, or a key of the usage in its part. -/
def Repeats (t : Json) : Prop :=
  t.repeats ["analysis", "suggested_fix", "context_stats"] ∨
    t.hasBad "context_stats" 2 ContextUsage.Repeats

theorem agrees : codec.Agrees :=
  .ofRecord (by decide) ⟨.text, .text, ContextUsage.agrees, trivial⟩

theorem follows : codec.Follows fromTree Repeats :=
  .ofRecord (.cons rfl .text (.cons rfl .text (.cons rfl ContextUsage.follows .nil)))
    (by simp [Field.take_required, Field.take_optional, usageField, Option.map_bind])
    (by simp [Repeats, hasBad, never, Fields.keys, Field.required, Field.optional, usageField])

end DebugResponse

namespace PlanResponse

/-- The answer in a tree.  Its plan has to be there; the usage is as for a question. -/
def fromTree : Json → Option PlanResponse := asRecord 2 fun t => do
  let plan ← t.field asText "plan" 0
  let usage ← t.fieldOr {} ContextUsage.fromTree "context_stats" 1
  some ⟨plan, usage⟩

/-- A key of the answer stands twice in the tree, or a key of the usage in its part. -/
def Repeats (t : Json) : Prop :=
  t.repeats ["plan", "context_stats"] ∨ t.hasBad "context_stats" 1 ContextUsage.Repeats

theorem agrees : codec.Agrees :=
  .ofRecord (by decide) ⟨.text, ContextUsage.agrees, trivial⟩

theorem follows : codec.Follows fromTree Repeats :=
  .ofRecord (.cons rfl .text (.cons rfl ContextUsage.follows .nil))
    (by simp [Field.take_required, Field.take_optional, usageField, Option.map_bind])
    (by simp [Repeats, hasBad, never, Fields.keys, Field.required, Field.optional, usageField])

end PlanResponse

namespace FileEntry

/-- The entry in a tree.  Its path and its name have to be there; an extension that is missing is
empty, and a size is zero. -/
def fromTree : Json → Option FileEntry := asRecord 4 fun t => do
  let path ← t.field asText "path" 0
  let name ← t.field asText "name" 1
  let extension ← t.fieldOr "" asText "extension" 2
  let size ← t.fieldOr 0 asNatural "size" 3
  some ⟨path, name, extension, size⟩

/-- A key of the entry stands twice in the tree. -/
def Repeats : Json → Prop := repeats ["path", "name", "extension", "size"]

theorem agrees : codec.Agrees :=
  .ofRecord (by decide) ⟨.text, .text, .text, .natural64, trivial⟩

theorem follows : codec.Follows fromTree Repeats :=
  .ofRecord (.cons rfl .text (.cons rfl .text (.cons rfl .text (.cons rfl .natural64 .nil))))
    (by simp [Field.take_required, Field.take_optional, Option.map_bind])
    (by simp [Repeats, hasBad, never, Fields.keys, Field.required, Field.optional])

end FileEntry

namespace FileListing

/-- The listing in a tree.  All that it lists must be entries; its total may be missing or null. -/
def fromTree : Json → Option FileListing := asRecord 2 fun t => do
  let files ← t.field (asList FileEntry.fromTree) "files" 0
  let total ← t.fieldOr none (asNullable asNatural) "total" 1
  some ⟨files, total⟩

/-- A key of the listing stands twice in the tree, or a key of an entry in its part. -/
def Repeats (t : Json) : Prop :=
  t.repeats ["files", "total"] ∨ t.hasBad "files" 0 (hasBadItem FileEntry.Repeats)

theorem agrees : codec.Agrees :=
  .ofRecord (by decide) ⟨.list FileEntry.agrees, .nullable .natural64, trivial⟩

theorem follows : codec.Follows fromTree Repeats :=
  .ofRecord (.cons rfl (.list FileEntry.follows) (.cons rfl (.nullable .natural64 id) .nil))
    (by simp [Field.take_required, Field.take_maybe, Option.map_bind])
    (by simp [Repeats, hasBad, never, Fields.keys, Field.required, Field.maybe])

end FileListing

namespace FileContent

/-- The content in a tree.  Its path and its text have to be there; lines that are not counted
are zero. -/
def fromTree : Json → Option FileContent := asRecord 3 fun t => do
  let path ← t.field asText "path" 0
  let content ← t.field asText "content" 1
  let lines ← t.fieldOr 0 asNatural "lines" 2
  some ⟨path, content, lines⟩

/-- A key of the content stands twice in the tree. -/
def Repeats : Json → Prop := repeats ["path", "content", "lines"]

theorem agrees : codec.Agrees :=
  .ofRecord (by decide) ⟨.text, .text, .natural64, trivial⟩

theorem follows : codec.Follows fromTree Repeats :=
  .ofRecord (.cons rfl .text (.cons rfl .text (.cons rfl .natural64 .nil)))
    (by simp [Field.take_required, Field.take_optional, Option.map_bind])
    (by simp [Repeats, hasBad, never, Fields.keys, Field.required, Field.optional])

end FileContent

namespace IndexTriggerResponse

/-- The answer in a tree.  Its statistics may be anything, and are null if missing. -/
def fromTree : Json → Option IndexTriggerResponse := asRecord 2 fun t => do
  let status ← t.field asText "status" 0
  let stats ← t.fieldOr .null asFree "stats" 1
  some ⟨status, stats⟩

/-- A key of the answer stands twice in the tree. -/
def Repeats : Json → Prop := repeats ["status", "stats"]

theorem agrees : codec.Agrees := .ofRecord (by decide) ⟨.text, .free, trivial⟩

theorem follows : codec.Follows fromTree Repeats :=
  .ofRecord (.cons rfl .text (.cons rfl .free .nil))
    (by simp [Field.take_required, Field.take_optional, Option.map_bind])
    (by simp [Repeats, hasBad, never, Fields.keys, Field.required, Field.optional])

end IndexTriggerResponse

namespace IndexStats

/-- Any tree is statistics. -/
def fromTree (t : Json) : Option IndexStats := (asFree t).map IndexStats.mk

theorem agrees : codec.Agrees := .reshape .free _ _

theorem follows : codec.Follows fromTree never := .reshape .free _ _

end IndexStats

namespace HealthStatus

/-- The status in a tree.  What it says of the databases may be anything, and is null if it
says nothing. -/
def fromTree : Json → Option HealthStatus := asRecord 2 fun t => do
  let status ← t.field asText "status" 0
  let databases ← t.fieldOr .null asFree "databases" 1
  some ⟨status, databases⟩

/-- A key of the status stands twice in the tree. -/
def Repeats : Json → Prop := repeats ["status", "databases"]

theorem agrees : codec.Agrees := .ofRecord (by decide) ⟨.text, .free, trivial⟩

theorem follows : codec.Follows fromTree Repeats :=
  .ofRecord (.cons rfl .text (.cons rfl .free .nil))
    (by simp [Field.take_required, Field.take_optional, Option.map_bind])
    (by simp [Repeats, hasBad, never, Fields.keys, Field.required, Field.optional])

end HealthStatus

/-! ## 3. All types -/

/-- The types of bodies and of what they are made of. -/
inductive WireType
  | chatRequest
  | debugRequest
  | planRequest
  | indexRequest
  | contextUsage
  | chatResponse
  | debugResponse
  | planResponse
  | fileEntry
  | fileListing
  | fileContent
  | indexTriggerResponse
  | indexStats
  | healthStatus
  deriving DecidableEq, Repr

namespace WireType

/-- The type itself. -/
def Value : WireType → Type
  | chatRequest => ChatRequest
  | debugRequest => DebugRequest
  | planRequest => PlanRequest
  | indexRequest => IndexRequest
  | contextUsage => ContextUsage
  | chatResponse => ChatResponse
  | debugResponse => DebugResponse
  | planResponse => PlanResponse
  | fileEntry => FileEntry
  | fileListing => FileListing
  | fileContent => FileContent
  | indexTriggerResponse => IndexTriggerResponse
  | indexStats => IndexStats
  | healthStatus => HealthStatus

/-- The type's JSON form. -/
def codec : (T : WireType) → Codec T.Value
  | chatRequest => ChatRequest.codec
  | debugRequest => DebugRequest.codec
  | planRequest => PlanRequest.codec
  | indexRequest => IndexRequest.codec
  | contextUsage => ContextUsage.codec
  | chatResponse => ChatResponse.codec
  | debugResponse => DebugResponse.codec
  | planResponse => PlanResponse.codec
  | fileEntry => FileEntry.codec
  | fileListing => FileListing.codec
  | fileContent => FileContent.codec
  | indexTriggerResponse => IndexTriggerResponse.codec
  | indexStats => IndexStats.codec
  | healthStatus => HealthStatus.codec

/-- The value of the type that a parsed tree has. -/
def fromTree : (T : WireType) → Json → Option T.Value
  | chatRequest => ChatRequest.fromTree
  | debugRequest => DebugRequest.fromTree
  | planRequest => PlanRequest.fromTree
  | indexRequest => IndexRequest.fromTree
  | contextUsage => ContextUsage.fromTree
  | chatResponse => ChatResponse.fromTree
  | debugResponse => DebugResponse.fromTree
  | planResponse => PlanResponse.fromTree
  | fileEntry => FileEntry.fromTree
  | fileListing => FileListing.fromTree
  | fileContent => FileContent.fromTree
  | indexTriggerResponse => IndexTriggerResponse.fromTree
  | indexStats => IndexStats.fromTree
  | healthStatus => HealthStatus.fromTree

/-- An object that is read as a record, the tree itself or one in it, repeats one of the record's
keys. -/
def Repeats : WireType → Json → Prop
  | chatRequest => ChatRequest.Repeats
  | debugRequest => DebugRequest.Repeats
  | planRequest => PlanRequest.Repeats
  | indexRequest => IndexRequest.Repeats
  | contextUsage => ContextUsage.Repeats
  | chatResponse => ChatResponse.Repeats
  | debugResponse => DebugResponse.Repeats
  | planResponse => PlanResponse.Repeats
  | fileEntry => FileEntry.Repeats
  | fileListing => FileListing.Repeats
  | fileContent => FileContent.Repeats
  | indexTriggerResponse => IndexTriggerResponse.Repeats
  | indexStats => never
  | healthStatus => HealthStatus.Repeats

theorem agrees : (T : WireType) → T.codec.Agrees
  | chatRequest => ChatRequest.agrees
  | debugRequest => DebugRequest.agrees
  | planRequest => PlanRequest.agrees
  | indexRequest => IndexRequest.agrees
  | contextUsage => ContextUsage.agrees
  | chatResponse => ChatResponse.agrees
  | debugResponse => DebugResponse.agrees
  | planResponse => PlanResponse.agrees
  | fileEntry => FileEntry.agrees
  | fileListing => FileListing.agrees
  | fileContent => FileContent.agrees
  | indexTriggerResponse => IndexTriggerResponse.agrees
  | indexStats => IndexStats.agrees
  | healthStatus => HealthStatus.agrees

theorem follows : (T : WireType) → T.codec.Follows T.fromTree T.Repeats
  | chatRequest => ChatRequest.follows
  | debugRequest => DebugRequest.follows
  | planRequest => PlanRequest.follows
  | indexRequest => IndexRequest.follows
  | contextUsage => ContextUsage.follows
  | chatResponse => ChatResponse.follows
  | debugResponse => DebugResponse.follows
  | planResponse => PlanResponse.follows
  | fileEntry => FileEntry.follows
  | fileListing => FileListing.follows
  | fileContent => FileContent.follows
  | indexTriggerResponse => IndexTriggerResponse.follows
  | indexStats => IndexStats.follows
  | healthStatus => HealthStatus.follows

end WireType

/-! ## 4. Whole bodies -/

namespace Codec.Agrees

variable {α : Type} {c : Codec α} {body : String} {t : Json} {r : List Char}

/-- A body that is one document has the value that its tree has. -/
theorem decode_of_document (h : c.Agrees) (ht : Json.parse body = .ok t) :
    (c.decode body).toOption = c.ofTree t := by
  obtain ⟨r, hread, hr⟩ := readWhole_eq_ok_iff.mp ht
  rw [Codec.decode]
  rcases (h.comesTo hread).cases with ⟨e, he, ho⟩ | ⟨a, ha, ho⟩
  · rw [readWhole, he, ho]
    rfl
  · rw [readWhole_eq_ok_iff.mpr ⟨r, ha, hr⟩, ho]
    rfl

theorem decode_of_trailing (h : c.Agrees)
    (ht : (Json.reader maxDepth).run body.toList = .ok (t, r)) (hr : skipBlanks r ≠ []) :
    ∃ e, c.decode body = .error e := by
  rw [Codec.decode, readWhole]
  rcases (h.comesTo ht).cases with ⟨e, he, -⟩ | ⟨a, ha, -⟩
  · simp only [he]
    exact ⟨e, rfl⟩
  · simp only [ha]
    exact ⟨_, rfl⟩

end Codec.Agrees

theorem Except.exists_of_toOption {ε α : Type} {x : Except ε α} (h : x.toOption = none) :
    ∃ e, x = .error e := by
  cases x with
  | error e => exact ⟨e, rfl⟩
  | ok a => cases h

/-- **Decoding a body is reading its tree.**  A body that is one document is decoded to the value
that the type's rule finds in the parsed tree, or fails if there is none; if a record in it repeats
a key, it always fails.  A body with more than blanks behind its document fails. -/
theorem decode_reads_tree (T : WireType) (body : String) :
    (∀ t, Json.parse body = .ok t →
      (T.Repeats t → ∃ e, T.codec.decode body = .error e) ∧
      (¬ T.Repeats t → (T.codec.decode body).toOption = T.fromTree t.canonical)) ∧
    ∀ t r, (Json.reader maxDepth).run body.toList = .ok (t, r) → skipBlanks r ≠ [] →
      ∃ e, T.codec.decode body = .error e := by
  refine ⟨fun t ht => ⟨fun hrep => ?_, fun hrep => ?_⟩, fun t r ht hr => ?_⟩
  · refine Except.exists_of_toOption ?_
    rw [T.agrees.decode_of_document ht, T.follows.refused hrep]
  · rw [T.agrees.decode_of_document ht, T.follows.followed hrep]
  · exact T.agrees.decode_of_trailing ht hr

/-- A repeated key does not show in the parsed tree, which has the last value. -/
example :
    let t : Json := .object [("plan", .string "a"), ("plan", .string "b")]
    PlanResponse.Repeats t ∧ PlanResponse.fromTree t.canonical = some ⟨"b", {}⟩ :=
  ⟨Or.inl ⟨"plan", by simp, by decide⟩, rfl⟩

end CodeAssistant
