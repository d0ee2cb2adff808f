/-
# Responses

The bodies that the backend answers with.  Counts are natural numbers of 64 bits.  Statistics are
free JSON: they are shown, not understood.
-/
import CodeAssistant.Codec.Record

namespace CodeAssistant

open Decimal (Binary64)

/-- How much of the repository an answer made use of. -/
structure ContextUsage where
  totalChunks : UInt64 := 0
  packedChunks : UInt64 := 0
  contextTokens : UInt64 := 0
  systemTokens : UInt64 := 0
  totalTokens : UInt64 := 0
  utilization : Binary64 := Binary64.zero
  availableTokens : Option Int64 := none
  usedTokens : Option UInt64 := none
  deriving DecidableEq, Repr, Inhabited

/-- The JSON form; every field may be missing. -/
def ContextUsage.codec : Codec ContextUsage :=
  (Codec.record "ContextUsage"
    (.cons (.optional "total_chunks" .natural64 0)
      (.cons (.optional "packed_chunks" .natural64 0)
        (.cons (.optional "context_tokens" .natural64 0)
          (.cons (.optional "system_tokens" .natural64 0)
            (.cons (.optional "total_tokens" .natural64 0)
              (.cons (.optional "utilization" .float64 Binary64.zero)
                (.cons (.maybe "available_tokens" .integer64)
                  (.cons (.maybe "used_tokens" .natural64) .nil))))))))).reshape
    (fun (total, packed, context, system, tokens, utilization, available, used, ()) =>
      ⟨total, packed, context, system, tokens, utilization, available, used⟩)
    (fun u => (u.totalChunks, u.packedChunks, u.contextTokens, u.systemTokens, u.totalTokens,
      u.utilization, u.availableTokens, u.usedTokens, ()))

/-- The usage that comes with an answer; all zero if it is missing. -/
def usageField : Field ContextUsage := .optional "context_stats" ContextUsage.codec {}

/-- An answer to a question. -/
structure ChatResponse where
  answer : String
  usage : ContextUsage := {}
  deriving DecidableEq, Repr

/-- The JSON form. -/
def ChatResponse.codec : Codec ChatResponse :=
  (Codec.record "ChatResponse"
    (.cons (.required "answer" .text) (.cons usageField .nil))).reshape
    (fun (answer, usage, ()) => ⟨answer, usage⟩) (fun r => (r.answer, r.usage, ()))

/-- The explanation of an error. -/
structure DebugResponse where
  analysis : String
  suggestedFix : String
  usage : ContextUsage := {}
  deriving DecidableEq, Repr

/-- The JSON form. -/
def DebugResponse.codec : Codec DebugResponse :=
  (Codec.record "DebugResponse"
    (.cons (.required "analysis" .text)
      (.cons (.required "suggested_fix" .text) (.cons usageField .nil)))).reshape
    (fun (analysis, suggested, usage, ()) => ⟨analysis, suggested, usage⟩)
    (fun r => (r.analysis, r.suggestedFix, r.usage, ()))

/-- A plan for a change. -/
structure PlanResponse where
  plan : String
  usage : ContextUsage := {}
  deriving DecidableEq, Repr

/-- The JSON form. -/
def PlanResponse.codec : Codec PlanResponse :=
  (Codec.record "PlanResponse"
    (.cons (.required "plan" .text) (.cons usageField .nil))).reshape
    (fun (plan, usage, ()) => ⟨plan, usage⟩) (fun r => (r.plan, r.usage, ()))

/-- A file of a directory. -/
structure FileEntry where
  path : String
  name : String
  extension : String := ""
  size : UInt64 := 0
  deriving DecidableEq, Repr

/-- The JSON form. -/
def FileEntry.codec : Codec FileEntry :=
  (Codec.record "FileEntry"
    (.cons (.required "path" .text)
      (.cons (.required "name" .text)
        (.cons (.optional "extension" .text "")
          (.cons (.optional "size" .natural64 0) .nil))))).reshape
    (fun (path, name, extension, size, ()) => ⟨path, name, extension, size⟩)
    (fun e => (e.path, e.name, e.extension, e.size, ()))

/-- The files of a directory, in the backend's order. -/
structure FileListing where
  files : List FileEntry
  total : Option UInt64 := none
  deriving DecidableEq, Repr

/-- The JSON form. -/
def FileListing.codec : Codec FileListing :=
  (Codec.record "FileListing"
    (.cons (.required "files" FileEntry.codec.list)
      (.cons (.maybe "total" .natural64) .nil))).reshape
    (fun (files, total, ()) => ⟨files, total⟩) (fun l => (l.files, l.total, ()))

/-- The content of a file. -/
structure FileContent where
  path : String
  content : String
  lines : UInt64 := 0
  deriving DecidableEq, Repr

/-- The JSON form. -/
def FileContent.codec : Codec FileContent :=
  (Codec.record "FileContent"
    (.cons (.required "path" .text)
      (.cons (.required "content" .text)
        (.cons (.optional "lines" .natural64 0) .nil)))).reshape
    (fun (path, content, lines, ()) => ⟨path, content, lines⟩)
    (fun c => (c.path, c.content, c.lines, ()))

/-- The result of an index run. -/
structure IndexTriggerResponse where
  status : String
  stats : FreeJson := .null
  deriving Repr

/-- The JSON form. -/
def IndexTriggerResponse.codec : Codec IndexTriggerResponse :=
  (Codec.record "IndexTriggerResponse"
    (.cons (.required "status" .text) (.cons (.optional "stats" .free .null) .nil))).reshape
    (fun (status, stats, ()) => ⟨status, stats⟩) (fun r => (r.status, r.stats, ()))

/-- The statistics of the index. -/
structure IndexStats where
  value : FreeJson
  deriving Repr

namespace IndexStats

/-- The JSON form is the value itself. -/
def codec : Codec IndexStats := Codec.free.reshape IndexStats.mk IndexStats.value

/-- A section of the statistics, if they are an object that has it. -/
def section? (s : IndexStats) (name : String) : Option Json := s.value.tree.get? name

/-- The statistics as they are shown. -/
def pretty (s : IndexStats) : String := s.value.tree.pretty

end IndexStats

/-- The state of the backend. -/
structure HealthStatus where
  status : String
  databases : FreeJson := .null
  deriving Repr

namespace HealthStatus

/-- The JSON form. -/
def codec : Codec HealthStatus :=
  (Codec.record "HealthStatus"
    (.cons (.required "status" .text) (.cons (.optional "databases" .free .null) .nil))).reshape
    (fun (status, databases, ()) => ⟨status, databases⟩) (fun r => (r.status, r.databases, ()))

/-- The backend calls itself healthy, in any mixture of cases. -/
def isHealthy (h : HealthStatus) : Bool :=
  h.status.toList.map Char.toLower = "healthy".toList

end HealthStatus

end CodeAssistant
