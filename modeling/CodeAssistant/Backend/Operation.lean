/-
# Operations

The eight operations of the backend.  An operation fixes the endpoint, the type of what is sent
and the type of what comes back; `Operation.Request` and `Operation.Response` give the two types,
so that a call and its answer always belong together.
-/
import CodeAssistant.Wire.Failure
import CodeAssistant.Wire.Request
import CodeAssistant.Wire.Response

namespace CodeAssistant

/-- An operation of the backend. -/
inductive Operation
  | chat
  | debug
  | plan
  | listFiles
  | getFileContent
  | triggerIndex
  | indexStats
  | health
  deriving DecidableEq, Repr

/-- How a request is sent. -/
inductive Method
  | get
  | post
  deriving DecidableEq, Repr

/-- The method's name on the wire. -/
def Method.name : Method → String
  | get => "GET"
  | post => "POST"

namespace Operation

/-- All operations. -/
def all : List Operation :=
  [chat, debug, plan, listFiles, getFileContent, triggerIndex, indexStats, health]

/-- The operation's short name. -/
def name : Operation → String
  | chat => "chat"
  | debug => "debug"
  | plan => "plan"
  | listFiles => "list_files"
  | getFileContent => "get_file_content"
  | triggerIndex => "trigger_index"
  | indexStats => "index_stats"
  | health => "health"

/-- The operation with a short name. -/
def ofName? (s : String) : Option Operation := all.find? (·.name = s)

/-- What the operation is called in messages. -/
def label : Operation → String
  | chat => "Chat"
  | debug => "Debug"
  | plan => "Plan"
  | listFiles => "List files"
  | getFileContent => "Get file content"
  | triggerIndex => "Index repository"
  | indexStats => "Get index stats"
  | health => "Health check"

/-- The path of the operation's endpoint. -/
def path : Operation → String
  | chat => "/ai/chat"
  | debug => "/ai/debug"
  | plan => "/ai/plan"
  | listFiles => "/files"
  | getFileContent => "/file"
  | triggerIndex => "/index/index"
  | indexStats => "/index/stats"
  | health => "/health"

/-- How the operation is requested. -/
def method : Operation → Method
  | chat | debug | plan | triggerIndex => .post
  | listFiles | getFileContent | indexStats | health => .get

/-! ## 1. What is sent -/

/-- What an operation is asked with. -/
abbrev Request : Operation → Type
  | chat => ChatRequest
  | debug => DebugRequest
  | plan => PlanRequest
  | listFiles => String
  | getFileContent => String
  | triggerIndex => IndexRequest
  | indexStats => Unit
  | health => Unit

/-- The JSON form of a request. -/
def requestCodec : (op : Operation) → Codec op.Request
  | chat => ChatRequest.codec
  | debug => DebugRequest.codec
  | plan => PlanRequest.codec
  | listFiles => .text
  | getFileContent => .text
  | triggerIndex => IndexRequest.codec
  | indexStats => .unit
  | health => .unit

/-- The body that is posted. -/
def body? : (op : Operation) → op.Request → Option String
  | chat, r => some (ChatRequest.codec.encode r)
  | debug, r => some (DebugRequest.codec.encode r)
  | plan, r => some (PlanRequest.codec.encode r)
  | triggerIndex, r => some (IndexRequest.codec.encode r)
  | listFiles, _ => none
  | getFileContent, _ => none
  | indexStats, _ => none
  | health, _ => none

/-- The pair that is asked for in the query. -/
def query? : (op : Operation) → op.Request → Option (String × String)
  | listFiles, directory => some ("directory", directory)
  | getFileContent, path => some ("file_path", path)
  | chat, _ => none
  | debug, _ => none
  | plan, _ => none
  | triggerIndex, _ => none
  | indexStats, _ => none
  | health, _ => none

/-! ## 2. What comes back -/

/-- What an operation is answered with. -/
abbrev Response : Operation → Type
  | chat => ChatResponse
  | debug => DebugResponse
  | plan => PlanResponse
  | listFiles => List FileEntry
  | getFileContent => FileContent
  | triggerIndex => IndexTriggerResponse
  | indexStats => IndexStats
  | health => HealthStatus

/-- The JSON form of an answer. -/
def responseCodec : (op : Operation) → Codec op.Response
  | chat => ChatResponse.codec
  | debug => DebugResponse.codec
  | plan => PlanResponse.codec
  | listFiles => FileEntry.codec.list
  | getFileContent => FileContent.codec
  | triggerIndex => IndexTriggerResponse.codec
  | indexStats => IndexStats.codec
  | health => HealthStatus.codec

/-- The answer in the body of a response.  The files of a directory come inside a listing. -/
def readBody : (op : Operation) → String → Except Fault op.Response
  | chat, body => ChatResponse.codec.decode body
  | debug, body => DebugResponse.codec.decode body
  | plan, body => PlanResponse.codec.decode body
  | listFiles, body => (FileListing.codec.decode body).map FileListing.files
  | getFileContent, body => FileContent.codec.decode body
  | triggerIndex, body => IndexTriggerResponse.codec.decode body
  | indexStats, body => IndexStats.codec.decode body
  | health, body => HealthStatus.codec.decode body

end Operation

end CodeAssistant
