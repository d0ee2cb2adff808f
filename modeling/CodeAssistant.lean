import CodeAssistant.Assistant.Basic
import CodeAssistant.Assistant.Browser
import CodeAssistant.Assistant.Call
import CodeAssistant.Assistant.Category
import CodeAssistant.Assistant.IndexPanel
import CodeAssistant.Assistant.Rehearsal
import CodeAssistant.Assistant.Screen
import CodeAssistant.Assistant.Session
import CodeAssistant.Assistant.SingleFlight
import CodeAssistant.Assistant.Slot
import CodeAssistant.Assistant.Ticket
import CodeAssistant.Backend.Client
import CodeAssistant.Backend.Config
import CodeAssistant.Backend.Error
import CodeAssistant.Backend.ErrorBody
import CodeAssistant.Backend.Operation
import CodeAssistant.Codec.Basic
import CodeAssistant.Codec.Record
import CodeAssistant.Decimal.Binary64
import CodeAssistant.Decimal.Layout
import CodeAssistant.Decimal.Shortest
import CodeAssistant.Http.Exchange
import CodeAssistant.Http.Headers
import CodeAssistant.Http.Message
import CodeAssistant.Http.Server
import CodeAssistant.Http.Status
import CodeAssistant.Http.Wire
import CodeAssistant.Json.Brackets
import CodeAssistant.Json.Document
import CodeAssistant.Json.Fault
import CodeAssistant.Json.Lexeme
import CodeAssistant.Json.Numbers
import CodeAssistant.Json.Printer
import CodeAssistant.Json.Reader
import CodeAssistant.Json.Strings
import CodeAssistant.Json.Value
import CodeAssistant.Main
import CodeAssistant.Shell.Command
import CodeAssistant.Shell.Ending
import CodeAssistant.Shell.LogFilter
import CodeAssistant.Shell.LogFilter.Pattern
import CodeAssistant.Shell.Loop
import CodeAssistant.Shell.Rehearsal
import CodeAssistant.Shell.Render
import CodeAssistant.Shell.Run
import CodeAssistant.Text.Alphanumeric
import CodeAssistant.Text.Base64
import CodeAssistant.Text.Blank
import CodeAssistant.Text.Composition
import CodeAssistant.Text.Dictionary
import CodeAssistant.Text.Digits
import CodeAssistant.Text.Direction
import CodeAssistant.Text.Joining
import CodeAssistant.Text.Marks
import CodeAssistant.Text.Printable
import CodeAssistant.Text.Quoted
import CodeAssistant.Text.Ranges
import CodeAssistant.Text.Split
import CodeAssistant.Text.Stream
import CodeAssistant.Text.Utf8
import CodeAssistant.Url.Basic
import CodeAssistant.Url.Form
import CodeAssistant.Url.Host
import CodeAssistant.Url.Label
import CodeAssistant.Url.Parser
import CodeAssistant.Url.Percent
import CodeAssistant.Url.Punycode
import CodeAssistant.Wire.Failure
import CodeAssistant.Wire.Request
import CodeAssistant.Wire.Response
import CodeAssistant.Proofs.Components
import CodeAssistant.Proofs.Awaiting
import CodeAssistant.Proofs.Accounts
import CodeAssistant.Proofs.Confluence
import CodeAssistant.Proofs.Conversation
import CodeAssistant.Proofs.Browsing
import CodeAssistant.Proofs.Tickets
import CodeAssistant.Proofs.Taking
import CodeAssistant.Proofs.Skipping
import CodeAssistant.Proofs.Agreement
import CodeAssistant.Proofs.Records
import CodeAssistant.Proofs.Canonical
import CodeAssistant.Proofs.TreeRules
import CodeAssistant.Proofs.Bodies
import CodeAssistant.Proofs.Extension
import CodeAssistant.Proofs.CutOff
import CodeAssistant.Proofs.NumberTexts
import CodeAssistant.Proofs.Layouts
import CodeAssistant.Proofs.RoundTrip
import CodeAssistant.Proofs.Characters
import CodeAssistant.Proofs.Streaming
import CodeAssistant.Proofs.Admission
import CodeAssistant.Proofs.Quiescence
import CodeAssistant.Proofs.Verbatim
import CodeAssistant.Proofs.Grammar
import CodeAssistant.Proofs.Rows
import CodeAssistant.Proofs.ErrorBodies
import CodeAssistant.Proofs.Outcomes
import CodeAssistant.Proofs.Refusals
import CodeAssistant.Proofs.BaseUrls
import CodeAssistant.Proofs.Directories
import CodeAssistant.Proofs.Authorities
import CodeAssistant.Proofs.Prolonging
import CodeAssistant.Proofs.Openings
import CodeAssistant.Proofs.Names
import CodeAssistant.Proofs.Endpoints
import CodeAssistant.Proofs.Queries
import CodeAssistant.Proofs.Separators
import CodeAssistant.Proofs.CommandLines
import CodeAssistant.Proofs.Offsets
import CodeAssistant.Proofs.Cuts
import CodeAssistant.Proofs.Snapshots
import CodeAssistant.Proofs.Statistics
import CodeAssistant.Proofs.Asking
import CodeAssistant.Proofs.Categories
import CodeAssistant.Proofs.HeaderNames
import CodeAssistant.Proofs.Headings
import CodeAssistant.Proofs.Independence
import CodeAssistant.Proofs.Compounds
import CodeAssistant.Proofs.Places
import CodeAssistant.Proofs.Counts
