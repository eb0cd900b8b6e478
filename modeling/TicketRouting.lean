import TicketRouting.Text.Basic
import TicketRouting.Text.CaseTable
import TicketRouting.Text.Lower
import TicketRouting.Calendar.Instant
import TicketRouting.Calendar.Parser
import TicketRouting.Decimal.Binary64
import TicketRouting.Json.Value
import TicketRouting.RoutingError
import TicketRouting.Ticket.Basic
import TicketRouting.Ticket.Context
import TicketRouting.Unicode.CategoryTable
import TicketRouting.Unicode.ScriptTable
import TicketRouting.Unicode.ScriptExtensionTable
import TicketRouting.Unicode.BinaryTable
import TicketRouting.Unicode.AgeTable
import TicketRouting.Unicode.BreakTable
import TicketRouting.Unicode.FoldTable
import TicketRouting.Unicode.CodeSet
import TicketRouting.Unicode.Property
import TicketRouting.Unicode.Current
import TicketRouting.Json.Codec
import TicketRouting.Ticket.JsonForm
import TicketRouting.Pattern.Regex
import TicketRouting.Pattern.Flags
import TicketRouting.Pattern.Escape
import TicketRouting.Pattern.Bracket
import TicketRouting.Pattern.Reader
import TicketRouting.Matching.Predicate
import TicketRouting.Routing.Decision
import TicketRouting.Toml.Value
import TicketRouting.Toml.Scalar
import TicketRouting.Toml.Reader
import TicketRouting.Config.Settings
import TicketRouting.Config.Document
import TicketRouting.Polling.Pass
import TicketRouting.Polling.Schedule
import TicketRouting.Store.Tables
import TicketRouting.Store.Requests
import TicketRouting.Store.Queues
import TicketRouting.Store.Rules
import TicketRouting.Store.Mailboxes
import TicketRouting.Store.Connection
import TicketRouting.Proofs.Routing.Decision
import TicketRouting.Proofs.Routing.MemoryLookup
import TicketRouting.Proofs.Calendar.ColumnOrder
import TicketRouting.Proofs.Calendar.TimeLine
import TicketRouting.Proofs.Calendar.WrittenForm
import TicketRouting.Proofs.Polling.Results
import TicketRouting.Proofs.Store.Write
import TicketRouting.Proofs.Store.Outcome
import TicketRouting.Proofs.Store.History
import TicketRouting.Proofs.Store.Reading
import TicketRouting.Proofs.Store.Atomicity
import TicketRouting.Proofs.Store.Tenancy
import TicketRouting.Proofs.Store.Isolation
import TicketRouting.Proofs.Store.DefaultQueue
import TicketRouting.Proofs.Store.Steps
import TicketRouting.Proofs.Store.Deletion
import TicketRouting.Proofs.Store.PollTimes
import TicketRouting.Proofs.Store.Agreement
import TicketRouting.Proofs.Store.RuleOrder
import TicketRouting.Proofs.Store.UnreadableRules
import TicketRouting.Proofs.Matching.LiteralParts
import TicketRouting.Proofs.Json.Record
import TicketRouting.Proofs.Json.TicketForms
import TicketRouting.Proofs.Store.SentChanges
import TicketRouting.Proofs.Store.Interleaving
import TicketRouting.Proofs.Store.Reordering
import TicketRouting.Proofs.Store.Appending
import TicketRouting.Proofs.Store.RuleOverlay
import TicketRouting.Proofs.Store.Footprint
import TicketRouting.Proofs.Polling.Accounting
import TicketRouting.Proofs.Polling.Shutdown
import TicketRouting.Proofs.Routing.KeyedHistory
import TicketRouting.Proofs.Routing.MemoryHistory
import TicketRouting.Proofs.Text.SpelledItems
import TicketRouting.Proofs.Text.LowerTwice
import TicketRouting.Proofs.Matching.CaseBlind
import TicketRouting.Proofs.Matching.TagRules
import TicketRouting.Proofs.Store.RuleQueues
