import TableExchange.Json.Sorted
import TableExchange.Main
import TableExchange.Memory.Rehearsal
import TableExchange.Memory.Service
import TableExchange.Proofs.Read.Workers
import TableExchange.Proofs.Write.Publication
import TableExchange.Text.Hex
import TableExchange.Proofs.Write.Deliveries
import TableExchange.Proofs.Write.Determination
import TableExchange.Proofs.Write.ChosenAttempts
import TableExchange.Proofs.Interactive.TaskJournal
import TableExchange.Proofs.Interactive.ResultPulls
import TableExchange.Proofs.Interactive.ResultSequence
import TableExchange.Proofs.Interactive.SessionSteps
import TableExchange.Proofs.Interactive.SessionRuns
import TableExchange.Proofs.Memory.StoredSessions
import TableExchange.Proofs.Session.EndedSessions
import TableExchange.Proofs.Interactive.Creation
import TableExchange.Proofs.Shutdown.Scene
import TableExchange.Proofs.Shutdown.Waits
import TableExchange.Proofs.Memory.Rehearsals
import TableExchange.Proofs.Session.FailedCommits
import TableExchange.Proofs.Write.RecordLines
import TableExchange.Proofs.Write.BlockContents
import TableExchange.Proofs.Write.IndependentWriters
import TableExchange.Proofs.Memory.Paging
import TableExchange.Proofs.Read.PagedListing
import TableExchange.Proofs.Read.ScanAgreement
import TableExchange.Proofs.Json.Tokens
import TableExchange.Proofs.Json.ReadBack
import TableExchange.Proofs.Json.Fields
import TableExchange.Proofs.Json.Shipping
import TableExchange.Proofs.Interactive.NestedTexts
import TableExchange.Proofs.Config.Overlay
import TableExchange.Proofs.Config.Layering
import TableExchange.Proofs.Config.Loading
import TableExchange.Proofs.Interactive.OvertakenResults
import TableExchange.Proofs.Write.WriterCounts
import TableExchange.Proofs.Write.CounterBalance
import TableExchange.Proofs.Rest.Addresses
import TableExchange.Proofs.Interactive.StoppedSessions
import TableExchange.Proofs.Read.FailedPulls
import TableExchange.Proofs.Interactive.StartSchedule
import TableExchange.Proofs.Write.Totals
import TableExchange.Proofs.Failure.Hashing
import TableExchange.Proofs.Json.SingleLine
import TableExchange.Proofs.Write.RecordFraming
import TableExchange.Proofs.Read.Drains
import TableExchange.Proofs.Read.OrderBound
import TableExchange.Proofs.Console.QueryCourse
import TableExchange.Proofs.Console.Cleanup
import TableExchange.Proofs.Failure.FirstKind
import TableExchange.Proofs.Interactive.SessionNames
import TableExchange.Proofs.Config.Endpoints
import TableExchange.Proofs.Rest.Acknowledgement
import TableExchange.Proofs.Read.RequestedPages
