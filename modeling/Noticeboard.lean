import Noticeboard.Command.CreateBoard
import Noticeboard.Command.IssueToken
import Noticeboard.Http.App
import Noticeboard.Main
import Noticeboard.Notice.Hint
import Noticeboard.Service.Desk
import Noticeboard.Service.Event
import Noticeboard.Store.Fault
import Noticeboard.Proofs.Store.Listing
import Noticeboard.Proofs.Service.Effect
import Noticeboard.Proofs.Repository.History
import Noticeboard.Proofs.Repository.Walk
import Noticeboard.Proofs.Service.Calls
import Noticeboard.Proofs.Service.Operation
import Noticeboard.Proofs.Service.Permanence
import Noticeboard.Proofs.Service.Along
import Noticeboard.Proofs.Http.Confined
import Noticeboard.Proofs.Http.Serve
import Noticeboard.Proofs.Http.Isolation
import Noticeboard.Proofs.Http.Stranger
import Noticeboard.Proofs.Service.Trace
import Noticeboard.Proofs.Http.Routing
import Noticeboard.Proofs.Service.Creation
import Noticeboard.Proofs.Http.Posting
import Noticeboard.Proofs.Json.Completeness
import Noticeboard.Proofs.Text.Utf8
import Noticeboard.Proofs.Json.Plain
import Noticeboard.Proofs.Notice.RoundTrip
import Noticeboard.Proofs.Service.Amid
import Noticeboard.Proofs.Http.Counting
import Noticeboard.Proofs.Http.Interleaving
import Noticeboard.Proofs.Http.WellFormed
import Noticeboard.Proofs.Service.Marking
import Noticeboard.Proofs.Json.Soundness
import Noticeboard.Proofs.Notice.Malformed
import Noticeboard.Proofs.Token.Expiry
import Noticeboard.Proofs.Token.Authentic
import Noticeboard.Proofs.Http.Linking
import Noticeboard.Proofs.Repository.Paging
import Noticeboard.Proofs.Service.MarkingAlone
import Noticeboard.Proofs.Http.OneNotice
import Noticeboard.Proofs.Service.Agreement
import Noticeboard.Proofs.Http.Parameter
import Noticeboard.Proofs.Text.Percent
import Noticeboard.Proofs.Http.Query
import Noticeboard.Proofs.Http.Host
import Noticeboard.Proofs.Notice.Fields
import Noticeboard.Proofs.Notice.Lists
import Noticeboard.Proofs.Service.Tidying
import Noticeboard.Proofs.Service.Telling
import Noticeboard.Proofs.Calendar.Stamp
import Noticeboard.Proofs.Notice.Hint
import Noticeboard.Proofs.Notice.Identifier
import Noticeboard.Proofs.Json.Garbled
import Noticeboard.Proofs.Token.Stumbling
import Noticeboard.Proofs.Http.Authentication
import Noticeboard.Proofs.Settings.Whole
import Noticeboard.Proofs.Settings.Lines
import Noticeboard.Proofs.Settings.Sources
import Noticeboard.Proofs.Settings.Checks
import Noticeboard.Proofs.Settings.Loading
import Noticeboard.Proofs.Http.Workload
