import CannedHttp.Admin.Client
import CannedHttp.Files.Memory
import CannedHttp.Main
import CannedHttp.Proofs.HeaderList
import CannedHttp.Proofs.Text.Numbers
import CannedHttp.Proofs.Text.Splitting
import CannedHttp.Shutdown
import CannedHttp.Proofs.Definition.Lines
import CannedHttp.Proofs.Definition.Parts
import CannedHttp.Proofs.Definition.Printing
import CannedHttp.Proofs.Percent
import CannedHttp.Proofs.Dict
import CannedHttp.Proofs.Query
import CannedHttp.Proofs.Query.Writing
import CannedHttp.Proofs.Matching.Structural
import CannedHttp.Proofs.Matching.Acceptance
import CannedHttp.Proofs.Matching.Search
import CannedHttp.Proofs.Matching.Writings
import CannedHttp.Proofs.Matching.Instances
import CannedHttp.Proofs.Matching.FastPath
import CannedHttp.Proofs.Matching.OwnUrl
import CannedHttp.Proofs.Http.Target
import CannedHttp.Proofs.Definition.Separators
import CannedHttp.Proofs.Script
import CannedHttp.Proofs.Store.Calls
import CannedHttp.Proofs.Store.Callers
import CannedHttp.Proofs.Store.Publishing
import CannedHttp.Proofs.Store.Population
import CannedHttp.Proofs.Store.History
import CannedHttp.Proofs.Reports
import CannedHttp.Proofs.Store.Serving
import CannedHttp.Proofs.Server.Answers
import CannedHttp.Proofs.Admin.Endpoints
import CannedHttp.Proofs.Server.Handling
import CannedHttp.Proofs.Server.Requests
import CannedHttp.Proofs.Admin.Access
import CannedHttp.Proofs.Store.Reading
import CannedHttp.Proofs.Store.Latest
import CannedHttp.Proofs.Store.Tracking
import CannedHttp.Proofs.Watch.Loop
import CannedHttp.Proofs.Startup.Scripts
import CannedHttp.Proofs.Startup.Launch
import CannedHttp.Proofs.Startup.Changes
import CannedHttp.Proofs.Template
import CannedHttp.Proofs.Url.Grammar
import CannedHttp.Proofs.Matching.Hosts
import CannedHttp.Proofs.Text.Lossy
import CannedHttp.Proofs.Matching.Literals
import CannedHttp.Proofs.Files.Memory
import CannedHttp.Proofs.Files.Disk
import CannedHttp.Proofs.Store.Readers
import CannedHttp.Proofs.Definition.Unread
import CannedHttp.Proofs.Definition.Statuses
import CannedHttp.Proofs.Http.Response
import CannedHttp.Proofs.Config.Rules
import CannedHttp.Proofs.Config.Accepted
import CannedHttp.Proofs.Admin.Login
import CannedHttp.Proofs.Route.Compiling
import CannedHttp.Proofs.HeaderList.History
