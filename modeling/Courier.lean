import Courier.Agent
import Courier.Settings.Environment
import Courier.Settings.Json
import Courier.Wire
import Courier.Proofs.Accounts
import Courier.Proofs.Execution
import Courier.Proofs.Group.Moves
import Courier.Proofs.Group.Permits
import Courier.Proofs.Group.Histories
import Courier.Proofs.Group.Progress
import Courier.Proofs.Group.Logs
import Courier.Proofs.Group.Turns
import Courier.Proofs.Group.Admission
import Courier.Proofs.Group.Attribution
import Courier.Proofs.Group.Isolation
import Courier.Proofs.Group.Line
import Courier.Proofs.Group.Timetable
import Courier.Proofs.Group.Fairness
import Courier.Proofs.Group.Timing
import Courier.Proofs.Group.Duration
import Courier.Proofs.Group.Sequence
import Courier.Proofs.Group.Slots
import Courier.Proofs.Agreement
import Courier.Proofs.Group.Writers
import Courier.Proofs.Delivery
import Courier.Proofs.Group.Joining
import Courier.Proofs.Requests
import Courier.Proofs.SlotFailures
import Courier.Proofs.Payloads
import Courier.Proofs.Changes
import Courier.Proofs.Completion
import Courier.Proofs.Capping
import Courier.Proofs.Precedence
import Courier.Proofs.Uniformity
import Courier.Proofs.Group.Matching
import Courier.Proofs.Waits
import Courier.Proofs.TimeBudget
import Courier.Proofs.RetryRule
import Courier.Proofs.Text.Utf8
import Courier.Proofs.Text.WellFormed
import Courier.Proofs.Text.Trimming
import Courier.Proofs.Text.Numerals
import Courier.Proofs.Text.Wording
import Courier.Proofs.Settings.Environment
import Courier.Proofs.Settings.Exporting
import Courier.Proofs.Json.Literals
import Courier.Proofs.Json.Scalars
import Courier.Proofs.Json.Objects
import Courier.Proofs.Settings.Compact
import Courier.Proofs.Settings.Overlay
import Courier.Proofs.Failures
import Courier.Proofs.Chunks
import Courier.Proofs.Decoding
import Courier.Proofs.Counting
