import Warden.Json.Reader
import Warden.Json.Writer
import Warden.KeepAwake.ChildLock
import Warden.Lifecycle
import Warden.Log.Root
import Warden.Main
import Warden.Page.Shown
import Warden.Rehearsal.Cadences
import Warden.Rehearsal.NamedPanels
import Warden.Rehearsal.Session
import Warden.Server.Child
import Warden.Proofs.ServerLog.History
import Warden.Proofs.Files.Taken
import Warden.Proofs.Server.Commands
import Warden.Proofs.ServerLog.Delivery
import Warden.Proofs.Webif.Port
import Warden.Proofs.Server.Run
import Warden.Proofs.Server.OneChild
import Warden.Proofs.KeepAwake.Token
import Warden.Proofs.Supervisor.Commands
import Warden.Proofs.Supervisor.Ledger
import Warden.Proofs.Supervisor.Host
import Warden.Proofs.Supervisor.Vigil
import Warden.Proofs.Files.Route
import Warden.Proofs.Server.ChildView
import Warden.Proofs.Server.FixedPort
import Warden.Proofs.Numeric.Rounding
import Warden.Proofs.Schedule.Loops
import Warden.Proofs.Schedule.Waits
import Warden.Proofs.Schedule.Chronicle
import Warden.Proofs.Schedule.Told
import Warden.Proofs.Schedule.Turns
import Warden.Proofs.Schedule.Course
import Warden.Proofs.Schedule.EvenSpacing
import Warden.Proofs.Act.Keeps
import Warden.Proofs.Schedule.Standing
import Warden.Proofs.Poller.Diary
import Warden.Proofs.Poller.Questions
import Warden.Proofs.Poller.Vigilance
import Warden.Proofs.Poller.Attendance
import Warden.Proofs.Poller.Publication
import Warden.Proofs.Readership.Turns
import Warden.Proofs.Readership.Acts
import Warden.Proofs.Readership.Delivery
import Warden.Proofs.Readership.Pages
import Warden.Proofs.ServerLog.Retained
import Warden.Proofs.Network.Exclusive
import Warden.Proofs.KeepAwake.Custody
import Warden.Proofs.Log.Mirror
import Warden.Proofs.Server.Quiet
import Warden.Proofs.Command.Reports
import Warden.Proofs.ServerLog.Batch
import Warden.Proofs.ServerLog.Trim
import Warden.Proofs.Webif.Comments
import Warden.Proofs.Server.Output
import Warden.Proofs.Webif.Assignments
import Warden.Proofs.Server.Refusals
import Warden.Proofs.Network.FirstMatch
import Warden.Proofs.ServerLog.Distrust
import Warden.Proofs.Uptime.ClockFace
import Warden.Proofs.Supervisor.Questions
import Warden.Proofs.Log.SetUp
import Warden.Proofs.CommandLine.Precedence
