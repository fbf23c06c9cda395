import Sntp.Main
import Sntp.Simulation.Host
import Sntp.Simulation.Rehearsal
import Sntp.Proofs.Run
import Sntp.Proofs.Sync.Acquisition
import Sntp.Proofs.Clock.Estimate
import Sntp.Proofs.Clock.Gates
import Sntp.Proofs.Sync.Parts
import Sntp.Proofs.Scene.Growth
import Sntp.Proofs.Scene.Logging
import Sntp.Proofs.Rehearsal.Course
import Sntp.Proofs.Rehearsal.Setting
import Sntp.Proofs.Rehearsal.Foresight
import Sntp.Proofs.Rehearsal.DryRun
import Sntp.Proofs.Sync.Alarms
import Sntp.Proofs.Sync.Outcomes
import Sntp.Proofs.Rehearsal.Attempts
import Sntp.Proofs.Rehearsal.Outcomes
import Sntp.Proofs.Network.Race
import Sntp.Proofs.Network.Session
import Sntp.Proofs.Host.Attempts
import Sntp.Proofs.Process.Ending
import Sntp.Proofs.Scene.Processes
import Sntp.Proofs.Host.Course
import Sntp.Proofs.Host.Discipline
import Sntp.Proofs.Process.Success
import Sntp.Proofs.Scene.Closing
import Sntp.Proofs.Host.Exit
import Sntp.Proofs.Host.Setting
import Sntp.Proofs.Host.Verdict
import Sntp.Proofs.Packet.Reading
import Sntp.Proofs.Packet.Layout
import Sntp.Proofs.Packet.Reference
import Sntp.Proofs.Packet.Verdict
import Sntp.Proofs.Packet.Encoding
import Sntp.Proofs.Options.Interpretation
import Sntp.Proofs.Options.Letters
import Sntp.Proofs.Options.Answer
import Sntp.Proofs.Log.Flush
import Sntp.Proofs.Host.Quiet
import Sntp.Proofs.Network.Foreign
import Sntp.Proofs.Host.Noninterference
import Sntp.Proofs.Rehearsal.Mirrored
import Sntp.Proofs.Rehearsal.Verbosity
import Sntp.Proofs.Calendar.Years
import Sntp.Proofs.Sync.Failures
import Sntp.Proofs.Rehearsal.Range
import Sntp.Proofs.Number.Reach
import Sntp.Proofs.Number.Sums
import Sntp.Proofs.Options.Values
import Sntp.Proofs.Options.Clusters
import Sntp.Proofs.Clock.Rounding
import Sntp.Proofs.Sync.Correction
import Sntp.Proofs.Sync.YearGate
import Sntp.Proofs.Sync.SetterCalls
import Sntp.Proofs.Packet.Milliseconds
import Sntp.Proofs.Clock.EpochSeconds
import Sntp.Proofs.Clock.DateFields
import Sntp.Proofs.Process.Verdict
import Sntp.Proofs.Text.Formatting
import Sntp.Proofs.Text.Stripping
import Sntp.Proofs.Text.Mentions
import Sntp.Proofs.Process.Chunking
import Sntp.Proofs.Number.Nearest
import Sntp.Proofs.Network.Endpoints
import Sntp.Proofs.Assurance
import Sntp.Proofs.Sync.Messages
import Sntp.Proofs.Sync.Logging
import Sntp.Proofs.Rehearsal.Printable
