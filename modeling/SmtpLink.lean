import SmtpLink.Reply.AssemblerScript
import SmtpLink.Scenario.Script
import SmtpLink.Session.Run
import SmtpLink.SocketTask.Machine
import SmtpLink.Transport.Script
import SmtpLink.Proofs.Effect
import SmtpLink.Proofs.Lifecycle
import SmtpLink.Proofs.Fault
import SmtpLink.Proofs.Expectation
import SmtpLink.Proofs.Drain
import SmtpLink.Proofs.Block
import SmtpLink.Proofs.Correlation
import SmtpLink.Proofs.CommandLines
import SmtpLink.Proofs.QuitOnce
import SmtpLink.Proofs.Backpressure
import SmtpLink.Proofs.Reading
import SmtpLink.Proofs.Upgrade
import SmtpLink.Proofs.Completions
import SmtpLink.Proofs.Steady
import SmtpLink.Proofs.SessionEnd
import SmtpLink.Proofs.Sessions
import SmtpLink.Proofs.Dealings
import SmtpLink.Proofs.Turns
import SmtpLink.Proofs.SecureLines
import SmtpLink.Proofs.Accounts
import SmtpLink.Proofs.Rest
import SmtpLink.Proofs.LowWater
import SmtpLink.Proofs.Encoding
import SmtpLink.Proofs.Rendering
import SmtpLink.Proofs.RoundTrip
import SmtpLink.Proofs.StateDiagram
import SmtpLink.Proofs.AfterQuit
import SmtpLink.Proofs.Ledger
import SmtpLink.Proofs.Endings
import SmtpLink.Proofs.Reports
import SmtpLink.Proofs.Refusals
import SmtpLink.Proofs.BatchSize
import SmtpLink.Proofs.LineLimit
import SmtpLink.Proofs.Words
import SmtpLink.Proofs.Announcement
import SmtpLink.Proofs.Advertised
import SmtpLink.Proofs.EqualTables
import SmtpLink.Proofs.Grammar
import SmtpLink.Proofs.Masking
import SmtpLink.Proofs.TaskOrder
import SmtpLink.Proofs.Hearing
import SmtpLink.Proofs.Overrides
import SmtpLink.Proofs.HandingOut
