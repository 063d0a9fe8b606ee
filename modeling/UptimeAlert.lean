import UptimeAlert.Main
import UptimeAlert.Proofs.Delivery.Outcome
import UptimeAlert.Proofs.Rejection
import UptimeAlert.Proofs.Stored
import UptimeAlert.Proofs.Template.HiddenBlock
import UptimeAlert.Proofs.Template.Lexeme
import UptimeAlert.Settings.Cache
import UptimeAlert.Proofs.Settings.Redaction
import UptimeAlert.Proofs.Settings.Enabled
import UptimeAlert.Proofs.Settings.Session
import UptimeAlert.Proofs.CommandLine.Preview
import UptimeAlert.Proofs.CommandLine.Calls
import UptimeAlert.Proofs.CommandLine.ExitCode
import UptimeAlert.Proofs.Template.SingleScan
import UptimeAlert.Proofs.Template.ReplacementOrder
import UptimeAlert.Proofs.Template.Relocalization
import UptimeAlert.Proofs.Template.BlockLayout
import UptimeAlert.Proofs.Template.TokenOccurrence
import UptimeAlert.Proofs.Template.LongestScan
import UptimeAlert.Proofs.Template.Resubstitution
import UptimeAlert.Proofs.Heartbeat.OffsetShift
import UptimeAlert.Proofs.Heartbeat.RealInstant
import UptimeAlert.Proofs.Settings.PlainAddress
import UptimeAlert.Proofs.Delivery.PlainBody
import UptimeAlert.Proofs.Delivery.Subject
import UptimeAlert.Proofs.Delivery.Upstream
