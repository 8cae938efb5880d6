import CEMonitor.Infra.Traverse
import CEMonitor.Properties.Certificate
import CEMonitor.Properties.Commands
import CEMonitor.Properties.Cycles
import CEMonitor.Properties.Failures
import CEMonitor.Properties.History
import CEMonitor.Properties.Url
import CEMonitor.Properties.Verdicts
import CEMonitor.Properties.Responses
import CEMonitor.Properties.Copies
import CEMonitor.Properties.Reuse
import CEMonitor.Properties.EventMessages
import CEMonitor.Properties.Notifications
import CEMonitor.Properties.UtcTime
import CEMonitor.Properties.Dialects
import CEMonitor.Properties.Options
import CEMonitor.Properties.Durations
import CEMonitor.Properties.Clearing
import CEMonitor.Properties.PeerName
import CEMonitor.ConsumerProgram
import CEMonitor.Properties.Dumps
import CEMonitor.Infra.Ownership
import CEMonitor.Objects
import CEMonitor.Client
import CEMonitor.Properties.Objects
import CEMonitor.Properties.Ownership
import CEMonitor.Infra.Sharing
import CEMonitor.Mains
import CEMonitor.Properties.Interleaving
import CEMonitor.Properties.Mains
import CEMonitor.Properties.Received
import CEMonitor.Properties.Uses
