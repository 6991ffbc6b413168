import FunnelDispenser.Library.CMemory
import FunnelDispenser.Library.Decimal
import FunnelDispenser.Library.StepRuns
import FunnelDispenser.Library.Loops
import FunnelDispenser.Library.Countdown
import FunnelDispenser.Library.Rings
import FunnelDispenser.Library.Deliveries
import FunnelDispenser.Library.KeyValues
import FunnelDispenser.Library.Segments
import FunnelDispenser.Library.Numerals
import FunnelDispenser.Library.Ladder
import FunnelDispenser.Json.Buffer
import FunnelDispenser.Json.Writer
import FunnelDispenser.Json.Parser
import FunnelDispenser.Json.RoundTrip
import FunnelDispenser.Json.Termination
import FunnelDispenser.Json.Inside
import FunnelDispenser.Json.Finished
import FunnelDispenser.Config.Layout
import FunnelDispenser.Config.Storage
import FunnelDispenser.Config.RoundTrip
import FunnelDispenser.Config.Saving
import FunnelDispenser.Config.Loading
import FunnelDispenser.Config.Coherence
import FunnelDispenser.Device.Board
import FunnelDispenser.Device.Switch
import FunnelDispenser.Device.Hub
import FunnelDispenser.Device.HubEffects
import FunnelDispenser.Device.Commands
import FunnelDispenser.Device.LedDurations
import FunnelDispenser.Provisioning.WebServer
import FunnelDispenser.Device.Loop
import FunnelDispenser.Device.LoopCases
import FunnelDispenser.Time.TimeLib
import FunnelDispenser.Time.Calendar
import FunnelDispenser.Time.DateRoundTrip
import FunnelDispenser.Time.RunningClock
import FunnelDispenser.Time.DateText
import FunnelDispenser.Time.NtpDecoding
import FunnelDispenser.Time.ClockValidation
import FunnelDispenser.Device.Setup
import FunnelDispenser.Device.LedWriters
import FunnelDispenser.Device.LongPress
import FunnelDispenser.Device.StationBoot
import FunnelDispenser.Provisioning.Recovery
import FunnelDispenser.Provisioning.Submission
import FunnelDispenser.Provisioning.SavedConfig
import FunnelDispenser.Provisioning.Portal
import FunnelDispenser.Provisioning.ConnectionString
import FunnelDispenser.Transport.DoublyLinkedList
import FunnelDispenser.Transport.Client
import FunnelDispenser.Transport.Queue
import FunnelDispenser.Transport.Sending
import FunnelDispenser.Transport.Delivery
import FunnelDispenser.Transport.HttpStream
import FunnelDispenser.Transport.HttpHeaders
import FunnelDispenser.Transport.HttpResponse
import FunnelDispenser.Transport.HttpAnswer
import FunnelDispenser.Transport.Receiving
import FunnelDispenser.Transport.CommandDelivery
import FunnelDispenser.Transport.Resilience
import FunnelDispenser.Transport.Base64
import FunnelDispenser.Transport.UrlEncoding
import FunnelDispenser.Transport.SasToken
import FunnelDispenser.Reporting.Outbox
import FunnelDispenser.Provisioning.DeviceId
import FunnelDispenser.Provisioning.AccessPoint
import FunnelDispenser.Provisioning.NotFound
import FunnelDispenser.Reporting.Payload
import FunnelDispenser.Reporting.Starvation
import FunnelDispenser.Reporting.Pending
import FunnelDispenser.Reporting.Commitment
import FunnelDispenser.Reporting.Baseline
import FunnelDispenser.Reporting.Heartbeat
import FunnelDispenser.Reporting.Quiet
import FunnelDispenser.Reporting.InvalidReadings
import FunnelDispenser.Reporting.Shutdown
