import XIoT.System
import XIoT.Lib.Runs
import XIoT.Lib.Trace
import XIoT.Lib.Alternation
import XIoT.Lib.BinaryFormat
import XIoT.TagRegistry
import XIoT.TagRuntime
import XIoT.ModbusCodec
import XIoT.ProtocolDispatcher
import XIoT.Core
import XIoT.CorePass
import XIoT.CoreCycle
import XIoT.CoreInterlock
import XIoT.Lib.TaskPool
import XIoT.PollingService
import XIoT.NetworkEvents
import XIoT.WifiLink
import XIoT.MqttAgreement
import XIoT.SubscribeOnConnect
import XIoT.Acquisition
import XIoT.ModbusService
import XIoT.RuntimeMirror
import XIoT.Lib.LockOrder
import XIoT.Mutexes
import XIoT.CommandPath
import XIoT.CommandFlow
import XIoT.CommandOrder
import XIoT.CommandAcceptance
import XIoT.CommandConservation
import XIoT.Lib.Rounding
import XIoT.ArduinoJson
import XIoT.CommandValues
import XIoT.RegisterRoundTrip
import XIoT.MemberAgreement
import XIoT.Publisher
import XIoT.Snapshot
import XIoT.CoreAbort
import XIoT.CoreTimeout
import XIoT.FailedReads
import XIoT.CoreFaults
import XIoT.CorePending
import XIoT.CoreClock
import XIoT.WriteFrames
import XIoT.Dispatch
import XIoT.WifiLifecycle
import XIoT.WifiReconnect
import XIoT.ServiceLifecycle
import XIoT.IdLookups
import XIoT.WordOrders
import XIoT.ReceivedBytes
import XIoT.Lib.Custody
import XIoT.Lib.PeriodicTimer
import XIoT.Lib.Framing
import XIoT.Lib.Decimal
import XIoT.AlertService
import XIoT.MqttTransmit
import XIoT.AlertPath
import XIoT.AlertCustody
import XIoT.CoreAlerts
import XIoT.ModbusHealth
import XIoT.AcquisitionScan
import XIoT.Mediator
import XIoT.Boot
import XIoT.NextionDisplay
import XIoT.Logger
import XIoT.Lib.VersionedRegister
import XIoT.TelemetryOrder
import XIoT.TelemetryPath
import XIoT.CommandFrames
import XIoT.Connectivity
