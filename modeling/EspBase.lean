import EspBase.Shared.Run
import EspBase.Config.Store
import EspBase.Ota.ReceiptRuns
import EspBase.Protocol.Configuration
import EspBase.Wifi.Selection
import EspBase.Protocol.Trials
import EspBase.Protocol.OtaResults
import EspBase.Network.Authentication
import EspBase.Network.MqttOwner
import EspBase.Shared.VersionedCache
import EspBase.Network.ControlTask
import EspBase.Network.Revocation
import EspBase.Shared.Since
import EspBase.Wifi.Runs
import EspBase.Wifi.ReportedState
import EspBase.Wifi.LatestSelection
import EspBase.Network.FrpReplay
import EspBase.Network.FrpConnection
import EspBase.Network.FrpHeaders
import EspBase.Network.FrpStream
import EspBase.Config.Bijection
import EspBase.Protocol.Authority
import EspBase.Host.Configuration
import EspBase.Host.Agreement
import EspBase.Host.Migration
import EspBase.Protocol.CommandDecoder
import EspBase.Network.MqttDispatch
import EspBase.Config.VerifiedCommit
import EspBase.Network.FrpClient
import EspBase.Protocol.Admission
import EspBase.Protocol.CommandScan
import EspBase.Protocol.EmbeddedNul
import EspBase.Protocol.Conflicts
import EspBase.Protocol.LineFraming
import EspBase.Shared.Justified
import EspBase.Startup.AppMain
import EspBase.Startup.Confirmation
import EspBase.Host.Loads
import EspBase.Host.ReadResult
import EspBase.Protocol.Answer
import EspBase.Protocol.ResultRuns
import EspBase.Identity.Uuid
import EspBase.Network.MqttFrame
import EspBase.Config.Utf8Language
import EspBase.Host.Receipts
import EspBase.Container.FirmwareSet
import EspBase.Container.Binding
import EspBase.Ota.OwnerSteps
import EspBase.Identity.Boots
import EspBase.Shared.Dict
import EspBase.Host.NvsRecords
import EspBase.Protocol.OtaPhases
import EspBase.Container.Phases
import EspBase.Startup.SharedOwner
import EspBase.Startup.SharedRuns
import EspBase.Protocol.Answering
import EspBase.Network.TaskAnswers
import EspBase.Host.Answers
import EspBase.Host.Applied
import EspBase.Host.Dumps
import EspBase.Host.Prescan
import EspBase.Host.Trees
import EspBase.Host.Sections
import EspBase.Host.Sendable
import EspBase.Host.SentConfig
import EspBase.Host.SentLine
