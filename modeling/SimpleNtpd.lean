import SimpleNtpd.Lib.Runs
import SimpleNtpd.Lib.Word
import SimpleNtpd.Lib.CppInt
import SimpleNtpd.Lib.CppString
import SimpleNtpd.Lib.Inet
import SimpleNtpd.Core.Timestamp
import SimpleNtpd.Core.Accuracy
import SimpleNtpd.Core.Packet
import SimpleNtpd.Config.Config
import SimpleNtpd.Config.Settings
import SimpleNtpd.Config.Loader
import SimpleNtpd.Config.KeyFields
import SimpleNtpd.Config.LineGrammar
import SimpleNtpd.Config.Fields
import SimpleNtpd.Config.Parser
import SimpleNtpd.Config.Dispatchers
import SimpleNtpd.Config.Formats
import SimpleNtpd.Main.CommandLine
import SimpleNtpd.Main.Precedence
import SimpleNtpd.Main.ConfigTest
import SimpleNtpd.Utils.Net
import SimpleNtpd.Core.AccessControl
import SimpleNtpd.Core.UpstreamSync
import SimpleNtpd.Core.ReplyBinding
import SimpleNtpd.Core.SaneSources
import SimpleNtpd.Core.Connection
import SimpleNtpd.Core.Authentication
import SimpleNtpd.Core.Server
import SimpleNtpd.Core.Frame
import SimpleNtpd.Core.WellFormedReplies
import SimpleNtpd.Core.ReloadScope
import SimpleNtpd.Lib.Window
import SimpleNtpd.Lib.Assignments
import SimpleNtpd.Lib.Components
import SimpleNtpd.Core.Workers
import SimpleNtpd.Core.Clients
import SimpleNtpd.Core.Separation
import SimpleNtpd.Core.LimiterEffects
import SimpleNtpd.Core.RateLimits
import SimpleNtpd.Core.NonInterference
import SimpleNtpd.Core.Daemon
import SimpleNtpd.Main.StartupValidation
import SimpleNtpd.Lib.Tables
import SimpleNtpd.Core.Statistics
import SimpleNtpd.Core.ConnectionTable
import SimpleNtpd.Core.WorkerStartup
import SimpleNtpd.Core.UpstreamFollow
import SimpleNtpd.Main.ReloadRestart
import SimpleNtpd.Core.Eras
import SimpleNtpd.Core.CausalOrder
import SimpleNtpd.Core.StatePersistence
import SimpleNtpd.Core.SyncHistory
import SimpleNtpd.Core.StratumOrder
import SimpleNtpd.Lib.FileFamily
import SimpleNtpd.Utils.Logger
import SimpleNtpd.Lib.Steps
import SimpleNtpd.Lib.Versions
import SimpleNtpd.Core.Snapshots
import SimpleNtpd.Core.Shutdown
import SimpleNtpd.Lib.FixedPoint
import SimpleNtpd.Lib.AddressBlock
import SimpleNtpd.Lib.IntegerText
import SimpleNtpd.Core.TimestampCodec
import SimpleNtpd.Core.ServedTime
import SimpleNtpd.Core.SignedOverflow
import SimpleNtpd.Core.SourceSelection
import SimpleNtpd.Core.AccessBlocks
import SimpleNtpd.Core.RequestValidation
import SimpleNtpd.Config.NumericSettings
import SimpleNtpd.Config.EnumeratedSettings
import SimpleNtpd.Config.KeyTables
import SimpleNtpd.Core.ReloadAtomicity
import SimpleNtpd.Core.ServingSocket
import SimpleNtpd.Core.SelfHealing
import SimpleNtpd.Lib.Disk
import SimpleNtpd.Core.ConfigBackup
import SimpleNtpd.Core.LimiterMemory
import SimpleNtpd.Lib.RoundRobin
import SimpleNtpd.Lib.Calls
import SimpleNtpd.Core.UpstreamRotation
import SimpleNtpd.Core.UpstreamHealth
import SimpleNtpd.Core.StratumRatchet
import SimpleNtpd.Lib.Utf8
import SimpleNtpd.Lib.Json
import SimpleNtpd.Utils.JsonLog
import SimpleNtpd.Core.CidrPrefix
import SimpleNtpd.Core.AclSets
import SimpleNtpd.Core.ReferenceIds
import SimpleNtpd.Lib.DelimitedText
import SimpleNtpd.Config.ListSettings
import SimpleNtpd.Lib.Clocks
import SimpleNtpd.Core.RootDistance
import SimpleNtpd.Lib.Polling
import SimpleNtpd.Core.ConfigWatcher
import SimpleNtpd.Core.SyncThread
import SimpleNtpd.Lib.WorkQueue
import SimpleNtpd.Core.ReceiveLoop
import SimpleNtpd.Core.ReceiveAccounts
import SimpleNtpd.Core.AnomalyDetection
import SimpleNtpd.Lib.Exposition
import SimpleNtpd.Core.Metrics
import SimpleNtpd.Core.ConnectionCounters
import SimpleNtpd.Lib.Report
import SimpleNtpd.Core.HealthReport
import SimpleNtpd.Core.SyncSpread
import SimpleNtpd.Utils.LogPipeline
import SimpleNtpd.Lib.Sections
import SimpleNtpd.Core.WorkerSections
import SimpleNtpd.Core.SerialOrder
import SimpleNtpd.Lib.Movers
import SimpleNtpd.Core.OneWorker
