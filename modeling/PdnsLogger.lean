import PdnsLogger.Foundation.PartialRuns
import PdnsLogger.Foundation.BoundedLoop
import PdnsLogger.Foundation.IncrementalDecoding
import PdnsLogger.Foundation.LineReading
import PdnsLogger.Foundation.AppendStreams
import PdnsLogger.Foundation.CText
import PdnsLogger.Foundation.SqlText
import PdnsLogger.Foundation.CarriedValues
import PdnsLogger.Program.Basic
import PdnsLogger.Program.Message
import PdnsLogger.Program.DnsNames
import PdnsLogger.Foundation.OptionScanning
import PdnsLogger.Program.CommandLine
import PdnsLogger.Program.Configuration
import PdnsLogger.Foundation.Trimming
import PdnsLogger.Inih.Parser
import PdnsLogger.Inih.Lines
import PdnsLogger.Inih.Documents
import PdnsLogger.Inih.Acceptance
import PdnsLogger.Inih.RoundTrip
import PdnsLogger.Transport.Listening
import PdnsLogger.Transport.Deframing
import PdnsLogger.Engines.TextLine
import PdnsLogger.Engines.LogFile
import PdnsLogger.Engines.SysLog
import PdnsLogger.Engines.SqlStatements
import PdnsLogger.Engines.Agreement
import PdnsLogger.Engines.LineRoom
import PdnsLogger.Engines.LineContents
import PdnsLogger.Engines.LineBreaks
import PdnsLogger.Engines.RowContents
import PdnsLogger.Engines.Numerals
import PdnsLogger.Engines.NullArguments
import PdnsLogger.Engines.RdataBytes
import PdnsLogger.Engines.Dispatch
import PdnsLogger.Transport.Connections
import PdnsLogger.Transport.BufferSafety
import PdnsLogger.Transport.Accepting
import PdnsLogger.Foundation.SqliteStore
import PdnsLogger.Queue.Fifo
import PdnsLogger.Queue.Memory
import PdnsLogger.Queue.Wakeup
import PdnsLogger.Queue.Progress
import PdnsLogger.Foundation.RecursiveLocks
import PdnsLogger.Queue.Locking
import PdnsLogger.Storage.Transactions
import PdnsLogger.Storage.Durability
import PdnsLogger.Storage.Stopping
import PdnsLogger.Storage.Rotation
import PdnsLogger.Storage.Selection
import PdnsLogger.Storage.Fates
import PdnsLogger.Pipeline.Threads
import PdnsLogger.Pipeline.Delivery
import PdnsLogger.Pipeline.LogFiles
import PdnsLogger.Lifecycle.Resources
import PdnsLogger.Lifecycle.EngineOptions
import PdnsLogger.Lifecycle.FileRotation
import PdnsLogger.Lifecycle.Startup
import PdnsLogger.Lifecycle.ConfigurationFile
import PdnsLogger.Lifecycle.StopRequests
import PdnsLogger.Lifecycle.Shutdown
import PdnsLogger.Queue.Interruptions
