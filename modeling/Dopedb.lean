import Dopedb.Library.Table
import Dopedb.Library.Runs
import Dopedb.Library.HashChain
import Dopedb.Library.Json
import Dopedb.Text
import Dopedb.Platform
import Dopedb.Operations.Model
import Dopedb.Operations.StateMachine
import Dopedb.Operations.Projection
import Dopedb.Library.Transaction
import Dopedb.Operations.Repository
import Dopedb.Library.Sorting
import Dopedb.Operations.Steps
import Dopedb.Operations.Rows
import Dopedb.Operations.Lifecycle
import Dopedb.Operations.Ledger
import Dopedb.Library.Sha256
import Dopedb.Reference
import Dopedb.Library.Framing
import Dopedb.Model
import Dopedb.Audit
import Dopedb.Safety.StatementKinds
import Dopedb.Library.JsonRecord
import Dopedb.Protocol.CatalogModel
import Dopedb.Protocol.Catalog
import Dopedb.Protocol.Fingerprint
import Dopedb.Protocol.SchemaDiff
import Dopedb.Protocol.DiffSoundness
import Dopedb.Desktop.JavaScript
import Dopedb.Queries.ManualSession
import Dopedb.Queries.ManualTransaction
import Dopedb.Library.Tasks
import Dopedb.Queries.EndAgreement
import Dopedb.Library.Commands
import Dopedb.Library.Savepoints
import Dopedb.Queries.SavepointDiscipline
import Dopedb.Library.Autocommit
import Dopedb.Queries.ScriptSession
import Dopedb.Scripts.ScriptTransaction
import Dopedb.Scripts.WriteExecution
import Dopedb.Scripts.RecordedOutcome
import Dopedb.Jobs.StateMachine
import Dopedb.Jobs.Control
import Dopedb.Jobs.ControlInvariant
import Dopedb.Jobs.ControlSteps
import Dopedb.Jobs.JobControl
import Dopedb.Library.Paging
import Dopedb.Jobs.Values
import Dopedb.Jobs.ExportSink
import Dopedb.Jobs.ExportRun
import Dopedb.Jobs.ExportResume
import Dopedb.Jobs.ExportPages
import Dopedb.SqlScript
import Dopedb.Broker.SessionRegistry
import Dopedb.Broker.ProposalLedger
import Dopedb.Broker.Revocation
import Dopedb.Library.JsonText
import Dopedb.Queries.StreamBatch
import Dopedb.Queries.StreamCredit
import Dopedb.Queries.StreamProtocol
import Dopedb.Queries.StreamRuns
import Dopedb.Library.Batching
import Dopedb.Queries.PageBudget
import Dopedb.Queries.StreamedRead
import Dopedb.Queries.ReadPages
import Dopedb.Cloud.DirectAccessCore
import Dopedb.Cloud.DirectAccessStore
import Dopedb.Cloud.DirectInvariant
import Dopedb.Cloud.DirectWork
import Dopedb.Cloud.DirectProgress
import Dopedb.Cloud.LoweringGuard
import Dopedb.Library.Regex
import Dopedb.Results.CsvText
import Dopedb.Results.RendererCsv
import Dopedb.Results.CsvAgreement
import Dopedb.Library.AtomicBatch
import Dopedb.Cloud.Authority
import Dopedb.Cloud.Canonical
import Dopedb.Cloud.AnalysisRuns
import Dopedb.Cloud.AnalysisChanges
import Dopedb.Cloud.AnalysisProtocol
import Dopedb.Cloud.Identifiers
import Dopedb.Cloud.ConnectionTemplates
import Dopedb.Cloud.StoredTemplates
import Dopedb.Cloud.Connections
import Dopedb.Cloud.BranchSwitch
import Dopedb.Cloud.ProviderRecords
import Dopedb.Cloud.ProviderOperations
import Dopedb.Cloud.OperationChanges
import Dopedb.Cloud.OperationProtocol
import Dopedb.Cloud.WorkspaceSnapshot
import Dopedb.Cloud.ConnectionHistory
import Dopedb.Cloud.HistoryChanges
import Dopedb.Cloud.HistoryProtocol
import Dopedb.Cloud.LinearHistory
import Dopedb.Cloud.NeonReplies
import Dopedb.Cloud.NeonObservations
import Dopedb.Cloud.ObservationProtocol
import Dopedb.Cloud.WorkspaceLifecycle
import Dopedb.Cloud.DeletionProtocol
import Dopedb.Library.StreamFold
import Dopedb.Agents.SessionEvents
import Dopedb.Agents.SessionReplay
import Dopedb.Agents.EventPersistence
import Dopedb.Agents.StoredConversation
import Dopedb.Jobs.PlanValidation
import Dopedb.Safety.Classification
import Dopedb.Protocol.DiffMirror
import Dopedb.Scripts.TerminalTransition
import Dopedb.Queries.NamespaceIsolation
import Dopedb.Jobs.CsvRecordLimit
import Dopedb.Library.Substring
import Dopedb.SqlScript.Lexing
import Dopedb.SqlScript.Splitting
import Dopedb.Library.Utf8
import Dopedb.SqlScript.Statements
import Dopedb.SqlScript.Bytes
import Dopedb.SqlScript.Positions
import Dopedb.Desktop.ResultView
import Dopedb.Desktop.ResultStream
import Dopedb.Desktop.ResultOwnership
import Dopedb.Desktop.ResultSteps
import Dopedb.Desktop.ResultProtocol
import Dopedb.Broker.ExternalRequests
import Dopedb.Queries.PendingStreams
import Dopedb.Queries.ResultStore
import Dopedb.Queries.PartialResult
import Dopedb.Library.BigEndian
import Dopedb.Library.Decimal
import Dopedb.Executor.WireBytes
import Dopedb.Executor.PgNumeric
import Dopedb.Cloud.RevocationSettling
import Dopedb.Library.Base64
import Dopedb.Desktop.DirectDomain
import Dopedb.Cloud.DirectRegistration
import Dopedb.Cloud.DirectAgreement
import Dopedb.Library.Window
import Dopedb.Agents.Transcript
import Dopedb.Agents.TranscriptView
import Dopedb.Agents.TranscriptSteps
import Dopedb.Agents.TranscriptInvariant
import Dopedb.Cloud.JsonReading
import Dopedb.Cloud.CanonicalText
import Dopedb.Executor.PgArray
import Dopedb.Queries.PageShortening
import Dopedb.Library.SqlTokens
import Dopedb.Desktop.GridStatements
import Dopedb.Desktop.GridTokens
import Dopedb.Desktop.GridReading
import Dopedb.Desktop.GridKinds
import Dopedb.Library.Csv
import Dopedb.Results.CsvStructure
import Dopedb.Library.Pieces
import Dopedb.Protocol.Frame
import Dopedb.Protocol.FrameStream
import Dopedb.Library.JsonMembers
import Dopedb.Protocol.Envelopes
