import DlpSystem.Lib.StepProgram
import DlpSystem.Lib.StableSort
import DlpSystem.Lib.OpenAddressing
import DlpSystem.Lib.StridedTable
import DlpSystem.Lib.EventRun
import DlpSystem.Lib.SlotLog
import DlpSystem.Common.Str
import DlpSystem.Common.PathHash
import DlpSystem.Common.CacheLayout
import DlpSystem.Agent.CacheWriter
import DlpSystem.Agent.RebuildEffect
import DlpSystem.Hook.CacheReader
import DlpSystem.Hook.LookupMeaning
import DlpSystem.Cache.Rebuilds
import DlpSystem.Cache.Agreement
import DlpSystem.Cache.HashRoundTrip
import DlpSystem.Cache.FailedRebuild
import DlpSystem.Cache.Snapshot
import DlpSystem.Hook.FailMode
import DlpSystem.Hook.FastPath
import DlpSystem.Hook.Trampoline
import DlpSystem.Hook.Decisions
import DlpSystem.Hook.Recovery
import DlpSystem.Agent.BypassCorrelator
import DlpSystem.Bypass.RingReads
import DlpSystem.Bypass.Correlation
import DlpSystem.Bypass.AlertDelivery
import DlpSystem.Bypass.PidAllowlist
import DlpSystem.Lib.Codec
import DlpSystem.Lib.Aead
import DlpSystem.Lib.Fallible
import DlpSystem.Lib.Lines
import DlpSystem.Lib.LockProgram
import DlpSystem.Lib.RotatedFiles
import DlpSystem.Ipc.Messages
import DlpSystem.Ipc.Frames
import DlpSystem.Server.Crypto
import DlpSystem.Server.SecretStore
import DlpSystem.Server.Rotation
import DlpSystem.Server.RotationSecrets
import DlpSystem.Server.RotationRecovery
import DlpSystem.Audit.Chain
import DlpSystem.Server.AuditStore
import DlpSystem.Audit.HonestAgent
import DlpSystem.Audit.EmitterLocks
import DlpSystem.Audit.LocalLog
import DlpSystem.Audit.LogChain
import DlpSystem.Agent.OfflineAuditQueue
import DlpSystem.Agent.AuditRelay
import DlpSystem.Audit.DeliveryOrder
import DlpSystem.Lib.PieceJudge
import DlpSystem.Audit.Verdicts
import DlpSystem.Audit.Redelivery
import DlpSystem.Audit.Batching
import DlpSystem.Audit.ConcurrentIngest
import DlpSystem.Common.Abac
import DlpSystem.Server.LabelService
import DlpSystem.Server.PolicyStore
import DlpSystem.Policy.Evaluation
import DlpSystem.Common.Approval
import DlpSystem.Agent.ApprovalCache
import DlpSystem.Approval.SignedOverride
import DlpSystem.Lib.JsonTree
import DlpSystem.Server.Approvals
import DlpSystem.Server.ApprovalApi
import DlpSystem.Approval.Delivery
import DlpSystem.Approval.AuditAtomicity
import DlpSystem.Approval.Requests
import DlpSystem.Approval.Lifecycle
import DlpSystem.Approval.BoardGate
import DlpSystem.Policy.MissingAttributes
import DlpSystem.Label.CachedResolution
import DlpSystem.Label.Staleness
import DlpSystem.Agent.OfflineManager
import DlpSystem.Offline.Provenance
import DlpSystem.Agent.PolicyMapper
import DlpSystem.Agent.EnforcementPaths
import DlpSystem.Offline.PathAgreement
import DlpSystem.Agent.DiskEnumerator
import DlpSystem.Agent.DriveEnforcers
import DlpSystem.Disk.Runs
import DlpSystem.Disk.WriteDenial
import DlpSystem.Disk.GraceExpiry
import DlpSystem.Agent.DaclTripwire
import DlpSystem.Agent.AgentConfig
import DlpSystem.Disk.StartupOrder
import DlpSystem.Config.SavedUpdates
import DlpSystem.Dacl.StagedRemoval
import DlpSystem.Agent.CanonicalPaths
import DlpSystem.Dacl.ConfiguredPaths
import DlpSystem.Agent.ProcessRegistry
import DlpSystem.Process.Claims
import DlpSystem.Process.Notifications
import DlpSystem.Agent.DeviceHealth
import DlpSystem.Agent.PasswordStop
import DlpSystem.Hook.ImportTable
import DlpSystem.Hook.Unhooking
import DlpSystem.Hook.Teardown
import DlpSystem.Server.AgentConfigApi
import DlpSystem.Config.Polling
import DlpSystem.Config.FailedReads
import DlpSystem.Server.AdminApi
import DlpSystem.Policy.Acceptance
import DlpSystem.Agent.DeviceRegistry
import DlpSystem.Device.TierDelivery
import DlpSystem.Lib.UniqueTable
import DlpSystem.Server.BypassAlerts
import DlpSystem.Bypass.StoredAlerts
import DlpSystem.Server.LabelApi
import DlpSystem.Label.Inheritance
import DlpSystem.Label.CreatedLabels
import DlpSystem.Label.Decisions
import DlpSystem.Agent.Overrides
import DlpSystem.Approval.ConfirmedOverrides
import DlpSystem.Lib.Unicode
import DlpSystem.UserUi.StopPassword
import DlpSystem.Agent.StopCredentials
import DlpSystem.Agent.TypedPassword
import DlpSystem.Hook.ThreadSuspender
import DlpSystem.Hook.Thawing
import DlpSystem.Agent.UniversalInjector
import DlpSystem.Process.Retries
import DlpSystem.Label.FailedLookups
import DlpSystem.Policy.FirstMatch
import DlpSystem.Policy.FailedRefresh
import DlpSystem.Lib.LinkedChain
import DlpSystem.Audit.IntegrityReport
import DlpSystem.Lib.JsonCodec
import DlpSystem.AuditWire.Event
import DlpSystem.AuditWire.ChainHash
import DlpSystem.Lib.DecimalText
import DlpSystem.Lib.Rfc3339
import DlpSystem.Server.SyslogQueue
import DlpSystem.Audit.QueueLeases
import DlpSystem.Approval.ActiveList
import DlpSystem.Approval.Reports
import DlpSystem.Server.Migration
import DlpSystem.Server.MigratedSecrets
import DlpSystem.Hook.CachedLives
import DlpSystem.Hook.LruExpiry
import DlpSystem.Hook.LruMap
import DlpSystem.Hook.FailModeRuns
import DlpSystem.Lib.Squeeze
import DlpSystem.Common.NormalForm
import DlpSystem.Common.SpellingVariants
import DlpSystem.Dacl.RenderedDescriptors
import DlpSystem.Lib.FilledMap
import DlpSystem.Disk.LetterRouting
import DlpSystem.Device.PathSpellings
import DlpSystem.Device.UserRegistrations
import DlpSystem.Lib.LexicalPath
import DlpSystem.Hook.AllowlistScope
import DlpSystem.Lib.Casing
import DlpSystem.Agent.ProcessAllowlist
import DlpSystem.Process.CriticalImages
import DlpSystem.Lib.ByteSlices
import DlpSystem.Agent.SessionIdentity
import DlpSystem.Session.Attribution
import DlpSystem.Offline.RepeatedReads
import DlpSystem.Dacl.KeyMigration
import DlpSystem.Config.AppliedPayloads
import DlpSystem.Agent.SnapshotAggregators
import DlpSystem.Health.TwoPolls
import DlpSystem.Health.DiagnosticLoss
import DlpSystem.Agent.ChromeHandler
import DlpSystem.Chrome.UrlOrigins
import DlpSystem.Agent.CloudEnforcer
import DlpSystem.Cloud.ShareLinks
import DlpSystem.Hook.ControlThread
import DlpSystem.Hook.Watchdog
import DlpSystem.Hook.OverridePrompts
import DlpSystem.Lib.Windows
import DlpSystem.Common.Classifier
import DlpSystem.Hook.EdrHooks
import DlpSystem.Lib.ChunkedTransfer
import DlpSystem.Agent.PipeFrames
import DlpSystem.Ipc.ChunkedFrames
import DlpSystem.Lib.CasedPieces
import DlpSystem.Agent.TripwirePaths
import DlpSystem.Dacl.PathPromises
import DlpSystem.Cloud.SyncFolders
import DlpSystem.Lib.CappedQueue
import DlpSystem.Server.SnapshotStores
import DlpSystem.Health.KeyQueue
import DlpSystem.Health.Dashboard
import DlpSystem.Audit.BadRows
import DlpSystem.Lib.ReadModifyWrite
import DlpSystem.Server.ConnectorConfig
import DlpSystem.Config.KeptSecrets
import DlpSystem.Admin.ConditionsBuilder
import DlpSystem.Admin.BuilderRuns
import DlpSystem.AuditWire.JsonText
import DlpSystem.Server.Connectors
import DlpSystem.Audit.Forwarding
import DlpSystem.Server.AgentRegistry
import DlpSystem.Device.AgentLiveness
import DlpSystem.Agent.UsbVolumes
import DlpSystem.Device.NoticeOrders
