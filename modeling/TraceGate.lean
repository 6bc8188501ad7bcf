import TraceGate.Text
import TraceGate.Core
import TraceGate.Headers
import TraceGate.Policy
import TraceGate.PolicyChain
import TraceGate.Mutations
import TraceGate.AcceptedMutations
import TraceGate.IpText
import TraceGate.Toml
import TraceGate.RawConfig
import TraceGate.Config
import TraceGate.CaptureBuffer
import TraceGate.Ordering
import TraceGate.Tables
import TraceGate.Storage
import TraceGate.Finalizer
import TraceGate.Forwarding
import TraceGate.Runs
import TraceGate.Upstreams
import TraceGate.Gateway
import TraceGate.Reload
import TraceGate.Reloads
import TraceGate.Admin
import TraceGate.Validation
import TraceGate.ProductionCaps
import TraceGate.AdminAccess
import TraceGate.EvaluationRecords
import TraceGate.Routing
import TraceGate.ActivePlugins
import TraceGate.Admission
import TraceGate.Budget
import TraceGate.Store
import TraceGate.RetentionBackends
import TraceGate.Retention
import TraceGate.OldestFirst
import TraceGate.Simulation
import TraceGate.HeaderKeys
import TraceGate.StoredEvidence
import TraceGate.StoredRows
import TraceGate.Archive
import TraceGate.Attempts
import TraceGate.Exchange
import TraceGate.Authority
import TraceGate.Polling
import TraceGate.BodyPreviews
import TraceGate.ForwardedBodies
import TraceGate.Families
import TraceGate.Telemetry
import TraceGate.Cancellation
import TraceGate.CaptureBudget
import TraceGate.Channel
import TraceGate.CaptureQueue
import TraceGate.CaptureMarks
import TraceGate.CaptureOrder
import TraceGate.Chunking
import TraceGate.Sweep
import TraceGate.ConcurrentRetention
import TraceGate.Health
import TraceGate.RouteCalls
import TraceGate.Cooldowns
import TraceGate.TextLaws
import TraceGate.Durations
import TraceGate.RequestIds
import TraceGate.StoreArchive
import TraceGate.EvidenceOrigin
import TraceGate.Replay
import TraceGate.ReplayAudit
import TraceGate.Redaction
import TraceGate.ForwardedHeaders
import TraceGate.ForwardedTargets
import TraceGate.Guests
import TraceGate.HostNames
import TraceGate.Metrics
import TraceGate.Metered
import TraceGate.PassiveHealth
import TraceGate.PermitLedger
import TraceGate.PolicyEpochs
import TraceGate.ReplayBodies
import TraceGate.ReplayGuards
import TraceGate.Whatwg
import TraceGate.ReplayUrls
import TraceGate.ReplayCalls
import TraceGate.ReplayOrigin
import TraceGate.ReplayedQueries
import TraceGate.ResponseBodies
import TraceGate.Retries
import TraceGate.Rotation
import TraceGate.RoundRobin
import TraceGate.RouteStatuses
import TraceGate.Snapshot
import TraceGate.StaleReloads
import TraceGate.Startup
import TraceGate.StoredQueries
import TraceGate.TraceIds
import TraceGate.UpstreamHosts
