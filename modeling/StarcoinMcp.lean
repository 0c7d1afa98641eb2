import StarcoinMcp.Node.Simulated
import StarcoinMcp.Node.Times
import StarcoinMcp.Node.Watch
import StarcoinMcp.Starmask.Routing
import StarcoinMcp.Starmask.Retention
import StarcoinMcp.NativeHost.Outbound
import StarcoinMcp.Lib.JsonSize
import StarcoinMcp.Host.StateFile
import StarcoinMcp.Lib.FileMachine
import StarcoinMcp.Lib.Processes
import StarcoinMcp.Starmask.Heartbeats
import StarcoinMcp.Starmask.RuntimeConfig
import StarcoinMcp.Starmask.Labels
import StarcoinMcp.Agent.Survival
import StarcoinMcp.NativeHost.ResultCodec
import StarcoinMcp.Agent.LocalAgent
import StarcoinMcp.Starmask.Replies
import StarcoinMcp.Starmask.Delivery
import StarcoinMcp.Starmask.Maintenance
import StarcoinMcp.NativeHost.Framing
import StarcoinMcp.Host.Resubmit
import StarcoinMcp.Host.Ledger
import StarcoinMcp.Host.Attestation
import StarcoinMcp.Host.Effects
import StarcoinMcp.Host.Controller
import StarcoinMcp.Lib.Python
import StarcoinMcp.Agent.RawView
import StarcoinMcp.Agent.RequestSupport
import StarcoinMcp.Node.Unresolved
import StarcoinMcp.Starmask.RequestStores
import StarcoinMcp.Starmask.Simulation
import StarcoinMcp.Starmask.Repository
import StarcoinMcp.Starmask.SqliteRows
import StarcoinMcp.Starmask.Protection
import StarcoinMcp.Starmask.Server
import StarcoinMcp.Starmask.Isolation
import StarcoinMcp.Starmask.Availability
import StarcoinMcp.Starmask.Atomicity
import StarcoinMcp.Agent.TransferCard
import StarcoinMcp.Agent.Card
import StarcoinMcp.Agent.TtyPrompt
import StarcoinMcp.Node.Resign
import StarcoinMcp.Node.Gate
import StarcoinMcp.Node.Rules
import StarcoinMcp.Node.Calls
import StarcoinMcp.Node.Submission
import StarcoinMcp.Node.Transaction
import StarcoinMcp.Node.Bootstrap
import StarcoinMcp.Node.Context
import StarcoinMcp.Node.Helpers
import StarcoinMcp.Node.Config
import StarcoinMcp.Node.Types
import StarcoinMcp.Lib.Value
import StarcoinMcp.Lib.Hex
import StarcoinMcp.Lib.Interaction
import StarcoinMcp.Lib.Concurrent
import StarcoinMcp.Starmask.Fencing
import StarcoinMcp.Starmask.Provenance
import StarcoinMcp.Starmask.Idempotency
import StarcoinMcp.Starmask.Expiry
import StarcoinMcp.Starmask.Runs
import StarcoinMcp.Lib.Trace
import StarcoinMcp.Starmask.Dispatch
import StarcoinMcp.Starmask.Effects
import StarcoinMcp.Starmask.StoreLemmas
import StarcoinMcp.Starmask.Coordinator
import StarcoinMcp.Starmask.PayloadHash
import StarcoinMcp.Lib.JsonText
import StarcoinMcp.Starmask.Commands
import StarcoinMcp.Starmask.Store
import StarcoinMcp.Lib.FailState
import StarcoinMcp.Starmask.Edits
import StarcoinMcp.Host.State
import StarcoinMcp.Lib.LockedFile
import StarcoinMcp.Node.RpcClient
import StarcoinMcp.Host.Retained
import StarcoinMcp.Host.Outcomes
import StarcoinMcp.Agent.System
import StarcoinMcp.Node.Cache
import StarcoinMcp.Agent.Integrity
import StarcoinMcp.Agent.Consent
import StarcoinMcp.Lib.Base64
import StarcoinMcp.Node.SpkiPin
import StarcoinMcp.Host.Amounts
import StarcoinMcp.Host.Balances
import StarcoinMcp.Node.Resources
import StarcoinMcp.Agent.Phases
import StarcoinMcp.Starmask.Awaiting
import StarcoinMcp.Agent.EffectOnce
import StarcoinMcp.Agent.Approval
import StarcoinMcp.Lib.Mailbox
import StarcoinMcp.Host.Preflight
import StarcoinMcp.Host.TransferFlow
import StarcoinMcp.NativeHost.Notices
import StarcoinMcp.Node.Probe
import StarcoinMcp.Starmask.CoordinatorRuntime
