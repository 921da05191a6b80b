import PodSizing.Binary64
import PodSizing.Binary64.Shortest
import PodSizing.Cluster.Api
import PodSizing.Cluster.Listing
import PodSizing.Cluster.Pod
import PodSizing.Cluster.PodMetrics
import PodSizing.Cluster.Provider
import PodSizing.Cluster.Refusal
import PodSizing.Cluster.Resize
import PodSizing.Cluster.Resources
import PodSizing.Cluster.Selection
import PodSizing.Configuration
import PodSizing.Configuration.Coercion
import PodSizing.Configuration.Environment
import PodSizing.Configuration.File
import PodSizing.Configuration.Layer
import PodSizing.Configuration.Path
import PodSizing.Container
import PodSizing.Cooldown
import PodSizing.Decision
import PodSizing.Dimension
import PodSizing.Duration
import PodSizing.Event
import PodSizing.Executor
import PodSizing.Executor.Application
import PodSizing.Executor.Execution
import PodSizing.Executor.PodLocks
import PodSizing.Executor.PositionTable
import PodSizing.Executor.Worker
import PodSizing.Health
import PodSizing.Health.Endpoint
import PodSizing.Instant
import PodSizing.Instant.Calendar
import PodSizing.Instant.Timestamp
import PodSizing.Journal
import PodSizing.Json
import PodSizing.Json.Cluster
import PodSizing.Json.Cursor
import PodSizing.Json.Event
import PodSizing.Json.Health
import PodSizing.Json.Plan
import PodSizing.Json.Reader
import PodSizing.Json.Record
import PodSizing.Json.Scalar
import PodSizing.Json.Scenario
import PodSizing.Json.Settings
import PodSizing.Json.Shape
import PodSizing.Json.Writer
import PodSizing.Metrics
import PodSizing.NamespaceFilter
import PodSizing.Numeral
import PodSizing.Operator
import PodSizing.Operator.Assembly
import PodSizing.Operator.Cycle
import PodSizing.Operator.Loop
import PodSizing.Operator.Reconciler
import PodSizing.Operator.Reporter
import PodSizing.Operator.Service
import PodSizing.Operator.Settings
import PodSizing.Outcome
import PodSizing.Plan
import PodSizing.Plan.Batch
import PodSizing.Plan.Patch
import PodSizing.Policy
import PodSizing.Proofs.Binary64
import PodSizing.Proofs.Binary64.Monotone
import PodSizing.Proofs.Binary64.Order
import PodSizing.Proofs.Binary64.Quotient
import PodSizing.Proofs.Cluster.Eligibility
import PodSizing.Proofs.Cluster.Freshness
import PodSizing.Proofs.Cluster.Listing
import PodSizing.Proofs.Cluster.PodNames
import PodSizing.Proofs.Cluster.Refusal
import PodSizing.Proofs.Cluster.Resize
import PodSizing.Proofs.Cluster.Scopes
import PodSizing.Proofs.Configuration.Literal
import PodSizing.Proofs.Configuration.Namespaces
import PodSizing.Proofs.Decision
import PodSizing.Proofs.Decision.Decrease
import PodSizing.Proofs.Decision.Guarantee
import PodSizing.Proofs.Decision.History
import PodSizing.Proofs.Decision.Monotone
import PodSizing.Proofs.Decision.Steady
import PodSizing.Proofs.Decision.Threshold
import PodSizing.Proofs.Decision.Unset
import PodSizing.Proofs.Executor.Accounting
import PodSizing.Proofs.Executor.Application
import PodSizing.Proofs.Executor.Barrier
import PodSizing.Proofs.Executor.DryRun
import PodSizing.Proofs.Executor.Exclusivity
import PodSizing.Proofs.Executor.Execute
import PodSizing.Proofs.Executor.Isolation
import PodSizing.Proofs.Executor.Ledger
import PodSizing.Proofs.Executor.Load
import PodSizing.Proofs.Executor.PodLocks
import PodSizing.Proofs.Executor.Pool
import PodSizing.Proofs.Executor.Progress
import PodSizing.Proofs.Executor.Protocol
import PodSizing.Proofs.Executor.Refinement
import PodSizing.Proofs.Executor.Run
import PodSizing.Proofs.Executor.Step
import PodSizing.Proofs.Executor.Taking
import PodSizing.Proofs.Executor.Visit
import PodSizing.Proofs.Executor.WorkerStep
import PodSizing.Proofs.Health
import PodSizing.Proofs.Instant.Calendar
import PodSizing.Proofs.Instant.Timestamp
import PodSizing.Proofs.Json
import PodSizing.Proofs.Json.Faithful
import PodSizing.Proofs.Json.Health
import PodSizing.Proofs.Json.Plan
import PodSizing.Proofs.Json.Proper
import PodSizing.Proofs.Lookup
import PodSizing.Proofs.Numeral
import PodSizing.Proofs.Operator.Accounting
import PodSizing.Proofs.Operator.Cooldown
import PodSizing.Proofs.Operator.Cycle
import PodSizing.Proofs.Operator.DryRun
import PodSizing.Proofs.Operator.Failure
import PodSizing.Proofs.Operator.Health
import PodSizing.Proofs.Operator.Reporter
import PodSizing.Proofs.Operator.Service
import PodSizing.Proofs.Plan.Batch
import PodSizing.Proofs.Plan.Growth
import PodSizing.Proofs.Plan.Patch
import PodSizing.Proofs.Quantity
import PodSizing.Proofs.Quantity.Answer
import PodSizing.Proofs.Quantity.Grammar
import PodSizing.Proofs.Quantity.Whole
import PodSizing.Proofs.Simulation.CycleTrial
import PodSizing.Proofs.Text.Phrase
import PodSizing.Proofs.Text.Run
import PodSizing.Quantity
import PodSizing.Quantity.Writer
import PodSizing.RuntimeError
import PodSizing.Simulation.ApiServer
import PodSizing.Simulation.ClusterTrial
import PodSizing.Simulation.CycleTrial
import PodSizing.Simulation.LockTrial
import PodSizing.Simulation.LoopTrial
import PodSizing.Simulation.Schedule
import PodSizing.Simulation.Script
import PodSizing.Text.Blank
import PodSizing.Text.CodeRange
import PodSizing.Text.Hidden
import PodSizing.Text.LetterCase
import PodSizing.Text.Lowercase
import PodSizing.Text.Phrase
import PodSizing.Text.Pieces
import PodSizing.Text.Quoted
import PodSizing.Toml.Reader
import PodSizing.Toml.Scalar
import PodSizing.Toml.Table
import PodSizing.Toml.Text
