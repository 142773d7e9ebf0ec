import GpuFaultRecovery.Run
import GpuFaultRecovery.Table
import GpuFaultRecovery.DependencyGraph
import GpuFaultRecovery.PythonText
import GpuFaultRecovery.Models
import GpuFaultRecovery.OperationRegistry
import GpuFaultRecovery.RemoteCommand
import GpuFaultRecovery.RemoteCommandRun
import GpuFaultRecovery.ProcessorLane
import GpuFaultRecovery.ProcessorLaneRun
import GpuFaultRecovery.NodeAction
import GpuFaultRecovery.RemediationBudget
import GpuFaultRecovery.RemediationBudgetRun
import GpuFaultRecovery.WorkflowQuarantine
import GpuFaultRecovery.DagBranching
import GpuFaultRecovery.DagShape
import GpuFaultRecovery.PlanValidity
import GpuFaultRecovery.JobRestartJoin
import GpuFaultRecovery.PreemptionBoundary
import GpuFaultRecovery.StepRecord
import GpuFaultRecovery.RemoteEvidence
import GpuFaultRecovery.QuarantineEvidence
import GpuFaultRecovery.TerminalState
import GpuFaultRecovery.QuiesceCompensation
import GpuFaultRecovery.Supersession
import GpuFaultRecovery.StepRetirement
import GpuFaultRecovery.ExecutorPass
import GpuFaultRecovery.SettledPlan
import GpuFaultRecovery.DispatchReadiness
import GpuFaultRecovery.DispatchedScope
import GpuFaultRecovery.QuarantineInheritance
import GpuFaultRecovery.IsolatedPlan
import GpuFaultRecovery.ClaimedWorkflow
import GpuFaultRecovery.BatchedCommand
import GpuFaultRecovery.BatchedCommandRun
import GpuFaultRecovery.ActionLedger
import GpuFaultRecovery.ActionLedgerRun
import GpuFaultRecovery.CommandProgram
import GpuFaultRecovery.QuiesceManager
import GpuFaultRecovery.QuiesceFailsafe
import GpuFaultRecovery.QuiesceWindow
import GpuFaultRecovery.OwnershipGate
import GpuFaultRecovery.OwnershipGateRun
import GpuFaultRecovery.Arbitration
import GpuFaultRecovery.MergeDisposition
import GpuFaultRecovery.DispositionApplier
import GpuFaultRecovery.MergedPlan
import GpuFaultRecovery.RecoveryDominance
import GpuFaultRecovery.MergedActions
import GpuFaultRecovery.FaultCoverage
import GpuFaultRecovery.GpuScope
import GpuFaultRecovery.RemediationStorm
import GpuFaultRecovery.NodeBusyTimeout
import GpuFaultRecovery.EscalationEvidence
import GpuFaultRecovery.BranchLadder
import GpuFaultRecovery.HardwareEscalation
import GpuFaultRecovery.EscalatedPlan
import GpuFaultRecovery.EscalationLadder
import GpuFaultRecovery.LeasedSave
import GpuFaultRecovery.InheritedContainment
import GpuFaultRecovery.QuiesceHandoff
import GpuFaultRecovery.RestartBudget
import GpuFaultRecovery.RestartReservations
import GpuFaultRecovery.ExecutorRecords
import GpuFaultRecovery.RetiredGeneration
import GpuFaultRecovery.ClaimDeadlines
import GpuFaultRecovery.WarmSpare
import GpuFaultRecovery.WarmSpareRun
import GpuFaultRecovery.ResetBarrier
import GpuFaultRecovery.ResetBarrierRun
import GpuFaultRecovery.NodeActionDispatch
import GpuFaultRecovery.CompletionOutbox
import GpuFaultRecovery.CompletionOutboxRun
import GpuFaultRecovery.Selection
import GpuFaultRecovery.XidPolicy
import GpuFaultRecovery.XidEngine
import GpuFaultRecovery.XidVerdict
import GpuFaultRecovery.PinnedPolicy
import GpuFaultRecovery.XidIngest
import GpuFaultRecovery.SharedReset
import GpuFaultRecovery.Chain
import GpuFaultRecovery.XidLinks
import GpuFaultRecovery.ReportTwins
import GpuFaultRecovery.ReportTwinsRun
import GpuFaultRecovery.ListEdits
import GpuFaultRecovery.DeadlineWatchdog
import GpuFaultRecovery.ReceiptSettledResume
import GpuFaultRecovery.GpuActivityGate
import GpuFaultRecovery.NotificationStore
import GpuFaultRecovery.NotificationLeases
import GpuFaultRecovery.NotificationDispatch
import GpuFaultRecovery.EfaTraffic
import GpuFaultRecovery.EfaStall
import GpuFaultRecovery.ProcessorQueue
import GpuFaultRecovery.ProcessorAdmission
import GpuFaultRecovery.TelemetrySpool
import GpuFaultRecovery.TelemetrySpoolRun
import GpuFaultRecovery.ExecutionEpochs
import GpuFaultRecovery.GpuPlacement
import GpuFaultRecovery.BatchedCommandOrder
import GpuFaultRecovery.ExecutionWindow
import GpuFaultRecovery.PlanHistory
import GpuFaultRecovery.AppendedBranch
import GpuFaultRecovery.RungLineage
import GpuFaultRecovery.ReplacedPlace
import GpuFaultRecovery.ConservedCandidate
import GpuFaultRecovery.DepthFirst
import GpuFaultRecovery.DependencyAncestors
import GpuFaultRecovery.RepeatedInheritance
import GpuFaultRecovery.OpenQuestions
import GpuFaultRecovery.WorkflowInvariants
import GpuFaultRecovery.SoundRecord
import GpuFaultRecovery.EventHistory
import GpuFaultRecovery.ReplayRemoval
import GpuFaultRecovery.IsoTime
import GpuFaultRecovery.CursorPaging
import GpuFaultRecovery.DispatchScan
import GpuFaultRecovery.Optimistic
import GpuFaultRecovery.CappedBatches
import GpuFaultRecovery.AgentRegistry
import GpuFaultRecovery.AgentRegistryRun
import GpuFaultRecovery.FleetDeployment
import GpuFaultRecovery.FleetDeploymentRun
import GpuFaultRecovery.FleetRollout
import GpuFaultRecovery.GroupCommit
import GpuFaultRecovery.ProviderSubmission
import GpuFaultRecovery.DispatchLease
import GpuFaultRecovery.DispatchLeaseRun
import GpuFaultRecovery.NodeInventory
import GpuFaultRecovery.NodeInventoryRun
