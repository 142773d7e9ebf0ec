import GpuFaultRecovery.Models

/-!
# The operation registry

One entry per operation, with what the executor and the planner read off it, its recovery rank among it. What nothing
here reads (adapters, capabilities, scopes) is left out.
-/

namespace GpuFaultRecovery

inductive OperationResourceClaim where
  | gpuRuntimeMutation
  | efaRuntimeMutation
  | efaDevicePluginMutation
  | gpuDevicePluginMutation
  | nodeLifecycleMutation
  | schedulerMutation
deriving Repr, DecidableEq, Inhabited

structure OperationSemantics where
  destructive : Bool := false
  mergeIntent : Bool := false
  nodeWide : Bool := false
  workloadScoped : Bool := false
  sharedDag : Bool := false
  resourceClaims : List OperationResourceClaim := []
  safeWaitingPreempt : Bool := false
  safeRemoteWaitingPreempt : Bool := false
  recoveryRank : Nat := 0
deriving Repr, DecidableEq, Inhabited

namespace WorkflowOperation

/-- `OPERATION_REGISTRY[operation]`. -/
def semantics : WorkflowOperation → OperationSemantics
  | .freezeEvidence => {}
  | .collectHungTriage => { safeRemoteWaitingPreempt := true }
  | .collectHungSummary => { safeRemoteWaitingPreempt := true }
  | .collectDiagnosticBundle => { safeRemoteWaitingPreempt := true }
  | .runDcgmDiagnostic =>
    { mergeIntent := true, resourceClaims := [.gpuRuntimeMutation], safeRemoteWaitingPreempt := true,
      recoveryRank := 10 }
  | .markUnschedulable => { destructive := true, mergeIntent := true, resourceClaims := [.schedulerMutation] }
  | .checkpointWorkloads => { workloadScoped := true, sharedDag := true }
  | .stopWorkloads => { destructive := true, mergeIntent := true, workloadScoped := true, sharedDag := true }
  | .quiesceGpuServices => { destructive := true, resourceClaims := [.gpuRuntimeMutation] }
  | .verifyNoGpuClients => { resourceClaims := [.gpuRuntimeMutation], safeRemoteWaitingPreempt := true }
  | .triggerHealthSnapshot => {}
  | .resetGpu =>
    { destructive := true, mergeIntent := true, resourceClaims := [.gpuRuntimeMutation], recoveryRank := 30 }
  | .restoreGpuServices => { destructive := true, resourceClaims := [.gpuRuntimeMutation] }
  | .recoverDrainP2p =>
    { destructive := true, mergeIntent := true, resourceClaims := [.gpuRuntimeMutation], recoveryRank := 30 }
  | .restartNode =>
    { destructive := true, mergeIntent := true, nodeWide := true, resourceClaims := [.nodeLifecycleMutation],
      recoveryRank := 50 }
  | .replaceNode =>
    { destructive := true, mergeIntent := true, nodeWide := true, resourceClaims := [.nodeLifecycleMutation],
      recoveryRank := 75 }
  | .restartVm => { destructive := true }
  | .restartFabricManager =>
    { destructive := true, mergeIntent := true, resourceClaims := [.gpuRuntimeMutation], recoveryRank := 10 }
  | .remediateEfaDriver =>
    { destructive := true, mergeIntent := true, nodeWide := true, resourceClaims := [.efaRuntimeMutation],
      recoveryRank := 35 }
  | .restartEfaDevicePlugin =>
    { destructive := true, mergeIntent := true, nodeWide := true, resourceClaims := [.efaDevicePluginMutation],
      recoveryRank := 15 }
  | .restartGpuDevicePlugin =>
    { destructive := true, mergeIntent := true, nodeWide := true, resourceClaims := [.gpuDevicePluginMutation],
      recoveryRank := 15 }
  | .runFieldDiagnostic => { mergeIntent := true, safeRemoteWaitingPreempt := true, recoveryRank := 10 }
  | .runNvlink74Workflow => { safeRemoteWaitingPreempt := true }
  | .resetAllGpusNvswitches =>
    { destructive := true, mergeIntent := true, nodeWide := true, resourceClaims := [.gpuRuntimeMutation],
      recoveryRank := 40 }
  | .checkMechanicals =>
    { mergeIntent := true, nodeWide := true, safeRemoteWaitingPreempt := true, recoveryRank := 80 }
  | .remediateDriver =>
    { destructive := true, mergeIntent := true, nodeWide := true, resourceClaims := [.gpuRuntimeMutation],
      recoveryRank := 70 }
  | .updateSoftwareFirmware =>
    { destructive := true, mergeIntent := true, nodeWide := true, resourceClaims := [.gpuRuntimeMutation],
      recoveryRank := 70 }
  | .escalateSupport => { mergeIntent := true, nodeWide := true, recoveryRank := 80 }
  | .validateGpu => { safeWaitingPreempt := true }
  | .validateHost => { safeWaitingPreempt := true }
  | .validateFabric => { safeWaitingPreempt := true }
  | .restoreScheduling => { destructive := true, resourceClaims := [.schedulerMutation] }
  | .restartWorkload =>
    { destructive := true, mergeIntent := true, workloadScoped := true, sharedDag := true, recoveryRank := 20 }
  | .quarantine =>
    { destructive := true, mergeIntent := true, nodeWide := true, resourceClaims := [.schedulerMutation],
      recoveryRank := 60 }
  | .collectorOutboxMaintenance => { safeRemoteWaitingPreempt := true }

/-- Whether the operation acts on the node beyond scheduler containment (`NODE_MUTATING_OPERATIONS`). -/
def nodeMutating (op : WorkflowOperation) : Bool :=
  op.semantics.destructive && op.semantics.resourceClaims != [.schedulerMutation]

/-- The operations a remediation budget counts: isolation and node mutation, the restore apart. -/
def budgeted (op : WorkflowOperation) : Bool :=
  op == .quarantine || (op.nodeMutating && op != .restoreGpuServices)

end WorkflowOperation

end GpuFaultRecovery
