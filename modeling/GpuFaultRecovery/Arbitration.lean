import GpuFaultRecovery.DagBranching

/-!
# Comparing recovery actions

Actions are ordered twice: by rank, which is total and decides who preempts whom, and by dominance, which is partial
and says which weaker actions a stronger one covers. What a plan is for is read off as its primary operations, and
what it still acts on as the scope of its unresolved steps.
-/

namespace GpuFaultRecovery

namespace WorkflowOperation

/-- `ZERO_RANK_ACTION_OPERATIONS`. -/
def zeroRankAction : WorkflowOperation → Bool
  | .collectHungTriage | .collectHungSummary | .collectDiagnosticBundle | .triggerHealthSnapshot | .validateGpu
  | .validateHost | .validateFabric | .collectorOutboxMaintenance => true
  | _ => false

/-- `NODE_ACTION_SCOPE_OPERATIONS`. -/
def nodeActionScope : WorkflowOperation → Bool
  | .collectDiagnosticBundle | .quiesceGpuServices | .verifyNoGpuClients | .resetGpu | .restoreGpuServices
  | .recoverDrainP2p | .remediateEfaDriver | .resetAllGpusNvswitches | .remediateDriver | .updateSoftwareFirmware =>
    true
  | _ => false

/-- `NODE_EXCLUSIVE_OPERATIONS`. -/
def nodeExclusive : WorkflowOperation → Bool
  | .markUnschedulable | .quiesceGpuServices | .resetGpu | .restoreGpuServices | .recoverDrainP2p | .restartNode
  | .replaceNode | .restartFabricManager | .remediateEfaDriver | .restartEfaDevicePlugin | .restartGpuDevicePlugin
  | .resetAllGpusNvswitches | .remediateDriver | .updateSoftwareFirmware | .restoreScheduling | .quarantine => true
  | _ => false

/-- `RECOVERY_OPERATION_DOMINANCE`. -/
def dominates : WorkflowOperation → List WorkflowOperation
  | .restartNode =>
    [.resetGpu, .recoverDrainP2p, .resetAllGpusNvswitches, .restartFabricManager, .remediateEfaDriver,
      .restartEfaDevicePlugin, .restartGpuDevicePlugin]
  | .replaceNode =>
    [.resetGpu, .recoverDrainP2p, .resetAllGpusNvswitches, .restartFabricManager, .restartNode, .remediateDriver,
      .remediateEfaDriver, .restartEfaDevicePlugin, .restartGpuDevicePlugin, .updateSoftwareFirmware]
  | .remediateEfaDriver => [.restartEfaDevicePlugin]
  | .resetAllGpusNvswitches => [.resetGpu, .restartFabricManager]
  | _ => []

def nodeRanked (op : WorkflowOperation) : Bool := op != .restartWorkload && decide (0 < op.semantics.recoveryRank)

end WorkflowOperation

/-! ### Primary operations -/

def stepOperations (steps : List WorkflowStepSpec) : List WorkflowOperation := steps.map WorkflowStepSpec.operation

def recoveryRank (operations : List WorkflowOperation) : Nat :=
  (operations.map fun op => op.semantics.recoveryRank).foldl max 0

def undominated (operations : List WorkflowOperation) : List WorkflowOperation :=
  operations.filter fun op => !operations.any fun other => other != op && other.dominates.contains op

/-- What a plan with `operations` is for: its undominated node recoveries, else its unranked actions, else the restart
of its job. -/
def primaryRecoveryOperations (operations : List WorkflowOperation) : List WorkflowOperation :=
  let nodeRanked := operations.filter WorkflowOperation.nodeRanked
  let zeroRanked := operations.filter WorkflowOperation.zeroRankAction
  if !nodeRanked.isEmpty then undominated nodeRanked
  else if !zeroRanked.isEmpty then zeroRanked
  else undominated (operations.filter fun op => decide (0 < op.semantics.recoveryRank))

def workflowPrimaryRecoveryOperations (workflow : WorkflowRequest) : List WorkflowOperation :=
  primaryRecoveryOperations (stepOperations workflow.officialSteps)

/-- Whether each operation of `candidate` is one of `existing` or dominated by one. -/
def recoveryOperationsDominate (existing candidate : List WorkflowOperation) : Bool :=
  if candidate.isEmpty then existing.isEmpty
  else candidate.all fun op => existing.contains op || existing.any fun other => other.dominates.contains op

/-- Whether two lists stand for one set. -/
def sameOperations (a b : List WorkflowOperation) : Bool := a.all b.contains && b.all a.contains

/-! ### Resource claims -/

def workflowResourceClaims (workflow : WorkflowRequest) (nodeId : String) : List OperationResourceClaim :=
  (workflow.officialSteps.filter fun step => step.nodeIds.contains nodeId).flatMap fun step =>
    step.operation.semantics.resourceClaims

def resourceClaimsConflict (existing candidate : List OperationResourceClaim) : Bool :=
  if existing.isEmpty || candidate.isEmpty then false
  else existing.contains .nodeLifecycleMutation || candidate.contains .nodeLifecycleMutation ||
    existing.any candidate.contains

/-! ### The scope of a fault -/

/-- `condition and check`, where the check may raise. -/
def checkedAnd (condition : Bool) (check : Except String Bool) : Except String Bool :=
  if condition then check else .ok false

/-- Whether the plan of `existing` keeps every hold of `candidate`. -/
def terminalQuarantineCovered (existing candidate : WorkflowRequest) : Except String Bool := do
  let required ← terminalQuarantineNodes candidate
  if required.isEmpty then return true
  let held ← terminalQuarantineNodes existing
  if !required.all held.contains then return false
  return !existing.officialSteps.zipIdx.any fun (step, index) =>
    !existing.resolvedStepIndexes.contains index && step.operation == .restoreScheduling &&
      step.nodeIds.any fun node => required.contains node && !(replacementAncestors existing index).contains node

/-- Whether the candidate asks for a GPU-scoped action on a node without saying on which GPU. -/
def gpuIdentityUnresolved (candidate : WorkflowRequest) (nodeId : String) (gpuUuids : List String) : Bool :=
  gpuUuids.isEmpty && candidate.officialSteps.any fun step =>
    step.operation.nodeActionScope && step.operation.nodeMutating && !step.operation.semantics.nodeWide &&
      step.nodeIds.contains nodeId

/-- The GPUs a step names on a node: its own mapping, else its whole list. -/
def stepGpus (step : WorkflowStepSpec) (nodeId : String) : List String :=
  match step.parameters.get? "gpu_uuids_by_node" with
  | some (.obj raw) => ((Details.get? raw nodeId).map Json.strings).getD []
  | _ => step.gpuUuids

/-- The steps of a plan, or of the steps `indexes` of it, that will still run on a node. -/
def liveNodeSteps (workflow : WorkflowRequest) (nodeId : String) (indexes : Option (List Nat)) :
    List WorkflowStepSpec :=
  (workflow.officialSteps.zipIdx.filter fun (step, index) =>
    indexes.all (fun selected => selected.contains index) && !workflow.resolvedStepIndexes.contains index &&
      step.nodeIds.contains nodeId && !step.operation.semantics.workloadScoped).map Prod.fst

/-- Whether the steps that will still run already act on a fault. -/
def faultScopeCovered (workflow : WorkflowRequest) (nodeId : String) (gpuUuids : List String)
    (indexes : Option (List Nat)) (candidate : WorkflowRequest) : Except String Bool := do
  if !(← terminalQuarantineCovered workflow candidate) then return false
  let live := liveNodeSteps workflow nodeId indexes
  if live.isEmpty then return false
  if live.any fun step => step.operation.semantics.nodeWide then return true
  if gpuUuids.isEmpty then return !gpuIdentityUnresolved candidate nodeId gpuUuids
  let covered := (live.filter fun step => step.operation.nodeMutating).flatMap fun step => stepGpus step nodeId
  return gpuUuids.all covered.contains

end GpuFaultRecovery
