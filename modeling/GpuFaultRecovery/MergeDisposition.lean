import GpuFaultRecovery.Arbitration
import GpuFaultRecovery.PreemptionBoundary

/-!
# Merging a candidate

A new fault on a node or a job that already has an open workflow is planned as a candidate, judged against that
workflow and merged into it: absorbed, widened onto, put in its place, added as a branch or queued behind it.
`disposition` judges, `applyDisposition` rewrites.
-/

namespace GpuFaultRecovery

/-- How a candidate merges with the workflow already open. -/
inductive Disposition where
  | absorb
  | absorbRecordOnly
  | widenInPlace
  | widenBranch
  | replaceInPlace
  | replaceBranch
  | parallelBranch
  | queueBranchSuccessor
  | queueSuccessor
deriving Repr, DecidableEq

/-! ### What may be rewritten -/

/-- Whether a merge may rewrite a row in place: nobody acted on it yet. -/
def workflowIsMutable (workflow : WorkflowRequest) : Bool :=
  workflow.status == .pending && workflow.executionOwnerId.isNone && workflow.completedStepIndexes.isEmpty &&
    workflow.stepExecutions.isEmpty

/-- A row refused by compilation before any step ran. -/
def neverExecutedOperatorBlock (workflow : WorkflowRequest) : Bool :=
  workflow.status == .blocked && workflow.blockedKind == some .needsOperator && workflow.stepExecutions.isEmpty &&
    workflow.completedStepIndexes.isEmpty && workflow.supersededStepIndexes.isEmpty &&
      workflow.executionOwnerId.isNone

/-- Whether a live node-mutating step acts on the scope of a fault. -/
def mutatingScopeCovers (existing : WorkflowRequest) (nodeId : String) (gpuUuids : List String) : Bool :=
  existing.officialSteps.zipIdx.any fun (step, index) =>
    !existing.supersededStepIndexes.contains index && step.operation.nodeMutating && step.nodeIds.contains nodeId &&
      (step.operation.semantics.nodeWide || gpuUuids.isEmpty || gpuUuids.all step.gpuUuids.contains)

/-- Whether it is too late to add a branch that only reads. -/
def readOnlyBranchWindowClosed (existing candidate : WorkflowRequest) (now : Time) : Bool :=
  if candidate.officialSteps.any fun step => step.operation.semantics.destructive then false
  else if existing.aggregationMaxDeadline.any fun deadline => decide (deadline ≤ now) then true
  else
    let stopped := fun index => stepOperation? existing.officialSteps index == some .stopWorkloads
    existing.completedStepIndexes.any stopped ||
      existing.stepExecutions.any fun execution => stopped execution.stepIndex && execution.status == .succeeded

/-- The nodes the steps outside the job act on. -/
def physicalNodes (workflow : WorkflowRequest) : List String :=
  (workflow.officialSteps.filter fun step => !step.operation.semantics.workloadScoped).flatMap
    WorkflowStepSpec.nodeIds

def canAppendParallelBranch (preemptionEnabled : Bool) (existing candidate : WorkflowRequest) (now : Time) : Bool :=
  preemptionEnabled && (existing.status == .pending || existing.status == .running) && candidate.status == .pending &&
    (stepOperations existing.officialSteps).contains .restartWorkload && !(physicalNodes existing).isEmpty &&
    !(physicalNodes candidate).isEmpty &&
    (physicalNodes existing).all (fun node => !(physicalNodes candidate).contains node ||
      !resourceClaimsConflict (workflowResourceClaims existing node) (workflowResourceClaims candidate node)) &&
    joinAcceptsNewBranch existing now

/-! ### What a plan has begun -/

/-- The operations of the steps at `indexes`. -/
def operationsAt (workflow : WorkflowRequest) (indexes : List Nat) : List WorkflowOperation :=
  indexes.filterMap (stepOperation? workflow.officialSteps)

/-- Whether one of the steps at `indexes` completed, was superseded or has a record. -/
def branchHasStarted (workflow : WorkflowRequest) (indexes : List Nat) : Bool :=
  indexes.any fun index => (submittedStepIndexes workflow).contains index

/-- Whether the recovery that the steps at `indexes` are for has begun. -/
def recoveryActionHasStarted (workflow : WorkflowRequest) (indexes : List Nat) : Bool :=
  let actionOperations := primaryRecoveryOperations (operationsAt workflow indexes)
  let actionIndexes := indexes.filter fun index =>
    (stepOperation? workflow.officialSteps index).any actionOperations.contains
  branchHasStarted workflow (if actionIndexes.isEmpty then indexes else actionIndexes)

/-- The GPUs a QUIESCE named on a node, or nothing if it named every GPU. -/
def quiescedGpus (step : WorkflowStepSpec) (nodeId : String) : Option (List String) :=
  match step.parameters.get? "gpu_uuids_by_node" with
  | some (.obj _) => some (stepGpus step nodeId)
  | _ => if step.gpuUuids.isEmpty then none else some step.gpuUuids

/-- Whether GPUs of a node would be added to a window that was dispatched without them. -/
def widensDispatchedWindow (workflow : WorkflowRequest) (nodeId : String) (gpuUuids : List String)
    (indexes : Option (List Nat)) : Bool :=
  !workflow.executesSafetySteps && workflow.officialSteps.zipIdx.any fun (step, index) =>
    step.operation == .quiesceGpuServices && indexes.all (fun selected => selected.contains index) &&
      quiesceDispatched workflow index && step.nodeIds.contains nodeId &&
      (quiescedGpus step nodeId).any fun quiesced => !gpuUuids.all quiesced.contains

/-! ### The verdict -/

/-- The verdict where the existing plan would not keep a hold of the candidate. -/
def quarantineDisposition (existing : WorkflowRequest) (allowJobBranchMerge : Bool) (now : Time) : Disposition :=
  if workflowIsMutable existing then .replaceInPlace
  else if allowJobBranchMerge && joinAcceptsNewBranch existing now then .queueBranchSuccessor
  else .queueSuccessor

/-- The verdict against the branches a node has in a DAG. -/
def branchDisposition (existing candidate : WorkflowRequest) (nodeId : String) (gpuUuids : List String)
    (indexes : List Nat) : Except String Disposition := do
  let existingRank := recoveryRank (operationsAt existing indexes)
  let candidateRank := workflowRecoveryRank candidate
  let existingPrimary := primaryRecoveryOperations (operationsAt existing indexes)
  let candidatePrimary := workflowPrimaryRecoveryOperations candidate
  let compatible := candidate.status == .pending && recoveryOperationsDominate existingPrimary candidatePrimary
  let absorbed ← checkedAnd compatible (faultScopeCovered existing nodeId gpuUuids (some indexes) candidate)
  if absorbed then return .absorb
  if candidateRank == existingRank && sameOperations candidatePrimary existingPrimary &&
      !recoveryActionHasStarted existing indexes &&
        !widensDispatchedWindow existing nodeId gpuUuids (some indexes) then
    return .widenBranch
  if !branchHasStarted existing indexes && decide (existingRank < candidateRank) &&
      recoveryOperationsDominate candidatePrimary existingPrimary then
    return .replaceBranch
  return .queueBranchSuccessor

/-- The verdict against a DAG, unless the node has no branch in it yet. -/
def dagDisposition (existing candidate : WorkflowRequest) (nodeId : String) (gpuUuids : List String) (now : Time) :
    Except String (Option Disposition) := do
  let compatible := !existing.officialSteps.any (fun step => step.branchId.any (· != "")) &&
    candidate.status == .pending && recoveryOperationsDominate (workflowPrimaryRecoveryOperations existing)
      (workflowPrimaryRecoveryOperations candidate)
  let absorbed ← checkedAnd compatible (faultScopeCovered existing nodeId gpuUuids none candidate)
  if absorbed then return some .absorb
  if !joinAcceptsNewBranch existing now then return some .queueSuccessor
  let indexes := nodeBranchStepIndexes existing nodeId
  if indexes.isEmpty then return none
  let verdict ← branchDisposition existing candidate nodeId gpuUuids indexes
  return some verdict

/-- The verdict against a whole plan. -/
def planDisposition (existing candidate : WorkflowRequest) (nodeId : String) (gpuUuids : List String)
    (allowJobBranchMerge : Bool) (now : Time) : Except String Disposition := do
  let isMutable := workflowIsMutable existing
  let existingRank := workflowRecoveryRank existing
  let candidateRank := workflowRecoveryRank candidate
  let existingPrimary := workflowPrimaryRecoveryOperations existing
  let candidatePrimary := workflowPrimaryRecoveryOperations candidate
  let compatible := candidate.status == .pending && recoveryOperationsDominate existingPrimary candidatePrimary
  let scopeCovered ← faultScopeCovered existing nodeId gpuUuids none candidate
  if compatible && (scopeCovered || isMutable) then return .absorb
  if candidateRank == existingRank && sameOperations candidatePrimary existingPrimary &&
      !recoveryActionHasStarted existing (List.range existing.officialSteps.length) &&
      !widensDispatchedWindow existing nodeId gpuUuids none then
    return .widenInPlace
  if isMutable && decide (existingRank < candidateRank) &&
    recoveryOperationsDominate candidatePrimary existingPrimary then
    return .replaceInPlace
  if allowJobBranchMerge && (stepOperations existing.officialSteps).contains .restartWorkload &&
      joinAcceptsNewBranch existing now then
    return .queueBranchSuccessor
  return if isMutable then .replaceInPlace else .queueSuccessor

/-- The verdict on a candidate that carries the holds it has to keep. -/
def openDisposition (preemptionEnabled : Bool) (existing candidate : WorkflowRequest) (nodeId : String)
    (gpuUuids : List String) (allowJobBranchMerge : Bool) (now : Time) : Except String Disposition := do
  if allowJobBranchMerge && readOnlyBranchWindowClosed existing candidate now then
    return if mutatingScopeCovers existing nodeId gpuUuids then .absorbRecordOnly else .queueSuccessor
  if allowJobBranchMerge && canAppendParallelBranch preemptionEnabled existing candidate now then
    return .parallelBranch
  if existing.dagEnabled && allowJobBranchMerge then
    match ← dagDisposition existing candidate nodeId gpuUuids now with
    | some verdict => return verdict
    | none => planDisposition existing candidate nodeId gpuUuids allowJobBranchMerge now
  else planDisposition existing candidate nodeId gpuUuids allowJobBranchMerge now

/-- How `candidate`, planned for a fault of `nodeId`, merges with `existing`. -/
def disposition (preemptionEnabled : Bool) (existing candidate : WorkflowRequest) (nodeId : String)
    (gpuUuids : List String) (allowJobBranchMerge : Bool) (now : Time) : Except String Disposition := do
  if lifetimeExceeded existing now then return .absorbRecordOnly
  if existing.workloadWithdrawnAt.isSome then return .absorbRecordOnly
  if neverExecutedOperatorBlock existing then return .replaceInPlace
  if !existing.status.executable then return .queueSuccessor
  let candidate ← inheritTerminalQuarantine existing candidate
  let uncovered ← checkedAnd (candidate.status == .pending) ((terminalQuarantineCovered existing candidate).map (!·))
  if uncovered then return quarantineDisposition existing allowJobBranchMerge now
  openDisposition preemptionEnabled existing candidate nodeId gpuUuids allowJobBranchMerge now

end GpuFaultRecovery
