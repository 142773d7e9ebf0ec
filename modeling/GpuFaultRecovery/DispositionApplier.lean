import GpuFaultRecovery.MergeDisposition

/-!
# Applying a verdict

Each verdict of a merge rewrites the plan in its own way; all but the absorbing ones first give the candidate the
holds it has to keep. A successor becomes a record of its own behind the existing one.
-/

namespace GpuFaultRecovery

/-- What the merges of one coordinator share. -/
structure MergeSettings where
  preemptionEnabled : Bool
  aggregationDeadlines : Time → WorkflowRequest → Time × Time

/-- Whose fields win the merge of the two incidents. -/
inductive MergeWinner where
  | candidate
  | existing
deriving Repr, DecidableEq

/-! ### A record of its own -/

/-- The generation a plan replaced in place runs under. -/
def replacementFencingToken (existing : WorkflowRequest) : Nat :=
  if existing.predecessorWorkflowId.isSome then existing.fencingToken else existing.fencingToken + 1

/-- The candidate under the identity of the row it replaces. -/
def replaceInPlace (settings : MergeSettings) (candidate existing : WorkflowRequest) (existingIncidentId : String)
    (now : Time) : WorkflowRequest :=
  { candidate with
    requestId := existing.requestId
    incidentId := existingIncidentId
    predecessorWorkflowId := existing.predecessorWorkflowId
    lifetimeDeadlineAt := existing.lifetimeDeadlineAt
    fencingToken := replacementFencingToken existing
    notBefore := some (settings.aggregationDeadlines now existing).1
    aggregationMaxDeadline := some (settings.aggregationDeadlines now existing).2
    createdAt := existing.createdAt
    updatedAt := now }

def exclusiveNodes (workflow : WorkflowRequest) : List String :=
  (workflow.officialSteps.filter fun step => step.operation.nodeExclusive).flatMap WorkflowStepSpec.nodeIds

def stepScopeCovers (existing candidate : WorkflowStepSpec) : Bool :=
  candidate.nodeIds.all existing.nodeIds.contains && candidate.workloadIds.all existing.workloadIds.contains

/-- Whether the containment of a completed step still stands: its undo has no record and did not complete. -/
def containmentStands (existing : WorkflowRequest) (operation : WorkflowOperation) : Bool :=
  let undone := existing.completedOperations ++ existing.stepExecutions.map WorkflowStepExecution.operation
  match operation with
  | .markUnschedulable => !undone.contains .restoreScheduling
  | .stopWorkloads => !undone.contains .restartWorkload
  | _ => false

/-- The completed step of `existing` that already contains what a step of the candidate would. -/
def inheritableStep (existing : WorkflowRequest) (step : WorkflowStepSpec) : Option Nat :=
  if containmentStands existing step.operation then
    (existing.officialSteps.zipIdx.find? fun (other, index) => existing.completedStepIndexes.contains index &&
      other.operation == step.operation && stepScopeCovers other step).map Prod.snd
  else none

/-- The record a successor starts with for a step its predecessor completed. -/
def inheritedExecution (existing : WorkflowRequest) (index : Nat) (operation : WorkflowOperation)
    (existingIndex : Nat) (now : Time) : WorkflowStepExecution :=
  let previous := existing.stepExecutions.find? fun item =>
    item.stepIndex == existingIndex && item.operation == operation && item.status == .succeeded
  { stepIndex := index
    operation
    status := .succeeded
    phase := some .official
    adapterOperationId := previous.bind WorkflowStepExecution.adapterOperationId
    details := (((previous.map WorkflowStepExecution.details).getD []).set "inherited_from_workflow_id"
      (.str existing.requestId)).set "preemption_reuse" (.bool true)
    startedAt := now
    updatedAt := now }

/-- The containment a successor takes over: its own index and operation, and the step of the predecessor. -/
def inheritedContainment (existing candidate : WorkflowRequest) : List (Nat × WorkflowOperation × Nat) :=
  candidate.officialSteps.zipIdx.filterMap fun (step, index) =>
    (inheritableStep existing step).map fun existingIndex => (index, step.operation, existingIndex)

/-- Whether a successor preempts its predecessor: stronger, on nodes the predecessor holds. -/
def preemptsPredecessor (preemptionEnabled : Bool) (existing candidate : WorkflowRequest) : Bool :=
  preemptionEnabled && candidate.status == .pending && (existing.status == .pending || existing.status == .running) &&
    decide (workflowRecoveryRank existing < workflowRecoveryRank candidate) && !(exclusiveNodes candidate).isEmpty &&
    ((exclusiveNodes existing).isEmpty || (exclusiveNodes existing).any (exclusiveNodes candidate).contains)

/-- Let a successor keep the holds and the lifetime of its predecessor, and preempt it if it is stronger. -/
def preparePreemptingSuccessor (preemptionEnabled : Bool) (existing candidate : WorkflowRequest) (now : Time) :
    Except String WorkflowRequest := do
  let inherited ← inheritTerminalQuarantine existing candidate
  let candidate := { inherited with
    lifetimeDeadlineAt := inherited.lifetimeDeadlineAt.orElse fun _ => existing.lifetimeDeadlineAt }
  if !preemptsPredecessor preemptionEnabled existing candidate then return candidate
  let contained := inheritedContainment existing candidate
  return { candidate with
    preemptPredecessor := true
    preemptionReason := some (s!"strictly stronger recovery action: rank {workflowRecoveryRank existing} -> " ++
      s!"{workflowRecoveryRank candidate}")
    completedStepIndexes := contained.map fun entry => entry.1
    completedOperations := contained.map fun entry => entry.2.1
    stepExecutions := contained.map fun entry => inheritedExecution existing entry.1 entry.2.1 entry.2.2 now
    inheritedStepIndexes := contained.map fun entry => entry.1
    updatedAt := now }

def queueSuccessor (settings : MergeSettings) (candidate existing : WorkflowRequest) (existingIncidentId : String)
    (now : Time) : Except String WorkflowRequest :=
  preparePreemptingSuccessor settings.preemptionEnabled existing
    { candidate with
      incidentId := existingIncidentId
      predecessorWorkflowId := some existing.requestId
      lifetimeDeadlineAt := existing.lifetimeDeadlineAt
      fencingToken := existing.fencingToken
      notBefore := none
      updatedAt := now } now

/-! ### The verdicts -/

/-- Whether a candidate outranks the branches of a node it would be queued behind. -/
def queuePreempts (preemptionEnabled : Bool) (existing candidate : WorkflowRequest) (nodeId : String) : Bool :=
  let indexes := nodeBranchStepIndexes existing nodeId
  let rank := if indexes.isEmpty then workflowRecoveryRank existing else recoveryRank (operationsAt existing indexes)
  preemptionEnabled && decide (rank < workflowRecoveryRank candidate)

/-- Queue a candidate behind the branches of a node, or put it in their place if it outranks them. -/
def queueBranchSuccessor (preemptionEnabled : Bool) (existing candidate : WorkflowRequest) (nodeId : String)
    (now : Time) : Except String WorkflowRequest :=
  if queuePreempts preemptionEnabled existing candidate nodeId then
    preemptParallelBranch existing candidate nodeId now
  else appendParallelJobBranchSuccessor existing candidate nodeId now

/-- The incident that wins where a branch was added. -/
def mergeWinner (candidate existing : WorkflowRequest) : MergeWinner :=
  if workflowRecoveryRank existing < workflowRecoveryRank candidate then .candidate else .existing

/-- The existing row with its aggregation window moved, while nobody acted on it. -/
def absorb (settings : MergeSettings) (existing : WorkflowRequest) (isMutable : Bool) (now : Time) :
    WorkflowRequest :=
  if isMutable then
    { existing with
      notBefore := some (settings.aggregationDeadlines now existing).1
      aggregationMaxDeadline := some (settings.aggregationDeadlines now existing).2
      updatedAt := now }
  else { existing with updatedAt := now }

/-- The plan a verdict makes of the existing row and a candidate that carries its holds. -/
def mergedWorkflow (settings : MergeSettings) (verdict : Disposition) (nodeId : String)
    (candidate existing : WorkflowRequest) (existingIncidentId : String) (gpuUuids : List String) (isMutable : Bool)
    (now : Time) : Except String WorkflowRequest :=
  match verdict with
  | .absorbRecordOnly => .ok existing
  | .absorb => .ok (absorb settings existing isMutable now)
  | .widenInPlace =>
    .ok { existing with officialSteps := widenInPlace existing candidate nodeId gpuUuids, updatedAt := now }
  | .widenBranch => .ok (widenParallelJobBranch existing candidate nodeId gpuUuids now)
  | .replaceInPlace => .ok (replaceInPlace settings candidate existing existingIncidentId now)
  | .parallelBranch => appendParallelJobBranch existing candidate none [] now
  | .replaceBranch => replaceParallelJobBranch existing candidate nodeId none now
  | .queueBranchSuccessor => queueBranchSuccessor settings.preemptionEnabled existing candidate nodeId now
  | .queueSuccessor => queueSuccessor settings candidate existing existingIncidentId now

def verdictWinner (verdict : Disposition) (candidate existing : WorkflowRequest) : MergeWinner :=
  match verdict with
  | .absorbRecordOnly | .absorb | .widenInPlace | .widenBranch => .existing
  | .replaceInPlace | .queueSuccessor => .candidate
  | .parallelBranch | .replaceBranch | .queueBranchSuccessor => mergeWinner candidate existing

/-- Apply a verdict: the workflow to store, and whose incident wins. -/
def applyDisposition (settings : MergeSettings) (verdict : Disposition) (nodeId : String)
    (candidate existing : WorkflowRequest) (existingIncidentId : String) (gpuUuids : List String) (isMutable : Bool)
    (now : Time) : Except String (WorkflowRequest × MergeWinner) := do
  let candidate ←
    if verdict == .absorb || verdict == .absorbRecordOnly then pure candidate
    else inheritTerminalQuarantine existing candidate
  let workflow ← mergedWorkflow settings verdict nodeId candidate existing existingIncidentId gpuUuids isMutable now
  return (workflow, verdictWinner verdict candidate existing)

end GpuFaultRecovery
