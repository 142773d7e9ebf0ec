import GpuFaultRecovery.WorkflowQuarantine
import GpuFaultRecovery.DependencyGraph

/-!
# Growing a job DAG

A job's plan is a DAG of node branches that meet in one RESTART_WORKLOAD, the join. The rewrites below append a branch
for a new fault, widen a pending one, replace one or queue a successor behind it; appended steps get the next free
indexes, so index order is not execution order.
-/

namespace GpuFaultRecovery

/-! ### Branch identity -/

def initialBranchId : String := "branch:initial"

/-- `branch:<node>[,<node>...][:successor:<revision>]`. -/
def mintBranchId (nodes : List String) (successorRevision : Option Nat) : String :=
  let branchId := "branch:" ++ ",".intercalate (sortedSet nodes)
  match successorRevision with
  | none => branchId
  | some revision => branchId ++ ":successor:" ++ toString revision

/-- The nodes a step was created for; a later widening does not move it to another branch. -/
def WorkflowStepSpec.identityNodes (step : WorkflowStepSpec) : List String :=
  if step.branchNodeIds.isEmpty then step.nodeIds else step.branchNodeIds

def WorkflowStepSpec.nodeBranch (step : WorkflowStepSpec) : Bool :=
  !(step.branchId == none || step.branchId == some "shared" || step.branchId == some "join") &&
    !step.operation.semantics.workloadScoped

/-! ### The join -/

def lifetimeExceeded (workflow : WorkflowRequest) (now : Time) : Bool :=
  match workflow.lifetimeDeadlineAt with
  | none => false
  | some deadline => decide (deadline ≤ now)

/-- The first step with `operation`. -/
def firstWith (steps : List WorkflowStepSpec) (operation : WorkflowOperation) : Option Nat :=
  steps.findIdx? fun step => step.operation == operation

/-- Whether the step at `index` has neither completed, been superseded nor started. -/
def untouchedStep (workflow : WorkflowRequest) (index : Nat) (operation : WorkflowOperation) : Bool :=
  !workflow.completedStepIndexes.contains index && !workflow.supersededStepIndexes.contains index &&
    !workflow.stepExecutions.any fun execution => execution.stepIndex == index && execution.operation == operation

/-- Whether the join of a job DAG can still take a node branch. -/
def joinAcceptsNewBranch (workflow : WorkflowRequest) (now : Time) : Bool :=
  !lifetimeExceeded workflow now &&
    match firstWith workflow.officialSteps .restartWorkload with
    | none => false
    | some restartIndex => untouchedStep workflow restartIndex .restartWorkload

/-! ### Branches of a node -/

/-- The steps of every branch that touches `nodeId`. -/
def nodeBranchStepIndexes (workflow : WorkflowRequest) (nodeId : String) : List Nat :=
  let branchIds := (workflow.officialSteps.filter fun step =>
    step.nodeBranch && step.identityNodes.contains nodeId).map WorkflowStepSpec.branchId
  (workflow.officialSteps.zipIdx.filter fun (step, _) =>
    branchIds.contains step.branchId && !step.operation.semantics.workloadScoped).map Prod.snd

def branchStepIndexes (workflow : WorkflowRequest) (branchId : String) : List Nat :=
  (workflow.officialSteps.zipIdx.filter fun (step, _) =>
    step.branchId == some branchId && !step.operation.semantics.workloadScoped).map Prod.snd

/-! ### Plans before a rewrite -/

/-- The steps with the dependencies the flat order implies and a branch each. -/
def normalizedSteps (existing : WorkflowRequest) : List WorkflowStepSpec :=
  existing.officialSteps.zipIdx.map fun (step, index) =>
    { step with
      dependsOnStepIndexes :=
        if existing.dagEnabled then step.dependsOnStepIndexes else if index = 0 then [] else [index - 1]
      branchId := some ((step.branchId.filter (· != "")).getD
        (if step.operation.semantics.sharedDag then "shared" else initialBranchId)) }

/-- The shared STOP_WORKLOADS of a plan, and whether it has not begun. -/
def stopState (existing : WorkflowRequest) (steps : List WorkflowStepSpec) : Option Nat × Bool :=
  let stopIndex := firstWith steps .stopWorkloads
  (stopIndex, stopIndex.any fun index => untouchedStep existing index .stopWorkloads)

/-- Grow a flat record into a one-branch DAG without changing its steps. -/
def adoptLinearPlan (existing : WorkflowRequest) (now : Time) : WorkflowRequest :=
  if existing.dagEnabled then existing
  else
    { existing with
      officialSteps := normalizedSteps existing
      dagEnabled := true
      dagRevision := existing.dagRevision + 1
      updatedAt := now }

/-! ### The branch of a candidate -/

/-- Whether a step needs the processes of the job alive. -/
def requiresLivePreStopCapture (step : WorkflowStepSpec) : Bool :=
  step.operation == .collectDiagnosticBundle &&
    match step.parameters.get? "capture_process_state" with
    | none | some .null | some (.bool false) | some (.int 0) | some (.dec 0 _) | some (.str "") | some (.arr [])
    | some (.obj []) => false
    | some _ => true

/-- Whether a step runs before the shared STOP_WORKLOADS. -/
def isPreStopStep (step : WorkflowStepSpec) : Bool :=
  step.operation == .freezeEvidence || step.operation == .markUnschedulable || requiresLivePreStopCapture step

/-- A step behind the shared STOP_WORKLOADS is told that live processes are gone. -/
def afterStopStep (step : WorkflowStepSpec) : WorkflowStepSpec :=
  if requiresLivePreStopCapture step then
    { step with
      parameters := ((step.parameters.set "capture_process_state" (.bool false)).set
        "running_process_evidence_unavailable" (.bool true)).set
        "running_process_evidence_reason" (.str "shared STOP_WORKLOADS already completed") }
  else step

structure CandidateBranch where
  stopIndex : Option Nat
  indexed : List (WorkflowStepSpec × Nat)
  nodes : List String
  branchId : String
  terminal : List String

def CandidateBranch.steps (branch : CandidateBranch) : List WorkflowStepSpec := branch.indexed.map Prod.fst

/-- What a candidate brings: its live steps outside the shared ones, and the nodes it ends. -/
def candidateBranch (candidate : WorkflowRequest) (predecessorStepIndex : Option Nat) (revision : Nat) :
    Except String CandidateBranch := do
  let live := liveSteps candidate
  let indexed := live.filter fun (step, _) => !step.operation.semantics.sharedDag
  let steps := indexed.map Prod.fst
  let operations := live.map fun (step, _) => step.operation
  let quarantined ← terminalQuarantineNodes candidate
  let escalated :=
    if operations.contains .escalateSupport && !operations.contains .restartWorkload then
      (steps.filter fun step => step.operation == .escalateSupport).flatMap WorkflowStepSpec.nodeIds
    else []
  return {
    stopIndex := (live.find? fun (step, _) => step.operation == .stopWorkloads).map Prod.snd
    indexed
    nodes := sortedSet (steps.flatMap WorkflowStepSpec.nodeIds)
    branchId := mintBranchId (steps.flatMap WorkflowStepSpec.identityNodes)
      (predecessorStepIndex.map fun _ => revision + 1)
    terminal := sortedSet (quarantined ++ escalated) }

/-- What a step is compared by: the order of its parameters does not count. -/
def stepSemantics (step : WorkflowStepSpec) : WorkflowStepSpec :=
  { step with
    branchId := none, branchNodeIds := [], dependsOnStepIndexes := [],
    parameters := Json.canonicalFields step.parameters }

def branchSemantics (steps : List WorkflowStepSpec) : List WorkflowStepSpec := steps.map stepSemantics

/-- Whether a live branch on the same nodes does the same and has not finished. -/
def branchAlreadyPresent (existing : WorkflowRequest) (steps candidateSteps : List WorkflowStepSpec)
    (candidateNodes : List String) : Bool :=
  let live := steps.zipIdx.filter fun (_, index) => !existing.supersededStepIndexes.contains index
  let branchIds := (live.filter fun (step, _) =>
    !(step.branchId == none || step.branchId == some "shared" || step.branchId == some "join") &&
      sortedSet step.nodeIds == sortedSet candidateNodes).map fun (step, _) => step.branchId
  branchIds.any fun branchId =>
    let branch := live.filter fun (step, _) => step.branchId == branchId
    branch.any (fun (_, index) => !existing.completedStepIndexes.contains index) &&
      branchSemantics (branch.map Prod.fst) == branchSemantics candidateSteps

/-! ### Appending a branch -/

/-- One appended step: it waits for the step before it and keeps its own local edges. -/
def chainStep (base count index : Nat) (previous : Option Nat) (branchId : String) (step : WorkflowStepSpec) :
    WorkflowStepSpec :=
  let kept := (step.dependsOnStepIndexes.filter fun dependency =>
    decide (dependency < count) && decide (base + dependency < index)).map (base + ·)
  { step with
    dependsOnStepIndexes := sortedSet (kept ++ previous.toList)
    branchId := some branchId
    branchNodeIds := step.identityNodes }

/-- The chained steps, the first at `index`. -/
def chainFrom (base count : Nat) (branchId : String) :
    Nat → Option Nat → List WorkflowStepSpec → List WorkflowStepSpec
  | _, _, [] => []
  | index, previous, step :: rest =>
    chainStep base count index previous branchId step :: chainFrom base count branchId (index + 1) (some index) rest

/-- Append `values` behind `dependency`; the new tail, if there is one. -/
def appendChain (steps values : List WorkflowStepSpec) (dependency : Option Nat) (branchId : String) :
    List WorkflowStepSpec × Option Nat :=
  (steps ++ chainFrom steps.length values.length branchId steps.length dependency values,
    if values.isEmpty then dependency else some (steps.length + values.length - 1))

/-- Make the step at `index` wait for `dependency` as well. -/
def addDependency (steps : List WorkflowStepSpec) (index dependency : Nat) : List WorkflowStepSpec :=
  steps.modify index fun step =>
    { step with dependsOnStepIndexes := sortedSet (step.dependsOnStepIndexes ++ [dependency]) }

/-- The part of a branch that runs before an open STOP_WORKLOADS. -/
def CandidateBranch.preStop (branch : CandidateBranch) (entry : WorkflowStepSpec × Nat) : Bool :=
  branch.stopIndex.all (fun stop => decide (entry.2 < stop)) && isPreStopStep entry.1

/-- The steps of a branch that run before the shared STOP_WORKLOADS, while it is open. -/
def CandidateBranch.leading (branch : CandidateBranch) (stopIsOpen : Bool) : List WorkflowStepSpec :=
  if stopIsOpen then (branch.indexed.filter branch.preStop).map Prod.fst else []

/-- The steps of a branch that run after the shared STOP_WORKLOADS. -/
def CandidateBranch.trailing (branch : CandidateBranch) (stopIsOpen : Bool) : List WorkflowStepSpec :=
  if stopIsOpen then (branch.indexed.filter fun entry => !branch.preStop entry).map fun entry => afterStopStep entry.1
  else branch.steps.map afterStopStep

/-- Append `leading` and make an open STOP_WORKLOADS wait for it: the steps, and the tail of `leading`. -/
def gateStop (steps leading : List WorkflowStepSpec) (branchId : String) (stopIndex : Option Nat)
    (stopIsOpen : Bool) :
    List WorkflowStepSpec × Option Nat :=
  let (appended, leadingTail) := appendChain steps leading none branchId
  match leadingTail, stopIndex with
  | some tail, some stop => (if stopIsOpen then addDependency appended stop tail else appended, leadingTail)
  | _, _ => (appended, leadingTail)

/-- Attach the branch behind `predecessor`, or around the shared STOP_WORKLOADS: the steps and the branch's tail. -/
def attachCandidateBranch (steps : List WorkflowStepSpec) (branch : CandidateBranch) (branchId : String)
    (stopIndex : Option Nat) (stopIsOpen : Bool) (predecessor : Option Nat) :
    List WorkflowStepSpec × Option Nat :=
  match predecessor with
  | some _ => appendChain steps branch.steps predecessor branchId
  | none =>
    let (gated, leadingTail) := gateStop steps (branch.leading stopIsOpen) branchId stopIndex stopIsOpen
    let (attached, trailingTail) :=
      appendChain gated (branch.trailing stopIsOpen) (stopIndex.orElse fun _ => leadingTail) branchId
    (attached, trailingTail.orElse fun _ => leadingTail)

/-- Make every RESTART_WORKLOAD wait for the branch's tail and no longer for a superseded step. -/
def reconnectJoin (steps : List WorkflowStepSpec) (branchTail : Option Nat) (superseded : List Nat) :
    List WorkflowStepSpec :=
  steps.map fun step =>
    if step.operation == .restartWorkload then
      { step with
        dependsOnStepIndexes := sortedSet
          ((step.dependsOnStepIndexes.filter fun dependency => !superseded.contains dependency) ++ branchTail.toList)
        branchId := some "join" }
    else step

/-- The steps and the indexes a terminal candidate retires beside the replaced ones. -/
def terminalSuperseded (existing : WorkflowRequest) (steps : List WorkflowStepSpec) (terminal : List String)
    (replaced : List Nat) : List WorkflowStepSpec × List Nat :=
  if terminal.isEmpty then (steps, replaced)
  else
    let retiring := { existing with
      supersededStepIndexes := sortedSet (existing.supersededStepIndexes ++ replaced) }
    let (updated, retired) := suppressReadmission retiring steps terminal
    (updated, replaced ++ retired)

/-- `arbiter.workflow_recovery_rank`. -/
def workflowRecoveryRank (workflow : WorkflowRequest) : Nat :=
  (workflow.officialSteps.map fun step => step.operation.semantics.recoveryRank).foldl max 0

/-- The identity of an appended branch: a second branch on the same nodes gets one of its own. -/
def freshBranchId (existing : WorkflowRequest) (branch : CandidateBranch) : String :=
  if (normalizedSteps existing).any fun step => step.branchId == some branch.branchId then
    branch.branchId ++ ":" ++ toString (existing.dagRevision + 1)
  else branch.branchId

/-- The plan with the branch appended and the join rewired, and the indexes the rewrite retires. -/
def branchRewrite (existing : WorkflowRequest) (branch : CandidateBranch) (predecessorStepIndex : Option Nat)
    (replaced : List Nat) : List WorkflowStepSpec × List Nat :=
  let steps := normalizedSteps existing
  let (stopIndex, stopIsOpen) := stopState existing steps
  let (narrowed, superseded) := terminalSuperseded existing steps branch.terminal replaced
  let (attached, tail) :=
    attachCandidateBranch narrowed branch (freshBranchId existing branch) stopIndex stopIsOpen predecessorStepIndex
  (if attached.length = narrowed.length then attached else reconnectJoin attached tail superseded, superseded)

/-- Append the branch of `candidate` to the plan of `existing`, retiring `replaced` and rewiring the join. -/
def appendParallelJobBranch (existing candidate : WorkflowRequest) (predecessorStepIndex : Option Nat)
    (replaced : List Nat) (now : Time) : Except String WorkflowRequest := do
  let candidate ← inheritTerminalQuarantine existing candidate
  let branch ← candidateBranch candidate predecessorStepIndex existing.dagRevision
  if predecessorStepIndex.isNone && replaced.isEmpty &&
      branchAlreadyPresent existing (normalizedSteps existing) branch.steps branch.nodes then
    return existing
  let (rewired, superseded) := branchRewrite existing branch predecessorStepIndex replaced
  -- completed steps of a replaced branch are history, not retired work
  let retired := superseded.filter fun index => !existing.completedStepIndexes.contains index
  return { existing with
    dagEnabled := true
    dagRevision := existing.dagRevision + 1
    supersededStepIndexes := sortedSet (existing.supersededStepIndexes ++ retired)
    officialAction :=
      if workflowRecoveryRank existing < workflowRecoveryRank candidate then candidate.officialAction
      else existing.officialAction
    officialSteps := rewired
    updatedAt := now }

/-- Whether a step of the same branch waits for the step at `index`. -/
def hasBranchSuccessor (workflow : WorkflowRequest) (index : Nat) : Bool :=
  workflow.officialSteps.any fun step =>
    step.branchId == (workflow.officialSteps[index]?).bind WorkflowStepSpec.branchId &&
      step.dependsOnStepIndexes.contains index

def replacedStepIndexes (existing : WorkflowRequest) (nodeId : String) (branchId : Option String) : List Nat :=
  match branchId with
  | some id => branchStepIndexes existing id
  | none => nodeBranchStepIndexes existing nodeId

/-- What a replacement chains its branch behind, and what it retires; nothing if there is no branch to replace. -/
def replacementTarget (existing : WorkflowRequest) (nodeId : String) (branchId : Option String) :
    Option (Option Nat × List Nat) :=
  let indexes := replacedStepIndexes existing nodeId branchId
  match indexes.min? with
  | none => none
  | some firstIndex =>
    let externalDependencies := (stepDeps existing.officialSteps firstIndex).filter fun dependency =>
      !indexes.contains dependency
    let tails := indexes.filter fun index => !hasBranchSuccessor existing index
    some (externalDependencies.getLast?, sortedSet (indexes ++ tails))

/-- Replace the branches of a node, or one branch, by the branch of `candidate`. -/
def replaceParallelJobBranch (existing candidate : WorkflowRequest) (nodeId : String) (branchId : Option String)
    (now : Time) : Except String WorkflowRequest :=
  match replacementTarget existing nodeId branchId with
  | none => .ok existing
  | some (predecessor, replaced) => appendParallelJobBranch existing candidate predecessor replaced now

def flatNodeStepIndexes (existing : WorkflowRequest) (nodeId : String) : List Nat :=
  (existing.officialSteps.zipIdx.filter fun (step, _) =>
    !(step.operation == .checkpointWorkloads || step.operation == .stopWorkloads ||
      step.operation == .restartWorkload) && step.nodeIds.contains nodeId).map Prod.snd

def nodeStepIndexes (existing : WorkflowRequest) (nodeId : String) : List Nat :=
  if (nodeBranchStepIndexes existing nodeId).isEmpty && !existing.dagEnabled then flatNodeStepIndexes existing nodeId
  else nodeBranchStepIndexes existing nodeId

/-- What a successor is queued behind: the node's last branch tail, if the node has a branch. -/
def successorTarget (existing : WorkflowRequest) (nodeId : String) : Except String (Option Nat) :=
  let indexes := nodeStepIndexes existing nodeId
  if indexes.isEmpty then .ok none
  else
    match (indexes.filter fun index => !existing.dagEnabled || !hasBranchSuccessor existing index).max? with
    | none => .error "max() iterable argument is empty"
    | some tail => .ok (some tail)

/-- Queue the branch of `candidate` behind the node's last branch tail, or beside the others if it has none. -/
def appendParallelJobBranchSuccessor (existing candidate : WorkflowRequest) (nodeId : String) (now : Time) :
    Except String WorkflowRequest :=
  match successorTarget existing nodeId with
  | .error e => .error e
  | .ok predecessor => appendParallelJobBranch existing candidate predecessor [] now

/-! ### Widening pending steps -/

/-- Whether the official QUIESCE at `index` completed or has a record. -/
def quiesceDispatched (workflow : WorkflowRequest) (index : Nat) : Bool :=
  workflow.completedStepIndexes.contains index ||
    workflow.stepExecutions.any fun execution =>
      executionMatchesStep execution index .quiesceGpuServices (some .official)

/-- Each dispatched QUIESCE and every later step of its branch on its nodes. -/
def committedStepIndexes (workflow : WorkflowRequest) : List Nat :=
  if workflow.executesSafetySteps then []
  else
    let dispatched := workflow.officialSteps.zipIdx.filter fun (step, index) =>
      step.operation == .quiesceGpuServices && quiesceDispatched workflow index
    dispatched.flatMap fun (quiesce, index) =>
      index :: (workflow.officialSteps.zipIdx.filter fun (step, later) =>
        decide (index < later) && step.branchId == quiesce.branchId && quiesce.nodeIds.any step.nodeIds.contains).map
          Prod.snd

/-- The steps whose node and GPU scope a merge no longer changes. -/
def fixedScopeStepIndexes (workflow : WorkflowRequest) : List Nat :=
  submittedStepIndexes workflow ++ committedStepIndexes workflow

def Json.strings : Json → List String
  | .arr items => items.filterMap fun item =>
    match item with
    | .str s => some s
    | _ => none
  | _ => []

/-- Add GPUs to the mapping of a node, where a step carries one. -/
def widenGpuMapping (parameters : Details) (nodeId : String) (gpuUuids : List String) : Details :=
  match parameters.get? "gpu_uuids_by_node" with
  | some (.obj raw) =>
    let mapping : Details := raw.filter fun (_, values) =>
      match values with
      | .arr _ => true
      | _ => false
    let widened := ((mapping.get? nodeId).map Json.strings).getD [] ++ gpuUuids
    parameters.set "gpu_uuids_by_node"
      (.obj (if widened.isEmpty then mapping else mapping.set nodeId (.arr ((sortedSet widened).map Json.str))))
  | _ => parameters

def widenedStep (candidate : WorkflowRequest) (nodeId : String) (gpuUuids : List String) (step : WorkflowStepSpec) :
    WorkflowStepSpec :=
  let matching := (candidate.officialSteps.filter fun other =>
    other.operation == step.operation && other.nodeIds.contains nodeId &&
      !other.operation.semantics.workloadScoped).getLast?
  { step with
    gpuUuids := sortedSet (step.gpuUuids ++ (matching.map WorkflowStepSpec.gpuUuids).getD [] ++ gpuUuids)
    parameters := widenGpuMapping step.parameters nodeId gpuUuids }

def widenParallelJobBranch (existing candidate : WorkflowRequest) (nodeId : String) (gpuUuids : List String)
    (now : Time) : WorkflowRequest :=
  let indexes := nodeBranchStepIndexes existing nodeId
  let untouchable := fixedScopeStepIndexes existing
  { existing with
    dagRevision := existing.dagRevision + 1
    officialSteps := existing.officialSteps.zipIdx.map fun (step, index) =>
      if !indexes.contains index || untouchable.contains index then step
      else widenedStep candidate nodeId gpuUuids step
    updatedAt := now }

/-- A pending step of a flat plan, widened to the GPUs of a candidate. -/
def widenedInPlace (candidate : WorkflowRequest) (nodeId : String) (gpuUuids : List String)
    (step : WorkflowStepSpec) :
    WorkflowStepSpec :=
  let matching := (candidate.officialSteps.filter fun other =>
    other.operation == step.operation && other.nodeIds.contains nodeId &&
      !other.operation.semantics.workloadScoped).getLast?
  let merged := sortedSet (step.gpuUuids ++ (matching.map WorkflowStepSpec.gpuUuids).getD [] ++ gpuUuids)
  let own :=
    if step.nodeIds == [nodeId] then merged
    else gpuUuids ++ ((matching.filter fun other => other.nodeIds == [nodeId]).map WorkflowStepSpec.gpuUuids).getD []
  { step with gpuUuids := merged, parameters := widenGpuMapping step.parameters nodeId own }

/-- Give the pending steps of a flat plan on `nodeId` the new GPUs. -/
def widenInPlace (existing candidate : WorkflowRequest) (nodeId : String) (gpuUuids : List String) :
    List WorkflowStepSpec :=
  existing.officialSteps.zipIdx.map fun (step, index) =>
    if (fixedScopeStepIndexes existing).contains index || !step.nodeIds.contains nodeId ||
        step.operation.semantics.workloadScoped then step
    else widenedInPlace candidate nodeId gpuUuids step

/-! ### The executor's check of a DAG -/

/-- `_validate_dag`, the limit on the number of steps apart. -/
def validateDag (steps : List WorkflowStepSpec) : Except String Unit :=
  match (List.range steps.length).find? fun index =>
      (stepDeps steps index).contains index ||
        (stepDeps steps index).any fun dependency => decide (steps.length ≤ dependency) with
  | some index => .error s!"invalid DAG dependencies for step {index}"
  | none =>
    if DependencyGraph.resolvable (stepDeps steps) steps.length steps.length [] then .ok ()
    else .error "workflow step dependency graph contains a cycle"

end GpuFaultRecovery
