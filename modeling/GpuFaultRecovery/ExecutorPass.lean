import GpuFaultRecovery.StepRetirement
import GpuFaultRecovery.Supersession

/-!
# Passes of the executor over one row

The executor reads a row, hands a step to an adapter, reads the row again and writes the answer on what it then finds;
the planner may merge into the row at any moment in between. A pass that holds the row is `Executor.pass`: its lease
is valid as long as it is there, and losing it, or having a write refused, is `abort`. The events below are the parts
of a pass that read or write the row, in any order the loops allow and with any merge between them. Where a pass ends
the row for good the model only lets the pass go: an ended row takes no step, so the runs here are at least the
executor's.
-/

namespace GpuFaultRecovery

def phaseSteps (isSafety : Bool) (workflow : WorkflowRequest) : List WorkflowStepSpec :=
  if isSafety then workflow.safetySteps else workflow.officialSteps

/-! ### Merges -/

/-- What the planner merges into a row that is already there. -/
inductive Merge where
  | plan (rewrite : PlanRewrite)
  | preempt (candidate : WorkflowRequest) (nodeId : String)
  | widenInPlace (candidate : WorkflowRequest) (nodeId : String) (gpuUuids : List String)

def Merge.apply (existing : WorkflowRequest) (now : Time) : Merge → Except String WorkflowRequest
  | .plan rewrite => rewrite.apply existing now
  | .preempt candidate nodeId => preemptParallelBranch existing candidate nodeId now
  | .widenInPlace candidate nodeId gpuUuids =>
    .ok { existing with
      officialSteps := GpuFaultRecovery.widenInPlace existing candidate nodeId gpuUuids
      updatedAt := now }

/-- What a merge appends a branch of, what it chains it behind and what it retires. -/
def Merge.target (existing : WorkflowRequest) : Merge → Option (WorkflowRequest × Option Nat × List Nat)
  | .plan rewrite => rewrite.target existing
  | .preempt candidate nodeId =>
    if (nodeStepIndexes existing nodeId).isEmpty then (PlanRewrite.successor candidate nodeId).target existing
    else some (handoffQuiesce existing candidate (nodeStepIndexes existing nodeId),
      (branchBoundary existing nodeId).predecessor, (branchBoundary existing nodeId).replaceable)
  | .widenInPlace _ _ _ => none

/-- A merge changes nothing, makes a flat plan a DAG, widens steps, or appends a branch to its target. -/
theorem Merge.apply_ok {existing rewritten : WorkflowRequest} {now : Time} {merge : Merge}
    (h : merge.apply existing now = .ok rewritten) :
    rewritten = existing ∨ rewritten = adoptLinearPlan existing now ∨
      (∃ candidate nodeId gpuUuids, merge = .plan (.widen candidate nodeId gpuUuids) ∧
        rewritten = widenParallelJobBranch existing candidate nodeId gpuUuids now) ∨
      (∃ candidate nodeId gpuUuids, merge = .widenInPlace candidate nodeId gpuUuids ∧ rewritten = { existing with
        officialSteps := GpuFaultRecovery.widenInPlace existing candidate nodeId gpuUuids
        updatedAt := now }) ∨
      ∃ candidate predecessor replaced, merge.target existing = some (candidate, predecessor, replaced) ∧
        appendParallelJobBranch existing candidate predecessor replaced now = .ok rewritten := by
  cases merge with
  | plan rewrite =>
    rcases PlanRewrite.apply_ok h with he | ⟨-, he⟩ | ⟨candidate, nodeId, gpuUuids, rfl, he⟩ | happend
    · exact .inl he
    · exact .inr (.inl he)
    · exact .inr (.inr (.inl ⟨candidate, nodeId, gpuUuids, rfl, he⟩))
    · exact .inr (.inr (.inr (.inr happend)))
  | preempt candidate nodeId =>
    simp only [Merge.apply, preemptParallelBranch] at h
    split at h
    · rename_i hempty
      have hsuccessor : (PlanRewrite.successor candidate nodeId).apply existing now = .ok rewritten := h
      rcases PlanRewrite.apply_ok hsuccessor with he | ⟨hne, -⟩ | ⟨_, _, _, hne, -⟩ | happend
      · exact .inl he
      · cases hne
      · cases hne
      · simp only [Merge.target, if_pos hempty]
        exact .inr (.inr (.inr (.inr happend)))
    · rename_i hsome
      simp only [Merge.target, if_neg hsome]
      exact .inr (.inr (.inr (.inr ⟨_, _, _, rfl, h⟩)))
  | widenInPlace candidate nodeId gpuUuids =>
    exact .inr (.inr (.inr (.inl ⟨candidate, nodeId, gpuUuids, rfl, (Except.ok.inj h).symm⟩)))

/-- The stored row after a merge: its revision tells a leased writer that it was merged. -/
def mergedRow (existing : WorkflowRequest) (merge : Merge) (now : Time) : WorkflowRequest :=
  match merge.apply existing now with
  | .ok row => { row with mergeRevision := existing.mergeRevision + 1 }
  | .error _ => existing

/-! ### Rebinding nodes -/

/-- Where a replacement moves a node; a held node stays. -/
def reboundNode (rebindings : List (String × String)) (fixed : List String) (node : String) : String :=
  if fixed.contains node then node else (List.lookup node rebindings).getD node

/-- The GPU mapping of a step whose nodes moved. -/
def reboundGpuMapping (rebindings : List (String × String)) (inventory : String → List String) (fixed : List String)
    (parameters : Details) : Details :=
  match parameters.get? "gpu_uuids_by_node" with
  | some (.obj mapping) =>
    parameters.set "gpu_uuids_by_node" (.obj (mapping.map fun (node, values) =>
      (reboundNode rebindings fixed node,
        match List.lookup node rebindings with
        | none => values
        | some target =>
          if fixed.contains node then values else .arr ((inventory target).eraseDups.map Json.str))))
  | _ => parameters

/-- A later step pointed at the replacement nodes and the GPUs they have. -/
def reboundStep (rebindings : List (String × String)) (inventory : String → List String) (step : WorkflowStepSpec) :
    WorkflowStepSpec :=
  let fixed := match fixedQuarantineNodes step with
    | .ok nodes => nodes
    | .error _ => []
  let nodeIds := (step.nodeIds.map (reboundNode rebindings fixed)).eraseDups
  let moved := sortedSet nodeIds != sortedSet step.nodeIds
  { step with
    nodeIds
    gpuUuids :=
      if moved && !step.gpuUuids.isEmpty then (nodeIds.flatMap inventory).eraseDups else step.gpuUuids
    parameters := if moved then reboundGpuMapping rebindings inventory fixed step.parameters else step.parameters }

/-- Whether a replacement at `afterIndex` rebinds the step at `index`: not one that ran, only what comes after. -/
def rebinds (workflow : WorkflowRequest) (isSafety : Bool) (afterIndex index : Nat) : Bool :=
  !(submittedStepIndexes workflow).contains index &&
    if !isSafety && workflow.dagEnabled then (dependencyAncestors workflow index).contains afterIndex
    else decide (afterIndex < index)

/-- Point the steps behind a replacement at its nodes; a malformed hold is an error. -/
def rebindNodes (workflow : WorkflowRequest) (rebindings : List (String × String)) (inventory : String → List String)
    (isSafety : Bool) (afterIndex : Nat) (now : Time) : Except String WorkflowRequest :=
  let steps := phaseSteps isSafety workflow
  let malformed := steps.zipIdx.any fun (step, index) =>
    rebinds workflow isSafety afterIndex index && !(fixedQuarantineNodes step).toBool
  if malformed then .error "terminal quarantine scope is malformed"
  else
    let rebound := steps.zipIdx.map fun (step, index) =>
      if rebinds workflow isSafety afterIndex index then reboundStep rebindings inventory step else step
    .ok { workflow with
      safetySteps := if isSafety then rebound else workflow.safetySteps
      officialSteps := if isSafety then workflow.officialSteps else rebound
      updatedAt := now }

/-! ### A quiesce taken over -/

/-- The operations that need the GPU services stopped. -/
def needsLiveQuiesce (operation : WorkflowOperation) : Bool :=
  operation == .resetGpu || operation == .resetAllGpusNvswitches || operation == .recoverDrainP2p

/-- What a row takes over from the predecessor it preempted: a quiesce that still holds, or the restore that has to
follow its own reboot. -/
inductive QuiesceAdoption where
  | inherit (index : Nat) (evidence : WorkflowStepExecution)
  | restoreAfter (rebootIndex : Nat) (cleanup : WorkflowStepSpec)
deriving Repr, DecidableEq

def quiesceAdoption (workflow predecessor : WorkflowRequest) : Option QuiesceAdoption :=
  if workflow.quiesceHandoffFromWorkflowId.isSome || workflow.predecessorWorkflowId != some predecessor.requestId ||
      predecessor.status != .superseded || predecessor.preemptedByWorkflowId != some workflow.requestId ||
      predecessor.incidentId != workflow.incidentId then none
  else
    let steps := workflow.officialSteps
    let reset := steps.any fun step => needsLiveQuiesce step.operation
    match quiesceHandoffEvidence predecessor reset with
    | none => none
    | some (_, quiesce, evidence) =>
      if reset then
        (steps.findIdx? fun step =>
          step.operation == .quiesceGpuServices && step.nodeIds.all quiesce.nodeIds.contains).map fun index =>
            .inherit index evidence
      else
        match steps.zipIdx.find? fun (step, _) => step.operation == .restartNode with
        | none => none
        | some (reboot, rebootIndex) =>
          if !reboot.nodeIds.all quiesce.nodeIds.contains then none
          else
            (predecessor.officialSteps.find? fun step => step.operation == .restoreGpuServices).map fun restore =>
              .restoreAfter rebootIndex { restore with
                nodeIds := reboot.nodeIds
                branchId := reboot.branchId
                parameters := (restore.parameters.set "preemption_quiesce_handoff_after_reboot" (.bool true)).set
                  "handoff_from_workflow_id" (.str predecessor.requestId)
                dependsOnStepIndexes := [rebootIndex] }

/-- Complete the quiesce at `index` by the predecessor's record. -/
def inheritQuiesce (workflow : WorkflowRequest) (predecessorId : String) (index : Nat)
    (evidence : WorkflowStepExecution) (now : Time) : WorkflowRequest :=
  let inherited : WorkflowStepExecution :=
    { stepIndex := index
      operation := .quiesceGpuServices
      status := .succeeded
      phase := some .official
      adapterOperationId := evidence.adapterOperationId
      details := (evidence.details.set "inherited_from_workflow_id" (.str predecessorId)).set
        "preemption_quiesce_handoff" (.bool true)
      startedAt := now
      updatedAt := now }
  let kept := workflow.stepExecutions.filter fun item =>
    item.stepIndex != index || item.operation != .quiesceGpuServices
  { workflow with
    completedStepIndexes := sortedSet (workflow.completedStepIndexes ++ [index])
    completedOperations := (workflow.completedOperations ++ [WorkflowOperation.quiesceGpuServices]).eraseDups
    stepExecutions := (kept ++ [inherited]).insertionSort fun a b => a.stepIndex ≤ b.stepIndex
    inheritedStepIndexes := sortedSet (workflow.inheritedStepIndexes ++ [index])
    quiesceHandoffFromWorkflowId := some predecessorId
    updatedAt := now }

/-- Put `cleanup` between the reboot and what waits for it; a flat plan becomes a chain first. -/
def restoreAfterReboot (workflow : WorkflowRequest) (predecessorId : String) (rebootIndex : Nat)
    (cleanup : WorkflowStepSpec) (now : Time) : WorkflowRequest :=
  let rewired := workflow.officialSteps.zipIdx.map fun (step, index) =>
    let dependencies :=
      if workflow.dagEnabled then step.dependsOnStepIndexes else if index = 0 then [] else [index - 1]
    { step with
      dependsOnStepIndexes :=
        if index = rebootIndex then dependencies
        else dependencies.map fun value => if value = rebootIndex then workflow.officialSteps.length else value }
  { workflow with
    officialSteps := rewired ++ [cleanup]
    dagEnabled := true
    dagRevision := workflow.dagRevision + 1
    quiesceHandoffFromWorkflowId := some predecessorId
    updatedAt := now }

/-- What a claim takes over from the predecessor, if the row has one. -/
def adoptQuiesceHandoff (workflow : WorkflowRequest) (predecessor : Option WorkflowRequest) (now : Time) :
    WorkflowRequest :=
  match predecessor with
  | none => workflow
  | some predecessor =>
    match quiesceAdoption workflow predecessor with
    | none => workflow
    | some (.inherit index evidence) => inheritQuiesce workflow predecessor.requestId index evidence now
    | some (.restoreAfter rebootIndex cleanup) =>
      restoreAfterReboot workflow predecessor.requestId rebootIndex cleanup now

/-! ### A hung survey -/

/-- Where a survey points an evidence step. -/
structure EvidenceTarget where
  index : Nat
  nodeIds : List String
  gpuUuids : List String
  parameters : Details
deriving Repr, DecidableEq

/-- The evidence steps a survey may point elsewhere. -/
def surveyedOperation (operation : WorkflowOperation) : Bool :=
  operation == .collectHungTriage || operation == .collectDiagnosticBundle || operation == .validateFabric

/-- Point the evidence steps of a hung diagnostic at what its survey found; which nodes these are is up to the
classification of the samples, an input here. -/
def retargetEvidence (workflow : WorkflowRequest) (targets : List EvidenceTarget) : WorkflowRequest :=
  if targets.isEmpty then workflow
  else
    { workflow with
      officialSteps := workflow.officialSteps.zipIdx.map fun (step, index) =>
        match targets.find? fun target => target.index == index && surveyedOperation step.operation with
        | none => step
        | some target =>
          { step with nodeIds := target.nodeIds, gpuUuids := target.gpuUuids, parameters := target.parameters }
      dagRevision := workflow.dagRevision + 1 }

/-! ### The pass -/

/-- A step handed to an adapter, as the executor read it; `ahead` marks a restore run ahead of the cursor. -/
structure Dispatched where
  index : Nat
  step : WorkflowStepSpec
  isSafety : Bool
  ahead : Bool := false
deriving Repr, DecidableEq

/-- The memory of a pass: the row as it last read or wrote it, and where it is in its batch; `inDag` tells which of
the two loops it is in. -/
structure ExecutorPass where
  held : WorkflowRequest
  isSafety : Bool
  inDag : Bool := false
  attempted : List Nat := []
  validatedRevision : Option Nat := none
  steps : List WorkflowStepSpec := []
  batch : List Nat := []
  inFlight : Option Dispatched := none
  failure : Option (Nat × StepOutcome) := none
deriving Repr, DecidableEq

/-- The stored row, the pass that holds it, and for every completion of the run what had been dispatched. -/
structure Executor where
  row : WorkflowRequest
  pass : Option ExecutorPass := none
  recorded : List Dispatched := []
deriving Repr, DecidableEq

/-- The steps of a batch: unresolved, not tried in this pass, all dependencies resolved; no join while a branch is
exhausted. -/
def readySteps (workflow : WorkflowRequest) (steps : List WorkflowStepSpec) (attempted : List Nat) : List Nat :=
  (DependencyGraph.ready (stepDeps steps) steps.length workflow.resolvedStepIndexes).filter fun index =>
    !attempted.contains index &&
      (workflow.exhaustedBranchIds.isEmpty || (steps[index]?).all fun step => step.branchId != some "join")

/-- Whether the step at `index` may still be dispatched from the row as it is held now. -/
def dagStepIsCurrent (workflow : WorkflowRequest) (current steps : List WorkflowStepSpec) (index : Nat)
    (revision : Option Nat) : Bool :=
  some workflow.dagRevision == revision && current == steps && !workflow.resolvedStepIndexes.contains index &&
    (stepDeps current index).all workflow.resolvedStepIndexes.contains

namespace Executor

/-- A new pass takes the row. -/
def claim (s : Executor) (predecessor : Option WorkflowRequest) (now : Time) : Executor :=
  if s.pass.isSome || !s.row.status.executable then s
  else
    let row := adoptQuiesceHandoff { s.row with status := .running, updatedAt := now } predecessor now
    { s with row, pass := some { held := row, isSafety := s.row.executesSafetySteps } }

/-- The job was stopped from outside. -/
def withdraw (s : Executor) (reason : String) (now : Time) : Executor :=
  if s.row.workloadWithdrawnAt.isSome ||
    !s.row.officialSteps.any (fun step => step.operation == .restartWorkload) then s
  else
    { s with row := { s.row with
        workloadWithdrawnAt := some now
        workloadWithdrawnReason := some reason
        mergeRevision := s.row.mergeRevision + 1
        updatedAt := now } }

/-- The row a scan goes on with: wound down if its job is gone. -/
def scannedRow (s : Executor) (pass : ExecutorPass) (now : Time) : WorkflowRequest :=
  if s.row.workloadWithdrawnAt.isSome then applyWorkloadWithdrawal s.row (phaseSteps pass.isSafety s.row) now
    else s.row

/-- The head of either loop: read the row, wind it down if its job is gone, and select what is ready. -/
def scan (s : Executor) (pass : ExecutorPass) (now : Time) : Executor :=
  let steps := phaseSteps pass.isSafety s.row
  if s.row.dagEnabled && pass.validatedRevision != some s.row.dagRevision && !(validateDag steps).toBool then
    { s with pass := none }
  else
    let row := s.scannedRow pass now
    let batch :=
      if row.dagEnabled then readySteps row steps pass.attempted
      else ((List.range steps.length).find? fun index => !row.resolvedStepIndexes.contains index).toList
    { s with
      row
      pass := some { pass with
        held := row
        inDag := row.dagEnabled
        validatedRevision := some row.dagRevision
        steps
        batch
        failure := none } }

/-- Whether the pass may dispatch the step at `index` from the row it holds. -/
def dispatchable (pass : ExecutorPass) (index : Nat) : Bool :=
  if pass.inDag then
    dagStepIsCurrent pass.held (phaseSteps pass.isSafety pass.held) pass.steps index pass.validatedRevision
  else !pass.held.resolvedStepIndexes.contains index

/-- Hand the next step of the batch to its adapter, from the row as held; a step that is no longer current ends the
batch. -/
def dispatch (s : Executor) (pass : ExecutorPass) : Executor :=
  match pass.batch with
  | [] => s
  | index :: rest =>
    if dispatchable pass index then
      match (phaseSteps pass.isSafety pass.held)[index]? with
      | none => s
      | some step =>
        { s with pass := some { pass with
            batch := rest
            attempted := index :: pass.attempted
            inFlight := some { index, step, isSafety := pass.isSafety } } }
    else { s with pass := some { pass with batch := [] } }

/-- Run a restore ahead of the cursor, for a failure that lands or for a successor; an appended one is saved first. -/
def restoreAhead (s : Executor) (pass : ExecutorPass) (now : Time) : Executor :=
  match compensationPick pass.held now with
  | none => s
  | some pick =>
    let dispatched : Dispatched :=
      { index := pick.index, step := pick.step, isSafety := pick.workflow.executesSafetySteps, ahead := true }
    if (pendingRestoreStep pass.held pass.held.executedSteps).isSome then
      { s with pass := some { pass with batch := [], inFlight := some dispatched } }
    else if s.row.mergeRevision = pass.held.mergeRevision then
      { s with
        row := pick.workflow
        pass := some { pass with held := pick.workflow, batch := [], inFlight := some dispatched } }
    else { s with pass := none }

/-- Take a failed step on the row with its attempt recorded. -/
def takeFailure (s : Executor) (pass : ExecutorPass) (d : Dispatched) (attempted : WorkflowRequest)
    (outcome : StepOutcome) (verdict : BranchVerdict) (now : Time) : Executor :=
  let taken :=
    if !pass.inDag && d.isSafety then .jobLevel
    else escalateFailedBranch attempted d.index outcome verdict now
  match taken with
  | .raised => { s with pass := none }
  | .rewritten row =>
    -- in the flat loop only a next rung goes on, anything else fails the row
    let goesOn := pass.inDag || takesRung attempted d.index outcome verdict now
    { s with row, pass := some { pass with
        held := row
        steps := phaseSteps pass.isSafety row
        inFlight := none
        failure := if goesOn then pass.failure else some (d.index, outcome) } }
  | .jobLevel =>
    { s with
      row := attempted
      pass := some { pass with
        held := attempted
        inFlight := none
        failure := pass.failure.orElse fun _ => some (d.index, outcome) } }

/-- The nodes an answer moves; a restore run ahead of the cursor moves none. -/
def rebindings (d : Dispatched) (outcome : StepOutcome) : List (String × String) :=
  if d.ahead then [] else (nodeBindings outcome.details).getD []

/-- Complete a step on the row with its attempt recorded, rebinding what a replacement moved. -/
def takeSuccess (s : Executor) (pass : ExecutorPass) (d : Dispatched) (attempted : WorkflowRequest)
    (outcome : StepOutcome) (inventory : String → List String) (now : Time) : Executor :=
  let rebound :=
    if (rebindings d outcome).isEmpty then .ok attempted
    else rebindNodes attempted (rebindings d outcome) inventory d.isSafety d.index now
  match rebound with
  | .error _ => { s with pass := none }
  | .ok row =>
    let completed := recordCompletion row d.index d.step.operation now
    { s with
      row := completed
      pass := some { pass with
        held := completed
        steps := if (rebindings d outcome).isEmpty then pass.steps else phaseSteps pass.isSafety completed
        inFlight := none }
      recorded := d :: s.recorded }

/-- Whether a success of `d` is followed by a survey. -/
def surveys (pass : ExecutorPass) (d : Dispatched) : Bool :=
  pass.inDag && !d.ahead && (d.step.operation == .collectHungTriage || d.step.operation == .collectHungSummary)

/-- Read the row again and write the answer of the step in flight on it. -/
def record (s : Executor) (pass : ExecutorPass) (d : Dispatched) (outcome : StepOutcome) (verdict : BranchVerdict)
    (inventory : String → List String) (targets : List EvidenceTarget) (now : Time) : Executor :=
  let attempted := recordAttempt s.row d.step d.index outcome now
  match outcome.status with
  | .waiting => { s with row := attempted, pass := some { pass with held := attempted, inFlight := none } }
  | .failed =>
    if d.ahead then { s with row := attempted, pass := none }
    else s.takeFailure pass d attempted outcome verdict now
  | .succeeded =>
    if surveys pass d then
      let surveyed := retargetEvidence attempted targets
      s.takeSuccess { pass with steps := phaseSteps pass.isSafety surveyed } d surveyed outcome inventory now
    else s.takeSuccess pass d attempted outcome inventory now

/-- The row with a failure parked until the services of its nodes are restored. -/
def parkFailure (workflow : WorkflowRequest) (index : Nat) (error : String) (now : Time) : WorkflowRequest :=
  { workflow with pendingFailureStepIndex := some index, pendingFailureError := some error, updatedAt := now }

/-- The failure a batch ends with: one that is parked already owns the verdict. -/
def batchFailure (pass : ExecutorPass) (index : Nat) (outcome : StepOutcome) : Nat × StepOutcome :=
  match pass.held.pendingFailureStepIndex with
  | some parked =>
    if pass.inDag then
      (parked, { status := .failed,
                 error := (pass.held.pendingFailureError.filter (· != "")).orElse fun _ =>
                   some "workflow DAG step failed" })
    else (index, outcome)
  | none => (index, outcome)

/-- The row a failed batch is parked as: its siblings are waited for, or its nodes get their services back first. -/
def parkedRow (pass : ExecutorPass) (index : Nat) (outcome : StepOutcome) (now : Time) : Option WorkflowRequest :=
  let failure := batchFailure pass index outcome
  let error := (failure.2.error.filter (· != "")).getD
    (if pass.inDag then "workflow DAG step failed" else "workflow step failed")
  let deferred := if pass.inDag then deferJobFailure pass.held pass.steps failure.1 failure.2 now else none
  deferred.orElse fun _ =>
    if (pass.inDag && pass.held.pendingFailureStepIndex.isSome) ||
        stepOperation? pass.steps failure.1 == some .restoreGpuServices ||
        (unrestoredQuiesces pass.held pass.steps).isEmpty then none
    else some (parkFailure pass.held failure.1 error now)

/-- The end of a batch with a failure; the write that parks it is refused if the row was merged since it was read. -/
def endBatch (s : Executor) (pass : ExecutorPass) (now : Time) : Executor :=
  match pass.failure with
  | none => s
  | some (index, outcome) =>
    match parkedRow pass index outcome now with
    | none => { s with pass := some { pass with batch := [], failure := none } }
    | some parked =>
      if s.row.mergeRevision = pass.held.mergeRevision then
        { s with row := parked, pass := some { pass with held := parked, batch := [], failure := none } }
      else { s with pass := none }

/-- Withhold a restart whose budget is spent: its failure is recorded and the step retired, the rest of the plan
runs. -/
def withholdRestart (s : Executor) (pass : ExecutorPass) (index : Nat) (outcome : StepOutcome) (now : Time) :
    Executor :=
  match (phaseSteps pass.isSafety pass.held)[index]? with
  | none => s
  | some step =>
    if step.operation != .restartWorkload || pass.held.resolvedStepIndexes.contains index then s
    else if s.row.mergeRevision = pass.held.mergeRevision then
      let withheld := { retireSteps (recordAttempt pass.held step index outcome now) [index] now with
        terminalFailureReason := (pass.held.terminalFailureReason.filter (· != "")).orElse fun _ => outcome.error }
      { s with row := withheld, pass := some { pass with held := withheld, batch := [] } }
    else { s with pass := none }

end Executor

/-- What can happen to a row next. -/
inductive ExecutorEvent where
  | claim (predecessor : Option WorkflowRequest) (now : Time)
  | abort
  | withdraw (reason : String) (now : Time)
  | merge (merge : Merge) (now : Time)
  | scan (now : Time)
  | dispatch
  | restoreAhead (now : Time)
  | record (outcome : StepOutcome) (verdict : BranchVerdict) (inventory : String → List String)
      (targets : List EvidenceTarget) (now : Time)
  | endBatch (now : Time)
  | withholdRestart (index : Nat) (outcome : StepOutcome) (now : Time)

/-- The pass that is free to act: between a dispatch and its record a pass does nothing else. -/
def Executor.freePass (s : Executor) : Option ExecutorPass := s.pass.filter fun pass => pass.inFlight.isNone

def executorStep (s : Executor) : ExecutorEvent → Executor
  | .claim predecessor now => s.claim predecessor now
  | .abort => { s with pass := none }
  | .withdraw reason now => s.withdraw reason now
  | .merge merge now => { s with row := mergedRow s.row merge now }
  | .scan now => s.freePass.elim s fun pass => s.scan pass now
  | .dispatch => s.freePass.elim s s.dispatch
  | .restoreAhead now => s.freePass.elim s fun pass => s.restoreAhead pass now
  | .record outcome verdict inventory targets now =>
    s.pass.elim s fun pass =>
      pass.inFlight.elim s fun d => s.record pass d outcome verdict inventory targets now
  | .endBatch now => s.freePass.elim s fun pass => s.endBatch pass now
  | .withholdRestart index outcome now => s.freePass.elim s fun pass => s.withholdRestart pass index outcome now

/-! ### What a pass knows of the row -/

/-- The row a pass holds is the stored one, or the stored one was merged since. -/
def InStep (row : WorkflowRequest) (pass : ExecutorPass) : Prop :=
  pass.held = row ∨ pass.held.mergeRevision < row.mergeRevision

section InStep

variable {s : Executor} {pass : ExecutorPass} {now : Time}

theorem freePass_eq (h : s.freePass = some pass) : s.pass = some pass ∧ pass.inFlight = none := by
  rw [Executor.freePass, Option.filter_eq_some_iff] at h
  exact ⟨h.1, Option.isNone_iff_eq_none.mp h.2⟩

/-- A leased write goes through only on the row the pass holds. -/
theorem InStep.eq (h : InStep s.row pass) (hrev : s.row.mergeRevision = pass.held.mergeRevision) :
    pass.held = s.row :=
  h.resolve_right (by omega)

private theorem mergeRevision_mergedRow (row : WorkflowRequest) (merge : Merge) (now : Time) :
    mergedRow row merge now = row ∨ (mergedRow row merge now).mergeRevision = row.mergeRevision + 1 := by
  unfold mergedRow
  split
  · exact .inr rfl
  · exact .inl rfl

theorem InStep.merge (h : InStep s.row pass) (merge : Merge) : InStep (mergedRow s.row merge now) pass := by
  rcases mergeRevision_mergedRow s.row merge now with he | he
  · rw [he]
    exact h
  · rcases h with h | h
    · right
      rw [he, h]
      omega
    · right
      omega

theorem InStep.withdraw (h : InStep s.row pass) (reason : String) : InStep (s.withdraw reason now).row pass := by
  unfold Executor.withdraw
  split
  · exact h
  · right
    rcases h with h | h
    · rw [h]
      exact Nat.lt_succ_self _
    · exact Nat.lt_succ_of_lt h

end InStep

end GpuFaultRecovery
