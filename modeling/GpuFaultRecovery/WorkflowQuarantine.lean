import Mathlib.Algebra.GroupWithZero.Nat
import GpuFaultRecovery.OperationRegistry

/-!
# Readmission limits of terminal quarantines

A quarantine that no later step readmits holds its nodes for good. A later candidate inherits the hold: its pending
readmissions of held nodes are narrowed or retired, its steps are marked, and a quarantine the candidate lacks is
inserted. Sets of nodes and indexes are lists read up to order and repetition.
-/

namespace GpuFaultRecovery

def terminalQuarantineNodesKey : String := "terminal_quarantine_node_ids"

/-- The items of a JSON array of non-empty strings. -/
def Json.nonemptyStrings? : List Json → Option (List String)
  | [] => some []
  | .str s :: rest => if s = "" then none else (nonemptyStrings? rest).map (s :: ·)
  | _ :: _ => none

def fixedQuarantineNodes (step : WorkflowStepSpec) : Except String (List String) :=
  match step.parameters.get? terminalQuarantineNodesKey with
  | none => .ok []
  | some (.arr items) =>
    match Json.nonemptyStrings? items with
    | some nodes => if nodes.all step.nodeIds.contains then .ok nodes
      else .error "terminal quarantine scope is malformed"
    | none => .error "terminal quarantine scope is malformed"
  | some _ => .error "terminal quarantine scope is malformed"

/-! ### Ancestors -/

/-- The dependencies of the step at `index`; none past the end. -/
def stepDeps (steps : List WorkflowStepSpec) (index : Nat) : List Nat :=
  ((steps[index]?).map WorkflowStepSpec.dependsOnStepIndexes).getD []

/-- Depth-first search below `stepIndex`, the top of the stack first; malformed or cyclic graphs have no ancestors. -/
def ancestorSearch (steps : List WorkflowStepSpec) (stepIndex : Nat) :
    Nat → List (Nat × Bool) → List Nat → List Nat → List Nat
  | 0, _, _, _ => []
  | _ + 1, [], ancestors, _ => ancestors
  | fuel + 1, (index, finished) :: pending, ancestors, visiting =>
    if decide (steps.length ≤ index) || index == stepIndex then []
    else if finished then ancestorSearch steps stepIndex fuel pending (index :: ancestors) (visiting.erase index)
    else if visiting.contains index then []
    else if ancestors.contains index then ancestorSearch steps stepIndex fuel pending ancestors visiting
    else
      let pushed := (stepDeps steps index).reverse.map fun dependency => (dependency, false)
      ancestorSearch steps stepIndex fuel (pushed ++ (index, true) :: pending) ancestors (index :: visiting)

/-- Steps pushed by a search: every index is opened at most once. -/
def searchFuel (steps : List WorkflowStepSpec) (stepIndex : Nat) : Nat :=
  (stepDeps steps stepIndex).length + (steps.map fun step => step.dependsOnStepIndexes.length + 1).sum + 1

/-- The steps `stepIndex` waits for: through its dependencies, or every earlier step of a flat plan. -/
def dependencyAncestors (workflow : WorkflowRequest) (stepIndex : Nat) : List Nat :=
  if workflow.dagEnabled then
    ancestorSearch workflow.officialSteps stepIndex (searchFuel workflow.officialSteps stepIndex)
      ((stepDeps workflow.officialSteps stepIndex).reverse.map fun dependency => (dependency, false)) [] []
  else List.range stepIndex

/-- The nodes replaced before `stepIndex`: a readmission after a replacement targets the spare. -/
def replacementAncestors (workflow : WorkflowRequest) (stepIndex : Nat) : List String :=
  ((dependencyAncestors workflow stepIndex).filter fun index =>
    !workflow.supersededStepIndexes.contains index).flatMap
    fun index =>
      match workflow.officialSteps[index]? with
      | some step => if step.operation == .replaceNode then step.nodeIds else []
      | none => []

/-! ### Held nodes -/

def liveSteps (workflow : WorkflowRequest) : List (WorkflowStepSpec × Nat) :=
  workflow.officialSteps.zipIdx.filter fun (_, index) => !workflow.supersededStepIndexes.contains index

/-- The nodes a plan quarantines for good: named explicitly, or quarantined and never readmitted. -/
def terminalQuarantineNodes (workflow : WorkflowRequest) : Except String (List String) := do
  let quarantines := (liveSteps workflow).filter fun (step, _) => step.operation == .quarantine
  let readmitted := ((liveSteps workflow).filter fun (step, _) => step.operation == .restoreScheduling).flatMap
    fun (step, _) => step.nodeIds
  let explicit ← quarantines.mapM fun (step, _) => fixedQuarantineNodes step
  let quarantined := quarantines.flatMap fun (step, _) => step.nodeIds
  return sortedSet (explicit.flatten ++ quarantined.filter fun node => !readmitted.contains node)

/-- Steps that ran or were submitted: a rewrite leaves them alone. -/
def submittedStepIndexes (workflow : WorkflowRequest) : List Nat :=
  workflow.resolvedStepIndexes ++ workflow.stepExecutions.map WorkflowStepExecution.stepIndex

/-- Narrow the GPU mapping of a step to `nodes`. -/
def narrowGpuMapping (parameters : Details) (nodes : List String) : Details :=
  match parameters.get? "gpu_uuids_by_node" with
  | some (.obj mapping) =>
    parameters.set "gpu_uuids_by_node" (.obj (mapping.filter fun (node, _) => nodes.contains node))
  | _ => parameters

/-- What becomes of one step when `heldNodes` may not be readmitted: the step, and whether it is retired. -/
def suppressStep (existing : WorkflowRequest) (heldNodes : List String) (step : WorkflowStepSpec) (index : Nat) :
    WorkflowStepSpec × Bool :=
  if (submittedStepIndexes existing).contains index ||
      !(step.operation == .restoreScheduling || step.operation == .restartWorkload) ||
      !step.nodeIds.any heldNodes.contains then (step, false)
  else
    let held := heldNodes.filter fun node => !(replacementAncestors existing index).contains node
    if !step.nodeIds.any held.contains then (step, false)
    else if step.operation == .restoreScheduling then
      let remaining := step.nodeIds.filter fun node => !held.contains node
      if remaining.isEmpty then (step, true)
      else
        ({ step with nodeIds := sortedSet remaining, parameters := narrowGpuMapping step.parameters remaining },
          false)
    else (step, step.nodeIds.all held.contains)

/-- Only unsubmitted work is narrowed or retired. -/
def suppressReadmission (existing : WorkflowRequest) (steps : List WorkflowStepSpec) (heldNodes : List String) :
    List WorkflowStepSpec × List Nat :=
  (steps.zipIdx.map fun (step, index) => (suppressStep existing heldNodes step index).1,
    (steps.zipIdx.filter fun (step, index) => (suppressStep existing heldNodes step index).2).map Prod.snd)

/-! ### Inheriting a hold -/

/-- An index once a step was inserted at `insertAt`. -/
def shiftIndex (insertAt index : Nat) : Nat := if insertAt ≤ index then index + 1 else index

/-- Where an inserted quarantine goes: after the leading evidence and isolation steps. -/
def quarantinePosition (steps : List WorkflowStepSpec) : Nat :=
  (steps.takeWhile fun step => step.operation == .freezeEvidence || step.operation == .markUnschedulable).length

def insertQuarantine (steps : List WorkflowStepSpec) (superseded : List Nat) (template : WorkflowStepSpec)
    (nodes : List String) : List WorkflowStepSpec × List Nat :=
  let insertAt := quarantinePosition steps
  let shifted := steps.zipIdx.map fun (step, index) =>
    let dependencies := step.dependsOnStepIndexes.map (shiftIndex insertAt)
    { step with
      dependsOnStepIndexes := sortedSet (if insertAt ≤ index then insertAt :: dependencies else dependencies) }
  let quarantine : WorkflowStepSpec :=
    { template with
      nodeIds := sortedSet nodes
      gpuUuids := []
      workloadIds := []
      parameters := [(terminalQuarantineNodesKey, .arr ((sortedSet nodes).map Json.str))]
      dependsOnStepIndexes := List.range insertAt
      branchId := none
      branchNodeIds := [] }
  (shifted.insertIdx insertAt quarantine, superseded.map (shiftIndex insertAt))

/-- Mark a pending step with the held nodes it acts on. -/
def markHeld (candidate : WorkflowRequest) (required : List String) (superseded : List Nat)
    (step : WorkflowStepSpec) (index : Nat) : WorkflowStepSpec :=
  let fixed := (required.filter step.nodeIds.contains).filter fun node =>
    !(replacementAncestors candidate index).contains node
  if superseded.contains index || fixed.isEmpty || (submittedStepIndexes candidate).contains index ||
      step.operation.semantics.workloadScoped then step
  else
    { step with
      parameters := step.parameters.set terminalQuarantineNodesKey (.arr ((sortedSet fixed).map Json.str)) }

/-- Insert the quarantines of `existing` for the held nodes no step covers yet. -/
def insertMissing (candidate : WorkflowRequest) :
    List WorkflowStepSpec → List WorkflowStepSpec → List Nat → List String →
      Except String (List WorkflowStepSpec × List Nat × List String)
  | [], steps, superseded, missing => .ok (steps, superseded, missing)
  | template :: templates, steps, superseded, missing =>
    let nodes := missing.filter template.nodeIds.contains
    if nodes.isEmpty then insertMissing candidate templates steps superseded missing
    else if !candidate.completedStepIndexes.isEmpty || !candidate.stepExecutions.isEmpty then
      .error "cannot insert quarantine into an executed candidate"
    else
      let (steps', superseded') := insertQuarantine steps superseded template nodes
      insertMissing candidate templates steps' superseded' (missing.filter fun node => !nodes.contains node)

/-- A recovery that follows cannot silently undo the hold of a node. -/
def inheritTerminalQuarantine (existing candidate : WorkflowRequest) : Except String WorkflowRequest := do
  let held ← terminalQuarantineNodes existing
  let required := sortedSet (held ++ (← terminalQuarantineNodes candidate))
  if required.isEmpty then return candidate
  let (narrowed, retired) := suppressReadmission candidate candidate.officialSteps required
  let superseded := sortedSet (candidate.supersededStepIndexes ++ retired)
  let covered := (narrowed.zipIdx.filter fun (step, index) =>
    !superseded.contains index && step.operation == .quarantine).flatMap fun (step, _) => step.nodeIds
  let marked := narrowed.zipIdx.map fun (step, index) => markHeld candidate required superseded step index
  let templates := ((liveSteps existing).map Prod.fst).filter fun step => step.operation == .quarantine
  let (steps, superseded', missing) ←
    insertMissing candidate templates marked superseded (required.filter fun node => !covered.contains node)
  if !missing.isEmpty then throw "terminal quarantine has no executable owner"
  if steps == candidate.officialSteps && superseded' == sortedSet candidate.supersededStepIndexes then
    return candidate
  return { candidate with officialSteps := steps, supersededStepIndexes := sortedSet superseded' }

end GpuFaultRecovery
