import GpuFaultRecovery.DispositionApplier

/-!
# The GPUs of a merge

A step that acts on several nodes names their GPUs in one list, and which node holds which is read off the plan: its
per-node mappings and its steps on a single node. Once a candidate is merged, every pending step is widened to all the
nodes and GPUs that the plan's node actions and the new fault name, each node with its own GPUs.
-/

namespace GpuFaultRecovery

/-- GPUs by node, one entry for each node. -/
abbrev NodeGpus := List (String × List String)

def groupByNode (entries : NodeGpus) : NodeGpus :=
  (sortedSet (entries.map Prod.fst)).map fun node =>
    (node, sortedSet ((entries.filter fun entry => entry.1 == node).flatMap Prod.snd))

def gpuUuidsByNode (step : WorkflowStepSpec) : Option Details :=
  match step.parameters.get? "gpu_uuids_by_node" with
  | some (.obj raw) => some raw
  | _ => none

def mappingEntries (raw : Details) : NodeGpus :=
  raw.filterMap fun (node, values) =>
    match values with
    | .arr _ => some (node, values.strings)
    | _ => none

/-- An entry of a mapping as the agents take it: a nonempty list of GPUs. -/
def explicitGpuList (value : Option Json) : Option (List String) :=
  match value with
  | some (.arr items) =>
    if items.isEmpty || items.any fun item => match item with | .str _ => false | _ => true then none
    else some (Json.strings (.arr items))
  | _ => none

/-! ### Placement -/

def explicitGpus (step : WorkflowStepSpec) (nodeId : String) : List String :=
  if step.nodeIds.contains nodeId then
    match (gpuUuidsByNode step).bind fun raw => Details.get? raw nodeId with
    | some (.arr items) => (Json.nonemptyStrings? items).getD []
    | _ => []
  else []

/-- The GPUs a workflow itself places on a node: by a mapping, else by steps on that node alone. -/
def workflowGpuPlacement (workflow : WorkflowRequest) (nodeId : String) : List String :=
  let explicit := workflow.officialSteps.flatMap fun step => explicitGpus step nodeId
  let derived :=
    (workflow.officialSteps.filter fun step => step.nodeIds == [nodeId]).flatMap WorkflowStepSpec.gpuUuids
  (if explicit.isEmpty then derived else explicit).eraseDups

/-- Which node of a step holds which of its GPUs; unknown unless each GPU lands on exactly one node. -/
def stepGpuShares (workflow : WorkflowRequest) (step : WorkflowStepSpec) : Option NodeGpus :=
  let gpus := step.gpuUuids.eraseDups
  if step.nodeIds.length ≤ 1 then some (step.nodeIds.map fun node => (node, gpus))
  else
    let nodes := step.nodeIds.eraseDups
    let holders := fun gpu => nodes.filter fun node => (workflowGpuPlacement workflow node).contains gpu
    if gpus.all fun gpu => (holders gpu).length == 1 then
      some (nodes.map fun node => (node, gpus.filter fun gpu => (holders gpu).contains node))
    else none

/-- A step on several nodes without a mapping, whose GPUs the plan cannot place. -/
def gpuSharesUnknown (workflow : WorkflowRequest) (step : WorkflowStepSpec) : Bool :=
  (gpuUuidsByNode step).isNone && decide (1 < step.nodeIds.length) && (stepGpuShares workflow step).isNone

/-! ### Widening -/

/-- The mapping a merge writes on a pending node action: its own and the scope of the merge. -/
def widenedGpuMapping (workflow : WorkflowRequest) (step : WorkflowStepSpec) (scope : NodeGpus) : Option NodeGpus :=
  if gpuSharesUnknown workflow step then none
  else some (groupByNode (((gpuUuidsByNode step).map mappingEntries).getD [] ++
    scope.filter fun entry => !entry.2.isEmpty))

def stepScope (workflow : WorkflowRequest) (step : WorkflowStepSpec) : NodeGpus :=
  if step.operation.nodeActionScope then
    match gpuUuidsByNode step with
    | some raw => mappingEntries raw
    | none => step.nodeIds.map fun node =>
      (node, ((((stepGpuShares workflow step).getD []).find? fun entry => entry.1 == node).map Prod.snd).getD [])
  else []

/-- Per node, the GPUs a merge widens the pending node actions to. -/
def mergedGpuScope (existing : Option WorkflowRequest) (nodeId : String) (gpuUuids : List String) : NodeGpus :=
  groupByNode ((existing.map fun workflow => workflow.officialSteps.flatMap (stepScope workflow)).getD [] ++
    [(nodeId, gpuUuids)])

def NodeGpus.toJson (mapping : NodeGpus) : Json :=
  .obj (mapping.map fun (node, gpus) => (node, .arr (gpus.map Json.str)))

def widenedScopeStep (workflow : WorkflowRequest) (scope : NodeGpus) (step : WorkflowStepSpec) : WorkflowStepSpec :=
  let gpuNodes := (scope.filter fun entry => !entry.2.isEmpty).map Prod.fst
  let gpuUuids := sortedSet (step.gpuUuids ++ scope.flatMap Prod.snd)
  if step.operation.nodeActionScope then
    { step with
      nodeIds := sortedSet (step.nodeIds ++ gpuNodes)
      gpuUuids
      parameters :=
        match widenedGpuMapping workflow step scope with
        | none => step.parameters
        | some mapping => step.parameters.set "gpu_uuids_by_node" (NodeGpus.toJson mapping) }
  -- a node without a known GPU joins the steps that act on the host
  else { step with nodeIds := sortedSet (step.nodeIds ++ scope.map Prod.fst), gpuUuids }

/-- Point the pending steps at every faulted node and GPU. -/
def widenNodeActionScope (workflow : WorkflowRequest) (scope : NodeGpus) : WorkflowRequest :=
  if scope.isEmpty then workflow
  else
    { workflow with
      officialSteps := workflow.officialSteps.zipIdx.map fun (step, index) =>
        if (fixedScopeStepIndexes workflow).contains index || step.operation.semantics.workloadScoped then step
        else widenedScopeStep workflow scope step }

/-- The row a node-scoped fault leaves: what the verdict made of it, widened to its own scope and the fault's. -/
def widenedMerge (workflow existing : WorkflowRequest) (incidentId nodeId : String) (gpuUuids : List String) :
    WorkflowRequest :=
  let source := if workflow.requestId == existing.requestId then some existing else none
  widenNodeActionScope { workflow with incidentId } (mergedGpuScope source nodeId gpuUuids)

end GpuFaultRecovery
