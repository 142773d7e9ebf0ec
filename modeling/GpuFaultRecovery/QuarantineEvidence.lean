import GpuFaultRecovery.RemoteEvidence
import GpuFaultRecovery.WorkflowQuarantine

/-!
# What a row proves about its quarantined nodes

Whether an ended row still holds nodes out of service: a node is held until a completed readmission behind its
quarantine released it, or until a proven spare replaced it. Evidence that cannot be read keeps the hold.
-/

namespace GpuFaultRecovery

/-! ### Receipts -/

/-- A cancellation needs a later completion or a proof that nothing was submitted. -/
def cancellationUnresolved (record details : Details) : Bool :=
  match record.get? "status_source" with
  | none | some .null => false
  | some (.str source) =>
    if !cancellationSources.contains source then false
    else if details.get? "post_cancellation_status" == some (.str "SUCCEEDED") ||
        details.get? "post_cancellation_status" == some (.str "FAILED") then false
    else
      let neverLeased := record.get? "last_lease_owner" == some .null && record.get? "lease_owner" == some .null &&
        details.isEmpty
      let noStart := details.flag "node_action_not_started" &&
        !((["node_action_accepted_nodes", "completed_nodes", "node_results", "activated_spare_nodes",
          "provider_operation_id", "provider_mutation_submitted", "requires_external_confirmation"] : List String).any
            fun key => (details.get? key).any Json.truthy)
      !(neverLeased || noStart)
  | some _ => true

def receiptFlags : List String :=
  ["outcome_unknown", "manual_confirmation_required", "node_action_interrupted", "node_action_response_unknown",
    "ownership_permit_delivery_unknown"]

/-- A flag that is set, an attested refusal's request for confirmation apart. -/
def receiptFlagged (value : Details) (key : String) : Bool :=
  match value.get? key with
  | none | some .null | some (.bool false) => false
  | some _ => !(key == "manual_confirmation_required" && value.flag "node_action_outcome_known")

/-- Read current, legacy and nested receipts, `depth` levels deep; malformed evidence stays held. -/
def unresolvedReceipt : Nat → Json → Bool
  | depth + 1, .obj fields =>
    let value : Details := fields
    let nestedUnresolved (key : String) : Bool :=
      match value.get? key with
      | none => false
      | some (.obj nested) => nested.any fun (_, item) =>
          match item with
          | .obj entry =>
            unresolvedReceipt depth item ||
              (key == batchedResultsKey &&
                (!(Details.get? entry "status" == some (.str "SUCCEEDED") ||
                    Details.get? entry "status" == some (.str "FAILED")) ||
                  cancellationUnresolved entry (match Details.get? entry "details" with
                    | some (.obj details) => details
                    | _ => [])))
          | _ => true
      | some _ => true
    receiptFlags.any (receiptFlagged value) ||
      (match value.get? "reset_outcome_unknown" with
        | none => false
        | some (.arr []) => false
        | some _ => true) ||
      value.get? "node_action_state" == some (.str "PENDING") ||
      (match value.get? "details" with
        | none => false
        | some details => unresolvedReceipt depth details) ||
      nestedUnresolved "node_results" || nestedUnresolved "node_failure_details" || nestedUnresolved batchedResultsKey
  | _, _ => true

/-- The record that proves a live step finished. -/
def completedExecution (workflow : WorkflowRequest) (phase : StepPhase) (index : Nat) (step : WorkflowStepSpec) :
    Option WorkflowStepExecution :=
  if workflow.supersededStepIndexes.contains index then none
  else
    (workflow.stepExecutions.filter fun item =>
        executionMatchesStep item index step.operation (some phase)).getLast?.filter fun latest =>
      latest.phase == some phase && latest.status == .succeeded && !unresolvedReceipt 25 (.obj latest.details)

/-! ### Held nodes -/

/-- The quarantine steps of both step lists, with their phase and index. -/
def quarantineSteps (workflow : WorkflowRequest) :
    List (StepPhase × List WorkflowStepSpec × WorkflowStepSpec × Nat) :=
  [(StepPhase.official, workflow.officialSteps), (StepPhase.safety, workflow.safetySteps)].flatMap
    fun (phase, steps) =>
    (steps.zipIdx.filter fun (step, _) => step.operation == .quarantine).map fun (step, index) =>
      (phase, steps, step, index)

/-- Whether a quarantine step was attempted, or may still run. -/
def quarantineCounts (workflow : WorkflowRequest) (phase : StepPhase) (step : WorkflowStepSpec)
    (index : Nat) : Bool :=
  (workflow.stepExecutions.any fun item => executionMatchesStep item index step.operation (some phase)) ||
    (phase == workflow.executionPhase && !workflow.supersededStepIndexes.contains index)

/-- The nodes completed readmissions behind the quarantine at `index` released. -/
def releasedNodes (workflow : WorkflowRequest) (phase : StepPhase) (steps : List WorkflowStepSpec) (index : Nat) :
    List String :=
  (steps.zipIdx.filter fun (restore, restoreIndex) =>
    restore.operation == .restoreScheduling &&
      (dependencyAncestors { workflow with officialSteps := steps } restoreIndex).contains index &&
      (completedExecution workflow phase restoreIndex restore).isSome).flatMap fun (restore, _) => restore.nodeIds

structure QuarantineEvidence where
  held : List String
  explicit : List String
  unknown : Bool

def quarantineEvidence (workflow : WorkflowRequest) : Except String QuarantineEvidence := do
  let terminal ← terminalQuarantineNodes workflow
  let counted := (quarantineSteps workflow).filter fun (phase, _, step, index) =>
    quarantineCounts workflow phase step index
  if counted.any fun (_, _, step, _) => step.nodeIds.isEmpty || step.nodeIds.contains "" then
    throw "quarantine node scope is missing"
  let explicit ← counted.mapM fun (_, _, step, _) => fixedQuarantineNodes step
  let held := counted.flatMap fun (phase, steps, step, index) =>
    step.nodeIds.filter fun node => !(releasedNodes workflow phase steps index).contains node
  let identified (item : WorkflowStepExecution) : Bool :=
    (quarantineSteps workflow).any fun (phase, _, step, index) =>
    executionMatchesStep item index step.operation (some phase)
  return {
    held := sortedSet (terminal ++ held ++ explicit.flatten)
    explicit := sortedSet explicit.flatten
    unknown := (workflow.stepExecutions.any fun item => item.operation == .quarantine && !identified item) ||
      (workflow.completedOperations.contains .quarantine && counted.isEmpty) }

/-! ### Spares -/

def validationOperation (operation : WorkflowOperation) : Bool :=
  operation == .validateGpu || operation == .validateHost || operation == .validateFabric

def validatedSpareReadmission (workflow : WorkflowRequest) (replacementIndex : Nat) (node : String) : Bool :=
  workflow.officialSteps.zipIdx.any fun (step, index) =>
    step.operation == .restoreScheduling && step.nodeIds.contains node &&
      (completedExecution workflow .official index step).isSome &&
      let ancestors := dependencyAncestors workflow index
      let checks := workflow.officialSteps.zipIdx.filter fun (check, parent) =>
        ancestors.contains parent && validationOperation check.operation && check.nodeIds.contains node &&
          (dependencyAncestors workflow parent).contains replacementIndex
      ancestors.contains replacementIndex && checks.any (fun (check, _) => check.operation == .validateGpu) &&
        checks.all fun (check, parent) => (completedExecution workflow .official parent check).isSome

/-- The `node_rebindings` of a receipt, if every target is a node name. -/
def nodeBindings (details : Details) : Option (List (String × String)) :=
  match details.get? "node_rebindings" with
  | some (.obj bindings) =>
    bindings.mapM fun (node, target) =>
      match target with
      | .str spare => if spare = "" then none else some (node, spare)
      | _ => none
  | _ => none

/-- The nodes a replacement step provably handed over to spares. -/
def recoveredBy (workflow : WorkflowRequest) (held : List String) (index : Nat) (step : WorkflowStepSpec) :
    List String :=
  match (completedExecution workflow .official index step).filter fun receipt =>
      receipt.details.get? "action" == some (.str "SPARE_FAILOVER") with
  | none => []
  | some receipt =>
    match nodeBindings receipt.details with
    | none => []
    | some bindings =>
      let nodes := bindings.map Prod.fst
      let targets := bindings.map Prod.snd
      let ancestors := dependencyAncestors workflow index
      if bindings.isEmpty || sortedSet nodes != sortedSet step.nodeIds ||
          targets.any (fun target => held.contains target || nodes.contains target) ||
          (sortedSet targets).length != bindings.length ||
          workflow.officialSteps.zipIdx.any (fun (quarantine, parent) =>
            quarantine.operation == .quarantine && quarantine.nodeIds.any nodes.contains &&
              !ancestors.contains parent) ||
          workflow.stepExecutions.any (fun item => item.operation == .quarantine && item.phase == some .safety) then
            []
      else if targets.all (validatedSpareReadmission workflow index) then nodes
      else []

def recoveredReplacements (workflow : WorkflowRequest) (held : List String) : List String :=
  (workflow.officialSteps.zipIdx.filter fun (step, _) => step.operation == .replaceNode).flatMap fun (step, index) =>
    recoveredBy workflow held index step

/-- A proven spare recovery can recover the incident, never admit its original. -/
def hasUnrecoveredQuarantine (workflow : WorkflowRequest) : Bool :=
  match quarantineEvidence workflow with
  | .error _ => true
  | .ok evidence =>
    if evidence.unknown || !evidence.explicit.isEmpty then true
    else
      let recovered :=
        if workflow.status == .succeeded && !workflow.executesSafetySteps then
          recoveredReplacements workflow evidence.held
        else []
      evidence.held.any fun node => !recovered.contains node

end GpuFaultRecovery
