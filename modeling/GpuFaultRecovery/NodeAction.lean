import GpuFaultRecovery.OperationRegistry

/-!
# Node actions with an unknown outcome

A physical action on a node whose verdict the executor never saw is unresolved until a later record or an operator
answers it. The newest record of a step answers for the step.
-/

namespace GpuFaultRecovery

/-- Whether `details[key] is True`. -/
def Details.flag (d : Details) (key : String) : Bool := d.get? key == some (.bool true)

/-- The non-empty string under `key`. -/
def Details.text? (d : Details) (key : String) : Option String :=
  match d.get? key with
  | some (.str s) => if s = "" then none else some s
  | _ => none

def operatorConfirmationRequiredKeys : List String := ["actor", "reference", "confirmed_at", "node_id", "operation"]

/-- The operator confirmation `details` carries: it names who, where, when, on which node and for what. -/
def operatorConfirmation (details : Details) : Option Details :=
  match details.get? "operator_confirmed" with
  | some (.obj value) =>
    if operatorConfirmationRequiredKeys.all fun key => (Details.text? value key).isSome then some value else none
  | _ => none

def unresolvedDetails (details : Details) : Bool :=
  if (operatorConfirmation details).isSome then false
  else if ["outcome_unknown", "node_action_interrupted", "node_action_response_unknown",
      "ownership_permit_delivery_unknown"].any details.flag then true
  else if details.get? "node_action_state" == some (.str "PENDING") &&
      (details.text? "node_action_command_id").isSome then true
  else
    details.flag "manual_confirmation_required" && !details.flag "node_action_not_started" &&
      !details.flag "node_action_outcome_known"

def unresolvedNodeAction (execution : WorkflowStepExecution) : Bool :=
  if execution.status == .succeeded || !execution.operation.nodeMutating ||
      (execution.operation == .restoreGpuServices && execution.details.flag "restore_gpu_services_withheld") then
        false
  else unresolvedDetails execution.details

/-- What names a record: one record per phase, step and operation answers, the last one written. -/
def WorkflowStepExecution.identity (execution : WorkflowStepExecution) :
    Option StepPhase × Nat × WorkflowOperation :=
  (execution.phase, execution.stepIndex, execution.operation)

/-- The records whose identity no later record has, newest first. -/
def newestFirst (keep : WorkflowStepExecution → Bool) :
    List WorkflowStepExecution → List (Option StepPhase × Nat × WorkflowOperation) → List WorkflowStepExecution
  | [], _ => []
  | execution :: older, seen =>
    if seen.contains execution.identity || !keep execution then newestFirst keep older seen
    else execution :: newestFirst keep older (execution.identity :: seen)

/-- The newest record of every node-mutating step, in execution order. -/
def latestNodeActionExecutions (workflow : WorkflowRequest) : List WorkflowStepExecution :=
  (newestFirst (·.operation.nodeMutating) workflow.stepExecutions.reverse []).reverse

/-- Whether some step's newest record is an unresolved node action. -/
def hasUnresolvedNodeAction (workflow : WorkflowRequest) (includeRestoration : Bool) : Bool :=
  (newestFirst (fun _ => true) workflow.stepExecutions.reverse []).any fun execution =>
    (includeRestoration || execution.operation != .restoreGpuServices) && unresolvedNodeAction execution

end GpuFaultRecovery
