import GpuFaultRecovery.QuarantineEvidence
import GpuFaultRecovery.PreemptionBoundary

/-!
# How a row ends

The terminal decision: the status a row ends in and the state its incident is left in. A row with an action nobody has
confirmed ends BLOCKED for an operator, whatever the path that ends it asked for. The reasons an incident collects are
left out.
-/

namespace GpuFaultRecovery

inductive IncidentState where
  | detected
  | actionPending
  | safetyPending
  | quarantined
  | recovered
  | escalated
deriving Repr, DecidableEq, Inhabited

structure FaultIncident where
  incidentId : String
  state : IncidentState := .detected
  workflowRequestId : Option String := none
  updatedAt : Time := 0
deriving Repr, DecidableEq, Inhabited

/-! ### The incident's state -/

/-- A validation before a planned mutation is a gate, not a pure diagnostic. -/
def diagnosticOnly (workflow : WorkflowRequest) : Bool :=
  let operations := workflow.executedSteps.map WorkflowStepSpec.operation ++ workflow.completedOperations ++
    workflow.stepExecutions.map WorkflowStepExecution.operation
  !operations.isEmpty && !operations.any fun operation =>
    operation.semantics.destructive || operation.semantics.nodeWide

def isolationOperation (operation : WorkflowOperation) : Bool :=
  operation == .markUnschedulable || operation == .quarantine

def healthRecoveryMode (step : WorkflowStepSpec) : Option String :=
  match step.parameters.get? "health_recovery_contract" with
  | some (.obj contract) => Details.text? contract "mode"
  | _ => none

def failureIncidentState (workflow : WorkflowRequest) : IncidentState :=
  if workflow.completedOperations.any isolationOperation then .quarantined
  else if workflow.stepExecutions.any fun execution =>
      isolationOperation execution.operation && execution.status == .failed &&
        (execution.details.get? "isolated_nodes").any Json.truthy then .quarantined
  else if workflow.officialSteps.any fun step =>
      healthRecoveryMode step == some "TRAINING" || healthRecoveryMode step == some "HUNG_DIAGNOSTIC" then .escalated
  else if diagnosticOnly workflow then .recovered
  else .escalated

/-- The nodes of the completed steps with one of `operations`. -/
def completedNodes (workflow : WorkflowRequest) (operations : WorkflowOperation → Bool) : List String :=
  (workflow.executedSteps.zipIdx.filter fun (step, index) =>
    workflow.completedStepIndexes.contains index && operations step.operation).flatMap fun (step, _) => step.nodeIds

/-- Whether the predecessor isolated a node that neither row released. -/
def predecessorHoldsIsolation (predecessor : Option WorkflowRequest) (workflow : WorkflowRequest) : Bool :=
  match predecessor with
  | none => false
  | some row =>
    if row.incidentId != workflow.incidentId then false
    else
      let released := completedNodes row (· == .restoreScheduling) ++
        completedNodes workflow (· == .restoreScheduling)
      (completedNodes row isolationOperation).any fun node => !released.contains node

def terminalIncidentState (workflow : WorkflowRequest) (status : WorkflowStatus) : IncidentState :=
  if status == .failed then failureIncidentState workflow
  else if status == .blocked then .quarantined
  else if status == .succeeded && workflow.completedOperations.contains .escalateSupport then .escalated
  else if hasUnrecoveredQuarantine { workflow with status } then .quarantined
  else .recovered

/-! ### The decision -/

structure TerminalDecision where
  workflow : WorkflowRequest
  incident : Option FaultIncident
  error : Option String
  diagnosticInconclusive : Bool

def unresolvedNodeActionReason : String := "NODE_ACTION_OUTCOME_UNRESOLVED"

def inconclusiveReason (error : Option String) : String :=
  match error.filter (· != "") with
  | some error => "diagnostic inconclusive: " ++ error
  | none => "diagnostic inconclusive"

/-- What a path that ends a row asks for. -/
structure Ending where
  status : WorkflowStatus
  reason : Option String := none
  incidentState : Option IncidentState := none
deriving Repr, DecidableEq

/-- What becomes of an ending once the row is looked at: an unconfirmed action turns it into a hand-off. -/
def Ending.confirmed (ending : Ending) (workflow : WorkflowRequest) : Ending :=
  if hasUnresolvedNodeAction workflow true then
    { status := .blocked
      reason := some (match ending.reason.filter (· != "") with
        | some reason => reason ++ "; " ++ unresolvedNodeActionReason
        | none => unresolvedNodeActionReason)
      incidentState := some
        (if ending.incidentState.getD (failureIncidentState workflow) == .quarantined then .quarantined
          else .escalated) }
  else ending

/-- The row without its owner and lease, in the status it ends in. -/
def endedRow (workflow : WorkflowRequest) (ending : Ending) (now : Time) : WorkflowRequest :=
  { workflow with
    blockedKind := if hasUnresolvedNodeAction workflow true then some .needsOperator else workflow.blockedKind
    status := ending.status
    executionOwnerId := none
    executionLeaseExpiresAt := none
    updatedAt := now }

/-- The state the incident is left in; isolation the predecessor left behind keeps it quarantined. -/
def derivedIncidentState (ended : WorkflowRequest) (ending : Ending) (predecessor : Option WorkflowRequest) :
    IncidentState :=
  match ending.incidentState with
  | some state => state
  | none =>
    let state := terminalIncidentState ended ending.status
    if (state == .recovered || state == .escalated) && predecessorHoldsIsolation predecessor ended then .quarantined
    else state

/-- Build the records of an ended row without writing anything. -/
def terminalDecision (workflow : WorkflowRequest) (incident : Option FaultIncident) (asked : Ending)
    (predecessor : Option WorkflowRequest) (now : Time) : TerminalDecision :=
  let ending := asked.confirmed workflow
  let ended := endedRow workflow ending now
  let inconclusive := ending.status == .failed && ending.incidentState.isNone && diagnosticOnly ended
  let reported := ending.reason.filter (· != "")
  { workflow :=
      if ending.status == .failed && reported.isSome && (ended.terminalFailureReason.filter (· != "")).isNone then
        { ended with
          terminalFailureReason := if inconclusive then some (inconclusiveReason ending.reason) else ending.reason }
      else ended
    incident := incident.map fun row =>
      { row with state := derivedIncidentState ended ending predecessor, updatedAt := now }
    error := ending.reason
    diagnosticInconclusive := inconclusive }

/-- The one way a claimed row ends: the path's updates, the receipts, then the decision (`_terminalize`). -/
def terminalize (commands : List MintedFrom) (updates : WorkflowRequest → WorkflowRequest)
    (workflow : WorkflowRequest) (incident : Option FaultIncident) (asked : Ending)
    (predecessor : Option WorkflowRequest) (now : Time) :
    TerminalDecision :=
  terminalDecision (refreshRemoteActionState commands (updates workflow)) incident asked predecessor now

section Decision

variable {workflow : WorkflowRequest} {incident : Option FaultIncident} {asked : Ending}
  {predecessor : Option WorkflowRequest} {now : Time}

/-- Ending a row does not touch its records. -/
theorem terminalDecision_stepExecutions :
    (terminalDecision workflow incident asked predecessor now).workflow.stepExecutions = workflow.stepExecutions := by
  unfold terminalDecision
  dsimp only
  split <;> rfl

theorem hasUnresolvedNodeAction_congr {a b : WorkflowRequest} (h : a.stepExecutions = b.stepExecutions)
    (includeRestoration : Bool) :
    hasUnresolvedNodeAction a includeRestoration = hasUnresolvedNodeAction b includeRestoration := by
  unfold hasUnresolvedNodeAction
  rw [h]

theorem terminalDecision_status :
    (terminalDecision workflow incident asked predecessor now).workflow.status =
    (asked.confirmed workflow).status := by
  unfold terminalDecision
  dsimp only
  split <;> rfl

/-- A row with an unconfirmed action ends BLOCKED for an operator, and its incident is not recovered. -/
theorem terminalDecision_of_unresolved (h : hasUnresolvedNodeAction workflow true = true) :
    (terminalDecision workflow incident asked predecessor now).workflow.status = .blocked ∧
      (terminalDecision workflow incident asked predecessor now).workflow.blockedKind = some .needsOperator ∧
      ∀ row, (terminalDecision workflow incident asked predecessor now).incident = some row →
        row.state ≠ .recovered := by
  refine ⟨?_, ?_, fun row hrow => ?_⟩
  · rw [terminalDecision_status, Ending.confirmed, if_pos h]
  · unfold terminalDecision
    dsimp only
    split <;> simp [endedRow, h]
  · simp only [terminalDecision, Option.map_eq_some_iff] at hrow
    obtain ⟨before, -, rfl⟩ := hrow
    simp only [derivedIncidentState, Ending.confirmed, if_pos h]
    split <;> simp

end Decision

end GpuFaultRecovery
