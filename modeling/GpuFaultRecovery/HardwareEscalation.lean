import GpuFaultRecovery.BranchLadder
import GpuFaultRecovery.TerminalState

/-!
# Escalating a failed workflow

A failed workflow is classified by what its records say, and the answer is an action on the hardware ladder: a reboot,
a drain, a replacement or a hand-off to support. The action becomes an incident and a workflow of its own, under an
event id that names the rung and the workflow it follows. Texts for the operator (reasons, guidance, notifications)
are left out; where the GPUs of a node are comes from the store and is a parameter.
-/

namespace GpuFaultRecovery

/-! ### Data -/

def RecoveryAction.value : RecoveryAction → String
  | .noAction => "NO_ACTION"
  | .markUnschedulable => "MARK_UNSCHEDULABLE"
  | .drain => "DRAIN"
  | .stopWorkload => "STOP_WORKLOAD"
  | .collectEvidence => "COLLECT_EVIDENCE"
  | .restartWorkload => "RESTART_WORKLOAD"
  | .resetGpu => "RESET_GPU"
  | .rebootNode => "REBOOT_NODE"
  | .replaceNode => "REPLACE_NODE"
  | .remediateEfaDriver => "REMEDIATE_EFA_DRIVER"
  | .restartEfaDevicePlugin => "RESTART_EFA_DEVICE_PLUGIN"
  | .restartGpuDevicePlugin => "RESTART_GPU_DEVICE_PLUGIN"
  | .runDiagnostics => "RUN_DIAGNOSTICS"
  | .validateNode => "VALIDATE_NODE"
  | .restoreScheduling => "RESTORE_SCHEDULING"
  | .quarantine => "QUARANTINE"
  | .escalateOperator => "ESCALATE_OPERATOR"

/-- An incident with what an escalation carries over from it. -/
structure EscalationIncident extends FaultIncident where
  eventId : String
  eventType : String := ""
  eventSource : Option String := none
  sourceBootId : Option String := none
  clusterId : String := ""
  nodeIds : List String := []
  gpuUuids : List String := []
  jobId : Option String := none
  attemptId : Option String := none
  workloadIdentitySource : Option String := none
  policyVersion : String := ""
  policySource : String := ""
  policyReference : Option String := none
  drillId : Option String := none
  effectiveAction : Option RecoveryAction := none
  fencingToken : Nat := 1
deriving Repr, DecidableEq

/-- What the classifier answers: the stage that failed, the action and operation of the next rung, and the failures it
is about. -/
structure Classification where
  failedStage : String
  nextAction : RecoveryAction
  nextOperation : Option WorkflowOperation
  failedExecutions : List WorkflowStepExecution
deriving Repr, DecidableEq

def handOff (stage : String) (failures : List WorkflowStepExecution) : Classification :=
  { failedStage := stage, nextAction := .escalateOperator, nextOperation := some .escalateSupport,
    failedExecutions := failures }

/-! ### The name of a rung -/

/-- `ESCALATION_NAMES`. -/
def RecoveryAction.escalationName : RecoveryAction → Option String
  | .drain => some "drain"
  | .rebootNode => some "reboot"
  | .replaceNode => some "replace"
  | .escalateOperator => some "support"
  | _ => none

/-- `str.partition`, where the separator occurs. -/
def partitionAt (separator : List Char) : List Char → Option (List Char × List Char)
  | [] => none
  | c :: rest =>
    if separator.isPrefixOf (c :: rest) then some ([], (c :: rest).drop separator.length)
    else (partitionAt separator rest).map fun parts => (c :: parts.1, parts.2)

/-- The rung and the source workflow an event id names, if an escalation minted it. -/
def escalationOrigin (eventId : String) : Option (String × String) :=
  match partitionAt "-after-".toList eventId.toList with
  | none => none
  | some (name, source) =>
    if source.isEmpty then none
    else if ["drain", "reboot", "replace", "support"].contains (String.ofList name) then
      some (String.ofList name, String.ofList source)
    else none

/-! ### The classifier -/

def WorkflowStepExecution.failed (execution : WorkflowStepExecution) : Bool := execution.status == .failed

def failedExecutions (workflow : WorkflowRequest) : List WorkflowStepExecution :=
  workflow.stepExecutions.filter WorkflowStepExecution.failed

/-- The verdict of one node of a DCGM diagnostic asks for a rerun and nothing else. -/
def dcgmReviewOnly (result : Json) : Bool :=
  match result with
  | .obj fields =>
    !(["diagnostic_findings", "failed_checks", "warning_checks"].any fun name =>
        (Details.get? fields name).any Json.truthy) &&
      match (Details.get? fields "recommended_actions").getD (.arr []) with
      | .arr recommendations =>
        let codes := recommendations.filterMap fun item => match item with
          | .obj action => some ((Details.get? action "action_code").getD .null)
          | _ => none
        !codes.isEmpty && codes.all (· == .str "DCGM_EXECUTION_REVIEW")
      | _ => false
  | _ => false

/-- Whether the diagnostic of a running workload only has to be run again. -/
def activeWorkloadDcgmExecutionReview (workflow : WorkflowRequest) : Bool :=
  let failed := (failedExecutions workflow).filter fun execution => execution.operation == .runDcgmDiagnostic
  workflow.officialSteps.any (fun step => !step.workloadIds.isEmpty) && !failed.isEmpty && failed.all fun execution =>
    match execution.details.get? "node_results", workflow.officialSteps[execution.stepIndex]? with
    | some (.obj results), some step =>
      !results.isEmpty && step.nodeIds.all (Details.has results) && results.all fun entry => dcgmReviewOnly entry.2
    | _, _ => false

/-- Failures that never acted on the node: whether they are handled here, and how. -/
def preActionClassification (failures : List WorkflowStepExecution) : Bool × Option Classification :=
  if failures.isEmpty then (false, none)
  else if failures.all fun execution => executorRejectedFailure execution.details then (true, none)
  else if failures.all fun execution =>
      executorRejectedFailure execution.details || nodeActionRefusedBeforeActing execution.details then
    (true, some (handOff "node_action_refused" (failures.filter fun execution =>
      nodeActionRefusedBeforeActing execution.details)))
  else (false, none)

def unknownOutcomeFailures (workflow : WorkflowRequest) : List WorkflowStepExecution :=
  (failedExecutions workflow).filter fun execution =>
    !execution.operation.noSecondTicket && unknownOutcomeFailure execution.details

/-- `max` over the failures by step index: the first of the highest. -/
def latestFailure (failures : List WorkflowStepExecution) : Option WorkflowStepExecution :=
  failures.foldl (fun latest execution =>
    match latest with
    | none => some execution
    | some best => if best.stepIndex < execution.stepIndex then some execution else some best) none

def latestFailedValidation (workflow : WorkflowRequest) : Option WorkflowStepExecution :=
  (latestFailure (failedExecutions workflow)).filter fun execution => execution.operation.validation

def requestedAction (workflow : WorkflowRequest) (execution : WorkflowStepExecution) : Option Json :=
  (workflow.officialSteps[execution.stepIndex]?).bind fun step =>
    (step.parameters.get? "failure_escalation_action").filter Json.truthy

/-- Whether a failed validation asked for an escalation without having looked. -/
def withheldEscalation (workflow : WorkflowRequest) (execution : WorkflowStepExecution) : Bool :=
  execution.failed && execution.operation.validation && (requestedAction workflow execution).isSome &&
    validationWithoutObservedFailure execution.details

/-- The escalations the failed steps ask for and are owed. -/
def requestedEscalations (workflow : WorkflowRequest) : List Json :=
  ((failedExecutions workflow).filter fun execution => !withheldEscalation workflow execution).filterMap
    (requestedAction workflow)

/-- Hand-offs for a failure without a hardware verdict. -/
def noVerdictClassification (workflow : WorkflowRequest) : Option Classification :=
  if !(unknownOutcomeFailures workflow).isEmpty then
    some (handOff "manual_confirmation_required" (unknownOutcomeFailures workflow))
  else
    match latestFailedValidation workflow with
    | none => none
    | some latest =>
      if validationUnobservedFailure latest.details then some (handOff "validation_unobserved" [latest])
      else if withheldEscalation workflow latest then some (handOff "validation_evidence_missing" [latest])
      else none

/-- Every failed containment or release was refused. -/
def refusedContainment (failures : List WorkflowStepExecution) : Bool :=
  let refusals := failures.filter fun execution => execution.operation.containmentRelease
  !refusals.isEmpty && refusals.all fun execution => execution.details.flag "safety_rejection"

/-- What ran before the failure; for rows without such records, what was planned ahead of it. -/
def recoveryContextOperations (workflow : WorkflowRequest) : List WorkflowOperation :=
  let failedOperations := (failedExecutions workflow).map WorkflowStepExecution.operation
  let ran := workflow.completedOperations ++
    workflow.stepExecutions.map WorkflowStepExecution.operation
  if ran.any fun operation => !failedOperations.contains operation && operation.hardwareEscalationRelevant then ran
  else
    ran ++ (failedExecutions workflow).flatMap fun execution =>
      if execution.stepIndex < workflow.officialSteps.length then
        (workflow.officialSteps.take execution.stepIndex).map WorkflowStepSpec.operation
      else []

abbrev LadderVerdict := String × RecoveryAction × Option WorkflowOperation

def supportVerdict (stage : String) : LadderVerdict := (stage, .escalateOperator, some .escalateSupport)

/-- The answer to a failed validation: the rung above the highest one in the context. -/
def validationVerdict (context : List WorkflowOperation) : Option LadderVerdict :=
  if context.contains .replaceNode then some (supportVerdict "replacement_validation")
  else if context.contains .restartNode then some ("reboot_validation", .replaceNode, some .replaceNode)
  else if context.any WorkflowOperation.reset then some ("reset_validation", .rebootNode, some .restartNode)
  else if [.remediateDriver, .updateSoftwareFirmware, .runFieldDiagnostic,
    .runNvlink74Workflow].any context.contains then
    some (supportVerdict "remediation_validation")
  else if context.contains .runDcgmDiagnostic then some ("temperature_validation", .drain, none)
  else none

def drainP2pReboots (failures : List WorkflowStepExecution) : Bool :=
  failures.any fun execution => execution.operation == .recoverDrainP2p &&
    nextRung execution.operation [] execution.details == some .restartNode

/-- The cascade over the failed operations and the context. -/
def ladderVerdict (workflow : WorkflowRequest) : Option LadderVerdict :=
  let failures := failedExecutions workflow
  let failed := failures.map WorkflowStepExecution.operation
  let context := recoveryContextOperations workflow
  if (requestedEscalations workflow).contains (.str "REBOOT_NODE") && !context.contains .restartNode then
    some ("efa_recovery", .rebootNode, some .restartNode)
  else if failed.contains .recoverDrainP2p then
    if drainP2pReboots failures then some ("drain_p2p_recovery", .rebootNode, some .restartNode)
    else some (supportVerdict "drain_p2p_recovery")
  else if failed.contains .runDcgmDiagnostic then some ("temperature_diagnostic", .drain, none)
  else if failed.contains .runFieldDiagnostic || failed.contains .runNvlink74Workflow then
    some (supportVerdict "nvidia_field_diagnostic")
  else if failed.contains .remediateDriver || failed.contains .updateSoftwareFirmware then
    some (supportVerdict "software_or_firmware_remediation")
  else if failed.contains .replaceNode then some (supportVerdict "replacement")
  else if failed.contains .restartNode then some ("reboot", .replaceNode, some .replaceNode)
  else if failed.contains .resetGpu || failed.contains .resetAllGpusNvswitches then
    some ("reset", .rebootNode, some .restartNode)
  else if failed.any WorkflowOperation.validation then validationVerdict context
  else if failed.any WorkflowOperation.containmentRelease then
    some (supportVerdict (if refusedContainment failures then "containment_refused" else "containment_or_release"))
  else none

/-- `_classify`. -/
def classifyRecord (workflow : WorkflowRequest) : Option Classification :=
  let failures := failedExecutions workflow
  let lifetimeFailures := failures.filter fun execution => execution.details.flag "workflow_lifetime_exceeded"
  if !lifetimeFailures.isEmpty then some (handOff "lifetime_exceeded" lifetimeFailures)
  else if diagnosticWorkflowFailures workflow failures then none
  else if (preActionClassification failures).1 then (preActionClassification failures).2
  else
    match noVerdictClassification workflow with
    | some verdict => some verdict
    | none =>
      match ladderVerdict workflow with
      | none => none
      | some (failedStage, nextAction, nextOperation) =>
        let classifiable := failures.filter fun execution => execution.operation.classifiable
        if classifiable.isEmpty then none
        else some { failedStage, nextAction, nextOperation, failedExecutions := classifiable }

def classify (workflow : WorkflowRequest) : Option Classification :=
  if activeWorkloadDcgmExecutionReview workflow then none else classifyRecord workflow

/-! ### The plan of a rung -/

/-- `_escalation_operations`. -/
def escalationOperations (failedStage : String) (nextAction : RecoveryAction)
    (nextOperation : Option WorkflowOperation) (hasWorkloads : Bool) : List WorkflowOperation :=
  let stop : List WorkflowOperation := if hasWorkloads then [.stopWorkloads] else []
  let isolation : List WorkflowOperation :=
    if ["containment_refused", "node_action_refused", "validation_unobserved", "validation_evidence_missing"].contains
        failedStage then [.freezeEvidence]
    else if nextAction = .drain then
      [.freezeEvidence, .markUnschedulable] ++ stop ++
        [.quarantine, .collectDiagnosticBundle, .validateGpu, .escalateSupport]
    else [.freezeEvidence, .markUnschedulable, .quarantine]
  isolation ++
    if nextOperation = some .escalateSupport then [.escalateSupport]
    else if nextAction ≠ .drain then
      stop ++ nextOperation.toList ++ [.validateGpu, .validateHost, .validateFabric, .restoreScheduling] ++
        if hasWorkloads then [.restartWorkload] else []
    else []

/-- The GPUs of the failed nodes, by node, and what each node's validation names. -/
structure EscalationGpuScope where
  gpuUuids : List String := []
  gpuUuidsByNode : List (String × List String) := []
  validationGpuUuidsByNode : List (String × List String) := []
deriving Repr, DecidableEq

/-- What an escalation reads: incidents, rows, the runtime profile of a workflow, and where GPUs are. -/
structure EscalationStore where
  incident : String → Option EscalationIncident
  incidentByEvent : String → Option EscalationIncident
  workflow : String → Option WorkflowRequest
  profile : WorkflowRequest → Except String RuntimeProfile
  gpuScope : WorkflowRequest → EscalationIncident → List String → EscalationGpuScope

/-- The nodes a recovery action ran on before a step. -/
def actedNodes (workflow : WorkflowRequest) (beforeIndex : Nat) : List String :=
  (workflow.stepExecutions.filter fun execution =>
    execution.operation.hardwareEscalationRelevant && !execution.operation.validation &&
      decide (execution.stepIndex < min beforeIndex workflow.officialSteps.length)).flatMap fun execution =>
    ((workflow.officialSteps[execution.stepIndex]?).map WorkflowStepSpec.nodeIds).getD []

def failedStepNodes (workflow : WorkflowRequest) (execution : WorkflowStepExecution) (stepNodes : List String) :
    List String :=
  let reported := match execution.details.get? "failed_nodes", execution.details.get? "pending_nodes" with
    | some (.arr items), _ => some (Json.arr items).strings
    | _, some (.arr items) => some (Json.arr items).strings
    | _, _ => none
  let selected := ((reported.map fun nodes => nodes.filter stepNodes.contains).getD stepNodes)
  let selected := if selected.isEmpty then stepNodes else selected
  if execution.operation.validation then
    let acted := (actedNodes workflow execution.stepIndex).filter stepNodes.contains
    if acted.isEmpty then selected
    else
      let narrowed := selected.filter acted.contains
      if narrowed.isEmpty then sortedSet acted else narrowed
  else selected

/-- The failures on the branches that exhausted their ladder, where there are such. -/
def exhaustedBranchExecutions (workflow : WorkflowRequest) (failures : List WorkflowStepExecution) :
    List WorkflowStepExecution :=
  let exhaustedNodes := (workflow.officialSteps.filter fun step =>
    step.branchId.any workflow.exhaustedBranchIds.contains).flatMap fun step => step.identityNodes
  if workflow.exhaustedBranchIds.isEmpty || exhaustedNodes.isEmpty then failures
  else
    let narrowed := failures.filter fun execution => (workflow.officialSteps[execution.stepIndex]?).any fun step =>
      step.nodeIds.any exhaustedNodes.contains
    if narrowed.isEmpty then failures else narrowed

def escalatedNodes (workflow : WorkflowRequest) (source : EscalationIncident)
    (failures : List WorkflowStepExecution) :
    List String :=
  let failed := failures.flatMap fun execution => failedStepNodes workflow execution
    (((workflow.officialSteps[execution.stepIndex]?).map WorkflowStepSpec.nodeIds).getD source.nodeIds)
  sortedSet (if failed.isEmpty then source.nodeIds else failed)

def restartSafetyParameters : List String :=
  ["cluster_id", "job_id", "source_attempt_id", "source_gpu_count", "restart_budget"]

def restartContextOf (step : WorkflowStepSpec) : Option Details :=
  restartSafetyParameters.mapM fun name => (step.parameters.get? name).map fun value => (name, value)

/-- The restart safety context of a failed workflow; nothing without a job restart. -/
def restartContext (workflow : WorkflowRequest) : Except String (Option Details) :=
  let sources := workflow.officialSteps.filter fun step => step.operation == .restartWorkload
  let contexts := sources.filterMap restartContextOf
  if contexts.length ≠ sources.length then .error "failed workflow has no complete restart safety context"
  else if contexts.any fun context => some context != contexts.head? then
    .error "failed workflow has inconsistent restart safety context"
  else .ok contexts.head?

/-- The inventory requirements of the failed nodes, from the last step with `operation` that carries them. -/
def inventoryParameters (workflow : WorkflowRequest) (failedNodes : List String) (operation : WorkflowOperation) :
    Details :=
  if operation == .validateGpu || operation == .validateFabric then
    let requirements := workflow.officialSteps.filterMap fun step =>
      match step.parameters.get? "inventory_requirements_by_node" with
      | some (.obj requirements) =>
        if step.operation == operation && !requirements.isEmpty then some requirements else none
      | _ => none
    match requirements.getLast? with
    | some found =>
      [("inventory_requirements_by_node", .obj (found.filter fun entry => failedNodes.contains entry.1))]
    | none => []
  else []

/-- The parameters a compiled step of the rung gets. -/
def replacementParameters (workflow : WorkflowRequest) (failedNodes : List String) (scope : EscalationGpuScope)
    (step : WorkflowStepSpec) : Details :=
  let strategy : Details :=
    if step.operation == .replaceNode then [("replacement_strategy", .str "HEALTHY_WARM_SPARE_ONLY")] else []
  let restart : Details := if step.operation == .restartWorkload then
      match restartContext workflow with
      | .ok (some context) => context
      | _ => []
    else []
  let shares := scope.gpuUuidsByNode.filter fun entry => step.nodeIds.contains entry.1 && !entry.2.isEmpty
  let mapping : Details :=
    if step.operation.nodeActionScope && !shares.isEmpty then
      [("gpu_uuids_by_node", .obj (shares.map fun entry => (entry.1, .arr (entry.2.eraseDups.map Json.str))))]
    else []
  (((Details.merge step.parameters strategy).merge restart).merge
    (inventoryParameters workflow failedNodes step.operation)).merge mapping

/-- Give a validation the GPUs its own nodes answer for. -/
def scopeValidationStep (validation : List (String × List String)) (step : WorkflowStepSpec) : WorkflowStepSpec :=
  if step.operation.validation && step.nodeIds.all fun node => (validation.lookup node).isSome then
    { step with gpuUuids := (step.nodeIds.flatMap fun node => (validation.lookup node).getD []).eraseDups }
  else step

/-- The nodes of the job steps of a workflow, else those of its incident. -/
def workloadScope (workflow : WorkflowRequest) (source : EscalationIncident) : List String :=
  let nodes := ((workflow.officialSteps.filter fun step => step.operation.semantics.workloadScoped).flatMap
    WorkflowStepSpec.nodeIds).eraseDups
  if nodes.isEmpty then source.nodeIds else nodes

/-- `_compile_replacement_steps`: the steps of the rung, and why they cannot run. -/
def compileReplacementSteps (store : EscalationStore) (workflow : WorkflowRequest) (source : EscalationIncident)
    (operations : List WorkflowOperation) (failedNodes workloadIds : List String) (scope : EscalationGpuScope) :
    List WorkflowStepSpec × List String :=
  let profile := (store.profile workflow).toOption
  let profileErrors := match store.profile workflow with
    | .ok _ => []
    | .error reason => [reason]
  let contextErrors := match restartContext workflow with
    | .ok _ => []
    | .error reason => [reason]
  let compiled := operations.map fun operation => compileSteps [operation] profile
    (if operation.semantics.workloadScoped then workloadScope workflow source else failedNodes) scope.gpuUuids
      workloadIds
  let steps := compiled.flatMap Prod.fst
  let missingContext :=
    if contextErrors.isEmpty && (restartContext workflow).toOption.join.isNone &&
        steps.any fun step => step.operation == .restartWorkload then
      ["failed workflow has no complete restart safety context"]
    else []
  (steps.map fun step => scopeValidationStep scope.validationGpuUuidsByNode
      { step with parameters := replacementParameters workflow failedNodes scope step },
    profileErrors ++ contextErrors ++ compiled.flatMap Prod.snd ++ missingContext)

/-- The lifetime of the rung: a hand-off starts a clock of its own. -/
def successorLifetime (workflow : WorkflowRequest) (nextAction : RecoveryAction)
    (nextOperation : Option WorkflowOperation) : Option Time :=
  if nextOperation = some .escalateSupport || nextOperation = some .checkMechanicals ||
      nextAction = .escalateOperator || nextAction = .drain then none
  else workflow.lifetimeDeadlineAt

def planWorkloads (workflow : WorkflowRequest) : List String :=
  (workflow.officialSteps.flatMap WorkflowStepSpec.workloadIds).eraseDups

/-- The incident and the workflow of the rung `name`. -/
def emit (store : EscalationStore) (workflow : WorkflowRequest) (source : EscalationIncident)
    (verdict : Classification) (name : String) (now : Time) : EscalationIncident × WorkflowRequest :=
  let eventId := name ++ "-after-" ++ workflow.requestId
  let failedNodes := escalatedNodes workflow source (exhaustedBranchExecutions workflow verdict.failedExecutions)
  let scope := store.gpuScope workflow source failedNodes
  let operations := escalationOperations verdict.failedStage verdict.nextAction verdict.nextOperation
    !(planWorkloads workflow).isEmpty
  let (steps, errors) :=
    compileReplacementSteps store workflow source operations failedNodes (planWorkloads workflow) scope
  let replacement : WorkflowRequest := {
    requestId := "workflow-" ++ name ++ "-after-" ++ workflow.requestId
    incidentId := "inc-" ++ eventId
    status := if errors.isEmpty then .pending else .blocked
    officialAction := some verdict.nextAction.value
    fencingToken := 1
    officialSteps := steps
    blockedReasons := errors
    blockedKind := if errors.isEmpty then none else some .needsOperator
    lifetimeDeadlineAt := successorLifetime workflow verdict.nextAction verdict.nextOperation
    createdAt := now
    updatedAt := now }
  ({ source with
      incidentId := "inc-" ++ eventId
      eventId
      nodeIds := failedNodes
      gpuUuids := scope.gpuUuids
      effectiveAction := some verdict.nextAction
      fencingToken := 1
      state := if errors.isEmpty then .actionPending else .escalated
      workflowRequestId := some replacement.requestId
      updatedAt := now },
    replacement)

/-- What `escalate` answers. -/
inductive EscalationAnswer where
  | nothing
  | terminated (source : EscalationIncident)
  | successor (incident : EscalationIncident) (workflow : WorkflowRequest)
deriving Repr, DecidableEq

/-- The pair of an event that was escalated before; a pointer to a row that is gone is no pair. -/
def recordedSuccessor (store : EscalationStore) (existing : EscalationIncident) : Option WorkflowRequest :=
  (existing.workflowRequestId.filter (· != "")).bind store.workflow

/-- `escalate`. An error of the store (no source incident) is no answer. -/
def escalate (store : EscalationStore) (workflow : WorkflowRequest) (now : Time) : Option EscalationAnswer :=
  if workflow.status ≠ .failed then some .nothing
  else
    match store.incident workflow.incidentId with
    | none => none
    | some source =>
      -- a failed support hand-off goes to an operator, never into another one
      if ((escalationOrigin source.eventId).map Prod.fst) = some "support" then
        some (.terminated { source with state := .escalated, updatedAt := now })
      else
        match classify workflow with
        | none => some .nothing
        | some verdict =>
          match verdict.nextAction.escalationName with
          | none => none
          | some name =>
            match store.incidentByEvent (name ++ "-after-" ++ workflow.requestId) with
            | none =>
              let (incident, replacement) := emit store workflow source verdict name now
              some (.successor incident replacement)
            | some existing =>
              if (existing.workflowRequestId.filter (· != "")).isNone then some .nothing
              else
                match recordedSuccessor store existing with
                | some row => some (.successor existing row)
                | none =>
                  let (incident, replacement) := emit store workflow source verdict name now
                  some (.successor incident replacement)

end GpuFaultRecovery
