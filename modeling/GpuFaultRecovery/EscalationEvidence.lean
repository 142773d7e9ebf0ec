import GpuFaultRecovery.RemoteEvidence

/-!
# What a failed step says about its node

Before a failure climbs the recovery ladder its record is judged: whether the command ever reached the node, whether
the agent refused it, whether its outcome is known at all, and whether a validation looked and found a fault. The plan
of the next rung is compiled from the runtime profile of the workflow.
-/

namespace GpuFaultRecovery

/-! ### Kinds of operations -/

namespace WorkflowOperation

/-- `VALIDATION_OPERATIONS`. -/
def validation : WorkflowOperation → Bool
  | .validateGpu | .validateHost | .validateFabric => true
  | _ => false

/-- `_RESET_OPERATIONS`. -/
def reset : WorkflowOperation → Bool
  | .resetGpu | .resetAllGpusNvswitches | .recoverDrainP2p => true
  | _ => false

/-- `HARDWARE_ESCALATION_RELEVANT_OPERATIONS`. -/
def hardwareEscalationRelevant : WorkflowOperation → Bool
  | .runDcgmDiagnostic | .resetGpu | .recoverDrainP2p | .restartNode | .replaceNode | .remediateEfaDriver
  | .restartEfaDevicePlugin | .restartGpuDevicePlugin | .runFieldDiagnostic | .runNvlink74Workflow
  | .resetAllGpusNvswitches | .remediateDriver | .updateSoftwareFirmware | .validateGpu | .validateFabric => true
  | _ => false

/-- `_CONTAINMENT_RELEASE_OPERATIONS`. -/
def containmentRelease : WorkflowOperation → Bool
  | .markUnschedulable | .restoreScheduling | .quiesceGpuServices | .restoreGpuServices | .quarantine => true
  | _ => false

/-- `_CLASSIFIABLE_OPERATIONS`. -/
def classifiable (op : WorkflowOperation) : Bool :=
  op.hardwareEscalationRelevant || op.containmentRelease || op.validation

/-- `_NO_SECOND_TICKET_OPERATIONS`. -/
def noSecondTicket : WorkflowOperation → Bool
  | .escalateSupport | .freezeEvidence | .checkpointWorkloads => true
  | _ => false

end WorkflowOperation

/-! ### Failures without a hardware verdict -/

/-- The health contracts whose failures are not the hardware's. -/
def diagnosticModes : List String :=
  ["THERMAL_COOLDOWN", "THERMAL_UNRESOLVED", "ENVIRONMENT_REVIEW", "OBSERVABILITY", "TRAINING", "DIAGNOSTIC_ONLY",
    "HUNG_DIAGNOSTIC"]

def preventsHardwareEscalation (parameters : Details) : Bool :=
  match parameters.get? "health_recovery_contract" with
  | some (.obj contract) =>
    match Details.get? contract "mode" with
    | some (.str mode) => diagnosticModes.contains mode
    | _ => false
  | _ => false

def failedStepIsDiagnostic (workflow : WorkflowRequest) (index : Nat) (details : Details) : Bool :=
  details.flag "host_diagnostic_failure" ||
    (workflow.officialSteps[index]?).any fun step => preventsHardwareEscalation step.parameters

def diagnosticWorkflowFailures (workflow : WorkflowRequest) (failures : List WorkflowStepExecution) : Bool :=
  !failures.isEmpty && failures.all fun item => failedStepIsDiagnostic workflow item.stepIndex item.details

/-- Whether the cluster executor refused the command before it reached the node. -/
def executorRejectedFailure (details : Details) : Bool :=
  details.get? "remote_status_source" == some (.str "executor-rejected")

def unknownOutcomeFlags : List String :=
  ["manual_confirmation_required", "node_action_interrupted", "outcome_unknown"]

/-- Whether the agent refused the action at its own safety boundary with nothing applied to the node. -/
def nodeActionRefusedBeforeActing (details : Details) : Bool :=
  details.flag "safety_rejection" && !(details.get? "reset_completed").any Json.truthy &&
    !(details.get? "completed_nodes").any Json.truthy &&
    -- an agent's refusal always asks for confirmation; the other flags say that the outcome is unknown
    !((unknownOutcomeFlags.filter (· != "manual_confirmation_required")).any details.flag) &&
    (details.flag "node_action_outcome_known" || details.flag "node_action_not_started") &&
    match details.get? "reset_verdict" with
    | none | some .null => true
    | some (.str verdict) => verdict == "not-attempted" || verdict == "not-applied"
    | some _ => false

def unknownOutcomeFailure (details : Details) : Bool := unknownOutcomeFlags.any details.flag

def validationWithoutObservedFailure (details : Details) : Bool :=
  if ["failed_nodes", "node_failures", "failed_nodes_observed", "node_failures_observed"].any fun key =>
      (details.get? key).any Json.truthy then false
  else
    (match details.get? "node_pending" with
      | some (.obj pending) => !pending.isEmpty
      | _ => false) ||
    ["step_waiting_timeout_seconds", "workflow_execution_deadline"].any details.has

/-- Whether a failed validation never saw its nodes because the product's own quiesce taint hid them. -/
def validationUnobservedFailure (details : Details) : Bool :=
  match details.get? "node_pending" with
  | some (.obj pending) =>
    !pending.isEmpty && validationWithoutObservedFailure details && pending.all fun entry =>
      match entry.2 with
      | .obj record => Details.flag record "quiesce_taint_present"
      | _ => false
  | _ => false

/-! ### The ladder -/

/-- The next rung after `failedOperation` failed; `recoveryContext` decides what a failed validation climbs from. -/
def nextRung (failedOperation : WorkflowOperation) (recoveryContext : List WorkflowOperation) (details : Details) :
    Option WorkflowOperation :=
  if failedOperation == .recoverDrainP2p then
    if details.flag "gpu_recovery_reboot_required" || (details.get? "reset_failed").any Json.truthy then
      some .restartNode
    else none
  else if failedOperation.reset then some .restartNode
  else if failedOperation == .restartNode then some .replaceNode
  else if failedOperation.validation then
    if recoveryContext.contains .replaceNode then none
    else if recoveryContext.contains .restartNode then some .replaceNode
    else if recoveryContext.any WorkflowOperation.reset then some .restartNode
    else none
  else none

theorem nextRung_eq_some {failed : WorkflowOperation} {context : List WorkflowOperation} {details : Details}
    {rung : WorkflowOperation} (h : nextRung failed context details = some rung) :
    rung = .restartNode ∨ rung = .replaceNode := by
  unfold nextRung at h
  repeat' split at h
  all_goals cases h
  all_goals simp

/-! ### Compiling a plan -/

inductive CapabilityName where
  | gpuDetection
  | hostNetworkDetection
  | nodeMarkerWriter
  | schedulerDrain
  | gpuReset
  | nodeReboot
  | nodeReplace
  | deepDiagnostics
  | workloadStop
  | workloadRestart
  | checkpointRestore
  | evidenceCapture
  | diagnosticBundleCapture
  | vmRestart
  | fabricManagerRestart
  | nvlinkDiagnostics
  | memoryDiagnostics
  | fabricReset
  | mechanicalInspection
  | driverRemediation
  | efaDriverRemediation
  | softwareFirmwareUpdate
  | supportEscalation
  | providerHealthIsolation
deriving Repr, DecidableEq

def CapabilityName.value : CapabilityName → String
  | .gpuDetection => "gpuDetection"
  | .hostNetworkDetection => "hostNetworkDetection"
  | .nodeMarkerWriter => "nodeMarkerWriter"
  | .schedulerDrain => "schedulerDrain"
  | .gpuReset => "gpuReset"
  | .nodeReboot => "nodeReboot"
  | .nodeReplace => "nodeReplace"
  | .deepDiagnostics => "deepDiagnostics"
  | .workloadStop => "workloadStop"
  | .workloadRestart => "workloadRestart"
  | .checkpointRestore => "checkpointRestore"
  | .evidenceCapture => "evidenceCapture"
  | .diagnosticBundleCapture => "diagnosticBundleCapture"
  | .vmRestart => "vmRestart"
  | .fabricManagerRestart => "fabricManagerRestart"
  | .nvlinkDiagnostics => "nvlinkDiagnostics"
  | .memoryDiagnostics => "memoryDiagnostics"
  | .fabricReset => "fabricReset"
  | .mechanicalInspection => "mechanicalInspection"
  | .driverRemediation => "driverRemediation"
  | .efaDriverRemediation => "efaDriverRemediation"
  | .softwareFirmwareUpdate => "softwareFirmwareUpdate"
  | .supportEscalation => "supportEscalation"
  | .providerHealthIsolation => "providerHealthIsolation"

inductive CapabilityMode where
  | own
  | delegate
  | augment
  | observe
  | disabled
deriving Repr, DecidableEq

/-- `OPERATION_CAPABILITY`. -/
def WorkflowOperation.capability : WorkflowOperation → CapabilityName
  | .freezeEvidence => .evidenceCapture
  | .collectHungTriage | .collectHungSummary | .collectDiagnosticBundle | .runDcgmDiagnostic | .triggerHealthSnapshot
  | .collectorOutboxMaintenance => .diagnosticBundleCapture
  | .markUnschedulable | .restartEfaDevicePlugin | .restartGpuDevicePlugin | .restoreScheduling | .quarantine =>
    .schedulerDrain
  | .checkpointWorkloads => .checkpointRestore
  | .stopWorkloads => .workloadStop
  | .quiesceGpuServices | .verifyNoGpuClients | .resetGpu | .restoreGpuServices | .recoverDrainP2p => .gpuReset
  | .restartNode => .nodeReboot
  | .replaceNode => .nodeReplace
  | .restartVm => .vmRestart
  | .restartFabricManager => .fabricManagerRestart
  | .remediateEfaDriver => .efaDriverRemediation
  | .runFieldDiagnostic => .memoryDiagnostics
  | .runNvlink74Workflow => .nvlinkDiagnostics
  | .resetAllGpusNvswitches => .fabricReset
  | .checkMechanicals => .mechanicalInspection
  | .remediateDriver => .driverRemediation
  | .updateSoftwareFirmware => .softwareFirmwareUpdate
  | .escalateSupport => .supportEscalation
  | .validateGpu | .validateHost | .validateFabric => .deepDiagnostics
  | .restartWorkload => .workloadRestart

structure CapabilityEntry where
  capability : CapabilityName
  mode : CapabilityMode
  owner : Option String
deriving Repr, DecidableEq

abbrev RuntimeProfile := List CapabilityEntry

/-- `builder.owner`: the first entry that owns or delegates the capability. -/
def RuntimeProfile.owner (profile : Option RuntimeProfile) (capability : CapabilityName) : Option String :=
  (profile.bind fun entries => entries.find? fun item =>
    item.capability == capability && (item.mode == .own || item.mode == .delegate)).bind CapabilityEntry.owner

/-- The step of one operation, or the reason why nobody can run it. -/
def compileStep (profile : Option RuntimeProfile) (nodeIds gpuUuids workloadIds : List String)
    (operation : WorkflowOperation) : Except String WorkflowStepSpec :=
  match RuntimeProfile.owner profile operation.capability with
  | none => .error ("no executable owner for " ++ operation.capability.value)
  | some executionOwner => .ok { operation, executionOwner, nodeIds, gpuUuids, workloadIds }

/-- `compile_steps` without a workload state: the steps, and why the others cannot run. -/
def compileSteps (operations : List WorkflowOperation) (profile : Option RuntimeProfile)
    (nodeIds gpuUuids workloadIds : List String) : List WorkflowStepSpec × List String :=
  let compiled := operations.map (compileStep profile nodeIds gpuUuids workloadIds)
  (compiled.filterMap fun step => match step with
    | .ok step => some step
    | .error _ => none,
   compiled.filterMap fun step => match step with
    | .ok _ => none
    | .error reason => some reason)

end GpuFaultRecovery
