import GpuFaultRecovery.NodeAction
import GpuFaultRecovery.RemoteCommand

/-!
# Remote receipts on a row

Before a row ends, and before its services are restored, the receipts of its remote commands are read back into its
records. A command whose carrier was cancelled proves nothing about the node; a receipt never rewrites a finished step
or one an operator confirmed.
-/

namespace GpuFaultRecovery

/-- A command together with the snapshot of the row it was minted from. -/
structure MintedFrom extends RemoteActionCommand where
  workflow : WorkflowRequest
deriving Repr, DecidableEq

/-- The truth value of a JSON value. -/
def Json.truthy : Json → Bool
  | .null | .bool false | .int 0 | .dec 0 _ | .str "" | .arr [] | .obj [] => false
  | _ => true

def RemoteCommandStatus.parse? : String → Option RemoteCommandStatus
  | "PENDING" => some .pending
  | "LEASED" => some .leased
  | "WAITING" => some .waiting
  | "SUCCEEDED" => some .succeeded
  | "FAILED" => some .failed
  | _ => none

def knownRemoteNoStart (details : Details) : Bool :=
  if unresolvedDetails details ||
      ["node_action_accepted_nodes", "completed_nodes", "node_results", "activated_spare_nodes",
        "provider_operation_id", "provider_mutation_submitted", "requires_external_confirmation"].any fun key =>
          (details.get? key).any Json.truthy then false
  else
    ["node_action_not_started", "fleet_preflight_blocked", "multi_node_barrier_unavailable"].any details.flag ||
      details.get? "node_action_state" == some (.str "TRANSPORT_RETRY") ||
      details.get? "node_action_state" == some (.str "NEW_COMMAND_REQUIRED")

/-- A leased mutation may have started since its last progress receipt. -/
def pendingRemoteActionDetails (operation : WorkflowOperation) (status : RemoteCommandStatus) (details : Details) :
    Details :=
  if operation.nodeMutating && (status == .leased || (status == .waiting && !knownRemoteNoStart details)) then
    ((details.set "outcome_unknown" (.bool true)).set "manual_confirmation_required" (.bool true)).filter fun entry =>
      entry.1 != "node_action_not_started"
  else details

/-! ### One step of a command -/

/-- What a command says about one of its steps, before cancellation is judged. -/
structure StepReading where
  status : RemoteCommandStatus
  details : Details
  completedEntry : Bool

/-- The entry a compound command has for a step: a malformed one counts as unknown. -/
def readEntry (command : RemoteActionCommand) (entry : Details) : StepReading :=
  let details : Details := match entry.get? "details" with
    | some (.obj raw) => raw
    | _ => [("outcome_unknown", .bool true)]
  let recorded := match entry.get? "status" with
    | some (.str status) => RemoteCommandStatus.parse? status
    | _ => none
  match recorded with
  | some status =>
    { status := if command.status == .leased && !status.terminal then .leased else status
      details
      completedEntry := status.terminal }
  | none =>
    { status := if command.status == .leased then .leased else .waiting
      details := details.set "outcome_unknown" (.bool true)
      completedEntry := false }

/-- A step without an entry: the head has the result of the command, a passenger of an ended carrier never started. -/
def readStep (command : RemoteActionCommand) (index : Nat) : Option StepReading :=
  match command.resultDetails.get? batchedResultsKey with
  | some (.obj entries) =>
    match Details.get? entries (toString index) with
    | some (.obj entry) => some (readEntry command entry)
    | _ =>
      if index = command.stepIndex then some ⟨command.status, command.resultDetails, false⟩
      else if command.status.terminal then
        some ⟨command.status, [("node_action_not_started", .bool true), ("batched_step_not_reached", .bool true)],
          false⟩
      else if command.status != .leased then none
      else some ⟨command.status, [], false⟩
  | _ => some ⟨command.status, command.resultDetails, false⟩

/-- What a cancelled command proves about a step it has no finished entry for. -/
def cancelledStatus (command : RemoteActionCommand) (details : Details) : RemoteCommandStatus :=
  if details.flag "batched_step_not_reached" then .failed
  else
    match command.resultDetails.get? "post_cancellation_status" with
    | some (.str "SUCCEEDED") => .succeeded
    | some (.str "FAILED") => .failed
    | _ => if command.lastLeaseOwner.isNone && command.leaseOwner.isNone && details.isEmpty then .pending
      else .waiting

def cancellationSources : List String := ["workflow-timeout", "workflow-preempted", "completed-after-cancellation"]

/-- The record a command gives one of its steps. -/
def remoteStepExecution (command : MintedFrom) (index : Nat) (step : WorkflowStepSpec) :
    Option WorkflowStepExecution := do
  let reading ← readStep command.toRemoteActionCommand index
  let cancelled := command.status == .failed && command.statusSource.any cancellationSources.contains &&
    !reading.completedEntry
  let status := if cancelled then cancelledStatus command.toRemoteActionCommand reading.details else reading.status
  let details := pendingRemoteActionDetails step.operation status reading.details
  return {
    stepIndex := index
    operation := step.operation
    phase := some command.workflow.executionPhase
    status := match status with
      | .succeeded => .succeeded
      | .failed => .failed
      | _ => .waiting
    adapterOperationId := some ("remote/" ++ command.commandId)
    details := Details.merge details
      [("remote_command_id", .str command.commandId), ("remote_cluster_id", .str command.clusterId),
        ("remote_status", .str command.status.value), ("remote_fencing_token", .int command.fencingToken)]
    error := command.error
    startedAt := command.createdAt
    updatedAt := command.updatedAt }

/-! ### Reading the receipts back -/

/-- The receipts of one generation; one of another generation counts only while it is unresolved. -/
def remoteSnapshots (workflow : WorkflowRequest) (commands : List MintedFrom) : List WorkflowStepExecution :=
  commands.flatMap fun command =>
    (((command.stepIndex, command.step) :: command.batchedSteps.map fun item => (item.stepIndex, item.step)).filter
      fun (_, step) => step.operation.nodeMutating).filterMap fun (index, step) =>
        (remoteStepExecution command index step).filter fun snapshot =>
          command.fencingToken == workflow.fencingToken || unresolvedNodeAction snapshot

def newestSnapshot : List WorkflowStepExecution → Option WorkflowStepExecution
  | [] => none
  | snapshot :: rest =>
    some (rest.foldl (fun best item => if best.updatedAt < item.updatedAt then item else best) snapshot)

/-- The bounds a record keeps when a receipt replaces what it says. -/
def boundDetails : List String :=
  ["workflow_execution_deadline", "workflow_deadline_overdue_seconds",
    "workflow_deadline_remote_command_cancellation",
    "workflow_lifetime_exceeded", "step_waiting_timeout_seconds", "step_waiting_seconds", "step_waiting_slow"]

def refreshedRecord (previous snapshot : WorkflowStepExecution) (unresolved : List WorkflowStepExecution) :
    WorkflowStepExecution :=
  let kept : Details := previous.details.filter fun entry => boundDetails.contains entry.1
  let merged : Details := kept.merge snapshot.details
  let ids := unresolved.filterMap fun item => item.details.text? "remote_command_id"
  let ended := previous.status == .waiting && snapshot.status == .failed && unresolved.isEmpty
  { previous with
    adapterOperationId := snapshot.adapterOperationId
    details :=
      if unresolved.isEmpty then merged
      else merged.set "unresolved_remote_command_ids" (.arr ((sortedSet ids).map Json.str))
    status := if ended then snapshot.status else previous.status
    error := if ended then snapshot.error else previous.error }

/-- Read the receipts of one step back into the records. -/
def refreshStep (executions snapshots : List WorkflowStepExecution) : List WorkflowStepExecution :=
  let unresolved := snapshots.filter unresolvedNodeAction
  match newestSnapshot (if unresolved.isEmpty then snapshots else unresolved) with
  | none => executions
  | some snapshot =>
    let positions := (executions.zipIdx.filter fun (item, _) =>
      executionMatchesStep item snapshot.stepIndex snapshot.operation snapshot.phase).map Prod.snd
    match positions.getLast? with
    | none => if unresolved.isEmpty then executions else executions ++ [snapshot]
    | some position =>
      match executions[position]? with
      | none => executions
      | some previous =>
        if previous.status == .succeeded || (operatorConfirmation previous.details).isSome then
          if !unresolved.isEmpty && previous.adapterOperationId != snapshot.adapterOperationId then
            executions ++ [snapshot]
          else executions
        else executions.set position (refreshedRecord previous snapshot unresolved)

/-- Refresh the receipts of a row, never inferring that an action ended from the cancellation of its command. -/
def refreshRemoteActionState (commands : List MintedFrom) (workflow : WorkflowRequest) : WorkflowRequest :=
  let snapshots := remoteSnapshots workflow commands
  let identities := (snapshots.map WorkflowStepExecution.identity).eraseDups
  { workflow with
    stepExecutions := identities.foldl (fun executions identity =>
      refreshStep executions (snapshots.filter fun snapshot => snapshot.identity == identity))
        workflow.stepExecutions }

end GpuFaultRecovery
