import GpuFaultRecovery.RemoteCommandRun
import GpuFaultRecovery.RemoteEvidence
import GpuFaultRecovery.StepRecord

/-!
# Compound commands

A compound command carries the steps that follow its head. The executor that claims it runs the carried steps in
order, keeps one entry per finished step, posts each entry as progress and reports all of them at the end. Progress is
merged into the row, a report replaces the details of the row, and several places of the executor build a report: the
batched run itself, the admission check, the dispatch layer and the execution cap. `batchStep` lets any number of
claimed copies, with their messages in flight, run against the one store.
-/

namespace GpuFaultRecovery

open CommandStore

/-! ### What the control plane reads -/

/-- The per-step entries a record carries. -/
def entriesOf (details : Details) : Details :=
  match details.get? batchedResultsKey with
  | some (.obj entries) => entries
  | _ => []

/-- Whether `entry` says that its step succeeded. -/
def succeededEntry : Option Json → Bool
  | some (.obj entry) => entry.lookup "status" == some (.str RemoteCommandStatus.succeeded.value)
  | _ => false

def batchedResultEntry (command : RemoteActionCommand) (stepIndex : Nat) : Option Details :=
  match (entriesOf command.resultDetails).get? (toString stepIndex) with
  | some (.obj entry) => some entry
  | _ => none

def RemoteActionCommand.coveredStepIndexes (command : RemoteActionCommand) : List Nat :=
  command.stepIndex :: command.batchedSteps.map BatchedStep.stepIndex

/-- The `details` of an entry. -/
def entryDetails (entry : Details) : Details :=
  match entry.get? "details" with
  | some (.obj details) => details
  | _ => []

def failureText : Option Json → String
  | some (.str text) => if text = "" then "remote cluster action failed" else text
  | _ => "remote cluster action failed"

/-- The mark of who ended a step or a command, if anyone is named. -/
def sourceMark : Option Json → Details
  | some source => if source.truthy then [("remote_status_source", source)] else []
  | none => []

def waitingOutcome (command : RemoteActionCommand) (stepIndex : Nat) (entry : Option Details) : StepOutcome :=
  let step := ((command.batchedSteps.find? fun item => item.stepIndex == stepIndex).map BatchedStep.step).getD
    command.step
  let pending := match entry with
    | some entry => entryDetails entry
    | none => command.resultDetails
  { status := .waiting
    adapterOperationId := some ("remote/" ++ command.commandId)
    details := (pendingRemoteActionDetails step.operation command.status pending).merge
      [("remote_command_id", .str command.commandId), ("remote_cluster_id", .str command.clusterId),
        ("remote_status", .str command.status.value), ("batched_step_index", .int stepIndex),
        ("batched_step_indexes", .arr (command.coveredStepIndexes.map fun index => .int index)),
        ("mutation_submitted_by_control_plane", .bool false)] }

/-- The share of a command without a finished entry for the step: the head has the verdict of the command, and a
passenger of an ended command is not settled by it. -/
def unfinishedOutcome (command : RemoteActionCommand) (stepIndex : Nat) (entry : Option Details) :
    Option StepOutcome :=
  if !command.status.terminal then some (waitingOutcome command stepIndex entry)
  else if stepIndex ≠ command.stepIndex then none
  else if command.status = .succeeded then
    some { status := .succeeded, adapterOperationId := some ("remote/" ++ command.commandId),
           details := command.resultDetails }
  else
    some { status := .failed, error := some (failureText (command.error.map Json.str)),
           details := command.resultDetails.merge
             ((command.statusSource.map fun source => ("remote_status_source", Json.str source)).toList) }

def coveredStepOutcome (command : RemoteActionCommand) (stepIndex : Nat) : Option StepOutcome :=
  match batchedResultEntry command stepIndex with
  | none => unfinishedOutcome command stepIndex none
  | some entry =>
    if entry.get? "status" = some (.str RemoteCommandStatus.succeeded.value) then
      some { status := .succeeded, adapterOperationId := some ("remote/" ++ command.commandId),
             details := entryDetails entry }
    else if entry.get? "status" = some (.str RemoteCommandStatus.failed.value) then
      some { status := .failed, error := some (failureText (entry.get? "error")),
             details := (entryDetails entry).merge (sourceMark (entry.get? "status_source")) }
    else unfinishedOutcome command stepIndex (some entry)

/-! ### What the executor reports -/

/-- A verdict before it is posted: a result without the lease it is posted under. -/
structure StepResult where
  status : RemoteCommandStatus
  statusSource : Option String := none
  details : Details := []
  error : Option String := none
  reportable : status = .waiting ∨ status = .succeeded ∨ status = .failed

namespace StepResult

def waiting (statusSource : Option String) (details : Details) : StepResult :=
  { status := .waiting, statusSource, details, reportable := Or.inl rfl }

def succeeded (details : Details) : StepResult :=
  { status := .succeeded, details, reportable := Or.inr (Or.inl rfl) }

def failed (statusSource : Option String) (details : Details) (error : String) : StepResult :=
  { status := .failed, statusSource, details, error := some error, reportable := Or.inr (Or.inr rfl) }

def report (result : StepResult) (leaseToken : String) : RemoteCommandResult :=
  { leaseToken, status := result.status, statusSource := result.statusSource, details := result.details,
    error := result.error, reportable := result.reportable }

/-- The result as one entry of the record (`BatchedStepResult`). -/
def entry (result : StepResult) : Json :=
  .obj [("status", .str result.status.value), ("status_source", (result.statusSource.map Json.str).getD .null),
    ("details", .obj result.details), ("error", (result.error.map Json.str).getD .null)]

end StepResult

def Json.isObject : Json → Bool
  | .obj _ => true
  | _ => false

/-- The verdicts a previous claim left on the row. -/
def priorResults (command : RemoteActionCommand) : Details :=
  (entriesOf command.resultDetails).filter fun kv => kv.2.isObject

/-- How the next step of a compound command is judged. -/
inductive StepJudgement where
  | leaseHeld (reason : String)
  | preflightHeld (details : Details)
  | verdict (result : StepResult)

/-- What one turn of the loop leaves: the entries, the entry to post, and the steps to go or the final verdict. -/
structure BatchTurn where
  results : Details
  posted : List (String × Json)
  next : List (Nat × WorkflowStepSpec) ⊕ StepResult

/-- One turn of the loop of `execute_batched_command`: a step that already succeeded is skipped, and the first one
that does not succeed ends the run. -/
def executeBatchedTurn (command : RemoteActionCommand) (results : Details) (judgement : StepJudgement) :
    List (Nat × WorkflowStepSpec) → BatchTurn
  | [] =>
    ⟨results, [], .inr (.succeeded [(batchedResultsKey, .obj results),
      ("batched_step_indexes", .arr (command.coveredStepIndexes.map fun index => .int index))])⟩
  | (index, step) :: rest =>
    if succeededEntry (results.get? (toString index)) then ⟨results, [], .inl rest⟩
    else
      match judgement with
      | .leaseHeld reason =>
        ⟨results, [], .inr (.waiting (some "executor-stopped-between-batched-steps")
          [(batchedResultsKey, .obj results), ("batched_stopped_before_step_index", .int index),
            ("node_action_not_started", .bool true), ("reason", .str reason)])⟩
      | .preflightHeld details =>
        ⟨results, [], .inr (.waiting none
          ((details.set batchedResultsKey (.obj results)).set "batched_step_index" (.int index)))⟩
      | .verdict result =>
        let results := results.set (toString index) result.entry
        ⟨results, [(toString index, result.entry)],
          if result.status = .succeeded then .inl rest
          else .inr { result with
            details := ((result.details.set batchedResultsKey (.obj results)).set "batched_step_index"
              (.int index)).set "batched_operation" (.str step.operation.value) }⟩

/-- What stops a command in the dispatch layer, before its steps run. -/
inductive DispatchFailure where
  | barrierUnavailable (executorId : String)
  | retryableTransport (reason executorId exceptionType : String)
  | retryableAdapter (executorId exceptionType adapterError : String)
  | retryableControlPlane (statusCode : Nat) (reason executorId exceptionType : String)
  | rejected (error : String)
  | misconfigured (reason executorId exceptionType : String)
  | internalError (error executorId exceptionType : String)
deriving DecidableEq

namespace DispatchFailure

/-- Whether the failure ends the command rather than holding it. -/
def final : DispatchFailure → Bool
  | .rejected _ | .misconfigured .. | .internalError .. => true
  | _ => false

/-- The verdict on `command`: a hold keeps what the previous cycle recorded (`_hold_details`), a failure does not. -/
def result (command : RemoteActionCommand) : DispatchFailure → StepResult
  | .barrierUnavailable executorId =>
    .waiting (some "executor-barrier-unavailable") (command.resultDetails.merge
      [("multi_node_barrier_unavailable", .bool true), ("operation", .str command.step.operation.value),
        ("node_ids", .arr (command.step.nodeIds.map Json.str)),
        ("reason", .str (s!"{command.step.operation.value} across {command.step.nodeIds.length} nodes needs a " ++
          "multi-node barrier coordinator, and this regional executor has none (barrier state lives in the " ++
          "control-plane store); split the step per node or run it from a topology with a barrier coordinator")),
        ("executor_id", .str executorId)])
  | .retryableTransport reason executorId exceptionType =>
    .waiting (some "executor-retryable-transport") (command.resultDetails.merge
      [("retryable_transport_error", .bool true), ("reason", .str reason), ("executor_id", .str executorId),
        ("exception_type", .str exceptionType)])
  | .retryableAdapter executorId exceptionType adapterError =>
    .waiting (some "executor-retryable-adapter-error") (command.resultDetails.merge
      [("retryable_adapter_error", .bool true), ("reason", .str "RETRYABLE_ADAPTER_ERROR"),
        ("executor_id", .str executorId), ("exception_type", .str exceptionType),
        ("adapter_error", .str adapterError)])
  | .retryableControlPlane statusCode reason executorId exceptionType =>
    .waiting (some "executor-retryable-control-plane") (command.resultDetails.merge
      [("retryable_control_plane_error", .bool true), ("status_code", .int statusCode), ("reason", .str reason),
        ("executor_id", .str executorId), ("exception_type", .str exceptionType)])
  | .rejected error => .failed (some "executor-rejected") [] error
  | .misconfigured reason executorId exceptionType =>
    .failed (some "executor-configuration-error")
      [("configuration_error", .bool true), ("executor_id", .str executorId),
        ("exception_type", .str exceptionType)] reason
  | .internalError error executorId exceptionType =>
    .failed (some "executor-internal-error")
      [("executor_internal_error", .bool true), ("executor_id", .str executorId),
        ("exception_type", .str exceptionType)] error

end DispatchFailure

def WorkflowOperation.nodeAction : WorkflowOperation → Bool
  | .collectHungTriage | .collectHungSummary | .collectDiagnosticBundle | .runDcgmDiagnostic | .quiesceGpuServices
  | .verifyNoGpuClients | .triggerHealthSnapshot | .resetGpu | .restoreGpuServices | .recoverDrainP2p
  | .restartFabricManager | .remediateEfaDriver | .runFieldDiagnostic | .runNvlink74Workflow
  | .resetAllGpusNvswitches | .remediateDriver | .updateSoftwareFirmware | .collectorOutboxMaintenance => true
  | _ => false

/-- Whether giving up on `command` leaves state nobody can see. -/
def timeoutOutcomeIsUnknown (command : RemoteActionCommand) : Bool :=
  command.step.operation.nodeAction || command.step.operation.semantics.destructive ||
    [.escalateSupport, .freezeEvidence, .checkpointWorkloads].contains command.step.operation

/-- The verdict on a command the executor gave up waiting for, after `capMillis` milliseconds. -/
def executionTimeoutResult (command : RemoteActionCommand) (capMillis : Nat) : StepResult :=
  let unknown := timeoutOutcomeIsUnknown command
  let operation := command.step.operation.value
  let pointer := match command.resultDetails.get? "node_action_command_id" with
    | none | some .null => []
    | some pointer => [("node_action_command_id", pointer)]
  let doubt := if unknown then
      [("outcome_unknown", .bool true), ("manual_confirmation_required", .bool true),
        ("node_failures", .obj (command.step.nodeIds.map fun node =>
          (node, .arr [.str "execution timed out; outcome unknown"])))]
    else []
  .failed
    (some (if unknown then "executor-execution-timeout-outcome-unknown" else "executor-execution-timeout"))
    ([("execution_timeout", .bool true), ("execution_timeout_seconds", .dec capMillis 3),
      ("operation", .str operation)] ++ pointer ++ doubt)
    (s!"executor abandoned {operation} after {roundHalfEven capMillis 1000}s" ++
      if unknown then "; the outcome is unknown and the operation may still be running on the node"
      else "; the operation mutates no node state, so nothing is left running")

/-! ### One claimed copy -/

/-- Who built a verdict. -/
inductive Reporter where
  | admission
  | dispatchHold
  | dispatchFailure
  | adapter
  | batchedRun
  | executionTimeout
deriving DecidableEq

/-- Where the worker of a claimed copy stands; `running` has the steps to go. -/
inductive WorkerPhase where
  | admission
  | dispatching
  | running (remaining : List (Nat × WorkflowStepSpec))
  | finished

/-- A claimed copy in the executor that holds it: the row as claimed, the entries so far, the progress posts made and
the verdict, once there is one. -/
structure Session where
  claimed : RemoteActionCommand
  phase : WorkerPhase := .admission
  results : Details
  outbox : List (String × Json) := []
  verdict : Option (Reporter × StepResult) := none

inductive SessionEvent where
  | cancelledBeforeStart (reason : String)
  | releasedOnShutdown
  | admitted
  | dispatchFailed (failure : DispatchFailure)
  | adapterOutcome (result : StepResult)
  | batchStarted
  | judged (judgement : StepJudgement)
  | executionTimeout (capMillis : Nat)

namespace Session

def start (claimed : RemoteActionCommand) : Session := { claimed, results := priorResults claimed }

/-- The first verdict is the one that is reported: a late one is discarded. -/
def conclude (s : Session) (reporter : Reporter) (result : StepResult) : Session :=
  { s with verdict := s.verdict.or (some (reporter, result)) }

def finish (s : Session) (reporter : Reporter) (result : StepResult) : Session :=
  { s.conclude reporter result with phase := .finished }

def afterTurn (s : Session) (turn : BatchTurn) : Session :=
  let s := { s with results := turn.results, outbox := s.outbox ++ turn.posted }
  match turn.next with
  | .inl rest => { s with phase := .running rest }
  | .inr result => s.finish .batchedRun result

/-- What an event does to the session; one that does not fit its phase does nothing. The execution cap leaves the
worker where it is: its thread cannot be stopped. -/
def next (s : Session) (event : SessionEvent) : Session :=
  match s.phase, event with
  | .admission, .cancelledBeforeStart reason =>
    s.finish .admission (.waiting (some "executor-cancelled-before-start") (s.claimed.resultDetails.merge
      [("node_action_not_started", .bool true), ("cancelled_before_start", .bool true),
        ("cancellation_reason", .str reason)]))
  | .admission, .releasedOnShutdown =>
    s.finish .admission (.waiting (some "executor-released-on-shutdown") s.claimed.resultDetails)
  | .admission, .admitted => { s with phase := .dispatching }
  | .dispatching, .dispatchFailed failure =>
    s.finish (if failure.final then .dispatchFailure else .dispatchHold) (failure.result s.claimed)
  | .dispatching, .adapterOutcome result =>
    if s.claimed.batchedSteps.isEmpty then s.finish .adapter result else s
  | .dispatching, .batchStarted =>
    if s.claimed.batchedSteps.isEmpty then s else { s with phase := .running s.claimed.carriedSteps }
  | .running remaining, .judged judgement =>
    s.afterTurn (executeBatchedTurn s.claimed s.results judgement remaining)
  | .dispatching, .executionTimeout capMillis =>
    s.conclude .executionTimeout (executionTimeoutResult s.claimed capMillis)
  | .running _, .executionTimeout capMillis =>
    s.conclude .executionTimeout (executionTimeoutResult s.claimed capMillis)
  | _, _ => s

end Session

end GpuFaultRecovery
