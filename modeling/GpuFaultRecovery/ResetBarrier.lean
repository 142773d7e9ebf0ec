import GpuFaultRecovery.ActionLedger
import GpuFaultRecovery.EscalationEvidence
import GpuFaultRecovery.GpuScope
import GpuFaultRecovery.StepRecord
import GpuFaultRecovery.Run

/-!
# The barrier of a multi-node reset

A reset that spans several nodes runs in two phases over a stored barrier: every node is first asked whether it still
has GPU clients, and only once all of them are recorded as prepared is the reset itself sent. A pass works on what it
read when it began, may stop after any answer, and is resumed from the barrier.
-/

namespace GpuFaultRecovery

/-! ### The barrier -/

inductive BarrierState where
  | preparing
  | prepared
  | committing
  | committed
  | aborted
  | failed
deriving Repr, DecidableEq

def BarrierState.value : BarrierState → String
  | .preparing => "PREPARING"
  | .prepared => "PREPARED"
  | .committing => "COMMITTING"
  | .committed => "COMMITTED"
  | .aborted => "ABORTED"
  | .failed => "FAILED"

inductive ParticipantState where
  | pending
  | prepared
  | committed
  | failed
deriving Repr, DecidableEq

structure BarrierParticipant where
  nodeId : String
  agentGeneration : Nat
  state : ParticipantState := .pending
  prepareDetails : Details := []
  commitDetails : Details := []
  error : Option String := none
deriving Repr, DecidableEq

/-- What a barrier id is bound to, beside its nodes. -/
structure BarrierContract where
  clusterId : String
  workflowRequestId : String
  incidentId : String
  fencingToken : Nat
  operation : WorkflowOperation
deriving Repr, DecidableEq

structure MultiNodeBarrier where
  barrierId : String
  contract : BarrierContract
  state : BarrierState
  participants : List BarrierParticipant
deriving Repr, DecidableEq

abbrev Generations := List (String × Nat)

def sortedByNode (generations : Generations) : Generations := generations.insertionSort fun a b => a.1 ≤ b.1

namespace MultiNodeBarrier

def fresh (barrierId : String) (contract : BarrierContract) (generations : Generations) : MultiNodeBarrier :=
  { barrierId, contract
    state := .preparing
    participants := (sortedByNode generations).map fun entry => { nodeId := entry.1, agentGeneration := entry.2 } }

variable (barrier : MultiNodeBarrier)

def nodeIds : List String := barrier.participants.map BarrierParticipant.nodeId

def bindsTo (contract : BarrierContract) (generations : Generations) : Bool :=
  barrier.contract == contract &&
    barrier.nodeIds.insertionSort (· ≤ ·) == (generations.map Prod.fst).insertionSort (· ≤ ·)

/-- `_update_participant`. -/
def updateParticipant (nodeId : String) (update : BarrierParticipant → BarrierParticipant) :
    List BarrierParticipant :=
  barrier.participants.map fun item => if item.nodeId = nodeId then update item else item

/-- Whether every participant is in `state`; a barrier has some. -/
def allIn (participants : List BarrierParticipant) (state : ParticipantState) : Bool :=
  !participants.isEmpty && participants.all fun item => item.state == state

def anyFailed (participants : List BarrierParticipant) : Bool := participants.any fun item => item.state == .failed

/-- The state of a barrier after a record of the first phase. -/
def prepareState (participants : List BarrierParticipant) : BarrierState :=
  if anyFailed participants then .aborted else if allIn participants .prepared then .prepared else .preparing

/-- The state of a barrier after a record of the second phase. -/
def commitState (participants : List BarrierParticipant) : BarrierState :=
  if anyFailed participants then .failed else if allIn participants .committed then .committed else .committing

/-- What `record_prepare` saves, if the barrier is still in its first phase. -/
def recordPrepare (nodeId : String) (details : Details) (error : Option String) : Option MultiNodeBarrier :=
  let participants := barrier.updateParticipant nodeId fun item =>
    { item with
      state := if error.isSome then .failed else .prepared
      prepareDetails := details
      error }
  if barrier.state = .preparing ∨ barrier.state = .prepared then
    some { barrier with
      participants
      state := prepareState participants }
  else none

/-- What `record_commit` saves, if the barrier is in its second phase. -/
def recordCommit (nodeId : String) (details : Details) (error : Option String) : Option MultiNodeBarrier :=
  let participants := barrier.updateParticipant nodeId fun item =>
    { item with
      state := if error.isSome then .failed else .committed
      commitDetails := details
      error }
  if barrier.state = .committing ∨ barrier.state = .failed then
    some { barrier with
      participants
      state := commitState participants }
  else none

/-- `abort`, from any state. -/
def abort (reason : String) : MultiNodeBarrier :=
  { barrier with
    participants := barrier.participants.map fun item => { item with error := item.error.orElse fun _ => some reason }
    state := .aborted }

/-- `begin_commit`, on a prepared barrier: the agents must be those that were asked. -/
def beginCommit (generations : Generations) : MultiNodeBarrier :=
  if sortedByNode (barrier.participants.map fun item => (item.nodeId, item.agentGeneration)) =
    sortedByNode generations then
    { barrier with
      state := .committing }
  else barrier.abort "agent generation changed after PREPARE"

end MultiNodeBarrier

/-! ### Answers of a node -/

/-- What sending an action comes back with: the node's result, or the outcome of the transport. -/
inductive NodeAnswer where
  | result (status : NodeActionStatus) (error : Option String) (details : Details)
  | outcome (error : Option String) (details : Details)
deriving Repr, DecidableEq

/-- `value or default`. -/
def orText (value : Option String) (default : String) : String := (value.filter fun text => text != "").getD default

/-- `normalize_legacy_reset_failure`: older agents say that a reset is uncertain in its progress or its error. -/
def normalizedResetDetails (operation : WorkflowOperation) (status : NodeActionStatus) (error : Option String)
    (details : Details) : Details :=
  if status != .failed || !(operation == .resetGpu || operation == .resetAllGpusNvswitches) ||
      unknownOutcomeFailure details then details
  else
    let raw := (details.get? "reset_outcome_unknown").getD (.arr [])
    let progress := match raw with
      | .arr items => if items.all fun item => match item with
        | .str text => text != "" | _ => false then some items else none
      | _ => none
    let tagged := "ResetOutcomeUnknown: ".toList.isPrefixOf ((error.getD "").toList)
    match progress with
    | some [] => if tagged then marked details "legacy-exception-tag" else details
    | some _ => marked details "per-gpu-progress"
    | none => marked details "invalid-progress"
where
  marked (details : Details) (how : String) : Details :=
    ((details.set "outcome_unknown" (.bool true)).set "manual_confirmation_required" (.bool true)).set
      "reset_outcome_compatibility" (.str how)

def NodeAnswer.evidence (answer : NodeAnswer) (operation : WorkflowOperation) : Details :=
  match answer with
  | .result status error details =>
    let details := normalizedResetDetails operation status error details
    if status = .interrupted then details.set "node_action_interrupted" (.bool true) else details
  | .outcome _ details => details

def NodeAnswer.error : NodeAnswer → Option String
  | .result _ error _ => error
  | .outcome error _ => error

/-- How a pass takes an answer. -/
inductive BarrierVerdict where
  | refused (details : Details) (error : String)
  | unknown (details : Details) (error : String)
  | failed (error : String)
  | succeeded (details : Details)
deriving Repr, DecidableEq

/-- `_record_unknown_barrier_result`, and the branches after it. `what` names the phase in the default errors. -/
def barrierVerdict (answer : NodeAnswer) (operation : WorkflowOperation) (what : String) : BarrierVerdict :=
  let details := answer.evidence operation
  if nodeActionRefusedBeforeActing details then
    .refused details (orText answer.error "node action refused before acting")
  else if unknownOutcomeFailure details then
    .unknown (details.set "manual_confirmation_required" (.bool true))
      (orText answer.error "node action outcome is unknown")
  else
    match answer with
    | .outcome error _ => .failed (orText error (what ++ " request failed"))
    | .result .failed error _ => .failed (orText error (what ++ " failed"))
    | .result _ _ details => .succeeded details

/-! ### Outcomes of a pass -/

/-- Whether the outcome of some action on the participant was recorded as unknown. -/
def BarrierParticipant.outcomeUnknown (item : BarrierParticipant) : Bool :=
  unknownOutcomeFailure item.prepareDetails || unknownOutcomeFailure item.commitDetails

namespace MultiNodeBarrier

variable (barrier : MultiNodeBarrier)

/-- `_barrier_error`. -/
def errorText : String :=
  "barrier " ++ barrier.barrierId ++ " " ++ barrier.state.value ++ ": " ++
    "; ".intercalate (barrier.participants.filterMap fun item => item.error.map fun error => item.nodeId ++
      ": " ++ error)

def committedNodes : List BarrierParticipant := barrier.participants.filter fun item => item.state == .committed

def identityDetails : Details := [("barrier_id", .str barrier.barrierId), ("barrier_state", .str barrier.state.value)]

def nodeResults (items : List BarrierParticipant) : Json :=
  .obj (items.map fun item => (item.nodeId, .obj item.commitDetails))

/-- The details a barrier adds to a failure on some of its nodes. -/
def failureDetails (failures : List (String × String)) (failureEvidence : List (String × Details)) : Details :=
  [("failed_nodes", .arr ((sortedSet (failures.map Prod.fst)).map Json.str)),
    ("node_failures", .obj (failures.map fun entry => (entry.1, .arr [.str entry.2]))),
    ("node_failure_details", .obj (failureEvidence.map fun entry => (entry.1, .obj entry.2))),
    ("node_results", nodeResults barrier.committedNodes),
    ("completed_nodes", .arr ((sortedSet (barrier.committedNodes.map BarrierParticipant.nodeId)).map Json.str))]

/-- `_manual_barrier_failure`; `current` is the answer a pass has just recorded. -/
def manualFailure (current : Option (String × String × Details)) : Option StepOutcome :=
  let unknown := barrier.participants.filter BarrierParticipant.outcomeUnknown
  let evidence (item : BarrierParticipant) : Details :=
    if unknownOutcomeFailure item.commitDetails then item.commitDetails else item.prepareDetails
  let own (item : BarrierParticipant) : Option (String × String × Details) :=
    current.filter fun entry => entry.1 == item.nodeId
  let added := current.toList.filter fun entry => !(unknown.map BarrierParticipant.nodeId).contains entry.1
  let failures := (unknown.map fun item =>
      (item.nodeId, ((own item).map fun entry => entry.2.1).getD
        (orText item.error "node action outcome is unknown"))) ++
    added.map fun entry => (entry.1, entry.2.1)
  let failureEvidence := (unknown.map fun item =>
      (item.nodeId, ((own item).map fun entry => entry.2.2).getD (evidence item))) ++
    added.map fun entry => (entry.1, entry.2.2)
  if failures.isEmpty then none
  else
    some
      { status := .failed
        error := some ("barrier " ++ barrier.barrierId ++ " requires manual confirmation")
        details := barrier.identityDetails ++ [("manual_confirmation_required", .bool true)] ++
          barrier.failureDetails failures failureEvidence }

/-- `_refused_barrier_failure`. -/
def refusedFailure (nodeId error : String) (details : Details) : StepOutcome :=
  { status := .failed
    error := some ("barrier " ++ barrier.barrierId ++ " refused by node agent " ++ nodeId ++ ": " ++ error)
    details := Details.merge details (barrier.identityDetails ++
      barrier.failureDetails [(nodeId, "node action refused before acting: " ++ error)] [(nodeId, details)]) }

/-- What the first phase reports once it has asked everyone it could. -/
def prepareOutcome : StepOutcome :=
  if barrier.state = .aborted then { status := .failed, error := some barrier.errorText }
  else
    { status := .waiting
      adapterOperationId := some barrier.barrierId
      details := barrier.identityDetails ++ [("prepared_nodes",
        .arr ((barrier.participants.filter fun item => item.state == .prepared).map fun item => .str item.nodeId))] }

/-- What the second phase reports: another attempt if only busy clients stood in the way. -/
def commitOutcome (attempt verifyMaxAttempts : Nat) : StepOutcome :=
  let failed := barrier.participants.filter fun item => item.state == .failed
  let busy (item : BarrierParticipant) : Bool :=
    item.error.any fun error => (error.splitOn "clients are still active").length != 1
  if !failed.isEmpty && attempt < verifyMaxAttempts && failed.all busy then
    { status := .waiting
      adapterOperationId := some barrier.barrierId
      details := barrier.identityDetails ++ [("gpu_reset_commit_attempt", .int attempt),
        ("waiting_nodes", .arr (failed.map fun item => .str item.nodeId)),
        ("reasons", .obj (failed.map fun item => (item.nodeId, (item.error.map Json.str).getD .null)))] }
  else if barrier.state ≠ .committed then { status := .failed, error := some barrier.errorText }
  else
    { status := .succeeded
      adapterOperationId := some barrier.barrierId
      details := barrier.identityDetails ++ [("node_results", nodeResults barrier.participants)] }

end MultiNodeBarrier

/-- The GPUs a step names for each of its nodes, or the error of the first it names none for. -/
def resetGpuMapping (parameters : Details) (nodeIds : List String) : Except String (List (String × List String)) :=
  match parameters.get? "gpu_uuids_by_node" with
  | some (.obj raw) => nodeIds.mapM fun nodeId =>
    match explicitGpuList (Details.get? raw nodeId) with
    | some gpuUuids => .ok (nodeId, gpuUuids)
    | none => .error ("missing explicit GPU UUIDs for " ++ nodeId)
  | _ => .error "multi-node GPU reset requires parameters.gpu_uuids_by_node"

/-! ### Passes -/

structure SentAction where
  nodeId : String
  operation : WorkflowOperation
  gpuUuids : List String
  commandSuffix : String
  agentGeneration : Nat
deriving Repr, DecidableEq

/-- What a pass is about to do: ask the participant, record its answer, and go on with the rest of what it read. -/
structure ResetPass where
  mapping : List (String × List String)
  /-- The attempt of the second phase; `none` in the first. -/
  attempt : Option Nat
  participant : BarrierParticipant
  remaining : List BarrierParticipant
  answer : Option NodeAnswer := none
deriving Repr, DecidableEq

/-- The saves of the barrier, the newest first, the pass under way, and what was sent and reported. -/
structure ResetRun where
  saves : List MultiNodeBarrier := []
  pass : Option ResetPass := none
  sent : List SentAction := []
  reports : List StepOutcome := []

/-- What starts a pass over the step: its parameters, the agents as they are now, and the attempt its record
allows. -/
structure ResetStart where
  barrierId : String
  contract : BarrierContract
  nodeIds : List String
  parameters : Details
  generations : Generations
  attempt : Nat := 1
deriving Repr, DecidableEq

inductive ResetEvent where
  | start (request : ResetStart)
  | gateFails (reason : String)
  | send (answer : NodeAnswer)
  | record
  | stop

namespace ResetRun

variable (s : ResetRun)

def save (barrier : MultiNodeBarrier) : ResetRun := { s with saves := barrier :: s.saves }

def report (outcome : StepOutcome) : ResetRun :=
  { s with
    pass := none
    reports := outcome :: s.reports }

def failure (error : String) : ResetRun := s.report { status := .failed, error := some error }

/-- Go on with the next participant that has not been asked, unless the barrier is aborted. -/
def askNext (barrier : MultiNodeBarrier) (mapping : List (String × List String))
    (remaining : List BarrierParticipant) :
    ResetRun :=
  match remaining.dropWhile fun item => item.state != .pending with
  | [] => s.report barrier.prepareOutcome
  | participant :: rest =>
    if barrier.state = .aborted then s.report barrier.prepareOutcome
    else
      { s with
        pass := some
          { mapping
            attempt := none
            participant
            remaining := rest } }

/-- Go on with the next participant that was not reset when the pass began. -/
def resetNext (barrier : MultiNodeBarrier) (verifyMaxAttempts attempt : Nat) (mapping : List (String × List String))
    (remaining : List BarrierParticipant) : ResetRun :=
  match remaining.dropWhile fun item => item.state == .committed with
  | [] => s.report (barrier.commitOutcome attempt verifyMaxAttempts)
  | participant :: rest =>
    { s with
      pass := some
        { mapping
          attempt := some attempt
          participant
          remaining := rest } }

/-- Take up a barrier where it stands. -/
def resume (verifyMaxAttempts : Nat) (request : ResetStart) (mapping : List (String × List String))
    (barrier : MultiNodeBarrier) : ResetRun :=
  match barrier.manualFailure none with
  | some outcome => s.report outcome
  | none =>
    match barrier.state with
    | .preparing => s.askNext barrier mapping barrier.participants
    | .prepared =>
      let next := barrier.beginCommit request.generations
      if next.state = .aborted then (s.save next).failure next.errorText
      else (s.save next).resetNext next verifyMaxAttempts request.attempt mapping next.participants
    | .aborted => s.failure barrier.errorText
    | .committed =>
      s.report
        { status := .succeeded
          adapterOperationId := some barrier.barrierId
          details := barrier.identityDetails }
    | .committing => s.resetNext barrier verifyMaxAttempts request.attempt mapping barrier.participants
    | .failed => s.resetNext barrier verifyMaxAttempts request.attempt mapping barrier.participants

/-- `_execute_multi_node_reset` up to its first send. -/
def start (verifyMaxAttempts : Nat) (request : ResetStart) : ResetRun :=
  match resetGpuMapping request.parameters request.nodeIds with
  | .error error => s.failure error
  | .ok mapping =>
    match s.saves with
    | [] =>
      let barrier := MultiNodeBarrier.fresh request.barrierId request.contract request.generations
      (s.save barrier).resume verifyMaxAttempts request mapping barrier
    | barrier :: _ =>
      if barrier.bindsTo request.contract request.generations then s.resume verifyMaxAttempts request mapping barrier
      else s.failure "ValueError: barrier id is already bound to a different contract"

def recorded (barrier : MultiNodeBarrier) (saved : Option MultiNodeBarrier)
    (goOn : ResetRun → MultiNodeBarrier → ResetRun) : ResetRun :=
  match saved with
  | some next => goOn (s.save next) next
  | none => goOn s barrier

/-- Record what an answer says, and go on unless it ends the pass. -/
def takeVerdict (barrier : MultiNodeBarrier) (nodeId : String) (verdict : BarrierVerdict)
    (record : Details → Option String → Option MultiNodeBarrier) (goOn : ResetRun → MultiNodeBarrier → ResetRun) :
    ResetRun :=
  match verdict with
  | .refused details error =>
    s.recorded barrier (record details (some error)) fun s next => s.report (next.refusedFailure nodeId error details)
  | .unknown details error =>
    s.recorded barrier (record details (some error)) fun s next =>
      s.report ((next.manualFailure (some (nodeId, error, details))).getD default)
  | .failed error => s.recorded barrier (record [] (some error)) goOn
  | .succeeded details => s.recorded barrier (record details none) goOn

def recordAnswer (verifyMaxAttempts : Nat) (pass : ResetPass) (answer : NodeAnswer) (barrier : MultiNodeBarrier) :
    ResetRun :=
  let nodeId := pass.participant.nodeId
  match pass.attempt with
  | none =>
    s.takeVerdict barrier nodeId (barrierVerdict answer .verifyNoGpuClients "prepare") (barrier.recordPrepare nodeId)
      fun s next => s.askNext next pass.mapping pass.remaining
  | some attempt =>
    s.takeVerdict barrier nodeId (barrierVerdict answer barrier.contract.operation "commit")
      (barrier.recordCommit nodeId)
      fun s next => s.resetNext next verifyMaxAttempts attempt pass.mapping pass.remaining

end ResetRun

def ResetPass.action (pass : ResetPass) (operation : WorkflowOperation) : SentAction :=
  { nodeId := pass.participant.nodeId
    operation := if pass.attempt.isSome then operation else .verifyNoGpuClients
    gpuUuids := (pass.mapping.lookup pass.participant.nodeId).getD []
    commandSuffix :=
      match pass.attempt with
      | none => "barrier/prepare/" ++ pass.participant.nodeId
      | some attempt => "barrier/commit/" ++ pass.participant.nodeId ++ "/attempt-" ++ toString attempt
    agentGeneration := pass.participant.agentGeneration }

/-- One event. There is one pass at a time, over a step that resets several nodes. -/
def barrierStep (verifyMaxAttempts : Nat) (s : ResetRun) : ResetEvent → ResetRun
  | .start request =>
    if s.pass.isNone && (request.contract.operation == .resetGpu ||
      request.contract.operation == .resetAllGpusNvswitches)
        && decide (request.generations.map Prod.fst).Nodup then s.start verifyMaxAttempts request
    else s
  -- the fleet gate in front of a pass
  | .gateFails reason =>
    if s.pass.isSome then s
    else
      match s.saves with
      | [] => s.failure reason
      | barrier :: _ => (s.save (barrier.abort reason)).failure reason
  | .send answer =>
    match s.pass, s.saves with
    | some pass, barrier :: _ =>
      if pass.answer.isSome then s
      else
        { s with
          pass := some { pass with answer := some answer }
          sent := pass.action barrier.contract.operation :: s.sent }
    | _, _ => s
  | .record =>
    match s.pass, s.saves with
    | some pass, barrier :: _ =>
      match pass.answer with
      | some answer => s.recordAnswer verifyMaxAttempts pass answer barrier
      | none => s
    | _, _ => s
  | .stop => { s with pass := none }

end GpuFaultRecovery
