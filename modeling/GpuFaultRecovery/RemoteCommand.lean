import Mathlib.Data.List.Sort
import GpuFaultRecovery.Models
import GpuFaultRecovery.Table

/-!
# The remote command store

A remote command is one step of a workflow handed to an executor in another cluster. The store keeps one row per
command; executors claim rows under a lease, renew the lease, report progress and complete, while the control plane
cancels, sweeps and cleans up. Each operation below reads the tables and its own clock and either fails, leaving the
store as it was, or returns the store it writes.
-/

namespace GpuFaultRecovery

inductive RemoteCommandStatus where
  | pending
  | leased
  | waiting
  | succeeded
  | failed
deriving Repr, DecidableEq, Inhabited

namespace RemoteCommandStatus

def value : RemoteCommandStatus → String
  | .pending => "PENDING"
  | .leased => "LEASED"
  | .waiting => "WAITING"
  | .succeeded => "SUCCEEDED"
  | .failed => "FAILED"

def terminal : RemoteCommandStatus → Bool
  | .succeeded | .failed => true
  | _ => false

end RemoteCommandStatus

/-- One step that rides along with the head step of a compound command. -/
structure BatchedStep where
  stepIndex : Nat
  step : WorkflowStepSpec
  idempotencyKey : String
deriving Repr, DecidableEq, Inhabited

structure RemoteActionCommand where
  commandId : String
  clusterId : String
  workflowRequestId : String
  stepIndex : Nat := 0
  fencingToken : Nat
  idempotencyKey : String := ""
  step : WorkflowStepSpec
  batchedSteps : List BatchedStep := []
  status : RemoteCommandStatus := .pending
  leaseOwner : Option String := none
  lastLeaseOwner : Option String := none
  leaseToken : Option String := none
  leaseExpiresAt : Option Time := none
  cancellationRequestedAt : Option Time := none
  cancellationReason : Option String := none
  resultDetails : Details := []
  error : Option String := none
  statusSource : Option String := none
  createdAt : Time := 0
  updatedAt : Time := 0
deriving Repr, DecidableEq, Inhabited

/-- What an executor reports: the model refuses every status but these three. -/
structure RemoteCommandResult where
  leaseToken : String
  status : RemoteCommandStatus
  statusSource : Option String := none
  details : Details := []
  error : Option String := none
  reportable : status = .waiting ∨ status = .succeeded ∨ status = .failed

/-- A command as the dispatcher builds it: every field of the lease and of the outcome at its default. -/
structure MintedCommand where
  command : RemoteActionCommand
  status_eq : command.status = .pending
  leaseOwner_eq : command.leaseOwner = none
  leaseToken_eq : command.leaseToken = none
  leaseExpiresAt_eq : command.leaseExpiresAt = none
  cancellationRequestedAt_eq : command.cancellationRequestedAt = none

inductive StoreError where
  | notFound (what : String)
  | workflowLease (what : String)
  | value (what : String)
deriving Repr, DecidableEq

/-- The two tables the operations touch. -/
structure CommandStore where
  commands : Table RemoteActionCommand.commandId
  workflows : Table WorkflowRequest.requestId

namespace CommandStore

def empty : CommandStore := ⟨.empty, .empty⟩

end CommandStore

/-! ### Helpers of the operations -/

def activationForbiddenParameter : String := "activation_forbidden"

def activationInhibitionProtocolVersion : Nat := 4

def RemoteActionCommand.carriedSteps (command : RemoteActionCommand) : List (Nat × WorkflowStepSpec) :=
  (command.stepIndex, command.step) :: command.batchedSteps.map fun item => (item.stepIndex, item.step)

/-- Presence of the inhibition parameter, malformed values included, is part of a command's identity. -/
def activationInhibitionIdentity (command : RemoteActionCommand) : List (Nat × Json) :=
  command.carriedSteps.filterMap fun (index, step) =>
    (step.parameters.get? activationForbiddenParameter).map fun value => (index, value)

/-- An older executor never receives authority it cannot interpret. -/
def commandProtocolEligible (command : RemoteActionCommand) (executorProtocolVersion : Nat) : Bool :=
  let inhibited := command.carriedSteps.any fun (_, step) => step.parameters.has activationForbiddenParameter
  !inhibited || activationInhibitionProtocolVersion ≤ executorProtocolVersion

/-- What two writes under one command id have to agree on. -/
structure RemoteCommandIdentity where
  clusterId : String
  workflowRequestId : String
  stepIndex : Nat
  fencingToken : Nat
  idempotencyKey : String
  operation : WorkflowOperation
  executionOwner : String
  nodeIds : List String
  gpuUuids : List String
  workloadIds : List String
  inhibition : List (Nat × Json)
deriving DecidableEq

def remoteCommandIdentity (command : RemoteActionCommand) : RemoteCommandIdentity where
  clusterId := command.clusterId
  workflowRequestId := command.workflowRequestId
  stepIndex := command.stepIndex
  fencingToken := command.fencingToken
  idempotencyKey := command.idempotencyKey
  operation := command.step.operation
  executionOwner := command.step.executionOwner
  nodeIds := command.step.nodeIds
  gpuUuids := command.step.gpuUuids
  workloadIds := command.step.workloadIds
  inhibition := activationInhibitionIdentity command

/-- The order `sorted` uses on commands: creation time, then id. -/
def RemoteActionCommand.createdBefore (a b : RemoteActionCommand) : Prop :=
  a.createdAt < b.createdAt ∨ (a.createdAt = b.createdAt ∧ a.commandId ≤ b.commandId)

instance : DecidableRel RemoteActionCommand.createdBefore :=
  fun a b => inferInstanceAs (Decidable (a.createdAt < b.createdAt ∨ (a.createdAt = b.createdAt ∧ _)))

/-- The order of the retention sweep: last update, then id. -/
def RemoteActionCommand.updatedBefore (a b : RemoteActionCommand) : Prop :=
  a.updatedAt < b.updatedAt ∨ (a.updatedAt = b.updatedAt ∧ a.commandId ≤ b.commandId)

instance : DecidableRel RemoteActionCommand.updatedBefore :=
  fun a b => inferInstanceAs (Decidable (a.updatedAt < b.updatedAt ∨ (a.updatedAt = b.updatedAt ∧ _)))

/-- `lease_deadline`: `seconds` from the reading `clock`. -/
def leaseDeadline (clock : Time) (seconds : Nat) : Time := clock + seconds * 1000000

/-- Python's `a or b` on an optional text: the empty text is false. -/
def textOr (a : Option String) (b : Option String) : Option String :=
  match a with
  | some s => if s = "" then b else some s
  | none => b

/-- `n / d` rounded to the nearest integer, ties to the even one. -/
def roundHalfEven (n : Int) (d : Nat) : Int :=
  let q := n / d
  let r := n % d
  if 2 * r < d then q else if d < 2 * r then q + 1 else if q % 2 = 0 then q else q + 1

/-- Whether `command` was minted under a generation its workflow has left. -/
def staleFence (command : RemoteActionCommand) (workflow : Option WorkflowRequest) : Bool :=
  match workflow with
  | none => false
  | some w => w.fencingToken != command.fencingToken

def staleFenceReason (command : RemoteActionCommand) (workflow : WorkflowRequest) : String :=
  s!"workflow {command.workflowRequestId} moved to generation {workflow.fencingToken}; " ++
    s!"this command belongs to generation {command.fencingToken}"

def staleLeaseText : String := "remote command lease is missing, stale, or changed"

/-- Whether a late result belongs to another lease than the one issued. -/
def foreignResult (command : RemoteActionCommand) : Option RemoteCommandResult → Bool
  | none => false
  | some r => command.status != .leased || command.leaseToken != some r.leaseToken || command.leaseExpiresAt.isNone

/-- The details of a stale-fenced command: the reported ones, if any, and the mark of the sweep. -/
def staleFenceDetails (command : RemoteActionCommand) (result : Option RemoteCommandResult) (swept : Bool) :
    Details :=
  let details := match result with
    | none => command.resultDetails
    | some r => r.details.merge
        [("post_stale_fence_status", .str r.status.value),
         ("post_stale_fence_error", (r.error.map Json.str).getD .null)]
  if swept then details.set "stale_fence_swept" (.bool true) else details

/-- The FAILED row a stale-fenced command settles into; a late result must belong to the issued lease. -/
def staleFenceUpdate (command : RemoteActionCommand) (workflow : WorkflowRequest) (now : Time)
    (result : Option RemoteCommandResult) (swept : Bool) : Except StoreError RemoteActionCommand :=
  if foreignResult command result then .error (.workflowLease staleLeaseText)
  else
    .ok { command with
      status := .failed
      error := textOr command.cancellationReason (some (staleFenceReason command workflow))
      statusSource := some "stale-fence"
      resultDetails := staleFenceDetails command result swept
      lastLeaseOwner := textOr command.leaseOwner command.lastLeaseOwner
      leaseOwner := none
      leaseToken := none
      leaseExpiresAt := none
      updatedAt := now }

def batchedResultsKey : String := "batched_results"

/-- `resultDetails` with `batchedResults` merged over its existing per-step entries. -/
def mergedBatchedResults (resultDetails batchedResults : Details) : Details :=
  let existing := match resultDetails.get? batchedResultsKey with
    | some (.obj fields) => fields
    | _ => []
  resultDetails.set batchedResultsKey (.obj (Details.merge existing batchedResults))

/-- The FAILED row of a command nobody claimed in time. -/
def unclaimedExpiryUpdate (command : RemoteActionCommand) (now : Time) : RemoteActionCommand :=
  let age := max 0 (now - command.createdAt)
  { command with
    status := .failed
    statusSource := some "unclaimed-deadline-exceeded"
    error :=
      some (s!"no cluster executor claimed this command within {roundHalfEven age 1000000}s; execution_owner=" ++
      s!"{command.step.executionOwner} is not advertised by any executor in this cluster")
    resultDetails := command.resultDetails.merge
      [("unclaimed_age_seconds", .dec (roundHalfEven age 1000) 3),
       ("unclaimed_execution_owner", .str command.step.executionOwner)]
    leaseOwner := none
    leaseToken := none
    leaseExpiresAt := none
    updatedAt := now }

/-- The FAILED row of an open command that no executor holds. -/
def cancelledUpdate (command : RemoteActionCommand) (reason source : String) (now : Time) : RemoteActionCommand :=
  { command with
    status := .failed
    error := some reason
    statusSource := some source
    leaseOwner := none
    leaseToken := none
    leaseExpiresAt := none
    updatedAt := now }

/-- The mark a leased command carries until its executor reports. -/
def cancellationRequestedUpdate (command : RemoteActionCommand) (reason : String) (now : Time) :
    RemoteActionCommand :=
  { command with cancellationRequestedAt := some now, cancellationReason := some reason, updatedAt := now }

/-- The row a workflow-wide cancellation writes for `command`, if it writes one. -/
def workflowCancellation (command : RemoteActionCommand) (reason : String) (now : Time) :
    Option RemoteActionCommand :=
  match command.status with
  | .pending | .waiting => some (cancelledUpdate command reason "workflow-timeout" now)
  | .leased =>
    if command.cancellationRequestedAt.isNone then some (cancellationRequestedUpdate command reason now) else none
  | _ => none

/-! ### Operations -/

namespace CommandStore

/-- The workflow row that owns `command`. -/
def owner (st : CommandStore) (command : RemoteActionCommand) : Option WorkflowRequest :=
  st.workflows.get? command.workflowRequestId

def sortedCommands (st : CommandStore) : List RemoteActionCommand :=
  st.commands.rows.insertionSort RemoteActionCommand.createdBefore

def ensureRemoteCommand (st : CommandStore) (command : RemoteActionCommand) :
    Except StoreError (CommandStore × RemoteActionCommand) :=
  match st.commands.get? command.commandId with
  | some existing =>
    if remoteCommandIdentity existing ≠ remoteCommandIdentity command then
      .error (.value "remote command identity conflict")
    else .ok (st, existing)
  | none => .ok ({ st with commands := st.commands.put command }, command)

/-- The row an executor names, checked against its cluster. -/
def clusterCommand (st : CommandStore) (clusterId commandId : String) : Except StoreError RemoteActionCommand :=
  match st.commands.get? commandId with
  | none => .error (.notFound s!"{clusterId}/{commandId}")
  | some command =>
    if command.clusterId ≠ clusterId then .error (.notFound s!"{clusterId}/{commandId}") else .ok command

/-- Whether the row carries a lease that ended by `t`. -/
def leaseLapsed (command : RemoteActionCommand) (t : Time) : Bool :=
  match command.leaseExpiresAt with
  | none => false
  | some expires => decide (expires ≤ t)

/-- Whether `executorId` holds a live lease under `leaseToken`. -/
def holdsLease (command : RemoteActionCommand) (executorId leaseToken : String) (now : Time) : Bool :=
  command.status == .leased && command.leaseOwner == some executorId && command.leaseToken == some leaseToken &&
    command.leaseExpiresAt.isSome && !leaseLapsed command now

def recordRemoteCommandProgress (st : CommandStore) (clusterId commandId executorId leaseToken : String)
    (batchedResults : Details) (now : Time) : Except StoreError (CommandStore × RemoteActionCommand) := do
  let command ← st.clusterCommand clusterId commandId
  if !holdsLease command executorId leaseToken now then
    .error (.workflowLease "remote command lease is stale")
  else
    let command := { command with
      resultDetails := mergedBatchedResults command.resultDetails batchedResults, updatedAt := now }
    .ok ({ st with commands := st.commands.put command }, command)

/-- The open backlog of one cluster, without the commands asked to stop. -/
def openRemoteCommandCandidates (st : CommandStore) (clusterId : String) : List RemoteActionCommand :=
  st.commands.rows.filter fun item =>
    item.clusterId == clusterId && !item.status.terminal && item.cancellationRequestedAt.isNone

structure ClaimRequest where
  clusterId : String
  executorId : String
  limit : Nat
  leaseSeconds : Nat
  executionOwners : Option (List String) := none
  acceptBatchedSteps : Bool := true
  executorProtocolVersion : Nat := 1

/-- What the claim draws while it leases one command: a random token and a reading of the clock. -/
structure LeaseGrant where
  token : String
  clock : Time

def claimable (st : CommandStore) (req : ClaimRequest) (now : Time) (command : RemoteActionCommand) : Bool :=
  let expired := command.status == .leased && leaseLapsed command now
  !staleFence command (st.owner command) &&
    !(command.clusterId != req.clusterId ||
      (match req.executionOwners with
        | none => false
        | some owners => !owners.contains command.step.executionOwner) ||
      (!req.acceptBatchedSteps && !command.batchedSteps.isEmpty) ||
      !commandProtocolEligible command req.executorProtocolVersion ||
      (!(command.status == .pending || command.status == .waiting) && !expired))

def leasedUpdate (req : ClaimRequest) (now : Time) (grant : LeaseGrant) (command : RemoteActionCommand) :
    RemoteActionCommand :=
  { command with
    status := .leased
    leaseOwner := some req.executorId
    leaseToken := some grant.token
    leaseExpiresAt := some (leaseDeadline grant.clock req.leaseSeconds)
    updatedAt := now }

/-- The claim loop: it stops once `limit` commands are leased. -/
def claimLoop (claim : RemoteActionCommand → Bool) (lease : RemoteActionCommand → RemoteActionCommand) (limit : Nat) :
    List RemoteActionCommand → List RemoteActionCommand → List RemoteActionCommand
  | [], claimed => claimed
  | command :: rest, claimed =>
    if !claim command then claimLoop claim lease limit rest claimed
    else if limit ≤ (claimed ++ [lease command]).length then claimed ++ [lease command]
    else claimLoop claim lease limit rest (claimed ++ [lease command])

def claimedCommands (st : CommandStore) (req : ClaimRequest) (now : Time) (grants : String → LeaseGrant) :
    List RemoteActionCommand :=
  claimLoop (st.claimable req now) (fun command => leasedUpdate req now (grants command.commandId) command) req.limit
    ((st.openRemoteCommandCandidates req.clusterId).insertionSort RemoteActionCommand.createdBefore) []

def claimRemoteCommands (st : CommandStore) (req : ClaimRequest) (now : Time) (grants : String → LeaseGrant) :
    CommandStore × List RemoteActionCommand :=
  let claimed := st.claimedCommands req now grants
  ({ st with commands := st.commands.putAll claimed }, claimed)

def expireUnclaimedRemoteCommands (st : CommandStore) (olderThan : Time) (limit : Nat) (now : Time) :
    CommandStore × Nat :=
  let stale := (st.sortedCommands.filter fun item =>
    item.status == .pending && decide (item.createdAt ≤ olderThan)).take limit
  ({ st with commands := st.commands.putAll (stale.map (unclaimedExpiryUpdate · now)) }, stale.length)

/-- The row the stale-fence sweep writes for a command: its lease lapsed under a generation that is gone. -/
def sweptUpdate (st : CommandStore) (leaseExpiredBefore now : Time) (command : RemoteActionCommand) :
    Option RemoteActionCommand :=
  match st.owner command with
  | none => none
  | some workflow =>
    if command.status == .leased && leaseLapsed command leaseExpiredBefore && staleFence command (some workflow) then
      (staleFenceUpdate command workflow now none true).toOption
    else none

def expireStaleFencedRemoteCommands (st : CommandStore) (leaseExpiredBefore : Time) (limit : Nat) (now : Time) :
    CommandStore × Nat :=
  let stale := (st.sortedCommands.filterMap (st.sweptUpdate leaseExpiredBefore now)).take limit
  ({ st with commands := st.commands.putAll stale }, stale.length)

/-- The row a renewal writes: a renewal under a stale fence also tells the executor to stop. -/
def renewedUpdate (command : RemoteActionCommand) (workflow : Option WorkflowRequest) (deadline now : Time) :
    RemoteActionCommand :=
  let renewed := { command with leaseExpiresAt := some deadline, updatedAt := now }
  match workflow with
  | none => renewed
  | some w =>
    if staleFence command (some w) && command.cancellationRequestedAt.isNone then
      { renewed with
        cancellationRequestedAt := some now
        cancellationReason := some (staleFenceReason command w) }
    else renewed

def renewRemoteCommandLease (st : CommandStore) (clusterId commandId executorId leaseToken : String)
    (leaseSeconds : Nat) (now clock : Time) : Except StoreError (CommandStore × RemoteActionCommand) := do
  let command ← st.clusterCommand clusterId commandId
  if !holdsLease command executorId leaseToken now then
    .error (.workflowLease "remote command lease is stale")
  else
    let command := renewedUpdate command (st.owner command) (leaseDeadline clock leaseSeconds) now
    .ok ({ st with commands := st.commands.put command }, command)

def cleanupTerminalRemoteCommands (st : CommandStore) (olderThan : Time) (limit : Nat) : CommandStore × Nat :=
  let commandIds := (((st.commands.rows.insertionSort RemoteActionCommand.updatedBefore).filter fun item =>
    item.status.terminal && decide (item.updatedAt ≤ olderThan)).map RemoteActionCommand.commandId).take limit
  ({ st with commands := st.commands.removeAll commandIds }, commandIds.length)

/-- Whether a result may settle the row: an expired lease still may once a cancellation was asked for. -/
def completable (command : RemoteActionCommand) (result : RemoteCommandResult) (now : Time) : Bool :=
  command.status == .leased && command.leaseToken == some result.leaseToken && command.leaseExpiresAt.isSome &&
    !(leaseLapsed command now && command.cancellationRequestedAt.isNone)

/-- The row a completion under the current lease writes. -/
def completedUpdate (command : RemoteActionCommand) (result : RemoteCommandResult) (now : Time) :
    RemoteActionCommand :=
  let cancelled := command.cancellationRequestedAt.isSome
  { command with
    status := if cancelled then .failed else result.status
    resultDetails :=
      if cancelled then
        result.details.merge
          [("post_cancellation_status", .str result.status.value),
           ("post_cancellation_error", (result.error.map Json.str).getD .null)]
      else result.details
    error := if cancelled then command.cancellationReason else result.error
    statusSource := if cancelled then some "completed-after-cancellation" else result.statusSource
    lastLeaseOwner := command.leaseOwner
    leaseOwner := none
    leaseToken := none
    leaseExpiresAt := none
    updatedAt := now }

/-- The row a completion writes over an open command: a fenced one ends FAILED, else the result decides. -/
def settledUpdate (command : RemoteActionCommand) (workflow : Option WorkflowRequest) (result : RemoteCommandResult)
    (now : Time) : Except StoreError RemoteActionCommand :=
  match workflow with
  | some w =>
    if staleFence command (some w) then staleFenceUpdate command w now (some result) false
    else if completable command result now then .ok (completedUpdate command result now)
    else .error (.workflowLease staleLeaseText)
  | none =>
    if completable command result now then .ok (completedUpdate command result now)
    else .error (.workflowLease staleLeaseText)

def completeRemoteCommand (st : CommandStore) (clusterId commandId : String) (result : RemoteCommandResult)
    (now : Time) : Except StoreError (CommandStore × RemoteActionCommand) := do
  let command ← st.clusterCommand clusterId commandId
  if command.status.terminal then .ok (st, command)
  else
    let settled ← settledUpdate command (st.owner command) result now
    .ok ({ st with commands := st.commands.put settled }, settled)

def cancelRemoteCommandsForWorkflow (st : CommandStore) (workflowRequestId reason : String) (now : Time) :
    CommandStore :=
  let updates := (st.commands.rows.filter fun item => item.workflowRequestId == workflowRequestId).filterMap
    (workflowCancellation · reason now)
  { st with commands := st.commands.putAll updates }

def cancelRemoteCommand (st : CommandStore) (commandId reason : String) (now : Time) : CommandStore × Bool :=
  match st.commands.get? commandId with
  | none => (st, false)
  | some command =>
    if command.status == .pending || command.status == .waiting then
      ({ st with commands := st.commands.put (cancelledUpdate command reason "workflow-preempted" now) }, true)
    else (st, false)

/-- Cancel the commands a terminal workflow left open, if the caller's copy of the row is current. The row itself is
amended with the audit event in the same transaction. -/
def cancelOrphanedRemoteCommands (st : CommandStore) (workflow : WorkflowRequest) (actor : String)
    (now clock : Time) : CommandStore × List String :=
  match st.workflows.get? workflow.requestId with
  | none => (st, [])
  | some current =>
    if !current.status.terminal || current ≠ workflow then (st, [])
    else
      let reason := s!"{actor} reconciliation: cancelled remote commands orphaned by " ++
        s!"{current.status.value} workflow {current.requestId}"
      let records := (st.sortedCommands.filter fun item => item.workflowRequestId == current.requestId).filterMap
        (workflowCancellation · reason now)
      if records.isEmpty then (st, [])
      else
        ({ workflows := st.workflows.put
             { current with mergeRevision := current.mergeRevision + 1, updatedAt := clock }
           commands := st.commands.putAll records },
         (records.map RemoteActionCommand.commandId).insertionSort (· ≤ ·))

end CommandStore

end GpuFaultRecovery
