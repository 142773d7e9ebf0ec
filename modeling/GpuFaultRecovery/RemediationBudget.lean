import GpuFaultRecovery.NodeAction
import GpuFaultRecovery.Table

/-!
# Remediation budgets

A workflow holds its budget scopes from its admission until it ends, or, parked BLOCKED, until nothing it started can
still be running. When a stronger workflow supersedes it, its hold is reserved for that successor until the successor
claims. `budgetOccupancy` counts the holders of a scope from the rows alone; admission checks it before a row starts.
-/

namespace GpuFaultRecovery

abbrev WorkflowTable := Table WorkflowRequest.requestId

/-! ### Occupancy -/

def WorkflowStatus.waiting : WorkflowStatus → Bool
  | .pending | .safetyPending => true
  | _ => false

/-- Whether the hold of `predecessor` is reserved for `successor` right now. -/
def reservedFor (predecessor successor : WorkflowRequest) : Bool :=
  predecessor.status == .superseded && predecessor.preemptedByWorkflowId == some successor.requestId &&
    successor.preemptPredecessor && successor.predecessorWorkflowId == some predecessor.requestId &&
    successor.status.waiting

/-- The record's own node actions that may still be running. -/
def parkedNodeActions (workflow : WorkflowRequest) : List WorkflowStepExecution :=
  (latestNodeActionExecutions workflow).filter fun execution =>
    unresolvedNodeAction execution ||
      (execution.status == .waiting && (operatorConfirmation execution.details).isNone)

/-- Whether a BLOCKED record still holds its claims. -/
def heldWhileBlocked (workflow : WorkflowRequest) : Bool :=
  workflow.status == .blocked && workflowIsOpen workflow.status workflow.blockedKind &&
    !(parkedNodeActions workflow).isEmpty

/-- The successor a reservation is for, if `row` holds its claims only through one. -/
def reservation (rows : WorkflowTable) (row : WorkflowRequest) : Option WorkflowRequest :=
  match rows.get? (row.preemptedByWorkflowId.getD "") with
  | none => none
  | some successor => if reservedFor row successor then some successor else none

/-- Whether the claims of `row` count. -/
def holdsBudget (rows : WorkflowTable) (row : WorkflowRequest) : Bool :=
  !row.remediationBudgetClaims.isEmpty &&
    (row.status == .running || heldWhileBlocked row || (reservation rows row).isSome)

/-- Whether `claimant` is the holder itself, or the successor its hold is reserved for. -/
def countedFor (rows : WorkflowTable) (claimant : String) (row : WorkflowRequest) : Bool :=
  row.requestId == claimant ||
    (!(row.status == .running || heldWhileBlocked row) &&
      (reservation rows row).any fun successor => successor.requestId == claimant)

/-- The holders of `scope`. -/
def budgetOccupancy (rows : WorkflowTable) (scope : String) : Nat :=
  rows.rows.countP fun row => holdsBudget rows row && row.remediationBudgetClaims.contains scope

/-- The holders of `scope`, leaving out the hold of `claimant` and the one reserved for it. -/
def budgetOccupancyExcept (rows : WorkflowTable) (claimant scope : String) : Nat :=
  rows.rows.countP fun row =>
    holdsBudget rows row && !countedFor rows claimant row && row.remediationBudgetClaims.contains scope

/-! ### Admission -/

inductive BudgetError where
  | notFound (requestId : String)
  | staleFencingToken
  | workflowLease (what : String)
  | remediationBudget (reason scope : String)
deriving Repr, DecidableEq

/-- The scopes a claim names: no empty scope and no limit of zero. -/
def normalizedClaims (claims : List (String × Nat)) : List (String × Nat) :=
  claims.filter fun claim => claim.1 != "" && decide (0 < claim.2)

def budgetFullReason (scope : String) (active limit : Nat) : String :=
  s!"remediation concurrency budget is full: scope={scope} active={active} limit={limit}"

/-- Admit `workflow` for `claims` against the holders already counted, or refuse the first full scope. -/
def admitAgainstOccupancy (workflow : WorkflowRequest) (occupancy : String → Nat) (claims : List (String × Nat)) :
    Except BudgetError WorkflowRequest :=
  let normalized := normalizedClaims claims
  match (normalized.insertionSort fun a b => a.1 ≤ b.1).find? fun claim => decide (claim.2 ≤ occupancy claim.1) with
  | some (scope, limit) => .error (.remediationBudget (budgetFullReason scope (occupancy scope) limit) scope)
  | none =>
    .ok { workflow with
      remediationBudgetClaims := sortedSet (normalized.map Prod.fst)
      remediationBudgetLimits := normalized
      remediationBudgetLastBlockedReason := none
      remediationBudgetLastBlockedScope := none }

/-- Add `claims` to the scopes a workflow already holds. -/
def extendAgainstOccupancy (workflow : WorkflowRequest) (occupancy : String → Nat) (claims : List (String × Nat)) :
    Except BudgetError WorkflowRequest :=
  match admitAgainstOccupancy workflow occupancy claims with
  | .error e => .error e
  | .ok extended =>
    .ok { workflow with
      remediationBudgetClaims :=
        sortedSet (workflow.remediationBudgetClaims ++ extended.remediationBudgetClaims)
      remediationBudgetLimits :=
        workflow.remediationBudgetLimits.filter (fun limit =>
          !(extended.remediationBudgetLimits.map Prod.fst).contains limit.1) ++ extended.remediationBudgetLimits }

/-- The row a refused claim leaves: no owner, one more wait. -/
def refusedClaim (workflow : WorkflowRequest) (reason scope : String) (now : Time) : WorkflowRequest :=
  { workflow with
    executionOwnerId := none
    executionLeaseExpiresAt := none
    remediationBudgetWaitCount := workflow.remediationBudgetWaitCount + 1
    remediationBudgetLastBlockedReason := some reason
    remediationBudgetLastBlockedScope := if scope = "" then none else some scope
    updatedAt := now }

/-- Whether the row carries a lease that is live at `now`. -/
def leaseActive (workflow : WorkflowRequest) (now : Time) : Bool :=
  match workflow.executionLeaseExpiresAt with
  | none => false
  | some expires => decide (now < expires)

/-- The claimed row: this executor's lease, a new epoch unless it renews its own, RUNNING once budgeted. -/
def leasedClaim (workflow : WorkflowRequest) (executorId : String) (claimedAt : Time) (leaseDuration : Int)
    (active budgeted : Bool) : WorkflowRequest :=
  let newEpoch := workflow.executionOwnerId != some executorId || !active
  { workflow with
    executionOwnerId := some executorId
    executionEpoch := if newEpoch then workflow.executionEpoch + 1 else max workflow.executionEpoch 1
    executionLeaseExpiresAt := some (claimedAt + leaseDuration)
    status := if budgeted then .running else workflow.status }

/-- What a claim asks for. `storm` is the refusal of the cluster's storm breaker, when it is open. -/
structure WorkflowClaim where
  requestId : String
  executorId : String
  fencingToken : Nat
  now : Time
  leaseDuration : Int
  budgetClaims : Option (List (String × Nat))
  storm : Option (String × String) := none

/-- The budget part of a claim: admission, then the storm breaker. -/
def applyRemediationBudget (rows : WorkflowTable) (workflow : WorkflowRequest) (claims : List (String × Nat))
    (storm : Option (String × String)) : Except BudgetError WorkflowRequest :=
  match admitAgainstOccupancy workflow (budgetOccupancyExcept rows workflow.requestId) claims with
  | .error e => .error e
  | .ok admitted =>
    match storm with
    | none => .ok admitted
    | some (reason, scope) => .error (.remediationBudget reason scope)

/-- A claim that never holds: the rows it writes, and the claimed row or the refusal. -/
def claimWorkflow (rows : WorkflowTable) (claim : WorkflowClaim) :
    WorkflowTable × Except BudgetError WorkflowRequest :=
  match rows.get? claim.requestId with
  | none => (rows, .error (.notFound claim.requestId))
  | some workflow =>
    if workflow.fencingToken ≠ claim.fencingToken then (rows, .error .staleFencingToken)
    else
      let active := leaseActive workflow claim.now
      if workflow.executionOwnerId.isSome && workflow.executionOwnerId != some claim.executorId && active then
        (rows, .error (.workflowLease "workflow is leased by another executor"))
      else
        match claim.budgetClaims with
        | none =>
          let claimed := leasedClaim workflow claim.executorId claim.now claim.leaseDuration active false
          (rows.put claimed, .ok claimed)
        | some claims =>
          match applyRemediationBudget rows workflow claims claim.storm with
          | .error (.remediationBudget reason scope) =>
            (rows.put (refusedClaim workflow reason scope claim.now), .error (.remediationBudget reason scope))
          | .error e => (rows, .error e)
          | .ok admitted =>
            let claimed := leasedClaim admitted claim.executorId claim.now claim.leaseDuration active true
            (rows.put claimed, .ok claimed)

/-- Whether `executorId` holds the row's lease at `now`. -/
def holdsExecutionLease (workflow : WorkflowRequest) (executorId : String) (now : Time) : Bool :=
  workflow.executionOwnerId == some executorId && leaseActive workflow now

def extendRemediationBudget (rows : WorkflowTable) (requestId executorId : String) (claims : List (String × Nat))
    (now : Time) : Except BudgetError (WorkflowTable × WorkflowRequest) :=
  match rows.get? requestId with
  | none => .error (.notFound requestId)
  | some workflow =>
    if !holdsExecutionLease workflow executorId now then
      .error (.workflowLease "workflow execution lease is stale")
    else
      match extendAgainstOccupancy workflow (budgetOccupancyExcept rows workflow.requestId) claims with
      | .error e => .error e
      | .ok extended => .ok (rows.put extended, extended)

/-! ### The writes of an executor -/

def budgetWorkBegun (workflow : WorkflowRequest) (steps : List WorkflowStepSpec) : Bool :=
  workflow.pendingFailureStepIndex.isSome ||
    (steps.zipIdx.any fun (step, index) =>
      workflow.completedStepIndexes.contains index && !workflow.inheritedStepIndexes.contains index &&
        step.operation.budgeted) ||
    workflow.stepExecutions.any fun execution =>
      !workflow.inheritedStepIndexes.contains execution.stepIndex && execution.operation.budgeted

/-- The status an internal-error release hands a row back in. -/
def releasedStatus (scanned current : WorkflowRequest) : WorkflowStatus :=
  let steps := if scanned.executesSafetySteps then current.safetySteps else current.officialSteps
  if current.status == .running && budgetWorkBegun current steps then .running
  else if scanned.status.executable then scanned.status
  else current.status

def releasedAfterInternalError (scanned current : WorkflowRequest) (now : Time) (backoff : Int) : WorkflowRequest :=
  { current with
    status := releasedStatus scanned current
    executionOwnerId := none
    executionLeaseExpiresAt := none
    notBefore := some (now + backoff)
    updatedAt := now }

/-- Hand the row back after an error that is not the record's fault: an unowned row is leased first, a row of another
owner or an ended one is left alone. -/
def releaseAfterInternalError (rows : WorkflowTable) (scanned : WorkflowRequest) (executorId : String)
    (now : Time) (backoff : Int) : WorkflowTable :=
  match rows.get? scanned.requestId with
  | none => rows
  | some current =>
    if current.executionOwnerId.isSome && current.executionOwnerId != some executorId then rows
    else if !current.status.executable then rows
    else
      let current :=
        if current.executionOwnerId.isNone then
          leasedClaim current executorId now 30000000 (leaseActive current now) false
        else current
      -- the leased save goes through only while the lease is live
      if holdsExecutionLease current executorId now then
        rows.put (releasedAfterInternalError scanned current now backoff)
      else rows.put current

/-- What the terminal funnel writes on a row an executor holds. -/
structure RowEnding where
  status : WorkflowStatus
  blockedKind : Option BlockedKind := none
  stepExecutions : List WorkflowStepExecution
  now : Time
deriving Repr

def endRow (workflow : WorkflowRequest) (write : RowEnding) : WorkflowRequest :=
  { workflow with
    status := write.status
    blockedKind := write.blockedKind.orElse fun _ => workflow.blockedKind
    stepExecutions := write.stepExecutions
    executionOwnerId := none
    executionLeaseExpiresAt := none
    updatedAt := write.now }

/-- The row a supersession leaves: its hold, if any, is kept for the successor. -/
def supersedeRow (workflow : WorkflowRequest) (successorId : String) (reason : Option String) (now : Time) :
    WorkflowRequest :=
  { workflow with
    status := .superseded
    preemptedByWorkflowId := some successorId
    preemptionReason := reason
    supersededAt := some now
    executionOwnerId := none
    executionLeaseExpiresAt := none
    updatedAt := now }

/-- The order of the successors of a row: creation time, then id. -/
def successorBefore (a b : WorkflowRequest) : Prop :=
  a.createdAt < b.createdAt ∨ (a.createdAt = b.createdAt ∧ a.requestId ≤ b.requestId)

instance : DecidableRel successorBefore :=
  fun a b => inferInstanceAs (Decidable (a.createdAt < b.createdAt ∨ (a.createdAt = b.createdAt ∧ _)))

/-- The first waiting row that preempts `predecessorId`. -/
def getPreemptingSuccessor (rows : WorkflowTable) (predecessorId : String) : Option WorkflowRequest :=
  ((rows.rows.filter fun workflow => workflow.predecessorWorkflowId == some predecessorId &&
    workflow.preemptPredecessor && workflow.status.waiting).insertionSort successorBefore).head?

end GpuFaultRecovery
