import GpuFaultRecovery.PreemptionBoundary
import GpuFaultRecovery.StepRecord
import GpuFaultRecovery.RemoteEvidence

/-!
# Retiring steps

The rewrites by which the executor gives up steps that have not run: a job stopped from outside, a job-level failure
that waits for its siblings, a branch without a further rung, a hung diagnostic that goes on to its hand-off. Each of
them adds indexes to `supersededStepIndexes`; which steps it leaves alive differs from one to the next.
-/

namespace GpuFaultRecovery

/-- The row with `indexes` retired. -/
def retireSteps (workflow : WorkflowRequest) (indexes : List Nat) (now : Time) : WorkflowRequest :=
  { workflow with
    supersededStepIndexes := sortedSet (workflow.supersededStepIndexes ++ indexes)
    updatedAt := now }

def waitingStepIndexes (workflow : WorkflowRequest) : List Nat :=
  (workflow.stepExecutions.filter fun item => item.status == .waiting).map WorkflowStepExecution.stepIndex

/-! ### A job stopped from outside -/

def withdrawalReleaseCounterpart : WorkflowOperation → Option WorkflowOperation
  | .restoreScheduling => some .markUnschedulable
  | .restoreGpuServices => some .quiesceGpuServices
  | _ => none

/-- Whether a release is owed: its counterpart completed or is in flight on one of its nodes. -/
def releaseNeeded (workflow : WorkflowRequest) (steps : List WorkflowStepSpec) (step : WorkflowStepSpec) : Bool :=
  match withdrawalReleaseCounterpart step.operation with
  | none => false
  | some counterpart =>
    steps.zipIdx.any fun (other, index) =>
      (workflow.completedStepIndexes.contains index || (waitingStepIndexes workflow).contains index) &&
        other.operation == counterpart && other.nodeIds.any step.nodeIds.contains

/-- The steps a withdrawal retires: they have not started and release no node the row touched. -/
def withdrawnStepIndexes (workflow : WorkflowRequest) (steps : List WorkflowStepSpec) : List Nat :=
  (steps.zipIdx.filter fun (step, index) =>
    !workflow.resolvedStepIndexes.contains index && !(waitingStepIndexes workflow).contains index &&
      !releaseNeeded workflow steps step).map Prod.snd

/-- Wind a row down after its job was stopped. -/
def applyWorkloadWithdrawal (workflow : WorkflowRequest) (steps : List WorkflowStepSpec) (now : Time) :
    WorkflowRequest :=
  if (withdrawnStepIndexes workflow steps).isEmpty then workflow
  else retireSteps workflow (withdrawnStepIndexes workflow steps) now

/-! ### A job-level failure -/

/-- The steps a failed row still has in flight. -/
def siblingsInFlight (workflow : WorkflowRequest) (failureIndex : Nat) : List Nat :=
  let boundary := preemptionBoundary workflow none true
  (boundary.blocking ++ boundary.malformed).filter fun index => index != failureIndex

/-- The steps a deferred failure retires: neither in flight nor a restore the compensation will need. -/
def deferredStepIndexes (workflow : WorkflowRequest) (steps : List WorkflowStepSpec) (failureIndex : Nat) :
    List Nat :=
  (steps.zipIdx.filter fun (step, index) =>
    !workflow.resolvedStepIndexes.contains index && !(siblingsInFlight workflow failureIndex).contains index &&
      step.operation != .restoreGpuServices).map Prod.snd

/-- Park a failure until the siblings in flight settle; nothing if there is none. -/
def deferJobFailure (workflow : WorkflowRequest) (steps : List WorkflowStepSpec) (failureIndex : Nat)
    (outcome : StepOutcome) (now : Time) : Option WorkflowRequest :=
  if (siblingsInFlight workflow failureIndex).isEmpty then none
  else
    some { retireSteps workflow (deferredStepIndexes workflow steps failureIndex) now with
      pendingFailureStepIndex := workflow.pendingFailureStepIndex.orElse fun _ => some failureIndex
      pendingFailureError := (workflow.pendingFailureError.filter (· != "")).orElse fun _ =>
        some ((outcome.error.filter (· != "")).getD "workflow DAG step failed") }

/-! ### A branch without a further rung -/

def pendingBranchSteps (workflow : WorkflowRequest) (branchId : String) : List Nat :=
  (branchStepIndexes workflow branchId).filter fun index => !workflow.resolvedStepIndexes.contains index

def exhaustBranch (workflow : WorkflowRequest) (branchId : String) (now : Time) : WorkflowRequest :=
  let exhausted := (workflow.exhaustedBranchIds ++ [branchId]).eraseDups
  if (pendingBranchSteps workflow branchId).isEmpty && exhausted == workflow.exhaustedBranchIds then workflow
  else { retireSteps workflow (pendingBranchSteps workflow branchId) now with exhaustedBranchIds := exhausted }

/-! ### A hung diagnostic -/

/-- Every step that waits on the steps of the frontier, directly or through another. -/
def dependentSearch (steps : List WorkflowStepSpec) : Nat → List Nat → List Nat → List Nat
  | 0, _, found => found
  | _ + 1, [], found => found
  | fuel + 1, current :: frontier, found =>
    let waiting := (List.range steps.length).filter fun position =>
      !found.contains position && (stepDeps steps position).contains current
    dependentSearch steps fuel (waiting.reverse ++ frontier) (found ++ waiting)

/-- Every step that waits on step `index`; each is opened at most once. -/
def dependentStepIndexes (steps : List WorkflowStepSpec) (index : Nat) : List Nat :=
  dependentSearch steps (steps.length + 1) [index] []

def contractMode (step : WorkflowStepSpec) : Option Json :=
  match step.parameters.get? "health_recovery_contract" with
  | some (.obj contract) => Details.get? contract "mode"
  | _ => none

def hungDiagnosticOperation (operation : WorkflowOperation) : Bool :=
  [.freezeEvidence, .collectHungSummary, .collectHungTriage, .collectDiagnosticBundle, .validateFabric,
    .escalateSupport].contains operation

/-- The read-only hung DAG: hung evidence steps and a hand-off, nothing else. -/
def hungHandoffWorkflow (workflow : WorkflowRequest) : Bool :=
  let steps := workflow.officialSteps
  workflow.dagEnabled && !workflow.executesSafetySteps &&
    steps.any (fun step => step.operation == .collectHungTriage) &&
    steps.all (fun step => hungDiagnosticOperation step.operation) &&
    steps.any (fun step => step.operation == .escalateSupport) &&
    steps.all fun step => contractMode step == some (.str "HUNG_DIAGNOSTIC")

/-- The hand-offs a row still has to run. -/
def pendingHandoffs (workflow : WorkflowRequest) : List Nat :=
  (workflow.officialSteps.zipIdx.filter fun (step, position) =>
    step.operation == .escalateSupport && !workflow.resolvedStepIndexes.contains position).map Prod.snd

/-- The steps given up with a failed diagnostic step: what needs its output, or past the deadline all that has not
started, the hand-offs apart. -/
def handoffRetired (workflow : WorkflowRequest) (index : Nat) (outcome : StepOutcome) : List Nat :=
  let given :=
    if outcome.details.has "workflow_execution_deadline" then
      (List.range workflow.officialSteps.length).filter fun position =>
        !(waitingStepIndexes workflow).contains position
    else dependentStepIndexes workflow.officialSteps index
  given.filter fun position =>
    !workflow.resolvedStepIndexes.contains position && !(pendingHandoffs workflow).contains position &&
      position != index

/-- Go on to the hand-off after a diagnostic step failed. -/
def supportHandoff (workflow : WorkflowRequest) (index : Nat) (outcome : StepOutcome) (now : Time) :
    Option WorkflowRequest :=
  match workflow.officialSteps[index]? with
  | none => none
  | some step =>
    if !hungHandoffWorkflow workflow || workflow.pendingFailureStepIndex.isSome ||
        step.operation == .escalateSupport ||
        (pendingHandoffs workflow).isEmpty ||
          (outcome.details.get? "workflow_lifetime_exceeded").any Json.truthy then none
    else
      some { retireSteps workflow (handoffRetired workflow index outcome ++ [index]) now with
        terminalFailureReason := (workflow.terminalFailureReason.filter (· != "")).orElse fun _ =>
          some ((outcome.error.filter (· != "")).getD s!"step {index}/{step.operation.value} failed") }

/-! ### The next rung -/

/-- What the escalation policy makes of a failed branch step: a job-level failure, the end of the ladder, or a branch
for the next rung. A rung the cluster budget refuses is the end of the ladder. -/
inductive BranchVerdict where
  | jobLevel
  | exhausted
  | rung (candidate : WorkflowRequest)

/-- How a failed step is taken: as a job-level failure, by a rewritten row, or by an error that loses the pass. -/
inductive EscalationResult where
  | jobLevel
  | rewritten (workflow : WorkflowRequest)
  | raised

/-- The row a failed step escalates on: a flat plan of one node is first grown into a one-branch DAG. -/
def escalationRow (workflow : WorkflowRequest) (index : Nat) (now : Time) :
    Option (WorkflowRequest × WorkflowStepSpec) :=
  match workflow.officialSteps[index]? with
  | none => none
  | some step =>
    if step.nodeIds.length != 1 then none
    else if workflow.dagEnabled then some (workflow, step)
    else if workflow.officialSteps.any fun item => item.nodeIds.any fun node => !step.nodeIds.contains node then none
    else
      let adopted := adoptLinearPlan workflow now
      (adopted.officialSteps[index]?).map fun step => (adopted, step)

/-- Rewrite the row after the step at `index` failed. -/
def escalateBranch (workflow : WorkflowRequest) (index : Nat) (verdict : BranchVerdict) (now : Time) :
    EscalationResult :=
  match escalationRow workflow index now with
  | none => .jobLevel
  | some (row, step) =>
    match step.branchId with
    | none => .jobLevel
    | some branchId =>
      if branchId == "shared" || branchId == "join" then .jobLevel
      else
        match verdict with
        | .jobLevel => .jobLevel
        | .exhausted => .rewritten (exhaustBranch row branchId now)
        | .rung candidate =>
          match replaceParallelJobBranch row candidate (step.nodeIds.headD "") (some branchId) now with
          | .error _ => .raised
          | .ok replaced => .rewritten replaced

/-- The details that mark a failure the workflow made itself: no rung is planned for it. -/
def endedByWorkflow (outcome : StepOutcome) : Bool :=
  (outcome.details.text? "remote_status_source").any
      ["workflow-timeout", "workflow-preempted"].contains ||
    (outcome.details.get? "workflow_lifetime_exceeded").any Json.truthy

/-- Take a failed step: the hung hand-off first, then the branch ladder unless a failure is already parked. -/
def escalateFailedBranch (workflow : WorkflowRequest) (index : Nat) (outcome : StepOutcome) (verdict : BranchVerdict)
    (now : Time) : EscalationResult :=
  match supportHandoff workflow index outcome now with
  | some row => .rewritten row
  | none =>
    if workflow.pendingFailureStepIndex.isSome || endedByWorkflow outcome then .jobLevel
    else escalateBranch workflow index verdict now

/-- Whether a row that was rewritten goes on with a next rung. -/
def takesRung (workflow : WorkflowRequest) (index : Nat) (outcome : StepOutcome) (verdict : BranchVerdict)
    (now : Time) :
    Bool :=
  (supportHandoff workflow index outcome now).isNone && verdict matches .rung _

/-! ### What a failure leaves of the row -/

section Inversion

variable {row row' grown : WorkflowRequest} {step : WorkflowStepSpec} {index : Nat} {outcome : StepOutcome}
  {verdict : BranchVerdict} {now : Time}

theorem supportHandoff_eq_some (h : supportHandoff row index outcome now = some row') :
    index < row.officialSteps.length ∧
      ∃ reason, row' = { retireSteps row (handoffRetired row index outcome ++ [index]) now with
        terminalFailureReason := reason } := by
  unfold supportHandoff at h
  split at h
  · cases h
  · rename_i step hstep
    split at h
    · cases h
    · cases h
      exact ⟨(List.getElem?_eq_some_iff.mp hstep).1, _, rfl⟩

theorem escalationRow_eq_some (h : escalationRow row index now = some (grown, step)) :
    grown = row ∨ grown = adoptLinearPlan row now := by
  unfold escalationRow at h
  split at h
  · cases h
  · split at h
    · cases h
    · split at h
      · cases h
        exact .inl rfl
      · split at h
        · cases h
        · obtain ⟨_, -, he⟩ := Option.map_eq_some_iff.mp h
          exact .inr (congrArg Prod.fst he).symm

/-- A failure rewrites the row by the hand-off of a hung diagnostic, by ending a branch, or by its next rung. -/
theorem escalateFailedBranch_eq_rewritten (h : escalateFailedBranch row index outcome verdict now = .rewritten row') :
    supportHandoff row index outcome now = some row' ∨
      (supportHandoff row index outcome now = none ∧
        ∃ grown step branchId, escalationRow row index now = some (grown, step) ∧ step.branchId = some branchId ∧
          ((verdict = .exhausted ∧ row' = exhaustBranch grown branchId now) ∨
            ∃ candidate, verdict = .rung candidate ∧ (row' = grown ∨ ∃ predecessor replaced,
              replacementTarget grown (step.nodeIds.headD "") (some branchId) = some (predecessor, replaced) ∧
                appendParallelJobBranch grown candidate predecessor replaced now = .ok row'))) := by
  unfold escalateFailedBranch at h
  split at h
  · rename_i handed hhandoff
    cases h
    exact .inl hhandoff
  · rename_i hnone
    refine .inr ⟨hnone, ?_⟩
    split at h
    · cases h
    unfold escalateBranch at h
    split at h
    · cases h
    rename_i grown step hgrown
    split at h
    · cases h
    rename_i branchId hbranchId
    refine ⟨grown, step, branchId, hgrown, hbranchId, ?_⟩
    split at h
    · cases h
    cases verdict with
    | jobLevel => cases h
    | exhausted =>
      cases h
      exact .inl ⟨rfl, rfl⟩
    | rung candidate =>
      refine .inr ⟨candidate, rfl, ?_⟩
      dsimp only at h
      split at h
      · cases h
      rename_i replacedRow hreplace
      cases h
      unfold replaceParallelJobBranch at hreplace
      split at hreplace
      · cases hreplace
        exact .inl rfl
      · rename_i predecessor replaced htarget
        exact .inr ⟨predecessor, replaced, htarget, hreplace⟩

end Inversion

end GpuFaultRecovery
