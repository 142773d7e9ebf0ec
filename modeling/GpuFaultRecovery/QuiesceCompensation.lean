import GpuFaultRecovery.TerminalState
import GpuFaultRecovery.StepRecord
import GpuFaultRecovery.Run

/-!
# Restoring quiesced nodes before a failure lands

A failure that lands over a quiesce nobody restored runs one restore first: the first RESTORE_GPU_SERVICES of the plan
that is still pending, or one appended for everything owed. Whatever that restore answers, the failure lands; so every
owed node had its attempt exactly when that one restore names every owed node.
-/

namespace GpuFaultRecovery

/-! ### What is owed -/

/-- The nodes a step's details list under `key`. -/
def detailNodes (details : Details) (key : String) : List String :=
  ((details.get? key).map Json.strings).getD []

/-- The nodes whose quiesce taint a row applied and has not recorded removing. -/
def quiesceTaintNodesHeld (workflow : WorkflowRequest) : List String :=
  let held := (workflow.stepExecutions.filter fun execution => execution.operation == .quiesceGpuServices).flatMap
    fun execution => detailNodes execution.details "quiesce_taint_nodes"
  let removed := workflow.stepExecutions.flatMap fun execution =>
    detailNodes execution.details "quiesce_taint_removed_nodes"
  held.filter fun node => !removed.contains node

/-- The operations that end a quiesce by restarting or replacing the node. -/
def quiesceSettling (operation : WorkflowOperation) : Bool :=
  operation == .restartNode || operation == .replaceNode || operation == .restartVm

/-- A quiesce step and the nodes it still owes their services. -/
structure UnrestoredQuiesce where
  index : Nat
  step : WorkflowStepSpec
  nodes : List String
deriving Repr, DecidableEq

/-- The nodes completed restores and settling steps behind `index` cover. -/
def restoredNodes (workflow : WorkflowRequest) (steps : List WorkflowStepSpec) (index : Nat) : List String :=
  (steps.zipIdx.filter fun (restore, restoreIndex) =>
    decide (index < restoreIndex) && workflow.completedStepIndexes.contains restoreIndex &&
      (restore.operation == .restoreGpuServices || quiesceSettling restore.operation)).flatMap fun (restore, _) =>
        restore.nodeIds

/-- The nodes a quiesce stopped: all of its own once it completed, else the ones it tainted. -/
def quiescedNodes (workflow : WorkflowRequest) (quiesce : WorkflowStepSpec) (index : Nat) : List String :=
  if workflow.completedStepIndexes.contains index then quiesce.nodeIds
  else (quiesceTaintNodesHeld workflow).filter quiesce.nodeIds.contains

/-- The nodes the quiesce at `index` still owes. -/
def owedNodes (workflow : WorkflowRequest) (steps : List WorkflowStepSpec) (quiesce : WorkflowStepSpec)
    (index : Nat) :
    List String :=
  (quiescedNodes workflow quiesce index).filter fun node => !(restoredNodes workflow steps index).contains node

/-- The quiesce steps whose nodes no later completed restore, reboot or replacement covered. -/
def unrestoredQuiesces (workflow : WorkflowRequest) (steps : List WorkflowStepSpec) : List UnrestoredQuiesce :=
  (steps.zipIdx.filter fun (quiesce, _) => quiesce.operation == .quiesceGpuServices).filterMap fun (quiesce, index) =>
    if (owedNodes workflow steps quiesce index).isEmpty then none
    else some ⟨index, quiesce, owedNodes workflow steps quiesce index⟩

/-! ### The restore that is run -/

/-- The first RESTORE_GPU_SERVICES of `steps` that may still run. -/
def pendingRestoreStep (workflow : WorkflowRequest) (steps : List WorkflowStepSpec) :
    Option (Nat × WorkflowStepSpec) :=
  (steps.zipIdx.find? fun (step, index) =>
    step.operation == .restoreGpuServices && !workflow.resolvedStepIndexes.contains index).map Prod.swap

def compensationRestoreKey : String := "compensation_for_step_indexes"

/-- A restore for everything owed, when no step of `steps` is left to do it. -/
def compensationRestoreStep (workflow : WorkflowRequest) (steps : List WorkflowStepSpec) : Option WorkflowStepSpec :=
  match unrestoredQuiesces workflow steps with
  | [] => none
  | first :: rest =>
    let owed := first :: rest
    some
      { operation := .restoreGpuServices
        executionOwner :=
          ((steps.find? fun step => step.operation == .restoreGpuServices).getD first.step).executionOwner
        nodeIds := sortedSet (owed.flatMap UnrestoredQuiesce.nodes)
        gpuUuids := sortedSet (owed.flatMap fun item => item.step.gpuUuids)
        workloadIds := sortedSet (owed.flatMap fun item => item.step.workloadIds)
        parameters := [(compensationRestoreKey, .arr (owed.map fun item => .int item.index))] }

/-- The row with `step` appended to the list it executes. -/
def withCompensationStep (workflow : WorkflowRequest) (step : WorkflowStepSpec) (now : Time) : WorkflowRequest :=
  { workflow with
    safetySteps := if workflow.executesSafetySteps then workflow.safetySteps ++ [step] else workflow.safetySteps
    officialSteps := if workflow.executesSafetySteps then workflow.officialSteps else workflow.officialSteps ++ [step]
    dagRevision := if workflow.dagEnabled then workflow.dagRevision + 1 else workflow.dagRevision
    updatedAt := now }

/-- The restore a landing failure runs, and the row it runs it on. -/
structure CompensationPick where
  index : Nat
  step : WorkflowStepSpec
  workflow : WorkflowRequest

def compensationPick (workflow : WorkflowRequest) (now : Time) : Option CompensationPick :=
  match pendingRestoreStep workflow workflow.executedSteps with
  | some (index, step) => some ⟨index, step, workflow⟩
  | none =>
    (compensationRestoreStep workflow workflow.executedSteps).map fun step =>
      ⟨workflow.executedSteps.length, step, withCompensationStep workflow step now⟩

/-! ### Landing -/

/-- How a landing failure ended: the row handed to the final write, and the restore that was run for it. -/
structure CompensationEnd where
  workflow : WorkflowRequest
  ran : Option (WorkflowStepSpec × StepOutcome)
  error : Option String

/-- A pass either leaves the row waiting for its restore or ends it. -/
inductive LandingResult where
  | waiting (workflow : WorkflowRequest)
  | ended (final : CompensationEnd)

/-- The row once the picked restore answered, a success counted. -/
def CompensationPick.answered (pick : CompensationPick) (outcome : StepOutcome) (now : Time) : WorkflowRequest :=
  let recorded := recordAttempt pick.workflow pick.step pick.index outcome now
  if outcome.status == .succeeded then
    { recorded with
      completedStepIndexes := sortedSet (recorded.completedStepIndexes ++ [pick.index])
      completedOperations := (recorded.completedOperations ++ [WorkflowOperation.restoreGpuServices]).eraseDups
      updatedAt := now }
  else recorded

/-- Run the restore a failed row owes, then let the failure land. -/
def resumeFailureCompensation (workflow : WorkflowRequest) (outcome : StepOutcome) (now : Time) : LandingResult :=
  match compensationPick workflow now with
  | none => .ended ⟨workflow, none, some "no RESTORE_GPU_SERVICES compensation step"⟩
  | some pick =>
    if outcome.status == .waiting then .waiting (recordAttempt pick.workflow pick.step pick.index outcome now)
    else
      .ended ⟨pick.answered outcome now, some (pick.step, outcome),
        if outcome.status == .failed then outcome.error else none⟩

/-- End a row whose parked failure may land now. -/
def landPendingFailure (workflow : WorkflowRequest) (outcome : StepOutcome) (now : Time) : LandingResult :=
  if (unrestoredQuiesces workflow workflow.executedSteps).isEmpty then .ended ⟨workflow, none, none⟩
  else resumeFailureCompensation workflow outcome now

def finalizeCompensatedFailure (final : CompensationEnd) (commands : List MintedFrom)
    (incident : Option FaultIncident) (predecessor : Option WorkflowRequest) (now : Time) : TerminalDecision :=
  let original := (final.workflow.pendingFailureError.filter (· != "")).getD "workflow step failed"
  let error := match final.error with
    | none => original
    | some compensation => original ++ "; restore compensation failed: " ++ compensation
  terminalize commands (fun row => { row with pendingFailureStepIndex := none, pendingFailureError := none })
    final.workflow incident { status := .failed, reason := some error } predecessor now

/-! ### What one restore settles -/

section Owed

variable {workflow : WorkflowRequest} {steps : List WorkflowStepSpec} {quiesce step : WorkflowStepSpec} {index : Nat}
  {node : String} {outcome : StepOutcome} {now : Time}

private theorem mem_unrestoredQuiesces {item : UnrestoredQuiesce} :
    item ∈ unrestoredQuiesces workflow steps ↔
      steps[item.index]? = some item.step ∧ item.step.operation = .quiesceGpuServices ∧
        item.nodes = owedNodes workflow steps item.step item.index ∧ item.nodes ≠ [] := by
  simp only [unrestoredQuiesces, List.mem_filterMap, List.mem_filter, Prod.exists, List.mem_zipIdx_iff_getElem?,
    beq_iff_eq, List.isEmpty_iff, ite_eq_iff, reduceCtorEq, and_false, false_or, Option.some.injEq]
  constructor
  · rintro ⟨quiesce, index, ⟨hstep, hop⟩, hne, rfl⟩
    exact ⟨hstep, hop, rfl, hne⟩
  · rintro ⟨hstep, hop, hnodes, hne⟩
    exact ⟨item.step, item.index, ⟨hstep, hop⟩, hnodes ▸ hne, by rw [← hnodes]⟩

private theorem mem_restoredNodes :
    node ∈ restoredNodes workflow steps index ↔
      ∃ j restore, steps[j]? = some restore ∧ index < j ∧ j ∈ workflow.completedStepIndexes ∧
        (restore.operation = .restoreGpuServices ∨ quiesceSettling restore.operation = true) ∧
          node ∈ restore.nodeIds := by
  simp only [restoredNodes, List.mem_flatMap, List.mem_filter, Prod.exists, List.mem_zipIdx_iff_getElem?,
    Bool.and_eq_true, decide_eq_true_eq, List.contains_iff_mem, Bool.or_eq_true, beq_iff_eq]
  constructor
  · rintro ⟨restore, j, ⟨hstep, ⟨hlt, hdone⟩, hop⟩, hnode⟩
    exact ⟨j, restore, hstep, hlt, hdone, hop, hnode⟩
  · rintro ⟨j, restore, hstep, hlt, hdone, hop, hnode⟩
    exact ⟨restore, j, ⟨hstep, ⟨hlt, hdone⟩, hop⟩, hnode⟩

private theorem executedSteps_withCompensationStep :
    (withCompensationStep workflow step now).executedSteps = workflow.executedSteps ++ [step] := by
  unfold WorkflowRequest.executedSteps
  have hsafety : (withCompensationStep workflow step now).executesSafetySteps = workflow.executesSafetySteps := rfl
  rw [hsafety]
  split <;> simp_all [withCompensationStep]

variable {pick : CompensationPick}

/-- The pending restore of the row is picked, and only without one a new restore is appended. -/
theorem compensationPick_cases (h : compensationPick workflow now = some pick) :
    (pendingRestoreStep workflow workflow.executedSteps = some (pick.index, pick.step) ∧ pick.workflow = workflow) ∨
      (pendingRestoreStep workflow workflow.executedSteps = none ∧
        compensationRestoreStep workflow workflow.executedSteps = some pick.step ∧
        pick.index = workflow.executedSteps.length ∧
          pick.workflow = withCompensationStep workflow pick.step now) := by
  unfold compensationPick at h
  split at h
  · rename_i index step hpending
    obtain rfl := Option.some.inj h
    exact .inl ⟨hpending, rfl⟩
  · rename_i hnone
    obtain ⟨step, hstep, rfl⟩ := Option.map_eq_some_iff.mp h
    exact .inr ⟨hnone, hstep, rfl, rfl⟩

theorem pendingRestoreStep_eq_some (h : pendingRestoreStep workflow steps = some (index, step)) :
    steps[index]? = some step ∧ step.operation = .restoreGpuServices ∧ index ∉ workflow.resolvedStepIndexes := by
  simp only [pendingRestoreStep, Option.map_eq_some_iff, Prod.exists, Prod.swap_prod_mk, Prod.mk.injEq] at h
  obtain ⟨_, _, hfind, rfl, rfl⟩ := h
  have hfound := List.find?_some hfind
  simp only [Bool.and_eq_true, beq_iff_eq, Bool.not_eq_true', ← Bool.not_eq_true, List.contains_iff_mem] at hfound
  exact ⟨List.mem_zipIdx_iff_getElem?.mp (List.mem_of_find?_eq_some hfind), hfound⟩

/-- What is picked is a restore of the row it is run on. -/
theorem compensationPick_spec (h : compensationPick workflow now = some pick) :
    pick.workflow.executedSteps[pick.index]? = some pick.step ∧ pick.step.operation = .restoreGpuServices := by
  rcases compensationPick_cases h with ⟨hpending, hrow⟩ | ⟨-, hstep, hindex, hrow⟩
  · obtain ⟨hget, hop, -⟩ := pendingRestoreStep_eq_some hpending
    rw [hrow]
    exact ⟨hget, hop⟩
  · refine ⟨by simp [hrow, hindex, executedSteps_withCompensationStep], ?_⟩
    unfold compensationRestoreStep at hstep
    split at hstep
    · cases hstep
    · rw [← Option.some.inj hstep]

private theorem compensationPick_isSome (h : unrestoredQuiesces workflow workflow.executedSteps ≠ []) :
    compensationPick workflow now ≠ none := by
  unfold compensationPick compensationRestoreStep
  split
  · simp
  · split
    · contradiction
    · simp

/-- A restore that succeeded settles the nodes it names for the quiesces before it. -/
private theorem mem_owedNodes_answered (hstep : steps[pick.index]? = some pick.step)
    (hop : pick.step.operation = .restoreGpuServices) (hsucceeded : outcome.status = .succeeded)
    (hne : index ≠ pick.index) :
    node ∈ owedNodes (pick.answered outcome now) steps quiesce index ↔
      node ∈ owedNodes (recordAttempt pick.workflow pick.step pick.index outcome now) steps quiesce index ∧
        ¬ (index < pick.index ∧ node ∈ pick.step.nodeIds) := by
  have hanswered : (pick.answered outcome now).completedStepIndexes =
      sortedSet (pick.workflow.completedStepIndexes ++ [pick.index]) := by
    simp [CompensationPick.answered, hsucceeded]
  have hrecords : (pick.answered outcome now).stepExecutions =
      (recordAttempt pick.workflow pick.step pick.index outcome now).stepExecutions := by
    simp [CompensationPick.answered, hsucceeded]
  have hquiesced : quiescedNodes (pick.answered outcome now) quiesce index =
      quiescedNodes (recordAttempt pick.workflow pick.step pick.index outcome now) quiesce index := by
    have hdone : index ∈ (pick.answered outcome now).completedStepIndexes ↔
        index ∈ pick.workflow.completedStepIndexes := by simp [hanswered, hne]
    simp only [quiescedNodes, quiesceTaintNodesHeld, hrecords, List.contains_iff_mem, hdone,
      recordAttempt_completedStepIndexes]
  have hrestored : node ∈ restoredNodes (pick.answered outcome now) steps index ↔
      node ∈ restoredNodes (recordAttempt pick.workflow pick.step pick.index outcome now) steps index ∨
        (index < pick.index ∧ node ∈ pick.step.nodeIds) := by
    simp only [mem_restoredNodes, hanswered, mem_sortedSet, List.mem_append, List.mem_singleton,
      recordAttempt_completedStepIndexes]
    constructor
    · rintro ⟨j, restore, hj, hlt, hdone | rfl, hrestore, hnode⟩
      · exact .inl ⟨j, restore, hj, hlt, hdone, hrestore, hnode⟩
      · obtain rfl : pick.step = restore := Option.some.inj (hstep.symm.trans hj)
        exact .inr ⟨hlt, hnode⟩
    · rintro (⟨j, restore, hj, hlt, hdone, hrestore, hnode⟩ | ⟨hlt, hnode⟩)
      · exact ⟨j, restore, hj, hlt, .inl hdone, hrestore, hnode⟩
      · exact ⟨pick.index, pick.step, hstep, hlt, .inr rfl, .inl hop, hnode⟩
  simp only [owedNodes, List.mem_filter, hquiesced, Bool.not_eq_true', ← Bool.not_eq_true, List.contains_iff_mem,
    hrestored, not_or, and_assoc]

end Owed

/-! ### When every owed node had its attempt -/

/-- Whether a restore that names `node` was run and did not succeed. -/
def CompensationEnd.attempted (final : CompensationEnd) (node : String) : Bool :=
  final.ran.any fun (step, outcome) =>
    step.operation == .restoreGpuServices && step.nodeIds.contains node && outcome.status != .succeeded

/-- Every node still owed when the failure lands had a restore run for it that did not succeed. -/
def CompensationEnd.Complete (final : CompensationEnd) : Prop :=
  ∀ quiesce ∈ unrestoredQuiesces final.workflow final.workflow.executedSteps, ∀ node ∈ quiesce.nodes,
    final.attempted node = true

instance (final : CompensationEnd) : Decidable final.Complete := by
  unfold CompensationEnd.Complete
  infer_instance

/-- The picked restore names every node owed once its answer is on record, and stands behind the quiesces that owe one
if it succeeded. -/
def CompensationPick.Covers (pick : CompensationPick) (outcome : StepOutcome) (now : Time) : Prop :=
  ∀ quiesce ∈ unrestoredQuiesces (recordAttempt pick.workflow pick.step pick.index outcome now)
      pick.workflow.executedSteps,
    (∀ node ∈ quiesce.nodes, node ∈ pick.step.nodeIds) ∧ (outcome.status = .succeeded → quiesce.index < pick.index)

def RestoreCovers (workflow : WorkflowRequest) (outcome : StepOutcome) (now : Time) : Prop :=
  unrestoredQuiesces workflow workflow.executedSteps ≠ [] →
    ∀ pick ∈ compensationPick workflow now, pick.Covers outcome now

instance (pick : CompensationPick) (outcome : StepOutcome) (now : Time) : Decidable (pick.Covers outcome now) := by
  unfold CompensationPick.Covers
  infer_instance

instance (workflow : WorkflowRequest) (outcome : StepOutcome) (now : Time) :
    Decidable (RestoreCovers workflow outcome now) := by
  unfold RestoreCovers
  infer_instance

section Landing

variable {workflow : WorkflowRequest} {pick : CompensationPick} {outcome : StepOutcome} {now : Time}
  {final : CompensationEnd}

private theorem complete_of_failed (hop : pick.step.operation = .restoreGpuServices)
    (hfailed : outcome.status = .failed) (error : Option String) :
    (CompensationEnd.mk (pick.answered outcome now) (some (pick.step, outcome)) error).Complete ↔
      pick.Covers outcome now := by
  have hrow : pick.answered outcome now = recordAttempt pick.workflow pick.step pick.index outcome now := by
    simp [CompensationPick.answered, hfailed]
  have hsteps : (recordAttempt pick.workflow pick.step pick.index outcome now).executedSteps =
      pick.workflow.executedSteps := rfl
  simp [CompensationEnd.Complete, CompensationEnd.attempted, CompensationPick.Covers, hrow, hsteps, hop, hfailed]

/-- After a restore that succeeded nothing may be owed any more. -/
private theorem complete_of_succeeded (hstep : pick.workflow.executedSteps[pick.index]? = some pick.step)
    (hop : pick.step.operation = .restoreGpuServices) (hsucceeded : outcome.status = .succeeded)
    (error : Option String) :
    (CompensationEnd.mk (pick.answered outcome now) (some (pick.step, outcome)) error).Complete ↔
      pick.Covers outcome now := by
  have hsteps : (pick.answered outcome now).executedSteps = pick.workflow.executedSteps := by
    simp [CompensationPick.answered, hsucceeded]
    rfl
  have hne : ∀ item : UnrestoredQuiesce, pick.workflow.executedSteps[item.index]? = some item.step →
      item.step.operation = .quiesceGpuServices → item.index ≠ pick.index := by
    rintro item hitem hquiesce heq
    rw [heq, hstep] at hitem
    rw [← Option.some.inj hitem, hop] at hquiesce
    cases hquiesce
  constructor
  · intro hcomplete item hitem
    obtain ⟨hget, hquiesce, hnodes, hnonempty⟩ := mem_unrestoredQuiesces.mp hitem
    have hsettled : ∀ node ∈ item.nodes, item.index < pick.index ∧ node ∈ pick.step.nodeIds := by
      intro node hnode
      by_contra hout
      have howed : node ∈ owedNodes (pick.answered outcome now) pick.workflow.executedSteps item.step item.index :=
        (mem_owedNodes_answered hstep hop hsucceeded (hne item hget hquiesce)).mpr ⟨hnodes ▸ hnode, hout⟩
      have hattempted := hcomplete ⟨item.index, item.step, _⟩
        (by rw [hsteps]; exact mem_unrestoredQuiesces.mpr ⟨hget, hquiesce, rfl, List.ne_nil_of_mem howed⟩) node howed
      simp [CompensationEnd.attempted, hsucceeded] at hattempted
    obtain ⟨node, hnode⟩ := List.exists_mem_of_ne_nil _ hnonempty
    exact ⟨fun node hnode => (hsettled node hnode).2, fun _ => (hsettled node hnode).1⟩
  · intro hcovers item hitem node hnode
    rw [hsteps] at hitem
    obtain ⟨hget, hquiesce, hnodes, -⟩ := mem_unrestoredQuiesces.mp hitem
    have howed := (mem_owedNodes_answered hstep hop hsucceeded (hne item hget hquiesce)).mp (hnodes ▸ hnode)
    have hcover := hcovers ⟨item.index, item.step, owedNodes _ _ item.step item.index⟩
      (mem_unrestoredQuiesces.mpr ⟨hget, hquiesce, rfl, List.ne_nil_of_mem howed.1⟩)
    exact absurd ⟨hcover.2 hsucceeded, hcover.1 node howed.1⟩ howed.2

private theorem complete_iff_restoreCovers (h : landPendingFailure workflow outcome now = .ended final) :
    final.Complete ↔ RestoreCovers workflow outcome now := by
  unfold landPendingFailure at h
  split at h
  · rename_i hempty
    obtain rfl := LandingResult.ended.inj h
    rw [List.isEmpty_iff] at hempty
    exact iff_of_true (by simp [CompensationEnd.Complete, hempty]) (fun howed => absurd hempty howed)
  · rename_i howed
    rw [List.isEmpty_iff] at howed
    unfold resumeFailureCompensation at h
    split at h
    · rename_i hnone
      exact absurd hnone (compensationPick_isSome howed)
    · rename_i pick hpick
      have hcovers : RestoreCovers workflow outcome now ↔ pick.Covers outcome now := by
        simp [RestoreCovers, howed, hpick]
      obtain ⟨hstep, hop⟩ := compensationPick_spec hpick
      rw [hcovers]
      split at h
      · cases h
      · rename_i hwaiting
        obtain rfl := LandingResult.ended.inj h
        cases hstatus : outcome.status with
        | waiting => simp [hstatus] at hwaiting
        | failed => exact complete_of_failed hop hstatus _
        | succeeded => exact complete_of_succeeded hstep hop hstatus _

end Landing

/-! ### Passes over a landing failure -/

/-- A row whose failure is landing: waiting for its restore, or ended by one pass over the row `landed`. -/
inductive Landing where
  | waiting (workflow : WorkflowRequest)
  | ended (landed : WorkflowRequest) (pass : StepOutcome × Time) (final : CompensationEnd)

/-- One pass: what the restore answers, if one is run, and when. -/
def landPass : Landing → StepOutcome × Time → Landing
  | .waiting workflow, pass =>
    match landPendingFailure workflow pass.1 pass.2 with
    | .waiting next => .waiting next
    | .ended final => .ended workflow pass final
  | .ended landed pass final, _ => .ended landed pass final

/-- An ended landing was ended by the pass it names. -/
def Landing.Consistent : Landing → Prop
  | .waiting _ => True
  | .ended landed pass final => landPendingFailure landed pass.1 pass.2 = .ended final

private theorem Landing.Consistent.landPass {landing : Landing} (h : landing.Consistent) (pass : StepOutcome × Time) :
    (GpuFaultRecovery.landPass landing pass).Consistent := by
  cases landing with
  | waiting workflow =>
    simp only [GpuFaultRecovery.landPass]
    split
    · trivial
    · rename_i final hfinal
      exact hfinal
  | ended landed last final => exact h

/-- However many passes a restore keeps a failed row waiting, every node still owed when the failure lands had its
attempt exactly when nothing was owed to the pass that ended the row or the restore it picked covered it. -/
theorem owed_nodes_attempted_iff {start landed : WorkflowRequest} {passes : List (StepOutcome × Time)}
    {pass : StepOutcome × Time} {final : CompensationEnd}
    (h : Run.exec landPass (.waiting start) passes = .ended landed pass final) :
    final.Complete ↔ RestoreCovers landed pass.1 pass.2 := by
  have hconsistent : (Run.exec landPass (.waiting start) passes).Consistent :=
    Run.invariant_exec (fun _ pass hlanding _ => hlanding.landPass pass) trivial (Run.along_true _ _)
  rw [h] at hconsistent
  exact complete_iff_restoreCovers hconsistent

/-- Two quiesced nodes with a restore each, and a reset that failed. -/
private def twoQuiesced : WorkflowRequest :=
  { requestId := "w"
    status := .running
    officialSteps :=
      [{ operation := .quiesceGpuServices, nodeIds := ["a"] },
       { operation := .quiesceGpuServices, nodeIds := ["b"] },
       { operation := .resetGpu, nodeIds := ["a"] },
       { operation := .restoreGpuServices, nodeIds := ["a"] },
       { operation := .restoreGpuServices, nodeIds := ["b"] }]
    completedStepIndexes := [0, 1]
    pendingFailureStepIndex := some 2
    pendingFailureError := some "reset failed" }

/-- The restore of the second node is never run, and the row ends FAILED. -/
theorem second_restore_never_run :
    ∃ final, landPendingFailure twoQuiesced { status := .succeeded } 0 = .ended final ∧
      (finalizeCompensatedFailure final [] none none 0).workflow.status = .failed ∧ ¬ final.Complete :=
  ⟨_, rfl, by decide, by decide⟩

private def sharedRestore : WorkflowRequest :=
  { twoQuiesced with
    officialSteps := twoQuiesced.officialSteps.take 3 ++
      [{ operation := .restoreGpuServices, nodeIds := ["a", "b"] }] }

/-- The shared restore is polled once, then refused. -/
theorem owed_nodes_attempted_iff_shared :
    ∃ landed final, Run.exec landPass (.waiting sharedRestore)
        [({ status := .waiting }, 0), ({ status := .failed, error := some "refused" }, 1)] =
          .ended landed ({ status := .failed, error := some "refused" }, 1) final ∧ final.Complete := by
  refine ⟨_, _, rfl, ?_⟩
  exact (owed_nodes_attempted_iff (show Run.exec landPass (.waiting sharedRestore)
    [({ status := .waiting }, 0), ({ status := .failed, error := some "refused" }, 1)] = .ended _ _ _ from rfl)).mpr
      (by decide)

end GpuFaultRecovery
