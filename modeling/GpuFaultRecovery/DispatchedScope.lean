import GpuFaultRecovery.ExecutorPass

/-!
# What was dispatched is what is recorded

A step runs with the operation, nodes and GPUs it had when the pass read the row; its completion is written on the row
as it is found afterwards, merges included. Every rewrite leaves the steps alone that completed before it, so the
ledger is right as long as no merge touches the one step that is in flight. Whether a merge may is decided by records,
and a step has none before its first answer.
-/

namespace GpuFaultRecovery

def WorkflowStepSpec.scope (step : WorkflowStepSpec) : WorkflowOperation × List String × List String :=
  (step.operation, step.nodeIds, step.gpuUuids)

/-- The scope of the step at `index` of a list. -/
def stepScope? (steps : List WorkflowStepSpec) (index : Nat) :
    Option (WorkflowOperation × List String × List String) :=
  (steps[index]?).map WorkflowStepSpec.scope

def WorkflowStepSpec.work (step : WorkflowStepSpec) : WorkflowStepSpec :=
  { step with branchId := none, branchNodeIds := [], dependsOnStepIndexes := [] }

/-- The step at `index` of a list, without its place in the plan. -/
def stepWork? (steps : List WorkflowStepSpec) (index : Nat) : Option WorkflowStepSpec :=
  (steps[index]?).map WorkflowStepSpec.work

/-- The scope of the step at `index` of a row. -/
def scopeAt (isSafety : Bool) (row : WorkflowRequest) (index : Nat) :
    Option (WorkflowOperation × List String × List String) :=
  stepScope? (phaseSteps isSafety row) index

section Scopes

variable {steps values : List WorkflowStepSpec} {branch : CandidateBranch} {branchId : String}
  {dependency : Option Nat}
  {stopIndex predecessor : Option Nat} {stopIsOpen : Bool} {existing candidate row row' : WorkflowRequest}
  {replaced : List Nat} {isSafety : Bool} {now : Time} {i : Nat}

private theorem stepScope?_eq_work : stepScope? steps i = (stepWork? steps i).map WorkflowStepSpec.scope := by
  unfold stepScope? stepWork?
  rw [Option.map_map]
  rfl

private theorem stepScope?_of_work {steps' : List WorkflowStepSpec} (h : stepWork? steps' i = stepWork? steps i) :
    stepScope? steps' i = stepScope? steps i := by
  rw [stepScope?_eq_work, h, stepScope?_eq_work]

private theorem stepScope?_map_zipIdx {f : WorkflowStepSpec × Nat → WorkflowStepSpec}
    (h : ∀ step, steps[i]? = some step → (f (step, i)).scope = step.scope) :
    stepScope? (steps.zipIdx.map f) i = stepScope? steps i := by
  simp only [stepScope?, List.getElem?_map, List.getElem?_zipIdx, Option.map_map]
  cases hstep : steps[i]? with
  | none => rfl
  | some step => simpa using h step hstep

private theorem lt_of_stepScope? {scope : WorkflowOperation × List String × List String}
    (h : stepScope? steps i = some scope) :
    i < steps.length := by
  obtain ⟨step, hstep, -⟩ := Option.map_eq_some_iff.mp h
  exact (List.getElem?_eq_some_iff.mp hstep).1

private theorem stepScope?_append_left {extra : List WorkflowStepSpec} (h : i < steps.length) :
    stepScope? (steps ++ extra) i = stepScope? steps i := by
  simp [stepScope?, List.getElem?_append_left h]

theorem stepWork?_map_zipIdx {f : WorkflowStepSpec × Nat → WorkflowStepSpec}
    (h : ∀ step, steps[i]? = some step → (f (step, i)).work = step.work) :
    stepWork? (steps.zipIdx.map f) i = stepWork? steps i := by
  simp only [stepWork?, List.getElem?_map, List.getElem?_zipIdx, Option.map_map]
  cases hstep : steps[i]? with
  | none => rfl
  | some step => simpa using h step hstep

private theorem stepWork?_attach (h : i < steps.length) :
    stepWork? (attachCandidateBranch steps branch branchId stopIndex stopIsOpen predecessor).1 i =
      stepWork? steps i :=
  map_getElem?_attach (fun _ _ => rfl) h branch predecessor

private theorem stepWork?_reconnectJoin (tail : Option Nat) (superseded : List Nat) :
    stepWork? (reconnectJoin steps tail superseded) i = stepWork? steps i := by
  simp only [stepWork?, reconnectJoin, List.getElem?_map, Option.map_map]
  cases steps[i]? with
  | none => rfl
  | some step =>
    simp only [Option.map_some, Function.comp]
    split <;> rfl

theorem stepWork?_normalizedSteps (existing : WorkflowRequest) (i : Nat) :
    stepWork? (normalizedSteps existing) i = stepWork? existing.officialSteps i :=
  stepWork?_map_zipIdx fun _ _ => rfl

private theorem stepWork?_branchRewrite (h : i < existing.officialSteps.length) :
    stepWork? (branchRewrite existing branch predecessor replaced).1 i =
      stepWork? (terminalSuperseded existing (normalizedSteps existing) branch.terminal replaced).1 i := by
  have hlen := length_eq_of_shape
    (terminalSuperseded_shape existing (normalizedSteps existing) branch.terminal replaced)
  have hlt : i < (terminalSuperseded existing (normalizedSteps existing) branch.terminal replaced).1.length := by
    rw [hlen, length_normalizedSteps]
    exact h
  unfold branchRewrite
  dsimp only
  split
  · exact stepWork?_attach hlt
  · rw [stepWork?_reconnectJoin]
    exact stepWork?_attach hlt

theorem stepScope?_branchRewrite (h : i < existing.officialSteps.length) :
    stepScope? (branchRewrite existing branch predecessor replaced).1 i =
      stepScope? (terminalSuperseded existing (normalizedSteps existing) branch.terminal replaced).1 i :=
  stepScope?_of_work (stepWork?_branchRewrite h)

private theorem stepWork?_terminalSuperseded (steps : List WorkflowStepSpec) (terminal : List String)
    (replaced : List Nat) (h : i ∈ submittedStepIndexes existing) :
    stepWork? (terminalSuperseded existing steps terminal replaced).1 i = stepWork? steps i := by
  unfold terminalSuperseded
  split
  · rfl
  · refine stepWork?_map_zipIdx fun step _ => ?_
    dsimp only
    unfold suppressStep
    rw [if_pos]
    have hmem : i ∈ submittedStepIndexes
        { existing with supersededStepIndexes := sortedSet (existing.supersededStepIndexes ++ replaced) } := by
      simp only [submittedStepIndexes, WorkflowRequest.resolvedStepIndexes, List.mem_append, mem_sortedSet] at h ⊢
      tauto
    simp [hmem]

/-- A branch rewrite leaves the work of a submitted step alone. -/
theorem stepWork?_branchRewrite_submitted (hi : i ∈ submittedStepIndexes existing)
    (h : i < existing.officialSteps.length) :
    stepWork? (branchRewrite existing branch predecessor replaced).1 i = stepWork? existing.officialSteps i := by
  rw [stepWork?_branchRewrite h, stepWork?_terminalSuperseded _ _ _ hi, stepWork?_normalizedSteps]

end Scopes

/-! ### Rewrites that keep the ledger -/

/-- A rewrite that leaves completed steps alone: their scopes stay and none of them is retired. -/
structure KeepsCompleted (row row' : WorkflowRequest) : Prop where
  completed : row'.completedStepIndexes = row.completedStepIndexes
  inherited : row'.inheritedStepIndexes = row.inheritedStepIndexes
  superseded : ∀ i ∈ row.completedStepIndexes, i ∈ row'.supersededStepIndexes → i ∈ row.supersededStepIndexes
  scope : ∀ isSafety, ∀ i ∈ row.completedStepIndexes, i < (phaseSteps isSafety row).length →
    scopeAt isSafety row' i = scopeAt isSafety row i

section Keeps

variable {row row' row'' existing candidate rewritten : WorkflowRequest} {isSafety : Bool}
  {indexes replaced : List Nat}
  {predecessor : Option Nat} {now : Time} {i index : Nat} {merge : Merge}

private theorem KeepsCompleted.trans (h : KeepsCompleted row row') (h' : KeepsCompleted row' row'') :
    KeepsCompleted row row'' where
  completed := h'.completed.trans h.completed
  inherited := h'.inherited.trans h.inherited
  superseded i hi hs := h.superseded i hi (h'.superseded i (h.completed ▸ hi) hs)
  scope isSafety i hi hlt := by
    have hkept := h.scope isSafety i hi hlt
    have hlt' : i < (phaseSteps isSafety row').length := by
      have hold : scopeAt isSafety row i = some ((phaseSteps isSafety row)[i]).scope := by
        simp [scopeAt, stepScope?, List.getElem?_eq_getElem hlt]
      exact lt_of_stepScope? (hkept.trans hold)
    rw [h'.scope isSafety i (h.completed ▸ hi) hlt', hkept]

private theorem KeepsCompleted.of_steps (hcompleted : row'.completedStepIndexes = row.completedStepIndexes)
    (hinherited : row'.inheritedStepIndexes = row.inheritedStepIndexes)
    (hsuperseded : row'.supersededStepIndexes = row.supersededStepIndexes)
    (hsteps : ∀ isSafety, phaseSteps isSafety row' = phaseSteps isSafety row) : KeepsCompleted row row' where
  completed := hcompleted
  inherited := hinherited
  superseded i _ hs := hsuperseded ▸ hs
  scope isSafety i _ _ := by rw [scopeAt, scopeAt, hsteps]

private theorem KeepsCompleted.refl (row : WorkflowRequest) : KeepsCompleted row row :=
  .of_steps rfl rfl rfl fun _ => rfl

private theorem keepsCompleted_recordAttempt (row : WorkflowRequest) (step : WorkflowStepSpec) (index : Nat)
    (outcome : StepOutcome) (now : Time) :
    KeepsCompleted row (recordAttempt row step index outcome now) := .of_steps rfl rfl rfl fun _ => rfl

private theorem keepsCompleted_retireSteps (hlive : ∀ i ∈ indexes, i ∉ row.completedStepIndexes) (now : Time) :
    KeepsCompleted row (retireSteps row indexes now) where
  completed := rfl
  inherited := rfl
  superseded i hi hs := by
    simp only [retireSteps, mem_sortedSet, List.mem_append] at hs
    exact hs.resolve_right fun hretired => hlive i hretired hi
  scope _ _ _ _ := rfl

private theorem not_mem_completed (h : i ∉ row.resolvedStepIndexes) : i ∉ row.completedStepIndexes :=
  fun hi => h (List.mem_append_left _ hi)

private theorem KeepsCompleted.of_map {f : WorkflowStepSpec × Nat → WorkflowStepSpec}
    (hcompleted : row'.completedStepIndexes = row.completedStepIndexes)
    (hinherited : row'.inheritedStepIndexes = row.inheritedStepIndexes)
    (hsuperseded : row'.supersededStepIndexes = row.supersededStepIndexes)
    (hsafety : row'.safetySteps = row.safetySteps) (hofficial : row'.officialSteps = row.officialSteps.zipIdx.map f)
    (hf : ∀ step, ∀ i ∈ row.completedStepIndexes, (f (step, i)).scope = step.scope) : KeepsCompleted row row' where
  completed := hcompleted
  inherited := hinherited
  superseded i _ hs := hsuperseded ▸ hs
  scope isSafety i hi _ := by
    cases isSafety with
    | true => rw [scopeAt, scopeAt, phaseSteps, phaseSteps, if_pos rfl, if_pos rfl, hsafety]
    | false =>
      rw [scopeAt, scopeAt, phaseSteps, phaseSteps, if_neg Bool.false_ne_true, if_neg Bool.false_ne_true, hofficial]
      exact stepScope?_map_zipIdx fun step _ => hf step i hi

private theorem keepsCompleted_adoptLinearPlan (row : WorkflowRequest) (now : Time) :
    KeepsCompleted row (adoptLinearPlan row now) := by
  unfold adoptLinearPlan
  split
  · exact .refl row
  · exact .of_map rfl rfl rfl rfl rfl fun _ _ _ => rfl

private theorem mem_submitted_of_completed (h : i ∈ row.completedStepIndexes) : i ∈ submittedStepIndexes row :=
  List.mem_append_left _ (List.mem_append_left _ h)

private theorem mem_fixedScope_of_completed (h : i ∈ row.completedStepIndexes) : i ∈ fixedScopeStepIndexes row :=
  List.mem_append_left _ (mem_submitted_of_completed h)

/-- Rebinding leaves every submitted step alone. -/
theorem stepWork?_rebindNodes {rebindings : List (String × String)} {inventory : String → List String}
    {afterIndex : Nat} (h : rebindNodes row rebindings inventory isSafety afterIndex now = .ok row') (phase : Bool)
    (hi : i ∈ submittedStepIndexes row) :
    stepWork? (phaseSteps phase row') i = stepWork? (phaseSteps phase row) i := by
  unfold rebindNodes at h
  dsimp only at h
  split at h
  · cases h
  · cases h
    have hrebound : stepWork? ((phaseSteps isSafety row).zipIdx.map fun entry =>
        if rebinds row isSafety afterIndex entry.2 then reboundStep rebindings inventory entry.1 else entry.1) i =
        stepWork? (phaseSteps isSafety row) i := by
      have hsubmitted : rebinds row isSafety afterIndex i = false := by simp [rebinds, hi]
      refine stepWork?_map_zipIdx fun step _ => ?_
      simp [hsubmitted]
    cases phase <;> cases isSafety <;> first | rfl | exact hrebound

private theorem rebindNodes_keeps {rebindings : List (String × String)} {inventory : String → List String}
    {afterIndex : Nat} (h : rebindNodes row rebindings inventory isSafety afterIndex now = .ok row') :
    KeepsCompleted row row' ∧ row'.supersededStepIndexes = row.supersededStepIndexes ∧
      ∀ phase, ∀ i ∈ submittedStepIndexes row, scopeAt phase row' i = scopeAt phase row i := by
  have hscope : ∀ phase, ∀ i ∈ submittedStepIndexes row, scopeAt phase row' i = scopeAt phase row i :=
    fun phase i hi => stepScope?_of_work (stepWork?_rebindNodes h phase hi)
  unfold rebindNodes at h
  dsimp only at h
  split at h
  · cases h
  · cases h
    refine ⟨⟨rfl, rfl, fun _ _ hs => hs, fun phase i hi _ => hscope phase i (mem_submitted_of_completed hi)⟩,
      rfl, hscope⟩

private theorem keepsCompleted_retargetEvidence {targets : List EvidenceTarget}
    (hlive : ∀ target ∈ targets, target.index ∉ row.completedStepIndexes) :
    KeepsCompleted row (retargetEvidence row targets) := by
  unfold retargetEvidence
  split
  · exact .refl row
  · refine .of_map rfl rfl rfl rfl rfl fun step i hi => ?_
    dsimp only
    split
    · rfl
    · rename_i target hfound
      have hindex := List.find?_some hfound
      simp only [Bool.and_eq_true, beq_iff_eq] at hindex
      exact absurd hi (hindex.1 ▸ hlive target (List.mem_of_find?_eq_some hfound))

private theorem keepsCompleted_append
    (h : appendParallelJobBranch existing candidate predecessor replaced now = .ok rewritten) :
    KeepsCompleted existing rewritten := by
  rcases appendParallelJobBranch_ok h with rfl | ⟨candidate', branch, action, -, -, rfl⟩
  · exact .refl rewritten
  · refine ⟨rfl, rfl, fun i hi hs => ?_, fun isSafety i hi hlt => ?_⟩
    · simp only [appendedRow, mem_sortedSet, List.mem_append, List.mem_filter, Bool.not_eq_true', ← Bool.not_eq_true,
        List.contains_iff_mem] at hs
      exact hs.resolve_right fun hretired => hretired.2 hi
    · cases isSafety with
      | true => rfl
      | false =>
        exact stepScope?_of_work (stepWork?_branchRewrite_submitted (mem_submitted_of_completed hi) hlt)

private theorem keepsCompleted_mergedRow (row : WorkflowRequest) (merge : Merge) (now : Time) :
    KeepsCompleted row (mergedRow row merge now) := by
  unfold mergedRow
  split
  · rename_i rewritten happly
    have hbump : KeepsCompleted rewritten { rewritten with mergeRevision := row.mergeRevision + 1 } :=
      .of_steps rfl rfl rfl fun _ => rfl
    refine .trans ?_ hbump
    rcases Merge.apply_ok happly with rfl | rfl | ⟨candidate, nodeId, gpuUuids, -, rfl⟩ |
      ⟨candidate, nodeId, gpuUuids, -, rfl⟩ | ⟨candidate, predecessor, replaced, -, happend⟩
    · exact .refl rewritten
    · exact keepsCompleted_adoptLinearPlan row now
    · refine .of_map rfl rfl rfl rfl rfl fun step i hi => ?_
      simp [mem_fixedScope_of_completed hi]
    · refine .of_map rfl rfl rfl rfl rfl fun step i hi => ?_
      simp [mem_fixedScope_of_completed hi]
    · exact keepsCompleted_append happend
  · exact .refl row

/-- Taking a failed step retires steps that have not completed. -/
private theorem keepsCompleted_escalate {outcome : StepOutcome} {verdict : BranchVerdict}
    (hindex : index ∉ row.completedStepIndexes)
    (h : escalateFailedBranch row index outcome verdict now = .rewritten row') : KeepsCompleted row row' := by
  rcases escalateFailedBranch_eq_rewritten h with hhandoff | ⟨-, grown, step, branchId, hgrown, -, hcases⟩
  · obtain ⟨-, reason, rfl⟩ := supportHandoff_eq_some hhandoff
    have hlive : ∀ i ∈ handoffRetired row index outcome ++ [index], i ∉ row.completedStepIndexes := by
      intro i hi
      rcases List.mem_append.mp hi with hi | hi
      · have hkept := (List.mem_filter.mp hi).2
        simp only [Bool.and_eq_true, Bool.not_eq_true', ← Bool.not_eq_true, List.contains_iff_mem] at hkept
        exact not_mem_completed hkept.1.1
      · rw [List.mem_singleton.mp hi]
        exact hindex
    refine (keepsCompleted_retireSteps hlive now).trans (.of_steps rfl rfl rfl fun _ => rfl)
  · have hgrows : KeepsCompleted row grown := by
      rcases escalationRow_eq_some hgrown with rfl | rfl
      · exact .refl grown
      · exact keepsCompleted_adoptLinearPlan row now
    refine hgrows.trans ?_
    rcases hcases with ⟨-, rfl⟩ | ⟨candidate, -, rfl | ⟨predecessor, replaced, -, happend⟩⟩
    · have hlive : ∀ i ∈ pendingBranchSteps grown branchId, i ∉ grown.completedStepIndexes := by
        intro i hi
        have hpending := (List.mem_filter.mp hi).2
        simp only [Bool.not_eq_true', ← Bool.not_eq_true, List.contains_iff_mem] at hpending
        exact not_mem_completed hpending
      unfold exhaustBranch
      dsimp only
      split
      · exact .refl grown
      · exact (keepsCompleted_retireSteps hlive now).trans (.of_steps rfl rfl rfl fun _ => rfl)
    · exact .refl row'
    · exact keepsCompleted_append happend

private theorem keepsCompleted_withCompensationStep (row : WorkflowRequest) (step : WorkflowStepSpec) (now : Time) :
    KeepsCompleted row (withCompensationStep row step now) := by
  refine ⟨rfl, rfl, fun _ _ hs => hs, fun isSafety i _ hlt => ?_⟩
  unfold scopeAt withCompensationStep phaseSteps
  cases isSafety with
  | true =>
    cases row.executesSafetySteps with
    | true => exact stepScope?_append_left hlt
    | false => rfl
  | false =>
    cases row.executesSafetySteps with
    | true => rfl
    | false => exact stepScope?_append_left hlt

private theorem keepsCompleted_restoreAfterReboot (row : WorkflowRequest) (predecessorId : String) (rebootIndex : Nat)
    (cleanup : WorkflowStepSpec) (now : Time) :
    KeepsCompleted row (restoreAfterReboot row predecessorId rebootIndex cleanup now) := by
  refine ⟨rfl, rfl, fun _ _ hs => hs, fun isSafety i _ hlt => ?_⟩
  cases isSafety with
  | true => rfl
  | false =>
    have hofficial : i < row.officialSteps.length := hlt
    unfold scopeAt phaseSteps restoreAfterReboot
    dsimp only
    rw [if_neg Bool.false_ne_true, if_neg Bool.false_ne_true, stepScope?_append_left (by simpa using hofficial)]
    exact stepScope?_map_zipIdx fun _ _ => rfl

private theorem keepsCompleted_applyWorkloadWithdrawal (row : WorkflowRequest) (steps : List WorkflowStepSpec)
    (now : Time) :
    KeepsCompleted row (applyWorkloadWithdrawal row steps now) := by
  unfold applyWorkloadWithdrawal
  split
  · exact .refl row
  · refine keepsCompleted_retireSteps (fun i hi => ?_) now
    obtain ⟨step, -, hlive⟩ := mem_zipIdx_indexes hi
    simp only [Bool.and_eq_true, Bool.not_eq_true', ← Bool.not_eq_true, List.contains_iff_mem] at hlive
    exact not_mem_completed hlive.1.1

private theorem keepsCompleted_parkedRow {pass : ExecutorPass} {outcome : StepOutcome}
    (h : Executor.parkedRow pass index outcome now = some row') : KeepsCompleted pass.held row' := by
  unfold Executor.parkedRow at h
  dsimp only at h
  rcases orElse_eq_some h with hdeferred | hparked
  · split at hdeferred
    · unfold deferJobFailure at hdeferred
      split at hdeferred
      · cases hdeferred
      · cases hdeferred
        refine .trans (keepsCompleted_retireSteps (fun i hi => ?_) now) (.of_steps rfl rfl rfl fun _ => rfl)
        obtain ⟨step, -, hlive⟩ := mem_zipIdx_indexes hi
        simp only [Bool.and_eq_true, Bool.not_eq_true', ← Bool.not_eq_true, List.contains_iff_mem] at hlive
        exact not_mem_completed hlive.1.1
    · cases hdeferred
  · split at hparked
    · cases hparked
    · cases hparked
      exact .of_steps rfl rfl rfl fun _ => rfl

end Keeps

/-! ### Events that leave the step in flight alone -/

/-- A merge that neither widens or narrows the step in flight nor retires it. -/
def MergeSpares (row : WorkflowRequest) (d : Dispatched) (merge : Merge) : Prop :=
  (∀ step, row.officialSteps[d.index]? = some step → d.isSafety = false → d.index ∉ fixedScopeStepIndexes row →
    match merge with
    | .plan (.widen candidate nodeId gpuUuids) => d.index ∈ nodeBranchStepIndexes row nodeId →
      (widenedStep candidate nodeId gpuUuids step).scope = step.scope
    | .widenInPlace candidate nodeId gpuUuids =>
      nodeId ∈ step.nodeIds → step.operation.semantics.workloadScoped = false →
      (widenedInPlace candidate nodeId gpuUuids step).scope = step.scope
    | _ => True) ∧
  ∀ candidate predecessor replaced candidate' branch, merge.target row = some (candidate, predecessor, replaced) →
    inheritTerminalQuarantine row candidate = .ok candidate' →
    candidateBranch candidate' predecessor row.dagRevision = .ok branch →
    d.index ∉ (terminalSuperseded row (normalizedSteps row) branch.terminal replaced).2 ∧
      (d.isSafety = false →
        stepScope? (terminalSuperseded row (normalizedSteps row) branch.terminal replaced).1 d.index =
          stepScope? row.officialSteps d.index)

/-- The condition on one event under which it leaves the step in flight alone, read off the state before it. -/
def EventSpares (s : Executor) : ExecutorEvent → Prop
  | .merge merge _ => ∀ pass d, s.pass = some pass → pass.inFlight = some d → MergeSpares s.row d merge
  | .dispatch => ∀ pass index rest, s.freePass = some pass → pass.batch = index :: rest →
    s.row.mergeRevision ≠ pass.held.mergeRevision →
      scopeAt pass.isSafety s.row index = scopeAt pass.isSafety pass.held index ∧ index ∉ s.row.supersededStepIndexes
  | .restoreAhead now => ∀ pass pick, s.freePass = some pass → compensationPick pass.held now = some pick →
    pick.index ∉ s.row.supersededStepIndexes ∧
      (s.row.mergeRevision ≠ pass.held.mergeRevision →
        scopeAt pick.workflow.executesSafetySteps s.row pick.index = some pick.step.scope)
  | .record outcome _ _ targets _ => ∀ pass d, s.pass = some pass → pass.inFlight = some d →
    outcome.status = .succeeded → Executor.surveys pass d = true →
      ∀ target ∈ targets, target.index ∉ s.row.completedStepIndexes ∧ target.index ≠ d.index
  | _ => True

/-- What a row says it completed is what was dispatched: every recorded completion stands in the row with the scope it
was dispatched with and is not superseded, and every completed step was completed at the start, taken over from a
predecessor, or dispatched. -/
structure LedgerSound (start row : WorkflowRequest) (recorded : List Dispatched) : Prop where
  completions : ∀ d ∈ recorded, d.index ∈ row.completedStepIndexes ∧ d.index ∉ row.supersededStepIndexes ∧
    scopeAt d.isSafety row d.index = some d.step.scope
  dispatched : ∀ i ∈ row.completedStepIndexes,
    i ∈ start.completedStepIndexes ∨ i ∈ row.inheritedStepIndexes ∨ ∃ d ∈ recorded, d.index = i

/-- What a pass knows of the row and of the step it has in flight. -/
structure FlightSound (row : WorkflowRequest) (pass : ExecutorPass) : Prop where
  inStep : InStep row pass
  completed : pass.held.completedStepIndexes = row.completedStepIndexes
  flight : ∀ d, pass.inFlight = some d → scopeAt d.isSafety row d.index = some d.step.scope ∧
    d.index ∉ row.supersededStepIndexes ∧ (d.ahead = false → d.index ∉ row.completedStepIndexes)

/-- A sound ledger under a pass that knows what it has in flight. -/
structure ExecutorSound (start : WorkflowRequest) (s : Executor) : Prop where
  ledger : LedgerSound start s.row s.recorded
  pass : ∀ pass, s.pass = some pass → FlightSound s.row pass

section Events

variable {start row row' : WorkflowRequest} {recorded : List Dispatched} {s : Executor} {pass pass' : ExecutorPass}
  {d : Dispatched} {now : Time}

private theorem LedgerSound.keeps (h : LedgerSound start row recorded) (hkeeps : KeepsCompleted row row') :
    LedgerSound start row' recorded := by
  refine ⟨fun d hd => ?_, fun i hi => ?_⟩
  · obtain ⟨hdone, hlive, hscope⟩ := h.completions d hd
    refine ⟨hkeeps.completed ▸ hdone, fun hs => hlive (hkeeps.superseded d.index hdone hs), ?_⟩
    rw [hkeeps.scope d.isSafety d.index hdone (lt_of_stepScope? hscope)]
    exact hscope
  · rw [hkeeps.completed] at hi
    rw [hkeeps.inherited]
    exact h.dispatched i hi

/-- A merge that spares the step in flight. -/
private theorem MergeSpares.merged {merge : Merge} (h : MergeSpares row d merge)
    (hscope : scopeAt d.isSafety row d.index = some d.step.scope) (hlive : d.index ∉ row.supersededStepIndexes) :
    scopeAt d.isSafety (mergedRow row merge now) d.index = some d.step.scope ∧
      d.index ∉ (mergedRow row merge now).supersededStepIndexes := by
  unfold mergedRow
  split
  · rename_i rewritten happly
    have hsteps : scopeAt d.isSafety { rewritten with mergeRevision := row.mergeRevision + 1 } d.index =
        scopeAt d.isSafety rewritten d.index := rfl
    rw [hsteps, ← hscope]
    -- a step of the safety list is out of reach of every rewrite of the official one
    have hofficial : (d.isSafety = false → stepScope? rewritten.officialSteps d.index =
        stepScope? row.officialSteps d.index) → rewritten.safetySteps = row.safetySteps →
        scopeAt d.isSafety rewritten d.index = scopeAt d.isSafety row d.index := by
      intro hkept hsafety
      unfold scopeAt phaseSteps
      cases hphase : d.isSafety with
      | true => rw [if_pos rfl, if_pos rfl, hsafety]
      | false => exact hkept hphase
    rcases Merge.apply_ok happly with rfl | rfl | ⟨candidate, nodeId, gpuUuids, rfl, rfl⟩ |
      ⟨candidate, nodeId, gpuUuids, rfl, rfl⟩ | ⟨candidate, predecessor, replaced, htarget, happend⟩
    · exact ⟨rfl, hlive⟩
    · cases hflat : row.dagEnabled with
      | true =>
        rw [adoptLinearPlan, if_pos hflat]
        exact ⟨rfl, hlive⟩
      | false =>
        rw [adoptLinearPlan, if_neg (by simp [hflat])] at hofficial ⊢
        exact ⟨hofficial (fun _ => stepScope?_of_work (stepWork?_normalizedSteps row d.index)) rfl, hlive⟩
    · refine ⟨hofficial (fun hphase => ?_) rfl, hlive⟩
      refine stepScope?_map_zipIdx fun step hstep => ?_
      dsimp only
      split
      · rfl
      · rename_i htouched
        simp only [Bool.or_eq_true, Bool.not_eq_true', ← Bool.not_eq_true, List.contains_iff_mem, not_or, not_not]
          at htouched
        exact h.1 step hstep hphase htouched.2 htouched.1
    · refine ⟨hofficial (fun hphase => ?_) rfl, hlive⟩
      refine stepScope?_map_zipIdx fun step hstep => ?_
      dsimp only
      split
      · rfl
      · rename_i htouched
        simp only [Bool.or_eq_true, Bool.not_eq_true', ← Bool.not_eq_true, List.contains_iff_mem, not_or, not_not]
          at htouched
        exact h.1 step hstep hphase htouched.1.1 htouched.1.2 (Bool.eq_false_iff.mpr htouched.2)
    · rcases appendParallelJobBranch_ok happend with rfl | ⟨candidate', branch, action, hinherit, hbranch, rfl⟩
      · exact ⟨rfl, hlive⟩
      · obtain ⟨hretired, hnarrowed⟩ := h.2 _ _ _ _ _ htarget hinherit hbranch
        refine ⟨hofficial (fun hphase => ?_) rfl, fun hs => ?_⟩
        · have hlt : d.index < row.officialSteps.length := by
            have hbound := lt_of_stepScope? hscope
            rw [hphase] at hbound
            exact hbound
          exact (stepScope?_branchRewrite hlt).trans (hnarrowed hphase)
        · rcases List.mem_append.mp (mem_sortedSet.mp hs) with hs | hs
          · exact hlive hs
          · exact hretired (List.mem_filter.mp hs).1
  · exact ⟨hscope, hlive⟩

private theorem ExecutorSound.of_held {isDone : List Dispatched} (h : LedgerSound start row isDone)
    (hheld : pass.held = row) (hfree : pass.inFlight = none) :
    ExecutorSound start { row, pass := some pass, recorded := isDone } := by
  refine ⟨h, fun pass' hpass => ?_⟩
  obtain rfl := Option.some.inj hpass
  refine ⟨.inl hheld, congrArg _ hheld, fun d hd => ?_⟩
  rw [hfree] at hd
  cases hd

private theorem ExecutorSound.drop (h : LedgerSound start row recorded) : ExecutorSound start { row, recorded } := by
  refine ⟨h, fun pass hpass => ?_⟩
  cases hpass

private theorem LedgerSound.inheritQuiesce (h : LedgerSound start row recorded) (predecessorId : String) (index : Nat)
    (evidence : WorkflowStepExecution) :
    LedgerSound start (inheritQuiesce row predecessorId index evidence now) recorded := by
  refine ⟨fun d hd => ?_, fun i hi => ?_⟩
  · obtain ⟨hdone, hlive, hscope⟩ := h.completions d hd
    exact ⟨mem_sortedSet.mpr (List.mem_append_left _ hdone), hlive, hscope⟩
  · rcases List.mem_append.mp (mem_sortedSet.mp hi) with hi | hi
    · rcases h.dispatched i hi with hstart | hinherited | hrecorded
      · exact .inl hstart
      · exact .inr (.inl (mem_sortedSet.mpr (List.mem_append_left _ hinherited)))
      · exact .inr (.inr hrecorded)
    · exact .inr (.inl (mem_sortedSet.mpr (List.mem_append_right _ hi)))

private theorem ExecutorSound.claim (h : ExecutorSound start s) (predecessor : Option WorkflowRequest) :
    ExecutorSound start (s.claim predecessor now) := by
  unfold Executor.claim
  split
  · exact h
  · refine .of_held ?_ rfl rfl
    have hrunning : LedgerSound start { s.row with status := .running, updatedAt := now } s.recorded :=
      h.ledger.keeps (.of_steps rfl rfl rfl fun _ => rfl)
    unfold adoptQuiesceHandoff
    split
    · exact hrunning
    · split
      · exact hrunning
      · exact hrunning.inheritQuiesce _ _ _
      · exact hrunning.keeps (keepsCompleted_restoreAfterReboot _ _ _ _ _)

private theorem ExecutorSound.withdraw (h : ExecutorSound start s) (reason : String) :
    ExecutorSound start (s.withdraw reason now) := by
  have hstep := fun pass hpass => @InStep.withdraw s pass now (h.pass pass hpass).inStep reason
  unfold Executor.withdraw at hstep ⊢
  split
  · exact h
  · rename_i hwithdrawn
    rw [if_neg hwithdrawn] at hstep
    refine ⟨h.ledger.keeps (.of_steps rfl rfl rfl fun _ => rfl), fun pass hpass => ?_⟩
    have hold := h.pass pass hpass
    exact ⟨hstep pass hpass, hold.completed, hold.flight⟩

private theorem ExecutorSound.merge {merge : Merge} (h : ExecutorSound start s)
    (hspares : EventSpares s (.merge merge now)) :
    ExecutorSound start { s with row := mergedRow s.row merge now } := by
  have hkeeps := keepsCompleted_mergedRow s.row merge now
  refine ⟨h.ledger.keeps hkeeps, fun pass hpass => ?_⟩
  have hold := h.pass pass hpass
  refine ⟨hold.inStep.merge merge, hold.completed.trans hkeeps.completed.symm, fun d hd => ?_⟩
  obtain ⟨hscope, hlive, hpending⟩ := hold.flight d hd
  obtain ⟨hscope', hlive'⟩ := @MergeSpares.merged s.row d now merge (hspares pass d hpass hd) hscope hlive
  refine ⟨hscope', hlive', fun hahead => ?_⟩
  rw [hkeeps.completed]
  exact hpending hahead

private theorem ExecutorSound.scan (h : ExecutorSound start s) (hfree : s.freePass = some pass) :
    ExecutorSound start (s.scan pass now) := by
  unfold Executor.scan
  dsimp only
  split
  · exact .drop h.ledger
  · refine .of_held (h.ledger.keeps ?_) rfl (freePass_eq hfree).2
    unfold Executor.scannedRow
    split
    · exact keepsCompleted_applyWorkloadWithdrawal _ _ _
    · exact .refl _

private theorem not_mem_resolved_of_dispatchable {index : Nat} (h : Executor.dispatchable pass index = true) :
    index ∉ pass.held.resolvedStepIndexes := by
  unfold Executor.dispatchable dagStepIsCurrent at h
  split at h
  · simp only [Bool.and_eq_true, Bool.not_eq_true', ← Bool.not_eq_true, List.contains_iff_mem] at h
    exact h.1.2
  · simpa using h

private theorem ExecutorSound.dispatch (h : ExecutorSound start s) (hfree : s.freePass = some pass)
    (hspares : EventSpares s .dispatch) : ExecutorSound start (s.dispatch pass) := by
  have hold := h.pass pass (freePass_eq hfree).1
  unfold Executor.dispatch
  split
  · exact h
  · rename_i index rest hbatch
    split
    · rename_i hready
      have hlive := not_mem_resolved_of_dispatchable hready
      split
      · exact h
      · rename_i step hstep
        have hheld : scopeAt pass.isSafety pass.held index = some step.scope := by
          rw [scopeAt, stepScope?, hstep]
          rfl
        -- the stored row is the one held, or a merge came between and the condition speaks of it
        have hstored : scopeAt pass.isSafety s.row index = some step.scope ∧ index ∉ s.row.supersededStepIndexes := by
          rcases hold.inStep with hrow | hmerged
          · rw [← hrow]
            exact ⟨hheld, fun hs => hlive (List.mem_append_right _ hs)⟩
          · obtain ⟨hscope, hs⟩ := hspares pass index rest hfree hbatch (by omega)
            exact ⟨hscope.trans hheld, hs⟩
        refine ⟨h.ledger, fun pass' hpass' => ?_⟩
        obtain rfl := Option.some.inj hpass'
        refine ⟨hold.inStep, hold.completed, fun d hd => ?_⟩
        obtain rfl := Option.some.inj hd
        refine ⟨hstored.1, hstored.2, fun _ => ?_⟩
        rw [← hold.completed]
        exact not_mem_completed hlive
    · refine ⟨h.ledger, fun pass' hpass' => ?_⟩
      obtain rfl := Option.some.inj hpass'
      exact ⟨hold.inStep, hold.completed, hold.flight⟩

private theorem scopeAt_executedSteps (row : WorkflowRequest) (index : Nat) :
    scopeAt row.executesSafetySteps row index = stepScope? row.executedSteps index := rfl

private theorem ExecutorSound.restoreAhead (h : ExecutorSound start s) (hfree : s.freePass = some pass)
    (hspares : EventSpares s (.restoreAhead now)) : ExecutorSound start (s.restoreAhead pass now) := by
  have hold := h.pass pass (freePass_eq hfree).1
  unfold Executor.restoreAhead
  split
  · exact h
  · rename_i pick hpick
    obtain ⟨hlive, hmerged⟩ := hspares pass pick hfree hpick
    have hscope : scopeAt pick.workflow.executesSafetySteps pick.workflow pick.index = some pick.step.scope := by
      rw [scopeAt_executedSteps, stepScope?, (compensationPick_spec hpick).1]
      rfl
    dsimp only
    split
    · rename_i hpending
      have hsame : pick.workflow = pass.held := by
        rcases compensationPick_cases hpick with ⟨-, hrow⟩ | ⟨hnone, -⟩
        · exact hrow
        · rw [hnone] at hpending
          cases hpending
      have hstored : scopeAt pick.workflow.executesSafetySteps s.row pick.index = some pick.step.scope := by
        by_cases hrev : s.row.mergeRevision = pass.held.mergeRevision
        · rw [← hold.inStep.eq hrev, ← hsame]
          exact hscope
        · exact hmerged hrev
      refine ⟨h.ledger, fun pass' hpass' => ?_⟩
      obtain rfl := Option.some.inj hpass'
      refine ⟨hold.inStep, hold.completed, fun d hd => ?_⟩
      obtain rfl := Option.some.inj hd
      exact ⟨hstored, hlive, fun hahead => by cases hahead⟩
    · rename_i hpending
      split
      · rename_i hrev
        have hrow : pick.workflow = withCompensationStep s.row pick.step now := by
          rcases compensationPick_cases hpick with ⟨hsome, -⟩ | ⟨-, -, -, hrow⟩
          · rw [hsome] at hpending
            exact absurd rfl hpending
          · rw [hrow, hold.inStep.eq hrev]
        have hkeeps : KeepsCompleted s.row pick.workflow := by
          rw [hrow]
          exact keepsCompleted_withCompensationStep s.row pick.step now
        refine ⟨h.ledger.keeps hkeeps, fun pass' hpass' => ?_⟩
        obtain rfl := Option.some.inj hpass'
        refine ⟨.inl rfl, rfl, fun d hd => ?_⟩
        obtain rfl := Option.some.inj hd
        refine ⟨hscope, ?_, fun hahead => by cases hahead⟩
        have hretired : pick.workflow.supersededStepIndexes = s.row.supersededStepIndexes := by
          rw [hrow]
          rfl
        rw [hretired]
        exact hlive
      · exact .drop h.ledger

private theorem ExecutorSound.takeFailure {attempted : WorkflowRequest} (hstored : LedgerSound start s.row s.recorded)
    (hledger : LedgerSound start attempted s.recorded) (hpending : d.index ∉ attempted.completedStepIndexes)
    (outcome : StepOutcome) (verdict : BranchVerdict) :
    ExecutorSound start (s.takeFailure pass d attempted outcome verdict now) := by
  unfold Executor.takeFailure
  dsimp only
  split
  · exact .drop hstored
  · rename_i row htaken
    split at htaken
    · cases htaken
    · exact .of_held (hledger.keeps (keepsCompleted_escalate hpending htaken)) rfl rfl
  · exact .of_held hledger rfl rfl

private theorem LedgerSound.recordCompletion (h : LedgerSound start row recorded)
    (hlive : d.index ∉ row.supersededStepIndexes)
    (hscope : scopeAt d.isSafety row d.index = some d.step.scope) (operation : WorkflowOperation) :
    LedgerSound start (recordCompletion row d.index operation now) (d :: recorded) := by
  refine ⟨fun other hother => ?_, fun i hi => ?_⟩
  · rcases List.mem_cons.mp hother with rfl | hother
    · exact ⟨List.mem_append_right _ (List.mem_singleton.mpr rfl), hlive, hscope⟩
    · obtain ⟨hdone, hlive', hscope'⟩ := h.completions other hother
      exact ⟨List.mem_append_left _ hdone, hlive', hscope'⟩
  · rcases List.mem_append.mp hi with hi | hi
    · rcases h.dispatched i hi with hstart | hinherited | ⟨other, hother, he⟩
      · exact .inl hstart
      · exact .inr (.inl hinherited)
      · exact .inr (.inr ⟨other, List.mem_cons_of_mem _ hother, he⟩)
    · exact .inr (.inr ⟨d, List.mem_cons_self, (List.mem_singleton.mp hi).symm⟩)

private theorem ExecutorSound.takeSuccess {attempted : WorkflowRequest} (hstored : LedgerSound start s.row s.recorded)
    (hledger : LedgerSound start attempted s.recorded) (hsubmitted : d.index ∈ submittedStepIndexes attempted)
    (hlive : d.index ∉ attempted.supersededStepIndexes)
    (hscope : scopeAt d.isSafety attempted d.index = some d.step.scope) (outcome : StepOutcome)
    (inventory : String → List String) :
    ExecutorSound start (s.takeSuccess pass d attempted outcome inventory now) := by
  unfold Executor.takeSuccess
  dsimp only
  split
  · exact .drop hstored
  · rename_i row hrebound
    refine .of_held ?_ rfl rfl
    split at hrebound
    · cases hrebound
      exact hledger.recordCompletion hlive hscope _
    · obtain ⟨hkeeps, hretired, hscopes⟩ := rebindNodes_keeps hrebound
      refine (hledger.keeps hkeeps).recordCompletion ?_ ?_ _
      · rw [hretired]
        exact hlive
      · rw [hscopes d.isSafety d.index hsubmitted]
        exact hscope

private theorem scopeAt_retargetEvidence {targets : List EvidenceTarget} {index : Nat} (isSafety : Bool)
    (h : ∀ target ∈ targets, target.index ≠ index) :
    scopeAt isSafety (retargetEvidence row targets) index = scopeAt isSafety row index := by
  unfold retargetEvidence
  split
  · rfl
  · cases isSafety with
    | true => rfl
    | false =>
      refine stepScope?_map_zipIdx fun step _ => ?_
      dsimp only
      split
      · rfl
      · rename_i target hfound
        have hindex := List.find?_some hfound
        simp only [Bool.and_eq_true, beq_iff_eq] at hindex
        exact absurd hindex.1 (h target (List.mem_of_find?_eq_some hfound))

private theorem mem_submitted_recordAttempt (row : WorkflowRequest) (step : WorkflowStepSpec) (index : Nat)
    (outcome : StepOutcome) (now : Time) :
    index ∈ submittedStepIndexes (recordAttempt row step index outcome now) := by
  refine List.mem_append_right _ (List.mem_map.mpr ⟨attemptRecord row step index outcome now, ?_, rfl⟩)
  exact mem_recordAttempt.mpr (.inr rfl)

/-- Only a survey can move the step whose success it reads. -/
private theorem ExecutorSound.record (h : ExecutorSound start s) (hpass : s.pass = some pass)
    (hd : pass.inFlight = some d) {outcome : StepOutcome} {verdict : BranchVerdict} {inventory : String → List String}
    {targets : List EvidenceTarget} (hspares : EventSpares s (.record outcome verdict inventory targets now)) :
    ExecutorSound start (s.record pass d outcome verdict inventory targets now) := by
  obtain ⟨hscope, hlive, hpending⟩ := (h.pass pass hpass).flight d hd
  have hledger := h.ledger.keeps (keepsCompleted_recordAttempt s.row d.step d.index outcome now)
  have hsubmitted := mem_submitted_recordAttempt s.row d.step d.index outcome now
  unfold Executor.record
  dsimp only
  cases hstatus : outcome.status with
  | waiting => exact .of_held hledger rfl rfl
  | failed =>
    dsimp only
    split
    · exact .drop hledger
    · rename_i hahead
      exact .takeFailure h.ledger hledger (hpending (Bool.eq_false_iff.mpr hahead)) outcome verdict
  | succeeded =>
    dsimp only
    split
    · rename_i hsurveys
      have htargets := hspares pass d hpass hd hstatus hsurveys
      have hsurveyed := @keepsCompleted_retargetEvidence (recordAttempt s.row d.step d.index outcome now) targets
        fun target htarget => (htargets target htarget).1
      have hmoved :=
        @scopeAt_retargetEvidence (recordAttempt s.row d.step d.index outcome now) targets d.index d.isSafety
        fun target htarget => (htargets target htarget).2
      have hretarget : ∀ row : WorkflowRequest, (retargetEvidence row targets).supersededStepIndexes =
          row.supersededStepIndexes ∧ submittedStepIndexes (retargetEvidence row targets) =
            submittedStepIndexes row := by
        intro row
        unfold retargetEvidence
        split <;> exact ⟨rfl, rfl⟩
      refine .takeSuccess h.ledger (hledger.keeps hsurveyed) ?_ ?_ (hmoved.trans hscope) outcome inventory
      · rw [(hretarget _).2]
        exact hsubmitted
      · rw [(hretarget _).1]
        exact hlive
    · exact .takeSuccess h.ledger hledger hsubmitted hlive hscope outcome inventory

private theorem ExecutorSound.endBatch (h : ExecutorSound start s) (hfree : s.freePass = some pass) :
    ExecutorSound start (s.endBatch pass now) := by
  obtain ⟨hpass, hflight⟩ := freePass_eq hfree
  have hold := h.pass pass hpass
  unfold Executor.endBatch
  split
  · exact h
  · split
    · refine ⟨h.ledger, fun pass' hpass' => ?_⟩
      obtain rfl := Option.some.inj hpass'
      exact ⟨hold.inStep, hold.completed, hold.flight⟩
    · rename_i parked hparked
      split
      · rename_i hrev
        have hkeeps := keepsCompleted_parkedRow hparked
        rw [hold.inStep.eq hrev] at hkeeps
        exact .of_held (h.ledger.keeps hkeeps) rfl hflight
      · exact .drop h.ledger

private theorem ExecutorSound.withholdRestart (h : ExecutorSound start s) (hfree : s.freePass = some pass)
    (index : Nat) (outcome : StepOutcome) : ExecutorSound start (s.withholdRestart pass index outcome now) := by
  obtain ⟨hpass, hflight⟩ := freePass_eq hfree
  have hold := h.pass pass hpass
  unfold Executor.withholdRestart
  split
  · exact h
  · rename_i step hstep
    split
    · exact h
    · rename_i hpending
      split
      · rename_i hrev
        have hlive : index ∉ pass.held.resolvedStepIndexes := by
          simp only [Bool.or_eq_true, not_or, List.contains_iff_mem] at hpending
          exact hpending.2
        rw [hold.inStep.eq hrev] at hlive ⊢
        have hretired := @keepsCompleted_retireSteps (recordAttempt s.row step index outcome now) [index]
          (fun i hi => by
            rw [List.mem_singleton.mp hi]
            exact not_mem_completed hlive) now
        refine .of_held (h.ledger.keeps ?_) rfl hflight
        exact ((keepsCompleted_recordAttempt s.row step index outcome now).trans hretired).trans
          (.of_steps rfl rfl rfl fun _ => rfl)
      · exact .drop h.ledger

/-- An event that spares the step in flight keeps the ledger sound. -/
private theorem ExecutorSound.step (h : ExecutorSound start s) {event : ExecutorEvent}
    (hspares : EventSpares s event) :
    ExecutorSound start (executorStep s event) := by
  have hfree : ∀ (next : ExecutorPass → Executor),
      (∀ pass, s.freePass = some pass → ExecutorSound start (next pass)) →
        ExecutorSound start (s.freePass.elim s next) := by
    intro next hnext
    cases hpass : s.freePass with
    | none => exact h
    | some pass => exact hnext pass hpass
  cases event with
  | claim predecessor now => exact h.claim predecessor
  | abort => exact .drop h.ledger
  | withdraw reason now => exact h.withdraw reason
  | merge merge now => exact h.merge hspares
  | scan now => exact hfree _ fun pass hpass => h.scan hpass
  | dispatch => exact hfree _ fun pass hpass => h.dispatch hpass hspares
  | restoreAhead now => exact hfree _ fun pass hpass => h.restoreAhead hpass hspares
  | record outcome verdict inventory targets now =>
    simp only [executorStep]
    cases hpass : s.pass with
    | none => exact h
    | some pass =>
      cases hd : pass.inFlight with
      | none =>
        simp only [Option.elim_some, hd]
        exact h
      | some d =>
        simp only [Option.elim_some, hd]
        exact h.record hpass hd hspares
  | endBatch now => exact hfree _ fun pass hpass => h.endBatch hpass
  | withholdRestart index outcome now => exact hfree _ fun pass hpass => h.withholdRestart hpass index outcome

end Events

/-! ### Whole runs -/

/-- In every run whose events spare the step in flight, what the row says it completed is what was dispatched, in
every state reached. -/
theorem recorded_steps_as_dispatched {start : WorkflowRequest} {events : List ExecutorEvent}
    (hrun : Run.Along executorStep EventSpares { row := start } events) :
    LedgerSound start (Run.exec executorStep { row := start } events).row
      (Run.exec executorStep { row := start } events).recorded := by
  have hstart : ExecutorSound start { row := start } := by
    refine ExecutorSound.drop ⟨fun d hd => ?_, fun i hi => .inl hi⟩
    cases hd
  have hend : ExecutorSound start (Run.exec executorStep { row := start } events) :=
    Run.invariant_exec (fun s event h hspares => h.step hspares) hstart hrun
  exact hend.ledger

section Widening

private def flatReset : WorkflowRequest :=
  { requestId := "w", status := .pending,
    officialSteps := [{ operation := .resetGpu, nodeIds := ["n1"], gpuUuids := ["g1"] }] }

/-- A second fault on another GPU of the node. -/
private def otherGpuReset : WorkflowRequest :=
  { requestId := "v", status := .pending,
    officialSteps := [{ operation := .resetGpu, nodeIds := ["n1"], gpuUuids := ["g2"] }] }

private def resetAnswered : ExecutorEvent := .record { status := .succeeded } .jobLevel (fun _ => []) [] 3

/-- The fault is merged before the reset is dispatched, and the pass reads the widened step. -/
private def widenedFirst : List ExecutorEvent :=
  [.claim none 0, .merge (.widenInPlace otherGpuReset "n1" ["g2"]) 1, .scan 2, .dispatch, resetAnswered]

/-- The fault is merged while the reset runs. -/
private def widenedInFlight : List ExecutorEvent :=
  [.claim none 0, .scan 1, .dispatch, .merge (.widenInPlace otherGpuReset "n1" ["g2"]) 2, resetAnswered]

theorem recorded_steps_as_dispatched_widened :
    Run.Along executorStep EventSpares { row := flatReset } widenedFirst ∧
      LedgerSound flatReset (Run.exec executorStep { row := flatReset } widenedFirst).row
        (Run.exec executorStep { row := flatReset } widenedFirst).recorded ∧
      (Run.exec executorStep { row := flatReset } widenedFirst).recorded.map (fun d => d.step.gpuUuids) =
        [["g1", "g2"]] := by
  have hrun : Run.Along executorStep EventSpares { row := flatReset } widenedFirst := by
    refine ⟨trivial, ?_, trivial, ?_, ?_, trivial⟩
    · intro pass d hpass hd
      obtain rfl := Option.some.inj hpass
      cases hd
    · intro pass index rest hfree _ hmerged
      obtain rfl := Option.some.inj hfree
      exact absurd rfl hmerged
    · intro pass d hpass hd _ hsurveys
      obtain rfl := Option.some.inj hpass
      cases hsurveys
  exact ⟨hrun, recorded_steps_as_dispatched hrun, by decide⟩

/-- The reset was dispatched for one GPU and is stored as completed for two: its step had no record yet when the
second fault was merged, so the merge widened it, and the pass wrote its completion on the row it then found. -/
theorem reset_completed_for_undispatched_gpu :
    ¬ LedgerSound flatReset (Run.exec executorStep { row := flatReset } widenedInFlight).row
      (Run.exec executorStep { row := flatReset } widenedInFlight).recorded := by
  intro h
  obtain ⟨-, -, hscope⟩ := h.completions
    { index := 0, step := { operation := .resetGpu, nodeIds := ["n1"], gpuUuids := ["g1"] }, isSafety := false }
    (by decide)
  revert hscope
  decide

end Widening

end GpuFaultRecovery
