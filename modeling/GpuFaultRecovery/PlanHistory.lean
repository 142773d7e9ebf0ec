import GpuFaultRecovery.ExecutorRecords
import GpuFaultRecovery.BranchLadder

/-!
# Rewrites leave history alone

A plan is rewritten while it runs: branches are appended, replaced, queued and widened, steps are rebound to
replacement nodes, a failed branch climbs its ladder. Each rewrite works out for itself which steps it may no longer
touch. Common to all of them is that steps stay at their indexes, and that a step with a result or a record keeps what
it does.
-/

namespace GpuFaultRecovery

inductive RunningRewrite where
  | append (candidate : WorkflowRequest) (predecessorStepIndex : Option Nat) (replaced : List Nat)
  | replace (candidate : WorkflowRequest) (nodeId : String) (branchId : Option String)
  | successor (candidate : WorkflowRequest) (nodeId : String)
  | widenBranch (candidate : WorkflowRequest) (nodeId : String) (gpuUuids : List String)
  | widen (candidate : WorkflowRequest) (nodeId : String) (gpuUuids : List String)
  | rebind (rebindings : List (String × String)) (inventory : String → List String) (isSafety : Bool)
      (afterIndex : Nat)
  | escalate (profile : Option RuntimeProfile) (maxRungs failedIndex : Nat) (error : Option String)
      (details : Details)

def RunningRewrite.apply (row : WorkflowRequest) (now : Time) : RunningRewrite → Except String WorkflowRequest
  | .append candidate predecessorStepIndex replaced =>
    appendParallelJobBranch row candidate predecessorStepIndex replaced now
  | .replace candidate nodeId branchId => replaceParallelJobBranch row candidate nodeId branchId now
  | .successor candidate nodeId => appendParallelJobBranchSuccessor row candidate nodeId now
  | .widenBranch candidate nodeId gpuUuids => .ok (widenParallelJobBranch row candidate nodeId gpuUuids now)
  | .widen candidate nodeId gpuUuids =>
    .ok { row with officialSteps := widenInPlace row candidate nodeId gpuUuids, updatedAt := now }
  | .rebind rebindings inventory isSafety afterIndex => rebindNodes row rebindings inventory isSafety afterIndex now
  | .escalate profile maxRungs failedIndex error details => do
    -- a failure that is not one node branch's leaves the plan to the caller
    let escalation ← escalateNodeBranch profile maxRungs row failedIndex error details now
    return (escalation.map BranchEscalation.workflow).getD row

def runningStep (row : WorkflowRequest) (rewrite : RunningRewrite × Time) : WorkflowRequest :=
  match rewrite.1.apply row rewrite.2 with
  | .ok rewritten => rewritten
  | .error _ => row

/-- Whether a step completed, was superseded or has a record. -/
def HasHistory (row : WorkflowRequest) (index : Nat) : Prop :=
  index ∈ row.completedStepIndexes ∨ index ∈ row.supersededStepIndexes ∨
    ∃ execution ∈ row.stepExecutions, execution.stepIndex = index

/-- The plan of `row'` continues the one of `row`: it grows at its end, and the history stands. -/
structure HistoryKept (row row' : WorkflowRequest) : Prop where
  completed : row'.completedStepIndexes = row.completedStepIndexes
  executions : row'.stepExecutions = row.stepExecutions
  superseded : ∀ i ∈ row.supersededStepIndexes, i ∈ row'.supersededStepIndexes
  operations : ∀ isSafety (i : Nat) step, (phaseSteps isSafety row)[i]? = some step →
    ∃ step', (phaseSteps isSafety row')[i]? = some step' ∧ step'.operation = step.operation
  work : ∀ isSafety (i : Nat) step, (phaseSteps isSafety row)[i]? = some step → HasHistory row i →
    ∃ step', (phaseSteps isSafety row')[i]? = some step' ∧ step'.operation = step.operation ∧
      step'.nodeIds = step.nodeIds ∧ step'.gpuUuids = step.gpuUuids ∧ step'.parameters = step.parameters

section History

variable {row row' row'' existing candidate rewritten : WorkflowRequest} {steps steps' : List WorkflowStepSpec}
  {step : WorkflowStepSpec} {predecessor : Option Nat} {replaced : List Nat} {now : Time} {i : Nat}

theorem hasHistory_iff : HasHistory row i ↔ i ∈ submittedStepIndexes row := by
  unfold HasHistory submittedStepIndexes WorkflowRequest.resolvedStepIndexes
  simp only [List.mem_append, List.mem_map, or_assoc]

private theorem HistoryKept.hasHistory (h : HistoryKept row row') (hi : HasHistory row i) : HasHistory row' i := by
  unfold HasHistory at hi ⊢
  rw [h.completed, h.executions]
  exact hi.imp_right fun hrest => hrest.imp_left (h.superseded i)

private theorem HistoryKept.refl (row : WorkflowRequest) : HistoryKept row row where
  completed := rfl
  executions := rfl
  superseded _ hi := hi
  operations _ _ step hstep := ⟨step, hstep, rfl⟩
  work _ _ step hstep _ := ⟨step, hstep, rfl, rfl, rfl, rfl⟩

private theorem HistoryKept.trans (h : HistoryKept row row') (h' : HistoryKept row' row'') :
    HistoryKept row row'' where
  completed := h'.completed.trans h.completed
  executions := h'.executions.trans h.executions
  superseded i hi := h'.superseded i (h.superseded i hi)
  operations isSafety i step hstep := by
    obtain ⟨step', hstep', hop⟩ := h.operations isSafety i step hstep
    obtain ⟨step'', hstep'', hop'⟩ := h'.operations isSafety i step' hstep'
    exact ⟨step'', hstep'', hop'.trans hop⟩
  work isSafety i step hstep hi := by
    obtain ⟨step', hstep', hop, hnodes, hgpus, hparameters⟩ := h.work isSafety i step hstep hi
    obtain ⟨step'', hstep'', hop', hnodes', hgpus', hparameters'⟩ := h'.work isSafety i step' hstep' (h.hasHistory hi)
    exact ⟨step'', hstep'', hop'.trans hop, hnodes'.trans hnodes, hgpus'.trans hgpus, hparameters'.trans hparameters⟩

private theorem exists_of_stepOperation? (h : stepOperation? steps' i = stepOperation? steps i)
    (hstep : steps[i]? = some step) :
    ∃ step', steps'[i]? = some step' ∧ step'.operation = step.operation := by
  unfold stepOperation? at h
  rw [hstep] at h
  exact Option.map_eq_some_iff.mp h

private theorem exists_of_stepWork? (h : stepWork? steps' i = stepWork? steps i) (hstep : steps[i]? = some step) :
    ∃ step', steps'[i]? = some step' ∧ step'.operation = step.operation ∧ step'.nodeIds = step.nodeIds ∧
      step'.gpuUuids = step.gpuUuids ∧ step'.parameters = step.parameters := by
  unfold stepWork? at h
  rw [hstep] at h
  obtain ⟨step', hstep', hwork⟩ := Option.map_eq_some_iff.mp h
  have hfields : step'.work.operation = step.work.operation ∧ step'.work.nodeIds = step.work.nodeIds ∧
      step'.work.gpuUuids = step.work.gpuUuids ∧ step'.work.parameters = step.work.parameters := by
    rw [hwork]
    exact ⟨rfl, rfl, rfl, rfl⟩
  exact ⟨step', hstep', hfields⟩

private theorem HistoryKept.of_steps (hcompleted : row'.completedStepIndexes = row.completedStepIndexes)
    (hexecutions : row'.stepExecutions = row.stepExecutions)
    (hsuperseded : ∀ i ∈ row.supersededStepIndexes, i ∈ row'.supersededStepIndexes)
    (hoperations : ∀ isSafety, ∀ i < (phaseSteps isSafety row).length,
      stepOperation? (phaseSteps isSafety row') i = stepOperation? (phaseSteps isSafety row) i)
    (hwork : ∀ isSafety, ∀ i ∈ submittedStepIndexes row, i < (phaseSteps isSafety row).length →
      stepWork? (phaseSteps isSafety row') i = stepWork? (phaseSteps isSafety row) i) : HistoryKept row row' where
  completed := hcompleted
  executions := hexecutions
  superseded := hsuperseded
  operations isSafety i _ hstep :=
    exists_of_stepOperation? (hoperations isSafety i (List.getElem?_eq_some_iff.mp hstep).1) hstep
  work isSafety i _ hstep hi :=
    exists_of_stepWork? (hwork isSafety i (hasHistory_iff.mp hi) (List.getElem?_eq_some_iff.mp hstep).1) hstep

private theorem HistoryKept.of_eq (hcompleted : row'.completedStepIndexes = row.completedStepIndexes)
    (hexecutions : row'.stepExecutions = row.stepExecutions)
    (hsuperseded : ∀ i ∈ row.supersededStepIndexes, i ∈ row'.supersededStepIndexes)
    (hsteps : ∀ isSafety, phaseSteps isSafety row' = phaseSteps isSafety row) : HistoryKept row row' :=
  .of_steps hcompleted hexecutions hsuperseded (fun isSafety _ _ => by rw [hsteps]) fun isSafety _ _ _ => by
    rw [hsteps]

/-! ### One rewrite -/

private theorem historyKept_adoptLinearPlan (row : WorkflowRequest) (now : Time) :
    HistoryKept row (adoptLinearPlan row now) := by
  unfold adoptLinearPlan
  split
  · exact .refl row
  · refine .of_steps rfl rfl (fun _ hi => hi) (fun isSafety i _ => ?_) fun isSafety i _ _ => ?_
    · cases isSafety with
      | true => rfl
      | false => exact stepOperation?_normalizedSteps row i
    · cases isSafety with
      | true => rfl
      | false => exact stepWork?_normalizedSteps row i

theorem historyKept_append
    (h : appendParallelJobBranch existing candidate predecessor replaced now = .ok rewritten) :
    HistoryKept existing rewritten := by
  rcases appendParallelJobBranch_ok h with rfl | ⟨candidate', branch, action, -, -, rfl⟩
  · exact .refl rewritten
  refine .of_steps rfl rfl (fun i hi => ?_) (fun isSafety i hlt => ?_) fun isSafety i hi hlt => ?_
  · exact mem_sortedSet.mpr (List.mem_append_left _ hi)
  · cases isSafety with
    | true => rfl
    | false => exact stepOperation?_branchRewrite hlt
  · cases isSafety with
    | true => rfl
    | false => exact stepWork?_branchRewrite_submitted hi hlt

/-- Rewriting the official steps one by one, but for those whose scope is fixed. -/
private theorem HistoryKept.of_map {f : WorkflowStepSpec × Nat → WorkflowStepSpec}
    (hcompleted : row'.completedStepIndexes = row.completedStepIndexes)
    (hexecutions : row'.stepExecutions = row.stepExecutions)
    (hsuperseded : row'.supersededStepIndexes = row.supersededStepIndexes)
    (hsafety : row'.safetySteps = row.safetySteps) (hofficial : row'.officialSteps = row.officialSteps.zipIdx.map f)
    (hoperation : ∀ step i, (f (step, i)).operation = step.operation)
    (hfixed : ∀ step, ∀ i ∈ fixedScopeStepIndexes row, f (step, i) = step) : HistoryKept row row' := by
  refine .of_steps hcompleted hexecutions (fun i hi => by rwa [hsuperseded]) (fun isSafety i _ => ?_)
    fun isSafety i hi _ => ?_
  · cases isSafety with
    | true => simp [phaseSteps, hsafety]
    | false =>
      simp only [phaseSteps, Bool.false_eq_true, if_false, hofficial, stepOperation?, List.getElem?_map,
        List.getElem?_zipIdx, Option.map_map]
      cases row.officialSteps[i]? with
      | none => rfl
      | some step => simp [hoperation]
  · cases isSafety with
    | true => simp [phaseSteps, hsafety]
    | false =>
      simp only [phaseSteps, Bool.false_eq_true, if_false, hofficial]
      exact stepWork?_map_zipIdx fun step _ => by rw [hfixed step i (List.mem_append_left _ hi)]

private theorem historyKept_widenBranch (row candidate : WorkflowRequest) (nodeId : String) (gpuUuids : List String)
    (now : Time) :
    HistoryKept row (widenParallelJobBranch row candidate nodeId gpuUuids now) := by
  refine .of_map rfl rfl rfl rfl rfl (fun step i => ?_) fun step i hi => ?_
  · dsimp only
    split <;> rfl
  · simp [hi]

private theorem historyKept_widenInPlace (row candidate : WorkflowRequest) (nodeId : String) (gpuUuids : List String)
    (now : Time) :
    HistoryKept row { row with officialSteps := widenInPlace row candidate nodeId gpuUuids, updatedAt := now } := by
  refine .of_map rfl rfl rfl rfl rfl (fun step i => ?_) fun step i hi => ?_
  · dsimp only
    split <;> rfl
  · simp [hi]

theorem historyKept_rebindNodes {rebindings : List (String × String)} {inventory : String → List String}
    {isSafety : Bool} {afterIndex : Nat}
    (h : rebindNodes row rebindings inventory isSafety afterIndex now = .ok row') :
    HistoryKept row row' := by
  have hwork : ∀ phase, ∀ i ∈ submittedStepIndexes row,
      stepWork? (phaseSteps phase row') i = stepWork? (phaseSteps phase row) i :=
    fun phase i hi => stepWork?_rebindNodes h phase hi
  unfold rebindNodes at h
  dsimp only at h
  split at h
  · cases h
  · cases h
    have hrebound : planShape ((phaseSteps isSafety row).zipIdx.map fun entry =>
        if rebinds row isSafety afterIndex entry.2 then reboundStep rebindings inventory entry.1 else entry.1) =
        planShape (phaseSteps isSafety row) := by
      refine planShape_map_zipIdx fun step index => ?_
      dsimp only
      split <;> exact ⟨rfl, rfl⟩
    refine .of_steps rfl rfl (fun _ hi => hi) (fun phase i _ => ?_) fun phase i hi _ => hwork phase i hi
    cases phase <;> cases isSafety <;> first | rfl | exact stepOperation?_eq_of_shape hrebound i

private theorem historyKept_replace {nodeId : String} {branchId : Option String}
    (h : replaceParallelJobBranch existing candidate nodeId branchId now = .ok rewritten) :
    HistoryKept existing rewritten := by
  unfold replaceParallelJobBranch at h
  split at h
  · cases h
    exact .refl existing
  · exact historyKept_append h

theorem historyKept_exhaustBranch (row : WorkflowRequest) (branchId : String) (now : Time) :
    HistoryKept row (exhaustBranch row branchId now) := by
  unfold exhaustBranch
  dsimp only
  split
  · exact .refl row
  · exact .of_eq rfl rfl (fun i hi => mem_sortedSet.mpr (List.mem_append_left _ hi)) fun _ => rfl

private theorem historyKept_escalate {profile : Option RuntimeProfile} {maxRungs failedIndex : Nat}
    {error : Option String} {details : Details} {escalation : BranchEscalation}
    (h : escalateNodeBranch profile maxRungs row failedIndex error details now = .ok (some escalation)) :
    HistoryKept row escalation.workflow := by
  obtain ⟨step, hescalates⟩ := escalateNodeBranch_move h
  have hmove := hescalates.move
  have hplan : HistoryKept row (escalatedPlan row now) := by
    unfold escalatedPlan
    split
    · exact .refl row
    · exact historyKept_adoptLinearPlan row now
  refine hplan.trans ?_
  generalize escalation.outcome = outcome at hmove
  generalize escalation.workflow = climbed at hmove
  cases hmove with
  | exhausted => exact historyKept_exhaustBranch _ _ _
  | escalated hrung htaken hsteps hreplaced =>
    exact (historyKept_replace hreplaced).trans (.of_eq rfl rfl (fun _ hi => hi) fun _ => rfl)

/-- One rewrite of any kind. -/
private theorem historyKept_runningStep (row : WorkflowRequest) (rewrite : RunningRewrite × Time) :
    HistoryKept row (runningStep row rewrite) := by
  obtain ⟨rewrite, now⟩ := rewrite
  unfold runningStep
  split
  · rename_i rewritten happly
    cases rewrite with
    | append candidate predecessor replaced => exact historyKept_append happly
    | replace candidate nodeId branchId => exact historyKept_replace happly
    | successor candidate nodeId =>
      simp only [RunningRewrite.apply, appendParallelJobBranchSuccessor] at happly
      split at happly
      · cases happly
      · exact historyKept_append happly
    | widenBranch candidate nodeId gpuUuids =>
      cases happly
      exact historyKept_widenBranch row candidate nodeId gpuUuids now
    | widen candidate nodeId gpuUuids =>
      cases happly
      exact historyKept_widenInPlace row candidate nodeId gpuUuids now
    | rebind rebindings inventory isSafety afterIndex => exact historyKept_rebindNodes happly
    | escalate profile maxRungs failedIndex error details =>
      obtain ⟨escalation, hescalated, happly⟩ := bind_ok happly
      cases Except.ok.inj happly
      cases escalation with
      | none => exact .refl row
      | some escalation => exact historyKept_escalate hescalated
  · exact .refl row

end History

/-- **Plan rewrites leave history alone**: any number of rewrites, of any kind and in any order, add steps at the end
and retire steps; results, records and the steps they are about stay. -/
theorem rewrites_leave_history (row : WorkflowRequest) (rewrites : List (RunningRewrite × Time)) :
    HistoryKept row (Run.exec runningStep row rewrites) := by
  induction rewrites generalizing row with
  | nil => exact .refl row
  | cons rewrite rest ih => exact (historyKept_runningStep row rewrite).trans (ih _)

end GpuFaultRecovery
