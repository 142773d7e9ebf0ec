import GpuFaultRecovery.NodeAction

/-!
# Recording an attempt

What an adapter answers is written on the row as the record of its step: it takes the place of the record the step
had, and the records stay in the order of their steps. A completion is written separately, after the record.
-/

namespace GpuFaultRecovery

/-- What an adapter answers for one step (`WorkflowStepOutcome`). -/
structure StepOutcome where
  status : WorkflowStepStatus
  adapterOperationId : Option String := none
  error : Option String := none
  details : Details := []
deriving Repr, DecidableEq, Inhabited

/-- The record a step already has, the last one written. -/
def previousExecution (workflow : WorkflowRequest) (step : WorkflowStepSpec) (index : Nat) :
    Option WorkflowStepExecution :=
  workflow.stepExecutions.reverse.find? fun item =>
    executionMatchesStep item index step.operation (some workflow.executionPhase)

/-- The operations the two step lists of a row have at `index`. -/
def legitimateOperations (workflow : WorkflowRequest) (index : Nat) : List WorkflowOperation :=
  ((workflow.officialSteps[index]?).toList ++ (workflow.safetySteps[index]?).toList).map WorkflowStepSpec.operation

/-- Whether a record of the row outlives a new record of `step`: another step's does, and at the same index the one of
another operation the row still has there. -/
def survivesAttempt (workflow : WorkflowRequest) (step : WorkflowStepSpec) (index : Nat)
    (item : WorkflowStepExecution) : Bool :=
  item.stepIndex != index ||
    (!executionMatchesStep item index step.operation (some workflow.executionPhase) &&
      (legitimateOperations workflow index).contains item.operation)

/-- The record of one attempt; the first attempt starts the clock of the step. -/
def attemptRecord (workflow : WorkflowRequest) (step : WorkflowStepSpec) (index : Nat) (outcome : StepOutcome)
    (now : Time) : WorkflowStepExecution :=
  { stepIndex := index
    operation := step.operation
    status := outcome.status
    phase := some workflow.executionPhase
    adapterOperationId := outcome.adapterOperationId
    error := outcome.error
    details := outcome.details
    startedAt := ((previousExecution workflow step index).map WorkflowStepExecution.startedAt).getD now
    updatedAt := now }

def recordAttempt (workflow : WorkflowRequest) (step : WorkflowStepSpec) (index : Nat) (outcome : StepOutcome)
    (now : Time) : WorkflowRequest :=
  { workflow with
    stepExecutions := (workflow.stepExecutions.filter (survivesAttempt workflow step index) ++
      [attemptRecord workflow step index outcome now]).insertionSort fun a b => a.stepIndex ≤ b.stepIndex
    updatedAt := now }

/-- Mark the step at `index` as finished. -/
def recordCompletion (workflow : WorkflowRequest) (index : Nat) (operation : WorkflowOperation) (now : Time) :
    WorkflowRequest :=
  { workflow with
    completedStepIndexes := workflow.completedStepIndexes ++ [index]
    completedOperations := workflow.completedOperations ++ [operation]
    updatedAt := now }

section Records

variable {workflow : WorkflowRequest} {step : WorkflowStepSpec} {index : Nat} {outcome : StepOutcome} {now : Time}
  {operation : WorkflowOperation}

@[simp] theorem recordAttempt_completedStepIndexes :
    (recordAttempt workflow step index outcome now).completedStepIndexes = workflow.completedStepIndexes := rfl

@[simp] theorem recordAttempt_supersededStepIndexes :
    (recordAttempt workflow step index outcome now).supersededStepIndexes = workflow.supersededStepIndexes := rfl

@[simp] theorem recordAttempt_officialSteps :
    (recordAttempt workflow step index outcome now).officialSteps = workflow.officialSteps := rfl

@[simp] theorem recordAttempt_safetySteps :
    (recordAttempt workflow step index outcome now).safetySteps = workflow.safetySteps := rfl

@[simp] theorem recordAttempt_executesSafetySteps :
    (recordAttempt workflow step index outcome now).executesSafetySteps = workflow.executesSafetySteps := rfl

@[simp] theorem recordAttempt_resolvedStepIndexes :
    (recordAttempt workflow step index outcome now).resolvedStepIndexes = workflow.resolvedStepIndexes := rfl

theorem mem_recordAttempt {item : WorkflowStepExecution} :
    item ∈ (recordAttempt workflow step index outcome now).stepExecutions ↔
      (item ∈ workflow.stepExecutions ∧ survivesAttempt workflow step index item = true) ∨
        item = attemptRecord workflow step index outcome now := by
  simp [recordAttempt]

end Records

/-! ### The newest record of a step -/

section Newest

variable {workflow : WorkflowRequest} {step : WorkflowStepSpec} {index : Nat} {outcome : StepOutcome} {now : Time}
  {item : WorkflowStepExecution}

def recordsOf (executions : List WorkflowStepExecution) (identity : Option StepPhase × Nat × WorkflowOperation) :
    List WorkflowStepExecution :=
  executions.filter fun execution => execution.identity == identity

private theorem mem_newestFirst (l : List WorkflowStepExecution)
    (seen : List (Option StepPhase × Nat × WorkflowOperation)) :
    item ∈ newestFirst (fun _ => true) l seen ↔
      item.identity ∉ seen ∧ (recordsOf l item.identity).head? = some item := by
  induction l generalizing seen with
  | nil => simp [newestFirst, recordsOf]
  | cons execution older ih =>
    by_cases hsame : execution.identity = item.identity
    · by_cases hseen : execution.identity ∈ seen
      · simp [newestFirst, recordsOf, hsame, hsame ▸ hseen, ih]
      · have hrest : item ∉ newestFirst (fun _ => true) older (execution.identity :: seen) := by
          simp [ih, hsame]
        simp [newestFirst, recordsOf, hsame, hsame ▸ hseen, hsame ▸ hrest, eq_comm]
    · have hne : item ≠ execution := fun h => hsame (by rw [h])
      by_cases hseen : execution.identity ∈ seen
      · simp [newestFirst, recordsOf, hsame, hseen, ih]
      · simp [newestFirst, recordsOf, hsame, hseen, ih, hne, Ne.symm hsame]

/-- The last record of a step answers for it. -/
theorem hasUnresolvedNodeAction_iff :
    hasUnresolvedNodeAction workflow true = true ↔
      ∃ item, (recordsOf workflow.stepExecutions item.identity).getLast? = some item ∧
        unresolvedNodeAction item = true := by
  simp [hasUnresolvedNodeAction, mem_newestFirst, recordsOf, List.filter_reverse, List.head?_reverse]

private theorem recordsOf_insertionSort (l : List WorkflowStepExecution)
    (identity : Option StepPhase × Nat × WorkflowOperation) :
    recordsOf (l.insertionSort fun a b => a.stepIndex ≤ b.stepIndex) identity = recordsOf l identity := by
  have hpair : (recordsOf l identity).Pairwise fun a b => a.stepIndex ≤ b.stepIndex := by
    refine List.pairwise_of_forall_mem_list fun a ha b hb => ?_
    simp only [recordsOf, List.mem_filter, beq_iff_eq, WorkflowStepExecution.identity] at ha hb
    have hindex := congrArg (fun k => k.2.1) (ha.2.trans hb.2.symm)
    exact le_of_eq hindex
  have hsub := (List.sublist_insertionSort hpair List.filter_sublist).filter fun execution =>
      execution.identity == identity
  rw [recordsOf, List.filter_filter] at hsub
  simp only [Bool.and_self] at hsub
  refine (hsub.eq_of_length ?_).symm
  exact ((List.perm_insertionSort _ l).filter _).length_eq.symm

private theorem identity_ne_of_survives (h : survivesAttempt workflow step index item = true) :
    item.identity ≠ (attemptRecord workflow step index outcome now).identity := by
  intro hid
  simp only [WorkflowStepExecution.identity, attemptRecord, Prod.mk.injEq] at hid
  obtain ⟨hphase, hindex, hoperation⟩ := hid
  simp [survivesAttempt, executionMatchesStep, hphase, hindex, hoperation] at h

/-- A success answers for its own step and for no other. -/
theorem hasUnresolvedNodeAction_recordAttempt (h : outcome.status = .succeeded) :
    hasUnresolvedNodeAction (recordAttempt workflow step index outcome now) true =
      hasUnresolvedNodeAction
        { workflow with stepExecutions := workflow.stepExecutions.filter (survivesAttempt workflow step index) }
          true := by
  rw [Bool.eq_iff_iff, hasUnresolvedNodeAction_iff, hasUnresolvedNodeAction_iff]
  refine exists_congr fun item => ?_
  have hrecords : recordsOf (recordAttempt workflow step index outcome now).stepExecutions item.identity =
      recordsOf (workflow.stepExecutions.filter (survivesAttempt workflow step index)) item.identity ++
        recordsOf [attemptRecord workflow step index outcome now] item.identity := by
    rw [recordAttempt, recordsOf_insertionSort, recordsOf, List.filter_append]
    rfl
  rw [hrecords]
  by_cases hsame : (attemptRecord workflow step index outcome now).identity = item.identity
  · refine iff_of_false ?_ ?_
    · rintro ⟨hlast, hunresolved⟩
      have hitem : attemptRecord workflow step index outcome now = item := by
        simpa [recordsOf, hsame] using hlast
      subst hitem
      simp [unresolvedNodeAction, attemptRecord, h] at hunresolved
    · rintro ⟨hlast, -⟩
      have hmem := List.mem_of_getLast? hlast
      simp only [recordsOf, List.mem_filter] at hmem
      exact identity_ne_of_survives hmem.1.2 hsame.symm
  · simp [recordsOf, hsame]

end Newest

end GpuFaultRecovery
