import GpuFaultRecovery.ExecutionWindow

/-!
# The checker of a record

After every write a record is checked against what the executor, the dispatcher and the merges each assume of it. The
check reads the record alone and lists what it finds wrong. What it finds nothing wrong with is described by
`PlanSound`, in terms of the record's indexes, edges, labels and counters.
-/

namespace GpuFaultRecovery

/-! ### Violations -/

/-- Stamped on every RESTART_WORKLOAD that a rewrite rewires, and on nothing else. -/
def joinBranchId : String := "join"

inductive InvariantViolation where
  | completedTwice (indexes : List Nat)
  | supersededTwice (indexes : List Nat)
  | completedAndSuperseded (indexes : List Nat)
  | outsideSteps (name : String) (indexes : List Nat)
  | invalidDependencies (index : Nat) (dependencies : List Nat)
  | severalJoins (indexes : List Nat)
  | joinLabel (index : Nat) (operation : WorkflowOperation)
  | unresolvedSteps
  | unknownBranches (branchIds : List String)
  | unknownNodes (nodes : List String)
  | ownedAfterEnd (status : WorkflowStatus)
  | leasedAfterEnd (status : WorkflowStatus)
  | runningUnowned
  | preemptedStill
  | withdrawnUnexplained
  | lifetimeBeforeCreation
  | executionOutside (record : WorkflowStepExecution) (limit : Nat)
  | tooManyEvents (count : Nat)
  | eventsUnordered (position : Nat)
deriving Repr, DecidableEq

/-- A violation that names what is `bad`, if anything is. -/
def reportBad {α : Type} (bad : List α) (violation : List α → InvariantViolation) : List InvariantViolation :=
  if bad.isEmpty then [] else [violation bad]

/-- A violation unless `ok`. -/
def reportUnless (ok : Bool) (violation : InvariantViolation) : List InvariantViolation := if ok then []
      else [violation]

/-! ### The checks -/

def indexListViolations (workflow : WorkflowRequest) (count : Nat) : List InvariantViolation :=
  let completed := workflow.completedStepIndexes
  let superseded := workflow.supersededStepIndexes
  let outside : List Nat → List Nat := fun indexes => sortedSet (indexes.filter fun index => decide (count ≤ index))
  reportUnless (completed.length == completed.dedup.length) (.completedTwice completed) ++
    reportUnless (superseded.length == superseded.dedup.length) (.supersededTwice superseded) ++
    reportBad (sortedSet (completed.filter superseded.contains)) .completedAndSuperseded ++
    reportBad (outside completed) (.outsideSteps "completed") ++
    reportBad (outside superseded) (.outsideSteps "superseded")

def invalidDependencies (step : WorkflowStepSpec) (index count : Nat) : List Nat :=
  (step.dependsOnStepIndexes.filter fun dependency => decide (count ≤ dependency) ||
    dependency == index).insertionSort
    (· ≤ ·)

def joinIndexes (steps : List WorkflowStepSpec) : List Nat :=
  (steps.zipIdx.filter fun entry => entry.1.operation == .restartWorkload).map Prod.snd

def mislabelledJoin (step : WorkflowStepSpec) : Bool :=
  step.branchId == some joinBranchId && step.operation != .restartWorkload

/-- A join may wait for a later branch tail, so the direction of an edge is not checked. -/
def dagViolations (workflow : WorkflowRequest) (steps : List WorkflowStepSpec) (count : Nat) :
    List InvariantViolation :=
  let dependencies := steps.zipIdx.flatMap fun entry =>
    reportBad (invalidDependencies entry.1 entry.2 count) (.invalidDependencies entry.2)
  if !workflow.dagEnabled then dependencies
  else
    dependencies ++ reportUnless (decide ((joinIndexes steps).length ≤ 1)) (.severalJoins (joinIndexes steps)) ++
      (steps.zipIdx.filter fun entry => mislabelledJoin entry.1).map fun entry => .joinLabel entry.2 entry.1.operation

/-- The nodes any step of a record names. -/
def plannedNodes (workflow : WorkflowRequest) : List String :=
  (workflow.officialSteps ++ workflow.safetySteps).flatMap fun step => step.nodeIds ++ step.branchNodeIds

def branchBookkeepingViolations (workflow : WorkflowRequest) : List InvariantViolation :=
  let branchIds := workflow.officialSteps.map WorkflowStepSpec.branchId
  let unknownBranches := workflow.exhaustedBranchIds.filter fun branchId => !branchIds.contains (some branchId)
  let unknownNodes := (workflow.branchEscalationCounts.map Prod.fst).filter fun node =>
    !(plannedNodes workflow).contains node
  reportBad (unknownBranches.insertionSort (· ≤ ·)) .unknownBranches ++
    reportBad (unknownNodes.insertionSort (· ≤ ·)) .unknownNodes

def ownershipViolations (workflow : WorkflowRequest) : List InvariantViolation :=
  (if workflow.status.terminal then
    reportUnless workflow.executionOwnerId.isNone (.ownedAfterEnd workflow.status) ++
      reportUnless workflow.executionLeaseExpiresAt.isNone (.leasedAfterEnd workflow.status)
  else reportUnless (workflow.status != .running || workflow.executionOwnerId.isSome) .runningUnowned) ++
    reportUnless (workflow.preemptedByWorkflowId.isNone || workflow.status == .superseded ||
      workflow.preemptionPendingByWorkflowId.isSome) .preemptedStill ++
    reportUnless (workflow.workloadWithdrawnAt.isNone || workflow.workloadWithdrawnReason.any (· != ""))
      .withdrawnUnexplained ++
    reportUnless (workflow.lifetimeDeadlineAt.all fun deadline => decide (workflow.createdAt ≤ deadline))
      .lifetimeBeforeCreation

/-- The number of steps of the phase a record is stamped for; a record without a phase may be of either. -/
def executionLimit (workflow : WorkflowRequest) (record : WorkflowStepExecution) : Nat :=
  match record.phase with
  | none => max workflow.officialSteps.length workflow.safetySteps.length
  | some .official => workflow.officialSteps.length
  | some .safety => workflow.safetySteps.length

/-- The part of `_record_violations` on the step executions. -/
def stepExecutionViolations (workflow : WorkflowRequest) : List InvariantViolation :=
  workflow.stepExecutions.flatMap fun record =>
    reportUnless (decide (record.stepIndex < executionLimit workflow record))
      (.executionOutside record (executionLimit workflow record))

/-- The part of `_record_violations` on the audit events: only the first one out of order is reported. -/
def eventViolations (events : List WorkflowEvent) : List InvariantViolation :=
  let unordered := (events.zip events.tail).findIdx? fun pair => decide (pair.2.recordedAt < pair.1.recordedAt)
  reportUnless (decide (events.length ≤ workflowEventsLimit)) (.tooManyEvents events.length) ++
    (unordered.map fun position => InvariantViolation.eventsUnordered (position + 1)).toList

def recordViolations (workflow : WorkflowRequest) (events : List WorkflowEvent) : List InvariantViolation :=
  stepExecutionViolations workflow ++ eventViolations events

/-- Every invariant the record breaks; empty is good. -/
def workflowInvariantViolations (workflow : WorkflowRequest) (events : List WorkflowEvent) :
    List InvariantViolation :=
  let steps := workflow.executedSteps
  let resolved := (List.range steps.length).all workflow.resolvedStepIndexes.contains
  indexListViolations workflow steps.length ++ dagViolations workflow steps steps.length ++
    reportUnless (workflow.status != .succeeded || resolved) .unresolvedSteps ++
    branchBookkeepingViolations workflow ++ ownershipViolations workflow ++ recordViolations workflow events

/-! ### What the checks accept -/

/-- The checks of the indexes, the edges, the labels, the branch counters and the step records. -/
def structuralViolations (workflow : WorkflowRequest) : List InvariantViolation :=
  indexListViolations workflow workflow.executedSteps.length ++
    dagViolations workflow workflow.executedSteps workflow.executedSteps.length ++
    branchBookkeepingViolations workflow ++ stepExecutionViolations workflow

/-- Every dependency is another step of the plan. -/
def DepsValid (steps : List WorkflowStepSpec) : Prop := ∀ i, ∀ j ∈ stepDeps steps i, j < steps.length ∧ j ≠ i

/-- A plan restarts its job once at most, and only that step is labelled as the join. -/
structure JoinFit (steps : List WorkflowStepSpec) : Prop where
  unique :
    ∀ i j, stepOperation? steps i = some .restartWorkload → stepOperation? steps j = some .restartWorkload → i = j
  labels : ∀ step ∈ steps, step.branchId = some joinBranchId → step.operation = .restartWorkload

/-- A record of the official phase that the structural checks accept. -/
structure RecordSound (workflow : WorkflowRequest) : Prop where
  completed_nodup : workflow.completedStepIndexes.Nodup
  superseded_nodup : workflow.supersededStepIndexes.Nodup
  disjoint : ∀ i ∈ workflow.completedStepIndexes, i ∉ workflow.supersededStepIndexes
  completed_lt : ∀ i ∈ workflow.completedStepIndexes, i < workflow.officialSteps.length
  superseded_lt : ∀ i ∈ workflow.supersededStepIndexes, i < workflow.officialSteps.length
  dependencies : DepsValid workflow.officialSteps
  joinFit : workflow.dagEnabled = true → JoinFit workflow.officialSteps
  exhausted : ∀ id ∈ workflow.exhaustedBranchIds, ∃ step ∈ workflow.officialSteps, step.branchId = some id
  counted : ∀ entry ∈ workflow.branchEscalationCounts, entry.1 ∈ plannedNodes workflow
  executions : ∀ record ∈ workflow.stepExecutions, record.stepIndex < executionLimit workflow record

section Accepted

variable {workflow : WorkflowRequest} {steps : List WorkflowStepSpec} {events : List WorkflowEvent} {i : Nat}

private theorem reportBad_eq_nil {α : Type} {bad : List α} {violation : List α → InvariantViolation} :
    reportBad bad violation = [] ↔ bad = [] := by
  unfold reportBad
  split <;> simp_all

theorem reportUnless_eq_nil {ok : Bool} {violation : InvariantViolation} :
    reportUnless ok violation = [] ↔ ok = true := by
  unfold reportUnless
  split <;> simp_all

private theorem length_eq_length_dedup {l : List Nat} : l.length = l.dedup.length ↔ l.Nodup := by
  constructor
  · intro h
    rw [← List.dedup_eq_self]
    exact (List.dedup_sublist l).eq_of_length h.symm
  · intro h
    rw [List.dedup_eq_self.mpr h]

private theorem sortedSet_eq_nil {l : List Nat} : sortedSet l = [] ↔ l = [] := by
  simp only [List.eq_nil_iff_forall_not_mem, mem_sortedSet]

private theorem insertionSort_eq_nil {α : Type} {r : α → α → Prop} [DecidableRel r] {l : List α} :
    l.insertionSort r = [] ↔ l = [] := by
  simp only [List.eq_nil_iff_forall_not_mem, List.mem_insertionSort]

private theorem indexListViolations_eq_nil {count : Nat} :
    indexListViolations workflow count = [] ↔
      workflow.completedStepIndexes.Nodup ∧ workflow.supersededStepIndexes.Nodup ∧
        (∀ i ∈ workflow.completedStepIndexes, i ∉ workflow.supersededStepIndexes) ∧
        (∀ i ∈ workflow.completedStepIndexes, i < count) ∧ ∀ i ∈ workflow.supersededStepIndexes, i < count := by
  simp only [indexListViolations, List.append_eq_nil_iff, reportBad_eq_nil, reportUnless_eq_nil, beq_iff_eq,
    length_eq_length_dedup, sortedSet_eq_nil, List.filter_eq_nil_iff, decide_eq_true_eq, not_le,
      List.contains_iff_mem,
    and_assoc]

private theorem mem_joinIndexes : i ∈ joinIndexes steps ↔ stepOperation? steps i = some .restartWorkload := by
  simp [joinIndexes, stepOperation?, List.mem_zipIdx_iff_getElem?]

private theorem nodup_joinIndexes (steps : List WorkflowStepSpec) : (joinIndexes steps).Nodup := by
  have hall : (steps.zipIdx.map Prod.snd).Nodup := by
    rw [List.zipIdx_map_snd]
    exact List.nodup_range'
  exact hall.sublist ((List.filter_sublist).map Prod.snd)

/-- A list without repetitions has at most one element if any two are equal. -/
private theorem length_le_one_of_nodup {l : List Nat} (h : l.Nodup) : l.length ≤ 1 ↔ ∀ i ∈ l, ∀ j ∈ l, i = j := by
  constructor
  · intro hlength i hi j hj
    obtain rfl | ⟨a, rfl⟩ : l = [] ∨ ∃ a, l = [a] := by
      cases l with
      | nil => exact .inl rfl
      | cons a l =>
        rw [List.length_cons] at hlength
        have hnil : l = [] := List.length_eq_zero_iff.mp (by omega)
        exact .inr ⟨a, by rw [hnil]⟩
    · cases hi
    · rw [List.mem_singleton.mp hi, List.mem_singleton.mp hj]
  · intro hall
    cases l with
    | nil => simp
    | cons a l =>
      cases l with
      | nil => simp
      | cons b l =>
        have hab := hall a (by simp) b (by simp)
        simp [hab] at h

theorem length_joinIndexes_le_one :
    (joinIndexes steps).length ≤ 1 ↔ ∀ i j, stepOperation? steps i = some .restartWorkload →
      stepOperation? steps j = some .restartWorkload → i = j := by
  rw [length_le_one_of_nodup (nodup_joinIndexes steps)]
  simp only [mem_joinIndexes]
  exact ⟨fun h i j hi hj => h i hi j hj, fun h i hi j hj => h i j hi hj⟩

private theorem dependencies_eq_nil :
    (steps.zipIdx.flatMap fun entry =>
      reportBad (invalidDependencies entry.1 entry.2 steps.length) (.invalidDependencies entry.2)) = [] ↔
      DepsValid steps := by
  simp only [List.flatMap_eq_nil_iff, reportBad_eq_nil, invalidDependencies, insertionSort_eq_nil,
    List.filter_eq_nil_iff, Bool.or_eq_true, decide_eq_true_eq, beq_iff_eq, not_or, not_le, Prod.forall,
    List.mem_zipIdx_iff_getElem?]
  constructor
  · intro h i j hj
    unfold stepDeps at hj
    cases hstep : steps[i]? with
    | none => simp [hstep] at hj
    | some step => exact h step i hstep j (by simpa [hstep] using hj)
  · intro h step i hstep j hj
    exact h i j (by simpa [stepDeps, hstep] using hj)

private theorem dagViolations_eq_nil :
    dagViolations workflow steps steps.length = [] ↔
      DepsValid steps ∧ (workflow.dagEnabled = true → JoinFit steps) := by
  have hlabels : ((steps.zipIdx.filter fun entry => mislabelledJoin entry.1).map fun entry =>
      InvariantViolation.joinLabel entry.2 entry.1.operation) = [] ↔
      ∀ step ∈ steps, step.branchId = some joinBranchId → step.operation = .restartWorkload := by
    simp only [List.map_eq_nil_iff, List.filter_eq_nil_iff, mislabelledJoin, Bool.and_eq_true, beq_iff_eq, bne_iff_ne,
      not_and, not_not, Prod.forall]
    constructor
    · intro h step hstep
      obtain ⟨i, hi⟩ := List.mem_iff_getElem?.mp hstep
      exact h step i (List.mem_zipIdx_iff_getElem?.mpr hi)
    · intro h step i hmem
      exact h step (List.fst_mem_of_mem_zipIdx hmem)
  have hjoin : JoinFit steps ↔ (∀ i j, stepOperation? steps i = some .restartWorkload →
      stepOperation? steps j = some .restartWorkload → i = j) ∧
      ∀ step ∈ steps, step.branchId = some joinBranchId → step.operation = .restartWorkload :=
    ⟨fun h => ⟨h.unique, h.labels⟩, fun h => ⟨h.1, h.2⟩⟩
  unfold dagViolations
  dsimp only
  cases workflow.dagEnabled with
  | false =>
    rw [Bool.not_false, if_pos rfl, dependencies_eq_nil]
    simp
  | true =>
    rw [Bool.not_true, if_neg (by simp), List.append_eq_nil_iff, List.append_eq_nil_iff, dependencies_eq_nil,
      reportUnless_eq_nil, decide_eq_true_eq, length_joinIndexes_le_one, hlabels, hjoin]
    simp [and_assoc]

private theorem branchBookkeepingViolations_eq_nil :
    branchBookkeepingViolations workflow = [] ↔
      (∀ id ∈ workflow.exhaustedBranchIds, ∃ step ∈ workflow.officialSteps, step.branchId = some id) ∧
        ∀ entry ∈ workflow.branchEscalationCounts, entry.1 ∈ plannedNodes workflow := by
  simp only [branchBookkeepingViolations, List.append_eq_nil_iff, reportBad_eq_nil, insertionSort_eq_nil,
    List.filter_eq_nil_iff, Bool.not_eq_true', Bool.not_eq_false, List.contains_iff_mem, List.mem_map,
    forall_exists_index, and_imp, forall_apply_eq_imp_iff₂]

private theorem stepExecutionViolations_eq_nil :
    stepExecutionViolations workflow = [] ↔
      ∀ record ∈ workflow.stepExecutions, record.stepIndex < executionLimit workflow record := by
  simp only [stepExecutionViolations, List.flatMap_eq_nil_iff, reportUnless_eq_nil, decide_eq_true_eq]

/-- In the official phase the structural checks accept exactly the sound records. -/
theorem structuralViolations_eq_nil (h : workflow.executesSafetySteps = false) :
    structuralViolations workflow = [] ↔ RecordSound workflow := by
  have hsteps : workflow.executedSteps = workflow.officialSteps := by rw [WorkflowRequest.executedSteps, h]; rfl
  simp only [structuralViolations, hsteps, List.append_eq_nil_iff, indexListViolations_eq_nil, dagViolations_eq_nil,
    branchBookkeepingViolations_eq_nil, stepExecutionViolations_eq_nil]
  constructor
  · rintro ⟨⟨⟨⟨hcompleted, hsuperseded, hdisjoint, hclt, hslt⟩, hdeps, hjoin⟩, hexhausted, hcounted⟩, hexecutions⟩
    exact ⟨hcompleted, hsuperseded, hdisjoint, hclt, hslt, hdeps, hjoin, hexhausted, hcounted, hexecutions⟩
  · intro hsound
    exact ⟨⟨⟨⟨hsound.completed_nodup, hsound.superseded_nodup, hsound.disjoint, hsound.completed_lt,
      hsound.superseded_lt⟩, hsound.dependencies, hsound.joinFit⟩, hsound.exhausted, hsound.counted⟩,
        hsound.executions⟩

/-- A record without any violation is sound. -/
theorem sound_of_no_violation (hphase : workflow.executesSafetySteps = false)
    (h : workflowInvariantViolations workflow events = []) : RecordSound workflow := by
  rw [← structuralViolations_eq_nil hphase]
  simp only [workflowInvariantViolations, recordViolations, List.append_eq_nil_iff] at h
  obtain ⟨⟨⟨⟨⟨hindexes, hdag⟩, -⟩, hbranches⟩, -⟩, hexecutions, -⟩ := h
  simp only [structuralViolations, List.append_eq_nil_iff]
  exact ⟨⟨⟨hindexes, hdag⟩, hbranches⟩, hexecutions⟩

end Accepted

end GpuFaultRecovery
