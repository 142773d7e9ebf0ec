import GpuFaultRecovery.DispatchedScope
import GpuFaultRecovery.SettledPlan

/-!
# Records of a row under its passes

A record of a step is written over by a later record of the same step, and at the same index by one of an operation
the plan no longer has there. No merge and no rewrite of the executor takes an operation of the plan from its place,
so what is once on the record of a row stays on it; and what a pass hands out is on the record as soon as its answer
is written.
-/

namespace GpuFaultRecovery

def handedOut (executor : Executor) : Option Dispatched := executor.pass.bind ExecutorPass.inFlight

def recordedIn (workflow : WorkflowRequest) (d : Dispatched) : Bool :=
  workflow.stepExecutions.any fun item => item.stepIndex == d.index && item.operation == d.step.operation

/-! ### Records that stay -/

/-- A record of a step that the plan still has where it was dispatched. -/
def OnRecord (row : WorkflowRequest) (d : Dispatched) : Prop :=
  d.step.operation ∈ legitimateOperations row d.index ∧ recordedIn row d = true

/-- A rewrite that loses no record: the plan keeps its operations in place, and whatever is on record stays there. -/
structure KeepsRecords (row row' : WorkflowRequest) : Prop where
  operations : ∀ i, ∀ op ∈ legitimateOperations row i, op ∈ legitimateOperations row' i
  records : ∀ d, OnRecord row d → recordedIn row' d = true

section Records

variable {row row' row'' existing candidate rewritten : WorkflowRequest} {d : Dispatched} {isSafety : Bool}
  {index i : Nat}
  {op : WorkflowOperation} {step : WorkflowStepSpec} {now : Time}

theorem KeepsRecords.onRecord (h : KeepsRecords row row') (hd : OnRecord row d) : OnRecord row' d :=
  ⟨h.operations _ _ hd.1, h.records d hd⟩

private theorem KeepsRecords.trans (h : KeepsRecords row row') (h' : KeepsRecords row' row'') :
    KeepsRecords row row'' where
  operations i op hop := h'.operations i op (h.operations i op hop)
  records d hd := h'.records d (h.onRecord hd)

private theorem recordedIn_iff : recordedIn row d = true ↔
    ∃ item ∈ row.stepExecutions, item.stepIndex = d.index ∧ item.operation = d.step.operation := by
  simp [recordedIn]

private theorem mem_legitimateOperations : op ∈ legitimateOperations row i ↔
    stepOperation? row.officialSteps i = some op ∨ stepOperation? row.safetySteps i = some op := by
  simp [legitimateOperations, stepOperation?]

private theorem legitimate_of_step (h : (phaseSteps isSafety row)[index]? = some step) :
    step.operation ∈ legitimateOperations row index := by
  rw [mem_legitimateOperations]
  cases isSafety with
  | true =>
    have hsafety : row.safetySteps[index]? = some step := h
    exact .inr (by simp [stepOperation?, hsafety])
  | false =>
    have hofficial : row.officialSteps[index]? = some step := h
    exact .inl (by simp [stepOperation?, hofficial])

private theorem KeepsRecords.of_steps
    (hofficial : ∀ i op, stepOperation? row.officialSteps i = some op → stepOperation? row'.officialSteps i = some op)
    (hsafety : ∀ i op, stepOperation? row.safetySteps i = some op → stepOperation? row'.safetySteps i = some op)
    (hrecords : row'.stepExecutions = row.stepExecutions) : KeepsRecords row row' where
  operations i op hop := by
    rw [mem_legitimateOperations] at hop ⊢
    exact hop.imp (hofficial i op) (hsafety i op)
  records d hd := by
    rw [recordedIn, hrecords]
    exact hd.2

private theorem KeepsRecords.of_shape (hofficial : planShape row'.officialSteps = planShape row.officialSteps)
    (hsafety : planShape row'.safetySteps = planShape row.safetySteps)
    (hrecords : row'.stepExecutions = row.stepExecutions) : KeepsRecords row row' :=
  .of_steps (fun i _ hop => (stepOperation?_eq_of_shape hofficial i).trans hop)
    (fun i _ hop => (stepOperation?_eq_of_shape hsafety i).trans hop) hrecords

private theorem KeepsRecords.refl (row : WorkflowRequest) : KeepsRecords row row := .of_shape rfl rfl rfl

/-- An attempt takes the place of a record of its own step only. -/
private theorem keepsRecords_recordAttempt (row : WorkflowRequest) (step : WorkflowStepSpec) (index : Nat)
    (outcome : StepOutcome) (now : Time) : KeepsRecords row (recordAttempt row step index outcome now) where
  operations _ _ hop := hop
  records d hd := by
    obtain ⟨hlegitimate, hrecorded⟩ := hd
    obtain ⟨item, hitem, hindex, hop⟩ := recordedIn_iff.mp hrecorded
    rw [recordedIn_iff]
    by_cases hsurvives : survivesAttempt row step index item = true
    · exact ⟨item, mem_recordAttempt.mpr (.inl ⟨hitem, hsurvives⟩), hindex, hop⟩
    · simp only [survivesAttempt, Bool.or_eq_true, bne_iff_ne, Bool.and_eq_true, Bool.not_eq_true', not_or, not_and,
        ne_eq, not_not, List.contains_iff_mem] at hsurvives
      obtain ⟨hplace, hdropped⟩ := hsurvives
      have hmatches : executionMatchesStep item index step.operation (some row.executionPhase) = true := by
        by_contra hother
        refine hdropped (Bool.not_eq_true _ ▸ hother) ?_
        rw [← hplace, hindex, hop]
        exact hlegitimate
      simp only [executionMatchesStep, Bool.and_eq_true, beq_iff_eq] at hmatches
      refine ⟨_, mem_recordAttempt.mpr (.inr rfl), ?_, ?_⟩
      · exact hplace.symm.trans hindex
      · exact hmatches.1.2.symm.trans hop

private theorem recordedIn_recordAttempt (row : WorkflowRequest) (d : Dispatched) (outcome : StepOutcome)
    (now : Time) :
    recordedIn (recordAttempt row d.step d.index outcome now) d = true :=
  recordedIn_iff.mpr ⟨_, mem_recordAttempt.mpr (.inr rfl), rfl, rfl⟩

private theorem keepsRecords_retireSteps (row : WorkflowRequest) (indexes : List Nat) (now : Time) :
    KeepsRecords row (retireSteps row indexes now) := .of_shape rfl rfl rfl

private theorem keepsRecords_retargetEvidence (row : WorkflowRequest) (targets : List EvidenceTarget) :
    KeepsRecords row (retargetEvidence row targets) := by
  unfold retargetEvidence
  split
  · exact .refl row
  · refine .of_shape (planShape_map_zipIdx fun step index => ?_) rfl rfl
    dsimp only
    split <;> exact ⟨rfl, rfl⟩

private theorem keepsRecords_rebindNodes {rebindings : List (String × String)} {inventory : String → List String}
    {afterIndex : Nat} (h : rebindNodes row rebindings inventory isSafety afterIndex now = .ok row') :
    KeepsRecords row row' := by
  unfold rebindNodes at h
  dsimp only at h
  split at h
  · cases h
  · cases h
    have hshape : planShape ((phaseSteps isSafety row).zipIdx.map fun entry =>
        if rebinds row isSafety afterIndex entry.2 then reboundStep rebindings inventory entry.1 else entry.1) =
        planShape (phaseSteps isSafety row) := by
      refine planShape_map_zipIdx fun step index => ?_
      dsimp only
      split <;> exact ⟨rfl, rfl⟩
    cases isSafety with
    | true => exact .of_shape rfl hshape rfl
    | false => exact .of_shape hshape rfl rfl

private theorem keepsRecords_adoptLinearPlan (row : WorkflowRequest) (now : Time) :
    KeepsRecords row (adoptLinearPlan row now) := by
  unfold adoptLinearPlan
  split
  · exact .refl row
  · exact .of_steps (fun i _ hop => (stepOperation?_normalizedSteps row i).trans hop) (fun _ _ hop => hop) rfl

private theorem stepOperation?_scope {steps : List WorkflowStepSpec} :
    stepOperation? steps i = (stepScope? steps i).map Prod.fst := by
  simp only [stepOperation?, stepScope?, Option.map_map]
  rfl

private theorem lt_of_stepOperation? {steps : List WorkflowStepSpec} (h : stepOperation? steps i = some op) :
    i < steps.length := by
  obtain ⟨step, hstep, -⟩ := Option.map_eq_some_iff.mp h
  exact (List.getElem?_eq_some_iff.mp hstep).1

/-- An appended branch leaves the operations of the plan where they are. -/
theorem stepOperation?_branchRewrite {branch : CandidateBranch} {predecessor : Option Nat} {replaced : List Nat}
    (hlt : i < existing.officialSteps.length) :
    stepOperation? (branchRewrite existing branch predecessor replaced).1 i =
      stepOperation? existing.officialSteps i :=
  calc stepOperation? (branchRewrite existing branch predecessor replaced).1 i
      = (stepScope? (branchRewrite existing branch predecessor replaced).1 i).map Prod.fst := stepOperation?_scope
    _ = (stepScope? (terminalSuperseded existing (normalizedSteps existing) branch.terminal replaced).1 i).map
          Prod.fst := by rw [stepScope?_branchRewrite hlt]
    _ = stepOperation? (terminalSuperseded existing (normalizedSteps existing) branch.terminal replaced).1 i :=
        stepOperation?_scope.symm
    _ = stepOperation? (normalizedSteps existing) i := stepOperation?_eq_of_shape (terminalSuperseded_shape _ _ _ _) i
    _ = stepOperation? existing.officialSteps i := stepOperation?_normalizedSteps existing i

private theorem keepsRecords_append {predecessor : Option Nat} {replaced : List Nat}
    (h : appendParallelJobBranch existing candidate predecessor replaced now = .ok rewritten) :
    KeepsRecords existing rewritten := by
  rcases appendParallelJobBranch_ok h with rfl | ⟨candidate', branch, action, -, -, rfl⟩
  · exact .refl rewritten
  · refine .of_steps (fun i op hop => ?_) (fun _ _ hop => hop) rfl
    exact (stepOperation?_branchRewrite (lt_of_stepOperation? hop)).trans hop

private theorem keepsRecords_mergedRow (row : WorkflowRequest) (merge : Merge) (now : Time) :
    KeepsRecords row (mergedRow row merge now) := by
  unfold mergedRow
  split
  · rename_i rewritten happly
    have hbump : KeepsRecords rewritten { rewritten with mergeRevision := row.mergeRevision + 1 } :=
      .of_shape rfl rfl rfl
    refine .trans ?_ hbump
    rcases Merge.apply_ok happly with rfl | rfl | ⟨candidate, nodeId, gpuUuids, -, rfl⟩ |
      ⟨candidate, nodeId, gpuUuids, -, rfl⟩ | ⟨candidate, predecessor, replaced, -, happend⟩
    · exact .refl rewritten
    · exact keepsRecords_adoptLinearPlan row now
    · refine .of_shape (planShape_map_zipIdx fun step index => ?_) rfl rfl
      dsimp only
      split <;> exact ⟨rfl, rfl⟩
    · refine .of_shape (planShape_map_zipIdx fun step index => ?_) rfl rfl
      dsimp only
      split <;> exact ⟨rfl, rfl⟩
    · exact keepsRecords_append happend
  · exact .refl row

private theorem keepsRecords_escalate {outcome : StepOutcome} {verdict : BranchVerdict}
    (h : escalateFailedBranch row index outcome verdict now = .rewritten row') : KeepsRecords row row' := by
  rcases escalateFailedBranch_eq_rewritten h with hhandoff | ⟨-, grown, step, branchId, hgrown, -, hcases⟩
  · obtain ⟨-, reason, rfl⟩ := supportHandoff_eq_some hhandoff
    exact .of_shape rfl rfl rfl
  · have hgrows : KeepsRecords row grown := by
      rcases escalationRow_eq_some hgrown with rfl | rfl
      · exact .refl grown
      · exact keepsRecords_adoptLinearPlan row now
    refine hgrows.trans ?_
    rcases hcases with ⟨-, rfl⟩ | ⟨candidate, -, rfl | ⟨predecessor, replaced, -, happend⟩⟩
    · unfold exhaustBranch
      dsimp only
      split
      · exact .refl grown
      · exact .of_shape rfl rfl rfl
    · exact .refl row'
    · exact keepsRecords_append happend

private theorem keepsRecords_withCompensationStep (row : WorkflowRequest) (step : WorkflowStepSpec) (now : Time) :
    KeepsRecords row (withCompensationStep row step now) := by
  have happended : ∀ (steps : List WorkflowStepSpec) (i : Nat) (op : WorkflowOperation),
      stepOperation? steps i = some op → stepOperation? (steps ++ [step]) i = some op := fun steps i op hop =>
    (stepOperation?_append_left (lt_of_stepOperation? hop)).trans hop
  unfold withCompensationStep
  cases row.executesSafetySteps with
  | true => exact .of_steps (fun _ _ hop => hop) (fun i op hop => happended _ i op hop) rfl
  | false => exact .of_steps (fun i op hop => happended _ i op hop) (fun _ _ hop => hop) rfl

private theorem keepsRecords_restoreAfterReboot (row : WorkflowRequest) (predecessorId : String) (rebootIndex : Nat)
    (cleanup : WorkflowStepSpec) (now : Time) :
    KeepsRecords row (restoreAfterReboot row predecessorId rebootIndex cleanup now) := by
  refine .of_steps (fun i op hop => ?_) (fun _ _ hop => hop) rfl
  have hlt := lt_of_stepOperation? hop
  unfold restoreAfterReboot
  dsimp only
  rw [stepOperation?_append_left (by simpa using hlt), ← hop]
  simp only [stepOperation?, List.getElem?_map, List.getElem?_zipIdx, Option.map_map]
  rfl

private theorem keepsRecords_inheritQuiesce (row : WorkflowRequest) (predecessorId : String) (index : Nat)
    (evidence : WorkflowStepExecution) (now : Time) :
    KeepsRecords row (inheritQuiesce row predecessorId index evidence now) where
  operations _ _ hop := hop
  records d hd := by
    obtain ⟨item, hitem, hindex, hop⟩ := recordedIn_iff.mp hd.2
    simp only [recordedIn_iff, inheritQuiesce, List.mem_insertionSort, List.mem_append, List.mem_filter,
      List.mem_singleton, Bool.or_eq_true, bne_iff_ne]
    by_cases hkept : item.stepIndex ≠ index ∨ item.operation ≠ .quiesceGpuServices
    · exact ⟨item, .inl ⟨hitem, hkept⟩, hindex, hop⟩
    · simp only [ne_eq, not_or, not_not] at hkept
      exact ⟨_, .inr rfl, hkept.1.symm.trans hindex, hkept.2.symm.trans hop⟩

private theorem keepsRecords_adopted (row : WorkflowRequest) (predecessor : Option WorkflowRequest) (now : Time) :
    KeepsRecords row (adoptQuiesceHandoff row predecessor now) := by
  unfold adoptQuiesceHandoff
  split
  · exact .refl row
  · split
    · exact .refl row
    · exact keepsRecords_inheritQuiesce row _ _ _ now
    · exact keepsRecords_restoreAfterReboot row _ _ _ now

private theorem keepsRecords_scannedRow (s : Executor) (pass : ExecutorPass) (now : Time) :
    KeepsRecords s.row (s.scannedRow pass now) := by
  unfold Executor.scannedRow applyWorkloadWithdrawal
  split
  · split
    · exact .refl _
    · exact keepsRecords_retireSteps _ _ now
  · exact .refl _

private theorem keepsRecords_parkedRow {pass : ExecutorPass} {outcome : StepOutcome}
    (h : Executor.parkedRow pass index outcome now = some row') : KeepsRecords pass.held row' := by
  unfold Executor.parkedRow at h
  dsimp only at h
  rcases orElse_eq_some h with hdeferred | hparked
  · split at hdeferred
    · unfold deferJobFailure at hdeferred
      split at hdeferred
      · cases hdeferred
      · cases hdeferred
        exact .of_shape rfl rfl rfl
    · cases hdeferred
  · split at hparked
    · cases hparked
    · cases hparked
      exact .of_shape rfl rfl rfl

end Records

/-! ### Answers that raise -/

/-- Whether a failed step is taken by an error. -/
def EscalationResult.raises : EscalationResult → Bool
  | .raised => true
  | _ => false

/-- Whether writing an answer down raises instead: the next rung cannot be appended, or the nodes a replacement moved
cannot be rebound. -/
def answerRaises (s : Executor) (pass : ExecutorPass) (d : Dispatched) (outcome : StepOutcome)
    (verdict : BranchVerdict) (inventory : String → List String) (targets : List EvidenceTarget) (now : Time) :
    Bool :=
  let attempted := recordAttempt s.row d.step d.index outcome now
  match outcome.status with
  | .waiting => false
  | .failed =>
    !d.ahead && (pass.inDag || !d.isSafety) && (escalateFailedBranch attempted d.index outcome verdict now).raises
  | .succeeded =>
    let answered := if Executor.surveys pass d then retargetEvidence attempted targets else attempted
    !(Executor.rebindings d outcome).isEmpty &&
      !(rebindNodes answered (Executor.rebindings d outcome) inventory d.isSafety d.index now).toBool

/-! ### Passes over a row that keeps its records -/

/-- A pass over a row that has every operation the pass holds: whatever it hands out, the row keeps the record of
it. -/
structure PassFollows (row : WorkflowRequest) (pass : ExecutorPass) : Prop where
  inStep : InStep row pass
  operations : ∀ i, ∀ op ∈ legitimateOperations pass.held i, op ∈ legitimateOperations row i
  flight : ∀ d, pass.inFlight = some d → d.step.operation ∈ legitimateOperations row d.index

def Follows (s : Executor) : Prop := ∀ pass, s.pass = some pass → PassFollows s.row pass

/-- What an event makes of a row and its pass: no record is lost, and the pass still follows the row. -/
structure Advances (s s' : Executor) : Prop where
  keeps : KeepsRecords s.row s'.row
  follows : Follows s'

section Advances

variable {s s' : Executor} {pass : ExecutorPass} {d : Dispatched} {attempted : WorkflowRequest}
  {outcome : StepOutcome}
  {verdict : BranchVerdict} {inventory : String → List String} {targets : List EvidenceTarget} {now : Time}

private theorem PassFollows.rewritten {row row' : WorkflowRequest} (h : PassFollows row pass)
    (hkeeps : KeepsRecords row row') (hstep : InStep row' pass) : PassFollows row' pass where
  inStep := hstep
  operations i op hop := hkeeps.operations i op (h.operations i op hop)
  flight d hd := hkeeps.operations _ _ (h.flight d hd)

private theorem Follows.refl (h : Follows s) : Advances s s := ⟨.refl _, h⟩

private theorem Advances.of_held (hkeeps : KeepsRecords s.row s'.row)
    (hpass : ∀ pass, s'.pass = some pass → pass.held = s'.row ∧ pass.inFlight = none) : Advances s s' where
  keeps := hkeeps
  follows pass hp := by
    obtain ⟨hheld, hidle⟩ := hpass pass hp
    refine ⟨.inl hheld, fun i op hop => hheld ▸ hop, fun d hd => ?_⟩
    rw [hidle] at hd
    cases hd

private theorem Advances.of_lost (hkeeps : KeepsRecords s.row s'.row) (hpass : s'.pass = none) : Advances s s' :=
  .of_held hkeeps fun pass hp => by
    rw [hpass] at hp
    cases hp

private theorem Follows.claim (h : Follows s) (predecessor : Option WorkflowRequest) :
    Advances s (s.claim predecessor now) := by
  unfold Executor.claim
  split
  · exact h.refl
  · refine .of_held ?_ fun pass hp => ?_
    · have hstatus : KeepsRecords s.row { s.row with status := .running, updatedAt := now } := .of_shape rfl rfl rfl
      exact hstatus.trans (keepsRecords_adopted _ predecessor now)
    · cases hp
      exact ⟨rfl, rfl⟩

private theorem Follows.withdraw (h : Follows s) (reason : String) : Advances s (s.withdraw reason now) := by
  have hkeeps : KeepsRecords s.row (s.withdraw reason now).row := by
    unfold Executor.withdraw
    split <;> exact .of_shape rfl rfl rfl
  have hpass : (s.withdraw reason now).pass = s.pass := by
    unfold Executor.withdraw
    split <;> rfl
  refine ⟨hkeeps, fun pass hp => ?_⟩
  have hfollows := h pass (hpass ▸ hp)
  exact hfollows.rewritten hkeeps (hfollows.inStep.withdraw reason)

private theorem Follows.merge (h : Follows s) (merge : Merge) :
    Advances s { s with row := mergedRow s.row merge now } :=
  ⟨keepsRecords_mergedRow s.row merge now, fun pass hp =>
    (h pass hp).rewritten (keepsRecords_mergedRow s.row merge now) ((h pass hp).inStep.merge merge)⟩

private theorem advances_scan (hfree : s.freePass = some pass) : Advances s (s.scan pass now) := by
  have hidle := (freePass_eq hfree).2
  unfold Executor.scan
  dsimp only
  split
  · exact .of_lost (.refl _) rfl
  · refine .of_held (keepsRecords_scannedRow s pass now) fun pass' hp => ?_
    cases hp
    exact ⟨rfl, hidle⟩

private theorem Follows.dispatch (h : Follows s) (hfree : s.freePass = some pass) : Advances s (s.dispatch pass) := by
  have hfollows := h pass (freePass_eq hfree).1
  unfold Executor.dispatch
  split
  · exact h.refl
  · split
    · split
      · exact h.refl
      · rename_i step hstep
        refine ⟨.refl _, fun pass' hp => ?_⟩
        cases hp
        refine ⟨hfollows.inStep, hfollows.operations, fun d hd => ?_⟩
        cases hd
        exact hfollows.operations _ _ (legitimate_of_step hstep)
    · refine ⟨.refl _, fun pass' hp => ?_⟩
      cases hp
      exact ⟨hfollows.inStep, hfollows.operations, hfollows.flight⟩

private theorem legitimate_of_pick {held : WorkflowRequest} {pick : CompensationPick}
    (h : compensationPick held now = some pick) :
    pick.step.operation ∈ legitimateOperations pick.workflow pick.index := by
  have hstep : (phaseSteps pick.workflow.executesSafetySteps pick.workflow)[pick.index]? = some pick.step :=
    (compensationPick_spec h).1
  exact legitimate_of_step hstep

private theorem Follows.restoreAhead (h : Follows s) (hfree : s.freePass = some pass) :
    Advances s (s.restoreAhead pass now) := by
  have hfollows := h pass (freePass_eq hfree).1
  unfold Executor.restoreAhead
  split
  · exact h.refl
  · rename_i pick hpick
    have hlegitimate := legitimate_of_pick hpick
    dsimp only
    rcases compensationPick_cases hpick with ⟨hpending, hrow⟩ | ⟨hpending, -, -, hrow⟩
    · rw [if_pos (by rw [hpending]; rfl)]
      refine ⟨.refl _, fun pass' hp => ?_⟩
      cases hp
      refine ⟨hfollows.inStep, hfollows.operations, fun d hd => ?_⟩
      cases hd
      exact hfollows.operations _ _ (hrow ▸ hlegitimate)
    · rw [if_neg (by simp [hpending])]
      split
      · rename_i hrev
        have hheld := hfollows.inStep.eq hrev
        refine ⟨?_, fun pass' hp => ?_⟩
        · rw [hrow, ← hheld]
          exact keepsRecords_withCompensationStep pass.held pick.step now
        · cases hp
          refine ⟨.inl rfl, fun _ _ hop => hop, fun d hd => ?_⟩
          cases hd
          exact hlegitimate
      · exact .of_lost (.refl _) rfl

/-- What an answer is written as: nothing of the row it was recorded on is lost, and the pass goes on from there. -/
structure Writes (attempted : WorkflowRequest) (s' : Executor) : Prop where
  keeps : KeepsRecords attempted s'.row
  held : ∀ pass, s'.pass = some pass → pass.held = s'.row ∧ pass.inFlight = none

private theorem writes_takeFailure : ((pass.inDag || !d.isSafety) = true ∧
      (escalateFailedBranch attempted d.index outcome verdict now).raises = true ∧
      s.takeFailure pass d attempted outcome verdict now = { s with pass := none }) ∨
    Writes attempted (s.takeFailure pass d attempted outcome verdict now) := by
  unfold Executor.takeFailure
  dsimp only
  split
  · rename_i hraised
    split at hraised
    · cases hraised
    · rename_i hladder
      refine .inl ⟨?_, by rw [hraised]; rfl, rfl⟩
      simpa [Bool.or_eq_true, imp_iff_not_or] using hladder
  · rename_i row htaken
    have hrow : escalateFailedBranch attempted d.index outcome verdict now = .rewritten row := by
      split at htaken
      · cases htaken
      · exact htaken
    refine .inr ⟨keepsRecords_escalate hrow, fun pass' hp => ?_⟩
    cases hp
    exact ⟨rfl, rfl⟩
  · refine .inr ⟨.refl _, fun pass' hp => ?_⟩
    cases hp
    exact ⟨rfl, rfl⟩

private theorem writes_takeSuccess : ((Executor.rebindings d outcome).isEmpty = false ∧
      (rebindNodes attempted (Executor.rebindings d outcome) inventory d.isSafety d.index now).toBool = false ∧
      s.takeSuccess pass d attempted outcome inventory now = { s with pass := none }) ∨
    Writes attempted (s.takeSuccess pass d attempted outcome inventory now) := by
  unfold Executor.takeSuccess
  dsimp only
  split
  · rename_i error hrebound
    split at hrebound
    · cases hrebound
    · rename_i hmoved
      exact .inl ⟨Bool.not_eq_true _ ▸ hmoved, by rw [hrebound]; rfl, rfl⟩
  · rename_i row hrebound
    have hrow : KeepsRecords attempted row := by
      split at hrebound
      · cases hrebound
        exact .refl _
      · exact keepsRecords_rebindNodes hrebound
    refine .inr ⟨hrow.trans (.of_shape rfl rfl rfl), fun pass' hp => ?_⟩
    cases hp
    exact ⟨rfl, rfl⟩

/-- An answer raises and the pass is lost, or it is written down. -/
private theorem writes_record : (answerRaises s pass d outcome verdict inventory targets now = true ∧
      s.record pass d outcome verdict inventory targets now = { s with pass := none }) ∨
    Writes (recordAttempt s.row d.step d.index outcome now)
      (s.record pass d outcome verdict inventory targets now) := by
  unfold answerRaises Executor.record
  dsimp only
  cases outcome.status with
  | waiting =>
    refine .inr ⟨.refl _, fun pass' hp => ?_⟩
    cases hp
    exact ⟨rfl, rfl⟩
  | failed =>
    dsimp only
    split
    · exact .inr ⟨.refl _, fun pass' hp => by cases hp⟩
    · rename_i hahead
      rcases @writes_takeFailure s pass d (recordAttempt s.row d.step d.index outcome now) outcome verdict now with
        ⟨hladder, hraises, hlost⟩ | hwrites
      · exact .inl ⟨by simp [hahead, hladder, hraises], hlost⟩
      · exact .inr hwrites
  | succeeded =>
    dsimp only
    split
    · have hsurvey := keepsRecords_retargetEvidence (recordAttempt s.row d.step d.index outcome now) targets
      rcases @writes_takeSuccess s _ d
        (retargetEvidence (recordAttempt s.row d.step d.index outcome now) targets) outcome
        inventory now with ⟨hmoved, herror, hlost⟩ | hwrites
      · exact .inl ⟨by simp [hmoved, herror], hlost⟩
      · exact .inr ⟨hsurvey.trans hwrites.keeps, hwrites.held⟩
    · rcases @writes_takeSuccess s pass d (recordAttempt s.row d.step d.index outcome now) outcome inventory now with
        ⟨hmoved, herror, hlost⟩ | hwrites
      · exact .inl ⟨by simp [hmoved, herror], hlost⟩
      · exact .inr hwrites

private theorem advances_record : Advances s (s.record pass d outcome verdict inventory targets now) := by
  rcases @writes_record s pass d outcome verdict inventory targets now with ⟨-, hlost⟩ | hwrites
  · rw [hlost]
    exact .of_lost (.refl _) rfl
  · exact .of_held ((keepsRecords_recordAttempt s.row d.step d.index outcome now).trans hwrites.keeps) hwrites.held

/-- An answer that does not raise is on the record. -/
theorem onRecord_record (h : answerRaises s pass d outcome verdict inventory targets now = false)
    (hlegitimate : d.step.operation ∈ legitimateOperations s.row d.index) :
    OnRecord (s.record pass d outcome verdict inventory targets now).row d := by
  rcases @writes_record s pass d outcome verdict inventory targets now with ⟨hraises, -⟩ | hwrites
  · rw [h] at hraises
    cases hraises
  · exact hwrites.keeps.onRecord ⟨hlegitimate, recordedIn_recordAttempt s.row d outcome now⟩

private theorem Follows.endBatch (h : Follows s) (hfree : s.freePass = some pass) :
    Advances s (s.endBatch pass now) := by
  obtain ⟨hpass, hidle⟩ := freePass_eq hfree
  have hfollows := h pass hpass
  unfold Executor.endBatch
  split
  · exact h.refl
  · split
    · refine ⟨.refl _, fun pass' hp => ?_⟩
      cases hp
      exact ⟨hfollows.inStep, hfollows.operations, hfollows.flight⟩
    · rename_i parked hparked
      split
      · rename_i hrev
        have hheld := hfollows.inStep.eq hrev
        refine .of_held ?_ fun pass' hp => ?_
        · have hkept := keepsRecords_parkedRow hparked
          rwa [hheld] at hkept
        · cases hp
          exact ⟨rfl, hidle⟩
      · exact .of_lost (.refl _) rfl

private theorem Follows.withholdRestart (h : Follows s) (hfree : s.freePass = some pass) (index : Nat) :
    Advances s (s.withholdRestart pass index outcome now) := by
  obtain ⟨hpass, hidle⟩ := freePass_eq hfree
  have hfollows := h pass hpass
  unfold Executor.withholdRestart
  split
  · exact h.refl
  · rename_i step hstep
    split
    · exact h.refl
    · split
      · rename_i hrev
        have hheld := hfollows.inStep.eq hrev
        refine .of_held ?_ fun pass' hp => ?_
        · have hattempted := keepsRecords_recordAttempt pass.held step index outcome now
          rw [hheld] at hattempted ⊢
          exact hattempted.trans (.of_shape rfl rfl rfl)
        · cases hp
          exact ⟨rfl, hidle⟩
      · exact .of_lost (.refl _) rfl

private theorem Follows.freed (h : Follows s) {f : ExecutorPass → Executor}
    (hf : ∀ pass, s.freePass = some pass → Advances s (f pass)) : Advances s (s.freePass.elim s f) := by
  cases hfree : s.freePass with
  | none => exact h.refl
  | some pass => exact hf pass hfree

/-- No event of the row or its pass loses a record. -/
theorem Follows.step (h : Follows s) (event : ExecutorEvent) : Advances s (executorStep s event) := by
  cases event with
  | claim predecessor now => exact h.claim predecessor
  | abort => exact .of_lost (.refl _) rfl
  | withdraw reason now => exact h.withdraw reason
  | merge merge now => exact h.merge merge
  | scan now => exact h.freed fun pass hfree => advances_scan hfree
  | dispatch => exact h.freed fun pass hfree => h.dispatch hfree
  | restoreAhead now => exact h.freed fun pass hfree => h.restoreAhead hfree
  | record outcome verdict inventory targets now =>
    dsimp only [executorStep]
    cases hpass : s.pass with
    | none => exact h.refl
    | some pass =>
      cases hflight : pass.inFlight with
      | none => simpa [hflight] using h.refl
      | some d => simpa [hflight] using advances_record
  | endBatch now => exact h.freed fun pass hfree => h.endBatch hfree
  | withholdRestart index outcome now => exact h.freed fun pass hfree => h.withholdRestart hfree index

end Advances

/-! ### What is handed out -/

section HandedOut

variable {s : Executor} {d : Dispatched} {event : ExecutorEvent}

theorem handedOut_eq : handedOut s = some d ↔ ∃ pass, s.pass = some pass ∧ pass.inFlight = some d := by
  simp [handedOut, Option.bind_eq_some_iff]

/-- A step stays in flight until its pass is lost or records it. -/
theorem handedOut_kept (h : handedOut s = some d) (habort : event ≠ .abort)
    (hrecord : ∀ outcome verdict inventory targets now, event ≠ .record outcome verdict inventory targets now) :
    handedOut (executorStep s event) = some d := by
  obtain ⟨pass, hpass, hflight⟩ := handedOut_eq.mp h
  have hbusy : s.freePass = none := by simp [Executor.freePass, hpass, hflight]
  cases event with
  | claim predecessor now => simpa [executorStep, Executor.claim, hpass] using h
  | abort => exact absurd rfl habort
  | withdraw reason now =>
    have hpass' : (s.withdraw reason now).pass = s.pass := by
      unfold Executor.withdraw
      split <;> rfl
    rw [handedOut_eq]
    exact ⟨pass, hpass'.trans hpass, hflight⟩
  | merge merge now => exact handedOut_eq.mpr ⟨pass, hpass, hflight⟩
  | record outcome verdict inventory targets now => exact absurd rfl (hrecord _ _ _ _ _)
  | scan now | dispatch | restoreAhead now | endBatch now | withholdRestart index outcome now =>
    simpa [executorStep, hbusy] using h

theorem row_dispatch (s : Executor) (pass : ExecutorPass) : (s.dispatch pass).row = s.row := by
  unfold Executor.dispatch
  split
  · rfl
  · split
    · split <;> rfl
    · rfl

end HandedOut

end GpuFaultRecovery
