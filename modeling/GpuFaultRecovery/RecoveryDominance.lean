import GpuFaultRecovery.MergedPlan

/-!
# What a verdict rests on

Dominance is transitive and rises in rank, so below every ranked recovery of a plan stands a primary one that covers
it. A verdict of the merge is then read back as the comparison that led to it.
-/

namespace GpuFaultRecovery

/-! ### Dominance -/

/-- `a` is `b`, or does what `b` does. -/
def WorkflowOperation.Covers (a b : WorkflowOperation) : Prop := a = b ∨ b ∈ a.dominates

instance WorkflowOperation.decidableCovers (a b : WorkflowOperation) : Decidable (a.Covers b) :=
  inferInstanceAs (Decidable (a = b ∨ b ∈ a.dominates))

section Dominance

variable {a b c op : WorkflowOperation} {operations operations' existing candidate : List WorkflowOperation}

private theorem dominance_valid (a : WorkflowOperation) : ∀ b ∈ a.dominates,
    b.semantics.recoveryRank < a.semantics.recoveryRank ∧ b.nodeRanked = true ∧
      ∀ c ∈ b.dominates, c ∈ a.dominates := by
  cases a <;> decide

private theorem recoveryRank_le (op : WorkflowOperation) : op.semantics.recoveryRank ≤ 80 := by
  cases op <;> decide

theorem covers_refl (op : WorkflowOperation) : op.Covers op := .inl rfl

theorem WorkflowOperation.Covers.trans (h : a.Covers b) (h' : b.Covers c) : a.Covers c := by
  rcases h with rfl | h
  · exact h'
  · rcases h' with rfl | h'
    · exact .inr h
    · exact .inr ((dominance_valid a b h).2.2 c h')

private theorem mem_undominated : op ∈ undominated operations ↔
    op ∈ operations ∧ ∀ other ∈ operations, other ≠ op → op ∉ other.dominates := by
  simp [undominated]

private theorem exists_undominated (h : op ∈ operations) : ∃ top ∈ undominated operations, top.Covers op := by
  induction hrank : 80 - op.semantics.recoveryRank using Nat.strong_induction_on generalizing op with
  | _ n ih =>
    by_cases htop : op ∈ undominated operations
    · exact ⟨op, htop, covers_refl op⟩
    · have habove : ∃ other ∈ operations, other ≠ op ∧ op ∈ other.dominates := by
        by_contra hno
        exact htop (mem_undominated.mpr ⟨h, fun other hother hne hdom => hno ⟨other, hother, hne, hdom⟩⟩)
      obtain ⟨other, hother, -, hdom⟩ := habove
      have hlt := (dominance_valid other op hdom).1
      have hle := recoveryRank_le other
      obtain ⟨top, hmem, hcovers⟩ := ih (80 - other.semantics.recoveryRank) (by omega) hother rfl
      exact ⟨top, hmem, hcovers.trans (.inr hdom)⟩

/-! ### Primary operations -/

/-- A ranked recovery of a plan is covered by a primary one. -/
theorem exists_primary_of_nodeRanked (h : op ∈ operations) (hranked : op.nodeRanked = true) :
    ∃ top ∈ primaryRecoveryOperations operations, top.Covers op := by
  have hmem : op ∈ operations.filter WorkflowOperation.nodeRanked := List.mem_filter.mpr ⟨h, hranked⟩
  unfold primaryRecoveryOperations
  dsimp only
  rw [if_pos (by simpa using ⟨op, h, hranked⟩)]
  exact exists_undominated hmem

/-- The primary operations of a plan: ranked recoveries; without them unranked actions; without both the job
restart. -/
theorem primary_cases (h : op ∈ primaryRecoveryOperations operations) : op ∈ operations ∧
    (op.nodeRanked = true ∨ ((∀ other ∈ operations, other.nodeRanked = false) ∧
      (op.zeroRankAction = true ∨
        (op = .restartWorkload ∧ ∀ other ∈ operations, other.zeroRankAction = false)))) := by
  unfold primaryRecoveryOperations at h
  dsimp only at h
  split at h
  · obtain ⟨hmem, -⟩ := mem_undominated.mp h
    exact ⟨(List.mem_filter.mp hmem).1, .inl (List.mem_filter.mp hmem).2⟩
  rename_i hnone
  have hunranked : ∀ other ∈ operations, other.nodeRanked = false := by simpa using hnone
  split at h
  · obtain ⟨hmem, hzero⟩ := List.mem_filter.mp h
    exact ⟨hmem, .inr ⟨hunranked, .inl hzero⟩⟩
  · rename_i hzero
    obtain ⟨hmem, -⟩ := mem_undominated.mp h
    obtain ⟨hin, hrank⟩ := List.mem_filter.mp hmem
    refine ⟨hin, .inr ⟨hunranked, .inr ⟨?_, by simpa using hzero⟩⟩⟩
    have hnot := hunranked op hin
    simp only [WorkflowOperation.nodeRanked, hrank, Bool.and_true, bne_eq_false_iff_eq] at hnot
    exact hnot

/-- Without ranked recoveries every unranked action is primary. -/
theorem primary_of_zeroRank (hnone : ∀ other ∈ operations, other.nodeRanked = false) (h : op ∈ operations)
    (hzero : op.zeroRankAction = true) : op ∈ primaryRecoveryOperations operations := by
  unfold primaryRecoveryOperations
  dsimp only
  rw [if_neg (by simpa using hnone), if_pos (by simpa using ⟨op, h, hzero⟩)]
  exact List.mem_filter.mpr ⟨h, hzero⟩

theorem exists_covering_of_dominate (h : recoveryOperationsDominate existing candidate = true)
    (hop : op ∈ candidate) :
    ∃ other ∈ existing, other.Covers op := by
  unfold recoveryOperationsDominate at h
  rw [if_neg (by simpa using List.ne_nil_of_mem hop)] at h
  have hcovered := List.all_eq_true.mp h op hop
  simp only [Bool.or_eq_true, List.contains_iff_mem, List.any_eq_true] at hcovered
  rcases hcovered with hin | ⟨other, hother, hdom⟩
  · exact ⟨op, hin, covers_refl op⟩
  · exact ⟨other, hother, .inr hdom⟩

theorem mem_of_sameOperations (h : sameOperations candidate existing = true) (hop : op ∈ candidate) :
    op ∈ existing := by
  unfold sameOperations at h
  simp only [Bool.and_eq_true, List.all_eq_true, List.contains_iff_mem] at h
  exact h.1 op hop

end Dominance

/-! ### Reading a verdict back -/

/-- What led to a verdict on a candidate that carries its holds. -/
inductive Judged (existing candidate : WorkflowRequest) (nodeId : String) (gpuUuids : List String) (now : Time) :
    Disposition → Prop
  | recordOnly : Judged existing candidate nodeId gpuUuids now .absorbRecordOnly
  | absorb (operations : List WorkflowOperation) (hin : ∀ op ∈ operations, op ∈ stepOperations existing.officialSteps)
      (hdominate : recoveryOperationsDominate (primaryRecoveryOperations operations)
        (workflowPrimaryRecoveryOperations candidate) = true)
      (hscope : workflowIsMutable existing = true ∨
        ∃ indexes, faultScopeCovered existing nodeId gpuUuids indexes candidate = .ok true) :
      Judged existing candidate nodeId gpuUuids now .absorb
  | widenInPlace
      (hsame : sameOperations (workflowPrimaryRecoveryOperations candidate)
        (workflowPrimaryRecoveryOperations existing) = true)
      (hidle : recoveryActionHasStarted existing (List.range existing.officialSteps.length) = false) :
      Judged existing candidate nodeId gpuUuids now .widenInPlace
  | widenBranch
      (hsame : sameOperations (workflowPrimaryRecoveryOperations candidate)
        (primaryRecoveryOperations (operationsAt existing (nodeBranchStepIndexes existing nodeId))) = true)
      (hidle : recoveryActionHasStarted existing (nodeBranchStepIndexes existing nodeId) = false) :
      Judged existing candidate nodeId gpuUuids now .widenBranch
  | replaceInPlace (hmutable : workflowIsMutable existing = true) :
      Judged existing candidate nodeId gpuUuids now .replaceInPlace
  | replaceBranch (hjoin : joinAcceptsNewBranch existing now = true)
      (hsome : nodeBranchStepIndexes existing nodeId ≠ [])
      (hidle : branchHasStarted existing (nodeBranchStepIndexes existing nodeId) = false)
      (hdominate : recoveryOperationsDominate (workflowPrimaryRecoveryOperations candidate)
        (primaryRecoveryOperations (operationsAt existing (nodeBranchStepIndexes existing nodeId))) = true) :
      Judged existing candidate nodeId gpuUuids now .replaceBranch
  | parallelBranch (hjoin : joinAcceptsNewBranch existing now = true) :
      Judged existing candidate nodeId gpuUuids now .parallelBranch
  | queueBranchSuccessor (hjoin : joinAcceptsNewBranch existing now = true) :
      Judged existing candidate nodeId gpuUuids now .queueBranchSuccessor
  | queueSuccessor : Judged existing candidate nodeId gpuUuids now .queueSuccessor

section Verdicts

variable {existing candidate : WorkflowRequest} {nodeId : String} {gpuUuids : List String} {now : Time}
  {verdict : Disposition} {allowJobBranchMerge preemptionEnabled : Bool}

theorem mem_operationsAt {indexes : List Nat} {op : WorkflowOperation} : op ∈ operationsAt existing indexes ↔
    ∃ i ∈ indexes, stepOperation? existing.officialSteps i = some op := by
  simp [operationsAt, List.mem_filterMap]

private theorem operationsAt_subset {indexes : List Nat} :
    ∀ op ∈ operationsAt existing indexes, op ∈ stepOperations existing.officialSteps := by
  intro op hop
  obtain ⟨i, -, hi⟩ := mem_operationsAt.mp hop
  obtain ⟨step, hstep, rfl⟩ := Option.map_eq_some_iff.mp hi
  exact mem_stepOperations.mpr ⟨i, step, hstep, rfl⟩

private theorem checkedAnd_true {condition : Bool} {check : Except String Bool}
    (h : checkedAnd condition check = .ok true) :
    condition = true ∧ check = .ok true := by
  unfold checkedAnd at h
  split at h
  · rename_i hcondition
    exact ⟨hcondition, h⟩
  · cases h

private theorem quarantineDisposition_judged :
    Judged existing candidate nodeId gpuUuids now (quarantineDisposition existing allowJobBranchMerge now) := by
  unfold quarantineDisposition
  split
  · rename_i hmutable
    exact .replaceInPlace hmutable
  split
  · rename_i hjoin
    exact .queueBranchSuccessor (Bool.and_eq_true_iff.mp hjoin).2
  · exact .queueSuccessor

private theorem branchDisposition_judged (hjoin : joinAcceptsNewBranch existing now = true)
    (hsome : nodeBranchStepIndexes existing nodeId ≠ [])
    (h : branchDisposition existing candidate nodeId gpuUuids (nodeBranchStepIndexes existing nodeId) = .ok verdict) :
    Judged existing candidate nodeId gpuUuids now verdict := by
  unfold branchDisposition at h
  dsimp only at h
  obtain ⟨absorbed, habsorbed, h⟩ := bind_ok h
  split at h
  · rename_i hyes
    cases h
    rw [hyes] at habsorbed
    obtain ⟨hcompatible, hcovered⟩ := checkedAnd_true habsorbed
    exact .absorb _ operationsAt_subset (Bool.and_eq_true_iff.mp hcompatible).2 (.inr ⟨_, hcovered⟩)
  split at h
  · rename_i hwiden
    cases h
    simp only [Bool.and_eq_true, Bool.not_eq_true'] at hwiden
    exact .widenBranch hwiden.1.1.2 hwiden.1.2
  split at h
  · rename_i hreplace
    cases h
    simp only [Bool.and_eq_true, Bool.not_eq_true'] at hreplace
    exact .replaceBranch hjoin hsome hreplace.1.1 hreplace.2
  · cases h
    exact .queueBranchSuccessor hjoin

private theorem dagDisposition_judged
    (h : dagDisposition existing candidate nodeId gpuUuids now = .ok (some verdict)) :
    Judged existing candidate nodeId gpuUuids now verdict := by
  unfold dagDisposition at h
  dsimp only at h
  obtain ⟨absorbed, habsorbed, h⟩ := bind_ok h
  split at h
  · rename_i hyes
    cases h
    rw [hyes] at habsorbed
    obtain ⟨hcompatible, hcovered⟩ := checkedAnd_true habsorbed
    exact .absorb (stepOperations existing.officialSteps) (fun _ hop => hop) (Bool.and_eq_true_iff.mp hcompatible).2
      (.inr ⟨_, hcovered⟩)
  split at h
  · cases h
    exact .queueSuccessor
  rename_i hjoin
  split at h
  · cases h
  · rename_i hsome
    obtain ⟨found, hfound, h⟩ := bind_ok h
    cases h
    exact branchDisposition_judged (by simpa using hjoin) (by simpa using hsome) hfound

private theorem planDisposition_judged
    (h : planDisposition existing candidate nodeId gpuUuids allowJobBranchMerge now = .ok verdict) :
    Judged existing candidate nodeId gpuUuids now verdict := by
  unfold planDisposition at h
  dsimp only at h
  obtain ⟨covered, hcovered, h⟩ := bind_ok h
  split at h
  · rename_i habsorb
    cases h
    simp only [Bool.and_eq_true, Bool.or_eq_true] at habsorb
    refine .absorb (stepOperations existing.officialSteps) (fun _ hop => hop) habsorb.1.2 ?_
    rcases habsorb.2 with hyes | hmutable
    · rw [hyes] at hcovered
      exact .inr ⟨_, hcovered⟩
    · exact .inl hmutable
  split at h
  · rename_i hwiden
    cases h
    simp only [Bool.and_eq_true, Bool.not_eq_true'] at hwiden
    exact .widenInPlace hwiden.1.1.2 hwiden.1.2
  split at h
  · rename_i hreplace
    cases h
    simp only [Bool.and_eq_true] at hreplace
    exact .replaceInPlace hreplace.1.1
  split at h
  · rename_i hqueue
    cases h
    exact .queueBranchSuccessor (Bool.and_eq_true_iff.mp hqueue).2
  · cases h
    split
    · rename_i hmutable
      exact .replaceInPlace hmutable
    · exact .queueSuccessor

private theorem openDisposition_judged
    (h : openDisposition preemptionEnabled existing candidate nodeId gpuUuids allowJobBranchMerge now = .ok verdict) :
    Judged existing candidate nodeId gpuUuids now verdict := by
  unfold openDisposition at h
  split at h
  · cases h
    split
    · exact .recordOnly
    · exact .queueSuccessor
  split at h
  · rename_i happend
    cases h
    have hcan := (Bool.and_eq_true_iff.mp happend).2
    exact .parallelBranch (Bool.and_eq_true_iff.mp hcan).2
  split at h
  · obtain ⟨judged, hjudged, h⟩ := bind_ok h
    cases judged with
    | none => exact planDisposition_judged h
    | some found =>
      cases h
      exact dagDisposition_judged hjudged
  · exact planDisposition_judged h

/-- A verdict against an executable workflow, and what led to it. -/
theorem disposition_judged (hexecutable : existing.status.executable = true)
    (h : disposition preemptionEnabled existing candidate nodeId gpuUuids allowJobBranchMerge now = .ok verdict) :
    verdict = .absorbRecordOnly ∨ ∃ candidate', inheritTerminalQuarantine existing candidate = .ok candidate' ∧
      Judged existing candidate' nodeId gpuUuids now verdict := by
  unfold disposition at h
  split at h
  · cases h
    exact .inl rfl
  split at h
  · cases h
    exact .inl rfl
  split at h
  · rename_i hblocked
    unfold neverExecutedOperatorBlock at hblocked
    simp only [Bool.and_eq_true, beq_iff_eq] at hblocked
    rw [hblocked.1.1.1.1.1] at hexecutable
    cases hexecutable
  split at h
  · rename_i hnot
    simp [hexecutable] at hnot
  obtain ⟨candidate', hinherit, h⟩ := bind_ok h
  obtain ⟨covered, -, h⟩ := bind_ok h
  refine .inr ⟨candidate', hinherit, ?_⟩
  split at h
  · cases h
    exact quarantineDisposition_judged
  · exact openDisposition_judged h

end Verdicts

end GpuFaultRecovery
