import GpuFaultRecovery.RecoveryDominance

/-!
# Recovery actions through a merge

What a merge does to the actions two plans are for. An action is kept if it, or one that dominates it, will still run
in a record the merge leaves. The rest of the module says when it need not be: the existing plan was never acted on
and is replaced, its branch is outranked, the nodes are held for good, or the action was recorded as settled already.
-/

namespace GpuFaultRecovery

def unresolvedOperations (workflow : WorkflowRequest) : List WorkflowOperation :=
  (workflow.officialSteps.zipIdx.filter fun (_, index) => !workflow.resolvedStepIndexes.contains index).map
    fun (step, _) => step.operation

/-- The records a merge leaves: a successor stands beside the workflow it waits for. -/
def mergedRecords (verdict : Disposition) (existing result : WorkflowRequest) : List WorkflowRequest :=
  if verdict = .queueSuccessor then [existing, result] else [result]

/-- An unresolved step of a record does what `op` does. -/
def Kept (records : List WorkflowRequest) (op : WorkflowOperation) : Prop :=
  ∃ record ∈ records, ∃ other ∈ unresolvedOperations record, other.Covers op

instance (records : List WorkflowRequest) (op : WorkflowOperation) : Decidable (Kept records op) :=
  inferInstanceAs (Decidable (∃ record ∈ records, ∃ other ∈ unresolvedOperations record, other.Covers op))

/-- A settled step of the plan does what `op` does. -/
def AlreadyRecorded (existing : WorkflowRequest) (op : WorkflowOperation) : Prop :=
  ∃ i ∈ existing.resolvedStepIndexes, ∃ step, existing.officialSteps[i]? = some step ∧ step.operation.Covers op

/-- The row lists an index behind its plan as settled: a step that is appended there counts as settled too. -/
def SettledBeyond (existing : WorkflowRequest) : Prop :=
  ∃ i ∈ existing.resolvedStepIndexes, existing.officialSteps.length ≤ i

/-- A merge ends nodes: one of the plans holds some for good, or the candidate hands over to support without a restart
of the job. -/
def EndsNodes (existing candidate : WorkflowRequest) : Prop :=
  terminalQuarantineNodes existing ≠ .ok [] ∨ terminalQuarantineNodes candidate ≠ .ok [] ∨
    (.escalateSupport ∈ stepOperations candidate.officialSteps ∧
      .restartWorkload ∉ stepOperations candidate.officialSteps)

/-! ### Reading records -/

section Records

variable {existing candidate result workflow : WorkflowRequest} {step : WorkflowStepSpec}
  {op other : WorkflowOperation}
  {records : List WorkflowRequest} {verdict : Disposition} {i : Nat}

private theorem mem_unresolvedOperations :
    op ∈ unresolvedOperations workflow ↔ ∃ i step, UnresolvedStep workflow i step ∧ step.operation = op := by
  simp only [unresolvedOperations, UnresolvedStep, List.mem_map, List.mem_filter, Prod.exists,
    List.mem_zipIdx_iff_getElem?, Bool.not_eq_true', ← Bool.not_eq_true, List.contains_iff_mem]
  constructor
  · rintro ⟨step, i, hstep, hop⟩
    exact ⟨i, step, hstep, hop⟩
  · rintro ⟨i, step, hstep, hop⟩
    exact ⟨step, i, hstep, hop⟩

private theorem result_mem_mergedRecords : result ∈ mergedRecords verdict existing result := by
  unfold mergedRecords
  split <;> simp

private theorem UnresolvedStep.kept (h : UnresolvedStep result i step) (hcovers : step.operation.Covers op) :
    Kept (mergedRecords verdict existing result) op :=
  ⟨result, result_mem_mergedRecords, step.operation, mem_unresolvedOperations.mpr ⟨i, step, h, rfl⟩, hcovers⟩

private theorem Kept.mono (h : Kept records other) (hcovers : other.Covers op) : Kept records op := by
  obtain ⟨record, hrecord, top, htop, hother⟩ := h
  exact ⟨record, hrecord, top, htop, hother.trans hcovers⟩

private theorem AlreadyRecorded.mono (h : AlreadyRecorded existing other) (hcovers : other.Covers op) :
    AlreadyRecorded existing op := by
  obtain ⟨i, hi, step, hget, hother⟩ := h
  exact ⟨i, hi, step, hget, hother.trans hcovers⟩

/-- A step of the existing plan will still run, or is settled. -/
theorem unresolved_or_recorded (h : existing.officialSteps[i]? = some step) (hcovers : step.operation.Covers op) :
    UnresolvedStep existing i step ∨ AlreadyRecorded existing op := by
  by_cases hresolved : i ∈ existing.resolvedStepIndexes
  · exact .inr ⟨i, hresolved, step, h, hcovers⟩
  · exact .inl ⟨h, hresolved⟩

private theorem primary_kind {operations : List WorkflowOperation} (h : op ∈ primaryRecoveryOperations operations) :
    op ≠ .restoreScheduling ∧ op ≠ .markUnschedulable ∧ op ≠ .stopWorkloads ∧
      (op ≠ .restartWorkload → op.semantics.sharedDag = false ∧ ¬ op.readmits) := by
  obtain ⟨-, hkind⟩ := primary_cases h
  have hkind' : op.nodeRanked = true ∨ op.zeroRankAction = true ∨ op = .restartWorkload := by
    rcases hkind with h | ⟨-, h | ⟨h, -⟩⟩
    · exact .inl h
    · exact .inr (.inl h)
    · exact .inr (.inr h)
  revert hkind'
  unfold WorkflowOperation.readmits
  cases op <;> decide

end Records

/-! ### Plans without holds -/

section Holds

variable {existing candidate result : WorkflowRequest} {step : WorkflowStepSpec} {op : WorkflowOperation}
  {branch : CandidateBranch} {indexes : List Nat} {i : Nat}

private theorem terminalQuarantineNodes_of_not_ends (h : ¬ EndsNodes existing candidate) :
    terminalQuarantineNodes existing = .ok [] ∧ terminalQuarantineNodes candidate = .ok [] := by
  unfold EndsNodes at h
  simp only [not_or, not_not] at h
  exact ⟨h.1, h.2.1⟩

private theorem inherit_of_not_ends (h : ¬ EndsNodes existing candidate) :
    inheritTerminalQuarantine existing candidate = .ok candidate := by
  obtain ⟨hheld, hown⟩ := terminalQuarantineNodes_of_not_ends h
  unfold inheritTerminalQuarantine
  rw [hheld, hown]
  rfl

private theorem inherit_live (h : inheritTerminalQuarantine existing candidate = .ok result)
    (hlive : LiveStep candidate i step) (hop : ¬ step.operation.readmits ∨ ¬ EndsNodes existing candidate) :
    ∃ j step', LiveStep result j step' ∧ SameAction step step' := by
  rcases hop with hop | hends
  · exact inherit_keeps h hlive hop
  · cases (inherit_of_not_ends hends).symm.trans h
    exact ⟨i, step, hlive, .refl step⟩

/-- What is live in the merged plan of a fresh candidate: everything but its readmissions and job restarts. -/
private theorem live_of_inherit (h : inheritTerminalQuarantine existing candidate = .ok result)
    (hfresh : candidate.supersededStepIndexes = []) (hstep : result.officialSteps[i]? = some step)
    (hop : ¬ step.operation.readmits) : LiveStep result i step := by
  refine ⟨hstep, fun hs => ?_⟩
  obtain ⟨required, place, rfl | hplaced⟩ := inherit_placed h
  · rw [hfresh] at hs
    cases hs
  rcases hplaced.back i step hstep with ⟨k, marked, rfl, hmarked, hsame⟩ | ⟨hlive, -⟩
  · rw [getElem?_inheritedSteps] at hmarked
    obtain ⟨original, horiginal, rfl⟩ := Option.map_eq_some_iff.mp hmarked
    have hkind : step.operation = original.operation := by
      rw [hsame]
      exact inheritedStep_operation original
    rw [hkind] at hop
    rcases mem_leftOut.mp ((hplaced.superseded k).mp hs) with hs | ⟨other, hother, hretired⟩
    · rw [hfresh] at hs
      cases hs
    · cases horiginal.symm.trans hother
      rw [suppressStep_other (fun he => hop (.inl he)) (fun he => hop (.inr he))] at hretired
      cases hretired
  · exact hlive hs

/-- A plan that adds neither holds nor readmissions holds nothing either. -/
private theorem terminalQuarantineNodes_nil {workflow : WorkflowRequest}
    (h : terminalQuarantineNodes candidate = .ok [])
    (hfresh : candidate.supersededStepIndexes = []) (hlive : workflow.supersededStepIndexes = [])
    (hheld : ∀ step ∈ workflow.officialSteps, step.operation = .quarantine → step ∈ candidate.officialSteps)
    (hback : ∀ step ∈ candidate.officialSteps, step ∈ workflow.officialSteps) :
    terminalQuarantineNodes workflow = .ok [] := by
  have hforth : ∀ i step, LiveStep workflow i step → step.operation = .quarantine →
      ∃ j, LiveStep candidate j step := by
    intro i step hstep hop
    obtain ⟨j, hj⟩ := List.mem_iff_getElem?.mp (hheld step (List.mem_of_getElem? hstep.1) hop)
    exact ⟨j, hj, by simp [hfresh]⟩
  obtain ⟨nodes, hnodes⟩ := exists_terminalQuarantineNodes.mpr fun i step hstep hop => by
    obtain ⟨j, hj⟩ := hforth i step hstep hop
    exact exists_terminalQuarantineNodes.mp ⟨[], h⟩ j step hj hop
  rw [hnodes]
  congr 1
  rw [List.eq_nil_iff_forall_not_mem]
  intro node hnode
  have hnone : node ∉ ([] : List String) := by simp
  refine hnone ((mem_terminalQuarantineNodes h).mpr ?_)
  rcases (mem_terminalQuarantineNodes hnodes).mp hnode with
      ⟨i, step, fixed, hstep, hop, hfixed, hin⟩ | ⟨⟨i, step, hstep, hop, hin⟩, hreadmitted⟩
  · obtain ⟨j, hj⟩ := hforth i step hstep hop
    exact .inl ⟨j, step, fixed, hj, hop, hfixed, hin⟩
  · obtain ⟨j, hj⟩ := hforth i step hstep hop
    refine .inr ⟨⟨j, step, hj, hop, hin⟩, ?_⟩
    rintro ⟨k, restore, hrestore, hkind, hnames⟩
    obtain ⟨k', hk'⟩ := List.mem_iff_getElem?.mp (hback restore (List.mem_of_getElem? hrestore.1))
    exact hreadmitted ⟨k', restore, ⟨hk', by simp [hlive]⟩, hkind, hnames⟩

private theorem handoffQuiesce_steps (existing candidate : WorkflowRequest) (indexes : List Nat) :
    handoffQuiesce existing candidate indexes = candidate ∨
      ∃ at' restore, restore.operation = .restoreGpuServices ∧ at' ≤ candidate.officialSteps.length ∧
        handoffQuiesce existing candidate indexes =
          { candidate with officialSteps := candidate.officialSteps.insertIdx at' restore } := by
  unfold handoffQuiesce
  dsimp only
  split
  · exact .inl rfl
  · rename_i reboot hreboot
    split
    · exact .inl rfl
    · obtain ⟨hlt, -⟩ := List.findIdx?_eq_some_iff_getElem.mp hreboot
      exact .inr ⟨_, _, rfl, by omega, rfl⟩

private theorem mem_handoffQuiesce : step ∈ candidate.officialSteps →
    step ∈ (handoffQuiesce existing candidate indexes).officialSteps := by
  intro h
  rcases handoffQuiesce_steps existing candidate indexes with he | ⟨at', restore, -, hle, he⟩
  · rw [he]
    exact h
  · rw [he]
    exact (List.mem_insertIdx hle).mpr (.inr h)

private theorem of_mem_handoffQuiesce (h : step ∈ (handoffQuiesce existing candidate indexes).officialSteps) :
    step ∈ candidate.officialSteps ∨ step.operation = .restoreGpuServices := by
  rcases handoffQuiesce_steps existing candidate indexes with he | ⟨at', restore, hop, hle, he⟩
  · rw [he] at h
    exact .inl h
  · rw [he] at h
    rcases (List.mem_insertIdx hle).mp h with rfl | h
    · exact .inr hop
    · exact .inl h

private theorem handoffQuiesce_superseded :
    (handoffQuiesce existing candidate indexes).supersededStepIndexes = candidate.supersededStepIndexes := by
  rcases handoffQuiesce_steps existing candidate indexes with he | ⟨at', restore, -, -, he⟩ <;> rw [he]

/-- Handing a quiesce over ends no node. -/
private theorem not_ends_handoffQuiesce (h : ¬ EndsNodes existing candidate)
    (hfresh : candidate.supersededStepIndexes = []) :
    ¬ EndsNodes existing (handoffQuiesce existing candidate indexes) := by
  obtain ⟨hheld, hown⟩ := terminalQuarantineNodes_of_not_ends h
  have hnone : terminalQuarantineNodes (handoffQuiesce existing candidate indexes) = .ok [] := by
    refine terminalQuarantineNodes_nil hown hfresh (handoffQuiesce_superseded.trans hfresh) ?_
      (fun step => mem_handoffQuiesce)
    intro step hstep hop
    rcases of_mem_handoffQuiesce hstep with hin | hkind
    · exact hin
    · rw [hop] at hkind
      cases hkind
  rintro (hex | hex | ⟨hescalates, hrestarts⟩)
  · exact hex hheld
  · exact hex hnone
  · refine h (.inr (.inr ⟨?_, fun hrestart => hrestarts ?_⟩))
    · obtain ⟨step, hstep, hop⟩ := List.mem_map.mp hescalates
      rcases of_mem_handoffQuiesce hstep with hin | hkind
      · exact List.mem_map.mpr ⟨step, hin, hop⟩
      · rw [hop] at hkind
        cases hkind
    · obtain ⟨step, hstep, hop⟩ := List.mem_map.mp hrestart
      exact List.mem_map.mpr ⟨step, mem_handoffQuiesce hstep, hop⟩

/-- A branch of a candidate that ends no node ends none. -/
private theorem terminal_of_not_ends {predecessor : Option Nat} {revision : Nat} (h : ¬ EndsNodes existing candidate)
    (hfresh : candidate.supersededStepIndexes = [])
    (hbranch : candidateBranch candidate predecessor revision = .ok branch) :
    branch.terminal = [] := by
  obtain ⟨-, hown⟩ := terminalQuarantineNodes_of_not_ends h
  have hlive :
      (liveSteps candidate).map (fun entry => entry.1.operation) = stepOperations candidate.officialSteps := by
    have hall : liveSteps candidate = candidate.officialSteps.zipIdx := by simp [liveSteps, hfresh]
    rw [hall]
    conv_rhs => rw [stepOperations, ← List.zipIdx_map_fst 0 candidate.officialSteps, List.map_map]
    rfl
  unfold candidateBranch at hbranch
  rw [hown] at hbranch
  have he := Except.ok.inj hbranch
  subst he
  dsimp only
  rw [hlive, if_neg]
  · rfl
  · intro hescalates
    simp only [Bool.and_eq_true, Bool.not_eq_true', ← Bool.not_eq_true, List.contains_iff_mem] at hescalates
    exact h (.inr (.inr hescalates))

end Holds

/-! ### Appending a branch -/

section Append

variable {existing candidate candidate' result : WorkflowRequest} {step : WorkflowStepSpec} {op : WorkflowOperation}
  {predecessor : Option Nat} {replaced indexes : List Nat} {nodeId : String} {preemptionEnabled : Bool} {now : Time}
  {i k : Nat}

/-- An append lets an old step run, unless it replaces it or ends the nodes of a job restart. -/
theorem append_keeps (h : appendParallelJobBranch existing candidate predecessor replaced now = .ok result)
    (hstep : UnresolvedStep existing i step) (hi : i ∉ replaced) (hrestore : step.operation ≠ .restoreScheduling)
    (hop : step.operation ≠ .restartWorkload ∨
      (¬ EndsNodes existing candidate ∧ candidate.supersededStepIndexes = [])) :
    ∃ step', UnresolvedStep result i step' ∧ SameAction step step' := by
  obtain ⟨candidate', branch, hinherit, hbranch, ⟨rfl, -⟩ | ⟨action, rfl⟩⟩ := appendParallelJobBranch_cases h
  · exact ⟨step, hstep, .refl step⟩
  obtain ⟨step', hstep', hsame⟩ := branchRewrite_keeps hstep.1 hrestore
  refine ⟨step', ⟨hstep', fun hresolved => ?_⟩, hsame⟩
  rcases mem_resolved_appendedRow.mp hresolved with hold | hretired
  · exact hstep.2 hold
  rcases mem_retired hretired with hin | ⟨hends, other, hother, hkind⟩
  · exact hi hin
  cases hstep.1.symm.trans hother
  rcases hop with hop | ⟨hnot, hfresh⟩
  · rcases hkind with hkind | hkind
    · exact hrestore hkind
    · exact hop hkind
  · cases (inherit_of_not_ends hnot).symm.trans hinherit
    exact hends (terminal_of_not_ends hnot hfresh hbranch)

/-- An append brings the live steps of the candidate, or finds them in the record. -/
theorem append_has (h : appendParallelJobBranch existing candidate predecessor replaced now = .ok result)
    (hlive : LiveStep candidate k step) (hshared : step.operation.semantics.sharedDag = false)
    (hop : ¬ step.operation.readmits) (hreplaced : ∀ i ∈ replaced, i < existing.officialSteps.length) :
    (∃ j step', UnresolvedStep result j step' ∧ SameWork step step') ∨
      AlreadyRecorded existing step.operation ∨ SettledBeyond existing := by
  obtain ⟨candidate', branch, hinherit, hbranch, hcases⟩ := appendParallelJobBranch_cases h
  obtain ⟨j, step', hlive', hsame⟩ := inherit_keeps hinherit hlive hop
  have hmem : step' ∈ branch.steps := by
    refine (mem_candidateBranch hbranch).mpr ⟨j, hlive', ?_⟩
    rw [hsame.operation]
    exact hshared
  rcases hcases with ⟨rfl, hpresent⟩ | ⟨action, rfl⟩
  · obtain ⟨i, found, hfound, hsame'⟩ := alreadyPresent_has hpresent hmem
    have hboth := hsame.work.trans hsame'
    rcases unresolved_or_recorded hfound.1 (.inl hboth.operation) with hopen | hrecorded
    · exact .inl ⟨i, found, hopen, hboth⟩
    · exact .inr (.inl hrecorded)
  · obtain ⟨at', step'', hle, hget, hsame'⟩ := @branchRewrite_has existing branch step' predecessor replaced hmem
    by_cases hold : at' ∈ existing.resolvedStepIndexes
    · exact .inr (.inr ⟨at', hold, hle⟩)
    · refine .inl ⟨at', step'', ⟨hget, fun hresolved => ?_⟩, (hsame.trans hsame').work⟩
      rcases mem_resolved_appendedRow.mp hresolved with hin | hretired
      · exact hold hin
      rcases mem_retired hretired with hin | ⟨-, other, hother, -⟩
      · have hlt := hreplaced at' hin
        omega
      · have hlt := (List.getElem?_eq_some_iff.mp hother).1
        omega

/-- A step of a node in a plan is there, and does not restart the job. -/
theorem nodeStep_spec (h : i ∈ nodeStepIndexes existing nodeId) :
    i < existing.officialSteps.length ∧
      ∀ step, existing.officialSteps[i]? = some step → step.operation ≠ .restartWorkload := by
  obtain ⟨hlt, hop⟩ := attachable_of_nodeStepIndexes h
  rw [length_normalizedSteps] at hlt
  refine ⟨hlt, fun step hstep he => hop ?_⟩
  rw [stepOperation?, getElem?_normalizedSteps, hstep]
  exact congrArg some he

/-- A queued candidate is appended behind the node's branches, or in their place if it outranks them. -/
private theorem queueBranchSuccessor_append
    (h : queueBranchSuccessor preemptionEnabled existing candidate nodeId now = .ok result) :
    ∃ candidate' predecessor replaced,
      appendParallelJobBranch existing candidate' predecessor replaced now = .ok result ∧
      ((candidate' = candidate ∧ replaced = []) ∨
        (queuePreempts preemptionEnabled existing candidate nodeId = true ∧
          candidate' = handoffQuiesce existing candidate (nodeStepIndexes existing nodeId) ∧
          ∀ i ∈ replaced, i ∈ nodeStepIndexes existing nodeId)) := by
  have hbehind : appendParallelJobBranchSuccessor existing candidate nodeId now = .ok result →
      ∃ predecessor, appendParallelJobBranch existing candidate predecessor [] now = .ok result := by
    intro h
    unfold appendParallelJobBranchSuccessor at h
    split at h
    · cases h
    · exact ⟨_, h⟩
  unfold queueBranchSuccessor at h
  split at h
  · rename_i hpreempts
    unfold preemptParallelBranch at h
    dsimp only at h
    split at h
    · obtain ⟨predecessor, happend⟩ := hbehind h
      exact ⟨candidate, predecessor, [], happend, .inl ⟨rfl, rfl⟩⟩
    · refine ⟨_, _, _, h, .inr ⟨hpreempts, rfl, fun i hi => ?_⟩⟩
      -- a boundary over the node's steps frees only some of these
      exact (List.mem_filter.mp hi).1
  · obtain ⟨predecessor, happend⟩ := hbehind h
    exact ⟨candidate, predecessor, [], happend, .inl ⟨rfl, rfl⟩⟩

end Append

/-! ### Verdicts and actions -/

/-- A candidate as the planner builds it: no step of it is settled. -/
structure PlannedCandidate (candidate : WorkflowRequest) : Prop where
  completed : candidate.completedStepIndexes = []
  superseded : candidate.supersededStepIndexes = []

/-- Why a recovery of the existing plan may be gone after a merge. -/
inductive Displaced (settings : MergeSettings) (existing candidate : WorkflowRequest) (nodeId : String)
    (op : WorkflowOperation) : Disposition → Prop
  /-- The plan was replaced before anybody acted on it, by one for another recovery. -/
  | replaced (hmutable : workflowIsMutable existing = true)
      (hother : recoveryOperationsDominate (workflowPrimaryRecoveryOperations candidate)
        (primaryRecoveryOperations (unresolvedOperations existing)) = false) :
      Displaced settings existing candidate nodeId op .replaceInPlace
  /-- A candidate of higher rank took the place of the node's branches, the step among them. -/
  | preempted (candidate' : WorkflowRequest) (i : Nat) (step : WorkflowStepSpec)
      (hinherit : inheritTerminalQuarantine existing candidate = .ok candidate')
      (hpreempts : queuePreempts settings.preemptionEnabled existing candidate' nodeId = true)
      (hnode : i ∈ nodeStepIndexes existing nodeId) (hstep : UnresolvedStep existing i step)
      (hop : step.operation = op) :
      Displaced settings existing candidate nodeId op .queueBranchSuccessor
  /-- The job is not restarted on nodes that are held. -/
  | ended {verdict : Disposition} (hop : op = .restartWorkload) (hends : EndsNodes existing candidate) :
      Displaced settings existing candidate nodeId op verdict
  /-- The step that would stand for it is settled already. -/
  | recorded (h : AlreadyRecorded existing op) : Displaced settings existing candidate nodeId op .replaceBranch
  /-- The step that would stand for it is appended where the row lists a settled index. -/
  | beyond (h : SettledBeyond existing) : Displaced settings existing candidate nodeId op .replaceBranch

/-- Why a recovery of the candidate may be gone after a merge. -/
inductive Forgone (settings : MergeSettings) (existing candidate : WorkflowRequest) (nodeId : String)
    (op : WorkflowOperation) : Disposition → Prop
  /-- A step of the existing plan that settled already stands for it. -/
  | recorded {verdict : Disposition}
      (hverdict : verdict ∈ [.absorb, .parallelBranch, .replaceBranch, .queueBranchSuccessor])
      (h : AlreadyRecorded existing op) : Forgone settings existing candidate nodeId op verdict
  /-- It is appended where the row lists a settled index. -/
  | beyond {verdict : Disposition} (hverdict : verdict ∈ [.parallelBranch, .replaceBranch, .queueBranchSuccessor])
      (h : SettledBeyond existing) : Forgone settings existing candidate nodeId op verdict
  /-- The candidate is merged for its hold; what it would only collect or check is left out. -/
  | held {verdict : Disposition} (hverdict : verdict ∈ [.absorb, .widenInPlace, .widenBranch])
      (hop : op.nodeRanked = false) (hends : EndsNodes existing candidate) :
      Forgone settings existing candidate nodeId op verdict
  /-- The job is not restarted on nodes that are held. -/
  | ended {verdict : Disposition} (hop : op = .restartWorkload) (hends : EndsNodes existing candidate) :
      Forgone settings existing candidate nodeId op verdict
  /-- A restore of services was put into a plan whose retired steps are known by their indexes. -/
  | shifted (candidate' : WorkflowRequest) (hends : EndsNodes existing candidate)
      (hinherit : inheritTerminalQuarantine existing candidate = .ok candidate')
      (hpreempts : queuePreempts settings.preemptionEnabled existing candidate' nodeId = true)
      (hhandoff : handoffQuiesce existing candidate' (nodeStepIndexes existing nodeId) ≠ candidate') :
      Forgone settings existing candidate nodeId op .queueBranchSuccessor

section Verdicts

variable {existing candidate candidate' result : WorkflowRequest} {step : WorkflowStepSpec} {op : WorkflowOperation}
  {settings : MergeSettings} {verdict : Disposition} {winner : MergeWinner} {nodeId existingIncidentId : String}
  {gpuUuids : List String} {indexes : List Nat} {isMutable : Bool} {now : Time} {i k : Nat}

/-- A verdict is applied to the candidate with its holds; an absorbed candidate is not looked at. -/
theorem applyDisposition_merged (hinherit : inheritTerminalQuarantine existing candidate = .ok candidate')
    (h : applyDisposition settings verdict nodeId candidate existing existingIncidentId gpuUuids isMutable now =
      .ok (result, winner)) :
    mergedWorkflow settings verdict nodeId candidate' existing existingIncidentId gpuUuids isMutable now =
      .ok result := by
  unfold applyDisposition at h
  dsimp only at h
  split at h
  · rename_i habsorb
    obtain ⟨unchanged, hunchanged, h⟩ := bind_ok h
    obtain ⟨workflow, hworkflow, h⟩ := bind_ok h
    cases h
    cases hunchanged
    simp only [Bool.or_eq_true, beq_iff_eq] at habsorb
    rcases habsorb with rfl | rfl <;> exact hworkflow
  · obtain ⟨inherited, hinherited, h⟩ := bind_ok h
    obtain ⟨workflow, hworkflow, h⟩ := bind_ok h
    cases h
    cases hinherit.symm.trans hinherited
    exact hworkflow

private theorem unresolvedOperations_congr
    (hsteps : stepOperations result.officialSteps = stepOperations existing.officialSteps)
    (hresolved : result.resolvedStepIndexes = existing.resolvedStepIndexes)
    (hop : op ∈ unresolvedOperations existing) : op ∈ unresolvedOperations result := by
  obtain ⟨i, step, ⟨hstep, hopen⟩, rfl⟩ := mem_unresolvedOperations.mp hop
  have hmap : (result.officialSteps[i]?).map WorkflowStepSpec.operation = some step.operation := by
    rw [← List.getElem?_map]
    show (stepOperations result.officialSteps)[i]? = _
    rw [hsteps, stepOperations, List.getElem?_map, hstep]
    rfl
  obtain ⟨step', hstep', hop'⟩ := Option.map_eq_some_iff.mp hmap
  refine mem_unresolvedOperations.mpr ⟨i, step', ⟨hstep', ?_⟩, hop'⟩
  rw [hresolved]
  exact hopen

private theorem stepOperations_map_zipIdx {steps : List WorkflowStepSpec}
    {f : WorkflowStepSpec × Nat → WorkflowStepSpec} (h : ∀ step index, (f (step, index)).operation = step.operation) :
    stepOperations (steps.zipIdx.map f) = stepOperations steps := by
  unfold stepOperations
  rw [List.map_map]
  conv_rhs => rw [← List.zipIdx_map_fst 0 steps, List.map_map]
  refine List.map_congr_left ?_
  rintro ⟨step, index⟩ -
  exact h step index

private theorem stepOperations_widenInPlace :
    stepOperations (widenInPlace existing candidate nodeId gpuUuids) = stepOperations existing.officialSteps := by
  refine stepOperations_map_zipIdx fun step index => ?_
  dsimp only
  split <;> rfl

private theorem stepOperations_widenBranch :
    stepOperations (widenParallelJobBranch existing candidate nodeId gpuUuids now).officialSteps =
      stepOperations existing.officialSteps := by
  refine stepOperations_map_zipIdx fun step index => ?_
  dsimp only
  split <;> rfl

private theorem filterMap_getElem?_range {α : Type} (l : List α) : (List.range l.length).filterMap (l[·]?) = l := by
  induction l with
  | nil => rfl
  | cons a l ih =>
    rw [List.length_cons, List.range_succ_eq_map, List.filterMap_cons]
    simp [List.filterMap_map, ih]

theorem operationsAt_range :
    operationsAt existing (List.range existing.officialSteps.length) = stepOperations existing.officialSteps := by
  have hall := filterMap_getElem?_range (stepOperations existing.officialSteps)
  simp only [stepOperations, List.length_map, List.getElem?_map] at hall
  exact hall

/-- An action that has not begun has a step nobody was handed. -/
theorem exists_idle_step (h : recoveryActionHasStarted existing indexes = false)
    (hop : op ∈ primaryRecoveryOperations (operationsAt existing indexes)) :
    ∃ i step, existing.officialSteps[i]? = some step ∧ step.operation = op ∧ i ∉ submittedStepIndexes existing := by
  obtain ⟨i, hi, hget⟩ := mem_operationsAt.mp (primary_cases hop).1
  have haction : i ∈ indexes.filter fun index =>
      (stepOperation? existing.officialSteps index).any
        (primaryRecoveryOperations (operationsAt existing indexes)).contains := by
    refine List.mem_filter.mpr ⟨hi, ?_⟩
    rw [hget]
    simpa using hop
  unfold recoveryActionHasStarted branchHasStarted at h
  dsimp only at h
  rw [if_neg (by simpa using List.ne_nil_of_mem haction)] at h
  have hidle := List.any_eq_false.mp h i haction
  obtain ⟨step, hstep, rfl⟩ := Option.map_eq_some_iff.mp hget
  exact ⟨i, step, hstep, rfl, fun hsubmitted => hidle (List.contains_iff_mem.mpr hsubmitted)⟩

private theorem idle_action (h : recoveryActionHasStarted existing indexes = false)
    (hop : op ∈ primaryRecoveryOperations (operationsAt existing indexes)) : op ∈ unresolvedOperations existing := by
  obtain ⟨i, step, hstep, hkind, hidle⟩ := exists_idle_step h hop
  refine mem_unresolvedOperations.mpr ⟨i, step, ⟨hstep, fun hresolved => hidle ?_⟩, hkind⟩
  exact List.mem_append_left _ hresolved

private theorem primary_inherited (hinherit : inheritTerminalQuarantine existing candidate = .ok candidate')
    (hop : op ∈ workflowPrimaryRecoveryOperations candidate) :
    (∃ top ∈ workflowPrimaryRecoveryOperations candidate', top.Covers op) ∨
      (op.nodeRanked = false ∧ EndsNodes existing candidate) := by
  by_cases hends : EndsNodes existing candidate
  · cases hranked : op.nodeRanked with
    | false => exact .inr ⟨rfl, hends⟩
    | true => exact .inl (exists_primary_of_nodeRanked (inherit_operations hinherit (primary_cases hop).1) hranked)
  · cases (inherit_of_not_ends hends).symm.trans hinherit
    exact .inl ⟨op, hop, covers_refl op⟩

private theorem PlannedCandidate.live (h : PlannedCandidate candidate)
    (hop : op ∈ stepOperations candidate.officialSteps) :
    ∃ k step, LiveStep candidate k step ∧ step.operation = op := by
  obtain ⟨k, step, hstep, rfl⟩ := mem_stepOperations.mp hop
  exact ⟨k, step, ⟨hstep, by simp [h.superseded]⟩, rfl⟩

private theorem kept_of_unchanged
    (hsteps : stepOperations result.officialSteps = stepOperations existing.officialSteps)
    (hresolved : result.resolvedStepIndexes = existing.resolvedStepIndexes)
    (hop : op ∈ unresolvedOperations existing) :
    Kept (mergedRecords verdict existing result) op :=
  ⟨result, result_mem_mergedRecords, op, unresolvedOperations_congr hsteps hresolved hop, covers_refl op⟩

private theorem kept_or_ended_in_place (hplanned : PlannedCandidate candidate)
    (hinherit : inheritTerminalQuarantine existing candidate = .ok candidate')
    (hop : op ∈ stepOperations candidate.officialSteps) (hrestore : op ≠ .restoreScheduling) :
    op ∈ unresolvedOperations candidate' ∨ (op = .restartWorkload ∧ EndsNodes existing candidate) := by
  obtain ⟨k, step, hlive, rfl⟩ := hplanned.live hop
  by_cases hended : step.operation = .restartWorkload ∧ EndsNodes existing candidate
  · exact .inr hended
  have hkind : ¬ step.operation.readmits ∨ ¬ EndsNodes existing candidate := by
    by_cases hrestart : step.operation = .restartWorkload
    · exact .inr fun hends => hended ⟨hrestart, hends⟩
    · exact .inl fun hreadmits => hreadmits.elim hrestore hrestart
  obtain ⟨j, step', hlive', hsame⟩ := inherit_live hinherit hlive hkind
  have hcompleted : candidate'.completedStepIndexes = [] := by
    obtain ⟨steps, superseded, rfl⟩ := inherit_fields hinherit
    exact hplanned.completed
  exact .inl (mem_unresolvedOperations.mpr ⟨j, step', hlive'.unresolved hcompleted, hsame.operation⟩)

/-- A successor takes over completed containment and nothing else. -/
private theorem containment_of_inherited {entry : Nat × WorkflowOperation × Nat}
    (h : entry ∈ inheritedContainment existing candidate) :
    ∃ step, candidate.officialSteps[entry.1]? = some step ∧
      (step.operation = .markUnschedulable ∨ step.operation = .stopWorkloads) := by
  obtain ⟨⟨step, index⟩, hstep, hentry⟩ := List.mem_filterMap.mp h
  obtain ⟨existingIndex, hindex, rfl⟩ := Option.map_eq_some_iff.mp hentry
  refine ⟨step, List.mem_zipIdx_iff_getElem?.mp hstep, ?_⟩
  unfold inheritableStep at hindex
  split at hindex
  · rename_i hstands
    unfold containmentStands at hstands
    dsimp only at hstands
    split at hstands
    · exact .inl (by assumption)
    · exact .inr (by assumption)
    · cases hstands
  · cases hindex

/-- A successor runs every live step of the candidate, containment that stands apart. -/
private theorem queueSuccessor_keeps
    (h : queueSuccessor settings candidate' existing existingIncidentId now = .ok result)
    (hlive : LiveStep candidate' k step) (hcompleted : candidate'.completedStepIndexes = [])
    (hcontain : step.operation ≠ .markUnschedulable ∧ step.operation ≠ .stopWorkloads)
    (hkind : ¬ step.operation.readmits ∨ ¬ EndsNodes existing candidate') :
    step.operation ∈ unresolvedOperations result := by
  unfold queueSuccessor preparePreemptingSuccessor at h
  obtain ⟨inherited, hinherited, h⟩ := bind_ok h
  obtain ⟨j, step', hlive', hsame⟩ := @inherit_live existing _ inherited step k hinherited hlive hkind
  have hnone : inherited.completedStepIndexes = [] := by
    obtain ⟨steps, superseded, rfl⟩ := inherit_fields hinherited
    exact hcompleted
  refine mem_unresolvedOperations.mpr ⟨j, step', ?_, hsame.operation⟩
  dsimp only at h
  split at h
  · cases h
    exact hlive'.unresolved hnone
  · cases h
    refine ⟨hlive'.1, fun hresolved => ?_⟩
    rcases List.mem_append.mp hresolved with hcompleted' | hsuperseded
    · obtain ⟨entry, hentry, rfl⟩ := List.mem_map.mp hcompleted'
      obtain ⟨other, hother, hkind'⟩ := containment_of_inherited hentry
      cases hlive'.1.symm.trans hother
      rw [hsame.operation] at hkind'
      exact hkind'.elim hcontain.1 hcontain.2
    · exact hlive'.2 hsuperseded

/-- How a verdict appends: the candidate it appends, and the steps it puts it in the place of. -/
inductive AppendedBy (settings : MergeSettings) (existing candidate : WorkflowRequest) (nodeId : String) :
    Disposition → WorkflowRequest → List Nat → Prop
  | parallel : AppendedBy settings existing candidate nodeId .parallelBranch candidate []
  | replacing {replaced : List Nat} (hreplaced : ∀ i, i ∈ replaced ↔ i ∈ nodeBranchStepIndexes existing nodeId) :
      AppendedBy settings existing candidate nodeId .replaceBranch candidate replaced
  | queued : AppendedBy settings existing candidate nodeId .queueBranchSuccessor candidate []
  | preempting {replaced : List Nat}
      (hpreempts : queuePreempts settings.preemptionEnabled existing candidate nodeId = true)
      (hreplaced : ∀ i ∈ replaced, i ∈ nodeStepIndexes existing nodeId) :
      AppendedBy settings existing candidate nodeId .queueBranchSuccessor
        (handoffQuiesce existing candidate (nodeStepIndexes existing nodeId)) replaced

/-- The three verdicts that append do so through one rewrite. -/
theorem mergedWorkflow_appended
    (hverdict : verdict ∈ [.parallelBranch, .replaceBranch, .queueBranchSuccessor])
    (hsome : verdict = .replaceBranch → nodeBranchStepIndexes existing nodeId ≠ [])
    (h : mergedWorkflow settings verdict nodeId candidate existing existingIncidentId gpuUuids isMutable now =
      .ok result) :
    ∃ appended predecessor replaced, AppendedBy settings existing candidate nodeId verdict appended replaced ∧
      appendParallelJobBranch existing appended predecessor replaced now = .ok result := by
  simp only [List.mem_cons, List.not_mem_nil, or_false] at hverdict
  rcases hverdict with rfl | rfl | rfl
  · exact ⟨candidate, none, [], .parallel, h⟩
  · simp only [mergedWorkflow, replaceParallelJobBranch] at h
    split at h
    · rename_i hnone
      exact absurd (replacementTarget_eq_none.mp hnone) (hsome rfl)
    · rename_i predecessor replaced htarget
      exact ⟨candidate, predecessor, replaced, .replacing (mem_replacementTarget htarget), h⟩
  · obtain ⟨appended, predecessor, replaced, happend, ⟨rfl, rfl⟩ | ⟨hpreempts, rfl, hreplaced⟩⟩ :=
      queueBranchSuccessor_append h
    · exact ⟨_, predecessor, [], .queued, happend⟩
    · exact ⟨_, predecessor, replaced, .preempting hpreempts hreplaced, happend⟩

/-- What a verdict puts its branch in the place of are steps of the node. -/
theorem AppendedBy.node {appended : WorkflowRequest} {replaced : List Nat}
    (h : AppendedBy settings existing candidate nodeId verdict appended replaced) (hi : i ∈ replaced) :
    i ∈ nodeStepIndexes existing nodeId := by
  cases h with
  | parallel => cases hi
  | queued => cases hi
  | preempting _ hreplaced => exact hreplaced i hi
  | replacing hreplaced =>
    have hmem := (hreplaced i).mp hi
    unfold nodeStepIndexes
    rw [if_neg]
    · exact hmem
    · intro hempty
      simp only [Bool.and_eq_true, List.isEmpty_iff] at hempty
      rw [hempty.1] at hmem
      cases hmem

/-- A live step of the candidate is live in what is appended, unless an inserted restore of services moved the steps
that a hold retired. -/
theorem AppendedBy.live {appended : WorkflowRequest} {replaced : List Nat}
    (h : AppendedBy settings existing candidate' nodeId verdict appended replaced)
    (hinherit : inheritTerminalQuarantine existing candidate = .ok candidate') (hplanned : PlannedCandidate candidate)
    (hlive : LiveStep candidate' k step) (op : WorkflowOperation) :
    (∃ j, LiveStep appended j step) ∨ Forgone settings existing candidate nodeId op verdict := by
  cases h with
  | parallel => exact .inl ⟨k, hlive⟩
  | queued => exact .inl ⟨k, hlive⟩
  | replacing _ => exact .inl ⟨k, hlive⟩
  | preempting hpreempts _ =>
    by_cases hends : EndsNodes existing candidate
    · by_cases hhandoff : handoffQuiesce existing candidate' (nodeStepIndexes existing nodeId) = candidate'
      · rw [hhandoff]
        exact .inl ⟨k, hlive⟩
      · exact .inr (.shifted candidate' hends hinherit hpreempts hhandoff)
    · cases (inherit_of_not_ends hends).symm.trans hinherit
      obtain ⟨j, hj⟩ := List.mem_iff_getElem?.mp (@mem_handoffQuiesce existing candidate step
        (nodeStepIndexes existing nodeId) (List.mem_of_getElem? hlive.1))
      refine .inl ⟨j, hj, ?_⟩
      rw [handoffQuiesce_superseded, hplanned.superseded]
      exact List.not_mem_nil

private theorem AppendedBy.not_ends {appended : WorkflowRequest} {replaced : List Nat}
    (h : AppendedBy settings existing candidate nodeId verdict appended replaced)
    (hends : ¬ EndsNodes existing candidate) (hfresh : candidate.supersededStepIndexes = []) :
    ¬ EndsNodes existing appended ∧ appended.supersededStepIndexes = [] := by
  cases h with
  | parallel => exact ⟨hends, hfresh⟩
  | queued => exact ⟨hends, hfresh⟩
  | replacing _ => exact ⟨hends, hfresh⟩
  | preempting _ _ => exact ⟨not_ends_handoffQuiesce hends hfresh, handoffQuiesce_superseded.trans hfresh⟩

private theorem ne_restartWorkload_of_covers {other : WorkflowOperation} (h : other.Covers op)
    (hop : op ≠ .restartWorkload) :
    other ≠ .restartWorkload := by
  rintro rfl
  rcases h with he | hdominates
  · exact hop he.symm
  · cases hdominates

private theorem appended_kept_or_recorded {appended : WorkflowRequest} {predecessor : Option Nat}
    {replaced : List Nat} {operations : List WorkflowOperation}
    (hreplaced : ∀ i ∈ replaced, i ∈ nodeStepIndexes existing nodeId)
    (happend : appendParallelJobBranch existing appended predecessor replaced now = .ok result)
    (hlive : LiveStep appended k step) (hprimary : step.operation ∈ primaryRecoveryOperations operations)
    (hrestart : step.operation ≠ .restartWorkload) (hcovers : step.operation.Covers op) :
    Kept (mergedRecords verdict existing result) op ∨ AlreadyRecorded existing op ∨ SettledBeyond existing := by
  obtain ⟨-, -, -, hkind⟩ := primary_kind hprimary
  obtain ⟨hshared, hreadmits⟩ := hkind hrestart
  rcases append_has happend hlive hshared hreadmits fun i hi => (nodeStep_spec (hreplaced i hi)).1 with
    ⟨j, step', hopen, hsame⟩ | hrecorded
  · refine .inl (hopen.kept ?_)
    rw [hsame.operation]
    exact hcovers
  · exact .inr (hrecorded.imp_left fun h => h.mono hcovers)

/-- The recoveries of a replaced branch that has not begun are those of the candidate, or weaker. -/
private theorem exists_covering_of_replaced
    (hidle : branchHasStarted existing (nodeBranchStepIndexes existing nodeId) = false)
    (hdominate : recoveryOperationsDominate (workflowPrimaryRecoveryOperations candidate)
      (primaryRecoveryOperations (operationsAt existing (nodeBranchStepIndexes existing nodeId))) = true)
    (hop : op ∈ primaryRecoveryOperations (unresolvedOperations existing)) (hrestart : op ≠ .restartWorkload)
    (hin : op ∈ operationsAt existing (nodeBranchStepIndexes existing nodeId)) :
    ∃ other ∈ workflowPrimaryRecoveryOperations candidate, other.Covers op := by
  have hopen : ∀ other ∈ operationsAt existing (nodeBranchStepIndexes existing nodeId),
      other ∈ unresolvedOperations existing := by
    intro other hother
    obtain ⟨i, hi, hget⟩ := mem_operationsAt.mp hother
    obtain ⟨step, hstep, rfl⟩ := Option.map_eq_some_iff.mp hget
    refine mem_unresolvedOperations.mpr ⟨i, step, ⟨hstep, fun hresolved => ?_⟩, rfl⟩
    exact List.any_eq_false.mp hidle i hi (List.contains_iff_mem.mpr (List.mem_append_left _ hresolved))
  have htop : ∃ top ∈ primaryRecoveryOperations (operationsAt existing (nodeBranchStepIndexes existing nodeId)),
      top.Covers op := by
    obtain ⟨-, hranked | ⟨hnone, hzero | ⟨he, -⟩⟩⟩ := primary_cases hop
    · exact exists_primary_of_nodeRanked hin hranked
    · exact ⟨op, primary_of_zeroRank (fun other hother => hnone other (hopen other hother)) hin hzero, covers_refl op⟩
    · exact absurd he hrestart
  obtain ⟨top, hmem, hcovers⟩ := htop
  obtain ⟨other, hother, hcovers'⟩ := exists_covering_of_dominate hdominate hmem
  exact ⟨other, hother, hcovers'.trans hcovers⟩

/-- A recovery of the existing plan outside what an append replaces is kept, or ended with its nodes. -/
private theorem existing_kept_of_append {appended : WorkflowRequest} {predecessor : Option Nat} {replaced : List Nat}
    (hby : AppendedBy settings existing candidate' nodeId verdict appended replaced)
    (hinherit : inheritTerminalQuarantine existing candidate = .ok candidate') (hplanned : PlannedCandidate candidate)
    (happend : appendParallelJobBranch existing appended predecessor replaced now = .ok result)
    (hstep : UnresolvedStep existing i step) (hi : i ∉ replaced) (hrestore : step.operation ≠ .restoreScheduling) :
    Kept (mergedRecords verdict existing result) step.operation ∨
      (step.operation = .restartWorkload ∧ EndsNodes existing candidate) := by
  by_cases hended : step.operation = .restartWorkload ∧ EndsNodes existing candidate
  · exact .inr hended
  have hkind : step.operation ≠ .restartWorkload ∨
      (¬ EndsNodes existing appended ∧ appended.supersededStepIndexes = []) := by
    by_cases hrestart : step.operation = .restartWorkload
    · have hends : ¬ EndsNodes existing candidate := fun hends => hended ⟨hrestart, hends⟩
      cases (inherit_of_not_ends hends).symm.trans hinherit
      exact .inr (hby.not_ends hends hplanned.superseded)
    · exact .inl hrestart
  obtain ⟨step', hopen, hsame⟩ := append_keeps happend hstep hi hrestore hkind
  refine .inl (hopen.kept ?_)
  rw [hsame.operation]
  exact covers_refl _

private theorem exists_open_restart (h : joinAcceptsNewBranch existing now = true) :
    ∃ i step, UnresolvedStep existing i step ∧ step.operation = .restartWorkload := by
  unfold joinAcceptsNewBranch at h
  obtain ⟨-, h⟩ := Bool.and_eq_true_iff.mp h
  split at h
  · cases h
  · rename_i i hfirst
    obtain ⟨step, hstep, hop⟩ := Option.map_eq_some_iff.mp (firstWith_eq_some hfirst).2
    unfold untouchedStep at h
    simp only [Bool.and_eq_true, Bool.not_eq_true', ← Bool.not_eq_true, List.contains_iff_mem] at h
    refine ⟨i, step, ⟨hstep, fun hresolved => ?_⟩, hop⟩
    rcases List.mem_append.mp hresolved with hin | hin
    · exact h.1.1 hin
    · exact h.1.2 hin

/-- The existing plan through a verdict that appends. -/
private theorem existing_through_append (hjudged : Judged existing candidate' nodeId gpuUuids now verdict)
    (hverdict : verdict ∈ [.parallelBranch, .replaceBranch, .queueBranchSuccessor])
    (hinherit : inheritTerminalQuarantine existing candidate = .ok candidate') (hplanned : PlannedCandidate candidate)
    (hmerged : mergedWorkflow settings verdict nodeId candidate' existing existingIncidentId gpuUuids isMutable now =
      .ok result) (hop : op ∈ primaryRecoveryOperations (unresolvedOperations existing)) :
    Kept (mergedRecords verdict existing result) op ∨ Displaced settings existing candidate nodeId op verdict := by
  have hsome : verdict = .replaceBranch → nodeBranchStepIndexes existing nodeId ≠ [] := by
    rintro rfl
    cases hjudged with
    | replaceBranch _ hsome _ _ => exact hsome
  obtain ⟨appended, predecessor, replaced, hby, happend⟩ := mergedWorkflow_appended hverdict hsome hmerged
  obtain ⟨hrestore, -, -, -⟩ := primary_kind hop
  obtain ⟨i, step, hstep, rfl⟩ := mem_unresolvedOperations.mp (primary_cases hop).1
  by_cases hi : i ∈ replaced
  · have hrestart := (nodeStep_spec (hby.node hi)).2 step hstep.1
    have hnode : ∀ i ∈ replaced, i ∈ nodeStepIndexes existing nodeId := fun _ => hby.node
    cases hby with
    | parallel => cases hi
    | queued => cases hi
    | preempting hpreempts _ => exact .inr (.preempted candidate' i step hinherit hpreempts (hnode i hi) hstep rfl)
    | replacing hreplaced =>
      cases hjudged with
      | replaceBranch _ _ hidle hdominate =>
        have hin : step.operation ∈ operationsAt existing (nodeBranchStepIndexes existing nodeId) :=
          mem_operationsAt.mpr ⟨i, (hreplaced i).mp hi, by rw [stepOperation?, hstep.1]; rfl⟩
        obtain ⟨other, hother, hcovers⟩ := exists_covering_of_replaced hidle hdominate hop hrestart hin
        have hother' := ne_restartWorkload_of_covers hcovers hrestart
        obtain ⟨k, step', hstep', rfl⟩ := mem_stepOperations.mp (primary_cases hother).1
        have hlive := live_of_inherit hinherit hplanned.superseded hstep' ((primary_kind hother).2.2.2 hother').2
        rcases appended_kept_or_recorded hnode happend hlive hother hother' hcovers with hkept | hrecorded | hbeyond
        · exact .inl hkept
        · exact .inr (.recorded hrecorded)
        · exact .inr (.beyond hbeyond)
  · rcases existing_kept_of_append hby hinherit hplanned happend hstep hi hrestore with hkept | ⟨he, hends⟩
    · exact .inl hkept
    · exact .inr (.ended he hends)

/-- The candidate through a verdict that appends. -/
private theorem candidate_through_append (hjudged : Judged existing candidate' nodeId gpuUuids now verdict)
    (hverdict : verdict ∈ [.parallelBranch, .replaceBranch, .queueBranchSuccessor])
    (hinherit : inheritTerminalQuarantine existing candidate = .ok candidate') (hplanned : PlannedCandidate candidate)
    (hmerged : mergedWorkflow settings verdict nodeId candidate' existing existingIncidentId gpuUuids isMutable now =
      .ok result) (hop : op ∈ workflowPrimaryRecoveryOperations candidate) :
    Kept (mergedRecords verdict existing result) op ∨ Forgone settings existing candidate nodeId op verdict := by
  have hjoin : joinAcceptsNewBranch existing now = true ∧
      (verdict = .replaceBranch → nodeBranchStepIndexes existing nodeId ≠ []) := by
    cases hjudged with
    | parallelBranch hjoin => exact ⟨hjoin, by rintro ⟨⟩⟩
    | queueBranchSuccessor hjoin => exact ⟨hjoin, by rintro ⟨⟩⟩
    | replaceBranch hjoin hsome _ _ => exact ⟨hjoin, fun _ => hsome⟩
    | recordOnly | absorb _ _ _ _ | widenInPlace _ _ | widenBranch _ _ | replaceInPlace _ | queueSuccessor =>
      simp at hverdict
  obtain ⟨hjoin, hsome⟩ := hjoin
  obtain ⟨appended, predecessor, replaced, hby, happend⟩ := mergedWorkflow_appended hverdict hsome hmerged
  obtain ⟨hrestore, -, -, hkind⟩ := primary_kind hop
  by_cases hrestart : op = .restartWorkload
  · -- a job restart stays with the join of the existing plan
    subst hrestart
    obtain ⟨i, step, hstep, he⟩ := exists_open_restart hjoin
    have hi : i ∉ replaced := fun hin => (nodeStep_spec (hby.node hin)).2 step hstep.1 he
    have hside := existing_kept_of_append hby hinherit hplanned happend hstep hi (by rw [he]; decide)
    rw [he] at hside
    rcases hside with hkept | ⟨-, hends⟩
    · exact .inl hkept
    · exact .inr (.ended rfl hends)
  · obtain ⟨k, step, hlive, rfl⟩ := hplanned.live (primary_cases hop).1
    obtain ⟨j, step', hlive', hsame⟩ := inherit_keeps hinherit hlive (hkind hrestart).2
    rcases hby.live hinherit hplanned hlive' step.operation with ⟨j', hlive''⟩ | hforgone
    · have hprimary : step'.operation ∈ primaryRecoveryOperations (stepOperations candidate.officialSteps) := by
        rw [hsame.operation]
        exact hop
      rcases appended_kept_or_recorded (fun _ => hby.node) happend hlive'' hprimary
        (by rw [hsame.operation]; exact hrestart)
        (.inl hsame.operation) with hkept | hrecorded | hbeyond
      · exact .inl hkept
      · refine .inr (.recorded ?_ hrecorded)
        exact List.mem_cons_of_mem _ hverdict
      · exact .inr (.beyond hverdict hbeyond)
    · exact .inr hforgone

/-- The recoveries of the existing plan through a merge. -/
private theorem existing_through_merge (hjudged : Judged existing candidate' nodeId gpuUuids now verdict)
    (hinherit : inheritTerminalQuarantine existing candidate = .ok candidate') (hplanned : PlannedCandidate candidate)
    (hmerged : mergedWorkflow settings verdict nodeId candidate' existing existingIncidentId gpuUuids isMutable now =
      .ok result) (hop : op ∈ primaryRecoveryOperations (unresolvedOperations existing)) :
    Kept (mergedRecords verdict existing result) op ∨ Displaced settings existing candidate nodeId op verdict := by
  have hopen := (primary_cases hop).1
  cases hjudged with
  | recordOnly =>
    cases hmerged
    exact .inl (kept_of_unchanged rfl rfl hopen)
  | absorb _ _ _ _ =>
    cases hmerged
    refine .inl (kept_of_unchanged ?_ ?_ hopen) <;> unfold absorb <;> split <;> rfl
  | widenInPlace _ _ =>
    cases hmerged
    exact .inl (kept_of_unchanged stepOperations_widenInPlace rfl hopen)
  | widenBranch _ _ =>
    cases hmerged
    exact .inl (kept_of_unchanged stepOperations_widenBranch rfl hopen)
  | replaceInPlace hmutable =>
    cases hmerged
    cases hdominate : recoveryOperationsDominate (workflowPrimaryRecoveryOperations candidate)
      (primaryRecoveryOperations (unresolvedOperations existing)) with
    | false => exact .inr (.replaced hmutable hdominate)
    | true =>
      obtain ⟨other, hother, hcovers⟩ := exists_covering_of_dominate hdominate hop
      rcases kept_or_ended_in_place hplanned hinherit (primary_cases hother).1 (primary_kind hother).1 with
        hkept | ⟨he, hends⟩
      · exact .inl ⟨_, result_mem_mergedRecords, other, hkept, hcovers⟩
      · have hrestart : op = .restartWorkload := by
          by_contra hne
          exact ne_restartWorkload_of_covers hcovers hne he
        exact .inr (.ended hrestart hends)
  | queueSuccessor => exact .inl ⟨existing, by simp [mergedRecords], op, hopen, covers_refl op⟩
  | parallelBranch hjoin =>
    exact existing_through_append (.parallelBranch hjoin) (by decide) hinherit hplanned hmerged hop
  | replaceBranch hjoin hsome hidle hdominate =>
    exact existing_through_append (.replaceBranch hjoin hsome hidle hdominate) (by decide) hinherit hplanned
      hmerged hop
  | queueBranchSuccessor hjoin =>
    exact existing_through_append (.queueBranchSuccessor hjoin) (by decide) hinherit hplanned hmerged hop

/-- The recoveries of the candidate through a merge. -/
private theorem candidate_through_merge (hjudged : Judged existing candidate' nodeId gpuUuids now verdict)
    (hverdict : verdict ≠ .absorbRecordOnly)
    (hinherit : inheritTerminalQuarantine existing candidate = .ok candidate') (hplanned : PlannedCandidate candidate)
    (hmerged : mergedWorkflow settings verdict nodeId candidate' existing existingIncidentId gpuUuids isMutable now =
      .ok result) (hop : op ∈ workflowPrimaryRecoveryOperations candidate) :
    Kept (mergedRecords verdict existing result) op ∨ Forgone settings existing candidate nodeId op verdict := by
  have hmem := (primary_cases hop).1
  obtain ⟨hrestore, hmark, hstop, -⟩ := primary_kind hop
  cases hjudged with
  | recordOnly => exact absurd rfl hverdict
  | absorb operations hin hdominate _ =>
    cases hmerged
    rcases primary_inherited hinherit hop with ⟨top, htop, hcovers⟩ | ⟨hranked, hends⟩
    · obtain ⟨other, hother, hcovers'⟩ := exists_covering_of_dominate hdominate htop
      obtain ⟨i, step, hstep, rfl⟩ := mem_stepOperations.mp (hin other (primary_cases hother).1)
      rcases unresolved_or_recorded hstep (hcovers'.trans hcovers) with hopen | hrecorded
      · have hkept :
            Kept (mergedRecords .absorb existing (absorb settings existing isMutable now)) step.operation := by
          refine kept_of_unchanged ?_ ?_ (mem_unresolvedOperations.mpr ⟨i, step, hopen, rfl⟩) <;> unfold absorb <;>
            split <;> rfl
        exact .inl (hkept.mono (hcovers'.trans hcovers))
      · exact .inr (.recorded (by decide) hrecorded)
    · exact .inr (.held (by decide) hranked hends)
  | widenInPlace hsame hidle =>
    cases hmerged
    rcases primary_inherited hinherit hop with ⟨top, htop, hcovers⟩ | ⟨hranked, hends⟩
    · have htop' := mem_of_sameOperations hsame htop
      rw [workflowPrimaryRecoveryOperations, ← operationsAt_range] at htop'
      have hopen := idle_action hidle htop'
      refine .inl (Kept.mono ?_ hcovers)
      exact kept_of_unchanged stepOperations_widenInPlace rfl hopen
    · exact .inr (.held (by decide) hranked hends)
  | widenBranch hsame hidle =>
    cases hmerged
    rcases primary_inherited hinherit hop with ⟨top, htop, hcovers⟩ | ⟨hranked, hends⟩
    · have hopen := idle_action hidle (mem_of_sameOperations hsame htop)
      refine .inl (Kept.mono ?_ hcovers)
      exact kept_of_unchanged stepOperations_widenBranch rfl hopen
    · exact .inr (.held (by decide) hranked hends)
  | replaceInPlace _ =>
    cases hmerged
    rcases kept_or_ended_in_place hplanned hinherit hmem hrestore with hkept | ⟨he, hends⟩
    · exact .inl ⟨_, result_mem_mergedRecords, op, hkept, covers_refl op⟩
    · exact .inr (.ended he hends)
  | queueSuccessor =>
    by_cases hended : op = .restartWorkload ∧ EndsNodes existing candidate
    · exact .inr (.ended hended.1 hended.2)
    have hnone : candidate'.completedStepIndexes = [] := by
      obtain ⟨steps, superseded, rfl⟩ := inherit_fields hinherit
      exact hplanned.completed
    obtain ⟨k, step, hlive, rfl⟩ := hplanned.live hmem
    have hkept : step.operation ∈ unresolvedOperations result := by
      by_cases hends : EndsNodes existing candidate
      · have hreadmits : ¬ step.operation.readmits := fun h => h.elim hrestore fun he => hended ⟨he, hends⟩
        obtain ⟨j, step', hlive', hsame⟩ := inherit_keeps hinherit hlive hreadmits
        rw [← hsame.operation] at hmark hstop hreadmits ⊢
        exact queueSuccessor_keeps hmerged hlive' hnone ⟨hmark, hstop⟩ (.inl hreadmits)
      · cases (inherit_of_not_ends hends).symm.trans hinherit
        exact queueSuccessor_keeps hmerged hlive hnone ⟨hmark, hstop⟩ (.inr hends)
    exact .inl ⟨result, result_mem_mergedRecords, _, hkept, covers_refl _⟩
  | parallelBranch hjoin =>
    exact candidate_through_append (.parallelBranch hjoin) (by decide) hinherit hplanned hmerged hop
  | replaceBranch hjoin hsome hidle hdominate =>
    exact candidate_through_append (.replaceBranch hjoin hsome hidle hdominate) (by decide) hinherit hplanned
      hmerged hop
  | queueBranchSuccessor hjoin =>
    exact candidate_through_append (.queueBranchSuccessor hjoin) (by decide) hinherit hplanned hmerged hop

end Verdicts

/-! ### Merges and actions -/

/-- A merge keeps every recovery of both plans, in one of the records it leaves or under a recovery that dominates it,
unless the existing plan was displaced before it began or by a higher rank, the nodes are held, or a settled step
stands for the recovery. -/
theorem merge_keeps_recovery_actions {existing candidate result : WorkflowRequest} {settings : MergeSettings}
    {verdict : Disposition} {winner : MergeWinner} {nodeId existingIncidentId : String} {gpuUuids : List String}
    {allowJobBranchMerge : Bool} {now : Time} (hexecutable : existing.status.executable = true)
    (hplanned : PlannedCandidate candidate)
    (hdisposition : disposition settings.preemptionEnabled existing candidate nodeId gpuUuids
      allowJobBranchMerge now =
      .ok verdict)
    (hverdict : verdict ≠ .absorbRecordOnly)
    (happly : applyDisposition settings verdict nodeId candidate existing existingIncidentId gpuUuids
      (workflowIsMutable existing) now = .ok (result, winner)) :
    (∀ op ∈ primaryRecoveryOperations (unresolvedOperations existing),
      Kept (mergedRecords verdict existing result) op ∨ Displaced settings existing candidate nodeId op verdict) ∧
    (∀ op ∈ workflowPrimaryRecoveryOperations candidate,
      Kept (mergedRecords verdict existing result) op ∨ Forgone settings existing candidate nodeId op verdict) := by
  rcases disposition_judged hexecutable hdisposition with rfl | ⟨candidate', hinherit, hjudged⟩
  · exact absurd rfl hverdict
  have hmerged := applyDisposition_merged hinherit happly
  constructor
  · intro op hop
    exact existing_through_merge hjudged hinherit hplanned hmerged hop
  · intro op hop
    exact candidate_through_merge hjudged hverdict hinherit hplanned hmerged hop

private def nodePlan (requestId : String) (operations : List WorkflowOperation) : WorkflowRequest :=
  { requestId, status := .pending,
    officialSteps := operations.map fun operation => { operation, nodeIds := ["n"], gpuUuids := ["g"] } }

private def resetRow : WorkflowRequest :=
  nodePlan "w" [.markUnschedulable, .resetGpu, .validateGpu, .restoreScheduling]

private def strongerCandidate : WorkflowRequest :=
  nodePlan "v" [.markUnschedulable, .restartNode, .validateHost, .restoreScheduling]

private def holdCandidate : WorkflowRequest := nodePlan "v" [.markUnschedulable, .quarantine]

private def mergeDefaults :
    MergeSettings := { preemptionEnabled := true, aggregationDeadlines := fun now _ => (now, now) }

/-- A reboot takes the place of a pending reset and covers it. -/
theorem merge_keeps_recovery_actions_reboot :
    ∃ result winner,
      disposition mergeDefaults.preemptionEnabled resetRow strongerCandidate "n" ["g"] false 0 = .ok .replaceInPlace ∧
      applyDisposition mergeDefaults .replaceInPlace "n" strongerCandidate resetRow "i" ["g"]
        (workflowIsMutable resetRow)
        0 = .ok (result, winner) ∧
      primaryRecoveryOperations (unresolvedOperations resetRow) = [.resetGpu] ∧
      Kept (mergedRecords .replaceInPlace resetRow result) .resetGpu := by
  refine ⟨_, _, by decide, rfl, by decide, ?_⟩
  obtain ⟨hexisting, -⟩ :=
    @merge_keeps_recovery_actions resetRow strongerCandidate _ mergeDefaults .replaceInPlace _ "n" "i"
    ["g"] false 0 rfl ⟨rfl, rfl⟩ (by decide) (by decide) rfl
  rcases hexisting .resetGpu (by decide) with hkept | hdisplaced
  · exact hkept
  · exfalso
    cases hdisplaced with
    | replaced _ hother => exact absurd hother (by decide)
    | ended hop _ => cases hop

/-- A hold takes the place of a pending reset, which no step of the plan covers afterwards. -/
theorem hold_replaces_pending_reset :
    ∃ result winner, resetRow.status.executable = true ∧ holdCandidate.status = .pending ∧
      disposition mergeDefaults.preemptionEnabled resetRow holdCandidate "n" ["g"] false 0 = .ok .replaceInPlace ∧
      applyDisposition mergeDefaults .replaceInPlace "n" holdCandidate resetRow "i" ["g"] (workflowIsMutable resetRow)
        0 = .ok (result, winner) ∧
      .resetGpu ∈ primaryRecoveryOperations (unresolvedOperations resetRow) ∧
      ¬ Kept (mergedRecords .replaceInPlace resetRow result) .resetGpu :=
  ⟨_, _, rfl, rfl, by decide, rfl, by decide, by decide⟩

end GpuFaultRecovery
