import GpuFaultRecovery.NodeAction
import GpuFaultRecovery.PlanValidity

/-!
# Preempting a node branch

The boundary judges every WAITING record of a branch: a wait that can be abandoned, a remote command that can be
cancelled, an effect nobody can stop. A stronger candidate replaces the steps that are free and is chained behind one
step, the highest index that holds the boundary closed. The last section says when that one step stands for all of
them.
-/

namespace GpuFaultRecovery

open DependencyGraph

/-! ### The boundary -/

/-- What a WAITING record means for preemption. -/
inductive WaitingVerdict where
  | stoppable
  | cancellable
  | blocking
  | stale
  | malformed
deriving Repr, DecidableEq

structure WaitingRecord where
  stepIndex : Nat
  operation : WorkflowOperation
  verdict : WaitingVerdict
  reason : String
  remoteCommandId : Option String := none
deriving Repr, DecidableEq

structure PreemptionBoundary where
  indexes : List Nat
  completed : List Nat
  waiting : List WaitingRecord
  remoteCancellationAvailable : Bool
deriving Repr, DecidableEq

namespace PreemptionBoundary

def holds (boundary : PreemptionBoundary) (record : WaitingRecord) : Bool :=
  record.verdict == .blocking || (!boundary.remoteCancellationAvailable && record.verdict == .cancellable)

/-- Steps whose wait holds the boundary closed. -/
def blocking (boundary : PreemptionBoundary) : List Nat :=
  sortedSet ((boundary.waiting.filter boundary.holds).map WaitingRecord.stepIndex)

def malformed (boundary : PreemptionBoundary) : List Nat :=
  (boundary.waiting.filter fun record => record.verdict == .malformed).map WaitingRecord.stepIndex

def cancellations (boundary : PreemptionBoundary) : List WaitingRecord :=
  boundary.waiting.filter fun record => record.verdict == .cancellable

/-- Whether the steps under judgement may be superseded now. -/
def isOpen (boundary : PreemptionBoundary) : Bool := boundary.blocking.isEmpty && boundary.malformed.isEmpty

/-- Steps a successor may replace: they neither ran nor hold the boundary. -/
def replaceable (boundary : PreemptionBoundary) : List Nat :=
  boundary.indexes.filter fun index => !boundary.completed.contains index && !boundary.blocking.contains index

/-- The step a replacing branch chains behind: the last one that holds the boundary, else the last completed one. -/
def predecessor (boundary : PreemptionBoundary) : Option Nat :=
  boundary.blocking.max?.orElse fun _ => boundary.completed.max?

end PreemptionBoundary

def judgeRemote (record : WorkflowStepExecution) (operationId : String) : WaitingRecord :=
  let index := record.stepIndex
  let operation := record.operation
  let remoteStatus := (record.details.text? "remote_status").getD ""
  let canCancel := remoteStatus == "PENDING" ||
    (remoteStatus == "WAITING" && operation.semantics.safeRemoteWaitingPreempt)
  if !canCancel then
    { stepIndex := index, operation, verdict := .blocking,
      reason := s!"step {index} {operation.value} has a remote command in " ++
        (if remoteStatus = "" then "an unknown" else remoteStatus) ++ " state that cannot be cancelled" }
  else
    let commandId := (record.details.text? "remote_command_id").getD ((operationId.dropPrefix "remote/").toString)
    if commandId = "" then
      { stepIndex := index, operation, verdict := .blocking,
        reason := s!"step {index} {operation.value} names no remote command to cancel" }
    else
      { stepIndex := index, operation, verdict := .cancellable,
        reason := s!"step {index} {operation.value} has a cancellable remote command {commandId}",
        remoteCommandId := some commandId }

def judge (record : WorkflowStepExecution) (step : WorkflowStepSpec) : WaitingRecord :=
  let index := record.stepIndex
  if record.operation ≠ step.operation then
    { stepIndex := index, operation := record.operation, verdict := .stale,
      reason :=
        s!"step {index} record for {record.operation.value} no longer matches the step's {step.operation.value}" }
  else if (record.adapterOperationId.getD "").startsWith "remote/" then
    judgeRemote record (record.adapterOperationId.getD "")
  else if step.operation.semantics.safeWaitingPreempt then
    { stepIndex := index, operation := step.operation, verdict := .stoppable,
      reason := s!"step {index} {step.operation.value} wait can be abandoned" }
  else
    { stepIndex := index, operation := step.operation, verdict := .blocking,
      reason := s!"step {index} {step.operation.value} is waiting on a local adapter and cannot be stopped" }

def WorkflowRequest.executedSteps (workflow : WorkflowRequest) : List WorkflowStepSpec :=
  if workflow.executesSafetySteps then workflow.safetySteps else workflow.officialSteps

/-- Judge the WAITING records of a workflow, or of the steps `indexes` of it. -/
def preemptionBoundary (workflow : WorkflowRequest) (indexes : Option (List Nat))
    (remoteCancellationAvailable : Bool) :
    PreemptionBoundary :=
  let steps := workflow.executedSteps
  let judged := indexes.getD (List.range steps.length)
  { indexes := judged
    completed := workflow.completedStepIndexes.filter judged.contains
    waiting := (workflow.stepExecutions.filter fun record => record.status == .waiting).filterMap fun record =>
      match steps[record.stepIndex]? with
      | none =>
        if indexes.isNone then
          some { stepIndex := record.stepIndex, operation := record.operation, verdict := .malformed,
                 reason :=
                   s!"step {record.stepIndex} record lies outside the {steps.length} steps this workflow executes" }
        else none
      | some step => if judged.contains record.stepIndex then some (judge record step) else none
    remoteCancellationAvailable }

/-! ### Preemption -/

/-- Whether a completed step among `indexes` has `operation`. -/
def completedAmong (existing : WorkflowRequest) (indexes : List Nat) (operation : WorkflowOperation) : Bool :=
  indexes.any fun index => existing.completedStepIndexes.contains index &&
    stepOperation? existing.officialSteps index == some operation

/-- A reboot that preempts a quiesced branch restores its services after the reboot. -/
def handoffQuiesce (existing candidate : WorkflowRequest) (indexes : List Nat) : WorkflowRequest :=
  let steps := candidate.officialSteps
  match steps.findIdx? fun step => step.operation == .restartNode with
  | none => candidate
  | some rebootIndex =>
    if !completedAmong existing indexes .quiesceGpuServices || completedAmong existing indexes .restoreGpuServices ||
        steps.any (fun step => step.operation == .restoreGpuServices) then candidate
    else
      let owner := ((existing.officialSteps.find? fun step => step.operation == .restoreGpuServices).orElse fun _ =>
        existing.officialSteps.find? fun step => step.operation ==
          .quiesceGpuServices).map WorkflowStepSpec.executionOwner
      let reboot := (steps[rebootIndex]?).getD default
      { candidate with
        officialSteps := steps.insertIdx (rebootIndex + 1)
          { operation := .restoreGpuServices
            executionOwner := owner.getD ""
            nodeIds := reboot.nodeIds
            gpuUuids := reboot.gpuUuids
            workloadIds := reboot.workloadIds
            parameters := [("preemption_quiesce_handoff_after_reboot", .bool true)] } }

/-- The boundary of a node's branches; planning cannot cancel a remote command. -/
def branchBoundary (existing : WorkflowRequest) (nodeId : String) : PreemptionBoundary :=
  preemptionBoundary existing (some (nodeStepIndexes existing nodeId)) false

/-- Replace what is free of a node's branches by the branch of a stronger candidate. -/
def preemptParallelBranch (existing candidate : WorkflowRequest) (nodeId : String) (now : Time) :
    Except String WorkflowRequest :=
  let indexes := nodeStepIndexes existing nodeId
  if indexes.isEmpty then appendParallelJobBranchSuccessor existing candidate nodeId now
  else
    appendParallelJobBranch existing (handoffQuiesce existing candidate indexes)
      (branchBoundary existing nodeId).predecessor (branchBoundary existing nodeId).replaceable now

/-! ### What the first step of the new branch waits for -/

section FirstStep

variable {existing candidate rewritten : WorkflowRequest} {branch : CandidateBranch} {replaced : List Nat}
  {nodeId : String} {now : Time} {first p i j : Nat}

private theorem mem_of_blocking (h : i ∈ (branchBoundary existing nodeId).blocking) :
    i ∈ nodeStepIndexes existing nodeId := by
  simp only [PreemptionBoundary.blocking, mem_sortedSet, List.mem_map, List.mem_filter] at h
  obtain ⟨record, ⟨hmem, -⟩, rfl⟩ := h
  obtain ⟨execution, -, hjudged⟩ := List.mem_filterMap.mp hmem
  split at hjudged
  · simp at hjudged
  · split at hjudged
    · rename_i step hstep hin
      have hindex : record.stepIndex = execution.stepIndex := by
        rw [← Option.some.inj hjudged]
        unfold judge judgeRemote
        dsimp only
        split_ifs <;> rfl
      rw [hindex]
      exact List.contains_iff_mem.mp hin
    · cases hjudged

private theorem branchRewrite_behind (existing : WorkflowRequest) (p : Nat) (replaced : List Nat)
    (hne : branch.steps ≠ []) :
    ∃ narrowed branchId tail retired, planShape narrowed = planShape (normalizedSteps existing) ∧
      (branchRewrite existing branch (some p) replaced).1 =
        reconnectJoin (appendChain narrowed branch.steps (some p) branchId).1 tail retired := by
  have hnew : ∀ narrowed branchId,
      (appendChain narrowed branch.steps (some p) branchId).1.length ≠ narrowed.length := by
    intro narrowed branchId
    rw [length_appendChain]
    have hpos := List.length_pos_of_ne_nil hne
    omega
  let narrowed := terminalSuperseded existing (normalizedSteps existing) branch.terminal replaced
  exact ⟨narrowed.1, freshBranchId existing branch,
    (appendChain narrowed.1 branch.steps (some p) (freshBranchId existing branch)).2, narrowed.2,
    terminalSuperseded_shape existing _ branch.terminal replaced, if_neg (hnew narrowed.1 _)⟩

private theorem mem_stepDeps_behind (hne : branch.steps ≠ []) (hi : Attachable (normalizedSteps existing) i) :
    j ∈ stepDeps (branchRewrite existing branch (some p) replaced).1 i ↔
      j ∈ stepDeps (normalizedSteps existing) i := by
  obtain ⟨narrowed, branchId, tail, retired, hshape, he⟩ := branchRewrite_behind existing p replaced hne
  have hlt : i < narrowed.length := by
    rw [length_eq_of_shape hshape]
    exact hi.1
  have hop : stepOperation? (appendChain narrowed branch.steps (some p) branchId).1 i ≠ some .restartWorkload := by
    rw [stepOperation?_appendChain_left hlt, stepOperation?_eq_of_shape hshape]
    exact hi.2
  have hdeps : stepDeps (appendChain narrowed branch.steps (some p) branchId).1 i = stepDeps narrowed i :=
    stepDeps_append_left hlt
  rw [he, mem_stepDeps_reconnectJoin, hdeps, stepDeps_eq_of_shape hshape]
  simp [hop]

/-- The branch's first step waits for `p` alone. -/
private theorem mem_stepDeps_first (hne : branch.steps ≠ []) (hbranch : NoRestart branch.steps) :
    j ∈ stepDeps (branchRewrite existing branch (some p) replaced).1 existing.officialSteps.length ↔ j = p := by
  obtain ⟨narrowed, branchId, tail, retired, hshape, he⟩ := branchRewrite_behind existing p replaced hne
  have hlen : existing.officialSteps.length = narrowed.length := by
    rw [length_eq_of_shape hshape, length_normalizedSteps]
  have hop : stepOperation? (appendChain narrowed branch.steps (some p) branchId).1 narrowed.length ≠
      some .restartWorkload := by
    rw [stepOperation?_appendChain_right le_rfl]
    exact hbranch.stepOperation?_ne _
  have hfirst : j ∈ stepDeps (appendChain narrowed branch.steps (some p) branchId).1 narrowed.length ↔ j = p := by
    unfold appendChain
    rw [stepDeps_append_right le_rfl, Nat.sub_self, mem_stepDeps_chainFrom]
    have hget := List.getElem?_eq_getElem (List.length_pos_of_ne_nil hne)
    constructor
    · rintro ⟨step, -, ⟨d, -, -, hlt, -⟩ | hprev⟩
      · omega
      · exact (Option.some.inj hprev).symm
    · rintro rfl
      exact ⟨_, hget, .inr rfl⟩
  rw [he, hlen, mem_stepDeps_reconnectJoin, hfirst]
  simp [hop]

/-- Below a step that may be waited for, a branch chained behind `p` changes nothing. -/
private theorem reaches_branchRewrite (hplan : PlanOk (normalizedSteps existing)) (hne : branch.steps ≠ [])
    (hi : Attachable (normalizedSteps existing) i) :
    Reaches (stepDeps (branchRewrite existing branch (some p) replaced).1) i j ↔
      Reaches (stepDeps (normalizedSteps existing)) i j := by
  obtain ⟨rank, hrank⟩ := hplan.ranked
  have hnext : ∀ a b, Attachable (normalizedSteps existing) a → b ∈ stepDeps (normalizedSteps existing) a →
      Attachable (normalizedSteps existing) b :=
    fun a b _ hb => ⟨(hrank a b hb).1, hplan.join_last a b hb⟩
  constructor
  · intro h
    induction h using Relation.ReflTransGen.head_induction_on with
    | refl => exact .refl
    | head hab _ ih =>
      rw [mem_stepDeps_behind hne hi] at hab
      exact .head hab (ih (hnext _ _ hi hab))
  · intro h
    induction h using Relation.ReflTransGen.head_induction_on with
    | refl => exact .refl
    | head hab _ ih => exact .head ((mem_stepDeps_behind hne hi).mpr hab) (ih (hnext _ _ hi hab))

private theorem dependsOn_first_iff (hplan : PlanOk (normalizedSteps existing)) (hne : branch.steps ≠ [])
    (hbranch : NoRestart branch.steps) (hp : Attachable (normalizedSteps existing) p) :
    DependsOn (stepDeps (branchRewrite existing branch (some p) replaced).1) existing.officialSteps.length j ↔
      j = p ∨ DependsOn (stepDeps (normalizedSteps existing)) p j := by
  have hfirst :
      DependsOn (stepDeps (branchRewrite existing branch (some p) replaced).1) existing.officialSteps.length j ↔
      Reaches (stepDeps (branchRewrite existing branch (some p) replaced).1) p j := by
    rw [dependsOn_iff]
    simp only [mem_stepDeps_first hne hbranch, exists_eq_left]
  rw [hfirst, reaches_branchRewrite hplan hne hp]
  exact Relation.reflTransGen_iff_eq_or_transGen

/-- The first step of the branch that preempts a node waits for every step that holds the node's boundary exactly if
the last such step waits for all the others. -/
theorem preempting_branch_waits_iff (hdag : JobDag existing)
    (hok : preemptParallelBranch existing candidate nodeId now = .ok rewritten)
    (hnew : existing.officialSteps.length < rewritten.officialSteps.length) :
    (∀ step ∈ (branchBoundary existing nodeId).blocking,
        DependsOn (stepDeps rewritten.officialSteps) existing.officialSteps.length step) ↔
      ∀ last, (branchBoundary existing nodeId).blocking.max? = some last →
        ∀ step ∈ (branchBoundary existing nodeId).blocking,
          step = last ∨ DependsOn (stepDeps existing.officialSteps) last step := by
  have hplan := JobPlan.of_jobDag hdag
  cases hmax : (branchBoundary existing nodeId).blocking.max? with
  | none =>
    rw [List.max?_eq_none_iff] at hmax
    simp [hmax]
  | some last =>
    have hlast := List.max?_mem hmax
    have hattach := attachable_of_nodeStepIndexes (mem_of_blocking hlast)
    have hpred : (branchBoundary existing nodeId).predecessor = some last := by
      simp [PreemptionBoundary.predecessor, hmax]
    have hindexes : (nodeStepIndexes existing nodeId).isEmpty = false :=
      List.isEmpty_eq_false_iff.mpr (List.ne_nil_of_mem (mem_of_blocking hlast))
    unfold preemptParallelBranch at hok
    simp only [hindexes, Bool.false_eq_true, if_false, hpred] at hok
    rcases appendParallelJobBranch_ok hok with rfl | ⟨candidate', branch, action, -, hbranch, rfl⟩
    · exact absurd hnew (lt_irrefl _)
    · have hne : branch.steps ≠ [] := by
        intro hempty
        have hlen := length_branchRewrite existing branch (some last) (branchBoundary existing nodeId).replaceable
        rw [hempty, List.length_nil] at hlen
        dsimp only [appendedRow] at hnew
        omega
      have hdeps := stepDeps_normalizedSteps_of_dag hdag.1
      have hiff : ∀ step, DependsOn (stepDeps (branchRewrite existing branch (some last)
          (branchBoundary existing nodeId).replaceable).1) existing.officialSteps.length step ↔
          step = last ∨ DependsOn (stepDeps (normalizedSteps existing)) last step :=
        fun step => dependsOn_first_iff hplan.planOk hne (noRestart_of_candidateBranch hbranch) hattach
      dsimp only [appendedRow]
      simp only [hiff, hdeps, Option.some.injEq, forall_eq']

end FirstStep

section ParallelRepairs

private def parallelRepairs : WorkflowRequest :=
  { requestId := "w", status := .running, dagEnabled := true
    officialSteps :=
      [{ operation := .resetGpu, nodeIds := ["n1"], branchId := some "branch:n1" },
        { operation := .remediateEfaDriver, nodeIds := ["n1"], branchId := some "branch:n1:1" },
        { operation := .restartWorkload, nodeIds := ["n1"], branchId := some "join", dependsOnStepIndexes := [0, 1] }]
    stepExecutions :=
      [{ stepIndex := 0, operation := .resetGpu, status := .waiting },
        { stepIndex := 1, operation := .remediateEfaDriver, status := .waiting }] }

private def rebootCandidate : WorkflowRequest :=
  { requestId := "c", status := .pending, officialSteps := [{ operation := .restartNode, nodeIds := ["n1"] }] }

private def rebooted : WorkflowRequest :=
  match preemptParallelBranch parallelRepairs rebootCandidate "n1" 0 with
  | .ok rewritten => rewritten
  | .error _ => parallelRepairs

private theorem parallelRepairs_jobDag : JobDag parallelRepairs := .of_rank rfl id (by decide)

/-- The second repair does not wait for the first, so the reboot behind it waits for one of the two only. -/
theorem preempting_branch_waits_iff_reboot :
    (∀ step ∈ [0, 1], DependsOn (stepDeps rebooted.officialSteps) 3 step) ↔
      ∀ last, [0, 1].max? = some last →
        ∀ step ∈ [0, 1], step = last ∨ DependsOn (stepDeps parallelRepairs.officialSteps) last step := by
  have hok : preemptParallelBranch parallelRepairs rebootCandidate "n1" 0 = .ok rebooted := by rfl
  have hblocking : (branchBoundary parallelRepairs "n1").blocking = [0, 1] := by decide
  have hiff := preempting_branch_waits_iff parallelRepairs_jobDag hok (by decide)
  rwa [hblocking] at hiff

/-- Two repairs in flight on one node: the reboot that preempts them waits for the second only. -/
theorem reboot_ignores_parallel_reset :
    JobDag parallelRepairs ∧ joinAcceptsNewBranch parallelRepairs 0 = true ∧
      (branchBoundary parallelRepairs "n1").blocking = [0, 1] ∧
      preemptParallelBranch parallelRepairs rebootCandidate "n1" 0 = .ok rebooted ∧
      stepOperation? rebooted.officialSteps 3 = some .restartNode ∧
      ¬ DependsOn (stepDeps rebooted.officialSteps) 3 0 := by
  refine ⟨parallelRepairs_jobDag, by decide, by decide, by rfl, by decide, fun h => ?_⟩
  have hmem : 0 ∈ [3, 1] := h.mem_of_closed (by decide) (by simp)
  simp at hmem

end ParallelRepairs

end GpuFaultRecovery
