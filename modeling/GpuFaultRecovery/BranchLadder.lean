import GpuFaultRecovery.EscalationEvidence
import GpuFaultRecovery.StepRetirement
import GpuFaultRecovery.PreemptionBoundary
import GpuFaultRecovery.MergedActions
import GpuFaultRecovery.JobRestartJoin

/-!
# The ladder of a failed branch

A failed branch of a job DAG climbs the recovery ladder inside its workflow: its steps are retired and a branch with
the next rung is appended, for which the job restart waits. A repair that was queued behind the failed branch keeps
its edges, and these end in retired steps.
-/

namespace GpuFaultRecovery

open DependencyGraph

/-! ### The escalator -/

/-- `ESCALATION_TAIL`: what a branch runs after its rung. -/
def escalationTail : List WorkflowOperation := [.validateGpu, .validateHost, .validateFabric, .restoreScheduling]

/-- `branch_node_ids`: the nodes a branch id was minted for; none for the ids of the job. -/
def branchIdNodes (branchId : String) : List String :=
  let chars := branchId.toList
  if branchId = initialBranchId || chars.take 7 != "branch:".toList then []
  else
    (((((chars.drop 7).splitOn ':').headD []).splitOn ',').map String.ofList).filter (· != "")

/-- `compile_branch_steps`: nothing if some operation has no owner. -/
def compileBranchSteps (profile : Option RuntimeProfile) (operations : List WorkflowOperation) (nodeId : String)
    (gpuUuids : List String) : List WorkflowStepSpec :=
  let (steps, errors) := compileSteps operations profile [nodeId] gpuUuids []
  if errors.isEmpty then steps else []

/-- What ran on a branch: its completed steps and its failures. -/
def branchRecoveryContext (workflow : WorkflowRequest) (branchIndexes : List Nat) : List WorkflowOperation :=
  (workflow.officialSteps.zipIdx.filter fun entry =>
    workflow.completedStepIndexes.contains entry.2 &&
      branchIndexes.contains entry.2).map (fun entry => entry.1.operation) ++
  (workflow.stepExecutions.filter fun execution =>
    branchIndexes.contains execution.stepIndex && execution.status == .failed).map WorkflowStepExecution.operation

inductive BranchOutcome where
  | escalated
  | exhausted
deriving Repr, DecidableEq

structure BranchEscalation where
  workflow : WorkflowRequest
  outcome : BranchOutcome
  nodeId : String
  branchId : String
  nextOperation : Option WorkflowOperation
  reason : String
deriving Repr, DecidableEq

/-- `_adopt_single_node_plan`: a flat plan of one node becomes a one-branch DAG where it has a rung to climb. -/
def adoptSingleNodePlan (workflow : WorkflowRequest) (failedIndex : Nat) (details : Details) (now : Time) :
    Option WorkflowRequest :=
  match workflow.officialSteps[failedIndex]? with
  | none => none
  | some step =>
    if step.nodeIds.length != 1 then none
    else if workflow.officialSteps.any fun item => item.nodeIds.any fun node => !step.nodeIds.contains node then none
    else if unknownOutcomeFailure details && !nodeActionRefusedBeforeActing details then none
    else if validationUnobservedFailure details then none
    else if (nextRung step.operation
        (branchRecoveryContext workflow (List.range workflow.officialSteps.length)) details).isNone then none
    else some (adoptLinearPlan workflow now)

/-- Why a branch takes no further rung. -/
def exhaustedReason (workflow : WorkflowRequest) (step : WorkflowStepSpec) (nodeId : String) (error : Option String)
    (details : Details) (rung : Option WorkflowOperation) (taken : Nat) : String :=
  let refused := nodeActionRefusedBeforeActing details
  s!"{step.operation.value} failed on {nodeId} (" ++ (error.filter (· != "")).getD "no error detail" ++ "); " ++
    if !refused && unknownOutcomeFailure details then "outcome unknown, an operator confirms it; no rung"
    else if executorRejectedFailure details then
      "the cluster executor refused the command before dispatch (this record holds generation " ++
        s!"{workflow.fencingToken}); the node was not touched, no rung"
    else if refused then
      "the Node Agent refused the command at its safety boundary before touching the GPU; nothing was applied, " ++
        "an operator decides; no rung"
    else if validationUnobservedFailure details then
      "the validation could not observe the node: the product's own quiesce taint kept the exporter off it; " ++
        "nothing about the GPU was learned, an operator restores the node " ++
        "(submit-remediation --disposition restore); no rung"
    else if rung.isNone then "no further rung"
    else s!"{taken} rung(s) already taken"

/-- The steps of the next rung, marked with the nodes the branch was made for. -/
def rungSteps (profile : Option RuntimeProfile) (rung : WorkflowOperation) (nodeId : String)
    (gpuUuids lineageNodes : List String) : List WorkflowStepSpec :=
  (compileBranchSteps profile (rung :: escalationTail) nodeId gpuUuids).map fun item =>
    { item with
      branchNodeIds := lineageNodes
      parameters :=
        if rung = .replaceNode ∧ item.operation = .replaceNode then
          item.parameters.set "replacement_strategy" (.str "HEALTHY_WARM_SPARE_ONLY")
        else item.parameters }

/-- The nodes a branch was made for, and the one its rungs are counted under. -/
def branchLineage (step : WorkflowStepSpec) (nodeId branchId : String) : List String × String :=
  let nodes :=
    if !step.branchNodeIds.isEmpty then step.branchNodeIds
    else if !(branchIdNodes branchId).isEmpty then branchIdNodes branchId
    else [nodeId]
  (nodes, if nodes.length = 1 then nodes.headD nodeId else nodeId)

/-- The next rung of a failed branch step, if there is one to climb. -/
def branchRung (workflow : WorkflowRequest) (step : WorkflowStepSpec) (branchId : String) (details : Details) :
    Option WorkflowOperation :=
  if unknownOutcomeFailure details || executorRejectedFailure details || nodeActionRefusedBeforeActing details ||
      validationUnobservedFailure details then none
  else nextRung step.operation (branchRecoveryContext workflow (branchStepIndexes workflow branchId)) details

/-- The candidate whose branch takes the place of the failed one. -/
def rungCandidate (workflow : WorkflowRequest) (rung : WorkflowOperation) (nodeId : String) (taken : Nat)
    (steps : List WorkflowStepSpec) : WorkflowRequest :=
  { requestId := s!"{workflow.requestId}/escalation/{nodeId}/{taken + 1}"
    incidentId := workflow.incidentId
    status := .pending
    fencingToken := workflow.fencingToken
    officialAction := some rung.value
    officialSteps := steps }

/-- Retire the failed branch, or replace it by its next rung; nothing if its steps cannot be compiled. -/
def climbBranch (profile : Option RuntimeProfile) (maxRungs : Nat) (workflow : WorkflowRequest)
    (step : WorkflowStepSpec) (nodeId branchId : String) (error : Option String) (details : Details) (now : Time) :
    Except String (Option BranchEscalation) :=
  let (lineageNodes, lineageNode) := branchLineage step nodeId branchId
  let rung := branchRung workflow step branchId details
  let taken := (workflow.branchEscalationCounts.lookup lineageNode).getD 0
  match rung.filter fun _ => decide (taken < maxRungs) with
  | none =>
    .ok (some {
      workflow := exhaustBranch workflow branchId now
      outcome := .exhausted
      nodeId
      branchId
      nextOperation := none
      reason := exhaustedReason workflow step nodeId error details rung taken })
  | some operation =>
    let steps := rungSteps profile operation nodeId step.gpuUuids lineageNodes
    if steps.isEmpty then .ok none
    else do
      let replaced ← replaceParallelJobBranch workflow (rungCandidate workflow operation nodeId taken steps) nodeId
        (some branchId) now
      return some {
        workflow := { replaced with
          branchEscalationCounts :=
            workflow.branchEscalationCounts.filter (fun entry => entry.1 != lineageNode) ++ [(lineageNode, taken + 1)]
          updatedAt := now }
        outcome := .escalated
        nodeId
        branchId
        nextOperation := some operation
        reason := s!"{step.operation.value} failed on {nodeId} (" ++
          (error.filter (· != "")).getD "no error detail" ++
          s!"); escalating to {operation.value}" }

/-- `escalate_branch`; nothing where the failure is not one node branch's. -/
def escalateNodeBranch (profile : Option RuntimeProfile) (maxRungs : Nat) (workflow : WorkflowRequest)
    (failedIndex : Nat) (error : Option String) (details : Details) (now : Time) :
    Except String (Option BranchEscalation) :=
  if failedStepIsDiagnostic workflow failedIndex details then .ok none
  else
    match if workflow.dagEnabled then some workflow else adoptSingleNodePlan workflow failedIndex details now with
    | none => .ok none
    | some row =>
      match row.officialSteps[failedIndex]? with
      | none => .ok none
      | some step =>
        match step.branchId, step.nodeIds with
        | some branchId, [nodeId] =>
          if branchId == "shared" || branchId == "join" then .ok none
          else if step.operation == .restoreGpuServices &&
              details.get? "reason" == some (.str "NODE_ACTION_OUTCOME_UNRESOLVED") then .ok none
          else climbBranch profile maxRungs row step nodeId branchId error details now
        | _, _ => .ok none

/-! ### A branch chained without a part before the stop -/

section Chained

variable {existing : WorkflowRequest} {branch : CandidateBranch} {predecessor : Option Nat} {replaced : List Nat}
  {steps values : List WorkflowStepSpec} {i j k : Nat}

/-- No step of the branch runs before the shared STOP_WORKLOADS. -/
def CandidateBranch.Behind (branch : CandidateBranch) : Prop :=
  ∀ entry ∈ branch.indexed, isPreStopStep entry.1 = false

private theorem CandidateBranch.Behind.preStop (h : branch.Behind) {entry : WorkflowStepSpec × Nat}
    (hentry : entry ∈ branch.indexed) :
    branch.preStop entry = false := by
  simp [CandidateBranch.preStop, h entry hentry]

private theorem CandidateBranch.Behind.leading (h : branch.Behind) (stopIsOpen : Bool) :
    branch.leading stopIsOpen = [] := by
  unfold CandidateBranch.leading
  split
  · rw [List.map_eq_nil_iff, List.filter_eq_nil_iff]
    intro entry hentry
    simp [h.preStop hentry]
  · rfl

private theorem CandidateBranch.Behind.length_trailing (h : branch.Behind) (stopIsOpen : Bool) :
    (branch.trailing stopIsOpen).length = branch.steps.length := by
  unfold CandidateBranch.trailing
  split
  · have hall : (branch.indexed.filter fun entry => !branch.preStop entry) = branch.indexed := by
      rw [List.filter_eq_self]
      intro entry hentry
      simp [h.preStop hentry]
    rw [hall]
    simp [CandidateBranch.steps]
  · simp

/-- The rewrite is one chain behind the old plan, and the job restart waits for the end of it. -/
private theorem branchRewrite_chained (hne : branch.steps ≠ []) (hbranch : NoRestart branch.steps)
    (hbehind : branch.Behind) :
    ∃ narrowed values dependency branchId retired, planShape narrowed = planShape (normalizedSteps existing) ∧
      values ≠ [] ∧ NoRestart values ∧
      (branchRewrite existing branch predecessor replaced).1 =
        reconnectJoin (appendChain narrowed values dependency branchId).1
          (some (narrowed.length + values.length - 1)) retired := by
  let narrowed := terminalSuperseded existing (normalizedSteps existing) branch.terminal replaced
  have hshape : planShape narrowed.1 = planShape (normalizedSteps existing) :=
    terminalSuperseded_shape existing _ branch.terminal replaced
  -- what a nonempty chain does to the plan and where it ends
  have hchain : ∀ (values : List WorkflowStepSpec) (dependency : Option Nat) (branchId : String), values ≠ [] →
      (appendChain narrowed.1 values dependency branchId).1.length ≠ narrowed.1.length ∧
        (appendChain narrowed.1 values dependency branchId).2 = some (narrowed.1.length + values.length - 1) := by
    intro values dependency branchId hvalues
    have hpos := List.length_pos_of_ne_nil hvalues
    refine ⟨?_, ?_⟩
    · rw [length_appendChain]
      omega
    · cases values with
      | nil => exact absurd rfl hvalues
      | cons value rest => rfl
  let stop := stopState existing (normalizedSteps existing)
  cases predecessor with
  | some p =>
    obtain ⟨hnew, htail⟩ := hchain branch.steps (some p) (freshBranchId existing branch) hne
    refine ⟨narrowed.1, branch.steps, some p, freshBranchId existing branch, narrowed.2, hshape, hne, hbranch, ?_⟩
    rw [← htail]
    exact if_neg hnew
  | none =>
    have htrailing : branch.trailing stop.2 ≠ [] := by
      intro hnil
      have hlen := hbehind.length_trailing stop.2
      rw [hnil] at hlen
      exact hne (List.length_eq_zero_iff.mp hlen.symm)
    let dependency : Option Nat := stop.1.orElse fun _ => none
    obtain ⟨hnew, htail⟩ := hchain (branch.trailing stop.2) dependency (freshBranchId existing branch) htrailing
    refine ⟨narrowed.1, branch.trailing stop.2, dependency, freshBranchId existing branch, narrowed.2, hshape,
      htrailing, hbranch.trailing stop.2, ?_⟩
    have hattach : attachCandidateBranch narrowed.1 branch (freshBranchId existing branch) stop.1 stop.2 none =
        appendChain narrowed.1 (branch.trailing stop.2) dependency (freshBranchId existing branch) := by
      have hgate : gateStop narrowed.1 (branch.leading stop.2) (freshBranchId existing branch) stop.1 stop.2 =
          (narrowed.1, none) := by
        rw [hbehind.leading]
        simp [gateStop, appendChain, chainFrom]
      unfold attachCandidateBranch
      rw [hgate]
      dsimp only
      rw [htail]
      exact Prod.ext rfl htail.symm
    have hrewrite : (branchRewrite existing branch none replaced).1 =
        if (attachCandidateBranch narrowed.1 branch (freshBranchId existing branch) stop.1 stop.2 none).1.length =
            narrowed.1.length then
          (attachCandidateBranch narrowed.1 branch (freshBranchId existing branch) stop.1 stop.2 none).1
        else reconnectJoin (attachCandidateBranch narrowed.1 branch (freshBranchId existing branch) stop.1
          stop.2 none).1
          (attachCandidateBranch narrowed.1 branch (freshBranchId existing branch) stop.1 stop.2 none).2 narrowed.2 :=
            rfl
    rw [hrewrite, hattach, if_neg hnew, htail]

/-- Old steps but the job restarts wait for old steps only. -/
private theorem not_dependsOn_new (hplan : PlanOk (normalizedSteps existing)) (hne : branch.steps ≠ [])
    (hbranch : NoRestart branch.steps) (hbehind : branch.Behind) (hi : Attachable (normalizedSteps existing) i)
    (h : DependsOn (stepDeps (branchRewrite existing branch predecessor replaced).1) i j) :
    Attachable (normalizedSteps existing) j := by
  obtain ⟨narrowed, values, dependency, branchId, retired, hshape, -, -, he⟩ :=
    @branchRewrite_chained existing branch predecessor replaced hne hbranch hbehind
  rw [he] at h
  obtain ⟨rank, hrank⟩ := hplan.ranked
  have hedge : ∀ a b, Attachable (normalizedSteps existing) a →
      b ∈ stepDeps (reconnectJoin (appendChain narrowed values dependency branchId).1
        (some (narrowed.length + values.length - 1)) retired) a → Attachable (normalizedSteps existing) b := by
    intro a b ha hb
    have hlt : a < narrowed.length := by
      rw [length_eq_of_shape hshape]
      exact ha.1
    have hdeps : stepDeps (appendChain narrowed values dependency branchId).1 a = stepDeps narrowed a :=
      stepDeps_append_left hlt
    rw [mem_stepDeps_reconnectJoin, stepOperation?_appendChain_left hlt, stepOperation?_eq_of_shape hshape, hdeps,
      stepDeps_eq_of_shape hshape] at hb
    rcases hb with ⟨-, hb⟩ | ⟨hrestart, -⟩
    · exact ⟨(hrank a b hb).1, hplan.join_last a b hb⟩
    · exact absurd hrestart ha.2
  induction h with
  | single hb => exact hedge _ _ hi hb
  | tail _ hb ih => exact hedge _ _ ih hb

/-- A job restart waits for the whole of a new branch. -/
private theorem restart_dependsOn_new (hne : branch.steps ≠ []) (hbranch : NoRestart branch.steps)
    (hbehind : branch.Behind) (hi : stepOperation? (normalizedSteps existing) i = some .restartWorkload)
    (hk : existing.officialSteps.length ≤ k)
    (hlt : k < (branchRewrite existing branch predecessor replaced).1.length) :
    DependsOn (stepDeps (branchRewrite existing branch predecessor replaced).1) i k := by
  obtain ⟨narrowed, values, dependency, branchId, retired, hshape, hvalues, hnoRestart, he⟩ :=
    @branchRewrite_chained existing branch predecessor replaced hne hbranch hbehind
  have hlen : narrowed.length = existing.officialSteps.length := by
    rw [length_eq_of_shape hshape, length_normalizedSteps]
  rw [he, length_reconnectJoin, length_appendChain] at hlt
  rw [he]
  rw [← stepOperation?_eq_of_shape hshape] at hi
  have hjoin : i < narrowed.length := by
    unfold stepOperation? at hi
    obtain ⟨step, hstep, -⟩ := Option.map_eq_some_iff.mp hi
    exact (List.getElem?_eq_some_iff.mp hstep).1
  have htail : narrowed.length + values.length - 1 ∈
      stepDeps (reconnectJoin (appendChain narrowed values dependency branchId).1
        (some (narrowed.length + values.length - 1)) retired) i := by
    rw [mem_stepDeps_reconnectJoin, stepOperation?_appendChain_left hjoin]
    exact .inr ⟨hi, .inr rfl⟩
  have hkept : ∀ m, k ≤ m → m < narrowed.length + values.length →
      Reaches (stepDeps (reconnectJoin (appendChain narrowed values dependency branchId).1
        (some (narrowed.length + values.length - 1)) retired)) m k := by
    intro m hm hmlt
    induction m, hm using Nat.le_induction with
    | base => exact .refl
    | succ m hm ih =>
      refine .head ?_ (ih (by omega))
      rw [mem_stepDeps_reconnectJoin]
      have hindex : m + 1 = narrowed.length + (m + 1 - narrowed.length) := by omega
      refine .inl ⟨?_, ?_⟩
      · rw [stepOperation?_appendChain_right (by omega)]
        exact hnoRestart.stepOperation?_ne _
      · rw [hindex]
        refine chainPrevious_mem_stepDeps (by omega) ?_
        have hsucc : m + 1 - narrowed.length = (m - narrowed.length) + 1 := by omega
        rw [hsucc, chainPrevious]
        congr 1
        omega
  exact dependsOn_iff.mpr ⟨_, htail, hkept _ (by omega) (by omega)⟩

end Chained

/-! ### The branch of a rung -/

section Rung

variable {profile : Option RuntimeProfile} {maxRungs failedIndex : Nat}
  {workflow existing candidate rewritten : WorkflowRequest}
  {step : WorkflowStepSpec} {nodeId branchId : String} {error : Option String} {details : Details} {now : Time}
  {escalation : BranchEscalation} {rung : WorkflowOperation} {gpuUuids lineageNodes : List String}

private theorem compileStep_ok {operation : WorkflowOperation} {nodeIds workloadIds : List String}
    (h : compileStep profile nodeIds gpuUuids workloadIds operation = .ok step) : step.operation = operation := by
  unfold compileStep at h
  split at h
  · cases h
  · cases h
    rfl

theorem mem_compileSteps {operations : List WorkflowOperation} {nodeIds workloadIds : List String}
    (h : step ∈ (compileSteps operations profile nodeIds gpuUuids workloadIds).1) : step.operation ∈ operations := by
  simp only [compileSteps, List.mem_filterMap, List.mem_map] at h
  obtain ⟨compiled, ⟨operation, hmem, hcompiled⟩, hstep⟩ := h
  cases compiled with
  | error reason => cases hstep
  | ok compiledStep =>
    cases hstep
    rw [compileStep_ok hcompiled]
    exact hmem

private theorem compileSteps_operations (profile : Option RuntimeProfile) {operations : List WorkflowOperation}
    {nodeIds gpuUuids workloadIds : List String}
    (h : (compileSteps operations profile nodeIds gpuUuids workloadIds).2 = []) :
    (compileSteps operations profile nodeIds gpuUuids workloadIds).1.map WorkflowStepSpec.operation = operations := by
  induction operations with
  | nil => rfl
  | cons operation rest ih =>
    cases hcompiled : compileStep profile nodeIds gpuUuids workloadIds operation with
    | error reason => simp [compileSteps, hcompiled] at h
    | ok compiledStep =>
      have hrest : (compileSteps rest profile nodeIds gpuUuids workloadIds).2 = [] := by
        simpa [compileSteps, hcompiled] using h
      have hsteps : (compileSteps (operation :: rest) profile nodeIds gpuUuids workloadIds).1 =
          compiledStep :: (compileSteps rest profile nodeIds gpuUuids workloadIds).1 := by
        simp [compileSteps, hcompiled]
      rw [hsteps, List.map_cons, ih hrest, compileStep_ok hcompiled]

/-- A rung that compiles brings its own operation. -/
theorem exists_rungStep (h : rungSteps profile rung nodeId gpuUuids lineageNodes ≠ []) :
    ∃ (i : Nat) (step : WorkflowStepSpec),
      (rungSteps profile rung nodeId gpuUuids lineageNodes)[i]? = some step ∧ step.operation = rung := by
  have herrors : (compileSteps (rung :: escalationTail) profile [nodeId] gpuUuids []).2 = [] := by
    by_contra hne
    refine h ?_
    simp [rungSteps, compileBranchSteps, hne]
  have hmap : (rungSteps profile rung nodeId gpuUuids lineageNodes).map WorkflowStepSpec.operation =
      rung :: escalationTail := by
    rw [← compileSteps_operations profile herrors]
    simp [rungSteps, compileBranchSteps, herrors, Function.comp_def]
  have hfirst := congrArg (fun operations => operations[0]?) hmap
  simp only [List.getElem?_map, List.getElem?_cons_zero] at hfirst
  obtain ⟨step, hstep, hop⟩ := Option.map_eq_some_iff.mp hfirst
  exact ⟨0, step, hstep, hop⟩

theorem rungSteps_operation (h : step ∈ rungSteps profile rung nodeId gpuUuids lineageNodes) :
    step.operation ∈ rung :: escalationTail := by
  simp only [rungSteps, List.mem_map] at h
  obtain ⟨item, hitem, rfl⟩ := h
  simp only [compileBranchSteps] at hitem
  split at hitem
  · exact @mem_compileSteps profile item _ _ _ _ hitem
  · cases hitem

private theorem rung_operation (hrung : rung = .restartNode ∨ rung = .replaceNode) {op : WorkflowOperation}
    (h : op ∈ rung :: escalationTail) :
    op ≠ .freezeEvidence ∧ op ≠ .markUnschedulable ∧ op ≠ .collectDiagnosticBundle ∧
      op.semantics.sharedDag = false := by
  simp only [escalationTail, List.mem_cons, List.not_mem_nil, or_false] at h
  rcases hrung with rfl | rfl
  all_goals rcases h with rfl | rfl | rfl | rfl | rfl
  all_goals decide

/-- Holds bring quarantines and nothing else into a plan. -/
theorem inherit_operation (h : inheritTerminalQuarantine existing candidate = .ok rewritten) {i : Nat}
    (hstep : rewritten.officialSteps[i]? = some step) :
    step.operation = .quarantine ∨ ∃ original ∈ candidate.officialSteps, original.operation = step.operation := by
  obtain ⟨required, place, rfl | hplaced⟩ := inherit_placed h
  · exact .inr ⟨step, List.mem_of_getElem? hstep, rfl⟩
  rcases hplaced.back i step hstep with ⟨k, marked, rfl, hmarked, hsame⟩ | ⟨-, hquarantine⟩
  · rw [getElem?_inheritedSteps] at hmarked
    obtain ⟨original, horiginal, rfl⟩ := Option.map_eq_some_iff.mp hmarked
    refine .inr ⟨original, List.mem_of_getElem? horiginal, ?_⟩
    rw [hsame]
    exact (inheritedStep_operation original).symm
  · exact .inl hquarantine

private theorem behind_of_candidateBranch {predecessor : Option Nat} {revision : Nat} {branch : CandidateBranch}
    (hbranch : candidateBranch rewritten predecessor revision = .ok branch)
    (hoperations : ∀ step ∈ rewritten.officialSteps, step.operation ≠ .freezeEvidence ∧
      step.operation ≠ .markUnschedulable ∧ step.operation ≠ .collectDiagnosticBundle) : branch.Behind := by
  unfold candidateBranch at hbranch
  obtain ⟨quarantined, -, hbranch⟩ := bind_ok hbranch
  cases Except.ok.inj hbranch
  intro entry hentry
  have hmem : entry.1 ∈ rewritten.officialSteps := by
    have hlive := (List.mem_filter.mp hentry).1
    exact List.fst_mem_of_mem_zipIdx (List.mem_filter.mp hlive).1
  obtain ⟨hfreeze, hmark, hcollect⟩ := hoperations entry.1 hmem
  simp [isPreStopStep, requiresLivePreStopCapture, hfreeze, hmark, hcollect]

/-- A replacement of a branch that has steps appends the branch of the candidate. -/
theorem replaceParallelJobBranch_of_mem {i : Nat} (hi : i ∈ branchStepIndexes existing branchId)
    (h : replaceParallelJobBranch existing candidate nodeId (some branchId) now = .ok rewritten) :
    ∃ predecessor replaced candidate' branch action, inheritTerminalQuarantine existing candidate = .ok candidate' ∧
      candidateBranch candidate' predecessor existing.dagRevision = .ok branch ∧
      rewritten = appendedRow existing branch predecessor replaced action now := by
  rcases replaceParallelJobBranch_cases h with
    ⟨-, -, hnil⟩ | ⟨predecessor, replaced, candidate', branch, action, -, -, hinherit, hbranch, hrow⟩
  · rw [show branchStepIndexes existing branchId = [] from hnil] at hi
    cases hi
  · exact ⟨predecessor, replaced, candidate', branch, action, hinherit, hbranch, hrow⟩

private theorem branch_ne_nil {candidate' : WorkflowRequest} {predecessor : Option Nat} {revision i : Nat}
    {branch : CandidateBranch} (hinherit : inheritTerminalQuarantine existing candidate = .ok candidate')
    (hbranch : candidateBranch candidate' predecessor revision = .ok branch) (hlive : LiveStep candidate i step)
    (hop : step.operation = .restartNode ∨ step.operation = .replaceNode) : branch.steps ≠ [] := by
  have hkind : ¬ step.operation.readmits ∧ step.operation.semantics.sharedDag = false := by
    rcases hop with hop | hop <;> rw [hop] <;> simp [WorkflowOperation.readmits, WorkflowOperation.semantics]
  obtain ⟨j, step', hlive', hsame⟩ := inherit_keeps hinherit hlive hkind.1
  unfold candidateBranch at hbranch
  obtain ⟨quarantined, -, hbranch⟩ := bind_ok hbranch
  cases Except.ok.inj hbranch
  refine List.ne_nil_of_mem (List.mem_map.mpr ⟨(step', j), ?_, rfl⟩)
  simp only [List.mem_filter, liveSteps, List.mem_zipIdx_iff_getElem?]
  refine ⟨⟨hlive'.1, ?_⟩, ?_⟩
  · simpa using hlive'.2
  · simp [hsame.operation, hkind.2]

theorem nextRung_of_branchRung (h : branchRung workflow step branchId details = some rung) :
    nextRung step.operation (branchRecoveryContext workflow (branchStepIndexes workflow branchId)) details =
      some rung := by
  unfold branchRung at h
  split at h
  · cases h
  · exact h

/-- Only a step of the node itself climbs. -/
theorem nextRung_scoped {failed : WorkflowOperation} {context : List WorkflowOperation}
    (h : nextRung failed context details = some rung) : failed.semantics.workloadScoped = false := by
  by_contra hscoped
  have hkind : nextRung failed context details = none := by
    revert hscoped
    cases failed <;>
      simp [nextRung, WorkflowOperation.semantics, WorkflowOperation.reset, WorkflowOperation.validation]
  rw [hkind] at h
  cases h

theorem mem_branchStepIndexes (hstep : workflow.officialSteps[failedIndex]? = some step)
    (hbranch : step.branchId = some branchId) (hscoped : step.operation.semantics.workloadScoped = false) :
    failedIndex ∈ branchStepIndexes workflow branchId := by
  refine List.mem_map.mpr ⟨(step, failedIndex), List.mem_filter.mpr ⟨List.mem_zipIdx_iff_getElem?.mpr hstep, ?_⟩, rfl⟩
  simp [hbranch, hscoped]

/-- What an escalation writes on `row`, its plan as a DAG: the failed branch is retired, or replaced by its next rung,
which is counted under the node of its lineage. -/
inductive BranchMove (profile : Option RuntimeProfile) (maxRungs : Nat) (row : WorkflowRequest)
    (step : WorkflowStepSpec) (nodeId branchId : String) (details : Details) (now : Time) :
    BranchOutcome → WorkflowRequest → Prop where
  | exhausted : BranchMove profile maxRungs row step nodeId branchId details now .exhausted
      (exhaustBranch row branchId now)
  | escalated {operation : WorkflowOperation} {replaced : WorkflowRequest}
      (hrung : branchRung row step branchId details = some operation)
      (htaken : (row.branchEscalationCounts.lookup (branchLineage step nodeId branchId).2).getD 0 < maxRungs)
      (hsteps : rungSteps profile operation nodeId step.gpuUuids (branchLineage step nodeId branchId).1 ≠ [])
      (hreplaced : replaceParallelJobBranch row
        (rungCandidate row operation nodeId
          ((row.branchEscalationCounts.lookup (branchLineage step nodeId branchId).2).getD 0)
          (rungSteps profile operation nodeId step.gpuUuids (branchLineage step nodeId branchId).1))
        nodeId (some branchId) now = .ok replaced) :
      BranchMove profile maxRungs row step nodeId branchId details now .escalated
        { replaced with
          branchEscalationCounts :=
            row.branchEscalationCounts.filter (fun entry => entry.1 != (branchLineage step nodeId branchId).2) ++
              [((branchLineage step nodeId branchId).2,
                (row.branchEscalationCounts.lookup (branchLineage step nodeId branchId).2).getD 0 + 1)]
          updatedAt := now }

private theorem climbBranch_move
    (h : climbBranch profile maxRungs workflow step nodeId branchId error details now = .ok (some escalation)) :
    escalation.nodeId = nodeId ∧ escalation.branchId = branchId ∧
      BranchMove profile maxRungs workflow step nodeId branchId details now escalation.outcome
        escalation.workflow := by
  unfold climbBranch at h
  dsimp only at h
  split at h
  · cases h
    exact ⟨rfl, rfl, .exhausted⟩
  · rename_i operation hrung
    obtain ⟨hoperation, htaken⟩ := Option.filter_eq_some_iff.mp hrung
    split at h
    · cases h
    · rename_i hsteps
      obtain ⟨replaced, hreplaced, h⟩ := bind_ok h
      cases Except.ok.inj h
      exact ⟨rfl, rfl, .escalated hoperation (by simpa using htaken) (by simpa using hsteps) hreplaced⟩

/-- The plan an escalation works on: the row's own, or a flat one made into a DAG. -/
def escalatedPlan (workflow : WorkflowRequest) (now : Time) : WorkflowRequest :=
  if workflow.dagEnabled then workflow else adoptLinearPlan workflow now

private theorem adoptSingleNodePlan_eq {adopted : WorkflowRequest}
    (h : adoptSingleNodePlan workflow failedIndex details now = some adopted) :
    adopted = adoptLinearPlan workflow now := by
  unfold adoptSingleNodePlan at h
  repeat' split at h
  all_goals cases h
  rfl

private theorem adoptSingleNodePlan_nodes {adopted : WorkflowRequest}
    (h : adoptSingleNodePlan workflow failedIndex details now = some adopted) :
    ∃ step, workflow.officialSteps[failedIndex]? = some step ∧
      ∀ item ∈ workflow.officialSteps, ∀ node ∈ item.nodeIds, node ∈ step.nodeIds := by
  unfold adoptSingleNodePlan at h
  split at h
  · cases h
  rename_i step hstep
  split at h
  · cases h
  split at h
  · cases h
  rename_i hsingle
  refine ⟨step, hstep, fun item hitem node hnode => ?_⟩
  simp only [List.any_eq_true, not_exists, not_and, Bool.not_eq_true', ← Bool.not_eq_true, not_not,
    List.contains_iff_mem] at hsingle
  exact hsingle item hitem node hnode

/-- An escalation is a move of the branch of the failed `step`. -/
structure Escalates (profile : Option RuntimeProfile) (maxRungs : Nat) (workflow : WorkflowRequest)
    (failedIndex : Nat) (details : Details) (now : Time) (escalation : BranchEscalation) (step : WorkflowStepSpec) :
    Prop where
  failed : (escalatedPlan workflow now).officialSteps[failedIndex]? = some step
  branchId : step.branchId = some escalation.branchId
  nodeIds : step.nodeIds = [escalation.nodeId]
  not_shared : escalation.branchId ≠ "shared"
  not_join : escalation.branchId ≠ "join"
  single :
    workflow.dagEnabled = false → ∀ item ∈ workflow.officialSteps, ∀ node ∈ item.nodeIds, node = escalation.nodeId
  move :
    BranchMove profile maxRungs (escalatedPlan workflow now) step escalation.nodeId escalation.branchId details now
    escalation.outcome escalation.workflow

theorem escalateNodeBranch_move
    (h : escalateNodeBranch profile maxRungs workflow failedIndex error details now = .ok (some escalation)) :
    ∃ step, Escalates profile maxRungs workflow failedIndex details now escalation step := by
  unfold escalateNodeBranch at h
  split at h
  · cases h
  split at h
  · cases h
  rename_i row hrow
  have hplan : escalatedPlan workflow now = row := by
    unfold escalatedPlan
    split at hrow
    · rename_i hdag
      rw [if_pos hdag]
      exact Option.some.inj hrow
    · rename_i hdag
      rw [if_neg hdag]
      exact (adoptSingleNodePlan_eq hrow).symm
  split at h
  · cases h
  rename_i step hstep
  split at h
  · rename_i branchId nodeId hbranchId hnodes
    split at h
    · cases h
    rename_i hshared
    simp only [Bool.or_eq_true, beq_iff_eq, not_or] at hshared
    split at h
    · cases h
    obtain ⟨hnode, hbranch, hmove⟩ := climbBranch_move h
    rw [← hplan] at hstep hmove
    refine ⟨step, ?_⟩
    subst hnode hbranch
    refine ⟨hstep, hbranchId, hnodes, hshared.1, hshared.2, fun hflat item hitem node hnode => ?_, hmove⟩
    rw [if_neg (by simp [hflat])] at hrow
    obtain ⟨original, horiginal, hsingle⟩ := adoptSingleNodePlan_nodes hrow
    have hsame : step.nodeIds = original.nodeIds := by
      rw [hplan, adoptSingleNodePlan_eq hrow, adoptLinearPlan, if_neg (by simp [hflat]), getElem?_normalizedSteps,
        horiginal] at hstep
      rw [← Option.some.inj hstep]
    have hmem := hsingle item hitem node hnode
    rw [← hsame, hnodes] at hmem
    exact List.mem_singleton.mp hmem
  · cases h

/-- What an escalation that climbs writes: the plan with the branch of the rung chained behind it. -/
private theorem escalateNodeBranch_escalated (hdag : workflow.dagEnabled = true)
    (h : escalateNodeBranch profile maxRungs workflow failedIndex error details now = .ok (some escalation))
    (houtcome : escalation.outcome = .escalated) :
    ∃ predecessor replaced branch, branch.steps ≠ [] ∧ NoRestart branch.steps ∧ branch.Behind ∧
      escalation.workflow.officialSteps = (branchRewrite workflow branch predecessor replaced).1 := by
  obtain ⟨failed, hescalates⟩ := escalateNodeBranch_move h
  have hfailed := hescalates.failed
  have hmove := hescalates.move
  have hplan : escalatedPlan workflow now = workflow := if_pos hdag
  rw [hplan] at hfailed hmove
  rw [houtcome] at hmove
  generalize escalation.workflow = written at hmove
  cases hmove with
  | escalated hrung htaken hsteps hreplaced =>
    have hclimbs := nextRung_of_branchRung hrung
    have hmem := mem_branchStepIndexes hfailed hescalates.branchId (nextRung_scoped hclimbs)
    obtain ⟨predecessor, indexes, candidate', branch, action, hinherit, hbranch, rfl⟩ :=
      replaceParallelJobBranch_of_mem hmem hreplaced
    have hkinds := nextRung_eq_some hclimbs
    have hoperations : ∀ step ∈ candidate'.officialSteps, step.operation ≠ .freezeEvidence ∧
        step.operation ≠ .markUnschedulable ∧ step.operation ≠ .collectDiagnosticBundle := by
      intro step hstep
      obtain ⟨i, hget⟩ := List.mem_iff_getElem?.mp hstep
      rcases inherit_operation hinherit hget with hquarantine | ⟨original, horiginal, hsame⟩
      · rw [hquarantine]
        decide
      · obtain ⟨hfreeze, hmark, hcollect, -⟩ := rung_operation hkinds (rungSteps_operation horiginal)
        rw [← hsame]
        exact ⟨hfreeze, hmark, hcollect⟩
    refine ⟨predecessor, indexes, branch, ?_, noRestart_of_candidateBranch hbranch,
      behind_of_candidateBranch hbranch hoperations, rfl⟩
    obtain ⟨i, first, hfirst, hop⟩ := exists_rungStep hsteps
    exact branch_ne_nil hinherit hbranch ⟨hfirst, by simp [rungCandidate]⟩ (hop ▸ hkinds)

/-- A live step of another branch that names the node and waits for the branch. -/
structure QueuedBehind (workflow : WorkflowRequest) (nodeId branchId : String) (index : Nat) : Prop where
  step : ∃ step, workflow.officialSteps[index]? = some step ∧ step.branchId ≠ some branchId ∧ nodeId ∈ step.nodeIds
  live : index ∉ workflow.resolvedStepIndexes
  waits : ∃ i ∈ branchStepIndexes workflow branchId, DependsOn (stepDeps workflow.officialSteps) index i

/-- After a rung, every repair queued behind the failed branch waits for all of the new branch exactly if job restarts
alone were queued there. -/
theorem queued_waits_iff (hdag : JobDag workflow)
    (h : escalateNodeBranch profile maxRungs workflow failedIndex error details now = .ok (some escalation))
    (houtcome : escalation.outcome = .escalated) :
    (∀ queued, QueuedBehind workflow escalation.nodeId escalation.branchId queued →
      ∀ new, workflow.officialSteps.length ≤ new → new < escalation.workflow.officialSteps.length →
        DependsOn (stepDeps escalation.workflow.officialSteps) queued new) ↔
      ∀ queued, QueuedBehind workflow escalation.nodeId escalation.branchId queued →
        stepOperation? workflow.officialSteps queued = some .restartWorkload := by
  obtain ⟨predecessor, replaced, branch, hne, hbranch, hbehind, hsteps⟩ :=
    escalateNodeBranch_escalated hdag.1 h houtcome
  have hplan := (JobPlan.of_jobDag hdag).planOk
  have hshape := planShape_normalizedSteps_of_dag hdag.1
  rw [hsteps, length_branchRewrite]
  have hpos := List.length_pos_of_ne_nil hne
  constructor
  · intro hwaits queued hqueued
    by_contra hop
    obtain ⟨step, hstep, -, -⟩ := hqueued.step
    have hattachable : Attachable (normalizedSteps workflow) queued := by
      refine ⟨?_, ?_⟩
      · rw [length_normalizedSteps]
        exact (List.getElem?_eq_some_iff.mp hstep).1
      · rw [stepOperation?_eq_of_shape hshape]
        exact hop
    have hnew := not_dependsOn_new hplan hne hbranch hbehind hattachable
      (hwaits queued hqueued workflow.officialSteps.length le_rfl (by omega))
    have hlt := hnew.1
    rw [length_normalizedSteps] at hlt
    omega
  · intro hrestart queued hqueued new hle hlt
    have hop := hrestart queued hqueued
    rw [← stepOperation?_eq_of_shape hshape] at hop
    exact restart_dependsOn_new hne hbranch hbehind hop hle (by rw [length_branchRewrite]; exact hlt)

end Rung

/-! ### A repair queued behind a reset -/

section QueuedRepair

/-- A job whose node has a failed reset and a driver remediation queued behind it. -/
private def queuedRemediation : WorkflowRequest :=
  { requestId := "w1", incidentId := "i1", status := .running, dagEnabled := true, dagRevision := 2,
    officialSteps := [
      { operation := .stopWorkloads, nodeIds := ["n1"], branchId := some "shared" },
      { operation := .resetGpu, nodeIds := ["n1"], gpuUuids := ["g1"], dependsOnStepIndexes := [0],
        branchId := some "branch:n1", branchNodeIds := ["n1"] },
      { operation := .remediateEfaDriver, nodeIds := ["n1"], dependsOnStepIndexes := [1],
        branchId := some "branch:n1:successor:2", branchNodeIds := ["n1"] },
      { operation := .restartWorkload, dependsOnStepIndexes := [1, 2], branchId := some "join" }],
    completedStepIndexes := [0], completedOperations := [.stopWorkloads],
    stepExecutions := [{ stepIndex := 1, operation := .resetGpu, status := .failed }] }

private def rebootProfile : RuntimeProfile :=
  [{ capability := .nodeReboot, mode := .own, owner := some "provider" },
    { capability := .deepDiagnostics, mode := .own, owner := some "validation" },
    { capability := .schedulerDrain, mode := .own, owner := some "kubernetes" }]

private def climbedRow : WorkflowRequest :=
  match escalateNodeBranch (some rebootProfile) 2 queuedRemediation 1 none [] 0 with
  | .ok (some escalation) => escalation.workflow
  | _ => queuedRemediation

private def climbed : BranchEscalation :=
  { workflow := climbedRow, outcome := .escalated, nodeId := "n1", branchId := "branch:n1",
    nextOperation := some .restartNode
    reason := "RESET_GPU failed on n1 (no error detail); escalating to RESTART_NODE" }

private theorem escalate_queuedRemediation :
    escalateNodeBranch (some rebootProfile) 2 queuedRemediation 1 none [] 0 = .ok (some climbed) := by rfl

private theorem queuedRemediation_jobDag : JobDag queuedRemediation := .of_rank rfl id (by decide)

private theorem queuedRemediation_queued : QueuedBehind queuedRemediation "n1" "branch:n1" 2 where
  step := ⟨_, rfl, by decide, by decide⟩
  live := by decide
  waits := ⟨1, by decide, .single (by decide)⟩

/-- The reboot replaces the reset, and the remediation queued behind the reset does not wait for it: both are
ready. -/
theorem queued_remediation_beside_reboot :
    JobDag queuedRemediation ∧ QueuedBehind queuedRemediation "n1" "branch:n1" 2 ∧
      escalateNodeBranch (some rebootProfile) 2 queuedRemediation 1 none [] 0 = .ok (some climbed) ∧
      stepOperation? climbed.workflow.officialSteps 4 = some .restartNode ∧
      ¬ DependsOn (stepDeps climbed.workflow.officialSteps) 2 4 ∧
      2 ∈ ready (stepDeps climbed.workflow.officialSteps) 9 climbed.workflow.resolvedStepIndexes ∧
      4 ∈ ready (stepDeps climbed.workflow.officialSteps) 9 climbed.workflow.resolvedStepIndexes := by
  refine ⟨queuedRemediation_jobDag, queuedRemediation_queued, escalate_queuedRemediation,
    by decide +kernel, fun h => ?_, by decide +kernel, by decide +kernel⟩
  have hmem : 4 ∈ [2, 1, 0] := h.mem_of_closed (by decide +kernel) (by simp)
  simp at hmem

theorem queued_waits_iff_remediation :
    (∀ queued, QueuedBehind queuedRemediation "n1" "branch:n1" queued →
      ∀ new, queuedRemediation.officialSteps.length ≤ new → new < climbed.workflow.officialSteps.length →
        DependsOn (stepDeps climbed.workflow.officialSteps) queued new) ↔
      ∀ queued, QueuedBehind queuedRemediation "n1" "branch:n1" queued →
        stepOperation? queuedRemediation.officialSteps queued = some .restartWorkload :=
  queued_waits_iff queuedRemediation_jobDag escalate_queuedRemediation rfl

end QueuedRepair

end GpuFaultRecovery
