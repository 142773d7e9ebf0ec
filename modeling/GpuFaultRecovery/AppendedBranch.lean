import GpuFaultRecovery.JobRestartJoin

/-!
# Where the steps of an appended branch stand

A branch is appended in up to two chains. With a predecessor it is one chain behind it. Without one, the steps that
need the job's processes come first and an open STOP_WORKLOADS waits for the last of them; the others follow behind
that stop. The lemmas below read an appended step off the branch by its position and say what it waits for.
-/

namespace GpuFaultRecovery

open DependencyGraph

/-- The steps of a branch that are put before the shared STOP_WORKLOADS. -/
def CandidateBranch.ahead (branch : CandidateBranch) (stopIsOpen : Bool) (predecessor : Option Nat) :
    List WorkflowStepSpec :=
  if predecessor.isSome then [] else branch.leading stopIsOpen

def CandidateBranch.rest (branch : CandidateBranch) (stopIsOpen : Bool) (predecessor : Option Nat) :
    List WorkflowStepSpec :=
  if predecessor.isSome then branch.steps else branch.trailing stopIsOpen

/-- What the other steps of a branch are chained behind, in a plan of `n` steps. -/
def CandidateBranch.point (branch : CandidateBranch) (n : Nat) (stopIndex : Option Nat) (stopIsOpen : Bool)
    (predecessor : Option Nat) : Option Nat :=
  (attachPoint stopIndex predecessor).orElse fun _ =>
    if (branch.ahead stopIsOpen predecessor).isEmpty then none
    else some (n + (branch.ahead stopIsOpen predecessor).length - 1)

section Attached

variable {steps values : List WorkflowStepSpec} {branch : CandidateBranch} {branchId : String}
  {stopIndex predecessor : Option Nat} {stopIsOpen : Bool} {i j m : Nat}

theorem length_ahead_add_rest :
    (branch.ahead stopIsOpen predecessor).length + (branch.rest stopIsOpen predecessor).length =
      branch.steps.length := by
  have hlen := length_attach [] branch "" none stopIsOpen predecessor
  unfold CandidateBranch.ahead CandidateBranch.rest
  cases predecessor with
  | some p => simp
  | none =>
    simp only [attachCandidateBranch, length_appendChain, length_gateStop] at hlen
    simpa using hlen

theorem gateStop_tail : (gateStop steps values branchId stopIndex stopIsOpen).2 =
    if values.isEmpty then none else some (steps.length + values.length - 1) := by
  unfold gateStop
  dsimp only
  split <;> rfl

/-- A step put before the stop, by its position. -/
private theorem getElem?_gateStop (hstop : ∀ s, stopIndex = some s → s < steps.length) (m : Nat) :
    (gateStop steps values branchId stopIndex stopIsOpen).1[steps.length + m]? =
      (values[m]?).map (chainStep steps.length values.length (steps.length + m)
        (chainPrevious steps.length none m) branchId) := by
  have hchain : (appendChain steps values none branchId).1[steps.length + m]? =
      (values[m]?).map (chainStep steps.length values.length (steps.length + m)
        (chainPrevious steps.length none m) branchId) := by
    unfold appendChain
    rw [List.getElem?_append_right (by omega), Nat.add_sub_cancel_left, getElem?_chainFrom]
  unfold gateStop
  dsimp only
  split
  · rename_i tail stop _
    dsimp only
    split
    · have hne : stop ≠ steps.length + m := by
        have hlt := hstop stop rfl
        omega
      rw [addDependency, List.getElem?_modify, hchain]
      simp [hne]
    · exact hchain
  · exact hchain

/-- An old step of a plan before whose stop something was put. -/
private theorem mem_stepDeps_gateStop_old (hi : i < steps.length) :
    j ∈ stepDeps (gateStop steps values branchId stopIndex stopIsOpen).1 i ↔
      j ∈ stepDeps steps i ∨
        (values ≠ [] ∧ stopIsOpen = true ∧ stopIndex = some i ∧ j = steps.length + values.length - 1) := by
  have hold : stepDeps (appendChain steps values none branchId).1 i = stepDeps steps i := stepDeps_append_left hi
  have hlt : i < (appendChain steps values none branchId).1.length := by
    rw [length_appendChain]
    omega
  by_cases hvalues : values = []
  · simp [gateStop, appendChain, hvalues, chainFrom]
  · have hempty : values.isEmpty = false := List.isEmpty_eq_false_iff.mpr hvalues
    have htail : (appendChain steps values none branchId).2 = some (steps.length + values.length - 1) := by
      simp [appendChain, hempty]
    unfold gateStop
    dsimp only
    rw [htail]
    cases stopIndex with
    | none => simp [hold]
    | some stop =>
      dsimp only
      cases stopIsOpen with
      | false => simp [hold]
      | true =>
        rw [if_pos rfl, mem_stepDeps_addDependency, hold]
        simp [hlt, hvalues, eq_comm]

private theorem getElem?_attach_ahead (hstop : ∀ s, stopIndex = some s → s < steps.length)
    (hm : m < (branch.ahead stopIsOpen predecessor).length) :
    (attachCandidateBranch steps branch branchId stopIndex stopIsOpen predecessor).1[steps.length + m]? =
      ((branch.ahead stopIsOpen predecessor)[m]?).map
        (chainStep steps.length (branch.ahead stopIsOpen predecessor).length (steps.length + m)
          (chainPrevious steps.length none m) branchId) := by
  cases predecessor with
  | some p => simp [CandidateBranch.ahead] at hm
  | none =>
    simp only [attachCandidateBranch, appendChain, CandidateBranch.ahead, Option.isSome_none, Bool.false_eq_true,
      if_false] at hm ⊢
    rw [List.getElem?_append_left (by rw [length_gateStop]; omega), getElem?_gateStop hstop]

/-- Another step of the branch. -/
private theorem getElem?_attach_rest (m : Nat) :
    (attachCandidateBranch steps branch branchId stopIndex stopIsOpen predecessor).1[
        steps.length + (branch.ahead stopIsOpen predecessor).length + m]? =
      ((branch.rest stopIsOpen predecessor)[m]?).map
        (chainStep (steps.length + (branch.ahead stopIsOpen predecessor).length)
          (branch.rest stopIsOpen predecessor).length
          (steps.length + (branch.ahead stopIsOpen predecessor).length + m)
          (chainPrevious (steps.length + (branch.ahead stopIsOpen predecessor).length)
            (branch.point steps.length stopIndex stopIsOpen predecessor) m) branchId) := by
  cases predecessor with
  | some p =>
    simp only [attachCandidateBranch, appendChain, CandidateBranch.ahead, CandidateBranch.rest,
      Option.isSome_some, if_true, List.length_nil, Nat.add_zero]
    rw [List.getElem?_append_right (by omega), Nat.add_sub_cancel_left, getElem?_chainFrom]
    rfl
  | none =>
    simp only [attachCandidateBranch, appendChain, CandidateBranch.ahead, CandidateBranch.rest, Option.isSome_none,
      Bool.false_eq_true, if_false]
    rw [List.getElem?_append_right (by rw [length_gateStop]; omega), length_gateStop, Nat.add_sub_cancel_left,
      getElem?_chainFrom, gateStop_tail]
    rfl

private theorem mem_stepDeps_attach_old (hi : i < steps.length) :
    j ∈ stepDeps (attachCandidateBranch steps branch branchId stopIndex stopIsOpen predecessor).1 i ↔
      j ∈ stepDeps steps i ∨
        (branch.ahead stopIsOpen predecessor ≠ [] ∧ stopIsOpen = true ∧ stopIndex = some i ∧
          j = steps.length + (branch.ahead stopIsOpen predecessor).length - 1) := by
  cases predecessor with
  | some p =>
    simp only [attachCandidateBranch, appendChain, CandidateBranch.ahead, Option.isSome_some, if_true]
    rw [stepDeps_append_left hi]
    simp
  | none =>
    simp only [attachCandidateBranch, appendChain, CandidateBranch.ahead, Option.isSome_none,
      Bool.false_eq_true, if_false]
    rw [stepDeps_append_left (by rw [length_gateStop]; omega), mem_stepDeps_gateStop_old hi]

end Attached

/-! ### The rewritten plan -/

section Rewritten

variable {existing : WorkflowRequest} {branch : CandidateBranch} {predecessor : Option Nat} {replaced : List Nat}
  {source step : WorkflowStepSpec} {i j k m : Nat}

/-- Whether the shared STOP_WORKLOADS of a plan has not begun. -/
def stopOpen (existing : WorkflowRequest) : Bool := (stopState existing (normalizedSteps existing)).2

/-- The steps a rewrite puts before the shared STOP_WORKLOADS. -/
def rewriteAhead (existing : WorkflowRequest) (branch : CandidateBranch) (predecessor : Option Nat) :
    List WorkflowStepSpec :=
  branch.ahead (stopOpen existing) predecessor

def rewriteRest (existing : WorkflowRequest) (branch : CandidateBranch) (predecessor : Option Nat) :
    List WorkflowStepSpec :=
  branch.rest (stopOpen existing) predecessor

private theorem stopState_lt {s : Nat} (h : (stopState existing (normalizedSteps existing)).1 = some s) :
    s < existing.officialSteps.length := by
  rw [← length_normalizedSteps]
  exact (firstWith_eq_some h).1

def narrowedPlan (existing : WorkflowRequest) (branch : CandidateBranch) (replaced : List Nat) :
    List WorkflowStepSpec :=
  (terminalSuperseded existing (normalizedSteps existing) branch.terminal replaced).1

/-- The plan with the branch appended, before its job restarts are rewired. -/
def attachedPlan (existing : WorkflowRequest) (branch : CandidateBranch) (predecessor : Option Nat)
    (replaced : List Nat) : List WorkflowStepSpec :=
  (attachCandidateBranch (narrowedPlan existing branch replaced) branch (freshBranchId existing branch)
    (stopState existing (normalizedSteps existing)).1 (stopOpen existing) predecessor).1

theorem narrowedPlan_shape (existing : WorkflowRequest) (branch : CandidateBranch) (replaced : List Nat) :
    planShape (narrowedPlan existing branch replaced) = planShape (normalizedSteps existing) :=
  terminalSuperseded_shape _ _ _ _

theorem length_narrowedPlan (existing : WorkflowRequest) (branch : CandidateBranch) (replaced : List Nat) :
    (narrowedPlan existing branch replaced).length = existing.officialSteps.length := by
  rw [length_eq_of_shape (narrowedPlan_shape existing branch replaced), length_normalizedSteps]

/-- Rewiring the job restarts is the last step of a rewrite that appends something. -/
theorem branchRewrite_attached (existing : WorkflowRequest) (branch : CandidateBranch) (predecessor : Option Nat)
    (replaced : List Nat) :
    (branchRewrite existing branch predecessor replaced).1 = attachedPlan existing branch predecessor replaced ∨
      ∃ tail retired, (branchRewrite existing branch predecessor replaced).1 =
        reconnectJoin (attachedPlan existing branch predecessor replaced) tail retired := by
  unfold branchRewrite
  dsimp only
  split
  · exact .inl rfl
  · exact .inr ⟨_, _, rfl⟩

private theorem getElem?_reconnectJoin {steps : List WorkflowStepSpec} {tail : Option Nat} {superseded : List Nat}
    (hop : stepOperation? steps i ≠ some .restartWorkload) :
    (reconnectJoin steps tail superseded)[i]? = steps[i]? := by
  unfold stepOperation? at hop
  rw [reconnectJoin, List.getElem?_map]
  cases hstep : steps[i]? with
  | none => rfl
  | some step =>
    have hne : step.operation ≠ .restartWorkload := by
      intro heq
      exact hop (by simp [hstep, heq])
    simp [hne]

/-- Rewiring the job restarts does not touch another step. -/
theorem getElem?_branchRewrite (hop : stepOperation? (attachedPlan existing branch predecessor replaced) i ≠
    some .restartWorkload) : (branchRewrite existing branch predecessor replaced).1[i]? =
      (attachedPlan existing branch predecessor replaced)[i]? := by
  rcases branchRewrite_attached existing branch predecessor replaced with he | ⟨tail, retired, he⟩
  · rw [he]
  · rw [he]
    exact getElem?_reconnectJoin hop

theorem getElem?_branchRewrite_new (hbranch : NoRestart branch.steps) (hi : existing.officialSteps.length ≤ i) :
    (branchRewrite existing branch predecessor replaced).1[i]? =
      (attachedPlan existing branch predecessor replaced)[i]? := by
  refine getElem?_branchRewrite ?_
  unfold attachedPlan
  rw [Ne, stepOperation?_attach hbranch]
  rw [← length_narrowedPlan existing branch replaced] at hi
  simp [stepOperation?, List.getElem?_eq_none hi]

/-- A step the rewrite puts before the stop, by its position. -/
theorem getElem?_rewriteAhead (hbranch : NoRestart branch.steps)
    (hm : m < (rewriteAhead existing branch predecessor).length) :
    (branchRewrite existing branch predecessor replaced).1[existing.officialSteps.length + m]? =
      ((rewriteAhead existing branch predecessor)[m]?).map
        (chainStep existing.officialSteps.length (rewriteAhead existing branch predecessor).length
          (existing.officialSteps.length + m) (chainPrevious existing.officialSteps.length none m)
          (freshBranchId existing branch)) := by
  have hlen := length_narrowedPlan existing branch replaced
  rw [getElem?_branchRewrite_new hbranch (by omega), attachedPlan, ← hlen]
  exact getElem?_attach_ahead (fun s hs => by rw [hlen]; exact stopState_lt hs) hm

/-- What the other steps of an appended branch are chained behind. -/
def restPoint (existing : WorkflowRequest) (branch : CandidateBranch) (predecessor : Option Nat) : Option Nat :=
  branch.point existing.officialSteps.length (stopState existing (normalizedSteps existing)).1 (stopOpen existing)
    predecessor

/-- Another step the rewrite appends, by its position. -/
theorem getElem?_rewriteRest (hbranch : NoRestart branch.steps) (m : Nat) :
    (branchRewrite existing branch predecessor replaced).1[
        existing.officialSteps.length + (rewriteAhead existing branch predecessor).length + m]? =
      ((rewriteRest existing branch predecessor)[m]?).map
        (chainStep (existing.officialSteps.length + (rewriteAhead existing branch predecessor).length)
          (rewriteRest existing branch predecessor).length
          (existing.officialSteps.length + (rewriteAhead existing branch predecessor).length + m)
          (chainPrevious (existing.officialSteps.length + (rewriteAhead existing branch predecessor).length)
            (restPoint existing branch predecessor) m) (freshBranchId existing branch)) := by
  have hlen := length_narrowedPlan existing branch replaced
  rw [getElem?_branchRewrite_new hbranch (by omega), attachedPlan, restPoint, ← hlen]
  exact getElem?_attach_rest m

/-- An appended step is one of the branch, chained. -/
theorem exists_of_new (hbranch : NoRestart branch.steps) (hi : existing.officialSteps.length ≤ i)
    (hstep : (branchRewrite existing branch predecessor replaced).1[i]? = some step) :
    ∃ source, (source ∈ rewriteAhead existing branch predecessor ∨ source ∈ rewriteRest existing branch predecessor) ∧
      ∃ base count previous,
        step = chainStep base count i previous (freshBranchId existing branch) source := by
  obtain ⟨k, rfl⟩ := Nat.exists_eq_add_of_le hi
  by_cases hk : k < (rewriteAhead existing branch predecessor).length
  · rw [getElem?_rewriteAhead hbranch hk] at hstep
    obtain ⟨source, hsource, rfl⟩ := Option.map_eq_some_iff.mp hstep
    exact ⟨source, .inl (List.mem_of_getElem? hsource), _, _, _, rfl⟩
  · obtain ⟨m, rfl⟩ := Nat.exists_eq_add_of_le (not_lt.mp hk)
    rw [← Nat.add_assoc] at hstep ⊢
    rw [getElem?_rewriteRest hbranch] at hstep
    obtain ⟨source, hsource, rfl⟩ := Option.map_eq_some_iff.mp hstep
    exact ⟨source, .inr (List.mem_of_getElem? hsource), _, _, _, rfl⟩

/-- An old step that is no job restart waits for what it waited for, and an open STOP_WORKLOADS for what is put before
it. -/
private theorem mem_stepDeps_old (hi : Attachable (normalizedSteps existing) i) (hbranch : NoRestart branch.steps) :
    j ∈ stepDeps (branchRewrite existing branch predecessor replaced).1 i ↔
      j ∈ stepDeps (normalizedSteps existing) i ∨
        (rewriteAhead existing branch predecessor ≠ [] ∧ stopOpen existing = true ∧
          (stopState existing (normalizedSteps existing)).1 = some i ∧
          j = existing.officialSteps.length + (rewriteAhead existing branch predecessor).length - 1) := by
  have hshape := narrowedPlan_shape existing branch replaced
  have hlen := length_narrowedPlan existing branch replaced
  have hop : stepOperation? (attachedPlan existing branch predecessor replaced) i ≠ some .restartWorkload := by
    unfold attachedPlan
    rw [Ne, stepOperation?_attach hbranch, stepOperation?_eq_of_shape hshape]
    exact hi.2
  have hlt : i < (narrowedPlan existing branch replaced).length := by
    rw [length_eq_of_shape hshape]
    exact hi.1
  have hdeps : stepDeps (branchRewrite existing branch predecessor replaced).1 i =
      stepDeps (attachedPlan existing branch predecessor replaced) i := by
    unfold stepDeps
    rw [getElem?_branchRewrite hop]
  rw [hdeps, attachedPlan, mem_stepDeps_attach_old hlt, stepDeps_eq_of_shape hshape, hlen]
  rfl

/-! ### What an appended step waits for -/

private theorem mem_stepDeps_ahead (hbranch : NoRestart branch.steps)
    (hm : m < (rewriteAhead existing branch predecessor).length) :
    j ∈ stepDeps (branchRewrite existing branch predecessor replaced).1 (existing.officialSteps.length + m) ↔
      ∃ step, (rewriteAhead existing branch predecessor)[m]? = some step ∧
        ((∃ d ∈ step.dependsOnStepIndexes, d < (rewriteAhead existing branch predecessor).length ∧
            existing.officialSteps.length + d < existing.officialSteps.length + m ∧
            existing.officialSteps.length + d = j) ∨
          chainPrevious existing.officialSteps.length none m = some j) := by
  rw [stepDeps, getElem?_rewriteAhead hbranch hm]
  cases (rewriteAhead existing branch predecessor)[m]? with
  | none => simp
  | some step => simp [chainStep, and_assoc]

private theorem mem_stepDeps_rest (hbranch : NoRestart branch.steps) :
    j ∈ stepDeps (branchRewrite existing branch predecessor replaced).1
        (existing.officialSteps.length + (rewriteAhead existing branch predecessor).length + m) ↔
      ∃ step, (rewriteRest existing branch predecessor)[m]? = some step ∧
        ((∃ d ∈ step.dependsOnStepIndexes, d < (rewriteRest existing branch predecessor).length ∧
            existing.officialSteps.length + (rewriteAhead existing branch predecessor).length + d <
              existing.officialSteps.length + (rewriteAhead existing branch predecessor).length + m ∧
            existing.officialSteps.length + (rewriteAhead existing branch predecessor).length + d = j) ∨
          chainPrevious (existing.officialSteps.length + (rewriteAhead existing branch predecessor).length)
            (restPoint existing branch predecessor) m = some j) := by
  rw [stepDeps, getElem?_rewriteRest hbranch]
  cases (rewriteRest existing branch predecessor)[m]? with
  | none => simp
  | some step => simp [chainStep, and_assoc]

private theorem edge_of_ahead (hbranch : NoRestart branch.steps)
    (hm : m < (rewriteAhead existing branch predecessor).length)
    (h : j ∈ stepDeps (branchRewrite existing branch predecessor replaced).1 (existing.officialSteps.length + m)) :
    existing.officialSteps.length ≤ j ∧ j < existing.officialSteps.length + m := by
  obtain ⟨step, -, ⟨d, -, -, hlt, rfl⟩ | hprev⟩ := (mem_stepDeps_ahead hbranch hm).mp h
  · omega
  · cases m with
    | zero => cases hprev
    | succ m =>
      simp only [chainPrevious, Option.some.injEq] at hprev
      omega

private theorem edge_of_rest (hbranch : NoRestart branch.steps)
    (h : j ∈ stepDeps (branchRewrite existing branch predecessor replaced).1
      (existing.officialSteps.length + (rewriteAhead existing branch predecessor).length + m)) :
    m < (rewriteRest existing branch predecessor).length ∧
      ((existing.officialSteps.length + (rewriteAhead existing branch predecessor).length ≤ j ∧
          j < existing.officialSteps.length + (rewriteAhead existing branch predecessor).length + m) ∨
        (m = 0 ∧ restPoint existing branch predecessor = some j)) := by
  obtain ⟨step, hstep, hedge⟩ := (mem_stepDeps_rest hbranch).mp h
  refine ⟨(List.getElem?_eq_some_iff.mp hstep).1, ?_⟩
  rcases hedge with ⟨d, -, -, hlt, rfl⟩ | hprev
  · omega
  · cases m with
    | zero => exact .inr ⟨rfl, hprev⟩
    | succ m =>
      simp only [chainPrevious, Option.some.injEq] at hprev
      omega

private theorem reaches_ahead (hbranch : NoRestart branch.steps) {m' : Nat}
    (hm : m < (rewriteAhead existing branch predecessor).length) (hle : m' ≤ m) :
    Reaches (stepDeps (branchRewrite existing branch predecessor replaced).1) (existing.officialSteps.length + m)
      (existing.officialSteps.length + m') := by
  refine reaches_of_chain (fun k hk => ?_) hm hle
  exact (mem_stepDeps_ahead hbranch hk).mpr ⟨_, List.getElem?_eq_getElem hk, .inr rfl⟩

private theorem reaches_rest (hbranch : NoRestart branch.steps) {m' : Nat}
    (hm : m < (rewriteRest existing branch predecessor).length) (hle : m' ≤ m) :
    Reaches (stepDeps (branchRewrite existing branch predecessor replaced).1)
      (existing.officialSteps.length + (rewriteAhead existing branch predecessor).length + m)
      (existing.officialSteps.length + (rewriteAhead existing branch predecessor).length + m') := by
  refine reaches_of_chain (fun k hk => ?_) hm hle
  exact (mem_stepDeps_rest hbranch).mpr ⟨_, List.getElem?_eq_getElem hk, .inr rfl⟩

/-- The other appended steps wait for what the branch is chained behind. -/
theorem dependsOn_point (hbranch : NoRestart branch.steps) {p : Nat}
    (hp : restPoint existing branch predecessor = some p)
    (hm : m < (rewriteRest existing branch predecessor).length) :
    DependsOn (stepDeps (branchRewrite existing branch predecessor replaced).1)
      (existing.officialSteps.length + (rewriteAhead existing branch predecessor).length + m) p := by
  have hfirst : p ∈ stepDeps (branchRewrite existing branch predecessor replaced).1
      (existing.officialSteps.length + (rewriteAhead existing branch predecessor).length + 0) :=
    (mem_stepDeps_rest hbranch).mpr ⟨_, List.getElem?_eq_getElem (by omega), .inr hp⟩
  exact Relation.TransGen.tail' (reaches_rest hbranch hm (Nat.zero_le m)) hfirst

/-- Without a stop nothing is put before it, so the branch is chained behind its predecessor or the stop, if at
all. -/
theorem restPoint_eq (existing : WorkflowRequest) (branch : CandidateBranch) (predecessor : Option Nat) :
    restPoint existing branch predecessor = rewritePoint existing predecessor := by
  unfold restPoint CandidateBranch.point rewritePoint
  cases hpoint : attachPoint (stopState existing (normalizedSteps existing)).1 predecessor with
  | some p => rfl
  | none =>
    have hahead : branch.ahead (stopOpen existing) predecessor = [] := by
      cases predecessor with
      | some p => cases hpoint
      | none =>
        have hopen : stopOpen existing = false := by
          by_contra hopen
          have hsome := isSome_of_stopState (show stopOpen existing = true by simpa using hopen)
          rw [show (stopState existing (normalizedSteps existing)).1 = none from hpoint] at hsome
          cases hsome
        simp [CandidateBranch.ahead, CandidateBranch.leading, hopen]
    simp [hahead]

/-- The shared STOP_WORKLOADS of a plan restarts no job. -/
theorem attachable_stop {s : Nat} (h : (stopState existing (normalizedSteps existing)).1 = some s) :
    Attachable (normalizedSteps existing) s := by
  obtain ⟨hlt, hop⟩ := firstWith_eq_some h
  refine ⟨hlt, ?_⟩
  rw [hop]
  decide

/-- Steps are put before the stop only while it has not begun. -/
theorem stopState_of_ahead (h : rewriteAhead existing branch predecessor ≠ []) :
    ∃ stop, stopState existing (normalizedSteps existing) = (some stop, true) := by
  have hopen : (stopState existing (normalizedSteps existing)).2 = true := by
    by_contra hclosed
    refine h ?_
    unfold rewriteAhead CandidateBranch.ahead CandidateBranch.leading stopOpen
    simp [Bool.eq_false_iff.mpr hclosed]
  obtain ⟨stop, hstop⟩ := Option.isSome_iff_exists.mp (isSome_of_stopState hopen)
  exact ⟨stop, Prod.ext hstop hopen⟩

/-- An appended step is put before the stop or stands behind the branch's point. -/
theorem new_cases (hbranch : NoRestart branch.steps) (hge : existing.officialSteps.length ≤ k)
    (hlt : k < (branchRewrite existing branch predecessor replaced).1.length) :
    (∃ m, m < (rewriteAhead existing branch predecessor).length ∧ k = existing.officialSteps.length + m) ∨
      ∃ m, m < (rewriteRest existing branch predecessor).length ∧
        k = existing.officialSteps.length + (rewriteAhead existing branch predecessor).length + m := by
  obtain ⟨m, rfl⟩ := Nat.exists_eq_add_of_le hge
  by_cases hm : m < (rewriteAhead existing branch predecessor).length
  · exact .inl ⟨m, hm, rfl⟩
  · obtain ⟨m', rfl⟩ := Nat.exists_eq_add_of_le (not_lt.mp hm)
    rw [← Nat.add_assoc] at hlt ⊢
    have hsome := List.getElem?_eq_getElem hlt
    rw [getElem?_rewriteRest hbranch] at hsome
    obtain ⟨source, hsource, -⟩ := Option.map_eq_some_iff.mp hsome
    exact .inr ⟨m', (List.getElem?_eq_some_iff.mp hsource).1, rfl⟩

/-! ### Paths of the rewritten plan -/

variable (hplan : PlanOk (normalizedSteps existing)) (hbranch : NoRestart branch.steps)

private theorem PlanOk.attachable_dep {steps : List WorkflowStepSpec} (h : PlanOk steps) (hj : j ∈ stepDeps steps i) :
    Attachable steps j := by
  obtain ⟨rank, hrank⟩ := h.ranked
  exact ⟨(hrank i j hj).1, h.join_last i j hj⟩

include hplan hbranch

/-- Below an old step that is no job restart: what it waited for, and the steps put before an open stop. -/
theorem dependsOn_old_cases (hi : Attachable (normalizedSteps existing) i)
    (h : DependsOn (stepDeps (branchRewrite existing branch predecessor replaced).1) i j) :
    (Attachable (normalizedSteps existing) j ∧ DependsOn (stepDeps (normalizedSteps existing)) i j) ∨
      (existing.officialSteps.length ≤ j ∧
        j < existing.officialSteps.length + (rewriteAhead existing branch predecessor).length) := by
  have hgate : ∀ tail, rewriteAhead existing branch predecessor ≠ [] →
      tail = existing.officialSteps.length + (rewriteAhead existing branch predecessor).length - 1 →
      existing.officialSteps.length ≤ tail ∧
        tail < existing.officialSteps.length + (rewriteAhead existing branch predecessor).length := by
    rintro tail hne rfl
    have hpos := List.length_pos_of_ne_nil hne
    omega
  induction h with
  | single hb =>
    rcases (mem_stepDeps_old hi hbranch).mp hb with hb | ⟨hne, -, -, htail⟩
    · exact .inl ⟨hplan.attachable_dep hb, .single hb⟩
    · exact .inr (hgate _ hne htail)
  | @tail b c _ hc ih =>
    rcases ih with ⟨hb, hpath⟩ | ⟨hge, hlt⟩
    · rcases (mem_stepDeps_old hb hbranch).mp hc with hc | ⟨hne, -, -, htail⟩
      · exact .inl ⟨hplan.attachable_dep hc, hpath.trans (.single hc)⟩
      · exact .inr (hgate _ hne htail)
    · obtain ⟨m, rfl⟩ := Nat.exists_eq_add_of_le hge
      have hedge := edge_of_ahead hbranch (by omega) hc
      omega

/-- A rewrite adds no path between old steps and loses none, job restarts apart. -/
theorem dependsOn_old_iff (hi : Attachable (normalizedSteps existing) i) (hj : j < existing.officialSteps.length) :
    DependsOn (stepDeps (branchRewrite existing branch predecessor replaced).1) i j ↔
      DependsOn (stepDeps (normalizedSteps existing)) i j := by
  constructor
  · intro h
    rcases dependsOn_old_cases hplan hbranch hi h with ⟨-, hpath⟩ | ⟨hge, -⟩
    · exact hpath
    · omega
  · intro h
    induction h using Relation.TransGen.head_induction_on with
    | single hb => exact .single ((mem_stepDeps_old hi hbranch).mpr (.inl hb))
    | head hb _ ih => exact .head ((mem_stepDeps_old hi hbranch).mpr (.inl hb)) (ih (hplan.attachable_dep hb))

omit hplan in
/-- A step put before the stop waits for no old step. -/
theorem dependsOn_ahead (hm : m < (rewriteAhead existing branch predecessor).length)
    (h : DependsOn (stepDeps (branchRewrite existing branch predecessor replaced).1)
      (existing.officialSteps.length + m) j) : existing.officialSteps.length ≤ j := by
  have hrange : existing.officialSteps.length ≤ j ∧ j < existing.officialSteps.length + m := by
    induction h with
    | single hb => exact edge_of_ahead hbranch hm hb
    | tail _ hc ih =>
      obtain ⟨k, rfl⟩ := Nat.exists_eq_add_of_le ih.1
      have hedge := edge_of_ahead hbranch (by omega) hc
      omega
  exact hrange.1

omit hplan in
/-- Another appended step waits for old steps through what the branch is chained behind. -/
theorem dependsOn_rest (h : DependsOn (stepDeps (branchRewrite existing branch predecessor replaced).1)
      (existing.officialSteps.length + (rewriteAhead existing branch predecessor).length + m) j)
    (hj : j < existing.officialSteps.length) :
    ∃ p, rewritePoint existing predecessor = some p ∧
      (j = p ∨ DependsOn (stepDeps (branchRewrite existing branch predecessor replaced).1) p j) := by
  generalize hstart : existing.officialSteps.length + (rewriteAhead existing branch predecessor).length + m = k at h
  induction h using Relation.TransGen.head_induction_on generalizing m with
  | single hb =>
    subst hstart
    obtain ⟨-, hnew | ⟨-, hpoint⟩⟩ := edge_of_rest hbranch hb
    · omega
    · rw [restPoint_eq] at hpoint
      exact ⟨j, hpoint, .inl rfl⟩
  | @head a b hb hrest ih =>
    subst hstart
    obtain ⟨-, ⟨hge, -⟩ | ⟨-, hpoint⟩⟩ := edge_of_rest hbranch hb
    · obtain ⟨m', rfl⟩ := Nat.exists_eq_add_of_le hge
      exact ih rfl
    · rw [restPoint_eq] at hpoint
      exact ⟨b, hpoint, .inr hrest⟩

omit hplan in
/-- An open stop waits for every step put before it. -/
theorem dependsOn_gate {s : Nat} (hstop : stopState existing (normalizedSteps existing) = (some s, true))
    (hm : m < (rewriteAhead existing branch predecessor).length) :
    DependsOn (stepDeps (branchRewrite existing branch predecessor replaced).1) s
      (existing.officialSteps.length + m) := by
  have hfirst : (stopState existing (normalizedSteps existing)).1 = some s := congrArg Prod.fst hstop
  have hopen : stopOpen existing = true := congrArg Prod.snd hstop
  have hne : rewriteAhead existing branch predecessor ≠ [] := by
    intro hnil
    rw [hnil] at hm
    cases hm
  have hgate : existing.officialSteps.length + ((rewriteAhead existing branch predecessor).length - 1) ∈
      stepDeps (branchRewrite existing branch predecessor replaced).1 s := by
    refine (mem_stepDeps_old (attachable_stop hfirst) hbranch).mpr (.inr ⟨hne, hopen, hfirst, ?_⟩)
    omega
  exact Relation.TransGen.head' hgate (reaches_ahead hbranch (by omega) (by omega))

omit hplan in
/-- Every appended step waits for all appended before it. -/
theorem dependsOn_new (hge : existing.officialSteps.length ≤ j) (hlt : j < k)
    (hk : k < (branchRewrite existing branch predecessor replaced).1.length) :
    DependsOn (stepDeps (branchRewrite existing branch predecessor replaced).1) k j := by
  have hstrict : Reaches (stepDeps (branchRewrite existing branch predecessor replaced).1) k j →
      DependsOn (stepDeps (branchRewrite existing branch predecessor replaced).1) k j := by
    intro hreach
    rcases Relation.reflTransGen_iff_eq_or_transGen.mp hreach with he | hpath
    · omega
    · exact hpath
  rcases new_cases hbranch hge (hlt.trans hk) with ⟨m', hm', rfl⟩ | ⟨m', hm', rfl⟩
  · rcases new_cases hbranch (hge.trans hlt.le) hk with ⟨m, hm, rfl⟩ | ⟨m, hm, rfl⟩
    · exact hstrict (reaches_ahead hbranch hm (by omega))
    · have hne : rewriteAhead existing branch predecessor ≠ [] := List.ne_nil_of_length_pos (by omega)
      obtain ⟨stop, hstop⟩ := stopState_of_ahead hne
      have hpred : predecessor = none := by
        cases predecessor with
        | none => rfl
        | some p => simp [rewriteAhead, CandidateBranch.ahead] at hne
      have hpoint : restPoint existing branch predecessor = some stop := by
        rw [restPoint_eq, rewritePoint, hpred, hstop]
        rfl
      exact (dependsOn_point hbranch hpoint hm).trans (dependsOn_gate hbranch hstop hm')
  · rcases new_cases hbranch (hge.trans hlt.le) hk with ⟨m, hm, rfl⟩ | ⟨m, hm, rfl⟩
    · omega
    · exact hstrict (reaches_rest hbranch hm (by omega))

end Rewritten

end GpuFaultRecovery
