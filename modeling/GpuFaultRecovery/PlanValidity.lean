import GpuFaultRecovery.DagShape
import GpuFaultRecovery.Run

/-!
# Rewrites keep a plan executable

A new branch gets indexes after the join although the join waits for it, so a rank of the plan is rebuilt at every
rewrite: steps before an open STOP_WORKLOADS go below everything, the rest of the branch above, and the join last. The
join may be moved because nothing waits for it.
-/

namespace GpuFaultRecovery

open DependencyGraph

/-- A plan without cycles in which nothing waits for a RESTART_WORKLOAD. -/
structure PlanOk (steps : List WorkflowStepSpec) : Prop where
  ranked : ∃ rank, Ranked (stepDeps steps) steps.length rank
  join_last : ∀ i, ∀ j ∈ stepDeps steps i, stepOperation? steps j ≠ some .restartWorkload

section PlanOk

variable {steps values : List WorkflowStepSpec} {i j : Nat}

private theorem PlanOk.of_shape {steps' : List WorkflowStepSpec} (h : PlanOk steps)
    (hshape : planShape steps' = planShape steps) :
    PlanOk steps' := by
  have hdeps : stepDeps steps' = stepDeps steps := funext (stepDeps_eq_of_shape hshape)
  refine ⟨?_, fun i j hj => ?_⟩
  · rw [hdeps, length_eq_of_shape hshape]
    exact h.ranked
  · rw [stepOperation?_eq_of_shape hshape]
    rw [hdeps] at hj
    exact h.join_last i j hj

private theorem PlanOk.validateDag (h : PlanOk steps) : validateDag steps = .ok () := by
  obtain ⟨rank, hrank⟩ := h.ranked
  unfold GpuFaultRecovery.validateDag
  have hbad : ((List.range steps.length).find? fun index =>
      (stepDeps steps index).contains index ||
        (stepDeps steps index).any fun dependency => decide (steps.length ≤ dependency)) = none := by
    rw [List.find?_eq_none]
    intro index _
    simp only [Bool.or_eq_true, List.contains_iff_mem, List.any_eq_true, decide_eq_true_eq, not_or,
      not_exists, not_and, not_le]
    refine ⟨fun hself => ?_, fun dependency hdep => (hrank index dependency hdep).1⟩
    exact lt_irrefl _ (hrank index index hself).2
  rw [hbad]
  dsimp only
  rw [if_pos (hrank.resolvable steps.length [] (by simp))]

/-- An edge of a chain appended to `n` steps: to an earlier step of the chain, or from its first step to the
dependency. -/
private theorem edge_of_chain {base count : Nat} {branchId : String} {previous : Option Nat} {k : Nat}
    (h : j ∈ stepDeps (chainFrom base count branchId base previous values) k) :
    k < values.length ∧ ((base ≤ j ∧ j < base + k) ∨ (k = 0 ∧ previous = some j)) := by
  obtain ⟨step, hstep, hedge⟩ := mem_stepDeps_chainFrom.mp h
  obtain ⟨hk, -⟩ := List.getElem?_eq_some_iff.mp hstep
  refine ⟨hk, ?_⟩
  rcases hedge with ⟨d, -, -, hlt, rfl⟩ | hprev
  · exact .inl ⟨Nat.le_add_right _ _, hlt⟩
  · cases k with
    | zero => exact .inr ⟨rfl, hprev⟩
    | succ k =>
      simp only [chainPrevious, Option.some.injEq] at hprev
      exact .inl (by omega)

def NoRestart (values : List WorkflowStepSpec) : Prop := ∀ step ∈ values, step.operation ≠ .restartWorkload

theorem NoRestart.stepOperation?_ne (h : NoRestart values) (k : Nat) :
    stepOperation? values k ≠ some .restartWorkload := by
  unfold stepOperation?
  intro hop
  obtain ⟨step, hstep, hop⟩ := Option.map_eq_some_iff.mp hop
  exact h step (List.mem_of_getElem? hstep) hop

/-- The edges of a plan with a chain appended, by the index they start from. -/
theorem edge_of_append {branchId : String} {dependency : Option Nat}
    (h : j ∈ stepDeps (appendChain steps values dependency branchId).1 i) :
    (i < steps.length ∧ j ∈ stepDeps steps i) ∨
      (steps.length ≤ i ∧ i < steps.length + values.length ∧
        ((steps.length ≤ j ∧ j < i) ∨ (i = steps.length ∧ dependency = some j))) := by
  unfold appendChain at h
  by_cases hi : i < steps.length
  · rw [stepDeps_append_left hi] at h
    exact .inl ⟨hi, h⟩
  · rw [not_lt] at hi
    rw [stepDeps_append_right hi] at h
    obtain ⟨hk, hedge⟩ := edge_of_chain h
    refine .inr ⟨hi, by omega, ?_⟩
    rcases hedge with ⟨hge, hlt⟩ | ⟨hzero, hdep⟩
    · exact .inl ⟨hge, by omega⟩
    · exact .inr ⟨by omega, hdep⟩

theorem length_appendChain (branchId : String) (dependency : Option Nat) :
    (appendChain steps values dependency branchId).1.length = steps.length + values.length := by
  simp [appendChain, length_chainFrom]

theorem stepOperation?_appendChain_left {branchId : String} {dependency : Option Nat} (h : i < steps.length) :
    stepOperation? (appendChain steps values dependency branchId).1 i = stepOperation? steps i :=
  stepOperation?_append_left h

theorem stepOperation?_appendChain_right {branchId : String} {dependency : Option Nat} (h : steps.length ≤ i) :
    stepOperation? (appendChain steps values dependency branchId).1 i = stepOperation? values (i - steps.length) := by
  unfold appendChain
  rw [stepOperation?_append_right h, stepOperation?_chainFrom]

/-- A chain behind a step of the plan. -/
private theorem PlanOk.appendChain (h : PlanOk steps) (hvalues : NoRestart values) {branchId : String}
    {dependency : Option Nat}
    (hdep : ∀ d, dependency = some d → d < steps.length ∧ stepOperation? steps d ≠ some .restartWorkload) :
    PlanOk (appendChain steps values dependency branchId).1 := by
  obtain ⟨rank, hrank⟩ := h.ranked
  refine ⟨⟨fun i => if i < steps.length then rank i else rankBound rank steps.length + 1 + i, ?_⟩, ?_⟩
  · intro i j hj
    rw [length_appendChain]
    dsimp only
    rcases edge_of_append hj with ⟨hi, hj⟩ | ⟨hi, hlt, ⟨hge, hji⟩ | ⟨-, hd⟩⟩
    · have hrank' := hrank i j hj
      rw [if_pos hi, if_pos hrank'.1]
      exact ⟨by omega, hrank'.2⟩
    · rw [if_neg (by omega), if_neg (by omega)]
      exact ⟨by omega, by omega⟩
    · have hj := (hdep j hd).1
      have hbound := rank_le_rankBound rank hj
      rw [if_pos hj, if_neg (by omega)]
      exact ⟨by omega, by omega⟩
  · intro i j hj
    rcases edge_of_append hj with ⟨hi, hj⟩ | ⟨hi, hlt, ⟨hge, hji⟩ | ⟨-, hd⟩⟩
    · rw [stepOperation?_appendChain_left (hrank i j hj).1]
      exact h.join_last i j hj
    · rw [stepOperation?_appendChain_right hge]
      exact hvalues.stepOperation?_ne _
    · rw [stepOperation?_appendChain_left (hdep j hd).1]
      exact (hdep j hd).2

/-- The tail of an appended chain is its last step, or the dependency if the chain is empty. -/
theorem appendChain_tail {branchId : String} {dependency : Option Nat} {tail : Nat}
    (h : (GpuFaultRecovery.appendChain steps values dependency branchId).2 = some tail) :
    (values = [] ∧ dependency = some tail) ∨ (values ≠ [] ∧ tail = steps.length + values.length - 1) := by
  unfold GpuFaultRecovery.appendChain at h
  dsimp only at h
  split at h
  · rename_i hempty
    exact .inl ⟨List.isEmpty_iff.mp hempty, h⟩
  · rename_i hempty
    exact .inr ⟨by simpa using hempty, (Option.some.inj h).symm⟩

def Attachable (steps : List WorkflowStepSpec) (index : Nat) : Prop :=
  index < steps.length ∧ stepOperation? steps index ≠ some .restartWorkload

private theorem Attachable.appendChain (h : Attachable steps i) (branchId : String) (dependency : Option Nat) :
    Attachable (appendChain steps values dependency branchId).1 i := by
  refine ⟨?_, ?_⟩
  · rw [length_appendChain]
    exact Nat.lt_add_right _ h.1
  · rw [stepOperation?_appendChain_left h.1]
    exact h.2

private theorem attachable_appendChain_tail (hvalues : NoRestart values) {branchId : String} {dependency : Option Nat}
    (hdep : ∀ d, dependency = some d → Attachable steps d) {tail : Nat}
    (h : (GpuFaultRecovery.appendChain steps values dependency branchId).2 = some tail) :
    Attachable (GpuFaultRecovery.appendChain steps values dependency branchId).1 tail := by
  rcases appendChain_tail h with ⟨-, hd⟩ | ⟨hne, rfl⟩
  · exact (hdep tail hd).appendChain branchId dependency
  · have hpos : 0 < values.length := List.length_pos_of_ne_nil hne
    refine ⟨by rw [length_appendChain]; omega, ?_⟩
    rw [stepOperation?_appendChain_right (by omega)]
    exact hvalues.stepOperation?_ne _

/-! ### The open STOP_WORKLOADS and the join -/

theorem mem_stepDeps_addDependency {index dependency : Nat} :
    j ∈ stepDeps (addDependency steps index dependency) i ↔
      j ∈ stepDeps steps i ∨ (i < steps.length ∧ index = i ∧ j = dependency) := by
  simp only [stepDeps, addDependency, List.getElem?_modify]
  by_cases hi : i < steps.length
  · rw [List.getElem?_eq_getElem hi]
    by_cases he : index = i
    · simp [he, hi]
    · simp [he]
  · rw [List.getElem?_eq_none (not_lt.mp hi)]
    simp [hi]

theorem length_addDependency (index dependency : Nat) :
    (addDependency steps index dependency).length = steps.length := by
  simp [addDependency]

theorem stepOperation?_addDependency (index dependency i : Nat) :
    stepOperation? (addDependency steps index dependency) i = stepOperation? steps i := by
  simp only [stepOperation?, addDependency, List.getElem?_modify]
  by_cases he : index = i
  · cases steps[i]? <;> simp [he]
  · simp [he]

/-- Steps that run before an open STOP_WORKLOADS go below the whole plan. -/
private theorem PlanOk.gate (h : PlanOk steps) (hvalues : NoRestart values) (hne : values ≠ []) {branchId : String}
    {stop : Nat} (hstop : stop < steps.length) :
    PlanOk (addDependency (GpuFaultRecovery.appendChain steps values none branchId).1 stop
      (steps.length + values.length - 1)) := by
  obtain ⟨rank, hrank⟩ := h.ranked
  have hpos : 0 < values.length := List.length_pos_of_ne_nil hne
  refine ⟨⟨fun i => if i < steps.length then rank i + values.length else i - steps.length, ?_⟩, ?_⟩
  · intro i j hj
    rw [length_addDependency, length_appendChain]
    dsimp only
    rcases mem_stepDeps_addDependency.mp hj with hj | ⟨-, rfl, rfl⟩
    · rcases edge_of_append hj with ⟨hi, hj⟩ | ⟨hi, hlt, ⟨hge, hji⟩ | ⟨-, hd⟩⟩
      · have hrank' := hrank i j hj
        rw [if_pos hi, if_pos hrank'.1]
        exact ⟨by omega, by omega⟩
      · rw [if_neg (by omega), if_neg (by omega)]
        exact ⟨by omega, by omega⟩
      · cases hd
    · rw [if_pos hstop, if_neg (by omega)]
      exact ⟨by omega, by omega⟩
  · intro i j hj
    rw [stepOperation?_addDependency]
    rcases mem_stepDeps_addDependency.mp hj with hj | ⟨-, -, rfl⟩
    · rcases edge_of_append hj with ⟨hi, hj⟩ | ⟨hi, hlt, ⟨hge, hji⟩ | ⟨-, hd⟩⟩
      · rw [stepOperation?_appendChain_left (hrank i j hj).1]
        exact h.join_last i j hj
      · rw [stepOperation?_appendChain_right hge]
        exact hvalues.stepOperation?_ne _
      · cases hd
    · rw [stepOperation?_appendChain_right (by omega)]
      exact hvalues.stepOperation?_ne _

theorem length_reconnectJoin (tail : Option Nat) (superseded : List Nat) :
    (reconnectJoin steps tail superseded).length = steps.length := by
  simp [reconnectJoin]

theorem stepOperation?_reconnectJoin (tail : Option Nat) (superseded : List Nat) (i : Nat) :
    stepOperation? (reconnectJoin steps tail superseded) i = stepOperation? steps i := by
  simp only [stepOperation?, reconnectJoin, List.getElem?_map]
  cases steps[i]? with
  | none => rfl
  | some step =>
    simp only [Option.map_some]
    split <;> rfl

/-- Only a RESTART_WORKLOAD is rewired. -/
theorem mem_stepDeps_reconnectJoin {tail : Option Nat} {superseded : List Nat} :
    j ∈ stepDeps (reconnectJoin steps tail superseded) i ↔
      (stepOperation? steps i ≠ some .restartWorkload ∧ j ∈ stepDeps steps i) ∨
      (stepOperation? steps i = some .restartWorkload ∧
        ((j ∈ stepDeps steps i ∧ j ∉ superseded) ∨ tail = some j)) := by
  simp only [stepDeps, stepOperation?, reconnectJoin, List.getElem?_map]
  cases steps[i]? with
  | none => simp
  | some step =>
    by_cases hop : step.operation = .restartWorkload
    · simp [hop]
    · simp [hop]

private theorem PlanOk.reconnectJoin (h : PlanOk steps) {tail : Option Nat} {superseded : List Nat}
    (htail : ∀ t, tail = some t → Attachable steps t) : PlanOk (reconnectJoin steps tail superseded) := by
  obtain ⟨rank, hrank⟩ := h.ranked
  -- the join goes last; no edge ends in it, so only its own rank changes
  have hedge : ∀ i j, j ∈ stepDeps (GpuFaultRecovery.reconnectJoin steps tail superseded) i →
      Attachable steps j ∧ (stepOperation? steps i ≠ some .restartWorkload → j ∈ stepDeps steps i) := by
    intro i j hj
    rcases mem_stepDeps_reconnectJoin.mp hj with ⟨-, hj⟩ | ⟨hop, ⟨hj, -⟩ | ht⟩
    · exact ⟨⟨(hrank i j hj).1, h.join_last i j hj⟩, fun _ => hj⟩
    · exact ⟨⟨(hrank i j hj).1, h.join_last i j hj⟩, fun _ => hj⟩
    · exact ⟨htail j ht, fun hne => absurd hop hne⟩
  refine ⟨⟨fun i => if stepOperation? steps i = some .restartWorkload then rankBound rank steps.length + 1
    else rank i, ?_⟩, ?_⟩
  · intro i j hj
    obtain ⟨hattach, hold⟩ := hedge i j hj
    have hbound := rank_le_rankBound rank hattach.1
    rw [length_reconnectJoin]
    dsimp only
    rw [if_neg hattach.2]
    refine ⟨hattach.1, ?_⟩
    by_cases hop : stepOperation? steps i = some .restartWorkload
    · rw [if_pos hop]
      omega
    · rw [if_neg hop]
      exact (hrank i j (hold hop)).2
  · intro i j hj
    rw [stepOperation?_reconnectJoin]
    exact (hedge i j hj).1.2

/-! ### One rewrite -/

variable {branch : CandidateBranch} {branchId : String} {stopIndex predecessor : Option Nat} {stopIsOpen : Bool}

theorem afterStopStep_operation (step : WorkflowStepSpec) : (afterStopStep step).operation = step.operation := by
  unfold afterStopStep
  split <;> rfl

theorem NoRestart.leading (h : NoRestart branch.steps) (stopIsOpen : Bool) :
    NoRestart (branch.leading stopIsOpen) := by
  unfold CandidateBranch.leading
  split
  · intro step hstep
    obtain ⟨entry, hentry, rfl⟩ := List.mem_map.mp hstep
    exact h entry.1 (List.mem_map.mpr ⟨entry, (List.mem_filter.mp hentry).1, rfl⟩)
  · intro step hstep
    cases hstep

theorem NoRestart.trailing (h : NoRestart branch.steps) (stopIsOpen : Bool) :
    NoRestart (branch.trailing stopIsOpen) := by
  unfold CandidateBranch.trailing
  split
  · intro step hstep
    obtain ⟨entry, hentry, rfl⟩ := List.mem_map.mp hstep
    rw [afterStopStep_operation]
    exact h entry.1 (List.mem_map.mpr ⟨entry, (List.mem_filter.mp hentry).1, rfl⟩)
  · intro step hstep
    obtain ⟨step', hstep', rfl⟩ := List.mem_map.mp hstep
    rw [afterStopStep_operation]
    exact h step' hstep'

private theorem Attachable.addDependency (h : Attachable steps i) (index dependency : Nat) :
    Attachable (addDependency steps index dependency) i := by
  refine ⟨?_, ?_⟩
  · rw [length_addDependency]
    exact h.1
  · rw [stepOperation?_addDependency]
    exact h.2

private theorem attachable_gateStop (hvalues : NoRestart values) :
    (∀ i, Attachable steps i → Attachable (gateStop steps values branchId stopIndex stopIsOpen).1 i) ∧
      ∀ t, (gateStop steps values branchId stopIndex stopIsOpen).2 = some t →
        Attachable (gateStop steps values branchId stopIndex stopIsOpen).1 t := by
  have hnone : ∀ d, (none : Option Nat) = some d → Attachable steps d := by simp
  unfold GpuFaultRecovery.gateStop
  dsimp only
  split
  · cases stopIsOpen with
    | false => exact ⟨fun i hi => hi.appendChain _ _, fun t ht => attachable_appendChain_tail hvalues hnone ht⟩
    | true =>
      exact ⟨fun i hi => (hi.appendChain _ _).addDependency _ _,
        fun t ht => (attachable_appendChain_tail hvalues hnone ht).addDependency _ _⟩
  · exact ⟨fun i hi => hi.appendChain _ _, fun t ht => attachable_appendChain_tail hvalues hnone ht⟩

private theorem PlanOk.gateStop (h : PlanOk steps) (hvalues : NoRestart values)
    (hstop : ∀ s, stopIndex = some s → Attachable steps s) :
    PlanOk (gateStop steps values branchId stopIndex stopIsOpen).1 := by
  have hnone : ∀ d, (none : Option Nat) = some d → Attachable steps d := by simp
  have happended : PlanOk (GpuFaultRecovery.appendChain steps values none branchId).1 := h.appendChain hvalues hnone
  unfold GpuFaultRecovery.gateStop
  dsimp only
  split
  · rename_i tail stop htail
    cases stopIsOpen with
    | false => exact happended
    | true =>
      rcases appendChain_tail htail with ⟨-, hd⟩ | ⟨hne, rfl⟩
      · cases hd
      · exact h.gate hvalues hne (hstop stop rfl).1
  · exact happended

theorem orElse_eq_some {α : Type} {a b : Option α} {t : α} (h : (a.orElse fun _ => b) = some t) :
    a = some t ∨ b = some t := by
  cases a with
  | none => exact .inr h
  | some _ => exact .inl h

private theorem attachable_gatePoint (hbranch : NoRestart branch.steps)
    (hstop : ∀ s, stopIndex = some s → Attachable steps s) :
    ∀ d, (stopIndex.orElse fun _ => (gateStop steps (branch.leading stopIsOpen) branchId stopIndex stopIsOpen).2) =
      some d →
      Attachable (gateStop steps (branch.leading stopIsOpen) branchId stopIndex stopIsOpen).1 d := by
  intro d hd
  obtain ⟨hkept, hleading⟩ := attachable_gateStop (hbranch.leading stopIsOpen)
  rcases orElse_eq_some hd with hs | ht
  · exact hkept d (hstop d hs)
  · exact hleading d ht

/-- The tail of a branch that is attached without a predecessor. -/
theorem attachable_attach_tail (hbranch : NoRestart branch.steps)
    (hstop : ∀ s, stopIndex = some s → Attachable steps s)
    {tail : Nat} (h : (attachCandidateBranch steps branch branchId stopIndex stopIsOpen none).2 = some tail) :
    Attachable (attachCandidateBranch steps branch branchId stopIndex stopIsOpen none).1 tail := by
  simp only [attachCandidateBranch] at h ⊢
  rcases orElse_eq_some h with ht | ht
  · exact attachable_appendChain_tail (hbranch.trailing stopIsOpen) (attachable_gatePoint hbranch hstop) ht
  · exact ((attachable_gateStop (hbranch.leading stopIsOpen)).2 tail ht).appendChain _ _

private theorem PlanOk.attachCandidateBranch (h : PlanOk steps) (hbranch : NoRestart branch.steps)
    (hstop : ∀ s, stopIndex = some s → Attachable steps s)
    (hpred : ∀ p, predecessor = some p → Attachable steps p) :
    PlanOk (attachCandidateBranch steps branch branchId stopIndex stopIsOpen predecessor).1 ∧
      ∀ t, (attachCandidateBranch steps branch branchId stopIndex stopIsOpen predecessor).2 = some t →
        Attachable (attachCandidateBranch steps branch branchId stopIndex stopIsOpen predecessor).1 t := by
  cases predecessor with
  | some p =>
    simp only [GpuFaultRecovery.attachCandidateBranch]
    exact ⟨h.appendChain hbranch hpred, fun t => attachable_appendChain_tail hbranch hpred⟩
  | none =>
    refine ⟨?_, fun t ht => attachable_attach_tail hbranch hstop ht⟩
    simp only [GpuFaultRecovery.attachCandidateBranch]
    exact (h.gateStop (hbranch.leading stopIsOpen) hstop).appendChain (hbranch.trailing stopIsOpen)
      (attachable_gatePoint hbranch hstop)

theorem length_gateStop (steps values : List WorkflowStepSpec) (branchId : String) (stopIndex : Option Nat)
    (stopIsOpen : Bool) : (gateStop steps values branchId stopIndex stopIsOpen).1.length =
      steps.length + values.length := by
  unfold gateStop
  dsimp only
  split
  · dsimp only
    split
    · rw [length_addDependency, length_appendChain]
    · rw [length_appendChain]
  · rw [length_appendChain]

/-- Attaching a branch appends its steps, in two chains or one. -/
theorem length_attach (steps : List WorkflowStepSpec) (branch : CandidateBranch) (branchId : String)
    (stopIndex : Option Nat) (stopIsOpen : Bool) (predecessor : Option Nat) :
    (attachCandidateBranch steps branch branchId stopIndex stopIsOpen predecessor).1.length =
      steps.length + branch.steps.length := by
  have hparts : (branch.leading stopIsOpen).length + (branch.trailing stopIsOpen).length = branch.steps.length := by
    cases stopIsOpen with
    | false => simp [CandidateBranch.leading, CandidateBranch.trailing]
    | true =>
      have hsplit := List.length_eq_length_filter_add branch.preStop (l := branch.indexed)
      simpa [CandidateBranch.leading, CandidateBranch.trailing, CandidateBranch.steps] using hsplit.symm
  cases predecessor with
  | some p =>
    simp only [attachCandidateBranch]
    rw [length_appendChain]
  | none =>
    simp only [attachCandidateBranch]
    rw [length_appendChain, length_gateStop]
    omega

/-! ### What an appended branch leaves of the old steps -/

section OldSteps

variable {α : Type} {f : WorkflowStepSpec → α} {branchId : String} {stopIndex : Option Nat} {stopIsOpen : Bool}

private theorem map_getElem?_appendChain (f : WorkflowStepSpec → α) (h : i < steps.length) (dependency : Option Nat) :
    ((appendChain steps values dependency branchId).1[i]?).map f = (steps[i]?).map f := by
  rw [appendChain, List.getElem?_append_left h]

private theorem map_getElem?_addDependency
    (hf : ∀ step dependencies, f { step with dependsOnStepIndexes := dependencies } = f step)
    (index dependency : Nat) :
    ((addDependency steps index dependency)[i]?).map f = (steps[i]?).map f := by
  rw [addDependency, List.getElem?_modify]
  cases steps[i]? with
  | none => rfl
  | some step =>
    by_cases he : index = i
    · simp [he, hf]
    · simp [he]

private theorem map_getElem?_gateStop
    (hf : ∀ step dependencies, f { step with dependsOnStepIndexes := dependencies } = f step) (h : i < steps.length) :
    ((gateStop steps values branchId stopIndex stopIsOpen).1[i]?).map f = (steps[i]?).map f := by
  unfold gateStop
  dsimp only
  split
  · dsimp only
    split
    · rw [map_getElem?_addDependency hf, map_getElem?_appendChain f h]
    · exact map_getElem?_appendChain f h none
  · exact map_getElem?_appendChain f h none

/-- Attaching a branch changes nothing of the old steps but their edges. -/
theorem map_getElem?_attach
    (hf : ∀ step dependencies, f { step with dependsOnStepIndexes := dependencies } = f step) (h : i < steps.length)
    (branch : CandidateBranch) (predecessor : Option Nat) :
    ((attachCandidateBranch steps branch branchId stopIndex stopIsOpen predecessor).1[i]?).map f =
      (steps[i]?).map f := by
  cases predecessor with
  | some p => exact map_getElem?_appendChain f h _
  | none =>
    simp only [attachCandidateBranch]
    rw [map_getElem?_appendChain f (by rw [length_gateStop]; omega), map_getElem?_gateStop hf h]

end OldSteps

end PlanOk

/-! ### Rewrites of a record -/

section Rewrites

variable {existing candidate rewritten : WorkflowRequest} {now : Time} {i j : Nat}

def appendedRow (existing : WorkflowRequest) (branch : CandidateBranch) (predecessor : Option Nat)
    (replaced : List Nat) (action : Option String) (now : Time) : WorkflowRequest :=
  { existing with
    dagEnabled := true
    dagRevision := existing.dagRevision + 1
    supersededStepIndexes := sortedSet (existing.supersededStepIndexes ++
      (branchRewrite existing branch predecessor replaced).2.filter fun index =>
        !existing.completedStepIndexes.contains index)
    officialAction := action
    officialSteps := (branchRewrite existing branch predecessor replaced).1
    updatedAt := now }

/-- Completed steps of a replaced branch stay completed: as sets nothing is lost. -/
theorem mem_resolved_appendedRow {branch : CandidateBranch} {predecessor : Option Nat} {replaced : List Nat}
    {action : Option String} :
    i ∈ (appendedRow existing branch predecessor replaced action now).resolvedStepIndexes ↔
      i ∈ existing.resolvedStepIndexes ∨ i ∈ (branchRewrite existing branch predecessor replaced).2 := by
  simp only [appendedRow, WorkflowRequest.resolvedStepIndexes, List.mem_append, mem_sortedSet, List.mem_filter,
    Bool.not_eq_true', ← Bool.not_eq_true, List.contains_iff_mem]
  by_cases hdone : i ∈ existing.completedStepIndexes
  · simp [hdone]
  · simp [hdone]

/-- An append finds the branch of the candidate in the record, or writes its `branchRewrite`. -/
theorem appendParallelJobBranch_cases {predecessor : Option Nat} {replaced : List Nat}
    (h : appendParallelJobBranch existing candidate predecessor replaced now = .ok rewritten) :
    ∃ candidate' branch, inheritTerminalQuarantine existing candidate = .ok candidate' ∧
      candidateBranch candidate' predecessor existing.dagRevision = .ok branch ∧
      ((rewritten = existing ∧
        branchAlreadyPresent existing (normalizedSteps existing) branch.steps branch.nodes = true) ∨
        ∃ action, rewritten = appendedRow existing branch predecessor replaced action now) := by
  unfold appendParallelJobBranch at h
  obtain ⟨candidate', hinherit, h⟩ := bind_ok h
  obtain ⟨branch, hbranch, h⟩ := bind_ok h
  refine ⟨candidate', branch, hinherit, hbranch, ?_⟩
  split at h
  · rename_i hpresent
    simp only [Bool.and_eq_true] at hpresent
    exact .inl ⟨(Except.ok.inj h).symm, hpresent.2⟩
  · exact .inr ⟨_, (Except.ok.inj h).symm⟩

/-- An append leaves the record as it is, or writes the `branchRewrite` of a candidate's branch. -/
theorem appendParallelJobBranch_ok {predecessor : Option Nat} {replaced : List Nat}
    (h : appendParallelJobBranch existing candidate predecessor replaced now = .ok rewritten) :
    rewritten = existing ∨
      ∃ candidate' branch action,
        inheritTerminalQuarantine existing candidate = .ok candidate' ∧
        candidateBranch candidate' predecessor existing.dagRevision = .ok branch ∧
        rewritten = appendedRow existing branch predecessor replaced action now := by
  obtain ⟨candidate', branch, hinherit, hbranch, ⟨rfl, -⟩ | ⟨action, rfl⟩⟩ := appendParallelJobBranch_cases h
  · exact .inl rfl
  · exact .inr ⟨candidate', branch, action, hinherit, hbranch, rfl⟩

/-- The branch of a candidate has none of its shared steps. -/
theorem noRestart_of_candidateBranch {predecessor : Option Nat} {revision : Nat} {branch : CandidateBranch}
    (h : candidateBranch candidate predecessor revision = .ok branch) : NoRestart branch.steps := by
  unfold candidateBranch at h
  obtain ⟨quarantined, -, h⟩ := bind_ok h
  have he := Except.ok.inj h
  subst he
  intro step hstep hop
  obtain ⟨entry, hentry, rfl⟩ := List.mem_map.mp hstep
  have hshared := (List.mem_filter.mp hentry).2
  simp [hop, WorkflowOperation.semantics] at hshared

theorem firstWith_eq_some {steps : List WorkflowStepSpec} {operation : WorkflowOperation}
    (h : firstWith steps operation = some i) : i < steps.length ∧ stepOperation? steps i = some operation := by
  obtain ⟨hi, hop, -⟩ := List.findIdx?_eq_some_iff_getElem.mp h
  refine ⟨hi, ?_⟩
  simp only [beq_iff_eq] at hop
  simp [stepOperation?, List.getElem?_eq_getElem hi, hop]

theorem Attachable.of_shape {steps steps' : List WorkflowStepSpec} (h : Attachable steps i)
    (hshape : planShape steps' = planShape steps) : Attachable steps' i := by
  unfold Attachable
  rw [length_eq_of_shape hshape, stepOperation?_eq_of_shape hshape]
  exact h

private theorem PlanOk.branchRewrite {branch : CandidateBranch} {predecessor : Option Nat} {replaced : List Nat}
    (h : PlanOk (normalizedSteps existing)) (hbranch : NoRestart branch.steps)
    (hpred : ∀ p, predecessor = some p → Attachable (normalizedSteps existing) p) :
    PlanOk (branchRewrite existing branch predecessor replaced).1 := by
  have hshape := terminalSuperseded_shape existing (normalizedSteps existing) branch.terminal replaced
  have hstop : ∀ s, (stopState existing (normalizedSteps existing)).1 = some s →
      Attachable (terminalSuperseded existing (normalizedSteps existing) branch.terminal replaced).1 s := by
    intro s hs
    obtain ⟨hlt, hop⟩ := firstWith_eq_some hs
    refine Attachable.of_shape ⟨hlt, ?_⟩ hshape
    rw [hop]
    decide
  obtain ⟨hattached, htail⟩ := (h.of_shape hshape).attachCandidateBranch hbranch hstop
    (fun p hp => (hpred p hp).of_shape hshape)
  unfold GpuFaultRecovery.branchRewrite
  dsimp only
  split
  · exact hattached
  · exact hattached.reconnectJoin htail

theorem length_normalizedSteps (existing : WorkflowRequest) :
    (normalizedSteps existing).length = existing.officialSteps.length := by
  simp [normalizedSteps]

theorem length_branchRewrite (existing : WorkflowRequest) (branch : CandidateBranch) (predecessor : Option Nat)
    (replaced : List Nat) : (branchRewrite existing branch predecessor replaced).1.length =
      existing.officialSteps.length + branch.steps.length := by
  have hshape := terminalSuperseded_shape existing (normalizedSteps existing) branch.terminal replaced
  have hlen := length_eq_of_shape hshape
  rw [length_normalizedSteps] at hlen
  unfold branchRewrite
  dsimp only
  split
  · rw [length_attach, hlen]
  · rw [length_reconnectJoin, length_attach, hlen]

/-! ### The steps a rewrite attaches to -/

theorem mem_zipIdx_indexes {steps : List WorkflowStepSpec} {p : WorkflowStepSpec × Nat → Bool}
    (h : i ∈ (steps.zipIdx.filter p).map Prod.snd) : ∃ step, steps[i]? = some step ∧ p (step, i) = true := by
  obtain ⟨⟨step, k⟩, hmem, rfl⟩ := List.mem_map.mp h
  obtain ⟨hmem, hp⟩ := List.mem_filter.mp hmem
  exact ⟨step, List.mem_zipIdx_iff_getElem?.mp hmem, hp⟩

/-- Beside the replaced steps a terminal candidate retires readmissions and job restarts only. -/
theorem mem_terminalSuperseded {existing : WorkflowRequest} {steps : List WorkflowStepSpec} {terminal : List String}
    {replaced : List Nat} (h : i ∈ (terminalSuperseded existing steps terminal replaced).2) :
    i ∈ replaced ∨ (terminal ≠ [] ∧ ∃ step, steps[i]? = some step ∧
      (step.operation = .restoreScheduling ∨ step.operation = .restartWorkload)) := by
  unfold terminalSuperseded at h
  split at h
  case isTrue => exact .inl h
  case isFalse hterminal =>
    dsimp only at h
    rcases List.mem_append.mp h with h | h
    · exact .inl h
    · obtain ⟨step, hstep, hsuppressed⟩ := mem_zipIdx_indexes h
      refine .inr ⟨by simpa using hterminal, step, hstep, ?_⟩
      by_contra hop
      rw [not_or] at hop
      simp [suppressStep, hop.1, hop.2] at hsuppressed

theorem getElem?_normalizedSteps (existing : WorkflowRequest) (i : Nat) :
    (normalizedSteps existing)[i]? = (existing.officialSteps[i]?).map fun step =>
      { step with
        dependsOnStepIndexes :=
          if existing.dagEnabled then step.dependsOnStepIndexes else if i = 0 then [] else [i - 1]
        branchId := some ((step.branchId.filter (· != "")).getD
          (if step.operation.semantics.sharedDag then "shared" else initialBranchId)) } := by
  simp only [normalizedSteps, List.getElem?_map, List.getElem?_zipIdx]
  cases existing.officialSteps[i]? <;> simp

private theorem attachable_of_getElem? {step : WorkflowStepSpec} (h : existing.officialSteps[i]? = some step)
    (hop : step.operation ≠ .restartWorkload) : Attachable (normalizedSteps existing) i := by
  have hget := getElem?_normalizedSteps existing i
  rw [h] at hget
  obtain ⟨hi, -⟩ := List.getElem?_eq_some_iff.mp hget
  refine ⟨hi, ?_⟩
  rw [stepOperation?, hget]
  simpa using hop

theorem attachable_of_nodeStepIndexes {nodeId : String} (h : i ∈ nodeStepIndexes existing nodeId) :
    Attachable (normalizedSteps existing) i := by
  unfold nodeStepIndexes at h
  split at h
  · obtain ⟨step, hstep, hp⟩ := mem_zipIdx_indexes h
    refine attachable_of_getElem? hstep fun hop => ?_
    simp [hop] at hp
  · obtain ⟨step, hstep, hp⟩ := mem_zipIdx_indexes h
    refine attachable_of_getElem? hstep fun hop => ?_
    simp [hop, WorkflowOperation.semantics] at hp

/-! ### Runs of rewrites -/

inductive PlanRewrite where
  | adopt
  | append (candidate : WorkflowRequest)
  | widen (candidate : WorkflowRequest) (nodeId : String) (gpuUuids : List String)
  | replace (candidate : WorkflowRequest) (nodeId : String) (branchId : Option String)
  | successor (candidate : WorkflowRequest) (nodeId : String)

def PlanRewrite.apply (existing : WorkflowRequest) (now : Time) : PlanRewrite → Except String WorkflowRequest
  | .adopt => .ok (adoptLinearPlan existing now)
  | .append candidate => appendParallelJobBranch existing candidate none [] now
  | .widen candidate nodeId gpuUuids => .ok (widenParallelJobBranch existing candidate nodeId gpuUuids now)
  | .replace candidate nodeId branchId => replaceParallelJobBranch existing candidate nodeId branchId now
  | .successor candidate nodeId => appendParallelJobBranchSuccessor existing candidate nodeId now

/-- A rewrite goes through only while the join accepts branches; one that fails leaves the record alone. -/
def rewriteStep (existing : WorkflowRequest) (rewrite : PlanRewrite × Time) : WorkflowRequest :=
  if joinAcceptsNewBranch existing rewrite.2 then
    match rewrite.1.apply existing rewrite.2 with
    | .ok rewritten => rewritten
    | .error _ => existing
  else existing

/-- A record whose plan, flat or not, can run. A flat plan has no branches. -/
structure JobPlan (workflow : WorkflowRequest) : Prop where
  planOk : PlanOk (normalizedSteps workflow)
  flat : workflow.dagEnabled = false → ∀ step ∈ workflow.officialSteps, step.branchId = none

theorem planShape_normalizedSteps (workflow : WorkflowRequest) :
    planShape (normalizedSteps workflow) = (planShape workflow.officialSteps).zipIdx.map fun (shape, index) =>
      (shape.1, if workflow.dagEnabled then shape.2 else if index = 0 then [] else [index - 1]) := by
  unfold planShape normalizedSteps
  rw [List.map_map, List.zipIdx_map, List.map_map]
  rfl

/-- The edges of a DAG are the ones it lists. -/
theorem planShape_normalizedSteps_of_dag {workflow : WorkflowRequest} (h : workflow.dagEnabled = true) :
    planShape (normalizedSteps workflow) = planShape workflow.officialSteps :=
  planShape_map_zipIdx fun step index => ⟨rfl, by simp [h]⟩

theorem stepDeps_normalizedSteps_of_dag (h : existing.dagEnabled = true) :
    stepDeps (normalizedSteps existing) = stepDeps existing.officialSteps :=
  funext (stepDeps_eq_of_shape (planShape_normalizedSteps_of_dag h))

private theorem JobPlan.of_dag (h : rewritten.dagEnabled = true) (hplan : PlanOk rewritten.officialSteps) :
    JobPlan rewritten where
  planOk := hplan.of_shape (planShape_normalizedSteps_of_dag h)
  flat hflat := by rw [h] at hflat; cases hflat

theorem JobPlan.append (h : JobPlan existing) {predecessor : Option Nat} {replaced : List Nat}
    (hpred : ∀ p, predecessor = some p → Attachable (normalizedSteps existing) p)
    (hok : appendParallelJobBranch existing candidate predecessor replaced now = .ok rewritten) :
    JobPlan rewritten := by
  rcases appendParallelJobBranch_ok hok with rfl | ⟨candidate', branch, action, -, hbranch, rfl⟩
  · exact h
  · exact .of_dag rfl (h.planOk.branchRewrite (noRestart_of_candidateBranch hbranch) hpred)

private theorem JobPlan.adopt (h : JobPlan existing) : JobPlan (adoptLinearPlan existing now) := by
  unfold adoptLinearPlan
  split
  · exact h
  · exact .of_dag rfl h.planOk

private theorem JobPlan.widen (h : JobPlan existing) (nodeId : String) (gpuUuids : List String) :
    JobPlan (widenParallelJobBranch existing candidate nodeId gpuUuids now) := by
  have hshape : planShape (widenParallelJobBranch existing candidate nodeId gpuUuids now).officialSteps =
      planShape existing.officialSteps := by
    refine planShape_map_zipIdx fun step index => ?_
    dsimp only
    split <;> exact ⟨rfl, rfl⟩
  refine ⟨h.planOk.of_shape ?_, fun hflat step hstep => ?_⟩
  · rw [planShape_normalizedSteps, planShape_normalizedSteps, hshape]
    rfl
  · obtain ⟨⟨step', index⟩, hmem, rfl⟩ := List.mem_map.mp hstep
    have hbranch := h.flat hflat step' (List.fst_mem_of_mem_zipIdx hmem)
    dsimp only
    split <;> exact hbranch

private theorem JobPlan.replacedStepIndexes_of_flat (h : JobPlan existing) (hflat : existing.dagEnabled = false)
    (nodeId : String) (branchId : Option String) : replacedStepIndexes existing nodeId branchId = [] := by
  rw [List.eq_nil_iff_forall_not_mem]
  intro i hi
  unfold replacedStepIndexes at hi
  split at hi
  · obtain ⟨step, hstep, hp⟩ := mem_zipIdx_indexes hi
    have hnone := h.flat hflat step (List.mem_of_getElem? hstep)
    simp [hnone] at hp
  · obtain ⟨step, hstep, hp⟩ := mem_zipIdx_indexes hi
    simp only [Bool.and_eq_true, List.contains_iff_mem, List.mem_map, List.mem_filter] at hp
    obtain ⟨⟨other, ⟨hmem, hbranch, -⟩, -⟩, -⟩ := hp
    have hnone := h.flat hflat other hmem
    simp [WorkflowStepSpec.nodeBranch, hnone] at hbranch

theorem JobPlan.attachable_replacementTarget (h : JobPlan existing) {nodeId : String} {branchId : Option String}
    {predecessor : Option Nat} {replaced : List Nat}
    (htarget : replacementTarget existing nodeId branchId = some (predecessor, replaced)) :
    ∀ p, predecessor = some p → Attachable (normalizedSteps existing) p := by
  unfold replacementTarget at htarget
  dsimp only at htarget
  split at htarget
  · cases htarget
  · rename_i firstIndex hfirst
    cases htarget
    intro p hp
    cases hdag : existing.dagEnabled with
    | false =>
      rw [h.replacedStepIndexes_of_flat hdag] at hfirst
      cases hfirst
    | true =>
      have hmem := (List.mem_filter.mp (List.mem_of_getLast? hp)).1
      rw [← stepDeps_eq_of_shape (planShape_normalizedSteps_of_dag hdag)] at hmem
      obtain ⟨rank, hrank⟩ := h.planOk.ranked
      exact ⟨(hrank _ _ hmem).1, h.planOk.join_last _ _ hmem⟩

/-- What a replacement retires are the steps of the branches it replaces. -/
theorem mem_replacementTarget {nodeId : String} {branchId : Option String} {predecessor : Option Nat}
    {replaced : List Nat} (h : replacementTarget existing nodeId branchId = some (predecessor, replaced)) :
    ∀ i, i ∈ replaced ↔ i ∈ replacedStepIndexes existing nodeId branchId := by
  unfold replacementTarget at h
  dsimp only at h
  split at h
  · cases h
  · cases h
    intro i
    simp only [mem_sortedSet, List.mem_append, List.mem_filter]
    tauto

theorem replacementTarget_eq_none {nodeId : String} {branchId : Option String} :
    replacementTarget existing nodeId branchId = none ↔ replacedStepIndexes existing nodeId branchId = [] := by
  unfold replacementTarget
  dsimp only
  rw [← List.min?_eq_none_iff]
  split <;> simp_all

/-- A replacement finds no branch to replace, or writes the `branchRewrite` of the candidate's branch: it does not
look for the candidate's branch in the plan. -/
theorem replaceParallelJobBranch_cases {nodeId : String} {branchId : Option String}
    (h : replaceParallelJobBranch existing candidate nodeId branchId now = .ok rewritten) :
    (rewritten = existing ∧ replacementTarget existing nodeId branchId = none ∧
        replacedStepIndexes existing nodeId branchId = []) ∨
      ∃ predecessor replaced candidate' branch action,
        replacementTarget existing nodeId branchId = some (predecessor, replaced) ∧
        (∀ i, i ∈ replaced ↔ i ∈ replacedStepIndexes existing nodeId branchId) ∧
        inheritTerminalQuarantine existing candidate = .ok candidate' ∧
        candidateBranch candidate' predecessor existing.dagRevision = .ok branch ∧
        rewritten = appendedRow existing branch predecessor replaced action now := by
  unfold replaceParallelJobBranch at h
  split at h
  · rename_i htarget
    exact .inl ⟨(Except.ok.inj h).symm, htarget, replacementTarget_eq_none.mp htarget⟩
  · rename_i predecessor replaced htarget
    have hmem := mem_replacementTarget htarget
    unfold appendParallelJobBranch at h
    obtain ⟨candidate', hinherit, h⟩ := bind_ok h
    obtain ⟨branch, hbranch, h⟩ := bind_ok h
    split at h
    · rename_i hpresent
      simp only [Bool.and_eq_true, List.isEmpty_iff] at hpresent
      have hnil : replacedStepIndexes existing nodeId branchId = [] := by
        refine List.eq_nil_iff_forall_not_mem.mpr fun i hi => ?_
        have hi' := (hmem i).mpr hi
        rw [hpresent.1.2] at hi'
        cases hi'
      rw [replacementTarget_eq_none.mpr hnil] at htarget
      cases htarget
    · exact .inr ⟨predecessor, replaced, candidate', branch, _, htarget, hmem, hinherit, hbranch,
        (Except.ok.inj h).symm⟩

private theorem attachable_successorTarget {nodeId : String} {predecessor : Option Nat}
    (htarget : successorTarget existing nodeId = .ok predecessor) :
    ∀ p, predecessor = some p → Attachable (normalizedSteps existing) p := by
  unfold successorTarget at htarget
  dsimp only at htarget
  split at htarget
  · cases htarget
    simp
  · split at htarget
    · cases htarget
    · rename_i tail htail
      cases htarget
      rintro p ⟨⟩
      have hmem := List.max?_mem htail
      exact attachable_of_nodeStepIndexes (List.mem_filter.mp hmem).1

/-- What a rewrite appends a branch of, what it chains it behind and what it retires. -/
def PlanRewrite.target (existing : WorkflowRequest) : PlanRewrite → Option (WorkflowRequest × Option Nat × List Nat)
  | .append candidate => some (candidate, none, [])
  | .replace candidate nodeId branchId =>
    (replacementTarget existing nodeId branchId).map fun (predecessor, replaced) => (candidate, predecessor, replaced)
  | .successor candidate nodeId =>
    match successorTarget existing nodeId with
    | .ok predecessor => some (candidate, predecessor, [])
    | .error _ => none
  | _ => none

private theorem JobPlan.attachable_target (h : JobPlan existing) {rewrite : PlanRewrite} {predecessor : Option Nat}
    {replaced : List Nat} (htarget : rewrite.target existing = some (candidate, predecessor, replaced)) :
    ∀ p, predecessor = some p → Attachable (normalizedSteps existing) p := by
  cases rewrite with
  | append candidate =>
    cases htarget
    simp
  | replace candidate nodeId branchId =>
    obtain ⟨⟨predecessor', replaced'⟩, htarget, he⟩ := Option.map_eq_some_iff.mp htarget
    cases he
    exact h.attachable_replacementTarget htarget
  | successor candidate nodeId =>
    simp only [PlanRewrite.target] at htarget
    split at htarget
    · rename_i htail
      cases htarget
      exact attachable_successorTarget htail
    · cases htarget
  | _ => cases htarget

/-- A rewrite adopts, widens, changes nothing, or appends a branch to its target. -/
theorem PlanRewrite.apply_ok {rewrite : PlanRewrite} (h : rewrite.apply existing now = .ok rewritten) :
    rewritten = existing ∨ (rewrite = .adopt ∧ rewritten = adoptLinearPlan existing now) ∨
      (∃ candidate nodeId gpuUuids, rewrite = .widen candidate nodeId gpuUuids ∧
        rewritten = widenParallelJobBranch existing candidate nodeId gpuUuids now) ∨
      ∃ candidate predecessor replaced, rewrite.target existing = some (candidate, predecessor, replaced) ∧
        appendParallelJobBranch existing candidate predecessor replaced now = .ok rewritten := by
  cases rewrite with
  | adopt => exact .inr (.inl ⟨rfl, (Except.ok.inj h).symm⟩)
  | append candidate => exact .inr (.inr (.inr ⟨candidate, none, [], rfl, h⟩))
  | widen candidate nodeId gpuUuids =>
    exact .inr (.inr (.inl ⟨candidate, nodeId, gpuUuids, rfl, (Except.ok.inj h).symm⟩))
  | replace candidate nodeId branchId =>
    simp only [PlanRewrite.apply, replaceParallelJobBranch] at h
    split at h
    · exact .inl (Except.ok.inj h).symm
    · rename_i predecessor replaced htarget
      exact .inr (.inr (.inr ⟨candidate, predecessor, replaced, by simp [PlanRewrite.target, htarget], h⟩))
  | successor candidate nodeId =>
    simp only [PlanRewrite.apply, appendParallelJobBranchSuccessor] at h
    split at h
    · cases h
    · rename_i predecessor htarget
      exact .inr (.inr (.inr ⟨candidate, predecessor, [], by simp [PlanRewrite.target, htarget], h⟩))

private theorem JobPlan.rewriteStep (h : JobPlan existing) (rewrite : PlanRewrite × Time) :
    JobPlan (rewriteStep existing rewrite) := by
  unfold GpuFaultRecovery.rewriteStep
  split
  · split
    · rename_i rewritten hok
      rcases PlanRewrite.apply_ok hok with rfl | ⟨-, rfl⟩ | ⟨candidate, nodeId, gpuUuids, -, rfl⟩ |
        ⟨candidate, predecessor, replaced, htarget, hok⟩
      · exact h
      · exact h.adopt
      · exact h.widen nodeId gpuUuids
      · exact h.append (h.attachable_target htarget) hok
    · exact h
  · exact h

/-- A flat plan whose job restart, if it has one, comes last. -/
def FlatPlan (workflow : WorkflowRequest) : Prop :=
  workflow.dagEnabled = false ∧ (∀ step ∈ workflow.officialSteps, step.branchId = none) ∧
    ∀ step ∈ workflow.officialSteps.dropLast, step.operation ≠ .restartWorkload

/-- An acyclic job DAG: no step waits for the job restart. -/
def JobDag (workflow : WorkflowRequest) : Prop :=
  workflow.dagEnabled = true ∧
    (∀ i, ∀ j ∈ stepDeps workflow.officialSteps i, j < workflow.officialSteps.length) ∧
    Acyclic (stepDeps workflow.officialSteps) ∧
    ∀ i, ∀ j ∈ stepDeps workflow.officialSteps i, stepOperation? workflow.officialSteps j ≠ some .restartWorkload

theorem JobPlan.of_jobDag (h : JobDag existing) : JobPlan existing :=
  .of_dag h.1 ⟨⟨_, h.2.2.1.ranked h.2.1⟩, h.2.2.2⟩

/-- Edges that lower a rank and never reach a job restart make a job DAG. -/
theorem JobDag.of_rank (hdag : existing.dagEnabled = true) (rank : Nat → Nat)
    (h : ∀ i < existing.officialSteps.length, ∀ j ∈ stepDeps existing.officialSteps i,
      j < existing.officialSteps.length ∧ rank j < rank i ∧
        stepOperation? existing.officialSteps j ≠ some .restartWorkload) : JobDag existing := by
  have hedge : ∀ i, ∀ j ∈ stepDeps existing.officialSteps i, j < existing.officialSteps.length ∧ rank j < rank i ∧
      stepOperation? existing.officialSteps j ≠ some .restartWorkload := by
    intro i j hj
    by_cases hi : i < existing.officialSteps.length
    · exact h i hi j hj
    · rw [stepDeps_of_length_le (not_lt.mp hi)] at hj
      cases hj
  have hranked : Ranked (stepDeps existing.officialSteps) existing.officialSteps.length rank :=
    fun i j hj => ⟨(hedge i j hj).1, (hedge i j hj).2.1⟩
  exact ⟨hdag, fun i j hj => (hedge i j hj).1, hranked.acyclic, fun i j hj => (hedge i j hj).2.2⟩

theorem mem_stepDeps_normalizedSteps_of_flat (h : existing.dagEnabled = false)
    (hj : j ∈ stepDeps (normalizedSteps existing) i) : i < existing.officialSteps.length ∧ i = j + 1 := by
  rw [stepDeps, getElem?_normalizedSteps] at hj
  cases hstep : existing.officialSteps[i]? with
  | none =>
    rw [hstep] at hj
    cases hj
  | some step =>
    obtain ⟨hi, -⟩ := List.getElem?_eq_some_iff.mp hstep
    refine ⟨hi, ?_⟩
    rw [hstep] at hj
    by_cases hzero : i = 0
    · simp [h, hzero] at hj
    · simp [h, hzero] at hj
      omega

theorem JobPlan.of_flatPlan (h : FlatPlan existing) : JobPlan existing := by
  obtain ⟨hflat, hbranch, hlast⟩ := h
  refine ⟨⟨⟨id, fun i j hj => ?_⟩, fun i j hj => ?_⟩, fun _ => hbranch⟩
  · obtain ⟨hi, rfl⟩ := mem_stepDeps_normalizedSteps_of_flat hflat hj
    have hlen := length_normalizedSteps existing
    exact ⟨by omega, Nat.lt_succ_self j⟩
  · obtain ⟨hi, rfl⟩ := mem_stepDeps_normalizedSteps_of_flat hflat hj
    have hj' : j < existing.officialSteps.dropLast.length := by
      rw [List.length_dropLast]
      omega
    have hne := hlast _ (List.getElem_mem hj')
    rw [List.getElem_dropLast] at hne
    have hget := getElem?_normalizedSteps existing j
    have hget' := List.getElem?_eq_getElem (show j < existing.officialSteps.length by omega)
    rw [stepOperation?, hget, hget']
    simpa using hne

/-- Whatever sequence of permitted rewrites a flat plan or a job DAG goes through, the executor accepts the plan: the
steps a DAG lists, and the chain a record that is still flat stands for. -/
theorem rewrites_keep_plan_valid {start : WorkflowRequest} {rewrites : List (PlanRewrite × Time)}
    (hstart : FlatPlan start ∨ JobDag start) :
    let workflow := Run.exec GpuFaultRecovery.rewriteStep start rewrites
    validateDag (normalizedSteps workflow) = .ok () ∧
      (workflow.dagEnabled = true → validateDag workflow.officialSteps = .ok ()) := by
  intro workflow
  have hplan : JobPlan start := by
    rcases hstart with hflat | hdag
    · exact .of_flatPlan hflat
    · exact .of_jobDag hdag
  have hreached : JobPlan workflow :=
    Run.invariant_exec (fun _ rewrite h _ => h.rewriteStep rewrite) hplan (Run.along_true start rewrites)
  refine ⟨hreached.planOk.validateDag, fun hdag => ?_⟩
  exact (hreached.planOk.of_shape (planShape_normalizedSteps_of_dag hdag).symm).validateDag

end Rewrites

section RestartOrder

private def resetStep : WorkflowStepSpec := { operation := .resetGpu, nodeIds := ["n1"] }

private def restartStep : WorkflowStepSpec := { operation := .restartWorkload, nodeIds := ["n1"] }

private def repairBeforeRestart : WorkflowRequest :=
  { requestId := "w", status := .pending, officialSteps := [resetStep, restartStep] }

private def restartBeforeRepair : WorkflowRequest :=
  { requestId := "w", status := .pending, officialSteps := [restartStep, resetStep] }

private def secondReset : WorkflowRequest := { requestId := "c", status := .pending, officialSteps := [resetStep] }

/-- A second repair queued behind the first, before the restart. -/
theorem rewrites_keep_plan_valid_repair :
    FlatPlan repairBeforeRestart ∧
      validateDag (normalizedSteps
        (Run.exec rewriteStep repairBeforeRestart [(.successor secondReset "n1", 0)])) = .ok () := by
  have hflat : FlatPlan repairBeforeRestart := ⟨rfl, by decide, by decide⟩
  exact ⟨hflat, (rewrites_keep_plan_valid (.inl hflat)).1⟩

/-- A flat plan that repairs a node after it restarted the job: a second repair queued behind the first is waited for
by the restart that both wait for. -/
theorem restart_before_repair_cycles :
    restartBeforeRepair.dagEnabled = false ∧ joinAcceptsNewBranch restartBeforeRepair 0 = true ∧
      validateDag (Run.exec rewriteStep restartBeforeRepair [(.successor secondReset "n1", 0)]).officialSteps =
        .error "workflow step dependency graph contains a cycle" := by
  decide

end RestartOrder

end GpuFaultRecovery
