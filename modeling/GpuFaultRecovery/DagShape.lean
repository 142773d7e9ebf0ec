import GpuFaultRecovery.DagBranching

/-!
# Edges after a rewrite

Which steps wait for which, after each part of a branch rewrite. Names, scopes and parameters do not matter here: the
lemmas speak about the operations of a plan and its edges, `stepDeps`.
-/

namespace GpuFaultRecovery

open DependencyGraph

variable {steps values : List WorkflowStepSpec} {step : WorkflowStepSpec} {i j : Nat}

def planShape (steps : List WorkflowStepSpec) : List (WorkflowOperation × List Nat) :=
  steps.map fun step => (step.operation, step.dependsOnStepIndexes)

/-- The operation of the step at `index`. -/
def stepOperation? (steps : List WorkflowStepSpec) (index : Nat) : Option WorkflowOperation :=
  (steps[index]?).map WorkflowStepSpec.operation

theorem stepOperation?_eq_of_shape {steps' : List WorkflowStepSpec} (h : planShape steps' = planShape steps)
    (i : Nat) :
    stepOperation? steps' i = stepOperation? steps i := by
  have hi := congrArg (fun l => (l[i]?).map Prod.fst) h
  simpa [planShape, stepOperation?, Option.map_map, Function.comp_def] using hi

theorem stepDeps_eq_of_shape {steps' : List WorkflowStepSpec} (h : planShape steps' = planShape steps) (i : Nat) :
    stepDeps steps' i = stepDeps steps i := by
  have hi := congrArg (fun l => ((l[i]?).map Prod.snd).getD []) h
  simpa [planShape, stepDeps, Option.map_map, Function.comp_def] using hi

theorem length_eq_of_shape {steps' : List WorkflowStepSpec} (h : planShape steps' = planShape steps) :
    steps'.length = steps.length := by
  have hlen := congrArg List.length h
  simpa [planShape] using hlen

/-- A rewrite step by step that keeps operations and edges keeps the shape. -/
theorem planShape_map_zipIdx {f : WorkflowStepSpec × Nat → WorkflowStepSpec}
    (h : ∀ step index, (f (step, index)).operation = step.operation ∧
      (f (step, index)).dependsOnStepIndexes = step.dependsOnStepIndexes) :
    planShape (steps.zipIdx.map f) = planShape steps := by
  unfold planShape
  rw [List.map_map]
  conv_rhs => rw [← List.zipIdx_map_fst 0 steps, List.map_map]
  refine List.map_congr_left ?_
  rintro ⟨step, index⟩ -
  simp [h step index]

theorem suppressStep_shape (existing : WorkflowRequest) (held : List String) (step : WorkflowStepSpec) (index : Nat) :
    (suppressStep existing held step index).1.operation = step.operation ∧
      (suppressStep existing held step index).1.dependsOnStepIndexes = step.dependsOnStepIndexes := by
  unfold suppressStep
  dsimp only
  split
  · exact ⟨rfl, rfl⟩
  · split
    · exact ⟨rfl, rfl⟩
    · split
      · split <;> exact ⟨rfl, rfl⟩
      · exact ⟨rfl, rfl⟩

theorem terminalSuperseded_shape (existing : WorkflowRequest) (steps : List WorkflowStepSpec) (terminal : List String)
    (replaced : List Nat) : planShape (terminalSuperseded existing steps terminal replaced).1 = planShape steps := by
  unfold terminalSuperseded
  split
  · rfl
  · exact planShape_map_zipIdx fun step index => suppressStep_shape _ _ step index

theorem stepDeps_of_length_le (h : steps.length ≤ i) : stepDeps steps i = [] := by
  simp [stepDeps, List.getElem?_eq_none h]

theorem stepDeps_append_left {extra : List WorkflowStepSpec} (h : i < steps.length) :
    stepDeps (steps ++ extra) i = stepDeps steps i := by
  simp [stepDeps, List.getElem?_append_left h]

theorem stepDeps_append_right {extra : List WorkflowStepSpec} (h : steps.length ≤ i) :
    stepDeps (steps ++ extra) i = stepDeps extra (i - steps.length) := by
  simp [stepDeps, List.getElem?_append_right h]

theorem stepOperation?_append_left {extra : List WorkflowStepSpec} (h : i < steps.length) :
    stepOperation? (steps ++ extra) i = stepOperation? steps i := by
  simp [stepOperation?, List.getElem?_append_left h]

theorem stepOperation?_append_right {extra : List WorkflowStepSpec} (h : steps.length ≤ i) :
    stepOperation? (steps ++ extra) i = stepOperation? extra (i - steps.length) := by
  simp [stepOperation?, List.getElem?_append_right h]

/-! ### A chain -/

theorem length_chainFrom (base count : Nat) (branchId : String) (index : Nat) (previous : Option Nat)
    (values : List WorkflowStepSpec) :
    (chainFrom base count branchId index previous values).length = values.length := by
  induction values generalizing index previous with
  | nil => rfl
  | cons step rest ih => simp [chainFrom, ih]

/-- The step before the `k`-th of a chain. -/
def chainPrevious (index : Nat) (previous : Option Nat) : Nat → Option Nat
  | 0 => previous
  | k + 1 => some (index + k)

theorem getElem?_chainFrom (base count : Nat) (branchId : String) (index : Nat) (previous : Option Nat)
    (values : List WorkflowStepSpec) (k : Nat) :
    (chainFrom base count branchId index previous values)[k]? =
      (values[k]?).map (chainStep base count (index + k) (chainPrevious index previous k) branchId) := by
  induction values generalizing index previous k with
  | nil => rfl
  | cons step rest ih =>
    cases k with
    | zero => rfl
    | succ k =>
      simp only [chainFrom, List.getElem?_cons_succ]
      rw [ih]
      have hprev : chainPrevious (index + 1) (some index) k = some (index + k) := by
        cases k with
        | zero => rfl
        | succ k => simp only [chainPrevious]; congr 1; omega
      rw [hprev, Nat.add_assoc, Nat.add_comm 1 k]
      rfl

theorem stepOperation?_chainFrom (base count : Nat) (branchId : String) (index : Nat) (previous : Option Nat)
    (values : List WorkflowStepSpec) (k : Nat) :
    stepOperation? (chainFrom base count branchId index previous values) k = stepOperation? values k := by
  rw [stepOperation?, getElem?_chainFrom, Option.map_map]
  rfl

theorem mem_stepDeps_chainFrom {base count : Nat} {branchId : String} {index : Nat} {previous : Option Nat}
    {values : List WorkflowStepSpec} {k : Nat} :
    j ∈ stepDeps (chainFrom base count branchId index previous values) k ↔
      ∃ step, values[k]? = some step ∧
        ((∃ d ∈ step.dependsOnStepIndexes, d < count ∧ base + d < index + k ∧ base + d = j) ∨
          chainPrevious index previous k = some j) := by
  rw [stepDeps, getElem?_chainFrom]
  cases values[k]? with
  | none => simp
  | some step => simp [chainStep, and_assoc]

end GpuFaultRecovery
