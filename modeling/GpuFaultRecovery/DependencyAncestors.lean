import GpuFaultRecovery.QuarantineInheritance

/-!
# What the search for ancestors finds

The search below a step is a depth-first search that gives up on a malformed graph. It finds exactly what the step
waits for, if everything below the step exists and no cycle is among it, and nothing otherwise. The dependency lists
of a stored plan may hold any integers; on them the search is the same, and a number below zero is one that does not
exist.
-/

namespace GpuFaultRecovery

open DependencyGraph

/-- Everything `i` waits for exists, and nothing of it waits for itself. -/
def WellBelow (deps : Nat → List Nat) (n i : Nat) : Prop := ∀ k, DependsOn deps i k → k < n ∧ ¬ DependsOn deps k k

/-! ### Ancestors -/

section Ancestors

variable {workflow : WorkflowRequest} {steps : List WorkflowStepSpec} {i j : Nat}

private theorem wellBelow_iff : WellBelow (stepDeps steps) steps.length i ↔
    DepthFirst.WellFormed (stepDeps steps) (isOtherStep steps i) i := by
  constructor
  · intro h x hx
    obtain ⟨hlt, hcycle⟩ := h x hx
    refine ⟨?_, hcycle⟩
    have hne : x ≠ i := by
      rintro rfl
      exact hcycle hx
    simp [isOtherStep, hlt, hne]
  · intro h x hx
    obtain ⟨hallowed, hcycle⟩ := h x hx
    simp only [isOtherStep, Bool.not_eq_true', Bool.or_eq_false_iff, decide_eq_false_iff_not, not_le] at hallowed
    exact ⟨hallowed.1, hcycle⟩

/-- The ancestors of a step of a DAG: what it waits for, if that is well formed. -/
theorem mem_dependencyAncestors_iff (hdag : workflow.dagEnabled = true) :
    j ∈ dependencyAncestors workflow i ↔
      WellBelow (stepDeps workflow.officialSteps) workflow.officialSteps.length i ∧
        DependsOn (stepDeps workflow.officialSteps) i j := by
  rw [wellBelow_iff]
  exact (returns_dependencyAncestors hdag).mem_iff

theorem mem_dependencyAncestors_of_flat (hflat : workflow.dagEnabled = false) :
    j ∈ dependencyAncestors workflow i ↔ j < i := by
  simp [dependencyAncestors, hflat]

end Ancestors

/-! ### Stored plans -/

/-- What `dependency_ancestors` reads of a workflow, as it is stored. -/
structure StoredPlan where
  dagEnabled : Bool
  /-- The `depends_on_step_indexes` of the official steps: nothing keeps an integer out that is no index. -/
  dependsOn : List (List Int)

namespace StoredPlan

variable (plan : StoredPlan)

/-- The dependencies of the step at `index`; none where there is no step. -/
def deps (index : Int) : List Int := if index < 0 then [] else (plan.dependsOn[index.toNat]?).getD []

/-- The dependencies a search below `stepIndex` does not give up on. -/
def allowed (stepIndex index : Int) : Bool :=
  !(decide (index < 0) || decide (plan.dependsOn.length ≤ index) || index == stepIndex)

def searchFuel (stepIndex : Int) : Nat :=
  (plan.deps stepIndex).length + (plan.dependsOn.map fun row => row.length + 1).sum + 1

/-- `dependency_ancestors`; an index past the end raises in a DAG. -/
def dependencyAncestors (stepIndex : Nat) : Option (List Int) :=
  if plan.dagEnabled then
    if stepIndex < plan.dependsOn.length then
      some (DepthFirst.search plan.deps (plan.allowed stepIndex) (plan.searchFuel stepIndex)
        (DepthFirst.pushed plan.deps stepIndex) [] [])
    else none
  else some ((List.range stepIndex).map Int.ofNat)

/-- Each entry of a chain is a dependency of the one before it, the first one of the step. -/
def Chain (stepIndex : Int) (chain : List Int) : Prop :=
  List.IsChain (fun x y => y ∈ plan.deps x) (stepIndex :: chain)

/-- `stepIndex` waits for `index`, directly or through others. -/
def WaitsFor (stepIndex index : Int) : Prop := DepthFirst.Below plan.deps stepIndex index

section Closure

variable {plan : StoredPlan} {i : Nat} {x : Int}

private theorem allowed_iff {stepIndex : Int} :
    plan.allowed stepIndex x = true ↔ (0 ≤ x ∧ x < plan.dependsOn.length) ∧ x ≠ stepIndex := by
  simp [allowed]

private theorem deps_natCast (x : Nat) : plan.deps x = (plan.dependsOn[x]?).getD [] := by
  simp [deps]

private theorem returns_dependencyAncestors (hdag : plan.dagEnabled = true) (hi : i < plan.dependsOn.length) :
    ∃ ancestors, plan.dependencyAncestors i = some ancestors ∧
      DepthFirst.Returns plan.deps (plan.allowed i) (DepthFirst.pushed plan.deps i) [] [] ancestors := by
  refine ⟨_, by rw [dependencyAncestors, if_pos hdag, if_pos hi], ?_⟩
  refine DepthFirst.returns_search_start
    ((Finset.range plan.dependsOn.length).map ⟨Int.ofNat, fun _ _ => Int.ofNat.inj⟩)
    (fun x hx => ?_) ?_
  · obtain ⟨⟨hnonneg, hlt⟩, -⟩ := allowed_iff.mp hx
    obtain ⟨n, rfl⟩ := Int.eq_ofNat_of_zero_le hnonneg
    exact Finset.mem_map.mpr ⟨n, Finset.mem_range.mpr (by omega), rfl⟩
  · have hsum := sum_range_getElem? (fun row => (row.getD []).length + 1) plan.dependsOn
    rw [Finset.sum_map]
    simp only [deps_natCast, searchFuel]
    exact Nat.lt_succ_of_le (Nat.add_le_add_left hsum.le _)

end Closure

end StoredPlan

/-- The ancestors of a step are its transitive dependencies if every chain of dependencies stays inside the plan and
never comes back to itself, and none if something below the step is malformed; and the search for them returns. -/
theorem stored_ancestors_are_closure (plan : StoredPlan) (stepIndex : Nat) (hdag : plan.dagEnabled = true)
    (hstep : stepIndex < plan.dependsOn.length) :
    ∃ ancestors, plan.dependencyAncestors stepIndex = some ancestors ∧
      DepthFirst.Returns plan.deps (plan.allowed stepIndex) (DepthFirst.pushed plan.deps stepIndex) [] [] ancestors ∧
      ((∀ chain, plan.Chain stepIndex chain →
          (∀ x ∈ chain, 0 ≤ x ∧ x < plan.dependsOn.length) ∧ ((stepIndex : Int) :: chain).Nodup) →
        ∀ x, x ∈ ancestors ↔ plan.WaitsFor stepIndex x) ∧
      ((∃ x, plan.WaitsFor stepIndex x ∧
          (x < 0 ∨ plan.dependsOn.length ≤ x ∨ x = stepIndex ∨ plan.WaitsFor x x)) → ancestors = []) := by
  obtain ⟨ancestors, hancestors, hreturns⟩ := StoredPlan.returns_dependencyAncestors hdag hstep
  refine ⟨ancestors, hancestors, hreturns, fun hchains x => ?_, ?_⟩
  · have hwell := DepthFirst.wellFormed_of_chains (fun x hin hne => StoredPlan.allowed_iff.mpr ⟨hin, hne⟩) hchains
    rw [hreturns.mem_iff]
    exact and_iff_right hwell
  · rintro ⟨x, hpath, hmalformed⟩
    refine List.eq_nil_iff_forall_not_mem.mpr fun y hy => ?_
    obtain ⟨hallowed, hcycle⟩ := (hreturns.mem_iff.mp hy).1 x hpath
    obtain ⟨⟨hnonneg, hlt⟩, hne⟩ := StoredPlan.allowed_iff.mp hallowed
    rcases hmalformed with hneg | hpast | hself | hloop
    · omega
    · omega
    · exact hne hself
    · exact hcycle hloop

/-- A step that waits for two steps, both of which wait for the first one. -/
private def diamondPlan : StoredPlan := { dagEnabled := true, dependsOn := [[], [0], [0], [1, 2]] }

private theorem diamondPlan_deps {x y : Int} (h : y ∈ diamondPlan.deps x) : (0 ≤ y ∧ y < 4) ∧ y < x := by
  unfold StoredPlan.deps at h
  split at h
  · cases h
  · have hcases : x.toNat = 0 ∨ x.toNat = 1 ∨ x.toNat = 2 ∨ x.toNat = 3 ∨ 4 ≤ x.toNat := by omega
    rcases hcases with hn | hn | hn | hn | hn
    · simp [diamondPlan, hn] at h
    · simp [diamondPlan, hn] at h
      omega
    · simp [diamondPlan, hn] at h
      omega
    · simp [diamondPlan, hn] at h
      omega
    · rw [List.getElem?_eq_none hn] at h
      cases h

private theorem diamondPlan_chain {start : Int} {chain : List Int} (h : diamondPlan.Chain start chain) :
    ∀ x ∈ chain, 0 ≤ x ∧ x < 4 := by
  induction chain generalizing start with
  | nil => simp
  | cons y chain ih =>
    obtain ⟨hy, hrest⟩ := List.isChain_cons_cons.mp h
    intro x hx
    rcases List.mem_cons.mp hx with rfl | hx
    · exact (diamondPlan_deps hy).1
    · exact ih hrest x hx

theorem stored_ancestors_of_diamond : ∃ ancestors, diamondPlan.dependencyAncestors 3 = some ancestors ∧
    ∀ x, x ∈ ancestors ↔ diamondPlan.WaitsFor 3 x := by
  obtain ⟨ancestors, hancestors, -, hclosure, -⟩ := stored_ancestors_are_closure diamondPlan 3 rfl (by decide)
  refine ⟨ancestors, hancestors, hclosure fun chain hchain => ⟨diamondPlan_chain hchain, ?_⟩⟩
  have hfalls : List.Pairwise (fun x y => y < x) (((3 : Nat) : Int) :: chain) :=
    List.isChain_iff_pairwise.mp (hchain.imp fun x y hy => (diamondPlan_deps hy).2)
  exact hfalls.imp fun hlt => (ne_of_lt hlt).symm

def WorkflowRequest.storedPlan (workflow : WorkflowRequest) : StoredPlan :=
  { dagEnabled := workflow.dagEnabled
    dependsOn := workflow.officialSteps.map fun step => step.dependsOnStepIndexes.map Int.ofNat }

private theorem deps_storedPlan (workflow : WorkflowRequest) (x : Nat) :
    workflow.storedPlan.deps (Int.ofNat x) = (stepDeps workflow.officialSteps x).map Int.ofNat := by
  rw [Int.ofNat_eq_natCast, StoredPlan.deps_natCast, stepDeps, WorkflowRequest.storedPlan, List.getElem?_map]
  cases workflow.officialSteps[x]? with
  | none => rfl
  | some step => rfl

private theorem allowed_storedPlan (workflow : WorkflowRequest) (i x : Nat) :
    workflow.storedPlan.allowed i (Int.ofNat x) = isOtherStep workflow.officialSteps i x := by
  have hlength : workflow.storedPlan.dependsOn.length = workflow.officialSteps.length := by
    simp [WorkflowRequest.storedPlan]
  rw [Bool.eq_iff_iff, StoredPlan.allowed_iff, hlength]
  simp only [isOtherStep, Bool.not_eq_true', Bool.or_eq_false_iff, decide_eq_false_iff_not, beq_eq_false_iff_ne,
    Int.ofNat_eq_natCast]
  omega

private theorem searchFuel_storedPlan (workflow : WorkflowRequest) (i : Nat) :
    workflow.storedPlan.searchFuel i = searchFuel workflow.officialSteps i := by
  have hdeps := deps_storedPlan workflow i
  rw [Int.ofNat_eq_natCast] at hdeps
  rw [StoredPlan.searchFuel, hdeps, searchFuel, List.length_map]
  simp [WorkflowRequest.storedPlan, Function.comp_def]

/-- Where no dependency is below zero, the search is the one on natural numbers. -/
theorem storedPlan_dependencyAncestors {workflow : WorkflowRequest} {i : Nat}
    (hi : i < workflow.officialSteps.length) :
    workflow.storedPlan.dependencyAncestors i = some ((dependencyAncestors workflow i).map Int.ofNat) := by
  unfold StoredPlan.dependencyAncestors dependencyAncestors
  by_cases hdag : workflow.dagEnabled = true
  · have hlength : i < workflow.storedPlan.dependsOn.length := by simpa [WorkflowRequest.storedPlan] using hi
    have hmap := DepthFirst.search_map (fun _ _ => Int.ofNat.inj) (deps_storedPlan workflow)
      (allowed_storedPlan workflow i) (searchFuel workflow.officialSteps i)
      (DepthFirst.pushed (stepDeps workflow.officialSteps) i) [] []
    have hpushed : DepthFirst.pushed workflow.storedPlan.deps (i : Int) =
        (DepthFirst.pushed (stepDeps workflow.officialSteps) i).map (Prod.map Int.ofNat id) := by
      have hdeps := deps_storedPlan workflow i
      rw [Int.ofNat_eq_natCast] at hdeps
      simp [DepthFirst.pushed, hdeps, Function.comp_def]
    rw [if_pos (show workflow.storedPlan.dagEnabled = true from hdag), if_pos hlength, if_pos hdag, ancestorSearch_eq,
      searchFuel_storedPlan, hpushed]
    exact congrArg some hmap
  · rw [if_neg hdag, if_neg (show ¬ workflow.storedPlan.dagEnabled = true from hdag)]

end GpuFaultRecovery
