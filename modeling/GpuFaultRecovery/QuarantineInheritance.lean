import GpuFaultRecovery.DagShape
import GpuFaultRecovery.DepthFirst

/-!
# Holds survive a merge

A merge narrows the readmissions of the candidate, marks its steps and inserts the quarantines it lacks, which
renumbers the plan. Read back, the merged plan holds the nodes either plan held and no others. The hold of a node
becomes explicit on a quarantine that names it, so the plan no longer depends on what readmits the node.
-/

namespace GpuFaultRecovery

open DependencyGraph

/-! ### Reading a plan -/

/-- The step at `index` of the plan, if it is not superseded. -/
def LiveStep (workflow : WorkflowRequest) (index : Nat) (step : WorkflowStepSpec) : Prop :=
  workflow.officialSteps[index]? = some step ∧ index ∉ workflow.supersededStepIndexes

/-- Whether the step at `i` comes after the one at `j`: through its dependencies, or by its place in a flat plan. -/
def WaitsFor (workflow : WorkflowRequest) (i j : Nat) : Prop :=
  if workflow.dagEnabled then DependsOn (stepDeps workflow.officialSteps) i j else j < i

/-- A live step of `operation` names the node. -/
def NamedBy (workflow : WorkflowRequest) (operation : WorkflowOperation) (node : String) : Prop :=
  ∃ index step, LiveStep workflow index step ∧ step.operation = operation ∧ node ∈ step.nodeIds

/-- A live quarantine lists the node among those it holds for good. -/
def HeldExplicitly (workflow : WorkflowRequest) (node : String) : Prop :=
  ∃ index step nodes, LiveStep workflow index step ∧ step.operation = .quarantine ∧
    fixedQuarantineNodes step = .ok nodes ∧ node ∈ nodes

section Reading

variable {workflow : WorkflowRequest} {step : WorkflowStepSpec} {steps : List WorkflowStepSpec} {nodes : List String}
  {node : String} {i j : Nat}

theorem mem_liveSteps : (step, i) ∈ liveSteps workflow ↔ LiveStep workflow i step := by
  simp [liveSteps, LiveStep, List.mem_zipIdx_iff_getElem?]

theorem mapM_ok {α β : Type} {f : α → Except String β} {l : List α} {values : List β} (h : l.mapM f = .ok values) :
    (∀ a ∈ l, ∃ b ∈ values, f a = .ok b) ∧ ∀ b ∈ values, ∃ a ∈ l, f a = .ok b := by
  induction l generalizing values with
  | nil =>
    cases h
    simp
  | cons a l ih =>
    rw [List.mapM_cons] at h
    obtain ⟨b, hb, h⟩ := bind_ok h
    obtain ⟨rest, hrest, h⟩ := bind_ok h
    cases h
    obtain ⟨hforth, hback⟩ := ih hrest
    refine ⟨fun a' ha' => ?_, fun b' hb' => ?_⟩
    · rcases List.mem_cons.mp ha' with rfl | ha'
      · exact ⟨b, List.mem_cons_self, hb⟩
      · obtain ⟨b', hb', he⟩ := hforth a' ha'
        exact ⟨b', List.mem_cons_of_mem _ hb', he⟩
    · rcases List.mem_cons.mp hb' with rfl | hb'
      · exact ⟨a, List.mem_cons_self, hb⟩
      · obtain ⟨a', ha', he⟩ := hback b' hb'
        exact ⟨a', List.mem_cons_of_mem _ ha', he⟩

theorem exists_mapM_ok {α β : Type} {f : α → Except String β} {l : List α} (h : ∀ a ∈ l, ∃ b, f a = .ok b) :
    ∃ values, l.mapM f = .ok values := by
  induction l with
  | nil => exact ⟨[], rfl⟩
  | cons a l ih =>
    obtain ⟨b, hb⟩ := h a List.mem_cons_self
    obtain ⟨rest, hrest⟩ := ih fun a' ha' => h a' (List.mem_cons_of_mem _ ha')
    refine ⟨b :: rest, ?_⟩
    rw [List.mapM_cons, hb, hrest]
    rfl

private theorem mem_nodeIds_of_fixed (h : fixedQuarantineNodes step = .ok nodes) (hnode : node ∈ nodes) :
    node ∈ step.nodeIds := by
  unfold fixedQuarantineNodes at h
  split at h
  · cases h
    cases hnode
  · split at h
    · split at h
      · rename_i hall
        cases h
        simpa using List.all_eq_true.mp hall node hnode
      · cases h
    · cases h
  · cases h

/-- The holds of a plan can be read if every live quarantine lists its held nodes properly. -/
theorem exists_terminalQuarantineNodes :
    (∃ nodes, terminalQuarantineNodes workflow = .ok nodes) ↔
      ∀ index step, LiveStep workflow index step → step.operation = .quarantine →
        ∃ nodes, fixedQuarantineNodes step = .ok nodes := by
  unfold terminalQuarantineNodes
  dsimp only
  refine ⟨fun ⟨nodes, h⟩ index step hlive hop => ?_, fun h => ?_⟩
  · obtain ⟨explicit, hexplicit, -⟩ := bind_ok h
    obtain ⟨fixed, -, hfixed⟩ := (mapM_ok hexplicit).1 (step, index)
      (List.mem_filter.mpr ⟨mem_liveSteps.mpr hlive, by simp [hop]⟩)
    exact ⟨fixed, hfixed⟩
  · have hall : ∀ entry ∈ (liveSteps workflow).filter fun entry => entry.1.operation == .quarantine,
        ∃ nodes, fixedQuarantineNodes entry.1 = .ok nodes := by
      intro entry hentry
      obtain ⟨hlive, hop⟩ := List.mem_filter.mp hentry
      exact h entry.2 entry.1 (mem_liveSteps.mp hlive) (by simpa using hop)
    obtain ⟨explicit, hexplicit⟩ := exists_mapM_ok hall
    exact ⟨_, by rw [hexplicit]; rfl⟩

/-- A plan holds the nodes it holds explicitly, and those it quarantines and never readmits. -/
theorem mem_terminalQuarantineNodes (h : terminalQuarantineNodes workflow = .ok nodes) :
    node ∈ nodes ↔ HeldExplicitly workflow node ∨
      (NamedBy workflow .quarantine node ∧ ¬ NamedBy workflow .restoreScheduling node) := by
  unfold terminalQuarantineNodes at h
  dsimp only at h
  obtain ⟨explicit, hexplicit, h⟩ := bind_ok h
  cases h
  obtain ⟨hforth, hback⟩ := mapM_ok hexplicit
  have hnamed : ∀ operation, node ∈ ((liveSteps workflow).filter fun entry => entry.1.operation == operation).flatMap
      (fun entry => entry.1.nodeIds) ↔ NamedBy workflow operation node := by
    intro operation
    simp only [List.mem_flatMap, List.mem_filter, beq_iff_eq, Prod.exists, mem_liveSteps, NamedBy]
    constructor
    · rintro ⟨step, index, ⟨hlive, hop⟩, hnode⟩
      exact ⟨index, step, hlive, hop, hnode⟩
    · rintro ⟨index, step, hlive, hop, hnode⟩
      exact ⟨step, index, ⟨hlive, hop⟩, hnode⟩
  have hheld : node ∈ explicit.flatten ↔ HeldExplicitly workflow node := by
    rw [List.mem_flatten]
    constructor
    · rintro ⟨fixed, hfixed, hnode⟩
      obtain ⟨⟨step, index⟩, hentry, hread⟩ := hback fixed hfixed
      obtain ⟨hlive, hop⟩ := List.mem_filter.mp hentry
      exact ⟨index, step, fixed, mem_liveSteps.mp hlive, by simpa using hop, hread, hnode⟩
    · rintro ⟨index, step, fixed, hlive, hop, hread, hnode⟩
      obtain ⟨fixed', hfixed', hread'⟩ := hforth (step, index)
        (List.mem_filter.mpr ⟨mem_liveSteps.mpr hlive, by simp [hop]⟩)
      cases hread.symm.trans hread'
      exact ⟨fixed, hfixed', hnode⟩
  have hquarantined := hnamed .quarantine
  have hreadmitted := hnamed .restoreScheduling
  rw [mem_sortedSet, List.mem_append, List.mem_filter, ← hheld, ← hquarantined, ← hreadmitted]
  simp

theorem namedBy_of_mem_terminalQuarantineNodes (h : terminalQuarantineNodes workflow = .ok nodes)
    (hnode : node ∈ nodes) :
    NamedBy workflow .quarantine node := by
  rcases (mem_terminalQuarantineNodes h).mp hnode with ⟨index, step, fixed, hlive, hop, hfixed, hin⟩ | ⟨hnamed, -⟩
  · exact ⟨index, step, hlive, hop, mem_nodeIds_of_fixed hfixed hin⟩
  · exact hnamed

/-- The steps a search below `i` does not give up on. -/
def isOtherStep (steps : List WorkflowStepSpec) (i x : Nat) : Bool := !(decide (steps.length ≤ x) || x == i)

theorem ancestorSearch_eq (fuel : Nat) (pending : List (Nat × Bool)) (ancestors visiting : List Nat) :
    ancestorSearch steps i fuel pending ancestors visiting =
      DepthFirst.search (stepDeps steps) (isOtherStep steps i) fuel pending ancestors visiting := by
  induction fuel generalizing pending ancestors visiting with
  | zero => rfl
  | succ fuel ih =>
    rcases pending with _ | ⟨⟨x, finished⟩, pending⟩
    · rfl
    unfold ancestorSearch DepthFirst.search
    simp only [isOtherStep, Bool.not_not, List.contains_iff_mem, ih]
    rfl

theorem sum_range_getElem? {α : Type} (f : Option α → Nat) (l : List α) :
    ∑ x ∈ Finset.range l.length, f l[x]? = (l.map fun a => f (some a)).sum := by
  induction l with
  | nil => rfl
  | cons a l ih =>
    rw [List.length_cons, Finset.sum_range_succ', List.map_cons, List.sum_cons, ← ih, Nat.add_comm]
    rfl

/-- The fuel of a search suffices: what it returns is what its loop returns. -/
theorem returns_dependencyAncestors (hdag : workflow.dagEnabled = true) :
    DepthFirst.Returns (stepDeps workflow.officialSteps) (isOtherStep workflow.officialSteps i)
      (DepthFirst.pushed (stepDeps workflow.officialSteps) i) [] [] (dependencyAncestors workflow i) := by
  unfold dependencyAncestors
  rw [if_pos hdag, ancestorSearch_eq]
  refine DepthFirst.returns_search_start (Finset.range workflow.officialSteps.length) (fun x hx => ?_) ?_
  · simp only [isOtherStep, Bool.not_eq_true', Bool.or_eq_false_iff, decide_eq_false_iff_not, not_le] at hx
    exact Finset.mem_range.mpr hx.1
  · have hsum :=
      sum_range_getElem? (fun step => ((step.map WorkflowStepSpec.dependsOnStepIndexes).getD []).length + 1)
      workflow.officialSteps
    exact Nat.lt_succ_of_le (Nat.add_le_add_left hsum.le _)

private theorem waitsFor_of_mem_dependencyAncestors (h : j ∈ dependencyAncestors workflow i) :
    WaitsFor workflow i j := by
  unfold WaitsFor
  split
  · rename_i hdag
    exact ((returns_dependencyAncestors hdag).mem_iff.mp h).2
  · rename_i hflat
    unfold dependencyAncestors at h
    rw [if_neg hflat] at h
    exact List.mem_range.mp h

/-- A node is replaced before a step if a live REPLACE_NODE among the ancestors of the step names it. -/
theorem mem_replacementAncestors_iff : node ∈ replacementAncestors workflow i ↔
    ∃ j step, LiveStep workflow j step ∧ step.operation = .replaceNode ∧ node ∈ step.nodeIds ∧
      j ∈ dependencyAncestors workflow i := by
  simp only [replacementAncestors, List.mem_flatMap, List.mem_filter, Bool.not_eq_true', ← Bool.not_eq_true,
    List.contains_iff_mem]
  constructor
  · rintro ⟨j, ⟨hancestor, hlive⟩, hnode⟩
    cases hstep : workflow.officialSteps[j]? with
    | none => simp [hstep] at hnode
    | some step =>
      by_cases hop : step.operation = .replaceNode
      · simp only [hstep, hop, beq_self_eq_true, if_true] at hnode
        exact ⟨j, step, ⟨hstep, hlive⟩, hop, hnode, hancestor⟩
      · simp [hstep, hop] at hnode
  · rintro ⟨j, step, ⟨hstep, hlive⟩, hop, hnode, hancestor⟩
    refine ⟨j, ⟨hancestor, hlive⟩, ?_⟩
    simpa [hstep, hop] using hnode

private theorem mem_replacementAncestors (h : node ∈ replacementAncestors workflow i) :
    ∃ j step, LiveStep workflow j step ∧ step.operation = .replaceNode ∧ node ∈ step.nodeIds ∧
      WaitsFor workflow i j := by
  obtain ⟨j, step, hlive, hop, hnode, hancestor⟩ := mem_replacementAncestors_iff.mp h
  exact ⟨j, step, hlive, hop, hnode, waitsFor_of_mem_dependencyAncestors hancestor⟩

end Reading

/-! ### Inserted quarantines -/

/-- A quarantine that says itself which of `held` it holds: all of its nodes. -/
structure InsertedHold (held : List String) (step : WorkflowStepSpec) : Prop where
  operation : step.operation = .quarantine
  fixed : fixedQuarantineNodes step = .ok step.nodeIds
  within : ∀ node ∈ step.nodeIds, node ∈ held

private theorem InsertedHold.edges {held : List String} {step : WorkflowStepSpec} (h : InsertedHold held step)
    (dependencies : List Nat) : InsertedHold held { step with dependsOnStepIndexes := dependencies } :=
  ⟨h.operation, h.fixed, h.within⟩

/-- `steps'` is `steps` with steps of a kind inserted: the step at `i` is found at `place i`, with its edges and its
state. -/
structure PlacedIn (Inserted : WorkflowStepSpec → Prop) (steps : List WorkflowStepSpec) (superseded : List Nat)
    (steps' : List WorkflowStepSpec) (superseded' : List Nat) (place : Nat → Nat) : Prop where
  mono : StrictMono place
  forth : ∀ i step, steps[i]? = some step → ∃ dependencies,
    steps'[place i]? = some { step with dependsOnStepIndexes := dependencies } ∧
      ∀ j ∈ step.dependsOnStepIndexes, place j ∈ dependencies
  back : ∀ i' step', steps'[i']? = some step' →
    (∃ i step, i' = place i ∧ steps[i]? = some step ∧
      step' = { step with dependsOnStepIndexes := step'.dependsOnStepIndexes }) ∨
    (i' ∉ superseded' ∧ Inserted step')
  superseded : ∀ i, place i ∈ superseded' ↔ i ∈ superseded

section Inserting

variable {Inserted : WorkflowStepSpec → Prop} {held nodes missing missing' : List String}
  {steps steps' steps'' templates : List WorkflowStepSpec}
  {superseded superseded' superseded'' : List Nat} {place place' : Nat → Nat} {template step : WorkflowStepSpec}
  {candidate : WorkflowRequest} {node : String} {i j : Nat}

theorem PlacedIn.refl (Inserted : WorkflowStepSpec → Prop) (steps : List WorkflowStepSpec) (superseded : List Nat) :
    PlacedIn Inserted steps superseded steps superseded id where
  mono := strictMono_id
  forth _ step h := ⟨step.dependsOnStepIndexes, h, fun _ hj => hj⟩
  back i step h := .inl ⟨i, step, rfl, h, rfl⟩
  superseded _ := Iff.rfl

theorem PlacedIn.trans (hedges : ∀ step, Inserted step → ∀ dependencies,
      Inserted { step with dependsOnStepIndexes := dependencies })
    (h : PlacedIn Inserted steps superseded steps' superseded' place)
    (h' : PlacedIn Inserted steps' superseded' steps'' superseded'' place') :
    PlacedIn Inserted steps superseded steps'' superseded'' (place' ∘ place) where
  mono := h'.mono.comp h.mono
  forth i step hstep := by
    obtain ⟨dependencies, hplaced, hkept⟩ := h.forth i step hstep
    obtain ⟨dependencies', hplaced', hkept'⟩ := h'.forth _ _ hplaced
    exact ⟨dependencies', hplaced', fun j hj => hkept' _ (hkept j hj)⟩
  back i'' step'' hstep := by
    rcases h'.back i'' step'' hstep with ⟨i', step', rfl, hstep', hsame'⟩ | hinserted
    · rcases h.back i' step' hstep' with ⟨i, step, rfl, hold, hsame⟩ | ⟨hlive, hinserted⟩
      · refine .inl ⟨i, step, rfl, hold, ?_⟩
        rw [hsame', hsame]
      · refine .inr ⟨fun hs => hlive ((h'.superseded i').mp hs), ?_⟩
        rw [hsame']
        exact hedges step' hinserted step''.dependsOnStepIndexes
    · exact .inr hinserted
  superseded i := (h'.superseded (place i)).trans (h.superseded i)

private theorem nonemptyStrings?_map_str (h : "" ∉ nodes) :
    Json.nonemptyStrings? (nodes.map Json.str) = some nodes := by
  induction nodes with
  | nil => rfl
  | cons node nodes ih =>
    rw [List.mem_cons, not_or] at h
    rw [List.map_cons, Json.nonemptyStrings?, if_neg fun he => h.1 he.symm, ih h.2]
    rfl

/-- A list of names under the hold key reads back as these names. -/
theorem fixedQuarantineNodes_of_get?
    (hget : step.parameters.get? terminalQuarantineNodesKey = some (.arr (nodes.map Json.str))) (hnamed : "" ∉ nodes)
    (hwithin : ∀ node ∈ nodes, node ∈ step.nodeIds) : fixedQuarantineNodes step = .ok nodes := by
  unfold fixedQuarantineNodes
  rw [hget]
  dsimp only
  rw [nonemptyStrings?_map_str hnamed]
  dsimp only
  rw [if_pos]
  simpa [List.all_eq_true] using hwithin

theorem quarantinePosition_le (steps : List WorkflowStepSpec) : quarantinePosition steps ≤ steps.length :=
  (List.takeWhile_prefix _).length_le

private theorem strictMono_shiftIndex (insertAt : Nat) : StrictMono (shiftIndex insertAt) := by
  intro i j h
  unfold shiftIndex
  split <;> split <;> omega

private theorem shiftIndex_ne (insertAt i : Nat) : shiftIndex insertAt i ≠ insertAt := by
  unfold shiftIndex
  split <;> omega

private theorem eq_or_exists_shiftIndex (insertAt i : Nat) : i = insertAt ∨ ∃ j, i = shiftIndex insertAt j := by
  rcases Nat.lt_trichotomy i insertAt with h | h | h
  · exact .inr ⟨i, by rw [shiftIndex, if_neg (by omega)]⟩
  · exact .inl h
  · exact .inr ⟨i - 1, by rw [shiftIndex, if_pos (by omega)]; omega⟩

theorem getElem?_insertIdx_shiftIndex (l : List WorkflowStepSpec) (insertAt i : Nat) (step : WorkflowStepSpec) :
    (l.insertIdx insertAt step)[shiftIndex insertAt i]? = l[i]? := by
  unfold shiftIndex
  split
  · rw [List.getElem?_insertIdx_of_gt (by omega), Nat.add_sub_cancel]
  · rw [List.getElem?_insertIdx_of_lt (by omega)]

def shiftedDeps (insertAt index : Nat) (step : WorkflowStepSpec) : List Nat :=
  sortedSet (if insertAt ≤ index then insertAt :: step.dependsOnStepIndexes.map (shiftIndex insertAt)
    else step.dependsOnStepIndexes.map (shiftIndex insertAt))

def insertedQuarantine (template : WorkflowStepSpec) (nodes : List String) (insertAt : Nat) : WorkflowStepSpec :=
  { template with
    nodeIds := sortedSet nodes
    gpuUuids := []
    workloadIds := []
    parameters := [(terminalQuarantineNodesKey, .arr ((sortedSet nodes).map Json.str))]
    dependsOnStepIndexes := List.range insertAt
    branchId := none
    branchNodeIds := [] }

theorem insertQuarantine_fst (steps : List WorkflowStepSpec) (superseded : List Nat) (template : WorkflowStepSpec)
    (nodes : List String) : (insertQuarantine steps superseded template nodes).1 =
      (steps.zipIdx.map fun entry => { entry.1 with
        dependsOnStepIndexes := shiftedDeps (quarantinePosition steps) entry.2 entry.1 }).insertIdx
        (quarantinePosition steps) (insertedQuarantine template nodes (quarantinePosition steps)) := rfl

private theorem insertedQuarantine_holds (hop : template.operation = .quarantine) (hnamed : "" ∉ nodes)
    (hheld : ∀ node ∈ nodes, node ∈ held) (insertAt : Nat) :
    InsertedHold held (insertedQuarantine template nodes insertAt) := by
  refine ⟨hop, fixedQuarantineNodes_of_get? ?_ (fun h => hnamed (mem_sortedSet.mp h)) fun _ h => h,
    fun node h => hheld node (mem_sortedSet.mp h)⟩
  simp [insertedQuarantine, Details.get?]

/-- One insertion. -/
theorem placedIn_insertQuarantine
    (hinserted : Inserted (insertedQuarantine template nodes (quarantinePosition steps))) :
    PlacedIn Inserted steps superseded (insertQuarantine steps superseded template nodes).1
      (insertQuarantine steps superseded template nodes).2 (shiftIndex (quarantinePosition steps)) := by
  have hget : ∀ i, (insertQuarantine steps superseded template nodes).1[shiftIndex (quarantinePosition steps) i]? =
      (steps[i]?).map fun step => { step with
        dependsOnStepIndexes := shiftedDeps (quarantinePosition steps) i step } := by
    intro i
    rw [insertQuarantine_fst, getElem?_insertIdx_shiftIndex]
    simp [List.getElem?_zipIdx, Option.map_map, Function.comp_def]
  refine ⟨strictMono_shiftIndex _, fun i step hstep => ?_, fun i' step' hstep' => ?_, fun i => ?_⟩
  · refine ⟨shiftedDeps (quarantinePosition steps) i step, ?_, fun j hj => ?_⟩
    · rw [hget, hstep]
      rfl
    · have hmem := List.mem_map_of_mem (f := shiftIndex (quarantinePosition steps)) hj
      unfold shiftedDeps
      split
      · exact mem_sortedSet.mpr (List.mem_cons_of_mem _ hmem)
      · exact mem_sortedSet.mpr hmem
  · rcases eq_or_exists_shiftIndex (quarantinePosition steps) i' with rfl | ⟨i, rfl⟩
    · have hself : step' = insertedQuarantine template nodes (quarantinePosition steps) := by
        rw [insertQuarantine_fst, List.getElem?_insertIdx_self, if_pos (by simpa using quarantinePosition_le steps)]
          at hstep'
        exact (Option.some.inj hstep').symm
      refine .inr ⟨fun hs => ?_, hself ▸ hinserted⟩
      obtain ⟨i, -, hi⟩ := List.mem_map.mp hs
      exact shiftIndex_ne _ _ hi
    · rw [hget] at hstep'
      obtain ⟨step, hstep, rfl⟩ := Option.map_eq_some_iff.mp hstep'
      exact .inl ⟨i, step, rfl, hstep, rfl⟩
  · refine ⟨fun h => ?_, fun h => List.mem_map_of_mem h⟩
    obtain ⟨j, hj, he⟩ := List.mem_map.mp h
    rw [(strictMono_shiftIndex _).injective he] at hj
    exact hj

/-- The inserted step names the nodes it was inserted for. -/
theorem getElem?_insertQuarantine (steps : List WorkflowStepSpec) (superseded : List Nat)
    (template : WorkflowStepSpec) (nodes : List String) :
    (insertQuarantine steps superseded template nodes).1[quarantinePosition steps]? =
      some (insertedQuarantine template nodes (quarantinePosition steps)) := by
  rw [insertQuarantine_fst, List.getElem?_insertIdx_self, if_pos (by simpa using quarantinePosition_le steps)]

/-- The insertions of a merge: the old steps are placed, and a missing node stays missing only if no template names
it. -/
theorem insertMissing_ok (hedges : ∀ step, Inserted step → ∀ dependencies,
      Inserted { step with dependsOnStepIndexes := dependencies })
    (hinserted : ∀ template ∈ templates, ∀ nodes, (∀ node ∈ nodes, node ∈ missing) → ∀ insertAt,
      Inserted (insertedQuarantine template nodes insertAt))
    (h : insertMissing candidate templates steps superseded missing = .ok (steps', superseded', missing')) :
    ∃ place, PlacedIn Inserted steps superseded steps' superseded' place ∧
      (∀ node ∈ missing', node ∈ missing ∧ ∀ template ∈ templates, node ∉ template.nodeIds) ∧
      ∀ node ∈ missing, node ∈ missing' ∨
        ∃ index step, steps'[index]? = some step ∧ index ∉ superseded' ∧ Inserted step ∧ node ∈ step.nodeIds := by
  induction templates generalizing steps superseded missing with
  | nil =>
    cases h
    exact ⟨id, .refl Inserted _ _, fun node hnode => ⟨hnode, by simp⟩, fun node hnode => .inl hnode⟩
  | cons template templates ih =>
    have hrest : ∀ other ∈ templates, ∀ nodes, (∀ node ∈ nodes, node ∈ missing) → ∀ insertAt,
        Inserted (insertedQuarantine other nodes insertAt) :=
      fun other hother => hinserted other (List.mem_cons_of_mem _ hother)
    unfold insertMissing at h
    dsimp only at h
    split at h
    · rename_i hnone
      obtain ⟨place, hplaced, hleft, hcovered⟩ := ih hrest h
      refine ⟨place, hplaced, fun node hnode => ?_, hcovered⟩
      obtain ⟨hin, htemplates⟩ := hleft node hnode
      refine ⟨hin, fun other hother hnames => ?_⟩
      rcases List.mem_cons.mp hother with rfl | hother
      · have hmem : node ∈ missing.filter other.nodeIds.contains := by simp [hin, hnames]
        rw [List.isEmpty_iff.mp hnone] at hmem
        cases hmem
      · exact htemplates other hother hnames
    split at h
    · cases h
    · have hself := hinserted template List.mem_cons_self (missing.filter template.nodeIds.contains)
        (fun node hnode => (List.mem_filter.mp hnode).1) (quarantinePosition steps)
      have hplaced := @placedIn_insertQuarantine Inserted (missing.filter template.nodeIds.contains) steps superseded
        template hself
      obtain ⟨place, hplaced', hleft, hcovered⟩ := ih (fun other hother nodes hnodes =>
        hrest other hother nodes fun node hnode => (List.mem_filter.mp (hnodes node hnode)).1) h
      refine ⟨_, hplaced.trans hedges hplaced', fun node hnode => ?_, fun node hnode => ?_⟩
      · obtain ⟨hstill, htemplates⟩ := hleft node hnode
        have hin : node ∈ missing ∧ node ∉ template.nodeIds := by
          have hstill' := List.mem_filter.mp hstill
          refine ⟨hstill'.1, fun hnames => ?_⟩
          simp [hstill'.1, hnames] at hstill'
        refine ⟨hin.1, fun other hother => ?_⟩
        rcases List.mem_cons.mp hother with rfl | hother
        · exact hin.2
        · exact htemplates other hother
      by_cases htemplate : node ∈ template.nodeIds
      · -- the step inserted for this template is placed by the insertions that follow
        have hget := getElem?_insertQuarantine steps superseded template (missing.filter template.nodeIds.contains)
        obtain ⟨dependencies, hget, -⟩ := hplaced'.forth _ _ hget
        refine .inr ⟨_, _, hget, fun hs => ?_, ?_, mem_sortedSet.mpr (by simp [hnode, htemplate])⟩
        · obtain ⟨i, -, hi⟩ := List.mem_map.mp ((hplaced'.superseded _).mp hs)
          exact shiftIndex_ne _ _ hi
        · exact hedges _ hself dependencies
      · exact hcovered node (by simp [hnode, htemplate])

private theorem exists_insertMissing (hcompleted : candidate.completedStepIndexes = [])
    (hrecords : candidate.stepExecutions = []) :
    ∃ result, insertMissing candidate templates steps superseded missing = .ok result := by
  induction templates generalizing steps superseded missing with
  | nil => exact ⟨_, rfl⟩
  | cons template templates ih =>
    unfold insertMissing
    dsimp only
    split
    · exact ih
    · rw [if_neg (by simp [hcompleted, hrecords])]
      exact ih

end Inserting

/-! ### The steps of the candidate -/

/-- A step of the candidate before insertions: narrowed, then marked. -/
def inheritedStep (candidate : WorkflowRequest) (required : List String) (superseded : List Nat) (index : Nat)
    (step : WorkflowStepSpec) : WorkflowStepSpec :=
  markHeld candidate required superseded (suppressStep candidate required step index).1 index

section Candidate

variable {candidate : WorkflowRequest} {required nodes : List String} {superseded : List Nat}
  {step : WorkflowStepSpec}
  {node : String} {index : Nat}

theorem markHeld_shape (step : WorkflowStepSpec) (index : Nat) :
    (markHeld candidate required superseded step index).operation = step.operation ∧
      (markHeld candidate required superseded step index).nodeIds = step.nodeIds ∧
      (markHeld candidate required superseded step index).dependsOnStepIndexes = step.dependsOnStepIndexes := by
  unfold markHeld
  dsimp only
  split <;> exact ⟨rfl, rfl, rfl⟩

theorem inheritedStep_operation (step : WorkflowStepSpec) :
    (inheritedStep candidate required superseded index step).operation = step.operation :=
  (markHeld_shape _ _).1.trans (suppressStep_shape _ _ _ _).1

theorem inheritedStep_deps (step : WorkflowStepSpec) :
    (inheritedStep candidate required superseded index step).dependsOnStepIndexes = step.dependsOnStepIndexes :=
  (markHeld_shape _ _).2.2.trans (suppressStep_shape _ _ _ _).2

/-- Only readmissions and restarts are touched by the suppression. -/
theorem suppressStep_other (hrestore : step.operation ≠ .restoreScheduling)
    (hrestart : step.operation ≠ .restartWorkload) :
    suppressStep candidate required step index = (step, false) := by
  simp [suppressStep, hrestore, hrestart]

/-- A pending readmission loses the held nodes it may not readmit; it is retired if no node is left. -/
theorem suppressStep_readmission (hop : step.operation = .restoreScheduling)
    (hpending : index ∉ submittedStepIndexes candidate) :
    ((suppressStep candidate required step index).2 = true → ∀ node ∈ step.nodeIds, node ∈ required) ∧
      ((suppressStep candidate required step index).2 = false → ∀ node,
        node ∈ (suppressStep candidate required step index).1.nodeIds ↔
          node ∈ step.nodeIds ∧ (node ∈ required → node ∈ replacementAncestors candidate index)) := by
  unfold suppressStep
  dsimp only
  split
  · rename_i hskip
    have hfree : ∀ node ∈ step.nodeIds, node ∉ required := by
      simpa [hop, hpending] using hskip
    refine ⟨fun h => (Bool.false_ne_true h).elim,
      fun _ node => ⟨fun h => ⟨h, fun hr => absurd hr (hfree node h)⟩, And.left⟩⟩
  split
  · rename_i hreplaced
    have hreplaced' : ∀ node ∈ step.nodeIds, node ∈ required → node ∈ replacementAncestors candidate index := by
      simpa using hreplaced
    exact ⟨fun h => (Bool.false_ne_true h).elim, fun _ node => ⟨fun h => ⟨h, hreplaced' node h⟩, And.left⟩⟩
  rw [if_pos (by simp [hop])]
  split
  · rename_i hnone
    refine ⟨fun _ node hnode => ?_, fun h => (Bool.false_ne_true h.symm).elim⟩
    by_contra hother
    have hleft : node ∈ step.nodeIds.filter fun node =>
        !(required.filter fun node => !(replacementAncestors candidate index).contains node).contains node := by
      simp [hnode, hother]
    rw [List.isEmpty_iff.mp hnone] at hleft
    cases hleft
  · refine ⟨fun h => (Bool.false_ne_true h).elim, fun _ node => ?_⟩
    simp only [mem_sortedSet, List.mem_filter, Bool.not_eq_true', ← Bool.not_eq_true, List.contains_iff_mem, not_and,
      not_not]

/-- A live quarantine of the candidate lists required nodes, and each it names other than behind its replacement. -/
theorem fixed_inheritedStep (hop : step.operation = .quarantine)
    (hlive : index ∉ superseded) (hpending : index ∉ submittedStepIndexes candidate) (hnamed : "" ∉ required)
    (hfixed : fixedQuarantineNodes step = .ok nodes) (hknown : ∀ node ∈ nodes, node ∈ required) :
    ∃ fixed, fixedQuarantineNodes (inheritedStep candidate required superseded index step) = .ok fixed ∧
      (∀ node ∈ fixed, node ∈ required ∧ node ∈ step.nodeIds) ∧
      ∀ node ∈ required, node ∈ step.nodeIds → node ∉ replacementAncestors candidate index → node ∈ fixed := by
  have hkept : suppressStep candidate required step index = (step, false) :=
    suppressStep_other (by simp [hop]) (by simp [hop])
  unfold inheritedStep
  rw [hkept]
  unfold markHeld
  dsimp only
  split
  · rename_i hskip
    refine ⟨nodes, hfixed, fun node h => ⟨hknown node h, mem_nodeIds_of_fixed hfixed h⟩,
      fun node hnode hin hclear => ?_⟩
    simp only [Bool.or_eq_true, List.contains_iff_mem, hlive, hpending, false_or, or_false, hop,
      WorkflowOperation.semantics, Bool.false_eq_true, List.isEmpty_iff, List.filter_eq_nil_iff] at hskip
    exact absurd (by simp [hclear]) (hskip node (by simp [hnode, hin]))
  · refine ⟨_, fixedQuarantineNodes_of_get? (Details.get?_set_self _ _ _) ?_ ?_, fun node h => ?_,
      fun node hnode hin hclear => ?_⟩
    · intro h
      simp only [mem_sortedSet, List.mem_filter] at h
      exact hnamed h.1.1
    · intro node h
      simp only [mem_sortedSet, List.mem_filter, List.contains_iff_mem] at h
      exact h.1.2
    · simp only [mem_sortedSet, List.mem_filter, List.contains_iff_mem] at h
      exact h.1
    · simp [hnode, hin, hclear]

private theorem fixedQuarantineNodes_inheritedStep (hop : step.operation = .quarantine)
    (hlive : index ∉ superseded) (hpending : index ∉ submittedStepIndexes candidate) (hnamed : "" ∉ required)
    (hreplaced : ∀ node ∈ step.nodeIds, node ∉ replacementAncestors candidate index)
    (hfixed : fixedQuarantineNodes step = .ok nodes) (hknown : ∀ node ∈ nodes, node ∈ required) :
    ∃ fixed, fixedQuarantineNodes (inheritedStep candidate required superseded index step) = .ok fixed ∧
      ∀ node, node ∈ fixed ↔ node ∈ required ∧ node ∈ step.nodeIds := by
  obtain ⟨fixed, hread, hwithin, hlists⟩ := fixed_inheritedStep hop hlive hpending hnamed hfixed hknown
  exact ⟨fixed, hread, fun node => ⟨hwithin node, fun h => hlists node h.1 h.2 (hreplaced node h.2)⟩⟩

end Candidate

/-! ### The merged plan -/

def requiredHolds (held own : List String) : List String := sortedSet (held ++ own)

def leftOut (candidate : WorkflowRequest) (required : List String) : List Nat :=
  sortedSet (candidate.supersededStepIndexes ++ (suppressReadmission candidate candidate.officialSteps required).2)

def inheritedSteps (candidate : WorkflowRequest) (required : List String) : List WorkflowStepSpec :=
  (suppressReadmission candidate candidate.officialSteps required).1.zipIdx.map fun entry =>
    markHeld candidate required (leftOut candidate required) entry.1 entry.2

def coveredNodes (candidate : WorkflowRequest) (required : List String) : List String :=
  ((suppressReadmission candidate candidate.officialSteps required).1.zipIdx.filter fun entry =>
    !(leftOut candidate required).contains entry.2 && entry.1.operation == .quarantine).flatMap
      fun entry => entry.1.nodeIds

def quarantineTemplates (existing : WorkflowRequest) : List WorkflowStepSpec :=
  ((liveSteps existing).map Prod.fst).filter fun step => step.operation == .quarantine

/-- What a merge makes of a candidate that has not started. -/
structure InheritedPlan (candidate result : WorkflowRequest) (required : List String) (place : Nat → Nat) : Prop where
  dagEnabled : result.dagEnabled = candidate.dagEnabled
  placed :
    PlacedIn (InsertedHold required) (inheritedSteps candidate required) (leftOut candidate required)
    result.officialSteps
    result.supersededStepIndexes place
  held : ∀ node ∈ required,
    (∃ index step, LiveStep candidate index step ∧ index ∉ leftOut candidate required ∧ step.operation = .quarantine ∧
      node ∈ step.nodeIds) ∨
    ∃ index step, LiveStep result index step ∧ InsertedHold required step ∧ node ∈ step.nodeIds

section Merge

variable {existing candidate result : WorkflowRequest} {required held own : List String} {place : Nat → Nat}
  {step step' : WorkflowStepSpec} {node : String} {i j : Nat}

theorem getElem?_suppressReadmission (steps : List WorkflowStepSpec) (i : Nat) :
    (suppressReadmission candidate steps required).1[i]? =
      (steps[i]?).map fun step => (suppressStep candidate required step i).1 := by
  simp only [suppressReadmission, List.getElem?_map, List.getElem?_zipIdx]
  cases steps[i]? <;> simp

theorem getElem?_inheritedSteps (i : Nat) : (inheritedSteps candidate required)[i]? =
    (candidate.officialSteps[i]?).map (inheritedStep candidate required (leftOut candidate required) i) := by
  simp only [inheritedSteps, List.getElem?_map, List.getElem?_zipIdx, getElem?_suppressReadmission]
  cases candidate.officialSteps[i]? <;> simp [inheritedStep]

theorem mem_leftOut : i ∈ leftOut candidate required ↔ i ∈ candidate.supersededStepIndexes ∨
    ∃ step, candidate.officialSteps[i]? = some step ∧ (suppressStep candidate required step i).2 = true := by
  simp [leftOut, suppressReadmission, List.mem_zipIdx_iff_getElem?]

theorem quarantine_of_mem_templates (h : step ∈ quarantineTemplates existing) : step.operation = .quarantine := by
  simpa using (List.mem_filter.mp h).2

/-- What a merge that succeeds makes of a candidate: its own plan if nothing is held, else its plan with the holds. -/
theorem inheritTerminalQuarantine_ok (h : inheritTerminalQuarantine existing candidate = .ok result) :
    ∃ held own, terminalQuarantineNodes existing = .ok held ∧ terminalQuarantineNodes candidate = .ok own ∧
      ((requiredHolds held own = [] ∧ result = candidate) ∨
        ∃ steps superseded missing, insertMissing candidate (quarantineTemplates existing)
            (inheritedSteps candidate (requiredHolds held own)) (leftOut candidate (requiredHolds held own))
            ((requiredHolds held own).filter fun node =>
              !(coveredNodes candidate (requiredHolds held own)).contains node) = .ok (steps, superseded, missing) ∧
          ∃ superseded', (∀ i, i ∈ superseded' ↔ i ∈ superseded) ∧
            result = { candidate with officialSteps := steps, supersededStepIndexes := superseded' }) := by
  unfold inheritTerminalQuarantine at h
  obtain ⟨held, hheld, h⟩ := bind_ok h
  obtain ⟨own, hown, h⟩ := bind_ok h
  refine ⟨held, own, hheld, hown, ?_⟩
  change (if (requiredHolds held own).isEmpty then _ else _) = _ at h
  split at h
  · rename_i hnone
    exact .inl ⟨List.isEmpty_iff.mp hnone, (Except.ok.inj h).symm⟩
  · change
      ((insertMissing candidate (quarantineTemplates existing) (inheritedSteps candidate (requiredHolds held own))
      (leftOut candidate (requiredHolds held own)) ((requiredHolds held own).filter fun node =>
        !(coveredNodes candidate (requiredHolds held own)).contains node)) >>= _) = _ at h
    obtain ⟨⟨steps, superseded, missing⟩, hinsert, h⟩ := bind_ok h
    refine .inr ⟨steps, superseded, missing, hinsert, ?_⟩
    dsimp only at h
    split at h
    · cases h
    dsimp only [Bind.bind, Except.bind, pure, Except.pure] at h
    split at h
    · rename_i hsame
      simp only [Bool.and_eq_true, beq_iff_eq] at hsame
      refine ⟨candidate.supersededStepIndexes, fun i => ?_, ?_⟩
      · rw [hsame.2, mem_sortedSet]
      · rw [hsame.1, ← Except.ok.inj h]
    · exact ⟨sortedSet superseded, fun i => mem_sortedSet, (Except.ok.inj h).symm⟩

/-- A quarantine is never retired. -/
theorem not_mem_leftOut_of_quarantine (h : LiveStep candidate i step) (hop : step.operation = .quarantine) :
    i ∉ leftOut candidate required := by
  rw [mem_leftOut]
  rintro (hs | ⟨step', hstep', hretired⟩)
  · exact h.2 hs
  · cases h.1.symm.trans hstep'
    rw [suppressStep_other (by simp [hop]) (by simp [hop])] at hretired
    cases hretired

theorem PlacedIn.congr {steps steps' : List WorkflowStepSpec} {superseded superseded' superseded'' : List Nat}
    {Inserted : WorkflowStepSpec → Prop} (h : PlacedIn Inserted steps superseded steps' superseded' place)
    (hs : ∀ i, i ∈ superseded'' ↔ i ∈ superseded') :
    PlacedIn Inserted steps superseded steps' superseded'' place where
  mono := h.mono
  forth := h.forth
  back i' step' hstep' := (h.back i' step' hstep').imp_right fun ⟨hlive, hinserted⟩ =>
    ⟨fun hs' => hlive ((hs i').mp hs'), hinserted⟩
  superseded i := (hs (place i)).trans (h.superseded i)

/-- The nodes the quarantines of the candidate name are covered. -/
theorem mem_coveredNodes : node ∈ coveredNodes candidate required ↔
    ∃ index step, LiveStep candidate index step ∧ step.operation = .quarantine ∧ node ∈ step.nodeIds := by
  have hkept :
      ∀ step index, step.operation = .quarantine → suppressStep candidate required step index = (step, false) :=
    fun step index hop => suppressStep_other (by simp [hop]) (by simp [hop])
  simp only [coveredNodes, List.mem_flatMap, List.mem_filter, Prod.exists, List.mem_zipIdx_iff_getElem?,
    getElem?_suppressReadmission, Option.map_eq_some_iff, Bool.and_eq_true, beq_iff_eq, Bool.not_eq_true',
    ← Bool.not_eq_true, List.contains_iff_mem]
  constructor
  · rintro ⟨-, index, ⟨⟨step, hstep, rfl⟩, hlive, hkind⟩, hnode⟩
    have hop : step.operation = .quarantine := (suppressStep_shape _ _ _ _).1.symm.trans hkind
    rw [hkept step index hop] at hnode
    exact ⟨index, step, ⟨hstep, fun hs => hlive (mem_leftOut.mpr (.inl hs))⟩, hop, hnode⟩
  · rintro ⟨index, step, hlive, hop, hnode⟩
    refine ⟨step, index, ⟨⟨step, hlive.1, ?_⟩, not_mem_leftOut_of_quarantine hlive hop, hop⟩, hnode⟩
    rw [hkept step index hop]

private theorem covered_or_template (hheld : terminalQuarantineNodes existing = .ok held)
    (hown : terminalQuarantineNodes candidate = .ok own) (hnode : node ∈ requiredHolds held own) :
    node ∈ coveredNodes candidate required ∨ ∃ template ∈ quarantineTemplates existing, node ∈ template.nodeIds := by
  rcases List.mem_append.mp (mem_sortedSet.mp hnode) with hin | hin
  · obtain ⟨index, step, hlive, hop, hnames⟩ := namedBy_of_mem_terminalQuarantineNodes hheld hin
    refine .inr ⟨step, List.mem_filter.mpr ⟨?_, by simp [hop]⟩, hnames⟩
    exact List.mem_map.mpr ⟨(step, index), mem_liveSteps.mpr hlive, rfl⟩
  · exact .inl (mem_coveredNodes.mpr (namedBy_of_mem_terminalQuarantineNodes hown hin))

/-- The templates and the candidate cover every required node. -/
theorem insertMissing_complete (hheld : terminalQuarantineNodes existing = .ok held)
    (hown : terminalQuarantineNodes candidate = .ok own) {steps steps' : List WorkflowStepSpec}
    {superseded superseded' : List Nat} {missing : List String}
    (h : insertMissing candidate (quarantineTemplates existing) steps superseded
      ((requiredHolds held own).filter fun node =>
      !(coveredNodes candidate required).contains node) = .ok (steps', superseded', missing)) : missing = [] := by
  obtain ⟨-, -, hleft, -⟩ := @insertMissing_ok (fun _ => True) _ _ _ _ _ _ _ candidate (fun _ _ _ => trivial)
    (fun _ _ _ _ _ => trivial) h
  rw [List.eq_nil_iff_forall_not_mem]
  intro node hnode
  obtain ⟨hmissing, hunnamed⟩ := hleft node hnode
  obtain ⟨hreq, huncovered⟩ := List.mem_filter.mp hmissing
  simp only [Bool.not_eq_true', ← Bool.not_eq_true, List.contains_iff_mem] at huncovered
  rcases @covered_or_template existing candidate required held own node hheld hown hreq with
    hcovered | ⟨template, htemplate, hnames⟩
  · exact huncovered hcovered
  · exact hunnamed template htemplate hnames

private theorem quarantine_inserted (hnamed : "" ∉ required) {missing : List String}
    (hmissing : ∀ node ∈ missing, node ∈ required)
    (template : WorkflowStepSpec) (htemplate : template ∈ quarantineTemplates existing) (nodes : List String)
    (hnodes : ∀ node ∈ nodes, node ∈ missing) (insertAt : Nat) :
    InsertedHold required (insertedQuarantine template nodes insertAt) :=
  insertedQuarantine_holds (quarantine_of_mem_templates htemplate)
    (fun hempty => hnamed (hmissing _ (hnodes _ hempty)))
    (fun node hnode => hmissing node (hnodes node hnode)) insertAt

/-- A plan with the missing quarantines inserted holds every required node. -/
theorem InheritedPlan.of_insertMissing (hnamed : "" ∉ required) {steps : List WorkflowStepSpec}
    {superseded : List Nat}
    (hinsert : insertMissing candidate (quarantineTemplates existing) (inheritedSteps candidate required)
      (leftOut candidate required) (required.filter fun node => !(coveredNodes candidate required).contains node) =
        .ok (steps, superseded, []))
    (hplaced : PlacedIn (InsertedHold required) (inheritedSteps candidate required) (leftOut candidate required) steps
      superseded place)
    (hdag : result.dagEnabled = candidate.dagEnabled) (hsteps : result.officialSteps = steps)
    (hsuperseded : ∀ i, i ∈ result.supersededStepIndexes ↔ i ∈ superseded) :
    InheritedPlan candidate result required place := by
  obtain ⟨-, -, -, hinserted⟩ := insertMissing_ok (fun step hstep => InsertedHold.edges hstep)
    (quarantine_inserted hnamed fun node hnode => (List.mem_filter.mp hnode).1) hinsert
  refine ⟨hdag, hsteps ▸ hplaced.congr hsuperseded, fun node hnode => ?_⟩
  by_cases hcovered : node ∈ coveredNodes candidate required
  · obtain ⟨index, step, hlive, hop, hnames⟩ := mem_coveredNodes.mp hcovered
    exact .inl ⟨index, step, hlive, not_mem_leftOut_of_quarantine hlive hop, hop, hnames⟩
  · rcases hinserted node (by simp [hnode, hcovered]) with hmissing | ⟨index, step, hstep, hlive, hhold, hnames⟩
    · cases hmissing
    · exact .inr ⟨index, step, ⟨hsteps ▸ hstep, fun hs => hlive ((hsuperseded index).mp hs)⟩, hhold, hnames⟩

/-- A candidate that has not started is merged, whatever the holds are. -/
private theorem exists_inheritTerminalQuarantine (hheld : terminalQuarantineNodes existing = .ok held)
    (hown : terminalQuarantineNodes candidate = .ok own) (hsome : requiredHolds held own ≠ [])
    (hnamed : "" ∉ requiredHolds held own) (hcompleted : candidate.completedStepIndexes = [])
    (hrecords : candidate.stepExecutions = []) :
    ∃ result place, inheritTerminalQuarantine existing candidate = .ok result ∧
      InheritedPlan candidate result (requiredHolds held own) place := by
  set required := requiredHolds held own with hrequired
  obtain ⟨⟨steps, superseded, missing⟩, hinsert⟩ := @exists_insertMissing
    (required.filter fun node => !(coveredNodes candidate required).contains node) (inheritedSteps candidate required)
    (quarantineTemplates existing) (leftOut candidate required) candidate hcompleted hrecords
  have hnone : missing = [] := insertMissing_complete hheld hown hinsert
  subst hnone
  obtain ⟨place, hplaced, -, -⟩ := insertMissing_ok (fun step hstep => InsertedHold.edges hstep)
    (quarantine_inserted hnamed fun node hnode => (List.mem_filter.mp hnode).1) hinsert
  have hrun : inheritTerminalQuarantine existing candidate =
      if steps == candidate.officialSteps && superseded == sortedSet candidate.supersededStepIndexes then
        .ok candidate
      else .ok { candidate with officialSteps := steps, supersededStepIndexes := sortedSet superseded } := by
    unfold inheritTerminalQuarantine
    rw [hheld, hown]
    change (if required.isEmpty then _ else _) = _
    rw [if_neg (by simpa using hsome)]
    change ((insertMissing candidate (quarantineTemplates existing) (inheritedSteps candidate required)
      (leftOut candidate required)
      (required.filter fun node => !(coveredNodes candidate required).contains node)) >>= _) = _
    rw [hinsert]
    rfl
  rw [hrun]
  split
  · rename_i hsame
    simp only [Bool.and_eq_true, beq_iff_eq] at hsame
    refine ⟨candidate, place, rfl, .of_insertMissing hnamed hinsert hplaced rfl hsame.1.symm fun i => ?_⟩
    rw [hsame.2, mem_sortedSet]
  · exact ⟨_, place, rfl, .of_insertMissing hnamed hinsert hplaced rfl rfl fun i => mem_sortedSet⟩

/-- A live step of the merged plan is a step of the candidate that was kept, or an inserted quarantine. -/
theorem InheritedPlan.liveStep (h : InheritedPlan candidate result required place) (hlive : LiveStep result i step') :
    (∃ k step, i = place k ∧ LiveStep candidate k step ∧ k ∉ leftOut candidate required ∧
      step'.operation = step.operation ∧ step'.nodeIds = (suppressStep candidate required step k).1.nodeIds ∧
      fixedQuarantineNodes step' =
        fixedQuarantineNodes (inheritedStep candidate required (leftOut candidate required) k step)) ∨
    InsertedHold required step' := by
  rcases h.placed.back i step' hlive.1 with ⟨k, marked, rfl, hmarked, hsame⟩ | ⟨-, hinserted⟩
  · rw [getElem?_inheritedSteps] at hmarked
    obtain ⟨step, hstep, rfl⟩ := Option.map_eq_some_iff.mp hmarked
    have hkept : k ∉ leftOut candidate required := fun hs => hlive.2 ((h.placed.superseded k).mpr hs)
    refine .inl ⟨k, step, rfl, ⟨hstep, fun hs => hkept (mem_leftOut.mpr (.inl hs))⟩, hkept, ?_, ?_, ?_⟩
    · rw [hsame]
      exact inheritedStep_operation step
    · rw [hsame]
      exact (markHeld_shape _ _).2.1
    · rw [hsame]
      rfl
  · exact .inr hinserted

/-- A kept step of the candidate is found in the merged plan. -/
theorem InheritedPlan.kept (h : InheritedPlan candidate result required place)
    (hstep : candidate.officialSteps[i]? = some step) (hkept : i ∉ leftOut candidate required) :
    ∃ step', LiveStep result (place i) step' ∧ step'.operation = step.operation ∧
      step'.nodeIds = (suppressStep candidate required step i).1.nodeIds ∧
      fixedQuarantineNodes step' =
        fixedQuarantineNodes (inheritedStep candidate required (leftOut candidate required) i step) := by
  have hmarked : (inheritedSteps candidate required)[i]? =
      some (inheritedStep candidate required (leftOut candidate required) i step) := by
    rw [getElem?_inheritedSteps, hstep]
    rfl
  obtain ⟨dependencies, hplaced, -⟩ := h.placed.forth i _ hmarked
  exact ⟨_, ⟨hplaced, fun hs => hkept ((h.placed.superseded i).mp hs)⟩, inheritedStep_operation step,
    (markHeld_shape _ _).2.1, rfl⟩

/-- Insertions keep what comes after what. -/
private theorem InheritedPlan.waitsFor (h : InheritedPlan candidate result required place)
    (hwaits : WaitsFor candidate i j) :
    WaitsFor result (place i) (place j) := by
  unfold WaitsFor at hwaits ⊢
  rw [h.dagEnabled]
  split at hwaits
  · rename_i hdag
    rw [if_pos hdag]
    refine Relation.TransGen.lift place (fun a b hb => ?_) i j hwaits
    cases hstep : candidate.officialSteps[a]? with
    | none => simp [stepDeps, hstep] at hb
    | some step =>
      have hmarked : (inheritedSteps candidate required)[a]? =
          some (inheritedStep candidate required (leftOut candidate required) a step) := by
        rw [getElem?_inheritedSteps, hstep]
        rfl
      obtain ⟨dependencies, hplaced, hedges⟩ := h.placed.forth a _ hmarked
      rw [inheritedStep_deps] at hedges
      have hb' : b ∈ step.dependsOnStepIndexes := by simpa [stepDeps, hstep] using hb
      have hdeps : stepDeps result.officialSteps (place a) = dependencies := by simp [stepDeps, hplaced]
      change place b ∈ stepDeps result.officialSteps (place a)
      rw [hdeps]
      exact hedges b hb'
  · rename_i hflat
    rw [if_neg hflat]
    exact h.placed.mono hwaits

end Merge

/-- No quarantine of the plan comes after a replacement of a node it names. -/
def QuarantinesUnreplaced (workflow : WorkflowRequest) : Prop :=
  ∀ i j quarantine replacement, workflow.officialSteps[i]? = some quarantine → quarantine.operation = .quarantine →
    workflow.officialSteps[j]? = some replacement → replacement.operation = .replaceNode → WaitsFor workflow i j →
    ∀ node ∈ quarantine.nodeIds, node ∉ replacement.nodeIds

/-- A candidate as it comes from the planner: nothing ran yet. -/
structure FreshCandidate (candidate : WorkflowRequest) : Prop where
  completed : candidate.completedStepIndexes = []
  records : candidate.stepExecutions = []
  unreplaced : QuarantinesUnreplaced candidate

section Holds

variable {existing candidate result : WorkflowRequest} {required held own : List String} {place : Nat → Nat}
  {step step' : WorkflowStepSpec} {node : String} {i : Nat}

/-- Nothing of a candidate that has not started was submitted. -/
theorem mem_submittedStepIndexes (hcompleted : candidate.completedStepIndexes = [])
    (hrecords : candidate.stepExecutions = []) :
    i ∈ submittedStepIndexes candidate ↔ i ∈ candidate.supersededStepIndexes := by
  simp [submittedStepIndexes, WorkflowRequest.resolvedStepIndexes, hcompleted, hrecords]

private theorem FreshCandidate.pending (h : FreshCandidate candidate) (hlive : LiveStep candidate i step) :
    i ∉ submittedStepIndexes candidate := by
  rw [mem_submittedStepIndexes h.completed h.records]
  exact hlive.2

private theorem FreshCandidate.unreplaced_at (h : FreshCandidate candidate) (hlive : LiveStep candidate i step)
    (hop : step.operation = .quarantine) : ∀ node ∈ step.nodeIds, node ∉ replacementAncestors candidate i := by
  intro node hnode hreplaced
  obtain ⟨j, replacement, hreplacement, hkind, hnames, hwaits⟩ := mem_replacementAncestors hreplaced
  exact h.unreplaced i j step replacement hlive.1 hop hreplacement.1 hkind hwaits node hnode hnames

private theorem InheritedPlan.fixed (h : InheritedPlan candidate result required place)
    (hfresh : FreshCandidate candidate) (hnamed : "" ∉ required) (hown : terminalQuarantineNodes candidate = .ok own)
    (hwithin : ∀ node ∈ own, node ∈ required) (hlive : LiveStep result i step')
    (hop : step'.operation = .quarantine) :
    ∃ fixed, fixedQuarantineNodes step' = .ok fixed ∧ ∀ node, node ∈ fixed ↔
      node ∈ required ∧ node ∈ step'.nodeIds := by
  rcases h.liveStep hlive with ⟨k, step, rfl, hstep, hkept, hkind, hnodes, hread⟩ | hinserted
  · rw [hkind] at hop
    obtain ⟨explicit, hexplicit⟩ := exists_terminalQuarantineNodes.mp ⟨own, hown⟩ k step hstep hop
    have hknown : ∀ node ∈ explicit, node ∈ required := fun node hnode =>
      hwithin node ((mem_terminalQuarantineNodes hown).mpr (.inl ⟨k, step, explicit, hstep, hop, hexplicit, hnode⟩))
    obtain ⟨fixed, hfixed, hmem⟩ := fixedQuarantineNodes_inheritedStep hop hkept (hfresh.pending hstep) hnamed
      (hfresh.unreplaced_at hstep hop) hexplicit hknown
    refine ⟨fixed, hread.trans hfixed, fun node => ?_⟩
    rw [hmem, hnodes, suppressStep_other (by simp [hop]) (by simp [hop])]
  · refine ⟨step'.nodeIds, hinserted.fixed,
      fun node => ⟨fun hnode => ⟨hinserted.within node hnode, hnode⟩, And.right⟩⟩

/-- A live readmission of the merged plan names a required node only behind its replacement. -/
private theorem InheritedPlan.readmission (h : InheritedPlan candidate result required place)
    (hfresh : FreshCandidate candidate) (hlive : LiveStep result i step') (hop : step'.operation = .restoreScheduling)
    (hnode : node ∈ step'.nodeIds) (hheld : node ∈ required) :
    ∃ j replacement, LiveStep result j replacement ∧ replacement.operation = .replaceNode ∧
      node ∈ replacement.nodeIds ∧ WaitsFor result i j := by
  rcases h.liveStep hlive with ⟨k, step, rfl, hstep, hkept, hkind, hnodes, -⟩ | hinserted
  · rw [hkind] at hop
    have hpending := hfresh.pending hstep
    have hunretired : (suppressStep candidate required step k).2 = false := by
      rw [Bool.eq_false_iff]
      exact fun hretired => hkept (mem_leftOut.mpr (.inr ⟨step, hstep.1, hretired⟩))
    rw [hnodes, (suppressStep_readmission hop hpending).2 hunretired] at hnode
    obtain ⟨j, replacement, hreplacement, hreplaces, hnames, hwaits⟩ := mem_replacementAncestors (hnode.2 hheld)
    -- the replacement itself is neither narrowed nor retired
    have hsame : suppressStep candidate required replacement j = (replacement, false) :=
      suppressStep_other (by simp [hreplaces]) (by simp [hreplaces])
    have hstays : j ∉ leftOut candidate required := by
      rw [mem_leftOut]
      rintro (hs | ⟨other, hother, hretired⟩)
      · exact hreplacement.2 hs
      · cases hreplacement.1.symm.trans hother
        rw [hsame] at hretired
        cases hretired
    obtain ⟨placed, hplaced, hplacedOp, hplacedNodes, -⟩ := h.kept hreplacement.1 hstays
    refine ⟨place j, placed, hplaced, hplacedOp.trans hreplaces, ?_, h.waitsFor hwaits⟩
    rw [hplacedNodes, hsame]
    exact hnames
  · rw [hinserted.operation] at hop
    cases hop

/-- A node the merge need not hold keeps its readmission. -/
theorem InheritedPlan.readmits (h : InheritedPlan candidate result required place)
    (hcompleted : candidate.completedStepIndexes = []) (hrecords : candidate.stepExecutions = [])
    (hnamed : NamedBy candidate .restoreScheduling node) (hfree : node ∉ required) :
    NamedBy result .restoreScheduling node := by
  obtain ⟨k, step, hstep, hop, hnode⟩ := hnamed
  have hpending : k ∉ submittedStepIndexes candidate := by
    rw [mem_submittedStepIndexes hcompleted hrecords]
    exact hstep.2
  obtain ⟨hretired, hnarrowed⟩ := @suppressStep_readmission candidate required step k hop hpending
  have hkept : k ∉ leftOut candidate required := by
    rw [mem_leftOut]
    rintro (hs | ⟨other, hother, hgone⟩)
    · exact hstep.2 hs
    · cases hstep.1.symm.trans hother
      exact hfree (hretired hgone node hnode)
  have hunretired : (suppressStep candidate required step k).2 = false := by
    rw [Bool.eq_false_iff]
    exact fun hgone => hkept (mem_leftOut.mpr (.inr ⟨step, hstep.1, hgone⟩))
  obtain ⟨placed, hplaced, hplacedOp, hplacedNodes, -⟩ := h.kept hstep.1 hkept
  refine ⟨place k, placed, hplaced, hplacedOp.trans hop, ?_⟩
  rw [hplacedNodes, hnarrowed hunretired]
  exact ⟨hnode, fun hin => absurd hin hfree⟩

/-- The merged plan holds the required nodes and no others. -/
private theorem InheritedPlan.terminalQuarantineNodes (h : InheritedPlan candidate result required place)
    (hfresh : FreshCandidate candidate) (hnamed : "" ∉ required)
    (hown : GpuFaultRecovery.terminalQuarantineNodes candidate = .ok own) (hwithin : ∀ node ∈ own, node ∈ required) :
    ∃ nodes, GpuFaultRecovery.terminalQuarantineNodes result = .ok nodes ∧ ∀ node, node ∈ nodes ↔
      node ∈ required := by
  have hfixed : ∀ index step, LiveStep result index step → step.operation = .quarantine →
      ∃ fixed, fixedQuarantineNodes step = .ok fixed ∧ ∀ node, node ∈ fixed ↔ node ∈ required ∧ node ∈ step.nodeIds :=
    fun index step hlive hop => h.fixed hfresh hnamed hown hwithin hlive hop
  obtain ⟨nodes, hnodes⟩ := exists_terminalQuarantineNodes.mpr fun index step hlive hop =>
    (hfixed index step hlive hop).imp fun _ => And.left
  refine ⟨nodes, hnodes, fun node => ?_⟩
  rw [mem_terminalQuarantineNodes hnodes]
  constructor
  · rintro (⟨index, step, fixed, hlive, hop, hread, hin⟩ | ⟨⟨index, step, hlive, hop, hin⟩, hunreadmitted⟩)
    · obtain ⟨fixed', hread', hmem⟩ := hfixed index step hlive hop
      cases hread.symm.trans hread'
      exact ((hmem node).mp hin).1
    · by_contra hfree
      rcases h.liveStep hlive with ⟨k, old, rfl, hold, -, hkind, hkeeps, -⟩ | hinserted
      · rw [hkind] at hop
        rw [hkeeps, suppressStep_other (by simp [hop]) (by simp [hop])] at hin
        have hreadmitted : NamedBy candidate .restoreScheduling node := by
          by_contra hnone
          exact hfree (hwithin node ((mem_terminalQuarantineNodes hown).mpr (.inr ⟨⟨k, old, hold, hop, hin⟩, hnone⟩)))
        exact hunreadmitted (h.readmits hfresh.completed hfresh.records hreadmitted hfree)
      · exact hfree (hinserted.within node hin)
  · intro hnode
    left
    obtain ⟨index, step, hlive, hop, hin⟩ : NamedBy result .quarantine node := by
      rcases h.held node hnode with ⟨k, old, hold, hkept, hop, hin⟩ | ⟨index, step, hlive, hinserted, hin⟩
      · obtain ⟨placed, hplaced, hplacedOp, hplacedNodes, -⟩ := h.kept hold.1 hkept
        refine ⟨place k, placed, hplaced, hplacedOp.trans hop, ?_⟩
        rw [hplacedNodes, suppressStep_other (by simp [hop]) (by simp [hop])]
        exact hin
      · exact ⟨index, step, hlive, hinserted.operation, hin⟩
    obtain ⟨fixed, hread, hmem⟩ := hfixed index step hlive hop
    exact ⟨index, step, fixed, hlive, hop, hread, (hmem node).mpr ⟨hnode, hin⟩⟩

theorem mem_requiredHolds : node ∈ requiredHolds held own ↔ node ∈ held ∨ node ∈ own := by
  rw [requiredHolds, mem_sortedSet, List.mem_append]

/-- A merge into a candidate that has not started: there is nothing to hold and the candidate stays, or it is
rewritten; in both cases the merged plan holds what one of the two plans held. -/
theorem inheritTerminalQuarantine_holds (hheld : terminalQuarantineNodes existing = .ok held)
    (hown : terminalQuarantineNodes candidate = .ok own) (hnamed : ∀ node, node ∈ held ∨ node ∈ own → node ≠ "")
    (hfresh : FreshCandidate candidate) :
    ∃ result nodes, inheritTerminalQuarantine existing candidate = .ok result ∧
      terminalQuarantineNodes result = .ok nodes ∧ (∀ node, node ∈ nodes ↔ node ∈ held ∨ node ∈ own) ∧
      (requiredHolds held own = [] ∨ ∃ place, InheritedPlan candidate result (requiredHolds held own) place) := by
  by_cases hsome : requiredHolds held own = []
  · have hnone : ∀ node, ¬(node ∈ held ∨ node ∈ own) := by
      intro node hnode
      rw [← mem_requiredHolds, hsome] at hnode
      cases hnode
    have hrun : inheritTerminalQuarantine existing candidate = .ok candidate := by
      unfold inheritTerminalQuarantine
      rw [hheld, hown]
      change (if (requiredHolds held own).isEmpty then _ else _) = _
      rw [hsome]
      rfl
    exact ⟨candidate, own, hrun, hown, fun node => ⟨.inr, fun h => absurd h (hnone node)⟩, .inl hsome⟩
  · have hempty : "" ∉ requiredHolds held own := fun h => hnamed "" (mem_requiredHolds.mp h) rfl
    obtain ⟨result, place, hrun, hplan⟩ := exists_inheritTerminalQuarantine hheld hown hsome hempty hfresh.completed
      hfresh.records
    obtain ⟨nodes, hnodes, hiff⟩ := hplan.terminalQuarantineNodes hfresh hempty hown fun node hnode =>
      mem_requiredHolds.mpr (.inr hnode)
    exact ⟨result, nodes, hrun, hnodes, fun node => (hiff node).trans mem_requiredHolds, .inr ⟨place, hplan⟩⟩

end Holds

/-- A merge into a candidate that has not started succeeds. The merged plan holds exactly the nodes one of the two
plans held, and each live readmission of a held node comes after a replacement of that node. -/
theorem terminal_quarantine_survives_merge {existing candidate : WorkflowRequest} {held own : List String}
    (hheld : terminalQuarantineNodes existing = .ok held) (hown : terminalQuarantineNodes candidate = .ok own)
    (hnamed : ∀ node, node ∈ held ∨ node ∈ own → node ≠ "") (hfresh : FreshCandidate candidate) :
    ∃ result nodes, inheritTerminalQuarantine existing candidate = .ok result ∧
      terminalQuarantineNodes result = .ok nodes ∧ (∀ node, node ∈ nodes ↔ node ∈ held ∨ node ∈ own) ∧
      ∀ i step, LiveStep result i step → i ∉ result.completedStepIndexes → step.operation = .restoreScheduling →
        ∀ node ∈ step.nodeIds, node ∈ nodes → ∃ j replacement, LiveStep result j replacement ∧
          replacement.operation = .replaceNode ∧ node ∈ replacement.nodeIds ∧ WaitsFor result i j := by
  obtain ⟨result, nodes, hrun, hnodes, hiff, hplan⟩ := inheritTerminalQuarantine_holds hheld hown hnamed hfresh
  refine ⟨result, nodes, hrun, hnodes, hiff, fun i step hlive _ hop node hnode hin => ?_⟩
  have hrequired : node ∈ requiredHolds held own := mem_requiredHolds.mpr ((hiff node).mp hin)
  rcases hplan with hnone | ⟨place, hplan⟩
  · rw [hnone] at hrequired
    cases hrequired
  · exact hplan.readmission hfresh hlive hop hnode hrequired

section Merged

private def onNode (operation : WorkflowOperation) (node : String) : WorkflowStepSpec :=
  { operation, nodeIds := [node] }

private def heldPlan : WorkflowRequest :=
  { requestId := "w", status := .pending, officialSteps := [onNode .quarantine "n1"] }

/-- A later reset of the node, ending in its readmission. -/
private def resetPlan : WorkflowRequest :=
  { requestId := "v", status := .pending,
    officialSteps := [onNode .markUnschedulable "n1", onNode .resetGpu "n1", onNode .restoreScheduling "n1"] }

/-- The candidate gets the quarantine of the existing plan and loses its readmission. -/
theorem terminal_quarantine_survives_merge_reset :
    (∃ result nodes, inheritTerminalQuarantine heldPlan resetPlan = .ok result ∧
      terminalQuarantineNodes result = .ok nodes ∧ (∀ node, node ∈ nodes ↔ node ∈ ["n1"] ∨ node ∈ []) ∧
      ∀ i step, LiveStep result i step → i ∉ result.completedStepIndexes → step.operation = .restoreScheduling →
        ∀ node ∈ step.nodeIds, node ∈ nodes → ∃ j replacement, LiveStep result j replacement ∧
          replacement.operation = .replaceNode ∧ node ∈ replacement.nodeIds ∧ WaitsFor result i j) ∧
      ((inheritTerminalQuarantine heldPlan resetPlan).map fun result =>
        (result.officialSteps.map WorkflowStepSpec.operation, result.supersededStepIndexes)) =
        .ok ([.markUnschedulable, .quarantine, .resetGpu, .restoreScheduling], [3]) := by
  refine ⟨terminal_quarantine_survives_merge rfl rfl (by simp) ⟨rfl, rfl, ?_⟩, by decide⟩
  intro i j quarantine replacement hstep hop
  have hin := List.mem_of_getElem? hstep
  simp only [resetPlan, onNode, List.mem_cons, List.not_mem_nil, or_false] at hin
  rcases hin with rfl | rfl | rfl <;> cases hop

private def unnamedPlan : WorkflowRequest :=
  { requestId := "v", status := .pending, officialSteps := [onNode .quarantine ""] }

/-- A node without a name is held by the plan, but the merged plan lists it in a way its own reader refuses. -/
theorem unnamed_hold_malformed_after_merge :
    FreshCandidate unnamedPlan ∧ terminalQuarantineNodes unnamedPlan = .ok [""] ∧
      ∃ result, inheritTerminalQuarantine { requestId := "w", status := .pending } unnamedPlan = .ok result ∧
      terminalQuarantineNodes result = .error "terminal quarantine scope is malformed" := by
  refine ⟨⟨rfl, rfl, ?_⟩, rfl, _, rfl, rfl⟩
  intro i j quarantine replacement _ _ hstep hop
  have hin := List.mem_of_getElem? hstep
  simp only [unnamedPlan, onNode, List.mem_cons, List.not_mem_nil, or_false] at hin
  rw [hin] at hop
  cases hop

end Merged

end GpuFaultRecovery
