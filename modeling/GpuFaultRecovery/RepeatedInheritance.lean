import GpuFaultRecovery.DependencyAncestors

/-!
# Inheriting a quarantine twice

The merge path inherits the holds of the existing plan in the disposition and again when the branch is appended. The
second time finds nothing to do, if three things hold: the held nodes have names, a node that only the candidate holds
and readmits is quarantined by it other than behind its own replacement, and the evidence and isolation steps at the
front of a DAG, which an inserted quarantine waits for, wait for one another only.
-/

namespace GpuFaultRecovery

open DependencyGraph

/-! ### Inserted quarantines and the graph -/

/-- An index once `m` steps were inserted at `p`. -/
def shiftBy (p m i : Nat) : Nat := if p ≤ i then i + m else i

/-- The edges of a plan once `m` quarantines were inserted at `p`, its first step that does not collect evidence or
isolate: old steps keep their edges and wait for the inserted ones from `p` on, and these for earlier steps only. -/
structure Spliced (steps steps' : List WorkflowStepSpec) (p m : Nat) : Prop where
  position : quarantinePosition steps = p
  position' : quarantinePosition steps' = p
  length : steps'.length = steps.length + m
  old : ∀ k < steps.length, ∀ x, x ∈ stepDeps steps' (shiftBy p m k) ↔
    (∃ j ∈ stepDeps steps k, x = shiftBy p m j) ∨ (p ≤ k ∧ p ≤ x ∧ x < p + m)
  new : ∀ q, p ≤ q → q < p + m → ∀ x ∈ stepDeps steps' q, x < q

section Splice

variable {steps steps' steps'' : List WorkflowStepSpec} {superseded : List Nat} {template : WorkflowStepSpec}
  {nodes : List String} {p m m' i j k x : Nat}

private theorem shiftBy_zero (p i : Nat) : shiftBy p 0 i = i := by
  unfold shiftBy
  split <;> rfl

private theorem shiftBy_one (p : Nat) : shiftBy p 1 = shiftIndex p := rfl

private theorem shiftBy_add (p m m' i : Nat) : shiftBy p m' (shiftBy p m i) = shiftBy p (m + m') i := by
  unfold shiftBy
  split
  · rw [if_pos (by omega)]
    omega
  · rfl

private theorem strictMono_shiftBy (p m : Nat) : StrictMono (shiftBy p m) := by
  intro i j h
  unfold shiftBy
  split <;> split <;> omega

private theorem shiftBy_not_new (p m i : Nat) : ¬(p ≤ shiftBy p m i ∧ shiftBy p m i < p + m) := by
  unfold shiftBy
  split <;> omega

private theorem Spliced.refl (steps : List WorkflowStepSpec) : Spliced steps steps (quarantinePosition steps) 0 where
  position := rfl
  position' := rfl
  length := rfl
  old k _ x := by
    simp only [shiftBy_zero]
    constructor
    · intro hx
      exact .inl ⟨x, hx, rfl⟩
    · rintro (⟨j, hj, rfl⟩ | ⟨-, hge, hlt⟩)
      · exact hj
      · omega
  new q hge hlt := by omega

private theorem Spliced.trans (h : Spliced steps steps' p 1) (h' : Spliced steps' steps'' p m) :
    Spliced steps steps'' p (1 + m) where
  position := h.position
  position' := h'.position'
  length := by rw [h'.length, h.length, Nat.add_assoc]
  old k hk x := by
    have hlen := h.length
    have hp := quarantinePosition_le steps
    rw [h.position] at hp
    have hk' : shiftBy p 1 k < steps'.length := by
      unfold shiftBy
      split <;> omega
    have hle : p ≤ shiftBy p 1 k ↔ p ≤ k := by
      unfold shiftBy
      split <;> omega
    rw [← shiftBy_add, h'.old _ hk', hle]
    constructor
    · rintro (⟨j', hj', rfl⟩ | ⟨hpk, hge, hlt⟩)
      · rcases (h.old k hk j').mp hj' with ⟨j, hj, rfl⟩ | ⟨hpk, hge, hlt⟩
        · exact .inl ⟨j, hj, shiftBy_add p 1 m j⟩
        · have hj'' : j' = p := by omega
          subst hj''
          refine .inr ⟨hpk, ?_⟩
          rw [shiftBy, if_pos le_rfl]
          omega
      · exact .inr ⟨hpk, hge, by omega⟩
    · rintro (⟨j, hj, rfl⟩ | ⟨hpk, hge, hlt⟩)
      · exact .inl ⟨shiftBy p 1 j, (h.old k hk _).mpr (.inl ⟨j, hj, rfl⟩), (shiftBy_add p 1 m j).symm⟩
      · by_cases hx : x < p + m
        · exact .inr ⟨hpk, hge, hx⟩
        · refine .inl ⟨p, (h.old k hk p).mpr (.inr ⟨hpk, le_rfl, by omega⟩), ?_⟩
          rw [shiftBy, if_pos le_rfl]
          omega
  new q hge hlt x hx := by
    by_cases hq : q < p + m
    · exact h'.new q hge hq x hx
    · -- the step inserted first, behind the others
      have hlen := h.length
      have hp := quarantinePosition_le steps
      rw [h.position] at hp
      have hself : q = shiftBy p m p := by
        rw [shiftBy, if_pos le_rfl]
        omega
      rw [hself, h'.old p (by omega)] at hx
      rcases hx with ⟨j, hj, rfl⟩ | ⟨-, -, hxlt⟩
      · have hjp := h.new p le_rfl (by omega) j hj
        rw [shiftBy, if_neg (by omega)]
        omega
      · omega

private theorem leading_of_lt {step : WorkflowStepSpec} (hi : i < quarantinePosition steps)
    (hstep : steps[i]? = some step) :
    step.operation = .freezeEvidence ∨ step.operation = .markUnschedulable := by
  unfold quarantinePosition at hi
  obtain ⟨rest, hrest⟩ := @List.takeWhile_prefix _ steps fun step =>
    step.operation == .freezeEvidence || step.operation == .markUnschedulable
  rw [← hrest, List.getElem?_append_left hi] at hstep
  have hall := List.all_eq_true.mp (List.all_takeWhile (l := steps)) step (List.mem_of_getElem? hstep)
  simpa using hall

private theorem quarantinePosition_eq (hle : p ≤ steps.length)
    (hleading : ∀ i < p, ∀ step, steps[i]? = some step →
      step.operation = .freezeEvidence ∨ step.operation = .markUnschedulable)
    (hnext : ∀ step, steps[p]? = some step →
      step.operation ≠ .freezeEvidence ∧ step.operation ≠ .markUnschedulable) : quarantinePosition steps = p := by
  induction steps generalizing p with
  | nil =>
    have hzero : p = 0 := by simpa using hle
    subst hzero
    rfl
  | cons step steps ih =>
    cases p with
    | zero =>
      have hstep := hnext step rfl
      simp [quarantinePosition, hstep.1, hstep.2]
    | succ p =>
      have hrest : quarantinePosition steps = p := by
        refine ih (by simpa using hle) (fun i hi step' hstep' => ?_) fun step' hstep' => ?_
        · exact hleading (i + 1) (by omega) step' (by simpa using hstep')
        · exact hnext step' (by simpa using hstep')
      have hfirst := hleading 0 (by omega) step rfl
      have hpos : (step.operation == .freezeEvidence || step.operation == .markUnschedulable) = true := by
        simpa using hfirst
      unfold quarantinePosition at hrest ⊢
      rw [List.takeWhile_cons, if_pos hpos, List.length_cons, hrest]

/-- The edges of the plan with one quarantine inserted. -/
private theorem Spliced.insert (hop : template.operation = .quarantine) :
    Spliced steps (insertQuarantine steps superseded template nodes).1 (quarantinePosition steps) 1 := by
  have hle := quarantinePosition_le steps
  have hget : ∀ i, (insertQuarantine steps superseded template nodes).1[shiftIndex (quarantinePosition steps) i]? =
      (steps[i]?).map fun step => { step with
        dependsOnStepIndexes := shiftedDeps (quarantinePosition steps) i step } := by
    intro i
    rw [insertQuarantine_fst, getElem?_insertIdx_shiftIndex]
    simp [List.getElem?_zipIdx, Option.map_map, Function.comp_def]
  have hself := getElem?_insertQuarantine steps superseded template nodes
  have hlen : (insertQuarantine steps superseded template nodes).1.length = steps.length + 1 := by
    rw [insertQuarantine_fst, List.length_insertIdx_of_le_length (by simpa using hle)]
    simp
  refine ⟨rfl, ?_, hlen, fun k hk x => ?_, fun q hge hlt x hx => ?_⟩
  · refine quarantinePosition_eq (by omega) (fun i hi step hstep => ?_) fun step hstep => ?_
    · have hi' : shiftIndex (quarantinePosition steps) i = i := by rw [shiftIndex, if_neg (by omega)]
      rw [← hi', hget] at hstep
      obtain ⟨old, hold, rfl⟩ := Option.map_eq_some_iff.mp hstep
      exact (leading_of_lt hi hold : old.operation = _ ∨ old.operation = _)
    · rw [hself] at hstep
      cases hstep
      simp [insertedQuarantine, hop]
  · rw [shiftBy_one]
    have hdeps :
        stepDeps (insertQuarantine steps superseded template nodes).1 (shiftIndex (quarantinePosition steps) k) =
        shiftedDeps (quarantinePosition steps) k (steps.get ⟨k, hk⟩) := by
      rw [stepDeps, hget, List.getElem?_eq_getElem hk]
      rfl
    have hold : stepDeps steps k = (steps.get ⟨k, hk⟩).dependsOnStepIndexes := by
      rw [stepDeps, List.getElem?_eq_getElem hk]
      rfl
    rw [hdeps, hold, shiftedDeps, mem_sortedSet]
    by_cases hpk : quarantinePosition steps ≤ k
    · rw [if_pos hpk, List.mem_cons, List.mem_map]
      constructor
      · rintro (rfl | ⟨j, hj, rfl⟩)
        · exact .inr ⟨hpk, le_rfl, by omega⟩
        · exact .inl ⟨j, hj, rfl⟩
      · rintro (⟨j, hj, rfl⟩ | ⟨-, hge, hlt⟩)
        · exact .inr ⟨j, hj, rfl⟩
        · exact .inl (by omega)
    · rw [if_neg hpk, List.mem_map]
      constructor
      · rintro ⟨j, hj, rfl⟩
        exact .inl ⟨j, hj, rfl⟩
      · rintro (⟨j, hj, rfl⟩ | ⟨hge, -⟩)
        · exact ⟨j, hj, rfl⟩
        · exact absurd hge hpk
  · obtain rfl : q = quarantinePosition steps := by omega
    rw [stepDeps, hself] at hx
    simpa [insertedQuarantine] using hx

private theorem insertMissing_nil (candidate : WorkflowRequest) (templates : List WorkflowStepSpec) :
    insertMissing candidate templates steps superseded [] = .ok (steps, superseded, []) := by
  induction templates with
  | nil => rfl
  | cons template templates ih => exact ih

/-- The insertions of a merge: where the old steps stand, and the edges of the plan. -/
private theorem insertMissing_spliced {Inserted : WorkflowStepSpec → Prop} {candidate : WorkflowRequest}
    {templates : List WorkflowStepSpec} {superseded' : List Nat} {missing missing' : List String}
    (hedges : ∀ step, Inserted step → ∀ dependencies, Inserted { step with dependsOnStepIndexes := dependencies })
    (hinserted : ∀ template ∈ templates, ∀ nodes, (∀ node ∈ nodes, node ∈ missing) → ∀ insertAt,
      Inserted (insertedQuarantine template nodes insertAt))
    (htemplates : ∀ template ∈ templates, template.operation = .quarantine)
    (h : insertMissing candidate templates steps superseded missing = .ok (steps', superseded', missing')) :
    ∃ m, PlacedIn Inserted steps superseded steps' superseded' (shiftBy (quarantinePosition steps) m) ∧
      Spliced steps steps' (quarantinePosition steps) m := by
  induction templates generalizing steps superseded missing with
  | nil =>
    cases h
    refine ⟨0, ?_, .refl _⟩
    rw [show shiftBy (quarantinePosition steps') 0 = id from funext (shiftBy_zero _)]
    exact .refl Inserted _ _
  | cons template templates ih =>
    unfold insertMissing at h
    dsimp only at h
    split at h
    · exact ih (fun other hother => hinserted other (List.mem_cons_of_mem _ hother))
        (fun other hother => htemplates other (List.mem_cons_of_mem _ hother)) h
    split at h
    · cases h
    · have hself := hinserted template List.mem_cons_self (missing.filter template.nodeIds.contains)
        (fun node hnode => (List.mem_filter.mp hnode).1) (quarantinePosition steps)
      have hplaced := @placedIn_insertQuarantine Inserted (missing.filter template.nodeIds.contains) steps superseded
        template hself
      have hspliced : Spliced steps
          (insertQuarantine steps superseded template (missing.filter template.nodeIds.contains)).1
          (quarantinePosition steps) 1 := .insert (htemplates template List.mem_cons_self)
      obtain ⟨m, hplaced', hspliced'⟩ := ih (fun other hother nodes hnodes =>
          hinserted other (List.mem_cons_of_mem _ hother) nodes fun node hnode =>
            (List.mem_filter.mp (hnodes node hnode)).1)
        (fun other hother => htemplates other (List.mem_cons_of_mem _ hother)) h
      rw [hspliced.position'] at hplaced' hspliced'
      refine ⟨1 + m, ?_, hspliced.trans hspliced'⟩
      have hcomp : shiftBy (quarantinePosition steps) (1 + m) =
          shiftBy (quarantinePosition steps) m ∘ shiftIndex (quarantinePosition steps) :=
        funext fun i => (shiftBy_add (quarantinePosition steps) 1 m i).symm
      rw [hcomp]
      exact hplaced.trans hedges hplaced'

end Splice

/-! ### Ancestors in the spliced graph -/

/-- The steps at the front wait for one another only, and none for itself. -/
def FrontSettled (steps : List WorkflowStepSpec) : Prop :=
  ∀ i < quarantinePosition steps, ¬ DependsOn (stepDeps steps) i i ∧
    ∀ j ∈ stepDeps steps i, j < quarantinePosition steps

section Graph

variable {steps steps' : List WorkflowStepSpec} {p m i j k x y : Nat}

private theorem Spliced.lt (h : Spliced steps steps' p m) : shiftBy p m k < steps'.length ↔ k < steps.length := by
  have hlen := h.length
  have hp := quarantinePosition_le steps
  rw [h.position] at hp
  unfold shiftBy
  split <;> omega

private theorem lt_length_of_mem_stepDeps (hj : j ∈ stepDeps steps i) : i < steps.length := by
  by_contra hout
  rw [stepDeps, List.getElem?_eq_none (not_lt.mp hout)] at hj
  cases hj

private theorem Spliced.lift (h : Spliced steps steps' p m) (hpath : DependsOn (stepDeps steps) k j) :
    DependsOn (stepDeps steps') (shiftBy p m k) (shiftBy p m j) :=
  Relation.TransGen.lift (shiftBy p m)
    (fun _ b hb => (h.old _ (lt_length_of_mem_stepDeps hb) _).mpr (.inl ⟨b, hb, rfl⟩)) k j hpath

variable (h : Spliced steps steps' p m) (hfront : FrontSettled steps)

include h hfront

private theorem Spliced.low_edge (hx : x < p + m) (hy : y ∈ stepDeps steps' x) :
    y < p + m ∧ (x < p → y < p ∧ y ∈ stepDeps steps x) := by
  by_cases hxp : x < p
  · have hshift : shiftBy p m x = x := by rw [shiftBy, if_neg (by omega)]
    have hp := quarantinePosition_le steps
    rw [h.position] at hp
    rw [← hshift, h.old x (by omega)] at hy
    rcases hy with ⟨j, hj, rfl⟩ | ⟨hge, -⟩
    · have hjp := (hfront x (by rw [h.position]; exact hxp)).2 j hj
      rw [h.position] at hjp
      rw [shiftBy, if_neg (by omega)]
      exact ⟨by omega, fun _ => ⟨hjp, hj⟩⟩
    · omega
  · have hlt := h.new x (by omega) hx y hy
    exact ⟨by omega, fun hlow => absurd hlow hxp⟩

/-- What the front of the plan and the inserted quarantines wait for: earlier ones of their kind. -/
private theorem Spliced.low_path (hx : x < p + m) (hpath : DependsOn (stepDeps steps') x y) :
    y < p + m ∧ (x < p → y < p ∧ DependsOn (stepDeps steps) x y) ∧ (p ≤ x → y < x) := by
  induction hpath with
  | single hy =>
    obtain ⟨hlt, hlow⟩ := h.low_edge hfront hx hy
    exact ⟨hlt, fun hxp => ⟨(hlow hxp).1, .single (hlow hxp).2⟩, fun hge => h.new x hge hx _ hy⟩
  | @tail b c _ hc ih =>
    obtain ⟨hb, hlow, hhigh⟩ := ih
    obtain ⟨hlt, hlow'⟩ := h.low_edge hfront hb hc
    refine ⟨hlt, fun hxp => ?_, fun hge => ?_⟩
    · obtain ⟨hbp, hpath⟩ := hlow hxp
      exact ⟨(hlow' hbp).1, hpath.trans (.single (hlow' hbp).2)⟩
    · have hbx := hhigh hge
      by_cases hbp : b < p
      · have hcp := (hlow' hbp).1
        omega
      · have hcb := h.new b (by omega) hb c hc
        omega

private theorem Spliced.low_acyclic (hx : x < p + m) : ¬ DependsOn (stepDeps steps') x x := by
  intro hcycle
  obtain ⟨-, hlow, hhigh⟩ := h.low_path hfront hx hcycle
  by_cases hxp : x < p
  · exact (hfront x (by rw [h.position]; exact hxp)).1 (hlow hxp).2
  · have hlt := hhigh (by omega)
    omega

/-- Below an old step: what it waited for, the front of the plan and the inserted quarantines. -/
private theorem Spliced.path (hpath : DependsOn (stepDeps steps') (shiftBy p m k) x) :
    (∃ j, x = shiftBy p m j ∧ DependsOn (stepDeps steps) k j) ∨ x < p + m := by
  have hedge : ∀ a y, y ∈ stepDeps steps' (shiftBy p m a) →
      (∃ j, y = shiftBy p m j ∧ j ∈ stepDeps steps a) ∨ y < p + m := by
    intro a y hy
    have ha := h.lt.mp (lt_length_of_mem_stepDeps hy)
    rcases (h.old a ha y).mp hy with ⟨j, hj, rfl⟩ | ⟨-, -, hlt⟩
    · exact .inl ⟨j, rfl, hj⟩
    · exact .inr hlt
  induction hpath with
  | single hy =>
    rcases hedge k _ hy with ⟨j, rfl, hj⟩ | hlt
    · exact .inl ⟨j, rfl, .single hj⟩
    · exact .inr hlt
  | @tail b c _ hc ih =>
    rcases ih with ⟨j, rfl, hpath⟩ | hb
    · rcases hedge j _ hc with ⟨j', rfl, hj'⟩ | hlt
      · exact .inl ⟨j', rfl, hpath.trans (.single hj')⟩
      · exact .inr hlt
    · exact .inr (h.low_edge hfront hb hc).1

private theorem Spliced.dependsOn_iff (hj : p ≤ j) :
    DependsOn (stepDeps steps') (shiftBy p m k) (shiftBy p m j) ↔ DependsOn (stepDeps steps) k j := by
  refine ⟨fun hpath => ?_, h.lift⟩
  rcases h.path hfront hpath with ⟨j', he, hpath'⟩ | hlt
  · rwa [(strictMono_shiftBy p m).injective he]
  · rw [shiftBy, if_pos hj] at hlt
    omega

private theorem Spliced.wellBelow_iff :
    WellBelow (stepDeps steps') steps'.length (shiftBy p m k) ↔ WellBelow (stepDeps steps) steps.length k := by
  constructor
  · intro hwell j hpath
    obtain ⟨hlt, hcycle⟩ := hwell _ (h.lift hpath)
    exact ⟨h.lt.mp hlt, fun hloop => hcycle (h.lift hloop)⟩
  · intro hwell x hpath
    by_cases hx : x < p + m
    · have hlen := h.length
      have hp := quarantinePosition_le steps
      rw [h.position] at hp
      exact ⟨by omega, h.low_acyclic hfront hx⟩
    · rcases h.path hfront hpath with ⟨j, rfl, hpath'⟩ | hlt
      · obtain ⟨hlt, hcycle⟩ := hwell j hpath'
        refine ⟨h.lt.mpr hlt, fun hloop => hcycle ((h.dependsOn_iff hfront ?_).mp hloop)⟩
        by_contra hjp
        rw [shiftBy, if_neg hjp] at hx
        omega
      · exact absurd hlt hx

end Graph

/-! ### The merged plan -/

/-- A quarantine as a merge inserts it: it lists its nodes, all of them required. -/
structure FixedHold (required : List String) (step : WorkflowStepSpec) : Prop where
  operation : step.operation = .quarantine
  sorted : sortedSet step.nodeIds = step.nodeIds
  within : ∀ node ∈ step.nodeIds, node ∈ required
  parameters : step.parameters = [(terminalQuarantineNodesKey, .arr (step.nodeIds.map Json.str))]

/-- A candidate that has not started and what a merge of the required holds made of it, with `m` quarantines
inserted. -/
structure MergedOnce (candidate result : WorkflowRequest) (required : List String) (m : Nat) : Prop where
  unstarted : candidate.completedStepIndexes = [] ∧ candidate.stepExecutions = []
  unstarted' : result.completedStepIndexes = [] ∧ result.stepExecutions = []
  dagEnabled : result.dagEnabled = candidate.dagEnabled
  placed : PlacedIn (FixedHold required) (inheritedSteps candidate required) (leftOut candidate required)
    result.officialSteps result.supersededStepIndexes (shiftBy (quarantinePosition candidate.officialSteps) m)
  spliced : Spliced candidate.officialSteps result.officialSteps (quarantinePosition candidate.officialSteps) m
  settled : m = 0 ∨ (candidate.dagEnabled = true → FrontSettled candidate.officialSteps)

section Merged

variable {candidate result : WorkflowRequest} {required : List String} {step step' : WorkflowStepSpec} {node : String}
  {m i j k q x : Nat}

private theorem quarantinePosition_congr {steps steps' : List WorkflowStepSpec}
    (h : steps'.map WorkflowStepSpec.operation = steps.map WorkflowStepSpec.operation) :
    quarantinePosition steps' = quarantinePosition steps := by
  have hmap : ∀ l : List WorkflowStepSpec, quarantinePosition l =
      ((l.map WorkflowStepSpec.operation).takeWhile fun op => op == .freezeEvidence ||
        op == .markUnschedulable).length := by
    intro l
    rw [List.takeWhile_map, List.length_map]
    rfl
  rw [hmap, hmap, h]

private theorem stepDeps_inheritedSteps (i : Nat) :
    stepDeps (inheritedSteps candidate required) i = stepDeps candidate.officialSteps i := by
  unfold stepDeps
  rw [getElem?_inheritedSteps, Option.map_map]
  cases candidate.officialSteps[i]? with
  | none => rfl
  | some step => exact inheritedStep_deps step

private theorem length_inheritedSteps :
    (inheritedSteps candidate required).length = candidate.officialSteps.length := by
  simp [inheritedSteps, suppressReadmission]

private theorem quarantinePosition_inheritedSteps :
    quarantinePosition (inheritedSteps candidate required) = quarantinePosition candidate.officialSteps := by
  refine quarantinePosition_congr (List.ext_getElem? fun i => ?_)
  rw [List.getElem?_map, List.getElem?_map, getElem?_inheritedSteps, Option.map_map]
  cases candidate.officialSteps[i]? with
  | none => rfl
  | some step => exact congrArg some (inheritedStep_operation step)

variable (h : MergedOnce candidate result required m)

include h

/-- A step of the merged plan: one of the candidate, narrowed and marked, or an inserted quarantine. -/
private theorem MergedOnce.step_cases (hstep : result.officialSteps[x]? = some step') :
    (∃ k step dependencies, x = shiftBy (quarantinePosition candidate.officialSteps) m k ∧
      candidate.officialSteps[k]? = some step ∧
      step' = { inheritedStep candidate required (leftOut candidate required) k step with
        dependsOnStepIndexes := dependencies }) ∨
    (quarantinePosition candidate.officialSteps ≤ x ∧ x < quarantinePosition candidate.officialSteps + m ∧
      FixedHold required step') := by
  by_cases hnew : quarantinePosition candidate.officialSteps ≤ x ∧ x < quarantinePosition candidate.officialSteps + m
  · rcases h.placed.back x step' hstep with ⟨k, -, rfl, -, -⟩ | ⟨-, hinserted⟩
    · exact absurd hnew (shiftBy_not_new _ _ _)
    · exact .inr ⟨hnew.1, hnew.2, hinserted⟩
  · obtain ⟨k, rfl⟩ : ∃ k, x = shiftBy (quarantinePosition candidate.officialSteps) m k := by
      by_cases hlow : x < quarantinePosition candidate.officialSteps
      · exact ⟨x, by rw [shiftBy, if_neg (by omega)]⟩
      · refine ⟨x - m, ?_⟩
        rw [shiftBy, if_pos (by omega)]
        omega
    have hk := h.spliced.lt.mp (List.getElem?_eq_some_iff.mp hstep).1
    have hmarked : (inheritedSteps candidate required)[k]? = some (inheritedStep candidate required
        (leftOut candidate required) k (candidate.officialSteps.get ⟨k, hk⟩)) := by
      rw [getElem?_inheritedSteps, List.getElem?_eq_getElem hk]
      rfl
    obtain ⟨dependencies, hplaced, -⟩ := h.placed.forth k _ hmarked
    refine .inl ⟨k, _, dependencies, rfl, List.getElem?_eq_getElem hk, ?_⟩
    exact Option.some.inj (hstep.symm.trans hplaced)

/-- Behind the front of the plan the ancestors of a step stay its ancestors. -/
private theorem MergedOnce.ancestors_iff (hj : quarantinePosition candidate.officialSteps ≤ j) :
    shiftBy (quarantinePosition candidate.officialSteps) m j ∈
        dependencyAncestors result (shiftBy (quarantinePosition candidate.officialSteps) m k) ↔
      j ∈ dependencyAncestors candidate k := by
  cases hdag : candidate.dagEnabled with
  | false =>
    rw [mem_dependencyAncestors_of_flat (h.dagEnabled.trans hdag), mem_dependencyAncestors_of_flat hdag]
    exact (strictMono_shiftBy _ m).lt_iff_lt
  | true =>
    rw [mem_dependencyAncestors_iff (h.dagEnabled.trans hdag), mem_dependencyAncestors_iff hdag]
    rcases h.settled with hzero | hsettled
    · subst hzero
      have hsame :
          (fun i j => j ∈ stepDeps result.officialSteps i) = fun i j => j ∈ stepDeps candidate.officialSteps i := by
        funext i j
        by_cases hi : i < candidate.officialSteps.length
        · have hold := h.spliced.old i hi j
          simp only [shiftBy_zero] at hold
          refine propext (hold.trans ⟨?_, fun hj => .inl ⟨j, hj, rfl⟩⟩)
          rintro (⟨j, hj, rfl⟩ | ⟨-, hge, hlt⟩)
          · exact hj
          · omega
        · have hlen := h.spliced.length
          rw [stepDeps, stepDeps, List.getElem?_eq_none (by omega), List.getElem?_eq_none (by omega)]
      have hlen : result.officialSteps.length = candidate.officialSteps.length := h.spliced.length
      have hpaths : DependencyGraph.DependsOn (stepDeps result.officialSteps) =
          DependencyGraph.DependsOn (stepDeps candidate.officialSteps) := by
        unfold DependencyGraph.DependsOn
        rw [hsame]
      simp only [shiftBy_zero, WellBelow, hpaths, hlen]
    · rw [h.spliced.wellBelow_iff (hsettled hdag), h.spliced.dependsOn_iff (hsettled hdag) hj]

private theorem MergedOnce.inserted_ancestors (hge : quarantinePosition candidate.officialSteps ≤ q)
    (hlt : q < quarantinePosition candidate.officialSteps + m) (hx : x ∈ dependencyAncestors result q) :
    x < quarantinePosition candidate.officialSteps + m := by
  cases hdag : candidate.dagEnabled with
  | false =>
    rw [mem_dependencyAncestors_of_flat (h.dagEnabled.trans hdag)] at hx
    omega
  | true =>
    rw [mem_dependencyAncestors_iff (h.dagEnabled.trans hdag)] at hx
    rcases h.settled with hzero | hsettled
    · omega
    · exact (h.spliced.low_path (hsettled hdag) hlt hx.2).1

/-- A REPLACE_NODE of the merged plan is one of the candidate, behind the front. -/
private theorem MergedOnce.replacement_cases (hlive : LiveStep result x step')
    (hop : step'.operation = .replaceNode) :
    ∃ j step, x = shiftBy (quarantinePosition candidate.officialSteps) m j ∧ LiveStep candidate j step ∧
      quarantinePosition candidate.officialSteps ≤ j ∧ step.operation = .replaceNode ∧
        step'.nodeIds = step.nodeIds := by
  rcases h.step_cases hlive.1 with ⟨j, step, dependencies, rfl, hstep, rfl⟩ | ⟨-, -, hfixed⟩
  · have hkind : step.operation = .replaceNode := (inheritedStep_operation step).symm.trans hop
    have hsame : suppressStep candidate required step j = (step, false) :=
      suppressStep_other (by simp [hkind]) (by simp [hkind])
    refine ⟨j, step, rfl, ⟨hstep, fun hs => hlive.2 ?_⟩, ?_, hkind, ?_⟩
    · exact (h.placed.superseded j).mpr (mem_leftOut.mpr (.inl hs))
    · by_contra hfront
      rcases leading_of_lt (not_le.mp hfront) hstep with hlead | hlead
      · rw [hkind] at hlead
        cases hlead
      · rw [hkind] at hlead
        cases hlead
    · exact (markHeld_shape _ _).2.1.trans (by rw [hsame])
  · rw [hfixed.operation] at hop
    cases hop

/-- A REPLACE_NODE of the candidate is one of the merged plan. -/
private theorem MergedOnce.replacement (hlive : LiveStep candidate j step) (hop : step.operation = .replaceNode) :
    quarantinePosition candidate.officialSteps ≤ j ∧
      ∃ step', LiveStep result (shiftBy (quarantinePosition candidate.officialSteps) m j) step' ∧
        step'.operation = .replaceNode ∧ step'.nodeIds = step.nodeIds := by
  have hsame : suppressStep candidate required step j = (step, false) :=
    suppressStep_other (by simp [hop]) (by simp [hop])
  have hmarked : (inheritedSteps candidate required)[j]? =
      some (inheritedStep candidate required (leftOut candidate required) j step) := by
    rw [getElem?_inheritedSteps, hlive.1]
    rfl
  obtain ⟨dependencies, hplaced, -⟩ := h.placed.forth j _ hmarked
  constructor
  · by_contra hfront
    rcases leading_of_lt (not_le.mp hfront) hlive.1 with hlead | hlead
    · rw [hop] at hlead
      cases hlead
    · rw [hop] at hlead
      cases hlead
  · refine ⟨_, ⟨hplaced, fun hs => ?_⟩, (inheritedStep_operation step).trans hop, ?_⟩
    · rcases mem_leftOut.mp ((h.placed.superseded j).mp hs) with hs | ⟨other, hother, hretired⟩
      · exact hlive.2 hs
      · cases hlive.1.symm.trans hother
        rw [hsame] at hretired
        cases hretired
    · exact (markHeld_shape _ _).2.1.trans (by rw [hsame])

private theorem MergedOnce.replaced_iff :
    node ∈ replacementAncestors result (shiftBy (quarantinePosition candidate.officialSteps) m k) ↔
      node ∈ replacementAncestors candidate k := by
  rw [mem_replacementAncestors_iff, mem_replacementAncestors_iff]
  constructor
  · rintro ⟨x, step', hlive, hop, hnode, hancestor⟩
    obtain ⟨j, step, rfl, hlive', hj, hop', hnodes⟩ := h.replacement_cases hlive hop
    exact ⟨j, step, hlive', hop', hnodes ▸ hnode, (h.ancestors_iff hj).mp hancestor⟩
  · rintro ⟨j, step, hlive, hop, hnode, hancestor⟩
    obtain ⟨hj, step', hlive', hop', hnodes⟩ := h.replacement hlive hop
    exact ⟨_, step', hlive', hop', hnodes ▸ hnode, (h.ancestors_iff hj).mpr hancestor⟩

private theorem MergedOnce.replaced_inserted (hge : quarantinePosition candidate.officialSteps ≤ q)
    (hlt : q < quarantinePosition candidate.officialSteps + m) : node ∉ replacementAncestors result q := by
  rw [mem_replacementAncestors_iff]
  rintro ⟨x, step', hlive, hop, -, hancestor⟩
  obtain ⟨j, step, rfl, -, hj, -, -⟩ := h.replacement_cases hlive hop
  have hx := h.inserted_ancestors hge hlt hancestor
  rw [shiftBy, if_pos hj] at hx
  omega

end Merged

/-! ### The second merge -/

section Again

variable {workflow candidate result : WorkflowRequest} {required nodes : List String} {superseded : List Nat}
  {step step' : WorkflowStepSpec} {node : String} {m i k x : Nat}

private theorem suppressStep_submitted (hi : i ∈ submittedStepIndexes workflow) :
    suppressStep workflow required step i = (step, false) := by
  unfold suppressStep
  rw [if_pos (by simp [hi])]

private theorem suppressStep_replaced
    (hfree : ∀ node ∈ step.nodeIds, node ∈ required → node ∈ replacementAncestors workflow i) :
    suppressStep workflow required step i = (step, false) := by
  unfold suppressStep
  dsimp only
  split
  · rfl
  · rw [if_pos (by simpa using hfree)]

private theorem suppressStep_restart_fst (hop : step.operation = .restartWorkload) :
    (suppressStep workflow required step i).1 = step := by
  unfold suppressStep
  dsimp only
  split
  · rfl
  split
  · rfl
  · rw [if_neg (by simp [hop])]

/-- A pending job restart is retired if all its nodes are held. -/
private theorem suppressStep_restart (hop : step.operation = .restartWorkload) :
    (suppressStep workflow required step i).2 = true ↔
      i ∉ submittedStepIndexes workflow ∧ step.nodeIds ≠ [] ∧
        ∀ node ∈ step.nodeIds, node ∈ required ∧ node ∉ replacementAncestors workflow i := by
  unfold suppressStep
  dsimp only
  split
  · rename_i hskip
    simp only [hop, Bool.or_eq_true, List.contains_iff_mem] at hskip
    refine ⟨fun h => (Bool.false_ne_true h).elim, fun hall => ?_⟩
    obtain ⟨hpending, hne, hheld⟩ := hall
    obtain ⟨node, hnode⟩ := List.exists_mem_of_ne_nil _ hne
    have hin := (hheld node hnode).1
    simp [hpending] at hskip
    exact absurd hin (hskip node hnode)
  rename_i hskip
  have hpending : i ∉ submittedStepIndexes workflow := by
    intro hi
    simp [hi] at hskip
  split
  · rename_i hnone
    refine ⟨fun h => (Bool.false_ne_true h).elim, fun hall => ?_⟩
    obtain ⟨-, hne, hheld⟩ := hall
    obtain ⟨node, hnode⟩ := List.exists_mem_of_ne_nil _ hne
    obtain ⟨hin, hout⟩ := hheld node hnode
    simp only [Bool.not_eq_true', List.any_eq_false] at hnone
    exact absurd (by simp [hin, hout]) (hnone node hnode)
  · rename_i hsome
    rw [if_neg (by simp [hop])]
    have hne : step.nodeIds ≠ [] := by
      intro hnil
      simp [hnil] at hsome
    simp [hpending, hne]

/-- Marking depends on the members of the list of held nodes only. -/
private theorem markHeld_eq (hnodes : ∀ node, node ∈ nodes ↔
      node ∈ required ∧ node ∈ step.nodeIds ∧ node ∉ replacementAncestors workflow i) :
    markHeld workflow required superseded step i =
      if i ∈ superseded ∨ nodes = [] ∨ i ∈ submittedStepIndexes workflow ∨
        step.operation.semantics.workloadScoped = true
      then step
      else { step with
        parameters := step.parameters.set terminalQuarantineNodesKey (.arr ((sortedSet nodes).map Json.str)) } := by
  have hmem : ∀ node, node ∈ (required.filter step.nodeIds.contains).filter (fun node =>
      !(replacementAncestors workflow i).contains node) ↔ node ∈ nodes := by
    intro node
    rw [hnodes]
    simp only [List.mem_filter, List.contains_iff_mem, Bool.not_eq_true', ← Bool.not_eq_true]
    tauto
  have hempty : ((required.filter step.nodeIds.contains).filter fun node =>
      !(replacementAncestors workflow i).contains node) = [] ↔ nodes = [] := by
    rw [List.eq_nil_iff_forall_not_mem, List.eq_nil_iff_forall_not_mem]
    exact forall_congr' fun node => not_congr (hmem node)
  unfold markHeld
  dsimp only
  rw [sortedSet_congr hmem]
  simp only [Bool.or_eq_true, List.contains_iff_mem, List.isEmpty_iff, hempty, or_assoc]

variable (h : MergedOnce candidate result required m)

include h

private theorem MergedOnce.submitted_iff : x ∈ submittedStepIndexes result ↔ x ∈ result.supersededStepIndexes :=
  mem_submittedStepIndexes h.unstarted'.1 h.unstarted'.2

/-- The second merge narrows and retires nothing. -/
private theorem MergedOnce.suppress_fixed (hstep : result.officialSteps[x]? = some step') :
    suppressStep result required step' x = (step', false) := by
  rcases h.step_cases hstep with ⟨k, step, dependencies, rfl, hold, hsame⟩ | ⟨-, -, hfixed⟩
  · by_cases hleft : k ∈ leftOut candidate required
    · exact suppressStep_submitted (h.submitted_iff.mpr ((h.placed.superseded k).mpr hleft))
    have hpending : k ∉ submittedStepIndexes candidate := by
      rw [mem_submittedStepIndexes h.unstarted.1 h.unstarted.2]
      exact fun hs => hleft (mem_leftOut.mpr (.inl hs))
    have hunretired : (suppressStep candidate required step k).2 = false := by
      rw [Bool.eq_false_iff]
      exact fun hretired => hleft (mem_leftOut.mpr (.inr ⟨step, hold, hretired⟩))
    have hop : step'.operation = step.operation := by
      rw [hsame]
      exact inheritedStep_operation step
    have hnodes : step'.nodeIds = (suppressStep candidate required step k).1.nodeIds := by
      rw [hsame]
      exact (markHeld_shape _ _).2.1
    by_cases hrestore : step.operation = .restoreScheduling
    · refine suppressStep_replaced fun node hnode hin => h.replaced_iff.mpr ?_
      rw [hnodes] at hnode
      exact (((suppressStep_readmission hrestore hpending).2 hunretired node).mp hnode).2 hin
    by_cases hrestart : step.operation = .restartWorkload
    · rw [suppressStep_restart_fst hrestart] at hnodes
      refine Prod.ext (suppressStep_restart_fst (hop.trans hrestart)) ?_
      change _ = false
      rw [Bool.eq_false_iff]
      intro hretired
      obtain ⟨-, hne, hheld⟩ := (suppressStep_restart (hop.trans hrestart)).mp hretired
      rw [hnodes] at hne hheld
      have hretired' := (suppressStep_restart hrestart).mpr ⟨hpending, hne, fun node hnode =>
        ⟨(hheld node hnode).1, fun hreplaced => (hheld node hnode).2 (h.replaced_iff.mpr hreplaced)⟩⟩
      exact Bool.false_ne_true (hunretired.symm.trans hretired')
    · exact suppressStep_other (fun he => hrestore (hop.symm.trans he)) (fun he => hrestart (hop.symm.trans he))
  · exact suppressStep_other (by simp [hfixed.operation]) (by simp [hfixed.operation])

private theorem MergedOnce.leftOut_iff : x ∈ leftOut result required ↔ x ∈ result.supersededStepIndexes := by
  rw [mem_leftOut]
  refine ⟨?_, .inl⟩
  rintro (hs | ⟨step', hstep, hretired⟩)
  · exact hs
  · rw [h.suppress_fixed hstep] at hretired
    cases hretired

/-- The second merge marks no step anew. -/
private theorem MergedOnce.mark_fixed (hstep : result.officialSteps[x]? = some step') :
    markHeld result required (leftOut result required) step' x = step' := by
  rcases h.step_cases hstep with ⟨k, step, dependencies, rfl, hold, hsame⟩ | ⟨hge, hlt, hfixed⟩
  · have hshape := @markHeld_shape candidate required (leftOut candidate required)
      (suppressStep candidate required step k).1 k
    have hfirst := @markHeld_eq candidate required (required.filter fun node =>
        decide (node ∈ step'.nodeIds) && decide (node ∉ replacementAncestors candidate k))
      (leftOut candidate required) (suppressStep candidate required step k).1 k
    have hnodes : step'.nodeIds = (suppressStep candidate required step k).1.nodeIds := by
      rw [hsame]
      exact hshape.2.1
    have hop : step'.operation = (suppressStep candidate required step k).1.operation := by
      rw [hsame]
      exact hshape.1
    rw [@markHeld_eq result required (required.filter fun node =>
        decide (node ∈ step'.nodeIds) && decide (node ∉ replacementAncestors candidate k)) _ _ _
      (fun node => by simp [h.replaced_iff])]
    split
    · rfl
    · rename_i hmark
      simp only [h.leftOut_iff, h.submitted_iff, h.placed.superseded, hop, not_or] at hmark
      obtain ⟨hleft, hsome, -, hscope⟩ := hmark
      have hpending : k ∉ submittedStepIndexes candidate := by
        rw [mem_submittedStepIndexes h.unstarted.1 h.unstarted.2]
        exact fun hs => hleft (mem_leftOut.mpr (.inl hs))
      have hmarked := hfirst fun node => by simp [hnodes]
      rw [if_neg (by simp only [not_or]; exact ⟨hleft, hsome, hpending, hscope⟩)] at hmarked
      have hsource : step'.parameters =
          (inheritedStep candidate required (leftOut candidate required) k step).parameters := by rw [hsame]
      have hparameters := hsource.trans (congrArg WorkflowStepSpec.parameters hmarked)
      dsimp only at hparameters
      rw [hparameters, Details.set_set, ← hparameters]
  · rw [@markHeld_eq result required step'.nodeIds _ _ _ (fun node => by
      constructor
      · intro hnode
        exact ⟨hfixed.within node hnode, hnode, h.replaced_inserted hge hlt⟩
      · exact fun hnode => hnode.2.1)]
    split
    · rfl
    · have hparameters : step'.parameters.set terminalQuarantineNodesKey
          (.arr ((sortedSet step'.nodeIds).map Json.str)) = step'.parameters := by
        rw [hfixed.sorted, hfixed.parameters]
        simp [Details.set, Details.has, Details.get?]
      rw [hparameters]

private theorem MergedOnce.inheritedSteps_fixed : inheritedSteps result required = result.officialSteps := by
  refine List.ext_getElem? fun x => ?_
  rw [getElem?_inheritedSteps]
  cases hstep : result.officialSteps[x]? with
  | none => rfl
  | some step' =>
    rw [Option.map_some, inheritedStep, h.suppress_fixed hstep]
    exact congrArg some (h.mark_fixed hstep)

end Again

/-! ### The holds of the merged plan -/

/-- A node that only the candidate holds, and readmits, is quarantined by it other than behind its own replacement. -/
def OwnHoldsStand (candidate : WorkflowRequest) (held own : List String) : Prop :=
  ∀ node ∈ own, node ∉ held → NamedBy candidate .restoreScheduling node →
    ∃ i step, LiveStep candidate i step ∧ step.operation = .quarantine ∧ node ∈ step.nodeIds ∧
      node ∉ replacementAncestors candidate i

section Holds

variable {existing candidate result : WorkflowRequest} {required held own : List String} {m : Nat}

private theorem PlacedIn.imp {Inserted Inserted' : WorkflowStepSpec → Prop} {steps steps' : List WorkflowStepSpec}
    {superseded superseded' : List Nat} {place : Nat → Nat}
    (h : PlacedIn Inserted steps superseded steps' superseded' place)
    (himp : ∀ step, Inserted step → Inserted' step) :
    PlacedIn Inserted' steps superseded steps' superseded' place where
  mono := h.mono
  forth := h.forth
  back i' step' hstep' := (h.back i' step' hstep').imp_right fun hinserted => ⟨hinserted.1, himp step' hinserted.2⟩
  superseded := h.superseded

private theorem FixedHold.inserted {step : WorkflowStepSpec} (h : FixedHold required step) (hnamed : "" ∉ required) :
    InsertedHold required step := by
  refine ⟨h.operation, fixedQuarantineNodes_of_get? ?_ (fun he => hnamed (h.within _ he)) fun _ hin => hin, h.within⟩
  rw [h.parameters]
  simp [Details.get?]

/-- What the first merge made of the candidate. -/
private theorem mergedOnce_of_inherit (hheld : terminalQuarantineNodes existing = .ok held)
    (hown : terminalQuarantineNodes candidate = .ok own) (hcompleted : candidate.completedStepIndexes = [])
    (hrecords : candidate.stepExecutions = []) (hnamed : "" ∉ requiredHolds held own)
    (hfront : (∃ node ∈ held, ¬ NamedBy candidate .quarantine node) → candidate.dagEnabled = true →
      FrontSettled candidate.officialSteps)
    (hsome : requiredHolds held own ≠ []) (h : inheritTerminalQuarantine existing candidate = .ok result) :
    ∃ m, MergedOnce candidate result (requiredHolds held own) m ∧
      InheritedPlan candidate result (requiredHolds held own)
        (shiftBy (quarantinePosition candidate.officialSteps) m) := by
  obtain ⟨held', own', hheld', hown', ⟨hnone, -⟩ | ⟨steps, superseded, missing, hinsert, superseded', hsame, rfl⟩⟩ :=
    inheritTerminalQuarantine_ok h
  · cases hheld.symm.trans hheld'
    cases hown.symm.trans hown'
    exact absurd hnone hsome
  cases hheld.symm.trans hheld'
  cases hown.symm.trans hown'
  have hcomplete := insertMissing_complete hheld hown hinsert
  subst hcomplete
  obtain ⟨m, hplaced, hspliced⟩ := @insertMissing_spliced _ _ _ (FixedHold (requiredHolds held own)) candidate _ _ _ _
    (fun _ hstep dependencies => ⟨hstep.operation, hstep.sorted, hstep.within, hstep.parameters⟩)
    (fun template htemplate nodes hnodes insertAt =>
      ⟨show template.operation = .quarantine from quarantine_of_mem_templates htemplate,
      sortedSet_congr fun _ => mem_sortedSet,
      fun node hnode => (List.mem_filter.mp (hnodes node (mem_sortedSet.mp hnode))).1, rfl⟩)
    (fun template htemplate => quarantine_of_mem_templates htemplate) hinsert
  rw [quarantinePosition_inheritedSteps] at hplaced hspliced
  have hspliced' : Spliced candidate.officialSteps steps (quarantinePosition candidate.officialSteps) m := by
    refine ⟨rfl, hspliced.position', ?_, fun k hk x => ?_, hspliced.new⟩
    · rw [hspliced.length, length_inheritedSteps]
    · rw [hspliced.old k (by rw [length_inheritedSteps]; exact hk), stepDeps_inheritedSteps]
  refine ⟨m, ⟨⟨hcompleted, hrecords⟩, ⟨hcompleted, hrecords⟩, rfl, hplaced.congr hsame, hspliced', ?_⟩, ?_⟩
  · by_cases huncovered : ∃ node ∈ held, ¬ NamedBy candidate .quarantine node
    · exact .inr (hfront huncovered)
    · -- every required node is covered, so nothing was inserted
      have hmissing : ((requiredHolds held own).filter fun node =>
          !(coveredNodes candidate (requiredHolds held own)).contains node) = [] := by
        refine List.filter_eq_nil_iff.mpr fun node hnode => ?_
        have hcovered : node ∈ coveredNodes candidate (requiredHolds held own) := by
          rw [mem_coveredNodes]
          rcases mem_requiredHolds.mp hnode with hin | hin
          · by_contra hnone
            exact huncovered ⟨node, hin, hnone⟩
          · exact namedBy_of_mem_terminalQuarantineNodes hown hin
        simpa using hcovered
      rw [hmissing, insertMissing_nil] at hinsert
      cases hinsert
      have hlen := hspliced.length
      exact .inl (by omega)
  · exact .of_insertMissing hnamed hinsert (hplaced.imp fun _ hfixed => hfixed.inserted hnamed) rfl rfl hsame

/-- The merged plan holds no node that is not required, and each required one that the existing plan does not hold. -/
private theorem holds_of_merged (h : InheritedPlan candidate result required
      (shiftBy (quarantinePosition candidate.officialSteps) m))
    (hcompleted : candidate.completedStepIndexes = []) (hrecords : candidate.stepExecutions = [])
    (hnamed : "" ∉ required) (hown : terminalQuarantineNodes candidate = .ok own)
    (hrequired : ∀ node, node ∈ required ↔ node ∈ held ∨ node ∈ own) (hstand : OwnHoldsStand candidate held own) :
    ∃ own', terminalQuarantineNodes result = .ok own' ∧ ∀ node, node ∈ held ∨ node ∈ own' ↔ node ∈ required := by
  have hpending : ∀ k step, LiveStep candidate k step → k ∉ submittedStepIndexes candidate := by
    intro k step hlive
    rw [mem_submittedStepIndexes hcompleted hrecords]
    exact hlive.2
  -- what the marked quarantines of the candidate list
  have hmarked : ∀ k step, LiveStep candidate k step → step.operation = .quarantine →
      ∃ fixed, fixedQuarantineNodes (inheritedStep candidate required (leftOut candidate required) k step) =
        .ok fixed ∧
        (∀ node ∈ fixed, node ∈ required ∧ node ∈ step.nodeIds) ∧
        ∀ node ∈ required, node ∈ step.nodeIds → node ∉ replacementAncestors candidate k → node ∈ fixed := by
    intro k step hlive hop
    obtain ⟨explicit, hexplicit⟩ := exists_terminalQuarantineNodes.mp ⟨own, hown⟩ k step hlive hop
    refine fixed_inheritedStep hop (not_mem_leftOut_of_quarantine hlive hop) (hpending k step hlive) hnamed
      hexplicit ?_
    intro node hnode
    exact (hrequired node).mpr (.inr ((mem_terminalQuarantineNodes hown).mpr
      (.inl ⟨k, step, explicit, hlive, hop, hexplicit, hnode⟩)))
  have hread : ∀ index step', LiveStep result index step' → step'.operation = .quarantine →
      ∃ fixed, fixedQuarantineNodes step' = .ok fixed ∧ ∀ node ∈ fixed, node ∈ required := by
    intro index step' hlive hop
    rcases h.liveStep hlive with ⟨k, step, rfl, hstep, -, hkind, -, hsame⟩ | hinserted
    · obtain ⟨fixed, hfixed, hwithin, -⟩ := hmarked k step hstep (hkind.symm.trans hop)
      exact ⟨fixed, hsame.trans hfixed, fun node hnode => (hwithin node hnode).1⟩
    · exact ⟨step'.nodeIds, hinserted.fixed, hinserted.within⟩
  obtain ⟨own', hown'⟩ := exists_terminalQuarantineNodes.mpr fun index step' hlive hop =>
    (hread index step' hlive hop).imp fun _ => And.left
  refine ⟨own', hown', fun node => ⟨?_, fun hnode => ?_⟩⟩
  · rintro (hheld | hnode)
    · exact (hrequired node).mpr (.inl hheld)
    rcases (mem_terminalQuarantineNodes hown').mp hnode with
      ⟨index, step', fixed, hlive, hop, hfixed, hin⟩ | ⟨⟨index, step', hlive, hop, hin⟩, hunreadmitted⟩
    · obtain ⟨fixed', hfixed', hwithin⟩ := hread index step' hlive hop
      cases hfixed.symm.trans hfixed'
      exact hwithin node hin
    · by_contra hfree
      rcases h.liveStep hlive with ⟨k, step, rfl, hstep, -, hkind, hnodes, -⟩ | hinserted
      · rw [hkind] at hop
        rw [hnodes, suppressStep_other (by simp [hop]) (by simp [hop])] at hin
        have hreadmitted : NamedBy candidate .restoreScheduling node := by
          by_contra hnone
          exact hfree ((hrequired node).mpr (.inr ((mem_terminalQuarantineNodes hown).mpr
            (.inr ⟨⟨k, step, hstep, hop, hin⟩, hnone⟩))))
        exact hunreadmitted (h.readmits hcompleted hrecords hreadmitted hfree)
      · exact hfree (hinserted.within node hin)
  · by_cases hheld : node ∈ held
    · exact .inl hheld
    have hownNode := ((hrequired node).mp hnode).resolve_left hheld
    refine .inr ((mem_terminalQuarantineNodes hown').mpr ?_)
    by_cases hreadmitted : NamedBy candidate .restoreScheduling node
    · obtain ⟨k, step, hlive, hop, hin, hclear⟩ := hstand node hownNode hheld hreadmitted
      obtain ⟨fixed, hfixed, -, hlists⟩ := hmarked k step hlive hop
      obtain ⟨step', hlive', hop', -, hsame⟩ := h.kept hlive.1 (not_mem_leftOut_of_quarantine hlive hop)
      exact .inl ⟨_, step', fixed, hlive', hop'.trans hop, hsame.trans hfixed, hlists node hnode hin hclear⟩
    · obtain ⟨k, step, hlive, hop, hin⟩ := namedBy_of_mem_terminalQuarantineNodes hown hownNode
      obtain ⟨step', hlive', hop', hnodes, -⟩ := h.kept hlive.1 (not_mem_leftOut_of_quarantine hlive hop)
      refine .inr ⟨⟨_, step', hlive', hop'.trans hop, ?_⟩, ?_⟩
      · rw [hnodes, suppressStep_other (by simp [hop]) (by simp [hop])]
        exact hin
      · rintro ⟨index, restore, hrestore, hkind, hnames⟩
        rcases h.liveStep hrestore with ⟨k', step, rfl, hstep, hkept, hsameKind, hnodes, -⟩ | hinserted
        · rw [hsameKind] at hkind
          have hunretired : (suppressStep candidate required step k').2 = false := by
            rw [Bool.eq_false_iff]
            exact fun hretired => hkept (mem_leftOut.mpr (.inr ⟨step, hstep.1, hretired⟩))
          rw [hnodes, (suppressStep_readmission hkind (hpending k' step hstep)).2 hunretired] at hnames
          exact hreadmitted ⟨k', step, hstep, hkind, hnames.1⟩
        · rw [hinserted.operation] at hkind
          cases hkind

/-- A plan that the required holds do not change and that covers them is what a merge returns. -/
private theorem inherit_of_fixed (hheld : terminalQuarantineNodes existing = .ok held)
    (hown : terminalQuarantineNodes result = .ok own) (hsome : requiredHolds held own ≠ [])
    (hsteps : inheritedSteps result (requiredHolds held own) = result.officialSteps)
    (hleft : ∀ i, i ∈ leftOut result (requiredHolds held own) ↔ i ∈ result.supersededStepIndexes)
    (hcovered : ∀ node ∈ requiredHolds held own, NamedBy result .quarantine node) :
    inheritTerminalQuarantine existing result = .ok result := by
  have hmissing : ((requiredHolds held own).filter fun node =>
      !(coveredNodes result (requiredHolds held own)).contains node) = [] := by
    refine List.filter_eq_nil_iff.mpr fun node hnode => ?_
    have hin : node ∈ coveredNodes result (requiredHolds held own) := mem_coveredNodes.mpr (hcovered node hnode)
    simpa using hin
  have hsuperseded : leftOut result (requiredHolds held own) = sortedSet result.supersededStepIndexes := by
    refine sortedSet_congr fun i => ?_
    rw [← hleft, leftOut, mem_sortedSet]
  unfold inheritTerminalQuarantine
  rw [hheld, hown]
  change (if (requiredHolds held own).isEmpty then _ else _) = _
  rw [if_neg (by simpa using hsome)]
  change ((insertMissing result (quarantineTemplates existing) (inheritedSteps result (requiredHolds held own))
    (leftOut result (requiredHolds held own)) ((requiredHolds held own).filter fun node =>
      !(coveredNodes result (requiredHolds held own)).contains node)) >>= _) = _
  rw [hmissing, insertMissing_nil, hsteps, hsuperseded]
  change (if (result.officialSteps == result.officialSteps &&
    sortedSet result.supersededStepIndexes == sortedSet result.supersededStepIndexes) = true then _ else _) = _
  rw [if_pos (by simp)]
  rfl

end Holds

/-- A merge of holds into a candidate that has not started changes nothing the second time, if the held nodes have
names, the candidate's own holds do not stand behind replacements alone, and the front of a DAG that needs a
quarantine inserted is settled. -/
theorem inherit_twice {existing candidate result : WorkflowRequest} {held own : List String}
    (hheld : terminalQuarantineNodes existing = .ok held) (hown : terminalQuarantineNodes candidate = .ok own)
    (hcompleted : candidate.completedStepIndexes = []) (hrecords : candidate.stepExecutions = [])
    (hnamed : ∀ node, node ∈ held ∨ node ∈ own → node ≠ "") (hstand : OwnHoldsStand candidate held own)
    (hfront : (∃ node ∈ held, ¬ NamedBy candidate .quarantine node) → candidate.dagEnabled = true →
      FrontSettled candidate.officialSteps)
    (h : inheritTerminalQuarantine existing candidate = .ok result) :
    inheritTerminalQuarantine existing result = .ok result := by
  by_cases hsome : requiredHolds held own = []
  · have hself : candidate = result := by
      have hrun := h
      unfold inheritTerminalQuarantine at hrun
      rw [hheld, hown] at hrun
      change (if (requiredHolds held own).isEmpty then _ else _) = _ at hrun
      rw [hsome] at hrun
      exact Except.ok.inj hrun
    rwa [hself] at h
  · have hempty : "" ∉ requiredHolds held own := fun he => hnamed "" (mem_requiredHolds.mp he) rfl
    obtain ⟨m, hmerged, hplan⟩ := mergedOnce_of_inherit hheld hown hcompleted hrecords hempty hfront hsome h
    obtain ⟨own', hown', hsame⟩ := holds_of_merged hplan hcompleted hrecords hempty hown
      (fun node => mem_requiredHolds) hstand
    have hrequired : requiredHolds held own' = requiredHolds held own := by
      refine sortedSet_congr fun node => ?_
      rw [List.mem_append, List.mem_append, hsame, mem_requiredHolds]
    refine inherit_of_fixed hheld hown' ?_ ?_ ?_ ?_
    · rwa [hrequired]
    · rw [hrequired]
      exact hmerged.inheritedSteps_fixed
    · rw [hrequired]
      exact fun i => hmerged.leftOut_iff
    · rw [hrequired]
      intro node hnode
      rcases hplan.held node hnode with ⟨k, step, hlive, hkept, hop, hin⟩ | ⟨index, step, hlive, hinserted, hin⟩
      · obtain ⟨step', hlive', hop', hnodes, -⟩ := hplan.kept hlive.1 hkept
        refine ⟨_, step', hlive', hop'.trans hop, ?_⟩
        rw [hnodes, suppressStep_other (by simp [hop]) (by simp [hop])]
        exact hin
      · exact ⟨index, step, hlive, hinserted.operation, hin⟩

section Repeated

/-- A merge that succeeds, and does not return its own result the second time. -/
def Unrepeatable (existing candidate : WorkflowRequest) : Prop :=
  candidate.completedStepIndexes = [] ∧ candidate.stepExecutions = [] ∧
    ∃ result, inheritTerminalQuarantine existing candidate = .ok result ∧
      ∀ again, inheritTerminalQuarantine existing result = .ok again →
        ¬(again.officialSteps = result.officialSteps ∧ again.supersededStepIndexes = result.supersededStepIndexes)

private def quarantineOf (nodes : List String) : WorkflowRequest :=
  { requestId := "w", status := .running, officialSteps := [{ operation := .quarantine, nodeIds := nodes }] }

private def rebootOf (node : String) : WorkflowRequest :=
  { requestId := "c", status := .pending
    officialSteps :=
      [{ operation := .freezeEvidence, nodeIds := [node] }, { operation := .restartNode, nodeIds := [node] },
        { operation := .restoreScheduling, nodeIds := [node] }] }

private def mergedWith (existing candidate : WorkflowRequest) : WorkflowRequest :=
  match inheritTerminalQuarantine existing candidate with
  | .ok result => result
  | .error _ => candidate

/-- A reboot inherits a quarantine and loses its readmission once. -/
theorem inherit_twice_reboot :
    (mergedWith (quarantineOf ["n1"]) (rebootOf "n1")).officialSteps.length = 4 ∧
      inheritTerminalQuarantine (quarantineOf ["n1"]) (mergedWith (quarantineOf ["n1"]) (rebootOf "n1")) =
        .ok (mergedWith (quarantineOf ["n1"]) (rebootOf "n1")) := by
  have hheld : terminalQuarantineNodes (quarantineOf ["n1"]) = .ok ["n1"] := by rfl
  have hown : terminalQuarantineNodes (rebootOf "n1") = .ok [] := by rfl
  have hmerged : inheritTerminalQuarantine (quarantineOf ["n1"]) (rebootOf "n1") =
      .ok (mergedWith (quarantineOf ["n1"]) (rebootOf "n1")) := by rfl
  refine ⟨by decide, inherit_twice hheld hown rfl rfl (by simp) ?_ ?_ hmerged⟩
  · intro node hnode
    cases hnode
  · intro _ hdag
    cases hdag

/-- A node that only the candidate holds, behind its own replacement. -/
private def replacedHold : WorkflowRequest :=
  { requestId := "c", status := .pending
    officialSteps :=
      [{ operation := .validateGpu, nodeIds := ["n1", "n2"] }, { operation := .replaceNode, nodeIds := ["n1"] },
        { operation := .quarantine, nodeIds := ["n1", "n2"]
          parameters := [(terminalQuarantineNodesKey, .arr [.str "n1", .str "n2"])] },
        { operation := .restoreScheduling, nodeIds := ["n1"] }] }

/-- A freeze that waits for the replacement: a quarantine inserted behind it closes a cycle. -/
private def lateFreeze : WorkflowRequest :=
  { requestId := "c", status := .pending, dagEnabled := true
    officialSteps :=
      [{ operation := .freezeEvidence, nodeIds := ["n1"], dependsOnStepIndexes := [1] },
        { operation := .replaceNode, nodeIds := ["n1"] },
        { operation := .restoreScheduling, nodeIds := ["n1"], dependsOnStepIndexes := [1] }] }

private theorem unrepeatable_of {existing candidate : WorkflowRequest}
    (hcompleted : candidate.completedStepIndexes = []) (hrecords : candidate.stepExecutions = [])
    (hfirst : inheritTerminalQuarantine existing candidate = .ok (mergedWith existing candidate))
    (hagain : ((inheritTerminalQuarantine existing (mergedWith existing candidate)).map fun again =>
      (again.officialSteps, again.supersededStepIndexes)) ≠
        .ok ((mergedWith existing candidate).officialSteps, (mergedWith existing candidate).supersededStepIndexes)) :
    Unrepeatable existing candidate := by
  refine ⟨hcompleted, hrecords, _, hfirst, fun again hrun hsame => hagain ?_⟩
  rw [hrun, ← hsame.1, ← hsame.2]
  rfl

/-- The hold list of a node without a name is refused, a hold behind a replacement is dropped from the list and then
from the marks, and the readmission behind the replacement is retired once a cycle hides the replacement. -/
theorem inherit_not_repeatable :
    Unrepeatable (quarantineOf [""]) (rebootOf "n1") ∧ Unrepeatable (rebootOf "n3") replacedHold ∧
      Unrepeatable (quarantineOf ["n1"]) lateFreeze := by
  refine ⟨unrepeatable_of rfl rfl rfl ?_, unrepeatable_of rfl rfl rfl ?_, unrepeatable_of rfl rfl rfl ?_⟩
  · decide +kernel
  · decide +kernel
  · decide +kernel

end Repeated

end GpuFaultRecovery
