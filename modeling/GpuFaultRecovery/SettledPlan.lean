import GpuFaultRecovery.ExecutorPass
import GpuFaultRecovery.JobRestartJoin

/-!
# Plans on which direct dependencies speak for all

The executor tests the direct dependencies of a step, and a retired step counts as resolved. That test speaks for
every ancestor as long as the row is settled: whatever a live step waits for directly, once resolved, had all it waits
for resolved. A rewrite that retires steps keeps this when it strands none of them in front of a live step; one that
appends a branch also moves edges, and must not chain the branch, or leave a join, behind a stranded step.
-/

namespace GpuFaultRecovery

open DependencyGraph

/-! ### Plans as graphs -/

/-- The edges a row runs along: those its steps list, and the chain where its official plan is flat. -/
def planDeps (isSafety : Bool) (workflow : WorkflowRequest) : Nat → List Nat :=
  stepDeps (if isSafety then workflow.safetySteps else normalizedSteps workflow)

/-- The indexes a row will not run again. -/
def resolvedSet (workflow : WorkflowRequest) : Set Nat := {i | i ∈ workflow.resolvedStepIndexes}

/-- A rewrite that leaves the phase and the edges of a row alone. -/
structure SamePlan (row row' : WorkflowRequest) : Prop where
  safetyOnly : row'.safetyOnly = row.safetyOnly
  status : row'.status = .safetyPending → row.status = .safetyPending
  deps : ∀ isSafety, planDeps isSafety row' = planDeps isSafety row
  length : ∀ isSafety, (phaseSteps isSafety row').length = (phaseSteps isSafety row).length
  flat : row'.dagEnabled = false → row.dagEnabled = false

/-- A row of the phase `isSafety` on which the direct dependencies of a step speak for all of them. -/
structure RowSettled (isSafety : Bool) (row : WorkflowRequest) : Prop where
  phase : row.safetyOnly = isSafety
  pending : row.status = .safetyPending → isSafety = true
  settled : Settled (planDeps isSafety row) (resolvedSet row)
  inRange : isSafety = false → ∀ i ∈ resolvedSet row, i < row.officialSteps.length
  flat : row.dagEnabled = false → ∀ i, ∀ j ∈ planDeps isSafety row i, j < i

/-- A rewrite that takes no step away and makes no DAG flat. -/
structure Grows (isSafety : Bool) (row row' : WorkflowRequest) : Prop where
  length : (phaseSteps isSafety row).length ≤ (phaseSteps isSafety row').length
  dag : row.dagEnabled = true → row'.dagEnabled = true

section Plans

variable {row row' row'' workflow : WorkflowRequest} {isSafety : Bool} {retired : Set Nat} {indexes : List Nat}
  {i j : Nat}
  {step : WorkflowStepSpec} {outcome : StepOutcome} {now : Time}

theorem planDeps_of_dag (h : workflow.dagEnabled = true) (isSafety : Bool) :
    planDeps isSafety workflow = stepDeps (phaseSteps isSafety workflow) := by
  unfold planDeps phaseSteps
  cases isSafety with
  | true => rfl
  | false => exact stepDeps_normalizedSteps_of_dag h

private theorem planDeps_eq_of_shape (hofficial : planShape row'.officialSteps = planShape row.officialSteps)
    (hsafety : planShape row'.safetySteps = planShape row.safetySteps) (hdag : row'.dagEnabled = row.dagEnabled)
    (isSafety : Bool) : planDeps isSafety row' = planDeps isSafety row := by
  unfold planDeps
  cases isSafety with
  | true => exact funext (stepDeps_eq_of_shape hsafety)
  | false =>
    refine funext (stepDeps_eq_of_shape ?_)
    rw [if_neg Bool.false_ne_true, if_neg Bool.false_ne_true, planShape_normalizedSteps, planShape_normalizedSteps,
      hofficial, hdag]

theorem SamePlan.of_shape (hphase : row'.safetyOnly = row.safetyOnly)
    (hstatus : row'.status = .safetyPending → row.status = .safetyPending)
    (hofficial : planShape row'.officialSteps = planShape row.officialSteps)
    (hsafety : planShape row'.safetySteps = planShape row.safetySteps) (hdag : row'.dagEnabled = row.dagEnabled) :
    SamePlan row row' where
  safetyOnly := hphase
  status := hstatus
  deps := planDeps_eq_of_shape hofficial hsafety hdag
  length isSafety := by
    cases isSafety with
    | true => exact length_eq_of_shape hsafety
    | false => exact length_eq_of_shape hofficial
  flat h := hdag ▸ h

theorem SamePlan.trans (h : SamePlan row row') (h' : SamePlan row' row'') : SamePlan row row'' where
  safetyOnly := h'.safetyOnly.trans h.safetyOnly
  status hs := h.status (h'.status hs)
  deps isSafety := (h'.deps isSafety).trans (h.deps isSafety)
  length isSafety := (h'.length isSafety).trans (h.length isSafety)
  flat hf := h.flat (h'.flat hf)

theorem Grows.refl (isSafety : Bool) (row : WorkflowRequest) : Grows isSafety row row := ⟨le_rfl, id⟩

theorem Grows.trans (h : Grows isSafety row row') (h' : Grows isSafety row' row'') : Grows isSafety row row'' :=
  ⟨h.length.trans h'.length, fun hdag => h'.dag (h.dag hdag)⟩

theorem SamePlan.grows (h : SamePlan row row') (isSafety : Bool) : Grows isSafety row row' := by
  refine ⟨(h.length isSafety).ge, fun hdag => ?_⟩
  by_contra hflat
  rw [h.flat (Bool.eq_false_iff.mpr hflat)] at hdag
  cases hdag

/-- What a rewrite that keeps the plan may resolve. -/
theorem RowSettled.retire (h : RowSettled isSafety row) (hplan : SamePlan row row')
    (hresolved : resolvedSet row' = resolvedSet row ∪ retired)
    (hretired : Retirable (planDeps isSafety row) (resolvedSet row) retired)
    (hrange : isSafety = false → ∀ i ∈ retired, i < row.officialSteps.length) : RowSettled isSafety row' where
  phase := hplan.safetyOnly.trans h.phase
  pending hs := h.pending (hplan.status hs)
  settled := by
    rw [hplan.deps, hresolved]
    exact h.settled.retire hretired
  inRange hphase i hi := by
    have hlen : row'.officialSteps.length = row.officialSteps.length := hplan.length false
    rw [hresolved] at hi
    rw [hlen]
    rcases hi with hi | hi
    · exact h.inRange hphase i hi
    · exact hrange hphase i hi
  flat hflat := by
    rw [hplan.deps]
    exact h.flat (hplan.flat hflat)

theorem RowSettled.congr (h : RowSettled isSafety row) (hplan : SamePlan row row')
    (hresolved : resolvedSet row' = resolvedSet row) : RowSettled isSafety row' :=
  h.retire hplan (by rw [hresolved, Set.union_empty]) retirable_empty fun _ _ hi => hi.elim

theorem resolvedSet_retireSteps (row : WorkflowRequest) (indexes : List Nat) (now : Time) :
    resolvedSet (retireSteps row indexes now) = resolvedSet row ∪ {i | i ∈ indexes} := by
  ext i
  simp [resolvedSet, WorkflowRequest.resolvedStepIndexes, retireSteps, or_assoc]

theorem resolvedSet_recordCompletion (row : WorkflowRequest) (index : Nat) (operation : WorkflowOperation)
    (now : Time) :
    resolvedSet (recordCompletion row index operation now) = resolvedSet row ∪ {index} := by
  ext i
  simp only [resolvedSet, WorkflowRequest.resolvedStepIndexes, recordCompletion, Set.mem_ofPred_eq, List.mem_append,
    List.mem_singleton, Set.mem_union, Set.mem_singleton_iff]
  tauto

theorem samePlan_retireSteps (row : WorkflowRequest) (indexes : List Nat) (now : Time) :
    SamePlan row (retireSteps row indexes now) := .of_shape rfl id rfl rfl rfl

theorem samePlan_recordAttempt (row : WorkflowRequest) (step : WorkflowStepSpec) (index : Nat) (outcome : StepOutcome)
    (now : Time) : SamePlan row (recordAttempt row step index outcome now) := .of_shape rfl id rfl rfl rfl

theorem samePlan_recordCompletion (row : WorkflowRequest) (index : Nat) (operation : WorkflowOperation) (now : Time) :
    SamePlan row (recordCompletion row index operation now) := .of_shape rfl id rfl rfl rfl

theorem samePlan_retargetEvidence (row : WorkflowRequest) (targets : List EvidenceTarget) :
    SamePlan row (retargetEvidence row targets) := by
  unfold retargetEvidence
  split
  · exact .of_shape rfl id rfl rfl rfl
  · refine .of_shape rfl id (planShape_map_zipIdx fun step index => ?_) rfl rfl
    dsimp only
    split <;> exact ⟨rfl, rfl⟩

theorem resolvedSet_retargetEvidence (row : WorkflowRequest) (targets : List EvidenceTarget) :
    resolvedSet (retargetEvidence row targets) = resolvedSet row := by
  unfold retargetEvidence
  split <;> rfl

/-- Rebinding nodes moves no edge. -/
theorem rebindNodes_plan {rebindings : List (String × String)} {inventory : String → List String} {afterIndex : Nat}
    (h : rebindNodes row rebindings inventory isSafety afterIndex now = .ok row') :
    SamePlan row row' ∧ resolvedSet row' = resolvedSet row := by
  unfold rebindNodes at h
  dsimp only at h
  split at h
  · cases h
  · cases h
    have hshape : planShape ((phaseSteps isSafety row).zipIdx.map fun entry =>
        if rebinds row isSafety afterIndex entry.2 then reboundStep rebindings inventory entry.1 else entry.1) =
        planShape (phaseSteps isSafety row) := by
      refine planShape_map_zipIdx fun step index => ?_
      dsimp only
      split <;> exact ⟨rfl, rfl⟩
    refine ⟨.of_shape rfl id ?_ ?_ rfl, rfl⟩
    · cases isSafety with
      | true => rfl
      | false => exact hshape
    · cases isSafety with
      | true => exact hshape
      | false => rfl

private theorem samePlan_adoptLinearPlan (row : WorkflowRequest) (now : Time) :
    SamePlan row (adoptLinearPlan row now) := by
  unfold adoptLinearPlan
  split
  · exact .of_shape rfl id rfl rfl rfl
  · refine ⟨rfl, id, fun isSafety => ?_, fun isSafety => ?_, fun hflat => ?_⟩
    · cases isSafety with
      | true => rfl
      | false => exact planDeps_of_dag rfl false
    · cases isSafety with
      | true => rfl
      | false => exact length_normalizedSteps row
    · cases hflat

private theorem resolvedSet_adoptLinearPlan (row : WorkflowRequest) (now : Time) :
    resolvedSet (adoptLinearPlan row now) = resolvedSet row := by
  unfold adoptLinearPlan
  split <;> rfl

end Plans

/-! ### Edges of a rewritten plan -/

section Edges

variable {steps values : List WorkflowStepSpec} {branch : CandidateBranch} {branchId : String}
  {stopIndex predecessor : Option Nat} {stopIsOpen : Bool} {existing : WorkflowRequest} {replaced : List Nat}
  {i j : Nat}

private theorem appendChain_tail_ge {dependency : Option Nat} {tail : Nat}
    (h : (appendChain steps values dependency branchId).2 = some tail) :
    steps.length ≤ tail ∨ (values = [] ∧ dependency = some tail) := by
  rcases appendChain_tail h with ⟨hempty, hd⟩ | ⟨hne, rfl⟩
  · exact .inr ⟨hempty, hd⟩
  · have hpos := List.length_pos_of_ne_nil hne
    exact .inl (by omega)

private theorem gateStop_tail_ge {tail : Nat}
    (h : (gateStop steps values branchId stopIndex stopIsOpen).2 = some tail) :
    steps.length ≤ tail := by
  have htail : (appendChain steps values none branchId).2 = some tail := by
    unfold gateStop at h
    dsimp only at h
    split at h <;> exact h
  rcases appendChain_tail_ge htail with hge | ⟨-, hd⟩
  · exact hge
  · cases hd

/-- The steps put before an open STOP_WORKLOADS wait for each other only. -/
private theorem edge_of_gateStop (h : j ∈ stepDeps (gateStop steps values branchId stopIndex stopIsOpen).1 i) :
    (i < steps.length ∧ j ∈ stepDeps steps i) ∨ (steps.length ≤ i ∧ steps.length ≤ j) ∨
      (stopIndex = some i ∧ stopIsOpen = true ∧ values ≠ [] ∧ steps.length ≤ j) := by
  have happended : ∀ i j, j ∈ stepDeps (appendChain steps values none branchId).1 i →
      (i < steps.length ∧ j ∈ stepDeps steps i) ∨ (steps.length ≤ i ∧ steps.length ≤ j) := by
    intro i j hj
    rcases edge_of_append hj with hold | ⟨hi, -, ⟨hge, -⟩ | ⟨-, hd⟩⟩
    · exact .inl hold
    · exact .inr ⟨hi, hge⟩
    · cases hd
  unfold gateStop at h
  dsimp only at h
  split at h
  · rename_i tail stop htail
    dsimp only at h
    split at h
    · rename_i hopen
      rcases mem_stepDeps_addDependency.mp h with hj | ⟨-, rfl, rfl⟩
      · rcases happended i j hj with hold | hnew
        · exact .inl hold
        · exact .inr (.inl hnew)
      · rcases appendChain_tail htail with ⟨-, hd⟩ | ⟨hne, rfl⟩
        · cases hd
        · have hpos := List.length_pos_of_ne_nil hne
          exact .inr (.inr ⟨rfl, hopen, hne, by omega⟩)
    · rcases happended i j h with hold | hnew
      · exact .inl hold
      · exact .inr (.inl hnew)
  · rcases happended i j h with hold | hnew
    · exact .inl hold
    · exact .inr (.inl hnew)

/-- An attached branch waits for its own steps and for what it is chained behind. -/
private theorem edge_of_attach
    (h : j ∈ stepDeps (attachCandidateBranch steps branch branchId stopIndex stopIsOpen predecessor).1 i) :
    (i < steps.length ∧ j ∈ stepDeps steps i) ∨
      (steps.length ≤ i ∧ branch.steps ≠ [] ∧ (steps.length ≤ j ∨ attachPoint stopIndex predecessor = some j)) ∨
      (predecessor = none ∧ stopIndex = some i ∧ stopIsOpen = true ∧ branch.leading stopIsOpen ≠ [] ∧
        steps.length ≤ j) := by
  -- only a plan that grew has edges beyond its old steps
  have hgrown : steps.length ≤ i → branch.steps ≠ [] := by
    rintro hi hempty
    rw [stepDeps_of_length_le] at h
    · cases h
    · rw [length_attach, hempty]
      exact hi
  cases predecessor with
  | some p =>
    rcases edge_of_append h with hold | ⟨hi, -, ⟨hge, -⟩ | ⟨-, hd⟩⟩
    · exact .inl hold
    · exact .inr (.inl ⟨hi, hgrown hi, .inl hge⟩)
    · exact .inr (.inl ⟨hi, hgrown hi, .inr hd⟩)
  | none =>
    have hlen := length_gateStop steps (branch.leading stopIsOpen) branchId stopIndex stopIsOpen
    simp only [attachCandidateBranch] at h
    rcases edge_of_append h with ⟨-, hj⟩ | ⟨hi, -, ⟨hge, -⟩ | ⟨-, hd⟩⟩
    · rcases edge_of_gateStop hj with hold | ⟨hi, hge⟩ | ⟨hstop, hopen, hne, hge⟩
      · exact .inl hold
      · exact .inr (.inl ⟨hi, hgrown hi, .inl hge⟩)
      · exact .inr (.inr ⟨rfl, hstop, hopen, hne, hge⟩)
    · exact .inr (.inl ⟨by omega, hgrown (by omega), .inl (by omega)⟩)
    · refine .inr (.inl ⟨by omega, hgrown (by omega), ?_⟩)
      cases stopIndex with
      | some s => exact .inr hd
      | none => exact .inl (gateStop_tail_ge hd)

private theorem attach_tail {tail : Nat} (hne : branch.steps ≠ [])
    (h : (attachCandidateBranch steps branch branchId stopIndex stopIsOpen predecessor).2 = some tail) :
    steps.length ≤ tail ∨ attachPoint stopIndex predecessor = some tail := by
  cases predecessor with
  | some p =>
    rcases appendChain_tail_ge h with hge | ⟨hempty, -⟩
    · exact .inl hge
    · exact absurd hempty hne
  | none =>
    have hlen := length_gateStop steps (branch.leading stopIsOpen) branchId stopIndex stopIsOpen
    simp only [attachCandidateBranch] at h
    rcases orElse_eq_some h with h | h
    · rcases appendChain_tail_ge h with hge | ⟨-, hd⟩
      · exact .inl (by omega)
      · cases stopIndex with
        | some s => exact .inr hd
        | none => exact .inl (gateStop_tail_ge hd)
    · exact .inl (gateStop_tail_ge h)

/-- The steps a branch rewrite gives a new dependency: the join, and an open STOP_WORKLOADS that steps are put
before. -/
def Rewires (existing : WorkflowRequest) (branch : CandidateBranch) (predecessor : Option Nat) (index : Nat) : Prop :=
  branch.steps ≠ [] ∧
    (stepOperation? (normalizedSteps existing) index = some .restartWorkload ∨
      (predecessor = none ∧ stopState existing (normalizedSteps existing) = (some index, true) ∧
        branch.leading true ≠ []))

/-- The edges of a rewritten plan: old ones, those of the new branch, and those of the steps it rewires. The join
gives up its edges to what is retired. -/
private theorem edge_of_branchRewrite (hbranch : NoRestart branch.steps)
    (h : j ∈ stepDeps (branchRewrite existing branch predecessor replaced).1 i) :
    (j ∈ stepDeps (normalizedSteps existing) i ∧
      (stepOperation? (normalizedSteps existing) i = some .restartWorkload → branch.steps ≠ [] →
        j ∉ (branchRewrite existing branch predecessor replaced).2)) ∨
      (((existing.officialSteps.length ≤ i ∧ branch.steps ≠ []) ∨ Rewires existing branch predecessor i) ∧
        (existing.officialSteps.length ≤ j ∨ rewritePoint existing predecessor = some j)) := by
  have hshape := terminalSuperseded_shape existing (normalizedSteps existing) branch.terminal replaced
  have hlen : (terminalSuperseded existing (normalizedSteps existing) branch.terminal replaced).1.length =
      existing.officialSteps.length := by rw [length_eq_of_shape hshape, length_normalizedSteps]
  have hattached : ∀ i j, j ∈ stepDeps (attachCandidateBranch
      (terminalSuperseded existing (normalizedSteps existing) branch.terminal replaced).1 branch
      (freshBranchId existing branch) (stopState existing (normalizedSteps existing)).1
      (stopState existing (normalizedSteps existing)).2 predecessor).1 i →
      j ∈ stepDeps (normalizedSteps existing) i ∨
        (((existing.officialSteps.length ≤ i ∧ branch.steps ≠ []) ∨ Rewires existing branch predecessor i) ∧
          (existing.officialSteps.length ≤ j ∨ rewritePoint existing predecessor = some j)) := by
    intro i j hj
    rw [← hlen]
    rcases edge_of_attach hj with ⟨-, hold⟩ | ⟨hi, hne, hj⟩ | ⟨hnone, hstop, hopen, hne, hge⟩
    · rw [stepDeps_eq_of_shape hshape] at hold
      exact .inl hold
    · exact .inr ⟨.inl ⟨hi, hne⟩, hj⟩
    · rw [hopen] at hne
      refine .inr ⟨.inr ⟨fun hempty => hne ?_, .inr ⟨hnone, Prod.ext hstop hopen, hne⟩⟩, .inl hge⟩
      simp [CandidateBranch.leading, List.map_eq_nil_iff.mp hempty]
  unfold branchRewrite at h
  dsimp only at h
  split at h
  · rename_i hsame
    rw [length_attach] at hsame
    have hempty : branch.steps = [] := List.length_eq_zero_iff.mp (by omega)
    rcases hattached i j h with hold | hnew
    · exact .inl ⟨hold, fun _ hne => absurd hempty hne⟩
    · exact .inr hnew
  · rename_i hgrown
    have hne : branch.steps ≠ [] := by
      intro hempty
      rw [length_attach, hempty] at hgrown
      exact hgrown rfl
    rcases mem_stepDeps_reconnectJoin.mp h with ⟨hop, hj⟩ | ⟨hop, ⟨hj, hretired⟩ | htail⟩
    · rw [Ne, stepOperation?_attach hbranch, stepOperation?_eq_of_shape hshape] at hop
      rcases hattached i j hj with hold | hnew
      · exact .inl ⟨hold, fun hrestart => absurd hrestart hop⟩
      · exact .inr hnew
    · rcases hattached i j hj with hold | hnew
      · exact .inl ⟨hold, fun _ _ => hretired⟩
      · exact .inr hnew
    · rw [stepOperation?_attach hbranch, stepOperation?_eq_of_shape hshape] at hop
      have hpoint := attach_tail hne htail
      rw [hlen] at hpoint
      exact .inr ⟨.inr ⟨hne, .inl hop⟩, hpoint⟩

end Edges

/-! ### Branches that keep a row settled -/

def branchRetired (existing : WorkflowRequest) (branch : CandidateBranch) (replaced : List Nat) : Set Nat :=
  {i | i ∈ (terminalSuperseded existing (normalizedSteps existing) branch.terminal replaced).2}

/-- A branch rewrite that strands nothing: no live step but the rewired join waits directly for a retired step whose
own dependencies are open, the branch is not chained behind such a step, and no resolved job restart is waited for. -/
structure BranchSettles (existing : WorkflowRequest) (branch : CandidateBranch) (predecessor : Option Nat)
    (replaced : List Nat) : Prop where
  retired : ∀ i, i ∉ resolvedSet existing → i ∉ branchRetired existing branch replaced →
    (stepOperation? (normalizedSteps existing) i = some .restartWorkload → branch.steps = []) →
    ∀ j ∈ planDeps false existing i, j ∈ branchRetired existing branch replaced →
      Covered (planDeps false existing) (resolvedSet existing ∪ branchRetired existing branch replaced) j
  chained : branch.steps ≠ [] → ∀ p ∈ resolvedSet existing ∪ branchRetired existing branch replaced,
    rewritePoint existing predecessor = some p →
      Covered (planDeps false existing) (resolvedSet existing ∪ branchRetired existing branch replaced) p
  join : branch.steps ≠ [] → ∀ j ∈ resolvedSet existing ∪ branchRetired existing branch replaced,
    stepOperation? (normalizedSteps existing) j = some .restartWorkload →
      rewritePoint existing predecessor ≠ some j ∧ ∀ i, j ∉ planDeps false existing i

/-- Steps a rewrite may replace: steps of the plan other than the shared STOP_WORKLOADS. -/
def ReplacesBranch (existing : WorkflowRequest) (replaced : List Nat) : Prop :=
  ∀ i ∈ replaced, i < existing.officialSteps.length ∧
    stepOperation? (normalizedSteps existing) i ≠ some .stopWorkloads

section Branch

variable {existing : WorkflowRequest} {branch : CandidateBranch} {predecessor : Option Nat} {replaced : List Nat}
  {i j : Nat}

private theorem mem_branchRetired (h : i ∈ branchRetired existing branch replaced) :
    i ∈ replaced ∨ (i < existing.officialSteps.length ∧
      (stepOperation? (normalizedSteps existing) i = some .restoreScheduling ∨
        stepOperation? (normalizedSteps existing) i = some .restartWorkload)) := by
  have hmem : i ∈ (terminalSuperseded existing (normalizedSteps existing) branch.terminal replaced).2 := h
  rcases mem_terminalSuperseded hmem with hreplaced | ⟨-, step, hstep, hop⟩
  · exact .inl hreplaced
  · have hlt : i < (normalizedSteps existing).length := (List.getElem?_eq_some_iff.mp hstep).1
    rw [length_normalizedSteps] at hlt
    rw [stepOperation?, hstep]
    exact .inr ⟨hlt, by simpa using hop⟩

private theorem branchRetired_lt (hreplaced : ReplacesBranch existing replaced)
    (h : i ∈ branchRetired existing branch replaced) :
    i < existing.officialSteps.length := by
  rcases mem_branchRetired h with h | h
  · exact (hreplaced i h).1
  · exact h.1

/-- An open STOP_WORKLOADS is neither resolved nor retired by a rewrite. -/
private theorem open_stop_live (hreplaced : ReplacesBranch existing replaced)
    (hopen : stopState existing (normalizedSteps existing) = (some i, true)) :
    i ∉ resolvedSet existing ∪ branchRetired existing branch replaced := by
  have hfirst : firstWith (normalizedSteps existing) .stopWorkloads = some i := congrArg Prod.fst hopen
  have huntouched : ((firstWith (normalizedSteps existing) .stopWorkloads).any fun index =>
      untouchedStep existing index .stopWorkloads) = true := congrArg Prod.snd hopen
  rw [hfirst, Option.any_some] at huntouched
  simp only [untouchedStep, Bool.and_eq_true, Bool.not_eq_true', ← Bool.not_eq_true, List.contains_iff_mem]
    at huntouched
  obtain ⟨-, hop⟩ := firstWith_eq_some hfirst
  rintro (hresolved | hretired)
  · rcases List.mem_append.mp hresolved with h | h
    · exact huntouched.1.1 h
    · exact huntouched.1.2 h
  · rcases mem_branchRetired hretired with h | ⟨-, h | h⟩
    · exact (hreplaced i h).2 hop
    · rw [hop] at h
      cases h
    · rw [hop] at h
      cases h

private theorem edge_of_resolved (hbranch : NoRestart branch.steps) (hreplaced : ReplacesBranch existing replaced)
    (hrange : ∀ i ∈ resolvedSet existing, i < existing.officialSteps.length)
    (hi : i ∈ resolvedSet existing ∪ branchRetired existing branch replaced)
    (hop : stepOperation? (normalizedSteps existing) i ≠ some .restartWorkload)
    (hj : j ∈ stepDeps (branchRewrite existing branch predecessor replaced).1 i) : j ∈ planDeps false existing i := by
  rcases edge_of_branchRewrite hbranch hj with ⟨hold, -⟩ | ⟨⟨hge, -⟩ | ⟨-, hrestart | ⟨-, hopen, -⟩⟩, -⟩
  · exact hold
  · have hlt : i < existing.officialSteps.length := by
      rcases hi with hi | hi
      · exact hrange i hi
      · exact branchRetired_lt hreplaced hi
    omega
  · exact absurd hrestart hop
  · exact absurd hi (open_stop_live hreplaced hopen)

private theorem BranchSettles.kept (h : BranchSettles existing branch predecessor replaced)
    (hbranch : NoRestart branch.steps) (hreplaced : ReplacesBranch existing replaced)
    (hrange : ∀ i ∈ resolvedSet existing, i < existing.officialSteps.length) :
    ∀ x ∈ resolvedSet existing ∪ branchRetired existing branch replaced, (∃ i, x ∈ planDeps false existing i) →
      ∀ y ∈ stepDeps (branchRewrite existing branch predecessor replaced).1 x, y ∈ planDeps false existing x := by
  rintro x hx ⟨i, hi⟩ y hy
  by_cases hne : branch.steps = []
  · rcases edge_of_branchRewrite hbranch hy with ⟨hold, -⟩ | ⟨⟨-, hnew⟩ | ⟨hnew, -⟩, -⟩
    · exact hold
    · exact absurd hne hnew
    · exact absurd hne hnew
  · exact edge_of_resolved hbranch hreplaced hrange hx (fun hop => (h.join hne x hx hop).2 i hi) hy

/-- The plan of a rewrite that strands nothing is settled. -/
private theorem BranchSettles.settled (h : BranchSettles existing branch predecessor replaced)
    (hbranch : NoRestart branch.steps) (hreplaced : ReplacesBranch existing replaced)
    (hrange : ∀ i ∈ resolvedSet existing, i < existing.officialSteps.length)
    (hsettled : Settled (planDeps false existing) (resolvedSet existing)) :
    Settled (stepDeps (branchRewrite existing branch predecessor replaced).1)
      (resolvedSet existing ∪ branchRetired existing branch replaced) := by
  have hkept := h.kept hbranch hreplaced hrange
  refine settled_of_rewire (fun x hx _ hwaited => hkept x hx hwaited) fun i hi j hj hjr => ?_
  rw [Set.mem_union, not_or] at hi
  rcases edge_of_branchRewrite hbranch hj with ⟨hold, hdropped⟩ | ⟨hnew, hge | hpoint⟩
  · refine ⟨?_, hkept j hjr ⟨i, hold⟩⟩
    rcases hjr with hjr | hjr
    · exact (hsettled i hi.1 j hold hjr).mono Set.subset_union_left
    · refine h.retired i hi.1 hi.2 (fun hop => ?_) j hold hjr
      by_contra hne
      exact hdropped hop hne hjr
  · have hlt : j < existing.officialSteps.length := by
      rcases hjr with hjr | hjr
      · exact hrange j hjr
      · exact branchRetired_lt hreplaced hjr
    omega
  · have hne : branch.steps ≠ [] := by
      rcases hnew with ⟨-, hne⟩ | ⟨hne, -⟩ <;> exact hne
    refine ⟨h.chained hne j hjr hpoint, fun y hy => ?_⟩
    exact edge_of_resolved hbranch hreplaced hrange hjr (fun hop => (h.join hne j hjr hop).1 hpoint) hy

private theorem BranchSettles.covered (h : BranchSettles existing branch predecessor replaced)
    (hbranch : NoRestart branch.steps) (hreplaced : ReplacesBranch existing replaced)
    (hrange : ∀ i ∈ resolvedSet existing, i < existing.officialSteps.length) (hi : i < existing.officialSteps.length)
    (hkeeps : ¬ Rewires existing branch predecessor i)
    (hcovered : Covered (planDeps false existing) (resolvedSet existing) i) :
    Covered (stepDeps (branchRewrite existing branch predecessor replaced).1)
      (resolvedSet existing ∪ branchRetired existing branch replaced) i := by
  have hkept := h.kept hbranch hreplaced hrange
  refine (hcovered.mono Set.subset_union_left).rewire (fun x hx _ hwaited => hkept x hx hwaited) fun y hy => ?_
  rcases edge_of_branchRewrite hbranch hy with ⟨hold, -⟩ | ⟨⟨hge, -⟩ | hrewires, -⟩
  · exact hold
  · omega
  · exact absurd hrewires hkeeps

end Branch

/-! ### Rewrites of a row -/

/-- An appended branch keeps the row settled: in the official phase as `BranchSettles` says, with the step in flight
not rewired; in the safety phase only what it retires matters. -/
def AppendSettles (isSafety : Bool) (existing : WorkflowRequest) (flying : Option Nat) (candidate : WorkflowRequest)
    (predecessor : Option Nat) (replaced : List Nat) : Prop :=
  ∀ candidate' branch, inheritTerminalQuarantine existing candidate = .ok candidate' →
    candidateBranch candidate' predecessor existing.dagRevision = .ok branch →
    if isSafety then Retirable (planDeps true existing) (resolvedSet existing)
      (branchRetired existing branch replaced)
    else BranchSettles existing branch predecessor replaced ∧ ∀ x, flying = some x →
      x ∉ resolvedSet existing ∪ branchRetired existing branch replaced → ¬ Rewires existing branch predecessor x

/-- A step whose completion may be recorded: it is resolved already or all it waits for is. -/
def Answerable (isSafety : Bool) (row : WorkflowRequest) (index : Nat) : Prop :=
  index ∈ resolvedSet row ∨ Covered (planDeps isSafety row) (resolvedSet row) index

section Rewrites

variable {existing rewritten candidate row row' : WorkflowRequest} {isSafety : Bool} {flying predecessor : Option Nat}
  {replaced : List Nat} {merge : Merge} {now : Time} {i : Nat}

private theorem replacesBranch_nil : ReplacesBranch existing [] := by simp [ReplacesBranch]

theorem stepOperation?_normalizedSteps (existing : WorkflowRequest) (i : Nat) :
    stepOperation? (normalizedSteps existing) i = stepOperation? existing.officialSteps i := by
  rw [stepOperation?, stepOperation?, getElem?_normalizedSteps, Option.map_map]
  rfl

private theorem replacesBranch_of_filter {p : WorkflowStepSpec × Nat → Bool}
    (hp : ∀ step index, step.operation = .stopWorkloads → p (step, index) = false)
    (hreplaced : ∀ i ∈ replaced, i ∈ (existing.officialSteps.zipIdx.filter p).map Prod.snd) :
    ReplacesBranch existing replaced := by
  intro i hi
  obtain ⟨step, hstep, hpi⟩ := mem_zipIdx_indexes (hreplaced i hi)
  refine ⟨(List.getElem?_eq_some_iff.mp hstep).1, ?_⟩
  rw [stepOperation?_normalizedSteps, stepOperation?, hstep]
  intro hop
  rw [hp step i (Option.some.inj hop)] at hpi
  cases hpi

private theorem replacesBranch_replacedStepIndexes (nodeId : String) (branchId : Option String)
    (hreplaced : ∀ i ∈ replaced, i ∈ replacedStepIndexes existing nodeId branchId) :
    ReplacesBranch existing replaced := by
  cases branchId with
  | some id =>
    refine replacesBranch_of_filter (fun step index hop => ?_) hreplaced
    simp [hop, WorkflowOperation.semantics]
  | none =>
    refine replacesBranch_of_filter (fun step index hop => ?_) hreplaced
    simp [hop, WorkflowOperation.semantics]

private theorem replacesBranch_nodeStepIndexes (nodeId : String)
    (hreplaced : ∀ i ∈ replaced, i ∈ nodeStepIndexes existing nodeId) : ReplacesBranch existing replaced := by
  unfold nodeStepIndexes at hreplaced
  split at hreplaced
  · refine replacesBranch_of_filter (fun step index hop => ?_) hreplaced
    simp [hop]
  · refine replacesBranch_of_filter (fun step index hop => ?_) hreplaced
    simp [hop, WorkflowOperation.semantics]

private theorem replacesBranch_replacementTarget {nodeId : String} {branchId : Option String}
    (h : replacementTarget existing nodeId branchId = some (predecessor, replaced)) :
    ReplacesBranch existing replaced := by
  refine replacesBranch_replacedStepIndexes nodeId branchId fun i hi => ?_
  exact (mem_replacementTarget h i).mp hi

private theorem replacesBranch_planTarget {rewrite : PlanRewrite}
    (h : rewrite.target existing = some (candidate, predecessor, replaced)) : ReplacesBranch existing replaced := by
  cases rewrite with
  | append candidate =>
    cases h
    exact replacesBranch_nil
  | replace candidate nodeId branchId =>
    obtain ⟨⟨predecessor', replaced'⟩, htarget, he⟩ := Option.map_eq_some_iff.mp h
    cases he
    exact replacesBranch_replacementTarget htarget
  | successor candidate nodeId =>
    simp only [PlanRewrite.target] at h
    split at h
    · cases h
      exact replacesBranch_nil
    · cases h
  | _ => cases h

private theorem replacesBranch_mergeTarget (h : merge.target existing = some (candidate, predecessor, replaced)) :
    ReplacesBranch existing replaced := by
  cases merge with
  | plan rewrite => exact replacesBranch_planTarget h
  | preempt candidate nodeId =>
    simp only [Merge.target] at h
    split at h
    · exact replacesBranch_planTarget h
    · cases h
      exact replacesBranch_nodeStepIndexes nodeId fun i hi => (List.mem_filter.mp hi).1
  | widenInPlace candidate nodeId gpuUuids => cases h

/-- What an append that keeps the row settled leaves behind. -/
private theorem AppendSettles.appended (h : AppendSettles isSafety existing flying candidate predecessor replaced)
    (hrow : RowSettled isSafety existing) (hreplaced : ReplacesBranch existing replaced)
    (hok : appendParallelJobBranch existing candidate predecessor replaced now = .ok rewritten) :
    RowSettled isSafety rewritten ∧ Grows isSafety existing rewritten ∧
      ∀ x, flying = some x → x < (phaseSteps isSafety existing).length → Answerable isSafety existing x →
        Answerable isSafety rewritten x := by
  rcases appendParallelJobBranch_ok hok with rfl | ⟨candidate', branch, action, hinherit, hcandidate, rfl⟩
  · exact ⟨hrow, .refl isSafety rewritten, fun _ _ _ hx => hx⟩
  have hsettles := h candidate' branch hinherit hcandidate
  have hbranch := noRestart_of_candidateBranch hcandidate
  set rewritten := appendedRow existing branch predecessor replaced action now
  have hresolved : resolvedSet rewritten = resolvedSet existing ∪ branchRetired existing branch replaced :=
    Set.ext fun i => mem_resolved_appendedRow
  cases isSafety with
  | true =>
    refine ⟨⟨hrow.phase, hrow.pending, ?_, fun hphase => ?_, fun hflat => ?_⟩, ⟨le_rfl, fun _ => rfl⟩,
      fun x _ _ hx => ?_⟩
    · rw [hresolved]
      exact hrow.settled.retire hsettles
    · cases hphase
    · cases hflat
    · unfold Answerable
      rw [hresolved]
      rcases hx with hx | hx
      · exact .inl (.inl hx)
      · exact .inr (hx.mono Set.subset_union_left)
  | false =>
    obtain ⟨hsettles, hflying⟩ := hsettles
    have hrange := hrow.inRange rfl
    have hlen := length_branchRewrite existing branch predecessor replaced
    have hle :
        existing.officialSteps.length ≤ (branchRewrite existing branch predecessor replaced).1.length := by omega
    have hdeps : planDeps false rewritten = stepDeps (branchRewrite existing branch predecessor replaced).1 :=
      planDeps_of_dag rfl false
    refine ⟨⟨hrow.phase, hrow.pending, ?_, fun _ i hi => ?_, fun hflat => ?_⟩, ⟨hle, fun _ => rfl⟩,
      fun x hx hlt hanswer => ?_⟩
    · rw [hresolved, hdeps]
      exact hsettles.settled hbranch hreplaced hrange hrow.settled
    · rw [hresolved] at hi
      refine lt_of_lt_of_le ?_ hle
      rcases hi with hi | hi
      · exact hrange i hi
      · exact branchRetired_lt hreplaced hi
    · cases hflat
    · unfold Answerable
      rw [hresolved, hdeps]
      by_cases hmem : x ∈ resolvedSet existing ∪ branchRetired existing branch replaced
      · exact .inl hmem
      · rcases hanswer with hanswer | hanswer
        · exact .inl (.inl hanswer)
        · exact .inr (hsettles.covered hbranch hreplaced hrange hlt (hflying x hx hmem) hanswer)

theorem Answerable.congr (hplan : SamePlan row row') (hresolved : resolvedSet row' = resolvedSet row)
    (h : Answerable isSafety row i) : Answerable isSafety row' i := by
  unfold Answerable
  rw [hplan.deps, hresolved]
  exact h

end Rewrites

/-- A merge keeps the row settled, and the step in flight. -/
def MergeSettles (isSafety : Bool) (existing : WorkflowRequest) (flying : Option Nat) (merge : Merge) : Prop :=
  ∀ candidate predecessor replaced, merge.target existing = some (candidate, predecessor, replaced) →
    AppendSettles isSafety existing flying candidate predecessor replaced

/-- How a failed step is taken keeps the row settled: the steps given up with it strand nothing, nor does the branch
of its next rung. -/
def FailureSettles (isSafety : Bool) (row : WorkflowRequest) (index : Nat) (outcome : StepOutcome)
    (verdict : BranchVerdict) (now : Time) : Prop :=
  if (supportHandoff row index outcome now).isSome then
    Retirable (planDeps isSafety row) (resolvedSet row) {i | i ∈ handoffRetired row index outcome ++ [index]}
  else
    ∀ grown step branchId, escalationRow row index now = some (grown, step) → step.branchId = some branchId →
      match verdict with
      | .jobLevel => True
      | .exhausted =>
        Retirable (planDeps isSafety grown) (resolvedSet grown) {i | i ∈ pendingBranchSteps grown branchId}
      | .rung candidate => ∀ predecessor replaced,
        replacementTarget grown (step.nodeIds.headD "") (some branchId) = some (predecessor, replaced) →
          AppendSettles isSafety grown none candidate predecessor replaced

section Events

variable {row row' : WorkflowRequest} {isSafety : Bool} {flying : Option Nat} {merge : Merge} {index : Nat}
  {outcome : StepOutcome} {verdict : BranchVerdict} {now : Time}

theorem MergeSettles.merged (h : MergeSettles isSafety row flying merge) (hrow : RowSettled isSafety row) :
    RowSettled isSafety (mergedRow row merge now) ∧ Grows isSafety row (mergedRow row merge now) ∧
      ∀ x, flying = some x → x < (phaseSteps isSafety row).length → Answerable isSafety row x →
        Answerable isSafety (mergedRow row merge now) x := by
  unfold mergedRow
  cases happly : merge.apply row now with
  | error e => exact ⟨hrow, .refl isSafety row, fun _ _ _ hx => hx⟩
  | ok rewritten =>
    have hbump : SamePlan rewritten { rewritten with mergeRevision := row.mergeRevision + 1 } :=
      .of_shape rfl id rfl rfl rfl
    have hsame : SamePlan row rewritten → resolvedSet rewritten = resolvedSet row →
        RowSettled isSafety { rewritten with mergeRevision := row.mergeRevision + 1 } ∧
          Grows isSafety row { rewritten with mergeRevision := row.mergeRevision + 1 } ∧
          ∀ x, flying = some x → x < (phaseSteps isSafety row).length → Answerable isSafety row x →
            Answerable isSafety { rewritten with mergeRevision := row.mergeRevision + 1 } x := by
      intro hplan hresolved
      have hplan' := hplan.trans hbump
      exact ⟨hrow.congr hplan' hresolved, hplan'.grows isSafety, fun x _ _ hx => hx.congr hplan' hresolved⟩
    rcases Merge.apply_ok happly with rfl | rfl | ⟨candidate, nodeId, gpuUuids, -, rfl⟩ |
      ⟨candidate, nodeId, gpuUuids, -, rfl⟩ | ⟨candidate, predecessor, replaced, htarget, happend⟩
    · exact hsame (.of_shape rfl id rfl rfl rfl) rfl
    · exact hsame (samePlan_adoptLinearPlan row now) (resolvedSet_adoptLinearPlan row now)
    · refine hsame (.of_shape rfl id (planShape_map_zipIdx fun step index => ?_) rfl rfl) rfl
      dsimp only
      split <;> exact ⟨rfl, rfl⟩
    · refine hsame (.of_shape rfl id (planShape_map_zipIdx fun step index => ?_) rfl rfl) rfl
      dsimp only
      split <;> exact ⟨rfl, rfl⟩
    · obtain ⟨hrow', hgrows, hflying⟩ := (h _ _ _ htarget).appended hrow (replacesBranch_mergeTarget htarget) happend
      refine ⟨hrow'.congr hbump rfl, hgrows.trans (hbump.grows isSafety), fun x hx hlt hanswer => ?_⟩
      exact (hflying x hx hlt hanswer).congr hbump rfl

private theorem dependentSearch_lt {steps : List WorkflowStepSpec} (fuel : Nat) (frontier found : List Nat)
    (hfound : ∀ i ∈ found, i < steps.length) : ∀ i ∈ dependentSearch steps fuel frontier found, i < steps.length := by
  induction fuel generalizing frontier found with
  | zero => exact hfound
  | succ fuel ih =>
    cases frontier with
    | nil => exact hfound
    | cons current frontier =>
      refine ih _ _ fun i hi => ?_
      rcases List.mem_append.mp hi with hi | hi
      · exact hfound i hi
      · exact List.mem_range.mp (List.mem_filter.mp hi).1

private theorem handoffRetired_lt {i : Nat} (h : i ∈ handoffRetired row index outcome) :
    i < row.officialSteps.length := by
  have hgiven := (List.mem_filter.mp h).1
  split at hgiven
  · exact List.mem_range.mp (List.mem_filter.mp hgiven).1
  · exact dependentSearch_lt _ _ _ (by simp) i hgiven

theorem exhaustBranch_plan (row : WorkflowRequest) (branchId : String) (now : Time) :
    SamePlan row (exhaustBranch row branchId now) ∧
      resolvedSet (exhaustBranch row branchId now) = resolvedSet row ∪ {i | i ∈ pendingBranchSteps row branchId} := by
  unfold exhaustBranch
  dsimp only
  split
  · rename_i hnone
    simp only [Bool.and_eq_true, List.isEmpty_iff] at hnone
    refine ⟨.of_shape rfl id rfl rfl rfl, ?_⟩
    rw [hnone.1]
    simp
  · exact ⟨.of_shape rfl id rfl rfl rfl, resolvedSet_retireSteps row _ now⟩

theorem FailureSettles.rewritten (h : FailureSettles isSafety row index outcome verdict now)
    (hrow : RowSettled isSafety row)
    (htaken : escalateFailedBranch row index outcome verdict now = .rewritten row') :
    RowSettled isSafety row' ∧ Grows isSafety row row' := by
  unfold FailureSettles at h
  rcases escalateFailedBranch_eq_rewritten htaken with
    hhandoff | ⟨hnone, grown, step, branchId, hgrown, hbranchId, hcases⟩
  · rw [hhandoff] at h
    obtain ⟨hlt, reason, rfl⟩ := supportHandoff_eq_some hhandoff
    have hplan : SamePlan row { retireSteps row (handoffRetired row index outcome ++ [index]) now with
        terminalFailureReason := reason } := .of_shape rfl id rfl rfl rfl
    refine ⟨hrow.retire hplan (resolvedSet_retireSteps row _ now) h fun _ i hi => ?_, hplan.grows isSafety⟩
    rcases List.mem_append.mp hi with hi | hi
    · exact handoffRetired_lt hi
    · rw [List.mem_singleton.mp hi]
      exact hlt
  · rw [hnone] at h
    have hsettles := h grown step branchId hgrown hbranchId
    have hplan : SamePlan row grown ∧ resolvedSet grown = resolvedSet row := by
      rcases escalationRow_eq_some hgrown with rfl | rfl
      · exact ⟨.of_shape rfl id rfl rfl rfl, rfl⟩
      · exact ⟨samePlan_adoptLinearPlan row now, resolvedSet_adoptLinearPlan row now⟩
    have hrow' := hrow.congr hplan.1 hplan.2
    have hgrows := hplan.1.grows isSafety
    rcases hcases with ⟨rfl, rfl⟩ | ⟨candidate, rfl, rfl | ⟨predecessor, replaced, htarget, happend⟩⟩
    · obtain ⟨hplan', hresolved'⟩ := exhaustBranch_plan grown branchId now
      refine ⟨hrow'.retire hplan' hresolved' hsettles fun _ i hi => ?_, hgrows.trans (hplan'.grows isSafety)⟩
      obtain ⟨step', hstep', -⟩ := mem_zipIdx_indexes (List.mem_filter.mp hi).1
      exact (List.getElem?_eq_some_iff.mp hstep').1
    · exact ⟨hrow', hgrows⟩
    · obtain ⟨hsettled, hgrows', -⟩ := (hsettles predecessor replaced htarget).appended hrow'
        (replacesBranch_replacementTarget htarget) happend
      exact ⟨hsettled, hgrows.trans hgrows'⟩

end Events

end GpuFaultRecovery
