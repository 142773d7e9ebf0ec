import GpuFaultRecovery.AppendedBranch
import GpuFaultRecovery.PlanHistory

/-!
# How often a branch climbs

A failed branch is replaced by the next rung of its ladder, at most `max_rungs` times. The rungs are counted under a
lineage node: the node the branch was made for, read from the step, else from the branch id, else from the node the
step acts on. After a replacement the steps of a branch act on a spare, and every rung mints a branch of its own, so
the count holds only because what names the lineage survives both.
-/

namespace GpuFaultRecovery

/-- The nodes a step or its branch id names as those it was made for. -/
def WorkflowStepSpec.namedLineage (step : WorkflowStepSpec) : List String :=
  if step.branchNodeIds.isEmpty then (step.branchId.map branchIdNodes).getD [] else step.branchNodeIds

/-- Every branch of the plan names the one node it was made for; a flat plan has no branches. -/
structure LineageNamed (row : WorkflowRequest) : Prop where
  branches : row.dagEnabled = true → ∀ step ∈ normalizedSteps row, step.nodeBranch = true →
    ∃ lineage, step.namedLineage = [lineage]
  flat : row.dagEnabled = false → ∀ step ∈ row.officialSteps, step.branchId = none ∧ step.branchNodeIds = []

/-- What happens to a plan no merge touches. -/
inductive LadderEvent where
  | fail (profile : Option RuntimeProfile) (failedIndex : Nat) (error : Option String) (details : Details)
      (now : Time)
  | rebind (rebindings : List (String × String)) (inventory : String → List String) (isSafety : Bool)
      (afterIndex : Nat)
      (now : Time)
  | attempt (step : WorkflowStepSpec) (index : Nat) (outcome : StepOutcome) (now : Time)
  | complete (index : Nat) (operation : WorkflowOperation) (now : Time)

/-- A plan, the node each of its steps goes back to, the node of every rung taken so far, and the steps of the
branches that were exhausted. -/
structure LadderState where
  row : WorkflowRequest
  lineage : Nat → Option String
  rungs : List (Option String) := []
  exhausted : List Nat := []

/-- The node a failed step goes back to. A flat plan belongs to the node its failed step acts on. -/
def LadderState.lineageOf (s : LadderState) (index : Nat) : Option String :=
  if s.row.dagEnabled then s.lineage index
  else (s.row.officialSteps[index]?).bind fun step => step.nodeIds.head?

/-- The lineages after the step at `failedIndex` failed: steps appended for it go back to its node, and so does the
whole of a flat plan. -/
def LadderState.lineagesAfter (s : LadderState) (failedIndex : Nat) : Nat → Option String := fun i =>
  if s.row.dagEnabled && decide (i < s.row.officialSteps.length) then s.lineage i else s.lineageOf failedIndex

/-- A step of the plan as it is found goes back to the node its branch names. -/
def ladderStart (row : WorkflowRequest) : LadderState where
  row := row
  lineage i := (row.officialSteps[i]?).bind fun step => step.namedLineage.head?

def ladderStep (maxRungs : Nat) (s : LadderState) : LadderEvent → LadderState
  | .fail profile failedIndex error details now =>
    match escalateNodeBranch profile maxRungs s.row failedIndex error details now with
    | .ok (some escalation) =>
      { row := escalation.workflow
        lineage := s.lineagesAfter failedIndex
        rungs := if escalation.outcome = .escalated then s.lineageOf failedIndex :: s.rungs else s.rungs
        exhausted :=
          if escalation.outcome = .exhausted then
            s.exhausted ++ branchStepIndexes escalation.workflow escalation.branchId
          else s.exhausted }
    | _ => s
  | .rebind rebindings inventory isSafety afterIndex now =>
    match rebindNodes s.row rebindings inventory isSafety afterIndex now with
    | .ok row => { s with row }
    | .error _ => s
  | .attempt step index outcome now => { s with row := recordAttempt s.row step index outcome now }
  | .complete index operation now => { s with row := recordCompletion s.row index operation now }

/-! ### Steps that climb -/

/-- The operations whose failure has a next rung. -/
def climbs (operation : WorkflowOperation) : Bool :=
  operation.reset || operation == .restartNode || operation.validation

/-- A step whose failure can climb: no job level step. -/
structure OnLadder (step : WorkflowStepSpec) : Prop where
  climbs : climbs step.operation = true
  not_shared : step.branchId ≠ some "shared"
  not_join : step.branchId ≠ some "join"

section Lineage

variable {row row' existing candidate result : WorkflowRequest} {step source : WorkflowStepSpec}
  {branch : CandidateBranch}
  {predecessor : Option Nat} {replaced : List Nat} {nodeId branchId lineage : String} {details : Details}
  {operation : WorkflowOperation} {now : Time} {i : Nat}

private theorem climbs_of_nextRung {failed rung : WorkflowOperation} {context : List WorkflowOperation}
    (h : nextRung failed context details = some rung) : climbs failed = true := by
  unfold nextRung at h
  split at h
  · rename_i hdrain
    rw [eq_of_beq hdrain]
    rfl
  split at h
  · rename_i hreset
    simp [climbs, hreset]
  split at h
  · rename_i hrestart
    simp [climbs, hrestart]
  split at h
  · rename_i hvalidation
    simp [climbs, hvalidation]
  · cases h

private theorem node_of_climbs (h : climbs operation = true) : operation.semantics.workloadScoped = false ∧
    operation.semantics.sharedDag = false ∧ operation ≠ .quarantine ∧ operation ≠ .restartWorkload := by
  revert h
  cases operation <;> decide

private theorem OnLadder.nodeBranch (h : OnLadder step) (hbranch : step.branchId ≠ none) :
    step.nodeBranch = true := by
  simp [WorkflowStepSpec.nodeBranch, h.not_shared, h.not_join, (node_of_climbs h.climbs).1,
    Option.isSome_iff_ne_none.mpr hbranch]

private theorem branchIdNodes_unnamed :
    branchIdNodes "" = [] ∧ branchIdNodes "shared" = [] ∧ branchIdNodes initialBranchId = [] := by
  decide

/-- Normalizing a plan names no lineage that was not named before. -/
private theorem namedLineage_normalized (dependencies : List Nat) :
    ({ step with
      dependsOnStepIndexes := dependencies
      branchId := some ((step.branchId.filter (· != "")).getD
        (if step.operation.semantics.sharedDag then "shared" else initialBranchId)) } :
          WorkflowStepSpec).namedLineage =
      step.namedLineage := by
  obtain ⟨hempty, hshared, hinitial⟩ := branchIdNodes_unnamed
  unfold WorkflowStepSpec.namedLineage
  dsimp only
  split
  · cases hid : step.branchId with
    | none =>
      cases step.operation.semantics.sharedDag <;> simp [hshared, hinitial]
    | some id =>
      by_cases hnone : id = ""
      · have hfilter : (some "").filter (fun label => label != "") = none := by decide
        rw [hnone, hfilter]
        cases step.operation.semantics.sharedDag <;> simp [hshared, hinitial, hempty]
      · simp [Option.filter, hnone]
  · rfl

private theorem branchLineage_of_named (hid : step.branchId = some branchId) (h : step.namedLineage = [lineage]) :
    branchLineage step nodeId branchId = ([lineage], lineage) := by
  unfold WorkflowStepSpec.namedLineage at h
  rw [hid] at h
  unfold branchLineage
  split at h
  · rename_i hempty
    simp only [Option.map_some, Option.getD_some] at h
    simp [hempty, h]
  · simp [h]

private theorem branchLineage_of_unnamed (hid : step.branchId = some branchId) (h : step.namedLineage = []) :
    branchLineage step nodeId branchId = ([nodeId], nodeId) := by
  unfold WorkflowStepSpec.namedLineage at h
  rw [hid] at h
  unfold branchLineage
  split at h
  · rename_i hempty
    simp only [Option.map_some, Option.getD_some] at h
    simp [hempty, h]
  · rename_i hne
    exact absurd (List.isEmpty_iff.mpr h) hne

/-! ### What a rewrite does to the names of a plan -/

/-- The operation of a step, its branch and the nodes it was made for. -/
def WorkflowStepSpec.naming (step : WorkflowStepSpec) : WorkflowOperation × Option String × List String :=
  (step.operation, step.branchId, step.branchNodeIds)

private theorem OnLadder.congr {other : WorkflowStepSpec} (h : OnLadder step) (hname : step.naming = other.naming) :
    OnLadder other := by
  simp only [WorkflowStepSpec.naming, Prod.mk.injEq] at hname
  obtain ⟨hop, hid, -⟩ := hname
  exact ⟨hop ▸ h.climbs, hid ▸ h.not_shared, hid ▸ h.not_join⟩

private theorem namedLineage_congr {other : WorkflowStepSpec} (hname : step.naming = other.naming) :
    step.namedLineage = other.namedLineage := by
  simp only [WorkflowStepSpec.naming, Prod.mk.injEq] at hname
  obtain ⟨-, hid, hnodes⟩ := hname
  simp only [WorkflowStepSpec.namedLineage, hid, hnodes]

theorem naming_suppressStep (existing : WorkflowRequest) (held : List String) (step : WorkflowStepSpec)
    (index : Nat) :
    (suppressStep existing held step index).1.naming = step.naming := by
  unfold suppressStep
  dsimp only
  split
  · rfl
  split
  · rfl
  split
  · split <;> rfl
  · rfl

private theorem naming_narrowedPlan :
    ((narrowedPlan existing branch replaced)[i]?).map WorkflowStepSpec.naming =
      ((normalizedSteps existing)[i]?).map WorkflowStepSpec.naming := by
  unfold narrowedPlan terminalSuperseded
  split
  · rfl
  · dsimp only
    rw [getElem?_suppressReadmission, Option.map_map]
    congr 1
    funext step
    exact naming_suppressStep _ _ step i

/-- A rewrite leaves the names of an old step that restarts no job. -/
theorem naming_branchRewrite (hbranch : NoRestart branch.steps) (hi : i < existing.officialSteps.length)
    (hop : stepOperation? existing.officialSteps i ≠ some .restartWorkload) :
    ((branchRewrite existing branch predecessor replaced).1[i]?).map WorkflowStepSpec.naming =
      ((normalizedSteps existing)[i]?).map WorkflowStepSpec.naming := by
  have hattached : stepOperation? (attachedPlan existing branch predecessor replaced) i ≠ some .restartWorkload := by
    unfold attachedPlan
    rw [Ne, stepOperation?_attach hbranch, stepOperation?_eq_of_shape (narrowedPlan_shape _ _ _),
      stepOperation?_normalizedSteps]
    exact hop
  rw [getElem?_branchRewrite hattached, attachedPlan,
    map_getElem?_attach (fun _ _ => rfl) (by rw [length_narrowedPlan]; exact hi), naming_narrowedPlan]

/-- `row'` has the steps of `row` that can climb, under the same names; the `fixed` ones still act on the same
nodes. -/
structure SameLadder (fixed : Nat → Prop) (row row' : WorkflowRequest) : Prop where
  step : ∀ i < row.officialSteps.length, ∀ step', row'.officialSteps[i]? = some step' → OnLadder step' →
    ∃ step, row.officialSteps[i]? = some step ∧ OnLadder step ∧ step'.namedLineage = step.namedLineage ∧
      (fixed i → step'.nodeIds = step.nodeIds)
  resolved : ∀ i ∈ row.resolvedStepIndexes, i ∈ row'.resolvedStepIndexes

private theorem HistoryKept.resolved (h : HistoryKept row row') (hi : i ∈ row.resolvedStepIndexes) :
    i ∈ row'.resolvedStepIndexes := by
  unfold WorkflowRequest.resolvedStepIndexes at hi ⊢
  rw [h.completed]
  exact (List.mem_append.mp hi).elim (List.mem_append_left _) fun hs => List.mem_append_right _ (h.superseded i hs)

private theorem SameLadder.of_steps (hsteps : row'.officialSteps = row.officialSteps)
    (hresolved : ∀ i ∈ row.resolvedStepIndexes, i ∈ row'.resolvedStepIndexes) :
    SameLadder (fun _ => True) row row' where
  step _ _ step' hstep' hladder := ⟨step', hsteps ▸ hstep', hladder, rfl, fun _ => rfl⟩
  resolved := hresolved

private theorem naming_rebindNodes {rebindings : List (String × String)} {inventory : String → List String}
    {isSafety : Bool}
    {afterIndex : Nat} (h : rebindNodes row rebindings inventory isSafety afterIndex now = .ok row') :
    row'.officialSteps.map WorkflowStepSpec.naming = row.officialSteps.map WorkflowStepSpec.naming := by
  unfold rebindNodes at h
  dsimp only at h
  split at h
  · cases h
  · cases h
    cases isSafety with
    | true => rfl
    | false =>
      refine List.ext_getElem? fun i => ?_
      simp only [phaseSteps, Bool.false_eq_true, if_false, List.getElem?_map, List.getElem?_zipIdx]
      cases row.officialSteps[i]? with
      | none => rfl
      | some step =>
        simp only [Option.map_some, Option.some.injEq]
        split <;> rfl

private theorem sameLadder_rebind {rebindings : List (String × String)} {inventory : String → List String}
    {isSafety : Bool}
    {afterIndex : Nat} (h : rebindNodes row rebindings inventory isSafety afterIndex now = .ok row') :
    SameLadder (· ∈ row.resolvedStepIndexes) row row' := by
  have hkept := historyKept_rebindNodes h
  have hnaming := naming_rebindNodes h
  refine ⟨fun i hi step' hstep' hladder => ?_, fun i hi => hkept.resolved hi⟩
  have hstep := List.getElem?_eq_getElem hi
  generalize row.officialSteps[i] = step at hstep
  have hname : step'.naming = step.naming := by
    have hmap := congrArg (fun names => names[i]?) hnaming
    simpa [List.getElem?_map, hstep, hstep'] using hmap
  refine ⟨step, hstep, hladder.congr hname, namedLineage_congr hname, fun hresolved => ?_⟩
  have hhistory : HasHistory row i := hasHistory_iff.mpr (List.mem_append_left _ hresolved)
  obtain ⟨kept, hkept', -, hnodes, -⟩ := hkept.work false i step hstep hhistory
  cases hkept'.symm.trans hstep'
  exact hnodes

private theorem onLadder_of_normalized {dependencies : List Nat} (h : OnLadder { step with
      dependsOnStepIndexes := dependencies
      branchId := some ((step.branchId.filter (· != "")).getD
        (if step.operation.semantics.sharedDag then "shared" else initialBranchId)) }) : OnLadder step where
  climbs := h.climbs
  not_shared hid := h.not_shared (by rw [hid]; rfl)
  not_join hid := h.not_join (by rw [hid]; rfl)

private theorem OnLadder.normalized (h : OnLadder step) (dependencies : List Nat) : OnLadder { step with
    dependsOnStepIndexes := dependencies
    branchId := some ((step.branchId.filter (· != "")).getD
      (if step.operation.semantics.sharedDag then "shared" else initialBranchId)) } := by
  obtain ⟨-, hshared, -⟩ := node_of_climbs h.climbs
  have hlabel : ∀ label, label ≠ initialBranchId → step.branchId ≠ some label →
      some ((step.branchId.filter (· != "")).getD
        (if step.operation.semantics.sharedDag then "shared" else initialBranchId)) ≠ some label := by
    intro label hinitial hne heq
    rw [hshared] at heq
    simp only [Bool.false_eq_true, if_false, Option.some.injEq] at heq
    cases hid : step.branchId.filter (· != "") with
    | none =>
      rw [hid] at heq
      exact hinitial heq.symm
    | some id =>
      rw [hid] at heq
      exact hne (heq ▸ (Option.filter_eq_some_iff.mp hid).1)
  exact ⟨h.climbs, hlabel "shared" (by decide) h.not_shared, hlabel "join" (by decide) h.not_join⟩

/-- An appended branch leaves every step that can climb where it is and what it is. -/
private theorem sameLadder_append
    (h : appendParallelJobBranch existing candidate predecessor replaced now = .ok result) :
    SameLadder (fun _ => True) existing result := by
  have hkept := historyKept_append h
  rcases appendParallelJobBranch_ok h with rfl | ⟨candidate', branch, action, -, hbranch, rfl⟩
  · exact .of_steps rfl fun _ hi => hi
  refine ⟨fun i hi step' hstep' hladder => ?_, fun i hi => hkept.resolved hi⟩
  have hrewritten : (branchRewrite existing branch predecessor replaced).1[i]? = some step' := hstep'
  have hstep := List.getElem?_eq_getElem hi
  generalize existing.officialSteps[i] = step at hstep
  have hclimbs : climbs step.operation = true := by
    obtain ⟨other, hother, hsame⟩ := hkept.operations false i step hstep
    cases hother.symm.trans hstep'
    rw [← hsame]
    exact hladder.climbs
  obtain ⟨-, -, -, hrestart⟩ := node_of_climbs hclimbs
  have hname := @naming_branchRewrite existing branch predecessor replaced i (noRestart_of_candidateBranch hbranch) hi
    (by simp [stepOperation?, hstep, hrestart])
  rw [hrewritten, getElem?_normalizedSteps, hstep, Option.map_some, Option.map_some, Option.map_some,
    Option.some.injEq] at hname
  refine ⟨step, hstep, onLadder_of_normalized (hladder.congr hname), ?_, fun _ => ?_⟩
  · exact (namedLineage_congr hname).trans (namedLineage_normalized _)
  · have hrestore : step.operation ≠ .restoreScheduling := by
      intro heq
      rw [heq] at hclimbs
      cases hclimbs
    obtain ⟨kept, hkept', hsame⟩ := @branchRewrite_keeps existing branch step predecessor replaced i hstep hrestore
    cases hkept'.symm.trans hrewritten
    exact hsame.nodeIds

/-- A merge of holds leaves to every step but its own quarantines the nodes it was made for. -/
theorem inherit_branchNodeIds (h : inheritTerminalQuarantine existing candidate = .ok result)
    (hstep : result.officialSteps[i]? = some step) :
    step.operation = .quarantine ∨ ∃ origin ∈ candidate.officialSteps, step.branchNodeIds = origin.branchNodeIds := by
  obtain ⟨required, place, rfl | hplaced⟩ := inherit_placed h
  · exact .inr ⟨step, List.mem_of_getElem? hstep, rfl⟩
  rcases hplaced.back i step hstep with ⟨k, marked, rfl, hmarked, hsame⟩ | ⟨-, hquarantine⟩
  · rw [getElem?_inheritedSteps] at hmarked
    obtain ⟨origin, horigin, rfl⟩ := Option.map_eq_some_iff.mp hmarked
    refine .inr ⟨origin, List.mem_of_getElem? horigin, ?_⟩
    have hname := naming_suppressStep candidate required origin k
    simp only [WorkflowStepSpec.naming, Prod.mk.injEq] at hname
    rw [hsame, ← hname.2.2]
    unfold inheritedStep markHeld
    dsimp only
    split <;> rfl
  · exact .inl hquarantine

/-- A step of the branch as it is appended. -/
private theorem branchNodeIds_of_part (h : source ∈ rewriteAhead existing branch predecessor ∨
      source ∈ rewriteRest existing branch predecessor) :
    ∃ origin ∈ branch.steps, source.operation = origin.operation ∧ source.branchNodeIds = origin.branchNodeIds := by
  have hafter : ∀ origin : WorkflowStepSpec, (afterStopStep origin).branchNodeIds = origin.branchNodeIds := by
    intro origin
    unfold afterStopStep
    split <;> rfl
  unfold rewriteAhead rewriteRest CandidateBranch.ahead CandidateBranch.rest CandidateBranch.leading
    CandidateBranch.trailing at h
  rcases h with h | h
  · split at h
    · cases h
    split at h
    · obtain ⟨entry, hentry, rfl⟩ := List.mem_map.mp h
      exact ⟨entry.1, List.mem_map_of_mem (List.mem_filter.mp hentry).1, rfl, rfl⟩
    · cases h
  · split at h
    · exact ⟨source, h, rfl, rfl⟩
    split at h
    · obtain ⟨entry, hentry, rfl⟩ := List.mem_map.mp h
      exact ⟨entry.1, List.mem_map_of_mem (List.mem_filter.mp hentry).1, afterStopStep_operation _, hafter _⟩
    · obtain ⟨origin, horigin, rfl⟩ := List.mem_map.mp h
      exact ⟨origin, horigin, afterStopStep_operation _, hafter _⟩

private theorem namedLineage_new (hcandidate : ∀ origin ∈ candidate.officialSteps, origin.branchNodeIds = [lineage])
    (h : appendParallelJobBranch existing candidate predecessor replaced now = .ok result)
    (hi : existing.officialSteps.length ≤ i) (hstep : result.officialSteps[i]? = some step)
    (hladder : OnLadder step) :
    step.namedLineage = [lineage] := by
  rcases appendParallelJobBranch_ok h with rfl | ⟨candidate', branch, action, hinherit, hbranch, rfl⟩
  · rw [List.getElem?_eq_none hi] at hstep
    cases hstep
  obtain ⟨source, hsource, base, count, previous, rfl⟩ :=
    exists_of_new (noRestart_of_candidateBranch hbranch) hi hstep
  obtain ⟨origin, horigin, hop, hnodes⟩ := branchNodeIds_of_part hsource
  obtain ⟨k, hlive, -⟩ := (mem_candidateBranch hbranch).mp horigin
  have hmade : origin.branchNodeIds = [lineage] := by
    rcases inherit_branchNodeIds hinherit hlive.1 with hquarantine | ⟨first, hfirst, hsame⟩
    · exact absurd (hop.trans hquarantine) (node_of_climbs hladder.climbs).2.2.1
    · rw [hsame, hcandidate first hfirst]
  simp [WorkflowStepSpec.namedLineage, chainStep, WorkflowStepSpec.identityNodes, hnodes, hmade]

/-- A replacement appends a branch or leaves the record as it is. -/
theorem replaceParallelJobBranch_append {branchId : Option String}
    (h : replaceParallelJobBranch existing candidate nodeId branchId now = .ok result) :
    result = existing ∨
      ∃ predecessor replaced, appendParallelJobBranch existing candidate predecessor replaced now = .ok result := by
  unfold replaceParallelJobBranch at h
  split at h
  · exact .inl (Except.ok.inj h).symm
  · exact .inr ⟨_, _, h⟩

private theorem resolved_of_replace (hi : i ∈ branchStepIndexes existing branchId)
    (h : replaceParallelJobBranch existing candidate nodeId (some branchId) now = .ok result) :
    i ∈ result.resolvedStepIndexes := by
  rcases replaceParallelJobBranch_cases h with
    ⟨-, -, hnil⟩ | ⟨predecessor, replaced, candidate', branch, action, -, hmem, -, -, rfl⟩
  · rw [show branchStepIndexes existing branchId = [] from hnil] at hi
    cases hi
  · have hreplaced := (hmem i).mpr hi
    refine mem_resolved_appendedRow.mpr (.inr ?_)
    change i ∈ (terminalSuperseded existing (normalizedSteps existing) branch.terminal replaced).2
    unfold terminalSuperseded
    split
    · exact hreplaced
    · exact List.mem_append_left _ hreplaced

private theorem resolved_of_exhaust (hi : i ∈ branchStepIndexes row branchId) :
    i ∈ (exhaustBranch row branchId now).resolvedStepIndexes := by
  have hresolved := (exhaustBranch_plan row branchId now).2
  have hmem : i ∈ resolvedSet row ∪ {i | i ∈ pendingBranchSteps row branchId} := by
    by_cases hdone : i ∈ row.resolvedStepIndexes
    · exact .inl hdone
    · exact .inr (List.mem_filter.mpr ⟨hi, by simpa using hdone⟩)
  rw [← hresolved] at hmem
  exact hmem

/-! ### The invariant -/

/-- Every step that can climb goes back to the node its names give; where they give none it goes back to the node it
acts on, and it is `retired`. -/
def LadderNamed (row : WorkflowRequest) (lineages : Nat → Option String) (retired : Nat → Prop) : Prop :=
  ∀ i step, row.officialSteps[i]? = some step → OnLadder step → ∃ lineage, lineages i = some lineage ∧
    (step.namedLineage = [lineage] ∨
      (step.namedLineage = [] ∧ (∀ node ∈ step.nodeIds, node = lineage) ∧ retired i))

/-- A rewrite that keeps the ladders of a plan and appends steps with names. -/
private theorem LadderNamed.move {fixed retired retired' : Nat → Prop} {lineages lineages' : Nat → Option String}
    (h : LadderNamed row lineages retired) (hsame : SameLadder fixed row row')
    (hfixed : ∀ i, retired i → fixed i) (hretired : ∀ i, retired i → retired' i)
    (hold : ∀ i < row.officialSteps.length, lineages' i = lineages i)
    (hnew : ∀ i step, row.officialSteps.length ≤ i → row'.officialSteps[i]? = some step → OnLadder step →
      ∃ lineage, lineages' i = some lineage ∧ step.namedLineage = [lineage]) :
    LadderNamed row' lineages' retired' := by
  intro i step' hstep' hladder'
  by_cases hi : i < row.officialSteps.length
  · obtain ⟨step, hstep, hladder, hnames, hnodes⟩ := hsame.step i hi step' hstep' hladder'
    obtain ⟨lineage, hlineage, hnamed | ⟨hunnamed, hon, hgone⟩⟩ := h i step hstep hladder
    · exact ⟨lineage, (hold i hi).trans hlineage, .inl (hnames.trans hnamed)⟩
    · refine ⟨lineage, (hold i hi).trans hlineage, .inr ⟨hnames.trans hunnamed, ?_, hretired i hgone⟩⟩
      rw [hnodes (hfixed i hgone)]
      exact hon
  · obtain ⟨lineage, hlineage, hnamed⟩ := hnew i step' (not_lt.mp hi) hstep' hladder'
    exact ⟨lineage, hlineage, .inl hnamed⟩

/-- What holds along a run: the lineage of each step is the one its rungs are counted under, no lineage took more
rungs than were counted or allowed, and exhausted branches are resolved. -/
structure LadderInv (maxRungs : Nat) (s : LadderState) : Prop where
  named : s.row.dagEnabled = true → LadderNamed s.row s.lineage (· ∈ s.row.resolvedStepIndexes)
  flat : s.row.dagEnabled = false → ∀ step ∈ s.row.officialSteps, step.branchId = none ∧ step.branchNodeIds = []
  counted : ∀ lineage, s.rungs.count (some lineage) ≤ (s.row.branchEscalationCounts.lookup lineage).getD 0
  bounded : ∀ lineage, s.rungs.count (some lineage) ≤ maxRungs
  known : none ∉ s.rungs
  exhausted : ∀ i ∈ s.exhausted, i ∈ s.row.resolvedStepIndexes

variable {maxRungs : Nat} {s : LadderState}

private theorem ladderInv_start (h : LineageNamed row) : LadderInv maxRungs (ladderStart row) where
  named hdag i step hstep hladder := by
    have hmem := getElem?_normalizedSteps row i
    rw [show row.officialSteps[i]? = some step from hstep, Option.map_some] at hmem
    obtain ⟨lineage, hlineage⟩ := h.branches hdag _ (List.mem_of_getElem? hmem)
      ((hladder.normalized _).nodeBranch (by simp))
    rw [namedLineage_normalized] at hlineage
    refine ⟨lineage, ?_, .inl hlineage⟩
    simp [ladderStart, show row.officialSteps[i]? = some step from hstep, hlineage]
  flat hflat := h.flat hflat
  counted _ := Nat.zero_le _
  bounded _ := Nat.zero_le _
  known := List.not_mem_nil
  exhausted _ hi := absurd hi List.not_mem_nil

/-- An event that climbs nothing. -/
private theorem LadderInv.keep {fixed : Nat → Prop} (h : LadderInv maxRungs s) (hsame : SameLadder fixed s.row row')
    (hfixed : ∀ i ∈ s.row.resolvedStepIndexes, fixed i)
    (hnaming : row'.officialSteps.map WorkflowStepSpec.naming = s.row.officialSteps.map WorkflowStepSpec.naming)
    (hdag : row'.dagEnabled = s.row.dagEnabled)
    (hcounts : row'.branchEscalationCounts = s.row.branchEscalationCounts) :
    LadderInv maxRungs { s with row := row' } where
  named hdag' := by
    have hlen : row'.officialSteps.length = s.row.officialSteps.length := by simpa using congrArg List.length hnaming
    refine (h.named (hdag ▸ hdag')).move hsame hfixed (fun i hi => hsame.resolved i hi) (fun _ _ => rfl)
      fun i step hi hstep _ => ?_
    rw [List.getElem?_eq_none (show row'.officialSteps.length ≤ i by omega)] at hstep
    cases hstep
  flat hflat step hstep := by
    have hmem : step.naming ∈ s.row.officialSteps.map WorkflowStepSpec.naming := by
      rw [← hnaming]
      exact List.mem_map_of_mem hstep
    obtain ⟨other, hother, hname⟩ := List.mem_map.mp hmem
    simp only [WorkflowStepSpec.naming, Prod.mk.injEq] at hname
    rw [← hname.2.1, ← hname.2.2]
    exact h.flat (hdag ▸ hflat) other hother
  counted lineage := by
    rw [hcounts]
    exact h.counted lineage
  bounded := h.bounded
  known := h.known
  exhausted i hi := hsame.resolved i (h.exhausted i hi)

/-! ### A failed step -/

variable {profile : Option RuntimeProfile} {failedIndex : Nat} {error : Option String} {escalation : BranchEscalation}

private theorem escalatedPlan_spec (row : WorkflowRequest) (now : Time) : (escalatedPlan row now).dagEnabled = true ∧
    (escalatedPlan row now).branchEscalationCounts = row.branchEscalationCounts ∧
    (escalatedPlan row now).officialSteps.length = row.officialSteps.length ∧
    (escalatedPlan row now).resolvedStepIndexes = row.resolvedStepIndexes := by
  unfold escalatedPlan
  split
  · rename_i hdag
    exact ⟨hdag, rfl, rfl, rfl⟩
  · rename_i hflat
    unfold adoptLinearPlan
    rw [if_neg hflat]
    exact ⟨rfl, rfl, length_normalizedSteps row, rfl⟩

private theorem exhaustBranch_spec (row : WorkflowRequest) (branchId : String) (now : Time) :
    (exhaustBranch row branchId now).dagEnabled = row.dagEnabled ∧
      (exhaustBranch row branchId now).branchEscalationCounts = row.branchEscalationCounts ∧
      (exhaustBranch row branchId now).officialSteps = row.officialSteps := by
  unfold exhaustBranch
  dsimp only
  split <;> exact ⟨rfl, rfl, rfl⟩

private theorem flat_onLadder (hflat : step.branchId = none ∧ step.branchNodeIds = []) (dependencies : List Nat)
    (h : OnLadder { step with
      dependsOnStepIndexes := dependencies
      branchId := some ((step.branchId.filter (· != "")).getD
        (if step.operation.semantics.sharedDag then "shared" else initialBranchId)) }) :
    some ((step.branchId.filter (· != "")).getD
      (if step.operation.semantics.sharedDag then "shared" else initialBranchId)) = some initialBranchId ∧
      step.namedLineage = [] := by
  have hshared := (node_of_climbs h.climbs).2.1
  dsimp only at hshared
  rw [hflat.1, hshared]
  exact ⟨rfl, by simp [WorkflowStepSpec.namedLineage, hflat.1, hflat.2]⟩

/-- The plan an escalation works on: a flat one is one branch, and that branch is about to be retired. -/
private theorem LadderInv.plan (h : LadderInv maxRungs s)
    (hescalates : Escalates profile maxRungs s.row failedIndex details now escalation step) :
    LadderNamed (escalatedPlan s.row now) (s.lineagesAfter failedIndex) fun i => i ∈ s.row.resolvedStepIndexes ∨
      i ∈ branchStepIndexes (escalatedPlan s.row now) escalation.branchId := by
  by_cases hdag : s.row.dagEnabled = true
  · have hplan : escalatedPlan s.row now = s.row := if_pos hdag
    rw [hplan]
    intro i other hother hladder
    obtain ⟨lineage, hlineage, hnamed⟩ := h.named hdag i other hother hladder
    refine ⟨lineage, ?_, hnamed.imp id fun ⟨hunnamed, hon, hgone⟩ => ⟨hunnamed, hon, .inl hgone⟩⟩
    have hlt := (List.getElem?_eq_some_iff.mp hother).1
    simp [LadderState.lineagesAfter, hdag, hlt, hlineage]
  · have hflat : s.row.dagEnabled = false := by simpa using hdag
    have hsteps : (escalatedPlan s.row now).officialSteps = normalizedSteps s.row := by
      rw [escalatedPlan, if_neg hdag, adoptLinearPlan, if_neg hdag]
    have hfailed := hescalates.failed
    rw [hsteps, getElem?_normalizedSteps] at hfailed
    obtain ⟨original, horiginal, hmade⟩ := Option.map_eq_some_iff.mp hfailed
    have hnodes : original.nodeIds = [escalation.nodeId] := by
      rw [← hescalates.nodeIds, ← hmade]
    have hinitial : escalation.branchId = initialBranchId := by
      have hid := hescalates.branchId
      rw [← hmade] at hid
      simp only [(h.flat hflat original (List.mem_of_getElem? horiginal)).1, Option.filter_none, Option.getD_none,
        Option.some.injEq] at hid
      split at hid
      · exact absurd hid.symm hescalates.not_shared
      · exact hid.symm
    intro i other hother hladder
    have hget := hother
    rw [hsteps, getElem?_normalizedSteps] at hget
    obtain ⟨own, hown, rfl⟩ := Option.map_eq_some_iff.mp hget
    have hmem := List.mem_of_getElem? hown
    obtain ⟨hlabel, hunnamed⟩ := flat_onLadder (h.flat hflat own hmem) _ hladder
    refine ⟨escalation.nodeId, ?_, .inr ⟨?_, ?_, .inr ?_⟩⟩
    · simp [LadderState.lineagesAfter, LadderState.lineageOf, hflat, horiginal, hnodes]
    · rw [namedLineage_normalized, hunnamed]
    · exact fun node hnode => hescalates.single hflat own hmem node hnode
    · refine mem_branchStepIndexes hother ?_ (node_of_climbs hladder.climbs).1
      rw [hinitial]
      exact hlabel

/-- Counting a rung of one lineage leaves the others. -/
private theorem lookup_counted (counts : List (String × Nat)) (key other : String) (taken : Nat) :
    (counts.filter (fun entry => entry.1 != key) ++ [(key, taken)]).lookup other =
      if other = key then some taken else counts.lookup other := by
  induction counts with
  | nil =>
    by_cases he : other = key
    · simp [he]
    · have hne : (other == key) = false := by simpa using he
      simp [List.lookup_cons, hne, he]
  | cons entry rest ih =>
    by_cases hentry : entry.1 = key
    · simp only [hentry, bne_self_eq_false, Bool.false_eq_true, not_false_eq_true, List.filter_cons_of_neg, ih]
      by_cases he : other = key
      · simp [he]
      · rw [if_neg he, if_neg he]
        obtain ⟨first, count⟩ := entry
        have hne : (other == first) = false := by simpa [show first = key from hentry] using he
        simp only [List.lookup_cons, hne]
    · rw [List.filter_cons_of_pos (by simpa using hentry)]
      obtain ⟨first, count⟩ := entry
      by_cases he : other = first
      · subst he
        simp [hentry]
      · have hne : (other == first) = false := by simpa using he
        simp only [List.cons_append, List.lookup_cons, hne, ih]

/-- A failed step climbs under the lineage it goes back to. -/
private theorem LadderInv.fail (h : LadderInv maxRungs s) :
    LadderInv maxRungs (ladderStep maxRungs s (.fail profile failedIndex error details now)) := by
  unfold ladderStep
  dsimp only
  split
  case h_2 => exact h
  rename_i escalation hescalated
  obtain ⟨step, hescalates⟩ := escalateNodeBranch_move hescalated
  have hplan := h.plan hescalates
  obtain ⟨hdag, hcounts, hlen, hresolved⟩ := escalatedPlan_spec s.row now
  have hfailed := hescalates.failed
  have hmove := hescalates.move
  generalize escalation.outcome = outcome at hmove ⊢
  generalize escalation.workflow = written at hmove ⊢
  cases hmove with
  | exhausted =>
    obtain ⟨hdag', hcounts', hsteps⟩ := exhaustBranch_spec (escalatedPlan s.row now) escalation.branchId now
    have hkept := historyKept_exhaustBranch (escalatedPlan s.row now) escalation.branchId now
    have hstay : ∀ i ∈ s.row.resolvedStepIndexes,
        i ∈ (exhaustBranch (escalatedPlan s.row now) escalation.branchId now).resolvedStepIndexes :=
      fun i hi => hkept.resolved (hresolved ▸ hi)
    have hbranch : branchStepIndexes (exhaustBranch (escalatedPlan s.row now) escalation.branchId now)
        escalation.branchId = branchStepIndexes (escalatedPlan s.row now) escalation.branchId := by
      unfold branchStepIndexes
      rw [hsteps]
    refine ⟨fun _ => ?_, fun hflat => ?_, ?_, h.bounded, h.known, fun i hi => ?_⟩
    · refine hplan.move (.of_steps hsteps fun i hi => hkept.resolved hi) (fun _ _ => trivial)
        (fun i hi => hi.elim (hstay i) resolved_of_exhaust) (fun _ _ => rfl) fun i other hi hother _ => ?_
      rw [hsteps, List.getElem?_eq_none hi] at hother
      cases hother
    · rw [hdag', hdag] at hflat
      cases hflat
    · intro lineage
      dsimp only
      rw [hcounts', hcounts]
      exact h.counted lineage
    · rw [if_pos rfl, hbranch] at hi
      exact (List.mem_append.mp hi).elim (fun hi => hstay i (h.exhausted i hi)) resolved_of_exhaust
  | @escalated operation replaced hrung htaken hsteps hreplaced =>
    have hladder : OnLadder step := by
      refine ⟨climbs_of_nextRung (nextRung_of_branchRung hrung), ?_, ?_⟩
      · rw [hescalates.branchId]
        simpa using hescalates.not_shared
      · rw [hescalates.branchId]
        simpa using hescalates.not_join
    obtain ⟨lineage, hlineage, hnamed⟩ := hplan failedIndex step hfailed hladder
    have hof : s.lineageOf failedIndex = some lineage := by
      rw [← hlineage]
      unfold LadderState.lineagesAfter LadderState.lineageOf
      split
      · rename_i hrow
        have hlt := (List.getElem?_eq_some_iff.mp hfailed).1
        rw [if_pos (by simp [hrow, ← hlen, hlt])]
      · rename_i hrow
        simp [hrow]
    have hunder : branchLineage step escalation.nodeId escalation.branchId = ([lineage], lineage) := by
      rcases hnamed with hnamed | ⟨hunnamed, hon, -⟩
      · exact branchLineage_of_named hescalates.branchId hnamed
      · have hnode := hon escalation.nodeId (by simp [hescalates.nodeIds])
        rw [branchLineage_of_unnamed hescalates.branchId hunnamed, hnode]
    rw [hunder] at htaken hreplaced ⊢
    dsimp only at htaken hreplaced ⊢
    have hmade : ∀ origin ∈ (rungCandidate (escalatedPlan s.row now) operation escalation.nodeId
        (((escalatedPlan s.row now).branchEscalationCounts.lookup lineage).getD 0)
        (rungSteps profile operation escalation.nodeId step.gpuUuids [lineage])).officialSteps,
        origin.branchNodeIds = [lineage] := by
      intro origin horigin
      obtain ⟨item, -, rfl⟩ := List.mem_map.mp horigin
      rfl
    have hrewrite : replaced.dagEnabled = true ∧ SameLadder (fun _ => True) (escalatedPlan s.row now) replaced ∧
        ∀ i other, (escalatedPlan s.row now).officialSteps.length ≤ i → replaced.officialSteps[i]? = some other →
          OnLadder other → other.namedLineage = [lineage] := by
      rcases replaceParallelJobBranch_append hreplaced with rfl | ⟨predecessor, indexes, happend⟩
      · refine ⟨hdag, .of_steps rfl fun _ hi => hi, fun i other hi hother _ => ?_⟩
        rw [List.getElem?_eq_none hi] at hother
        cases hother
      · refine ⟨?_, sameLadder_append happend, fun i other hi hother hclimbs =>
          namedLineage_new hmade happend hi hother hclimbs⟩
        rcases appendParallelJobBranch_ok happend with rfl | ⟨candidate', branch, action, -, -, rfl⟩
        · exact hdag
        · rfl
    obtain ⟨hdag', hsame, hnew⟩ := hrewrite
    have hstay : ∀ i ∈ s.row.resolvedStepIndexes, i ∈ replaced.resolvedStepIndexes :=
      fun i hi => hsame.resolved i (hresolved ▸ hi)
    rw [hof]
    refine ⟨fun _ => ?_, fun hflat => ?_, fun other => ?_, fun other => ?_, ?_, fun i hi => ?_⟩
    · have hmoved : LadderNamed replaced (s.lineagesAfter failedIndex) (· ∈ replaced.resolvedStepIndexes) := by
        refine hplan.move hsame (fun _ _ => trivial)
          (fun i hi => hi.elim (hstay i) fun hbranch => resolved_of_replace hbranch hreplaced) (fun _ _ => rfl)
          fun i other hi hother hclimbs => ⟨lineage, ?_, hnew i other hi hother hclimbs⟩
        rw [hlen] at hi
        simp [LadderState.lineagesAfter, not_lt.mpr hi, hof]
      exact hmoved
    · rw [show replaced.dagEnabled = false from hflat] at hdag'
      cases hdag'
    · dsimp only
      rw [lookup_counted, hcounts]
      have hcount := h.counted other
      by_cases he : other = lineage
      · subst he
        simp only [if_true, List.count_cons_self, Option.getD_some]
        omega
      · rw [if_neg he, if_pos rfl, List.count_cons_of_ne (by simpa using Ne.symm he)]
        exact hcount
    · dsimp only
      rw [if_pos rfl]
      by_cases he : other = lineage
      · subst he
        have hcount := h.counted other
        rw [hcounts] at htaken
        rw [List.count_cons_self]
        omega
      · rw [List.count_cons_of_ne (by simpa using Ne.symm he)]
        exact h.bounded other
    · simpa using h.known
    · exact hstay i (h.exhausted i hi)

/-- One event of any kind. -/
private theorem LadderInv.next (h : LadderInv maxRungs s) (event : LadderEvent) :
    LadderInv maxRungs (ladderStep maxRungs s event) := by
  cases event with
  | fail profile failedIndex error details now => exact h.fail
  | rebind rebindings inventory isSafety afterIndex now =>
    unfold ladderStep
    dsimp only
    split
    · rename_i row' hrebound
      refine h.keep (sameLadder_rebind hrebound) (fun i hi => hi) (naming_rebindNodes hrebound) ?_ ?_
      all_goals
        unfold rebindNodes at hrebound
        dsimp only at hrebound
        split at hrebound
        · cases hrebound
        · cases hrebound
          rfl
    · exact h
  | attempt step index outcome now =>
    exact h.keep (.of_steps rfl fun _ hi => hi) (fun _ _ => trivial) rfl rfl rfl
  | complete index operation now =>
    refine h.keep (.of_steps rfl fun i hi => ?_) (fun _ _ => trivial) rfl rfl rfl
    simp only [WorkflowRequest.resolvedStepIndexes, recordCompletion, List.mem_append] at hi ⊢
    tauto

end Lineage

/-- **Branch escalation is bounded**: in a plan whose branches name the one node they were made for, every rung is
taken for such a node and none takes more than `maxRungs`, whatever spares its steps are rebound to; a step of an
exhausted branch is not selected again. -/
theorem branch_escalation_bounded (maxRungs : Nat) (row : WorkflowRequest) (events : List LadderEvent)
    (hnamed : LineageNamed row) :
    (∀ lineage, (Run.exec (ladderStep maxRungs) (ladderStart row) events).rungs.count (some lineage) ≤ maxRungs) ∧
      none ∉ (Run.exec (ladderStep maxRungs) (ladderStart row) events).rungs ∧
      ∀ i ∈ (Run.exec (ladderStep maxRungs) (ladderStart row) events).exhausted, ∀ steps attempted,
        i ∉ readySteps (Run.exec (ladderStep maxRungs) (ladderStart row) events).row steps attempted := by
  have hinv : LadderInv maxRungs (Run.exec (ladderStep maxRungs) (ladderStart row) events) :=
    Run.invariant_exec (fun _ event h _ => h.next event) (ladderInv_start hnamed) (Run.along_true _ _)
  refine ⟨hinv.bounded, hinv.known, fun i hi steps attempted hready => ?_⟩
  obtain ⟨-, hopen, -⟩ := DependencyGraph.mem_ready.mp (List.mem_filter.mp hready).1
  exact hopen (hinv.exhausted i hi)

section SpareNode

private def ladderReset : WorkflowRequest :=
  { requestId := "w", status := .running, dagEnabled := true,
    officialSteps :=
      [{ operation := .resetGpu, nodeIds := ["n1"], gpuUuids := ["g1"], branchId := some "branch:n1",
         branchNodeIds := ["n1"] }] }

private def climbProfile : RuntimeProfile :=
  [{ capability := .nodeReboot, mode := .own, owner := some "provider" },
    { capability := .nodeReplace, mode := .own, owner := some "provider" },
    { capability := .deepDiagnostics, mode := .own, owner := some "validation" },
    { capability := .schedulerDrain, mode := .own, owner := some "kubernetes" }]

/-- The reset fails, the reboot's validation fails, the node is replaced, and the spare does not pass either. -/
private def ladderClimbs : List LadderEvent :=
  [.fail (some climbProfile) 0 none [] 1, .complete 1 .restartNode 2, .fail (some climbProfile) 2 none [] 3,
    .complete 6 .replaceNode 4, .rebind [("n1", "s1")] (fun _ => ["g7"]) false 6 5,
    .fail (some climbProfile) 7 none [] 6]

theorem branch_escalation_bounded_spare :
    LineageNamed ladderReset ∧
      (Run.exec (ladderStep 2) (ladderStart ladderReset) ladderClimbs).rungs = [some "n1", some "n1"] ∧
      (Run.exec (ladderStep 2) (ladderStart ladderReset) ladderClimbs).rungs.count (some "n1") ≤ 2 ∧
      (Run.exec (ladderStep 2) (ladderStart ladderReset) ladderClimbs).exhausted = [6, 7, 8, 9, 10] := by
  have hnamed : LineageNamed ladderReset := by
    refine ⟨fun _ step hstep _ => ⟨"n1", ?_⟩, fun hflat => by cases hflat⟩
    have hone : normalizedSteps ladderReset = ladderReset.officialSteps := by decide
    rw [hone] at hstep
    rw [List.mem_singleton.mp hstep]
    rfl
  refine ⟨hnamed, ?_, (branch_escalation_bounded 2 ladderReset ladderClimbs hnamed).1 "n1", ?_⟩
  · decide +kernel
  · decide +kernel

end SpareNode

end GpuFaultRecovery
