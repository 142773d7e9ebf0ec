import GpuFaultRecovery.AppendedBranch

/-!
# The place of a replaced branch

A replacement is chained behind one step of the old plan: the last dependency outside the branch of the
lowest-numbered replaced step, or the shared STOP_WORKLOADS where that step has none. What the other replaced steps
waited for, and the other dependencies of the first one, are lost, so the replacement keeps the place of the branch
exactly if that one step covers everything the branch waited for.
-/

namespace GpuFaultRecovery

open DependencyGraph

/-- `index` is still to run, is no replaced step, and some replaced step waits for it. -/
def WaitsOutside (existing : WorkflowRequest) (replaced : List Nat) (index : Nat) : Prop :=
  index ∉ replaced ∧ index ∉ existing.resolvedStepIndexes ∧
    ∃ r ∈ replaced, DependsOn (stepDeps existing.officialSteps) r index

/-- `index` is the shared stop, or no replaced step waits for it but through the stop. -/
def BehindStopOnly (existing : WorkflowRequest) (replaced : List Nat) (stop index : Nat) : Prop :=
  index = stop ∨ ∀ r ∈ replaced, ¬ ReachesAround (stepDeps existing.officialSteps) stop r index

/-- Every appended step waits for what the replaced branch waited for. One that is put before a shared STOP_WORKLOADS
that has not begun need not wait for the stop, nor for what only the stop waited for. -/
def PlaceKept (existing rewritten : WorkflowRequest) (replaced : List Nat) : Prop :=
  ∀ index, WaitsOutside existing replaced index →
    ∀ k, existing.officialSteps.length ≤ k → k < rewritten.officialSteps.length →
      DependsOn (stepDeps rewritten.officialSteps) k index ∨
        ∃ stop, stopState existing (normalizedSteps existing) = (some stop, true) ∧
          DependsOn (stepDeps rewritten.officialSteps) stop k ∧ BehindStopOnly existing replaced stop index

/-- What the replacement is chained behind covers what the replaced branch waited for; what is put before an open stop
may miss what only the stop waited for. -/
def PointCovers (existing : WorkflowRequest) (branch : CandidateBranch) (predecessor : Option Nat)
    (replaced : List Nat) : Prop :=
  ∀ index, WaitsOutside existing replaced index →
    (rewriteRest existing branch predecessor ≠ [] →
      ∃ point, rewritePoint existing predecessor = some point ∧
        (index = point ∨ DependsOn (stepDeps existing.officialSteps) point index)) ∧
    (rewriteAhead existing branch predecessor ≠ [] →
      ∀ stop, stopState existing (normalizedSteps existing) = (some stop, true) →
        BehindStopOnly existing replaced stop index)

/-- `PointCovers` of the branch `candidate` is replaced by. -/
def KeepsPlace (existing candidate : WorkflowRequest) (nodeId : String) (branchId : Option String) : Prop :=
  ∀ candidate' branch, inheritTerminalQuarantine existing candidate = .ok candidate' →
    candidateBranch candidate' ((replacementTarget existing nodeId branchId).bind Prod.fst) existing.dagRevision =
      .ok branch →
    PointCovers existing branch ((replacementTarget existing nodeId branchId).bind Prod.fst)
      (replacedStepIndexes existing nodeId branchId)

section Place

variable {existing candidate : WorkflowRequest} {branch : CandidateBranch} {predecessor : Option Nat}
  {replaced : List Nat}
  {index k m : Nat}

private theorem WaitsOutside.lt (hdag : JobDag existing) (h : WaitsOutside existing replaced index) :
    index < existing.officialSteps.length := by
  obtain ⟨-, -, r, -, hpath⟩ := h
  obtain ⟨d, -, hd⟩ := Relation.TransGen.tail'_iff.mp hpath
  exact hdag.2.1 d index hd

/-- A step behind the branch's point waits for an old step exactly if the point is it or waited for it. -/
private theorem rest_waits_iff (hplan : PlanOk (normalizedSteps existing)) (hbranch : NoRestart branch.steps)
    (hpred : ∀ p, predecessor = some p → Attachable (normalizedSteps existing) p)
    (hm : m < (rewriteRest existing branch predecessor).length) (hindex : index < existing.officialSteps.length) :
    DependsOn (stepDeps (branchRewrite existing branch predecessor replaced).1)
        (existing.officialSteps.length + (rewriteAhead existing branch predecessor).length + m) index ↔
      ∃ point, rewritePoint existing predecessor = some point ∧
        (index = point ∨ DependsOn (stepDeps (normalizedSteps existing)) point index) := by
  have hattach : ∀ p, rewritePoint existing predecessor = some p → Attachable (normalizedSteps existing) p := by
    intro p hp
    cases predecessor with
    | some q => exact hpred p hp
    | none => exact attachable_stop hp
  constructor
  · intro h
    obtain ⟨p, hp, hpath⟩ := dependsOn_rest hbranch h hindex
    refine ⟨p, hp, hpath.imp_right fun hpath => ?_⟩
    exact (dependsOn_old_iff hplan hbranch (hattach p hp) hindex).mp hpath
  · rintro ⟨p, hp, hpath⟩
    have hpoint : DependsOn (stepDeps (branchRewrite existing branch predecessor replaced).1)
        (existing.officialSteps.length + (rewriteAhead existing branch predecessor).length + m) p :=
      dependsOn_point hbranch ((restPoint_eq existing branch predecessor).trans hp) hm
    rcases hpath with rfl | hpath
    · exact hpoint
    · exact hpoint.trans ((dependsOn_old_iff hplan hbranch (hattach p hp) hindex).mpr hpath)

private theorem stop_not_dependsOn_rest (hplan : PlanOk (normalizedSteps existing)) (hbranch : NoRestart branch.steps)
    {stop : Nat} (hstop : stopState existing (normalizedSteps existing) = (some stop, true)) :
    ¬ DependsOn (stepDeps (branchRewrite existing branch predecessor replaced).1) stop
      (existing.officialSteps.length + (rewriteAhead existing branch predecessor).length + m) := by
  intro h
  rcases dependsOn_old_cases hplan hbranch (attachable_stop (congrArg Prod.fst hstop)) h with ⟨⟨hlt, -⟩, -⟩ | ⟨-, hlt⟩
  · rw [length_normalizedSteps] at hlt
    omega
  · omega

/-- The branch appended in place of `replaced` keeps its place exactly if its point covers what `replaced` waited
for. -/
private theorem placeKept_branchRewrite_iff (hdag : JobDag existing) (hbranch : NoRestart branch.steps)
    (hpred : ∀ p, predecessor = some p → Attachable (normalizedSteps existing) p) {rewritten : WorkflowRequest}
    (hsteps : rewritten.officialSteps = (branchRewrite existing branch predecessor replaced).1) {waited : List Nat} :
    PlaceKept existing rewritten waited ↔ PointCovers existing branch predecessor waited := by
  have hplan := (JobPlan.of_jobDag hdag).planOk
  have hdeps := stepDeps_normalizedSteps_of_dag hdag.1
  have hlen :
      ∀ m, m < (rewriteAhead existing branch predecessor).length + (rewriteRest existing branch predecessor).length →
      existing.officialSteps.length + m < rewritten.officialSteps.length := by
    intro m hm
    have htotal :
        (rewriteAhead existing branch predecessor).length + (rewriteRest existing branch predecessor).length =
        branch.steps.length := length_ahead_add_rest
    rw [hsteps, length_branchRewrite]
    omega
  unfold PlaceKept PointCovers
  rw [hsteps] at hlen ⊢
  refine forall_congr' fun index => forall_congr' fun houtside => ?_
  have hindex := houtside.lt hdag
  constructor
  · intro h
    constructor
    · intro hrest
      have hpos := List.length_pos_of_ne_nil hrest
      rcases h (existing.officialSteps.length + (rewriteAhead existing branch predecessor).length + 0) (by omega)
          (hlen _ (by omega)) with hwaits | ⟨stop, hstop, hgate, -⟩
      · rw [← hdeps]
        exact (rest_waits_iff hplan hbranch hpred hpos hindex).mp hwaits
      · exact absurd hgate (stop_not_dependsOn_rest hplan hbranch hstop)
    · intro hahead stop hstop
      have hpos := List.length_pos_of_ne_nil hahead
      rcases h (existing.officialSteps.length + 0) (by omega) (hlen 0 (by omega)) with
        hwaits | ⟨stop', hstop', -, honly⟩
      · have hnew := dependsOn_ahead hbranch hpos hwaits
        omega
      · rw [hstop] at hstop'
        cases hstop'
        exact honly
  · rintro ⟨hrest, hahead⟩ k hge hlt
    rcases new_cases hbranch hge hlt with ⟨m, hm, rfl⟩ | ⟨m, hm, rfl⟩
    · have hne : rewriteAhead existing branch predecessor ≠ [] := by
        intro hnil
        rw [hnil] at hm
        cases hm
      obtain ⟨stop, hstop⟩ := stopState_of_ahead hne
      exact .inr ⟨stop, hstop, dependsOn_gate hbranch hstop hm, hahead hne stop hstop⟩
    · have hne : rewriteRest existing branch predecessor ≠ [] := by
        intro hnil
        rw [hnil] at hm
        cases hm
      have hpoint := hrest hne
      rw [← hdeps] at hpoint
      exact .inl ((rest_waits_iff hplan hbranch hpred hm hindex).mpr hpoint)

end Place

/-- A replacement keeps the place of the branch it replaces exactly if the one step it is chained behind covers
everything the branch waited for. -/
theorem replacement_keeps_place_iff {existing candidate rewritten : WorkflowRequest} {nodeId : String}
    {branchId : Option String} {now : Time} (hdag : JobDag existing)
    (hok : replaceParallelJobBranch existing candidate nodeId branchId now = .ok rewritten) :
    PlaceKept existing rewritten (replacedStepIndexes existing nodeId branchId) ↔
      KeepsPlace existing candidate nodeId branchId := by
  rcases replaceParallelJobBranch_cases hok with
    ⟨rfl, htarget, hnil⟩ | ⟨predecessor, replaced, candidate', branch, action, htarget, -, hinherit, hbranch, rfl⟩
  · have hnone : ∀ index, ¬ WaitsOutside rewritten (replacedStepIndexes rewritten nodeId branchId) index := by
      rintro index ⟨-, -, r, hr, -⟩
      rw [hnil] at hr
      cases hr
    constructor
    · intro _ candidate' branch _ _ index houtside
      exact absurd houtside (hnone index)
    · intro _ index houtside
      exact absurd houtside (hnone index)
  · have hpred := (JobPlan.of_jobDag hdag).attachable_replacementTarget htarget
    have hiff : PlaceKept existing (appendedRow existing branch predecessor replaced action now)
          (replacedStepIndexes existing nodeId branchId) ↔
        PointCovers existing branch predecessor (replacedStepIndexes existing nodeId branchId) :=
      placeKept_branchRewrite_iff hdag (noRestart_of_candidateBranch hbranch) hpred rfl
    have hfirst : (replacementTarget existing nodeId branchId).bind Prod.fst = predecessor := by
      rw [htarget]
      rfl
    unfold KeepsPlace
    rw [hiff, hfirst]
    constructor
    · intro hcovers held other hheld hother
      rw [hinherit] at hheld
      cases hheld
      rw [hbranch] at hother
      cases hother
      exact hcovers
    · intro hkeeps
      exact hkeeps candidate' branch hinherit hbranch

section SharedReboot

/-- Two nodes are reset behind the job's stop; a reboot of both was queued behind the branch of the second. -/
private def sharedReboot : WorkflowRequest :=
  { requestId := "w", status := .running, dagEnabled := true, dagRevision := 2
    officialSteps :=
      [{ operation := .stopWorkloads, nodeIds := ["n1", "n2"], branchId := some "shared" },
        { operation := .resetGpu, nodeIds := ["n1"], branchId := some "branch:initial", dependsOnStepIndexes := [0] },
        { operation := .restartWorkload, nodeIds := ["n1", "n2"], branchId := some "join"
          dependsOnStepIndexes := [1, 3, 4] },
        { operation := .resetGpu, nodeIds := ["n2"], branchId := some "branch:n2", dependsOnStepIndexes := [0] },
        { operation := .restartNode, nodeIds := ["n1", "n2"], branchId := some "branch:n1,n2:successor:2"
          dependsOnStepIndexes := [3] }] }

private def replacementOf (nodeId : String) : WorkflowRequest :=
  { requestId := "c", status := .pending, officialSteps := [{ operation := .replaceNode, nodeIds := [nodeId] }] }

private def replacedRow (nodeId : String) : WorkflowRequest :=
  match replaceParallelJobBranch sharedReboot (replacementOf nodeId) nodeId none 0 with
  | .ok rewritten => rewritten
  | .error _ => sharedReboot

private theorem sharedReboot_jobDag : JobDag sharedReboot :=
  .of_rank rfl (fun i => if i = 2 then 5 else i) (by decide)

/-- Every replaced step of the second node waits for the stop only. -/
theorem replacement_keeps_place_iff_second :
    PlaceKept sharedReboot (replacedRow "n2") (replacedStepIndexes sharedReboot "n2" none) := by
  have hok : replaceParallelJobBranch sharedReboot (replacementOf "n2") "n2" none 0 = .ok (replacedRow "n2") := by rfl
  refine (replacement_keeps_place_iff sharedReboot_jobDag hok).mpr ?_
  intro candidate' branch _ _ index houtside
  have hzero : index = 0 := by
    obtain ⟨hout, -, r, hr, hpath⟩ := houtside
    have hreplaced : replacedStepIndexes sharedReboot "n2" none = [3, 4] := by decide
    rw [hreplaced] at hout hr
    have hmem : index ∈ [0, 3, 4] := hpath.mem_of_closed (by decide) (by grind)
    grind
  subst hzero
  refine ⟨fun _ => ⟨0, by decide, .inl rfl⟩, fun _ stop hstop => .inl ?_⟩
  have hstate : stopState sharedReboot (normalizedSteps sharedReboot) = (some 0, true) := by decide
  rw [hstate] at hstop
  cases hstop
  rfl

/-- The shared reboot waits for the reset of the second node. The replacement that takes its place on the first node
is chained behind the stop, where the first node's lowest step stands. -/
theorem replacement_overtakes_reset :
    JobDag sharedReboot ∧
      replaceParallelJobBranch sharedReboot (replacementOf "n1") "n1" none 0 = .ok (replacedRow "n1") ∧
      replacedStepIndexes sharedReboot "n1" none = [1, 4] ∧ WaitsOutside sharedReboot [1, 4] 3 ∧
      stepOperation? (replacedRow "n1").officialSteps 5 = some .replaceNode ∧
      ¬ DependsOn (stepDeps (replacedRow "n1").officialSteps) 5 3 ∧
        ¬ PlaceKept sharedReboot (replacedRow "n1") [1, 4] := by
  have hmissed : ¬ DependsOn (stepDeps (replacedRow "n1").officialSteps) 5 3 := by
    intro h
    have hmem : 3 ∈ [0, 5] := h.mem_of_closed (by decide) (by simp)
    simp at hmem
  have hwaits : WaitsOutside sharedReboot [1, 4] 3 := ⟨by decide, by decide, 4, by decide, .single (by decide)⟩
  refine ⟨sharedReboot_jobDag, by rfl, by decide, hwaits, by decide, hmissed, fun hkept => ?_⟩
  rcases hkept 3 hwaits 5 (by decide) (by decide) with h | ⟨stop, hstop, hgate, -⟩
  · exact hmissed h
  · have hstate : stopState sharedReboot (normalizedSteps sharedReboot) = (some 0, true) := by decide
    rw [hstate] at hstop
    cases hstop
    have hmem : 5 ∈ [0] := hgate.mem_of_closed (by decide) (by simp)
    simp at hmem

end SharedReboot

end GpuFaultRecovery
