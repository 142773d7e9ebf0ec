import GpuFaultRecovery.WorkflowInvariants
import GpuFaultRecovery.RungLineage

/-!
# Writes that keep a record sound

A rewrite changes the steps of a record, its edges, labels and retired indexes at once. On a record whose plan is fit
to be a job DAG every rewrite, every move of the branch ladder and every recorded step leaves one that the checker
accepts. A flat record need not be fit: its labels and restarts are only checked once a rewrite has made it a DAG.
-/

namespace GpuFaultRecovery

/-! ### Edges -/

section Edges

variable {steps values : List WorkflowStepSpec} {branch : CandidateBranch} {branchId : String}
  {stopIndex predecessor dependency : Option Nat} {stopIsOpen : Bool} {i j : Nat}

private theorem DepsValid.of_shape {steps' : List WorkflowStepSpec} (h : DepsValid steps)
    (hshape : planShape steps' = planShape steps) : DepsValid steps' := by
  intro i j hj
  rw [stepDeps_eq_of_shape hshape] at hj
  rw [length_eq_of_shape hshape]
  exact h i j hj

private theorem DepsValid.appendChain (h : DepsValid steps) (hdep : ∀ d, dependency = some d → d < steps.length) :
    DepsValid (appendChain steps values dependency branchId).1 := by
  intro i j hj
  rw [length_appendChain]
  rcases edge_of_append hj with ⟨hi, hj⟩ | ⟨hi, hlt, ⟨hge, hji⟩ | ⟨-, hd⟩⟩
  · have hold := h i j hj
    omega
  · omega
  · have hd := hdep j hd
    omega

private theorem DepsValid.gateStop (h : DepsValid steps) (hstop : ∀ s, stopIndex = some s → s < steps.length) :
    DepsValid (gateStop steps values branchId stopIndex stopIsOpen).1 := by
  have happended : DepsValid (GpuFaultRecovery.appendChain steps values none branchId).1 := h.appendChain (by simp)
  unfold GpuFaultRecovery.gateStop
  dsimp only
  split
  · rename_i tail stop htail
    split
    · rcases appendChain_tail htail with ⟨-, hd⟩ | ⟨hne, rfl⟩
      · cases hd
      intro i j hj
      have hpos : 0 < values.length := List.length_pos_of_ne_nil hne
      have hlt := hstop stop rfl
      rcases mem_stepDeps_addDependency.mp hj with hj | ⟨-, rfl, rfl⟩
      · rw [length_addDependency]
        exact happended i j hj
      · rw [length_addDependency, length_appendChain]
        omega
    · exact happended
  · exact happended

private theorem DepsValid.attach (h : DepsValid steps) (hstop : ∀ s, stopIndex = some s → s < steps.length)
    (hpred : ∀ p, predecessor = some p → p < steps.length) :
    DepsValid (attachCandidateBranch steps branch branchId stopIndex stopIsOpen predecessor).1 := by
  cases predecessor with
  | some p => exact h.appendChain hpred
  | none =>
    simp only [attachCandidateBranch]
    refine (h.gateStop hstop).appendChain fun d hd => ?_
    rw [length_gateStop]
    rcases orElse_eq_some hd with hs | ht
    · have hs := hstop d hs
      omega
    · rw [gateStop_tail] at ht
      split at ht
      · cases ht
      · rename_i hne
        have hpos : 0 < (branch.leading stopIsOpen).length := List.length_pos_of_ne_nil (by simpa using hne)
        cases ht
        omega

private theorem DepsValid.reconnectJoin (h : DepsValid steps) {tail : Option Nat} {superseded : List Nat}
    (htail : ∀ t, tail = some t → Attachable steps t) : DepsValid (reconnectJoin steps tail superseded) := by
  intro i j hj
  rw [length_reconnectJoin]
  rcases mem_stepDeps_reconnectJoin.mp hj with ⟨-, hj⟩ | ⟨hop, ⟨hj, -⟩ | ht⟩
  · exact h i j hj
  · exact h i j hj
  · refine ⟨(htail j ht).1, ?_⟩
    rintro rfl
    exact (htail j ht).2 hop

private theorem attachable_tail (hbranch : NoRestart branch.steps)
    (hstop : ∀ s, stopIndex = some s → Attachable steps s)
    (hnew : (attachCandidateBranch steps branch branchId stopIndex stopIsOpen predecessor).1.length ≠ steps.length)
    {tail : Nat} (h : (attachCandidateBranch steps branch branchId stopIndex stopIsOpen predecessor).2 = some tail) :
    Attachable (attachCandidateBranch steps branch branchId stopIndex stopIsOpen predecessor).1 tail := by
  cases predecessor with
  | none => exact attachable_attach_tail hbranch hstop h
  | some p =>
    simp only [attachCandidateBranch] at hnew h ⊢
    rcases appendChain_tail h with ⟨hnil, -⟩ | ⟨hne, rfl⟩
    · rw [length_appendChain, hnil] at hnew
      exact absurd rfl hnew
    · have hpos : 0 < branch.steps.length := List.length_pos_of_ne_nil hne
      refine ⟨by rw [length_appendChain]; omega, ?_⟩
      rw [stepOperation?_appendChain_right (by omega)]
      exact hbranch.stepOperation?_ne _

variable {existing : WorkflowRequest} {replaced : List Nat}

/-- The flat order is a valid set of edges. -/
private theorem DepsValid.normalizedSteps (h : DepsValid existing.officialSteps) :
    DepsValid (normalizedSteps existing) := by
  cases hdag : existing.dagEnabled with
  | true => exact h.of_shape (planShape_normalizedSteps_of_dag hdag)
  | false =>
    intro i j hj
    rw [length_normalizedSteps]
    unfold stepDeps at hj
    rw [getElem?_normalizedSteps] at hj
    cases hstep : existing.officialSteps[i]? with
    | none => simp [hstep] at hj
    | some step =>
      have hlt := (List.getElem?_eq_some_iff.mp hstep).1
      rw [hstep] at hj
      simp only [Option.map_some, Option.getD_some, hdag, Bool.false_eq_true, if_false] at hj
      split at hj
      · cases hj
      · rw [List.mem_singleton] at hj
        omega

private theorem DepsValid.branchRewrite (h : DepsValid existing.officialSteps) (hbranch : NoRestart branch.steps)
    (hpred : ∀ p, predecessor = some p → p < existing.officialSteps.length) :
    DepsValid (branchRewrite existing branch predecessor replaced).1 := by
  have hshape := narrowedPlan_shape existing branch replaced
  have hlen := length_narrowedPlan existing branch replaced
  have hstop : ∀ s, (stopState existing (GpuFaultRecovery.normalizedSteps existing)).1 = some s →
      Attachable (narrowedPlan existing branch replaced) s := fun s hs => (attachable_stop hs).of_shape hshape
  have hattached : DepsValid (attachedPlan existing branch predecessor replaced) := by
    refine (h.normalizedSteps.of_shape hshape).attach (fun s hs => (hstop s hs).1) fun p hp => ?_
    rw [hlen]
    exact hpred p hp
  unfold GpuFaultRecovery.branchRewrite
  dsimp only
  split
  · exact hattached
  · rename_i hnew
    exact hattached.reconnectJoin fun t ht => attachable_tail hbranch hstop hnew ht

end Edges

/-! ### Nodes and labels -/

section Names

variable {existing candidate : WorkflowRequest} {branch : CandidateBranch} {predecessor : Option Nat}
  {replaced : List Nat} {step origin source : WorkflowStepSpec} {node : String} {i j revision : Nat}

/-- The operation of a step, the nodes it acts on and those it was made for. -/
def WorkflowStepSpec.footing (step : WorkflowStepSpec) : WorkflowOperation × List String × List String :=
  (step.operation, step.nodeIds, step.branchNodeIds)

/-- A step that may not readmit a held node loses held nodes only. -/
private theorem mem_nodeIds_suppressStep (held : List String) (index : Nat) (h : node ∈ step.nodeIds) :
    node ∈ (suppressStep existing held step index).1.nodeIds ∨ node ∈ held := by
  by_cases hheld : node ∈ held
  · exact .inr hheld
  · refine .inl ?_
    unfold suppressStep
    dsimp only
    split
    · exact h
    split
    · exact h
    split
    · split
      · exact h
      · simp only [mem_sortedSet, List.mem_filter]
        refine ⟨h, ?_⟩
        simp [hheld]
    · exact h

private theorem footing_branchRewrite (hi : i < existing.officialSteps.length) :
    ((branchRewrite existing branch predecessor replaced).1[i]?).map WorkflowStepSpec.footing =
      ((narrowedPlan existing branch replaced)[i]?).map WorkflowStepSpec.footing := by
  have hattached : ((attachedPlan existing branch predecessor replaced)[i]?).map WorkflowStepSpec.footing =
      ((narrowedPlan existing branch replaced)[i]?).map WorkflowStepSpec.footing :=
    map_getElem?_attach (fun _ _ => rfl) (by rw [length_narrowedPlan]; exact hi) branch predecessor
  rcases branchRewrite_attached existing branch predecessor replaced with he | ⟨tail, retired, he⟩
  · rw [he, hattached]
  · rw [he, reconnectJoin, List.getElem?_map, Option.map_map, ← hattached]
    congr 1
    funext item
    simp only [Function.comp_apply]
    split <;> rfl

/-- An old step keeps the nodes it was made for, and its own ones but for those the rewrite ends. -/
private theorem nodes_branchRewrite (hstep : existing.officialSteps[i]? = some step) :
    ∃ step', (branchRewrite existing branch predecessor replaced).1[i]? = some step' ∧
      step'.branchNodeIds = step.branchNodeIds ∧
      ∀ node ∈ step.nodeIds, node ∈ step'.nodeIds ∨ node ∈ branch.terminal := by
  have hi := (List.getElem?_eq_some_iff.mp hstep).1
  obtain ⟨narrowed, hnarrowed, hmade, hnodes⟩ :
      ∃ narrowed, (narrowedPlan existing branch replaced)[i]? = some narrowed ∧
      narrowed.branchNodeIds = step.branchNodeIds ∧
      ∀ node ∈ step.nodeIds, node ∈ narrowed.nodeIds ∨ node ∈ branch.terminal := by
    unfold narrowedPlan terminalSuperseded
    split
    · rw [getElem?_normalizedSteps, hstep]
      exact ⟨_, rfl, rfl, fun node hnode => .inl hnode⟩
    · dsimp only
      rw [getElem?_suppressReadmission, getElem?_normalizedSteps, hstep]
      refine ⟨_, rfl, ?_, fun node hnode => mem_nodeIds_suppressStep _ _ hnode⟩
      exact congrArg (fun names => names.2.2) (naming_suppressStep _ _ _ _)
  have hfooting := @footing_branchRewrite existing branch predecessor replaced i hi
  rw [hnarrowed] at hfooting
  obtain ⟨step', hstep', hsame⟩ := Option.map_eq_some_iff.mp hfooting
  simp only [WorkflowStepSpec.footing, Prod.mk.injEq] at hsame
  exact ⟨step', hstep', hsame.2.2.trans hmade, fun node hnode => hsame.2.1 ▸ hnodes node hnode⟩

/-- Every step of a branch is put before the stop or behind it. -/
private theorem exists_part (h : origin ∈ branch.steps) :
    ∃ source, (source ∈ rewriteAhead existing branch predecessor ∨ source ∈ rewriteRest existing branch predecessor) ∧
      source.nodeIds = origin.nodeIds ∧ source.identityNodes = origin.identityNodes := by
  have hafter : (afterStopStep origin).nodeIds = origin.nodeIds ∧
      (afterStopStep origin).identityNodes = origin.identityNodes := by
    unfold afterStopStep
    split <;> exact ⟨rfl, rfl⟩
  obtain ⟨entry, hentry, rfl⟩ := List.mem_map.mp h
  unfold rewriteAhead rewriteRest CandidateBranch.ahead CandidateBranch.rest CandidateBranch.leading
    CandidateBranch.trailing
  by_cases hpred : predecessor.isSome = true
  · rw [if_pos hpred, if_pos hpred]
    exact ⟨entry.1, .inr h, rfl, rfl⟩
  · rw [if_neg hpred, if_neg hpred]
    by_cases hopen : stopOpen existing = true
    · rw [if_pos hopen, if_pos hopen]
      by_cases hfirst : branch.preStop entry = true
      · exact ⟨entry.1, .inl (List.mem_map_of_mem (List.mem_filter.mpr ⟨hentry, hfirst⟩)), rfl, rfl⟩
      · refine ⟨afterStopStep entry.1, .inr (List.mem_map.mpr ⟨entry, List.mem_filter.mpr ⟨hentry, ?_⟩, rfl⟩), hafter⟩
        simpa using hfirst
    · rw [if_neg hopen, if_neg hopen]
      exact ⟨afterStopStep entry.1, .inr (List.mem_map_of_mem h), hafter⟩

private theorem appended_branchRewrite (hbranch : NoRestart branch.steps) (h : origin ∈ branch.steps) :
    ∃ step ∈ (branchRewrite existing branch predecessor replaced).1, step.nodeIds = origin.nodeIds ∧
      step.branchNodeIds = origin.identityNodes := by
  obtain ⟨source, hpart, hnodes, hmade⟩ := @exists_part existing branch predecessor origin h
  rcases hpart with hahead | hrest
  · obtain ⟨m, hm⟩ := List.mem_iff_getElem?.mp hahead
    have hget := @getElem?_rewriteAhead existing branch predecessor replaced m hbranch
      (List.getElem?_eq_some_iff.mp hm).1
    rw [hm] at hget
    exact ⟨_, List.mem_of_getElem? hget, hnodes, hmade⟩
  · obtain ⟨m, hm⟩ := List.mem_iff_getElem?.mp hrest
    have hget := @getElem?_rewriteRest existing branch predecessor replaced hbranch m
    rw [hm] at hget
    exact ⟨_, List.mem_of_getElem? hget, hnodes, hmade⟩

/-- The nodes a branch ends are named by its own steps. -/
private theorem named_of_terminal (hbranch : candidateBranch candidate predecessor revision = .ok branch)
    (h : node ∈ branch.terminal) : ∃ origin ∈ branch.steps, node ∈ origin.nodeIds := by
  have hterminal : ∃ quarantined, terminalQuarantineNodes candidate = .ok quarantined ∧
      (node ∈ quarantined ∨ ∃ origin ∈ branch.steps, node ∈ origin.nodeIds) := by
    unfold candidateBranch at hbranch
    obtain ⟨quarantined, hquarantined, hbranch⟩ := bind_ok hbranch
    cases Except.ok.inj hbranch
    refine ⟨quarantined, hquarantined, ?_⟩
    simp only [mem_sortedSet, List.mem_append] at h
    refine h.imp id fun hescalated => ?_
    split at hescalated
    · obtain ⟨origin, horigin, hnode⟩ := List.mem_flatMap.mp hescalated
      exact ⟨origin, (List.mem_filter.mp horigin).1, hnode⟩
    · cases hescalated
  obtain ⟨quarantined, hquarantined, hnode | hnamed⟩ := hterminal
  · obtain ⟨index, origin, hlive, hop, hnode⟩ := namedBy_of_mem_terminalQuarantineNodes hquarantined hnode
    refine ⟨origin, (mem_candidateBranch hbranch).mpr ⟨index, hlive, ?_⟩, hnode⟩
    rw [hop]
    rfl
  · exact hnamed

/-- A rewrite leaves every node of a record in it. -/
private theorem plannedNodes_append {action : Option String} {now : Time}
    (hbranch : candidateBranch candidate predecessor revision = .ok branch) (h : node ∈ plannedNodes existing) :
    node ∈ plannedNodes (appendedRow existing branch predecessor replaced action now) := by
  have hmember : ∀ step ∈ (branchRewrite existing branch predecessor replaced).1,
      node ∈ step.nodeIds ∨ node ∈ step.branchNodeIds →
        node ∈ plannedNodes (appendedRow existing branch predecessor replaced action now) := by
    intro step hstep hnode
    exact List.mem_flatMap.mpr ⟨step, List.mem_append_left _ hstep, List.mem_append.mpr hnode⟩
  obtain ⟨step, hstep, hnode⟩ := List.mem_flatMap.mp h
  rcases List.mem_append.mp hstep with hofficial | hsafety
  · obtain ⟨i, hi⟩ := List.mem_iff_getElem?.mp hofficial
    obtain ⟨step', hstep', hmade, hnodes⟩ := @nodes_branchRewrite existing branch predecessor replaced step i hi
    rcases List.mem_append.mp hnode with hnode | hnode
    · rcases hnodes node hnode with hkept | hended
      · exact hmember step' (List.mem_of_getElem? hstep') (.inl hkept)
      · obtain ⟨origin, horigin, hnamed⟩ := named_of_terminal hbranch hended
        obtain ⟨new, hnew, hsame, -⟩ := @appended_branchRewrite existing branch predecessor replaced origin
          (noRestart_of_candidateBranch hbranch) horigin
        exact hmember new hnew (.inl (hsame ▸ hnamed))
    · exact hmember step' (List.mem_of_getElem? hstep') (.inr (hmade ▸ hnode))
  · exact List.mem_flatMap.mpr ⟨step, List.mem_append_right _ hsafety, hnode⟩

/-- No branch that is appended takes the label of the join. -/
private theorem freshBranchId_ne_join (hbranch : candidateBranch candidate predecessor revision = .ok branch) :
    freshBranchId existing branch ≠ joinBranchId := by
  have hminted : ∃ rest, branch.branchId = "branch:" ++ rest := by
    unfold candidateBranch at hbranch
    obtain ⟨quarantined, -, hbranch⟩ := bind_ok hbranch
    cases Except.ok.inj hbranch
    dsimp only [mintBranchId]
    split
    · exact ⟨_, rfl⟩
    · exact ⟨_, by rw [String.append_assoc, String.append_assoc]⟩
  have hfresh : ∃ rest, freshBranchId existing branch = "branch:" ++ rest := by
    obtain ⟨rest, hrest⟩ := hminted
    unfold freshBranchId
    split
    · exact ⟨_, by rw [hrest, String.append_assoc, String.append_assoc]⟩
    · exact ⟨rest, hrest⟩
  obtain ⟨rest, hrest⟩ := hfresh
  rw [hrest]
  intro heq
  have hlist := congrArg String.toList heq
  simp [joinBranchId] at hlist

private theorem label_normalized {id fallback : String} (hid : step.branchId = some id) (hne : id ≠ "") :
    (step.branchId.filter (· != "")).getD fallback = id := by
  rw [hid, Option.filter_some, if_pos (by simpa using hne)]
  rfl

private theorem joinLabel_of_normalized (h : (step.branchId.filter (· != "")).getD
      (if step.operation.semantics.sharedDag then "shared" else initialBranchId) = joinBranchId) :
    step.branchId = some joinBranchId := by
  cases hid : step.branchId.filter (· != "") with
  | none =>
    rw [hid, Option.getD_none] at h
    split at h
    · cases (show "shared" ≠ joinBranchId by decide) h
    · cases (show initialBranchId ≠ joinBranchId by decide) h
  | some id =>
    rw [hid, Option.getD_some] at h
    rw [← h]
    exact (Option.filter_eq_some_iff.mp hid).1

private theorem JoinFit.normalizedSteps (h : JoinFit existing.officialSteps) :
    JoinFit (normalizedSteps existing) where
  unique i j hi hj := by
    rw [stepOperation?_normalizedSteps] at hi hj
    exact h.unique i j hi hj
  labels step hstep hlabel := by
    obtain ⟨i, hi⟩ := List.mem_iff_getElem?.mp hstep
    rw [getElem?_normalizedSteps] at hi
    obtain ⟨original, horiginal, rfl⟩ := Option.map_eq_some_iff.mp hi
    exact h.labels original (List.mem_of_getElem? horiginal) (joinLabel_of_normalized (Option.some.inj hlabel))

private theorem label_branchRewrite (hbranch : NoRestart branch.steps)
    (hstep : existing.officialSteps[i]? = some step) (hop : step.operation ≠ .restartWorkload) :
    ∃ step', (branchRewrite existing branch predecessor replaced).1[i]? = some step' ∧
      step'.operation = step.operation ∧
      step'.branchId = some ((step.branchId.filter (· != "")).getD
        (if step.operation.semantics.sharedDag then "shared" else initialBranchId)) := by
  have hname := @naming_branchRewrite existing branch predecessor replaced i hbranch
    (List.getElem?_eq_some_iff.mp hstep).1 (by simp [stepOperation?, hstep, hop])
  rw [getElem?_normalizedSteps, hstep] at hname
  obtain ⟨step', hstep', hsame⟩ := Option.map_eq_some_iff.mp hname
  simp only [WorkflowStepSpec.naming, Prod.mk.injEq] at hsame
  exact ⟨step', hstep', hsame.1, hsame.2.1⟩

private theorem restart_branchRewrite (hbranch : NoRestart branch.steps)
    (h : stepOperation? (branchRewrite existing branch predecessor replaced).1 i = some .restartWorkload) :
    stepOperation? existing.officialSteps i = some .restartWorkload := by
  by_cases hi : i < existing.officialSteps.length
  · rw [stepOperation?_branchRewrite hi] at h
    exact h
  · rw [stepOperation?, getElem?_branchRewrite_new hbranch (not_lt.mp hi), ← stepOperation?, attachedPlan,
      stepOperation?_attach hbranch, stepOperation?_eq_of_shape (narrowedPlan_shape _ _ _),
      stepOperation?_normalizedSteps] at h
    exact h

private theorem JoinFit.branchRewrite (h : JoinFit existing.officialSteps)
    (hbranch : candidateBranch candidate predecessor revision = .ok branch) :
    JoinFit (branchRewrite existing branch predecessor replaced).1 where
  unique i j hi hj :=
    h.unique i j (restart_branchRewrite (noRestart_of_candidateBranch hbranch) hi)
      (restart_branchRewrite (noRestart_of_candidateBranch hbranch) hj)
  labels step' hmem hlabel := by
    obtain ⟨i, hstep'⟩ := List.mem_iff_getElem?.mp hmem
    by_cases hi : i < existing.officialSteps.length
    · have hstep := List.getElem?_eq_getElem hi
      generalize existing.officialSteps[i] = step at hstep
      have hop : step'.operation = step.operation := by
        have hsame := @stepOperation?_branchRewrite existing i branch predecessor replaced hi
        simpa [stepOperation?, hstep, hstep'] using hsame
      by_contra hrestart
      obtain ⟨step'', hstep'', -, hkept⟩ := @label_branchRewrite existing branch predecessor replaced step i
        (noRestart_of_candidateBranch hbranch) hstep (hop ▸ hrestart)
      cases hstep'.symm.trans hstep''
      rw [hkept] at hlabel
      have hold := h.labels step (List.mem_of_getElem? hstep) (joinLabel_of_normalized (Option.some.inj hlabel))
      exact hrestart (hop.trans hold)
    · obtain ⟨source, -, base, count, previous, rfl⟩ :=
        exists_of_new (noRestart_of_candidateBranch hbranch) (not_lt.mp hi) hstep'
      exact absurd (Option.some.inj hlabel) (freshBranchId_ne_join hbranch)

end Names

/-! ### Records -/

/-- A record whose plan is fit to be a job DAG: it restarts its job once at most, only that step is labelled as the
join, and a branch that is exhausted has a step of its own. -/
structure RewriteFit (workflow : WorkflowRequest) : Prop where
  joinFit : JoinFit workflow.officialSteps
  exhausted : ∀ id ∈ workflow.exhaustedBranchIds, id ≠ "" ∧
    ∃ step ∈ workflow.officialSteps, step.branchId = some id ∧ step.operation ≠ .restartWorkload

section Records

variable {existing candidate rewritten workflow : WorkflowRequest} {predecessor : Option Nat} {replaced : List Nat}
  {now : Time} {nodeId branchId : String} {step : WorkflowStepSpec} {index : Nat}

private theorem nodup_sortedSet (l : List Nat) : (sortedSet l).Nodup :=
  (List.perm_insertionSort _ _).nodup_iff.mpr (List.nodup_dedup l)

private theorem executionLimit_le {other : WorkflowRequest}
    (hofficial : workflow.officialSteps.length ≤ other.officialSteps.length)
    (hsafety : other.safetySteps = workflow.safetySteps) (record : WorkflowStepExecution) :
    executionLimit workflow record ≤ executionLimit other record := by
  unfold executionLimit
  rw [hsafety]
  split
  · omega
  · exact hofficial
  · exact le_refl _

private theorem RecordSound.appended (h : RecordSound existing) (hfit : RewriteFit existing)
    {branch : CandidateBranch} {revision : Nat} {action : Option String}
    (hbranch : candidateBranch candidate predecessor revision = .ok branch)
    (hpred : ∀ p, predecessor = some p → p < existing.officialSteps.length)
    (hreplaced : ∀ i ∈ replaced, i < existing.officialSteps.length) :
    RecordSound (appendedRow existing branch predecessor replaced action now) := by
  have hno := noRestart_of_candidateBranch hbranch
  have hlen : (appendedRow existing branch predecessor replaced action now).officialSteps.length =
      existing.officialSteps.length + branch.steps.length := length_branchRewrite existing branch predecessor replaced
  have hsuperseded : ∀ i, i ∈ (appendedRow existing branch predecessor replaced action
      now).supersededStepIndexes ↔ i ∈ existing.supersededStepIndexes ∨
        (i ∈ (branchRewrite existing branch predecessor replaced).2 ∧ i ∉ existing.completedStepIndexes) := by
    intro i
    simp [appendedRow]
  have hretired :
      ∀ i ∈ (branchRewrite existing branch predecessor replaced).2, i < existing.officialSteps.length := by
    intro i hi
    rcases mem_terminalSuperseded hi with hi | ⟨-, step, hstep, -⟩
    · exact hreplaced i hi
    · rw [← length_normalizedSteps]
      exact (List.getElem?_eq_some_iff.mp hstep).1
  refine ⟨h.completed_nodup, nodup_sortedSet _, fun i hi hs => ?_, fun i hi => ?_, fun i hi => ?_,
    h.dependencies.branchRewrite hno hpred, fun _ => hfit.joinFit.branchRewrite hbranch, fun id hid => ?_,
    fun entry hentry => plannedNodes_append hbranch (h.counted entry hentry), fun record hrecord => ?_⟩
  · rcases (hsuperseded i).mp hs with hs | ⟨-, hnot⟩
    · exact h.disjoint i hi hs
    · exact hnot hi
  · have hlt := h.completed_lt i hi
    omega
  · rcases (hsuperseded i).mp hi with hi | ⟨hi, -⟩
    · have hlt := h.superseded_lt i hi
      omega
    · have hlt := hretired i hi
      omega
  · obtain ⟨hne, step, hstep, hlabel, hop⟩ := hfit.exhausted id hid
    obtain ⟨i, hi⟩ := List.mem_iff_getElem?.mp hstep
    obtain ⟨step', hstep', -, hkept⟩ := @label_branchRewrite existing branch predecessor replaced step i hno hi hop
    exact ⟨step', List.mem_of_getElem? hstep', hkept.trans (congrArg some (label_normalized hlabel hne))⟩
  · have hlimit := h.executions record hrecord
    have hlonger : existing.officialSteps.length ≤
        (appendedRow existing branch predecessor replaced action now).officialSteps.length := by
      omega
    exact Nat.lt_of_lt_of_le hlimit (executionLimit_le hlonger rfl record)

private theorem RecordSound.append (h : RecordSound existing) (hfit : RewriteFit existing)
    (hpred : ∀ p, predecessor = some p → p < existing.officialSteps.length)
    (hreplaced : ∀ i ∈ replaced, i < existing.officialSteps.length)
    (hok : appendParallelJobBranch existing candidate predecessor replaced now = .ok rewritten) :
    RecordSound rewritten := by
  rcases appendParallelJobBranch_ok hok with rfl | ⟨candidate', branch, action, -, hbranch, rfl⟩
  · exact h
  · exact h.appended hfit hbranch hpred hreplaced

private theorem mem_replacedStepIndexes_lt {branchId : Option String} {i : Nat}
    (h : i ∈ replacedStepIndexes existing nodeId branchId) : i < existing.officialSteps.length := by
  unfold replacedStepIndexes at h
  split at h
  · obtain ⟨step, hstep, -⟩ := mem_zipIdx_indexes h
    exact (List.getElem?_eq_some_iff.mp hstep).1
  · obtain ⟨step, hstep, -⟩ := mem_zipIdx_indexes h
    exact (List.getElem?_eq_some_iff.mp hstep).1

private theorem RecordSound.replacementTarget (h : RecordSound existing) {branchId : Option String}
    (htarget : replacementTarget existing nodeId branchId = some (predecessor, replaced)) :
    (∀ p, predecessor = some p → p < existing.officialSteps.length) ∧
      ∀ i ∈ replaced, i < existing.officialSteps.length := by
  refine ⟨fun p hp => ?_, fun i hi => mem_replacedStepIndexes_lt ((mem_replacementTarget htarget i).mp hi)⟩
  unfold GpuFaultRecovery.replacementTarget at htarget
  dsimp only at htarget
  split at htarget
  · cases htarget
  · rename_i firstIndex hfirst
    cases htarget
    exact (h.dependencies firstIndex p (List.mem_filter.mp (List.mem_of_getLast? hp)).1).1

private theorem RecordSound.replace (h : RecordSound existing) (hfit : RewriteFit existing) {branchId : Option String}
    (hok : replaceParallelJobBranch existing candidate nodeId branchId now = .ok rewritten) :
    RecordSound rewritten := by
  unfold replaceParallelJobBranch at hok
  split at hok
  · cases hok
    exact h
  · rename_i predecessor replaced htarget
    obtain ⟨hpred, hreplaced⟩ := h.replacementTarget htarget
    exact h.append hfit hpred hreplaced hok

private theorem RecordSound.successor (h : RecordSound existing) (hfit : RewriteFit existing)
    (hok : appendParallelJobBranchSuccessor existing candidate nodeId now = .ok rewritten) :
    RecordSound rewritten := by
  unfold appendParallelJobBranchSuccessor at hok
  split at hok
  · cases hok
  · rename_i predecessor htarget
    refine h.append hfit (fun p hp => ?_) (by simp) hok
    subst hp
    unfold successorTarget at htarget
    dsimp only at htarget
    split at htarget
    · cases htarget
    split at htarget
    · cases htarget
    · rename_i tail htail
      cases htarget
      have hmem := (List.mem_filter.mp (List.max?_mem htail)).1
      rw [← length_normalizedSteps]
      exact (attachable_of_nodeStepIndexes hmem).1

private theorem plannedNodes_congr {other : WorkflowRequest}
    (hofficial : other.officialSteps.map (fun step => step.nodeIds ++ step.branchNodeIds) =
      existing.officialSteps.map fun step => step.nodeIds ++ step.branchNodeIds)
    (hsafety : other.safetySteps = existing.safetySteps) : plannedNodes other = plannedNodes existing := by
  rw [plannedNodes, plannedNodes, List.flatMap_def, List.flatMap_def, List.map_append, List.map_append, hofficial,
    hsafety]

def WorkflowStepSpec.outline (step : WorkflowStepSpec) :
    WorkflowOperation × List Nat × Option String × List String × List String :=
  (step.operation, step.dependsOnStepIndexes, step.branchId, step.nodeIds, step.branchNodeIds)

/-- A write that keeps what is checked of every step. -/
private theorem RecordSound.of_outline {steps : List WorkflowStepSpec} {revision : Nat} (h : RecordSound existing)
    (houtline : steps.map WorkflowStepSpec.outline = existing.officialSteps.map WorkflowStepSpec.outline) :
    RecordSound { existing with officialSteps := steps, dagRevision := revision, updatedAt := now } := by
  have hmap :
      ∀ {α : Type} (f : WorkflowStepSpec → α) (g : _ → α), (∀ step, f step = g (WorkflowStepSpec.outline step)) →
      steps.map f = existing.officialSteps.map f := by
    intro α f g hfg
    have hg := congrArg (List.map g) houtline
    simpa only [List.map_map, Function.comp_def, ← hfg] using hg
  have hlen : steps.length = existing.officialSteps.length := by simpa using congrArg List.length houtline
  have hshape : planShape steps = planShape existing.officialSteps :=
    hmap _ (fun outline => (outline.1, outline.2.1)) fun _ => rfl
  have hlabels : steps.map (fun step => (step.branchId, step.operation)) =
      existing.officialSteps.map fun step => (step.branchId, step.operation) :=
    hmap _ (fun outline => (outline.2.2.1, outline.1)) fun _ => rfl
  have hnodes : plannedNodes { existing with officialSteps := steps, dagRevision := revision, updatedAt := now } =
      plannedNodes existing :=
    plannedNodes_congr (hmap _ (fun outline => outline.2.2.2.1 ++ outline.2.2.2.2) fun _ => rfl) rfl
  have hlimit : ∀ record, executionLimit
      { existing with officialSteps := steps, dagRevision := revision, updatedAt := now } record =
        executionLimit existing record := by
    intro record
    simp only [executionLimit, hlen]
  refine ⟨h.completed_nodup, h.superseded_nodup, h.disjoint, fun i hi => ?_, fun i hi => ?_,
    h.dependencies.of_shape hshape, fun hdag => ?_, fun id hid => ?_, fun entry hentry => ?_,
      fun record hrecord => ?_⟩
  · exact hlen ▸ h.completed_lt i hi
  · exact hlen ▸ h.superseded_lt i hi
  · obtain ⟨hunique, hjoin⟩ := h.joinFit hdag
    refine ⟨fun i j hi hj => ?_, fun step hstep hlabel => ?_⟩
    · rw [stepOperation?_eq_of_shape hshape] at hi hj
      exact hunique i j hi hj
    · have hmem : (step.branchId, step.operation) ∈ steps.map fun step => (step.branchId, step.operation) :=
        List.mem_map_of_mem hstep
      rw [hlabels] at hmem
      obtain ⟨old, hold, hsame⟩ := List.mem_map.mp hmem
      rw [Prod.mk.injEq] at hsame
      exact hsame.2 ▸ hjoin old hold (hsame.1.trans hlabel)
  · obtain ⟨old, hold, hlabel⟩ := h.exhausted id hid
    have hmem :
        (old.branchId, old.operation) ∈ existing.officialSteps.map fun step => (step.branchId, step.operation) :=
      List.mem_map_of_mem hold
    rw [← hlabels] at hmem
    obtain ⟨step, hstep, hsame⟩ := List.mem_map.mp hmem
    rw [Prod.mk.injEq] at hsame
    exact ⟨step, hstep, hsame.1.trans hlabel⟩
  · rw [hnodes]
    exact h.counted entry hentry
  · rw [hlimit]
    exact h.executions record hrecord

private theorem RecordSound.widen (h : RecordSound existing) (gpuUuids : List String) :
    RecordSound (widenParallelJobBranch existing candidate nodeId gpuUuids now) := by
  refine h.of_outline (List.ext_getElem? fun i => ?_)
  simp only [List.getElem?_map, List.getElem?_zipIdx]
  cases existing.officialSteps[i]? with
  | none => rfl
  | some step =>
    simp only [Option.map_some, Option.some.injEq]
    split <;> rfl

/-- Making a flat plan a DAG. -/
private theorem RecordSound.adopt (h : RecordSound existing) (hfit : RewriteFit existing) :
    RecordSound (adoptLinearPlan existing now) ∧ RewriteFit (adoptLinearPlan existing now) := by
  unfold adoptLinearPlan
  split
  · exact ⟨h, hfit⟩
  have hlabel : ∀ id ∈ existing.exhaustedBranchIds, ∃ step ∈ normalizedSteps existing, step.branchId = some id ∧
      step.operation ≠ .restartWorkload := by
    intro id hid
    obtain ⟨hne, step, hstep, hlabel, hop⟩ := hfit.exhausted id hid
    obtain ⟨i, hi⟩ := List.mem_iff_getElem?.mp hstep
    have hget := getElem?_normalizedSteps existing i
    rw [hi] at hget
    exact ⟨_, List.mem_of_getElem? hget, congrArg some (label_normalized hlabel hne), hop⟩
  have hlen := length_normalizedSteps existing
  have hnodes : (normalizedSteps existing).map (fun step => step.nodeIds ++ step.branchNodeIds) =
      existing.officialSteps.map fun step => step.nodeIds ++ step.branchNodeIds := by
    refine List.ext_getElem? fun i => ?_
    rw [List.getElem?_map, List.getElem?_map, getElem?_normalizedSteps, Option.map_map]
    rfl
  refine ⟨⟨h.completed_nodup, h.superseded_nodup, h.disjoint, fun i hi => ?_, fun i hi => ?_,
    h.dependencies.normalizedSteps, fun _ => hfit.joinFit.normalizedSteps, fun id hid => ?_, fun entry hentry => ?_,
    fun record hrecord => ?_⟩,
      ⟨hfit.joinFit.normalizedSteps, fun id hid => ⟨(hfit.exhausted id hid).1, hlabel id hid⟩⟩⟩
  · exact hlen ▸ h.completed_lt i hi
  · exact hlen ▸ h.superseded_lt i hi
  · obtain ⟨step, hstep, hid, -⟩ := hlabel id hid
    exact ⟨step, hstep, hid⟩
  · have hsame := @plannedNodes_congr existing { existing with officialSteps := normalizedSteps existing } hnodes rfl
    exact (congrArg (entry.1 ∈ ·) hsame).mpr (h.counted entry hentry)
  · have hlimit := h.executions record hrecord
    unfold executionLimit at hlimit ⊢
    dsimp only
    rw [hlen]
    exact hlimit

/-- Retiring a branch of the plan. -/
private theorem RecordSound.exhaust (h : RecordSound existing)
    (hbranch : ∃ step ∈ existing.officialSteps, step.branchId = some branchId) :
    RecordSound (exhaustBranch existing branchId now) := by
  unfold exhaustBranch
  dsimp only
  split
  · exact h
  have hpending : ∀ i ∈ pendingBranchSteps existing branchId,
      i < existing.officialSteps.length ∧ i ∉ existing.completedStepIndexes := by
    intro i hi
    obtain ⟨hindex, hopen⟩ := List.mem_filter.mp hi
    obtain ⟨step, hstep, -⟩ := mem_zipIdx_indexes hindex
    refine ⟨(List.getElem?_eq_some_iff.mp hstep).1, fun hdone => ?_⟩
    simp [WorkflowRequest.resolvedStepIndexes, hdone] at hopen
  refine ⟨h.completed_nodup, nodup_sortedSet _, fun i hi hs => ?_, h.completed_lt, fun i hi => ?_, h.dependencies,
    h.joinFit, fun id hid => ?_, h.counted, h.executions⟩
  · rcases List.mem_append.mp (mem_sortedSet.mp hs) with hs | hs
    · exact h.disjoint i hi hs
    · exact (hpending i hs).2 hi
  · rcases List.mem_append.mp (mem_sortedSet.mp hi) with hi | hi
    · exact h.superseded_lt i hi
    · exact (hpending i hi).1
  · rw [List.mem_eraseDups, List.mem_append, List.mem_singleton] at hid
    rcases hid with hid | rfl
    · exact h.exhausted id hid
    · exact hbranch

/-- Recording an attempt of an open step, and that it finished. -/
private theorem RecordSound.complete (h : RecordSound existing) (hphase : existing.executesSafetySteps = false)
    {outcome : StepOutcome} {later : Time} (hindex : index < existing.officialSteps.length)
    (hopen : index ∉ existing.resolvedStepIndexes) (operation : WorkflowOperation) :
    RecordSound (recordCompletion (recordAttempt existing step index outcome now) index operation later) := by
  rw [WorkflowRequest.resolvedStepIndexes, List.mem_append, not_or] at hopen
  have hcompleted : ∀ i, i ∈ (recordCompletion (recordAttempt existing step index outcome now) index operation
      later).completedStepIndexes ↔ i ∈ existing.completedStepIndexes ∨ i = index := by
    intro i
    simp [recordCompletion]
  refine ⟨?_, h.superseded_nodup, fun i hi => ?_, fun i hi => ?_, h.superseded_lt, h.dependencies, h.joinFit,
    h.exhausted, h.counted, fun record hrecord => ?_⟩
  · refine List.nodup_append.mpr ⟨h.completed_nodup, by simp, fun a ha b hb => ?_⟩
    rw [List.mem_singleton.mp hb]
    exact ne_of_mem_of_not_mem ha hopen.1
  · rcases (hcompleted i).mp hi with hi | rfl
    · exact h.disjoint i hi
    · exact hopen.2
  · rcases (hcompleted i).mp hi with hi | rfl
    · exact h.completed_lt i hi
    · exact hindex
  · simp only [recordCompletion, recordAttempt, List.mem_insertionSort, List.mem_append, List.mem_singleton]
      at hrecord
    rcases hrecord with hrecord | rfl
    · exact h.executions record (List.mem_filter.mp hrecord).1
    · simp only [executionLimit, attemptRecord, WorkflowRequest.executionPhase, hphase]
      exact hindex

/-! ### The branch ladder -/

variable {profile : Option RuntimeProfile} {maxRungs failedIndex : Nat} {error : Option String} {details : Details}
  {escalation : BranchEscalation} {operation : WorkflowOperation}

private theorem branchLineage_cases (step : WorkflowStepSpec) (nodeId branchId : String) :
    (branchLineage step nodeId branchId).2 = nodeId ∨
      (branchLineage step nodeId branchId).2 ∈ (branchLineage step nodeId branchId).1 := by
  unfold branchLineage
  dsimp only
  generalize (if (!step.branchNodeIds.isEmpty) = true then step.branchNodeIds
    else if (!(branchIdNodes branchId).isEmpty) = true then branchIdNodes branchId else [nodeId]) = nodes
  split
  · rename_i hone
    obtain ⟨node, rfl⟩ := List.length_eq_one_iff.mp hone
    exact .inr (by simp)
  · exact .inl rfl

/-- The rung that a climb appends is made for the nodes of the branch it replaces. -/
private theorem lineage_appended {candidate' : WorkflowRequest} {branch : CandidateBranch} {revision : Nat}
    {lineageNodes gpuUuids : List String} {action : Option String} {taken : Nat} {node : String}
    (hsteps : rungSteps profile operation nodeId gpuUuids lineageNodes ≠ [])
    (hkinds : operation = .restartNode ∨ operation = .replaceNode)
    (hinherit : inheritTerminalQuarantine existing
      (rungCandidate existing operation nodeId taken (rungSteps profile operation nodeId gpuUuids lineageNodes)) =
        .ok candidate')
    (hbranch : candidateBranch candidate' predecessor revision = .ok branch) (hnode : node ∈ lineageNodes) :
    node ∈ plannedNodes (appendedRow existing branch predecessor replaced action now) := by
  obtain ⟨i, rung, hrung, hop⟩ := exists_rungStep hsteps
  have hreadmits : ¬ rung.operation.readmits ∧ rung.operation.semantics.sharedDag = false ∧
      rung.operation ≠ .quarantine := by
    rw [hop]
    rcases hkinds with rfl | rfl <;> simp [WorkflowOperation.readmits, WorkflowOperation.semantics]
  obtain ⟨j, kept, hlive, hsame⟩ := inherit_keeps hinherit ⟨hrung, by simp [rungCandidate]⟩ hreadmits.1
  have hmade : kept.branchNodeIds = lineageNodes := by
    rcases inherit_branchNodeIds hinherit hlive.1 with hquarantine | ⟨origin, horigin, hnodes⟩
    · rw [hsame.operation] at hquarantine
      exact absurd hquarantine hreadmits.2.2
    · have horigin : origin ∈ rungSteps profile operation nodeId gpuUuids lineageNodes := horigin
      simp only [rungSteps, List.mem_map] at horigin
      obtain ⟨item, -, rfl⟩ := horigin
      exact hnodes
  have hmem :
      kept ∈ branch.steps := (mem_candidateBranch hbranch).mpr ⟨j, hlive, by rw [hsame.operation, hreadmits.2.1]⟩
  obtain ⟨new, hnew, -, hidentity⟩ := @appended_branchRewrite existing branch predecessor replaced kept
    (noRestart_of_candidateBranch hbranch) hmem
  refine List.mem_flatMap.mpr ⟨new, List.mem_append_left _ hnew, List.mem_append_right _ ?_⟩
  have hne : kept.branchNodeIds.isEmpty = false := by
    rw [hmade, List.isEmpty_eq_false_iff]
    exact List.ne_nil_of_mem hnode
  rw [hidentity, WorkflowStepSpec.identityNodes, hne, hmade]
  exact hnode

/-- A move of the ladder on a DAG. -/
private theorem RecordSound.move (h : RecordSound existing) (hfit : RewriteFit existing)
    (hstep : existing.officialSteps[failedIndex]? = some step) (hid : step.branchId = some branchId)
    (hnodes : step.nodeIds = [nodeId]) {outcome : BranchOutcome}
    (hmove : BranchMove profile maxRungs existing step nodeId branchId details now outcome rewritten) :
    RecordSound rewritten := by
  cases hmove with
  | exhausted => exact h.exhaust ⟨step, List.mem_of_getElem? hstep, hid⟩
  | escalated hrung htaken hsteps hreplaced =>
    rename_i operation replaced
    have hsound := h.replace hfit hreplaced
    have hclimbs := nextRung_of_branchRung hrung
    have hmem := mem_branchStepIndexes hstep hid (nextRung_scoped hclimbs)
    obtain ⟨predecessor, indexes, candidate', branch, action, hinherit, hbranch, rfl⟩ :=
      replaceParallelJobBranch_of_mem hmem hreplaced
    refine ⟨hsound.completed_nodup, hsound.superseded_nodup, hsound.disjoint, hsound.completed_lt,
      hsound.superseded_lt, hsound.dependencies, hsound.joinFit, hsound.exhausted, fun entry hentry => ?_,
      hsound.executions⟩
    change entry.1 ∈ plannedNodes (appendedRow existing branch predecessor indexes action now)
    rcases List.mem_append.mp hentry with hentry | hentry
    · exact plannedNodes_append hbranch (h.counted entry (List.mem_filter.mp hentry).1)
    · rw [List.mem_singleton.mp hentry]
      rcases branchLineage_cases step nodeId branchId with hnode | hlineage
      · -- the failed step names its node, and no rewrite takes a node out of the record
        rw [hnode]
        refine plannedNodes_append hbranch (List.mem_flatMap.mpr ⟨step, ?_, ?_⟩)
        · exact List.mem_append_left _ (List.mem_of_getElem? hstep)
        · simp [hnodes]
      · exact lineage_appended hsteps (nextRung_eq_some hclimbs) hinherit hbranch hlineage

private theorem RecordSound.escalate (h : RecordSound existing) (hfit : RewriteFit existing)
    (hok : escalateNodeBranch profile maxRungs existing failedIndex error details now = .ok (some escalation)) :
    RecordSound escalation.workflow := by
  obtain ⟨step, hescalates⟩ := escalateNodeBranch_move hok
  obtain ⟨hsound, hfit'⟩ : RecordSound (escalatedPlan existing now) ∧ RewriteFit (escalatedPlan existing now) := by
    unfold escalatedPlan
    split
    · exact ⟨h, hfit⟩
    · exact h.adopt hfit
  exact hsound.move hfit' hescalates.failed hescalates.branchId hescalates.nodeIds hescalates.move

end Records

/-! ### What the checker finds after a write -/

section Checked

variable {existing candidate rewritten : WorkflowRequest} {events : List WorkflowEvent}

private theorem append_phase {predecessor : Option Nat} {replaced : List Nat} {now : Time}
    (h : appendParallelJobBranch existing candidate predecessor replaced now = .ok rewritten) :
    rewritten.executesSafetySteps = existing.executesSafetySteps := by
  rcases appendParallelJobBranch_ok h with rfl | ⟨candidate', branch, action, -, -, rfl⟩
  · rfl
  · rfl

private theorem replace_phase {nodeId : String} {branchId : Option String} {now : Time}
    (h : replaceParallelJobBranch existing candidate nodeId branchId now = .ok rewritten) :
    rewritten.executesSafetySteps = existing.executesSafetySteps := by
  rcases replaceParallelJobBranch_append h with rfl | ⟨predecessor, replaced, happend⟩
  · rfl
  · exact append_phase happend

private theorem exhaust_phase (branchId : String) (now : Time) :
    (exhaustBranch existing branchId now).executesSafetySteps = existing.executesSafetySteps := by
  unfold exhaustBranch
  dsimp only
  split <;> rfl

private theorem escalate_phase {profile : Option RuntimeProfile} {maxRungs failedIndex : Nat} {error : Option String}
    {details : Details} {now : Time} {escalation : BranchEscalation}
    (h : escalateNodeBranch profile maxRungs existing failedIndex error details now = .ok (some escalation)) :
    escalation.workflow.executesSafetySteps = existing.executesSafetySteps := by
  obtain ⟨step, hescalates⟩ := escalateNodeBranch_move h
  have hplan : (escalatedPlan existing now).executesSafetySteps = existing.executesSafetySteps := by
    unfold escalatedPlan adoptLinearPlan
    split <;> rfl
  rw [← hplan]
  have hmove := hescalates.move
  generalize escalation.workflow = written at hmove
  generalize escalation.outcome = outcome at hmove
  cases hmove with
  | exhausted => exact exhaust_phase _ _
  | escalated _ _ _ hreplaced =>
    have hsame := replace_phase hreplaced
    exact hsame

/-- No write of the orchestration, of the branch ladder or of a finished step makes a record of the official phase
without a violation into one that the structural checks refuse. The rewrites need a plan that is fit to be a job DAG,
which is checked of a DAG only; a branch that is exhausted has to be one of the plan. -/
theorem writes_keep_record_sound (hphase : existing.executesSafetySteps = false)
    (hclean : workflowInvariantViolations existing events = []) :
    (RewriteFit existing →
      (∀ candidate predecessor replaced now rewritten,
        (∀ p, predecessor = some p → p < existing.officialSteps.length) →
        (∀ i ∈ replaced, i < existing.officialSteps.length) →
        appendParallelJobBranch existing candidate predecessor replaced now = .ok rewritten →
        structuralViolations rewritten = []) ∧
      (∀ candidate nodeId branchId now rewritten,
        replaceParallelJobBranch existing candidate nodeId branchId now = .ok rewritten →
        structuralViolations rewritten = []) ∧
      (∀ candidate nodeId now rewritten,
        appendParallelJobBranchSuccessor existing candidate nodeId now = .ok rewritten →
        structuralViolations rewritten = []) ∧
      ∀ profile maxRungs failedIndex error details now escalation,
        escalateNodeBranch profile maxRungs existing failedIndex error details now = .ok (some escalation) →
        structuralViolations escalation.workflow = []) ∧
    (∀ candidate nodeId gpuUuids now,
      structuralViolations (widenParallelJobBranch existing candidate nodeId gpuUuids now) = []) ∧
    (∀ branchId now, (∃ step ∈ existing.officialSteps, step.branchId = some branchId) →
      structuralViolations (exhaustBranch existing branchId now) = []) ∧
    ∀ index step outcome now later, existing.officialSteps[index]? = some step →
      index ∉ existing.resolvedStepIndexes →
      structuralViolations
        (recordCompletion (recordAttempt existing step index outcome now) index step.operation later) = [] := by
  have hsound := sound_of_no_violation hphase hclean
  refine ⟨fun hfit => ⟨?_, ?_, ?_, ?_⟩, ?_, ?_, ?_⟩
  · intro candidate predecessor replaced now rewritten hpred hreplaced hok
    rw [structuralViolations_eq_nil ((append_phase hok).trans hphase)]
    exact hsound.append hfit hpred hreplaced hok
  · intro candidate nodeId branchId now rewritten hok
    rw [structuralViolations_eq_nil ((replace_phase hok).trans hphase)]
    exact hsound.replace hfit hok
  · intro candidate nodeId now rewritten hok
    have hsuccessor := hsound.successor hfit hok
    unfold appendParallelJobBranchSuccessor at hok
    split at hok
    · cases hok
    · rw [structuralViolations_eq_nil ((append_phase hok).trans hphase)]
      exact hsuccessor
  · intro profile maxRungs failedIndex error details now escalation hok
    rw [structuralViolations_eq_nil ((escalate_phase hok).trans hphase)]
    exact hsound.escalate hfit hok
  · intro candidate nodeId gpuUuids now
    have hsame : (widenParallelJobBranch existing candidate nodeId gpuUuids now).executesSafetySteps = false := hphase
    rw [structuralViolations_eq_nil hsame]
    exact hsound.widen gpuUuids
  · intro branchId now hbranch
    rw [structuralViolations_eq_nil ((exhaust_phase branchId now).trans hphase)]
    exact hsound.exhaust hbranch
  · intro index step outcome now later hstep hopen
    have hsame : (recordCompletion (recordAttempt existing step index outcome now) index step.operation
        later).executesSafetySteps = false := hphase
    rw [structuralViolations_eq_nil hsame]
    exact hsound.complete hphase (List.getElem?_eq_some_iff.mp hstep).1 hopen step.operation

end Checked

/-! ### Records that are not fit -/

private def pendingPlan (dagEnabled : Bool) (steps : List WorkflowStepSpec) (exhausted : List String) :
    WorkflowRequest :=
  { requestId := "plan"
    status := .pending
    dagEnabled
    officialSteps := steps
    exhaustedBranchIds := exhausted }

/-- A job of one node, its reset done; the branch of the reset is exhausted. -/
private def exhaustedJob : WorkflowRequest :=
  { pendingPlan true
      [{ operation := .resetGpu, nodeIds := ["n1"], branchId := some "branch:n1" },
        { operation := .restartWorkload, nodeIds := ["n1"], dependsOnStepIndexes := [0], branchId := some "join" }]
      ["branch:n1"] with
    completedStepIndexes := [0]
    branchEscalationCounts := [("n1", 1)] }

private def newReset : WorkflowRequest := pendingPlan false [{ operation := .resetGpu, nodeIds := ["n2"] }] []

/-- The plan of the job is fit, so a new branch is appended to it without a violation, and the restart can be
recorded. -/
theorem writes_keep_record_sound_job :
    workflowInvariantViolations exhaustedJob [] = [] ∧ workflowInvariantViolations newReset [] = [] ∧
      (∀ rewritten, appendParallelJobBranch exhaustedJob newReset none [] 0 = .ok rewritten →
        structuralViolations rewritten = []) ∧
      structuralViolations (recordCompletion (recordAttempt exhaustedJob
        { operation := .restartWorkload, nodeIds := ["n1"], dependsOnStepIndexes := [0], branchId := some "join" } 1
        { status := .succeeded } 0) 1 .restartWorkload 0) = [] := by
  have hclean : workflowInvariantViolations exhaustedJob [] = [] := by decide +kernel
  have hfit : RewriteFit exhaustedJob :=
    ⟨⟨length_joinIndexes_le_one.mp (by decide +kernel), by decide +kernel⟩, by decide +kernel⟩
  obtain ⟨hrewrites, -, -, hcomplete⟩ := writes_keep_record_sound (by decide) hclean
  refine ⟨hclean, by decide +kernel, fun rewritten hok => ?_, ?_⟩
  · exact (hrewrites hfit).1 newReset none [] 0 rewritten (by simp) (by simp) hok
  · exact hcomplete 1 _ { status := .succeeded } 0 0 (by decide +kernel) (by decide +kernel)

/-- What the checker finds once the branch of `newReset` is appended. -/
private def foundAfterAppend (existing : WorkflowRequest) : List InvariantViolation :=
  match appendParallelJobBranch existing newReset none [] 0 with
  | .ok rewritten => structuralViolations rewritten
  | .error _ => []

private def twoRestarts : WorkflowRequest :=
  pendingPlan false
    [{ operation := .resetGpu, nodeIds := ["n1"] }, { operation := .restartWorkload },
      { operation := .restartWorkload }]
    []

private def labelledAsJoin : WorkflowRequest :=
  pendingPlan false [{ operation := .resetGpu, nodeIds := ["n1"], branchId := some "join" }] []

private def exhaustedRestart : WorkflowRequest :=
  pendingPlan true [{ operation := .restartWorkload, branchId := some "branch:job" }] ["branch:job"]

private def exhaustedUnnamed : WorkflowRequest :=
  pendingPlan true [{ operation := .resetGpu, nodeIds := ["n1"], branchId := some "" }] [""]

/-- Without a fit plan a rewrite of a record without a violation has one: a second restart and a step labelled as the
join are found once the flat plan is a DAG, and the label of an exhausted branch is lost if it is empty or the job
restart's. An exhausted branch the plan does not have is found at once. -/
theorem unfit_records_found :
    (∀ row ∈ [newReset, twoRestarts, labelledAsJoin, exhaustedRestart, exhaustedUnnamed],
      row.executesSafetySteps = false ∧ workflowInvariantViolations row [] = []) ∧
    newReset.dagEnabled = false ∧ newReset.resolvedStepIndexes = [] ∧ newReset.stepExecutions = [] ∧
    foundAfterAppend twoRestarts = [.severalJoins [1, 2]] ∧
    foundAfterAppend labelledAsJoin = [.joinLabel 0 .resetGpu] ∧
    foundAfterAppend exhaustedRestart = [.unknownBranches ["branch:job"]] ∧
    foundAfterAppend exhaustedUnnamed = [.unknownBranches [""]] ∧
    structuralViolations (exhaustBranch newReset "branch:n9" 0) = [.unknownBranches ["branch:n9"]] := by
  refine ⟨by decide +kernel, by decide, by decide, by decide, ?_, ?_, ?_, ?_, ?_⟩ <;> decide +kernel

end GpuFaultRecovery
