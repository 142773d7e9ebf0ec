import GpuFaultRecovery.GpuScope
import GpuFaultRecovery.QuarantineInheritance

/-!
# Steps through a merge

Where the steps of the two plans of a merge are found afterwards. A hold inherited by the candidate touches only its
readmissions and job restarts, an appended branch leaves the steps before it in their places and brings every step of
the candidate outside the shared ones.
-/

namespace GpuFaultRecovery

/-- Two steps that do the same, on the same nodes and GPUs. -/
structure SameAction (a b : WorkflowStepSpec) : Prop where
  operation : b.operation = a.operation
  nodeIds : b.nodeIds = a.nodeIds
  gpuUuids : b.gpuUuids = a.gpuUuids
  mapping : b.parameters.get? "gpu_uuids_by_node" = a.parameters.get? "gpu_uuids_by_node"

/-- Two steps that name the same GPUs on the same nodes for the same operation; what else their parameters hold may
stand in another order. -/
structure SameWork (a b : WorkflowStepSpec) : Prop where
  operation : b.operation = a.operation
  nodeIds : b.nodeIds = a.nodeIds
  gpus : ∀ node, stepGpus b node = stepGpus a node
  mapped : (gpuUuidsByNode b).isSome = (gpuUuidsByNode a).isSome

/-- The step at `index` will still run. -/
def UnresolvedStep (workflow : WorkflowRequest) (index : Nat) (step : WorkflowStepSpec) : Prop :=
  workflow.officialSteps[index]? = some step ∧ index ∉ workflow.resolvedStepIndexes

/-- A readmission or a job restart: the steps a hold may narrow or retire. -/
def WorkflowOperation.readmits (op : WorkflowOperation) : Prop := op = .restoreScheduling ∨ op = .restartWorkload

section Steps

variable {steps values : List WorkflowStepSpec} {step a b c : WorkflowStepSpec} {workflow : WorkflowRequest} {i : Nat}

theorem SameAction.refl (a : WorkflowStepSpec) : SameAction a a := ⟨rfl, rfl, rfl, rfl⟩

theorem SameAction.trans (h : SameAction a b) (h' : SameAction b c) : SameAction a c :=
  ⟨h'.operation.trans h.operation, h'.nodeIds.trans h.nodeIds, h'.gpuUuids.trans h.gpuUuids,
    h'.mapping.trans h.mapping⟩

theorem SameAction.work (h : SameAction a b) : SameWork a b := by
  refine ⟨h.operation, h.nodeIds, fun node => ?_, ?_⟩
  · unfold stepGpus
    rw [h.mapping, h.gpuUuids]
  · unfold gpuUuidsByNode
    rw [h.mapping]

theorem SameWork.trans (h : SameWork a b) (h' : SameWork b c) : SameWork a c :=
  ⟨h'.operation.trans h.operation, h'.nodeIds.trans h.nodeIds, fun node => (h'.gpus node).trans (h.gpus node),
    h'.mapped.trans h.mapped⟩

private theorem SameWork.symm (h : SameWork a b) : SameWork b a :=
  ⟨h.operation.symm, h.nodeIds.symm, fun node => (h.gpus node).symm, h.mapped.symm⟩

private theorem canonical_dec (m : Int) (d : Nat) :
    (∃ n, (Json.dec m d).canonical = .int n) ∨ ∃ n k, (Json.dec m d).canonical = .dec n k := by
  unfold Json.canonical
  split
  · exact .inl ⟨_, rfl⟩
  · exact .inr ⟨_, _, rfl⟩

private theorem strings_canonicalItems (items : List Json) :
    (Json.arr (Json.canonicalItems items)).strings = (Json.arr items).strings := by
  induction items with
  | nil => rfl
  | cons item items ih =>
    unfold Json.strings at ih ⊢
    dsimp only at ih ⊢
    rw [Json.canonicalItems, List.filterMap_cons, List.filterMap_cons, ih]
    cases item with
    | dec m d => rcases canonical_dec m d with ⟨n, he⟩ | ⟨n, k, he⟩ <;> rw [he]
    | _ => rfl

private theorem strings_canonical (value : Json) : value.canonical.strings = value.strings := by
  cases value with
  | arr items => exact strings_canonicalItems items
  | dec m d => rcases canonical_dec m d with ⟨n, he⟩ | ⟨n, k, he⟩ <;> rw [he] <;> rfl
  | _ => rfl

/-- The mapping of a step does not depend on the order of its parameters. -/
private theorem stepSemantics_work (step : WorkflowStepSpec) : SameWork step (stepSemantics step) := by
  have hget : Details.get? (stepSemantics step).parameters "gpu_uuids_by_node" =
      (step.parameters.get? "gpu_uuids_by_node").map Json.canonical := Json.lookup_canonicalFields _ _
  unfold stepSemantics at hget ⊢
  refine ⟨rfl, rfl, fun node => ?_, ?_⟩
  · unfold stepGpus
    rw [hget]
    cases step.parameters.get? "gpu_uuids_by_node" with
    | none => rfl
    | some value =>
      cases value with
      | obj raw =>
        have hnode : Details.get? (Json.canonicalFields raw) node = (Details.get? raw node).map Json.canonical :=
          Json.lookup_canonicalFields _ _
        simp only [Option.map_some, Json.canonical, hnode, Option.map_map]
        congr 2
        exact funext strings_canonical
      | dec m d => rcases canonical_dec m d with ⟨n, he⟩ | ⟨n, k, he⟩ <;> rw [Option.map_some, he]
      | _ => rfl
  · unfold gpuUuidsByNode
    rw [hget]
    cases step.parameters.get? "gpu_uuids_by_node" with
    | none => rfl
    | some value =>
      cases value with
      | dec m d => rcases canonical_dec m d with ⟨n, he⟩ | ⟨n, k, he⟩ <;> rw [Option.map_some, he]
      | _ => rfl

theorem UnresolvedStep.live (h : UnresolvedStep workflow i step) : LiveStep workflow i step :=
  ⟨h.1, fun hs => h.2 (List.mem_append_right _ hs)⟩

/-- A record of a fresh candidate: what is not superseded will still run. -/
theorem LiveStep.unresolved (h : LiveStep workflow i step) (hfresh : workflow.completedStepIndexes = []) :
    UnresolvedStep workflow i step := by
  refine ⟨h.1, fun hs => ?_⟩
  rw [WorkflowRequest.resolvedStepIndexes, hfresh, List.nil_append] at hs
  exact h.2 hs

end Steps

/-! ### The candidate with its holds -/

section Inherit

variable {existing candidate result : WorkflowRequest} {step : WorkflowStepSpec} {i : Nat}

/-- A merge of holds changes the plan of a candidate and what it leaves out, nothing else. -/
theorem inherit_fields (h : inheritTerminalQuarantine existing candidate = .ok result) :
    ∃ steps superseded, result = { candidate with officialSteps := steps, supersededStepIndexes := superseded } := by
  obtain ⟨held, own, -, -, ⟨-, rfl⟩ | ⟨steps, superseded, missing, -, superseded', -, rfl⟩⟩ :=
    inheritTerminalQuarantine_ok h
  · exact ⟨_, _, rfl⟩
  · exact ⟨steps, superseded', rfl⟩

/-- A candidate and its merged plan: a quarantine is all that is new. -/
theorem inherit_placed (h : inheritTerminalQuarantine existing candidate = .ok result) :
    ∃ required place, (result = candidate ∨ PlacedIn (fun step => step.operation = .quarantine)
      (inheritedSteps candidate required) (leftOut candidate required) result.officialSteps
        result.supersededStepIndexes place) := by
  obtain ⟨held, own, -, -, ⟨-, rfl⟩ | ⟨steps, superseded, missing, hinsert, superseded', hsame, rfl⟩⟩ :=
    inheritTerminalQuarantine_ok h
  · exact ⟨[], id, .inl rfl⟩
  · obtain ⟨place, hplaced, -, -⟩ :=
      @insertMissing_ok (fun step => step.operation = .quarantine) _ _ _ _ _ _ _ candidate
      (fun _ hop _ => hop)
      (fun template htemplate _ _ _ => show template.operation = .quarantine from
        quarantine_of_mem_templates htemplate)
      hinsert
    exact ⟨requiredHolds held own, place, .inr (hplaced.congr hsame)⟩

/-- A live step of the candidate survives the merge of holds, unless it readmits a node or restarts the job. -/
theorem inherit_keeps (h : inheritTerminalQuarantine existing candidate = .ok result)
    (hlive : LiveStep candidate i step) (hop : ¬ step.operation.readmits) :
    ∃ j step', LiveStep result j step' ∧ SameAction step step' := by
  obtain ⟨required, place, rfl | hplaced⟩ := inherit_placed h
  · exact ⟨i, step, hlive, .refl step⟩
  have hother : suppressStep candidate required step i = (step, false) :=
    suppressStep_other (fun he => hop (.inl he)) (fun he => hop (.inr he))
  have hkept : i ∉ leftOut candidate required := by
    rw [mem_leftOut]
    rintro (hs | ⟨other, hother', hretired⟩)
    · exact hlive.2 hs
    · cases hlive.1.symm.trans hother'
      rw [hother] at hretired
      cases hretired
  have hmarked : (inheritedSteps candidate required)[i]? =
      some (markHeld candidate required (leftOut candidate required) step i) := by
    rw [getElem?_inheritedSteps, hlive.1, Option.map_some, inheritedStep, hother]
  obtain ⟨dependencies, hget, -⟩ := hplaced.forth i _ hmarked
  refine ⟨place i, _, ⟨hget, fun hs => hkept ((hplaced.superseded i).mp hs)⟩, ?_⟩
  unfold markHeld
  dsimp only
  split
  · exact ⟨rfl, rfl, rfl, rfl⟩
  · exact ⟨rfl, rfl, rfl, Details.get?_set_ne _ _ (by decide)⟩

theorem mem_stepOperations {steps : List WorkflowStepSpec} {op : WorkflowOperation} :
    op ∈ stepOperations steps ↔ ∃ (i : Nat) (step : WorkflowStepSpec), steps[i]? = some step ∧
      step.operation = op := by
  constructor
  · intro h
    obtain ⟨step, hstep, hop⟩ := List.mem_map.mp h
    obtain ⟨i, hi⟩ := List.mem_iff_getElem?.mp hstep
    exact ⟨i, step, hi, hop⟩
  · rintro ⟨i, step, hi, hop⟩
    exact List.mem_map.mpr ⟨step, List.mem_of_getElem? hi, hop⟩

/-- Every operation of the candidate is one of the merged plan. -/
theorem inherit_operations (h : inheritTerminalQuarantine existing candidate = .ok result) {op : WorkflowOperation}
    (hop : op ∈ stepOperations candidate.officialSteps) : op ∈ stepOperations result.officialSteps := by
  obtain ⟨required, place, rfl | hplaced⟩ := inherit_placed h
  · exact hop
  obtain ⟨i, step, hstep, rfl⟩ := mem_stepOperations.mp hop
  have hmarked : (inheritedSteps candidate required)[i]? =
      some (inheritedStep candidate required (leftOut candidate required) i step) := by
    rw [getElem?_inheritedSteps, hstep]
    rfl
  obtain ⟨dependencies, hget, -⟩ := hplaced.forth i _ hmarked
  exact mem_stepOperations.mpr ⟨place i, _, hget, inheritedStep_operation step⟩

end Inherit

/-! ### An appended branch -/

section Append

variable {existing candidate rewritten : WorkflowRequest} {branch : CandidateBranch}
  {steps values : List WorkflowStepSpec}
  {step : WorkflowStepSpec} {predecessor stopIndex : Option Nat} {replaced : List Nat} {nodes : List String}
  {branchId : String}
  {stopIsOpen : Bool} {now : Time} {i : Nat}

/-- The step at `i` is found there again. -/
def KeptAt (steps steps' : List WorkflowStepSpec) (i : Nat) : Prop :=
  ∀ step, steps[i]? = some step → ∃ step', steps'[i]? = some step' ∧ SameAction step step'

private theorem KeptAt.trans {steps' steps'' : List WorkflowStepSpec} (h : KeptAt steps steps' i)
    (h' : KeptAt steps' steps'' i) :
    KeptAt steps steps'' i := by
  intro step hstep
  obtain ⟨step', hstep', hsame⟩ := h step hstep
  obtain ⟨step'', hstep'', hsame'⟩ := h' step' hstep'
  exact ⟨step'', hstep'', hsame.trans hsame'⟩

private theorem keptAt_addDependency (index dependency : Nat) :
    KeptAt steps (addDependency steps index dependency) i := by
  intro step hstep
  rw [addDependency, List.getElem?_modify, hstep]
  refine ⟨_, rfl, ?_⟩
  dsimp only
  split <;> exact ⟨rfl, rfl, rfl, rfl⟩

private theorem keptAt_reconnectJoin (tail : Option Nat) (superseded : List Nat) :
    KeptAt steps (reconnectJoin steps tail superseded) i := by
  intro step hstep
  rw [reconnectJoin, List.getElem?_map, hstep]
  refine ⟨_, rfl, ?_⟩
  dsimp only
  split <;> exact ⟨rfl, rfl, rfl, rfl⟩

private theorem keptAt_append (extra : List WorkflowStepSpec) : KeptAt steps (steps ++ extra) i := by
  intro step hstep
  refine ⟨step, ?_, .refl step⟩
  rw [List.getElem?_append_left (List.getElem?_eq_some_iff.mp hstep).1, hstep]

private theorem keptAt_gateStop : KeptAt steps (gateStop steps values branchId stopIndex stopIsOpen).1 i := by
  unfold gateStop
  dsimp only
  split
  · dsimp only
    split
    · exact (keptAt_append _).trans (keptAt_addDependency _ _)
    · exact keptAt_append _
  · exact keptAt_append _

private theorem keptAt_attach :
    KeptAt steps (attachCandidateBranch steps branch branchId stopIndex stopIsOpen predecessor).1 i := by
  unfold attachCandidateBranch
  cases predecessor with
  | some _ => exact keptAt_append _
  | none => exact keptAt_gateStop.trans (keptAt_append _)

/-- A branch rewrite leaves an old step what it was, unless it narrows a readmission. -/
theorem branchRewrite_keeps (hstep : existing.officialSteps[i]? = some step)
    (hop : step.operation ≠ .restoreScheduling) :
    ∃ step', (branchRewrite existing branch predecessor replaced).1[i]? = some step' ∧ SameAction step step' := by
  have hnormal : ∃ step', (normalizedSteps existing)[i]? = some step' ∧ SameAction step step' := by
    rw [getElem?_normalizedSteps, hstep]
    exact ⟨_, rfl, ⟨rfl, rfl, rfl, rfl⟩⟩
  have hnarrowed : ∃ step', (terminalSuperseded existing (normalizedSteps existing) branch.terminal replaced).1[i]? =
      some step' ∧ SameAction step step' := by
    obtain ⟨step', hstep', hsame⟩ := hnormal
    unfold terminalSuperseded
    split
    · exact ⟨step', hstep', hsame⟩
    · refine ⟨_, by rw [getElem?_suppressReadmission, hstep']; rfl, ?_⟩
      unfold suppressStep
      dsimp only
      split
      · exact hsame
      split
      · exact hsame
      split
      · rename_i hrestore
        exact absurd (hsame.operation.symm.trans (by simpa using hrestore)) hop
      · exact hsame
  obtain ⟨step', hstep', hsame⟩ := hnarrowed
  unfold branchRewrite
  dsimp only
  split
  · obtain ⟨step'', hstep'', hsame'⟩ := keptAt_attach step' hstep'
    exact ⟨step'', hstep'', hsame.trans hsame'⟩
  · obtain ⟨step'', hstep'', hsame'⟩ := (keptAt_attach.trans (keptAt_reconnectJoin _ _)) step' hstep'
    exact ⟨step'', hstep'', hsame.trans hsame'⟩

private theorem appendChain_has (hstep : step ∈ values) (dependency : Option Nat) :
    ∃ k step', steps.length ≤ k ∧ (appendChain steps values dependency branchId).1[k]? = some step' ∧
      SameAction step step' := by
  obtain ⟨k, hk⟩ := List.mem_iff_getElem?.mp hstep
  refine ⟨steps.length + k, chainStep steps.length values.length (steps.length + k)
    (chainPrevious steps.length dependency k) branchId step, by omega, ?_, ⟨rfl, rfl, rfl, rfl⟩⟩
  rw [appendChain, List.getElem?_append_right (by omega), Nat.add_sub_cancel_left, getElem?_chainFrom, hk]
  rfl

theorem sameAction_afterStopStep (step : WorkflowStepSpec) : SameAction step (afterStopStep step) := by
  unfold afterStopStep
  split
  · refine ⟨rfl, rfl, rfl, ?_⟩
    dsimp only
    rw [Details.get?_set_ne _ _ (by decide), Details.get?_set_ne _ _ (by decide), Details.get?_set_ne _ _ (by decide)]
  · exact .refl step

private theorem gateStop_has (hstep : step ∈ values) :
    ∃ k step', steps.length ≤ k ∧ (gateStop steps values branchId stopIndex stopIsOpen).1[k]? = some step' ∧
      SameAction step step' := by
  obtain ⟨k, step', hk, hget, hsame⟩ := @appendChain_has steps values step branchId hstep none
  unfold gateStop
  dsimp only
  split
  · dsimp only
    split
    · obtain ⟨step'', hget', hsame'⟩ := keptAt_addDependency _ _ step' hget
      exact ⟨k, step'', hk, hget', hsame.trans hsame'⟩
    · exact ⟨k, step', hk, hget, hsame⟩
  · exact ⟨k, step', hk, hget, hsame⟩

private theorem mem_leading_or_trailing (hstep : step ∈ branch.steps) :
    step ∈ branch.leading stopIsOpen ∨ afterStopStep step ∈ branch.trailing stopIsOpen := by
  obtain ⟨entry, hentry, rfl⟩ := List.mem_map.mp hstep
  unfold CandidateBranch.leading CandidateBranch.trailing
  cases stopIsOpen with
  | false => exact .inr (List.mem_map_of_mem hstep)
  | true =>
    by_cases hpre : branch.preStop entry = true
    · exact .inl (List.mem_map_of_mem (List.mem_filter.mpr ⟨hentry, hpre⟩))
    · exact .inr (List.mem_map.mpr ⟨entry, List.mem_filter.mpr ⟨hentry, by simpa using hpre⟩, rfl⟩)

private theorem attach_has (hstep : step ∈ branch.steps) :
    ∃ k step', steps.length ≤ k ∧
      (attachCandidateBranch steps branch branchId stopIndex stopIsOpen predecessor).1[k]? = some step' ∧
      SameAction step step' := by
  unfold attachCandidateBranch
  cases predecessor with
  | some _ => exact appendChain_has hstep _
  | none =>
    rcases @mem_leading_or_trailing branch step stopIsOpen hstep with hlead | htrail
    · obtain ⟨k, step', hk, hget, hsame⟩ := @gateStop_has steps _ step stopIndex branchId stopIsOpen hlead
      obtain ⟨step'', hget', hsame'⟩ := keptAt_append _ step' hget
      exact ⟨k, step'', hk, hget', hsame.trans hsame'⟩
    · obtain ⟨k, step', hk, hget, hsame⟩ := @appendChain_has
        (gateStop steps (branch.leading stopIsOpen) branchId stopIndex stopIsOpen).1 _ _ branchId htrail
        (stopIndex.orElse fun _ => (gateStop steps (branch.leading stopIsOpen) branchId stopIndex stopIsOpen).2)
      have hlen := length_gateStop steps (branch.leading stopIsOpen) branchId stopIndex stopIsOpen
      exact ⟨k, step', by omega, hget, (sameAction_afterStopStep step).trans hsame⟩

/-- A branch rewrite brings every step of the branch, behind the old plan. -/
theorem branchRewrite_has (hstep : step ∈ branch.steps) :
    ∃ k step', existing.officialSteps.length ≤ k ∧
      (branchRewrite existing branch predecessor replaced).1[k]? = some step' ∧ SameAction step step' := by
  have hlen := length_eq_of_shape
    (terminalSuperseded_shape existing (normalizedSteps existing) branch.terminal replaced)
  rw [length_normalizedSteps] at hlen
  obtain ⟨k, step', hk, hget, hsame⟩ := @attach_has branch
    (terminalSuperseded existing (normalizedSteps existing) branch.terminal replaced).1 step predecessor
    (stopState existing (normalizedSteps existing)).1 (freshBranchId existing branch)
    (stopState existing (normalizedSteps existing)).2 hstep
  rw [hlen] at hk
  unfold branchRewrite
  dsimp only
  split
  · exact ⟨k, step', hk, hget, hsame⟩
  · obtain ⟨step'', hget', hsame'⟩ := keptAt_reconnectJoin _ _ step' hget
    exact ⟨k, step'', hk, hget', hsame.trans hsame'⟩

/-- The branch of a candidate: its live steps outside the shared ones. -/
theorem mem_candidateBranch {revision : Nat} (h : candidateBranch candidate predecessor revision = .ok branch) :
    step ∈ branch.steps ↔ ∃ i, LiveStep candidate i step ∧ step.operation.semantics.sharedDag = false := by
  unfold candidateBranch at h
  obtain ⟨quarantined, -, h⟩ := bind_ok h
  have he := Except.ok.inj h
  subst he
  simp only [CandidateBranch.steps, List.mem_map, List.mem_filter, Prod.exists, mem_liveSteps]
  constructor
  · rintro ⟨other, i, ⟨hlive, hshared⟩, rfl⟩
    exact ⟨i, hlive, by simpa using hshared⟩
  · rintro ⟨i, hlive, hshared⟩
    exact ⟨step, i, ⟨hlive, by simpa using hshared⟩, rfl⟩

/-- A branch found in the record: each of its steps is a live one of the record. -/
theorem alreadyPresent_has (h : branchAlreadyPresent existing (normalizedSteps existing) values nodes = true)
    (hstep : step ∈ values) : ∃ i step', LiveStep existing i step' ∧ SameWork step step' := by
  unfold branchAlreadyPresent at h
  dsimp only at h
  obtain ⟨id, -, h⟩ := List.any_eq_true.mp h
  simp only [Bool.and_eq_true, beq_iff_eq] at h
  have hmem : stepSemantics step ∈ branchSemantics values := List.mem_map_of_mem hstep
  rw [← h.2] at hmem
  obtain ⟨other, hother, hsame⟩ := List.mem_map.mp hmem
  obtain ⟨⟨found, i⟩, hfound, rfl⟩ := List.mem_map.mp hother
  obtain ⟨hlive, -⟩ := List.mem_filter.mp hfound
  obtain ⟨hget, hsuperseded⟩ := List.mem_filter.mp hlive
  rw [List.mem_zipIdx_iff_getElem?, getElem?_normalizedSteps] at hget
  obtain ⟨original, horiginal, hnormal⟩ := Option.map_eq_some_iff.mp hget
  have hnot : i ∉ existing.supersededStepIndexes := by simpa using hsuperseded
  refine ⟨i, original, ⟨horiginal, hnot⟩, ?_⟩
  dsimp only at hnormal hsame
  have hwork : SameWork original found := by
    rw [← hnormal]
    exact ⟨rfl, rfl, fun _ => rfl, rfl⟩
  have hfound := hwork.trans (stepSemantics_work found)
  rw [hsame] at hfound
  exact (stepSemantics_work step).trans hfound.symm

/-- The indexes a branch rewrite retires: the replaced ones, and readmissions or job restarts of nodes it ends. -/
theorem mem_retired (h : i ∈ (branchRewrite existing branch predecessor replaced).2) :
    i ∈ replaced ∨ (branch.terminal ≠ [] ∧ ∃ step, existing.officialSteps[i]? = some step ∧
      step.operation.readmits) := by
  have hmem : i ∈ (terminalSuperseded existing (normalizedSteps existing) branch.terminal replaced).2 := h
  rcases mem_terminalSuperseded hmem with hreplaced | ⟨hends, step, hstep, hop⟩
  · exact .inl hreplaced
  · rw [getElem?_normalizedSteps] at hstep
    obtain ⟨original, horiginal, rfl⟩ := Option.map_eq_some_iff.mp hstep
    exact .inr ⟨hends, original, horiginal, hop⟩

end Append

end GpuFaultRecovery
