import GpuFaultRecovery.GpuScope
import GpuFaultRecovery.MergedActions

/-!
# Fault coverage through a merge

A fault names a node and GPUs of it, and a plan covers them as long as a step that will still run recovers the node or
mutates it and names the GPU there. A merge moves steps and the widening after it points them at more nodes and GPUs:
a step keeps what it acts on, and a pending node action takes over whatever the plan and the fault name.
-/

namespace GpuFaultRecovery

/-- A step that repairs a GPU of a node: it recovers the whole node, or mutates it and names the GPU there. -/
structure ActsOn (step : WorkflowStepSpec) (node gpu : String) : Prop where
  names : node ∈ step.nodeIds
  notWorkload : step.operation.semantics.workloadScoped = false
  repairs : step.operation.semantics.nodeWide = true ∨ (step.operation.nodeMutating = true ∧ gpu ∈ stepGpus step node)

/-- A step that will still run repairs a GPU of a node. -/
def CoversGpu (workflow : WorkflowRequest) (node gpu : String) : Prop :=
  ∃ i step, UnresolvedStep workflow i step ∧ ActsOn step node gpu

/-- The GPUs a step of a plan names on a node. A node action on several nodes with one list for all of them names each
GPU on the node the plan places it on. -/
def namedGpus (workflow : WorkflowRequest) (step : WorkflowStepSpec) (node : String) : List String :=
  if step.operation.nodeActionScope && (gpuUuidsByNode step).isNone then
    ((((stepGpuShares workflow step).getD []).find? fun entry => entry.1 == node).map Prod.snd).getD []
  else stepGpus step node

/-- A step that a widening points at the whole scope of a merge. -/
structure Carries (step : WorkflowStepSpec) : Prop where
  notWorkload : step.operation.semantics.workloadScoped = false
  repairs : step.operation.semantics.nodeWide = true ∨
    (step.operation.nodeMutating = true ∧ (step.operation.nodeActionScope = true ∨ gpuUuidsByNode step = none))

/-- A step that acts on single GPUs of a node. -/
structure AsksForGpu (step : WorkflowStepSpec) (node : String) : Prop where
  names : node ∈ step.nodeIds
  action : step.operation.nodeActionScope = true
  mutating : step.operation.nodeMutating = true
  single : step.operation.semantics.nodeWide = false

def InScope (scope : NodeGpus) (node gpu : String) : Prop := ∃ gpus, (node, gpus) ∈ scope ∧ gpu ∈ gpus

/-! ### Mappings -/

section Mappings

variable {workflow existing : WorkflowRequest} {step step' : WorkflowStepSpec} {entries scope : NodeGpus}
  {node gpu nodeId : String} {gpuUuids : List String} {raw : Details}

theorem strings_arr (values : List String) : Json.strings (.arr (values.map Json.str)) = values := by
  unfold Json.strings
  dsimp only
  rw [List.filterMap_map]
  exact List.filterMap_some

theorem gpuUuidsByNode_some : gpuUuidsByNode step = some raw ↔
    step.parameters.get? "gpu_uuids_by_node" = some (.obj raw) := by
  unfold gpuUuidsByNode
  split
  · rename_i raw' hraw
    rw [hraw]
    simp
  · rename_i hother
    constructor
    · rintro ⟨⟩
    · intro h
      exact absurd h (hother raw)

private theorem stepGpus_mapped (h : gpuUuidsByNode step = some raw) :
    stepGpus step node = ((Details.get? raw node).map Json.strings).getD [] := by
  unfold stepGpus
  rw [gpuUuidsByNode_some.mp h]

theorem stepGpus_flat (h : gpuUuidsByNode step = none) : stepGpus step node = step.gpuUuids := by
  unfold stepGpus
  split
  · rename_i raw hraw
    rw [gpuUuidsByNode_some.mpr hraw] at h
    cases h
  · rfl

/-- What a mapping names on a node is among its entries. -/
theorem mem_mappingEntries (h : gpuUuidsByNode step = some raw) (hgpu : gpu ∈ stepGpus step node) :
    InScope (mappingEntries raw) node gpu := by
  rw [stepGpus_mapped h] at hgpu
  cases hvalue : Details.get? raw node with
  | none =>
    rw [hvalue] at hgpu
    cases hgpu
  | some value =>
    rw [hvalue] at hgpu
    obtain ⟨before, after, rfl, -⟩ := List.lookup_eq_some_iff.mp hvalue
    cases value with
    | arr items =>
      refine ⟨Json.strings (.arr items), ?_, hgpu⟩
      exact List.mem_filterMap.mpr ⟨(node, .arr items), by simp, rfl⟩
    | _ => cases hgpu

private theorem inScope_groupByNode : InScope (groupByNode entries) node gpu ↔ InScope entries node gpu := by
  unfold groupByNode InScope
  simp only [List.mem_map, mem_sortedSet, Prod.mk.injEq]
  constructor
  · rintro ⟨gpus, ⟨key, -, rfl, rfl⟩, hgpu⟩
    rw [mem_sortedSet] at hgpu
    obtain ⟨entry, hentry, hin⟩ := List.mem_flatMap.mp hgpu
    obtain ⟨hmem, hkey⟩ := List.mem_filter.mp hentry
    have he : entry.1 = key := by simpa using hkey
    subst he
    exact ⟨entry.2, hmem, hin⟩
  · rintro ⟨gpus, hmem, hgpu⟩
    refine ⟨_, ⟨node, ⟨(node, gpus), hmem, rfl⟩, rfl, rfl⟩, ?_⟩
    rw [mem_sortedSet]
    exact List.mem_flatMap.mpr ⟨(node, gpus), List.mem_filter.mpr ⟨hmem, by simp⟩, hgpu⟩

/-- The entry of a node in a mapping that a merge wrote. -/
theorem get?_grouped (h : node ∈ entries.map Prod.fst) :
    Details.get? ((groupByNode entries).map fun entry => (entry.1, .arr (entry.2.map Json.str))) node =
      some (.arr ((sortedSet ((entries.filter fun entry => entry.1 == node).flatMap Prod.snd)).map Json.str)) := by
  have hlookup := List.lookup_graph (fun key => Json.arr ((sortedSet
    ((entries.filter fun entry => entry.1 == key).flatMap Prod.snd)).map Json.str)) (mem_sortedSet.mpr h)
  unfold Details.get? groupByNode
  rw [List.map_map, ← hlookup]
  rfl

private theorem mem_stepGpus_grouped
    (hmapping : step.parameters.get? "gpu_uuids_by_node" = some (NodeGpus.toJson (groupByNode entries)))
    (h : InScope entries node gpu) : gpu ∈ stepGpus step node := by
  obtain ⟨gpus, hmem, hgpu⟩ := h
  have hobj : NodeGpus.toJson (groupByNode entries) =
      .obj ((groupByNode entries).map fun entry => (entry.1, .arr (entry.2.map Json.str))) := rfl
  rw [hobj] at hmapping
  rw [stepGpus_mapped (gpuUuidsByNode_some.mpr hmapping), get?_grouped (List.mem_map_of_mem hmem), Option.map_some,
    strings_arr, Option.getD_some, mem_sortedSet]
  exact List.mem_flatMap.mpr ⟨(node, gpus), List.mem_filter.mpr ⟨hmem, by simp⟩, hgpu⟩

private theorem inScope_merged : InScope (mergedGpuScope (some existing) nodeId gpuUuids) node gpu ↔
    (∃ step ∈ existing.officialSteps, InScope (stepScope existing step) node gpu) ∨
    (node = nodeId ∧ gpu ∈ gpuUuids) := by
  unfold mergedGpuScope
  rw [inScope_groupByNode]
  simp only [InScope, Option.map_some, Option.getD_some, List.mem_append, List.mem_flatMap, List.mem_singleton,
    Prod.mk.injEq]
  constructor
  · rintro ⟨gpus, ⟨step, hstep, hmem⟩ | ⟨rfl, rfl⟩, hgpu⟩
    · exact .inl ⟨step, hstep, gpus, hmem, hgpu⟩
    · exact .inr ⟨rfl, hgpu⟩
  · rintro (⟨step, hstep, gpus, hmem, hgpu⟩ | ⟨rfl, hgpu⟩)
    · exact ⟨gpus, .inl ⟨step, hstep, hmem⟩, hgpu⟩
    · exact ⟨gpuUuids, .inr ⟨rfl, rfl⟩, hgpu⟩

/-- A merge always has a scope: the node of the fault is in it. -/
theorem mergedGpuScope_ne_nil {source : Option WorkflowRequest} : mergedGpuScope source nodeId gpuUuids ≠ [] := by
  have hnode : nodeId ∈ (mergedGpuScope source nodeId gpuUuids).map Prod.fst := by
    unfold mergedGpuScope groupByNode
    simp
  intro h
  rw [h] at hnode
  cases hnode

/-- What a node action names is in the scope of a merge. -/
theorem inScope_of_named (hstep : step ∈ existing.officialSteps) (haction : step.operation.nodeActionScope = true)
    (hnode : node ∈ step.nodeIds) (hgpu : gpu ∈ namedGpus existing step node) :
    InScope (mergedGpuScope (some existing) nodeId gpuUuids) node gpu := by
  refine inScope_merged.mpr (.inl ⟨step, hstep, ?_⟩)
  unfold namedGpus at hgpu
  unfold stepScope
  rw [if_pos haction]
  cases hmapping : gpuUuidsByNode step with
  | some raw =>
    rw [hmapping, haction, if_neg (by simp)] at hgpu
    exact mem_mappingEntries hmapping hgpu
  | none =>
    rw [hmapping, haction, if_pos (by rfl)] at hgpu
    exact ⟨_, List.mem_map_of_mem hnode, hgpu⟩

end Mappings

/-! ### Widening -/

section Widening

variable {workflow : WorkflowRequest} {step : WorkflowStepSpec} {scope : NodeGpus} {node gpu : String} {i : Nat}

private theorem mem_gpuNodes (h : InScope scope node gpu) :
    node ∈ (scope.filter fun entry => !entry.2.isEmpty).map Prod.fst := by
  obtain ⟨gpus, hmem, hgpu⟩ := h
  refine List.mem_map.mpr ⟨(node, gpus), List.mem_filter.mpr ⟨hmem, ?_⟩, rfl⟩
  simpa using List.ne_nil_of_mem hgpu

private theorem mem_scopeGpus (h : InScope scope node gpu) : gpu ∈ scope.flatMap Prod.snd := by
  obtain ⟨gpus, hmem, hgpu⟩ := h
  exact List.mem_flatMap.mpr ⟨(node, gpus), hmem, hgpu⟩

private theorem widenedScopeStep_operation : (widenedScopeStep workflow scope step).operation = step.operation := by
  unfold widenedScopeStep
  dsimp only
  split <;> rfl

theorem widenedScopeStep_nodes (h : node ∈ step.nodeIds) : node ∈ (widenedScopeStep workflow scope step).nodeIds := by
  unfold widenedScopeStep
  dsimp only
  split <;> exact mem_sortedSet.mpr (List.mem_append_left _ h)

private theorem widenedScopeStep_joined (h : InScope scope node gpu) :
    node ∈ (widenedScopeStep workflow scope step).nodeIds := by
  have hnode := mem_gpuNodes h
  unfold widenedScopeStep
  dsimp only
  split
  · exact mem_sortedSet.mpr (List.mem_append_right _ hnode)
  · obtain ⟨entry, hentry, rfl⟩ := List.mem_map.mp hnode
    exact mem_sortedSet.mpr (List.mem_append_right _ (List.mem_map_of_mem (List.mem_filter.mp hentry).1))

/-- A widened node action names what the scope places on a node. -/
private theorem widenedScopeStep_action (haction : step.operation.nodeActionScope = true)
    (h : InScope scope node gpu) :
    gpu ∈ stepGpus (widenedScopeStep workflow scope step) node := by
  unfold widenedScopeStep
  dsimp only
  rw [if_pos haction]
  cases hmapping : widenedGpuMapping workflow step scope with
  | none =>
    -- the plan cannot place the GPUs: the step keeps one list for all its nodes
    have hflat : gpuUuidsByNode step = none := by
      unfold widenedGpuMapping at hmapping
      split at hmapping
      · rename_i hunknown
        simp only [gpuSharesUnknown, Bool.and_eq_true, Option.isNone_iff_eq_none] at hunknown
        exact hunknown.1.1
      · cases hmapping
    have hgpus : gpu ∈ sortedSet (step.gpuUuids ++ scope.flatMap Prod.snd) :=
      mem_sortedSet.mpr (List.mem_append_right _ (mem_scopeGpus h))
    rw [stepGpus_flat]
    · exact hgpus
    · exact hflat
  | some mapping =>
    unfold widenedGpuMapping at hmapping
    split at hmapping
    · cases hmapping
    · cases hmapping
      obtain ⟨gpus, hmem, hgpu⟩ := h
      have hin : InScope (((gpuUuidsByNode step).map mappingEntries).getD [] ++
          scope.filter fun entry => !entry.2.isEmpty) node gpu := by
        refine ⟨gpus, List.mem_append_right _ (List.mem_filter.mpr ⟨hmem, ?_⟩), hgpu⟩
        simpa using List.ne_nil_of_mem hgpu
      exact mem_stepGpus_grouped (Details.get?_set_self _ _ _) hin

private theorem widenedScopeStep_host (haction : step.operation.nodeActionScope = false)
    (h : gpu ∈ stepGpus step node) :
    gpu ∈ stepGpus (widenedScopeStep workflow scope step) node := by
  unfold widenedScopeStep
  dsimp only
  rw [if_neg (by simp [haction])]
  cases hmapping : gpuUuidsByNode step with
  | some raw =>
    rw [stepGpus_mapped hmapping] at h
    rw [stepGpus_mapped]
    · exact h
    · exact hmapping
  | none =>
    rw [stepGpus_flat hmapping] at h
    rw [stepGpus_flat]
    · exact mem_sortedSet.mpr (List.mem_append_left _ h)
    · exact hmapping

private theorem ActsOn.widened (h : ActsOn step node gpu)
    (hscope : step.operation.nodeActionScope = true → InScope scope node gpu) :
    ActsOn (widenedScopeStep workflow scope step) node gpu := by
  refine ⟨widenedScopeStep_nodes h.names, ?_, ?_⟩
  · rw [widenedScopeStep_operation]
    exact h.notWorkload
  · rw [widenedScopeStep_operation]
    refine h.repairs.imp_right fun ⟨hmutating, hgpu⟩ => ⟨hmutating, ?_⟩
    cases haction : step.operation.nodeActionScope with
    | true => exact widenedScopeStep_action haction (hscope haction)
    | false => exact widenedScopeStep_host haction hgpu

private theorem Carries.widened (h : Carries step) (hscope : InScope scope node gpu) :
    ActsOn (widenedScopeStep workflow scope step) node gpu := by
  refine ⟨widenedScopeStep_joined hscope, ?_, ?_⟩
  · rw [widenedScopeStep_operation]
    exact h.notWorkload
  · rw [widenedScopeStep_operation]
    refine h.repairs.imp_right fun ⟨hmutating, hcarries⟩ => ⟨hmutating, ?_⟩
    cases haction : step.operation.nodeActionScope with
    | true => exact widenedScopeStep_action haction hscope
    | false =>
      have hflat : gpuUuidsByNode step = none := hcarries.resolve_left (by simp [haction])
      unfold widenedScopeStep
      dsimp only
      rw [if_neg (by simp [haction]), stepGpus_flat]
      · exact mem_sortedSet.mpr (List.mem_append_right _ (mem_scopeGpus hscope))
      · exact hflat

end Widening

/-! ### The widened row -/

section Widened

variable {existing merged : WorkflowRequest} {step : WorkflowStepSpec} {nodeId incidentId node gpu : String}
  {gpuUuids : List String} {i : Nat}

private theorem UnresolvedStep.widened (h : UnresolvedStep merged i step)
    (hid : merged.requestId = existing.requestId) :
    UnresolvedStep (widenedMerge merged existing incidentId nodeId gpuUuids) i
      (if (fixedScopeStepIndexes merged).contains i || step.operation.semantics.workloadScoped then step
        else widenedScopeStep { merged with incidentId } (mergedGpuScope (some existing) nodeId gpuUuids) step) := by
  have hsource : (if merged.requestId == existing.requestId then some existing else none) = some existing := by
    rw [hid]
    simp
  have hscope : (mergedGpuScope (some existing) nodeId gpuUuids).isEmpty = false := by
    simpa using mergedGpuScope_ne_nil
  unfold widenedMerge widenNodeActionScope
  dsimp only
  rw [hsource, hscope]
  refine ⟨?_, h.2⟩
  show (List.map _ _)[i]? = _
  rw [List.getElem?_map, List.getElem?_zipIdx, h.1]
  simp only [Option.map_some, Nat.zero_add]
  rfl

private theorem UnresolvedStep.covers (h : UnresolvedStep merged i step) (hid : merged.requestId = existing.requestId)
    (hacts : ActsOn step node gpu)
    (hscope : step.operation.nodeActionScope = true →
      InScope (mergedGpuScope (some existing) nodeId gpuUuids) node gpu) :
    CoversGpu (widenedMerge merged existing incidentId nodeId gpuUuids) node gpu := by
  refine ⟨i, _, h.widened hid, ?_⟩
  split
  · exact hacts
  · exact hacts.widened hscope

private theorem UnresolvedStep.covers_scope (h : UnresolvedStep merged i step)
    (hid : merged.requestId = existing.requestId) (hfree : i ∉ fixedScopeStepIndexes merged) (hcarries : Carries step)
    (hscope : InScope (mergedGpuScope (some existing) nodeId gpuUuids) node gpu) :
    CoversGpu (widenedMerge merged existing incidentId nodeId gpuUuids) node gpu := by
  refine ⟨i, _, h.widened hid, ?_⟩
  rw [if_neg]
  · exact hcarries.widened hscope
  · simpa [hcarries.notWorkload] using hfree

private theorem UnresolvedStep.present (h : UnresolvedStep merged i step)
    (hid : merged.requestId = existing.requestId) :
    ∃ step', UnresolvedStep (widenedMerge merged existing incidentId nodeId gpuUuids) i step' ∧
      step'.operation = step.operation ∧ ∀ node ∈ step.nodeIds, node ∈ step'.nodeIds := by
  refine ⟨_, h.widened hid, ?_, ?_⟩
  · split
    · rfl
    · exact widenedScopeStep_operation
  · intro node hnode
    split
    · exact hnode
    · exact widenedScopeStep_nodes hnode

end Widened

/-! ### Repairs and verdicts -/

section Repairs

variable {existing candidate candidate' merged : WorkflowRequest} {step other : WorkflowStepSpec}
  {settings : MergeSettings} {verdict : Disposition} {node gpu nodeId existingIncidentId : String}
  {gpuUuids : List String} {indexes : Option (List Nat)} {isMutable : Bool} {now : Time} {i k : Nat}

private theorem SameWork.actsOn (h : SameWork step other) (hacts : ActsOn step node gpu) : ActsOn other node gpu := by
  refine ⟨?_, ?_, ?_⟩
  · rw [h.nodeIds]
    exact hacts.names
  · rw [h.operation]
    exact hacts.notWorkload
  · rw [h.operation, h.gpus]
    exact hacts.repairs

private theorem SameWork.carries (h : SameWork step other) (hcarries : Carries step) : Carries other := by
  refine ⟨?_, ?_⟩
  · rw [h.operation]
    exact hcarries.notWorkload
  · rw [h.operation, ← Option.isNone_iff_eq_none, ← Option.not_isSome, h.mapped, Option.not_isSome,
      Option.isNone_iff_eq_none]
    exact hcarries.repairs

private theorem repair_kind {op : WorkflowOperation} (hworkload : op.semantics.workloadScoped = false)
    (hrepairs : op.semantics.nodeWide = true ∨ op.nodeMutating = true) :
    op.semantics.sharedDag = false ∧ ¬ op.readmits ∧ op ≠ .restoreScheduling ∧ op ≠ .restartWorkload := by
  unfold WorkflowOperation.readmits
  revert hworkload hrepairs
  cases op <;> decide

private theorem ActsOn.kind (h : ActsOn step node gpu) : step.operation.semantics.sharedDag = false ∧
    ¬ step.operation.readmits ∧ step.operation ≠ .restoreScheduling ∧ step.operation ≠ .restartWorkload :=
  repair_kind h.notWorkload (h.repairs.imp_right And.left)

private theorem Carries.kind (h : Carries step) : step.operation.semantics.sharedDag = false ∧
    ¬ step.operation.readmits ∧ step.operation ≠ .restoreScheduling ∧ step.operation ≠ .restartWorkload :=
  repair_kind h.notWorkload (h.repairs.imp_right And.left)

private theorem nodeWide_of_dominates {a b : WorkflowOperation} (h : b ∈ a.dominates) :
    a.semantics.nodeWide = true ∧ a.semantics.workloadScoped = false := by
  revert h
  cases a <;> simp [WorkflowOperation.dominates] <;> intros <;> decide

/-- A step that does what a ranked repair does carries, but for a restart of the fabric manager with a mapping of its
own. -/
private theorem carries_of_covers (hacts : ActsOn step node gpu) (hranked : step.operation.nodeRanked = true)
    (hcovers : other.operation.Covers step.operation) :
    Carries other ∨ (other.operation = .restartFabricManager ∧ step.operation = .restartFabricManager ∧
      (gpuUuidsByNode other).isSome = true) := by
  rcases hcovers with he | hdominates
  · have hkind : step.operation.semantics.nodeWide = true ∨
        (step.operation.nodeMutating = true ∧ step.operation.nodeActionScope = true) ∨
        (step.operation.nodeMutating = true ∧ step.operation = .restartFabricManager) := by
      have hworkload := hacts.notWorkload
      have hrepairs := hacts.repairs.imp_right And.left
      revert hworkload hrepairs hranked
      cases step.operation <;> decide
    have hworkload : other.operation.semantics.workloadScoped = false := by
      rw [he]
      exact hacts.notWorkload
    rcases hkind with hwide | ⟨hmutating, haction⟩ | ⟨hmutating, hfabric⟩
    · refine .inl ⟨hworkload, .inl ?_⟩
      rw [he]
      exact hwide
    · refine .inl ⟨hworkload, .inr ?_⟩
      rw [he]
      exact ⟨hmutating, .inl haction⟩
    · cases hmapping : gpuUuidsByNode other with
      | none =>
        refine .inl ⟨hworkload, .inr ⟨?_, .inr hmapping⟩⟩
        rw [he]
        exact hmutating
      | some raw => exact .inr ⟨he.trans hfabric, hfabric, rfl⟩
  · obtain ⟨hwide, hworkload⟩ := nodeWide_of_dominates hdominates
    exact .inl ⟨hworkload, .inl hwide⟩

/-- Every merge but a successor leaves the existing row its identity. -/
private theorem mergedWorkflow_requestId (hverdict : verdict ≠ .queueSuccessor)
    (hsome : verdict = .replaceBranch → nodeBranchStepIndexes existing nodeId ≠ [])
    (h : mergedWorkflow settings verdict nodeId candidate existing existingIncidentId gpuUuids isMutable now =
      .ok merged) : merged.requestId = existing.requestId := by
  have happended : ∀ appended predecessor replaced,
      appendParallelJobBranch existing appended predecessor replaced now = .ok merged →
        merged.requestId = existing.requestId := by
    intro appended predecessor replaced happend
    obtain ⟨-, branch, -, -, ⟨rfl, -⟩ | ⟨action, rfl⟩⟩ := appendParallelJobBranch_cases happend <;> rfl
  cases verdict with
  | queueSuccessor => exact absurd rfl hverdict
  | absorb =>
    cases h
    unfold absorb
    split <;> rfl
  | absorbRecordOnly | widenInPlace | widenBranch | replaceInPlace =>
    cases h
    rfl
  | parallelBranch | replaceBranch | queueBranchSuccessor =>
    obtain ⟨appended, predecessor, replaced, -, happend⟩ := mergedWorkflow_appended (by decide) hsome h
    exact happended appended predecessor replaced happend

private theorem resolved_of_fixed {workflow : WorkflowRequest} (hcompleted : workflow.completedStepIndexes = [])
    (hrecords : workflow.stepExecutions = []) (h : i ∈ fixedScopeStepIndexes workflow) :
    i ∈ workflow.resolvedStepIndexes := by
  rcases List.mem_append.mp h with hsubmitted | hcommitted
  · simpa [submittedStepIndexes, hrecords] using hsubmitted
  · simp [committedStepIndexes, quiesceDispatched, hcompleted, hrecords] at hcommitted

private theorem mem_liveNodeSteps : step ∈ liveNodeSteps existing nodeId indexes →
    ∃ i, UnresolvedStep existing i step ∧ nodeId ∈ step.nodeIds ∧
      step.operation.semantics.workloadScoped = false := by
  intro h
  obtain ⟨⟨found, i⟩, hfound, rfl⟩ := List.mem_map.mp h
  obtain ⟨hget, hlive⟩ := List.mem_filter.mp hfound
  simp only [Bool.and_eq_true, Bool.not_eq_true', ← Bool.not_eq_true, List.contains_iff_mem] at hlive
  exact ⟨i, ⟨List.mem_zipIdx_iff_getElem?.mp hget, hlive.1.1.2⟩, hlive.1.2, by simpa using hlive.2⟩

/-- The scope of a fault is covered by a recovery of the node, by steps that name each GPU, or without a GPU by any
live step unless the candidate asks for an action on one. -/
private theorem faultScopeCovered_true (h : faultScopeCovered existing nodeId gpuUuids indexes candidate = .ok true) :
    (∃ i step, UnresolvedStep existing i step ∧ nodeId ∈ step.nodeIds ∧
        step.operation.semantics.workloadScoped = false ∧ step.operation.semantics.nodeWide = true) ∨
      (gpuUuids ≠ [] ∧ ∀ gpu ∈ gpuUuids, CoversGpu existing nodeId gpu) ∨
      (gpuUuids = [] ∧ gpuIdentityUnresolved candidate nodeId gpuUuids = false) := by
  unfold faultScopeCovered at h
  obtain ⟨covered, -, h⟩ := bind_ok h
  split at h
  · cases h
  dsimp only at h
  split at h
  · cases h
  split at h
  · rename_i hwide
    obtain ⟨step, hstep, hwide⟩ := List.any_eq_true.mp hwide
    obtain ⟨i, hopen, hnode, hworkload⟩ := mem_liveNodeSteps hstep
    exact .inl ⟨i, step, hopen, hnode, hworkload, hwide⟩
  split at h
  · rename_i hempty
    refine .inr (.inr ⟨by simpa using hempty, ?_⟩)
    simpa using Except.ok.inj h
  · rename_i hsome
    refine .inr (.inl ⟨by simpa using hsome, fun gpu hgpu => ?_⟩)
    have hall : gpuUuids.all (((liveNodeSteps existing nodeId indexes).filter fun step =>
        step.operation.nodeMutating).flatMap fun step => stepGpus step nodeId).contains = true := Except.ok.inj h
    have hin := List.all_eq_true.mp hall gpu hgpu
    rw [List.contains_iff_mem] at hin
    obtain ⟨step, hstep, hnamed⟩ := List.mem_flatMap.mp hin
    obtain ⟨hlive, hmutating⟩ := List.mem_filter.mp hstep
    obtain ⟨i, hopen, hnode, hworkload⟩ := mem_liveNodeSteps hlive
    exact ⟨i, step, hopen, hnode, hworkload, .inr ⟨hmutating, hnamed⟩⟩

end Repairs

/-! ### Rows with more GPUs -/

/-- `b` is `a` with more GPUs. -/
structure GrownStep (a b : WorkflowStepSpec) : Prop where
  operation : b.operation = a.operation
  nodeIds : b.nodeIds = a.nodeIds
  branchId : b.branchId = a.branchId
  flat : gpuUuidsByNode a = none → gpuUuidsByNode b = none
  gpus : ∀ node, ∀ gpu ∈ stepGpus a node, gpu ∈ stepGpus b node

/-- `merged` is `existing` with more GPUs in steps that were free to take them. -/
structure GrownRow (existing merged : WorkflowRequest) : Prop where
  forth : ∀ i step, existing.officialSteps[i]? = some step →
    ∃ step', merged.officialSteps[i]? = some step' ∧ GrownStep step step' ∧
      (i ∈ fixedScopeStepIndexes existing → step' = step)
  length : merged.officialSteps.length = existing.officialSteps.length
  completed : merged.completedStepIndexes = existing.completedStepIndexes
  superseded : merged.supersededStepIndexes = existing.supersededStepIndexes
  records : merged.stepExecutions = existing.stepExecutions
  safety : merged.executesSafetySteps = existing.executesSafetySteps

section Grown

variable {existing candidate merged : WorkflowRequest} {step step' other : WorkflowStepSpec}
  {settings : MergeSettings}
  {node gpu nodeId incidentId : String} {gpuUuids : List String} {parameters : Details} {isMutable : Bool}
  {now : Time}
  {i : Nat}

private theorem GrownStep.refl (a : WorkflowStepSpec) : GrownStep a a := ⟨rfl, rfl, rfl, fun h => h, fun _ _ h => h⟩

private theorem lookup_filter {p : String × Json → Bool} {fields : Details} {value : Json}
    (h : Details.get? fields node = some value) (hp : p (node, value) = true) :
    Details.get? (fields.filter p) node = some value := by
  obtain ⟨before, after, rfl, hnone⟩ := List.lookup_eq_some_iff.mp h
  refine List.lookup_eq_some_iff.mpr ⟨before.filter p, after.filter p, ?_, ?_⟩
  · rw [List.filter_append, List.filter_cons_of_pos hp]
  · intro entry hentry
    exact hnone entry (List.mem_filter.mp hentry).1

/-- A widened mapping names what it named. -/
private theorem widenGpuMapping_grows {own : List String}
    (hparameters : step'.parameters = widenGpuMapping step.parameters nodeId own)
    (hgpus : ∀ gpu ∈ step.gpuUuids, gpu ∈ step'.gpuUuids) :
    (gpuUuidsByNode step = none → gpuUuidsByNode step' = none) ∧
      ∀ node, ∀ gpu ∈ stepGpus step node, gpu ∈ stepGpus step' node := by
  cases hmapping : gpuUuidsByNode step with
  | none =>
    have hsame : widenGpuMapping step.parameters nodeId own = step.parameters := by
      unfold widenGpuMapping
      split
      · rename_i raw hraw
        rw [gpuUuidsByNode_some.mpr hraw] at hmapping
        cases hmapping
      · rfl
    have hflat : gpuUuidsByNode step' = none := by
      unfold gpuUuidsByNode at hmapping ⊢
      rw [hparameters, hsame]
      exact hmapping
    refine ⟨fun _ => hflat, fun node gpu hgpu => ?_⟩
    rw [stepGpus_flat hmapping] at hgpu
    rw [stepGpus_flat hflat]
    exact hgpus gpu hgpu
  | some raw =>
    refine ⟨fun h => (by cases h), fun node gpu hgpu => ?_⟩
    rw [stepGpus_mapped hmapping] at hgpu
    have hraw := gpuUuidsByNode_some.mp hmapping
    unfold widenGpuMapping at hparameters
    rw [hraw] at hparameters
    dsimp only at hparameters
    -- only the entry of the widened node changes, and it grows
    cases hvalue : Details.get? raw node with
    | none =>
      rw [hvalue] at hgpu
      cases hgpu
    | some value =>
      rw [hvalue] at hgpu
      cases value with
      | arr items =>
        have hstep' : gpuUuidsByNode step' = some _ := gpuUuidsByNode_some.mpr (by
          rw [hparameters]
          exact Details.get?_set_self _ _ _)
        rw [stepGpus_mapped hstep']
        split
        · rw [lookup_filter hvalue]
          · exact hgpu
          · rfl
        · by_cases hnode : node = nodeId
          · subst hnode
            rw [Details.get?_set_self, lookup_filter hvalue]
            · simp only [Option.map_some, Option.getD_some, strings_arr, mem_sortedSet, List.mem_append]
              exact .inl hgpu
            · rfl
          · rw [Details.get?_set_ne _ _ hnode, lookup_filter hvalue]
            · exact hgpu
            · rfl
      | _ => cases hgpu

private theorem grownStep_widenedStep : GrownStep step (widenedStep candidate nodeId gpuUuids step) := by
  obtain ⟨hflat, hgrows⟩ :=
    @widenGpuMapping_grows step (widenedStep candidate nodeId gpuUuids step) nodeId gpuUuids rfl
    fun gpu hgpu => mem_sortedSet.mpr (List.mem_append_left _ (List.mem_append_left _ hgpu))
  exact ⟨rfl, rfl, rfl, hflat, hgrows⟩

private theorem grownStep_widenedInPlace : GrownStep step (widenedInPlace candidate nodeId gpuUuids step) := by
  obtain ⟨hflat, hgrows⟩ := @widenGpuMapping_grows step (widenedInPlace candidate nodeId gpuUuids step) nodeId _ rfl
    fun gpu hgpu => mem_sortedSet.mpr (List.mem_append_left _ (List.mem_append_left _ hgpu))
  exact ⟨rfl, rfl, rfl, hflat, hgrows⟩

private theorem grownRow_of_map {f : WorkflowStepSpec × Nat → WorkflowStepSpec}
    (hsteps : merged.officialSteps = existing.officialSteps.zipIdx.map f)
    (hf : ∀ step i, GrownStep step (f (step, i)) ∧ (i ∈ fixedScopeStepIndexes existing → f (step, i) = step))
    (hcompleted : merged.completedStepIndexes = existing.completedStepIndexes)
    (hsuperseded : merged.supersededStepIndexes = existing.supersededStepIndexes)
    (hrecords : merged.stepExecutions = existing.stepExecutions)
    (hsafety : merged.executesSafetySteps = existing.executesSafetySteps) : GrownRow existing merged := by
  refine ⟨fun i step hstep => ?_, ?_, hcompleted, hsuperseded, hrecords, hsafety⟩
  · refine ⟨f (step, i), ?_, hf step i⟩
    rw [hsteps, List.getElem?_map, List.getElem?_zipIdx, hstep]
    simp
  · rw [hsteps]
    simp

private theorem grownRow_absorb : GrownRow existing (absorb settings existing isMutable now) := by
  unfold absorb
  split <;> exact ⟨fun i step hstep => ⟨step, hstep, .refl step, fun _ => rfl⟩, rfl, rfl, rfl, rfl, rfl⟩

private theorem grownRow_widenInPlace : GrownRow existing { existing with
    officialSteps := widenInPlace existing candidate nodeId gpuUuids, updatedAt := now } := by
  refine grownRow_of_map rfl (fun step i => ?_) rfl rfl rfl rfl
  dsimp only
  split
  · exact ⟨.refl step, fun _ => rfl⟩
  · rename_i hfree
    refine ⟨grownStep_widenedInPlace, fun hfixed => ?_⟩
    simp [hfixed] at hfree

private theorem grownRow_widenBranch :
    GrownRow existing (widenParallelJobBranch existing candidate nodeId gpuUuids now) := by
  refine grownRow_of_map rfl (fun step i => ?_) rfl rfl rfl rfl
  dsimp only
  split
  · exact ⟨.refl step, fun _ => rfl⟩
  · rename_i hfree
    refine ⟨grownStep_widenedStep, fun hfixed => ?_⟩
    simp [hfixed] at hfree

private theorem GrownRow.back (h : GrownRow existing merged) (hstep : merged.officialSteps[i]? = some step') :
    ∃ step, existing.officialSteps[i]? = some step ∧ GrownStep step step' := by
  have hlt : i < existing.officialSteps.length := by
    rw [← h.length]
    exact (List.getElem?_eq_some_iff.mp hstep).1
  obtain ⟨other, hother, hgrown, -⟩ := h.forth i _ (List.getElem?_eq_getElem hlt)
  cases hstep.symm.trans hother
  exact ⟨_, List.getElem?_eq_getElem hlt, hgrown⟩

private theorem GrownRow.resolved (h : GrownRow existing merged) :
    merged.resolvedStepIndexes = existing.resolvedStepIndexes := by
  unfold WorkflowRequest.resolvedStepIndexes
  rw [h.completed, h.superseded]

/-- What is free in a row is free in the grown one: windows are read off operations, branches and nodes. -/
private theorem GrownRow.fixed (h : GrownRow existing merged) (hi : i ∈ fixedScopeStepIndexes merged) :
    i ∈ fixedScopeStepIndexes existing := by
  rcases List.mem_append.mp hi with hsubmitted | hcommitted
  · refine List.mem_append_left _ ?_
    unfold submittedStepIndexes at hsubmitted ⊢
    rw [h.resolved, h.records] at hsubmitted
    exact hsubmitted
  · refine List.mem_append_right _ ?_
    unfold committedStepIndexes at hcommitted ⊢
    rw [h.safety] at hcommitted
    split at hcommitted
    · cases hcommitted
    rename_i hofficial
    rw [if_neg hofficial]
    dsimp only at hcommitted ⊢
    obtain ⟨⟨quiesce, q⟩, hquiesce, hin⟩ := List.mem_flatMap.mp hcommitted
    obtain ⟨hget, hdispatched⟩ := List.mem_filter.mp hquiesce
    obtain ⟨quiesce', hquiesce', hgrown⟩ := h.back (List.mem_zipIdx_iff_getElem?.mp hget)
    refine List.mem_flatMap.mpr ⟨(quiesce', q),
      List.mem_filter.mpr ⟨List.mem_zipIdx_iff_getElem?.mpr hquiesce', ?_⟩, ?_⟩
    · unfold quiesceDispatched at hdispatched ⊢
      rw [h.completed, h.records] at hdispatched
      rw [← hgrown.operation]
      exact hdispatched
    · rcases List.mem_cons.mp hin with rfl | hlater
      · exact List.mem_cons_self
      · obtain ⟨later, hlater, hwindow⟩ := mem_zipIdx_indexes hlater
        obtain ⟨later', hlater', hgrown'⟩ := h.back hlater
        refine List.mem_cons_of_mem _ (List.mem_map.mpr ⟨(later', i), List.mem_filter.mpr
          ⟨List.mem_zipIdx_iff_getElem?.mpr hlater', ?_⟩, rfl⟩)
        dsimp only at hwindow ⊢
        rw [← hgrown.branchId, ← hgrown'.branchId, ← hgrown.nodeIds, ← hgrown'.nodeIds]
        exact hwindow

private theorem GrownStep.actsOn (h : GrownStep step step') (hacts : ActsOn step node gpu) :
    ActsOn step' node gpu := by
  refine ⟨?_, ?_, ?_⟩
  · rw [h.nodeIds]
    exact hacts.names
  · rw [h.operation]
    exact hacts.notWorkload
  · rw [h.operation]
    exact hacts.repairs.imp_right fun ⟨hmutating, hgpu⟩ => ⟨hmutating, h.gpus node gpu hgpu⟩

private theorem GrownStep.carries (h : GrownStep step step') (hcarries : Carries step) : Carries step' := by
  refine ⟨?_, ?_⟩
  · rw [h.operation]
    exact hcarries.notWorkload
  · rw [h.operation]
    exact hcarries.repairs.imp_right fun ⟨hmutating, hcarries⟩ => ⟨hmutating, hcarries.imp_right h.flat⟩

private theorem GrownRow.unresolved (h : GrownRow existing merged) (hstep : UnresolvedStep existing i step) :
    ∃ step', UnresolvedStep merged i step' ∧ GrownStep step step' := by
  obtain ⟨step', hstep', hgrown, -⟩ := h.forth i step hstep.1
  refine ⟨step', ⟨hstep', ?_⟩, hgrown⟩
  rw [h.resolved]
  exact hstep.2

private theorem GrownRow.covers (h : GrownRow existing merged) (hid : merged.requestId = existing.requestId)
    (hstep : UnresolvedStep existing i step) (hacts : ActsOn step node gpu)
    (hscope : step.operation.nodeActionScope = true →
      InScope (mergedGpuScope (some existing) nodeId gpuUuids) node gpu) :
    CoversGpu (widenedMerge merged existing incidentId nodeId gpuUuids) node gpu := by
  obtain ⟨step', hstep', hgrown⟩ := h.unresolved hstep
  refine hstep'.covers hid (hgrown.actsOn hacts) ?_
  rw [hgrown.operation]
  exact hscope

private theorem GrownRow.covers_scope (h : GrownRow existing merged) (hid : merged.requestId = existing.requestId)
    (hstep : UnresolvedStep existing i step) (hfree : i ∉ fixedScopeStepIndexes existing) (hcarries : Carries step)
    (hscope : InScope (mergedGpuScope (some existing) nodeId gpuUuids) node gpu) :
    CoversGpu (widenedMerge merged existing incidentId nodeId gpuUuids) node gpu := by
  obtain ⟨step', hstep', hgrown⟩ := h.unresolved hstep
  exact hstep'.covers_scope hid (fun hfixed => hfree (h.fixed hfixed)) (hgrown.carries hcarries) hscope

end Grown

/-! ### Merges and faults -/

/-- Why a merge may not cover a GPU that a step of the candidate repairs. -/
inductive Uncovered (settings : MergeSettings) (existing candidate : WorkflowRequest) (nodeId gpu : String)
    (step : WorkflowStepSpec) : Disposition → Prop
  /-- The recovery of the step is not kept itself. -/
  | forgone {verdict : Disposition} (habsorb : verdict = .absorb → workflowIsMutable existing = true)
      (h : Forgone settings existing candidate nodeId step.operation verdict) :
      Uncovered settings existing candidate nodeId gpu step verdict
  /-- The step only prepares a recovery or cleans up after it, and no verdict looks at it. -/
  | unranked {verdict : Disposition} (hverdict : verdict ∈ [.absorb, .widenInPlace, .widenBranch])
      (habsorb : verdict = .absorb → workflowIsMutable existing = true) (hop : step.operation.nodeRanked = false) :
      Uncovered settings existing candidate nodeId gpu step verdict
  /-- The recovery it joins belongs to a window that was dispatched without the GPU. -/
  | committed {verdict : Disposition} (hverdict : verdict ∈ [.widenInPlace, .widenBranch]) (i : Nat)
      (other : WorkflowStepSpec) (hother : UnresolvedStep existing i other)
      (hcovers : other.operation.Covers step.operation) (hwindow : i ∈ committedStepIndexes existing)
      (hacts : ¬ ActsOn other nodeId gpu) : Uncovered settings existing candidate nodeId gpu step verdict
  /-- The restart of the fabric manager it joins keeps a mapping of its own. -/
  | mapped {verdict : Disposition} (hverdict : verdict ∈ [.absorb, .widenInPlace, .widenBranch])
      (habsorb : verdict = .absorb → workflowIsMutable existing = true) (i : Nat) (other : WorkflowStepSpec)
      (hother : UnresolvedStep existing i other) (hop : other.operation = .restartFabricManager)
      (hsame : step.operation = .restartFabricManager) (hmapping : (gpuUuidsByNode other).isSome = true) :
      Uncovered settings existing candidate nodeId gpu step verdict

/-- Why a merge may not cover what the step at `i` of the existing plan names: the step gave way to the candidate, and
nothing that came in its place takes over the scope of the merge, or the step was no node action and is not in it. -/
inductive GaveWay (settings : MergeSettings) (existing candidate merged : WorkflowRequest) (nodeId : String) (i : Nat)
    (step : WorkflowStepSpec) : Disposition → Prop
  | plan (hmutable : workflowIsMutable existing = true)
      (hnone : step.operation.nodeActionScope = false ∨ ∀ other ∈ candidate.officialSteps, ¬ Carries other) :
      GaveWay settings existing candidate merged nodeId i step .replaceInPlace
  | branch {verdict : Disposition}
      (hverdict : verdict = .replaceBranch ∨ (verdict = .queueBranchSuccessor ∧
        ∃ candidate', inheritTerminalQuarantine existing candidate = .ok candidate' ∧
          queuePreempts settings.preemptionEnabled existing candidate' nodeId = true))
      (hnode : i ∈ nodeStepIndexes existing nodeId)
      (hnone : step.operation.nodeActionScope = false ∨ ∀ j other, existing.officialSteps.length ≤ j →
        UnresolvedStep merged j other → Carries other → j ∈ fixedScopeStepIndexes merged) :
      GaveWay settings existing candidate merged nodeId i step verdict

/-- Why a merge may not keep a step of the candidate that acts on GPUs of the node nobody could name. -/
inductive Unidentified (settings : MergeSettings) (existing candidate widened : WorkflowRequest) (nodeId : String)
    (step : WorkflowStepSpec) : Disposition → Prop
  /-- A recovery of the whole node will still run. -/
  | nodeWide (i : Nat) (other : WorkflowStepSpec) (hother : UnresolvedStep widened i other)
      (hnode : nodeId ∈ other.nodeIds) (hwide : other.operation.semantics.nodeWide = true) :
      Unidentified settings existing candidate widened nodeId step .absorb
  /-- Nobody acted on the row yet, and its recovery dominates the candidate's. -/
  | idle (hmutable : workflowIsMutable existing = true) :
      Unidentified settings existing candidate widened nodeId step .absorb
  /-- The candidate joins the same recovery of the row, which has not begun. -/
  | joined {verdict : Disposition} (hverdict : verdict ∈ [.widenInPlace, .widenBranch]) :
      Unidentified settings existing candidate widened nodeId step verdict
  /-- The recovery of the step is not kept itself. -/
  | forgone {verdict : Disposition} (hverdict : verdict ∈ [.parallelBranch, .replaceBranch, .queueBranchSuccessor])
      (h : Forgone settings existing candidate nodeId step.operation verdict) :
      Unidentified settings existing candidate widened nodeId step verdict

section Faults

variable {existing candidate candidate' merged : WorkflowRequest} {step other : WorkflowStepSpec}
  {settings : MergeSettings} {verdict : Disposition} {nodeId existingIncidentId incidentId node gpu : String}
  {gpuUuids : List String} {isMutable : Bool} {now : Time} {i k : Nat}

private theorem GrownRow.covers_fault (h : GrownRow existing merged) (hid : merged.requestId = existing.requestId)
    (hgpu : gpu ∈ gpuUuids) (hother : UnresolvedStep existing i other) (hcarries : Carries other) :
    CoversGpu (widenedMerge merged existing incidentId nodeId gpuUuids) nodeId gpu ∨
      (i ∈ fixedScopeStepIndexes existing ∧ ¬ ActsOn other nodeId gpu) := by
  have hscope : InScope (mergedGpuScope (some existing) nodeId gpuUuids) nodeId gpu :=
    inScope_merged.mpr (.inr ⟨rfl, hgpu⟩)
  by_cases hacts : ActsOn other nodeId gpu
  · exact .inl (h.covers hid hother hacts fun _ => hscope)
  by_cases hfixed : i ∈ fixedScopeStepIndexes existing
  · exact .inr ⟨hfixed, hacts⟩
  · exact .inl (h.covers_scope hid hother hfixed hcarries hscope)

private theorem workflowIsMutable_spec (h : workflowIsMutable existing = true) :
    existing.completedStepIndexes = [] ∧ existing.stepExecutions = [] := by
  unfold workflowIsMutable at h
  simp only [Bool.and_eq_true, List.isEmpty_iff] at h
  exact ⟨h.1.2, h.2⟩

private theorem exists_primary_of_acts (hinherit : inheritTerminalQuarantine existing candidate = .ok candidate')
    (hstep : UnresolvedStep candidate k step) (hranked : step.operation.nodeRanked = true) :
    ∃ top ∈ workflowPrimaryRecoveryOperations candidate', top.Covers step.operation :=
  exists_primary_of_nodeRanked (inherit_operations hinherit (mem_stepOperations.mpr ⟨k, step, hstep.1, rfl⟩)) hranked

/-- A repair of the candidate is in the merged row after a verdict that appends, unless it is forgone. -/
private theorem appended_step (hverdict : verdict ∈ [.parallelBranch, .replaceBranch, .queueBranchSuccessor])
    (hsome : verdict = .replaceBranch → nodeBranchStepIndexes existing nodeId ≠ [])
    (hinherit : inheritTerminalQuarantine existing candidate = .ok candidate') (hplanned : PlannedCandidate candidate)
    (hmerged : mergedWorkflow settings verdict nodeId candidate' existing existingIncidentId gpuUuids isMutable now =
      .ok merged) (hstep : UnresolvedStep candidate k step)
    (hkind : step.operation.semantics.sharedDag = false ∧ ¬ step.operation.readmits) :
    (∃ j step', UnresolvedStep merged j step' ∧ SameWork step step') ∨
      Forgone settings existing candidate nodeId step.operation verdict := by
  obtain ⟨hshared, hreadmits⟩ := hkind
  obtain ⟨appended, predecessor, replaced, hby, happend⟩ := mergedWorkflow_appended hverdict hsome hmerged
  obtain ⟨j, step', hlive, hsame⟩ := inherit_keeps hinherit hstep.live hreadmits
  rcases hby.live hinherit hplanned hlive step.operation with ⟨j', hlive'⟩ | hforgone
  · have hshared' : step'.operation.semantics.sharedDag = false := by
      rw [hsame.operation]
      exact hshared
    have hreadmits' : ¬ step'.operation.readmits := by
      rw [hsame.operation]
      exact hreadmits
    rcases append_has happend hlive' hshared' hreadmits' fun i hi => (nodeStep_spec (hby.node hi)).1 with
      ⟨j'', step'', hopen, hsame'⟩ | hrecorded | hbeyond
    · exact .inl ⟨j'', step'', hopen, hsame.work.trans hsame'⟩
    · rw [hsame.operation] at hrecorded
      exact .inr (.recorded (List.mem_cons_of_mem _ hverdict) hrecorded)
    · exact .inr (.beyond hverdict hbeyond)
  · exact .inr hforgone

private theorem replaced_step (hinherit : inheritTerminalQuarantine existing candidate = .ok candidate')
    (hplanned : PlannedCandidate candidate) (hstep : UnresolvedStep candidate k step)
    (hreadmits : ¬ step.operation.readmits) :
    ∃ j step', UnresolvedStep (replaceInPlace settings candidate' existing existingIncidentId now) j step' ∧
      SameWork step step' := by
  obtain ⟨j, step', hlive, hsame⟩ := inherit_keeps hinherit hstep.live hreadmits
  have hcompleted : candidate'.completedStepIndexes = [] := by
    obtain ⟨steps, superseded, rfl⟩ := inherit_fields hinherit
    exact hplanned.completed
  exact ⟨j, step', hlive.unresolved hcompleted, hsame.work⟩

private theorem joined_covered (hgrown : GrownRow existing merged) (hid : merged.requestId = existing.requestId)
    (hgpu : gpu ∈ gpuUuids) (hacts : ActsOn step nodeId gpu) (hranked : step.operation.nodeRanked = true)
    (hverdict : verdict ∈ [.absorb, .widenInPlace, .widenBranch])
    (habsorb : verdict = .absorb → workflowIsMutable existing = true)
    (hother : UnresolvedStep existing i other) (hcovers : other.operation.Covers step.operation) :
    CoversGpu (widenedMerge merged existing incidentId nodeId gpuUuids) nodeId gpu ∨
      (i ∈ fixedScopeStepIndexes existing ∧ ¬ ActsOn other nodeId gpu) ∨
      Uncovered settings existing candidate nodeId gpu step verdict := by
  rcases carries_of_covers hacts hranked hcovers with hcarries | ⟨hop, hsame, hmapping⟩
  · exact (hgrown.covers_fault hid hgpu hother hcarries).imp_right .inl
  · exact .inr (.inr (.mapped hverdict habsorb i other hother hop hsame hmapping))

/-- A widening verdict covers the fault by the recovery of the row that has not begun. -/
private theorem widened_covered {operations : List WorkflowOperation} (hgrown : GrownRow existing merged)
    (hid : merged.requestId = existing.requestId) (hverdict : verdict ∈ [.widenInPlace, .widenBranch])
    (hinherit : inheritTerminalQuarantine existing candidate = .ok candidate')
    (hsame : sameOperations (workflowPrimaryRecoveryOperations candidate')
      (primaryRecoveryOperations operations) = true)
    (hidle : ∀ op ∈ primaryRecoveryOperations operations, ∃ i other, existing.officialSteps[i]? = some other ∧
      other.operation = op ∧ i ∉ submittedStepIndexes existing)
    (hgpu : gpu ∈ gpuUuids) (hstep : UnresolvedStep candidate k step) (hacts : ActsOn step nodeId gpu) :
    CoversGpu (widenedMerge merged existing incidentId nodeId gpuUuids) nodeId gpu ∨
      Uncovered settings existing candidate nodeId gpu step verdict := by
  have hnot : verdict = .absorb → workflowIsMutable existing = true := by
    rintro rfl
    simp at hverdict
  cases hranked : step.operation.nodeRanked with
  | false => exact .inr (.unranked (List.mem_cons_of_mem _ hverdict) hnot hranked)
  | true =>
    obtain ⟨top, htop, hcovers⟩ := exists_primary_of_acts hinherit hstep hranked
    obtain ⟨i, other, hget, rfl, hsubmitted⟩ := hidle top (mem_of_sameOperations hsame htop)
    have hother : UnresolvedStep existing i other :=
      ⟨hget, fun hresolved => hsubmitted (List.mem_append_left _ hresolved)⟩
    rcases joined_covered hgrown hid hgpu hacts hranked (List.mem_cons_of_mem _ hverdict) hnot hother hcovers with
      hcovered | ⟨hfixed, hacts'⟩ | huncovered
    · exact .inl hcovered
    · have hwindow := (List.mem_append.mp hfixed).resolve_left hsubmitted
      exact .inr (.committed hverdict i other hother hcovers hwindow hacts')
    · exact .inr huncovered

/-- A row nobody acted on covers the fault by the recovery that dominates the candidate's. -/
private theorem absorbed_covered (hid : (absorb settings existing isMutable now).requestId = existing.requestId)
    (hinherit : inheritTerminalQuarantine existing candidate = .ok candidate')
    (hmutable : workflowIsMutable existing = true) {operations : List WorkflowOperation}
    (hin : ∀ op ∈ operations, op ∈ stepOperations existing.officialSteps)
    (hdominate : recoveryOperationsDominate (primaryRecoveryOperations operations)
      (workflowPrimaryRecoveryOperations candidate') = true)
    (hgpu : gpu ∈ gpuUuids) (hstep : UnresolvedStep candidate k step) (hacts : ActsOn step nodeId gpu) :
    CoversGpu (widenedMerge (absorb settings existing isMutable now) existing incidentId nodeId gpuUuids) nodeId gpu ∨
      Uncovered settings existing candidate nodeId gpu step .absorb := by
  cases hranked : step.operation.nodeRanked with
  | false => exact .inr (.unranked (by decide) (fun _ => hmutable) hranked)
  | true =>
    obtain ⟨top, htop, hcovers⟩ := exists_primary_of_acts hinherit hstep hranked
    obtain ⟨above, habove, hcovers'⟩ := exists_covering_of_dominate hdominate htop
    obtain ⟨i, other, hget, rfl⟩ := mem_stepOperations.mp (hin above (primary_cases habove).1)
    rcases unresolved_or_recorded hget (hcovers'.trans hcovers) with hother | hrecorded
    · have hverdict : Disposition.absorb ∈ [.absorb, .widenInPlace, .widenBranch] := by decide
      rcases joined_covered grownRow_absorb hid hgpu hacts hranked hverdict (fun _ => hmutable) hother
        (hcovers'.trans hcovers) with hcovered | ⟨hfixed, -⟩ | huncovered
      · exact .inl hcovered
      · -- nobody was handed a step of the row, so what is fixed is resolved
        obtain ⟨hcompleted, hrecords⟩ := workflowIsMutable_spec hmutable
        exact absurd (resolved_of_fixed hcompleted hrecords hfixed) hother.2
      · exact .inr huncovered
    · exact .inr (.forgone (fun _ => hmutable) (.recorded (by decide) hrecorded))

/-- The GPUs of the fault through a merge. -/
private theorem candidate_covered (hjudged : Judged existing candidate' nodeId gpuUuids now verdict)
    (hverdict : verdict ∉ [.absorbRecordOnly, .queueSuccessor])
    (hinherit : inheritTerminalQuarantine existing candidate = .ok candidate') (hplanned : PlannedCandidate candidate)
    (hmerged : mergedWorkflow settings verdict nodeId candidate' existing existingIncidentId gpuUuids isMutable now =
      .ok merged) (hid : merged.requestId = existing.requestId) (hgpu : gpu ∈ gpuUuids)
    (hstep : UnresolvedStep candidate k step) (hacts : ActsOn step nodeId gpu) :
    CoversGpu (widenedMerge merged existing incidentId nodeId gpuUuids) nodeId gpu ∨
      Uncovered settings existing candidate nodeId gpu step verdict := by
  have hscope : InScope (mergedGpuScope (some existing) nodeId gpuUuids) nodeId gpu :=
    inScope_merged.mpr (.inr ⟨rfl, hgpu⟩)
  have happended : verdict ∈ [.parallelBranch, .replaceBranch, .queueBranchSuccessor] →
      (verdict = .replaceBranch → nodeBranchStepIndexes existing nodeId ≠ []) →
      CoversGpu (widenedMerge merged existing incidentId nodeId gpuUuids) nodeId gpu ∨
        Uncovered settings existing candidate nodeId gpu step verdict := by
    intro hkind hsome
    rcases appended_step hkind hsome hinherit hplanned hmerged hstep ⟨hacts.kind.1, hacts.kind.2.1⟩ with
      ⟨j, step', hopen, hsame⟩ | hforgone
    · exact .inl (hopen.covers hid (hsame.actsOn hacts) fun _ => hscope)
    · refine .inr (.forgone ?_ hforgone)
      rintro rfl
      simp at hkind
  cases hjudged with
  | recordOnly => simp at hverdict
  | queueSuccessor => simp at hverdict
  | absorb operations hin hdominate hcovered =>
    cases hmerged
    rcases hcovered with hmutable | ⟨indexes, hcovered⟩
    · exact absorbed_covered hid hinherit hmutable hin hdominate hgpu hstep hacts
    · refine .inl ?_
      rcases faultScopeCovered_true hcovered with ⟨i, other, hother, hnode, hworkload, hwide⟩ | ⟨-, hall⟩ | ⟨hnone, -⟩
      · exact grownRow_absorb.covers hid hother ⟨hnode, hworkload, .inl hwide⟩ fun _ => hscope
      · obtain ⟨i, other, hother, hacts'⟩ := hall gpu hgpu
        exact grownRow_absorb.covers hid hother hacts' fun _ => hscope
      · rw [hnone] at hgpu
        cases hgpu
  | widenInPlace hsame hidle =>
    cases hmerged
    have hsame' : sameOperations (workflowPrimaryRecoveryOperations candidate') (primaryRecoveryOperations
        (operationsAt existing (List.range existing.officialSteps.length))) = true := by
      rw [operationsAt_range]
      exact hsame
    exact widened_covered grownRow_widenInPlace hid (by decide) hinherit hsame'
      (fun op hop => exists_idle_step hidle hop) hgpu hstep hacts
  | widenBranch hsame hidle =>
    cases hmerged
    exact widened_covered grownRow_widenBranch hid (by decide) hinherit hsame
      (fun op hop => exists_idle_step hidle hop) hgpu hstep hacts
  | replaceInPlace _ =>
    cases hmerged
    obtain ⟨j, step', hopen, hsame⟩ := replaced_step hinherit hplanned hstep hacts.kind.2.1
    exact .inl (hopen.covers hid (hsame.actsOn hacts) fun _ => hscope)
  | parallelBranch _ => exact happended (by decide) (by rintro ⟨⟩)
  | replaceBranch _ hsome _ _ => exact happended (by decide) fun _ => hsome
  | queueBranchSuccessor _ => exact happended (by decide) (by rintro ⟨⟩)

/-- What the existing plan names through a merge. -/
private theorem existing_covered (hjudged : Judged existing candidate' nodeId gpuUuids now verdict)
    (hverdict : verdict ∉ [.absorbRecordOnly, .queueSuccessor])
    (hinherit : inheritTerminalQuarantine existing candidate = .ok candidate') (hplanned : PlannedCandidate candidate)
    (hrecords : candidate.stepExecutions = [])
    (hmerged : mergedWorkflow settings verdict nodeId candidate' existing existingIncidentId gpuUuids isMutable now =
      .ok merged) (hid : merged.requestId = existing.requestId) (hstep : UnresolvedStep existing i step)
    (hacts : ActsOn step node gpu) (hnamed : gpu ∈ namedGpus existing step node) :
    CoversGpu (widenedMerge merged existing incidentId nodeId gpuUuids) node gpu ∨
      GaveWay settings existing candidate merged nodeId i step verdict := by
  have hscope : step.operation.nodeActionScope = true →
      InScope (mergedGpuScope (some existing) nodeId gpuUuids) node gpu :=
    fun haction => inScope_of_named (List.mem_of_getElem? hstep.1) haction hacts.names hnamed
  have happended : verdict ∈ [.parallelBranch, .replaceBranch, .queueBranchSuccessor] →
      (verdict = .replaceBranch → nodeBranchStepIndexes existing nodeId ≠ []) →
      CoversGpu (widenedMerge merged existing incidentId nodeId gpuUuids) node gpu ∨
        GaveWay settings existing candidate merged nodeId i step verdict := by
    intro hkind hsome
    obtain ⟨appended, predecessor, replaced, hby, happend⟩ := mergedWorkflow_appended hkind hsome hmerged
    by_cases hi : i ∈ replaced
    · have hway : verdict = .replaceBranch ∨ (verdict = .queueBranchSuccessor ∧
          ∃ candidate', inheritTerminalQuarantine existing candidate = .ok candidate' ∧
            queuePreempts settings.preemptionEnabled existing candidate' nodeId = true) := by
        cases hby with
        | parallel => cases hi
        | queued => cases hi
        | replacing _ => exact .inl rfl
        | preempting hpreempts _ => exact .inr ⟨rfl, candidate', hinherit, hpreempts⟩
      cases haction : step.operation.nodeActionScope with
      | false => exact .inr (.branch hway (hby.node hi) (.inl haction))
      | true =>
        by_cases hfree :
            ∃ j other, existing.officialSteps.length ≤ j ∧ UnresolvedStep merged j other ∧ Carries other ∧
            j ∉ fixedScopeStepIndexes merged
        · obtain ⟨j, other, -, hopen, hcarries, hfree⟩ := hfree
          exact .inl (hopen.covers_scope hid hfree hcarries (hscope haction))
        · refine .inr (.branch hway (hby.node hi) (.inr fun j other hle hopen hcarries => ?_))
          by_contra hfixed
          exact hfree ⟨j, other, hle, hopen, hcarries, hfixed⟩
    · obtain ⟨-, -, hrestore, hrestart⟩ := hacts.kind
      obtain ⟨step', hopen, hsame⟩ := append_keeps happend hstep hi hrestore (.inl hrestart)
      refine .inl (hopen.covers hid (hsame.work.actsOn hacts) ?_)
      rw [hsame.operation]
      exact hscope
  cases hjudged with
  | recordOnly => simp at hverdict
  | queueSuccessor => simp at hverdict
  | absorb _ _ _ _ =>
    cases hmerged
    exact .inl (grownRow_absorb.covers hid hstep hacts hscope)
  | widenInPlace _ _ =>
    cases hmerged
    exact .inl (grownRow_widenInPlace.covers hid hstep hacts hscope)
  | widenBranch _ _ =>
    cases hmerged
    exact .inl (grownRow_widenBranch.covers hid hstep hacts hscope)
  | replaceInPlace hmutable =>
    cases hmerged
    cases haction : step.operation.nodeActionScope with
    | false => exact .inr (.plan hmutable (.inl haction))
    | true =>
      by_cases hcarrier : ∃ other ∈ candidate.officialSteps, Carries other
      · obtain ⟨other, hother, hcarries⟩ := hcarrier
        obtain ⟨k, hk⟩ := List.mem_iff_getElem?.mp hother
        have hopen : UnresolvedStep candidate k other := by
          refine ⟨hk, ?_⟩
          rw [WorkflowRequest.resolvedStepIndexes, hplanned.completed, hplanned.superseded]
          exact List.not_mem_nil
        obtain ⟨j, other', hopen', hsame⟩ :=
          @replaced_step existing candidate candidate' other settings existingIncidentId
          now k hinherit hplanned hopen hcarries.kind.2.1
        refine .inl (hopen'.covers_scope hid (fun hfixed => hopen'.2 ?_) (hsame.carries hcarries) (hscope haction))
        obtain ⟨steps, superseded, rfl⟩ := inherit_fields hinherit
        exact resolved_of_fixed hplanned.completed hrecords hfixed
      · exact .inr (.plan hmutable (.inr fun other hother hcarries => hcarrier ⟨other, hother, hcarries⟩))
  | parallelBranch _ => exact happended (by decide) (by rintro ⟨⟩)
  | replaceBranch _ hsome _ _ => exact happended (by decide) fun _ => hsome
  | queueBranchSuccessor _ => exact happended (by decide) (by rintro ⟨⟩)

/-- A step on GPUs nobody could name through a merge. -/
private theorem unnamed_kept (hjudged : Judged existing candidate' nodeId [] now verdict)
    (hverdict : verdict ∉ [.absorbRecordOnly, .queueSuccessor])
    (hinherit : inheritTerminalQuarantine existing candidate = .ok candidate') (hplanned : PlannedCandidate candidate)
    (hmerged : mergedWorkflow settings verdict nodeId candidate' existing existingIncidentId [] isMutable now =
      .ok merged) (hid : merged.requestId = existing.requestId) (hstep : UnresolvedStep candidate k step)
    (hasks : AsksForGpu step nodeId) :
    (∃ j step', UnresolvedStep (widenedMerge merged existing incidentId nodeId []) j step' ∧
        step'.operation = step.operation ∧ nodeId ∈ step'.nodeIds) ∨
      Unidentified settings existing candidate (widenedMerge merged existing incidentId nodeId []) nodeId step
        verdict := by
  have hworkload : step.operation.semantics.workloadScoped = false := by
    have haction := hasks.action
    revert haction
    cases step.operation <;> decide
  obtain ⟨hshared, hreadmits, -, -⟩ := repair_kind hworkload (.inr hasks.mutating)
  have hbrought : (∃ j step', UnresolvedStep merged j step' ∧ SameWork step step') →
      ∃ j step', UnresolvedStep (widenedMerge merged existing incidentId nodeId []) j step' ∧
        step'.operation = step.operation ∧ nodeId ∈ step'.nodeIds := by
    rintro ⟨j, step', hopen, hsame⟩
    obtain ⟨step'', hopen', hop, hnodes⟩ := hopen.present hid
    refine ⟨j, step'', hopen', hop.trans hsame.operation, hnodes nodeId ?_⟩
    rw [hsame.nodeIds]
    exact hasks.names
  have happended : verdict ∈ [.parallelBranch, .replaceBranch, .queueBranchSuccessor] →
      (verdict = .replaceBranch → nodeBranchStepIndexes existing nodeId ≠ []) →
      (∃ j step', UnresolvedStep (widenedMerge merged existing incidentId nodeId []) j step' ∧
          step'.operation = step.operation ∧ nodeId ∈ step'.nodeIds) ∨
        Unidentified settings existing candidate (widenedMerge merged existing incidentId nodeId []) nodeId step
          verdict := by
    intro hkind hsome
    rcases appended_step hkind hsome hinherit hplanned hmerged hstep ⟨hshared, hreadmits⟩ with hin | hforgone
    · exact .inl (hbrought hin)
    · exact .inr (.forgone hkind hforgone)
  cases hjudged with
  | recordOnly => simp at hverdict
  | queueSuccessor => simp at hverdict
  | absorb _ _ _ hcovered =>
    refine .inr ?_
    rcases hcovered with hmutable | ⟨indexes, hcovered⟩
    · exact .idle hmutable
    rcases faultScopeCovered_true hcovered with ⟨i, other, hother, hnode, -, hwide⟩ | ⟨hsome, -⟩ | ⟨-, hnone⟩
    · cases hmerged
      obtain ⟨other', hother', hgrown⟩ := (@grownRow_absorb existing settings isMutable now).unresolved hother
      obtain ⟨other'', hother'', hop, hnodes⟩ := hother'.present hid
      refine .nodeWide i other'' hother'' (hnodes nodeId ?_) ?_
      · rw [hgrown.nodeIds]
        exact hnode
      · rw [hop, hgrown.operation]
        exact hwide
    · exact absurd rfl hsome
    · -- the candidate with its holds still asks for the action
      obtain ⟨j, step', hlive, hsame⟩ := inherit_keeps hinherit hstep.live hreadmits
      have hasked : gpuIdentityUnresolved candidate' nodeId [] = true := by
        unfold gpuIdentityUnresolved
        rw [List.isEmpty_nil, Bool.true_and]
        refine List.any_eq_true.mpr ⟨step', List.mem_of_getElem? hlive.1, ?_⟩
        rw [hsame.operation, hsame.nodeIds, hasks.action, hasks.mutating, hasks.single]
        simpa using hasks.names
      rw [hasked] at hnone
      cases hnone
  | widenInPlace _ _ => exact .inr (.joined (by decide))
  | widenBranch _ _ => exact .inr (.joined (by decide))
  | replaceInPlace _ =>
    cases hmerged
    exact .inl (hbrought (replaced_step hinherit hplanned hstep hreadmits))
  | parallelBranch _ => exact happended (by decide) (by rintro ⟨⟩)
  | replaceBranch _ hsome _ _ => exact happended (by decide) fun _ => hsome
  | queueBranchSuccessor _ => exact happended (by decide) (by rintro ⟨⟩)

end Faults

/-- A merge and the widening after it lose no fault: the GPUs the candidate repairs and those the existing plan names
are repaired by a step that will still run, and a step on GPUs nobody could name is kept, up to the listed reasons. -/
theorem merge_keeps_fault_coverage {existing candidate merged : WorkflowRequest} {settings : MergeSettings}
    {verdict : Disposition} {winner : MergeWinner} {nodeId existingIncidentId incidentId : String}
    {gpuUuids : List String} {allowJobBranchMerge : Bool} {now : Time}
    (hexecutable : existing.status.executable = true)
    (hplanned : PlannedCandidate candidate) (hrecords : candidate.stepExecutions = [])
    (hdisposition : disposition settings.preemptionEnabled existing candidate nodeId gpuUuids
      allowJobBranchMerge now =
      .ok verdict)
    (hverdict : verdict ∉ [.absorbRecordOnly, .queueSuccessor])
    (happly : applyDisposition settings verdict nodeId candidate existing existingIncidentId gpuUuids
      (workflowIsMutable existing) now = .ok (merged, winner)) :
    (∀ gpu ∈ gpuUuids, ∀ k step, UnresolvedStep candidate k step → ActsOn step nodeId gpu →
      CoversGpu (widenedMerge merged existing incidentId nodeId gpuUuids) nodeId gpu ∨
        Uncovered settings existing candidate nodeId gpu step verdict) ∧
    (∀ i step node gpu, UnresolvedStep existing i step → ActsOn step node gpu → gpu ∈ namedGpus existing step node →
      CoversGpu (widenedMerge merged existing incidentId nodeId gpuUuids) node gpu ∨
        GaveWay settings existing candidate merged nodeId i step verdict) ∧
    (gpuUuids = [] → ∀ k step, UnresolvedStep candidate k step → AsksForGpu step nodeId →
      (∃ j step', UnresolvedStep (widenedMerge merged existing incidentId nodeId gpuUuids) j step' ∧
          step'.operation = step.operation ∧ nodeId ∈ step'.nodeIds) ∨
        Unidentified settings existing candidate (widenedMerge merged existing incidentId nodeId gpuUuids) nodeId step
          verdict) := by
  rcases disposition_judged hexecutable hdisposition with rfl | ⟨candidate', hinherit, hjudged⟩
  · simp at hverdict
  have hmerged := applyDisposition_merged hinherit happly
  have hid : merged.requestId = existing.requestId := by
    refine mergedWorkflow_requestId (fun he => hverdict (by simp [he])) ?_ hmerged
    rintro rfl
    cases hjudged with
    | replaceBranch _ hsome _ _ => exact hsome
  refine ⟨fun gpu hgpu k step hstep hacts => ?_, fun i step node gpu hstep hacts hnamed => ?_, ?_⟩
  · exact candidate_covered hjudged hverdict hinherit hplanned hmerged hid hgpu hstep hacts
  · exact existing_covered hjudged hverdict hinherit hplanned hrecords hmerged hid hstep hacts hnamed
  · rintro rfl k step hstep hasks
    exact unnamed_kept hjudged hverdict hinherit hplanned hmerged hid hstep hasks

private def coveragePlan (requestId : String) (action : WorkflowOperation) (gpuUuids : List String) :
    WorkflowRequest :=
  { requestId, status := .pending,
    officialSteps := [.markUnschedulable, action, .validateGpu, .restoreScheduling].map fun operation =>
      { operation, nodeIds := ["n"], gpuUuids } }

private def runningPlan (action : WorkflowOperation) : WorkflowRequest :=
  { coveragePlan "w" action ["g"] with
    status := .running
    completedStepIndexes := [0] }

private def coverageSettings : MergeSettings :=
  { preemptionEnabled := true, aggregationDeadlines := fun now _ => (now, now) }

/-- A second GPU joins a reset that has not begun: both are reset. -/
theorem merge_keeps_fault_coverage_second_gpu :
    ∃ merged winner,
      disposition coverageSettings.preemptionEnabled (runningPlan .resetGpu)
        (coveragePlan "v" .resetGpu ["h"]) "n" ["h"]
        true 0 = .ok .widenInPlace ∧
      applyDisposition coverageSettings .widenInPlace "n" (coveragePlan "v" .resetGpu ["h"])
        (runningPlan .resetGpu) "i"
        ["h"] (workflowIsMutable (runningPlan .resetGpu)) 0 = .ok (merged, winner) ∧
      CoversGpu (widenedMerge merged (runningPlan .resetGpu) "i" "n" ["h"]) "n" "h" ∧
      CoversGpu (widenedMerge merged (runningPlan .resetGpu) "i" "n" ["h"]) "n" "g" := by
  refine ⟨_, _, by decide +kernel, rfl, ?_⟩
  obtain ⟨hfault, hplan, -⟩ :=
    @merge_keeps_fault_coverage (runningPlan .resetGpu) (coveragePlan "v" .resetGpu ["h"]) _
    coverageSettings .widenInPlace _ "n" "i" "i" ["h"] true 0 rfl ⟨rfl, rfl⟩ rfl (by decide +kernel) (by decide) rfl
  constructor
  · rcases hfault "h" (by decide) 1 _ ⟨rfl, by decide⟩ ⟨by decide, rfl, .inr ⟨rfl, by decide⟩⟩ with
      hcovered | huncovered
    · exact hcovered
    · exfalso
      cases huncovered with
      | forgone _ hforgone =>
        cases hforgone with
        | recorded hkind _ => exact absurd hkind (by decide)
        | beyond hkind _ => exact absurd hkind (by decide)
        | held _ hop _ => cases hop
        | ended hop _ => cases hop
      | unranked _ _ hop => cases hop
      | committed _ i other _ _ hwindow _ =>
        have hnone : committedStepIndexes (runningPlan .resetGpu) = [] := by decide
        rw [hnone] at hwindow
        cases hwindow
      | mapped _ _ i other _ _ hop _ => cases hop
  · rcases hplan 1 _ "n" "g" ⟨rfl, by decide⟩ ⟨by decide, rfl, .inr ⟨rfl, by decide⟩⟩ (by decide) with hcovered | hway
    · exact hcovered
    · exfalso
      cases hway with
      | branch hkind _ _ => exact absurd hkind (by simp)

/-- A reset of GPUs nobody could name is absorbed by a reboot of the node that will still run. -/
theorem reboot_absorbs_unnamed_reset :
    ∃ merged winner, (runningPlan .restartNode).status.executable = true ∧
      (coveragePlan "v" .resetGpu []).status = .pending ∧
      gpuIdentityUnresolved (coveragePlan "v" .resetGpu []) "n" [] = true ∧
      disposition coverageSettings.preemptionEnabled (runningPlan .restartNode) (coveragePlan "v" .resetGpu []) "n" []
        true 0 = .ok .absorb ∧
      applyDisposition coverageSettings .absorb "n" (coveragePlan "v" .resetGpu []) (runningPlan .restartNode) "i" []
        (workflowIsMutable (runningPlan .restartNode)) 0 = .ok (merged, winner) ∧
      .resetGpu ∉ stepOperations (widenedMerge merged (runningPlan .restartNode) "i" "n" []).officialSteps :=
  ⟨_, _, rfl, rfl, by decide, by decide +kernel, rfl, by decide +kernel⟩

end GpuFaultRecovery
