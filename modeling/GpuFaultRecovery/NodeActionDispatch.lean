import GpuFaultRecovery.FaultCoverage
import GpuFaultRecovery.QuarantineInheritance

/-!
# Dispatching a widened node action

The agents are handed the GPUs of a node action node by node: from the step's mapping, where every node needs a list
of its own, or else from its one list. A merge rewrites mapping, list and nodes of the pending node actions. The
agents must still take them, and no node may lose a GPU that the plan places on it.
-/

namespace GpuFaultRecovery

/-- What `_gpu_map` hands one node of a step. -/
def nodeActionGpus (step : WorkflowStepSpec) (nodeId : String) : Except String (List String) :=
  let refused := Except.error ("missing explicit GPU UUIDs for " ++ nodeId)
  match step.parameters.get? "gpu_uuids_by_node" with
  | none | some .null => .ok step.gpuUuids
  | some (.obj raw) => ((explicitGpuList (Details.get? raw nodeId)).map Except.ok).getD refused
  | some _ => refused

/-- `_gpu_map`. -/
def gpuMap (step : WorkflowStepSpec) : Except String NodeGpus :=
  step.nodeIds.mapM fun nodeId => (nodeActionGpus step nodeId).map fun gpus => (nodeId, gpus)

def placedGpus (workflow : WorkflowRequest) (step : WorkflowStepSpec) (nodeId : String) : List String :=
  ((((stepGpuShares workflow step).getD []).find? fun entry => entry.1 == nodeId).map Prod.snd).getD []

/-- Whether a step names its GPUs in one list, each of which the plan places on one of its nodes. -/
def sharesPlaced (workflow : WorkflowRequest) (step : WorkflowStepSpec) : Bool :=
  (gpuUuidsByNode step).isNone && !gpuSharesUnknown workflow step

/-- The GPUs of a node that a merge keeps: those the step names for it, or those of its one list placed there. -/
def keptGpus (workflow : WorkflowRequest) (step : WorkflowStepSpec) (nodeId : String) : List String :=
  if sharesPlaced workflow step then placedGpus workflow step nodeId else stepGpus step nodeId

section Dispatch

variable {workflow : WorkflowRequest} {step : WorkflowStepSpec} {entries scope map : NodeGpus}
  {node gpu nodeId : String} {gpus gpuUuids : List String} {raw : Details} {value : Option Json}

private theorem explicitGpuList_some (h : explicitGpuList value = some gpus) :
    ∃ items, value = some (.arr items) ∧ gpus = Json.strings (.arr items) ∧ gpus ≠ [] := by
  unfold explicitGpuList at h
  split at h
  · rename_i items
    split at h
    · cases h
    · rename_i hitems
      cases h
      refine ⟨items, rfl, rfl, ?_⟩
      -- the first item is a text
      cases items with
      | nil => exact absurd rfl hitems
      | cons item items =>
        cases item with
        | str text => exact List.cons_ne_nil _ _
        | _ => exact absurd rfl hitems
  · cases h

private theorem explicitGpuList_strings (h : gpus ≠ []) :
    explicitGpuList (some (.arr (gpus.map Json.str))) = some gpus := by
  unfold explicitGpuList
  dsimp only
  rw [if_neg]
  · rw [strings_arr]
  · simp [h]

private theorem nodeActionGpus_mapped (h : gpuUuidsByNode step = some raw)
    (hlist : explicitGpuList (Details.get? raw node) = some gpus) : nodeActionGpus step node = .ok gpus := by
  unfold nodeActionGpus
  rw [gpuUuidsByNode_some.mp h]
  dsimp only
  rw [hlist]
  rfl

/-- What a node is handed is what the step names for it. -/
private theorem stepGpus_of_handed (h : nodeActionGpus step node = .ok gpus) : stepGpus step node = gpus := by
  unfold nodeActionGpus at h
  unfold stepGpus
  dsimp only at h
  split at h
  · rename_i hnone
    cases h
    rw [hnone]
  · rename_i hnull
    cases h
    rw [hnull]
  · rename_i raw hraw
    rw [hraw]
    dsimp only
    cases hlist : explicitGpuList (Details.get? raw node) with
    | none =>
      rw [hlist] at h
      cases h
    | some values =>
      rw [hlist] at h
      cases h
      obtain ⟨items, hget, rfl, -⟩ := explicitGpuList_some hlist
      rw [hget]
      rfl
  · cases h

private theorem gpuMap_ok (h : gpuMap step = .ok map) :
    (∀ nodeId ∈ step.nodeIds, ∃ gpus, nodeActionGpus step nodeId = .ok gpus ∧ (nodeId, gpus) ∈ map) ∧
      ∀ entry ∈ map, entry.1 ∈ step.nodeIds ∧ nodeActionGpus step entry.1 = .ok entry.2 := by
  obtain ⟨hforth, hback⟩ := mapM_ok h
  refine ⟨fun nodeId hnode => ?_, fun entry hentry => ?_⟩
  · obtain ⟨entry, hentry, heq⟩ := hforth nodeId hnode
    cases hgpus : nodeActionGpus step nodeId with
    | error error =>
      rw [hgpus] at heq
      cases heq
    | ok gpus =>
      rw [hgpus] at heq
      cases heq
      exact ⟨gpus, rfl, hentry⟩
  · obtain ⟨nodeId, hnode, heq⟩ := hback entry hentry
    cases hgpus : nodeActionGpus step nodeId with
    | error error =>
      rw [hgpus] at heq
      cases heq
    | ok gpus =>
      rw [hgpus] at heq
      cases heq
      exact ⟨hnode, hgpus⟩

private theorem exists_gpuMap (h : ∀ nodeId ∈ step.nodeIds, ∃ gpus, nodeActionGpus step nodeId = .ok gpus) :
    ∃ map, gpuMap step = .ok map := by
  refine exists_mapM_ok fun nodeId hnode => ?_
  obtain ⟨gpus, hgpus⟩ := h nodeId hnode
  refine ⟨(nodeId, gpus), ?_⟩
  rw [hgpus]
  rfl

private theorem nodeActionGpus_grouped
    (hmapping : step.parameters.get? "gpu_uuids_by_node" = some (NodeGpus.toJson (groupByNode entries)))
    (h : InScope entries node gpu) :
    ∃ gpus, nodeActionGpus step node = .ok gpus ∧ ∀ gpu, InScope entries node gpu → gpu ∈ gpus := by
  have hplaced : ∀ gpu, InScope entries node gpu →
      gpu ∈ sortedSet ((entries.filter fun entry => entry.1 == node).flatMap Prod.snd) := by
    rintro gpu ⟨gpus, hmem, hgpu⟩
    exact mem_sortedSet.mpr (List.mem_flatMap.mpr ⟨(node, gpus), List.mem_filter.mpr ⟨hmem, by simp⟩, hgpu⟩)
  obtain ⟨gpus, hmem, -⟩ := id h
  refine ⟨_, nodeActionGpus_mapped (gpuUuidsByNode_some.mpr hmapping) ?_, hplaced⟩
  rw [get?_grouped (List.mem_map_of_mem hmem)]
  exact explicitGpuList_strings (List.ne_nil_of_mem (hplaced gpu h))

private theorem handed_ne_nil (hmapped : gpuUuidsByNode step = some raw) (h : nodeActionGpus step node = .ok gpus) :
    gpus ≠ [] := by
  unfold nodeActionGpus at h
  rw [gpuUuidsByNode_some.mp hmapped] at h
  dsimp only at h
  cases hlist : explicitGpuList (Details.get? raw node) with
  | none =>
    rw [hlist] at h
    cases h
  | some values =>
    rw [hlist] at h
    cases h
    obtain ⟨-, -, -, hne⟩ := explicitGpuList_some hlist
    exact hne

private theorem nodeActionGpus_flat {widened : WorkflowStepSpec} (hflat : gpuUuidsByNode step = none)
    (h : nodeActionGpus step node = .ok gpus) (hparameters : widened.parameters = step.parameters) :
    nodeActionGpus widened nodeId = .ok widened.gpuUuids := by
  unfold nodeActionGpus at h ⊢
  rw [hparameters]
  dsimp only at h ⊢
  split at h
  · rfl
  · rfl
  · rename_i raw hraw
    rw [gpuUuidsByNode_some.mpr hraw] at hflat
    cases hflat
  · cases h

private theorem mem_placedGpus_single (hnode : node ∈ step.nodeIds) (hsingle : step.nodeIds.length ≤ 1)
    (hgpu : gpu ∈ step.gpuUuids) : gpu ∈ placedGpus workflow step node := by
  obtain ⟨only, honly⟩ : ∃ only, step.nodeIds = [only] := by
    refine List.length_eq_one_iff.mp (le_antisymm hsingle ?_)
    exact List.length_pos_of_mem hnode
  unfold placedGpus stepGpuShares
  dsimp only
  rw [if_pos hsingle]
  rw [honly] at hnode ⊢
  rw [List.mem_singleton.mp hnode]
  simpa using hgpu

/-- What a merge keeps is in the mapping it writes. -/
private theorem inScope_of_kept (hstep : step ∈ workflow.officialSteps)
    (haction : step.operation.nodeActionScope = true)
    (hknown : gpuSharesUnknown workflow step = false) (hnode : node ∈ step.nodeIds)
    (hgpu : gpu ∈ keptGpus workflow step node) :
    InScope (((gpuUuidsByNode step).map mappingEntries).getD [] ++
      (mergedGpuScope (some workflow) nodeId gpuUuids).filter fun entry => !entry.2.isEmpty) node gpu := by
  unfold keptGpus sharesPlaced at hgpu
  rw [hknown] at hgpu
  cases hmapped : gpuUuidsByNode step with
  | some raw =>
    rw [hmapped] at hgpu
    obtain ⟨gpus, hmem, hin⟩ := mem_mappingEntries hmapped hgpu
    exact ⟨gpus, List.mem_append_left _ hmem, hin⟩
  | none =>
    rw [hmapped] at hgpu
    have hnamed : gpu ∈ namedGpus workflow step node := by
      unfold namedGpus
      rw [hmapped, haction]
      exact hgpu
    obtain ⟨gpus, hmem, hin⟩ := @inScope_of_named workflow step node gpu nodeId gpuUuids hstep haction hnode hnamed
    refine ⟨gpus, List.mem_append_right _ (List.mem_filter.mpr ⟨hmem, ?_⟩), hin⟩
    simpa using List.ne_nil_of_mem hin

/-- A step whose GPUs the plan cannot place keeps one list, and the list only grows. -/
private theorem widened_flat (haction : step.operation.nodeActionScope = true)
    (hunknown : gpuSharesUnknown workflow step = true)
    (haccepted : ∀ node ∈ step.nodeIds, ∃ gpus, nodeActionGpus step node = .ok gpus) (nodeId : String) :
    ∃ gpus, nodeActionGpus (widenedScopeStep workflow scope step) nodeId = .ok gpus ∧
      ∀ gpu ∈ keptGpus workflow step node, gpu ∈ gpus := by
  have hknown := hunknown
  simp only [gpuSharesUnknown, Bool.and_eq_true, Option.isNone_iff_eq_none, decide_eq_true_eq] at hknown
  obtain ⟨⟨hflat, hlength⟩, -⟩ := hknown
  obtain ⟨first, hfirst⟩ := List.exists_mem_of_length_pos (Nat.lt_of_succ_lt hlength)
  obtain ⟨gpus, hgpus⟩ := haccepted first hfirst
  have hwidened : (widenedScopeStep workflow scope step).parameters = step.parameters ∧
      (widenedScopeStep workflow scope step).gpuUuids = sortedSet (step.gpuUuids ++ scope.flatMap Prod.snd) := by
    unfold widenedScopeStep widenedGpuMapping
    dsimp only
    rw [if_pos haction, if_pos hunknown]
    exact ⟨rfl, rfl⟩
  refine ⟨_, nodeActionGpus_flat hflat hgpus hwidened.1, fun gpu hgpu => ?_⟩
  rw [hwidened.2, mem_sortedSet]
  unfold keptGpus sharesPlaced at hgpu
  rw [hunknown, hflat, if_neg (by simp), stepGpus_flat hflat] at hgpu
  exact List.mem_append_left _ hgpu

/-- A widened step with a mapping hands every node its entry. -/
private theorem widened_mapped (hstep : step ∈ workflow.officialSteps)
    (haction : step.operation.nodeActionScope = true) (hknown : gpuSharesUnknown workflow step = false)
    (hkept : ∀ node ∈ step.nodeIds, keptGpus workflow step node ≠ []) :
    ∀ node ∈ (widenedScopeStep workflow (mergedGpuScope (some workflow) nodeId gpuUuids) step).nodeIds,
      ∃ gpus, nodeActionGpus (widenedScopeStep workflow (mergedGpuScope (some workflow) nodeId gpuUuids) step) node =
        .ok gpus ∧
        (node ∈ step.nodeIds → ∀ gpu ∈ keptGpus workflow step node, gpu ∈ gpus) := by
  have hmapping : (widenedScopeStep workflow (mergedGpuScope (some workflow) nodeId gpuUuids) step).parameters.get?
      "gpu_uuids_by_node" = some (NodeGpus.toJson (groupByNode (((gpuUuidsByNode step).map mappingEntries).getD [] ++
        (mergedGpuScope (some workflow) nodeId gpuUuids).filter fun entry => !entry.2.isEmpty))) := by
    unfold widenedScopeStep widenedGpuMapping
    dsimp only
    rw [if_pos haction, hknown]
    exact Details.get?_set_self _ _ _
  intro node hnode
  have hplaced : ∃ gpu, InScope (((gpuUuidsByNode step).map mappingEntries).getD [] ++
      (mergedGpuScope (some workflow) nodeId gpuUuids).filter fun entry => !entry.2.isEmpty) node gpu := by
    unfold widenedScopeStep at hnode
    dsimp only at hnode
    rw [if_pos haction] at hnode
    rcases List.mem_append.mp (mem_sortedSet.mp hnode) with hold | hjoined
    · obtain ⟨gpu, hgpu⟩ := List.exists_mem_of_ne_nil _ (hkept node hold)
      exact ⟨gpu, inScope_of_kept hstep haction hknown hold hgpu⟩
    · obtain ⟨entry, hentry, rfl⟩ := List.mem_map.mp hjoined
      have hne : entry.2 ≠ [] := by simpa using (List.mem_filter.mp hentry).2
      obtain ⟨gpu, hgpu⟩ := List.exists_mem_of_ne_nil _ hne
      exact ⟨gpu, entry.2, List.mem_append_right _ hentry, hgpu⟩
  obtain ⟨gpu, hgpu⟩ := hplaced
  obtain ⟨gpus, hgpus, hall⟩ := nodeActionGpus_grouped hmapping hgpu
  exact ⟨gpus, hgpus, fun hold gpu hgpu => hall gpu (inScope_of_kept hstep haction hknown hold hgpu)⟩

private theorem getElem?_widenNodeActionScope {i : Nat} (hscope : scope ≠ [])
    (hstep : workflow.officialSteps[i]? = some step)
    (hopen : i ∉ fixedScopeStepIndexes workflow) (haction : step.operation.nodeActionScope = true) :
    (widenNodeActionScope workflow scope).officialSteps[i]? = some (widenedScopeStep workflow scope step) := by
  have hworkload : step.operation.semantics.workloadScoped = false := by
    cases hoperation : step.operation <;> rw [hoperation] at haction <;> first | rfl | cases haction
  unfold widenNodeActionScope
  rw [if_neg (by simpa using hscope)]
  dsimp only
  rw [List.getElem?_map, List.getElem?_zipIdx, hstep]
  simp only [Option.map_some, Nat.zero_add]
  rw [if_neg (by simp [hopen, hworkload])]

/-- What a node was handed and the plan places there is among what a merge keeps. -/
private theorem mem_kept (hnode : node ∈ step.nodeIds) (hhanded : nodeActionGpus step node = .ok gpus)
    (hgpu : gpu ∈ gpus)
    (hshare : 1 < step.nodeIds.length → sharesPlaced workflow step = true → gpu ∈ placedGpus workflow step node) :
    gpu ∈ keptGpus workflow step node := by
  have hnames := stepGpus_of_handed hhanded
  unfold keptGpus
  split
  · rename_i hplaced
    by_cases hmany : 1 < step.nodeIds.length
    · exact hshare hmany hplaced
    · have hflat : gpuUuidsByNode step = none := by
        simp only [sharesPlaced, Bool.and_eq_true, Option.isNone_iff_eq_none] at hplaced
        exact hplaced.1
      rw [stepGpus_flat hflat] at hnames
      rw [← hnames] at hgpu
      exact mem_placedGpus_single hnode (not_lt.mp hmany) hgpu
  · rw [hnames]
    exact hgpu

/-- Every node that a merge has something to keep for is still handed something. -/
private theorem kept_ne_nil (hknown : gpuSharesUnknown workflow step = false) (hnode : node ∈ step.nodeIds)
    (hhanded : nodeActionGpus step node = .ok gpus)
    (hplaced : sharesPlaced workflow step = true → ∀ node ∈ step.nodeIds, placedGpus workflow step node ≠ []) :
    keptGpus workflow step node ≠ [] := by
  unfold keptGpus
  split
  · rename_i hshares
    exact hplaced hshares node hnode
  · rename_i hshares
    cases hmapped : gpuUuidsByNode step with
    | some raw =>
      rw [stepGpus_of_handed hhanded]
      exact handed_ne_nil hmapped hhanded
    | none =>
      unfold sharesPlaced at hshares
      rw [hmapped, hknown] at hshares
      exact absurd rfl hshares

end Dispatch

/-- A merge leaves the pending node actions fit to be sent, and each node with the GPUs it had: those of its entry, or
of the step's one list those that the plan places on it. -/
theorem widening_keeps_node_action {workflow : WorkflowRequest} {i : Nat} {step : WorkflowStepSpec} {map : NodeGpus}
    (nodeId : String) (gpuUuids : List String) (hstep : workflow.officialSteps[i]? = some step)
    (hopen : i ∉ fixedScopeStepIndexes workflow) (haction : step.operation.nodeActionScope = true)
    (haccepted : gpuMap step = .ok map)
    (hplaced : sharesPlaced workflow step = true → ∀ node ∈ step.nodeIds, placedGpus workflow step node ≠ []) :
    ∃ widened later,
      (widenNodeActionScope workflow (mergedGpuScope (some workflow) nodeId gpuUuids)).officialSteps[i]? =
        some widened ∧
      gpuMap widened = .ok later ∧
      ∀ entry ∈ map, ∃ gpus, (entry.1, gpus) ∈ later ∧
        ∀ gpu ∈ entry.2, (1 < step.nodeIds.length → sharesPlaced workflow step = true →
          gpu ∈ placedGpus workflow step entry.1) → gpu ∈ gpus := by
  obtain ⟨hforth, hback⟩ := gpuMap_ok haccepted
  have hhanded : ∀ node ∈ step.nodeIds, ∃ gpus, nodeActionGpus step node = .ok gpus := by
    intro node hnode
    obtain ⟨gpus, hgpus, -⟩ := hforth node hnode
    exact ⟨gpus, hgpus⟩
  have hkeeps : ∀ node ∈ (widenedScopeStep workflow (mergedGpuScope (some workflow) nodeId gpuUuids) step).nodeIds,
      ∃ gpus, nodeActionGpus (widenedScopeStep workflow (mergedGpuScope (some workflow) nodeId gpuUuids) step) node =
        .ok gpus ∧
        (node ∈ step.nodeIds → ∀ gpu ∈ keptGpus workflow step node, gpu ∈ gpus) := by
    cases hunknown : gpuSharesUnknown workflow step with
    | true =>
      intro node _
      obtain ⟨gpus, hgpus, hall⟩ := widened_flat haction hunknown hhanded node
      exact ⟨gpus, hgpus, fun _ => hall⟩
    | false =>
      refine widened_mapped (List.mem_of_getElem? hstep) haction hunknown fun node hnode => ?_
      obtain ⟨gpus, hgpus⟩ := hhanded node hnode
      exact kept_ne_nil hunknown hnode hgpus hplaced
  obtain ⟨later, hlater⟩ := exists_gpuMap fun node hnode => (hkeeps node hnode).imp fun _ => And.left
  refine ⟨_, later, getElem?_widenNodeActionScope mergedGpuScope_ne_nil hstep hopen haction, hlater, ?_⟩
  intro entry hentry
  obtain ⟨hnode, hgpus⟩ := hback entry hentry
  have hstays : entry.1 ∈ (widenedScopeStep workflow (mergedGpuScope (some workflow) nodeId gpuUuids) step).nodeIds :=
    widenedScopeStep_nodes hnode
  obtain ⟨gpus, hnow, hin⟩ := (gpuMap_ok hlater).1 entry.1 hstays
  obtain ⟨gpus', hnow', hall⟩ := hkeeps entry.1 hstays
  rw [hnow] at hnow'
  cases hnow'
  exact ⟨gpus, hin, fun gpu hgpu hshare => hall hnode gpu (mem_kept hnode hgpus hgpu hshare)⟩

private def placingReset (nodeId gpu : String) : WorkflowStepSpec :=
  { operation := .resetGpu, nodeIds := [nodeId], gpuUuids := [gpu] }

private def sharedQuiesce : WorkflowStepSpec :=
  { operation := .quiesceGpuServices, nodeIds := ["a", "b"], gpuUuids := ["g1", "g2"] }

private def sharedPlan : WorkflowRequest :=
  { requestId := "w", status := .pending
    officialSteps := [placingReset "a" "g1", placingReset "b" "g2", sharedQuiesce] }

theorem widening_keeps_shared_quiesce : ∃ widened later,
    (widenNodeActionScope sharedPlan (mergedGpuScope (some sharedPlan) "c" ["g3"])).officialSteps[2]? = some widened ∧
    gpuMap widened = .ok later ∧
    ∀ entry ∈ [("a", ["g1", "g2"]), ("b", ["g1", "g2"])], ∃ gpus, (entry.1, gpus) ∈ later ∧
      ∀ gpu ∈ entry.2, (1 < sharedQuiesce.nodeIds.length → sharesPlaced sharedPlan sharedQuiesce = true →
        gpu ∈ placedGpus sharedPlan sharedQuiesce entry.1) → gpu ∈ gpus :=
  widening_keeps_node_action "c" ["g3"] rfl (by decide +kernel) rfl (by rfl) (by decide +kernel)

/-- A list shared by two nodes is split by a merge: each node is handed its own GPU and loses the other. -/
theorem widening_splits_shared_list :
    sharedPlan.officialSteps[2]? = some sharedQuiesce ∧ 2 ∉ fixedScopeStepIndexes sharedPlan ∧
      sharedQuiesce.operation.nodeActionScope = true ∧
      gpuMap sharedQuiesce = .ok [("a", ["g1", "g2"]), ("b", ["g1", "g2"])] ∧
      ((widenNodeActionScope sharedPlan (mergedGpuScope (some sharedPlan) "a" ["g1"])).officialSteps[2]?.map gpuMap) =
        some (.ok [("a", ["g1"]), ("b", ["g2"])]) := by
  decide +kernel

end GpuFaultRecovery
