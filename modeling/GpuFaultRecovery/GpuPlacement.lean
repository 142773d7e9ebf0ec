import GpuFaultRecovery.GpuScope
import GpuFaultRecovery.HardwareEscalation

/-!
# Where the GPUs of an escalation are

The successor of a failed workflow names only the nodes that failed, and must name their GPUs only. A GPU is placed by
the strongest source that knows it: what the nodes report themselves, then the lists of the workflow, then a source
incident on a single node. `PlacedOn` states that order of precedence for one GPU; `owners` computes it, and
`escalationGpuScope` is the scope the successor gets.
-/

namespace GpuFaultRecovery

/-! ### What the store reports -/

structure ContainerObservation where
  nodeId : Option String := none
  gpuUuids : List String := []
deriving Repr, DecidableEq

structure AttemptObservation where
  attemptId : String
  containers : List ContainerObservation := []
deriving Repr, DecidableEq

/-- The reads of `store_gpu_placement`; `none` is a read that raised. -/
structure PlacementStore where
  gpuInventorySnapshot : String → String → Option (List String)
  gpuMetricsLatest : String → String → Option (List (Option String))
  attemptObservations : String → Option (List AttemptObservation)

namespace PlacementStore

def reportedGpus (store : PlacementStore) (clusterId nodeId : String) : List String :=
  (store.gpuInventorySnapshot clusterId nodeId).getD [] ++
    ((store.gpuMetricsLatest clusterId nodeId).getD []).filterMap fun gpu => gpu.filter (· ≠ "")

def observedGpus (store : PlacementStore) (clusterId : String) (attemptId : Option String) : NodeGpus :=
  match attemptId with
  | none => []
  | some attemptId =>
    if attemptId = "" then []
    else
      let observations := ((store.attemptObservations clusterId).getD []).filter (·.attemptId == attemptId)
      (observations.flatMap AttemptObservation.containers).filterMap fun container =>
        (container.nodeId.filter (· ≠ "")).bind fun node =>
          if container.gpuUuids.isEmpty then none else some (node, container.gpuUuids)

/-- The GPUs each node is known to carry; a node nothing is known about has no entry. -/
def storeGpuPlacement (store : PlacementStore) (clusterId : String) (nodeIds : List String)
    (attemptId : Option String) : NodeGpus :=
  let reported := nodeIds.map fun node => (node, store.reportedGpus clusterId node)
  (groupByNode (reported ++ store.observedGpus clusterId attemptId)).filter fun entry => !entry.2.isEmpty

end PlacementStore

/-! ### The scope of the successor -/

def planNodes (workflow : WorkflowRequest) : List String := workflow.officialSteps.flatMap WorkflowStepSpec.nodeIds

/-- The workflow's own lists, one entry for each node it places a GPU on. -/
def recordedPlacement (workflow : WorkflowRequest) : NodeGpus :=
  ((sortedSet (planNodes workflow)).map fun node => (node, workflowGpuPlacement workflow node)).filter fun entry =>
    !entry.2.isEmpty

/-- The GPUs an escalation is about: of the source incident, of the steps and of the workflow's lists. -/
def inScopeGpus (workflow : WorkflowRequest) (source : EscalationIncident) : List String :=
  (source.gpuUuids ++ workflow.officialSteps.flatMap WorkflowStepSpec.gpuUuids ++
    (recordedPlacement workflow).flatMap Prod.snd).eraseDups

def namedNodes (workflow : WorkflowRequest) (source : EscalationIncident) (lineageNodeIds : List String) :
    List String :=
  source.nodeIds ++ planNodes workflow ++ lineageNodeIds

/-- What the store reports on the nodes in scope; nothing without a store. -/
def storedPlacement (workflow : WorkflowRequest) (source : EscalationIncident) (store : Option PlacementStore)
    (lineageNodeIds : List String) : NodeGpus :=
  match store with
  | none => []
  | some store =>
    store.storeGpuPlacement source.clusterId (sortedSet (namedNodes workflow source lineageNodeIds)) source.attemptId

/-- The nodes an escalation is about: those named, and those the store found on the way. -/
def scopeNodes (workflow : WorkflowRequest) (source : EscalationIncident) (store : Option PlacementStore)
    (lineageNodeIds : List String) : List String :=
  namedNodes workflow source lineageNodeIds ++ (storedPlacement workflow source store lineageNodeIds).map Prod.fst

def NodeGpus.holders (placement : NodeGpus) (gpu : String) : List String :=
  (placement.filter fun entry => entry.2.contains gpu).map Prod.fst

/-- The nodes that hold a GPU, by the strongest source that knows it. -/
def owners (stored recorded : NodeGpus) (source : EscalationIncident) (gpu : String) : List String :=
  if !(stored.holders gpu).isEmpty then stored.holders gpu
  else if !(recorded.holders gpu).isEmpty then recorded.holders gpu
  else if source.nodeIds.length = 1 ∧ gpu ∈ source.gpuUuids then source.nodeIds
  else []

section Scope

variable (workflow : WorkflowRequest) (source : EscalationIncident) (store : Option PlacementStore)
  (lineageNodeIds : List String)

def scopeOwners (gpu : String) : List String :=
  owners (storedPlacement workflow source store lineageNodeIds) (recordedPlacement workflow) source gpu

/-- The GPUs in scope that sit on a node, those of the workflow's own list first. -/
def gpuShare (node : String) : List String :=
  ((((recordedPlacement workflow).lookup node).getD [] ++ inScopeGpus workflow source).filter fun gpu =>
    (scopeOwners workflow source store lineageNodeIds gpu).contains node).eraseDups

def unplacedGpus : List String :=
  (inScopeGpus workflow source).filter fun gpu => (scopeOwners workflow source store lineageNodeIds gpu).isEmpty

def escalationGpuScope (failedNodes : List String) : EscalationGpuScope :=
  let share := gpuShare workflow source store lineageNodeIds
  let unplaced := unplacedGpus workflow source store lineageNodeIds
  let nodes := failedNodes.eraseDups
  if !unplaced.isEmpty ∧ (scopeNodes workflow source store lineageNodeIds).all failedNodes.contains then
    -- what nothing places can only be on the failed nodes
    { gpuUuids := inScopeGpus workflow source
      validationGpuUuidsByNode := nodes.map fun node => (node, (share node ++ unplaced).eraseDups) }
  else
    { gpuUuids := (failedNodes.flatMap share).eraseDups
      gpuUuidsByNode :=
        if unplaced.isEmpty ∧ nodes.all fun node => !(share node).isEmpty then
          nodes.map fun node => (node, share node)
        else []
      validationGpuUuidsByNode := nodes.map fun node =>
        (node, if !(share node).isEmpty ∧ unplaced.isEmpty then share node
          else (share node ++
            sortedSet (((storedPlacement workflow source store lineageNodeIds).lookup node).getD [])).eraseDups) }

end Scope

/-! ### The order of precedence -/

section Placement

variable (workflow : WorkflowRequest) (source : EscalationIncident) (store : Option PlacementStore)
  (lineageNodeIds : List String)

/-- The store reports `gpu` on `node`. -/
def StoreReports (gpu node : String) : Prop :=
  ∃ entry ∈ storedPlacement workflow source store lineageNodeIds, entry.1 = node ∧ gpu ∈ entry.2

/-- The source incident is about `node` alone and names `gpu`. -/
def SourcePlaces (gpu node : String) : Prop := source.nodeIds = [node] ∧ gpu ∈ source.gpuUuids

/-- `gpu` is on `node`: by the store's report if the store reports it anywhere, else by the workflow's lists if they
place it anywhere, else by the source incident. -/
def PlacedOn (gpu node : String) : Prop :=
  StoreReports workflow source store lineageNodeIds gpu node ∨
    (∀ other, ¬StoreReports workflow source store lineageNodeIds gpu other) ∧
      (gpu ∈ workflowGpuPlacement workflow node ∨
        (∀ other, gpu ∉ workflowGpuPlacement workflow other) ∧ SourcePlaces source gpu node)

end Placement

section Lemmas

variable {workflow : WorkflowRequest} {source : EscalationIncident} {store : Option PlacementStore}
  {lineageNodeIds failedNodes : List String} {gpu node : String} {placement : NodeGpus}

private theorem mem_holders : node ∈ placement.holders gpu ↔ ∃ entry ∈ placement, entry.1 = node ∧ gpu ∈ entry.2 := by
  unfold NodeGpus.holders
  rw [List.mem_map]
  constructor
  · rintro ⟨entry, hentry, rfl⟩
    rw [List.mem_filter, List.contains_iff_mem] at hentry
    exact ⟨entry, hentry.1, rfl, hentry.2⟩
  · rintro ⟨entry, hentry, rfl, hgpu⟩
    exact ⟨entry, List.mem_filter.mpr ⟨hentry, List.contains_iff_mem.mpr hgpu⟩, rfl⟩

private theorem mem_planNodes_of_workflowGpuPlacement (h : gpu ∈ workflowGpuPlacement workflow node) :
    node ∈ planNodes workflow := by
  unfold workflowGpuPlacement at h
  rw [List.mem_eraseDups] at h
  unfold planNodes
  rw [List.mem_flatMap]
  split at h
  · obtain ⟨step, hstep, -⟩ := List.mem_flatMap.mp h
    rw [List.mem_filter, beq_iff_eq] at hstep
    exact ⟨step, hstep.1, by simp [hstep.2]⟩
  · obtain ⟨step, hstep, hgpu⟩ := List.mem_flatMap.mp h
    refine ⟨step, hstep, ?_⟩
    by_contra habsent
    unfold explicitGpus at hgpu
    rw [if_neg (by simpa using habsent)] at hgpu
    exact absurd hgpu List.not_mem_nil

private theorem mem_recordedPlacement {entry : String × List String} : entry ∈ recordedPlacement workflow ↔
    entry.2 = workflowGpuPlacement workflow entry.1 ∧ entry.2 ≠ [] ∧ entry.1 ∈ planNodes workflow := by
  unfold recordedPlacement
  rw [List.mem_filter, List.mem_map]
  constructor
  · rintro ⟨⟨node, hnode, rfl⟩, hne⟩
    exact ⟨rfl, by simpa using hne, mem_sortedSet.mp hnode⟩
  · rintro ⟨heq, hne, hnode⟩
    exact ⟨⟨entry.1, mem_sortedSet.mpr hnode, by rw [← heq]⟩, by simpa using hne⟩

private theorem mem_holders_recordedPlacement :
    node ∈ (recordedPlacement workflow).holders gpu ↔ gpu ∈ workflowGpuPlacement workflow node := by
  rw [mem_holders]
  constructor
  · rintro ⟨entry, hentry, rfl, hgpu⟩
    rwa [← (mem_recordedPlacement.mp hentry).1]
  · intro hgpu
    exact ⟨(node, workflowGpuPlacement workflow node),
      mem_recordedPlacement.mpr ⟨rfl, List.ne_nil_of_mem hgpu, mem_planNodes_of_workflowGpuPlacement hgpu⟩, rfl, hgpu⟩

/-- `scopeOwners` computes the order of precedence. -/
private theorem mem_scopeOwners : node ∈ scopeOwners workflow source store lineageNodeIds gpu ↔
    PlacedOn workflow source store lineageNodeIds gpu node := by
  have hstore : ∀ other, StoreReports workflow source store lineageNodeIds gpu other ↔
      other ∈ (storedPlacement workflow source store lineageNodeIds).holders gpu := fun other => mem_holders.symm
  unfold scopeOwners owners PlacedOn SourcePlaces
  simp only [hstore, ← @mem_holders_recordedPlacement workflow gpu]
  cases hreported : (storedPlacement workflow source store lineageNodeIds).holders gpu with
  | cons first rest =>
    have hknown : ¬∀ other, other ∉ first :: rest := fun h => h first List.mem_cons_self
    simp only [List.isEmpty_cons, Bool.not_false, if_true, hknown, false_and, or_false]
  | nil =>
    cases hplaced : (recordedPlacement workflow).holders gpu with
    | cons first rest =>
      have hknown : ¬∀ other, other ∉ first :: rest := fun h => h first List.mem_cons_self
      have hunreported : ∀ other, other ∉ ([] : List String) := fun other => List.not_mem_nil
      simp only [List.isEmpty_nil, List.isEmpty_cons, Bool.not_true, Bool.not_false, Bool.false_eq_true, if_false,
        if_true, hknown, hunreported, not_false_eq_true, implies_true, true_and, false_and, or_false,
        false_or]
    | nil =>
      rcases hnodes : source.nodeIds with - | ⟨first, - | ⟨second, rest⟩⟩
      · simp
      · by_cases hgpu : gpu ∈ source.gpuUuids
        · simp [hgpu, eq_comm]
        · simp [hgpu]
      · simp

private theorem PlacedOn.mem_scopeNodes (h : PlacedOn workflow source store lineageNodeIds gpu node) :
    node ∈ scopeNodes workflow source store lineageNodeIds := by
  unfold scopeNodes namedNodes
  simp only [List.mem_append]
  rcases h with ⟨entry, hentry, rfl, -⟩ | ⟨-, hrecorded | ⟨-, hnodes, -⟩⟩
  · exact .inr (List.mem_map_of_mem hentry)
  · exact .inl (.inl (.inr (mem_planNodes_of_workflowGpuPlacement hrecorded)))
  · exact .inl (.inl (.inl (by simp [hnodes])))

private theorem mem_inScopeGpus_of_lookup (h : gpu ∈ ((recordedPlacement workflow).lookup node).getD []) :
    gpu ∈ inScopeGpus workflow source := by
  cases hlookup : (recordedPlacement workflow).lookup node with
  | none => simp [hlookup] at h
  | some gpus =>
    rw [hlookup, Option.getD_some] at h
    have hentry : (node, gpus) ∈ recordedPlacement workflow := by
      obtain ⟨before, after, heq, -⟩ := List.lookup_eq_some_iff.mp hlookup
      simp [heq]
    unfold inScopeGpus
    rw [List.mem_eraseDups]
    exact List.mem_append_right _ (List.mem_flatMap.mpr ⟨_, hentry, h⟩)

private theorem mem_gpuShare : gpu ∈ gpuShare workflow source store lineageNodeIds node ↔
    gpu ∈ inScopeGpus workflow source ∧ PlacedOn workflow source store lineageNodeIds gpu node := by
  unfold gpuShare
  rw [List.mem_eraseDups, List.mem_filter, List.contains_iff_mem, mem_scopeOwners, List.mem_append]
  constructor
  · rintro ⟨hrecorded | hscope, hplaced⟩
    · exact ⟨mem_inScopeGpus_of_lookup hrecorded, hplaced⟩
    · exact ⟨hscope, hplaced⟩
  · rintro ⟨hscope, hplaced⟩
    exact ⟨.inr hscope, hplaced⟩

private theorem mem_unplacedGpus : gpu ∈ unplacedGpus workflow source store lineageNodeIds ↔
    gpu ∈ inScopeGpus workflow source ∧ ∀ node, ¬PlacedOn workflow source store lineageNodeIds gpu node := by
  unfold unplacedGpus
  rw [List.mem_filter, List.isEmpty_iff, List.eq_nil_iff_forall_not_mem]
  simp only [mem_scopeOwners]

private theorem lookup_map_pair {nodes : List String} {share : String → List String} (h : node ∈ nodes) :
    (nodes.map fun node => (node, share node)).lookup node = some (share node) := by
  induction nodes with
  | nil => exact absurd h List.not_mem_nil
  | cons first rest ih =>
    rw [List.map_cons, List.lookup_cons]
    by_cases hfirst : node = first
    · simp [hfirst]
    · rw [beq_false_of_ne hfirst]
      exact ih ((List.mem_cons.mp h).resolve_left hfirst)

/-- What the successor is given: everything in scope if the failed nodes are all there are and something is unplaced,
else what is on a failed node. -/
private theorem mem_escalationGpuScope :
    gpu ∈ (escalationGpuScope workflow source store lineageNodeIds failedNodes).gpuUuids ↔
      gpu ∈ inScopeGpus workflow source ∧
        ((∃ node ∈ failedNodes, PlacedOn workflow source store lineageNodeIds gpu node) ∨
          (∀ node, ¬PlacedOn workflow source store lineageNodeIds gpu node) ∧
            ∀ node ∈ scopeNodes workflow source store lineageNodeIds, node ∈ failedNodes) := by
  unfold escalationGpuScope
  simp only []
  split
  case isTrue hall =>
    have hfailed : ∀ node ∈ scopeNodes workflow source store lineageNodeIds, node ∈ failedNodes := by
      simpa using hall.2
    constructor
    · intro hgpu
      refine ⟨hgpu, ?_⟩
      by_cases hplaced : ∃ node, PlacedOn workflow source store lineageNodeIds gpu node
      · obtain ⟨node, hnode⟩ := hplaced
        exact .inl ⟨node, hfailed node hnode.mem_scopeNodes, hnode⟩
      · exact .inr ⟨not_exists.mp hplaced, hfailed⟩
    · exact And.left
  case isFalse hsome =>
    rw [List.mem_eraseDups, List.mem_flatMap]
    simp only [mem_gpuShare]
    constructor
    · rintro ⟨node, hnode, hgpu, hplaced⟩
      exact ⟨hgpu, .inl ⟨node, hnode, hplaced⟩⟩
    · rintro ⟨hgpu, ⟨node, hnode, hplaced⟩ | ⟨hnowhere, hfailed⟩⟩
      · exact ⟨node, hnode, hgpu, hplaced⟩
      · -- an unplaced GPU with every node failed is the first case
        have hunplaced := mem_unplacedGpus.mpr ⟨hgpu, hnowhere⟩
        exact absurd ⟨by simpa using List.ne_nil_of_mem hunplaced, by simpa using hfailed⟩ hsome

/-- A mapping that is returned has exactly the given GPUs of each failed node, and none without one. -/
private theorem lookup_escalationGpuScope
    (h : (escalationGpuScope workflow source store lineageNodeIds failedNodes).gpuUuidsByNode ≠ [])
    (hnode : node ∈ failedNodes) :
    gpuShare workflow source store lineageNodeIds node ≠ [] ∧
      (escalationGpuScope workflow source store lineageNodeIds failedNodes).gpuUuidsByNode.lookup node =
        some (gpuShare workflow source store lineageNodeIds node) := by
  unfold escalationGpuScope at h ⊢
  simp only [] at h ⊢
  split at h
  · exact absurd rfl h
  · rename_i hsome
    rw [if_neg hsome]
    split at h
    case isFalse => exact absurd rfl h
    case isTrue hcomplete =>
      have hmem : node ∈ failedNodes.eraseDups := List.mem_eraseDups.mpr hnode
      simp only [hcomplete, and_self, if_true]
      exact ⟨by simpa using List.all_eq_true.mp hcomplete.2 node hmem, lookup_map_pair hmem⟩

/-- **An escalation blames no sibling's GPU and loses none.** A GPU is given only if it is placed on a failed node, or
nowhere while every node in scope failed; a GPU in scope that is placed on a failed node is given; and a mapping that
is returned assigns each given GPU to the failed nodes that hold it, and to every failed node at least one. -/
theorem escalation_gpu_scope_by_placement (workflow : WorkflowRequest) (source : EscalationIncident)
    (store : Option PlacementStore) (lineageNodeIds failedNodes : List String) :
    (∀ gpu ∈ (escalationGpuScope workflow source store lineageNodeIds failedNodes).gpuUuids,
      (∃ node ∈ failedNodes, PlacedOn workflow source store lineageNodeIds gpu node) ∨
        (∀ node, ¬PlacedOn workflow source store lineageNodeIds gpu node) ∧
          ∀ node ∈ scopeNodes workflow source store lineageNodeIds, node ∈ failedNodes) ∧
    (∀ gpu ∈ inScopeGpus workflow source, ∀ node ∈ failedNodes,
      PlacedOn workflow source store lineageNodeIds gpu node →
        gpu ∈ (escalationGpuScope workflow source store lineageNodeIds failedNodes).gpuUuids) ∧
    ((escalationGpuScope workflow source store lineageNodeIds failedNodes).gpuUuidsByNode ≠ [] →
      ∀ node ∈ failedNodes, ∃ gpus,
        (escalationGpuScope workflow source store lineageNodeIds failedNodes).gpuUuidsByNode.lookup node = some gpus ∧
          gpus ≠ [] ∧ ∀ gpu, gpu ∈ gpus ↔
            gpu ∈ (escalationGpuScope workflow source store lineageNodeIds failedNodes).gpuUuids ∧
              PlacedOn workflow source store lineageNodeIds gpu node) := by
  refine ⟨?_, ?_, ?_⟩
  · intro gpu hgpu
    exact (mem_escalationGpuScope.mp hgpu).2
  · intro gpu hgpu node hnode hplaced
    exact mem_escalationGpuScope.mpr ⟨hgpu, .inl ⟨node, hnode, hplaced⟩⟩
  · intro hmapping node hnode
    obtain ⟨hne, hlookup⟩ := lookup_escalationGpuScope hmapping hnode
    refine ⟨_, hlookup, hne, fun gpu => ?_⟩
    rw [mem_gpuShare]
    constructor
    · rintro ⟨hgpu, hplaced⟩
      exact ⟨mem_escalationGpuScope.mpr ⟨hgpu, .inl ⟨node, hnode, hplaced⟩⟩, hplaced⟩
    · rintro ⟨hgpu, hplaced⟩
      exact ⟨(mem_escalationGpuScope.mp hgpu).1, hplaced⟩

/-- A GPU the workflow lists on the failed node, reported by a sibling: it is the sibling's. -/
example : (escalationGpuScope
    { requestId := "w", status := .failed,
      officialSteps := [{ operation := .restoreScheduling, nodeIds := ["n1"], gpuUuids := ["g1", "g2"] }] }
    { incidentId := "i", state := .actionPending, eventId := "e", nodeIds := ["n1", "n2"], gpuUuids := ["g1", "g2"] }
    (some { gpuInventorySnapshot := fun _ node => if node = "n1" then some ["g1"] else some ["g2"],
            gpuMetricsLatest := fun _ _ => none,
            attemptObservations := fun _ => none }) [] ["n1"]).gpuUuids = ["g1"] := by
  decide +kernel

/-! ### The successor of an escalation -/

def successorGpuScope (store : Option PlacementStore) (lineage : EscalationIncident → List String)
    (workflow : WorkflowRequest) (source : EscalationIncident) (failedNodes : List String) : EscalationGpuScope :=
  escalationGpuScope workflow source store (lineage source) failedNodes

/-- The incident of a rung names the GPUs of its own nodes. -/
theorem emit_gpuUuids_placed {escalation : EscalationStore} {lineage : EscalationIncident → List String}
    {verdict : Classification} {name : String} {now : Time}
    (hscope : escalation.gpuScope = successorGpuScope store lineage)
    (hgpu : gpu ∈ (emit escalation workflow source verdict name now).1.gpuUuids) :
    gpu ∈ inScopeGpus workflow source ∧
      ((∃ node ∈ (emit escalation workflow source verdict name now).1.nodeIds,
          PlacedOn workflow source store (lineage source) gpu node) ∨
        (∀ node, ¬PlacedOn workflow source store (lineage source) gpu node) ∧
          ∀ node ∈ scopeNodes workflow source store (lineage source),
            node ∈ (emit escalation workflow source verdict name now).1.nodeIds) := by
  unfold emit at hgpu
  simp only [hscope, successorGpuScope] at hgpu
  exact mem_escalationGpuScope.mp hgpu

end Lemmas

end GpuFaultRecovery
