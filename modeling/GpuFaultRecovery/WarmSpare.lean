import GpuFaultRecovery.Models
import GpuFaultRecovery.ListEdits
import GpuFaultRecovery.PythonText

/-!
# Selection of warm spares

A warm-spare failover counts how many nodes of each instance group and type have failed, takes that many healthy
spares of the same group and type, and pairs the fault nodes with the spares by position. The spares stand in the
order of the groups' keys, the fault nodes in the order of the step.
-/

namespace GpuFaultRecovery

/-! ### Provider nodes -/

/-- What the provider and Kubernetes say of a node. -/
structure ProviderNode where
  nodeLogicalId : String
  instanceId : Option String := none
  instanceGroupName : Option String := none
  instanceType : Option String := none
  privateDnsHostname : Option String := none
  privatePrimaryIp : Option String := none
  kubernetesLabels : List (String × String) := []
deriving Repr, DecidableEq

abbrev InstanceKey := Option String × Option String

namespace ProviderNode

def given (value : Option String) : Option String := value.filter fun text => text != ""

def label (node : ProviderNode) (key : String) : Option String := given (node.kubernetesLabels.lookup key)

def key (node : ProviderNode) : InstanceKey := (node.instanceGroupName, node.instanceType)

/-- `_kubernetes_node_name`. -/
def kubernetesNodeName (node : ProviderNode) : Option String :=
  (node.label "kubernetes.io/hostname").orElse fun _ => (given node.instanceId).map ("hyperpod-" ++ ·)

def aliases (node : ProviderNode) : List String :=
  node.nodeLogicalId ::
    ((given node.instanceId).elim [] fun id => [id, "hyperpod-" ++ id]) ++
    ((given node.privateDnsHostname).elim [] fun host => [host, (host.splitOn ".").headD ""]) ++
    (given node.privatePrimaryIp).toList ++
    (node.label "kubernetes.io/hostname").toList ++ (node.label "node.kubernetes.io/instance-id").toList

end ProviderNode

/-- The nodes of `l`, one for each logical id: a dictionary keeps the last. -/
def byLogicalId (l : List ProviderNode) : List ProviderNode :=
  (l.map ProviderNode.nodeLogicalId).eraseDups.filterMap fun id => l.reverse.find? fun node =>
    node.nodeLogicalId == id

/-- The node an identifier names: `none` if no node answers to it, or two do. -/
def resolveIdentifier (candidates : List ProviderNode) (identifier : String) : Option ProviderNode :=
  match byLogicalId (candidates.filter fun node => node.aliases.contains identifier) with
  | [node] => some node
  | _ => none

/-- `resolve_provider_nodes`: each node once. -/
def resolveProviderNodes (identifiers : List String) (candidates : List ProviderNode) : Option (List ProviderNode) :=
  if identifiers.isEmpty then none
  else (identifiers.mapM (resolveIdentifier candidates)).map byLogicalId

/-- A node the store remembers under names it no longer answers to. -/
structure NodeIdentity where
  nodeLogicalId : String
  aliases : List String := []
  retiredAliases : List String := []
deriving Repr, DecidableEq

/-- The node of a fault, by what it answers to now or by what the store remembers. -/
def resolveTarget (nodes : List ProviderNode) (identities : List NodeIdentity) (id : String) : Option ProviderNode :=
  match resolveIdentifier nodes id with
  | some node => some node
  | none =>
    (identities.find? fun item => id == item.nodeLogicalId || item.aliases.contains id ||
      item.retiredAliases.contains id)
      |>.bind fun item => resolveIdentifier nodes item.nodeLogicalId

/-! ### Selection -/

/-- `str(key)`. -/
def keyText [UnicodeTables] (key : InstanceKey) : String :=
  let text (part : Option String) : String := part.elim "None" PythonText.repr
  "(" ++ text key.1 ++ ", " ++ text key.2 ++ ")"

/-- How many fault nodes each key has, in the order the keys first appear. -/
def requirements (targets : List ProviderNode) : List (InstanceKey × Nat) :=
  let keys := targets.map ProviderNode.key
  keys.eraseDups.map fun key => (key, keys.count key)

/-- A spare that may be taken, with its Kubernetes name. -/
abbrev Spare := ProviderNode × String

/-- The spares `allocate` may choose from: not themselves fault nodes, with a name, and healthy. -/
def candidateSpares (spares targets : List ProviderNode) (healthReasons : ProviderNode → String → List String) :
    List Spare :=
  spares.filterMap fun spare =>
    if (targets.map ProviderNode.nodeLogicalId).contains spare.nodeLogicalId then none
    else
      match spare.kubernetesNodeName with
      | none => none
      | some name => if (healthReasons spare name).isEmpty then some (spare, name) else none

/-- The candidates of one key, in the order of their logical ids. -/
def availableSpares (candidates : List Spare) (key : InstanceKey) : List Spare :=
  (candidates.filter fun spare => spare.1.key == key).insertionSort fun a b => a.1.nodeLogicalId ≤ b.1.nodeLogicalId

/-- The requirements in the order `allocate` serves them. -/
def orderedRequirements [UnicodeTables] (targets : List ProviderNode) : List (InstanceKey × Nat) :=
  (requirements targets).insertionSort fun a b => keyText a.1 ≤ keyText b.1

/-- The spares `allocate` selects, or nothing if some key is short of them. -/
def selectSpares [UnicodeTables] (candidates : List Spare) (targets : List ProviderNode) : Option (List Spare) :=
  let ordered := orderedRequirements targets
  if ordered.any fun requirement => (availableSpares candidates requirement.1).length < requirement.2 then none
  else some (ordered.flatMap fun requirement => (availableSpares candidates requirement.1).take requirement.2)

/-! ### The failover -/

/-- The nodes of a cluster as they are listed once; Kubernetes gives no two of them one name. -/
structure ClusterListing where
  nodes : List ProviderNode
  identities : List NodeIdentity := []
  isSpare : ProviderNode → Bool
  healthReasons : ProviderNode → String → List String
  nodup_names : (nodes.filterMap ProviderNode.kubernetesNodeName).Nodup

namespace ClusterListing

variable (cluster : ClusterListing)

def targets (nodeIds : List String) : Option (List ProviderNode) :=
  nodeIds.eraseDups.mapM (resolveTarget cluster.nodes cluster.identities)

def candidates (targets : List ProviderNode) : List Spare :=
  candidateSpares (cluster.nodes.filter cluster.isSpare) targets cluster.healthReasons

/-- The spares `allocate` reserves for the fault nodes, one after the other; nothing if there are none. -/
def allocate [UnicodeTables] (nodeIds : List String) : Option (List Spare) :=
  ((cluster.targets nodeIds).bind fun targets => selectSpares (cluster.candidates targets) targets).filter
    fun spares => !spares.isEmpty

end ClusterListing

/-- `_provider_baselines`: each fault node with the node it names in a listing, or nothing if one of them names none.
The names of one node in a step are refused. -/
def providerBaselines (nodeIds : List String) (listing : List ProviderNode) : Option (List (String × ProviderNode)) :=
  match resolveProviderNodes nodeIds listing with
  | none => some []
  | some nodes => if nodes.length = nodeIds.length then some (nodeIds.zip nodes) else none

/-- The other names a fault node is rebound under. -/
def baselineAliases (baselines : List (String × ProviderNode)) (nodeId : String) : List String :=
  (baselines.lookup nodeId).elim [] fun node =>
    (ProviderNode.given node.instanceId).toList ++ node.kubernetesNodeName.toList

/-- The entries `_spare_failover_details` writes into `node_rebindings`, in the order it writes them. -/
def nodeRebindings (nodeIds spareNodes : List String) (baselines : List (String × ProviderNode)) :
    List (String × String) :=
  (nodeIds.zip spareNodes).flatMap fun entry =>
    (entry.1, entry.2) :: (baselineAliases baselines entry.1).map fun name => (name, entry.2)

/-- What a dictionary holds under `id` after `writes`: the last of them. -/
def written (writes : List (String × String)) (id : String) : Option String := writes.reverse.lookup id

/-- The rebindings of a failover that goes through. `baselines` is the listing they are read from, if any. -/
def spareFailover [UnicodeTables] (cluster : ClusterListing) (baselines : Option (List ProviderNode))
    (nodeIds : List String) :
    Option (List (String × String)) :=
  match cluster.allocate nodeIds, baselines.elim (some []) (providerBaselines nodeIds) with
  | some spares, some baselines =>
    if spares.length = nodeIds.length then some (nodeRebindings nodeIds (spares.map Prod.snd) baselines) else none
  | _, _ => none

/-! ### Like with like -/

section Selection

variable {candidates : List Spare} {targets : List ProviderNode} {spares : List Spare} {keys order : List InstanceKey}

/-- The keys of the fault nodes stand group by group, and the groups in the order of their texts. -/
def GroupedInOrder [UnicodeTables] (keys : List InstanceKey) : Prop :=
  keys.Pairwise (fun a b => keyText a ≤ keyText b) ∧
    keys = keys.eraseDups.flatMap fun key => .replicate (keys.count key) key

private theorem eraseDups_sublist {α : Type*} [BEq α] [LawfulBEq α] (l : List α) : l.eraseDups.Sublist l := by
  induction h : l.length using Nat.strong_induction_on generalizing l with
  | _ n ih =>
    cases l with
    | nil => simp
    | cons a l =>
      rw [List.eraseDups_cons]
      subst h
      have htail := ih _ (Nat.lt_succ_of_le (List.length_filter_le (fun b => !b == a) l)) _ rfl
      exact (htail.trans List.filter_sublist).cons_cons a

/-- Taking each key as often as it stands in `keys` gives `keys` again, in another order. -/
private theorem grouped_perm (horder : order.Perm keys.eraseDups) :
    (order.flatMap fun key => List.replicate (keys.count key) key).Perm keys := by
  rw [List.perm_iff_count]
  intro key
  have hnodup : order.Nodup := horder.nodup_iff.mpr (ListEdits.nodup_eraseDups keys)
  have hmem : key ∈ order ↔ key ∈ keys := horder.mem_iff.trans List.mem_eraseDups
  rw [List.count_flatMap]
  by_cases hkey : key ∈ keys
  · obtain ⟨before, after, rfl⟩ := List.append_of_mem (hmem.mpr hkey)
    have hfresh : ∀ other ∈ before ++ after, other ≠ key := by
      rintro other hother rfl
      have hcons := List.nodup_middle.mp hnodup
      exact (List.nodup_cons.mp hcons).1 hother
    have hzero : ∀ l : List InstanceKey, (∀ other ∈ l, other ≠ key) →
        (l.map (List.count key ∘ fun other => List.replicate (keys.count other) other)).sum = 0 := by
      intro l hl
      rw [List.sum_eq_zero_iff_forall_eq_nat]
      intro n hn
      obtain ⟨other, hother, rfl⟩ := List.mem_map.mp hn
      simp [List.count_replicate, hl other hother]
    rw [List.map_append, List.map_cons, List.sum_append, List.sum_cons,
      hzero before fun other h => hfresh other (List.mem_append_left _ h),
      hzero after fun other h => hfresh other (List.mem_append_right _ h)]
    simp
  · rw [List.count_eq_zero_of_not_mem hkey, List.sum_eq_zero_iff_forall_eq_nat]
    intro n hn
    obtain ⟨other, hother, rfl⟩ := List.mem_map.mp hn
    have hne : other ≠ key := fun heq => hkey (hmem.mp (heq ▸ hother))
    simp [List.count_replicate, hne]

/-- The keys first appear in the order in which their groups stand. -/
private theorem eraseDups_flatMap_replicate {count : InstanceKey → Nat} (hnodup : order.Nodup)
    (hcount : ∀ key ∈ order, 0 < count key) :
    (order.flatMap fun key => List.replicate (count key) key).eraseDups = order := by
  induction order with
  | nil => rfl
  | cons key order ih =>
    obtain ⟨hfresh, hnodup⟩ := List.nodup_cons.mp hnodup
    obtain ⟨n, hn⟩ := Nat.exists_eq_succ_of_ne_zero (hcount key (by simp)).ne'
    have hrest := ih hnodup fun other hother => hcount other (List.mem_cons_of_mem _ hother)
    have hkept : ((List.replicate n key ++ order.flatMap fun key => List.replicate (count key) key).filter
        fun other => !other == key) = order.flatMap fun key => List.replicate (count key) key := by
      rw [List.filter_append, List.filter_replicate_of_neg (by simp), List.nil_append, List.filter_eq_self]
      intro other hother
      obtain ⟨first, hfirst, hother⟩ := List.mem_flatMap.mp hother
      rw [List.eq_of_mem_replicate hother]
      have hne : first ≠ key := fun heq => hfresh (heq ▸ hfirst)
      simpa using hne
    rw [List.flatMap_cons, hn, List.replicate_succ, List.cons_append, List.eraseDups_cons, hkept, hrest]

private theorem pairwise_flatMap_replicate [UnicodeTables] {count : InstanceKey → Nat}
    (h : order.Pairwise fun a b => keyText a ≤ keyText b) :
    (order.flatMap fun key => List.replicate (count key) key).Pairwise fun a b => keyText a ≤ keyText b := by
  rw [List.pairwise_flatMap]
  refine ⟨fun key _ => List.pairwise_replicate.mpr (.inr (String.le_refl _)), h.imp fun hab a ha b hb => ?_⟩
  rw [List.eq_of_mem_replicate ha, List.eq_of_mem_replicate hb]
  exact hab

def servedKeys [UnicodeTables] (keys : List InstanceKey) : List InstanceKey :=
  keys.eraseDups.insertionSort fun a b => keyText a ≤ keyText b

private theorem servedKeys_perm [UnicodeTables] (keys : List InstanceKey) : (servedKeys keys).Perm keys.eraseDups :=
  List.perm_insertionSort _ _

private theorem orderedRequirements_eq [UnicodeTables] (targets : List ProviderNode) :
    orderedRequirements targets = (servedKeys (targets.map ProviderNode.key)).map fun key =>
      (key, (targets.map ProviderNode.key).count key) := by
  unfold orderedRequirements requirements servedKeys
  dsimp only
  rw [List.map_insertionSort (fun a b : InstanceKey => keyText a ≤ keyText b)
    (fun a b : InstanceKey × Nat => keyText a.1 ≤ keyText b.1)]
  intro a _ b _
  exact Iff.rfl

/-- Serving the groups in order leaves the keys as they stand exactly if they already stand so. -/
private theorem served_eq_iff [UnicodeTables] (keys : List InstanceKey) :
    keys = ((servedKeys keys).flatMap fun key => List.replicate (keys.count key) key) ↔ GroupedInOrder keys := by
  have hserved : (servedKeys keys).Pairwise fun a b => keyText a ≤ keyText b := by
    refine @List.pairwise_insertionSort _ (fun a b => keyText a ≤ keyText b) _ ⟨fun a b => ?_⟩ ⟨fun a b c => ?_⟩ _
    · exact String.le_total _ _
    · exact String.le_trans
  constructor
  · intro h
    have hcount : ∀ key ∈ servedKeys keys, 0 < keys.count key := by
      intro key hkey
      exact List.count_pos_iff.mpr (List.mem_eraseDups.mp ((servedKeys_perm keys).mem_iff.mp hkey))
    have hnodup : (servedKeys keys).Nodup := (servedKeys_perm keys).nodup_iff.mpr (ListEdits.nodup_eraseDups keys)
    have hfirst : keys.eraseDups = servedKeys keys := by
      have := @eraseDups_flatMap_replicate (servedKeys keys) (fun key => keys.count key) hnodup hcount
      rwa [← h] at this
    refine ⟨?_, ?_⟩
    · have := @pairwise_flatMap_replicate (servedKeys keys) _ (fun key => keys.count key) hserved
      rwa [← h] at this
    · rw [hfirst]
      exact h
  · rintro ⟨hpairwise, hgrouped⟩
    have hsorted : servedKeys keys = keys.eraseDups :=
      List.Pairwise.insertionSort_eq (hpairwise.sublist (eraseDups_sublist keys))
    rw [hsorted]
    exact hgrouped

private theorem mem_availableSpares {spare : Spare} {key : InstanceKey} :
    spare ∈ availableSpares candidates key ↔ spare ∈ candidates ∧ spare.1.key = key := by
  simp [availableSpares, List.mem_insertionSort]

/-- What is selected: for each key in order, as many of its candidates as it has fault nodes. -/
private theorem selectSpares_some [UnicodeTables] (h : selectSpares candidates targets = some spares) :
    spares = ((servedKeys (targets.map ProviderNode.key)).flatMap fun key =>
      (availableSpares candidates key).take ((targets.map ProviderNode.key).count key)) ∧
    ∀ key ∈ servedKeys (targets.map ProviderNode.key),
      (targets.map ProviderNode.key).count key ≤ (availableSpares candidates key).length := by
  unfold selectSpares at h
  dsimp only at h
  split at h
  · cases h
  · rename_i henough
    rw [orderedRequirements_eq] at h henough
    refine ⟨?_, ?_⟩
    · rw [← Option.some.inj h, List.flatMap_map]
    · intro key hkey
      simp only [List.any_map, List.any_eq_true, not_exists, not_and, Function.comp_apply, decide_eq_true_eq,
        not_lt] at henough
      exact henough key hkey

private theorem selectSpares_keys [UnicodeTables] (h : selectSpares candidates targets = some spares) :
    spares.map (fun spare => spare.1.key) = ((servedKeys (targets.map ProviderNode.key)).flatMap fun key =>
      List.replicate ((targets.map ProviderNode.key).count key) key) := by
  obtain ⟨rfl, henough⟩ := selectSpares_some h
  rw [List.map_flatMap]
  refine List.flatMap_congr fun key hkey => ?_
  rw [List.eq_replicate_iff]
  refine ⟨by simpa using henough key hkey, ?_⟩
  intro other hother
  obtain ⟨spare, hspare, rfl⟩ := List.mem_map.mp hother
  exact (mem_availableSpares.mp (List.mem_of_mem_take hspare)).2

private theorem selectSpares_length [UnicodeTables] (h : selectSpares candidates targets = some spares) :
    spares.length = targets.length := by
  have hperm := grouped_perm (servedKeys_perm (targets.map ProviderNode.key))
  rw [← selectSpares_keys h] at hperm
  simpa using hperm.length_eq

private theorem selectSpares_subset [UnicodeTables] (h : selectSpares candidates targets = some spares)
    {spare : Spare} (hspare : spare ∈ spares) :
    spare ∈ candidates := by
  obtain ⟨rfl, -⟩ := selectSpares_some h
  obtain ⟨key, -, hspare⟩ := List.mem_flatMap.mp hspare
  exact (mem_availableSpares.mp (List.mem_of_mem_take hspare)).1

/-- No spare is selected twice. -/
private theorem selectSpares_nodup [UnicodeTables] (hcandidates : (candidates.map Prod.snd).Nodup)
    (h : selectSpares candidates targets = some spares) : (spares.map Prod.snd).Nodup := by
  obtain ⟨rfl, -⟩ := selectSpares_some h
  rw [List.map_flatMap, List.nodup_flatMap]
  refine ⟨fun key _ => ?_, ?_⟩
  · have hsorted : ((availableSpares candidates key).map Prod.snd).Nodup := by
      unfold availableSpares
      rw [((List.perm_insertionSort _ _).map Prod.snd).nodup_iff]
      exact hcandidates.sublist (List.filter_sublist.map Prod.snd)
    exact hsorted.sublist ((List.take_sublist _ _).map Prod.snd)
  · -- a name stands for one candidate, and a candidate has one key
    have hnodup : (servedKeys (targets.map ProviderNode.key)).Nodup :=
      (servedKeys_perm _).nodup_iff.mpr (ListEdits.nodup_eraseDups _)
    refine hnodup.imp fun {key other} hne => ?_
    intro name hname hname'
    obtain ⟨spare, hspare, rfl⟩ := List.mem_map.mp hname
    obtain ⟨spare', hspare', heq⟩ := List.mem_map.mp hname'
    have hmem := mem_availableSpares.mp (List.mem_of_mem_take hspare)
    have hmem' := mem_availableSpares.mp (List.mem_of_mem_take hspare')
    have hsame : spare' = spare := List.inj_on_of_nodup_map hcandidates hmem'.1 hmem.1 heq
    exact hne (hmem.2.symm.trans (hsame ▸ hmem'.2))

end Selection

/-! ### Rebindings -/

section Rebindings

variable {α β : Type*} {nodeIds spareNodes : List String} {listing : List ProviderNode} {id name : String}

private theorem forall₂_of_mapM {f : α → Option β} {l : List α} {l' : List β} (h : l.mapM f = some l') :
    List.Forall₂ (fun a b => f a = some b) l l' := by
  induction l generalizing l' with
  | nil =>
    rw [List.mapM_nil] at h
    cases h
    exact .nil
  | cons a l ih =>
    rw [List.mapM_cons] at h
    obtain ⟨b, hb, h⟩ := Option.bind_eq_some_iff.mp h
    obtain ⟨bs, hbs, h⟩ := Option.bind_eq_some_iff.mp h
    cases h
    exact .cons hb (ih hbs)

private theorem written_eq {writes : List (String × String)} (hmem : (id, name) ∈ writes)
    (hall : ∀ value, (id, value) ∈ writes → value = name) : written writes id = some name := by
  unfold written
  cases hlookup : writes.reverse.lookup id with
  | none =>
    have := List.lookup_eq_none_iff.mp hlookup (id, name) (List.mem_reverse.mpr hmem)
    simp at this
  | some value =>
    obtain ⟨l, l', heq, -⟩ := List.lookup_eq_some_iff.mp hlookup
    have hvalue : (id, value) ∈ writes.reverse := by
      rw [heq]
      simp
    rw [hall value (List.mem_reverse.mp hvalue)]

private theorem mem_byLogicalId {nodes : List ProviderNode} {node : ProviderNode} (h : node ∈ byLogicalId nodes) :
    node ∈ nodes := by
  obtain ⟨id, -, hfound⟩ := List.mem_filterMap.mp h
  exact List.mem_reverse.mp (List.mem_of_find?_eq_some hfound)

private theorem exists_byLogicalId {nodes : List ProviderNode} {node : ProviderNode} (h : node ∈ nodes) :
    ∃ other ∈ byLogicalId nodes, other.nodeLogicalId = node.nodeLogicalId := by
  have hsome : (nodes.reverse.find? fun other => other.nodeLogicalId == node.nodeLogicalId).isSome = true := by
    rw [List.find?_isSome]
    exact ⟨node, List.mem_reverse.mpr h, by simp⟩
  obtain ⟨other, hother⟩ := Option.isSome_iff_exists.mp hsome
  refine ⟨other, List.mem_filterMap.mpr ⟨node.nodeLogicalId, ?_, hother⟩, ?_⟩
  · exact List.mem_eraseDups.mpr (List.mem_map.mpr ⟨node, h, rfl⟩)
  · simpa using List.find?_some hother

private theorem resolveIdentifier_some {node : ProviderNode} (h : resolveIdentifier listing id = some node) :
    node ∈ listing ∧ id ∈ node.aliases ∧
      ∀ other ∈ listing, id ∈ other.aliases → other.nodeLogicalId = node.nodeLogicalId := by
  unfold resolveIdentifier at h
  split at h
  · rename_i found hfound
    cases h
    have hmem := mem_byLogicalId (hfound ▸ List.mem_singleton_self node)
    obtain ⟨hlisted, halias⟩ := List.mem_filter.mp hmem
    refine ⟨hlisted, List.contains_iff_mem.mp halias, fun other hother halias' => ?_⟩
    have hmatches : other ∈ listing.filter fun node => node.aliases.contains id :=
      List.mem_filter.mpr ⟨hother, List.contains_iff_mem.mpr halias'⟩
    obtain ⟨kept, hkept, hid⟩ := exists_byLogicalId hmatches
    rw [hfound, List.mem_singleton] at hkept
    rw [← hid, hkept]
  · cases h

private theorem eraseDups_eq_of_length {l : List String} (h : l.length ≤ l.eraseDups.length) : l.eraseDups = l :=
  (eraseDups_sublist l).eq_of_length_le h

private theorem eraseDups_of_nodup {l : List String} (h : l.Nodup) : l.eraseDups = l := by
  refine eraseDups_eq_of_length ?_
  exact (List.subperm_of_subset h fun _ => List.mem_eraseDups.mpr).length_le

/-- Nodes of different logical ids are all kept. -/
private theorem byLogicalId_of_nodup {nodes : List ProviderNode} (h : (nodes.map ProviderNode.nodeLogicalId).Nodup) :
    byLogicalId nodes = nodes := by
  have hfind :
      ∀ node ∈ nodes, (nodes.reverse.find? fun other => other.nodeLogicalId == node.nodeLogicalId) = some node := by
    intro node hnode
    obtain ⟨other, hother, hid⟩ := exists_byLogicalId hnode
    cases hfound : nodes.reverse.find? fun other => other.nodeLogicalId == node.nodeLogicalId with
    | none => simpa using List.find?_eq_none.mp hfound node (List.mem_reverse.mpr hnode)
    | some found =>
      have hsame : found.nodeLogicalId = node.nodeLogicalId := by simpa using List.find?_some hfound
      have hlisted : found ∈ nodes := List.mem_reverse.mp (List.mem_of_find?_eq_some hfound)
      rw [List.inj_on_of_nodup_map h hlisted hnode hsame]
  unfold byLogicalId
  rw [eraseDups_of_nodup h, List.filterMap_map]
  have hself : ∀ l : List ProviderNode, (∀ node ∈ l, node ∈ nodes) → l.filterMap
      ((fun id => nodes.reverse.find? fun other => other.nodeLogicalId == id) ∘ ProviderNode.nodeLogicalId) = l := by
    intro l hl
    induction l with
    | nil => rfl
    | cons node l ih =>
      rw [List.filterMap_cons, Function.comp_apply, hfind node (hl node (by simp)),
        ih fun other hother => hl other (by simp [hother])]
  exact hself nodes fun _ h => h

private theorem length_byLogicalId_le (nodes : List ProviderNode) :
    (byLogicalId nodes).length ≤ (nodes.map ProviderNode.nodeLogicalId).eraseDups.length :=
  List.length_filterMap_le _ _

/-- Baselines name the nodes of the step, no two of them one node. -/
private theorem providerBaselines_some {baselines : List (String × ProviderNode)}
    (h : providerBaselines nodeIds listing = some baselines) :
    baselines = [] ∨ ∃ nodes, baselines = nodeIds.zip nodes ∧ (nodes.map ProviderNode.nodeLogicalId).Nodup ∧
      List.Forall₂ (fun id node => resolveIdentifier listing id = some node) nodeIds nodes := by
  unfold providerBaselines at h
  split at h
  · cases h
    exact .inl rfl
  rename_i kept hresolved
  split at h
  · rename_i hlength
    cases h
    unfold resolveProviderNodes at hresolved
    split at hresolved
    · cases hresolved
    obtain ⟨nodes, hnodes, rfl⟩ := Option.map_eq_some_iff.mp hresolved
    have hforall := forall₂_of_mapM hnodes
    have hids : (nodes.map ProviderNode.nodeLogicalId).eraseDups = nodes.map ProviderNode.nodeLogicalId := by
      refine eraseDups_eq_of_length ?_
      have hle := length_byLogicalId_le nodes
      rw [hlength, hforall.length_eq] at hle
      rwa [List.length_map]
    have hnodup : (nodes.map ProviderNode.nodeLogicalId).Nodup := hids ▸ ListEdits.nodup_eraseDups _
    refine .inr ⟨nodes, ?_, hnodup, hforall⟩
    rw [byLogicalId_of_nodup hnodup]
  · cases h

private theorem mem_aliases_of_baseline {node : ProviderNode}
    (h : name ∈ (ProviderNode.given node.instanceId).toList ++ node.kubernetesNodeName.toList) :
    name ∈ node.aliases := by
  rcases List.mem_append.mp h with h | h
  · have hinstance := Option.mem_toList.mp h
    simp [ProviderNode.aliases, hinstance]
  · have hname := Option.mem_toList.mp h
    unfold ProviderNode.kubernetesNodeName at hname
    cases hlabel : node.label "kubernetes.io/hostname" with
    | some host =>
      rw [hlabel] at hname
      cases hname
      simp [ProviderNode.aliases, hlabel]
    | none =>
      rw [hlabel] at hname
      obtain ⟨id, hid, rfl⟩ := Option.map_eq_some_iff.mp hname
      simp [ProviderNode.aliases, hid]

/-- No fault node of the step is another name of another one. -/
private theorem baselineAliases_self {baselines : List (String × ProviderNode)}
    (h : providerBaselines nodeIds listing = some baselines)
    (hname : name ∈ baselineAliases baselines id) (hmem : name ∈ nodeIds) : name = id := by
  rcases providerBaselines_some h with rfl | ⟨nodes, rfl, hnodup, hforall⟩
  · simp [baselineAliases] at hname
  unfold baselineAliases at hname
  cases hlookup : (nodeIds.zip nodes).lookup id with
  | none =>
    rw [hlookup] at hname
    simp at hname
  | some node =>
    rw [hlookup] at hname
    obtain ⟨l, l', heq, -⟩ := List.lookup_eq_some_iff.mp hlookup
    have hentry : (id, node) ∈ nodeIds.zip nodes := by
      rw [heq]
      simp
    have hzip := List.forall₂_iff_zip.mp hforall
    obtain ⟨⟨name', node'⟩, hentry', rfl⟩ : ∃ entry ∈ nodeIds.zip nodes, entry.1 = name := by
      rw [← List.mem_map, List.map_fst_zip hzip.1.le]
      exact hmem
    have hother := resolveIdentifier_some (hzip.2 hentry')
    have hsame := hother.2.2 node (resolveIdentifier_some (hzip.2 hentry)).1 (mem_aliases_of_baseline hname)
    have hdistinct : ((nodeIds.zip nodes).map fun entry => entry.2.nodeLogicalId).Nodup := by
      have hsnd := List.map_snd_zip hzip.1.ge
      rw [← hsnd, List.map_map] at hnodup
      exact hnodup
    have heq := List.inj_on_of_nodup_map hdistinct hentry hentry' hsame
    rw [Prod.mk.injEq] at heq
    exact heq.1.symm

/-- Each fault node is rebound to the spare at its own place. -/
private theorem written_nodeRebindings {baselines : List (String × ProviderNode)} (hnodup : nodeIds.Nodup)
    (hlength : nodeIds.length ≤ spareNodes.length)
    (haliases : ∀ id ∈ nodeIds, ∀ name ∈ baselineAliases baselines id, name ∈ nodeIds → name = id)
    (hentry : (id, name) ∈ nodeIds.zip spareNodes) :
    written (nodeRebindings nodeIds spareNodes baselines) id = some name := by
  have hunique : ∀ name', (id, name') ∈ nodeIds.zip spareNodes → name' = name := by
    intro name' hentry'
    have hfst : ((nodeIds.zip spareNodes).map Prod.fst).Nodup := by
      rw [List.map_fst_zip hlength]
      exact hnodup
    exact (Prod.mk.injEq _ _ _ _).mp (List.inj_on_of_nodup_map hfst hentry' hentry rfl) |>.2
  refine written_eq ?_ fun value hvalue => ?_
  · exact List.mem_flatMap.mpr ⟨(id, name), hentry, by simp⟩
  · obtain ⟨⟨other, spare⟩, hother, hvalue⟩ := List.mem_flatMap.mp hvalue
    rcases List.mem_cons.mp hvalue with hvalue | hvalue
    · obtain ⟨rfl, rfl⟩ := (Prod.mk.injEq _ _ _ _).mp hvalue
      exact hunique value hother
    · obtain ⟨again, hagain, heq⟩ := List.mem_map.mp hvalue
      obtain ⟨rfl, rfl⟩ := (Prod.mk.injEq _ _ _ _).mp heq
      have hself := haliases other (List.of_mem_zip hother).1 again hagain (List.of_mem_zip hentry).1
      subst hself
      exact hunique spare hother

end Rebindings

section Failover

variable {cluster : ClusterListing} {baselines : Option (List ProviderNode)} {nodeIds : List String}
  {rebindings : List (String × String)}

def ClusterListing.faultKeys (cluster : ClusterListing) (nodeIds : List String) : List InstanceKey :=
  (nodeIds.filterMap (resolveTarget cluster.nodes cluster.identities)).map ProviderNode.key

/-- Every fault node is rebound to a spare of its own instance group and type, and no two of them to one spare. -/
def LikeWithLike (cluster : ClusterListing) (nodeIds : List String) (rebindings : List (String × String)) : Prop :=
  (∀ id ∈ nodeIds, ∃ target spare name, resolveTarget cluster.nodes cluster.identities id = some target ∧
    spare ∈ cluster.nodes ∧ cluster.isSpare spare = true ∧ spare.kubernetesNodeName = some name ∧
    written rebindings id = some name ∧ spare.key = target.key) ∧
  ∀ id ∈ nodeIds, ∀ other ∈ nodeIds, id ≠ other → written rebindings id ≠ written rebindings other

private theorem mem_candidates {targets : List ProviderNode} {spare : Spare}
    (h : spare ∈ cluster.candidates targets) :
    spare.1 ∈ cluster.nodes ∧ cluster.isSpare spare.1 = true ∧ spare.1.kubernetesNodeName = some spare.2 := by
  obtain ⟨node, hnode, h⟩ := List.mem_filterMap.mp h
  obtain ⟨hlisted, hspare⟩ := List.mem_filter.mp hnode
  split at h
  · cases h
  split at h
  · cases h
  · rename_i name hname
    split at h
    · cases h
      exact ⟨hlisted, hspare, hname⟩
    · cases h

private theorem nodup_candidates (targets : List ProviderNode) :
    ((cluster.candidates targets).map Prod.snd).Nodup := by
  have hsub : ∀ l : List ProviderNode,
      ((candidateSpares l targets cluster.healthReasons).map Prod.snd).Sublist
        (l.filterMap ProviderNode.kubernetesNodeName) := by
    intro l
    induction l with
    | nil => exact .slnil
    | cons node l ih =>
      unfold candidateSpares at ih ⊢
      rw [List.filterMap_cons, List.filterMap_cons]
      cases hname : node.kubernetesNodeName with
      | none =>
        split
        · exact ih
        · rename_i found hfound
          split at hfound <;> cases hfound
      | some name =>
        split
        · exact ih.cons _
        · rename_i found hfound
          split at hfound
          · cases hfound
          · dsimp only at hfound
            split at hfound
            · cases hfound
              exact ih.cons_cons _
            · cases hfound
  exact cluster.nodup_names.sublist ((hsub _).trans (List.filter_sublist.filterMap _))

/-- What a failover that goes through knows: the targets in the order of the step, and as many spares selected. -/
private theorem spareFailover_some [UnicodeTables] (h : spareFailover cluster baselines nodeIds = some rebindings) :
    ∃ targets spares named, nodeIds.Nodup ∧
      List.Forall₂ (fun id target => resolveTarget cluster.nodes cluster.identities id = some target)
        nodeIds targets ∧
      selectSpares (cluster.candidates targets) targets = some spares ∧
      (∀ id ∈ nodeIds, ∀ name ∈ baselineAliases named id, name ∈ nodeIds → name = id) ∧
      rebindings = nodeRebindings nodeIds (spares.map Prod.snd) named := by
  unfold spareFailover at h
  split at h
  · rename_i spares named hallocate hnamed
    split at h
    · rename_i hlength
      cases h
      obtain ⟨hselect, -⟩ := Option.filter_eq_some_iff.mp hallocate
      obtain ⟨targets, htargets, hselect⟩ := Option.bind_eq_some_iff.mp hselect
      have hforall := forall₂_of_mapM htargets
      have hids : nodeIds.eraseDups = nodeIds := by
        refine eraseDups_eq_of_length ?_
        rw [← hlength, selectSpares_length hselect, hforall.length_eq]
      refine ⟨targets, spares, named, hids ▸ ListEdits.nodup_eraseDups nodeIds, hids ▸ hforall, hselect, ?_, rfl⟩
      intro id _ name hname hmem
      cases baselines with
      | none =>
        cases hnamed
        simp [baselineAliases] at hname
      | some listing => exact baselineAliases_self hnamed hname hmem
    · cases h
  · cases h

private theorem faultKeys_eq {targets : List ProviderNode}
    (h : List.Forall₂ (fun id target => resolveTarget cluster.nodes cluster.identities id = some target) nodeIds
      targets) :
    cluster.faultKeys nodeIds = targets.map ProviderNode.key := by
  unfold ClusterListing.faultKeys
  congr 1
  induction h with
  | nil => rfl
  | cons htarget _ ih => rw [List.filterMap_cons_some htarget, ih]

/-- A Kubernetes name stands for one node of the listing. -/
private theorem eq_of_kubernetesNodeName {nodes : List ProviderNode} {node other : ProviderNode} {name : String}
    (hnodup : (nodes.filterMap ProviderNode.kubernetesNodeName).Nodup) (hnode : node ∈ nodes) (hother : other ∈ nodes)
    (hname : node.kubernetesNodeName = some name) (hname' : other.kubernetesNodeName = some name) : node = other := by
  induction nodes with
  | nil => cases hnode
  | cons first nodes ih =>
    have htail : (nodes.filterMap ProviderNode.kubernetesNodeName).Nodup :=
      hnodup.sublist ((List.sublist_cons_self _ _).filterMap _)
    have hfirst : ∀ later ∈ nodes, first.kubernetesNodeName = some name → later.kubernetesNodeName ≠ some name := by
      intro later hlater hfirst hlast
      rw [List.filterMap_cons_some hfirst, List.nodup_cons] at hnodup
      exact hnodup.1 (List.mem_filterMap.mpr ⟨later, hlater, hlast⟩)
    rcases List.mem_cons.mp hnode with rfl | hlater <;> rcases List.mem_cons.mp hother with rfl | hlater'
    · rfl
    · exact absurd hname' (hfirst other hlater' hname)
    · exact absurd hname (hfirst node hlater hname')
    · exact ih htail hlater hlater'

/-- At each place of the step stand a fault node, its target and the spare it is rebound to. -/
structure Rebound (cluster : ClusterListing) (rebindings : List (String × String)) (id : String)
    (target : ProviderNode) (spare : Spare) : Prop where
  resolved : resolveTarget cluster.nodes cluster.identities id = some target
  bound : written rebindings id = some spare.2
  listed : spare.1 ∈ cluster.nodes
  isSpare : cluster.isSpare spare.1 = true
  named : spare.1.kubernetesNodeName = some spare.2

/-- Like goes with like exactly if the spares have, place by place, the keys of the fault nodes. -/
private theorem likeWithLike_iff {targets : List ProviderNode} {spares : List Spare}
    (htargets : nodeIds.length = targets.length)
    (hspares : nodeIds.length = spares.length) (hnames : (spares.map Prod.snd).Nodup)
    (hplace : ∀ i (hi : i < nodeIds.length) (ht : i < targets.length) (hs : i < spares.length),
      Rebound cluster rebindings nodeIds[i] targets[i] spares[i]) :
    LikeWithLike cluster nodeIds rebindings ↔
      targets.map ProviderNode.key = spares.map fun spare => spare.1.key := by
  constructor
  · rintro ⟨hlike, -⟩
    refine List.ext_getElem (by simp [← htargets, ← hspares]) fun i hi hs => ?_
    rw [List.length_map] at hi hs
    have hrebound := hplace i (htargets ▸ hi) hi hs
    obtain ⟨target, spare, name, hresolved, hlisted, -, hnamed, hbound, hkey⟩ :=
      hlike nodeIds[i] (List.getElem_mem (htargets ▸ hi))
    have hname : name = spares[i].2 := Option.some.inj (hbound.symm.trans hrebound.bound)
    have hspare : spare = spares[i].1 :=
      eq_of_kubernetesNodeName cluster.nodup_names hlisted hrebound.listed (hname ▸ hnamed) hrebound.named
    have htarget : target = targets[i] := Option.some.inj (hresolved.symm.trans hrebound.resolved)
    rw [List.getElem_map, List.getElem_map, ← htarget, ← hspare, hkey]
  · intro hkeys
    refine ⟨fun id hid => ?_, fun id hid other hother hne heq => ?_⟩
    · obtain ⟨i, hi, rfl⟩ := List.mem_iff_getElem.mp hid
      have hrebound := hplace i hi (htargets ▸ hi) (hspares ▸ hi)
      refine ⟨_, _, _, hrebound.resolved, hrebound.listed, hrebound.isSpare, hrebound.named, hrebound.bound, ?_⟩
      have hat := List.getElem_of_eq hkeys (by rw [List.length_map]; exact htargets ▸ hi)
      rw [List.getElem_map, List.getElem_map] at hat
      exact hat.symm
    · obtain ⟨i, hi, rfl⟩ := List.mem_iff_getElem.mp hid
      obtain ⟨j, hj, rfl⟩ := List.mem_iff_getElem.mp hother
      have hi' := hplace i hi (htargets ▸ hi) (hspares ▸ hi)
      have hj' := hplace j hj (htargets ▸ hj) (hspares ▸ hj)
      rw [hi'.bound, hj'.bound] at heq
      have hsame : (spares.map Prod.snd)[i]? = (spares.map Prod.snd)[j]? := by
        rw [List.getElem?_map, List.getElem?_map, List.getElem?_eq_getElem (hspares ▸ hi),
          List.getElem?_eq_getElem (hspares ▸ hj)]
        exact heq
      have hij := (List.getElem?_inj (by rw [List.length_map]; exact hspares ▸ hi) hnames).mp hsame
      subst hij
      exact hne rfl

end Failover

/-- A failover that goes through gives every fault node a spare of its own instance group and type, and different ones
a different spare, exactly if the step lists its fault nodes group by group, the groups in the order of the texts of
their keys. -/
theorem spare_failover_like_with_like [UnicodeTables] (cluster : ClusterListing)
    (baselines : Option (List ProviderNode)) (nodeIds : List String) (rebindings : List (String × String))
    (h : spareFailover cluster baselines nodeIds = some rebindings) :
    LikeWithLike cluster nodeIds rebindings ↔ GroupedInOrder (cluster.faultKeys nodeIds) := by
  obtain ⟨targets, spares, named, hnodup, htargets, hselect, haliases, rfl⟩ := spareFailover_some h
  have hspares : nodeIds.length = spares.length := htargets.length_eq.trans (selectSpares_length hselect).symm
  have hlength : nodeIds.length = (spares.map Prod.snd).length := by rw [List.length_map, hspares]
  have hnames : (spares.map Prod.snd).Nodup := selectSpares_nodup (nodup_candidates targets) hselect
  rw [faultKeys_eq htargets, ← served_eq_iff, ← selectSpares_keys hselect]
  refine likeWithLike_iff htargets.length_eq hspares hnames fun i hi ht hs => ?_
  have hentry : (nodeIds[i], spares[i].2) ∈ nodeIds.zip (spares.map Prod.snd) := by
    rw [List.mem_iff_getElem]
    exact ⟨i, by rw [List.length_zip, ← hlength, min_self]; exact hi, by simp⟩
  obtain ⟨hlisted, hspare, hnamed⟩ := mem_candidates (selectSpares_subset hselect (List.getElem_mem hs))
  exact ⟨htargets.get hi ht, written_nodeRebindings hnodup hlength.le haliases hentry, hlisted, hspare, hnamed⟩

section TwoGroups

private local instance twoGroupTables : UnicodeTables := .asciiOnly

private def node (id group : String) : ProviderNode :=
  { nodeLogicalId := id, instanceId := some id, instanceGroupName := some group,
    instanceType := some "ml.p5.48xlarge" }

/-- Two groups, each with one fault node and one spare. -/
private def twoGroups : ClusterListing where
  nodes := [node "i-a" "a", node "i-b" "b", node "i-sa" "a", node "i-sb" "b"]
  isSpare := fun node => node.nodeLogicalId == "i-sa" || node.nodeLogicalId == "i-sb"
  healthReasons := fun _ _ => []
  nodup_names := by decide

theorem spare_failover_like_with_like_in_order :
    spareFailover twoGroups none ["i-a", "i-b"] = some [("i-a", "hyperpod-i-sa"), ("i-b", "hyperpod-i-sb")] ∧
      LikeWithLike twoGroups ["i-a", "i-b"] [("i-a", "hyperpod-i-sa"), ("i-b", "hyperpod-i-sb")] := by
  have hfailover : spareFailover twoGroups none ["i-a", "i-b"] =
      some [("i-a", "hyperpod-i-sa"), ("i-b", "hyperpod-i-sb")] := by decide +kernel
  refine ⟨hfailover, (spare_failover_like_with_like _ _ _ _ hfailover).mpr ?_⟩
  unfold GroupedInOrder
  decide +kernel

/-- A step that names the fault node of the second group first crosses the two groups. -/
theorem spare_failover_crosses_groups :
    spareFailover twoGroups none ["i-b", "i-a"] = some [("i-b", "hyperpod-i-sa"), ("i-a", "hyperpod-i-sb")] ∧
      ¬ LikeWithLike twoGroups ["i-b", "i-a"] [("i-b", "hyperpod-i-sa"), ("i-a", "hyperpod-i-sb")] := by
  refine ⟨by decide +kernel, ?_⟩
  rintro ⟨hlike, -⟩
  obtain ⟨target, spare, name, htarget, hlisted, -, hname, hbound, hkey⟩ := hlike "i-b" (by decide)
  have hbound' : name = "hyperpod-i-sa" := (Option.some.inj hbound).symm
  subst hbound'
  have htarget' : target = node "i-b" "b" := by
    have hresolve : resolveTarget twoGroups.nodes twoGroups.identities "i-b" = some (node "i-b" "b") := by
      decide +kernel
    exact Option.some.inj (htarget.symm.trans hresolve)
  subst htarget'
  have hother : ∀ spare ∈ twoGroups.nodes, spare.kubernetesNodeName = some "hyperpod-i-sa" →
      spare.key ≠ (node "i-b" "b").key := by decide +kernel
  exact hother spare hlisted hname hkey

end TwoGroups

end GpuFaultRecovery
