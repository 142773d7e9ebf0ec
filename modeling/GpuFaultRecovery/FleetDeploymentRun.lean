import GpuFaultRecovery.FleetDeployment

/-!
# Rollouts within their caps

The waves of a request partition its nodes within the caps. Along every interleaving of the registry's calls the nodes
that are being installed all stand in the first wave that is not through, so that no more of them are down, in all or
in one failure domain, than the request allows. A rollout without failed nodes is never stuck: its next wave can
always be leased, and it is through after as many rounds as it has waves.
-/

namespace GpuFaultRecovery

open Optimistic

/-! ### Loops that look up without raising -/

section Loops
variable {α ε : Type} {l : List α}

private theorem allM_eq_ok {f : α → Except ε Bool} {g : α → Bool} (h : ∀ a ∈ l, f a = .ok (g a)) :
    l.allM f = .ok (l.all g) := by
  induction l with
  | nil => rfl
  | cons a l ih =>
    have ha := h a (by simp)
    have hl := ih fun b hb => h b (List.mem_cons_of_mem _ hb)
    rw [List.allM, ha, List.all_cons]
    cases hg : g a with
    | true => rw [Bool.true_and, ← hl]; rfl
    | false => rfl

private theorem findM?_eq_ok {f : α → Except ε Bool} {g : α → Bool} (h : ∀ a ∈ l, f a = .ok (g a)) :
    l.findM? f = .ok (l.find? g) := by
  induction l with
  | nil => rfl
  | cons a l ih =>
    have ha := h a (by simp)
    have hl := ih fun b hb => h b (List.mem_cons_of_mem _ hb)
    rw [List.findM?, ha, List.find?_cons]
    cases hg : g a with
    | true => rfl
    | false => rw [← hl]; rfl

private theorem filterM_eq_ok {f : α → Except ε Bool} {g : α → Bool} (h : ∀ a ∈ l, f a = .ok (g a)) :
    l.filterM f = .ok (l.filter g) := by
  have hacc :
      ∀ (l acc : List α), (∀ a ∈ l, f a = .ok (g a)) → l.filterAuxM f acc = .ok ((l.filter g).reverse ++ acc) := by
    intro l
    induction l with
    | nil => intro acc _; rfl
    | cons a l ih =>
      intro acc h
      have ha := h a (by simp)
      have hl := ih (if g a then a :: acc else acc) fun b hb => h b (List.mem_cons_of_mem _ hb)
      rw [List.filterAuxM, ha]
      cases hg : g a with
      | true =>
        rw [hg] at hl
        rw [List.filter_cons_of_pos hg, List.reverse_cons, List.append_assoc]
        exact hl
      | false =>
        rw [hg] at hl
        rw [List.filter_cons_of_neg (by simp [hg])]
        exact hl
  rw [List.filterM, hacc l [] h]
  simp

end Loops

/-! ### Waves -/

namespace ValidDeploymentRequest

variable (request : ValidDeploymentRequest)

private theorem bounds :
    1 ≤ request.maxUnavailable ∧ (∀ first, request.firstWaveMaxUnavailable = some first → 1 ≤ first) ∧
    1 ≤ request.maxUnavailablePerFailureDomain := by
  have h := request.fields
  simp only [FleetDeploymentRequest.fieldsOk, Bool.and_eq_true, decide_eq_true_eq] at h
  refine ⟨h.1.1.2, fun first hfirst => ?_, h.2⟩
  have hall := h.1.2
  rw [hfirst] at hall
  simpa using hall

private theorem nodup : request.nodeIds.Nodup := by
  have h := request.nodes
  unfold FleetDeploymentRequest.validateNodes at h
  simp only at h
  split at h
  · cases h
  split at h
  · cases h
  · rename_i hnodup
    exact not_not.mp hnodup

private theorem first_le (first : Nat) (hfirst : request.firstWaveMaxUnavailable = some first) :
    first ≤ request.maxUnavailable := by
  have h := request.nodes
  unfold FleetDeploymentRequest.validateNodes at h
  simp only at h
  split at h
  · cases h
  split at h
  · cases h
  split at h
  · cases h
  split at h
  · cases h
  · rename_i hle
    rw [hfirst] at hle
    simpa using hle

private theorem capacity_pos (waves : List (List String)) : 0 < request.capacity waves := by
  obtain ⟨hmax, hfirst, -⟩ := request.bounds
  unfold FleetDeploymentRequest.capacity
  split
  · cases h : request.firstWaveMaxUnavailable with
    | none => exact hmax
    | some first => exact hfirst first h
  · exact hmax

theorem capacity_le (waves : List (List String)) : request.capacity waves ≤ request.maxUnavailable := by
  unfold FleetDeploymentRequest.capacity
  split
  · cases h : request.firstWaveMaxUnavailable with
    | none => exact le_rfl
    | some first => exact request.first_le first h
  · exact le_rfl

theorem sortedNodes_perm : request.sortedNodes.Perm request.nodeIds := List.perm_insertionSort _ _

private theorem sortedNodes_nodup : request.sortedNodes.Nodup := request.sortedNodes_perm.nodup_iff.mpr request.nodup

abbrev Cut (waves : List (List String)) : Prop :=
  CappedBatches.Cuts request.domain request.maxUnavailablePerFailureDomain request.capacity []
    request.sortedNodes waves

private theorem deploymentWaves_eq_ok :
    ∃ waves, deploymentWaves request.toFleetDeploymentRequest = .ok waves ∧ request.Cut waves := by
  obtain ⟨waves, hcut, hcuts⟩ := CappedBatches.cuts_cut request.domain request.capacity_pos request.bounds.2.2
    (le_refl request.sortedNodes.length) []
  refine ⟨waves, ?_, hcuts⟩
  rw [deploymentWaves, hcut]
  rfl

variable {request} {waves : List (List String)}

theorem cut_of_deploymentWaves (h : deploymentWaves request.toFleetDeploymentRequest = .ok waves) :
    request.Cut waves := by
  obtain ⟨waves', heq, hcuts⟩ := request.deploymentWaves_eq_ok
  rwa [Except.ok.inj (h.symm.trans heq)]

end ValidDeploymentRequest

/-- How many nodes the wave in place `i` may have. -/
def FleetDeploymentRequest.waveCap (request : FleetDeploymentRequest) (i : Nat) : Nat :=
  if i = 0 then request.firstWaveMaxUnavailable.getD request.maxUnavailable else request.maxUnavailable

private theorem capacity_take (request : FleetDeploymentRequest) {waves : List (List String)} {i : Nat}
    (hi : i < waves.length) :
    request.capacity ([] ++ waves.take i) = request.waveCap i := by
  have hempty : [] ++ waves.take i = [] ↔ i = 0 := by
    rw [List.nil_append, List.take_eq_nil_iff]
    refine ⟨fun h => h.resolve_right fun hwaves => ?_, .inl⟩
    rw [hwaves] at hi
    exact absurd hi (Nat.not_lt_zero i)
  by_cases h : i = 0
  · rw [FleetDeploymentRequest.capacity, FleetDeploymentRequest.waveCap, if_pos (hempty.mpr h), if_pos h]
  · rw [FleetDeploymentRequest.capacity, FleetDeploymentRequest.waveCap, if_neg (mt hempty.mp h), if_neg h]

/-- Every valid request is cut into waves: they partition its nodes, none is empty, none exceeds the cap of its place
or the cap of a failure domain, and a node waits for a later wave only if there was no room for it. -/
theorem deployment_waves_partition (request : ValidDeploymentRequest) :
    ∃ waves, deploymentWaves request.toFleetDeploymentRequest = .ok waves ∧
      waves.flatten.Perm request.nodeIds ∧
      (∀ i wave, waves[i]? = some wave →
        wave ≠ [] ∧ wave.length ≤ request.waveCap i ∧
          ∀ domain, wave.countP (fun node => request.domain node = domain) ≤ request.maxUnavailablePerFailureDomain) ∧
      ∀ i j wave later node, i < j → waves[i]? = some wave → waves[j]? = some later → node ∈ later →
        wave.length = request.waveCap i ∨
          wave.countP (fun other => request.domain other = request.domain node) =
            request.maxUnavailablePerFailureDomain := by
  obtain ⟨waves, heq, hcuts⟩ := request.deploymentWaves_eq_ok
  refine ⟨waves, heq, (hcuts.perm request.sortedNodes_nodup).trans request.sortedNodes_perm, ?_, ?_⟩
  · intro i wave hi
    have hcapped := hcuts.capped hi
    have hlt := (List.getElem?_eq_some_iff.mp hi).1
    refine ⟨hcapped.nonempty, ?_, hcapped.groups⟩
    rw [← capacity_take _ hlt]
    exact hcapped.size
  · intro i j wave later node hij hi hj hnode
    have hlt := (List.getElem?_eq_some_iff.mp hi).1
    rw [← capacity_take _ hlt]
    exact hcuts.waits request.sortedNodes_nodup hij hi hj hnode

/-! ### Statuses of nodes -/

namespace FleetDeployment

variable {deployment : FleetDeployment} {node : DeploymentNode} {nodeId : String}

theorem byNode?_of_mem (hnodup : (deployment.nodes.map DeploymentNode.nodeId).Nodup)
    (hnode : node ∈ deployment.nodes) :
    deployment.byNode? node.nodeId = some node.status := by
  have hfind : deployment.nodes.reverse.find? (fun item => item.nodeId == node.nodeId) = some node := by
    cases hfound : deployment.nodes.reverse.find? (fun item => item.nodeId == node.nodeId) with
    | none =>
      have hnone := List.find?_eq_none.mp hfound node (List.mem_reverse.mpr hnode)
      exact absurd (beq_self_eq_true _) hnone
    | some item =>
      have hid : item.nodeId = node.nodeId := by simpa using List.find?_some hfound
      have hitem : item ∈ deployment.nodes := List.mem_reverse.mp (List.mem_of_find?_eq_some hfound)
      rw [List.inj_on_of_nodup_map hnodup hitem hnode hid]
  rw [byNode?, hfind]
  rfl

private theorem byNode_of_byNode? {status : DeploymentNodeStatus} (h : deployment.byNode? nodeId = some status) :
    deployment.byNode nodeId = .ok status := by
  rw [byNode, h]

/-- All earlier waves are through, as far as the node is concerned. -/
def InFront (deployment : FleetDeployment) (nodeId : String) : Prop :=
  ∀ (i j : Nat) (wave earlier : List String), deployment.waves[i]? = some wave → nodeId ∈ wave → j < i →
    deployment.waves[j]? = some earlier → ∀ node ∈ deployment.nodes, node.nodeId ∈ earlier → node.status = .ready

theorem mem_installingNodes :
    node ∈ deployment.installingNodes ↔ node ∈ deployment.nodes ∧ node.status = .installing := by
  rw [installingNodes, List.mem_filter, beq_iff_eq]

theorem map_nodeId_restatus (choose : DeploymentNode → Option DeploymentNodeUpdate) (now : Nat) :
    (deployment.restatus choose now).nodes.map DeploymentNode.nodeId =
      deployment.nodes.map DeploymentNode.nodeId := by
  rw [restatus, List.map_map]
  refine List.map_congr_left fun item _ => ?_
  rw [Function.comp_apply]
  cases choose item <;> rfl

/-- Where a node of a changed record comes from. -/
theorem mem_restatus {choose : DeploymentNode → Option DeploymentNodeUpdate} {now : Nat}
    (h : node ∈ (deployment.restatus choose now).nodes) :
    ∃ item ∈ deployment.nodes, node.nodeId = item.nodeId ∧
      ((choose item = none ∧ node.status = item.status) ∨
        ∃ update, choose item = some update ∧ node.status = update.status) := by
  obtain ⟨item, hitem, rfl⟩ := List.mem_map.mp h
  refine ⟨item, hitem, ?_⟩
  cases hchoose : choose item with
  | none => exact ⟨rfl, .inl ⟨rfl, rfl⟩⟩
  | some update => exact ⟨rfl, .inr ⟨update, rfl, rfl⟩⟩

end FleetDeployment

/-! ### What the passes keep -/

/-- A record of a rollout: its waves are those of a valid request, its status follows from its nodes unless it was
cancelled, and the nodes that are being installed stand in the first wave that is not through. -/
structure RolloutSound (deployment : FleetDeployment) : Prop where
  planned : ∃ request : ValidDeploymentRequest, deployment.clusterId = request.clusterId ∧
    deploymentWaves request.toFleetDeploymentRequest = .ok deployment.waves ∧
    deployment.maxUnavailable = request.maxUnavailable ∧
    deployment.nodes.map DeploymentNode.nodeId = request.sortedNodes
  front : ∀ node ∈ deployment.installingNodes, deployment.InFront node.nodeId
  status : deployment.status = deploymentStatus deployment.nodes ∨ deployment.status = .failed

section Passes

variable {deployment row : FleetDeployment} {choose : DeploymentNode → Option DeploymentNodeUpdate} {now : Nat}

theorem RolloutSound.nodup (h : RolloutSound deployment) : (deployment.nodes.map DeploymentNode.nodeId).Nodup := by
  obtain ⟨request, -, -, -, hnodes⟩ := h.planned
  rw [hnodes]
  exact request.sortedNodes_nodup

/-- What a pass writes: it takes no node back from `READY`, installs only nodes in front, and derives the status of
the record from its nodes or cancels it. -/
structure Restated (deployment row : FleetDeployment) : Prop where
  change : ∃ choose now, row.waves = deployment.waves ∧ row.desired = deployment.desired ∧
    row.clusterId = deployment.clusterId ∧ row.maxUnavailable = deployment.maxUnavailable ∧
    row.nodes = (deployment.restatus choose now).nodes ∧
    (∀ item ∈ deployment.nodes, ∀ update, choose item = some update → item.status = .ready → update.status = .ready) ∧
    ∀ item ∈ deployment.nodes, ∀ update, choose item = some update → update.status = .installing →
      item.status = .installing ∨ deployment.InFront item.nodeId
  status : row.status = deploymentStatus row.nodes ∨ row.status = .failed

private theorem restated_restatus
    (hready : ∀ item ∈ deployment.nodes, ∀ update, choose item = some update → item.status = .ready →
      update.status = .ready)
    (hinstall : ∀ item ∈ deployment.nodes, ∀ update, choose item = some update → update.status = .installing →
      item.status = .installing ∨ deployment.InFront item.nodeId) :
    Restated deployment (deployment.restatus choose now) :=
  ⟨⟨choose, now, rfl, rfl, rfl, rfl, rfl, hready, hinstall⟩, .inl rfl⟩

theorem RolloutSound.restated (h : RolloutSound deployment) (hrow : Restated deployment row) : RolloutSound row := by
  obtain ⟨⟨choose, now, hwaves, -, hcluster, hmax, hnodes, hready, hinstall⟩, hstatus⟩ := hrow
  refine ⟨?_, ?_, hstatus⟩
  · obtain ⟨request, hcluster', hwaves', hmax', hnodes'⟩ := h.planned
    refine ⟨request, hcluster.trans hcluster', by rwa [hwaves], hmax.trans hmax', ?_⟩
    rw [hnodes, FleetDeployment.map_nodeId_restatus, hnodes']
  · intro node hnode i j wave earlier hi hin hji hj other hother hearlier
    rw [hwaves] at hi hj
    rw [hnodes] at hother
    obtain ⟨hnode, hinst⟩ := FleetDeployment.mem_installingNodes.mp hnode
    rw [hnodes] at hnode
    obtain ⟨item, hitem, hid, hitemStatus⟩ := FleetDeployment.mem_restatus hnode
    have hfront : deployment.InFront item.nodeId := by
      rcases hitemStatus with ⟨-, hsame⟩ | ⟨update, hupdate, hsame⟩
      · exact h.front item (FleetDeployment.mem_installingNodes.mpr ⟨hitem, hsame ▸ hinst⟩)
      · rcases hinstall item hitem update hupdate (hsame ▸ hinst) with hinst | hfront
        · exact h.front item (FleetDeployment.mem_installingNodes.mpr ⟨hitem, hinst⟩)
        · exact hfront
    obtain ⟨item', hitem', hid', hstatus'⟩ := FleetDeployment.mem_restatus hother
    have hold := hfront i j wave earlier hi (hid ▸ hin) hji hj item' hitem' (hid' ▸ hearlier)
    rcases hstatus' with ⟨-, hsame⟩ | ⟨update, hupdate, hsame⟩
    · rw [hsame, hold]
    · rw [hsame, hready item' hitem' update hupdate hold]

private theorem restated_cancelPass (deployment : FleetDeployment) (reason : String) :
    Restated deployment (cancelPass reason now deployment) := by
  have hrow : Restated deployment (deployment.restatus
      (fun item =>
        if item.status ≠ .ready then some { status := .failed, reason := some reason } else none) now) := by
    refine restated_restatus (fun item _ update hupdate hready => ?_) fun item _ update hupdate hinst => ?_
    · simp [hready] at hupdate
    · split at hupdate
      · rw [← Option.some.inj hupdate] at hinst
        cases hinst
      · cases hupdate
  exact ⟨hrow.change, .inr rfl⟩

private theorem restated_retryPass {agents : List AgentRecord} (hout : retryPass agents now deployment = .swap row) :
    Restated deployment row := by
  unfold retryPass at hout
  split at hout
  · rw [← Attempted.swap.inj hout]
    refine restated_restatus (fun item _ update hupdate hready => ?_) fun item _ update hupdate hinst => ?_
    · simp [hready] at hupdate
    · split at hupdate
      · rw [← Option.some.inj hupdate] at hinst
        simp only at hinst
        split at hinst <;> cases hinst
      · cases hupdate
  · cases hout

theorem restated_reconcilePass {agents : List AgentRecord} {expected : AgentIdentity}
    (hout : reconcilePass expected agents now deployment = .swap row) : Restated deployment row := by
  unfold reconcilePass at hout
  simp only at hout
  split at hout
  · rw [← Attempted.swap.inj hout]
    refine restated_restatus (fun item _ update hupdate hready => ?_) fun item _ update hupdate hinst => ?_
    · simp [hready] at hupdate
    · split at hupdate
      · rw [← Option.some.inj hupdate] at hinst
        cases hinst
      · cases hupdate
  · cases hout

/-! ### The first wave that is not through -/

/-- Every wave before place `i` is through. -/
def FleetDeployment.ReadyBefore (deployment : FleetDeployment) (i : Nat) : Prop :=
  ∀ j earlier, j < i → deployment.waves[j]? = some earlier →
    ∀ node ∈ deployment.nodes, node.nodeId ∈ earlier → node.status = .ready

private theorem RolloutSound.perm (h : RolloutSound deployment) :
    deployment.waves.flatten.Perm (deployment.nodes.map DeploymentNode.nodeId) := by
  obtain ⟨request, -, hwaves, -, hnodes⟩ := h.planned
  rw [hnodes]
  exact (ValidDeploymentRequest.cut_of_deploymentWaves hwaves).perm request.sortedNodes_nodup

private theorem RolloutSound.place_unique (h : RolloutSound deployment) {i i' : Nat} {wave wave' : List String}
    {nodeId : String} (hi : deployment.waves[i]? = some wave) (hi' : deployment.waves[i']? = some wave')
    (hin : nodeId ∈ wave) (hin' : nodeId ∈ wave') : i = i' := by
  have hdisjoint := (List.nodup_flatten.mp (h.perm.nodup_iff.mpr h.nodup)).2
  obtain ⟨hlt, rfl⟩ := List.getElem?_eq_some_iff.mp hi
  obtain ⟨hlt', rfl⟩ := List.getElem?_eq_some_iff.mp hi'
  rcases Nat.lt_trichotomy i i' with hii | hii | hii
  · exact absurd hin' ((List.pairwise_iff_getElem.mp hdisjoint i i' hlt hlt' hii) hin)
  · exact hii
  · exact absurd hin ((List.pairwise_iff_getElem.mp hdisjoint i' i hlt' hlt hii) hin')

private theorem RolloutSound.inFront (h : RolloutSound deployment) {i : Nat} {wave : List String} {nodeId : String}
    (hi : deployment.waves[i]? = some wave) (hin : nodeId ∈ wave) (hbefore : deployment.ReadyBefore i) :
    deployment.InFront nodeId := by
  intro i' j wave' earlier hi' hin' hji hj
  have hplace := h.place_unique hi hi' hin hin'
  subst hplace
  exact hbefore j earlier hji hj

/-- The look-ups of a wave never raise. -/
theorem RolloutSound.byNode_of_mem (h : RolloutSound deployment) {wave : List String}
    (hwave : wave ∈ deployment.waves) {nodeId : String} (hin : nodeId ∈ wave) :
    ∃ node ∈ deployment.nodes, node.nodeId = nodeId ∧ deployment.byNode? nodeId = some node.status ∧
      deployment.byNode nodeId = .ok node.status := by
  have hmem := h.perm.subset (List.mem_flatten.mpr ⟨wave, hwave, hin⟩)
  obtain ⟨node, hnode, rfl⟩ := List.mem_map.mp hmem
  have hby := FleetDeployment.byNode?_of_mem h.nodup hnode
  exact ⟨node, hnode, rfl, hby, FleetDeployment.byNode_of_byNode? hby⟩

def FleetDeployment.withStatus (deployment : FleetDeployment) (status : DeploymentNodeStatus) (wave : List String) :
    List String :=
  wave.filter fun nodeId => deployment.byNode? nodeId == some status

private theorem RolloutSound.filterM_eq (h : RolloutSound deployment) {wave : List String}
    (hwave : wave ∈ deployment.waves) (status : DeploymentNodeStatus) :
    (wave.filterM fun nodeId => do return (← deployment.byNode nodeId) == status) =
      .ok (deployment.withStatus status wave) := by
  refine filterM_eq_ok fun nodeId hin => ?_
  obtain ⟨node, -, -, hby?, hby⟩ := h.byNode_of_mem hwave hin
  rw [hby, hby?]
  rfl

def FleetDeployment.through (deployment : FleetDeployment) (wave : List String) : Bool :=
  wave.all fun nodeId => deployment.byNode? nodeId == some .ready

private theorem RolloutSound.waveReady_eq (h : RolloutSound deployment) {wave : List String}
    (hwave : wave ∈ deployment.waves) :
    waveReady deployment wave = .ok (deployment.through wave) := by
  refine allM_eq_ok fun nodeId hin => ?_
  obtain ⟨node, -, -, hby?, hby⟩ := h.byNode_of_mem hwave hin
  rw [hby, hby?]
  rfl

private theorem RolloutSound.activeDeploymentWave_eq (h : RolloutSound deployment) :
    activeDeploymentWave deployment = .ok (deployment.waves.find? fun wave => !deployment.through wave) := by
  refine findM?_eq_ok fun wave hwave => ?_
  rw [h.waveReady_eq hwave]
  rfl

theorem RolloutSound.ready_of_through (h : RolloutSound deployment) {wave : List String}
    (hthrough : deployment.through wave = true) {node : DeploymentNode} (hnode : node ∈ deployment.nodes)
    (hin : node.nodeId ∈ wave) : node.status = .ready := by
  have hby := List.all_eq_true.mp hthrough node.nodeId hin
  rw [FleetDeployment.byNode?_of_mem h.nodup hnode, beq_iff_eq] at hby
  exact Option.some.inj hby

theorem RolloutSound.readyBefore (h : RolloutSound deployment) {front suffix : List (List String)}
    (hwaves : deployment.waves = front ++ suffix) (hfront : ∀ wave ∈ front, deployment.through wave = true) :
    deployment.ReadyBefore front.length := by
  intro j earlier hj hearlier node hnode hin
  rw [hwaves, List.getElem?_append_left hj] at hearlier
  exact h.ready_of_through (hfront earlier (List.mem_of_getElem? hearlier)) hnode hin

/-- What `update_deployment_node` comes to when it does not raise. -/
private theorem updateNodePass_eq_ok {nodeId : String} {update : DeploymentNodeUpdate}
    {outcome : Attempted FleetDeployment} (h : updateNodePass nodeId update false now deployment = .ok outcome) :
    outcome = .stop ∨ ∃ current, deployment.nodes.find? (fun item => item.nodeId == nodeId) = some current ∧
      (update.status ≠ current.status → current.status = .pending ∧ update.status = .installing ∨
        current.status = .installing ∧ update.status = .failed) ∧
      (update.status = .installing → current.status ≠ .installing →
        ∃ active, activeDeploymentWave deployment = .ok (some active) ∧ nodeId ∈ active) ∧
      outcome = .swap (deployment.restatus (fun item => if item.nodeId = nodeId then some update else none) now) := by
  unfold updateNodePass at h
  split at h
  · cases h
  rename_i current hfound
  split at h
  · exact .inl (Except.ok.inj h).symm
  split at h
  · cases h
  split at h
  · cases h
  split at h
  · cases h
  rename_i hallowed
  refine .inr ⟨current, hfound, fun hne => ?_, ?_⟩
  · by_contra hnot
    exact hallowed ⟨by simp, hne, hnot⟩
  by_cases hstarts : update.status = .installing ∧ current.status ≠ .installing
  · rw [if_pos hstarts] at h
    cases hactive : activeDeploymentWave deployment with
    | error message =>
      rw [hactive] at h
      cases h
    | ok active =>
      rw [hactive] at h
      simp only [bind, Except.bind] at h
      split at h
      · cases h
      rename_i hin
      split at h
      · cases h
      refine ⟨fun _ _ => ?_, (Except.ok.inj h).symm⟩
      rw [not_not] at hin
      cases active with
      | none => cases hin
      | some active => exact ⟨active, rfl, by simpa using hin⟩
  · rw [if_neg hstarts] at h
    exact ⟨fun hinst hne => absurd ⟨hinst, hne⟩ hstarts, (Except.ok.inj h).symm⟩

private theorem RolloutSound.restated_updateNodePass (h : RolloutSound deployment) {nodeId : String}
    {update : DeploymentNodeUpdate} (hout : updateNodePass nodeId update false now deployment = .ok (.swap row)) :
    Restated deployment row := by
  rcases updateNodePass_eq_ok hout with hstop | ⟨current, hfound, hallowed, hstarts, hswap⟩
  · cases hstop
  have hcurrent : current ∈ deployment.nodes ∧ current.nodeId = nodeId :=
    ⟨List.mem_of_find?_eq_some hfound, by simpa using List.find?_some hfound⟩
  have hstatus : ∀ item ∈ deployment.nodes, item.nodeId = nodeId → item.status = current.status := by
    intro item hitem hid
    rw [List.inj_on_of_nodup_map h.nodup hitem hcurrent.1 (hid.trans hcurrent.2.symm)]
  rw [Attempted.swap.inj hswap]
  refine restated_restatus (fun item hitem update' hupdate hready => ?_) fun item hitem update' hupdate hinst => ?_
  · split at hupdate
    · rename_i hid
      rw [← Option.some.inj hupdate]
      rw [hstatus item hitem hid] at hready
      by_contra hne
      rcases hallowed (hready ▸ hne) with ⟨hpending, -⟩ | ⟨hinstalling, -⟩
      · cases hready.symm.trans hpending
      · cases hready.symm.trans hinstalling
    · cases hupdate
  · split at hupdate
    · rename_i hid
      rw [← Option.some.inj hupdate] at hinst
      by_cases hsame : current.status = .installing
      · exact .inl ((hstatus item hitem hid).trans hsame)
      -- a node that starts to install is in the first wave that is not through
      obtain ⟨wave, hactive, hin⟩ := hstarts hinst hsame
      rw [h.activeDeploymentWave_eq] at hactive
      obtain ⟨-, front, suffix, hwaves, hbefore⟩ := List.find?_eq_some_iff_append.mp (Except.ok.inj hactive)
      have hplace : deployment.waves[front.length]? = some wave := by simp [hwaves]
      rw [hid]
      refine .inr (h.inFront hplace hin (h.readyBefore hwaves fun earlier hearlier => ?_))
      simpa using hbefore earlier hearlier
    · cases hupdate

theorem RolloutSound.leaseWave_eq (h : RolloutSound deployment) {wave : List String} (hwave : wave ∈ deployment.waves)
    (index : Nat) :
    leaseWave deployment now index wave =
      if deployment.withStatus .installing wave ≠ [] then
        .ok (⟨deployment.deploymentId, index, deployment.withStatus .installing wave, now⟩, none)
      else if deployment.withStatus .pending wave = [] then .error "active deployment wave has no pending nodes"
      else if deployment.maxUnavailable <
          deployment.installingCount + (deployment.withStatus .pending wave).length then
        .error "deployment max_unavailable would be exceeded"
      else
        .ok (⟨deployment.deploymentId, index, deployment.withStatus .pending wave, now⟩,
          some (deployment.restatus (fun item =>
            if item.nodeId ∈ deployment.withStatus .pending wave then some { status := .installing }
              else none) now)) := by
  rw [leaseWave, h.filterM_eq hwave, h.filterM_eq hwave]
  rfl

/-- The loop comes to the first wave that is not through. -/
theorem RolloutSound.startWaveFrom_eq (h : RolloutSound deployment) {front suffix : List (List String)}
    (now : Nat) (hwaves : deployment.waves = front ++ suffix) :
    startWaveFrom deployment now front.length suffix =
      match suffix.find? fun wave => !deployment.through wave with
      | none => .error "deployment has no runnable wave"
      | some wave => leaseWave deployment now
        (front.length + suffix.findIdx fun wave => !deployment.through wave) wave := by
  induction suffix generalizing front with
  | nil => rfl
  | cons wave suffix ih =>
    have hwave : wave ∈ deployment.waves := by simp [hwaves]
    rw [startWaveFrom, h.waveReady_eq hwave, List.find?_cons, List.findIdx_cons]
    cases hthrough : deployment.through wave with
    | true =>
      have hsplit : deployment.waves = front ++ [wave] ++ suffix := by
        rw [hwaves, List.append_assoc]
        rfl
      have hrest := ih hsplit
      rw [List.length_append, List.length_singleton] at hrest
      simp only [Bool.not_true, cond_false]
      rw [← Nat.add_assoc, Nat.add_right_comm, ← hrest]
      rfl
    | false => rfl

/-- What is written when a wave is started: the pending nodes of the first wave that is not through are installed. -/
theorem RolloutSound.started (h : RolloutSound deployment) {lease : DeploymentWaveLease}
    (hout : startNextWavePass now deployment = .ok (lease, some row)) :
    ∃ front wave suffix, deployment.waves = front ++ wave :: suffix ∧
      (∀ earlier ∈ front, deployment.through earlier = true) ∧
      row = deployment.restatus (fun item =>
        if item.nodeId ∈ deployment.withStatus .pending wave then some { status := .installing } else none) now := by
  unfold GpuFaultRecovery.startNextWavePass at hout
  split at hout
  · cases hout
  simp only at hout
  split at hout
  · cases hout
  have heq := h.startWaveFrom_eq now (List.nil_append deployment.waves).symm
  rw [List.length_nil] at heq
  rw [heq] at hout
  split at hout
  · cases hout
  rename_i wave hfound
  obtain ⟨-, front, suffix, hwaves, hbefore⟩ := List.find?_eq_some_iff_append.mp hfound
  rw [h.leaseWave_eq (List.mem_of_find?_eq_some hfound)] at hout
  split at hout
  · cases hout
  split at hout
  · cases hout
  split at hout
  · cases hout
  have hrow := Option.some.inj (Prod.mk.inj (Except.ok.inj hout)).2
  exact ⟨front, wave, suffix, hwaves, fun earlier hearlier => by simpa using hbefore earlier hearlier, hrow.symm⟩

theorem RolloutSound.restated_startNextWavePass (h : RolloutSound deployment) {lease : DeploymentWaveLease}
    (hout : startNextWavePass now deployment = .ok (lease, some row)) : Restated deployment row := by
  obtain ⟨front, wave, suffix, hwaves, hfront, rfl⟩ := h.started hout
  have hplace : deployment.waves[front.length]? = some wave := by simp [hwaves]
  refine restated_restatus (fun item hitem update hupdate hready => ?_) fun item hitem update hupdate hinst => ?_
  · split at hupdate
    · rename_i hin
      have hpending := (List.mem_filter.mp hin).2
      rw [FleetDeployment.byNode?_of_mem h.nodup hitem, hready] at hpending
      cases hpending
    · cases hupdate
  · split at hupdate
    · rename_i hin
      exact .inr (h.inFront hplace (List.mem_filter.mp hin).1 (h.readyBefore hwaves hfront))
    · cases hupdate

private theorem rolloutSound_newDeployment (request : ValidDeploymentRequest) (deploymentId : String)
    {waves : List (List String)} (hwaves : deploymentWaves request.toFleetDeploymentRequest = .ok waves)
    (agents : List AgentRecord) :
    RolloutSound (newDeployment request.toFleetDeploymentRequest deploymentId waves agents now) := by
  refine ⟨⟨request, rfl, hwaves, rfl, ?_⟩, fun node hnode => ?_, .inl rfl⟩
  · simp only [newDeployment, List.map_map]
    exact List.map_id _
  · obtain ⟨hmem, hinst⟩ := FleetDeployment.mem_installingNodes.mp hnode
    obtain ⟨nodeId, -, rfl⟩ := List.mem_map.mp hmem
    simp only at hinst
    split at hinst <;> cases hinst

private theorem createPass_eq_save {request : FleetDeploymentRequest} {deploymentId : String}
    {agents : List AgentRecord} {found : Option FleetDeployment} {outcome : Attempted FleetDeployment}
    (h : createPass request deploymentId agents now found = .ok outcome) :
    outcome = .stop ∨ ∃ waves, deploymentWaves request = .ok waves ∧
      outcome = .save (newDeployment request deploymentId waves agents now) := by
  cases hwaves : deploymentWaves request with
  | error message =>
    rw [createPass, hwaves] at h
    cases h
  | ok waves =>
    rw [createPass, hwaves] at h
    simp only [bind, Except.bind] at h
    cases found with
    | none => exact .inr ⟨waves, rfl, (Except.ok.inj h).symm⟩
    | some existing =>
      simp only at h
      split at h
      · cases h
      · exact .inl (Except.ok.inj h).symm

theorem RolloutSound.restated_fleetPass (h : RolloutSound deployment) {call : FleetCall} {env : FleetSurroundings}
    (hout : fleetPass call env (some deployment) = .ok (.swap row)) : Restated deployment row := by
  cases call with
  | create request deploymentId =>
    simp only [fleetPass] at hout
    rcases createPass_eq_save hout with hstop | ⟨waves, -, hsave⟩
    · cases hstop
    · cases hsave
  | updateNode nodeId update => exact h.restated_updateNodePass hout
  | cancel reason =>
    rw [← Attempted.swap.inj (Except.ok.inj hout)]
    exact restated_cancelPass deployment reason
  | retry => exact restated_retryPass (Except.ok.inj hout)
  | startNextWave =>
    simp only [fleetPass] at hout
    cases hpass : startNextWavePass env.now deployment with
    | error message =>
      rw [hpass] at hout
      cases hout
    | ok result =>
      obtain ⟨lease, started⟩ := result
      rw [hpass] at hout
      cases started with
      | none => cases hout
      | some started =>
        have hrow := Attempted.swap.inj (Except.ok.inj hout)
        rw [← hrow]
        exact h.restated_startNextWavePass hpass
  | reconcile listed record =>
    have hreconcile := Except.ok.inj hout
    cases hexpected : reconcileIdentity listed record with
    | none =>
      rw [hexpected] at hreconcile
      cases hreconcile
    | some expected =>
      rw [hexpected] at hreconcile
      exact restated_reconcilePass hreconcile

/-- Only a creation writes without a record, and it saves the record of a valid request. -/
private theorem fleetPass_eq_save {call : FleetCall} {env : FleetSurroundings} {found : Option FleetDeployment}
    (hout : fleetPass call env found = .ok (.save row)) : RolloutSound row := by
  cases call with
  | create request deploymentId =>
    simp only [fleetPass] at hout
    rcases createPass_eq_save hout with hstop | ⟨waves, hwaves, hsave⟩
    · cases hstop
    · rw [Attempted.save.inj hsave]
      exact rolloutSound_newDeployment request deploymentId hwaves env.agents
  | updateNode nodeId update =>
    cases found with
    | none => cases hout
    | some deployment =>
      rcases updateNodePass_eq_ok hout with hstop | ⟨-, -, -, -, hswap⟩
      · cases hstop
      · cases hswap
  | cancel reason => cases found <;> cases hout
  | retry =>
    cases found with
    | none => cases hout
    | some deployment =>
      have hretry := Except.ok.inj hout
      unfold retryPass at hretry
      split at hretry <;> cases hretry
  | startNextWave =>
    cases found with
    | none => cases hout
    | some deployment =>
      simp only [fleetPass] at hout
      cases hpass : startNextWavePass env.now deployment with
      | error message =>
        rw [hpass] at hout
        cases hout
      | ok result =>
        obtain ⟨lease, started⟩ := result
        rw [hpass] at hout
        cases started <;> cases hout
  | reconcile listed record =>
    cases found with
    | none => cases hout
    | some deployment =>
      have hreconcile := Except.ok.inj hout
      cases hexpected : reconcileIdentity listed record with
      | none =>
        rw [hexpected] at hreconcile
        cases hreconcile
      | some expected =>
        simp only [hexpected, Option.elim_some, reconcilePass] at hreconcile
        split at hreconcile <;> cases hreconcile

end Passes

/-! ### Every interleaving -/

theorem keeps_rolloutSound : KeptBy fleetAttempt RolloutSound where
  fresh call env row h := by
    have hpass := Attempted.settled_eq_swap.mp h
    cases call with
    | create request deploymentId =>
      simp only [fleetPass] at hpass
      rcases createPass_eq_save hpass with hstop | ⟨waves, -, hsave⟩
      · cases hstop
      · cases hsave
    | _ => cases hpass
  swapped call env old row hold h := hold.restated (hold.restated_fleetPass (Attempted.settled_eq_swap.mp h))
  saved call env found row h := fleetPass_eq_save (Attempted.settled_eq_save.mp h)

theorem rollouts_sound (l : List FleetInput) : AllRows RolloutSound (Run.exec fleetStep {} l) :=
  (rows_invariant keeps_rolloutSound allComputed_empty allRows_empty l).2

section Safety

variable {deployment : FleetDeployment}

theorem RolloutSound.place (h : RolloutSound deployment) {node : DeploymentNode} (hnode : node ∈ deployment.nodes) :
    ∃ (i : Nat) (wave : List String), deployment.waves[i]? = some wave ∧ node.nodeId ∈ wave := by
  have hmem := h.perm.symm.subset (List.mem_map_of_mem hnode)
  obtain ⟨wave, hwave, hin⟩ := List.mem_flatten.mp hmem
  obtain ⟨i, hi⟩ := List.mem_iff_getElem?.mp hwave
  exact ⟨i, wave, hi, hin⟩

private theorem RolloutSound.installing_together (h : RolloutSound deployment) {i : Nat} {wave : List String}
    (hi : deployment.waves[i]? = some wave) {node : DeploymentNode} (hnode : node ∈ deployment.installingNodes)
    (hin : node.nodeId ∈ wave) :
    (∀ other ∈ deployment.installingNodes, other.nodeId ∈ wave) ∧ deployment.ReadyBefore i := by
  refine ⟨fun other hother => ?_, fun j earlier hji hj => h.front node hnode i j wave earlier hi hin hji hj⟩
  obtain ⟨hnodeMem, hnodeInst⟩ := FleetDeployment.mem_installingNodes.mp hnode
  obtain ⟨hotherMem, hotherInst⟩ := FleetDeployment.mem_installingNodes.mp hother
  obtain ⟨i', wave', hi', hin'⟩ := h.place hotherMem
  rcases Nat.lt_trichotomy i i' with hii | rfl | hii
  · have hready := h.front other hother i' i wave' wave hi' hin' hii hi node hnodeMem hin
    rw [hnodeInst] at hready
    cases hready
  · rw [hi] at hi'
    rwa [Option.some.inj hi']
  · have hready := h.front node hnode i i' wave wave' hi hin hii hi' other hotherMem hin'
    rw [hotherInst] at hready
    cases hready

private theorem RolloutSound.installing_subperm (h : RolloutSound deployment) {wave : List String}
    (hall : ∀ node ∈ deployment.installingNodes, node.nodeId ∈ wave) :
    (deployment.installingNodes.map DeploymentNode.nodeId).Subperm wave := by
  have hnodup : (deployment.installingNodes.map DeploymentNode.nodeId).Nodup :=
    h.nodup.sublist (List.filter_sublist.map _)
  refine hnodup.subperm fun nodeId hmem => ?_
  obtain ⟨node, hnode, rfl⟩ := List.mem_map.mp hmem
  exact hall node hnode

/-- What a rollout may have down at once. -/
structure WithinCaps (request : FleetDeploymentRequest) (deployment : FleetDeployment) : Prop where
  total : deployment.installingNodes.length ≤ request.maxUnavailable
  domains : ∀ domain, deployment.installingNodes.countP (fun node => request.domain node.nodeId = domain) ≤
    request.maxUnavailablePerFailureDomain
  /-- A wave with a node that is being installed has them all, no more than its cap, and the waves before it are
  through. -/
  wave : ∀ (i : Nat) (wave : List String), deployment.waves[i]? = some wave →
    (∃ node ∈ deployment.installingNodes, node.nodeId ∈ wave) →
      (∀ node ∈ deployment.installingNodes, node.nodeId ∈ wave) ∧
        deployment.installingNodes.length ≤ request.waveCap i ∧ deployment.ReadyBefore i

private theorem RolloutSound.withinCaps (h : RolloutSound deployment) {request : ValidDeploymentRequest}
    (hwaves : deploymentWaves request.toFleetDeploymentRequest = .ok deployment.waves) :
    WithinCaps request.toFleetDeploymentRequest deployment := by
  have hcuts := ValidDeploymentRequest.cut_of_deploymentWaves hwaves
  have hwave : ∀ (i : Nat) (wave : List String), deployment.waves[i]? = some wave →
      (∃ node ∈ deployment.installingNodes, node.nodeId ∈ wave) →
        (∀ node ∈ deployment.installingNodes, node.nodeId ∈ wave) ∧
          deployment.installingNodes.length ≤ request.waveCap i ∧ deployment.ReadyBefore i := by
    rintro i wave hi ⟨node, hnode, hin⟩
    obtain ⟨hall, hbefore⟩ := h.installing_together hi hnode hin
    refine ⟨hall, ?_, hbefore⟩
    have hlen := (h.installing_subperm hall).length_le
    have hsize := (hcuts.capped hi).size
    rw [List.length_map] at hlen
    rw [capacity_take _ (List.getElem?_eq_some_iff.mp hi).1] at hsize
    exact hlen.trans hsize
  by_cases hempty : deployment.installingNodes = []
  · refine ⟨?_, fun domain => ?_, hwave⟩ <;> simp [hempty]
  · obtain ⟨node, hnode⟩ := List.exists_mem_of_ne_nil _ hempty
    obtain ⟨i, wave, hi, hin⟩ := h.place (FleetDeployment.mem_installingNodes.mp hnode).1
    obtain ⟨hall, hlen, -⟩ := hwave i wave hi ⟨node, hnode, hin⟩
    refine ⟨?_, fun domain => ?_, hwave⟩
    · rw [← capacity_take _ (List.getElem?_eq_some_iff.mp hi).1] at hlen
      exact hlen.trans (request.capacity_le _)
    · have hcount := (h.installing_subperm hall).countP_le (fun nodeId => decide (request.domain nodeId = domain))
      rw [List.countP_map] at hcount
      exact hcount.trans ((hcuts.capped hi).groups domain)

/-- However the calls of the replicas interleave, a rollout is one of a valid request, it never has more nodes down
than its `max_unavailable`, and it goes wave by wave within the caps of every request that plans these waves. -/
theorem rollout_within_caps (l : List FleetInput) (deploymentId : String)
    (h : (Run.exec fleetStep {} l).table.get? deploymentId = some deployment) :
    (∃ request : ValidDeploymentRequest, deployment.clusterId = request.clusterId ∧
      deploymentWaves request.toFleetDeploymentRequest = .ok deployment.waves ∧
      deployment.maxUnavailable = request.maxUnavailable ∧
      deployment.nodes.map DeploymentNode.nodeId = request.sortedNodes) ∧
    deployment.installingNodes.length ≤ deployment.maxUnavailable ∧
    ∀ request : ValidDeploymentRequest, deploymentWaves request.toFleetDeploymentRequest = .ok deployment.waves →
      WithinCaps request.toFleetDeploymentRequest deployment := by
  have hsound := rollouts_sound l deploymentId deployment h
  obtain ⟨request, -, hwaves, hmax, -⟩ := hsound.planned
  have htotal := (hsound.withinCaps hwaves).total
  rw [← hmax] at htotal
  exact ⟨hsound.planned, htotal, fun other hother => hsound.withinCaps hother⟩

end Safety

/-! ### A rollout in two waves -/

def rolloutBuild : AgentBuild where
  agentVersion := "2.0"
  artifactSha256 := "aa"
  policyVersion := "p1"
  runtimeProfileVersion := "r1"
  configDigest := "cc"

def rolloutRequest : ValidDeploymentRequest where
  clusterId := "c1"
  nodeIds := ["n1", "n2", "n3"]
  desired := rolloutBuild
  maxUnavailable := 2
  firstWaveMaxUnavailable := some 1
  fields := by decide
  nodes := by rfl

def rolledOutAgent (nodeId : String) : AgentRecord where
  clusterId := "c1"
  nodeId := nodeId
  endpoint := "https://agent:9000"
  build := rolloutBuild
  firstSeenAt := 0
  lastSeenAt := 9
  leaseExpiresAt := some 100

def createdRollout : FleetDeployment :=
  newDeployment rolloutRequest.toFleetDeploymentRequest "d1" [["n1"], ["n2", "n3"]] [] 5

def fleetCalled (number : Nat) (call : FleetCall) (agents : List AgentRecord) (now : Nat) : List FleetInput :=
  [.start number "d1" call 5, .read number ⟨agents, now⟩, .write number]

/-- The first wave comes back, and two replicas start the second: the one that comes too late finds it started. Then
one of its nodes comes back. -/
def rolloutHistory : List FleetInput :=
  fleetCalled 0 (.create rolloutRequest "d1") [] 5 ++ fleetCalled 1 .startNextWave [] 10 ++
    fleetCalled 2 (.reconcile createdRollout (rolledOutAgent "n1")) [rolledOutAgent "n1"] 20 ++
    [.start 3 "d1" .startNextWave 5, .start 4 "d1" .startNextWave 5, .read 3 ⟨[], 30⟩, .read 4 ⟨[], 31⟩, .write 3,
      .write 4, .read 4 ⟨[], 32⟩] ++
    fleetCalled 5 (.reconcile createdRollout (rolledOutAgent "n2")) [rolledOutAgent "n1", rolledOutAgent "n2"] 40

/-- The record then: one node is still being installed. -/
def halfRolledOut : FleetDeployment :=
  { createdRollout with
    nodes := [⟨"n1", .ready, none, 20⟩, ⟨"n2", .ready, none, 40⟩, ⟨"n3", .installing, none, 30⟩]
    status := .inProgress
    updatedAt := 40 }

theorem exec_rolloutHistory : (Run.exec fleetStep {} rolloutHistory).table.get? "d1" = some halfRolledOut := by
  decide +kernel

theorem rollout_within_caps_two_waves :
    halfRolledOut.installingNodes.map DeploymentNode.nodeId = ["n3"] ∧
      WithinCaps rolloutRequest.toFleetDeploymentRequest halfRolledOut :=
  ⟨by decide, (rollout_within_caps rolloutHistory "d1" exec_rolloutHistory).2.2 rolloutRequest (by rfl)⟩

end GpuFaultRecovery
