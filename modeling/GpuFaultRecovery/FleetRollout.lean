import Mathlib.Data.List.Dedup
import GpuFaultRecovery.FleetDeploymentRun

/-!
# Rollouts that come to their end

As long as no node fails, the next wave of a rollout can be leased: the refusals of `start_next_wave` are for rollouts
that are through or have failed nodes. If the nodes of each lease come back with the build, a rollout is through after
one round for each wave, and one more if it starts in the middle of a wave.
-/

namespace GpuFaultRecovery

open Optimistic

variable {deployment row : FleetDeployment} {now : Nat} {agents : List AgentRecord}

/-! ### What is through stays through -/

/-- A later record of the same rollout, in which what was `READY` still is. -/
structure Onward (deployment row : FleetDeployment) : Prop where
  waves : row.waves = deployment.waves
  desired : row.desired = deployment.desired
  maxUnavailable : row.maxUnavailable = deployment.maxUnavailable
  ids : row.nodes.map DeploymentNode.nodeId = deployment.nodes.map DeploymentNode.nodeId
  nodes : ∀ node ∈ row.nodes, ∃ item ∈ deployment.nodes, node.nodeId = item.nodeId ∧
    (item.status = .ready → node.status = .ready)

private theorem Onward.refl (deployment : FleetDeployment) : Onward deployment deployment :=
  ⟨rfl, rfl, rfl, rfl, fun node hnode => ⟨node, hnode, rfl, id⟩⟩

private theorem Restated.onward (h : Restated deployment row) : Onward deployment row := by
  obtain ⟨choose, now, hwaves, hdesired, -, hmax, hnodes, hready, -⟩ := h.change
  refine ⟨hwaves, hdesired, hmax, by rw [hnodes, FleetDeployment.map_nodeId_restatus], fun node hnode => ?_⟩
  rw [hnodes] at hnode
  obtain ⟨item, hitem, hid, hstatus⟩ := FleetDeployment.mem_restatus hnode
  refine ⟨item, hitem, hid, fun hitemReady => ?_⟩
  rcases hstatus with ⟨-, hsame⟩ | ⟨update, hupdate, hsame⟩
  · rw [hsame, hitemReady]
  · rw [hsame, hready item hitem update hupdate hitemReady]

private theorem Onward.trans {mid : FleetDeployment} (h : Onward deployment mid) (h' : Onward mid row) :
    Onward deployment row where
  waves := h'.waves.trans h.waves
  desired := h'.desired.trans h.desired
  maxUnavailable := h'.maxUnavailable.trans h.maxUnavailable
  ids := h'.ids.trans h.ids
  nodes node hnode := by
    obtain ⟨item, hitem, hid, hready⟩ := h'.nodes node hnode
    obtain ⟨first, hfirst, hid', hready'⟩ := h.nodes item hitem
    exact ⟨first, hfirst, hid.trans hid', fun hfirstReady => hready (hready' hfirstReady)⟩

/-- While a record is neither deleted nor created anew, its plan stands and no node is taken back from `READY`,
however the calls of the replicas interleave. -/
theorem rollout_never_goes_back (l later : List FleetInput) (deploymentId : String)
    (h : (Run.exec fleetStep {} l).table.get? deploymentId = some deployment)
    (halone : Run.Along fleetStep (LeavesAlone deploymentId) (Run.exec fleetStep {} l) later) :
    ∃ row, (Run.exec fleetStep {} (l ++ later)).table.get? deploymentId = some row ∧ Onward deployment row := by
  obtain ⟨hcomputed, hsound⟩ := rows_invariant keeps_rolloutSound allComputed_empty allRows_empty l
  rw [Run.exec_append]
  refine row_related Onward.refl (fun _ _ _ => Onward.trans) keeps_rolloutSound ?_ hcomputed hsound h halone
  exact fun call env old row hold _ hout => (hold.restated_fleetPass (Attempted.settled_eq_swap.mp hout)).onward

/-- A record whose rollout goes on: it was not cancelled and no node has failed. -/
structure Rolling (deployment : FleetDeployment) : Prop where
  sound : RolloutSound deployment
  status : deployment.status = deploymentStatus deployment.nodes
  unfailed : ∀ node ∈ deployment.nodes, node.status ≠ .failed

/-! ### The next lease -/

private theorem Rolling.nodes_ne_nil (h : Rolling deployment) : deployment.nodes ≠ [] := by
  obtain ⟨request, -, -, -, hnodes⟩ := h.sound.planned
  have hfields := request.fields
  simp only [FleetDeploymentRequest.fieldsOk, Bool.and_eq_true, Bool.not_eq_true', List.isEmpty_eq_false_iff]
    at hfields
  intro hempty
  rw [hempty, List.map_nil] at hnodes
  have hperm := request.sortedNodes_perm
  rw [← hnodes] at hperm
  exact hfields.1.1.1 hperm.nil_eq.symm

private theorem RolloutSound.through_of_ready (h : RolloutSound deployment) {wave : List String}
    (hwave : wave ∈ deployment.waves)
    (hready : ∀ node ∈ deployment.nodes, node.nodeId ∈ wave → node.status = .ready) :
    deployment.through wave = true := by
  refine List.all_eq_true.mpr fun nodeId hin => ?_
  obtain ⟨node, hnode, rfl, hby, -⟩ := h.byNode_of_mem hwave hin
  rw [hby, hready node hnode hin]
  rfl

/-- A record is `SUCCEEDED` exactly if every wave is through. -/
private theorem Rolling.succeeded_iff (h : Rolling deployment) :
    deployment.status = .succeeded ↔ deployment.waves.find? (fun wave => !deployment.through wave) = none := by
  have hstatus : deployment.status = .succeeded ↔ ∀ node ∈ deployment.nodes, node.status = .ready := by
    rw [h.status, deploymentStatus, if_neg]
    · constructor
      · intro hsucceeded node hnode
        split at hsucceeded
        · rename_i hall
          simpa using List.all_eq_true.mp hall.2 node hnode
        · split at hsucceeded <;> cases hsucceeded
      · intro hall
        rw [if_pos ⟨h.nodes_ne_nil, by simpa using hall⟩]
    · simpa using h.unfailed
  rw [hstatus, List.find?_eq_none]
  constructor
  · intro hall wave hwave
    simp [h.sound.through_of_ready hwave fun node hnode _ => hall node hnode]
  · intro hall node hnode
    obtain ⟨i, wave, hi, hin⟩ := h.sound.place hnode
    exact h.sound.ready_of_through (by simpa using hall wave (List.mem_of_getElem? hi)) hnode hin

/-- The nodes that are being installed are those of the first wave that is not through. -/
private theorem RolloutSound.installing_in_first (h : RolloutSound deployment) {front suffix : List (List String)}
    {wave : List String} (hwaves : deployment.waves = front ++ wave :: suffix)
    (hfront : ∀ earlier ∈ front, deployment.through earlier = true) (hwave : deployment.through wave = false)
    {node : DeploymentNode} (hnode : node ∈ deployment.installingNodes) : node.nodeId ∈ wave := by
  have hplace : deployment.waves[front.length]? = some wave := by simp [hwaves]
  obtain ⟨hmem, hinst⟩ := FleetDeployment.mem_installingNodes.mp hnode
  obtain ⟨i, wave', hi, hin⟩ := h.place hmem
  rcases Nat.lt_trichotomy i front.length with hlt | rfl | hgt
  · have hready := h.readyBefore hwaves hfront i wave' hlt hi node hmem hin
    rw [hinst] at hready
    cases hready
  · rw [hplace] at hi
    rwa [Option.some.inj hi]
  · -- a node of a later wave is only installed when this one is through
    have hall := h.front node hnode i front.length wave' wave hi hin hgt hplace
    have hthrough := h.through_of_ready (List.mem_of_getElem? hplace) hall
    rw [hwave] at hthrough
    cases hthrough

private theorem RolloutSound.mem_withStatus (h : RolloutSound deployment) {wave : List String} {node : DeploymentNode}
    {status : DeploymentNodeStatus} (hnode : node ∈ deployment.nodes) :
    node.nodeId ∈ deployment.withStatus status wave ↔ node.nodeId ∈ wave ∧ node.status = status := by
  rw [FleetDeployment.withStatus, List.mem_filter, FleetDeployment.byNode?_of_mem h.nodup hnode, beq_iff_eq,
    Option.some.injEq]

structure NextLease (now : Nat) (deployment : FleetDeployment) (lease : DeploymentWaveLease)
    (started : FleetDeployment) : Prop where
  /-- The wave that is leased: the first that is not through. -/
  wave : ∃ front wave suffix, deployment.waves = front ++ wave :: suffix ∧
    (∀ earlier ∈ front, deployment.through earlier = true) ∧ deployment.through wave = false ∧
    lease.waveIndex = front.length ∧ lease.nodeIds ⊆ wave ∧
    (deployment.installingNodes = [] →
      ∀ node ∈ deployment.nodes, node.nodeId ∈ wave → node.status ≠ .ready → node.nodeId ∈ lease.nodeIds)
  nonempty : lease.nodeIds ≠ []
  /-- Just the leased nodes are being installed once the lease is out. -/
  installing : ∀ node ∈ started.nodes, node.status = .installing ↔ node.nodeId ∈ lease.nodeIds

/-- The loop of `start_next_wave` comes to a wave. -/
private theorem Rolling.startNextWavePass_eq (h : Rolling deployment) (hrest : deployment.status ≠ .succeeded)
    (now : Nat) :
    ∃ front wave suffix, deployment.waves = front ++ wave :: suffix ∧
      (∀ earlier ∈ front, deployment.through earlier = true) ∧ deployment.through wave = false ∧
      startNextWavePass now deployment = leaseWave deployment now front.length wave := by
  cases hfound : deployment.waves.find? fun wave => !deployment.through wave with
  | none => exact absurd (h.succeeded_iff.mpr hfound) hrest
  | some wave =>
    obtain ⟨hthrough, front, suffix, hwaves, hbefore⟩ := List.find?_eq_some_iff_append.mp hfound
    rw [Bool.not_eq_true'] at hthrough
    have hfront : ∀ earlier ∈ front, deployment.through earlier = true := fun earlier hearlier => by
      simpa using hbefore earlier hearlier
    refine ⟨front, wave, suffix, hwaves, hfront, hthrough, ?_⟩
    have hindex : deployment.waves.findIdx (fun wave => !deployment.through wave) = front.length := by
      have hlength : front.findIdx (fun wave => !deployment.through wave) = front.length :=
        List.findIdx_eq_length_of_false (by simpa using hfront)
      rw [hwaves, List.findIdx_append, hlength, if_neg (Nat.lt_irrefl _), List.findIdx_cons, hthrough]
      exact Nat.zero_add _
    have heq := h.sound.startWaveFrom_eq now (List.nil_append deployment.waves).symm
    rw [hfound, hindex, List.length_nil, Nat.zero_add] at heq
    have hnone : (deployment.nodes.filter fun item => item.status == .failed) = [] := by
      simpa using h.unfailed
    rw [startNextWavePass, if_neg hrest, hnone]
    simpa using heq

/-- While nothing is being installed, a wave that is not through is pending but for its `READY` nodes, and fits. -/
private theorem Rolling.pending_fits (h : Rolling deployment)
    (hnone : ∀ node ∈ deployment.nodes, node.status ≠ .installing)
    {i : Nat} {wave : List String} (hi : deployment.waves[i]? = some wave) :
    (∀ node ∈ deployment.nodes, node.nodeId ∈ wave → node.status ≠ .ready →
        node.nodeId ∈ deployment.withStatus .pending wave) ∧
      deployment.installingCount + (deployment.withStatus .pending wave).length ≤ deployment.maxUnavailable := by
  refine ⟨fun node hnode hin hready => (h.sound.mem_withStatus hnode).mpr ⟨hin, ?_⟩, ?_⟩
  · have hinst := hnone node hnode
    have hfailed := h.unfailed node hnode
    cases hstatus : node.status <;> simp_all
  · have hcount : deployment.installingCount = 0 := by
      refine List.countP_eq_zero.mpr fun nodeId hin => ?_
      obtain ⟨node, hnode, rfl⟩ := List.mem_map.mp (List.mem_dedup.mp hin)
      rw [FleetDeployment.byNode?_of_mem h.sound.nodup hnode]
      simpa using hnone node hnode
    obtain ⟨request, -, hplan, hmax, -⟩ := h.sound.planned
    have hsize := ((ValidDeploymentRequest.cut_of_deploymentWaves hplan).capped hi).size
    rw [hcount, Nat.zero_add, hmax]
    exact (List.length_filter_le _ _).trans (hsize.trans (request.capacity_le _))

private theorem Rolling.startNextWavePass (h : Rolling deployment) (hrest : deployment.status ≠ .succeeded)
    (now : Nat) :
    ∃ lease started, startNextWavePass now deployment = .ok (lease, started) ∧
      NextLease now deployment lease (started.getD deployment) := by
  obtain ⟨front, wave, suffix, hwaves, hfront, hthrough, hpass⟩ := h.startNextWavePass_eq hrest now
  have hplace : deployment.waves[front.length]? = some wave := by simp [hwaves]
  have hmem := List.mem_of_getElem? hplace
  have hinstalling : ∀ node ∈ deployment.nodes, node.status = .installing → node.nodeId ∈ wave :=
    fun node hnode hinst =>
    h.sound.installing_in_first hwaves hfront hthrough (FleetDeployment.mem_installingNodes.mpr ⟨hnode, hinst⟩)
  rw [hpass, h.sound.leaseWave_eq hmem]
  by_cases hsome : deployment.withStatus .installing wave = []
  · have hnone : ∀ node ∈ deployment.nodes, node.status ≠ .installing := by
      intro node hnode hinst
      have hin : node.nodeId ∈ deployment.withStatus .installing wave :=
        (h.sound.mem_withStatus hnode).mpr ⟨hinstalling node hnode hinst, hinst⟩
      rw [hsome] at hin
      cases hin
    obtain ⟨hpending, hfits⟩ := h.pending_fits hnone hplace
    have hne : deployment.withStatus .pending wave ≠ [] := by
      obtain ⟨nodeId, hin, hnot⟩ := List.all_eq_false.mp hthrough
      obtain ⟨node, hnode, rfl, hby, -⟩ := h.sound.byNode_of_mem hmem hin
      have hleft := hpending node hnode hin (by simpa [hby] using hnot)
      exact List.ne_nil_of_mem hleft
    rw [if_neg (not_not.mpr hsome), if_neg hne, if_neg (Nat.not_lt.mpr hfits)]
    refine ⟨_, _, rfl,
      ⟨⟨front, wave, suffix, hwaves, hfront, hthrough, rfl, List.filter_sublist.subset, fun _ => hpending⟩,
      hne, fun node hnode => ?_⟩⟩
    obtain ⟨item, hitem, hid, hstatus⟩ := FleetDeployment.mem_restatus hnode
    rw [hid]
    rcases hstatus with ⟨hchoose, hsame⟩ | ⟨update, hchoose, hsame⟩
    · split at hchoose
      · cases hchoose
      · rename_i hnot
        exact iff_of_false (hsame ▸ hnone item hitem) hnot
    · split at hchoose
      · rename_i hin
        rw [← Option.some.inj hchoose] at hsame
        exact iff_of_true hsame hin
      · cases hchoose
  · -- the wave is handed out again
    rw [if_pos hsome]
    refine ⟨_, _, rfl,
      ⟨⟨front, wave, suffix, hwaves, hfront, hthrough, rfl, List.filter_sublist.subset, fun hempty => ?_⟩,
      hsome, fun node hnode => ?_⟩⟩
    · obtain ⟨nodeId, hin⟩ := List.exists_mem_of_ne_nil _ hsome
      obtain ⟨node, hnode, rfl, -, -⟩ := h.sound.byNode_of_mem hmem (List.mem_filter.mp hin).1
      have hinst := ((h.sound.mem_withStatus hnode).mp hin).2
      have hlist := FleetDeployment.mem_installingNodes.mpr ⟨hnode, hinst⟩
      rw [hempty] at hlist
      cases hlist
    · exact ⟨fun hinst => (h.sound.mem_withStatus hnode).mpr ⟨hinstalling node hnode hinst, hinst⟩,
        fun hin => ((h.sound.mem_withStatus hnode).mp hin).2⟩

/-! ### Rounds -/

/-- One round of a rollout: the next wave is leased, and a heartbeat then reconciles the record with the agents
listed. -/
def rolloutRound (now : Nat) (agents : List AgentRecord) (deployment : FleetDeployment) :
    Except String FleetDeployment := do
  let (_, started) ← startNextWavePass now deployment
  let current := started.getD deployment
  match reconcilePass current.desired.identity agents now current with
  | .swap row => .ok row
  | _ => .ok current

def rolloutRounds : List (Nat × List AgentRecord) → FleetDeployment → Except String FleetDeployment
  | [], deployment => .ok deployment
  | (now, agents) :: rounds, deployment =>
    if deployment.status = .succeeded then .ok deployment
    else rolloutRound now agents deployment >>= rolloutRounds rounds

/-- In every round the nodes of the lease come back with the build. -/
def ComeBack : List (Nat × List AgentRecord) → FleetDeployment → Prop
  | [], _ => True
  | (now, agents) :: rounds, deployment =>
    (∀ lease started, startNextWavePass now deployment = .ok (lease, started) →
      ∀ nodeId ∈ lease.nodeIds, runsBuild agents deployment.desired.identity now nodeId = true) ∧
    ∀ row, rolloutRound now agents deployment = .ok row → ComeBack rounds row

private theorem Onward.through (h : Onward deployment row) (hsound : RolloutSound deployment)
    (hrow : RolloutSound row) {wave : List String} (hwave : wave ∈ deployment.waves)
    (hthrough : deployment.through wave = true) :
    row.through wave = true := by
  refine hrow.through_of_ready (h.waves ▸ hwave) fun node hnode hin => ?_
  obtain ⟨item, hitem, hid, hready⟩ := h.nodes node hnode
  exact hready (hsound.ready_of_through hthrough hitem (hid ▸ hin))

/-- How far a rollout is from its end: the waves that are not through, and one more while nodes are being
installed. -/
def roundsLeft (deployment : FleetDeployment) : Nat :=
  deployment.waves.countP (fun wave => !deployment.through wave) + if deployment.installingNodes = [] then 0 else 1

private theorem Rolling.onward_startNextWavePass (h : Rolling deployment) {lease : DeploymentWaveLease}
    {started : Option FleetDeployment}
    (hpass : GpuFaultRecovery.startNextWavePass now deployment = .ok (lease, started)) :
    Rolling (started.getD deployment) ∧ Onward deployment (started.getD deployment) := by
  cases started with
  | none => exact ⟨h, Onward.refl deployment⟩
  | some row =>
    obtain ⟨front, wave, suffix, -, -, hrow⟩ := h.sound.started hpass
    have hrestated := h.sound.restated_startNextWavePass hpass
    refine ⟨⟨h.sound.restated hrestated, by rw [Option.getD_some, hrow]; rfl, fun node hnode => ?_⟩, hrestated.onward⟩
    rw [Option.getD_some, hrow] at hnode
    obtain ⟨item, hitem, -, hstatus⟩ := FleetDeployment.mem_restatus hnode
    rcases hstatus with ⟨-, hsame⟩ | ⟨update, hupdate, hsame⟩
    · rw [hsame]
      exact h.unfailed item hitem
    · split at hupdate
      · rw [hsame, ← Option.some.inj hupdate]
        simp
      · cases hupdate

/-- What a reconciliation writes: a node whose agent is listed with the build comes up, the others stay. -/
private theorem reconcilePass_eq_swap {expected : AgentIdentity}
    (hout : reconcilePass expected agents now deployment = .swap row) :
    row.status = deploymentStatus row.nodes ∧ ∀ node ∈ row.nodes, ∃ item ∈ deployment.nodes,
      node.nodeId = item.nodeId ∧
      ((runsBuild agents expected now item.nodeId && item.status != .ready) = true ∧ node.status = .ready ∨
        (runsBuild agents expected now item.nodeId && item.status != .ready) = false ∧
          node.status = item.status) := by
  unfold reconcilePass at hout
  simp only at hout
  split at hout
  · have hrow := (Attempted.swap.inj hout).symm
    refine ⟨by rw [hrow]; rfl, fun node hnode => ?_⟩
    rw [hrow] at hnode
    obtain ⟨item, hitem, hid, hstatus⟩ := FleetDeployment.mem_restatus hnode
    refine ⟨item, hitem, hid, ?_⟩
    rcases hstatus with ⟨hchoose, hsame⟩ | ⟨update, hupdate, hsame⟩
    · split at hchoose
      · cases hchoose
      · rename_i hnot
        exact .inr ⟨Bool.eq_false_iff.mpr hnot, hsame⟩
    · split at hupdate
      · rename_i hup
        exact .inl ⟨hup, by rw [hsame, ← Option.some.inj hupdate]⟩
      · cases hupdate
  · cases hout

/-- What a reconciliation makes of a rollout: it goes on, and every node whose agent is listed with the build is
`READY`. -/
private theorem Rolling.reconcilePass (h : Rolling deployment) (agents : List AgentRecord) (now : Nat)
    (expected : AgentIdentity) :
    ∃ row, (match GpuFaultRecovery.reconcilePass expected agents now deployment with
        | .swap row => (Except.ok row : Except String FleetDeployment)
        | _ => .ok deployment) = .ok row ∧ Rolling row ∧ Onward deployment row ∧
      (∀ node ∈ row.nodes, runsBuild agents expected now node.nodeId = true → node.status = .ready) ∧
      ∀ node ∈ row.nodes, ∃ item ∈ deployment.nodes, node.nodeId = item.nodeId ∧
        (node.status = .ready ∨ node.status = item.status) := by
  cases hout : GpuFaultRecovery.reconcilePass expected agents now deployment with
  | swap row =>
    have hrestated := restated_reconcilePass hout
    obtain ⟨hderived, horigin⟩ := reconcilePass_eq_swap hout
    refine ⟨row, rfl, ⟨h.sound.restated hrestated, hderived, fun node hnode => ?_⟩, hrestated.onward,
      fun node hnode hruns => ?_, fun node hnode => ?_⟩
    · obtain ⟨item, hitem, -, ⟨-, hstatus⟩ | ⟨-, hstatus⟩⟩ := horigin node hnode
      · simp [hstatus]
      · rw [hstatus]
        exact h.unfailed item hitem
    · obtain ⟨item, hitem, hid, ⟨-, hstatus⟩ | ⟨hnot, hstatus⟩⟩ := horigin node hnode
      · exact hstatus
      · rw [hid] at hruns
        rw [hruns, Bool.true_and, bne_eq_false_iff_eq] at hnot
        rw [hstatus, hnot]
    · obtain ⟨item, hitem, hid, ⟨-, hstatus⟩ | ⟨-, hstatus⟩⟩ := horigin node hnode
      · exact ⟨item, hitem, hid, .inl hstatus⟩
      · exact ⟨item, hitem, hid, .inr hstatus⟩
  | save row =>
    unfold GpuFaultRecovery.reconcilePass at hout
    simp only at hout
    split at hout <;> cases hout
  | stop =>
    -- nothing to write: whoever runs the build is `READY` already
    refine ⟨deployment, rfl, h, Onward.refl deployment, fun node hnode hruns => ?_,
      fun node hnode => ⟨node, hnode, rfl, .inr rfl⟩⟩
    unfold GpuFaultRecovery.reconcilePass at hout
    simp only at hout
    split at hout
    · cases hout
    · rename_i hnone
      have hnot := List.any_eq_false.mp (Bool.eq_false_iff.mpr hnone) node hnode
      simpa [hruns] using hnot

/-- A round brings the end nearer. -/
private theorem Rolling.round (h : Rolling deployment) (hrest : deployment.status ≠ .succeeded)
    (hback : ∀ lease started, GpuFaultRecovery.startNextWavePass now deployment = .ok (lease, started) →
      ∀ nodeId ∈ lease.nodeIds, runsBuild agents deployment.desired.identity now nodeId = true) :
    ∃ row, rolloutRound now agents deployment = .ok row ∧ Rolling row ∧ roundsLeft row < roundsLeft deployment := by
  obtain ⟨lease, started, hpass, hlease⟩ := h.startNextWavePass hrest now
  obtain ⟨hstarted, honward⟩ := h.onward_startNextWavePass hpass
  obtain ⟨row, hrow, hrolling, honward', hup, horigin⟩ :=
    hstarted.reconcilePass agents now (started.getD deployment).desired.identity
  rw [honward.desired] at hup
  have hall := honward.trans honward'
  have hbackRow : ∀ node ∈ row.nodes, node.nodeId ∈ lease.nodeIds → node.status = .ready := fun node hnode hin =>
    hup node hnode (hback lease started hpass node.nodeId hin)
  have hnone : row.installingNodes = [] := by
    refine List.eq_nil_iff_forall_not_mem.mpr fun node hnode => ?_
    obtain ⟨hmem, hinst⟩ := FleetDeployment.mem_installingNodes.mp hnode
    obtain ⟨item, hitem, hid, hready | hsame⟩ := horigin node hmem
    · rw [hinst] at hready
      cases hready
    · have hin := (hlease.installing item hitem).mp (hsame ▸ hinst)
      have hready := hbackRow node hmem (hid ▸ hin)
      rw [hinst] at hready
      cases hready
  have hless : ∀ waves : List (List String), waves ⊆ deployment.waves →
      waves.countP (fun wave => !row.through wave) ≤ waves.countP (fun wave => !deployment.through wave) := by
    intro waves hsub
    refine List.countP_mono_left fun wave hwave hnot => ?_
    cases hthrough : deployment.through wave with
    | false => rfl
    | true =>
      rw [hall.through h.sound hrolling.sound (hsub hwave) hthrough] at hnot
      cases hnot
  refine ⟨row, ?_, hrolling, ?_⟩
  · rw [rolloutRound, hpass]
    exact hrow
  · rw [roundsLeft, roundsLeft, if_pos hnone, hall.waves]
    by_cases hinst : deployment.installingNodes = []
    · -- the whole wave is leased and comes back
      obtain ⟨front, wave, suffix, hwaves, -, hthrough, -, -, hleft⟩ := hlease.wave
      have hwave : wave ∈ deployment.waves := by simp [hwaves]
      have hdone : row.through wave = true := by
        refine hrolling.sound.through_of_ready (hall.waves ▸ hwave) fun node hnode hin => ?_
        obtain ⟨item, hitem, hid, hready⟩ := hall.nodes node hnode
        by_cases hitemReady : item.status = .ready
        · exact hready hitemReady
        · exact hbackRow node hnode (hid ▸ hleft hinst item hitem (hid ▸ hin) hitemReady)
      have hfront := hless front (by simp [hwaves])
      have hsuffix := hless suffix (by rw [hwaves]; exact fun a ha => by simp [ha])
      rw [if_pos hinst, hwaves]
      simp only [List.countP_append, List.countP_cons, hdone, hthrough, Bool.not_true, Bool.not_false,
        Bool.false_eq_true, if_false, if_true]
      omega
    · have hle := hless deployment.waves (List.Subset.refl _)
      rw [if_neg hinst]
      omega

private theorem Rolling.rounds {rounds : List (Nat × List AgentRecord)} (h : Rolling deployment)
    (hback : ComeBack rounds deployment) (hleft : roundsLeft deployment ≤ rounds.length) :
    ∃ row, rolloutRounds rounds deployment = .ok row ∧ row.status = .succeeded := by
  induction rounds generalizing deployment with
  | nil =>
    refine ⟨deployment, rfl, h.succeeded_iff.mpr ?_⟩
    have hzero : deployment.waves.countP (fun wave => !deployment.through wave) = 0 := by
      rw [roundsLeft, List.length_nil] at hleft
      omega
    exact List.find?_eq_none.mpr (List.countP_eq_zero.mp hzero)
  | cons round rounds ih =>
    obtain ⟨now, agents⟩ := round
    by_cases hdone : deployment.status = .succeeded
    · exact ⟨deployment, by rw [rolloutRounds, if_pos hdone], hdone⟩
    · obtain ⟨row, hrow, hrolling, hless⟩ := h.round hdone hback.1
      rw [List.length_cons] at hleft
      obtain ⟨last, hlast, hsucceeded⟩ := ih hrolling (hback.2 row hrow) (by omega)
      refine ⟨last, ?_, hsucceeded⟩
      rw [rolloutRounds, if_neg hdone, hrow]
      exact hlast

/-- A rollout that is not `FAILED` is never stuck: until it is through, the next wave is leased, to at least one node,
and it is through after a round for each of its waves and one more, if the nodes of every lease come back. -/
theorem rollout_completes (l : List FleetInput) (deploymentId : String)
    (h : (Run.exec fleetStep {} l).table.get? deploymentId = some deployment)
    (hstatus : deployment.status ≠ .failed) :
    (deployment.status ≠ .succeeded → ∀ now, ∃ lease started,
      startNextWavePass now deployment = .ok (lease, started) ∧
        NextLease now deployment lease (started.getD deployment)) ∧
    ∀ rounds, ComeBack rounds deployment → deployment.waves.length < rounds.length →
      ∃ row, rolloutRounds rounds deployment = .ok row ∧ row.status = .succeeded := by
  have hsound := rollouts_sound l deploymentId deployment h
  have hderived := hsound.status.resolve_right hstatus
  have hunfailed : ∀ node ∈ deployment.nodes, node.status ≠ .failed := by
    intro node hnode hfailed
    have hany : deployment.nodes.any (fun item => item.status == .failed) = true :=
      List.any_eq_true.mpr ⟨node, hnode, by simp [hfailed]⟩
    rw [hderived, deploymentStatus, if_pos hany] at hstatus
    exact hstatus rfl
  have hrolling : Rolling deployment := ⟨hsound, hderived, hunfailed⟩
  refine ⟨fun hrest now => hrolling.startNextWavePass hrest now, fun rounds hback hrounds => hrolling.rounds hback ?_⟩
  have hcount := List.countP_le_length (p := fun wave => !deployment.through wave) (l := deployment.waves)
  rw [roundsLeft]
  split <;> omega

/-! ### The rollout in two waves -/

private def allRolledOut : List AgentRecord := ["n1", "n2", "n3"].map rolledOutAgent

theorem rollout_completes_two_waves :
    (∃ lease started, startNextWavePass 50 halfRolledOut = .ok (lease, started) ∧
      NextLease 50 halfRolledOut lease (started.getD halfRolledOut)) ∧
    ∃ row, rolloutRounds [(50, allRolledOut), (51, allRolledOut), (52, allRolledOut)] halfRolledOut = .ok row ∧
      row.status = .succeeded := by
  obtain ⟨hlease, hrounds⟩ := rollout_completes rolloutHistory "d1" exec_rolloutHistory (by decide)
  refine ⟨hlease (by decide) 50, hrounds _ ⟨fun lease started hpass => ?_, fun row hrow => ?_⟩ (by decide)⟩
  · cases hpass
    decide
  · cases hrow
    refine ⟨fun lease started hpass => ?_, fun row hrow => ?_⟩
    · cases hpass
    · cases hrow

/-- While one replica reports the last node as failed, another hears it again. -/
private def lastNodeReported : List FleetInput :=
  [.start 6 "d1" (.updateNode "n3" { status := .failed, reason := some "timeout" }) 5,
    .start 7 "d1" (.reconcile halfRolledOut (rolledOutAgent "n3")) 16, .read 6 ⟨[], 60⟩,
      .read 7 ⟨allRolledOut, 61⟩, .write 6,
    .write 7, .read 7 ⟨allRolledOut, 62⟩, .write 7]

theorem rollout_never_goes_back_two_waves :
    ∃ row, (Run.exec fleetStep {} (rolloutHistory ++ lastNodeReported)).table.get? "d1" = some row ∧
      Onward halfRolledOut row := by
  refine rollout_never_goes_back rolloutHistory lastNodeReported "d1" exec_rolloutHistory
    ⟨⟨by simp, by simp⟩, ⟨by simp, by simp⟩, ⟨by simp, by simp⟩, ⟨by simp, by simp⟩, ⟨by simp, ?_⟩, ⟨by simp, ?_⟩,
      ⟨by simp, by simp⟩, ⟨by simp, ?_⟩, trivial⟩
  -- the writes are swaps
  all_goals
    rintro _ row ⟨⟩ hsaving
    cases hsaving

end GpuFaultRecovery
