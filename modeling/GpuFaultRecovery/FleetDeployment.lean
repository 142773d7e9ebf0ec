import Mathlib.Data.List.Sort
import Mathlib.Data.String.Basic
import GpuFaultRecovery.AgentRegistry
import GpuFaultRecovery.CappedBatches

/-!
# Rolling out a build over a fleet

A deployment cuts its nodes into waves that respect how many nodes may be down at once, in all and in one failure
domain. The registry starts the waves one after the other and marks the nodes as they are installed, come back or
fail. Each operation reads the record, computes a replacement and writes it only if the record has not changed;
`*Pass` is what one such pass does.
-/

namespace GpuFaultRecovery

open Optimistic

/-! ### Requests -/

inductive DeploymentStatus
  | planned
  | inProgress
  | succeeded
  | failed
deriving DecidableEq, Repr

inductive DeploymentNodeStatus
  | pending
  | installing
  | ready
  | failed
deriving DecidableEq, Repr

def DeploymentNodeStatus.value : DeploymentNodeStatus → String
  | pending => "PENDING"
  | installing => "INSTALLING"
  | ready => "READY"
  | failed => "FAILED"

structure FleetDeploymentRequest where
  deploymentId : Option String := none
  clusterId : String
  nodeIds : List String
  desired : AgentBuild
  maxUnavailable : Nat := 1
  firstWaveMaxUnavailable : Option Nat := none
  maxUnavailablePerFailureDomain : Nat := 1
  nodeFailureDomains : List (String × String) := []
deriving DecidableEq, Repr

/-- `str.isspace` of one character. -/
def isSpace (c : Char) : Bool :=
  let n := c.toNat
  (9 ≤ n && n ≤ 13) || (28 ≤ n && n ≤ 32) || n == 133 || n == 160 || n == 5760 || (8192 ≤ n && n ≤ 8202) ||
    n == 8232 || n == 8233 || n == 8239 || n == 8287 || n == 12288

/-- `DEPLOYMENT_ID_PATTERN.fullmatch`. -/
def deploymentIdMatches (id : String) : Bool :=
  let letter := fun c : Char => c.isAlphanum
  match id.toList with
  | [] => false
  | c :: rest => letter c && rest.all (fun c => letter c || c == '.' || c == '_' || c == ':' || c == '-') &&
    rest.length ≤ 127

namespace FleetDeploymentRequest

variable (request : FleetDeploymentRequest)

def fieldsOk : Bool :=
  !request.nodeIds.isEmpty && 1 ≤ request.maxUnavailable && request.firstWaveMaxUnavailable.all (1 ≤ ·) &&
    1 ≤ request.maxUnavailablePerFailureDomain

/-- `validate_nodes`. -/
def validateNodes : Except String Unit :=
  let domains := request.nodeFailureDomains
  if request.deploymentId.any fun id => !deploymentIdMatches id then
    .error "deployment_id contains unsupported characters"
  else if ¬ request.nodeIds.Nodup then .error "deployment node_ids must be unique"
  else if request.nodeIds.length < request.maxUnavailable then .error "max_unavailable cannot exceed node count"
  else if request.firstWaveMaxUnavailable.any (request.maxUnavailable < ·) then
    .error "first_wave_max_unavailable cannot exceed max_unavailable"
  else if request.maxUnavailable < request.maxUnavailablePerFailureDomain then
    .error "max_unavailable_per_failure_domain cannot exceed max_unavailable"
  else if domains ≠ [] ∧ ¬ (domains.map Prod.fst ⊆ request.nodeIds ∧ request.nodeIds ⊆ domains.map Prod.fst) then
    .error "node_failure_domains must contain exactly the deployment nodes"
  else if domains.any fun entry => entry.2.toList.all isSpace || 128 < entry.2.length then
    .error "node failure domains must be non-empty and bounded"
  else .ok ()

/-- `request.node_failure_domains.get(node_id, node_id)`. -/
def domain (nodeId : String) : String := (request.nodeFailureDomains.lookup nodeId).getD nodeId

/-- How many nodes the next wave may have. -/
def capacity (waves : List (List String)) : Nat :=
  if waves = [] then request.firstWaveMaxUnavailable.getD request.maxUnavailable else request.maxUnavailable

def sortedNodes : List String := request.nodeIds.insertionSort (· ≤ ·)

end FleetDeploymentRequest

structure ValidDeploymentRequest extends FleetDeploymentRequest where
  fields : toFleetDeploymentRequest.fieldsOk = true
  nodes : toFleetDeploymentRequest.validateNodes = .ok ()

/-- `deployment_waves`. -/
def deploymentWaves (request : FleetDeploymentRequest) : Except String (List (List String)) :=
  let nodes := request.sortedNodes
  match CappedBatches.cut request.domain request.maxUnavailablePerFailureDomain request.capacity nodes.length
    nodes [] with
  | some waves => .ok waves
  | none => .error "failure-domain constraints produced an empty wave"

/-! ### Deployments -/

structure DeploymentNode where
  nodeId : String
  status : DeploymentNodeStatus := .pending
  reason : Option String := none
  updatedAt : Nat
deriving DecidableEq, Repr

structure FleetDeployment where
  deploymentId : String
  clusterId : String
  desired : AgentBuild
  maxUnavailable : Nat
  waves : List (List String)
  nodes : List DeploymentNode
  status : DeploymentStatus := .planned
  createdAt : Nat
  updatedAt : Nat
deriving DecidableEq, Repr

structure DeploymentNodeUpdate where
  status : DeploymentNodeStatus
  reason : Option String := none
deriving DecidableEq, Repr

structure DeploymentWaveLease where
  deploymentId : String
  waveIndex : Nat
  nodeIds : List String
  issuedAt : Nat
deriving DecidableEq, Repr

def deploymentStatus (nodes : List DeploymentNode) : DeploymentStatus :=
  if nodes.any fun item => item.status == .failed then .failed
  else if nodes ≠ [] ∧ nodes.all fun item => item.status == .ready then .succeeded
  else if nodes ≠ [] ∧ nodes.all fun item => item.status == .pending then .planned
  else .inProgress

namespace FleetDeployment

variable (deployment : FleetDeployment)

/-- `by_node.get(node_id)`: a dictionary keeps the last entry of a key. -/
def byNode? (nodeId : String) : Option DeploymentNodeStatus :=
  (deployment.nodes.reverse.find? fun item => item.nodeId == nodeId).map DeploymentNode.status

/-- `by_node[node_id]`, which raises where there is none. -/
def byNode (nodeId : String) : Except String DeploymentNodeStatus :=
  match deployment.byNode? nodeId with
  | some status => .ok status
  | none => .error nodeId

/-- How many of `by_node.values()` are `INSTALLING`. -/
def installingCount : Nat :=
  (deployment.nodes.map DeploymentNode.nodeId).dedup.countP fun nodeId =>
    deployment.byNode? nodeId == some .installing

def installingNodes : List DeploymentNode := deployment.nodes.filter fun item => item.status == .installing

/-- The record with some of its nodes changed, as `choose` says. -/
def restatus (choose : DeploymentNode → Option DeploymentNodeUpdate) (now : Nat) : FleetDeployment :=
  let nodes := deployment.nodes.map fun item =>
    match choose item with
    | some update => { item with status := update.status, reason := update.reason, updatedAt := now }
    | none => item
  { deployment with nodes := nodes, status := deploymentStatus nodes, updatedAt := now }

end FleetDeployment

/-- Whether every node of a wave is `READY`; the look-ups stop at the first that is not. -/
def waveReady (deployment : FleetDeployment) (wave : List String) : Except String Bool :=
  wave.allM fun nodeId => do return (← deployment.byNode nodeId) == .ready

def activeDeploymentWave (deployment : FleetDeployment) : Except String (Option (List String)) :=
  deployment.waves.findM? fun wave => do return !(← waveReady deployment wave)

/-- `_agent_is_active`. -/
def agentIsActive (agent : AgentRecord) (now : Nat) : Bool :=
  agent.lifecycleState == .active && agent.leaseExpiresAt.any (now < ·)

def runsBuild (agents : List AgentRecord) (expected : AgentIdentity) (now : Nat) (nodeId : String) : Bool :=
  (agents.reverse.find? fun agent => agent.nodeId == nodeId).any fun agent =>
    agentIsActive agent now && agent.identity == expected

/-! ### Creation -/

/-- The record that `create_deployment_record` saves. -/
def newDeployment (request : FleetDeploymentRequest) (deploymentId : String) (waves : List (List String))
    (agents : List AgentRecord) (now : Nat) : FleetDeployment :=
  let nodes := request.sortedNodes.map fun nodeId =>
    ({ nodeId := nodeId
       status := if runsBuild agents request.desired.identity now nodeId then .ready else .pending
       updatedAt := now } : DeploymentNode)
  { deploymentId := deploymentId
    clusterId := request.clusterId
    desired := request.desired.resolved
    maxUnavailable := request.maxUnavailable
    waves := waves
    nodes := nodes
    status := deploymentStatus nodes
    createdAt := now
    updatedAt := now }

/-- What `create_deployment_record` makes of the record it finds under the id. -/
def createPass (request : FleetDeploymentRequest) (deploymentId : String) (agents : List AgentRecord) (now : Nat)
    (found : Option FleetDeployment) : Except String (Attempted FleetDeployment) := do
  let waves ← deploymentWaves request
  match found with
  | some existing =>
    if existing.clusterId ≠ request.clusterId ∨ existing.desired ≠ request.desired.resolved ∨
        existing.maxUnavailable ≠ request.maxUnavailable ∨ existing.waves ≠ waves then
      .error "deployment_id is already bound to a different rollout"
    else .ok .stop
  | none => .ok (.save (newDeployment request deploymentId waves agents now))

/-! ### Operations on a record -/

/-- A pass of `update_deployment_node`. -/
def updateNodePass (nodeId : String) (update : DeploymentNodeUpdate) (fromHeartbeat : Bool) (now : Nat)
    (deployment : FleetDeployment) : Except String (Attempted FleetDeployment) :=
  match deployment.nodes.find? fun item => item.nodeId == nodeId with
  | none => .error "node is not part of deployment"
  | some current =>
    if current.status = update.status ∧ current.reason = update.reason then .ok .stop
    else if update.status = .ready ∧ ¬ fromHeartbeat then .error "READY can only be set by a matching agent heartbeat"
    else if update.status = .failed ∧ current.status ≠ .installing ∧ current.status ≠ .failed then
      .error "only an INSTALLING node can be marked FAILED"
    else if ¬ fromHeartbeat ∧ update.status ≠ current.status ∧
        ¬ (current.status = .pending ∧ update.status = .installing ∨
          current.status = .installing ∧ update.status = .failed) then
      .error ("invalid deployment node transition " ++ current.status.value ++ "->" ++ update.status.value)
    else do
      if update.status = .installing ∧ current.status ≠ .installing then
        let activeWave ← activeDeploymentWave deployment
        if ¬ activeWave.any (fun wave => wave.contains nodeId) then throw "node is not in the active deployment wave"
        if deployment.maxUnavailable ≤ deployment.installingNodes.length then
          throw "deployment max_unavailable would be exceeded"
      .ok (.swap (deployment.restatus (fun item => if item.nodeId = nodeId then some update else none) now))

/-- A pass of `cancel_deployment`: the record is `FAILED` whatever its nodes are. -/
def cancelPass (reason : String) (now : Nat) (deployment : FleetDeployment) : FleetDeployment :=
  { deployment.restatus
      (fun item => if item.status ≠ .ready then some { status := .failed, reason := some reason } else none) now with
    status := .failed }

/-- A pass of `retry_failed_deployment`. -/
def retryPass (agents : List AgentRecord) (now : Nat) (deployment : FleetDeployment) : Attempted FleetDeployment :=
  if deployment.nodes.any fun item => item.status == .failed then
    .swap (deployment.restatus (fun item =>
      if item.status = .failed then
        some { status := if runsBuild agents deployment.desired.identity now item.nodeId then .ready else .pending }
      else none) now)
  else .stop

/-- The text `start_next_wave` raises over failed nodes. -/
def failedNodesText (failed : List String) : String :=
  "deployment has failed nodes: " ++ ",".intercalate (failed.take 20) ++
    (if failed.length ≤ 20 then "" else " (+" ++ toString (failed.length - 20) ++ " more)")

/-- What `start_next_wave` does with the first wave that is not through: its nodes are leased if some are being
installed, and started and leased if none is. -/
def leaseWave (deployment : FleetDeployment) (now index : Nat) (wave : List String) :
    Except String (DeploymentWaveLease × Option FleetDeployment) := do
  let installing ← wave.filterM fun nodeId => do return (← deployment.byNode nodeId) == .installing
  if installing ≠ [] then
    .ok (⟨deployment.deploymentId, index, installing, now⟩, none)
  else
    let pending ← wave.filterM fun nodeId => do return (← deployment.byNode nodeId) == .pending
    if pending = [] then .error "active deployment wave has no pending nodes"
    else if deployment.maxUnavailable < deployment.installingCount + pending.length then
      .error "deployment max_unavailable would be exceeded"
    else
      .ok (⟨deployment.deploymentId, index, pending, now⟩,
        some (deployment.restatus
          (fun item => if item.nodeId ∈ pending then some { status := .installing } else none) now))

/-- The loop of `start_next_wave`. -/
def startWaveFrom (deployment : FleetDeployment) (now : Nat) :
    Nat → List (List String) → Except String (DeploymentWaveLease × Option FleetDeployment)
  | _, [] => .error "deployment has no runnable wave"
  | index, wave :: waves => do
    if ← waveReady deployment wave then startWaveFrom deployment now (index + 1) waves
    else leaseWave deployment now index wave

/-- A pass of `start_next_wave`: the lease it returns, and the record it must write first, if any. -/
def startNextWavePass (now : Nat) (deployment : FleetDeployment) :
    Except String (DeploymentWaveLease × Option FleetDeployment) :=
  if deployment.status = .succeeded then .error "deployment is already complete"
  else
    -- one failed node holds the whole rollout until it is retried or cancelled
    let failed := (deployment.nodes.filter fun item => item.status == .failed).map DeploymentNode.nodeId
    if failed ≠ [] then .error (failedNodesText failed)
    else startWaveFrom deployment now 0 deployment.waves

/-- The build `reconcile_deployment` looks for, if it goes on at all: `record` is the heartbeat's, of an active agent
of one of the nodes, and has the build that was asked for. -/
def reconcileIdentity (deployment : FleetDeployment) (record : AgentRecord) : Option AgentIdentity :=
  if record.lifecycleState = .active ∧ (deployment.nodes.any fun item => item.nodeId == record.nodeId) ∧
      record.identity = deployment.desired.identity then some deployment.desired.identity
  else none

/-- A pass of `reconcile_deployment`. -/
def reconcilePass (expected : AgentIdentity) (agents : List AgentRecord) (now : Nat) (current : FleetDeployment) :
    Attempted FleetDeployment :=
  let comesUp := fun item : DeploymentNode => runsBuild agents expected now item.nodeId && item.status != .ready
  if current.nodes.any comesUp then
    .swap (current.restatus (fun item => if comesUp item then some { status := .ready } else none) now)
  else .stop

/-! ### Calls of all replicas -/

inductive FleetCall
  | create (request : ValidDeploymentRequest) (deploymentId : String)
  | updateNode (nodeId : String) (update : DeploymentNodeUpdate)
  | cancel (reason : String)
  | retry
  | startNextWave
  | reconcile (listed : FleetDeployment) (record : AgentRecord)

/-- What a pass reads besides the record: the agents the store lists, and the time. -/
structure FleetSurroundings where
  agents : List AgentRecord
  now : Nat

def fleetPass (call : FleetCall) (env : FleetSurroundings) (found : Option FleetDeployment) :
    Except String (Attempted FleetDeployment) :=
  match call, found with
  | .create request deploymentId, found =>
    createPass request.toFleetDeploymentRequest deploymentId env.agents env.now found
  | .updateNode nodeId update, some deployment => updateNodePass nodeId update false env.now deployment
  | .cancel reason, some deployment => .ok (.swap (cancelPass reason env.now deployment))
  | .retry, some deployment => .ok (retryPass env.agents env.now deployment)
  | .startNextWave, some deployment => do
    let (_, started) ← startNextWavePass env.now deployment
    return started.elim .stop .swap
  | .reconcile listed record, some deployment =>
    .ok ((reconcileIdentity listed record).elim .stop fun expected =>
      reconcilePass expected env.agents env.now deployment)
  | _, none => .error "not found"

def fleetAttempt (call : FleetCall) (env : FleetSurroundings) (found : Option FleetDeployment) :
    Attempted FleetDeployment :=
  Attempted.settled (fleetPass call env found)

/-- The deployments of a store and the calls of all replicas. Retention deletes a record. -/
abbrev FleetWorld := World FleetDeployment.deploymentId FleetCall

abbrev FleetInput := Input String FleetCall FleetSurroundings

def fleetStep : FleetWorld → FleetInput → FleetWorld := Optimistic.step fleetAttempt

end GpuFaultRecovery
