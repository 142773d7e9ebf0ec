import GpuFaultRecovery.Optimistic

/-!
# The registry of node agents

An agent announces itself by heartbeats. Each one is checked against the record of its node, which carries the fencing
generation, the lease and the incarnations that were retired, and replaces the record if no other replica has changed
it meanwhile; operators drain, revoke and reactivate agents in the same way. Times are in microseconds.
-/

namespace GpuFaultRecovery

open Optimistic

/-! ### Builds and inventories -/

/-- `first or second`, for texts. -/
def elseText : Option String → String → String
  | some text, other => if text = "" then other else text
  | none, other => other

theorem elseText_ne_empty {first : Option String} {other : String} (h : other ≠ "") : elseText first other ≠ "" := by
  cases first with
  | none => exact h
  | some text =>
    by_cases htext : text = ""
    · simp [elseText, htext, h]
    · simp [elseText, htext]

/-- What an agent was built and configured from. -/
structure AgentBuild where
  protocolVersion : Nat := 1
  agentVersion : String
  artifactSha256 : String
  compatibilityDigest : Option String := none
  bundleSha256 : Option String := none
  templateSha256 : Option String := none
  policyVersion : String
  runtimeProfileVersion : String
  configDigest : String
deriving DecidableEq, Repr

/-- The tuple that `identity` compares: an absent compatibility digest is the artifact's. -/
structure AgentIdentity where
  protocolVersion : Nat
  agentVersion : String
  artifactSha256 : String
  compatibilityDigest : String
  bundleSha256 : Option String
  templateSha256 : Option String
  policyVersion : String
  runtimeProfileVersion : String
  configDigest : String
deriving DecidableEq, Repr

def AgentBuild.identity (build : AgentBuild) : AgentIdentity where
  protocolVersion := build.protocolVersion
  agentVersion := build.agentVersion
  artifactSha256 := build.artifactSha256
  compatibilityDigest := elseText build.compatibilityDigest build.artifactSha256
  bundleSha256 := build.bundleSha256
  templateSha256 := build.templateSha256
  policyVersion := build.policyVersion
  runtimeProfileVersion := build.runtimeProfileVersion
  configDigest := build.configDigest

/-- The build with its compatibility digest filled in, as records keep it. -/
def AgentBuild.resolved (build : AgentBuild) : AgentBuild :=
  { build with compatibilityDigest := some (elseText build.compatibilityDigest build.artifactSha256) }

structure InstalledUnitReport where
  digest : String
  units : Option (List String) := none
deriving DecidableEq, Repr

structure InstalledUnitInventory where
  digest : String
  units : List String
deriving DecidableEq, Repr

/-- `resolve_installed_unit_inventory`. -/
def resolveInstalledUnitInventory (reported : Option InstalledUnitReport) (existing : Option InstalledUnitInventory) :
    Except String (Option InstalledUnitInventory) :=
  match reported with
  | none => .ok existing
  | some report =>
    match report.units with
    | some units => .ok (some ⟨report.digest, units⟩)
    | none =>
      match existing with
      | some inventory =>
        if inventory.digest ≠ report.digest then
          .error "full installed unit inventory is required when digest changes"
        else .ok (some inventory)
      | none => .error "full installed unit inventory is required when digest changes"

/-! ### Records -/

inductive AgentLifecycleState
  | active
  | draining
  | revoked
deriving DecidableEq, Repr

/-- A heartbeat, as its validators let it through: an endpoint has a scheme, so it is not empty. -/
structure AgentHeartbeat where
  clusterId : String
  nodeId : String
  endpoint : String
  endpoint_given : endpoint ≠ ""
  tlsCertificatePem : Option String := none
  nodeActionKeyVersion : Nat := 1
  build : AgentBuild
  installedUnitReport : Option InstalledUnitReport := none
  bootId : Option String := none
  nodeInstanceId : Option String := none
  agentIncarnationId : Option String := none
  observedAt : Nat

structure AgentRecord where
  clusterId : String
  nodeId : String
  endpoint : String
  tlsCertificatePem : Option String := none
  nodeActionKeyVersion : Nat := 1
  build : AgentBuild
  installedUnitInventory : Option InstalledUnitInventory := none
  bootId : Option String := none
  nodeInstanceId : Option String := none
  agentIncarnationId : Option String := none
  retiredIncarnationIds : List String := []
  firstSeenAt : Nat
  lastSeenAt : Nat
  leaseExpiresAt : Option Nat := none
  generation : Nat := 1
  lifecycleState : AgentLifecycleState := .active
  transitionId : Option String := none
  transitionReason : Option String := none
  transitionStartedAt : Option Nat := none
deriving DecidableEq, Repr

def AgentRecord.place (record : AgentRecord) : String × String := (record.clusterId, record.nodeId)

def AgentRecord.identity (record : AgentRecord) : AgentIdentity := record.build.identity

/-- What a record or a heartbeat calls its incarnation: its id, else its boot, else its endpoint. -/
def AgentRecord.incarnation (record : AgentRecord) : String :=
  elseText record.agentIncarnationId (elseText record.bootId record.endpoint)

def AgentHeartbeat.incarnation (heartbeat : AgentHeartbeat) : String :=
  elseText heartbeat.agentIncarnationId (elseText heartbeat.bootId heartbeat.endpoint)

structure AgentTransitionRequest where
  expectedGeneration : Nat
  transitionId : String
  reason : String
deriving DecidableEq, Repr

/-! ### Heartbeats -/

/-- `l[-n:]`. -/
def lastItems (n : Nat) (l : List String) : List String := l.drop (l.length - n)

/-- How many retired incarnations a record keeps. -/
def retiredWindow : Nat := 16

def sameInstanceReboot (heartbeat : AgentHeartbeat) (existing : AgentRecord) : Bool :=
  existing.incarnation != heartbeat.incarnation && heartbeat.bootId != existing.bootId &&
    ((heartbeat.nodeInstanceId.isSome && heartbeat.nodeInstanceId == existing.nodeInstanceId) ||
      (heartbeat.nodeInstanceId.isNone && existing.nodeInstanceId.isNone && heartbeat.endpoint == existing.endpoint))

def firstAgentRecord (maxHeartbeatAge : Nat) (heartbeat : AgentHeartbeat)
    (inventory : Option InstalledUnitInventory) :
    AgentRecord where
  clusterId := heartbeat.clusterId
  nodeId := heartbeat.nodeId
  endpoint := heartbeat.endpoint
  tlsCertificatePem := heartbeat.tlsCertificatePem
  nodeActionKeyVersion := heartbeat.nodeActionKeyVersion
  build := heartbeat.build.resolved
  installedUnitInventory := inventory
  bootId := heartbeat.bootId
  nodeInstanceId := heartbeat.nodeInstanceId
  agentIncarnationId := some heartbeat.incarnation
  firstSeenAt := heartbeat.observedAt
  lastSeenAt := heartbeat.observedAt
  leaseExpiresAt := some (heartbeat.observedAt + maxHeartbeatAge)

def agentChanged (heartbeat : AgentHeartbeat) (existing : AgentRecord) (inventory : Option InstalledUnitInventory) :
    Bool :=
  existing.incarnation != heartbeat.incarnation || existing.identity != heartbeat.build.identity ||
    existing.nodeActionKeyVersion != heartbeat.nodeActionKeyVersion || existing.endpoint != heartbeat.endpoint ||
    existing.tlsCertificatePem != heartbeat.tlsCertificatePem || existing.bootId != heartbeat.bootId ||
    existing.nodeInstanceId != heartbeat.nodeInstanceId || existing.installedUnitInventory != inventory

/-- The retired incarnations after a heartbeat: one that another takes over from is retired, the oldest drop out. -/
def retiredAfter (heartbeat : AgentHeartbeat) (existing : AgentRecord) : List String :=
  if existing.incarnation ≠ heartbeat.incarnation ∧ existing.incarnation ≠ "" then
    lastItems retiredWindow
      ((existing.retiredIncarnationIds.filter fun item => item != existing.incarnation) ++ [existing.incarnation])
  else existing.retiredIncarnationIds

/-- `_next_agent_record`. -/
def nextAgentRecord (maxHeartbeatAge : Nat) (heartbeat : AgentHeartbeat) (existing : Option AgentRecord) (now : Nat) :
    Except String AgentRecord :=
  match existing with
  | none => do
    let inventory ← resolveInstalledUnitInventory heartbeat.installedUnitReport none
    .ok (firstAgentRecord maxHeartbeatAge heartbeat inventory)
  | some existing =>
    if heartbeat.observedAt < existing.lastSeenAt then .error "agent heartbeat is older than the stored heartbeat"
    else if heartbeat.incarnation ∈ existing.retiredIncarnationIds then .error "agent incarnation has been retired"
    -- another incarnation may take over once the lease is out, after a reboot of the instance, or from a drained
    -- agent
    else if existing.incarnation ≠ heartbeat.incarnation ∧
        existing.leaseExpiresAt.any (fun expiry => decide (now < expiry)) ∧
        ¬ sameInstanceReboot heartbeat existing ∧ existing.lifecycleState = .active then
      .error "another agent incarnation holds the node lease"
    else do
      let inventory ← resolveInstalledUnitInventory heartbeat.installedUnitReport existing.installedUnitInventory
      -- a drain outlives the heartbeats of the incarnation it is for, and ends with a takeover
      let preserve := existing.incarnation == heartbeat.incarnation && existing.lifecycleState == .draining
      .ok { firstAgentRecord maxHeartbeatAge heartbeat inventory with
        retiredIncarnationIds := retiredAfter heartbeat existing
        firstSeenAt := existing.firstSeenAt
        generation := existing.generation + if agentChanged heartbeat existing inventory then 1 else 0
        lifecycleState := if preserve then existing.lifecycleState else .active
        transitionId := if preserve then existing.transitionId else none
        transitionReason := if preserve then existing.transitionReason else none
        transitionStartedAt := if preserve then existing.transitionStartedAt else none }

/-! ### Transitions -/

/-- One pass of `drain_agent`. -/
def drainAgent (request : AgentTransitionRequest) (now : Nat) (current : AgentRecord) :
    Except String (Attempted AgentRecord) :=
  if current.transitionId = some request.transitionId ∧
      (current.lifecycleState = .draining ∨ current.lifecycleState = .revoked) then .ok .stop
  else if current.lifecycleState ≠ .active then .error "agent already belongs to another transition"
  else if current.generation ≠ request.expectedGeneration then .error "stale agent generation for drain"
  else
    .ok (.swap { current with
      generation := current.generation + 1
      lifecycleState := .draining
      transitionId := some request.transitionId
      transitionReason := some request.reason
      transitionStartedAt := some now })

def retiredByRevoke (current : AgentRecord) : List String :=
  match current.agentIncarnationId with
  | some incarnation =>
    if incarnation ≠ "" ∧ incarnation ∉ current.retiredIncarnationIds then
      lastItems retiredWindow (current.retiredIncarnationIds ++ [incarnation])
    else current.retiredIncarnationIds
  | none => current.retiredIncarnationIds

/-- One pass of `revoke_agent`. -/
def revokeAgent (request : AgentTransitionRequest) (now : Nat) (current : AgentRecord) :
    Except String (Attempted AgentRecord) :=
  if current.lifecycleState = .revoked ∧ current.transitionId = some request.transitionId then .ok .stop
  else if current.lifecycleState ≠ .draining ∨ current.transitionId ≠ some request.transitionId then
    .error "agent must be drained by the same transition"
  else
    .ok (.swap { current with
      lifecycleState := .revoked
      retiredIncarnationIds := retiredByRevoke current
      leaseExpiresAt := some now })

/-- One pass of `reactivate_agent`. -/
def reactivateAgent (request : AgentTransitionRequest) (now : Nat) (current : AgentRecord) :
    Except String (Attempted AgentRecord) :=
  if current.generation ≠ request.expectedGeneration then .error "stale agent generation"
  else if current.lifecycleState ≠ .revoked then .error "agent is not revoked"
  else if current.transitionId ≠ some request.transitionId then
    .error "reactivation must reference the revoking transition"
  else
    .ok (.swap { current with
      lifecycleState := .active
      retiredIncarnationIds :=
        current.retiredIncarnationIds.filter fun item => some item != current.agentIncarnationId
      leaseExpiresAt := some now
      transitionId := none
      transitionReason := none
      transitionStartedAt := none })

/-! ### Calls of the registry -/

/-- What a replica may be asked to do with an agent. `register` takes its time once, before its first pass. -/
inductive AgentCall
  | register (heartbeat : AgentHeartbeat) (now : Nat)
  | drain (request : AgentTransitionRequest)
  | revoke (request : AgentTransitionRequest)
  | reactivate (request : AgentTransitionRequest)

/-- A pass of `_register`, once the heartbeat is authenticated. -/
def registerPass (maxHeartbeatAge : Nat) (heartbeat : AgentHeartbeat) (now : Nat) (found : Option AgentRecord) :
    Except String (Attempted AgentRecord) :=
  if now + 30000000 < heartbeat.observedAt then .error "agent heartbeat is from the future"
  else if heartbeat.observedAt + 300000000 < now then .error "agent heartbeat is too old"
  else (nextAgentRecord maxHeartbeatAge heartbeat found now).map .swap

/-- A pass on the record that was read. A transition of an agent that is not registered raises. -/
def agentPass (maxHeartbeatAge : Nat) (call : AgentCall) (now : Nat) (found : Option AgentRecord) :
    Except String (Attempted AgentRecord) :=
  match call, found with
  | .register heartbeat received, found => registerPass maxHeartbeatAge heartbeat received found
  | .drain request, some current => drainAgent request now current
  | .revoke request, some current => revokeAgent request now current
  | .reactivate request, some current => reactivateAgent request now current
  | _, none => .error "not found"

def agentAttempt (maxHeartbeatAge : Nat) (call : AgentCall) (now : Nat) (found : Option AgentRecord) :
    Attempted AgentRecord :=
  Attempted.settled (agentPass maxHeartbeatAge call now found)

/-- The agents of a store and the calls of all replicas. -/
abbrev AgentWorld := World AgentRecord.place AgentCall

abbrev AgentInput := Input (String × String) AgentCall Nat

def registryStep (maxHeartbeatAge : Nat) : AgentWorld → AgentInput → AgentWorld :=
  Optimistic.step (agentAttempt maxHeartbeatAge)

end GpuFaultRecovery
