import GpuFaultRecovery.Run
import GpuFaultRecovery.Table

/-!
# The final ownership gate of a node

A handler that is about to change the node calls `require`: the gate issues a challenge and waits until `authorize`
stores a permit for it, which the control plane signed. `require` hands the permit out with a one-use delivery check,
and the physical call follows a passed check. Waiters, deliverers and handlers run concurrently; each section under
the gate's lock is one step here, and so is the end of a wait. Clock readings are arguments of the steps, so a reading
taken before the lock may be older than the step. Times count microseconds.
-/

namespace GpuFaultRecovery

inductive OwnershipBoundary
  | agentPreSpawn | agentHandlerEntry
  deriving DecidableEq, Repr

def ownershipProtocol : String := "node-final-ownership/v1"

/-- `CHALLENGE_SECONDS`. -/
def challengeLifetime : Int := 90000000

/-- `PERMIT_SECONDS`. -/
def permitLifetime : Int := 3000000

/-! ### Documents -/

/-- The fields of a `NodeActionCommand` that the gate reads; `document` is the rest of it. -/
structure OwnedCommand where
  commandId : String
  workflowRequestId : String
  incidentId : String
  nodeId : String
  agentGeneration : Option Nat
  fencingToken : Nat
  ownershipGuard : Option String
  expiresAt : Int
  document : String := ""
  deriving DecidableEq, Repr

structure OwnershipChallenge where
  commandId : String
  workflowId : String
  incidentId : String
  nodeId : String
  bootId : String
  agentGeneration : Nat
  fencingToken : Nat
  commandSha256 : String
  nonce : String
  sequence : Nat
  boundary : OwnershipBoundary
  expiresAt : Int
  deriving DecidableEq, Repr

/-- A permit without its signature. A decision that contradicts its reason cannot be built. -/
structure PermitDocument where
  challenge : OwnershipChallenge
  allowed : Bool
  reason : String
  checkedAt : Int
  expiresAt : Int
  decision : allowed = decide (reason = "OK")
  deriving DecidableEq, Repr

structure OwnershipPermit where
  document : PermitDocument
  signature : String
  deriving DecidableEq, Repr

/-- What the gate is built with: its boot, the digest of a command and the HMAC under the node key. -/
structure GateConfig where
  bootId : String
  commandIdentity : OwnedCommand → String
  permitSignature : PermitDocument → String

/-- `sign_permit`, with the decision that the reason stands for. -/
def signPermit (config : GateConfig) (challenge : OwnershipChallenge) (reason : String) (now : Int) :
    OwnershipPermit :=
  let document : PermitDocument :=
    { challenge, allowed := decide (reason = "OK"), reason, checkedAt := now,
      expiresAt := min challenge.expiresAt (now + permitLifetime), decision := rfl }
  { document, signature := config.permitSignature document }

/-- The challenge that `require` builds. -/
def GateConfig.challengeFor (config : GateConfig) (command : OwnedCommand) (generation : Nat)
    (boundary : OwnershipBoundary) (now : Int) (nonce : String) (sequence : Nat) : OwnershipChallenge :=
  { commandId := command.commandId
    workflowId := command.workflowRequestId
    incidentId := command.incidentId
    nodeId := command.nodeId
    bootId := config.bootId
    agentGeneration := generation
    fencingToken := command.fencingToken
    commandSha256 := config.commandIdentity command
    nonce := nonce
    sequence := sequence
    boundary := boundary
    expiresAt := min command.expiresAt (now + challengeLifetime) }

/-! ### State -/

/-- Where a `require` call is: in its wait, between the wait and its `finally`, or gone. -/
inductive WaiterStatus
  | waiting | leaving | left
  deriving DecidableEq, Repr

/-- A `_Pending` with the `require` call that made it. -/
structure PendingBoundary where
  sequence : Nat
  command : OwnedCommand
  boundary : OwnershipBoundary
  challenge : OwnershipChallenge
  deadline : Int
  event : Bool := false
  permit : Option OwnershipPermit := none
  permitDeadline : Option Int := none
  status : WaiterStatus := .waiting
  deriving DecidableEq, Repr

/-- A permit that `require` returned, with the closure of `_bind_delivery`. -/
structure PermitDelivery where
  sequence : Nat
  permit : OwnershipPermit
  deadline : Int
  used : Bool := false
  deriving DecidableEq, Repr

/-- A delivery check that passed, when, and for which `require` call. -/
structure PhysicalCall where
  sequence : Nat
  command : OwnedCommand
  boundary : OwnershipBoundary
  permit : OwnershipPermit
  now : Int
  deriving DecidableEq, Repr

/-- The gate. `pending` maps a command to the pending boundary of that sequence number; `requires` keeps the
boundaries themselves, `deliveries` the permits handed out, `signed` what the control plane signed and `passed` the
physical calls. -/
structure OwnershipGate where
  requires : Table PendingBoundary.sequence
  pending : Table (Prod.fst : String × Nat → String)
  deliveries : Table PermitDelivery.sequence
  sequence : Nat
  closed : Bool
  signed : List PermitDocument
  passed : List PhysicalCall

namespace OwnershipGate

def initial : OwnershipGate :=
  { requires := .empty, pending := .empty, deliveries := .empty, sequence := 0, closed := false, signed := [],
    passed := [] }

def pendingOf (gate : OwnershipGate) (commandId : String) : Option PendingBoundary := do
  let entry ← gate.pending.get? commandId
  gate.requires.get? entry.2

/-! ### Calls -/

/-- Whether a permit is live at `now`. -/
def live (document : PermitDocument) (now : Int) : Bool := document.checkedAt ≤ now && now < document.expiresAt

/-- The checks of `authorize` before the lock. -/
def permitValid (config : GateConfig) (permit : OwnershipPermit) (now : Int) : Bool :=
  live permit.document now && permit.document.expiresAt ≤ permit.document.challenge.expiresAt &&
    permit.document.expiresAt - permit.document.checkedAt ≤ permitLifetime &&
    config.permitSignature permit.document == permit.signature

/-- `authorize`. A denial is final; an allowing permit gives way to a denial. -/
def authorize (gate : OwnershipGate) (config : GateConfig) (permit : OwnershipPermit) (now receivedAt : Int) :
    Except String OwnershipGate :=
  if !permitValid config permit now then .error "OWNERSHIP_PERMIT_INVALID"
  else
    match gate.pendingOf permit.document.challenge.commandId with
    | none => .error "OWNERSHIP_PERMIT_STALE"
    | some pending =>
      if gate.closed || pending.challenge ≠ permit.document.challenge then .error "OWNERSHIP_PERMIT_STALE"
      else
        let stored : PendingBoundary :=
          { pending with
            permit := some permit
            permitDeadline := some (min pending.deadline (receivedAt + (permit.document.expiresAt - now)))
            event := true }
        let accepted : OwnershipGate := { gate with requires := gate.requires.put stored }
        match pending.permit with
        | none => .ok accepted
        | some earlier =>
          if earlier.document.allowed = permit.document.allowed ∧
            earlier.document.reason = permit.document.reason then
            .ok gate
          else if earlier.document.allowed then .ok accepted
          else .error "OWNERSHIP_PERMIT_STALE"

/-- `require` up to its wait. -/
def beginRequire (gate : OwnershipGate) (config : GateConfig) (command : OwnedCommand) (boundary : OwnershipBoundary)
    (now monotonic : Int) (nonce : String) : Except String OwnershipGate :=
  match command.agentGeneration with
  | none => .error "OWNERSHIP_PROTOCOL_REQUIRED"
  | some generation =>
    if command.ownershipGuard ≠ some ownershipProtocol then .error "OWNERSHIP_PROTOCOL_REQUIRED"
    else if command.expiresAt ≤ now then .error "OWNERSHIP_COMMAND_EXPIRED"
    else if gate.closed then .error "OWNERSHIP_CALLER_LOST"
    else if (gate.pending.get? command.commandId).isSome then .error "OWNERSHIP_BOUNDARY_ALREADY_PENDING"
    else
      let sequence := gate.sequence + 1
      let challenge := config.challengeFor command generation boundary now nonce sequence
      let pending : PendingBoundary :=
        { sequence, command, boundary, challenge, deadline := monotonic + (challenge.expiresAt - now) }
      .ok
        { gate with
          sequence := sequence
          requires := gate.requires.put pending
          pending := gate.pending.put (command.commandId, sequence) }

/-- What `require` decides on its pending boundary after the wait: the permit and the deadline of its delivery. -/
def grantedPermit (gate : OwnershipGate) (pending : PendingBoundary) (now monotonic : Int) :
    Except String (OwnershipPermit × Int) :=
  match pending.permit, pending.permitDeadline with
  | some permit, some deadline =>
    if gate.closed || deadline ≤ monotonic || !live permit.document now then .error "OWNERSHIP_PERMIT_EXPIRED"
    else if permit.document.allowed then .ok (permit, deadline)
    else .error permit.document.reason
  | _, _ => .error "OWNERSHIP_PERMIT_EXPIRED"

/-- `require` from the end of its wait to its `finally`: the permit is bound and handed out, or the call raises. -/
def finishRequire (gate : OwnershipGate) (pending : PendingBoundary) (now monotonic : Int) : OwnershipGate :=
  let leaving := { gate with requires := gate.requires.put { pending with status := .leaving } }
  match gate.grantedPermit pending now monotonic with
  | .error _ => leaving
  | .ok (permit, deadline) =>
    { leaving with
      deliveries := gate.deliveries.put { sequence := pending.sequence, permit, deadline }
      pending := gate.pending.remove pending.command.commandId }

/-- The `finally` of `require`. -/
def leaveRequire (gate : OwnershipGate) (pending : PendingBoundary) : OwnershipGate :=
  let left := { gate with requires := gate.requires.put { pending with status := .left } }
  if gate.pending.get? pending.command.commandId = some (pending.command.commandId, pending.sequence) then
    { left with pending := gate.pending.remove pending.command.commandId }
  else left

/-- The closure of `_bind_delivery` for the permit that the `require` of `pending` returned; a passed check is
followed by the physical call. -/
def validateDelivery (gate : OwnershipGate) (pending : PendingBoundary) (delivery : PermitDelivery)
    (now monotonic : Int) : Except String OwnershipGate :=
  if gate.closed then .error "OWNERSHIP_CALLER_LOST"
  else if delivery.used then .error "OWNERSHIP_PERMIT_USED"
  else if delivery.deadline ≤ monotonic || !live delivery.permit.document now then .error "OWNERSHIP_PERMIT_EXPIRED"
  else
    let call : PhysicalCall :=
      { sequence := delivery.sequence, command := pending.command, boundary := pending.boundary,
        permit := delivery.permit, now }
    .ok
      { gate with
        deliveries := gate.deliveries.put { delivery with used := true }
        passed := gate.passed ++ [call] }

/-- Set the event of the boundary that an entry of `pending` names. -/
def setEvent (requires : Table PendingBoundary.sequence) (entry : String × Nat) : Table PendingBoundary.sequence :=
  match requires.get? entry.2 with
  | some pending => requires.put { pending with event := true }
  | none => requires

/-- `cancel_all`: the events wake every waiter. -/
def cancelAll (gate : OwnershipGate) : OwnershipGate :=
  { gate with closed := true, requires := gate.pending.rows.foldl setEvent gate.requires }

end OwnershipGate

/-! ### Runs -/

/-- One step of the control plane, of a `require` call, of a delivery or of the agent. -/
inductive GateCall
  | sign (challenge : OwnershipChallenge) (reason : String) (now : Int)
  | authorize (permit : OwnershipPermit) (now receivedAt : Int)
  | require (command : OwnedCommand) (boundary : OwnershipBoundary) (now monotonic : Int) (nonce : String)
  | wake (sequence : Nat) (now monotonic : Int)
  | timeOut (sequence : Nat)
  | leave (sequence : Nat)
  | validateDelivery (sequence : Nat) (now monotonic : Int)
  | cancelAll

namespace OwnershipGate

def afterCall (before : OwnershipGate) : Except String OwnershipGate → OwnershipGate
  | .ok after => after
  | .error _ => before

def step (config : GateConfig) (gate : OwnershipGate) : GateCall → OwnershipGate
  | .sign challenge reason now =>
    { gate with signed := (signPermit config challenge reason now).document :: gate.signed }
  | .authorize permit now receivedAt => gate.afterCall (gate.authorize config permit now receivedAt)
  | .require command boundary now monotonic nonce =>
    gate.afterCall (gate.beginRequire config command boundary now monotonic nonce)
  | .wake sequence now monotonic =>
    match gate.requires.get? sequence with
    | some pending =>
      if pending.status = .waiting ∧ pending.event = true then gate.finishRequire pending now monotonic else gate
    | none => gate
  | .timeOut sequence =>
    match gate.requires.get? sequence with
    | some pending =>
      if pending.status = .waiting then
        { gate with requires := gate.requires.put { pending with status := .leaving } }
      else gate
    | none => gate
  | .leave sequence =>
    match gate.requires.get? sequence with
    | some pending => if pending.status = .leaving then gate.leaveRequire pending else gate
    | none => gate
  | .validateDelivery sequence now monotonic =>
    match gate.requires.get? sequence, gate.deliveries.get? sequence with
    | some pending, some delivery => gate.afterCall (gate.validateDelivery pending delivery now monotonic)
    | _, _ => gate
  | .cancelAll => gate.cancelAll

end OwnershipGate

end GpuFaultRecovery
