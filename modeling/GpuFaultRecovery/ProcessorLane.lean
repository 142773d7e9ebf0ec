import Mathlib.Data.List.Sort
import GpuFaultRecovery.Models
import GpuFaultRecovery.Table

/-!
# The processor queue and its lanes

Requests wait in one queue and are served in lanes: requests with the same ordering key are served one at a time. A
claim takes the lane under a fresh token and leases one request of it; the holder renews, releases or completes under
that token, and a sweep hands lapsed requests back. Lane and request are two rows, written together by a claim and
checked together by a renewal and a completion.

What a request derives from its path, cluster and body (lane, service tier, channel flags) is kept on the row: no
operation of this module changes the inputs those values are derived from.
-/

namespace GpuFaultRecovery

inductive ProcessorRequestStatus where
  | pending
  | leased
  | completed
deriving Repr, DecidableEq, Inhabited

inductive ProcessorLanePolicy where
  | strict
  | reorderable
deriving Repr, DecidableEq, Inhabited

structure ProcessorRequest where
  requestId : String
  path : String := ""
  bodyBase64 : String := ""
  clusterId : Option String := none
  orderingKey : String
  queuePriority : Int := 50
  latestWins : Bool := false
  correlatedPath : Bool := false
  correlationScopeKeys : List String := []
  status : ProcessorRequestStatus := .pending
  leaseOwner : Option String := none
  leaderEpoch : Option Nat := none
  leaseToken : Option String := none
  leaseExpiresAt : Option Time := none
  responseStatus : Option Nat := none
  responseContentType : Option String := none
  responseBodyBase64 : Option String := none
  notBefore : Option Time := none
  retryCount : Nat := 0
  lanePolicy : ProcessorLanePolicy := .strict
  createdAt : Time := 0
  updatedAt : Time := 0
deriving Repr, DecidableEq, Inhabited

structure ProcessorLaneLease where
  orderingKey : String
  ownerId : String
  epoch : Nat
  leaseToken : String
  leaseExpiresAt : Time
  updatedAt : Time
deriving Repr, DecidableEq, Inhabited

/-- A request as it is admitted: pending, with every lease field at its default. -/
structure AdmittedRequest where
  request : ProcessorRequest
  status_eq : request.status = .pending
  leaseToken_eq : request.leaseToken = none

structure LaneStore where
  requests : Table ProcessorRequest.requestId
  lanes : Table ProcessorLaneLease.orderingKey

inductive LaneError where
  | notFound (requestId : String)
  | staleFencingToken (what : String)
deriving Repr, DecidableEq

def workloadObservationsPath : String := "/v1/workload-observations"

/-- A routine row that has waited too long is claimed just ahead of evidence. -/
def starvedRoutinePriority : Int := 49

def reservedTierMaxPriority : Int := 10

namespace ProcessorRequest

def availableForClaim (r : ProcessorRequest) (now : Time) : Bool :=
  match r.notBefore with
  | none => true
  | some t => decide (t ≤ now)

def isStrictRetryBarrier (r : ProcessorRequest) (now : Time) : Bool :=
  r.status == .pending && r.lanePolicy == .strict && !r.availableForClaim now

def coalescable (r : ProcessorRequest) : Bool := r.queuePriority == 100 && r.latestWins

def isReservedTier (r : ProcessorRequest) : Bool := decide (r.queuePriority ≤ reservedTierMaxPriority)

def isCorrelatedFault (r : ProcessorRequest) : Bool := !r.correlationScopeKeys.isEmpty && r.correlatedPath

def claimPriority (r : ProcessorRequest) (pendingFaultScopeKeys : List String)
    (routineStarvationBefore : Time) : Int :=
  if r.path == workloadObservationsPath && r.correlationScopeKeys.any pendingFaultScopeKeys.contains then -1
  else if r.queuePriority == 100 && decide (r.createdAt ≤ routineStarvationBefore) then starvedRoutinePriority
  else r.queuePriority

def waitsForObservation (r : ProcessorRequest) (pendingObservationScopeKeys : List String) : Bool :=
  r.isCorrelatedFault && r.correlationScopeKeys.any pendingObservationScopeKeys.contains

/-- Whether the row carries a lease that ended by `now`. -/
def leaseLapsed (r : ProcessorRequest) (now : Time) : Bool :=
  match r.leaseExpiresAt with
  | none => false
  | some t => decide (t ≤ now)

end ProcessorRequest

/-! ### Helpers of the claim -/

def pendingFaultScopeKeys (items : List ProcessorRequest) : List String :=
  (items.filter fun item => item.status == .pending && item.isCorrelatedFault).flatMap (·.correlationScopeKeys)

/-- Scope keys of observation rows that still block correlated faults; a lapsed lease no longer does. -/
def incompleteObservationScopeKeys (items : List ProcessorRequest) (now : Time) : List String :=
  (items.filter fun item => item.path == workloadObservationsPath &&
    (item.status == .pending ||
      (item.status == .leased && item.leaseExpiresAt.isSome && !item.leaseLapsed now))).flatMap
    (·.correlationScopeKeys)

def deferredStrictProcessorLanes (requests : List ProcessorRequest) (now : Time) : List String :=
  (requests.filter (·.isStrictRetryBarrier now)).map (·.orderingKey)

def processorRequestClaimable (request : ProcessorRequest) (now : Time) (deferredStrictLanes : List String) : Bool :=
  let claimableStatus := match request.status with
    | .pending => request.availableForClaim now
    | .leased => request.leaseExpiresAt.isNone || request.leaseLapsed now
    | .completed => false
  claimableStatus && !deferredStrictLanes.contains request.orderingKey

def claimBefore (faultKeys : List String) (starved : Time) (a b : ProcessorRequest) : Prop :=
  a.claimPriority faultKeys starved < b.claimPriority faultKeys starved ∨
    (a.claimPriority faultKeys starved = b.claimPriority faultKeys starved ∧
      (a.createdAt < b.createdAt ∨ (a.createdAt = b.createdAt ∧ a.requestId ≤ b.requestId)))

instance (faultKeys : List String) (starved : Time) : DecidableRel (claimBefore faultKeys starved) :=
  fun a b => inferInstanceAs (Decidable (_ ∨ (_ ∧ (a.createdAt < b.createdAt ∨ (a.createdAt = b.createdAt ∧ _)))))

/-- The row a latest-wins sample leaves behind when it merges into `pending`. -/
def coalesceRoutineSample (pending request : ProcessorRequest) : ProcessorRequest :=
  let laterNotBefore := match pending.notBefore, request.notBefore with
    | none, later => later
    | some t, none => some t
    | some t, some t' => some (if t < t' then t' else t)
  { request with
    requestId := pending.requestId
    createdAt := pending.createdAt
    status := .pending
    retryCount := max pending.retryCount request.retryCount
    notBefore := laterNotBefore }

namespace LaneStore

def empty : LaneStore := ⟨.empty, .empty⟩

/-! ### Admission -/

def enqueueProcessorRequest (st : LaneStore) (request : ProcessorRequest) : LaneStore :=
  match st.requests.get? request.requestId with
  | some _ => st
  | none => { st with requests := st.requests.put request }

/-- The depths an admission is checked against. -/
structure AdmissionLimits where
  maxDepth : Nat
  maxClusterDepth : Nat
  reservedFaultDepth : Nat := 0
  reservedClusterFaultDepth : Nat := 0

/-- Why an admission was refused. -/
inductive AdmissionOutcome where
  | admitted
  | coalesced
  | global
  | globalReserved
  | cluster
  | clusterReserved
deriving Repr, DecidableEq

def tryEnqueueProcessorRequest (st : LaneStore) (request : ProcessorRequest) (limits : AdmissionLimits) :
    LaneStore × AdmissionOutcome :=
  match st.requests.get? request.requestId with
  | some _ => (st, .admitted)
  | none =>
    let pendingMatch := if request.coalescable then
        st.requests.rows.find? fun item => item.status == .pending && item.orderingKey == request.orderingKey &&
          item.path == request.path && item.coalescable
      else none
    match pendingMatch with
    | some item => ({ st with requests := st.requests.put (coalesceRoutineSample item request) }, .coalesced)
    | none =>
      let incomplete := st.requests.rows.filter fun item => item.status == .pending || item.status == .leased
      let clusterDepth := (incomplete.filter fun item => item.clusterId == request.clusterId).length
      if limits.maxDepth ≤ incomplete.length then (st, .global)
      else if !request.isReservedTier && limits.maxDepth - limits.reservedFaultDepth ≤ incomplete.length then
        (st, .globalReserved)
      else if limits.maxClusterDepth ≤ clusterDepth then (st, .cluster)
      else if !request.isReservedTier && limits.maxClusterDepth - limits.reservedClusterFaultDepth ≤ clusterDepth then
        (st, .clusterReserved)
      else ({ st with requests := st.requests.put request }, .admitted)

/-! ### The claim -/

structure LaneClaim where
  ownerId : String
  leaseDuration : Int
  limit : Nat
  includePaths : Option (List String) := none
  excludePaths : Option (List String) := none
  routineStarvation : Int := 30000000

/-- The candidates of a claim, in the order it serves them. -/
def eligibleRequests (st : LaneStore) (req : LaneClaim) (now : Time) : List ProcessorRequest :=
  let items := st.requests.rows
  let claimable := items.filter (processorRequestClaimable · now (deferredStrictProcessorLanes items now))
  let observed := claimable.filter fun item => !item.waitsForObservation (incompleteObservationScopeKeys items now)
  let included := observed.filter fun item =>
    match req.includePaths with
    | none => true
    | some paths => paths.contains item.path
  let eligible := included.filter fun item =>
    match req.excludePaths with
    | none => true
    | some paths => !paths.contains item.path
  eligible.insertionSort (claimBefore (pendingFaultScopeKeys eligible) (now - req.routineStarvation))

/-- The lane row a claim writes over `lane`. -/
def claimedLane (req : LaneClaim) (now : Time) (token : String) (item : ProcessorRequest)
    (lane : Option ProcessorLaneLease) : ProcessorLaneLease where
  orderingKey := item.orderingKey
  ownerId := req.ownerId
  epoch := match lane with
    | some l => l.epoch + 1
    | none => 1
  leaseToken := token
  leaseExpiresAt := now + req.leaseDuration
  updatedAt := now

def claimedRequest (req : LaneClaim) (now : Time) (token : String) (epoch : Nat) (item : ProcessorRequest) :
    ProcessorRequest :=
  { item with
    status := .leased
    leaseOwner := some req.ownerId
    leaderEpoch := some epoch
    leaseToken := some token
    leaseExpiresAt := some (now + req.leaseDuration)
    updatedAt := now }

/-- Whether the lane of `item` is held by a live lease. -/
def laneLive (lane : Option ProcessorLaneLease) (now : Time) : Bool :=
  match lane with
  | none => false
  | some l => decide (now < l.leaseExpiresAt)

/-- The claim loop: one request per free lane until `limit` are leased. `tokens` is the random source. -/
def claimLoop (req : LaneClaim) (now : Time) (tokens : String → String) :
    List ProcessorRequest → LaneStore → List String → List ProcessorRequest → LaneStore × List ProcessorRequest
  | [], st, _, claimed => (st, claimed)
  | item :: rest, st, selected, claimed =>
    let lane := st.lanes.get? item.orderingKey
    if selected.contains item.orderingKey || laneLive lane now then claimLoop req now tokens rest st selected claimed
    else
      let token := tokens item.requestId
      let newLane := claimedLane req now token item lane
      let value := claimedRequest req now token newLane.epoch item
      let st' : LaneStore := { requests := st.requests.put value, lanes := st.lanes.put newLane }
      if req.limit ≤ (claimed ++ [value]).length then (st', claimed ++ [value])
      else claimLoop req now tokens rest st' (item.orderingKey :: selected) (claimed ++ [value])

def claimActiveProcessorRequests (st : LaneStore) (req : LaneClaim) (now : Time) (tokens : String → String) :
    LaneStore × List ProcessorRequest :=
  claimLoop req now tokens (st.eligibleRequests req now) st [] []

/-! ### The holder -/

structure Holder where
  ownerId : String
  epoch : Nat
  token : String
deriving Repr, DecidableEq

def laneHeldBy (lane : ProcessorLaneLease) (holder : Holder) : Bool :=
  lane.ownerId == holder.ownerId && lane.epoch == holder.epoch && lane.leaseToken == holder.token

def requestHeldBy (current : ProcessorRequest) (holder : Holder) : Bool :=
  current.leaseOwner == some holder.ownerId && current.leaderEpoch == some holder.epoch &&
    current.leaseToken == some holder.token

/-- The guard of renewal and completion: lane and request name the holder and the lane is live. -/
def holdsLane (st : LaneStore) (current : ProcessorRequest) (holder : Holder) (now : Time) :
    Option ProcessorLaneLease :=
  match st.lanes.get? current.orderingKey with
  | none => none
  | some lane =>
    if laneHeldBy lane holder && decide (now < lane.leaseExpiresAt) && requestHeldBy current holder then some lane
    else none

def renewActiveProcessorRequest (st : LaneStore) (requestId : String) (holder : Holder) (leaseDuration : Int)
    (now : Time) : Except LaneError (LaneStore × Bool) :=
  match st.requests.get? requestId with
  | none => .error (.notFound requestId)
  | some current =>
    match st.holdsLane current holder now with
    | none => .ok (st, false)
    | some lane =>
      .ok ({ lanes := st.lanes.put { lane with leaseExpiresAt := now + leaseDuration, updatedAt := now }
             requests := st.requests.put
               { current with leaseExpiresAt := some (now + leaseDuration), updatedAt := now } }, true)

/-- The lane row a release leaves: the holder's own live lane ends now. -/
def releasedLanes (st : LaneStore) (key : String) (holder : Holder) (now : Time) :
    Table ProcessorLaneLease.orderingKey :=
  match st.lanes.get? key with
  | none => st.lanes
  | some lane =>
    if laneHeldBy lane holder && decide (now < lane.leaseExpiresAt) then
      st.lanes.put { lane with leaseExpiresAt := now, updatedAt := now }
    else st.lanes

/-- A request handed back to the queue. -/
def releasedRequest (current : ProcessorRequest) (notBefore : Option Time) (retryCount : Nat) (now : Time) :
    ProcessorRequest :=
  { current with
    status := .pending
    leaseOwner := none
    leaderEpoch := none
    leaseToken := none
    leaseExpiresAt := none
    notBefore := notBefore
    retryCount := retryCount
    updatedAt := now }

/-- Lane and request are released on their own check each; neither is a precondition of the other. -/
def releaseActiveProcessorRequest (st : LaneStore) (requestId : String) (holder : Holder) (notBefore : Option Time)
    (retryCount : Option Nat) (now : Time) : Except LaneError LaneStore :=
  match st.requests.get? requestId with
  | none => .error (.notFound requestId)
  | some current =>
    let lanes := st.releasedLanes current.orderingKey holder now
    if !requestHeldBy current holder then .ok { st with lanes := lanes }
    -- a completed row keeps its fencing fields; only a leased one goes back
    else if current.status ≠ .leased then .ok { st with lanes := lanes }
    else
      .ok { lanes := lanes
            requests := st.requests.put
              (releasedRequest current notBefore (retryCount.getD current.retryCount) now) }

/-- What a completed request answered. -/
structure ProcessorResponse where
  status : Nat
  contentType : Option String
  bodyBase64 : String

def completeActiveProcessorRequest (st : LaneStore) (requestId : String) (holder : Holder)
    (response : ProcessorResponse) (now : Time) : Except LaneError (LaneStore × ProcessorRequest) :=
  match st.requests.get? requestId with
  | none => .error (.notFound requestId)
  | some current =>
    match st.holdsLane current holder now with
    | none => .error (.staleFencingToken "stale processor lane fencing token")
    | some lane =>
      let completed := { current with
        status := .completed
        responseStatus := some response.status
        responseContentType := response.contentType
        responseBodyBase64 := some response.bodyBase64
        leaseExpiresAt := none
        updatedAt := now }
      .ok ({ requests := st.requests.put completed
             lanes := st.lanes.put { lane with leaseExpiresAt := now, updatedAt := now } }, completed)

/-! ### Sweeps -/

/-- The order of the lease sweep: lapse, then id. -/
def lapsedBefore (a b : ProcessorRequest) : Prop :=
  a.leaseExpiresAt.getD 0 < b.leaseExpiresAt.getD 0 ∨
    (a.leaseExpiresAt.getD 0 = b.leaseExpiresAt.getD 0 ∧ a.requestId ≤ b.requestId)

instance : DecidableRel lapsedBefore :=
  fun a b => inferInstanceAs (Decidable (_ ∨ (a.leaseExpiresAt.getD 0 = b.leaseExpiresAt.getD 0 ∧ _)))

def reclaimExpiredProcessorLeases (st : LaneStore) (now : Time) (limit : Nat) : LaneStore × Nat :=
  let expired := ((st.requests.rows.filter fun item => item.status == .leased && item.leaseLapsed now).insertionSort
    lapsedBefore).take limit
  let released := expired.map fun item => releasedRequest item none (item.retryCount + 1) (max now item.updatedAt)
  ({ st with requests := st.requests.putAll released }, expired.length)

/-- The order of the lane sweep: lapse, then key. -/
def laneBefore (a b : ProcessorLaneLease) : Prop :=
  a.leaseExpiresAt < b.leaseExpiresAt ∨ (a.leaseExpiresAt = b.leaseExpiresAt ∧ a.orderingKey ≤ b.orderingKey)

instance : DecidableRel laneBefore :=
  fun a b => inferInstanceAs (Decidable (_ ∨ (a.leaseExpiresAt = b.leaseExpiresAt ∧ _)))

/-- Drop lane rows whose lease ended and that hold no work. -/
def cleanupProcessorLanes (st : LaneStore) (olderThan : Time) (limit : Nat) : LaneStore × Nat :=
  let busy := (st.requests.rows.filter fun item => item.status == .pending || item.status == .leased).map
    (·.orderingKey)
  let victims := (((st.lanes.rows.insertionSort laneBefore).filter fun lane =>
    decide (lane.leaseExpiresAt ≤ olderThan) && !busy.contains lane.orderingKey).map (·.orderingKey)).take limit
  ({ st with lanes := st.lanes.removeAll victims }, victims.length)

end LaneStore

end GpuFaultRecovery
