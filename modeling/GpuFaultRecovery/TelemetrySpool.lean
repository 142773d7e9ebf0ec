import Mathlib.Algebra.Group.Int.Defs
import GpuFaultRecovery.ProcessorLane

/-!
# The telemetry spool

Routine telemetry goes to a spool of its own: one row for each spool key, no lanes and no completion records. A new
sample of a key overwrites the payload of the row, raises its revision and clears the claim on it. A claim moves the
row's `availableAt` into the future and writes a fresh token; whoever answers a claim must present both the revision
and the token the row carries.

What `json.loads` makes of a body is kept as the compact text `json.dumps` prints for it, which is all the spool
measures; `loads` answers `none` where the parser raises. Each loop also returns what it did to the rows, in order:
the source returns the numbers of these.
-/

namespace GpuFaultRecovery

def telemetrySpoolMaxAttempts : Nat := 5

/-- Primary key of a sample in the spool: the lane for a channel that supersedes its own samples, else the request. -/
def ProcessorRequest.spoolKey (r : ProcessorRequest) : String :=
  let key := r.path ++ "|" ++ r.orderingKey
  if r.coalescable then key else key ++ ":" ++ r.requestId

structure SpoolRow where
  spoolKey : String
  clusterId : Option String
  path : String
  requestId : String
  revision : Nat := 0
  attempts : Nat := 0
  leaseOwner : Option String := none
  availableAt : Time
  createdAt : Time
  updatedAt : Time
  payload : String
deriving Repr, DecidableEq

/-- One replay claim; payload revision and lease token are independent fences. -/
structure SpooledTelemetry where
  spoolKey : String
  revision : Nat
  clusterId : Option String
  path : String
  requestId : String
  attempts : Nat
  createdAt : Time
  payload : String
  payloadBytes : Nat
  leaseToken : Option String := none
deriving Repr, DecidableEq

def spooledTelemetry (row : SpoolRow) : SpooledTelemetry where
  spoolKey := row.spoolKey
  revision := row.revision
  clusterId := row.clusterId
  path := row.path
  requestId := row.requestId
  attempts := row.attempts
  createdAt := row.createdAt
  payload := row.payload
  payloadBytes := row.payload.utf8ByteSize
  leaseToken := row.leaseOwner

abbrev Spool : Type := Table SpoolRow.spoolKey

/-- What happened to a row. -/
inductive SpoolEvent where
  | created (key payload : String)
  | coalesced (key payload : String)
  | claimed (item : SpooledTelemetry)
  | completed (item : SpooledTelemetry)
  | abandoned (item : SpooledTelemetry)
  | released (item : SpooledTelemetry)
  | dropped (item : SpooledTelemetry)
deriving Repr, DecidableEq

namespace SpoolEvent

def key : SpoolEvent → String
  | .created key _ | .coalesced key _ => key
  | .claimed item | .completed item | .abandoned item | .released item | .dropped item => item.spoolKey

end SpoolEvent

/-! ### Admission -/

structure SpoolLimits where
  maxDepth : Nat
  maxClusterDepth : Nat

/-- The row a further sample of the key leaves. -/
def coalescedRow (existing : SpoolRow) (request : ProcessorRequest) (payload : String) (observedAt : Time) :
    SpoolRow :=
  { existing with
    payload := payload
    requestId := request.requestId
    clusterId := request.clusterId
    path := request.path
    revision := existing.revision + 1
    leaseOwner := none
    availableAt := min existing.availableAt observedAt
    updatedAt := observedAt }

/-- The row the first sample of a key makes. -/
def createdSpoolRow (request : ProcessorRequest) (payload : String) (observedAt : Time) : SpoolRow where
  spoolKey := request.spoolKey
  clusterId := request.clusterId
  path := request.path
  requestId := request.requestId
  availableAt := observedAt
  createdAt := observedAt
  updatedAt := observedAt
  payload := payload

/-- What the spool answers for one request of a batch. -/
inductive SpoolOutcome where
  | spooled
  | coalesced
  | global
  | cluster
deriving Repr, DecidableEq

/-- The rows, the answers so far and the events so far; `raised` when a body did not parse. -/
structure SpoolBatch where
  rows : Spool
  results : List SpoolOutcome := []
  events : List SpoolEvent := []
  raised : Bool := false

/-- Admission of a batch. A body that does not parse ends it; the requests before it stay admitted. -/
def spoolLoop (loads : String → Option String) (limits : SpoolLimits) (observedAt : Time) :
    List ProcessorRequest → SpoolBatch → SpoolBatch
  | [], batch => batch
  | request :: rest, batch =>
    match batch.rows.get? request.spoolKey with
    | some existing =>
      match loads request.bodyBase64 with
      | none => { batch with raised := true }
      | some payload =>
        spoolLoop loads limits observedAt rest { batch with
          rows := batch.rows.put (coalescedRow existing request payload observedAt)
          results := batch.results ++ [.coalesced]
          events := batch.events ++ [.coalesced request.spoolKey payload] }
    | none =>
      if limits.maxDepth ≤ batch.rows.rows.length then
        spoolLoop loads limits observedAt rest { batch with results := batch.results ++ [.global] }
      else if limits.maxClusterDepth ≤ batch.rows.rows.countP (·.clusterId == request.clusterId) then
        spoolLoop loads limits observedAt rest { batch with results := batch.results ++ [.cluster] }
      else
        match loads request.bodyBase64 with
        | none => { batch with raised := true }
        | some payload =>
          spoolLoop loads limits observedAt rest { batch with
            rows := batch.rows.put (createdSpoolRow request payload observedAt)
            results := batch.results ++ [.spooled]
            events := batch.events ++ [.created request.spoolKey payload] }

def trySpoolTelemetryRequests (loads : String → Option String) (rows : Spool) (requests : List ProcessorRequest)
    (limits : SpoolLimits) (observedAt : Time) : SpoolBatch :=
  spoolLoop loads limits observedAt requests { rows := rows }

/-! ### The claim -/

structure SpoolClaim where
  ownerId : String
  leaseDuration : Int
  limit : Int
  maxBytes : Option Int := none
  path : Option String := none

/-- The order a claim takes rows in. -/
def availableBefore (a b : SpoolRow) : Prop :=
  a.availableAt < b.availableAt ∨ (a.availableAt = b.availableAt ∧ a.spoolKey ≤ b.spoolKey)

instance : DecidableRel availableBefore :=
  fun a b => inferInstanceAs (Decidable (_ ∨ (a.availableAt = b.availableAt ∧ _)))

/-- The rows a claim may take, oldest first. -/
def eligibleRows (rows : Spool) (req : SpoolClaim) (now : Time) : List SpoolRow :=
  ((rows.rows.filter fun row => decide (row.availableAt ≤ now) && req.path.all (row.path == ·)).insertionSort
    availableBefore).take req.limit.toNat

/-- The row a claim writes; the owner slot also carries a fresh claim generation. -/
def claimedSpoolRow (req : SpoolClaim) (now : Time) (draw : String → String) (row : SpoolRow) : SpoolRow :=
  { row with
    leaseOwner := some (req.ownerId ++ ":" ++ draw row.spoolKey)
    availableAt := now + req.leaseDuration
    attempts := row.attempts + 1
    updatedAt := now }

/-- The claim loop: it stops before the first row that would exceed the byte limit, but always takes one. -/
def spoolClaimLoop (req : SpoolClaim) (byteLimit : Int) (now : Time) (draw : String → String) :
    List SpoolRow → Spool → List SpooledTelemetry → Nat → Spool × List SpooledTelemetry
  | [], rows, claimed, _ => (rows, claimed)
  | row :: rest, rows, claimed, claimedBytes =>
    if claimed ≠ [] ∧ byteLimit < claimedBytes + (spooledTelemetry row).payloadBytes then (rows, claimed)
    else
      let row' := claimedSpoolRow req now draw row
      let item := spooledTelemetry row'
      spoolClaimLoop req byteLimit now draw rest (rows.put row') (claimed ++ [item])
        (claimedBytes + item.payloadBytes)

def claimTelemetrySpool (rows : Spool) (req : SpoolClaim) (now : Time) (draw : String → String) :
    Spool × List SpooledTelemetry :=
  let byteLimit := req.maxBytes.getD (2 ^ 63 - 1)
  if req.limit ≤ 0 then (rows, [])
  else if byteLimit ≤ 0 then (rows, [])
  else spoolClaimLoop req byteLimit now draw (eligibleRows rows req now) rows [] 0

/-! ### Answers -/

/-- The fence of every answer: the row has the revision and the claim token of the item. -/
def SpoolRow.accepts (row : SpoolRow) (item : SpooledTelemetry) : Bool :=
  row.revision == item.revision && item.leaseToken.any (· ≠ "") && row.leaseOwner == item.leaseToken

/-- A loop over items that acts only on the rows that accept them. -/
def answerLoop (act : Spool → SpoolRow → SpooledTelemetry → Spool × SpoolEvent) :
    List SpooledTelemetry → Spool → Spool × List SpoolEvent
  | [], rows => (rows, [])
  | item :: rest, rows =>
    match rows.get? item.spoolKey with
    | none => answerLoop act rest rows
    | some row =>
      if row.accepts item then
        let next := act rows row item
        let result := answerLoop act rest next.1
        (result.1, next.2 :: result.2)
      else answerLoop act rest rows

def completeOne (rows : Spool) (_ : SpoolRow) (item : SpooledTelemetry) : Spool × SpoolEvent :=
  (rows.remove item.spoolKey, .completed item)

def completeTelemetrySpool (rows : Spool) (items : List SpooledTelemetry) : Spool × List SpoolEvent :=
  answerLoop completeOne items rows

/-- The row an abandoned claim leaves: the attempt never happened. -/
def abandonedRow (row : SpoolRow) (now : Time) : SpoolRow :=
  { row with
    leaseOwner := none
    availableAt := now
    attempts := row.attempts - 1
    updatedAt := now }

def abandonOne (now : Time) (rows : Spool) (row : SpoolRow) (item : SpooledTelemetry) : Spool × SpoolEvent :=
  (rows.put (abandonedRow row now), .abandoned item)

def abandonTelemetrySpoolClaims (rows : Spool) (items : List SpooledTelemetry) (now : Time) :
    Spool × List SpoolEvent :=
  answerLoop (abandonOne now) items rows

def releasedRow (row : SpoolRow) (now : Time) (backoff : Int) : SpoolRow :=
  { row with
    leaseOwner := none
    availableAt := now + backoff
    updatedAt := now }

def releaseOne (now : Time) (backoff : Int) (limit : Nat) (rows : Spool) (row : SpoolRow) (item : SpooledTelemetry) :
    Spool × SpoolEvent :=
  if limit ≤ row.attempts then (rows.remove item.spoolKey, .dropped item)
  else (rows.put (releasedRow row now backoff), .released item)

def releaseTelemetrySpool (rows : Spool) (items : List SpooledTelemetry) (now : Time) (backoff : Int)
    (maxAttempts : Option Nat) : Spool × List SpoolEvent :=
  answerLoop (releaseOne now backoff (maxAttempts.getD telemetrySpoolMaxAttempts)) items rows

end GpuFaultRecovery
