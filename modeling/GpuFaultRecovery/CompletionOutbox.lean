import Mathlib.Algebra.GroupWithZero.Nat
import Mathlib.Data.List.MinMax
import GpuFaultRecovery.Models
import GpuFaultRecovery.PythonText
import GpuFaultRecovery.Run

/-!
# The completion outbox

Watchers write critical completion events ahead into one ConfigMap, deliver them, and clear them. Every change of the
log reads the object and replaces it under the version it read; a replay works through a snapshot of the log. The
calls of any number of watchers interleave between these reads, replaces and deliveries, and stop anywhere.
-/

namespace GpuFaultRecovery

/-! ### Paths, keys and sizes -/

/-- `CRITICAL_COMPLETION_PATHS`. -/
def criticalCompletionPaths : List String := ["/v1/attempts/failure-detected", "/v1/attempts/terminal"]

def workloadObservationPath : String := "/v1/workload-observations"

/-- `path.rsplit("/", 1)[-1]`. -/
def lastSegment (path : String) : String :=
  String.ofList (path.toList.reverse.takeWhile fun c => c != '/').reverse

/-- `str(payload.get(key) or "")`, for texts. -/
def payloadText (payload : Details) (key : String) : String :=
  match payload.get? key with
  | some (.str text) => text
  | _ => ""

/-- `_record_key`; a payload without both ids has none. -/
def recordKey (path : String) (payload : Details) : Option String :=
  let clusterId := payloadText payload "cluster_id"
  let attemptId := payloadText payload "attempt_id"
  if clusterId = "" ∨ attemptId = "" then none
  else some (clusterId ++ "/" ++ attemptId ++ "/" ++ lastSegment path)

namespace Json

/-- The bytes a character takes in a JSON text: everything but printable ASCII is escaped. -/
def charBytes (c : Char) : Nat :=
  let n := c.toNat
  if n = 34 ∨ n = 92 ∨ n = 8 ∨ n = 9 ∨ n = 10 ∨ n = 12 ∨ n = 13 then 2
  else if 32 ≤ n ∧ n ≤ 126 then 1
  else if n ≤ 65535 then 6
  else 12

def textBytes (text : String) : Nat := 2 + (text.toList.map charBytes).sum

def intBytes (n : Int) : Nat := (if n < 0 then 1 else 0) + (Nat.toDigits 10 n.natAbs).length

mutual

/-- The bytes of `json.dumps(value, separators=(",", ":"))`. -/
def bytes : Json → Nat
  | .null => 4
  | .bool b => if b then 4 else 5
  | .int n => intBytes n
  | .dec mantissa digits => (PythonText.reprFloat mantissa digits).length
  | .str text => textBytes text
  | .arr items => 2 + itemBytes items + (items.length - 1)
  | .obj fields => 2 + fieldBytes fields + (fields.length - 1)

def itemBytes : List Json → Nat
  | [] => 0
  | item :: items => bytes item + itemBytes items

def fieldBytes : List (String × Json) → Nat
  | [] => 0
  | (key, value) :: fields => textBytes key + 1 + bytes value + fieldBytes fields

end

end Json

/-! ### Records -/

/-- A record of the write-ahead log. -/
structure OutboxRecord where
  key : String
  path : String
  payload : Details
  bufferedAt : Time
  attempts : Nat := 0
  quarantined : Bool := false
  delivered : Bool := false
  /-- The verdicts that failed deliveries left on it. -/
  verdicts : Details := []
deriving Repr, DecidableEq

namespace OutboxRecord

def critical (item : OutboxRecord) : Bool := criticalCompletionPaths.contains item.path

def toJson (item : OutboxRecord) : Json :=
  .obj ([("key", .str item.key), ("path", .str item.path), ("payload", .obj item.payload),
    ("buffered_at", .int item.bufferedAt), ("attempts", .int item.attempts),
      ("quarantined", .bool item.quarantined)] ++
    (if item.delivered then [("delivered", .bool true)] else []) ++ item.verdicts)

end OutboxRecord

structure OutboxConfig where
  maxRecords : Nat := 256
  maxBytes : Nat := 900000
  maxBufferedTailBytes : Nat := 8192
  replayBatchSize : Nat := 32
  maxRetryAge : Time := 24 * 3600
  /-- The bytes of the keys and values of the object beside the log. -/
  otherBytes : Nat := 0

def OutboxConfig.objectBytes (config : OutboxConfig) (log : List OutboxRecord) : Nat :=
  config.otherBytes + "events.json".length + Json.bytes (.arr (log.map OutboxRecord.toJson))

def OutboxConfig.Fits (config : OutboxConfig) (log : List OutboxRecord) : Prop :=
  log.length ≤ config.maxRecords ∧ config.objectBytes log ≤ config.maxBytes

instance OutboxConfig.decidableFits (config : OutboxConfig) (log : List OutboxRecord) : Decidable (config.Fits log) :=
  inferInstanceAs (Decidable (_ ∧ _))

/-- The longest tail of a text within `maxBytes` bytes that starts at a character. -/
def tailWithin (maxBytes : Nat) : List Char → List Char
  | [] => []
  | c :: text => if (((c :: text).map Char.utf8Size).sum) ≤ maxBytes then c :: text else tailWithin maxBytes text

/-- A log snapshot with its tail cut to the bound. -/
def trimmedSnapshot (maxBytes : Nat) (snapshot : Json) : Json :=
  match snapshot with
  | .obj fields =>
    match Details.get? fields "tail" with
    | some (.str tail) =>
      let kept := tailWithin maxBytes tail.toList
      if kept = tail.toList then snapshot
      else
        .obj (((Details.set fields "tail" (.str (String.ofList kept))).set "buffered_tail_bytes"
          (.int (kept.map Char.utf8Size).sum)).set "buffered_tail_truncated" (.bool true))
    | _ => snapshot
  | _ => snapshot

/-- `pointer_sized_completion_payload`. -/
def pointerSizedPayload (maxBytes : Nat) (payload : Details) : Details :=
  match payload.get? "workload_log_snapshots" with
  | some (.arr snapshots) =>
    let trimmed := snapshots.map (trimmedSnapshot maxBytes)
    if trimmed = snapshots then payload else payload.set "workload_log_snapshots" (.arr trimmed)
  | _ => payload

/-- `_oldest_quarantined`. -/
def oldestQuarantined (log : List OutboxRecord) : Option Nat :=
  ((log.zipIdx.filter fun entry => entry.1.quarantined).argmin fun entry => entry.1.bufferedAt).map Prod.snd

/-- `_evict_quarantined_for_room`; the log gets shorter with every eviction. -/
def evictQuarantinedForRoom (config : OutboxConfig) : Nat → List OutboxRecord → List OutboxRecord
  | 0, kept => kept
  | fuel + 1, kept =>
    if config.Fits kept then kept
    else
      match oldestQuarantined kept with
      | none => kept
      | some victim => evictQuarantinedForRoom config fuel (kept.eraseIdx victim)

/-! ### Changes of the log -/

structure OutboxEvent where
  key : String
  path : String
  payload : Details
deriving Repr, DecidableEq

/-- Why a record is removed: the control plane has its event, or it is too old by the time it was buffered at. -/
inductive Removal where
  | accepted
  | expired (bufferedAt : Time)
deriving Repr, DecidableEq

/-- The fields a failed delivery or a failed removal writes on a record. -/
inductive RecordUpdate where
  | retried (attempts : Nat) (verdicts : Details)
  | rejected (attempts : Nat) (verdicts : Details)
  | delivered
deriving Repr, DecidableEq

inductive LogWrite where
  | append (event : OutboxEvent)
  | upsert (event : OutboxEvent)
  | remove (key : String) (reason : Removal)
  | update (key : String) (fields : RecordUpdate)
deriving Repr, DecidableEq

/-- `_buffered_record`. -/
def bufferedRecord (event : OutboxEvent) (payload : Details) (bufferedAt : Time) : OutboxRecord :=
  { key := event.key
    path := event.path
    payload
    bufferedAt }

def RecordUpdate.apply (fields : RecordUpdate) (item : OutboxRecord) : OutboxRecord :=
  match fields with
  | .retried attempts verdicts =>
    { item with
      attempts
      verdicts := Details.merge item.verdicts verdicts }
  | .rejected attempts verdicts =>
    { item with
      attempts
      quarantined := true
      verdicts := Details.merge item.verdicts verdicts }
  | .delivered =>
    { item with
      attempts := 0
      quarantined := false
      delivered := true }

def rewritten (config : OutboxConfig) (now : Time) (log : List OutboxRecord) : LogWrite → List OutboxRecord
  | .append event =>
    if log.any fun item => item.key == event.key then log
    else
      let item := bufferedRecord event (pointerSizedPayload config.maxBufferedTailBytes event.payload) now
      evictQuarantinedForRoom config (log.length + 1) (log ++ [item])
  | .upsert event => (log.filter fun item => item.key != event.key) ++ [bufferedRecord event event.payload now]
  | .remove key _ => log.filter fun item => item.key != key
  | .update key fields => log.map fun item => if item.key = key then fields.apply item else item

/-! ### Calls -/

/-- What follows a write of the log. -/
inductive AfterWrite where
  | deliver (event : OutboxEvent)
  | cleared (key : String)
  | finish
  | replay (rest : List OutboxRecord)

/-- What follows a delivery. -/
inductive AfterDelivery where
  | unbuffered
  | clear
  | observed
  | record (item : OutboxRecord) (rest : List OutboxRecord)

/-- Where a call stands: before the read of a write, before its replace, or before a delivery. -/
inductive OutboxPhase where
  | idle
  | reading (write : LogWrite) (attempt : Nat) (next : AfterWrite)
  | replacing (write : LogWrite) (attempt : Nat) (updated : List OutboxRecord) (version : Nat) (next : AfterWrite)
  | delivering (event : OutboxEvent) (next : AfterDelivery)

/-- The object, the clock, the keys of the events the control plane accepted, and the calls under way. -/
structure OutboxWorld where
  log : List OutboxRecord := []
  version : Nat := 0
  clock : Time := 0
  accepted : List String := []
  calls : Nat → OutboxPhase := fun _ => .idle

inductive ReplaceAnswer where
  | replaced
  | conflict
  | failed
deriving Repr, DecidableEq

/-- What a delivery comes back with. A failure is a verdict on the event or one to retry, with the fields it is noted
in. -/
inductive DeliveryAnswer where
  | accepted
  | failed (retryable : Bool) (verdicts : Details)
deriving Repr, DecidableEq

inductive OutboxStep where
  | post (call : Nat) (path : String) (payload : Details)
  | replay (call : Nat) (includeQuarantined : Bool)
  | read (call : Nat) (ok : Bool)
  | replace (call : Nat) (answer : ReplaceAnswer)
  | deliver (call : Nat) (answer : DeliveryAnswer)
  | stop (call : Nat)
  | tick (elapsed : Nat)
deriving Repr, DecidableEq

namespace OutboxWorld

variable (w : OutboxWorld)

def goTo (call : Nat) (phase : OutboxPhase) : OutboxWorld :=
  { w with calls := fun other => if other = call then phase else w.calls other }

def accept (key : String) : OutboxWorld := { w with accepted := key :: w.accepted }

def replayNext (rest : List OutboxRecord) : OutboxPhase :=
  match rest with
  | [] => .idle
  | item :: rest =>
    if item.delivered then .reading (.remove item.key .accepted) 0 (.replay rest)
    else .delivering { key := item.key, path := item.path, payload := item.payload } (.record item rest)

/-- A write is done, with nothing to do or with a replace. -/
def written (next : AfterWrite) : OutboxPhase :=
  match next with
  | .deliver event => .delivering event .clear
  | .cleared _ => .idle
  | .finish => .idle
  | .replay rest => replayNext rest

/-- A write raised. An event that could not be buffered is delivered all the same, and a delivered one is flagged. -/
def raised (next : AfterWrite) : OutboxPhase :=
  match next with
  | .deliver event => .delivering event .unbuffered
  | .cleared key => .reading (.update key .delivered) 0 .finish
  | .finish => .idle
  | .replay _ => .idle

/-- An event that is buffered and not quarantined is left to the replay. -/
def deferred (write : LogWrite) : Bool :=
  match write with
  | .append event => (w.log.find? fun item => item.key == event.key).any fun item => !item.quarantined
  | _ => false

def readLog (config : OutboxConfig) (write : LogWrite) (attempt : Nat) (next : AfterWrite) : OutboxPhase :=
  let updated := rewritten config w.clock w.log write
  if updated = w.log then if w.deferred write then .idle else written next
  else if config.Fits updated then .replacing write attempt updated w.version next
  else raised next

def replayFailure (config : OutboxConfig) (item : OutboxRecord) (rest : List OutboxRecord) (retryable : Bool)
    (verdicts : Details) : OutboxPhase :=
  if !retryable then .reading (.update item.key (.rejected (item.attempts + 1) verdicts)) 0 (.replay rest)
  else if item.quarantined || decide (w.clock - item.bufferedAt < config.maxRetryAge) then
    .reading (.update item.key (.retried (item.attempts + 1) verdicts)) 0 (.replay rest)
  else .reading (.remove item.key (.expired item.bufferedAt)) 0 (.replay rest)

end OutboxWorld

def outboxStep (config : OutboxConfig) (w : OutboxWorld) : OutboxStep → OutboxWorld
  | .post call path payload =>
    match w.calls call, recordKey path payload with
    | .idle, some key =>
      if path = workloadObservationPath then w.goTo call (.delivering { key, path, payload } .observed)
      else if criticalCompletionPaths.contains path then
        w.goTo call (.reading (.append { key, path, payload }) 0 (.deliver { key, path, payload }))
      else w
    | _, _ => w
  | .replay call includeQuarantined =>
    match w.calls call with
    | .idle =>
      let candidates := w.log.filter fun item => includeQuarantined || !item.quarantined
      w.goTo call (OutboxWorld.replayNext (candidates.take config.replayBatchSize))
    | _ => w
  | .read call ok =>
    match w.calls call with
    | .reading write attempt next =>
      w.goTo call (if ok then w.readLog config write attempt next else OutboxWorld.raised next)
    | _ => w
  | .replace call answer =>
    match w.calls call with
    | .replacing write attempt updated version next =>
      if answer = .replaced ∧ version = w.version then
        { w with
          log := updated
          version := w.version + 1 }.goTo call (OutboxWorld.written next)
      else if answer ≠ .failed ∧ attempt < 2 then w.goTo call (.reading write (attempt + 1) next)
      else w.goTo call (OutboxWorld.raised next)
    | _ => w
  | .deliver call answer =>
    match w.calls call with
    | .delivering event next =>
      match next, answer with
      | .unbuffered, .accepted => (w.accept event.key).goTo call .idle
      | .clear, .accepted =>
        (w.accept event.key).goTo call (.reading (.remove event.key .accepted) 0 (.cleared event.key))
      | .observed, .accepted => (w.accept event.key).goTo call .idle
      | .record item rest, .accepted =>
        (w.accept event.key).goTo call (.reading (.remove item.key .accepted) 0 (.replay rest))
      | .unbuffered, .failed _ _ => w.goTo call .idle
      | .clear, .failed _ _ => w.goTo call .idle
      | .observed, .failed _ _ => w.goTo call (.reading (.upsert event) 0 .finish)
      | .record item rest, .failed retryable verdicts =>
        w.goTo call (w.replayFailure config item rest retryable verdicts)
    | _ => w
  | .stop call => w.goTo call .idle
  | .tick elapsed => { w with clock := w.clock + elapsed }

end GpuFaultRecovery
