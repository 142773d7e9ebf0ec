import Mathlib.Algebra.Group.Nat.Defs
import GpuFaultRecovery.ListEdits
import GpuFaultRecovery.NotificationLeases
import GpuFaultRecovery.RemoteCommand

/-!
# Dispatcher replicas and the verdict on a notification

A replica claims a batch of deliveries and takes each through the same course: it reads the notification, retires it
when it is a drill or past its shelf life, finds it delivered already, or asks the provider; then it writes the
outcome under its lease. A write that finds the lease gone still records a verdict, without any lease. Replicas, the
operator and the watermark interleave between any two of these steps.
-/

namespace GpuFaultRecovery

/-- What the dispatch of a delivery reads of its configuration. -/
structure DispatchPolicy where
  deliverDrills : Bool := false
  deliverBacklog : Bool := false
  ttlSeconds : Nat := 21600
  categoryOverride : String → Option Nat := fun _ => none
  maxAttempts : Nat := 8
  retryBaseSeconds : Nat := 15
  retryMaxSeconds : Nat := 900
  isoformat : Time → String

namespace DispatchPolicy

/-- `CATEGORY_TTL_SECONDS`. -/
def categoryTtl : List (String × Nat) := [("HEALTH_TREND", 3600)]

/-- Shelf life of a category in seconds; `0` means it never expires. -/
def categoryTtlSeconds (policy : DispatchPolicy) (category : String) : Nat :=
  match policy.categoryOverride category with
  | some value => value
  | none =>
    if policy.ttlSeconds = 0 then 0
    else min policy.ttlSeconds ((categoryTtl.lookup category).getD policy.ttlSeconds)

def suppresses (policy : DispatchPolicy) (notification : AdvisoryNotification) : Option String :=
  if policy.deliverDrills then none
  else notification.drillId.map fun drill =>
    "drill " ++ drill ++ ": not delivered because it describes a fault that did not happen (set " ++
      "GPU_FAULT_NOTIFICATION_DELIVER_DRILLS=true to mail drills)"

def deliveryDeadline (policy : DispatchPolicy) (notification : AdvisoryNotification)
    (delivery : NotificationDelivery) :
    Option Time :=
  let ttl := policy.categoryTtlSeconds notification.category
  if policy.deliverBacklog || ttl == 0 then none
  else
    let later := fun (anchor : Time) (candidate : Option Time) =>
      candidate.elim anchor fun instant => if anchor < instant then instant else anchor
    some (later (later notification.createdAt notification.notBefore) delivery.requeuedAt + ttl * 1000000)

def expiryReason (policy : DispatchPolicy) (notification : AdvisoryNotification) (deadline now : Time) : String :=
  "expired: " ++ toString (roundHalfEven (now - notification.createdAt) 1000000) ++ "s old, past its " ++
    toString (policy.categoryTtlSeconds notification.category) ++ "s " ++ notification.category ++
    " shelf life (deadline " ++ policy.isoformat deadline ++ ")"

def retryDelay (policy : DispatchPolicy) (attempts : Nat) : Nat :=
  min policy.retryMaxSeconds (policy.retryBaseSeconds * 2 ^ (attempts - 1))

end DispatchPolicy

/-! ### One claimed delivery -/

/-- Where a replica is with a claimed delivery. -/
inductive AttemptPhase where
  | claimed
  | asking
  | retiring (reason : String)
  | recording (result : NotificationResult) (now : Time) (retryAt : Option Time) (terminal : Bool)
  | failing
  | done
deriving DecidableEq, Repr

/-- A claimed delivery in the hands of a replica; `cycleStart` is the instant of its cycle. -/
structure DeliveryAttempt where
  ownerId : String
  delivery : NotificationDelivery
  cycleStart : Time
  phase : AttemptPhase := .claimed
deriving DecidableEq, Repr

def DeliveryAttempt.notificationId (attempt : DeliveryAttempt) : String := attempt.delivery.notificationId

/-- What the provider answers; a raised error is told apart only by whether it is a rate limit. -/
inductive ProviderAnswer where
  | result (status : NotificationStatus) (providerMessageId reason : Option String)
  | raises (text : String)
  | throttled
deriving DecidableEq, Repr

/-- `_dispatch_one` up to the call of the provider. -/
def readDelivery (policy : DispatchPolicy) (st : NotificationStore) (attempt : DeliveryAttempt) (now : Time) :
    AttemptPhase :=
  match st.notifications.get? attempt.notificationId with
  | none => .failing
  | some notification =>
    match policy.suppresses notification with
    | some reason => .retiring reason
    | none =>
      match policy.deliveryDeadline notification attempt.delivery with
      | some deadline =>
        if deadline ≤ attempt.cycleStart then
          .retiring (policy.expiryReason notification deadline attempt.cycleStart)
        else readRecorded notification
      | none => readRecorded notification
where
  /-- A verdict SENT that came since the claim is not sent again. -/
  readRecorded (notification : AdvisoryNotification) : AttemptPhase :=
    match (st.result? notification.notificationId).filter fun recorded => recorded.status == .sent with
    | some recorded =>
      let reason := (recorded.reason.filter fun reason => reason != "").or
        (some "already delivered by another path; not sent again")
      .recording { recorded with reason } now none false
    | none => .asking

/-- `_dispatch_one` from the provider's answer on; a rate limit hands the delivery back. -/
def answeredBy (policy : DispatchPolicy) (attempt : DeliveryAttempt) (answer : ProviderAnswer) (now : Time) :
    AttemptPhase :=
  let attempts := attempt.delivery.attempts + 1
  let retryAt := some (now + policy.retryDelay attempts * 1000000)
  let outcome := fun (result : NotificationResult) =>
    AttemptPhase.recording result now retryAt (decide (result.status ≠ .sent ∧ policy.maxAttempts ≤ attempts))
  match answer with
  | .throttled => .failing
  | .raises text =>
    outcome
      { notificationId := attempt.notificationId
        status := .failed
        reason := some text }
  | .result status providerMessageId reason =>
    -- the provider has accepted it before
    if status = .duplicate ∧ (providerMessageId.any fun id => id != "") then
      outcome
        { notificationId := attempt.notificationId
          status := .sent
          providerMessageId
          reason := (reason.filter fun text => text != "").or (some "provider already accepted this notification") }
    else
      outcome
        { notificationId := attempt.notificationId
          status
          providerMessageId
          reason }

/-! ### Writing the outcome -/

/-- How the store fails a write: not at all, the completion only, or the record after it too. -/
inductive StoreFault where
  | none
  | completion
  | both
deriving DecidableEq, Repr

/-- The store after a write, and whether the caller hands the row back. -/
structure WrittenOutcome where
  store : NotificationStore
  failing : Bool := false

def recordDeliveryOutcome (st : NotificationStore) (attempt : DeliveryAttempt) (result : NotificationResult)
    (now : Time) (retryAt : Option Time) (terminal : Bool) (fault : StoreFault) : WrittenOutcome :=
  match fault with
  | .none =>
    match st.completeNotificationDelivery attempt.notificationId attempt.ownerId attempt.delivery.leaseEpoch
      result now
        retryAt terminal with
    | .ok completed => { store := completed.1 }
    | .error _ =>
      -- the lease is gone: a verdict is recorded without it
      if result.status = .sent ∨ terminal then { store := st.saveNotificationResult result } else { store := st }
  | .completion =>
    if result.status = .sent then
      { store := st.saveNotificationResult result
        failing := true }
    else
      { store := st
        failing := true }
  | .both =>
    { store := st
      failing := true }

def retireDelivery (st : NotificationStore) (attempt : DeliveryAttempt) (reason : String) (now : Time)
    (fault : StoreFault) : WrittenOutcome :=
  let result : NotificationResult :=
    { notificationId := attempt.notificationId
      status := .skipped
      reason := some reason }
  match fault with
  | .none =>
    match st.completeNotificationDelivery attempt.notificationId attempt.ownerId attempt.delivery.leaseEpoch
      result now
        .none true with
    | .ok completed => { store := completed.1 }
    | .error _ => { store := st.saveNotificationResult result }
  | _ =>
    { store := st
      failing := true }

/-! ### Runs -/

structure DispatchState where
  store : NotificationStore
  attempts : List DeliveryAttempt := []

inductive DispatchEvent where
  | save (notification : AdvisoryNotification) (incidentDrillId : Option String) (now : Time)
  | claim (ownerId : String) (now : Time) (leaseDuration : Int) (limit : Nat)
  | read (index : Nat) (now : Time)
  | answer (index : Nat) (answer : ProviderAnswer) (now : Time)
  | write (index : Nat) (now : Time) (fault : StoreFault)
  | release (index : Nat) (now retryAt : Time)
  | requeue (notificationId : String) (now : Time)
  | enqueue (notificationId : String) (now : Time)
  | establish (ownerId : String) (establishedAt : Time) (establishedBy : String) (suppressBacklog : Bool)

namespace DispatchState

def setPhase (s : DispatchState) (index : Nat) (phase : AttemptPhase) : DispatchState :=
  { s with attempts := s.attempts.modify index fun attempt => { attempt with phase } }

def claimedDeliveries (s : DispatchState) : DispatchEvent → List NotificationDelivery
  | .claim ownerId now leaseDuration limit =>
    (s.store.claimNotificationDeliveries ownerId now leaseDuration limit).2
  | _ => []

def written (s : DispatchState) (index : Nat) (outcome : WrittenOutcome) : DispatchState :=
  { s.setPhase index (if outcome.failing then .failing else .done) with store := outcome.store }

/-- An operator's `requeue`. -/
def requeue (st : NotificationStore) (notificationId : String) (now : Time) : NotificationStore :=
  if st.sent notificationId then st
  else match st.enqueueNotificationDelivery notificationId now with
    | .ok queued => queued.1
    | .error _ => st

end DispatchState

open DispatchState in
def dispatchStep (policy : DispatchPolicy) (s : DispatchState) : DispatchEvent → DispatchState
  | .save notification incidentDrillId now =>
    match s.store.saveNotificationIfAbsent notification incidentDrillId now with
    | .ok saved => { s with store := saved.1 }
    | .error _ => s
  | .claim ownerId now leaseDuration limit =>
    let claim := s.store.claimNotificationDeliveries ownerId now leaseDuration limit
    { store := claim.1
      attempts := s.attempts ++ claim.2.map fun delivery =>
        { ownerId
          delivery
          cycleStart := now } }
  | .read index now =>
    match s.attempts[index]? with
    | none => s
    | some attempt =>
      if attempt.phase = .claimed then s.setPhase index (readDelivery policy s.store attempt now) else s
  | .answer index answer now =>
    match s.attempts[index]? with
    | none => s
    | some attempt =>
      if attempt.phase = .asking then s.setPhase index (answeredBy policy attempt answer now) else s
  | .write index now fault =>
    match s.attempts[index]? with
    | none => s
    | some attempt =>
      match attempt.phase with
      | .retiring reason => s.written index (retireDelivery s.store attempt reason now fault)
      | .recording result recordedAt retryAt terminal =>
        s.written index (recordDeliveryOutcome s.store attempt result recordedAt retryAt terminal fault)
      | _ => s
  | .release index now retryAt =>
    match s.attempts[index]? with
    | none => s
    | some attempt =>
      if attempt.phase = .done then s
      else
        { s.setPhase index .done with
          store := (s.store.releaseNotificationDelivery attempt.notificationId attempt.ownerId
            attempt.delivery.leaseEpoch now retryAt).1 }
  | .requeue notificationId now => { s with store := requeue s.store notificationId now }
  -- the write of a requeue whose check was made earlier
  | .enqueue notificationId now =>
    match s.store.enqueueNotificationDelivery notificationId now with
    | .ok queued => { s with store := queued.1 }
    | .error _ => s
  | .establish ownerId establishedAt establishedBy suppressBacklog =>
    { s with
      store := (s.store.establishNotificationWatermark ownerId establishedAt establishedBy suppressBacklog).1 }

/-! ### The verdict along a run -/

namespace DeliveryAttempt

def leased (attempt : DeliveryAttempt) (st : NotificationStore) (now : Option Time) : Bool :=
  (checkDeliveryLease (st.deliveries.get? attempt.notificationId) attempt.ownerId attempt.delivery.leaseEpoch
    now).toBool

/-- The next write of the attempt is a final verdict other than SENT. -/
def givesUp (attempt : DeliveryAttempt) : Bool :=
  match attempt.phase with
  | .retiring _ => true
  | .recording result _ _ terminal => terminal && result.status != .sent
  | _ => false

/-- The notification that the next write of the attempt records as SENT. -/
def sends? (attempt : DeliveryAttempt) : Option String :=
  match attempt.phase with
  | .recording result _ _ _ => if result.status = .sent then some result.notificationId else none
  | _ => none

/-- The time the next write of the attempt gives the store. -/
def writtenAt (attempt : DeliveryAttempt) (now : Time) : Time :=
  match attempt.phase with
  | .recording _ recordedAt _ _ => recordedAt
  | _ => now

/-- The attempt can give its delivery up whatever is recorded: it is a drill or past its shelf life, or the provider
is asked for the last time. -/
def mayGiveUp (policy : DispatchPolicy) (st : NotificationStore) (attempt : DeliveryAttempt) : Bool :=
  match attempt.phase with
  | .claimed =>
    (st.notifications.get? attempt.notificationId).any fun notification =>
      (policy.suppresses notification).isSome ||
        (policy.deliveryDeadline notification attempt.delivery).any fun deadline =>
          decide (deadline ≤ attempt.cycleStart)
  | .asking => decide (policy.maxAttempts ≤ attempt.delivery.attempts + 1)
  | _ => attempt.givesUp

end DeliveryAttempt

/-- A replica gives a delivery up under its live lease only, and records SENT outside a leased completion only while
the holder of the lease, if there is one, cannot give the delivery up any more. -/
def VerdictsFenced (policy : DispatchPolicy) (s : DispatchState) : DispatchEvent → Prop
  | .write index now fault => ∀ attempt ∈ s.attempts[index]?,
    (attempt.givesUp = true → fault = .none → attempt.leased s.store (some (attempt.writtenAt now)) = true) ∧
    ∀ id ∈ attempt.sends?, fault ≠ .both →
      (fault = .none → attempt.leased s.store (some (attempt.writtenAt now)) = false) →
      ∀ holder ∈ s.attempts, holder.notificationId = id → holder.leased s.store none = true →
        holder.mayGiveUp policy s.store = false
  | _ => True

instance (policy : DispatchPolicy) (s : DispatchState) (event : DispatchEvent) :
    Decidable (VerdictsFenced policy s event) :=
  match event with
  | .write index _ _ => inferInstanceAs (Decidable (∀ attempt ∈ s.attempts[index]?, _ ∧ _))
  | .save .. | .claim .. | .read .. | .answer .. | .release .. | .requeue .. | .enqueue .. | .establish .. =>
    isTrue trivial

section Verdict

variable {st : NotificationStore} {id : String} {attempt : DeliveryAttempt} {result : NotificationResult}

private theorem sent_put {results : Table (Prod.fst : String × NotificationResult → String)} {key : String}
    (hresults : results = st.results.put (key, result)) {st' : NotificationStore} (hst : st'.results = results) :
    st'.sent id = if id = key then result.status == .sent else st.sent id := by
  unfold NotificationStore.sent NotificationStore.result?
  rw [hst, hresults, Table.get?_put]
  split <;> rfl

private theorem sent_of_get?_eq {st' : NotificationStore} (h : st'.results.get? id = st.results.get? id) :
    st'.sent id = st.sent id := by
  unfold NotificationStore.sent NotificationStore.result?
  rw [h]

private theorem sent_eq_false_of_get? {entry : String × NotificationResult} (h : st.results.get? id = some entry)
    (hstatus : entry.2.status ≠ .sent) : st.sent id = false := by
  unfold NotificationStore.sent NotificationStore.result?
  rw [h]
  simpa using hstatus

private theorem complete_results {ownerId : String} {leaseEpoch : Nat} {now : Time} {retryAt : Option Time}
    {terminal : Bool} {completed : NotificationStore × NotificationDelivery}
    (h : st.completeNotificationDelivery id ownerId leaseEpoch result now retryAt terminal = .ok completed) :
    completed.1.results = if result.status = .sent ∨ terminal = true then st.results.put (id, result)
      else st.results := by
  obtain ⟨current, -, hcompleted⟩ := bind_ok h
  obtain rfl := Except.ok.inj hcompleted
  dsimp only [NotificationDelivery.completed]
  by_cases hsent : result.status = .sent
  · simp [hsent]
  · cases terminal <;> simp [hsent]

/-- A watermark leaves every SENT verdict and makes none. -/
private theorem sent_establish (st : NotificationStore) (ownerId : String) (establishedAt : Time)
    (establishedBy : String) (suppressBacklog : Bool) (id : String) :
    (st.establishNotificationWatermark ownerId establishedAt establishedBy suppressBacklog).1.sent id =
      st.sent id := by
  unfold NotificationStore.establishNotificationWatermark
  split
  · rfl
  · cases suppressBacklog with
    | false => rfl
    | true =>
      dsimp only
      by_cases hmem : ∃ delivery ∈ st.backlog establishedAt, delivery.notificationId = id
      · obtain ⟨delivery, hdelivery, rfl⟩ := hmem
        obtain ⟨-, hnot, -⟩ := NotificationStore.mem_backlog hdelivery
        have hvalue := List.mem_map_of_mem (f := fun victim : NotificationDelivery =>
          (victim.notificationId, NotificationResult.mk victim.notificationId .skipped none
            (some ("suppressed as pre-watermark backlog by " ++ establishedBy)))) hdelivery
        obtain ⟨other, hother, hid, hget⟩ := Table.get?_putAll_of_mem (t := st.results) ⟨_, hvalue, rfl⟩
        obtain ⟨victim, -, rfl⟩ := List.mem_map.mp hother
        rw [hnot]
        exact sent_eq_false_of_get? hget (by simp)
      · refine sent_of_get?_eq ?_
        refine Table.get?_putAll_of_forall_ne fun value hvalue hid => hmem ?_
        obtain ⟨victim, hvictim, rfl⟩ := List.mem_map.mp hvalue
        exact ⟨victim, hvictim, hid⟩

variable {s : DispatchState} {policy : DispatchPolicy} {event : DispatchEvent}

/-! ### Leases that are left -/

private theorem leased_none_iff :
    attempt.leased st none = true ↔ ∃ row, st.deliveries.get? attempt.notificationId = some row ∧
    row.status = .leased ∧ row.leaseOwner = some attempt.ownerId ∧ row.leaseEpoch = attempt.delivery.leaseEpoch := by
  unfold DeliveryAttempt.leased checkDeliveryLease
  split
  · rename_i hnone
    simp [hnone, Except.toBool]
  · rename_i row hrow
    simp only [hrow, Option.any_none, Bool.false_eq_true, or_false, Option.some.injEq, exists_eq_left']
    split
    · rename_i hstale
      simp only [Except.toBool, Bool.false_eq_true, false_iff]
      tauto
    · rename_i hvalid
      simp only [Except.toBool, true_iff]
      tauto

private theorem leased_of_live {now : Time} (h : attempt.leased st (some now) = true) :
    attempt.leased st none = true := by
  unfold DeliveryAttempt.leased at h
  cases hcheck : checkDeliveryLease (st.deliveries.get? attempt.notificationId) attempt.ownerId
      attempt.delivery.leaseEpoch (some now) with
  | error _ =>
    rw [hcheck] at h
    cases h
  | ok row => exact leased_none_iff.mpr ⟨row, NotificationStore.checkDeliveryLease_ok hcheck⟩

/-- From `st` to `st'` nobody gains a lease, and the notification of a leased delivery is the one it was. -/
def LeasesLeft (st st' : NotificationStore) : Prop :=
  ∀ attempt : DeliveryAttempt, attempt.leased st' none = true → attempt.leased st none = true ∧
    st'.notifications.get? attempt.notificationId = st.notifications.get? attempt.notificationId

/-- Nobody gains a lease, and every notification has the verdict it had. -/
structure VerdictsLeft (st st' : NotificationStore) : Prop where
  sent : ∀ id, st'.sent id = st.sent id
  leases : LeasesLeft st st'

private theorem VerdictsLeft.refl (st : NotificationStore) : VerdictsLeft st st := ⟨fun _ => rfl, fun _ h => ⟨h, rfl⟩⟩

private theorem LeasesLeft.of_rows {st' : NotificationStore}
    (h : ∀ id row', st'.deliveries.get? id = some row' → row'.status = .leased →
      st'.notifications.get? id = st.notifications.get? id ∧ ∃ row, st.deliveries.get? id = some row ∧
        row.status = .leased ∧ row.leaseOwner = row'.leaseOwner ∧ row.leaseEpoch = row'.leaseEpoch) :
    LeasesLeft st st' := by
  intro attempt hleased
  obtain ⟨row', hrow', hstatus', howner', hepoch'⟩ := leased_none_iff.mp hleased
  obtain ⟨hnotification, row, hrow, hstatus, howner, hepoch⟩ := h _ row' hrow' hstatus'
  exact ⟨leased_none_iff.mpr ⟨row, hrow, hstatus, howner.trans howner', hepoch.trans hepoch'⟩, hnotification⟩

private theorem LeasesLeft.put {row' : NotificationDelivery} {st' : NotificationStore}
    (hdeliveries : st'.deliveries = st.deliveries.put row')
    (hnotifications : ∀ id, id ≠ row'.notificationId → st'.notifications.get? id = st.notifications.get? id)
    (hrow' : row'.status = .leased → st'.notifications.get? row'.notificationId =
      st.notifications.get? row'.notificationId ∧ ∃ row, st.deliveries.get? row'.notificationId = some row ∧
        row.status = .leased ∧ row.leaseOwner = row'.leaseOwner ∧ row.leaseEpoch = row'.leaseEpoch) :
    LeasesLeft st st' := by
  refine .of_rows fun id stored hstored hleased => ?_
  rw [hdeliveries, Table.get?_put] at hstored
  split at hstored
  · rename_i hid
    obtain rfl := Option.some.inj hstored
    rw [hid]
    exact hrow' hleased
  · rename_i hid
    exact ⟨hnotifications id hid, stored, hstored, hleased, rfl, rfl⟩

private theorem verdictsLeft_enqueue {now : Time} {queued : NotificationStore × NotificationDelivery}
    (h : st.enqueueNotificationDelivery id now = .ok queued) : VerdictsLeft st queued.1 := by
  unfold NotificationStore.enqueueNotificationDelivery at h
  split at h
  · cases h
  · obtain rfl := Except.ok.inj h
    refine ⟨fun _ => rfl, .put rfl (fun _ _ => rfl) fun hleased => ⟨rfl, ?_⟩⟩
    cases hcurrent : st.deliveries.get? id with
    | none =>
      rw [hcurrent] at hleased
      cases hleased
    | some current =>
      rw [hcurrent] at hleased
      have hkept := leaseKept_requeued current now
      obtain ⟨hwas, howner⟩ := hkept.holder hleased
      refine ⟨current, ?_, hwas, howner.symm, hkept.epoch.symm⟩
      rw [NotificationDelivery.requeued_notificationId, Table.key_of_get? hcurrent, hcurrent]

private theorem verdictsLeft_save {notification : AdvisoryNotification} {drill : Option String} {now : Time}
    {saved : NotificationStore × AdvisoryNotification}
    (h : st.saveNotificationIfAbsent notification drill now = .ok saved) : VerdictsLeft st saved.1 := by
  unfold NotificationStore.saveNotificationIfAbsent at h
  dsimp only at h
  split at h
  · split at h
    · obtain rfl := Except.ok.inj h
      exact .refl st
    · cases h
  · obtain rfl := Except.ok.inj h
    refine ⟨fun _ => rfl, .put rfl (fun id hid => ?_) fun hleased => by cases hleased⟩
    exact Table.get?_put_ne hid

private theorem verdictsLeft_release (st : NotificationStore) (notificationId ownerId : String) (leaseEpoch : Nat)
    (now retryAt : Time) :
    VerdictsLeft st (st.releaseNotificationDelivery notificationId ownerId leaseEpoch now retryAt).1 := by
  unfold NotificationStore.releaseNotificationDelivery
  split
  · exact .refl st
  · exact ⟨fun _ => rfl, .put rfl (fun _ _ => rfl) fun hleased => by cases hleased⟩

private theorem verdictsLeft_establish (st : NotificationStore) (ownerId : String) (establishedAt : Time)
    (establishedBy : String) (suppressBacklog : Bool) :
    VerdictsLeft st (st.establishNotificationWatermark ownerId establishedAt establishedBy suppressBacklog).1 := by
  refine ⟨sent_establish st ownerId establishedAt establishedBy suppressBacklog, ?_⟩
  unfold NotificationStore.establishNotificationWatermark
  split
  · exact (VerdictsLeft.refl st).leases
  · cases suppressBacklog with
    | false => exact (VerdictsLeft.refl st).leases
    | true =>
      refine .of_rows fun id row' hrow' hleased => ⟨rfl, ?_⟩
      rcases st.deliveries_suppress establishedAt establishedBy id with hsame | ⟨row, reason, -, -, -, hafter⟩
      · exact ⟨row', hsame.symm.trans hrow', hleased, rfl, rfl⟩
      · obtain rfl := Option.some.inj (hrow'.symm.trans hafter)
        cases hleased

private theorem verdictsLeft_requeue (st : NotificationStore) (notificationId : String) (now : Time) :
    VerdictsLeft st (DispatchState.requeue st notificationId now) := by
  unfold DispatchState.requeue
  split
  · exact .refl st
  · split
    · rename_i queued hqueued
      exact verdictsLeft_enqueue hqueued
    · exact .refl st

/-- A completion ends the lease it was made under. -/
private theorem leasesLeft_complete {ownerId : String} {leaseEpoch : Nat} {now : Time} {retryAt : Option Time}
    {terminal : Bool} {completed : NotificationStore × NotificationDelivery}
    (h : st.completeNotificationDelivery id ownerId leaseEpoch result now retryAt terminal = .ok completed) :
    LeasesLeft st completed.1 ∧ ∀ attempt : DeliveryAttempt, attempt.notificationId = id →
      attempt.leased completed.1 none = false := by
  obtain ⟨current, hcheck, hcompleted⟩ := bind_ok h
  obtain rfl := Except.ok.inj hcompleted
  have hopen : (current.completed result now retryAt terminal).1.status ≠ .leased := by
    dsimp only [NotificationDelivery.completed]
    split
    · decide
    · split <;> decide
  have hname : current.notificationId = id := Table.key_of_get? (NotificationStore.checkDeliveryLease_ok hcheck).1
  have hid : id = (current.completed result now retryAt terminal).1.notificationId := hname.symm
  refine ⟨.put rfl (fun _ _ => rfl) fun hleased => absurd hleased hopen, fun attempt hattempt => ?_⟩
  rw [Bool.eq_false_iff]
  intro hleased
  obtain ⟨row, hrow, hstatus, -⟩ := leased_none_iff.mp hleased
  have hput : (st.deliveries.put (current.completed result now retryAt terminal).1).get? id = some row :=
    hattempt ▸ hrow
  rw [Table.get?_put, if_pos hid] at hput
  obtain rfl := Option.some.inj hput
  exact hopen hstatus

/-! ### What a holder can still do -/

/-- While a notification is recorded as SENT, the holder of its lease cannot give it up. -/
def HoldersSettled (policy : DispatchPolicy) (s : DispatchState) : Prop :=
  ∀ holder ∈ s.attempts, s.store.sent holder.notificationId = true → holder.leased s.store none = true →
    holder.mayGiveUp policy s.store = false

private theorem mayGiveUp_congr {st' : NotificationStore}
    (h : st'.notifications.get? attempt.notificationId = st.notifications.get? attempt.notificationId) :
    attempt.mayGiveUp policy st' = attempt.mayGiveUp policy st := by
  unfold DeliveryAttempt.mayGiveUp
  rw [h]

private theorem HoldersSettled.of_store (h : HoldersSettled policy s) {store : NotificationStore}
    (hleft : VerdictsLeft s.store store) :
    HoldersSettled policy { s with store } ∧ ∀ id, s.store.sent id = true → store.sent id = true := by
  refine ⟨fun holder hholder hrecorded hleased => ?_, fun id hbefore => (hleft.sent id).trans hbefore⟩
  obtain ⟨hwas, hnotification⟩ := hleft.leases holder hleased
  rw [mayGiveUp_congr hnotification]
  exact h holder hholder ((hleft.sent _).symm.trans hrecorded) hwas

private theorem HoldersSettled.of_phase (h : HoldersSettled policy s) {index : Nat} {phase : AttemptPhase}
    (hattempt : s.attempts[index]? = some attempt)
    (hphase : s.store.sent attempt.notificationId = true → attempt.mayGiveUp policy s.store = false →
      { attempt with phase }.mayGiveUp policy s.store = false) : HoldersSettled policy (s.setPhase index phase) := by
  intro holder hholder hrecorded hleased
  obtain ⟨j, hj⟩ := List.mem_iff_getElem?.mp hholder
  rcases ListEdits.getElem?_modify_cases hj with ⟨rfl, before, hbefore, rfl⟩ | ⟨-, hbefore⟩
  · obtain rfl := Option.some.inj (hattempt.symm.trans hbefore)
    exact hphase hrecorded (h attempt (List.mem_of_getElem? hattempt) hrecorded hleased)
  · exact h holder (List.mem_of_getElem? hbefore) hrecorded hleased

/-- A delivery that is not to be retired comes to the recorded SENT. -/
private theorem mayGiveUp_readDelivery {now : Time} (hclaimed : attempt.phase = .claimed)
    (hsent : st.sent attempt.notificationId = true) (h : attempt.mayGiveUp policy st = false) :
    { attempt with phase := readDelivery policy st attempt now }.mayGiveUp policy st = false := by
  have hrecorded : ∀ notification : AdvisoryNotification, notification.notificationId = attempt.notificationId →
      { attempt with phase := readDelivery.readRecorded st now notification }.mayGiveUp policy st = false := by
    intro notification hid
    unfold readDelivery.readRecorded
    rw [hid]
    split
    · simp [DeliveryAttempt.mayGiveUp, DeliveryAttempt.givesUp]
    · rename_i hnone
      unfold NotificationStore.sent at hsent
      cases hfound : st.result? attempt.notificationId with
      | none => simp [hfound] at hsent
      | some recorded => simp_all
  simp only [DeliveryAttempt.mayGiveUp, hclaimed] at h
  unfold readDelivery
  split
  · rfl
  rename_i notification hnotification
  rw [hnotification, Option.any_some, Bool.or_eq_false_iff] at h
  have hid : notification.notificationId = attempt.notificationId := Table.key_of_get? hnotification
  split
  · rename_i hreason
    rw [hreason] at h
    cases h.1
  split
  · rename_i deadline hdeadline
    rw [hdeadline] at h
    rw [if_neg (by simpa using h.2)]
    exact hrecorded notification hid
  · exact hrecorded notification hid

private theorem mayGiveUp_of_givesUp (h : attempt.givesUp = true) : attempt.mayGiveUp policy st = true := by
  unfold DeliveryAttempt.mayGiveUp
  split
  · rename_i hphase
    simp [DeliveryAttempt.givesUp, hphase] at h
  · rename_i hphase
    simp [DeliveryAttempt.givesUp, hphase] at h
  · exact h

private theorem mayGiveUp_answeredBy {answer : ProviderAnswer} {now : Time} (hasking : attempt.phase = .asking)
    (h : attempt.mayGiveUp policy st = false) :
    { attempt with phase := answeredBy policy attempt answer now }.mayGiveUp policy st = false := by
  simp only [DeliveryAttempt.mayGiveUp, hasking, decide_eq_false_iff_not] at h
  unfold answeredBy
  dsimp only
  split
  · rfl
  · simp [DeliveryAttempt.mayGiveUp, DeliveryAttempt.givesUp, h]
  · split <;> simp [DeliveryAttempt.mayGiveUp, DeliveryAttempt.givesUp, h]

/-- What a write can do if verdicts are fenced: nothing, the completion of its own lease, or the record of SENT while
nobody who holds the lease can give up. -/
inductive FencedWrite (policy : DispatchPolicy) (s : DispatchState) (attempt : DeliveryAttempt) :
    NotificationStore → Prop
  | idle : FencedWrite policy s attempt s.store
  | completed (result : NotificationResult) (now : Time) (retryAt : Option Time) (terminal : Bool)
      (written : NotificationStore × NotificationDelivery)
      (hwritten : s.store.completeNotificationDelivery attempt.notificationId attempt.ownerId
        attempt.delivery.leaseEpoch result now retryAt terminal = .ok written)
      (hgives : result.status ≠ .sent → terminal = true → attempt.givesUp = true) :
      FencedWrite policy s attempt written.1
  | saved (result : NotificationResult) (hsent : result.status = .sent)
      (hholders : ∀ holder ∈ s.attempts, holder.notificationId = result.notificationId →
        holder.leased s.store none = true → holder.mayGiveUp policy s.store = false) :
      FencedWrite policy s attempt (s.store.saveNotificationResult result)

private theorem complete_of_leased {now : Time} {retryAt : Option Time} {terminal : Bool} :
    (∃ written, st.completeNotificationDelivery attempt.notificationId attempt.ownerId
      attempt.delivery.leaseEpoch result
      now retryAt terminal = .ok written) ↔ attempt.leased st (some now) = true := by
  unfold NotificationStore.completeNotificationDelivery DeliveryAttempt.leased
  cases checkDeliveryLease (st.deliveries.get? attempt.notificationId) attempt.ownerId attempt.delivery.leaseEpoch
    (some now) <;> simp [bind, Except.bind, pure, Except.pure, Except.toBool]

private theorem fencedWrite_retire {index : Nat} {now : Time} {fault : StoreFault} {reason : String}
    (hfenced : VerdictsFenced policy s (.write index now fault)) (hattempt : s.attempts[index]? = some attempt)
    (hphase : attempt.phase = .retiring reason) :
    FencedWrite policy s attempt (retireDelivery s.store attempt reason now fault).store := by
  have hgives : attempt.givesUp = true := by simp [DeliveryAttempt.givesUp, hphase]
  unfold retireDelivery
  cases fault with
  | none =>
    have hlive := (hfenced attempt hattempt).1 hgives rfl
    simp only [DeliveryAttempt.writtenAt, hphase] at hlive
    obtain ⟨written, hwritten⟩ := complete_of_leased.mpr hlive
    dsimp only
    rw [hwritten]
    exact .completed _ now none true written hwritten fun _ _ => hgives
  | completion => exact .idle
  | both => exact .idle

private theorem fencedWrite_record {index : Nat} {now recordedAt : Time} {retryAt : Option Time} {terminal : Bool}
    {fault : StoreFault} (hfenced : VerdictsFenced policy s (.write index now fault))
    (hattempt : s.attempts[index]? = some attempt)
    (hphase : attempt.phase = .recording result recordedAt retryAt terminal) :
    FencedWrite policy s attempt
      (recordDeliveryOutcome s.store attempt result recordedAt retryAt terminal fault).store := by
  obtain ⟨hlive, hholders⟩ := hfenced attempt hattempt
  simp only [DeliveryAttempt.writtenAt, hphase] at hlive hholders
  have hgives : result.status ≠ .sent → terminal = true → attempt.givesUp = true := by
    intro hnot hterminal
    simp [DeliveryAttempt.givesUp, hphase, hterminal, hnot]
  have hsends : result.status = .sent → result.notificationId ∈ attempt.sends? := by
    intro hsent
    simp [DeliveryAttempt.sends?, hphase, hsent]
  unfold recordDeliveryOutcome
  cases fault with
  | none =>
    dsimp only
    split
    · rename_i written hwritten
      exact .completed result recordedAt retryAt terminal written hwritten hgives
    · rename_i error herror
      have hlost : attempt.leased s.store (some recordedAt) = false := by
        rw [Bool.eq_false_iff]
        intro hleased
        obtain ⟨written, hwritten⟩ := complete_of_leased.mpr hleased
        rw [herror] at hwritten
        cases hwritten
      split
      · rename_i hverdict
        by_cases hsent : result.status = .sent
        · exact .saved result hsent (hholders _ (hsends hsent) (by decide) fun _ => hlost)
        · -- a delivery given up without its lease
          have hleased := hlive (hgives hsent (hverdict.resolve_left hsent)) rfl
          rw [hlost] at hleased
          cases hleased
      · exact .idle
  | completion =>
    dsimp only
    split
    · rename_i hsent
      exact .saved result hsent (hholders _ (hsends hsent) (by decide) (by rintro ⟨⟩))
    · exact .idle
  | both => exact .idle

/-- The completion of a lease ends it, and its holder could not give a SENT notification up. -/
private theorem HoldersSettled.of_completed {now : Time} {retryAt : Option Time} {terminal : Bool}
    {written : NotificationStore × NotificationDelivery} (h : HoldersSettled policy s)
    (hattempt : attempt ∈ s.attempts)
    (hwritten : s.store.completeNotificationDelivery attempt.notificationId attempt.ownerId
      attempt.delivery.leaseEpoch result now retryAt terminal = .ok written)
    (hgives : result.status ≠ .sent → terminal = true → attempt.givesUp = true) :
    HoldersSettled policy { s with store := written.1 } ∧
      ∀ id, s.store.sent id = true → written.1.sent id = true := by
  obtain ⟨hleft, hended⟩ := leasesLeft_complete hwritten
  have hresults := complete_results hwritten
  have hother : ∀ id, id ≠ attempt.notificationId → written.1.sent id = s.store.sent id := by
    intro id hid
    refine sent_of_get?_eq ?_
    rw [hresults]
    split
    · exact Table.get?_put_ne hid
    · rfl
  refine ⟨fun holder hholder hrecorded hleased => ?_, fun id hsent => ?_⟩
  · by_cases hid : holder.notificationId = attempt.notificationId
    · rw [hended holder hid] at hleased
      cases hleased
    · obtain ⟨hwas, hnotification⟩ := hleft holder hleased
      rw [mayGiveUp_congr hnotification]
      exact h holder hholder ((hother _ hid).symm.trans hrecorded) hwas
  · by_cases hid : id = attempt.notificationId
    · -- the writer held the lease, so it did not give a SENT notification up
      subst hid
      have hheld := leased_of_live (complete_of_leased.mp ⟨written, hwritten⟩)
      have hsettled := h attempt hattempt hsent hheld
      by_cases hverdict : result.status = .sent ∨ terminal = true
      · rw [if_pos hverdict] at hresults
        rw [sent_put rfl hresults, if_pos rfl]
        by_contra hnot
        have hgiven : attempt.mayGiveUp policy s.store = true :=
          mayGiveUp_of_givesUp (hgives (by simpa using hnot) (hverdict.resolve_left (by simpa using hnot)))
        rw [hsettled] at hgiven
        cases hgiven
      · rw [if_neg hverdict] at hresults
        exact (sent_of_get?_eq (by rw [hresults])).trans hsent
    · rw [hother id hid]
      exact hsent

/-- A fenced write keeps every SENT, and leaves no holder that can give a SENT notification up. -/
private theorem HoldersSettled.of_write {store : NotificationStore} (h : HoldersSettled policy s)
    (hattempt : attempt ∈ s.attempts) (hwrite : FencedWrite policy s attempt store) :
    HoldersSettled policy { s with store } ∧ ∀ id, s.store.sent id = true → store.sent id = true := by
  cases hwrite with
  | idle => exact ⟨h, fun _ hsent => hsent⟩
  | completed result now retryAt terminal written hwritten hgives => exact h.of_completed hattempt hwritten hgives
  | saved result hsent hholders =>
    have hafter : ∀ id, (s.store.saveNotificationResult result).sent id =
        if id = result.notificationId then true else s.store.sent id := by
      intro id
      rw [sent_put rfl rfl, hsent]
      rfl
    refine ⟨fun holder hholder hrecorded hleased => ?_, fun id hbefore => ?_⟩
    · rw [hafter] at hrecorded
      split at hrecorded
      · rename_i hid
        exact hholders holder hholder hid hleased
      · exact h holder hholder hrecorded hleased
    · rw [hafter]
      split
      · rfl
      · exact hbefore

/-- A claim takes deliveries of notifications without SENT, and leaves the rows of the others. -/
private theorem HoldersSettled.of_claim (h : HoldersSettled policy s) (ownerId : String) (now : Time)
    (leaseDuration : Int) (limit : Nat) :
    HoldersSettled policy (dispatchStep policy s (.claim ownerId now leaseDuration limit)) := by
  intro holder hholder hrecorded hleased
  have hsent : s.store.sent holder.notificationId = true := hrecorded
  have hkept : (s.store.claimNotificationDeliveries ownerId now leaseDuration limit).1.deliveries.get?
      holder.notificationId = s.store.deliveries.get? holder.notificationId := by
    refine NotificationStore.deliveries_claim_of_not_mem fun value hvalue hid => ?_
    obtain ⟨-, -, -, hnot, -⟩ := NotificationStore.mem_claimed hvalue
    rw [hid, hsent] at hnot
    cases hnot
  rcases List.mem_append.mp hholder with hold | hnew
  · refine h holder hold hsent ?_
    rw [leased_none_iff] at hleased ⊢
    rw [← hkept]
    exact hleased
  · obtain ⟨delivery, hdelivery, rfl⟩ := List.mem_map.mp hnew
    obtain ⟨-, -, -, hnot, -⟩ := NotificationStore.mem_claimed hdelivery
    have hsame : s.store.sent delivery.notificationId = true := hsent
    rw [hnot] at hsame
    cases hsame

/-- Every event with a fenced verdict keeps what holders cannot do, and every SENT. -/
private theorem HoldersSettled.step (h : HoldersSettled policy s) (hfenced : VerdictsFenced policy s event) :
    HoldersSettled policy (dispatchStep policy s event) ∧
      ∀ id, s.store.sent id = true → (dispatchStep policy s event).store.sent id = true := by
  have hsame : HoldersSettled policy s ∧ ∀ id, s.store.sent id = true → s.store.sent id = true := ⟨h, fun _ hs => hs⟩
  cases event with
  | save notification drill now =>
    dsimp only [dispatchStep]
    split
    · rename_i saved hsaved
      exact h.of_store (verdictsLeft_save hsaved)
    · exact hsame
  | claim ownerId now leaseDuration limit => exact ⟨h.of_claim ownerId now leaseDuration limit, fun _ hsent => hsent⟩
  | read index now =>
    dsimp only [dispatchStep]
    split
    · exact hsame
    · rename_i attempt hattempt
      split
      · rename_i hclaimed
        exact ⟨h.of_phase hattempt fun hsent hnot => mayGiveUp_readDelivery hclaimed hsent hnot, fun _ hsent => hsent⟩
      · exact hsame
  | answer index answer now =>
    dsimp only [dispatchStep]
    split
    · exact hsame
    · rename_i attempt hattempt
      split
      · rename_i hasking
        exact ⟨h.of_phase hattempt fun _ hnot => mayGiveUp_answeredBy hasking hnot, fun _ hsent => hsent⟩
      · exact hsame
  | write index now fault =>
    dsimp only [dispatchStep]
    split
    · exact hsame
    · rename_i attempt hattempt
      have hwritten : ∀ outcome : WrittenOutcome, FencedWrite policy s attempt outcome.store →
          HoldersSettled policy (s.written index outcome) ∧
            ∀ id, s.store.sent id = true → (s.written index outcome).store.sent id = true := by
        intro outcome hwrite
        obtain ⟨hsettled, hsent⟩ := h.of_write (List.mem_of_getElem? hattempt) hwrite
        refine ⟨hsettled.of_phase (s := { s with store := outcome.store }) hattempt fun _ _ => ?_, hsent⟩
        split <;> rfl
      split
      · rename_i reason hphase
        exact hwritten _ (fencedWrite_retire hfenced hattempt hphase)
      · rename_i result recordedAt retryAt terminal hphase
        exact hwritten _ (fencedWrite_record hfenced hattempt hphase)
      · exact hsame
  | release index now retryAt =>
    dsimp only [dispatchStep]
    split
    · exact hsame
    · rename_i attempt hattempt
      split
      · exact hsame
      · obtain ⟨hsettled, hsent⟩ := h.of_store
          (verdictsLeft_release s.store attempt.notificationId attempt.ownerId attempt.delivery.leaseEpoch
            now retryAt)
        exact ⟨hsettled.of_phase (s := { s with store := _ }) hattempt fun _ _ => rfl, hsent⟩
  | requeue notificationId now => exact h.of_store (verdictsLeft_requeue s.store notificationId now)
  | enqueue notificationId now =>
    dsimp only [dispatchStep]
    split
    · rename_i queued hqueued
      exact h.of_store (verdictsLeft_enqueue hqueued)
    · exact hsame
  | establish ownerId establishedAt establishedBy suppressBacklog =>
    exact h.of_store (verdictsLeft_establish s.store ownerId establishedAt establishedBy suppressBacklog)

private theorem not_claimed_of_sent (hsent : s.store.sent id = true) :
    ∀ delivery ∈ s.claimedDeliveries event, delivery.notificationId ≠ id := by
  intro delivery hdelivery
  cases event with
  | claim ownerId now leaseDuration limit =>
    obtain ⟨-, -, -, hnot, -⟩ := NotificationStore.mem_claimed hdelivery
    rintro rfl
    rw [hsent] at hnot
    cases hnot
  | _ => exact absurd hdelivery List.not_mem_nil

/-- In every run in which verdicts are fenced, a notification that is recorded as SENT stays SENT and is not claimed
again. -/
theorem sent_notification_stays_sent (policy : DispatchPolicy) (store : NotificationStore)
    {history later : List DispatchEvent}
    (hfenced : Run.Along (dispatchStep policy) (VerdictsFenced policy) { store } (history ++ later)) {id : String}
    (hsent : (Run.exec (dispatchStep policy) { store } history).store.sent id = true) :
    (Run.exec (dispatchStep policy) { store } (history ++ later)).store.sent id = true ∧
      Run.Along (dispatchStep policy)
        (fun s event => ∀ delivery ∈ s.claimedDeliveries event, delivery.notificationId ≠ id)
        (Run.exec (dispatchStep policy) { store } history) later := by
  obtain ⟨hhistory, hlater⟩ := hfenced.split
  have hstart : HoldersSettled policy { store } := by
    intro holder hholder
    cases hholder
  have hsettled : HoldersSettled policy (Run.exec (dispatchStep policy) { store } history) :=
    Run.invariant_exec (I := HoldersSettled policy) (fun _ _ h hevent => (h.step hevent).1) hstart hhistory
  have hstep : ∀ s event, (HoldersSettled policy s ∧ s.store.sent id = true) → VerdictsFenced policy s event →
      HoldersSettled policy (dispatchStep policy s event) ∧ (dispatchStep policy s event).store.sent id = true :=
    fun s event h hevent => ⟨(h.1.step hevent).1, (h.1.step hevent).2 id h.2⟩
  refine ⟨?_, ?_⟩
  · rw [Run.exec_append]
    exact (Run.invariant_exec (I := fun s => HoldersSettled policy s ∧ s.store.sent id = true) hstep ⟨hsettled, hsent⟩
      hlater).2
  · exact Run.along_of_invariant (I := fun s => HoldersSettled policy s ∧ s.store.sent id = true) hstep
      (fun s event h _ => not_claimed_of_sent h.2) ⟨hsettled, hsent⟩ hlater

private def utcPolicy : DispatchPolicy where
  isoformat := fun _ => "1970-01-01T06:00:00+00:00"

private def resetNotice : AdvisoryNotification where
  notificationId := "n-1"
  deduplicationKey := "node-7/reset"
  clusterName := "west"
  incidentId := "inc-1"
  subject := "node-7 was reset"
  bodyText := "The reset finished."
  createdAt := 0

private def drillNotice : AdvisoryNotification :=
  { resetNotice with notificationId := "n-2", deduplicationKey := "node-7/drill", drillId := some "d-1" }

-- the provider is slow: the second replica claims the notification before the first has its answer, and the answer
-- comes after the lease of the first ran out
private def slowProvider (firstClaim secondClaim : Time) : List DispatchEvent :=
  [.save resetNotice none 0, .claim "replica-1" firstClaim 120000000 25, .read 0 firstClaim,
    .claim "replica-2" secondClaim 120000000 25, .answer 0 (.result .sent (some "ses-1") none) secondClaim,
    .write 0 secondClaim .none]

-- the second replica finds the recorded result, and gives a drill up under its lease
private def secondReplica : List DispatchEvent :=
  [.read 1 201000000, .write 1 201000000 .none, .save drillNotice none 202000000,
    .claim "replica-2" 203000000 120000000 25, .read 2 203000000, .write 2 204000000 .none, .requeue "n-1" 205000000]

theorem slow_provider_stays_sent :
    Run.Along (dispatchStep utcPolicy) (VerdictsFenced utcPolicy) { store := .empty }
      (slowProvider 10000000 200000000 ++ secondReplica) ∧
    (Run.exec (dispatchStep utcPolicy) { store := .empty }
      (slowProvider 10000000 200000000 ++ secondReplica)).store.sent
      "n-1" = true := by
  have hfenced : Run.Along (dispatchStep utcPolicy) (VerdictsFenced utcPolicy) { store := .empty }
      (slowProvider 10000000 200000000 ++ secondReplica) := by decide +kernel
  exact ⟨hfenced, (sent_notification_stays_sent utcPolicy .empty hfenced (by decide +kernel)).1⟩

/-- The second replica claims a notification at the end of its shelf life, and retires it after the first recorded
that it was sent. The verdict is lost, and a requeue hands the notification out again. -/
theorem retired_after_sent_is_claimed_again :
    (Run.exec (dispatchStep utcPolicy) { store := .empty } (slowProvider 21590000000 21800000000)).store.sent "n-1" =
      true ∧
    (Run.exec (dispatchStep utcPolicy) { store := .empty } (slowProvider 21590000000 21800000000 ++
      [.read 1 21801000000, .write 1 21801000000 .none])).store.sent "n-1" = false ∧
    ((Run.exec (dispatchStep utcPolicy) { store := .empty } (slowProvider 21590000000 21800000000 ++
      [.read 1 21801000000, .write 1 21801000000 .none, .requeue "n-1" 21900000000])).claimedDeliveries
        (.claim "replica-1" 21900000000 120000000 25)).map (·.notificationId) = ["n-1"] := by
  decide +kernel

end Verdict

end GpuFaultRecovery
