import Mathlib.Data.List.Sort
import GpuFaultRecovery.Models
import GpuFaultRecovery.Table

/-!
# The notification outbox

A notification is saved once for its deduplication key, with a delivery row of its own. Dispatchers claim due rows
under a lease with an epoch, and hand them back with an outcome. The verdict on a notification is a row of another
table: a claim reads it, a completion writes it when the outcome is final.
-/

namespace GpuFaultRecovery

inductive NotificationStatus where
  | queued
  | sent
  | skipped
  | duplicate
  | failed
deriving DecidableEq, Repr

inductive NotificationDeliveryStatus where
  | pending
  | leased
  | retry
  | sent
  | dead
deriving DecidableEq, Repr

structure AdvisoryNotification where
  notificationId : String
  deduplicationKey : String
  clusterName : String
  incidentId : String
  subject : String
  bodyText : String
  drillId : Option String := none
  category : String := "GENERAL"
  priority : Nat := 50
  notBefore : Option Time := none
  createdAt : Time
deriving DecidableEq, Repr

structure NotificationDelivery where
  notificationId : String
  status : NotificationDeliveryStatus := .pending
  attempts : Nat := 0
  availableAt : Time
  leaseOwner : Option String := none
  leaseEpoch : Nat := 0
  leaseExpiresAt : Option Time := none
  lastError : Option String := none
  createdAt : Time
  updatedAt : Time
  requeuedAt : Option Time := none
deriving DecidableEq, Repr

structure NotificationResult where
  notificationId : String
  status : NotificationStatus
  providerMessageId : Option String := none
  reason : Option String := none
deriving DecidableEq, Repr

structure NotificationDispatchWatermark where
  ownerId : String := "default"
  establishedAt : Time
  establishedBy : String
  suppressed : Nat := 0
deriving DecidableEq, Repr

inductive NotificationError where
  | keyError (id : String)
  | notFound (id : String)
  | leaseStale
deriving DecidableEq, Repr

/-! ### The rows an operation writes -/

def performanceClusterPrefix : String := "perf-cap-"

def performanceDrillId : String := "perf-capacity"

/-- The label of a drill; `incidentDrillId` is the one the stored incident has. -/
def withIncidentDrillLabel (notification : AdvisoryNotification) (incidentDrillId : Option String) :
    AdvisoryNotification :=
  if notification.drillId.isSome then notification
  else
    let drillId := incidentDrillId.or
      (if performanceClusterPrefix.isPrefixOf notification.clusterName then some performanceDrillId else none)
    match drillId with
    | none => notification
    | some drill =>
      { notification with
        drillId := some drill
        subject := "[DRILL:" ++ drill ++ "] " ++ notification.subject
        bodyText := "[DRILL NOTIFICATION - NOT A REAL FAULT]\nDrill ID: " ++ drill ++ "\n\n" ++
          notification.bodyText }

namespace NotificationDelivery

/-- Due, or under a lease that ended. -/
def eligible (delivery : NotificationDelivery) (now : Time) : Bool :=
  ((delivery.status == .pending || delivery.status == .retry) && decide (delivery.availableAt ≤ now)) ||
    (delivery.status == .leased && delivery.leaseExpiresAt.any fun expiry => decide (expiry ≤ now))

def claimedBy (ownerId : String) (now : Time) (leaseDuration : Int) (delivery : NotificationDelivery) :
    NotificationDelivery :=
  { delivery with
    status := .leased
    leaseOwner := some ownerId
    leaseEpoch := delivery.leaseEpoch + 1
    leaseExpiresAt := some (now + leaseDuration)
    updatedAt := now }

/-- `completed_delivery`: the row, and whether the outcome is a verdict. -/
def completed (current : NotificationDelivery) (result : NotificationResult) (now : Time) (retryAt : Option Time)
    (terminal : Bool) : NotificationDelivery × Bool :=
  let status : NotificationDeliveryStatus :=
    if result.status = .sent then .sent else if terminal then .dead else .retry
  ({ current with
      status
      attempts := current.attempts + 1
      availableAt := retryAt.getD now
      leaseOwner := none
      leaseExpiresAt := none
      lastError := result.reason
      updatedAt := now }, status != .retry)

/-- `released_delivery`. -/
def released (current : NotificationDelivery) (now retryAt : Time) : NotificationDelivery :=
  { current with
    status := .retry
    availableAt := retryAt
    leaseOwner := none
    leaseExpiresAt := none
    updatedAt := now }

/-- A delivery asked for again: a row that was backed off or given up starts anew. -/
def requeued (current : NotificationDelivery) (queuedAt : Time) : NotificationDelivery :=
  let asked := { current with requeuedAt := some queuedAt, updatedAt := queuedAt }
  if current.status = .retry ∨ current.status = .dead then
    { asked with
      status := .pending
      attempts := 0
      availableAt := queuedAt
      leaseOwner := none
      leaseExpiresAt := none
      lastError := none }
  else asked

def suppressedAt (current : NotificationDelivery) (reason : String) (establishedAt : Time) : NotificationDelivery :=
  { current with
    status := .dead
    leaseOwner := none
    leaseExpiresAt := none
    lastError := some reason
    updatedAt := establishedAt }

@[simp] theorem requeued_notificationId (current : NotificationDelivery) (queuedAt : Time) :
    (current.requeued queuedAt).notificationId = current.notificationId := by
  unfold requeued
  dsimp only
  split <;> rfl

end NotificationDelivery

/-- `check_delivery_lease`; a release passes no time. -/
def checkDeliveryLease (current : Option NotificationDelivery) (ownerId : String) (leaseEpoch : Nat)
    (now : Option Time) : Except NotificationError NotificationDelivery :=
  match current with
  | none => .error .leaseStale
  | some delivery =>
    if delivery.status ≠ .leased ∨ delivery.leaseOwner ≠ some ownerId ∨ delivery.leaseEpoch ≠ leaseEpoch ∨
        (now.any fun now => !(delivery.leaseExpiresAt.any fun expiry => decide (now < expiry))) then
      .error .leaseStale
    else .ok delivery

/-! ### The store -/

/-- The tables; the verdicts and the deduplication keys are kept under keys of their own. -/
structure NotificationStore where
  notifications : Table AdvisoryNotification.notificationId
  byDeduplicationKey : Table (Prod.fst : String × String → String)
  deliveries : Table NotificationDelivery.notificationId
  results : Table (Prod.fst : String × NotificationResult → String)
  watermarks : Table NotificationDispatchWatermark.ownerId

/-- The order a claim serves its candidates in. -/
def deliveryBefore (a b : AdvisoryNotification × NotificationDelivery) : Prop :=
  a.1.priority < b.1.priority ∨ (a.1.priority = b.1.priority ∧
    (a.2.availableAt < b.2.availableAt ∨ (a.2.availableAt = b.2.availableAt ∧
      (a.1.createdAt < b.1.createdAt ∨ (a.1.createdAt = b.1.createdAt ∧
        a.1.notificationId ≤ b.1.notificationId)))))

instance : DecidableRel deliveryBefore := fun a b =>
  inferInstanceAs (Decidable (_ ∨ (a.1.priority = b.1.priority ∧ (_ ∨ (a.2.availableAt = b.2.availableAt ∧
    (_ ∨ (a.1.createdAt = b.1.createdAt ∧ _)))))))

namespace NotificationStore

def empty : NotificationStore := ⟨.empty, .empty, .empty, .empty, .empty⟩

/-- `get_notification_result`. -/
def result? (st : NotificationStore) (notificationId : String) : Option NotificationResult :=
  (st.results.get? notificationId).map Prod.snd

def sent (st : NotificationStore) (notificationId : String) : Bool :=
  (st.result? notificationId).any fun result => result.status == .sent

def saveNotificationResult (st : NotificationStore) (result : NotificationResult) : NotificationStore :=
  { st with results := st.results.put (result.notificationId, result) }

def saveNotificationIfAbsent (st : NotificationStore) (notification : AdvisoryNotification)
    (incidentDrillId : Option String) (now : Time) :
    Except NotificationError (NotificationStore × AdvisoryNotification) :=
  let labelled := withIncidentDrillLabel notification incidentDrillId
  let existing := ((st.byDeduplicationKey.get? labelled.deduplicationKey).map Prod.snd).filter fun id => id != ""
  match existing with
  | some id =>
    match st.notifications.get? id with
    | some stored => .ok (st, stored)
    | none => .error (.keyError id)
  | none =>
    .ok ({ st with
      notifications := st.notifications.put labelled
      byDeduplicationKey := st.byDeduplicationKey.put (labelled.deduplicationKey, labelled.notificationId)
      deliveries := st.deliveries.put
        { notificationId := labelled.notificationId
          availableAt := labelled.notBefore.getD now
          createdAt := now
          updatedAt := now } }, labelled)

/-- The due rows of notifications without a SENT verdict. -/
def claimCandidates (st : NotificationStore) (now : Time) : List (AdvisoryNotification × NotificationDelivery) :=
  st.notifications.rows.filterMap fun notification =>
    if st.sent notification.notificationId then none
    else match st.deliveries.get? notification.notificationId with
      | none => none
      | some delivery => if delivery.eligible now then some (notification, delivery) else none

def claimNotificationDeliveries (st : NotificationStore) (ownerId : String) (now : Time) (leaseDuration : Int)
    (limit : Nat) : NotificationStore × List NotificationDelivery :=
  let chosen := ((st.claimCandidates now).insertionSort deliveryBefore).take limit
  let claimed := chosen.map fun item => item.2.claimedBy ownerId now leaseDuration
  ({ st with deliveries := st.deliveries.putAll claimed }, claimed)

/-- The rows of the backlog before a watermark, with the delivery each has. -/
def backlog (st : NotificationStore) (establishedAt : Time) : List NotificationDelivery :=
  st.notifications.rows.filterMap fun notification =>
    if establishedAt ≤ notification.createdAt ∨ st.sent notification.notificationId then none
    else match st.deliveries.get? notification.notificationId with
      | none => none
      | some delivery => if delivery.status = .sent ∨ delivery.status = .dead then none else some delivery

def suppressNotificationBacklog (st : NotificationStore) (establishedAt : Time) (establishedBy : String) :
    NotificationStore × Nat :=
  let victims := st.backlog establishedAt
  let reason := "suppressed as pre-watermark backlog by " ++ establishedBy
  ({ st with
    results := st.results.putAll (victims.map fun delivery =>
      (delivery.notificationId,
        { notificationId := delivery.notificationId
          status := .skipped
          reason := some reason }))
    deliveries := st.deliveries.putAll (victims.map fun delivery => delivery.suppressedAt reason establishedAt) },
    victims.length)

/-- The first caller draws the line; a later one finds it drawn. -/
def establishNotificationWatermark (st : NotificationStore) (ownerId : String) (establishedAt : Time)
    (establishedBy : String) (suppressBacklog : Bool) : NotificationStore × NotificationDispatchWatermark :=
  match st.watermarks.get? ownerId with
  | some existing => (st, existing)
  | none =>
    let suppression := if suppressBacklog then st.suppressNotificationBacklog establishedAt establishedBy else (st, 0)
    let watermark : NotificationDispatchWatermark :=
      { ownerId
        establishedAt
        establishedBy
        suppressed := suppression.2 }
    ({ suppression.1 with watermarks := suppression.1.watermarks.put watermark }, watermark)

def enqueueNotificationDelivery (st : NotificationStore) (notificationId : String) (queuedAt : Time) :
    Except NotificationError (NotificationStore × NotificationDelivery) :=
  match st.notifications.get? notificationId with
  | none => .error (.notFound notificationId)
  | some notification =>
    let value : NotificationDelivery := match st.deliveries.get? notificationId with
      | some current => current.requeued queuedAt
      | none =>
        { notificationId
          availableAt := max queuedAt (notification.notBefore.getD queuedAt)
          createdAt := queuedAt
          updatedAt := queuedAt }
    .ok ({ st with deliveries := st.deliveries.put value }, value)

def completeNotificationDelivery (st : NotificationStore) (notificationId ownerId : String) (leaseEpoch : Nat)
    (result : NotificationResult) (now : Time) (retryAt : Option Time) (terminal : Bool) :
    Except NotificationError (NotificationStore × NotificationDelivery) := do
  let current ← checkDeliveryLease (st.deliveries.get? notificationId) ownerId leaseEpoch (some now)
  let completed := current.completed result now retryAt terminal
  let results := if completed.2 then st.results.put (notificationId, result) else st.results
  pure ({ st with results, deliveries := st.deliveries.put completed.1 }, completed.1)

def releaseNotificationDelivery (st : NotificationStore) (notificationId ownerId : String) (leaseEpoch : Nat)
    (now retryAt : Time) : NotificationStore × Option NotificationDelivery :=
  match checkDeliveryLease (st.deliveries.get? notificationId) ownerId leaseEpoch none with
  | .error _ => (st, none)
  | .ok current =>
    let value := current.released now retryAt
    ({ st with deliveries := st.deliveries.put value }, some value)

/-! ### What the operations do to a row -/

section Rows

variable {st : NotificationStore} {id ownerId establishedBy : String} {now establishedAt : Time} {leaseDuration : Int}
  {limit leaseEpoch : Nat}

private theorem mem_claimCandidates {item : AdvisoryNotification × NotificationDelivery}
    (h : item ∈ st.claimCandidates now) :
    st.deliveries.get? item.1.notificationId = some item.2 ∧ st.sent item.1.notificationId = false ∧
      item.2.eligible now = true := by
  obtain ⟨notification, -, hitem⟩ := List.mem_filterMap.mp h
  split at hitem
  · cases hitem
  · rename_i hsent
    split at hitem
    · cases hitem
    · rename_i delivery hdelivery
      split at hitem
      · rename_i heligible
        obtain rfl := Option.some.inj hitem
        exact ⟨hdelivery, Bool.eq_false_iff.mpr hsent, heligible⟩
      · cases hitem

/-- A claimed row was due, and its notification has no SENT verdict. -/
theorem mem_claimed {value : NotificationDelivery}
    (h : value ∈ (st.claimNotificationDeliveries ownerId now leaseDuration limit).2) :
    ∃ delivery, st.deliveries.get? value.notificationId = some delivery ∧
      value = delivery.claimedBy ownerId now leaseDuration ∧ st.sent value.notificationId = false ∧
      delivery.eligible now = true := by
  obtain ⟨item, hitem, rfl⟩ := List.mem_map.mp h
  have hcandidate := (List.mem_insertionSort _).mp (List.mem_of_mem_take hitem)
  obtain ⟨hdelivery, hsent, heligible⟩ := mem_claimCandidates hcandidate
  have hid : item.2.notificationId = item.1.notificationId := Table.key_of_get? hdelivery
  rw [← hid] at hdelivery hsent
  exact ⟨item.2, hdelivery, rfl, hsent, heligible⟩

theorem deliveries_claim_of_mem {value : NotificationDelivery}
    (h : value ∈ (st.claimNotificationDeliveries ownerId now leaseDuration limit).2) :
    (st.claimNotificationDeliveries ownerId now leaseDuration limit).1.deliveries.get? value.notificationId =
      some value := by
  obtain ⟨other, hother, hid, hget⟩ := Table.get?_putAll_of_mem (t := st.deliveries) ⟨value, h, rfl⟩
  have hsame : other = value := by
    obtain ⟨delivery, hdelivery, rfl, -⟩ := mem_claimed h
    obtain ⟨delivery', hdelivery', rfl, -⟩ := mem_claimed hother
    rw [hid] at hdelivery'
    rw [Option.some.inj (hdelivery'.symm.trans hdelivery)]
  rw [← hsame] at hget ⊢
  exact hget

theorem deliveries_claim_of_not_mem
    (h : ∀ value ∈ (st.claimNotificationDeliveries ownerId now leaseDuration limit).2, value.notificationId ≠ id) :
    (st.claimNotificationDeliveries ownerId now leaseDuration limit).1.deliveries.get? id = st.deliveries.get? id :=
  Table.get?_putAll_of_forall_ne h

theorem mem_backlog {delivery : NotificationDelivery} (h : delivery ∈ st.backlog establishedAt) :
    st.deliveries.get? delivery.notificationId = some delivery ∧ st.sent delivery.notificationId = false ∧
      delivery.status ≠ .sent ∧ delivery.status ≠ .dead := by
  obtain ⟨notification, -, hitem⟩ := List.mem_filterMap.mp h
  split at hitem
  · cases hitem
  · rename_i hnot
    split at hitem
    · cases hitem
    · rename_i row hrow
      split at hitem
      · cases hitem
      · rename_i hopen
        obtain rfl := Option.some.inj hitem
        have hid : row.notificationId = notification.notificationId := Table.key_of_get? hrow
        rw [← hid] at hrow hnot
        exact ⟨hrow, Bool.eq_false_iff.mpr fun hsent => hnot (.inr hsent), fun hs => hopen (.inl hs),
          fun hd => hopen (.inr hd)⟩

/-- A suppressed row is given up; every other row stays. -/
theorem deliveries_suppress (st : NotificationStore) (establishedAt : Time) (establishedBy id : String) :
    (st.suppressNotificationBacklog establishedAt establishedBy).1.deliveries.get? id = st.deliveries.get? id ∨
      ∃ delivery reason, st.deliveries.get? id = some delivery ∧ delivery.status ≠ .sent ∧ delivery.status ≠ .dead ∧
        (st.suppressNotificationBacklog establishedAt establishedBy).1.deliveries.get? id =
          some (delivery.suppressedAt reason establishedAt) := by
  by_cases hmem : ∃ delivery ∈ st.backlog establishedAt, delivery.notificationId = id
  · right
    obtain ⟨delivery, hdelivery, rfl⟩ := hmem
    have hvalue := List.mem_map_of_mem (f := fun victim => NotificationDelivery.suppressedAt victim
      ("suppressed as pre-watermark backlog by " ++ establishedBy) establishedAt) hdelivery
    obtain ⟨other, hother, hid, hget⟩ := Table.get?_putAll_of_mem (t := st.deliveries) ⟨_, hvalue, rfl⟩
    obtain ⟨victim, hvictim, rfl⟩ := List.mem_map.mp hother
    obtain ⟨hrow, -, hsent, hdead⟩ := mem_backlog hvictim
    have hid' : victim.notificationId = delivery.notificationId := hid
    rw [hid'] at hrow
    exact ⟨victim, _, hrow, hsent, hdead, hget⟩
  · left
    refine Table.get?_putAll_of_forall_ne fun value hvalue hid => hmem ?_
    obtain ⟨victim, hvictim, rfl⟩ := List.mem_map.mp hvalue
    exact ⟨victim, hvictim, hid⟩

/-- Only the holder of the lease passes its check. -/
theorem checkDeliveryLease_ok {current : Option NotificationDelivery} {checkedAt : Option Time}
    {delivery : NotificationDelivery} (h : checkDeliveryLease current ownerId leaseEpoch checkedAt = .ok delivery) :
    current = some delivery ∧ delivery.status = .leased ∧ delivery.leaseOwner = some ownerId ∧
      delivery.leaseEpoch = leaseEpoch := by
  unfold checkDeliveryLease at h
  split at h
  · cases h
  · rename_i row
    split at h
    · cases h
    · rename_i hvalid
      push Not at hvalid
      obtain rfl := Except.ok.inj h
      exact ⟨rfl, hvalid.1, hvalid.2.1, hvalid.2.2.1⟩

end Rows

end NotificationStore

end GpuFaultRecovery
