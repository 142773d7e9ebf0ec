import Mathlib.Data.List.Induction
import GpuFaultRecovery.NotificationStore
import GpuFaultRecovery.Run

/-!
# Leases of the notification outbox

Every operation on the outbox is one call, in any order and by any caller. What a call can do to a delivery row is
said once: it leases the row, it answers the lease of the row, or it leaves the lease alone. The fencing of the outbox
follows from that, call by call.
-/

namespace GpuFaultRecovery

inductive NotificationCall where
  | save (notification : AdvisoryNotification) (incidentDrillId : Option String) (now : Time)
  | claim (ownerId : String) (now : Time) (leaseDuration : Int) (limit : Nat)
  | complete (notificationId ownerId : String) (leaseEpoch : Nat) (result : NotificationResult) (now : Time)
    (retryAt : Option Time) (terminal : Bool)
  | release (notificationId ownerId : String) (leaseEpoch : Nat) (now retryAt : Time)
  | enqueue (notificationId : String) (now : Time)
  | establish (ownerId : String) (establishedAt : Time) (establishedBy : String) (suppressBacklog : Bool)

/-- The store after a call; a call that raises leaves it as it is. -/
def notificationStep (st : NotificationStore) : NotificationCall → NotificationStore
  | .save notification incidentDrillId now =>
    match st.saveNotificationIfAbsent notification incidentDrillId now with
    | .ok saved => saved.1
    | .error _ => st
  | .claim ownerId now leaseDuration limit => (st.claimNotificationDeliveries ownerId now leaseDuration limit).1
  | .complete notificationId ownerId leaseEpoch result now retryAt terminal =>
    match st.completeNotificationDelivery notificationId ownerId leaseEpoch result now retryAt terminal with
    | .ok completed => completed.1
    | .error _ => st
  | .release notificationId ownerId leaseEpoch now retryAt =>
    (st.releaseNotificationDelivery notificationId ownerId leaseEpoch now retryAt).1
  | .enqueue notificationId now =>
    match st.enqueueNotificationDelivery notificationId now with
    | .ok queued => queued.1
    | .error _ => st
  | .establish ownerId establishedAt establishedBy suppressBacklog =>
    (st.establishNotificationWatermark ownerId establishedAt establishedBy suppressBacklog).1

def leasedRows (st : NotificationStore) : NotificationCall → List NotificationDelivery
  | .claim ownerId now leaseDuration limit => (st.claimNotificationDeliveries ownerId now leaseDuration limit).2
  | _ => []

def ClaimsDelivery (st : NotificationStore) (call : NotificationCall) (id : String) : Prop :=
  ∃ row ∈ leasedRows st call, row.notificationId = id

/-- An accepted completion or release, by the holder it came from. -/
def AnswersLease (st : NotificationStore) (call : NotificationCall) (id ownerId : String) (leaseEpoch : Nat) : Prop :=
  (∃ result now retryAt terminal, call = .complete id ownerId leaseEpoch result now retryAt terminal ∧
    ∃ completed, st.completeNotificationDelivery id ownerId leaseEpoch result now retryAt terminal = .ok completed) ∨
  ∃ now retryAt, call = .release id ownerId leaseEpoch now retryAt ∧
    (st.releaseNotificationDelivery id ownerId leaseEpoch now retryAt).2.isSome

def savedId (st : NotificationStore) (notification : AdvisoryNotification) (incidentDrillId : Option String)
    (now : Time) : Option String :=
  match st.saveNotificationIfAbsent notification incidentDrillId now with
  | .ok saved => some saved.2.notificationId
  | .error _ => none

/-- `notification-` and a `uuid4`: an id is not empty and is not the id of another notification. -/
def FreshId (st : NotificationStore) : NotificationCall → Prop
  | .save notification _ _ => notification.notificationId ≠ "" ∧
    ∀ stored, st.notifications.get? notification.notificationId = some stored →
      stored.deduplicationKey = notification.deduplicationKey
  | _ => True

instance (st : NotificationStore) (call : NotificationCall) : Decidable (FreshId st call) :=
  match call with
  | .save notification drill now =>
    decidable_of_iff (notification.notificationId ≠ "" ∧ (st.notifications.get? notification.notificationId).all
      (fun stored => decide (stored.deduplicationKey = notification.deduplicationKey)) = true)
      (by simp [FreshId, Option.all_eq_true])
  | .claim .. | .complete .. | .release .. | .enqueue .. | .establish .. => isTrue trivial

/-- The latest claim of a row in a history, with no accepted answer since. -/
def LatestClaim (start : NotificationStore) (history : List NotificationCall) (id ownerId : String)
    (leaseEpoch : Nat) :
    Prop :=
  ∃ before now leaseDuration limit after, history = before ++ .claim ownerId now leaseDuration limit :: after ∧
    (∃ row ∈ leasedRows (Run.exec notificationStep start before) (.claim ownerId now leaseDuration limit),
      row.notificationId = id ∧ row.leaseEpoch = leaseEpoch) ∧
    Run.Along notificationStep
      (fun st call => ¬ClaimsDelivery st call id ∧ ∀ owner epoch, ¬AnswersLease st call id owner epoch)
      (Run.exec notificationStep start (before ++ [.claim ownerId now leaseDuration limit])) after

/-! ### The tables together -/

/-- Every deduplication key names a stored notification, every notification is under its key and has a delivery row,
and every delivery row belongs to a notification. -/
structure NotificationInv (st : NotificationStore) : Prop where
  keyed : ∀ key id, st.byDeduplicationKey.get? key = some (key, id) →
    id ≠ "" ∧ ∃ stored, st.notifications.get? id = some stored ∧ stored.deduplicationKey = key
  stored : ∀ id stored, st.notifications.get? id = some stored →
    st.byDeduplicationKey.get? stored.deduplicationKey = some (stored.deduplicationKey, id)
  delivered : ∀ id, (st.deliveries.get? id).isSome ↔ (st.notifications.get? id).isSome

@[simp] theorem withIncidentDrillLabel_notificationId (notification : AdvisoryNotification) (drill : Option String) :
    (withIncidentDrillLabel notification drill).notificationId = notification.notificationId := by
  unfold withIncidentDrillLabel
  split
  · rfl
  · dsimp only
    split <;> rfl

@[simp] theorem withIncidentDrillLabel_deduplicationKey (notification : AdvisoryNotification)
    (drill : Option String) :
    (withIncidentDrillLabel notification drill).deduplicationKey = notification.deduplicationKey := by
  unfold withIncidentDrillLabel
  split
  · rfl
  · dsimp only
    split <;> rfl

section Steps

variable {st : NotificationStore} {notification : AdvisoryNotification} {incidentDrillId : Option String} {now : Time}
  {id ownerId : String} {leaseEpoch : Nat} {call : NotificationCall}

/-- A save finds the notification of its key, or stores a new one with a new row. -/
private theorem save_cases (h : NotificationInv st) (incidentDrillId : Option String) (now : Time)
    (hfresh : ∀ stored, st.notifications.get? notification.notificationId = some stored →
      stored.deduplicationKey = notification.deduplicationKey) :
    (∃ existing stored, st.byDeduplicationKey.get? notification.deduplicationKey =
        some (notification.deduplicationKey, existing) ∧ st.notifications.get? existing = some stored ∧
      st.saveNotificationIfAbsent notification incidentDrillId now = .ok (st, stored)) ∨
    (st.byDeduplicationKey.get? notification.deduplicationKey = none ∧
      st.notifications.get? notification.notificationId = none ∧
      ∃ labelled row, labelled.notificationId = notification.notificationId ∧
        labelled.deduplicationKey = notification.deduplicationKey ∧ row.notificationId = notification.notificationId ∧
        row.status = .pending ∧
        st.saveNotificationIfAbsent notification incidentDrillId now =
          .ok ({ st with
            notifications := st.notifications.put labelled
            byDeduplicationKey := st.byDeduplicationKey.put
              (notification.deduplicationKey, notification.notificationId)
            deliveries := st.deliveries.put row }, labelled)) := by
  cases hkey : st.byDeduplicationKey.get? notification.deduplicationKey with
  | some entry =>
    obtain ⟨key, existing⟩ := entry
    obtain rfl : key = notification.deduplicationKey := Table.key_of_get? hkey
    obtain ⟨hne, stored, hstored, -⟩ := h.keyed _ existing hkey
    have hkept : (some existing).filter (fun id => id != "") = some existing := by simp [Option.filter, hne]
    refine .inl ⟨existing, stored, rfl, hstored, ?_⟩
    simp [NotificationStore.saveNotificationIfAbsent, hkey, hkept, hstored]
  | none =>
    have hunused : st.notifications.get? notification.notificationId = none := by
      cases hstored : st.notifications.get? notification.notificationId with
      | none => rfl
      | some stored =>
        have hunder := h.stored _ _ hstored
        rw [hfresh stored hstored, hkey] at hunder
        cases hunder
    refine .inr ⟨rfl, hunused, withIncidentDrillLabel notification incidentDrillId,
      { notificationId := notification.notificationId
        availableAt := (withIncidentDrillLabel notification incidentDrillId).notBefore.getD now
        createdAt := now
        updatedAt := now }, by simp, by simp, rfl, rfl, ?_⟩
    simp [NotificationStore.saveNotificationIfAbsent, hkey]

private theorem isSome_put_of_isSome {t : Table NotificationDelivery.notificationId} {row : NotificationDelivery}
    (h : (t.get? row.notificationId).isSome) (id : String) : ((t.put row).get? id).isSome ↔ (t.get? id).isSome := by
  rw [Table.get?_put]
  split
  · rename_i hid
    subst hid
    simp [h]
  · rfl

private theorem NotificationInv.of_deliveries {st' : NotificationStore} (h : NotificationInv st)
    (hnotifications : st'.notifications = st.notifications)
    (hkeys : st'.byDeduplicationKey = st.byDeduplicationKey)
    (hrows : ∀ id, (st'.deliveries.get? id).isSome ↔ (st.deliveries.get? id).isSome) : NotificationInv st' := by
  refine ⟨?_, ?_, fun id => ?_⟩
  · rw [hnotifications, hkeys]
    exact h.keyed
  · rw [hnotifications, hkeys]
    exact h.stored
  · rw [hrows, hnotifications]
    exact h.delivered id

private theorem notificationInv_empty : NotificationInv .empty := by
  refine ⟨fun key id hkey => ?_, fun id stored hstored => ?_, fun id => Iff.rfl⟩
  · cases hkey
  · cases hstored

private theorem notificationInv_save (h : NotificationInv st)
    (hfresh : FreshId st (.save notification incidentDrillId now)) :
    NotificationInv (notificationStep st (.save notification incidentDrillId now)) := by
  rcases save_cases h incidentDrillId now hfresh.2 with
    ⟨existing, stored, -, -, hsave⟩ | ⟨hkey, hunused, labelled, row, hid, hdup, hrow, -, hsave⟩
  · simp only [notificationStep, hsave]
    exact h
  · simp only [notificationStep, hsave]
    refine ⟨fun key id hentry => ?_, fun id stored hstored => ?_, fun id => ?_⟩
    · rw [Table.get?_put] at hentry
      by_cases hsame : key = notification.deduplicationKey
      · rw [if_pos hsame] at hentry
        obtain ⟨-, rfl⟩ := Prod.mk.inj (Option.some.inj hentry)
        refine ⟨hfresh.1, labelled, ?_, hdup.trans hsame.symm⟩
        rw [← hid, Table.get?_put_self]
      · rw [if_neg hsame] at hentry
        obtain ⟨hne, stored, hstored, hkeyed⟩ := h.keyed key id hentry
        refine ⟨hne, stored, ?_, hkeyed⟩
        rw [Table.get?_put_ne]
        · exact hstored
        · rintro rfl
          rw [hid, hunused] at hstored
          cases hstored
    · rw [Table.get?_put] at hstored
      by_cases hsame : id = labelled.notificationId
      · rw [if_pos hsame] at hstored
        obtain rfl := Option.some.inj hstored
        rw [hdup, hsame, hid]
        exact Table.get?_put_self _ _
      · rw [if_neg hsame] at hstored
        have hunder := h.stored id stored hstored
        rw [Table.get?_put_ne]
        · exact hunder
        · intro hother
          rw [hother, hkey] at hunder
          cases hunder
    · rw [Table.get?_put, Table.get?_put, hrow, hid]
      split
      · simp
      · exact h.delivered id

private theorem isSome_deliveries_suppress (st : NotificationStore) (establishedAt : Time)
    (establishedBy id : String) :
    ((st.suppressNotificationBacklog establishedAt establishedBy).1.deliveries.get? id).isSome ↔
      (st.deliveries.get? id).isSome := by
  rcases st.deliveries_suppress establishedAt establishedBy id with hsame | ⟨delivery, reason, hrow, -, -, hafter⟩
  · rw [hsame]
  · rw [hrow, hafter]
    exact ⟨fun _ => rfl, fun _ => rfl⟩

/-! ### What a call does to a row -/

/-- A change of a row that leaves its lease alone, or ends the one of a row nobody answered for. -/
structure LeaseKept (row row' : NotificationDelivery) : Prop where
  epoch : row'.leaseEpoch = row.leaseEpoch
  sent : row.status = .sent → row'.status = .sent
  holder : row'.status = .leased → row.status = .leased ∧ row'.leaseOwner = row.leaseOwner

private theorem LeaseKept.refl (row : NotificationDelivery) : LeaseKept row row :=
  ⟨rfl, fun h => h, fun h => ⟨h, rfl⟩⟩

theorem leaseKept_requeued (row : NotificationDelivery) (queuedAt : Time) :
    LeaseKept row (row.requeued queuedAt) := by
  unfold NotificationDelivery.requeued
  dsimp only
  split
  · rename_i hover
    refine ⟨rfl, fun hsent => ?_, fun hleased => ?_⟩
    · rcases hover with h | h <;> rw [h] at hsent <;> cases hsent
    · cases hleased
  · exact ⟨rfl, fun hsent => hsent, fun hleased => ⟨hleased, rfl⟩⟩

private theorem leaseKept_suppressedAt {row : NotificationDelivery} (hsent : row.status ≠ .sent) (reason : String)
    (establishedAt : Time) : LeaseKept row (row.suppressedAt reason establishedAt) :=
  ⟨rfl, fun h => absurd h hsent, fun h => by cases h⟩

/-- The three things a call can do to the row of a notification. -/
inductive DeliveryStep (st : NotificationStore) (call : NotificationCall) (id : String)
    (row row' : NotificationDelivery) : Prop
  | leased {ownerId : String} {now : Time} {leaseDuration : Int} {limit : Nat}
    (hcall : call = .claim ownerId now leaseDuration limit)
    (hrow : row' = row.claimedBy ownerId now leaseDuration) (hmem : row' ∈ leasedRows st call)
    (hsent : row.status ≠ .sent)
  | answered (hcall : ¬ClaimsDelivery st call id) (hleased : row.status = .leased) (hended : row'.status ≠ .leased)
    (hepoch : row'.leaseEpoch = row.leaseEpoch)
    (hholder : ∀ owner epoch, AnswersLease st call id owner epoch →
      row.leaseOwner = some owner ∧ row.leaseEpoch = epoch)
  | kept (hcall : ¬ClaimsDelivery st call id) (hanswer : ∀ owner epoch, ¬AnswersLease st call id owner epoch)
    (hrow : LeaseKept row row')

/-- The calls that are neither a claim nor an answer. -/
def NotificationCall.LeavesLeases : NotificationCall → Prop
  | .claim .. | .complete .. | .release .. => False
  | _ => True

private theorem not_claimsDelivery_of_leavesLeases (h : call.LeavesLeases) : ¬ClaimsDelivery st call id := by
  rintro ⟨row, hrow, -⟩
  cases call with
  | claim => exact h
  | _ => exact List.not_mem_nil hrow

private theorem not_answersLease_of_leavesLeases (h : call.LeavesLeases) (owner : String) (epoch : Nat) :
    ¬AnswersLease st call id owner epoch := by
  rintro (⟨result, now, retryAt, terminal, rfl, -⟩ | ⟨now, retryAt, rfl, -⟩)
  · exact h
  · exact h

private theorem deliveryStep_of_leavesLeases {row row' : NotificationDelivery} (h : call.LeavesLeases)
    (hrow : LeaseKept row row') : DeliveryStep st call id row row' :=
  .kept (not_claimsDelivery_of_leavesLeases h) (not_answersLease_of_leavesLeases h) hrow

private theorem status_ne_sent_of_eligible {row : NotificationDelivery} (h : row.eligible now = true) :
    row.status ≠ .sent := by
  intro hsent
  simp [NotificationDelivery.eligible, hsent] at h

private theorem answersLease_complete {notificationId owner : String} {epoch : Nat} {result : NotificationResult}
    {retryAt : Option Time} {terminal : Bool} :
    AnswersLease st (.complete notificationId ownerId leaseEpoch result now retryAt terminal) id owner epoch ↔
      (id = notificationId ∧ owner = ownerId ∧ epoch = leaseEpoch) ∧
        ∃ row, checkDeliveryLease (st.deliveries.get? notificationId) ownerId leaseEpoch (some now) = .ok row := by
  constructor
  · rintro (⟨_, _, _, _, hcall, completed, hok⟩ | ⟨_, _, hcall, -⟩)
    · cases hcall
      obtain ⟨row, hrow, -⟩ := bind_ok hok
      exact ⟨⟨rfl, rfl, rfl⟩, row, hrow⟩
    · cases hcall
  · rintro ⟨⟨rfl, rfl, rfl⟩, row, hrow⟩
    refine .inl ⟨result, now, retryAt, terminal, rfl, ?_⟩
    simp [NotificationStore.completeNotificationDelivery, hrow, bind, Except.bind, pure, Except.pure]

private theorem answersLease_release {notificationId owner : String} {epoch : Nat} {retryAt : Time} :
    AnswersLease st (.release notificationId ownerId leaseEpoch now retryAt) id owner epoch ↔
      (id = notificationId ∧ owner = ownerId ∧ epoch = leaseEpoch) ∧
        ∃ row, checkDeliveryLease (st.deliveries.get? notificationId) ownerId leaseEpoch none = .ok row := by
  constructor
  · rintro (⟨_, _, _, _, hcall, -⟩ | ⟨_, _, hcall, hsome⟩)
    · cases hcall
    · cases hcall
      refine ⟨⟨rfl, rfl, rfl⟩, ?_⟩
      unfold NotificationStore.releaseNotificationDelivery at hsome
      split at hsome
      · cases hsome
      · rename_i row hrow
        exact ⟨row, hrow⟩
  · rintro ⟨⟨rfl, rfl, rfl⟩, row, hrow⟩
    refine .inr ⟨now, retryAt, rfl, ?_⟩
    simp [NotificationStore.releaseNotificationDelivery, hrow]

/-- The rows after an answer that passed, or did not pass, the check of its lease. -/
def answeredDeliveries (st : NotificationStore) (value : NotificationDelivery → NotificationDelivery) :
    Except NotificationError NotificationDelivery → Table NotificationDelivery.notificationId
  | .ok current => st.deliveries.put (value current)
  | .error _ => st.deliveries

/-- A call that answers a lease does so for the row of its holder and for no other. -/
private theorem row_of_answer {notificationId : String} {checkedAt : Option Time} {row : NotificationDelivery}
    (value : NotificationDelivery → NotificationDelivery) (hclaims : ¬ClaimsDelivery st call id)
    (hanswers : ∀ owner epoch, AnswersLease st call id owner epoch ↔
      (id = notificationId ∧ owner = ownerId ∧ epoch = leaseEpoch) ∧
        ∃ row, checkDeliveryLease (st.deliveries.get? notificationId) ownerId leaseEpoch checkedAt = .ok row)
    (hid : ∀ current, (value current).notificationId = current.notificationId)
    (hepoch : ∀ current, (value current).leaseEpoch = current.leaseEpoch)
    (hended : ∀ current, (value current).status ≠ .leased)
    (hstep : (notificationStep st call).deliveries = answeredDeliveries st value
      (checkDeliveryLease (st.deliveries.get? notificationId) ownerId leaseEpoch checkedAt))
    (hrow : st.deliveries.get? id = some row) :
    ∃ row', (notificationStep st call).deliveries.get? id = some row' ∧ DeliveryStep st call id row row' := by
  rw [hstep]
  cases hcheck : checkDeliveryLease (st.deliveries.get? notificationId) ownerId leaseEpoch checkedAt with
  | error _ =>
    refine ⟨row, hrow, .kept hclaims (fun owner epoch hanswer => ?_) (.refl row)⟩
    obtain ⟨-, current, hcurrent⟩ := (hanswers owner epoch).mp hanswer
    rw [hcheck] at hcurrent
    cases hcurrent
  | ok current =>
    obtain ⟨hcurrent, hleased, howner, hlease⟩ := NotificationStore.checkDeliveryLease_ok hcheck
    have hname : current.notificationId = notificationId := Table.key_of_get? hcurrent
    by_cases hsame : id = notificationId
    · subst hsame
      obtain rfl := Option.some.inj (hrow.symm.trans hcurrent)
      refine ⟨value row, ?_, .answered hclaims hleased (hended row) (hepoch row) fun owner epoch hanswer => ?_⟩
      · dsimp only [answeredDeliveries]
        rw [Table.get?_put, hid, hname, if_pos rfl]
      · obtain ⟨⟨-, rfl, rfl⟩, -⟩ := (hanswers owner epoch).mp hanswer
        exact ⟨howner, hlease⟩
    · refine ⟨row, ?_, .kept hclaims (fun owner epoch hanswer => hsame ((hanswers owner epoch).mp hanswer).1.1)
        (.refl row)⟩
      dsimp only [answeredDeliveries]
      rw [Table.get?_put_ne]
      · exact hrow
      · rw [hid, hname]
        exact hsame

private theorem row_of_save (h : NotificationInv st) (incidentDrillId : Option String) (now : Time)
    (hfresh : FreshId st (.save notification incidentDrillId now)) {row : NotificationDelivery}
    (hrow : st.deliveries.get? id = some row) :
    (notificationStep st (.save notification incidentDrillId now)).deliveries.get? id = some row := by
  rcases save_cases h incidentDrillId now hfresh.2 with
    ⟨existing, stored, -, -, hsave⟩ | ⟨-, hunused, labelled, new, -, -, hnew, -, hsave⟩
  · simp only [notificationStep, hsave]
    exact hrow
  · simp only [notificationStep, hsave]
    rw [Table.get?_put_ne]
    · exact hrow
    · -- a row of the new id would belong to a stored notification
      rintro rfl
      have hstored := (h.delivered new.notificationId).mp (by rw [hrow]; rfl)
      rw [hnew, hunused] at hstored
      cases hstored

private theorem row_of_claim {ownerId : String} {now : Time} {leaseDuration : Int} {limit : Nat}
    {row : NotificationDelivery} (hrow : st.deliveries.get? id = some row) :
    ∃ row', (notificationStep st (.claim ownerId now leaseDuration limit)).deliveries.get? id = some row' ∧
      DeliveryStep st (.claim ownerId now leaseDuration limit) id row row' := by
  by_cases hclaims : ClaimsDelivery st (.claim ownerId now leaseDuration limit) id
  · obtain ⟨value, hvalue, rfl⟩ := hclaims
    obtain ⟨delivery, hdelivery, hclaimed, -, heligible⟩ := NotificationStore.mem_claimed hvalue
    obtain rfl := Option.some.inj (hrow.symm.trans hdelivery)
    exact ⟨value, NotificationStore.deliveries_claim_of_mem hvalue,
      .leased rfl hclaimed hvalue (status_ne_sent_of_eligible heligible)⟩
  · refine ⟨row, ?_, .kept hclaims (fun owner epoch hanswer => ?_) (.refl row)⟩
    · have hnot : ∀ value ∈ (st.claimNotificationDeliveries ownerId now leaseDuration limit).2,
          value.notificationId ≠ id := fun value hvalue hid => hclaims ⟨value, hvalue, hid⟩
      exact (NotificationStore.deliveries_claim_of_not_mem hnot).trans hrow
    · rcases hanswer with ⟨_, _, _, _, hcall, -⟩ | ⟨_, _, hcall, -⟩ <;> cases hcall

private theorem row_of_enqueue (notificationId : String) (now : Time) {row : NotificationDelivery}
    (hrow : st.deliveries.get? id = some row) :
    ∃ row', (notificationStep st (.enqueue notificationId now)).deliveries.get? id = some row' ∧
      DeliveryStep st (.enqueue notificationId now) id row row' := by
  simp only [notificationStep, NotificationStore.enqueueNotificationDelivery]
  cases hnotification : st.notifications.get? notificationId with
  | none => exact ⟨row, hrow, deliveryStep_of_leavesLeases trivial (.refl row)⟩
  | some notification =>
    by_cases hsame : id = notificationId
    · subst hsame
      refine ⟨row.requeued now, ?_, deliveryStep_of_leavesLeases trivial (leaseKept_requeued row now)⟩
      have hname : row.notificationId = id := Table.key_of_get? hrow
      simp only [hrow]
      rw [Table.get?_put, NotificationDelivery.requeued_notificationId, hname, if_pos rfl]
    · refine ⟨row, ?_, deliveryStep_of_leavesLeases trivial (.refl row)⟩
      dsimp only
      rw [Table.get?_put_ne]
      · exact hrow
      · intro hname
        apply hsame
        rw [hname]
        cases hcurrent : st.deliveries.get? notificationId with
        | none => rfl
        | some current => exact (current.requeued_notificationId now).trans (Table.key_of_get? hcurrent)

private theorem row_of_establish (ownerId : String) (establishedAt : Time) (establishedBy : String)
    (suppressBacklog : Bool) {row : NotificationDelivery} (hrow : st.deliveries.get? id = some row) :
    ∃ row',
      (notificationStep st (.establish ownerId establishedAt establishedBy suppressBacklog)).deliveries.get? id =
        some row' ∧
      DeliveryStep st (.establish ownerId establishedAt establishedBy suppressBacklog) id row row' := by
  simp only [notificationStep, NotificationStore.establishNotificationWatermark]
  split
  · exact ⟨row, hrow, deliveryStep_of_leavesLeases trivial (.refl row)⟩
  · dsimp only
    cases suppressBacklog with
    | false => exact ⟨row, hrow, deliveryStep_of_leavesLeases trivial (.refl row)⟩
    | true =>
      rcases st.deliveries_suppress establishedAt establishedBy id with
        hkept | ⟨delivery, reason, hdelivery, hsent, -, hafter⟩
      · exact ⟨row, hkept.trans hrow, deliveryStep_of_leavesLeases trivial (.refl row)⟩
      · obtain rfl := Option.some.inj (hrow.symm.trans hdelivery)
        exact ⟨_, hafter, deliveryStep_of_leavesLeases trivial (leaseKept_suppressedAt hsent reason establishedAt)⟩

/-- Every row stays, and a call leases it, answers its lease, or leaves the lease alone. -/
private theorem notificationStep_row (h : NotificationInv st) (hfresh : FreshId st call) {row : NotificationDelivery}
    (hrow : st.deliveries.get? id = some row) :
    ∃ row', (notificationStep st call).deliveries.get? id = some row' ∧ DeliveryStep st call id row row' := by
  cases call with
  | save notification incidentDrillId now =>
    exact ⟨row, row_of_save h incidentDrillId now hfresh hrow, deliveryStep_of_leavesLeases trivial (.refl row)⟩
  | claim ownerId now leaseDuration limit => exact row_of_claim hrow
  | complete notificationId ownerId leaseEpoch result now retryAt terminal =>
    refine row_of_answer (fun current => (current.completed result now retryAt terminal).1)
      (fun ⟨_, hvalue, _⟩ => List.not_mem_nil hvalue) (fun owner epoch => answersLease_complete)
      (fun _ => rfl) (fun _ => rfl) (fun current => ?_) ?_ hrow
    · dsimp only [NotificationDelivery.completed]
      split
      · decide
      · split <;> decide
    · simp only [notificationStep, NotificationStore.completeNotificationDelivery]
      cases checkDeliveryLease (st.deliveries.get? notificationId) ownerId leaseEpoch (some now) <;> rfl
  | release notificationId ownerId leaseEpoch now retryAt =>
    refine row_of_answer (fun current => current.released now retryAt)
      (fun ⟨_, hvalue, _⟩ => List.not_mem_nil hvalue) (fun owner epoch => answersLease_release)
      (fun _ => rfl) (fun _ => rfl) (fun current h => by cases h) ?_ hrow
    simp only [notificationStep, NotificationStore.releaseNotificationDelivery]
    cases checkDeliveryLease (st.deliveries.get? notificationId) ownerId leaseEpoch none <;> rfl
  | enqueue notificationId now => exact row_of_enqueue notificationId now hrow
  | establish ownerId establishedAt establishedBy suppressBacklog =>
    exact row_of_establish ownerId establishedAt establishedBy suppressBacklog hrow

/-- A call other than a save writes only over rows of stored notifications, and keeps notifications and keys. -/
private theorem notificationStep_tables (h : NotificationInv st)
    (hcall : ∀ notification drill now, call ≠ .save notification drill now) :
    (notificationStep st call).notifications = st.notifications ∧
      (notificationStep st call).byDeduplicationKey = st.byDeduplicationKey ∧
      ∀ id, ((notificationStep st call).deliveries.get? id).isSome ↔ (st.deliveries.get? id).isSome := by
  cases call with
  | save notification drill now => exact absurd rfl (hcall notification drill now)
  | claim ownerId now leaseDuration limit =>
    refine ⟨rfl, rfl, fun id => ?_⟩
    by_cases hclaims : ∃ value ∈ (st.claimNotificationDeliveries ownerId now leaseDuration limit).2,
        value.notificationId = id
    · obtain ⟨value, hvalue, rfl⟩ := hclaims
      obtain ⟨delivery, hdelivery, -⟩ := NotificationStore.mem_claimed hvalue
      dsimp only [notificationStep]
      rw [NotificationStore.deliveries_claim_of_mem hvalue, hdelivery]
      exact ⟨fun _ => rfl, fun _ => rfl⟩
    · push Not at hclaims
      dsimp only [notificationStep]
      rw [NotificationStore.deliveries_claim_of_not_mem hclaims]
  | complete notificationId ownerId leaseEpoch result now retryAt terminal =>
    simp only [notificationStep, NotificationStore.completeNotificationDelivery]
    cases hcheck : checkDeliveryLease (st.deliveries.get? notificationId) ownerId leaseEpoch (some now) with
    | error _ => exact ⟨rfl, rfl, fun id => Iff.rfl⟩
    | ok current =>
      obtain ⟨hcurrent, -⟩ := NotificationStore.checkDeliveryLease_ok hcheck
      have hname : current.notificationId = notificationId := Table.key_of_get? hcurrent
      exact ⟨rfl, rfl, isSome_put_of_isSome (by simp [NotificationDelivery.completed, hname, hcurrent])⟩
  | release notificationId ownerId leaseEpoch now retryAt =>
    simp only [notificationStep, NotificationStore.releaseNotificationDelivery]
    cases hcheck : checkDeliveryLease (st.deliveries.get? notificationId) ownerId leaseEpoch none with
    | error _ => exact ⟨rfl, rfl, fun id => Iff.rfl⟩
    | ok current =>
      obtain ⟨hcurrent, -⟩ := NotificationStore.checkDeliveryLease_ok hcheck
      have hname : current.notificationId = notificationId := Table.key_of_get? hcurrent
      exact ⟨rfl, rfl, isSome_put_of_isSome (by simp [NotificationDelivery.released, hname, hcurrent])⟩
  | enqueue notificationId now =>
    simp only [notificationStep, NotificationStore.enqueueNotificationDelivery]
    cases hnotification : st.notifications.get? notificationId with
    | none => exact ⟨rfl, rfl, fun id => Iff.rfl⟩
    | some notification =>
      have hrow := (h.delivered notificationId).mpr (by rw [hnotification]; rfl)
      obtain ⟨current, hcurrent⟩ := Option.isSome_iff_exists.mp hrow
      have hname : current.notificationId = notificationId := Table.key_of_get? hcurrent
      refine ⟨rfl, rfl, ?_⟩
      simp only [hcurrent]
      exact isSome_put_of_isSome (by simp [hname, hcurrent])
  | establish ownerId establishedAt establishedBy suppressBacklog =>
    simp only [notificationStep, NotificationStore.establishNotificationWatermark]
    split
    · exact ⟨rfl, rfl, fun id => Iff.rfl⟩
    · cases suppressBacklog with
      | false => exact ⟨rfl, rfl, fun id => Iff.rfl⟩
      | true => exact ⟨rfl, rfl, isSome_deliveries_suppress st establishedAt establishedBy⟩

private theorem notificationStep_notificationInv (h : NotificationInv st) (hfresh : FreshId st call) :
    NotificationInv (notificationStep st call) := by
  by_cases hsave : ∃ notification drill now, call = .save notification drill now
  · obtain ⟨notification, drill, now, rfl⟩ := hsave
    exact notificationInv_save h hfresh
  · push Not at hsave
    obtain ⟨hnotifications, hkeys, hrows⟩ := notificationStep_tables h hsave
    exact h.of_deliveries hnotifications hkeys hrows

/-- A new row is not leased. -/
private theorem notificationStep_new (h : NotificationInv st) (hfresh : FreshId st call)
    (hnone : st.deliveries.get? id = none) {row : NotificationDelivery}
    (hrow : (notificationStep st call).deliveries.get? id = some row) :
    row.status ≠ .leased := by
  by_cases hsave : ∃ notification drill now, call = .save notification drill now
  · obtain ⟨notification, drill, now, rfl⟩ := hsave
    rcases save_cases h drill now hfresh.2 with
      ⟨existing, stored, -, -, hsaved⟩ | ⟨-, -, labelled, new, -, -, -, hpending, hsaved⟩
    · simp only [notificationStep, hsaved, hnone] at hrow
      cases hrow
    · simp only [notificationStep, hsaved, Table.get?_put] at hrow
      split at hrow
      · obtain rfl := Option.some.inj hrow
        rw [hpending]
        decide
      · rw [hnone] at hrow
        cases hrow
  · push Not at hsave
    have hsome := ((notificationStep_tables h hsave).2.2 id).mp (by rw [hrow]; rfl)
    rw [hnone] at hsome
    cases hsome

/-- A key stays with its notification. -/
private theorem notificationStep_key (h : NotificationInv st) (hfresh : FreshId st call) {key : String}
    (hkey : st.byDeduplicationKey.get? key = some (key, id)) :
    (notificationStep st call).byDeduplicationKey.get? key = some (key, id) := by
  by_cases hsave : ∃ notification drill now, call = .save notification drill now
  · obtain ⟨notification, drill, now, rfl⟩ := hsave
    rcases save_cases h drill now hfresh.2 with
      ⟨existing, stored, -, -, hsaved⟩ | ⟨hunused, -, labelled, new, -, -, -, -, hsaved⟩
    · simp only [notificationStep, hsaved]
      exact hkey
    · simp only [notificationStep, hsaved]
      rw [Table.get?_put_ne]
      · exact hkey
      · rintro rfl
        rw [hunused] at hkey
        cases hkey
  · push Not at hsave
    rw [(notificationStep_tables h hsave).2.1]
    exact hkey

/-- A watermark stays. -/
private theorem notificationStep_watermark {watermark : NotificationDispatchWatermark}
    (h : st.watermarks.get? ownerId = some watermark) (call : NotificationCall) :
    (notificationStep st call).watermarks.get? ownerId = some watermark := by
  cases call with
  | save notification drill now =>
    simp only [notificationStep, NotificationStore.saveNotificationIfAbsent]
    split
    · rename_i saved hsaved
      split at hsaved
      · split at hsaved
        · obtain rfl := Except.ok.inj hsaved
          exact h
        · cases hsaved
      · obtain rfl := Except.ok.inj hsaved
        exact h
    · exact h
  | claim ownerId now leaseDuration limit => exact h
  | complete notificationId owner leaseEpoch result now retryAt terminal =>
    simp only [notificationStep, NotificationStore.completeNotificationDelivery]
    cases checkDeliveryLease (st.deliveries.get? notificationId) owner leaseEpoch (some now) <;> exact h
  | release notificationId owner leaseEpoch now retryAt =>
    simp only [notificationStep, NotificationStore.releaseNotificationDelivery]
    split <;> exact h
  | enqueue notificationId now =>
    simp only [notificationStep, NotificationStore.enqueueNotificationDelivery]
    cases st.notifications.get? notificationId <;> exact h
  | establish owner establishedAt establishedBy suppressBacklog =>
    simp only [notificationStep, NotificationStore.establishNotificationWatermark]
    split
    · exact h
    · rename_i hnone
      have hne : ownerId ≠ owner := by
        rintro rfl
        rw [hnone] at h
        cases h
      dsimp only
      rw [Table.get?_put_ne hne]
      cases suppressBacklog <;> exact h

private theorem watermark_established (st : NotificationStore) (ownerId : String) (establishedAt : Time)
    (establishedBy : String) (suppressBacklog : Bool) :
    ∃ watermark,
      (notificationStep st (.establish ownerId establishedAt establishedBy suppressBacklog)).watermarks.get?
      ownerId = some watermark := by
  simp only [notificationStep, NotificationStore.establishNotificationWatermark]
  split
  · rename_i existing hexisting
    exact ⟨existing, hexisting⟩
  · exact ⟨_, Table.get?_put_self _ _⟩

private theorem savedId_key (h : NotificationInv st) (hfresh : FreshId st (.save notification incidentDrillId now)) :
    ∃ saved, savedId st notification incidentDrillId now = some saved ∧
      (notificationStep st (.save notification incidentDrillId now)).byDeduplicationKey.get?
        notification.deduplicationKey = some (notification.deduplicationKey, saved) := by
  rcases save_cases h incidentDrillId now hfresh.2 with
    ⟨existing, stored, hkey, hstored, hsaved⟩ | ⟨-, -, labelled, new, hid, -, -, -, hsaved⟩
  · have hname : stored.notificationId = existing := Table.key_of_get? hstored
    simp only [savedId, notificationStep, hsaved, hname]
    exact ⟨existing, rfl, hkey⟩
  · simp only [savedId, notificationStep, hsaved, hid]
    exact ⟨_, rfl, Table.get?_put_self _ _⟩

end Steps

/-! ### Runs -/

section Runs

variable {start : NotificationStore} {history : List NotificationCall} {call : NotificationCall} {id ownerId : String}
  {leaseEpoch : Nat}

private theorem LatestClaim.snoc (h : LatestClaim start history id ownerId leaseEpoch)
    (hclaims : ¬ClaimsDelivery (Run.exec notificationStep start history) call id)
    (hanswers : ∀ owner epoch, ¬AnswersLease (Run.exec notificationStep start history) call id owner epoch) :
    LatestClaim start (history ++ [call]) id ownerId leaseEpoch := by
  obtain ⟨before, now, leaseDuration, limit, after, rfl, hleased, hsince⟩ := h
  refine ⟨before, now, leaseDuration, limit, after ++ [call], by simp, hleased, hsince.snoc ?_⟩
  rw [← Run.exec_append]
  have hsplit : before ++ [NotificationCall.claim ownerId now leaseDuration limit] ++ after =
      before ++ .claim ownerId now leaseDuration limit :: after := by simp
  rw [hsplit]
  exact ⟨hclaims, hanswers⟩

private theorem notificationInv_run (hfresh : Run.Along notificationStep FreshId .empty history) :
    NotificationInv (Run.exec notificationStep .empty history) :=
  Run.invariant_exec (I := NotificationInv) (fun _ _ h hcall => notificationStep_notificationInv h hcall)
    notificationInv_empty hfresh

/-- A leased row is held by its latest claimant, who has not answered yet. -/
private theorem latestClaim_of_leased (hfresh : Run.Along notificationStep FreshId .empty history)
    {row : NotificationDelivery} (hrow : (Run.exec notificationStep .empty history).deliveries.get? id = some row)
    (hleased : row.status = .leased) :
    ∃ ownerId, row.leaseOwner = some ownerId ∧ LatestClaim .empty history id ownerId row.leaseEpoch := by
  induction history using List.reverseRecOn generalizing row with
  | nil => cases hrow
  | append_singleton history call ih =>
    obtain ⟨hbefore, hcall, -⟩ := hfresh.split
    have hinv := notificationInv_run hbefore
    rw [Run.exec_append] at hrow
    cases hold : (Run.exec notificationStep .empty history).deliveries.get? id with
    | none => exact absurd hleased (notificationStep_new hinv hcall hold hrow)
    | some old =>
      obtain ⟨row', hrow', hstep⟩ := notificationStep_row hinv hcall hold
      obtain rfl := Option.some.inj (hrow.symm.trans hrow')
      cases hstep with
      | leased hclaim hvalue hmem _ =>
        subst hclaim hvalue
        have hname : old.notificationId = id := Table.key_of_get? hold
        exact ⟨_, rfl, history, _, _, _, [], rfl, ⟨_, hmem, hname, rfl⟩, trivial⟩
      | answered _ _ hended _ _ => exact absurd hleased hended
      | kept hclaims hanswers hkept =>
        obtain ⟨hheld, howner⟩ := hkept.holder hleased
        obtain ⟨ownerId, hownerId, hlatest⟩ := ih hbefore hold hheld
        refine ⟨ownerId, howner.trans hownerId, ?_⟩
        rw [hkept.epoch]
        exact hlatest.snoc hclaims hanswers

private theorem leased_of_answersLease {st : NotificationStore} (h : AnswersLease st call id ownerId leaseEpoch) :
    ∃ row, st.deliveries.get? id = some row ∧ row.status = .leased ∧ row.leaseOwner = some ownerId ∧
      row.leaseEpoch = leaseEpoch := by
  have hcheck :
      ∃ checkedAt row, checkDeliveryLease (st.deliveries.get? id) ownerId leaseEpoch checkedAt = .ok row := by
    rcases h with ⟨result, now, retryAt, terminal, -, completed, hok⟩ | ⟨now, retryAt, rfl, hsome⟩
    · obtain ⟨row, hrow, -⟩ := bind_ok hok
      exact ⟨_, row, hrow⟩
    · obtain ⟨-, row, hrow⟩ := answersLease_release.mp (.inr ⟨now, retryAt, rfl, hsome⟩)
      exact ⟨_, row, hrow⟩
  obtain ⟨checkedAt, row, hrow⟩ := hcheck
  exact ⟨row, NotificationStore.checkDeliveryLease_ok hrow⟩

/-- A claim and nothing else moves the lease epoch of a row; a SENT row stays. -/
private theorem epoch_of_deliveryStep {st : NotificationStore} {row row' : NotificationDelivery}
    (hrow : st.deliveries.get? id = some row) (hstep : DeliveryStep st call id row row') :
    (ClaimsDelivery st call id → row.leaseEpoch < row'.leaseEpoch) ∧
      (¬ClaimsDelivery st call id → row'.leaseEpoch = row.leaseEpoch) ∧
      (row.status = .sent → ¬ClaimsDelivery st call id ∧ row'.status = .sent) := by
  cases hstep with
  | leased hclaim hvalue hmem hsent =>
    subst hvalue
    have hname : row.notificationId = id := Table.key_of_get? hrow
    have hclaims : ClaimsDelivery st call id := ⟨_, hmem, hname⟩
    exact ⟨fun _ => Nat.lt_succ_self _, fun hnot => absurd hclaims hnot, fun h => absurd h hsent⟩
  | answered hclaims hleased _ hepoch _ =>
    refine ⟨fun hclaim => absurd hclaim hclaims, fun _ => hepoch, fun hsent => ?_⟩
    rw [hleased] at hsent
    cases hsent
  | kept hclaims _ hkept =>
    exact ⟨fun hclaim => absurd hclaim hclaims, fun _ => hkept.epoch, fun hsent => ⟨hclaims, hkept.sent hsent⟩⟩

private theorem key_exec {st : NotificationStore} {key : String} (hinv : NotificationInv st)
    (hkey : st.byDeduplicationKey.get? key = some (key, id)) (h : Run.Along notificationStep FreshId st history) :
    (Run.exec notificationStep st history).byDeduplicationKey.get? key = some (key, id) :=
  (Run.invariant_exec
    (I := fun st => NotificationInv st ∧ st.byDeduplicationKey.get? key = some (key, id))
    (fun _ _ hst hcall => ⟨notificationStep_notificationInv hst.1 hcall, notificationStep_key hst.1 hcall hst.2⟩)
    ⟨hinv, hkey⟩ h).2

private theorem watermark_exec (before after : List NotificationCall) (ownerId : String) (at₁ : Time) (by₁ : String)
    (suppress : Bool) :
    ∃ watermark, (Run.exec notificationStep .empty
      (before ++ .establish ownerId at₁ by₁ suppress :: after)).watermarks.get? ownerId = some watermark := by
  obtain ⟨watermark, hwatermark⟩ :=
    watermark_established (Run.exec notificationStep .empty before) ownerId at₁ by₁ suppress
  refine ⟨watermark, ?_⟩
  rw [Run.exec_append, Run.exec_cons]
  exact Run.invariant_exec (I := fun st : NotificationStore => st.watermarks.get? ownerId = some watermark)
    (P := fun _ _ => True) (fun st c h _ => notificationStep_watermark h c) hwatermark (Run.along_true _ _)

/-- In every order of calls: a claim and nothing else moves the lease epoch of a row, and moves it up; an accepted
completion or release comes from the latest claimant of the row and is the first since that claim; a SENT row is
neither claimed nor changed to another state; saves with one deduplication key share one delivery row; and a watermark
that is established again retires nothing. -/
theorem notification_leases_fenced (hfresh : Run.Along notificationStep FreshId .empty (history ++ [call])) :
    (∀ id row, (Run.exec notificationStep .empty history).deliveries.get? id = some row →
      ∃ row', (notificationStep (Run.exec notificationStep .empty history) call).deliveries.get? id = some row' ∧
        (ClaimsDelivery (Run.exec notificationStep .empty history) call id → row.leaseEpoch < row'.leaseEpoch) ∧
        (¬ClaimsDelivery (Run.exec notificationStep .empty history) call id → row'.leaseEpoch = row.leaseEpoch) ∧
        (row.status = .sent → ¬ClaimsDelivery (Run.exec notificationStep .empty history) call id ∧
          row'.status = .sent)) ∧
    (∀ id ownerId leaseEpoch, AnswersLease (Run.exec notificationStep .empty history) call id ownerId leaseEpoch →
      LatestClaim .empty history id ownerId leaseEpoch) ∧
    (∀ before after first drill at₁ second drill' at₂, history = before ++ .save first drill at₁ :: after →
      call = .save second drill' at₂ → first.deduplicationKey = second.deduplicationKey →
      ∃ id, savedId (Run.exec notificationStep .empty before) first drill at₁ = some id ∧
        savedId (Run.exec notificationStep .empty history) second drill' at₂ = some id ∧
        ((notificationStep (Run.exec notificationStep .empty history) call).deliveries.get? id).isSome ∧
        ∀ stored ∈ (notificationStep (Run.exec notificationStep .empty history) call).notifications.rows,
          stored.deduplicationKey = first.deduplicationKey → stored.notificationId = id) ∧
    ∀ before after ownerId at₁ by₁ suppress at₂ by₂ suppress',
      history = before ++ .establish ownerId at₁ by₁ suppress :: after → call = .establish ownerId at₂ by₂ suppress' →
      notificationStep (Run.exec notificationStep .empty history) call =
        Run.exec notificationStep .empty history := by
  obtain ⟨hhistory, hcall, -⟩ := hfresh.split
  have hinv := notificationInv_run hhistory
  refine ⟨fun id row hrow => ?_, fun id ownerId leaseEpoch hanswer => ?_, ?_, ?_⟩
  · obtain ⟨row', hrow', hstep⟩ := notificationStep_row hinv hcall hrow
    exact ⟨row', hrow', epoch_of_deliveryStep hrow hstep⟩
  · obtain ⟨row, hrow, hleased, howner, rfl⟩ := leased_of_answersLease hanswer
    obtain ⟨holder, hholder, hlatest⟩ := latestClaim_of_leased hhistory hrow hleased
    obtain rfl := Option.some.inj (howner.symm.trans hholder)
    exact hlatest
  · rintro before after first drill at₁ second drill' at₂ rfl rfl hkeys
    obtain ⟨hbefore, hsave, hafter⟩ := hhistory.split
    have hfirst := notificationInv_run hbefore
    obtain ⟨id, hid, hkey⟩ := savedId_key hfirst hsave
    obtain ⟨id', hid', hkey'⟩ := savedId_key hinv hcall
    have hstays :
        (Run.exec notificationStep .empty (before ++ .save first drill at₁ :: after)).byDeduplicationKey.get?
        first.deduplicationKey = some (first.deduplicationKey, id) := by
      rw [Run.exec_append, Run.exec_cons]
      exact key_exec (notificationStep_notificationInv hfirst hsave) hkey hafter
    have hafterwards := notificationStep_key hinv hcall hstays
    have hsame : id' = id := by
      rw [hkeys, hkey'] at hafterwards
      exact congrArg Prod.snd (Option.some.inj hafterwards)
    subst hsame
    have hend := notificationStep_notificationInv hinv hcall
    obtain ⟨-, stored, hstored, -⟩ := hend.keyed _ _ hafterwards
    refine ⟨id', hid, hid', (hend.delivered id').mpr (by rw [hstored]; rfl), fun other hother hdup => ?_⟩
    have hunder := hend.stored _ _ (Table.mem_rows.mp hother)
    rw [hdup, hafterwards] at hunder
    exact (congrArg Prod.snd (Option.some.inj hunder)).symm
  · rintro before after ownerId at₁ by₁ suppress at₂ by₂ suppress' rfl rfl
    obtain ⟨watermark, hstays⟩ := watermark_exec before after ownerId at₁ by₁ suppress
    simp only [notificationStep, NotificationStore.establishNotificationWatermark, hstays]

private def advisory (id : String) : AdvisoryNotification where
  notificationId := id
  deduplicationKey := "node-7/reset"
  clusterName := "west"
  incidentId := "inc-1"
  subject := "node-7 was reset"
  bodyText := "The reset finished."
  createdAt := 0

-- the second dispatcher claims the row after the lease of the first ran out
private def claimedTwice : List NotificationCall :=
  [.save (advisory "n-1") none 0, .claim "dispatcher-1" 10 30 25, .save (advisory "n-2") none 20,
    .claim "dispatcher-2" 50 30 25]

private def delivered : NotificationCall :=
  .complete "n-1" "dispatcher-2" 2
    { notificationId := "n-1"
      status := .sent }
    60 none false

theorem second_claimant_delivers : LatestClaim .empty claimedTwice "n-1" "dispatcher-2" 2 := by
  have hfresh : Run.Along notificationStep FreshId .empty (claimedTwice ++ [delivered]) := by decide +kernel
  refine (notification_leases_fenced hfresh).2.1 "n-1" "dispatcher-2" 2
    (answersLease_complete.mpr ⟨⟨rfl, rfl, rfl⟩, ?_⟩)
  exact ⟨_, rfl⟩

end Runs

end GpuFaultRecovery
