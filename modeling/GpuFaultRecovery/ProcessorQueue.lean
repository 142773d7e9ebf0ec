import GpuFaultRecovery.ProcessorLaneRun

/-!
# The processor queue makes progress

A live lane lease is always backed by a request: one leased row of the lane carries the lane's token, holder and
expiry. Lane and row are moved by separate checks, so this is an invariant of all operations together: a release under
a token that no longer matches one of the two must not free the row and leave the lane, and a sweep that hands rows
back must not touch the row of a live lane.

From it comes progress. When no lease is live every lane is free, and of the requests that are left some can be
claimed: correlated faults wait for observations, and an observation waits for nothing.
-/

namespace GpuFaultRecovery

open LaneStore

/-! ### Retiring completed requests -/

/-- The order of the retention sweep: last write, then id. -/
def updatedBefore (a b : ProcessorRequest) : Prop :=
  a.updatedAt < b.updatedAt ∨ (a.updatedAt = b.updatedAt ∧ a.requestId ≤ b.requestId)

instance : DecidableRel updatedBefore :=
  fun a b => inferInstanceAs (Decidable (_ ∨ (a.updatedAt = b.updatedAt ∧ _)))

/-- Drop completed rows that were last written by `olderThan`. -/
def LaneStore.cleanupCompletedProcessorRequests (st : LaneStore) (olderThan : Time) (limit : Nat) : LaneStore × Nat :=
  let requestIds := (((st.requests.rows.insertionSort updatedBefore).filter fun item =>
    item.status == .completed && decide (item.updatedAt ≤ olderThan)).map (·.requestId)).take limit
  ({ st with requests := st.requests.removeAll requestIds }, requestIds.length)

/-- Only completed rows go. -/
theorem get?_cleanupRequests (st : LaneStore) (olderThan : Time) (limit : Nat) (id : String) :
    (st.cleanupCompletedProcessorRequests olderThan limit).1.requests.get? id = st.requests.get? id ∨
      ((st.cleanupCompletedProcessorRequests olderThan limit).1.requests.get? id = none ∧
        ∃ r, st.requests.get? id = some r ∧ r.status = .completed) := by
  simp only [cleanupCompletedProcessorRequests, Table.get?_removeAll]
  split
  · rename_i hmem
    obtain ⟨r, hr, rfl⟩ := List.mem_map.mp (List.mem_of_mem_take hmem)
    simp only [List.mem_filter, List.mem_insertionSort, Bool.and_eq_true, beq_iff_eq] at hr
    exact Or.inr ⟨rfl, r, Table.mem_rows.mp hr.1, hr.2.1⟩
  · exact Or.inl rfl

private theorem get?_of_cleanupRequests {st : LaneStore} {olderThan : Time} {limit : Nat} {id : String}
    {r : ProcessorRequest} (h : (st.cleanupCompletedProcessorRequests olderThan limit).1.requests.get? id = some r) :
    st.requests.get? id = some r := by
  rcases get?_cleanupRequests st olderThan limit id with he | ⟨he, -⟩
  · rw [← he]
    exact h
  · rw [he] at h
    cases h

/-! ### Operations of the queue -/

/-- The lane operations and the retention of completed requests. -/
inductive QueueOp where
  | lane (op : LaneOp)
  | cleanupRequests (olderThan : Time) (limit : Nat)

def queueStep (s : LaneState) : QueueOp → LaneState
  | .lane op => laneStep s op
  | .cleanupRequests olderThan limit =>
    { s with store := (s.store.cleanupCompletedProcessorRequests olderThan limit).1 }

/-- One clock that does not run backwards, and fresh lease tokens. -/
def QueueAdmissible (s : LaneState) : QueueOp → Prop
  | .lane op => Admissible s op
  | .cleanupRequests _ _ => True

instance (s : LaneState) : (op : QueueOp) → Decidable (QueueAdmissible s op)
  | .lane op => inferInstanceAs (Decidable (Admissible s op))
  | .cleanupRequests _ _ => inferInstanceAs (Decidable True)

private theorem requestToken_cleanup {s : LaneState} {olderThan : Time} {limit : Nat} {id t : String}
    (h : (queueStep s (.cleanupRequests olderThan limit)).requestToken id = some t) : s.requestToken id = some t := by
  unfold LaneState.requestToken at h ⊢
  obtain ⟨r, hr, ht⟩ := Option.bind_eq_some_iff.mp h
  rw [get?_of_cleanupRequests hr]
  exact ht

private theorem laneInv_queueStep (s : LaneState) (op : QueueOp) (hs : LaneInv s) (hadm : QueueAdmissible s op) :
    LaneInv (queueStep s op) := by
  cases op with
  | lane op => exact laneInv_step s op hs hadm
  | cleanupRequests olderThan limit =>
    constructor
    · intro id t h
      exact hs.requestIssued id t (requestToken_cleanup h)
    · intro key t h
      exact hs.laneIssued key t h
    · intro id id' t h h'
      exact hs.unique id id' t (requestToken_cleanup h) (requestToken_cleanup h')
    · intro id r lane t hget hdone htok hlane hltok
      exact hs.completedLane id r lane t (get?_of_cleanupRequests hget) hdone htok hlane hltok

/-! ### Lanes and the requests behind them -/

/-- The request `r` is the one the lane lease was taken for. -/
structure Backs (r : ProcessorRequest) (lane : ProcessorLaneLease) : Prop where
  leased : r.status = .leased
  orderingKey : r.orderingKey = lane.orderingKey
  token : r.leaseToken = some lane.leaseToken
  expiry : r.leaseExpiresAt = some lane.leaseExpiresAt
  owner : r.leaseOwner = some lane.ownerId
  epoch : r.leaderEpoch = some lane.epoch

/-- Every lane that is live at `now` is backed by a request. -/
def HeldAt (st : LaneStore) (now : Time) : Prop :=
  ∀ lane, st.lanes.get? lane.orderingKey = some lane → now < lane.leaseExpiresAt →
    ∃ r, st.requests.get? r.requestId = some r ∧ Backs r lane

private theorem HeldAt.mono {st : LaneStore} {t now : Time} (h : HeldAt st t) (hle : t ≤ now) : HeldAt st now := by
  intro lane hlane hlive
  exact h lane hlane (lt_of_le_of_lt hle hlive)

private theorem HeldAt.of_rows {st st' : LaneStore} {now : Time} (h : HeldAt st now)
    (hlanes : ∀ lane, st'.lanes.get? lane.orderingKey = some lane → now < lane.leaseExpiresAt →
      st.lanes.get? lane.orderingKey = some lane)
    (hrows : ∀ lane r, st'.lanes.get? lane.orderingKey = some lane → now < lane.leaseExpiresAt →
      st.requests.get? r.requestId = some r → Backs r lane → st'.requests.get? r.requestId = some r) :
    HeldAt st' now := by
  intro lane hlane hlive
  obtain ⟨r, hr, hbacks⟩ := h lane (hlanes lane hlane hlive) hlive
  exact ⟨r, hrows lane r hlane hlive hr hbacks, hbacks⟩

/-- A row and its lane written together. -/
private theorem HeldAt.put_both {st : LaneStore} {now : Time} (h : HeldAt st now) {current value : ProcessorRequest}
    {lane : ProcessorLaneLease} (hget : st.requests.get? value.requestId = some current)
    (hkey : current.orderingKey = lane.orderingKey) (hbacks : now < lane.leaseExpiresAt → Backs value lane) :
    HeldAt ⟨st.requests.put value, st.lanes.put lane⟩ now := by
  intro lane' hlane' hlive
  change (st.lanes.put lane).get? lane'.orderingKey = some lane' at hlane'
  change ∃ r, (st.requests.put value).get? r.requestId = some r ∧ _
  rw [Table.get?_put] at hlane'
  by_cases he : lane'.orderingKey = lane.orderingKey
  · rw [if_pos he] at hlane'
    cases hlane'
    exact ⟨value, Table.get?_put_self _ _, hbacks hlive⟩
  · rw [if_neg he] at hlane'
    obtain ⟨r, hr, hr'⟩ := h lane' hlane' hlive
    refine ⟨r, ?_, hr'⟩
    -- a row of another lane is another row
    have hne : r.requestId ≠ value.requestId := by
      intro e
      rw [e, hget] at hr
      cases hr
      exact he (hr'.orderingKey.symm.trans hkey)
    rw [Table.get?_put_ne hne]
    exact hr

/-! ### Admission -/

private theorem heldAt_put_fresh {st : LaneStore} {now : Time} (h : HeldAt st now) {r : ProcessorRequest}
    (hfree : ∀ current, st.requests.get? r.requestId = some current → current.status ≠ .leased) :
    HeldAt { st with requests := st.requests.put r } now := by
  refine h.of_rows (fun lane hlane _ => hlane) fun lane r' _ _ hr' hbacks => ?_
  have hne : r'.requestId ≠ r.requestId := by
    intro e
    rw [e] at hr'
    exact hfree r' hr' hbacks.leased
  exact (Table.get?_put_ne hne).trans hr'

private theorem heldAt_enqueue {st : LaneStore} {now : Time} (h : HeldAt st now) (request : ProcessorRequest) :
    HeldAt (st.enqueueProcessorRequest request) now := by
  unfold enqueueProcessorRequest
  split
  · exact h
  · rename_i hnone
    exact heldAt_put_fresh h fun current hget => by rw [hnone] at hget; cases hget

private theorem heldAt_tryEnqueue {st : LaneStore} {now : Time} (h : HeldAt st now) (request : ProcessorRequest)
    (limits : AdmissionLimits) : HeldAt (st.tryEnqueueProcessorRequest request limits).1 now := by
  have hstep := tryEnqueue_step st request limits
  generalize st.tryEnqueueProcessorRequest request limits = result at hstep
  cases hstep with
  | known | refused => exact h
  | merged item hnew hrow hsuper =>
    -- a sample merges into a pending row
    refine heldAt_put_fresh h fun current hget => ?_
    have hitem : st.requests.get? item.requestId = some current := hget
    rw [hrow] at hitem
    cases hitem
    simp [hsuper.pending]
  | inserted hnew => exact heldAt_put_fresh h fun current hget => by rw [hnew] at hget; cases hget

/-! ### The claim -/

/-- The claim loop keeps every live lane backed. Its candidates stay on the lanes they were read on. -/
private theorem heldAt_claimLoop (req : LaneClaim) (now : Time) (tokens : String → String)
    {rest : List ProcessorRequest} {st : LaneStore} (selected : List String) (claimed : List ProcessorRequest)
    (hrest : ∀ x ∈ rest, (st.requests.get? x.requestId).map (·.orderingKey) = some x.orderingKey)
    (h : HeldAt st now) : HeldAt (claimLoop req now tokens rest st selected claimed).1 now := by
  induction rest generalizing st selected claimed with
  | nil => exact h
  | cons item rest ih =>
    unfold claimLoop
    dsimp only
    split
    · exact ih selected claimed (fun x hx => hrest x (List.mem_cons_of_mem _ hx)) h
    · generalize hlane : claimedLane req now (tokens item.requestId) item (st.lanes.get? item.orderingKey) = lane
      have hkey : lane.orderingKey = item.orderingKey := by rw [← hlane]; rfl
      generalize hvalue : claimedRequest req now (tokens item.requestId) lane.epoch item = value
      have hid : value.requestId = item.requestId := by rw [← hvalue]; rfl
      have hvkey : value.orderingKey = item.orderingKey := by rw [← hvalue]; rfl
      obtain ⟨current, hcurrent, hckey⟩ := Option.map_eq_some_iff.mp (hrest item (by simp))
      have hbacks : Backs value lane := by
        constructor <;> simp [← hvalue, ← hlane, claimedRequest, claimedLane]
      have hput : HeldAt ⟨st.requests.put value, st.lanes.put lane⟩ now :=
        h.put_both (hid ▸ hcurrent) (hckey.trans hkey.symm) fun _ => hbacks
      split
      · exact hput
      · refine ih _ _ ?_ hput
        intro x hx
        have hxkey := hrest x (List.mem_cons_of_mem _ hx)
        change ((st.requests.put value).get? x.requestId).map _ = _
        rw [Table.get?_put]
        by_cases he : x.requestId = value.requestId
        · rw [he, hid, hcurrent] at hxkey
          rw [if_pos he]
          simp only [Option.map_some, Option.some.injEq] at hxkey ⊢
          rw [hvkey, ← hckey]
          exact hxkey
        · rw [if_neg he]
          exact hxkey

private theorem heldAt_claim {st : LaneStore} {now : Time} (h : HeldAt st now) (req : LaneClaim)
    (tokens : String → String) :
    HeldAt (st.claimActiveProcessorRequests req now tokens).1 now := by
  refine heldAt_claimLoop req now tokens [] [] (fun x hx => ?_) h
  rw [(mem_eligibleRequests hx).1]
  rfl

/-! ### The holder -/

private theorem backs_of_holdsLane {s : LaneState} {current : ProcessorRequest} {holder : Holder} {now : Time}
    {lane : ProcessorLaneLease} (hs : LaneInv s) (h : HeldAt s.store now)
    (hget : s.store.requests.get? current.requestId = some current)
    (hholds : s.store.holdsLane current holder now = some lane) : Backs current lane := by
  obtain ⟨hlane, htok, hlive, hctok⟩ := holdsLane_some hholds
  have hkey : lane.orderingKey = current.orderingKey := Table.key_of_get? hlane
  rw [← hkey] at hlane
  obtain ⟨r, hr, hbacks⟩ := h lane hlane hlive
  have htoken : s.requestToken r.requestId = some holder.token := by
    simp [LaneState.requestToken, hr, hbacks.token, htok]
  have hctoken : s.requestToken current.requestId = some holder.token := by
    simp [LaneState.requestToken, hget, hctok]
  have hid := hs.unique _ _ _ htoken hctoken
  rw [hid, hget] at hr
  cases hr
  exact hbacks

private theorem heldAt_renew {s : LaneState} {now : Time} (hs : LaneInv s) (h : HeldAt s.store now)
    (requestId : String) (holder : Holder) (leaseDuration : Int) :
    HeldAt (laneStoreStep s.store (.renew requestId holder leaseDuration now)) now := by
  rcases renew_cases s.store requestId holder leaseDuration now with he | ⟨current, lane, -, hget, hholds, he⟩
  · rw [he]
    exact h
  · have hbacks := backs_of_holdsLane hs h hget hholds
    rw [he]
    refine h.put_both hget hbacks.orderingKey fun _ => ?_
    exact ⟨hbacks.leased, hbacks.orderingKey, hbacks.token, rfl, hbacks.owner, hbacks.epoch⟩

private theorem heldAt_complete {s : LaneState} {now : Time} (hs : LaneInv s) (h : HeldAt s.store now)
    (requestId : String) (holder : Holder) (response : ProcessorResponse) :
    HeldAt (laneStoreStep s.store (.complete requestId holder response now)) now := by
  rcases complete_cases s.store requestId holder response now with he | ⟨current, lane, -, hget, hholds, he⟩
  · rw [he]
    exact h
  · have hbacks := backs_of_holdsLane hs h hget hholds
    rw [he]
    -- the lane ends with the request
    exact h.put_both hget hbacks.orderingKey fun hlive => absurd hlive (lt_irrefl now)

/-- A lane that outlives a release under `holder` was not the holder's. -/
private theorem live_releasedLanes {st : LaneStore} {key : String} {holder : Holder} {now : Time}
    {lane : ProcessorLaneLease} (hlane : (st.releasedLanes key holder now).get? lane.orderingKey = some lane)
    (hlive : now < lane.leaseExpiresAt) :
    st.lanes.get? lane.orderingKey = some lane ∧ (lane.orderingKey = key → laneHeldBy lane holder = false) := by
  unfold releasedLanes at hlane
  split at hlane
  · rename_i hnone
    refine ⟨hlane, fun e => ?_⟩
    rw [e, hnone] at hlane
    cases hlane
  · rename_i l hl
    have hkey : l.orderingKey = key := Table.key_of_get? hl
    split at hlane
    · rename_i hguard
      rw [Table.get?_put] at hlane
      split at hlane
      · cases hlane
        exact absurd hlive (lt_irrefl now)
      · rename_i hne
        exact ⟨hlane, fun e => absurd (e.trans hkey.symm) hne⟩
    · rename_i hguard
      refine ⟨hlane, fun e => ?_⟩
      rw [e, hl] at hlane
      cases hlane
      simpa [hlive] using hguard

private theorem heldAt_release {st : LaneStore} {now : Time} (h : HeldAt st now) (requestId : String)
    (holder : Holder) (notBefore : Option Time) (retryCount : Option Nat) :
    HeldAt (laneStoreStep st (.release requestId holder notBefore retryCount now)) now := by
  rcases release_cases st requestId holder notBefore retryCount now with
    he | ⟨current, -, hget, he | ⟨hheld, -, retries, he⟩⟩
  · rw [he]
    exact h
  · -- the lane is released, the row is not
    rw [he]
    exact h.of_rows (fun lane hlane hlive => (live_releasedLanes hlane hlive).1) fun lane r _ _ hr _ => hr
  · rw [he]
    refine h.of_rows (fun lane hlane hlive => (live_releasedLanes hlane hlive).1) ?_
    intro lane r hlane hlive hr hbacks
    have hforeign := (live_releasedLanes hlane hlive).2
    -- a row that the holder matches has a lane that the holder matches
    have hne : r.requestId ≠ current.requestId := by
      intro e
      rw [e, hget] at hr
      cases hr
      have hmatch : laneHeldBy lane holder = true := by
        simpa [requestHeldBy, laneHeldBy, hbacks.owner, hbacks.epoch, hbacks.token] using hheld
      rw [hforeign hbacks.orderingKey.symm] at hmatch
      cases hmatch
    exact (Table.get?_put_ne (a := releasedRequest current notBefore retries now) hne).trans hr

/-! ### The sweeps -/

private theorem heldAt_reclaim {st : LaneStore} {now : Time} (h : HeldAt st now) (limit : Nat) :
    HeldAt (st.reclaimExpiredProcessorLeases now limit).1 now := by
  refine h.of_rows (fun lane hlane _ => hlane) ?_
  intro lane r _ hlive hr hbacks
  rcases get?_reclaim st now limit r.requestId with he | ⟨r', hr', -, hlapsed, -⟩
  · rw [he]
    exact hr
  · rw [hr] at hr'
    cases hr'
    -- the row expires with its lane, which is live
    simp only [ProcessorRequest.leaseLapsed, hbacks.expiry, decide_eq_true_eq] at hlapsed
    exact absurd hlive (not_lt.mpr hlapsed)

private theorem heldAt_cleanupLanes {st : LaneStore} {now : Time} (h : HeldAt st now) (olderThan : Time)
    (limit : Nat) :
    HeldAt (st.cleanupProcessorLanes olderThan limit).1 now := by
  refine h.of_rows ?_ fun lane r _ _ hr _ => hr
  intro lane hlane _
  simp only [cleanupProcessorLanes, Table.get?_removeAll] at hlane
  split at hlane
  · cases hlane
  · exact hlane

private theorem heldAt_cleanupRequests {st : LaneStore} {now : Time} (h : HeldAt st now) (olderThan : Time)
    (limit : Nat) :
    HeldAt (st.cleanupCompletedProcessorRequests olderThan limit).1 now := by
  refine h.of_rows (fun lane hlane _ => hlane) ?_
  intro lane r _ _ hr hbacks
  rcases get?_cleanupRequests st olderThan limit r.requestId with he | ⟨-, r', hr', hdone⟩
  · rw [he]
    exact hr
  · rw [hr] at hr'
    cases hr'
    rw [hbacks.leased] at hdone
    cases hdone

/-! ### Whole runs -/

private theorem heldAt_queueStep {s : LaneState} {op : QueueOp} (hs : LaneInv s) (h : HeldAt s.store s.clock)
    (hadm : QueueAdmissible s op) : HeldAt (queueStep s op).store (queueStep s op).clock := by
  cases op with
  | cleanupRequests olderThan limit => exact heldAt_cleanupRequests h olderThan limit
  | lane op =>
    have hlater : HeldAt s.store (laneStep s op).clock := h.mono (clock_le_step hadm)
    cases op with
    | enqueue admitted => exact heldAt_enqueue hlater admitted.request
    | tryEnqueue admitted limits => exact heldAt_tryEnqueue hlater admitted.request limits
    | claim req now tokens => exact heldAt_claim hlater req tokens
    | renew requestId holder leaseDuration now => exact heldAt_renew hs hlater requestId holder leaseDuration
    | release requestId holder notBefore retryCount now =>
      exact heldAt_release hlater requestId holder notBefore retryCount
    | complete requestId holder response now => exact heldAt_complete hs hlater requestId holder response
    | reclaim now limit => exact heldAt_reclaim hlater limit
    | cleanupLanes olderThan limit => exact heldAt_cleanupLanes hlater olderThan limit

private theorem heldAt_exec {clock : Time} {ops : List QueueOp}
    (h : Run.Along queueStep QueueAdmissible (.init clock) ops) :
    LaneInv (Run.exec queueStep (.init clock) ops) ∧
      HeldAt (Run.exec queueStep (.init clock) ops).store (Run.exec queueStep (.init clock) ops).clock := by
  refine Run.invariant_exec (I := fun s => LaneInv s ∧ HeldAt s.store s.clock) ?_ ?_ h
  · rintro s op ⟨hs, hheld⟩ hadm
    exact ⟨laneInv_queueStep s op hs hadm, heldAt_queueStep hs hheld hadm⟩
  · refine ⟨laneInv_init clock, ?_⟩
    intro lane hlane
    cases hlane

/-! ### Progress -/

/-- Whether the request is leased and its lease is still running at `now`. -/
def ProcessorRequest.leaseLive (r : ProcessorRequest) (now : Time) : Bool :=
  r.status == .leased && r.leaseExpiresAt.any fun t => decide (now < t)

private theorem ProcessorRequest.leaseLive_of_lt {r : ProcessorRequest} {now t : Time} (hleased : r.status = .leased)
    (ht : r.leaseExpiresAt = some t) (hlt : now < t) : r.leaseLive now = true := by
  simp [leaseLive, hleased, ht, hlt]

/-- No incomplete request is deferred to a later time and no request lease is running. -/
structure Quiescent (st : LaneStore) (now : Time) : Prop where
  available : ∀ r ∈ st.requests.rows, r.status ≠ .completed → r.availableForClaim now = true
  lapsed : ∀ r ∈ st.requests.rows, r.leaseLive now ≠ true

private theorem Quiescent.laneFree {st : LaneStore} {now : Time} (h : Quiescent st now) (hheld : HeldAt st now)
    (key : String) :
    laneLive (st.lanes.get? key) now = false := by
  cases hlane : st.lanes.get? key with
  | none => rfl
  | some lane =>
    have hkey : lane.orderingKey = key := Table.key_of_get? hlane
    subst hkey
    simp only [laneLive, decide_eq_false_iff_not]
    intro hlive
    obtain ⟨r, hr, hbacks⟩ := hheld lane hlane hlive
    exact h.lapsed r (Table.mem_rows.mpr hr) (ProcessorRequest.leaseLive_of_lt hbacks.leased hbacks.expiry hlive)

private theorem Quiescent.claimable {st : LaneStore} {now : Time} (h : Quiescent st now) {r : ProcessorRequest}
    (hr : r ∈ st.requests.rows) (hopen : r.status ≠ .completed) :
    processorRequestClaimable r now (deferredStrictProcessorLanes st.requests.rows now) = true := by
  have hnone : deferredStrictProcessorLanes st.requests.rows now = [] := by
    simp only [deferredStrictProcessorLanes, List.map_eq_nil_iff, List.filter_eq_nil_iff]
    intro x hx hbarrier
    simp only [ProcessorRequest.isStrictRetryBarrier, Bool.and_eq_true, beq_iff_eq, Bool.not_eq_true'] at hbarrier
    have havailable := h.available x hx (by simp [hbarrier.1.1])
    rw [hbarrier.2] at havailable
    cases havailable
  unfold processorRequestClaimable
  cases hstatus : r.status with
  | pending => simpa [hnone] using h.available r hr hopen
  | completed => exact absurd hstatus hopen
  | leased =>
    have hlapsed := h.lapsed r hr
    cases hexpiry : r.leaseExpiresAt with
    | none => simp [hnone]
    | some t =>
      have hle : t ≤ now := not_lt.mp fun hlt => hlapsed (ProcessorRequest.leaseLive_of_lt hstatus hexpiry hlt)
      simp [hnone, ProcessorRequest.leaseLapsed, hexpiry, hle]

/-- An observation waits for nothing; without a pending one nobody waits. -/
private theorem Quiescent.exists_unblocked {st : LaneStore} {now : Time} (h : Quiescent st now)
    (hobs : ∀ r ∈ st.requests.rows, r.path = workloadObservationsPath → r.isCorrelatedFault = false)
    (hopen : ∃ r ∈ st.requests.rows, r.status ≠ .completed) :
    ∃ r ∈ st.requests.rows, r.status ≠ .completed ∧
      r.waitsForObservation (incompleteObservationScopeKeys st.requests.rows now) = false := by
  by_cases hpending : ∃ r ∈ st.requests.rows, r.status = .pending ∧ r.path = workloadObservationsPath
  · obtain ⟨r, hr, hstatus, hpath⟩ := hpending
    exact ⟨r, hr, by simp [hstatus], by simp [ProcessorRequest.waitsForObservation, hobs r hr hpath]⟩
  · have hnone : incompleteObservationScopeKeys st.requests.rows now = [] := by
      simp only [incompleteObservationScopeKeys, List.flatMap_eq_nil_iff, List.mem_filter, Bool.and_eq_true,
        Bool.or_eq_true, beq_iff_eq, Bool.not_eq_true']
      rintro r ⟨hr, hpath, hstatus | ⟨⟨hleased, hsome⟩, hlive⟩⟩
      · exact absurd ⟨r, hr, hstatus, hpath⟩ hpending
      · obtain ⟨t, ht⟩ := Option.isSome_iff_exists.mp hsome
        simp only [ProcessorRequest.leaseLapsed, ht, decide_eq_false_iff_not, not_le] at hlive
        exact absurd (ProcessorRequest.leaseLive_of_lt hleased ht hlive) (h.lapsed r hr)
    obtain ⟨r, hr, hr'⟩ := hopen
    exact ⟨r, hr, hr', by simp [ProcessorRequest.waitsForObservation, hnone]⟩

private theorem claimLoop_ne_nil (req : LaneClaim) (now : Time) (tokens : String → String)
    {rest : List ProcessorRequest} {st : LaneStore} (hrest : rest ≠ [])
    (hfree : ∀ key, laneLive (st.lanes.get? key) now = false) :
    (claimLoop req now tokens rest st [] []).2 ≠ [] := by
  cases rest with
  | nil => exact absurd rfl hrest
  | cons item rest =>
    unfold claimLoop
    simp only [List.contains_nil, hfree, Bool.or_self, Bool.false_eq_true, if_false]
    split
    · simp
    · obtain ⟨new, heq, -⟩ := claimLoop_spec req now tokens rest _ _ _
      rw [heq]
      simp

private theorem Quiescent.claim_ne_nil {st : LaneStore} {now : Time} (h : Quiescent st now) (hheld : HeldAt st now)
    (hobs : ∀ r ∈ st.requests.rows, r.path = workloadObservationsPath → r.isCorrelatedFault = false)
    (hopen : ∃ r ∈ st.requests.rows, r.status ≠ .completed) {req : LaneClaim} (hincl : req.includePaths = none)
    (hexcl : req.excludePaths = none) (tokens : String → String) :
    (st.claimActiveProcessorRequests req now tokens).2 ≠ [] := by
  obtain ⟨r, hr, hstatus, hfree⟩ := h.exists_unblocked hobs hopen
  refine claimLoop_ne_nil req now tokens ?_ (h.laneFree hheld)
  have hmem : r ∈ st.eligibleRequests req now := by
    simp only [eligibleRequests, List.mem_insertionSort, List.mem_filter, hincl, hexcl]
    exact ⟨⟨⟨⟨hr, h.claimable hr hstatus⟩, by simp [hfree]⟩, trivial⟩, trivial⟩
  exact List.ne_nil_of_mem hmem

/-- No lane is held by nobody and the queue never deadlocks, in every run whose clock does not run backwards and whose
tokens are fresh. A live lane has exactly one leased request with its token and expiry. And when requests are left,
none of them deferred and no lease running, a claim without a path filter leases at least one, provided that workload
observations are not correlated faults themselves. -/
theorem processor_queue_progress {clock : Time} {ops : List QueueOp}
    (h : Run.Along queueStep QueueAdmissible (.init clock) ops) :
    let s := Run.exec queueStep (.init clock) ops
    (∀ lane ∈ s.store.lanes.rows, s.clock < lane.leaseExpiresAt →
      ∃! r, r ∈ s.store.requests.rows ∧ r.status = .leased ∧ r.orderingKey = lane.orderingKey ∧
        r.leaseToken = some lane.leaseToken ∧ r.leaseExpiresAt = some lane.leaseExpiresAt) ∧
    (∀ (req : LaneClaim) (now : Time) (tokens : String → String), s.clock ≤ now →
      (∀ r ∈ s.store.requests.rows, r.path = workloadObservationsPath → r.isCorrelatedFault = false) →
      (∃ r ∈ s.store.requests.rows, r.status ≠ .completed) → Quiescent s.store now →
      req.includePaths = none → req.excludePaths = none → 0 < req.limit →
      (s.store.claimActiveProcessorRequests req now tokens).2 ≠ []) := by
  intro s
  obtain ⟨hs, hheld⟩ : LaneInv s ∧ HeldAt s.store s.clock := heldAt_exec h
  refine ⟨?_, ?_⟩
  · intro lane hlane hlive
    obtain ⟨r, hr, hbacks⟩ := hheld lane (Table.mem_rows.mp hlane) hlive
    refine ⟨r, ⟨Table.mem_rows.mpr hr, hbacks.leased, hbacks.orderingKey, hbacks.token, hbacks.expiry⟩, ?_⟩
    rintro r' ⟨hr', -, -, htok', -⟩
    have hget' := Table.mem_rows.mp hr'
    have hid : r'.requestId = r.requestId :=
      hs.unique _ _ lane.leaseToken (by simp [LaneState.requestToken, hget', htok'])
        (by simp [LaneState.requestToken, hr, hbacks.token])
    rw [hid, hr] at hget'
    exact (Option.some.inj hget').symm
  · intro req now tokens hnow hobs hopen hquiet hincl hexcl _
    exact hquiet.claim_ne_nil (hheld.mono hnow) hobs hopen hincl hexcl tokens

/-- A fault and the observation it waits for; the observation is leased and its holder is gone. -/
private def waitingFault : AdmittedRequest :=
  ⟨{ requestId := "fault", path := "/v1/gpu-events/xid", orderingKey := "c:node:n", queuePriority := 10,
     correlatedPath := true, correlationScopeKeys := ["k"] }, rfl, rfl⟩

private def observation : AdmittedRequest :=
  ⟨{ requestId := "seen", path := workloadObservationsPath, orderingKey := "c:attempt:a",
     correlationScopeKeys := ["k"] }, rfl, rfl⟩

private def leasedObservation : List QueueOp :=
  [.lane (.enqueue waitingFault), .lane (.enqueue observation),
   .lane (.claim ⟨"a", 10, 1, none, none, 30000000⟩ 0 fun _ => "t1")]

theorem progress_after_lost_observer :
    Run.Along queueStep QueueAdmissible (.init 0) leasedObservation ∧
    (∃! r, r ∈ (Run.exec queueStep (.init 0) leasedObservation).store.requests.rows ∧ r.status = .leased ∧
      r.orderingKey = "c:attempt:a" ∧ r.leaseToken = some "t1" ∧ r.leaseExpiresAt = some 10) ∧
    ((Run.exec queueStep (.init 0) leasedObservation).store.claimActiveProcessorRequests
      ⟨"b", 10, 2, none, none, 30000000⟩ 20 fun id => id).2 ≠ [] := by
  have hrun : Run.Along queueStep QueueAdmissible (.init 0) leasedObservation := by decide +kernel
  obtain ⟨hheld, hprogress⟩ := @processor_queue_progress 0 leasedObservation hrun
  refine ⟨hrun, hheld ⟨"c:attempt:a", "a", 1, "t1", 10, 0⟩ (by decide +kernel) (by decide +kernel), ?_⟩
  exact hprogress _ 20 _ (by decide +kernel) (by decide +kernel) (by decide +kernel)
    ⟨by decide +kernel, by decide +kernel⟩ rfl rfl (by decide)

end GpuFaultRecovery
