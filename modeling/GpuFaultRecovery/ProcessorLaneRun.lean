import GpuFaultRecovery.ProcessorLane
import GpuFaultRecovery.Run

/-!
# Runs of the processor lanes

A state is the store together with the clock and the tokens drawn so far. `RequestStep` and `LaneStep` list what an
operation can do to one request row and to one lane row. From them come the four facts the exclusivity of a lane rests
on: tokens name at most one request, every token in use was drawn, the lane of a completed request has ended or has
gone to another token, and a token that left a row or a lane never comes back to it.
-/

namespace GpuFaultRecovery

open LaneStore

/-- The store, the clock and the lease tokens drawn so far. -/
structure LaneState where
  store : LaneStore
  clock : Time
  issued : List String

inductive LaneOp where
  | enqueue (admitted : AdmittedRequest)
  | tryEnqueue (admitted : AdmittedRequest) (limits : AdmissionLimits)
  | claim (req : LaneClaim) (now : Time) (tokens : String → String)
  | renew (requestId : String) (holder : Holder) (leaseDuration : Int) (now : Time)
  | release (requestId : String) (holder : Holder) (notBefore : Option Time) (retryCount : Option Nat) (now : Time)
  | complete (requestId : String) (holder : Holder) (response : ProcessorResponse) (now : Time)
  | reclaim (now : Time) (limit : Nat)
  | cleanupLanes (olderThan : Time) (limit : Nat)

namespace LaneOp

/-- The reading of the clock an operation acts on. -/
def time : LaneOp → Option Time
  | .claim _ now _ | .renew _ _ _ now | .release _ _ _ _ now | .complete _ _ _ now | .reclaim now _ => some now
  | _ => none

end LaneOp

def claimedBy (s : LaneState) : LaneOp → List ProcessorRequest
  | .claim req now tokens => (s.store.claimActiveProcessorRequests req now tokens).2
  | _ => []

/-- The store after one operation; a refused one leaves it unchanged. -/
def laneStoreStep (st : LaneStore) : LaneOp → LaneStore
  | .enqueue admitted => st.enqueueProcessorRequest admitted.request
  | .tryEnqueue admitted limits => (st.tryEnqueueProcessorRequest admitted.request limits).1
  | .claim req now tokens => (st.claimActiveProcessorRequests req now tokens).1
  | .renew requestId holder leaseDuration now =>
    match st.renewActiveProcessorRequest requestId holder leaseDuration now with
    | .ok (st', _) => st'
    | .error _ => st
  | .release requestId holder notBefore retryCount now =>
    match st.releaseActiveProcessorRequest requestId holder notBefore retryCount now with
    | .ok st' => st'
    | .error _ => st
  | .complete requestId holder response now =>
    match st.completeActiveProcessorRequest requestId holder response now with
    | .ok (st', _) => st'
    | .error _ => st
  | .reclaim now limit => (st.reclaimExpiredProcessorLeases now limit).1
  | .cleanupLanes olderThan limit => (st.cleanupProcessorLanes olderThan limit).1

def laneStep (s : LaneState) (op : LaneOp) : LaneState where
  store := laneStoreStep s.store op
  clock := op.time.getD s.clock
  issued := s.issued ++ (claimedBy s op).filterMap (·.leaseToken)

def LaneState.init (clock : Time) : LaneState := ⟨.empty, clock, []⟩

/-- The clock never runs backwards and every token a claim draws is fresh. -/
structure Admissible (s : LaneState) (op : LaneOp) : Prop where
  clock : ∀ now, op.time = some now → s.clock ≤ now
  fresh : ∀ r ∈ claimedBy s op, ∀ t, r.leaseToken = some t → t ∉ s.issued
  distinct : ∀ r ∈ claimedBy s op, ∀ r' ∈ claimedBy s op, r.leaseToken = r'.leaseToken → r.requestId = r'.requestId

instance (s : LaneState) (op : LaneOp) : Decidable (Admissible s op) :=
  decidable_of_iff
    ((∀ now ∈ op.time, s.clock ≤ now) ∧
      (∀ r ∈ claimedBy s op, ∀ t ∈ r.leaseToken, t ∉ s.issued) ∧
      ∀ r ∈ claimedBy s op, ∀ r' ∈ claimedBy s op, r.leaseToken = r'.leaseToken → r.requestId = r'.requestId)
    ⟨fun h => ⟨h.1, h.2.1, h.2.2⟩, fun h => ⟨h.clock, h.fresh, h.distinct⟩⟩

/-! ### Depths -/

def ProcessorRequest.incomplete (r : ProcessorRequest) : Bool := r.status == .pending || r.status == .leased

theorem ProcessorRequest.incomplete_iff {r : ProcessorRequest} : r.incomplete = true ↔ r.status ≠ .completed := by
  unfold incomplete
  cases r.status <;> simp

def LaneStore.queueDepth (st : LaneStore) : Nat := st.requests.rows.countP (·.incomplete)

def LaneStore.clusterDepth (st : LaneStore) (clusterId : Option String) : Nat :=
  st.requests.rows.countP fun r => r.incomplete && r.clusterId == clusterId

/-! ### What an admission does -/

/-- The queued row `item` is one the sample `request` may supersede. -/
structure Supersedes (request item : ProcessorRequest) : Prop where
  coalescable : request.coalescable = true
  pending : item.status = .pending
  lane : item.orderingKey = request.orderingKey
  path : item.path = request.path
  itemCoalescable : item.coalescable = true

/-- There is room for `request` next to `depth` incomplete rows: below the limit, and below the reserve too unless the
request is of a reserved tier. -/
structure Room (request : ProcessorRequest) (limit reserved depth : Nat) : Prop where
  below : depth < limit
  reserve : request.isReservedTier = false → depth + reserved < limit

/-- The outcomes of an admission, each with the checks that led to it. -/
inductive AdmissionStep (st : LaneStore) (request : ProcessorRequest) (limits : AdmissionLimits) :
    LaneStore × AdmissionOutcome → Prop
  | known (r : ProcessorRequest) (hget : st.requests.get? request.requestId = some r) :
      AdmissionStep st request limits (st, .admitted)
  | merged (item : ProcessorRequest) (hnew : st.requests.get? request.requestId = none)
      (hrow : st.requests.get? item.requestId = some item) (hsuper : Supersedes request item) :
      AdmissionStep st request limits
        ({ st with requests := st.requests.put (coalesceRoutineSample item request) }, .coalesced)
  | refused (outcome : AdmissionOutcome) (hadmitted : outcome ≠ .admitted) (hcoalesced : outcome ≠ .coalesced) :
      AdmissionStep st request limits (st, outcome)
  | inserted (hnew : st.requests.get? request.requestId = none)
      (hroom : Room request limits.maxDepth limits.reservedFaultDepth st.queueDepth)
      (hcluster : Room request limits.maxClusterDepth limits.reservedClusterFaultDepth
        (st.clusterDepth request.clusterId)) :
      AdmissionStep st request limits ({ st with requests := st.requests.put request }, .admitted)

theorem tryEnqueue_step (st : LaneStore) (request : ProcessorRequest) (limits : AdmissionLimits) :
    AdmissionStep st request limits (st.tryEnqueueProcessorRequest request limits) := by
  unfold tryEnqueueProcessorRequest
  split
  · rename_i r hget
    exact .known r hget
  · rename_i hnew
    dsimp only
    split
    · rename_i item hfind
      split at hfind
      · rename_i hco
        have hguard := List.find?_some hfind
        simp only [Bool.and_eq_true, beq_iff_eq] at hguard
        obtain ⟨⟨⟨hpending, hlane⟩, hpath⟩, hitem⟩ := hguard
        have hrow := Table.mem_rows.mp (List.mem_of_find?_eq_some hfind)
        exact .merged item hnew hrow ⟨hco, hpending, hlane, hpath, hitem⟩
      · cases hfind
    · have hdepth : (st.requests.rows.filter fun item => item.status == .pending || item.status == .leased).length =
          st.queueDepth := List.countP_eq_length_filter.symm
      have hcluster : ((st.requests.rows.filter fun item => item.status == .pending || item.status == .leased).filter
          fun item => item.clusterId == request.clusterId).length = st.clusterDepth request.clusterId := by
        rw [List.filter_filter, ← List.countP_eq_length_filter]
        exact List.countP_congr fun r _ => by simp [ProcessorRequest.incomplete, Bool.and_comm]
      rw [hdepth, hcluster]
      split_ifs with h1 h2 h3 h4
      · exact .refused _ (by simp) (by simp)
      · exact .refused _ (by simp) (by simp)
      · exact .refused _ (by simp) (by simp)
      · exact .refused _ (by simp) (by simp)
      · refine .inserted hnew ⟨by omega, fun hr => ?_⟩ ⟨by omega, fun hr => ?_⟩
        · simpa [hr] using h2
        · simpa [hr] using h4

/-! ### What the holder and the sweep write -/

theorem holdsLane_some {st : LaneStore} {r : ProcessorRequest} {holder : Holder} {now : Time}
    {lane : ProcessorLaneLease} (h : st.holdsLane r holder now = some lane) :
    st.lanes.get? r.orderingKey = some lane ∧ lane.leaseToken = holder.token ∧ now < lane.leaseExpiresAt ∧
      r.leaseToken = some holder.token := by
  unfold holdsLane at h
  split at h
  · cases h
  · rename_i l hl
    split at h
    · rename_i hguard
      cases h
      simp only [laneHeldBy, requestHeldBy, Bool.and_eq_true, beq_iff_eq, decide_eq_true_eq] at hguard
      exact ⟨hl, hguard.1.1.2, hguard.1.2, hguard.2.2⟩
    · cases h

/-- A renewal writes the lane and the request together, or nothing. -/
theorem renew_cases (st : LaneStore) (requestId : String) (holder : Holder) (leaseDuration : Int) (now : Time) :
    laneStoreStep st (.renew requestId holder leaseDuration now) = st ∨
    ∃ current lane, current.requestId = requestId ∧ st.requests.get? current.requestId = some current ∧
      st.holdsLane current holder now = some lane ∧
      laneStoreStep st (.renew requestId holder leaseDuration now) =
        { requests := st.requests.put { current with leaseExpiresAt := some (now + leaseDuration), updatedAt := now }
          lanes := st.lanes.put { lane with leaseExpiresAt := now + leaseDuration, updatedAt := now } } := by
  simp only [laneStoreStep, renewActiveProcessorRequest]
  cases hget : st.requests.get? requestId with
  | none => exact Or.inl rfl
  | some current =>
    have hid : current.requestId = requestId := Table.key_of_get? hget
    dsimp only
    cases hholds : st.holdsLane current holder now with
    | none => exact Or.inl rfl
    | some lane => exact Or.inr ⟨current, lane, hid, hid ▸ hget, hholds, rfl⟩

def completedRequest (current : ProcessorRequest) (response : ProcessorResponse) (now : Time) : ProcessorRequest :=
  { current with
    status := .completed
    responseStatus := some response.status
    responseContentType := response.contentType
    responseBodyBase64 := some response.bodyBase64
    leaseExpiresAt := none
    updatedAt := now }

/-- A completion ends the lane with the request, or writes nothing. -/
theorem complete_cases (st : LaneStore) (requestId : String) (holder : Holder) (response : ProcessorResponse)
    (now : Time) :
    laneStoreStep st (.complete requestId holder response now) = st ∨
    ∃ current lane, current.requestId = requestId ∧ st.requests.get? current.requestId = some current ∧
      st.holdsLane current holder now = some lane ∧
      laneStoreStep st (.complete requestId holder response now) =
        { requests := st.requests.put (completedRequest current response now)
          lanes := st.lanes.put { lane with leaseExpiresAt := now, updatedAt := now } } := by
  simp only [laneStoreStep, completeActiveProcessorRequest]
  cases hget : st.requests.get? requestId with
  | none => exact Or.inl rfl
  | some current =>
    have hid : current.requestId = requestId := Table.key_of_get? hget
    dsimp only
    cases hholds : st.holdsLane current holder now with
    | none => exact Or.inl rfl
    | some lane => exact Or.inr ⟨current, lane, hid, hid ▸ hget, hholds, rfl⟩

/-- A release frees the lane on the lane's own check; the request goes back as well if it is leased to the holder. -/
theorem release_cases (st : LaneStore) (requestId : String) (holder : Holder) (notBefore : Option Time)
    (retryCount : Option Nat) (now : Time) :
    laneStoreStep st (.release requestId holder notBefore retryCount now) = st ∨
    ∃ current, current.requestId = requestId ∧ st.requests.get? current.requestId = some current ∧
      (laneStoreStep st (.release requestId holder notBefore retryCount now) =
          { st with lanes := st.releasedLanes current.orderingKey holder now } ∨
        (requestHeldBy current holder = true ∧ current.status = .leased ∧
          ∃ retries, laneStoreStep st (.release requestId holder notBefore retryCount now) =
            { requests := st.requests.put (releasedRequest current notBefore retries now)
              lanes := st.releasedLanes current.orderingKey holder now })) := by
  simp only [laneStoreStep, releaseActiveProcessorRequest]
  cases hget : st.requests.get? requestId with
  | none => exact Or.inl rfl
  | some current =>
    have hid : current.requestId = requestId := Table.key_of_get? hget
    refine Or.inr ⟨current, hid, hid ▸ hget, ?_⟩
    by_cases hheld : requestHeldBy current holder = true
    · by_cases hleased : current.status = .leased
      · simp only [hheld, hleased, Bool.not_true, Bool.false_eq_true, if_false, ne_eq, not_true_eq_false]
        exact Or.inr ⟨trivial, trivial, _, rfl⟩
      · simp only [hheld, hleased, Bool.not_true, Bool.false_eq_true, if_false, ne_eq, not_false_eq_true, if_true]
        exact Or.inl trivial
    · simp only [hheld, Bool.not_false, if_true]
      exact Or.inl trivial

/-- The sweep hands back leased requests whose lease lapsed. -/
theorem get?_reclaim (st : LaneStore) (now : Time) (limit : Nat) (id : String) :
    (st.reclaimExpiredProcessorLeases now limit).1.requests.get? id = st.requests.get? id ∨
    ∃ r, st.requests.get? id = some r ∧ r.status = .leased ∧ r.leaseLapsed now = true ∧
      (st.reclaimExpiredProcessorLeases now limit).1.requests.get? id =
        some (releasedRequest r none (r.retryCount + 1) (max now r.updatedAt)) := by
  simp only [reclaimExpiredProcessorLeases]
  generalize hl : (List.map _ _ : List ProcessorRequest) = l
  by_cases h : ∃ a ∈ l, a.requestId = id
  · obtain ⟨r', hr', hid, hput⟩ := Table.get?_putAll_of_mem (t := st.requests) h
    rw [← hl] at hr'
    obtain ⟨r, hr, rfl⟩ := List.mem_map.mp hr'
    have hmem := List.mem_of_mem_take hr
    rw [List.mem_insertionSort] at hmem
    obtain ⟨hrow, hguard⟩ := List.mem_filter.mp hmem
    simp only [Bool.and_eq_true, beq_iff_eq] at hguard
    have hget := Table.mem_rows.mp hrow
    have hrid : r.requestId = id := hid
    rw [hrid] at hget
    exact Or.inr ⟨r, hget, hguard.1, hguard.2, hput⟩
  · exact Or.inl (Table.get?_putAll_of_forall_ne fun a ha e => h ⟨a, ha, e⟩)

/-! ### What one operation does to one row -/

/-- What an operation can do to the row of the request `id`. -/
inductive RequestStep (s : LaneState) (op : LaneOp) (id : String) :
    Option ProcessorRequest → Option ProcessorRequest → Prop
  | kept (row : Option ProcessorRequest) (hnone : ∀ r ∈ claimedBy s op, r.requestId ≠ id) :
      RequestStep s op id row row
  | admitted (r : ProcessorRequest) (hstatus : r.status = .pending) (htoken : r.leaseToken = none)
      (hnone : claimedBy s op = []) : RequestStep s op id none (some r)
  | coalesced (r r' : ProcessorRequest) (hstatus : r.status = .pending) (hstatus' : r'.status = .pending)
      (htoken : r'.leaseToken = none) (hkey : r'.orderingKey = r.orderingKey) (hnone : claimedBy s op = []) :
      RequestStep s op id (some r) (some r')
  | claimed (r : ProcessorRequest) (req : LaneClaim) (now : Time) (token : String) (epoch : Nat)
      (hopen : r.status ≠ .completed) (hmem : claimedRequest req now token epoch r ∈ claimedBy s op) :
      RequestStep s op id (some r) (some (claimedRequest req now token epoch r))
  | renewed (r : ProcessorRequest) (holder : Holder) (leaseDuration : Int) (now : Time) (lane : ProcessorLaneLease)
      (hop : op = .renew id holder leaseDuration now) (hholds : s.store.holdsLane r holder now = some lane) :
      RequestStep s op id (some r) (some { r with leaseExpiresAt := some (now + leaseDuration), updatedAt := now })
  | released (r : ProcessorRequest) (notBefore : Option Time) (retryCount : Nat) (now : Time)
      (hleased : r.status = .leased) (hnone : claimedBy s op = []) :
      RequestStep s op id (some r) (some (releasedRequest r notBefore retryCount now))
  | completed (r r' : ProcessorRequest) (holder : Holder) (response : ProcessorResponse) (now : Time)
      (lane : ProcessorLaneLease) (hop : op = .complete id holder response now)
      (hholds : s.store.holdsLane r holder now = some lane) (hstatus : r'.status = .completed)
      (htoken : r'.leaseToken = r.leaseToken) (hkey : r'.orderingKey = r.orderingKey)
      (hended : ∀ lane', (laneStoreStep s.store op).lanes.get? r.orderingKey = some lane' →
        lane'.leaseExpiresAt = now) :
      RequestStep s op id (some r) (some r')

/-- What an operation can do to the row of the lane `key`. -/
inductive LaneStep (s : LaneState) (op : LaneOp) (key : String) :
    Option ProcessorLaneLease → Option ProcessorLaneLease → Prop
  | kept (lane : Option ProcessorLaneLease) (hnone : ∀ r ∈ claimedBy s op, r.orderingKey ≠ key) :
      LaneStep s op key lane lane
  | claimed (lane : Option ProcessorLaneLease) (lane' : ProcessorLaneLease) (r : ProcessorRequest)
      (hmem : r ∈ claimedBy s op) (htoken : r.leaseToken = some lane'.leaseToken) :
      LaneStep s op key lane (some lane')
  | renewed (lane lane' : ProcessorLaneLease) (r : ProcessorRequest) (holder : Holder) (now : Time)
      (hclock : op.time = some now) (hrow : s.store.requests.get? r.requestId = some r) (hkey : r.orderingKey = key)
      (hholds : s.store.holdsLane r holder now = some lane) (htoken : lane'.leaseToken = lane.leaseToken)
      (hnone : claimedBy s op = []) : LaneStep s op key (some lane) (some lane')
  | ended (lane : ProcessorLaneLease) (now : Time) (hclock : op.time = some now) (hnone : claimedBy s op = []) :
      LaneStep s op key (some lane) (some { lane with leaseExpiresAt := now, updatedAt := now })
  | removed (lane : ProcessorLaneLease) (hnone : claimedBy s op = []) : LaneStep s op key (some lane) none

/-! ### The claim loop -/

/-- What the claim loop did, seen from the store it started on. -/
structure LoopSpec (req : LaneClaim) (now : Time) (rest : List ProcessorRequest) (st st' : LaneStore)
    (new : List ProcessorRequest) : Prop where
  row : ∀ id, (st'.requests.get? id = st.requests.get? id ∧ ∀ r ∈ new, r.requestId ≠ id) ∨
    ∃ r ∈ rest, r.requestId = id ∧ ∃ token epoch, claimedRequest req now token epoch r ∈ new ∧
      st'.requests.get? id = some (claimedRequest req now token epoch r)
  lane : ∀ key, (st'.lanes.get? key = st.lanes.get? key ∧ ∀ r ∈ new, r.orderingKey ≠ key) ∨
    ∃ r ∈ new, ∃ lane', r.leaseToken = some lane'.leaseToken ∧ st'.lanes.get? key = some lane'

theorem claimLoop_spec (req : LaneClaim) (now : Time) (tokens : String → String)
    (rest : List ProcessorRequest) (st : LaneStore) (selected : List String) (claimed : List ProcessorRequest) :
    ∃ new, (claimLoop req now tokens rest st selected claimed).2 = claimed ++ new ∧
      LoopSpec req now rest st (claimLoop req now tokens rest st selected claimed).1 new := by
  induction rest generalizing st selected claimed with
  | nil => exact ⟨[], by simp [claimLoop], fun _ => Or.inl ⟨rfl, by simp⟩, fun _ => Or.inl ⟨rfl, by simp⟩⟩
  | cons item rest ih =>
    unfold claimLoop
    dsimp only
    split
    · obtain ⟨new, heq, hspec⟩ := ih st selected claimed
      refine ⟨new, heq, ?_, hspec.lane⟩
      intro id
      rcases hspec.row id with h | ⟨r, hr, h⟩
      · exact Or.inl h
      · exact Or.inr ⟨r, List.mem_cons_of_mem _ hr, h⟩
    · generalize hlane : claimedLane req now (tokens item.requestId) item (st.lanes.get? item.orderingKey) = newLane
      have hkey : newLane.orderingKey = item.orderingKey := by rw [← hlane]; rfl
      have htoken : newLane.leaseToken = tokens item.requestId := by rw [← hlane]; rfl
      generalize hvalue : claimedRequest req now (tokens item.requestId) newLane.epoch item = value
      have hid : value.requestId = item.requestId := by rw [← hvalue]; rfl
      have hvkey : value.orderingKey = item.orderingKey := by rw [← hvalue]; rfl
      have hvtoken : value.leaseToken = some newLane.leaseToken := by rw [← hvalue, htoken]; rfl
      -- the first write followed by whatever the rest of the loop did
      have hcons : ∀ {st' : LaneStore} {new : List ProcessorRequest},
          LoopSpec req now rest ⟨st.requests.put value, st.lanes.put newLane⟩ st' new →
          LoopSpec req now (item :: rest) st st' (value :: new) := by
        intro st' new hspec
        constructor
        · intro id
          rcases hspec.row id with ⟨hsame, hnone⟩ | ⟨r, hr, hrid, token, epoch, hmem, hget⟩
          · rw [Table.get?_put, hid] at hsame
            by_cases he : id = item.requestId
            · rw [if_pos he] at hsame
              refine Or.inr ⟨item, by simp, he.symm, tokens item.requestId, newLane.epoch, ?_⟩
              rw [hvalue]
              exact ⟨by simp, hsame⟩
            · rw [if_neg he] at hsame
              refine Or.inl ⟨hsame, ?_⟩
              intro r hr
              rcases List.mem_cons.mp hr with rfl | hr
              · exact fun e => he (e.symm.trans hid)
              · exact hnone r hr
          · exact Or.inr ⟨r, List.mem_cons_of_mem _ hr, hrid, token, epoch, List.mem_cons_of_mem _ hmem, hget⟩
        · intro key
          rcases hspec.lane key with ⟨hsame, hnone⟩ | ⟨r, hr, lane', htok, hget⟩
          · rw [Table.get?_put, hkey] at hsame
            by_cases he : key = item.orderingKey
            · rw [if_pos he] at hsame
              exact Or.inr ⟨value, by simp, newLane, hvtoken, hsame⟩
            · rw [if_neg he] at hsame
              refine Or.inl ⟨hsame, ?_⟩
              intro r hr
              rcases List.mem_cons.mp hr with rfl | hr
              · exact fun e => he (e.symm.trans hvkey)
              · exact hnone r hr
          · exact Or.inr ⟨r, List.mem_cons_of_mem _ hr, lane', htok, hget⟩
      split
      · refine ⟨[value], rfl, hcons ⟨fun _ => Or.inl ⟨rfl, by simp⟩, fun _ => Or.inl ⟨rfl, by simp⟩⟩⟩
      · obtain ⟨new, heq, hspec⟩ := ih ⟨st.requests.put value, st.lanes.put newLane⟩ (item.orderingKey :: selected)
          (claimed ++ [value])
        exact ⟨value :: new, by rw [heq, List.append_assoc, List.singleton_append], hcons hspec⟩

theorem mem_eligibleRequests {st : LaneStore} {req : LaneClaim} {now : Time} {r : ProcessorRequest}
    (h : r ∈ st.eligibleRequests req now) : st.requests.get? r.requestId = some r ∧ r.status ≠ .completed := by
  simp only [eligibleRequests, List.mem_insertionSort, List.mem_filter] at h
  obtain ⟨⟨⟨⟨hrow, hclaim⟩, -⟩, -⟩, -⟩ := h
  refine ⟨Table.mem_rows.mp hrow, fun hdone => ?_⟩
  simp [processorRequestClaimable, hdone] at hclaim

private theorem claim_spec (s : LaneState) (req : LaneClaim) (now : Time) (tokens : String → String) :
    LoopSpec req now (s.store.eligibleRequests req now) s.store
      (laneStoreStep s.store (.claim req now tokens)) (claimedBy s (.claim req now tokens)) := by
  obtain ⟨new, heq, hspec⟩ := claimLoop_spec req now tokens (s.store.eligibleRequests req now) s.store [] []
  have hnew : claimedBy s (.claim req now tokens) = new := heq
  rw [hnew]
  exact hspec

/-! ### The steps are complete -/

private theorem requestStep_put {s : LaneState} {op : LaneOp} {id : String} (r r' : ProcessorRequest)
    (hnone : claimedBy s op = []) (hid : r'.requestId = r.requestId)
    (hget : s.store.requests.get? r.requestId = some r)
    (h : r.requestId = id → RequestStep s op id (some r) (some r')) :
    RequestStep s op id (s.store.requests.get? id) ((s.store.requests.put r').get? id) := by
  rw [Table.get?_put, hid]
  by_cases he : id = r.requestId
  · subst he
    rw [if_pos rfl, hget]
    exact h rfl
  · rw [if_neg he]
    exact .kept _ (by simp [hnone])

private theorem requestStep_admit {s : LaneState} {op : LaneOp} {id : String} (admitted : AdmittedRequest)
    (hnone : claimedBy s op = []) (hget : s.store.requests.get? admitted.request.requestId = none) :
    RequestStep s op id (s.store.requests.get? id) ((s.store.requests.put admitted.request).get? id) := by
  rw [Table.get?_put]
  by_cases he : id = admitted.request.requestId
  · rw [if_pos he, he, hget]
    exact .admitted _ admitted.status_eq admitted.leaseToken_eq hnone
  · rw [if_neg he]
    exact .kept _ (by simp [hnone])

private theorem requestStep_tryEnqueue (s : LaneState) (admitted : AdmittedRequest) (limits : AdmissionLimits)
    (id : String) :
    RequestStep s (.tryEnqueue admitted limits) id (s.store.requests.get? id)
      ((laneStoreStep s.store (.tryEnqueue admitted limits)).requests.get? id) := by
  have hkept : RequestStep s (.tryEnqueue admitted limits) id (s.store.requests.get? id)
      (s.store.requests.get? id) := .kept _ (by simp [claimedBy])
  change RequestStep s _ id _ ((s.store.tryEnqueueProcessorRequest admitted.request limits).1.requests.get? id)
  have hstep := tryEnqueue_step s.store admitted.request limits
  generalize s.store.tryEnqueueProcessorRequest admitted.request limits = result at hstep
  cases hstep with
  | known | refused => exact hkept
  | merged item hnew hrow hsuper =>
    refine requestStep_put item _ rfl rfl hrow fun _ => ?_
    exact .coalesced item _ hsuper.pending rfl admitted.leaseToken_eq hsuper.lane.symm rfl
  | inserted hnew => exact requestStep_admit admitted rfl hnew

private theorem requestStep_claim (s : LaneState) (req : LaneClaim) (now : Time) (tokens : String → String)
    (id : String) :
    RequestStep s (.claim req now tokens) id (s.store.requests.get? id)
      ((laneStoreStep s.store (.claim req now tokens)).requests.get? id) := by
  rcases (claim_spec s req now tokens).row id with ⟨hsame, hnone⟩ | ⟨r, hr, hid, token, epoch, hmem, hget⟩
  · rw [hsame]
    exact .kept _ hnone
  · obtain ⟨hrow, hopen⟩ := mem_eligibleRequests hr
    rw [hget, ← hid, hrow]
    exact .claimed r req now token epoch hopen hmem

private theorem requestStep_renew (s : LaneState) (requestId : String) (holder : Holder) (leaseDuration : Int)
    (now : Time) (id : String) :
    RequestStep s (.renew requestId holder leaseDuration now) id (s.store.requests.get? id)
      ((laneStoreStep s.store (.renew requestId holder leaseDuration now)).requests.get? id) := by
  rcases renew_cases s.store requestId holder leaseDuration now with
    hsame | ⟨current, lane, rfl, hget, hholds, hstore⟩
  · rw [hsame]
    exact .kept _ (by simp [claimedBy])
  · rw [hstore]
    refine requestStep_put current _ rfl rfl hget fun he => ?_
    subst he
    exact .renewed current holder leaseDuration now lane rfl hholds

private theorem requestStep_release (s : LaneState) (requestId : String) (holder : Holder)
    (notBefore : Option Time) (retryCount : Option Nat) (now : Time) (id : String) :
    RequestStep s (.release requestId holder notBefore retryCount now) id (s.store.requests.get? id)
      ((laneStoreStep s.store (.release requestId holder notBefore retryCount now)).requests.get? id) := by
  rcases release_cases s.store requestId holder notBefore retryCount now with
    hsame | ⟨current, rfl, hget, hlanes | ⟨-, hleased, retries, hstore⟩⟩
  · rw [hsame]
    exact .kept _ (by simp [claimedBy])
  · rw [hlanes]
    exact .kept _ (by simp [claimedBy])
  · rw [hstore]
    exact requestStep_put current _ rfl rfl hget fun _ => .released current notBefore retries now hleased rfl

private theorem requestStep_complete (s : LaneState) (requestId : String) (holder : Holder)
    (response : ProcessorResponse) (now : Time) (id : String) :
    RequestStep s (.complete requestId holder response now) id (s.store.requests.get? id)
      ((laneStoreStep s.store (.complete requestId holder response now)).requests.get? id) := by
  rcases complete_cases s.store requestId holder response now with hsame | ⟨current, lane, rfl, hget, hholds, hstore⟩
  · rw [hsame]
    exact .kept _ (by simp [claimedBy])
  · rw [hstore]
    refine requestStep_put current _ rfl rfl hget fun he => ?_
    subst he
    refine .completed current _ holder response now lane rfl hholds rfl rfl rfl ?_
    intro lane' hlane'
    have hkey : lane.orderingKey = current.orderingKey := Table.key_of_get? (holdsLane_some hholds).1
    rw [hstore, Table.get?_put, if_pos hkey.symm] at hlane'
    rw [← Option.some.inj hlane']

private theorem requestStep_reclaim (s : LaneState) (now : Time) (limit : Nat) (id : String) :
    RequestStep s (.reclaim now limit) id (s.store.requests.get? id)
      ((laneStoreStep s.store (.reclaim now limit)).requests.get? id) := by
  rcases get?_reclaim s.store now limit id with hsame | ⟨r, hget, hleased, -, hback⟩
  · exact hsame ▸ .kept _ (by simp [claimedBy])
  · rw [hget]
    exact hback ▸ .released r none _ _ hleased rfl

/-- Every operation does to every request row one of the things `RequestStep` lists. -/
private theorem requestStep (s : LaneState) (op : LaneOp) (id : String) :
    RequestStep s op id (s.store.requests.get? id) ((laneStep s op).store.requests.get? id) := by
  cases op with
  | enqueue admitted =>
    change RequestStep _ _ _ _ ((s.store.enqueueProcessorRequest admitted.request).requests.get? id)
    unfold enqueueProcessorRequest
    split
    · exact .kept _ (by simp [claimedBy])
    · rename_i hnone
      exact requestStep_admit admitted rfl hnone
  | tryEnqueue admitted limits => exact requestStep_tryEnqueue s admitted limits id
  | claim req now tokens => exact requestStep_claim s req now tokens id
  | renew requestId holder leaseDuration now => exact requestStep_renew s requestId holder leaseDuration now id
  | release requestId holder notBefore retryCount now =>
    exact requestStep_release s requestId holder notBefore retryCount now id
  | complete requestId holder response now => exact requestStep_complete s requestId holder response now id
  | reclaim now limit => exact requestStep_reclaim s now limit id
  | cleanupLanes olderThan limit => exact .kept _ (by simp [claimedBy])

private theorem laneStep_kept {s : LaneState} {op : LaneOp} {key : String} (hnone : claimedBy s op = []) :
    LaneStep s op key (s.store.lanes.get? key) (s.store.lanes.get? key) :=
  .kept _ (by simp [hnone])

private theorem laneStep_put {s : LaneState} {op : LaneOp} {key : String} (lane lane' : ProcessorLaneLease)
    (hnone : claimedBy s op = []) (hkey : lane'.orderingKey = lane.orderingKey)
    (hget : s.store.lanes.get? lane.orderingKey = some lane)
    (h : lane.orderingKey = key → LaneStep s op key (some lane) (some lane')) :
    LaneStep s op key (s.store.lanes.get? key) ((s.store.lanes.put lane').get? key) := by
  rw [Table.get?_put, hkey]
  by_cases he : key = lane.orderingKey
  · subst he
    rw [if_pos rfl, hget]
    exact h rfl
  · rw [if_neg he]
    exact laneStep_kept hnone

private theorem laneStep_claim (s : LaneState) (req : LaneClaim) (now : Time) (tokens : String → String)
    (key : String) :
    LaneStep s (.claim req now tokens) key (s.store.lanes.get? key)
      ((laneStoreStep s.store (.claim req now tokens)).lanes.get? key) := by
  rcases (claim_spec s req now tokens).lane key with ⟨hsame, hnone⟩ | ⟨r, hr, lane', htoken, hget⟩
  · rw [hsame]
    exact .kept _ hnone
  · rw [hget]
    exact .claimed _ lane' r hr htoken

private theorem laneStep_renew (s : LaneState) (requestId : String) (holder : Holder) (leaseDuration : Int)
    (now : Time) (key : String) :
    LaneStep s (.renew requestId holder leaseDuration now) key (s.store.lanes.get? key)
      ((laneStoreStep s.store (.renew requestId holder leaseDuration now)).lanes.get? key) := by
  rcases renew_cases s.store requestId holder leaseDuration now with
    hsame | ⟨current, lane, rfl, hget, hholds, hstore⟩
  · rw [hsame]
    exact laneStep_kept rfl
  · have hlane := (holdsLane_some hholds).1
    have hkey : lane.orderingKey = current.orderingKey := Table.key_of_get? hlane
    rw [hstore]
    refine laneStep_put lane _ rfl rfl (hkey ▸ hlane) fun he => ?_
    exact .renewed lane _ current holder now rfl hget (hkey ▸ he) hholds rfl rfl

private theorem laneStep_release (s : LaneState) (requestId : String) (holder : Holder)
    (notBefore : Option Time) (retryCount : Option Nat) (now : Time) (key : String) :
    LaneStep s (.release requestId holder notBefore retryCount now) key (s.store.lanes.get? key)
      ((laneStoreStep s.store (.release requestId holder notBefore retryCount now)).lanes.get? key) := by
  have hlanes : ∀ k, LaneStep s (.release requestId holder notBefore retryCount now) key (s.store.lanes.get? key)
      ((s.store.releasedLanes k holder now).get? key) := by
    intro k
    unfold releasedLanes
    split
    · exact laneStep_kept rfl
    · rename_i lane hlane
      have hkey : lane.orderingKey = k := Table.key_of_get? hlane
      split
      · exact laneStep_put lane _ rfl rfl (hkey ▸ hlane) fun _ => .ended lane now rfl rfl
      · exact laneStep_kept rfl
  rcases release_cases s.store requestId holder notBefore retryCount now with
    hsame | ⟨current, rfl, -, hstore | ⟨-, -, retries, hstore⟩⟩
  · rw [hsame]
    exact laneStep_kept rfl
  · rw [hstore]
    exact hlanes _
  · rw [hstore]
    exact hlanes _

private theorem laneStep_complete (s : LaneState) (requestId : String) (holder : Holder)
    (response : ProcessorResponse) (now : Time) (key : String) :
    LaneStep s (.complete requestId holder response now) key (s.store.lanes.get? key)
      ((laneStoreStep s.store (.complete requestId holder response now)).lanes.get? key) := by
  rcases complete_cases s.store requestId holder response now with hsame | ⟨current, lane, rfl, -, hholds, hstore⟩
  · rw [hsame]
    exact laneStep_kept rfl
  · have hlane := (holdsLane_some hholds).1
    have hkey : lane.orderingKey = current.orderingKey := Table.key_of_get? hlane
    rw [hstore]
    exact laneStep_put lane _ rfl rfl (hkey ▸ hlane) fun _ => .ended lane now rfl rfl

/-- Every operation does to every lane row one of the things `LaneStep` lists. -/
private theorem laneRowStep (s : LaneState) (op : LaneOp) (key : String) :
    LaneStep s op key (s.store.lanes.get? key) ((laneStep s op).store.lanes.get? key) := by
  cases op with
  | enqueue admitted =>
    change LaneStep _ _ _ _ ((s.store.enqueueProcessorRequest admitted.request).lanes.get? key)
    unfold enqueueProcessorRequest
    split <;> exact laneStep_kept rfl
  | tryEnqueue admitted limits =>
    change LaneStep _ _ _ _ ((s.store.tryEnqueueProcessorRequest admitted.request limits).1.lanes.get? key)
    have hlanes : (s.store.tryEnqueueProcessorRequest admitted.request limits).1.lanes = s.store.lanes := by
      unfold tryEnqueueProcessorRequest
      split
      · rfl
      · dsimp only
        split
        · rfl
        · split_ifs <;> rfl
    rw [hlanes]
    exact laneStep_kept rfl
  | claim req now tokens => exact laneStep_claim s req now tokens key
  | renew requestId holder leaseDuration now => exact laneStep_renew s requestId holder leaseDuration now key
  | release requestId holder notBefore retryCount now =>
    exact laneStep_release s requestId holder notBefore retryCount now key
  | complete requestId holder response now => exact laneStep_complete s requestId holder response now key
  | reclaim now limit => exact laneStep_kept rfl
  | cleanupLanes olderThan limit =>
    change LaneStep _ _ _ _ ((s.store.cleanupProcessorLanes olderThan limit).1.lanes.get? key)
    simp only [cleanupProcessorLanes]
    rw [Table.get?_removeAll]
    split
    · cases hlane : s.store.lanes.get? key with
      | none => exact .kept _ (by simp [claimedBy])
      | some lane => exact .removed lane rfl
    · exact laneStep_kept rfl

/-! ### The invariant -/

/-- The token on the row of `id`. -/
def LaneState.requestToken (s : LaneState) (id : String) : Option String :=
  (s.store.requests.get? id).bind (·.leaseToken)

/-- The token on the lane `key`. -/
def LaneState.laneToken (s : LaneState) (key : String) : Option String :=
  (s.store.lanes.get? key).map (·.leaseToken)

/-- What every reachable state satisfies. -/
structure LaneInv (s : LaneState) : Prop where
  requestIssued : ∀ id t, s.requestToken id = some t → t ∈ s.issued
  laneIssued : ∀ key t, s.laneToken key = some t → t ∈ s.issued
  unique : ∀ id id' t, s.requestToken id = some t → s.requestToken id' = some t → id = id'
  /-- The lane of a completed request has ended, or has gone to another token. -/
  completedLane : ∀ id r lane t, s.store.requests.get? id = some r → r.status = .completed →
    r.leaseToken = some t → s.store.lanes.get? r.orderingKey = some lane → lane.leaseToken = t →
    lane.leaseExpiresAt ≤ s.clock

/-- After a step a row carries its old token, none, or one the step drew. -/
private theorem requestToken_step (s : LaneState) (op : LaneOp) (id : String) :
    ((laneStep s op).requestToken id = s.requestToken id ∧ ∀ r ∈ claimedBy s op, r.requestId ≠ id) ∨
    (laneStep s op).requestToken id = none ∨
    ∃ r ∈ claimedBy s op, r.requestId = id ∧ (laneStep s op).requestToken id = r.leaseToken := by
  have hstep := requestStep s op id
  unfold LaneState.requestToken
  generalize hrow : s.store.requests.get? id = row at hstep
  generalize hrow' : (laneStep s op).store.requests.get? id = row' at hstep
  cases hstep with
  | kept _ hnone => exact Or.inl ⟨rfl, hnone⟩
  | admitted r hstatus htoken => exact Or.inr (Or.inl (by simp [htoken]))
  | coalesced r r' hstatus hstatus' htoken => exact Or.inr (Or.inl (by simp [htoken]))
  | claimed r req now token epoch hopen hmem =>
    have hid : r.requestId = id := Table.key_of_get? hrow
    exact Or.inr (Or.inr ⟨_, hmem, hid, rfl⟩)
  | renewed r holder leaseDuration now lane hop =>
    subst hop
    exact Or.inl ⟨rfl, by simp [claimedBy]⟩
  | released r notBefore retryCount now => exact Or.inr (Or.inl rfl)
  | completed r r' holder response now lane hop hholds hstatus htoken =>
    subst hop
    exact Or.inl ⟨by simp [htoken], by simp [claimedBy]⟩

private theorem laneToken_step (s : LaneState) (op : LaneOp) (key : String) :
    ((laneStep s op).laneToken key = s.laneToken key ∧ ∀ r ∈ claimedBy s op, r.orderingKey ≠ key) ∨
    (laneStep s op).laneToken key = none ∨
    ∃ r ∈ claimedBy s op, (laneStep s op).laneToken key = r.leaseToken := by
  have hstep := laneRowStep s op key
  unfold LaneState.laneToken
  generalize hlane : s.store.lanes.get? key = lane at hstep
  generalize hlane' : (laneStep s op).store.lanes.get? key = lane' at hstep
  cases hstep with
  | kept _ hnone => exact Or.inl ⟨rfl, hnone⟩
  | claimed _ l' r hmem htoken => exact Or.inr (Or.inr ⟨r, hmem, by simp [htoken]⟩)
  | renewed l l' r holder now hclock hrow hkey hholds htoken hnone =>
    exact Or.inl ⟨by simp [htoken], by simp [hnone]⟩
  | ended l now hclock hnone => exact Or.inl ⟨rfl, by simp [hnone]⟩
  | removed l hnone => exact Or.inr (Or.inl rfl)

private theorem mem_issued_step {s : LaneState} {op : LaneOp} {t : String} (h : t ∈ s.issued) :
    t ∈ (laneStep s op).issued := List.mem_append_left _ h

private theorem claimed_issued {s : LaneState} {op : LaneOp} {r : ProcessorRequest} {t : String}
    (hr : r ∈ claimedBy s op) (ht : r.leaseToken = some t) : t ∈ (laneStep s op).issued :=
  List.mem_append_right _ (List.mem_filterMap.mpr ⟨r, hr, ht⟩)

theorem clock_le_step {s : LaneState} {op : LaneOp} (h : Admissible s op) : s.clock ≤ (laneStep s op).clock := by
  change s.clock ≤ op.time.getD s.clock
  cases ht : op.time with
  | none => exact le_refl _
  | some now => exact h.clock now ht

private theorem clock_step {s : LaneState} {op : LaneOp} {now : Time} (h : op.time = some now) :
    (laneStep s op).clock = now := by
  change op.time.getD s.clock = now
  rw [h]
  rfl

/-- A completed request is left exactly as it is by every step. -/
private theorem completed_kept {s : LaneState} {op : LaneOp} {id : String} {r : ProcessorRequest} (hs : LaneInv s)
    (hadm : Admissible s op) (hget : s.store.requests.get? id = some r) (hdone : r.status = .completed) :
    (laneStep s op).store.requests.get? id = some r ∧ (∀ r' ∈ claimedBy s op, r'.requestId ≠ id) ∧
      ∀ holder now, op.time = some now → s.store.holdsLane r holder now = none := by
  -- a completed row cannot be served: its lane has ended or carries another token
  have hstale : ∀ holder now, op.time = some now → s.store.holdsLane r holder now = none := by
    intro holder now hnow
    cases hholds : s.store.holdsLane r holder now with
    | none => rfl
    | some lane =>
      obtain ⟨hlane, htok, hlive, hrtok⟩ := holdsLane_some hholds
      have hended := hs.completedLane id r lane holder.token hget hdone hrtok hlane htok
      exact absurd hlive (not_lt.mpr (le_trans hended (hadm.clock now hnow)))
  have hstep := requestStep s op id
  rw [hget] at hstep
  generalize hrow' : (laneStep s op).store.requests.get? id = row' at hstep
  cases hstep with
  | kept _ hnone => exact ⟨rfl, hnone, hstale⟩
  | coalesced _ r' hstatus => rw [hdone] at hstatus; cases hstatus
  | claimed _ req now token epoch hopen => exact absurd hdone hopen
  | renewed _ holder leaseDuration now lane hop hholds =>
    rw [hstale holder now (by rw [hop]; rfl)] at hholds
    cases hholds
  | released _ notBefore retryCount now hleased => rw [hdone] at hleased; cases hleased
  | completed _ r' holder response now lane hop hholds =>
    rw [hstale holder now (by rw [hop]; rfl)] at hholds
    cases hholds

private theorem completedLane_step {s : LaneState} {op : LaneOp} (hs : LaneInv s) (hadm : Admissible s op)
    (id : String) (r : ProcessorRequest) (lane : ProcessorLaneLease) (t : String)
    (hget : (laneStep s op).store.requests.get? id = some r) (hdone : r.status = .completed)
    (htok : r.leaseToken = some t) (hlane : (laneStep s op).store.lanes.get? r.orderingKey = some lane)
    (hlt : lane.leaseToken = t) : lane.leaseExpiresAt ≤ (laneStep s op).clock := by
  have hmono := clock_le_step hadm
  have hstep := requestStep s op id
  rw [hget] at hstep
  generalize hrow : s.store.requests.get? id = row at hstep
  -- the row was completed before the step, and the lane is followed through it
  have hbefore : s.store.requests.get? id = some r → lane.leaseExpiresAt ≤ (laneStep s op).clock := by
    intro hold
    have hold_issued : t ∈ s.issued := hs.requestIssued id t (by simp [LaneState.requestToken, hold, htok])
    have hls := laneRowStep s op r.orderingKey
    rw [hlane] at hls
    generalize hlold : s.store.lanes.get? r.orderingKey = lold at hls
    cases hls with
    | kept => exact le_trans (hs.completedLane id r lane t hold hdone htok hlold hlt) hmono
    | claimed _ _ c hmem hctok => exact absurd (hlt ▸ hold_issued) (hadm.fresh c hmem _ hctok)
    | renewed l _ c holder now hclock hcrow hckey hholds hltok hnone =>
      obtain ⟨hl, hlholder, hlive, hctok⟩ := holdsLane_some hholds
      have hsame : c.requestId = id := by
        refine hs.unique _ _ t ?_ ?_
        · simp only [LaneState.requestToken, hcrow, Option.bind_some, hctok]
          rw [← hlt, hltok, hlholder]
        · simp [LaneState.requestToken, hold, htok]
      rw [hsame, hold] at hcrow
      cases hcrow
      have hended := hs.completedLane id r l t hold hdone htok hl (by rw [← hlt, hltok])
      exact absurd hlive (not_lt.mpr (le_trans hended (hadm.clock now hclock)))
    | ended l now hclock =>
      rw [clock_step hclock]
  cases hstep with
  | kept => exact hbefore hrow
  | admitted _ hstatus => rw [hdone] at hstatus; cases hstatus
  | coalesced r0 _ hstatus hstatus' => rw [hdone] at hstatus'; cases hstatus'
  | claimed => cases hdone
  | renewed r0 holder leaseDuration now l hop hholds =>
    -- a completed row is never renewed
    have hkept := (completed_kept hs hadm hrow hdone).2.2 holder now (by rw [hop]; rfl)
    rw [hkept] at hholds
    cases hholds
  | released => cases hdone
  | completed r0 _ holder response now l hop hholds hstatus htok' hkey hended =>
    rw [hkey] at hlane
    have htime : op.time = some now := by rw [hop]; rfl
    rw [hended lane hlane, clock_step htime]

private theorem unique_step {s : LaneState} {op : LaneOp} (hs : LaneInv s) (hadm : Admissible s op)
    (id id' t : String) (h : (laneStep s op).requestToken id = some t)
    (h' : (laneStep s op).requestToken id' = some t) : id = id' := by
  rcases requestToken_step s op id with ⟨he, -⟩ | he | ⟨r, hr, hid, he⟩
  · rw [he] at h
    rcases requestToken_step s op id' with ⟨he', -⟩ | he' | ⟨r', hr', -, he'⟩
    · rw [he'] at h'
      exact hs.unique id id' t h h'
    · rw [he'] at h'
      cases h'
    · exact absurd (hs.requestIssued id t h) (hadm.fresh r' hr' t (he' ▸ h'))
  · rw [he] at h
    cases h
  · rcases requestToken_step s op id' with ⟨he', -⟩ | he' | ⟨r', hr', hid', he'⟩
    · rw [he'] at h'
      exact absurd (hs.requestIssued id' t h') (hadm.fresh r hr t (he ▸ h))
    · rw [he'] at h'
      cases h'
    · rw [← hid, ← hid']
      exact hadm.distinct r hr r' hr' (by rw [← he, ← he', h, h'])

theorem laneInv_step (s : LaneState) (op : LaneOp) (hs : LaneInv s) (hadm : Admissible s op) :
    LaneInv (laneStep s op) where
  requestIssued id t h := by
    rcases requestToken_step s op id with ⟨he, -⟩ | he | ⟨r, hr, -, he⟩
    · exact mem_issued_step (hs.requestIssued id t (he ▸ h))
    · rw [he] at h
      cases h
    · exact claimed_issued hr (he ▸ h)
  laneIssued key t h := by
    rcases laneToken_step s op key with ⟨he, -⟩ | he | ⟨r, hr, he⟩
    · exact mem_issued_step (hs.laneIssued key t (he ▸ h))
    · rw [he] at h
      cases h
    · exact claimed_issued hr (he ▸ h)
  unique := unique_step hs hadm
  completedLane := completedLane_step hs hadm

theorem laneInv_init (clock : Time) : LaneInv (.init clock) where
  requestIssued id t h := by cases h
  laneIssued key t h := by cases h
  unique id id' t h := by cases h
  completedLane id r lane t h := by cases h

private theorem laneInv_exec {clock : Time} {ops : List LaneOp}
    (h : Run.Along laneStep Admissible (.init clock) ops) :
    LaneInv (Run.exec laneStep (.init clock) ops) :=
  Run.invariant_exec laneInv_step (laneInv_init clock) h

/-! ### Tokens do not come back -/

private theorem requestToken_lost {s : LaneState} {later : List LaneOp} {id t : String} (hs : t ∈ s.issued)
    (hlost : s.requestToken id ≠ some t) (h : Run.Along laneStep Admissible s later) :
    (Run.exec laneStep s later).requestToken id ≠ some t := by
  have hstep : ∀ s op, (t ∈ s.issued ∧ s.requestToken id ≠ some t) → Admissible s op →
      t ∈ (laneStep s op).issued ∧ (laneStep s op).requestToken id ≠ some t := by
    rintro s op ⟨hs, hlost⟩ hadm
    refine ⟨mem_issued_step hs, ?_⟩
    rcases requestToken_step s op id with ⟨he, -⟩ | he | ⟨r, hr, -, he⟩
    · rw [he]
      exact hlost
    · simp [he]
    · rw [he]
      exact fun ht => hadm.fresh r hr t ht hs
  exact (Run.invariant_exec hstep ⟨hs, hlost⟩ h).2

private theorem laneToken_lost {s : LaneState} {later : List LaneOp} {key t : String} (hs : t ∈ s.issued)
    (hlost : s.laneToken key ≠ some t) (h : Run.Along laneStep Admissible s later) :
    (Run.exec laneStep s later).laneToken key ≠ some t := by
  have hstep : ∀ s op, (t ∈ s.issued ∧ s.laneToken key ≠ some t) → Admissible s op →
      t ∈ (laneStep s op).issued ∧ (laneStep s op).laneToken key ≠ some t := by
    rintro s op ⟨hs, hlost⟩ hadm
    refine ⟨mem_issued_step hs, ?_⟩
    rcases laneToken_step s op key with ⟨he, -⟩ | he | ⟨r, hr, he⟩
    · rw [he]
      exact hlost
    · simp [he]
    · rw [he]
      exact fun ht => hadm.fresh r hr t ht hs
  exact (Run.invariant_exec hstep ⟨hs, hlost⟩ h).2

private theorem orderingKey_exec {s : LaneState} {later : List LaneOp} {id key : String}
    (h : ∃ r, s.store.requests.get? id = some r ∧ r.orderingKey = key) :
    ∃ r, (Run.exec laneStep s later).store.requests.get? id = some r ∧ r.orderingKey = key := by
  refine Run.invariant_exec (P := fun _ _ => True)
    (I := fun s : LaneState => ∃ r, s.store.requests.get? id = some r ∧ r.orderingKey = key) ?_ h (Run.along_true _ _)
  rintro s op ⟨r, hget, hkey⟩ -
  have hstep := requestStep s op id
  rw [hget] at hstep
  generalize hrow' : (laneStep s op).store.requests.get? id = row' at hstep
  cases hstep with
  | kept => exact ⟨r, rfl, hkey⟩
  | coalesced _ r' hstatus hstatus' htoken hkey' => exact ⟨r', rfl, hkey'.trans hkey⟩
  | claimed | renewed | released => exact ⟨_, rfl, hkey⟩
  | completed _ r' holder response now lane hop hholds hstatus htoken hkey' => exact ⟨r', rfl, hkey'.trans hkey⟩

/-! ### Exclusivity -/

/-- At `now` the holder would succeed in renewing or in completing the request `id`. -/
def CanServe (s : LaneState) (id : String) (holder : Holder) (now : Time) : Prop :=
  (∃ leaseDuration st', s.store.renewActiveProcessorRequest id holder leaseDuration now = .ok (st', true)) ∨
  ∃ response res, s.store.completeActiveProcessorRequest id holder response now = .ok res

/-- Renewal and completion pass the same guard. -/
private theorem canServe_holdsLane {s : LaneState} {id : String} {holder : Holder} {now : Time}
    (h : CanServe s id holder now) :
    ∃ r lane, s.store.requests.get? id = some r ∧ s.store.holdsLane r holder now = some lane := by
  rcases h with ⟨leaseDuration, st', h⟩ | ⟨response, res, h⟩
  · unfold renewActiveProcessorRequest at h
    split at h
    · cases h
    · rename_i r hr
      split at h
      · cases h
      · exact ⟨r, _, hr, ‹_›⟩
  · unfold completeActiveProcessorRequest at h
    split at h
    · cases h
    · rename_i r hr
      split at h
      · cases h
      · exact ⟨r, _, hr, ‹_›⟩

private theorem canServe_tokens {s : LaneState} {id key : String} {holder : Holder} {now : Time}
    (h : CanServe s id holder now) (hkey : ∃ r, s.store.requests.get? id = some r ∧ r.orderingKey = key) :
    s.requestToken id = some holder.token ∧ s.laneToken key = some holder.token := by
  obtain ⟨r, lane, hr, hholds⟩ := canServe_holdsLane h
  obtain ⟨r', hr', rfl⟩ := hkey
  rw [hr] at hr'
  cases hr'
  obtain ⟨hlane, hltok, -, hrtok⟩ := holdsLane_some hholds
  exact ⟨by simp [LaneState.requestToken, hr, hrtok], by simp [LaneState.laneToken, hlane, hltok]⟩

private theorem release_foreign {s : LaneState} {id : String} {holder : Holder} (notBefore : Option Time)
    (retryCount : Option Nat) (now : Time) (h : s.requestToken id ≠ some holder.token) :
    (laneStep s (.release id holder notBefore retryCount now)).store.requests.get? id =
      s.store.requests.get? id := by
  change (laneStoreStep s.store (.release id holder notBefore retryCount now)).requests.get? id = _
  simp only [laneStoreStep, releaseActiveProcessorRequest]
  cases hget : s.store.requests.get? id with
  | none => simp only [hget]
  | some r =>
    have hforeign : requestHeldBy r holder = false := by
      rw [Bool.eq_false_iff]
      intro hheld
      simp only [requestHeldBy, Bool.and_eq_true, beq_iff_eq] at hheld
      exact h (by simp [LaneState.requestToken, hget, hheld.2])
    simp only [hforeign, Bool.not_false, if_true, hget]

/-- The sweep takes the request `id` back from the holder of the token `t`. -/
def ReclaimedFrom (s : LaneState) (op : LaneOp) (id t : String) : Prop :=
  (∃ now limit, op = .reclaim now limit) ∧ s.requestToken id = some t ∧ (laneStep s op).requestToken id ≠ some t

private theorem completed_exec {s : LaneState} {later : List LaneOp} {id : String} {r : ProcessorRequest}
    (hs : LaneInv s) (hget : s.store.requests.get? id = some r) (hdone : r.status = .completed)
    (h : Run.Along laneStep Admissible s later) :
    (Run.exec laneStep s later).store.requests.get? id = some r ∧
      Run.Along laneStep (fun s op => (∀ r' ∈ claimedBy s op, r'.requestId ≠ id) ∧
        ∀ holder now, op.time = some now → ¬ CanServe s id holder now) s later := by
  have hstep : ∀ s op, (LaneInv s ∧ s.store.requests.get? id = some r) → Admissible s op →
      LaneInv (laneStep s op) ∧ (laneStep s op).store.requests.get? id = some r := by
    rintro s op ⟨hs, hget⟩ hadm
    exact ⟨laneInv_step s op hs hadm, (completed_kept hs hadm hget hdone).1⟩
  refine ⟨(Run.invariant_exec hstep ⟨hs, hget⟩ h).2, Run.along_of_invariant hstep ?_ ⟨hs, hget⟩ h⟩
  rintro s op ⟨hs, hget⟩ hadm
  obtain ⟨-, hnone, hstale⟩ := completed_kept hs hadm hget hdone
  refine ⟨hnone, fun holder now hnow hserve => ?_⟩
  obtain ⟨r', lane, hr', hholds⟩ := canServe_holdsLane hserve
  rw [hget] at hr'
  cases hr'
  rw [hstale holder now hnow] at hholds
  cases hholds

/-- Exclusivity of the processor lanes, in every run whose clock does not run backwards and whose tokens are fresh. At
every moment at most one request of a lane can be renewed or completed. A completed request stays as it is and is
never claimed, renewed or completed again. Once the sweep has taken a request back from a holder, or a later claim has
taken its lane, the holder never renews nor completes the request; and it never releases the request either, if the
request itself was taken back or claimed again. -/
theorem processor_lane_exclusive {clock : Time} {ops : List LaneOp}
    (h : Run.Along laneStep Admissible (.init clock) ops) :
    let s := Run.exec laneStep (.init clock) ops
    (∀ now id id' holder holder' r r', s.store.requests.get? id = some r → s.store.requests.get? id' = some r' →
      r.orderingKey = r'.orderingKey → CanServe s id holder now → CanServe s id' holder' now → id = id') ∧
    (∀ id r later, s.store.requests.get? id = some r → r.status = .completed →
      Run.Along laneStep Admissible s later →
      (Run.exec laneStep s later).store.requests.get? id = some r ∧
      Run.Along laneStep (fun s op => (∀ r' ∈ claimedBy s op, r'.requestId ≠ id) ∧
        ∀ holder now, op.time = some now → ¬ CanServe s id holder now) s later) ∧
    (∀ op later id key holder, holder.token ∈ s.issued →
      (∃ r, s.store.requests.get? id = some r ∧ r.orderingKey = key) →
      Run.Along laneStep Admissible s (op :: later) →
      ((ReclaimedFrom s op id holder.token ∨ ∃ r ∈ claimedBy s op, r.orderingKey = key) →
        ∀ now, ¬ CanServe (Run.exec laneStep s (op :: later)) id holder now) ∧
      ((ReclaimedFrom s op id holder.token ∨ ∃ r ∈ claimedBy s op, r.requestId = id) →
        ∀ notBefore retryCount now,
          (laneStep (Run.exec laneStep s (op :: later))
            (.release id holder notBefore retryCount now)).store.requests.get? id =
          (Run.exec laneStep s (op :: later)).store.requests.get? id)) := by
  intro s
  have hs : LaneInv s := laneInv_exec h
  refine ⟨?_, ?_, ?_⟩
  · intro now id id' holder holder' r r' hr hr' hkey hserve hserve'
    obtain ⟨htok, hlane⟩ := canServe_tokens hserve ⟨r, hr, rfl⟩
    obtain ⟨htok', hlane'⟩ := canServe_tokens hserve' ⟨r', hr', hkey.symm⟩
    rw [hlane] at hlane'
    rw [← hlane'] at htok'
    exact hs.unique id id' holder.token htok htok'
  · intro id r later hget hdone hlater
    exact completed_exec hs hget hdone hlater
  · intro op later id key holder hissued hkey hall
    obtain ⟨hadm, hlater⟩ := hall
    -- the row loses the token at `op`
    have hrow : (ReclaimedFrom s op id holder.token ∨ ∃ r ∈ claimedBy s op, r.requestId = id) →
        (Run.exec laneStep s (op :: later)).requestToken id ≠ some holder.token := by
      intro hend
      refine requestToken_lost (s := laneStep s op) (mem_issued_step hissued) ?_ hlater
      rcases hend with ⟨-, -, hlost⟩ | ⟨r, hr, hid⟩
      · exact hlost
      · rcases requestToken_step s op id with ⟨-, hnone⟩ | he | ⟨r', hr', -, he⟩
        · exact absurd hid (hnone r hr)
        · simp [he]
        · rw [he]
          exact fun ht => hadm.fresh r' hr' _ ht hissued
    refine ⟨?_, ?_⟩
    · intro hend now hserve
      obtain ⟨htok, hltok⟩ := canServe_tokens hserve (orderingKey_exec hkey)
      rcases hend with hrec | ⟨r, hr, hrkey⟩
      · exact hrow (Or.inl hrec) htok
      · refine laneToken_lost (s := laneStep s op) (mem_issued_step hissued) ?_ hlater hltok
        rcases laneToken_step s op key with ⟨-, hnone⟩ | he | ⟨r', hr', he⟩
        · exact absurd hrkey (hnone r hr)
        · simp [he]
        · rw [he]
          exact fun ht => hadm.fresh r' hr' _ ht hissued
    · intro hend notBefore retryCount now
      exact release_foreign notBefore retryCount now (hrow hend)

/-- Two requests of one lane: the first is admitted and leased, the second is more urgent. -/
private def slowRequest : AdmittedRequest := ⟨{ requestId := "slow", orderingKey := "lane" }, rfl, rfl⟩

private def urgentRequest : AdmittedRequest :=
  ⟨{ requestId := "urgent", orderingKey := "lane", queuePriority := 0 }, rfl, rfl⟩

private def slowLeased : List LaneOp :=
  [.enqueue slowRequest, .claim ⟨"a", 10, 1, none, none, 30000000⟩ 0 fun _ => "t1", .enqueue urgentRequest]

theorem processor_lane_exclusive_slowLeased :
    Run.Along laneStep Admissible (.init 0) slowLeased ∧
    ∀ now id id' holder holder' r r',
      (Run.exec laneStep (.init 0) slowLeased).store.requests.get? id = some r →
      (Run.exec laneStep (.init 0) slowLeased).store.requests.get? id' = some r' → r.orderingKey = r'.orderingKey →
      CanServe (Run.exec laneStep (.init 0) slowLeased) id holder now →
      CanServe (Run.exec laneStep (.init 0) slowLeased) id' holder' now → id = id' :=
  ⟨by decide, (@processor_lane_exclusive 0 slowLeased (by decide)).1⟩

/-- The former holder of a lapsed request whose lane went to a more urgent request still hands its request back. -/
theorem released_after_lane_superseded :
    ¬ ∀ (clock : Time) (ops : List LaneOp) (op : LaneOp) (id key : String) (holder : Holder),
      Run.Along laneStep Admissible (.init clock) (ops ++ [op]) →
      holder.token ∈ (Run.exec laneStep (.init clock) ops).issued →
      (∃ r, (Run.exec laneStep (.init clock) ops).store.requests.get? id = some r ∧ r.orderingKey = key) →
      (∃ r ∈ claimedBy (Run.exec laneStep (.init clock) ops) op, r.orderingKey = key) →
      ∀ notBefore retryCount now,
        (laneStep (Run.exec laneStep (.init clock) (ops ++ [op]))
          (.release id holder notBefore retryCount now)).store.requests.get? id =
        (Run.exec laneStep (.init clock) (ops ++ [op])).store.requests.get? id := by
  intro h
  have hsame := h 0 slowLeased (.claim ⟨"b", 10, 1, none, none, 30000000⟩ 20 fun _ => "t2") "slow" "lane"
    ⟨"a", 1, "t1"⟩ (by decide) (by decide) ⟨_, rfl, by decide⟩ (by decide) none none 21
  exact absurd hsame (by decide)

end GpuFaultRecovery
