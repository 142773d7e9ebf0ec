import GpuFaultRecovery.ProcessorQueue

/-!
# Admission to the processor queue

An admission under fixed limits inserts a row, merges a latest-wins sample into a queued one, or refuses. The depths
it keeps are counts of incomplete rows, over the whole queue and in each cluster; every other operation can only lower
them. A request that is not latest-wins keeps its row and its body from the admission to its completion.

A merge is not checked against the depths: it adds no row. The merged row takes the cluster of the new sample, so the
count of a cluster is bounded as long as samples only merge into rows of their own cluster.
-/

namespace GpuFaultRecovery

open LaneStore

/-! ### What the other operations do to a row -/

/-- What a request keeps from its admission on. -/
structure SamePayload (r r' : ProcessorRequest) : Prop where
  path : r'.path = r.path
  body : r'.bodyBase64 = r.bodyBase64
  cluster : r'.clusterId = r.clusterId
  lane : r'.orderingKey = r.orderingKey
  priority : r'.queuePriority = r.queuePriority
  latestWins : r'.latestWins = r.latestWins

namespace SamePayload

private theorem refl (r : ProcessorRequest) : SamePayload r r := ⟨rfl, rfl, rfl, rfl, rfl, rfl⟩

private theorem trans {r r' r'' : ProcessorRequest} (h : SamePayload r r') (h' : SamePayload r' r'') :
    SamePayload r r'' :=
  ⟨h'.path.trans h.path, h'.body.trans h.body, h'.cluster.trans h.cluster, h'.lane.trans h.lane,
    h'.priority.trans h.priority, h'.latestWins.trans h.latestWins⟩

private theorem coalescable {r r' : ProcessorRequest} (h : SamePayload r r') : r'.coalescable = r.coalescable := by
  simp only [ProcessorRequest.coalescable, h.priority, h.latestWins]

end SamePayload

/-- What serving does to a row: its lease and status move, its payload stays, and a completed row is not reopened;
only a completed row is ever dropped. -/
inductive RowServed : Option ProcessorRequest → Option ProcessorRequest → Prop
  | same (row : Option ProcessorRequest) : RowServed row row
  | moved (r r' : ProcessorRequest) (hpayload : SamePayload r r')
      (hdone : r.status = .completed → r'.status = .completed) : RowServed (some r) (some r')
  | retired (r : ProcessorRequest) (hdone : r.status = .completed) : RowServed (some r) none

private theorem rowServed_put {requests : Table ProcessorRequest.requestId} (r r' : ProcessorRequest)
    (hget : requests.get? r.requestId = some r) (hid : r'.requestId = r.requestId) (hpayload : SamePayload r r')
    (hdone : r.status = .completed → r'.status = .completed) (id : String) :
    RowServed (requests.get? id) ((requests.put r').get? id) := by
  rw [Table.get?_put, hid]
  by_cases he : id = r.requestId
  · rw [if_pos he, he, hget]
    exact .moved r r' hpayload hdone
  · rw [if_neg he]
    exact .same _

namespace QueueOp

def admits : QueueOp → Option ProcessorRequest
  | .lane (.enqueue admitted) => some admitted.request
  | .lane (.tryEnqueue admitted _) => some admitted.request
  | _ => none

/-- Admissions are checked, and all against the same limits. -/
def AdmitsUnder (limits : AdmissionLimits) : QueueOp → Prop
  | .lane (.enqueue _) => False
  | .lane (.tryEnqueue _ l) => l = limits
  | _ => True

end QueueOp

private theorem rowServed_claim (st : LaneStore) (req : LaneClaim) (now : Time) (tokens : String → String)
    (id : String) :
    RowServed (st.requests.get? id) ((st.claimActiveProcessorRequests req now tokens).1.requests.get? id) := by
  obtain ⟨new, -, hspec⟩ := claimLoop_spec req now tokens (st.eligibleRequests req now) st [] []
  rcases hspec.row id with ⟨hsame, -⟩ | ⟨r, hr, hid, token, epoch, -, hget⟩
  · exact hsame ▸ .same _
  · obtain ⟨hrow, hopen⟩ := mem_eligibleRequests hr
    rw [hid] at hrow
    change RowServed _ ((claimLoop req now tokens (st.eligibleRequests req now) st [] []).1.requests.get? id)
    rw [hrow, hget]
    exact .moved r _ ⟨rfl, rfl, rfl, rfl, rfl, rfl⟩ fun hdone => absurd hdone hopen

private theorem rowServed_renew (st : LaneStore) (requestId : String) (holder : Holder) (leaseDuration : Int)
    (now : Time) (id : String) :
    RowServed (st.requests.get? id)
      ((laneStoreStep st (.renew requestId holder leaseDuration now)).requests.get? id) := by
  rcases renew_cases st requestId holder leaseDuration now with he | ⟨current, lane, -, hget, -, he⟩
  · rw [he]
    exact .same _
  · rw [he]
    refine rowServed_put current _ hget ?_ ?_ ?_ id
    · rfl
    · exact ⟨rfl, rfl, rfl, rfl, rfl, rfl⟩
    · exact fun hdone => hdone

private theorem rowServed_release (st : LaneStore) (requestId : String) (holder : Holder) (notBefore : Option Time)
    (retryCount : Option Nat) (now : Time) (id : String) :
    RowServed (st.requests.get? id)
      ((laneStoreStep st (.release requestId holder notBefore retryCount now)).requests.get? id) := by
  rcases release_cases st requestId holder notBefore retryCount now with
    he | ⟨current, -, hget, he | ⟨-, hleased, retries, he⟩⟩
  · rw [he]
    exact .same _
  · rw [he]
    exact .same _
  · rw [he]
    refine rowServed_put current _ hget ?_ ?_ ?_ id
    · rfl
    · exact ⟨rfl, rfl, rfl, rfl, rfl, rfl⟩
    · intro hdone
      rw [hleased] at hdone
      cases hdone

private theorem rowServed_complete (st : LaneStore) (requestId : String) (holder : Holder)
    (response : ProcessorResponse) (now : Time) (id : String) :
    RowServed (st.requests.get? id)
      ((laneStoreStep st (.complete requestId holder response now)).requests.get? id) := by
  rcases complete_cases st requestId holder response now with he | ⟨current, lane, -, hget, -, he⟩
  · rw [he]
    exact .same _
  · rw [he]
    refine rowServed_put current _ hget ?_ ?_ ?_ id
    · rfl
    · exact ⟨rfl, rfl, rfl, rfl, rfl, rfl⟩
    · exact fun _ => rfl

private theorem rowServed_reclaim (st : LaneStore) (now : Time) (limit : Nat) (id : String) :
    RowServed (st.requests.get? id) ((st.reclaimExpiredProcessorLeases now limit).1.requests.get? id) := by
  rcases get?_reclaim st now limit id with he | ⟨r, hget, hleased, -, he⟩
  · rw [he]
    exact .same _
  · rw [he, hget]
    refine .moved r _ ⟨rfl, rfl, rfl, rfl, rfl, rfl⟩ fun hdone => ?_
    rw [hleased] at hdone
    cases hdone

/-- Every operation that admits nothing only serves rows. -/
private theorem rowServed_step (s : LaneState) (op : QueueOp) (hop : op.admits = none) (id : String) :
    RowServed (s.store.requests.get? id) ((queueStep s op).store.requests.get? id) := by
  cases op with
  | cleanupRequests olderThan limit =>
    change RowServed _ ((s.store.cleanupCompletedProcessorRequests olderThan limit).1.requests.get? id)
    rcases get?_cleanupRequests s.store olderThan limit id with he | ⟨he, r, hr, hdone⟩
    · exact he ▸ .same _
    · rw [he, hr]
      exact .retired r hdone
  | lane op =>
    cases op with
    | enqueue admitted => cases hop
    | tryEnqueue admitted limits => cases hop
    | claim req now tokens => exact rowServed_claim s.store req now tokens id
    | renew requestId holder leaseDuration now => exact rowServed_renew s.store requestId holder leaseDuration now id
    | release requestId holder notBefore retryCount now =>
      exact rowServed_release s.store requestId holder notBefore retryCount now id
    | complete requestId holder response now => exact rowServed_complete s.store requestId holder response now id
    | reclaim now limit => exact rowServed_reclaim s.store now limit id
    | cleanupLanes olderThan limit => exact .same _

/-! ### Depths along a run -/

private theorem RowServed.incomplete_before {before after : Option ProcessorRequest} (h : RowServed before after)
    {r' : ProcessorRequest} (hafter : after = some r') (hopen : r'.incomplete = true) :
    ∃ r, before = some r ∧ r.incomplete = true ∧ r.clusterId = r'.clusterId := by
  cases h with
  | same => exact ⟨r', hafter, hopen, rfl⟩
  | retired r hdone => cases hafter
  | moved r r0 hpayload hdone =>
    cases hafter
    rw [ProcessorRequest.incomplete_iff] at hopen
    exact ⟨r, rfl, ProcessorRequest.incomplete_iff.mpr fun hr => hopen (hdone hr), hpayload.cluster.symm⟩

private theorem depths_served {s : LaneState} {op : QueueOp} (hop : op.admits = none) :
    (queueStep s op).store.queueDepth ≤ s.store.queueDepth ∧
      ∀ c, (queueStep s op).store.clusterDepth c ≤ s.store.clusterDepth c := by
  have hbefore : ∀ r', (queueStep s op).store.requests.get? r'.requestId = some r' → r'.incomplete = true →
      ∃ r, s.store.requests.get? r.requestId = some r ∧ r.incomplete = true ∧ r.clusterId = r'.clusterId ∧
        r.requestId = r'.requestId := by
    intro r' hget hopen
    obtain ⟨r, hr, hr', hcluster⟩ := (rowServed_step s op hop r'.requestId).incomplete_before hget hopen
    have hid : r.requestId = r'.requestId := Table.key_of_get? hr
    exact ⟨r, hid ▸ hr, hr', hcluster, hid⟩
  constructor
  · refine Table.countP_le_of_subset fun r' hget hopen => ?_
    obtain ⟨r, hr, hr', -, hid⟩ := hbefore r' hget hopen
    exact ⟨r, hr, hr', hid⟩
  · intro c
    refine Table.countP_le_of_subset fun r' hget hopen => ?_
    simp only [Bool.and_eq_true, beq_iff_eq] at hopen
    obtain ⟨r, hr, hr', hcluster, hid⟩ := hbefore r' hget hopen.1
    exact ⟨r, hr, by simp [hr', hcluster, hopen.2], hid⟩

private theorem queueDepth_merged {st : LaneStore} {request item : ProcessorRequest}
    (hrow : st.requests.get? item.requestId = some item) (hsuper : Supersedes request item) :
    ({ st with requests := st.requests.put (coalesceRoutineSample item request) } : LaneStore).queueDepth ≤
      st.queueDepth := by
  refine Table.countP_le_of_subset fun r hget hopen => ?_
  rw [Table.get?_put] at hget
  split at hget
  · rename_i hid
    exact ⟨item, hrow, by simp [ProcessorRequest.incomplete, hsuper.pending], hid.symm⟩
  · exact ⟨r, hget, hopen, rfl⟩

private theorem clusterDepth_merged {st : LaneStore} {request item : ProcessorRequest}
    (hrow : st.requests.get? item.requestId = some item) (hsuper : Supersedes request item)
    (hcluster : item.clusterId = request.clusterId) (c : Option String) :
    ({ st with requests := st.requests.put (coalesceRoutineSample item request) } : LaneStore).clusterDepth c ≤
      st.clusterDepth c := by
  refine Table.countP_le_of_subset fun r hget hopen => ?_
  rw [Table.get?_put] at hget
  split at hget
  · rename_i hid
    cases hget
    simp only [Bool.and_eq_true, beq_iff_eq] at hopen
    have hc : item.clusterId = c := hcluster.trans hopen.2
    exact ⟨item, hrow, by simp [ProcessorRequest.incomplete, hsuper.pending, hc], hid.symm⟩
  · exact ⟨r, hget, hopen, rfl⟩

private theorem queueDepth_inserted (st : LaneStore) (request : ProcessorRequest) :
    ({ st with requests := st.requests.put request } : LaneStore).queueDepth ≤ st.queueDepth + 1 := by
  refine Table.countP_le_succ request.requestId fun r hget hopen hne => ?_
  rw [Table.get?_put_ne hne] at hget
  exact ⟨r, hget, hopen, rfl⟩

private theorem clusterDepth_inserted (st : LaneStore) (request : ProcessorRequest) (c : Option String) :
    ({ st with requests := st.requests.put request } : LaneStore).clusterDepth c ≤
      st.clusterDepth c + if request.clusterId = c then 1 else 0 := by
  by_cases hc : request.clusterId = c
  · rw [if_pos hc]
    refine Table.countP_le_succ request.requestId fun r hget hopen hne => ?_
    rw [Table.get?_put_ne hne] at hget
    exact ⟨r, hget, hopen, rfl⟩
  · rw [if_neg hc]
    refine Table.countP_le_of_subset fun r hget hopen => ?_
    rw [Table.get?_put] at hget
    split at hget
    · cases hget
      simp [hc] at hopen
    · exact ⟨r, hget, hopen, rfl⟩

/-- Samples are only merged into queued rows of their own cluster. -/
def MergesInCluster (s : LaneState) (op : QueueOp) : Prop :=
  ∀ request, op.admits = some request → ∀ item ∈ s.store.requests.rows, Supersedes request item →
    item.clusterId = request.clusterId

/-- The depth of the queue stays in its limit, whatever samples merge. -/
private theorem queueDepth_le_step {limits : AdmissionLimits} {s : LaneState} {op : QueueOp}
    (hop : op.AdmitsUnder limits) (h : s.store.queueDepth ≤ limits.maxDepth) :
    (queueStep s op).store.queueDepth ≤ limits.maxDepth := by
  cases hadmits : op.admits with
  | none => exact le_trans (depths_served hadmits).1 h
  | some request =>
    cases op with
    | cleanupRequests olderThan limit => cases hadmits
    | lane op =>
      cases op with
      | tryEnqueue admitted l =>
        have hl : l = limits := hop
        subst hl
        change (s.store.tryEnqueueProcessorRequest admitted.request l).1.queueDepth ≤ _
        have hstep := tryEnqueue_step s.store admitted.request l
        generalize s.store.tryEnqueueProcessorRequest admitted.request l = result at hstep
        cases hstep with
        | known | refused => exact h
        | merged item hnew hrow hsuper => exact le_trans (queueDepth_merged hrow hsuper) h
        | inserted hnew hroom hcluster => exact le_trans (queueDepth_inserted _ _) hroom.below
      | enqueue admitted => exact absurd hop id
      | claim | renew | release | complete | reclaim | cleanupLanes => cases hadmits

private theorem clusterDepth_le_step {limits : AdmissionLimits} {s : LaneState} {op : QueueOp}
    (hop : op.AdmitsUnder limits) (hmerges : MergesInCluster s op)
    (h : ∀ c, s.store.clusterDepth c ≤ limits.maxClusterDepth) (c : Option String) :
    (queueStep s op).store.clusterDepth c ≤ limits.maxClusterDepth := by
  cases hadmits : op.admits with
  | none => exact le_trans ((depths_served hadmits).2 c) (h c)
  | some request =>
    cases op with
    | cleanupRequests olderThan limit => cases hadmits
    | lane op =>
      cases op with
      | tryEnqueue admitted l =>
        have hl : l = limits := hop
        subst hl
        change (s.store.tryEnqueueProcessorRequest admitted.request l).1.clusterDepth c ≤ _
        have hstep := tryEnqueue_step s.store admitted.request l
        generalize s.store.tryEnqueueProcessorRequest admitted.request l = result at hstep
        cases hstep with
        | known | refused => exact h c
        | merged item hnew hrow hsuper =>
          have hcluster := hmerges admitted.request rfl item (Table.mem_rows.mpr hrow) hsuper
          exact le_trans (clusterDepth_merged hrow hsuper hcluster c) (h c)
        | inserted hnew hroom hcluster =>
          refine le_trans (clusterDepth_inserted _ _ c) ?_
          by_cases hc : admitted.request.clusterId = c
          · rw [if_pos hc, ← hc]
            exact hcluster.below
          · rw [if_neg hc]
            exact h c
      | enqueue admitted => exact absurd hop id
      | claim | renew | release | complete | reclaim | cleanupLanes => cases hadmits

/-! ### Requests that are not latest-wins -/

/-- A request that no sample may supersede keeps its payload through every operation, until it is completed. -/
private theorem payload_step (s : LaneState) (op : QueueOp) {id : String} {r : ProcessorRequest}
    (hget : s.store.requests.get? id = some r) (hfixed : r.coalescable = false) (hopen : r.status ≠ .completed) :
    ∃ r', (queueStep s op).store.requests.get? id = some r' ∧ SamePayload r r' := by
  have hserved : op.admits = none → ∃ r', (queueStep s op).store.requests.get? id = some r' ∧ SamePayload r r' := by
    intro hadmits
    have hstep := rowServed_step s op hadmits id
    rw [hget] at hstep
    generalize (queueStep s op).store.requests.get? id = after at hstep
    cases hstep with
    | same => exact ⟨r, rfl, .refl r⟩
    | moved _ r' hpayload hdone => exact ⟨r', rfl, hpayload⟩
    | retired _ hdone => exact absurd hdone hopen
  -- a new row goes under a new id
  have hput : ∀ request : ProcessorRequest, s.store.requests.get? request.requestId = none →
      (s.store.requests.put request).get? id = some r := by
    intro request hnew
    rw [Table.get?_put_ne, hget]
    rintro rfl
    rw [hnew] at hget
    cases hget
  cases op with
  | cleanupRequests olderThan limit => exact hserved rfl
  | lane op =>
    cases op with
    | enqueue admitted =>
      refine ⟨r, ?_, .refl r⟩
      change (s.store.enqueueProcessorRequest admitted.request).requests.get? id = some r
      unfold enqueueProcessorRequest
      split
      · exact hget
      · exact hput _ ‹_›
    | tryEnqueue admitted l =>
      refine ⟨r, ?_, .refl r⟩
      change (s.store.tryEnqueueProcessorRequest admitted.request l).1.requests.get? id = some r
      have hstep := tryEnqueue_step s.store admitted.request l
      generalize s.store.tryEnqueueProcessorRequest admitted.request l = result at hstep
      cases hstep with
      | known | refused => exact hget
      | merged item hnew hrow hsuper =>
        have hne : id ≠ (coalesceRoutineSample item admitted.request).requestId := by
          rintro rfl
          have hitem : s.store.requests.get? item.requestId = some r := hget
          rw [hrow] at hitem
          cases hitem
          rw [hsuper.itemCoalescable] at hfixed
          cases hfixed
        exact (Table.get?_put_ne hne).trans hget
      | inserted hnew => exact hput _ hnew
    | claim | renew | release | complete | reclaim | cleanupLanes => exact hserved rfl

/-- The request `r` is still queued under its own id with its own payload after `later`, or was completed on the
way. -/
def KeptUntilCompleted (s : LaneState) (r : ProcessorRequest) (later : List QueueOp) : Prop :=
  (∃ r', (Run.exec queueStep s later).store.requests.get? r.requestId = some r' ∧ SamePayload r r') ∨
  ∃ before after r', later = before ++ after ∧
    (Run.exec queueStep s before).store.requests.get? r.requestId = some r' ∧ SamePayload r r' ∧
      r'.status = .completed

private theorem keptUntilCompleted {r : ProcessorRequest} (hfixed : r.coalescable = false) {later : List QueueOp}
    {s : LaneState} (h : ∃ r', s.store.requests.get? r.requestId = some r' ∧ SamePayload r r') :
    KeptUntilCompleted s r later := by
  induction later generalizing s with
  | nil => exact Or.inl h
  | cons op later ih =>
    obtain ⟨r', hget, hpayload⟩ := h
    by_cases hdone : r'.status = .completed
    · exact Or.inr ⟨[], op :: later, r', rfl, hget, hpayload, hdone⟩
    · obtain ⟨r'', hget', hpayload'⟩ := payload_step s op hget (hpayload.coalescable.trans hfixed) hdone
      rcases ih ⟨r'', hget', hpayload.trans hpayload'⟩ with hend | ⟨before, after, r3, hsplit, hrest⟩
      · exact Or.inl hend
      · exact Or.inr ⟨op :: before, after, r3, by rw [hsplit]; rfl, hrest⟩

/-! ### The reserve and the rows of an admission -/

def Inserts (st : LaneStore) (request : ProcessorRequest) (limits : AdmissionLimits) : Prop :=
  st.requests.get? request.requestId = none ∧ (st.tryEnqueueProcessorRequest request limits).2 = .admitted

private theorem inserts_spec {st : LaneStore} {request : ProcessorRequest} {limits : AdmissionLimits}
    (h : Inserts st request limits) :
    (st.tryEnqueueProcessorRequest request limits).1 = { st with requests := st.requests.put request } ∧
      Room request limits.maxDepth limits.reservedFaultDepth st.queueDepth ∧
      Room request limits.maxClusterDepth limits.reservedClusterFaultDepth (st.clusterDepth request.clusterId) := by
  obtain ⟨hnew, hadmitted⟩ := h
  have hstep := tryEnqueue_step st request limits
  generalize st.tryEnqueueProcessorRequest request limits = result at hstep hadmitted
  cases hstep with
  | known r hget => rw [hnew] at hget; cases hget
  | merged => cases hadmitted
  | refused outcome hne => exact absurd hadmitted hne
  | inserted _ hroom hcluster => exact ⟨rfl, hroom, hcluster⟩

private theorem reserve_of_inserts {st : LaneStore} {request : ProcessorRequest} {limits : AdmissionLimits}
    (h : Inserts st request limits) (htier : request.isReservedTier = false) :
    (st.tryEnqueueProcessorRequest request limits).1.queueDepth + limits.reservedFaultDepth ≤ limits.maxDepth ∧
      (st.tryEnqueueProcessorRequest request limits).1.clusterDepth request.clusterId +
        limits.reservedClusterFaultDepth ≤ limits.maxClusterDepth := by
  obtain ⟨hstore, hroom, hcluster⟩ := inserts_spec h
  rw [hstore]
  have hdepth := queueDepth_inserted st request
  have hcdepth := clusterDepth_inserted st request request.clusterId
  rw [if_pos rfl] at hcdepth
  have hfree := hroom.reserve htier
  have hcfree := hcluster.reserve htier
  omega

private theorem queueDepth_of_coalesced {st : LaneStore} {request : ProcessorRequest} {limits : AdmissionLimits}
    (h : (st.tryEnqueueProcessorRequest request limits).2 = .coalesced) :
    (st.tryEnqueueProcessorRequest request limits).1.queueDepth ≤ st.queueDepth := by
  have hstep := tryEnqueue_step st request limits
  generalize st.tryEnqueueProcessorRequest request limits = result at hstep h
  cases hstep with
  | known | inserted => cases h
  | merged item hnew hrow hsuper => exact queueDepth_merged hrow hsuper
  | refused outcome _ hne => exact absurd h hne

/-- An admission touches one row; if that row was there before, it is one the sample supersedes. -/
private theorem admission_one_row (st : LaneStore) (request : ProcessorRequest) (limits : AdmissionLimits) :
    ∃ id, (∀ id', id' ≠ id →
        (st.tryEnqueueProcessorRequest request limits).1.requests.get? id' = st.requests.get? id') ∧
      ∀ r, st.requests.get? id = some r →
        (st.tryEnqueueProcessorRequest request limits).1.requests.get? id ≠ some r → Supersedes request r := by
  have hstep := tryEnqueue_step st request limits
  generalize st.tryEnqueueProcessorRequest request limits = result at hstep
  cases hstep with
  | known | refused => exact ⟨request.requestId, fun _ _ => rfl, fun r hget hchanged => absurd hget hchanged⟩
  | merged item hnew hrow hsuper =>
    refine ⟨item.requestId, fun id' hne => Table.get?_put_ne (a := coalesceRoutineSample item request) hne, ?_⟩
    intro r hget _
    rw [hrow] at hget
    cases hget
    exact hsuper
  | inserted hnew =>
    refine ⟨request.requestId, fun id' hne => Table.get?_put_ne hne, ?_⟩
    intro r hget
    rw [hnew] at hget
    cases hget

/-- Admission to the processor queue in every run with fixed limits. The number of incomplete requests stays within
the limit, and so does the number in each cluster if samples are only merged into rows of their own cluster. A request
outside the reserved tiers that gets a row leaves the reserve free, over the queue and in its cluster; a merged one
adds no row. A request that is not latest-wins keeps its row and its payload until it is completed. An admission
changes at most one row that was there, and that row is a pending sample of the same path and lane. -/
theorem queue_admission_bounded {limits : AdmissionLimits} {clock : Time} {ops : List QueueOp}
    (hops : ∀ op ∈ ops, op.AdmitsUnder limits) :
    let s := Run.exec queueStep (.init clock) ops
    s.store.queueDepth ≤ limits.maxDepth ∧
    (Run.Along queueStep MergesInCluster (.init clock) ops → ∀ c, s.store.clusterDepth c ≤ limits.maxClusterDepth) ∧
    ∀ admitted : AdmittedRequest,
      let request := admitted.request
      let result := s.store.tryEnqueueProcessorRequest request limits
      (Inserts s.store request limits → request.isReservedTier = false →
        result.1.queueDepth + limits.reservedFaultDepth ≤ limits.maxDepth ∧
        result.1.clusterDepth request.clusterId + limits.reservedClusterFaultDepth ≤ limits.maxClusterDepth) ∧
      (result.2 = .coalesced → result.1.queueDepth ≤ s.store.queueDepth) ∧
      (Inserts s.store request limits → request.coalescable = false →
        ∀ later, KeptUntilCompleted (queueStep s (.lane (.tryEnqueue admitted limits))) request later) ∧
      ∃ id, (∀ id', id' ≠ id → result.1.requests.get? id' = s.store.requests.get? id') ∧
        ∀ r, s.store.requests.get? id = some r → result.1.requests.get? id ≠ some r → Supersedes request r := by
  intro s
  have hlimits : Run.Along queueStep (fun _ op => op.AdmitsUnder limits) (.init clock) ops :=
    Run.along_of_forall_mem fun op hop _ => hops op hop
  refine ⟨?_, ?_, ?_⟩
  · exact Run.invariant_exec (I := fun s => s.store.queueDepth ≤ limits.maxDepth)
      (fun _ _ hs hop => queueDepth_le_step hop hs) (Nat.zero_le _) hlimits
  · intro hmerges
    exact Run.invariant_exec (I := fun s => ∀ c, s.store.clusterDepth c ≤ limits.maxClusterDepth)
      (fun _ _ hs hop => clusterDepth_le_step hop.1 hop.2 hs) (fun _ => Nat.zero_le _) (hlimits.and hmerges)
  · intro admitted request result
    refine ⟨reserve_of_inserts, queueDepth_of_coalesced, ?_, admission_one_row s.store request limits⟩
    intro hinserts hfixed later
    refine keptUntilCompleted hfixed ⟨request, ?_, .refl request⟩
    change result.1.requests.get? request.requestId = some request
    rw [(inserts_spec hinserts).1]
    exact Table.get?_put_self _ _

/-- A coverage heartbeat of a watcher that names no attempt; a missing and an empty cluster header share its lane. -/
private def coverageOf (requestId : String) (clusterId : Option String) : AdmittedRequest :=
  ⟨{ requestId := requestId, path := "/v1/attempts/coverage", bodyBase64 := "e30=", clusterId := clusterId,
     orderingKey := "__unscoped__", queuePriority := 100, latestWins := true, lanePolicy := .reorderable }, rfl, rfl⟩

private def deviceEvent : AdmittedRequest :=
  ⟨{ requestId := "event", path := "/v1/gpu-events/xid", bodyBase64 := "e30=", orderingKey := "__unscoped__",
     queuePriority := 10, correlatedPath := true }, rfl, rfl⟩

private def observationOf (clusterId : Option String) : AdmittedRequest :=
  ⟨{ requestId := "observation", path := workloadObservationsPath, bodyBase64 := "e30=", clusterId := clusterId,
     orderingKey := "__unscoped__" }, rfl, rfl⟩

private def admittedUnder (limits : AdmissionLimits) (admitted : List AdmittedRequest) : List QueueOp :=
  admitted.map fun a => .lane (.tryEnqueue a limits)

private theorem admitsUnder_admitted (limits : AdmissionLimits) (admitted : List AdmittedRequest) :
    ∀ op ∈ admittedUnder limits admitted, op.AdmitsUnder limits := by
  intro op hop
  obtain ⟨a, -, rfl⟩ := List.mem_map.mp hop
  rfl

theorem observation_kept_beside_reserve :
    let limits : AdmissionLimits := ⟨4, 4, 1, 1⟩
    let ops := admittedUnder limits [coverageOf "beat" none, deviceEvent]
    let s := Run.exec queueStep (.init 0) ops
    (∀ op ∈ ops, op.AdmitsUnder limits) ∧ Inserts s.store (observationOf none).request limits ∧
    (s.store.tryEnqueueProcessorRequest (observationOf none).request limits).1.queueDepth + 1 ≤ 4 ∧
    ∀ later, KeptUntilCompleted (queueStep s (.lane (.tryEnqueue (observationOf none) limits)))
      (observationOf none).request later := by
  intro limits ops s
  have hops : ∀ op ∈ ops, op.AdmitsUnder limits := admitsUnder_admitted limits _
  have hinserts : Inserts s.store (observationOf none).request limits := ⟨by decide +kernel, by decide +kernel⟩
  obtain ⟨hreserve, -, hkept, -⟩ := (@queue_admission_bounded limits 0 ops hops).2.2 (observationOf none)
  exact ⟨hops, hinserts, (hreserve hinserts (by decide)).1, hkept hinserts (by decide)⟩

/-- A merged sample moves its row to another cluster, past that cluster's limit; and a merged sample is let in while
the reserve is in use. -/
theorem merges_bypass_limits :
    ¬ (∀ (limits : AdmissionLimits) (clock : Time) (ops : List QueueOp), (∀ op ∈ ops, op.AdmitsUnder limits) →
      ∀ c, (Run.exec queueStep (.init clock) ops).store.clusterDepth c ≤ limits.maxClusterDepth) ∧
    ¬ (∀ (limits : AdmissionLimits) (clock : Time) (ops : List QueueOp) (admitted : AdmittedRequest),
      (∀ op ∈ ops, op.AdmitsUnder limits) → admitted.request.isReservedTier = false →
      let result := (Run.exec queueStep (.init clock) ops).store.tryEnqueueProcessorRequest admitted.request limits
      (result.2 = .admitted ∨ result.2 = .coalesced) →
      result.1.queueDepth + limits.reservedFaultDepth ≤ limits.maxDepth) := by
  constructor
  · intro h
    have hdepth := h ⟨10, 1, 0, 0⟩ 0
      (admittedUnder _ [coverageOf "first" none, observationOf (some ""), coverageOf "second" (some "")])
      (admitsUnder_admitted _ _) (some "")
    revert hdepth
    decide +kernel
  · intro h
    have hfree := h ⟨2, 2, 1, 0⟩ 0 (admittedUnder _ [coverageOf "first" none, deviceEvent]) (coverageOf "second" none)
      (admitsUnder_admitted _ _) (by decide) (by decide +kernel)
    revert hfree
    decide +kernel

end GpuFaultRecovery
