import Mathlib.Data.Finset.Card
import GpuFaultRecovery.Run
import GpuFaultRecovery.Models

/-!
# The remediation storm breaker

A cluster's breaker watches the nodes that enter destructive remediation over a sliding window and trips when they are
many and belong to more than one workload domain. Its record keeps one entry for each node, stamped anew by every
admission that names the node; the log of a run keeps every admission. The window is an abstraction of the log, and
the main result compares the two.
-/

namespace GpuFaultRecovery

/-- `STORM_WINDOW_SECONDS`, in microseconds. -/
def stormWindow : Time := 600 * 1000000

/-- `STORM_MIN_NODES`. -/
def stormMinNodes : Nat := 3

/-- `STORM_MIN_DOMAINS`. -/
def stormMinDomains : Nat := 2

inductive StormBreakerState where
  | closed
  | tripped
  | aborted
deriving Repr, DecidableEq

/-- One node that entered destructive remediation inside the window. -/
structure StormEntry where
  nodeId : String
  domain : String
  workflowId : String
  admittedAt : Time
deriving Repr, DecidableEq

structure RemediationStormBreaker where
  clusterId : String
  state : StormBreakerState := .closed
  window : List StormEntry := []
  threshold : Nat := 0
  tripId : Option String := none
  trippedAt : Option Time := none
  tripNodeIds : List String := []
  tripDomains : Nat := 0
  tripThreshold : Nat := 0
  tripClusterNodes : Option Nat := none
  tripWorkflowId : Option String := none
  releasedAt : Option Time := none
  updatedAt : Time
deriving Repr, DecidableEq

/-- A first admission of budgeted work, as the breaker judges it. -/
structure StormCandidate where
  clusterId : String
  workflowId : String
  nodeIds : List String
  domain : String
  heldSince : Option Time := none
  clusterNodes : Option Nat := none
deriving Repr, DecidableEq

/-- Whether new destructive work in the cluster is held. -/
def RemediationStormBreaker.isOpen (record : RemediationStormBreaker) : Bool := record.state != .closed

def stormScope (clusterId : String) : String := "storm:" ++ clusterId

/-- `max(3, ceil(20% of the cluster's GPU nodes))`; the floor where the count is unknown. -/
def stormThreshold (clusterNodes : Option Nat) : Nat :=
  match clusterNodes with
  | none => stormMinNodes
  | some nodes => max stormMinNodes ((nodes + 4) / 5)

def closedBreaker (clusterId : String) (now : Time) : RemediationStormBreaker := { clusterId, updatedAt := now }

def currentEntries (window : List StormEntry) (now : Time) : List StormEntry :=
  window.filter fun entry => decide (now - stormWindow < entry.admittedAt)

section Breaker

variable (isoformat : Time → String)

def heldReason (record : RemediationStormBreaker) : String :=
  let since := (record.trippedAt.map isoformat).getD "unknown"
  let verdict := if record.state = .aborted then "aborted by an operator" else "tripped"
  s!"remediation storm breaker of cluster {record.clusterId} is {verdict} (since {since}: " ++
    s!"{record.tripNodeIds.length} nodes entered destructive remediation within 600s across {record.tripDomains} " ++
    s!"workload domains, threshold {record.tripThreshold}): new destructive work is held; " ++
    s!"scope={stormScope record.clusterId}; resume with gpu-fault-admin remediation-storm release"

/-- Whether a row was held through a trip that the operator then released. -/
def heldThroughRelease (record : RemediationStormBreaker) (candidate : StormCandidate) : Bool :=
  candidate.heldSince.any fun held => record.releasedAt.any fun released => decide (held < released)

def stormNodes (window : List StormEntry) (candidate : StormCandidate) : List String :=
  (window.map StormEntry.nodeId ++ candidate.nodeIds).dedup

def stormDomains (window : List StormEntry) (candidate : StormCandidate) : List String :=
  (window.map StormEntry.domain ++ [candidate.domain]).dedup

def tripsBreaker (window : List StormEntry) (candidate : StormCandidate) (clusterNodes : Option Nat) : Bool :=
  candidate.nodeIds.any (fun node => !(window.map StormEntry.nodeId).contains node) &&
    decide (stormThreshold clusterNodes ≤ (stormNodes window candidate).length) &&
    decide (stormMinDomains ≤ (stormDomains window candidate).length)

/-- The window after an admission: the candidate's nodes are stamped anew. -/
def stampedWindow (window : List StormEntry) (candidate : StormCandidate) (now : Time) : List StormEntry :=
  (window.filter fun entry => !candidate.nodeIds.contains entry.nodeId) ++
    (sortedSet candidate.nodeIds).map fun nodeId =>
      { nodeId, domain := candidate.domain, workflowId := candidate.workflowId, admittedAt := now }

/-- The record after judging a candidate, and the refusal; without one the candidate is admitted. -/
def stormAdmission (record : Option RemediationStormBreaker) (candidate : StormCandidate) (now : Time)
    (clusterNodes : Option Nat) : RemediationStormBreaker × Option String :=
  let current := record.getD (closedBreaker candidate.clusterId now)
  if current.isOpen then (current, some (heldReason isoformat current))
  else
    let window := currentEntries current.window now
    if heldThroughRelease current candidate then ({ current with window, updatedAt := now }, none)
    else
      let current := { current with threshold := stormThreshold clusterNodes }
      if tripsBreaker window candidate clusterNodes then
        let tripped := { current with
          state := .tripped
          window
          tripId := some (candidate.clusterId ++ "@" ++ isoformat now)
          trippedAt := some now
          tripNodeIds := sortedSet (stormNodes window candidate)
          tripDomains := (stormDomains window candidate).length
          tripThreshold := stormThreshold clusterNodes
          tripClusterNodes := clusterNodes
          tripWorkflowId := some candidate.workflowId
          updatedAt := now }
        (tripped, some (heldReason isoformat tripped))
      else ({ current with window := stampedWindow window candidate now, updatedAt := now }, none)

/-! ### Runs -/

/-- The breaker of one cluster and every admission so far, the newest first. -/
structure StormLog where
  record : Option RemediationStormBreaker := none
  admissions : List (StormCandidate × Time) := []
  clock : Option Time := none

def StormLog.admits (log : StormLog) (candidate : StormCandidate) (now : Time) : Bool :=
  (stormAdmission isoformat log.record candidate now candidate.clusterNodes).2.isNone

/-- `admit_storm_in`: the record is written, admitted or not. -/
def StormLog.judge (log : StormLog) (judgement : StormCandidate × Time) : StormLog :=
  { record := some (stormAdmission isoformat log.record judgement.1 judgement.2 judgement.1.clusterNodes).1
    admissions := if log.admits isoformat judgement.1 judgement.2 then judgement :: log.admissions else log.admissions
    clock := some judgement.2 }

def StormLog.onTime (log : StormLog) (judgement : StormCandidate × Time) : Prop :=
  ∀ t, log.clock = some t → t ≤ judgement.2

instance StormLog.onTimeDecidable (log : StormLog) (judgement : StormCandidate × Time) :
    Decidable (log.onTime judgement) :=
  decidable_of_iff (log.clock.all fun t => decide (t ≤ judgement.2)) (by simp [StormLog.onTime, Option.all_eq_true])

end Breaker

/-- The admissions of the window that ends at `now`. -/
def recentAdmissions (admissions : List (StormCandidate × Time)) (now : Time) : List (StormCandidate × Time) :=
  admissions.filter fun admission => decide (now - stormWindow < admission.2)

def lastAdmission (admissions : List (StormCandidate × Time)) (nodeId : String) : Option (StormCandidate × Time) :=
  admissions.find? fun admission => admission.1.nodeIds.contains nodeId

def admittedNodes (admissions : List (StormCandidate × Time)) : List String :=
  admissions.flatMap fun admission => admission.1.nodeIds

/-! ### What one judgement does -/

section Judgement

variable {isoformat : Time → String} {record : Option RemediationStormBreaker} {candidate : StormCandidate}
  {now : Time}
  {clusterNodes : Option Nat} {log : StormLog} {judgement : StormCandidate × Time}

/-- A judgement by a breaker no operator released: held, tripped, or admitted and stamped. -/
private theorem stormAdmission_cases (hreleased : ∀ current, record = some current → current.releasedAt = none) :
    (∃ current, record = some current ∧ current.isOpen = true ∧
      (stormAdmission isoformat record candidate now clusterNodes).1 = current ∧
      (stormAdmission isoformat record candidate now clusterNodes).2.isNone = false) ∨
    ((record.getD (closedBreaker candidate.clusterId now)).isOpen = false ∧
      (stormAdmission isoformat record candidate now clusterNodes).1.isOpen = true ∧
      (stormAdmission isoformat record candidate now clusterNodes).1.releasedAt = none ∧
      (stormAdmission isoformat record candidate now clusterNodes).2.isNone = false) ∨
    (let window := currentEntries (record.getD (closedBreaker candidate.clusterId now)).window now;
      (record.getD (closedBreaker candidate.clusterId now)).isOpen = false ∧
      tripsBreaker window candidate clusterNodes = false ∧
      (stormAdmission isoformat record candidate now clusterNodes).1.window = stampedWindow window candidate now ∧
      (stormAdmission isoformat record candidate now clusterNodes).1.isOpen = false ∧
      (stormAdmission isoformat record candidate now clusterNodes).1.releasedAt = none ∧
      (stormAdmission isoformat record candidate now clusterNodes).2.isNone = true) := by
  have hnone : (record.getD (closedBreaker candidate.clusterId now)).releasedAt = none := by
    cases record with
    | none => rfl
    | some current => exact hreleased current rfl
  have hheld : heldThroughRelease (record.getD (closedBreaker candidate.clusterId now)) candidate = false := by
    simp [heldThroughRelease, hnone]
  unfold stormAdmission
  dsimp only
  by_cases hopen : (record.getD (closedBreaker candidate.clusterId now)).isOpen = true
  · rw [if_pos hopen]
    cases record with
    | none => simp [closedBreaker, RemediationStormBreaker.isOpen] at hopen
    | some current => exact .inl ⟨current, rfl, hopen, rfl, rfl⟩
  · have hclosed : (record.getD (closedBreaker candidate.clusterId now)).isOpen = false := by simpa using hopen
    rw [if_neg hopen, hheld, if_neg Bool.false_ne_true]
    by_cases htrips : tripsBreaker (currentEntries (record.getD (closedBreaker candidate.clusterId now)).window now)
        candidate clusterNodes = true
    · rw [if_pos htrips]
      exact .inr (.inl ⟨hclosed, rfl, hnone, rfl⟩)
    · rw [if_neg htrips]
      exact .inr (.inr ⟨hclosed, by simpa using htrips, rfl, hclosed, hnone, rfl⟩)

private theorem mem_stampedWindow {window : List StormEntry} {entry : StormEntry} :
    entry ∈ stampedWindow window candidate now ↔
      (entry ∈ window ∧ entry.nodeId ∉ candidate.nodeIds) ∨
        (entry.nodeId ∈ candidate.nodeIds ∧ entry.domain = candidate.domain ∧
          entry.workflowId = candidate.workflowId ∧
          entry.admittedAt = now) := by
  simp only [stampedWindow, List.mem_append, List.mem_filter, Bool.not_eq_true', ← Bool.not_eq_true,
    List.contains_iff_mem, List.mem_map, mem_sortedSet]
  constructor
  · rintro (hold | ⟨node, hnode, rfl⟩)
    · exact .inl hold
    · exact .inr ⟨hnode, rfl, rfl, rfl⟩
  · rintro (hold | ⟨hnode, hdomain, hworkflow, hadmitted⟩)
    · exact .inl hold
    · refine .inr ⟨entry.nodeId, hnode, ?_⟩
      rw [← hdomain, ← hworkflow, ← hadmitted]

private theorem mem_currentEntries {window : List StormEntry} {entry : StormEntry} :
    entry ∈ currentEntries window now ↔ entry ∈ window ∧ now - stormWindow < entry.admittedAt := by
  simp [currentEntries]

end Judgement

/-! ### The window and the log -/

section Log

variable {isoformat : Time → String} {candidate : StormCandidate} {now : Time} {log : StormLog}
  {judgement : StormCandidate × Time} {admissions : List (StormCandidate × Time)} {node : String}

/-- The window of a closed breaker is the last admission of each node; older entries do not matter any more. -/
structure StormLog.Tracks (log : StormLog) : Prop where
  released : ∀ record, log.record = some record → record.releasedAt = none
  ordered : log.admissions.Pairwise fun later earlier => earlier.2 ≤ later.2
  past : ∀ admission ∈ log.admissions, ∃ t, log.clock = some t ∧ admission.2 ≤ t
  fresh : log.record = none → log.admissions = []
  clocked : ∀ record, log.record = some record → ∃ t, log.clock = some t
  window : ∀ record t, log.record = some record → record.isOpen = false → log.clock = some t →
    ∀ node domain at', t - stormWindow < at' →
      ((∃ entry ∈ record.window, entry.nodeId = node ∧ entry.domain = domain ∧ entry.admittedAt = at') ↔
        ∃ candidate, lastAdmission log.admissions node = some (candidate, at') ∧ candidate.domain = domain)

/-- The last admission of a node is at least as late as any other that names it. -/
private theorem exists_lastAdmission (h : admissions.Pairwise fun later earlier => earlier.2 ≤ later.2)
    {admission : StormCandidate × Time} (hmem : admission ∈ admissions) (hnode : node ∈ admission.1.nodeIds) :
    ∃ last, lastAdmission admissions node = some last ∧ admission.2 ≤ last.2 := by
  induction admissions with
  | nil => cases hmem
  | cons first rest ih =>
    obtain ⟨hfirst, hrest⟩ := List.pairwise_cons.mp h
    by_cases hnamed : node ∈ first.1.nodeIds
    · refine ⟨first, by simp [lastAdmission, hnamed], ?_⟩
      rcases List.mem_cons.mp hmem with rfl | hmem
      · exact le_refl _
      · exact hfirst admission hmem
    · rcases List.mem_cons.mp hmem with rfl | hmem
      · exact absurd hnode hnamed
      · obtain ⟨last, hlast, hle⟩ := ih hrest hmem
        refine ⟨last, ?_, hle⟩
        rw [lastAdmission, List.find?_cons_of_neg (by simpa using hnamed)]
        exact hlast

private theorem mem_of_lastAdmission {last : StormCandidate × Time} (h : lastAdmission admissions node = some last) :
    last ∈ admissions ∧ node ∈ last.1.nodeIds := by
  have hnamed := List.find?_some h
  exact ⟨List.mem_of_find?_eq_some h, by simpa using hnamed⟩

private theorem lastAdmission_cons (admission : StormCandidate × Time) :
    lastAdmission (admission :: admissions) node =
      if node ∈ admission.1.nodeIds then some admission else lastAdmission admissions node := by
  unfold lastAdmission
  rw [List.find?_cons]
  by_cases hnode : node ∈ admission.1.nodeIds
  · simp [hnode]
  · simp [hnode]

/-- What the breaker knows of the admissions when a candidate is judged. -/
private theorem StormLog.Tracks.entry (h : log.Tracks) (hclock : log.onTime (candidate, now))
    (hclosed : (log.record.getD (closedBreaker candidate.clusterId now)).isOpen = false) (domain : String)
    {at' : Time} (hrecent : now - stormWindow < at') :
    (∃ entry ∈ (log.record.getD (closedBreaker candidate.clusterId now)).window,
      entry.nodeId = node ∧ entry.domain = domain ∧ entry.admittedAt = at') ↔
      ∃ other, lastAdmission log.admissions node = some (other, at') ∧ other.domain = domain := by
  cases hrecord : log.record with
  | none =>
    rw [h.fresh hrecord]
    simp [closedBreaker, lastAdmission]
  | some record =>
    rw [hrecord] at hclosed
    obtain ⟨t, ht⟩ := h.clocked record hrecord
    have hle : t ≤ now := hclock t ht
    have hwindow : t - stormWindow < at' := by
      unfold Time at *
      omega
    exact h.window record t hrecord hclosed ht node domain at' hwindow

private theorem StormLog.judge_admitted (h : log.admits isoformat candidate now = true) :
    (log.judge isoformat (candidate, now)).admissions = (candidate, now) :: log.admissions := if_pos h

private theorem StormLog.judge_held (h : log.admits isoformat candidate now = false) :
    (log.judge isoformat (candidate, now)).admissions = log.admissions := if_neg (by simp [h])

private theorem StormLog.Tracks.past_le (h : log.Tracks) (hclock : log.onTime (candidate, now))
    {admission : StormCandidate × Time} (hmem : admission ∈ log.admissions) : admission.2 ≤ now := by
  obtain ⟨t, ht, hle⟩ := h.past admission hmem
  exact le_trans hle (hclock t ht)

/-- A candidate that is held leaves the log and an open breaker. -/
private theorem StormLog.Tracks.judge_of_open (h : log.Tracks) (hclock : log.onTime (candidate, now))
    (hheld : log.admits isoformat candidate now = false)
    (hopen : (stormAdmission isoformat log.record candidate now candidate.clusterNodes).1.isOpen = true)
    (hreleased : (stormAdmission isoformat log.record candidate now candidate.clusterNodes).1.releasedAt = none) :
    (log.judge isoformat (candidate, now)).Tracks where
  released record hrecord := Option.some.inj hrecord ▸ hreleased
  ordered := by
    rw [StormLog.judge_held hheld]
    exact h.ordered
  past admission hmem := by
    rw [StormLog.judge_held hheld] at hmem
    exact ⟨now, rfl, h.past_le hclock hmem⟩
  fresh hrecord := by cases hrecord
  clocked _ _ := ⟨now, rfl⟩
  window record t hrecord hclosed := by
    have : record.isOpen = true := Option.some.inj hrecord ▸ hopen
    rw [this] at hclosed
    cases hclosed

/-- A candidate that is admitted is the last admission of each of its nodes, in the log as in the window. -/
private theorem StormLog.Tracks.judge_of_closed (h : log.Tracks) (hclock : log.onTime (candidate, now))
    (hadmitted : log.admits isoformat candidate now = true)
    (hclosed : (log.record.getD (closedBreaker candidate.clusterId now)).isOpen = false)
    (hwindow : (stormAdmission isoformat log.record candidate now candidate.clusterNodes).1.window =
      stampedWindow (currentEntries (log.record.getD (closedBreaker candidate.clusterId now)).window now)
        candidate now)
    (hreleased : (stormAdmission isoformat log.record candidate now candidate.clusterNodes).1.releasedAt = none) :
    (log.judge isoformat (candidate, now)).Tracks where
  released record hrecord := Option.some.inj hrecord ▸ hreleased
  ordered := by
    rw [StormLog.judge_admitted hadmitted]
    exact List.pairwise_cons.mpr ⟨fun earlier hmem => h.past_le hclock hmem, h.ordered⟩
  past admission hmem := by
    rw [StormLog.judge_admitted hadmitted] at hmem
    refine ⟨now, rfl, ?_⟩
    rcases List.mem_cons.mp hmem with rfl | hmem
    · exact le_refl _
    · exact h.past_le hclock hmem
  fresh hrecord := by cases hrecord
  clocked _ _ := ⟨now, rfl⟩
  window record t hrecord _ ht node domain at' hrecent := by
    obtain rfl : now = t := Option.some.inj ht
    have hstamped : record.window = stampedWindow
        (currentEntries (log.record.getD (closedBreaker candidate.clusterId now)).window now) candidate now :=
      Option.some.inj hrecord ▸ hwindow
    rw [hstamped, StormLog.judge_admitted hadmitted, lastAdmission_cons]
    by_cases hnode : node ∈ candidate.nodeIds
    · rw [if_pos hnode]
      constructor
      · rintro ⟨entry, hentry, rfl, rfl, rfl⟩
        rcases mem_stampedWindow.mp hentry with ⟨_, hother⟩ | ⟨_, hdomain, _, hnow⟩
        · exact absurd hnode hother
        · exact ⟨candidate, by rw [hnow], hdomain.symm⟩
      · rintro ⟨other, hother, rfl⟩
        obtain ⟨rfl, rfl⟩ := Prod.mk.inj (Option.some.inj hother)
        exact ⟨⟨node, candidate.domain, candidate.workflowId, now⟩,
          mem_stampedWindow.mpr (.inr ⟨hnode, rfl, rfl, rfl⟩), rfl, rfl, rfl⟩
    · rw [if_neg hnode, ← h.entry hclock hclosed domain hrecent]
      constructor
      · rintro ⟨entry, hentry, rfl, rfl, rfl⟩
        rcases mem_stampedWindow.mp hentry with ⟨hcurrent, _⟩ | ⟨hnamed, _⟩
        · exact ⟨entry, (mem_currentEntries.mp hcurrent).1, rfl, rfl, rfl⟩
        · exact absurd hnamed hnode
      · rintro ⟨entry, hentry, rfl, rfl, rfl⟩
        exact ⟨entry, mem_stampedWindow.mpr (.inl ⟨mem_currentEntries.mpr ⟨hentry, hrecent⟩, hnode⟩), rfl, rfl, rfl⟩

private theorem StormLog.Tracks.judge (h : log.Tracks) (hclock : log.onTime (candidate, now)) :
    (log.judge isoformat (candidate, now)).Tracks := by
  rcases @stormAdmission_cases isoformat _ candidate now candidate.clusterNodes h.released with
    ⟨current, hrecord, hopen, hkept, hheld⟩ | ⟨_, hopen, hreleased, hheld⟩ |
      ⟨hclosed, _, hwindow, _, hreleased, hadmitted⟩
  · exact h.judge_of_open hclock hheld (hkept ▸ hopen) (hkept ▸ h.released current hrecord)
  · exact h.judge_of_open hclock hheld hopen hreleased
  · exact h.judge_of_closed hclock hadmitted hclosed hwindow hreleased

private theorem StormLog.tracks_empty : ({} : StormLog).Tracks where
  released _ hrecord := by cases hrecord
  ordered := List.Pairwise.nil
  past _ hmem := by cases hmem
  fresh _ := rfl
  clocked _ hrecord := by cases hrecord
  window _ _ hrecord := by cases hrecord

private theorem StormLog.tracks_exec {judgements : List (StormCandidate × Time)}
    (h : Run.Along (StormLog.judge isoformat) StormLog.onTime {} judgements) :
    (Run.exec (StormLog.judge isoformat) {} judgements).Tracks :=
  Run.invariant_exec (fun _ _ htracks hclock => htracks.judge hclock) StormLog.tracks_empty h

private theorem StormLog.Tracks.mem_nodes (h : log.Tracks) (hclock : log.onTime (candidate, now))
    (hclosed : (log.record.getD (closedBreaker candidate.clusterId now)).isOpen = false) :
    node ∈ (currentEntries (log.record.getD (closedBreaker candidate.clusterId now)).window now).map
      StormEntry.nodeId ↔
      node ∈ admittedNodes (recentAdmissions log.admissions now) := by
  simp only [List.mem_map, admittedNodes, List.mem_flatMap, recentAdmissions, List.mem_filter, decide_eq_true_eq]
  constructor
  · rintro ⟨entry, hentry, rfl⟩
    obtain ⟨hmem, hrecent⟩ := mem_currentEntries.mp hentry
    obtain ⟨other, hlast, _⟩ := (h.entry hclock hclosed entry.domain hrecent).mp ⟨entry, hmem, rfl, rfl, rfl⟩
    obtain ⟨hadmission, hnamed⟩ := mem_of_lastAdmission hlast
    exact ⟨_, ⟨hadmission, hrecent⟩, hnamed⟩
  · rintro ⟨admission, ⟨hmem, hrecent⟩, hnamed⟩
    obtain ⟨last, hlast, hle⟩ := exists_lastAdmission h.ordered hmem hnamed
    have hlater : now - stormWindow < last.2 := lt_of_lt_of_le hrecent hle
    obtain ⟨entry, hentry, hnode, _, hadmitted⟩ :=
      (h.entry hclock hclosed last.1.domain hlater).mpr ⟨last.1, hlast, rfl⟩
    exact ⟨entry, mem_currentEntries.mpr ⟨hentry, hadmitted ▸ hlater⟩, hnode⟩

private theorem StormLog.Tracks.domain_mem (h : log.Tracks) (hclock : log.onTime (candidate, now))
    (hclosed : (log.record.getD (closedBreaker candidate.clusterId now)).isOpen = false)
    (hnode : node ∈ admittedNodes (recentAdmissions log.admissions now)) :
    ∃ last, lastAdmission log.admissions node = some last ∧ last.1.domain ∈
      (currentEntries (log.record.getD (closedBreaker candidate.clusterId now)).window now).map
        StormEntry.domain := by
  obtain ⟨entry, hentry, rfl⟩ := List.mem_map.mp ((h.mem_nodes hclock hclosed).mpr hnode)
  obtain ⟨hmem, hrecent⟩ := mem_currentEntries.mp hentry
  obtain ⟨other, hlast, hdomain⟩ := (h.entry hclock hclosed entry.domain hrecent).mp ⟨entry, hmem, rfl, rfl, rfl⟩
  exact ⟨_, hlast, hdomain ▸ List.mem_map_of_mem hentry⟩

private theorem eq_of_length_stormDomains {window : List StormEntry} {domain : String}
    (h : (stormDomains window candidate).length < stormMinDomains) (hdomain : domain ∈ window.map StormEntry.domain) :
    domain = candidate.domain := by
  have hcard : (stormDomains window candidate).toFinset.card ≤ 1 :=
    le_trans (List.toFinset_card_le _) (Nat.le_of_lt_succ h)
  have hmem : ∀ {d}, d ∈ window.map StormEntry.domain ++ [candidate.domain] →
      d ∈ (stormDomains window candidate).toFinset := by
    intro d hd
    rw [List.mem_toFinset, stormDomains, List.mem_dedup]
    exact hd
  exact Finset.card_le_one.mp hcard _ (hmem (List.mem_append_left _ hdomain)) _
    (hmem (List.mem_append_right _ (by simp)))

private theorem StormLog.Tracks.length_stormNodes (h : log.Tracks) (hclock : log.onTime (candidate, now))
    (hclosed : (log.record.getD (closedBreaker candidate.clusterId now)).isOpen = false) :
    (stormNodes (currentEntries (log.record.getD (closedBreaker candidate.clusterId now)).window now)
      candidate).length =
      (admittedNodes (recentAdmissions log.admissions now) ++ candidate.nodeIds).dedup.length := by
  rw [stormNodes, ← List.card_toFinset, ← List.card_toFinset]
  congr 1
  ext node
  rw [List.mem_toFinset, List.mem_toFinset, List.mem_append, List.mem_append, h.mem_nodes hclock hclosed]

/-- Whatever the run before it, an admission that brings a new node stays below the threshold, or every recently
admitted node was last admitted for the candidate's own domain. -/
theorem StormLog.admitted_below_threshold {judgements : List (StormCandidate × Time)}
    (hrun : Run.Along (StormLog.judge isoformat) StormLog.onTime {} judgements)
    (hclock : (Run.exec (StormLog.judge isoformat) {} judgements).onTime (candidate, now))
    (hadmitted : (Run.exec (StormLog.judge isoformat) {} judgements).admits isoformat candidate now = true)
    (hnew : ∃ node ∈ candidate.nodeIds,
      node ∉ admittedNodes (recentAdmissions (Run.exec (StormLog.judge isoformat) {} judgements).admissions now)) :
    (admittedNodes (recentAdmissions (Run.exec (StormLog.judge isoformat) {} judgements).admissions now) ++
        candidate.nodeIds).dedup.length < stormThreshold candidate.clusterNodes ∨
      ∀ node ∈ admittedNodes (recentAdmissions (Run.exec (StormLog.judge isoformat) {} judgements).admissions now),
        ∃ last, lastAdmission (Run.exec (StormLog.judge isoformat) {} judgements).admissions node = some last ∧
          last.1.domain = candidate.domain := by
  have htracks := StormLog.tracks_exec hrun
  generalize Run.exec (StormLog.judge isoformat) {} judgements = log at *
  rcases @stormAdmission_cases isoformat _ candidate now candidate.clusterNodes htracks.released with
    ⟨_, _, _, _, hheld⟩ | ⟨_, _, _, hheld⟩ | ⟨hclosed, htrips, _⟩
  · exact absurd hadmitted (by simp [StormLog.admits, hheld])
  · exact absurd hadmitted (by simp [StormLog.admits, hheld])
  · rw [← htracks.length_stormNodes hclock hclosed]
    -- the candidate brings a node the window lacks, so one of the other two tests failed
    obtain ⟨node, hnode, hfresh⟩ := hnew
    have hany : candidate.nodeIds.any (fun node => !((currentEntries
        (log.record.getD (closedBreaker candidate.clusterId now)).window now).map StormEntry.nodeId).contains node) =
          true := by
      refine List.any_eq_true.mpr ⟨node, hnode, ?_⟩
      rw [← htracks.mem_nodes hclock hclosed] at hfresh
      simpa using hfresh
    rw [tripsBreaker, hany, Bool.true_and, Bool.and_eq_false_iff, decide_eq_false_iff_not, decide_eq_false_iff_not]
      at htrips
    rcases htrips with hnodes | hdomains
    · exact .inl (Nat.lt_of_not_le hnodes)
    · refine .inr fun other hother => ?_
      obtain ⟨last, hlast, hdomain⟩ := htracks.domain_mem hclock hclosed hother
      exact ⟨last, hlast, eq_of_length_stormDomains (Nat.lt_of_not_le hdomains) hdomain⟩

end Log

/-! ### A node that changes hands -/

/-- One node admitted for a first job, admitted again for a second one, which then brings two more. -/
def handedOverRun : List (StormCandidate × Time) :=
  [({ clusterId := "c", workflowId := "w1", nodeIds := ["a"], domain := "job:1", clusterNodes := some 8 }, 0),
    ({ clusterId := "c", workflowId := "w2", nodeIds := ["a"], domain := "job:2", clusterNodes := some 8 }, 1)]

def handedOverCandidate : StormCandidate :=
  { clusterId := "c", workflowId := "w3", nodeIds := ["b", "c"], domain := "job:2", clusterNodes := some 8 }

/-- The log after the second admission of the node. -/
def handedOverLog : StormLog := Run.exec (StormLog.judge fun _ => "") {} handedOverRun

/-- The nodes reach the threshold and the recent admissions belong to two domains, and the candidate is admitted: the
window has forgotten the first job. -/
theorem StormLog.admitted_across_domains :
    Run.Along (StormLog.judge fun _ => "") StormLog.onTime {} handedOverRun ∧
    handedOverLog.onTime (handedOverCandidate, 2) ∧
    (∀ judgement ∈ handedOverRun, judgement.1.clusterNodes = handedOverCandidate.clusterNodes) ∧
    handedOverLog.admits (fun _ => "") handedOverCandidate 2 = true ∧
    "b" ∈ handedOverCandidate.nodeIds ∧ "b" ∉ admittedNodes (recentAdmissions handedOverLog.admissions 2) ∧
    ¬ (admittedNodes (recentAdmissions handedOverLog.admissions 2) ++ handedOverCandidate.nodeIds).dedup.length <
      stormThreshold handedOverCandidate.clusterNodes ∧
    ¬ ∃ domain, handedOverCandidate.domain = domain ∧
      ∀ admission ∈ recentAdmissions handedOverLog.admissions 2, admission.1.domain = domain := by
  refine ⟨by decide +kernel, by decide +kernel, by decide +kernel, by decide +kernel,
    by decide +kernel, by decide +kernel, by decide +kernel, ?_⟩
  rintro ⟨domain, rfl, hall⟩
  revert hall
  decide +kernel

theorem StormLog.admitted_below_threshold_handedOver :
    (admittedNodes (recentAdmissions handedOverLog.admissions 2) ++ handedOverCandidate.nodeIds).dedup.length <
        stormThreshold handedOverCandidate.clusterNodes ∨
      ∀ node ∈ admittedNodes (recentAdmissions handedOverLog.admissions 2),
        ∃ last, lastAdmission handedOverLog.admissions node = some last ∧
          last.1.domain = handedOverCandidate.domain :=
  StormLog.admitted_below_threshold (by decide +kernel) (by decide +kernel) (by decide +kernel)
    ⟨"b", by decide +kernel, by decide +kernel⟩

end GpuFaultRecovery
