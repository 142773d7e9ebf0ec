import GpuFaultRecovery.XidIngest

/-!
# One reset for XID 48 and XID 64

Both XIDs reset their GPU, so the one that is processed second should join the incident of the first. XID 48 looks for
any XID 64 in its window; XID 64 looks for an XID 48 that was observed before it.
-/

namespace GpuFaultRecovery

namespace Policy

/-! ### The store after two events -/

section Ingest

variable {coordinator : XidCoordinator} {store : XidStore} {a b : XidEvent}

/-- A store without events of a node, and without the two events. -/
structure FreshFor (store : XidStore) (a b : XidEvent) : Prop where
  node : ∀ item ∈ store.events, ¬ (item.clusterId = a.clusterId ∧ item.nodeId = a.nodeId)
  first : ∀ item ∈ store.events, item.eventId ≠ a.eventId
  second : ∀ item ∈ store.events, item.eventId ≠ b.eventId
  undecided : store.decision a.eventId = none
  pending : store.decision b.eventId = none

/-- An event is stored when its id is new, and nothing is dropped when the stored events of its node are recent. -/
private theorem saveEvent_of_new {event : XidEvent} {retainFrom : Time}
    (hnew : ∀ item ∈ store.events, item.eventId ≠ event.eventId)
    (hrecent : ∀ item ∈ store.events ++ [event], item.clusterId = event.clusterId → item.nodeId = event.nodeId →
      retainFrom ≤ item.observedAt) :
    store.saveEvent event retainFrom = ({ store with events := store.events ++ [event] }, true) := by
  unfold XidStore.saveEvent
  have habsent : (store.events.any fun item => item.eventId == event.eventId) = false := by
    simpa using hnew
  have hkeep : ((store.events ++ [event]).filter fun item =>
      !(item.clusterId == event.clusterId && item.nodeId == event.nodeId && decide (item.observedAt < retainFrom))) =
      store.events ++ [event] := by
    rw [List.filter_eq_self]
    intro item hitem
    have hold := hrecent item hitem
    simp only [Bool.not_eq_true', Bool.and_eq_false_iff, beq_eq_false_iff_ne, decide_eq_false_iff_not, ne_eq]
    by_cases hcluster : item.clusterId = event.clusterId
    · by_cases hnode : item.nodeId = event.nodeId
      · exact .inr (Int.not_lt.2 (hold hcluster hnode))
      · exact .inl (.inr hnode)
    · exact .inl (.inl hcluster)
  rw [habsent]
  simp only [Bool.false_eq_true, if_false, hkeep]

private theorem ingest_of_new {event : XidEvent} {saved : XidStore} (hprepared : prepareXid154 event = event)
    (hsaved : store.saveEvent event
      (event.observedAt - coordinator.retainedWindows * coordinator.policy.companionWindow) =
      (saved, true))
    (hnone : saved.decision event.eventId = none) :
    coordinator.ingest store event = (coordinator.evaluate saved event false,
      saved.saveDecision (coordinator.evaluate saved event false) fun h => by cases h) := by
  unfold XidCoordinator.ingest
  simp only [hprepared, hsaved, hnone]

private theorem candidates_append (store : XidStore) (events : List XidEvent) (event : XidEvent) (window : Time)
    (hnode : ∀ item ∈ store.events, ¬ (item.clusterId = event.clusterId ∧ item.nodeId = event.nodeId))
    (hnear : ∀ item ∈ events, item.clusterId = event.clusterId ∧ item.nodeId = event.nodeId ∧
      event.observedAt - window ≤ item.observedAt ∧ item.observedAt ≤ event.observedAt + window)
    {after : XidStore} (hafter : after.events = store.events ++ events) : after.candidates event window = events := by
  unfold XidStore.candidates
  rw [hafter, List.filter_append]
  have hold : (store.events.filter fun item => item.clusterId == event.clusterId && item.nodeId == event.nodeId &&
      decide (event.observedAt - window ≤ item.observedAt) &&
        decide (item.observedAt ≤ event.observedAt + window)) = [] := by
    rw [List.filter_eq_nil_iff]
    intro item hitem hkeep
    simp only [Bool.and_eq_true, beq_iff_eq] at hkeep
    exact hnode item hitem hkeep.1.1
  have hall : (events.filter fun item => item.clusterId == event.clusterId && item.nodeId == event.nodeId &&
      decide (event.observedAt - window ≤ item.observedAt) && decide (item.observedAt ≤ event.observedAt + window)) =
      events := by
    rw [List.filter_eq_self]
    intro item hitem
    obtain ⟨hcluster, hnode, hafter, hbefore⟩ := hnear item hitem
    simp only [Bool.and_eq_true, beq_iff_eq, decide_eq_true_eq]
    exact ⟨⟨⟨hcluster, hnode⟩, hafter⟩, hbefore⟩
  rw [hold, hall, List.nil_append]

private theorem natAbs_sub_le_iff (x y w : Int) : ((x - y).natAbs : Int) ≤ w ↔ y - w ≤ x ∧ x ≤ y + w := by
  omega

private theorem timeApart_le_iff {window : Time} : timeApart a b ≤ window ↔
    b.observedAt - window ≤ a.observedAt ∧ a.observedAt ≤ b.observedAt + window :=
  natAbs_sub_le_iff a.observedAt b.observedAt window

private theorem le_natCast_mul {w : Int} {n : Nat} (hw : 0 ≤ w) (hn : 1 ≤ n) : w ≤ n * w := by
  have hmul := Int.mul_le_mul_of_nonneg_right (show (1 : Int) ≤ n by omega) hw
  rwa [Int.one_mul] at hmul

/-- The second of two events is evaluated against the two, when nothing else of the node is stored. -/
private theorem second_evaluated (hfresh : FreshFor store a b) (hids : a.eventId ≠ b.eventId)
    (hcluster : a.clusterId = b.clusterId) (hnode : a.nodeId = b.nodeId)
    (hnear : timeApart a b ≤ coordinator.policy.companionWindow) (ha : prepareXid154 a = a)
    (hb : prepareXid154 b = b) :
    ∃ correlation : XidCorrelation, correlation.companionEvents = [a, b] ∧
      (coordinator.ingest (coordinator.ingest store a).2 b).1 =
        decisionOf b (coordinator.policy.resolve b correlation) := by
  obtain ⟨hlow, hhigh⟩ := timeApart_le_iff.1 hnear
  have hwindow : 0 ≤ coordinator.policy.companionWindow := Int.le_trans (Int.natCast_nonneg _) hnear
  have hretained : coordinator.policy.companionWindow ≤
      coordinator.retainedWindows * coordinator.policy.companionWindow :=
    le_natCast_mul hwindow (Nat.le_trans (by decide) coordinator.retained)
  have hself : ∀ event :
      XidEvent, event.observedAt - coordinator.retainedWindows * coordinator.policy.companionWindow ≤
      event.observedAt := fun event => Int.sub_le_self _ (Int.le_trans hwindow hretained)
  -- the first event
  have hsaveA := @saveEvent_of_new store a
    (a.observedAt - coordinator.retainedWindows * coordinator.policy.companionWindow) hfresh.first (by
      intro item hitem hc hn
      rcases List.mem_append.1 hitem with hold | hnew
      · exact absurd ⟨hc, hn⟩ (hfresh.node item hold)
      · rw [List.mem_singleton.1 hnew]
        exact hself a)
  have hfirst := @ingest_of_new coordinator store a _ ha hsaveA hfresh.undecided
  have hevents : (coordinator.ingest store a).2.events = store.events ++ [a] := by
    rw [hfirst]
    rfl
  have hundecided : (coordinator.ingest store a).2.decision b.eventId = none := by
    rw [hfirst]
    rw [XidStore.decision_saveDecision, XidCoordinator.evaluate_eventId, if_neg (Ne.symm hids)]
    exact hfresh.pending
  -- the second event
  have hsaveB := @saveEvent_of_new (coordinator.ingest store a).2 b
    (b.observedAt - coordinator.retainedWindows * coordinator.policy.companionWindow) (by
      intro item hitem
      rw [hevents] at hitem
      rcases List.mem_append.1 hitem with hold | hnew
      · exact hfresh.second item hold
      · rw [List.mem_singleton.1 hnew]
        exact hids) (by
      intro item hitem hc hn
      rw [hevents] at hitem
      rcases List.mem_append.1 hitem with hstored | hnew
      · rcases List.mem_append.1 hstored with hold | hother
        · exact absurd ⟨hc.trans hcluster.symm, hn.trans hnode.symm⟩ (hfresh.node item hold)
        · rw [List.mem_singleton.1 hother]
          exact Int.le_trans (Int.sub_le_sub_left hretained _) hlow
      · rw [List.mem_singleton.1 hnew]
        exact hself b)
  have hsecond := @ingest_of_new coordinator (coordinator.ingest store a).2 b _ hb hsaveB hundecided
  refine ⟨coordinator.correlation _ b false, ?_, congrArg Prod.fst hsecond⟩
  have hreach : coordinator.policy.companionWindow ≤ candidateWindow b coordinator.policy.companionWindow := by
    unfold candidateWindow
    split
    · exact le_max_left _ _
    · exact le_refl _
  refine candidates_append store [a, b] b _ ?_ ?_ ?_
  · intro item hold hsame
    exact hfresh.node item hold ⟨hsame.1.trans hcluster.symm, hsame.2.trans hnode.symm⟩
  · intro item hitem
    simp only [List.mem_cons, List.not_mem_nil, or_false] at hitem
    rcases hitem with rfl | rfl
    · exact ⟨hcluster, hnode, Int.le_trans (Int.sub_le_sub_left hreach _) hlow,
        Int.le_trans hhigh (Int.add_le_add_left hreach _)⟩
    · have hpos := Int.le_trans hwindow hreach
      exact ⟨rfl, rfl, Int.sub_le_self _ hpos, Int.le_add_of_nonneg_right hpos⟩
  · show (coordinator.ingest store a).2.events ++ [b] = store.events ++ [a, b]
    rw [hevents, List.append_assoc]
    rfl

end Ingest

/-! ### The links of XID 48 and XID 64 -/

section Links

variable {policy : PinnedPolicy} {event item : XidEvent} {correlation : XidCorrelation}

/-- An event without a report of its own XID beside it, and without a decode that reads the kernel line, is decided by
its own rule. -/
private theorem resolve_eq_resolveOwn {official : String}
    (hworkflow : workflowOf policy.toXidPolicy event = some official) (hofficial : official ∉ kernelDecodedActions)
    (hxid : ∀ item ∈ correlation.companionEvents, item.xid = event.xid → item.eventId = event.eventId) :
    policy.resolve event correlation = policy.resolveOwn event correlation := by
  rcases policy.resolve_cases event correlation with ⟨twin, htwin, _⟩ | ⟨_, waiting, hwait, _⟩ | ⟨_, _, hown⟩
  · obtain ⟨_, hmem, htwins⟩ := followedTwin_spec htwin
    obtain ⟨hdistinct, _, hsame, _⟩ := reportTwins_spec htwins
    exact absurd (hxid twin hmem hsame.symm).symm hdistinct
  · obtain ⟨rule, hrule, himmediate, _⟩ := rule_of_workflowOf hworkflow
    unfold waitsForLine at hwait
    split at hwait
    · cases hwait
    · rw [hrule, Option.bind_some, himmediate, if_neg] at hwait
      · cases hwait
      · simp [hofficial]
  · exact hown

private theorem workflowOf_of_rule {rule : CatalogRule} {official : String}
    (hrule : policy.rule event.xid = some rule) (himmediate : rule.immediateAction = some official)
    (hgate : ∀ rule, policy.rule event.xid = some rule → productGate policy.toXidPolicy event rule = none)
    (haction : event.xid154Action = none) : workflowOf policy.toXidPolicy event = some official := by
  simp [workflowOf, hrule, hgate rule hrule, ownAction, haction, himmediate]

/-- Two events of one GPU, node and boot within the window. -/
structure Companions (policy : XidPolicy) (a b : XidEvent) : Prop where
  ids : a.eventId ≠ b.eventId
  cluster : a.clusterId = b.clusterId
  node : a.nodeId = b.nodeId
  gpu : sameGpu a b = true
  boot : sameBoot a b = true
  near : timeApart a b ≤ policy.companionWindow

private theorem Companions.symm {policy : XidPolicy} {a b : XidEvent} (h : Companions policy a b) :
    Companions policy b a where
  ids := h.ids.symm
  cluster := h.cluster.symm
  node := h.node.symm
  gpu := sameGpu_comm a b ▸ h.gpu
  boot := sameBoot_comm a b ▸ h.boot
  near := timeApart_comm a b ▸ h.near

private theorem findRelated_second {policy : XidPolicy} {a b : XidEvent} (h : Companions policy a b)
    {xids : Nat → Bool} (hxid : xids a.xid = true) : findRelated policy b xids [a, b] = [a] := by
  have hgpu := h.symm.gpu
  have hboot := h.symm.boot
  simp [findRelated, hxid, h.ids, h.cluster, h.node, hgpu, hboot, h.near]

private theorem resolveOwn_reset (hworkflow : workflowOf policy.toXidPolicy event = some "RESET_GPU") :
    ∃ rule, policy.resolveOwn event correlation = withXid48Backlink policy.toXidPolicy event
      (directResolution "RESET_GPU" .resetGpu rule .nvidiaCatalog (some event.workloadState))
      correlation.companionEvents := by
  obtain ⟨rule, hrule, himmediate, _, hpast⟩ := rule_of_workflowOf hworkflow
  have heq := policy.resolveOwn_eq event correlation
  have hdirect : directAction "RESET_GPU" = some .resetGpu := by decide
  rw [hpast, resolveByAction, himmediate] at heq
  dsimp only at heq
  rw [hdirect] at heq
  exact ⟨rule, (Option.some.inj heq).symm⟩

private theorem withXid48Backlink_action {policy : XidPolicy} (resolution : Resolution) (candidates : List XidEvent) :
    (withXid48Backlink policy event resolution candidates).action = resolution.action := by
  unfold withXid48Backlink
  dsimp only
  repeat' split
  all_goals rfl

/-- An XID 64 names the XID 48 beside it exactly when that one was observed before. -/
private theorem resolve_64_link {e48 e64 : XidEvent} (h : Companions policy.toXidPolicy e48 e64) (h48 : e48.xid = 48)
    (h64 : e64.xid = 64) (hworkflow : workflowOf policy.toXidPolicy e64 = some "RESET_GPU")
    (hevents : correlation.companionEvents = [e48, e64]) :
    (policy.resolve e64 correlation).correlatedEventId = some e48.eventId ↔ eventKey e48 < eventKey e64 := by
  have hown := @resolve_eq_resolveOwn policy e64 correlation "RESET_GPU" hworkflow (by decide) (by
    intro item hitem hxid
    rw [hevents] at hitem
    simp only [List.mem_cons, List.not_mem_nil, or_false] at hitem
    rcases hitem with rfl | rfl
    · rw [h48, h64] at hxid
      exact absurd hxid (by decide)
    · rfl)
  obtain ⟨rule, hrule⟩ := @resolveOwn_reset policy e64 correlation hworkflow
  have hrelated : findRelated policy.toXidPolicy e64 (· == 48) [e48, e64] = [e48] :=
    findRelated_second h (by rw [h48]; rfl)
  rw [hown, hrule, hevents]
  unfold withXid48Backlink
  rw [if_neg (by simp [h64, directResolution_link, present]), hrelated]
  by_cases hlt : eventKey e48 < eventKey e64
  · simp [hlt]
  · simp [hlt, directResolution_link]

/-- An XID 48 names the XID 64 beside it. -/
private theorem resolve_48_link {e48 e64 : XidEvent} (h : Companions policy.toXidPolicy e64 e48) (h48 : e48.xid = 48)
    (h64 : e64.xid = 64) (hworkflow48 : workflowOf policy.toXidPolicy e48 = some "WORKFLOW_XID_48")
    (hworkflow64 : workflowOf policy.toXidPolicy e64 = some "RESET_GPU")
    (hevents : correlation.companionEvents = [e64, e48]) :
    (policy.resolve e48 correlation).correlatedEventId = some e64.eventId := by
  have halone : ∀ event ∈ [e64, e48], ∀ item ∈ [e64, e48], item.xid = event.xid → item.eventId = event.eventId := by
    intro event hevent item hitem hxid
    simp only [List.mem_cons, List.not_mem_nil, or_false] at hevent hitem
    rcases hevent with rfl | rfl <;> rcases hitem with rfl | rfl
    · rfl
    · rw [h48, h64] at hxid
      exact absurd hxid (by decide)
    · rw [h48, h64] at hxid
      exact absurd hxid (by decide)
    · rfl
  have hown := @resolve_eq_resolveOwn policy e48 correlation _ hworkflow48 (by decide)
    (hevents ▸ halone e48 (by simp))
  have hcompanion := @resolve_eq_resolveOwn policy e64 { companionEvents := [e64, e48] } _ hworkflow64 (by decide)
    (halone e64 (by simp))
  obtain ⟨reset, hreset⟩ := @resolveOwn_reset policy e64 { companionEvents := [e64, e48] } hworkflow64
  have haction : (policy.resolve e64 { companionEvents := [e64, e48] }).action = some .resetGpu := by
    rw [hcompanion, hreset, withXid48Backlink_action]
    rfl
  have hrelated : findRelated policy.toXidPolicy e48 (fun xid => xid == 63 || xid == 64) [e64, e48] = [e64] :=
    findRelated_second h (by rw [h64]; rfl)
  obtain ⟨rule, hrule, himmediate, _, hpast⟩ := rule_of_workflowOf hworkflow48
  have heq := policy.resolveOwn_eq e48 correlation
  have hdirect : directAction "WORKFLOW_XID_48" = none := by decide
  rw [hpast, resolveByAction, himmediate] at heq
  dsimp only at heq
  rw [hdirect] at heq
  dsimp only at heq
  rw [if_neg (by decide), if_neg (by decide), if_pos rfl, workflowXid48, hevents, hrelated] at heq
  have hresolved : resolvedCompanions (resolveXid policy.toXidPolicy 6) [e64] [e64, e48] =
      some [(e64, policy.resolve e64 { companionEvents := [e64, e48] })] := by
    unfold resolvedCompanions
    rw [List.mapM_cons, policy.resolveXid_eq_resolve e64 _ (le_refl 6)]
    rfl
  rw [hresolved, if_neg (by simp), Option.map_some] at heq
  rw [hown, ← Option.some.inj heq]
  have hrank : decide (actionSeverityRank .resetGpu ≤
      ((policy.resolve e64 { companionEvents := [e64, e48] }).action.map actionSeverityRank).getD 0) = true := by
    rw [haction]
    rfl
  simp only [resetEquivalent, List.filter_cons, hrank]
  rfl

end Links

/-! ### Both orders of processing -/

section Orders

variable (coordinator : XidCoordinator) (store : XidStore)

/-- The decision of the event that is processed second names the first. -/
def SecondNamesFirst (first second : XidEvent) : Prop :=
  (coordinator.ingest (coordinator.ingest store first).2 second).1.correlatedEventId = some first.eventId

/-- An XID 48 and an XID 64 of one fault: both past the product gate, and without an XID 154 action. -/
structure SharedFault (policy : PinnedPolicy) (e48 e64 : XidEvent) : Prop
    extends Companions policy.toXidPolicy e48 e64 where
  xid48 : e48.xid = 48
  xid64 : e64.xid = 64
  gate48 : ∀ rule, policy.rule 48 = some rule → productGate policy.toXidPolicy e48 rule = none
  gate64 : ∀ rule, policy.rule 64 = some rule → productGate policy.toXidPolicy e64 rule = none
  action48 : e48.xid154Action = none
  action64 : e64.xid154Action = none

variable {coordinator store}

private theorem SharedFault.workflow48 {policy : PinnedPolicy} {e48 e64 : XidEvent} (h : SharedFault policy e48 e64) :
    workflowOf policy.toXidPolicy e48 = some "WORKFLOW_XID_48" := by
  obtain ⟨rule, hrule, himmediate⟩ := policy.rule48
  exact workflowOf_of_rule (h.xid48.symm ▸ hrule) himmediate (h.xid48.symm ▸ h.gate48) h.action48

private theorem SharedFault.workflow64 {policy : PinnedPolicy} {e48 e64 : XidEvent} (h : SharedFault policy e48 e64) :
    workflowOf policy.toXidPolicy e64 = some "RESET_GPU" := by
  obtain ⟨rule, hrule, himmediate⟩ := policy.rule64
  exact workflowOf_of_rule (h.xid64.symm ▸ hrule) himmediate (h.xid64.symm ▸ h.gate64) h.action64

private theorem prepareXid154_of_none {event : XidEvent} (h : event.xid154Action = none) :
    prepareXid154 event = event := by
  unfold prepareXid154
  split
  · rfl
  · rw [← h]

private theorem second_48_names_64 {e48 e64 : XidEvent} (h : SharedFault coordinator.policy e48 e64)
    (hfresh : FreshFor store e64 e48) : SecondNamesFirst coordinator store e64 e48 := by
  have hsymm := h.toCompanions.symm
  obtain ⟨correlation, hevents, hdecision⟩ := second_evaluated hfresh hsymm.ids hsymm.cluster hsymm.node hsymm.near
    (prepareXid154_of_none h.action64) (prepareXid154_of_none h.action48)
  unfold SecondNamesFirst
  rw [hdecision]
  exact resolve_48_link hsymm h.xid48 h.xid64 h.workflow48 h.workflow64 hevents

private theorem second_64_names_48_iff {e48 e64 : XidEvent} (h : SharedFault coordinator.policy e48 e64)
    (hfresh : FreshFor store e48 e64) : SecondNamesFirst coordinator store e48 e64 ↔ eventKey e48 < eventKey e64 := by
  obtain ⟨correlation, hevents, hdecision⟩ := second_evaluated hfresh h.ids h.cluster h.node h.near
    (prepareXid154_of_none h.action48) (prepareXid154_of_none h.action64)
  unfold SecondNamesFirst
  rw [hdecision]
  exact resolve_64_link h.toCompanions h.xid48 h.xid64 h.workflow64 hevents

private theorem FreshFor.swap {a b : XidEvent} (h : FreshFor store a b) (hcluster : a.clusterId = b.clusterId)
    (hnode : a.nodeId = b.nodeId) : FreshFor store b a where
  node := fun item hitem hsame => h.node item hitem ⟨hsame.1.trans hcluster.symm, hsame.2.trans hnode.symm⟩
  first := h.second
  second := h.first
  undecided := h.pending
  pending := h.undecided

/-- In both orders of processing the second event names the first, exactly when the XID 48 was observed before the XID
64, or at the same time with the smaller id. -/
theorem both_orders_share_reset_iff {e48 e64 : XidEvent} (h : SharedFault coordinator.policy e48 e64)
    (hfresh : FreshFor store e48 e64) :
    SecondNamesFirst coordinator store e48 e64 ∧ SecondNamesFirst coordinator store e64 e48 ↔
      eventKey e48 < eventKey e64 := by
  rw [second_64_names_48_iff h hfresh]
  exact and_iff_left (second_48_names_64 h (hfresh.swap h.cluster h.node))

private def gpuEvent (eventId : String) (xid : Nat) (observedAt : Time) : XidEvent :=
  { eventId
    xid
    observedAt
    eventSource := some kernelXidSource
    gpuUuid := some "GPU-0"
    product := some "H100" }

private def pinnedCoordinator : XidCoordinator := { policy := catalog610, retained := by decide }

private theorem supports_H100 :
    catalogSupportsProduct catalog610.toXidPolicy (some "H100") ["A100", "H100", "B100", "GB200"] = true := by
  decide +kernel

private theorem gpuEvents_shared (t48 t64 : Time)
    (h : timeApart (gpuEvent "e48" 48 t48) (gpuEvent "e64" 64 t64) ≤ catalog610.companionWindow) :
    SharedFault catalog610 (gpuEvent "e48" 48 t48) (gpuEvent "e64" 64 t64) where
  ids := show "e48" ≠ "e64" by decide
  cluster := rfl
  node := rfl
  gpu := by rfl
  boot := by rfl
  near := h
  xid48 := rfl
  xid64 := rfl
  gate48 := by
    intro rule hrule
    cases hrule
    exact if_pos supports_H100
  gate64 := by
    intro rule hrule
    cases hrule
    exact if_pos supports_H100
  action48 := rfl
  action64 := rfl

private theorem fresh_empty (a b : XidEvent) : FreshFor {} a b where
  node := by simp
  first := by simp
  second := by simp
  undecided := rfl
  pending := rfl

/-- An XID 48 observed five seconds before the XID 64 shares the reset in both orders of processing. -/
theorem five_seconds_later_share_reset :
    SharedFault pinnedCoordinator.policy (gpuEvent "e48" 48 0) (gpuEvent "e64" 64 5) ∧
      SecondNamesFirst pinnedCoordinator {} (gpuEvent "e48" 48 0) (gpuEvent "e64" 64 5) ∧
      SecondNamesFirst pinnedCoordinator {} (gpuEvent "e64" 64 5) (gpuEvent "e48" 48 0) := by
  have hshared := gpuEvents_shared 0 5 (by decide)
  exact ⟨hshared, (both_orders_share_reset_iff hshared (fresh_empty _ _)).2 (by decide)⟩

/-- An XID 64 observed five seconds before the XID 48 and processed after it names nothing: the GPU is reset twice. -/
theorem earlier_64_processed_second_names_none :
    SharedFault pinnedCoordinator.policy (gpuEvent "e48" 48 5) (gpuEvent "e64" 64 0) ∧
      FreshFor {} (gpuEvent "e48" 48 5) (gpuEvent "e64" 64 0) ∧
      ¬ (SecondNamesFirst pinnedCoordinator {} (gpuEvent "e48" 48 5) (gpuEvent "e64" 64 0) ∧
        SecondNamesFirst pinnedCoordinator {} (gpuEvent "e64" 64 0) (gpuEvent "e48" 48 5)) := by
  refine ⟨gpuEvents_shared 5 0 (by decide), fresh_empty _ _, fun h => ?_⟩
  exact absurd h.1 (by unfold SecondNamesFirst; decide +kernel)

end Orders

end Policy

end GpuFaultRecovery
