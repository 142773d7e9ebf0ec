import GpuFaultRecovery.Run
import GpuFaultRecovery.XidLinks

/-!
# Pairs of reports

One XID occurrence is reported twice, by a kernel line and by a change of the DCGM gauge. A stored decision pairs its
report with the other one it names. Pairs are not recorded elsewhere: a report that looks for its twin reads the
decisions of the events that are still stored, and leaves out the pairs of its own.
-/

namespace GpuFaultRecovery

namespace Policy

/-! ### The steps of a report -/

section Steps

variable (coordinator : XidCoordinator) (orchestrator : Orchestrator) (store : XidStore)

/-- `ingest_xid`: a decision that does not wait is finalized. -/
def ingestXid (event : XidEvent) : XidStore :=
  let event := prepareXid154 event
  let answer := coordinator.ingest store event
  if answer.1.pending then answer.2
  else
    ((finalizeXid orchestrator (answer.2.events.length + 1) answer.2 event answer.1).map Prod.snd).getD answer.2

/-- No decision waits any more once its window is closed. -/
def failClosed (decision : XidDecision) : XidDecision :=
  if decision.pending then
    { decision with
      disposition := .blockedMissingEvidence
      action := none
      safetyAction := some .quarantine }
  else decision

/-- `run_once` for one report whose window is over. -/
def closeXid (event : XidEvent) : XidStore :=
  match finalizeXid orchestrator (store.events.length + 1) store event
      (failClosed (coordinator.evaluate store event true)) with
  | some answer =>
    { answer.2 with
      closed := event.eventId :: answer.2.closed }
  | none => store

end Steps

/-- A report is ingested, or the pass closes the window of a report that waits. -/
inductive ReportStep where
  | ingest (event : XidEvent) (orchestrator : Orchestrator)
  | close (id : String) (orchestrator : Orchestrator)

def reportStep (coordinator : XidCoordinator) (store : XidStore) : ReportStep → XidStore
  | .ingest event orchestrator => ingestXid coordinator orchestrator store event
  | .close id orchestrator =>
    match store.event id, store.decision id with
    | some event, some decision =>
      if decision.pending then closeXid coordinator orchestrator store event else store
    | _, _ => store

/-! ### Pairs -/

/-- No element is in two different pairs. -/
def Matching {α : Type} (P : α → α → Prop) : Prop := ∀ a b c, P a b ∨ P b a → P a c ∨ P c a → b = c

/-- A matching stays one when an element drops its pair, and when it takes an element that is in no other pair, unless
a third one names it. -/
private theorem matching_update {α : Type} {P P' : α → α → Prop} {e : α} (hP : Matching P)
    (hold : ∀ a b, a ≠ e → P' a b → P a b) (hone : ∀ t t', P' e t → P' e t' → t = t')
    (hfree : ∀ t, P' e t → ∀ x, x ≠ e → ¬ (P t x ∨ P x t)) (hfollower : ∀ t, P' e t → ∀ x, x ≠ e → P x e → x = t) :
    Matching P' := by
  intro a b c hb hc
  by_cases ha : a = e
  · subst ha
    have hnamer : ∀ t x, P' a t → P' x a → t = x := by
      intro t x ht hx
      by_cases hxa : x = a
      · exact hone t x ht (hxa ▸ hx)
      · exact (hfollower t ht x hxa (hold x a hxa hx)).symm
    rcases hb with hb | hb <;> rcases hc with hc | hc
    · exact hone b c hb hc
    · exact hnamer b c hb hc
    · exact (hnamer c b hc hb).symm
    · by_cases hba : b = a
      · exact hnamer b c (hba ▸ hb) hc
      · by_cases hca : c = a
        · exact (hnamer c b (hca ▸ hc) hb).symm
        · exact hP a b c (.inr (hold b a hba hb)) (.inr (hold c a hca hc))
  · -- a pair of another element is old, or `e` has just taken it
    have hsplit : ∀ x, P' a x ∨ P' x a → (P a x ∨ P x a) ∨ (x = e ∧ P' e a) := by
      rintro x (hx | hx)
      · exact .inl (.inl (hold a x ha hx))
      · by_cases hxe : x = e
        · exact .inr ⟨hxe, hxe ▸ hx⟩
        · exact .inl (.inr (hold x a hxe hx))
    rcases hsplit b hb with hb | ⟨rfl, hb⟩ <;> rcases hsplit c hc with hc | ⟨rfl, hc⟩
    · exact hP a b c hb hc
    · by_contra hne
      exact hfree a hc b hne hb
    · by_contra hne
      exact hfree a hb c (Ne.symm hne) hc
    · rfl

def XidStore.link (store : XidStore) (id : String) : Option String :=
  (store.decision id).bind XidDecision.correlatedEventId

/-- A report whose stored decision names its twin. -/
def Paired (reports : List XidEvent) (store : XidStore) (a b : XidEvent) : Prop :=
  a ∈ reports ∧ b ∈ reports ∧ store.link a.eventId = some b.eventId ∧ reportTwins a b = true

/-- Kernel lines and changes of one XID on one GPU. -/
structure ReportsOfOneXid (reports : List XidEvent) : Prop where
  ids : (reports.map XidEvent.eventId).Nodup
  report : ∀ a ∈ reports, isReport a = true
  xid : ∀ a ∈ reports, ∀ b ∈ reports, a.xid = b.xid
  cluster : ∀ a ∈ reports, ∀ b ∈ reports, a.clusterId = b.clusterId
  node : ∀ a ∈ reports, ∀ b ∈ reports, a.nodeId = b.nodeId
  gpu : ∀ a ∈ reports, ∀ b ∈ reports, sameGpu a b = true

/-! ### The choice of a twin -/

/-- Every recorded pair with a possible twin of a report in it is still stored. -/
def PairsStored (reports : List XidEvent) (store : XidStore) (event : XidEvent) : Prop :=
  ∀ a b, Paired reports store a b → a ≠ event → b ≠ event → reportTwins event a = true ∨ reportTwins event b = true →
    a ∈ store.events ∧ b ∈ store.events

/-- A stored twin of a report that is in no pair without the report. -/
structure FreeTwin (reports : List XidEvent) (store : XidStore) (event twin : XidEvent) : Prop where
  stored : twin ∈ store.events
  twins : reportTwins event twin = true
  free : ∀ x, x ≠ event → ¬ (Paired reports store twin x ∨ Paired reports store x twin)

section Choice

variable {reports candidates : List XidEvent} {store : XidStore} {event twin a b : XidEvent} {window : Time}
  {paired : List String}

private theorem mem_candidates : a ∈ store.candidates event window ↔
    a ∈ store.events ∧ a.clusterId = event.clusterId ∧ a.nodeId = event.nodeId ∧
      event.observedAt - window ≤ a.observedAt ∧ a.observedAt ≤ event.observedAt + window := by
  unfold XidStore.candidates
  rw [List.mem_filter]
  simp only [Bool.and_eq_true, beq_iff_eq, decide_eq_true_eq]
  constructor
  · rintro ⟨hmem, ⟨⟨hcluster, hnode⟩, hafter⟩, hbefore⟩
    exact ⟨hmem, hcluster, hnode, hafter, hbefore⟩
  · rintro ⟨hmem, hcluster, hnode, hafter, hbefore⟩
    exact ⟨hmem, ⟨⟨hcluster, hnode⟩, hafter⟩, hbefore⟩

private theorem natAbs_sub_le_add (x y z w w' : Int) (h : ((x - y).natAbs : Int) ≤ w)
    (h' : ((y - z).natAbs : Int) ≤ w') :
    z - (w + w') ≤ x ∧ x ≤ z + (w + w') := by
  omega

private theorem mem_candidates_of_twin (hreports : ReportsOfOneXid reports) (hevent : event ∈ reports)
    (ha : a ∈ reports) (hwindow : 2 * xidReportTwinWindow ≤ window) (hmem : a ∈ store.events)
    (htwin : timeApart b event ≤ xidReportTwinWindow) (hnear : timeApart a b ≤ xidReportTwinWindow) :
    a ∈ store.candidates event window := by
  obtain ⟨hlow, hhigh⟩ := natAbs_sub_le_add a.observedAt b.observedAt event.observedAt _ _ hnear htwin
  have hsum : xidReportTwinWindow + xidReportTwinWindow ≤ window := by
    rw [← Int.two_mul]
    exact hwindow
  exact mem_candidates.2 ⟨hmem, hreports.cluster a ha event hevent, hreports.node a ha event hevent,
    Int.le_trans (Int.sub_le_sub_left hsum _) hlow, Int.le_trans hhigh (Int.add_le_add_left hsum _)⟩

private theorem storedTwin_of_paired (hreports : ReportsOfOneXid reports)
    (hcandidates : ∀ x ∈ candidates, x ∈ reports)
    (h : Paired reports store a b) (hb : b ∈ candidates) : storedTwin candidates store.decision a = some b := by
  obtain ⟨_, hbr, hlink, htwins⟩ := h
  obtain ⟨decision, hdecision, hnames⟩ := Option.bind_eq_some_iff.1 hlink
  have hfind : candidates.find? (fun other => other.eventId == b.eventId) = some b := by
    cases hfound : candidates.find? fun other => other.eventId == b.eventId with
    | none => exact absurd (beq_iff_eq.2 rfl) (List.find?_eq_none.1 hfound b hb)
    | some other =>
      have hid : other.eventId = b.eventId := by simpa using List.find?_some hfound
      have hmem := hcandidates other (List.mem_of_find?_eq_some hfound)
      rw [List.inj_on_of_nodup_map hreports.ids hmem hbr hid]
  unfold storedTwin
  rw [hdecision, Option.bind_some, hnames, Option.getD_some, hfind]
  simp [htwins]

private theorem mem_pairedReports {decisionOf : String → Option XidDecision}
    (h : pairedReports event candidates decisionOf = some paired) (ha : a ∈ pairingCandidates event candidates)
    (hstored : storedTwin candidates decisionOf a = some b) (hne : event.eventId ≠ b.eventId) :
    a.eventId ∈ paired ∧ b.eventId ∈ paired := by
  unfold pairedReports at h
  dsimp only at h
  split at h
  · cases h
  · cases h
    constructor <;>
    · refine List.mem_flatMap.2 ⟨a, ha, ?_⟩
      simp [hstored, hne]

private theorem mem_pairingCandidates (hreports : ReportsOfOneXid reports) (hevent : event ∈ reports)
    (ha : a ∈ reports) (hmem : a ∈ candidates) (hne : a ≠ event) : a ∈ pairingCandidates event candidates := by
  have hid : a.eventId ≠ event.eventId := fun h => hne (List.inj_on_of_nodup_map hreports.ids ha hevent h)
  refine List.mem_filter.2 ⟨hmem, ?_⟩
  simp [hid, hreports.report a ha, hreports.xid a ha event hevent, hreports.cluster a ha event hevent,
    hreports.node a ha event hevent, hreports.gpu event hevent a ha]

/-- The twin that a report finds is in no other pair, when the pairs around are still stored. -/
theorem freeTwin_of_reportTwin (hreports : ReportsOfOneXid reports) (hstored : ∀ x ∈ store.events, x ∈ reports)
    (hevent : event ∈ reports) (hwindow : 2 * xidReportTwinWindow ≤ window) (hpairs : PairsStored reports store event)
    (hpaired : pairedReports event (store.candidates event window) store.decision = some paired)
    (htwin : reportTwin event (store.candidates event window) paired = some twin) :
    FreeTwin reports store event twin := by
  obtain ⟨hmem, hkeep⟩ := List.mem_filter.1 (List.argmin_mem htwin)
  simp only [Bool.and_eq_true, Bool.not_eq_true', List.contains_eq_mem, decide_eq_false_iff_not] at hkeep
  obtain ⟨hfree, htwins⟩ := hkeep
  have hcandidates : ∀ x ∈ store.candidates event window, x ∈ reports := fun x hx => hstored x (mem_candidates.1 hx).1
  obtain ⟨hid, hnear, _⟩ := reportTwins_spec htwins
  have hne : twin ≠ event := ne_of_reportTwins htwins
  have hnear' : timeApart twin event ≤ xidReportTwinWindow := timeApart_comm event twin ▸ hnear
  refine ⟨(mem_candidates.1 hmem).1, htwins, fun x hx hpair => ?_⟩
  have hxid : ∀ x ∈ reports, x ≠ event → event.eventId ≠ x.eventId := fun x hxr hx h =>
    hx (List.inj_on_of_nodup_map hreports.ids hxr hevent h.symm)
  rcases hpair with hpair | hpair
  · -- the twin's own decision names another report
    have hxmem := (hpairs twin x hpair hne hx (.inl htwins)).2
    have hxcand := mem_candidates_of_twin hreports hevent hpair.2.1 hwindow hxmem hnear'
      (timeApart_comm twin x ▸ (reportTwins_spec hpair.2.2.2).2.1)
    have htaken := mem_pairedReports hpaired (mem_pairingCandidates hreports hevent hpair.1 hmem hne)
      (storedTwin_of_paired hreports hcandidates hpair hxcand) (hxid x hpair.2.1 hx)
    exact hfree htaken.1
  · -- another report's decision names the twin
    have hxmem := (hpairs x twin hpair hx hne (.inr htwins)).1
    have hxcand := mem_candidates_of_twin hreports hevent hpair.1 hwindow hxmem hnear'
      (reportTwins_spec hpair.2.2.2).2.1
    have htaken := mem_pairedReports hpaired (mem_pairingCandidates hreports hevent hpair.1 hxcand hx)
      (storedTwin_of_paired hreports hcandidates hpair hmem) hid
    exact hfree htaken.2

theorem candidateWindow_of_report {companionWindow : Time} (h : isReport event = true) :
    2 * xidReportTwinWindow ≤ candidateWindow event companionWindow := by
  unfold candidateWindow
  rw [if_pos h]
  exact le_max_right _ _

private theorem waitsForLine_link {policy : XidPolicy} {correlation : XidCorrelation} {waiting : Resolution}
    (h : waitsForLine policy event correlation = some waiting) : waiting.correlatedEventId = none := by
  unfold waitsForLine at h
  split at h
  · cases h
  · obtain ⟨rule, _, hrule⟩ := Option.bind_eq_some_iff.1 h
    split at hrule
    · cases hrule
      rfl
    · cases hrule

/-- Among reports of one XID an event names its twin, and nothing else. -/
theorem evaluate_link {coordinator : XidCoordinator} {closed : Bool} (hreports : ReportsOfOneXid reports)
    (hstored : ∀ x ∈ store.events, x ∈ reports) (hevent : event ∈ reports) :
    (coordinator.evaluate store event closed).correlatedEventId =
      (followedTwin event (coordinator.correlation store event closed)).map XidEvent.eventId := by
  have hsame : ∀ item ∈ (coordinator.correlation store event closed).companionEvents, item.xid = event.xid :=
    fun item hitem => hreports.xid item (hstored item (mem_candidates.1 hitem).1) event hevent
  unfold XidCoordinator.evaluate decisionOf
  dsimp only
  rcases coordinator.policy.resolve_cases event (coordinator.correlation store event closed) with
    ⟨twin, htwin, hresolve⟩ | ⟨hnone, waiting, hwait, hresolve⟩ | ⟨hnone, _, hresolve⟩
  · rw [hresolve, htwin]
    rfl
  · rw [hresolve, hnone, waitsForLine_link hwait]
    rfl
  · rw [hresolve, hnone]
    cases hlink :
      (coordinator.policy.resolveOwn event (coordinator.correlation store event closed)).correlatedEventId with
    | none => rfl
    | some id =>
      obtain ⟨item, xids, hrelated, _, hcases⟩ := coordinator.policy.resolveOwn_link hlink
      have hxid := hsame item (List.mem_filter.1 hrelated).1
      omega

/-- A change that follows a line follows a free one. -/
theorem freeTwin_of_followedTwin {coordinator : XidCoordinator} {closed : Bool} (hreports : ReportsOfOneXid reports)
    (hstored : ∀ x ∈ store.events, x ∈ reports) (hevent : event ∈ reports) (hpairs : PairsStored reports store event)
    (h : followedTwin event (coordinator.correlation store event closed) = some twin) :
    isXidGauge event = true ∧ FreeTwin reports store event twin := by
  refine ⟨(followedTwin_spec h).1, ?_⟩
  unfold followedTwin at h
  rw [if_pos (followedTwin_spec h).1] at h
  obtain ⟨paired, hpaired, htwin⟩ := Option.bind_eq_some_iff.1 h
  exact freeTwin_of_reportTwin hreports hstored hevent
    (candidateWindow_of_report (hreports.report event hevent)) hpairs
    hpaired htwin

end Choice

/-! ### The invariant -/

/-- What holds between two steps: the pairs are a matching, every stored report is decided, every decision that does
not wait has an incident, and a line names a change only after the change was decided. -/
structure TwinsInv (reports : List XidEvent) (store : XidStore) : Prop where
  matching : Matching (Paired reports store)
  stored : ∀ x ∈ store.events, x ∈ reports
  decided : ∀ x ∈ store.events, (store.decision x.eventId).isSome = true
  incident : ∀ id decision, store.decision id = some decision → decision.pending = false →
    (store.incidentOf id).isSome = true
  named : ∀ a b, Paired reports store a b → (store.decision b.eventId).isSome = true
  joined : ∀ a b, Paired reports store a b → isKernelLine a = true →
    ∃ decision, store.decision b.eventId = some decision ∧ decision.pending = false

section Update

variable {reports : List XidEvent} {store after : XidStore} {event : XidEvent} {decision : XidDecision}

/-- What the twin of a processed report has to be, so that the pair fits the others. -/
structure Fits (reports : List XidEvent) (store : XidStore) (event twin : XidEvent) : Prop where
  stored : twin ∈ store.events
  free : ∀ x, x ≠ event → ¬ (Paired reports store twin x ∨ Paired reports store x twin)
  follower : ∀ x, x ≠ event → Paired reports store x event → x = twin
  settled :
    isKernelLine event = true → ∃ decision, store.decision twin.eventId = some decision ∧ decision.pending = false

/-- The decision of one report is written: the invariant is kept when the twin it names fits. -/
theorem twinsInv_update (hreports : ReportsOfOneXid reports) (hinv : TwinsInv reports store)
    (hevent : event ∈ reports) (hunsettled : ∀ d, store.decision event.eventId = some d → d.pending = true)
    (hevents : ∀ x ∈ after.events, x ∈ store.events ∨ x = event)
    (hdecisions : ∀ id, after.decision id = if id = event.eventId then some decision else store.decision id)
    (hincidents : ∀ id, (store.incidentOf id).isSome = true → (after.incidentOf id).isSome = true)
    (hincident : decision.pending = false → (after.incidentOf event.eventId).isSome = true)
    (hfits : ∀ twin ∈ reports, decision.correlatedEventId = some twin.eventId → reportTwins event twin = true →
      Fits reports store event twin) : TwinsInv reports after := by
  have hid : ∀ a ∈ reports, a ≠ event → a.eventId ≠ event.eventId := fun a ha hne h =>
    hne (List.inj_on_of_nodup_map hreports.ids ha hevent h)
  have hold : ∀ a b, a ≠ event → Paired reports after a b → Paired reports store a b := by
    rintro a b hne ⟨ha, hb, hlink, htwins⟩
    refine ⟨ha, hb, ?_, htwins⟩
    rw [XidStore.link, hdecisions, if_neg (hid a ha hne)] at hlink
    exact hlink
  have hnew : ∀ b, Paired reports after event b → Fits reports store event b := by
    rintro b ⟨_, hb, hlink, htwins⟩
    rw [XidStore.link, hdecisions, if_pos rfl] at hlink
    exact hfits b hb hlink htwins
  have hkept : ∀ a ∈ reports, a ≠ event → after.decision a.eventId = store.decision a.eventId := by
    intro a ha hne
    rw [hdecisions, if_neg (hid a ha hne)]
  -- a pair that is named by a line cannot name the report that is just decided
  have hjoined : ∀ a b, Paired reports store a b → isKernelLine a = true → b ≠ event := by
    rintro a b hpair hline rfl
    obtain ⟨d, hd, hpending⟩ := hinv.joined a b hpair hline
    rw [hunsettled d hd] at hpending
    cases hpending
  refine ⟨?_, ?_, ?_, ?_, ?_, ?_⟩
  · refine matching_update hinv.matching hold ?_ (fun t ht => (hnew t ht).free) fun t ht => (hnew t ht).follower
    rintro t t' ⟨_, ht, hlink, _⟩ ⟨_, ht', hlink', _⟩
    exact List.inj_on_of_nodup_map hreports.ids ht ht' (Option.some.inj (hlink.symm.trans hlink'))
  · intro x hx
    rcases hevents x hx with hx | rfl
    · exact hinv.stored x hx
    · exact hevent
  · intro x hx
    rw [hdecisions]
    split
    · rfl
    · rcases hevents x hx with hx | rfl
      · exact hinv.decided x hx
      · rename_i hne
        exact absurd rfl hne
  · intro id d hd hpending
    rw [hdecisions] at hd
    split at hd
    · rename_i heq
      cases hd
      rw [heq]
      exact hincident hpending
    · exact hincidents id (hinv.incident id d hd hpending)
  · intro a b hpair
    rw [hdecisions]
    split
    · rfl
    · by_cases hne : a = event
      · subst hne
        exact hinv.decided b (hnew b hpair).stored
      · exact hinv.named a b (hold a b hne hpair)
  · intro a b hpair hline
    by_cases hne : a = event
    · subst hne
      have hb : b ≠ a := ne_of_reportTwins hpair.2.2.2
      rw [hkept b hpair.2.1 hb]
      exact (hnew b hpair).settled hline
    · have hpair' := hold a b hne hpair
      rw [hkept b hpair.2.1 (hjoined a b hpair' hline)]
      exact hinv.joined a b hpair' hline

end Update

end Policy

end GpuFaultRecovery
