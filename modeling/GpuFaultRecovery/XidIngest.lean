import GpuFaultRecovery.PinnedPolicy
import GpuFaultRecovery.Table

/-!
# The correlation of XID reports

The coordinator stores every event, reads the events around it back as candidates, and lets the policy decide. A
decision that waits for its window is closed later; a decision that does not wait is finalized at once, and gets an
incident.
-/

namespace GpuFaultRecovery

namespace Policy

/-! ### Decisions and the store -/

/-- What the correlation reads and writes of a policy decision. -/
structure XidDecision where
  eventId : String
  disposition : ActionDisposition
  officialAction : Option String
  action : Option RecoveryAction
  safetyAction : Option RecoveryAction
  preActions : List RecoveryAction
  correlatedEventId : Option String
  duplicate : Bool := false
  incidentId : Option String := none
deriving Repr, DecidableEq

/-- `_decision`. -/
def decisionOf (event : XidEvent) (resolution : Resolution) : XidDecision :=
  let blocked := resolution.disposition == .blockedWorkflow || resolution.disposition == .blockedMissingEvidence ||
    resolution.disposition == .notApplicable || resolution.disposition == .siteSafety
  { eventId := event.eventId
    disposition := resolution.disposition
    officialAction := resolution.officialAction
    action := resolution.action
    safetyAction := if resolution.action.isNone && blocked then some .quarantine else none
    preActions := resolution.preActions
    correlatedEventId := resolution.correlatedEventId }

def XidDecision.pending (decision : XidDecision) : Bool := decision.disposition == .pendingCorrelation

/-- The events kept for correlation, the decisions, the closed correlations and the incident of each event. A decision
names an incident only after the event was linked to it. -/
structure XidStore where
  events : List XidEvent := []
  decisions : Table XidDecision.eventId := .empty
  closed : List String := []
  incidents : List (String × String) := []
  linked : ∀ id decision, decisions.get? id = some decision → decision.incidentId.isSome = true →
    (incidents.lookup id).isSome = true := by intro id decision h; simp at h

namespace XidStore

variable (store : XidStore)

def decision (id : String) : Option XidDecision := store.decisions.get? id

/-- `get_incident_by_event`. -/
def incidentOf (id : String) : Option String := store.incidents.lookup id

/-- `get_xid_event`. -/
def event (id : String) : Option XidEvent := store.events.find? fun item => item.eventId == id

/-- `save_xid_event_if_absent`: events of the node older than `retainFrom` are dropped. -/
def saveEvent (event : XidEvent) (retainFrom : Time) : XidStore × Bool :=
  if store.events.any fun item => item.eventId == event.eventId then (store, false)
  else
    ({ store with
        events := (store.events ++ [event]).filter fun item =>
          !(item.clusterId == event.clusterId && item.nodeId == event.nodeId &&
            decide (item.observedAt < retainFrom)) },
      true)

/-- `save_xid_policy_decision`. -/
def saveDecision (decision : XidDecision)
    (h : decision.incidentId.isSome = true → (store.incidents.lookup decision.eventId).isSome = true) : XidStore :=
  { store with
    decisions := store.decisions.put decision
    linked := by
      intro id stored hstored hincident
      rw [Table.get?_put] at hstored
      split at hstored
      · rename_i hid
        cases hstored
        rw [hid]
        exact h hincident
      · exact store.linked id stored hstored hincident }

theorem decision_saveDecision (decision : XidDecision)
    (h : decision.incidentId.isSome = true → (store.incidents.lookup decision.eventId).isSome = true) (id : String) :
    (store.saveDecision decision h).decision id = if id = decision.eventId then some decision
      else store.decision id :=
  Table.get?_put _ _ _

/-- `link_event_to_incident`, and the decision that names the incident. -/
def saveFinalized (decision : XidDecision) (incident : String) : XidStore :=
  let linkedStore : XidStore :=
    { store with
      incidents := (decision.eventId, incident) :: store.incidents
      linked := by
        intro id stored hstored hincident
        rw [List.lookup_cons]
        split
        · rfl
        · exact store.linked id stored hstored hincident }
  linkedStore.saveDecision { decision with incidentId := some incident } fun _ => by
    simp [linkedStore]

/-- `list_xid_events`: the events of the node within the window around an event. -/
def candidates (event : XidEvent) (window : Time) : List XidEvent :=
  store.events.filter fun item =>
    item.clusterId == event.clusterId && item.nodeId == event.nodeId &&
      decide (event.observedAt - window ≤ item.observedAt) && decide (item.observedAt ≤ event.observedAt + window)

end XidStore

/-! ### Pairs of reports -/

def isReport (event : XidEvent) : Bool := isKernelLine event || isXidGauge event

/-- `candidate_window`. -/
def candidateWindow (event : XidEvent) (companionWindow : Time) : Time :=
  if isReport event then max companionWindow (2 * xidReportTwinWindow) else companionWindow

/-- `MAX_PAIRING_CANDIDATES`. -/
def maxPairingCandidates : Nat := 16

/-- `pairing_candidates`. -/
def pairingCandidates (event : XidEvent) (candidates : List XidEvent) : List XidEvent :=
  candidates.filter fun item =>
    item.eventId != event.eventId && isReport item && item.xid == event.xid && item.clusterId == event.clusterId &&
      item.nodeId == event.nodeId && sameGpu event item

/-- The twin that a stored decision of a report names, if it is among the candidates. -/
def storedTwin (candidates : List XidEvent) (decisionOf : String → Option XidDecision) (item : XidEvent) :
    Option XidEvent :=
  (decisionOf item.eventId).bind fun decision =>
    (candidates.find? fun other => other.eventId == decision.correlatedEventId.getD "").filter fun partner =>
      reportTwins item partner

/-- `paired_reports`: the reports of every stored pair without the event; none in a storm. -/
def pairedReports (event : XidEvent) (candidates : List XidEvent) (decisionOf : String → Option XidDecision) :
    Option (List String) :=
  let relevant := pairingCandidates event candidates
  if maxPairingCandidates < relevant.length then none
  else
    some (relevant.flatMap fun item =>
      match storedTwin candidates decisionOf item with
      | some partner => if event.eventId == partner.eventId then [] else [item.eventId, partner.eventId]
      | none => [])

/-- `same_report_decision`. -/
def sameReportDecision (stored decision : XidDecision) : Bool :=
  stored.disposition == decision.disposition && stored.action == decision.action &&
    stored.safetyAction == decision.safetyAction && stored.officialAction == decision.officialAction &&
    stored.preActions == decision.preActions

/-- The change that a kernel line joins: `join_gauge_twin`, with the candidates and pairs of `_join_gauge_twin`. -/
def joinableTwin (store : XidStore) (event : XidEvent) (decision : XidDecision) : Option XidEvent :=
  let candidates := store.candidates event (candidateWindow event 0)
  if !isKernelLine event || (present decision.correlatedEventId).isSome || decision.pending then none
  else
    (pairedReports event candidates store.decision).bind fun paired =>
      (reportTwin event candidates paired).filter fun twin =>
        (store.decision twin.eventId).any fun stored =>
          !stored.pending && (present stored.incidentId).isSome && sameReportDecision stored decision

/-- A change that a line joins is its free twin, was decided before it in the same way, and has an incident. -/
theorem joinableTwin_spec {store : XidStore} {event twin : XidEvent} {decision : XidDecision}
    (h : joinableTwin store event decision = some twin) :
    isKernelLine event = true ∧ present decision.correlatedEventId = none ∧ decision.pending = false ∧
      (∃ paired, pairedReports event (store.candidates event (candidateWindow event 0)) store.decision = some paired ∧
        reportTwin event (store.candidates event (candidateWindow event 0)) paired = some twin) ∧
      ∃ stored, store.decision twin.eventId = some stored ∧ stored.pending = false ∧
        (present stored.incidentId).isSome = true := by
  unfold joinableTwin at h
  dsimp only at h
  split at h
  · cases h
  case isFalse hguard =>
    simp only [Bool.or_eq_true, not_or, Bool.not_eq_true, Bool.not_eq_false', Option.isSome_eq_false_iff,
      Option.isNone_iff_eq_none] at hguard
    obtain ⟨paired, hpaired, hfilter⟩ := Option.bind_eq_some_iff.1 h
    obtain ⟨htwin, hany⟩ := Option.filter_eq_some_iff.1 hfilter
    obtain ⟨stored, hstored, hkeep⟩ := (Option.any_eq_true _ _).1 hany
    simp only [Bool.and_eq_true, Bool.not_eq_eq_eq_not, Bool.not_true] at hkeep
    exact ⟨hguard.1.1, hguard.1.2, hguard.2, ⟨paired, hpaired, htwin⟩, stored, hstored, hkeep.1.1, hkeep.1.2⟩

/-- `_join_gauge_twin`. -/
def joinGaugeTwin (store : XidStore) (event : XidEvent) (decision : XidDecision) : XidDecision :=
  match joinableTwin store event decision with
  | some twin => { decision with correlatedEventId := some twin.eventId }
  | none => decision

/-! ### Ingest -/

structure XidCoordinator where
  policy : PinnedPolicy
  retainedWindows : Nat := 8
  retained : 2 ≤ retainedWindows

/-- `prepare_xid154`: only the line of an XID 154 itself carries an action, the one its text names. -/
def prepareXid154 (event : XidEvent) : XidEvent :=
  if event.xid = 154 then event
  else
    { event with
      xid154Action := none }

namespace XidCoordinator

variable (coordinator : XidCoordinator)

def correlation (store : XidStore) (event : XidEvent) (closed : Bool) : XidCorrelation :=
  let candidates := store.candidates event (candidateWindow event coordinator.policy.companionWindow)
  { companionEvents := candidates
    xid45WindowClosed := closed
    xid154WindowClosed := closed
    pairedReportIds := pairedReports event candidates store.decision
    reportTwinWindowClosed := closed }

/-- `evaluate_xid` for an event without a settled decision. -/
def evaluate (store : XidStore) (event : XidEvent) (closed : Bool) : XidDecision :=
  decisionOf event (coordinator.policy.resolve event (coordinator.correlation store event closed))

@[simp] theorem evaluate_eventId (store : XidStore) (event : XidEvent) (closed : Bool) :
    (coordinator.evaluate store event closed).eventId = event.eventId := rfl

/-- `ingest`. An event that is already decided, or whose repeat finds it still stored, is answered by its decision. -/
def ingest (store : XidStore) (event : XidEvent) : XidDecision × XidStore :=
  let event := prepareXid154 event
  let saved := store.saveEvent event
    (event.observedAt - coordinator.retainedWindows * coordinator.policy.companionWindow)
  let decided := coordinator.evaluate saved.1 event false
  match saved.1.decision event.eventId with
  | some existing =>
    if !saved.2 || !existing.pending || decided.pending && saved.1.closed.contains event.eventId then
      ({ existing with
          duplicate := true }, saved.1)
    else (decided, saved.1.saveDecision decided fun h => by cases h)
  | none => (decided, saved.1.saveDecision decided fun h => by cases h)

end XidCoordinator

/-! ### Finalization -/

/-- What `apply_fault_action_generation_fence` does to a decision: nothing, the site's observe-only answer to a solo
XID 45, or the refusal of an event of another boot. -/
inductive FenceAnswer where
  | unchanged
  | observeOnly
  | staleGeneration
deriving Repr, DecidableEq

def FenceAnswer.apply (answer : FenceAnswer) (decision : XidDecision) : XidDecision :=
  match answer with
  | .unchanged => decision
  | .observeOnly =>
    { decision with
      disposition := .monitorOnly
      action := some .noAction
      safetyAction := none
      preActions := [] }
  | .staleGeneration =>
    { decision with
      disposition := .blockedMissingEvidence
      action := none
      safetyAction := none
      preActions := [] }

/-- What finalization asks the rest of the system: the fence for a decision, whether `correlate_provider_event` finds
a marker of another source, and the incident the orchestrator answers. -/
structure Orchestrator where
  fence : XidEvent → XidDecision → FenceAnswer
  associated : XidStore → XidEvent → XidDecision → Bool
  incident : XidStore → XidEvent → XidDecision → String

/-- A decision as it is finalized: fenced, and a line that was not seen before joins its change. -/
def joinedDecision (orchestrator : Orchestrator) (store : XidStore) (event : XidEvent) (decision : XidDecision) :
    XidDecision :=
  let fenced := (orchestrator.fence event decision).apply decision
  if decision.duplicate then fenced else joinGaugeTwin store event fenced

/-- The companion a link names is finalized first, when its decision is settled and it has no incident. The result is
none when that fails, and when the companion is not stored any more. -/
def companionFirst (finalize : XidStore → XidEvent → XidDecision → Option (XidDecision × XidStore)) (store : XidStore)
    (link : Option String) : Option XidStore :=
  match present link with
  | none => some store
  | some id =>
    if (store.incidentOf id).isSome then some store
    else
      (store.event id).bind fun companion =>
        match store.decision id with
        | some stored => if stored.pending then some store else (finalize store companion stored).map Prod.snd
        | none => some store

def recordFinal (orchestrator : Orchestrator) (store : XidStore) (event : XidEvent) (joined : XidDecision) :
    XidDecision × XidStore :=
  let shared := (present joined.correlatedEventId).bind store.incidentOf
  let final :=
    { joined with
      duplicate := joined.duplicate || shared.isSome || orchestrator.associated store event joined }
  let incident := orchestrator.incident store event final
  ({ final with
      incidentId := some incident }, store.saveFinalized final incident)

/-- `finalize_xid`, to a recursion depth. -/
def finalizeXid (orchestrator : Orchestrator) :
    Nat → XidStore → XidEvent → XidDecision → Option (XidDecision × XidStore)
  | 0, _, _, _ => none
  | fuel + 1, store, event, decision =>
    let joined := joinedDecision orchestrator store event decision
    (companionFirst (finalizeXid orchestrator fuel) store joined.correlatedEventId).map fun after =>
      recordFinal orchestrator after event joined

end Policy

end GpuFaultRecovery
