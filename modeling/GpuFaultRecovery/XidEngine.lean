import Mathlib.Data.List.MinMax
import Mathlib.Data.Prod.Lex
import Mathlib.Data.String.Basic
import GpuFaultRecovery.XidPolicy

/-!
# The resolution of an XID event

An event is resolved against the other events of its node. A DCGM change follows the kernel line of the same
occurrence, XID 45 follows its most severe companion, XID 48 and XID 64 look for each other, and XID 154 for the fault
it sums up. The resolution of a companion is a resolution of its own, so the function is recursive; `fuel` bounds its
depth.
-/

namespace GpuFaultRecovery

namespace Policy

/-! ### Companions and twins -/

def timeApart (left right : XidEvent) : Time := ((left.observedAt - right.observedAt).natAbs : Int)

theorem timeApart_comm (left right : XidEvent) : timeApart left right = timeApart right left := by
  have hcomm : ∀ x y : Int, ((x - y).natAbs : Int) = (y - x).natAbs := by omega
  exact hcomm left.observedAt right.observedAt

/-- `_find_related`, for the XIDs that `xids` accepts. -/
def findRelated (policy : XidPolicy) (event : XidEvent) (xids : Nat → Bool) (candidates : List XidEvent) :
    List XidEvent :=
  candidates.filter fun item =>
    xids item.xid && item.eventId != event.eventId && item.clusterId == event.clusterId &&
      item.nodeId == event.nodeId &&
      sameGpu event item && sameBoot event item && decide (timeApart item event ≤ policy.companionWindow)

/-- The order of events by time, then by id. -/
def eventKey (event : XidEvent) : Time ×ₗ String := toLex (event.observedAt, event.eventId)

def kernelXidSource : String := "KERNEL_LOG"

def dcgmXidGaugeSource : String := "DCGM_EXPORTER"

def isXidGauge (event : XidEvent) : Bool := event.eventSource == some dcgmXidGaugeSource

def isKernelLine (event : XidEvent) : Bool := event.eventSource == some kernelXidSource

/-- `XID_REPORT_TWIN_WINDOW`, in seconds. -/
def xidReportTwinWindow : Time := 120

/-- `report_twins`: a kernel line and a DCGM change of one occurrence. -/
def reportTwins (left right : XidEvent) : Bool :=
  (isKernelLine left && isXidGauge right || isXidGauge left && isKernelLine right) && left.eventId != right.eventId &&
    left.clusterId == right.clusterId && left.nodeId == right.nodeId && left.xid == right.xid && !left.synthetic &&
    !right.synthetic && sameGpu left right && sameBoot left right &&
    decide (timeApart left right ≤ xidReportTwinWindow)

/-- Whether a report carries what the decoders read. -/
def hasEvidence (item : XidEvent) : Bool :=
  !item.registers.isEmpty || item.xid154Action.isSome || (item.intrInfo.isSome && item.errorStatus.isSome)

/-- The order in which twins are preferred: with evidence, then the nearest. -/
def twinKey (event item : XidEvent) : Bool ×ₗ Time ×ₗ String :=
  toLex (!hasEvidence item, toLex (timeApart item event, item.eventId))

/-- `report_twin`. -/
def reportTwin (event : XidEvent) (candidates : List XidEvent) (paired : List String) : Option XidEvent :=
  (candidates.filter fun item => !paired.contains item.eventId && reportTwins event item).argmin (twinKey event)

/-- What is known of the events around the one that is resolved. `pairedReportIds` is `none` in a storm of reports. -/
structure XidCorrelation where
  companionEvents : List XidEvent
  xid45WindowClosed : Bool := true
  xid154WindowClosed : Bool := true
  pairedReportIds : Option (List String) := some []
  reportTwinWindowClosed : Bool := true

/-- `KERNEL_DECODED_ACTIONS`. -/
def kernelDecodedActions : List String := ["XID_154", "WORKFLOW_NVLINK_ERR", "WORKFLOW_NVLINK5_ERR"]

/-! ### Severity -/

/-- `RECOVERY_ACTION_SEVERITY_RANK`; an action outside the table ranks 0. -/
def actionSeverityRank : RecoveryAction → Nat
  | .noAction => 0
  | .collectEvidence => 1
  | .runDiagnostics => 2
  | .validateNode => 2
  | .restartWorkload => 3
  | .markUnschedulable => 4
  | .drain => 5
  | .stopWorkload => 5
  | .resetGpu => 6
  | .rebootNode => 7
  | .replaceNode => 8
  | .quarantine => 9
  | .escalateOperator => 9
  | _ => 0

/-- `CONTAINMENT_SEVERITY_RANK`. -/
def containmentSeverityRank : Containment → Nat
  | .application => 0
  | .gpu => 1
  | .allApplications => 2
  | .fabricPartition => 3
  | .node => 4
  | .unknown => 5

/-- `_severity_rank`. -/
def severityRank (resolution : Resolution) : Nat ×ₗ Nat :=
  let actionRank := match resolution.action with
    | none => if resolution.requiresOperator then 9 else 0
    | some action => actionSeverityRank action
  toLex (actionRank, containmentSeverityRank resolution.containment)

/-! ### Workflows -/

/-- Selection of XID 154 evidence goes by time alone: among the latest, the first of the list. -/
def findXid154Event (policy : XidPolicy) (event : XidEvent) (candidates : List XidEvent) : Option XidEvent :=
  ((findRelated policy event (· == 154) candidates).filter fun item => item.xid154Action.isSome).argmax
    XidEvent.observedAt

/-- The companion of an XID 154 goes by time alone, too. -/
def findXid154Companion (policy : XidPolicy) (event : XidEvent) (candidates : List XidEvent) : Option XidEvent :=
  (findRelated policy event (· != 154) candidates).argmax XidEvent.observedAt

/-- `_workflow_xid_154`. -/
def workflowXid154 (policy : XidPolicy) (event : XidEvent) (rule : CatalogRule) (correlation : XidCorrelation) :
    Resolution :=
  match event.xid154Action with
  | none =>
    { source := .nvidiaCatalog
      disposition := .blockedMissingEvidence
      officialAction := some "XID_154"
      investigatoryAction := rule.investigatoryAction
      containment := xidContainment event.xid
      requiresOperator := true }
  | some action =>
    let companion := (findXid154Companion policy event correlation.companionEvents).map XidEvent.eventId
    if !correlation.xid154WindowClosed then
      { source := .nvidiaXid154
        disposition := .pendingCorrelation
        officialAction := some action.value
        investigatoryAction := rule.investigatoryAction
        containment := xidContainment event.xid
        correlatedEventId := companion }
    else dynamicRecoveryResolution action rule companion event.workloadState

/-- `_with_xid_48_backlink`. -/
def withXid48Backlink (policy : XidPolicy) (event : XidEvent) (resolution : Resolution) (candidates : List XidEvent) :
    Resolution :=
  if event.xid ≠ 64 ∨ (present resolution.correlatedEventId).isSome then resolution
  else
    let earlier := (findRelated policy event (· == 48) candidates).filter fun item =>
      decide (eventKey item < eventKey event)
    match earlier.argmax eventKey with
    | none => resolution
    | some companion => { resolution with correlatedEventId := some companion.eventId }

/-- `_workflow_nvlink5`. -/
def workflowNvlink5 (policy : XidPolicy) (event : XidEvent) (rule : CatalogRule) (correlation : XidCorrelation) :
    Resolution :=
  let blocked (decoded : Option Nat) : Resolution :=
    { source := .nvidiaCatalog
      disposition := .blockedMissingEvidence
      officialAction := some "WORKFLOW_NVLINK5_ERR"
      investigatoryAction := rule.investigatoryAction
      containment := .unknown
      decodedSubcode := decoded
      requiresOperator := true }
  match event.driverBranch, event.intrInfo, event.errorStatus with
  | some branch, some intrInfo, some errorStatus =>
    let found := nvlink5Matches policy event branch intrInfo errorStatus
    if found.isEmpty then blocked (subcode policy event)
    else
      let xid154Action := event.xid154Action.orElse fun _ =>
        (findXid154Event policy event correlation.companionEvents).bind XidEvent.xid154Action
      nvlink5Resolution policy event rule found xid154Action correlation.xid154WindowClosed
  | _, _, _ => blocked none

section Resolve

variable (policy : XidPolicy)

/-- The resolution of an event, with or without following its twin. -/
abbrev Resolver := Bool → XidEvent → XidCorrelation → Option Resolution

variable (resolve : Resolver)

def resolvedCompanions (companions candidates : List XidEvent) : Option (List (XidEvent × Resolution)) :=
  companions.mapM fun item =>
    (resolve true item { companionEvents := candidates }).map fun resolution => (item, resolution)

/-- `_find_companion`: the most severe one, then the latest. -/
def mostSevere (resolved : List (XidEvent × Resolution)) : Option (XidEvent × Resolution) :=
  resolved.argmax fun entry => (toLex (severityRank entry.2, eventKey entry.1) : (Nat ×ₗ Nat) ×ₗ (Time ×ₗ String))

/-- `_workflow_xid_45`. -/
def workflowXid45 (event : XidEvent) (rule : CatalogRule) (correlation : XidCorrelation) : Option Resolution :=
  if !correlation.xid45WindowClosed then
    some
      { source := .nvidiaCatalog
        disposition := .pendingCorrelation
        officialAction := some "WORKFLOW_XID_45"
        investigatoryAction := rule.investigatoryAction
        containment := .application }
  else
    let related := findRelated policy event (· != 45) correlation.companionEvents
    (resolvedCompanions resolve related correlation.companionEvents).map fun resolved =>
      match mostSevere resolved with
      | some (companion, resolution) => { resolution with correlatedEventId := some companion.eventId }
      | none =>
        { source := .nvidiaCatalog
          disposition := .executable
          officialAction := some "RESTART_FM"
          investigatoryAction := rule.investigatoryAction
          containment := .application }

/-- `_reset_equivalent_companion`: a companion that resets the GPU itself, the latest. -/
def resetEquivalent (resolved : List (XidEvent × Resolution)) : Option String :=
  let eligible := resolved.filter fun entry =>
    decide (actionSeverityRank .resetGpu ≤ (entry.2.action.map actionSeverityRank).getD 0)
  (eligible.argmax fun entry => eventKey entry.1).map fun entry => entry.1.eventId

/-- `_workflow_xid_48`. -/
def workflowXid48 (event : XidEvent) (rule : CatalogRule) (correlation : XidCorrelation) : Option Resolution :=
  let companions := findRelated policy event (fun xid => xid == 63 || xid == 64) correlation.companionEvents
  if companions.isEmpty then
    some
      { source := .nvidiaCatalog
        disposition := .executable
        officialAction := some "RESET_GPU"
        investigatoryAction := rule.investigatoryAction
        action := some .resetGpu
        containment := .gpu }
  else
    (resolvedCompanions resolve companions correlation.companionEvents).map fun resolved =>
      { source := .nvidiaCatalog
        disposition := .executable
        officialAction := some "DRAIN_AND_RESET"
        investigatoryAction := rule.investigatoryAction
        action := some .resetGpu
        containment := .gpu
        preActions := [.markUnschedulable]
        correlatedEventId := resetEquivalent resolved }

/-- The XID 154 action that an event carries and that overrides its own; the XID 154 event itself is not
overridden. -/
def ownAction (event : XidEvent) (rule : CatalogRule) : Option DynamicRecoveryAction :=
  if rule.immediateAction = some "XID_154" then none else event.xid154Action

/-- The Immediate Action of the catalog: a direct one, or a workflow of `_XID_WORKFLOW_RESOLVERS`. -/
def resolveByAction (event : XidEvent) (rule : CatalogRule) (correlation : XidCorrelation) : Option Resolution :=
  match rule.immediateAction with
  | none =>
    some
      { source := .nvidiaCatalog
        disposition := .monitorOnly
        officialAction := none
        investigatoryAction := rule.investigatoryAction
        action := some .noAction
        containment := xidContainment event.xid }
  | some official =>
    match directAction official with
    | some action =>
      some (withXid48Backlink policy event
        (directResolution official action rule .nvidiaCatalog (some event.workloadState)) correlation.companionEvents)
    | none =>
      if official = "XID_154" then some (workflowXid154 policy event rule correlation)
      else if official = "WORKFLOW_XID_45" then workflowXid45 policy resolve event rule correlation
      else if official = "WORKFLOW_XID_48" then workflowXid48 policy resolve event rule correlation
      else if official = "WORKFLOW_NVLINK_ERR" then
        some (resolveNvlink74 event rule (event.product.bind policy.family))
      else if official = "WORKFLOW_NVLINK5_ERR" then some (workflowNvlink5 policy event rule correlation)
      else if official = "CHECK_UVM" then some (workflowCheckUvm event rule)
      else if ["CONTACT_SUPPORT", "CHECK_MECHANICALS", "UPDATE_SWFW"].contains official then
        some (workflowOperatorReview event rule)
      else
        some
          { source := .nvidiaCatalog
            disposition := .blockedWorkflow
            officialAction := some official
            investigatoryAction := rule.investigatoryAction
            containment := xidContainment event.xid
            requiresOperator := true }

/-- `_resolve_xid` after the twin: the guards in their order, then the action of the catalog. -/
def resolveByCatalog (event : XidEvent) (correlation : XidCorrelation) : Option Resolution :=
  match policy.rule event.xid with
  | none =>
    some
      { source := .siteSafety
        disposition := .siteSafety
        officialAction := none
        containment := .unknown
        requiresOperator := true }
  | some rule =>
    match productGate policy event rule with
    | some blocked => some blocked
    | none =>
      match ownAction event rule with
      | some action => some (dynamicRecoveryResolution action rule none event.workloadState)
      | none => resolveByAction policy resolve event rule correlation

/-- A change without a twin waits for the kernel line that its decode reads. -/
def waitsForLine (event : XidEvent) (correlation : XidCorrelation) : Option Resolution :=
  if !isXidGauge event || correlation.pairedReportIds.isNone || correlation.reportTwinWindowClosed then none
  else
    (policy.rule event.xid).bind fun rule =>
      if rule.immediateAction.any kernelDecodedActions.contains && (productGate policy event rule).isNone then
        some
          { source := .nvidiaCatalog
            disposition := .pendingCorrelation
            officialAction := rule.immediateAction
            investigatoryAction := rule.investigatoryAction
            containment := .unknown }
      else none

def followedTwin (event : XidEvent) (correlation : XidCorrelation) : Option XidEvent :=
  if isXidGauge event then correlation.pairedReportIds.bind fun paired =>
    reportTwin event correlation.companionEvents paired
  else none

/-- What the resolution of a followed twin is told: the events and the windows. -/
def XidCorrelation.forTwin (correlation : XidCorrelation) : XidCorrelation :=
  { companionEvents := correlation.companionEvents
    xid45WindowClosed := correlation.xid45WindowClosed
    xid154WindowClosed := correlation.xid154WindowClosed }

/-- One level of `_resolve_xid`: `follow_report_twin`, then the catalog. -/
def resolveStep (followTwin : Bool) (event : XidEvent) (correlation : XidCorrelation) : Option Resolution :=
  match if followTwin then followedTwin event correlation else none with
  | some twin =>
    (resolve false twin correlation.forTwin).map fun resolution =>
      { resolution with correlatedEventId := some twin.eventId }
  | none =>
    match if followTwin then waitsForLine policy event correlation else none with
    | some waiting => some waiting
    | none => resolveByCatalog policy resolve event correlation

end Resolve

/-- `_resolve_xid`, to a recursion depth. -/
def resolveXid (policy : XidPolicy) : Nat → Resolver
  | 0 => fun _ _ _ => none
  | fuel + 1 => resolveStep policy (resolveXid policy fuel)

/-! ### What a resolution reads -/

/-- The Immediate Action that decides an event: none outside the catalog, behind the product gate, or where an XID 154
action of the event's own decides. -/
def workflowOf (policy : XidPolicy) (event : XidEvent) : Option String :=
  (policy.rule event.xid).bind fun rule =>
    if (productGate policy event rule).isSome || (ownAction event rule).isSome then none else rule.immediateAction

/-- The companions whose own resolutions an event consults. -/
def consulted (policy : XidPolicy) (event : XidEvent) (correlation : XidCorrelation) : List XidEvent :=
  if workflowOf policy event = some "WORKFLOW_XID_45" then
    if correlation.xid45WindowClosed then findRelated policy event (· != 45) correlation.companionEvents else []
  else if workflowOf policy event = some "WORKFLOW_XID_48" then
    findRelated policy event (fun xid => xid == 63 || xid == 64) correlation.companionEvents
  else []

section Inversion

variable (policy : XidPolicy) (event : XidEvent)

private theorem productGate_link {rule : CatalogRule} {blocked : Resolution}
    (h : productGate policy event rule = some blocked) :
    blocked.correlatedEventId = none := by
  unfold productGate at h
  split at h
  · cases h
  · cases h
    rfl

theorem dynamicRecoveryResolution_link (action : DynamicRecoveryAction) (rule : CatalogRule) (link : Option String)
    (state : WorkloadState) : (dynamicRecoveryResolution action rule link state).correlatedEventId = link := by
  cases action <;> rfl

private theorem resolveNvlink74_link (rule : CatalogRule) (family : Option String) :
    (resolveNvlink74 event rule family).correlatedEventId = none := by
  unfold resolveNvlink74
  dsimp only
  repeat' split
  all_goals first | rfl | (unfold sameLinkVerdict; dsimp only; repeat' split) <;> rfl

private theorem workflowCheckUvm_link (rule : CatalogRule) :
    (workflowCheckUvm event rule).correlatedEventId = none := by
  unfold workflowCheckUvm
  split <;> rfl

theorem directResolution_link (official : String) (action : RecoveryAction) (rule : CatalogRule)
    (source : ActionSource) (state : Option WorkloadState) :
    (directResolution official action rule source state).correlatedEventId = none := rfl

theorem workflowNvlink5_link (rule : CatalogRule) (correlation : XidCorrelation) :
    (workflowNvlink5 policy event rule correlation).correlatedEventId = none := by
  unfold workflowNvlink5
  dsimp only
  split
  · split
    · rfl
    · unfold nvlink5Resolution
      dsimp only
      repeat' split
      all_goals first | rfl | exact dynamicRecoveryResolution_link _ rule none event.workloadState
  · rfl

/-- The catalog decides an event by itself, or by one of the actions that look at other events. -/
theorem resolveByCatalog_cases :
    (∃ resolution, resolution.correlatedEventId = none ∧
      ∀ resolve correlation, resolveByCatalog policy resolve event correlation = some resolution) ∨
    ∃ rule official, policy.rule event.xid = some rule ∧ workflowOf policy event = some official ∧
      ((∃ action, directAction official = some action ∧ ∀ resolve correlation,
          resolveByCatalog policy resolve event correlation =
            some (withXid48Backlink policy event
              (directResolution official action rule .nvidiaCatalog (some event.workloadState))
              correlation.companionEvents)) ∨
        (official = "XID_154" ∧ ∀ resolve correlation,
          resolveByCatalog policy resolve event correlation = some (workflowXid154 policy event rule correlation)) ∨
        (official = "WORKFLOW_XID_45" ∧ ∀ resolve correlation,
          resolveByCatalog policy resolve event correlation = workflowXid45 policy resolve event rule correlation) ∨
        (official = "WORKFLOW_XID_48" ∧ ∀ resolve correlation,
          resolveByCatalog policy resolve event correlation = workflowXid48 policy resolve event rule correlation) ∨
        (official = "WORKFLOW_NVLINK5_ERR" ∧ ∀ resolve correlation,
          resolveByCatalog policy resolve event correlation =
            some (workflowNvlink5 policy event rule correlation))) := by
  cases hrule : policy.rule event.xid with
  | none =>
    refine .inl ⟨_, ?_, fun resolve correlation => by simp only [resolveByCatalog, hrule]; rfl⟩
    rfl
  | some rule =>
    cases hgate : productGate policy event rule with
    | some blocked =>
      refine .inl ⟨blocked, ?_, fun resolve correlation => by simp only [resolveByCatalog, hrule, hgate]⟩
      exact productGate_link policy event hgate
    | none =>
      cases hown : ownAction event rule with
      | some action =>
        refine .inl ⟨dynamicRecoveryResolution action rule none event.workloadState, ?_, ?_⟩
        · exact dynamicRecoveryResolution_link action rule none event.workloadState
        · intro resolve correlation
          simp only [resolveByCatalog, hrule, hgate, hown]
      | none =>
        have hpast : ∀ resolve correlation, resolveByCatalog policy resolve event correlation =
            resolveByAction policy resolve event rule correlation := by
          intro resolve correlation
          simp only [resolveByCatalog, hrule, hgate, hown]
        have hworkflow : workflowOf policy event = rule.immediateAction := by
          simp [workflowOf, hrule, hgate, hown]
        simp only [hpast, hworkflow]
        cases hofficial : rule.immediateAction with
        | none =>
          refine .inl ⟨_, ?_, fun resolve correlation => by simp only [resolveByAction, hofficial]; rfl⟩
          rfl
        | some official =>
          cases hdirect : directAction official with
          | some action =>
            refine .inr ⟨rule, official, rfl, rfl, .inl ⟨action, hdirect, ?_⟩⟩
            intro resolve correlation
            simp only [resolveByAction, hofficial, hdirect]
          | none =>
            simp only [resolveByAction, hofficial, hdirect]
            by_cases h154 : official = "XID_154"
            · exact .inr ⟨rule, official, rfl, rfl, .inr (.inl ⟨h154, by simp [h154]⟩)⟩
            by_cases h45 : official = "WORKFLOW_XID_45"
            · exact .inr ⟨rule, official, rfl, rfl, .inr (.inr (.inl ⟨h45, by simp [h45]⟩))⟩
            by_cases h48 : official = "WORKFLOW_XID_48"
            · exact .inr ⟨rule, official, rfl, rfl, .inr (.inr (.inr (.inl ⟨h48, by simp [h48]⟩)))⟩
            by_cases h5 : official = "WORKFLOW_NVLINK5_ERR"
            · exact .inr ⟨rule, official, rfl, rfl, .inr (.inr (.inr (.inr ⟨h5, by simp [h5]⟩)))⟩
            -- the other workflows look at the event alone
            simp only [h154, h45, h48, h5, if_false]
            left
            repeat' split
            · exact ⟨_, resolveNvlink74_link event rule _, fun _ _ => rfl⟩
            · exact ⟨_, workflowCheckUvm_link event rule, fun _ _ => rfl⟩
            · exact ⟨_, rfl, fun _ _ => rfl⟩
            · exact ⟨_, rfl, fun _ _ => rfl⟩

variable {policy event}

/-- An event with a workflow is past the guards, and its rule names the workflow. -/
theorem rule_of_workflowOf {official : String} (h : workflowOf policy event = some official) :
    ∃ rule, policy.rule event.xid = some rule ∧ rule.immediateAction = some official ∧ ownAction event rule = none ∧
      ∀ resolve correlation, resolveByCatalog policy resolve event correlation =
        resolveByAction policy resolve event rule correlation := by
  unfold workflowOf at h
  obtain ⟨rule, hrule, h⟩ := Option.bind_eq_some_iff.1 h
  split at h
  · cases h
  case isFalse hpast =>
    simp only [Bool.or_eq_true, not_or, Bool.not_eq_true, Option.isSome_eq_false_iff, Option.isNone_iff_eq_none]
      at hpast
    refine ⟨rule, hrule, h, hpast.2, fun resolve correlation => ?_⟩
    simp only [resolveByCatalog, hrule, hpast.1, hpast.2]

/-! ### Twins -/

theorem not_kernelLine_of_gauge {event : XidEvent} (h : isXidGauge event = true) : ¬ isKernelLine event = true := by
  unfold isXidGauge at h
  unfold isKernelLine
  rw [beq_iff_eq.1 h]
  decide

theorem reportTwins_spec {a b : XidEvent} (h : reportTwins a b = true) :
    a.eventId ≠ b.eventId ∧ timeApart a b ≤ xidReportTwinWindow ∧ a.xid = b.xid ∧
      (isKernelLine a = true ∧ isXidGauge b = true ∨ isXidGauge a = true ∧ isKernelLine b = true) := by
  simp only [reportTwins, Bool.and_eq_true, Bool.or_eq_true, bne_iff_ne, beq_iff_eq, decide_eq_true_eq] at h
  exact ⟨h.1.1.1.1.1.1.1.1.2, h.2, h.1.1.1.1.1.2, h.1.1.1.1.1.1.1.1.1⟩

theorem ne_of_reportTwins {a b : XidEvent} (h : reportTwins a b = true) : b ≠ a :=
  fun heq => (reportTwins_spec h).1 (congrArg XidEvent.eventId heq).symm

/-- A followed line is a stored kernel line of the same XID, and its follower a change. -/
theorem followedTwin_spec {event twin : XidEvent} {correlation : XidCorrelation}
    (h : followedTwin event correlation = some twin) :
    isXidGauge event = true ∧ twin ∈ correlation.companionEvents ∧ reportTwins event twin = true := by
  unfold followedTwin at h
  split at h
  case isTrue hgauge =>
    obtain ⟨paired, _, hreport⟩ := Option.bind_eq_some_iff.1 h
    obtain ⟨hmem, hkeep⟩ := List.mem_filter.1 (List.argmin_mem hreport)
    exact ⟨hgauge, hmem, ((Bool.and_eq_true _ _).mp hkeep).2⟩
  case isFalse => cases h

theorem xid_of_followedTwin {event twin : XidEvent} {correlation : XidCorrelation}
    (h : followedTwin event correlation = some twin) : twin.xid = event.xid := by
  obtain ⟨_, _, htwins⟩ := followedTwin_spec h
  exact (reportTwins_spec htwins).2.2.1.symm

theorem fst_of_resolvedCompanions {resolve : Resolver} {companions candidates : List XidEvent} :
    ∀ {resolved}, resolvedCompanions resolve companions candidates = some resolved →
      resolved.map Prod.fst = companions := by
  induction companions with
  | nil =>
    intro resolved h
    cases h
    rfl
  | cons item companions ih =>
    intro resolved h
    unfold resolvedCompanions at h ih
    simp only [List.mapM_cons, Option.bind_eq_bind, Option.bind_eq_some_iff, Option.map_eq_some_iff, Option.pure_def,
      Option.some.injEq] at h
    obtain ⟨_, ⟨resolution, _, rfl⟩, rest, hrest, rfl⟩ := h
    rw [List.map_cons, ih hrest]

theorem xid_of_findRelated {xids : Nat → Bool} {candidates : List XidEvent} {item : XidEvent}
    (h : item ∈ findRelated policy event xids candidates) : xids item.xid = true := by
  have hkeep := (List.mem_filter.1 h).2
  simp only [Bool.and_eq_true] at hkeep
  exact hkeep.1.1.1.1.1.1

/-- What an XID 64 names. -/
theorem withXid48Backlink_link {resolution : Resolution} {candidates : List XidEvent} {id : String}
    (hnone : resolution.correlatedEventId = none)
    (h : (withXid48Backlink policy event resolution candidates).correlatedEventId = some id) :
    event.xid = 64 ∧ ∃ item ∈ findRelated policy event (· == 48) candidates, item.eventId = id := by
  unfold withXid48Backlink at h
  split at h
  · rw [hnone] at h
    cases h
  case isFalse hxid =>
    dsimp only at h
    split at h
    · rw [hnone] at h
      cases h
    case h_2 companion hcompanion =>
      simp only [ne_eq, not_or, not_not] at hxid
      exact ⟨hxid.1, companion, (List.mem_filter.1 (List.argmax_mem hcompanion)).1, Option.some.inj h⟩

/-- What an XID 154 names. -/
theorem workflowXid154_link {rule : CatalogRule} {correlation : XidCorrelation} {id : String}
    (h : (workflowXid154 policy event rule correlation).correlatedEventId = some id) :
    ∃ item ∈ findRelated policy event (· != 154) correlation.companionEvents, item.eventId = id := by
  unfold workflowXid154 at h
  split at h
  · cases h
  · have hlink : (findXid154Companion policy event correlation.companionEvents).map XidEvent.eventId = some id := by
      dsimp only at h
      split at h
      · exact h
      · rwa [dynamicRecoveryResolution_link] at h
    obtain ⟨item, hitem, hid⟩ := Option.map_eq_some_iff.1 hlink
    exact ⟨item, List.argmax_mem hitem, hid⟩

/-- What an XID 45 names. -/
theorem workflowXid45_link {resolve : Resolver} {rule : CatalogRule} {correlation : XidCorrelation}
    {resolution : Resolution} {id : String}
    (h : workflowXid45 policy resolve event rule correlation = some resolution)
    (hid : resolution.correlatedEventId = some id) :
    ∃ item ∈ findRelated policy event (· != 45) correlation.companionEvents, item.eventId = id := by
  unfold workflowXid45 at h
  split at h
  · cases h
    cases hid
  · obtain ⟨resolved, hresolved, hlast⟩ := Option.map_eq_some_iff.1 h
    split at hlast
    case h_1 companion own hsevere =>
      cases hlast
      have hmem : companion ∈ resolved.map Prod.fst := List.mem_map_of_mem (List.argmax_mem hsevere)
      rw [fst_of_resolvedCompanions hresolved] at hmem
      exact ⟨companion, hmem, Option.some.inj hid⟩
    case h_2 =>
      cases hlast
      cases hid

/-- What an XID 48 names. -/
theorem workflowXid48_link {resolve : Resolver} {rule : CatalogRule} {correlation : XidCorrelation}
    {resolution : Resolution} {id : String}
    (h : workflowXid48 policy resolve event rule correlation = some resolution)
    (hid : resolution.correlatedEventId = some id) :
    ∃ item ∈ findRelated policy event (fun xid => xid == 63 || xid == 64) correlation.companionEvents,
      item.eventId = id := by
  unfold workflowXid48 at h
  dsimp only at h
  split at h
  · cases h
    cases hid
  · obtain ⟨resolved, hresolved, hlast⟩ := Option.map_eq_some_iff.1 h
    cases hlast
    obtain ⟨entry, hentry, heq⟩ := Option.map_eq_some_iff.1 hid
    have hmem : entry.1 ∈ resolved.map Prod.fst :=
      List.mem_map_of_mem (List.mem_filter.1 (List.argmax_mem hentry)).1
    rw [fst_of_resolvedCompanions hresolved] at hmem
    exact ⟨entry.1, hmem, heq⟩

end Inversion

end Policy

end GpuFaultRecovery
