import GpuFaultRecovery.IsolatedPlan
import GpuFaultRecovery.PythonText

/-!
# XID events and the pinned catalog

What the policy reads of an event, the rules of the catalog, and the parts of a resolution that look at one event
alone: the identity of a GPU, the product gate, the decode of the NVLink registers and the direct actions.
-/

namespace GpuFaultRecovery

namespace Policy

/-! ### Events, rules and resolutions -/

inductive DynamicRecoveryAction where
  | ignore
  | drainP2p
  | drainAndReset
  | restartApp
  | resetGpu
  | restartBm
deriving Repr, DecidableEq

def DynamicRecoveryAction.value : DynamicRecoveryAction → String
  | .ignore => "IGNORE"
  | .drainP2p => "DRAIN_P2P"
  | .drainAndReset => "DRAIN_AND_RESET"
  | .restartApp => "RESTART_APP"
  | .resetGpu => "RESET_GPU"
  | .restartBm => "RESTART_BM"

inductive Containment where
  | application
  | allApplications
  | gpu
  | fabricPartition
  | node
  | unknown
deriving Repr, DecidableEq

inductive ActionSource where
  | nvidiaCatalog
  | nvidiaXid154
  | nvidiaFabricManager
  | siteSafety
deriving Repr, DecidableEq

inductive ActionDisposition where
  | pendingCorrelation
  | executable
  | monitorOnly
  | blockedWorkflow
  | blockedMissingEvidence
  | notApplicable
  | siteSafety
deriving Repr, DecidableEq

/-- What the policy reads of an XID event. -/
structure XidEvent where
  eventId : String
  clusterId : String := "c"
  nodeId : String := "n"
  observedAt : Time := 0
  sourceBootId : Option String := none
  eventSource : Option String := none
  xid : Nat
  gpuUuid : Option String := none
  pciBdf : Option String := none
  product : Option String := none
  driverBranch : Option Nat := none
  workloadState : WorkloadState := .unknown
  intrInfo : Option Nat := none
  errorStatus : Option Nat := none
  registers : List Nat := []
  nvlinkLinkId : Option Nat := none
  nvlinkOccurrenceCounts : List (String × Nat) := []
  xid154Action : Option DynamicRecoveryAction := none
  uvmInUse : Option Bool := none
  synthetic : Bool := false
deriving Repr, DecidableEq

structure CatalogRule where
  xid : Nat
  products : List String := []
  immediateAction : Option String
  investigatoryAction : Option String := none
deriving Repr, DecidableEq

/-- Whether a pattern has 32 bits, each of them binary or a wildcard. -/
def decodePatternValid (text : String) : Bool :=
  text.toList.length == 32 && text.toList.all fun c => c == '0' || c == '1' || c == '-'

/-- A line of the NVLink 5 decode table; its error status is the list of values it names. -/
structure NvlinkDecodeRule where
  xid : Nat
  subcodeName : String
  v1Pattern : String
  v2Pattern : String
  errorStatus : Option (List Nat)
  recoveryAction : String
  action2V1Pattern : Option String := none
  action2V2Pattern : Option String := none
  action2 : Option String := none
  investigatoryAction : Option String := none
  /-- `validate_decode_patterns`. -/
  patterns_valid : (v1Pattern :: v2Pattern :: (action2V1Pattern.toList ++ action2V2Pattern.toList)).all
    decodePatternValid = true
deriving Repr, DecidableEq

/-- The pinned catalog. `family` is the product family whose model prefix a product name carries. -/
structure XidPolicy where
  companionWindow : Time
  catalogRules : List CatalogRule
  driverBoundary : Nat := 0
  decodeRules : List NvlinkDecodeRule := []
  family : String → Option String := fun _ => none

/-- A resolution, without the texts of its reasons. -/
structure Resolution where
  source : ActionSource
  disposition : ActionDisposition
  officialAction : Option String
  investigatoryAction : Option String := none
  action : Option RecoveryAction := none
  containment : Containment
  preActions : List RecoveryAction := []
  decodedSubcode : Option Nat := none
  matchedDecodeRules : List String := []
  requiresOperator : Bool := false
  correlatedEventId : Option String := none
deriving Repr, DecidableEq

def XidPolicy.rule (policy : XidPolicy) (xid : Nat) : Option CatalogRule :=
  policy.catalogRules.find? fun rule => rule.xid == xid

/-! ### The identity of a GPU -/

/-- A PCI address; an absent domain or function matches any. -/
structure PciAddress where
  domain : Option Nat
  bus : Nat
  device : Nat
  function : Option Nat
deriving Repr, DecidableEq

def hexDigit (c : Char) : Option Nat :=
  let n := c.toNat
  if 48 ≤ n ∧ n ≤ 57 then some (n - 48) else if 97 ≤ n ∧ n ≤ 102 then some (n - 87) else none

def hexValue (digits : List Char) : Option Nat :=
  (digits.mapM hexDigit).map fun values => values.foldl (fun n d => 16 * n + d) 0

/-- `device[.function]`. -/
def pciDevice (text : List Char) : Option (Nat × Option Nat) :=
  match text with
  | [a, b] => (hexValue [a, b]).map fun device => (device, none)
  | [a, b, dot, f] =>
    if dot = '.' ∧ 48 ≤ f.toNat ∧ f.toNat ≤ 55 then
      (hexValue [a, b]).map fun device => (device, some (f.toNat - 48))
    else none
  | _ => none

/-- `[domain:]bus:device[.function]`, in any case. -/
def pciAddress (text : String) : Option PciAddress :=
  let parts := (PythonText.strip (text.toList.map Char.toLower)).splitOn ':'
  let read (domain : Option Nat) (bus device : List Char) : Option PciAddress :=
    if bus.length = 2 then
      (hexValue bus).bind fun bus => (pciDevice device).map fun entry => ⟨domain, bus, entry.1, entry.2⟩
    else none
  match parts with
  | [bus, device] => read none bus device
  | [domain, bus, device] =>
    if domain.length = 4 ∨ domain.length = 8 then (hexValue domain).bind fun domain => read (some domain) bus device
    else none
  | _ => none

/-- Parts that both sides carry are equal. -/
def agree (left right : Option Nat) : Bool :=
  match left, right with
  | some a, some b => a == b
  | _, _ => true

def pciBdfMatches (left right : String) : Bool :=
  match pciAddress left, pciAddress right with
  | some a, some b =>
    agree a.domain b.domain && a.bus == b.bus && a.device == b.device && agree a.function b.function
  | _, _ => false

def samePciDevice (left right : String) : Bool := left == right || pciBdfMatches left right

/-- A value the source reads as absent: none, or an empty text. -/
def present (value : Option String) : Option String := value.filter fun text => text != ""

theorem eq_some_of_present {value : Option String} {text : String} (h : present value = some text) :
    value = some text := by
  unfold present at h
  exact (Option.filter_eq_some_iff.1 h).1

/-- `same_gpu`: the UUID decides when both carry one, else the PCI device. -/
def sameGpu (left right : XidEvent) : Bool :=
  match present left.gpuUuid, present right.gpuUuid with
  | some a, some b => a == b
  | _, _ =>
    match present left.pciBdf, present right.pciBdf with
    | some a, some b =>
      samePciDevice (String.ofList (a.toList.map Char.toLower)) (String.ofList (b.toList.map Char.toLower))
    | _, _ => false

def sameBoot (left right : XidEvent) : Bool :=
  match present left.sourceBootId, present right.sourceBootId with
  | some a, some b => a == b
  | _, _ => true

section Identity

variable {left right : XidEvent}

private theorem agree_comm (a b : Option Nat) : agree a b = agree b a := by
  cases a <;> cases b <;> simp [agree, eq_comm]

private theorem samePciDevice_comm (a b : String) : samePciDevice a b = samePciDevice b a := by
  unfold samePciDevice pciBdfMatches
  rw [BEq.comm]
  congr 1
  cases pciAddress a with
  | none => cases pciAddress b <;> rfl
  | some x =>
    cases pciAddress b with
    | none => rfl
    | some y =>
      dsimp only
      rw [agree_comm x.domain, agree_comm x.function, @BEq.comm _ _ _ x.bus, @BEq.comm _ _ _ x.device]

theorem sameGpu_comm (left right : XidEvent) : sameGpu left right = sameGpu right left := by
  unfold sameGpu
  cases present left.gpuUuid <;> cases present right.gpuUuid <;> cases present left.pciBdf <;>
    cases present right.pciBdf <;> simp [samePciDevice_comm, eq_comm]

theorem sameBoot_comm (left right : XidEvent) : sameBoot left right = sameBoot right left := by
  unfold sameBoot
  cases present left.sourceBootId <;> cases present right.sourceBootId <;> simp [eq_comm]

end Identity

/-! ### The product gate -/

def normalizedName (name : String) : String := String.ofList ((PythonText.strip name.toList).map Char.toUpper)

/-- `catalog_supports_product`. -/
def catalogSupportsProduct (policy : XidPolicy) (product : Option String) (supportedProducts : List String) : Bool :=
  let normalized := normalizedName (product.getD "")
  let supported := supportedProducts.map normalizedName
  normalized != "" && !supported.isEmpty &&
    (supported.contains normalized || (policy.family normalized).any supported.contains)

/-- `_product_gate`. -/
def productGate (policy : XidPolicy) (event : XidEvent) (rule : CatalogRule) : Option Resolution :=
  if catalogSupportsProduct policy event.product rule.products then none
  else
    some
      { source := .nvidiaCatalog
        disposition := .notApplicable
        officialAction := rule.immediateAction
        investigatoryAction := rule.investigatoryAction
        containment := .unknown
        requiresOperator := true }

/-! ### Direct and dynamic actions -/

def xidContainment (xid : Nat) : Containment :=
  if xid = 94 then .application else if xid = 95 then .allApplications else .gpu

/-- `DIRECT_ACTION_MAP`. -/
def directAction (official : String) : Option RecoveryAction :=
  [("IGNORE", RecoveryAction.noAction), ("RESTART_APP", .restartWorkload), ("RESET_GPU", .resetGpu),
    ("RESTART_BM", .rebootNode)].lookup official

/-- `_direct_resolution`, for an action of the map. An idle node runs no application to restart. -/
def directResolution (official : String) (action : RecoveryAction) (rule : CatalogRule) (source : ActionSource)
    (workloadState : Option WorkloadState) : Resolution :=
  let action := if official = "RESTART_APP" ∧ workloadState = some .idle then .noAction else action
  { source
    disposition := if action = .noAction then .monitorOnly else .executable
    officialAction := some official
    investigatoryAction := rule.investigatoryAction
    action := some action
    containment := xidContainment rule.xid
    preActions := if rule.xid = 95 then [.markUnschedulable, .stopWorkload] else [] }

/-- `_dynamic_recovery_resolution`. -/
def dynamicRecoveryResolution (action : DynamicRecoveryAction) (rule : CatalogRule)
    (correlatedEventId : Option String) (workloadState : WorkloadState) : Resolution :=
  let mapped (value : DynamicRecoveryAction) (direct : RecoveryAction) : Resolution :=
    { directResolution value.value direct rule .nvidiaXid154 (some workloadState) with
      officialAction := some action.value
      correlatedEventId }
  match action with
  | .drainP2p =>
    { source := .nvidiaXid154
      disposition := .executable
      officialAction := some action.value
      investigatoryAction := rule.investigatoryAction
      action := some .stopWorkload
      containment := .allApplications
      preActions := [.markUnschedulable, .stopWorkload]
      correlatedEventId }
  | .drainAndReset =>
    { mapped .resetGpu .resetGpu with
      preActions := [.markUnschedulable, .stopWorkload] }
  | .ignore => mapped .ignore .noAction
  | .restartApp => mapped .restartApp .restartWorkload
  | .resetGpu => mapped .resetGpu .resetGpu
  | .restartBm => mapped .restartBm .rebootNode

/-- `_workflow_operator_review`. -/
def workflowOperatorReview (event : XidEvent) (rule : CatalogRule) : Resolution :=
  { source := .nvidiaCatalog
    disposition := .executable
    officialAction := rule.immediateAction
    investigatoryAction := rule.investigatoryAction
    containment := xidContainment event.xid
    requiresOperator := rule.immediateAction = some "CONTACT_SUPPORT" ∨
      rule.immediateAction = some "CHECK_MECHANICALS" }

/-- `_workflow_check_uvm`. -/
def workflowCheckUvm (event : XidEvent) (rule : CatalogRule) : Resolution :=
  match event.uvmInUse with
  | none =>
    { source := .nvidiaCatalog
      disposition := .blockedMissingEvidence
      officialAction := some "CHECK_UVM"
      investigatoryAction := rule.investigatoryAction
      containment := .gpu
      requiresOperator := true }
  | some true => directResolution "RESET_GPU" .resetGpu rule .nvidiaCatalog none
  | some false => directResolution "IGNORE" .noAction rule .nvidiaCatalog none

/-! ### The XID 74 registers -/

/-- `NVLINK74_REGISTER_RULES`. -/
def nvlink74RegisterRules (register : Nat) : List (Nvlink74Category × List Nat) :=
  match register with
  | 0 => [(.safeIgnore, [0, 23, 30]), (.secondary, [1, 20]), (.eccParity, [4, 5]),
      (.mechanicalOrHardware, [8, 9, 12, 16, 17, 24, 28]), (.marginalChannel, [21, 22]),
        (.reportIfRepeated, [27, 29])]
  | 2 => [(.eccParity, [0, 1, 2, 6]), (.unexpectedProduction, [13]), (.fieldDiagIfRepeated, [16, 19]),
      (.reportIfRepeated, [17, 18])]
  | 3 => [(.secondary, [16, 17]), (.fabricResetRequired, [18])]
  | 4 => [(.eccParity, [18, 19, 21, 22, 24, 25, 27, 28]), (.correctedThreshold, [20, 23, 26, 29])]
  | _ => []

def nvlink74Passive (category : Nvlink74Category) : Bool := category == .safeIgnore || category == .correctedThreshold

def nvlink74LinkScoped (category : Nvlink74Category) : Bool :=
  [Nvlink74Category.eccParity, .mechanicalOrHardware, .reportIfRepeated, .fieldDiagIfRepeated,
    .marginalChannel].contains
    category

def nvlink74Support (category : Nvlink74Category) : Bool :=
  category == .unexpectedProduction || category == .marginalChannel

/-- `NVLINK74_OCCURRENCE_THRESHOLDS`. -/
def nvlink74Threshold (category : Nvlink74Category) : Option Nat :=
  match category with
  | .eccParity => some 3
  | .reportIfRepeated | .fieldDiagIfRepeated | .mechanicalOrHardware => some 2
  | _ => none

def Nvlink74Category.text : Nvlink74Category → String
  | .safeIgnore => "safe_ignore"
  | .secondary => "secondary"
  | .eccParity => "ecc_parity"
  | .mechanicalOrHardware => "mechanical_or_hardware"
  | .marginalChannel => "marginal_channel"
  | .reportIfRepeated => "report_if_repeated"
  | .unexpectedProduction => "unexpected_production"
  | .fieldDiagIfRepeated => "field_diag_if_repeated"
  | .fabricResetRequired => "fabric_reset_required"
  | .correctedThreshold => "corrected_threshold"

def populatedBits (registers : List Nat) : List (String × List Nvlink74Category) :=
  registers.zipIdx.flatMap fun entry =>
    ((List.range (max 32 (entry.1.log2 + 1))).filter entry.1.testBit).map fun bit =>
      ("register" ++ toString (entry.2 + 1) ++ ".bit" ++ toString bit,
        ((nvlink74RegisterRules entry.2).filter fun row => row.2.contains bit).map Prod.fst)

/-- `decode`: the classified bits, and whether some bit is in no category. -/
def decodeRegisters (registers : List Nat) : List DecodedBit × Bool :=
  ((populatedBits registers).flatMap fun bit => bit.2.map fun category => { label := bit.1, category },
    (populatedBits registers).any fun bit => bit.2.isEmpty)

section Nvlink74

variable (found : List DecodedBit)

def ruleIds : List String := found.map fun bit => bit.label ++ ":" ++ Nvlink74Category.text bit.category

def nvlinkEscalation (containment : Containment) : Resolution :=
  { source := .nvidiaCatalog
    disposition := .executable
    officialAction := some "WORKFLOW_NVLINK_ERR"
    investigatoryAction := some "CONTACT_SUPPORT"
    action := some .escalateOperator
    containment
    matchedDecodeRules := ruleIds found
    requiresOperator := true }

def nvlinkReset (investigatoryAction : String) : Resolution :=
  { source := .nvidiaCatalog
    disposition := .executable
    officialAction := some "WORKFLOW_NVLINK_ERR"
    investigatoryAction := some investigatoryAction
    action := some .resetGpu
    containment := .gpu
    matchedDecodeRules := ruleIds found }

def nvlinkMonitoring (investigatoryAction : Option String) : Resolution :=
  { source := .nvidiaCatalog
    disposition := .monitorOnly
    officialAction := some "IGNORE"
    investigatoryAction
    action := some .noAction
    containment := .gpu
    matchedDecodeRules := ruleIds found }

def nvlinkEvidenceBlock (investigatoryAction : Option String) (action : Option RecoveryAction) : Resolution :=
  { source := .nvidiaCatalog
    disposition := .blockedMissingEvidence
    officialAction := some "WORKFLOW_NVLINK_ERR"
    investigatoryAction
    action
    containment := .gpu
    matchedDecodeRules := ruleIds found
    requiresOperator := true }

/-- `_same_link_verdict`. -/
def sameLinkVerdict (event : XidEvent) (rule : CatalogRule) : Resolution :=
  let count (bit : DecodedBit) : Nat := (event.nvlinkOccurrenceCounts.lookup bit.label).getD 0
  if found.any fun bit => (nvlink74Threshold bit.category).any fun threshold => threshold ≤ count bit then
    nvlinkReset found "CONTACT_SUPPORT_AFTER_REMEDIATION"
  else if found.any fun bit => bit.category == .mechanicalOrHardware then
    nvlinkReset found "CHECK_MECHANICALS_AFTER_REMEDIATION"
  else nvlinkMonitoring found rule.investigatoryAction

end Nvlink74

/-- `resolve_nvlink74`. -/
def resolveNvlink74 (event : XidEvent) (rule : CatalogRule) (family : Option String) : Resolution :=
  if event.registers.length ≠ 7 then nvlinkEvidenceBlock [] rule.investigatoryAction (some .stopWorkload)
  else if family ≠ some "H100" then nvlinkEscalation [] .gpu
  else
    let found := (decodeRegisters event.registers).1
    let has (p : Nvlink74Category → Bool) : Bool := found.any fun bit => p bit.category
    if (decodeRegisters event.registers).2 || found.isEmpty then nvlinkEscalation found .gpu
    else if !has fun category => !nvlink74Passive category then
      nvlinkMonitoring found (if has (· == .correctedThreshold) then some "OPTIONAL_FIELDDIAG" else none)
    else if has nvlink74LinkScoped && event.nvlinkLinkId.isNone then
      nvlinkEvidenceBlock found rule.investigatoryAction none
    else if has (· == .fabricResetRequired) then nvlinkEscalation found .fabricPartition
    else if has nvlink74Support then nvlinkEscalation found .gpu
    -- every active bit is secondary, and there is one
    else if !has fun category => !nvlink74Passive category && category != .secondary then nvlinkEscalation found .gpu
    else sameLinkVerdict found event rule

/-! ### The NVLink 5 decode table -/

/-- `_pattern_matches`. -/
def patternMatches (value : Nat) (pattern : String) : Bool :=
  pattern.toList.reverse.zipIdx.all fun entry => entry.1 == '-' || (value.testBit entry.2 == (entry.1 == '1'))

/-- `_subcode`. -/
def subcode (policy : XidPolicy) (event : XidEvent) : Option Nat :=
  event.intrInfo.bind fun intrInfo => event.driverBranch.map fun branch =>
    if branch < policy.driverBoundary then (intrInfo / 32) % 32 else intrInfo % 128

/-- The recovery actions of a line of the table, if the line matches. -/
def decodedActions (policy : XidPolicy) (event : XidEvent) (branch intrInfo errorStatus : Nat)
    (decode : NvlinkDecodeRule) :
    Option (List String) :=
  let isV1 := branch < policy.driverBoundary
  let action2Pattern := present (if isV1 then decode.action2V1Pattern else decode.action2V2Pattern)
  let secondary := if action2Pattern.any (patternMatches intrInfo) then present decode.action2 else none
  if decode.xid == event.xid &&
      (secondary.isSome || patternMatches intrInfo (if isV1 then decode.v1Pattern else decode.v2Pattern)) &&
      (decode.errorStatus.all fun values => values.contains errorStatus) then
    some (decode.recoveryAction :: secondary.toList)
  else none

/-- The lines of the table that match an event, with the recovery actions each gives. -/
def nvlink5Matches (policy : XidPolicy) (event : XidEvent) (branch intrInfo errorStatus : Nat) :
    List (NvlinkDecodeRule × List String) :=
  policy.decodeRules.filterMap fun decode =>
    (decodedActions policy event branch intrInfo errorStatus decode).map fun actions => (decode, actions)

/-- What `_workflow_nvlink5` decides from the decoded event, the action of XID 154 and whether its window is
closed. -/
def nvlink5Resolution (policy : XidPolicy) (event : XidEvent) (rule : CatalogRule)
    (found : List (NvlinkDecodeRule × List String)) (xid154Action : Option DynamicRecoveryAction)
    (windowClosed : Bool) :
    Resolution :=
  let recoveryActions := found.flatMap Prod.snd
  let names := found.map fun entry => entry.1.subcodeName
  let evaluates := recoveryActions.contains "XID_154_EVAL"
  let investigatory := ", ".intercalate (sortedSet (found.filterMap fun entry => present entry.1.investigatoryAction))
  let completed (resolution : Resolution) : Resolution :=
    { resolution with
      decodedSubcode := subcode policy event
      matchedDecodeRules := names
      investigatoryAction := if investigatory = "" then rule.investigatoryAction else some investigatory }
  if evaluates && xid154Action.isNone && !windowClosed then
    { source := .nvidiaCatalog
      disposition := .pendingCorrelation
      officialAction := some "XID_154"
      investigatoryAction := rule.investigatoryAction
      containment := .gpu
      decodedSubcode := subcode policy event
      matchedDecodeRules := names }
  else
    match evaluates, xid154Action with
    | true, some action => completed (dynamicRecoveryResolution action rule none event.workloadState)
    | _, _ =>
      if recoveryActions.contains "RESET_GPU" then
        completed (directResolution "RESET_GPU" .resetGpu rule .nvidiaCatalog (some event.workloadState))
      else if evaluates then
        completed (directResolution "RESTART_APP" .restartWorkload rule .nvidiaCatalog (some event.workloadState))
      else if recoveryActions.all (· == "IGNORE") then
        completed (directResolution "IGNORE" .noAction rule .nvidiaCatalog (some event.workloadState))
      else
        { source := .nvidiaCatalog
          disposition := .blockedWorkflow
          officialAction := some "WORKFLOW_NVLINK5_ERR"
          investigatoryAction := rule.investigatoryAction
          containment := .unknown
          decodedSubcode := subcode policy event
          matchedDecodeRules := names
          requiresOperator := true }

end Policy

end GpuFaultRecovery
