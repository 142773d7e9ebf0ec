import GpuFaultRecovery.QuarantineInheritance

/-!
# Plans that leave a node isolated

A node is left isolated by a plan whose last word on it is a quarantine. The holds of a plan are read off as sets: a
readmission anywhere in the plan cancels a quarantine, also one that comes after it. The plans of XID 74 readmit the
node after its reset and quarantine it afterwards for the support case.
-/

namespace GpuFaultRecovery

/-- Among the live quarantines and readmissions of the node the last one in execution order is a quarantine. -/
def LeftIsolated (workflow : WorkflowRequest) (node : String) : Prop :=
  ∃ last quarantine, LiveStep workflow last quarantine ∧ quarantine.operation = .quarantine ∧
    node ∈ quarantine.nodeIds ∧
    ∀ i step, LiveStep workflow i step → (step.operation = .quarantine ∨ step.operation = .restoreScheduling) →
      node ∈ step.nodeIds → i ≠ last → WaitsFor workflow last i

/-- The plan is read as holding the node, and a workflow merged after it takes the hold over. -/
def HoldRecognised (workflow : WorkflowRequest) (node : String) : Prop :=
  ∃ held, terminalQuarantineNodes workflow = .ok held ∧ node ∈ held ∧
    ∀ candidate own, terminalQuarantineNodes candidate = .ok own →
      (∀ other, other ∈ held ∨ other ∈ own → other ≠ "") →
      FreshCandidate candidate → ∃ result nodes, inheritTerminalQuarantine workflow candidate = .ok result ∧
        terminalQuarantineNodes result = .ok nodes ∧ node ∈ nodes

/-- Every live quarantine lists the nodes it holds properly, or lists none. -/
def HoldsReadable (workflow : WorkflowRequest) : Prop :=
  ∀ index step, LiveStep workflow index step → step.operation = .quarantine →
    ∃ nodes, fixedQuarantineNodes step = .ok nodes

private theorem holdRecognised_iff {workflow : WorkflowRequest} {node : String} :
    HoldRecognised workflow node ↔ HoldsReadable workflow ∧ (HeldExplicitly workflow node ∨
      (NamedBy workflow .quarantine node ∧ ¬ NamedBy workflow .restoreScheduling node)) := by
  constructor
  · rintro ⟨held, hheld, hnode, -⟩
    exact ⟨exists_terminalQuarantineNodes.mp ⟨held, hheld⟩, (mem_terminalQuarantineNodes hheld).mp hnode⟩
  · rintro ⟨hreadable, hcase⟩
    obtain ⟨held, hheld⟩ := exists_terminalQuarantineNodes.mpr hreadable
    have hnode := (mem_terminalQuarantineNodes hheld).mpr hcase
    refine ⟨held, hheld, hnode, fun candidate own hown hnamed hfresh => ?_⟩
    obtain ⟨result, nodes, hrun, hnodes, hiff, -⟩ := inheritTerminalQuarantine_holds hheld hown hnamed hfresh
    exact ⟨result, nodes, hrun, hnodes, (hiff node).mpr (.inl hnode)⟩

private theorem LeftIsolated.namedBy {workflow : WorkflowRequest} {node : String} (h : LeftIsolated workflow node) :
    NamedBy workflow .quarantine node := by
  obtain ⟨last, quarantine, hlast, hop, hnode, -⟩ := h
  exact ⟨last, quarantine, hlast, hop, hnode⟩

/-- A node that a plan leaves isolated is recognised as held exactly if no live readmission names it, before the
quarantine or elsewhere, or a live quarantine lists it explicitly. -/
theorem isolated_node_recognised_iff {workflow : WorkflowRequest} {node : String} (h : LeftIsolated workflow node) :
    HoldRecognised workflow node ↔ HoldsReadable workflow ∧
      (HeldExplicitly workflow node ∨ ¬ NamedBy workflow .restoreScheduling node) := by
  have hquarantined := h.namedBy
  rw [holdRecognised_iff]
  tauto

/-! ### The plans of XID 74 -/

inductive Nvlink74Category where
  | safeIgnore
  | secondary
  | eccParity
  | mechanicalOrHardware
  | marginalChannel
  | reportIfRepeated
  | unexpectedProduction
  | fieldDiagIfRepeated
  | fabricResetRequired
  | correctedThreshold
deriving Repr, DecidableEq, Inhabited

/-- A populated register bit and its category; the rule id is `label:category`. -/
structure DecodedBit where
  label : String
  category : Nvlink74Category
deriving Repr, DecidableEq

inductive WorkloadState where
  | unknown
  | idle
  | active
deriving Repr, DecidableEq, Inhabited

/-- What the builder reads of the event. -/
structure XidEvent where
  workloadState : WorkloadState := .unknown
  checkpointManifestRef : Option String := none
  affectedWorkloadIds : List String := []
deriving Repr, DecidableEq

/-- What the builder reads of the decision. -/
structure FaultPolicyDecision where
  action : RecoveryAction
  investigatoryAction : Option String := none
  matchedDecodeRules : List DecodedBit := []
  nvlinkOccurrenceCounts : List (String × Nat) := []
deriving Repr, DecidableEq

namespace FaultPolicyDecision

def categories (decision : FaultPolicyDecision) : List Nvlink74Category :=
  decision.matchedDecodeRules.map DecodedBit.category

/-- A mechanical bit seen twice on the same link. -/
def persistentMechanical (decision : FaultPolicyDecision) : Bool :=
  decision.nvlinkOccurrenceCounts.any fun (key, count) =>
    decide (2 ≤ count) && decision.matchedDecodeRules.contains { label := key, category := .mechanicalOrHardware }

def repeatedResetRequired (decision : FaultPolicyDecision) : Bool :=
  decision.action == .resetGpu &&
    [Nvlink74Category.eccParity, .fieldDiagIfRepeated, .reportIfRepeated].any decision.categories.contains

def fieldDiagnosticRequired (decision : FaultPolicyDecision) : Bool :=
  [Nvlink74Category.marginalChannel, .fieldDiagIfRepeated].any decision.categories.contains ||
    decision.persistentMechanical || decision.repeatedResetRequired

def mechanicalRequired (decision : FaultPolicyDecision) : Bool :=
  [Nvlink74Category.mechanicalOrHardware, .marginalChannel].any decision.categories.contains

def repairs (decision : FaultPolicyDecision) : Bool := decision.mechanicalRequired || decision.fieldDiagnosticRequired

end FaultPolicyDecision

def xid74Isolation (event : XidEvent) : List WorkflowOperation :=
  .markUnschedulable ::
    if event.workloadState == .active then
      (if (event.checkpointManifestRef.filter (· != "")).isSome then [.checkpointWorkloads] else []) ++
        [.stopWorkloads]
    else []

def xid74Repair (decision : FaultPolicyDecision) : List WorkflowOperation :=
  (if decision.fieldDiagnosticRequired then [.collectDiagnosticBundle] else []) ++
    [.quiesceGpuServices, .verifyNoGpuClients] ++
    (if decision.fieldDiagnosticRequired then [.runNvlink74Workflow] else []) ++
    [.resetGpu, .restoreGpuServices, .validateGpu, .validateFabric, .restoreScheduling]

/-- What follows: the support case, which quarantines a node that was repaired, and the restart of the job. -/
def xid74Handover (event : XidEvent) (decision : FaultPolicyDecision) : List WorkflowOperation :=
  (if decision.action == .escalateOperator && decision.investigatoryAction == some "CONTACT_SUPPORT" then
    (if decision.repairs then [.quarantine] else []) ++ [.escalateSupport]
  else []) ++
  if decision.repairs && !event.affectedWorkloadIds.isEmpty then [.restartWorkload] else []

def xid74Operations (event : XidEvent) (decision : FaultPolicyDecision) : List WorkflowOperation :=
  if decision.categories.contains .fabricResetRequired then
    [.freezeEvidence, .collectDiagnosticBundle, .escalateSupport]
  else
    (.freezeEvidence :: (if decision.repairs then xid74Isolation event ++ xid74Repair decision else []) ++
      xid74Handover event decision).eraseDups

section Xid74

variable {event : XidEvent} {decision : FaultPolicyDecision} {workflow : WorkflowRequest} {node : String}

/-- What stands before the quarantine of a plan for XID 74, the readmission last. -/
def xid74BeforeQuarantine (event : XidEvent) (decision : FaultPolicyDecision) : List WorkflowOperation :=
  .freezeEvidence :: (xid74Isolation event ++ xid74Repair decision)

def xid74AfterQuarantine (event : XidEvent) : List WorkflowOperation :=
  .escalateSupport :: if !event.affectedWorkloadIds.isEmpty then [.restartWorkload] else []

/-- A plan for XID 74 quarantines the node only once it has readmitted it. -/
private theorem xid74Operations_of_quarantine (h : .quarantine ∈ xid74Operations event decision) :
    xid74Operations event decision = xid74BeforeQuarantine event decision ++
      .quarantine :: xid74AfterQuarantine event := by
  unfold xid74Operations at h ⊢
  split at h
  · simp at h
  · rename_i hfabric
    rw [if_neg hfabric]
    rw [List.mem_eraseDups] at h
    unfold xid74Handover xid74Isolation xid74Repair at h
    unfold xid74BeforeQuarantine xid74AfterQuarantine xid74Handover xid74Isolation xid74Repair
    generalize (decision.action == .escalateOperator && decision.investigatoryAction == some "CONTACT_SUPPORT") =
      support
      at h ⊢
    generalize decision.repairs = repairs at h ⊢
    generalize decision.fieldDiagnosticRequired = diagnostic at h ⊢
    generalize event.affectedWorkloadIds.isEmpty = idle at h ⊢
    generalize (event.workloadState == .active) = active at h ⊢
    generalize (event.checkpointManifestRef.filter (· != "")).isSome = checkpoint at h ⊢
    revert h
    revert support repairs diagnostic idle active checkpoint
    decide

private theorem mem_xid74BeforeQuarantine (event : XidEvent) (decision : FaultPolicyDecision) :
    .restoreScheduling ∈ xid74BeforeQuarantine event decision := by
  simp [xid74BeforeQuarantine, xid74Repair]

private theorem not_mem_xid74AfterQuarantine (event : XidEvent) :
    .quarantine ∉ xid74AfterQuarantine event ∧ .restoreScheduling ∉ xid74AfterQuarantine event := by
  unfold xid74AfterQuarantine
  split <;> simp

/-- Every flat plan for XID 74 that quarantines a node leaves it isolated, and unless a step lists the node explicitly
the hold is not recognised. -/
private theorem xid74_hold_unrecognised (hflat : workflow.dagEnabled = false)
    (hlive : workflow.supersededStepIndexes = [])
    (hops : workflow.officialSteps.map WorkflowStepSpec.operation = xid74Operations event decision)
    (hquarantine : .quarantine ∈ xid74Operations event decision)
    (hnames : ∀ step ∈ workflow.officialSteps, step.operation = .quarantine ∨ step.operation = .restoreScheduling →
      step.nodeIds = [node])
    (hlists : ∀ step ∈ workflow.officialSteps, step.parameters.get? terminalQuarantineNodesKey = none) :
    LeftIsolated workflow node ∧ ¬ HoldRecognised workflow node := by
  set before := xid74BeforeQuarantine event decision with hbefore
  set after := xid74AfterQuarantine event with hafter
  have hplan : workflow.officialSteps.map WorkflowStepSpec.operation = before ++ .quarantine :: after :=
    hops.trans (xid74Operations_of_quarantine hquarantine)
  have hget : ∀ i :
      Nat, (workflow.officialSteps[i]?).map WorkflowStepSpec.operation = (before ++ .quarantine :: after)[i]? := by
    intro i
    rw [← hplan, List.getElem?_map]
  have hat : ∀ (i : Nat) operation, (before ++ .quarantine :: after)[i]? = some operation →
      operation = .quarantine ∨ operation = .restoreScheduling →
      ∃ step, LiveStep workflow i step ∧ step.operation = operation ∧ node ∈ step.nodeIds := by
    intro i operation hi hkind
    rw [← hget] at hi
    obtain ⟨step, hstep, rfl⟩ := Option.map_eq_some_iff.mp hi
    refine ⟨step, ⟨hstep, by simp [hlive]⟩, rfl, ?_⟩
    rw [hnames step (List.mem_of_getElem? hstep) hkind]
    exact List.mem_singleton.mpr rfl
  constructor
  · obtain ⟨quarantine, hlast, hop, hnode⟩ := hat before.length .quarantine (by simp) (.inl rfl)
    refine ⟨before.length, quarantine, hlast, hop, hnode, fun i step hstep hkind _ hne => ?_⟩
    rw [WaitsFor, if_neg (by simp [hflat])]
    -- behind the quarantine there is neither another one nor a readmission
    by_contra hlater
    have hop' : (before ++ .quarantine :: after)[i]? = some step.operation := by
      rw [← hget, hstep.1]
      rfl
    rw [List.getElem?_append_right (by omega), show i - before.length = (i - before.length - 1) + 1 by omega,
      List.getElem?_cons_succ] at hop'
    have hin := List.mem_of_getElem? hop'
    rcases hkind with hkind | hkind
    · exact (not_mem_xid74AfterQuarantine event).1 (hkind ▸ hin)
    · exact (not_mem_xid74AfterQuarantine event).2 (hkind ▸ hin)
  · -- the readmission in front of the quarantine cancels it
    rw [holdRecognised_iff]
    rintro ⟨-, ⟨index, step, nodes, hstep, -, hfixed, hnode⟩ | ⟨-, hfree⟩⟩
    · rw [fixedQuarantineNodes, hlists step (List.mem_of_getElem? hstep.1)] at hfixed
      cases hfixed
      cases hnode
    · obtain ⟨i, hi, hop⟩ := List.getElem_of_mem (mem_xid74BeforeQuarantine event decision)
      obtain ⟨step, hstep, hkind, hnode⟩ := hat i .restoreScheduling
        (by rw [List.getElem?_append_left hi, List.getElem?_eq_getElem hi, hop]) (.inr rfl)
      exact hfree ⟨i, step, hstep, hkind, hnode⟩

end Xid74

section Isolated

/-- A plan that resets the node, readmits it and quarantines it afterwards, as an explicit hold. -/
private def readmittedPlan : WorkflowRequest :=
  { requestId := "w", status := .pending,
    officialSteps :=
      [{ operation := .resetGpu, nodeIds := ["n1"] }, { operation := .restoreScheduling, nodeIds := ["n1"] },
      { operation := .quarantine, nodeIds := ["n1"],
        parameters := [(terminalQuarantineNodesKey, .arr [.str "n1"])] }] }

theorem isolated_node_recognised_iff_held :
    LeftIsolated readmittedPlan "n1" ∧ NamedBy readmittedPlan .restoreScheduling "n1" ∧
      HoldRecognised readmittedPlan "n1" := by
  have hisolated : LeftIsolated readmittedPlan "n1" := by
    refine ⟨2, _, ⟨rfl, by simp [readmittedPlan]⟩, rfl, by simp, fun i step hstep _ _ hne => ?_⟩
    have hlt : i < 3 := (List.getElem?_eq_some_iff.mp hstep.1).1
    rw [WaitsFor, if_neg (by simp [readmittedPlan])]
    omega
  have hheld : HeldExplicitly readmittedPlan "n1" :=
    ⟨2, _, ["n1"], ⟨rfl, by simp [readmittedPlan]⟩, rfl, by rfl, by simp⟩
  have hreadable : HoldsReadable readmittedPlan := exists_terminalQuarantineNodes.mp ⟨["n1"], by decide⟩
  exact ⟨hisolated, ⟨1, _, ⟨rfl, by simp [readmittedPlan]⟩, rfl, by simp⟩,
    (isolated_node_recognised_iff hisolated).mpr ⟨hreadable, .inl hheld⟩⟩

/-- A mechanical bit next to one the decoder does not know: reported to support, with the link repaired first. -/
private def mechanicalDecision : FaultPolicyDecision :=
  { action := .escalateOperator, investigatoryAction := some "CONTACT_SUPPORT",
    matchedDecodeRules := [{ label := "register1.bit8", category := .mechanicalOrHardware }] }

private def mechanicalPlan : WorkflowRequest :=
  { requestId := "w", status := .pending,
    officialSteps := (xid74Operations {} mechanicalDecision).map fun operation => { operation, nodeIds := ["n1"] } }

/-- The plan resets the link, readmits the node, quarantines it for the support case and stops; the hold is lost. -/
theorem isolated_node_unrecognised_after_reset :
    xid74Operations {} mechanicalDecision =
      [.freezeEvidence, .markUnschedulable, .quiesceGpuServices, .verifyNoGpuClients,
      .resetGpu, .restoreGpuServices, .validateGpu, .validateFabric, .restoreScheduling, .quarantine,
        .escalateSupport] ∧
    LeftIsolated mechanicalPlan "n1" ∧ terminalQuarantineNodes mechanicalPlan = .ok [] ∧
    ¬ HoldRecognised mechanicalPlan "n1" := by
  have hops : xid74Operations {} mechanicalDecision = [.freezeEvidence, .markUnschedulable, .quiesceGpuServices,
      .verifyNoGpuClients, .resetGpu, .restoreGpuServices, .validateGpu, .validateFabric, .restoreScheduling,
        .quarantine,
      .escalateSupport] := by decide
  have hlost := @xid74_hold_unrecognised {} mechanicalDecision mechanicalPlan "n1" rfl rfl
    (by rw [mechanicalPlan, hops]; rfl) (by rw [hops]; decide)
    (by simp [mechanicalPlan]) (by simp [mechanicalPlan, Details.get?])
  exact ⟨hops, hlost.1, by decide, hlost.2⟩

end Isolated

end GpuFaultRecovery
