import GpuFaultRecovery.QuiesceCompensation

/-!
# Giving way to a stronger workflow

A row with a preempting successor is superseded at a step boundary once every wait on it can be stopped and its
quiesced nodes are restored or handed over. That write does not go through the terminal decision: an action nobody
confirmed, which turns every other ending into a hand-off to an operator, is closed by it.
-/

namespace GpuFaultRecovery

/-! ### Handing a quiesce over -/

/-- The last completed quiesce with a record that proves it, narrowed to the nodes still stopped. -/
def quiesceHandoffEvidence (workflow : WorkflowRequest) (unrestoredOnly : Bool) :
    Option (Nat × WorkflowStepSpec × WorkflowStepExecution) :=
  workflow.officialSteps.zipIdx.reverse.findSome? fun (step, index) =>
    if !workflow.completedStepIndexes.contains index || step.operation != .quiesceGpuServices then none
    else
      let settled := if unrestoredOnly then restoredNodes workflow workflow.officialSteps index else []
      let remaining := step.nodeIds.filter fun node => !settled.contains node
      if remaining.isEmpty then none
      else
        (workflow.stepExecutions.find? fun execution =>
          execution.stepIndex == index && execution.operation == step.operation && execution.status == .succeeded).map
            fun execution => (index, { step with nodeIds := remaining }, execution)

/-- Whether the successor takes the quiesce over: it quiesces the same nodes for a reset, or reboots them. -/
def canHandoffQuiesceForPreemption (workflow : WorkflowRequest) (incident : FaultIncident)
    (successor : WorkflowRequest) : Bool :=
  if successor.incidentId != incident.incidentId then false
  else
    match quiesceHandoffEvidence workflow true with
    | none => false
    | some (_, quiesce, _) =>
      let steps := successor.officialSteps
      if steps.any fun step => step.operation == .resetGpu || step.operation == .resetAllGpusNvswitches ||
          step.operation == .recoverDrainP2p then
        steps.any fun step => step.operation == .quiesceGpuServices && step.nodeIds.all quiesce.nodeIds.contains
      else
        match steps.find? fun step => step.operation == .restartNode with
        | none => false
        | some restart =>
          restart.nodeIds.all quiesce.nodeIds.contains &&
            workflow.officialSteps.any fun step => step.operation == .restoreGpuServices

/-! ### The supersession -/

/-- What the executor finds at a step boundary: the successor, the live state of the commands to cancel, the answer of
the restore if one is run, and the row as the lease renewal reads it back afterwards. -/
structure StepBoundary where
  preemptionEnabled : Bool := true
  successor : Option WorkflowRequest := none
  liveStatus : String → Option RemoteCommandStatus := fun _ => none
  cancels : String → Bool := fun _ => true
  restore : StepOutcome := { status := .succeeded }
  reread : WorkflowRequest
  incident : FaultIncident
  commands : List MintedFrom := []
  predecessor : Option WorkflowRequest := none

/-- The store's own cancel rule, applied to the command as it is now. -/
def cancellableNow (record : WaitingRecord) (status : RemoteCommandStatus) : Bool :=
  status == .pending || (status == .waiting && record.operation.semantics.safeRemoteWaitingPreempt)

/-- Whether some wait that was cancellable when it was recorded no longer is. -/
def StepBoundary.uncancellableLive (found : StepBoundary) (boundary : PreemptionBoundary) : Bool :=
  boundary.cancellations.any fun record =>
    (found.liveStatus (record.remoteCommandId.getD "")).any fun status => !cancellableNow record status

inductive SupersedeResult where
  | proceed
  | waiting (workflow : WorkflowRequest)
  | terminal (decision : TerminalDecision)
  | superseded (workflow : WorkflowRequest)

/-- Whether the row has to restore its quiesced nodes itself before it gives way. -/
def StepBoundary.owesRestore (found : StepBoundary) (workflow successor : WorkflowRequest) : Bool :=
  !(unrestoredQuiesces workflow workflow.executedSteps).isEmpty &&
    !canHandoffQuiesceForPreemption workflow found.incident successor

/-- The row given way to `successor`. -/
def supersededRow (workflow successor : WorkflowRequest) (now : Time) : WorkflowRequest :=
  { workflow with
    status := .superseded
    preemptedByWorkflowId := some successor.requestId
    preemptionReason := successor.preemptionReason
    supersededAt := some now
    executionOwnerId := none
    executionLeaseExpiresAt := none
    updatedAt := now }

/-- Run the pending restore ahead of the cursor; a restore that fails ends the row. -/
def StepBoundary.restoreForPreemption (found : StepBoundary) (workflow successor : WorkflowRequest) (now : Time) :
    Option (WorkflowRequest ⊕ SupersedeResult) :=
  (pendingRestoreStep workflow workflow.officialSteps).map fun (index, step) =>
    let recorded := recordAttempt found.reread step index found.restore now
    match found.restore.status with
    | .waiting => .inr (.waiting recorded)
    | .failed =>
      .inr (.terminal (terminalize found.commands
        (fun row => { row with
          preemptedByWorkflowId := some successor.requestId
          preemptionReason := some ("preemption compensation failed: " ++
            (found.restore.error.filter (· != "")).getD "restore failed") })
        recorded (some found.incident)
        { status := .failed, reason := found.restore.error, incidentState := some found.incident.state }
          found.predecessor now))
    | .succeeded => .inl (recordCompletion recorded index .restoreGpuServices now)

/-- Supersede the row at the boundary before a step, or let the step run. -/
def StepBoundary.supersedeIfSafe (found : StepBoundary) (workflow : WorkflowRequest) (now : Time) : SupersedeResult :=
  if !found.preemptionEnabled then .proceed
  else
    match found.successor with
    | none => .proceed
    | some successor =>
      let boundary := preemptionBoundary workflow none true
      if !boundary.isOpen || found.uncancellableLive boundary ||
          !boundary.cancellations.all (fun record => found.cancels (record.remoteCommandId.getD "")) then .proceed
      else if !found.owesRestore workflow successor then .superseded (supersededRow workflow successor now)
      else
        match found.restoreForPreemption workflow successor now with
        | none => .proceed
        | some (.inr result) => result
        | some (.inl restored) => .superseded (supersededRow restored successor now)

/-! ### Terminal writes -/

/-- What lands in the store when a row ends: the row, and the incident if the row is still its plan. -/
structure TerminalWrite where
  workflow : WorkflowRequest
  incident : Option FaultIncident

/-- The write every ending lands through; `current` is the incident as the store has it. -/
def saveTerminal (workflow : WorkflowRequest) (incident current : Option FaultIncident) : TerminalWrite :=
  { workflow
    incident := incident.filter fun _ =>
      (current.bind FaultIncident.workflowRequestId).all (· == workflow.requestId) }

/-- The ways the executor ends a row: an ending that goes through the terminal decision, or the boundary before a
step. -/
inductive EndingPath where
  | terminalize (commands : List MintedFrom) (updates : WorkflowRequest → WorkflowRequest)
      (incident : Option FaultIncident) (asked : Ending) (predecessor : Option WorkflowRequest)
  | boundary (found : StepBoundary)

/-- The terminal write of a path, if it ends the row. -/
def EndingPath.write (path : EndingPath) (workflow : WorkflowRequest) (current : Option FaultIncident) (now : Time) :
    Option TerminalWrite :=
  match path with
  | .terminalize commands updates incident asked predecessor =>
    let decision := GpuFaultRecovery.terminalize commands updates workflow incident asked predecessor now
    some (saveTerminal decision.workflow decision.incident current)
  | .boundary found =>
    match found.supersedeIfSafe workflow now with
    | .proceed | .waiting _ => none
    | .terminal decision => some (saveTerminal decision.workflow decision.incident current)
    | .superseded row => some (saveTerminal row none current)

/-! ### Unconfirmed actions -/

/-- A row with an unconfirmed action is written BLOCKED for an operator, its incident not recovered. -/
def TerminalWrite.Sound (write : TerminalWrite) : Prop :=
  hasUnresolvedNodeAction write.workflow true = true →
    write.workflow.status = .blocked ∧ write.workflow.blockedKind = some .needsOperator ∧
      ∀ incident, write.incident = some incident → incident.state ≠ .recovered

/-- The records a supersession closes: those of the row, or what the restore it has to run leaves of them. -/
def StepBoundary.closedRecords (found : StepBoundary) (workflow successor : WorkflowRequest) :
    List WorkflowStepExecution :=
  if found.owesRestore workflow successor then
    match pendingRestoreStep workflow workflow.officialSteps with
    | some (index, step) => found.reread.stepExecutions.filter (survivesAttempt found.reread step index)
    | none => []
  else workflow.stepExecutions

/-- No action is unconfirmed on the records a supersession closes; a boundary whose own restore fails closes none. -/
def EndingPath.Confirmed (path : EndingPath) (workflow : WorkflowRequest) : Prop :=
  match path with
  | .terminalize .. => True
  | .boundary found => ∀ successor ∈ found.successor,
      (found.owesRestore workflow successor = true → found.restore.status = .succeeded) →
        hasUnresolvedNodeAction { workflow with stepExecutions := found.closedRecords workflow successor }
          true = false

section Writes

variable {found : StepBoundary} {workflow row successor : WorkflowRequest} {current : Option FaultIncident}
  {now : Time}
  {write : TerminalWrite}

private theorem saveTerminal_sound (incident : Option FaultIncident) (asked : Ending)
    (predecessor : Option WorkflowRequest) :
    (saveTerminal (terminalDecision row incident asked predecessor now).workflow
      (terminalDecision row incident asked predecessor now).incident current).Sound := by
  intro hunresolved
  have hsame : hasUnresolvedNodeAction (terminalDecision row incident asked predecessor now).workflow true =
      hasUnresolvedNodeAction row true := hasUnresolvedNodeAction_congr terminalDecision_stepExecutions true
  obtain ⟨hstatus, hkind, hstate⟩ :=
    @terminalDecision_of_unresolved row incident asked predecessor now (hsame.symm.trans hunresolved)
  refine ⟨hstatus, hkind, fun incident hincident => hstate incident ?_⟩
  simp only [saveTerminal, Option.filter_eq_some_iff] at hincident
  exact hincident.1

private theorem saveTerminal_superseded (records : List WorkflowStepExecution)
    (hrecords : hasUnresolvedNodeAction row true =
      hasUnresolvedNodeAction { workflow with stepExecutions := records } true) :
    (saveTerminal (supersededRow row successor now) none current).Sound ↔
      hasUnresolvedNodeAction { workflow with stepExecutions := records } true = false := by
  have hrow : hasUnresolvedNodeAction (saveTerminal (supersededRow row successor now) none current).workflow true =
      hasUnresolvedNodeAction { workflow with stepExecutions := records } true := by
    rw [← hrecords]
    exact hasUnresolvedNodeAction_congr rfl true
  unfold TerminalWrite.Sound
  rw [hrow]
  cases hasUnresolvedNodeAction { workflow with stepExecutions := records } true with
  | false => simp
  | true => simp [saveTerminal, supersededRow]

/-- What a boundary does to the row it gives way on. -/
theorem supersedeIfSafe_cases (found : StepBoundary) (workflow : WorkflowRequest) (now : Time) :
    found.supersedeIfSafe workflow now = .proceed ∨ (∃ row, found.supersedeIfSafe workflow now = .waiting row) ∨
      ∃ successor, found.successor = some successor ∧
        ((found.owesRestore workflow successor = false ∧
            found.supersedeIfSafe workflow now = .superseded (supersededRow workflow successor now)) ∨
          (found.owesRestore workflow successor = true ∧
            ∃ index step, pendingRestoreStep workflow workflow.officialSteps = some (index, step) ∧
              ((found.restore.status = .failed ∧ ∃ row asked,
                  found.supersedeIfSafe workflow now =
                    .terminal (terminalDecision row (some found.incident) asked found.predecessor now)) ∨
                (found.restore.status = .succeeded ∧
                  found.supersedeIfSafe workflow now = .superseded (supersededRow
                    (recordCompletion (recordAttempt found.reread step index found.restore now) index
                      .restoreGpuServices now) successor now))))) := by
  unfold StepBoundary.supersedeIfSafe
  split
  · exact .inl rfl
  split
  · exact .inl rfl
  rename_i successor hsuccessor
  dsimp only
  split
  · exact .inl rfl
  split
  · rename_i howes
    exact .inr (.inr ⟨successor, hsuccessor, .inl ⟨by simpa using howes, rfl⟩⟩)
  rename_i howes
  simp only [Bool.not_eq_true, Bool.not_eq_false'] at howes
  unfold StepBoundary.restoreForPreemption
  cases hpending : pendingRestoreStep workflow workflow.officialSteps with
  | none => exact .inl rfl
  | some found' =>
    obtain ⟨index, step⟩ := found'
    simp only [Option.map_some]
    cases hstatus : found.restore.status with
    | waiting => exact .inr (.inl ⟨_, rfl⟩)
    | failed => exact .inr (.inr ⟨successor, hsuccessor, .inr ⟨howes, index, step, rfl, .inl ⟨rfl, _, _, rfl⟩⟩⟩)
    | succeeded => exact .inr (.inr ⟨successor, hsuccessor, .inr ⟨howes, index, step, rfl, .inr ⟨rfl, rfl⟩⟩⟩)

/-- A terminal write of the executor is sound exactly when it does not supersede a row over an unconfirmed action. -/
theorem terminal_write_sound_iff {path : EndingPath} (h : path.write workflow current now = some write) :
    write.Sound ↔ path.Confirmed workflow := by
  cases path with
  | terminalize commands updates incident asked predecessor =>
    obtain rfl := Option.some.inj h
    exact iff_of_true (saveTerminal_sound incident asked predecessor) trivial
  | boundary found =>
    simp only [EndingPath.write] at h
    rcases supersedeIfSafe_cases found workflow now with
      hproceed | ⟨row, hwaiting⟩ | ⟨successor, hsuccessor, ⟨howes, hwrite⟩ | ⟨howes, index, step, hpending, hrestore⟩⟩
    · simp [hproceed] at h
    · simp [hwaiting] at h
    · rw [hwrite] at h
      obtain rfl := Option.some.inj h
      rw [saveTerminal_superseded workflow.stepExecutions rfl]
      simp [EndingPath.Confirmed, hsuccessor, howes, StepBoundary.closedRecords]
    · rcases hrestore with ⟨hfailed, row, asked, hwrite⟩ | ⟨hsucceeded, hwrite⟩
      · rw [hwrite] at h
        obtain rfl := Option.some.inj h
        exact iff_of_true (saveTerminal_sound _ _ _) (by simp [EndingPath.Confirmed, hsuccessor, howes, hfailed])
      · rw [hwrite] at h
        obtain rfl := Option.some.inj h
        -- the restore answers for its own step and leaves every other record as it was
        have hrecords : hasUnresolvedNodeAction (recordCompletion
              (recordAttempt found.reread step index found.restore now) index .restoreGpuServices now) true =
            hasUnresolvedNodeAction { workflow with
              stepExecutions := found.reread.stepExecutions.filter (survivesAttempt found.reread step index) } true :=
          (hasUnresolvedNodeAction_congr rfl true).trans
            ((hasUnresolvedNodeAction_recordAttempt hsucceeded).trans (hasUnresolvedNodeAction_congr rfl true))
        rw [saveTerminal_superseded _ hrecords]
        simp [EndingPath.Confirmed, hsuccessor, howes, hsucceeded, StepBoundary.closedRecords, hpending]

end Writes

/-- A reset of node `a` nobody confirmed; node `b` is still being repaired. -/
private def unconfirmedReset : WorkflowRequest :=
  { requestId := "w"
    incidentId := "i"
    status := .running
    dagEnabled := true
    officialSteps :=
      [{ operation := .resetGpu, nodeIds := ["a"], branchId := some "branch:a" },
       { operation := .validateGpu, nodeIds := ["b"], branchId := some "branch:b" }]
    supersededStepIndexes := [0]
    exhaustedBranchIds := ["branch:a"]
    stepExecutions :=
      [{ stepIndex := 0, operation := .resetGpu, status := .failed, phase := some .official,
         details := [("outcome_unknown", .bool true)] }] }

/-- The boundary before the validation of `b`, once a replacement of `a` is planned. -/
private def replacementPlanned : StepBoundary :=
  { successor := some
      { requestId := "w2", incidentId := "i", status := .pending, preemptPredecessor := true,
        officialSteps := [{ operation := .replaceNode, nodeIds := ["a"] }] }
    reread := unconfirmedReset
    incident := { incidentId := "i", state := .actionPending, workflowRequestId := some "w2" } }

/-- The row is written SUPERSEDED although nobody knows whether the reset ran. -/
theorem unconfirmed_reset_superseded :
    ∃ write, (EndingPath.boundary replacementPlanned).write unconfirmedReset none 0 = some write ∧
      hasUnresolvedNodeAction write.workflow true = true ∧ write.workflow.status = .superseded ∧ ¬ write.Sound := by
  refine ⟨_, rfl, by decide, rfl, fun hsound => ?_⟩
  have hstatus := (hsound (by decide)).1
  cases hstatus

private def answeredReset : WorkflowRequest :=
  { unconfirmedReset with
    stepExecutions := unconfirmedReset.stepExecutions.map fun item => { item with
      details := item.details ++ [("operator_confirmed", .obj [("actor", .str "oncall"), ("reference", .str "T-1"),
        ("confirmed_at", .str "noon"), ("node_id", .str "a"), ("operation", .str "RESET_GPU")])] } }

/-- Once an operator has answered for the reset the row may give way. -/
theorem terminal_write_sound_iff_answered :
    ∃ write, (EndingPath.boundary replacementPlanned).write answeredReset none 0 = some write ∧ write.Sound := by
  have hwrite : (EndingPath.boundary replacementPlanned).write answeredReset none 0 = some _ := rfl
  refine ⟨_, hwrite, (terminal_write_sound_iff hwrite).mpr fun successor hsuccessor _ => ?_⟩
  cases hsuccessor
  decide

end GpuFaultRecovery
