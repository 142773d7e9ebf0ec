import GpuFaultRecovery.ClaimedWorkflow
import GpuFaultRecovery.PythonText

/-!
# Resuming a row its receipts settled

A row that ended with an action nobody had confirmed is parked BLOCKED for an operator. Once its receipts answer the
action the dispatcher opens it again with its failure parked on it, so that the next claim restores what is owed and
ends it FAILED. The failure is found among the row's records. A row without a failed record is opened without one, and
its plan goes on; so does the plan of a DAG row as long as a sibling step is in flight.
-/

namespace GpuFaultRecovery

/-! ### The resume -/

/-- `text` without the occurrences of `needle`, taken from the left; `skip` characters of one are still to be
dropped. -/
def removeText (needle : List Char) : Nat → List Char → List Char
  | _, [] => []
  | skip + 1, _ :: rest => removeText needle skip rest
  | 0, c :: rest =>
    if needle.isPrefixOf (c :: rest) then removeText needle (needle.length - 1) rest
    else c :: removeText needle 0 rest

/-- A parked row as the sweep reads it: with the reason of its last TERMINAL event, its incident and its receipts. -/
structure ParkedRow where
  workflow : WorkflowRequest
  terminalReason : Option (Option String) := none
  incident : Option FaultIncident := none
  commands : List MintedFrom := []

/-- The reason of the last TERMINAL event, empty without one. -/
def ParkedRow.reason (parked : ParkedRow) : String := (parked.terminalReason.bind id).getD ""

def restoreWithheld (item : WorkflowStepExecution) : Bool :=
  item.operation == .restoreGpuServices && item.status == .failed && item.details.flag "restore_gpu_services_withheld"

def parkedForUnresolvedAction (parked : ParkedRow) : Bool :=
  decide (unresolvedNodeActionReason.toList <:+: parked.reason.toList) ||
    parked.workflow.stepExecutions.any restoreWithheld

/-- Whether an operator answered what was unknown about a BLOCKED row. -/
def nodeActionsOperatorConfirmed (workflow : WorkflowRequest) : Bool :=
  workflow.status == .blocked &&
    ((latestNodeActionExecutions workflow).any fun item => (operatorConfirmation item.details).isSome) &&
    !(latestNodeActionExecutions workflow).any unresolvedNodeAction

/-- Why a row must stay parked. -/
inductive ResumeRefusal where
  | notNeedsOperator
  | notParkedForUnresolvedAction
  | operatorConfirmed
  | stillUnresolved
  | commandsOpen (commandIds : List String)
  | incidentMissing
  | incidentMovedOn
  | incidentRecovered
  | leaseNotExpired
deriving Repr, DecidableEq

def ParkedRow.openCommands (parked : ParkedRow) : List String :=
  ((parked.commands.filter fun command => !command.status.terminal).map fun command =>
    command.commandId).insertionSort
    (· ≤ ·)

def ParkedRow.refreshed (parked : ParkedRow) : WorkflowRequest :=
  refreshRemoteActionState parked.commands parked.workflow

/-- What keeps the row parked, nothing once its receipts settled it. -/
def receiptSettledResumeReasons (parked : ParkedRow) (now : Time) : List ResumeRefusal :=
  if parked.workflow.status != .blocked || parked.workflow.blockedKind != some .needsOperator then [.notNeedsOperator]
  else
    (if parkedForUnresolvedAction parked then [] else [.notParkedForUnresolvedAction]) ++
      (if nodeActionsOperatorConfirmed parked.workflow then [.operatorConfirmed] else []) ++
      (if hasUnresolvedNodeAction parked.refreshed true then [.stillUnresolved] else []) ++
      (if parked.openCommands.isEmpty then [] else [.commandsOpen parked.openCommands]) ++
      (match parked.incident with
        | none => [.incidentMissing]
        | some incident =>
          (if incident.workflowRequestId != some parked.workflow.requestId then [.incidentMovedOn] else []) ++
            if incident.state == .recovered then [.incidentRecovered] else []) ++
      if leaseActive parked.workflow now then [.leaseNotExpired] else []

def failedRecords (workflow : WorkflowRequest) : List WorkflowStepExecution :=
  workflow.stepExecutions.filter fun item => item.status == .failed && item.operation != .restoreGpuServices

/-- The step whose failure a row carried into the park, if it has one, and its error. -/
def parkedFailure (workflow : WorkflowRequest) (terminalReason : String) : Option Nat × String :=
  let last := (failedRecords workflow).getLast?
  let marker := unresolvedNodeActionReason.toList
  let reason := String.ofList (PythonText.strip
    (removeText marker 0 (removeText (';' :: ' ' :: marker) 0 terminalReason.toList)))
  (match last with
    | some record => some record.stepIndex
    | none => workflow.pendingFailureStepIndex,
    ((workflow.pendingFailureError.filter (· != "")).orElse fun _ =>
      ((last.bind WorkflowStepExecution.error).filter (· != "")).orElse fun _ =>
        if reason = "" then none else some reason).getD "workflow step failed")

/-- The PENDING form of a parked row whose receipts arrived. -/
def resumedRecord (refreshed : WorkflowRequest) (terminalReason : String) (now : Time) : WorkflowRequest :=
  { refreshed with
    status := .pending
    blockedKind := none
    pendingFailureStepIndex := (parkedFailure refreshed terminalReason).1
    pendingFailureError := some (parkedFailure refreshed terminalReason).2
    executionOwnerId := none
    executionLeaseExpiresAt := none
    updatedAt := now }

/-- One row of the sweep: opened again once nothing keeps it parked. -/
def resumeReceiptSettled (parked : ParkedRow) (now : Time) : Option WorkflowRequest :=
  if (receiptSettledResumeReasons parked now).isEmpty then some (resumedRecord parked.refreshed parked.reason now)
  else none

/-! ### Passes over a row that was opened again -/

/-- The restore a landing failure waits for: the first one that may still run, else the failed step stands for it. -/
def compensationIndex (workflow : WorkflowRequest) : Option Nat :=
  ((pendingRestoreStep workflow workflow.executedSteps).map Prod.fst).orElse fun _ => workflow.pendingFailureStepIndex

/-- Whether a parked failure waits for siblings in flight. -/
def jobFailureStillDeferred (workflow : WorkflowRequest) (compensation : Option Nat) : Bool :=
  let boundary := preemptionBoundary workflow none true
  workflow.dagEnabled && workflow.pendingFailureStepIndex.isSome &&
    (boundary.blocking ++ boundary.malformed).any fun index =>
      workflow.pendingFailureStepIndex != some index && compensation != some index

def landsFailure (workflow : WorkflowRequest) : Bool :=
  workflow.pendingFailureStepIndex.isSome && !jobFailureStillDeferred workflow (compensationIndex workflow)

/-- What a pass meets: the claim, what the restore answers if one is run, the parts of its loops if the plan goes on,
and what the terminal write reads. -/
structure PassInput where
  executorId : String
  leaseDuration : Int
  predecessor : Option WorkflowRequest := none
  deadline : Option Time := none
  outcome : StepOutcome := { status := .waiting }
  events : List ExecutorEvent := []
  commands : List MintedFrom := []
  incident : Option FaultIncident := none
  now : Time
  endedAt : Time

/-- A row that was opened again, and the operations handed to an adapter since. -/
structure ReopenedRow where
  row : WorkflowRequest
  dispatched : List WorkflowOperation := []
deriving DecidableEq

/-- The parts of a pass: no merge, no other claim and no word from outside. -/
def ownEvent : ExecutorEvent → Bool
  | .claim _ _ | .withdraw _ _ | .merge _ _ => false
  | _ => true

def Executor.flyingOperation (s : Executor) : Option WorkflowOperation :=
  (s.pass.bind ExecutorPass.inFlight).map fun d => d.step.operation

/-- One part of a pass, what it hands to an adapter noted. -/
def planStep (s : Executor × List WorkflowOperation) (event : ExecutorEvent) : Executor × List WorkflowOperation :=
  let next := executorStep s.1 event
  (next, if s.1.flyingOperation.isNone then s.2 ++ next.flyingOperation.toList else s.2)

/-- How a row ends whose steps are all done. -/
def completeClaimedWorkflow (workflow : WorkflowRequest) (isSafety : Bool) (input : PassInput) : TerminalDecision :=
  match workflow.terminalFailureReason.filter (· != "") with
  | some reason =>
    let isolated := workflow.completedOperations.any isolationOperation &&
      !workflow.completedOperations.contains .restoreScheduling
    terminalize input.commands id workflow input.incident
      { status := .failed
        reason := some reason
        incidentState := some (if isolated then .quarantined else .escalated) }
      input.predecessor input.endedAt
  | none =>
    terminalize input.commands
      (fun row => { row with blockedKind := if isSafety then some .safetySettled else none }) workflow input.incident
      { status := if isSafety then .blocked else .succeeded } input.predecessor input.endedAt

/-- Whether a pass has nothing left to run and no failure to report. -/
def planFinished (s : Executor) (pass : ExecutorPass) : Bool :=
  pass.inFlight.isNone && pass.failure.isNone && s.row.pendingFailureStepIndex.isNone &&
    s.row.workloadWithdrawnAt.isNone && s.row.exhaustedBranchIds.isEmpty &&
    (List.range (phaseSteps pass.isSafety s.row).length).all s.row.resolvedStepIndexes.contains

def planEnd (s : Executor) (input : PassInput) : WorkflowRequest :=
  match s.pass with
  | none => s.row
  | some pass => if planFinished s pass then (completeClaimedWorkflow s.row pass.isSafety input).workflow else s.row

def claimedForPass (row : WorkflowRequest) (input : PassInput) : WorkflowRequest :=
  preparedRow (leasedClaim row input.executorId input.now input.leaseDuration (leaseActive row input.now) true)
    input.predecessor input.deadline input.now

/-- The restore handed to an adapter by a landing failure. -/
def landingDispatch (workflow : WorkflowRequest) (now : Time) : List WorkflowOperation :=
  if (unrestoredQuiesces workflow workflow.executedSteps).isEmpty then []
  else (compensationPick workflow now).toList.map fun pick => pick.step.operation

def passStep (s : ReopenedRow) (input : PassInput) : ReopenedRow :=
  if !s.row.status.executable || s.row.executedSteps.isEmpty then s
  else
    let claimed := claimedForPass s.row input
    if landsFailure claimed then
      { row := match landPendingFailure claimed input.outcome input.now with
          | .waiting next => next
          | .ended final =>
            (finalizeCompensatedFailure final input.commands input.incident input.predecessor input.endedAt).workflow
        dispatched := s.dispatched ++ landingDispatch claimed input.now }
    else
      let pass : ExecutorPass := { held := claimed, isSafety := s.row.executesSafetySteps }
      let run := (input.events.filter ownEvent).foldl planStep ({ row := claimed, pass := some pass }, s.dispatched)
      { row := planEnd run.1 input
        dispatched := run.2 }

/-! ### Runs -/

section Runs

variable {s : ReopenedRow} {row : WorkflowRequest} {input : PassInput} {outcome : StepOutcome} {now : Time}
  {final : CompensationEnd} {next : WorkflowRequest}

/-- Only restores were run, and a row that ended ended FAILED or BLOCKED. -/
structure OnlyCompensates (s : ReopenedRow) : Prop where
  dispatched : ∀ operation ∈ s.dispatched, operation = .restoreGpuServices
  ended : s.row.status.terminal = true → s.row.status = .failed ∨ s.row.status = .blocked

/-- A row that may run has its failure parked on it. -/
structure CarriesFailure (s : ReopenedRow) : Prop extends OnlyCompensates s where
  parked : s.row.status.executable = true → s.row.pendingFailureStepIndex.isSome

private theorem adoptQuiesceHandoff_keeps (row : WorkflowRequest) (predecessor : Option WorkflowRequest)
    (now : Time) :
    (adoptQuiesceHandoff row predecessor now).pendingFailureStepIndex = row.pendingFailureStepIndex ∧
      (adoptQuiesceHandoff row predecessor now).status = row.status := by
  unfold adoptQuiesceHandoff
  split
  · exact ⟨rfl, rfl⟩
  · split
    · exact ⟨rfl, rfl⟩
    · exact ⟨rfl, rfl⟩
    · exact ⟨rfl, rfl⟩

private theorem claimedForPass_keeps (row : WorkflowRequest) (input : PassInput) :
    (claimedForPass row input).pendingFailureStepIndex = row.pendingFailureStepIndex ∧
      (claimedForPass row input).status = .running := by
  obtain ⟨hpending, hstatus⟩ := adoptQuiesceHandoff_keeps
    { leasedClaim row input.executorId input.now input.leaseDuration (leaseActive row input.now) true with
      status := .running
      executionDeadline := input.deadline
      updatedAt := input.now } input.predecessor input.now
  exact ⟨hpending, hstatus⟩

private theorem compensationPick_keeps {pick : CompensationPick} (h : compensationPick row now = some pick) :
    pick.workflow.pendingFailureStepIndex = row.pendingFailureStepIndex ∧ pick.workflow.status = row.status := by
  rcases compensationPick_cases h with ⟨-, hrow⟩ | ⟨-, -, -, hrow⟩
  · rw [hrow]
    exact ⟨rfl, rfl⟩
  · rw [hrow]
    exact ⟨rfl, rfl⟩

private theorem landPendingFailure_waiting (h : landPendingFailure row outcome now = .waiting next) :
    next.pendingFailureStepIndex = row.pendingFailureStepIndex ∧ next.status = row.status := by
  unfold landPendingFailure at h
  split at h
  · cases h
  · unfold resumeFailureCompensation at h
    split at h
    · cases h
    · rename_i pick hpick
      split at h
      · obtain rfl := LandingResult.waiting.inj h
        exact compensationPick_keeps hpick
      · cases h

private theorem finalizeCompensatedFailure_status (final : CompensationEnd) (commands : List MintedFrom)
    (incident : Option FaultIncident) (predecessor : Option WorkflowRequest) (endedAt : Time) :
    (finalizeCompensatedFailure final commands incident predecessor endedAt).workflow.status = .failed ∨
      (finalizeCompensatedFailure final commands incident predecessor endedAt).workflow.status = .blocked := by
  unfold finalizeCompensatedFailure terminalize
  rw [terminalDecision_status, Ending.confirmed]
  split
  · exact .inr rfl
  · exact .inl rfl

private theorem landingDispatch_restores :
    ∀ operation ∈ landingDispatch row now, operation = .restoreGpuServices := by
  intro operation hoperation
  unfold landingDispatch at hoperation
  split at hoperation
  · cases hoperation
  · obtain ⟨pick, hpick, rfl⟩ := List.mem_map.mp hoperation
    exact (compensationPick_spec (Option.mem_toList.mp hpick)).2

/-- No sibling in flight makes the failure of the row wait. -/
def NothingInFlight (s : ReopenedRow) (input : PassInput) : Prop :=
  jobFailureStillDeferred (claimedForPass s.row input) (compensationIndex (claimedForPass s.row input)) = false

instance (s : ReopenedRow) (input : PassInput) : Decidable (NothingInFlight s input) :=
  inferInstanceAs (Decidable (_ = _))

private theorem passStep_carriesFailure (h : CarriesFailure s) (hflight : NothingInFlight s input) :
    CarriesFailure (passStep s input) := by
  unfold passStep
  split
  · exact h
  · rename_i hrun
    simp only [Bool.or_eq_true, Bool.not_eq_true', not_or, Bool.not_eq_false] at hrun
    obtain ⟨hpending, hstatus⟩ := claimedForPass_keeps s.row input
    have hparked : (claimedForPass s.row input).pendingFailureStepIndex.isSome := by
      rw [hpending]
      exact h.parked hrun.1
    have hlands : landsFailure (claimedForPass s.row input) = true := by
      unfold NothingInFlight at hflight
      simp [landsFailure, hparked, hflight]
    dsimp only
    rw [if_pos hlands]
    have hdispatched : ∀ operation ∈ s.dispatched ++ landingDispatch (claimedForPass s.row input) input.now,
        operation = .restoreGpuServices := by
      intro operation hoperation
      rcases List.mem_append.mp hoperation with hbefore | hnow
      · exact h.dispatched operation hbefore
      · exact landingDispatch_restores operation hnow
    split
    · rename_i next hnext
      obtain ⟨hpending', hstatus'⟩ := landPendingFailure_waiting hnext
      rw [hstatus] at hstatus'
      refine ⟨⟨hdispatched, fun hterminal => ?_⟩, fun _ => hpending' ▸ hparked⟩
      dsimp only at hterminal
      rw [hstatus'] at hterminal
      cases hterminal
    · rename_i final hfinal
      have hended :=
        finalizeCompensatedFailure_status final input.commands input.incident input.predecessor input.endedAt
      refine ⟨⟨hdispatched, fun _ => hended⟩, fun hexecutable => ?_⟩
      dsimp only at hexecutable
      rcases hended with hended | hended <;> rw [hended] at hexecutable <;> cases hexecutable

private theorem resumedRecord_carriesFailure {refreshed : WorkflowRequest} (reason : String) (now : Time)
    (h : failedRecords refreshed ≠ [] ∨ refreshed.pendingFailureStepIndex.isSome) :
    CarriesFailure { row := resumedRecord refreshed reason now } := by
  refine ⟨⟨by simp, fun hterminal => by cases hterminal⟩, fun _ => ?_⟩
  unfold resumedRecord parkedFailure
  dsimp only
  cases hlast : (failedRecords refreshed).getLast? with
  | some record => rfl
  | none =>
    rw [List.getLast?_eq_none_iff] at hlast
    exact h.resolve_left fun hne => hne hlast

/-- A row that is opened again with a failure to land, and finds no sibling in flight when it is claimed, has only
restores run and never ends SUCCEEDED. -/
theorem resumed_row_only_compensates {parked : ParkedRow} {resumed : WorkflowRequest} {passes : List PassInput}
    (h : resumeReceiptSettled parked now = some resumed)
    (hfailure : failedRecords parked.refreshed ≠ [] ∨ parked.workflow.pendingFailureStepIndex.isSome)
    (hpasses : Run.Along passStep NothingInFlight { row := resumed } passes) :
    OnlyCompensates (Run.exec passStep { row := resumed } passes) := by
  unfold resumeReceiptSettled at h
  split at h
  · obtain rfl := Option.some.inj h
    have hstart := resumedRecord_carriesFailure parked.reason now hfailure
    exact (Run.invariant_exec (fun _ _ => passStep_carriesFailure) hstart hpasses).toOnlyCompensates
  · cases h

end Runs

/-! ### A reset that runs again -/

/-- A row parked while its reset was in flight, with the command of the reset, that has ended since. -/
private def parkedReset (siblings : List WorkflowStepSpec) (records : List WorkflowStepExecution)
    (reported : RemoteCommandStatus) : ParkedRow :=
  let reset : WorkflowStepSpec := { operation := .resetGpu, nodeIds := ["a"] }
  let workflow : WorkflowRequest :=
    { requestId := "w"
      incidentId := "i"
      dagEnabled := !siblings.isEmpty
      status := .blocked
      blockedKind := some .needsOperator
      officialSteps :=
        [{ operation := .quiesceGpuServices, nodeIds := ["a"] }, reset,
          { operation := .restoreGpuServices, nodeIds := ["a"], dependsOnStepIndexes := [1] }] ++ siblings
      completedStepIndexes := [0]
      stepExecutions := records }
  { workflow
    terminalReason := some (some "dispatch failed; NODE_ACTION_OUTCOME_UNRESOLVED")
    incident := some
      { incidentId := "i"
        state := .escalated
        workflowRequestId := some "w" }
    commands :=
      [{ commandId := "c"
         clusterId := "k"
         workflowRequestId := "w"
         stepIndex := 1
         fencingToken := 1
         step := reset
         status := reported
         workflow }] }

/-- The record of the reset while its agent had not answered. -/
private def unknownReset (status : WorkflowStepStatus) : WorkflowStepExecution :=
  { stepIndex := 1
    operation := .resetGpu
    status
    phase := some .official
    adapterOperationId := some "remote/c"
    details := [("outcome_unknown", .bool true)] }

/-- A repair of another node, in flight on a local adapter. -/
private def siblingRepair : WorkflowStepSpec := { operation := .remediateDriver, nodeIds := ["b"] }

private def siblingRecord : WorkflowStepExecution :=
  { stepIndex := 3
    operation := .remediateDriver
    status := .waiting
    phase := some .official }

private def onePass (outcome : StepOutcome) (events : List ExecutorEvent) : PassInput :=
  { executorId := "x"
    leaseDuration := 10
    outcome
    events
    now := 1
    endedAt := 2 }

private def succeeds : ExecutorEvent := .record { status := .succeeded } .jobLevel (fun _ => []) [] 1

private def reopened (parked : ParkedRow) : WorkflowRequest := (resumeReceiptSettled parked 0).getD default

private theorem resumes_of_reasons (parked : ParkedRow) (h : (receiptSettledResumeReasons parked 0).isEmpty = true) :
    resumeReceiptSettled parked 0 = some (reopened parked) := by
  unfold reopened resumeReceiptSettled
  rw [if_pos h]
  rfl

/-- The reset failed; the reset was still waited for; the reset failed next to a repair in flight. -/
private def failedReset : ParkedRow := parkedReset [] [unknownReset .failed] .failed

private def waitingReset : ParkedRow := parkedReset [] [unknownReset .waiting] .succeeded

private def failedBesideSibling : ParkedRow :=
  parkedReset [siblingRepair] [unknownReset .failed, siblingRecord] .failed

/-- A failed reset is compensated: the restore is polled, then refused, and the row ends FAILED. -/
theorem resumed_failure_is_compensated :
    resumeReceiptSettled failedReset 0 = some (reopened failedReset) ∧
      OnlyCompensates (Run.exec passStep { row := reopened failedReset }
        [onePass { status := .waiting } [], onePass { status := .failed } []]) := by
  have h := resumes_of_reasons failedReset (by decide +kernel)
  refine ⟨h, resumed_row_only_compensates h (by decide +kernel) ?_⟩
  decide +kernel

/-- A row parked without a failed record goes on with its plan: the reset runs again and the row ends SUCCEEDED. Next
to a repair in flight the failed reset runs again. -/
theorem resumed_row_runs_reset :
    (resumeReceiptSettled waitingReset 0 = some (reopened waitingReset) ∧
      ∃ passes, (Run.exec passStep { row := reopened waitingReset } passes).dispatched =
          [.resetGpu, .restoreGpuServices] ∧
        (Run.exec passStep { row := reopened waitingReset } passes).row.status = .succeeded ∧
        ¬OnlyCompensates (Run.exec passStep { row := reopened waitingReset } passes)) ∧
    resumeReceiptSettled failedBesideSibling 0 = some (reopened failedBesideSibling) ∧
      ∃ passes, (Run.exec passStep { row := reopened failedBesideSibling } passes).dispatched = [.resetGpu] ∧
        ¬OnlyCompensates (Run.exec passStep { row := reopened failedBesideSibling } passes) := by
  refine ⟨⟨resumes_of_reasons _ (by decide +kernel), ?_⟩, resumes_of_reasons _ (by decide +kernel), ?_⟩
  · let pass := onePass { status := .waiting } [.scan 1, .dispatch, succeeds, .scan 1, .dispatch, succeeds]
    have hdispatched : (Run.exec passStep { row := reopened waitingReset } [pass]).dispatched =
        [.resetGpu, .restoreGpuServices] := by decide +kernel
    refine ⟨[pass], hdispatched, by decide +kernel, fun honly => ?_⟩
    have hreset := honly.dispatched .resetGpu (by rw [hdispatched]; simp)
    cases hreset
  · have hdispatched : (Run.exec passStep { row := reopened failedBesideSibling }
        [onePass { status := .waiting } [.scan 1, .dispatch]]).dispatched = [.resetGpu] := by decide +kernel
    refine ⟨_, hdispatched, fun honly => ?_⟩
    have hreset := honly.dispatched .resetGpu (by rw [hdispatched]; simp)
    cases hreset

end GpuFaultRecovery
