import GpuFaultRecovery.TerminalState
import GpuFaultRecovery.RemediationBudget
import GpuFaultRecovery.StepRecord
import GpuFaultRecovery.ListEdits

/-!
# The deadline watchdog

The dispatcher reaps a RUNNING row that is past its deadline and whose lease lapsed. It claims the row, cancels its
remote commands, records a FAILED execution of the step the deadline caught and ends the row. The record replaces
every record of that step. What the step's own records said about an action in flight is gone unless a receipt says it
again, and the step is the first one that is not completed, superseded or not.
-/

namespace GpuFaultRecovery

open ListEdits

/-! ### The reap -/

/-- The step the deadline caught: the first one that is not completed, else the last one. -/
def deadlineStepIndex (workflow : WorkflowRequest) : Nat :=
  ((List.range workflow.executedSteps.length).find? fun index => !workflow.completedStepIndexes.contains index).getD
    (workflow.executedSteps.length - 1)

/-- The verdict of the watchdog on a step. -/
structure DeadlineVerdict where
  error : String
  details : Details

/-- The FAILED record the watchdog adds; a row without steps gets none. -/
def deadlineRecord (workflow : WorkflowRequest) (verdict : DeadlineVerdict) (now : Time) :
    Option WorkflowStepExecution :=
  (workflow.executedSteps[deadlineStepIndex workflow]?).map fun step =>
    { stepIndex := deadlineStepIndex workflow
      operation := step.operation
      status := .failed
      phase := some workflow.executionPhase
      error := some verdict.error
      details := verdict.details
      startedAt := now
      updatedAt := now }

/-- The records of the steps other than the one at `index`. -/
def recordsBeside (workflow : WorkflowRequest) (index : Nat) (operation : WorkflowOperation) :
    List WorkflowStepExecution :=
  workflow.stepExecutions.filter fun item =>
    !executionMatchesStep item index operation (some workflow.executionPhase)

/-- The records of a row with the watchdog's in the place of those of the step it caught. -/
def deadlineStepExecutions (workflow : WorkflowRequest) (verdict : DeadlineVerdict) (now : Time) :
    List WorkflowStepExecution :=
  match deadlineRecord workflow verdict now with
  | none => workflow.stepExecutions
  | some record =>
    (recordsBeside workflow record.stepIndex record.operation ++ [record]).insertionSort (·.stepIndex ≤ ·.stepIndex)

/-- The commands of a row that its cancellation ends, and those it asks to stop. -/
def cancellationCounts (commands : List MintedFrom) (requestId : String) : Nat × Nat :=
  let own := commands.filter fun command => command.workflowRequestId == requestId
  ((own.filter fun command => command.status == .pending || command.status == .waiting).length,
    (own.filter fun command => command.status == .leased && command.cancellationRequestedAt.isNone).length)

/-- What the watchdog says of a row that is overdue. -/
def deadlineVerdict (isoformat : Time → String) (deadline now : Time) (cancellation : Nat × Nat) : DeadlineVerdict :=
  let overdue := (now - deadline).tdiv 1000000
  { error := s!"workflow execution deadline exceeded at {isoformat deadline} ({overdue}s overdue); " ++
      "reaped by the dispatcher watchdog"
    details :=
      [("workflow_execution_deadline", .str (isoformat deadline)),
        ("workflow_deadline_overdue_seconds", .int overdue), ("workflow_deadline_remote_command_cancellation",
          .obj [("cancelled", .int cancellation.1), ("cancellation_requested", .int cancellation.2)])] }

/-- What a reap works with besides the row: the incident and the predecessor of the row, the commands when they are
cancelled and the receipts when the row is judged, the clock at the claim and at the end. -/
structure ReapContext where
  executorId : String
  isoformat : Time → String
  incident : Option FaultIncident
  predecessor : Option WorkflowRequest
  commands : List MintedFrom
  receipts : List MintedFrom
  now : Time
  endedAt : Time

/-- A reaped row: as claimed, with the record added, and as it ended. -/
structure Reaped where
  claimed : WorkflowRequest
  added : Option WorkflowStepExecution
  judged : WorkflowRequest
  decision : TerminalDecision

/-- End a row with a deadline that nobody holds (`_reap_overdue_workflow`); the sweep hands over the RUNNING rows
whose deadline is past. -/
def reapOverdueWorkflow (rows : WorkflowTable) (workflow : WorkflowRequest) (context : ReapContext) : Option Reaped :=
  match workflow.executionDeadline with
  | none => none
  | some deadline =>
    if workflow.executionOwnerId.isSome && leaseActive workflow context.now then none
    else
      match (claimWorkflow rows
        { requestId := workflow.requestId
          executorId := context.executorId
          fencingToken := workflow.fencingToken
          now := context.now
          leaseDuration := 30000000
          budgetClaims := none }).2 with
      | .error _ => none
      | .ok claimed =>
        let verdict := deadlineVerdict context.isoformat deadline context.now
          (cancellationCounts context.commands workflow.requestId)
        let updates := fun row : WorkflowRequest =>
          { row with stepExecutions := deadlineStepExecutions claimed verdict context.now }
        some
          { claimed
            added := deadlineRecord claimed verdict context.now
            judged := refreshRemoteActionState context.receipts (updates claimed)
            decision := terminalize context.receipts updates claimed context.incident
              { status := .failed
                reason := some verdict.error }
              context.predecessor context.endedAt }

/-! ### Receipts and one record more -/

section Receipts

variable {executions snapshots xs ys unresolved : List WorkflowStepExecution}
  {record snapshot item : WorkflowStepExecution}
  {identity : Option StepPhase × Nat × WorkflowOperation} {workflow : WorkflowRequest}

/-- The receipt that speaks for its step: the newest unresolved one, else the newest. -/
def speakingReceipt (snapshots : List WorkflowStepExecution) : Option WorkflowStepExecution :=
  let unresolved := snapshots.filter unresolvedNodeAction
  newestSnapshot (if unresolved.isEmpty then snapshots else unresolved)

/-- What becomes of the last record of a step when its receipts are read, and what is appended. -/
def answeredRecord (previous snapshot : WorkflowStepExecution) (unresolved : List WorkflowStepExecution) :
    WorkflowStepExecution × List WorkflowStepExecution :=
  if previous.status == .succeeded || (operatorConfirmation previous.details).isSome then
    (previous,
      if !unresolved.isEmpty && previous.adapterOperationId != snapshot.adapterOperationId then [snapshot] else [])
  else (refreshedRecord previous snapshot unresolved, [])

def sameStep (snapshot item : WorkflowStepExecution) : Bool :=
  executionMatchesStep item snapshot.stepIndex snapshot.operation snapshot.phase

private theorem refreshStep_silent (h : speakingReceipt snapshots = none) :
    refreshStep executions snapshots = executions := by
  unfold refreshStep
  unfold speakingReceipt at h
  dsimp only at h ⊢
  rw [h]

theorem refreshStep_unmatched (h : speakingReceipt snapshots = some snapshot)
    (hnone : ∀ item ∈ executions, sameStep snapshot item = false) :
    refreshStep executions snapshots =
      executions ++ if (snapshots.filter unresolvedNodeAction).isEmpty then [] else [snapshot] := by
  have hpositions : (positions (sameStep snapshot) executions).getLast? = none := by rw [positions_eq_nil hnone]; rfl
  unfold refreshStep
  unfold speakingReceipt at h
  dsimp only at h ⊢
  rw [h]
  dsimp only
  split
  · split <;> simp
  · rename_i position hlast
    cases hpositions.symm.trans hlast

theorem refreshStep_matched {front back : List WorkflowStepExecution}
    (h : speakingReceipt snapshots = some snapshot) (hrecord : sameStep snapshot record = true)
    (hback : ∀ item ∈ back, sameStep snapshot item = false) :
    refreshStep (front ++ record :: back) snapshots =
      front ++ (answeredRecord record snapshot (snapshots.filter unresolvedNodeAction)).1 :: back ++
        (answeredRecord record snapshot (snapshots.filter unresolvedNodeAction)).2 := by
  have hpositions := getLast?_positions front hrecord hback
  unfold refreshStep answeredRecord
  unfold speakingReceipt at h
  dsimp only at h ⊢
  rw [h]
  dsimp only
  split
  · rename_i hlast
    cases hpositions.symm.trans hlast
  · rename_i position hlast
    cases Option.some.inj (hpositions.symm.trans hlast)
    rw [List.getElem?_append_right (Nat.le_refl _), Nat.sub_self, List.getElem?_cons_zero]
    dsimp only
    split
    · split <;> simp
    · simp

/-- Reading the receipts of a step does not see a record of another one. -/
private theorem refreshStep_inserted
    (hother : ∀ snapshot, speakingReceipt snapshots = some snapshot → sameStep snapshot record = false)
    (h : Inserted record xs ys) : Inserted record (refreshStep xs snapshots) (refreshStep ys snapshots) := by
  cases hspeaking : speakingReceipt snapshots with
  | none =>
    rw [refreshStep_silent hspeaking, refreshStep_silent hspeaking]
    exact h
  | some snapshot =>
    have hrecord := hother snapshot hspeaking
    rcases none_or_last (sameStep snapshot) xs with hnone | ⟨front, last, back, hxs, hlast, hback⟩
    · have hnone' : ∀ item ∈ ys, sameStep snapshot item = false := by
        intro item hitem
        rcases (h.mem_iff item).mp hitem with rfl | hitem
        · exact hrecord
        · exact hnone item hitem
      rw [refreshStep_unmatched hspeaking hnone, refreshStep_unmatched hspeaking hnone']
      exact h.append _
    · subst hxs
      rw [refreshStep_matched hspeaking hlast hback]
      rcases h.around with ⟨front', hfront, rfl⟩ | ⟨back', hback', rfl⟩
      · rw [refreshStep_matched hspeaking hlast hback]
        exact (hfront.append _).append _
      · have hnone' : ∀ item ∈ back', sameStep snapshot item = false := by
          intro item hitem
          rcases (hback'.mem_iff item).mp hitem with rfl | hitem
          · exact hrecord
          · exact hback item hitem
        rw [refreshStep_matched hspeaking hlast hnone']
        exact ((hback'.cons _).left _).append _

private theorem answeredRecord_identity (previous : WorkflowStepExecution) :
    (answeredRecord previous snapshot unresolved).1.identity = previous.identity := by
  unfold answeredRecord
  split <;> rfl

theorem newestSnapshot_mem {l : List WorkflowStepExecution} (h : newestSnapshot l = some snapshot) :
    snapshot ∈ l := by
  cases l with
  | nil => cases h
  | cons first rest =>
    obtain rfl := Option.some.inj h
    clear h
    induction rest generalizing first with
    | nil => simp
    | cons item rest ih =>
      rw [List.foldl_cons]
      rcases List.mem_cons.mp (ih (if first.updatedAt < item.updatedAt then item else first)) with hhead | hrest
      · rw [hhead]
        split <;> simp
      · simp [hrest]

theorem speakingReceipt_mem (h : speakingReceipt snapshots = some snapshot) : snapshot ∈ snapshots := by
  have hmem := newestSnapshot_mem h
  split at hmem
  · exact hmem
  · exact (List.mem_filter.mp hmem).1

/-- A record after the receipts were read has the name of one before, or is a receipt. -/
private theorem mem_refreshStep (h : item ∈ refreshStep executions snapshots) :
    (∃ earlier ∈ executions, item.identity = earlier.identity) ∨ item ∈ snapshots := by
  cases hspeaking : speakingReceipt snapshots with
  | none =>
    rw [refreshStep_silent hspeaking] at h
    exact .inl ⟨item, h, rfl⟩
  | some snapshot =>
    have hmem := speakingReceipt_mem hspeaking
    rcases none_or_last (sameStep snapshot) executions with hnone | ⟨front, last, back, rfl, hlast, hback⟩
    · rw [refreshStep_unmatched hspeaking hnone] at h
      rcases List.mem_append.mp h with h | h
      · exact .inl ⟨item, h, rfl⟩
      · split at h
        · cases h
        · exact .inr (List.mem_singleton.mp h ▸ hmem)
    · rw [refreshStep_matched hspeaking hlast hback] at h
      rcases List.mem_append.mp h with h | h
      · rcases List.mem_append.mp h with h | h
        · exact .inl ⟨item, List.mem_append_left _ h, rfl⟩
        · rcases List.mem_cons.mp h with rfl | h
          · exact .inl ⟨last, by simp, answeredRecord_identity last⟩
          · exact .inl ⟨item, by simp [h], rfl⟩
      · right
        unfold answeredRecord at h
        split at h
        · dsimp only at h
          split at h
          · exact List.mem_singleton.mp h ▸ hmem
          · cases h
        · cases h

private theorem sameStep_congr (h : item.identity = record.identity) :
    sameStep snapshot item = sameStep snapshot record := by
  simp only [WorkflowStepExecution.identity, Prod.mk.injEq] at h
  simp only [sameStep, executionMatchesStep, h.1, h.2.1, h.2.2]

private theorem sameStep_of_phases (hitem : item.phase.isSome) (hsnapshot : snapshot.phase.isSome) :
    sameStep snapshot item = true ↔ item.identity = snapshot.identity := by
  cases hp : item.phase with
  | none => rw [hp] at hitem; cases hitem
  | some phase =>
    cases hq : snapshot.phase with
    | none => rw [hq] at hsnapshot; cases hsnapshot
    | some phase' =>
      simp [sameStep, executionMatchesStep, WorkflowStepExecution.identity, hp, hq]
      tauto

end Receipts

/-! ### The receipts of several steps -/

section Fold

variable {snapshots xs ys : List WorkflowStepExecution} {record item : WorkflowStepExecution}
  {identities : List (Option StepPhase × Nat × WorkflowOperation)} {workflow : WorkflowRequest}

def receiptsOf (snapshots : List WorkflowStepExecution) (identity : Option StepPhase × Nat × WorkflowOperation) :
    List WorkflowStepExecution :=
  snapshots.filter fun snapshot => snapshot.identity == identity

theorem receiptsOf_identity (snapshots : List WorkflowStepExecution)
    (identity : Option StepPhase × Nat × WorkflowOperation) :
    ∀ receipt ∈ receiptsOf snapshots identity, receipt.identity = identity := by
  intro receipt h
  simpa using (List.mem_filter.mp h).2

/-- Read the receipts of the steps `identities`, in this order. -/
def refreshSteps (snapshots : List WorkflowStepExecution)
    (identities : List (Option StepPhase × Nat × WorkflowOperation)) (executions : List WorkflowStepExecution) :
    List WorkflowStepExecution :=
  identities.foldl (fun executions identity => refreshStep executions (receiptsOf snapshots identity)) executions

def receiptIdentities (snapshots : List WorkflowStepExecution) : List (Option StepPhase × Nat × WorkflowOperation) :=
  (snapshots.map WorkflowStepExecution.identity).eraseDups

theorem phase_of_mem_remoteSnapshots {commands : List MintedFrom} (h : item ∈ remoteSnapshots workflow commands) :
    item.phase.isSome := by
  simp only [remoteSnapshots, List.mem_flatMap, List.mem_filterMap, Option.filter_eq_some_iff] at h
  obtain ⟨command, -, entry, -, hitem, -⟩ := h
  simp only [remoteStepExecution, Option.bind_eq_bind, Option.bind_eq_some_iff, Option.pure_def,
    Option.some.injEq] at hitem
  obtain ⟨reading, -, rfl⟩ := hitem
  rfl

variable (hphases : ∀ snapshot ∈ snapshots, snapshot.phase.isSome)

include hphases in
private theorem refreshSteps_inserted (hrecord : record.phase.isSome) (hother : record.identity ∉ identities)
    (h : Inserted record xs ys) :
    Inserted record (refreshSteps snapshots identities xs) (refreshSteps snapshots identities ys) := by
  induction identities generalizing xs ys with
  | nil => exact h
  | cons identity identities ih =>
    rw [List.mem_cons, not_or] at hother
    refine ih hother.2 (refreshStep_inserted (fun snapshot hspeaking => ?_) h)
    obtain ⟨hmem, hidentity⟩ := List.mem_filter.mp (speakingReceipt_mem hspeaking)
    rw [beq_iff_eq] at hidentity
    rw [Bool.eq_false_iff, ne_eq, sameStep_of_phases hrecord (hphases snapshot hmem), hidentity]
    exact hother.1

include hphases in
private theorem refreshSteps_beside (hrecord : record.phase.isSome) (hother : record.identity ∉ identities)
    (h : ∀ item ∈ xs, sameStep record item = false) :
    ∀ item ∈ refreshSteps snapshots identities xs, sameStep record item = false := by
  induction identities generalizing xs with
  | nil => exact h
  | cons identity identities ih =>
    rw [List.mem_cons, not_or] at hother
    refine ih hother.2 fun item hitem => ?_
    rcases mem_refreshStep hitem with ⟨earlier, hearlier, hsame⟩ | hreceipt
    · rw [sameStep_congr hsame]
      exact h earlier hearlier
    · obtain ⟨hmem, hidentity⟩ := List.mem_filter.mp hreceipt
      rw [beq_iff_eq] at hidentity
      rw [Bool.eq_false_iff, ne_eq, sameStep_of_phases (hphases item hmem) hrecord, hidentity]
      exact Ne.symm hother.1

end Fold

/-! ### What is left of an action in flight -/

section Judged

variable {xs ys snapshots receipts unresolved : List WorkflowStepExecution} {record snapshot : WorkflowStepExecution}
  {workflow : WorkflowRequest} {verdict : DeadlineVerdict} {now : Time} {commands : List MintedFrom}

/-- Whether the receipt that speaks for a step that failed leaves its action in flight. -/
def receiptInFlight (receipts : List WorkflowStepExecution) : Bool :=
  (speakingReceipt receipts).any fun receipt =>
    unresolvedNodeAction
      { receipt with
        status := .failed
        details := Details.merge [] receipt.details }

/-- The row without its step at `index`: the records of the other steps, their own receipts read. -/
def otherSteps (workflow : WorkflowRequest) (index : Nat) (operation : WorkflowOperation)
    (commands : List MintedFrom) :
    WorkflowRequest :=
  let snapshots := remoteSnapshots workflow commands
  { workflow with
    stepExecutions := refreshSteps snapshots
      ((receiptIdentities snapshots).filter (· != (some workflow.executionPhase, index, operation)))
      ((recordsBeside workflow index operation).insertionSort (·.stepIndex ≤ ·.stepIndex)) }

/-- A record with a name of its own adds its own action to those in flight. -/
private theorem unresolved_inserted (workflow : WorkflowRequest) (h : Inserted record xs ys)
    (hne : ∀ item ∈ xs, item.identity ≠ record.identity) :
    hasUnresolvedNodeAction { workflow with stepExecutions := ys } true = true ↔
      hasUnresolvedNodeAction { workflow with stepExecutions := xs } true = true ∨
        unresolvedNodeAction record = true := by
  obtain ⟨front, back, rfl, rfl⟩ := h
  have hfront : recordsOf front record.identity = [] := by
    rw [recordsOf, List.filter_eq_nil_iff]
    intro item hitem
    simpa using hne item (List.mem_append_left _ hitem)
  have hback : recordsOf back record.identity = [] := by
    rw [recordsOf, List.filter_eq_nil_iff]
    intro item hitem
    simpa using hne item (List.mem_append_right _ hitem)
  have hothers : ∀ identity, record.identity ≠ identity →
      recordsOf (front ++ record :: back) identity = recordsOf (front ++ back) identity := by
    intro identity hidentity
    simp [recordsOf, hidentity]
  have hown : ∀ tail, recordsOf (front ++ tail) record.identity = recordsOf tail record.identity := by
    intro tail
    rw [recordsOf, List.filter_append]
    exact (congrArg (· ++ _) hfront).trans (List.nil_append _)
  have hrecord : recordsOf (front ++ record :: back) record.identity = [record] := by
    rw [hown, recordsOf, List.filter_cons_of_pos (by simp)]
    exact congrArg _ hback
  have hnone : recordsOf (front ++ back) record.identity = [] := by rw [hown, hback]
  rw [hasUnresolvedNodeAction_iff, hasUnresolvedNodeAction_iff]
  dsimp only
  constructor
  · rintro ⟨item, hlast, hitem⟩
    by_cases hsame : record.identity = item.identity
    · rw [← hsame, hrecord] at hlast
      cases hlast
      exact .inr hitem
    · rw [hothers _ hsame] at hlast
      exact .inl ⟨item, hlast, hitem⟩
  · rintro (⟨item, hlast, hitem⟩ | hitem)
    · by_cases hsame : record.identity = item.identity
      · rw [← hsame, hnone] at hlast
        cases hlast
      · exact ⟨item, by rw [hothers _ hsame, hlast], hitem⟩
    · exact ⟨record, by rw [hrecord]; rfl, hitem⟩

private theorem get?_merge_congr {d d' : Details} (e : Details) {key : String} (h : d.get? key = d'.get? key) :
    (d.merge e).get? key = (d'.merge e).get? key := by
  unfold Details.merge
  induction e generalizing d d' with
  | nil => exact h
  | cons kv e ih =>
    refine ih ?_
    by_cases hkey : key = kv.1
    · rw [hkey, Details.get?_set_self, Details.get?_set_self]
    · rw [Details.get?_set_ne _ _ hkey, Details.get?_set_ne _ _ hkey, h]

/-- The entries that say whether an action is in flight. -/
def uncertaintyKeys : List String :=
  ["operator_confirmed", "outcome_unknown", "node_action_interrupted", "node_action_response_unknown",
    "ownership_permit_delivery_unknown", "node_action_state", "node_action_command_id",
      "manual_confirmation_required",
    "node_action_not_started", "node_action_outcome_known", "restore_gpu_services_withheld"]

private theorem boundDetails_ne_uncertaintyKeys : ∀ key ∈ uncertaintyKeys,
    boundDetails.contains key = false ∧ key ≠ "unresolved_remote_command_ids" := by
  decide

private theorem unresolvedDetails_congr {d d' : Details} (h : ∀ key ∈ uncertaintyKeys, d.get? key = d'.get? key) :
    unresolvedDetails d = unresolvedDetails d' := by
  have hconfirmed : operatorConfirmation d = operatorConfirmation d' := by
    rw [operatorConfirmation, operatorConfirmation, h _ (by simp [uncertaintyKeys])]
  have hcommand : d.text? "node_action_command_id" = d'.text? "node_action_command_id" := by
    rw [Details.text?, Details.text?, h _ (by simp [uncertaintyKeys])]
  have hflag : ∀ key ∈ uncertaintyKeys, d.flag key = d'.flag key := fun key hkey => by
    rw [Details.flag, Details.flag, h key hkey]
  simp only [unresolvedDetails, hconfirmed, hcommand, h "node_action_state" (by simp [uncertaintyKeys]),
    List.any_cons, List.any_nil, hflag "outcome_unknown" (by simp [uncertaintyKeys]),
    hflag "node_action_interrupted" (by simp [uncertaintyKeys]),
    hflag "node_action_response_unknown" (by simp [uncertaintyKeys]),
    hflag "ownership_permit_delivery_unknown" (by simp [uncertaintyKeys]),
    hflag "manual_confirmation_required" (by simp [uncertaintyKeys]),
    hflag "node_action_not_started" (by simp [uncertaintyKeys]),
    hflag "node_action_outcome_known" (by simp [uncertaintyKeys])]
  rfl

/-- On what tells whether an action is in flight, a refreshed record says what its receipt says. -/
theorem get?_refreshedRecord {key : String} (hkey : key ∈ uncertaintyKeys) :
    (refreshedRecord record snapshot unresolved).details.get? key = (Details.merge [] snapshot.details).get? key := by
  have hbound := boundDetails_ne_uncertaintyKeys key hkey
  have hkept : Details.get? (record.details.filter fun entry => boundDetails.contains entry.1) key =
      Details.get? [] key := by
    unfold Details.get?
    rw [List.lookup_nil, List.lookup_eq_none_iff]
    intro entry hentry
    rw [bne_iff_ne]
    rintro rfl
    have hcontains := (List.mem_filter.mp hentry).2
    rw [hbound.1] at hcontains
    cases hcontains
  have hmerged := get?_merge_congr snapshot.details hkept
  unfold refreshedRecord
  dsimp only
  split
  · exact hmerged
  · rw [Details.get?_set_ne _ _ hbound.2]
    exact hmerged

/-- A receipt does not finish a record. -/
theorem refreshedRecord_ne_succeeded (hstatus : record.status ≠ .succeeded) :
    (refreshedRecord record snapshot unresolved).status ≠ .succeeded := by
  unfold refreshedRecord
  dsimp only
  split
  · rename_i hended
    simp only [Bool.and_eq_true, beq_iff_eq] at hended
    rw [hended.1.2]
    decide
  · exact hstatus

/-- A record that did not succeed is in flight once its receipt is. -/
theorem unresolved_refreshedRecord (hstatus : record.status ≠ .succeeded)
    (hoperation : record.operation = snapshot.operation) :
    unresolvedNodeAction (refreshedRecord record snapshot unresolved) =
      unresolvedNodeAction
        { snapshot with
          status := .failed
          details := Details.merge [] snapshot.details } := by
  have hkeys : ∀ key ∈ uncertaintyKeys, (refreshedRecord record snapshot unresolved).details.get? key =
      (Details.merge [] snapshot.details).get? key := fun key hkey => get?_refreshedRecord hkey
  have hsame : (refreshedRecord record snapshot unresolved).operation = snapshot.operation := hoperation
  have hwithheld : (refreshedRecord record snapshot unresolved).details.flag "restore_gpu_services_withheld" =
      (Details.merge [] snapshot.details).flag "restore_gpu_services_withheld" := by
    rw [Details.flag, hkeys _ (by simp [uncertaintyKeys]), Details.flag]
  have hopen : ((refreshedRecord record snapshot unresolved).status == .succeeded) = false :=
    beq_eq_false_iff_ne.mpr (refreshedRecord_ne_succeeded hstatus)
  rw [unresolvedNodeAction, unresolvedNodeAction, hopen, hsame, hwithheld, unresolvedDetails_congr hkeys]
  rfl

/-- The verdict of the watchdog says nothing about the action of the step. -/
private theorem deadlineVerdict_get? (isoformat : Time → String) (deadline : Time) (cancellation : Nat × Nat)
    {key : String} (h : key ∈ uncertaintyKeys) :
    (deadlineVerdict isoformat deadline now cancellation).details.get? key = none := by
  have hbound := (boundDetails_ne_uncertaintyKeys key h).1
  have hverdict : ∀ entry ∈ (deadlineVerdict isoformat deadline now cancellation).details,
      boundDetails.contains entry.1 = true := by
    have hnames : (deadlineVerdict isoformat deadline now cancellation).details.map Prod.fst =
        ["workflow_execution_deadline", "workflow_deadline_overdue_seconds",
          "workflow_deadline_remote_command_cancellation"] := rfl
    intro entry hentry
    have hname : entry.1 ∈ _ := List.mem_map_of_mem hentry
    rw [hnames] at hname
    exact (show ∀ name ∈ ["workflow_execution_deadline", "workflow_deadline_overdue_seconds",
      "workflow_deadline_remote_command_cancellation"], boundDetails.contains name = true by decide) _ hname
  unfold Details.get?
  rw [List.lookup_eq_none_iff]
  intro entry hentry
  rw [bne_iff_ne]
  rintro rfl
  rw [hverdict entry hentry] at hbound
  cases hbound

/-- The record of the watchdog after the receipts of its step. -/
private theorem refreshStep_caught (hstatus : record.status = .failed)
    (hconfirmed : operatorConfirmation record.details = none)
    (hreceipts : ∀ receipt ∈ receipts, receipt.identity = record.identity)
    (hphase : record.phase.isSome) (hbeside : ∀ item ∈ xs, sameStep record item = false) (h : Inserted record xs ys)
    (hnone : unresolvedNodeAction record = false) :
    ∃ record', record'.identity = record.identity ∧ Inserted record' xs (refreshStep ys receipts) ∧
      unresolvedNodeAction record' = receiptInFlight receipts := by
  cases hspeaking : speakingReceipt receipts with
  | none =>
    refine ⟨record, rfl, ?_, by simp [receiptInFlight, hspeaking, hnone]⟩
    rw [refreshStep_silent hspeaking]
    exact h
  | some snapshot =>
    have hidentity := hreceipts snapshot (speakingReceipt_mem hspeaking)
    simp only [WorkflowStepExecution.identity, Prod.mk.injEq] at hidentity
    have hstep : ∀ item, sameStep snapshot item = sameStep record item := fun item => by
      simp only [sameStep, hidentity.1, hidentity.2.1, hidentity.2.2]
    have hown : sameStep snapshot record = true := by
      rw [hstep, sameStep_of_phases hphase hphase]
    obtain ⟨front, back, rfl, rfl⟩ := h
    have hback : ∀ item ∈ back, sameStep snapshot item = false := by
      intro item hitem
      rw [hstep]
      exact hbeside item (List.mem_append_right _ hitem)
    refine ⟨refreshedRecord record snapshot (receipts.filter unresolvedNodeAction), rfl, ?_, ?_⟩
    · rw [refreshStep_matched hspeaking hown hback]
      simp only [answeredRecord, hstatus, hconfirmed]
      exact ⟨front, back, rfl, by simp⟩
    · rw [unresolved_refreshedRecord (by simp [hstatus]) hidentity.2.2.symm, receiptInFlight, hspeaking]
      rfl

private theorem deadlineRecord_quiet (hrecord : deadlineRecord workflow verdict now = some record)
    (hverdict : ∀ key ∈ uncertaintyKeys, verdict.details.get? key = none) :
    record.phase = some workflow.executionPhase ∧ record.status = .failed ∧
      operatorConfirmation record.details = none ∧ unresolvedNodeAction record = false := by
  simp only [deadlineRecord, Option.map_eq_some_iff] at hrecord
  obtain ⟨step, -, hfields⟩ := hrecord
  have hdetails : record.details = verdict.details := by rw [← hfields]
  have hconfirmed : operatorConfirmation record.details = none := by
    rw [hdetails, operatorConfirmation, hverdict _ (by simp [uncertaintyKeys])]
  have hquiet : unresolvedDetails record.details = false := by
    have hempty : ∀ key ∈ uncertaintyKeys, verdict.details.get? key = Details.get? [] key := hverdict
    rw [hdetails, unresolvedDetails_congr hempty]
    decide
  refine ⟨by rw [← hfields], by rw [← hfields], hconfirmed, ?_⟩
  rw [unresolvedNodeAction, hquiet, ite_self]

section Caught

variable (hphases : ∀ snapshot ∈ snapshots, snapshot.phase.isSome) (hsome : record.phase.isSome)
  (hbeside : ∀ item ∈ xs, sameStep record item = false)

include hphases hsome hbeside

private theorem refreshSteps_ne_identity {identities : List (Option StepPhase × Nat × WorkflowOperation)}
    (hother : record.identity ∉ identities) :
    ∀ item ∈ refreshSteps snapshots identities xs, item.identity ≠ record.identity := by
  intro item hitem hsame
  have hfalse := refreshSteps_beside hphases hsome hother hbeside item hitem
  rw [sameStep_congr hsame, (sameStep_of_phases hsome hsome).mpr rfl] at hfalse
  cases hfalse

/-- The receipts of the other steps are read past the watchdog's record; those of its own step change it. -/
private theorem refreshSteps_caught (hstatus : record.status = .failed)
    (hconfirmed : operatorConfirmation record.details = none)
    (hnone : unresolvedNodeAction record = false) (hinserted : Inserted record xs ys)
    {before after : List (Option StepPhase × Nat × WorkflowOperation)} (hbefore : record.identity ∉ before)
    (hafter : record.identity ∉ after) :
    ∃ record', record'.identity = record.identity ∧
      Inserted record' (refreshSteps snapshots (before ++ after) xs)
        (refreshSteps snapshots (before ++ record.identity :: after) ys) ∧
      unresolvedNodeAction record' = receiptInFlight (receiptsOf snapshots record.identity) := by
  have hfirst := refreshSteps_inserted hphases hsome hbefore hinserted
  obtain ⟨record', hname, hinserted', hflight⟩ := refreshStep_caught hstatus hconfirmed
    (receiptsOf_identity snapshots record.identity) hsome
    (refreshSteps_beside hphases hsome hbefore hbeside) hfirst hnone
  have hsome' : record'.phase.isSome := by
    rw [show record'.phase = record.phase from congrArg Prod.fst hname]
    exact hsome
  refine ⟨record', hname, ?_, hflight⟩
  rw [refreshSteps, List.foldl_append, refreshSteps, List.foldl_append, List.foldl_cons]
  exact refreshSteps_inserted hphases hsome' (hname ▸ hafter) hinserted'

end Caught

/-- With the watchdog's record on it a row shows an action in flight if another step does, or a receipt of its own
step. -/
private theorem judged_unresolved_iff (hrecord : deadlineRecord workflow verdict now = some record)
    (hverdict : ∀ key ∈ uncertaintyKeys, verdict.details.get? key = none) :
    hasUnresolvedNodeAction (refreshRemoteActionState commands
        { workflow with stepExecutions := deadlineStepExecutions workflow verdict now }) true = true ↔
      hasUnresolvedNodeAction (otherSteps workflow record.stepIndex record.operation commands) true = true ∨
        receiptInFlight (receiptsOf (remoteSnapshots workflow commands) record.identity) = true := by
  obtain ⟨hphase, hstatus, hconfirmed, hnone⟩ := deadlineRecord_quiet hrecord hverdict
  set snapshots := remoteSnapshots workflow commands with hsnapshots
  have hphases : ∀ snapshot ∈ snapshots, snapshot.phase.isSome := fun snapshot h => phase_of_mem_remoteSnapshots h
  have hsome : record.phase.isSome := by rw [hphase]; rfl
  set others := (recordsBeside workflow record.stepIndex record.operation).insertionSort (·.stepIndex ≤ ·.stepIndex)
    with hothers
  have hbeside : ∀ item ∈ others, sameStep record item = false := by
    intro item hitem
    rw [hothers, List.mem_insertionSort, recordsBeside, List.mem_filter, ← hphase] at hitem
    simpa [sameStep] using hitem.2
  have hinserted : Inserted record others (deadlineStepExecutions workflow verdict now) := by
    rw [deadlineStepExecutions, hrecord]
    exact inserted_insertionSort WorkflowStepExecution.stepIndex _ record
  have hidentity : record.identity = (some workflow.executionPhase, record.stepIndex, record.operation) := by
    rw [WorkflowStepExecution.identity, hphase]
  rw [otherSteps, ← hidentity]
  by_cases hmem : record.identity ∈ receiptIdentities snapshots
  · -- the caught step has receipts of its own, read between those of the others
    obtain ⟨before, after, hsplit, hbefore, hafter, hfilter⟩ :=
      split_of_nodup (nodup_eraseDups (snapshots.map WorkflowStepExecution.identity)) hmem
    rw [← receiptIdentities] at hsplit hfilter
    obtain ⟨record', hname, hinserted', hflight⟩ :=
      refreshSteps_caught hphases hsome hbeside hstatus hconfirmed hnone hinserted hbefore hafter
    have hfresh : ∀ item ∈ refreshSteps snapshots (before ++ after) others, item.identity ≠ record'.identity := by
      rw [hname]
      exact refreshSteps_ne_identity hphases hsome hbeside (by simp [hbefore, hafter])
    rw [← hflight, hfilter, ← unresolved_inserted workflow hinserted' hfresh, ← hsplit]
    exact Iff.of_eq (congrArg (· = true) (hasUnresolvedNodeAction_congr rfl true))
  · have hfilter : (receiptIdentities snapshots).filter (· != record.identity) = receiptIdentities snapshots :=
      List.filter_eq_self.mpr fun identity h => by simpa using ne_of_mem_of_not_mem h hmem
    have hsilent : receiptsOf snapshots record.identity = [] := by
      rw [receiptsOf, List.filter_eq_nil_iff]
      intro snapshot hsnapshot hsame
      refine hmem ?_
      rw [receiptIdentities, List.mem_eraseDups, ← beq_iff_eq.mp hsame]
      exact List.mem_map_of_mem hsnapshot
    have hinserted' := refreshSteps_inserted hphases hsome hmem hinserted
    have hfresh := refreshSteps_ne_identity hphases hsome hbeside hmem
    rw [hsilent, hfilter, show receiptInFlight [] = false from rfl, ← hnone,
      ← unresolved_inserted workflow hinserted' hfresh]
    exact Iff.of_eq (congrArg (· = true) (hasUnresolvedNodeAction_congr rfl true))

end Judged

/-! ### What a reap keeps -/

section Reap

variable {workflow : WorkflowRequest} {verdict : DeadlineVerdict} {now : Time} {record : WorkflowStepExecution}
  {rows : WorkflowTable} {context : ReapContext} {reaped : Reaped} {index : Nat} {step : WorkflowStepSpec}

def OutstandingStep (workflow : WorkflowRequest) (index : Nat) : Prop :=
  index < workflow.executedSteps.length ∧ index ∉ workflow.completedStepIndexes ∧
    index ∉ workflow.supersededStepIndexes

/-- The step at `index` is the first one that is not completed, or all are and it is the last one. -/
def FirstUncompleted (workflow : WorkflowRequest) (index : Nat) (step : WorkflowStepSpec) : Prop :=
  workflow.executedSteps[index]? = some step ∧ (∀ earlier < index, earlier ∈ workflow.completedStepIndexes) ∧
    (index ∈ workflow.completedStepIndexes → index + 1 = workflow.executedSteps.length)

/-- The reap blames a live step if there is one, and an action in flight on the claimed row is still in flight on the
row that is judged, which then does not end FAILED. -/
structure BlamesLiveAndHidesNothing (reaped : Reaped) : Prop where
  live : ∀ record, reaped.added = some record → (∃ index, OutstandingStep reaped.claimed index) →
    OutstandingStep reaped.claimed record.stepIndex
  inFlight : hasUnresolvedNodeAction reaped.claimed true = true →
    hasUnresolvedNodeAction reaped.judged true = true ∧ reaped.decision.workflow.status ≠ .failed

/-- The evidence of an action in flight that the records of the step at `index` are not needed for: another step has
it once its receipts are read, or the receipts of the step itself. -/
def InFlightBeside (workflow : WorkflowRequest) (index : Nat) (operation : WorkflowOperation)
    (commands : List MintedFrom) : Prop :=
  hasUnresolvedNodeAction (otherSteps workflow index operation commands) true = true ∨
    receiptInFlight
      (receiptsOf (remoteSnapshots workflow commands) (some workflow.executionPhase, index, operation)) = true

/-- The first step that is not completed is not a superseded one before a live one, and the row does not need its
records to show an action in flight. -/
structure CaughtStepIsPlain (workflow : WorkflowRequest) (commands : List MintedFrom) : Prop where
  live : ∀ index step, FirstUncompleted workflow index step → (∃ index, OutstandingStep workflow index) →
    index ∉ workflow.supersededStepIndexes
  inFlight : hasUnresolvedNodeAction workflow true = true →
    ∀ index step, FirstUncompleted workflow index step → InFlightBeside workflow index step.operation commands
  noSteps : hasUnresolvedNodeAction workflow true = true → workflow.executedSteps = [] →
    hasUnresolvedNodeAction (refreshRemoteActionState commands workflow) true = true

private theorem firstUncompleted_unique {index' : Nat} {step' : WorkflowStepSpec}
    (h : FirstUncompleted workflow index step)
    (h' : FirstUncompleted workflow index' step') : index = index' ∧ step = step' := by
  have hlt := (List.getElem?_eq_some_iff.mp h.1).1
  have hlt' := (List.getElem?_eq_some_iff.mp h'.1).1
  have hindex : index = index' := by
    rcases Nat.lt_trichotomy index index' with hlt'' | heq | hlt''
    · have := h.2.2 (h'.2.1 index hlt'')
      omega
    · exact heq
    · have := h'.2.2 (h.2.1 index' hlt'')
      omega
  subst hindex
  exact ⟨rfl, Option.some.inj (h.1.symm.trans h'.1)⟩

/-- The step the deadline catches. -/
private theorem firstUncompleted_deadlineStepIndex (h : workflow.executedSteps ≠ []) :
    ∃ step, FirstUncompleted workflow (deadlineStepIndex workflow) step := by
  have hpos : 0 < workflow.executedSteps.length := List.length_pos_iff.mpr h
  cases hfind : (List.range workflow.executedSteps.length).find? fun index =>
      !workflow.completedStepIndexes.contains index with
  | none =>
    have hindex : deadlineStepIndex workflow = workflow.executedSteps.length - 1 := by
      rw [deadlineStepIndex, hfind]
      rfl
    have hall : ∀ index < workflow.executedSteps.length, index ∈ workflow.completedStepIndexes := by
      simpa using hfind
    refine ⟨workflow.executedSteps[workflow.executedSteps.length - 1], ?_, ?_, ?_⟩
    · rw [hindex, List.getElem?_eq_getElem]
    · intro earlier hearlier
      exact hall earlier (by omega)
    · omega
  | some index =>
    have hindex : deadlineStepIndex workflow = index := by
      rw [deadlineStepIndex, hfind]
      rfl
    have hmem : index < workflow.executedSteps.length := List.mem_range.mp (List.mem_of_find?_eq_some hfind)
    have hnot : index ∉ workflow.completedStepIndexes := by simpa using List.find?_some hfind
    refine ⟨workflow.executedSteps[index], ?_, ?_, ?_⟩
    · rw [hindex, List.getElem?_eq_getElem]
    · intro earlier hearlier
      rw [hindex] at hearlier
      rw [List.find?_range_eq_some] at hfind
      simpa using hfind.2.2 earlier hearlier
    · rw [hindex]
      exact fun h => absurd h hnot

private theorem deadlineRecord_eq_some (verdict : DeadlineVerdict) (now : Time)
    (h : FirstUncompleted workflow index step) :
    ∃ record, deadlineRecord workflow verdict now = some record ∧ record.stepIndex = index ∧
      record.operation = step.operation ∧ record.phase = some workflow.executionPhase := by
  have hsteps : workflow.executedSteps ≠ [] := by
    intro hnil
    have hstep := h.1
    rw [hnil] at hstep
    cases hstep
  obtain ⟨step', hstep'⟩ := firstUncompleted_deadlineStepIndex hsteps
  obtain ⟨rfl, rfl⟩ := firstUncompleted_unique h hstep'
  exact ⟨_, by rw [deadlineRecord, h.1]; rfl, rfl, rfl, rfl⟩

/-- What a reap does to the row it claimed. -/
private theorem reapOverdueWorkflow_spec (h : reapOverdueWorkflow rows workflow context = some reaped) :
    ∃ verdict : DeadlineVerdict, (∀ key ∈ uncertaintyKeys, verdict.details.get? key = none) ∧
      reaped.added = deadlineRecord reaped.claimed verdict context.now ∧
      reaped.judged = refreshRemoteActionState context.receipts
        { reaped.claimed with stepExecutions := deadlineStepExecutions reaped.claimed verdict context.now } ∧
      reaped.decision = terminalDecision reaped.judged context.incident
        { status := .failed
          reason := some verdict.error }
        context.predecessor context.endedAt := by
  unfold reapOverdueWorkflow at h
  split at h
  · cases h
  · split at h
    · cases h
    · split at h
      · cases h
      · obtain rfl := Option.some.inj h
        exact ⟨_, fun key hkey => deadlineVerdict_get? _ _ _ hkey, rfl, rfl, rfl⟩

private theorem judged_status (h : reapOverdueWorkflow rows workflow context = some reaped) :
    reaped.decision.workflow.status = .failed ↔ hasUnresolvedNodeAction reaped.judged true = false := by
  obtain ⟨verdict, -, -, -, hdecision⟩ := reapOverdueWorkflow_spec h
  rw [hdecision, terminalDecision_status, Ending.confirmed]
  cases hasUnresolvedNodeAction reaped.judged true <;> simp

/-- The reap is right about a row exactly when the step it catches is no superseded one before a live one and its
records are not the only evidence of an action in flight. -/
theorem reap_blames_live_and_hides_nothing_iff (h : reapOverdueWorkflow rows workflow context = some reaped) :
    BlamesLiveAndHidesNothing reaped ↔ CaughtStepIsPlain reaped.claimed context.receipts := by
  obtain ⟨verdict, hverdict, hadded, hjudged, -⟩ := reapOverdueWorkflow_spec h
  have hstatus := judged_status h
  have hshown : ∀ index step, FirstUncompleted reaped.claimed index step →
      (hasUnresolvedNodeAction reaped.judged true = true ↔
        InFlightBeside reaped.claimed index step.operation context.receipts) := by
    intro index step hfirst
    obtain ⟨record, hrecord, rfl, hoperation, hphase⟩ := deadlineRecord_eq_some verdict context.now hfirst
    rw [hjudged, judged_unresolved_iff hrecord hverdict, InFlightBeside, hoperation,
      WorkflowStepExecution.identity, hphase, hoperation]
  constructor
  · intro hright
    refine ⟨fun index step hfirst hlive => ?_, fun hflight index step hfirst => ?_, fun hflight hsteps => ?_⟩
    · obtain ⟨record, hrecord, rfl, -, -⟩ := deadlineRecord_eq_some verdict context.now hfirst
      exact (hright.live record (hadded.trans hrecord) hlive).2.2
    · exact (hshown index step hfirst).mp (hright.inFlight hflight).1
    · have hkept := (hright.inFlight hflight).1
      have hrecord : deadlineRecord reaped.claimed verdict context.now = none := by
        rw [deadlineRecord, hsteps]
        rfl
      rw [hjudged, deadlineStepExecutions, hrecord] at hkept
      exact hkept
  · intro hplain
    refine ⟨fun record hrecord hlive => ?_, fun hflight => ?_⟩
    · obtain ⟨live, hlive'⟩ := hlive
      have hsteps : reaped.claimed.executedSteps ≠ [] := List.ne_nil_of_length_pos (Nat.zero_lt_of_lt hlive'.1)
      obtain ⟨step, hfirst⟩ := firstUncompleted_deadlineStepIndex hsteps
      obtain ⟨record', hrecord', hindex, -, -⟩ := deadlineRecord_eq_some verdict context.now hfirst
      obtain rfl := Option.some.inj ((hadded.symm.trans hrecord).symm.trans hrecord')
      rw [hindex]
      refine ⟨(List.getElem?_eq_some_iff.mp hfirst.1).1, fun hcompleted => ?_,
        hplain.live _ step hfirst ⟨live, hlive'⟩⟩
      -- all steps are completed then, the live one included
      have hlast := hfirst.2.2 hcompleted
      rcases Nat.lt_or_ge live (deadlineStepIndex reaped.claimed) with hlt | hge
      · exact hlive'.2.1 (hfirst.2.1 live hlt)
      · have hsame : live = deadlineStepIndex reaped.claimed := by
          have := hlive'.1
          omega
        exact hlive'.2.1 (hsame ▸ hcompleted)
    · have hkept : hasUnresolvedNodeAction reaped.judged true = true := by
        by_cases hsteps : reaped.claimed.executedSteps = []
        · have hrecord : deadlineRecord reaped.claimed verdict context.now = none := by
            rw [deadlineRecord, hsteps]
            rfl
          rw [hjudged, deadlineStepExecutions, hrecord]
          exact hplain.noSteps hflight hsteps
        · obtain ⟨step, hfirst⟩ := firstUncompleted_deadlineStepIndex hsteps
          exact (hshown _ step hfirst).mpr (hplain.inFlight hflight _ step hfirst)
      refine ⟨hkept, fun hfailed => ?_⟩
      rw [hstatus.mp hfailed] at hkept
      cases hkept

end Reap

/-! ### A reset in flight and a superseded step -/

private def overdueRow (steps : List WorkflowOperation) (superseded : List Nat)
    (records : List WorkflowStepExecution) :
    WorkflowRequest :=
  { requestId := "w"
    status := .running
    officialSteps := steps.map fun operation => { operation }
    supersededStepIndexes := superseded
    stepExecutions := records
    executionDeadline := some 0 }

private def watchdogContext : ReapContext :=
  { executorId := "dispatcher"
    isoformat := fun _ => "1970-01-01T00:00:00+00:00"
    incident := none
    predecessor := none
    commands := []
    receipts := []
    now := 5000000
    endedAt := 6000000 }

/-- A reset the node agent accepted and has not answered. -/
private def unansweredReset : WorkflowStepExecution :=
  { stepIndex := 0
    operation := .resetGpu
    status := .waiting
    phase := some .official
    details := [("node_action_state", .str "PENDING"), ("node_action_command_id", .str "c")] }

private def reapOf (workflow : WorkflowRequest) : Option Reaped :=
  reapOverdueWorkflow (Table.empty.put workflow) workflow watchdogContext

/-- What shows whether a reap was right: the step it blames, and the action in flight before and after. -/
private def reapVerdict (workflow : WorkflowRequest) : Option (Option Nat × Bool × Bool × WorkflowStatus) :=
  (reapOf workflow).map fun reaped =>
    (reaped.added.map WorkflowStepExecution.stepIndex, hasUnresolvedNodeAction reaped.claimed true,
      hasUnresolvedNodeAction reaped.judged true, reaped.decision.workflow.status)

/-- The step that is caught was never started, and the reset after it has not been answered. -/
theorem reap_beside_unanswered_reset :
    ∃ reaped, reapOf (overdueRow [.validateGpu, .resetGpu] [] [{ unansweredReset with stepIndex := 1 }]) =
      some reaped ∧
      hasUnresolvedNodeAction reaped.claimed true = true ∧ BlamesLiveAndHidesNothing reaped ∧
      CaughtStepIsPlain reaped.claimed [] := by
  have hverdict : (reapOf (overdueRow [.validateGpu, .resetGpu] [] [{ unansweredReset with stepIndex := 1 }])).map
      (fun reaped => (reaped.added.map WorkflowStepExecution.stepIndex, reaped.claimed.executedSteps.length,
        reaped.claimed.resolvedStepIndexes, hasUnresolvedNodeAction reaped.claimed true,
        hasUnresolvedNodeAction reaped.judged true, reaped.decision.workflow.status)) =
      some (some 0, 2, [], true, true, .blocked) := by
    decide +kernel
  obtain ⟨reaped, hreaped, hshown⟩ := Option.map_eq_some_iff.mp hverdict
  simp only [Prod.mk.injEq] at hshown
  obtain ⟨hadded, hsteps, hresolved, hflight, hkept, hstatus⟩ := hshown
  obtain ⟨hcompleted, hsuperseded⟩ := List.append_eq_nil_iff.mp hresolved
  have hright : BlamesLiveAndHidesNothing reaped := by
    refine ⟨fun record hrecord _ => ?_, fun _ => ⟨hkept, by rw [hstatus]; decide⟩⟩
    have hindex : record.stepIndex = 0 := by simpa [hrecord] using hadded
    simp [OutstandingStep, hindex, hsteps, hcompleted, hsuperseded]
  exact ⟨reaped, hreaped, hflight, hright, (reap_blames_live_and_hides_nothing_iff hreaped).mp hright⟩

/-- A reset in flight is forgotten and its row ends FAILED; a superseded step is blamed before a live one. -/
theorem reap_hides_reset_and_blames_superseded :
    (∃ reaped, reapOf (overdueRow [.resetGpu] [] [unansweredReset]) = some reaped ∧
      hasUnresolvedNodeAction reaped.claimed true = true ∧ hasUnresolvedNodeAction reaped.judged true = false ∧
      reaped.decision.workflow.status = .failed ∧ ¬BlamesLiveAndHidesNothing reaped) ∧
    ∃ reaped, reapOf (overdueRow [.validateGpu, .resetGpu] [0] []) = some reaped ∧
      reaped.added.map WorkflowStepExecution.stepIndex = some 0 ∧ OutstandingStep reaped.claimed 1 ∧
      ¬BlamesLiveAndHidesNothing reaped := by
  constructor
  · have hverdict :
        reapVerdict (overdueRow [.resetGpu] [] [unansweredReset]) = some (some 0, true, false, .failed) := by
      decide +kernel
    obtain ⟨reaped, hreaped, hshown⟩ := Option.map_eq_some_iff.mp hverdict
    simp only [Prod.mk.injEq] at hshown
    refine ⟨reaped, hreaped, hshown.2.1, hshown.2.2.1, hshown.2.2.2, fun hright => ?_⟩
    exact (hright.inFlight hshown.2.1).2 hshown.2.2.2
  · have hverdict : (reapOf (overdueRow [.validateGpu, .resetGpu] [0] [])).map (fun reaped =>
        (reaped.added.map WorkflowStepExecution.stepIndex, reaped.claimed.executedSteps.length,
          reaped.claimed.completedStepIndexes, reaped.claimed.supersededStepIndexes)) =
            some (some 0, 2, [], [0]) := by
      decide +kernel
    obtain ⟨reaped, hreaped, hshown⟩ := Option.map_eq_some_iff.mp hverdict
    simp only [Prod.mk.injEq] at hshown
    obtain ⟨hadded, hsteps, hcompleted, hsuperseded⟩ := hshown
    have hlive : OutstandingStep reaped.claimed 1 := by simp [OutstandingStep, hsteps, hcompleted, hsuperseded]
    refine ⟨reaped, hreaped, hadded, hlive, fun hright => ?_⟩
    obtain ⟨record, hrecord, hindex⟩ := Option.map_eq_some_iff.mp hadded
    have hblamed := (hright.live record hrecord ⟨1, hlive⟩).2.2
    rw [hindex, hsuperseded] at hblamed
    simp at hblamed

end GpuFaultRecovery
