import GpuFaultRecovery.BatchedCommandRun

/-!
# The steps of a compound command, claim after claim

`executeBatchedCommand` is one claim of a compound command: the covered steps in order, each judged through a view of
its own, until one does not succeed. Its progress is in the details of the row, and the next claim starts from what
the previous one left there. At any time the steps recorded as succeeded are the steps of a beginning of the plan
(`PrefixDone`), so a claim resumes where the previous one stopped.
-/

namespace GpuFaultRecovery

/-! ### The view of one step -/

/-- A command with the copy of the workflow it was minted from. -/
structure CarriedCommand extends RemoteActionCommand where
  workflow : WorkflowRequest

/-- The covered steps, the head first, each with its index and its own key. -/
def RemoteActionCommand.plan (command : RemoteActionCommand) : List BatchedStep :=
  ⟨command.stepIndex, command.step, command.idempotencyKey⟩ :: command.batchedSteps

/-- The keys of a retryable attempt (`RETRYABLE_MARKER_KEYS`). -/
def retryableMarkerKeys : List String :=
  ["retryable_transport_error", "retryable_adapter_error", "retryable_control_plane_error", "reason", "executor_id",
    "exception_type", "adapter_error", "status_code"]

/-- A record as the adapter should see it on replay. -/
def adapterFacingDetails (details : Details) : Details :=
  let marked := fun key => ((details.get? key).map Json.truthy).getD false
  if marked "retryable_transport_error" || marked "retryable_adapter_error" ||
    marked "retryable_control_plane_error" then
    details.filter fun kv => !retryableMarkerKeys.contains kv.1
  else details

def resultEntry (results : Details) (index : Nat) : Option Details :=
  match results.get? (toString index) with
  | some (.obj entry) => some entry
  | _ => none

/-- The record of a covered step in the view: succeeded for a finished one, waiting for the current one if a previous
claim handed the command back at it. -/
def viewRecord (command : CarriedCommand) (results : Details) (currentIndex : Nat) (now : Time) (item : BatchedStep) :
    Option WorkflowStepExecution :=
  let record : WorkflowStepExecution :=
    { stepIndex := item.stepIndex, operation := item.step.operation, status := .succeeded,
      phase := some command.workflow.executionPhase, adapterOperationId := some ("remote/" ++ command.commandId),
      startedAt := now, updatedAt := now }
  (resultEntry results item.stepIndex).bind fun entry =>
    if entry.get? "status" = some (.str RemoteCommandStatus.succeeded.value) then
      some { record with details := entryDetails entry }
    else if item.stepIndex = currentIndex ∧ entry.get? "status" = some (.str RemoteCommandStatus.waiting.value) then
      some { record with status := .waiting, details := adapterFacingDetails (entryDetails entry) }
    else none

/-- The workflow as the control plane would have recorded it before the current step. -/
def workflowView (command : CarriedCommand) (results : Details) (currentIndex : Nat) (now : Time) : WorkflowRequest :=
  let finished := command.plan.filter fun item => succeededEntry (results.get? (toString item.stepIndex))
  { command.workflow with
    stepExecutions := command.workflow.stepExecutions ++
      command.plan.filterMap (viewRecord command results currentIndex now)
    completedStepIndexes := sortedSet (command.workflow.completedStepIndexes ++ finished.map BatchedStep.stepIndex)
    completedOperations := finished.foldl
      (fun operations item =>
        if operations.contains item.step.operation then operations else operations ++ [item.step.operation])
      command.workflow.completedOperations }

/-- The compound command as the dispatch layer sees one of its steps. -/
def stepView (command : CarriedCommand) (results : Details) (item : BatchedStep) (now : Time) : CarriedCommand :=
  { command with
    step := item.step
    stepIndex := item.stepIndex
    idempotencyKey := item.idempotencyKey
    workflow := workflowView command results item.stepIndex now
    resultDetails := ((resultEntry results item.stepIndex).map entryDetails).getD [] }

/-! ### One claim -/

/-- How the view of a step is judged: held by the fleet preflight, decided without the adapter (a lease hold, an
ownership guard, an exception on the way), or by the adapter. -/
inductive StepAnswer where
  | preflightHeld (details : Details)
  | refused (result : StepResult)
  | executed (result : StepResult)

/-- What a claim meets: its clock, the lease guard before each step, and the judgement of each view. -/
structure ClaimEnvironment where
  now : Time
  leaseHoldReason : Nat → Option String
  judge : CarriedCommand → StepAnswer

/-- A call of the adapter: the view it was handed, what was recorded by then, and the verdict. -/
structure AdapterCall where
  view : CarriedCommand
  recorded : Details
  result : StepResult

/-- What one claim does: its calls of the adapter and its report. -/
structure BatchedRun where
  calls : List AdapterCall
  result : StepResult

/-- One covered step to its judgement, with the call of the adapter if it was reached. -/
def judgeStep (env : ClaimEnvironment) (command : CarriedCommand) (results : Details) (item : BatchedStep) :
    StepJudgement × List AdapterCall :=
  match env.leaseHoldReason item.stepIndex with
  | some reason => (.leaseHeld reason, [])
  | none =>
    let view := stepView command results item env.now
    match env.judge view with
    | .preflightHeld details => (.preflightHeld details, [])
    | .refused result => (.verdict result, [])
    | .executed result => (.verdict result, [⟨view, results, result⟩])

/-- The loop over the covered steps. -/
def executeBatchedSteps (env : ClaimEnvironment) (command : CarriedCommand) (results : Details) :
    List BatchedStep → BatchedRun
  | [] =>
    ⟨[], .succeeded [(batchedResultsKey, .obj results),
      ("batched_step_indexes", .arr (command.coveredStepIndexes.map fun index => .int index))]⟩
  | item :: rest =>
    let (judgement, called) := judgeStep env command results item
    let turn := executeBatchedTurn command.toRemoteActionCommand results judgement
      ((item.stepIndex, item.step) :: rest.map fun item => (item.stepIndex, item.step))
    -- a step that already succeeded is passed over before it is judged
    let calls := if succeededEntry (results.get? (toString item.stepIndex)) then [] else called
    match turn.next with
    | .inl _ =>
      let run := executeBatchedSteps env command turn.results rest
      ⟨calls ++ run.calls, run.result⟩
    | .inr result => ⟨calls, result⟩

def executeBatchedCommand (env : ClaimEnvironment) (command : CarriedCommand) : BatchedRun :=
  executeBatchedSteps env command (priorResults command.toRemoteActionCommand) command.plan

def claimRuns (command : CarriedCommand) : Details → List ClaimEnvironment → List BatchedRun
  | _, [] => []
  | details, env :: rest =>
    let run := executeBatchedCommand env { command with resultDetails := details }
    run :: claimRuns command run.result.details rest

/-! ### What is recorded -/

/-- The step under `index` is recorded as succeeded. -/
def Recorded (results : Details) (index : Nat) : Prop := succeededEntry (results.get? (toString index)) = true

instance (results : Details) (index : Nat) : Decidable (Recorded results index) :=
  inferInstanceAs (Decidable (_ = true))

private theorem toString_index_injective {m n : Nat} (h : toString m = toString n) : m = n := by
  have hrepr : String.ofList (Nat.toDigits 10 m) = String.ofList (Nat.toDigits 10 n) := by
    rw [← Nat.repr_eq_ofList_toDigits, ← Nat.repr_eq_ofList_toDigits]
    exact h
  have hdigits : Nat.toDigits 10 m = Nat.toDigits 10 n := by simpa using congrArg String.toList hrepr
  rw [← Nat.ofDigitChars_ten_toDigits (n := m), hdigits, Nat.ofDigitChars_ten_toDigits]

section Recorded

variable {results : Details} {index i : Nat} {result : StepResult}

private theorem succeededEntry_entry : succeededEntry (some result.entry) = true ↔ result.status = .succeeded := by
  have hvalue : ∀ status : RemoteCommandStatus, status.value = RemoteCommandStatus.succeeded.value ↔
      status = .succeeded := by
    intro status
    cases status <;> decide
  simp [succeededEntry, StepResult.entry, hvalue]

private theorem recorded_set (hopen : ¬Recorded results index) :
    Recorded (results.set (toString index) result.entry) i ↔
      Recorded results i ∨ i = index ∧ result.status = .succeeded := by
  by_cases hi : i = index
  · subst hi
    have hset : Recorded (results.set (toString i) result.entry) i ↔ result.status = .succeeded := by
      unfold Recorded
      rw [Details.get?_set_self, succeededEntry_entry]
    rw [hset]
    simp [hopen]
  · have hkey : toString i ≠ toString index := fun h => hi (toString_index_injective h)
    unfold Recorded
    rw [Details.get?_set_ne _ _ hkey]
    simp [hi]

private theorem priorResults_of_objects {command : RemoteActionCommand}
    (hentries : entriesOf command.resultDetails = results)
    (hobjects : ∀ kv ∈ results, kv.2.isObject = true) : priorResults command = results := by
  unfold priorResults
  rw [hentries, List.filter_eq_self]
  exact hobjects

private theorem objects_set (hobjects : ∀ kv ∈ results, kv.2.isObject = true) :
    ∀ kv ∈ results.set (toString index) result.entry, kv.2.isObject = true := by
  intro kv hkv
  unfold Details.set at hkv
  split at hkv
  · obtain ⟨old, hold, rfl⟩ := List.mem_map.mp hkv
    split
    · rfl
    · exact hobjects old hold
  · rcases List.mem_append.mp hkv with hold | hnew
    · exact hobjects kv hold
    · rw [List.mem_singleton.mp hnew]
      rfl

end Recorded

/-- The covered steps recorded as succeeded are those of a beginning of the plan. -/
structure PrefixDone (plan : List BatchedStep) (results : Details) : Prop where
  objects : ∀ kv ∈ results, kv.2.isObject = true
  beginning : ∃ done, done <+: plan ∧
    ∀ item ∈ plan, Recorded results item.stepIndex ↔ item.stepIndex ∈ done.map BatchedStep.stepIndex

namespace PrefixDone

variable {plan before after : List BatchedStep} {item : BatchedStep} {results : Details}

private theorem nil (plan : List BatchedStep) : PrefixDone plan [] where
  objects := by simp
  beginning := ⟨[], List.nil_prefix, fun item _ => by simp [Recorded, Details.get?, succeededEntry]⟩

/-- At the first step that is still open, the recorded steps are the earlier ones. -/
private theorem recorded_iff (h : PrefixDone plan results) (hplan : plan = before ++ item :: after)
    (hbefore : ∀ earlier ∈ before, Recorded results earlier.stepIndex) (hopen : ¬Recorded results item.stepIndex)
    {covered : BatchedStep} (hcovered : covered ∈ plan) :
    Recorded results covered.stepIndex ↔ covered.stepIndex ∈ before.map BatchedStep.stepIndex := by
  obtain ⟨done, hdone, hrecorded⟩ := h.beginning
  have hitem : item ∈ plan := by simp [hplan]
  have hshort : done <+: before := by
    have hbeginning : before ++ [item] <+: plan := ⟨after, by simp [hplan]⟩
    by_cases hlen : done.length ≤ before.length
    · exact List.prefix_of_prefix_length_le hdone ((List.prefix_append before [item]).trans hbeginning) hlen
    · have hlong : before ++ [item] <+: done :=
        List.prefix_of_prefix_length_le hbeginning hdone (by rw [List.length_append, List.length_singleton]; omega)
      have hmem : item ∈ done := hlong.subset (by simp)
      exact absurd ((hrecorded item hitem).mpr (List.mem_map_of_mem hmem)) hopen
  constructor
  · intro hsucceeded
    obtain ⟨other, hother, heq⟩ := List.mem_map.mp ((hrecorded covered hcovered).mp hsucceeded)
    exact List.mem_map.mpr ⟨other, hshort.subset hother, heq⟩
  · intro hearlier
    obtain ⟨other, hother, heq⟩ := List.mem_map.mp hearlier
    rw [← heq]
    exact hbefore other hother

private theorem set (h : PrefixDone plan results) (result : StepResult) (hplan : plan = before ++ item :: after)
    (hbefore : ∀ earlier ∈ before, Recorded results earlier.stepIndex) (hopen : ¬Recorded results item.stepIndex) :
    PrefixDone plan (results.set (toString item.stepIndex) result.entry) where
  objects := objects_set h.objects
  beginning := by
    by_cases hsucceeded : result.status = .succeeded
    · refine ⟨before ++ [item], ⟨after, by simp [hplan]⟩, fun covered hcovered => ?_⟩
      rw [recorded_set hopen, h.recorded_iff hplan hbefore hopen hcovered]
      simp [hsucceeded]
    · refine ⟨before, ⟨item :: after, hplan.symm⟩, fun covered hcovered => ?_⟩
      rw [recorded_set hopen, h.recorded_iff hplan hbefore hopen hcovered]
      simp [hsucceeded]

end PrefixDone

/-! ### One claim in order -/

/-- A call of the adapter for `item`, the covered steps `before` it done: it is handed the step itself, not recorded
as succeeded, and a workflow that shows exactly the earlier steps as completed under this command. -/
structure CallInOrder (minted : WorkflowRequest) (call : AdapterCall) (before : List BatchedStep)
    (item : BatchedStep) :
    Prop where
  stepIndex : call.view.stepIndex = item.stepIndex
  step : call.view.step = item.step
  idempotencyKey : call.view.idempotencyKey = item.idempotencyKey
  earlier_done : ∀ earlier ∈ before, Recorded call.recorded earlier.stepIndex
  item_open : ¬Recorded call.recorded item.stepIndex
  completed : ∀ i, i ∈ call.view.workflow.completedStepIndexes ↔
    i ∈ minted.completedStepIndexes ∨ i ∈ before.map BatchedStep.stepIndex
  records : ∀ record ∈ call.view.workflow.stepExecutions, record ∈ minted.stepExecutions ∨
    record.status = .succeeded ∧ record.stepIndex ∈ before.map BatchedStep.stepIndex ∨
      record.status = .waiting ∧ record.stepIndex = item.stepIndex
  recorded : ∀ earlier ∈ before, ∃ record ∈ call.view.workflow.stepExecutions,
    record.stepIndex = earlier.stepIndex ∧ record.operation = earlier.step.operation ∧ record.status = .succeeded

section View

variable {command : CarriedCommand} {results : Details} {item : BatchedStep} {current : Nat} {now : Time}
  {record : WorkflowStepExecution}

private theorem resultEntry_of_recorded {i : Nat} (h : Recorded results i) :
    ∃ entry, resultEntry results i = some entry ∧
    entry.get? "status" = some (.str RemoteCommandStatus.succeeded.value) := by
  obtain ⟨fields, hentry, hstatus⟩ := succeededEntry_some h
  exact ⟨fields, by simp only [resultEntry, hentry], hstatus⟩

private theorem viewRecord_some (h : viewRecord command results current now item = some record) :
    record.stepIndex = item.stepIndex ∧
      (record.status = .succeeded ∧ Recorded results item.stepIndex ∨
        record.status = .waiting ∧ item.stepIndex = current) := by
  unfold viewRecord at h
  simp only [Option.bind_eq_some_iff] at h
  obtain ⟨entry, hentry, h⟩ := h
  split at h
  case isTrue hsucceeded =>
    obtain rfl := Option.some.inj h
    refine ⟨rfl, .inl ⟨rfl, ?_⟩⟩
    unfold resultEntry at hentry
    split at hentry
    · rename_i fields hget
      obtain rfl := Option.some.inj hentry
      unfold Recorded
      rw [hget]
      exact beq_iff_eq.mpr hsucceeded
    · cases hentry
  case isFalse =>
    split at h
    · rename_i hwaiting
      obtain rfl := Option.some.inj h
      exact ⟨rfl, .inr ⟨rfl, hwaiting.1⟩⟩
    · cases h

private theorem viewRecord_of_recorded (h : Recorded results item.stepIndex) :
    ∃ record, viewRecord command results current now item = some record ∧ record.stepIndex = item.stepIndex ∧
      record.operation = item.step.operation ∧ record.status = .succeeded := by
  obtain ⟨entry, hentry, hstatus⟩ := resultEntry_of_recorded h
  unfold viewRecord
  simp only [hentry, Option.bind_some, hstatus, if_true]
  exact ⟨_, rfl, rfl, rfl, rfl⟩

private theorem mem_completed_workflowView {i : Nat} :
    i ∈ (workflowView command results current now).completedStepIndexes ↔
      i ∈ command.workflow.completedStepIndexes ∨
        ∃ covered ∈ command.plan, Recorded results covered.stepIndex ∧ covered.stepIndex = i := by
  unfold workflowView
  simp only [mem_sortedSet, List.mem_append, List.mem_map, List.mem_filter, Recorded, and_assoc]

/-- The call of the adapter for the first open step. -/
private theorem callInOrder_stepView {before after : List BatchedStep} {result : StepResult}
    (h : PrefixDone command.plan results) (hplan : command.plan = before ++ item :: after)
    (hbefore : ∀ earlier ∈ before, Recorded results earlier.stepIndex) (hopen : ¬Recorded results item.stepIndex) :
    CallInOrder command.workflow ⟨stepView command results item now, results, result⟩ before item := by
  have hiff : ∀ covered ∈ command.plan,
      (Recorded results covered.stepIndex ↔ covered.stepIndex ∈ before.map BatchedStep.stepIndex) :=
    fun covered hcovered => h.recorded_iff hplan hbefore hopen hcovered
  have hsub : ∀ earlier ∈ before, earlier ∈ command.plan := fun earlier hearlier => by simp [hplan, hearlier]
  refine ⟨rfl, rfl, rfl, hbefore, hopen, ?_, ?_, ?_⟩
  · intro i
    simp only [stepView, mem_completed_workflowView]
    refine or_congr_right ⟨?_, ?_⟩
    · rintro ⟨covered, hcovered, hrecorded, rfl⟩
      exact (hiff covered hcovered).mp hrecorded
    · intro hi
      obtain ⟨earlier, hearlier, rfl⟩ := List.mem_map.mp hi
      exact ⟨earlier, hsub earlier hearlier, hbefore earlier hearlier, rfl⟩
  · intro record hrecord
    simp only [stepView, workflowView, List.mem_append, List.mem_filterMap] at hrecord
    rcases hrecord with hold | ⟨covered, hcovered, hview⟩
    · exact .inl hold
    · obtain ⟨hindex, ⟨hstatus, hrecorded⟩ | ⟨hstatus, hcurrent⟩⟩ := viewRecord_some hview
      · exact .inr (.inl ⟨hstatus, hindex ▸ (hiff covered hcovered).mp hrecorded⟩)
      · exact .inr (.inr ⟨hstatus, hindex.trans hcurrent⟩)
  · intro earlier hearlier
    obtain ⟨record, hview, hspec⟩ := @viewRecord_of_recorded command results earlier item.stepIndex now
      (hbefore earlier hearlier)
    refine ⟨record, ?_, hspec⟩
    simp only [stepView, workflowView, List.mem_append, List.mem_filterMap]
    exact .inr ⟨earlier, hsub earlier hearlier, hview⟩

end View

/-- A later call is not for a step that an earlier call carried to success. -/
def OnceToSuccess (calls : List AdapterCall) : Prop :=
  calls.Pairwise fun earlier later => earlier.result.status = .succeeded →
    later.view.stepIndex ≠ earlier.view.stepIndex

/-- What holds of a claim that starts from `results`. -/
structure RunSound (plan : List BatchedStep) (minted : WorkflowRequest) (results : Details) (run : BatchedRun) :
    Prop where
  inOrder : ∀ call ∈ run.calls, ∃ before item after,
    plan = before ++ item :: after ∧ CallInOrder minted call before item
  known : ∀ call ∈ run.calls, ∀ i, Recorded results i → Recorded call.recorded i
  left : PrefixDone plan (entriesOf run.result.details)
  kept : ∀ i, Recorded results i → Recorded (entriesOf run.result.details) i
  recorded : ∀ call ∈ run.calls, call.result.status = .succeeded →
    Recorded (entriesOf run.result.details) call.view.stepIndex
  once : OnceToSuccess run.calls
  complete : run.result.status = .succeeded →
    ∀ item ∈ plan, Recorded (entriesOf run.result.details) item.stepIndex

section Run

variable {command : CarriedCommand} {results : Details} {env : ClaimEnvironment}

private theorem RunSound.not_recorded {run : BatchedRun} (h : RunSound command.plan command.workflow results run)
    {call : AdapterCall} (hcall : call ∈ run.calls) : ¬Recorded results call.view.stepIndex := by
  intro hrecorded
  obtain ⟨before, item, after, -, horder⟩ := h.inOrder call hcall
  have hopen := horder.item_open
  rw [← horder.stepIndex] at hopen
  exact hopen (h.known call hcall _ hrecorded)

private theorem RunSound.held {result : StepResult} (h : PrefixDone command.plan results)
    (hdetails : entriesOf result.details = results)
    (hcomplete : result.status = .succeeded → ∀ item ∈ command.plan, Recorded results item.stepIndex) :
    RunSound command.plan command.workflow results ⟨[], result⟩ where
  inOrder := by simp
  known := by simp
  left := by rwa [hdetails]
  kept := by simp [hdetails]
  recorded := by simp
  once := List.Pairwise.nil
  complete := by rwa [hdetails]

private theorem judgeStep_calls (item : BatchedStep) :
    (judgeStep env command results item).2 = [] ∨
      ∃ result, judgeStep env command results item =
        (.verdict result, [⟨stepView command results item env.now, results, result⟩]) := by
  unfold judgeStep
  split
  · exact .inl rfl
  · simp only []
    split
    · exact .inl rfl
    · exact .inl rfl
    · exact .inr ⟨_, rfl⟩

/-- The verdict on one step, before a claim that goes on from it or stops at it. -/
private theorem RunSound.judged {before after : List BatchedStep} {item : BatchedStep} {result : StepResult}
    {called : List AdapterCall} {run : BatchedRun}
    (h : PrefixDone command.plan results) (hplan : command.plan = before ++ item :: after)
    (hbefore : ∀ earlier ∈ before, Recorded results earlier.stepIndex) (hopen : ¬Recorded results item.stepIndex)
    (hcalled : called = [] ∨ called = [⟨stepView command results item env.now, results, result⟩])
    (hrun : RunSound command.plan command.workflow (results.set (toString item.stepIndex) result.entry) run) :
    RunSound command.plan command.workflow results ⟨called ++ run.calls, run.result⟩ := by
  have hmono : ∀ i, Recorded results i → Recorded (results.set (toString item.stepIndex) result.entry) i :=
    fun i hi => (recorded_set hopen).mpr (.inl hi)
  have hnow : ∀ call ∈ called, call.recorded = results ∧ call.result = result ∧
      call.view.stepIndex = item.stepIndex ∧ CallInOrder command.workflow call before item := by
    intro call hcall
    rcases hcalled with rfl | rfl
    · exact absurd hcall List.not_mem_nil
    · obtain rfl := List.mem_singleton.mp hcall
      exact ⟨rfl, rfl, rfl, callInOrder_stepView h hplan hbefore hopen⟩
  have hset : result.status = .succeeded →
      Recorded (results.set (toString item.stepIndex) result.entry) item.stepIndex :=
    fun hsucceeded => (recorded_set hopen).mpr (.inr ⟨rfl, hsucceeded⟩)
  refine ⟨?_, ?_, hrun.left, fun i hi => hrun.kept i (hmono i hi), ?_, ?_, hrun.complete⟩
  · intro call hcall
    rcases List.mem_append.mp hcall with hcall | hcall
    · exact ⟨before, item, after, hplan, (hnow call hcall).2.2.2⟩
    · exact hrun.inOrder call hcall
  · intro call hcall i hi
    rcases List.mem_append.mp hcall with hcall | hcall
    · rwa [(hnow call hcall).1]
    · exact hrun.known call hcall i (hmono i hi)
  · intro call hcall hsucceeded
    rcases List.mem_append.mp hcall with hcall | hcall
    · obtain ⟨-, hresult, hindex, -⟩ := hnow call hcall
      rw [hindex]
      exact hrun.kept _ (hset (hresult ▸ hsucceeded))
    · exact hrun.recorded call hcall hsucceeded
  · refine List.pairwise_append.mpr ⟨?_, hrun.once, ?_⟩
    · rcases hcalled with rfl | rfl
      · exact List.Pairwise.nil
      · exact List.pairwise_singleton _ _
    · intro earlier hearlier later hlater hsucceeded heq
      obtain ⟨-, hresult, hindex, -⟩ := hnow earlier hearlier
      apply hrun.not_recorded hlater
      rw [heq, hindex]
      exact hset (hresult ▸ hsucceeded)

/-- The loop: with the steps `before` done and a beginning of the plan recorded, the rest runs in order. -/
private theorem executeBatchedSteps_sound {before remaining : List BatchedStep} (h : PrefixDone command.plan results)
    (hplan : command.plan = before ++ remaining)
    (hbefore : ∀ earlier ∈ before, Recorded results earlier.stepIndex) :
    RunSound command.plan command.workflow results (executeBatchedSteps env command results remaining) := by
  induction remaining generalizing before results with
  | nil =>
    rw [List.append_nil] at hplan
    refine RunSound.held h (entriesOf_of_get? rfl) fun _ item hitem => hbefore item ?_
    rwa [← hplan]
  | cons item rest ih =>
    have hnext : command.plan = (before ++ [item]) ++ rest := by rw [hplan, List.append_assoc, List.singleton_append]
    unfold executeBatchedSteps
    by_cases hdone : Recorded results item.stepIndex
    · have hdone' := hdone
      unfold Recorded at hdone'
      simp only [executeBatchedTurn, hdone', if_true, List.nil_append]
      apply ih h hnext
      intro earlier hearlier
      rcases List.mem_append.mp hearlier with hearlier | hearlier
      · exact hbefore earlier hearlier
      · rwa [List.mem_singleton.mp hearlier]
    · have hopen := hdone
      unfold Recorded at hopen
      have hcalls := @judgeStep_calls command results env item
      generalize judgeStep env command results item = judged at hcalls ⊢
      obtain ⟨judgement, called⟩ := judged
      simp only [Prod.mk.injEq] at hcalls
      simp only [executeBatchedTurn, hopen, Bool.false_eq_true, if_false]
      cases judgement with
      | leaseHeld reason =>
        obtain rfl : called = [] := by simpa using hcalls
        exact RunSound.held h (entriesOf_of_get? rfl) fun hstatus => by cases hstatus
      | preflightHeld details =>
        obtain rfl : called = [] := by simpa using hcalls
        refine RunSound.held h ?_ fun hstatus => by cases hstatus
        simp only [StepResult.waiting]
        rw [entriesOf_set_ne _ _ (by decide), entriesOf_set_self]
      | verdict result =>
        have hcalled : called = [] ∨ called = [⟨stepView command results item env.now, results, result⟩] := by
          rcases hcalls with hnone | ⟨other, hjudgement, hcall⟩
          · exact .inl hnone
          · obtain rfl : result = other := by simpa using hjudgement
            exact .inr hcall
        have hset := h.set result hplan hbefore hdone
        dsimp only
        split
        · rename_i hstatus
          split at hstatus
          case isFalse => cases hstatus
          case isTrue hsucceeded =>
            refine RunSound.judged h hplan hbefore hdone hcalled (ih hset hnext fun earlier hearlier => ?_)
            rw [recorded_set hdone]
            rcases List.mem_append.mp hearlier with hearlier | hearlier
            · exact .inl (hbefore earlier hearlier)
            · exact .inr ⟨congrArg _ (List.mem_singleton.mp hearlier), hsucceeded⟩
        · rename_i final hstatus
          split at hstatus
          case isTrue => cases hstatus
          case isFalse hfailed =>
            obtain rfl := Sum.inr.inj hstatus
            have hheld := RunSound.judged h hplan hbefore hdone hcalled
              (@RunSound.held command _ { result with
                details := ((result.details.set batchedResultsKey (.obj (results.set (toString item.stepIndex)
                  result.entry))).set "batched_step_index" (.int item.stepIndex)).set "batched_operation"
                    (.str item.step.operation.value) } hset
                (by rw [entriesOf_set_ne _ _ (by decide), entriesOf_set_ne _ _ (by decide), entriesOf_set_self])
                fun hsucceeded => absurd hsucceeded hfailed)
            simpa using hheld

private theorem executeBatchedCommand_sound {details : Details} (h : PrefixDone command.plan (entriesOf details)) :
    RunSound command.plan command.workflow (entriesOf details)
      (executeBatchedCommand env { command with resultDetails := details }) := by
  unfold executeBatchedCommand
  rw [priorResults_of_objects rfl h.objects]
  exact @executeBatchedSteps_sound { command with resultDetails := details } _ env [] _ h rfl
    fun _ hearlier => absurd hearlier List.not_mem_nil

/-! ### Claim after claim -/

private theorem claimRuns_sound {details : Details} {claims : List ClaimEnvironment}
    (h : PrefixDone command.plan (entriesOf details)) :
    ∀ run ∈ claimRuns command details claims, ∃ results, RunSound command.plan command.workflow results run ∧
      ∀ i, Recorded (entriesOf details) i → Recorded results i := by
  induction claims generalizing details with
  | nil => exact fun run hrun => absurd hrun List.not_mem_nil
  | cons env claims ih =>
    have hfirst := @executeBatchedCommand_sound command env _ h
    intro run hrun
    rcases List.mem_cons.mp hrun with rfl | hlater
    · exact ⟨_, hfirst, fun i hi => hi⟩
    · obtain ⟨results, hsound, hkept⟩ := ih hfirst.left run hlater
      exact ⟨results, hsound, fun i hi => hkept i (hfirst.kept i hi)⟩

private theorem claimRuns_pairwise {details : Details} {claims : List ClaimEnvironment}
    (h : PrefixDone command.plan (entriesOf details)) :
    (claimRuns command details claims).Pairwise fun run later => ∀ i, Recorded (entriesOf run.result.details) i →
      ∀ call ∈ later.calls, call.view.stepIndex ≠ i := by
  induction claims generalizing details with
  | nil => exact List.Pairwise.nil
  | cons env claims ih =>
    have hfirst := @executeBatchedCommand_sound command env _ h
    refine List.Pairwise.cons ?_ (ih hfirst.left)
    rintro later hlater i hi call hcall rfl
    obtain ⟨results, hsound, hkept⟩ := claimRuns_sound hfirst.left later hlater
    exact hsound.not_recorded hcall (hkept _ hi)

end Run

/-- **A compound command runs its steps in order and each at most once to success.** Over any sequence of claims of a
command, each on the details the previous one left: every call of the adapter is for a covered step whose earlier
steps are all recorded as succeeded, through a view that shows exactly these as completed; no call is for a step that
a call before it carried to success or that an earlier claim left recorded as succeeded; and a claim reports success
only if it leaves every covered step recorded as succeeded. -/
theorem batched_steps_in_order_once (command : CarriedCommand) (claims : List ClaimEnvironment) :
    (∀ run ∈ claimRuns command [] claims, ∀ call ∈ run.calls, ∃ before item after,
      command.plan = before ++ item :: after ∧ CallInOrder command.workflow call before item) ∧
    OnceToSuccess ((claimRuns command [] claims).flatMap BatchedRun.calls) ∧
    ((claimRuns command [] claims).Pairwise fun run later => ∀ i, Recorded (entriesOf run.result.details) i →
      ∀ call ∈ later.calls, call.view.stepIndex ≠ i) ∧
    ∀ run ∈ claimRuns command [] claims, run.result.status = .succeeded →
      ∀ item ∈ command.plan, Recorded (entriesOf run.result.details) item.stepIndex := by
  have hfresh : PrefixDone command.plan (entriesOf []) := PrefixDone.nil command.plan
  have hsound := @claimRuns_sound command [] claims hfresh
  have hpairwise := @claimRuns_pairwise command [] claims hfresh
  refine ⟨?_, ?_, hpairwise, ?_⟩
  · intro run hrun call hcall
    obtain ⟨results, hrun, -⟩ := hsound run hrun
    exact hrun.inOrder call hcall
  · -- within a claim by its own record, across claims by what the earlier one left
    refine List.pairwise_flatMap.mpr ⟨fun run hrun => ?_, hpairwise.imp_of_mem ?_⟩
    · obtain ⟨results, hrun, -⟩ := hsound run hrun
      exact hrun.once
    · intro run later hrun hlater hnever earlier hearlier call hcall hsucceeded
      obtain ⟨results, hrun, -⟩ := hsound run hrun
      exact hnever _ (hrun.recorded earlier hearlier hsucceeded) call hcall
  · intro run hrun hstatus
    obtain ⟨results, hrun, -⟩ := hsound run hrun
    exact hrun.complete hstatus

/-- A reset handed back once: the second claim resumes at it. -/
example :
    let command : CarriedCommand :=
      { commandId := "c", clusterId := "k", workflowRequestId := "w", stepIndex := 1, fencingToken := 1,
        step := { operation := .quiesceGpuServices },
        batchedSteps := [⟨2, { operation := .resetGpu }, "w/2"⟩, ⟨3, { operation := .restoreGpuServices }, "w/3"⟩],
        workflow := { requestId := "w", status := .running } }
    let handedBack : ClaimEnvironment := ⟨0, fun _ => none, fun view =>
      .executed (if view.stepIndex = 2 then .waiting none [] else .succeeded [])⟩
    let resumed : ClaimEnvironment := ⟨1, fun _ => none, fun _ => .executed (.succeeded [])⟩
    (claimRuns command [] [handedBack, resumed]).map
      (fun run => run.calls.map fun call => (call.view.stepIndex, call.view.workflow.completedStepIndexes)) =
        [[(1, []), (2, [1])], [(2, [1]), (3, [1, 2])]] := by
  decide +kernel

end GpuFaultRecovery
