import GpuFaultRecovery.ClaimedWorkflow
import GpuFaultRecovery.PythonText
import GpuFaultRecovery.RemoteEvidence
import GpuFaultRecovery.Table

/-!
# The restart budget of a job

A job may be restarted a fixed number of times. The claim of a row reserves its pending restarts under ids of their
own, a restart that is dispatched carries the reservation it was read back under, and a row that ends hands back the
reservations of restarts nobody attempted, judged by the record of the step and by the remote command as it is then.
-/

namespace GpuFaultRecovery

/-! ### The store -/

structure RestartBudgetState where
  clusterId : String
  jobId : String
  budget : Nat
  restartCount : Nat := 0
  reservationIds : List String := []
deriving Repr, DecidableEq

def RestartBudgetState.key (state : RestartBudgetState) : String × String := (state.clusterId, state.jobId)

abbrev RestartBudgetTable := Table RestartBudgetState.key

/-- What the model of a budget refuses to be built without (`validate_count`). -/
structure RestartBudgetState.Valid (state : RestartBudgetState) : Prop where
  count : state.restartCount = state.reservationIds.length
  within : state.restartCount ≤ state.budget
  unique : state.reservationIds.Nodup

/-- Reserve one restart; an id that is there already is reserved again for free. -/
def reserveJobRestart (budgets : RestartBudgetTable) (clusterId jobId : String) (budget : Int)
    (reservationId : String) :
    Except String (RestartBudgetTable × RestartBudgetState × Bool) :=
  match budgets.get? (clusterId, jobId) with
  | none =>
    if budget < 0 then .error "1 validation error for RestartBudgetState"
    else if budget = 0 then .ok (budgets, { clusterId, jobId, budget := 0 }, false)
    else
      let state : RestartBudgetState :=
        { clusterId, jobId, budget := budget.toNat, restartCount := 1, reservationIds := [reservationId] }
      .ok (budgets.put state, state, true)
  | some state =>
    if (state.budget : Int) ≠ budget then
      .error (s!"restart budget is immutable for {clusterId}/{jobId}: configured={state.budget}, received={budget}")
    else if state.reservationIds.contains reservationId then .ok (budgets, state, true)
    else if state.restartCount ≥ state.budget then .ok (budgets, state, false)
    else
      let reserved := { state with
        restartCount := state.restartCount + 1
        reservationIds := state.reservationIds ++ [reservationId] }
      .ok (budgets.put reserved, reserved, true)

structure Reservation where
  clusterId : String
  jobId : String
  id : String
deriving Repr, DecidableEq

/-- Hand one reservation back; a job without a budget has none to hand back. -/
def releaseJobRestart (budgets : RestartBudgetTable) (reservation : Reservation) : RestartBudgetTable :=
  match budgets.get? (reservation.clusterId, reservation.jobId) with
  | none => budgets
  | some state =>
    if state.reservationIds.contains reservation.id then
      let kept := state.reservationIds.filter fun item => item != reservation.id
      budgets.put { state with restartCount := kept.length, reservationIds := kept }
    else budgets

def Reservation.HeldIn (reservation : Reservation) (budgets : RestartBudgetTable) : Prop :=
  ∃ state, budgets.get? (reservation.clusterId, reservation.jobId) = some state ∧
    reservation.id ∈ state.reservationIds

instance Reservation.decidableHeldIn (reservation : Reservation) (budgets : RestartBudgetTable) :
    Decidable (reservation.HeldIn budgets) :=
  decidable_of_iff ((budgets.get? (reservation.clusterId, reservation.jobId)).any
      fun state => state.reservationIds.contains reservation.id)
    (by simp [Reservation.HeldIn, Option.any_eq_true])

def BudgetsValid (budgets : RestartBudgetTable) : Prop :=
  ∀ key state, budgets.get? key = some state → state.Valid

/-! ### Ids and safety context -/

/-- The reservation id of a restart, which is also the key its adapter is called with. -/
def reservationId (requestId : String) (index : Nat) (phase : StepPhase) : String :=
  match phase with
  | .safety => s!"{requestId}/safety/{index}/RESTART_WORKLOAD"
  | .official => s!"{requestId}/{index}/RESTART_WORKLOAD"

namespace Json

variable [UnicodeTables]

mutual

/-- `repr(value)`. -/
def reprText : Json → String
  | .null => "None"
  | .bool b => if b then "True" else "False"
  | .int n => toString n
  | .dec mantissa digits => PythonText.reprFloat mantissa digits
  | .str s => PythonText.repr s
  | .arr items => "[" ++ ", ".intercalate (reprItems items) ++ "]"
  | .obj fields => "\x7b" ++ ", ".intercalate (reprFields fields) ++ "\x7d"

def reprItems : List Json → List String
  | [] => []
  | item :: items => reprText item :: reprItems items

def reprFields : List (String × Json) → List String
  | [] => []
  | (key, value) :: fields => (PythonText.repr key ++ ": " ++ reprText value) :: reprFields fields

end

/-- `str(value)`. -/
def render : Json → String
  | .str s => s
  | value => value.reprText

end Json

/-- `int(value)`; a decimal is cut off, what is no number is an error. -/
def Json.toInt : Json → Except String Int
  | .int n => .ok n
  | .bool b => .ok (if b then 1 else 0)
  | .dec mantissa digits => .ok (mantissa.tdiv (10 ^ digits))
  | .str s =>
    match s.trimAscii.toString.toInt? with
    | some n => .ok n
    | none => .error (s!"invalid literal for int() with base 10: '{s}'")
  | .null => .error "int() argument must be a string, a bytes-like object or a real number, not 'NoneType'"
  | .arr _ => .error "int() argument must be a string, a bytes-like object or a real number, not 'list'"
  | .obj _ => .error "int() argument must be a string, a bytes-like object or a real number, not 'dict'"

def requiredRestartParameters : List String :=
  ["cluster_id", "job_id", "restart_budget", "source_attempt_id", "source_gpu_count"]

/-- The parameter under `key`, as text. -/
def restartParameter [UnicodeTables] (step : WorkflowStepSpec) (key : String) : String :=
  ((step.parameters.get? key).map Json.render).getD ""

/-- The reservation of the restart at `index`. -/
def stepReservation [UnicodeTables] (requestId : String) (phase : StepPhase) (index : Nat) (step : WorkflowStepSpec) :
    Reservation :=
  { clusterId := restartParameter step "cluster_id"
    jobId := restartParameter step "job_id"
    id := reservationId requestId index phase }

def failedRestart (error reason : String) (details : Details) : StepOutcome :=
  { status := .failed, error := some error, details := ("reason", .str reason) :: details }

/-- The gates a claim and a dispatch apply alike: nothing missing, and the cluster of the incident. -/
def restartContextFailure [UnicodeTables] (step : WorkflowStepSpec) (clusterId : String) : Option StepOutcome :=
  let missing := requiredRestartParameters.filter fun key => !step.parameters.has key
  let restartCluster := restartParameter step "cluster_id"
  if !missing.isEmpty then
    some (failedRestart ("restart safety context is missing: " ++ ", ".intercalate missing)
      "RESTART_SAFETY_CONTEXT_MISSING" [("missing_parameters", .arr (missing.map Json.str))])
  else if restartCluster != clusterId then
    some (failedRestart (s!"restart safety context cluster does not match incident: {restartCluster} != {clusterId}")
      "RESTART_CLUSTER_MISMATCH" [("restart_cluster_id", .str restartCluster),
        ("incident_cluster_id", .str clusterId)])
  else none

def invalidRestartContext (error : String) : StepOutcome :=
  failedRestart (s!"restart safety context is invalid: {error}") "RESTART_SAFETY_CONTEXT_INVALID" []

/-! ### The claim -/

def budgetExhaustedReason : String := "RESTART_BUDGET_EXHAUSTED"

/-- Restarts whose adapter already answered with a wait: the claim does not reserve them again. -/
def alreadyAttempted (workflow : WorkflowRequest) (phase : StepPhase) : List Nat :=
  (workflow.stepExecutions.filter fun item => item.operation == .restartWorkload && item.status == .waiting &&
    (item.phase.isNone || item.phase == some phase)).map WorkflowStepExecution.stepIndex

/-- Whether the claim has to reserve the step at `index`. -/
def needsReservation (workflow : WorkflowRequest) (phase : StepPhase) (index : Nat)
    (step : WorkflowStepSpec) : Bool :=
  step.operation == .restartWorkload && !workflow.resolvedStepIndexes.contains index &&
    !(alreadyAttempted workflow phase).contains index

/-- One round of `reserve_restart_budgets`: the store after it, and the failure that stops the claim. -/
def reserveRestart [UnicodeTables] (budgets : RestartBudgetTable) (requestId clusterId : String) (phase : StepPhase)
    (index : Nat) (step : WorkflowStepSpec) : RestartBudgetTable × Option StepOutcome :=
  match restartContextFailure step clusterId with
  | some failure => (budgets, some failure)
  | none =>
    let reservation := stepReservation requestId phase index step
    match ((step.parameters.get? "restart_budget").getD .null).toInt.bind fun budget =>
        reserveJobRestart budgets reservation.clusterId reservation.jobId budget reservation.id with
    | .error error => (budgets, some (invalidRestartContext error))
    | .ok (budgets', state, reserved) =>
      if reserved then (budgets', none)
      else
        (budgets', some (failedRestart
          (s!"restart budget exhausted for {state.clusterId}/{state.jobId}: {state.restartCount}/{state.budget}")
          budgetExhaustedReason
          [("restart_count", .int state.restartCount), ("restart_budget", .int state.budget)]))

/-- Keep the chain and drop only the restart when the budget is spent. -/
def withholdExhaustedRestart (workflow : WorkflowRequest) (index : Nat) (step : WorkflowStepSpec)
    (outcome : StepOutcome) (now : Time) : WorkflowRequest :=
  { retireSteps (recordAttempt workflow step index outcome now) [index] now with
    terminalFailureReason := (workflow.terminalFailureReason.filter (· != "")).orElse fun _ => outcome.error }

/-! ### The dispatch -/

structure RestartAuthorization where
  clusterId : String
  jobId : String
  sourceAttemptId : String
  sourceGpuCount : Int
  restartBudget : Int
  restartCount : Nat
  reservationId : String
deriving Repr, DecidableEq

/-- Read the reservation of a restart back and sign it; a step without one fails. -/
def issueRestartAuthorization [UnicodeTables] (budgets : RestartBudgetTable) (clusterId : String)
    (step : WorkflowStepSpec) (reservation : Reservation) : Except StepOutcome RestartAuthorization :=
  match restartContextFailure step clusterId with
  | some failure => .error failure
  | none =>
    let counts := ((step.parameters.get? "source_gpu_count").getD .null).toInt.bind fun gpus =>
      (((step.parameters.get? "restart_budget").getD .null).toInt).map fun budget => (gpus, budget)
    match counts with
    | .error error => .error (invalidRestartContext error)
    | .ok (gpus, budget) =>
      match (budgets.get? (reservation.clusterId, reservation.jobId)).filter fun state =>
          state.reservationIds.contains reservation.id with
      | none =>
        let state := budgets.get? (reservation.clusterId, reservation.jobId)
        .error (failedRestart
          (s!"restart reservation missing for {reservation.clusterId}/{reservation.jobId}: {reservation.id}")
          "RESTART_RESERVATION_MISSING"
          [("reservation_id", .str reservation.id),
           ("restart_count", .int ((state.map RestartBudgetState.restartCount).getD 0)),
           ("restart_budget", .int ((state.map fun found => (found.budget : Int)).getD budget))])
      | some state =>
        .ok { clusterId := reservation.clusterId
              jobId := reservation.jobId
              sourceAttemptId := restartParameter step "source_attempt_id"
              sourceGpuCount := gpus
              restartBudget := state.budget
              restartCount := state.restartCount
              reservationId := reservation.id }

/-- The guard of the restart adapter: the authorization describes the step in front of it. -/
def authorizationMatches [UnicodeTables] (authorization : RestartAuthorization) (step : WorkflowStepSpec)
    (idempotencyKey : String) : Bool :=
  authorization.clusterId == restartParameter step "cluster_id" &&
    authorization.jobId == restartParameter step "job_id" &&
    authorization.sourceAttemptId == restartParameter step "source_attempt_id" &&
    ((step.parameters.get? "source_gpu_count").getD .null).toInt.toOption == some authorization.sourceGpuCount &&
    ((step.parameters.get? "restart_budget").getD .null).toInt.toOption == some authorization.restartBudget &&
    authorization.reservationId == idempotencyKey

/-! ### The end -/

/-- Whether the remote command of a restart, as it is now, never submitted one. -/
def remoteCommandIsBeforeSubmission (command : Option RemoteActionCommand) : Bool :=
  command.any fun command =>
    let notSubmitted := command.resultDetails.get? "restart_submitted" == some (.bool false)
    match command.status with
    | .pending => true
    | .waiting => notSubmitted
    | .failed =>
      notSubmitted || command.statusSource == some "executor-rejected" ||
        command.statusSource == some "unclaimed-deadline-exceeded" ||
        ((command.statusSource == some "workflow-timeout" || command.statusSource == some "workflow-preempted") &&
          command.resultDetails.isEmpty)
    | _ => false

def waitWasBeforeSubmission [UnicodeTables] (details : Details)
    (commands : String → Option RemoteActionCommand) : Bool :=
  if (details.get? "retryable_adapter_error").any Json.truthy then false
  else
    match (details.get? "remote_command_id").filter Json.truthy with
    | some commandId => remoteCommandIsBeforeSubmission (commands commandId.render)
    | none =>
      if details.get? "remote_status" == some (.str "LEASED") then false
      else if details.get? "remote_status" == some (.str "PENDING") then true
      else details.get? "restart_submitted" == some (.bool false)

def restartNeverLeftTheGate [UnicodeTables] (record : WorkflowStepExecution)
    (commands : String → Option RemoteActionCommand) (now : Time) (waitingTtl : Option Int) : Bool :=
  match record.status with
  | .waiting =>
    waitingTtl.any fun ttl => decide (ttl ≤ now - record.startedAt) && waitWasBeforeSubmission record.details commands
  | .failed =>
    if record.details.has "step_waiting_timeout_seconds" then waitWasBeforeSubmission record.details commands
    else if record.details.get? "restart_submitted" == some (.bool false) then true
    else
      match record.details.get? "remote_status_source" with
      | some (.str source) =>
        if source = "executor-rejected" ∨ source = "unclaimed-deadline-exceeded" then true
        else if source = "workflow-timeout" ∨ source = "workflow-preempted" then
          record.details.all fun (key, _) => key == "remote_status_source"
        else false
      | _ => false
  | .succeeded => false

/-- What a terminal write looks at beside the row: the steps it releases by force, the live commands, the clock and
the wait it grants a restart. -/
structure ReleaseEvidence where
  forced : List Nat := []
  commands : String → Option RemoteActionCommand := fun _ => none
  now : Time
  waitingTtl : Option Int := none

/-- The reservations `release_unattempted_restart_reservations` hands back for a row that ends. -/
def unattemptedReservations [UnicodeTables] (workflow : WorkflowRequest) (evidence : ReleaseEvidence) :
    List Reservation :=
  (workflow.executedSteps.zipIdx.filter fun (step, index) =>
    step.operation == .restartWorkload && !workflow.completedStepIndexes.contains index &&
      (match (workflow.stepExecutions.filter fun item => item.operation == .restartWorkload &&
          item.stepIndex == index).getLast? with
        | none => true
        | some record => evidence.forced.contains index ||
          restartNeverLeftTheGate record evidence.commands evidence.now evidence.waitingTtl) &&
      step.parameters.has "cluster_id" && step.parameters.has "job_id").map fun (step, index) =>
        stepReservation workflow.requestId workflow.executionPhase index step

/-! ### What the store keeps -/

section Kept

variable {budgets budgets' : RestartBudgetTable} {state : RestartBudgetState} {clusterId jobId id : String}
  {budget : Int}
  {granted : Bool} {reservation other : Reservation}

private theorem BudgetsValid.put (h : BudgetsValid budgets) (hstate : state.Valid) :
    BudgetsValid (budgets.put state) := by
  intro key found hfound
  rw [Table.get?_put] at hfound
  split at hfound
  · rw [← Option.some.inj hfound]
    exact hstate
  · exact h key found hfound

/-- What a reservation does to the store: nothing, or one new id for its job. -/
private theorem reserveJobRestart_cases
    (h : reserveJobRestart budgets clusterId jobId budget id = .ok (budgets', state, granted)) :
    (budgets' = budgets ∧ (granted = true → (⟨clusterId, jobId, id⟩ : Reservation).HeldIn budgets)) ∨
      (granted = true ∧ budgets' = budgets.put state ∧ state.clusterId = clusterId ∧ state.jobId = jobId ∧
        ∃ ids, state.reservationIds = ids ++ [id] ∧ id ∉ ids ∧ state.restartCount ≤ state.budget ∧
          ((budgets.get? (clusterId, jobId) = none ∧ ids = [] ∧ state.restartCount = 1) ∨
            ∃ before, budgets.get? (clusterId, jobId) = some before ∧ before.reservationIds = ids ∧
              state.restartCount = before.restartCount + 1)) := by
  unfold reserveJobRestart at h
  cases hget : budgets.get? (clusterId, jobId) with
  | none =>
    simp only [hget] at h
    split_ifs at h with hneg hzero
    · cases h
      exact .inl ⟨rfl, fun hgranted => by cases hgranted⟩
    · cases h
      exact .inr ⟨rfl, rfl, rfl, rfl, [], rfl, by simp, by dsimp only; omega, .inl ⟨rfl, rfl, rfl⟩⟩
  | some before =>
    have hkey : before.key = (clusterId, jobId) := Table.key_of_get? hget
    obtain ⟨hcluster, hjob⟩ := Prod.mk.inj hkey
    simp only [hget] at h
    split_ifs at h with hbudget hhas hspent
    · cases h
      exact .inl ⟨rfl, fun _ => ⟨state, hget, List.contains_iff_mem.mp hhas⟩⟩
    · cases h
      exact .inl ⟨rfl, fun hgranted => by cases hgranted⟩
    · cases h
      refine .inr ⟨rfl, rfl, hcluster, hjob, before.reservationIds, rfl, fun hmem => ?_, ?_,
        .inr ⟨before, rfl, rfl, rfl⟩⟩
      · exact hhas (List.contains_iff_mem.mpr hmem)
      · dsimp only
        omega

/-- A reservation keeps the store valid. -/
theorem BudgetsValid.reserve (h : BudgetsValid budgets)
    (hreserve : reserveJobRestart budgets clusterId jobId budget id = .ok (budgets', state, granted)) :
    BudgetsValid budgets' := by
  rcases reserveJobRestart_cases hreserve with ⟨rfl, -⟩ |
    ⟨-, rfl, -, -, ids, hids, hnew, hwithin, ⟨-, rfl, hcount⟩ | ⟨before, hbefore, rfl, hcount⟩⟩
  · exact h
  · exact h.put ⟨by simp [hids, hcount], hwithin, by simp [hids]⟩
  · have hvalid := h _ before hbefore
    refine h.put ⟨?_, hwithin, ?_⟩
    · rw [hids, hcount, hvalid.count, List.length_append, List.length_singleton]
    · rw [hids]
      exact hvalid.unique.append (List.nodup_singleton _) (by simpa using hnew)

/-- A reservation takes none away. -/
theorem Reservation.HeldIn.reserve (h : other.HeldIn budgets)
    (hreserve : reserveJobRestart budgets clusterId jobId budget id = .ok (budgets', state, granted)) :
    other.HeldIn budgets' := by
  rcases reserveJobRestart_cases hreserve with ⟨rfl, -⟩ |
    ⟨-, rfl, hcluster, hjob, ids, hids, -, -, hbefore⟩
  · exact h
  · obtain ⟨found, hfound, hmem⟩ := h
    by_cases hkey : (other.clusterId, other.jobId) = state.key
    · refine ⟨state, by rw [hkey]; exact Table.get?_put_self _ _, ?_⟩
      rw [hkey, RestartBudgetState.key, hcluster, hjob] at hfound
      rcases hbefore with ⟨hnone, -⟩ | ⟨before, hbefore, rfl, -⟩
      · rw [hnone] at hfound
        cases hfound
      · obtain rfl : before = found := Option.some.inj (hbefore.symm.trans hfound)
        rw [hids]
        exact List.mem_append_left _ hmem
    · exact ⟨found, by rw [Table.get?_put_ne hkey]; exact hfound, hmem⟩

/-- What is granted is held. -/
theorem heldIn_of_granted
    (hreserve : reserveJobRestart budgets clusterId jobId budget id = .ok (budgets', state, true)) :
    (⟨clusterId, jobId, id⟩ : Reservation).HeldIn budgets' := by
  rcases reserveJobRestart_cases hreserve with ⟨rfl, hheld⟩ | ⟨-, rfl, hcluster, hjob, ids, hids, -⟩
  · exact hheld rfl
  · refine ⟨state, ?_, by simp [hids]⟩
    rw [← hcluster, ← hjob]
    exact Table.get?_put_self _ _

private theorem BudgetsValid.release (h : BudgetsValid budgets) (reservation : Reservation) :
    BudgetsValid (releaseJobRestart budgets reservation) := by
  unfold releaseJobRestart
  split
  · exact h
  · rename_i found hfound
    have hvalid := h _ found hfound
    split
    · refine h.put ⟨rfl, ?_, hvalid.unique.filter _⟩
      have hless := List.length_filter_le (fun item => item != reservation.id) found.reservationIds
      have hcount := hvalid.count
      have hwithin := hvalid.within
      dsimp only
      omega
    · exact h

/-- Handing one reservation back leaves the others. -/
private theorem Reservation.HeldIn.release (h : other.HeldIn budgets) (hne : other ≠ reservation) :
    other.HeldIn (releaseJobRestart budgets reservation) := by
  obtain ⟨found, hfound, hmem⟩ := h
  unfold releaseJobRestart
  split
  · exact ⟨found, hfound, hmem⟩
  · rename_i state hstate
    split
    · have hkey : state.key = (reservation.clusterId, reservation.jobId) := Table.key_of_get? hstate
      by_cases hsame : (other.clusterId, other.jobId) = (reservation.clusterId, reservation.jobId)
      · have hid : other.id ≠ reservation.id := by
          intro hid
          obtain ⟨hcluster, hjob⟩ := Prod.mk.inj hsame
          cases other
          cases reservation
          simp_all
        obtain rfl : state = found := by
          rw [hsame] at hfound
          exact Option.some.inj (hstate.symm.trans hfound)
        refine ⟨_, by rw [hsame, ← hkey]; exact Table.get?_put_self _ _, ?_⟩
        exact List.mem_filter.mpr ⟨hmem, by simpa using hid⟩
      · exact ⟨found, by rw [Table.get?_put_ne (hkey ▸ hsame)]; exact hfound, hmem⟩
    · exact ⟨found, hfound, hmem⟩

theorem BudgetsValid.releaseAll (h : BudgetsValid budgets) (released : List Reservation) :
    BudgetsValid (released.foldl releaseJobRestart budgets) := by
  induction released generalizing budgets with
  | nil => exact h
  | cons reservation released ih => exact ih (h.release reservation)

theorem Reservation.HeldIn.releaseAll (h : other.HeldIn budgets) {released : List Reservation}
    (hnot : other ∉ released) :
    other.HeldIn (released.foldl releaseJobRestart budgets) := by
  induction released generalizing budgets with
  | nil => exact h
  | cons reservation released ih =>
    obtain ⟨hne, hrest⟩ := not_or.mp (List.mem_cons.not.mp hnot)
    exact ih (h.release hne) hrest

end Kept

section Rounds

variable {budgets budgets' : RestartBudgetTable} {requestId clusterId : String} {phase : StepPhase} {index : Nat}
  {step : WorkflowStepSpec} {failure : Option StepOutcome}

/-- One round of the claim either leaves the store as it is or makes one reservation. -/
theorem reserveRestart_cases [UnicodeTables]
    (h : reserveRestart budgets requestId clusterId phase index step = (budgets', failure)) :
    (budgets' = budgets ∧ failure ≠ none) ∨
      ∃ budget state granted, reserveJobRestart budgets (stepReservation requestId phase index step).clusterId
          (stepReservation requestId phase index step).jobId budget (stepReservation requestId phase index step).id =
            .ok (budgets', state, granted) ∧ (failure = none ↔ granted = true) := by
  unfold reserveRestart at h
  split at h
  · cases h
    exact .inl ⟨rfl, by simp⟩
  · dsimp only at h
    cases hbudget : ((step.parameters.get? "restart_budget").getD .null).toInt with
    | error error =>
      simp only [hbudget, Except.bind] at h
      cases h
      exact .inl ⟨rfl, by simp⟩
    | ok budget =>
      simp only [hbudget, Except.bind] at h
      split at h
      · cases h
        exact .inl ⟨rfl, by simp⟩
      · rename_i found state granted hreserve
        right
        refine ⟨budget, state, granted, ?_⟩
        cases granted with
        | true =>
          cases h
          exact ⟨hreserve, by simp⟩
        | false =>
          cases h
          exact ⟨hreserve, by simp⟩

/-- An authorization is only issued for a reservation the store holds. -/
theorem heldIn_of_issued [UnicodeTables] {reservation : Reservation} {authorization : RestartAuthorization}
    (h : issueRestartAuthorization budgets clusterId step reservation = .ok authorization) :
    reservation.HeldIn budgets := by
  unfold issueRestartAuthorization at h
  split at h
  · cases h
  · dsimp only at h
    split at h
    · cases h
    · split at h
      · cases h
      · rename_i state hstate
        obtain ⟨hget, hmem⟩ := Option.filter_eq_some_iff.mp hstate
        exact ⟨state, hget, List.contains_iff_mem.mp hmem⟩

end Rounds

end GpuFaultRecovery
