import GpuFaultRecovery.ClaimedWorkflow

/-!
# Deadlines of a claimed workflow

The first claim stamps the hard lifetime of a remediation, and every claim recomputes both deadlines from the row it
finds. A plan that waits for an operator has its lifetime lifted to the acknowledgement window at each of its claims;
any other lifetime stays as it was stamped.
-/

namespace GpuFaultRecovery

namespace WorkflowOperation

/-- `OPERATOR_ACKNOWLEDGEMENT_OPERATIONS`. -/
def operatorAcknowledgement (operation : WorkflowOperation) : Bool := operation == .checkMechanicals

/-- `NODE_INSTALL_OPERATIONS`. -/
def nodeInstall (operation : WorkflowOperation) : Bool :=
  operation == .remediateDriver || operation == .updateSoftwareFirmware || operation == .remediateEfaDriver

end WorkflowOperation

/-- The durations a claim reads off the executor's configuration, in seconds. -/
structure DeadlineConfig where
  timeoutSeconds : Int := 1800
  jobLifetimeSeconds : Int := 3600
  nodeLifetimeSeconds : Int := 3600
  operatorAcknowledgementSeconds : Option Int := some 86400
  installFloorSeconds : Option Int := some 2500
deriving Repr, DecidableEq

namespace WorkflowRequest

def isJob (workflow : WorkflowRequest) : Bool :=
  workflow.dagEnabled || workflow.officialSteps.any fun step => step.operation == .restartWorkload

def waitsForOperator (workflow : WorkflowRequest) : Bool :=
  workflow.officialSteps.any fun step => step.operation.operatorAcknowledgement

def holdsInstall (workflow : WorkflowRequest) : Bool :=
  workflow.officialSteps.any fun step => step.operation.nodeInstall

def freshExecution (workflow : WorkflowRequest) : Bool := workflow.dagEnabled || workflow.executionDeadline.isNone

end WorkflowRequest

namespace DeadlineConfig

variable (config : DeadlineConfig) (workflow : WorkflowRequest) (now : Time)

/-- How long the plan waits for an operator, if it does. -/
def acknowledgementWindow : Option Int :=
  if workflow.waitsForOperator then config.operatorAcknowledgementSeconds else none

/-- How long a freshly stamped install may take, if the plan holds one. -/
def installWindow : Option Int :=
  if workflow.freshExecution && workflow.holdsInstall then config.installFloorSeconds else none

/-- The lifetime of the row, stamped here if it has none. -/
def stampedLifetime : Time :=
  match workflow.lifetimeDeadlineAt with
  | some lifetime => lifetime
  | none => now + (if workflow.isJob then config.jobLifetimeSeconds else config.nodeLifetimeSeconds)

def executionBudget : Time :=
  match workflow.executionDeadline with
  | some existing => if workflow.dagEnabled then now + config.timeoutSeconds else existing
  | none => now + config.timeoutSeconds

/-- `value`, or `now` plus the window if that is later. -/
def floored (value : Time) (window : Option Int) : Time :=
  match window with
  | some seconds => max value (now + seconds)
  | none => value

/-- `claim_deadlines`: the execution deadline and the lifetime. -/
def claimDeadlines : Time × Time :=
  let lifetime := floored now (config.stampedLifetime workflow now) (config.acknowledgementWindow workflow)
  let execution :=
    if workflow.freshExecution then
      floored now (config.executionBudget workflow now) (config.acknowledgementWindow workflow)
    else config.executionBudget workflow now
  (min (floored now execution (config.installWindow workflow)) lifetime, lifetime)

/-- The row `prepare_claimed_workflow` saves, with both of its deadlines. -/
def prepareClaimedWorkflow (predecessor : Option WorkflowRequest) : WorkflowRequest :=
  let deadlines := config.claimDeadlines workflow now
  preparedRow { workflow with lifetimeDeadlineAt := some deadlines.2 } predecessor (some deadlines.1) now

end DeadlineConfig

/-! ### Claims and the writes between them -/

/-- A write that keeps both deadlines and does not turn the plan into one that waits for an operator, or out of
one. -/
def keepsDeadlines (row written : WorkflowRequest) : Bool :=
  written.lifetimeDeadlineAt == row.lifetimeDeadlineAt && written.executionDeadline == row.executionDeadline &&
    written.waitsForOperator == row.waitsForOperator

inductive DeadlineEvent where
  | claim (now : Time) (predecessor : Option WorkflowRequest)
  | write (written : WorkflowRequest)

/-- A claim at some time, or any other write on the row. -/
def deadlineStep (config : DeadlineConfig) (row : WorkflowRequest) : DeadlineEvent → WorkflowRequest
  | .claim now predecessor => config.prepareClaimedWorkflow row now predecessor
  | .write written => if keepsDeadlines row written then written else row

def claimTimes : List DeadlineEvent → List Time
  | [] => []
  | .claim now _ :: events => now :: claimTimes events
  | .write _ :: events => claimTimes events

/-- The time of the last claim, the first of them being at `start`. -/
def lastClaim (start : Time) (events : List DeadlineEvent) : Time := (claimTimes events).getLastD start

def ClaimsSequential (row : WorkflowRequest) : DeadlineEvent → Prop
  | .claim _ _ => row.dagEnabled = false
  | .write _ => True

section Claims

variable {config : DeadlineConfig} {workflow row written : WorkflowRequest} {now start : Time}
  {predecessor : Option WorkflowRequest}

theorem any_restoreAfterReboot (p : WorkflowOperation → Bool) {predecessorId : String} {rebootIndex : Nat}
    {cleanup : WorkflowStepSpec} (hcleanup : p cleanup.operation = false) :
    ((restoreAfterReboot workflow predecessorId rebootIndex cleanup now).officialSteps.any fun step =>
      p step.operation) = workflow.officialSteps.any fun step => p step.operation := by
  have hrewired : ∀ (l : List WorkflowStepSpec) (n : Nat) (f : WorkflowStepSpec × Nat → WorkflowStepSpec),
      (∀ entry, (f entry).operation = entry.1.operation) →
        (((l.zipIdx n).map f).any fun step => p step.operation) = l.any fun step => p step.operation := by
    intro l n f hf
    induction l generalizing n with
    | nil => rfl
    | cons step l ih => simp [List.zipIdx_cons, hf, ih]
  unfold restoreAfterReboot
  simp only [List.any_append, List.any_cons, List.any_nil, hcleanup, Bool.or_false]
  exact hrewired _ _ _ fun _ => rfl

/-- The restore a claim adds after a reboot is the predecessor's own. -/
theorem quiesceAdoption_restoreAfter {previous : WorkflowRequest} {rebootIndex : Nat} {cleanup : WorkflowStepSpec}
    (h : quiesceAdoption workflow previous = some (.restoreAfter rebootIndex cleanup)) :
    cleanup.operation = .restoreGpuServices := by
  unfold quiesceAdoption at h
  split at h
  · cases h
  dsimp only at h
  split at h
  · cases h
  split at h
  · obtain ⟨_, -, heq⟩ := Option.map_eq_some_iff.mp h
    cases heq
  split at h
  · cases h
  split at h
  · cases h
  · obtain ⟨restore, hfound, heq⟩ := Option.map_eq_some_iff.mp h
    have hoperation := List.find?_some hfound
    cases heq
    exact eq_of_beq hoperation

private theorem waitsForOperator_adoptQuiesceHandoff :
    (adoptQuiesceHandoff workflow predecessor now).waitsForOperator = workflow.waitsForOperator := by
  unfold adoptQuiesceHandoff
  split
  · rfl
  rename_i previous
  split
  · rfl
  · rfl
  · rename_i rebootIndex cleanup hadoption
    refine any_restoreAfterReboot WorkflowOperation.operatorAcknowledgement ?_
    have hrestore := quiesceAdoption_restoreAfter hadoption
    rw [hrestore]
    rfl

private theorem deadlines_adoptQuiesceHandoff :
    (adoptQuiesceHandoff workflow predecessor now).executionDeadline = workflow.executionDeadline ∧
      (adoptQuiesceHandoff workflow predecessor now).lifetimeDeadlineAt = workflow.lifetimeDeadlineAt := by
  unfold adoptQuiesceHandoff
  split
  · exact ⟨rfl, rfl⟩
  · split <;> exact ⟨rfl, rfl⟩

/-- A claim writes the two deadlines it computes, and leaves whether the plan waits for an operator. -/
theorem prepareClaimedWorkflow_eq :
    (config.prepareClaimedWorkflow row now predecessor).executionDeadline = some (config.claimDeadlines row now).1 ∧
      (config.prepareClaimedWorkflow row now predecessor).lifetimeDeadlineAt = some
        (config.claimDeadlines row now).2 ∧
      (config.prepareClaimedWorkflow row now predecessor).waitsForOperator = row.waitsForOperator := by
  exact ⟨deadlines_adoptQuiesceHandoff.1, deadlines_adoptQuiesceHandoff.2, waitsForOperator_adoptQuiesceHandoff⟩

/-- A claim never lowers the lifetime, and only a wait for an operator lifts it. -/
theorem claimDeadlines_lifetime {lifetime : Time} (h : row.lifetimeDeadlineAt = some lifetime) :
    (config.claimDeadlines row now).2 =
      DeadlineConfig.floored now lifetime (config.acknowledgementWindow row) := by
  have hstamped : config.stampedLifetime row now = lifetime := by
    unfold DeadlineConfig.stampedLifetime
    rw [h]
  simp only [DeadlineConfig.claimDeadlines, hstamped]

private theorem claimDeadlines_le : (config.claimDeadlines row now).1 ≤ (config.claimDeadlines row now).2 :=
  min_le_right _ _

private theorem claimDeadlines_sequential {deadline : Time} (hrow : row.executionDeadline = some deadline)
    (hsequential : row.dagEnabled = false) : (config.claimDeadlines row now).1 ≤ deadline := by
  have hfresh : row.freshExecution = false := by
    simp [WorkflowRequest.freshExecution, hrow, hsequential]
  have hbudget : config.executionBudget row now = deadline := by
    simp [DeadlineConfig.executionBudget, hrow, hsequential]
  have hinstall : config.installWindow row = none := by
    simp [DeadlineConfig.installWindow, hfresh]
  simp only [DeadlineConfig.claimDeadlines, hfresh, hbudget, hinstall, DeadlineConfig.floored]
  exact min_le_left _ _

/-- The deadlines of a row once it has been claimed: `stamped` is what its first claim stamped, `now` its last
claim. -/
structure Stamped (config : DeadlineConfig) (window : Option Int) (stamped now : Time) (row : WorkflowRequest) :
    Prop where
  waits : config.acknowledgementWindow row = window
  lifetime : row.lifetimeDeadlineAt = some (DeadlineConfig.floored now stamped window)
  deadline : ∃ deadline, row.executionDeadline = some deadline ∧ deadline ≤ DeadlineConfig.floored now stamped window

variable {window : Option Int} {stamped : Time}

theorem acknowledgementWindow_congr (h : written.waitsForOperator = row.waitsForOperator) :
    config.acknowledgementWindow written = config.acknowledgementWindow row := by
  unfold DeadlineConfig.acknowledgementWindow
  rw [h]

private theorem Stamped.first (config : DeadlineConfig) (row : WorkflowRequest) (now : Time)
    (predecessor : Option WorkflowRequest) :
    Stamped config (config.acknowledgementWindow row) (config.claimDeadlines row now).2 now
      (config.prepareClaimedWorkflow row now predecessor) := by
  obtain ⟨hexecution, hlifetime, hwaits⟩ := @prepareClaimedWorkflow_eq config row now predecessor
  have hfloored : DeadlineConfig.floored now (config.claimDeadlines row now).2 (config.acknowledgementWindow row) =
      (config.claimDeadlines row now).2 := by
    simp only [DeadlineConfig.claimDeadlines, DeadlineConfig.floored]
    split
    · exact max_eq_left (le_max_right _ _)
    · rfl
  refine ⟨acknowledgementWindow_congr hwaits, ?_, _, hexecution, ?_⟩
  · rw [hlifetime, hfloored]
  · rw [hfloored]
    exact claimDeadlines_le

private theorem Stamped.claim (h : Stamped config window stamped start row) (hnow : start ≤ now) :
    Stamped config window stamped now (config.prepareClaimedWorkflow row now predecessor) := by
  obtain ⟨hexecution, hlifetime, hwaits⟩ := @prepareClaimedWorkflow_eq config row now predecessor
  have hlifted : (config.claimDeadlines row now).2 = DeadlineConfig.floored now stamped window := by
    rw [claimDeadlines_lifetime h.lifetime, h.waits]
    cases window with
    | none => rfl
    | some seconds =>
      have hlater : start + seconds ≤ now + seconds := Int.add_le_add_right hnow seconds
      simp only [DeadlineConfig.floored]
      rw [max_assoc, max_eq_right hlater]
  refine ⟨(acknowledgementWindow_congr hwaits).trans h.waits, ?_, _, hexecution, ?_⟩
  · rw [hlifetime, hlifted]
  · rw [← hlifted]
    exact claimDeadlines_le

private theorem Stamped.write (h : Stamped config window stamped now row)
    (hkeeps : keepsDeadlines row written = true) :
    Stamped config window stamped now written := by
  simp only [keepsDeadlines, Bool.and_eq_true, beq_iff_eq] at hkeeps
  obtain ⟨⟨hlifetime, hexecution⟩, hwaits⟩ := hkeeps
  exact ⟨(acknowledgementWindow_congr hwaits).trans h.waits, hlifetime.trans h.lifetime, by
    rw [hexecution]
    exact h.deadline⟩

/-- The deadlines after any claims and writes, by induction on them: each claim comes after the last one. -/
private theorem Stamped.run {events : List DeadlineEvent} (h : Stamped config window stamped start row)
    (hordered : (start :: claimTimes events).Pairwise (· ≤ ·)) :
    Stamped config window stamped (lastClaim start events) (Run.exec (deadlineStep config) row events) := by
  induction events generalizing start row with
  | nil => exact h
  | cons event events ih =>
    cases event with
    | claim now predecessor =>
      have hnow : start ≤ now := (List.pairwise_cons.mp hordered).1 now (by simp [claimTimes])
      have hlast : lastClaim start (.claim now predecessor :: events) = lastClaim now events :=
        List.getLastD_cons
      rw [hlast, Run.exec_cons]
      exact ih (h.claim hnow) (List.pairwise_cons.mp hordered).2
    | write written =>
      have hlast : lastClaim start (.write written :: events) = lastClaim start events := rfl
      rw [hlast, Run.exec_cons]
      refine ih ?_ hordered
      dsimp only [deadlineStep]
      split
      · rename_i hkeeps
        exact h.write hkeeps
      · exact h

/-- Claims of a sequential row never move its execution deadline past `bound`. -/
private theorem executionDeadline_run {bound : Time} {events : List DeadlineEvent}
    (h : ∃ deadline, row.executionDeadline = some deadline ∧ deadline ≤ bound)
    (hsequential : Run.Along (deadlineStep config) ClaimsSequential row events) :
    ∃ deadline, (Run.exec (deadlineStep config) row events).executionDeadline = some deadline ∧ deadline ≤ bound := by
  refine @Run.invariant_exec _ _ (deadlineStep config) ClaimsSequential
    (fun row => ∃ deadline, row.executionDeadline = some deadline ∧
      deadline ≤ bound) (fun row event hrow hevent => ?_) _ _
    h hsequential
  obtain ⟨deadline, hdeadline, hbound⟩ := hrow
  cases event with
  | claim now predecessor =>
    exact ⟨_, (@prepareClaimedWorkflow_eq config row now predecessor).1,
      (claimDeadlines_sequential hdeadline hevent).trans hbound⟩
  | write written =>
    dsimp only [deadlineStep]
    split
    · rename_i hkeeps
      simp only [keepsDeadlines, Bool.and_eq_true, beq_iff_eq] at hkeeps
      exact ⟨deadline, hkeeps.1.2.trans hdeadline, hbound⟩
    · exact ⟨deadline, hdeadline, hbound⟩

end Claims

/-- A run of claims at increasing times, with writes between them that replace neither the deadlines nor the plan. The
lifetime the first claim stamped stays, except that a plan that waits for an operator has it lifted, by each claim, to
the acknowledgement window from that claim on. The execution deadline is never past the lifetime, and never past the
one first stamped unless such a plan is a DAG. -/
theorem lifetime_stamped_by_first_claim (config : DeadlineConfig) (row : WorkflowRequest) (start : Time)
    (predecessor : Option WorkflowRequest) (events : List DeadlineEvent)
    (hordered : (start :: claimTimes events).Pairwise (· ≤ ·)) :
    ∃ stamped lifetime deadline,
      (deadlineStep config row (.claim start predecessor)).lifetimeDeadlineAt = some stamped ∧
      (Run.exec (deadlineStep config) row (.claim start predecessor :: events)).lifetimeDeadlineAt = some lifetime ∧
      (Run.exec (deadlineStep config) row (.claim start predecessor :: events)).executionDeadline = some deadline ∧
      (config.acknowledgementWindow row = none → lifetime = stamped) ∧
      (∀ window, config.acknowledgementWindow row = some window →
        lifetime = max stamped (lastClaim start events + window)) ∧
      deadline ≤ lifetime ∧
      (config.acknowledgementWindow row = none ∨
          Run.Along (deadlineStep config) ClaimsSequential
            (deadlineStep config row (.claim start predecessor)) events →
        deadline ≤ stamped) := by
  have hfirst := Stamped.first config row start predecessor
  have hstamped := (@prepareClaimedWorkflow_eq config row start predecessor).2.1
  have hlast := hfirst.run hordered
  obtain ⟨deadline, hdeadline, hle⟩ := hlast.deadline
  refine ⟨_, _, deadline, hstamped, hlast.lifetime, hdeadline, ?_, ?_, hle, ?_⟩
  · intro hnone
    rw [hnone]
    rfl
  · intro window hwindow
    rw [hwindow]
    rfl
  · rintro (hnone | hsequential)
    · rw [hnone] at hle
      exact hle
    · obtain ⟨deadline', hdeadline', hle'⟩ := executionDeadline_run
        ⟨_, (@prepareClaimedWorkflow_eq config row start predecessor).1, claimDeadlines_le⟩ hsequential
      rw [Option.some.inj (hdeadline.symm.trans hdeadline')]
      exact hle'

section Inspection

private def inspection : WorkflowRequest :=
  { requestId := "w", status := .pending, officialSteps := [{ operation := .checkMechanicals, nodeIds := ["n1"] }] }

private def branchedInspection : WorkflowRequest :=
  { inspection with
    dagEnabled := true }

/-- An inspection claimed twice, a minute apart: the second claim lifts its lifetime by that minute and leaves its
execution deadline. -/
theorem lifetime_stamped_by_first_claim_inspection :
    ([0, 60] : List Time).Pairwise (· ≤ ·) ∧
      ∃ deadline, (Run.exec (deadlineStep {}) inspection [.claim 0 none, .claim 60 none]).executionDeadline =
        some deadline ∧ deadline ≤ 86400 := by
  have hordered : ((0 : Time) :: claimTimes [.claim 60 none]).Pairwise (· ≤ ·) := by decide
  obtain ⟨stamped, -, deadline, hstamped, -, hdeadline, -, -, -, hle⟩ :=
    lifetime_stamped_by_first_claim {} inspection 0 none [.claim 60 none] hordered
  have hvalue : stamped = 86400 := (Option.some.inj hstamped).symm
  exact ⟨hordered, deadline, hdeadline, hvalue ▸ hle (.inr ⟨rfl, trivial⟩)⟩

/-- The second claim of a branched inspection moves its lifetime, and its execution deadline past the lifetime first
stamped. -/
theorem inspection_lifetime_moves :
    (deadlineStep {} branchedInspection (.claim 0 none)).lifetimeDeadlineAt = some 86400 ∧
      (Run.exec (deadlineStep {}) branchedInspection [.claim 0 none, .claim 60 none]).lifetimeDeadlineAt =
        some 86460 ∧
      (Run.exec (deadlineStep {}) branchedInspection [.claim 0 none, .claim 60 none]).executionDeadline =
        some 86460 := by
  decide +kernel

end Inspection

end GpuFaultRecovery
