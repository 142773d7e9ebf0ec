import Mathlib.Algebra.Ring.Int.Defs
import GpuFaultRecovery.ClaimDeadlines
import GpuFaultRecovery.EscalatedPlan

/-!
# The window a record has been running for

How long a step has waited is counted from the start of the execution window, and that start is not stored: it is the
earliest of the first CLAIM event and of the two deadlines, each less the time a claim is assumed to have added to it.
What a claim added depends on the plan it found, and the plan read afterwards may be another one. A plan that becomes
a job after it was stamped as a node's is read with the lifetime of a job, and its window then opens before its first
claim, by the difference of the two lifetimes.
-/

namespace GpuFaultRecovery

/-! ### The audit events -/

inductive WorkflowEventKind where
  | claim
  | stepAttempt
  | planRewrite
  | branchEscalation
  | preemption
  | hold
  | terminal
  | operatorReconciled
  | operatorRetiredGeneration
  | historyTruncated
deriving Repr, DecidableEq

/-- An audit event. Its code, reason, actor and step, which nothing here reads, are left out, those of a marker
too. -/
structure WorkflowEvent where
  kind : WorkflowEventKind
  recordedAt : Time
  details : Details := []
deriving Repr, DecidableEq

def workflowEventsLimit : Nat := 500

/-- How many events a marker says were dropped; `True` is an integer too. -/
def WorkflowEvent.droppedEvents (marker : WorkflowEvent) : Int :=
  match marker.details.get? "dropped" with
  | some (.int count) => count
  | some (.bool true) => 1
  | _ => 0

/-- The marker at the seam of a shortened history; what an earlier marker counted is counted on. -/
def truncationMarker (isoformat : Time → String) (events keptHead droppedEvents : List WorkflowEvent)
    (event : WorkflowEvent) : WorkflowEvent :=
  let markers := events.filter fun item => item.kind == .historyTruncated
  let since := markers.findSome? fun item => match item.details.get? "dropped_from" with
    | some (.str text) => some text
    | _ => none
  let droppedFrom := since.or (droppedEvents.head?.map fun item => isoformat item.recordedAt)
  let droppedTo := (droppedEvents.getLast?.map fun item => isoformat item.recordedAt).or droppedFrom
  { kind := .historyTruncated
    recordedAt := (((droppedEvents.getLast?).or keptHead.getLast?).getD event).recordedAt
    details := [("dropped", .int ((markers.map WorkflowEvent.droppedEvents).sum + droppedEvents.length)),
      ("dropped_from", (droppedFrom.map Json.str).getD .null), ("dropped_to", (droppedTo.map Json.str).getD .null)] }

/-- One event more: over the limit the first fifth and the most recent ones are kept, with a marker between them. -/
def appendWorkflowEvent (isoformat : Time → String) (events : List WorkflowEvent) (event : WorkflowEvent) :
    List WorkflowEvent :=
  let events := events ++ [event]
  if events.length ≤ workflowEventsLimit then events
  else
    let head := workflowEventsLimit / 5
    let tail := workflowEventsLimit - head - 1
    let remaining := events.filter fun item => item.kind != .historyTruncated
    let keptHead := remaining.take head
    let tailStart := max keptHead.length (remaining.length - tail)
    let droppedEvents := (remaining.take tailStart).drop keptHead.length
    keptHead ++ [truncationMarker isoformat events keptHead droppedEvents event] ++ remaining.drop tailStart

/-! ### The start of the window -/

/-- A row with its audit events. -/
structure ExecutionRecord where
  row : WorkflowRequest
  events : List WorkflowEvent

namespace DeadlineConfig

variable (config : DeadlineConfig)

/-- The acknowledgement window of a plan that waits for an operator, else nothing. -/
def acknowledgementSeconds (workflow : WorkflowRequest) : Int := (config.acknowledgementWindow workflow).getD 0

/-- The lifetime a claim is assumed to have stamped on the plan. -/
def lifetimeAllowance (workflow : WorkflowRequest) : Int :=
  max (if workflow.isJob then config.jobLifetimeSeconds else config.nodeLifetimeSeconds)
    (config.acknowledgementSeconds workflow)

/-- `execution_budget_seconds`: the budget a claim is assumed to have stamped on the plan. -/
def executionBudgetSeconds (workflow : WorkflowRequest) : Int :=
  floored 0 (floored 0 config.timeoutSeconds (config.acknowledgementWindow workflow))
    (if workflow.holdsInstall then config.installFloorSeconds else none)

/-- The readings of the start of the window: the first CLAIM event, the lifetime and, of a flat plan, the deadline. -/
def windowAnchors (record : ExecutionRecord) : List Time :=
  ((record.events.find? fun event => event.kind == .claim).map WorkflowEvent.recordedAt).toList ++
    (record.row.lifetimeDeadlineAt.map fun lifetime => lifetime - config.lifetimeAllowance record.row).toList ++
    if record.row.dagEnabled then []
    else (record.row.executionDeadline.map fun deadline => deadline - config.executionBudgetSeconds record.row).toList

/-- When the execution window of a record opened, if anything says so. -/
def executionWindowStart (record : ExecutionRecord) : Option Time := (config.windowAnchors record).min?

/-- When the clock of a step started: not before the window, and not in the future. -/
def stepElapsedSince (record : ExecutionRecord) (previous : WorkflowStepExecution) (now : Time) : Time :=
  match config.executionWindowStart record with
  | none => previous.startedAt
  | some start => max previous.startedAt (min start now)

end DeadlineConfig

/-! ### What happens to a record after its first claim -/

/-- A claim opens an epoch, and then writes a CLAIM event, or finds its own; a failed branch climbs; a merge appends a
branch; an attempt is recorded; and any of these may be told in an event of another kind. -/
inductive WindowEvent where
  | claim (now : Time) (predecessor : Option WorkflowRequest) (recordedAt : Option Time)
  | climb (profile : Option RuntimeProfile) (maxRungs failedIndex : Nat) (error : Option String) (details : Details)
      (now : Time)
  | append (candidate : WorkflowRequest) (predecessorStepIndex : Option Nat) (replaced : List Nat) (now : Time)
  | attempt (step : WorkflowStepSpec) (index : Nat) (outcome : StepOutcome) (now : Time)
  | tell (event : WorkflowEvent) (h : event.kind ≠ .claim)

/-- The record after an event; a rewrite that fails leaves it as it was. -/
def stampStep (config : DeadlineConfig) (isoformat : Time → String) (record : ExecutionRecord) :
    WindowEvent → ExecutionRecord
  | .claim now predecessor recordedAt =>
    { row := config.prepareClaimedWorkflow record.row now predecessor
      events := match recordedAt with
        | some time => appendWorkflowEvent isoformat record.events { kind := .claim, recordedAt := time }
        | none => record.events }
  | .climb profile maxRungs failedIndex error details now =>
    match escalateNodeBranch profile maxRungs record.row failedIndex error details now with
    | .ok (some escalation) => { record with row := escalation.workflow }
    | _ => record
  | .append candidate predecessorStepIndex replaced now =>
    match appendParallelJobBranch record.row candidate predecessorStepIndex replaced now with
    | .ok row => { record with row }
    | .error _ => record
  | .attempt step index outcome now => { record with row := recordAttempt record.row step index outcome now }
  | .tell event _ => { record with events := appendWorkflowEvent isoformat record.events event }

def firstClaimed (config : DeadlineConfig) (isoformat : Time → String) (row : WorkflowRequest)
    (events : List WorkflowEvent) (start : Time) (predecessor : Option WorkflowRequest) (recordedAt : Time) :
    ExecutionRecord :=
  stampStep config isoformat ⟨row, events⟩ (.claim start predecessor (some recordedAt))

/-! ### When the window opens in time -/

/-- What the boot-time check asks of the durations, and a job that lives at least as long as a node's plan. -/
structure TimingValid (config : DeadlineConfig) : Prop where
  timeout_nonneg : 0 ≤ config.timeoutSeconds
  timeout_le : config.timeoutSeconds ≤ config.nodeLifetimeSeconds
  install_le : ∀ seconds, config.installFloorSeconds = some seconds → seconds ≤ config.nodeLifetimeSeconds
  node_le_job : config.nodeLifetimeSeconds ≤ config.jobLifetimeSeconds

/-- The plan is a job's, or a job lives no longer than what the plan was stamped with. -/
def CoversJob (config : DeadlineConfig) (row : WorkflowRequest) : Prop :=
  row.isJob = true ∨ config.jobLifetimeSeconds ≤ config.lifetimeAllowance row

/-- Whether a claim adds to its plan the restore that has to follow its reboot. -/
def addsRestore (row : WorkflowRequest) (predecessor : Option WorkflowRequest) : Bool :=
  match predecessor.bind (quiesceAdoption row) with
  | some (.restoreAfter ..) => true
  | _ => false

/-- A rewrite asks for no more time than the plan it rewrites was stamped with: where it makes a job of the plan, a
job lives no longer, and no step is brought in that waits for an operator longer than that. Claims come after
`start`. -/
def WithinStamp (config : DeadlineConfig) (start : Time) (record : ExecutionRecord) : WindowEvent → Prop
  | .claim _ predecessor recordedAt =>
    (addsRestore record.row predecessor = true → CoversJob config record.row) ∧
      ∀ time, recordedAt = some time → start ≤ time
  | .climb .. => CoversJob config record.row
  | .append candidate .. =>
    CoversJob config record.row ∧ (candidate.waitsForOperator = true →
      ∀ seconds, config.operatorAcknowledgementSeconds = some seconds → seconds ≤ config.lifetimeAllowance record.row)
  | .attempt .. | .tell .. => True

/-- What holds of a record first claimed at `start`: neither deadline, less what it is read with, is before
`start`. -/
structure WindowSound (config : DeadlineConfig) (start : Time) (record : ExecutionRecord) : Prop where
  lifetime : ∃ lifetime, record.row.lifetimeDeadlineAt = some lifetime ∧
    start + config.lifetimeAllowance record.row ≤ lifetime
  execution : record.row.dagEnabled = true ∨ ∃ deadline, record.row.executionDeadline = some deadline ∧
    start + config.executionBudgetSeconds record.row ≤ deadline
  claims : ∀ event ∈ record.events, event.kind = .claim → start ≤ event.recordedAt

section Window

variable {config : DeadlineConfig} {isoformat : Time → String} {record : ExecutionRecord} {row row' : WorkflowRequest}
  {events : List WorkflowEvent} {start now : Time} {predecessor : Option WorkflowRequest}

private theorem mem_appendWorkflowEvent {event item : WorkflowEvent}
    (h : item ∈ appendWorkflowEvent isoformat events event) :
    item ∈ events ∨ item = event ∨ item.kind = .historyTruncated := by
  unfold appendWorkflowEvent at h
  dsimp only at h
  have hkept : ∀ l : List WorkflowEvent, l ⊆ (events ++ [event]).filter (fun item => item.kind != .historyTruncated) →
      item ∈ l → item ∈ events ∨ item = event := by
    intro l hl hitem
    simpa using (List.mem_filter.mp (hl hitem)).1
  split at h
  · rcases List.mem_append.mp h with h | h
    · exact .inl h
    · exact .inr (.inl (List.mem_singleton.mp h))
  · simp only [List.mem_append, List.mem_singleton] at h
    rcases h with (h | rfl) | h
    · exact (hkept _ (List.take_subset _ _) h).elim .inl fun he => .inr (.inl he)
    · exact .inr (.inr rfl)
    · exact (hkept _ (List.drop_subset _ _) h).elim .inl fun he => .inr (.inl he)

private theorem claims_appendWorkflowEvent {event : WorkflowEvent}
    (h : ∀ item ∈ events, item.kind = .claim → start ≤ item.recordedAt)
    (hevent : event.kind = .claim → start ≤ event.recordedAt) :
    ∀ item ∈ appendWorkflowEvent isoformat events event, item.kind = .claim → start ≤ item.recordedAt := by
  intro item hitem hkind
  rcases mem_appendWorkflowEvent hitem with hold | rfl | hmarker
  · exact h item hold hkind
  · exact hevent hkind
  · rw [hmarker] at hkind
    cases hkind

/-! #### Claims -/

private theorem any_prepareClaimedWorkflow (p : WorkflowOperation → Bool) (hp : p .restoreGpuServices = false) :
    ((config.prepareClaimedWorkflow row now predecessor).officialSteps.any fun step => p step.operation) =
      row.officialSteps.any fun step => p step.operation := by
  unfold DeadlineConfig.prepareClaimedWorkflow preparedRow adoptQuiesceHandoff
  dsimp only
  split
  · rfl
  split
  · rfl
  · rfl
  · rename_i hadoption
    rw [any_restoreAfterReboot p]
    rw [quiesceAdoption_restoreAfter hadoption]
    exact hp

private theorem adoptQuiesceHandoff_dagEnabled (h : addsRestore row predecessor = false) :
    (adoptQuiesceHandoff row predecessor now).dagEnabled = row.dagEnabled := by
  unfold adoptQuiesceHandoff
  unfold addsRestore at h
  cases predecessor with
  | none => rfl
  | some previous =>
    rw [Option.bind_some] at h
    dsimp only
    split at h
    · cases h
    · rename_i hadoption
      split
      · rfl
      · rfl
      · rename_i hrestore
        exact absurd hrestore (hadoption _ _)

private theorem prepareClaimedWorkflow_dagEnabled (h : addsRestore row predecessor = false) :
    (config.prepareClaimedWorkflow row now predecessor).dagEnabled = row.dagEnabled := by
  unfold DeadlineConfig.prepareClaimedWorkflow preparedRow
  exact adoptQuiesceHandoff_dagEnabled h

private theorem prepareClaimedWorkflow_flat
    (h : (config.prepareClaimedWorkflow row now predecessor).dagEnabled = false) :
    row.dagEnabled = false := by
  unfold DeadlineConfig.prepareClaimedWorkflow preparedRow adoptQuiesceHandoff at h
  dsimp only at h
  split at h
  · exact h
  split at h
  · exact h
  · exact h
  · cases h

private theorem executionBudgetSeconds_congr (hwaits : row'.waitsForOperator = row.waitsForOperator)
    (hinstall : row'.holdsInstall = row.holdsInstall) :
    config.executionBudgetSeconds row' = config.executionBudgetSeconds row := by
  unfold DeadlineConfig.executionBudgetSeconds
  rw [acknowledgementWindow_congr hwaits, hinstall]

/-! #### What a plan is read with -/

private theorem nodeLifetime_le_allowance (hconfig : TimingValid config) :
    config.nodeLifetimeSeconds ≤ config.lifetimeAllowance row := by
  refine le_trans ?_ (le_max_left _ _)
  split
  · exact hconfig.node_le_job
  · exact le_refl _

private theorem allowance_nonneg (hconfig : TimingValid config) : 0 ≤ config.lifetimeAllowance row :=
  hconfig.timeout_nonneg.trans (hconfig.timeout_le.trans (nodeLifetime_le_allowance hconfig))

/-- A rewrite that may make a job of the plan, and may bring in a wait for an operator, where the stamp covers
both. -/
private theorem lifetimeAllowance_le (hconfig : TimingValid config)
    (hjob : row'.isJob = row.isJob ∨ CoversJob config row)
    (hwaits : row'.waitsForOperator = true → row.waitsForOperator = true ∨
      ∀ seconds, config.operatorAcknowledgementSeconds = some seconds → seconds ≤ config.lifetimeAllowance row) :
    config.lifetimeAllowance row' ≤ config.lifetimeAllowance row := by
  have hkind : (if row'.isJob then config.jobLifetimeSeconds else config.nodeLifetimeSeconds) ≤
      config.lifetimeAllowance row := by
    rcases hjob with hsame | hisJob | hcovers
    · rw [hsame]
      exact le_max_left _ _
    · split
      · unfold DeadlineConfig.lifetimeAllowance
        rw [if_pos hisJob]
        exact le_max_left _ _
      · exact nodeLifetime_le_allowance hconfig
    · split
      · exact hcovers
      · exact nodeLifetime_le_allowance hconfig
  have hacknowledgement : config.acknowledgementSeconds row' ≤ config.lifetimeAllowance row := by
    by_cases hwait : row'.waitsForOperator = true
    · rcases hwaits hwait with hold | hfits
      · have hsame : config.acknowledgementSeconds row' = config.acknowledgementSeconds row := by
          unfold DeadlineConfig.acknowledgementSeconds
          rw [acknowledgementWindow_congr (hwait.trans hold.symm)]
        rw [hsame]
        exact le_max_right _ _
      · unfold DeadlineConfig.acknowledgementSeconds DeadlineConfig.acknowledgementWindow
        rw [if_pos hwait]
        cases hseconds : config.operatorAcknowledgementSeconds with
        | none => exact allowance_nonneg hconfig
        | some seconds => exact hfits seconds hseconds
    · unfold DeadlineConfig.acknowledgementSeconds DeadlineConfig.acknowledgementWindow
      rw [if_neg hwait]
      exact allowance_nonneg hconfig
  exact max_le hkind hacknowledgement

private theorem floored_ge {value : Time} {window : Option Int} :
    value ≤ DeadlineConfig.floored now value window := by
  unfold DeadlineConfig.floored
  split
  · exact le_max_left _ _
  · exact le_refl _

private theorem floored_zero_le {value bound : Int} {window : Option Int} (hvalue : value ≤ bound)
    (hwindow : ∀ seconds, window = some seconds → seconds ≤ bound) :
    DeadlineConfig.floored 0 value window ≤ bound := by
  unfold DeadlineConfig.floored
  split
  · rename_i seconds
    rw [Int.zero_add]
    exact max_le hvalue (hwindow seconds rfl)
  · exact hvalue

private theorem floored_add (start : Time) (value : Int) (window : Option Int) :
    DeadlineConfig.floored start (start + value) window = start + DeadlineConfig.floored 0 value window := by
  cases window with
  | none => rfl
  | some seconds =>
    simp only [DeadlineConfig.floored, Int.zero_add]
    rcases le_total value seconds with hle | hle
    · rw [max_eq_right hle, max_eq_right (Int.add_le_add_left hle start)]
    · rw [max_eq_left hle, max_eq_left (Int.add_le_add_left hle start)]

private theorem executionBudget_le_allowance (hconfig : TimingValid config) :
    config.executionBudgetSeconds row ≤ config.lifetimeAllowance row := by
  have hnode := @nodeLifetime_le_allowance config row hconfig
  refine floored_zero_le (floored_zero_le (hconfig.timeout_le.trans hnode) fun seconds hwindow => ?_) ?_
  · unfold DeadlineConfig.lifetimeAllowance DeadlineConfig.acknowledgementSeconds
    rw [hwindow]
    exact le_max_right _ _
  · intro seconds hinstall
    split at hinstall
    · exact (hconfig.install_le seconds hinstall).trans hnode
    · cases hinstall

private theorem prepareClaimedWorkflow_reads (hconfig : TimingValid config)
    (hcovers : addsRestore row predecessor = true → CoversJob config row) :
    config.lifetimeAllowance (config.prepareClaimedWorkflow row now predecessor) ≤ config.lifetimeAllowance row ∧
      config.executionBudgetSeconds (config.prepareClaimedWorkflow row now predecessor) =
        config.executionBudgetSeconds row := by
  have hwaits := (@prepareClaimedWorkflow_eq config row now predecessor).2.2
  refine ⟨lifetimeAllowance_le hconfig ?_ fun hwait => .inl (hwaits ▸ hwait), executionBudgetSeconds_congr hwaits ?_⟩
  · cases hadds : addsRestore row predecessor with
    | true => exact .inr (hcovers hadds)
    | false =>
      left
      unfold WorkflowRequest.isJob
      rw [prepareClaimedWorkflow_dagEnabled hadds, any_prepareClaimedWorkflow (· == .restartWorkload) rfl]
  · exact any_prepareClaimedWorkflow WorkflowOperation.nodeInstall rfl

/-! #### Rewrites -/

/-- An appended branch makes a DAG of the plan, of its own steps and the candidate's, and leaves the lifetime. -/
private theorem appendParallelJobBranch_window {candidate : WorkflowRequest} {predecessorStepIndex : Option Nat}
    {replaced : List Nat}
    (h : appendParallelJobBranch row candidate predecessorStepIndex replaced now = .ok row') :
    row' = row ∨ row'.dagEnabled = true ∧ row'.lifetimeDeadlineAt = row.lifetimeDeadlineAt ∧
      (row'.waitsForOperator = true → row.waitsForOperator = true ∨ candidate.waitsForOperator = true) := by
  obtain ⟨candidate', branch, hinherit, hbranch, ⟨rfl, -⟩ | ⟨action, rfl⟩⟩ := appendParallelJobBranch_cases h
  · exact .inl rfl
  refine .inr ⟨rfl, rfl, fun hwaits => ?_⟩
  unfold WorkflowRequest.waitsForOperator at hwaits ⊢
  simp only [List.any_eq_true] at hwaits ⊢
  obtain ⟨step, hstep, hkind⟩ := hwaits
  obtain ⟨origin, horigin, hsame⟩ := derives_branchRewrite step hstep
  rw [hsame.operation] at hkind
  rcases List.mem_append.mp horigin with hold | hnew
  · exact .inl ⟨origin, hold, hkind⟩
  · obtain ⟨i, hlive, -⟩ := (mem_candidateBranch hbranch).mp hnew
    rcases inherit_operation hinherit hlive.1 with hquarantine | ⟨planned, hplanned, hop⟩
    · rw [hquarantine] at hkind
      cases hkind
    · exact .inr ⟨planned, hplanned, hop ▸ hkind⟩

private theorem replaceParallelJobBranch_window {candidate : WorkflowRequest} {nodeId : String}
    {branchId : Option String} (hdag : row.dagEnabled = true)
    (h : replaceParallelJobBranch row candidate nodeId branchId now = .ok row') :
    row'.dagEnabled = true ∧ row'.lifetimeDeadlineAt = row.lifetimeDeadlineAt := by
  unfold replaceParallelJobBranch at h
  split at h
  · cases h
    exact ⟨hdag, rfl⟩
  · rcases appendParallelJobBranch_window h with rfl | ⟨hdag', hlifetime, -⟩
    · exact ⟨hdag, rfl⟩
    · exact ⟨hdag', hlifetime⟩

/-- A failed branch that climbs, or is exhausted, is one of a DAG, and brings in no wait for an operator. -/
private theorem escalateNodeBranch_window {profile : Option RuntimeProfile} {maxRungs failedIndex : Nat}
    {error : Option String} {details : Details} {escalation : BranchEscalation}
    (h : escalateNodeBranch profile maxRungs row failedIndex error details now = .ok (some escalation)) :
    escalation.workflow.dagEnabled = true ∧ escalation.workflow.lifetimeDeadlineAt = row.lifetimeDeadlineAt ∧
      (escalation.workflow.waitsForOperator = true → row.waitsForOperator = true) := by
  have hwaits : escalation.workflow.waitsForOperator = true → row.waitsForOperator = true := by
    intro hwaits
    unfold WorkflowRequest.waitsForOperator at hwaits ⊢
    simp only [List.any_eq_true] at hwaits ⊢
    obtain ⟨step, hstep, hkind⟩ := hwaits
    rcases (escalateNodeBranch_plan h).2 step hstep with ⟨origin, horigin, hsame⟩ | ⟨-, hclimbed⟩
    · exact ⟨origin, horigin, hsame.operation ▸ hkind⟩
    · have hoperation : step.operation = .checkMechanicals := beq_iff_eq.mp hkind
      rw [hoperation] at hclimbed
      rcases hclimbed with hquarantine | htail | ⟨hrung, -⟩ | ⟨hrung, -⟩
      · cases hquarantine
      · exact absurd htail (by decide)
      · cases hrung
      · cases hrung
  obtain ⟨failed, hescalates⟩ := escalateNodeBranch_move h
  have hmove := hescalates.move
  have hplan : (escalatedPlan row now).dagEnabled = true ∧
      (escalatedPlan row now).lifetimeDeadlineAt = row.lifetimeDeadlineAt := by
    unfold escalatedPlan adoptLinearPlan
    split
    · rename_i hdag
      exact ⟨hdag, rfl⟩
    · exact ⟨rfl, rfl⟩
  suffices hrow : escalation.workflow.dagEnabled = true ∧
      escalation.workflow.lifetimeDeadlineAt = row.lifetimeDeadlineAt from ⟨hrow.1, hrow.2, hwaits⟩
  generalize escalation.workflow = written at hmove ⊢
  generalize escalation.outcome = outcome at hmove
  cases hmove with
  | exhausted =>
    unfold exhaustBranch
    dsimp only
    split <;> exact hplan
  | escalated _ _ _ hreplaced =>
    obtain ⟨hdag, hlifetime⟩ := replaceParallelJobBranch_window hplan.1 hreplaced
    exact ⟨hdag, hlifetime.trans hplan.2⟩

/-! #### One event -/

private theorem WindowSound.rewrite (h : WindowSound config start record) (hconfig : TimingValid config)
    (hdag : row'.dagEnabled = true) (hlifetime : row'.lifetimeDeadlineAt = record.row.lifetimeDeadlineAt)
    (hjob : CoversJob config record.row)
    (hwaits : row'.waitsForOperator = true → record.row.waitsForOperator = true ∨
      ∀ seconds, config.operatorAcknowledgementSeconds = some seconds →
        seconds ≤ config.lifetimeAllowance record.row) :
    WindowSound config start { record with row := row' } := by
  obtain ⟨lifetime, hstamped, hle⟩ := h.lifetime
  have hallowance := @lifetimeAllowance_le config record.row row' hconfig (.inr hjob) hwaits
  refine ⟨⟨lifetime, hlifetime.trans hstamped, ?_⟩, .inl hdag, h.claims⟩
  exact (Int.add_le_add_left hallowance start).trans hle

/-- A later claim keeps the execution deadline of a flat plan, and lifts a lifetime at most. -/
private theorem WindowSound.claim (h : WindowSound config start record) (hconfig : TimingValid config)
    (hcovers : addsRestore record.row predecessor = true → CoversJob config record.row) {events : List WorkflowEvent}
    (hclaims : ∀ event ∈ events, event.kind = .claim → start ≤ event.recordedAt) :
    WindowSound config start ⟨config.prepareClaimedWorkflow record.row now predecessor, events⟩ := by
  obtain ⟨hexecution, hlifetime, -⟩ := @prepareClaimedWorkflow_eq config record.row now predecessor
  obtain ⟨hallowance, hbudget⟩ := @prepareClaimedWorkflow_reads config record.row now predecessor hconfig hcovers
  obtain ⟨lifetime, hstamped, hle⟩ := h.lifetime
  have hlifted : lifetime ≤ (config.claimDeadlines record.row now).2 := by
    rw [claimDeadlines_lifetime hstamped]
    exact floored_ge
  refine ⟨⟨_, hlifetime, ((Int.add_le_add_left hallowance start).trans hle).trans hlifted⟩, ?_, hclaims⟩
  cases hdag : (config.prepareClaimedWorkflow record.row now predecessor).dagEnabled with
  | true => exact .inl rfl
  | false =>
    have hflat := prepareClaimedWorkflow_flat hdag
    obtain ⟨deadline, hdeadline, hbound⟩ := h.execution.resolve_left (by rw [hflat]; decide)
    refine .inr ⟨_, hexecution, ?_⟩
    have hkept :
        (config.claimDeadlines record.row now).1 = min deadline (config.claimDeadlines record.row now).2 := by
      have hfresh : record.row.freshExecution = false := by
        simp [WorkflowRequest.freshExecution, hdeadline, hflat]
      simp [DeadlineConfig.claimDeadlines, hfresh, DeadlineConfig.executionBudget, hdeadline, hflat,
        DeadlineConfig.installWindow, DeadlineConfig.floored]
    show start + config.executionBudgetSeconds (config.prepareClaimedWorkflow record.row now predecessor) ≤
      (config.claimDeadlines record.row now).1
    rw [hbudget, hkept]
    have hbudgetLe := @executionBudget_le_allowance config record.row hconfig
    exact le_min hbound (((Int.add_le_add_left hbudgetLe start).trans hle).trans hlifted)

/-- The first claim of a row without deadlines stamps what its plan is read with. -/
private theorem windowSound_firstClaimed (hconfig : TimingValid config) (hlifetime : row.lifetimeDeadlineAt = none)
    (hexecution : row.executionDeadline = none) (hevents : ∀ event ∈ events, event.kind ≠ .claim) {recordedAt : Time}
    (hrecorded : start ≤ recordedAt) (hcovers : addsRestore row predecessor = true → CoversJob config row) :
    WindowSound config start (firstClaimed config isoformat row events start predecessor recordedAt) := by
  obtain ⟨hdeadline, hstamped, -⟩ := @prepareClaimedWorkflow_eq config row start predecessor
  obtain ⟨hallowance, hbudget⟩ := @prepareClaimedWorkflow_reads config row start predecessor hconfig hcovers
  have hkind : 0 ≤ if row.isJob then config.jobLifetimeSeconds else config.nodeLifetimeSeconds := by
    have hnode := hconfig.timeout_nonneg.trans hconfig.timeout_le
    split
    · exact hnode.trans hconfig.node_le_job
    · exact hnode
  have hlife : (config.claimDeadlines row start).2 = start + config.lifetimeAllowance row := by
    unfold DeadlineConfig.lifetimeAllowance DeadlineConfig.acknowledgementSeconds
    simp only [DeadlineConfig.claimDeadlines, DeadlineConfig.stampedLifetime, hlifetime]
    rw [floored_add]
    congr 1
    cases config.acknowledgementWindow row with
    | none => exact (max_eq_left hkind).symm
    | some seconds => simp [DeadlineConfig.floored]
  have hbound : start + config.executionBudgetSeconds row ≤ (config.claimDeadlines row start).1 := by
    refine le_min ?_ ?_
    · have hfresh : row.freshExecution = true := by simp [WorkflowRequest.freshExecution, hexecution]
      simp only [hfresh, if_true, DeadlineConfig.executionBudget, hexecution, DeadlineConfig.installWindow,
        Bool.true_and]
      rw [floored_add, floored_add]
      exact le_refl _
    · show start + config.executionBudgetSeconds row ≤ (config.claimDeadlines row start).2
      rw [hlife]
      exact Int.add_le_add_left (executionBudget_le_allowance hconfig) start
  refine ⟨⟨_, hstamped, ?_⟩, .inr ⟨_, hdeadline, ?_⟩, ?_⟩
  · rw [hlife]
    exact Int.add_le_add_left hallowance start
  · exact (congrArg (start + ·) hbudget).le.trans hbound
  · exact claims_appendWorkflowEvent (fun item hitem hclaim => absurd hclaim (hevents item hitem)) fun _ => hrecorded

/-- One event that asks for no more than the stamp. -/
private theorem WindowSound.step (h : WindowSound config start record) (hconfig : TimingValid config)
    {event : WindowEvent} (hevent : WithinStamp config start record event) :
    WindowSound config start (stampStep config isoformat record event) := by
  cases event with
  | claim now predecessor recordedAt =>
    obtain ⟨hcovers, htime⟩ := hevent
    refine h.claim hconfig hcovers ?_
    cases recordedAt with
    | none => exact h.claims
    | some time => exact claims_appendWorkflowEvent h.claims fun _ => htime time rfl
  | climb profile maxRungs failedIndex error details now =>
    unfold stampStep
    dsimp only
    split
    · rename_i escalation hescalated
      obtain ⟨hdag, hlifetime, hwaits⟩ := escalateNodeBranch_window hescalated
      exact h.rewrite hconfig hdag hlifetime hevent fun hwait => .inl (hwaits hwait)
    · exact h
  | append candidate predecessorStepIndex replaced now =>
    obtain ⟨hcovers, hcandidate⟩ := hevent
    unfold stampStep
    dsimp only
    split
    · rename_i row' happended
      rcases appendParallelJobBranch_window happended with rfl | ⟨hdag, hlifetime, hwaits⟩
      · exact h
      · exact h.rewrite hconfig hdag hlifetime hcovers fun hwait => (hwaits hwait).imp id hcandidate
    · exact h
  | attempt step index outcome now => exact ⟨h.lifetime, h.execution, h.claims⟩
  | tell event hkind =>
    exact ⟨h.lifetime, h.execution, claims_appendWorkflowEvent h.claims fun hclaim => absurd hclaim hkind⟩

private theorem WindowSound.anchors (h : WindowSound config start record) :
    ∀ anchor ∈ config.windowAnchors record, start ≤ anchor := by
  intro anchor hanchor
  simp only [DeadlineConfig.windowAnchors, List.mem_append, Option.mem_toList, Option.map_eq_some_iff] at hanchor
  rcases hanchor with (⟨event, hfound, rfl⟩ | ⟨lifetime, hlifetime, rfl⟩) | hexecution
  · exact h.claims event (List.mem_of_find?_eq_some hfound) (by simpa using List.find?_some hfound)
  · obtain ⟨stamped, hstamped, hle⟩ := h.lifetime
    rw [Option.some.inj (hlifetime.symm.trans hstamped)]
    exact Int.le_sub_right_of_add_le hle
  · split at hexecution
    · exact absurd hexecution List.not_mem_nil
    · rename_i hflat
      obtain ⟨deadline, hdeadline, hle⟩ := h.execution.resolve_left hflat
      simp only [hdeadline, Option.map_some, Option.mem_toList, Option.some.injEq] at hexecution
      rw [← hexecution]
      exact Int.le_sub_right_of_add_le hle

private theorem WindowSound.start_le (h : WindowSound config start record) :
    ∃ opened, config.executionWindowStart record = some opened ∧ start ≤ opened := by
  obtain ⟨lifetime, hlifetime, -⟩ := h.lifetime
  cases hopened : config.executionWindowStart record with
  | none =>
    have hempty : config.windowAnchors record = [] := List.min?_eq_none_iff.mp hopened
    have hanchor : lifetime - config.lifetimeAllowance record.row ∈ config.windowAnchors record := by
      simp [DeadlineConfig.windowAnchors, hlifetime]
    rw [hempty] at hanchor
    exact absurd hanchor List.not_mem_nil
  | some opened => exact ⟨opened, rfl, h.anchors opened (List.min?_mem hopened)⟩

end Window

/-- **The waiting clock does not start before the record ran**, as long as no rewrite asks for more time than the plan
was stamped with. A row is first claimed at `start`, without deadlines of another record; then claims, climbing
branches, appended branches and attempts follow in any order. -/
theorem window_opens_after_first_claim (config : DeadlineConfig) (isoformat : Time → String) (row : WorkflowRequest)
    (events : List WorkflowEvent) (start recordedAt : Time) (predecessor : Option WorkflowRequest)
    (later : List WindowEvent) (hconfig : TimingValid config) (hlifetime : row.lifetimeDeadlineAt = none)
    (hexecution : row.executionDeadline = none) (hevents : ∀ event ∈ events, event.kind ≠ .claim)
    (hfirst : WithinStamp config start ⟨row, events⟩ (.claim start predecessor (some recordedAt)))
    (hlater : Run.Along (stampStep config isoformat) (WithinStamp config start)
      (firstClaimed config isoformat row events start predecessor recordedAt) later) :
    ∃ opened, config.executionWindowStart (Run.exec (stampStep config isoformat)
        (firstClaimed config isoformat row events start predecessor recordedAt) later) = some opened ∧
          start ≤ opened ∧
      ∀ previous now, start ≤ now → start ≤ config.stepElapsedSince (Run.exec (stampStep config isoformat)
        (firstClaimed config isoformat row events start predecessor recordedAt) later) previous now := by
  have hclaimed : WindowSound config start (firstClaimed config isoformat row events start predecessor recordedAt) :=
    windowSound_firstClaimed hconfig hlifetime hexecution hevents (hfirst.2 recordedAt rfl) hfirst.1
  have hsound := Run.invariant_exec (I := WindowSound config start) (P := WithinStamp config start)
    (fun record event h hevent => h.step hconfig hevent) hclaimed hlater
  obtain ⟨opened, hopened, hle⟩ := hsound.start_le
  refine ⟨opened, hopened, hle, fun previous now hnow => ?_⟩
  unfold DeadlineConfig.stepElapsedSince
  rw [hopened]
  exact (le_min hle hnow).trans (le_max_right _ _)

section FlatReset

private def oneReset : WorkflowRequest :=
  { requestId := "w", status := .pending,
    officialSteps := [{ operation := .markUnschedulable, nodeIds := ["n1"] },
      { operation := .resetGpu, nodeIds := ["n1"], gpuUuids := ["g1"] }] }

private def oneResetProfile : RuntimeProfile :=
  [{ capability := .nodeReboot, mode := .own, owner := some "provider" },
    { capability := .deepDiagnostics, mode := .own, owner := some "validation" },
    { capability := .schedulerDrain, mode := .own, owner := some "kubernetes" }]

private def resetClimbs : WindowEvent := .climb (some oneResetProfile) 2 1 (some "busy") [] 120

private def claimedReset (config : DeadlineConfig) : ExecutionRecord :=
  firstClaimed config (fun _ => "") oneReset [] 0 none 0

private theorem timingValid_of_job {seconds : Int} (h : 3600 ≤ seconds) :
    TimingValid { jobLifetimeSeconds := seconds } where
  timeout_nonneg := by
    show (0 : Int) ≤ 1800
    decide
  timeout_le := by
    show (1800 : Int) ≤ 3600
    decide
  install_le := by
    intro floor hfloor
    cases hfloor
    show (2500 : Int) ≤ 3600
    decide
  node_le_job := h

/-- With one lifetime for jobs and nodes, the reboot of a failed reset leaves the window where it was. -/
theorem window_opens_after_first_claim_reset :
    ∃ opened, DeadlineConfig.executionWindowStart {} (Run.exec (stampStep {} fun _ => "") (claimedReset {})
      [.claim 60 none none, resetClimbs]) = some opened ∧ 0 ≤ opened := by
  have hcovers : CoversJob {} (stampStep {} (fun _ => "") (claimedReset {}) (.claim 60 none none)).row :=
    .inr (by decide +kernel)
  obtain ⟨opened, hopened, hle, -⟩ := window_opens_after_first_claim {} (fun _ => "") oneReset [] 0 0 none
    [.claim 60 none none, resetClimbs] (timingValid_of_job (le_refl _)) rfl rfl (by simp)
    ⟨fun h => absurd h (by decide), fun time htime => by cases htime; exact le_refl _⟩
    ⟨⟨fun h => absurd h (by decide), fun time htime => by cases htime⟩, hcovers, trivial⟩
  exact ⟨opened, hopened, hle⟩

/-- A job may live two hours and a node's plan one: once the failed reset climbs, its window opens an hour before the
first claim. -/
theorem window_opens_before_first_claim :
    TimingValid { jobLifetimeSeconds := 7200 } ∧ oneReset.lifetimeDeadlineAt = none ∧
      oneReset.executionDeadline = none ∧
      DeadlineConfig.executionWindowStart { jobLifetimeSeconds := 7200 }
        (claimedReset { jobLifetimeSeconds := 7200 }) = some 0 ∧
      DeadlineConfig.executionWindowStart { jobLifetimeSeconds := 7200 }
        (Run.exec (stampStep { jobLifetimeSeconds := 7200 } fun _ => "")
          (claimedReset { jobLifetimeSeconds := 7200 }) [resetClimbs]) = some (-3600) := by
  refine ⟨timingValid_of_job (by decide), rfl, rfl, ?_, ?_⟩
  · decide +kernel
  · decide +kernel

end FlatReset

end GpuFaultRecovery
