import GpuFaultRecovery.ClaimedWorkflow
import GpuFaultRecovery.MergeDisposition

/-!
# Giving up on a busy node

A job workflow that has not started waits while another workflow repairs one of its nodes; past the window the
dispatcher rewrites its plan to the stop alone. The dispatcher judges the copy of the row that its scan returned, and
the rewrite is unconditional, so what it finds in the store depends on who claimed the row in between.
-/

namespace GpuFaultRecovery

/-! ### The judgement -/

/-- Whether the row is past the point where a busy node may hold it: a step ran or is leased, or the plan was already
rewritten. -/
def hasStarted (workflow : WorkflowRequest) : Bool :=
  !workflow.completedStepIndexes.isEmpty || !workflow.stepExecutions.isEmpty || workflow.executionOwnerId.isSome ||
    workflow.terminalFailureReason.any (· != "")

/-- A row as a scan returned it, with what its audit trail says: whether it is a placement hold, and when the first
hold on a busy node was recorded. -/
structure ScannedRow where
  workflow : WorkflowRequest
  placementHold : Bool := false
  firstHold : Option Time := none
deriving Repr, DecidableEq

/-- An open workflow of the cluster: the nodes of its incident and its row. -/
structure ActiveWorkflow where
  nodeIds : List String
  workflow : WorkflowRequest
deriving Repr, DecidableEq

/-- `busy.setdefault(node, requestId)`. -/
def setDefaultBusy (busy : List (String × String)) (node requestId : String) : List (String × String) :=
  if (busy.map Prod.fst).contains node then busy else busy ++ [(node, requestId)]

/-- Nodes of a job workflow that has not started which another open workflow is repairing, with that workflow's id. -/
def nodesUnderOtherRemediation (scanned : ScannedRow) (active : List ActiveWorkflow) : List (String × String) :=
  let workflow := scanned.workflow
  if hasStarted workflow ||
      !(scanned.placementHold || workflow.officialSteps.any fun step => step.operation == .restartWorkload) then []
  else
    let nodes := workflow.officialSteps.flatMap WorkflowStepSpec.nodeIds
    let others := active.filter fun other => !(other.workflow.requestId == workflow.requestId ||
      other.workflow.incidentId == workflow.incidentId || neverExecutedOperatorBlock other.workflow)
    others.foldl (fun busy other => (sortedSet (nodes.filter other.nodeIds.contains)).foldl
      (fun busy node => setDefaultBusy busy node other.workflow.requestId) busy) []

/-- When the window of a busy node opened for this row: at the first hold that was recorded. -/
def nodeBusyWaitStart (scanned : ScannedRow) (now : Time) : Time := scanned.firstHold.getD now

/-- `HOLD_REASON_NODE_REMEDIATION_TIMEOUT`. -/
def holdReasonNodeRemediationTimeout : String := "NODE_REMEDIATION_TIMEOUT"

/-- The failure a row that waited in vain ends with. -/
def nodeBusyReason (busy : List (String × String)) (waitSeconds : Nat) : String :=
  s!"{holdReasonNodeRemediationTimeout}: nodes still under remediation after {waitSeconds}s: " ++
    ", ".intercalate ((busy.insertionSort fun a b => a.1 ≤ b.1).map fun entry => entry.1 ++ " (" ++ entry.2 ++ ")")

/-- The steps of the scanned copy that stop a job, as a plan of their own. -/
def busyStopSteps (workflow : WorkflowRequest) : List WorkflowStepSpec :=
  (workflow.officialSteps.filter fun step => step.operation == .stopWorkloads).map fun step => { step with
    parameters := Details.merge [("termination_initiator_incident_id", .str workflow.incidentId)] step.parameters
    dependsOnStepIndexes := []
    branchId := none }

/-- The updates of `_fail_node_busy` on the stored row, all of them computed on the scanned one. -/
def failNodeBusy (scanned : WorkflowRequest) (busy : List (String × String)) (waitSeconds : Nat)
    (current : WorkflowRequest) : WorkflowRequest :=
  if (busyStopSteps scanned).isEmpty then
    { current with
      terminalFailureReason := some (nodeBusyReason busy waitSeconds)
      supersededStepIndexes := List.range scanned.officialSteps.length }
  else
    { current with
      terminalFailureReason := some (nodeBusyReason busy waitSeconds)
      officialSteps := busyStopSteps scanned
      dagEnabled := false
      supersededStepIndexes := []
      notBefore := none }

/-- `amend_workflow`: update the stored row, whoever holds it. -/
def amendWorkflow (rows : WorkflowTable) (requestId : String) (update : WorkflowRequest → WorkflowRequest)
    (now : Time) :
    WorkflowTable :=
  match rows.get? requestId with
  | none => rows
  | some current => rows.put { update current with mergeRevision := current.mergeRevision + 1, updatedAt := now }

/-! ### Dispatchers and executors -/

/-- The rows and the passes of the executors, and the copies dispatchers are judging. -/
structure BusyStore where
  store : ClaimStore
  scans : String → String → Option ScannedRow := fun _ _ => none

inductive BusyEvent where
  | executor (event : ClaimEvent)
  | scan (dispatcherId requestId : String) (placementHold : Bool) (firstHold : Option Time)
  | judge (dispatcherId requestId : String) (active : List ActiveWorkflow) (holdRecorded : Bool) (waitSeconds : Nat)
    (now : Time)

namespace BusyStore

def setScan (s : BusyStore) (dispatcherId requestId : String) (scanned : Option ScannedRow) : BusyStore :=
  { s with scans := fun d r => if d = dispatcherId ∧ r = requestId then scanned else s.scans d r }

def amend (s : BusyStore) (requestId : String) (update : WorkflowRequest → WorkflowRequest) (now : Time) :
    BusyStore :=
  { s with store := { s.store with rows := amendWorkflow s.store.rows requestId update now } }

end BusyStore

/-- Whether a scanned row has waited for its nodes long enough. -/
def nodeBusyTimedOut (scanned : ScannedRow) (active : List ActiveWorkflow) (waitSeconds : Nat) (now : Time) : Bool :=
  !(nodesUnderOtherRemediation scanned active).isEmpty &&
    !decide (now < nodeBusyWaitStart scanned now + waitSeconds * 1000000)

/-- What the dispatcher writes on a scanned row: nothing, a hold in the audit trail, or the failure. -/
def judgeBusy (s : BusyStore) (requestId : String) (scanned : ScannedRow) (active : List ActiveWorkflow)
    (holdRecorded : Bool) (waitSeconds : Nat) (now : Time) : BusyStore :=
  let busy := nodesUnderOtherRemediation scanned active
  if busy.isEmpty then s
  else if nodeBusyTimedOut scanned active waitSeconds now then
    s.amend requestId (failNodeBusy scanned.workflow busy waitSeconds) now
  -- a hold that repeats the last one is not written
  else if holdRecorded then s
  else s.amend requestId id now

def busyStep (s : BusyStore) : BusyEvent → BusyStore
  | .executor event => { s with store := claimStep s.store event }
  | .scan dispatcherId requestId placementHold firstHold =>
    match s.store.rows.get? requestId with
    | none => s
    | some workflow =>
      if workflow.status.executable then
        s.setScan dispatcherId requestId (some { workflow, placementHold, firstHold })
      else s
  | .judge dispatcherId requestId active holdRecorded waitSeconds now =>
    match s.scans dispatcherId requestId with
    | none => s
    | some scanned =>
      (judgeBusy s requestId scanned active holdRecorded waitSeconds now).setScan dispatcherId requestId none

/-- Nobody owns the row and nothing of it ran. -/
structure Unstarted (workflow : WorkflowRequest) : Prop where
  owner : workflow.executionOwnerId = none
  completed : workflow.completedStepIndexes = []
  executions : workflow.stepExecutions = []

/-- If the event writes a node-busy failure, the stored row has not started, and the rewrite leaves the steps that
were dispatched or completed where they are. -/
def TimesOutUnstarted (s : BusyStore) : BusyEvent → Prop
  | .judge dispatcherId requestId active _ waitSeconds now => ∀ scanned current,
    s.scans dispatcherId requestId = some scanned → nodeBusyTimedOut scanned active waitSeconds now = true →
      s.store.rows.get? requestId = some current →
        Unstarted current ∧
          ∀ index, (index ∈ current.completedStepIndexes ∨
            ∃ execution ∈ current.stepExecutions, execution.stepIndex = index) →
            (failNodeBusy scanned.workflow (nodesUnderOtherRemediation scanned active) waitSeconds
              current).officialSteps[index]? =
              current.officialSteps[index]?
  | _ => True

/-- No claim of a row goes through while a dispatcher judges a copy of it that had not started. -/
def UnclaimedWhileJudged (s : BusyStore) : BusyEvent → Prop
  | .executor (.claim executorId requestId now leaseDuration ask) => ∀ workflow,
    s.store.passes executorId requestId = some (.read workflow) →
      (claimForExecution s.store.rows requestId executorId workflow.fencingToken now leaseDuration
        ask).2.toOption.isSome =
        true →
      ∀ dispatcherId scanned, s.scans dispatcherId requestId = some scanned → hasStarted scanned.workflow = true
  | _ => True

/-! ### A row without an owner stays as it is until it is claimed -/

section Unowned

variable {s : ClaimStore} {executorId requestId other : String} {current workflow : WorkflowRequest} {now : Time}
  {epoch : Nat}
  {next : Option ClaimPhase} {event : ClaimEvent}

private theorem hasStarted_eq_false (h : hasStarted workflow = false) : Unstarted workflow := by
  simp only [hasStarted, Bool.or_eq_false_iff, Bool.not_eq_false', List.isEmpty_iff] at h
  exact ⟨by simpa using h.1.2, h.1.1.1, h.1.1.2⟩

private theorem Unstarted.put {written : WorkflowRequest} (h : Unstarted current)
    (hstored : s.rows.get? other = some current) (hwritten : other = written.requestId → Unstarted written) :
    ∃ row, (s.rows.put written).get? other = some row ∧ Unstarted row := by
  by_cases hother : other = written.requestId
  · exact ⟨written, by rw [Table.get?_put, if_pos hother], hwritten hother⟩
  · exact ⟨current, by rw [Table.get?_put_ne hother]; exact hstored, h⟩

/-- Unless a claim of the row goes through, no event of an executor starts it. -/
private theorem LeaseSound.unstarted_stays (hsound : LeaseSound s) (h : Unstarted current)
    (hstored : s.rows.get? other = some current)
    (hclaim : ∀ executorId now leaseDuration ask read, event = .claim executorId other now leaseDuration ask →
      s.passes executorId other = some (.read read) →
        (claimForExecution s.rows other executorId read.fencingToken now leaseDuration ask).2.toOption.isSome =
          false) :
    ∃ row, (claimStep s event).rows.get? other = some row ∧ Unstarted row := by
  have hsame : ∃ row, s.rows.get? other = some row ∧ Unstarted row := ⟨current, hstored, h⟩
  have hmove := claimStep_move hsound event
  generalize claimStep s event = after at hmove
  cases hmove with
  | idle => exact hsame
  | passes => exact hsame
  | created workflow habsent =>
    refine h.put hstored fun he => ?_
    rw [he, habsent] at hstored
    cases hstored
  | writes executorId requestId stored written next hget hwritten hnext hreason =>
    refine h.put hstored fun he => ?_
    have hkey : other = requestId := he.trans (hwritten.requestId.trans (Table.key_of_get? hget))
    subst hkey
    cases hget.symm.trans hstored
    cases hreason with
    | granted scanned now leaseDuration ask hpass hgranted =>
      rw [hclaim executorId now leaseDuration ask scanned rfl hpass] at hgranted
      cases hgranted
    | refused _ reason scope now hrefused =>
      rw [hrefused]
      exact ⟨rfl, h.completed, h.executions⟩
    | leased _ howner =>
      rw [h.owner] at howner
      cases howner
    | released _ _ howner hcompleted hexecutions =>
      exact ⟨howner h.owner, hcompleted.trans h.completed, hexecutions.trans h.executions⟩

end Unowned

/-! ### Runs -/

section BusyRun

variable {s : BusyStore} {event : BusyEvent} {requestId : String} {now : Time}

/-- Every pass knows its row, and a row that is judged as not started has not started. -/
structure JudgedUnstarted (s : BusyStore) : Prop where
  sound : LeaseSound s.store
  unstarted : ∀ dispatcherId requestId scanned, s.scans dispatcherId requestId = some scanned →
    hasStarted scanned.workflow = false → ∃ current, s.store.rows.get? requestId = some current ∧ Unstarted current

/-- An amendment of a row that says nothing of its lease and of its status. -/
structure KeepsLease (update : WorkflowRequest → WorkflowRequest) : Prop where
  requestId : ∀ workflow, (update workflow).requestId = workflow.requestId
  owner : ∀ workflow, (update workflow).executionOwnerId = workflow.executionOwnerId
  epoch : ∀ workflow, (update workflow).executionEpoch = workflow.executionEpoch
  status : ∀ workflow, (update workflow).status = workflow.status
  completed : ∀ workflow, (update workflow).completedStepIndexes = workflow.completedStepIndexes
  executions : ∀ workflow, (update workflow).stepExecutions = workflow.stepExecutions

private theorem keepsLease_failNodeBusy (scanned : WorkflowRequest) (busy : List (String × String))
    (waitSeconds : Nat) :
    KeepsLease (failNodeBusy scanned busy waitSeconds) := by
  unfold failNodeBusy
  split <;> exact ⟨fun _ => rfl, fun _ => rfl, fun _ => rfl, fun _ => rfl, fun _ => rfl, fun _ => rfl⟩

private theorem keepsLease_id : KeepsLease id :=
  ⟨fun _ => rfl, fun _ => rfl, fun _ => rfl, fun _ => rfl, fun _ => rfl, fun _ => rfl⟩

/-- What is stored after an amendment. -/
private theorem get?_amendWorkflow {rows : WorkflowTable} {update : WorkflowRequest → WorkflowRequest}
    (h : KeepsLease update) (other : String) {row : WorkflowRequest} (hstored : rows.get? other = some row) :
    ∃ row', (amendWorkflow rows requestId update now).get? other = some row' ∧
      row'.executionOwnerId = row.executionOwnerId ∧ row'.executionEpoch = row.executionEpoch ∧
        row'.status = row.status ∧
      row'.completedStepIndexes = row.completedStepIndexes ∧ row'.stepExecutions = row.stepExecutions := by
  unfold amendWorkflow
  split
  · exact ⟨row, hstored, rfl, rfl, rfl, rfl, rfl⟩
  · rename_i current hget
    have hkey : (update current).requestId = requestId := (h.requestId current).trans (Table.key_of_get? hget)
    by_cases hother : other = requestId
    · subst hother
      cases hget.symm.trans hstored
      refine ⟨_, (Table.get?_put _ _ _).trans (if_pos hkey.symm), ?_⟩
      exact ⟨h.owner row, h.epoch row, h.status row, h.completed row, h.executions row⟩
    · have hne : other ≠ (update current).requestId := fun he => hother (he.trans hkey)
      refine ⟨row, Eq.trans (Table.get?_put_ne ?_) hstored, rfl, rfl, rfl, rfl, rfl⟩
      exact hne

private theorem JudgedUnstarted.amend {update : WorkflowRequest → WorkflowRequest} (h : JudgedUnstarted s)
    (hupdate : KeepsLease update) : JudgedUnstarted (s.amend requestId update now) where
  sound e r phase workflow hpass htaken := by
    obtain ⟨hnamed, howner, stored, hget, hepoch, hlive⟩ := h.sound e r phase workflow hpass htaken
    obtain ⟨row, hrow, hrowner, hrepoch, hrstatus, -, -⟩ := get?_amendWorkflow hupdate r hget
    refine ⟨hnamed, howner, row, hrow, by rw [hrepoch]; exact hepoch, ?_⟩
    rw [hrowner, hrepoch, hrstatus]
    exact hlive
  unstarted d r scanned hscan hjudged := by
    obtain ⟨current, hget, hunstarted⟩ := h.unstarted d r scanned hscan hjudged
    obtain ⟨row, hrow, hrowner, -, -, hcompleted, hexecutions⟩ := get?_amendWorkflow hupdate r hget
    exact ⟨row, hrow, hrowner.trans hunstarted.owner, hcompleted.trans hunstarted.completed,
      hexecutions.trans hunstarted.executions⟩

private theorem JudgedUnstarted.setScan (h : JudgedUnstarted s) (dispatcherId : String) {scanned : Option ScannedRow}
    (hscan : ∀ row, scanned = some row → hasStarted row.workflow = false →
      ∃ current, s.store.rows.get? requestId = some current ∧ Unstarted current) :
    JudgedUnstarted (s.setScan dispatcherId requestId scanned) where
  sound := h.sound
  unstarted d r row hrow hjudged := by
    simp only [BusyStore.setScan] at hrow
    by_cases hsame : d = dispatcherId ∧ r = requestId
    · rw [if_pos hsame] at hrow
      rw [hsame.2]
      exact hscan row hrow hjudged
    · rw [if_neg hsame] at hrow
      exact h.unstarted d r row hrow hjudged

private theorem JudgedUnstarted.judgeBusy (h : JudgedUnstarted s) (scanned : ScannedRow)
    (active : List ActiveWorkflow) (holdRecorded : Bool) (waitSeconds : Nat) :
    JudgedUnstarted (judgeBusy s requestId scanned active holdRecorded waitSeconds now) := by
  unfold GpuFaultRecovery.judgeBusy
  dsimp only
  split
  · exact h
  split
  · exact h.amend (keepsLease_failNodeBusy _ _ _)
  split
  · exact h
  · exact h.amend keepsLease_id

/-- Every event keeps the invariant, if it claims no row under judgement. -/
private theorem JudgedUnstarted.step (h : JudgedUnstarted s) (hclaim : UnclaimedWhileJudged s event) :
    JudgedUnstarted (busyStep s event) := by
  cases event with
  | executor event =>
    refine ⟨h.sound.step event, fun d r scanned hscan hjudged => ?_⟩
    obtain ⟨current, hget, hunstarted⟩ := h.unstarted d r scanned hscan hjudged
    refine h.sound.unstarted_stays hunstarted hget fun executorId now leaseDuration ask read hevent hpass => ?_
    subst hevent
    refine Bool.eq_false_iff.mpr fun hgranted => ?_
    rw [hclaim read hpass hgranted d scanned hscan] at hjudged
    cases hjudged
  | scan dispatcherId requestId placementHold firstHold =>
    simp only [busyStep]
    split
    · exact h
    · rename_i workflow hget
      split
      · refine h.setScan dispatcherId fun row hrow hjudged => ⟨workflow, hget, ?_⟩
        cases hrow
        exact hasStarted_eq_false hjudged
      · exact h
  | judge dispatcherId requestId active holdRecorded waitSeconds now =>
    simp only [busyStep]
    split
    · exact h
    · rename_i scanned _
      exact (h.judgeBusy scanned active holdRecorded waitSeconds).setScan dispatcherId fun row hrow => by cases hrow

private theorem hasStarted_of_nodeBusyTimedOut {scanned : ScannedRow} {active : List ActiveWorkflow}
    {waitSeconds : Nat} (h : nodeBusyTimedOut scanned active waitSeconds now = true) :
    hasStarted scanned.workflow = false := by
  by_contra hstarted
  have hstarted : hasStarted scanned.workflow = true := by simpa using hstarted
  simp [nodeBusyTimedOut, nodesUnderOtherRemediation, hstarted] at h

/-- Along every run in which no claim goes through on a row under judgement, a node-busy failure is written on a row
that has not started. -/
theorem nodeBusyTimeout_unstarted {events : List BusyEvent} (hpasses : ∀ e r, s.store.passes e r = none)
    (hscans : ∀ d r, s.scans d r = none) (h : Run.Along busyStep UnclaimedWhileJudged s events) :
    Run.Along busyStep TimesOutUnstarted s events := by
  have hstart : JudgedUnstarted s := by
    constructor
    · intro e r phase workflow hpass
      rw [hpasses e r] at hpass
      cases hpass
    · intro d r scanned hscan
      rw [hscans d r] at hscan
      cases hscan
  refine Run.along_of_invariant (fun _ _ hinv hclaim => hinv.step hclaim) (fun t event hinv _ => ?_) hstart h
  cases event with
  | executor event => trivial
  | scan dispatcherId requestId placementHold firstHold => trivial
  | judge dispatcherId requestId active holdRecorded waitSeconds now =>
    intro scanned current hscan htimeout hget
    obtain ⟨stored, hstored, hunstarted⟩ :=
      hinv.unstarted dispatcherId requestId scanned hscan (hasStarted_of_nodeBusyTimedOut htimeout)
    cases hstored.symm.trans hget
    refine ⟨hunstarted, fun index hindex => ?_⟩
    rcases hindex with hcompleted | ⟨execution, hexecution, -⟩
    · rw [hunstarted.completed] at hcompleted
      cases hcompleted
    · rw [hunstarted.executions] at hexecution
      cases hexecution

end BusyRun

/-! ### A claim between the scan and the write -/

def waitingJob : WorkflowRequest :=
  { requestId := "w1", incidentId := "i1", status := .pending,
    officialSteps := [{ operation := .markUnschedulable, nodeIds := ["n1"] },
      { operation := .stopWorkloads, nodeIds := ["n1"] }, { operation := .restartWorkload }] }

def waitingStore : BusyStore := { store := { rows := Table.empty.put waitingJob } }

def repairingNode :
    ActiveWorkflow := { nodeIds := ["n1"], workflow := { requestId := "w2", incidentId := "i2", status := .running } }

/-- The job workflow claimed by an executor that has run its first step. -/
def startedJob : WorkflowRequest :=
  { waitingJob with
    status := .running, executionOwnerId := some "e", executionEpoch := 1, executionLeaseExpiresAt := some 30000000,
    completedStepIndexes := [0],
    stepExecutions := [{ stepIndex := 0, operation := .markUnschedulable, status := .succeeded }] }

/-- The dispatcher scans the row, an executor claims it and runs its first step, and the dispatcher writes. -/
def claimedBetween : List BusyEvent :=
  [.scan "d" "w1" false (some (-400000000)), .executor (.read "e" "w1"), .executor (.claim "e" "w1" 0 30000000 {}),
    .executor (.prepare "e" "w1" none none 0), .executor (.save "e" "w1" startedJob 1),
    .judge "d" "w1" [repairingNode] true 300 2]

theorem nodeBusyTimeout_on_started : ¬ Run.Along busyStep TimesOutUnstarted waitingStore claimedBetween := by
  rintro ⟨-, -, -, -, -, hjudge, -⟩
  have howner :=
    (hjudge { workflow := waitingJob, firstHold := some (-400000000) } startedJob (by rfl) (by decide +kernel)
    (by rfl)).1.owner
  cases howner

theorem nodeBusyTimeout_unstarted_waiting :
    nodeBusyTimedOut { workflow := waitingJob, firstHold := some (-400000000) } [repairingNode] 300 2 = true ∧
      Run.Along busyStep TimesOutUnstarted waitingStore
        [.scan "d" "w1" false (some (-400000000)), .judge "d" "w1" [repairingNode] true 300 2] :=
  ⟨by decide +kernel, nodeBusyTimeout_unstarted (fun _ _ => rfl) (fun _ _ => rfl) ⟨trivial, trivial, trivial⟩⟩

end GpuFaultRecovery
