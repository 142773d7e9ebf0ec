import GpuFaultRecovery.ExecutorRecords
import GpuFaultRecovery.InheritedContainment
import GpuFaultRecovery.RemoteCommand

/-!
# Revoking a retired generation

An incident that was planned anew names a later workflow, and the row it moved away from still has its owner and its
lease. The sweep of the dispatcher cancels the commands of such a row and, once nothing on record speaks against it,
makes it SUPERSEDED, whoever holds its lease. What the write re-derives is the record: a step that was handed to an
adapter and not written down yet is not on it, and a pass that is about to hand out a step asks nobody. So the runs
below keep, beside the rows, what was handed out, and the law holds where the sweep finds no pass between its last
read of the row and its next record.
-/

namespace GpuFaultRecovery

/-! ### The verdict on a row -/

/-- `retired_generation_successor`: the row the incident moved to, if it is a later generation that nothing links to
this one. -/
def retiredGenerationSuccessor (incident : IncidentRecord) (rows : WorkflowTable) (workflow : WorkflowRequest) :
    Option WorkflowRequest :=
  match incident.workflowRequestId.filter (· != "") with
  | none => none
  | some successorId =>
    if successorId == workflow.requestId || incident.fencingToken ≤ workflow.fencingToken then none
    else
      (rows.get? successorId).filter fun successor =>
        successor.incidentId == workflow.incidentId && successor.fencingToken == incident.fencingToken &&
          successor.predecessorWorkflowId != some workflow.requestId

/-- `OPEN_REMOTE_STATUSES`. -/
def RemoteCommandStatus.openRemote (status : RemoteCommandStatus) : Bool :=
  status == .pending || status == .waiting || status == .leased

/-- `RETIRED_GENERATION_STATUSES`. -/
def WorkflowStatus.revocable (status : WorkflowStatus) : Bool :=
  status == .pending || status == .safetyPending || status == .running || status == .blocked

def openRemoteCommandIds (workflow : WorkflowRequest) (commands : List RemoteActionCommand) : List String :=
  ((commands.filter fun item => item.workflowRequestId == workflow.requestId && item.status.openRemote).map
    RemoteActionCommand.commandId).insertionSort (· ≤ ·)

/-- The steps a local adapter was given and never reported back on, as far as the record tells. -/
def unsettledLocalStepIndexes (workflow : WorkflowRequest) : List Nat :=
  ((workflow.stepExecutions.filter fun item =>
    item.status == .waiting && !(item.adapterOperationId.getD "").startsWith "remote/").map
      WorkflowStepExecution.stepIndex).insertionSort (· ≤ ·)

/-- `completed_destructive_operations`: judged by what mutates a node, containment apart. -/
def completedDestructiveOperations (workflow : WorkflowRequest) : List String :=
  ((workflow.completedOperations.eraseDups.filter WorkflowOperation.nodeMutating).map
    WorkflowOperation.value).insertionSort (· ≤ ·)

inductive BlockerCode where
  | statusNotOpen
  | unsettledLocalSteps
  | completedNodeMutating
  | openRemoteCommands
  | generationNotRetired
deriving Repr, DecidableEq

/-- One reason a row cannot be revoked, as code and prose. -/
structure RetiredGenerationBlocker where
  code : BlockerCode
  message : String
deriving Repr, DecidableEq

/-- The blocker that lists `items`, if there are any. -/
def listingBlocker (code : BlockerCode) (text : String) (items : List String) : List RetiredGenerationBlocker :=
  if items.isEmpty then [] else [⟨code, text ++ ", ".intercalate items⟩]

def retiredGenerationBlockers (workflow : WorkflowRequest) (successor : Option WorkflowRequest)
    (commands : List RemoteActionCommand) : List RetiredGenerationBlocker :=
  (if workflow.status.revocable then []
    else [⟨.statusNotOpen, s!"workflow status is {workflow.status.value}, not open"⟩]) ++
  listingBlocker .unsettledLocalSteps "workflow has unsettled adapter actions on steps: "
    ((unsettledLocalStepIndexes workflow).map toString) ++
  listingBlocker .completedNodeMutating "workflow already completed destructive operations: "
    (completedDestructiveOperations workflow) ++
  listingBlocker .openRemoteCommands "workflow has open remote commands: " (openRemoteCommandIds workflow commands) ++
  (if successor.isSome then []
    else [⟨.generationNotRetired, "workflow generation has not been retired by its incident"⟩])

/-- `retired_generation_audit`, as the sweep writes it. -/
def retiredGenerationAudit (workflow : WorkflowRequest) (incident : IncidentRecord)
    (successor : WorkflowRequest) : String :=
  s!"revoked retired generation {workflow.requestId} at generation {workflow.fencingToken} in favour of " ++
    s!"{successor.requestId}: incident {incident.incidentId} advanced to generation {incident.fencingToken}"

/-- Everything the write verifies again before it closes the row. -/
def retiredGenerationReasons (workflow : WorkflowRequest) (incident : IncidentRecord) (successor : WorkflowRequest)
    (commands : List RemoteActionCommand) (expectedFencingToken : Nat) : List String :=
  (retiredGenerationBlockers workflow (some successor) commands).map RetiredGenerationBlocker.message ++
  (if workflow.fencingToken == expectedFencingToken then []
    else [s!"workflow fencing token changed: expected {expectedFencingToken}, found {workflow.fencingToken}"]) ++
  (if incident.workflowRequestId == some successor.requestId then
    [] else ["incident no longer names the successor"]) ++
  (if successor.incidentId == workflow.incidentId then [] else ["successor belongs to another incident"]) ++
  (if successor.fencingToken == incident.fencingToken then [] else ["successor is not at the incident generation"]) ++
  (if workflow.fencingToken < incident.fencingToken then [] else ["workflow generation is not behind its incident"])

/-- The row of a retired generation, closed, its lease released. -/
def revokedRow (workflow : WorkflowRequest) (incident : IncidentRecord) (successor : WorkflowRequest) (now : Time) :
    WorkflowRequest :=
  { workflow with
    status := .superseded
    preemptedByWorkflowId := some successor.requestId
    preemptionReason := some (retiredGenerationAudit workflow incident successor)
    supersededAt := some now
    executionOwnerId := none
    executionLeaseExpiresAt := none
    updatedAt := now }

/-- `retired_generation_records`: the two records to write, or why there are none. -/
def retiredGenerationRecords (workflow : WorkflowRequest) (incident : IncidentRecord) (successor : WorkflowRequest)
    (commands : List RemoteActionCommand) (expectedFencingToken : Nat) (now : Time) :
    Except String (WorkflowRequest × IncidentRecord) :=
  let reasons := retiredGenerationReasons workflow incident successor commands expectedFencingToken
  if reasons.isEmpty then
    .ok (revokedRow workflow incident successor now,
      { incident with
        reasons := (incident.reasons ++ [retiredGenerationAudit workflow incident successor]).eraseDups })
  else .error ("retired generation reconcile rejected: " ++ "; ".intercalate reasons)

/-- `retirement_fences_out_dispatch`. -/
def retirementFencesOutDispatch (incident : IncidentRecord) (rows : WorkflowTable)
    (workflow : WorkflowRequest) : Bool :=
  incident.workflowRequestId.isSome && incident.workflowRequestId != some workflow.requestId &&
    decide (workflow.fencingToken < incident.fencingToken) &&
      (retiredGenerationSuccessor incident rows workflow).isSome

/-- `_validate_fencing`: asked once, when a pass begins. -/
def validateFencing (incident : IncidentRecord) (rows : WorkflowTable) (workflow : WorkflowRequest)
    (expected : Nat) : Bool :=
  let current := incident.workflowRequestId.isNone || incident.workflowRequestId == some workflow.requestId
  expected == workflow.fencingToken && !(current && expected != incident.fencingToken) &&
    !retirementFencesOutDispatch incident rows workflow

/-! ### The row, its passes and the sweep -/

def RemoteActionCommand.carries (command : RemoteActionCommand) (d : Dispatched) : Bool :=
  command.carriedSteps.any fun entry => entry.1 == d.index && entry.2.operation == d.step.operation

def RemoteActionCommand.heads (command : RemoteActionCommand) (d : Dispatched) : Bool :=
  command.stepIndex == d.index && command.step.operation == d.step.operation

/-- The row with its passes, its incident, the commands and the other rows. `validated` counts the passes that were
let through the fence and have not claimed, `listed` is the row as the sweep read it, `asked` the revocation it goes
on to ask for. `sent` is every step that was handed to an adapter, and `revoked` tells that the row was closed and its
lease released. -/
structure Revocation where
  executor : Executor
  incident : IncidentRecord
  store : CommandStore := .empty
  validated : Nat := 0
  listed : Option WorkflowRequest := none
  asked : Option (String × Nat) := none
  sent : List Dispatched := []
  revoked : Bool := false

namespace Revocation

def commands (s : Revocation) : List RemoteActionCommand :=
  s.store.commands.rows.filter fun item => item.workflowRequestId == s.executor.row.requestId

def commandedIn (s : Revocation) (d : Dispatched) : Bool := s.store.commands.rows.any fun command => command.carries d

def release (s : Revocation) : Revocation := { s with executor := { s.executor with pass := none } }

/-- Go on with `executor`, noting the step it handed out. A remote adapter has its command stored before anything
leaves for a node; one whose identity is taken raises, and nothing was handed out. -/
def goOn (s : Revocation) (executor : Executor) (minted : Option RemoteActionCommand) : Revocation :=
  if (handedOut s.executor).isSome then { s with executor }
  else
    match handedOut executor with
    | none => { s with executor }
    | some d =>
      match minted.filter fun command => command.heads d with
      | none => { s with executor, sent := d :: s.sent }
      | some command =>
        match s.store.ensureRemoteCommand command with
        | .error _ => s.release
        | .ok (store, _) => { s with executor, store, sent := d :: s.sent }

/-- Whether a pass may run a restore ahead of its cursor from what it holds: one is pending and owed. -/
def owesRestore (pass : ExecutorPass) : Bool :=
  !(unrestoredQuiesces pass.held pass.held.executedSteps).isEmpty &&
    (pendingRestoreStep pass.held pass.held.executedSteps).isSome

/-- An event of the row or of its pass. Once the lease is released no read or save of the pass goes through, and only
what it hands out from what it holds is left to it. -/
def executorEvent (s : Revocation) (event : ExecutorEvent) (minted : Option RemoteActionCommand) : Revocation :=
  match event with
  | .claim _ _ =>
    if s.validated = 0 then s
    else { s.goOn (executorStep s.executor event) minted with validated := s.validated - 1 }
  | .abort => s.release
  | .withdraw _ _ | .merge _ _ => if s.revoked then s else s.goOn (executorStep s.executor event) minted
  | .dispatch => s.goOn (executorStep s.executor event) minted
  | .restoreAhead _ =>
    if s.revoked && !(s.executor.freePass.any owesRestore) then s.release
    else s.goOn (executorStep s.executor event) minted
  | .scan _ | .record _ _ _ _ _ | .endBatch _ | .withholdRestart _ _ _ =>
    if s.revoked then s.release else s.goOn (executorStep s.executor event) minted

/-- A re-plan moves the incident to another row and stores that row. -/
def replan (s : Revocation) (incident : IncidentRecord) (successor : WorkflowRequest) : Revocation :=
  if successor.requestId == s.executor.row.requestId then s
  else { s with
    incident
    store := { s.store with workflows := s.store.workflows.put successor } }

/-- What is written on a command, by its executor or by the store, leaves alone what it carries. -/
def report (s : Revocation) (command : RemoteActionCommand) : Revocation :=
  match s.store.commands.get? command.commandId with
  | none => s
  | some stored =>
    if command.carriedSteps = stored.carriedSteps ∧ command.workflowRequestId = stored.workflowRequestId then
      { s with store := { s.store with commands := s.store.commands.put command } }
    else s

/-- `_revoke_retired_generation` up to the write: judged on the row as listed, it cancels the commands of the row or
goes on to ask for the revocation. -/
def sweep (s : Revocation) (now : Time) : Revocation :=
  match s.listed with
  | none => s
  | some workflow =>
    match retiredGenerationSuccessor s.incident s.store.workflows workflow with
    | none => s
    | some successor =>
      if !(retiredGenerationBlockers workflow (some successor) []).isEmpty then s
      else if !(retiredGenerationBlockers workflow (some successor) s.commands).isEmpty then
        let reason := retiredGenerationAudit workflow s.incident successor
        { s with store := s.store.cancelRemoteCommandsForWorkflow workflow.requestId reason now }
      else { s with asked := some (successor.requestId, workflow.fencingToken) }

/-- What the revocation asked for writes, on the row as stored. -/
def revocation (s : Revocation) (now : Time) : Option (WorkflowRequest × IncidentRecord) :=
  s.asked.bind fun (successorId, expectedFencingToken) =>
    (s.store.workflows.get? successorId).bind fun successor =>
      (retiredGenerationRecords s.executor.row s.incident successor s.commands expectedFencingToken now).toOption

/-- `reconcile_retired_generation_workflow`: the lease is not asked for. -/
def reconcile (s : Revocation) (now : Time) : Revocation :=
  match s.revocation now with
  | none => { s with asked := none }
  | some (row, incident) => { s with
      executor := { s.executor with row }
      incident
      asked := none
      revoked := true }

end Revocation

/-- What can happen next: a pass is let through the fence, an event of the row or of its pass, a re-plan, a report on
a command, and the three parts of the sweep. -/
inductive RevocationEvent where
  | validate (expected : Nat)
  | executor (event : ExecutorEvent) (minted : Option RemoteActionCommand)
  | replan (incident : IncidentRecord) (successor : WorkflowRequest)
  | report (command : RemoteActionCommand)
  | list
  | sweep (now : Time)
  | reconcile (now : Time)

def revocationStep (s : Revocation) : RevocationEvent → Revocation
  | .validate expected =>
    if validateFencing s.incident s.store.workflows s.executor.row expected then
      { s with validated := s.validated + 1 }
    else s
  | .executor event minted => s.executorEvent event minted
  | .replan incident successor => s.replan incident successor
  | .report command => s.report command
  | .list => { s with listed := some s.executor.row }
  | .sweep now => s.sweep now
  | .reconcile now => s.reconcile now

/-! ### The law and the condition -/

def Dispatched.mutates (d : Dispatched) : Bool := d.step.operation.nodeMutating

/-- No node-mutating step is in flight that no command row knows of. -/
def Revocation.FlightCommanded (s : Revocation) : Prop :=
  ∀ d, handedOut s.executor = some d → d.mutates = true → s.commandedIn d = true

/-- The row is left alone: where a revocation goes through, a node-mutating step in flight has its command row and the
pass hands out no node-mutating step before it asks for the lease again; and no pass is lost, by itself or by an
answer that raises, between handing a node-mutating step to a local adapter and recording it. -/
def LeftAlone (s : Revocation) : RevocationEvent → Prop
  | .executor .abort _ => s.FlightCommanded
  | .executor (.record outcome verdict inventory targets now) _ => ∀ pass d, s.executor.pass = some pass →
      pass.inFlight = some d → answerRaises s.executor pass d outcome verdict inventory targets now = true →
      s.FlightCommanded
  | .reconcile now => (s.revocation now).isSome = true → s.FlightCommanded ∧
      (∀ step, Handover.nextStep s.executor = some step → step.operation.nodeMutating = false) ∧
      ∀ pass, s.executor.freePass = some pass → Revocation.owesRestore pass = false
  | _ => True

/-- The event closes no effect in flight: where it makes the row SUPERSEDED, every node-mutating step that was handed
out is on the record of the row or in a command row, and afterwards it hands no such step out. -/
def ClosesNothing (s : Revocation) (event : RevocationEvent) : Prop :=
  (s.revoked = false → (revocationStep s event).revoked = true →
    (revocationStep s event).executor.row.status = .superseded ∧
      ∀ d ∈ (revocationStep s event).sent, d.mutates = true →
        recordedIn (revocationStep s event).executor.row d = true ∨ (revocationStep s event).commandedIn d = true) ∧
  (s.revoked = true → (revocationStep s event).sent.filter Dispatched.mutates = s.sent.filter Dispatched.mutates)

/-! ### What is handed out -/

section HandedOut

variable {s : Executor} {pass : ExecutorPass} {d : Dispatched} {event : ExecutorEvent} {now : Time}

/-- A dispatch hands out the step the pass stands before; else nothing is left to hand out, or nothing happens. -/
private theorem dispatch_cases (hfree : s.freePass = some pass) :
    s.dispatch pass = s ∨
      (Handover.nextStep (s.dispatch pass) = none ∧
        ∃ pass', (s.dispatch pass).pass = some pass' ∧ pass'.held = pass.held ∧ pass'.inFlight = none) ∨
      ∃ d, handedOut (s.dispatch pass) = some d ∧ Handover.nextStep s = some d.step := by
  obtain ⟨hpass, hidle⟩ := freePass_eq hfree
  have hnext : Handover.nextStep s = pass.batch.head?.bind fun index =>
      if Executor.dispatchable pass index then (phaseSteps pass.isSafety pass.held)[index]? else none := by
    rw [Handover.nextStep, hfree]
    rfl
  unfold Executor.dispatch
  cases hbatch : pass.batch with
  | nil => exact .inl rfl
  | cons index rest =>
    simp only [hbatch, List.head?_cons, Option.bind_some] at hnext
    by_cases hcurrent : Executor.dispatchable pass index = true
    · rw [if_pos hcurrent] at hnext
      simp only [hcurrent, if_true]
      cases hstep : (phaseSteps pass.isSafety pass.held)[index]? with
      | none => exact .inl rfl
      | some step => exact .inr (.inr ⟨_, rfl, hnext.trans hstep⟩)
    · refine .inr (.inl ⟨?_, ?_⟩)
      · simp [hcurrent, Handover.nextStep, Executor.freePass, hidle]
      · exact ⟨{ pass with batch := [] }, by simp [hcurrent], rfl, hidle⟩

end HandedOut

/-! ### Commands that stay -/

section Commands

variable {s : Revocation} {store store' : CommandStore} {command stored : RemoteActionCommand} {d : Dispatched}
  {reason : String} {now : Time}

/-- Every command is still there, with what it carries. -/
def KeepsCommands (store store' : CommandStore) : Prop :=
  ∀ id command, store.commands.get? id = some command →
    ∃ command', store'.commands.get? id = some command' ∧ command'.carriedSteps = command.carriedSteps

private theorem commandedIn_iff : s.commandedIn d = true ↔
    ∃ id command, s.store.commands.get? id = some command ∧ command.carries d = true := by
  simp only [Revocation.commandedIn, List.any_eq_true]
  constructor
  · rintro ⟨command, hmem, hcarries⟩
    exact ⟨_, command, Table.mem_rows.mp hmem, hcarries⟩
  · rintro ⟨id, command, hget, hcarries⟩
    have hkey := Table.key_of_get? hget
    exact ⟨command, Table.mem_rows.mpr (hkey ▸ hget), hcarries⟩

private theorem KeepsCommands.commandedIn {s' : Revocation} (h : KeepsCommands s.store s'.store)
    (hd : s.commandedIn d = true) :
    s'.commandedIn d = true := by
  obtain ⟨id, command, hget, hcarries⟩ := commandedIn_iff.mp hd
  obtain ⟨command', hget', hsteps⟩ := h id command hget
  refine commandedIn_iff.mpr ⟨id, command', hget', ?_⟩
  rw [RemoteActionCommand.carries, hsteps]
  exact hcarries

private theorem KeepsCommands.refl (store : CommandStore) : KeepsCommands store store :=
  fun _ command hget => ⟨command, hget, rfl⟩

private theorem keepsCommands_put (h : ∀ stored, store.commands.get? command.commandId = some stored →
    command.carriedSteps = stored.carriedSteps) :
    KeepsCommands store { store with commands := store.commands.put command } := by
  intro id old hget
  by_cases hid : id = command.commandId
  · subst hid
    exact ⟨command, Table.get?_put_self _ _, h old hget⟩
  · exact ⟨old, (Table.get?_put_ne hid).trans hget, rfl⟩

private theorem keepsCommands_ensure (h : store.ensureRemoteCommand command = .ok (store', stored)) :
    KeepsCommands store store' := by
  unfold CommandStore.ensureRemoteCommand at h
  split at h
  · split at h
    · cases h
    · cases h
      exact .refl _
  · rename_i hnone
    cases h
    refine keepsCommands_put fun other hother => ?_
    rw [hnone] at hother
    cases hother

/-- Cancelling the commands of a row leaves them what they carry. -/
private theorem keepsCommands_cancel (store : CommandStore) (workflowRequestId reason : String) (now : Time) :
    KeepsCommands store (store.cancelRemoteCommandsForWorkflow workflowRequestId reason now) := by
  intro id command hget
  unfold CommandStore.cancelRemoteCommandsForWorkflow
  dsimp only
  set updates := (store.commands.rows.filter fun item => item.workflowRequestId == workflowRequestId).filterMap
    (workflowCancellation · reason now) with hupdates
  have hupdate : ∀ update ∈ updates, ∃ old, store.commands.get? old.commandId = some old ∧
      update.commandId = old.commandId ∧ update.carriedSteps = old.carriedSteps := by
    intro update hmem
    obtain ⟨old, hold, hcancel⟩ := List.mem_filterMap.mp hmem
    have hrow := Table.mem_rows.mp (List.mem_filter.mp hold).1
    refine ⟨old, hrow, ?_⟩
    unfold workflowCancellation at hcancel
    split at hcancel
    · cases hcancel
      exact ⟨rfl, rfl⟩
    · cases hcancel
      exact ⟨rfl, rfl⟩
    · split at hcancel
      · cases hcancel
        exact ⟨rfl, rfl⟩
      · cases hcancel
    · cases hcancel
  by_cases hnamed : ∃ update ∈ updates, update.commandId = id
  · obtain ⟨update, hmem, hid, hput⟩ := Table.get?_putAll_of_mem hnamed
    obtain ⟨old, hold, hsame, hcarried⟩ := hupdate update hmem
    rw [← hsame, hid, hget] at hold
    exact ⟨update, hput, by rw [hcarried, Option.some.inj hold]⟩
  · refine ⟨command, ?_, rfl⟩
    rw [Table.get?_putAll_of_forall_ne fun update hmem hid => hnamed ⟨update, hmem, hid⟩]
    exact hget

end Commands

/-! ### Before and after the revocation -/

/-- Before the revocation: the pass follows the row, and every node-mutating step that was handed out is on record, in
a command row, or in flight. -/
structure OpenSound (s : Revocation) : Prop where
  follows : Follows s.executor
  accounted : ∀ d ∈ s.sent, d.mutates = true →
    OnRecord s.executor.row d ∨ s.commandedIn d = true ∨ handedOut s.executor = some d

/-- After it: the row is closed, and a pass that is still there hands out no node-mutating step. -/
structure ClosedSound (s : Revocation) : Prop where
  status : s.executor.row.status = .superseded
  next : ∀ step, Handover.nextStep s.executor = some step → step.operation.nodeMutating = false
  restore : ∀ pass, s.executor.freePass = some pass → Revocation.owesRestore pass = false

section Revoking

variable {s : Revocation} {executor : Executor} {event : ExecutorEvent} {minted : Option RemoteActionCommand}
  {now : Time}

/-- Going on raises in the adapter and loses the pass, or notes the step that was handed out, if there is one. -/
private theorem goOn_cases (s : Revocation) (executor : Executor) (minted : Option RemoteActionCommand) :
    (handedOut s.executor = none ∧ s.goOn executor minted = s.release) ∨
      ∃ store sent, s.goOn executor minted = { s with executor, store, sent } ∧ KeepsCommands s.store store ∧
        (sent = s.sent ∨ ∃ d, handedOut s.executor = none ∧ handedOut executor = some d ∧ sent = d :: s.sent) := by
  unfold Revocation.goOn
  split
  · exact .inr ⟨_, _, rfl, .refl _, .inl rfl⟩
  · rename_i hidle
    rw [Option.not_isSome_iff_eq_none] at hidle
    split
    · exact .inr ⟨_, _, rfl, .refl _, .inl rfl⟩
    · rename_i d hd
      split
      · exact .inr ⟨_, _, rfl, .refl _, .inr ⟨d, hidle, hd, rfl⟩⟩
      · split
        · exact .inl ⟨hidle, rfl⟩
        · rename_i store stored hensure
          exact .inr ⟨store, _, rfl, keepsCommands_ensure hensure, .inr ⟨d, hidle, hd, rfl⟩⟩

@[simp] theorem goOn_revoked : (s.goOn executor minted).revoked = s.revoked := by
  rcases goOn_cases s executor minted with ⟨-, he⟩ | ⟨store, sent, he, -⟩ <;> rw [he]
  rfl

private theorem goOn_self : s.goOn s.executor minted = s := by
  unfold Revocation.goOn
  split
  · rfl
  · rename_i hidle
    rw [Option.not_isSome_iff_eq_none] at hidle
    simp [hidle]

private theorem OpenSound.release (h : OpenSound s) (hcommanded : s.FlightCommanded) : OpenSound s.release := by
  refine ⟨fun pass hp => (by cases hp), fun d hd hmutates => ?_⟩
  rcases h.accounted d hd hmutates with hrecord | hcommand | hflight
  · exact .inl hrecord
  · exact .inr (.inl hcommand)
  · exact .inr (.inl (hcommanded d hflight hmutates))

/-- What was accounted for stays so, as long as the step in flight does. -/
private theorem OpenSound.goOn (h : OpenSound s) (hadvances : Advances s.executor executor)
    (hflight : ∀ d, handedOut s.executor = some d → d.mutates = true →
      OnRecord executor.row d ∨ s.commandedIn d = true ∨ handedOut executor = some d) :
    OpenSound (s.goOn executor minted) := by
  rcases goOn_cases s executor minted with ⟨hidle, he⟩ | ⟨store, sent, he, hstore, hsent⟩
  · rw [he]
    refine h.release fun d hd => ?_
    rw [hidle] at hd
    cases hd
  · rw [he]
    refine ⟨hadvances.follows, fun d hd hmutates => ?_⟩
    have hold : d ∈ s.sent ∨ handedOut executor = some d := by
      rcases hsent with rfl | ⟨new, -, hnew, rfl⟩
      · exact .inl hd
      · rcases List.mem_cons.mp hd with rfl | hd
        · exact .inr hnew
        · exact .inl hd
    have hkept : s.commandedIn d = true → Revocation.commandedIn { s with executor, store, sent } d = true :=
      fun hcommand => KeepsCommands.commandedIn hstore hcommand
    rcases hold with hd | hd
    · rcases h.accounted d hd hmutates with hrecord | hcommand | hd'
      · exact .inl (hadvances.keeps.onRecord hrecord)
      · exact .inr (.inl (hkept hcommand))
      · exact (hflight d hd' hmutates).imp id (Or.imp hkept id)
    · exact .inr (.inr hd)

/-- While the row is open, no event of it or of its pass leaves a step unaccounted for. -/
private theorem OpenSound.executorEvent (h : OpenSound s) (hrevoked : s.revoked = false)
    (halone : LeftAlone s (.executor event minted)) : OpenSound (s.executorEvent event minted) := by
  have hkept : event ≠ .abort →
      (∀ outcome verdict inventory targets now, event ≠ .record outcome verdict inventory targets now) →
      OpenSound (s.goOn (executorStep s.executor event) minted) := fun habort hrecord =>
    h.goOn (h.follows.step event) fun d hd _ => .inr (.inr (handedOut_kept hd habort hrecord))
  cases event with
  | claim predecessor now =>
    dsimp only [Revocation.executorEvent]
    split
    · exact h
    · obtain ⟨hfollows, haccounted⟩ := hkept (by simp) (by simp)
      exact ⟨hfollows, haccounted⟩
  | abort => exact h.release halone
  | record outcome verdict inventory targets now =>
    dsimp only [Revocation.executorEvent]
    rw [hrevoked, if_neg Bool.false_ne_true]
    refine h.goOn (h.follows.step _) fun d hd hmutates => ?_
    obtain ⟨pass, hpass, hflight⟩ := handedOut_eq.mp hd
    cases hraises : answerRaises s.executor pass d outcome verdict inventory targets now with
    | true => exact .inr (.inl (halone pass d hpass hflight hraises d hd hmutates))
    | false =>
      have hwritten := onRecord_record hraises ((h.follows pass hpass).flight d hflight)
      exact .inl (by simpa [executorStep, hpass, hflight] using hwritten)
  | dispatch => exact hkept (by simp) (by simp)
  | withdraw reason now | merge merge now | restoreAhead now | scan now | endBatch now
  | withholdRestart index outcome now =>
    dsimp only [Revocation.executorEvent]
    rw [hrevoked]
    exact hkept (by simp) (by simp)

/-- The dispatch of a pass that was quiet at the revocation hands out no node-mutating step, and nothing after it. -/
private theorem ClosedSound.dispatch (h : ClosedSound s) : ClosedSound (s.executorEvent .dispatch minted) ∧
    (s.executorEvent .dispatch minted).sent.filter Dispatched.mutates = s.sent.filter Dispatched.mutates := by
  dsimp only [Revocation.executorEvent, executorStep]
  cases hfree : s.executor.freePass with
  | none =>
    rw [Option.elim_none, goOn_self]
    exact ⟨h, rfl⟩
  | some pass =>
    rw [Option.elim_some]
    have hclosed : ∀ store sent, (∀ pass', (s.executor.dispatch pass).freePass = some pass' →
        Handover.nextStep (s.executor.dispatch pass) = none ∧ pass'.held = pass.held) →
        ClosedSound { s with
          executor := s.executor.dispatch pass
          store
          sent } := by
      intro store sent hfreed
      refine ⟨(congrArg WorkflowRequest.status (row_dispatch s.executor pass)).trans h.status, fun step hstep => ?_,
        fun pass' hfree' => ?_⟩
      · cases hfree' : (s.executor.dispatch pass).freePass with
        | none => simp [Handover.nextStep, hfree'] at hstep
        | some pass' => simp [(hfreed pass' hfree').1] at hstep
      · rw [Revocation.owesRestore, (hfreed pass' hfree').2]
        exact h.restore pass hfree
    have hreleased :
        ClosedSound s.release := ⟨h.status, fun step hstep => (by cases hstep), fun _ hp => (by cases hp)⟩
    rcases dispatch_cases hfree with hsame | ⟨hnext, pass', hpass', hheld, hidle⟩ | ⟨d, hd, hnext⟩
    · rw [hsame, goOn_self]
      exact ⟨h, rfl⟩
    · rcases goOn_cases s (s.executor.dispatch pass) minted with ⟨-, he⟩ | ⟨store, sent, he, -, hsent⟩
      · rw [he]
        exact ⟨hreleased, rfl⟩
      · rw [he]
        refine ⟨hclosed store sent fun pass'' hfree'' => ⟨hnext, ?_⟩, ?_⟩
        · have hsome := hpass'.symm.trans (freePass_eq hfree'').1
          rw [← Option.some.inj hsome, hheld]
        · rcases hsent with rfl | ⟨d, -, hd, -⟩
          · rfl
          · obtain ⟨flying, hflying, hflight⟩ := handedOut_eq.mp hd
            rw [Option.some.inj (hpass'.symm.trans hflying), hflight] at hidle
            cases hidle
    · have hbusy : (s.executor.dispatch pass).freePass = none := by
        obtain ⟨flying, hflying, hflight⟩ := handedOut_eq.mp hd
        simp [Executor.freePass, hflying, hflight]
      rcases goOn_cases s (s.executor.dispatch pass) minted with ⟨-, he⟩ | ⟨store, sent, he, -, hsent⟩
      · rw [he]
        exact ⟨hreleased, rfl⟩
      · rw [he]
        refine ⟨hclosed store sent fun pass'' hfree'' => ?_, ?_⟩
        · rw [hbusy] at hfree''
          cases hfree''
        · rcases hsent with rfl | ⟨new, -, hnew, rfl⟩
          · rfl
          · have hquiet : new.mutates = false := by
              rw [← Option.some.inj (hd.symm.trans hnew)]
              exact h.next d.step hnext
            simp [hquiet]

/-- Once the row is closed, no event of its pass hands out a node-mutating step. -/
private theorem ClosedSound.executorEvent (h : ClosedSound s) (hrevoked : s.revoked = true) :
    ClosedSound (s.executorEvent event minted) ∧
      (s.executorEvent event minted).sent.filter Dispatched.mutates = s.sent.filter Dispatched.mutates := by
  have hrelease :
      ClosedSound s.release ∧ s.release.sent.filter Dispatched.mutates = s.sent.filter Dispatched.mutates :=
    ⟨⟨h.status, fun step hstep => (by cases hstep), fun pass hp => (by cases hp)⟩, rfl⟩
  cases event with
  | claim predecessor now =>
    have hrefused : executorStep s.executor (.claim predecessor now) = s.executor := by
      simp [executorStep, Executor.claim, h.status, WorkflowStatus.executable]
    dsimp only [Revocation.executorEvent]
    split
    · exact ⟨h, rfl⟩
    · rw [hrefused, goOn_self]
      exact ⟨⟨h.status, h.next, h.restore⟩, rfl⟩
  | abort => exact hrelease
  | withdraw reason now | merge merge now =>
    dsimp only [Revocation.executorEvent]
    rw [hrevoked]
    exact ⟨h, rfl⟩
  | dispatch => exact h.dispatch
  | restoreAhead now =>
    have hnone : s.executor.freePass.any Revocation.owesRestore = false := by
      cases hfree : s.executor.freePass with
      | none => rfl
      | some pass => simpa using h.restore pass hfree
    dsimp only [Revocation.executorEvent]
    rw [hrevoked, hnone]
    exact hrelease
  | scan now | record outcome verdict inventory targets now | endBatch now | withholdRestart index outcome now =>
    dsimp only [Revocation.executorEvent]
    rw [hrevoked]
    exact hrelease

end Revoking

/-! ### The sweep -/

section Sweeping

variable {s : Revocation} {event : RevocationEvent} {row : WorkflowRequest} {incident : IncidentRecord} {now : Time}

private theorem revocation_eq_some (h : s.revocation now = some (row, incident)) :
    s.executor.row.status.revocable = true ∧
    row.status = .superseded ∧ row.stepExecutions = s.executor.row.stepExecutions := by
  simp only [Revocation.revocation, Option.bind_eq_some_iff, Prod.exists] at h
  obtain ⟨successorId, expected, -, successor, -, hrecords⟩ := h
  unfold retiredGenerationRecords at hrecords
  dsimp only at hrecords
  split at hrecords
  · rename_i haccepted
    cases hrecords
    refine ⟨?_, rfl, rfl⟩
    by_contra hclosed
    simp [retiredGenerationReasons, retiredGenerationBlockers, hclosed] at haccepted
  · cases hrecords

private theorem reconcile_cases (s : Revocation) (now : Time) :
    (s.revocation now = none ∧ s.reconcile now = { s with asked := none }) ∨
      ∃ row incident, s.revocation now = some (row, incident) ∧ s.reconcile now = { s with
        executor := { s.executor with row }
        incident
        asked := none
        revoked := true } := by
  unfold Revocation.reconcile
  cases hrevocation : s.revocation now with
  | none => exact .inl ⟨rfl, rfl⟩
  | some written => exact .inr ⟨written.1, written.2, rfl, rfl⟩

/-- The event happens beside the row: only commands, other rows and the incident are written, and no command is
lost. -/
structure Beside (s s' : Revocation) : Prop where
  executor : s'.executor = s.executor
  sent : s'.sent = s.sent
  revoked : s'.revoked = s.revoked
  commands : KeepsCommands s.store s'.store

private theorem beside_report (s : Revocation) (command : RemoteActionCommand) : Beside s (s.report command) := by
  unfold Revocation.report
  split
  · exact ⟨rfl, rfl, rfl, .refl _⟩
  · rename_i stored hstored
    split
    · rename_i hsame
      refine ⟨rfl, rfl, rfl, keepsCommands_put fun other hother => ?_⟩
      rw [hstored] at hother
      rw [hsame.1, Option.some.inj hother]
    · exact ⟨rfl, rfl, rfl, .refl _⟩

private theorem beside_sweep (s : Revocation) (now : Time) : Beside s (s.sweep now) := by
  unfold Revocation.sweep
  split
  · exact ⟨rfl, rfl, rfl, .refl _⟩
  · split
    · exact ⟨rfl, rfl, rfl, .refl _⟩
    · split
      · exact ⟨rfl, rfl, rfl, .refl _⟩
      · split
        · exact ⟨rfl, rfl, rfl, keepsCommands_cancel _ _ _ _⟩
        · exact ⟨rfl, rfl, rfl, .refl _⟩

private theorem revocationStep_cases (s : Revocation) (event : RevocationEvent) :
    (∃ inner minted, event = .executor inner minted) ∨ (∃ now, event = .reconcile now) ∨
      Beside s (revocationStep s event) := by
  cases event with
  | validate expected =>
    dsimp only [revocationStep]
    split <;> exact .inr (.inr ⟨rfl, rfl, rfl, .refl _⟩)
  | executor inner minted => exact .inl ⟨inner, minted, rfl⟩
  | replan incident successor =>
    dsimp only [revocationStep, Revocation.replan]
    split <;> exact .inr (.inr ⟨rfl, rfl, rfl, fun _ command hget => ⟨command, hget, rfl⟩⟩)
  | report command => exact .inr (.inr (beside_report s command))
  | list => exact .inr (.inr ⟨rfl, rfl, rfl, .refl _⟩)
  | sweep now => exact .inr (.inr (beside_sweep s now))
  | reconcile now => exact .inr (.inl ⟨now, rfl⟩)

private theorem OpenSound.beside {s' : Revocation} (h : OpenSound s) (hbeside : Beside s s') : OpenSound s' := by
  refine ⟨hbeside.executor ▸ h.follows, fun d hd hmutates => ?_⟩
  rw [hbeside.executor]
  rw [hbeside.sent] at hd
  exact (h.accounted d hd hmutates).imp id (Or.imp hbeside.commands.commandedIn id)

private theorem ClosedSound.beside {s' : Revocation} (h : ClosedSound s) (hbeside : Beside s s') :
    ClosedSound s' := by
  obtain ⟨hstatus, hnext, hrestore⟩ := h
  rw [← hbeside.executor] at hstatus hnext hrestore
  exact ⟨hstatus, hnext, hrestore⟩

@[simp] theorem executorEvent_revoked {inner : ExecutorEvent} {minted : Option RemoteActionCommand} :
    (s.executorEvent inner minted).revoked = s.revoked := by
  cases inner <;> dsimp only [Revocation.executorEvent] <;> (try split) <;> simp [Revocation.release]

/-- The row is open or was revoked, and in either case nothing it handed out is lost sight of. -/
def RevocationSound (s : Revocation) : Prop :=
  (s.revoked = false ∧ OpenSound s) ∨ (s.revoked = true ∧ ClosedSound s)

/-- A revocation that goes through closes nothing: what it finds was recorded, or has its command row. -/
private theorem OpenSound.reconcile (h : OpenSound s) (hrevoked : s.revoked = false)
    (halone : LeftAlone s (.reconcile now)) :
    RevocationSound (s.reconcile now) ∧ ClosesNothing s (.reconcile now) := by
  have hopen : s.revoked ≠ true := by simp [hrevoked]
  unfold ClosesNothing
  dsimp only [revocationStep]
  rcases reconcile_cases s now with ⟨-, he⟩ | ⟨row, incident, hrevocation, he⟩
  · rw [he]
    exact ⟨.inl ⟨hrevoked, h.follows, h.accounted⟩, fun _ hclosed => absurd hclosed hopen,
      fun hclosed => absurd hclosed hopen⟩
  · obtain ⟨-, hstatus, hrecords⟩ := revocation_eq_some hrevocation
    obtain ⟨hcommanded, hnext, hrestore⟩ := halone (by rw [hrevocation]; rfl)
    rw [he]
    refine ⟨.inr ⟨rfl, hstatus, hnext, hrestore⟩, fun _ _ => ⟨hstatus, fun d hd hmutates => ?_⟩,
      fun hclosed => absurd hclosed hopen⟩
    rcases h.accounted d hd hmutates with hrecord | hcommand | hflight
    · refine .inl ?_
      rw [recordedIn, hrecords]
      exact hrecord.2
    · exact .inr hcommand
    · exact .inr (hcommanded d hflight hmutates)

private theorem ClosedSound.reconcile (h : ClosedSound s) : s.reconcile now = { s with asked := none } := by
  rcases reconcile_cases s now with ⟨-, he⟩ | ⟨row, incident, hrevocation, -⟩
  · exact he
  · have hopen := (revocation_eq_some hrevocation).1
    rw [h.status] at hopen
    cases hopen

private theorem closesNothing_of_revoked (hrevoked : (revocationStep s event).revoked = s.revoked)
    (hsent : s.revoked = true →
      (revocationStep s event).sent.filter Dispatched.mutates = s.sent.filter Dispatched.mutates) :
    ClosesNothing s event := by
  refine ⟨fun hopen hclosed => ?_, hsent⟩
  rw [hrevoked, hopen] at hclosed
  cases hclosed

/-- Every event that leaves the row alone closes nothing, and the next one starts from a sound state. -/
private theorem RevocationSound.step (h : RevocationSound s) (halone : LeftAlone s event) :
    RevocationSound (revocationStep s event) ∧ ClosesNothing s event := by
  rcases h with ⟨hrevoked, hopen⟩ | ⟨hrevoked, hclosed⟩
  · have hnone : s.revoked = true → (revocationStep s event).sent.filter Dispatched.mutates =
        s.sent.filter Dispatched.mutates := fun hclosed => by
      rw [hrevoked] at hclosed
      cases hclosed
    rcases revocationStep_cases s event with ⟨inner, minted, rfl⟩ | ⟨now, rfl⟩ | hbeside
    · have hkept : (revocationStep s (.executor inner minted)).revoked = s.revoked := executorEvent_revoked
      exact ⟨.inl ⟨hkept.trans hrevoked, hopen.executorEvent hrevoked halone⟩, closesNothing_of_revoked hkept hnone⟩
    · exact hopen.reconcile hrevoked halone
    · exact ⟨.inl ⟨hbeside.revoked.trans hrevoked, hopen.beside hbeside⟩,
        closesNothing_of_revoked hbeside.revoked hnone⟩
  · rcases revocationStep_cases s event with ⟨inner, minted, rfl⟩ | ⟨now, rfl⟩ | hbeside
    · have hkept : (revocationStep s (.executor inner minted)).revoked = s.revoked := executorEvent_revoked
      obtain ⟨hsound, hsent⟩ := @ClosedSound.executorEvent s inner minted hclosed hrevoked
      exact ⟨.inr ⟨hkept.trans hrevoked, hsound⟩, closesNothing_of_revoked hkept fun _ => hsent⟩
    · have hstep : revocationStep s (.reconcile now) = { s with asked := none } := hclosed.reconcile
      refine ⟨?_, closesNothing_of_revoked (by rw [hstep]) fun _ => by rw [hstep]⟩
      rw [hstep]
      exact .inr ⟨hrevoked, hclosed.status, hclosed.next, hclosed.restore⟩
    · exact ⟨.inr ⟨hbeside.revoked.trans hrevoked, hclosed.beside hbeside⟩,
        closesNothing_of_revoked hbeside.revoked fun _ => by rw [hbeside.sent]⟩

end Sweeping

instance ClosesNothing.decidable (s : Revocation) (event : RevocationEvent) : Decidable (ClosesNothing s event) :=
  @instDecidableAnd _ _ inferInstance inferInstance

end GpuFaultRecovery
