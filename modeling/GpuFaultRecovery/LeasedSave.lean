import GpuFaultRecovery.ClaimedWorkflow
import GpuFaultRecovery.NodeBusyTimeout
import GpuFaultRecovery.Run

/-!
# Leased saves against other writers

An executor reads a row and its incident, claims the row, reads it again with every renewal of its lease and saves
what it made of its copies. The guard of a save compares the lease, the generation and the merge revision of the row,
and the workflow pointer of the incident. Merges and amendments move the revision. The stamp a preempting successor
leaves on its predecessor does not, and an incident has no revision to move.
-/

namespace GpuFaultRecovery

/-! ### Records and guards -/

/-- An incident with its generation and what operators read on it. -/
structure IncidentRecord extends FaultIncident where
  fencingToken : Nat := 1
  reasons : List String := []
deriving Repr, DecidableEq

abbrev IncidentTable := Table fun incident : IncidentRecord => incident.incidentId

/-- `preemption_pending_update`: the predecessor row to write beside a preempting successor. -/
def preemptionPendingUpdate (successor predecessor : WorkflowRequest) (now : Time) : Option WorkflowRequest :=
  if !successor.preemptPredecessor || predecessor.requestId == successor.requestId ||
      !predecessor.status.executable ||
      predecessor.preemptionPendingByWorkflowId == some successor.requestId then none
  else some { predecessor with preemptionPendingByWorkflowId := some successor.requestId, updatedAt := now }

/-- The stamp a stored row leaves on the row it preempts. -/
def stampedPredecessor (rows : WorkflowTable) (successor : WorkflowRequest) (now : Time) : Option WorkflowRequest :=
  if !successor.preemptPredecessor then none
  else ((successor.predecessorWorkflowId.filter (· != "")).bind rows.get?).bind fun predecessor =>
    preemptionPendingUpdate successor predecessor now

def stampPreemptionPending (rows : WorkflowTable) (successor : WorkflowRequest) (now : Time) : WorkflowTable :=
  (stampedPredecessor rows successor now).elim rows rows.put

/-- `incident_pointer_moved`. -/
def incidentPointerMoved (current : Option IncidentRecord) (incident : IncidentRecord) : Bool :=
  current.any fun stored => stored.workflowRequestId != incident.workflowRequestId

/-- `stale_incident_versions`: the copy is of an older generation. -/
def staleIncident (stored incident : IncidentRecord) : Bool := decide (incident.fencingToken < stored.fencingToken)

/-- `lease_extension_due`: less than half of the lease remains. -/
def leaseExtensionDue (workflow : WorkflowRequest) (now : Time) (leaseDuration : Int) : Bool :=
  workflow.executionLeaseExpiresAt.any fun expires => decide (2 * (expires - now) ≤ leaseDuration)

/-! ### The store -/

/-- A pass of an executor: its copies of the row and of the incident as it last read or wrote them. `stamped` and
`rewritten` record what other writers did since: a stamp on the row, and an incident that differs from the copy under
the same pointer. -/
structure LeasedPass where
  executorId : String
  workflow : WorkflowRequest
  incident : IncidentRecord
  claimed : Bool := false
  writesIncident : Option Bool := none
  stamped : Bool := false
  rewritten : Bool := false
deriving Repr, DecidableEq

structure SharedStore where
  rows : WorkflowTable
  incidents : IncidentTable
  pass : Option LeasedPass := none

inductive LeasedEvent where
  | read (executorId requestId : String)
  | claim (now : Time) (leaseDuration : Int) (ask : BudgetAsk)
  | renew (now : Time) (leaseDuration : Int)
  | save (workflow : WorkflowRequest) (now : Time)
  | lookAtIncident
  | saveState (workflow : WorkflowRequest) (incident : IncidentRecord) (now : Time)
  | abort
  | amend (amended : WorkflowRequest) (now : Time)
  | merge (group : Option String) (incident : IncidentRecord) (workflow : WorkflowRequest) (now : Time)
  | saveIncident (incident : IncidentRecord) (expected : Option IncidentRecord)

/-- A row made of the copy of a pass: the same row at the same versions. -/
def LeasedPass.derives (pass : LeasedPass) (workflow : WorkflowRequest) : Bool :=
  workflow.requestId == pass.workflow.requestId && workflow.executionEpoch == pass.workflow.executionEpoch &&
    workflow.fencingToken == pass.workflow.fencingToken && workflow.mergeRevision == pass.workflow.mergeRevision

def LeasedPass.derivesIncident (pass : LeasedPass) (incident : IncidentRecord) : Bool :=
  incident.incidentId == pass.incident.incidentId && incident.workflowRequestId == pass.incident.workflowRequestId

/-- What another writer of the row `stamped` leaves for the pass to see. -/
def LeasedPass.noteStamp (pass : LeasedPass) (stamp : Option WorkflowRequest) : LeasedPass :=
  { pass with stamped := pass.stamped || stamp.any fun row => row.requestId == pass.workflow.requestId }

/-- What another writer of an incident leaves for the pass to see. -/
def LeasedPass.noteIncident (pass : LeasedPass) (incident : IncidentRecord) : LeasedPass :=
  if incident.incidentId = pass.incident.incidentId then
    { pass with
      rewritten := incident != pass.incident && incident.workflowRequestId == pass.incident.workflowRequestId }
  else pass

namespace SharedStore

/-- The row of a leased save and the stamp it leaves; nothing where the guard refuses. -/
def savedRows (s : SharedStore) (pass : LeasedPass) (workflow : WorkflowRequest) (now : Time) :
    Option WorkflowTable :=
  (s.rows.get? workflow.requestId).bind fun current =>
    if validLeasedSave current workflow pass.executorId pass.workflow.executionEpoch now then
      some (stampPreemptionPending (s.rows.put workflow) workflow now)
    else none

/-- `save_workflow_if_leased`; a refused save ends the pass. -/
def saveWorkflow (s : SharedStore) (pass : LeasedPass) (workflow : WorkflowRequest) (now : Time) : SharedStore :=
  match s.savedRows pass workflow now with
  | none => { s with pass := none }
  | some rows => { s with rows, pass := some { pass with workflow, writesIncident := none, stamped := false } }

/-- `save_workflow_and_incident_if_leased`: the incident is written where its pointer has not moved. -/
def saveWorkflowAndIncident (s : SharedStore) (pass : LeasedPass) (workflow : WorkflowRequest)
    (incident : IncidentRecord) (now : Time) : SharedStore :=
  match s.savedRows pass workflow now with
  | none => { s with pass := none }
  | some rows =>
    let saved := { pass with workflow, writesIncident := none, stamped := false }
    if incidentPointerMoved (s.incidents.get? incident.incidentId) incident then { s with rows, pass := some saved }
    else { rows, incidents := s.incidents.put incident, pass := some { saved with incident, rewritten := false } }

/-- `renew_workflow_lease`: the row as it is stored, with its lease extended when half of it is gone. -/
def renewLease (s : SharedStore) (pass : LeasedPass) (now : Time) (leaseDuration : Int) : SharedStore :=
  match s.rows.get? pass.workflow.requestId with
  | none => { s with pass := none }
  | some current =>
    if holdsExecutionLease current pass.executorId now && current.executionEpoch == pass.workflow.executionEpoch then
      if leaseExtensionDue current now leaseDuration then
        let extended := { current with executionLeaseExpiresAt := some (now + leaseDuration) }
        { s with rows := s.rows.put extended, pass := some { pass with workflow := extended, stamped := false } }
      else { s with pass := some { pass with workflow := current, stamped := false } }
    else { s with pass := none }

def claim (s : SharedStore) (pass : LeasedPass) (now : Time) (leaseDuration : Int) (ask : BudgetAsk) : SharedStore :=
  match claimForExecution s.rows pass.workflow.requestId pass.executorId pass.workflow.fencingToken now
    leaseDuration ask with
  | (rows, .ok claimed) =>
    { s with rows, pass := some { pass with workflow := claimed, claimed := true, stamped := false } }
  | (rows, .error _) => { s with rows, pass := none }

/-- Store an incident and its workflow as merges and creations do: an adopted row moves its revision, and the row it
preempts is stamped. An incident outside the group is refused if it is of an older generation. -/
def storeMerged (s : SharedStore) (group : Option String) (incident : IncidentRecord) (workflow : WorkflowRequest)
    (now : Time) : SharedStore :=
  if group != some incident.incidentId && (s.incidents.get? incident.incidentId).any fun stored =>
      staleIncident stored incident then s
  else
    let bumped := match s.rows.get? workflow.requestId with
      | none => workflow
      | some stored => { workflow with mergeRevision := stored.mergeRevision + 1 }
    let rows := s.rows.put bumped
    let stamp := stampedPredecessor rows bumped now
    { rows := stamp.elim rows rows.put
      incidents := s.incidents.put incident
      pass := s.pass.map fun pass => (pass.noteStamp stamp).noteIncident incident }

/-- The guard of `save_incident`: the whole record a caller expects, else its generation. -/
def refusesIncident (s : SharedStore) (incident : IncidentRecord) (expected : Option IncidentRecord) : Bool :=
  match expected with
  | some read => s.incidents.get? incident.incidentId != some read
  | none => (s.incidents.get? incident.incidentId).any fun stored => staleIncident stored incident

/-- `save_incident`. -/
def saveIncident (s : SharedStore) (incident : IncidentRecord) (expected : Option IncidentRecord) : SharedStore :=
  if s.refusesIncident incident expected then s
  else { s with incidents := s.incidents.put incident, pass := s.pass.map fun pass => pass.noteIncident incident }

def claimedPass (s : SharedStore) : Option LeasedPass := s.pass.filter LeasedPass.claimed

end SharedStore

/-- One event: of the executor, or of another component. -/
def leasedStep (s : SharedStore) : LeasedEvent → SharedStore
  | .read executorId requestId =>
    if s.pass.isSome then s
    else
      match s.rows.get? requestId with
      | none => s
      | some workflow =>
        match s.incidents.get? workflow.incidentId with
        | none => s
        | some incident => { s with pass := some { executorId, workflow, incident } }
  | .claim now leaseDuration ask =>
    match s.pass with
    | some pass => if pass.claimed then s else s.claim pass now leaseDuration ask
    | none => s
  | .renew now leaseDuration => s.claimedPass.elim s fun pass => s.renewLease pass now leaseDuration
  | .save workflow now =>
    s.claimedPass.elim s fun pass => if pass.derives workflow then s.saveWorkflow pass workflow now else s
  | .lookAtIncident =>
    s.claimedPass.elim s fun pass =>
      match s.incidents.get? pass.incident.incidentId with
      | none => { s with pass := none }
      | some current => { s with pass := some { pass with
          writesIncident := some (current.workflowRequestId.all (· == pass.workflow.requestId)) } }
  | .saveState workflow incident now =>
    s.claimedPass.elim s fun pass =>
      if pass.derives workflow && pass.derivesIncident incident then
        match pass.writesIncident with
        | none => s
        | some true => s.saveWorkflowAndIncident pass workflow incident now
        | some false => s.saveWorkflow pass workflow now
      else s
  | .abort => { s with pass := none }
  | .amend amended now => { s with rows := amendWorkflow s.rows amended.requestId (fun _ => amended) now }
  | .merge group incident workflow now => s.storeMerged group incident workflow now
  | .saveIncident incident expected => s.saveIncident incident expected

/-! ### What a save may not undo -/

/-- What was stored is still there, or all of it that differs from what the executor had read. -/
def KeepsStored {ρ : Type} (read stored : ρ) (after : Option ρ) : Prop :=
  after = some stored ∨ ∀ (α : Type) (field : ρ → α), field stored ≠ field read →
    after.map field = some (field stored)

def LeasedEvent.saves : LeasedEvent → Bool
  | .save _ _ | .saveState _ _ _ => true
  | _ => false

/-- What the store held of the row and the incident of a pass, against the copies of the pass. -/
structure KeepsBoth (pass : LeasedPass) (before after : SharedStore) : Prop where
  row : ∀ stored, before.rows.get? pass.workflow.requestId = some stored →
    KeepsStored pass.workflow stored (after.rows.get? pass.workflow.requestId)
  incident : ∀ stored, before.incidents.get? pass.incident.incidentId = some stored →
    KeepsStored pass.incident stored (after.incidents.get? pass.incident.incidentId)

/-- A save of the executor undoes nothing other components did to its row and to its incident since it read them. -/
def UndoesNothing (s : SharedStore) (event : LeasedEvent) : Prop :=
  event.saves = true → ∀ pass, s.pass = some pass → KeepsBoth pass s (leasedStep s event)

/-- No save follows a write its guard cannot see: a stamp on the row since it was last read, or, where the incident is
saved too, a change of the incident under the same pointer. -/
def Visible (s : SharedStore) : LeasedEvent → Prop
  | .save _ _ => ∀ pass, s.pass = some pass → pass.stamped = false
  | .saveState _ _ _ => ∀ pass, s.pass = some pass →
      pass.stamped = false ∧ (pass.writesIncident = some true → pass.rewritten = false)
  | _ => True

/-! ### What a pass knows -/

/-- What the copies of a pass say about the store: without a stamp the row is the one it last read or has moved its
revision, and the incident is the one it read, or has moved its pointer, or was changed in a way that is recorded. -/
structure PassSound (rows : WorkflowTable) (incidents : IncidentTable) (pass : LeasedPass) : Prop where
  stored : pass.claimed = true → (rows.get? pass.workflow.requestId).isSome
  row : pass.claimed = true → pass.stamped = false → ∀ current, rows.get? pass.workflow.requestId = some current →
    current = pass.workflow ∨ pass.workflow.mergeRevision < current.mergeRevision
  incident : pass.rewritten = false → ∀ stored, incidents.get? pass.incident.incidentId = some stored →
    stored = pass.incident ∨ stored.workflowRequestId ≠ pass.incident.workflowRequestId

section Sound

variable {s : SharedStore} {pass next : LeasedPass} {rows : WorkflowTable} {incidents : IncidentTable}
  {workflow successor stamp : WorkflowRequest} {incident : IncidentRecord} {now : Time} {event : LeasedEvent}
  {leaseDuration : Int}

private theorem PassSound.of_read (hrow : rows.get? pass.workflow.requestId = some pass.workflow)
    (hincident : pass.rewritten = false → ∀ stored, incidents.get? pass.incident.incidentId = some stored →
      stored = pass.incident ∨ stored.workflowRequestId ≠ pass.incident.workflowRequestId) :
    PassSound rows incidents pass where
  stored _ := by rw [hrow]; rfl
  row _ _ _ hcurrent := .inl (Option.some.inj (hcurrent.symm.trans hrow))
  incident := hincident

/-- Another component writes a row, and an old one moves its revision. -/
private theorem PassSound.put (h : PassSound rows incidents pass)
    (hmoved : ∀ stored, rows.get? workflow.requestId = some stored → stored.mergeRevision < workflow.mergeRevision) :
    PassSound (rows.put workflow) incidents pass := by
  refine ⟨fun hclaimed => ?_, fun hclaimed hstamped current hcurrent => ?_, h.incident⟩
  · rw [Table.get?_put]
    split
    · rfl
    · exact h.stored hclaimed
  · rw [Table.get?_put] at hcurrent
    split at hcurrent
    · rename_i hsame
      cases hcurrent
      obtain ⟨stored, hstored⟩ := Option.isSome_iff_exists.mp (h.stored hclaimed)
      have hlt := hmoved stored (hsame ▸ hstored)
      right
      rcases h.row hclaimed hstamped stored hstored with rfl | hfresh
      · exact hlt
      · exact hfresh.trans hlt
    · exact h.row hclaimed hstamped current hcurrent

private theorem PassSound.noteStamp (h : PassSound rows incidents pass) (stamp : Option WorkflowRequest) :
    PassSound (stamp.elim rows rows.put) incidents (pass.noteStamp stamp) := by
  cases stamp with
  | none => exact ⟨h.stored, fun hclaimed hstamped => h.row hclaimed (Bool.or_eq_false_iff.mp hstamped).1, h.incident⟩
  | some stamp =>
    refine ⟨fun hclaimed => ?_, fun hclaimed hstamped current hcurrent => ?_, h.incident⟩
    · rw [Option.elim_some, Table.get?_put]
      split
      · rfl
      · exact h.stored hclaimed
    · obtain ⟨hunstamped, hother⟩ := Bool.or_eq_false_iff.mp hstamped
      have hne : pass.workflow.requestId ≠ stamp.requestId := by simpa using Ne.symm (by simpa using hother)
      refine h.row hclaimed hunstamped current ?_
      exact (Table.get?_put_ne hne).symm.trans hcurrent

/-- A change of its incident under the same pointer is recorded by the pass. -/
private theorem PassSound.noteIncident (h : PassSound rows incidents pass) (incident : IncidentRecord) :
    PassSound rows (incidents.put incident) (pass.noteIncident incident) := by
  unfold LeasedPass.noteIncident
  split
  · rename_i hsame
    refine ⟨h.stored, h.row, fun hrewritten stored hstored => ?_⟩
    dsimp only at hrewritten hstored ⊢
    rw [← hsame, Table.get?_put_self] at hstored
    cases hstored
    by_cases hequal : incident = pass.incident
    · exact .inl hequal
    · refine .inr fun hpointer => ?_
      simp [hequal, hpointer] at hrewritten
  · rename_i hother
    refine ⟨h.stored, h.row, fun hrewritten stored hstored => h.incident hrewritten stored ?_⟩
    have hsame : (incidents.put incident).get? pass.incident.incidentId = incidents.get? pass.incident.incidentId :=
      Table.get?_put_ne fun he => hother he.symm
    exact hsame.symm.trans hstored

private theorem stampedPredecessor_ne (h : stampedPredecessor rows successor now = some stamp) :
    stamp.requestId ≠ successor.requestId := by
  unfold stampedPredecessor at h
  split at h
  · cases h
  obtain ⟨predecessor, -, h⟩ := Option.bind_eq_some_iff.mp h
  unfold preemptionPendingUpdate at h
  split at h
  · cases h
  · rename_i hupdate
    cases h
    simp only [Bool.or_eq_true, beq_iff_eq, not_or] at hupdate
    exact hupdate.1.1.2

private theorem get?_stampPreemptionPending (rows : WorkflowTable) (workflow : WorkflowRequest) (now : Time) :
    (stampPreemptionPending (rows.put workflow) workflow now).get? workflow.requestId = some workflow := by
  unfold stampPreemptionPending
  cases hstamp : stampedPredecessor (rows.put workflow) workflow now with
  | none => exact Table.get?_put_self rows workflow
  | some stamp =>
    rw [Option.elim_some, Table.get?_put_ne (stampedPredecessor_ne hstamp).symm]
    exact Table.get?_put_self rows workflow

private theorem savedRows_some (h : s.savedRows pass workflow now = some rows) :
    rows.get? workflow.requestId = some workflow ∧ ∃ current, s.rows.get? workflow.requestId = some current ∧
      current.mergeRevision = workflow.mergeRevision := by
  obtain ⟨current, hcurrent, h⟩ := Option.bind_eq_some_iff.mp h
  split at h
  · rename_i hvalid
    cases h
    simp only [validLeasedSave, Bool.and_eq_true, beq_iff_eq] at hvalid
    exact ⟨get?_stampPreemptionPending s.rows workflow now, current, hcurrent, hvalid.2⟩
  · cases h

end Sound

def SharedStore.Sound (s : SharedStore) : Prop := ∀ pass, s.pass = some pass → PassSound s.rows s.incidents pass

section Steps

variable {s : SharedStore} {pass : LeasedPass} {workflow : WorkflowRequest} {incident : IncidentRecord} {now : Time}
  {leaseDuration : Int}

private theorem claimedPass_some (h : s.claimedPass = some pass) : s.pass = some pass ∧ pass.claimed = true :=
  Option.filter_eq_some_iff.mp h

private theorem SharedStore.Sound.of_some {rows : WorkflowTable} {incidents : IncidentTable}
    (h : PassSound rows incidents pass) :
    SharedStore.Sound { rows, incidents, pass := some pass } := by
  intro next hnext
  cases hnext
  exact h

private theorem SharedStore.Sound.of_none {rows : WorkflowTable} {incidents : IncidentTable} :
    SharedStore.Sound { rows, incidents, pass := none } := by
  intro next hnext
  cases hnext

private theorem sound_saveWorkflow (h : PassSound s.rows s.incidents pass) :
    (s.saveWorkflow pass workflow now).Sound := by
  unfold SharedStore.saveWorkflow
  split
  · exact .of_none
  · rename_i rows hsaved
    exact .of_some (.of_read (savedRows_some hsaved).1 h.incident)

private theorem sound_saveWorkflowAndIncident (h : PassSound s.rows s.incidents pass) :
    (s.saveWorkflowAndIncident pass workflow incident now).Sound := by
  unfold SharedStore.saveWorkflowAndIncident
  split
  · exact .of_none
  · rename_i rows hsaved
    dsimp only
    split
    · exact .of_some (.of_read (savedRows_some hsaved).1 h.incident)
    · refine .of_some (.of_read (savedRows_some hsaved).1 fun _ stored hstored => .inl ?_)
      exact Option.some.inj (hstored.symm.trans (Table.get?_put_self s.incidents incident))

private theorem sound_renewLease (h : PassSound s.rows s.incidents pass) :
    (s.renewLease pass now leaseDuration).Sound := by
  unfold SharedStore.renewLease
  split
  · exact .of_none
  rename_i current hcurrent
  have hkey : current.requestId = pass.workflow.requestId := Table.key_of_get? hcurrent
  split
  · split
    · exact .of_some (.of_read (Table.get?_put_self _ _) h.incident)
    · exact .of_some (.of_read (by rw [← hkey] at hcurrent; exact hcurrent) h.incident)
  · exact .of_none

private theorem sound_claim {ask : BudgetAsk} (h : PassSound s.rows s.incidents pass) :
    (s.claim pass now leaseDuration ask).Sound := by
  unfold SharedStore.claim
  split
  · rename_i rows claimed hclaim
    obtain ⟨-, -, rfl, -⟩ := claimForExecution_ok (s := { rows := s.rows }) hclaim
    exact .of_some (.of_read (Table.get?_put_self _ _) h.incident)
  · exact .of_none

private theorem SharedStore.Sound.storeMerged (h : s.Sound) {group : Option String} :
    (s.storeMerged group incident workflow now).Sound := by
  unfold SharedStore.storeMerged
  split
  · exact h
  dsimp only
  intro next hnext
  dsimp only at hnext
  obtain ⟨pass, hpass, rfl⟩ := Option.map_eq_some_iff.mp hnext
  refine PassSound.noteIncident (.noteStamp (.put (h pass hpass) fun stored hstored => ?_) _) incident
  split at hstored
  · rename_i hnone
    rw [hnone] at hstored
    cases hstored
  · rename_i found hfound
    cases hfound.symm.trans hstored
    exact Nat.lt_succ_self _

private theorem SharedStore.Sound.saveIncident (h : s.Sound) {expected : Option IncidentRecord} :
    (s.saveIncident incident expected).Sound := by
  unfold SharedStore.saveIncident
  split
  · exact h
  · intro next hnext
    obtain ⟨pass, hpass, rfl⟩ := Option.map_eq_some_iff.mp hnext
    exact (h pass hpass).noteIncident incident

private theorem SharedStore.Sound.amend (h : s.Sound) (amended : WorkflowRequest) :
    SharedStore.Sound { s with rows := amendWorkflow s.rows amended.requestId (fun _ => amended) now } := by
  intro pass hpass
  unfold amendWorkflow
  dsimp only
  split
  · exact h pass hpass
  · rename_i stored hstored
    refine (h pass hpass).put fun found hfound => ?_
    cases hstored.symm.trans hfound
    exact Nat.lt_succ_self _

private theorem claimedPass_elim {P : SharedStore → Prop} {f : LeasedPass → SharedStore} (hs : P s)
    (hf : ∀ pass, s.pass = some pass → pass.claimed = true → P (f pass)) : P (s.claimedPass.elim s f) := by
  cases hpass : s.claimedPass with
  | none => exact hs
  | some pass =>
    obtain ⟨hsome, hclaimed⟩ := claimedPass_some hpass
    exact hf pass hsome hclaimed

/-- Every event leaves a pass that knows its copies. -/
private theorem SharedStore.Sound.step (h : s.Sound) (event : LeasedEvent) : (leasedStep s event).Sound := by
  cases event with
  | read executorId requestId =>
    dsimp only [leasedStep]
    split
    · exact h
    split
    · exact h
    rename_i workflow hworkflow
    split
    · exact h
    · rename_i incident hincident
      refine .of_some (.of_read ?_ fun _ stored hstored => .inl ?_)
      · rw [← Table.key_of_get? hworkflow] at hworkflow
        exact hworkflow
      · dsimp only at hstored
        rw [Table.key_of_get? hincident] at hstored
        exact Option.some.inj (hstored.symm.trans hincident)
  | claim now leaseDuration ask =>
    dsimp only [leasedStep]
    split
    · rename_i pass hpass
      split
      · exact h
      · exact sound_claim (h pass hpass)
    · exact h
  | renew now leaseDuration => exact claimedPass_elim h fun pass hpass _ => sound_renewLease (h pass hpass)
  | save workflow now =>
    refine claimedPass_elim h fun pass hpass _ => ?_
    split
    · exact sound_saveWorkflow (h pass hpass)
    · exact h
  | lookAtIncident =>
    refine claimedPass_elim h fun pass hpass _ => ?_
    split
    · exact .of_none
    · exact .of_some ⟨(h pass hpass).stored, (h pass hpass).row, (h pass hpass).incident⟩
  | saveState workflow incident now =>
    refine claimedPass_elim h fun pass hpass _ => ?_
    split
    · split
      · exact h
      · exact sound_saveWorkflowAndIncident (h pass hpass)
      · exact sound_saveWorkflow (h pass hpass)
    · exact h
  | abort => exact .of_none
  | amend amended now => exact h.amend amended
  | merge group incident workflow now => exact h.storeMerged
  | saveIncident incident expected => exact h.saveIncident

/-! ### A save of the executor -/

private theorem saveWorkflow_keeps (h : PassSound s.rows s.incidents pass) (hclaimed : pass.claimed = true)
    (hstamped : pass.stamped = false) (hderives : pass.derives workflow = true) {rows : WorkflowTable}
    (hsaved : s.savedRows pass workflow now = some rows) {stored : WorkflowRequest}
    (hstored : s.rows.get? pass.workflow.requestId = some stored) : stored = pass.workflow := by
  obtain ⟨-, current, hcurrent, hrevision⟩ := savedRows_some hsaved
  simp only [LeasedPass.derives, Bool.and_eq_true, beq_iff_eq] at hderives
  obtain ⟨⟨⟨hid, -⟩, -⟩, hsame⟩ := hderives
  rw [hid] at hcurrent
  cases hcurrent.symm.trans hstored
  rcases h.row hclaimed hstamped stored hstored with he | hlt
  · exact he
  · omega

private theorem keepsStored_of_eq {ρ : Type} {read stored : ρ} {after : Option ρ} (h : stored = read) :
    KeepsStored read stored after :=
  .inr fun _ _ hne => absurd (by rw [h]) hne

private theorem saveWorkflow_undoesNothing (h : PassSound s.rows s.incidents pass) (hclaimed : pass.claimed = true)
    (hstamped : pass.stamped = false) (hderives : pass.derives workflow = true) :
    KeepsBoth pass s (s.saveWorkflow pass workflow now) := by
  unfold SharedStore.saveWorkflow
  cases hsaved : s.savedRows pass workflow now with
  | none => exact ⟨fun stored hstored => .inl hstored, fun stored hstored => .inl hstored⟩
  | some rows =>
    refine ⟨fun stored hstored => ?_, fun stored hstored => .inl hstored⟩
    exact keepsStored_of_eq (saveWorkflow_keeps h hclaimed hstamped hderives hsaved hstored)

private theorem saveWorkflowAndIncident_undoesNothing (h : PassSound s.rows s.incidents pass)
    (hclaimed : pass.claimed = true) (hstamped : pass.stamped = false) (hrewritten : pass.rewritten = false)
    (hderives : pass.derives workflow = true) (hincident : pass.derivesIncident incident = true) :
    KeepsBoth pass s (s.saveWorkflowAndIncident pass workflow incident now) := by
  unfold SharedStore.saveWorkflowAndIncident
  cases hsaved : s.savedRows pass workflow now with
  | none => exact ⟨fun stored hstored => .inl hstored, fun stored hstored => .inl hstored⟩
  | some rows =>
    have hrow : ∀ stored, s.rows.get? pass.workflow.requestId = some stored → stored = pass.workflow :=
      fun stored hstored => saveWorkflow_keeps h hclaimed hstamped hderives hsaved hstored
    simp only [LeasedPass.derivesIncident, Bool.and_eq_true, beq_iff_eq] at hincident
    obtain ⟨hid, hpointer⟩ := hincident
    dsimp only
    split
    · exact ⟨fun stored hstored => keepsStored_of_eq (hrow stored hstored), fun stored hstored => .inl hstored⟩
    · rename_i hmoved
      refine ⟨fun stored hstored => keepsStored_of_eq (hrow stored hstored), fun stored hstored => ?_⟩
      rcases h.incident hrewritten stored hstored with he | hne
      · exact keepsStored_of_eq he
      · refine absurd ?_ hmoved
        have hfound : s.incidents.get? incident.incidentId = some stored := by rw [hid]; exact hstored
        simp [incidentPointerMoved, hfound, hpointer, hne]

/-- In every run in which no save follows a write its guard cannot see, no save undoes what another component
wrote. -/
theorem leased_saves_undo_nothing {events : List LeasedEvent} {event : LeasedEvent} (hstart : s.pass = none)
    (h : Run.Along leasedStep Visible s (events ++ [event])) :
    UndoesNothing (Run.exec leasedStep s events) event := by
  have hsound : s.Sound := by
    intro pass hpass
    rw [hstart] at hpass
    cases hpass
  have hrun : (Run.exec leasedStep s events).Sound :=
    Run.invariant_exec (fun s event hs _ => hs.step event) hsound h.split.1
  have hvisible := h.split.2.1
  intro hsaves pass hpass
  generalize Run.exec leasedStep s events = t at hrun hvisible hpass ⊢
  have hunchanged : KeepsBoth pass t t := ⟨fun _ hstored => .inl hstored, fun _ hstored => .inl hstored⟩
  cases event with
  | save workflow now =>
    have hstamped := hvisible pass hpass
    refine claimedPass_elim (P := KeepsBoth pass t) hunchanged ?_
    intro held hheld hclaimed
    cases hheld.symm.trans hpass
    split
    · rename_i hderives
      exact saveWorkflow_undoesNothing (hrun pass hpass) hclaimed hstamped hderives
    · exact hunchanged
  | saveState workflow incident now =>
    obtain ⟨hstamped, hrewritten⟩ := hvisible pass hpass
    refine claimedPass_elim (P := KeepsBoth pass t) hunchanged ?_
    intro held hheld hclaimed
    cases hheld.symm.trans hpass
    split
    · rename_i hboth
      obtain ⟨hderives, hincident⟩ := Bool.and_eq_true_iff.mp hboth
      split
      · exact hunchanged
      · rename_i hwrites
        exact saveWorkflowAndIncident_undoesNothing (hrun pass hpass) hclaimed hstamped (hrewritten hwrites) hderives
          hincident
      · exact saveWorkflow_undoesNothing (hrun pass hpass) hclaimed hstamped hderives
    · exact hunchanged
  | _ => cases hsaves

end Steps

section LostUpdates

private def leasedRow : WorkflowRequest := { requestId := "w1", incidentId := "i1", status := .pending }

private def leasedIncident : IncidentRecord := { incidentId := "i1", workflowRequestId := some "w1" }

/-- A stronger plan of the same incident, which preempts the row. -/
private def preemptingRow : WorkflowRequest :=
  { requestId := "w2", incidentId := "i1", status := .pending, predecessorWorkflowId := some "w1",
    preemptPredecessor := true }

private def movedIncident : IncidentRecord := { leasedIncident with workflowRequestId := some "w2" }

private def notedIncident : IncidentRecord := { leasedIncident with reasons := ["provider event correlated"] }

private def leasedStart : SharedStore :=
  { rows := Table.empty.put leasedRow, incidents := Table.empty.put leasedIncident }

private def claimedRow : WorkflowRequest :=
  { leasedRow with
    status := .running, executionOwnerId := some "e1", executionEpoch := 1, executionLeaseExpiresAt := some 180 }

private def claimEvents : List LeasedEvent := [.read "e1" "w1", .claim 0 180 {}]

private def progressedRow : WorkflowRequest := { claimedRow with completedStepIndexes := [0] }

private def progressedIncident : IncidentRecord := { leasedIncident with state := .recovered }

/-- A successor is stored and stamps the row, and the next save of the executor takes the stamp off again; a reason
written on the incident is gone once the executor saves its copy. -/
theorem leased_save_undoes_stamp_and_reasons :
    ¬ UndoesNothing (Run.exec leasedStep leasedStart
      (claimEvents ++ [.merge (some "i1") movedIncident preemptingRow 1]))
        (.save progressedRow 2) ∧
      ¬ UndoesNothing (Run.exec leasedStep leasedStart
          (claimEvents ++ [.saveIncident notedIncident (some leasedIncident), .lookAtIncident]))
        (.saveState progressedRow progressedIncident 2) := by
  constructor
  · intro h
    have hpass : (Run.exec leasedStep leasedStart
        (claimEvents ++ [.merge (some "i1") movedIncident preemptingRow 1])).pass =
          some { executorId := "e1", workflow := claimedRow, incident := leasedIncident, claimed := true,
                 stamped := true } := by
      rfl
    rcases (h rfl _ hpass).row { claimedRow with preemptionPendingByWorkflowId := some "w2", updatedAt := 1 }
      (by rfl) with
      hkept | hkept
    · exact absurd hkept (by decide)
    · have hfield := hkept _ WorkflowRequest.preemptionPendingByWorkflowId (by decide)
      exact absurd hfield (by decide)
  · intro h
    have hpass : (Run.exec leasedStep leasedStart
        (claimEvents ++ [.saveIncident notedIncident (some leasedIncident), .lookAtIncident])).pass =
          some { executorId := "e1", workflow := claimedRow, incident := leasedIncident, claimed := true,
                 writesIncident := some true, rewritten := true } := by
      rfl
    rcases (h rfl _ hpass).incident notedIncident (by rfl) with hkept | hkept
    · exact absurd hkept (by decide)
    · have hfield := hkept _ IncidentRecord.reasons (by decide)
      exact absurd hfield (by decide)

private def stampedRow : WorkflowRequest :=
  { claimedRow with preemptionPendingByWorkflowId := some "w2", updatedAt := 1 }

/-- The successor is stored, the lease renewed, and the row saved without the incident. -/
theorem leased_saves_undo_nothing_renewed :
    UndoesNothing (Run.exec leasedStep leasedStart
        (claimEvents ++ [.merge (some "i1") movedIncident preemptingRow 1, .renew 1 180, .lookAtIncident]))
      (.saveState { stampedRow with completedStepIndexes := [0] } progressedIncident 2) := by
  refine leased_saves_undo_nothing rfl ⟨trivial, trivial, trivial, trivial, trivial, fun pass hpass => ?_, trivial⟩
  have hread : (Run.exec leasedStep leasedStart
      (claimEvents ++ [.merge (some "i1") movedIncident preemptingRow 1, .renew 1 180, .lookAtIncident])).pass =
        some { executorId := "e1", workflow := stampedRow, incident := leasedIncident, claimed := true,
               writesIncident := some false } := by
    rfl
  cases hread.symm.trans hpass
  exact ⟨rfl, fun h => absurd h (by decide)⟩

end LostUpdates

end GpuFaultRecovery
