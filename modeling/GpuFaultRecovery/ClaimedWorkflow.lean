import GpuFaultRecovery.ExecutorPass
import GpuFaultRecovery.RemediationBudget

/-!
# Claims of a workflow row

An executor reads a row, finds it executable and claims it; the claim compares the fencing token and the lease but not
the status. Leased saves need the epoch of the claim, and a row that ends gives its lease away, so a save never writes
on an ended row. A claim does, if the row ended after it was read.
-/

namespace GpuFaultRecovery

/-! ### The claim -/

/-- Keep the scopes a workflow holds and add `claims`; a hold is never refused. -/
def admitHeld (workflow : WorkflowRequest) (claims : List (String × Nat)) : WorkflowRequest :=
  let normalized := normalizedClaims claims
  let kept := workflow.remediationBudgetLimits.filter fun limit =>
    workflow.remediationBudgetClaims.contains limit.1 && !(normalized.map Prod.fst).contains limit.1
  { workflow with
    remediationBudgetClaims := sortedSet (workflow.remediationBudgetClaims ++ (kept ++ normalized).map Prod.fst)
    remediationBudgetLimits := kept ++ normalized
    remediationBudgetLastBlockedReason := none
    remediationBudgetLastBlockedScope := none }

/-- What an executor asks a row for: scopes of the remediation budget, held if its budgeted work has begun. -/
structure BudgetAsk where
  claims : List (String × Nat) := []
  hold : Bool := false
  storm : Option (String × String) := none
deriving Repr, DecidableEq

def BudgetAsk.admit (ask : BudgetAsk) (rows : WorkflowTable) (workflow : WorkflowRequest) :
    Except BudgetError WorkflowRequest :=
  if ask.hold then .ok (admitHeld workflow ask.claims) else applyRemediationBudget rows workflow ask.claims ask.storm

/-- `claim_workflow` as the executor calls it: the row is RUNNING once the budget admits it. -/
def claimForExecution (rows : WorkflowTable) (requestId executorId : String) (fencingToken : Nat) (now : Time)
    (leaseDuration : Int) (ask : BudgetAsk) : WorkflowTable × Except BudgetError WorkflowRequest :=
  match rows.get? requestId with
  | none => (rows, .error (.notFound requestId))
  | some workflow =>
    if workflow.fencingToken ≠ fencingToken then (rows, .error .staleFencingToken)
    else
      let active := leaseActive workflow now
      if workflow.executionOwnerId.isSome && workflow.executionOwnerId != some executorId && active then
        (rows, .error (.workflowLease "workflow is leased by another executor"))
      else
        match ask.admit rows workflow with
        | .error (.remediationBudget reason scope) =>
          (rows.put (refusedClaim workflow reason scope now), .error (.remediationBudget reason scope))
        | .error e => (rows, .error e)
        | .ok admitted =>
          let claimed := leasedClaim admitted executorId now leaseDuration active true
          (rows.put claimed, .ok claimed)

/-- Without a hold this is the claim of the budget's own model. -/
theorem claimForExecution_eq_claimWorkflow (rows : WorkflowTable) (claim : WorkflowClaim)
    (claims : List (String × Nat)) (hclaims : claim.budgetClaims = some claims) :
    claimForExecution rows claim.requestId claim.executorId claim.fencingToken claim.now claim.leaseDuration
      { claims, storm := claim.storm } = claimWorkflow rows claim := by
  unfold claimForExecution claimWorkflow
  rw [hclaims]
  rfl

/-! ### Leased saves -/

/-- The guard of a leased save: `validate_leased_workflow_save`. -/
def validLeasedSave (current workflow : WorkflowRequest) (executorId : String) (executionEpoch : Nat)
    (now : Time) : Bool :=
  holdsExecutionLease current executorId now && current.executionEpoch == executionEpoch &&
    workflow.executionEpoch == executionEpoch && current.fencingToken == workflow.fencingToken &&
    current.mergeRevision == workflow.mergeRevision

/-- The row `prepare_claimed_workflow` saves: RUNNING, with its deadline, and with what it takes over from the
predecessor. -/
def preparedRow (claimed : WorkflowRequest) (predecessor : Option WorkflowRequest) (deadline : Option Time)
    (now : Time) :
    WorkflowRequest :=
  adoptQuiesceHandoff { claimed with status := .running, executionDeadline := deadline, updatedAt := now }
    predecessor now

/-! ### Executors -/

/-- How far an executor is with a row, and the row as it holds it. -/
inductive ClaimPhase where
  | read (workflow : WorkflowRequest)
  | claimed (workflow : WorkflowRequest)
  | prepared (workflow : WorkflowRequest)

/-- The rows, and what each executor holds of each row. -/
structure ClaimStore where
  rows : WorkflowTable
  passes : String → String → Option ClaimPhase := fun _ _ => none

inductive ClaimEvent where
  | create (workflow : WorkflowRequest)
  | read (executorId requestId : String)
  | claim (executorId requestId : String) (now : Time) (leaseDuration : Int) (ask : BudgetAsk)
  | prepare (executorId requestId : String) (predecessor : Option WorkflowRequest) (deadline : Option Time)
      (now : Time)
  | renew (executorId requestId : String) (now : Time) (leaseDuration : Int)
  | save (executorId requestId : String) (workflow : WorkflowRequest) (now : Time)
  | finish (executorId requestId : String) (write : RowEnding)
  | supersede (executorId requestId successorId : String) (reason : Option String) (now : Time)
  | release (executorId : String) (scanned : WorkflowRequest) (now : Time) (backoff : Int)
  | abort (executorId requestId : String)

namespace ClaimStore

def setPass (s : ClaimStore) (executorId requestId : String) (pass : Option ClaimPhase) : ClaimStore :=
  { s with passes := fun e r => if e = executorId ∧ r = requestId then pass else s.passes e r }

/-- Save `workflow` under the lease of the pass; a refused save ends the pass. -/
def saveLeased (s : ClaimStore) (executorId requestId : String) (executionEpoch : Nat) (workflow : WorkflowRequest)
    (now : Time) (next : Option ClaimPhase) : ClaimStore :=
  match s.rows.get? requestId with
  | none => s.setPass executorId requestId none
  | some current =>
    if validLeasedSave current workflow executorId executionEpoch now then
      { s with rows := s.rows.put workflow }.setPass executorId requestId next
    else s.setPass executorId requestId none

def preparedBy (s : ClaimStore) (executorId requestId : String) : Option WorkflowRequest :=
  match s.passes executorId requestId with
  | some (.prepared workflow) => some workflow
  | _ => none

/-- Whether `workflow` is `held` with progress on it: the same row, lease and revision, still executable. -/
def progresses (held workflow : WorkflowRequest) : Bool :=
  workflow.requestId == held.requestId && workflow.executionOwnerId == held.executionOwnerId &&
    workflow.executionEpoch == held.executionEpoch && workflow.status.executable

/-- `renew_workflow_lease`: the row as it is stored now, its lease extended. -/
def renewed (s : ClaimStore) (executorId requestId : String) (held : WorkflowRequest) (now : Time)
    (leaseDuration : Int) :
    ClaimStore :=
  match s.rows.get? requestId with
  | none => s.setPass executorId requestId none
  | some current =>
    if holdsExecutionLease current executorId now && current.executionEpoch == held.executionEpoch then
      let extended := { current with executionLeaseExpiresAt := some (now + leaseDuration) }
      { s with rows := s.rows.put extended }.setPass executorId requestId (some (.prepared extended))
    else s.setPass executorId requestId none

end ClaimStore

/-- One event. An executor has one pass over a row at a time: its lock is per row. -/
def claimStep (s : ClaimStore) : ClaimEvent → ClaimStore
  | .create workflow => if (s.rows.get? workflow.requestId).isSome then s else { s with rows := s.rows.put workflow }
  | .read executorId requestId =>
    if (s.passes executorId requestId).isSome then s
    else
      match s.rows.get? requestId with
      | none => s
      | some workflow =>
        if workflow.status.executable then s.setPass executorId requestId (some (.read workflow)) else s
  | .claim executorId requestId now leaseDuration ask =>
    match s.passes executorId requestId with
    | some (.read workflow) =>
      match claimForExecution s.rows requestId executorId workflow.fencingToken now leaseDuration ask with
      | (rows, .ok claimed) => { s with rows }.setPass executorId requestId (some (.claimed claimed))
      | (rows, .error _) => { s with rows }.setPass executorId requestId none
    | _ => s
  | .prepare executorId requestId predecessor deadline now =>
    match s.passes executorId requestId with
    | some (.claimed workflow) =>
      s.saveLeased executorId requestId workflow.executionEpoch (preparedRow workflow predecessor deadline now) now
        (some (.prepared (preparedRow workflow predecessor deadline now)))
    | _ => s
  | .renew executorId requestId now leaseDuration =>
    (s.preparedBy executorId requestId).elim s fun held => s.renewed executorId requestId held now leaseDuration
  | .save executorId requestId workflow now =>
    (s.preparedBy executorId requestId).elim s fun held =>
      if ClaimStore.progresses held workflow then
        s.saveLeased executorId requestId held.executionEpoch workflow now (some (.prepared workflow))
      else s
  | .finish executorId requestId write =>
    (s.preparedBy executorId requestId).elim s fun held =>
      if write.status.terminal then
        s.saveLeased executorId requestId held.executionEpoch (endRow held write) write.now none
      else s
  | .supersede executorId requestId successorId reason now =>
    (s.preparedBy executorId requestId).elim s fun held =>
      s.saveLeased executorId requestId held.executionEpoch (supersedeRow held successorId reason now) now none
  | .release executorId scanned now backoff =>
    { s with rows := releaseAfterInternalError s.rows scanned executorId now backoff }.setPass executorId
      scanned.requestId
      none
  | .abort executorId requestId => s.setPass executorId requestId none

/-! ### What a pass knows of its row -/

def ClaimPhase.taken? : ClaimPhase → Option WorkflowRequest
  | .read _ => none
  | .claimed workflow => some workflow
  | .prepared workflow => some workflow

/-- A row an executor took: as long as the store still has its lease and epoch on it, the row has not ended. -/
structure TakenRow (rows : WorkflowTable) (executorId requestId : String) (workflow : WorkflowRequest) : Prop where
  named : workflow.requestId = requestId
  owner : workflow.executionOwnerId = some executorId
  stored : ∃ current, rows.get? requestId = some current ∧ workflow.executionEpoch ≤ current.executionEpoch ∧
    (current.executionOwnerId = some executorId → current.executionEpoch = workflow.executionEpoch →
      current.status.executable = true)

/-- Every pass knows its row. -/
def LeaseSound (s : ClaimStore) : Prop :=
  ∀ executorId requestId phase workflow, s.passes executorId requestId = some phase → phase.taken? = some workflow →
    TakenRow s.rows executorId requestId workflow

/-- The pass goes on with the row it has written, under its own lease and still executable. -/
def GoesOnWith (executorId : String) (written : WorkflowRequest) (next : Option ClaimPhase) : Prop :=
  ∀ phase, next = some phase → phase.taken? = some written ∧ written.executionOwnerId = some executorId ∧
    written.status.executable = true

/-- What a write of one executor can do to a row: its id stays, its epoch does not fall, and it is left to that
executor or to nobody. -/
structure WrittenBy (executorId : String) (current workflow : WorkflowRequest) : Prop where
  requestId : workflow.requestId = current.requestId
  epoch : current.executionEpoch ≤ workflow.executionEpoch
  owner : workflow.executionOwnerId = some executorId ∨ workflow.executionOwnerId = none

section Lease

variable {s : ClaimStore} {executorId requestId : String} {current workflow : WorkflowRequest} {now : Time}
  {epoch : Nat}
  {next : Option ClaimPhase} {rows : WorkflowTable}

private theorem passes_setPass (pass : Option ClaimPhase) (e r : String) :
    (s.setPass executorId requestId pass).passes e r =
      if e = executorId ∧ r = requestId then pass else s.passes e r := rfl

/-- A write of another executor, or on another row, leaves what a pass knows. -/
private theorem TakenRow.put {e r : String} (h : TakenRow rows e r workflow) {written : WorkflowRequest}
    (hstored : rows.get? requestId = some current) (hwritten : WrittenBy executorId current written)
    (hother : ¬(e = executorId ∧ r = requestId)) : TakenRow (rows.put written) e r workflow := by
  obtain ⟨stored, hget, hepoch, hlive⟩ := h.stored
  have hkey : written.requestId = requestId := hwritten.requestId.trans (Table.key_of_get? hstored)
  refine ⟨h.named, h.owner, ?_⟩
  by_cases hr : r = requestId
  · subst hr
    cases hget.symm.trans hstored
    refine ⟨written, ?_, hepoch.trans hwritten.epoch, fun howner => ?_⟩
    · rw [Table.get?_put, if_pos hkey.symm]
    · -- the row is left to the writer or to nobody, not to this executor
      rcases hwritten.owner with hown | hown
      · rw [hown] at howner
        exact absurd ⟨(Option.some.inj howner).symm, rfl⟩ hother
      · rw [hown] at howner
        cases howner
  · refine ⟨stored, ?_, hepoch, hlive⟩
    rw [Table.get?_put_ne (by rw [hkey]; exact hr)]
    exact hget

private theorem LeaseSound.setPass
    (h : ∀ e r phase workflow, ¬(e = executorId ∧ r = requestId) → s.passes e r = some phase →
      phase.taken? = some workflow → TakenRow s.rows e r workflow)
    (hnext : ∀ phase workflow, next = some phase → phase.taken? = some workflow →
      TakenRow s.rows executorId requestId workflow) : LeaseSound (s.setPass executorId requestId next) := by
  intro e r phase workflow hpass htaken
  rw [passes_setPass] at hpass
  by_cases hsame : e = executorId ∧ r = requestId
  · rw [if_pos hsame] at hpass
    rw [hsame.1, hsame.2]
    exact hnext phase workflow hpass htaken
  · rw [if_neg hsame] at hpass
    exact h e r phase workflow hsame hpass htaken

private theorem LeaseSound.write (h : LeaseSound s) (hstored : s.rows.get? requestId = some current)
    (hwritten : WrittenBy executorId current workflow) (hnext : GoesOnWith executorId workflow next) :
    LeaseSound ({ s with rows := s.rows.put workflow }.setPass executorId requestId next) := by
  have hkey : workflow.requestId = requestId := hwritten.requestId.trans (Table.key_of_get? hstored)
  refine .setPass (fun e r phase taken hother hpass htaken => ?_) fun phase taken hpass htaken => ?_
  · exact (h e r phase taken hpass htaken).put hstored hwritten hother
  · obtain ⟨hphase, howner, hexecutable⟩ := hnext phase hpass
    obtain rfl := Option.some.inj (hphase.symm.trans htaken)
    refine ⟨hkey, howner, workflow, ?_, le_rfl, fun _ _ => hexecutable⟩
    rw [Table.get?_put, if_pos hkey.symm]

/-- A leased save writes on the row of its own lease, and that row has not ended. -/
theorem validLeasedSave_eq (h : validLeasedSave current workflow executorId epoch now = true) :
    current.executionOwnerId = some executorId ∧ current.executionEpoch = epoch ∧
      workflow.executionEpoch = epoch := by
  simp only [validLeasedSave, holdsExecutionLease, Bool.and_eq_true, beq_iff_eq] at h
  exact ⟨h.1.1.1.1.1, h.1.1.1.2, h.1.1.2⟩

/-- What a claim that goes through writes. -/
theorem claimForExecution_ok {token : Nat} {leaseDuration : Int} {ask : BudgetAsk} {claimed : WorkflowRequest}
    (h : claimForExecution s.rows requestId executorId token now leaseDuration ask = (rows, .ok claimed)) :
    ∃ current, s.rows.get? requestId = some current ∧ rows = s.rows.put claimed ∧
      WrittenBy executorId current claimed ∧
      claimed.executionOwnerId = some executorId ∧ claimed.status = .running := by
  unfold claimForExecution at h
  split at h
  · cases h
  rename_i current hstored
  split at h
  · cases h
  dsimp only at h
  split at h
  · cases h
  split at h
  · cases h
  · cases h
  · rename_i admitted hadmitted
    cases h
    have hkept : admitted.requestId = current.requestId ∧ admitted.executionEpoch = current.executionEpoch := by
      unfold BudgetAsk.admit at hadmitted
      split at hadmitted
      · cases hadmitted
        exact ⟨rfl, rfl⟩
      · unfold applyRemediationBudget at hadmitted
        split at hadmitted
        · cases hadmitted
        · rename_i admitted' hagainst
          split at hadmitted
          · cases hadmitted
            unfold admitAgainstOccupancy at hagainst
            dsimp only at hagainst
            split at hagainst
            · cases hagainst
            · cases hagainst
              exact ⟨rfl, rfl⟩
          · cases hadmitted
    refine ⟨current, hstored, rfl, ⟨hkept.1, ?_, .inl rfl⟩, rfl, rfl⟩
    unfold leasedClaim
    dsimp only
    split <;> omega

/-- What a refused claim writes: nothing, or the row with its lease given up. -/
private theorem claimForExecution_refused {token : Nat} {leaseDuration : Int} {ask : BudgetAsk} {error : BudgetError}
    (h : claimForExecution s.rows requestId executorId token now leaseDuration ask = (rows, .error error)) :
    rows = s.rows ∨ ∃ current reason scope, s.rows.get? requestId = some current ∧
      rows = s.rows.put (refusedClaim current reason scope now) := by
  unfold claimForExecution at h
  split at h
  · cases h
    exact .inl rfl
  rename_i current hstored
  split at h
  · cases h
    exact .inl rfl
  dsimp only at h
  split at h
  · cases h
    exact .inl rfl
  split at h
  · cases h
    exact .inr ⟨current, _, _, hstored, rfl⟩
  · cases h
    exact .inl rfl
  · cases h

/-- What a release writes: nothing, or an executable row with its steps as they were. A row without an owner is leased
for the release alone. -/
private theorem releaseAfterInternalError_eq (scanned : WorkflowRequest) (backoff : Int) :
    releaseAfterInternalError rows scanned executorId now backoff = rows ∨
      ∃ current released, rows.get? scanned.requestId = some current ∧ current.status.executable = true ∧
        releaseAfterInternalError rows scanned executorId now backoff = rows.put released ∧
        WrittenBy executorId current released ∧
        (current.executionOwnerId = none → released.executionOwnerId = none) ∧
        released.completedStepIndexes = current.completedStepIndexes ∧
        released.stepExecutions = current.stepExecutions := by
  unfold releaseAfterInternalError
  split
  · exact .inl rfl
  rename_i current hstored
  split
  · exact .inl rfl
  rename_i howner
  split
  · exact .inl rfl
  rename_i hexecutable
  right
  have hopen : current.status.executable = true := by simpa using hexecutable
  dsimp only
  cases howned : current.executionOwnerId with
  | none =>
    have hlease : holdsExecutionLease (leasedClaim current executorId now 30000000 (leaseActive current now) false)
        executorId now = true := by
      simp [holdsExecutionLease, leasedClaim, leaseActive, Time]
    have hepoch : current.executionEpoch ≤
        (leasedClaim current executorId now 30000000 (leaseActive current now) false).executionEpoch := by
      unfold leasedClaim
      dsimp only
      split <;> omega
    simp only [Option.isNone_none, if_true, hlease]
    exact ⟨current, _, hstored, hopen, rfl, ⟨rfl, hepoch, .inr rfl⟩, fun _ => rfl, rfl, rfl⟩
  | some owner =>
    have hmine : current.executionOwnerId = some executorId := by simpa [howned] using howner
    simp only [Option.isNone_some, Bool.false_eq_true, if_false]
    split
    · exact ⟨current, _, hstored, hopen, rfl, ⟨rfl, le_rfl, .inr rfl⟩, fun _ => rfl, rfl, rfl⟩
    · refine ⟨current, _, hstored, hopen, rfl, ⟨rfl, le_rfl, .inl hmine⟩, fun hnone => ?_, rfl, rfl⟩
      exact hnone

private theorem preparedBy_eq (h : s.preparedBy executorId requestId = some workflow) :
    s.passes executorId requestId = some (.prepared workflow) := by
  unfold ClaimStore.preparedBy at h
  split at h
  · rename_i held hpass
    cases h
    exact hpass
  · cases h

private theorem preparedRow_lease (predecessor : Option WorkflowRequest) (deadline : Option Time) :
    (preparedRow workflow predecessor deadline now).requestId = workflow.requestId ∧
      (preparedRow workflow predecessor deadline now).executionOwnerId = workflow.executionOwnerId ∧
      (preparedRow workflow predecessor deadline now).status = .running := by
  unfold preparedRow adoptQuiesceHandoff
  split
  · exact ⟨rfl, rfl, rfl⟩
  · split <;> exact ⟨rfl, rfl, rfl⟩

end Lease

/-! ### Reopened rows -/

/-- The event turns a row that had ended back into one that runs. -/
def Reopens (s : ClaimStore) (event : ClaimEvent) : Prop :=
  ∃ requestId current workflow, s.rows.get? requestId = some current ∧ current.status.terminal = true ∧
    (claimStep s event).rows.get? requestId = some workflow ∧ workflow.status = .running

def ClaimStore.rowOpen (s : ClaimStore) (requestId : String) : Bool :=
  (s.rows.get? requestId).any fun row => row.status.executable

/-- The event ends the row: it was executable before and is not afterwards. -/
def EndsRow (requestId : String) (s : ClaimStore) (event : ClaimEvent) : Prop :=
  s.rowOpen requestId = true ∧ (claimStep s event).rowOpen requestId = false

instance (requestId : String) (s : ClaimStore) (event : ClaimEvent) : Decidable (EndsRow requestId s event) :=
  inferInstanceAs (Decidable (_ ∧ _))

namespace ClaimEvent

def claims (executorId requestId : String) : ClaimEvent → Bool
  | .claim e r _ _ _ => e == executorId && r == requestId
  | _ => false

def drops (executorId requestId : String) : ClaimEvent → Bool
  | .release e scanned _ _ => e == executorId && scanned.requestId == requestId
  | .abort e r => e == executorId && r == requestId
  | _ => false

end ClaimEvent

/-- The events before the claim of a pass; none if the pass is given up or never claims. -/
def untilClaim (executorId requestId : String) : List ClaimEvent → Option (List ClaimEvent)
  | [] => none
  | event :: later =>
    if event.claims executorId requestId then some []
    else if event.drops executorId requestId then none
    else (untilClaim executorId requestId later).map (event :: ·)

/-- Nobody ends the row before the pass claims it. -/
def NotEndedBefore (executorId requestId : String) (s : ClaimStore) (later : List ClaimEvent) : Prop :=
  ∀ between ∈ untilClaim executorId requestId later,
    Run.Along claimStep (fun s event => ¬ EndsRow requestId s event) s between

instance (executorId requestId : String) (s : ClaimStore) (later : List ClaimEvent) :
    Decidable (NotEndedBefore executorId requestId s later) :=
  inferInstanceAs (Decidable (∀ _ ∈ untilClaim executorId requestId later, _))

/-- If the event is a read that starts a pass, nobody ends the row before the claim of that pass. -/
def ReadInTime (s : ClaimStore) (later : List ClaimEvent) : ClaimEvent → Prop
  | .read executorId requestId => (s.passes executorId requestId).isNone = true →
    NotEndedBefore executorId requestId (claimStep s (.read executorId requestId)) later
  | _ => True

instance (s : ClaimStore) (later : List ClaimEvent) (event : ClaimEvent) : Decidable (ReadInTime s later event) :=
  match event with
  | .read _ _ => inferInstanceAs (Decidable (_ → _))
  | .create _ | .claim .. | .prepare .. | .renew .. | .save .. | .finish .. | .supersede .. | .release
    .. | .abort .. =>
    isTrue trivial

/-- No row ends between a read of it and the claim of the pass that read it. -/
def ClaimsInTime : ClaimStore → List ClaimEvent → Prop
  | _, [] => True
  | s, event :: later => ReadInTime s later event ∧ ClaimsInTime (claimStep s event) later

instance ClaimsInTime.decidable : ∀ s events, Decidable (ClaimsInTime s events)
  | _, [] => isTrue trivial
  | s, event :: later => @instDecidableAnd _ _ _ (ClaimsInTime.decidable (claimStep s event) later)

section Run

variable {s : ClaimStore} {executorId requestId : String} {workflow current : WorkflowRequest} {now : Time}
  {epoch : Nat}
  {next : Option ClaimPhase} {event : ClaimEvent}

private theorem LeaseSound.taken (h : LeaseSound s) {phase : ClaimPhase}
    (hpass : s.passes executorId requestId = some phase)
    (htaken : phase.taken? = some workflow) : TakenRow s.rows executorId requestId workflow :=
  h executorId requestId phase workflow hpass htaken

/-- What lets an executor write a row: a claim that goes through or is refused, its lease on a row that has not ended,
or the release of such a row. -/
inductive WriteReason (s : ClaimStore) (executorId requestId : String) (current written : WorkflowRequest) :
    ClaimEvent → Prop
  | granted (scanned : WorkflowRequest) (now : Time) (leaseDuration : Int) (ask : BudgetAsk)
      (hpass : s.passes executorId requestId = some (.read scanned))
      (hclaim : (claimForExecution s.rows requestId executorId scanned.fencingToken now leaseDuration
        ask).2.toOption.isSome = true) :
      WriteReason s executorId requestId current written (.claim executorId requestId now leaseDuration ask)
  | refused (event : ClaimEvent) (reason scope : String) (now : Time)
      (hrefused : written = refusedClaim current reason scope now) :
      WriteReason s executorId requestId current written event
  | leased (event : ClaimEvent) (howner : current.executionOwnerId = some executorId)
      (hopen : current.status.executable = true) : WriteReason s executorId requestId current written event
  | released (event : ClaimEvent) (hopen : current.status.executable = true)
      (howner : current.executionOwnerId = none → written.executionOwnerId = none)
      (hcompleted : written.completedStepIndexes = current.completedStepIndexes)
      (hexecutions : written.stepExecutions = current.stepExecutions) :
      WriteReason s executorId requestId current written event

/-- What an event can do while every pass knows its row. -/
inductive ClaimMove (s : ClaimStore) (event : ClaimEvent) : ClaimStore → Prop
  | idle : ClaimMove s event s
  | created (workflow : WorkflowRequest) (habsent : s.rows.get? workflow.requestId = none) :
      ClaimMove s event { s with rows := s.rows.put workflow }
  | passes (executorId requestId : String) (next : Option ClaimPhase)
      (hnext : ∀ phase, next = some phase → (∃ scanned, phase = .read scanned) ∧ event = .read executorId requestId ∧
        (s.passes executorId requestId).isNone = true ∧ s.rowOpen requestId = true) :
      ClaimMove s event (s.setPass executorId requestId next)
  | writes (executorId requestId : String) (current written : WorkflowRequest) (next : Option ClaimPhase)
      (hstored : s.rows.get? requestId = some current) (hwritten : WrittenBy executorId current written)
      (hnext : GoesOnWith executorId written next)
      (hreason : WriteReason s executorId requestId current written event) :
      ClaimMove s event ({ s with rows := s.rows.put written }.setPass executorId requestId next)

private theorem ClaimMove.drops (s : ClaimStore) (event : ClaimEvent) (executorId requestId : String) :
    ClaimMove s event (s.setPass executorId requestId none) :=
  .passes executorId requestId none fun phase hphase => by cases hphase

private theorem goesOnWith_none : GoesOnWith executorId workflow none := by
  intro phase hphase
  cases hphase

/-- A leased save finds its row as the pass took it, or ends the pass. -/
private theorem TakenRow.saveLeased {held : WorkflowRequest} (h : TakenRow s.rows executorId requestId held)
    (hkey : workflow.requestId = requestId)
    (howner : workflow.executionOwnerId = some executorId ∨ workflow.executionOwnerId = none)
    (hnext : GoesOnWith executorId workflow next) :
    ClaimMove s event (s.saveLeased executorId requestId held.executionEpoch workflow now next) := by
  unfold ClaimStore.saveLeased
  split
  · exact .drops s event executorId requestId
  · rename_i current hstored
    split
    · rename_i hvalid
      obtain ⟨hmine, hcurrent, hsaved⟩ := validLeasedSave_eq hvalid
      have hid : workflow.requestId = current.requestId := hkey.trans (Table.key_of_get? hstored).symm
      obtain ⟨stored, hget, -, hlive⟩ := h.stored
      cases hget.symm.trans hstored
      have hreason : WriteReason s executorId requestId current workflow event :=
        .leased event hmine (hlive hmine hcurrent)
      exact .writes executorId requestId current workflow next hstored ⟨hid, by omega, howner⟩ hnext hreason
    · exact .drops s event executorId requestId

private theorem TakenRow.renewed {held : WorkflowRequest} (h : TakenRow s.rows executorId requestId held)
    (leaseDuration : Int) :
    ClaimMove s event (s.renewed executorId requestId held now leaseDuration) := by
  unfold ClaimStore.renewed
  split
  · exact .drops s event executorId requestId
  · rename_i current hstored
    split
    · rename_i hlease
      simp only [holdsExecutionLease, Bool.and_eq_true, beq_iff_eq] at hlease
      obtain ⟨stored, hget, -, hlive⟩ := h.stored
      cases hget.symm.trans hstored
      have hopen := hlive hlease.1.1 hlease.2
      refine .writes executorId requestId current _ _ hstored ⟨rfl, le_rfl, .inl hlease.1.1⟩ ?_
        (.leased event hlease.1.1 hopen)
      intro phase hnext
      cases hnext
      exact ⟨rfl, hlease.1.1, hopen⟩
    · exact .drops s event executorId requestId

/-- An event of a prepared pass acts on the row that the pass took, or not at all. -/
private theorem LeaseSound.ofPrepared (h : LeaseSound s) {act : WorkflowRequest → ClaimStore}
    (hact : ∀ held, TakenRow s.rows executorId requestId held → ClaimMove s event (act held)) :
    ClaimMove s event ((s.preparedBy executorId requestId).elim s act) := by
  cases hheld : s.preparedBy executorId requestId with
  | none => exact .idle
  | some held => exact hact held (h.taken (preparedBy_eq hheld) rfl)

theorem claimStep_move (h : LeaseSound s) (event : ClaimEvent) : ClaimMove s event (claimStep s event) := by
  cases event with
  | create created =>
    simp only [claimStep]
    split
    · exact .idle
    · rename_i habsent
      exact .created created (by simpa using habsent)
  | read executorId requestId =>
    simp only [claimStep]
    split
    · exact .idle
    rename_i hnone
    split
    · exact .idle
    rename_i scanned hstored
    split
    · rename_i hopen
      refine .passes executorId requestId _ fun phase hnext => ?_
      cases hnext
      exact ⟨⟨scanned, rfl⟩, rfl, by simpa using hnone, by simpa [ClaimStore.rowOpen, hstored] using hopen⟩
    · exact .idle
  | claim executorId requestId now leaseDuration ask =>
    simp only [claimStep]
    split
    · rename_i scanned hpass
      split
      · rename_i rows claimed hclaim
        obtain ⟨current, hstored, rfl, hwritten, howner, hrunning⟩ := claimForExecution_ok hclaim
        refine .writes executorId requestId current claimed _ hstored hwritten ?_
          (.granted scanned now leaseDuration ask hpass (by rw [hclaim]; rfl))
        intro phase hnext
        cases hnext
        exact ⟨rfl, howner, by rw [hrunning]; rfl⟩
      · rename_i rows error hclaim
        rcases claimForExecution_refused hclaim with rfl | ⟨current, reason, scope, hstored, rfl⟩
        · exact .drops s _ executorId requestId
        · exact .writes executorId requestId current _ none hstored ⟨rfl, le_rfl, .inr rfl⟩ goesOnWith_none
            (.refused _ reason scope now rfl)
    · exact .idle
  | prepare executorId requestId predecessor deadline now =>
    simp only [claimStep]
    split
    · rename_i held hpass
      have htaken := h.taken hpass rfl
      obtain ⟨hid, howner, hrunning⟩ := @preparedRow_lease held now predecessor deadline
      refine htaken.saveLeased (hid.trans htaken.named) (.inl (howner.trans htaken.owner)) fun phase hnext => ?_
      cases hnext
      exact ⟨rfl, howner.trans htaken.owner, by rw [hrunning]; rfl⟩
    · exact .idle
  | renew executorId requestId now leaseDuration =>
    exact h.ofPrepared fun held htaken => htaken.renewed leaseDuration
  | save executorId requestId workflow now =>
    refine h.ofPrepared fun held htaken => ?_
    split
    · rename_i hprogress
      simp only [ClaimStore.progresses, Bool.and_eq_true, beq_iff_eq] at hprogress
      have howner := hprogress.1.1.2.trans htaken.owner
      refine htaken.saveLeased (hprogress.1.1.1.trans htaken.named) (.inl howner) fun phase hnext => ?_
      cases hnext
      exact ⟨rfl, howner, hprogress.2⟩
    · exact .idle
  | finish executorId requestId write =>
    refine h.ofPrepared fun held htaken => ?_
    split
    · exact htaken.saveLeased htaken.named (.inr rfl) goesOnWith_none
    · exact .idle
  | supersede executorId requestId successorId reason now =>
    exact h.ofPrepared fun held htaken => htaken.saveLeased htaken.named (.inr rfl) goesOnWith_none
  | release executorId scanned now backoff =>
    simp only [claimStep]
    rcases @releaseAfterInternalError_eq executorId now s.rows scanned backoff with
      hsame | ⟨current, released, hstored, hopen, hput, hwritten, howner, hcompleted, hexecutions⟩
    · rw [hsame]
      exact .drops s _ executorId scanned.requestId
    · rw [hput]
      exact .writes executorId scanned.requestId current released none hstored hwritten goesOnWith_none
        (.released _ hopen howner hcompleted hexecutions)
  | abort executorId requestId => exact .drops s _ executorId requestId

/-- Every event keeps what the passes know. -/
theorem LeaseSound.step (h : LeaseSound s) (event : ClaimEvent) : LeaseSound (claimStep s event) := by
  have hmove := claimStep_move h event
  generalize claimStep s event = after at hmove
  cases hmove with
  | idle => exact h
  | created workflow habsent =>
    intro e r phase held hpass htaken
    obtain ⟨hnamed, howner, stored, hget, hepoch, hlive⟩ := h e r phase held hpass htaken
    refine ⟨hnamed, howner, stored, ?_, hepoch, hlive⟩
    rw [Table.get?_put_ne]
    · exact hget
    · rintro rfl
      cases habsent.symm.trans hget
  | passes executorId requestId next hnext =>
    refine .setPass (fun e r phase held _ => h e r phase held) fun phase held hphase htaken => ?_
    obtain ⟨⟨scanned, rfl⟩, -⟩ := hnext phase hphase
    cases htaken
  | writes executorId requestId current written next hstored hwritten hnext => exact h.write hstored hwritten hnext

private theorem status_of_put {rows : WorkflowTable} {other : String} {ended row written : WorkflowRequest}
    (hended : rows.get? other = some ended) (hstored : rows.get? requestId = some current)
    (hid : written.requestId = current.requestId) (hrow : (rows.put written).get? other = some row)
    (hcase : current = ended → written.status = ended.status) : row.status = ended.status := by
  have hkey : written.requestId = requestId := hid.trans (Table.key_of_get? hstored)
  by_cases hother : other = requestId
  · subst hother
    rw [Table.get?_put, if_pos hkey.symm] at hrow
    rw [← Option.some.inj hrow]
    exact hcase (Option.some.inj (hstored.symm.trans hended))
  · rw [Table.get?_put_ne (by rw [hkey]; exact hother)] at hrow
    rw [Option.some.inj (hrow.symm.trans hended)]

/-- A row that has ended keeps its status, if a claim finds its row open. -/
private theorem LeaseSound.ended_stays (h : LeaseSound s)
    (hopen : ∀ executorId requestId scanned, event.claims executorId requestId = true →
      s.passes executorId requestId = some (.read scanned) → s.rowOpen requestId = true) {other : String}
    {ended row : WorkflowRequest} (hended : s.rows.get? other = some ended) (hterminal : ended.status.terminal = true)
    (hrow : (claimStep s event).rows.get? other = some row) : row.status = ended.status := by
  have hnot : ended.status.executable ≠ true := by
    cases hstatus : ended.status <;> rw [hstatus] at hterminal <;> first | decide | cases hterminal
  have hsame : s.rows.get? other = some row → row.status = ended.status := by
    intro hget
    rw [Option.some.inj (hget.symm.trans hended)]
  have hmove := claimStep_move h event
  generalize claimStep s event = after at hmove hrow
  cases hmove with
  | idle => exact hsame hrow
  | passes => exact hsame hrow
  | created workflow habsent =>
    change (s.rows.put workflow).get? other = some row at hrow
    rw [Table.get?_put_ne] at hrow
    · exact hsame hrow
    · rintro rfl
      cases habsent.symm.trans hended
  | writes executorId requestId current written next hstored hwritten hnext hreason =>
    refine status_of_put hended hstored hwritten.requestId hrow fun he => ?_
    subst he
    cases hreason with
    | granted scanned now leaseDuration ask hpass _ =>
      have hrow := hopen executorId requestId scanned (by simp [ClaimEvent.claims]) hpass
      simp only [ClaimStore.rowOpen, hstored, Option.any_some] at hrow
      exact absurd hrow hnot
    | refused _ reason scope now hrefused =>
      rw [hrefused]
      rfl
    | leased _ _ hopen => exact absurd hopen hnot
    | released _ hopen => exact absurd hopen hnot

private theorem passes_ne_read {scanned : WorkflowRequest}
    (h : event.claims executorId requestId = true ∨ event.drops executorId requestId = true) :
    (claimStep s event).passes executorId requestId ≠ some (.read scanned) := by
  intro hpass
  cases event with
  | claim e r now leaseDuration ask =>
    simp only [ClaimEvent.claims, ClaimEvent.drops, Bool.and_eq_true, beq_iff_eq, Bool.false_eq_true, or_false] at h
    obtain ⟨rfl, rfl⟩ := h
    simp only [claimStep] at hpass
    split at hpass
    · split at hpass <;> simp [passes_setPass] at hpass
    · rename_i hnot
      exact hnot scanned hpass
  | release e released now backoff =>
    simp_all [claimStep, passes_setPass, ClaimEvent.claims, ClaimEvent.drops]
  | abort e r => simp_all [claimStep, passes_setPass, ClaimEvent.claims, ClaimEvent.drops]
  | _ => simp [ClaimEvent.claims, ClaimEvent.drops] at h

/-- A pass that has read its row and no more was there before the event, which neither claims nor drops it, or the
event is its read of an open row. -/
private theorem LeaseSound.read_cases (h : LeaseSound s) {scanned : WorkflowRequest}
    (hpass : (claimStep s event).passes executorId requestId = some (.read scanned)) :
    (s.passes executorId requestId = some (.read scanned) ∧ event.claims executorId requestId = false ∧
      event.drops executorId requestId = false) ∨
    (event = .read executorId requestId ∧ (s.passes executorId requestId).isNone = true ∧
      (claimStep s event).rowOpen requestId = true) := by
  have hclaims : event.claims executorId requestId = false :=
    Bool.eq_false_iff.mpr fun hclaims => passes_ne_read (.inl hclaims) hpass
  have hdrops : event.drops executorId requestId = false :=
    Bool.eq_false_iff.mpr fun hdrops => passes_ne_read (.inr hdrops) hpass
  have hmove := claimStep_move h event
  generalize claimStep s event = after at hmove hpass ⊢
  cases hmove with
  | idle => exact .inl ⟨hpass, hclaims, hdrops⟩
  | created => exact .inl ⟨hpass, hclaims, hdrops⟩
  | passes e r next hnext =>
    rw [passes_setPass] at hpass
    split at hpass
    · rename_i hsame
      obtain ⟨rfl, rfl⟩ := hsame
      obtain ⟨-, hevent, hnone, hopen⟩ := hnext _ hpass
      exact .inr ⟨hevent, hnone, hopen⟩
    · exact .inl ⟨hpass, hclaims, hdrops⟩
  | writes e r current written next hstored hwritten hnext hreason =>
    rw [passes_setPass] at hpass
    split at hpass
    · cases (hnext _ hpass).1
    · exact .inl ⟨hpass, hclaims, hdrops⟩

/-- Every pass that has read its row and is going to claim it finds it open until then. -/
def ReadsOpen (s : ClaimStore) (later : List ClaimEvent) : Prop :=
  ∀ executorId requestId scanned, s.passes executorId requestId = some (.read scanned) →
    NotEndedBefore executorId requestId s later ∧
      ((untilClaim executorId requestId later).isSome = true → s.rowOpen requestId = true)

private theorem ReadsOpen.step {later : List ClaimEvent} (h : ReadsOpen s (event :: later)) (hsound : LeaseSound s)
    (hread : ReadInTime s later event) : ReadsOpen (claimStep s event) later := by
  intro executorId requestId scanned hpass
  rcases hsound.read_cases hpass with ⟨hbefore, hclaims, hdrops⟩ | ⟨rfl, hnone, hopen⟩
  · obtain ⟨hbetween, hrow⟩ := h executorId requestId scanned hbefore
    have huntil : untilClaim executorId requestId (event :: later) =
        (untilClaim executorId requestId later).map (event :: ·) := by
      simp [untilClaim, hclaims, hdrops]
    have hstays : ∀ between ∈ untilClaim executorId requestId later, ¬ EndsRow requestId s event ∧
        Run.Along claimStep (fun s event => ¬ EndsRow requestId s event) (claimStep s event) between := by
      intro between hmem
      exact hbetween (event :: between) (by simp [huntil, Option.mem_def.mp hmem])
    refine ⟨fun between hmem => (hstays between hmem).2, fun hsome => ?_⟩
    obtain ⟨between, hmem⟩ := Option.isSome_iff_exists.mp hsome
    have hwas := hrow (by rw [huntil, Option.isSome_map]; exact hsome)
    have hnot := (hstays between hmem).1
    by_contra hclosed
    exact hnot ⟨hwas, by simpa using hclosed⟩
  · exact ⟨hread hnone, fun _ => hopen⟩

end Run

/-- In every run in which nobody ends a row between an executor's read of it and the claim of the same pass, no event,
whether a claim, a preparation or a save of any executor, turns a row that had ended back into one that runs. -/
theorem finished_rows_never_reopened {rows : WorkflowTable} {events : List ClaimEvent}
    (hrun : ClaimsInTime { rows } events) :
    Run.Along claimStep (fun s event => ¬ Reopens s event) { rows } events := by
  have hgo : ∀ events s, LeaseSound s → ReadsOpen s events → ClaimsInTime s events →
      Run.Along claimStep (fun s event => ¬ Reopens s event) s events := by
    intro events
    induction events with
    | nil => intros; trivial
    | cons event later ih =>
      intro s hsound hreads hintime
      refine ⟨?_, ih _ (hsound.step event) (hreads.step hsound hintime.1) hintime.2⟩
      rintro ⟨requestId, ended, row, hended, hterminal, hrow, hrunning⟩
      have hstatus := hsound.ended_stays (fun executorId claimed scanned hclaims hpass =>
        (hreads executorId claimed scanned hpass).2 (by simp [untilClaim, hclaims])) hended hterminal hrow
      rw [← hstatus, hrunning] at hterminal
      cases hterminal
  refine hgo events { rows } (fun executorId requestId phase workflow hpass => ?_)
    (fun executorId requestId scanned hpass => ?_) hrun
  · cases hpass
  · cases hpass

section TwoExecutors

private def pendingReset : WorkflowRequest :=
  { requestId := "w", status := .pending, officialSteps := [{ operation := .resetGpu, nodeIds := ["n1"] }] }

private def oneRow : WorkflowTable := (Table.empty : WorkflowTable).put pendingReset

/-- The executor `a` goes on with the row it claimed, and ends it. -/
private def runsToEnd : List ClaimEvent :=
  [.prepare "a" "w" none none 2, .finish "a" "w" { status := .succeeded, stepExecutions := [], now := 3 }]

/-- `b` claims before the row ends and is refused by the lease, `c` gives its pass up after the row has ended, and `b`
reads the row again when it has ended. -/
private def claimedInTime : List ClaimEvent :=
  [.read "a" "w", .read "b" "w", .read "c" "w", .claim "a" "w" 1 100 {}, .claim "b" "w" 2 100 {}] ++ runsToEnd ++
    [.abort "c" "w", .read "b" "w", .claim "b" "w" 4 100 {}]

/-- `b` reads the row before it ends and claims it afterwards. -/
private def readBeforeEnd : List ClaimEvent :=
  [.read "a" "w", .read "b" "w", .claim "a" "w" 1 100 {}] ++ runsToEnd ++ [.claim "b" "w" 4 100 {}]

theorem finished_rows_never_reopened_in_time :
    ClaimsInTime { rows := oneRow } claimedInTime ∧
      Run.Along claimStep (fun s event => ¬ Reopens s event) { rows := oneRow } claimedInTime := by
  have hrun : ClaimsInTime { rows := oneRow } claimedInTime := by decide +kernel
  exact ⟨hrun, finished_rows_never_reopened hrun⟩

/-- The second executor compares the fencing token and the lease only: the row had ended and given up its lease, and
it runs again. -/
theorem finished_row_reopened_by_claim :
    ¬ Run.Along claimStep (fun s event => ¬ Reopens s event) { rows := oneRow } readBeforeEnd := by
  intro hrun
  obtain ⟨-, -, -, -, -, hclaim, -⟩ := hrun
  exact hclaim ⟨"w", _, _, rfl, rfl, rfl, rfl⟩

end TwoExecutors

end GpuFaultRecovery
