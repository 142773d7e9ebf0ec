import GpuFaultRecovery.DispositionApplier
import GpuFaultRecovery.LeasedSave

/-!
# Execution epochs

A claim that starts a tenure raises the epoch of the row, and a leased save has to name the epoch of its tenure, so a
pair of executor and epoch stands for one tenure as long as the epoch of a row never falls. Claims, renewals and
leased saves keep it that way. A plan replaced in place is built from the candidate and brings the candidate's epoch
along, which is the epoch of a row nobody claimed; the row it replaces is pristine in its steps and has no owner, but
it may have been claimed and given back.
-/

namespace GpuFaultRecovery

/-! ### The writers of a row -/

/-- `claim_workflow`, with or without a budget. -/
def claimStored (rows : WorkflowTable) (requestId executorId : String) (fencingToken : Nat) (now : Time)
    (leaseDuration : Int) : Option BudgetAsk → WorkflowTable × Except BudgetError WorkflowRequest
  | none => claimWorkflow rows ⟨requestId, executorId, fencingToken, now, leaseDuration, none, none⟩
  | some ask => claimForExecution rows requestId executorId fencingToken now leaseDuration ask

/-- `renew_workflow_lease`; a refused renewal changes nothing. -/
def renewWorkflowLease (rows : WorkflowTable) (requestId executorId : String) (executionEpoch : Nat) (now : Time)
    (leaseDuration : Int) : WorkflowTable :=
  match rows.get? requestId with
  | none => rows
  | some current =>
    if holdsExecutionLease current executorId now && current.executionEpoch == executionEpoch then
      if leaseExtensionDue current now leaseDuration then
        rows.put { current with executionLeaseExpiresAt := some (now + leaseDuration) }
      else rows
    else rows

/-- `save_workflow_if_leased`; a refused save changes nothing. -/
def saveWorkflowIfLeased (rows : WorkflowTable) (workflow : WorkflowRequest) (executorId : String)
    (executionEpoch : Nat) (now : Time) : WorkflowTable :=
  match rows.get? workflow.requestId with
  | none => rows
  | some current =>
    if validLeasedSave current workflow executorId executionEpoch now then
      stampPreemptionPending (rows.put workflow) workflow now
    else rows

/-- A compiled plan that nobody has claimed. -/
structure CandidatePlan where
  workflow : WorkflowRequest
  unowned : workflow.executionOwnerId = none

/-- The row a merge stores for REPLACE_IN_PLACE: its revision moves on from the stored one. -/
def replacementRow (settings : MergeSettings) (candidate : CandidatePlan) (existing : WorkflowRequest)
    (existingIncidentId : String) (now : Time) : WorkflowRequest :=
  { replaceInPlace settings candidate.workflow existing existingIncidentId now with
    mergeRevision := existing.mergeRevision + 1 }

/-- REPLACE_IN_PLACE on a row that is mutable at that moment. -/
def storeReplacement (settings : MergeSettings) (rows : WorkflowTable) (candidate : CandidatePlan)
    (requestId existingIncidentId : String) (now : Time) : WorkflowTable :=
  match rows.get? requestId with
  | none => rows
  | some existing =>
    if workflowIsMutable existing then
      let replaced := replacementRow settings candidate existing existingIncidentId now
      stampPreemptionPending (rows.put replaced) replaced now
    else rows

/-! ### Runs -/

/-- The stored rows and the clock. -/
structure EpochStore where
  rows : WorkflowTable
  clock : Time

inductive EpochOp where
  | claim (requestId executorId : String) (fencingToken : Nat) (leaseDuration : Int) (ask : Option BudgetAsk)
      (now : Time)
  | renew (requestId executorId : String) (executionEpoch : Nat) (leaseDuration : Int) (now : Time)
  | save (workflow : WorkflowRequest) (executorId : String) (executionEpoch : Nat) (keepsOwner : Bool) (now : Time)
  | replace (settings : MergeSettings) (candidate : CandidatePlan) (requestId existingIncidentId : String)
      (now : Time)

namespace EpochOp

def time : EpochOp → Time
  | .claim _ _ _ _ _ now | .renew _ _ _ _ now | .save _ _ _ _ now | .replace _ _ _ _ now => now

end EpochOp

def epochStep (s : EpochStore) (op : EpochOp) : EpochStore where
  rows := match op with
    | .claim requestId executorId fencingToken leaseDuration ask now =>
      (claimStored s.rows requestId executorId fencingToken now leaseDuration ask).1
    | .renew requestId executorId executionEpoch leaseDuration now =>
      renewWorkflowLease s.rows requestId executorId executionEpoch now leaseDuration
    | .save workflow executorId executionEpoch keepsOwner now =>
      saveWorkflowIfLeased s.rows
        { workflow with executionOwnerId := if keepsOwner then some executorId else none } executorId
          executionEpoch now
    | .replace settings candidate requestId existingIncidentId now =>
      storeReplacement settings s.rows candidate requestId existingIncidentId now
  clock := op.time

def Timely (s : EpochStore) (op : EpochOp) : Prop := s.clock ≤ op.time

instance (s : EpochStore) (op : EpochOp) : Decidable (Timely s op) :=
  inferInstanceAs (Decidable (s.clock ≤ op.time))

/-- A row is replaced in place only while its epoch is not above the candidate's. -/
def ReplacesUnclaimed (s : EpochStore) : EpochOp → Prop
  | .replace _ candidate requestId _ _ => ∀ existing, s.rows.get? requestId = some existing →
      workflowIsMutable existing = true → existing.executionEpoch ≤ candidate.workflow.executionEpoch
  | _ => True

/-- The claimed row of an operation that starts a tenure: a claim by another executor, or after the lease ended. -/
def tenureStarted (s : EpochStore) : EpochOp → Option WorkflowRequest
  | .claim requestId executorId fencingToken leaseDuration ask now =>
    match s.rows.get? requestId, (claimStored s.rows requestId executorId fencingToken now leaseDuration ask).2 with
    | some row, .ok claimed =>
      if row.executionOwnerId != some executorId || !leaseActive row now then some claimed else none
    | _, _ => none
  | _ => none

def HoldsTenure (s : EpochStore) (requestId executorId : String) (executionEpoch : Nat) : Prop :=
  ∃ row, s.rows.get? requestId = some row ∧ holdsExecutionLease row executorId s.clock = true ∧
    row.executionEpoch = executionEpoch

/-- In the run of `ops` from `s`, every tenure gets an epoch above all epochs the row had before; and once a pair of
executor and epoch that had the row no longer holds it, the pair never passes the guard of a leased save again. -/
structure EpochsNeverReused (s : EpochStore) (ops : List EpochOp) : Prop where
  grows : ∀ earlier later op after claimed r, ops = earlier ++ later ++ op :: after →
    tenureStarted (Run.exec epochStep s (earlier ++ later)) op = some claimed →
    (Run.exec epochStep s earlier).rows.get? claimed.requestId = some r → r.executionEpoch < claimed.executionEpoch
  fenced : ∀ earlier later after requestId executorId r, ops = earlier ++ later ++ after →
    (Run.exec epochStep s earlier).rows.get? requestId = some r → r.executionOwnerId = some executorId →
    ¬ HoldsTenure (Run.exec epochStep s (earlier ++ later)) requestId executorId r.executionEpoch →
    ∀ current workflow now, (Run.exec epochStep s ops).rows.get? requestId = some current →
      (Run.exec epochStep s ops).clock ≤ now →
      validLeasedSave current workflow executorId r.executionEpoch now = false

/-! ### What one operation does to the lease of a row -/

/-- What an operation can do to the owner, the lease and the epoch of a row. -/
inductive EpochMove (now : Time) (row row' : WorkflowRequest) : Prop
  | kept (howner : row'.executionOwnerId = row.executionOwnerId) (hepoch : row'.executionEpoch = row.executionEpoch)
      (hlease : row'.executionLeaseExpiresAt = row.executionLeaseExpiresAt)
  | freed (howner : row'.executionOwnerId = none) (hepoch : row'.executionEpoch = row.executionEpoch)
  | claimed (executorId : String) (howner : row'.executionOwnerId = some executorId)
      (hepoch : row'.executionEpoch =
        if row.executionOwnerId != some executorId || !leaseActive row now then row.executionEpoch + 1
        else max row.executionEpoch 1)
  | served (executorId : String) (hholds : holdsExecutionLease row executorId now = true)
      (howner : row'.executionOwnerId = some executorId ∨ row'.executionOwnerId = none)
      (hepoch : row'.executionEpoch = row.executionEpoch)
  | replaced (howner : row'.executionOwnerId = none) (hepoch : row.executionEpoch ≤ row'.executionEpoch)

private theorem EpochMove.epoch_le {now : Time} {row row' : WorkflowRequest} (h : EpochMove now row row') :
    row.executionEpoch ≤ row'.executionEpoch := by
  cases h with
  | kept _ hepoch | freed _ hepoch | served _ _ _ hepoch => exact hepoch.ge
  | replaced _ hepoch => exact hepoch
  | claimed executorId howner hepoch =>
    rw [hepoch]
    split <;> omega

private theorem epochMove_put {rows : WorkflowTable} {now : Time} {current written : WorkflowRequest}
    (hstored : rows.get? written.requestId = some current) (hmove : EpochMove now current written) {id : String}
    {row : WorkflowRequest} (hget : rows.get? id = some row) :
    ∃ row', (rows.put written).get? id = some row' ∧ EpochMove now row row' := by
  rw [Table.get?_put]
  by_cases he : id = written.requestId
  · rw [if_pos he]
    rw [he, hstored] at hget
    cases hget
    exact ⟨written, rfl, hmove⟩
  · rw [if_neg he]
    exact ⟨row, hget, .kept rfl rfl rfl⟩

/-- The stamp on a preempted row leaves its lease alone. -/
private theorem get?_stamped {rows : WorkflowTable} (successor : WorkflowRequest) (now : Time) {id : String}
    {row : WorkflowRequest} (hget : rows.get? id = some row) :
    ∃ row', (stampPreemptionPending rows successor now).get? id = some row' ∧
      row'.executionOwnerId = row.executionOwnerId ∧ row'.executionEpoch = row.executionEpoch ∧
      row'.executionLeaseExpiresAt = row.executionLeaseExpiresAt := by
  unfold stampPreemptionPending
  cases hstamp : stampedPredecessor rows successor now with
  | none => exact ⟨row, hget, rfl, rfl, rfl⟩
  | some stamp =>
    rw [Option.elim_some, Table.get?_put]
    by_cases he : id = stamp.requestId
    · rw [if_pos he]
      refine ⟨stamp, rfl, ?_⟩
      unfold stampedPredecessor at hstamp
      split at hstamp
      · cases hstamp
      · obtain ⟨predecessor, hpredecessor, hupdate⟩ := Option.bind_eq_some_iff.mp hstamp
        obtain ⟨predecessorId, -, hstored⟩ := Option.bind_eq_some_iff.mp hpredecessor
        unfold preemptionPendingUpdate at hupdate
        split at hupdate
        · cases hupdate
        · cases hupdate
          have hkey : predecessor.requestId = predecessorId := Table.key_of_get? hstored
          have hid : id = predecessorId := he.trans hkey
          rw [hid, hstored] at hget
          cases hget
          exact ⟨rfl, rfl, rfl⟩
    · rw [if_neg he]
      exact ⟨row, hget, rfl, rfl, rfl⟩

private theorem EpochMove.stamped {now : Time} {row row' row'' : WorkflowRequest} (h : EpochMove now row row')
    (howner : row''.executionOwnerId = row'.executionOwnerId) (hepoch : row''.executionEpoch = row'.executionEpoch)
    (hlease : row''.executionLeaseExpiresAt = row'.executionLeaseExpiresAt) : EpochMove now row row'' := by
  cases h with
  | kept ho he hl => exact .kept (howner.trans ho) (hepoch.trans he) (hlease.trans hl)
  | freed ho he => exact .freed (howner.trans ho) (hepoch.trans he)
  | claimed executorId ho he => exact .claimed executorId (howner.trans ho) (hepoch.trans he)
  | served executorId hholds ho he => exact .served executorId hholds (howner ▸ ho) (hepoch.trans he)
  | replaced ho he => exact .replaced (howner.trans ho) (hepoch ▸ he)

private theorem epochMove_put_stamped {rows : WorkflowTable} {now : Time} {current written : WorkflowRequest}
    (hstored : rows.get? written.requestId = some current) (hmove : EpochMove now current written) {id : String}
    {row : WorkflowRequest} (hget : rows.get? id = some row) :
    ∃ row', (stampPreemptionPending (rows.put written) written now).get? id = some row' ∧ EpochMove now row row' := by
  obtain ⟨row', hget', hmove'⟩ := epochMove_put hstored hmove hget
  obtain ⟨row'', hget'', howner, hepoch, hlease⟩ := get?_stamped written now hget'
  exact ⟨row'', hget'', hmove'.stamped howner hepoch hlease⟩

/-! ### Claims -/

/-- The budget part of a claim leaves the lease alone. -/
private theorem BudgetAsk.admit_keeps {ask : BudgetAsk} {rows : WorkflowTable} {workflow admitted : WorkflowRequest}
    (h : ask.admit rows workflow = .ok admitted) :
    admitted.requestId = workflow.requestId ∧ admitted.executionOwnerId = workflow.executionOwnerId ∧
      admitted.executionEpoch = workflow.executionEpoch := by
  unfold BudgetAsk.admit at h
  split at h
  · cases h
    exact ⟨rfl, rfl, rfl⟩
  · unfold applyRemediationBudget at h
    split at h
    · cases h
    · rename_i admitted' hagainst
      split at h
      · cases h
        unfold admitAgainstOccupancy at hagainst
        dsimp only at hagainst
        split at hagainst
        · cases hagainst
        · cases hagainst
          exact ⟨rfl, rfl, rfl⟩
      · cases h

/-- What a claim writes: nothing, the row given up by a refusal, or the claimed row. -/
inductive ClaimWrites (rows : WorkflowTable) (requestId executorId : String) (now : Time) :
    WorkflowTable × Except BudgetError WorkflowRequest → Prop
  | nothing (error : BudgetError) : ClaimWrites rows requestId executorId now (rows, .error error)
  | refused (current refused : WorkflowRequest) (error : BudgetError) (hstored : rows.get? requestId = some current)
      (hid : refused.requestId = requestId) (howner : refused.executionOwnerId = none)
      (hepoch : refused.executionEpoch = current.executionEpoch) :
      ClaimWrites rows requestId executorId now (rows.put refused, .error error)
  | claimed (current claimed : WorkflowRequest) (hstored : rows.get? requestId = some current)
      (hid : claimed.requestId = requestId) (howner : claimed.executionOwnerId = some executorId)
      (hepoch : claimed.executionEpoch =
        if current.executionOwnerId != some executorId || !leaseActive current now then current.executionEpoch + 1
        else max current.executionEpoch 1) :
      ClaimWrites rows requestId executorId now (rows.put claimed, .ok claimed)

private theorem claimStored_writes (rows : WorkflowTable) (requestId executorId : String) (fencingToken : Nat)
    (now : Time) (leaseDuration : Int) (ask : Option BudgetAsk) :
    ClaimWrites rows requestId executorId now
      (claimStored rows requestId executorId fencingToken now leaseDuration ask) := by
  cases ask with
  | none =>
    simp only [claimStored, claimWorkflow]
    split
    · exact .nothing _
    · rename_i current hstored
      have hid : current.requestId = requestId := Table.key_of_get? hstored
      split
      · exact .nothing _
      · split
        · exact .nothing _
        · exact .claimed current _ hstored hid rfl rfl
  | some ask =>
    simp only [claimStored, claimForExecution]
    split
    · exact .nothing _
    · rename_i current hstored
      have hid : current.requestId = requestId := Table.key_of_get? hstored
      split
      · exact .nothing _
      · split
        · exact .nothing _
        · split
          · exact .refused current _ _ hstored hid rfl rfl
          · exact .nothing _
          · rename_i admitted hadmitted
            obtain ⟨hkid, hkowner, hkepoch⟩ := BudgetAsk.admit_keeps hadmitted
            refine .claimed current _ hstored (hkid.trans hid) rfl ?_
            unfold leasedClaim
            rw [hkowner, hkepoch]

/-! ### Every operation moves rows so -/

section Operations

variable {rows : WorkflowTable} {id : String} {row : WorkflowRequest}

private theorem epochMove_claim (requestId executorId : String) (fencingToken : Nat) (now : Time)
    (leaseDuration : Int) (ask : Option BudgetAsk) (hget : rows.get? id = some row) :
    ∃ row', (claimStored rows requestId executorId fencingToken now leaseDuration ask).1.get? id = some row' ∧
      EpochMove now row row' := by
  have hwrites := claimStored_writes rows requestId executorId fencingToken now leaseDuration ask
  generalize claimStored rows requestId executorId fencingToken now leaseDuration ask = result at hwrites
  cases hwrites with
  | nothing => exact ⟨row, hget, .kept rfl rfl rfl⟩
  | refused current refused error hstored hid howner hepoch =>
    exact epochMove_put (hid ▸ hstored) (.freed howner hepoch) hget
  | claimed current claimed hstored hid howner hepoch =>
    exact epochMove_put (hid ▸ hstored) (.claimed executorId howner hepoch) hget

private theorem epochMove_renew (requestId executorId : String) (executionEpoch : Nat) (now : Time)
    (leaseDuration : Int) (hget : rows.get? id = some row) :
    ∃ row', (renewWorkflowLease rows requestId executorId executionEpoch now leaseDuration).get? id = some row' ∧
      EpochMove now row row' := by
  have hkept : ∃ row', rows.get? id = some row' ∧ EpochMove now row row' := ⟨row, hget, .kept rfl rfl rfl⟩
  unfold renewWorkflowLease
  split
  · exact hkept
  · rename_i current hstored
    have hid : current.requestId = requestId := Table.key_of_get? hstored
    split
    · rename_i hguard
      simp only [Bool.and_eq_true] at hguard
      have howner : current.executionOwnerId = some executorId := by
        have hholds := hguard.1
        simp only [holdsExecutionLease, Bool.and_eq_true, beq_iff_eq] at hholds
        exact hholds.1
      split
      · have hmove : EpochMove now current { current with executionLeaseExpiresAt := some (now + leaseDuration) } :=
          .served executorId hguard.1 (Or.inl howner) rfl
        exact epochMove_put (hid ▸ hstored) hmove hget
      · exact hkept
    · exact hkept

private theorem epochMove_save {saved : WorkflowRequest} {executorId : String} (executionEpoch : Nat) (now : Time)
    (howner : saved.executionOwnerId = some executorId ∨ saved.executionOwnerId = none)
    (hget : rows.get? id = some row) :
    ∃ row', (saveWorkflowIfLeased rows saved executorId executionEpoch now).get? id = some row' ∧
      EpochMove now row row' := by
  have hkept : ∃ row', rows.get? id = some row' ∧ EpochMove now row row' := ⟨row, hget, .kept rfl rfl rfl⟩
  unfold saveWorkflowIfLeased
  split
  · exact hkept
  · rename_i current hstored
    split
    · rename_i hvalid
      obtain ⟨-, hcurrent, hepoch⟩ := validLeasedSave_eq hvalid
      simp only [validLeasedSave, Bool.and_eq_true] at hvalid
      exact epochMove_put_stamped hstored
        (.served executorId hvalid.1.1.1.1 howner (hepoch.trans hcurrent.symm)) hget
    · exact hkept

end Operations

private theorem epochMove_step {s : EpochStore} {op : EpochOp} (hop : ReplacesUnclaimed s op) {id : String}
    {row : WorkflowRequest} (hget : s.rows.get? id = some row) :
    ∃ row', (epochStep s op).rows.get? id = some row' ∧ EpochMove op.time row row' := by
  cases op with
  | claim requestId executorId fencingToken leaseDuration ask now =>
    exact epochMove_claim requestId executorId fencingToken now leaseDuration ask hget
  | renew requestId executorId executionEpoch leaseDuration now =>
    exact epochMove_renew requestId executorId executionEpoch now leaseDuration hget
  | save workflow executorId executionEpoch keepsOwner now =>
    refine epochMove_save executionEpoch now ?_ hget
    cases keepsOwner
    · exact Or.inr rfl
    · exact Or.inl rfl
  | replace settings candidate requestId existingIncidentId now =>
    change ∃ row', (storeReplacement settings s.rows candidate requestId existingIncidentId now).get? id =
      some row' ∧ _
    unfold storeReplacement
    split
    · exact ⟨row, hget, .kept rfl rfl rfl⟩
    · rename_i existing hstored
      have hid : existing.requestId = requestId := Table.key_of_get? hstored
      split
      · rename_i hmutable
        have hmove : EpochMove now existing (replacementRow settings candidate existing existingIncidentId now) :=
          .replaced candidate.unowned (hop existing hstored hmutable)
        exact epochMove_put_stamped (hid ▸ hstored) hmove hget
      · exact ⟨row, hget, .kept rfl rfl rfl⟩

/-! ### Whole runs -/

private theorem epoch_le_exec {s : EpochStore} {ops : List EpochOp} (h : Run.Along epochStep ReplacesUnclaimed s ops)
    {id : String} {row : WorkflowRequest} (hget : s.rows.get? id = some row) :
    ∃ row', (Run.exec epochStep s ops).rows.get? id = some row' ∧ row.executionEpoch ≤ row'.executionEpoch := by
  refine Run.invariant_exec (I := fun s : EpochStore => ∃ row', s.rows.get? id = some row' ∧
    row.executionEpoch ≤ row'.executionEpoch) ?_ ⟨row, hget, le_rfl⟩ h
  rintro s op ⟨row', hget', hle⟩ hop
  obtain ⟨row'', hget'', hmove⟩ := epochMove_step hop hget'
  exact ⟨row'', hget'', hle.trans hmove.epoch_le⟩

/-- The executor and epoch no longer hold the row, and a row with that epoch can only be held by others. -/
def TenureOver (requestId executorId : String) (epoch : Nat) (s : EpochStore) : Prop :=
  ∃ row, s.rows.get? requestId = some row ∧ epoch ≤ row.executionEpoch ∧
    (row.executionEpoch = epoch → holdsExecutionLease row executorId s.clock = false)

private theorem leaseActive_of_le {row : WorkflowRequest} {t now : Time} (hle : t ≤ now)
    (h : leaseActive row now = true) :
    leaseActive row t = true := by
  unfold leaseActive at h ⊢
  split at h
  · cases h
  · simp only [decide_eq_true_eq] at h ⊢
    exact lt_of_le_of_lt hle h

private theorem not_holds_of_owner {row : WorkflowRequest} {executorId : String} {now : Time}
    (h : row.executionOwnerId ≠ some executorId) : holdsExecutionLease row executorId now = false := by
  simp [holdsExecutionLease, h]

private theorem tenureOver_step {requestId executorId : String} {epoch : Nat} {s : EpochStore} {op : EpochOp}
    (h : TenureOver requestId executorId epoch s) (htimely : Timely s op) (hop : ReplacesUnclaimed s op) :
    TenureOver requestId executorId epoch (epochStep s op) := by
  obtain ⟨row, hget, hle, hover⟩ := h
  obtain ⟨row', hget', hmove⟩ := epochMove_step hop hget
  refine ⟨row', hget', hle.trans hmove.epoch_le, fun hsame => ?_⟩
  change holdsExecutionLease row' executorId op.time = false
  -- the epoch did not move, so the pair did not hold the row before either
  have hepoch : row.executionEpoch = epoch := le_antisymm (hmove.epoch_le.trans hsame.le) hle
  have hidle : ∀ executorId', holdsExecutionLease row executorId' op.time = true → executorId' ≠ executorId := by
    rintro executorId' hholds rfl
    have hbefore := hover hepoch
    simp only [holdsExecutionLease, Bool.and_eq_true, beq_iff_eq] at hholds
    simp [holdsExecutionLease, hholds.1, leaseActive_of_le htimely hholds.2] at hbefore
  cases hmove with
  | kept howner _ hlease =>
    rw [Bool.eq_false_iff]
    intro hholds
    refine hidle executorId ?_ rfl
    simpa [holdsExecutionLease, leaseActive, howner, hlease] using hholds
  | freed howner | replaced howner => exact not_holds_of_owner (by simp [howner])
  | served executorId' hholds howner _ =>
    have hne := hidle executorId' hholds
    rcases howner with howner | howner
    · exact not_holds_of_owner (by simp [howner, hne])
    · exact not_holds_of_owner (by simp [howner])
  | claimed executorId' howner hclaimed =>
    -- the claim did not raise the epoch, so it renewed a live lease of its own
    split at hclaimed
    · omega
    · rename_i hrenews
      simp only [Bool.or_eq_true, bne_iff_ne, ne_eq, Bool.not_eq_true', not_or, not_not, Bool.not_eq_false] at hrenews
      have hne := hidle executorId' (by simp [holdsExecutionLease, hrenews.1, hrenews.2])
      exact not_holds_of_owner (by simp [howner, hne])

/-- Execution epochs are never reused in a run that replaces a row in place only while the row's epoch is not above
the candidate's: every tenure gets an epoch above all epochs the row had before, and a pair of executor and epoch that
has lost the row never passes the guard of a leased save again. -/
theorem execution_epochs_never_reused {s : EpochStore} {ops : List EpochOp}
    (htimely : Run.Along epochStep Timely s ops) (hreplaces : Run.Along epochStep ReplacesUnclaimed s ops) :
    EpochsNeverReused s ops where
  grows earlier later op after claimed r hops hstarted hget := by
    subst hops
    have hbefore := hreplaces.split.1.split.2
    obtain ⟨row, hrow, hle⟩ := epoch_le_exec hbefore hget
    rw [← Run.exec_append] at hrow
    generalize Run.exec epochStep s (earlier ++ later) = s' at hstarted hrow
    cases op with
    | claim requestId executorId fencingToken leaseDuration ask now =>
      have hwrites := claimStored_writes s'.rows requestId executorId fencingToken now leaseDuration ask
      simp only [tenureStarted] at hstarted
      generalize claimStored s'.rows requestId executorId fencingToken now leaseDuration ask = result
        at hwrites hstarted
      cases hwrites with
      | nothing | refused => split at hstarted <;> simp_all
      | claimed current claimed' hstored hid howner hepoch =>
        rw [hstored] at hstarted
        dsimp only at hstarted
        split at hstarted
        · rename_i hnew
          cases hstarted
          rw [hid, hstored] at hrow
          cases hrow
          rw [if_pos hnew] at hepoch
          omega
        · cases hstarted
    | renew | save | replace => cases hstarted
  fenced earlier later after requestId executorId r hops hget howner hover current workflow now hcurrent hnow := by
    subst hops
    have hboth := htimely.and hreplaces
    obtain ⟨row, hrow, hle⟩ := epoch_le_exec hreplaces.split.1.split.2 hget
    rw [← Run.exec_append] at hrow
    have hstart : TenureOver requestId executorId r.executionEpoch (Run.exec epochStep s (earlier ++ later)) := by
      refine ⟨row, hrow, hle, fun hsame => ?_⟩
      rw [Bool.eq_false_iff]
      exact fun hholds => hover ⟨row, hrow, hholds, hsame⟩
    have hend := Run.invariant_exec (I := TenureOver requestId executorId r.executionEpoch)
      (fun _ _ hs hop => tenureOver_step hs hop.1 hop.2) hstart hboth.split.2
    rw [← Run.exec_append] at hend
    obtain ⟨row', hrow', -, hfree⟩ := hend
    rw [hcurrent] at hrow'
    cases hrow'
    rw [Bool.eq_false_iff]
    intro hvalid
    obtain ⟨-, hepoch, -⟩ := validLeasedSave_eq hvalid
    simp only [validLeasedSave, holdsExecutionLease, Bool.and_eq_true, beq_iff_eq] at hvalid
    obtain ⟨⟨⟨⟨⟨hown, hactive⟩, -⟩, -⟩, -⟩, -⟩ := hvalid
    have hheld : holdsExecutionLease current executorId
        (Run.exec epochStep s (earlier ++ later ++ after)).clock = true := by
      rw [holdsExecutionLease, hown, leaseActive_of_le hnow hactive]
      simp
    exact absurd (hfree hepoch) (by rw [hheld]; simp)

/-- A pending row; the dispatcher claims it and gives it back before any step ran. -/
private def givenBackRow : WorkflowRequest := { requestId := "w1", incidentId := "i1", status := .pending }

private def epochStart : EpochStore where
  rows := Table.empty.put givenBackRow
  clock := 0

private def firstClaim : EpochOp := .claim "w1" "e1" 1 30 none 0

/-- The row as the claim leaves it, saved again without an owner. -/
private def giveBack : EpochOp := .save { givenBackRow with executionEpoch := 1 } "e1" 1 false 1

/-- A freshly compiled plan takes the place of the row. -/
private def replaceRow (now : Time) : EpochOp :=
  .replace ⟨false, fun now _ => (now, now)⟩ ⟨{ requestId := "w2", incidentId := "i2", status := .pending }, rfl⟩ "w1"
    "i1" now

/-- The row is replaced before anybody claims it, and then has two tenures. -/
theorem second_tenure_outranks_first :
    let firstTenure := [replaceRow 0, .claim "w1" "e1" 2 30 none 1,
      .save { givenBackRow with executionEpoch := 1, fencingToken := 2, mergeRevision := 1 } "e1" 1 false 2]
    let secondClaim := .claim "w1" "e1" 2 30 none 3
    let ops := firstTenure ++ [secondClaim]
    (tenureStarted (Run.exec epochStep epochStart firstTenure) secondClaim).map (·.executionEpoch) = some 2 ∧
    Run.Along epochStep Timely epochStart ops ∧ Run.Along epochStep ReplacesUnclaimed epochStart ops ∧
    EpochsNeverReused epochStart ops := by
  intro firstTenure secondClaim ops
  have htimely : Run.Along epochStep Timely epochStart ops := by decide +kernel
  have hreplaces : Run.Along epochStep ReplacesUnclaimed epochStart ops := by
    refine ⟨fun existing hget _ => ?_, trivial, trivial, trivial, trivial⟩
    have hepoch : ((epochStart.rows.get? "w1").map (·.executionEpoch)) = some 0 := by decide +kernel
    rw [hget] at hepoch
    exact (Option.some.inj hepoch).le
  exact ⟨by decide +kernel, htimely, hreplaces, execution_epochs_never_reused htimely hreplaces⟩

/-- A row that was claimed and given back is replaced in place, and its next tenure gets the epoch of the first. -/
theorem replaced_row_reuses_epoch :
    ¬ ∀ (s : EpochStore) (ops : List EpochOp), Run.Along epochStep Timely s ops → EpochsNeverReused s ops := by
  intro h
  have hnever := h epochStart [firstClaim, giveBack, replaceRow 2, .claim "w1" "e1" 2 30 none 3] (by decide +kernel)
  have hfirst : ((Run.exec epochStep epochStart [firstClaim]).rows.get? "w1").map (·.executionEpoch) = some 1 := by
    decide +kernel
  have hsecond : (tenureStarted (Run.exec epochStep epochStart [firstClaim, giveBack, replaceRow 2])
      (.claim "w1" "e1" 2 30 none 3)).map (fun w => (w.requestId, w.executionEpoch)) = some ("w1", 1) := by
    decide +kernel
  obtain ⟨r, hr, hrepoch⟩ := Option.map_eq_some_iff.mp hfirst
  obtain ⟨claimed, hclaimed, heq⟩ := Option.map_eq_some_iff.mp hsecond
  simp only [Prod.mk.injEq] at heq
  obtain ⟨hid, hepoch⟩ := heq
  have hlt := hnever.grows [firstClaim] [giveBack, replaceRow 2] (.claim "w1" "e1" 2 30 none 3) [] claimed r rfl
    hclaimed (by rw [hid]; exact hr)
  omega

end GpuFaultRecovery
