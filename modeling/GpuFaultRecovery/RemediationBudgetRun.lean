import GpuFaultRecovery.RemediationBudget
import GpuFaultRecovery.Run

/-!
# The cap of a remediation budget over whole runs

Only an admission checks occupancy, yet a row starts to count in two more ways: an internal-error release that makes
its successor wait again brings a reservation back, and a row that waits with the scopes of an earlier admission may
start to hold them again. `KeepsCap` asks those writes for what an admission checks: every scope that starts to
count replaces a hold that ends, or has a free slot.
-/

namespace GpuFaultRecovery

/-- One write on the workflow rows. -/
inductive BudgetOp where
  | create (workflow : WorkflowRequest)
  | claim (claim : WorkflowClaim)
  | extend (requestId executorId : String) (claims : List (String × Nat)) (now : Time)
  | record (requestId executorId : String) (stepExecutions : List WorkflowStepExecution) (completed : List Nat)
      (now : Time)
  | terminate (requestId executorId : String) (write : RowEnding)
  | supersede (requestId executorId : String) (now : Time)
  | supersedeGeneration (requestId executorId successorId : String) (reason : Option String) (now : Time)
  | internalErrorRelease (scanned : WorkflowRequest) (executorId : String) (now : Time) (backoff : Int)

/-- A new row holds nothing and nothing was superseded for it. -/
def createdRow (workflow : WorkflowRequest) : WorkflowRequest :=
  { workflow with remediationBudgetClaims := [], remediationBudgetLimits := [], preemptedByWorkflowId := none }

/-- The row an executor may write: it runs, and the executor's lease on it is live. -/
def leasedRow? (rows : WorkflowTable) (requestId executorId : String) (now : Time) : Option WorkflowRequest :=
  match rows.get? requestId with
  | none => none
  | some row => if row.status.executable && holdsExecutionLease row executorId now then some row else none

def recordedRow (row : WorkflowRequest) (stepExecutions : List WorkflowStepExecution) (completed : List Nat)
    (now : Time) : WorkflowRequest :=
  { row with stepExecutions := stepExecutions, completedStepIndexes := completed, updatedAt := now }

/-- The write a leased save makes, if the lease is live. -/
def leasedWrite (rows : WorkflowTable) (requestId executorId : String) (now : Time)
    (write : WorkflowRequest → Option WorkflowRequest) : WorkflowTable :=
  match leasedRow? rows requestId executorId now with
  | none => rows
  | some row =>
    match write row with
    | none => rows
    | some row' => rows.put row'

/-- What a leased write other than a release makes of the row. -/
def BudgetOp.written (rows : WorkflowTable) (op : BudgetOp) (row : WorkflowRequest) : Option WorkflowRequest :=
  match op with
  | .record _ _ stepExecutions completed now => some (recordedRow row stepExecutions completed now)
  | .terminate _ _ write => if write.status.terminal then some (endRow row write) else none
  | .supersede requestId _ now =>
    (getPreemptingSuccessor rows requestId).map fun successor =>
      supersedeRow row successor.requestId successor.preemptionReason now
  | .supersedeGeneration _ _ successorId reason now =>
    (rows.get? successorId).map fun successor => supersedeRow row successor.requestId reason now
  | _ => none

def budgetStep (rows : WorkflowTable) (op : BudgetOp) : WorkflowTable :=
  match op with
  | .create workflow => if (rows.get? workflow.requestId).isSome then rows else rows.put (createdRow workflow)
  | .claim claim => (claimWorkflow rows claim).1
  | .extend requestId executorId claims now =>
    match extendRemediationBudget rows requestId executorId claims now with
    | .error _ => rows
    | .ok (rows', _) => rows'
  | .record requestId executorId _ _ now => leasedWrite rows requestId executorId now (op.written rows)
  | .terminate requestId executorId write => leasedWrite rows requestId executorId write.now (op.written rows)
  | .supersede requestId executorId now => leasedWrite rows requestId executorId now (op.written rows)
  | .supersedeGeneration requestId executorId _ _ now => leasedWrite rows requestId executorId now (op.written rows)
  | .internalErrorRelease scanned executorId now backoff =>
    releaseAfterInternalError rows scanned executorId now backoff

/-- The scopes a claim or an extension asks for, with their limits. -/
def BudgetOp.asked : BudgetOp → List (String × Nat)
  | .claim request => request.budgetClaims.getD []
  | .extend _ _ claims _ => claims
  | _ => []

/-- Every claim gives a scope the same limit. -/
def BudgetOp.LimitsAre (limit : String → Nat) (op : BudgetOp) : Prop := ∀ entry ∈ op.asked, entry.2 = limit entry.1

/-- The scopes reserved for `row` whenever it waits: those of the row it superseded. -/
def reservedClaims (rows : WorkflowTable) (row : WorkflowRequest) : List String :=
  match row.predecessorWorkflowId.bind rows.get? with
  | none => []
  | some predecessor =>
    if row.preemptPredecessor && predecessor.status == .superseded &&
        predecessor.preemptedByWorkflowId == some row.requestId then predecessor.remediationBudgetClaims
    else []

/-- Every scope of `starting` takes the place of one of `ending`, or has a free slot. -/
def Replaces (limit : String → Nat) (rows : WorkflowTable) (starting ending : List String) : Prop :=
  ∀ scope ∈ starting, scope ∈ ending ∨ budgetOccupancy rows scope < limit scope

/-- A leased write that makes a waiting row hold its scopes again: parked BLOCKED, or superseded and reserved. -/
def LeasedKeepsCap (limit : String → Nat) (rows : WorkflowTable) (requestId executorId : String) (now : Time)
    (write : WorkflowRequest → Option WorkflowRequest) : Prop :=
  match leasedRow? rows requestId executorId now with
  | none => True
  | some row =>
    match write row with
    | none => True
    | some row' =>
      row.status.waiting = true → (heldWhileBlocked row' || (reservation rows row').isSome) = true →
        Replaces limit rows row.remediationBudgetClaims (reservedClaims rows row)

/-- What a write that is no admission owes the cap. -/
def BudgetOp.KeepsCap (limit : String → Nat) (rows : WorkflowTable) (op : BudgetOp) : Prop :=
  match op with
  | .terminate requestId executorId write =>
    LeasedKeepsCap limit rows requestId executorId write.now (op.written rows)
  | .supersede requestId executorId now => LeasedKeepsCap limit rows requestId executorId now (op.written rows)
  | .supersedeGeneration requestId executorId _ _ now =>
    LeasedKeepsCap limit rows requestId executorId now (op.written rows)
  | .internalErrorRelease scanned _ _ _ =>
    match rows.get? scanned.requestId with
    | none => True
    | some row =>
      (row.status = .running → (releasedStatus scanned row).waiting = true →
        Replaces limit rows (reservedClaims rows row) row.remediationBudgetClaims) ∧
      (row.status.waiting = true → releasedStatus scanned row = .running →
        Replaces limit rows row.remediationBudgetClaims (reservedClaims rows row))
  | _ => True

instance (limit : String → Nat) (op : BudgetOp) : Decidable (op.LimitsAre limit) :=
  inferInstanceAs (Decidable (∀ entry ∈ op.asked, entry.2 = limit entry.1))

instance (limit : String → Nat) (rows : WorkflowTable) (starting ending : List String) :
    Decidable (Replaces limit rows starting ending) :=
  inferInstanceAs (Decidable (∀ scope ∈ starting, _ ∨ budgetOccupancy rows scope < limit scope))

instance (limit : String → Nat) (rows : WorkflowTable) (requestId executorId : String) (now : Time)
    (write : WorkflowRequest → Option WorkflowRequest) :
    Decidable (LeasedKeepsCap limit rows requestId executorId now write) :=
  match h : leasedRow? rows requestId executorId now with
  | none => isTrue (by simp [LeasedKeepsCap, h])
  | some row =>
    match h' : write row with
    | none => isTrue (by simp [LeasedKeepsCap, h, h'])
    | some row' =>
      decidable_of_iff (row.status.waiting = true → (heldWhileBlocked row' || (reservation rows row').isSome) = true →
        Replaces limit rows row.remediationBudgetClaims (reservedClaims rows row)) (by simp [LeasedKeepsCap, h, h'])

/-! ### Reservations after one write -/

section Occupancy

variable {rows : WorkflowTable} {row row' other : WorkflowRequest} {scope : String}

/-- A write keeps what names a row and its predecessor. -/
structure SameLinks (row row' : WorkflowRequest) : Prop where
  requestId : row'.requestId = row.requestId
  preempt : row'.preemptPredecessor = row.preemptPredecessor
  predecessor : row'.predecessorWorkflowId = row.predecessorWorkflowId

private theorem reservedFor_iff {predecessor successor : WorkflowRequest} :
    reservedFor predecessor successor = true ↔
      predecessor.status = .superseded ∧ predecessor.preemptedByWorkflowId = some successor.requestId ∧
        successor.preemptPredecessor = true ∧ successor.predecessorWorkflowId = some predecessor.requestId ∧
        successor.status.waiting = true := by
  simp [reservedFor, and_assoc]

private theorem reservation_eq_some {successor : WorkflowRequest} :
    reservation rows row = some successor ↔
      rows.get? successor.requestId = some successor ∧ reservedFor row successor = true := by
  unfold reservation
  constructor
  · intro h
    split at h
    · cases h
    · rename_i found hget
      split at h
      · rename_i hres
        cases h
        rw [Table.key_of_get? hget]
        exact ⟨hget, hres⟩
      · cases h
  · rintro ⟨hget, hres⟩
    have hby := (reservedFor_iff.mp hres).2.1
    rw [hby, Option.getD_some, hget]
    simp [hres]

private theorem holdsBudget_iff :
    holdsBudget rows row = true ↔ row.remediationBudgetClaims ≠ [] ∧
      (row.status = .running ∨ heldWhileBlocked row = true ∨
        ∃ successor, rows.get? successor.requestId = some successor ∧ reservedFor row successor = true) := by
  have hsome : (reservation rows row).isSome = true ↔
      ∃ successor, rows.get? successor.requestId = some successor ∧ reservedFor row successor = true := by
    rw [Option.isSome_iff_exists]
    exact exists_congr fun _ => reservation_eq_some
  simp only [holdsBudget, Bool.and_eq_true, Bool.or_eq_true, hsome, beq_iff_eq, Bool.not_eq_true',
    List.isEmpty_eq_false_iff, or_assoc]

private theorem not_holdsBudget_of_waiting (h : row.status.waiting = true) : holdsBudget rows row = false := by
  rw [Bool.eq_false_iff]
  intro hholds
  rcases (holdsBudget_iff.mp hholds).2 with hrun | hblocked | ⟨successor, -, hres⟩
  · rw [hrun] at h
    cases h
  · have : row.status = .blocked := by simp_all [heldWhileBlocked]
    rw [this] at h
    cases h
  · rw [(reservedFor_iff.mp hres).1] at h
    cases h

private theorem holdsBudget_of_put (h : holdsBudget (rows.put row') other = true) :
    holdsBudget rows other = true ∨ reservedFor other row' = true := by
  obtain ⟨hclaims, hholds⟩ := holdsBudget_iff.mp h
  rcases hholds with hrun | hblocked | ⟨successor, hget, hres⟩
  · exact .inl (holdsBudget_iff.mpr ⟨hclaims, .inl hrun⟩)
  · exact .inl (holdsBudget_iff.mpr ⟨hclaims, .inr (.inl hblocked)⟩)
  · by_cases hs : successor.requestId = row'.requestId
    · rw [hs, Table.get?_put_self] at hget
      cases hget
      exact .inr hres
    · rw [Table.get?_put_ne hs] at hget
      exact .inl (holdsBudget_iff.mpr ⟨hclaims, .inr (.inr ⟨successor, hget, hres⟩)⟩)

private theorem SameLinks.reservedFor (hlinks : SameLinks row row')
    (hwait : row'.status.waiting = true → row.status.waiting = true) (h : reservedFor other row' = true) :
    reservedFor other row = true := by
  obtain ⟨hsup, hby, hpre, hpred, hw⟩ := reservedFor_iff.mp h
  rw [hlinks.requestId] at hby
  rw [hlinks.preempt] at hpre
  rw [hlinks.predecessor] at hpred
  exact reservedFor_iff.mpr ⟨hsup, hby, hpre, hpred, hwait hw⟩

private theorem holdsBudget_of_put_of_links (hget : rows.get? row.requestId = some row) (hlinks : SameLinks row row')
    (hwait : row'.status.waiting = true → row.status.waiting = true)
    (h : holdsBudget (rows.put row') other = true) : holdsBudget rows other = true := by
  have hclaims := (holdsBudget_iff.mp h).1
  rcases holdsBudget_of_put h with hold | hres
  · exact hold
  · exact holdsBudget_iff.mpr ⟨hclaims, .inr (.inr ⟨row, hget, hlinks.reservedFor hwait hres⟩)⟩

private theorem get?_of_put_ne (hlinks : SameLinks row row') (hne : other.requestId ≠ row.requestId)
    (h : (rows.put row').get? other.requestId = some other) : rows.get? other.requestId = some other := by
  rwa [Table.get?_put_ne (by rwa [hlinks.requestId])] at h

private theorem eq_of_put_self (hlinks : SameLinks row row') (he : other.requestId = row.requestId)
    (h : (rows.put row').get? other.requestId = some other) : other = row' := by
  rw [he, ← hlinks.requestId, Table.get?_put_self] at h
  exact (Option.some.inj h).symm

private theorem budgetOccupancy_put_le (hget : rows.get? row.requestId = some row) (hlinks : SameLinks row row')
    (hwait : row'.status.waiting = true → row.status.waiting = true)
    (hown : holdsBudget (rows.put row') row' = true → scope ∈ row'.remediationBudgetClaims →
      holdsBudget rows row = true ∧ scope ∈ row.remediationBudgetClaims) :
    budgetOccupancy (rows.put row') scope ≤ budgetOccupancy rows scope := by
  refine Table.countP_le_of_subset fun a ha hp => ?_
  simp only [Bool.and_eq_true, List.contains_iff_mem] at hp ⊢
  by_cases he : a.requestId = row.requestId
  · have hrow := eq_of_put_self hlinks he ha
    subst hrow
    exact ⟨row, hget, hown hp.1 hp.2, he.symm⟩
  · exact ⟨a, get?_of_put_ne hlinks he ha, ⟨holdsBudget_of_put_of_links hget hlinks hwait hp.1, hp.2⟩, rfl⟩

private theorem budgetOccupancy_put_le_succ (hget : rows.get? row.requestId = some row) (hlinks : SameLinks row row')
    (hwait : row'.status.waiting = true → row.status.waiting = true) :
    budgetOccupancy (rows.put row') scope ≤ budgetOccupancy rows scope + 1 := by
  refine Table.countP_le_succ row.requestId fun a ha hp he => ?_
  simp only [Bool.and_eq_true] at hp ⊢
  exact ⟨a, get?_of_put_ne hlinks he ha, ⟨holdsBudget_of_put_of_links hget hlinks hwait hp.1, hp.2⟩, rfl⟩

private theorem mem_reservedClaims (h : scope ∈ reservedClaims rows row) :
    ∃ predecessor, rows.get? predecessor.requestId = some predecessor ∧ predecessor.status = .superseded ∧
      predecessor.preemptedByWorkflowId = some row.requestId ∧ row.preemptPredecessor = true ∧
      row.predecessorWorkflowId = some predecessor.requestId ∧ scope ∈ predecessor.remediationBudgetClaims := by
  unfold reservedClaims at h
  split at h
  · cases h
  · rename_i predecessor hpred
    obtain ⟨id, hid, hget⟩ := Option.bind_eq_some_iff.mp hpred
    have hkey := Table.key_of_get? hget
    split at h
    · rename_i hcond
      simp only [Bool.and_eq_true, beq_iff_eq] at hcond
      rw [← hkey] at hid hget
      exact ⟨predecessor, hget, hcond.1.2, hcond.2, hcond.1.1, hid, h⟩
    · cases h

private theorem reservedClaims_of_reservedFor (hget : rows.get? other.requestId = some other)
    (hlinks : SameLinks row row') (h : reservedFor other row' = true) :
    reservedClaims rows row = other.remediationBudgetClaims := by
  obtain ⟨hsup, hby, hpre, hpred, -⟩ := reservedFor_iff.mp h
  rw [hlinks.requestId] at hby
  rw [hlinks.preempt] at hpre
  rw [hlinks.predecessor] at hpred
  simp [reservedClaims, hpred, hget, hpre, hsup, hby]

private theorem not_holdsBudget_put_of_preemptedBy (hlinks : SameLinks row row') (hnot : row'.status.waiting = false)
    (hsup : other.status = .superseded) (hby : other.preemptedByWorkflowId = some row.requestId) :
    holdsBudget (rows.put row') other = false := by
  rw [Bool.eq_false_iff]
  intro hholds
  rcases (holdsBudget_iff.mp hholds).2 with hrun | hblocked | ⟨successor, hs, hres⟩
  · rw [hsup] at hrun
    cases hrun
  · simp [heldWhileBlocked, hsup] at hblocked
  · obtain ⟨-, hby', -, -, hw⟩ := reservedFor_iff.mp hres
    rw [hby] at hby'
    have hrow := eq_of_put_self hlinks (Option.some.inj hby').symm hs
    subst hrow
    rw [hw] at hnot
    cases hnot

/-- A waiting row that starts to hold ends the reservation for it: each scope replaces one, or had a free slot. -/
private theorem budgetOccupancy_put_le_of_startsHolding {limit : String → Nat}
    (hget : rows.get? row.requestId = some row)
    (hlinks : SameLinks row row') (hwaits : row.status.waiting = true) (hnot : row'.status.waiting = false)
    (hclaims : row'.remediationBudgetClaims = row.remediationBudgetClaims)
    (hrep : Replaces limit rows row.remediationBudgetClaims (reservedClaims rows row))
    (hcap : budgetOccupancy rows scope ≤ limit scope) : budgetOccupancy (rows.put row') scope ≤ limit scope := by
  have hwait : row'.status.waiting = true → row.status.waiting = true := fun _ => hwaits
  by_cases hmem : scope ∈ row.remediationBudgetClaims
  · rcases hrep scope hmem with hres | hfree
    · obtain ⟨pred, hpget, hsup, hby, hpre, hpred, hscope⟩ := mem_reservedClaims hres
      have hreserved : reservedFor pred row = true := reservedFor_iff.mpr ⟨hsup, hby, hpre, hpred, hwaits⟩
      have hholds : holdsBudget rows pred = true :=
        holdsBudget_iff.mpr ⟨List.ne_nil_of_mem hscope, .inr (.inr ⟨row, hget, hreserved⟩)⟩
      refine le_trans (Table.countP_le_of_exchange row.requestId hpget (by simp [hholds, hscope]) ?_) hcap
      intro a ha hp hne
      simp only [Bool.and_eq_true] at hp ⊢
      have ha' := get?_of_put_ne hlinks hne ha
      refine ⟨fun he => ?_, a, ha', ⟨holdsBudget_of_put_of_links hget hlinks hwait hp.1, hp.2⟩, rfl⟩
      rw [he, hpget] at ha'
      cases ha'
      rw [not_holdsBudget_put_of_preemptedBy hlinks hnot hsup hby] at hp
      exact absurd hp.1 Bool.false_ne_true
    · have hsucc : budgetOccupancy (rows.put row') scope ≤ budgetOccupancy rows scope + 1 :=
        budgetOccupancy_put_le_succ hget hlinks hwait
      omega
  · refine le_trans (budgetOccupancy_put_le hget hlinks hwait fun _ hin => ?_) hcap
    rw [hclaims] at hin
    exact absurd hin hmem

/-- A running row that waits again gives up its hold and brings back the reservation for it. -/
private theorem budgetOccupancy_put_le_of_waitsAgain {limit : String → Nat}
    (hget : rows.get? row.requestId = some row)
    (hlinks : SameLinks row row') (hruns : row.status = .running) (hwaits : row'.status.waiting = true)
    (hrep : Replaces limit rows (reservedClaims rows row) row.remediationBudgetClaims)
    (hcap : budgetOccupancy rows scope ≤ limit scope) : budgetOccupancy (rows.put row') scope ≤ limit scope := by
  -- every holder but the predecessor of the row held before, and the row itself no longer holds
  have hother : ∀ a, (rows.put row').get? a.requestId = some a → holdsBudget (rows.put row') a = true →
      a.requestId ≠ row.requestId ∧ rows.get? a.requestId = some a ∧
        (holdsBudget rows a = true ∨ reservedFor a row' = true) := by
    intro a ha hp
    have hne : a.requestId ≠ row.requestId := by
      intro he
      have hrow := eq_of_put_self hlinks he ha
      subst hrow
      rw [not_holdsBudget_of_waiting hwaits] at hp
      cases hp
    exact ⟨hne, get?_of_put_ne hlinks hne ha, holdsBudget_of_put hp⟩
  by_cases hmem : scope ∈ reservedClaims rows row
  · obtain ⟨pred, hpget, -, -, -, hpred, -⟩ := mem_reservedClaims hmem
    have hrest : ∀ a, reservedFor a row' = true → a.requestId = pred.requestId := by
      intro a hres
      have hpred' := (reservedFor_iff.mp hres).2.2.2.1
      rw [hlinks.predecessor, hpred] at hpred'
      exact (Option.some.inj hpred').symm
    rcases hrep scope hmem with hrow | hfree
    · have hholds : holdsBudget rows row = true :=
        holdsBudget_iff.mpr ⟨List.ne_nil_of_mem hrow, .inl hruns⟩
      refine le_trans (Table.countP_le_of_exchange pred.requestId hget (by simp [hholds, hrow]) ?_) hcap
      intro a ha hp hne
      simp only [Bool.and_eq_true] at hp ⊢
      obtain ⟨hself, ha', hold | hres⟩ := hother a ha hp.1
      · exact ⟨hself, a, ha', ⟨hold, hp.2⟩, rfl⟩
      · exact absurd (hrest a hres) hne
    · have hsucc : budgetOccupancy (rows.put row') scope ≤ budgetOccupancy rows scope + 1 := by
        refine Table.countP_le_succ pred.requestId fun a ha hp hne => ?_
        simp only [Bool.and_eq_true] at hp ⊢
        obtain ⟨-, ha', hold | hres⟩ := hother a ha hp.1
        · exact ⟨a, ha', ⟨hold, hp.2⟩, rfl⟩
        · exact absurd (hrest a hres) hne
      omega
  · refine le_trans (Table.countP_le_of_subset fun a ha hp => ?_) hcap
    simp only [Bool.and_eq_true, List.contains_iff_mem] at hp ⊢
    obtain ⟨-, ha', hold | hres⟩ := hother a ha hp.1
    · exact ⟨a, ha', ⟨hold, hp.2⟩, rfl⟩
    · rw [reservedClaims_of_reservedFor ha' hlinks hres] at hmem
      exact absurd hp.2 hmem

/-- A row admitted against everyone else's holds stays within the limit once it counts. -/
private theorem budgetOccupancy_put_le_of_admitted {limit : String → Nat} (hget : rows.get? row.requestId = some row)
    (hlinks : SameLinks row row') (hnot : row'.status.waiting = false)
    (hfree : budgetOccupancyExcept rows row.requestId scope < limit scope) :
    budgetOccupancy (rows.put row') scope ≤ limit scope := by
  have hsucc : budgetOccupancy (rows.put row') scope ≤ budgetOccupancyExcept rows row.requestId scope + 1 := by
    refine Table.countP_le_succ row.requestId fun a ha hp hne => ?_
    simp only [Bool.and_eq_true, Bool.not_eq_true'] at hp ⊢
    have hwait : row'.status.waiting = true → row.status.waiting = true := by simp [hnot]
    refine ⟨a, get?_of_put_ne hlinks hne ha, ⟨⟨holdsBudget_of_put_of_links hget hlinks hwait hp.1, ?_⟩, hp.2⟩, rfl⟩
    rw [Bool.eq_false_iff]
    intro hcounted
    simp only [countedFor, Bool.or_eq_true, beq_iff_eq, Bool.and_eq_true, Option.any_eq_true] at hcounted
    rcases hcounted with he | ⟨-, successor, hres, hsid⟩
    · exact hne he
    · obtain ⟨-, hres⟩ := reservation_eq_some.mp hres
      obtain ⟨hsup, hby, -⟩ := reservedFor_iff.mp hres
      rw [hsid] at hby
      rw [not_holdsBudget_put_of_preemptedBy hlinks hnot hsup hby] at hp
      exact absurd hp.1 Bool.false_ne_true
  omega

private theorem holdsBudget_congr (hid : row'.requestId = row.requestId) (hstatus : row'.status = row.status)
    (hby : row'.preemptedByWorkflowId = row.preemptedByWorkflowId)
    (hheld : heldWhileBlocked row' = heldWhileBlocked row)
    (hclaims : row.remediationBudgetClaims ≠ []) (h : holdsBudget rows row' = true) :
    holdsBudget rows row = true := by
  have hres : ∀ successor, reservedFor row' successor = reservedFor row successor := by
    intro successor
    unfold reservedFor
    rw [hid, hstatus, hby]
  rw [holdsBudget_iff] at h ⊢
  simp only [hstatus, hheld, hres] at h
  exact ⟨hclaims, h.2⟩

/-! ### What one write does to the hold of its row -/

/-- The ways a write on `row` can change what counts. -/
inductive HoldChange (limit : String → Nat) (rows : WorkflowTable) (row row' : WorkflowRequest) : Prop where
  /-- The row holds and waits only if it did. -/
  | kept (hwait : row'.status.waiting = true → row.status.waiting = true)
      (hclaims : row'.remediationBudgetClaims = row.remediationBudgetClaims)
      (hholds : holdsBudget rows row' = true → holdsBudget rows row = true)
  /-- The row is admitted for all its scopes. -/
  | admitted (hruns : row'.status = .running)
      (hfree : ∀ scope ∈ row'.remediationBudgetClaims, budgetOccupancyExcept rows row.requestId scope < limit scope)
  /-- The row is admitted for some more scopes. -/
  | extended (hstatus : row'.status = row.status) (hby : row'.preemptedByWorkflowId = row.preemptedByWorkflowId)
      (hheld : heldWhileBlocked row' = heldWhileBlocked row)
      (hfree : ∀ scope ∈ row'.remediationBudgetClaims, scope ∈ row.remediationBudgetClaims ∨
        budgetOccupancyExcept rows row.requestId scope < limit scope)
  /-- A waiting row starts to hold the scopes it lists. -/
  | started (hwaits : row.status.waiting = true) (hnot : row'.status.waiting = false)
      (hclaims : row'.remediationBudgetClaims = row.remediationBudgetClaims)
      (hrep : Replaces limit rows row.remediationBudgetClaims (reservedClaims rows row))
  /-- A running row waits again. -/
  | waited (hruns : row.status = .running) (hwaits : row'.status.waiting = true)
      (hrep : Replaces limit rows (reservedClaims rows row) row.remediationBudgetClaims)

private theorem HoldChange.budgetOccupancy_le {limit : String → Nat} (hchange : HoldChange limit rows row row')
    (hget : rows.get? row.requestId = some row) (hlinks : SameLinks row row')
    (hcap : budgetOccupancy rows scope ≤ limit scope) : budgetOccupancy (rows.put row') scope ≤ limit scope := by
  cases hchange with
  | kept hwait hclaims hholds =>
    refine le_trans (budgetOccupancy_put_le hget hlinks hwait fun h hin => ?_) hcap
    rw [hclaims] at hin
    exact ⟨hholds (holdsBudget_of_put_of_links hget hlinks hwait h), hin⟩
  | admitted hruns hfree =>
    have hnot : row'.status.waiting = false := by rw [hruns]; rfl
    by_cases hin : scope ∈ row'.remediationBudgetClaims
    · exact budgetOccupancy_put_le_of_admitted hget hlinks hnot (hfree scope hin)
    · have hwait : row'.status.waiting = true → row.status.waiting = true := by simp [hnot]
      exact le_trans (budgetOccupancy_put_le hget hlinks hwait fun _ h => absurd h hin) hcap
  | extended hstatus hby hheld hfree =>
    have hwait : row'.status.waiting = true → row.status.waiting = true := by rw [hstatus]; exact id
    by_cases hold : row.status.waiting = false ∧
        scope ∈ row'.remediationBudgetClaims ∧ scope ∉ row.remediationBudgetClaims
    · rw [← hstatus] at hold
      exact budgetOccupancy_put_le_of_admitted hget hlinks hold.1 ((hfree scope hold.2.1).resolve_left hold.2.2)
    · refine le_trans (budgetOccupancy_put_le hget hlinks hwait fun h hin => ?_) hcap
      have hrow' := holdsBudget_of_put_of_links hget hlinks hwait h
      by_cases hw : row.status.waiting = true
      · rw [← hstatus] at hw
        rw [not_holdsBudget_of_waiting hw] at hrow'
        cases hrow'
      · have hin' : scope ∈ row.remediationBudgetClaims := by
          by_contra hout
          exact hold ⟨Bool.eq_false_iff.mpr hw, hin, hout⟩
        exact ⟨holdsBudget_congr hlinks.requestId hstatus hby hheld (List.ne_nil_of_mem hin') hrow', hin'⟩
  | started hwaits hnot hclaims hrep =>
    exact budgetOccupancy_put_le_of_startsHolding hget hlinks hwaits hnot hclaims hrep hcap
  | waited hruns hwaits hrep => exact budgetOccupancy_put_le_of_waitsAgain hget hlinks hruns hwaits hrep hcap

private theorem HoldChange.of_same {limit : String → Nat} (hid : row'.requestId = row.requestId)
    (hstatus : row'.status = row.status) (hby : row'.preemptedByWorkflowId = row.preemptedByWorkflowId)
    (hheld : heldWhileBlocked row' = heldWhileBlocked row)
    (hclaims : row'.remediationBudgetClaims = row.remediationBudgetClaims) : HoldChange limit rows row row' := by
  refine .kept (by rw [hstatus]; exact id) hclaims fun h => ?_
  have hne := (holdsBudget_iff.mp h).1
  rw [hclaims] at hne
  exact holdsBudget_congr hid hstatus hby hheld hne h

end Occupancy

/-! ### What each operation writes -/

section Writes

variable {limit : String → Nat} {rows rows' : WorkflowTable} {row : WorkflowRequest}

/-- What an operation does to the rows: nothing, one new row, or one write with a `HoldChange`. -/
inductive BudgetWrite (limit : String → Nat) (rows : WorkflowTable) : WorkflowTable → Prop where
  | unchanged : BudgetWrite limit rows rows
  | created (workflow : WorkflowRequest) (hnew : rows.get? workflow.requestId = none) :
      BudgetWrite limit rows (rows.put (createdRow workflow))
  | written (row row' : WorkflowRequest) (hget : rows.get? row.requestId = some row) (hlinks : SameLinks row row')
      (hchange : HoldChange limit rows row row')
      (hby : row'.preemptedByWorkflowId = row.preemptedByWorkflowId ∨
        ∃ successor, row'.preemptedByWorkflowId = some successor.requestId ∧
          rows.get? successor.requestId = some successor) : BudgetWrite limit rows (rows.put row')

/-- An admitted row lists exactly scopes with a free slot, and changes nothing else that counts. -/
private theorem admitAgainstOccupancy_ok {workflow admitted : WorkflowRequest} {occupancy : String → Nat}
    {claims : List (String × Nat)} (hlimits : ∀ entry ∈ claims, entry.2 = limit entry.1)
    (h : admitAgainstOccupancy workflow occupancy claims = .ok admitted) :
    (∀ scope ∈ admitted.remediationBudgetClaims, occupancy scope < limit scope) ∧
      ∃ scopes limits, admitted = { workflow with
        remediationBudgetClaims := scopes
        remediationBudgetLimits := limits
        remediationBudgetLastBlockedReason := none
        remediationBudgetLastBlockedScope := none } := by
  unfold admitAgainstOccupancy at h
  dsimp only at h
  split at h
  · cases h
  · rename_i hfind
    cases h
    refine ⟨fun scope hscope => ?_, _, _, rfl⟩
    obtain ⟨entry, hentry, rfl⟩ := List.mem_map.mp (mem_sortedSet.mp hscope)
    have hfree := List.find?_eq_none.mp hfind entry ((List.mem_insertionSort _).mpr hentry)
    rw [decide_eq_true_eq, not_le] at hfree
    rwa [hlimits entry (List.mem_filter.mp hentry).1] at hfree

private theorem BudgetWrite.of_same {row row' : WorkflowRequest} (hget : rows.get? row.requestId = some row)
    (hlinks : SameLinks row row') (hstatus : row'.status = row.status)
    (hby : row'.preemptedByWorkflowId = row.preemptedByWorkflowId)
    (hheld : heldWhileBlocked row' = heldWhileBlocked row)
    (hclaims : row'.remediationBudgetClaims = row.remediationBudgetClaims) : BudgetWrite limit rows (rows.put row') :=
  .written row row' hget hlinks (.of_same hlinks.requestId hstatus hby hheld hclaims) (.inl hby)

private theorem claimWorkflow_write {claim : WorkflowClaim}
    (hlimits : ∀ entry ∈ claim.budgetClaims.getD [], entry.2 = limit entry.1) :
    BudgetWrite limit rows (claimWorkflow rows claim).1 := by
  unfold claimWorkflow
  split
  · exact .unchanged
  · rename_i row hget
    rw [← Table.key_of_get? hget] at hget
    split
    · exact .unchanged
    · dsimp only
      split
      · exact .unchanged
      · split
        · exact .of_same hget ⟨rfl, rfl, rfl⟩ rfl rfl rfl rfl
        · rename_i claims hclaims
          rw [hclaims, Option.getD_some] at hlimits
          split
          · exact .of_same hget ⟨rfl, rfl, rfl⟩ rfl rfl rfl rfl
          · exact .unchanged
          · rename_i admitted hadmit
            unfold applyRemediationBudget at hadmit
            split at hadmit
            · cases hadmit
            · rename_i admitted' hok
              split at hadmit
              · cases hadmit
                obtain ⟨hfree, scopes, limits, rfl⟩ := admitAgainstOccupancy_ok hlimits hok
                exact .written row _ hget ⟨rfl, rfl, rfl⟩ (.admitted rfl hfree) (.inl rfl)
              · cases hadmit

private theorem extendRemediationBudget_write {requestId executorId : String} {claims : List (String × Nat)}
    {now : Time} {extended : WorkflowRequest} (hlimits : ∀ entry ∈ claims, entry.2 = limit entry.1)
    (h : extendRemediationBudget rows requestId executorId claims now = .ok (rows', extended)) :
    BudgetWrite limit rows rows' := by
  unfold extendRemediationBudget at h
  split at h
  · cases h
  · rename_i row hget
    rw [← Table.key_of_get? hget] at hget
    split at h
    · cases h
    · split at h
      · cases h
      · rename_i extended' hextend
        cases h
        unfold extendAgainstOccupancy at hextend
        split at hextend
        · cases hextend
        · rename_i admitted hok
          cases hextend
          obtain ⟨hfree, -⟩ := admitAgainstOccupancy_ok hlimits hok
          refine .written row _ hget ⟨rfl, rfl, rfl⟩ (.extended rfl rfl rfl fun scope hscope => ?_) (.inl rfl)
          rcases List.mem_append.mp (mem_sortedSet.mp hscope) with hold | hnew
          · exact .inl hold
          · exact .inr (hfree scope hnew)

private theorem leasedRow?_eq_some {requestId executorId : String} {now : Time}
    (h : leasedRow? rows requestId executorId now = some row) :
    rows.get? row.requestId = some row ∧ row.requestId = requestId ∧ row.status.executable = true := by
  unfold leasedRow? at h
  split at h
  · cases h
  · rename_i found hget
    split at h
    · rename_i hcond
      cases h
      simp only [Bool.and_eq_true] at hcond
      have hkey := Table.key_of_get? hget
      exact ⟨by rw [hkey]; exact hget, hkey, hcond.1⟩
    · cases h

private theorem WorkflowStatus.running_or_waiting {status : WorkflowStatus} (h : status.executable = true) :
    status = .running ∨ status.waiting = true := by
  cases status <;> simp_all [WorkflowStatus.executable, WorkflowStatus.waiting]

private theorem HoldChange.of_ended {row row' : WorkflowRequest} (hexec : row.status.executable = true)
    (hnot : row'.status.waiting = false) (hrun : row'.status ≠ .running)
    (hclaims : row'.remediationBudgetClaims = row.remediationBudgetClaims)
    (hcap : row.status.waiting = true → (heldWhileBlocked row' || (reservation rows row').isSome) = true →
      Replaces limit rows row.remediationBudgetClaims (reservedClaims rows row)) :
    HoldChange limit rows row row' := by
  have hwait : row'.status.waiting = true → row.status.waiting = true := by simp [hnot]
  rcases WorkflowStatus.running_or_waiting hexec with hruns | hwaits
  · refine .kept hwait hclaims fun h => holdsBudget_iff.mpr ⟨?_, .inl hruns⟩
    rw [← hclaims]
    exact (holdsBudget_iff.mp h).1
  · by_cases hheld : (heldWhileBlocked row' || (reservation rows row').isSome) = true
    · exact .started hwaits hnot hclaims (hcap hwaits hheld)
    · refine .kept hwait hclaims fun h => absurd ?_ hheld
      simpa [holdsBudget, hrun] using (Bool.and_eq_true_iff.mp h).2

private theorem getPreemptingSuccessor_eq_some {predecessorId : String} {successor : WorkflowRequest}
    (h : getPreemptingSuccessor rows predecessorId = some successor) :
    rows.get? successor.requestId = some successor := by
  have hmem := List.mem_of_head? h
  rw [List.mem_insertionSort, List.mem_filter, Table.mem_rows] at hmem
  exact hmem.1

private theorem recordedRow_write {requestId executorId : String} {now now' : Time}
    {stepExecutions : List WorkflowStepExecution} {completed : List Nat}
    (hrow : leasedRow? rows requestId executorId now = some row) :
    BudgetWrite limit rows (rows.put (recordedRow row stepExecutions completed now')) := by
  obtain ⟨hget, -, hexec⟩ := leasedRow?_eq_some hrow
  have hblocked : ∀ row' : WorkflowRequest, row'.status = row.status → heldWhileBlocked row' = false := by
    intro row' hstatus
    unfold heldWhileBlocked
    rw [hstatus]
    cases hs : row.status <;> simp_all [WorkflowStatus.executable]
  refine .of_same hget ⟨rfl, rfl, rfl⟩ rfl rfl ?_ rfl
  exact (hblocked (recordedRow row stepExecutions completed now') rfl).trans (hblocked row rfl).symm

private theorem endRow_write {requestId executorId : String} {now : Time} {write : RowEnding}
    (hterminal : write.status.terminal = true) (hrow : leasedRow? rows requestId executorId now = some row)
    (hcap : row.status.waiting = true →
      (heldWhileBlocked (endRow row write) || (reservation rows (endRow row write)).isSome) = true →
      Replaces limit rows row.remediationBudgetClaims (reservedClaims rows row)) :
    BudgetWrite limit rows (rows.put (endRow row write)) := by
  obtain ⟨hget, -, hexec⟩ := leasedRow?_eq_some hrow
  have hstatus : (endRow row write).status = write.status := rfl
  refine .written row _ hget ⟨rfl, rfl, rfl⟩ (.of_ended hexec ?_ ?_ rfl hcap) (.inl rfl)
  · rw [hstatus]
    cases hs : write.status <;> simp_all [WorkflowStatus.terminal, WorkflowStatus.waiting]
  · rw [hstatus]
    intro hrun
    rw [hrun] at hterminal
    cases hterminal

private theorem supersedeRow_write {requestId executorId : String} {successor : WorkflowRequest}
    {reason : Option String} {now now' : Time} (hsucc : rows.get? successor.requestId = some successor)
    (hrow : leasedRow? rows requestId executorId now = some row)
    (hcap : row.status.waiting = true →
      (heldWhileBlocked (supersedeRow row successor.requestId reason now') ||
        (reservation rows (supersedeRow row successor.requestId reason now')).isSome) = true →
      Replaces limit rows row.remediationBudgetClaims (reservedClaims rows row)) :
    BudgetWrite limit rows (rows.put (supersedeRow row successor.requestId reason now')) := by
  obtain ⟨hget, -, hexec⟩ := leasedRow?_eq_some hrow
  have hstatus : (supersedeRow row successor.requestId reason now').status = .superseded := rfl
  refine .written row _ hget ⟨rfl, rfl, rfl⟩ (.of_ended hexec ?_ ?_ rfl hcap) (.inr ⟨successor, rfl, hsucc⟩)
  · rw [hstatus]
    rfl
  · rw [hstatus]
    decide

/-- Every leased write that ends its row. -/
private theorem leasedWrite_write {op : BudgetOp} {requestId executorId : String} {now : Time}
    (hcap : LeasedKeepsCap limit rows requestId executorId now (op.written rows)) :
    BudgetWrite limit rows (leasedWrite rows requestId executorId now (op.written rows)) := by
  unfold LeasedKeepsCap at hcap
  unfold leasedWrite
  split
  · exact .unchanged
  · rename_i row hrow
    rw [hrow] at hcap
    dsimp only at hcap
    split
    · exact .unchanged
    · rename_i row' hwrite
      rw [hwrite] at hcap
      dsimp only at hcap
      cases op with
      | record =>
        cases hwrite
        exact recordedRow_write hrow
      | terminate id executor write =>
        simp only [BudgetOp.written] at hwrite
        split at hwrite
        · rename_i hterminal
          cases hwrite
          exact endRow_write hterminal hrow hcap
        · cases hwrite
      | supersede id executor at' =>
        obtain ⟨successor, hsucc, rfl⟩ := Option.map_eq_some_iff.mp hwrite
        exact supersedeRow_write (getPreemptingSuccessor_eq_some hsucc) hrow hcap
      | supersedeGeneration id executor successorId reason at' =>
        obtain ⟨successor, hsucc, rfl⟩ := Option.map_eq_some_iff.mp hwrite
        rw [← Table.key_of_get? hsucc] at hsucc
        exact supersedeRow_write hsucc hrow hcap
      | _ => cases hwrite

/-- An internal-error release writes the row back with the released status and no lease, or only takes its lease. -/
private theorem releaseAfterInternalError_cases (rows : WorkflowTable) (scanned : WorkflowRequest)
    (executorId : String) (now : Time) (backoff : Int) :
    releaseAfterInternalError rows scanned executorId now backoff = rows ∨
      ∃ row owner epoch expires,
        rows.get? scanned.requestId = some row ∧ row.status.executable = true ∧
        (releaseAfterInternalError rows scanned executorId now backoff =
            rows.put { row with
              executionOwnerId := owner, executionEpoch := epoch, executionLeaseExpiresAt := expires } ∨
          releaseAfterInternalError rows scanned executorId now backoff =
            rows.put { row with
              status := releasedStatus scanned row, executionEpoch := epoch, executionOwnerId := none,
              executionLeaseExpiresAt := none, notBefore := some (now + backoff), updatedAt := now }) := by
  unfold releaseAfterInternalError
  split
  · exact .inl rfl
  · rename_i row hget
    split
    · exact .inl rfl
    · split
      · exact .inl rfl
      · rename_i hexec
        rw [Bool.not_eq_true', Bool.not_eq_false] at hexec
        refine .inr ?_
        dsimp only
        by_cases hnone : row.executionOwnerId.isNone = true
        · simp only [if_pos hnone]
          split
          · exact ⟨row, none, _, none, hget, hexec, .inr rfl⟩
          · exact ⟨row, _, _, _, hget, hexec, .inl rfl⟩
        · simp only [if_neg hnone]
          split
          · exact ⟨row, none, row.executionEpoch, none, hget, hexec, .inr rfl⟩
          · exact ⟨row, row.executionOwnerId, row.executionEpoch, row.executionLeaseExpiresAt, hget, hexec, .inl rfl⟩

private theorem releasedStatus_executable {scanned row : WorkflowRequest} (hexec : row.status.executable = true) :
    (releasedStatus scanned row).executable = true := by
  unfold releasedStatus
  generalize (if scanned.executesSafetySteps then row.safetySteps else row.officialSteps) = steps
  dsimp only
  split
  · rfl
  · split
    · assumption
    · exact hexec

/-- A release keeps the row as it was, makes a running row wait or makes a waiting row run. -/
private theorem HoldChange.of_released {row row' : WorkflowRequest} (hid : row'.requestId = row.requestId)
    (hexec : row.status.executable = true) (hexec' : row'.status.executable = true)
    (hby : row'.preemptedByWorkflowId = row.preemptedByWorkflowId)
    (hheld : row'.status = row.status → heldWhileBlocked row' = heldWhileBlocked row)
    (hclaims : row'.remediationBudgetClaims = row.remediationBudgetClaims)
    (hwaited : row.status = .running → row'.status.waiting = true →
      Replaces limit rows (reservedClaims rows row) row.remediationBudgetClaims)
    (hstarted : row.status.waiting = true → row'.status = .running →
      Replaces limit rows row.remediationBudgetClaims (reservedClaims rows row)) :
    HoldChange limit rows row row' := by
  rcases WorkflowStatus.running_or_waiting hexec with hruns | hwaits
  · rcases WorkflowStatus.running_or_waiting hexec' with hruns' | hwaits'
    · have hstatus : row'.status = row.status := by rw [hruns, hruns']
      exact .of_same hid hstatus hby (hheld hstatus) hclaims
    · exact .waited hruns hwaits' (hwaited hruns hwaits')
  · rcases WorkflowStatus.running_or_waiting hexec' with hruns' | hwaits'
    · exact .started hwaits (by rw [hruns']; rfl) hclaims (hstarted hwaits hruns')
    · refine .kept (fun _ => hwaits) hclaims fun h => ?_
      rw [not_holdsBudget_of_waiting hwaits'] at h
      cases h

private theorem releaseAfterInternalError_write {scanned : WorkflowRequest} {executorId : String} {now : Time}
    {backoff : Int} (hcap : (BudgetOp.internalErrorRelease scanned executorId now backoff).KeepsCap limit rows) :
    BudgetWrite limit rows (releaseAfterInternalError rows scanned executorId now backoff) := by
  rcases releaseAfterInternalError_cases rows scanned executorId now backoff with
    h | ⟨row, owner, epoch, expires, hget, hexec, h | h⟩
  · rw [h]
    exact .unchanged
  · rw [h]
    rw [← Table.key_of_get? hget] at hget
    exact .of_same hget ⟨rfl, rfl, rfl⟩ rfl rfl rfl rfl
  · rw [h]
    simp only [BudgetOp.KeepsCap, hget] at hcap
    rw [← Table.key_of_get? hget] at hget
    refine .written row _ hget ⟨rfl, rfl, rfl⟩ ?_ (.inl rfl)
    refine .of_released rfl hexec (releasedStatus_executable hexec) rfl (fun hstatus => ?_) rfl hcap.1 hcap.2
    change releasedStatus scanned row = row.status at hstatus
    unfold heldWhileBlocked
    dsimp only
    rw [hstatus]
    rfl

/-- Every operation that meets its conditions makes a `BudgetWrite`. -/
private theorem budgetStep_write {op : BudgetOp} (hlimits : op.LimitsAre limit) (hcap : op.KeepsCap limit rows) :
    BudgetWrite limit rows (budgetStep rows op) := by
  cases op with
  | create workflow =>
    simp only [budgetStep]
    split
    · exact .unchanged
    · rename_i hnew
      exact .created workflow (by simpa using hnew)
  | claim claim => exact claimWorkflow_write hlimits
  | extend requestId executorId claims now =>
    simp only [budgetStep]
    split
    · exact .unchanged
    · rename_i rows' extended h
      exact extendRemediationBudget_write hlimits h
  | record requestId executorId stepExecutions completed now =>
    simp only [budgetStep, leasedWrite]
    split
    · exact .unchanged
    · rename_i row hrow
      exact recordedRow_write hrow
  | terminate requestId executorId write => exact leasedWrite_write hcap
  | supersede requestId executorId now => exact leasedWrite_write hcap
  | supersedeGeneration requestId executorId successorId reason now => exact leasedWrite_write hcap
  | internalErrorRelease scanned executorId now backoff => exact releaseAfterInternalError_write hcap

end Writes

/-! ### Runs -/

/-- The holders of every scope are within its limit, and every supersession names a row that exists. -/
structure WithinBudget (limit : String → Nat) (rows : WorkflowTable) : Prop where
  capped : ∀ scope, budgetOccupancy rows scope ≤ limit scope
  linked : ∀ row successor, rows.get? row.requestId = some row → row.preemptedByWorkflowId = some successor →
    (rows.get? successor).isSome = true

section Runs

variable {limit : String → Nat} {rows rows' : WorkflowTable}

private theorem withinBudget_empty : WithinBudget limit Table.empty where
  capped _ := Nat.zero_le _
  linked row successor h := by simp at h

private theorem isSome_put {row : WorkflowRequest} {k : String} (h : (rows.get? k).isSome = true) :
    ((rows.put row).get? k).isSome = true := by
  rw [Table.get?_put]
  split
  · rfl
  · exact h

private theorem sameLinks_createdRow (workflow : WorkflowRequest) : SameLinks workflow (createdRow workflow) :=
  ⟨rfl, rfl, rfl⟩

/-- A new row holds nothing, and no row was superseded for it. -/
private theorem WithinBudget.created (hin : WithinBudget limit rows) {workflow : WorkflowRequest}
    (hnew : rows.get? workflow.requestId = none) : WithinBudget limit (rows.put (createdRow workflow)) where
  capped scope := by
    refine le_trans (Table.countP_le_of_subset fun a ha hp => ?_) (hin.capped scope)
    simp only [Bool.and_eq_true] at hp ⊢
    by_cases he : a.requestId = workflow.requestId
    · have hrow := eq_of_put_self (sameLinks_createdRow workflow) he ha
      subst hrow
      exact absurd rfl (holdsBudget_iff.mp hp.1).1
    · have ha' := get?_of_put_ne (sameLinks_createdRow workflow) he ha
      rcases holdsBudget_of_put hp.1 with hold | hres
      · exact ⟨a, ha', ⟨hold, hp.2⟩, rfl⟩
      · have hlinked := hin.linked a _ ha' (reservedFor_iff.mp hres).2.1
        change (rows.get? workflow.requestId).isSome = true at hlinked
        rw [hnew] at hlinked
        cases hlinked
  linked row successor hget hby := by
    refine isSome_put ?_
    by_cases he : row.requestId = workflow.requestId
    · have hrow := eq_of_put_self (sameLinks_createdRow workflow) he hget
      subst hrow
      cases hby
    · exact hin.linked row successor (get?_of_put_ne (sameLinks_createdRow workflow) he hget) hby

private theorem WithinBudget.write (hin : WithinBudget limit rows) (h : BudgetWrite limit rows rows') :
    WithinBudget limit rows' := by
  cases h with
  | unchanged => exact hin
  | created workflow hnew => exact hin.created hnew
  | written row row' hget hlinks hchange hby =>
    refine ⟨fun scope => hchange.budgetOccupancy_le hget hlinks (hin.capped scope), ?_⟩
    intro other successor hother hpre
    refine isSome_put ?_
    by_cases he : other.requestId = row.requestId
    · have hrow := eq_of_put_self hlinks he hother
      subst hrow
      rcases hby with hsame | ⟨named, hnamed, hex⟩
      · rw [hsame] at hpre
        exact hin.linked row successor hget hpre
      · rw [hnamed] at hpre
        cases hpre
        rw [hex]
        rfl
    · exact hin.linked other successor (get?_of_put_ne hlinks he hother) hpre

/-- In a run whose claims agree on limits and whose other writes meet `KeepsCap`, no state reached has more holders
in a scope than its limit. -/
theorem budgetOccupancy_le_limit {limit : String → Nat} {ops : List BudgetOp}
    (h : Run.Along budgetStep (fun rows op => op.LimitsAre limit ∧ op.KeepsCap limit rows) Table.empty ops) :
    ∀ reached rest, ops = reached ++ rest → ∀ scope,
      budgetOccupancy (Run.exec budgetStep Table.empty reached) scope ≤ limit scope := by
  intro reached rest hops scope
  subst hops
  have hstep : ∀ rows (op : BudgetOp), WithinBudget limit rows → op.LimitsAre limit ∧ op.KeepsCap limit rows →
      WithinBudget limit (budgetStep rows op) := fun rows op hin hop => hin.write (budgetStep_write hop.1 hop.2)
  exact (Run.invariant_exec hstep withinBudget_empty h.split.1).capped scope

end Runs

section Handoff

private def handoffClaim (requestId : String) (claims : List (String × Nat)) (now : Time) : BudgetOp :=
  .claim { requestId, executorId := "e", fencingToken := 1, now, leaseDuration := 180000000,
           budgetClaims := some claims }

private def handoffPredecessor : WorkflowRequest := { requestId := "p", status := .pending }

private def handoffSuccessor : WorkflowRequest :=
  { requestId := "q", status := .pending, predecessorWorkflowId := some "p", preemptPredecessor := true }

private def handoffStranger : WorkflowRequest := { requestId := "r", status := .pending }

/-- A successor takes over a node and leaves the job scope of its predecessor to a third workflow. -/
private def handoffRun : List BudgetOp :=
  [.create handoffPredecessor, handoffClaim "p" [("node:c:n1", 1), ("job:c:w", 1)] 0,
    .create handoffSuccessor, .supersede "p" "e" 1, handoffClaim "q" [("node:c:n1", 1)] 2,
    .create handoffStranger, handoffClaim "r" [("node:c:n2", 1), ("job:c:w", 1)] 3]

private def handoffRelease : BudgetOp := .internalErrorRelease handoffSuccessor "e" 4 60000000

/-- The successor, put back to PENDING, brings the reservation of the job scope back beside its new holder. -/
theorem release_exceeds_budget_limit :
    (∀ op ∈ handoffRun ++ [handoffRelease], op.LimitsAre fun _ => 1) ∧
      budgetOccupancy (Run.exec budgetStep Table.empty (handoffRun ++ [handoffRelease])) "job:c:w" = 2 := by
  decide

/-- Before the third workflow claims, the same release finds a free slot in the job scope. -/
theorem budgetOccupancy_le_limit_handoff :
    budgetOccupancy (Run.exec budgetStep Table.empty (handoffRun.take 5 ++ [handoffRelease])) "job:c:w" ≤ 1 := by
  refine @budgetOccupancy_le_limit (fun _ => 1) (handoffRun.take 5 ++ [handoffRelease]) ?_ _ []
    (List.append_nil _).symm "job:c:w"
  refine ⟨⟨by decide, trivial⟩, ⟨by decide, trivial⟩, ⟨by decide, trivial⟩, ⟨by decide, ?_⟩, ⟨by decide, trivial⟩,
    ⟨by decide, ?_⟩, trivial⟩
  · simp only [BudgetOp.KeepsCap]
    decide
  · refine ⟨fun _ _ => ?_, fun h => absurd h (by decide)⟩
    show Replaces _ _ _ _
    decide

end Handoff

end GpuFaultRecovery
