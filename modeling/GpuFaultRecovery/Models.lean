import Mathlib.Data.Int.Order.Basic
import Mathlib.Data.List.Dedup
import Mathlib.Data.List.Sort

/-!
# Records of the control plane

The records every subsystem passes around: a workflow is a row with a list of steps, the indexes of the steps that
are finished or retired, and one execution record per attempted step. Instants are microseconds on one clock, and
the open dictionaries of the source (`parameters`, `details`) are `Json` objects. The audit trail of a row is no field
here: `ExecutionRecord` keeps it beside the row for the functions that read it.
-/

namespace GpuFaultRecovery

/-- An instant, in microseconds. -/
abbrev Time := Int

/-- Instants are compared as integers, by the order that computes. -/
instance : Preorder Time := Int.instLinearOrder.toPreorder

/-- `sorted(set(l))`. -/
def sortedSet {α : Type*} [DecidableEq α] [LE α] [DecidableRel (α := α) (· ≤ ·)] (l : List α) : List α :=
  l.dedup.insertionSort (· ≤ ·)

@[simp] theorem mem_sortedSet {α : Type*} [DecidableEq α] [LE α] [DecidableRel (α := α) (· ≤ ·)]
    {l : List α} {a : α} :
    a ∈ sortedSet l ↔ a ∈ l := by
  simp [sortedSet]

/-- `sorted(set(l))` depends on the members of `l` only. -/
theorem sortedSet_congr {α : Type*} [DecidableEq α] [LE α] [DecidableRel (α := α) (· ≤ ·)]
    [Std.Total (α := α) (· ≤ ·)] [IsTrans α (· ≤ ·)] [Std.Antisymm (α := α) (· ≤ ·)] {l l' : List α}
    (h : ∀ a, a ∈ l ↔ a ∈ l') :
    sortedSet l = sortedSet l' := by
  have hdedup : l.dedup.Perm l'.dedup := by
    rw [List.perm_ext_iff_of_nodup l.nodup_dedup l'.nodup_dedup]
    simpa using h
  have hperm : (sortedSet l).Perm (sortedSet l') :=
    (List.perm_insertionSort _ _).trans (hdedup.trans (List.perm_insertionSort _ _).symm)
  exact hperm.eq_of_pairwise' (List.pairwise_insertionSort _ _) (List.pairwise_insertionSort _ _)

theorem bind_ok {ε α β : Type} {x : Except ε α} {f : α → Except ε β} {b : β} (h : (x >>= f) = .ok b) :
    ∃ a, x = .ok a ∧ f a = .ok b := by
  cases x with
  | error e => cases h
  | ok a => exact ⟨a, rfl, h⟩

/-! ### JSON values -/

/-- A JSON value; `dec m d` is the decimal number `m / 10 ^ d`. -/
inductive Json where
  | null
  | bool (b : Bool)
  | int (n : Int)
  | dec (mantissa : Int) (digits : Nat)
  | str (s : String)
  | arr (items : List Json)
  | obj (fields : List (String × Json))
deriving Repr, Inhabited

namespace Json

mutual

/-- Equality test of two values. -/
def same : Json → Json → Bool
  | .null, .null => true
  | .bool a, .bool b => a == b
  | .int a, .int b => a == b
  | .dec m d, .dec m' d' => m == m' && d == d'
  | .str a, .str b => a == b
  | .arr l, .arr l' => sameItems l l'
  | .obj l, .obj l' => sameFields l l'
  | _, _ => false

/-- Equality test of two arrays. -/
def sameItems : List Json → List Json → Bool
  | [], [] => true
  | a :: l, b :: l' => same a b && sameItems l l'
  | _, _ => false

/-- Equality test of two objects, key order included. -/
def sameFields : List (String × Json) → List (String × Json) → Bool
  | [], [] => true
  | (k, a) :: l, (k', b) :: l' => k == k' && same a b && sameFields l l'
  | _, _ => false

end

mutual

private theorem same_iff : ∀ a b : Json, same a b = true ↔ a = b
  | .null, b => by cases b <;> simp [same]
  | .bool _, b => by cases b <;> simp [same]
  | .int _, b => by cases b <;> simp [same]
  | .dec _ _, b => by cases b <;> simp [same]
  | .str _, b => by cases b <;> simp [same]
  | .arr l, b => by cases b <;> simp [same, sameItems_iff l]
  | .obj l, b => by cases b <;> simp [same, sameFields_iff l]

private theorem sameItems_iff : ∀ l l' : List Json, sameItems l l' = true ↔ l = l'
  | [], l' => by cases l' <;> simp [sameItems]
  | a :: l, l' => by cases l' <;> simp [sameItems, same_iff a, sameItems_iff l]

private theorem sameFields_iff : ∀ l l' : List (String × Json), sameFields l l' = true ↔ l = l'
  | [], l' => by cases l' <;> simp [sameFields]
  | (k, a) :: l, l' => by
    rcases l' with _ | ⟨⟨k', b⟩, l'⟩
    · simp [sameFields]
    · simp [sameFields, same_iff a, sameFields_iff l, and_assoc]

end

instance : DecidableEq Json := fun a b => decidable_of_iff (same a b = true) (same_iff a b)

/-- The decimal `m / 10 ^ d` without zeros at its end. -/
def trimmed (m : Int) : Nat → Int × Nat
  | 0 => (m, 0)
  | d + 1 => if m % 10 = 0 then trimmed (m / 10) d else (m, d + 1)

def insertField (key : String) (value : Json) : List (String × Json) → List (String × Json)
  | [] => [(key, value)]
  | (k, v) :: fields =>
    if key < k then (key, value) :: (k, v) :: fields
    else if key = k then (key, value) :: fields
    else (k, v) :: insertField key value fields

mutual

/-- One value for all that `==` holds equal: numbers by what they are worth, dictionaries in the order of their
keys. -/
def canonical : Json → Json
  | .bool b => .int (if b then 1 else 0)
  | .dec m d =>
    match trimmed m d with
    | (n, 0) => .int n
    | (n, k + 1) => .dec n (k + 1)
  | .arr items => .arr (canonicalItems items)
  | .obj fields => .obj (canonicalFields fields)
  | value => value

def canonicalItems : List Json → List Json
  | [] => []
  | item :: items => canonical item :: canonicalItems items

def canonicalFields : List (String × Json) → List (String × Json)
  | [] => []
  | (key, value) :: fields => insertField key (canonical value) (canonicalFields fields)

end

private theorem lookup_field (key k : String) (v : Json) (fields : List (String × Json)) :
    List.lookup key ((k, v) :: fields) = if key = k then some v else List.lookup key fields := by
  rw [List.lookup_cons]
  split
  · rename_i h
    rw [if_pos (by simpa using h)]
  · rename_i h
    rw [if_neg (by simpa using h)]

private theorem lookup_insertField (key other : String) (value : Json) (fields : List (String × Json)) :
    List.lookup other (insertField key value fields) = if other = key then some value
      else List.lookup other fields := by
  induction fields with
  | nil => exact lookup_field other key value []
  | cons field fields ih =>
    obtain ⟨k, v⟩ := field
    unfold insertField
    split
    · exact lookup_field other key value _
    · rw [lookup_field other k v fields]
      split
      · rename_i hkey
        rw [lookup_field, hkey]
        split <;> rfl
      · rename_i hne
        rw [lookup_field, ih]
        split
        · rename_i he
          rw [if_neg fun h => hne (h.symm.trans he)]
        · rfl

theorem lookup_canonicalFields (key : String) (fields : List (String × Json)) :
    List.lookup key (canonicalFields fields) = (List.lookup key fields).map canonical := by
  induction fields with
  | nil => rfl
  | cons field fields ih =>
    obtain ⟨k, v⟩ := field
    rw [canonicalFields, lookup_insertField, lookup_field, ih]
    split <;> rfl

end Json

/-- An open dictionary: JSON values under string keys. -/
abbrev Details := List (String × Json)

namespace Details

/-- `details.get(key)`. -/
def get? (d : Details) (key : String) : Option Json := List.lookup key d

/-- `key in details`. -/
def has (d : Details) (key : String) : Bool := (d.get? key).isSome

/-- `details[key] = value`: a known key keeps its place. -/
def set (d : Details) (key : String) (value : Json) : Details :=
  if d.has key then d.map (fun kv => if kv.1 = key then (key, value) else kv) else d ++ [(key, value)]

/-- `{**d, **e}`. -/
def merge (d e : Details) : Details := e.foldl (fun acc kv => acc.set kv.1 kv.2) d

theorem get?_set_self (d : Details) (key : String) (value : Json) : (d.set key value).get? key = some value := by
  unfold set
  split
  · rename_i hhas
    unfold has get? at *
    induction d with
    | nil => cases hhas
    | cons kv d ih =>
      by_cases hk : kv.1 = key
      · simp [hk]
      · have hne : (key == kv.1) = false := by simpa using fun he => hk he.symm
        rw [List.lookup_cons, hne] at hhas
        rw [List.map_cons, if_neg hk, List.lookup_cons, hne]
        exact ih hhas
  · rename_i hhas
    have hnone : List.lookup key d = none := Option.not_isSome_iff_eq_none.mp hhas
    rw [get?, List.lookup_append, hnone]
    simp

/-- Writing the same value again changes nothing. -/
theorem set_set (d : Details) (key : String) (value : Json) : (d.set key value).set key value = d.set key value := by
  have hhas : (d.set key value).has key = true := by
    rw [has, get?_set_self]
    rfl
  have hentries : ∀ kv ∈ d.set key value, kv.1 = key → kv = (key, value) := by
    intro kv hkv he
    unfold set at hkv
    split at hkv
    · obtain ⟨old, -, rfl⟩ := List.mem_map.mp hkv
      split
      · rfl
      · rename_i hne
        rw [if_neg hne] at he
        exact absurd he hne
    · rename_i hnew
      rcases List.mem_append.mp hkv with hkv | hkv
      · exfalso
        refine hnew ?_
        unfold has get?
        rw [← he]
        exact List.lookup_isSome_iff.mpr ⟨kv, hkv, by simp⟩
      · simpa using hkv
  generalize d.set key value = e at hhas hentries ⊢
  rw [set, if_pos hhas]
  calc e.map (fun kv => if kv.1 = key then (key, value) else kv) = e.map id := by
        refine List.map_congr_left fun kv hkv => ?_
        split
        · rename_i he
          exact (hentries kv hkv he).symm
        · rfl
    _ = e := List.map_id e

theorem get?_set_ne (d : Details) {key other : String} (value : Json) (h : other ≠ key) :
    (d.set key value).get? other = d.get? other := by
  have hbeq : (other == key) = false := by simpa using h
  unfold set
  split
  · rename_i hhas
    clear hhas
    unfold get?
    induction d with
    | nil => rfl
    | cons kv d ih =>
      by_cases hk : kv.1 = key
      · have hkv : (other == kv.1) = false := by rw [hk]; exact hbeq
        rw [List.map_cons, if_pos hk, List.lookup_cons, List.lookup_cons, hbeq, hkv]
        exact ih
      · rw [List.map_cons, if_neg hk, List.lookup_cons, List.lookup_cons, ih]
  · rw [get?, List.lookup_append, List.lookup_cons, hbeq, List.lookup_nil]
    simp [get?]

/-- Merging keeps what is stored under a key the merged entries do not name. -/
theorem get?_merge_of_forall_ne (d : Details) {e : Details} {key : String} (h : ∀ kv ∈ e, kv.1 ≠ key) :
    (d.merge e).get? key = d.get? key := by
  unfold merge
  induction e generalizing d with
  | nil => rfl
  | cons kv e ih =>
    have hne : key ≠ kv.1 := fun he => h kv (by simp) he.symm
    rw [List.foldl_cons, ih _ fun kv' hkv' => h kv' (List.mem_cons_of_mem _ hkv'), get?_set_ne _ _ hne]

end Details

/-! ### Enumerations -/

inductive WorkflowOperation where
  | freezeEvidence
  | collectHungTriage
  | collectHungSummary
  | collectDiagnosticBundle
  | runDcgmDiagnostic
  | markUnschedulable
  | checkpointWorkloads
  | stopWorkloads
  | quiesceGpuServices
  | verifyNoGpuClients
  | triggerHealthSnapshot
  | resetGpu
  | restoreGpuServices
  | recoverDrainP2p
  | restartNode
  | replaceNode
  | restartVm
  | restartFabricManager
  | remediateEfaDriver
  | restartEfaDevicePlugin
  | restartGpuDevicePlugin
  | runFieldDiagnostic
  | runNvlink74Workflow
  | resetAllGpusNvswitches
  | checkMechanicals
  | remediateDriver
  | updateSoftwareFirmware
  | escalateSupport
  | validateGpu
  | validateHost
  | validateFabric
  | restoreScheduling
  | restartWorkload
  | quarantine
  | collectorOutboxMaintenance
deriving Repr, DecidableEq, Inhabited

inductive WorkflowStatus where
  | pending
  | safetyPending
  | blocked
  | running
  | succeeded
  | failed
  | superseded
deriving Repr, DecidableEq, Inhabited

inductive RecoveryAction where
  | noAction
  | markUnschedulable
  | drain
  | stopWorkload
  | collectEvidence
  | restartWorkload
  | resetGpu
  | rebootNode
  | replaceNode
  | remediateEfaDriver
  | restartEfaDevicePlugin
  | restartGpuDevicePlugin
  | runDiagnostics
  | validateNode
  | restoreScheduling
  | quarantine
  | escalateOperator
deriving Repr, DecidableEq, Inhabited

inductive BlockedKind where
  | safetySettled
  | needsOperator
  | internalError
deriving Repr, DecidableEq, Inhabited

inductive WorkflowStepStatus where
  | succeeded
  | waiting
  | failed
deriving Repr, DecidableEq, Inhabited

/-- Which of the two step lists of a row a record belongs to. -/
inductive StepPhase where
  | official
  | safety
deriving Repr, DecidableEq, Inhabited

def WorkflowOperation.value : WorkflowOperation → String
  | .freezeEvidence => "FREEZE_EVIDENCE"
  | .collectHungTriage => "COLLECT_HUNG_TRIAGE"
  | .collectHungSummary => "COLLECT_HUNG_SUMMARY"
  | .collectDiagnosticBundle => "COLLECT_DIAGNOSTIC_BUNDLE"
  | .runDcgmDiagnostic => "RUN_DCGM_DIAGNOSTIC"
  | .markUnschedulable => "MARK_UNSCHEDULABLE"
  | .checkpointWorkloads => "CHECKPOINT_WORKLOADS"
  | .stopWorkloads => "STOP_WORKLOADS"
  | .quiesceGpuServices => "QUIESCE_GPU_SERVICES"
  | .verifyNoGpuClients => "VERIFY_NO_GPU_CLIENTS"
  | .triggerHealthSnapshot => "TRIGGER_HEALTH_SNAPSHOT"
  | .resetGpu => "RESET_GPU"
  | .restoreGpuServices => "RESTORE_GPU_SERVICES"
  | .recoverDrainP2p => "RECOVER_DRAIN_P2P"
  | .restartNode => "RESTART_NODE"
  | .replaceNode => "REPLACE_NODE"
  | .restartVm => "RESTART_VM"
  | .restartFabricManager => "RESTART_FABRIC_MANAGER"
  | .remediateEfaDriver => "REMEDIATE_EFA_DRIVER"
  | .restartEfaDevicePlugin => "RESTART_EFA_DEVICE_PLUGIN"
  | .restartGpuDevicePlugin => "RESTART_GPU_DEVICE_PLUGIN"
  | .runFieldDiagnostic => "RUN_FIELD_DIAGNOSTIC"
  | .runNvlink74Workflow => "RUN_NVLINK74_WORKFLOW"
  | .resetAllGpusNvswitches => "RESET_ALL_GPUS_NVSWITCHES"
  | .checkMechanicals => "CHECK_MECHANICALS"
  | .remediateDriver => "REMEDIATE_DRIVER"
  | .updateSoftwareFirmware => "UPDATE_SOFTWARE_FIRMWARE"
  | .escalateSupport => "ESCALATE_SUPPORT"
  | .validateGpu => "VALIDATE_GPU"
  | .validateHost => "VALIDATE_HOST"
  | .validateFabric => "VALIDATE_FABRIC"
  | .restoreScheduling => "RESTORE_SCHEDULING"
  | .restartWorkload => "RESTART_WORKLOAD"
  | .quarantine => "QUARANTINE"
  | .collectorOutboxMaintenance => "COLLECTOR_OUTBOX_MAINTENANCE"

def WorkflowStatus.value : WorkflowStatus → String
  | .pending => "PENDING"
  | .safetyPending => "SAFETY_PENDING"
  | .blocked => "BLOCKED"
  | .running => "RUNNING"
  | .succeeded => "SUCCEEDED"
  | .failed => "FAILED"
  | .superseded => "SUPERSEDED"

/-- The statuses the dispatcher scans and the executor accepts (`EXECUTABLE_WORKFLOW_STATUSES`). -/
def WorkflowStatus.executable : WorkflowStatus → Bool
  | .pending | .safetyPending | .running => true
  | _ => false

/-- The statuses a row never leaves on its own (`TERMINAL_WORKFLOW_STATUSES`). -/
def WorkflowStatus.terminal : WorkflowStatus → Bool
  | .failed | .succeeded | .blocked | .superseded => true
  | _ => false

/-! ### Steps and rows -/

structure WorkflowStepSpec where
  operation : WorkflowOperation
  executionOwner : String := ""
  nodeIds : List String := []
  gpuUuids : List String := []
  workloadIds : List String := []
  parameters : Details := []
  dependsOnStepIndexes : List Nat := []
  branchId : Option String := none
  branchNodeIds : List String := []
deriving Repr, DecidableEq, Inhabited

structure WorkflowStepExecution where
  stepIndex : Nat
  operation : WorkflowOperation
  status : WorkflowStepStatus
  phase : Option StepPhase := none
  adapterOperationId : Option String := none
  error : Option String := none
  details : Details := []
  startedAt : Time := 0
  updatedAt : Time := 0
deriving Repr, DecidableEq, Inhabited

structure WorkflowRequest where
  requestId : String
  incidentId : String := ""
  predecessorWorkflowId : Option String := none
  preemptPredecessor : Bool := false
  preemptedByWorkflowId : Option String := none
  preemptionReason : Option String := none
  preemptionPendingByWorkflowId : Option String := none
  inheritedStepIndexes : List Nat := []
  quiesceHandoffFromWorkflowId : Option String := none
  supersededAt : Option Time := none
  dagEnabled : Bool := false
  dagRevision : Nat := 0
  status : WorkflowStatus
  officialAction : Option String := none
  fencingToken : Nat := 1
  mergeRevision : Nat := 0
  safetySteps : List WorkflowStepSpec := []
  officialSteps : List WorkflowStepSpec := []
  blockedReasons : List String := []
  blockedKind : Option BlockedKind := none
  branchEscalationCounts : List (String × Nat) := []
  exhaustedBranchIds : List String := []
  lifetimeDeadlineAt : Option Time := none
  workloadWithdrawnAt : Option Time := none
  workloadWithdrawnReason : Option String := none
  terminalFailureReason : Option String := none
  safetyOnly : Bool := false
  completedOperations : List WorkflowOperation := []
  completedStepIndexes : List Nat := []
  supersededStepIndexes : List Nat := []
  pendingFailureStepIndex : Option Nat := none
  pendingFailureError : Option String := none
  failureHandledAt : Option Time := none
  failureHandlingAttempts : Nat := 0
  stepExecutions : List WorkflowStepExecution := []
  executionOwnerId : Option String := none
  executionEpoch : Nat := 0
  executionLeaseExpiresAt : Option Time := none
  executionDeadline : Option Time := none
  remediationBudgetClaims : List String := []
  remediationBudgetLimits : List (String × Nat) := []
  remediationBudgetWaitCount : Nat := 0
  remediationBudgetLastBlockedReason : Option String := none
  remediationBudgetLastBlockedScope : Option String := none
  notBefore : Option Time := none
  aggregationMaxDeadline : Option Time := none
  createdAt : Time := 0
  updatedAt : Time := 0
deriving Repr, DecidableEq, Inhabited

namespace WorkflowRequest

/-- Whether the executor runs `safetySteps` rather than `officialSteps`. -/
def executesSafetySteps (w : WorkflowRequest) : Bool := w.safetyOnly || w.status == .safetyPending

/-- The phase whose steps this row executes right now. -/
def executionPhase (w : WorkflowRequest) : StepPhase := if w.executesSafetySteps then .safety else .official

/-- Steps that will never run again: completed or superseded. -/
def resolvedStepIndexes (w : WorkflowRequest) : List Nat := w.completedStepIndexes ++ w.supersededStepIndexes

end WorkflowRequest

/-- Whether a workflow in `status` still gates successors and node use. -/
def workflowIsOpen (status : WorkflowStatus) (blockedKind : Option BlockedKind) : Bool :=
  status.executable ||
    (status == .blocked && (blockedKind == some .needsOperator || blockedKind == some .internalError))

/-- Is this record the record of step `index`? A record or a caller without a phase matches either phase. -/
def executionMatchesStep (execution : WorkflowStepExecution) (index : Nat) (operation : WorkflowOperation)
    (phase : Option StepPhase) : Bool :=
  execution.stepIndex == index && execution.operation == operation &&
    (phase.isNone || execution.phase.isNone || execution.phase == phase)

end GpuFaultRecovery
