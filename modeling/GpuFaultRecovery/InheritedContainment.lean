import GpuFaultRecovery.DispatchReadiness
import GpuFaultRecovery.DispositionApplier
import GpuFaultRecovery.LeasedSave
import GpuFaultRecovery.QuarantineInheritance

/-!
# Containment a successor inherits

A preempting successor starts with the cordons and the stopped workloads of its predecessor as completed steps, copied
from the row as the merge finds it. The predecessor goes on until its executor finds the boundary open, and only then
gives way. Here the row of the predecessor runs with its passes, every step of a pass behind the question whether to
give way, and the successors note what was dispatched since their copy. A branch that waits for something nobody can
stop keeps the boundary closed for the whole row, and another branch readmits its node meanwhile.
-/

namespace GpuFaultRecovery

/-! ### What is undone -/

/-- Whether running `step` takes back what `contained` did: it readmits a cordoned node, or restarts stopped
workloads. -/
def undoesStep (contained step : WorkflowStepSpec) : Bool :=
  (contained.operation == .markUnschedulable && step.operation == .restoreScheduling &&
    contained.nodeIds.any step.nodeIds.contains) ||
  (contained.operation == .stopWorkloads && step.operation == .restartWorkload)

/-- Whether `step` takes back a containment that `successor` inherited as completed. -/
def undoes (successor : WorkflowRequest) (step : WorkflowStepSpec) : Bool :=
  successor.inheritedStepIndexes.any fun index => (successor.officialSteps[index]?).any (undoesStep · step)

section Undoes

variable {successor : WorkflowRequest} {contained step : WorkflowStepSpec}

private theorem undoes_iff : undoes successor step = true ↔ ∃ index ∈ successor.inheritedStepIndexes, ∃ contained,
    successor.officialSteps[index]? = some contained ∧ undoesStep contained step = true := by
  simp only [undoes, List.any_eq_true, Option.any_eq_true]

private theorem undoesStep_contained (h : undoesStep contained step = true) :
    contained.operation = .markUnschedulable ∨ contained.operation = .stopWorkloads := by
  simp only [undoesStep, Bool.or_eq_true, Bool.and_eq_true, beq_iff_eq] at h
  exact h.imp (fun h => h.1.1) And.left

private theorem undoes_operation (h : undoes successor step = true) :
    step.operation = .restoreScheduling ∨ step.operation = .restartWorkload := by
  obtain ⟨_, -, contained, -, hundoes⟩ := undoes_iff.mp h
  simp only [undoesStep, Bool.or_eq_true, Bool.and_eq_true, beq_iff_eq] at hundoes
  exact hundoes.imp (fun h => h.1.2) And.right

end Undoes

/-! ### The boundary before a step -/

/-- What a pass does before the next step: run it, give way, or restore its nodes first. -/
inductive BoundaryVerdict where
  | proceed
  | giveWay (successor : WorkflowRequest)
  | restoreFirst (successor : WorkflowRequest) (index : Nat) (step : WorkflowStepSpec)

/-- The first half of `_supersede_if_safe`, up to the restore it may have to run. -/
def StepBoundary.verdict (found : StepBoundary) (workflow : WorkflowRequest) : BoundaryVerdict :=
  if !found.preemptionEnabled then .proceed
  else
    match found.successor with
    | none => .proceed
    | some successor =>
      let boundary := preemptionBoundary workflow none true
      if !boundary.isOpen || found.uncancellableLive boundary ||
          !boundary.cancellations.all (fun record => found.cancels (record.remoteCommandId.getD "")) then .proceed
      else if !found.owesRestore workflow successor then .giveWay successor
      else
        match pendingRestoreStep workflow workflow.officialSteps with
        | none => .proceed
        | some (index, step) => .restoreFirst successor index step

/-- The second half: what becomes of the row once the verdict is carried out. -/
def StepBoundary.conclude (found : StepBoundary) (workflow : WorkflowRequest) (now : Time) :
    BoundaryVerdict → SupersedeResult
  | .proceed => .proceed
  | .giveWay successor => .superseded (supersededRow workflow successor now)
  | .restoreFirst successor _ _ =>
    match found.restoreForPreemption workflow successor now with
    | none => .proceed
    | some (.inr result) => result
    | some (.inl restored) => .superseded (supersededRow restored successor now)

/-- The supersession carries out the verdict. -/
theorem supersedeIfSafe_verdict (found : StepBoundary) (workflow : WorkflowRequest) (now : Time) :
    found.supersedeIfSafe workflow now = found.conclude workflow now (found.verdict workflow) := by
  unfold StepBoundary.supersedeIfSafe StepBoundary.verdict
  by_cases henabled : found.preemptionEnabled
  · cases hsuccessor : found.successor with
    | none => simp [henabled, StepBoundary.conclude]
    | some successor =>
      simp only [henabled, Bool.not_true, Bool.false_eq_true, if_false]
      split_ifs
      · rfl
      · rfl
      · cases hpending : pendingRestoreStep workflow workflow.officialSteps with
        | none => simp [StepBoundary.restoreForPreemption, StepBoundary.conclude, hpending]
        | some pending => rfl
  · simp [henabled, StepBoundary.conclude]

/-- Nothing keeps the row from giving way: every wait can be stopped now, and nodes that are still quiesced are handed
over or have a restore to run. -/
def StepBoundary.Yields (found : StepBoundary) (workflow successor : WorkflowRequest) : Prop :=
  found.preemptionEnabled = true ∧ (preemptionBoundary workflow none true).isOpen = true ∧
    found.uncancellableLive (preemptionBoundary workflow none true) = false ∧
    (∀ record ∈ (preemptionBoundary workflow none true).cancellations,
      found.cancels (record.remoteCommandId.getD "") = true) ∧
    (found.owesRestore workflow successor = true → (pendingRestoreStep workflow workflow.officialSteps).isSome = true)

private theorem verdict_of_yields {found : StepBoundary} {workflow successor : WorkflowRequest}
    (hsuccessor : found.successor = some successor) (h : found.Yields workflow successor) :
    found.verdict workflow ≠ .proceed := by
  obtain ⟨henabled, hopen, hlive, hcancels, hrestore⟩ := h
  have hall : (preemptionBoundary workflow none true).cancellations.all
      (fun record => found.cancels (record.remoteCommandId.getD "")) = true := List.all_eq_true.mpr hcancels
  unfold StepBoundary.verdict
  simp only [henabled, hsuccessor, hopen, hlive, hall, Bool.not_true, Bool.or_self, Bool.false_eq_true, if_false]
  by_cases howes : found.owesRestore workflow successor = true
  · obtain ⟨pending, hpending⟩ := Option.isSome_iff_exists.mp (hrestore howes)
    simp [howes, hpending]
  · simp [howes]

/-- What is run before giving way is a restore. -/
private theorem restoreFirst_operation {found : StepBoundary} {workflow successor : WorkflowRequest} {index : Nat}
    {step : WorkflowStepSpec} (h : found.verdict workflow = .restoreFirst successor index step) :
    step.operation = .restoreGpuServices := by
  unfold StepBoundary.verdict at h
  split at h
  · cases h
  split at h
  · cases h
  dsimp only at h
  split at h
  · cases h
  split at h
  · cases h
  split at h
  · cases h
  · rename_i index' step' hpending
    cases h
    exact (pendingRestoreStep_eq_some hpending).2.1

/-! ### Predecessor and successors -/

/-- A successor as it is stored, and the steps of the predecessor its copy could not know of: the one that was on its
way and those dispatched since. -/
structure Inheritor where
  row : WorkflowRequest
  since : List WorkflowStepSpec := []
deriving Repr, DecidableEq

/-- The predecessor with its passes and the preempting rows behind it. `cleared` is a pass that was let through the
boundary before its next step, `yielding` one that restores its nodes for the successor it gives way to. -/
structure Handover where
  executor : Executor
  successors : List Inheritor := []
  cleared : Bool := false
  yielding : Option WorkflowRequest := none
deriving Repr, DecidableEq

namespace Handover

/-- `get_preempting_successor`: the oldest one that still waits. -/
def preemptingSuccessor (s : Handover) : Option WorkflowRequest :=
  (((s.successors.map Inheritor.row).filter fun row =>
    row.preemptPredecessor && (row.status == .pending || row.status == .safetyPending)).insertionSort fun a b =>
      a.createdAt < b.createdAt ∨ (a.createdAt = b.createdAt ∧ a.requestId ≤ b.requestId)).head?

def onItsWay (executor : Executor) : Option WorkflowStepSpec :=
  (executor.pass.bind ExecutorPass.inFlight).map Dispatched.step

/-- The step a pass stands before: the head of its batch, while it is still current. -/
def nextStep (executor : Executor) : Option WorkflowStepSpec :=
  executor.freePass.bind fun pass => pass.batch.head?.bind fun index =>
    if Executor.dispatchable pass index then (phaseSteps pass.isSafety pass.held)[index]? else none

/-- Go on with `executor`, noting the step it dispatched. -/
def noting (s : Handover) (executor : Executor) : Handover :=
  let started := if (onItsWay s.executor).isNone then (onItsWay executor).toList else []
  { s with
    executor
    successors := s.successors.map fun entry => { entry with since := started ++ entry.since } }

/-- The pass lets go of the row. -/
def release (s : Handover) : Handover :=
  { s with executor := { s.executor with pass := none }, cleared := false, yielding := none }

/-- A leased save of the row given way; refused if the row was merged since it was read. -/
def superseding (s : Handover) (pass : ExecutorPass) (successor : WorkflowRequest) (now : Time) : Handover :=
  if s.executor.row.mergeRevision = pass.held.mergeRevision then
    { s.release with executor := { s.executor with row := supersededRow pass.held successor now, pass := none } }
  else s.release

def boundary (s : Handover) (found : StepBoundary) (now : Time) : Handover :=
  match s.executor.freePass with
  | none => s
  | some pass =>
    if s.cleared || s.yielding.isSome || (nextStep s.executor).isNone then s
    else
      match { found with successor := s.preemptingSuccessor }.verdict pass.held with
      | .proceed => { s with cleared := true }
      | .giveWay successor => s.superseding pass successor now
      | .restoreFirst successor index step =>
        { s.noting { s.executor with pass := some { pass with
            batch := []
            inFlight := some { index, step, isSafety := pass.isSafety, ahead := true } } } with
          yielding := some successor }

def giveWay (s : Handover) (now : Time) : Handover :=
  match s.executor.freePass, s.yielding with
  | some pass, some successor => s.superseding pass successor now
  | _, _ => s

/-- Write the answer of the step in flight; a restore for a successor that did not succeed ends the pass. A row that
was ended under the pass has no lease to renew. -/
def record (s : Handover) (event : ExecutorEvent) (outcome : StepOutcome) : Handover :=
  if s.cleared then s
  else if !s.executor.row.status.executable then s.release
  else
    let recorded := s.noting (executorStep s.executor event)
    if s.yielding.isSome && outcome.status != .succeeded then recorded.release else recorded

/-- An event of the row or of its pass. Between the boundary and the dispatch a pass does nothing else. -/
def executorEvent (s : Handover) (event : ExecutorEvent) : Handover :=
  match event with
  | .claim _ _ =>
    if s.executor.pass.isSome then s
    else { s.noting (executorStep s.executor event) with cleared := false, yielding := none }
  | .abort => s.release
  | .withdraw _ _ | .merge _ _ => s.noting (executorStep s.executor event)
  | .dispatch =>
    if s.yielding.isSome || ((nextStep s.executor).isSome && !s.cleared) then s
    else { s.noting (executorStep s.executor event) with cleared := false }
  | .record outcome _ _ _ _ => s.record event outcome
  | .scan _ =>
    if s.cleared || s.yielding.isSome then s
    else if s.executor.row.status.executable then s.noting (executorStep s.executor event)
    else s.release
  | .restoreAhead _ | .endBatch _ | .withholdRestart _ _ _ =>
    if s.cleared || s.yielding.isSome then s else s.noting (executorStep s.executor event)

/-- A merge stores a preempting successor behind the row and stamps the row; the copy is made from the row as stored.
A candidate is a fresh plan, only the merge makes it a preempting one. -/
def prepare (s : Handover) (candidate : WorkflowRequest) (now : Time) : Handover :=
  match preparePreemptingSuccessor true s.executor.row candidate now with
  | .error _ => s
  | .ok successor =>
    if !candidate.preemptPredecessor && successor.preemptPredecessor && successor.status == .pending then
      { s with
        executor := { s.executor with
          row := (preemptionPendingUpdate successor s.executor.row now).getD s.executor.row }
        successors := { row := successor, since := (onItsWay s.executor).toList } :: s.successors }
    else s

/-- A waiting successor is claimed once the predecessor is closed. -/
def claimed (s : Handover) (row : WorkflowRequest) (now : Time) : WorkflowRequest :=
  if (row.status == .pending || row.status == .safetyPending) &&
      !workflowIsOpen s.executor.row.status s.executor.row.blockedKind then
    adoptQuiesceHandoff { row with status := .running, updatedAt := now } (some s.executor.row) now
  else row

def amendSuccessor (s : Handover) (requestId : String) (amend : WorkflowRequest → WorkflowRequest) : Handover :=
  { s with successors := s.successors.map fun entry =>
      if entry.row.requestId == requestId then { entry with row := amend entry.row } else entry }

end Handover

/-- What can happen next: an event of the predecessor, the boundary before its next step, a new successor, an ending
of the row from outside, the end or the claim of a successor. -/
inductive HandoverEvent where
  | executor (event : ExecutorEvent)
  | boundary (found : StepBoundary) (now : Time)
  | giveWay (now : Time)
  | prepare (candidate : WorkflowRequest) (now : Time)
  | finish (status : WorkflowStatus) (blockedKind : Option BlockedKind)
  | closeSuccessor (requestId : String) (status : WorkflowStatus)
  | claimSuccessor (requestId : String) (now : Time)

def handoverStep (s : Handover) : HandoverEvent → Handover
  | .executor event => s.executorEvent event
  | .boundary found now => s.boundary found now
  | .giveWay now => s.giveWay now
  | .prepare candidate now => s.prepare candidate now
  | .finish status blockedKind =>
    if status.executable then s
      else { s with executor := { s.executor with row := { s.executor.row with status, blockedKind } } }
  | .closeSuccessor requestId status =>
    if status.executable then s else s.amendSuccessor requestId fun row => { row with status }
  | .claimSuccessor requestId now => s.amendSuccessor requestId fun row => s.claimed row now

/-! ### The condition -/

/-- The event takes nothing back. Where the next step of the pass would undo what a successor that is not closed
inherited, that successor is still waiting and nothing keeps the row from giving way; and no successor is prepared
while a step that undoes what it would take over is between its boundary and its record. -/
def TakesNothingBack (s : Handover) : HandoverEvent → Prop
  | .boundary found _ => ∀ pass step entry, s.executor.freePass = some pass →
      Handover.nextStep s.executor = some step →
      entry ∈ s.successors → entry.row.status.executable = true → undoes entry.row step = true →
      ∃ successor, s.preemptingSuccessor = some successor ∧
        { found with successor := some successor }.Yields pass.held successor
  | .prepare candidate _ =>
      ∀ planned contained step, inheritTerminalQuarantine s.executor.row candidate = .ok planned →
      contained ∈ planned.officialSteps → (inheritableStep s.executor.row contained).isSome = true →
      Handover.onItsWay s.executor = some step ∨ (s.cleared = true ∧ Handover.nextStep s.executor = some step) →
      undoesStep contained step = false
  | _ => True

/-! ### What a copy and a claim inherit -/

section Inherited

variable {row candidate successor previous : WorkflowRequest} {step : WorkflowStepSpec} {now : Time}

/-- Whatever a preempting successor inherited, it took over from a completed step of the row. -/
private theorem undoes_prepared (h : preparePreemptingSuccessor true row candidate now = .ok successor)
    (hfresh : candidate.preemptPredecessor = false) (hpreempts : successor.preemptPredecessor = true)
    (hundoes : undoes successor step = true) :
    ∃ planned contained, inheritTerminalQuarantine row candidate = .ok planned ∧ contained ∈ planned.officialSteps ∧
      (inheritableStep row contained).isSome = true ∧ undoesStep contained step = true := by
  unfold preparePreemptingSuccessor at h
  obtain ⟨planned, hplanned, h⟩ := bind_ok h
  refine ⟨planned, ?_⟩
  have hkept : planned.preemptPredecessor = false := by
    obtain ⟨held, own, -, -, ⟨-, rfl⟩ | ⟨steps, superseded, missing, -, superseded', -, rfl⟩⟩ :=
      inheritTerminalQuarantine_ok hplanned
    · exact hfresh
    · exact hfresh
  dsimp only at h
  split at h
  · rw [← Except.ok.inj h, hkept] at hpreempts
    cases hpreempts
  · rw [← Except.ok.inj h] at hundoes
    obtain ⟨index, hindex, contained, hcontained, hundone⟩ := undoes_iff.mp hundoes
    obtain ⟨entry, hentry, rfl⟩ := List.mem_map.mp hindex
    obtain ⟨⟨origin, place⟩, hplace, hinherited⟩ := List.mem_filterMap.mp hentry
    obtain ⟨source, hsource, rfl⟩ := Option.map_eq_some_iff.mp hinherited
    have horigin : contained = origin := by
      have hget := List.mem_zipIdx_iff_getElem?.mp hplace
      rw [hget] at hcontained
      exact (Option.some.inj hcontained).symm
    subst horigin
    exact ⟨contained, hplanned, List.mem_of_getElem? hcontained, by rw [hsource]; rfl, hundone⟩

/-- What a claim takes over is a quiesce of the row, or a restore put behind its reboot. -/
private theorem quiesceAdoption_operation {adoption : QuiesceAdoption}
    (h : quiesceAdoption row previous = some adoption) :
    (∃ index evidence quiesce, adoption = .inherit index evidence ∧ row.officialSteps[index]? = some quiesce ∧
      quiesce.operation = .quiesceGpuServices) ∨
    ∃ rebootIndex cleanup, adoption = .restoreAfter rebootIndex cleanup ∧
      cleanup.operation = .restoreGpuServices := by
  unfold quiesceAdoption at h
  split at h
  · cases h
  dsimp only at h
  split at h
  · cases h
  split at h
  · obtain ⟨index, hindex, rfl⟩ := Option.map_eq_some_iff.mp h
    obtain ⟨hlt, hquiesce, -⟩ := List.findIdx?_eq_some_iff_getElem.mp hindex
    simp only [Bool.and_eq_true, beq_iff_eq] at hquiesce
    exact .inl ⟨index, _, _, rfl, List.getElem?_eq_getElem hlt, hquiesce.1⟩
  · split at h
    · cases h
    · split at h
      · cases h
      · obtain ⟨restore, hrestore, rfl⟩ := Option.map_eq_some_iff.mp h
        have hop := List.find?_some hrestore
        simp only [beq_iff_eq] at hop
        exact .inr ⟨_, _, rfl, hop⟩

/-- A claim inherits no more containment than the copy did. -/
private theorem undoes_of_adopted (h : undoes (adoptQuiesceHandoff row (some previous) now) step = true) :
    undoes row step = true := by
  obtain ⟨index, hindex, contained, hcontained, hundone⟩ := undoes_iff.mp h
  have hop := undoesStep_contained hundone
  unfold adoptQuiesceHandoff at hindex hcontained
  dsimp only at hindex hcontained
  cases hadoption : quiesceAdoption row previous with
  | none =>
    rw [hadoption] at hindex hcontained
    exact undoes_iff.mpr ⟨index, hindex, contained, hcontained, hundone⟩
  | some adoption =>
    rw [hadoption] at hindex hcontained
    rcases quiesceAdoption_operation hadoption with ⟨place, evidence, quiesce, rfl, hget, hquiesce⟩ |
      ⟨rebootIndex, cleanup, rfl, hcleanup⟩
    · have hcontained' : row.officialSteps[index]? = some contained := hcontained
      simp only [inheritQuiesce, mem_sortedSet, List.mem_append, List.mem_singleton] at hindex
      rcases hindex with hindex | rfl
      · exact undoes_iff.mpr ⟨index, hindex, contained, hcontained', hundone⟩
      · -- the quiesce itself contains nothing
        rw [hget] at hcontained'
        rw [← Option.some.inj hcontained', hquiesce] at hop
        simp at hop
    · have hindex' : index ∈ row.inheritedStepIndexes := hindex
      by_cases hlt : index < row.officialSteps.length
      · simp only [restoreAfterReboot] at hcontained
        rw [List.getElem?_append_left (by simpa using hlt)] at hcontained
        simp only [List.getElem?_map, List.getElem?_zipIdx, List.getElem?_eq_getElem hlt, Option.map_some,
          Option.some.injEq] at hcontained
        subst hcontained
        exact undoes_iff.mpr ⟨index, hindex', _, List.getElem?_eq_getElem hlt, hundone⟩
      · simp only [restoreAfterReboot] at hcontained
        rw [List.getElem?_append_right (by simpa using hlt)] at hcontained
        have hcleanup' : contained = cleanup := by
          have := List.mem_of_getElem? hcontained
          simpa using this
        rw [hcleanup', hcleanup] at hop
        simp at hop

end Inherited

/-! ### What a pass dispatches -/

section Dispatches

variable {executor : Executor} {event : ExecutorEvent} {step : WorkflowStepSpec}

private theorem onItsWay_none :
    Handover.onItsWay executor = none ↔ ∀ pass, executor.pass = some pass → pass.inFlight = none := by
  simp [Handover.onItsWay, Option.bind_eq_none_iff]

private theorem nextStep_of_dispatch {pass : ExecutorPass} (hfree : executor.freePass = some pass)
    (h : Handover.onItsWay (executor.dispatch pass) = some step) : Handover.nextStep executor = some step := by
  obtain ⟨hpass, hidle⟩ := freePass_eq hfree
  simp only [Handover.nextStep, hfree, Option.bind_some]
  unfold Executor.dispatch at h
  cases hbatch : pass.batch with
  | nil => simp [hbatch, Handover.onItsWay, hpass, hidle] at h
  | cons index rest =>
    simp only [hbatch] at h
    simp only [List.head?_cons, Option.bind_some]
    by_cases hcurrent : Executor.dispatchable pass index = true
    · rw [if_pos hcurrent] at h ⊢
      cases hstep : (phaseSteps pass.isSafety pass.held)[index]? with
      | none => simp [hstep, Handover.onItsWay, hpass, hidle] at h
      | some sent => simpa [hstep, Handover.onItsWay] using h
    · simp [hcurrent, Handover.onItsWay, hidle] at h

private theorem operation_of_restoreAhead {pass : ExecutorPass} {now : Time} (hfree : executor.freePass = some pass)
    (h : Handover.onItsWay (executor.restoreAhead pass now) = some step) : step.operation = .restoreGpuServices := by
  obtain ⟨hpass, hidle⟩ := freePass_eq hfree
  unfold Executor.restoreAhead at h
  cases hpick : compensationPick pass.held now with
  | none => simp [hpick, Handover.onItsWay, hpass, hidle] at h
  | some pick =>
    have hop := (compensationPick_spec hpick).2
    simp only [hpick] at h
    split at h
    · rw [← (by simpa [Handover.onItsWay] using h : pick.step = step)]
      exact hop
    · split at h
      · rw [← (by simpa [Handover.onItsWay] using h : pick.step = step)]
        exact hop
      · simp [Handover.onItsWay] at h

/-- Only a dispatch and a restore send a step on its way. -/
private theorem sent_of_executorStep (hidle : Handover.onItsWay executor = none)
    (h : Handover.onItsWay (executorStep executor event) = some step) :
    (event = .dispatch ∧ Handover.nextStep executor = some step) ∨ step.operation = .restoreGpuServices := by
  cases event with
  | claim predecessor now =>
    dsimp only [executorStep, Executor.claim] at h
    split at h
    · rw [hidle] at h
      cases h
    · simp [Handover.onItsWay] at h
  | abort => simp [executorStep, Handover.onItsWay] at h
  | withdraw reason now =>
    have hpass : Handover.onItsWay (executorStep executor (.withdraw reason now)) = Handover.onItsWay executor := by
      dsimp only [executorStep, Executor.withdraw]
      split <;> rfl
    rw [hpass, hidle] at h
    cases h
  | merge merge now =>
    have hpass : Handover.onItsWay (executorStep executor (.merge merge now)) = Handover.onItsWay executor := rfl
    rw [hpass, hidle] at h
    cases h
  | scan now =>
    dsimp only [executorStep] at h
    cases hpass : executor.freePass with
    | none => simp [hpass, hidle] at h
    | some pass =>
      have hinflight := (freePass_eq hpass).2
      simp only [hpass, Option.elim_some] at h
      unfold Executor.scan at h
      dsimp only at h
      split at h <;> simp [Handover.onItsWay, hinflight] at h
  | dispatch =>
    dsimp only [executorStep] at h
    cases hpass : executor.freePass with
    | none => simp [hpass, hidle] at h
    | some pass =>
      simp only [hpass, Option.elim_some] at h
      exact .inl ⟨rfl, nextStep_of_dispatch hpass h⟩
  | restoreAhead now =>
    dsimp only [executorStep] at h
    cases hpass : executor.freePass with
    | none => simp [hpass, hidle] at h
    | some pass =>
      simp only [hpass, Option.elim_some] at h
      exact .inr (operation_of_restoreAhead hpass h)
  | record outcome verdict inventory targets now =>
    dsimp only [executorStep] at h
    cases hpass : executor.pass with
    | none => simp [hpass, hidle] at h
    | some pass => simp [hpass, onItsWay_none.mp hidle pass hpass, hidle] at h
  | endBatch now =>
    dsimp only [executorStep] at h
    cases hpass : executor.freePass with
    | none => simp [hpass, hidle] at h
    | some pass =>
      have hinflight := (freePass_eq hpass).2
      simp only [hpass, Option.elim_some] at h
      unfold Executor.endBatch at h
      (repeat' split at h) <;> simp [Handover.onItsWay, hinflight] at h
      simp [(freePass_eq hpass).1, hinflight] at h
  | withholdRestart index outcome now =>
    dsimp only [executorStep] at h
    cases hpass : executor.freePass with
    | none => simp [hpass, hidle] at h
    | some pass =>
      have hinflight := (freePass_eq hpass).2
      simp only [hpass, Option.elim_some] at h
      unfold Executor.withholdRestart at h
      dsimp only at h
      (repeat' split at h) <;> simp [Handover.onItsWay, hinflight, (freePass_eq hpass).1] at h

end Dispatches

/-! ### Fresh copies -/

/-- No successor that is not closed has a copy that was undone, or is about to be. -/
structure Fresh (s : Handover) : Prop where
  since :
    ∀ entry ∈ s.successors, entry.row.status.executable = true → ∀ step ∈ entry.since, undoes entry.row step = false
  next : s.cleared = true → ∀ step, Handover.nextStep s.executor = some step →
    ∀ entry ∈ s.successors, entry.row.status.executable = true → undoes entry.row step = false

section Fresh

variable {s : Handover} {event : ExecutorEvent} {step : WorkflowStepSpec} {now : Time}

/-- Going on is safe where the step that is sent undoes nothing. -/
private theorem Fresh.noting (h : Fresh s) {executor : Executor} {cleared : Bool} {yielding : Option WorkflowRequest}
    (hsent : Handover.onItsWay s.executor = none → ∀ step, Handover.onItsWay executor = some step →
      ∀ entry ∈ s.successors, entry.row.status.executable = true → undoes entry.row step = false)
    (hnext : cleared = true → s.cleared = true ∧ Handover.nextStep executor = Handover.nextStep s.executor) :
    Fresh { s.noting executor with cleared, yielding } := by
  constructor
  · intro entry hentry hopen step hstep
    obtain ⟨before, hbefore, rfl⟩ := List.mem_map.mp hentry
    rcases List.mem_append.mp hstep with hstarted | hold
    · split at hstarted
      · rename_i hidle
        exact hsent (Option.isNone_iff_eq_none.mp hidle) step (Option.mem_toList.mp hstarted) before hbefore hopen
      · cases hstarted
    · exact h.since before hbefore hopen step hold
  · intro hcleared step hstep entry hentry hopen
    obtain ⟨hwas, hsame⟩ := hnext hcleared
    obtain ⟨before, hbefore, rfl⟩ := List.mem_map.mp hentry
    have hstep' : Handover.nextStep executor = some step := hstep
    exact h.next hwas step (hsame ▸ hstep') before hbefore hopen

private theorem not_undoes_of_restore {successor : WorkflowRequest} (h : step.operation = .restoreGpuServices) :
    undoes successor step = false := by
  by_contra hundoes
  have hop := undoes_operation (Bool.not_eq_false _ ▸ hundoes)
  rw [h] at hop
  simp at hop

private theorem Fresh.goOn (h : Fresh s) (hne : event ≠ .dispatch) (hcleared : s.cleared = false ∨
    Handover.nextStep (executorStep s.executor event) = Handover.nextStep s.executor) :
    Fresh (s.noting (executorStep s.executor event)) := by
  refine h.noting (fun hidle step hstep entry _ _ => ?_) fun hwas => ⟨hwas, ?_⟩
  · rcases sent_of_executorStep hidle hstep with ⟨he, -⟩ | hop
    · exact absurd he hne
    · exact not_undoes_of_restore hop
  · rcases hcleared with hcleared | hsame
    · rw [hcleared] at hwas
      cases hwas
    · exact hsame

private theorem Fresh.release (h : Fresh s) : Fresh s.release :=
  ⟨h.since, fun hcleared => by cases hcleared⟩

private theorem Fresh.superseding (h : Fresh s) (pass : ExecutorPass) (successor : WorkflowRequest) :
    Fresh (s.superseding pass successor now) := by
  unfold Handover.superseding
  split
  · exact ⟨h.since, fun hcleared => by cases hcleared⟩
  · exact h.release

private theorem Fresh.record (h : Fresh s) (outcome : StepOutcome) (hne : event ≠ .dispatch) :
    Fresh (s.record event outcome) := by
  unfold Handover.record
  cases hcleared : s.cleared with
  | true => simpa [hcleared] using h
  | false =>
    have hgo := h.goOn hne (.inl hcleared)
    simp only [Bool.false_eq_true, if_false]
    split_ifs
    · exact h.release
    · exact hgo.release
    · exact hgo

private theorem Fresh.dispatch (h : Fresh s) : Fresh (s.executorEvent .dispatch) := by
  dsimp only [Handover.executorEvent]
  split
  · exact h
  · rename_i hguard
    simp only [Bool.or_eq_true, Bool.and_eq_true, Bool.not_eq_true', not_or, not_and, Bool.not_eq_false] at hguard
    refine h.noting (fun hidle step hstep entry hentry hopen => ?_) fun hcleared => by cases hcleared
    rcases sent_of_executorStep hidle hstep with ⟨-, hnext⟩ | hop
    · exact h.next (hguard.2 (by rw [hnext]; rfl)) step hnext entry hentry hopen
    · exact not_undoes_of_restore hop

private theorem Fresh.executorEvent (h : Fresh s) (event : ExecutorEvent) : Fresh (s.executorEvent event) := by
  cases event with
  | claim predecessor now =>
    dsimp only [Handover.executorEvent]
    split
    · exact h
    · refine h.noting (fun hidle step hstep entry _ _ => ?_) fun hcleared => by cases hcleared
      rcases sent_of_executorStep hidle hstep with ⟨he, -⟩ | hop
      · cases he
      · exact not_undoes_of_restore hop
  | abort => exact h.release
  | withdraw reason now =>
    refine h.goOn (by simp) (.inr ?_)
    dsimp only [executorStep, Executor.withdraw]
    split <;> rfl
  | merge merge now => exact h.goOn (by simp) (.inr rfl)
  | scan now =>
    dsimp only [Handover.executorEvent]
    split
    · exact h
    · rename_i hguard
      simp only [Bool.or_eq_true, not_or, Bool.not_eq_true] at hguard
      split
      · exact h.goOn (by simp) (.inl hguard.1)
      · exact h.release
  | dispatch => exact h.dispatch
  | record outcome verdict inventory targets now => exact h.record outcome (by simp)
  | restoreAhead now | endBatch now | withholdRestart index outcome now =>
    dsimp only [Handover.executorEvent]
    split
    · exact h
    · rename_i hguard
      simp only [Bool.or_eq_true, not_or, Bool.not_eq_true] at hguard
      exact h.goOn (by simp) (.inl hguard.1)

/-- A pass is let through before a step only if the step undoes nothing. -/
private theorem Fresh.boundary (h : Fresh s) {found : StepBoundary}
    (hback : TakesNothingBack s (.boundary found now)) :
    Fresh (s.boundary found now) := by
  unfold Handover.boundary
  cases hfree : s.executor.freePass with
  | none => exact h
  | some pass =>
    dsimp only
    split
    · exact h
    · rename_i hguard
      simp only [Bool.or_eq_true, not_or, Bool.not_eq_true] at hguard
      split
      · rename_i hproceed
        refine ⟨h.since, fun _ step hnext entry hentry hopen => ?_⟩
        by_contra hundoes
        rw [Bool.not_eq_false] at hundoes
        obtain ⟨successor, hsuccessor, hyields⟩ := hback pass step entry hfree hnext hentry hopen hundoes
        rw [hsuccessor] at hproceed
        exact verdict_of_yields rfl hyields hproceed
      · exact h.superseding pass _
      · rename_i successor index step hverdict
        refine h.noting (fun _ sent hsent entry _ _ => ?_) fun hcleared => ?_
        · have hrestore : sent.operation = .restoreGpuServices := by
            rw [← (by simpa [Handover.onItsWay] using hsent : step = sent)]
            exact restoreFirst_operation hverdict
          exact not_undoes_of_restore hrestore
        · have hcleared' : s.cleared = true := hcleared
          rw [hguard.1.1] at hcleared'
          cases hcleared'

/-- A new copy is fresh: nothing that undoes it is on its way. -/
private theorem Fresh.prepare (h : Fresh s) {candidate : WorkflowRequest}
    (hback : TakesNothingBack s (.prepare candidate now)) :
    Fresh (s.prepare candidate now) := by
  unfold Handover.prepare
  split
  · exact h
  · rename_i successor hsuccessor
    split
    · rename_i hguard
      simp only [Bool.and_eq_true, Bool.not_eq_true', beq_iff_eq] at hguard
      have hnew : ∀ step, Handover.onItsWay s.executor = some step ∨
          (s.cleared = true ∧ Handover.nextStep s.executor = some step) → undoes successor step = false := by
        intro step hstep
        by_contra hundoes
        rw [Bool.not_eq_false] at hundoes
        obtain ⟨planned, contained, hplanned, hmem, hinheritable, hundone⟩ :=
          undoes_prepared hsuccessor hguard.1.1 hguard.1.2 hundoes
        have hkept := hback planned contained step hplanned hmem hinheritable hstep
        rw [hkept] at hundone
        cases hundone
      constructor
      · intro entry hentry hopen step hstep
        rcases List.mem_cons.mp hentry with rfl | hold
        · exact hnew step (.inl (Option.mem_toList.mp hstep))
        · exact h.since entry hold hopen step hstep
      · intro hcleared step hstep entry hentry hopen
        have hstep' : Handover.nextStep s.executor = some step := hstep
        rcases List.mem_cons.mp hentry with rfl | hold
        · exact hnew step (.inr ⟨hcleared, hstep'⟩)
        · exact h.next hcleared step hstep' entry hold hopen
    · exact h

/-- A successor may be rewritten if it is closed by that, or inherits no more than before. -/
private theorem Fresh.amendSuccessor (h : Fresh s) (requestId : String) {amend : WorkflowRequest → WorkflowRequest}
    (hamend : ∀ row, (amend row).status.executable = true → row.status.executable = true ∧
      ∀ step, undoes (amend row) step = true → undoes row step = true) :
    Fresh (s.amendSuccessor requestId amend) := by
  have hback : ∀ entry ∈ (s.amendSuccessor requestId amend).successors, entry.row.status.executable = true →
      ∃ before ∈ s.successors, before.row.status.executable = true ∧ entry.since = before.since ∧
        ∀ step, undoes before.row step = false → undoes entry.row step = false := by
    intro entry hentry hopen
    obtain ⟨before, hbefore, rfl⟩ := List.mem_map.mp hentry
    split at hopen
    · rename_i hid
      rw [if_pos hid]
      obtain ⟨hwas, hundoes⟩ := hamend before.row hopen
      refine ⟨before, hbefore, hwas, rfl, fun step hkept => ?_⟩
      by_contra hundone
      rw [Bool.not_eq_false] at hundone
      rw [hundoes step hundone] at hkept
      cases hkept
    · rename_i hid
      rw [if_neg hid]
      exact ⟨before, hbefore, hopen, rfl, fun _ hkept => hkept⟩
  constructor
  · intro entry hentry hopen step hstep
    obtain ⟨before, hbefore, hwas, hsince, hkept⟩ := hback entry hentry hopen
    exact hkept step (h.since before hbefore hwas step (hsince ▸ hstep))
  · intro hcleared step hstep entry hentry hopen
    obtain ⟨before, hbefore, hwas, -, hkept⟩ := hback entry hentry hopen
    exact hkept step (h.next hcleared step hstep before hbefore hwas)

end Fresh

/-- Every event keeps the copies fresh. -/
private theorem Fresh.step {s : Handover} (h : Fresh s) (event : HandoverEvent) (hback : TakesNothingBack s event) :
    Fresh (handoverStep s event) := by
  cases event with
  | executor event => exact h.executorEvent event
  | boundary found now => exact h.boundary hback
  | giveWay now =>
    dsimp only [handoverStep, Handover.giveWay]
    split
    · exact h.superseding _ _
    · exact h
  | prepare candidate now => exact h.prepare hback
  | finish status blockedKind =>
    dsimp only [handoverStep]
    split
    · exact h
    · exact ⟨h.since, h.next⟩
  | closeSuccessor requestId status =>
    dsimp only [handoverStep]
    split
    · exact h
    · rename_i hclosed
      exact h.amendSuccessor requestId fun row hopen => absurd hopen hclosed
  | claimSuccessor requestId now =>
    dsimp only [handoverStep]
    refine h.amendSuccessor requestId fun row hopen => ?_
    unfold Handover.claimed at hopen ⊢
    split at hopen
    · rename_i hwaits
      rw [if_pos hwaits]
      simp only [Bool.and_eq_true, Bool.or_eq_true, beq_iff_eq] at hwaits
      refine ⟨?_, fun step hundoes => ?_⟩
      · rcases hwaits.1 with hstatus | hstatus <;> rw [hstatus] <;> rfl
      · have hinherited := undoes_of_adopted hundoes
        exact hinherited
    · rename_i hwaits
      rw [if_neg hwaits]
      exact ⟨hopen, fun _ hundoes => hundoes⟩

/-- In every run in which no step takes a containment back past a successor, nothing the predecessor had on its way at
the copy or dispatched after it readmits a node of an inherited cordon or restarts the workloads of an inherited stop,
for every successor that is claimed. -/
theorem inherited_containment_stands {s : Handover} {events : List HandoverEvent} (hstart : s.successors = [])
    (h : Run.Along handoverStep TakesNothingBack s events) :
    ∀ entry ∈ (Run.exec handoverStep s events).successors, entry.row.status = .running →
      ∀ step ∈ entry.since, undoes entry.row step = false := by
  have hfresh : Fresh s := by
    constructor
    · intro entry hentry
      rw [hstart] at hentry
      cases hentry
    · intro _ _ _ entry hentry
      rw [hstart] at hentry
      cases hentry
  intro entry hentry hrunning step hstep
  have hend : Fresh (Run.exec handoverStep s events) := Run.invariant_exec (fun _ event hs => hs.step event) hfresh h
  exact hend.since entry hentry (by rw [hrunning]; rfl) step hstep

/-- Nodes `a` and `b` are reset side by side: `a` is done and only has to be readmitted, the reset of `b` is as
given. -/
private def twoResets (reset : WorkflowStepExecution) : WorkflowRequest :=
  { requestId := "w1"
    incidentId := "i"
    status := .running
    dagEnabled := true
    officialSteps :=
      [{ operation := .markUnschedulable, nodeIds := ["a"], branchId := some "branch:a" },
       { operation := .resetGpu, nodeIds := ["a"], branchId := some "branch:a", dependsOnStepIndexes := [0] },
       { operation := .restoreScheduling, nodeIds := ["a"], branchId := some "branch:a",
         dependsOnStepIndexes := [1] },
       { operation := .resetGpu, nodeIds := ["b"], branchId := some "branch:b" },
       { operation := .restoreScheduling, nodeIds := ["b"], branchId := some "branch:b",
         dependsOnStepIndexes := [3] }]
    completedStepIndexes := [0, 1]
    completedOperations := [.markUnschedulable, .resetGpu]
    stepExecutions := [reset] }

/-- A reboot of `a`, which begins with the cordon the predecessor already made. -/
private def rebootOfA : WorkflowRequest :=
  { requestId := "w2"
    incidentId := "i"
    status := .pending
    predecessorWorkflowId := some "w1"
    officialSteps :=
      [{ operation := .markUnschedulable, nodeIds := ["a"] },
       { operation := .restartNode, nodeIds := ["a"] }] }

private def foundAtBoundary : StepBoundary :=
  { reread := { requestId := "w1", incidentId := "i", status := .running }
    incident := { incidentId := "i", workflowRequestId := some "w2" } }

private def stepSucceeds : List HandoverEvent :=
  [.boundary foundAtBoundary 2, .executor .dispatch,
   .executor (.record { status := .succeeded } .jobLevel (fun _ => []) [] 3)]

/-- While the local reset of `b` is waited for, the reboot of `a` takes the cordon over and `a` is readmitted. Once
the reset is done the row gives way, and the reboot is claimed. -/
private def readmittingRun : List HandoverEvent :=
  [.prepare rebootOfA 1, .executor (.claim none 1), .executor (.scan 2)] ++ stepSucceeds ++ stepSucceeds ++
    [.executor (.scan 4), .boundary foundAtBoundary 4, .claimSuccessor "w2" 5]

/-- The reset of `b` as a local adapter leaves it. -/
private def localWait : WorkflowStepExecution :=
  { stepIndex := 3, operation := .resetGpu, status := .waiting, phase := some .official }

/-- A node the successor believes to be cordoned is readmitted. -/
theorem inherited_cordon_lifted :
    ¬ ∀ entry ∈ (Run.exec handoverStep { executor := { row := twoResets localWait } } readmittingRun).successors,
      entry.row.status = .running → ∀ step ∈ entry.since, undoes entry.row step = false := by
  decide +kernel

/-- The reset of `b` as a remote command nobody has taken yet. -/
private def remoteWait : WorkflowStepExecution :=
  { stepIndex := 3, operation := .resetGpu, status := .waiting, phase := some .official,
    adapterOperationId := some "remote/c1", details := [("remote_status", .str "PENDING")] }

/-- The same reboot where the boundary is open: the row gives way before `a` is readmitted. -/
private def givingWayRun : List HandoverEvent :=
  [.prepare rebootOfA 1, .executor (.claim none 1), .executor (.scan 2), .boundary foundAtBoundary 2,
   .claimSuccessor "w2" 5]

/-- A reset that can be cancelled keeps nobody: the reboot is claimed on a node that is still cordoned. -/
theorem inherited_containment_stands_cancelled :
    (∃ entry ∈ (Run.exec handoverStep { executor := { row := twoResets remoteWait } } givingWayRun).successors,
      entry.row.status = .running ∧ entry.row.inheritedStepIndexes = [0]) ∧
    ∀ entry ∈ (Run.exec handoverStep { executor := { row := twoResets remoteWait } } givingWayRun).successors,
      entry.row.status = .running → ∀ step ∈ entry.since, undoes entry.row step = false := by
  refine ⟨by decide +kernel, inherited_containment_stands rfl ⟨?_, trivial, trivial, ?_, trivial, trivial⟩⟩
  · rintro planned contained step - - - (hsent | ⟨hcleared, -⟩)
    · cases hsent
    · cases hcleared
  · intro pass step entry hfree hnext hentry hopen hundoes
    obtain rfl := Option.some.inj hfree
    refine ⟨_, rfl, by decide +kernel, by decide +kernel, by decide +kernel, by decide +kernel, by decide +kernel⟩

end GpuFaultRecovery
