import GpuFaultRecovery.InheritedContainment

/-!
# Handing quiesced nodes over

A row that gives way to a successor either hands its quiesce over or runs one restore of its own, and what the
successor takes over is judged again when it is claimed. Both judgements look at one quiesce step, and both ask that
the nodes of the successor lie within it, not the other way round. So a node stays quiesced with nobody to restore it
exactly when the row owes it and the plan of the successor does not name it where the claim looks.
-/

namespace GpuFaultRecovery

/-! ### Who owes a node its services -/

/-- Whether `row` owes `node` its services: it inherited the quiesce of it as completed, or has a restore of it to
run. -/
def Owes (row : WorkflowRequest) (node : String) : Prop :=
  ∃ index step, row.officialSteps[index]? = some step ∧ node ∈ step.nodeIds ∧
    ((step.operation = .quiesceGpuServices ∧ index ∈ row.inheritedStepIndexes ∧ index ∈ row.completedStepIndexes) ∨
      (step.operation = .restoreGpuServices ∧ index ∉ row.resolvedStepIndexes))

/-- Whether a plan needs the services stopped when it runs. -/
def resets (row : WorkflowRequest) : Bool := row.officialSteps.any fun step => needsLiveQuiesce step.operation

/-- Where the claim of a resetting successor looks: its first quiesce that lies within the one handed over. -/
def fittingQuiesce (successor : WorkflowRequest) (quiesce : WorkflowStepSpec) : Option Nat :=
  successor.officialSteps.findIdx? fun step =>
    step.operation == .quiesceGpuServices && step.nodeIds.all quiesce.nodeIds.contains

def firstReboot (successor : WorkflowRequest) : Option (WorkflowStepSpec × Nat) :=
  successor.officialSteps.zipIdx.find? fun (step, _) => step.operation == .restartNode

/-- A resetting successor takes `node` over: it names it in its first quiesce that lies within the last one `row` did
not restore. -/
def TakesQuiesce (row successor : WorkflowRequest) (node : String) : Prop :=
  ∃ place quiesce evidence index step, quiesceHandoffEvidence row true = some (place, quiesce, evidence) ∧
    fittingQuiesce successor quiesce = some index ∧ successor.officialSteps[index]? = some step ∧ node ∈ step.nodeIds

/-- A rebooting successor restores `node`: it names it in its first reboot, that reboot lies within the last quiesce
of `row`, restored or not, and `row` has a restore to copy behind it. -/
def RestoresBehindReboot (row successor : WorkflowRequest) (node : String) : Prop :=
  ∃ place quiesce evidence reboot index, quiesceHandoffEvidence row false = some (place, quiesce, evidence) ∧
    firstReboot successor = some (reboot, index) ∧ reboot.nodeIds.all quiesce.nodeIds.contains = true ∧
    (∃ restore ∈ row.officialSteps, restore.operation = .restoreGpuServices) ∧
    successor.officialSteps.length ∉ successor.resolvedStepIndexes ∧ node ∈ reboot.nodeIds

/-- Whether `node` passes from `row` to `successor`. -/
def PassesOn (row successor : WorkflowRequest) (node : String) : Prop :=
  Owes successor node ∨ (resets successor = true ∧ TakesQuiesce row successor node) ∨
    (resets successor = false ∧ RestoresBehindReboot row successor node)

/-- A successor that waits behind `row`, which has given way to it. -/
structure TakesOver (row successor : WorkflowRequest) : Prop where
  fresh : successor.quiesceHandoffFromWorkflowId = none
  predecessor : successor.predecessorWorkflowId = some row.requestId
  superseded : row.status = .superseded
  preempted : row.preemptedByWorkflowId = some successor.requestId
  incident : row.incidentId = successor.incidentId

/-! ### What the claim makes of it -/

section Adopted

variable {successor row : WorkflowRequest} {node : String} {now : Time} {rowId : String} {index : Nat}

/-- A quiesce taken over adds its own nodes. -/
private theorem owes_inheritQuiesce {evidence : WorkflowStepExecution} {step : WorkflowStepSpec}
    (hstep : successor.officialSteps[index]? = some step) (hop : step.operation = .quiesceGpuServices) :
    Owes (inheritQuiesce successor rowId index evidence now) node ↔ Owes successor node ∨ node ∈ step.nodeIds := by
  have hresolved : ∀ i, i ∈ (inheritQuiesce successor rowId index evidence now).resolvedStepIndexes ↔
      i ∈ successor.resolvedStepIndexes ∨ i = index := by
    intro i
    simp only [inheritQuiesce, WorkflowRequest.resolvedStepIndexes, List.mem_append, mem_sortedSet,
      List.mem_singleton]
    tauto
  have hinherited : ∀ i, i ∈ (inheritQuiesce successor rowId index evidence now).inheritedStepIndexes ↔
      i ∈ successor.inheritedStepIndexes ∨ i = index := by simp [inheritQuiesce]
  have hcompleted : ∀ i, i ∈ (inheritQuiesce successor rowId index evidence now).completedStepIndexes ↔
      i ∈ successor.completedStepIndexes ∨ i = index := by simp [inheritQuiesce]
  constructor
  · rintro ⟨i, other, hother, hnode, ⟨hquiesce, hin, hdone⟩ | ⟨hrestore, hlive⟩⟩
    · have hother' : successor.officialSteps[i]? = some other := hother
      by_cases hi : i = index
      · subst hi
        rw [hstep] at hother'
        exact .inr (Option.some.inj hother' ▸ hnode)
      · exact .inl ⟨i, other, hother', hnode, .inl ⟨hquiesce, ((hinherited i).mp hin).resolve_right hi,
          ((hcompleted i).mp hdone).resolve_right hi⟩⟩
    · exact .inl ⟨i, other, hother, hnode, .inr ⟨hrestore, fun hr => hlive ((hresolved i).mpr (.inl hr))⟩⟩
  · rintro (⟨i, other, hother, hnode, ⟨hquiesce, hin, hdone⟩ | ⟨hrestore, hlive⟩⟩ | hnode)
    · exact ⟨i, other, hother, hnode, .inl ⟨hquiesce, (hinherited i).mpr (.inl hin), (hcompleted i).mpr (.inl hdone)⟩⟩
    · refine ⟨i, other, hother, hnode, .inr ⟨hrestore, fun hr => ?_⟩⟩
      rcases (hresolved i).mp hr with hr | rfl
      · exact hlive hr
      · -- a quiesce is no restore
        rw [hstep] at hother
        rw [← Option.some.inj hother, hop] at hrestore
        cases hrestore
    · exact ⟨index, step, hstep, hnode,
        .inl ⟨hop, (hinherited index).mpr (.inr rfl), (hcompleted index).mpr (.inr rfl)⟩⟩

/-- A restore put behind a reboot adds its own nodes, if its place is free. -/
private theorem owes_restoreAfterReboot {cleanup : WorkflowStepSpec} (hop : cleanup.operation = .restoreGpuServices) :
    Owes (restoreAfterReboot successor rowId index cleanup now) node ↔ Owes successor node ∨
      (successor.officialSteps.length ∉ successor.resolvedStepIndexes ∧ node ∈ cleanup.nodeIds) := by
  have hold : ∀ i, i < successor.officialSteps.length →
      ∃ step rewired, successor.officialSteps[i]? = some step ∧
        (restoreAfterReboot successor rowId index cleanup now).officialSteps[i]? = some rewired ∧
        rewired.operation = step.operation ∧ rewired.nodeIds = step.nodeIds := by
    intro i hi
    simp only [restoreAfterReboot]
    rw [List.getElem?_append_left (by simpa using hi)]
    simp only [List.getElem?_map, List.getElem?_zipIdx, List.getElem?_eq_getElem hi, Option.map_some]
    exact ⟨_, _, rfl, rfl, rfl, rfl⟩
  have hnew : (restoreAfterReboot successor rowId index cleanup now).officialSteps[successor.officialSteps.length]? =
      some cleanup := by simp [restoreAfterReboot]
  constructor
  · rintro ⟨i, other, hother, hnode, hwhy⟩
    by_cases hi : i < successor.officialSteps.length
    · obtain ⟨step, rewired, hstep, hrewired, hsame, hnodes⟩ := hold i hi
      obtain rfl : rewired = other := Option.some.inj (hrewired.symm.trans hother)
      rw [hsame] at hwhy
      exact .inl ⟨i, step, hstep, hnodes ▸ hnode, hwhy⟩
    · have hlast : i = successor.officialSteps.length := by
        have hlt := (List.getElem?_eq_some_iff.mp hother).1
        simp only [restoreAfterReboot, List.length_append, List.length_map, List.length_zipIdx, List.length_singleton]
          at hlt
        omega
      subst hlast
      obtain rfl : cleanup = other := Option.some.inj (hnew.symm.trans hother)
      rcases hwhy with ⟨hquiesce, -⟩ | ⟨-, hlive⟩
      · rw [hop] at hquiesce
        cases hquiesce
      · exact .inr ⟨hlive, hnode⟩
  · rintro (⟨i, step, hstep, hnode, hwhy⟩ | ⟨hlive, hnode⟩)
    · obtain ⟨step', rewired, hstep', hrewired, hsame, hnodes⟩ := hold i (List.getElem?_eq_some_iff.mp hstep).1
      obtain rfl : step' = step := Option.some.inj (hstep'.symm.trans hstep)
      exact ⟨i, rewired, hrewired, hnodes ▸ hnode, by rw [hsame]; exact hwhy⟩
    · exact ⟨successor.officialSteps.length, cleanup, hnew, hnode, .inr ⟨hop, hlive⟩⟩

def cleanupAfter (row : WorkflowRequest) (restore reboot : WorkflowStepSpec) (index : Nat) : WorkflowStepSpec :=
  { restore with
    nodeIds := reboot.nodeIds
    branchId := reboot.branchId
    parameters := (restore.parameters.set "preemption_quiesce_handoff_after_reboot" (.bool true)).set
      "handoff_from_workflow_id" (.str row.requestId)
    dependsOnStepIndexes := [index] }

private theorem quiesceAdoption_resets (h : TakesOver row successor) (hreset : resets successor = true) :
    quiesceAdoption successor row = (quiesceHandoffEvidence row true).bind fun entry =>
      (fittingQuiesce successor entry.2.1).map fun index => .inherit index entry.2.2 := by
  have hreset' : (successor.officialSteps.any fun step => needsLiveQuiesce step.operation) = true := hreset
  unfold quiesceAdoption fittingQuiesce
  simp only [h.fresh, h.predecessor, h.superseded, h.preempted, h.incident, hreset', Option.isSome_none,
    bne_self_eq_false, Bool.or_self, Bool.false_eq_true, if_false, if_true]
  cases quiesceHandoffEvidence row true <;> rfl

/-- A rebooting successor restores behind its reboot, if that fits. -/
private theorem quiesceAdoption_reboots (h : TakesOver row successor) (hreset : resets successor = false) :
    quiesceAdoption successor row = (quiesceHandoffEvidence row false).bind fun entry =>
      (firstReboot successor).bind fun reboot =>
        if reboot.1.nodeIds.all entry.2.1.nodeIds.contains then
          (row.officialSteps.find? fun step => step.operation == .restoreGpuServices).map fun restore =>
            .restoreAfter reboot.2 (cleanupAfter row restore reboot.1 reboot.2)
        else none := by
  have hreset' : (successor.officialSteps.any fun step => needsLiveQuiesce step.operation) = false := hreset
  unfold quiesceAdoption firstReboot
  simp only [h.fresh, h.predecessor, h.superseded, h.preempted, h.incident, hreset', Option.isSome_none,
    bne_self_eq_false, Bool.or_self, Bool.false_eq_true, if_false]
  cases quiesceHandoffEvidence row false with
  | none => rfl
  | some entry =>
    obtain ⟨place, quiesce, evidence⟩ := entry
    simp only [Option.bind_some]
    cases successor.officialSteps.zipIdx.find? fun (step, _) => step.operation == .restartNode with
    | none => rfl
    | some reboot =>
      obtain ⟨reboot, index⟩ := reboot
      simp only [Option.bind_some]
      cases reboot.nodeIds.all quiesce.nodeIds.contains <;> rfl

private theorem owes_adopted_resets (h : TakesOver row successor) (hreset : resets successor = true) :
    Owes (adoptQuiesceHandoff successor (some row) now) node ↔
      Owes successor node ∨ TakesQuiesce row successor node := by
  unfold adoptQuiesceHandoff TakesQuiesce
  dsimp only
  rw [quiesceAdoption_resets h hreset]
  cases hevidence : quiesceHandoffEvidence row true with
  | none => simp
  | some entry =>
    obtain ⟨place, quiesce, evidence⟩ := entry
    simp only [Option.bind_some]
    cases hfits : fittingQuiesce successor quiesce with
    | none =>
      refine ⟨.inl, ?_⟩
      rintro (howes | ⟨_, _, _, index, _, he, hfits', -⟩)
      · exact howes
      · cases he
        rw [hfits] at hfits'
        cases hfits'
    | some index =>
      obtain ⟨hlt, hquiesce, -⟩ := List.findIdx?_eq_some_iff_getElem.mp hfits
      simp only [Bool.and_eq_true, beq_iff_eq] at hquiesce
      have hstep := List.getElem?_eq_getElem hlt
      simp only [Option.map_some]
      rw [owes_inheritQuiesce hstep hquiesce.1]
      refine or_congr_right ⟨fun hnode => ⟨place, quiesce, evidence, index, _, rfl, hfits, hstep, hnode⟩, ?_⟩
      rintro ⟨_, _, _, index', step, he, hfits', hstep', hnode⟩
      cases he
      obtain rfl : index = index' := Option.some.inj (hfits.symm.trans hfits')
      rw [hstep] at hstep'
      exact Option.some.inj hstep' ▸ hnode

private theorem owes_adopted_reboots (h : TakesOver row successor) (hreset : resets successor = false) :
    Owes (adoptQuiesceHandoff successor (some row) now) node ↔
      Owes successor node ∨ RestoresBehindReboot row successor node := by
  unfold adoptQuiesceHandoff
  dsimp only
  rw [quiesceAdoption_reboots h hreset]
  -- whatever is missing, the row stays as it is and nothing is restored behind the reboot
  have hkeeps : ¬ RestoresBehindReboot row successor node →
      (Owes successor node ↔ Owes successor node ∨ RestoresBehindReboot row successor node) :=
    fun hnot => ⟨.inl, fun hor => hor.resolve_right hnot⟩
  cases hevidence : quiesceHandoffEvidence row false with
  | none =>
    refine hkeeps ?_
    rintro ⟨_, _, _, _, _, he, -⟩
    rw [hevidence] at he
    cases he
  | some entry =>
    obtain ⟨place, quiesce, evidence⟩ := entry
    simp only [Option.bind_some]
    cases hreboot : firstReboot successor with
    | none =>
      refine hkeeps ?_
      rintro ⟨_, _, _, _, _, -, he, -⟩
      rw [hreboot] at he
      cases he
    | some reboot =>
      obtain ⟨reboot, index⟩ := reboot
      simp only [Option.bind_some]
      by_cases hwithin : reboot.nodeIds.all quiesce.nodeIds.contains = true
      · rw [if_pos hwithin]
        cases hrestore : row.officialSteps.find? fun step => step.operation == .restoreGpuServices with
        | none =>
          have hnone : ∀ restore ∈ row.officialSteps, restore.operation ≠ .restoreGpuServices := by
            simpa using hrestore
          refine hkeeps ?_
          rintro ⟨_, _, _, _, _, -, -, -, ⟨restore, hmem, hop⟩, -⟩
          exact hnone restore hmem hop
        | some restore =>
          have hop : restore.operation = .restoreGpuServices := by simpa using List.find?_some hrestore
          have hmem := List.mem_of_find?_eq_some hrestore
          simp only [Option.map_some]
          have hcleanup : (cleanupAfter row restore reboot index).operation = .restoreGpuServices := hop
          rw [owes_restoreAfterReboot hcleanup]
          refine or_congr_right ⟨?_, ?_⟩
          · rintro ⟨hfree, hnode⟩
            exact ⟨place, quiesce, evidence, reboot, index, hevidence, hreboot, hwithin, ⟨restore, hmem, hop⟩,
              hfree, hnode⟩
          · rintro ⟨_, _, _, reboot', index', -, hreboot', -, -, hfree, hnode⟩
            rw [hreboot] at hreboot'
            cases hreboot'
            exact ⟨hfree, hnode⟩
      · rw [if_neg hwithin]
        refine hkeeps ?_
        rintro ⟨_, _, _, reboot', index', he, hreboot', hwithin', -⟩
        rw [hevidence] at he
        rw [hreboot] at hreboot'
        cases he
        cases hreboot'
        exact hwithin hwithin'

private theorem owes_preparedRow {deadline : Option Time} (h : TakesOver row successor) :
    Owes (preparedRow successor (some row) deadline now) node ↔ PassesOn row successor node := by
  let claimed :
    WorkflowRequest := { successor with status := .running, executionDeadline := deadline, updatedAt := now }
  have hclaimed : TakesOver row claimed := ⟨h.fresh, h.predecessor, h.superseded, h.preempted, h.incident⟩
  have hadopted : preparedRow successor (some row) deadline now = adoptQuiesceHandoff claimed (some row) now := rfl
  rw [hadopted]
  unfold PassesOn
  cases hreset : resets successor with
  | true =>
    have hresets : Owes (adoptQuiesceHandoff claimed (some row) now) node ↔
        Owes successor node ∨ TakesQuiesce row successor node := owes_adopted_resets hclaimed hreset
    simp [hresets]
  | false =>
    have hreboots : Owes (adoptQuiesceHandoff claimed (some row) now) node ↔
        Owes successor node ∨ RestoresBehindReboot row successor node := owes_adopted_reboots hclaimed hreset
    simp [hreboots]

end Adopted

/-! ### Giving way -/

/-- A running row at a boundary with a preempting successor of its own incident, as the store finds them. -/
structure PreemptedAt (found : StepBoundary) (workflow successor : WorkflowRequest) : Prop where
  running : workflow.status = .running
  rereadRunning : found.reread.status = .running
  rereadRequest : found.reread.requestId = workflow.requestId
  rereadIncident : found.reread.incidentId = workflow.incidentId
  found : found.successor = some successor
  predecessor : successor.predecessorWorkflowId = some workflow.requestId
  unclaimed : successor.quiesceHandoffFromWorkflowId = none
  incident : successor.incidentId = workflow.incidentId

/-- The row as it is when it gives way: as held, or read back with the answer of the one restore it had to run. -/
def StepBoundary.yieldedRow (found : StepBoundary) (workflow successor : WorkflowRequest) (now : Time) :
    WorkflowRequest :=
  if found.owesRestore workflow successor then
    match pendingRestoreStep workflow workflow.officialSteps with
    | none => workflow
    | some (index, step) =>
      recordCompletion (recordAttempt found.reread step index found.restore now) index .restoreGpuServices now
  else workflow

section GivingWay

variable {found : StepBoundary} {workflow successor row : WorkflowRequest} {now : Time}

private theorem superseded_eq (hat : PreemptedAt found workflow successor)
    (h : found.supersedeIfSafe workflow now = .superseded row) :
    row = supersededRow (found.yieldedRow workflow successor now) successor now := by
  rcases supersedeIfSafe_cases found workflow now with he | ⟨waiting, he⟩ | ⟨other, hother, ⟨howes, he⟩ |
    ⟨howes, index, step, hpending, ⟨-, failed, asked, he⟩ | ⟨-, he⟩⟩⟩
  · rw [he] at h
    cases h
  · rw [he] at h
    cases h
  · obtain rfl : successor = other := Option.some.inj (hat.found.symm.trans hother)
    rw [he] at h
    rw [StepBoundary.yieldedRow, if_neg (by simp [howes])]
    exact (SupersedeResult.superseded.inj h).symm
  · rw [he] at h
    cases h
  · obtain rfl : successor = other := Option.some.inj (hat.found.symm.trans hother)
    rw [he] at h
    rw [StepBoundary.yieldedRow, if_pos howes, hpending]
    exact (SupersedeResult.superseded.inj h).symm

private theorem yieldedRow_running (hat : PreemptedAt found workflow successor) :
    (found.yieldedRow workflow successor now).status = .running ∧
      (found.yieldedRow workflow successor now).requestId = workflow.requestId ∧
      (found.yieldedRow workflow successor now).incidentId = workflow.incidentId := by
  unfold StepBoundary.yieldedRow
  split
  · split
    · exact ⟨hat.running, rfl, rfl⟩
    · exact ⟨hat.rereadRunning, hat.rereadRequest, hat.rereadIncident⟩
  · exact ⟨hat.running, rfl, rfl⟩

private theorem unrestoredQuiesces_superseded (hrunning : workflow.status = .running) :
    unrestoredQuiesces (supersededRow workflow successor now) (supersededRow workflow successor now).executedSteps =
      unrestoredQuiesces workflow workflow.executedSteps := by
  have hsteps : (supersededRow workflow successor now).executedSteps = workflow.executedSteps := by
    simp [WorkflowRequest.executedSteps, WorkflowRequest.executesSafetySteps, supersededRow, hrunning]
  rw [hsteps]
  rfl

end GivingWay

/-- A preemption strands no quiesced node exactly when every node the row still owes as it gives way passes on to the
successor. -/
theorem no_node_stranded_iff {found : StepBoundary} {workflow successor row : WorkflowRequest} {now claimedAt : Time}
    {deadline : Option Time} (hat : PreemptedAt found workflow successor)
    (h : found.supersedeIfSafe workflow now = .superseded row) :
    (∀ item ∈ unrestoredQuiesces row row.executedSteps, ∀ node ∈ item.nodes,
        Owes (preparedRow successor (some row) deadline claimedAt) node) ↔
      ∀ item ∈ unrestoredQuiesces (found.yieldedRow workflow successor now)
          (found.yieldedRow workflow successor now).executedSteps,
        ∀ node ∈ item.nodes, PassesOn (found.yieldedRow workflow successor now) successor node := by
  obtain ⟨hrunning, hrequest, hincident⟩ := @yieldedRow_running found workflow successor now hat
  have hrow := superseded_eq hat h
  have htakes : TakesOver row successor := by
    rw [hrow]
    exact ⟨hat.unclaimed, by rw [hat.predecessor, ← hrequest]; rfl, rfl, rfl, hincident.trans hat.incident.symm⟩
  have hpasses : ∀ node, Owes (preparedRow successor (some row) deadline claimedAt) node ↔
      PassesOn (found.yieldedRow workflow successor now) successor node := by
    intro node
    rw [owes_preparedRow htakes, hrow]
    exact Iff.rfl
  have howed : unrestoredQuiesces row row.executedSteps = unrestoredQuiesces (found.yieldedRow workflow successor now)
      (found.yieldedRow workflow successor now).executedSteps := by
    rw [hrow]
    exact unrestoredQuiesces_superseded hrunning
  rw [howed]
  constructor
  · intro hall item hitem node hnode
    exact (hpasses node).mp (hall item hitem node hnode)
  · intro hall item hitem node hnode
    exact (hpasses node).mpr (hall item hitem node hnode)

/-- Nodes `a` and `b` are quiesced, their reset is next. -/
private def quiescedPair : WorkflowRequest :=
  { requestId := "w1"
    incidentId := "i"
    status := .running
    officialSteps :=
      [{ operation := .quiesceGpuServices, nodeIds := ["a", "b"] },
       { operation := .resetGpu, nodeIds := ["a", "b"] },
       { operation := .restoreGpuServices, nodeIds := ["a", "b"] }]
    completedStepIndexes := [0]
    completedOperations := [.quiesceGpuServices]
    stepExecutions :=
      [{ stepIndex := 0, operation := .quiesceGpuServices, status := .succeeded, phase := some .official }] }

/-- A reset of every GPU and switch of `nodes`. -/
private def fullReset (nodes : List String) : WorkflowRequest :=
  { requestId := "w2"
    incidentId := "i"
    status := .pending
    predecessorWorkflowId := some "w1"
    officialSteps :=
      [{ operation := .quiesceGpuServices, nodeIds := nodes },
       { operation := .resetAllGpusNvswitches, nodeIds := nodes },
       { operation := .restoreGpuServices, nodeIds := nodes }] }

/-- `fullReset` once it is prepared as the preempting successor of the pair. -/
private def preparedReset (nodes : List String) : WorkflowRequest :=
  { fullReset nodes with
    preemptPredecessor := true
    preemptionReason := some "strictly stronger recovery action: rank 30 -> 40" }

private def pairBoundary (nodes : List String) : StepBoundary :=
  { successor := some (preparedReset nodes)
    reread := quiescedPair
    incident := { incidentId := "i", workflowRequestId := some "w2" } }

/-- A full reset of `a` alone takes the quiesce over: it lies within that of the pair. The row gives way, and nobody
owes `b` its services any more. -/
theorem second_quiesced_node_stranded :
    preparePreemptingSuccessor true quiescedPair (fullReset ["a"]) 0 = .ok (preparedReset ["a"]) ∧
      PreemptedAt (pairBoundary ["a"]) quiescedPair (preparedReset ["a"]) ∧
      ∃ row, (pairBoundary ["a"]).supersedeIfSafe quiescedPair 1 = .superseded row ∧
        ¬ ∀ item ∈ unrestoredQuiesces row row.executedSteps, ∀ node ∈ item.nodes,
          Owes (preparedRow (preparedReset ["a"]) (some row) none 2) node := by
  refine ⟨by decide +kernel, ⟨rfl, rfl, rfl, rfl, rfl, rfl, rfl, rfl⟩, _, rfl, fun hall => ?_⟩
  obtain ⟨index, step, hstep, hnode, -⟩ :=
    hall ⟨0, { operation := .quiesceGpuServices, nodeIds := ["a", "b"] },
      ["a", "b"]⟩ (by decide +kernel) "b" (by decide)
  have hnowhere :
      ∀ step ∈ (preparedRow (preparedReset ["a"]) (some (supersededRow quiescedPair (preparedReset ["a"]) 1))
      none 2).officialSteps, "b" ∉ step.nodeIds := by decide +kernel
  exact hnowhere step (List.mem_of_getElem? hstep) hnode

/-- A full reset of both nodes owes both. -/
theorem no_node_stranded_iff_pair :
    PreemptedAt (pairBoundary ["a", "b"]) quiescedPair (preparedReset ["a", "b"]) ∧
      ∃ row, (pairBoundary ["a", "b"]).supersedeIfSafe quiescedPair 1 = .superseded row ∧
        ∀ item ∈ unrestoredQuiesces row row.executedSteps, ∀ node ∈ item.nodes,
          Owes (preparedRow (preparedReset ["a", "b"]) (some row) none 2) node := by
  have hat : PreemptedAt (pairBoundary ["a", "b"]) quiescedPair (preparedReset ["a", "b"]) :=
    ⟨rfl, rfl, rfl, rfl, rfl, rfl, rfl, rfl⟩
  refine ⟨hat, _, rfl, (no_node_stranded_iff hat rfl).mpr fun item hitem node hnode => .inl ?_⟩
  have hpair :
      ∀ item ∈ unrestoredQuiesces ((pairBoundary ["a", "b"]).yieldedRow quiescedPair (preparedReset ["a", "b"]) 1)
      ((pairBoundary ["a", "b"]).yieldedRow quiescedPair (preparedReset ["a", "b"]) 1).executedSteps,
      ∀ node ∈ item.nodes, node ∈ ["a", "b"] := by decide +kernel
  exact ⟨2, _, rfl, hpair item hitem node hnode, .inr ⟨rfl, by decide⟩⟩

end GpuFaultRecovery
