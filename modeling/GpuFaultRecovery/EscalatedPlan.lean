import GpuFaultRecovery.HardwareEscalation

/-!
# The plan of an escalation under execution

Which operations an escalation plans, and what its row comes to hold while it is executed: the executor records
planned steps and rewires them, and a branch that climbs adds the next rung, which rests on a reset or a reboot of the
record.
-/

namespace GpuFaultRecovery

/-! ### Steps that ask for the same -/

/-- Two steps that run the same operation and ask for the same when it fails. -/
structure SameRequest (a b : WorkflowStepSpec) : Prop where
  operation : b.operation = a.operation
  escalation : b.parameters.get? "failure_escalation_action" = a.parameters.get? "failure_escalation_action"
  contract : b.parameters.get? "health_recovery_contract" = a.parameters.get? "health_recovery_contract"

/-- A step that asks for nothing when it fails. -/
structure Unrequested (step : WorkflowStepSpec) : Prop where
  escalation : step.parameters.get? "failure_escalation_action" = none
  contract : step.parameters.get? "health_recovery_contract" = none

/-- Every step of `steps` is one of `sources`, rewired or narrowed. -/
def Derives (sources steps : List WorkflowStepSpec) : Prop :=
  ∀ step ∈ steps, ∃ origin ∈ sources, SameRequest origin step

section Derived

variable {sources sources' steps values : List WorkflowStepSpec} {a b c step : WorkflowStepSpec}
  {existing candidate result : WorkflowRequest} {branch : CandidateBranch} {predecessor stopIndex : Option Nat}
  {replaced : List Nat} {branchId : String} {stopIsOpen : Bool}

private theorem SameRequest.refl (a : WorkflowStepSpec) : SameRequest a a := ⟨rfl, rfl, rfl⟩

private theorem SameRequest.trans (h : SameRequest a b) (h' : SameRequest b c) : SameRequest a c :=
  ⟨h'.operation.trans h.operation, h'.escalation.trans h.escalation, h'.contract.trans h.contract⟩

private theorem SameRequest.unrequested (h : SameRequest a b) (ha : Unrequested a) : Unrequested b :=
  ⟨h.escalation.trans ha.escalation, h.contract.trans ha.contract⟩

theorem Derives.refl (steps : List WorkflowStepSpec) : Derives steps steps :=
  fun step hstep => ⟨step, hstep, .refl step⟩

private theorem Derives.trans (h : Derives sources values) (h' : Derives values steps) : Derives sources steps := by
  intro step hstep
  obtain ⟨value, hvalue, hsame⟩ := h' step hstep
  obtain ⟨origin, horigin, hsame'⟩ := h value hvalue
  exact ⟨origin, horigin, hsame'.trans hsame⟩

private theorem Derives.append (h : Derives sources steps) (h' : Derives sources' values) :
    Derives (sources ++ sources') (steps ++ values) := by
  intro step hstep
  rcases List.mem_append.mp hstep with hstep | hstep
  · obtain ⟨origin, horigin, hsame⟩ := h step hstep
    exact ⟨origin, List.mem_append_left _ horigin, hsame⟩
  · obtain ⟨origin, horigin, hsame⟩ := h' step hstep
    exact ⟨origin, List.mem_append_right _ horigin, hsame⟩

private theorem derives_map {f : WorkflowStepSpec → WorkflowStepSpec} (h : ∀ step, SameRequest step (f step)) :
    Derives steps (steps.map f) := by
  intro step hstep
  obtain ⟨origin, horigin, rfl⟩ := List.mem_map.mp hstep
  exact ⟨origin, horigin, h origin⟩

private theorem derives_zipIdx_map {f : WorkflowStepSpec × Nat → WorkflowStepSpec}
    (h : ∀ entry, SameRequest entry.1 (f entry)) :
    Derives steps (steps.zipIdx.map f) := by
  intro step hstep
  obtain ⟨entry, hentry, rfl⟩ := List.mem_map.mp hstep
  exact ⟨entry.1, List.fst_mem_of_mem_zipIdx hentry, h entry⟩

private theorem derives_normalizedSteps (existing : WorkflowRequest) :
    Derives existing.officialSteps (normalizedSteps existing) :=
  derives_zipIdx_map fun _ => ⟨rfl, rfl, rfl⟩

private theorem sameRequest_suppressStep (existing : WorkflowRequest) (held : List String) (step : WorkflowStepSpec)
    (index : Nat) :
    SameRequest step (suppressStep existing held step index).1 := by
  unfold suppressStep
  dsimp only
  split
  · exact .refl step
  split
  · exact .refl step
  split
  · split
    · exact .refl step
    · unfold narrowGpuMapping
      split
      · exact ⟨rfl, Details.get?_set_ne _ _ (by decide), Details.get?_set_ne _ _ (by decide)⟩
      · exact ⟨rfl, rfl, rfl⟩
  · exact .refl step

private theorem sameRequest_markHeld (candidate : WorkflowRequest) (required : List String) (superseded : List Nat)
    (step : WorkflowStepSpec) (index : Nat) :
    SameRequest step (markHeld candidate required superseded step index) := by
  unfold markHeld
  dsimp only
  split
  · exact .refl step
  · exact ⟨rfl, Details.get?_set_ne _ _ (by decide), Details.get?_set_ne _ _ (by decide)⟩

private theorem derives_terminalSuperseded (terminal : List String) :
    Derives steps (terminalSuperseded existing steps terminal replaced).1 := by
  unfold terminalSuperseded
  split
  · exact .refl steps
  · exact derives_zipIdx_map fun entry => sameRequest_suppressStep _ _ entry.1 entry.2

private theorem derives_chainFrom (base count : Nat) (branchId : String) (index : Nat) (previous : Option Nat) :
    Derives values (chainFrom base count branchId index previous values) := by
  induction values generalizing index previous with
  | nil => exact .refl []
  | cons value rest ih =>
    intro step hstep
    rcases List.mem_cons.mp hstep with rfl | hstep
    · exact ⟨value, List.mem_cons_self, ⟨rfl, rfl, rfl⟩⟩
    · obtain ⟨origin, horigin, hsame⟩ := ih (index + 1) (some index) step hstep
      exact ⟨origin, List.mem_cons_of_mem _ horigin, hsame⟩

private theorem derives_appendChain (dependency : Option Nat) :
    Derives (steps ++ values) (appendChain steps values dependency branchId).1 :=
  (Derives.refl steps).append (derives_chainFrom _ _ _ _ _)

private theorem derives_addDependency (index dependency : Nat) :
    Derives steps (addDependency steps index dependency) := by
  intro step hstep
  obtain ⟨i, hi⟩ := List.mem_iff_getElem?.mp hstep
  rw [addDependency, List.getElem?_modify] at hi
  obtain ⟨origin, horigin, rfl⟩ := Option.map_eq_some_iff.mp hi
  refine ⟨origin, List.mem_of_getElem? horigin, ?_⟩
  split <;> exact ⟨rfl, rfl, rfl⟩

private theorem derives_gateStop :
    Derives (steps ++ values) (gateStop steps values branchId stopIndex stopIsOpen).1 := by
  unfold gateStop
  dsimp only
  split
  · dsimp only
    split
    · exact (derives_appendChain none).trans (derives_addDependency _ _)
    · exact derives_appendChain none
  · exact derives_appendChain none

private theorem sameRequest_afterStopStep (step : WorkflowStepSpec) : SameRequest step (afterStopStep step) := by
  unfold afterStopStep
  split
  · refine ⟨rfl, ?_, ?_⟩
    all_goals dsimp only
    all_goals rw [Details.get?_set_ne _ _ (by decide), Details.get?_set_ne _ _ (by decide),
      Details.get?_set_ne _ _ (by decide)]
  · exact .refl step

private theorem derives_leading : Derives branch.steps (branch.leading stopIsOpen) := by
  unfold CandidateBranch.leading
  split
  · intro step hstep
    obtain ⟨entry, hentry, rfl⟩ := List.mem_map.mp hstep
    exact ⟨entry.1, List.mem_map_of_mem (List.mem_filter.mp hentry).1, .refl _⟩
  · intro step hstep
    cases hstep

private theorem derives_trailing : Derives branch.steps (branch.trailing stopIsOpen) := by
  unfold CandidateBranch.trailing
  split
  · intro step hstep
    obtain ⟨entry, hentry, rfl⟩ := List.mem_map.mp hstep
    exact ⟨entry.1, List.mem_map_of_mem (List.mem_filter.mp hentry).1, sameRequest_afterStopStep _⟩
  · exact derives_map sameRequest_afterStopStep

private theorem derives_attach : Derives (steps ++ branch.steps)
    (attachCandidateBranch steps branch branchId stopIndex stopIsOpen predecessor).1 := by
  unfold attachCandidateBranch
  cases predecessor with
  | some _ => exact derives_appendChain _
  | none =>
    have hgate : Derives (steps ++ branch.steps)
        (gateStop steps (branch.leading stopIsOpen) branchId stopIndex stopIsOpen).1 :=
      ((Derives.refl steps).append derives_leading).trans derives_gateStop
    have hboth := (hgate.append (@derives_trailing branch stopIsOpen)).trans (@derives_appendChain _ _ branchId
      (stopIndex.orElse fun _ => (gateStop steps (branch.leading stopIsOpen) branchId stopIndex stopIsOpen).2))
    intro step hstep
    obtain ⟨origin, horigin, hsame⟩ := hboth step hstep
    refine ⟨origin, ?_, hsame⟩
    rcases List.mem_append.mp horigin with horigin | horigin
    · exact horigin
    · exact List.mem_append_right _ horigin

/-- A branch rewrite has the steps of the old plan and of the branch, and no others. -/
theorem derives_branchRewrite :
    Derives (existing.officialSteps ++ branch.steps) (branchRewrite existing branch predecessor replaced).1 := by
  have hnarrowed := (derives_normalizedSteps existing).trans
    (@derives_terminalSuperseded (normalizedSteps existing) existing replaced branch.terminal)
  have hattached := (hnarrowed.append (Derives.refl branch.steps)).trans
    (@derives_attach _ branch predecessor (stopState existing (normalizedSteps existing)).1
      (freshBranchId existing branch)
      (stopState existing (normalizedSteps existing)).2)
  unfold branchRewrite
  dsimp only
  split
  · exact hattached
  · refine hattached.trans (derives_map fun step => ?_)
    split <;> exact ⟨rfl, rfl, rfl⟩

/-- A merge of holds adds quarantines that ask for nothing. -/
private theorem inherit_request (h : inheritTerminalQuarantine existing candidate = .ok result)
    (hstep : step ∈ result.officialSteps) :
    (step.operation = .quarantine ∧ Unrequested step) ∨
      ∃ origin ∈ candidate.officialSteps, SameRequest origin step := by
  obtain ⟨held, own, -, -, ⟨-, rfl⟩ | ⟨steps, superseded, missing, hinsert, superseded', hsame, rfl⟩⟩ :=
    inheritTerminalQuarantine_ok h
  · exact .inr ⟨step, hstep, .refl step⟩
  obtain ⟨place, hplaced, -, -⟩ := @insertMissing_ok (fun step => step.operation = .quarantine ∧ Unrequested step)
    _ _ _ _ _ _ _ candidate (fun _ hinserted _ => ⟨hinserted.1, hinserted.2.escalation, hinserted.2.contract⟩)
    (fun template htemplate _ _ _ =>
      ⟨show template.operation = .quarantine from quarantine_of_mem_templates htemplate, rfl, rfl⟩) hinsert
  obtain ⟨i, hi⟩ := List.mem_iff_getElem?.mp hstep
  rcases hplaced.back i step hi with ⟨k, marked, -, hmarked, hsteps⟩ | ⟨-, hinserted⟩
  · rw [getElem?_inheritedSteps] at hmarked
    obtain ⟨origin, horigin, rfl⟩ := Option.map_eq_some_iff.mp hmarked
    refine .inr ⟨origin, List.mem_of_getElem? horigin, ?_⟩
    rw [hsteps]
    have hinherited := (sameRequest_suppressStep candidate (requiredHolds held own) origin k).trans
      (sameRequest_markHeld candidate (requiredHolds held own) (leftOut candidate (requiredHolds held own)) _ k)
    exact ⟨hinherited.operation, hinherited.escalation, hinherited.contract⟩
  · exact .inl hinserted

end Derived

/-! ### Executing a row -/

def recordedOperations (row : WorkflowRequest) : List WorkflowOperation :=
  row.completedOperations ++ row.stepExecutions.map WorkflowStepExecution.operation ++
    row.officialSteps.map WorkflowStepSpec.operation

/-- The same row with the same execution history. -/
structure SameRecord (row row' : WorkflowRequest) : Prop where
  requestId : row'.requestId = row.requestId
  incidentId : row'.incidentId = row.incidentId
  stepExecutions : row'.stepExecutions = row.stepExecutions
  completedOperations : row'.completedOperations = row.completedOperations

/-- What the executor does to a row no merge touches: it records an attempt of a planned step, whatever the answer, or
its completion, lets a failed branch climb, and otherwise writes status, lease and deadlines, retires steps and
rebinds their nodes. -/
inductive ExecutorStep : WorkflowRequest → WorkflowRequest → Prop where
  | attempt {row : WorkflowRequest} {step : WorkflowStepSpec} {index : Nat} (outcome : StepOutcome) (now : Time)
      (hstep : row.officialSteps[index]? = some step) : ExecutorStep row (recordAttempt row step index outcome now)
  | complete {row : WorkflowRequest} {step : WorkflowStepSpec} {index : Nat} (now : Time)
      (hstep : row.officialSteps[index]? = some step) :
        ExecutorStep row (recordCompletion row index step.operation now)
  | climb {row : WorkflowRequest} {profile : Option RuntimeProfile} {maxRungs failedIndex : Nat}
      {error : Option String}
      {details : Details} {now : Time} {escalation : BranchEscalation}
      (h : escalateNodeBranch profile maxRungs row failedIndex error details now = .ok (some escalation)) :
      ExecutorStep row escalation.workflow
  | settle {row row' : WorkflowRequest} (hrecord : SameRecord row row')
      (hsteps : Derives row.officialSteps row'.officialSteps) : ExecutorStep row row'

/-- A row some run of the executor makes of another. -/
abbrev ExecutedFrom : WorkflowRequest → WorkflowRequest → Prop := Relation.ReflTransGen ExecutorStep

section Climbing

variable {profile : Option RuntimeProfile} {maxRungs failedIndex : Nat} {workflow row : WorkflowRequest}
  {step : WorkflowStepSpec} {nodeId branchId : String} {error : Option String} {details : Details} {now : Time}
  {escalation : BranchEscalation} {rung : WorkflowOperation} {gpuUuids lineageNodes : List String}

private theorem SameRecord.refl (row : WorkflowRequest) : SameRecord row row := ⟨rfl, rfl, rfl, rfl⟩

private theorem SameRecord.trans {row' row'' : WorkflowRequest} (h : SameRecord row row')
    (h' : SameRecord row' row'') :
    SameRecord row row'' :=
  ⟨h'.requestId.trans h.requestId, h'.incidentId.trans h.incidentId, h'.stepExecutions.trans h.stepExecutions,
    h'.completedOperations.trans h.completedOperations⟩

private theorem sameRecord_adoptLinearPlan (row : WorkflowRequest) (now : Time) :
    SameRecord row (adoptLinearPlan row now) := by
  unfold adoptLinearPlan
  split <;> exact ⟨rfl, rfl, rfl, rfl⟩

private theorem derives_adoptLinearPlan (row : WorkflowRequest) (now : Time) :
    Derives row.officialSteps (adoptLinearPlan row now).officialSteps := by
  unfold adoptLinearPlan
  split
  · exact .refl _
  · exact derives_normalizedSteps row

private theorem mem_branchRecoveryContext {indexes : List Nat} {op : WorkflowOperation}
    (h : op ∈ branchRecoveryContext row indexes) :
    op ∈ recordedOperations row := by
  unfold branchRecoveryContext at h
  rcases List.mem_append.mp h with h | h
  · obtain ⟨entry, hentry, rfl⟩ := List.mem_map.mp h
    exact List.mem_append_right _ (List.mem_map_of_mem (List.fst_mem_of_mem_zipIdx (List.mem_filter.mp hentry).1))
  · obtain ⟨execution, hexecution, rfl⟩ := List.mem_map.mp h
    exact List.mem_append_left _ (List.mem_append_right _ (List.mem_map_of_mem (List.mem_filter.mp hexecution).1))

/-- What a rung rests on: a reboot on a reset, a replacement on a reboot. -/
def RungEvidence (operations : List WorkflowOperation) (rung : WorkflowOperation) : Prop :=
  (rung = .restartNode ∧ ∃ op ∈ operations, op.reset = true) ∨ (rung = .replaceNode ∧ .restartNode ∈ operations)

private theorem RungEvidence.mono {operations operations' : List WorkflowOperation} (h : RungEvidence operations rung)
    (hsub : ∀ op ∈ operations, op ∈ operations') : RungEvidence operations' rung := by
  rcases h with ⟨hrung, op, hop, hreset⟩ | ⟨hrung, hrestart⟩
  · exact .inl ⟨hrung, op, hsub op hop, hreset⟩
  · exact .inr ⟨hrung, hsub _ hrestart⟩

private theorem nextRung_evidence {failed : WorkflowOperation} {context : List WorkflowOperation}
    (h : nextRung failed context details = some rung) : RungEvidence (failed :: context) rung := by
  unfold nextRung at h
  split at h
  · rename_i hp2p
    split at h
    · cases h
      refine .inl ⟨rfl, failed, List.mem_cons_self, ?_⟩
      rw [beq_iff_eq.mp hp2p]
      rfl
    · cases h
  split at h
  · rename_i hreset
    cases h
    exact .inl ⟨rfl, failed, List.mem_cons_self, hreset⟩
  split at h
  · rename_i hrestart
    cases h
    refine .inr ⟨rfl, ?_⟩
    rw [beq_iff_eq.mp hrestart]
    exact List.mem_cons_self
  split at h
  · split at h
    · cases h
    split at h
    · rename_i hrestart
      cases h
      exact .inr ⟨rfl, List.mem_cons_of_mem _ (List.contains_iff_mem.mp hrestart)⟩
    split at h
    · rename_i hreset
      cases h
      obtain ⟨op, hop, hkind⟩ := List.any_eq_true.mp hreset
      exact .inl ⟨rfl, op, List.mem_cons_of_mem _ hop, hkind⟩
    · cases h
  · cases h

private theorem mem_compileSteps_parameters {operations : List WorkflowOperation} {nodeIds workloadIds : List String}
    (h : step ∈ (compileSteps operations profile nodeIds gpuUuids workloadIds).1) : step.parameters = [] := by
  simp only [compileSteps, List.mem_filterMap, List.mem_map] at h
  obtain ⟨compiled, ⟨operation, -, hcompiled⟩, hstep⟩ := h
  cases compiled with
  | error reason => cases hstep
  | ok compiledStep =>
    cases hstep
    unfold compileStep at hcompiled
    split at hcompiled
    · cases hcompiled
    · cases hcompiled
      rfl

private theorem rungSteps_unrequested (h : step ∈ rungSteps profile rung nodeId gpuUuids lineageNodes) :
    Unrequested step := by
  simp only [rungSteps, List.mem_map] at h
  obtain ⟨item, hitem, rfl⟩ := h
  have hbare : item.parameters = [] := by
    simp only [compileBranchSteps] at hitem
    split at hitem
    · exact mem_compileSteps_parameters hitem
    · cases hitem
  rw [hbare]
  split <;> exact ⟨rfl, rfl⟩

/-- What a branch that climbs may add to the plan: its rung with its tail, and quarantines the job holds. -/
def ClimbedStep (operations : List WorkflowOperation) (step : WorkflowStepSpec) : Prop :=
  Unrequested step ∧
    (step.operation = .quarantine ∨ step.operation ∈ escalationTail ∨ RungEvidence operations step.operation)

private theorem sameRecord_exhaustBranch (row : WorkflowRequest) (branchId : String) (now : Time) :
    SameRecord row (exhaustBranch row branchId now) ∧
      (exhaustBranch row branchId now).officialSteps = row.officialSteps := by
  unfold exhaustBranch
  dsimp only
  split <;> exact ⟨⟨rfl, rfl, rfl, rfl⟩, rfl⟩

/-- What a branch writes when it climbs or is exhausted. -/
private theorem BranchMove.plan {outcome : BranchOutcome} {row' : WorkflowRequest}
    (hstep : row.officialSteps[failedIndex]? = some step) (hbranch : step.branchId = some branchId)
    (h : BranchMove profile maxRungs row step nodeId branchId details now outcome row') :
    SameRecord row row' ∧ ∀ step' ∈ row'.officialSteps,
      (∃ origin ∈ row.officialSteps, SameRequest origin step') ∨ ClimbedStep (recordedOperations row) step' := by
  cases h with
  | exhausted =>
    obtain ⟨hrecord, hsteps⟩ := sameRecord_exhaustBranch row branchId now
    refine ⟨hrecord, fun step' hstep' => .inl ⟨step', ?_, .refl step'⟩⟩
    rwa [hsteps] at hstep'
  | @escalated operation replaced hrung htaken hsteps hreplaced =>
    have hclimbs := nextRung_of_branchRung hrung
    have hevidence : RungEvidence (recordedOperations row) operation := by
      refine (nextRung_evidence hclimbs).mono fun op hop => ?_
      rcases List.mem_cons.mp hop with rfl | hop
      · exact List.mem_append_right _ (List.mem_map_of_mem (List.mem_of_getElem? hstep))
      · exact mem_branchRecoveryContext hop
    obtain ⟨predecessor, indexes, candidate', branch, action, hinherit, hcandidate, rfl⟩ :=
      replaceParallelJobBranch_of_mem (mem_branchStepIndexes hstep hbranch (nextRung_scoped hclimbs)) hreplaced
    refine ⟨⟨rfl, rfl, rfl, rfl⟩, fun step' hstep' => ?_⟩
    obtain ⟨origin, horigin, hsame⟩ := derives_branchRewrite step' hstep'
    rcases List.mem_append.mp horigin with horigin | horigin
    · exact .inl ⟨origin, horigin, hsame⟩
    -- a step of the new branch: one of the rung, or a quarantine the merge of holds put there
    obtain ⟨i, hlive, -⟩ := (mem_candidateBranch hcandidate).mp horigin
    refine .inr ?_
    rcases inherit_request hinherit (List.mem_of_getElem? hlive.1) with
      ⟨hquarantine, hbare⟩ | ⟨planned, hplanned, hsame'⟩
    · exact ⟨hsame.unrequested hbare, .inl (hsame.operation.trans hquarantine)⟩
    · have hboth := hsame'.trans hsame
      refine ⟨hboth.unrequested (rungSteps_unrequested hplanned), .inr ?_⟩
      have hkind := rungSteps_operation hplanned
      rw [← hboth.operation] at hkind
      rcases List.mem_cons.mp hkind with he | htail
      · exact .inr (he ▸ hevidence)
      · exact .inl htail

private theorem recorded_of_derives {row' : WorkflowRequest} (hrecord : SameRecord row row')
    (hsteps : Derives row.officialSteps row'.officialSteps) {op : WorkflowOperation}
    (h : op ∈ recordedOperations row') :
    op ∈ recordedOperations row := by
  unfold recordedOperations at h ⊢
  rw [hrecord.stepExecutions, hrecord.completedOperations] at h
  rcases List.mem_append.mp h with h | h
  · exact List.mem_append_left _ h
  · obtain ⟨step, hstep, rfl⟩ := List.mem_map.mp h
    obtain ⟨origin, horigin, hsame⟩ := hsteps step hstep
    exact List.mem_append_right _ (List.mem_map.mpr ⟨origin, horigin, hsame.operation.symm⟩)

private theorem escalatedPlan_source (row : WorkflowRequest) (now : Time) :
    SameRecord row (escalatedPlan row now) ∧ Derives row.officialSteps (escalatedPlan row now).officialSteps := by
  unfold escalatedPlan
  split
  · exact ⟨.refl row, .refl _⟩
  · exact ⟨sameRecord_adoptLinearPlan row now, derives_adoptLinearPlan row now⟩

/-- What a failed branch writes on a row, flat or not. -/
theorem escalateNodeBranch_plan
    (h : escalateNodeBranch profile maxRungs row failedIndex error details now = .ok (some escalation)) :
    SameRecord row escalation.workflow ∧ ∀ step' ∈ escalation.workflow.officialSteps,
      (∃ origin ∈ row.officialSteps, SameRequest origin step') ∨ ClimbedStep (recordedOperations row) step' := by
  obtain ⟨failed, hescalates⟩ := escalateNodeBranch_move h
  obtain ⟨hsource, hderives⟩ := escalatedPlan_source row now
  obtain ⟨hrecord, hplan⟩ := hescalates.move.plan hescalates.failed hescalates.branchId
  refine ⟨hsource.trans hrecord, fun step' hstep' => ?_⟩
  rcases hplan step' hstep' with ⟨origin, horigin, hsame⟩ | ⟨hbare, hkind⟩
  · obtain ⟨first, hfirst, hsame'⟩ := hderives origin horigin
    exact .inl ⟨first, hfirst, hsame'.trans hsame⟩
  · refine .inr ⟨hbare, ?_⟩
    rcases hkind with hquarantine | htail | hevidence
    · exact .inl hquarantine
    · exact .inr (.inl htail)
    · exact .inr (.inr (hevidence.mono fun op hop => recorded_of_derives hsource hderives hop))

end Climbing

/-! ### Rows with few operations -/

/-- A row all of whose operations are `allowed` and whose steps ask for nothing when they fail. -/
structure Confined (allowed : WorkflowOperation → Prop) (row : WorkflowRequest) : Prop where
  operations : ∀ op ∈ recordedOperations row, allowed op
  unrequested : ∀ step ∈ row.officialSteps, Unrequested step

/-- Operations a failed branch does not lead out of. -/
structure ClosedUnderRungs (allowed : WorkflowOperation → Prop) : Prop where
  quarantine : allowed .quarantine
  tail : ∀ op ∈ escalationTail, allowed op
  resets : ∀ op, allowed op → op.reset = false
  replacement : allowed .restartNode → allowed .replaceNode

section Confinement

variable {allowed : WorkflowOperation → Prop} {row row' : WorkflowRequest}

/-- A confined row stays confined where every step is an old one or of an allowed kind. -/
private theorem Confined.rewritten (h : Confined allowed row) (hrecord : SameRecord row row')
    (hsteps : ∀ step ∈ row'.officialSteps, (∃ origin ∈ row.officialSteps, SameRequest origin step) ∨
      (Unrequested step ∧ allowed step.operation)) : Confined allowed row' := by
  constructor
  · intro op hop
    unfold recordedOperations at hop
    rw [hrecord.stepExecutions, hrecord.completedOperations] at hop
    rcases List.mem_append.mp hop with hop | hop
    · exact h.operations op (List.mem_append_left _ hop)
    · obtain ⟨step, hstep, rfl⟩ := List.mem_map.mp hop
      rcases hsteps step hstep with ⟨origin, horigin, hsame⟩ | ⟨-, hallowed⟩
      · rw [hsame.operation]
        exact h.operations _ (List.mem_append_right _ (List.mem_map_of_mem horigin))
      · exact hallowed
  · intro step hstep
    rcases hsteps step hstep with ⟨origin, horigin, hsame⟩ | ⟨hbare, -⟩
    · exact hsame.unrequested (h.unrequested origin horigin)
    · exact hbare

/-- One step of the executor keeps a row confined. -/
private theorem Confined.step (hclosed : ClosedUnderRungs allowed) (h : Confined allowed row)
    (hstep : ExecutorStep row row') :
    Confined allowed row' := by
  have hplanned : ∀ {step : WorkflowStepSpec} {index : Nat}, row.officialSteps[index]? = some step →
      allowed step.operation := fun hget =>
    h.operations _ (List.mem_append_right _ (List.mem_map_of_mem (List.mem_of_getElem? hget)))
  cases hstep with
  | @attempt step index outcome now hget =>
    refine ⟨fun op hop => ?_, h.unrequested⟩
    unfold recordedOperations at hop
    rcases List.mem_append.mp hop with hop | hop
    · rcases List.mem_append.mp hop with hop | hop
      · exact h.operations op (List.mem_append_left _ (List.mem_append_left _ hop))
      · obtain ⟨item, hitem, rfl⟩ := List.mem_map.mp hop
        rcases mem_recordAttempt.mp hitem with ⟨hitem, -⟩ | rfl
        · exact h.operations _ (List.mem_append_left _ (List.mem_append_right _ (List.mem_map_of_mem hitem)))
        · exact hplanned hget
    · exact h.operations op (List.mem_append_right _ hop)
  | @complete step index now hget =>
    refine ⟨fun op hop => ?_, h.unrequested⟩
    unfold recordedOperations at hop
    rcases List.mem_append.mp hop with hop | hop
    · rcases List.mem_append.mp hop with hop | hop
      · rcases List.mem_append.mp hop with hop | hop
        · exact h.operations op (List.mem_append_left _ (List.mem_append_left _ hop))
        · rw [List.mem_singleton.mp hop]
          exact hplanned hget
      · exact h.operations op (List.mem_append_left _ (List.mem_append_right _ hop))
    · exact h.operations op (List.mem_append_right _ hop)
  | climb hclimb =>
    obtain ⟨hrecord, hplan⟩ := escalateNodeBranch_plan hclimb
    refine h.rewritten hrecord fun step hstep => ?_
    rcases hplan step hstep with hold | ⟨hbare, hkind⟩
    · exact .inl hold
    · refine .inr ⟨hbare, ?_⟩
      rcases hkind with hquarantine | htail | ⟨-, op, hop, hreset⟩ | ⟨hreplace, hrestart⟩
      · rw [hquarantine]
        exact hclosed.quarantine
      · exact hclosed.tail _ htail
      · rw [hclosed.resets op (h.operations op hop)] at hreset
        cases hreset
      · rw [hreplace]
        exact hclosed.replacement (h.operations _ hrestart)
  | settle hrecord hsteps => exact h.rewritten hrecord fun step hstep => .inl (hsteps step hstep)

/-- A run of the executor keeps a row confined. -/
theorem Confined.executed (hclosed : ClosedUnderRungs allowed) (h : Confined allowed row)
    (hrun : ExecutedFrom row row') :
    Confined allowed row' := by
  induction hrun with
  | refl => exact h
  | tail _ hstep ih => exact ih.step hclosed hstep

private theorem ExecutorStep.requestId (h : ExecutorStep row row') : row'.requestId = row.requestId := by
  cases h with
  | attempt => rfl
  | complete => rfl
  | climb h => exact (escalateNodeBranch_plan h).1.requestId
  | settle hrecord _ => exact hrecord.requestId

theorem ExecutedFrom.requestId (h : ExecutedFrom row row') : row'.requestId = row.requestId := by
  induction h with
  | refl => rfl
  | tail _ hstep ih => exact hstep.requestId.trans ih

end Confinement

/-! ### What an escalation plans -/

def WorkflowOperation.escalates : WorkflowOperation → Bool
  | .freezeEvidence | .markUnschedulable | .stopWorkloads | .quarantine | .collectDiagnosticBundle | .validateGpu
  | .validateHost | .validateFabric | .escalateSupport | .restoreScheduling | .restartWorkload | .restartNode
  | .replaceNode => true
  | _ => false

/-- The operations an escalation with `action` can come to have: a reboot may be followed by a replacement. -/
def RecoveryAction.Plans (action : RecoveryAction) (op : WorkflowOperation) : Prop :=
  op.escalates = true ∧ (op = .restartNode → action = .rebootNode) ∧ (op = .replaceNode → action ≠ .drain)

def RecoveryAction.RunsAs : RecoveryAction → Option WorkflowOperation → Prop
  | .escalateOperator, operation => operation = some .escalateSupport
  | .replaceNode, operation => operation = some .replaceNode
  | .rebootNode, operation => operation = some .restartNode
  | .drain, operation => operation = none
  | _, _ => False

section Planning

variable {action : RecoveryAction} {operation : Option WorkflowOperation} {op : WorkflowOperation} {stage : String}
  {hasWorkloads : Bool} {workflow : WorkflowRequest} {source : EscalationIncident} {verdict : Classification}
  {store : EscalationStore} {failedNodes workloadIds : List String} {scope : EscalationGpuScope}
  {step : WorkflowStepSpec}
  {operations : List WorkflowOperation} {name : String} {now : Time}

theorem plans_closed (action : RecoveryAction) : ClosedUnderRungs action.Plans where
  quarantine := by simp [RecoveryAction.Plans, WorkflowOperation.escalates]
  tail op h := by
    simp only [escalationTail, List.mem_cons, List.not_mem_nil, or_false] at h
    rcases h with rfl | rfl | rfl | rfl
    all_goals simp [RecoveryAction.Plans, WorkflowOperation.escalates]
  resets op h := by
    have hkind := h.1
    revert hkind
    cases op <;> simp [WorkflowOperation.escalates, WorkflowOperation.reset]
  replacement h := by
    refine ⟨rfl, (fun he => absurd he (by decide)), fun _ hdrain => ?_⟩
    rw [h.2.1 rfl] at hdrain
    cases hdrain

instance RecoveryAction.plansDecidable (action : RecoveryAction) (op : WorkflowOperation) :
    Decidable (action.Plans op) :=
  inferInstanceAs (Decidable (_ ∧ _ ∧ _))

private theorem plans_of_mem_escalationOperations (hruns : action.RunsAs operation)
    (h : op ∈ escalationOperations stage action operation hasWorkloads) : action.Plans op := by
  revert op
  unfold escalationOperations
  -- the stage only decides whether the node is isolated
  generalize List.contains _ stage = refused
  cases action
  all_goals simp only [RecoveryAction.RunsAs] at hruns
  all_goals subst hruns
  all_goals cases refused <;> cases hasWorkloads <;> decide

private theorem restartContextOf_keys {context : Details} (h : restartContextOf step = some context) :
    context.map Prod.fst = restartSafetyParameters := by
  unfold restartContextOf at h
  generalize restartSafetyParameters = names at h ⊢
  induction names generalizing context with
  | nil =>
    cases h
    rfl
  | cons name names ih =>
    rw [List.mapM_cons] at h
    obtain ⟨first, hfirst, h⟩ := Option.bind_eq_some_iff.mp h
    obtain ⟨rest, hrest, h⟩ := Option.bind_eq_some_iff.mp h
    obtain ⟨value, -, rfl⟩ := Option.map_eq_some_iff.mp hfirst
    cases h
    rw [List.map_cons, ih hrest]

private theorem restartContext_key {context : Details} (h : restartContext workflow = .ok (some context))
    {entry : String × Json} (hentry : entry ∈ context) : entry.1 ∈ restartSafetyParameters := by
  unfold restartContext at h
  dsimp only at h
  split at h
  · cases h
  split at h
  · cases h
  · have hhead := List.mem_of_head? (Except.ok.inj h)
    obtain ⟨source, -, hsource⟩ := List.mem_filterMap.mp hhead
    rw [← restartContextOf_keys hsource]
    exact List.mem_map_of_mem hentry

/-- The parameters of a compiled rung name what it replaces, restarts and validates, and nothing else. -/
private theorem replacementParameters_get? {key : String} (hbare : step.parameters = [])
    (hkey : key ∉ "replacement_strategy" :: "inventory_requirements_by_node" :: "gpu_uuids_by_node" ::
      restartSafetyParameters) : (replacementParameters workflow failedNodes scope step).get? key = none := by
  simp only [List.mem_cons, not_or] at hkey
  obtain ⟨hstrategy, hinventory, hmapping, hrestart⟩ := hkey
  unfold replacementParameters
  dsimp only
  rw [hbare, Details.get?_merge_of_forall_ne, Details.get?_merge_of_forall_ne, Details.get?_merge_of_forall_ne,
    Details.get?_merge_of_forall_ne]
  · rfl
  · intro entry hentry he
    split at hentry
    · exact hstrategy (he ▸ by simp_all)
    · cases hentry
  · intro entry hentry he
    split at hentry
    · split at hentry
      · exact hrestart (he ▸ restartContext_key ‹_› hentry)
      · cases hentry
    · cases hentry
  · intro entry hentry he
    unfold inventoryParameters at hentry
    split at hentry
    · dsimp only at hentry
      split at hentry
      · exact hinventory (he ▸ by simp_all)
      · cases hentry
    · cases hentry
  · intro entry hentry he
    split at hentry
    · exact hmapping (he ▸ by simp_all)
    · cases hentry

private theorem mem_compileReplacementSteps
    (h : step ∈ (compileReplacementSteps store workflow source operations failedNodes workloadIds scope).1) :
    step.operation ∈ operations ∧ Unrequested step := by
  simp only [compileReplacementSteps, List.mem_map, List.mem_flatMap] at h
  obtain ⟨compiled, ⟨entry, ⟨operation, hoperation, rfl⟩, hcompiled⟩, rfl⟩ := h
  have hop := List.mem_singleton.mp (mem_compileSteps hcompiled)
  have hbare := mem_compileSteps_parameters hcompiled
  have hkeys : ∀ key, key ∉ "replacement_strategy" :: "inventory_requirements_by_node" :: "gpu_uuids_by_node" ::
      restartSafetyParameters → (replacementParameters workflow failedNodes scope compiled).get? key = none :=
    fun key hkey => replacementParameters_get? hbare hkey
  unfold scopeValidationStep
  split
  · exact ⟨hop ▸ hoperation, hkeys _ (by decide), hkeys _ (by decide)⟩
  · exact ⟨hop ▸ hoperation, hkeys _ (by decide), hkeys _ (by decide)⟩

/-- A new escalation holds the operations of its rung and no others. -/
theorem emit_confined (hruns : verdict.nextAction.RunsAs verdict.nextOperation) :
    Confined verdict.nextAction.Plans (emit store workflow source verdict name now).2 := by
  constructor
  · intro op hop
    have hmem :
        op ∈ (emit store workflow source verdict name now).2.officialSteps.map WorkflowStepSpec.operation := hop
    obtain ⟨step, hstep, rfl⟩ := List.mem_map.mp hmem
    exact plans_of_mem_escalationOperations hruns (mem_compileReplacementSteps hstep).1
  · intro step hstep
    exact (mem_compileReplacementSteps hstep).2

end Planning

end GpuFaultRecovery
