import GpuFaultRecovery.EscalatedPlan

/-!
# The ladder of escalations

What the classifier can answer for the record of an escalation. An escalation that is executed, fails and is escalated
again climbs: a reboot or a drain is followed by a replacement or a hand-off, a replacement by a hand-off, and a
hand-off by nothing. Whether a failed escalation is followed by anything at all depends on what failed in it.
-/

namespace GpuFaultRecovery

/-! ### What the classifier can answer -/

section Classifying

variable {workflow : WorkflowRequest} {verdict : Classification} {execution : WorkflowStepExecution}
  {op : WorkflowOperation}

def Answers (workflow : WorkflowRequest) : RecoveryAction → Option WorkflowOperation → Prop
  | .escalateOperator, operation => operation = some .escalateSupport
  | .replaceNode, operation => operation = some .replaceNode ∧ .restartNode ∈ recordedOperations workflow
  | .rebootNode, operation => operation = some .restartNode ∧ ((∃ op ∈ recordedOperations workflow, op.reset = true) ∨
      ∃ step ∈ workflow.officialSteps, (step.parameters.get? "failure_escalation_action").isSome)
  | .drain, operation => operation = none ∧ .runDcgmDiagnostic ∈ recordedOperations workflow
  | _, _ => False

private theorem recorded_of_failed
    (h : (failedExecutions workflow).map WorkflowStepExecution.operation |>.contains op) :
    op ∈ recordedOperations workflow := by
  obtain ⟨execution, hexecution, rfl⟩ := List.mem_map.mp (List.contains_iff_mem.mp h)
  exact List.mem_append_left _ (List.mem_append_right _ (List.mem_map_of_mem (List.mem_filter.mp hexecution).1))

private theorem recorded_of_context (h : op ∈ recoveryContextOperations workflow) :
    op ∈ recordedOperations workflow := by
  unfold recoveryContextOperations at h
  dsimp only at h
  split at h
  · exact List.mem_append_left _ h
  rcases List.mem_append.mp h with h | h
  · exact List.mem_append_left _ h
  · obtain ⟨execution, -, h⟩ := List.mem_flatMap.mp h
    split at h
    · obtain ⟨step, hstep, rfl⟩ := List.mem_map.mp h
      exact List.mem_append_right _ (List.mem_map_of_mem (List.mem_of_mem_take hstep))
    · cases h

private theorem requested_of_mem {request : Json} (h : request ∈ requestedEscalations workflow) :
    ∃ step ∈ workflow.officialSteps, (step.parameters.get? "failure_escalation_action").isSome := by
  obtain ⟨execution, -, h⟩ := List.mem_filterMap.mp h
  obtain ⟨step, hstep, h⟩ := Option.bind_eq_some_iff.mp h
  obtain ⟨h, -⟩ := Option.filter_eq_some_iff.mp h
  exact ⟨step, List.mem_of_getElem? hstep, by rw [h]; rfl⟩

private theorem validationVerdict_answers {stage : String} {action : RecoveryAction}
    {operation : Option WorkflowOperation}
    (h : validationVerdict (recoveryContextOperations workflow) = some (stage, action, operation)) :
    Answers workflow action operation := by
  unfold validationVerdict at h
  split at h
  · cases h
    rfl
  split at h
  · rename_i hrestart
    cases h
    exact ⟨rfl, recorded_of_context (List.contains_iff_mem.mp hrestart)⟩
  split at h
  · rename_i hreset
    cases h
    obtain ⟨op, hop, hkind⟩ := List.any_eq_true.mp hreset
    exact ⟨rfl, .inl ⟨op, recorded_of_context hop, hkind⟩⟩
  split at h
  · cases h
    rfl
  split at h
  · rename_i hdcgm
    cases h
    exact ⟨rfl, recorded_of_context (List.contains_iff_mem.mp hdcgm)⟩
  · cases h

/-- The cascade answers with an operation the record has the evidence for. -/
private theorem ladderVerdict_answers {stage : String} {action : RecoveryAction}
    {operation : Option WorkflowOperation} (h : ladderVerdict workflow = some (stage, action, operation)) :
    Answers workflow action operation := by
  unfold ladderVerdict at h
  dsimp only at h
  rcases ite_eq_iff.mp h with ⟨hrequested, h⟩ | ⟨-, h⟩
  · cases h
    simp only [Bool.and_eq_true] at hrequested
    exact ⟨rfl, .inr (requested_of_mem (List.contains_iff_mem.mp hrequested.1))⟩
  rcases ite_eq_iff.mp h with ⟨hp2p, h⟩ | ⟨-, h⟩
  · rcases ite_eq_iff.mp h with ⟨-, h⟩ | ⟨-, h⟩
    · cases h
      exact ⟨rfl, .inl ⟨_, recorded_of_failed hp2p, rfl⟩⟩
    · cases h
      rfl
  rcases ite_eq_iff.mp h with ⟨hdcgm, h⟩ | ⟨-, h⟩
  · cases h
    exact ⟨rfl, recorded_of_failed hdcgm⟩
  -- the field diagnostic, a driver or firmware, and a replacement that failed are handed to the support
  rcases ite_eq_iff.mp h with ⟨-, h⟩ | ⟨-, h⟩
  · cases h
    rfl
  rcases ite_eq_iff.mp h with ⟨-, h⟩ | ⟨-, h⟩
  · cases h
    rfl
  rcases ite_eq_iff.mp h with ⟨-, h⟩ | ⟨-, h⟩
  · cases h
    rfl
  rcases ite_eq_iff.mp h with ⟨hrestart, h⟩ | ⟨-, h⟩
  · cases h
    exact ⟨rfl, recorded_of_failed hrestart⟩
  rcases ite_eq_iff.mp h with ⟨hreset, h⟩ | ⟨-, h⟩
  · cases h
    rcases Bool.or_eq_true_iff.mp hreset with hreset | hreset
    · exact ⟨rfl, .inl ⟨_, recorded_of_failed hreset, rfl⟩⟩
    · exact ⟨rfl, .inl ⟨_, recorded_of_failed hreset, rfl⟩⟩
  rcases ite_eq_iff.mp h with ⟨-, h⟩ | ⟨-, h⟩
  · exact validationVerdict_answers h
  rcases ite_eq_iff.mp h with ⟨-, h⟩ | ⟨-, h⟩
  · cases h
    rfl
  · cases h

private theorem preActionClassification_handOff {failures : List WorkflowStepExecution} {handled : Bool}
    (h : preActionClassification failures = (handled, some verdict)) :
    ∃ stage failed, verdict = handOff stage failed := by
  unfold preActionClassification at h
  repeat' split at h
  all_goals cases h
  exact ⟨_, _, rfl⟩

private theorem noVerdictClassification_handOff (h : noVerdictClassification workflow = some verdict) :
    ∃ stage failed, verdict = handOff stage failed := by
  unfold noVerdictClassification at h
  repeat' split at h
  all_goals cases h
  all_goals exact ⟨_, _, rfl⟩

/-- Every answer of the classifier rests on the record. -/
private theorem classify_answers (h : classify workflow = some verdict) :
    Answers workflow verdict.nextAction verdict.nextOperation := by
  have hhandOff : ∀ {verdict : Classification}, (∃ stage failed, verdict = handOff stage failed) →
      Answers workflow verdict.nextAction verdict.nextOperation := by
    rintro _ ⟨stage, failed, rfl⟩
    rfl
  unfold classify at h
  split at h
  · cases h
  unfold classifyRecord at h
  dsimp only at h
  split at h
  · cases h
    exact hhandOff ⟨_, _, rfl⟩
  split at h
  · cases h
  split at h
  · exact hhandOff (preActionClassification_handOff (Prod.ext rfl h))
  split at h
  · rename_i handed hhanded
    cases h
    exact hhandOff (noVerdictClassification_handOff hhanded)
  split at h
  · cases h
  rename_i stage action operation hladder
  split at h
  · cases h
  · cases h
    exact ladderVerdict_answers hladder

private theorem Answers.runsAs {action : RecoveryAction} {operation : Option WorkflowOperation}
    (h : Answers workflow action operation) : action.RunsAs operation := by
  cases action
  case escalateOperator => exact h
  case replaceNode => exact h.1
  case rebootNode => exact h.1
  case drain => exact h.1
  all_goals exact h.elim

/-- What an escalation that failed is followed by: a hand-off, or a replacement where a reboot was tried. -/
private theorem classify_confined {action : RecoveryAction} (hrow : Confined action.Plans workflow)
    (h : classify workflow = some verdict) :
    verdict.nextAction = .escalateOperator ∨ (verdict.nextAction = .replaceNode ∧ action = .rebootNode) := by
  have hanswers := classify_answers h
  revert hanswers
  cases hnext : verdict.nextAction with
  | escalateOperator =>
    intro _
    exact .inl rfl
  | replaceNode =>
    intro hanswers
    exact .inr ⟨rfl, (hrow.operations _ hanswers.2).2.1 rfl⟩
  | rebootNode =>
    rintro ⟨-, ⟨op, hop, hreset⟩ | ⟨step, hstep, hrequested⟩⟩
    · rw [(plans_closed action).resets op (hrow.operations op hop)] at hreset
      cases hreset
    · rw [(hrow.unrequested step hstep).escalation] at hrequested
      cases hrequested
  | drain =>
    intro hanswers
    cases (hrow.operations _ hanswers.2).1
  | _ =>
    intro hanswers
    exact hanswers.elim

end Classifying

/-! ### A chain of escalations -/

def RecoveryAction.rung : RecoveryAction → Nat
  | .rebootNode | .drain => 0
  | .replaceNode => 1
  | _ => 2

/-- An incident and a row that escalating the workflow `requestId` under `name` once emitted, and that have only been
executed since. -/
def EmittedFor (requestId name : String) (incident : EscalationIncident) (row : WorkflowRequest) : Prop :=
  ∃ store workflow source verdict now, workflow.requestId = requestId ∧ classify workflow = some verdict ∧
    verdict.nextAction.escalationName = some name ∧
    incident.eventId = (emit store workflow source verdict name now).1.eventId ∧
    incident.effectiveAction = (emit store workflow source verdict name now).1.effectiveAction ∧
    ExecutedFrom (emit store workflow source verdict name now).2 row

/-- What a store of one chain holds: the incident of the row keeps its event, and a pair found under the event of an
escalation of the row was emitted for it and not merged into. -/
structure EscalationStore.Unmerged (store : EscalationStore) (eventId : Option String) (workflow : WorkflowRequest) :
    Prop where
  event : ∀ source, store.incident workflow.incidentId = some source → ∀ id ∈ eventId, source.eventId = id
  recorded : ∀ action incident row name, RecoveryAction.escalationName action = some name →
    store.incidentByEvent (name ++ "-after-" ++ workflow.requestId) = some incident →
    recordedSuccessor store incident = some row → EmittedFor workflow.requestId name incident row

/-- The actions of a chain: escalate a row, execute the product, escalate it again once it failed. The event of a row
is given where an escalation produced it. -/
inductive EscalationChain : Option String → WorkflowRequest → List RecoveryAction → Prop where
  | nil (eventId : Option String) (workflow : WorkflowRequest) : EscalationChain eventId workflow []
  | cons {eventId : Option String} {workflow produced failed : WorkflowRequest} {store : EscalationStore} {now : Time}
      {incident : EscalationIncident} {action : RecoveryAction} {actions : List RecoveryAction}
      (hstore : store.Unmerged eventId workflow)
      (hescalate : escalate store workflow now = some (.successor incident produced))
      (haction : incident.effectiveAction = some action) (hrun : ExecutedFrom produced failed)
      (hnext : EscalationChain (some incident.eventId) failed actions) :
        EscalationChain eventId workflow (action :: actions)

section Chain

variable {store : EscalationStore} {workflow row : WorkflowRequest} {incident source : EscalationIncident}
  {verdict : Classification} {name id : String} {now : Time} {action : RecoveryAction} {actions : List RecoveryAction}
  {eventId : Option String}

/-- What an escalation with a successor did. -/
private theorem escalate_successor (h : escalate store workflow now = some (.successor incident row)) :
    workflow.status = .failed ∧ ∃ source verdict name, store.incident workflow.incidentId = some source ∧
      ((escalationOrigin source.eventId).map Prod.fst) ≠ some "support" ∧ classify workflow = some verdict ∧
      verdict.nextAction.escalationName = some name ∧
      ((incident, row) = emit store workflow source verdict name now ∨
        (store.incidentByEvent (name ++ "-after-" ++ workflow.requestId) = some incident ∧
          recordedSuccessor store incident = some row)) := by
  unfold escalate at h
  split at h
  · cases h
  rename_i hstatus
  refine ⟨not_not.mp hstatus, ?_⟩
  split at h
  · cases h
  rename_i source hsource
  split at h
  · cases h
  rename_i horigin
  split at h
  · cases h
  rename_i verdict hverdict
  split at h
  · cases h
  rename_i name hname
  refine ⟨source, verdict, name, hsource, horigin, hverdict, hname, ?_⟩
  split at h
  · cases h
    exact .inl rfl
  rename_i existing hexisting
  split at h
  · cases h
  split at h
  · rename_i found hfound
    cases h
    exact .inr ⟨hexisting, hfound⟩
  · cases h
    exact .inl rfl

private theorem partitionAt_append {c : Char} {rest l : List Char} (first : List Char) (h : c ∉ first) :
    partitionAt (c :: rest) (first ++ (c :: rest) ++ l) = some (first, l) := by
  induction first with
  | nil =>
    have hprefix : (c :: rest).isPrefixOf (c :: (rest ++ l)) = true := by simp
    simp [partitionAt, hprefix]
  | cons d first ih =>
    have hnot : (c :: rest).isPrefixOf (d :: (first ++ (c :: rest) ++ l)) = false := by
      have hne : (c == d) = false := beq_false_of_ne fun he => h (he ▸ List.mem_cons_self)
      simp [List.isPrefixOf, hne]
    rw [List.cons_append, List.cons_append, partitionAt, hnot, ih fun hmem => h (List.mem_cons_of_mem _ hmem)]
    rfl

private theorem partition_event (hname : action.escalationName = some name) :
    partitionAt "-after-".toList (name ++ "-after-" ++ id).toList = some (name.toList, id.toList) := by
  have hdash : '-' ∉ name.toList := by
    cases action <;> cases hname <;> decide
  rw [String.toList_append, String.toList_append]
  exact partitionAt_append name.toList hdash

private theorem escalationOrigin_event (hname : action.escalationName = some name) :
    escalationOrigin (name ++ "-after-" ++ id) = if id = "" then none else some (name, id) := by
  have hknown : ["drain", "reboot", "replace", "support"].contains name = true := by
    cases action <;> cases hname <;> decide
  unfold escalationOrigin
  rw [partition_event hname]
  dsimp only
  rw [String.ofList_toList, String.ofList_toList, hknown]
  by_cases hid : id = ""
  · subst hid
    rfl
  · have hne : id.toList.isEmpty = false := by simpa using hid
    rw [hne, if_neg hid]
    rfl

private theorem escalationName_injective {other : RecoveryAction} (h : action.escalationName = some name)
    (h' : other.escalationName = some name) : action = other := by
  cases action <;> cases h <;> cases other <;> simp [RecoveryAction.escalationName] at h'
  all_goals rfl

/-- What a link of a chain produces: the action the classifier answers, under an event of its own. -/
private theorem link_product (hstore : store.Unmerged eventId workflow)
    (h : escalate store workflow now = some (.successor incident row)) :
    ∃ verdict name, classify workflow = some verdict ∧ verdict.nextAction.escalationName = some name ∧
      incident.effectiveAction = some verdict.nextAction ∧
        incident.eventId = name ++ "-after-" ++ workflow.requestId ∧
      Confined verdict.nextAction.Plans row ∧ row.requestId ≠ "" := by
  obtain ⟨-, source, verdict, name, -, -, hverdict, hname, hproduct⟩ := escalate_successor h
  have hemitted : EmittedFor workflow.requestId name incident row := by
    rcases hproduct with hemit | ⟨hexisting, hfound⟩
    · refine ⟨store, workflow, source, verdict, now, rfl, hverdict, hname, ?_⟩
      rw [← hemit]
      exact ⟨rfl, rfl, .refl⟩
    · exact hstore.recorded verdict.nextAction incident row name hname hexisting hfound
  obtain ⟨store', workflow', source', verdict', now', hid, hverdict', hname', hevent, haction, hrun⟩ := hemitted
  have hsame := escalationName_injective hname' hname
  refine ⟨verdict, name, hverdict, hname, ?_, ?_, ?_, ?_⟩
  · rw [haction, ← hsame]
    rfl
  · rw [hevent, ← hid]
    rfl
  · rw [← hsame]
    exact (emit_confined (classify_answers hverdict').runsAs).executed (plans_closed _) hrun
  · rw [hrun.requestId]
    show "workflow-" ++ name ++ "-after-" ++ workflow'.requestId ≠ ""
    simp

private theorem link_climbs (hrow : Confined action.Plans workflow) (hname : action.escalationName = some name)
    (hid : id ≠ "") (hstore : store.Unmerged (some (name ++ "-after-" ++ id)) workflow)
    (h : escalate store workflow now = some (.successor incident row)) (hverdict : classify workflow = some verdict) :
    action.rung < verdict.nextAction.rung := by
  obtain ⟨-, source, -, -, hsource, horigin, -⟩ := escalate_successor h
  rw [hstore.event source hsource _ rfl, escalationOrigin_event hname, if_neg hid] at horigin
  have hsupport : action ≠ .escalateOperator := by
    rintro rfl
    cases hname
    exact horigin rfl
  rcases classify_confined hrow hverdict with hnext | ⟨hnext, rfl⟩
  · rw [hnext]
    cases action <;> cases hname <;> simp [RecoveryAction.rung] at hsupport ⊢
  · rw [hnext]
    simp [RecoveryAction.rung]

/-- The chain behind a product climbs from its action on. -/
private theorem chain_climbs (h : EscalationChain eventId workflow actions) :
    ∀ {action : RecoveryAction} {name id : String}, Confined action.Plans workflow →
      action.escalationName = some name →
      id ≠ "" → workflow.requestId ≠ "" → eventId = some (name ++ "-after-" ++ id) →
      (action :: actions).IsChain (fun a b => a.rung < b.rung) ∧ ∀ next ∈ actions, next.escalationName.isSome := by
  induction h with
  | nil =>
    intro _ _ _ _ _ _ _ _
    exact ⟨.singleton _, fun next hnext => by cases hnext⟩
  | @cons eventId workflow produced failed store now incident next actions hstore hescalate haction hrun hnext ih =>
    rintro action name id hrow hname hid hrequest rfl
    obtain ⟨verdict, name', hverdict, hname', heffective, hevent, hconfined, hproduced⟩ :=
      link_product hstore hescalate
    have hclimbs := link_climbs hrow hname hid hstore hescalate hverdict
    obtain rfl : next = verdict.nextAction := Option.some.inj (haction.symm.trans heffective)
    obtain ⟨hchain, hnames⟩ := ih (hconfined.executed (plans_closed _) hrun) hname' hrequest
      (by rw [hrun.requestId]; exact hproduced) (by rw [hevent])
    refine ⟨.cons_cons hclimbs hchain, fun later hlater => ?_⟩
    rcases List.mem_cons.mp hlater with rfl | hlater
    · rw [hname']
      rfl
    · exact hnames later hlater

private theorem length_le_of_pairwise_lt {α : Type} {f : α → Nat} {l : List α} {bound : Nat}
    (h : l.Pairwise fun a b => f a < f b) (hbound : ∀ a ∈ l, f a < bound) : l.length ≤ bound := by
  have hnodup : (l.map f).Nodup := (List.pairwise_map.mpr h).imp Nat.ne_of_lt
  have hsub : l.map f ⊆ List.range bound := by
    intro n hn
    obtain ⟨a, ha, rfl⟩ := List.mem_map.mp hn
    exact List.mem_range.mpr (hbound a ha)
  simpa using (List.subperm_of_subset hnodup hsub).length_le

/-- The ladder of escalations ends: in every chain the actions climb from a reboot or a drain over a replacement to a
hand-off, there are at most three of them, and a hand-off is the last. -/
theorem escalation_chain_ends (hid : workflow.requestId ≠ "") (h : EscalationChain none workflow actions) :
    (∀ action ∈ actions, action ∈ [RecoveryAction.rebootNode, .drain, .replaceNode, .escalateOperator]) ∧
      actions.Pairwise (fun a b => a.rung < b.rung) ∧ actions.length ≤ 3 ∧
      ∀ i, actions[i]? = some .escalateOperator → actions.length = i + 1 := by
  have hclimbs : actions.IsChain (fun a b => a.rung < b.rung) ∧ ∀ action ∈ actions, action.escalationName.isSome := by
    cases h with
    | nil => exact ⟨.nil, fun action haction => by cases haction⟩
    | @cons _ _ produced failed store now incident first actions hstore hescalate haction hrun hnext =>
      obtain ⟨verdict, name, -, hname, heffective, hevent, hconfined, hproduced⟩ := link_product hstore hescalate
      obtain rfl : first = verdict.nextAction := Option.some.inj (haction.symm.trans heffective)
      obtain ⟨hchain, hnames⟩ := chain_climbs hnext (hconfined.executed (plans_closed _) hrun) hname hid
        (by rw [hrun.requestId]; exact hproduced) (by rw [hevent])
      refine ⟨hchain, fun action haction => ?_⟩
      rcases List.mem_cons.mp haction with rfl | haction
      · rw [hname]
        rfl
      · exact hnames action haction
  have hpairwise : actions.Pairwise fun a b => a.rung < b.rung := List.isChain_iff_pairwise.mp hclimbs.1
  refine ⟨fun action haction => ?_, hpairwise, length_le_of_pairwise_lt hpairwise fun action _ => ?_, fun i hi => ?_⟩
  · have hname := hclimbs.2 action haction
    cases action <;> simp [RecoveryAction.escalationName] at hname ⊢
  · cases action <;> simp [RecoveryAction.rung]
  · obtain ⟨hlt, hget⟩ := List.getElem?_eq_some_iff.mp hi
    by_contra hlonger
    have hlater : i + 1 < actions.length := by omega
    have hrung := List.pairwise_iff_getElem.mp hpairwise i (i + 1) hlt hlater (by omega)
    rw [hget] at hrung
    cases hlast : actions[i + 1] <;> simp [hlast, RecoveryAction.rung] at hrung

end Chain

section FailedReset

/-- A profile that owns what every rung needs. -/
private def ladderProfile : RuntimeProfile :=
  [.evidenceCapture, .schedulerDrain, .nodeReboot, .nodeReplace, .deepDiagnostics, .supportEscalation,
    .diagnosticBundleCapture].map fun capability => { capability, mode := .own, owner := some "executor" }

private def ladderStore (source : EscalationIncident) : EscalationStore :=
  { incident := fun _ => some source
    incidentByEvent := fun _ => none
    workflow := fun _ => none
    profile := fun _ => .ok ladderProfile
    gpuScope := fun _ _ _ => { gpuUuids := ["g1"], gpuUuidsByNode := [("n1", ["g1"])] } }

private def nodeIncident : EscalationIncident := { incidentId := "inc-1", eventId := "event-1", nodeIds := ["n1"] }

/-- A row whose only step failed. -/
private def failedStart (operation : WorkflowOperation) : WorkflowRequest :=
  { requestId := "workflow-1", incidentId := "inc-1", status := .failed,
    officialSteps := [{ operation, nodeIds := ["n1"], gpuUuids := ["g1"] }],
    stepExecutions := [{ stepIndex := 0, operation, status := .failed }] }

private def productOf (source : EscalationIncident) (row : WorkflowRequest) : EscalationIncident × WorkflowRequest :=
  match escalate (ladderStore source) row 0 with
  | some (.successor incident produced) => (incident, produced)
  | _ => (source, row)

/-- The row once its step at `index` failed, and the row with it. -/
private def failAt (row : WorkflowRequest) (index : Nat) (details : Details) : WorkflowRequest :=
  { recordAttempt row (row.officialSteps[index]?.getD default) index { status := .failed, details } 0 with
    status := .failed }

private theorem executed_failAt {row : WorkflowRequest} {index : Nat} (h : (row.officialSteps[index]?).isSome)
    (details : Details) : ExecutedFrom row (failAt row index details) := by
  obtain ⟨step, hstep⟩ := Option.isSome_iff_exists.mp h
  refine .tail (.single (.attempt { status := .failed, details } 0 hstep)) ?_
  unfold failAt
  rw [hstep]
  exact .settle ⟨rfl, rfl, rfl, rfl⟩ (.refl _)

private theorem ladderStore_unmerged {source : EscalationIncident} {row : WorkflowRequest} {eventId : Option String}
    (h : ∀ id ∈ eventId, source.eventId = id) : (ladderStore source).Unmerged eventId row where
  event found hfound id hid := by
    cases hfound
    exact h id hid
  recorded _ _ _ _ _ hfound _ := by cases hfound

private def rebootPair : EscalationIncident × WorkflowRequest := productOf nodeIncident (failedStart .resetGpu)

private def replacePair : EscalationIncident × WorkflowRequest := productOf rebootPair.1 (failAt rebootPair.2 3 [])

private def supportPair : EscalationIncident × WorkflowRequest := productOf replacePair.1 (failAt replacePair.2 3 [])

private theorem reset_chain :
    EscalationChain none (failedStart .resetGpu) [.rebootNode, .replaceNode, .escalateOperator] := by
  have hreboot : escalate (ladderStore nodeIncident) (failedStart .resetGpu) 0 =
      some (.successor rebootPair.1 rebootPair.2) := by rfl
  have hreplace : escalate (ladderStore rebootPair.1) (failAt rebootPair.2 3 []) 0 =
      some (.successor replacePair.1 replacePair.2) := by rfl
  have hsupport : escalate (ladderStore replacePair.1) (failAt replacePair.2 3 []) 0 =
      some (.successor supportPair.1 supportPair.2) := by rfl
  refine .cons (ladderStore_unmerged (by simp)) hreboot rfl (@executed_failAt rebootPair.2 3 rfl []) ?_
  refine .cons (ladderStore_unmerged (by simp)) hreplace rfl (@executed_failAt replacePair.2 3 rfl []) ?_
  exact .cons (ladderStore_unmerged (by simp)) hsupport rfl .refl (.nil _ _)

theorem escalation_chain_ends_reset :
    [RecoveryAction.rebootNode, .replaceNode, .escalateOperator].length ≤ 3 ∧
      [RecoveryAction.rebootNode, .replaceNode, .escalateOperator].Pairwise (fun a b => a.rung < b.rung) := by
  obtain ⟨-, hpairwise, hlength, -⟩ := escalation_chain_ends (by decide) reset_chain
  exact ⟨hlength, hpairwise⟩

end FailedReset

/-! ### A failed escalation without a successor -/

/-- A reboot or a replacement ran; or no recovery ran but those that failed, and it was planned before a failed
step. -/
def RungTried (row : WorkflowRequest) : Prop :=
  ∃ op, (op = .restartNode ∨ op = .replaceNode) ∧
    (op ∈ row.completedOperations ++ row.stepExecutions.map WorkflowStepExecution.operation ∨
      ((∀ ran ∈ row.completedOperations ++ row.stepExecutions.map WorkflowStepExecution.operation,
          ran.hardwareEscalationRelevant = true → ∃ failed ∈ failedExecutions row, failed.operation = ran) ∧
        ∃ failed ∈ failedExecutions row, failed.stepIndex < row.officialSteps.length ∧
          op ∈ (row.officialSteps.take failed.stepIndex).map WorkflowStepSpec.operation))

/-- What the failures of an escalation have to be for another rung or a hand-off to follow. -/
def Continues (row : WorkflowRequest) : Prop :=
  (∃ failed ∈ failedExecutions row, failed.details.flag "workflow_lifetime_exceeded" = true) ∨
    ((∃ failed ∈ failedExecutions row, failed.details.flag "host_diagnostic_failure" = false) ∧
      ((∀ failed ∈ failedExecutions row,
          executorRejectedFailure failed.details = true ∨ nodeActionRefusedBeforeActing failed.details = true) ∨
        (∃ failed ∈ failedExecutions row, failed.operation.noSecondTicket = false ∧
          unknownOutcomeFailure failed.details = true) ∨
        (∃ failed, latestFailedValidation row = some failed ∧ validationUnobservedFailure failed.details = true) ∨
        (∀ failed ∈ failedExecutions row, failed.operation.validation = false) ∨ RungTried row))

section Continuing

variable {row workflow produced : WorkflowRequest} {action : RecoveryAction} {execution : WorkflowStepExecution}
  {store store₀ : EscalationStore} {incident source : EscalationIncident} {now now₀ : Time}

/-- What the context of a failed validation holds. -/
private theorem mem_recoveryContextOperations {op : WorkflowOperation} :
    op ∈ recoveryContextOperations row ↔
      op ∈ row.completedOperations ++ row.stepExecutions.map WorkflowStepExecution.operation ∨
      ((∀ ran ∈ row.completedOperations ++ row.stepExecutions.map WorkflowStepExecution.operation,
          ran.hardwareEscalationRelevant = true → ∃ failed ∈ failedExecutions row, failed.operation = ran) ∧
        ∃ failed ∈ failedExecutions row, failed.stepIndex < row.officialSteps.length ∧
          op ∈ (row.officialSteps.take failed.stepIndex).map WorkflowStepSpec.operation) := by
  unfold recoveryContextOperations
  dsimp only
  split
  · rename_i hran
    obtain ⟨ran, hmem, hkind⟩ := List.any_eq_true.mp hran
    simp only [Bool.and_eq_true, Bool.not_eq_true', ← Bool.not_eq_true, List.contains_iff_mem, List.mem_map] at hkind
    constructor
    · exact .inl
    · rintro (hop | ⟨hall, -⟩)
      · exact hop
      · exact absurd (hall ran hmem hkind.2) hkind.1
  · rename_i hran
    have hall : ∀ ran ∈ row.completedOperations ++ row.stepExecutions.map WorkflowStepExecution.operation,
        ran.hardwareEscalationRelevant = true → ∃ failed ∈ failedExecutions row, failed.operation = ran := by
      intro ran hmem hrelevant
      by_contra hnot
      refine hran (List.any_eq_true.mpr ⟨ran, hmem, ?_⟩)
      simp only [hrelevant, Bool.and_true, Bool.not_eq_true', ← Bool.not_eq_true, List.contains_iff_mem, List.mem_map]
      exact hnot
    rw [List.mem_append, List.mem_flatMap]
    refine or_congr Iff.rfl ?_
    rw [and_iff_right hall]
    refine exists_congr fun failed => and_congr_right fun _ => ?_
    split
    · rename_i hlt
      rw [and_iff_right hlt]
    · rename_i hlt
      simp [hlt]

private theorem rungTried_iff :
    RungTried row ↔ (recoveryContextOperations row).contains .replaceNode = true ∨
      (recoveryContextOperations row).contains .restartNode = true := by
  rw [List.contains_iff_mem, List.contains_iff_mem, mem_recoveryContextOperations, mem_recoveryContextOperations]
  constructor
  · rintro ⟨op, rfl | rfl, h⟩
    · exact .inr h
    · exact .inl h
  · rintro (h | h)
    · exact ⟨.replaceNode, .inr rfl, h⟩
    · exact ⟨.restartNode, .inl rfl, h⟩

private theorem Confined.failed (hrow : Confined action.Plans row) (h : execution ∈ failedExecutions row) :
    execution.operation.escalates = true :=
  (hrow.operations _ (recorded_of_failed (by simpa using ⟨execution, h, rfl⟩))).1

private theorem Confined.requestedAction (hrow : Confined action.Plans row) (execution : WorkflowStepExecution) :
    requestedAction row execution = none := by
  unfold GpuFaultRecovery.requestedAction
  cases hstep : row.officialSteps[execution.stepIndex]? with
  | none => rfl
  | some step =>
    rw [Option.bind_some, (hrow.unrequested step (List.mem_of_getElem? hstep)).escalation]
    rfl

private theorem Confined.diagnostic (hrow : Confined action.Plans row) (execution : WorkflowStepExecution) :
    failedStepIsDiagnostic row execution.stepIndex execution.details =
      execution.details.flag "host_diagnostic_failure" := by
  unfold failedStepIsDiagnostic
  cases hstep : row.officialSteps[execution.stepIndex]? with
  | none => simp
  | some step => simp [preventsHardwareEscalation, (hrow.unrequested step (List.mem_of_getElem? hstep)).contract]

private theorem Confined.noReview (hrow : Confined action.Plans row) :
    activeWorkloadDcgmExecutionReview row = false := by
  have hnone : ((failedExecutions row).filter fun execution => execution.operation == .runDcgmDiagnostic) = [] := by
    rw [List.filter_eq_nil_iff]
    intro execution hexecution hop
    have hkind := hrow.failed hexecution
    rw [beq_iff_eq.mp hop] at hkind
    cases hkind
  unfold activeWorkloadDcgmExecutionReview
  simp [hnone]

private theorem Confined.noVerdict (hrow : Confined action.Plans row) :
    (noVerdictClassification row).isSome ↔
      (∃ failed ∈ failedExecutions row, failed.operation.noSecondTicket = false ∧
        unknownOutcomeFailure failed.details = true) ∨
      ∃ failed, latestFailedValidation row = some failed ∧ validationUnobservedFailure failed.details = true := by
  have hunknown : (unknownOutcomeFailures row).isEmpty = false ↔
      ∃ failed ∈ failedExecutions row, failed.operation.noSecondTicket = false ∧
        unknownOutcomeFailure failed.details = true := by
    simp [unknownOutcomeFailures]
  unfold noVerdictClassification
  split
  · rename_i hany
    exact iff_of_true rfl (.inl (hunknown.mp (by simpa using hany)))
  · rename_i hnone
    rw [or_iff_right fun h => hnone (by simpa using hunknown.mpr h)]
    split
    · rename_i hlatest
      simp [hlatest]
    · rename_i latest hlatest
      split
      · rename_i hunobserved
        exact iff_of_true rfl ⟨latest, hlatest, hunobserved⟩
      · rename_i hunobserved
        have hwithheld : withheldEscalation row latest = false := by
          simp [withheldEscalation, hrow.requestedAction]
        simp [hwithheld, hlatest, hunobserved]

private theorem Confined.not_mem (hrow : Confined action.Plans row) {op : WorkflowOperation}
    (hop : op.escalates = false) :
    op ∉ recordedOperations row := by
  intro hmem
  rw [(hrow.operations op hmem).1] at hop
  cases hop

private theorem tried_of_failed {op : WorkflowOperation} (hop : op = .restartNode ∨ op = .replaceNode)
    (h : ((failedExecutions row).map WorkflowStepExecution.operation).contains op = true) : RungTried row := by
  obtain ⟨failed, hfailed, rfl⟩ := List.mem_map.mp (List.contains_iff_mem.mp h)
  exact ⟨failed.operation, hop, .inl (List.mem_append_right _ (List.mem_map_of_mem (List.mem_filter.mp hfailed).1))⟩

/-- A failed validation of an escalation is answered where a reboot or a replacement was tried. -/
private theorem Confined.validation (hrow : Confined action.Plans row) :
    (validationVerdict (recoveryContextOperations row)).isSome ↔ RungTried row := by
  have hnot : ∀ op : WorkflowOperation, op.escalates = false → op ∉ recoveryContextOperations row :=
    fun op hop hmem => hrow.not_mem hop (recorded_of_context hmem)
  have hreset : (recoveryContextOperations row).any WorkflowOperation.reset = false := by
    rw [List.any_eq_false]
    intro op hop
    rw [(plans_closed action).resets op (hrow.operations op (recorded_of_context hop))]
    exact Bool.false_ne_true
  rw [rungTried_iff]
  unfold validationVerdict
  split
  · rename_i hreplace
    exact iff_of_true rfl (.inl hreplace)
  split
  · rename_i hrestart
    exact iff_of_true rfl (.inr hrestart)
  rename_i hreplace hrestart
  rw [List.contains_iff_mem] at hreplace hrestart
  simp [hreset, hnot _ (show WorkflowOperation.remediateDriver.escalates = false from rfl),
    hnot _ (show WorkflowOperation.updateSoftwareFirmware.escalates = false from rfl),
    hnot _ (show WorkflowOperation.runFieldDiagnostic.escalates = false from rfl),
    hnot _ (show WorkflowOperation.runNvlink74Workflow.escalates = false from rfl),
    hnot _ (show WorkflowOperation.runDcgmDiagnostic.escalates = false from rfl)]
  exact ⟨hreplace, hrestart⟩

/-- The cascade answers for an escalation unless a validation failed and nothing was tried before it. -/
private theorem Confined.ladder (hrow : Confined action.Plans row)
    (hfailed : ∃ failed ∈ failedExecutions row, failed.operation.classifiable = true) :
    (ladderVerdict row).isSome ↔
      (∀ failed ∈ failedExecutions row, failed.operation.validation = false) ∨ RungTried row := by
  have hnot : ∀ op : WorkflowOperation, op.escalates = false →
      ((failedExecutions row).map WorkflowStepExecution.operation).contains op = false :=
    fun op hop => Bool.eq_false_iff.mpr fun hmem => hrow.not_mem hop (recorded_of_failed hmem)
  have hrequested : requestedEscalations row = [] := by
    unfold requestedEscalations
    rw [List.filterMap_eq_nil_iff]
    exact fun execution _ => hrow.requestedAction execution
  unfold ladderVerdict
  dsimp only
  rw [hrequested, hnot .recoverDrainP2p rfl, hnot .runDcgmDiagnostic rfl, hnot .runFieldDiagnostic rfl,
    hnot .runNvlink74Workflow rfl, hnot .remediateDriver rfl, hnot .updateSoftwareFirmware rfl, hnot .resetGpu rfl,
    hnot .resetAllGpusNvswitches rfl]
  simp only [List.contains_nil, Bool.false_and, Bool.false_eq_true, if_false, Bool.or_self]
  split
  · rename_i hreplace
    exact iff_of_true rfl (.inr (tried_of_failed (.inr rfl) hreplace))
  rename_i hreplace
  split
  · rename_i hrestart
    exact iff_of_true rfl (.inr (tried_of_failed (.inl rfl) hrestart))
  rename_i hrestart
  split
  · rename_i hvalidation
    rw [or_iff_right, hrow.validation]
    intro hnone
    obtain ⟨op, hop, hkind⟩ := List.any_eq_true.mp hvalidation
    obtain ⟨failed, hmem, rfl⟩ := List.mem_map.mp hop
    rw [hnone failed hmem] at hkind
    cases hkind
  · rename_i hvalidation
    have hnone : ∀ failed ∈ failedExecutions row, failed.operation.validation = false := by
      simpa using hvalidation
    refine iff_of_true ?_ (.inl hnone)
    -- what is left of the classifiable operations is containment
    obtain ⟨failed, hmem, hkind⟩ := hfailed
    have hrelease : failed.operation.containmentRelease = true := by
      have hescalates := hrow.failed hmem
      have hplain := hnone failed hmem
      have hnotReplace : failed.operation ≠ .replaceNode := fun he => hreplace (by simpa using ⟨failed, hmem, he⟩)
      have hnotRestart : failed.operation ≠ .restartNode := fun he => hrestart (by simpa using ⟨failed, hmem, he⟩)
      revert hescalates hplain hnotReplace hnotRestart hkind
      cases failed.operation <;> decide
    rw [if_pos]
    · rfl
    · exact List.any_eq_true.mpr ⟨failed.operation, List.mem_map_of_mem hmem, hrelease⟩

private theorem preActionClassification_refused {failures : List WorkflowStepExecution} (hmem : execution ∈ failures)
    (haccepted : executorRejectedFailure execution.details = false)
    (h : ∀ failed ∈ failures,
      executorRejectedFailure failed.details = true ∨ nodeActionRefusedBeforeActing failed.details = true) :
    ∃ verdict, preActionClassification failures = (true, some verdict) := by
  unfold preActionClassification
  rw [if_neg (by simpa using List.ne_nil_of_mem hmem), if_neg, if_pos]
  · exact ⟨_, rfl⟩
  · simpa using h
  · intro hall
    rw [List.all_eq_true.mp hall execution hmem] at haccepted
    cases haccepted

private theorem preActionClassification_acted {failures : List WorkflowStepExecution} (hmem : execution ∈ failures)
    (haccepted : executorRejectedFailure execution.details = false)
    (h : ¬ ∀ failed ∈ failures,
      executorRejectedFailure failed.details = true ∨ nodeActionRefusedBeforeActing failed.details = true) :
    preActionClassification failures = (false, none) := by
  unfold preActionClassification
  rw [if_neg (by simpa using List.ne_nil_of_mem hmem), if_neg, if_neg]
  · exact fun hall => h (by simpa using hall)
  · intro hall
    rw [List.all_eq_true.mp hall execution hmem] at haccepted
    cases haccepted

/-- The classifier answers for a failed escalation exactly if its failures continue it. -/
private theorem Confined.classify (hrow : Confined action.Plans row)
    (hfailed : ∃ failed ∈ failedExecutions row, failed.operation.classifiable = true ∧
      executorRejectedFailure failed.details = false) :
    (GpuFaultRecovery.classify row).isSome ↔ Continues row := by
  obtain ⟨first, hfirst, hclassifiable, haccepted⟩ := hfailed
  have hne : failedExecutions row ≠ [] := List.ne_nil_of_mem hfirst
  unfold GpuFaultRecovery.classify Continues
  rw [hrow.noReview, if_neg Bool.false_ne_true]
  unfold classifyRecord
  dsimp only
  split
  · rename_i hlifetime
    exact iff_of_true rfl (.inl (by simpa using hlifetime))
  rename_i hlifetime
  rw [or_iff_right (fun h => hlifetime (by simpa using h))]
  split
  · rename_i hdiagnostic
    refine iff_of_false (by simp) ?_
    rintro ⟨⟨failed, hmem, hflag⟩, -⟩
    simp only [diagnosticWorkflowFailures, Bool.and_eq_true, List.all_eq_true] at hdiagnostic
    have hkind := hdiagnostic.2 failed hmem
    rw [hrow.diagnostic failed, hflag] at hkind
    cases hkind
  rename_i hdiagnostic
  rw [and_iff_right]
  · by_cases hrefused : ∀ failed ∈ failedExecutions row,
        executorRejectedFailure failed.details = true ∨ nodeActionRefusedBeforeActing failed.details = true
    · obtain ⟨verdict, hpre⟩ := preActionClassification_refused hfirst haccepted hrefused
      rw [hpre]
      exact iff_of_true rfl (.inl hrefused)
    rw [preActionClassification_acted hfirst haccepted hrefused, or_iff_right hrefused, ← or_assoc, ← hrow.noVerdict]
    dsimp only
    rw [if_neg Bool.false_ne_true]
    split
    · rename_i verdict hverdict
      exact iff_of_true rfl (.inl (by rw [hverdict]; rfl))
    rename_i hverdict
    rw [hverdict, or_iff_right (by simp), ← hrow.ladder ⟨first, hfirst, hclassifiable⟩]
    split
    · rename_i hladder
      rw [hladder]
      simp
    · rename_i stage next operation hladder
      have hkept :
          ((failedExecutions row).filter fun execution => execution.operation.classifiable).isEmpty = false := by
        rw [List.isEmpty_eq_false_iff_exists_mem]
        exact ⟨first, List.mem_filter.mpr ⟨hfirst, hclassifiable⟩⟩
      rw [hkept, hladder]
      simp
  · by_contra hall
    refine hdiagnostic ?_
    simp only [diagnosticWorkflowFailures, Bool.and_eq_true, List.all_eq_true]
    refine ⟨by simpa using hne, fun failed hmem => ?_⟩
    rw [hrow.diagnostic failed]
    by_contra hflag
    exact hall ⟨failed, hmem, by simpa using hflag⟩

/-- A drain, a reboot or a replacement that an escalation produced and that failed with a failure of its own: one the
cluster executor did not refuse. -/
structure FailedEscalation (incident : EscalationIncident) (row : WorkflowRequest) : Prop where
  produced : ∃ store workflow now produced, EscalationStore.Unmerged store none workflow ∧
    escalate store workflow now = some (.successor incident produced) ∧ ExecutedFrom produced row
  rung : incident.effectiveAction ≠ some .escalateOperator
  status : row.status = .failed
  failure : ∃ failed ∈ failedExecutions row, failed.operation.classifiable = true ∧
    executorRejectedFailure failed.details = false

/-- What a store holds of an escalation: its incident under its event, and the workflow of every incident it was
escalated into, since the two are written together. -/
structure EscalationStore.Holds (store : EscalationStore) (incident : EscalationIncident) (row : WorkflowRequest) :
    Prop where
  source : ∃ source, store.incident row.incidentId = some source ∧ source.eventId = incident.eventId
  linked : ∀ action name existing, RecoveryAction.escalationName action = some name →
    store.incidentByEvent (name ++ "-after-" ++ row.requestId) = some existing →
    (existing.workflowRequestId.filter (· != "")).isSome

/-- Every answer has a name, so an escalation that is classified has a successor. -/
private theorem escalate_isSuccessor {verdict : Classification} (hstatus : row.status = .failed)
    (hsource : store.incident row.incidentId = some source)
    (horigin : (escalationOrigin source.eventId).map Prod.fst ≠ some "support")
    (hlinked : ∀ action name existing, RecoveryAction.escalationName action = some name →
      store.incidentByEvent (name ++ "-after-" ++ row.requestId) = some existing →
      (existing.workflowRequestId.filter (· != "")).isSome)
    (hverdict : GpuFaultRecovery.classify row = some verdict) :
    ∃ next successor, escalate store row now = some (.successor next successor) := by
  have hname : ∃ name, verdict.nextAction.escalationName = some name := by
    have hanswers := classify_answers hverdict
    revert hanswers
    cases verdict.nextAction
    case escalateOperator => exact fun _ => ⟨_, rfl⟩
    case replaceNode => exact fun _ => ⟨_, rfl⟩
    case rebootNode => exact fun _ => ⟨_, rfl⟩
    case drain => exact fun _ => ⟨_, rfl⟩
    all_goals exact fun hanswers => hanswers.elim
  obtain ⟨name, hname⟩ := hname
  unfold escalate
  rw [if_neg (not_not.mpr hstatus), hsource]
  dsimp only
  rw [if_neg horigin, hverdict]
  dsimp only
  rw [hname]
  dsimp only
  cases hexisting : store.incidentByEvent (name ++ "-after-" ++ row.requestId) with
  | none => exact ⟨_, _, rfl⟩
  | some existing =>
    have hpointer := hlinked _ name existing hname hexisting
    dsimp only
    rw [if_neg (by rw [Option.isNone_iff_eq_none, ← Option.not_isSome_iff_eq_none]; exact not_not.mpr hpointer)]
    cases recordedSuccessor store existing with
    | none => exact ⟨_, _, rfl⟩
    | some found => exact ⟨_, _, rfl⟩

/-- A failed escalation has a successor exactly if its failures continue it. -/
theorem failed_escalation_continues_iff (hrow : FailedEscalation incident row) (hstore : store.Holds incident row) :
    (∃ next successor, escalate store row now = some (.successor next successor)) ↔ Continues row := by
  obtain ⟨store₀, workflow, now₀, produced, hunmerged, hescalate, hrun⟩ := hrow.produced
  obtain ⟨verdict, name, -, hname, heffective, hevent, hconfined, -⟩ := link_product hunmerged hescalate
  rw [← (hconfined.executed (plans_closed _) hrun).classify hrow.failure]
  constructor
  · rintro ⟨next, successor, h⟩
    obtain ⟨-, -, answer, -, -, -, hanswer, -⟩ := escalate_successor h
    rw [hanswer]
    rfl
  · intro hsome
    obtain ⟨answer, hanswer⟩ := Option.isSome_iff_exists.mp hsome
    obtain ⟨source, hsource, hsourceEvent⟩ := hstore.source
    refine escalate_isSuccessor hrow.status hsource ?_ hstore.linked hanswer
    rw [hsourceEvent, hevent, escalationOrigin_event hname]
    have hrung : verdict.nextAction ≠ .escalateOperator := fun he => hrow.rung (by rw [heffective, he])
    split
    · simp
    · intro hsupport
      revert hname
      rw [Option.map_some, Option.some_inj] at hsupport
      dsimp only at hsupport
      rw [hsupport]
      intro hname
      exact hrung (escalationName_injective hname rfl)

end Continuing

section Drained

private def drainPair : EscalationIncident × WorkflowRequest :=
  productOf nodeIncident (failedStart .runDcgmDiagnostic)

/-- The drain once its GPU validation found the node at fault. -/
private def failedDrain : WorkflowRequest := failAt drainPair.2 4 [("failed_nodes", .arr [.str "n1"])]

private theorem failedDrain_failed : FailedEscalation drainPair.1 failedDrain where
  produced :=
    ⟨ladderStore nodeIncident, failedStart .runDcgmDiagnostic, 0, drainPair.2, ladderStore_unmerged (by simp),
    by rfl, @executed_failAt drainPair.2 4 rfl _⟩
  rung := by decide
  status := rfl
  failure := ⟨_, List.mem_singleton.mpr rfl, by decide, by decide⟩

private theorem ladderStore_holds (row : WorkflowRequest) : (ladderStore drainPair.1).Holds drainPair.1 row where
  source := ⟨_, rfl, rfl⟩
  linked _ _ _ _ hfound := by cases hfound

/-- A drain whose validation fails is followed by nothing: no rung, and no operator. -/
theorem failed_drain_dead_end :
    FailedEscalation drainPair.1 failedDrain ∧ (ladderStore drainPair.1).Holds drainPair.1 failedDrain ∧
      failedDrain.officialSteps.map WorkflowStepSpec.operation =
        [.freezeEvidence, .markUnschedulable, .quarantine, .collectDiagnosticBundle, .validateGpu, .escalateSupport] ∧
      escalate (ladderStore drainPair.1) failedDrain 0 = some .nothing :=
  ⟨failedDrain_failed, ladderStore_holds failedDrain, by rfl, by rfl⟩

theorem failed_escalation_continues_iff_drain :
    (∃ next successor, escalate (ladderStore drainPair.1) failedDrain 0 = some (.successor next successor)) ↔
      Continues failedDrain :=
  failed_escalation_continues_iff failedDrain_failed (ladderStore_holds failedDrain)

end Drained

end GpuFaultRecovery
